/-
  Lib.DivideTwice — a total divided by the quotient of an earlier division.

  A total `n` is divided by a rate `w`, and then by the quotient.  Without
  rounding this gives `w` back; with integer division it gives `w` back when
  the total is large against it, and otherwise the rates that land at most, or
  at least, at a given value are an interval.

  Main results:
    * `twice_eq_self` — a large total gives the rate back.
    * `twice_le_iff`, `le_twice_iff` — the rates that land below, or above, a
      value.
-/
import Mathlib.Algebra.Order.Ring.Int
import Mathlib.Tactic.Ring
import Mathlib.Tactic.Linarith

namespace Lib.DivideTwice

/-- The total by the quotient of the total by the rate, no divisor below one. -/
def twice (n w : ℤ) : ℤ := n / max 1 (n / max 1 w)

variable {n w : ℤ}

theorem twice_eq (hw : 1 ≤ w) : twice n w = n / max 1 (n / w) := by
  unfold twice
  rw [max_eq_right hw]

theorem twice_eq_self (hw : 1 ≤ w) (h : w * w ≤ n) : twice n w = w := by
  have hpos : 0 < w := by omega
  have hq : w ≤ n / w := (Int.le_ediv_iff_mul_le hpos).mpr h
  have hqpos : 0 < n / w := by omega
  rw [twice_eq hw, max_eq_right (by omega : 1 ≤ n / w)]
  apply le_antisymm
  · -- the remainder of the first division is below the second divisor
    have hrem : n < (n / w + 1) * w := Int.lt_ediv_add_one_mul_self n hpos
    have hlt : n / (n / w) < w + 1 := by
      refine (Int.ediv_lt_iff_lt_mul hqpos).mpr ?_
      calc n < (n / w + 1) * w := hrem
        _ = w * (n / w) + w := by ring
        _ ≤ w * (n / w) + n / w := by omega
        _ = (w + 1) * (n / w) := by ring
    omega
  · exact (Int.le_ediv_iff_mul_le hqpos).mpr (by rw [mul_comm]; exact Int.ediv_mul_le n hpos.ne')

theorem twice_nonneg (hn : 0 ≤ n) : 0 ≤ twice n w :=
  Int.ediv_nonneg hn (le_trans zero_le_one (le_max_left _ _))

theorem twice_le_iff (hn : 0 ≤ n) (hw : 1 ≤ w) {f : ℤ} (hf : 0 ≤ f) :
    twice n w ≤ f ↔ n ≤ f ∨ w ≤ n / (n / (f + 1) + 1) := by
  have hq : 0 ≤ n / (f + 1) := Int.ediv_nonneg hn (by omega)
  have hd : 0 < max 1 (n / w) := lt_of_lt_of_le zero_lt_one (le_max_left _ _)
  have hsmall : n / (f + 1) < 1 ↔ n ≤ f := by
    rw [Int.ediv_lt_iff_lt_mul (by omega), one_mul]
    exact Int.lt_add_one_iff
  have hlarge : n / (f + 1) < n / w ↔ w ≤ n / (n / (f + 1) + 1) := by
    rw [← Int.add_one_le_iff, Int.le_ediv_iff_mul_le (by omega : 0 < w),
      Int.le_ediv_iff_mul_le (by omega : 0 < n / (f + 1) + 1), mul_comm]
  rw [twice_eq hw, ← Int.lt_add_one_iff, Int.ediv_lt_iff_lt_mul hd, mul_comm,
    ← Int.ediv_lt_iff_lt_mul (by omega : 0 < f + 1), lt_max_iff, hsmall, hlarge]

theorem le_twice_iff (hn : 0 ≤ n) (hw : 1 ≤ w) (g : ℤ) :
    g ≤ twice n w ↔ g ≤ 0 ∨ g ≤ n ∧ n / (n / g + 1) < w := by
  by_cases hg : g ≤ 0
  · exact ⟨fun _ => .inl hg, fun _ => hg.trans (twice_nonneg hn)⟩
  have hpos : 0 < g := by omega
  have hq : 0 ≤ n / g := Int.ediv_nonneg hn hpos.le
  have hd : 0 < max 1 (n / w) := lt_of_lt_of_le zero_lt_one (le_max_left _ _)
  have hsmall : 1 ≤ n / g ↔ g ≤ n := by
    rw [Int.le_ediv_iff_mul_le hpos, one_mul]
  have hlarge : n / w ≤ n / g ↔ n / (n / g + 1) < w := by
    rw [← Int.lt_add_one_iff, Int.ediv_lt_iff_lt_mul (by omega : 0 < w),
      Int.ediv_lt_iff_lt_mul (by omega : 0 < n / g + 1), mul_comm]
  rw [twice_eq hw, Int.le_ediv_iff_mul_le hd, mul_comm, ← Int.le_ediv_iff_mul_le hpos,
    max_le_iff, hsmall, hlarge]
  simp only [hg, false_or]

theorem abs_twice_sub_le_one_iff {v : ℤ} (hw : 1 ≤ w) (hn : 4 ≤ n) (h : 4 * (v * v) ≤ n)
    (hv : |v| + 1 < n) : |twice n w - v| ≤ 1 ↔ |w - v| ≤ 1 := by
  by_cases hnear : w ≤ |v| + 1
  · -- the rate itself comes back
    have hsq : w * w ≤ n := by
      rcases abs_cases v with ⟨ha, hs⟩ | ⟨ha, hs⟩
      · rw [ha] at hnear
        rcases (show v = 0 ∨ 1 ≤ v by omega) with rfl | hv1
        · have : w = 1 := by omega
          subst this
          omega
        · nlinarith
      · rw [ha] at hnear
        nlinarith
    rw [twice_eq_self hw hsq]
  · -- a rate above the level lands above it
    have hle := le_abs_self v
    have hfar : |v| + 2 ≤ twice n w := by
      refine (le_twice_iff (by omega) hw _).mpr (.inr ⟨by omega, ?_⟩)
      have hpos : 0 ≤ |v| := abs_nonneg v
      have hquot : 0 ≤ n / (|v| + 2) := Int.ediv_nonneg (by omega) (by omega)
      have hlt : n / (n / (|v| + 2) + 1) < |v| + 2 := by
        rw [Int.ediv_lt_iff_lt_mul (by omega), mul_comm]
        exact Int.lt_ediv_add_one_mul_self n (by omega)
      omega
    constructor
    · intro hx
      rw [abs_le] at hx
      omega
    · intro hx
      rw [abs_le] at hx
      omega

end Lib.DivideTwice
