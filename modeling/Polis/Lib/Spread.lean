/-
  Lib.Spread — units spread evenly over a period.

  `g` units are spread over `n` ticks: by tick `t` the floor of
  `(t * g + p) / n` units are due, `p` the phase.  Over any period the units
  due add up to `g`.  Read only at the multiples of `b`, they do exactly when
  every unit falls due at such a multiple.

  Main results:
    * `sum_due` — a whole period has `g` units due.
    * `sum_due_sampled_iff` — when the multiples of `b` see all of them.
-/
import Mathlib.Algebra.BigOperators.Intervals
import Mathlib.Algebra.Order.BigOperators.Group.Finset
import Mathlib.Data.Int.Interval
import Mathlib.Tactic.Linarith
import Mathlib.Tactic.Ring

namespace Lib.Spread

open Finset

variable {g p n : ℤ}

/-- The units due by tick `t`. -/
def dueBy (g p n t : ℤ) : ℤ := (t * g + p) / n

/-- The units that fall due at tick `t`. -/
def due (g p n t : ℤ) : ℤ := dueBy g p n t - dueBy g p n (t - 1)

theorem dueBy_add_period (hn : 0 < n) (t k : ℤ) : dueBy g p n (t + k * n) = dueBy g p n t + k * g := by
  unfold dueBy
  have hsplit : (t + k * n) * g + p = t * g + p + k * g * n := by ring
  rw [hsplit, Int.add_mul_ediv_right _ _ hn.ne']

theorem due_add_period (hn : 0 < n) (t k : ℤ) : due g p n (t + k * n) = due g p n t := by
  unfold due
  have hshift : t + k * n - 1 = t - 1 + k * n := by ring
  rw [hshift, dueBy_add_period hn, dueBy_add_period hn]
  ring

theorem due_nonneg (hn : 0 < n) (hg : 0 ≤ g) (t : ℤ) : 0 ≤ due g p n t := by
  unfold due dueBy
  have hle : (t - 1) * g + p ≤ t * g + p := by
    have : (t - 1) * g ≤ t * g := mul_le_mul_of_nonneg_right (by omega) hg
    omega
  have := Int.ediv_le_ediv hn hle
  omega

/-! ## Sums -/

theorem sum_due_range (s : ℤ) (k : ℕ) :
    ∑ i ∈ range k, due g p n (s + i) = dueBy g p n (s + k - 1) - dueBy g p n (s - 1) := by
  induction k with
  | zero => simp
  | succ k ih =>
    rw [sum_range_succ, ih]
    unfold due
    have hlast : s + ((k + 1 : ℕ) : ℤ) - 1 = s + k := by push_cast; ring
    rw [hlast]
    ring

theorem sum_due {m : ℕ} (hn : 0 < (m : ℤ)) (s : ℤ) : ∑ i ∈ range m, due g p m (s + i) = g := by
  rw [sum_due_range]
  have hshift : s + (m : ℤ) - 1 = s - 1 + 1 * m := by ring
  rw [hshift, dueBy_add_period hn]
  ring

theorem sum_due_filter_iff {m : ℕ} (hn : 0 < (m : ℤ)) (hg : 0 ≤ g) (s : ℤ) (seen : ℤ → Prop)
    [DecidablePred seen] :
    ∑ i ∈ (range m).filter (fun i : ℕ => seen (s + i)), due g p m (s + i) = g ↔
      ∀ i < m, ¬seen (s + i) → due g p m (s + i) = 0 := by
  have hsplit := sum_filter_add_sum_filter_not (range m) (fun i : ℕ => seen (s + i))
    fun i => due g p m (s + i)
  rw [sum_due hn] at hsplit
  have hrest : ∑ i ∈ (range m).filter (fun i : ℕ => ¬seen (s + i)), due g p m (s + i) = 0 ↔
      ∀ i < m, ¬seen (s + i) → due g p m (s + i) = 0 := by
    rw [sum_eq_zero_iff_of_nonneg fun i _ => due_nonneg hn hg _]
    simp only [mem_filter, mem_range, and_imp]
  rw [← hrest]
  constructor <;> intro h <;> omega

/-! ## Where the units fall due -/

/-- The tick at which unit `m` falls due. -/
def dueTick (g p n m : ℤ) : ℤ := -((p - m * n) / g)

theorem dueTick_spec (hg : 0 < g) (m : ℤ) :
    m * n ≤ dueTick g p n m * g + p ∧ (dueTick g p n m - 1) * g + p < m * n := by
  unfold dueTick
  have hmul := Int.mul_ediv_add_emod (p - m * n) g
  have hlow := Int.emod_nonneg (p - m * n) hg.ne'
  have hhigh := Int.emod_lt_of_pos (p - m * n) hg
  constructor <;> nlinarith

theorem due_dueTick_pos (hg : 0 < g) (hn : 0 < n) (m : ℤ) : 0 < due g p n (dueTick g p n m) := by
  obtain ⟨hlow, hhigh⟩ := dueTick_spec (p := p) (n := n) hg m
  have hafter : m ≤ dueBy g p n (dueTick g p n m) := (Int.le_ediv_iff_mul_le hn).mpr hlow
  have hbefore : dueBy g p n (dueTick g p n m - 1) < m := Int.ediv_lt_of_lt_mul hn hhigh
  unfold due
  omega

/-! ## Sampling at the multiples of a number -/

section Sampled

variable {b d : ℤ}

theorem eq_of_close (hb : 1 < b) (hg : 0 < g) {x y : ℤ} (hx : b ∣ x) (hy : b ∣ y)
    (hclose : (x - y) * g < 2 * g ∧ (y - x) * g < 2 * g) : x = y := by
  have hxy : x - y < 2 := lt_of_mul_lt_mul_right hclose.1 hg.le
  have hyx : y - x < 2 := lt_of_mul_lt_mul_right hclose.2 hg.le
  have hdvd : b ∣ x - y := Int.dvd_sub hx hy
  have hzero : x - y = 0 := Int.eq_zero_of_abs_lt_dvd hdvd (by rw [abs_lt]; omega)
  omega

theorem dueTick_spaced (hb : 1 < b) (hg : 0 < g) (h : ∀ m, b ∣ dueTick g p n m) (k : ℕ) :
    dueTick g p n k = dueTick g p n 0 + k * (dueTick g p n 1 - dueTick g p n 0) := by
  induction k with
  | zero => simp
  | succ k ih =>
    have hstep : dueTick g p n (k + 1) - dueTick g p n k = dueTick g p n 1 - dueTick g p n 0 := by
      obtain ⟨hl₀, hh₀⟩ := dueTick_spec (p := p) (n := n) hg 0
      obtain ⟨hl₁, hh₁⟩ := dueTick_spec (p := p) (n := n) hg 1
      obtain ⟨hl₂, hh₂⟩ := dueTick_spec (p := p) (n := n) hg (k : ℤ)
      obtain ⟨hl₃, hh₃⟩ := dueTick_spec (p := p) (n := n) hg ((k : ℤ) + 1)
      refine eq_of_close hb hg (Int.dvd_sub (h _) (h _)) (Int.dvd_sub (h _) (h _)) ?_
      constructor <;> nlinarith
    push_cast
    linarith

theorem due_at_multiples_iff (hb : 0 < b) (hd : 0 < d) (hg : 0 < g) :
    (∀ t, ¬b ∣ t → due g p (d * b) t = 0) ↔ b = 1 ∨ (g ∣ d ∧ b ∣ p / g) := by
  have hn : 0 < d * b := mul_pos hd hb
  constructor
  · intro h
    by_cases hone : b = 1
    · exact .inl hone
    have hb' : 1 < b := by omega
    have hticks : ∀ m, b ∣ dueTick g p (d * b) m := by
      intro m
      by_contra hnot
      have := due_dueTick_pos (p := p) hg hn m
      rw [h _ hnot] at this
      omega
    refine .inr ⟨?_, ?_⟩
    · -- after g units a whole period has passed
      have hspaced := dueTick_spaced hb' hg hticks g.toNat
      rw [Int.toNat_of_nonneg hg.le] at hspaced
      have hperiod : dueTick g p (d * b) g = dueTick g p (d * b) 0 + d * b := by
        unfold dueTick
        have hsplit : p - g * (d * b) = p - 0 * (d * b) + (-(d * b)) * g := by ring
        rw [hsplit, Int.add_mul_ediv_right _ _ hg.ne']
        ring
      obtain ⟨e, he⟩ := Int.dvd_sub (hticks 1) (hticks 0)
      rw [hperiod, he] at hspaced
      refine ⟨e, mul_right_cancel₀ hb.ne' ?_⟩
      linarith
    · have hzero := hticks 0
      unfold dueTick at hzero
      rw [zero_mul, sub_zero, Int.dvd_neg] at hzero
      exact hzero
  · rintro (rfl | ⟨⟨q, rfl⟩, ⟨r, hr⟩⟩) t hnot
    · exact absurd (one_dvd t) hnot
    · -- the units due by a tick are those due by the last multiple of b
      have hq : 0 < q := pos_of_mul_pos_right hd hg.le
      have hread : ∀ u, dueBy g p (g * q * b) u = (u / b + r) / q := by
        intro u
        unfold dueBy
        calc (u * g + p) / (g * q * b)
            = (u * g + p) / g / (b * q) := by
              rw [Int.ediv_ediv_of_nonneg hg.le]
              ring_nf
          _ = (p / g + u) / (b * q) := by
              rw [add_comm (u * g), Int.add_mul_ediv_right _ _ hg.ne']
          _ = (u + b * r) / b / q := by
              rw [hr, add_comm, Int.ediv_ediv_of_nonneg hb.le]
          _ = (u / b + r) / q := by rw [Int.add_mul_ediv_left _ _ hb.ne']
      unfold due
      rw [hread, hread]
      have hsame : t / b = (t - 1) / b := by
        have hpos : 0 < t % b := by
          have hnonneg := Int.emod_nonneg t hb.ne'
          have hne : t % b ≠ 0 := fun h => hnot (Int.dvd_of_emod_eq_zero h)
          omega
        have hmul := Int.mul_ediv_add_emod t b
        have hlt := Int.emod_lt_of_pos t hb
        have : t - 1 = (t % b - 1) + b * (t / b) := by linarith
        have hzero : (t % b - 1) / b = 0 := Int.ediv_eq_zero_of_lt (by omega) (by omega)
        rw [this, Int.add_mul_ediv_left _ _ hb.ne', hzero, zero_add]
      rw [hsame]
      ring

theorem sum_due_sampled_iff (hb : 0 < b) (hd : 0 < d) (hg : 0 < g) {m : ℕ} (hm : (m : ℤ) = d * b)
    (s : ℤ) :
    ∑ i ∈ (range m).filter (fun i : ℕ => b ∣ s + i), due g p m (s + i) = g ↔
      b = 1 ∨ (g ∣ d ∧ b ∣ p / g) := by
  have hn : 0 < (m : ℤ) := by
    rw [hm]
    exact mul_pos hd hb
  rw [sum_due_filter_iff hn hg.le, ← due_at_multiples_iff hb hd hg, ← hm]
  refine ⟨fun h t hnot => ?_, fun h i _ hnot => h _ hnot⟩
  -- the tick is moved into the window by whole periods
  have hmod := Int.emod_nonneg (t - s) hn.ne'
  have hlt := Int.emod_lt_of_pos (t - s) hn
  have hmul := Int.mul_ediv_add_emod (t - s) m
  obtain ⟨i, hi⟩ := Int.eq_ofNat_of_zero_le hmod
  have hmoved : s + (i : ℤ) = t + (-((t - s) / m)) * m := by
    rw [← hi]
    linarith
  have hwindow := h i (by omega)
  rw [hmoved, due_add_period hn] at hwindow
  refine hwindow fun hdvd => hnot ?_
  have hback : b ∣ (-((t - s) / m)) * (m : ℤ) := by
    rw [hm]
    exact Dvd.dvd.mul_left (Dvd.intro_left d rfl) _
  exact (Int.dvd_add_left hback).mp hdvd

end Sampled

end Lib.Spread
