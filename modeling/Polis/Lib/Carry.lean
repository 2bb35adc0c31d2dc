/-
  Lib.Carry — division of amounts that arrive one by one.

  Each amount is added to what is left of the earlier ones, the quotient is
  handed out, the remainder is left.  Nothing is lost to the rounding: what
  has been handed out is the quotient of all amounts together.

  Main results:
    * `Exact.add` — one more amount keeps the account exact.
-/
import Mathlib.Algebra.Ring.Int.Defs
import Mathlib.Tactic.Ring

namespace Lib.Carry

/-- What has been handed out, and what is left. -/
structure Account where
  total : ℤ
  left : ℤ

/-- One more amount. -/
def Account.add (d n : ℤ) (c : Account) : Account where
  total := c.total + Int.fdiv (n + c.left) d
  left := Int.fmod (n + c.left) d

/-- The account is exact: quotient and remainder of the sum. -/
def Exact (d sum : ℤ) (c : Account) : Prop := c.total = Int.fdiv sum d ∧ c.left = Int.fmod sum d

@[simp] theorem exact_zero (d : ℤ) : Exact d 0 ⟨0, 0⟩ := ⟨by simp, by simp⟩

theorem Exact.add {d sum : ℤ} {c : Account} (hd : d ≠ 0) (h : Exact d sum c) (n : ℤ) :
    Exact d (sum + n) (c.add d n) := by
  obtain ⟨htotal, hleft⟩ := h
  -- the sum so far is its remainder and whole divisors
  have hsum : sum + n = n + Int.fmod sum d + Int.fdiv sum d * d := by
    have := Int.fmod_add_fdiv_mul sum d
    omega
  constructor
  · show c.total + Int.fdiv (n + c.left) d = _
    rw [hsum, Int.add_mul_fdiv_right _ _ hd, htotal, hleft]
    ring
  · show Int.fmod (n + c.left) d = _
    rw [hsum, hleft, Int.add_mul_fmod_self_right]

end Lib.Carry
