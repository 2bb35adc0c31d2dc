/-
  Lib.Annuity — payments of one amount at one rate.

  `presentValue rate payment n` is the debt that `n` payments repay.  A debt
  below it, after interest and one payment, is below what the rest repay.

  Main results:
    * `presentValue_mul_rate` — the closed form.
    * `after_payment_le` — the step of a repayment.
-/
import Mathlib.Algebra.Order.Field.Basic
import Mathlib.Tactic.FieldSimp
import Mathlib.Tactic.Linarith
import Mathlib.Tactic.Ring

namespace Lib.Annuity

variable {K : Type*} [Field K] [LinearOrder K] [IsStrictOrderedRing K]

/-- The debt that `n` payments at the end of as many periods repay. -/
def presentValue (rate payment : K) : ℕ → K
  | 0 => 0
  | n + 1 => (presentValue rate payment n + payment) / (1 + rate)

variable {rate payment : K}

theorem presentValue_zero_rate (payment : K) (n : ℕ) : presentValue 0 payment n = n * payment := by
  induction n with
  | zero => simp [presentValue]
  | succ n ih =>
    show (presentValue 0 payment n + payment) / (1 + 0) = _
    rw [ih]
    push_cast
    ring

theorem presentValue_mul_rate (hrate : 0 ≤ rate) (n : ℕ) :
    presentValue rate payment n * rate = payment * (1 - ((1 + rate) ^ n)⁻¹) := by
  have hne : 1 + rate ≠ 0 := by positivity
  induction n with
  | zero => simp [presentValue]
  | succ n ih =>
    show (presentValue rate payment n + payment) / (1 + rate) * rate = _
    have hpow : ((1 + rate) ^ (n + 1))⁻¹ = ((1 + rate) ^ n)⁻¹ / (1 + rate) := by
      rw [pow_succ, mul_inv, div_eq_mul_inv]
    rw [hpow]
    have hstep : (presentValue rate payment n + payment) / (1 + rate) * rate
        = (presentValue rate payment n * rate + payment * rate) / (1 + rate) := by ring
    rw [hstep, ih, div_eq_iff hne]
    field_simp
    ring

theorem after_payment_le (hrate : 0 ≤ rate) {debt : K} {n : ℕ}
    (h : debt ≤ presentValue rate payment (n + 1)) :
    debt + rate * debt - payment ≤ presentValue rate payment n := by
  have hpos : 0 < 1 + rate := by linarith
  have hmul : debt * (1 + rate) ≤ presentValue rate payment n + payment :=
    (le_div_iff₀ hpos).mp h
  linarith

end Lib.Annuity
