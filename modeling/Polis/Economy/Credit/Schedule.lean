/-
  Polis.Economy.Credit.Schedule — `schedule` (`economy/credit.py`).

  A loan is repaid in level payments: interest on what is outstanding, rounded
  down, and the rest of the payment off the principal.  The last payment takes
  whatever is left.  Rates and raw payments are exact rationals here.

  Main results:
    * `payments_repay` — the loop repays what it starts with.
    * `payments_le_level` — it never pays more than the level payment.
    * `schedule_repays` — a whole schedule.
-/
import Mathlib.Algebra.Order.Floor.Ring
import Mathlib.Data.Rat.Floor
import Polis.Base
import Polis.Lib.Annuity

namespace Polis.Economy.Credit

open Lib.Annuity

/-! ## The function -/

/-- `Payment`. -/
structure Payment where
  number : Nat
  principalCents : Int
  interestCents : Int
  paymentCents : Int
  outstandingAfterCents : Int
  deriving Repr, DecidableEq

/-- `periodic_rate`. -/
def periodicRate (annualRateBp intervalTicks ticksPerYear : Int) : ℚ :=
  annualRateBp / 10000 * intervalTicks / ticksPerYear

/-- `raw_payment`. -/
def rawPayment (principalCents : Int) (rate : ℚ) (periods : Nat) : ℚ :=
  if 0 < rate then principalCents * rate / (1 - ((1 + rate) ^ periods)⁻¹)
  else principalCents / periods

/-- `level_payment`. -/
def levelPayment (principalCents : Int) (rate : ℚ) (periods : Nat) : Int :=
  ⌈rawPayment principalCents rate periods⌉

/-- The interest of one period. -/
def interestOn (outstanding : Int) (rate : ℚ) : Int := ⌊(outstanding : ℚ) * rate⌋

/-- The loop over the periods, with as many of them left. -/
def payments (rate : ℚ) (level : Int) (periods : Nat) : Nat → Int → List Payment
  | 0, _ => []
  | left + 1, outstanding =>
    let interest := interestOn outstanding rate
    let principal := if left = 0 then outstanding
      else min outstanding (max 1 (level - interest))
    let after := outstanding - principal
    ⟨periods - left, principal, interest, principal + interest, after⟩ ::
      -- `if outstanding == 0: break`
      if after = 0 then [] else payments rate level periods left after

/-- `periods`. -/
def periodsOf (termTicks intervalTicks : Int) : Nat :=
  (max 1 ((termTicks + intervalTicks - 1) / intervalTicks)).toNat

/-- `schedule(principal_cents, annual_rate_bp, term_ticks, interval_ticks,
ticks_per_year=)`. -/
def schedule (principalCents annualRateBp termTicks intervalTicks : Int)
    (ticksPerYear : Int := 360) : Except PyError (List Payment) :=
  if principalCents ≤ 0 ∨ termTicks ≤ 0 ∨ intervalTicks ≤ 0 then
    .error (.value "principal, term, and interval must be positive")
  else if ticksPerYear = 0 then .error .zeroDivision
  else
    let periods := periodsOf termTicks intervalTicks
    let rate := periodicRate annualRateBp intervalTicks ticksPerYear
    .ok (payments rate (levelPayment principalCents rate periods) periods periods principalCents)

/-! ## What a schedule should be -/

/-- Payments that repay a debt: interest on the debt, at least a cent off the
principal, and the payments after it repay the rest. -/
def Repays (rate : ℚ) : Int → List Payment → Prop
  | outstanding, [] => outstanding = 0
  | outstanding, p :: ps =>
    p.interestCents = ⌊rate * outstanding⌋ ∧ 1 ≤ p.principalCents ∧
      p.paymentCents = p.principalCents + p.interestCents ∧
      p.outstandingAfterCents = outstanding - p.principalCents ∧
      Repays rate p.outstandingAfterCents ps

variable {rate : ℚ} {level : Int} {periods : Nat}

theorem Repays.sum {outstanding : Int} {ps : List Payment} (h : Repays rate outstanding ps) :
    (ps.map Payment.principalCents).sum = outstanding := by
  induction ps generalizing outstanding with
  | nil => exact h.symm
  | cons p ps ih =>
    obtain ⟨-, -, -, hafter, hrest⟩ := h
    have hsum := ih hrest
    simp only [List.map_cons, List.sum_cons]
    omega

theorem Repays.one_le {outstanding : Int} {ps : List Payment} (h : Repays rate outstanding ps) :
    ∀ p ∈ ps, 1 ≤ p.principalCents := by
  induction ps generalizing outstanding with
  | nil => simp
  | cons p ps ih =>
    obtain ⟨-, hone, -, -, hrest⟩ := h
    intro q hq
    rcases List.mem_cons.mp hq with rfl | hq
    · exact hone
    · exact ih hrest q hq

theorem Repays.decreasing {outstanding : Int} {ps : List Payment} (h : Repays rate outstanding ps) :
    (outstanding :: ps.map Payment.outstandingAfterCents).IsChain (· > ·) := by
  induction ps generalizing outstanding with
  | nil => simp
  | cons p ps ih =>
    obtain ⟨-, hone, -, hafter, hrest⟩ := h
    rw [List.map_cons, List.isChain_cons_cons]
    constructor
    · show p.outstandingAfterCents < outstanding
      omega
    · exact ih hrest

theorem Repays.last {outstanding : Int} {ps : List Payment} (h : Repays rate outstanding ps) :
    (outstanding :: ps.map Payment.outstandingAfterCents).getLast? = some 0 := by
  induction ps generalizing outstanding with
  | nil =>
    have hzero : outstanding = 0 := h
    simp [hzero]
  | cons p ps ih =>
    obtain ⟨-, -, -, -, hrest⟩ := h
    rw [List.map_cons, List.getLast?_cons_cons]
    exact ih hrest

/-! ## The loop -/

theorem payments_length (n : Nat) (outstanding : Int) :
    (payments rate level periods n outstanding).length ≤ n := by
  induction n generalizing outstanding with
  | zero => simp [payments]
  | succ n ih =>
    unfold payments
    dsimp only
    split_ifs
    · simp
    · simp only [List.length_cons]
      have := ih (outstanding - outstanding)
      omega
    · simp
    · simp only [List.length_cons]
      have := ih (outstanding - min outstanding (max 1 (level - interestOn outstanding rate)))
      omega

theorem payments_repay {n : Nat} {outstanding : Int} (hn : 0 < n) (hpos : 0 < outstanding) :
    Repays rate outstanding (payments rate level periods n outstanding) := by
  induction n generalizing outstanding with
  | zero => omega
  | succ n ih =>
    unfold payments
    dsimp only
    have hinterest : interestOn outstanding rate = ⌊rate * outstanding⌋ := by
      unfold interestOn
      rw [mul_comm]
    by_cases hlast : n = 0
    · rw [if_pos hlast, if_pos (by omega)]
      exact ⟨hinterest, hpos, rfl, rfl, by show outstanding - outstanding = 0; omega⟩
    · rw [if_neg hlast]
      refine ⟨hinterest, ?_, rfl, rfl, ?_⟩
      · show 1 ≤ min outstanding (max 1 (level - interestOn outstanding rate))
        omega
      · show Repays rate (outstanding - min outstanding
          (max 1 (level - interestOn outstanding rate))) _
        split_ifs with hzero
        · exact hzero
        · exact ih (by omega) (by omega)

theorem interestOn_mono (hrate : 0 ≤ rate) {a b : Int} (h : a ≤ b) :
    interestOn a rate ≤ interestOn b rate := by
  unfold interestOn
  apply Int.floor_le_floor
  have hcast : (a : ℚ) ≤ b := by exact_mod_cast h
  exact mul_le_mul_of_nonneg_right hcast hrate

theorem payments_le_level (hrate : 0 ≤ rate) {n : Nat} {outstanding : Int}
    (hworth : (outstanding : ℚ) ≤ presentValue rate (level : ℚ) n)
    (hfirst : interestOn outstanding rate < level) :
    ∀ p ∈ payments rate level periods n outstanding, p.paymentCents ≤ level := by
  induction n generalizing outstanding with
  | zero =>
    intro p hp
    simp [payments] at hp
  | succ n ih =>
    have hafter := after_payment_le hrate hworth
    have hfloor : ((interestOn outstanding rate : Int) : ℚ) ≤ rate * outstanding := by
      unfold interestOn
      rw [mul_comm]
      exact Int.floor_le _
    intro p hp
    unfold payments at hp
    dsimp only at hp
    rcases List.mem_cons.mp hp with rfl | hp
    · -- the payment of this period
      show (if n = 0 then outstanding else min outstanding
        (max 1 (level - interestOn outstanding rate))) + interestOn outstanding rate ≤ level
      split_ifs with hlast
      · -- the last one: the debt with interest is worth one payment
        subst hlast
        have hzero : (outstanding : ℚ) + rate * outstanding - level ≤ 0 := hafter
        have hcast : ((outstanding + interestOn outstanding rate : Int) : ℚ) ≤ level := by
          push_cast
          linarith
        exact_mod_cast hcast
      · omega
    · -- a later payment
      split_ifs at hp with hlast hzero hzero
      · simp at hp
      · omega
      · simp at hp
      · have hrest : outstanding - min outstanding (max 1 (level - interestOn outstanding rate))
            ≤ outstanding + interestOn outstanding rate - level := by omega
        refine ih ?_ ?_ p hp
        · have hcast : ((outstanding - min outstanding
              (max 1 (level - interestOn outstanding rate)) : Int) : ℚ)
              ≤ ((outstanding + interestOn outstanding rate - level : Int) : ℚ) := by
            exact_mod_cast hrest
          push_cast at hcast ⊢
          linarith
        · have hmono := @interestOn_mono rate hrate (outstanding - min outstanding
            (max 1 (level - interestOn outstanding rate))) outstanding (by omega)
          omega

/-! ## The schedule -/

theorem presentValue_rawPayment (hrate : 0 ≤ rate) {principal : Int} {n : Nat} (hn : 0 < n) :
    presentValue rate (rawPayment principal rate n) n = principal := by
  have hn' : (n : ℚ) ≠ 0 := by exact_mod_cast hn.ne'
  unfold rawPayment
  split_ifs with hpos
  · have hclosed := @presentValue_mul_rate ℚ _ _ _ rate
      ((principal : ℚ) * rate / (1 - ((1 + rate) ^ n)⁻¹)) hpos.le n
    have hone : 1 < (1 + rate) ^ n := one_lt_pow₀ (by linarith) hn.ne'
    have hden : (1 : ℚ) - ((1 + rate) ^ n)⁻¹ ≠ 0 := by
      have hinv := inv_lt_one_of_one_lt₀ hone
      intro hzero
      linarith
    rw [div_mul_cancel₀ _ hden] at hclosed
    exact mul_right_cancel₀ hpos.ne' hclosed
  · have hzero : rate = 0 := le_antisymm (not_lt.mp hpos) hrate
    rw [hzero, presentValue_zero_rate]
    field_simp

theorem presentValue_mono (hrate : 0 ≤ rate) {a b : ℚ} (h : a ≤ b) (n : Nat) :
    presentValue rate a n ≤ presentValue rate b n := by
  induction n with
  | zero => exact le_refl _
  | succ n ih =>
    show (presentValue rate a n + a) / (1 + rate) ≤ (presentValue rate b n + b) / (1 + rate)
    gcongr

theorem periodsOf_pos (termTicks intervalTicks : Int) : 0 < periodsOf termTicks intervalTicks := by
  unfold periodsOf
  omega

theorem periodsOf_eq {termTicks intervalTicks : Int} (hterm : 0 < termTicks)
    (hinterval : 0 < intervalTicks) :
    (periodsOf termTicks intervalTicks : Int) = ⌈(termTicks : ℚ) / intervalTicks⌉ := by
  have hone : 1 ≤ (termTicks + intervalTicks - 1) / intervalTicks := by
    rw [Int.le_ediv_iff_mul_le hinterval]
    omega
  have hceil : ⌈(termTicks : ℚ) / intervalTicks⌉ = (termTicks + intervalTicks - 1) / intervalTicks := by
    have hq : (0 : ℚ) < intervalTicks := by exact_mod_cast hinterval
    have hmod := Int.emod_nonneg (termTicks + intervalTicks - 1) hinterval.ne'
    have hlt := Int.emod_lt_of_pos (termTicks + intervalTicks - 1) hinterval
    have hdiv := Int.emod_add_mul_ediv (termTicks + intervalTicks - 1) intervalTicks
    rw [Int.ceil_eq_iff, lt_div_iff₀ hq, div_le_iff₀ hq]
    constructor
    · have hint : ((termTicks + intervalTicks - 1) / intervalTicks - 1) * intervalTicks
          < termTicks := by
        rw [sub_mul, one_mul, mul_comm]
        omega
      exact_mod_cast hint
    · have hint : termTicks ≤ (termTicks + intervalTicks - 1) / intervalTicks * intervalTicks := by
        rw [mul_comm]
        omega
      exact_mod_cast hint
  rw [hceil]
  unfold periodsOf
  omega

/-- **A schedule repays its loan**: at most one payment an interval, each with
the interest due and at least a cent of principal, nothing left in the end, and
none above the level payment when that exceeds the first interest. -/
theorem schedule_repays {principal annualRateBp term interval ticksPerYear : Int}
    (hprincipal : 0 < principal) (hannual : 0 ≤ annualRateBp) (hterm : 0 < term)
    (hinterval : 0 < interval) (hyear : 0 < ticksPerYear) :
    ∃ ps, schedule principal annualRateBp term interval ticksPerYear = .ok ps ∧
      1 ≤ ps.length ∧ (ps.length : Int) ≤ ⌈(term : ℚ) / interval⌉ ∧
      Repays (periodicRate annualRateBp interval ticksPerYear) principal ps ∧
      (∀ p ∈ ps, 1 ≤ p.principalCents) ∧ (ps.map Payment.principalCents).sum = principal ∧
      (principal :: ps.map Payment.outstandingAfterCents).IsChain (· > ·) ∧
      (principal :: ps.map Payment.outstandingAfterCents).getLast? = some 0 ∧
      (interestOn principal (periodicRate annualRateBp interval ticksPerYear)
          < levelPayment principal (periodicRate annualRateBp interval ticksPerYear)
              (periodsOf term interval) →
        ∀ p ∈ ps, p.paymentCents
          ≤ levelPayment principal (periodicRate annualRateBp interval ticksPerYear)
              (periodsOf term interval)) := by
  have hrate : 0 ≤ periodicRate annualRateBp interval ticksPerYear := by
    unfold periodicRate
    have h₁ : (0 : ℚ) ≤ annualRateBp := by exact_mod_cast hannual
    have h₂ : (0 : ℚ) ≤ interval := by exact_mod_cast hinterval.le
    have h₃ : (0 : ℚ) ≤ ticksPerYear := by exact_mod_cast hyear.le
    positivity
  have hperiods := periodsOf_pos term interval
  have hrepays := @payments_repay (periodicRate annualRateBp interval ticksPerYear)
    (levelPayment principal (periodicRate annualRateBp interval ticksPerYear)
      (periodsOf term interval)) (periodsOf term interval) _ _ hperiods hprincipal
  refine ⟨_, ?_, ?_, ?_, hrepays, ?_, hrepays.sum, hrepays.decreasing, hrepays.last, fun hfirst => ?_⟩
  · unfold schedule
    rw [if_neg (by omega), if_neg (by omega)]
  · -- without a payment the debt would be nothing
    apply Nat.one_le_iff_ne_zero.mpr
    intro hnone
    have hsum := hrepays.sum
    rw [List.length_eq_zero_iff.mp hnone] at hsum
    simp at hsum
    omega
  · rw [← periodsOf_eq hterm hinterval]
    exact_mod_cast payments_length _ _
  · exact hrepays.one_le
  · apply payments_le_level hrate _ hfirst
    rw [← @presentValue_rawPayment _ hrate principal _ hperiods]
    exact presentValue_mono hrate (Int.le_ceil _) _

-- 1000 cents at 12 % a year in three monthly payments
example : (payments (1 / 100) 341 3 3 1000).map Payment.paymentCents = [341, 341, 337] := by
  decide +kernel

theorem schedule_repays_monthly :
    ∃ ps, schedule 1000 1200 90 30 = .ok ps ∧ 1 ≤ ps.length ∧ (ps.length : Int) ≤ 3 ∧
      Repays (periodicRate 1200 30 360) 1000 ps ∧ ∀ p ∈ ps, p.paymentCents ≤ 341 := by
  obtain ⟨ps, hps, hone, hlength, hrepays, -, -, -, -, hlevel⟩ := @schedule_repays 1000 1200 90 30 360
    (by decide) (by decide) (by decide) (by decide) (by decide)
  have hthree : ⌈((90 : Int) : ℚ) / (30 : Int)⌉ = 3 := by decide +kernel
  have hpay : levelPayment 1000 (periodicRate 1200 30 360) (periodsOf 90 30) = 341 := by
    decide +kernel
  have hfirst : interestOn 1000 (periodicRate 1200 30 360)
      < levelPayment 1000 (periodicRate 1200 30 360) (periodsOf 90 30) := by
    decide +kernel
  rw [hthree] at hlength
  rw [hpay] at hfirst hlevel
  exact ⟨ps, hps, hone, hlength, hrepays, hlevel hfirst⟩

end Polis.Economy.Credit
