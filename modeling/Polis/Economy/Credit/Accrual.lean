/-
  Polis.Economy.Credit.Accrual — interest in whole cents adds up.

  Principal and rate of a loan change between accruals; the carry does not.
  Whatever happens between them, what a loan has been credited is the whole
  cents of everything it owed.

  Main results:
    * `accrueInterest_spec` — what a day's accrual does to every loan.
    * `interest_exact` — what the accruals of a run credited is exact.
-/
import Polis.Economy.Credit.Servicing
import Polis.Lib.Carry

namespace Polis.Economy.Credit

open Lib Lib.Effect Lib.Carry Ledger Sim

/-! ## A day's accrual -/

section Day

variable {ctx : Ctx} {s s' : Sim}

theorem loanAt_eq_ok {key : String} {loan : LoanState} :
    loanAt key s = .ok loan s' ↔ s.economy.loans.get? key = some loan ∧ s = s' := by
  unfold loanAt
  rw [bind_eq_ok]
  constructor
  · rintro ⟨e, t, he, h⟩
    obtain ⟨rfl, rfl⟩ := economyNow_eq_ok.mp he
    exact orRaise_eq_ok.mp h
  · rintro ⟨hget, rfl⟩
    exact ⟨_, _, economyNow_eq_ok.mpr ⟨rfl, rfl⟩, orRaise_eq_ok.mpr ⟨hget, rfl⟩⟩

/-- The row of a loan after an accrual it takes part in. -/
def accrued (ctx : Ctx) (e : EconomyState) (loan : LoanState) : LoanState :=
  if Accrues e loan then LoanState.accrue (accrualDenominator ctx) loan else loan

theorem accrueOne_spec {tick : Int} {key : String} {r : List Event}
    (h : accrueOne ctx tick key s = .ok r s') :
    s'.economy.ventures = s.economy.ventures ∧
    (∀ k, s'.economy.loans.get? k = if k = key
      then (s.economy.loans.get? k).map (accrued ctx s.economy) else s.economy.loans.get? k) ∧
    (∀ loan, s.economy.loans.get? key = some loan → Accrues s.economy loan →
      accrualDenominator ctx ≠ 0) := by
  obtain ⟨_, _, h₁, h⟩ := bind_eq_ok.mp h
  obtain ⟨rfl, rfl⟩ := economyNow_eq_ok.mp h₁
  obtain ⟨loan, _, h₁, h⟩ := bind_eq_ok.mp h
  obtain ⟨hloan, rfl⟩ := loanAt_eq_ok.mp h₁
  rcases ite_eq_ok.mp h with ⟨hidle, h⟩ | ⟨haccrues, h⟩
  · obtain ⟨-, rfl⟩ := pure_eq_ok.mp h
    refine ⟨rfl, ?_, ?_⟩
    · intro k
      by_cases hk : k = key
      · subst hk
        rw [if_pos rfl, hloan, Option.map_some, accrued, if_neg hidle]
      · rw [if_neg hk]
    · intro loan' hloan' haccrues
      rw [hloan] at hloan'
      cases hloan'
      exact absurd haccrues hidle
  · rw [not_not] at haccrues
    obtain ⟨_, _, h₁, h⟩ := bind_eq_ok.mp h
    obtain ⟨hdenominator, rfl⟩ := require_eq_ok.mp h₁
    obtain ⟨_, s₁, h₁, h⟩ := bind_eq_ok.mp h
    have hwritten := modifyEconomy_eq_ok.mp h₁
    obtain ⟨event, s₂, h₂, h⟩ := bind_eq_ok.mp h
    obtain ⟨log, hemitted⟩ := emit_eq_ok h₂
    obtain ⟨-, rfl⟩ := pure_eq_ok.mp h
    rw [hemitted, economy_putLog, hwritten]
    refine ⟨rfl, ?_, fun _ _ _ => hdenominator⟩
    intro k
    show (s.economy.loans.modify key _).get? k = _
    rw [Dict.get?_modify]
    by_cases hk : k = key
    · subst hk
      rw [if_pos rfl, if_pos rfl, hloan, Option.map_some, Option.map_some, accrued,
        if_pos haccrues]
    · rw [if_neg hk, if_neg hk]

theorem accrueLoop_spec {tick : Int} {keys : List String} (hnodup : keys.Nodup) {r : List Event}
    (h : gather (accrueOne ctx tick) keys s = .ok r s') :
    s'.economy.ventures = s.economy.ventures ∧
    (∀ k, s'.economy.loans.get? k = if k ∈ keys
      then (s.economy.loans.get? k).map (accrued ctx s.economy) else s.economy.loans.get? k) ∧
    (∀ k ∈ keys, ∀ loan, s.economy.loans.get? k = some loan → Accrues s.economy loan →
      accrualDenominator ctx ≠ 0) := by
  induction keys generalizing s r with
  | nil =>
    obtain ⟨-, rfl⟩ := pure_eq_ok.mp h
    exact ⟨rfl, fun k => by simp, fun k hk => by cases hk⟩
  | cons key keys ih =>
    obtain ⟨a, t, b, hfirst, hrest, -⟩ := gather_cons_eq_ok.mp h
    obtain ⟨hnotin, hnodup⟩ := List.nodup_cons.mp hnodup
    obtain ⟨hventures, hloans, hdenominator⟩ := accrueOne_spec hfirst
    obtain ⟨hventures', hloans', hdenominator'⟩ := ih hnodup hrest
    -- who accrues is decided by the row and the open cases
    have haccrues : ∀ loan, Accrues t.economy loan ↔ Accrues s.economy loan := by
      intro loan
      unfold Accrues hasOpenCase
      rw [hventures]
    have hsame : accrued ctx t.economy = accrued ctx s.economy := by
      funext loan
      unfold accrued
      simp only [haccrues]
    refine ⟨hventures'.trans hventures, ?_, ?_⟩
    · intro k
      rw [hloans' k, hloans k, hsame]
      by_cases hk : k = key
      · subst hk
        simp [hnotin]
      · simp [hk]
    · intro k hk loan hloan haccruing
      rcases List.mem_cons.mp hk with rfl | hk
      · exact hdenominator loan hloan haccruing
      · have hne : k ≠ key := fun heq => hnotin (heq ▸ hk)
        have hloan' : t.economy.loans.get? k = some loan := by
          rw [hloans k, if_neg hne]
          exact hloan
        exact hdenominator' k hk loan hloan' ((haccrues loan).mpr haccruing)

theorem loansInOrder_perm (e : EconomyState) : (loansInOrder e).Perm e.loans.keys :=
  (sortedBy_perm _ e.loans.entries).map Prod.fst

/-- The loan takes part in the accrual of a tick. -/
def AccruesAt (ctx : Ctx) (tick : Int) (e : EconomyState) (loan : LoanState) : Prop :=
  tick % ctx.settings.clock.ticksPerSimDay = 0 ∧ Accrues e loan

instance (tick : Int) (e : EconomyState) (loan : LoanState) :
    Decidable (AccruesAt ctx tick e loan) := inferInstanceAs (Decidable (_ ∧ _))

theorem accrueInterest_spec {tick : Int} {r : List Event}
    (h : accrueInterest ctx tick s = .ok r s') :
    (∀ k, s'.economy.loans.get? k = (s.economy.loans.get? k).map fun loan =>
      if AccruesAt ctx tick s.economy loan then LoanState.accrue (accrualDenominator ctx) loan
      else loan) ∧
    (∀ k loan, s.economy.loans.get? k = some loan → AccruesAt ctx tick s.economy loan →
      accrualDenominator ctx ≠ 0) := by
  unfold accrueInterest at h
  rcases ite_eq_ok.mp h with ⟨hday, h⟩ | ⟨hday, h⟩
  · obtain ⟨-, rfl⟩ := pure_eq_ok.mp h
    constructor
    · intro k
      simp [AccruesAt, hday]
    · intro k loan _ haccrues
      exact absurd haccrues.1 hday
  · rw [not_not] at hday
    obtain ⟨_, _, h₁, h⟩ := bind_eq_ok.mp h
    obtain ⟨rfl, rfl⟩ := economyNow_eq_ok.mp h₁
    have hperm := loansInOrder_perm s.economy
    have hnodup := hperm.nodup_iff.mpr s.economy.loans.nodup
    obtain ⟨-, hloans, hdenominator⟩ := accrueLoop_spec hnodup h
    have hmem : ∀ k, k ∈ loansInOrder s.economy ↔ ∃ loan, s.economy.loans.get? k = some loan := by
      intro k
      rw [hperm.mem_iff, Dict.mem_keys_iff]
    constructor
    · intro k
      rw [hloans k]
      by_cases hk : k ∈ loansInOrder s.economy
      · rw [if_pos hk]
        simp only [AccruesAt, hday, true_and]
        rfl
      · rw [if_neg hk]
        have hnone : s.economy.loans.get? k = none := by
          cases hloan : s.economy.loans.get? k with
          | none => rfl
          | some loan => exact absurd ((hmem k).mpr ⟨loan, hloan⟩) hk
        rw [hnone]
        rfl
    · intro k loan hloan haccrues
      exact hdenominator k ((hmem k).mpr ⟨loan, hloan⟩) loan hloan haccrues.2

end Day

/-! ## The rest leaves the carry -/

/-- What is carried for each loan. -/
def carries (s : Sim) (key : String) : Option Int :=
  (s.economy.loans.get? key).map LoanState.accrualRemainder

/-- The carry of every loan stays. -/
def SameCarry (s s' : Sim) : Prop := carries s' = carries s

theorem sameCarry_refl (s : Sim) : SameCarry s s := rfl

theorem sameCarry_trans (a b c : Sim) (h : SameCarry a b) (h' : SameCarry b c) : SameCarry a c :=
  h'.trans h

section Frame

theorem sameCarry_of_loans {s s' : Sim} (h : s'.economy.loans = s.economy.loans) :
    SameCarry s s' := by
  unfold SameCarry carries
  rw [h]

theorem economyNow_same : Within SameCarry economyNow := by
  intro s e s' h
  obtain ⟨-, rfl⟩ := economyNow_eq_ok.mp h
  exact sameCarry_refl s

theorem loanAt_same (key : String) : Within SameCarry (loanAt key) := by
  intro s loan s' h
  obtain ⟨-, rfl⟩ := loanAt_eq_ok.mp h
  exact sameCarry_refl s

theorem emit_same (tick : Int) (kind : EventKind) (payload : List (String × Value))
    (actorId : Option String) (subjectIds : List String) :
    Within SameCarry (emit tick kind payload actorId subjectIds) := by
  intro s event s' h
  obtain ⟨log, rfl⟩ := emit_eq_ok h
  exact sameCarry_refl s

theorem onLedger_same {α : Type} (x : LedgerM α) : Within SameCarry (onLedger x) := by
  intro s a s' h
  obtain ⟨L, -, rfl⟩ := onLedger_eq_ok.mp h
  exact sameCarry_of_loans rfl

theorem modifyLoan_same {key : String} {f : LoanState → LoanState}
    (hf : ∀ loan, (f loan).accrualRemainder = loan.accrualRemainder) :
    Within SameCarry (modifyLoan key f) := by
  intro s u s' h
  rw [modifyEconomy_eq_ok.mp h]
  funext k
  show ((s.economy.loans.modify key f).get? k).map _ = (s.economy.loans.get? k).map _
  rw [Dict.get?_modify]
  by_cases hk : k = key
  · subst hk
    rw [if_pos rfl, Option.map_map]
    congr 1
    funext loan
    exact hf loan
  · rw [if_neg hk]

theorem modifyEconomy_same {f : EconomyState → EconomyState} (hf : ∀ e, (f e).loans = e.loans) :
    Within SameCarry (modifyEconomy f) := by
  intro s u s' h
  rw [modifyEconomy_eq_ok.mp h]
  exact sameCarry_of_loans (hf s.economy)

theorem markDefault_same (loanId trigger : String) (tick : Int) :
    Within SameCarry (markDefault loanId trigger tick) := by
  refine within_bind sameCarry_trans (loanAt_same _) fun loan => ?_
  refine within_ite (within_pure sameCarry_refl _) ?_
  refine within_bind sameCarry_trans (modifyLoan_same fun _ => rfl) fun _ => ?_
  refine within_bind sameCarry_trans (emit_same _ _ _ _ _) fun _ => ?_
  exact within_pure sameCarry_refl _

variable [Uuid5] {ctx : Ctx}

theorem fallDelinquent_same (key : String) (loan : LoanState) (days tick : Int) :
    Within SameCarry (fallDelinquent ctx key loan days tick) := by
  refine within_bind sameCarry_trans (onLedger_same _) fun _ => ?_
  refine within_bind sameCarry_trans (emit_same _ _ _ _ _) fun event => ?_
  refine within_bind sameCarry_trans ?_ fun _ => ?_
  · refine within_ite ?_ (within_pure sameCarry_refl _)
    refine within_bind sameCarry_trans (onLedger_same _) fun _ => ?_
    refine within_bind sameCarry_trans (within_require sameCarry_refl _ _) fun _ => ?_
    exact modifyLoan_same fun _ => rfl
  · refine within_bind sameCarry_trans (modifyLoan_same fun _ => rfl) fun _ => ?_
    exact within_pure sameCarry_refl _

theorem transitionMissed_same (key : String) (tick : Int) :
    Within SameCarry (transitionMissed ctx key tick) := by
  refine within_bind sameCarry_trans (loanAt_same _) fun loan => ?_
  cases loan.missedSinceTick with
  | none => exact within_pure sameCarry_refl _
  | some missedSince =>
    refine within_ite (fallDelinquent_same _ _ _ _) ?_
    exact within_ite (markDefault_same _ _ _) (within_pure sameCarry_refl _)

theorem missPayment_same (key : String) (loan : LoanState) (paymentId : String)
    (due available tick : Int) :
    Within SameCarry (missPayment ctx key loan paymentId due available tick) := by
  refine within_bind sameCarry_trans (modifyLoan_same fun _ => rfl) fun _ => ?_
  refine within_bind sameCarry_trans (emit_same _ _ _ _ _) fun _ => ?_
  refine within_bind sameCarry_trans (modifyEconomy_same fun _ => rfl) fun _ => ?_
  refine within_bind sameCarry_trans (modifyLoan_same fun _ => rfl) fun _ => ?_
  refine within_bind sameCarry_trans (transitionMissed_same _ _) fun _ => ?_
  exact within_pure sameCarry_refl _

theorem makePayment_same (key : String) (loan : LoanState) (paymentId : String)
    (principal due tick : Int) :
    Within SameCarry (makePayment ctx key loan paymentId principal due tick) := by
  refine within_bind sameCarry_trans economyNow_same fun _ => ?_
  refine within_bind sameCarry_trans (within_liftE sameCarry_refl _) fun _ => ?_
  refine within_bind sameCarry_trans (onLedger_same _) fun _ => ?_
  refine within_bind sameCarry_trans (emit_same _ _ _ _ _) fun _ => ?_
  refine within_bind sameCarry_trans (within_liftE sameCarry_refl _) fun _ => ?_
  refine within_bind sameCarry_trans (onLedger_same _) fun _ => ?_
  refine within_bind sameCarry_trans (within_require sameCarry_refl _ _) fun _ => ?_
  refine within_bind sameCarry_trans (modifyLoan_same fun _ => rfl) fun _ => ?_
  refine within_bind sameCarry_trans (modifyEconomy_same fun _ => rfl) fun _ => ?_
  refine within_ite (within_pure sameCarry_refl _) ?_
  refine within_bind sameCarry_trans (modifyLoan_same fun _ => rfl) fun _ => ?_
  refine within_bind sameCarry_trans (emit_same _ _ _ _ _) fun _ => ?_
  exact within_pure sameCarry_refl _

theorem amortise_same (tick : Int) : Within SameCarry (amortise ctx tick) := by
  refine within_bind sameCarry_trans economyNow_same fun e => ?_
  refine within_gather sameCarry_refl sameCarry_trans fun key _ => ?_
  refine within_bind sameCarry_trans economyNow_same fun _ => ?_
  refine within_bind sameCarry_trans (loanAt_same _) fun loan => ?_
  refine within_ite (within_pure sameCarry_refl _) ?_
  refine within_bind sameCarry_trans (within_liftE sameCarry_refl _) fun available => ?_
  refine within_bind sameCarry_trans (within_liftE sameCarry_refl _) fun paymentId => ?_
  exact within_ite (missPayment_same _ _ _ _ _ _) (makePayment_same _ _ _ _ _ _)

theorem writeOffLoan_same (loanId : String) (amount recovery tick : Int) :
    Within SameCarry (writeOffLoan loanId amount recovery tick) := by
  refine within_bind sameCarry_trans (loanAt_same _) fun loan => ?_
  refine within_ite (within_pure sameCarry_refl _) ?_
  refine within_bind sameCarry_trans (onLedger_same _) fun _ => ?_
  refine within_bind sameCarry_trans (emit_same _ _ _ _ _) fun _ => ?_
  refine within_bind sameCarry_trans (onLedger_same _) fun _ => ?_
  refine within_bind sameCarry_trans (within_require sameCarry_refl _ _) fun _ => ?_
  refine within_bind sameCarry_trans (modifyLoan_same fun _ => rfl) fun _ => ?_
  exact within_pure sameCarry_refl _

theorem writeOffDue_same (tick : Int) : Within SameCarry (writeOffDue ctx tick) := by
  refine within_bind sameCarry_trans economyNow_same fun e => ?_
  refine within_gather sameCarry_refl sameCarry_trans fun key _ => ?_
  refine within_bind sameCarry_trans (loanAt_same _) fun loan => ?_
  cases loan.defaultedTick with
  | none => exact within_pure sameCarry_refl _
  | some defaulted => exact within_ite (writeOffLoan_same _ _ _ _) (within_pure sameCarry_refl _)

end Frame

/-! ## Runs -/

section Runs

/-- What loans owed in interest, before rounding, and what they were
credited. -/
structure Interest where
  owed : String → Int
  credited : String → Int

/-- What a loan owes at an accrual: principal times rate, in parts of the
denominator. -/
def owedAt (ctx : Ctx) (tick : Int) (s : Sim) (key : String) : Int :=
  match s.economy.loans.get? key with
  | some loan =>
    if AccruesAt ctx tick s.economy loan then loan.outstandingCents * loan.annualRateBp else 0
  | none => 0

/-- The interest accrued on a loan and not yet paid. -/
def accruedCents (s : Sim) (key : String) : Int :=
  ((s.economy.loans.get? key).map LoanState.accruedInterestCents).getD 0

/-- The account after a day's accrual. -/
def Interest.after (i : Interest) (ctx : Ctx) (tick : Int) (s s' : Sim) : Interest where
  owed key := i.owed key + owedAt ctx tick s key
  credited key := i.credited key + (accruedCents s' key - accruedCents s key)

/-- What the rest of the kernel does between two calls: it writes everything
but the carry of a loan; a new loan starts without one. -/
def Aside (s s' : Sim) : Prop :=
  ∀ key, carries s' key = carries s key ∨ carries s key = none ∧ carries s' key = some 0

variable [Uuid5] (ctx : Ctx)

/-- A run of the credit engine, with the account of its accruals. -/
inductive Run (s₀ : Sim) : Sim → Interest → Prop where
  | start : Run s₀ s₀ ⟨fun _ => 0, fun _ => 0⟩
  | accrueInterest {s s' : Sim} {i : Interest} {r : List Event} (tick : Int) (h : Run s₀ s i)
      (hrun : accrueInterest ctx tick s = .ok r s') : Run s₀ s' (i.after ctx tick s s')
  | amortise {s s' : Sim} {i : Interest} {r : List Event} (tick : Int) (h : Run s₀ s i)
      (hrun : amortise ctx tick s = .ok r s') : Run s₀ s' i
  | writeOffDue {s s' : Sim} {i : Interest} {r : List Event} (tick : Int) (h : Run s₀ s i)
      (hrun : writeOffDue ctx tick s = .ok r s') : Run s₀ s' i
  | markDefault {s s' : Sim} {i : Interest} {r : List Event} (loanId trigger : String)
      (tick : Int) (h : Run s₀ s i) (hrun : markDefault loanId trigger tick s = .ok r s') :
      Run s₀ s' i
  | aside {s s' : Sim} {i : Interest} (h : Run s₀ s i) (haside : Aside s s') : Run s₀ s' i

/-- The account of every loan is exact. -/
def Balanced (s : Sim) (i : Interest) : Prop :=
  ∀ key, (∀ c, carries s key = some c →
      Exact (accrualDenominator ctx) (i.owed key) ⟨i.credited key, c⟩) ∧
    (carries s key = none → i.owed key = 0 ∧ i.credited key = 0)

variable {ctx} {s s' : Sim} {i : Interest}

omit [Uuid5] in
theorem Balanced.aside (h : Balanced ctx s i) (haside : Aside s s') : Balanced ctx s' i := by
  intro key
  rcases haside key with hsame | ⟨hnew, hzero⟩
  · rw [hsame]
    exact h key
  · obtain ⟨howed, hcredited⟩ := (h key).2 hnew
    constructor
    · intro c hc
      rw [hzero] at hc
      cases hc
      rw [howed, hcredited]
      exact exact_zero _
    · intro hnone
      rw [hzero] at hnone
      cases hnone

omit [Uuid5] in
theorem Balanced.same (h : Balanced ctx s i) (hsame : SameCarry s s') : Balanced ctx s' i :=
  h.aside fun key => .inl (congrFun hsame key)

omit [Uuid5] in
theorem Balanced.accrue (h : Balanced ctx s i) {tick : Int} {r : List Event}
    (hrun : accrueInterest ctx tick s = .ok r s') : Balanced ctx s' (i.after ctx tick s s') := by
  obtain ⟨hloans, hdenominator⟩ := accrueInterest_spec hrun
  intro key
  cases hloan : s.economy.loans.get? key with
  | none =>
    have hloan' : s'.economy.loans.get? key = none := by rw [hloans, hloan]; rfl
    have hcarry : carries s key = none := by rw [carries, hloan]; rfl
    have hcarry' : carries s' key = none := by rw [carries, hloan']; rfl
    obtain ⟨howed, hcredited⟩ := (h key).2 hcarry
    constructor
    · intro c hc
      rw [hcarry'] at hc
      cases hc
    · intro _
      simp [Interest.after, owedAt, accruedCents, hloan, hloan', howed, hcredited]
  | some loan =>
    have hcarry : carries s key = some loan.accrualRemainder := by rw [carries, hloan]; rfl
    have hexact := (h key).1 _ hcarry
    by_cases haccrues : AccruesAt ctx tick s.economy loan
    · have hloan' : s'.economy.loans.get? key
          = some (LoanState.accrue (accrualDenominator ctx) loan) := by
        rw [hloans, hloan, Option.map_some, if_pos haccrues]
      have hnext := hexact.add (hdenominator key loan hloan haccrues)
        (loan.outstandingCents * loan.annualRateBp)
      constructor
      · intro c hc
        rw [carries, hloan'] at hc
        cases hc
        convert hnext using 1
        · simp [Interest.after, owedAt, hloan, haccrues]
        · simp [Interest.after, Account.add, accruedCents, hloan, hloan', LoanState.accrue]
      · intro hnone
        rw [carries, hloan'] at hnone
        cases hnone
    · have hloan' : s'.economy.loans.get? key = some loan := by
        rw [hloans, hloan, Option.map_some, if_neg haccrues]
      constructor
      · intro c hc
        rw [carries, hloan'] at hc
        cases hc
        simpa [Interest.after, owedAt, accruedCents, hloan, hloan', haccrues] using hexact
      · intro hnone
        rw [carries, hloan'] at hnone
        cases hnone

theorem Run.balanced {s₀ : Sim} (hfresh : ∀ key c, carries s₀ key = some c → c = 0)
    (h : Run ctx s₀ s i) : Balanced ctx s i := by
  induction h with
  | start =>
    intro key
    refine ⟨fun c hc => ?_, fun _ => ⟨rfl, rfl⟩⟩
    rw [hfresh key c hc]
    exact exact_zero _
  | accrueInterest tick h hrun ih => exact ih.accrue hrun
  | amortise tick h hrun ih => exact ih.same (amortise_same tick _ _ _ hrun)
  | writeOffDue tick h hrun ih => exact ih.same (writeOffDue_same tick _ _ _ hrun)
  | markDefault loanId trigger tick h hrun ih =>
    exact ih.same (markDefault_same loanId trigger tick _ _ _ hrun)
  | aside h haside ih => exact ih.aside haside

theorem interest_exact {s₀ : Sim} (hfresh : ∀ key c, carries s₀ key = some c → c = 0)
    (h : Run ctx s₀ s i) {key : String} {loan : LoanState}
    (hloan : s.economy.loans.get? key = some loan) :
    i.credited key = Int.fdiv (i.owed key) (accrualDenominator ctx) ∧
      loan.accrualRemainder = Int.fmod (i.owed key) (accrualDenominator ctx) := by
  have hcarry : carries s key = some loan.accrualRemainder := by rw [carries, hloan]; rfl
  exact (h.balanced hfresh key).1 _ hcarry

end Runs

end Polis.Economy.Credit
