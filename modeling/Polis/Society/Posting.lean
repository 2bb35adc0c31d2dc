/-
  Polis.Society.Posting — an event and the ledger posting it announces.

  A service predicts the identifier of the next transaction, stages an event
  that names it, and then posts.  When the posting raises, the service rolls
  the log back: the whole batch, not only its own event.

  Main results:
    * `stagePosted_posting` — a failed posting leaves an empty batch.
    * `stagePosted_eq_ok` — what a posting that returned went through.
-/
import Polis.Society.Staging

namespace Polis.Society

open Lib.Effect Polis.Events

/-- A transfer: payer, payee, cents. -/
abbrev Transfer := String × String × Int

/-- The ledger as society services see it (`PolityLedger`, `LawLedger`). -/
structure SocietyLedger (L : Type) where
  canPay : L → String → Int → Option String → Bool
  compatibleBalance : L → String → String → Int
  nextTransferId : L → Int → UUID
  postTransfers : List Transfer → (reason : String) → (tick : Int) → Events.Event Value →
    EStateM PyError L UUID

/-- The log and the ledger the services share. -/
structure Books (L : Type) where
  log : EventLog Value
  ledger : L

variable {L : Type}

/-- Post transfers for an event; when that raises, or another identifier than
the predicted one comes back, the log is rolled back. -/
def postOrRollback (B : SocietyLedger L) (transfers : List Transfer) (reason : String)
    (tick : Int) (predicted : UUID) (diverged : String) (cause : Events.Event Value) :
    EStateM Fault (Books L) Unit := fun s =>
  match B.postTransfers transfers reason tick cause s.ledger with
  | .error e ledger => .error (.posting e) { log := s.log.rollback, ledger }
  | .ok actual ledger =>
    if actual = predicted then .ok () { s with ledger }
    else .error (.posting (.runtime diverged)) { log := s.log.rollback, ledger }

theorem postOrRollback_error {B : SocietyLedger L} {transfers : List Transfer} {reason : String}
    {tick : Int} {predicted : UUID} {diverged : String} {cause : Events.Event Value}
    {s s' : Books L} {f : Fault}
    (h : postOrRollback B transfers reason tick predicted diverged cause s = .error f s') :
    s'.log.staged = [] := by
  unfold postOrRollback at h
  split at h
  · cases h
    rfl
  · split at h
    · cases h
    · cases h
      rfl

theorem postOrRollback_eq_ok {B : SocietyLedger L} {transfers : List Transfer} {reason : String}
    {tick : Int} {predicted : UUID} {diverged : String} {cause : Events.Event Value}
    {s s' : Books L} :
    postOrRollback B transfers reason tick predicted diverged cause s = .ok () s' ↔
      ∃ ledger, B.postTransfers transfers reason tick cause s.ledger = .ok predicted ledger ∧
        s' = { s with ledger } := by
  unfold postOrRollback
  cases hp : B.postTransfers transfers reason tick cause s.ledger with
  | error e ledger => simp
  | ok actual ledger =>
    by_cases ha : actual = predicted
    · subst ha
      simp only [if_pos, EStateM.Result.ok.injEq, true_and]
      constructor
      · rintro rfl
        exact ⟨ledger, rfl, rfl⟩
      · rintro ⟨ledger', rfl, rfl⟩
        rfl
    · simp only [if_neg ha, EStateM.Result.ok.injEq]
      constructor
      · intro h
        cases h
      · rintro ⟨ledger', ⟨rfl, -⟩, -⟩
        exact absurd rfl ha

variable [CanonicalJson Value] [Sha256] [PayloadSchemas Value]

/-- `_emit` on the books. -/
def Books.emit (j : Journal) (d : Draft) (tick : Int) :
    EStateM Fault (Books L) (Events.Event Value) :=
  zoom Books.log (fun s log => { s with log }) (Society.emit j d tick)

/-- Stage the event of a payment and post it.  `draft` takes the predicted
identifier as a value, `blank` where nothing is to be paid. -/
def stagePosted (B : SocietyLedger L) (j : Journal) (pays : Prop) [Decidable pays]
    (blank : Value) (draft : Value → Draft) (transfers : List Transfer)
    (reason diverged : String) (tick : Int) : EStateM Fault (Books L) (Events.Event Value) := do
  let s ← get
  let predicted := B.nextTransferId s.ledger tick
  let event ← Books.emit j (draft (if pays then .str predicted else blank)) tick
  runIf pays (postOrRollback B transfers reason tick predicted diverged event)
  pure event

theorem Books.emit_cases (j : Journal) (d : Draft) (tick : Int) (s : Books L) :
    (∃ f log, Books.emit j d tick s = .error (.log f) { s with log } ∧
      log.staged = s.log.staged) ∨
    (∃ event log, Books.emit j d tick s = .ok event { s with log } ∧
      Society.emit j d tick s.log = .ok event log) := by
  unfold Books.emit zoom
  rcases Society.emit_cases j d tick s.log with ⟨f, log, hr, hs⟩ | ⟨event, log, hr, -⟩
  · left
    refine ⟨f, log, ?_, hs⟩
    rw [hr]
  · right
    refine ⟨event, log, ?_, hr⟩
    rw [hr]

theorem stagePosted_posting {B : SocietyLedger L} {j : Journal} {pays : Prop} [Decidable pays]
    {blank : Value} {draft : Value → Draft} {transfers : List Transfer}
    {reason diverged : String} {tick : Int} {s s' : Books L} {e : PyError}
    (h : stagePosted B j pays blank draft transfers reason diverged tick s
      = .error (.posting e) s') : s'.log.staged = [] := by
  unfold stagePosted at h
  rw [get_bind] at h
  rcases Books.emit_cases j (draft (if pays then .str (B.nextTransferId s.ledger tick) else blank))
    tick s with ⟨f, log, hr, -⟩ | ⟨event, log, hr, -⟩
  · rw [bind_of_error hr] at h
    cases h
  · rw [bind_of_ok hr] at h
    by_cases hp : pays
    · unfold runIf at h
      rw [if_pos hp] at h
      cases hpost : postOrRollback B transfers reason tick (B.nextTransferId s.ledger tick)
          diverged event { s with log } with
      | ok u t =>
        rw [bind_of_ok hpost] at h
        cases h
      | error f t =>
        rw [bind_of_error hpost] at h
        cases h
        exact postOrRollback_error hpost
    · unfold runIf at h
      rw [if_neg hp, pure_bind_apply] at h
      cases h

theorem stagePosted_eq_ok {B : SocietyLedger L} {j : Journal} {pays : Prop} [Decidable pays]
    {blank : Value} {draft : Value → Draft} {transfers : List Transfer}
    {reason diverged : String} {tick : Int} {s s' : Books L} {event : Events.Event Value} :
    stagePosted B j pays blank draft transfers reason diverged tick s = .ok event s' ↔
      ∃ log, Society.emit j
          (draft (if pays then .str (B.nextTransferId s.ledger tick) else blank)) tick s.log
            = .ok event log ∧
        s'.log = log ∧
        (if pays then B.postTransfers transfers reason tick event s.ledger
          = .ok (B.nextTransferId s.ledger tick) s'.ledger else s'.ledger = s.ledger) := by
  unfold stagePosted
  rw [get_bind]
  rcases Books.emit_cases j (draft (if pays then .str (B.nextTransferId s.ledger tick) else blank))
    tick s with ⟨f, log, hr, -⟩ | ⟨event', log, hr, hemit⟩
  · rw [bind_of_error hr]
    constructor
    · intro h
      cases h
    · rintro ⟨log', hemit, -⟩
      unfold Books.emit zoom at hr
      rw [hemit] at hr
      cases hr
  · rw [bind_of_ok hr, hemit]
    by_cases hp : pays
    · simp only [runIf, if_pos hp]
      rw [bind_eq_ok]
      constructor
      · rintro ⟨u, t, hpost, hpure⟩
        obtain ⟨ledger, hl, rfl⟩ := postOrRollback_eq_ok.mp hpost
        obtain ⟨rfl, rfl⟩ := pure_eq_ok.mp hpure
        exact ⟨log, rfl, rfl, hl⟩
      · rintro ⟨log', heq, hlog, hl⟩
        cases heq
        refine ⟨(), s', postOrRollback_eq_ok.mpr ⟨s'.ledger, hl, ?_⟩, rfl⟩
        rw [← hlog]
    · simp only [runIf, if_neg hp]
      rw [pure_bind_apply, pure_eq_ok]
      constructor
      · rintro ⟨rfl, rfl⟩
        exact ⟨log, rfl, rfl, rfl⟩
      · rintro ⟨log', heq, hlog, hl⟩
        cases heq
        refine ⟨rfl, ?_⟩
        cases s'
        simp_all

/-! ## Closed runs -/

/-- A ledger that posts everything under one identifier. -/
def freeLedger : SocietyLedger Unit :=
  { canPay := fun _ _ _ _ => true
    compatibleBalance := fun _ _ _ => 0
    nextTransferId := fun _ _ => "txn"
    postTransfers := fun _ _ _ _ => pure "txn" }

/-- A ledger that posts nothing. -/
def emptyLedger : SocietyLedger Unit :=
  { freeLedger with
    canPay := fun _ _ _ _ => false
    postTransfers := fun _ _ _ _ => throw (.ledger "insufficient funds") }

end Polis.Society
