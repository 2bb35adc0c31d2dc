/-
  Polis.Society.Penalties — fines, awards, receivables, garnishment and
  incarceration (`society/law.py`).

  An award pays what the payer can pay now and opens a receivable for the
  rest, which later income is garnished for.

  Main results:
    * `award_of_nonpos` — an award of nothing does nothing.
    * `apply_of_nothing` — neither does a judgment without penalties.
-/
import Polis.Society.Law
import Polis.Society.Overlay
import Polis.Society.Posting

namespace Polis.Society

open Lib Lib.Effect Lib.Bytes Polis.Events

/-! ## Event kinds -/

def FINE_LEVIED : Int := 13041
def DAMAGES_AWARDED : Int := 13042
def INCARCERATION_STARTED : Int := 13043
def GARNISHMENT_COLLECTED : Int := 13045

/-- `_stable_id`. -/
def stableId [Events.Sha256] (stem : String) (parts : List String) : String :=
  let digest := hex (Events.Sha256.digest (utf8 (String.intercalate "|" parts)))
  stem ++ "_" ++ String.ofList (digest.toList.take 20)

/-! ## State -/

/-- `Receivable`. -/
structure Receivable where
  receivableId : String
  caseId : String
  debtorId : String
  creditorId : String
  originalCents : Int
  outstandingCents : Int
  reason : String
  deriving Repr, DecidableEq

/-- `Location`, and the part of a `Place` a prisoner is moved to. -/
structure Location where
  placeId : String
  districtId : String
  x : Int
  y : Int
  deriving Repr, DecidableEq

/-- `Sentence`. -/
structure Sentence where
  agentId : String
  caseId : String
  startedTick : Int
  releaseTick : Int
  prisonPlaceId : String
  priorLocation : Option Location
  deriving Repr, DecidableEq

/-- The mutable state of `PenaltyService` and `Incarceration`, with the books
and the locations they share. -/
structure LawState (L : Type) where
  books : Books L
  receivables : Dict String Receivable := ∅
  receivableCauses : Dict String (Events.Event Value) := ∅
  sentences : Dict String Sentence := ∅
  records : Dict String Int := ∅
  locations : Dict String Location := ∅

abbrev LawM (L : Type) := EStateM Fault (LawState L)

/-- What an `Incarceration` is built with; its callbacks belong to other
services. -/
structure Incarceration (L : Type) where
  /-- The prisons by place id. -/
  prisons : List Location
  conversionFine : Option (String → String → Int → Int → LawM L (List (Events.Event Value)))
  terminateEmployment : String → Int → LawM L (List (Events.Event Value))

/-- `LawSettings`, with the fields the penalties read. -/
structure LawSettings where
  convictionThreshold : ℚ := 3 / 5
  filingFeeCents : Int
  filingFeeWaiverPct : ℚ
  finePerTickCents : Int
  garnishmentRate : ℚ

/-- What a `PenaltyService` is built with. -/
structure PenaltyService (L : Type) where
  journal : Journal
  ledger : SocietyLedger L
  base : Base
  runtime : RuntimeConfig
  cases : String → Option CourtCase
  crimes : String → Option Crime
  cfg : LawSettings
  incarceration : Option (Incarceration L)

variable {L : Type}

def LawState.withBooks (s : LawState L) (books : Books L) : LawState L := { s with books }

namespace PenaltyService

variable [CanonicalJson Value] [Events.Sha256] [PayloadSchemas Value] (S : PenaltyService L)

/-! ## Awards -/

/-- One award of a judgment. -/
structure Award where
  caseId : String
  payerId : String
  payeeId : String
  amountCents : Int
  kind : Int
  reason : String
  deriving Repr, DecidableEq

/-- What an award pays at once. -/
def paidNow (a : Award) (ledger : L) : Int :=
  min a.amountCents (max 0 (S.ledger.compatibleBalance ledger a.payerId a.payeeId))

/-- The event of an award. -/
def awardDraft (a : Award) (shortfall : Int) (txnId : Value) : Draft :=
  { kind := a.kind
    payload :=
      if a.kind = FINE_LEVIED then
        [("case_id", .str a.caseId), ("payer_id", .str a.payerId),
         ("amount_cents", .int a.amountCents), ("txn_id", txnId),
         ("garnished", .bool (0 < shortfall)), ("shortfall_cents", .int shortfall)]
      else
        [("case_id", .str a.caseId), ("from_id", .str a.payerId), ("to_id", .str a.payeeId),
         ("amount_cents", .int a.amountCents), ("txn_id", txnId),
         ("shortfall_cents", .int shortfall)]
    actorId := some a.payerId
    subjectIds := [a.caseId, a.payerId, a.payeeId] }

/-- The receivable for what an award leaves unpaid. -/
def openReceivable (a : Award) (shortfall : Int) (cause : Events.Event Value)
    (s : LawState L) : LawState L :=
  let receivableId := stableId "rec"
    [a.caseId, a.payerId, a.payeeId, a.reason, toString s.receivables.entries.length]
  { s with
    receivables := s.receivables.put receivableId
      { receivableId, caseId := a.caseId, debtorId := a.payerId, creditorId := a.payeeId,
        originalCents := a.amountCents, outstandingCents := shortfall, reason := a.reason }
    receivableCauses := s.receivableCauses.put receivableId cause }

/-- `_award`; an award of nothing returns no event. -/
def award (a : Award) (tick : Int) : LawM L (List (Events.Event Value)) :=
  onlyIf (0 < a.amountCents) do
    let s ← get
    let paid := S.paidNow a s.books.ledger
    let shortfall := a.amountCents - paid
    let event ← zoom LawState.books LawState.withBooks
      (stagePosted S.ledger S.journal (paid ≠ 0) .none (awardDraft a shortfall)
        [(a.payerId, a.payeeId, paid)] a.reason "penalty ledger transaction ordinal diverged" tick)
    runIf (shortfall ≠ 0) (modify (openReceivable a shortfall event))
    pure [event]

omit [CanonicalJson Value] [Events.Sha256] [PayloadSchemas Value] in
theorem paidNow_nonneg {a : Award} (h : 0 < a.amountCents) (ledger : L) :
    0 ≤ S.paidNow a ledger ∧ S.paidNow a ledger ≤ a.amountCents := by
  unfold paidNow
  omega

theorem award_of_nonpos {a : Award} (h : a.amountCents ≤ 0) (tick : Int) (s : LawState L) :
    S.award a tick s = .ok [] s := by
  unfold award onlyIf
  rw [if_neg (by omega)]
  rfl

/-- Receivables that are there do not all go away. -/
def StaysOwed (s s' : LawState L) : Prop :=
  s.receivables.entries ≠ [] → s'.receivables.entries ≠ []

theorem award_staysOwed (a : Award) (tick : Int) : Leaves StaysOwed (S.award a tick) := by
  have hrefl : ∀ s : LawState L, StaysOwed s s := fun _ h => h
  have htrans : ∀ a b c : LawState L, StaysOwed a b → StaysOwed b c → StaysOwed a c :=
    fun _ _ _ h h' hs => h' (h hs)
  unfold award onlyIf
  apply leaves_ite
  · apply leaves_bind htrans (leaves_get hrefl)
    intro s
    apply leaves_bind htrans
    · exact leaves_zoom (Q := fun _ _ => True) (fun _ _ _ h => h) fun _ => trivial
    · intro event
      apply leaves_bind htrans
      · apply leaves_runIf hrefl
        exact leaves_modify fun _ _ => Dict.put_entries_ne_nil _ _ _
      · intro _
        exact leaves_pure hrefl _
  · exact leaves_pure hrefl _

/-! ## Incarceration -/

/-- The event of a sentence. -/
def sentenceDraft (agentId caseId : String) (ticks : Int) (placeId : Option String)
    (converted : Bool) (capacity : Int) : Draft :=
  { kind := INCARCERATION_STARTED
    payload := [("agent_id", .str agentId), ("case_id", .str caseId), ("ticks", .int ticks),
      ("place_id", Value.ofStr? placeId), ("converted_to_fine", .bool converted),
      ("capacity_at_sentencing", .int capacity)]
    actorId := some agentId
    subjectIds := [agentId, caseId] }

/-- The prisoner in the prison. -/
def imprison (agentId caseId : String) (ticks tick : Int) (prison : Location)
    (s : LawState L) : LawState L :=
  { s with
    locations := s.locations.put agentId prison
    sentences := s.sentences.put agentId
      { agentId, caseId, startedTick := tick, releaseTick := tick + ticks,
        prisonPlaceId := prison.placeId, priorLocation := s.locations.get? agentId } }

/-- `Incarceration.commit`: without a free prison the sentence becomes a fine. -/
def commit (inc : Incarceration L) (agentId caseId : String) (ticks tick : Int) :
    LawM L (List (Events.Event Value)) := do
  let s ← get
  let capacity ← liftPy (S.runtime.number S.base "prison.capacity" tick)
  let occupied := s.sentences.entries.length
  let prison := inc.prisons[occupied % inc.prisons.length]?
  let converted := decide (inc.prisons = [] ∨ capacity ≤ occupied)
  let event ← zoom LawState.books LawState.withBooks
    (Books.emit S.journal
      (sentenceDraft agentId caseId ticks (prison.map Location.placeId) converted capacity) tick)
  match converted, prison with
  | false, some prison => do
    modify (imprison agentId caseId ticks tick prison)
    let ended ← inc.terminateEmployment agentId tick
    pure (event :: ended)
  | _, _ =>
    match inc.conversionFine with
    | none => pure [event]
    | some fine => do
      let fined ← fine agentId caseId (ticks * S.cfg.finePerTickCents) tick
      pure (event :: fined)

/-- `record_conviction`. -/
def recordConviction (agentId : String) (s : LawState L) : LawState L :=
  { s with records := s.records.put agentId (s.records.getD agentId 0 + 1) }

/-! ## Applying a judgment -/

/-- The awards of a judgment, in order, before the costs. -/
def judgmentAwards (case : CourtCase) (crime : Option Crime) (j : Judgment) : List Award :=
  [⟨case.caseId, case.defendantId, "government", j.fineCents, FINE_LEVIED, "fine"⟩]
  ++ (case.plaintiffId.toList.map fun plaintiff =>
    ⟨case.caseId, case.defendantId, plaintiff, j.damagesCents, DAMAGES_AWARDED, "transfer"⟩)
  ++ ((crime.bind Crime.victimId).toList.map fun victim =>
    ⟨case.caseId, case.defendantId, victim, j.restitutionCents, DAMAGES_AWARDED, "transfer"⟩)

/-- The costs the loser pays the plaintiff. -/
def costsAward (case : CourtCase) : List Award :=
  case.plaintiffId.toList.map fun plaintiff =>
    ⟨case.caseId, case.defendantId, plaintiff, S.cfg.filingFeeCents, DAMAGES_AWARDED, "transfer"⟩

/-- The sentence, where there is an incarceration service. -/
def serve (agentId caseId : String) (ticks tick : Int) : LawM L (List (Events.Event Value)) :=
  match S.incarceration with
  | none => pure []
  | some inc => S.commit inc agentId caseId ticks tick

/-- `apply`; an amount that is zero is skipped, as `_award` would. -/
def apply (caseId : String) (j : Judgment) (tick : Int) : LawM L (List (Events.Event Value)) :=
  match S.cases caseId with
  | none => pure []
  | some case => do
    runIf (j.verdict = .guilty ∧ S.incarceration.isSome = true)
      (modify (recordConviction case.defendantId))
    let awarded ← gather (fun a => S.award a tick)
      (judgmentAwards case (S.crimes (case.crimeId.getD "")) j)
    let loserPays ← liftPy (S.runtime.flag S.base "courts.loser_pays" tick)
    let costs ← onlyIf (loserPays = true ∧ j.verdict.punitive = true)
      (gather (fun a => S.award a tick) (S.costsAward case))
    let committed ← onlyIf (j.sentenceTicks ≠ 0) (S.serve case.defendantId caseId j.sentenceTicks tick)
    pure (awarded ++ costs ++ committed)

/-! ## Garnishment -/

/-- What one garnishment collects of a receivable. -/
def collectable (row : Receivable) (agentId : String) (room : Int) (ledger : L) : Int :=
  min (min row.outstandingCents room)
    (max 0 (S.ledger.compatibleBalance ledger agentId row.creditorId))

/-- The event of a collection. -/
def garnishDraft (row : Receivable) (agentId : String) (amount : Int) (txnId : UUID) : Draft :=
  { kind := GARNISHMENT_COLLECTED
    payload := [("receivable_id", .str row.receivableId), ("case_id", .str row.caseId),
      ("debtor_id", .str agentId), ("creditor_id", .str row.creditorId),
      ("amount_cents", .int amount), ("txn_id", .str txnId), ("reason", .str row.reason),
      ("remaining_cents", .int (row.outstandingCents - amount))]
    actorId := some agentId
    subjectIds := [row.caseId, agentId, row.creditorId] }

/-- The receivables with one row written, and its cause. -/
def putReceivable (receivableId : String) (row : Receivable) (cause : Events.Event Value)
    (s : LawState L) : LawState L :=
  { s with
    receivables := s.receivables.put receivableId row
    receivableCauses := s.receivableCauses.put receivableId cause }

/-- The posting of a collection: when the ledger raises, the row and its cause
are put back and the log is rolled back. -/
def postCollection (receivableId : String) (row : Receivable) (priorCause : Events.Event Value)
    (agentId : String) (amount tick : Int) (event : Events.Event Value) : LawM L UUID := fun s =>
  match S.ledger.postTransfers [(agentId, row.creditorId, amount)] row.reason tick event
      s.books.ledger with
  | .ok actual ledger => .ok actual (s.withBooks { s.books with ledger })
  | .error e ledger =>
    .error (.posting e) ((putReceivable receivableId row priorCause s).withBooks
      { log := s.books.log.rollback, ledger })

/-- The end of a collection: a settled receivable has no cause, and the
identifier must be the predicted one. -/
def closeCollection (receivableId : String) (remaining : Int) (actual predicted : UUID) :
    LawM L Unit := do
  runIf (remaining = 0) (modify fun s =>
    { s with receivableCauses := s.receivableCauses.erase receivableId })
  require (actual = predicted)
    (.py (.runtime "garnishment ledger transaction ordinal diverged"))

/-- One receivable of the loop of `garnish`. -/
def collect (agentId : String) (cap tick : Int) (diverted : Int) (receivableId : String) :
    LawM L Int := do
  let s ← get
  match s.receivables.get? receivableId with
  | none => throw (.py (.key receivableId))
  | some row =>
    let amount := S.collectable row agentId (cap - diverted) s.books.ledger
    if row.debtorId ≠ agentId ∨ row.outstandingCents ≤ 0 ∨ amount ≤ 0 then pure diverted
    else do
      let predicted := S.ledger.nextTransferId s.books.ledger tick
      let event ← zoom LawState.books LawState.withBooks
        (Books.emit S.journal (garnishDraft row agentId amount predicted) tick)
      match s.receivableCauses.get? receivableId with
      | none => throw (.py (.key receivableId))
      | some priorCause => do
        let remaining := row.outstandingCents - amount
        modify (putReceivable receivableId { row with outstandingCents := remaining } event)
        let actual ← S.postCollection receivableId row priorCause agentId amount tick event
        closeCollection receivableId remaining actual predicted
        pure (diverted + amount)

/-- `garnish`. -/
def garnish (agentId : String) (incomeCents tick : Int) : LawM L Int := do
  let s ← get
  let cap := max 0 (Kernel.pyRound (incomeCents * S.cfg.garnishmentRate))
  foldEff (S.collect agentId cap tick) 0 (s.receivables.keys.insertionSort (· ≤ ·))

/-! ## Judgments without penalties -/

theorem gather_award_of_nonpos {awards : List Award} (h : ∀ a ∈ awards, a.amountCents ≤ 0)
    (tick : Int) (s : LawState L) : gather (fun a => S.award a tick) awards s = .ok [] s := by
  induction awards with
  | nil => rfl
  | cons a as ih =>
    have ha := S.award_of_nonpos (h a List.mem_cons_self) tick s
    have has := ih fun b hb => h b (List.mem_cons_of_mem _ hb)
    rw [gather_cons, bind_of_ok ha, bind_of_ok has]
    rfl

theorem apply_unpunished {caseId : String} {case : CourtCase} {j : Judgment}
    (hcase : S.cases caseId = some case) (hverdict : j.verdict.punitive = false)
    (hsentence : j.sentenceTicks = 0) (tick : Int) (s : LawState L) :
    stateAfter (S.apply caseId j tick s)
      = stateAfter (gather (fun a => S.award a tick)
          (judgmentAwards case (S.crimes (case.crimeId.getD "")) j) s) := by
  have hguilty : j.verdict ≠ .guilty := by
    intro h
    rw [h] at hverdict
    cases hverdict
  unfold apply
  simp only [hcase, runIf]
  rw [if_neg fun h => hguilty h.1, pure_bind_apply]
  cases hrun : gather (fun a => S.award a tick)
      (judgmentAwards case (S.crimes (case.crimeId.getD "")) j) s with
  | error f t =>
    rw [bind_of_error hrun]
  | ok awarded t =>
    rw [bind_of_ok hrun]
    cases hflag : S.runtime.flag S.base "courts.loser_pays" tick with
    | error e => rfl
    | ok loserPays =>
      rw [bind_of_ok liftPy_ok]
      -- neither the costs nor the sentence are reached
      have hcosts : ¬(loserPays = true ∧ j.verdict.punitive = true) := by
        rw [hverdict]
        simp
      have hserve : ¬j.sentenceTicks ≠ 0 := not_not.mpr hsentence
      simp only [onlyIf, if_neg hcosts, if_neg hserve]
      rfl

theorem apply_of_nothing {caseId : String} {case : CourtCase} {j : Judgment}
    (hcase : S.cases caseId = some case) (hverdict : j.verdict.punitive = false)
    (hsentence : j.sentenceTicks = 0)
    (hawards : ∀ a ∈ judgmentAwards case (S.crimes (case.crimeId.getD "")) j,
      a.amountCents ≤ 0) (tick : Int) (s : LawState L) :
    stateAfter (S.apply caseId j tick s) = s := by
  rw [S.apply_unpunished hcase hverdict hsentence, S.gather_award_of_nonpos hawards tick s]
  rfl

end PenaltyService

end Polis.Society
