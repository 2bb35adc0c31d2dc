/-
  Polis.Society.Filing — the filing of a suit (`CourtService`,
  `society/law.py`).

  The suit is put on the docket after its fee is posted; what a refused fee
  leaves is in `Polis.Society.Undo`.
-/
import Polis.Society.Penalties

namespace Polis.Society

open Lib Lib.Effect Polis.Events

def SUIT_FILED : Int := 13020

def CaseType.text : CaseType → String
  | .criminal => "criminal"
  | .civil => "civil"

/-- `FileSuitParams`. -/
structure FileSuitParams where
  caseType : CaseType := .civil
  defendantId : String
  claim : Option String := none
  causeOfAction : Option String := none
  amountCents : Option Nat := none
  claimCents : Option Nat := none
  crimeId : Option String := none
  evidenceEventSeqs : List Int := []

namespace FileSuitParams

/-- `cause_of_action or claim or ""`. -/
def cause (p : FileSuitParams) : String :=
  ((p.causeOfAction.filter fun t => t ≠ "").orElse fun _ => p.claim).getD ""

/-- `int(claim_cents or amount_cents or 0)`. -/
def claimed (p : FileSuitParams) : Nat :=
  ((p.claimCents.filter fun n => n ≠ 0).orElse fun _ => p.amountCents).getD 0

/-- `tuple(sorted(set(evidence_event_seqs)))`. -/
def evidence (p : FileSuitParams) : List Int :=
  p.evidenceEventSeqs.dedup.insertionSort (· ≤ ·)

end FileSuitParams

/-- The docket of a `MemoryCourtRepository`, with the books. -/
structure CourtState (L : Type) where
  books : Books L
  cases : Dict String CourtCase := ∅

abbrev CourtM (L : Type) := EStateM Fault (CourtState L)

namespace CourtState

variable {L : Type}

def withBooks (s : CourtState L) (books : Books L) : CourtState L := { s with books }

/-- `add`: a case that is there stays. -/
def add (case : CourtCase) (s : CourtState L) : CourtState L :=
  if s.cases.contains case.caseId = true then s
  else { s with cases := s.cases.put case.caseId case }

/-- How many cases are open. -/
def openCount (s : CourtState L) : Nat := s.cases.values.countP fun c => c.status = .open

end CourtState

/-- What a `CourtService` is built with, as far as filing goes. -/
structure CourtService (L : Type) where
  journal : Journal
  /-- The text of the run identifier of the log. -/
  runId : String
  ledger : SocietyLedger L
  cfg : LawSettings
  wealthPercentile : String → ℚ

namespace CourtService

variable {L : Type} [CanonicalJson Value] [Events.Sha256] [PayloadSchemas Value]
  (C : CourtService L)

/-- `_stage_transfer_event`. -/
def stageTransferEvent (d : Value → Draft) (payerId payeeId : String) (amountCents : Int)
    (reason : String) (tick : Int) : CourtM L (Events.Event Value) :=
  zoom CourtState.books CourtState.withBooks
    (stagePosted C.ledger C.journal (0 < amountCents) .none d [(payerId, payeeId, amountCents)]
      reason "law ledger transaction ordinal diverged" tick)

/-- The filing fee. -/
def fee (filerId : String) (params : FileSuitParams) : Int :=
  if C.wealthPercentile filerId ≤ C.cfg.filingFeeWaiverPct ∨ params.caseType = .criminal then 0
  else C.cfg.filingFeeCents

/-- The identifier of a new case. -/
def caseIdOf (filerId : String) (params : FileSuitParams) (tick : Int) (s : CourtState L) :
    String :=
  stableId "case" [C.runId, filerId, params.defendantId, toString tick, toString s.openCount]

/-- The event of a suit. -/
def filedDraft (caseId filerId : String) (params : FileSuitParams) (fee : Int) (txnId : Value) :
    Draft :=
  { kind := SUIT_FILED
    payload := [("case_id", .str caseId), ("type", .str params.caseType.text),
      ("plaintiff_id", .str filerId), ("defendant_id", .str params.defendantId),
      ("crime_id", Value.ofStr? params.crimeId), ("cause_of_action", .str params.cause),
      ("claim_cents", .int params.claimed), ("filing_fee_cents", .int fee),
      ("evidence_event_seqs", .list (params.evidence.map .int)), ("txn_id", txnId)]
    actorId := some filerId
    subjectIds := [filerId, params.defendantId] }

/-- The new case. -/
def newCase (caseId filerId : String) (params : FileSuitParams) (tick : Int) : CourtCase :=
  { caseId, type := params.caseType, plaintiffId := some filerId,
    defendantId := params.defendantId, crimeId := params.crimeId, causeOfAction := params.cause,
    claimCents := params.claimed, filedTick := tick, evidenceEventSeqs := params.evidence,
    claim_nonneg := Int.natCast_nonneg _ }

/-- `file`. -/
def file (filerId : String) (params : FileSuitParams) (tick : Int) :
    CourtM L (List (Events.Event Value)) := do
  let s ← get
  let caseId := C.caseIdOf filerId params tick s
  let fee := C.fee filerId params
  let event ← C.stageTransferEvent (filedDraft caseId filerId params fee) filerId "government" fee
    "transfer" tick
  modify (CourtState.add (newCase caseId filerId params tick))
  pure [event]

end CourtService

end Polis.Society
