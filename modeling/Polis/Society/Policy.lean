/-
  Polis.Society.Policy — proposals, admissibility, the council session and
  enactment (`society/policy.py`).

  What the engine reads from outside (the offices, the fiscal projector and
  the votes) is an argument of each call, so it may change from one call to
  the next.
-/
import Polis.Society.Overlay
import Polis.Society.PolicyRegistry
import Polis.Society.Staging

namespace Polis

/-! ## Values -/

namespace Value

mutual

/-- `==` on values: a truth value equals the number it stands for. -/
def pyEq : Value → Value → Bool
  | .none, .none => true
  | .bool a, .bool b => a == b
  | .bool a, .int n => (if a then 1 else 0) == n
  | .int n, .bool b => n == (if b then 1 else 0)
  | .int m, .int n => m == n
  | .str s, .str t => s == t
  | .list xs, .list ys => pyEqList xs ys
  | .dict xs, .dict ys => xs.length == ys.length && pyEqMembers xs ys
  | _, _ => false

def pyEqList : List Value → List Value → Bool
  | [], [] => true
  | x :: xs, y :: ys => pyEq x y && pyEqList xs ys
  | _, _ => false

def pyEqMembers : List (String × Value) → List (String × Value) → Bool
  | [], _ => true
  | (k, x) :: xs, ys => (ys.lookup k).any (pyEq x) && pyEqMembers xs ys

end

end Value

end Polis

namespace Polis.Society

open Lib Lib.Effect Polis.Events

/-! ## Event kinds -/

def POLICY_PROPOSED : Int := 12025
def POLICY_REJECTED : Int := 12026
def POLICY_VOTED : Int := 12027
def POLICY_VETOED : Int := 12028
def POLICY_ENACTED : Int := 12030
def POLICY_REPEALED : Int := 12032
def POLICY_BLOCKED : Int := 12033

/-! ## Proposals and their repository -/

/-- `Proposal`. -/
structure Proposal where
  proposalId : String
  proposerId : String
  parameter : String
  oldValue : Value
  proposedValue : Value
  rationale : String
  cosigners : List String
  proposedTick : Int

/-- `Admissibility`; `failed` names the predicate. -/
structure Admissibility where
  admissible : Bool
  failed : Option String
  detail : String := ""
  deriving Repr, DecidableEq

/-- `PolicyRecord`; the vote margin is a float and appears as its JSON value. -/
structure PolicyRecord where
  policyId : UUID
  parameter : String
  oldValue : Value
  newValue : Value
  enactedTick : Int
  effectiveTick : Int
  enactedBy : String
  voteMargin : Value
  proposalSeq : Int
  repealedTick : Option Int := none

/-- `MemoryPolicyRepository`. -/
structure PolicyRepository where
  proposals : Dict String Proposal := ∅
  proposalSeqs : Dict String Int := ∅
  closed : List String := []
  records : Dict String (List PolicyRecord) := ∅

namespace PolicyRepository

/-- `add_proposal`. -/
def addProposal (repo : PolicyRepository) (p : Proposal) (eventSeq : Int) : PolicyRepository :=
  { repo with
    proposals := repo.proposals.put p.proposalId p
    proposalSeqs := repo.proposalSeqs.put p.proposalId eventSeq }

/-- `pending`: the proposals that are not closed, by identifier. -/
def pending (repo : PolicyRepository) : List Proposal :=
  (repo.proposals.sortedEntries.filter fun e => e.1 ∉ repo.closed).map Prod.snd

/-- `proposal_seq`. -/
def proposalSeq (repo : PolicyRepository) (proposalId : String) : Except PyError Int :=
  match repo.proposalSeqs.get? proposalId with
  | some seq => .ok seq
  | none => .error (.key proposalId)

/-- `close_proposal`. -/
def closeProposal (repo : PolicyRepository) (proposalId : String) : PolicyRepository :=
  { repo with closed := proposalId :: repo.closed }

/-- `history`. -/
def history (repo : PolicyRepository) (parameter : String) : List PolicyRecord :=
  repo.records.getD parameter []

/-- The last record, which the next one repeals. -/
def markRepealed (tick : Int) : List PolicyRecord → List PolicyRecord
  | [] => []
  | [row] => [{ row with repealedTick := some tick }]
  | row :: rows => row :: markRepealed tick rows

/-- `live`: the last record of a parameter. -/
def live (repo : PolicyRepository) (parameter : String) : Option PolicyRecord :=
  (repo.history parameter).getLast?

/-- `enact`; the record it returns is the one that was `live`. -/
def enact (repo : PolicyRepository) (record : PolicyRecord) : PolicyRepository :=
  { repo with
    records := repo.records.put record.parameter
      (markRepealed record.enactedTick (repo.history record.parameter) ++ [record]) }

end PolicyRepository

/-! ## What the engine reads -/

/-- `FiscalSnapshot`. -/
structure FiscalSnapshot where
  currentBalanceCents : Int := 0
  projectedRevenueCents : Int := 0
  projectedOutlayCents : Int := 0
  medianWageCents : Int := 0
  population : Int := 0
  moneyDeltaCents : Int := 0

/-- `FiscalProjector.snapshot`: overlay, horizon and tick. -/
abbrev FiscalProjector := Dict String Value → Int → Int → FiscalSnapshot

namespace FiscalProjector

/-- `projected_balance`. -/
def projectedBalance (fiscal : FiscalProjector) (overlay : Dict String Value)
    (horizon tick : Int) : Int :=
  let row := fiscal overlay horizon tick
  row.currentBalanceCents + row.projectedRevenueCents - row.projectedOutlayCents

/-- `money_delta`. -/
def moneyDelta (fiscal : FiscalProjector) (overlay : Dict String Value) (horizon tick : Int) :
    Int := (fiscal overlay horizon tick).moneyDeltaCents

end FiscalProjector

/-- What `holder` answers when an office is not vacant. -/
inductive Holder where
  | one (agentId : String)
  | many (agentIds : List String)
  deriving Repr, DecidableEq

/-- What a call of the engine reads from outside: the offices
(`OfficeLookup`), the fiscal projector and the vote provider. -/
structure Polity where
  holdsOffice : String → Int → Option String
  holder : String → Int → Option Holder
  fiscal : FiscalProjector
  voteProvider : String → Proposal → String

/-- What a `PolicyEngine` is built with. -/
structure PolicyEngine where
  journal : Journal
  base : Base
  /-- The settings flags that enable rows of the registry. -/
  settingFlag : String → Bool
  campaignLengthSimDays : Nat
  councilSeats : Nat

namespace PolicyEngine

def registry (E : PolicyEngine) : List PolicySpec := registryFor E.settingFlag

def clock (E : PolicyEngine) : Kernel.Clock := E.journal.clock

end PolicyEngine

/-- The mutable state of a `PolicyEngine`: overlay, repository and log. -/
structure PolicyState where
  runtime : RuntimeConfig := {}
  repo : PolicyRepository := {}
  world : World Value

namespace PolicyState

/-- The state with another log. -/
def withLog (s : PolicyState) (log : EventLog Value) : PolicyState :=
  { s with world := s.world.withLog log }

def log (s : PolicyState) : EventLog Value := s.world.sys.log

end PolicyState

abbrev PolicyM := EStateM Fault PolicyState

namespace PolicyEngine

variable [CanonicalJson Value] [Sha256] [PayloadSchemas Value] (E : PolicyEngine)

/-- `PolicyEngine._emit`. -/
def emit (d : Draft) (tick : Int) : PolicyM (Events.Event Value) :=
  zoom PolicyState.log PolicyState.withLog (Society.emit E.journal d tick)

/-! ## Proposing -/

/-- The `POLICY_PROPOSED` event. -/
def proposedDraft (p : Proposal) : Draft :=
  { kind := POLICY_PROPOSED
    payload := [("proposal_id", .str p.proposalId), ("proposer_id", .str p.proposerId),
      ("parameter", .str p.parameter), ("old_value", p.oldValue),
      ("proposed_value", p.proposedValue), ("rationale", .str p.rationale),
      ("cosigners", Value.strs p.cosigners)]
    actorId := some p.proposerId
    subjectIds := p.proposerId :: p.cosigners }

/-- `propose`. -/
def propose (p : Proposal) : PolicyM (Events.Event Value) := do
  let event ← E.emit (proposedDraft p) p.proposedTick
  modify fun s => { s with repo := s.repo.addProposal p event.seq }
  pure event

/-! ## Admissibility -/

/-- `_dynamic_hi`. -/
def dynamicHi (marker : Bound) (fiscal : FiscalProjector) (p : Proposal) (tick : Int) :
    Option Int :=
  let horizon := E.clock.ticksPerSimYear
  let row := fiscal (Dict.ofList [(p.parameter, p.proposedValue)]) horizon tick
  match marker with
  | .int n => some n
  | .marker "median_wage" => some row.medianWageCents
  | .marker "2x_median_wage" => some (2 * row.medianWageCents)
  | .marker "3x_median_wage" => some (3 * row.medianWageCents)
  | .marker "20pct_population" => some (row.population / 5)
  | .marker "2_sim_years" => some (2 * horizon)
  | _ => none

/-- `int(spec.lo)` where `spec.lo` is not `None`. -/
def loNumber : Bound → Except PyError (Option Int)
  | .none => .ok none
  | .int n => .ok (some n)
  | .marker s => .error (.value ("invalid literal for int() with base 10: '" ++ s ++ "'"))
  | .choices _ => .error (.value "int() argument must be a number")

/-- A row of a bracket table: a threshold and a rate. -/
def bracketRow : Value → Option (Int × Int)
  | .list [.int threshold, .int rate] => some (threshold, rate)
  | _ => none

/-- The branch of `_range_failure` for bracket tables. -/
def bracketsFailure (lo hi : Int) : Value → Option String
  | .list rows =>
    if ¬(1 ≤ rows.length ∧ rows.length ≤ 5) then
      some "brackets must contain between one and five rows"
    else if ∀ row ∈ rows, (bracketRow row).any fun r => lo ≤ r.2 ∧ r.2 ≤ hi then none
    else some "brackets contain an invalid threshold or rate"
  | _ => some "brackets must contain between one and five rows"

/-- The types whose values may not be negative. -/
def nonnegativeType (t : PyType) : Bool := t = .int || t = .cents || t = .optionalCents

/-- The branch of `_range_failure` for numbers. -/
def numberFailure (spec : PolicySpec) (hi : Option Int) (value : Int) :
    Except PyError (Option String) := do
  let lo ← loNumber spec.lo
  match lo with
  | some lo =>
    if value < lo ∧ ¬(nonnegativeType spec.pyType ∧ lo = 0 ∧ value < 0) then
      pure (some ("value is below " ++ toString lo))
    else pure (above hi)
  | none => pure (above hi)
where
  above : Option Int → Option String
    | some hi => if value > hi then some ("value is above " ++ toString hi) else none
    | none => none

/-- `_range_failure`. -/
def rangeFailure (fiscal : FiscalProjector) (p : Proposal) (tick : Int) :
    Except PyError (Option String) :=
  match specOf E.registry p.parameter with
  | none => .ok (some "parameter is outside the closed policy registry")
  | some spec =>
    match spec.pyType, p.proposedValue with
    | .bool, .bool _ => .ok none
    | .bool, _ => .ok (some "value must be boolean")
    | .enum, value =>
      match spec.lo, value with
      | .choices names, .str s =>
        .ok (if s ∈ names then none else some "value is outside the enum")
      | .choices _, _ => .ok (some "value is outside the enum")
      | _, _ => .ok (some "policy registry contains an invalid enum")
    | .brackets, value =>
      match spec.lo, spec.hi with
      | .int lo, .int hi => .ok (bracketsFailure lo hi value)
      | _, _ => .ok (some "policy registry contains invalid bracket bounds")
    | .optionalBp, .none => .ok none
    | .optionalCents, .none => .ok none
    | _, .int n => numberFailure spec (E.dynamicHi spec.hi fiscal p tick) n
    | _, _ => .ok (some "value must be an integer in canonical units")

/-- The prefixes that are not legislable. -/
def forbidden : List String :=
  ["run.", "llm.", "clock.", "mechanisms.", "ablations.", "population.", "world."]

/-- `parameter.startswith(forbidden)`. -/
def isForbidden (parameter : String) : Bool :=
  forbidden.any fun start => start.toList.isPrefixOf parameter.toList

/-- A count or price is negative. -/
def negative (spec : PolicySpec) : Value → Bool
  | .int n => nonnegativeType spec.pyType && n < 0
  | _ => false

/-- `thresholds == sorted(set(thresholds))`: they increase strictly. -/
def thresholdsIncrease : Value → Bool
  | .list rows => decide ((rows.filterMap fun row => (bracketRow row).map Prod.fst).Pairwise (· < ·))
  | _ => true

/-- The overlay a proposal is projected with. -/
def proposedOverlay (runtime : RuntimeConfig) (p : Proposal) (tick : Int) :
    Except PyError (Dict String Value) := do
  let names := (E.registry.map PolicySpec.parameter).insertionSort (· ≤ ·)
  let rows ← names.mapM fun name => do pure (name, ← runtime.get E.base name tick)
  let snapshot ← runtime.asOf E.base tick
  let overlay := snapshot.entries.foldl (fun d e => d.put e.1 e.2) (Dict.ofList rows)
  pure (overlay.put p.parameter p.proposedValue)

/-- The fiscal half of `admissible`. -/
def fiscallyAdmissible (runtime : RuntimeConfig) (fiscal : FiscalProjector) (p : Proposal)
    (tick : Int) : Except PyError Admissibility := do
  let horizon := E.clock.ticksPerSimYear
  let proposed ← E.proposedOverlay runtime p tick
  if fiscal.moneyDelta proposed horizon tick ≠ 0 then
    pure ⟨false, some "P-MONEY", "projected ledger legs are not balanced"⟩
  else do
    let fallback ← runtime.get E.base "government.debt_ceiling_cents" tick
    let ceiling ← pyInt (proposed.getD "government.debt_ceiling_cents" fallback)
    if fiscal.projectedBalance proposed horizon tick < -ceiling then
      pure ⟨false, some "P-SOLVENCY", "projection breaches the debt ceiling"⟩
    else pure ⟨true, none, ""⟩

/-- `admissible`. -/
def admissible (runtime : RuntimeConfig) (polity : Polity) (p : Proposal) (tick : Int) :
    Except PyError Admissibility :=
  if isForbidden p.parameter then
    .ok ⟨false, some "P-SCOPE", "simulation machinery is not legislable"⟩
  else do
    let failure ← E.rangeFailure polity.fiscal p tick
    match failure, specOf E.registry p.parameter with
    | some detail, _ => pure ⟨false, some "P-RANGE", detail⟩
    | none, none => throw (.key p.parameter)
    | none, some spec =>
      if negative spec p.proposedValue then
        pure ⟨false, some "P-NONNEGATIVE", "count or price cannot be negative"⟩
      else if spec.pyType = .brackets ∧ ¬thresholdsIncrease p.proposedValue then
        pure ⟨false, some "P-MONOTONE", "bracket thresholds must increase"⟩
      else if p.parameter = "money.policy_rate_bp" ∧
          polity.holdsOffice p.proposerId tick ≠ some "cb_governor" then
        pure ⟨false, some "P-SEPARATION",
          "only the central bank governor may set the policy rate"⟩
      else E.fiscallyAdmissible runtime polity.fiscal p tick

/-! ## Enactment -/

/-- `effective_tick_for`. -/
def effectiveTickFor (parameter : String) (enactedTick : Int) : Except PyError Int :=
  match specOf E.registry parameter with
  | none => .error (.key parameter)
  | some spec =>
    if spec.lag = "immediate" ∨ spec.lag = "next_judgment" then .ok (enactedTick + 1)
    else if spec.lag = "next_election" then
      .ok (enactedTick + max 1 (E.clock.ticksFor { days := max 1 E.campaignLengthSimDays }))
    else
      match Kernel.SimDuration.parse spec.lag with
      | .error e => .error e
      | .ok d => .ok (enactedTick + max 1 (E.clock.ticksFor d))

/-- `policy_id`. -/
def policyIdOf [Uuid5] (p : Proposal) (tick : Int) : UUID :=
  Kernel.detUuid "polis.policy" [p.proposalId, toString tick]

/-- The `POLICY_ENACTED` event. -/
def enactedDraft (policyId : UUID) (p : Proposal) (effectiveTick : Int) (enactedBy : String)
    (margin : Value) (proposalSeq : Int) : Draft :=
  { kind := POLICY_ENACTED
    payload := [("policy_id", .str policyId), ("parameter", .str p.parameter),
      ("old_value", p.oldValue), ("new_value", p.proposedValue),
      ("effective_tick", .int effectiveTick), ("enacted_by", .str enactedBy),
      ("vote_margin", margin), ("proposal_seq", .int proposalSeq)]
    actorId := some enactedBy
    subjectIds := [p.proposalId, policyId] }

/-- The `POLICY_REPEALED` event. -/
def repealedDraft (policyId : UUID) (p : Proposal) (prior : Option PolicyRecord) : Draft :=
  { kind := POLICY_REPEALED
    payload := [("policy_id", .str policyId), ("parameter", .str p.parameter),
      ("restored_value", p.proposedValue),
      ("repealed_policy_id", Value.ofStr? (prior.map PolicyRecord.policyId))] }

/-- The call of `runtime.enact`: when it raises, the log is rolled back. -/
def overlayEnact (e : Enactment) : PolicyM Unit := do
  let s ← get
  match s.runtime.enact E.base e with
  | .ok runtime => set { s with runtime }
  | .error err => do
    set (s.withLog s.log.rollback)
    throw (.posting err)

/-- The record before the last one. -/
def beforeLast (rows : List PolicyRecord) : Option PolicyRecord := rows.dropLast.getLast?

/-- The end of `enact`: an enactment of the value the one before replaced is
a repeal. -/
def noteRepeal (policyId : UUID) (p : Proposal) (prior : Option PolicyRecord) (tick : Int) :
    PolicyM (List (Events.Event Value)) := do
  let s ← get
  onlyIf (((beforeLast (s.repo.history p.parameter)).any
      fun row => p.proposedValue.pyEq row.oldValue) = true) do
    let event ← E.emit (repealedDraft policyId p prior) tick
    pure [event]

variable [Uuid5]

/-- `enact`. -/
def enact (p : Proposal) (margin : Value) (enactedBy : String) (tick : Int) :
    PolicyM (List (Events.Event Value)) := do
  let effectiveTick ← liftPy (E.effectiveTickFor p.parameter tick)
  let policyId := policyIdOf p tick
  let s ← get
  let proposalSeq ← liftPy (s.repo.proposalSeq p.proposalId)
  let event ← E.emit (enactedDraft policyId p effectiveTick enactedBy margin proposalSeq) tick
  E.overlayEnact
    { parameter := p.parameter, value := p.proposedValue, enactedTick := tick, effectiveTick,
      policyId, eventSeq := event.seq }
  let s ← get
  let record : PolicyRecord :=
    { policyId, parameter := p.parameter, oldValue := p.oldValue, newValue := p.proposedValue,
      enactedTick := tick, effectiveTick, enactedBy, voteMargin := margin, proposalSeq }
  modify fun s => { s with repo := (s.repo.enact record).closeProposal p.proposalId }
  let repeal ← E.noteRepeal policyId p (s.repo.live p.parameter) tick
  pure (event :: repeal)

/-! ## The council session -/

/-- The council: a sole holder is a council of one. -/
def members (polity : Polity) (tick : Int) : List String :=
  match polity.holder "council" tick with
  | none => []
  | some (.one agentId) => [agentId]
  | some (.many agentIds) => agentIds

/-- The votes of a session on a proposal, by member. -/
def votes (polity : Polity) (p : Proposal) (tick : Int) : List (String × String) :=
  ((members polity tick).insertionSort (· ≤ ·)).map fun m => (m, polity.voteProvider m p)

def yeas (polity : Polity) (p : Proposal) (tick : Int) : Nat :=
  (votes polity p tick).countP fun row => row.2 = "aye"

def nays (polity : Polity) (p : Proposal) (tick : Int) : Nat :=
  (votes polity p tick).countP fun row => row.2 = "nay"

def abstentions (polity : Polity) (p : Proposal) (tick : Int) : Int :=
  (votes polity p tick).length - yeas polity p tick - nays polity p tick

/-- `passed`. -/
def passes (polity : Polity) (p : Proposal) (tick : Int) : Bool :=
  nays polity p tick < yeas polity p tick && 0 < yeas polity p tick

/-- The president, where one agent holds the office, and votes against. -/
def vetoedBy (polity : Polity) (p : Proposal) (tick : Int) : Option String :=
  match polity.holder "president" tick with
  | some (.one agentId) => if polity.voteProvider agentId p = "nay" then some agentId else none
  | _ => none

/-- `overridden`: a full council, of which two thirds voted aye. -/
def overrides (polity : Polity) (p : Proposal) (tick : Int) : Bool :=
  E.councilSeats ≤ (members polity tick).length &&
    E.councilSeats * 2 ≤ yeas polity p tick * 3

/-- The `POLICY_BLOCKED` event. -/
def blockedDraft (p : Proposal) (a : Admissibility) : Draft :=
  { kind := POLICY_BLOCKED
    payload := [("proposal_id", .str p.proposalId), ("predicate", Value.ofStr? a.failed),
      ("detail", .str a.detail)]
    subjectIds := [p.proposalId] }

/-- The `POLICY_REJECTED` event. -/
def rejectedDraft (polity : Polity) (p : Proposal) (tick : Int) : Draft :=
  { kind := POLICY_REJECTED
    payload := [("proposal_id", .str p.proposalId), ("yeas", .int (yeas polity p tick)),
      ("nays", .int (nays polity p tick)), ("abstentions", .int (abstentions polity p tick))] }

variable [FloatValue]

/-- `margin`. -/
def margin (polity : Polity) (p : Proposal) (tick : Int) : Value :=
  FloatValue.ofRat (Kernel.round6
    ((yeas polity p tick - nays polity p tick) / (max 1 (votes polity p tick).length : Nat)))

/-- The `POLICY_VOTED` event. -/
def votedDraft (polity : Polity) (p : Proposal) (tick : Int) : Draft :=
  { kind := POLICY_VOTED
    payload := [("proposal_id", .str p.proposalId), ("chamber", .str "council"),
      ("votes", .list ((votes polity p tick).map fun row => .dict
        [("agent_id", .str row.1), ("choice", .str row.2), ("origin", .str "reflex")])),
      ("yeas", .int (yeas polity p tick)), ("nays", .int (nays polity p tick)),
      ("abstentions", .int (abstentions polity p tick)),
      ("passed", .bool (passes polity p tick)), ("margin", margin polity p tick)]
    subjectIds := [p.proposalId] }

/-- The `POLICY_VETOED` event. -/
def vetoedDraft (polity : Polity) (p : Proposal) (tick : Int) (presidentId : String) : Draft :=
  { kind := POLICY_VETOED
    payload := [("proposal_id", .str p.proposalId), ("president_id", .str presidentId),
      ("overridden", .bool (E.overrides polity p tick)),
      ("override_margin", margin polity p tick)] }

/-- Stage the last event of a proposal and close it. -/
def closeWith (d : Draft) (p : Proposal) (tick : Int) : PolicyM (List (Events.Event Value)) := do
  let event ← E.emit d tick
  modify fun s => { s with repo := s.repo.closeProposal p.proposalId }
  pure [event]

/-- The end of a vote that passed: the president's veto, where the parameter
needs the president, and the enactment. -/
def afterPassing (polity : Polity) (p : Proposal) (spec : PolicySpec) (tick : Int) :
    PolicyM (List (Events.Event Value)) :=
  match (if spec.authority = .councilAndPresident then vetoedBy polity p tick else none) with
  | none => E.enact p (margin polity p tick) "council" tick
  | some presidentId =>
    if E.overrides polity p tick then do
      let event ← E.emit (E.vetoedDraft polity p tick presidentId) tick
      let events ← E.enact p (margin polity p tick) "council" tick
      pure (event :: events)
    else E.closeWith (E.vetoedDraft polity p tick presidentId) p tick

/-- The council votes on an admissible proposal. -/
def councilVote (polity : Polity) (p : Proposal) (spec : PolicySpec) (tick : Int) :
    PolicyM (List (Events.Event Value)) := do
  let event ← E.emit (votedDraft polity p tick) tick
  let events ← if passes polity p tick then E.afterPassing polity p spec tick
    else E.closeWith (rejectedDraft polity p tick) p tick
  pure (event :: events)

/-- One turn of the loop of `council_session`. -/
def consider (polity : Polity) (tick : Int) (p : Proposal) :
    PolicyM (List (Events.Event Value)) := do
  let s ← get
  let a ← liftPy (E.admissible s.runtime polity p tick)
  if a.admissible then
    match specOf E.registry p.parameter with
    | none => throw (.py (.key p.parameter))
    | some spec =>
      if spec.authority = .cbGovernorOnly then
        E.enact p (FloatValue.ofRat 1) p.proposerId tick
      else E.councilVote polity p spec tick
  else E.closeWith (blockedDraft p a) p tick

/-- `council_session`. -/
def councilSession (polity : Polity) (tick : Int) : PolicyM (List (Events.Event Value)) := do
  let s ← get
  gather (E.consider polity tick) s.repo.pending

end PolicyEngine

end Polis.Society
