/-
  Polis.Events.Log — staging, savepoints and commits (`events/log.py`).

  A call that raises leaves the log as the source leaves it: `stage` counts
  its sequence number up before it seals, and `commit` rolls the whole batch
  back whichever of its two sinks failed.

  Main results:
    * `stage_cases` — everything a call of `stage` can do.
    * `commit_cases` — everything a call of `commit` can do.
-/
import Polis.Events.Verify
import Polis.Lib.Effect

namespace Polis.Events

open Lib.Effect

/-! ## Event kinds -/

/-- `Persistence`. -/
inductive Persistence where
  | persisted | sampled | ephemeral
  deriving Repr, DecidableEq

/-- `KIND_RANGES`: the declared ranges with their persistence. -/
def KIND_RANGES : List (Int × Int × Persistence) :=
  [(1000, 1999, .persisted), (2000, 2004, .persisted), (2005, 2005, .sampled),
   (2006, 2999, .persisted), (3000, 3999, .persisted), (4000, 4009, .sampled),
   (4010, 4010, .persisted), (4011, 4019, .sampled), (4020, 4020, .persisted),
   (4021, 4099, .sampled), (4100, 4199, .persisted), (4200, 4999, .persisted),
   (5000, 5999, .persisted), (6000, 6999, .persisted), (7000, 7999, .persisted),
   (8000, 8999, .persisted), (9000, 9999, .persisted), (10000, 10999, .persisted),
   (11000, 11020, .persisted), (11021, 11021, .sampled), (11022, 11999, .persisted),
   (12000, 12999, .persisted), (13000, 13999, .persisted), (14000, 14999, .persisted),
   (15000, 15999, .persisted), (20000, 20999, .persisted), (90000, 90999, .ephemeral),
   (99000, 99999, .persisted)]

/-- `range_for(kind).persistence`. -/
def rangePersistence (kind : Int) : Option Persistence :=
  (KIND_RANGES.find? fun r => r.1 ≤ kind && kind ≤ r.2.1).map fun r => r.2.2

/-! ## The log -/

variable {P : Type}

/-- `CognitionSampler.keep`: the routed mode is read off the payload. -/
structure CognitionSampler (P : Type) where
  keep : Event P → Bool

/-- What an `EventLog` is built with. -/
structure LogConfig (P : Type) where
  runId : RunId
  validate : Bool := true
  sampler : Option (CognitionSampler P) := none
  /-- Membership in the kind registry. -/
  isKnown : Int → Bool

/-- The mutable part of an `EventLog`.  A fresh `object()` is the next
number. -/
structure EventLog (P : Type) where
  lastSeq : Int
  chainHash : String
  staged : List (Event P)
  droppedSampled : Nat
  rollbackSeq : Int
  rollbackHash : String
  batchToken : Nat
  deriving DecidableEq

/-- `EventLog.__init__`. -/
def EventLog.new (startSeq : Int) (startPrevHash : String) : EventLog P :=
  { lastSeq := startSeq, chainHash := startPrevHash, staged := [], droppedSampled := 0,
    rollbackSeq := startSeq, rollbackHash := startPrevHash, batchToken := 0 }

/-- `EventSavepoint`. -/
structure EventSavepoint where
  stagedLen : Nat
  lastSeq : Int
  chainHash : String
  droppedSampled : Nat
  batchToken : Nat
  deriving Repr, DecidableEq

/-- `CommitResult`. -/
structure CommitResult where
  tick : Int
  persisted : Nat
  ephemeral : Nat
  droppedSampled : Nat
  firstSeq : Int
  lastSeq : Int
  chainHash : String
  deriving Repr, DecidableEq

/-- What a call on the log raises. -/
inductive LogFault where
  | payload (fault : PayloadFault)
  | kind (kind : Int)
  /-- `seal` raised: a number out of range, a time with microseconds, ... -/
  | encoding
  | staleSavepoint
  | sink
  deriving Repr, DecidableEq

/-- The staged events that go to the durable sink. -/
def persistedOf (staged : List (Event P)) : List (Event P) :=
  staged.filter fun e => e.seq ≠ EPHEMERAL_SEQ

/-- The staged events that are only published. -/
def ephemeralOf (staged : List (Event P)) : List (Event P) :=
  staged.filter fun e => e.seq = EPHEMERAL_SEQ

/-! ## Staging -/

/-- The event an ephemeral draft becomes. -/
def ephemeralEvent (cfg : LogConfig P) (draft : NewEvent P) (tick : Int) (simTime : SimTime) :
    Event P :=
  { seq := EPHEMERAL_SEQ, runId := cfg.runId, tick, simTime, kind := draft.kind,
    actorId := draft.actorId, subjectIds := sortedIds draft.subjectIds,
    causeSeq := draft.causeSeq, payload := draft.payload, sig := draft.sig,
    prevHash := "", hash := "" }

/-- The event the sampler is asked about. -/
def candidateEvent (cfg : LogConfig P) (log : EventLog P) (draft : NewEvent P) (tick : Int)
    (simTime : SimTime) : Event P :=
  { seq := log.lastSeq + 1, runId := cfg.runId, tick, simTime, kind := draft.kind,
    actorId := draft.actorId, subjectIds := sortedIds draft.subjectIds,
    causeSeq := draft.causeSeq, payload := draft.payload, sig := draft.sig,
    prevHash := log.chainHash, hash := "" }

/-- The sampler drops the candidate of a sampled kind. -/
def sampledOut (cfg : LogConfig P) (persistence : Persistence) (candidate : Event P) : Bool :=
  persistence = .sampled && (cfg.sampler.any fun s => !s.keep candidate)

variable [CanonicalJson P] [Sha256] [PayloadSchemas P]

/-- The payload check at the start of `stage`. -/
def checkPayload (cfg : LogConfig P) (draft : NewEvent P) :
    EStateM LogFault (EventLog P) Unit :=
  if cfg.validate then
    match PayloadSchemas.validatePayload draft.kind draft.payload with
    | .ok () => pure ()
    | .error fault => throw (.payload fault)
  else pure ()

/-- The end of `stage`: the sequence number is counted up before `seal` runs. -/
def stageSealed (cfg : LogConfig P) (draft : NewEvent P) (tick : Int) (simTime : SimTime) :
    EStateM LogFault (EventLog P) (Event P) := fun log =>
  let counted := { log with lastSeq := log.lastSeq + 1 }
  match sealEvent draft (log.lastSeq + 1) cfg.runId tick simTime log.chainHash with
  | none => .error .encoding counted
  | some event =>
    .ok event { counted with chainHash := event.hash, staged := log.staged ++ [event] }

/-- The branch of `stage` for kinds that are not ephemeral. -/
def stagePersistent (cfg : LogConfig P) (draft : NewEvent P) (tick : Int) (simTime : SimTime)
    (persistence : Persistence) : EStateM LogFault (EventLog P) (Event P) := fun log =>
  let candidate := candidateEvent cfg log draft tick simTime
  if sampledOut cfg persistence candidate then
    .ok candidate { log with droppedSampled := log.droppedSampled + 1 }
  else stageSealed cfg draft tick simTime log

/-- `EventLog.stage`. -/
def stage (cfg : LogConfig P) (draft : NewEvent P) (tick : Int) (simTime : SimTime) :
    EStateM LogFault (EventLog P) (Event P) := do
  checkPayload cfg draft
  let persistence ← orRaise (rangePersistence draft.kind) (.kind draft.kind)
  if persistence = .ephemeral then do
    let event := ephemeralEvent cfg draft tick simTime
    modify fun log => { log with staged := log.staged ++ [event] }
    pure event
  else do
    require (cfg.isKnown draft.kind = true) (.kind draft.kind)
    stagePersistent cfg draft tick simTime persistence

/-! ## Savepoints and rollback -/

/-- `EventLog.savepoint`. -/
def EventLog.savepoint (log : EventLog P) : EventSavepoint :=
  { stagedLen := log.staged.length, lastSeq := log.lastSeq, chainHash := log.chainHash,
    droppedSampled := log.droppedSampled, batchToken := log.batchToken }

/-- The check `rollback_to` makes. -/
def EventLog.Accepts (log : EventLog P) (sp : EventSavepoint) : Prop :=
  sp.batchToken = log.batchToken ∧ sp.stagedLen ≤ log.staged.length

instance (log : EventLog P) (sp : EventSavepoint) : Decidable (log.Accepts sp) :=
  inferInstanceAs (Decidable (_ ∧ _))

/-- The log back at a savepoint. -/
def EventLog.backTo (log : EventLog P) (sp : EventSavepoint) : EventLog P :=
  { log with
    staged := log.staged.take sp.stagedLen
    lastSeq := sp.lastSeq
    chainHash := sp.chainHash
    droppedSampled := sp.droppedSampled }

/-- `EventLog.rollback_to`. -/
def rollbackTo (sp : EventSavepoint) : EStateM LogFault (EventLog P) Unit := do
  let log ← get
  require (log.Accepts sp) .staleSavepoint
  set (log.backTo sp)

/-- `EventLog.rollback`. -/
def EventLog.rollback (log : EventLog P) : EventLog P :=
  { log with
    lastSeq := log.rollbackSeq
    chainHash := log.rollbackHash
    staged := []
    droppedSampled := 0
    batchToken := log.batchToken + 1 }

/-! ## Committing -/

/-- How the two sinks answer one commit. -/
structure SinkAnswer where
  /-- `sink.append` raises without storing the batch. -/
  appendRaises : Bool := false
  /-- `ephemeral_sink.publish` raises. -/
  publishRaises : Bool := false
  deriving Repr, DecidableEq

/-- The log together with what its sinks have received. -/
structure System (P : Type) where
  log : EventLog P
  stored : List (Event P) := []
  published : List (Event P) := []
  deriving DecidableEq

/-- The log after a commit that reached its end. -/
def EventLog.committed (log : EventLog P) : EventLog P :=
  { log with
    staged := []
    droppedSampled := 0
    rollbackSeq := log.lastSeq
    rollbackHash := log.chainHash
    batchToken := log.batchToken + 1 }

/-- What a commit that reached its end reports. -/
def EventLog.commitResult (log : EventLog P) (tick : Int) : CommitResult :=
  { tick
    persisted := (persistedOf log.staged).length
    ephemeral := (ephemeralOf log.staged).length
    droppedSampled := log.droppedSampled
    firstSeq := ((persistedOf log.staged).head?.map fun e => e.seq).getD log.lastSeq
    lastSeq := log.lastSeq
    chainHash := log.chainHash }

/-- `EventLog.commit`: either sink raising rolls the log back. -/
def commit (tick : Int) (answer : SinkAnswer) : EStateM LogFault (System P) CommitResult :=
  fun sys =>
    if answer.appendRaises then .error .sink { sys with log := sys.log.rollback }
    else
      let stored := sys.stored ++ persistedOf sys.log.staged
      if answer.publishRaises then .error .sink { sys with stored, log := sys.log.rollback }
      else
        .ok (sys.log.commitResult tick)
          { stored
            published := sys.published ++ ephemeralOf sys.log.staged
            log := sys.log.committed }

/-! ## What the calls can do -/

/-- Sealing is reached: the kind is durable, known and not sampled out. -/
def ReachesSeal (cfg : LogConfig P) (log : EventLog P) (draft : NewEvent P) (tick : Int)
    (simTime : SimTime) : Prop :=
  ∃ p, rangePersistence draft.kind = some p ∧ p ≠ .ephemeral ∧ cfg.isKnown draft.kind = true ∧
    sampledOut cfg p (candidateEvent cfg log draft tick simTime) = false

/-- The outcomes of a call of `stage`. -/
inductive Staged (cfg : LogConfig P) (draft : NewEvent P) (tick : Int) (simTime : SimTime)
    (log : EventLog P) : EStateM.Result LogFault (EventLog P) (Event P) → Prop
  /-- An error before sealing. -/
  | refused (fault : LogFault) : Staged cfg draft tick simTime log (.error fault log)
  /-- A sampled event that is not kept. -/
  | dropped : Staged cfg draft tick simTime log
      (.ok (candidateEvent cfg log draft tick simTime)
        { log with droppedSampled := log.droppedSampled + 1 })
  | ephemeral : Staged cfg draft tick simTime log
      (.ok (ephemeralEvent cfg draft tick simTime)
        { log with staged := log.staged ++ [ephemeralEvent cfg draft tick simTime] })
  | sealed (e : Event P)
      (h : sealEvent draft (log.lastSeq + 1) cfg.runId tick simTime log.chainHash = some e) :
      Staged cfg draft tick simTime log
        (.ok e { log with
          lastSeq := log.lastSeq + 1
          chainHash := e.hash
          staged := log.staged ++ [e] })
  /-- `seal` raised after the sequence number was counted up. -/
  | broken (hreach : ReachesSeal cfg log draft tick simTime)
      (h : sealEvent draft (log.lastSeq + 1) cfg.runId tick simTime log.chainHash = none) :
      Staged cfg draft tick simTime log
        (.error .encoding { log with lastSeq := log.lastSeq + 1 })

omit [CanonicalJson P] [Sha256] in
theorem checkPayload_cases (cfg : LogConfig P) (draft : NewEvent P) (log : EventLog P) :
    checkPayload cfg draft log = .ok () log ∨ ∃ f, checkPayload cfg draft log = .error f log := by
  unfold checkPayload
  by_cases hv : cfg.validate = true
  · rw [if_pos hv]
    cases PayloadSchemas.validatePayload draft.kind draft.payload with
    | ok u => exact Or.inl rfl
    | error fault => exact Or.inr ⟨_, rfl⟩
  · rw [if_neg hv]
    exact Or.inl rfl

omit [PayloadSchemas P] in
theorem stagePersistent_cases {cfg : LogConfig P} {draft : NewEvent P} {tick : Int}
    {simTime : SimTime} {p : Persistence} {log : EventLog P}
    (hp : rangePersistence draft.kind = some p) (hne : p ≠ .ephemeral)
    (hk : cfg.isKnown draft.kind = true) :
    Staged cfg draft tick simTime log (stagePersistent cfg draft tick simTime p log) := by
  unfold stagePersistent
  by_cases hs : sampledOut cfg p (candidateEvent cfg log draft tick simTime) = true
  · simp only [hs, if_true]
    exact .dropped
  · simp only [hs, if_false, Bool.false_eq_true]
    unfold stageSealed
    cases hseal : sealEvent draft (log.lastSeq + 1) cfg.runId tick simTime log.chainHash with
    | none => exact .broken ⟨p, hp, hne, hk, Bool.not_eq_true _ ▸ hs⟩ hseal
    | some e => exact .sealed e hseal

theorem stage_cases (cfg : LogConfig P) (log : EventLog P) (draft : NewEvent P) (tick : Int)
    (simTime : SimTime) :
    Staged cfg draft tick simTime log (stage cfg draft tick simTime log) := by
  unfold stage
  rcases checkPayload_cases cfg draft log with hc | ⟨f, hc⟩
  · rw [bind_of_ok hc]
    cases hp : rangePersistence draft.kind with
    | none => exact .refused _
    | some p =>
      rw [bind_of_ok (orRaise_eq_ok.mpr ⟨rfl, rfl⟩)]
      by_cases hne : p = .ephemeral
      · subst hne
        exact .ephemeral
      · rw [if_neg hne]
        by_cases hk : cfg.isKnown draft.kind = true
        · rw [bind_of_ok (require_pass hk _ log)]
          exact stagePersistent_cases hp hne hk
        · rw [bind_of_error (require_fail hk _ log)]
          exact .refused _
  · rw [bind_of_error hc]
    exact .refused f

omit [CanonicalJson P] [Sha256] [PayloadSchemas P] in
theorem rollbackTo_cases (sp : EventSavepoint) (log : EventLog P) :
    stateAfter (rollbackTo sp log) = if log.Accepts sp then log.backTo sp else log := by
  unfold rollbackTo
  by_cases h : log.Accepts sp
  · rw [get_bind, bind_of_ok (require_pass h _ log), if_pos h]
    rfl
  · rw [get_bind, bind_of_error (require_fail h _ log), if_neg h]
    rfl

omit [CanonicalJson P] [Sha256] [PayloadSchemas P] in
theorem commit_cases (tick : Int) (answer : SinkAnswer) (sys : System P) :
    let after := stateAfter (commit tick answer sys)
    (answer.appendRaises = true ∧ after = { sys with log := sys.log.rollback }) ∨
    (answer.appendRaises = false ∧ answer.publishRaises = true ∧
      after = { sys with
        stored := sys.stored ++ persistedOf sys.log.staged, log := sys.log.rollback }) ∨
    (answer.appendRaises = false ∧ answer.publishRaises = false ∧
      commit tick answer sys = .ok (sys.log.commitResult tick) after ∧
      after = { sys with
        stored := sys.stored ++ persistedOf sys.log.staged
        published := sys.published ++ ephemeralOf sys.log.staged
        log := sys.log.committed }) := by
  intro after
  cases ha : answer.appendRaises with
  | true =>
    left
    refine ⟨rfl, ?_⟩
    simp [after, commit, ha]
  | false =>
    right
    cases hp : answer.publishRaises with
    | true =>
      left
      refine ⟨rfl, rfl, ?_⟩
      simp [after, commit, ha, hp]
    | false =>
      right
      refine ⟨rfl, rfl, ?_, ?_⟩ <;> simp [after, commit, ha, hp]

end Polis.Events
