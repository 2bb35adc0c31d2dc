/-
  Polis.Society.Staging — how society services stage events
  (`_emit`, in every service).

  A service fails with a fault of its own or with one of the event log.

  Main results:
    * `emit_cases` — what one call of `_emit` does to the staged batch.
    * `recorded_call` — a call of another component records no event of a
      kind it does not stage.
-/
import Polis.Events.LogRuns
import Polis.Kernel.Clock
import Polis.Kernel.Rounding

namespace Polis.Society

open Lib.Effect Polis.Events

/-- What a society service raises; the errors of a posting (a ledger that
refuses a transfer, an overlay that refuses an enactment) are kept apart. -/
inductive Fault where
  | log (fault : LogFault)
  | py (error : PyError)
  | posting (error : PyError)
  deriving Repr, DecidableEq

/-- The JSON values of floats. -/
class FloatValue where
  ofRat : ℚ → Value

/-- A pure computation of the source inside a service. -/
def liftPy {σ α : Type} (x : Except PyError α) : EStateM Fault σ α :=
  match x with
  | .ok a => pure a
  | .error e => throw (.py e)

theorem liftPy_ok {σ α : Type} {a : α} {s : σ} : liftPy (.ok a) s = .ok a s := rfl

theorem liftPy_error {σ α : Type} {e : PyError} {s : σ} :
    (liftPy (.error e) : EStateM Fault σ α) s = .error (.py e) s := rfl

theorem liftPy_eq_ok {σ α : Type} {x : Except PyError α} {s t : σ} {a : α} :
    (liftPy x : EStateM Fault σ α) s = .ok a t ↔ x = .ok a ∧ s = t := by
  cases x with
  | ok b =>
    show (pure b : EStateM Fault σ α) s = .ok a t ↔ _
    rw [pure_eq_ok, Except.ok.injEq]
  | error e => exact iff_of_false (fun h => by cases h) (fun h => by cases h.1)

/-- The log a service stages in and the clock it stamps events with. -/
structure Journal where
  cfg : LogConfig Value
  clock : Kernel.Clock

/-- An event before it is stamped. -/
structure Draft where
  kind : Int
  payload : List (String × Value)
  actorId : Option String := none
  subjectIds : List String := []

/-- `NewEvent(kind, dict(payload), ...)`. -/
def Draft.newEvent (d : Draft) : Events.NewEvent Value :=
  { kind := d.kind, payload := .dict d.payload, actorId := d.actorId, subjectIds := d.subjectIds }

/-- The events a log has staged or stored. -/
def recorded (w : World Value) : List (Events.Event Value) := w.sys.stored ++ w.sys.log.staged

theorem mem_recorded {w : World Value} {e : Events.Event Value} :
    e ∈ recorded w ↔ e ∈ w.sys.stored ∨ e ∈ w.sys.log.staged := by
  simp [recorded]

theorem recorded_of_sublist {w : World Value} {log : EventLog Value}
    (h : log.staged.Sublist w.sys.log.staged) {e : Events.Event Value}
    (he : e ∈ recorded (w.withLog log)) : e ∈ recorded w := by
  rcases mem_recorded.mp he with he | he
  · exact mem_recorded.mpr (Or.inl he)
  · exact mem_recorded.mpr (Or.inr (h.subset he))

variable [CanonicalJson Value] [Sha256] [PayloadSchemas Value]

/-- `_emit`. -/
def emit (j : Journal) (d : Draft) (tick : Int) :
    EStateM Fault (EventLog Value) (Events.Event Value) := fun log =>
  match stage j.cfg d.newEvent tick (j.clock.simTimeAt tick) log with
  | .ok e log' => .ok e log'
  | .error f log' => .error (.log f) log'

omit [Sha256] [CanonicalJson Value] [PayloadSchemas Value] in
/-- The content of an event that a draft became. -/
def Draft.Became (d : Draft) (e : Events.Event Value) : Prop :=
  e.kind = d.kind ∧ e.payload = .dict d.payload

omit [PayloadSchemas Value] in
theorem became_of_seal {d : Draft} {seq : Int} {runId : RunId} {tick : Int} {simTime : SimTime}
    {prevHash : String} {e : Events.Event Value}
    (h : sealEvent d.newEvent seq runId tick simTime prevHash = some e) : d.Became e := by
  unfold sealEvent at h
  obtain ⟨digest, -, hsome⟩ := Option.bind_eq_some_iff.mp h
  cases hsome
  exact ⟨rfl, rfl⟩

theorem emit_cases (j : Journal) (d : Draft) (tick : Int) (log : EventLog Value) :
    (∃ f log', emit j d tick log = .error (.log f) log' ∧ log'.staged = log.staged) ∨
    (∃ event log', emit j d tick log = .ok event log' ∧
      (log'.staged = log.staged ∨ ∃ e, d.Became e ∧ log'.staged = log.staged ++ [e])) := by
  have hcases := stage_cases j.cfg log d.newEvent tick (j.clock.simTimeAt tick)
  unfold emit
  cases hr : stage j.cfg d.newEvent tick (j.clock.simTimeAt tick) log with
  | error f log' =>
    rw [hr] at hcases
    left
    refine ⟨_, _, rfl, ?_⟩
    cases hcases with
    | refused => rfl
    | broken => rfl
  | ok e log' =>
    rw [hr] at hcases
    right
    refine ⟨_, _, rfl, ?_⟩
    cases hcases with
    | dropped => exact Or.inl rfl
    | ephemeral => exact Or.inr ⟨_, ⟨rfl, rfl⟩, rfl⟩
    | sealed e he => exact Or.inr ⟨e, became_of_seal he, rfl⟩

theorem emit_became {j : Journal} {d : Draft} {tick : Int} {log log' : EventLog Value}
    {event : Events.Event Value} (h : emit j d tick log = .ok event log') : d.Became event := by
  have hcases := stage_cases j.cfg log d.newEvent tick (j.clock.simTimeAt tick)
  unfold emit at h
  cases hr : stage j.cfg d.newEvent tick (j.clock.simTimeAt tick) log with
  | error f log'' =>
    rw [hr] at h
    cases h
  | ok e log'' =>
    rw [hr] at h hcases
    cases h
    cases hcases with
    | dropped => exact ⟨rfl, rfl⟩
    | ephemeral => exact ⟨rfl, rfl⟩
    | sealed e he => exact became_of_seal he

/-- A draft of a durable kind is sealed behind the log. -/
theorem emit_sealed {j : Journal} {d : Draft} {tick : Int} {log log' : EventLog Value}
    {e : Events.Event Value} (hkind : rangePersistence d.kind = some .persisted)
    (h : emit j d tick log = .ok e log') :
    sealEvent d.newEvent (log.lastSeq + 1) j.cfg.runId tick (j.clock.simTimeAt tick)
      log.chainHash = some e ∧
    log' = { log with
      lastSeq := log.lastSeq + 1
      chainHash := e.hash
      staged := log.staged ++ [e] } := by
  unfold emit at h
  cases hstage : stage j.cfg d.newEvent tick (j.clock.simTimeAt tick) log with
  | error f log'' =>
    rw [hstage] at h
    cases h
  | ok e' log'' =>
    rw [hstage] at h
    cases h
    unfold stage at hstage
    obtain ⟨_, checked, hcheck, hstage⟩ := bind_eq_ok.mp hstage
    have hsame : log = checked := by
      rcases checkPayload_cases j.cfg d.newEvent log with hc | ⟨f, hc⟩
      · exact (EStateM.Result.ok.inj (hc.symm.trans hcheck)).2
      · cases hc.symm.trans hcheck
    subst hsame
    obtain ⟨p, _, hrange, hstage⟩ := bind_eq_ok.mp hstage
    obtain ⟨hp, rfl⟩ := orRaise_eq_ok.mp hrange
    obtain rfl := Option.some.inj (hkind.symm.trans hp)
    rw [if_neg (by decide)] at hstage
    obtain ⟨_, _, hknown, hstage⟩ := bind_eq_ok.mp hstage
    obtain ⟨-, rfl⟩ := require_eq_ok.mp hknown
    -- a persisted kind is not sampled out
    unfold stagePersistent sampledOut at hstage
    rw [if_neg (by simp)] at hstage
    unfold stageSealed at hstage
    split at hstage
    · cases hstage
    · next hseal =>
      cases hstage
      exact ⟨hseal, rfl⟩

theorem recorded_emit (j : Journal) (d : Draft) (tick : Int) (w : World Value)
    {e : Events.Event Value}
    (he : e ∈ recorded (w.withLog (stateAfter (emit j d tick w.sys.log)))) :
    e ∈ recorded w ∨ d.Became e := by
  rcases mem_recorded.mp he with he | he
  · exact Or.inl (mem_recorded.mpr (Or.inl he))
  · change e ∈ (stateAfter (emit j d tick w.sys.log)).staged at he
    rcases emit_cases j d tick w.sys.log with
      ⟨f, log', hr, hs⟩ | ⟨event, log', hr, hs | ⟨e', hb, hs⟩⟩
    · rw [hr, stateAfter_error, hs] at he
      exact Or.inl (mem_recorded.mpr (Or.inr he))
    · rw [hr, stateAfter_ok, hs] at he
      exact Or.inl (mem_recorded.mpr (Or.inr he))
    · rw [hr, stateAfter_ok, hs] at he
      rcases List.mem_append.mp he with he | he
      · exact Or.inl (mem_recorded.mpr (Or.inr he))
      · obtain rfl := List.mem_singleton.mp he
        exact Or.inr hb

/-- A call on the log that does not stage an event of a kind. -/
def Spares (kind : Int) : Call Value → Prop
  | .stage draft _ _ => draft.kind ≠ kind
  | _ => True

theorem recorded_call {cfg : LogConfig Value} {kind : Int} {c : Call Value} (hc : Spares kind c)
    (w : World Value) {e : Events.Event Value} (he : e ∈ recorded (w.call cfg c))
    (hk : e.kind = kind) : e ∈ recorded w := by
  cases c with
  | stage draft tick simTime =>
    have hcases := stage_cases cfg w.sys.log draft tick simTime
    rcases mem_recorded.mp he with he | he
    · exact mem_recorded.mpr (Or.inl he)
    · change e ∈ (stateAfter (stage cfg draft tick simTime w.sys.log)).staged at he
      apply mem_recorded.mpr
      generalize stage cfg draft tick simTime w.sys.log = result at hcases he
      cases hcases with
      | refused => exact Or.inr he
      | dropped => exact Or.inr he
      | broken => exact Or.inr he
      | ephemeral =>
        rcases List.mem_append.mp he with he | he
        · exact Or.inr he
        · obtain rfl := List.mem_singleton.mp he
          exact absurd hk hc
      | sealed e' hseal =>
        rcases List.mem_append.mp he with he | he
        · exact Or.inr he
        · obtain rfl := List.mem_singleton.mp he
          have hkind : e.kind = draft.kind := by
            obtain ⟨digest, -, hsome⟩ := Option.bind_eq_some_iff.mp hseal
            cases hsome
            rfl
          exact absurd (hkind.symm.trans hk) hc
  | savepoint => exact he
  | rollbackTo i =>
    cases hsp : w.savepoints[i]? with
    | none =>
      rw [World.call_rollbackTo_none hsp] at he
      exact he
    | some sp =>
      rw [World.call_rollbackTo hsp] at he
      refine recorded_of_sublist ?_ he
      by_cases ha : w.sys.log.Accepts sp
      · rw [if_pos ha]
        exact List.take_sublist _ _
      · rw [if_neg ha]
  | rollback => exact recorded_of_sublist (List.nil_sublist _) he
  | commit tick answer =>
    rw [World.call_commit] at he
    rcases commit_cases tick answer w.sys with ⟨-, h⟩ | ⟨-, -, h⟩ | ⟨-, -, -, h⟩
    all_goals
      rw [h] at he
      rcases mem_recorded.mp he with he | he
    · exact mem_recorded.mpr (Or.inl he)
    · cases he
    · rcases List.mem_append.mp he with he | he
      · exact mem_recorded.mpr (Or.inl he)
      · exact mem_recorded.mpr (Or.inr (List.mem_of_mem_filter he))
    · cases he
    · rcases List.mem_append.mp he with he | he
      · exact mem_recorded.mpr (Or.inl he)
      · exact mem_recorded.mpr (Or.inr (List.mem_of_mem_filter he))
    · cases he

/-! ## Closed runs -/

/-- Canonical bytes that tell nothing apart. -/
abbrev blankJson : CanonicalJson Value := ⟨fun _ => some []⟩

abbrev blankDigest : Sha256 := ⟨fun _ => []⟩

abbrev anySchema : PayloadSchemas Value := ⟨fun _ _ => .ok ()⟩

/-- Floats as a numerator and a denominator. -/
abbrev ratioValue : FloatValue := ⟨fun q => .list [.int q.num, .int q.den]⟩

/-- Identifiers that are the names themselves. -/
abbrev plainUuid : Uuid5 := ⟨fun run name => run ++ name⟩

omit [CanonicalJson Value] [Sha256] [PayloadSchemas Value] in
theorem plainYear_lt : 2026 < 10000 := by decide

/-- A log that knows every kind, and a clock that stands still. -/
def plainJournal : Journal :=
  { cfg := { runId := 0, validate := false, isKnown := fun _ => true }
    clock := { ticksPerSimDay := 1, daysPerSimYear := 360,
               simTimeAt := fun _ => { year := 2026, month := 1, day := 1, year_lt := plainYear_lt } } }

end Polis.Society
