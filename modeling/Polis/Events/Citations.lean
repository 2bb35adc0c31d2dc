/-
  Polis.Events.Citations — sequence numbers that name events
  (`EventLog.stage` of `events/log.py`, `CognitionSampler.keep`).

  A caller keeps the events `stage` returned and later names one by its
  number, as the cause of another draft or in a ledger entry.  What carries
  the number goes with the batch: it is committed with it, taken back to a
  savepoint with it, and lost with it.

  An event the sampler drops is returned with the number the next event gets,
  and an ephemeral one with a number no stored event has.

  Main results:
    * `Kept.step` — what one use of the log preserves.
    * `citations_point` — in every run that names only events of the log, each
      committed number is that of one stored event, the one that was named.
-/
import Polis.Events.LogRuns

namespace Polis.Events

open Lib.Effect Lib.Runs

/-! ## Uses of a log -/

/-- What a caller does: a call on the log, a draft with an event returned
before as its cause, or a ledger entry with the number of one.  Events are
named by the order `stage` returned them in. -/
inductive Use (P : Type) where
  | call (c : Call P)
  | cause (i : Nat) (draft : NewEvent P) (tick : Int) (simTime : SimTime)
  | entry (i : Nat)

/-- What a caller holds at a savepoint: the staged events and the names given
in this batch (`ledger.dump`). -/
structure Dump (P : Type) where
  staged : List (Event P)
  cited : List (Event P)

/-- A log with what its callers know: the events `stage` returned, the events
named by what is committed and by what is in the batch, and the dumps taken
with the savepoints. -/
structure Books (P : Type) where
  world : World P
  returned : List (Event P) := []
  committed : List (Event P) := []
  cited : List (Event P) := []
  dumps : List (Dump P) := []

section Uses

variable {P : Type}

/-- New books over a new log. -/
def Books.start (startPrevHash : String) (startSeq : Int) : Books P :=
  { world := .start startPrevHash startSeq }

/-- The events of the log: stored ones and durable staged ones. -/
def World.durable (w : World P) : List (Event P) := w.sys.stored ++ w.pending

/-- The event a call of `stage` returned, if it did. -/
def returnedBy : EStateM.Result LogFault (EventLog P) (Event P) → List (Event P)
  | .ok e _ => [e]
  | .error _ _ => []

/-- Both sinks take the batch. -/
def SinkAnswer.Takes (answer : SinkAnswer) : Prop :=
  answer.appendRaises = false ∧ answer.publishRaises = false

instance (answer : SinkAnswer) : Decidable answer.Takes := inferInstanceAs (Decidable (_ ∧ _))

variable [CanonicalJson P] [Sha256] [PayloadSchemas P]

/-- One call on the log. -/
def Books.call (cfg : LogConfig P) (b : Books P) (c : Call P) : Books P :=
  let world := b.world.call cfg c
  match c with
  | .stage draft tick simTime =>
    { b with world, returned :=
        b.returned ++ returnedBy (stage cfg draft tick simTime b.world.sys.log) }
  | .savepoint => { b with world, dumps := b.dumps ++ [⟨b.world.sys.log.staged, b.cited⟩] }
  | .rollbackTo i =>
    match b.world.savepoints[i]?, b.dumps[i]? with
    | some sp, some dump =>
      if b.world.sys.log.Accepts sp then { b with world, cited := dump.cited }
      else { b with world }
    | _, _ => { b with world }
  | .rollback => { b with world, cited := [] }
  | .commit _ answer =>
    if answer.Takes then { b with world, committed := b.committed ++ b.cited, cited := [] }
    else { b with world, cited := [] }

/-- One use of the log: a name counts when the draft that carries it was
staged, and in a ledger entry at once. -/
def Books.step (cfg : LogConfig P) (b : Books P) : Use P → Books P
  | .call c => b.call cfg c
  | .cause i draft tick simTime =>
    match b.returned[i]? with
    | none => b
    | some e =>
      let after := b.call cfg (.stage { draft with causeSeq := some e.seq } tick simTime)
      if b.world.sys.log.staged.length < after.world.sys.log.staged.length then
        { after with cited := after.cited ++ [e] }
      else after
  | .entry i =>
    match b.returned[i]? with
    | none => b
    | some e => { b with cited := b.cited ++ [e] }

/-- A use that names an event of the log, goes back to a savepoint over the
events it was taken over, and does not store a batch that cannot be
published. -/
def NamesEvents (b : Books P) : Use P → Prop
  | .call (.rollbackTo i) => ∀ sp dump, b.world.savepoints[i]? = some sp →
      b.dumps[i]? = some dump → b.world.sys.log.Accepts sp →
        b.world.sys.log.staged.take sp.stagedLen = dump.staged
  | .call (.commit _ answer) =>
      answer.appendRaises = false → answer.publishRaises = true → b.world.pending = []
  | .call _ => True
  | .cause i _ _ _ => ∀ e, b.returned[i]? = some e → e ∈ b.world.durable
  | .entry i => ∀ e, b.returned[i]? = some e → e ∈ b.world.durable

/-- Every committed number is that of one stored event, the one named. -/
def CitesRight (b : Books P) : Prop :=
  ∀ e ∈ b.committed, b.world.sys.stored.filter (fun f => f.seq = e.seq) = [e]

/-! ## The invariant -/

/-- A savepoint of the current batch covers the events it was taken over and
the names given until then. -/
structure Covers (stored : List (Event P)) (sp : EventSavepoint) (dump : Dump P) : Prop where
  length : sp.stagedLen = dump.staged.length
  below : ∀ e ∈ stored ++ persistedOf dump.staged, e.seq ≤ sp.lastSeq
  cited : ∀ e ∈ dump.cited, e ∈ stored ++ persistedOf dump.staged

/-- The numbers of the log increase up to its last one, and what is named is
in the log. -/
structure Kept (b : Books P) : Prop where
  increasing : b.world.durable.Pairwise fun e f => e.seq < f.seq
  below : ∀ e ∈ b.world.durable, e.seq ≤ b.world.sys.log.lastSeq
  base : ∀ e ∈ b.world.sys.stored, e.seq ≤ b.world.sys.log.rollbackSeq
  tokens : ∀ sp ∈ b.world.savepoints, sp.batchToken ≤ b.world.sys.log.batchToken
  aligned : b.dumps.length = b.world.savepoints.length
  covers : ∀ (i : Nat) sp dump, b.world.savepoints[i]? = some sp → b.dumps[i]? = some dump →
    sp.batchToken = b.world.sys.log.batchToken → Covers b.world.sys.stored sp dump
  committed : ∀ e ∈ b.committed, e ∈ b.world.sys.stored
  cited : ∀ e ∈ b.cited, e ∈ b.world.durable

omit [CanonicalJson P] [Sha256] [PayloadSchemas P] in
theorem Kept.start (h : String) (s : Int) : Kept (Books.start (P := P) h s) where
  increasing := List.Pairwise.nil
  below := fun _ he => absurd he List.not_mem_nil
  base := fun _ he => absurd he List.not_mem_nil
  tokens := fun _ hsp => absurd hsp List.not_mem_nil
  aligned := rfl
  covers := fun _ _ _ hsp => by cases hsp
  committed := fun _ he => absurd he List.not_mem_nil
  cited := fun _ he => absurd he List.not_mem_nil

namespace Kept

variable {b : Books P} {cfg : LogConfig P}

omit [CanonicalJson P] [Sha256] [PayloadSchemas P]

theorem citesRight (h : Kept b) : CitesRight b := by
  intro e he
  have hstored := h.committed e he
  have hpair : b.world.sys.stored.Pairwise fun e f => e.seq < f.seq :=
    (List.pairwise_append.mp h.increasing).1
  generalize b.world.sys.stored = stored at hstored hpair
  induction stored with
  | nil => cases hstored
  | cons f fs ih =>
    obtain ⟨hfirst, hrest⟩ := List.pairwise_cons.mp hpair
    rcases List.mem_cons.mp hstored with rfl | hmem
    · have hnone : fs.filter (fun f => f.seq = e.seq) = [] := by
        rw [List.filter_eq_nil_iff]
        intro f hf
        have := hfirst f hf
        simp only [decide_eq_true_eq]
        omega
      rw [List.filter_cons_of_pos (by simp), hnone]
    · have hlt := hfirst e hmem
      have hne : ¬f.seq = e.seq := by omega
      rw [List.filter_cons_of_neg (by simpa using hne)]
      exact ih hmem hrest

theorem withLog (h : Kept b) {log : EventLog P} {clock : Int} {returned : List (Event P)}
    {new : List (Event P)} (hstaged : persistedOf log.staged = b.world.pending ++ new)
    (hnew : new.Pairwise fun e f => e.seq < f.seq)
    (habove : ∀ e ∈ new, b.world.sys.log.lastSeq < e.seq ∧ e.seq ≤ log.lastSeq)
    (hlast : b.world.sys.log.lastSeq ≤ log.lastSeq)
    (hbase : log.rollbackSeq = b.world.sys.log.rollbackSeq)
    (htoken : log.batchToken = b.world.sys.log.batchToken) :
    Kept { b with world := { b.world.withLog log with clock }, returned } := by
  have hdurable : World.durable { b.world.withLog log with clock } = b.world.durable ++ new := by
    unfold World.durable World.pending
    show b.world.sys.stored ++ persistedOf log.staged = _
    rw [hstaged, List.append_assoc]
    rfl
  constructor
  · rw [hdurable, List.pairwise_append]
    refine ⟨h.increasing, hnew, fun e he f hf => ?_⟩
    have hle := h.below e he
    have hlt := (habove f hf).1
    omega
  · rw [hdurable]
    intro e he
    rcases List.mem_append.mp he with he | he
    · exact (h.below e he).trans hlast
    · exact (habove e he).2
  · intro e he
    show e.seq ≤ log.rollbackSeq
    rw [hbase]
    exact h.base e he
  · intro sp hsp
    show sp.batchToken ≤ log.batchToken
    rw [htoken]
    exact h.tokens sp hsp
  · exact h.aligned
  · intro i sp dump hsp hdump heq
    exact h.covers i sp dump hsp hdump (heq.trans htoken)
  · exact h.committed
  · rw [hdurable]
    exact fun e he => List.mem_append_left _ (h.cited e he)

theorem savepoint (h : Kept b) :
    Kept { b with
      world := { b.world with savepoints := b.world.savepoints ++ [b.world.sys.log.savepoint] }
      dumps := b.dumps ++ [⟨b.world.sys.log.staged, b.cited⟩] } := by
  constructor
  · exact h.increasing
  · exact h.below
  · exact h.base
  · intro sp hsp
    rcases List.mem_append.mp hsp with hsp | hsp
    · exact h.tokens sp hsp
    · rw [List.mem_singleton.mp hsp]
      exact le_rfl
  · show (b.dumps ++ _).length = (b.world.savepoints ++ _).length
    rw [List.length_append, List.length_append, h.aligned]
    rfl
  · intro i sp dump hsp hdump heq
    have hsp : (b.world.savepoints ++ [b.world.sys.log.savepoint])[i]? = some sp := hsp
    have hdump : (b.dumps ++ [⟨b.world.sys.log.staged, b.cited⟩])[i]? = some dump := hdump
    by_cases hi : i < b.world.savepoints.length
    · rw [List.getElem?_append_left hi] at hsp
      rw [List.getElem?_append_left (by rw [h.aligned]; exact hi)] at hdump
      exact h.covers i sp dump hsp hdump heq
    · -- the savepoint just taken
      rw [List.getElem?_append_right (by omega)] at hsp
      rw [List.getElem?_append_right (by rw [h.aligned]; omega), h.aligned] at hdump
      have hzero : i - b.world.savepoints.length = 0 := by
        by_contra hne
        obtain ⟨k, hk⟩ := Nat.exists_eq_succ_of_ne_zero hne
        rw [hk] at hsp
        cases hsp
      rw [hzero] at hsp hdump
      cases hsp
      cases hdump
      exact ⟨rfl, h.below, h.cited⟩
  · exact h.committed
  · exact h.cited

theorem dropped (h : Kept b) :
    Kept { b with world := b.world.withLog b.world.sys.log.rollback, cited := [] } := by
  have hdurable : (b.world.withLog b.world.sys.log.rollback).durable = b.world.sys.stored := by
    unfold World.durable World.pending
    show b.world.sys.stored ++ persistedOf ([] : List (Event P)) = _
    exact List.append_nil _
  constructor
  · rw [hdurable]
    exact (List.pairwise_append.mp h.increasing).1
  · rw [hdurable]
    exact h.base
  · exact h.base
  · intro sp hsp
    exact (h.tokens sp hsp).trans (Nat.le_succ _)
  · exact h.aligned
  · intro i sp dump hsp hdump heq
    -- no savepoint of the batch is left
    have hle := h.tokens sp (List.mem_of_getElem? hsp)
    have heq : sp.batchToken = b.world.sys.log.batchToken + 1 := heq
    omega
  · exact h.committed
  · exact fun _ he => absurd he List.not_mem_nil

theorem stored (h : Kept b) {published : List (Event P)} :
    Kept { b with
      world := { b.world with sys := {
        stored := b.world.sys.stored ++ b.world.pending
        published
        log := b.world.sys.log.committed } }
      committed := b.committed ++ b.cited
      cited := [] } := by
  have hdurable : World.durable { b.world with sys := {
      stored := b.world.sys.stored ++ b.world.pending
      published
      log := b.world.sys.log.committed } } = b.world.durable := by
    unfold World.durable World.pending
    show (b.world.sys.stored ++ persistedOf b.world.sys.log.staged)
      ++ persistedOf ([] : List (Event P)) = _
    exact List.append_nil _
  constructor
  · rw [hdurable]
    exact h.increasing
  · rw [hdurable]
    exact h.below
  · exact h.below
  · intro sp hsp
    exact (h.tokens sp hsp).trans (Nat.le_succ _)
  · exact h.aligned
  · intro i sp dump hsp hdump heq
    have hle := h.tokens sp (List.mem_of_getElem? hsp)
    have heq : sp.batchToken = b.world.sys.log.batchToken + 1 := heq
    omega
  · intro e he
    rcases List.mem_append.mp he with he | he
    · exact List.mem_append_left _ (h.committed e he)
    · exact h.cited e he
  · exact fun _ he => absurd he List.not_mem_nil

theorem backTo (h : Kept b) {i : Nat} {sp : EventSavepoint} {dump : Dump P}
    (hsp : b.world.savepoints[i]? = some sp) (hdump : b.dumps[i]? = some dump)
    (haccepts : b.world.sys.log.Accepts sp)
    (hsame : b.world.sys.log.staged.take sp.stagedLen = dump.staged) :
    Kept { b with world := b.world.withLog (b.world.sys.log.backTo sp), cited := dump.cited } := by
  obtain ⟨hlength, hbelow, hcited⟩ := h.covers i sp dump hsp hdump haccepts.1
  have hdurable : (b.world.withLog (b.world.sys.log.backTo sp)).durable
      = b.world.sys.stored ++ persistedOf dump.staged := by
    unfold World.durable World.pending
    show b.world.sys.stored ++ persistedOf (b.world.sys.log.staged.take sp.stagedLen) = _
    rw [hsame]
  have hpre : b.world.sys.stored ++ persistedOf dump.staged <+: b.world.durable := by
    rw [← hsame]
    exact (List.prefix_append_right_inj _).mpr ((List.take_prefix _ _).filter _)
  constructor
  · rw [hdurable]
    exact h.increasing.sublist hpre.sublist
  · rw [hdurable]
    exact hbelow
  · exact h.base
  · exact h.tokens
  · exact h.aligned
  · exact h.covers
  · exact h.committed
  · rw [hdurable]
    exact hcited

end Kept

/-! ## One use -/

theorem Kept.stage {b : Books P} (h : Kept b) (cfg : LogConfig P) (draft : NewEvent P)
    (tick : Int) (simTime : SimTime) : Kept (b.call cfg (.stage draft tick simTime)) := by
  have hstaged := stage_cases cfg b.world.sys.log draft tick simTime
  unfold Books.call
  simp only [World.call_stage]
  generalize Events.stage cfg draft tick simTime b.world.sys.log = result at hstaged ⊢
  have hnone : ∀ log : EventLog P, persistedOf log.staged = b.world.pending →
      b.world.sys.log.lastSeq ≤ log.lastSeq → log.rollbackSeq = b.world.sys.log.rollbackSeq →
      log.batchToken = b.world.sys.log.batchToken →
      Kept { b with
        world := { b.world.withLog log with clock := tick }
        returned := b.returned ++ returnedBy result } :=
    fun log hsame hlast hbase htoken => h.withLog (by rw [hsame, List.append_nil])
      List.Pairwise.nil (fun _ he => absurd he List.not_mem_nil) hlast hbase htoken
  cases hstaged with
  | refused => exact hnone _ rfl le_rfl rfl rfl
  | dropped => exact hnone _ rfl le_rfl rfl rfl
  | ephemeral =>
    have hsame : persistedOf
        (b.world.sys.log.staged ++ [ephemeralEvent cfg draft tick simTime]) = b.world.pending := by
      rw [persistedOf_append, persistedOf_ephemeral, List.append_nil]
      rfl
    exact hnone _ hsame le_rfl rfl rfl
  | broken =>
    have hlast : b.world.sys.log.lastSeq ≤ b.world.sys.log.lastSeq + 1 := by omega
    exact hnone _ rfl hlast rfl rfl
  | sealed e he =>
    have hsealed := seal_recompute he
    have hseq := hsealed.seq_eq
    have hnew : persistedOf (b.world.sys.log.staged ++ [e]) = b.world.pending ++ [e] := by
      rw [persistedOf_append, persistedOf_single hsealed.seq_nonneg]
      rfl
    have habove : ∀ f ∈ [e], b.world.sys.log.lastSeq < f.seq ∧
        f.seq ≤ b.world.sys.log.lastSeq + 1 := by
      intro f hf
      rw [List.mem_singleton.mp hf]
      omega
    have hlast : b.world.sys.log.lastSeq ≤ b.world.sys.log.lastSeq + 1 := by omega
    exact h.withLog hnew (List.pairwise_singleton _ _) habove hlast rfl rfl

theorem Kept.commit {b : Books P} (h : Kept b) (cfg : LogConfig P) (tick : Int)
    {answer : SinkAnswer}
    (hpublish : answer.appendRaises = false → answer.publishRaises = true → b.world.pending = []) :
    Kept (b.call cfg (.commit tick answer)) := by
  have hdrop : Kept { b with world := b.world.withLog b.world.sys.log.rollback, cited := [] } :=
    h.dropped
  unfold Books.call
  simp only [World.call_commit]
  rcases commit_cases tick answer b.world.sys with ⟨ha, hafter⟩ | ⟨ha, hp, hafter⟩ |
    ⟨ha, hp, -, hafter⟩
  · have hfails : ¬answer.Takes := fun ht => by
      rw [ht.1] at ha
      cases ha
    rw [if_neg hfails, hafter]
    exact hdrop
  · have hfails : ¬answer.Takes := fun ht => by
      rw [ht.2] at hp
      cases hp
    have hnil : persistedOf b.world.sys.log.staged = [] := hpublish ha hp
    rw [if_neg hfails, hafter, hnil, List.append_nil]
    exact hdrop
  · rw [if_pos ⟨ha, hp⟩, hafter]
    exact h.stored

theorem Kept.call {b : Books P} (h : Kept b) (cfg : LogConfig P) (c : Call P)
    (hc : NamesEvents b (.call c)) : Kept (b.call cfg c) := by
  cases c with
  | stage draft tick simTime => exact h.stage cfg draft tick simTime
  | savepoint => exact h.savepoint
  | rollback => exact h.dropped
  | commit tick answer => exact h.commit cfg tick hc
  | rollbackTo i =>
    unfold Books.call
    cases hsp : b.world.savepoints[i]? with
    | none =>
      simp only [World.call_rollbackTo_none hsp, hsp]
      exact h
    | some sp =>
      simp only [World.call_rollbackTo hsp, hsp]
      by_cases ha : b.world.sys.log.Accepts sp
      · have hi : i < b.dumps.length := by
          rw [h.aligned]
          exact (List.getElem?_eq_some_iff.mp hsp).1
        have hdump : b.dumps[i]? = some b.dumps[i] := List.getElem?_eq_getElem hi
        simp only [hdump, if_pos ha]
        exact h.backTo hsp hdump ha (hc sp _ hsp hdump ha)
      · have hsame : b.world.withLog b.world.sys.log = b.world := rfl
        cases hdump : b.dumps[i]? with
        | none =>
          simp only [if_neg ha, hsame]
          exact h
        | some dump =>
          simp only [if_neg ha, hsame]
          exact h

omit [CanonicalJson P] [Sha256] [PayloadSchemas P] in
theorem Kept.cite {b : Books P} (h : Kept b) {e : Event P} (he : e ∈ b.world.durable) :
    Kept { b with cited := b.cited ++ [e] } := by
  refine ⟨h.increasing, h.below, h.base, h.tokens, h.aligned, h.covers, h.committed, ?_⟩
  intro f hf
  rcases List.mem_append.mp hf with hf | hf
  · exact h.cited f hf
  · rw [List.mem_singleton.mp hf]
    exact he

theorem Kept.step {b : Books P} (h : Kept b) (cfg : LogConfig P) (u : Use P)
    (hu : NamesEvents b u) : Kept (b.step cfg u) := by
  cases u with
  | call c => exact h.call cfg c hu
  | entry i =>
    unfold Books.step
    cases hi : b.returned[i]? with
    | none =>
      simp only [hi]
      exact h
    | some e =>
      simp only [hi]
      exact h.cite (hu e hi)
  | cause i draft tick simTime =>
    unfold Books.step
    cases hi : b.returned[i]? with
    | none =>
      simp only [hi]
      exact h
    | some e =>
      simp only [hi]
      have hafter := h.stage cfg { draft with causeSeq := some e.seq } tick simTime
      split
      · apply hafter.cite
        -- staging takes nothing away
        have hpre := pending_prefix_call cfg b.world
          (.stage { draft with causeSeq := some e.seq } tick simTime) (.inr ⟨_, _, _, rfl⟩)
        rcases List.mem_append.mp (hu e hi) with he | he
        · exact List.mem_append_left _ he
        · exact List.mem_append_right _ (hpre.subset he)
      · exact hafter

/-- **Numbers point at the events they were taken from.**  In every run that
names only events of the log, every number that was committed, as a cause or
in a ledger entry, is that of exactly one stored event, the one `stage`
returned. -/
theorem citations_point (cfg : LogConfig P) (startPrevHash : String) (startSeq : Int)
    (uses : List (Use P))
    (hnames : Along (Books.step cfg) NamesEvents (Books.start startPrevHash startSeq) uses) :
    CitesRight (uses.foldl (Books.step cfg) (Books.start startPrevHash startSeq)) :=
  (hnames.invariant (fun _ u hb hu => Kept.step hb cfg u hu)
    (Kept.start startPrevHash startSeq)).citesRight

end Uses

/-! ## Closed runs -/

/-- The kinds of the runs below. -/
abbrev cognitionKinds : PayloadSchemas Value :=
  ⟨validateRequired [(1002, ["tick"]), (4001, ["agent_id", "digest_hash"]),
    (90001, ["tick"])]⟩

/-- The sampler of rate zero: only deliberating and reflecting agents are
kept. -/
def rateZero : CognitionSampler Value where
  keep e :=
    match e.payload with
    | .dict members => members.any fun m =>
        m.1 == "routed_mode" && (m.2 matches .str "deliberate" | .str "reflect")
    | _ => false

/-- A log with that sampler. -/
def sampledLog : LogConfig Value :=
  { runId := sampleRun, sampler := some rateZero,
    isKnown := fun kind => kind == 1002 || kind == 4001 || kind == 90001 }

/-- A `PERCEPTION_BUILT` draft of an agent on a route. -/
def perceptionDraft (mode : String) : NewEvent Value :=
  { kind := 4001
    payload := .dict [("agent_id", .str "ag_a"), ("digest_hash", .str "d"),
      ("routed_mode", .str mode)]
    actorId := some "ag_a" }

/-- A `TICK_HEARTBEAT` draft. -/
def heartbeatDraft : NewEvent Value := { kind := 90001, payload := .dict [("tick", .int 1)] }

/-- A perception is staged, named as the cause of a second event, and the
batch is committed. -/
def namesPerception (mode : String) : List (Use Value) :=
  [.call (.stage (perceptionDraft mode) 1 sampleTime),
   .cause 0 (tickDraft none []) 1 sampleTime, .call (.commit 1 {})]

/-- A heartbeat is named. -/
def namesHeartbeat : List (Use Value) :=
  [.call (.stage heartbeatDraft 1 sampleTime), .cause 0 (tickDraft none []) 1 sampleTime,
   .call (.commit 1 {})]

theorem citations_point_deliberate :
    letI : CanonicalJson Value := canonValues
    letI : Sha256 := hashlib
    letI : PayloadSchemas Value := cognitionKinds
    CitesRight ((namesPerception "deliberate").foldl (Books.step sampledLog)
      (Books.start GENESIS_PREV_HASH 0)) := by
  let _ : CanonicalJson Value := canonValues
  let _ : Sha256 := hashlib
  let _ : PayloadSchemas Value := cognitionKinds
  apply citations_point sampledLog GENESIS_PREV_HASH 0
  refine ⟨trivial, fun e he => ?_, fun _ hp => (by cases hp), trivial⟩
  have hkept : (match stage sampledLog (perceptionDraft "deliberate") 1 sampleTime
      (.new 0 GENESIS_PREV_HASH) with
    | .ok e log => decide (log.droppedSampled = 0 ∧ e.seq ≠ EPHEMERAL_SEQ)
    | .error _ _ => false) = true := by decide +kernel
  have he : (returnedBy (stage sampledLog (perceptionDraft "deliberate") 1 sampleTime
      (.new 0 GENESIS_PREV_HASH)))[0]? = some e := he
  cases hstage : stage sampledLog (perceptionDraft "deliberate") 1 sampleTime
      (.new 0 GENESIS_PREV_HASH) with
  | error fault log =>
    rw [hstage] at hkept
    cases hkept
  | ok f log =>
    rw [hstage] at hkept he
    obtain ⟨hdropped, hdurable⟩ := of_decide_eq_true hkept
    have heq : f = e := Option.some.inj he
    have hpending := @pending_stage Value _ _ _ sampledLog (World.start GENESIS_PREV_HASH 0) _ _ _
      f log hstage hdropped hdurable
    rw [← heq]
    apply List.mem_append_right
    show f ∈ ((World.start GENESIS_PREV_HASH 0).call sampledLog
      (.stage (perceptionDraft "deliberate") 1 sampleTime)).pending
    rw [hpending]
    exact List.mem_append_right _ (List.mem_singleton_self f)

/-- A committed number that is not that of the event named: every stored
event with it is of another kind. -/
def namesAnother (uses : List (Use Value)) : Bool :=
  letI : CanonicalJson Value := canonValues
  letI : Sha256 := hashlib
  letI : PayloadSchemas Value := cognitionKinds
  let b := uses.foldl (Books.step sampledLog) (Books.start GENESIS_PREV_HASH 0)
  b.committed.any fun e => b.world.sys.stored.all fun f => f.seq ≠ e.seq || f.kind ≠ e.kind

/-- **The number of a dropped perception is that of the event that names it,
and the number of a heartbeat is that of no event.** -/
theorem citations_stray :
    letI : CanonicalJson Value := canonValues
    letI : Sha256 := hashlib
    letI : PayloadSchemas Value := cognitionKinds
    ¬CitesRight ((namesPerception "reflex").foldl (Books.step sampledLog)
      (Books.start GENESIS_PREV_HASH 0)) ∧
    ¬CitesRight (namesHeartbeat.foldl (Books.step sampledLog)
      (Books.start GENESIS_PREV_HASH 0)) := by
  let _ : CanonicalJson Value := canonValues
  let _ : Sha256 := hashlib
  let _ : PayloadSchemas Value := cognitionKinds
  have hstray : ∀ uses, namesAnother uses = true →
      ¬CitesRight (uses.foldl (Books.step sampledLog) (Books.start GENESIS_PREV_HASH 0)) := by
    intro uses hnames hright
    obtain ⟨e, he, hall⟩ := List.any_eq_true.mp hnames
    have hmem : e ∈ [e] := List.mem_singleton_self e
    rw [← hright e he] at hmem
    have hother := List.all_eq_true.mp hall e (List.mem_filter.mp hmem).1
    simp at hother
  exact ⟨hstray _ (by decide +kernel), hstray _ (by decide +kernel)⟩

end Polis.Events
