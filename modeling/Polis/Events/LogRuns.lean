/-
  Polis.Events.LogRuns — whole runs of an event log.

  A `World` is the log with its two sinks and the savepoints taken so far; a
  run makes any sequence of calls on it, a call that raises being caught.

  Main results:
    * `Linked.call` — what one sound call preserves.
    * `event_log_chain` — in every run whose calls are sound, what the sink
      stored verifies from the log's start, and the next successful commit
      stores every durable staged event exactly once.
    * `event_log_breaks` — each of the three unsound calls breaks the chain.
-/
import Polis.Events.Log
import Polis.Events.Tamper
import Polis.Lib.Runs

namespace Polis.Events

open Lib.Effect Lib.Runs

section Runs

variable {P : Type}

/-! ## Calls -/

/-- One call on the log; a savepoint is named by the order it was taken in. -/
inductive Call (P : Type) where
  | stage (draft : NewEvent P) (tick : Int) (simTime : SimTime)
  | savepoint
  | rollbackTo (i : Nat)
  | rollback
  | commit (tick : Int) (answer : SinkAnswer)

/-- The log, its sinks, the savepoints taken, and the tick of the last call
of `stage`. -/
structure World (P : Type) where
  sys : System P
  savepoints : List EventSavepoint := []
  clock : Int := -1

/-- A new log over empty sinks. -/
def World.start (startPrevHash : String) (startSeq : Int) : World P :=
  { sys := { log := .new startSeq startPrevHash } }

/-- The durable events staged and not yet committed or rolled back. -/
def World.pending (w : World P) : List (Event P) := persistedOf w.sys.log.staged

/-- The position a log has after its first `n` staged events. -/
def EventLog.headAt (log : EventLog P) (n : Nat) : Int × String :=
  ((persistedOf (log.staged.take n)).getLast?.map fun e => (e.seq, e.hash)).getD
    (log.rollbackSeq, log.rollbackHash)

section Calls

variable [CanonicalJson P] [Sha256] [PayloadSchemas P]

/-- One call, returned or raised. -/
def World.call (cfg : LogConfig P) (w : World P) : Call P → World P
  | .stage draft tick simTime =>
    { w with
      sys := { w.sys with log := stateAfter (stage cfg draft tick simTime w.sys.log) }
      clock := tick }
  | .savepoint => { w with savepoints := w.savepoints ++ [w.sys.log.savepoint] }
  | .rollbackTo i =>
    match w.savepoints[i]? with
    | none => w
    | some sp => { w with sys := { w.sys with log := stateAfter (rollbackTo sp w.sys.log) } }
  | .rollback => { w with sys := { w.sys with log := w.sys.log.rollback } }
  | .commit tick answer => { w with sys := stateAfter (commit tick answer w.sys) }

/-- The world with another log. -/
def World.withLog (w : World P) (log : EventLog P) : World P :=
  { w with sys := { w.sys with log } }

theorem World.call_stage (cfg : LogConfig P) (w : World P) (draft : NewEvent P) (tick : Int)
    (simTime : SimTime) : w.call cfg (.stage draft tick simTime)
      = { w.withLog (stateAfter (stage cfg draft tick simTime w.sys.log)) with clock := tick } :=
  rfl

theorem World.call_rollbackTo_none {cfg : LogConfig P} {w : World P} {i : Nat}
    (h : w.savepoints[i]? = none) : w.call cfg (.rollbackTo i) = w := by
  simp only [World.call, h]

theorem World.call_rollbackTo {cfg : LogConfig P} {w : World P} {i : Nat} {sp : EventSavepoint}
    (h : w.savepoints[i]? = some sp) : w.call cfg (.rollbackTo i)
      = w.withLog (if w.sys.log.Accepts sp then w.sys.log.backTo sp else w.sys.log) := by
  simp only [World.call, h, rollbackTo_cases, World.withLog]

theorem World.call_commit (cfg : LogConfig P) (w : World P) (tick : Int) (answer : SinkAnswer) :
    w.call cfg (.commit tick answer) = { w with sys := stateAfter (commit tick answer w.sys) } :=
  rfl

/-- Any sequence of calls. -/
def World.run (cfg : LogConfig P) (w : World P) (calls : List (Call P)) : World P :=
  calls.foldl (World.call cfg) w

/-- Drafts have schema-valid payloads and ticks do not decrease. -/
def Orderly (w : World P) : Call P → Prop
  | .stage draft tick _ =>
    PayloadSchemas.validatePayload draft.kind draft.payload = .ok () ∧ w.clock ≤ tick
  | _ => True

instance (w : World P) : (c : Call P) → Decidable (Orderly w c)
  | .stage draft tick _ => inferInstanceAs (Decidable
      (PayloadSchemas.validatePayload draft.kind draft.payload = .ok () ∧ w.clock ≤ tick))
  | .savepoint => isTrue trivial
  | .rollbackTo _ => isTrue trivial
  | .rollback => isTrue trivial
  | .commit _ _ => isTrue trivial

/-- A call that keeps the chain: a draft that reaches sealing can be encoded,
a savepoint gone back to still names the position of the staged events it
keeps, and the ephemeral sink does not fail after a batch was stored. -/
def Sound (cfg : LogConfig P) (w : World P) : Call P → Prop
  | .stage draft tick simTime => ReachesSeal cfg w.sys.log draft tick simTime →
      (sealEvent draft (w.sys.log.lastSeq + 1) cfg.runId tick simTime
        w.sys.log.chainHash).isSome = true
  | .rollbackTo i => ∀ sp, w.savepoints[i]? = some sp → w.sys.log.Accepts sp →
      (sp.lastSeq, sp.chainHash) = w.sys.log.headAt sp.stagedLen
  | .commit _ answer =>
      answer.appendRaises = false → answer.publishRaises = true → w.pending = []
  | _ => True

instance (cfg : LogConfig P) (log : EventLog P) (draft : NewEvent P) (tick : Int)
    (simTime : SimTime) : Decidable (ReachesSeal cfg log draft tick simTime) :=
  match h : rangePersistence draft.kind with
  | none => isFalse fun ⟨p, hp, _⟩ => by
      rw [h] at hp
      cases hp
  | some p => decidable_of_iff (p ≠ .ephemeral ∧ cfg.isKnown draft.kind = true ∧
      sampledOut cfg p (candidateEvent cfg log draft tick simTime) = false)
      ⟨fun hp => ⟨p, h, hp⟩, fun ⟨q, hq, hp⟩ => by
        obtain rfl : p = q := Option.some.inj (h.symm.trans hq)
        exact hp⟩

instance (cfg : LogConfig P) (w : World P) : (c : Call P) → Decidable (Sound cfg w c)
  | .stage draft tick simTime => inferInstanceAs (Decidable
      (ReachesSeal cfg w.sys.log draft tick simTime →
        (sealEvent draft (w.sys.log.lastSeq + 1) cfg.runId tick simTime
          w.sys.log.chainHash).isSome = true))
  | .savepoint => isTrue trivial
  | .rollbackTo i =>
    match h : w.savepoints[i]? with
    | none => isTrue fun sp hsp => by
        rw [h] at hsp
        cases hsp
    | some sp => decidable_of_iff (w.sys.log.Accepts sp →
        (sp.lastSeq, sp.chainHash) = w.sys.log.headAt sp.stagedLen)
        ⟨fun hsp t ht => by
          obtain rfl : sp = t := Option.some.inj (h.symm.trans ht)
          exact hsp, fun hall => hall sp h⟩
  | .rollback => isTrue trivial
  | .commit _ answer => inferInstanceAs (Decidable
      (answer.appendRaises = false → answer.publishRaises = true →
        persistedOf w.sys.log.staged = []))

end Calls

/-! ## Durable events of a staged list -/

theorem persistedOf_append (xs ys : List (Event P)) :
    persistedOf (xs ++ ys) = persistedOf xs ++ persistedOf ys := List.filter_append ..

theorem persistedOf_ephemeral (cfg : LogConfig P) (draft : NewEvent P) (tick : Int)
    (simTime : SimTime) : persistedOf [ephemeralEvent cfg draft tick simTime] = [] := by
  simp [persistedOf, ephemeralEvent]

theorem persistedOf_single {e : Event P} (h : 0 ≤ e.seq) : persistedOf [e] = [e] := by
  have hne : e.seq ≠ EPHEMERAL_SEQ := by
    unfold EPHEMERAL_SEQ
    omega
  simp [persistedOf, hne]

theorem persistedOf_take_append_drop (n : Nat) (xs : List (Event P)) :
    persistedOf (xs.take n) ++ persistedOf (xs.drop n) = persistedOf xs := by
  rw [← persistedOf_append, List.take_append_drop]

theorem chainEnd_eq (previous : ChainHead) (es : List (Event P)) :
    chainEnd previous es = (es.getLast?.map headOf).getD previous := by
  induction es generalizing previous with
  | nil => rfl
  | cons e es ih =>
    rw [chainEnd_cons, ih, List.getLast?_cons]
    cases es.getLast? <;> rfl

variable [CanonicalJson P] [Sha256] [PayloadSchemas P]

theorem Chained.tick_le {previous : ChainHead} {es : List (Event P)} (h : Chained previous es) :
    previous.tick ≤ (chainEnd previous es).tick := by
  induction es generalizing previous with
  | nil => exact le_refl _
  | cons e es ih => exact le_trans h.1.tick (ih h.2)

/-! ## The invariant -/

/-- What the sink stored and what is staged form one chain, and the log's
counters stand at its end; its rollback counters at the end of what is
stored. -/
structure Linked (start : ChainHead) (w : World P) : Prop where
  chained : Chained start (w.sys.stored ++ w.pending)
  base : ((chainEnd start w.sys.stored).seq, (chainEnd start w.sys.stored).hash)
    = (w.sys.log.rollbackSeq, w.sys.log.rollbackHash)
  head : ((chainEnd start (w.sys.stored ++ w.pending)).seq,
      (chainEnd start (w.sys.stored ++ w.pending)).hash)
    = (w.sys.log.lastSeq, w.sys.log.chainHash)
  clock : (chainEnd start (w.sys.stored ++ w.pending)).tick ≤ w.clock

theorem Linked.start (h : String) (s : Int) : Linked (startHead h s) (World.start (P := P) h s) where
  chained := trivial
  base := rfl
  head := rfl
  clock := le_refl _

namespace Linked

variable {start : ChainHead} {w : World P}

theorem stored_chained (h : Linked start w) : Chained start w.sys.stored :=
  (chained_append.mp h.chained).1

theorem stored_clock (h : Linked start w) : (chainEnd start w.sys.stored).tick ≤ w.clock := by
  have hp := (chained_append.mp h.chained).2.tick_le
  rw [← chainEnd_append] at hp
  exact le_trans hp h.clock

theorem headAt_eq (h : Linked start w) (n : Nat) :
    let c := chainEnd start (w.sys.stored ++ persistedOf (w.sys.log.staged.take n))
    w.sys.log.headAt n = (c.seq, c.hash) := by
  intro c
  have hc : c = chainEnd (chainEnd start w.sys.stored)
      (persistedOf (w.sys.log.staged.take n)) := chainEnd_append ..
  rw [hc, chainEnd_eq]
  unfold EventLog.headAt
  cases (persistedOf (w.sys.log.staged.take n)).getLast? with
  | none => exact h.base.symm
  | some e => rfl

theorem rolledBack (h : Linked start w) {w' : World P} (hs : w'.sys.stored = w.sys.stored)
    (hl : w'.sys.log = w.sys.log.rollback) (hc : w'.clock = w.clock) : Linked start w' := by
  have hp : w'.pending = [] := by
    unfold World.pending
    rw [hl]
    rfl
  constructor
  · rw [hp, hs, List.append_nil]
    exact h.stored_chained
  · rw [hs, hl]
    exact h.base
  · rw [hp, hs, hl, List.append_nil]
    exact h.base
  · rw [hp, hs, hc, List.append_nil]
    exact h.stored_clock

theorem sealed (h : Linked start w) {cfg : LogConfig P} {draft : NewEvent P} {tick : Int}
    {simTime : SimTime} {e : Event P}
    (hv : PayloadSchemas.validatePayload draft.kind draft.payload = .ok ())
    (ht : w.clock ≤ tick)
    (he : sealEvent draft (w.sys.log.lastSeq + 1) cfg.runId tick simTime w.sys.log.chainHash
      = some e) :
    Linked start { w.withLog { w.sys.log with
        lastSeq := w.sys.log.lastSeq + 1
        chainHash := e.hash
        staged := w.sys.log.staged ++ [e] } with
      clock := tick } := by
  have hsealed := seal_recompute he
  have hpend : persistedOf (w.sys.log.staged ++ [e]) = w.pending ++ [e] := by
    rw [persistedOf_append, persistedOf_single hsealed.seq_nonneg]
    rfl
  obtain ⟨hseq, hhash⟩ := Prod.mk.inj h.head
  -- the new event follows the end of the chain so far
  have hfollows : Follows (chainEnd start (w.sys.stored ++ w.pending)) e := by
    constructor
    · rw [hsealed.seq_eq, hseq]
    · rw [hsealed.prevHash_eq, hhash]
    · exact hsealed.recompute_eq
    · rw [hsealed.tick_eq]
      exact le_trans h.clock ht
    · rw [hsealed.kind_eq, hsealed.payload_eq]
      exact hv
  constructor
  · simp only [World.pending, World.withLog, hpend]
    rw [← List.append_assoc, chained_append]
    exact ⟨h.chained, hfollows, trivial⟩
  · exact h.base
  · simp only [World.pending, World.withLog, hpend]
    rw [← List.append_assoc, chainEnd_append]
    simp only [chainEnd_cons, chainEnd_nil, headOf, hsealed.seq_eq]
  · simp only [World.pending, World.withLog, hpend]
    rw [← List.append_assoc, chainEnd_append]
    simp only [chainEnd_cons, chainEnd_nil, headOf, hsealed.tick_eq]
    exact le_refl _

theorem ephemeral (h : Linked start w) {cfg : LogConfig P} {draft : NewEvent P} {tick : Int}
    {simTime : SimTime} (ht : w.clock ≤ tick) :
    Linked start { w.withLog { w.sys.log with
      staged := w.sys.log.staged ++ [ephemeralEvent cfg draft tick simTime] } with
      clock := tick } := by
  have hp : persistedOf (w.sys.log.staged ++ [ephemeralEvent cfg draft tick simTime])
      = w.pending := by
    rw [persistedOf_append, persistedOf_ephemeral, List.append_nil]
    rfl
  constructor
  · simp only [World.pending, World.withLog, hp]
    exact h.chained
  · exact h.base
  · simp only [World.pending, World.withLog, hp]
    exact h.head
  · simp only [World.pending, World.withLog, hp]
    exact le_trans h.clock ht

theorem backTo (h : Linked start w) {sp : EventSavepoint}
    (hpos : (sp.lastSeq, sp.chainHash) = w.sys.log.headAt sp.stagedLen) :
    Linked start (w.withLog (w.sys.log.backTo sp)) := by
  have hsplit := persistedOf_take_append_drop sp.stagedLen w.sys.log.staged
  have hall := h.chained
  unfold World.pending at hall
  rw [← hsplit, ← List.append_assoc, chained_append] at hall
  obtain ⟨hkept, hrest⟩ := hall
  have htick := hrest.tick_le
  rw [← chainEnd_append, List.append_assoc, hsplit] at htick
  constructor
  · exact hkept
  · exact h.base
  · exact (hpos.trans (h.headAt_eq sp.stagedLen)).symm
  · exact le_trans htick h.clock

theorem committed (h : Linked start w) {published : List (Event P)} :
    Linked start { w with sys := {
      stored := w.sys.stored ++ w.pending
      published
      log := w.sys.log.committed } } := by
  have hp : persistedOf (w.sys.log.committed.staged) = ([] : List (Event P)) := rfl
  constructor
  · simp only [World.pending, hp, List.append_nil]
    exact h.chained
  · exact h.head
  · simp only [World.pending, hp, List.append_nil]
    exact h.head
  · simp only [World.pending, hp, List.append_nil]
    exact h.clock

end Linked

/-! ## One call -/

theorem Linked.call {start : ChainHead} {cfg : LogConfig P} {w : World P} (h : Linked start w)
    (c : Call P) (hc : Orderly w c ∧ Sound cfg w c) : Linked start (w.call cfg c) := by
  obtain ⟨horderly, hsound⟩ := hc
  cases c with
  | savepoint => exact ⟨h.chained, h.base, h.head, h.clock⟩
  | rollback => exact h.rolledBack rfl rfl rfl
  | rollbackTo i =>
    cases hi : w.savepoints[i]? with
    | none =>
      rw [World.call_rollbackTo_none hi]
      exact h
    | some sp =>
      rw [World.call_rollbackTo hi]
      by_cases ha : w.sys.log.Accepts sp
      · rw [if_pos ha]
        exact h.backTo (hsound sp hi ha)
      · rw [if_neg ha]
        exact h
  | stage draft tick simTime =>
    obtain ⟨hv, ht⟩ := horderly
    have hstaged := stage_cases cfg w.sys.log draft tick simTime
    rw [World.call_stage]
    generalize stage cfg draft tick simTime w.sys.log = result at hstaged ⊢
    cases hstaged with
    | refused => exact ⟨h.chained, h.base, h.head, le_trans h.clock ht⟩
    | dropped => exact ⟨h.chained, h.base, h.head, le_trans h.clock ht⟩
    | ephemeral => exact h.ephemeral ht
    | sealed e he => exact h.sealed hv ht he
    | broken hreach hnone =>
      have hsome := hsound hreach
      rw [hnone] at hsome
      cases hsome
  | commit tick answer =>
    rw [World.call_commit]
    rcases commit_cases tick answer w.sys with ⟨-, hafter⟩ | ⟨ha, hp, hafter⟩ | ⟨-, -, -, hafter⟩
    · rw [hafter]
      exact h.rolledBack rfl rfl rfl
    · have hnil : persistedOf w.sys.log.staged = [] := hsound ha hp
      rw [hafter, hnil, List.append_nil]
      exact h.rolledBack rfl rfl rfl
    · rw [hafter]
      exact h.committed

/-! ## Whole runs -/

theorem stored_prefix_call (cfg : LogConfig P) (w : World P) (c : Call P) :
    w.sys.stored <+: (w.call cfg c).sys.stored := by
  cases c with
  | stage draft tick simTime => exact List.prefix_rfl
  | savepoint => exact List.prefix_rfl
  | rollback => exact List.prefix_rfl
  | rollbackTo i =>
    cases hi : w.savepoints[i]? with
    | none =>
      have hcall := @World.call_rollbackTo_none _ _ _ _ cfg _ _ hi
      exact hcall.symm ▸ List.prefix_rfl
    | some sp =>
      have hcall := @World.call_rollbackTo _ _ _ _ cfg _ _ _ hi
      exact hcall.symm ▸ List.prefix_rfl
  | commit tick answer =>
    rw [World.call_commit]
    rcases commit_cases tick answer w.sys with ⟨-, hafter⟩ | ⟨-, -, hafter⟩ | ⟨-, -, -, hafter⟩
    · simp only [hafter]
      exact List.prefix_rfl
    · simp only [hafter]
      exact List.prefix_append ..
    · simp only [hafter]
      exact List.prefix_append ..

theorem stored_prefix_run (cfg : LogConfig P) (w : World P) (calls : List (Call P)) :
    w.sys.stored <+: (w.run cfg calls).sys.stored :=
  run_within (R := fun a b => a.sys.stored <+: b.sys.stored) (fun _ => List.prefix_rfl)
    (fun _ _ _ => List.IsPrefix.trans) (stored_prefix_call cfg) w calls

theorem pending_prefix_call (cfg : LogConfig P) (w : World P) (c : Call P)
    (hc : c = .savepoint ∨ ∃ d t st, c = .stage d t st) :
    w.pending <+: (w.call cfg c).pending := by
  rcases hc with rfl | ⟨d, t, st, rfl⟩
  · exact List.prefix_rfl
  · have hstaged := stage_cases cfg w.sys.log d t st
    apply List.IsPrefix.filter
    rw [World.call_stage]
    generalize stage cfg d t st w.sys.log = result at hstaged ⊢
    cases hstaged with
    | refused => exact List.prefix_rfl
    | dropped => exact List.prefix_rfl
    | ephemeral => exact List.prefix_append ..
    | sealed e he => exact List.prefix_append ..
    | broken hreach hnone => exact List.prefix_rfl

theorem pending_stage {cfg : LogConfig P} {w : World P} {draft : NewEvent P} {tick : Int}
    {simTime : SimTime} {e : Event P} {log : EventLog P}
    (h : stage cfg draft tick simTime w.sys.log = .ok e log)
    (hkept : log.droppedSampled = w.sys.log.droppedSampled) (hdurable : e.seq ≠ EPHEMERAL_SEQ) :
    (w.call cfg (.stage draft tick simTime)).pending = w.pending ++ [e] := by
  have hstaged := stage_cases cfg w.sys.log draft tick simTime
  rw [World.call_stage]
  rw [h] at hstaged ⊢
  cases hstaged with
  | dropped =>
    simp only at hkept
    omega
  | ephemeral => exact absurd rfl hdurable
  | sealed e he =>
    show persistedOf (w.sys.log.staged ++ [e]) = w.pending ++ [e]
    rw [persistedOf_append, persistedOf_single (seal_recompute he).seq_nonneg]
    rfl

/-- The next successful commit stores the pending events behind what is
stored, each exactly once, and the result verifies; a durable event that was
staged is pending, and only going back or ending the batch changes that. -/
structure Committable (cfg : LogConfig P) (h : String) (s : Int) (w : World P) :
    Prop where
  stored : ∀ tick, (w.call cfg (.commit tick {})).sys.stored = w.sys.stored ++ w.pending
  cleared : ∀ tick, (w.call cfg (.commit tick {})).sys.log.staged = []
  verifies : ∀ tick, VerifiesOk (w.call cfg (.commit tick {})).sys.stored h s
  once : ∀ tick, (w.call cfg (.commit tick {})).sys.stored.Nodup
  staged : ∀ draft tick simTime e log, stage cfg draft tick simTime w.sys.log = .ok e log →
    log.droppedSampled = w.sys.log.droppedSampled → e.seq ≠ EPHEMERAL_SEQ →
    (w.call cfg (.stage draft tick simTime)).pending = w.pending ++ [e]
  kept : ∀ c : Call P, (c = .savepoint ∨ ∃ d t st, c = .stage d t st) →
    w.pending <+: (w.call cfg c).pending

/-- **The chain over whole runs.**  If every call of a run is sound, then what
the sink stored verifies from the log's start, whatever the earlier part of
the run stored is a prefix of it, and the batch is committable. -/
theorem event_log_chain (cfg : LogConfig P) (h : String) (s : Int)
    (calls : List (Call P)) (horderly : Along (World.call cfg) Orderly (World.start h s) calls)
    (hsound : Along (World.call cfg) (Sound cfg) (World.start h s) calls) :
    let w := (World.start h s).run cfg calls
    VerifiesOk w.sys.stored h s ∧
    (∀ earlier later, calls = earlier ++ later →
      ((World.start h s).run cfg earlier).sys.stored <+: w.sys.stored) ∧
    Committable cfg h s w := by
  intro w
  have hw : Linked (startHead h s) w :=
    (horderly.and hsound).invariant (fun w c hw hc => hw.call c hc) (Linked.start h s)
  refine ⟨verifyBatch_ok_iff.mpr hw.stored_chained, ?_, ?_⟩
  · intro earlier later heq
    have hrun : w = ((World.start h s).run cfg earlier).run cfg later := by
      simp only [w, World.run, heq, List.foldl_append]
    rw [hrun]
    exact stored_prefix_run cfg _ later
  · have hstored : ∀ tick, (w.call cfg (.commit tick {})).sys.stored
        = w.sys.stored ++ w.pending := fun _ => rfl
    constructor
    · exact hstored
    · exact fun _ => rfl
    · intro tick
      rw [hstored]
      exact verifyBatch_ok_iff.mpr hw.chained
    · intro tick
      rw [hstored]
      exact hw.chained.nodup
    · exact fun draft tick simTime e log hok hkept hdur => pending_stage hok hkept hdur
    · exact fun c hc => pending_prefix_call cfg w c hc

end Runs

/-! ## Closed runs -/

/-- A log that knows the two kernel kinds. -/
def kernelLog : LogConfig Value :=
  { runId := sampleRun, isKnown := fun kind => kind == 1002 || kind == 1003 }

/-- A time `seal` refuses. -/
def fractionalTime : SimTime := { sampleTime with microsecond := 1 }

/-- A `TICK_STARTED` call naming the actor `who`. -/
def startTick (who : String) (simTime : SimTime) : Call Value :=
  .stage (tickDraft (some who) []) 1 simTime

/-- The ephemeral sink fails after the batch was stored. -/
def publishFails : List (Call Value) :=
  [startTick "a" sampleTime, .commit 1 { publishRaises := true }, startTick "b" sampleTime,
   .commit 1 {}]

/-- Back to a savepoint inside a batch that was rolled back and refilled. -/
def refilled : List (Call Value) :=
  [.savepoint, startTick "a" sampleTime, .savepoint, .rollbackTo 0, startTick "b" sampleTime,
   .rollbackTo 1, startTick "c" sampleTime, .commit 1 {}]

/-- A draft that cannot be sealed. -/
def unsealable : List (Call Value) :=
  [startTick "a" fractionalTime, startTick "b" sampleTime, .commit 1 {}]

/-- A run with a savepoint, a failing durable sink and two commits. -/
def mixedRun : List (Call Value) :=
  [startTick "a" sampleTime, .savepoint, startTick "b" sampleTime, .rollbackTo 0,
   startTick "c" sampleTime, .commit 1 { appendRaises := true }, startTick "d" sampleTime,
   .commit 1 {}]

theorem mixedRun_sound :
    letI : CanonicalJson Value := canonValues
    letI : Sha256 := hashlib
    letI : PayloadSchemas Value := kernelKinds
    Along (World.call kernelLog) Orderly (World.start GENESIS_PREV_HASH 0) mixedRun ∧
    Along (World.call kernelLog) (Sound kernelLog) (World.start GENESIS_PREV_HASH 0) mixedRun := by
  decide +kernel

theorem event_log_chain_mixed :
    letI : CanonicalJson Value := canonValues
    letI : Sha256 := hashlib
    letI : PayloadSchemas Value := kernelKinds
    VerifiesOk ((World.start GENESIS_PREV_HASH 0).run kernelLog mixedRun).sys.stored
      GENESIS_PREV_HASH 0 := by
  let _ : CanonicalJson Value := canonValues
  let _ : Sha256 := hashlib
  let _ : PayloadSchemas Value := kernelKinds
  exact (event_log_chain kernelLog GENESIS_PREV_HASH 0 mixedRun mixedRun_sound.1
    mixedRun_sound.2).1

/-- The drafts are valid, the ticks in order, and what is stored does not
verify. -/
def breaksChain (calls : List (Call Value)) : Bool :=
  letI : CanonicalJson Value := canonValues
  letI : Sha256 := hashlib
  letI : PayloadSchemas Value := kernelKinds
  decide (Along (World.call kernelLog) Orderly (World.start GENESIS_PREV_HASH 0) calls) &&
    !decide (VerifiesOk ((World.start GENESIS_PREV_HASH 0).run kernelLog calls).sys.stored
      GENESIS_PREV_HASH 0)

theorem event_log_breaks :
    breaksChain publishFails = true ∧ breaksChain refilled = true ∧
      breaksChain unsealable = true := by
  decide +kernel

end Polis.Events
