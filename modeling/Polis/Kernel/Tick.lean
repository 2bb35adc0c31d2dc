/-
  Polis.Kernel.Tick — the tick loop (`kernel/tick.py`, with `should_halt` of
  `kernel/invariants.py`).

  A tick runs the handlers of ten phases and commits twice: at the end of the
  commit phase, and behind the event that completes the tick.  Handlers are
  arbitrary programs over the world and the log; none of them commits.

  Main results:
    * `runTick_told` — what one tick stores, and how its last event counts it.
    * `run_tells` — a run stores one such segment for each of its reports.
-/
import Polis.Kernel.Scheduler
import Polis.Society.Staging
import Polis.Lib.StableSort
import Mathlib.Data.Prod.Lex

namespace Polis.Kernel

open Lib Lib.Effect Polis.Events Polis.Society

/-- `Phase`. -/
inductive Phase where
  | clock | perceive | salience | decide | validate | resolve | commit | institutions | vitals
  | metrics
  deriving DecidableEq

/-- `for phase in Phase`. -/
def Phase.all : List Phase :=
  [.clock, .perceive, .salience, .decide, .validate, .resolve, .commit, .institutions, .vitals,
   .metrics]

def TICK_STARTED : Int := 1002
def TICK_COMPLETED : Int := 1003
def INVARIANT_VIOLATED : Int := 1010

/-- `Violation`: `halts` is a severity of `HALT`. -/
structure Violation where
  invariantId : String
  expected : String
  actual : String
  detail : Value
  halts : Bool

/-- `TickContext`: what handlers read and fill in; none of them writes the tick. -/
structure TickContext (A : Type) where
  tick : Int
  due : List String
  actions : List A := []
  rejected : List A := []
  modes : Dict String String := ∅

/-- `PhaseHandler`. -/
structure PhaseHandler (W A : Type) where
  phase : Phase
  run : TickContext A → EStateM Fault (W × EventLog Value) (TickContext A)

/-- `TickLoop`, with the handlers in the order `register` sorts them in.  The
answers of the sinks to the two commits of a tick come from outside, as do the
violations an invariant run finds. -/
structure TickLoop (W A : Type) where
  journal : Journal
  scheduler : Scheduler
  handlers : List (PhaseHandler W A)
  actionKey : A → String ×ₗ String
  setTick : Int → W → W
  violations : Int → W → List Violation
  continueOnViolation : Bool := false
  answers : Int → Bool → SinkAnswer

/-- The clock, the log with its sinks, and the world. -/
structure LoopState (W : Type) where
  tick : Int
  sys : System Value
  world : W

/-- `TickReport`. -/
structure TickReport where
  tick : Int
  events : Nat
  ephemerals : Nat
  actions : Nat
  rejected : Nat
  llmCalls : Nat
  violations : List Violation
  chainHash : String
  halted : Bool
  haltReason : Option String

/-- `RunReport`. -/
structure RunReport where
  firstTick : Int
  lastTick : Int
  ticks : Nat
  events : Nat
  chainHash : String
  status : String
  haltReason : Option String

abbrev LoopM (W : Type) := EStateM Fault (LoopState W)

/-- The clock, and what the sinks have received. -/
def LoopState.kept {W : Type} (s : LoopState W) :
    Int × List (Events.Event Value) × List (Events.Event Value) :=
  (s.tick, s.sys.stored, s.sys.published)

/-- Neither the clock nor a sink moves. -/
def Quiet {W : Type} (s s' : LoopState W) : Prop := s'.kept = s.kept

theorem Quiet.refl {W : Type} (s : LoopState W) : Quiet s s := rfl

theorem Quiet.trans {W : Type} (s t u : LoopState W) (h : Quiet s t) (h' : Quiet t u) :
    Quiet s u := Eq.trans h' h

namespace TickLoop

variable {W A : Type} (L : TickLoop W A)

/-! ## The phases -/

/-- What a handler works on. -/
def onWorld {α : Type} (x : EStateM Fault (W × EventLog Value) α) : LoopM W α :=
  zoom (fun s => (s.world, s.sys.log))
    (fun s t => { s with world := t.1, sys := { s.sys with log := t.2 } }) x

/-- `log.commit`; the flag tells the end of the tick from the commit phase. -/
def commit (tick : Int) (final : Bool) : LoopM W CommitResult := fun s =>
  match Events.commit tick (L.answers tick final) s.sys with
  | .ok r sys => .ok r { s with sys }
  | .error f sys => .error (.log f) { s with sys }

/-- One turn of the loop over the phases, with the result of the first commit. -/
def runPhase (tick : Int) (acc : TickContext A × Option CommitResult) (phase : Phase) :
    LoopM W (TickContext A × Option CommitResult) := do
  let ctx ← foldEff (fun ctx h => onWorld (h.run ctx)) acc.1
    (L.handlers.filter fun h => h.phase = phase)
  let ctx := if phase = .decide then
    { ctx with actions := StableSort.sortByKey L.actionKey ctx.actions } else ctx
  if phase = .commit then do
    let result ← L.commit tick false
    pure (ctx, some result)
  else pure (ctx, acc.2)

theorem onWorld_quiet {α : Type} (x : EStateM Fault (W × EventLog Value) α) :
    Within Quiet (onWorld x) := by
  intro s a s' h
  obtain ⟨t, -, rfl⟩ := zoom_eq_ok.mp h
  rfl

theorem commit_eq_ok {tick : Int} {final : Bool} {s s' : LoopState W} {r : CommitResult}
    (h : L.commit tick final s = .ok r s') :
    r = s.sys.log.commitResult tick ∧ s' = { s with sys := {
      stored := s.sys.stored ++ persistedOf s.sys.log.staged
      published := s.sys.published ++ ephemeralOf s.sys.log.staged
      log := s.sys.log.committed } } := by
  unfold commit at h
  cases hr : Events.commit tick (L.answers tick final) s.sys with
  | error f sys =>
    rw [hr] at h
    cases h
  | ok r' sys =>
    rw [hr] at h
    cases h
    unfold Events.commit at hr
    split_ifs at hr
    cases hr
    exact ⟨rfl, rfl⟩

/-- The sinks have received something since `s`, as the first commit of the tick
counted it. -/
def Counted (s s' : LoopState W) (first : Option CommitResult) : Prop :=
  ∃ stored published,
    s'.kept = (s.tick, s.sys.stored ++ stored, s.sys.published ++ published) ∧
    first.elim 0 CommitResult.persisted = stored.length ∧
    first.elim 0 CommitResult.ephemeral = published.length

theorem runPhases_counted {s : LoopState W} {tick : Int} (ps : List Phase) (hnodup : ps.Nodup)
    {acc acc' : TickContext A × Option CommitResult} {t t' : LoopState W}
    (hfirst : Phase.commit ∈ ps → acc.2 = none) (hcounted : Counted s t acc.2)
    (h : foldEff (L.runPhase tick) acc ps t = .ok acc' t') : Counted s t' acc'.2 := by
  induction ps generalizing acc t with
  | nil =>
    obtain ⟨rfl, rfl⟩ := pure_eq_ok.mp h
    exact hcounted
  | cons phase ps ih =>
    obtain ⟨hnotin, hnodup⟩ := List.nodup_cons.mp hnodup
    obtain ⟨mid, u, hphase, h⟩ := bind_eq_ok.mp h
    obtain ⟨ctx, v, hhandlers, hphase⟩ := bind_eq_ok.mp hphase
    have hquiet : v.kept = t.kept := within_foldEff Quiet.refl Quiet.trans
      (fun ctx h _ => onWorld_quiet (h.run ctx)) acc.1 t ctx v hhandlers
    obtain ⟨stored, published, hkept, hpersisted, hephemeral⟩ := hcounted
    rw [← hquiet] at hkept
    by_cases hcommit : phase = .commit
    · -- the first commit finds nothing counted yet
      rw [if_pos hcommit] at hphase
      obtain ⟨r, w, hc, hphase⟩ := bind_eq_ok.mp hphase
      obtain ⟨rfl, rfl⟩ := pure_eq_ok.mp hphase
      obtain ⟨rfl, rfl⟩ := L.commit_eq_ok hc
      rw [hfirst (hcommit ▸ List.mem_cons_self)] at hpersisted hephemeral
      obtain rfl := List.length_eq_zero_iff.mp hpersisted.symm
      obtain rfl := List.length_eq_zero_iff.mp hephemeral.symm
      simp only [List.append_nil, LoopState.kept, Prod.mk.injEq] at hkept
      refine ih hnodup (fun hin => absurd (hcommit ▸ hin) hnotin) ⟨_, _, ?_, rfl, rfl⟩ h
      simp only [LoopState.kept, hkept]
    · rw [if_neg hcommit] at hphase
      obtain ⟨rfl, rfl⟩ := pure_eq_ok.mp hphase
      refine ih hnodup ?_ ?_ h
      · exact fun hin => hfirst (List.mem_cons_of_mem _ hin)
      · exact ⟨stored, published, hkept, hpersisted, hephemeral⟩

/-! ## Ticks -/

section Ticks

variable [CanonicalJson Value] [Sha256] [PayloadSchemas Value]

/-- `ctx.emit`. -/
def emit (d : Draft) (tick : Int) : LoopM W (Events.Event Value) :=
  zoom (fun s => s.sys.log) (fun s log => { s with sys := { s.sys with log } })
    (Society.emit L.journal d tick)

/-- The event a violation is told by. -/
def violationDraft (v : Violation) : Draft :=
  { kind := INVARIANT_VIOLATED
    payload := [("invariant_id", .str v.invariantId), ("expected", .str v.expected),
      ("actual", .str v.actual), ("detail", v.detail), ("halting", .bool v.halts)] }

/-- `_stage_invariants`, and whether the run halts. -/
def stageInvariants (tick : Int) : LoopM W (List Violation × Bool) := do
  let s ← get
  let found := L.violations tick s.world
  each (fun v => do let _ ← L.emit (violationDraft v) tick) found
  pure (found, !L.continueOnViolation && found.any fun v => v.halts)

/-- The event that completes a tick. -/
def completedDraft (tick : Int) (count actions rejected : Nat) (halted : Bool) : Draft :=
  { kind := TICK_COMPLETED
    payload := [("tick", .int tick), ("event_count", .int count), ("actions", .int actions),
      ("rejected", .int rejected), ("halted", .bool halted)] }

/-- The end of `run_tick`, behind the phases. -/
def completeTick (tick : Int) (ctx : TickContext A) (first : Option CommitResult) :
    LoopM W TickReport := do
  let found ← L.stageInvariants tick
  let s ← get
  let persisted := first.elim 0 CommitResult.persisted
  let _ ← L.emit (completedDraft tick (persisted + s.sys.log.staged.length + 1)
    ctx.actions.length ctx.rejected.length found.2) tick
  let final ← L.commit tick true
  pure
    { tick
      events := persisted + final.persisted
      ephemerals := first.elim 0 CommitResult.ephemeral + final.ephemeral
      actions := ctx.actions.length
      rejected := ctx.rejected.length
      llmCalls := (ctx.modes.values.filter (· ≠ "reflex")).length
      violations := found.1
      chainHash := final.chainHash
      halted := found.2
      haltReason := if found.2 then (found.1.find? fun v => v.halts).map fun v => v.invariantId
        else none }

/-- `run_tick`. -/
def runTick : LoopM W TickReport := do
  modify fun s => { s with tick := s.tick + 1, world := L.setTick (s.tick + 1) s.world }
  let s ← get
  let due ← liftPy (L.scheduler.due s.tick)
  let _ ← L.emit { kind := TICK_STARTED
                   payload := [("tick", .int s.tick), ("due", .list (due.map .str))] } s.tick
  let filled ← foldEff (L.runPhase s.tick) ({ tick := s.tick, due }, none) Phase.all
  L.completeTick s.tick filled.1 filled.2

/-- The loop of `run`, for so many ticks. -/
def runTicks : Nat → LoopM W (List TickReport)
  | 0 => pure []
  | n + 1 => do
    let report ← L.runTick
    if report.halted then pure [report]
    else do
      let rest ← runTicks n
      pure (report :: rest)

/-- `run`: a tick advances the clock by one, so the loop runs for what the clock
is short of. -/
def run (untilTick : Int) : LoopM W (List TickReport × RunReport) := do
  let before ← get
  let reports ← L.runTicks (untilTick - before.tick).toNat
  let after ← get
  let last := reports.getLast?
  pure (reports,
    { firstTick := before.tick + 1
      lastTick := last.elim after.tick fun r => r.tick
      ticks := reports.length
      events := (reports.map fun r => r.events).sum
      chainHash := after.sys.log.chainHash
      status := if last.any fun r => r.halted then "halted" else "completed"
      haltReason := last.bind fun r => r.haltReason })

/-- What a report tells of its tick: the last event stored completes the tick, and
counts, beside the stored events, those published behind the first commit. -/
def Told (s : LoopState W) (r : TickReport) (s' : LoopState W) : Prop :=
  ∃ before e early late,
    s'.kept = (s.tick + 1, s.sys.stored ++ (before ++ [e]), s.sys.published ++ (early ++ late)) ∧
    r.tick = s.tick + 1 ∧ r.events = before.length + 1 ∧
    r.ephemerals = early.length + late.length ∧
    s'.sys.log.staged = [] ∧ s'.sys.log.chainHash = r.chainHash ∧ e.hash = r.chainHash ∧
    e.tick = r.tick ∧
    (completedDraft r.tick (r.events + late.length) r.actions r.rejected r.halted).Became e

/-- Ticks that follow one another; only behind one that does not halt comes a next. -/
inductive Ran : LoopState W → List TickReport → LoopState W → Prop
  | none (s : LoopState W) : Ran s [] s
  | tick {s t s' : LoopState W} {r : TickReport} {rest : List TickReport} (told : Told s r t)
      (goes : rest ≠ [] → r.halted = false) (ran : Ran t rest s') : Ran s (r :: rest) s'

theorem emit_quiet (d : Draft) (tick : Int) :
    Within Quiet (L.emit d tick) := by
  intro s a s' h
  obtain ⟨t, -, rfl⟩ := zoom_eq_ok.mp h
  rfl

/-- An event of a durable kind that is staged stays. -/
theorem emit_durable {d : Draft} {tick : Int} {s s' : LoopState W} {e : Events.Event Value}
    (hkind : rangePersistence d.kind = some .persisted) (h : L.emit d tick s = .ok e s') :
    s'.sys.log.staged = s.sys.log.staged ++ [e] ∧ s'.sys.log.chainHash = e.hash ∧
    0 ≤ e.seq ∧ e.tick = tick ∧ d.Became e := by
  obtain ⟨log, hemit, rfl⟩ := zoom_eq_ok.mp h
  obtain ⟨hseal, rfl⟩ := emit_sealed hkind hemit
  have hsealed := seal_recompute hseal
  exact ⟨rfl, rfl, hsealed.seq_nonneg, hsealed.tick_eq, emit_became hemit⟩

theorem stageInvariants_quiet (tick : Int) : Within Quiet (L.stageInvariants tick) :=
  within_bind Quiet.trans (within_get Quiet.refl) fun _ =>
    within_bind Quiet.trans
      (within_each Quiet.refl Quiet.trans fun _ _ =>
        within_bind Quiet.trans (L.emit_quiet _ tick) fun _ => within_pure Quiet.refl ())
      fun _ => within_pure Quiet.refl _

/-- **What one tick stores, and how its last event counts it.** -/
theorem runTick_told {s s' : LoopState W} {r : TickReport} (h : L.runTick s = .ok r s') :
    Told s r s' := by
  unfold runTick at h
  obtain ⟨_, s₀, hadvance, h⟩ := bind_eq_ok.mp h
  have hs₀ := modify_eq_ok.mp hadvance
  obtain ⟨_, _, hget, h⟩ := bind_eq_ok.mp h
  obtain ⟨rfl, rfl⟩ := get_eq_ok.mp hget
  obtain ⟨due, _, hdue, h⟩ := bind_eq_ok.mp h
  obtain ⟨-, rfl⟩ := liftPy_eq_ok.mp hdue
  obtain ⟨_, s₁, hstarted, h⟩ := bind_eq_ok.mp h
  obtain ⟨filled, s₂, hphases, h⟩ := bind_eq_ok.mp h
  have hstart : s₁.kept = (s.tick + 1, s.sys.stored, s.sys.published) := by
    rw [L.emit_quiet _ _ _ _ _ hstarted, ← hs₀]
    rfl
  simp only [LoopState.kept, Prod.mk.injEq] at hstart
  obtain ⟨stored, published, hkept, hpersisted, hephemeral⟩ := L.runPhases_counted (s := s₁)
    Phase.all (by decide) (fun _ => rfl) ⟨[], [], by simp [LoopState.kept], rfl, rfl⟩ hphases
  rw [hstart.1, hstart.2.1, hstart.2.2] at hkept
  obtain ⟨found, s₃, hinvariants, h⟩ := bind_eq_ok.mp h
  obtain ⟨_, _, hget, h⟩ := bind_eq_ok.mp h
  obtain ⟨rfl, rfl⟩ := get_eq_ok.mp hget
  obtain ⟨e, s₄, hcompleted, h⟩ := bind_eq_ok.mp h
  obtain ⟨final, s₅, hcommit, h⟩ := bind_eq_ok.mp h
  obtain ⟨rfl, rfl⟩ := pure_eq_ok.mp h
  obtain ⟨rfl, rfl⟩ := L.commit_eq_ok hcommit
  obtain ⟨hstaged, hhash, hseq, hetick, hbecame⟩ := L.emit_durable
    (by show rangePersistence 1003 = _; decide) hcompleted
  have hquiet : s₄.kept = s₂.kept :=
    Eq.trans (L.emit_quiet _ _ _ _ _ hcompleted) (L.stageInvariants_quiet _ _ _ _ hinvariants)
  rw [hkept] at hquiet
  simp only [LoopState.kept, Prod.mk.injEq] at hquiet
  have hlast : persistedOf s₄.sys.log.staged = persistedOf s₃.sys.log.staged ++ [e] := by
    rw [hstaged, persistedOf_append, persistedOf_single hseq]
  have hlength : s₃.sys.log.staged.length + 1
      = (persistedOf s₄.sys.log.staged).length + (ephemeralOf s₄.sys.log.staged).length := by
    have hsplit := List.length_eq_length_filter_add (l := s₄.sys.log.staged)
      fun e => decide (e.seq ≠ EPHEMERAL_SEQ)
    rw [hstaged] at hsplit ⊢
    simpa [persistedOf, ephemeralOf] using hsplit
  refine ⟨stored ++ persistedOf s₃.sys.log.staged, e, published,
    ephemeralOf s₄.sys.log.staged, ?_, by rw [← hs₀], ?_, ?_, rfl, rfl, hhash.symm, hetick, ?_⟩
  · simp only [LoopState.kept, hquiet, hlast, List.append_assoc]
  · show _ + (persistedOf s₄.sys.log.staged).length = _
    rw [hlast, hpersisted, List.length_append, List.length_append, add_assoc]
    rfl
  · rw [← hephemeral]
    rfl
  · -- the count was read off the batch before its last event was staged
    have hcount : filled.2.elim 0 CommitResult.persisted + s₃.sys.log.staged.length + 1
        = filled.2.elim 0 CommitResult.persisted + (persistedOf s₄.sys.log.staged).length
          + (ephemeralOf s₄.sys.log.staged).length := by omega
    rw [hcount] at hbecame
    exact hbecame

/-! ## Runs -/

theorem runTicks_ran (n : Nat) {s s' : LoopState W} {rs : List TickReport}
    (h : L.runTicks n s = .ok rs s') :
    Ran s rs s' ∧ (rs.length = n ∨ rs.getLast?.any (fun r => r.halted) = true ∧ rs.length ≤ n) := by
  induction n generalizing s rs with
  | zero =>
    obtain ⟨rfl, rfl⟩ := pure_eq_ok.mp h
    exact ⟨.none s, .inl rfl⟩
  | succ n ih =>
    obtain ⟨r, t, htick, h⟩ := bind_eq_ok.mp h
    have htold := L.runTick_told htick
    by_cases hhalted : r.halted = true
    · rw [if_pos hhalted] at h
      obtain ⟨rfl, rfl⟩ := pure_eq_ok.mp h
      exact ⟨.tick htold (absurd rfl) (.none t), .inr ⟨hhalted, Nat.le_add_left 1 n⟩⟩
    · rw [if_neg hhalted] at h
      obtain ⟨rest, u, hrest, h⟩ := bind_eq_ok.mp h
      obtain ⟨rfl, rfl⟩ := pure_eq_ok.mp h
      obtain ⟨hran, hends⟩ := ih hrest
      refine ⟨.tick htold (fun _ => Bool.eq_false_iff.mpr hhalted) hran, ?_⟩
      rcases hends with hn | ⟨hlast, hn⟩
      · exact .inl (congrArg Nat.succ hn)
      · refine .inr ⟨?_, Nat.succ_le_succ hn⟩
        cases rest with
        | nil => cases hlast
        | cons x xs => rwa [List.getLast?_cons_cons]

omit [CanonicalJson Value] [Sha256] [PayloadSchemas Value] in
theorem Ran.counts {s s' : LoopState W} {rs : List TickReport} (h : Ran s rs s') :
    s'.tick = s.tick + rs.length ∧ rs.getLast?.elim s.tick (fun r => r.tick) = s'.tick ∧
    s'.sys.stored.length = s.sys.stored.length + (rs.map fun r => r.events).sum := by
  induction h with
  | none s => simp
  | @tick s t s' r rest told goes ran ih =>
    obtain ⟨before, e, early, late, hkept, htick, hevents, -⟩ := told
    simp only [LoopState.kept, Prod.mk.injEq] at hkept
    obtain ⟨hticks, hlast, hstored⟩ := ih
    refine ⟨by rw [hticks, hkept.1, List.length_cons]; omega, ?_, ?_⟩
    · rw [← hlast, List.getLast?_cons, hkept.1, ← htick]
      cases rest.getLast? <;> rfl
    · rw [hstored, hkept.2.1, List.map_cons, List.sum_cons, hevents, List.length_append,
        List.length_append]
      simp only [List.length_singleton]
      omega

end Ticks

section Closed

attribute [local instance] blankJson blankDigest anySchema

/-- Every tick publishes a frame when its vitals are taken. -/
def framesLoop : TickLoop Unit Unit where
  journal := plainJournal
  scheduler := { clock := plainJournal.clock }
  handlers := [⟨.vitals, fun ctx => do
    let _ ← zoom Prod.snd (fun s log => (s.1, log))
      (Society.emit plainJournal { kind := 90000, payload := [] } ctx.tick)
    pure ctx⟩]
  actionKey := fun _ => toLex ("", "")
  setTick := fun _ w => w
  violations := fun _ _ => []
  answers := fun _ _ => {}

end Closed

end TickLoop

end Polis.Kernel
