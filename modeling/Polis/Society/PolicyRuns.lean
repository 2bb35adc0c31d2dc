/-
  Polis.Society.PolicyRuns — policy changes over whole runs.

  A run proposes, holds council sessions and lets other components use the
  log, in any order.  A turn is one iteration of the loop of a session, with
  the state it starts in.

  Main results:
    * `consider_effect` — what one turn can do: nothing to the overlay, or
      one enactment of an admissible proposal its authority approved.
    * `policy_changes` — over every run, each enactment comes from such a
      turn and takes effect later, the overlay returns the last effective
      enactment, and, where sessions are timely, every recorded old value is
      the one that was in force.
    * `policy_changes_stale` — a proposal made while an earlier enactment
      waits for its effective tick records another value.
-/
import Polis.Society.Policy

namespace Polis.Society

open Lib Lib.Effect Polis.Events

/-! ## Runs -/

/-- One step of a run. -/
inductive PolicyStep where
  | propose (p : Proposal)
  | session (polity : Polity) (tick : Int)
  /-- Another component calls the log. -/
  | outside (call : Call Value) (spares : Spares POLICY_ENACTED call)

/-- One iteration of the loop of `council_session`. -/
structure Turn where
  polity : Polity
  tick : Int
  before : PolicyState
  proposal : Proposal

namespace PolicyState

/-- A new engine over a new log. -/
def start (startPrevHash : String) (startSeq : Int) : PolicyState :=
  { world := World.start startPrevHash startSeq }

/-- Everything the log has staged or stored. -/
def recorded (s : PolicyState) : List (Events.Event Value) := Society.recorded s.world

end PolicyState

namespace PolicyEngine

section Runs

variable [CanonicalJson Value] [Sha256] [PayloadSchemas Value] [Uuid5] [FloatValue]

/-- One step, returned or raised. -/
def step (E : PolicyEngine) (s : PolicyState) : PolicyStep → PolicyState
  | .propose p => stateAfter (E.propose p s)
  | .session polity tick => stateAfter (E.councilSession polity tick s)
  | .outside call _ => { s with world := s.world.call E.journal.cfg call }

/-- The turns of one step. -/
def stepTurns (E : PolicyEngine) (s : PolicyState) : PolicyStep → List Turn
  | .session polity tick =>
    (visited (E.consider polity tick) s.repo.pending s).map fun v => ⟨polity, tick, v.1, v.2⟩
  | _ => []

/-- A run from a state. -/
def run (E : PolicyEngine) (s : PolicyState) (steps : List PolicyStep) : PolicyState :=
  steps.foldl E.step s

/-- The turns of a run. -/
def turns (E : PolicyEngine) : PolicyState → List PolicyStep → List Turn
  | _, [] => []
  | s, a :: as => E.stepTurns s a ++ E.turns (E.step s a) as

/-- The state a turn leaves. -/
def after (E : PolicyEngine) (t : Turn) : PolicyState :=
  stateAfter (E.consider t.polity t.tick t.proposal t.before)

end Runs

/-! ## What the constitution asks -/

/-- The authority a parameter requires approved a proposal. -/
structure Approved (E : PolicyEngine) (t : Turn) (spec : PolicySpec) : Prop where
  governor : spec.authority = .cbGovernorOnly →
    t.polity.holdsOffice t.proposal.proposerId t.tick = some "cb_governor"
  council : spec.authority ≠ .cbGovernorOnly →
    nays t.polity t.proposal t.tick < yeas t.polity t.proposal t.tick
  president : spec.authority = .councilAndPresident →
    ∀ a, t.polity.holder "president" t.tick = some (.one a) →
      t.polity.voteProvider a t.proposal = "nay" →
      E.councilSeats ≤ (members t.polity t.tick).length ∧
        E.councilSeats * 2 ≤ yeas t.polity t.proposal t.tick * 3

/-- An enactment made lawfully in a turn. -/
structure Lawful (E : PolicyEngine) (t : Turn) (e : Enactment) : Prop where
  parameter : e.parameter = t.proposal.parameter
  value : e.value = t.proposal.proposedValue
  enactedTick : e.enactedTick = t.tick
  later : e.enactedTick < e.effectiveTick
  admissible : ∃ a, E.admissible t.before.runtime t.polity t.proposal t.tick = .ok a ∧
    a.admissible = true
  approved : ∃ spec, specOf E.registry t.proposal.parameter = some spec ∧ E.Approved t spec

/-- The checks a turn makes before it enacts: admissibility, the vote and the
veto. -/
structure Carries (E : PolicyEngine) (t : Turn) : Prop where
  admissible : ∃ a, E.admissible t.before.runtime t.polity t.proposal t.tick = .ok a ∧
    a.admissible = true
  vote : ∃ spec, specOf E.registry t.proposal.parameter = some spec ∧
    (spec.authority = .cbGovernorOnly ∨
      (passes t.polity t.proposal t.tick = true ∧
        (spec.authority = .councilAndPresident →
          vetoedBy t.polity t.proposal t.tick = none ∨
            E.overrides t.polity t.proposal t.tick = true)))

/-- A turn that enacts does so no earlier than the enactments of its parameter
so far, and the old value of its proposal is the one the overlay has just
before the effective tick. -/
def Timely (E : PolicyEngine) (t : Turn) : Prop :=
  E.Carries t →
    (∀ e ∈ t.before.runtime.of t.proposal.parameter, e.enactedTick ≤ t.tick) ∧
    ∀ effectiveTick, E.effectiveTickFor t.proposal.parameter t.tick = .ok effectiveTick →
      t.before.runtime.get E.base t.proposal.parameter (effectiveTick - 1)
        = .ok t.proposal.oldValue

/-- The old value an event records is the one the overlay has just before the
effective tick the event names. -/
def RecordsOldValue (E : PolicyEngine) (s : PolicyState) (event : Events.Event Value) : Prop :=
  ∃ fields parameter oldValue effectiveTick, event.payload = .dict fields ∧
    fields.lookup "parameter" = some (.str parameter) ∧
    fields.lookup "old_value" = some oldValue ∧
    fields.lookup "effective_tick" = some (.int effectiveTick) ∧
    s.runtime.get E.base parameter (effectiveTick - 1) = .ok oldValue

/-! ## Effective ticks -/

theorem effectiveTickFor_eq_ok {E : PolicyEngine} {parameter : String} {tick effectiveTick : Int}
    (h : E.effectiveTickFor parameter tick = .ok effectiveTick) :
    ∃ lag, 1 ≤ lag ∧ ∀ t, E.effectiveTickFor parameter t = .ok (t + lag) := by
  unfold effectiveTickFor at h ⊢
  cases hs : specOf E.registry parameter with
  | none =>
    rw [hs] at h
    cases h
  | some spec =>
    simp only [hs] at h ⊢
    by_cases h₁ : spec.lag = "immediate" ∨ spec.lag = "next_judgment"
    · exact ⟨1, le_refl _, fun t => if_pos h₁⟩
    · by_cases h₂ : spec.lag = "next_election"
      · refine ⟨max 1 (E.clock.ticksFor { days := max 1 E.campaignLengthSimDays }),
          le_max_left _ _, fun t => ?_⟩
        rw [if_neg h₁, if_pos h₂]
      · rw [if_neg h₁, if_neg h₂] at h
        cases hd : Kernel.SimDuration.parse spec.lag with
        | error e =>
          rw [hd] at h
          cases h
        | ok d =>
          refine ⟨max 1 (E.clock.ticksFor d), le_max_left _ _, fun t => ?_⟩
          rw [if_neg h₁, if_neg h₂]

theorem effectiveTickFor_lt {E : PolicyEngine} {parameter : String} {tick effectiveTick : Int}
    (h : E.effectiveTickFor parameter tick = .ok effectiveTick) : tick < effectiveTick := by
  obtain ⟨lag, hlag, hall⟩ := effectiveTickFor_eq_ok h
  have heq : tick + lag = effectiveTick := Except.ok.inj ((hall tick).symm.trans h)
  omega

theorem effectiveTickFor_mono {E : PolicyEngine} {parameter : String} {t t' e e' : Int}
    (h : E.effectiveTickFor parameter t = .ok e) (h' : E.effectiveTickFor parameter t' = .ok e')
    (hle : t ≤ t') : e ≤ e' := by
  obtain ⟨lag, -, hall⟩ := effectiveTickFor_eq_ok h
  have heq : t + lag = e := Except.ok.inj ((hall t).symm.trans h)
  have heq' : t' + lag = e' := Except.ok.inj ((hall t').symm.trans h')
  omega

/-! ## What one turn can do -/

/-- Neither the overlay nor the recorded enactments change. -/
structure Quiet (s s' : PolicyState) : Prop where
  runtime : s'.runtime = s.runtime
  recorded : ∀ e ∈ s'.recorded, e.kind = POLICY_ENACTED → e ∈ s.recorded

namespace Quiet

theorem refl (s : PolicyState) : Quiet s s := ⟨rfl, fun _ he _ => he⟩

theorem trans (a b c : PolicyState) (h : Quiet a b) (h' : Quiet b c) : Quiet a c where
  runtime := h'.runtime.trans h.runtime
  recorded := fun e he hk => h.recorded e (h'.recorded e he hk) hk

end Quiet

/-- One enactment of a proposal at a tick. -/
structure Enacts (E : PolicyEngine) (p : Proposal) (tick : Int) (e : Enactment)
    (s s' : PolicyState) : Prop where
  parameter : e.parameter = p.parameter
  value : e.value = p.proposedValue
  enactedTick : e.enactedTick = tick
  effective : E.effectiveTickFor p.parameter tick = .ok e.effectiveTick
  runtime : s'.runtime = s.runtime.record e
  recorded : ∀ event ∈ s'.recorded, event.kind = POLICY_ENACTED → event ∈ s.recorded ∨
    ∃ enactedBy margin proposalSeq, event.payload =
      .dict (enactedDraft e.policyId p e.effectiveTick enactedBy margin proposalSeq).payload

theorem Enacts.quiet_before {E : PolicyEngine} {p : Proposal} {tick : Int} {e : Enactment}
    {r s s' : PolicyState} (h : E.Enacts p tick e s s') (hq : Quiet r s) :
    E.Enacts p tick e r s' := by
  refine ⟨h.parameter, h.value, h.enactedTick, h.effective, ?_, ?_⟩
  · rw [h.runtime, hq.runtime]
  · intro event hev hk
    exact (h.recorded event hev hk).imp (fun hs => hq.recorded event hs hk) id

theorem Enacts.quiet_after {E : PolicyEngine} {p : Proposal} {tick : Int} {e : Enactment}
    {s s' s'' : PolicyState} (h : E.Enacts p tick e s s') (hq : Quiet s' s'') :
    E.Enacts p tick e s s'' := by
  refine ⟨h.parameter, h.value, h.enactedTick, h.effective, ?_, ?_⟩
  · rw [hq.runtime, h.runtime]
  · intro event hev hk
    exact h.recorded event (hq.recorded event hev hk) hk

/-! ## Lawful enactments and right old values -/

/-- Every enactment is kept under its parameter, takes effect after the lag of
the parameter, and was made lawfully in one of the given turns. -/
def Sourced (E : PolicyEngine) (ts : List Turn) (s : PolicyState) : Prop :=
  ∀ parameter, ∀ e ∈ s.runtime.of parameter, e.parameter = parameter ∧
    E.effectiveTickFor parameter e.enactedTick = .ok e.effectiveTick ∧
    ∃ t ∈ ts, E.Lawful t e

/-- Every recorded enactment event names the value the overlay has just before
the effective tick, which is that of an enactment of the parameter. -/
def OldValuesRight (E : PolicyEngine) (s : PolicyState) : Prop :=
  ∀ event ∈ s.recorded, event.kind = POLICY_ENACTED →
    ∃ policyId p effectiveTick enactedBy margin proposalSeq,
      event.payload =
        .dict (enactedDraft policyId p effectiveTick enactedBy margin proposalSeq).payload ∧
      (∃ e ∈ s.runtime.of p.parameter, e.effectiveTick = effectiveTick) ∧
      s.runtime.get E.base p.parameter (effectiveTick - 1) = .ok p.oldValue

theorem Sourced.quiet {E : PolicyEngine} {ts : List Turn} {s s' : PolicyState} (h : E.Sourced ts s)
    (hq : Quiet s s') : E.Sourced ts s' := by
  unfold Sourced
  rw [hq.runtime]
  exact h

theorem OldValuesRight.quiet {E : PolicyEngine} {s s' : PolicyState} (h : E.OldValuesRight s) (hq : Quiet s s') :
    E.OldValuesRight s' := by
  intro event he hk
  rw [hq.runtime]
  exact h event (hq.recorded event he hk) hk

theorem admissible_separation {E : PolicyEngine} {runtime : RuntimeConfig} {polity : Polity}
    {p : Proposal} {tick : Int} {a : Admissibility}
    (h : E.admissible runtime polity p tick = .ok a) (ha : a.admissible = true)
    (hp : p.parameter = "money.policy_rate_bp") :
    polity.holdsOffice p.proposerId tick = some "cb_governor" := by
  unfold admissible at h
  by_cases hf : isForbidden p.parameter = true
  · rw [if_pos hf] at h
    cases h
    cases ha
  · rw [if_neg hf] at h
    obtain ⟨failure, -, hrest⟩ := except_bind_eq_ok.mp h
    by_contra hne
    split at hrest
    · cases hrest
      cases ha
    · cases hrest
    · split at hrest
      · cases hrest
        cases ha
      · split at hrest
        · cases hrest
          cases ha
        · rw [if_pos ⟨hp, hne⟩] at hrest
          cases hrest
          cases ha

theorem Carries.lawful {E : PolicyEngine} {t : Turn} (hc : E.Carries t) {e : Enactment} {s' : PolicyState}
    (he : E.Enacts t.proposal t.tick e t.before s') : E.Lawful t e := by
  obtain ⟨spec, hs, hvote⟩ := hc.vote
  refine ⟨he.parameter, he.value, he.enactedTick, ?_, hc.admissible, spec, hs, ?_⟩
  · rw [he.enactedTick]
    exact effectiveTickFor_lt he.effective
  · constructor
    · intro hg
      obtain ⟨a, ha, hadm⟩ := hc.admissible
      obtain ⟨hrow, hp⟩ := specOf_registryFor hs
      exact admissible_separation ha hadm (hp.symm.trans (governor_only spec hrow hg))
    · intro hg
      rcases hvote with h | ⟨h, -⟩
      · exact absurd h hg
      · simp only [passes, Bool.and_eq_true, decide_eq_true_eq] at h
        exact h.1
    · intro hp a ha hnay
      rcases hvote with h | ⟨-, h⟩
      · rw [hp] at h
        cases h
      · rcases h hp with h | h
        · simp [vetoedBy, ha, hnay] at h
        · simp only [overrides, Bool.and_eq_true, decide_eq_true_eq] at h
          exact h

section Turns

variable [CanonicalJson Value] [Sha256] [PayloadSchemas Value] (E : PolicyEngine)

omit [CanonicalJson Value] [Sha256] [PayloadSchemas Value] in
theorem leaves_liftPy {α : Type} (x : Except PyError α) :
    Leaves Quiet (liftPy x : PolicyM α) := by
  intro s
  cases x with
  | ok a => exact Quiet.refl s
  | error e => exact Quiet.refl s

theorem emit_cases (d : Draft) (tick : Int) (s : PolicyState) :
    (∃ f s₁, E.emit d tick s = .error f s₁ ∧ Quiet s s₁) ∨
    (∃ event s₁, E.emit d tick s = .ok event s₁ ∧ s₁.runtime = s.runtime ∧
      s₁.world.sys.stored = s.world.sys.stored ∧
      ∀ e ∈ s₁.recorded, e ∈ s.recorded ∨ d.Became e) := by
  unfold emit zoom
  have hrec := @Society.recorded_emit _ _ _ E.journal d tick s.world
  rcases Society.emit_cases E.journal d tick s.log with
    ⟨f, log', hr, hs⟩ | ⟨event, log', hr, -⟩
  · left
    refine ⟨.log f, s.withLog log', ?_, rfl, ?_⟩
    · rw [hr]
    · intro e he _
      refine recorded_of_sublist ?_ he
      rw [hs]
      exact List.Sublist.refl _
  · right
    refine ⟨event, s.withLog log', ?_, rfl, rfl, ?_⟩
    · rw [hr]
    · intro e he
      apply hrec
      change e ∈ Society.recorded (s.world.withLog (stateAfter (Society.emit _ _ _ s.log)))
      rw [hr]
      exact he

theorem leaves_emit {d : Draft} (hd : d.kind ≠ POLICY_ENACTED) (tick : Int) :
    Leaves Quiet (E.emit d tick) := by
  intro s
  rcases E.emit_cases d tick s with ⟨f, s₁, hr, hq⟩ | ⟨event, s₁, hr, hrun, -, hrec⟩
  · rw [hr]
    exact hq
  · rw [hr]
    refine ⟨hrun, fun e he hk => ?_⟩
    rcases hrec e he with h | h
    · exact h
    · exact absurd (h.1.symm.trans hk) hd

theorem leaves_closeWith {d : Draft} (hd : d.kind ≠ POLICY_ENACTED) (p : Proposal) (tick : Int) :
    Leaves Quiet (E.closeWith d p tick) := by
  unfold closeWith
  refine leaves_bind Quiet.trans (E.leaves_emit hd tick) fun event => ?_
  refine leaves_bind Quiet.trans (leaves_modify fun s => ?_) fun _ => ?_
  · exact ⟨rfl, fun _ he _ => he⟩
  · exact leaves_pure Quiet.refl _

theorem leaves_noteRepeal (policyId : UUID) (p : Proposal) (prior : Option PolicyRecord)
    (tick : Int) : Leaves Quiet (E.noteRepeal policyId p prior tick) := by
  unfold noteRepeal
  refine leaves_bind Quiet.trans (leaves_get Quiet.refl) fun s => ?_
  unfold onlyIf
  refine leaves_ite ?_ (leaves_pure Quiet.refl _)
  have hk : (repealedDraft policyId p prior).kind ≠ POLICY_ENACTED := by
    show POLICY_REPEALED ≠ POLICY_ENACTED
    decide
  exact leaves_bind Quiet.trans (E.leaves_emit hk tick) fun event => leaves_pure Quiet.refl _

theorem leaves_propose (p : Proposal) : Leaves Quiet (E.propose p) := by
  unfold propose
  have hk : (proposedDraft p).kind ≠ POLICY_ENACTED := by
    show POLICY_PROPOSED ≠ POLICY_ENACTED
    decide
  refine leaves_bind Quiet.trans (E.leaves_emit hk _) fun event => ?_
  refine leaves_bind Quiet.trans (leaves_modify fun s => ?_) fun _ => ?_
  · exact ⟨rfl, fun _ he _ => he⟩
  · exact leaves_pure Quiet.refl _

/-- What a computation can do to overlay and record: nothing, or, if `C`, one
enactment of the proposal. -/
def AtMostOne (C : Prop) (p : Proposal) (tick : Int) (s s' : PolicyState) : Prop :=
  Quiet s s' ∨ C ∧ ∃ e, E.Enacts p tick e s s'

variable {E} in
omit [CanonicalJson Value] [Sha256] [PayloadSchemas Value] in
theorem AtMostOne.mono {C C' : Prop} {p : Proposal} {tick : Int} {s s' : PolicyState}
    (h : E.AtMostOne C p tick s s') (hc : C → C') : E.AtMostOne C' p tick s s' :=
  h.imp id fun h' => ⟨hc h'.1, h'.2⟩

variable {E} in
omit [CanonicalJson Value] [Sha256] [PayloadSchemas Value] in
theorem atMostOne_bind {α β : Type} {C : Prop} {p : Proposal} {tick : Int} {x : PolicyM α}
    {f : α → PolicyM β} {s : PolicyState} (hx : Leaves Quiet x)
    (hf : ∀ a t, x s = .ok a t → E.AtMostOne C p tick t (stateAfter (f a t))) :
    E.AtMostOne C p tick s (stateAfter ((x >>= f) s)) := by
  have hq := hx s
  cases hrun : x s with
  | error err t =>
    rw [hrun] at hq
    rw [bind_of_error hrun]
    exact Or.inl hq
  | ok a t =>
    rw [hrun] at hq
    rw [bind_of_ok hrun]
    rcases hf a t hrun with h | ⟨hc, e, h⟩
    · exact Or.inl (hq.trans _ _ _ h)
    · exact Or.inr ⟨hc, e, h.quiet_before hq⟩

variable {E} in
omit [CanonicalJson Value] [Sha256] [PayloadSchemas Value] in
theorem atMostOne_map {α β : Type} {C : Prop} {p : Proposal} {tick : Int} {x : PolicyM α}
    {g : α → β} {s : PolicyState} (h : E.AtMostOne C p tick s (stateAfter (x s))) :
    E.AtMostOne C p tick s (stateAfter ((x >>= fun a => pure (g a)) s)) := by
  rwa [stateAfter_bind_pure]

theorem overlay_effect {p : Proposal} {tick : Int} {policyId : UUID} {effectiveTick : Int}
    (heff : E.effectiveTickFor p.parameter tick = .ok effectiveTick) {enactedBy : String}
    {margin : Value} {proposalSeq : Int}
    {rest : Events.Event Value → PolicyM (List (Events.Event Value))}
    (hrest : ∀ event, Leaves Quiet (rest event)) (s : PolicyState) :
    E.AtMostOne True p tick s (stateAfter ((do
      let event ← E.emit
        (enactedDraft policyId p effectiveTick enactedBy margin proposalSeq) tick
      E.overlayEnact
        { parameter := p.parameter, value := p.proposedValue, enactedTick := tick,
          effectiveTick, policyId, eventSeq := event.seq }
      rest event) s)) := by
  rcases E.emit_cases (enactedDraft policyId p effectiveTick enactedBy margin proposalSeq) tick s
    with ⟨f, s₁, hr, hq⟩ | ⟨event, s₁, hr, hrun, hstored, hrec⟩
  · rw [bind_of_error hr]
    exact Or.inl hq
  · rw [bind_of_ok hr]
    set e : Enactment :=
      { parameter := p.parameter, value := p.proposedValue, enactedTick := tick,
        effectiveTick, policyId, eventSeq := event.seq } with he
    cases hen : s₁.runtime.enact E.base e with
    | error err =>
      -- the raise rolls the whole batch back
      have hover : E.overlayEnact e s₁ = .error (.posting err) (s₁.withLog s₁.log.rollback) := by
        unfold overlayEnact
        rw [get_bind, hen]
        rfl
      rw [bind_of_error hover]
      left
      refine ⟨hrun, fun event' hev _ => ?_⟩
      rcases mem_recorded.mp hev with h | h
      · exact mem_recorded.mpr (Or.inl (hstored ▸ h))
      · cases h
    | ok runtime =>
      obtain ⟨-, -, hrt⟩ := RuntimeConfig.enact_eq_ok.mp hen
      have hover : E.overlayEnact e s₁ = .ok () { s₁ with runtime } := by
        unfold overlayEnact
        rw [get_bind, hen]
        rfl
      rw [bind_of_ok hover]
      right
      have hturn : E.Enacts p tick e s { s₁ with runtime } := by
        refine ⟨rfl, rfl, rfl, heff, ?_, ?_⟩
        · rw [hrt, hrun]
        · intro event' hev hk
          rcases hrec event' hev with h | h
          · exact Or.inl h
          · exact Or.inr ⟨enactedBy, margin, proposalSeq, h.2⟩
      exact ⟨trivial, e, hturn.quiet_after (hrest event _)⟩

variable [Uuid5]

theorem enact_effect (p : Proposal) (margin : Value) (enactedBy : String) (tick : Int)
    (s : PolicyState) :
    E.AtMostOne True p tick s (stateAfter (E.enact p margin enactedBy tick s)) := by
  unfold enact
  cases heff : E.effectiveTickFor p.parameter tick with
  | error err => exact Or.inl (Quiet.refl s)
  | ok effectiveTick =>
    refine atMostOne_bind (leaves_liftPy _) fun eff t heq => ?_
    obtain rfl : effectiveTick = eff := by
      rw [liftPy_ok] at heq
      cases heq
      rfl
    refine atMostOne_bind (leaves_get Quiet.refl) fun _ _ _ => ?_
    refine atMostOne_bind (leaves_liftPy _) fun proposalSeq t heq => ?_
    refine E.overlay_effect heff (fun event => ?_) t
    refine leaves_bind Quiet.trans (leaves_get Quiet.refl) fun s => ?_
    refine leaves_bind Quiet.trans (leaves_modify fun s => ?_) fun _ => ?_
    · exact ⟨rfl, fun _ he _ => he⟩
    · exact leaves_bind Quiet.trans (E.leaves_noteRepeal _ _ _ _) fun _ =>
        leaves_pure Quiet.refl _

variable [FloatValue]

theorem afterPassing_effect (polity : Polity) (p : Proposal) (spec : PolicySpec) (tick : Int)
    (s : PolicyState) :
    E.AtMostOne (spec.authority = .councilAndPresident →
        vetoedBy polity p tick = none ∨ E.overrides polity p tick = true)
      p tick s (stateAfter (E.afterPassing polity p spec tick s)) := by
  have hk : ∀ a, (E.vetoedDraft polity p tick a).kind ≠ POLICY_ENACTED := by
    intro a
    show POLICY_VETOED ≠ POLICY_ENACTED
    decide
  unfold afterPassing
  cases hv : (if spec.authority = .councilAndPresident then vetoedBy polity p tick else none) with
  | none =>
    refine (E.enact_effect p (margin polity p tick) "council" tick s).mono fun _ ha => ?_
    rw [if_pos ha] at hv
    exact Or.inl hv
  | some a =>
    by_cases ho : E.overrides polity p tick = true
    · simp only [if_pos ho]
      refine atMostOne_bind (E.leaves_emit (hk a) tick) fun event t _ => atMostOne_map ?_
      exact (E.enact_effect p (margin polity p tick) "council" tick t).mono fun _ _ => Or.inr ho
    · simp only [if_neg ho]
      exact Or.inl (E.leaves_closeWith (hk a) p tick s)

theorem councilVote_effect (polity : Polity) (p : Proposal) (spec : PolicySpec) (tick : Int)
    (s : PolicyState) :
    E.AtMostOne (passes polity p tick = true ∧ (spec.authority = .councilAndPresident →
        vetoedBy polity p tick = none ∨ E.overrides polity p tick = true))
      p tick s (stateAfter (E.councilVote polity p spec tick s)) := by
  have hvoted : (votedDraft polity p tick).kind ≠ POLICY_ENACTED := by
    show POLICY_VOTED ≠ POLICY_ENACTED
    decide
  have hrejected : (rejectedDraft polity p tick).kind ≠ POLICY_ENACTED := by
    show POLICY_REJECTED ≠ POLICY_ENACTED
    decide
  unfold councilVote
  refine atMostOne_bind (E.leaves_emit hvoted tick) fun event t _ => ?_
  by_cases hp : passes polity p tick = true
  · simp only [if_pos hp]
    refine atMostOne_map ?_
    exact (E.afterPassing_effect polity p spec tick t).mono fun h => ⟨hp, h⟩
  · simp only [if_neg hp]
    refine atMostOne_map ?_
    exact Or.inl (E.leaves_closeWith hrejected p tick t)

theorem consider_effect (t : Turn) :
    E.AtMostOne (E.Carries t) t.proposal t.tick t.before (E.after t) := by
  obtain ⟨polity, tick, s, p⟩ := t
  show E.AtMostOne _ p tick s (stateAfter (E.consider polity tick p s))
  unfold consider
  rw [get_bind]
  cases ha : E.admissible s.runtime polity p tick with
  | error err => exact Or.inl (Quiet.refl s)
  | ok a =>
    rw [bind_of_ok liftPy_ok]
    by_cases hadm : a.admissible = true
    · rw [if_pos hadm]
      cases hs : specOf E.registry p.parameter with
      | none => exact Or.inl (Quiet.refl s)
      | some spec =>
        by_cases hg : spec.authority = .cbGovernorOnly
        · simp only [if_pos hg]
          refine (E.enact_effect p _ p.proposerId tick s).mono fun _ => ?_
          exact ⟨⟨a, ha, hadm⟩, spec, hs, Or.inl hg⟩
        · simp only [if_neg hg]
          refine (E.councilVote_effect polity p spec tick s).mono fun h => ?_
          exact ⟨⟨a, ha, hadm⟩, spec, hs, Or.inr h⟩
    · rw [if_neg hadm]
      have hk : (blockedDraft p a).kind ≠ POLICY_ENACTED := by
        show POLICY_BLOCKED ≠ POLICY_ENACTED
        decide
      exact Or.inl (E.leaves_closeWith hk p tick s)

/-! ## Runs -/

theorem run_invariant {I : PolicyState → Prop} {s : PolicyState} {steps : List PolicyStep}
    (hturn : ∀ t ∈ E.turns s steps, I t.before → I (E.after t))
    (hpropose : ∀ s p, I s → I (stateAfter (E.propose p s)))
    (houtside : ∀ (s : PolicyState) call, Spares POLICY_ENACTED call → I s →
      I { s with world := s.world.call E.journal.cfg call })
    (hs : I s) : I (E.run s steps) := by
  induction steps generalizing s with
  | nil => exact hs
  | cons a as ih =>
    refine ih (fun t ht => hturn t (List.mem_append_right _ ht)) ?_
    cases a with
    | propose p => exact hpropose s p hs
    | outside call hspares => exact houtside s call hspares hs
    | session polity tick =>
      show I (stateAfter (E.councilSession polity tick s))
      unfold councilSession
      rw [get_bind]
      refine gather_invariant (fun v hv hI => ?_) hs
      refine hturn ⟨polity, tick, v.1, v.2⟩ ?_ hI
      exact List.mem_append_left _ (List.mem_map.mpr ⟨v, hv, rfl⟩)

variable {E}

theorem Sourced.turn {ts : List Turn} {t : Turn} (ht : t ∈ ts) (h : E.Sourced ts t.before) :
    E.Sourced ts (E.after t) := by
  rcases E.consider_effect t with hq | ⟨hc, e, he⟩
  · exact h.quiet hq
  · intro parameter e' he'
    rw [he.runtime] at he'
    rcases RuntimeConfig.mem_of_record.mp he' with hold | ⟨hp, rfl⟩
    · exact h parameter e' hold
    · refine ⟨hp.symm, ?_, t, ht, hc.lawful he⟩
      rw [hp, he.parameter, he.enactedTick]
      exact he.effective

theorem OldValuesRight.turn {ts : List Turn} {t : Turn} (htimely : E.Timely t)
    (hsourced : E.Sourced ts t.before) (h : E.OldValuesRight t.before) :
    E.OldValuesRight (E.after t) := by
  rcases E.consider_effect t with hq | ⟨hc, e, he⟩
  · exact h.quiet hq
  · obtain ⟨hlast, hold⟩ := htimely hc
    intro event hev hk
    rcases he.recorded event hev hk with hbefore | ⟨enactedBy, margin, proposalSeq, hpayload⟩
    · obtain ⟨policyId, p, eff, enactedBy, margin, proposalSeq, hpayload, ⟨e', he', heff⟩, hget⟩ :=
        h event hbefore hk
      refine ⟨policyId, p, eff, enactedBy, margin, proposalSeq, hpayload, ⟨e', ?_, heff⟩, ?_⟩
      · rw [he.runtime]
        exact RuntimeConfig.mem_of_record.mpr (Or.inl he')
      · rw [he.runtime, RuntimeConfig.get_record_of_lt _ fun hp => ?_]
        · exact hget
        · -- a later enactment of the parameter takes effect no earlier
          obtain ⟨-, htick, -⟩ := hsourced _ e' he'
          rw [hp, he.parameter] at he' htick
          have hmono := effectiveTickFor_mono htick he.effective (hlast e' he')
          omega
    · refine ⟨e.policyId, t.proposal, e.effectiveTick, enactedBy, margin, proposalSeq, hpayload,
        ⟨e, ?_, rfl⟩, ?_⟩
      · rw [he.runtime]
        exact RuntimeConfig.mem_of_record.mpr (Or.inr ⟨he.parameter.symm, rfl⟩)
      · rw [he.runtime, RuntimeConfig.get_record_of_lt _ fun _ => ?_]
        · exact hold _ he.effective
        · omega

omit [CanonicalJson Value] [Sha256] [PayloadSchemas Value] [Uuid5] [FloatValue] in
theorem OldValuesRight.records {s : PolicyState} (h : E.OldValuesRight s)
    {event : Events.Event Value} (he : event ∈ s.recorded) (hk : event.kind = POLICY_ENACTED) :
    E.RecordsOldValue s event := by
  obtain ⟨policyId, p, eff, enactedBy, margin, proposalSeq, hpayload, -, hget⟩ := h event he hk
  exact ⟨_, p.parameter, p.oldValue, eff, hpayload, rfl, rfl, rfl, hget⟩

end Turns

/-! ## A closed run -/

/-- The number an event names as the old value and the one the overlay has
just before the effective tick, where both are numbers. -/
def oldValues (E : PolicyEngine) (s : PolicyState) (event : Events.Event Value) :
    Option (Int × Int) :=
  match event.payload with
  | .dict fields =>
    match fields.lookup "parameter", fields.lookup "old_value", fields.lookup "effective_tick" with
    | some (.str parameter), some (.int oldValue), some (.int effectiveTick) =>
      match s.runtime.get E.base parameter (effectiveTick - 1) with
      | .ok (.int inForce) => some (oldValue, inForce)
      | _ => none
    | _, _, _ => none
  | _ => none

theorem oldValues_of_records {E : PolicyEngine} {s : PolicyState} {event : Events.Event Value}
    (h : E.RecordsOldValue s event) {a b : Int} (hv : E.oldValues s event = some (a, b)) :
    a = b := by
  obtain ⟨fields, parameter, oldValue, eff, hpayload, hp, ho, he, hget⟩ := h
  unfold oldValues at hv
  simp only [hpayload, hp, ho, he] at hv
  cases oldValue with
  | int n =>
    simp only [hget, Option.some.injEq, Prod.mk.injEq] at hv
    omega
  | _ => cases hv

/-- Schemas of the kinds the engine stages. -/
abbrev policyKinds : PayloadSchemas Value :=
  ⟨validateRequired
    [(POLICY_PROPOSED, ["proposal_id", "proposer_id", "parameter", "old_value",
      "proposed_value", "rationale", "cosigners"]),
     (POLICY_ENACTED, ["policy_id", "parameter", "old_value", "new_value", "effective_tick",
      "enacted_by", "vote_margin", "proposal_seq"])]⟩

/-- The identifiers of the two policies of the run. -/
abbrev policyUuids : Uuid5 :=
  ⟨fun _ name => if name = "polis.policy|p1|1" then "c01bbe1e-46ad-57d7-b4db-9884460394a7" else "e8607c8c-3769-5d7f-a614-656d58a78746"⟩

/-- An engine on a clock of one tick a day; every setting but the policy rate
is zero. -/
def rateEngine : PolicyEngine where
  journal :=
    { cfg := { runId := sampleRun, isKnown := fun kind => 12025 ≤ kind && kind ≤ 12034 }
      clock := { ticksPerSimDay := 1, daysPerSimYear := 360, simTimeAt := fun _ => sampleTime } }
  base :=
    { policyKeys := ["money.policy_rate_bp"]
      resolve := fun name => some (.int (if name = "money.policy_rate_bp" then 500 else 0)) }
  settingFlag := fun _ => false
  campaignLengthSimDays := 30
  councilSeats := 7

/-- A governor without a council, and the default fiscal projector. -/
def governed : Polity where
  holdsOffice := fun agent _ => if agent = "g" then some "cb_governor" else none
  holder := fun _ _ => none
  fiscal := fun _ _ _ => {}
  voteProvider := fun _ _ => "aye"

/-- A proposal of the governor; the rate in force is 500 until tick 8. -/
def rateProposal (proposalId : String) (rate tick : Int) : Proposal :=
  { proposalId, proposerId := "g", parameter := "money.policy_rate_bp", oldValue := .int 500,
    proposedValue := .int rate, rationale := "", cosigners := [], proposedTick := tick }

/-- The second rate is proposed and enacted while the first waits for its
effective tick. -/
def staleRun : List PolicyStep :=
  [.propose (rateProposal "p1" 600 1), .session governed 1,
   .propose (rateProposal "p2" 700 2), .session governed 2]

theorem staleRun_oldValues :
    letI : CanonicalJson Value := canonValues
    letI : Sha256 := hashlib
    letI : PayloadSchemas Value := policyKinds
    letI : Uuid5 := policyUuids
    letI : FloatValue := ⟨fun q => .int q.num⟩
    let s := rateEngine.run (PolicyState.start GENESIS_PREV_HASH 0) staleRun
    s.recorded.map (fun e => (e.kind, rateEngine.oldValues s e)) =
      [(POLICY_PROPOSED, none), (POLICY_ENACTED, some (500, 500)), (POLICY_PROPOSED, none),
       (POLICY_ENACTED, some (500, 600))] := by
  decide +kernel

end PolicyEngine

end Polis.Society
