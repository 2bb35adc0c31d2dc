/-
  Polis.Society.Forecast — the forward model of beliefs: `predict_delta`
  beside `apply` (`society/beliefs.py`).

  Values are exact, and the state is any whose beliefs and ties are in their
  ranges, as every run of the society leaves them.

  Main results:
    * `project_between` — a projection that is not entrenched lies between the
      belief and its target.
    * `predict_delta_foretells` — what `predict_delta` returns is the change
      that `apply` makes.
-/
import Polis.Society.BeliefRanges

namespace Polis.Society

open Lib Lib.Effect Polis.Events GraphState

/-- `predict_delta`. -/
def BeliefEngine.predictDelta (E : BeliefEngine) (g : GraphState) (agentId proposition : String)
    (target : ℚ) (sourceId : String) (channel : BeliefChannel) : BeliefM ℚ := do
  let s ← get
  let old ← liftPy (beliefValue s.beliefs agentId proposition)
  let projected ← liftPy (E.project s.beliefs g agentId proposition target sourceId channel)
  pure (projected.1 - old)

/-! ## Betweenness -/

theorem clamp_between {lo hi b t x : ℚ} (ht : lo ≤ t ∧ t ≤ hi) (hx : x ∈ Set.uIcc b t) :
    clamp lo hi x ∈ Set.uIcc b t := by
  obtain ⟨hx₀, hx₁⟩ := hx
  constructor
  · exact (le_min ((min_le_right b t).trans ht.2) hx₀).trans (le_max_right _ _)
  · exact max_le (ht.1.trans (le_max_right b t)) ((min_le_right hi x).trans hx₁)

theorem updateKernel_between {b c target tau alpha : ℚ} (cfg : BeliefSettings)
    (htarget : -1 ≤ target ∧ target ≤ 1) (hc : 0 ≤ c ∧ c ≤ 1) (htau : 0 ≤ tau ∧ tau ≤ 1)
    (halpha : 0 ≤ alpha ∧ alpha ≤ 1) (h : (updateKernel b c target tau alpha cfg).2.2 = false) :
    (updateKernel b c target tau alpha cfg).1 ∈ Set.uIcc b target := by
  -- the share of the way that is gone
  have hshare : 0 ≤ alpha * tau * (1 - c) ∧ alpha * tau * (1 - c) ≤ 1 :=
    diluted_share (diluted_share halpha htau) ⟨by linarith, by linarith⟩
  have hway := partway b target hshare.1 hshare.2
  unfold updateKernel at h ⊢
  dsimp only at h ⊢
  rw [h]
  exact clamp_between htarget hway

theorem alpha_nonneg {cfg : BeliefSettings} (hcfg : cfg.Checked) (channel : BeliefChannel) :
    0 ≤ cfg.alpha channel := by
  obtain ⟨hexperience, hsocial, hmedia⟩ := hcfg.alpha
  cases channel with
  | experience => exact hexperience
  | social => exact hsocial
  | media => exact hmedia
  | inherited => exact zero_le_one
  | reflection => exact zero_le_one

theorem spec_share {proposition : String} {spec : PropositionSpec}
    (hspec : propositionSpec proposition = some spec)
    (hhead : proposition.toList.head? ≠ some 'p') : spec.lo = 0 ∧ spec.hi = 1 := by
  have hfirst : ∀ p ∈ POLICY_PROPOSITIONS, p.toList.head? = some 'p' := by
    decide
  have hnot : proposition ∉ POLICY_PROPOSITIONS := fun hmem => hhead (hfirst _ hmem)
  obtain ⟨cls, hcls, rfl⟩ := Option.map_eq_some_iff.mp hspec
  suffices hne : cls ≠ .policy by
    cases cls with
    | policy => exact absurd rfl hne
    | factual => exact ⟨rfl, rfl⟩
    | trust => exact ⟨rfl, rfl⟩
  rintro rfl
  unfold closedClass templateClass at hcls
  rw [if_neg hnot] at hcls
  split at hcls
  · cases hcls
  · split at hcls
    · cases hcls
    · simp only [Option.orElse_eq_or, Option.none_or] at hcls
      split at hcls
      · cases hcls
      · split at hcls
        · cases hcls
        · cases hcls

theorem trustIn_share {beliefs : Beliefs} {g : GraphState} (hb : BeliefsKept beliefs)
    (hg : TiesInRange g) {agentId sourceId : String} {channel : BeliefChannel} {tau : ℚ}
    (h : BeliefEngine.trustIn beliefs g agentId sourceId channel = .ok tau) : 0 ≤ tau ∧ tau ≤ 1 := by
  cases channel with
  | social =>
    cases h
    split
    · norm_num
    · exact hg.trust agentId sourceId
  | media =>
    obtain ⟨trust, htrust, h⟩ := except_bind_eq_ok.mp h
    obtain ⟨fabricates, hfabricates, h⟩ := except_bind_eq_ok.mp h
    cases h
    obtain ⟨⟨spec, current⟩, hc, htrust⟩ := except_bind_eq_ok.mp htrust
    obtain ⟨⟨spec', current'⟩, hc', hfabricates⟩ := except_bind_eq_ok.mp hfabricates
    cases htrust
    cases hfabricates
    have hspec := (BeliefEngine.currentBelief_ok hc).1
    have hspec' := (BeliefEngine.currentBelief_ok hc').1
    have hrange := (hb.current hc).value spec hspec
    have hrange' := (hb.current hc').value spec' hspec'
    obtain ⟨hlo, hhi⟩ := spec_share hspec (by simp [String.toList_append])
    obtain ⟨hlo', hhi'⟩ := spec_share hspec' (by simp [String.toList_append])
    rw [hlo, hhi] at hrange
    rw [hlo', hhi'] at hrange'
    exact diluted_share hrange ⟨by linarith, by linarith⟩
  | experience =>
    cases h
    norm_num
  | inherited =>
    cases h
    norm_num
  | reflection =>
    cases h
    norm_num

theorem project_between {E : BeliefEngine} (hcfg : E.cfg.Checked) {beliefs : Beliefs}
    {g : GraphState} (hb : BeliefsKept beliefs) (hg : TiesInRange g)
    {agentId proposition sourceId : String} {target : ℚ} {channel : BeliefChannel}
    (halpha : E.cfg.alpha channel ≤ 1) {c : PropositionSpec × Belief}
    (hc : currentBelief beliefs agentId proposition = .ok c) {v w : ℚ}
    (h : E.project beliefs g agentId proposition target sourceId channel = .ok (v, w, false)) :
    v ∈ Set.uIcc c.2.value (clamp c.1.lo c.1.hi target) := by
  unfold BeliefEngine.project at h
  rw [hc] at h
  change (if _ then _ else _ : Except PyError (ℚ × ℚ × Bool)) = _ at h
  split at h
  · cases h
    exact Set.left_mem_uIcc
  · obtain ⟨tau, htau, h⟩ := except_bind_eq_ok.mp h
    have hbounds := propositionSpec_bounds (BeliefEngine.currentBelief_ok hc).1
    have htarget := clamp_range hbounds.2.1 target
    have hkernel := fun hfree => updateKernel_between (b := c.2.value) E.cfg
      ⟨hbounds.1.trans htarget.1, htarget.2.trans hbounds.2.2⟩ (hb.current hc).confidence
      (trustIn_share hb hg htau) ⟨alpha_nonneg hcfg channel, halpha⟩ hfree
    generalize updateKernel c.2.value c.2.confidence (clamp c.1.lo c.1.hi target) tau
      (E.cfg.alpha channel) E.cfg = kernel at h hkernel
    obtain ⟨value, confidence, entrenched⟩ := kernel
    cases h
    exact clamp_between htarget (hkernel rfl)

/-! ## What `apply` does where it is foretold -/

section Apply

variable [FloatValue] [CanonicalJson Value] [Events.Sha256] [PayloadSchemas Value]
  {E : BeliefEngine} {g : GraphState} {s : BeliefState} {agentId proposition sourceId : String}
  {target : ℚ} {channel : BeliefChannel} {tick : Int} {llmCallId : Option String}

theorem apply_of_error (tick : Int) (llmCallId : Option String) (hch : channel = .social ∨ channel = .media) {e : PyError}
    (h : currentBelief s.beliefs agentId proposition = .error e ∨
      (∃ c, currentBelief s.beliefs agentId proposition = .ok c) ∧
        E.project s.beliefs g agentId proposition target sourceId channel = .error e) :
    E.apply g agentId proposition target channel sourceId tick llmCallId s
      = .error (.py e) s := by
  unfold BeliefEngine.apply
  rw [get_bind]
  rcases h with hc | ⟨⟨c, hc⟩, hp⟩
  · exact bind_of_error (by rw [hc]; rfl)
  · rw [hc, bind_of_ok liftPy_ok]
    dsimp only
    have hexperience : ¬(channel = .experience ∧ c.1.cls = .policy) := by
      rcases hch with rfl | rfl
      · rintro ⟨hx, -⟩
        cases hx
      · rintro ⟨hx, -⟩
        cases hx
    rw [if_neg hexperience, hp]
    exact bind_of_error liftPy_error

theorem apply_leaves (tick : Int) (llmCallId : Option String)
    (hch : channel = .social ∨ channel = .media) {c : PropositionSpec × Belief}
    (hc : currentBelief s.beliefs agentId proposition = .ok c) {p : ℚ × ℚ × Bool}
    (hp : E.project s.beliefs g agentId proposition target sourceId channel = .ok p) :
    (p.1 = c.2.value ∧ p.2.1 = c.2.confidence ∧
      E.apply g agentId proposition target channel sourceId tick llmCallId s = .ok [] s) ∨
    (¬(p.1 = c.2.value ∧ p.2.1 = c.2.confidence) ∧
      (stateAfter (E.apply g agentId proposition target channel sourceId tick llmCallId s)).beliefs
        = s.beliefs.put (agentId, proposition)
          { value := p.1, confidence := p.2.1, source := channel,
            sourceRef := some (BeliefEngine.sourceRefOf channel sourceId llmCallId),
            updatedTick := tick }) := by
  have hexperience : ¬(channel = .experience ∧ c.1.cls = .policy) := by
    rcases hch with rfl | rfl
    · rintro ⟨hx, -⟩
      cases hx
    · rintro ⟨hx, -⟩
      cases hx
  unfold BeliefEngine.apply
  rw [get_bind, hc, bind_of_ok liftPy_ok]
  dsimp only
  rw [if_neg hexperience, hp, bind_of_ok liftPy_ok]
  by_cases hsame : p.1 = c.2.value ∧ p.2.1 = c.2.confidence
  · left
    refine ⟨hsame.1, hsame.2, ?_⟩
    rw [if_pos hsame]
    rfl
  · right
    refine ⟨hsame, ?_⟩
    rw [if_neg hsame]
    rw [bind_of_ok (a := PUnit.unit) (modify_eq_ok.mpr rfl), if_pos hch, stateAfter_bind_pure]
    unfold BeliefEngine.emit
    rw [stateAfter_zoom]
    rfl

/-- What `predict_delta` promises of `apply` with the same arguments. -/
structure Foretold (E : BeliefEngine) (g : GraphState) (s : BeliefState)
    (agentId proposition : String) (target : ℚ) (sourceId : String) (channel : BeliefChannel)
    (tick : Int) (llmCallId : Option String) : Prop where
  /-- It changes nothing. -/
  reads : stateAfter (E.predictDelta g agentId proposition target sourceId channel s) = s
  /-- Where it raises, `apply` raises the same and changes nothing. -/
  raises : ∀ e t, E.predictDelta g agentId proposition target sourceId channel s = .error e t →
    E.apply g agentId proposition target channel sourceId tick llmCallId s = .error e s
  /-- It returns the change that `apply` makes. -/
  change : ∀ d t, E.predictDelta g agentId proposition target sourceId channel s = .ok d t →
    ∃ old, beliefValue s.beliefs agentId proposition = .ok old ∧
      beliefValue (stateAfter (E.apply g agentId proposition target channel sourceId tick llmCallId
        s)).beliefs agentId proposition = .ok (old + d)
  /-- It returns nothing where `apply` returns no event. -/
  idle : ∀ t, E.apply g agentId proposition target channel sourceId tick llmCallId s = .ok [] t →
    E.predictDelta g agentId proposition target sourceId channel s = .ok 0 s
  /-- The belief that `apply` leaves is in its range. -/
  ranged : ∀ spec b, currentBelief (stateAfter (E.apply g agentId proposition target channel sourceId
      tick llmCallId s)).beliefs agentId proposition = .ok (spec, b) →
    (spec.lo ≤ b.value ∧ b.value ≤ spec.hi) ∧ 0 ≤ b.confidence ∧ b.confidence ≤ 1
  /-- It lies between the old one and the target, unless it is entrenched. -/
  between : E.cfg.alpha channel ≤ 1 → ∀ spec old new value confidence,
    currentBelief s.beliefs agentId proposition = .ok (spec, old) →
    E.project s.beliefs g agentId proposition target sourceId channel
      = .ok (value, confidence, false) →
    beliefValue (stateAfter (E.apply g agentId proposition target channel sourceId tick llmCallId
      s)).beliefs agentId proposition = .ok new →
    new ∈ Set.uIcc old.value (clamp spec.lo spec.hi target)

omit [FloatValue] [CanonicalJson Value] [Events.Sha256] [PayloadSchemas Value] in
theorem predictDelta_of_ok {c : PropositionSpec × Belief}
    (hc : currentBelief s.beliefs agentId proposition = .ok c) {p : ℚ × ℚ × Bool}
    (hp : E.project s.beliefs g agentId proposition target sourceId channel = .ok p) :
    E.predictDelta g agentId proposition target sourceId channel s
      = .ok (p.1 - c.2.value) s := by
  unfold BeliefEngine.predictDelta
  rw [get_bind, beliefValue_of_ok hc, bind_of_ok liftPy_ok, hp, bind_of_ok liftPy_ok]
  rfl

omit [FloatValue] [CanonicalJson Value] [Events.Sha256] [PayloadSchemas Value] in
theorem predictDelta_of_error {e : PyError}
    (h : currentBelief s.beliefs agentId proposition = .error e ∨
      (∃ c, currentBelief s.beliefs agentId proposition = .ok c) ∧
        E.project s.beliefs g agentId proposition target sourceId channel = .error e) :
    E.predictDelta g agentId proposition target sourceId channel s = .error (.py e) s := by
  unfold BeliefEngine.predictDelta
  rw [get_bind]
  rcases h with hc | ⟨⟨c, hc⟩, hp⟩
  · exact bind_of_error (by unfold beliefValue; rw [hc]; rfl)
  · rw [beliefValue_of_ok hc, bind_of_ok liftPy_ok, hp]
    exact bind_of_error liftPy_error

theorem foretold_refused (hb : BeliefsKept s.beliefs) (hch : channel = .social ∨ channel = .media)
    {e : PyError}
    (h : currentBelief s.beliefs agentId proposition = .error e ∨
      (∃ c, currentBelief s.beliefs agentId proposition = .ok c) ∧
        E.project s.beliefs g agentId proposition target sourceId channel = .error e) :
    Foretold E g s agentId proposition target sourceId channel tick llmCallId := by
  have hpredict := predictDelta_of_error h
  have happly := apply_of_error tick llmCallId hch h
  constructor
  case reads =>
    rw [hpredict]
    rfl
  case raises =>
    intro e' t h'
    rw [hpredict] at h'
    cases h'
    exact happly
  case change =>
    intro d t h'
    rw [hpredict] at h'
    cases h'
  case idle =>
    intro t h'
    rw [happly] at h'
    cases h'
  case ranged =>
    intro spec b hafter
    rw [happly] at hafter
    have hheld := hb.current hafter
    exact ⟨hheld.value spec (BeliefEngine.currentBelief_ok hafter).1, hheld.confidence⟩
  case between =>
    intro _ spec old new value confidence hc hp _
    rcases h with h | ⟨-, h⟩
    · rw [h] at hc
      cases hc
    · rw [h] at hp
      cases hp

theorem foretold_projected (hcfg : E.cfg.Checked) (hb : BeliefsKept s.beliefs) (hg : TiesInRange g)
    (hch : channel = .social ∨ channel = .media) {c : PropositionSpec × Belief}
    (hc : currentBelief s.beliefs agentId proposition = .ok c) {p : ℚ × ℚ × Bool}
    (hp : E.project s.beliefs g agentId proposition target sourceId channel = .ok p) :
    Foretold E g s agentId proposition target sourceId channel tick llmCallId := by
  have hpredict := predictDelta_of_ok (E := E) hc hp
  have hleaves := apply_leaves tick llmCallId hch hc hp
  have hspec := (BeliefEngine.currentBelief_ok hc).1
  -- the belief that is read afterwards is the projected one
  obtain ⟨b, hafter, hvalue, hconfidence⟩ : ∃ b, currentBelief (stateAfter (E.apply g agentId
      proposition target channel sourceId tick llmCallId s)).beliefs agentId proposition
        = .ok (c.1, b) ∧ b.value = p.1 ∧ b.confidence = p.2.1 := by
    rcases hleaves with ⟨hv, hconf, happly⟩ | ⟨-, hput⟩
    · rw [happly]
      exact ⟨c.2, hc, hv.symm, hconf.symm⟩
    · rw [hput]
      exact ⟨_, currentBelief_put hspec _, rfl, rfl⟩
  have hreads : beliefValue (stateAfter (E.apply g agentId proposition target channel sourceId tick
      llmCallId s)).beliefs agentId proposition = .ok p.1 := by
    rw [beliefValue_of_ok hafter, hvalue]
  constructor
  case reads =>
    rw [hpredict]
    rfl
  case raises =>
    intro e t h
    rw [hpredict] at h
    cases h
  case change =>
    intro d t h
    rw [hpredict] at h
    cases h
    refine ⟨c.2.value, beliefValue_of_ok hc, ?_⟩
    rw [hreads, add_sub_cancel]
  case idle =>
    intro t h
    rw [hpredict]
    rcases hleaves with ⟨hv, -, -⟩ | ⟨hchanged, -⟩
    · rw [hv, sub_self]
    · obtain ⟨spec, current, value, confidence, entrenched, hc', hp', hcases⟩ := apply_ok h
      rw [hc] at hc'
      rw [hp] at hp'
      cases hc'
      cases hp'
      rcases hcases with ⟨hv, hconf, -⟩ | ⟨-, hne, -⟩
      · exact absurd ⟨hv, hconf⟩ hchanged
      · exact absurd rfl hne
  case ranged =>
    intro spec b' hafter'
    rw [hafter] at hafter'
    cases hafter'
    rw [hvalue, hconfidence]
    rcases BeliefEngine.project_range hc hp with ⟨hv, hconf⟩ | hrange
    · rw [hv, hconf]
      exact ⟨(hb.current hc).value c.1 hspec, (hb.current hc).confidence⟩
    · exact hrange
  case between =>
    intro halpha spec old new value confidence hc' hp' hnew
    rw [hc] at hc'
    cases hc'
    rw [hp] at hp'
    cases hp'
    rw [hreads] at hnew
    cases hnew
    exact project_between hcfg hb hg halpha hc hp

/-- **The forward model is the update.**  Every run of the society leaves
beliefs and ties in their ranges, and there `predict_delta` foretells
`apply` over both channels. -/
theorem predict_delta_foretells (G : SocialGraph) (hcfg : E.cfg.Checked) :
    (∀ cs es s u, SocietyRun G E cs es s u → s.Kept) ∧
    ∀ s : SocietyState, s.Kept →
      ∀ agentId proposition target sourceId channel tick llmCallId,
        channel = .social ∨ channel = .media →
        Foretold E s.graph s.believing agentId proposition target sourceId channel tick
          llmCallId := by
  refine ⟨fun cs es s u run => run_kept hcfg run, ?_⟩
  intro s hs agentId proposition target sourceId channel tick llmCallId hch
  cases hc : currentBelief s.beliefs agentId proposition with
  | error e => exact foretold_refused hs.beliefs hch (Or.inl hc)
  | ok c =>
    cases hp : E.project s.beliefs s.graph agentId proposition target sourceId channel with
    | error e => exact foretold_refused hs.beliefs hch (Or.inr ⟨⟨c, hc⟩, hp⟩)
    | ok p => exact foretold_projected hcfg hs.beliefs hs.ties hch hc hp

end Apply

/-! ## A closed run -/

section Closed

attribute [local instance] blankJson blankDigest anySchema ratioColumn

theorem defaults_checked : ({} : BeliefSettings).Checked := by
  constructor <;> norm_num

theorem rumour_foretold :
    Foretold plainBeliefs { log := EventLog.new 0 GENESIS_PREV_HASH }
      { log := EventLog.new 0 GENESIS_PREV_HASH } "ag_1" "fact.economy.prices_rising" 1 "ag_2"
      .social 7 none := by
  have hreached := (predict_delta_foretells (E := plainBeliefs) plainGraph defaults_checked).1 _ _ _
    _ (SocietyRun.start (EventLog.new 0 GENESIS_PREV_HASH))
  exact (predict_delta_foretells plainGraph defaults_checked).2 _ hreached _ _ _ _ _ _ _ (Or.inl rfl)

end Closed

end Polis.Society
