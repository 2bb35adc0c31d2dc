/-
  Polis.Society.BeliefRanges — beliefs and ties that stay in their ranges.

  A belief lies within the bounds of its proposition and is held with a
  confidence between zero and one; the trust of a tie is a share.

  Main results:
    * `revised_range` — a revision lies between the belief and what it asks for.
    * `run_kept` — every run of the society keeps beliefs and ties in range.
-/
import Polis.Society.SocietyRuns
import Mathlib.Algebra.BigOperators.Ring.List
import Mathlib.Order.Interval.Set.UnorderedInterval

namespace Polis.Society

open Lib Lib.Effect Polis.Events GraphState SocialGraph

/-! ## Bounds -/

/-- The fields of `BeliefSettings` that are checked. -/
structure BeliefSettings.Checked (cfg : BeliefSettings) : Prop where
  alpha : 0 ≤ cfg.alphaExperience ∧ 0 ≤ cfg.alphaSocial ∧ 0 ≤ cfg.alphaMedia
  thetas : (0 ≤ cfg.thetaBackfire ∧ cfg.thetaBackfire ≤ 1) ∧
    (0 ≤ cfg.thetaEntrench ∧ cfg.thetaEntrench ≤ 1) ∧ 0 ≤ cfg.thetaTrust ∧ cfg.thetaTrust ≤ 1
  gains : 0 ≤ cfg.betaBackfire ∧ 0 ≤ cfg.deltaEntrench ∧ 0 ≤ cfg.gammaC
  maxStep : 0 ≤ cfg.maxStep
  genesis : 0 ≤ cfg.mixtureSeparation ∧ 0 < cfg.genesisSd
  heritability : 0 ≤ cfg.heritabilityBeliefs ∧ cfg.heritabilityBeliefs ≤ 1
  dilution : 0 ≤ cfg.confidenceDilution ∧ cfg.confidenceDilution ≤ 1
  sigma : 0 ≤ cfg.sigmaBelief

/-- A value and a confidence that may be held of a proposition. -/
structure Holdable (proposition : String) (value confidence : ℚ) : Prop where
  value : ∀ spec, propositionSpec proposition = some spec → spec.lo ≤ value ∧ value ≤ spec.hi
  confidence : 0 ≤ confidence ∧ confidence ≤ 1

/-- Every belief may be held. -/
def BeliefsKept (beliefs : Beliefs) : Prop :=
  ∀ key b, beliefs.get? key = some b → Holdable key.2 b.value b.confidence

/-- The values of every tie are in their ranges. -/
def TiesInRange (g : GraphState) : Prop := ∀ k row, g.repo.get? k = some row → InRange row

theorem propositionSpec_bounds {proposition : String} {spec : PropositionSpec}
    (h : propositionSpec proposition = some spec) : -1 ≤ spec.lo ∧ spec.lo ≤ spec.hi ∧ spec.hi ≤ 1 := by
  obtain ⟨cls, -, rfl⟩ := Option.map_eq_some_iff.mp h
  cases cls <;> norm_num [PropClass.spec]

theorem Holdable.between {proposition : String} {b t x c d : ℚ} (hb : Holdable proposition b c)
    (ht : Holdable proposition t d) (hx : x ∈ Set.uIcc b t) {e : ℚ} (he : e ∈ Set.uIcc c d) :
    Holdable proposition x e := by
  refine ⟨fun spec hspec => ?_, ?_⟩
  · obtain ⟨hb₀, hb₁⟩ := hb.value spec hspec
    obtain ⟨ht₀, ht₁⟩ := ht.value spec hspec
    exact ⟨(le_min hb₀ ht₀).trans hx.1, hx.2.trans (max_le hb₁ ht₁)⟩
  · exact ⟨(le_min hb.confidence.1 ht.confidence.1).trans he.1,
      he.2.trans (max_le hb.confidence.2 ht.confidence.2)⟩

theorem partway {f : ℚ} (b t : ℚ) (h₀ : 0 ≤ f) (h₁ : f ≤ 1) : b + f * (t - b) ∈ Set.uIcc b t := by
  rcases le_total b t with h | h
  · rw [Set.uIcc_of_le h]
    constructor <;> nlinarith
  · rw [Set.uIcc_of_ge h]
    constructor <;> nlinarith

theorem BeliefsKept.current {beliefs : Beliefs} (h : BeliefsKept beliefs) {agentId proposition : String}
    {c : PropositionSpec × Belief} (hc : currentBelief beliefs agentId proposition = .ok c) :
    Holdable proposition c.2.value c.2.confidence := by
  obtain ⟨hspec, hcurrent⟩ := BeliefEngine.currentBelief_ok hc
  cases hb : beliefs.get? (agentId, proposition) with
  | some b =>
    rw [hb] at hcurrent
    rw [hcurrent]
    exact h _ b hb
  | none =>
    rw [hb] at hcurrent
    rw [hcurrent]
    obtain ⟨hlo, hhi, hconf⟩ := propositionSpec_default hspec
    refine ⟨fun spec hs => ?_, hconf⟩
    rw [hspec] at hs
    cases hs
    exact ⟨hlo, hhi⟩

theorem BeliefsKept.put {beliefs : Beliefs} (h : BeliefsKept beliefs) {key : String × String}
    {b : Belief} (hb : Holdable key.2 b.value b.confidence) : BeliefsKept (beliefs.put key b) := by
  intro k row hrow
  rw [Dict.get?_put] at hrow
  split at hrow
  · rename_i heq
    cases hrow
    rw [heq]
    exact hb
  · exact h k row hrow

theorem currentBelief_put {beliefs : Beliefs} {agentId proposition : String} {spec : PropositionSpec}
    (hspec : propositionSpec proposition = some spec) (b : Belief) :
    currentBelief (beliefs.put (agentId, proposition) b) agentId proposition = .ok (spec, b) := by
  unfold currentBelief
  rw [hspec]
  dsimp only
  rw [Dict.get?_put, if_pos rfl]
  rfl

theorem beliefValue_of_ok {beliefs : Beliefs} {agentId proposition : String} {c : PropositionSpec × Belief}
    (hc : currentBelief beliefs agentId proposition = .ok c) :
    beliefValue beliefs agentId proposition = .ok c.2.value := by
  unfold beliefValue
  rw [hc]
  rfl

/-! ## Revisions -/

theorem BeliefEngine.stepped_between (E : BeliefEngine) (hcfg : E.cfg.Checked) (current target : ℚ) :
    E.stepped current target ∈ Set.uIcc current target := by
  have hstep := hcfg.maxStep
  unfold stepped
  split
  · rename_i hlong
    unfold signOf
    rcases lt_or_ge target current with h | h
    · rw [abs_of_neg (by linarith)] at hlong
      rw [if_pos (by linarith), Set.uIcc_of_ge h.le]
      constructor <;> linarith
    · rw [abs_of_nonneg (by linarith)] at hlong
      rw [if_neg (by linarith), Set.uIcc_of_le h]
      constructor <;> linarith
  · exact Set.right_mem_uIcc

/-- The value and the confidence a revision leaves. -/
def BeliefEngine.revised (E : BeliefEngine) (current : Belief) (update : BeliefUpdate) : ℚ × ℚ :=
  let target := E.stepped current.value update.value
  if BeliefEngine.selfServing update then
    (current.value + 1 / 2 * (target - current.value),
      current.confidence + 1 / 2 * (update.confidence - current.confidence))
  else (target, update.confidence)

/-- The reference of a revision. -/
def BeliefEngine.revisedRef (llmCallId : Option String) (update : BeliefUpdate) : String :=
  match llmCallId with
  | some call => "llm_call:" ++ call
  | none => (BeliefEngine.sourceRefOf.truthy update.sourceRef).getD "reflection"

theorem BeliefEngine.revised_between (E : BeliefEngine) (hcfg : E.cfg.Checked) (current : Belief)
    (update : BeliefUpdate) : (E.revised current update).1 ∈ Set.uIcc current.value update.value ∧
      (E.revised current update).2 ∈ Set.uIcc current.confidence update.confidence := by
  have hstep := E.stepped_between hcfg current.value update.value
  unfold revised
  dsimp only
  split
  · exact ⟨Set.uIcc_subset_uIcc_left hstep (partway _ _ (by norm_num) (by norm_num)),
      partway _ _ (by norm_num) (by norm_num)⟩
  · exact ⟨hstep, Set.right_mem_uIcc⟩

theorem resolveProposition_ok {entityExists : String → String → Bool} {raw proposition : String}
    (h : resolveProposition entityExists raw = some proposition) :
    proposition = raw ∧ ∃ spec, propositionSpec raw = some spec := by
  unfold resolveProposition at h
  unfold propositionSpec
  cases hclosed : closedClass raw with
  | some cls =>
    rw [hclosed] at h
    cases h
    exact ⟨rfl, cls.spec, rfl⟩
  | none =>
    rw [hclosed] at h
    dsimp only at h
    cases hm : matchedEntity raw with
    | none =>
      rw [hm] at h
      cases h
    | some matched =>
      rw [hm] at h
      dsimp only at h
      split at h
      · cases h
        refine ⟨rfl, ?_⟩
        -- the template that names the entity also gives the class
        obtain ⟨t, ht, heq⟩ := List.exists_of_findSome?_eq_some hm
        obtain ⟨entity, hentity, -⟩ := Option.map_eq_some_iff.mp heq
        suffices hclass : ∃ cls, templateClass raw = some cls by
          obtain ⟨cls, hcls⟩ := hclass
          exact ⟨cls.spec, by rw [hcls]; rfl⟩
        unfold templateClass
        rcases List.mem_append.mp ht with ht | ht
        · rw [if_pos (List.any_eq_true.mpr ⟨t.1, (List.of_mem_zip ht).1, by rw [hentity]; rfl⟩)]
          exact ⟨_, rfl⟩
        · rw [if_pos (List.any_eq_true.mpr ⟨t.1, (List.of_mem_zip ht).1, by rw [hentity]; rfl⟩)]
          split
          · exact ⟨_, rfl⟩
          · exact ⟨_, rfl⟩
      · cases h

theorem prepared_holdable {spec : PropositionSpec} {update : BeliefUpdate}
    (h : propositionSpec update.proposition = some spec) :
    Holdable update.proposition (BeliefEngine.prepared spec update).value
      (BeliefEngine.prepared spec update).confidence := by
  have hbounds := propositionSpec_bounds h
  refine ⟨fun spec' hs => ?_, ?_⟩
  · rw [h] at hs
    cases hs
    show spec.lo ≤ (if _ then _ else _ : ℚ) ∧ (if _ then _ else _ : ℚ) ≤ spec.hi
    split
    · exact clamp_range hbounds.2.1 _
    · rename_i hin
      exact ⟨not_lt.mp fun hc => hin (Or.inl hc), not_lt.mp fun hc => hin (Or.inr hc)⟩
  · show 0 ≤ (if _ then _ else _ : ℚ) ∧ (if _ then _ else _ : ℚ) ≤ 1
    split
    · exact clamp_range (by norm_num) _
    · rename_i hin
      exact ⟨not_lt.mp fun hc => hin (Or.inl hc), not_lt.mp fun hc => hin (Or.inr hc)⟩

theorem screened_holdable {E : BeliefEngine} {updates : List BeliefUpdate} {update : BeliefUpdate}
    (h : update ∈ E.screened updates) :
    Holdable update.proposition update.value update.confidence := by
  obtain ⟨raw, -, hmap⟩ := List.mem_filterMap.mp h
  obtain ⟨spec, hspec, rfl⟩ := Option.map_eq_some_iff.mp hmap
  obtain ⟨proposition, hp, hspec⟩ := Option.bind_eq_some_iff.mp hspec
  obtain ⟨rfl, -⟩ := resolveProposition_ok hp
  exact prepared_holdable hspec

/-! ## Priors -/

/-- What a row of priors may be. -/
def PriorKept (row : Prior) : Prop := Holdable row.1 row.2.1 row.2.2

theorem withPriors_kept {agentId ref : String} {tick : Int} {rows : List Prior} {beliefs : Beliefs}
    (h : BeliefsKept beliefs) (hrows : ∀ row ∈ rows, PriorKept row) :
    BeliefsKept (BeliefEngine.withPriors agentId ref tick rows beliefs) := by
  unfold BeliefEngine.withPriors
  induction rows generalizing beliefs with
  | nil => exact h
  | cons row rows ih =>
    have hput : BeliefsKept (beliefs.put (agentId, row.1) (BeliefEngine.priorBelief row ref tick)) :=
      h.put (hrows row List.mem_cons_self)
    exact ih hput fun r hr => hrows r (List.mem_cons_of_mem _ hr)

theorem meanOr_share {default : ℚ} {xs : List ℚ} (hd : 0 ≤ default ∧ default ≤ 1)
    (hxs : ∀ x ∈ xs, 0 ≤ x ∧ x ≤ 1) : 0 ≤ meanOr default xs ∧ meanOr default xs ≤ 1 := by
  unfold meanOr
  split
  · exact hd
  · rename_i hne
    have hpos : (0 : ℚ) < xs.length := by exact_mod_cast List.length_pos_iff.mpr hne
    have hsum : xs.sum ≤ xs.length := by
      simpa using List.sum_le_card_nsmul xs (1 : ℚ) fun x hx => (hxs x hx).2
    exact ⟨div_nonneg (List.sum_nonneg fun x hx => (hxs x hx).1) hpos.le,
      (div_le_one hpos).mpr hsum⟩

theorem mem_forProposition {beliefs : Beliefs} {proposition : String} {b : Belief}
    (h : b ∈ forProposition beliefs proposition) :
    ∃ agentId, beliefs.get? (agentId, proposition) = some b := by
  obtain ⟨⟨key, b'⟩, he, rfl⟩ := List.mem_map.mp h
  obtain ⟨hmem, hkey⟩ := List.mem_filter.mp he
  refine ⟨key.1, ?_⟩
  rw [← of_decide_eq_true hkey]
  exact Dict.mem_entries_iff.mp hmem

theorem mem_collect {α β : Type} {f : α → Except PyError β} {xs : List α} {ys : List β}
    (h : BeliefEngine.collect f xs = .ok ys) : ∀ y ∈ ys, ∃ x ∈ xs, f x = .ok y := by
  induction xs generalizing ys with
  | nil =>
    cases h
    intro y hy
    cases hy
  | cons x xs ih =>
    obtain ⟨y, hy, h⟩ := except_bind_eq_ok.mp h
    obtain ⟨rest, hrest, h⟩ := except_bind_eq_ok.mp h
    cases h
    intro z hz
    rcases List.mem_cons.mp hz with rfl | hz
    · exact ⟨x, List.mem_cons_self, hy⟩
    · obtain ⟨x', hx', hfx⟩ := ih hrest z hz
      exact ⟨x', List.mem_cons_of_mem _ hx', hfx⟩

theorem populationMeanConfidence_share {beliefs : Beliefs} {proposition : String} {q : ℚ}
    (hk : BeliefsKept beliefs) (h : populationMeanConfidence beliefs proposition = .ok q) :
    0 ≤ q ∧ q ≤ 1 := by
  unfold populationMeanConfidence at h
  cases hspec : propositionSpec proposition with
  | none =>
    rw [hspec] at h
    cases h
  | some spec =>
    rw [hspec] at h
    cases h
    refine meanOr_share (propositionSpec_default hspec).2.2 fun x hx => ?_
    obtain ⟨b, hb, rfl⟩ := List.mem_map.mp hx
    obtain ⟨agentId, hget⟩ := mem_forProposition hb
    exact (hk _ b hget).confidence

theorem beliefConfidence_share {beliefs : Beliefs} {agentId proposition : String} {q : ℚ}
    (hk : BeliefsKept beliefs) (h : beliefConfidence beliefs agentId proposition = .ok q) :
    0 ≤ q ∧ q ≤ 1 := by
  obtain ⟨c, hc, h⟩ := except_bind_eq_ok.mp h
  cases h
  exact (hk.current hc).confidence

theorem inheritedSpec_ok {what proposition : String} {spec : PropositionSpec}
    (h : BeliefEngine.inheritedSpec what proposition = .ok spec) :
    propositionSpec proposition = some spec := by
  unfold BeliefEngine.inheritedSpec at h
  cases hs : propositionSpec proposition with
  | none =>
    rw [hs] at h
    cases h
  | some spec' =>
    rw [hs] at h
    cases h
    rfl

theorem holdable_clamp {proposition : String} {spec : PropositionSpec} {x c : ℚ}
    (hspec : propositionSpec proposition = some spec) (hc : 0 ≤ c ∧ c ≤ 1) :
    Holdable proposition (clamp spec.lo spec.hi x) c := by
  refine ⟨fun spec' hs => ?_, hc⟩
  rw [hspec] at hs
  cases hs
  exact clamp_range (propositionSpec_bounds hspec).2.1 x

theorem diluted_share {c d : ℚ} (hc : 0 ≤ c ∧ c ≤ 1) (hd : 0 ≤ d ∧ d ≤ 1) :
    0 ≤ c * d ∧ c * d ≤ 1 :=
  ⟨mul_nonneg hc.1 hd.1, mul_le_one₀ hc.2 hd.1 hd.2⟩

theorem birthPrior_kept {E : BeliefEngine} (hcfg : E.cfg.Checked) {beliefs : Beliefs}
    (hk : BeliefsKept beliefs) {childId motherId fatherId proposition : String} {row : Prior}
    (h : E.birthPrior beliefs childId motherId fatherId proposition = .ok row) : PriorKept row := by
  obtain ⟨spec, hspec, h⟩ := except_bind_eq_ok.mp h
  obtain ⟨mother, -, h⟩ := except_bind_eq_ok.mp h
  obtain ⟨father, -, h⟩ := except_bind_eq_ok.mp h
  obtain ⟨population, -, h⟩ := except_bind_eq_ok.mp h
  obtain ⟨c, hc, h⟩ := except_bind_eq_ok.mp h
  obtain ⟨d, hd, h⟩ := except_bind_eq_ok.mp h
  cases h
  have hc := beliefConfidence_share hk hc
  have hd := beliefConfidence_share hk hd
  exact holdable_clamp (inheritedSpec_ok hspec)
    (diluted_share ⟨by linarith, by linarith⟩ hcfg.dilution)

theorem migrantPrior_kept {E : BeliefEngine} (hcfg : E.cfg.Checked) {beliefs : Beliefs}
    (hk : BeliefsKept beliefs) {agentId proposition : String} {offsets : List (String × ℚ)}
    {row : Prior} (h : E.migrantPrior beliefs agentId offsets proposition = .ok row) :
    PriorKept row := by
  obtain ⟨spec, hspec, h⟩ := except_bind_eq_ok.mp h
  obtain ⟨population, -, h⟩ := except_bind_eq_ok.mp h
  obtain ⟨c, hc, h⟩ := except_bind_eq_ok.mp h
  cases h
  exact holdable_clamp (inheritedSpec_ok hspec)
    (diluted_share (populationMeanConfidence_share hk hc) hcfg.dilution)

theorem propositionSpec_policy {proposition : String} (h : proposition ∈ POLICY_PROPOSITIONS) :
    propositionSpec proposition = some PropClass.policy.spec := by
  unfold propositionSpec closedClass
  rw [if_pos h]
  rfl

theorem genesisRows_kept {E : BeliefEngine} {agentId : String} :
    ∀ row ∈ E.genesisRows agentId, PriorKept row := by
  intro row hrow
  rcases List.mem_append.mp hrow with hrow | hrow
  · obtain ⟨proposition, hp, rfl⟩ := List.mem_map.mp hrow
    refine ⟨fun spec hspec => ?_, by norm_num⟩
    rw [propositionSpec_policy hp] at hspec
    cases hspec
    show -1 ≤ clamp (-1) 1 _ ∧ clamp (-1) 1 _ ≤ 1
    exact clamp_range (by norm_num) _
  · obtain rfl := List.mem_singleton.mp hrow
    refine ⟨fun spec hspec => ?_, by norm_num⟩
    obtain ⟨cls, -, rfl⟩ := Option.map_eq_some_iff.mp hspec
    cases cls <;> norm_num [PropClass.spec]

/-! ## The operations of the engine -/

/-- The beliefs of one state are in range where those of another are. -/
def StaysKept (s s' : BeliefState) : Prop := BeliefsKept s.beliefs → BeliefsKept s'.beliefs

theorem staysKept_refl (s : BeliefState) : StaysKept s s := id

theorem staysKept_trans (s t u : BeliefState) (h : StaysKept s t) (h' : StaysKept t u) :
    StaysKept s u := h' ∘ h

section Operations

variable [FloatValue] [CanonicalJson Value] [Events.Sha256] [PayloadSchemas Value]
  {E : BeliefEngine}

omit [FloatValue] in
theorem emit_ok {d : Draft} {tick : Int} {s s' : BeliefState} {e : Events.Event Value}
    (h : E.emit d tick s = .ok e s') : ∃ log, s' = s.withLog log := by
  obtain ⟨log, -, rfl⟩ := zoom_eq_ok.mp h
  exact ⟨log, rfl⟩

theorem reject_ok {agentId gate : String} {update : BeliefUpdate} {tick : Int}
    {llmCallId : Option String} {s s' : BeliefState} {es : List (Events.Event Value)}
    (h : E.reject agentId update gate tick llmCallId s = .ok es s') :
    ∃ log, s' = s.withLog log := by
  unfold BeliefEngine.reject at h
  obtain ⟨event, s₁, h₁, h⟩ := bind_eq_ok.mp h
  obtain ⟨-, rfl⟩ := pure_eq_ok.mp h
  exact emit_ok h₁

theorem onlyIf_reject_ok {c : Prop} [Decidable c] {agentId gate : String} {update : BeliefUpdate}
    {tick : Int} {llmCallId : Option String} {s s' : BeliefState} {es : List (Events.Event Value)}
    (h : onlyIf c (E.reject agentId update gate tick llmCallId) s = .ok es s') :
    ∃ log, s' = s.withLog log := by
  rcases onlyIf_eq_ok.mp h with ⟨-, h⟩ | ⟨-, -, rfl⟩
  · exact reject_ok h
  · exact ⟨s.log, rfl⟩

theorem screen_ok {agentId : String} {update : BeliefUpdate} {tick : Int}
    {llmCallId : Option String} {s s' : BeliefState} {es : List (Events.Event Value)}
    (h : E.screen agentId tick llmCallId update s = .ok es s') : ∃ log, s' = s.withLog log := by
  unfold BeliefEngine.screen at h
  cases hspec : (resolveProposition E.entityExists update.proposition).bind propositionSpec with
  | none =>
    rw [hspec] at h
    exact reject_ok h
  | some spec =>
    rw [hspec] at h
    dsimp only at h
    obtain ⟨first, s₁, h₁, h⟩ := bind_eq_ok.mp h
    obtain ⟨second, s₂, h₂, h⟩ := bind_eq_ok.mp h
    obtain ⟨-, rfl⟩ := pure_eq_ok.mp h
    obtain ⟨log₁, rfl⟩ := onlyIf_reject_ok h₁
    obtain ⟨log₂, rfl⟩ := onlyIf_reject_ok h₂
    exact ⟨log₂, rfl⟩

theorem applyUpdate_ok {agentId : String} {update : BeliefUpdate} {tick : Int}
    {llmCallId : Option String} {s s' : BeliefState} {es : List (Events.Event Value)}
    (h : E.applyUpdate agentId tick llmCallId update s = .ok es s') :
    ∃ spec current ref log,
      currentBelief s.beliefs agentId update.proposition = .ok (spec, current) ∧
      s' = (s.put (agentId, update.proposition)
        { value := (E.revised current update).1, confidence := (E.revised current update).2,
          source := .reflection, sourceRef := some ref, updatedTick := tick }).withLog log := by
  unfold BeliefEngine.applyUpdate at h
  rw [get_bind] at h
  obtain ⟨⟨spec, current⟩, s₁, h₁, h⟩ := bind_eq_ok.mp h
  obtain ⟨hc, rfl⟩ := liftPy_eq_ok.mp h₁
  dsimp only at h
  obtain ⟨step, s₂, h₂, h⟩ := bind_eq_ok.mp h
  obtain ⟨serving, s₃, h₃, h⟩ := bind_eq_ok.mp h
  obtain ⟨_, s₄, h₄, h⟩ := bind_eq_ok.mp h
  obtain rfl := modify_eq_ok.mp h₄
  obtain ⟨event, s₅, h₅, h⟩ := bind_eq_ok.mp h
  obtain ⟨-, rfl⟩ := pure_eq_ok.mp h
  obtain ⟨log₂, rfl⟩ := onlyIf_reject_ok h₂
  obtain ⟨log₃, rfl⟩ := onlyIf_reject_ok h₃
  obtain ⟨log₅, rfl⟩ := emit_ok h₅
  refine ⟨spec, current, BeliefEngine.revisedRef llmCallId update, log₅, hc, ?_⟩
  unfold BeliefEngine.revised
  dsimp only
  split <;> rfl

theorem apply_ok {g : GraphState} {agentId proposition sourceId : String} {target : ℚ}
    {channel : BeliefChannel} {tick : Int} {llmCallId : Option String} {s s' : BeliefState}
    {es : List (Events.Event Value)}
    (h : E.apply g agentId proposition target channel sourceId tick llmCallId s = .ok es s') :
    ∃ spec current value confidence entrenched,
      currentBelief s.beliefs agentId proposition = .ok (spec, current) ∧
      E.project s.beliefs g agentId proposition target sourceId channel
        = .ok (value, confidence, entrenched) ∧
      ((value = current.value ∧ confidence = current.confidence ∧ es = [] ∧ s' = s) ∨
        (¬(value = current.value ∧ confidence = current.confidence) ∧ es ≠ [] ∧ ∃ log,
          s' = (s.put (agentId, proposition)
            { value := value, confidence := confidence, source := channel,
              sourceRef := some (BeliefEngine.sourceRefOf channel sourceId llmCallId),
              updatedTick := tick }).withLog log)) := by
  unfold BeliefEngine.apply at h
  rw [get_bind] at h
  obtain ⟨⟨spec, current⟩, s₁, h₁, h⟩ := bind_eq_ok.mp h
  obtain ⟨hc, rfl⟩ := liftPy_eq_ok.mp h₁
  dsimp only at h
  rcases ite_eq_ok.mp h with ⟨-, h⟩ | ⟨-, h⟩
  · cases h
  obtain ⟨⟨value, confidence, entrenched⟩, s₂, h₂, h⟩ := bind_eq_ok.mp h
  obtain ⟨hp, rfl⟩ := liftPy_eq_ok.mp h₂
  dsimp only at h
  refine ⟨spec, current, value, confidence, entrenched, hc, hp, ?_⟩
  rcases ite_eq_ok.mp h with ⟨⟨hv, hconf⟩, h⟩ | ⟨hchanged, h⟩
  · obtain ⟨rfl, rfl⟩ := pure_eq_ok.mp h
    exact Or.inl ⟨hv, hconf, rfl, rfl⟩
  right
  refine ⟨hchanged, ?_⟩
  obtain ⟨_, s₃, h₃, h⟩ := bind_eq_ok.mp h
  obtain rfl := modify_eq_ok.mp h₃
  rcases ite_eq_ok.mp h with ⟨-, h⟩ | ⟨-, h⟩
  · obtain ⟨event, s₄, h₄, h⟩ := bind_eq_ok.mp h
    obtain ⟨rfl, rfl⟩ := pure_eq_ok.mp h
    exact ⟨List.cons_ne_nil _ _, emit_ok h₄⟩
  · obtain ⟨event, s₄, h₄, h⟩ := bind_eq_ok.mp h
    obtain ⟨rfl, rfl⟩ := pure_eq_ok.mp h
    exact ⟨List.cons_ne_nil _ _, emit_ok h₄⟩

theorem kept_apply {g : GraphState} {agentId proposition sourceId : String} {target : ℚ}
    {channel : BeliefChannel} {tick : Int} {llmCallId : Option String} :
    Within StaysKept (E.apply g agentId proposition target channel sourceId tick llmCallId) := by
  intro s es s' h hk
  obtain ⟨spec, current, value, confidence, entrenched, hc, hp, hcases⟩ := apply_ok h
  rcases hcases with ⟨-, -, -, rfl⟩ | ⟨hchanged, -, log, rfl⟩
  · exact hk
  · have hrange := (BeliefEngine.project_range hc hp).resolve_left hchanged
    refine BeliefsKept.put hk ⟨fun spec' hs => ?_, hrange.2⟩
    rw [(BeliefEngine.currentBelief_ok hc).1] at hs
    cases hs
    exact hrange.1

theorem kept_experience {g : GraphState} {agentId : String} {kind : Int} {payload : Experience}
    {tick : Int} : Within StaysKept (E.applyExperience g agentId kind payload tick) := by
  intro s es s' h
  unfold BeliefEngine.applyExperience at h
  obtain ⟨updates, s₁, h₁, h⟩ := bind_eq_ok.mp h
  obtain ⟨-, rfl⟩ := liftPy_eq_ok.mp h₁
  exact within_gather staysKept_refl staysKept_trans (fun _ _ => kept_apply) _ _ _ h

theorem kept_applyUpdate (hcfg : E.cfg.Checked) {agentId : String} {update : BeliefUpdate}
    {tick : Int} {llmCallId : Option String}
    (hupdate : Holdable update.proposition update.value update.confidence) :
    Within StaysKept (E.applyUpdate agentId tick llmCallId update) := by
  intro s es s' h hk
  obtain ⟨spec, current, ref, log, hc, rfl⟩ := applyUpdate_ok h
  have hbetween := E.revised_between hcfg current update
  exact BeliefsKept.put hk ((hk.current hc).between hupdate hbetween.1 hbetween.2)

theorem kept_reflect (hcfg : E.cfg.Checked) {agentId : String} {updates : List BeliefUpdate}
    {tick : Int} {llmCallId : Option String} :
    Within StaysKept (E.applyLlmBeliefUpdates agentId tick updates llmCallId) := by
  have hlog : ∀ {s s' : BeliefState}, (∃ log, s' = s.withLog log) → StaysKept s s' := by
    rintro s s' ⟨log, rfl⟩
    exact id
  intro s es s' h
  unfold BeliefEngine.applyLlmBeliefUpdates at h
  obtain ⟨first, s₁, h₁, h⟩ := bind_eq_ok.mp h
  obtain ⟨surplus, s₂, h₂, h⟩ := bind_eq_ok.mp h
  obtain ⟨applied, s₃, h₃, h⟩ := bind_eq_ok.mp h
  obtain ⟨-, rfl⟩ := pure_eq_ok.mp h
  have hfirst : StaysKept s s₁ := within_gather staysKept_refl staysKept_trans
    (fun _ _ _ _ _ hu => hlog (screen_ok hu)) s first s₁ h₁
  have hsurplus : StaysKept s₁ s₂ := within_gather staysKept_refl staysKept_trans
    (fun _ _ _ _ _ hu => hlog (reject_ok hu)) s₁ surplus s₂ h₂
  refine staysKept_trans _ _ _ (staysKept_trans _ _ _ hfirst hsurplus)
    (within_gather staysKept_refl staysKept_trans (fun update hu => ?_) _ _ _ h₃)
  rw [(List.perm_insertionSort _ _).mem_iff] at hu
  exact kept_applyUpdate hcfg (screened_holdable (List.mem_of_mem_take hu))

theorem kept_setPriors {agentId source : String} {rows : List Prior} {tick : Int}
    (hrows : ∀ row ∈ rows, PriorKept row) :
    Within StaysKept (E.setPriors agentId source rows tick) := by
  intro s es s' h hk
  unfold BeliefEngine.setPriors at h
  obtain ⟨_, s₁, h₁, h⟩ := bind_eq_ok.mp h
  obtain rfl := modify_eq_ok.mp h₁
  obtain ⟨event, s₂, h₂, h⟩ := bind_eq_ok.mp h
  obtain ⟨-, rfl⟩ := pure_eq_ok.mp h
  obtain ⟨log, rfl⟩ := emit_ok h₂
  exact withPriors_kept hk hrows

theorem kept_genesis {agentIds : List String} {tick : Int} :
    Within StaysKept (E.initialisePopulation agentIds tick) :=
  within_gather staysKept_refl staysKept_trans fun _ _ => kept_setPriors genesisRows_kept

omit [FloatValue] [CanonicalJson Value] [Sha256] [PayloadSchemas Value] in
theorem applyPriors_ok {agentId ref : String} {rows : List Prior} {tick : Int} {s s' : BeliefState}
    (h : BeliefEngine.applyPriors agentId rows tick ref s = .ok () s') :
    s' = { s with beliefs := BeliefEngine.withPriors agentId ref tick rows s.beliefs } := by
  unfold BeliefEngine.applyPriors at h
  induction rows generalizing s with
  | nil =>
    obtain ⟨-, rfl⟩ := pure_eq_ok.mp h
    rfl
  | cons row rows ih =>
    obtain ⟨_, s₁, h₁, h⟩ := bind_eq_ok.mp h
    rcases ite_eq_ok.mp h₁ with ⟨-, h₁⟩ | ⟨-, h₁⟩
    · cases h₁
    · obtain rfl := modify_eq_ok.mp h₁
      exact ih h

theorem kept_migrant (hcfg : E.cfg.Checked) {agentId cohortId : String}
    {offsets : List (String × ℚ)} {tick : Int} :
    Within StaysKept (E.migrantBeliefs agentId cohortId offsets tick) := by
  intro s es s' h hk
  unfold BeliefEngine.migrantBeliefs at h
  rw [get_bind] at h
  obtain ⟨rows, s₁, h₁, h⟩ := bind_eq_ok.mp h
  obtain ⟨hrows, rfl⟩ := liftPy_eq_ok.mp h₁
  obtain ⟨_, s₂, h₂, h⟩ := bind_eq_ok.mp h
  obtain rfl := applyPriors_ok h₂
  obtain ⟨event, s₃, h₃, h⟩ := bind_eq_ok.mp h
  obtain ⟨-, rfl⟩ := pure_eq_ok.mp h
  obtain ⟨log, rfl⟩ := emit_ok h₃
  refine withPriors_kept hk fun row hr => ?_
  obtain ⟨proposition, -, hp⟩ := mem_collect hrows row hr
  exact migrantPrior_kept hcfg hk hp

theorem kept_birth (hcfg : E.cfg.Checked) {childId motherId fatherId : String} {heritability : ℚ}
    {tick : Int} :
    Within StaysKept (E.birthBeliefs childId motherId fatherId heritability tick) := by
  intro s es s' h hk
  unfold BeliefEngine.birthBeliefs at h
  rw [get_bind] at h
  obtain ⟨rows, s₁, h₁, h⟩ := bind_eq_ok.mp h
  obtain ⟨hrows, rfl⟩ := liftPy_eq_ok.mp h₁
  rcases ite_eq_ok.mp h with ⟨-, h⟩ | ⟨-, h⟩
  · cases h
  obtain ⟨_, s₂, h₂, h⟩ := bind_eq_ok.mp h
  obtain rfl := applyPriors_ok h₂
  obtain ⟨event, s₃, h₃, h⟩ := bind_eq_ok.mp h
  obtain ⟨-, rfl⟩ := pure_eq_ok.mp h
  obtain ⟨log, rfl⟩ := emit_ok h₃
  refine withPriors_kept hk fun row hr => ?_
  obtain ⟨proposition, -, hp⟩ := mem_collect hrows row hr
  exact birthPrior_kept hcfg hk hp

end Operations

/-! ## Ties -/

theorem TiesInRange.put {g : GraphState} (h : TiesInRange g) {row : Tie} (hrow : InRange row) :
    TiesInRange (g.put row) := by
  intro k r hr
  change (g.repo.put row).get? k = some r at hr
  rw [GraphRepo.get?_put] at hr
  split at hr
  · cases hr
    exact hrow
  · exact h k r hr

theorem inRange_ended {row : Tie} (h : InRange row) (tick : Int) : InRange (row.ended tick) :=
  ⟨h.strength, h.valence, h.trust⟩

theorem inRange_started (key : TieKey) (context : String) (tick : Int) :
    InRange (started key (initialOf context) tick) := by
  obtain ⟨hs, ⟨hv₀, hv₁⟩, ht⟩ := initialOf_range context
  exact ⟨hs, ⟨(by norm_num : (-1 : ℚ) ≤ 0).trans hv₀, hv₁⟩, ht⟩

theorem TiesInRange.endRow {g : GraphState} (h : TiesInRange g) {row : Tie} (hrow : InRange row)
    (tick : Int) : TiesInRange (g.endRow row tick) :=
  h.put (inRange_ended hrow tick)

theorem TiesInRange.moved {g : GraphState} (h : TiesInRange g) {row : Tie} (hrow : InRange row)
    (target : TieType) (tick : Int) : TiesInRange (SocialGraph.moved g row target tick) := by
  unfold SocialGraph.moved
  split
  · exact h.endRow hrow tick
  · have hbecoming : InRange (row.becoming target tick) :=
      ⟨hrow.strength, hrow.valence, hrow.trust⟩
    exact (h.put (inRange_ended hrow tick)).put hbecoming

theorem TiesInRange.trust {g : GraphState} (h : TiesInRange g) (aId bId : String) :
    0 ≤ g.trust aId bId ∧ g.trust aId bId ≤ 1 := by
  unfold GraphState.trust
  cases ht : g.tie aId bId none with
  | none => norm_num
  | some row =>
    have hmem : row ∈ ((g.repo.forPair aId bId).filter fun row =>
        row.live ∧ ((none : Option TieType) = none ∨ none = some row.type)) := by
      rw [← (List.perm_insertionSort (fun x y : Tie =>
        toLex (-x.strength, x.type.text) ≤ toLex (-y.strength, y.type.text)) _).mem_iff]
      exact List.mem_of_mem_head? ht
    exact (h _ row (liveAt_eq_some.mp (mem_candidates.mp hmem).1).1).trust

section Graph

variable [FloatValue] [CanonicalJson Value] [Events.Sha256] [PayloadSchemas Value]
  {G : SocialGraph}

/-- The ties of one state are in range where those of another are. -/
def StaysInRange (g g' : GraphState) : Prop := TiesInRange g → TiesInRange g'

omit [FloatValue] [CanonicalJson Value] [Events.Sha256] [PayloadSchemas Value] in
theorem staysInRange_refl (g : GraphState) : StaysInRange g g := id

omit [FloatValue] [CanonicalJson Value] [Events.Sha256] [PayloadSchemas Value] in
theorem staysInRange_trans (g t u : GraphState) (h : StaysInRange g t) (h' : StaysInRange t u) :
    StaysInRange g u := h' ∘ h

theorem inRange_form {aId bId context : String} {type : TieType} {tick : Int} :
    Within StaysInRange (G.form aId bId type context tick) := by
  intro g es g' h hg
  rcases form_ok h with ⟨-, -, rfl⟩ | ⟨-, row, hlive, -, rfl⟩ | ⟨-, -, log, e, -, -, rfl⟩
  · exact hg
  · exact hg.put (inRange_strengthened (hg _ row (liveAt_eq_some.mp hlive).1) context tick)
  · exact hg.put (inRange_started _ context tick)

theorem inRange_turn {items : List Interaction} {tick : Int} {row : Tie} :
    Within StaysInRange (G.turn items tick row) := by
  intro g es g' h hg
  rcases turn_ok h with ⟨-, rfl⟩ | ⟨-, log, rfl⟩
  · exact hg
  · -- the row is written back in range, whatever it was
    have hrow := inRange_turnRow G items tick g row
    have hput : TiesInRange (noteRecovery (G.turnRow items tick g row) tick
        (g.decay row (G.turnRow items tick g row) tick)) := by
      intro k r hr
      rw [(noteRecovery_repo _ tick _).1] at hr
      exact hg.put hrow k r hr
    show TiesInRange (G.turned items tick g row)
    unfold turned stepped
    dsimp only
    split
    · exact hput.moved hrow _ tick
    · split
      · exact hput.endRow hrow tick
      · exact hput

theorem inRange_applyTick {tick : Int} {contacts : ContactLedger} :
    Within StaysInRange (G.applyTick tick contacts) := by
  intro g es g' h
  unfold applyTick at h
  obtain ⟨met, g₁, h₁, h⟩ := bind_eq_ok.mp h
  rw [get_bind] at h
  obtain ⟨introduced, g₂, h₂, h⟩ := bind_eq_ok.mp h
  obtain ⟨_, g₃, h₃, h⟩ := bind_eq_ok.mp h
  obtain rfl := modify_eq_ok.mp h₃
  rw [get_bind] at h
  obtain ⟨moves, g₄, h₄, h⟩ := bind_eq_ok.mp h
  obtain ⟨-, rfl⟩ := pure_eq_ok.mp h
  have hmet : StaysInRange g g₁ := by
    refine within_gather staysInRange_refl staysInRange_trans (fun c _ => ?_) _ _ _ h₁
    exact within_bind staysInRange_trans (within_get staysInRange_refl) fun _ =>
      within_onlyIf staysInRange_refl fun _ => inRange_form
  have hintroduced : StaysInRange g₁ g₂ := by
    refine within_gather staysInRange_refl staysInRange_trans (fun i _ => ?_) _ _ _ h₂
    refine within_bind staysInRange_trans (within_get staysInRange_refl) fun _ => ?_
    split
    · exact within_pure staysInRange_refl _
    · exact within_onlyIf staysInRange_refl fun _ => inRange_form
  have hturned : StaysInRange { g₂ with interactions := [] } g₄ :=
    within_gather staysInRange_refl staysInRange_trans (fun _ _ => inRange_turn) _ _ _ h₄
  exact fun hg => hturned (hintroduced (hmet hg))

theorem inRange_endAllFor {agentId reason : String} {tick : Int} :
    Within StaysInRange (G.endAllFor agentId reason tick) := by
  intro g es g' h hg
  unfold endAllFor at h
  rw [get_bind] at h
  have hends : ∀ row ∈ g.neighbours agentId 0, Within StaysInRange (do
      let event ← G.end row reason tick
      pure [event]) := by
    intro row hrow t es' t' ht hin
    obtain ⟨event, t₁, h₁, ht⟩ := bind_eq_ok.mp ht
    obtain ⟨-, rfl⟩ := pure_eq_ok.mp ht
    obtain ⟨log, -, rfl⟩ := end_ok h₁
    exact hin.endRow (hg _ row (liveAt_eq_some.mp (mem_neighbours hrow)).1) tick
  exact within_gather staysInRange_refl staysInRange_trans hends _ _ _ h hg

/-! ## Runs of the society -/

/-- Beliefs and ties are in their ranges. -/
structure SocietyState.Kept (s : SocietyState) : Prop where
  beliefs : BeliefsKept s.beliefs
  ties : TiesInRange s.graph

variable {E : BeliefEngine}

omit [FloatValue] [CanonicalJson Value] [Events.Sha256] [PayloadSchemas Value] in
theorem kept_onGraph {α : Type} {x : GraphM α} (hx : Within StaysInRange x) {s s' : SocietyState}
    {a : α} (h : SocietyCall.onGraph x s = .ok a s') (hs : s.Kept) : s'.Kept := by
  obtain ⟨g, hg, rfl⟩ := zoom_eq_ok.mp h
  exact ⟨hs.beliefs, hx _ _ _ hg hs.ties⟩

omit [FloatValue] [CanonicalJson Value] [Events.Sha256] [PayloadSchemas Value] in
theorem kept_onBeliefs {α : Type} {x : GraphState → BeliefM α} (hx : ∀ g, Within StaysKept (x g))
    {s s' : SocietyState} {a : α} (h : SocietyCall.onBeliefs x s = .ok a s') (hs : s.Kept) :
    s'.Kept := by
  unfold SocietyCall.onBeliefs at h
  rw [get_bind] at h
  obtain ⟨b, hb, rfl⟩ := zoom_eq_ok.mp h
  exact ⟨hx _ _ _ _ hb hs.beliefs, hs.ties⟩

theorem kept_call (hcfg : E.cfg.Checked) {c : SocietyCall} {tick : Int} {s s' : SocietyState}
    {es : List (Events.Event Value)} (h : c.perform G E tick s = .ok es s') (hs : s.Kept) :
    s'.Kept := by
  cases c with
  | form aId bId type context => exact kept_onGraph inRange_form h hs
  | endPair aId bId type reason =>
    refine kept_onGraph (fun g events g' hg hin => ?_) h hs
    unfold SocietyCall.endPairOf at hg
    rw [get_bind, tie_type] at hg
    cases hrow : g.liveAt (keyOf aId bId type) with
    | none =>
      rw [hrow] at hg
      obtain ⟨-, rfl⟩ := pure_eq_ok.mp hg
      exact hin
    | some row =>
      rw [hrow] at hg
      dsimp only at hg
      obtain ⟨event, g₁, h₁, hg⟩ := bind_eq_ok.mp hg
      obtain ⟨-, rfl⟩ := pure_eq_ok.mp hg
      obtain ⟨log, -, rfl⟩ := end_ok h₁
      exact hin.endRow (hin _ row (liveAt_eq_some.mp hrow).1) tick
  | reciprocate actorId targetId =>
    refine kept_onGraph (fun g events g' hg hin => ?_) h hs
    unfold SocietyCall.reciprocateOf at hg
    rw [get_bind, tie_type] at hg
    cases hrow : g.liveAt (keyOf actorId targetId .acquaintance) with
    | none =>
      rw [hrow] at hg
      obtain ⟨-, rfl⟩ := pure_eq_ok.mp hg
      exact hin
    | some row =>
      rw [hrow] at hg
      dsimp only at hg
      obtain ⟨event, g₁, h₁, hg⟩ := bind_eq_ok.mp hg
      obtain ⟨-, rfl⟩ := pure_eq_ok.mp hg
      obtain ⟨log, -, rfl⟩ := transition_ok h₁
      exact hin.moved (hin _ row (liveAt_eq_some.mp hrow).1) _ tick
  | endAllFor agentId reason => exact kept_onGraph inRange_endAllFor h hs
  | stageInteraction i =>
    obtain ⟨_, s₁, h₁, h⟩ := bind_eq_ok.mp h
    obtain rfl := modify_eq_ok.mp h₁
    obtain ⟨-, rfl⟩ := pure_eq_ok.mp h
    exact ⟨hs.beliefs, hs.ties⟩
  | applyTick contacts => exact kept_onGraph inRange_applyTick h hs
  | update agentId proposition target channel sourceId llmCallId =>
    change SocietyCall.onBeliefs
      (fun g => E.apply g agentId proposition target channel sourceId tick llmCallId) s = _ at h
    exact kept_onBeliefs (fun _ => kept_apply) h hs
  | experience agentId kind payload =>
    change SocietyCall.onBeliefs (fun g => E.applyExperience g agentId kind payload tick) s = _ at h
    exact kept_onBeliefs (fun _ => kept_experience) h hs
  | reflect agentId updates llmCallId =>
    change SocietyCall.onBeliefs
      (fun _ => E.applyLlmBeliefUpdates agentId tick updates llmCallId) s = _ at h
    exact kept_onBeliefs (fun _ => kept_reflect hcfg) h hs
  | genesis agentIds =>
    change SocietyCall.onBeliefs (fun _ => E.initialisePopulation agentIds tick) s = _ at h
    exact kept_onBeliefs (fun _ => kept_genesis) h hs
  | migrate agentId cohortId offsets =>
    change SocietyCall.onBeliefs
      (fun _ => E.migrantBeliefs agentId cohortId offsets tick) s = _ at h
    exact kept_onBeliefs (fun _ => kept_migrant hcfg) h hs
  | birth childId motherId fatherId heritability =>
    obtain ⟨inherited, s₁, h₁, h⟩ := bind_eq_ok.mp h
    obtain ⟨kin, s₂, h₂, h⟩ := bind_eq_ok.mp h
    obtain ⟨-, rfl⟩ := pure_eq_ok.mp h
    refine kept_onGraph ?_ h₂ (kept_onBeliefs (fun _ => kept_birth hcfg) h₁ hs)
    exact within_gather staysInRange_refl staysInRange_trans fun _ _ => inRange_form

theorem run_kept (hcfg : E.cfg.Checked) {cs : List SocietyCall} {es : List (Events.Event Value)}
    {s : SocietyState} {u : Untold} (run : SocietyRun G E cs es s u) : s.Kept := by
  induction run with
  | start log =>
    refine ⟨fun key b h => ?_, fun k row h => ?_⟩
    · cases h
    · cases h
  | call c tick run returns ih => exact kept_call hcfg returns ih
  | onwards log run later ih => exact ⟨ih.beliefs, ih.ties⟩

end Graph

end Polis.Society
