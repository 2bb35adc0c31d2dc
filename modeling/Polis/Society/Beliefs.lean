/-
  Polis.Society.Beliefs — the belief engine (`society/beliefs.py`).

  A belief is a value and a confidence an agent holds of a proposition; one
  that is not stored is at the defaults of its proposition.  The draws of the
  random streams are parameters.

  Main results:
    * `updateKernel_range` — the kernel keeps values and confidences in range.
    * `project_range` — a projected belief is the one it starts from, or
      within the bounds of its proposition.
-/
import Polis.Society.Graph
import Polis.Society.Propositions

namespace Polis.Society

open Lib Lib.Effect Polis.Events

/-! ## Rows and settings -/

/-- `Channel`. -/
inductive BeliefChannel where
  | inherited | experience | social | media | reflection
  deriving Repr, DecidableEq

def BeliefChannel.text : BeliefChannel → String
  | inherited => "inherited"
  | experience => "experience"
  | social => "social"
  | media => "media"
  | reflection => "reflection"

/-- `Belief`; its agent and its proposition are the key it is stored under. -/
structure Belief where
  value : ℚ
  confidence : ℚ
  source : BeliefChannel
  sourceRef : Option String
  updatedTick : Int

abbrev Beliefs := Dict (String × String) Belief

/-- `BeliefSettings`. -/
structure BeliefSettings where
  alphaExperience : ℚ := 35 / 100
  alphaSocial : ℚ := 10 / 100
  alphaMedia : ℚ := 8 / 100
  thetaBackfire : ℚ := 60 / 100
  thetaEntrench : ℚ := 60 / 100
  thetaTrust : ℚ := 40 / 100
  betaBackfire : ℚ := 5 / 100
  deltaEntrench : ℚ := 3 / 100
  gammaC : ℚ := 2 / 100
  maxBeliefUpdatesPerCall : Nat := 5
  maxStep : ℚ := 35 / 100
  mixtureSeparation : ℚ := 0
  genesisSd : ℚ := 25 / 100
  heritabilityBeliefs : ℚ := 40 / 100
  confidenceDilution : ℚ := 50 / 100
  sigmaBelief : ℚ := 8 / 100
  socialInfluenceOff : Bool := false
  backfireOff : Bool := false

/-- `cfg.alpha.get(channel, 1.0)`. -/
def BeliefSettings.alpha (cfg : BeliefSettings) : BeliefChannel → ℚ
  | .experience => cfg.alphaExperience
  | .social => cfg.alphaSocial
  | .media => cfg.alphaMedia
  | _ => 1

/-- The draws of the streams `beliefs.genesis` and `beliefs.noise`. -/
structure BeliefDraws where
  negativeSide : String → String → Bool
  genesis : String → String → ℚ → ℚ → ℚ
  noise : String → String → ℚ → ℚ

/-- The entity kinds of the templates, in their order. -/
def FACTUAL_KINDS : List String := ["fm", "fm", "ag", "ag", "symbol", "el", "ol", "param", "pt"]

def TRUST_KINDS : List String := ["ol", "pt", "ag"]

/-- The kind and the entity of the first template that matches. -/
def matchedEntity (raw : String) : Option (String × String) :=
  ((FACTUAL_TEMPLATES.zip FACTUAL_KINDS) ++ (TRUST_TEMPLATES.zip TRUST_KINDS)).findSome? fun t =>
    (matchTemplate raw t.1).map fun entity => (t.2, entity)

/-- `resolve_proposition`. -/
def resolveProposition (entityExists : String → String → Bool) (raw : String) : Option String :=
  match closedClass raw with
  | some _ => some raw
  | none =>
    match matchedEntity raw with
    | some (kind, entity) => if entityExists kind entity then some raw else none
    | none => none

/-- `max(lo, min(hi, x))`. -/
def clamp (lo hi x : ℚ) : ℚ := max lo (min hi x)

theorem clamp_range {lo hi : ℚ} (h : lo ≤ hi) (x : ℚ) : lo ≤ clamp lo hi x ∧ clamp lo hi x ≤ hi :=
  ⟨le_max_left _ _, max_le h (min_le_left _ _)⟩

/-! ## The kernel -/

/-- `math.copysign(1.0, x)`. -/
def signOf (x : ℚ) : ℚ := if x < 0 then -1 else 1

/-- `update_kernel`. -/
def updateKernel (b c target tau alpha : ℚ) (cfg : BeliefSettings) : ℚ × ℚ × Bool :=
  let d := |target - b|
  let entrenched := !cfg.backfireOff && cfg.thetaBackfire < d && cfg.thetaEntrench < c &&
    tau < cfg.thetaTrust
  let deltaValue :=
    if entrenched then
      -cfg.betaBackfire * (1 - tau) * (if target = b then 0 else signOf (target - b)) * min d 1
    else alpha * tau * (1 - c) * (target - b)
  let deltaConfidence := if entrenched then cfg.deltaEntrench else cfg.gammaC * tau * (1 - d)
  (clamp (-1) 1 (b + deltaValue), clamp 0 1 (c + deltaConfidence), entrenched)

theorem updateKernel_range (b c target tau alpha : ℚ) (cfg : BeliefSettings) :
    (-1 ≤ (updateKernel b c target tau alpha cfg).1 ∧
      (updateKernel b c target tau alpha cfg).1 ≤ 1) ∧
    (0 ≤ (updateKernel b c target tau alpha cfg).2.1 ∧
      (updateKernel b c target tau alpha cfg).2.1 ≤ 1) :=
  ⟨clamp_range (by norm_num) _, clamp_range (by norm_num) _⟩

/-! ## The engine -/

/-- What a `BeliefEngine` keeps, with the log it stages in. -/
structure BeliefState where
  log : EventLog Value
  beliefs : Beliefs := ∅

abbrev BeliefM := EStateM Fault BeliefState

def BeliefState.withLog (s : BeliefState) (log : EventLog Value) : BeliefState := { s with log }

/-- `repo.put`. -/
def BeliefState.put (s : BeliefState) (key : String × String) (belief : Belief) : BeliefState :=
  { s with beliefs := s.beliefs.put key belief }

/-- A `BeliefEngine`: the journal it stages in, its settings, the entities it
knows and its draws. -/
structure BeliefEngine where
  journal : Journal
  cfg : BeliefSettings := {}
  entityExists : String → String → Bool
  draws : BeliefDraws

/-- `BeliefUpdate`. -/
structure BeliefUpdate where
  proposition : String
  value : ℚ
  confidence : ℚ
  sourceRef : Option String := none

/-- What `apply_experience` reads of a payload. -/
structure Experience where
  firmId : Option String := none
  employerId : Option String := none
  proposition : Option String := none
  target : Option ℚ := none
  value : Option ℚ := none

/-- `_current`. -/
def currentBelief (beliefs : Beliefs) (agentId proposition : String) :
    Except PyError (PropositionSpec × Belief) :=
  match propositionSpec proposition with
  | none => .error (.value ("unknown proposition: " ++ proposition))
  | some spec => .ok (spec, (beliefs.get? (agentId, proposition)).getD
      { value := spec.defaultValue, confidence := spec.defaultConfidence, source := .inherited,
        sourceRef := none, updatedTick := 0 })

/-- `value`. -/
def beliefValue (beliefs : Beliefs) (agentId proposition : String) : Except PyError ℚ := do
  let current ← currentBelief beliefs agentId proposition
  pure current.2.value

/-- `confidence`. -/
def beliefConfidence (beliefs : Beliefs) (agentId proposition : String) : Except PyError ℚ := do
  let current ← currentBelief beliefs agentId proposition
  pure current.2.confidence

/-- `for_proposition`. -/
def forProposition (beliefs : Beliefs) (proposition : String) : List Belief :=
  (beliefs.entries.filter fun e => e.1.2 = proposition).map Prod.snd

/-- The mean of a list, or a default. -/
def meanOr (default : ℚ) (xs : List ℚ) : ℚ := if xs = [] then default else xs.sum / xs.length

/-- `population_mean`. -/
def populationMean (beliefs : Beliefs) (proposition : String) : Except PyError ℚ :=
  match propositionSpec proposition with
  | none => .error (.value ("unknown proposition: " ++ proposition))
  | some spec => .ok (meanOr spec.defaultValue ((forProposition beliefs proposition).map Belief.value))

/-- `population_mean_confidence`. -/
def populationMeanConfidence (beliefs : Beliefs) (proposition : String) : Except PyError ℚ :=
  match propositionSpec proposition with
  | none => .error (.value ("unknown proposition: " ++ proposition))
  | some spec =>
    .ok (meanOr spec.defaultConfidence ((forProposition beliefs proposition).map Belief.confidence))

/-- A prior: a proposition, a value and a confidence. -/
abbrev Prior := String × ℚ × ℚ

namespace BeliefEngine

variable (E : BeliefEngine)

/-- `trust_in`. -/
def trustIn (beliefs : Beliefs) (g : GraphState) (agentId sourceId : String) :
    BeliefChannel → Except PyError ℚ
  | .social => .ok (if g.tie agentId sourceId none = none then 35 / 100 else g.trust agentId sourceId)
  | .media => do
    let trust ← beliefValue beliefs agentId ("trust.outlet." ++ sourceId)
    let fabricates ← beliefValue beliefs agentId ("fact.outlet." ++ sourceId ++ ".fabricates")
    pure (trust * (1 - fabricates))
  | _ => .ok 1

/-- `_project`. -/
def project (beliefs : Beliefs) (g : GraphState) (agentId proposition : String) (target : ℚ)
    (sourceId : String) (channel : BeliefChannel) : Except PyError (ℚ × ℚ × Bool) := do
  let (spec, current) ← currentBelief beliefs agentId proposition
  if (channel = .social ∨ channel = .media) ∧ E.cfg.socialInfluenceOff = true then
    pure (current.value, current.confidence, false)
  else do
    let tau ← trustIn beliefs g agentId sourceId channel
    let (value, confidence, entrenched) := updateKernel current.value current.confidence
      (clamp spec.lo spec.hi target) tau (E.cfg.alpha channel) E.cfg
    pure (clamp spec.lo spec.hi value, confidence, entrenched)

omit E in
theorem currentBelief_ok {beliefs : Beliefs} {agentId proposition : String}
    {c : PropositionSpec × Belief} (h : currentBelief beliefs agentId proposition = .ok c) :
    propositionSpec proposition = some c.1 ∧
      c.2 = (beliefs.get? (agentId, proposition)).getD
        { value := c.1.defaultValue, confidence := c.1.defaultConfidence, source := .inherited,
          sourceRef := none, updatedTick := 0 } := by
  unfold currentBelief at h
  cases hs : propositionSpec proposition with
  | none =>
    rw [hs] at h
    cases h
  | some spec =>
    rw [hs] at h
    cases h
    exact ⟨rfl, rfl⟩

variable {E} in
theorem project_range {beliefs : Beliefs} {g : GraphState} {agentId proposition : String}
    {target : ℚ} {sourceId : String} {channel : BeliefChannel} {c : PropositionSpec × Belief}
    {p : ℚ × ℚ × Bool} (hc : currentBelief beliefs agentId proposition = .ok c)
    (h : E.project beliefs g agentId proposition target sourceId channel = .ok p) :
    (p.1 = c.2.value ∧ p.2.1 = c.2.confidence) ∨
      ((c.1.lo ≤ p.1 ∧ p.1 ≤ c.1.hi) ∧ 0 ≤ p.2.1 ∧ p.2.1 ≤ 1) := by
  unfold project at h
  rw [hc] at h
  change (if _ then _ else _ : Except PyError (ℚ × ℚ × Bool)) = _ at h
  split at h
  · cases h
    exact Or.inl ⟨rfl, rfl⟩
  · right
    cases ht : trustIn beliefs g agentId sourceId channel with
    | error e =>
      rw [ht] at h
      cases h
    | ok tau =>
      rw [ht] at h
      have hbounds := propositionSpec_default (currentBelief_ok hc).1
      have hrange := updateKernel_range c.2.value c.2.confidence (clamp c.1.lo c.1.hi target) tau
        (E.cfg.alpha channel) E.cfg
      change (match updateKernel c.2.value c.2.confidence (clamp c.1.lo c.1.hi target) tau
          (E.cfg.alpha channel) E.cfg with
        | (value, confidence, entrenched) =>
          (.ok (clamp c.1.lo c.1.hi value, confidence, entrenched) :
            Except PyError (ℚ × ℚ × Bool))) = _ at h
      generalize updateKernel c.2.value c.2.confidence (clamp c.1.lo c.1.hi target) tau
        (E.cfg.alpha channel) E.cfg = kernel at h hrange
      cases h
      exact ⟨clamp_range (hbounds.1.trans hbounds.2.1) _, hrange.2⟩

section Drafts

variable [FloatValue]

/-- The event of an update that was told of in full. -/
def updatedDraft (agentId proposition : String) (old new : ℚ × ℚ) (channel : BeliefChannel)
    (sourceId sourceRef : String) (entrenched : Bool) (llmCallId : Option String) : Draft :=
  { kind := BELIEF_UPDATED
    payload := [("agent_id", .str agentId), ("proposition", .str proposition),
      ("old_value", FloatValue.ofRat old.1), ("new_value", FloatValue.ofRat new.1),
      ("old_confidence", FloatValue.ofRat old.2), ("new_confidence", FloatValue.ofRat new.2),
      ("channel", .str channel.text), ("source_id", .str sourceId),
      ("source_ref", .str sourceRef), ("entrenched", .bool entrenched),
      ("llm_call_id", .ofStr? llmCallId)]
    actorId := some agentId
    subjectIds := [agentId] }

/-- The event of a drift. -/
def driftDraft (agentId proposition : String) (old new : ℚ × ℚ) (channel : BeliefChannel) : Draft :=
  { kind := BELIEF_DRIFT_APPLIED
    payload := [("agent_id", .str agentId), ("channel", .str channel.text),
      ("updates", .list [.dict [("proposition", .str proposition),
        ("d_value", FloatValue.ofRat (new.1 - old.1)),
        ("d_confidence", FloatValue.ofRat (new.2 - old.2))]]),
      ("n_sources", .int 1)]
    subjectIds := [agentId] }

/-- The event of an update that a gate refused. -/
def rejectedDraft (agentId : String) (update : BeliefUpdate) (gate : String)
    (llmCallId : Option String) : Draft :=
  { kind := BELIEF_UPDATE_REJECTED
    payload := [("agent_id", .str agentId), ("proposition", .str update.proposition),
      ("raw_value", FloatValue.ofRat update.value), ("gate", .str gate),
      ("llm_call_id", .ofStr? llmCallId)]
    actorId := some agentId
    subjectIds := [agentId] }

/-- The rows of priors. -/
def priorsValue (rows : List Prior) : Value :=
  .list (rows.map fun row => .dict [("proposition", .str row.1),
    ("value", FloatValue.ofRat row.2.1), ("confidence", FloatValue.ofRat row.2.2)])

/-- The event of priors that were set. -/
def priorsDraft (agentId source : String) (rows : List Prior) : Draft :=
  { kind := BELIEF_PRIORS_SET
    payload := [("agent_id", .str agentId), ("source", .str source),
      ("propositions", priorsValue rows)]
    subjectIds := [agentId] }

end Drafts

/-- A row of priors as a belief. -/
def priorBelief (row : Prior) (sourceRef : String) (tick : Int) : Belief :=
  { value := row.2.1, confidence := row.2.2, source := .inherited, sourceRef := some sourceRef,
    updatedTick := tick }

/-- The beliefs with the rows of priors. -/
def withPriors (agentId sourceRef : String) (tick : Int) (rows : List Prior) (beliefs : Beliefs) :
    Beliefs :=
  rows.foldl (fun b row => b.put (agentId, row.1) (priorBelief row sourceRef tick)) beliefs

/-- The propositions that are inherited. -/
def INHERITED : List String := POLICY_PROPOSITIONS ++ ["trust.generalised"]

/-- `for x in xs`, collecting what the body returns. -/
def collect {α β : Type} (f : α → Except PyError β) : List α → Except PyError (List β)
  | [] => .ok []
  | x :: xs => do
    let y ← f x
    let ys ← collect f xs
    pure (y :: ys)

/-- The specification of an inherited proposition. -/
def inheritedSpec (what proposition : String) : Except PyError PropositionSpec :=
  match propositionSpec proposition with
  | some spec => .ok spec
  | none => .error (.runtime (what ++ " proposition has no specification: " ++ proposition))

/-- The row of a proposition in `priors_at_birth`. -/
def birthPrior (beliefs : Beliefs) (childId motherId fatherId proposition : String) :
    Except PyError Prior := do
  let spec ← inheritedSpec "birth" proposition
  let mother ← beliefValue beliefs motherId proposition
  let father ← beliefValue beliefs fatherId proposition
  let population ← populationMean beliefs proposition
  let centre := E.cfg.heritabilityBeliefs * ((mother + father) / 2)
    + (1 - E.cfg.heritabilityBeliefs) * population
  let motherConfidence ← beliefConfidence beliefs motherId proposition
  let fatherConfidence ← beliefConfidence beliefs fatherId proposition
  pure (proposition,
    clamp spec.lo spec.hi (centre + E.draws.noise childId proposition E.cfg.sigmaBelief),
    (motherConfidence + fatherConfidence) / 2 * E.cfg.confidenceDilution)

/-- `priors_at_birth`. -/
def priorsAtBirth (beliefs : Beliefs) (childId motherId fatherId : String) :
    Except PyError (List Prior) :=
  collect (E.birthPrior beliefs childId motherId fatherId) INHERITED

/-- The row of a proposition in `priors_for_migrant`. -/
def migrantPrior (beliefs : Beliefs) (agentId : String) (offsets : List (String × ℚ))
    (proposition : String) : Except PyError Prior := do
  let spec ← inheritedSpec "migrant" proposition
  let population ← populationMean beliefs proposition
  let confidence ← populationMeanConfidence beliefs proposition
  pure (proposition,
    clamp spec.lo spec.hi (population + (offsets.lookup proposition).getD 0
      + E.draws.noise agentId proposition E.cfg.sigmaBelief),
    confidence * E.cfg.confidenceDilution)

/-- `priors_for_migrant`. -/
def priorsForMigrant (beliefs : Beliefs) (agentId : String) (offsets : List (String × ℚ)) :
    Except PyError (List Prior) :=
  collect (E.migrantPrior beliefs agentId offsets) INHERITED

/-- The rows of an agent in `initialise_population`. -/
def genesisRows (agentId : String) : List Prior :=
  (POLICY_PROPOSITIONS.map fun proposition =>
    let side : ℚ := if E.draws.negativeSide agentId proposition then -1 else 1
    (proposition, clamp (-1) 1 (E.draws.genesis agentId proposition
      (side * E.cfg.mixtureSeparation / 2) E.cfg.genesisSd), 35 / 100))
  ++ [("trust.generalised", 1 / 2, 35 / 100)]

variable [FloatValue] [CanonicalJson Value] [Sha256] [PayloadSchemas Value]

/-- `_emit`. -/
def emit (d : Draft) (tick : Int) : BeliefM (Events.Event Value) :=
  zoom BeliefState.log BeliefState.withLog (Society.emit E.journal d tick)

/-- The reference of an update. -/
def sourceRefOf (channel : BeliefChannel) (sourceId : String) (llmCallId : Option String) : String :=
  match channel, truthy llmCallId with
  | .reflection, some call => "llm_call:" ++ call
  | _, _ => sourceId
where
  /-- A text that is there and not empty. -/
  truthy : Option String → Option String
  | some "" => none
  | t => t

/-- `apply`. -/
def apply (g : GraphState) (agentId proposition : String) (target : ℚ) (channel : BeliefChannel)
    (sourceId : String) (tick : Int) (llmCallId : Option String) :
    BeliefM (List (Events.Event Value)) := do
  let s ← get
  let (spec, current) ← liftPy (currentBelief s.beliefs agentId proposition)
  if channel = .experience ∧ spec.cls = .policy then
    throw (.py (.assertion "direct experience may never update policy propositions"))
  else do
    let (value, confidence, entrenched) ←
      liftPy (E.project s.beliefs g agentId proposition target sourceId channel)
    if value = current.value ∧ confidence = current.confidence then pure []
    else do
      let sourceRef := sourceRefOf channel sourceId llmCallId
      modify fun s => s.put (agentId, proposition)
        { value, confidence, source := channel, sourceRef := some sourceRef, updatedTick := tick }
      let event ←
        if channel = .social ∨ channel = .media then
          E.emit (driftDraft agentId proposition (current.value, current.confidence)
            (value, confidence) channel) tick
        else E.emit (updatedDraft agentId proposition (current.value, current.confidence)
          (value, confidence) channel sourceId sourceRef entrenched llmCallId) tick
      pure [event]

/-- `apply_social`. -/
def applySocial (g : GraphState) (agentId proposition : String) (target : ℚ) (sourceId : String)
    (tick : Int) : BeliefM (List (Events.Event Value)) :=
  E.apply g agentId proposition target .social sourceId tick none

/-- `apply_media`. -/
def applyMedia (g : GraphState) (agentId proposition : String) (target : ℚ) (outletId : String)
    (tick : Int) : BeliefM (List (Events.Event Value)) :=
  E.apply g agentId proposition target .media outletId tick none

/-- A text that is not empty, of two. -/
def firmOf (payload : Experience) : String :=
  match payload.firmId, payload.employerId with
  | some "", e => e.getD ""
  | some f, _ => f
  | none, e => e.getD ""

/-- The update a firm's event gives rise to. -/
def firmUpdate (kind : Int) (payload : Experience) : List (String × ℚ × String) :=
  if (kind = FIRED ∨ kind = BANKRUPTCY_FILED ∨ kind = PAYROLL_SHORTFALL) ∧ firmOf payload ≠ "" then
    [("fact.firm." ++ firmOf payload ++ ".solvent",
      if kind = PAYROLL_SHORTFALL then 15 / 100 else 0, firmOf payload)]
  else []

/-- The updates of `apply_experience`. -/
def experienceUpdates (kind : Int) (payload : Experience) :
    Except PyError (List (String × ℚ × String)) :=
  match payload.proposition with
  | none => .ok (firmUpdate kind payload)
  | some proposition =>
    if "policy.".toList.isPrefixOf proposition.toList then
      .error (.assertion "direct experience may never update policy propositions")
    else
      match propositionSpec proposition with
      | none => .ok []
      | some spec =>
        if spec.cls = .policy then
          .error (.assertion "direct experience may never update policy propositions")
        else .ok (firmUpdate kind payload ++
          [(proposition, (payload.target.orElse fun _ => payload.value).getD (1 / 2), "self")])

/-- `apply_experience`. -/
def applyExperience (g : GraphState) (agentId : String) (kind : Int) (payload : Experience)
    (tick : Int) : BeliefM (List (Events.Event Value)) := do
  let updates ← liftPy (experienceUpdates kind payload)
  gather (fun u => E.apply g agentId u.1 u.2.1 .experience u.2.2 tick none) updates

/-- `_reject`. -/
def reject (agentId : String) (update : BeliefUpdate) (gate : String) (tick : Int)
    (llmCallId : Option String) : BeliefM (List (Events.Event Value)) := do
  let event ← E.emit (rejectedDraft agentId update gate llmCallId) tick
  pure [event]

/-- An update within the bounds of its proposition. -/
def prepared (spec : PropositionSpec) (update : BeliefUpdate) : BeliefUpdate :=
  { update with
    value := if update.value < spec.lo ∨ spec.hi < update.value then
        clamp spec.lo spec.hi update.value else update.value
    confidence := if update.confidence < 0 ∨ 1 < update.confidence then
        clamp 0 1 update.confidence else update.confidence }

/-- The first gates of an update: its proposition, and its range. -/
def screen (agentId : String) (tick : Int) (llmCallId : Option String) (update : BeliefUpdate) :
    BeliefM (List (Events.Event Value)) :=
  match (resolveProposition E.entityExists update.proposition).bind propositionSpec with
  | none => E.reject agentId update "unknown" tick llmCallId
  | some spec => do
    let value ← onlyIf (update.value < spec.lo ∨ spec.hi < update.value)
      (E.reject agentId update "range" tick llmCallId)
    let confidence ← onlyIf (update.confidence < 0 ∨ 1 < update.confidence)
      (E.reject agentId update "range" tick llmCallId)
    pure (value ++ confidence)

/-- The updates that the first gates let through. -/
def screened (updates : List BeliefUpdate) : List BeliefUpdate :=
  updates.filterMap fun update =>
    ((resolveProposition E.entityExists update.proposition).bind propositionSpec).map fun spec =>
      prepared spec update

/-- An update about an outlet that cites the outlet. -/
def selfServing (update : BeliefUpdate) : Bool :=
  match update.sourceRef with
  | none => false
  | some ref =>
    "trust.outlet.".toList.isPrefixOf update.proposition.toList &&
      "article:".toList.isPrefixOf ref.toList &&
      (ref.toList.drop 8).takeWhile (· ≠ ':') = update.proposition.toList.drop 13

/-- The value after a step that is not too long. -/
def stepped (current target : ℚ) : ℚ :=
  if E.cfg.maxStep < |target - current| then current + signOf (target - current) * E.cfg.maxStep
  else target

/-- The turn of one update. -/
def applyUpdate (agentId : String) (tick : Int) (llmCallId : Option String)
    (update : BeliefUpdate) : BeliefM (List (Events.Event Value)) := do
  let s ← get
  let (_, current) ← liftPy (currentBelief s.beliefs agentId update.proposition)
  let step ← onlyIf (E.cfg.maxStep < |update.value - current.value|)
    (E.reject agentId update "step" tick llmCallId)
  let target := E.stepped current.value update.value
  let serving ← onlyIf (selfServing update = true)
    (E.reject agentId update "self_serving" tick llmCallId)
  let value := if selfServing update then current.value + 1 / 2 * (target - current.value)
    else target
  let confidence := if selfServing update then
      current.confidence + 1 / 2 * (update.confidence - current.confidence)
    else update.confidence
  let sourceRef := match llmCallId with
    | some call => "llm_call:" ++ call
    | none => (sourceRefOf.truthy update.sourceRef).getD "reflection"
  modify fun s => s.put (agentId, update.proposition)
    { value, confidence, source := .reflection, sourceRef := some sourceRef, updatedTick := tick }
  let event ← E.emit (updatedDraft agentId update.proposition (current.value, current.confidence)
    (value, confidence) .reflection ((sourceRefOf.truthy update.sourceRef).getD "reflection")
    sourceRef false llmCallId) tick
  pure (step ++ serving ++ [event])

/-- `apply_llm_belief_updates`, with the events it stages. -/
def applyLlmBeliefUpdates (agentId : String) (tick : Int) (updates : List BeliefUpdate)
    (llmCallId : Option String) : BeliefM (List (Events.Event Value)) := do
  let first ← gather (E.screen agentId tick llmCallId) updates
  let ready := E.screened updates
  let surplus ← gather (fun update => E.reject agentId update "count" tick llmCallId)
    (ready.drop E.cfg.maxBeliefUpdatesPerCall)
  let applied ← gather (E.applyUpdate agentId tick llmCallId)
    ((ready.take E.cfg.maxBeliefUpdatesPerCall).insertionSort fun x y =>
      x.proposition ≤ y.proposition)
  pure (first ++ surplus ++ applied)

/-- `_set_priors`. -/
def setPriors (agentId source : String) (rows : List Prior) (tick : Int) :
    BeliefM (List (Events.Event Value)) := do
  modify fun s => { s with beliefs := withPriors agentId source tick rows s.beliefs }
  let event ← E.emit (priorsDraft agentId source rows) tick
  pure [event]

/-- `initialise_population`. -/
def initialisePopulation (agentIds : List String) (tick : Int) :
    BeliefM (List (Events.Event Value)) :=
  gather (fun agentId => E.setPriors agentId "genesis" (E.genesisRows agentId) tick)
    (agentIds.dedup.insertionSort (· ≤ ·))

/-- `apply_priors`: what stands before a fact is kept. -/
def applyPriors (agentId : String) (priors : List Prior) (tick : Int) (sourceRef : String) :
    BeliefM Unit :=
  each (fun row =>
    if "fact.".toList.isPrefixOf row.1.toList then
      throw (.py (.value "fact propositions cannot be inherited"))
    else modify fun s => s.put (agentId, row.1) (priorBelief row sourceRef tick)) priors

/-! ## Births and migrants -/

/-- The event of priors that were inherited. -/
def inheritedDraft (childId motherId fatherId : String) (heritability : ℚ) (rows : List Prior) :
    Draft :=
  { kind := BELIEF_PRIORS_INHERITED
    payload := [("child_id", .str childId), ("mother_id", .str motherId),
      ("father_id", .str fatherId), ("heritability_beliefs", FloatValue.ofRat heritability),
      ("propositions", priorsValue rows)]
    subjectIds := [motherId, fatherId, childId] }

/-- The event of a migrant, with the fields that its readers use. -/
def migrationDraft (agentId cohortId : String) (rows : List Prior) : Draft :=
  { kind := MIGRATION_IN
    payload := [("agent_id", .str agentId), ("cohort_id", .str cohortId),
      ("belief_priors", priorsValue rows)]
    actorId := some agentId
    subjectIds := [agentId] }

/-- The beliefs of a child, in `Fertility._birth`. -/
def birthBeliefs (childId motherId fatherId : String) (heritability : ℚ) (tick : Int) :
    BeliefM (List (Events.Event Value)) := do
  let s ← get
  let priors ← liftPy (E.priorsAtBirth s.beliefs childId motherId fatherId)
  if priors.any fun row => "fact.".toList.isPrefixOf row.1.toList then
    throw (.py (.runtime "birth priors may not contain fact propositions"))
  else do
    applyPriors childId priors tick ("parents:" ++ motherId ++ "," ++ fatherId)
    let event ← E.emit (inheritedDraft childId motherId fatherId heritability priors) tick
    pure [event]

/-- The beliefs of a migrant, in `Migration._embody_migrant`. -/
def migrantBeliefs (agentId cohortId : String) (offsets : List (String × ℚ)) (tick : Int) :
    BeliefM (List (Events.Event Value)) := do
  let s ← get
  let priors ← liftPy (E.priorsForMigrant s.beliefs agentId offsets)
  applyPriors agentId priors tick ("migration:" ++ cohortId)
  let event ← E.emit (migrationDraft agentId cohortId priors) tick
  pure [event]

end BeliefEngine

end Polis.Society
