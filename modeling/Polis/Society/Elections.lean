/-
  Polis.Society.Elections — candidacies, campaigns, ballots and the holding
  of an election (`VoteModel` and `ElectionOffice`, `society/polity.py`).

  Seeded draws, the fit of the vote model and what it reads of the economy and
  the graph are parameters.

  Main results:
    * `choose_abstains_iff` — a reflex ballot is an abstention exactly when the
      voter does not turn out.
    * `choose_congr` — it depends on the members, the offices and the exposure.
-/
import Polis.Society.Parties
import Polis.Society.Tallies

namespace Polis.Society

open Lib Lib.Effect Polis.Events

/-! ## Parameters of actions -/

/-- `first or second` on optional texts. -/
def firstText (first second : Option String) : Option String :=
  match first.filter fun t => t ≠ "" with
  | some t => some t
  | none => second

/-- `AnnounceCandidacyParams`. -/
structure AnnounceCandidacyParams where
  electionId : Option String := none
  officeId : Option String := none
  partyId : Option String := none
  platform : Platform := ∅

inductive Channel where
  | ads | rally | canvass
  deriving Repr, DecidableEq

def Channel.text : Channel → String
  | .ads => "ads"
  | .rally => "rally"
  | .canvass => "canvass"

/-- `CampaignParams`. -/
structure CampaignParams where
  candidacyId : String
  spendCents : Int := 0
  amountCents : Int := 0
  channel : Channel := .canvass
  targetId : Option String := none
  placeId : Option String := none

/-! ## What elections read -/

/-- `Outlet`, with the fields campaigns and revenue bookings read. -/
structure Outlet where
  outletId : String
  reach : Int
  firmId : Option String

/-- A place, with the field a campaign reads. -/
structure Venue where
  ownerId : Option String

/-- `WorldLookup`. -/
structure WorldLookup where
  locations : List String
  occupancy : String → List String
  place : String → Option Venue

/-- An agent, with the fields of `_eligible_state` and the gates. -/
structure AgentState where
  age : Int
  alive : Bool := true
  incarcerated : Bool := false
  residentSinceTick : Int := 0
  criminalRecord : List String := []

/-- The six terms of a utility, by `VoteModel.FEATURES`. -/
structure Features where
  congruence : ℚ
  selfInterest : ℚ
  social : ℚ
  media : ℚ
  partyId : ℚ
  incumbency : ℚ

def Features.rows (f : Features) : List (String × ℚ) :=
  [("congruence", f.congruence), ("self_interest", f.selfInterest), ("social", f.social),
   ("media", f.media), ("party_id", f.partyId), ("incumbency", f.incumbency)]

/-- `FitResult`. -/
structure FitResult where
  omega : Dict String ℚ
  logLikelihood : ℚ
  holdoutAccuracy : ℚ
  nDeliberate : Nat
  usable : Bool

/-- A row `fit` is given: voter, choice and the features of every candidacy. -/
abbrev FitRow := String × String × List (String × Features)

/-- What a `VoteModel` is built with. -/
structure VoteModel where
  value : String → String → ℚ
  confidence : String → String → ℚ
  selfInterest : String → Platform → Int → ℚ
  social : String → Candidacy → Int → ℚ
  /-- `2 ** (-age / half_life)`. -/
  decay : Int → ℚ
  conscientiousness : String → ℚ
  civic : String → ℚ
  /-- The noise of the draws of a voter at a tick, in order. -/
  noise : String → Int → Nat → ℚ
  fit : List FitRow → FitResult

/-- What an `ElectionOffice` is built with. -/
structure ElectionOffice (L : Type) where
  journal : Journal
  cfg : PolitySettings
  parties : PartyRegistry L
  voteModel : VoteModel
  base : Base
  ledger : SocietyLedger L
  agents : String → Option AgentState
  world : Option WorldLookup
  outlets : Option (String → Option Outlet)
  deliberateBallots : Option (String → List Candidacy → Int → Option Ballot)
  treasuryId : String := "gv_treasury"
  cpmCents : Int := 40
  /-- The seeded shuffle of `campaign`. -/
  shuffle : String → Int → List String → List String
  /-- The seeded choice of `_plurality`. -/
  draw : String → Int → List String → String

/-! ## The vote model -/

namespace VoteModel

variable (V : VoteModel)

/-- `_congruence`. -/
def congruence (voterId : String) (platform : Platform) : ℚ :=
  let rows := platform.sortedEntries.map fun e =>
    (max 0 (V.confidence voterId e.1), |V.value voterId e.1 - e.2|)
  let confidence := (rows.map Prod.fst).sum
  if confidence = 0 then 1 / 2
  else Kernel.round6 (1 - (rows.map fun r => r.1 * r.2).sum / (2 * confidence))

/-- `ExposureLedger.exposure`. -/
def exposure {L : Type} (s : PolityState L) (agentId candidacyId : String) (tick : Int) : ℚ :=
  let rows := s.exposure.getD (agentId, candidacyId) []
  Kernel.round6 ((rows.filter fun r => r.1 ≤ tick).map fun r => V.decay (tick - r.1)).sum

/-- `features`. -/
def features {L : Type} (s : PolityState L) (voterId : String) (c : Candidacy) (tick : Int) :
    Features :=
  let membership := s.parties.memberOf voterId
  { congruence := V.congruence voterId c.platform
    selfInterest := V.selfInterest voterId c.platform tick
    social := V.social voterId c tick
    media := V.exposure s voterId c.candidacyId tick
    partyId := if membership.isSome ∧ membership = c.partyId then 1 else 0
    incumbency := if (s.offices.holdsOffice c.agentId tick).isSome then 1 else 0 }

/-- The utility of a candidacy. -/
def utility (omega : Dict String ℚ) (f : Features) (epsilon : ℚ) : ℚ :=
  (f.rows.map fun e => omega.getD e.1 0 * e.2).sum + epsilon

/-- The threshold below which a voter abstains. -/
def threshold (cfg : PolitySettings) (voterId : String) : ℚ :=
  cfg.abstainTheta0 - cfg.abstainThetaConscientiousness * V.conscientiousness voterId
    - cfg.abstainThetaCivic * V.civic voterId

/-- The candidacies with their utilities and noise, by identifier. -/
def utilities {L : Type} (s : PolityState L) (voterId : String) (candidacies : List Candidacy)
    (omega : Dict String ℚ) (tick : Int) : List (ℚ × Candidacy × ℚ) :=
  let sorted := candidacies.insertionSort fun a b => a.candidacyId ≤ b.candidacyId
  sorted.zipIdx.map fun e =>
    let epsilon := V.noise voterId tick e.2
    (utility omega (V.features s voterId e.1 tick) epsilon, e.1, epsilon)

/-- The candidacy of the best utility, the later identifier among equals. -/
def best {L : Type} (s : PolityState L) (voterId : String) (candidacies : List Candidacy)
    (omega : Dict String ℚ) (tick : Int) : Option (ℚ × Candidacy × ℚ) :=
  (V.utilities s voterId candidacies omega tick).argmax fun r => toLex (r.1, r.2.1.candidacyId)

/-- `choose`. -/
def choose {L : Type} (cfg : PolitySettings) (s : PolityState L) (voterId : String)
    (candidacies : List Candidacy) (omega : Dict String ℚ) (tick : Int) : Ballot :=
  match V.best s voterId candidacies omega tick with
  | none => { voterId, choice := none, utility := Dict.ofList [("epsilon", 0)] }
  | some (utility, c, epsilon) =>
    { voterId
      choice := if V.threshold cfg voterId ≤ utility then some c.candidacyId else none
      utility := Dict.ofList
        (((V.features s voterId c tick).rows.map fun e => (e.1, Kernel.round6 e.2))
          ++ [("epsilon", Kernel.round6 epsilon)])
      maxUtility := Kernel.round6 utility }

/-- A voter turns out: some candidacy's utility reaches the threshold. -/
def TurnsOut {L : Type} (cfg : PolitySettings) (s : PolityState L) (voterId : String)
    (candidacies : List Candidacy) (omega : Dict String ℚ) (tick : Int) : Prop :=
  ∃ r ∈ V.utilities s voterId candidacies omega tick, V.threshold cfg voterId ≤ r.1

theorem choose_fields {L : Type} (cfg : PolitySettings) (s : PolityState L) (voterId : String)
    (candidacies : List Candidacy) (omega : Dict String ℚ) (tick : Int) :
    (V.choose cfg s voterId candidacies omega tick).voterId = voterId ∧
    (V.choose cfg s voterId candidacies omega tick).ranking = [] ∧
    (V.choose cfg s voterId candidacies omega tick).approvals = [] := by
  unfold choose
  cases V.best s voterId candidacies omega tick with
  | none => exact ⟨rfl, rfl, rfl⟩
  | some r => exact ⟨rfl, rfl, rfl⟩

theorem choose_choice {L : Type} {cfg : PolitySettings} {s : PolityState L} {voterId : String}
    {candidacies : List Candidacy} {omega : Dict String ℚ} {tick : Int} {id : String}
    (h : (V.choose cfg s voterId candidacies omega tick).choice = some id) :
    id ∈ candidacies.map Candidacy.candidacyId := by
  unfold choose at h
  cases hbest : V.best s voterId candidacies omega tick with
  | none =>
    rw [hbest] at h
    cases h
  | some r =>
    obtain ⟨u, c, epsilon⟩ := r
    rw [hbest] at h
    dsimp only at h
    split at h
    · cases h
      have hmem := List.argmax_mem hbest
      unfold utilities at hmem
      obtain ⟨e, he, heq⟩ := List.mem_map.mp hmem
      have hc : e.1 = c := congrArg (fun r => r.2.1) heq
      have hsorted := List.fst_mem_of_mem_zipIdx he
      rw [hc, List.mem_insertionSort] at hsorted
      exact List.mem_map.mpr ⟨c, hsorted, rfl⟩
    · cases h

theorem choose_abstains_iff {L : Type} (cfg : PolitySettings) (s : PolityState L)
    (voterId : String) (candidacies : List Candidacy) (omega : Dict String ℚ) (tick : Int) :
    (V.choose cfg s voterId candidacies omega tick).Abstains ↔
      ¬V.TurnsOut cfg s voterId candidacies omega tick := by
  have hfields := V.choose_fields cfg s voterId candidacies omega tick
  have habs : (V.choose cfg s voterId candidacies omega tick).Abstains ↔
      (V.choose cfg s voterId candidacies omega tick).choice = none :=
    ⟨fun h => h.1, fun h => ⟨h, hfields.2⟩⟩
  rw [habs]
  unfold choose TurnsOut
  cases hbest : V.best s voterId candidacies omega tick with
  | none =>
    have hnil : V.utilities s voterId candidacies omega tick = [] := List.argmax_eq_none.mp hbest
    rw [hnil]
    simp
  | some r =>
    obtain ⟨u, c, epsilon⟩ := r
    have hmem : (u, c, epsilon) ∈ V.utilities s voterId candidacies omega tick :=
      List.argmax_mem hbest
    -- the best utility bounds the others
    have hmax : ∀ r ∈ V.utilities s voterId candidacies omega tick, r.1 ≤ u := by
      intro r hr
      have hle := List.le_of_mem_argmax hr hbest
      exact (Prod.Lex.toLex_le_toLex.mp hle).elim le_of_lt fun h => h.1.le
    dsimp only
    by_cases hu : V.threshold cfg voterId ≤ u
    · rw [if_pos hu]
      constructor
      · intro h
        cases h
      · intro h
        exact absurd ⟨_, hmem, hu⟩ h
    · rw [if_neg hu]
      constructor
      · rintro - ⟨r, hr, hle⟩
        exact hu (le_trans hle (hmax r hr))
      · intro _
        rfl

theorem choose_congr {L : Type} {s s' : PolityState L} (hparties : s'.parties = s.parties)
    (hoffices : s'.offices = s.offices) (hexposure : s'.exposure = s.exposure)
    (cfg : PolitySettings) (voterId : String) (candidacies : List Candidacy)
    (omega : Dict String ℚ) (tick : Int) :
    V.choose cfg s' voterId candidacies omega tick
      = V.choose cfg s voterId candidacies omega tick := by
  have hfeatures : ∀ c, V.features s' voterId c tick = V.features s voterId c tick := by
    intro c
    unfold features exposure
    rw [hparties, hoffices, hexposure]
  have hutilities : V.utilities s' voterId candidacies omega tick
      = V.utilities s voterId candidacies omega tick := by
    unfold utilities
    simp only [hfeatures]
  unfold choose best
  rw [hutilities]
  simp only [hfeatures]

end VoteModel

/-! ## Operations -/

namespace ElectionOffice

variable {L : Type} [CanonicalJson Value] [Events.Sha256] [PayloadSchemas Value] [FloatValue]
  (E : ElectionOffice L)

/-- `_emit`. -/
def emit (d : Draft) (tick : Int) : PolityM L (Events.Event Value) :=
  zoom PolityState.books PolityState.withBooks (Books.emit E.journal d tick)

/-- `_eligible_state`. -/
def eligibleState (runtime : RuntimeConfig) (state : AgentState) (tick : Int) :
    Except PyError Bool := do
  let franchise ← runtime.flag E.base "polity.felon_franchise" tick
  pure (state.alive && 18 ≤ state.age && (!state.incarcerated || franchise)
    && 90 * (E.journal.clock.ticksPerSimDay : Int) ≤ tick - state.residentSinceTick)

/-- `eligible`. -/
def eligible (s : PolityState L) (agentId electionId : String) (tick : Int) :
    Except PyError Bool :=
  match s.repo.elections.get? electionId, E.agents agentId with
  | some election, some state =>
    if agentId ∈ election.electorateIds then E.eligibleState s.runtime state tick else .ok false
  | _, _ => .ok false

/-- `has_voted`. -/
def hasVoted (s : PolityState L) (agentId electionId : String) : Bool :=
  s.repo.ballots.contains (electionId, agentId)

/-! ### Candidacies -/

/-- The platform of a candidacy: its own, or that of its party. -/
def candidatePlatform (s : PolityState L) (params : AnnounceCandidacyParams) : Platform :=
  let own := params.platform.sort
  if own.entries = [] then
    match params.partyId with
    | some partyId => ((s.parties.get partyId).map Party.platform).getD ∅
    | none => own
  else own

/-- The event of a candidacy. -/
def announcedDraft (c : Candidacy) (deposit : Int) (txnId : Value) : Draft :=
  { kind := CANDIDACY_ANNOUNCED
    payload := [("candidacy_id", .str c.candidacyId), ("agent_id", .str c.agentId),
      ("election_id", .str c.electionId), ("party_id", Value.ofStr? c.partyId),
      ("platform", c.platform.value), ("deposit_cents", .int deposit), ("txn_id", txnId)]
    actorId := some c.agentId
    subjectIds := [c.agentId, c.candidacyId, c.electionId] }

/-- The repository with a new candidacy and its deposit. -/
def nominate (s : PolityState L) (c : Candidacy) (deposit : Int) : PolityState L :=
  let repo := s.repo.putCandidacy c
  s.withRepo { repo with deposits := repo.deposits.put c.candidacyId (c.agentId, deposit, false) }

/-- The identifier of a candidacy. -/
def candidacyIdOf [Uuid5] (electionId agentId : String) : String :=
  Kernel.detUuid "polis.candidacy" [electionId, agentId]

/-- `announce`. -/
def announce [Uuid5] (agentId : String) (params : AnnounceCandidacyParams) (tick : Int) :
    PolityM L (List (Events.Event Value)) := do
  let s ← get
  match firstText params.electionId params.officeId with
  | none => throw (.py (.value "unknown election"))
  | some electionId =>
    match s.repo.elections.get? electionId with
    | none => throw (.py (.value "unknown election"))
    | some election => do
      require (tick ≤ election.campaignEndsTick) (.py (.value "candidacy window is closed"))
      require (∀ partyId ∈ params.partyId, s.parties.parties.contains partyId = true)
        (.py (.value "unknown party"))
      let deposit := E.cfg.candidacyDepositCents
      let c : Candidacy :=
        { candidacyId := candidacyIdOf electionId agentId, electionId, agentId,
          partyId := params.partyId, platform := candidatePlatform s params, spendCents := 0,
          votes := 0 }
      let event ← zoom PolityState.books PolityState.withBooks
        (stagePosted E.ledger E.journal (deposit ≠ 0) (.str "") (announcedDraft c deposit)
          [(agentId, E.treasuryId, deposit)] "transfer"
          "candidacy deposit transaction ordinal diverged" tick)
      modify fun s => nominate s c deposit
      pure [event]

/-! ### Campaigns -/

/-- What a campaign action spends, on whom, and whom it reaches. -/
structure CampaignPlan where
  amount : Int
  reached : List String
  payee : Option String
  reason : String

/-- `xs[:n]`. -/
def sliceTo (n : Int) (xs : List String) : List String :=
  if 0 ≤ n then xs.take n.toNat else xs.take (xs.length - n.natAbs)

/-- The branches of `campaign` by channel. -/
def campaignPlan (s : PolityState L) (c : Candidacy) (agentId : String) (params : CampaignParams)
    (tick : Int) : Except PyError CampaignPlan :=
  let amount := max params.amountCents params.spendCents
  match params.channel with
  | .ads =>
    match E.outlets.bind fun get => params.targetId.bind get with
    | none => .error (.value "ads require a live target outlet")
    | some outlet =>
      let reach := min outlet.reach
        (Kernel.pyRound ((amount : ℚ) / (max 1 E.cpmCents : Int) * 1000 * E.cfg.outletEfficiency))
      let candidates := ((E.world.map WorldLookup.locations).getD []).insertionSort (· ≤ ·)
      .ok { amount
            reached := (sliceTo reach (E.shuffle c.candidacyId tick candidates)).insertionSort (· ≤ ·)
            payee := outlet.firmId
            reason := "purchase" }
  | .rally =>
    match E.world, params.placeId with
    | some world, some placeId =>
      match world.place placeId with
      | none => .error (.key placeId)
      | some venue =>
        .ok { amount
              reached := (world.occupancy placeId).insertionSort (· ≤ ·)
              payee := venue.ownerId
              reason := "rent" }
    | _, _ => .error (.value "rally requires a place")
  | .canvass =>
    let party := c.partyId.bind s.parties.get
    .ok { amount := 0
          reached := ((party.map fun p => sortedSet p.memberIds).getD []).filter fun m => m ≠ agentId
          payee := none
          reason := "purchase" }

/-- The event of a campaign action. -/
def campaignDraft (agentId : String) (params : CampaignParams) (plan : CampaignPlan)
    (txnId : Value) : Draft :=
  { kind := CAMPAIGN_SPEND
    payload := [("candidacy_id", .str params.candidacyId), ("agent_id", .str agentId),
      ("amount_cents", .int plan.amount), ("channel", .str params.channel.text),
      ("target_id", Value.ofStr? (firstText params.targetId params.placeId)),
      ("reached_agent_ids", Value.strs (plan.reached.take 10000)),
      ("reach", .int plan.reached.length), ("txn_id", txnId)]
    actorId := some agentId
    subjectIds := [agentId, params.candidacyId] ++ plan.reached.take 250 }

/-- `ExposureLedger.record`. -/
def recordExposure (exposure : Dict (String × String) (List (Int × String)))
    (candidacyId : String) (agentIds : List String) (channel : String) (tick : Int) :
    Dict (String × String) (List (Int × String)) :=
  (sortedSet agentIds).foldl
    (fun d agentId => d.put (agentId, candidacyId)
      (d.getD (agentId, candidacyId) [] ++ [(tick, channel)])) exposure

/-- The end of `campaign`. -/
def recordCampaign (c : Candidacy) (params : CampaignParams) (plan : CampaignPlan) (tick : Int)
    (s : PolityState L) : PolityState L :=
  { s with
    exposure :=
      recordExposure s.exposure c.candidacyId plan.reached params.channel.text tick
    repo := s.repo.putCandidacy { c with spendCents := c.spendCents + plan.amount } }

/-- `campaign`. -/
def campaign (agentId : String) (params : CampaignParams) (tick : Int) :
    PolityM L (List (Events.Event Value)) := do
  let s ← get
  match s.repo.candidacies.get? params.candidacyId with
  | none => throw (.py (.key params.candidacyId))
  | some c => do
    let plan ← liftPy (E.campaignPlan s c agentId params tick)
    let event ← zoom PolityState.books PolityState.withBooks
      (stagePosted E.ledger E.journal (plan.amount ≠ 0 ∧ plan.payee.isSome = true) (.str "")
        (campaignDraft agentId params plan) [(agentId, plan.payee.getD "", plan.amount)]
        plan.reason "campaign transaction ordinal diverged" tick)
    modify (recordCampaign c params plan tick)
    pure [event]

/-! ### Ballots -/

/-- The components of a utility, absent ones as zero. -/
def utilityValue (utility : Dict String ℚ) : Value :=
  .dict (["congruence", "self_interest", "social", "media", "party_id", "incumbency",
    "epsilon"].map fun key => (key, FloatValue.ofRat (utility.getD key 0)))

/-- The event of a ballot. -/
def ballotDraft (electionId : String) (b : Ballot) : Draft :=
  if b.Abstains then
    { kind := ABSTAINED
      payload := [("election_id", .str electionId), ("agent_id", .str b.voterId),
        ("reason", .str "below_threshold"), ("max_utility", FloatValue.ofRat b.maxUtility),
        ("origin", .str b.origin), ("utility", utilityValue b.utility)]
      actorId := some b.voterId }
  else
    { kind := VOTE_CAST
      payload := [("election_id", .str electionId), ("voter_id", .str b.voterId),
        ("candidacy_id", Value.ofStr? b.choice), ("ranking", Value.strs b.ranking),
        ("approvals", Value.strs b.approvals), ("origin", .str b.origin),
        ("utility", utilityValue b.utility)]
      actorId := some b.voterId
      subjectIds := [b.voterId, electionId] }

/-- The candidacies a ballot refers to. -/
def referenced (b : Ballot) : List String := b.choice.toList ++ b.ranking ++ b.approvals

/-- `cast`. -/
def cast (electionId : String) (b : Ballot) (tick : Int) : PolityM L (List (Events.Event Value)) := do
  let s ← get
  require (hasVoted s b.voterId electionId = false) (.py (.value "voter has already voted"))
  require (∀ id ∈ referenced b, id ∈ (s.repo.openCandidacies electionId).map Candidacy.candidacyId)
    (.py (.value "ballot references a candidacy outside this election"))
  modify fun s => s.withRepo (s.repo.putBallot electionId b)
  let event ← E.emit (ballotDraft electionId b) tick
  pure [event]

/-! ### Holding an election -/

/-- The voters of an election who have not voted. -/
def pendingVoters (s : PolityState L) (election : Election) : List String :=
  election.electorateIds.filter fun v => !hasVoted s v election.electionId

/-- How many voters are asked for a deliberate ballot. -/
def deliberateBudget (pending : List String) : Except PyError Nat :=
  if E.cfg.llmElectionMultiplier = 0 then .error .zeroDivision
  else .ok (max 1 (Kernel.pyRound (pending.length / E.cfg.llmElectionMultiplier))).toNat

/-- The deliberate ballots and the voters left to the vote model. -/
structure Electors where
  deliberate : List Ballot
  reflex : List String

/-- The split of the pending voters. -/
def electors (s : PolityState L) (election : Election) (tick : Int) : Except PyError Electors :=
  let pending := pendingVoters s election
  match E.deliberateBallots with
  | none => .ok { deliberate := [], reflex := pending }
  | some ask => do
    let budget ← E.deliberateBudget pending
    let ballots := (pending.take budget).filterMap fun v =>
      ask v (s.repo.openCandidacies election.electionId) tick
    let deliberate := ballots.map fun b => { b with origin := "deliberate" }
    pure
      { deliberate
        reflex := pending.filter fun v => v ∉ deliberate.map Ballot.voterId }

/-- The fit of an election: the prior at the first, and the rows of the
deliberate choices later. -/
def fitFor (s : PolityState L) (election : Election) (deliberate : List Ballot) (tick : Int) :
    FitResult :=
  if s.resolvedElections = 0 then
    { omega := E.cfg.omegaPrior, logLikelihood := 0, holdoutAccuracy := 0,
      nDeliberate := deliberate.length, usable := true }
  else
    E.voteModel.fit (deliberate.filterMap fun b => b.choice.map fun choice =>
      (b.voterId, choice, (s.repo.openCandidacies election.electionId).map fun c =>
        (c.candidacyId, E.voteModel.features s b.voterId c tick)))

/-- The event that calls an election again. -/
def rerunDraft (rerun : Election) (tick : Int) : Draft :=
  { kind := ELECTION_CALLED
    payload := [("election_id", .str rerun.electionId), ("office", .str rerun.office),
      ("seats", .int rerun.seats), ("method", .str rerun.method.text),
      ("called_tick", .int tick), ("voting_tick", .int rerun.votingTick),
      ("campaign_ends_tick", .int rerun.campaignEndsTick),
      ("electorate_size", .int rerun.electorateIds.length),
      ("rerun_reason", .str "unusable_reflex_fit")] }

/-- The branch of `hold` for an unusable fit. -/
def callAgain (election : Election) (tick : Int) : PolityM L (List (Events.Event Value)) := do
  let rerun := { election with
    votingTick := tick + E.journal.clock.ticksFor { weeks := 1 }
    campaignEndsTick := tick
    resolved := false }
  modify fun s => s.withRepo (s.repo.putElection rerun)
  let event ← E.emit (rerunDraft rerun tick) tick
  pure [event]

/-- A ballot of the vote model, cast. -/
def castReflex (election : Election) (candidacies : List Candidacy) (omega : Dict String ℚ)
    (tick : Int) (voterId : String) : PolityM L (List (Events.Event Value)) := do
  let s ← get
  E.cast election.electionId (E.voteModel.choose E.cfg s voterId candidacies omega tick) tick

/-- The event of a resolved election. -/
def resolvedDraft (election : Election) (t : Tally) (turnout : ℚ) (voters : Electors)
    (fit : FitResult) (first : Bool) : Draft :=
  { kind := ELECTION_RESOLVED
    payload := [("election_id", .str election.electionId),
      ("method", .str election.method.text), ("tallies", Value.ints t.counts.entries),
      ("winner_ids", Value.strs t.winnerIds), ("turnout", FloatValue.ofRat turnout),
      ("margin", FloatValue.ofRat t.margin),
      ("rounds", .list (t.rounds.map fun row => Value.ints row.entries)),
      ("n_deliberate", .int voters.deliberate.length), ("n_reflex", .int voters.reflex.length),
      ("fitted_omega", .dict (fit.omega.entries.map fun e => (e.1, FloatValue.ofRat e.2))),
      ("holdout_accuracy", FloatValue.ofRat fit.holdoutAccuracy),
      ("first_election_prior", .bool first)]
    subjectIds := election.electionId :: t.winnerIds }

/-- The deposits that go back: candidacy, agent and cents. -/
def refundable (repo : ElectionRepository) (electionId : String) (t : Tally) :
    Except PyError (List (String × String × Int)) := do
  let rows ← repo.deposits.sortedEntries.mapM fun e =>
    match repo.candidacies.get? e.1 with
    | none => .error (.key e.1)
    | some c => .ok (if c.electionId ≠ electionId ∨ e.2.2.2 = true ∨ t.counts.sum = 0
        ∨ (t.counts.getD e.1 0 : ℚ) / t.counts.sum < E.cfg.depositRefundShare then []
      else [(e.1, e.2.1, e.2.2.1)])
  pure rows.flatten

/-- The event of the refunds. -/
def refundDraft (electionId : String) (rows : List (String × String × Int)) (txnId : Value) :
    Draft :=
  { kind := CANDIDACY_DEPOSITS_REFUNDED
    payload := [("election_id", .str electionId),
      ("refunds", .list ((rows.filter fun r => 0 < r.2.2).map fun r =>
        .dict [("candidacy_id", .str r.1), ("agent_id", .str r.2.1),
          ("amount_cents", .int r.2.2)])),
      ("txn_id", txnId)]
    subjectIds := electionId :: rows.map fun r => r.2.1 }

/-- The repository with the ballots of another one. -/
def restoreBallots (repo prior : ElectionRepository) : ElectionRepository :=
  { repo with ballots := prior.ballots, ballot_keyed := prior.ballot_keyed }

/-- Refunds, paid in one posting; when it raises, the ballots of the election
are taken back as well. -/
def refund (electionId : String) (rows : List (String × String × Int))
    (prior : ElectionRepository) (tick : Int) : PolityM L (List (Events.Event Value)) :=
  let positive := rows.filter fun r => 0 < r.2.2
  onlyIf (positive ≠ []) fun s =>
    match zoom PolityState.books PolityState.withBooks
        (stagePosted E.ledger E.journal True (.str "") (refundDraft electionId rows)
          (positive.map fun r => (E.treasuryId, r.2.1, r.2.2)) "transfer"
          "deposit refund transaction ordinal diverged" tick) s with
    | .ok event s' => .ok [event] s'
    | .error (.posting e) s' => .error (.posting e) (s'.withRepo (restoreBallots s'.repo prior))
    | .error f s' => .error f s'

/-- A refunded deposit. -/
def markRefunded (repo : ElectionRepository) (row : String × String × Int) : ElectionRepository :=
  { repo with deposits := repo.deposits.put row.1 (row.2.1, row.2.2, true) }

/-- The votes of one candidacy, in every register. -/
def withVotes (c : Candidacy) (votes : Int) (s : PolityState L) : PolityState L :=
  { s with
    repo := s.repo.putCandidacy { c with votes }
    parties := s.parties.noteVotes c.agentId votes
    offices := s.offices.noteVotes c.agentId votes }

/-- One turn of the loop that notes votes. -/
def noteVotes (row : String × Int) : PolityM L Unit := do
  let s ← get
  match s.repo.candidacies.get? row.1 with
  | none => throw (.py (.key row.1))
  | some c => modify (withVotes c row.2)

/-- The event of an office assumed. -/
def assumedDraft (office agentId via : String) (tick : Int) (termEnd : Option Int)
    (salary : Int) : Draft :=
  { kind := OFFICE_ASSUMED
    payload := [("office", .str office), ("agent_id", .str agentId), ("via", .str via),
      ("term_start_tick", .int tick), ("term_end_tick", Value.ofInt? termEnd),
      ("salary_cents", .int salary)]
    actorId := some agentId
    subjectIds := [agentId] }

/-- The register with a new holder. -/
def installed (office agentId : String) (row : Int × Option Int × Int) (s : PolityState L) :
    PolityState L := { s with offices := s.offices.install office agentId row }

/-- A winner assumes the office: `OfficeRegister.assume`. -/
def assume (election : Election) (tick : Int) (candidacyId : String) :
    PolityM L (List (Events.Event Value)) := do
  let s ← get
  match s.repo.candidacies.get? candidacyId, E.cfg.offices.get? election.office with
  | some c, some office => do
    let termEnd := office.termSimYears.map fun n => tick + E.journal.clock.ticksFor { years := n }
    modify (installed election.office c.agentId (tick, termEnd, office.salaryCents))
    let event ← E.emit (assumedDraft election.office c.agentId election.electionId tick termEnd
      office.salaryCents) tick
    pure [event]
  | none, _ => throw (.py (.key candidacyId))
  | _, none => throw (.py (.key election.office))

/-- The end of `hold`. -/
def closeElection (election : Election) (candidacies : List Candidacy) (s : PolityState L) :
    PolityState L :=
  { s with
    parties := s.parties.closeElectionCycle (candidacies.map Candidacy.partyId)
    repo := s.repo.putElection { election with resolved := true }
    resolvedElections := s.resolvedElections + 1 }

/-- The tally `hold` counts. -/
def tallyOf (s : PolityState L) (election : Election) : Tally :=
  tally (E.draw election.electionId election.votingTick)
    (s.repo.openCandidacies election.electionId) election (s.repo.ballotsOf election.electionId)

/-- The part of `hold` behind the ballots. -/
def resolve (election : Election) (voters : Electors) (fit : FitResult)
    (prior : PolityState L) (tick : Int) : PolityM L (List (Events.Event Value)) := do
  let s ← get
  let t := E.tallyOf s election
  let resolved ← E.emit (resolvedDraft election t (s.repo.turnout election.electionId) voters fit
    (prior.resolvedElections = 0)) tick
  let rows ← liftPy (E.refundable s.repo election.electionId t)
  let refunds ← E.refund election.electionId rows prior.repo tick
  modify fun s => s.withRepo (rows.foldl markRefunded s.repo)
  each noteVotes t.counts.entries
  let assumed ← gather (E.assume election tick) t.winnerIds
  modify (closeElection election (prior.repo.openCandidacies election.electionId))
  pure (resolved :: refunds ++ assumed)

/-- `hold`. -/
def hold (electionId : String) (tick : Int) : PolityM L (List (Events.Event Value)) := do
  let s ← get
  match s.repo.elections.get? electionId with
  | none => throw (.py (.key electionId))
  | some election => do
    let voters ← liftPy (E.electors s election tick)
    let fit := E.fitFor s election voters.deliberate tick
    if fit.usable = false then E.callAgain election tick
    else do
      let deliberate ← gather (fun b => E.cast electionId b tick) voters.deliberate
      let reflex ← gather (E.castReflex election (s.repo.openCandidacies electionId) fit.omega tick)
        voters.reflex
      let rest ← E.resolve election voters fit s tick
      pure (deliberate ++ reflex ++ rest)

end ElectionOffice

end Polis.Society
