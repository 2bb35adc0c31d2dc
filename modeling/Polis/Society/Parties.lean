/-
  Polis.Society.Parties — founding, joining and leaving parties
  (`PartyRegistry`, `society/polity.py`).

  Every operation on the registers keeps the two facts a `PartyState` carries:
  a member's party is one of the registry, and so are its founders.
-/
import Polis.Society.PolityState

namespace Polis.Society

open Lib Lib.Effect Polis.Events

attribute [local instance] intOrder

/-- `FoundPartyParams`. -/
structure FoundPartyParams where
  name : String
  platform : Platform
  foundingMemberIds : List String

/-- What a `PartyRegistry` is built with; `beliefs` is the value an agent
gives a proposition. -/
structure PartyRegistry (L : Type) where
  journal : Journal
  beliefs : String → String → ℚ
  cfg : PolitySettings
  ledger : SocietyLedger L
  treasuryId : String := "gv_treasury"

/-! ## Registers -/

namespace PartyState

/-- `get`. -/
def get (s : PartyState) (partyId : String) : Option Party := s.parties.get? partyId

/-- `membership`. -/
def memberOf (s : PartyState) (agentId : String) : Option String := s.membership.get? agentId

/-- `live`, by identifier. -/
def live (s : PartyState) : List Party :=
  (s.parties.sortedEntries.map Prod.snd).filter fun p => p.dissolvedTick.isNone

/-- `note_votes`. -/
def noteVotes (s : PartyState) (agentId : String) (votes : Int) : PartyState :=
  { s with votesReceived :=
      s.votesReceived.put agentId (s.votesReceived.getD agentId 0 + max 0 votes) }

/-- The cycles without a candidate, after one more election. -/
def countCycle (fielded : List (Option String)) (cycles : Dict String Int) (p : Party) :
    Dict String Int :=
  cycles.put p.partyId (if some p.partyId ∈ fielded then 0 else cycles.getD p.partyId 0 + 1)

/-- `close_election_cycle`. -/
def closeElectionCycle (s : PartyState) (partyIds : List (Option String)) : PartyState :=
  { s with candidateCycles := s.live.foldl (countCycle partyIds) s.candidateCycles }

/-- `_leader`: the member with most votes, the first of equals. -/
def leader (s : PartyState) (members : List String) : Option String :=
  members.argmin fun agentId => toLex (-(s.votesReceived.getD agentId 0), agentId)

/-- The attempt `found` counts before its checks. -/
def attempt (s : PartyState) : PartyState := { s with foundingAttempts := s.foundingAttempts + 1 }

/-- A new party, with its founder as its member. -/
def add (s : PartyState) (party : Party) (foundingIds : List String) (founderId : String) :
    PartyState :=
  { s with
    parties := s.parties.put party.partyId party
    foundingMembers := s.foundingMembers.put party.partyId foundingIds
    membership := s.membership.put founderId party.partyId
    member_known := by
      intro agentId partyId h
      unfold Dict.contains
      rw [Dict.get?_put] at h ⊢
      by_cases hid : partyId = party.partyId
      · rw [if_pos hid]
        rfl
      · rw [if_neg hid]
        by_cases hagent : agentId = founderId
        · rw [if_pos hagent] at h
          exact absurd (Option.some.inj h).symm hid
        · rw [if_neg hagent] at h
          exact s.member_known agentId partyId h
    founding_known := by
      intro partyId h
      unfold Dict.contains at h ⊢
      rw [Dict.get?_put] at h ⊢
      by_cases hid : partyId = party.partyId
      · rw [if_pos hid]
        rfl
      · rw [if_neg hid] at h ⊢
        exact s.founding_known partyId h }

theorem contains_modify {d : Dict String Party} {k x : String} {g : Party → Party} :
    (d.modify k g).contains x = d.contains x := by
  unfold Dict.contains
  rw [Dict.get?_modify]
  by_cases h : x = k
  · subst h
    rw [if_pos rfl, Option.isSome_map]
  · rw [if_neg h]

/-- The members of a party, rewritten, with their leader. -/
def setMembers (s : PartyState) (partyId : String) (members : List String) : PartyState :=
  { s with
    parties := s.parties.modify partyId fun p =>
      { p with memberIds := members, leaderId := s.leader members }
    member_known := by
      intro agentId id h
      rw [contains_modify]
      exact s.member_known agentId id h
    founding_known := by
      intro id h
      rw [contains_modify] at h
      exact s.founding_known id h }

/-- The members of a party of the registry. -/
def membersOf (s : PartyState) (partyId : String) : List String :=
  ((s.parties.get? partyId).map Party.memberIds).getD []

/-- The registers without a member: `leave` up to its event. -/
def withdraw (s : PartyState) (agentId partyId : String) (tick : Int) : PartyState :=
  let members := (s.membersOf partyId).filter fun m => m ≠ agentId
  let s' := s.setMembers partyId members
  { s' with
    membership := s'.membership.erase agentId
    belowMinSince :=
      if members.length < 3 ∧ s'.belowMinSince.contains partyId = false then
        s'.belowMinSince.put partyId tick else s'.belowMinSince
    member_known := by
      intro agent id h
      rw [Dict.get?_erase] at h
      by_cases hagent : agent = agentId
      · rw [if_pos hagent] at h
        cases h
      · rw [if_neg hagent] at h
        exact s'.member_known agent id h }

/-- The registers with a member more: `join` up to its event.  Only a party of
the registry is joined. -/
def enrol (s : PartyState) (agentId partyId : String) : PartyState :=
  let members := (s.membersOf partyId ++ [agentId]).insertionSort (· ≤ ·)
  let s' := s.setMembers partyId members
  { s' with
    membership :=
      if s'.parties.contains partyId = true then s'.membership.put agentId partyId
      else s'.membership
    ratified :=
      if ∀ m ∈ s'.foundingMembers.getD partyId [], m ∈ members then partyId :: s'.ratified
      else s'.ratified
    belowMinSince := s'.belowMinSince.erase partyId
    member_known := by
      intro agent id h
      by_cases hknown : s'.parties.contains partyId = true
      · rw [if_pos hknown, Dict.get?_put] at h
        by_cases hagent : agent = agentId
        · rw [if_pos hagent] at h
          cases h
          exact hknown
        · rw [if_neg hagent] at h
          exact s'.member_known agent id h
      · rw [if_neg hknown] at h
        exact s'.member_known agent id h }

end PartyState

/-! ## Operations -/

namespace PartyRegistry

variable {L : Type} [CanonicalJson Value] [Events.Sha256] [PayloadSchemas Value] [FloatValue]
  (R : PartyRegistry L)

/-- `_emit`. -/
def emit (d : Draft) (tick : Int) : PolityM L (Events.Event Value) :=
  zoom PolityState.books PolityState.withBooks (Books.emit R.journal d tick)

/-- The founding members of a party, the founder among them. -/
def foundingIds (founderId : String) (params : FoundPartyParams) : List String :=
  let given := sortedSet params.foundingMemberIds
  if founderId ∈ given then given else (given ++ [founderId]).insertionSort (· ≤ ·)

/-- The identifier of a new party. -/
def partyIdOf [Uuid5] (founderId : String) (params : FoundPartyParams) (tick : Int) : String :=
  Kernel.detUuid "polis.party" [founderId, params.name, toString tick]

/-- The new party. -/
def newParty (partyId founderId : String) (params : FoundPartyParams) (tick : Int) : Party :=
  { partyId, name := params.name, platform := params.platform.sort, foundedTick := tick,
    dissolvedTick := none, memberIds := [founderId], leaderId := some founderId }

/-- The event of a new party. -/
def foundedDraft (party : Party) (founderId : String) (foundingIds : List String) (fee : Int)
    (txnId : Value) : Draft :=
  { kind := PARTY_FOUNDED
    payload := [("party_id", .str party.partyId), ("founder_id", .str founderId),
      ("name", .str party.name), ("platform", party.platform.value),
      ("founding_member_ids", Value.strs foundingIds), ("fee_cents", .int fee),
      ("txn_id", txnId)]
    actorId := some founderId
    subjectIds := party.partyId :: foundingIds }

/-- `found`. -/
def found [Uuid5] (founderId : String) (params : FoundPartyParams) (tick : Int) :
    PolityM L (List (Events.Event Value)) := do
  modify fun s => s.withParties s.parties.attempt
  require (3 ≤ (sortedSet params.foundingMemberIds).length)
    (.py (.value "a party requires at least three founding members"))
  require (params.platform.entries.length ≤ R.cfg.maxPlatformPlanks)
    (.py (.value "party platform exceeds max_platform_planks"))
  let partyId := partyIdOf founderId params tick
  let s ← get
  require (s.parties.parties.contains partyId = false) (.py (.value "party already exists"))
  let fee := R.cfg.partyFoundingFeeCents
  let party := newParty partyId founderId params tick
  let ids := foundingIds founderId params
  let event ← zoom PolityState.books PolityState.withBooks
    (stagePosted R.ledger R.journal (fee ≠ 0) (.str "") (foundedDraft party founderId ids fee)
      [(founderId, R.treasuryId, fee)] "transfer" "party founding transaction ordinal diverged"
      tick)
  modify fun s => s.withParties (s.parties.add party ids founderId)
  pure [event]

/-- `_alignment`. -/
def alignment (agentId : String) (party : Party) : ℚ :=
  let distances := party.platform.sortedEntries.map fun e => |R.beliefs agentId e.1 - e.2|
  if distances = [] then 0
  else Kernel.round6 (1 - distances.sum / (2 * distances.length))

/-- The event of a member that leaves. -/
def leftDraft (agentId partyId reason : String) : Draft :=
  { kind := PARTY_LEFT
    payload := [("agent_id", .str agentId), ("party_id", .str partyId), ("reason", .str reason)]
    actorId := some agentId
    subjectIds := [agentId, partyId] }

/-- `leave`; the party of a member is one of the registry. -/
def leave (agentId reason : String) (tick : Int) : PolityM L (List (Events.Event Value)) := do
  let s ← get
  match s.parties.memberOf agentId with
  | none => pure []
  | some partyId => do
    modify fun s => s.withParties (s.parties.withdraw agentId partyId tick)
    let event ← R.emit (leftDraft agentId partyId reason) tick
    pure [event]

/-- The event of a new member. -/
def joinedDraft (agentId partyId : String) (alignment : ℚ) (prior : Option String) : Draft :=
  { kind := PARTY_JOINED
    payload := [("agent_id", .str agentId), ("party_id", .str partyId),
      ("alignment_score", FloatValue.ofRat alignment), ("prior_party_id", Value.ofStr? prior)]
    actorId := some agentId
    subjectIds := [agentId, partyId] }

/-- `join`; a party that is not dissolved has a platform that joining does not
change. -/
def join (agentId partyId : String) (tick : Int) : PolityM L (List (Events.Event Value)) := do
  let s ← get
  match (s.parties.get partyId).filter fun p => p.dissolvedTick.isNone with
  | none => throw (.py (.value "party is not live"))
  | some party =>
    let prior := s.parties.memberOf agentId
    if prior = some partyId then pure []
    else do
      let left ← R.leave agentId "switched" tick
      modify fun s => s.withParties (s.parties.enrol agentId partyId)
      let event ← R.emit (joinedDraft agentId partyId (R.alignment agentId party) prior) tick
      pure (left ++ [event])

end PartyRegistry

end Polis.Society
