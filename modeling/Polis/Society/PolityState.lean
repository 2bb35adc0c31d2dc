/-
  Polis.Society.PolityState — parties, elections and offices as data
  (`society/polity.py`).

  The registries share one log and one ledger.  Members belong to parties of
  the registry, ballots are kept under their voter, candidacies under their
  identifier.

  Main results:
    * `mem_openCandidacies` — the candidacies of an election.
-/
import Polis.Society.Policy
import Polis.Society.Posting
import Mathlib.Data.List.Dedup

namespace Polis.Society

open Lib Lib.Effect Polis.Events

/-! ## Event kinds -/

def PARTY_FOUNDED : Int := 12001
def PARTY_JOINED : Int := 12002
def PARTY_LEFT : Int := 12003
def ELECTION_CALLED : Int := 12010
def CANDIDACY_ANNOUNCED : Int := 12011
def CAMPAIGN_SPEND : Int := 12012
def CANDIDACY_DEPOSITS_REFUNDED : Int := 12013
def VOTE_CAST : Int := 12020
def ABSTAINED : Int := 12021
def ELECTION_RESOLVED : Int := 12022
def OFFICE_ASSUMED : Int := 12023

/-! ## Settings -/

/-- The four election methods. -/
inductive ElectionMethod where
  | plurality | approval | irv | proportional
  deriving Repr, DecidableEq

def ElectionMethod.text : ElectionMethod → String
  | .plurality => "plurality"
  | .approval => "approval"
  | .irv => "irv"
  | .proportional => "proportional"

/-- `PolityOfficeSettings`. -/
structure OfficeSettings where
  seats : Nat := 1
  termSimYears : Option Nat := none
  method : Option ElectionMethod := none
  salaryCents : Int := 0
  deriving Repr, DecidableEq

/-- `PolitySettings`, with the fields the registries read. -/
structure PolitySettings where
  electionMethod : ElectionMethod := .plurality
  offices : Dict String OfficeSettings
  campaignLengthSimDays : Nat := 30
  candidacyDepositCents : Int := 250000
  depositRefundShare : ℚ := 1 / 20
  candidacyRecordBar : List String := ["fraud", "embezzlement", "perjury"]
  partyFoundingFeeCents : Int := 100000
  maxPlatformPlanks : Nat := 8
  initiativeSignatures : Nat := 50
  outletEfficiency : ℚ := 3 / 5
  abstainTheta0 : ℚ := 7 / 20
  abstainThetaConscientiousness : ℚ := 3 / 20
  abstainThetaCivic : ℚ := 1 / 10
  omegaPrior : Dict String ℚ
  llmElectionMultiplier : ℚ := 6

/-! ## Parties -/

/-- A platform: stances by proposition. -/
abbrev Platform := Dict String ℚ

/-- `Party`. -/
structure Party where
  partyId : String
  name : String
  platform : Platform
  foundedTick : Int
  dissolvedTick : Option Int
  memberIds : List String
  leaderId : Option String

theorem noMember_unknown (agentId partyId : String) :
    (∅ : Dict String String).get? agentId = some partyId →
      (∅ : Dict String Party).contains partyId = true := by
  intro h
  cases h

theorem noParty_unfounded (partyId : String) : (∅ : Dict String Party).contains partyId = true →
    (∅ : Dict String (List String)).contains partyId = true := by
  intro h
  cases h

/-- The registers of a `PartyRegistry`. -/
structure PartyState where
  parties : Dict String Party := ∅
  membership : Dict String String := ∅
  foundingMembers : Dict String (List String) := ∅
  ratified : List String := []
  belowMinSince : Dict String Int := ∅
  candidateCycles : Dict String Int := ∅
  votesReceived : Dict String Int := ∅
  foundingAttempts : Nat := 0
  member_known : ∀ agentId partyId, membership.get? agentId = some partyId →
    parties.contains partyId = true := by
      exact noMember_unknown
  founding_known : ∀ partyId, parties.contains partyId = true →
    foundingMembers.contains partyId = true := by
      exact noParty_unfounded

/-! ## Elections -/

/-- `Candidacy`. -/
structure Candidacy where
  candidacyId : String
  electionId : String
  agentId : String
  partyId : Option String
  platform : Platform
  spendCents : Int
  votes : Int

/-- `Ballot`; its origin is `"deliberate"` or `"reflex"`. -/
structure Ballot where
  voterId : String
  choice : Option String
  ranking : List String := []
  approvals : List String := []
  origin : String := "reflex"
  utility : Dict String ℚ := ∅
  maxUtility : ℚ := 0

/-- A ballot that marks nothing. -/
def Ballot.Abstains (b : Ballot) : Prop := b.choice = none ∧ b.ranking = [] ∧ b.approvals = []

instance (b : Ballot) : Decidable b.Abstains := inferInstanceAs (Decidable (_ ∧ _ ∧ _))

/-- `Election`. -/
structure Election where
  electionId : String
  office : String
  seats : Nat
  method : ElectionMethod
  calledTick : Int
  votingTick : Int
  campaignEndsTick : Int
  electorateIds : List String
  resolved : Bool := false

theorem noElection_keyed (id : String) (e : Election) :
    (∅ : Dict String Election).get? id = some e → e.electionId = id := by
  intro h
  cases h

theorem noCandidacy_keyed (id : String) (c : Candidacy) :
    (∅ : Dict String Candidacy).get? id = some c → c.candidacyId = id := by
  intro h
  cases h

theorem noBallot_keyed (key : String × String) (b : Ballot) :
    (∅ : Dict (String × String) Ballot).get? key = some b → b.voterId = key.2 := by
  intro h
  cases h

/-- `MemoryElectionRepository`; elections and candidacies are kept by their
identifier, ballots by election and voter. -/
structure ElectionRepository where
  elections : Dict String Election := ∅
  candidacies : Dict String Candidacy := ∅
  ballots : Dict (String × String) Ballot := ∅
  deposits : Dict String (String × Int × Bool) := ∅
  eligibleCounts : Dict String Int := ∅
  election_keyed : ∀ id e, elections.get? id = some e → e.electionId = id := by
    exact noElection_keyed
  candidacy_keyed : ∀ id c, candidacies.get? id = some c → c.candidacyId = id := by
    exact noCandidacy_keyed
  ballot_keyed : ∀ key b, ballots.get? key = some b → b.voterId = key.2 := by
    exact noBallot_keyed

namespace ElectionRepository

/-- `open_candidacies` of one election, by identifier. -/
def openCandidacies (repo : ElectionRepository) (electionId : String) : List Candidacy :=
  (repo.candidacies.values.insertionSort fun a b => a.candidacyId ≤ b.candidacyId).filter
    fun c => c.electionId = electionId

theorem mem_openCandidacies {repo : ElectionRepository} {electionId : String} {c : Candidacy} :
    c ∈ repo.openCandidacies electionId ↔
      repo.candidacies.get? c.candidacyId = some c ∧ c.electionId = electionId := by
  unfold openCandidacies
  rw [List.mem_filter, List.mem_insertionSort, Dict.mem_values_iff, decide_eq_true_iff]
  constructor
  · rintro ⟨⟨id, hid⟩, he⟩
    rw [repo.candidacy_keyed id c hid]
    exact ⟨hid, he⟩
  · rintro ⟨hid, he⟩
    exact ⟨⟨c.candidacyId, hid⟩, he⟩

/-- The repository with an election. -/
def putElection (repo : ElectionRepository) (e : Election) : ElectionRepository :=
  { repo with
    elections := repo.elections.put e.electionId e
    election_keyed := by
      intro id d h
      rw [Dict.get?_put] at h
      by_cases hid : id = e.electionId
      · rw [if_pos hid] at h
        cases h
        exact hid.symm
      · rw [if_neg hid] at h
        exact repo.election_keyed id d h }

/-- The repository with a candidacy. -/
def putCandidacy (repo : ElectionRepository) (c : Candidacy) : ElectionRepository :=
  { repo with
    candidacies := repo.candidacies.put c.candidacyId c
    candidacy_keyed := by
      intro id d h
      rw [Dict.get?_put] at h
      by_cases hid : id = c.candidacyId
      · rw [if_pos hid] at h
        cases h
        exact hid.symm
      · rw [if_neg hid] at h
        exact repo.candidacy_keyed id d h }

/-- The repository with a ballot. -/
def putBallot (repo : ElectionRepository) (electionId : String) (b : Ballot) :
    ElectionRepository :=
  { repo with
    ballots := repo.ballots.put (electionId, b.voterId) b
    ballot_keyed := by
      intro key d h
      rw [Dict.get?_put] at h
      by_cases hkey : key = (electionId, b.voterId)
      · rw [if_pos hkey] at h
        cases h
        rw [hkey]
      · rw [if_neg hkey] at h
        exact repo.ballot_keyed key d h }

/-- The ballots of an election, by voter. -/
def ballotsOf (repo : ElectionRepository) (electionId : String) : List Ballot :=
  ((repo.ballots.entries.filter fun e => e.1.1 = electionId).insertionSort
    fun a b => a.1.2 ≤ b.1.2).map Prod.snd

/-- `turnout`. -/
def turnout (repo : ElectionRepository) (electionId : String) : ℚ :=
  let eligible := repo.eligibleCounts.getD electionId 0
  if eligible = 0 then 0
  else
    let cast := (repo.ballotsOf electionId).countP fun b => ¬b.Abstains
    Kernel.round6 (cast / eligible)

end ElectionRepository

/-! ## Offices -/

/-- The registers of an `OfficeRegister`: term and salary by office and
holder. -/
structure OfficeState where
  holders : Dict String (Dict String (Int × Option Int × Int)) := ∅
  lastVotes : Dict String Int := ∅

namespace OfficeState

/-- A row of the register is in its term. -/
def InTerm (row : Int × Option Int × Int) (tick : Int) : Prop :=
  row.1 ≤ tick ∧ ∀ stop ∈ row.2.1, tick < stop

instance (row : Int × Option Int × Int) (tick : Int) : Decidable (InTerm row tick) :=
  inferInstanceAs (Decidable (_ ∧ _))

/-- `holds_office`. -/
def holdsOffice (s : OfficeState) (agentId : String) (tick : Int) : Option String :=
  (s.holders.sortedEntries.find? fun e =>
    (e.2.get? agentId).any fun row => decide (InTerm row tick)).map Prod.fst

/-- `note_votes`. -/
def noteVotes (s : OfficeState) (agentId : String) (votes : Int) : OfficeState :=
  { s with lastVotes := s.lastVotes.put agentId votes }

/-- The register with a holder. -/
def install (s : OfficeState) (office agentId : String) (row : Int × Option Int × Int) :
    OfficeState :=
  { s with holders := s.holders.put office ((s.holders.getD office ∅).put agentId row) }

end OfficeState

/-! ## The polity -/

/-- What the registries, the election office and the resolver change. -/
structure PolityState (L : Type) where
  books : Books L
  parties : PartyState := {}
  repo : ElectionRepository := {}
  offices : OfficeState := {}
  /-- `ExposureLedger._rows`: by agent and candidacy. -/
  exposure : Dict (String × String) (List (Int × String)) := ∅
  resolvedElections : Nat := 0
  runtime : RuntimeConfig := {}
  policies : PolicyRepository := {}

abbrev PolityM (L : Type) := EStateM Fault (PolityState L)

namespace PolityState

variable {L : Type}

def withBooks (s : PolityState L) (books : Books L) : PolityState L := { s with books }

def withParties (s : PolityState L) (parties : PartyState) : PolityState L := { s with parties }

def withRepo (s : PolityState L) (repo : ElectionRepository) : PolityState L := { s with repo }

end PolityState

/-- `sorted(set(ids))`. -/
def sortedSet (ids : List String) : List String := ids.dedup.insertionSort (· ≤ ·)

@[simp] theorem mem_sortedSet {x : String} {ids : List String} : x ∈ sortedSet ids ↔ x ∈ ids := by
  unfold sortedSet
  rw [List.mem_insertionSort, List.mem_dedup]

/-- A platform as the payload of an event. -/
def Platform.value [FloatValue] (p : Platform) : Value :=
  .dict (p.sortedEntries.map fun e => (e.1, FloatValue.ofRat e.2))

end Polis.Society
