/-
  Polis.Society.PartyRuns — party membership over whole runs
  (`PartyRegistry`, `society/polity.py`).

  A run founds, joins, leaves and dissolves parties in any order, and counts
  votes and election cycles in between.  The registry holds the members of
  each party, a second map holds the party of each member.

  Main results:
    * `leave_parties`, `join_parties`, `found_eq_ok`, `dissolveIfStale_parties`
      — everything an operation can do to the registers.
    * `members_partition` — in every run in which no founder is a member of a
      party, the two maps agree, nobody is in two live parties, and the leader
      of a party is one of its members.
    * `founder_in_two` — a member who founds a party is in two of them.
-/
import Polis.Society.Kinds
import Polis.Society.Parties

namespace Polis.Society

open Lib Lib.Effect Polis.Events

/-! ## Dissolution -/

namespace PartyState

/-- The registers with a party dissolved: one turn of `dissolve_stale` up to
its event.  A dissolved party stays in the registry with its members. -/
def dissolve (s : PartyState) (partyId : String) (members : List String) (tick : Int) :
    PartyState :=
  { s with
    parties := s.parties.modify partyId fun p => { p with dissolvedTick := some tick }
    membership := members.foldl Dict.erase s.membership
    member_known := by
      intro agentId id h
      rw [Dict.get?_eraseAll] at h
      rw [contains_modify]
      split at h
      · cases h
      · exact s.member_known agentId id h
    founding_known := by
      intro id h
      rw [contains_modify] at h
      exact s.founding_known id h }

/-- `founding_expired`. -/
def FoundingExpired (s : PartyState) (p : Party) (tick : Int) : Prop :=
  p.foundedTick + 1 < tick ∧ p.memberIds.length < 3 ∧ p.partyId ∉ s.ratified ∧
    ¬∀ m ∈ s.foundingMembers.getD p.partyId [], m ∈ p.memberIds

/-- `membership_stale`. -/
def MembershipStale (s : PartyState) (ticksPerSimDay : Nat) (p : Party) (tick : Int) : Prop :=
  p.memberIds.length < 3 ∧
    30 * (ticksPerSimDay : Int) ≤ tick - s.belowMinSince.getD p.partyId tick

/-- `no_candidates`. -/
def NoCandidates (s : PartyState) (p : Party) : Prop :=
  2 ≤ s.candidateCycles.getD p.partyId 0

instance (s : PartyState) (p : Party) (tick : Int) : Decidable (s.FoundingExpired p tick) :=
  inferInstanceAs (Decidable (_ ∧ _ ∧ _ ∧ ¬_))

instance (s : PartyState) (n : Nat) (p : Party) (tick : Int) :
    Decidable (s.MembershipStale n p tick) := inferInstanceAs (Decidable (_ ∧ _))

instance (s : PartyState) (p : Party) : Decidable (s.NoCandidates p) :=
  inferInstanceAs (Decidable (_ ≤ _))

/-- The reason to dissolve a party, when there is one. -/
def staleReason (s : PartyState) (ticksPerSimDay : Nat) (p : Party) (tick : Int) :
    Option String :=
  if s.FoundingExpired p tick then some "founding_unratified"
  else if s.MembershipStale ticksPerSimDay p tick then some "membership_below_three"
  else if s.NoCandidates p then some "no_candidates"
  else none

end PartyState

namespace PartyRegistry

variable {L : Type} [CanonicalJson Value] [Events.Sha256] [PayloadSchemas Value] [FloatValue]
  (R : PartyRegistry L)

/-- The event of a dissolved party. -/
def dissolvedDraft (p : Party) (reason : String) : Draft :=
  { kind := PARTY_DISSOLVED
    payload := [("party_id", .str p.partyId), ("reason", .str reason),
      ("final_membership", .int p.memberIds.length), ("merged_into", .none)]
    subjectIds := p.partyId :: p.memberIds }

/-- One turn of the loop of `dissolve_stale`. -/
def dissolveIfStale (tick : Int) (p : Party) : PolityM L (List (Events.Event Value)) := do
  let s ← get
  match s.parties.staleReason R.journal.clock.ticksPerSimDay p tick with
  | none => pure []
  | some reason => do
    modify fun s => s.withParties (s.parties.dissolve p.partyId p.memberIds tick)
    let event ← R.emit (dissolvedDraft p reason) tick
    pure [event]

/-- `dissolve_stale`. -/
def dissolveStale (tick : Int) : PolityM L (List (Events.Event Value)) := do
  let s ← get
  gather (R.dissolveIfStale tick) s.parties.live

end PartyRegistry

/-! ## The partition -/

namespace PartyState

/-- A party of the registry that is not dissolved. -/
def Live (s : PartyState) (partyId : String) (p : Party) : Prop :=
  s.parties.get? partyId = some p ∧ p.dissolvedTick = none

/-- The map of members and the members of the live parties agree, and a live
party with members is led by one of them. -/
structure Partition (s : PartyState) : Prop where
  members : ∀ agentId partyId, s.memberOf agentId = some partyId ↔
    ∃ p, s.Live partyId p ∧ agentId ∈ p.memberIds
  leaders : ∀ partyId p, s.Live partyId p → p.memberIds ≠ [] →
    ∃ l ∈ p.memberIds, p.leaderId = some l

theorem Partition.disjoint {s : PartyState} (h : s.Partition) {agentId id id' : String}
    {p p' : Party} (hp : s.Live id p) (hm : agentId ∈ p.memberIds) (hp' : s.Live id' p')
    (hm' : agentId ∈ p'.memberIds) : id = id' := by
  have h₁ := (h.members agentId id).mpr ⟨p, hp, hm⟩
  have h₂ := (h.members agentId id').mpr ⟨p', hp', hm'⟩
  exact Option.some.inj (h₁.symm.trans h₂)

/-- What every operation keeps: the partition, and the parties stored under
their own identifiers. -/
structure Kept (s : PartyState) : Prop extends s.Partition where
  keyed : ∀ partyId p, s.parties.get? partyId = some p → p.partyId = partyId

theorem Kept.new : ({} : PartyState).Kept where
  members := by
    intro agentId partyId
    simp [memberOf, Live]
  leaders := by
    intro partyId p h
    cases h.1
  keyed := by
    intro partyId p h
    cases h

theorem Kept.congr {s s' : PartyState} (h : s.Kept) (hparties : s'.parties = s.parties)
    (hmembers : s'.membership = s.membership) : s'.Kept where
  members := by
    intro agentId partyId
    unfold memberOf Live
    rw [hparties, hmembers]
    exact h.members agentId partyId
  leaders := by
    intro partyId p hp
    unfold Live at hp
    rw [hparties] at hp
    exact h.leaders partyId p hp
  keyed := by
    intro partyId p hp
    rw [hparties] at hp
    exact h.keyed partyId p hp

theorem leader_mem {s : PartyState} {members : List String} (h : members ≠ []) :
    ∃ l ∈ members, s.leader members = some l := by
  unfold leader
  cases hl : members.argmin fun agentId => toLex (-(s.votesReceived.getD agentId 0), agentId) with
  | none => exact absurd (List.argmin_eq_none.mp hl) h
  | some l => exact ⟨l, List.argmin_mem hl, rfl⟩

theorem get?_setMembers (s : PartyState) (id x : String) (members : List String) :
    (s.setMembers id members).parties.get? x =
      if x = id then (s.parties.get? id).map fun p =>
        { p with memberIds := members, leaderId := s.leader members }
      else s.parties.get? x := by
  show (s.parties.modify id _).get? x = _
  rw [Dict.get?_modify]

theorem Kept.setMembers {s s' : PartyState} {id : String} {members : List String} {p : Party}
    (h : s.Kept) (hparties : s'.parties = (s.setMembers id members).parties)
    (hlive : s.Live id p)
    (hmembers : ∀ agentId partyId, s'.memberOf agentId = some partyId ↔
      if partyId = id then agentId ∈ members else s.memberOf agentId = some partyId) :
    s'.Kept where
  members := by
    intro agentId partyId
    rw [hmembers]
    unfold Live
    rw [hparties, get?_setMembers]
    by_cases hid : partyId = id
    · rw [if_pos hid, if_pos hid, hlive.1]
      constructor
      · intro hm
        exact ⟨_, ⟨rfl, hlive.2⟩, hm⟩
      · rintro ⟨q, ⟨hq, -⟩, hm⟩
        cases hq
        exact hm
    · rw [if_neg hid, if_neg hid]
      exact h.members agentId partyId
  leaders := by
    intro partyId q hq hne
    unfold Live at hq
    rw [hparties, get?_setMembers] at hq
    by_cases hid : partyId = id
    · rw [if_pos hid, hlive.1] at hq
      cases hq.1
      exact leader_mem hne
    · rw [if_neg hid] at hq
      exact h.leaders partyId q hq hne
  keyed := by
    intro partyId q hq
    rw [hparties, get?_setMembers] at hq
    by_cases hid : partyId = id
    · rw [if_pos hid, hlive.1] at hq
      cases hq
      exact (h.keyed id p hlive.1).trans hid.symm
    · rw [if_neg hid] at hq
      exact h.keyed partyId q hq

theorem membersOf_of_live {s : PartyState} {id : String} {p : Party} (h : s.Live id p) :
    s.membersOf id = p.memberIds := by
  unfold membersOf
  rw [h.1]
  rfl

theorem Kept.withdraw {s : PartyState} {agentId id : String} (h : s.Kept)
    (hm : s.memberOf agentId = some id) (tick : Int) : (s.withdraw agentId id tick).Kept := by
  obtain ⟨p, hlive, -⟩ := (h.members agentId id).mp hm
  have hparties : (s.withdraw agentId id tick).parties
      = (s.setMembers id ((s.membersOf id).filter fun m => m ≠ agentId)).parties := rfl
  apply h.setMembers hparties hlive
  intro b q
  show (s.membership.erase agentId).get? b = some q ↔ _
  rw [Dict.get?_erase, membersOf_of_live hlive]
  by_cases hq : q = id
  · subst hq
    rw [if_pos rfl]
    by_cases hb : b = agentId
    · simp [hb]
    · have hiff := h.members b q
      unfold memberOf at hiff
      rw [if_neg hb, hiff]
      constructor
      · rintro ⟨p', hlive', hb'⟩
        obtain rfl : p = p' := Option.some.inj (hlive.1.symm.trans hlive'.1)
        simp [hb, hb']
      · intro hb'
        simp [hb] at hb'
        exact ⟨p, hlive, hb'⟩
  · rw [if_neg hq]
    by_cases hb : b = agentId
    · -- the member left the one party it was in
      rw [if_pos hb]
      constructor
      · intro hnone
        cases hnone
      · intro hsome
        rw [hb, hm] at hsome
        exact absurd (Option.some.inj hsome).symm hq
    · rw [if_neg hb]
      rfl

theorem memberOf_withdraw (s : PartyState) (agentId id : String) (tick : Int) :
    (s.withdraw agentId id tick).memberOf agentId = none := by
  show (s.membership.erase agentId).get? agentId = none
  rw [Dict.get?_erase, if_pos rfl]

theorem Kept.enrol {s : PartyState} {agentId id : String} {p : Party} (h : s.Kept)
    (hnone : s.memberOf agentId = none) (hlive : s.Live id p) : (s.enrol agentId id).Kept := by
  have hparties : (s.enrol agentId id).parties
      = (s.setMembers id ((s.membersOf id ++ [agentId]).insertionSort (· ≤ ·))).parties := rfl
  have hknown : (s.enrol agentId id).parties.contains id = true := by
    unfold Dict.contains
    rw [hparties]
    rw [get?_setMembers, if_pos rfl, hlive.1]
    rfl
  have hmap : (s.enrol agentId id).membership = s.membership.put agentId id := by
    exact if_pos hknown
  apply h.setMembers hparties hlive
  intro b q
  unfold memberOf
  rw [hmap, Dict.get?_put, List.mem_insertionSort, List.mem_append, List.mem_singleton,
    membersOf_of_live hlive]
  by_cases hb : b = agentId
  · rw [if_pos hb]
    by_cases hq : q = id
    · simp [hq, hb]
    · rw [if_neg hq]
      unfold memberOf at hnone
      rw [hb, hnone]
      simp [Ne.symm hq]
  · rw [if_neg hb]
    by_cases hq : q = id
    · have hiff := h.members b id
      unfold memberOf at hiff
      rw [if_pos hq, hq, hiff]
      constructor
      · rintro ⟨p', hlive', hb'⟩
        obtain rfl : p = p' := Option.some.inj (hlive.1.symm.trans hlive'.1)
        exact Or.inl hb'
      · intro hb'
        exact ⟨p, hlive, hb'.resolve_right hb⟩
    · rw [if_neg hq]

theorem Kept.add {s : PartyState} {party : Party} {ids : List String} {founderId : String}
    (h : s.Kept) (hnone : s.memberOf founderId = none)
    (hfresh : s.parties.get? party.partyId = none) (hlive : party.dissolvedTick = none)
    (hmembers : party.memberIds = [founderId]) (hleader : party.leaderId = some founderId) :
    (s.add party ids founderId).Kept where
  members := by
    intro b q
    show (s.membership.put founderId party.partyId).get? b = some q ↔
      ∃ p, ((s.parties.put party.partyId party).get? q = some p ∧ _) ∧ _
    rw [Dict.get?_put]
    have hiff := h.members b q
    unfold memberOf Live at hiff
    unfold memberOf at hnone
    by_cases hq : q = party.partyId
    · subst hq
      have hold : s.membership.get? b ≠ some party.partyId := by
        intro hb
        obtain ⟨p, ⟨hp, -⟩, -⟩ := hiff.mp hb
        rw [hfresh] at hp
        cases hp
      rw [Dict.get?_put_self]
      by_cases hb : b = founderId
      · simp [hb, hlive, hmembers]
      · simp [hb, hlive, hmembers, hold]
    · rw [Dict.get?_put_of_ne hq, ← hiff]
      by_cases hb : b = founderId
      · rw [if_pos hb, hb, hnone]
        simp [Ne.symm hq]
      · rw [if_neg hb]
  leaders := by
    intro q p hp hne
    change (s.parties.put party.partyId party).get? q = some p ∧ _ at hp
    by_cases hq : q = party.partyId
    · rw [hq, Dict.get?_put_self] at hp
      cases hp.1
      rw [hmembers]
      exact ⟨founderId, List.mem_singleton_self _, hleader⟩
    · rw [Dict.get?_put_of_ne hq] at hp
      exact h.leaders q p hp hne
  keyed := by
    intro q p hp
    change (s.parties.put party.partyId party).get? q = some p at hp
    by_cases hq : q = party.partyId
    · rw [hq, Dict.get?_put_self] at hp
      cases hp
      exact hq.symm
    · rw [Dict.get?_put_of_ne hq] at hp
      exact h.keyed q p hp

theorem Kept.dissolve {s : PartyState} {id : String} {p : Party} (h : s.Kept)
    (hlive : s.Live id p) (tick : Int) : (s.dissolve id p.memberIds tick).Kept := by
  have hget : ∀ x, (s.dissolve id p.memberIds tick).parties.get? x =
      if x = id then some { p with dissolvedTick := some tick } else s.parties.get? x := by
    intro x
    show (s.parties.modify id _).get? x = _
    rw [Dict.get?_modify, hlive.1]
    rfl
  refine ⟨⟨?_, ?_⟩, ?_⟩
  · intro b q
    show (p.memberIds.foldl Dict.erase s.membership).get? b = some q ↔ _
    unfold Live
    rw [Dict.get?_eraseAll, hget]
    have hiff := h.members b q
    unfold memberOf Live at hiff
    by_cases hq : q = id
    · subst hq
      rw [if_pos rfl]
      constructor
      · -- a member that is left over was in another party
        intro hb
        exfalso
        split at hb
        · cases hb
        · next hnot =>
          obtain ⟨p', hlive', hb'⟩ := hiff.mp hb
          obtain rfl : p = p' := Option.some.inj (hlive.1.symm.trans hlive'.1)
          exact hnot hb'
      · rintro ⟨p', ⟨hp', hnone⟩, -⟩
        cases hp'
        cases hnone
    · rw [if_neg hq, ← hiff]
      by_cases hb : b ∈ p.memberIds
      · have hat := (h.members b id).mpr ⟨p, hlive, hb⟩
        unfold memberOf at hat
        rw [if_pos hb, hat]
        simp [Ne.symm hq]
      · rw [if_neg hb]
  · intro q p' hp' hne
    unfold Live at hp'
    rw [hget] at hp'
    by_cases hq : q = id
    · rw [if_pos hq] at hp'
      cases hp'.1
      cases hp'.2
    · rw [if_neg hq] at hp'
      exact h.leaders q p' hp' hne
  · intro q p' hp'
    rw [hget] at hp'
    by_cases hq : q = id
    · rw [if_pos hq] at hp'
      cases hp'
      exact (h.keyed id p hlive.1).trans hq.symm
    · rw [if_neg hq] at hp'
      exact h.keyed q p' hp'

end PartyState

/-! ## What an operation does to the registers -/

namespace PartyRegistry

variable {L : Type} [CanonicalJson Value] [Events.Sha256] [PayloadSchemas Value] [FloatValue]

omit [FloatValue] in
theorem stateAfter_emit (R : PartyRegistry L) (d : Draft) (tick : Int) (s : PolityState L) :
    (stateAfter (R.emit d tick s)).parties = s.parties := by
  unfold emit
  rw [stateAfter_zoom]
  rfl

omit [FloatValue] in
theorem stateAfter_thenEmit (R : PartyRegistry L) (f : PartyState → PartyState) (d : Draft)
    (tick : Int) (s : PolityState L) :
    (stateAfter ((do
      modify fun s => s.withParties (f s.parties)
      let event ← R.emit d tick
      pure [event] : PolityM L (List (Events.Event Value))) s)).parties = f s.parties := by
  show (stateAfter ((do
    let event ← R.emit d tick
    pure [event] : PolityM L _) (s.withParties (f s.parties)))).parties = _
  rw [stateAfter_bind_pure, stateAfter_emit]
  rfl

/-- The registers after `leave`. -/
def left (s : PartyState) (agentId : String) (tick : Int) : PartyState :=
  match s.memberOf agentId with
  | none => s
  | some partyId => s.withdraw agentId partyId tick

omit [FloatValue] in
theorem leave_parties (R : PartyRegistry L) (agentId reason : String) (tick : Int)
    (s : PolityState L) :
    (stateAfter (R.leave agentId reason tick s)).parties = left s.parties agentId tick := by
  unfold leave left
  rw [get_bind]
  cases s.parties.memberOf agentId with
  | none => rfl
  | some partyId =>
    exact R.stateAfter_thenEmit (fun p => p.withdraw agentId partyId tick) _ tick s

theorem join_parties (R : PartyRegistry L) (agentId partyId : String) (tick : Int)
    (s : PolityState L) :
    (stateAfter (R.join agentId partyId tick s)).parties = s.parties ∨
    (stateAfter (R.join agentId partyId tick s)).parties = left s.parties agentId tick ∨
    ((∃ p, s.parties.Live partyId p) ∧ s.parties.memberOf agentId ≠ some partyId ∧
      (stateAfter (R.join agentId partyId tick s)).parties
        = (left s.parties agentId tick).enrol agentId partyId) := by
  unfold join
  rw [get_bind]
  cases hp : (s.parties.get partyId).filter fun p => p.dissolvedTick.isNone with
  | none => exact Or.inl rfl
  | some party =>
    obtain ⟨hget, hnone⟩ := Option.filter_eq_some_iff.mp hp
    have hlive : s.parties.Live partyId party := ⟨hget, by simpa using hnone⟩
    dsimp only
    by_cases hprior : s.parties.memberOf agentId = some partyId
    · rw [if_pos hprior]
      exact Or.inl rfl
    · rw [if_neg hprior]
      have hleft := R.leave_parties agentId "switched" tick s
      cases hrun : R.leave agentId "switched" tick s with
      | error e t =>
        rw [hrun] at hleft
        rw [bind_of_error hrun]
        exact Or.inr (Or.inl hleft)
      | ok events t =>
        rw [hrun] at hleft
        rw [bind_of_ok hrun]
        refine Or.inr (Or.inr ⟨⟨party, hlive⟩, hprior, ?_⟩)
        show (stateAfter ((do
          let event ← R.emit _ tick
          pure (events ++ [event]) : PolityM L _)
            (t.withParties (t.parties.enrol agentId partyId)))).parties = _
        rw [stateAfter_bind_pure, stateAfter_emit]
        change t.parties = _ at hleft
        show t.parties.enrol agentId partyId = _
        rw [hleft]

/-- The registers a founding that went through leaves. -/
def founded [Uuid5] (s : PartyState) (founderId : String) (params : FoundPartyParams)
    (tick : Int) : PartyState :=
  s.attempt.add (newParty (partyIdOf founderId params tick) founderId params tick)
    (foundingIds founderId params) founderId

section Found

variable [Uuid5] {R : PartyRegistry L} {founderId : String} {params : FoundPartyParams}
  {tick : Int} {s s' : PolityState L}

theorem found_refused {e : Fault} (h : R.found founderId params tick s = .error e s') :
    s'.parties = s.parties.attempt := by
  have hcheck : ∀ {c : Prop} [Decidable c] {e' : Fault} {t : PolityState L},
      (require c e' : PolityM L Unit) t = .error e s' → s' = t := by
    intro c _ e' t hrun
    have hread := readOnly_require (σ := PolityState L) c e' t
    rw [hrun] at hread
    exact hread
  unfold found at h
  rcases bind_eq_error.mp h with h₁ | ⟨_, s₁, h₁, h⟩
  · cases h₁
  obtain rfl := modify_eq_ok.mp h₁
  rcases bind_eq_error.mp h with h₁ | ⟨_, _, h₁, h⟩
  · rw [hcheck h₁]
    rfl
  obtain ⟨-, rfl⟩ := require_eq_ok.mp h₁
  rcases bind_eq_error.mp h with h₁ | ⟨_, _, h₁, h⟩
  · rw [hcheck h₁]
    rfl
  obtain ⟨-, rfl⟩ := require_eq_ok.mp h₁
  rw [get_bind] at h
  rcases bind_eq_error.mp h with h₁ | ⟨_, _, h₁, h⟩
  · rw [hcheck h₁]
    rfl
  obtain ⟨-, rfl⟩ := require_eq_ok.mp h₁
  rcases bind_eq_error.mp h with h₁ | ⟨event, t, h₁, h⟩
  · -- the fee is refused
    obtain ⟨books, -, rfl⟩ := zoom_eq_error.mp h₁
    rfl
  · cases h

theorem found_eq_ok {events : List (Events.Event Value)}
    (h : R.found founderId params tick s = .ok events s') :
    s.parties.parties.get? (partyIdOf founderId params tick) = none ∧
      s'.parties = founded s.parties founderId params tick := by
  unfold found at h
  obtain ⟨_, _, h₁, h⟩ := bind_eq_ok.mp h
  obtain rfl := modify_eq_ok.mp h₁
  obtain ⟨_, _, h₁, h⟩ := bind_eq_ok.mp h
  obtain ⟨-, rfl⟩ := require_eq_ok.mp h₁
  obtain ⟨_, _, h₁, h⟩ := bind_eq_ok.mp h
  obtain ⟨-, rfl⟩ := require_eq_ok.mp h₁
  rw [get_bind] at h
  obtain ⟨_, _, h₁, h⟩ := bind_eq_ok.mp h
  obtain ⟨hfresh, rfl⟩ := require_eq_ok.mp h₁
  obtain ⟨event, t, h₁, h⟩ := bind_eq_ok.mp h
  obtain ⟨books, -, rfl⟩ := zoom_eq_ok.mp h₁
  obtain ⟨_, _, h₁, h⟩ := bind_eq_ok.mp h
  obtain rfl := modify_eq_ok.mp h₁
  obtain ⟨-, rfl⟩ := pure_eq_ok.mp h
  refine ⟨?_, rfl⟩
  have hnot : (s.parties.parties.get? (partyIdOf founderId params tick)).isSome = false := hfresh
  simpa using hnot

end Found

omit [FloatValue] in
theorem dissolveIfStale_parties (R : PartyRegistry L) (tick : Int) (p : Party)
    (s : PolityState L) :
    (stateAfter (R.dissolveIfStale tick p s)).parties = s.parties ∨
    (stateAfter (R.dissolveIfStale tick p s)).parties
      = s.parties.dissolve p.partyId p.memberIds tick := by
  unfold dissolveIfStale
  rw [get_bind]
  cases s.parties.staleReason R.journal.clock.ticksPerSimDay p tick with
  | none => exact Or.inl rfl
  | some reason =>
    exact Or.inr (R.stateAfter_thenEmit
      (fun q => q.dissolve p.partyId p.memberIds tick) _ tick s)

omit [FloatValue] in
theorem dissolveStale_kept (R : PartyRegistry L) (tick : Int) {s : PolityState L}
    (h : s.parties.Kept) : (stateAfter (R.dissolveStale tick s)).parties.Kept := by
  -- the parties that are still to come are live and stored as the sweep read them
  have hsweep : ∀ (ps : List Party) (t : PolityState L), t.parties.Kept →
      (ps.map Party.partyId).Nodup → (∀ p ∈ ps, t.parties.Live p.partyId p) →
      (stateAfter (gather (R.dissolveIfStale tick) ps t)).parties.Kept := by
    intro ps
    induction ps with
    | nil =>
      intro t ht _ _
      exact ht
    | cons p ps ih =>
      intro t ht hnodup hlive
      rw [List.map_cons, List.nodup_cons] at hnodup
      have hp := hlive p List.mem_cons_self
      have hcases := R.dissolveIfStale_parties tick p t
      have hnext : (stateAfter (R.dissolveIfStale tick p t)).parties.Kept ∧
          ∀ q ∈ ps, (stateAfter (R.dissolveIfStale tick p t)).parties.Live q.partyId q := by
        rcases hcases with heq | heq
        · rw [heq]
          exact ⟨ht, fun q hq => hlive q (List.mem_cons_of_mem _ hq)⟩
        · rw [heq]
          refine ⟨ht.dissolve hp tick, ?_⟩
          intro q hq
          have hne : q.partyId ≠ p.partyId := by
            intro hid
            exact hnodup.1 (hid ▸ List.mem_map_of_mem hq)
          have hold := hlive q (List.mem_cons_of_mem _ hq)
          refine ⟨?_, hold.2⟩
          show (t.parties.parties.modify p.partyId _).get? q.partyId = some q
          rw [Dict.get?_modify, if_neg hne]
          exact hold.1
      rw [gather_cons]
      cases hrun : R.dissolveIfStale tick p t with
      | error e u =>
        rw [bind_of_error hrun]
        rw [hrun] at hnext
        exact hnext.1
      | ok events u =>
        rw [hrun] at hnext
        rw [bind_of_ok hrun, stateAfter_bind_pure]
        exact ih u hnext.1 hnodup.2 hnext.2
  unfold dissolveStale
  rw [get_bind]
  have hentry : ∀ e ∈ s.parties.parties.sortedEntries, e.2.partyId = e.1 := by
    intro e he
    exact h.keyed e.1 e.2 (Dict.mem_entries_iff.mp (Dict.mem_sortedEntries.mp he))
  apply hsweep _ s h
  · -- the identifiers are the keys of the registry
    unfold PartyState.live
    apply List.Nodup.sublist (List.filter_sublist.map _)
    have hids : (s.parties.parties.sortedEntries.map Prod.snd).map Party.partyId
        = s.parties.parties.sortedEntries.map Prod.fst := by
      rw [List.map_map]
      exact List.map_congr_left hentry
    rw [hids]
    exact ((Dict.sortedEntries_perm _).map Prod.fst).nodup_iff.mpr s.parties.parties.nodup
  · intro p hp
    obtain ⟨hmem, hnone⟩ := List.mem_filter.mp hp
    obtain ⟨e, he, rfl⟩ := List.mem_map.mp hmem
    refine ⟨?_, by simpa using hnone⟩
    rw [hentry e he]
    exact Dict.mem_entries_iff.mp (Dict.mem_sortedEntries.mp he)

omit [CanonicalJson Value] [Events.Sha256] [PayloadSchemas Value] [FloatValue] in
theorem left_kept {s : PartyState} (h : s.Kept) (agentId : String) (tick : Int) :
    (left s agentId tick).Kept ∧ (left s agentId tick).memberOf agentId = none := by
  unfold left
  cases hm : s.memberOf agentId with
  | none => exact ⟨h, hm⟩
  | some partyId => exact ⟨h.withdraw hm tick, s.memberOf_withdraw agentId partyId tick⟩

omit [CanonicalJson Value] [Events.Sha256] [PayloadSchemas Value] [FloatValue] in
theorem live_left {s : PartyState} {agentId partyId : String} {p : Party}
    (hlive : s.Live partyId p) (hne : s.memberOf agentId ≠ some partyId) (tick : Int) :
    (left s agentId tick).Live partyId p := by
  unfold left
  cases hm : s.memberOf agentId with
  | none => exact hlive
  | some prior =>
    have hid : partyId ≠ prior := by
      intro heq
      exact hne (heq ▸ hm)
    refine ⟨?_, hlive.2⟩
    show (s.setMembers prior _).parties.get? partyId = some p
    rw [PartyState.get?_setMembers, if_neg hid]
    exact hlive.1

theorem join_kept (R : PartyRegistry L) (agentId partyId : String) (tick : Int)
    {s : PolityState L} (h : s.parties.Kept) :
    (stateAfter (R.join agentId partyId tick s)).parties.Kept := by
  rcases R.join_parties agentId partyId tick s with heq | heq | ⟨⟨p, hlive⟩, hne, heq⟩
  · rw [heq]
    exact h
  · rw [heq]
    exact (left_kept h agentId tick).1
  · rw [heq]
    obtain ⟨hkept, hnone⟩ := left_kept h agentId tick
    exact hkept.enrol hnone (live_left hlive hne tick)

end PartyRegistry

/-! ## Runs -/

/-- One step of a run: a call of the registry, the votes and cycles an election
counts, or anything that happens to the rest of the polity. -/
inductive PartyStep (L : Type) where
  | found (founderId : String) (params : FoundPartyParams) (tick : Int)
  | join (agentId partyId : String) (tick : Int)
  | leave (agentId reason : String) (tick : Int)
  | dissolveStale (tick : Int)
  | noteVotes (agentId : String) (votes : Int)
  | closeElectionCycle (partyIds : List (Option String))
  | outside (rest : PolityState L)

namespace PartyRegistry

section Runs

variable {L : Type} [CanonicalJson Value] [Events.Sha256] [PayloadSchemas Value] [FloatValue]
  [Uuid5]

/-- One step, returned or raised. -/
def step (R : PartyRegistry L) (s : PolityState L) : PartyStep L → PolityState L
  | .found founderId params tick => stateAfter (R.found founderId params tick s)
  | .join agentId partyId tick => stateAfter (R.join agentId partyId tick s)
  | .leave agentId reason tick => stateAfter (R.leave agentId reason tick s)
  | .dissolveStale tick => stateAfter (R.dissolveStale tick s)
  | .noteVotes agentId votes => s.withParties (s.parties.noteVotes agentId votes)
  | .closeElectionCycle partyIds => s.withParties (s.parties.closeElectionCycle partyIds)
  | .outside rest => rest.withParties s.parties

/-- A run from a state. -/
def run (R : PartyRegistry L) (s : PolityState L) (steps : List (PartyStep L)) : PolityState L :=
  steps.foldl R.step s

/-- A founding that goes through is by an agent that is in no party. -/
def Unattached (R : PartyRegistry L) (s : PolityState L) : PartyStep L → Prop
  | .found founderId params tick =>
    (∃ events s', R.found founderId params tick s = .ok events s') →
      s.parties.memberOf founderId = none
  | _ => True

/-- Every step of a run is as `Unattached` asks. -/
def AllUnattached (R : PartyRegistry L) : PolityState L → List (PartyStep L) → Prop
  | _, [] => True
  | s, a :: as => R.Unattached s a ∧ R.AllUnattached (R.step s a) as

theorem step_kept (R : PartyRegistry L) {s : PolityState L} {a : PartyStep L}
    (h : s.parties.Kept) (ha : R.Unattached s a) : (R.step s a).parties.Kept := by
  cases a with
  | found founderId params tick =>
    show (stateAfter (R.found founderId params tick s)).parties.Kept
    cases hrun : R.found founderId params tick s with
    | error e s' =>
      rw [stateAfter_error, found_refused hrun]
      exact h.congr rfl rfl
    | ok events s' =>
      obtain ⟨hfresh, heq⟩ := found_eq_ok hrun
      rw [stateAfter_ok, heq]
      have hattempt : s.parties.attempt.Kept := h.congr rfl rfl
      exact hattempt.add (ha ⟨events, s', hrun⟩) hfresh rfl rfl rfl
  | join agentId partyId tick => exact R.join_kept agentId partyId tick h
  | leave agentId reason tick =>
    show (stateAfter (R.leave agentId reason tick s)).parties.Kept
    rw [leave_parties]
    exact (left_kept h agentId tick).1
  | dissolveStale tick => exact R.dissolveStale_kept tick h
  | noteVotes agentId votes => exact h.congr rfl rfl
  | closeElectionCycle partyIds => exact h.congr rfl rfl
  | outside rest => exact h

/-- **Party membership is a partition** in every state of a run in which no
founder is in a party already. -/
theorem members_partition (R : PartyRegistry L) (s : PolityState L) (steps : List (PartyStep L))
    (hnew : s.parties = {}) (hall : R.AllUnattached s steps) (n : Nat) :
    (R.run s (steps.take n)).parties.Partition ∧
    ∀ agentId id id' p p', (R.run s (steps.take n)).parties.Live id p → agentId ∈ p.memberIds →
      (R.run s (steps.take n)).parties.Live id' p' → agentId ∈ p'.memberIds → id = id' := by
  have hkept : ∀ (steps : List (PartyStep L)) (s : PolityState L), s.parties.Kept →
      R.AllUnattached s steps → ∀ n, (R.run s (steps.take n)).parties.Kept := by
    intro steps
    induction steps with
    | nil =>
      intro s hs _ n
      rw [List.take_nil]
      exact hs
    | cons a as ih =>
      intro s hs hall n
      cases n with
      | zero => exact hs
      | succ n => exact ih (R.step s a) (R.step_kept hs hall.1) hall.2 n
  have hstart : s.parties.Kept := by
    rw [hnew]
    exact PartyState.Kept.new
  have hpart := (hkept steps s hstart hall n).toPartition
  exact ⟨hpart, fun agentId id id' p p' hp hm hp' hm' => hpart.disjoint hp hm hp' hm'⟩

theorem founder_in_two {R : PartyRegistry L} {s s' : PolityState L} {founderId prior : String}
    {params : FoundPartyParams} {tick : Int} {events : List (Events.Event Value)}
    (h : s.parties.Partition) (hmember : s.parties.memberOf founderId = some prior)
    (hfound : R.found founderId params tick s = .ok events s') :
    ∃ p p', s'.parties.Live prior p ∧ founderId ∈ p.memberIds ∧
      s'.parties.Live (partyIdOf founderId params tick) p' ∧ founderId ∈ p'.memberIds ∧
      prior ≠ partyIdOf founderId params tick := by
  obtain ⟨hfresh, heq⟩ := found_eq_ok hfound
  obtain ⟨p, hlive, hmem⟩ := (h.members founderId prior).mp hmember
  have hne : prior ≠ partyIdOf founderId params tick := by
    intro hid
    rw [← hid, hlive.1] at hfresh
    cases hfresh
  have hget : ∀ x, s'.parties.parties.get? x =
      (s.parties.parties.put (partyIdOf founderId params tick)
        (newParty (partyIdOf founderId params tick) founderId params tick)).get? x := by
    intro x
    rw [heq]
    rfl
  refine ⟨p, newParty (partyIdOf founderId params tick) founderId params tick, ⟨?_, hlive.2⟩,
    hmem, ⟨?_, rfl⟩, List.mem_singleton_self founderId, hne⟩
  · rw [hget, Dict.get?_put_of_ne hne]
    exact hlive.1
  · rw [hget]
    exact Dict.get?_put_self _ _ _

end Runs

end PartyRegistry

/-! ## A founder of two parties -/

section Closed

attribute [local instance] blankJson blankDigest anySchema ratioValue plainUuid

/-- A registry whose ledger posts every fee. -/
def freeRegistry : PartyRegistry Unit :=
  { journal := plainJournal, beliefs := fun _ _ => 0,
    cfg := { offices := ∅, omegaPrior := ∅ }, ledger := freeLedger }

/-- A polity in which nothing has happened. -/
def newPolity : PolityState Unit := { books := { log := EventLog.new 0 "", ledger := () } }

/-- A founding by three agents. -/
def foundingOf (name : String) : FoundPartyParams :=
  { name, platform := ∅, foundingMemberIds := ["ann", "bo", "cy"] }

/-- One agent founds two parties. -/
def foundTwice : List (PartyStep Unit) :=
  [.found "ann" (foundingOf "Reform") 0, .found "ann" (foundingOf "Union") 1]

/-- The identifiers of the two parties. -/
def reformId : String := PartyRegistry.partyIdOf "ann" (foundingOf "Reform") 0

def unionId : String := PartyRegistry.partyIdOf "ann" (foundingOf "Union") 1

/-- The party the founder belongs to, and the two parties: their members and
when they were dissolved. -/
def foundedTwice : Option String × List (Option (List String × Option Int)) :=
  let s := (freeRegistry.run newPolity foundTwice).parties
  (s.memberOf "ann",
    [reformId, unionId].map fun id =>
      (s.parties.get? id).map fun p => (p.memberIds, p.dissolvedTick))

theorem foundedTwice_eq :
    foundedTwice = (some unionId, [some (["ann"], none), some (["ann"], none)]) := by
  decide +kernel

theorem members_overlap :
    ¬((freeRegistry.run newPolity foundTwice).parties.Partition) ∧
    ∃ p p', (freeRegistry.run newPolity foundTwice).parties.Live reformId p ∧
      "ann" ∈ p.memberIds ∧
      (freeRegistry.run newPolity foundTwice).parties.Live unionId p' ∧
      "ann" ∈ p'.memberIds ∧ reformId ≠ unionId := by
  have h := foundedTwice_eq
  have hids : reformId ≠ unionId := by decide +kernel
  unfold foundedTwice at h
  simp only [List.map_cons, List.map_nil, Prod.mk.injEq, List.cons.injEq, Option.map_eq_some_iff,
    and_true] at h
  obtain ⟨-, ⟨p, hp, hmembers, hlive⟩, p', hp', hmembers', hlive'⟩ := h
  have hmem : "ann" ∈ p.memberIds := by
    rw [hmembers]
    exact List.mem_singleton_self _
  have hmem' : "ann" ∈ p'.memberIds := by
    rw [hmembers']
    exact List.mem_singleton_self _
  refine ⟨?_, p, p', ⟨hp, hlive⟩, hmem, ⟨hp', hlive'⟩, hmem', hids⟩
  intro hpart
  exact hids (hpart.disjoint ⟨hp, hlive⟩ hmem ⟨hp', hlive'⟩ hmem')

/-- One founding, a member that joins and leaves, and a sweep. -/
def foundOnce : List (PartyStep Unit) :=
  [.found "ann" (foundingOf "Reform") 0, .join "bo" reformId 0, .leave "bo" "left" 1,
    .dissolveStale 2]

theorem members_partition_once :
    (freeRegistry.run newPolity (foundOnce.take 4)).parties.Partition ∧
    ∀ agentId id id' p p',
      (freeRegistry.run newPolity (foundOnce.take 4)).parties.Live id p → agentId ∈ p.memberIds →
      (freeRegistry.run newPolity (foundOnce.take 4)).parties.Live id' p' →
      agentId ∈ p'.memberIds → id = id' :=
  freeRegistry.members_partition newPolity foundOnce rfl
    ⟨fun _ => rfl, trivial, trivial, trivial, trivial⟩ 4

end Closed

end Polis.Society
