/-
  Polis.Society.Counting — which ballots an election counts.

  Ballots reach an election in three ways: they were cast before it is held,
  they are deliberate ballots of the session, or they come from the vote
  model.  All three are stored by `cast`; the tally reads one field of each.

  Main results:
    * `mem_ballots_cast` — the ballots at the tally are those of the three
      sources.
    * `hold_counts` — each voter is counted once, abstentions are not
      counted, and every other ballot is counted exactly when it fills the
      field its rule reads.
    * `hold_counts_fails` — an approval election of reflex voters.
-/
import Polis.Society.Elections

namespace Polis.Society

open Lib Lib.Effect Polis.Events

/-! ## Stored ballots -/

namespace ElectionRepository

theorem mem_ballotsOf {repo : ElectionRepository} {electionId : String} {b : Ballot} :
    b ∈ repo.ballotsOf electionId ↔ repo.ballots.get? (electionId, b.voterId) = some b := by
  unfold ballotsOf
  rw [List.mem_map]
  constructor
  · rintro ⟨⟨key, d⟩, he, rfl⟩
    rw [List.mem_insertionSort, List.mem_filter] at he
    have hrow : repo.ballots.get? key = some d := Dict.mem_entries_iff.mp he.1
    have hkey : key.1 = electionId := of_decide_eq_true he.2
    have hvoter := repo.ballot_keyed key d hrow
    have heq : key = (electionId, d.voterId) := Prod.ext hkey hvoter.symm
    rw [← heq]
    exact hrow
  · intro h
    refine ⟨((electionId, b.voterId), b), ?_, rfl⟩
    rw [List.mem_insertionSort, List.mem_filter]
    exact ⟨Dict.mem_entries_iff.mpr h, decide_eq_true rfl⟩

theorem ballotsOf_nodup (repo : ElectionRepository) (electionId : String) :
    ((repo.ballotsOf electionId).map Ballot.voterId).Nodup := by
  unfold ballotsOf
  set rows := (repo.ballots.entries.filter fun e => e.1.1 = electionId).insertionSort
    fun a b => a.1.2 ≤ b.1.2 with hrows
  have hperm : rows.Perm (repo.ballots.entries.filter fun e => e.1.1 = electionId) :=
    List.perm_insertionSort _ _
  have hkeys : (rows.map Prod.fst).Nodup := by
    rw [(hperm.map Prod.fst).nodup_iff]
    exact repo.ballots.nodup.sublist (List.filter_sublist.map Prod.fst)
  -- a row is known by its voter
  have hrow : ∀ e ∈ rows, e.1 = (electionId, e.2.voterId) := by
    intro e he
    have he := List.mem_filter.mp (hperm.mem_iff.mp he)
    have hvoter := repo.ballot_keyed e.1 e.2 (Dict.mem_entries_iff.mp he.1)
    exact Prod.ext (of_decide_eq_true he.2) hvoter.symm
  have hmap : rows.map Prod.fst
      = ((rows.map Prod.snd).map Ballot.voterId).map fun v => (electionId, v) := by
    rw [List.map_map, List.map_map]
    exact List.map_congr_left hrow
  rw [hmap] at hkeys
  exact hkeys.of_map _

theorem mem_ballotsOf_putBallot {repo : ElectionRepository} {electionId : String} {b d : Ballot}
    (hnew : repo.ballots.contains (electionId, b.voterId) = false) :
    d ∈ (repo.putBallot electionId b).ballotsOf electionId ↔
      d = b ∨ d ∈ repo.ballotsOf electionId := by
  rw [mem_ballotsOf, mem_ballotsOf]
  show (repo.ballots.put (electionId, b.voterId) b).get? (electionId, d.voterId) = some d ↔ _
  rw [Dict.get?_put]
  by_cases hkey : (electionId, d.voterId) = (electionId, b.voterId)
  · rw [if_pos hkey, hkey]
    unfold Dict.contains at hnew
    have hnone : repo.ballots.get? (electionId, b.voterId) = none := by
      cases h : repo.ballots.get? (electionId, b.voterId) with
      | none => rfl
      | some x =>
        rw [h] at hnew
        cases hnew
    rw [hnone]
    constructor
    · intro h
      exact Or.inl (Option.some.inj h).symm
    · rintro (rfl | h)
      · rfl
      · cases h
  · rw [if_neg hkey]
    constructor
    · exact Or.inr
    · rintro (rfl | h)
      · exact absurd rfl hkey
      · exact h

end ElectionRepository

/-! ## Casting -/

namespace ElectionOffice

variable {L : Type}

/-- What casting ballots leaves alone. -/
structure OnlyBallots (s s' : PolityState L) : Prop where
  parties : s'.parties = s.parties
  offices : s'.offices = s.offices
  exposure : s'.exposure = s.exposure
  candidacies : s'.repo.candidacies = s.repo.candidacies
  elections : s'.repo.elections = s.repo.elections

theorem OnlyBallots.refl (s : PolityState L) : OnlyBallots s s := ⟨rfl, rfl, rfl, rfl, rfl⟩

theorem OnlyBallots.trans {a b c : PolityState L} (h : OnlyBallots a b) (h' : OnlyBallots b c) :
    OnlyBallots a c :=
  ⟨h'.parties.trans h.parties, h'.offices.trans h.offices, h'.exposure.trans h.exposure,
   h'.candidacies.trans h.candidacies, h'.elections.trans h.elections⟩

theorem OnlyBallots.openCandidacies {s s' : PolityState L} (h : OnlyBallots s s')
    (electionId : String) :
    s'.repo.openCandidacies electionId = s.repo.openCandidacies electionId := by
  unfold ElectionRepository.openCandidacies
  rw [h.candidacies]

/-- A ballot that was cast is its voter's first, refers to candidacies of the
election, and is stored. -/
structure Cast (electionId : String) (b : Ballot) (s s' : PolityState L) : Prop where
  first : s.repo.ballots.contains (electionId, b.voterId) = false
  valid : ∀ id ∈ referenced b,
    id ∈ (s.repo.openCandidacies electionId).map Candidacy.candidacyId
  ballots : s'.repo = s.repo.putBallot electionId b
  others : OnlyBallots s s'

theorem castAll_eq_ok {electionId : String} {α : Type} (ballot : α → Ballot)
    {f : α → PolityM L (List (Events.Event Value))} {xs : List α} {s s' : PolityState L}
    (hf : ∀ x ∈ xs, ∀ t events t', OnlyBallots s t → f x t = .ok events t' →
      Cast electionId (ballot x) t t')
    {events : List (Events.Event Value)} (h : gather f xs s = .ok events s') :
    OnlyBallots s s' ∧ ∀ b, b ∈ s'.repo.ballotsOf electionId ↔
      b ∈ s.repo.ballotsOf electionId ∨ ∃ x ∈ xs, b = ballot x := by
  induction xs generalizing s events with
  | nil =>
    obtain ⟨_, rfl⟩ := pure_eq_ok.mp h
    exact ⟨OnlyBallots.refl s, fun b => by simp⟩
  | cons x xs ih =>
    obtain ⟨here, t, rest, hx, hxs, -⟩ := gather_cons_eq_ok.mp h
    have hcast := hf x List.mem_cons_self s here t (OnlyBallots.refl s) hx
    obtain ⟨hothers, hmem⟩ := ih
      (fun y hy u events u' hu => hf y (List.mem_cons_of_mem _ hy) u events u'
        (hcast.others.trans hu)) hxs
    refine ⟨hcast.others.trans hothers, fun b => ?_⟩
    rw [hmem, hcast.ballots, ElectionRepository.mem_ballotsOf_putBallot hcast.first]
    constructor
    · rintro ((rfl | hb) | ⟨y, hy, rfl⟩)
      · exact Or.inr ⟨x, List.mem_cons_self, rfl⟩
      · exact Or.inl hb
      · exact Or.inr ⟨y, List.mem_cons_of_mem _ hy, rfl⟩
    · rintro (hb | ⟨y, hy, rfl⟩)
      · exact Or.inl (Or.inr hb)
      · rcases List.mem_cons.mp hy with rfl | hy
        · exact Or.inl (Or.inl rfl)
        · exact Or.inr ⟨y, hy, rfl⟩

/-- The ballots, and how many could have been cast, stay as they are. -/
def SameBallots (s s' : PolityState L) : Prop :=
  s'.repo.ballots = s.repo.ballots ∧ s'.repo.eligibleCounts = s.repo.eligibleCounts

theorem sameBallots_refl (s : PolityState L) : SameBallots s s := ⟨rfl, rfl⟩

theorem sameBallots_trans (a b c : PolityState L) (h : SameBallots a b) (h' : SameBallots b c) :
    SameBallots a c := ⟨h'.1.trans h.1, h'.2.trans h.2⟩

theorem noteVotes_sameBallots (row : String × Int) :
    Within SameBallots (noteVotes row : PolityM L Unit) := by
  unfold noteVotes
  apply within_bind sameBallots_trans (within_get sameBallots_refl)
  intro s
  split
  · exact within_throw _ _
  · exact within_modify fun _ => ⟨rfl, rfl⟩

theorem markRefunded_ballots (rows : List (String × String × Int)) (repo : ElectionRepository) :
    (rows.foldl markRefunded repo).ballots = repo.ballots ∧
      (rows.foldl markRefunded repo).eligibleCounts = repo.eligibleCounts := by
  induction rows generalizing repo with
  | nil => exact ⟨rfl, rfl⟩
  | cons row rows ih => exact ih (markRefunded repo row)

section Runs

variable [CanonicalJson Value] [Events.Sha256] [PayloadSchemas Value] [FloatValue]
  (E : ElectionOffice L)

theorem cast_eq_ok {electionId : String} {b : Ballot} {tick : Int} {s s' : PolityState L}
    {events : List (Events.Event Value)} (h : E.cast electionId b tick s = .ok events s') :
    Cast electionId b s s' := by
  unfold cast at h
  obtain ⟨s₀, t₀, hget, h⟩ := bind_eq_ok.mp h
  obtain ⟨rfl, rfl⟩ := get_eq_ok.mp hget
  obtain ⟨_, t₁, hfirst, h⟩ := bind_eq_ok.mp h
  obtain ⟨hnew, rfl⟩ := require_eq_ok.mp hfirst
  obtain ⟨_, t₂, hvalid, h⟩ := bind_eq_ok.mp h
  obtain ⟨hrefs, rfl⟩ := require_eq_ok.mp hvalid
  obtain ⟨_, t₃, hput, h⟩ := bind_eq_ok.mp h
  have hput := modify_eq_ok.mp hput
  obtain ⟨event, t₄, hemit, h⟩ := bind_eq_ok.mp h
  obtain ⟨-, rfl⟩ := pure_eq_ok.mp h
  obtain ⟨books, -, rfl⟩ := zoom_eq_ok.mp hemit
  subst hput
  exact ⟨hnew, hrefs, rfl, ⟨rfl, rfl, rfl, rfl, rfl⟩⟩

/-- What the source of ballots of `hold` is, once its voters are split. -/
def Sourced (s : PolityState L) (election : Election) (voters : Electors) (tick : Int)
    (b : Ballot) : Prop :=
  b ∈ s.repo.ballotsOf election.electionId ∨ b ∈ voters.deliberate ∨
    ∃ v ∈ voters.reflex, b = E.voteModel.choose E.cfg s v
      (s.repo.openCandidacies election.electionId)
      (E.fitFor s election voters.deliberate tick).omega tick

theorem mem_ballots_cast {election : Election} {voters : Electors} {tick : Int}
    {s s₁ s₂ : PolityState L} {events₁ events₂ : List (Events.Event Value)}
    (hdeliberate : gather (fun b => E.cast election.electionId b tick) voters.deliberate s
      = .ok events₁ s₁)
    (hreflex : gather (E.castReflex election (s.repo.openCandidacies election.electionId)
      (E.fitFor s election voters.deliberate tick).omega tick) voters.reflex s₁
      = .ok events₂ s₂) :
    OnlyBallots s s₂ ∧
      ∀ b, b ∈ s₂.repo.ballotsOf election.electionId ↔ E.Sourced s election voters tick b := by
  obtain ⟨hothers₁, hmem₁⟩ := castAll_eq_ok id
    (fun b _ t events t' _ hb => E.cast_eq_ok hb) hdeliberate
  have hcast : ∀ v ∈ voters.reflex, ∀ t events t', OnlyBallots s₁ t →
      E.castReflex election (s.repo.openCandidacies election.electionId)
        (E.fitFor s election voters.deliberate tick).omega tick v t = .ok events t' →
      Cast election.electionId (E.voteModel.choose E.cfg s v
        (s.repo.openCandidacies election.electionId)
        (E.fitFor s election voters.deliberate tick).omega tick) t t' := by
    intro v _ t events t' ht hv
    have hsame := hothers₁.trans ht
    unfold castReflex at hv
    rw [get_bind, E.voteModel.choose_congr hsame.parties hsame.offices hsame.exposure] at hv
    exact E.cast_eq_ok hv
  obtain ⟨hothers₂, hmem₂⟩ := castAll_eq_ok _ hcast hreflex
  refine ⟨hothers₁.trans hothers₂, fun b => ?_⟩
  rw [hmem₂, hmem₁]
  unfold Sourced
  constructor
  · rintro ((hb | ⟨d, hd, rfl⟩) | hb)
    · exact Or.inl hb
    · exact Or.inr (Or.inl hd)
    · exact Or.inr (Or.inr hb)
  · rintro (hb | hb | hb)
    · exact Or.inl (Or.inl hb)
    · exact Or.inl (Or.inr ⟨b, hb, rfl⟩)
    · exact Or.inr hb

/-! ## Resolving -/

omit [FloatValue] in
theorem emit_sameBallots (d : Draft) (tick : Int) : Within SameBallots (E.emit d tick) := by
  intro s event s' h
  obtain ⟨books, -, rfl⟩ := zoom_eq_ok.mp h
  exact ⟨rfl, rfl⟩

omit [FloatValue] in
theorem refund_sameBallots (electionId : String) (rows : List (String × String × Int))
    (prior : ElectionRepository) (tick : Int) :
    Within SameBallots (E.refund electionId rows prior tick) := by
  intro s events s' h
  unfold refund at h
  rcases onlyIf_eq_ok.mp h with ⟨-, h⟩ | ⟨-, -, rfl⟩
  · split at h
    · rename_i event t hposted
      cases h
      obtain ⟨books, -, rfl⟩ := zoom_eq_ok.mp hposted
      exact ⟨rfl, rfl⟩
    · cases h
    · cases h
  · exact sameBallots_refl _

omit [FloatValue] in
theorem assume_sameBallots (election : Election) (tick : Int) (candidacyId : String) :
    Within SameBallots (E.assume election tick candidacyId) := by
  unfold assume
  apply within_bind sameBallots_trans (within_get sameBallots_refl)
  intro s
  split
  · apply within_bind sameBallots_trans
    · exact within_modify fun _ => ⟨rfl, rfl⟩
    intro _
    apply within_bind sameBallots_trans (E.emit_sameBallots _ _)
    intro _
    exact within_pure sameBallots_refl _
  · exact within_throw _ _
  · exact within_throw _ _

/-- The event `hold` resolves an election with. -/
structure ResolvedBy (election : Election) (t : Tally) (turnout : ℚ)
    (event : Events.Event Value) : Prop where
  kind : event.kind = ELECTION_RESOLVED
  payload : ∃ voters fit first,
    event.payload = .dict (resolvedDraft election t turnout voters fit first).payload

theorem resolve_eq_ok {election : Election} {voters : Electors} {fit : FitResult}
    {prior s s' : PolityState L} {tick : Int} {events : List (Events.Event Value)}
    (h : E.resolve election voters fit prior tick s = .ok events s') :
    SameBallots s s' ∧ ∃ event ∈ events,
      ResolvedBy election (E.tallyOf s election) (s.repo.turnout election.electionId) event := by
  unfold resolve at h
  rw [get_bind] at h
  obtain ⟨resolved, s₁, hemit, h⟩ := bind_eq_ok.mp h
  have hsame₁ := E.emit_sameBallots _ _ s resolved s₁ hemit
  obtain ⟨books, hbooks, -⟩ := zoom_eq_ok.mp hemit
  obtain ⟨log, hlog, -⟩ := zoom_eq_ok.mp hbooks
  have hbecame := emit_became hlog
  obtain ⟨rows, s₂, hrows, h⟩ := bind_eq_ok.mp h
  obtain ⟨refunds, s₃, hrefund, h⟩ := bind_eq_ok.mp h
  obtain ⟨_, s₄, hmark, h⟩ := bind_eq_ok.mp h
  obtain ⟨_, s₅, hnote, h⟩ := bind_eq_ok.mp h
  obtain ⟨assumed, s₆, hassume, h⟩ := bind_eq_ok.mp h
  obtain ⟨_, s₇, hclose, h⟩ := bind_eq_ok.mp h
  obtain ⟨rfl, rfl⟩ := pure_eq_ok.mp h
  have hsame₂ : s₂ = s₁ := by
    cases hr : E.refundable s.repo election.electionId (E.tallyOf s election) with
    | error e =>
      rw [hr] at hrows
      cases hrows
    | ok rows =>
      rw [hr] at hrows
      cases hrows
      rfl
  have hsame₃ := E.refund_sameBallots _ _ _ _ s₂ refunds s₃ hrefund
  have hsame₄ : SameBallots s₃ s₄ := by
    rw [← modify_eq_ok.mp hmark]
    exact markRefunded_ballots rows s₃.repo
  have hsame₅ := within_each sameBallots_refl sameBallots_trans
    (fun row _ => noteVotes_sameBallots row) s₄ _ s₅ hnote
  have hsame₆ := within_gather sameBallots_refl sameBallots_trans
    (fun id _ => E.assume_sameBallots election tick id) s₅ assumed s₆ hassume
  have hsame₇ : SameBallots s₆ s₇ := by
    rw [← modify_eq_ok.mp hclose]
    exact ⟨rfl, rfl⟩
  subst hsame₂
  refine ⟨?_, resolved, List.mem_cons_self, ⟨hbecame.1, _, _, _, hbecame.2⟩⟩
  have hnoted := sameBallots_trans _ _ _ (sameBallots_trans _ _ _ hsame₁ hsame₃)
    (sameBallots_trans _ _ _ hsame₄ hsame₅)
  exact sameBallots_trans _ _ _ hnoted (sameBallots_trans _ _ _ hsame₆ hsame₇)

/-! ## Counted ballots -/

/-- The ballots that were cast and the voters who turn out fill the field the
rule of the election reads. -/
structure BallotsFill (s : PolityState L) (election : Election) (voters : Electors) (tick : Int) :
    Prop where
  stored : ∀ b ∈ s.repo.ballotsOf election.electionId, ¬b.Abstains →
    Fills election.method (s.repo.openCandidacies election.electionId) b
  deliberate : ∀ b ∈ voters.deliberate, ¬b.Abstains →
    Fills election.method (s.repo.openCandidacies election.electionId) b
  reflex : election.method = .approval ∨ election.method = .irv → ∀ v ∈ voters.reflex,
    ¬E.voteModel.TurnsOut E.cfg s v (s.repo.openCandidacies election.electionId)
      (E.fitFor s election voters.deliberate tick).omega tick

omit [CanonicalJson Value] [Events.Sha256] [PayloadSchemas Value] [FloatValue] in
theorem choose_fills_iff (s : PolityState L) (election : Election) (voterId : String)
    (omega : Dict String ℚ) (tick : Int) :
    (¬(E.voteModel.choose E.cfg s voterId (s.repo.openCandidacies election.electionId) omega
        tick).Abstains →
      Fills election.method (s.repo.openCandidacies election.electionId)
        (E.voteModel.choose E.cfg s voterId (s.repo.openCandidacies election.electionId) omega
          tick)) ↔
    (election.method = .approval ∨ election.method = .irv →
      ¬E.voteModel.TurnsOut E.cfg s voterId (s.repo.openCandidacies election.electionId) omega
        tick) := by
  set candidacies := s.repo.openCandidacies election.electionId
  have habs := E.voteModel.choose_abstains_iff E.cfg s voterId candidacies omega tick
  obtain ⟨-, hranking, happrovals⟩ :=
    E.voteModel.choose_fields E.cfg s voterId candidacies omega tick
  have hchoice : ∀ id, (E.voteModel.choose E.cfg s voterId candidacies omega tick).choice = some id →
      id ∈ candidacies.map Candidacy.candidacyId := fun id h => E.voteModel.choose_choice h
  generalize E.voteModel.choose E.cfg s voterId candidacies omega tick = b at *
  have hsome : ¬b.Abstains → b.choice ≠ none := fun h hnone => h ⟨hnone, hranking, happrovals⟩
  rw [← habs]
  cases hm : election.method with
  | plurality =>
    constructor
    · intro _ h
      rcases h with h | h <;> cases h
    · intro _
      exact hsome
  | approval =>
    constructor
    · intro h _
      by_contra hvotes
      exact h hvotes happrovals
    · intro h hvotes
      exact absurd (h (Or.inl rfl)) hvotes
  | irv =>
    constructor
    · intro h _
      by_contra hvotes
      exact h hvotes hranking
    · intro h hvotes
      exact absurd (h (Or.inr rfl)) hvotes
  | proportional =>
    constructor
    · intro _ h
      rcases h with h | h <;> cases h
    · intro _ hvotes
      obtain ⟨id, hid⟩ := Option.ne_none_iff_exists'.mp (hsome hvotes)
      exact ⟨id, hid, hchoice id hid⟩

omit [CanonicalJson Value] [Events.Sha256] [PayloadSchemas Value] [FloatValue] in
theorem sourced_fill_iff (s : PolityState L) (election : Election) (voters : Electors)
    (tick : Int) :
    (∀ b, E.Sourced s election voters tick b → ¬b.Abstains →
      Fills election.method (s.repo.openCandidacies election.electionId) b) ↔
    E.BallotsFill s election voters tick := by
  constructor
  · intro h
    refine ⟨fun b hb => h b (Or.inl hb), fun b hb => h b (Or.inr (Or.inl hb)), ?_⟩
    intro hmethod v hv
    exact (E.choose_fills_iff s election v _ tick).mp (h _ (Or.inr (Or.inr ⟨v, hv, rfl⟩))) hmethod
  · rintro h b (hb | hb | ⟨v, hv, rfl⟩)
    · exact h.stored b hb
    · exact h.deliberate b hb
    · exact (E.choose_fills_iff s election v _ tick).mpr fun hmethod => h.reflex hmethod v hv

/-- What a resolved election counted. -/
structure Counted (s s' : PolityState L) (election : Election) (voters : Electors) (tick : Int)
    (events : List (Events.Event Value)) : Prop where
  /-- The announced tally and turnout are those of the ballots. -/
  announced : ∃ event ∈ events, ResolvedBy election
    (tally (E.draw election.electionId election.votingTick)
      (s.repo.openCandidacies election.electionId) election
      (s'.repo.ballotsOf election.electionId))
    (s'.repo.turnout election.electionId) event
  /-- Each voter has one ballot. -/
  once : ((s'.repo.ballotsOf election.electionId).map Ballot.voterId).Nodup
  /-- The votes of a candidacy are the ballots that mark it. -/
  counts : ∀ id, ((tally (E.draw election.electionId election.votingTick)
      (s.repo.openCandidacies election.electionId) election
      (s'.repo.ballotsOf election.electionId)).given election.method).getD id 0
    = ((s'.repo.ballotsOf election.electionId).countP fun b =>
        id ∈ marks election.method (s.repo.openCandidacies election.electionId) b : Nat)
  /-- An abstention marks nothing. -/
  abstentions : ∀ b ∈ s'.repo.ballotsOf election.electionId, b.Abstains →
    marks election.method (s.repo.openCandidacies election.electionId) b = []
  /-- Every other ballot counts exactly when the ballots fill their field. -/
  all_iff : EveryBallotCounts (E.draw election.electionId election.votingTick)
      (s.repo.openCandidacies election.electionId) election
      (s'.repo.ballotsOf election.electionId) ↔ E.BallotsFill s election voters tick

/-- **What an election counts**: a held election that is not called again
counts each voter once and no abstention, and every other ballot exactly when
the ballots that were cast and the voters who turn out fill the field its rule
reads. -/
theorem hold_counts {electionId : String} {tick : Int} {s s' : PolityState L}
    {events : List (Events.Event Value)} (h : E.hold electionId tick s = .ok events s') :
    ∃ election voters, s.repo.elections.get? electionId = some election ∧
      E.electors s election tick = .ok voters ∧
      ((E.fitFor s election voters.deliberate tick).usable = true →
        E.Counted s s' election voters tick events) := by
  unfold hold at h
  rw [get_bind] at h
  cases hel : s.repo.elections.get? electionId with
  | none =>
    rw [hel] at h
    cases h
  | some election =>
    rw [hel] at h
    dsimp only at h
    have hid := s.repo.election_keyed electionId election hel
    subst hid
    cases hvoters : E.electors s election tick with
    | error e =>
      rw [hvoters] at h
      cases h
    | ok voters =>
      rw [hvoters, bind_of_ok liftPy_ok] at h
      refine ⟨election, voters, rfl, hvoters, fun husable => ?_⟩
      rw [if_neg (by rw [husable]; decide)] at h
      obtain ⟨deliberate, s₁, hdeliberate, h⟩ := bind_eq_ok.mp h
      obtain ⟨reflex, s₂, hreflex, h⟩ := bind_eq_ok.mp h
      obtain ⟨rest, s₃, hrest, h⟩ := bind_eq_ok.mp h
      obtain ⟨rfl, rfl⟩ := pure_eq_ok.mp h
      obtain ⟨hothers, hmem⟩ := E.mem_ballots_cast hdeliberate hreflex
      obtain ⟨hsame, event, hevent, hresolved⟩ := E.resolve_eq_ok hrest
      have hballots : s₃.repo.ballotsOf election.electionId
          = s₂.repo.ballotsOf election.electionId := by
        unfold ElectionRepository.ballotsOf
        rw [hsame.1]
      have hturnout : s₃.repo.turnout election.electionId
          = s₂.repo.turnout election.electionId := by
        unfold ElectionRepository.turnout
        rw [hballots, hsame.2]
      have htally : E.tallyOf s₂ election = tally (E.draw election.electionId election.votingTick)
          (s.repo.openCandidacies election.electionId) election
          (s₃.repo.ballotsOf election.electionId) := by
        unfold tallyOf
        rw [hothers.openCandidacies, hballots]
      refine ⟨?_, ElectionRepository.ballotsOf_nodup _ _, fun id => tally_count _ _ _ _ id,
        fun b _ hb => marks_of_abstains hb, ?_⟩
      · refine ⟨event, List.mem_append_right _ hevent, ?_⟩
        rw [hturnout, ← htally]
        exact hresolved
      · rw [everyBallotCounts_iff, ← E.sourced_fill_iff, hballots]
        simp only [hmem, marks_ne_nil_iff]

end Runs

end ElectionOffice

/-! ## An approval election of reflex voters -/

/-- An office for which one election is held. -/
def approvalOffice : ElectionOffice Unit :=
  { journal := plainJournal
    cfg := { offices := Dict.ofList [("council", { method := some .approval })]
             omegaPrior := Dict.ofList [("congruence", 1)] }
    parties :=
      { journal := plainJournal, beliefs := fun _ _ => 0
        cfg := { offices := ∅, omegaPrior := ∅ }, ledger := freeLedger }
    voteModel :=
      { value := fun _ _ => 0, confidence := fun _ _ => 0, selfInterest := fun _ _ _ => 0,
        social := fun _ _ _ => 0, decay := fun _ => 0, conscientiousness := fun _ => 0,
        civic := fun _ => 0, noise := fun _ _ _ => 0,
        fit := fun _ => { omega := ∅, logLikelihood := 0, holdoutAccuracy := 0,
                          nDeliberate := 0, usable := false } }
    base := { policyKeys := [], resolve := fun _ => none }
    ledger := freeLedger
    agents := fun _ => none
    world := none
    outlets := none
    deliberateBallots := none
    shuffle := fun _ _ ids => ids
    draw := fun _ _ ids => ids.headD "" }

/-- An approval election with one voter. -/
def approvalElection : Election :=
  { electionId := "el", office := "council", seats := 1, method := .approval, calledTick := 0,
    votingTick := 30, campaignEndsTick := 23, electorateIds := ["ag_voter"] }

/-- One voter and one candidacy, no ballot yet. -/
def approvalState : PolityState Unit :=
  { books := { log := EventLog.new 0 "", ledger := () }
    repo := { (({} : ElectionRepository).putElection approvalElection).putCandidacy
        { candidacyId := "ca", electionId := "el", agentId := "ag_candidate", partyId := none,
          platform := ∅, spendCents := 0, votes := 0 } with
      eligibleCounts := Dict.ofList [("el", 1)] } }

section Closed

attribute [local instance] blankJson blankDigest anySchema ratioValue

/-- The ballots and the votes given after the election is held. -/
def approvalOutcome : Option (List (String × Option String × List String) × Int × ℚ) :=
  outcome (approvalOffice.hold "el" 30 approvalState) fun s =>
    ((s.repo.ballotsOf "el").map fun b => (b.voterId, b.choice, b.approvals),
     votesGiven (approvalOffice.draw "el" 30) (approvalState.repo.openCandidacies "el")
       approvalElection (s.repo.ballotsOf "el"),
     s.repo.turnout "el")

theorem approvalOutcome_eq :
    approvalOutcome = some ([("ag_voter", some "ca", [])], 0, 1) := by
  decide +kernel

theorem hold_counts_fails :
    ∃ events s', approvalOffice.hold "el" 30 approvalState = .ok events s' ∧
      s'.repo.turnout "el" = 1 ∧
      votesGiven (approvalOffice.draw "el" 30) (approvalState.repo.openCandidacies "el")
        approvalElection (s'.repo.ballotsOf "el") = 0 ∧
      ¬EveryBallotCounts (approvalOffice.draw "el" 30) (approvalState.repo.openCandidacies "el")
        approvalElection (s'.repo.ballotsOf "el") := by
  obtain ⟨events, s', hheld, hread⟩ := outcome_eq_some approvalOutcome_eq
  simp only [Prod.mk.injEq] at hread
  obtain ⟨hballots, hvotes, hturnout⟩ := hread
  refine ⟨events, s', hheld, hturnout, hvotes, ?_⟩
  rw [everyBallotCounts_iff]
  intro hall
  -- the only ballot has a choice and no approval
  cases hrows : s'.repo.ballotsOf "el" with
  | nil =>
    rw [hrows] at hballots
    cases hballots
  | cons b bs =>
    rw [hrows] at hballots hall
    obtain ⟨hrow, -⟩ := List.cons.inj hballots
    simp only [Prod.mk.injEq] at hrow
    obtain ⟨-, hchoice, happrovals⟩ := hrow
    have hvoted : ¬b.Abstains := fun h => by
      rw [h.1] at hchoice
      cases hchoice
    exact marks_ne_nil_iff.mp (hall b List.mem_cons_self hvoted) happrovals

theorem hold_counts_approval :
    ∃ events s', approvalOffice.hold "el" 30 approvalState = .ok events s' ∧
      ∃ election voters, approvalState.repo.elections.get? "el" = some election ∧
        approvalOffice.electors approvalState election 30 = .ok voters ∧
        ((approvalOffice.fitFor approvalState election voters.deliberate 30).usable = true →
          approvalOffice.Counted approvalState s' election voters 30 events) := by
  obtain ⟨events, s', hheld, -⟩ := outcome_eq_some approvalOutcome_eq
  exact ⟨events, s', hheld, approvalOffice.hold_counts hheld⟩

end Closed

end Polis.Society
