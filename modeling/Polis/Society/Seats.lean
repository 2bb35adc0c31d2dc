/-
  Polis.Society.Seats — whom `ElectionOffice.tally` elects
  (`society/polity.py`).

  Plurality, approval and instant runoff elect one candidacy, whatever the
  seats of the office.  The proportional rule deals the seats among the
  slates with votes and then takes each slate's first candidacies; a seat
  beyond the end of a slate stays empty.

  Main results:
    * `seatCounts_allotted` — the seats of the slates are highest averages
      over their votes.
    * `proportional_winners` — a slate elects as many as it has seats, or all
      its candidacies.
    * `tally_elects` — whom each rule elects, and when all seats are filled.
-/
import Mathlib.Algebra.BigOperators.Group.Finset.Piecewise
import Mathlib.Algebra.BigOperators.Ring.Finset
import Polis.Lib.ListSeats
import Polis.Society.Elections
import Polis.Society.Runoff

namespace Polis.Society

open Lib HighestAverages ElectionOffice

attribute [local instance] intOrder

/-! ## Slates -/

/-- The slate of a candidacy by its identifier. -/
def slateOf (candidacies : List Candidacy) (id : String) : Option String :=
  (candidacies.find? fun c => c.candidacyId = id).map slate

/-- The slates of the candidacies the ballots mark. -/
def votedSlates (method : ElectionMethod) (candidacies : List Candidacy) (ballots : List Ballot) :
    List String :=
  (ballots.flatMap (marks method candidacies)).filterMap (slateOf candidacies)

/-- The candidacies that received a vote or whose slate did. -/
def contenders (method : ElectionMethod) (candidacies : List Candidacy) (ballots : List Ballot) :
    List Candidacy :=
  candidacies.filter fun c => slate c ∈ votedSlates method candidacies ballots

/-- How many candidacies a slate has. -/
def slateSize (candidacies : List Candidacy) (party : String) : Nat :=
  candidacies.countP fun c => slate c = party

/-- How many winners are of a slate. -/
def Tally.electedOf (t : Tally) (candidacies : List Candidacy) (party : String) : Nat :=
  t.winnerIds.countP fun id => slateOf candidacies id = some party

/-- The winners fill the seats of an election: they are distinct candidacies
of it, as many as there are seats or candidacies to fill them, and in a
proportional election seat after seat goes to the slate with the highest
average among those that still have candidacies. -/
structure FillsSeats (candidacies : List Candidacy) (election : Election) (ballots : List Ballot)
    (t : Tally) : Prop where
  distinct : t.winnerIds.Nodup
  own : ∀ id ∈ t.winnerIds, id ∈ candidacies.map Candidacy.candidacyId
  number : t.winnerIds.length
    = min election.seats (contenders election.method candidacies ballots).length
  averages : election.method = .proportional →
    Allotted
      (fun p k => p ∈ votedSlates .proportional candidacies ballots ∧ k < slateSize candidacies p)
      (fun p => (votedSlates .proportional candidacies ballots).count p)
      t.winnerIds.length fun p => t.electedOf candidacies p

section Slates

variable {candidacies : List Candidacy} {c : Candidacy} {id party : String}

theorem find?_candidacy (hids : (candidacies.map Candidacy.candidacyId).Nodup)
    (h : c ∈ candidacies) :
    (candidacies.find? fun d => d.candidacyId = c.candidacyId) = some c := by
  induction candidacies with
  | nil => cases h
  | cons d ds ih =>
    rw [List.map_cons, List.nodup_cons] at hids
    by_cases heq : d.candidacyId = c.candidacyId
    · rw [List.find?_cons_of_pos (by simpa using heq)]
      rcases List.mem_cons.mp h with rfl | hmem
      · rfl
      · exact absurd (heq ▸ List.mem_map_of_mem hmem) hids.1
    · rw [List.find?_cons_of_neg (by simpa using heq)]
      rcases List.mem_cons.mp h with rfl | hmem
      · exact absurd rfl heq
      · exact ih hids.2 hmem

theorem slateOf_candidacy (hids : (candidacies.map Candidacy.candidacyId).Nodup)
    (h : c ∈ candidacies) : slateOf candidacies c.candidacyId = some (slate c) := by
  unfold slateOf
  rw [find?_candidacy hids h]
  rfl

theorem length_eq_sum_slates {α : Type} (xs : List α) (T : Finset String) (f : α → Option String)
    (h : ∀ x ∈ xs, ∃ p ∈ T, f x = some p) :
    xs.length = ∑ p ∈ T, xs.countP fun x => f x = some p := by
  induction xs with
  | nil => simp
  | cons x xs ih =>
    obtain ⟨p, hp, hx⟩ := h x List.mem_cons_self
    have hrest := ih fun y hy => h y (List.mem_cons_of_mem _ hy)
    have hone : ∑ q ∈ T, (if (decide (f x = some q)) = true then 1 else 0) = 1 := by
      simp only [hx, Option.some.injEq, decide_eq_true_eq]
      rw [Finset.sum_ite_eq T p fun _ => 1, if_pos hp]
    simp only [List.countP_cons, Finset.sum_add_distrib, List.length_cons]
    rw [← hrest, hone]

theorem contenders_length (method : ElectionMethod) (candidacies : List Candidacy)
    (ballots : List Ballot) :
    (contenders method candidacies ballots).length
      = ∑ p ∈ (votedSlates method candidacies ballots).toFinset, slateSize candidacies p := by
  have hsplit := length_eq_sum_slates (contenders method candidacies ballots)
    (votedSlates method candidacies ballots).toFinset (fun c => some (slate c))
    fun c hc => ⟨slate c, List.mem_toFinset.mpr (by simpa using (List.mem_filter.mp hc).2), rfl⟩
  rw [hsplit]
  apply Finset.sum_congr rfl
  intro p hp
  unfold contenders slateSize
  rw [List.countP_filter]
  apply List.countP_congr
  intro c _
  rw [List.mem_toFinset] at hp
  simp only [Option.some.injEq, Bool.and_eq_true, decide_eq_true_eq]
  constructor
  · exact fun h => h.1
  · exact fun h => ⟨h, h ▸ hp⟩

theorem contenders_eq_nil_iff {method : ElectionMethod} {ballots : List Ballot}
    (hids : (candidacies.map Candidacy.candidacyId).Nodup)
    (hmarks : ∀ id ∈ ballots.flatMap (marks method candidacies),
      id ∈ candidacies.map Candidacy.candidacyId) :
    contenders method candidacies ballots = [] ↔
      ballots.flatMap (marks method candidacies) = [] := by
  constructor
  · intro hnone
    by_contra hne
    obtain ⟨id, hid⟩ := List.exists_mem_of_ne_nil _ hne
    obtain ⟨c, hc, rfl⟩ := List.mem_map.mp (hmarks id hid)
    have hvoted : slate c ∈ votedSlates method candidacies ballots :=
      List.mem_filterMap.mpr ⟨_, hid, slateOf_candidacy hids hc⟩
    have hmem : c ∈ contenders method candidacies ballots :=
      List.mem_filter.mpr ⟨hc, by simpa using hvoted⟩
    rw [hnone] at hmem
    cases hmem
  · intro hnone
    unfold contenders votedSlates
    rw [hnone, List.filter_eq_nil_iff]
    intro c _
    simp

end Slates

/-! ## One winner -/

theorem Votes.mem_keys_ofMarks {xs : List String} {k : String} :
    k ∈ (Votes.ofMarks xs).keys ↔ k ∈ xs := by
  unfold Votes.ofMarks
  rw [Votes.mem_keys_foldl_add]
  exact or_iff_right List.not_mem_nil

theorem Votes.keys_ofMarks_eq_nil {xs : List String} : (Votes.ofMarks xs).keys = [] ↔ xs = [] := by
  simp only [List.eq_nil_iff_forall_not_mem, Votes.mem_keys_ofMarks]

theorem foldl_max_mem (xs : List Int) (n : Int) : xs.foldl max n = n ∨ xs.foldl max n ∈ xs := by
  induction xs generalizing n with
  | nil => exact .inl rfl
  | cons x xs ih =>
    rw [List.foldl_cons]
    rcases ih (max n x) with hsame | hmem
    · rw [hsame]
      rcases max_choice n x with hmax | hmax
      · exact .inl hmax
      · right
        rw [hmax]
        exact List.mem_cons_self
    · exact .inr (List.mem_cons_of_mem _ hmem)

theorem le_foldl_max (xs : List Int) (n : Int) :
    n ≤ xs.foldl max n ∧ ∀ x ∈ xs, x ≤ xs.foldl max n := by
  induction xs generalizing n with
  | nil => exact ⟨le_rfl, fun _ h => absurd h List.not_mem_nil⟩
  | cons x xs ih =>
    obtain ⟨hstart, hrest⟩ := ih (max n x)
    rw [List.foldl_cons]
    refine ⟨(le_max_left n x).trans hstart, fun y hy => ?_⟩
    rcases List.mem_cons.mp hy with rfl | hy
    · exact (le_max_right n y).trans hstart
    · exact hrest y hy

theorem Votes.tied_top_ne_nil {xs : List String} (h : xs ≠ []) :
    (Votes.ofMarks xs).tied (Votes.ofMarks xs).top ≠ [] := by
  obtain ⟨x, hx⟩ := List.exists_mem_of_ne_nil _ h
  have hcount : (Votes.ofMarks xs).getD x 0 = xs.count x := Votes.getD_ofMarks xs x
  have hpos : 0 < xs.count x := List.count_pos_iff.mpr hx
  have hvalue : (Votes.ofMarks xs).getD x 0 ∈ (Votes.ofMarks xs).values := by
    obtain ⟨n, hn⟩ := Dict.mem_keys_iff.mp (Votes.mem_keys_ofMarks.mpr hx)
    unfold Dict.getD
    rw [hn]
    exact Dict.mem_values_iff.mpr ⟨x, hn⟩
  have htop : (Votes.ofMarks xs).top ∈ (Votes.ofMarks xs).values := by
    have hle := (le_foldl_max (Votes.ofMarks xs).values 0).2 _ hvalue
    rcases foldl_max_mem (Votes.ofMarks xs).values 0 with hzero | hmem
    · omega
    · exact hmem
  obtain ⟨k, hk⟩ := Dict.mem_values_iff.mp htop
  have hget : (Votes.ofMarks xs).getD k 0 = (Votes.ofMarks xs).top := by
    unfold Dict.getD
    rw [hk]
    rfl
  have hkey : k ∈ (Votes.ofMarks xs).keys := Dict.mem_keys_iff.mpr ⟨_, hk⟩
  apply List.ne_nil_of_mem
  exact (List.mem_insertionSort _).mpr (List.mem_filter.mpr ⟨hkey, by simpa using hget⟩)

theorem Votes.mem_of_mem_tied {xs : List String} {n : Int} {k : String}
    (h : k ∈ (Votes.ofMarks xs).tied n) : k ∈ xs := by
  have hmem := (List.mem_insertionSort _).mp h
  exact Votes.mem_keys_ofMarks.mp (List.mem_filter.mp hmem).1

theorem plurality_winner {draw : List String → String}
    (hdraw : ∀ tied, tied ≠ [] → draw tied ∈ tied) (ballots : List Ballot) :
    (choices ballots = [] → (plurality draw ballots).winnerIds = []) ∧
    (choices ballots ≠ [] → ∃ w ∈ choices ballots, (plurality draw ballots).winnerIds = [w]) := by
  constructor
  · intro hnone
    unfold plurality
    rw [if_pos (Votes.keys_ofMarks_eq_nil.mpr hnone)]
  · intro hsome
    have htied := Votes.tied_top_ne_nil hsome
    unfold plurality
    rw [if_neg (mt Votes.keys_ofMarks_eq_nil.mp hsome)]
    refine ⟨_, ?_, rfl⟩
    apply Votes.mem_of_mem_tied (n := (Votes.ofMarks (choices ballots)).top)
    split
    · rename_i one hone
      rw [hone]
      exact List.mem_singleton_self one
    · exact hdraw _ htied

theorem approval_winner (ballots : List Ballot) :
    (approvals ballots = [] → (approval ballots).winnerIds = []) ∧
    (approvals ballots ≠ [] → ∃ w ∈ approvals ballots, (approval ballots).winnerIds = [w]) := by
  have hperm : (Votes.ofMarks (approvals ballots)).ranked.Perm
      (Votes.ofMarks (approvals ballots)).keys := List.perm_insertionSort _ _
  have hmem : ∀ k ∈ (Votes.ofMarks (approvals ballots)).ranked, k ∈ approvals ballots :=
    fun k hk => Votes.mem_keys_ofMarks.mp (hperm.mem_iff.mp hk)
  unfold approval
  dsimp only
  cases hranked : (Votes.ofMarks (approvals ballots)).ranked with
  | nil =>
    rw [hranked] at hperm
    have hnil := Votes.keys_ofMarks_eq_nil.mp hperm.nil_eq.symm
    exact ⟨fun _ => rfl, fun hne => absurd hnil hne⟩
  | cons first rest =>
    rw [hranked] at hmem
    have hfirst := hmem first List.mem_cons_self
    exact ⟨fun hnil => absurd (hnil ▸ hfirst) List.not_mem_nil, fun _ => ⟨first, hfirst, rfl⟩⟩

theorem irv_winner (ballots : List Ballot) :
    (rankedCandidates ballots = [] → (irv ballots).winnerIds = []) ∧
    (rankedCandidates ballots ≠ [] →
      ∃ w ∈ rankedCandidates ballots, (irv ballots).winnerIds = [w]) := by
  refine ⟨fun hnil => (irv_of_nil hnil).1, fun hne => ?_⟩
  obtain ⟨w, hwinner, helects, -⟩ := irv_elects hne
  exact ⟨w, List.mem_toFinset.mp helects.mem, hwinner⟩

/-! ## Highest averages -/

theorem seatCounts_succ (partyVotes : Votes) (seats : Nat) :
    seatCounts partyVotes (seats + 1) = giveSeat partyVotes (seatCounts partyVotes seats) := by
  unfold seatCounts
  rw [List.range_succ, List.foldl_append, List.foldl_cons, List.foldl_nil]

theorem giveSeat_next {partyVotes : Votes} (hne : partyVotes.keys ≠ []) (seats : Votes) :
    ∃ p, NextOf (fun q _ => q ∈ partyVotes.keys) (fun q => partyVotes.getD q 0)
        (fun q => seats.getD q 0) p ∧
      (fun q => (giveSeat partyVotes seats).getD q 0) = give (fun q => seats.getD q 0) p := by
  unfold giveSeat
  cases hmin : partyVotes.keys.argmin fun k =>
      toLex (-(partyVotes.getD k 0 : ℚ) / (seats.getD k 0 + 1 : ℚ), k) with
  | none => exact absurd (List.argmin_eq_none.mp hmin) hne
  | some p =>
    refine ⟨p, ⟨List.argmin_mem hmin, fun d hd => ?_⟩, ?_⟩
    · have hle := Prod.Lex.toLex_le_toLex.mp (List.le_of_mem_argmin hd hmin)
      simp only [neg_div, neg_lt_neg_iff, neg_inj] at hle
      rcases hle with hlt | ⟨heq, hname⟩
      · exact .inl hlt
      · exact .inr ⟨heq.symm, hname⟩
    · funext q
      show (seats.add p).getD q 0 = _
      rw [Votes.getD_add]
      by_cases hq : q = p
      · subst hq
        rw [if_pos rfl, give_self]
      · rw [if_neg hq, give_of_ne hq, add_zero]

theorem seatCounts_allotted {partyVotes : Votes} (hne : partyVotes.keys ≠ []) (seats : Nat) :
    Allotted (fun q _ => q ∈ partyVotes.keys) (fun q => partyVotes.getD q 0) seats
      fun q => (seatCounts partyVotes seats).getD q 0 := by
  induction seats with
  | zero => exact .none
  | succ n ih =>
    obtain ⟨p, hnext, hgive⟩ := giveSeat_next hne (seatCounts partyVotes n)
    rw [seatCounts_succ, hgive]
    exact ih.seat hnext

theorem seatCounts_of_nil {partyVotes : Votes} (hnil : partyVotes.keys = []) (seats : Nat) :
    seatCounts partyVotes seats = ∅ := by
  induction seats with
  | zero => rfl
  | succ n ih =>
    rw [seatCounts_succ, ih]
    unfold giveSeat
    rw [hnil]
    rfl

/-! ## The winners of a slate -/

section Lists

variable {candidacies : List Candidacy}

theorem slateOrder_length (candidacies : List Candidacy) (votes : Votes) (party : String) :
    (slateOrder candidacies votes party).length = slateSize candidacies party := by
  unfold slateOrder slateSize
  rw [List.length_insertionSort, List.length_map, List.countP_eq_length_filter]

theorem mem_slateOrder {votes : Votes} {party id : String} :
    id ∈ slateOrder candidacies votes party ↔
      ∃ c ∈ candidacies, slate c = party ∧ c.candidacyId = id := by
  unfold slateOrder
  rw [List.mem_insertionSort, List.mem_map]
  simp only [List.mem_filter, decide_eq_true_eq, and_assoc]

theorem slateOrder_nodup (hids : (candidacies.map Candidacy.candidacyId).Nodup) (votes : Votes)
    (party : String) : (slateOrder candidacies votes party).Nodup := by
  unfold slateOrder
  refine (List.perm_insertionSort _ _).nodup_iff.mpr ?_
  exact (List.filter_sublist.map _).nodup hids

theorem slateOf_of_mem_slateOrder (hids : (candidacies.map Candidacy.candidacyId).Nodup)
    {votes : Votes} {party id : String} (h : id ∈ slateOrder candidacies votes party) :
    slateOf candidacies id = some party := by
  obtain ⟨c, hc, rfl, rfl⟩ := mem_slateOrder.mp h
  exact slateOf_candidacy hids hc

theorem countP_slateOrder (hids : (candidacies.map Candidacy.candidacyId).Nodup) (votes : Votes)
    (party p : String) (k : Nat) :
    ((slateOrder candidacies votes party).take k).countP
        (fun id => slateOf candidacies id = some p)
      = if party = p then min k (slateSize candidacies party) else 0 := by
  by_cases heq : party = p
  · subst heq
    rw [if_pos rfl, ← slateOrder_length candidacies votes party, ← List.length_take,
      List.countP_eq_length]
    intro id hid
    simpa using slateOf_of_mem_slateOrder hids (List.mem_of_mem_take hid)
  · rw [if_neg heq, List.countP_eq_zero]
    intro id hid
    have hslate := slateOf_of_mem_slateOrder hids (List.mem_of_mem_take hid)
    simp [hslate, heq]

theorem proportional_winners (hids : (candidacies.map Candidacy.candidacyId).Nodup) (seats : Nat)
    (ballots : List Ballot) (p : String)
    (hseats : 0 ≤ (seatCounts (Votes.ofMarks (slateChoices candidacies ballots)) seats).getD p 0) :
    ((proportional candidacies seats ballots).electedOf candidacies p : ℤ)
      = min ((seatCounts (Votes.ofMarks (slateChoices candidacies ballots)) seats).getD p 0)
          (slateSize candidacies p) := by
  generalize hgiven : seatCounts (Votes.ofMarks (slateChoices candidacies ballots)) seats = given
    at hseats ⊢
  have hcount : ((proportional candidacies seats ballots).electedOf candidacies p : ℤ)
      = Dict.total (Dict.sort given) fun q k =>
          if q = p then ((min k.toNat (slateSize candidacies q) : Nat) : ℤ) else 0 := by
    unfold Tally.electedOf proportional Dict.total
    dsimp only
    rw [hgiven, List.countP_flatMap]
    rw [Nat.cast_list_sum, List.map_map]
    congr 1
    apply List.map_congr_left
    intro e _
    simp only [Function.comp_apply, countP_slateOrder hids]
    split <;> simp
  rw [hcount, Dict.total_sort, Dict.total_single]
  unfold Dict.weightAt
  unfold Dict.getD at hseats ⊢
  cases hrow : given.get? p with
  | none =>
    show (0 : ℤ) = min 0 _
    omega
  | some k =>
    rw [hrow] at hseats
    have hk : 0 ≤ k := hseats
    show ((min k.toNat (slateSize candidacies p) : Nat) : ℤ) = min k _
    omega

theorem proportional_nodup (hids : (candidacies.map Candidacy.candidacyId).Nodup) (seats : Nat)
    (ballots : List Ballot) : (proportional candidacies seats ballots).winnerIds.Nodup := by
  unfold proportional
  dsimp only
  rw [List.nodup_flatMap]
  refine ⟨fun e _ => (List.take_sublist _ _).nodup (slateOrder_nodup hids _ _), ?_⟩
  refine (List.pairwise_map.mp (Dict.nodup (Dict.sort _))).imp ?_
  intro e d hne id hid hid'
  have hslate := slateOf_of_mem_slateOrder hids (List.mem_of_mem_take hid)
  have hslate' := slateOf_of_mem_slateOrder hids (List.mem_of_mem_take hid')
  rw [hslate] at hslate'
  exact hne (Option.some.inj hslate')

theorem proportional_own (seats : Nat) (ballots : List Ballot) :
    ∀ id ∈ (proportional candidacies seats ballots).winnerIds,
      id ∈ candidacies.map Candidacy.candidacyId := by
  intro id hid
  unfold proportional at hid
  obtain ⟨e, -, hmem⟩ := List.mem_flatMap.mp hid
  obtain ⟨c, hc, -, rfl⟩ := mem_slateOrder.mp (List.mem_of_mem_take hmem)
  exact List.mem_map_of_mem hc

end Lists

/-! ## Whom a tally elects -/

theorem slateChoices_eq (candidacies : List Candidacy) (ballots : List Ballot) :
    slateChoices candidacies ballots = votedSlates .proportional candidacies ballots := by
  unfold slateChoices votedSlates
  rw [validChoices_eq]
  rfl

theorem referenced_of_mem_marks {method : ElectionMethod} {candidacies : List Candidacy}
    {b : Ballot} {id : String} (h : id ∈ marks method candidacies b) : id ∈ referenced b := by
  unfold referenced
  rw [List.mem_append, List.mem_append]
  cases method with
  | plurality => exact .inl (.inl h)
  | approval => exact .inr (mem_sortedSet.mp h)
  | irv =>
    left
    right
    exact List.mem_of_mem_head? (by simpa [marks] using h)
  | proportional => exact .inl (.inl (List.mem_filter.mp h).1)

/-- The seats a proportional election deals: none without votes. -/
def seatsDealt (candidacies : List Candidacy) (election : Election) (ballots : List Ballot) : Nat :=
  if votedSlates .proportional candidacies ballots = [] then 0 else election.seats

section Proportional

variable {candidacies : List Candidacy} {election : Election} {ballots : List Ballot}

theorem proportional_allotted (hids : (candidacies.map Candidacy.candidacyId).Nodup)
    (seats : Nat) (ballots : List Ballot) :
    ∃ won, Allotted (fun p _ => p ∈ votedSlates .proportional candidacies ballots)
        (fun p => (votedSlates .proportional candidacies ballots).count p)
        (if votedSlates .proportional candidacies ballots = [] then 0 else seats) won ∧
      ∀ p, ((proportional candidacies seats ballots).electedOf candidacies p : ℤ)
        = min (won p) (slateSize candidacies p) := by
  have hwinners := proportional_winners hids seats ballots
  rw [slateChoices_eq] at hwinners
  by_cases hnone : votedSlates .proportional candidacies ballots = []
  · refine ⟨fun _ => 0, ?_, fun p => ?_⟩
    · rw [if_pos hnone]
      exact .none
    · rw [seatCounts_of_nil (Votes.keys_ofMarks_eq_nil.mpr hnone)] at hwinners
      exact hwinners p le_rfl
  · have hdealt := seatCounts_allotted (mt Votes.keys_ofMarks_eq_nil.mp hnone) seats
    refine ⟨_, ?_, fun p => hwinners p (hdealt.nonneg p)⟩
    rw [if_neg hnone]
    simpa only [Votes.mem_keys_ofMarks, Votes.getD_ofMarks] using hdealt

theorem proportional_length (hids : (candidacies.map Candidacy.candidacyId).Nodup) (seats : Nat)
    {won : String → ℤ} (hwon : ∀ p ∉ votedSlates .proportional candidacies ballots, won p = 0)
    (helected : ∀ p, ((proportional candidacies seats ballots).electedOf candidacies p : ℤ)
      = min (won p) (slateSize candidacies p)) :
    ((proportional candidacies seats ballots).winnerIds.length : ℤ)
      = ∑ p ∈ (votedSlates .proportional candidacies ballots).toFinset,
          min (won p) (slateSize candidacies p) := by
  have hsplit := length_eq_sum_slates (proportional candidacies seats ballots).winnerIds
    (votedSlates .proportional candidacies ballots).toFinset (slateOf candidacies) ?_
  · rw [hsplit]
    push_cast
    exact Finset.sum_congr rfl fun p _ => helected p
  · intro id hid
    obtain ⟨c, hc, rfl⟩ := List.mem_map.mp (proportional_own seats ballots id hid)
    refine ⟨slate c, ?_, slateOf_candidacy hids hc⟩
    -- a slate without votes elects nobody
    by_contra hout
    rw [List.mem_toFinset] at hout
    have hzero := helected (slate c)
    rw [hwon _ hout] at hzero
    have hpos : 0 < (proportional candidacies seats ballots).electedOf candidacies (slate c) :=
      List.countP_pos_iff.mpr ⟨_, hid, by simp [slateOf_candidacy hids hc]⟩
    omega

theorem proportional_fills (hids : (candidacies.map Candidacy.candidacyId).Nodup)
    (hmethod : election.method = .proportional) {won : String → ℤ}
    (hwon : Allotted (fun p _ => p ∈ votedSlates .proportional candidacies ballots)
      (fun p => (votedSlates .proportional candidacies ballots).count p)
      (seatsDealt candidacies election ballots) won)
    (helected : ∀ p, ((proportional candidacies election.seats ballots).electedOf candidacies p : ℤ)
      = min (won p) (slateSize candidacies p)) :
    FillsSeats candidacies election ballots (proportional candidacies election.seats ballots) ↔
      (∀ p ∈ votedSlates .proportional candidacies ballots, won p ≤ slateSize candidacies p) ∨
      ∀ p ∈ votedSlates .proportional candidacies ballots,
        (slateSize candidacies p : ℤ) ≤ won p := by
  have hrooms : ∀ (p : String) (k : ℤ), p ∈ votedSlates .proportional candidacies ballots →
      p ∈ (votedSlates .proportional candidacies ballots).toFinset :=
    fun _ _ h => List.mem_toFinset.mpr h
  have hout : ∀ p ∉ votedSlates .proportional candidacies ballots, won p = 0 :=
    fun p hp => hwon.eq_zero hrooms (mt List.mem_toFinset.mp hp)
  have hsum := hwon.sum hrooms
  have hlength := proportional_length hids election.seats hout helected
  have hcontenders := contenders_length .proportional candidacies ballots
  have hmin : ((min election.seats (contenders .proportional candidacies ballots).length : Nat) : ℤ)
      = min (∑ p ∈ (votedSlates .proportional candidacies ballots).toFinset, won p)
          (∑ p ∈ (votedSlates .proportional candidacies ballots).toFinset,
            (slateSize candidacies p : ℤ)) := by
    rw [hsum, hcontenders]
    unfold seatsDealt
    by_cases hnone : votedSlates .proportional candidacies ballots = []
    · simp [hnone]
    · rw [if_neg hnone]
      push_cast
      rfl
  have hsplit := sum_min_eq_iff won (fun p => (slateSize candidacies p : ℤ))
    (votedSlates .proportional candidacies ballots).toFinset
  simp only [List.mem_toFinset] at hsplit
  rw [← hlength, ← hmin] at hsplit
  constructor
  · intro hfills
    have hnumber := hfills.number
    rw [hmethod] at hnumber
    exact hsplit.mp (by exact_mod_cast hnumber)
  · intro hcase
    refine ⟨proportional_nodup hids _ _, proportional_own _ _, ?_, fun _ => ?_⟩
    · rw [hmethod]
      exact_mod_cast hsplit.mpr hcase
    · have hwinners : (fun p => ((proportional candidacies election.seats ballots).electedOf
          candidacies p : ℤ)) = fun p => min (won p) (slateSize candidacies p) := funext helected
      rw [hwinners]
      rcases hcase with hbelow | habove
      · -- no slate is used up, so no seat went to one without candidacies
        have hle : ∀ p, won p ≤ slateSize candidacies p := by
          intro p
          by_cases hp : p ∈ votedSlates .proportional candidacies ballots
          · exact hbelow p hp
          · rw [hout p hp]
            omega
        have hall : (fun p => min (won p) (slateSize candidacies p : ℤ)) = won :=
          funext fun p => min_eq_left (hle p)
        have hdealt : (proportional candidacies election.seats ballots).winnerIds.length
            = seatsDealt candidacies election ballots := by
          have hmins : ∑ p ∈ (votedSlates .proportional candidacies ballots).toFinset,
              min (won p) (slateSize candidacies p : ℤ)
              = ∑ p ∈ (votedSlates .proportional candidacies ballots).toFinset, won p :=
            Finset.sum_congr rfl fun p _ => min_eq_left (hle p)
          rw [hmins, hsum] at hlength
          exact_mod_cast hlength
        rw [hall, hdealt]
        exact hwon.limit hle
      · -- every slate is used up
        have hfull : ∀ p ∈ (votedSlates .proportional candidacies ballots).toFinset,
            min (won p) (slateSize candidacies p : ℤ) = slateSize candidacies p :=
          fun p hp => min_eq_right (habove p (List.mem_toFinset.mp hp))
        have hall : (fun p => min (won p) (slateSize candidacies p : ℤ)) = fun p =>
            if p ∈ (votedSlates .proportional candidacies ballots).toFinset
            then (slateSize candidacies p : ℤ) else 0 := by
          funext p
          by_cases hp : p ∈ (votedSlates .proportional candidacies ballots).toFinset
          · rw [if_pos hp, hfull p hp]
          · rw [if_neg hp, hout p (mt List.mem_toFinset.mpr hp)]
            omega
        rw [Finset.sum_congr rfl hfull] at hlength
        have hfill := Allotted.fill (fun p =>
          ((votedSlates .proportional candidacies ballots).count p : ℤ))
          (fun p _ => Int.natCast_nonneg (slateSize candidacies p)) hlength
        rw [hall]
        simpa only [List.mem_toFinset] using hfill

end Proportional

theorem single_winner {draw : List String → String}
    (hdraw : ∀ tied, tied ≠ [] → draw tied ∈ tied) {candidacies : List Candidacy}
    {election : Election} {ballots : List Ballot}
    (hids : (candidacies.map Candidacy.candidacyId).Nodup)
    (hvalid : ∀ b ∈ ballots, ∀ id ∈ referenced b, id ∈ candidacies.map Candidacy.candidacyId)
    (hmethod : election.method ≠ .proportional) :
    (tally draw candidacies election ballots).winnerIds.Nodup ∧
    (∀ id ∈ (tally draw candidacies election ballots).winnerIds,
      id ∈ candidacies.map Candidacy.candidacyId) ∧
    (tally draw candidacies election ballots).winnerIds.length
      = min 1 (contenders election.method candidacies ballots).length := by
  have hmarks : ∀ id ∈ ballots.flatMap (marks election.method candidacies),
      id ∈ candidacies.map Candidacy.candidacyId := by
    intro id hid
    obtain ⟨b, hb, hmark⟩ := List.mem_flatMap.mp hid
    exact hvalid b hb id (referenced_of_mem_marks hmark)
  have hnone := contenders_eq_nil_iff hids hmarks
  -- one winner among the referenced if anything is marked, and else none
  have hrule : (ballots.flatMap (marks election.method candidacies) = [] →
        (tally draw candidacies election ballots).winnerIds = []) ∧
      (ballots.flatMap (marks election.method candidacies) ≠ [] →
        ∃ w, (∃ b ∈ ballots, w ∈ referenced b) ∧
          (tally draw candidacies election ballots).winnerIds = [w]) := by
    unfold tally
    cases hm : election.method with
    | plurality =>
      obtain ⟨hempty, hone⟩ := plurality_winner hdraw ballots
      rw [choices_eq] at hempty hone
      refine ⟨hempty, fun hne => ?_⟩
      obtain ⟨w, hw, hwinner⟩ := hone hne
      obtain ⟨b, hb, hmark⟩ := List.mem_flatMap.mp hw
      exact ⟨w, ⟨b, hb, referenced_of_mem_marks hmark⟩, hwinner⟩
    | approval =>
      obtain ⟨hempty, hone⟩ := approval_winner ballots
      refine ⟨hempty, fun hne => ?_⟩
      obtain ⟨w, hw, hwinner⟩ := hone hne
      obtain ⟨b, hb, hmark⟩ := List.mem_flatMap.mp hw
      have happroved : w ∈ marks .approval candidacies b := hmark
      exact ⟨w, ⟨b, hb, referenced_of_mem_marks happroved⟩, hwinner⟩
    | irv =>
      obtain ⟨hempty, hone⟩ := irv_winner ballots
      have hnil : ballots.flatMap (marks .irv candidacies) = []
          ↔ rankedCandidates ballots = [] := by
        unfold rankedCandidates
        rw [List.dedup_eq_nil, List.flatMap_eq_nil_iff, List.flatMap_eq_nil_iff]
        simp [marks]
      refine ⟨fun h => hempty (hnil.mp h), fun hne => ?_⟩
      obtain ⟨w, hw, hwinner⟩ := hone (mt hnil.mpr hne)
      obtain ⟨b, hb, hranked⟩ := mem_rankedCandidates.mp hw
      exact ⟨w, ⟨b, hb, by unfold referenced; simp [hranked]⟩, hwinner⟩
    | proportional => exact absurd hm hmethod
  by_cases hempty : ballots.flatMap (marks election.method candidacies) = []
  · rw [hrule.1 hempty, hnone.mpr hempty]
    exact ⟨List.nodup_nil, fun _ h => absurd h List.not_mem_nil, rfl⟩
  · obtain ⟨w, ⟨b, hb, href⟩, hwinner⟩ := hrule.2 hempty
    have hstanding := List.length_pos_iff.mpr (mt hnone.mp hempty)
    rw [hwinner]
    refine ⟨List.nodup_singleton w, fun id hid => ?_, ?_⟩
    · rw [List.mem_singleton.mp hid]
      exact hvalid b hb w href
    · rw [List.length_singleton]
      omega

/-- **Whom a tally elects.**  The winners are distinct candidacies of the
election.  Every rule but the proportional one elects one candidacy if any is
marked.  The proportional rule deals the seats by highest averages among the
slates with votes and elects of each slate as many as it won or has; the
seats are filled exactly when no slate won more than it has, or every one at
least as many. -/
theorem tally_elects (draw : List String → String)
    (hdraw : ∀ tied, tied ≠ [] → draw tied ∈ tied) (candidacies : List Candidacy)
    (election : Election) (ballots : List Ballot)
    (hids : (candidacies.map Candidacy.candidacyId).Nodup)
    (hvalid : ∀ b ∈ ballots, ∀ id ∈ referenced b, id ∈ candidacies.map Candidacy.candidacyId) :
    (tally draw candidacies election ballots).winnerIds.Nodup ∧
    (∀ id ∈ (tally draw candidacies election ballots).winnerIds,
      id ∈ candidacies.map Candidacy.candidacyId) ∧
    (election.method ≠ .proportional →
      (tally draw candidacies election ballots).winnerIds.length
        = min 1 (contenders election.method candidacies ballots).length) ∧
    (election.method = .proportional →
      ∃ won, Allotted (fun p _ => p ∈ votedSlates .proportional candidacies ballots)
          (fun p => (votedSlates .proportional candidacies ballots).count p)
          (seatsDealt candidacies election ballots) won ∧
        (∀ p, ((tally draw candidacies election ballots).electedOf candidacies p : ℤ)
          = min (won p) (slateSize candidacies p)) ∧
        (FillsSeats candidacies election ballots (tally draw candidacies election ballots) ↔
          (∀ p ∈ votedSlates .proportional candidacies ballots, won p ≤ slateSize candidacies p) ∨
          ∀ p ∈ votedSlates .proportional candidacies ballots,
            (slateSize candidacies p : ℤ) ≤ won p)) := by
  by_cases hmethod : election.method = .proportional
  · have htally : tally draw candidacies election ballots
        = proportional candidacies election.seats ballots := by
      unfold tally
      rw [hmethod]
    rw [htally]
    refine ⟨proportional_nodup hids _ _, proportional_own _ _, fun h => absurd hmethod h,
      fun _ => ?_⟩
    obtain ⟨won, hwon, helected⟩ := proportional_allotted hids election.seats ballots
    exact ⟨won, hwon, helected, proportional_fills hids hmethod hwon helected⟩
  · obtain ⟨hnodup, hown, hlength⟩ := single_winner hdraw hids hvalid hmethod
    exact ⟨hnodup, hown, fun _ => hlength, fun h => absurd h hmethod⟩

/-! ## Empty seats -/

/-- A candidacy of an election for a party. -/
def standing (id party : String) : Candidacy :=
  { candidacyId := id, electionId := "el", agentId := id, partyId := some party, platform := ∅,
    spendCents := 0, votes := 0 }

/-- An election of two seats. -/
def twoSeats (method : ElectionMethod) : Election :=
  { electionId := "el", office := "judge", seats := 2, method, calledTick := 0, votingTick := 720,
    campaignEndsTick := 552, electorateIds := ["v1", "v2", "v3", "v4"] }

/-- Four ballots, three of them for the only candidacy of a party. -/
def fourBallots : List Ballot :=
  [{ voterId := "v1", choice := some "a1" }, { voterId := "v2", choice := some "a1" },
    { voterId := "v3", choice := some "b1" }, { voterId := "v4", choice := some "a1" }]

theorem tally_elects_judge :
    (tally (fun tied => tied.headD "") [standing "a1" "pa", standing "b1" "pb"]
      (twoSeats .plurality) fourBallots).winnerIds.length
      = min 1 (contenders .plurality [standing "a1" "pa", standing "b1" "pb"]
          fourBallots).length :=
  (tally_elects (fun tied => tied.headD "")
    (fun tied h => by cases tied with
      | nil => exact absurd rfl h
      | cons x xs => exact List.mem_cons_self)
    [standing "a1" "pa", standing "b1" "pb"] (twoSeats .plurality) fourBallots (by decide)
    (by decide)).2.2.1 (by decide)

/-- **An office of two seats gets one holder**: a plurality has one winner,
and the proportional rule gives both seats to a party with one candidacy. -/
theorem seats_stay_empty :
    ¬FillsSeats [standing "a1" "pa", standing "b1" "pb"] (twoSeats .plurality) fourBallots
      (tally (fun tied => tied.headD "") [standing "a1" "pa", standing "b1" "pb"]
        (twoSeats .plurality) fourBallots) ∧
    ¬FillsSeats [standing "a1" "pa", standing "b1" "pb"] (twoSeats .proportional) fourBallots
      (tally (fun tied => tied.headD "") [standing "a1" "pa", standing "b1" "pb"]
        (twoSeats .proportional) fourBallots) := by
  constructor
  · intro h
    have hnumber := h.number
    revert hnumber
    decide +kernel
  · intro h
    have hnumber := h.number
    revert hnumber
    decide +kernel

end Polis.Society
