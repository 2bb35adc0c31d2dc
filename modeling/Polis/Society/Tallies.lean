/-
  Polis.Society.Tallies — the four tally rules (`ElectionOffice._plurality`
  to `tally`, `society/polity.py`).

  Every rule reads one field of a ballot: plurality and proportional its
  choice, approval its approvals, instant runoff its ranking.  `marks` are
  the candidacies a ballot adds one vote to.

  Main results:
    * `tally_count` — the votes of a candidacy are the ballots that mark it.
    * `everyBallotCounts_iff` — every ballot counts exactly when each ballot
      that marks anything marks what its rule reads.
-/
import Polis.Society.PolityState

namespace Polis.Society

open Lib

attribute [local instance] intOrder

/-! ## Counting -/

/-- Votes by candidacy. -/
abbrev Votes := Dict String Int

namespace Votes

/-- `counts[x] += 1`. -/
def add (votes : Votes) (x : String) : Votes := votes.put x (votes.getD x 0 + 1)

/-- All votes together. -/
def sum (votes : Votes) : Int := votes.values.sum

/-- The largest count. -/
def top (votes : Votes) : Int := votes.values.foldl max 0

/-- The keys in the order of `sorted(counts, key=...)` by votes, most first. -/
def ranked (votes : Votes) : List String :=
  votes.keys.insertionSort fun a b =>
    toLex (-(votes.getD a 0), a) ≤ toLex (-(votes.getD b 0), b)

/-- The key with most votes, the first of equals. -/
def leader (votes : Votes) : Option String :=
  votes.keys.argmin fun k => toLex (-(votes.getD k 0), k)

/-- The key with fewest votes, the first of equals. -/
def loser (votes : Votes) : Option String :=
  votes.keys.argmin fun k => toLex (votes.getD k 0, k)

theorem getD_add (votes : Votes) (x y : String) :
    (votes.add x).getD y 0 = votes.getD y 0 + if y = x then 1 else 0 := by
  unfold add Dict.getD
  rw [Dict.get?_put]
  by_cases h : y = x
  · subst h
    rw [if_pos rfl, if_pos rfl]
    rfl
  · rw [if_neg h, if_neg h, add_zero]

theorem sum_eq_total (votes : Votes) : votes.sum = votes.total fun _ n => n := rfl

theorem sum_add (votes : Votes) (x : String) : (votes.add x).sum = votes.sum + 1 := by
  rw [sum_eq_total, sum_eq_total]
  unfold add Dict.getD
  cases h : votes.get? x with
  | none =>
    rw [Dict.total_put_of_none _ h]
    rfl
  | some n =>
    rw [Dict.total_put_of_some _ h]
    show _ - n + (n + 1) = _
    omega

theorem getD_foldl_add (xs : List String) (votes : Votes) (y : String) :
    (xs.foldl add votes).getD y 0 = votes.getD y 0 + xs.count y := by
  induction xs generalizing votes with
  | nil => simp
  | cons x xs ih =>
    rw [List.foldl_cons, ih, getD_add, List.count_cons]
    by_cases h : y = x
    · subst h
      simp only [if_pos, beq_self_eq_true]
      omega
    · have hne : (x == y) = false := beq_eq_false_iff_ne.mpr fun hxy => h hxy.symm
      simp [h, hne]

theorem sum_foldl_add (xs : List String) (votes : Votes) :
    (xs.foldl add votes).sum = votes.sum + xs.length := by
  induction xs generalizing votes with
  | nil => simp
  | cons x xs ih =>
    rw [List.foldl_cons, ih, sum_add, List.length_cons]
    omega

/-- The votes of a list of marks. -/
def ofMarks (xs : List String) : Votes := xs.foldl add ∅

theorem getD_ofMarks (xs : List String) (y : String) : (ofMarks xs).getD y 0 = xs.count y := by
  unfold ofMarks
  rw [getD_foldl_add]
  show (0 : Int) + _ = _
  omega

theorem sum_ofMarks (xs : List String) : (ofMarks xs).sum = xs.length := by
  unfold ofMarks
  rw [sum_foldl_add]
  show (0 : Int) + _ = _
  omega

theorem getD_sort (votes : Votes) (y : String) :
    Dict.getD (Dict.sort votes) y 0 = votes.getD y 0 := by
  unfold Dict.getD
  rw [Dict.sort_get?]

theorem sum_sort (votes : Votes) : Votes.sum (Dict.sort votes) = votes.sum :=
  Dict.total_sort votes fun _ n => n

end Votes

/-! ## The rules -/

/-- `Tally`. -/
structure Tally where
  counts : Votes
  winnerIds : List String
  margin : ℚ
  rounds : List Votes := []

/-- The choices of the ballots. -/
def choices (ballots : List Ballot) : List String := ballots.filterMap Ballot.choice

/-- The keys with a number of votes, in order. -/
def Votes.tied (votes : Votes) (n : Int) : List String :=
  (votes.keys.filter fun k => votes.getD k 0 = n).insertionSort (· ≤ ·)

/-- The largest count of another key. -/
def Votes.second (votes : Votes) (winner : String) : Int :=
  ((votes.entries.filter fun e => e.1 ≠ winner).map Prod.snd).foldl max 0

/-- `_plurality`; `draw` is the seeded choice among the tied. -/
def plurality (draw : List String → String) (ballots : List Ballot) : Tally :=
  let counts := Votes.ofMarks (choices ballots)
  if counts.keys = [] then { counts := ∅, winnerIds := [], margin := 0 }
  else
    let tied := counts.tied counts.top
    let winner := match tied with
      | [one] => one
      | _ => draw tied
    { counts := Dict.sort counts
      winnerIds := [winner]
      margin := Kernel.round6
        (((counts.top - counts.second winner : Int) : ℚ) / ((max 1 counts.sum : Int) : ℚ))
      rounds := if tied.length > 1 then
        [Dict.ofList [("tie_break_candidates", (tied.length : Int))]] else [] }

/-- The approvals of the ballots, each ballot's without repetition. -/
def approvals (ballots : List Ballot) : List String :=
  ballots.flatMap fun b => sortedSet b.approvals

/-- `_approval`. -/
def approval (ballots : List Ballot) : Tally :=
  let counts := Votes.ofMarks (approvals ballots)
  match counts.ranked with
  | [] => { counts := ∅, winnerIds := [], margin := 0 }
  | first :: rest =>
    let total : ℚ := max 1 ballots.length
    let lead : ℚ := counts.getD first 0 - (rest.head?.map fun k => counts.getD k 0).getD 0
    { counts := Dict.sort counts
      winnerIds := [first]
      margin := Kernel.round6 (lead / total) }

/-- The first candidacy of a ranking that is still active. -/
def topChoice (active : List String) (b : Ballot) : Option String :=
  b.ranking.find? fun c => c ∈ active

/-- The zero counts a round starts from. -/
def zeros (active : List String) : Votes :=
  (active.insertionSort (· ≤ ·)).foldl (fun votes c => Dict.put votes c 0) ∅

/-- The counts of one round. -/
def roundCounts (ballots : List Ballot) (active : List String) : Votes :=
  (ballots.filterMap (topChoice active)).foldl Votes.add (zeros active)

/-- The rounds of `_irv`: each but the last drops one candidacy. -/
def irvRounds (ballots : List Ballot) (active : List String) (rounds : List Votes)
    (last : Votes) : Tally :=
  if active = [] then { counts := last, winnerIds := [], margin := 0, rounds }
  else
    let counts := roundCounts ballots active
    let total := counts.sum
    if total = 0 then { counts, winnerIds := [], margin := 0, rounds := rounds ++ [counts] }
    else
      match counts.leader with
      | none => { counts, winnerIds := [], margin := 0, rounds := rounds ++ [counts] }
      | some leader =>
        if counts.getD leader 0 * 2 > total ∨ active.length = 1 then
          { counts
            winnerIds := [leader]
            margin := Kernel.round6
              (((counts.getD leader 0 - counts.second leader : Int) : ℚ) / (total : ℚ))
            rounds := rounds ++ [counts] }
        else
          match counts.loser with
          | none => { counts, winnerIds := [], margin := 0, rounds := rounds ++ [counts] }
          | some loser =>
            if _h : loser ∈ active then
              irvRounds ballots (active.erase loser) (rounds ++ [counts]) counts
            else { counts, winnerIds := [], margin := 0, rounds := rounds ++ [counts] }
termination_by active.length
decreasing_by
  rw [List.length_erase_of_mem _h]
  have := List.length_pos_of_mem _h
  omega

/-- `_irv`: every candidacy of a ranking is active at first. -/
def irv (ballots : List Ballot) : Tally :=
  irvRounds ballots (ballots.flatMap Ballot.ranking).dedup [] ∅

/-- The party a candidacy stands for. -/
def slate (c : Candidacy) : String :=
  (c.partyId.filter fun p => p ≠ "").getD ("independent:" ++ c.candidacyId)

/-- The choices of the ballots that are candidacies of the election. -/
def validChoices (candidacies : List Candidacy) (ballots : List Ballot) : List String :=
  (choices ballots).filter fun x => x ∈ candidacies.map Candidacy.candidacyId

/-- The slates of the choices. -/
def slateChoices (candidacies : List Candidacy) (ballots : List Ballot) : List String :=
  (validChoices candidacies ballots).filterMap fun x =>
    (candidacies.find? fun c => c.candidacyId = x).map slate

/-- One seat of the highest-averages allocation. -/
def giveSeat (partyVotes seats : Votes) : Votes :=
  match partyVotes.keys.argmin fun k =>
      toLex (-(partyVotes.getD k 0 : ℚ) / (seats.getD k 0 + 1 : ℚ), k) with
  | some party => seats.add party
  | none => seats

/-- The seats of every slate. -/
def seatCounts (partyVotes : Votes) (seats : Nat) : Votes :=
  (List.range seats).foldl (fun counts _ => giveSeat partyVotes counts) ∅

/-- The candidacies of a slate, most votes first. -/
def slateOrder (candidacies : List Candidacy) (votes : Votes) (party : String) : List String :=
  let rows := candidacies.filter fun c => slate c = party
  (rows.map Candidacy.candidacyId).insertionSort fun a b =>
    toLex (-(votes.getD a 0), a) ≤ toLex (-(votes.getD b 0), b)

/-- `_proportional`. -/
def proportional (candidacies : List Candidacy) (seats : Nat) (ballots : List Ballot) : Tally :=
  let votes := Votes.ofMarks (validChoices candidacies ballots)
  let given := seatCounts (Votes.ofMarks (slateChoices candidacies ballots)) seats
  { counts := Dict.sort votes
    winnerIds := (Dict.sort given).entries.flatMap fun e =>
      (slateOrder candidacies votes e.1).take e.2.toNat
    margin := 0
    rounds := [Dict.sort given] }

/-- `tally`: the rule of the election. -/
def tally (draw : List String → String) (candidacies : List Candidacy) (election : Election)
    (ballots : List Ballot) : Tally :=
  match election.method with
  | .plurality => plurality draw ballots
  | .approval => approval ballots
  | .irv => irv ballots
  | .proportional => proportional candidacies election.seats ballots

/-! ## What a ballot marks -/

/-- The candidacies a ballot adds one vote to, under instant runoff in the
first round. -/
def marks (method : ElectionMethod) (candidacies : List Candidacy) (b : Ballot) : List String :=
  match method with
  | .plurality => b.choice.toList
  | .approval => sortedSet b.approvals
  | .irv => b.ranking.head?.toList
  | .proportional => b.choice.toList.filter fun x => x ∈ candidacies.map Candidacy.candidacyId

/-- A ballot fills the field a rule reads. -/
def Fills (method : ElectionMethod) (candidacies : List Candidacy) (b : Ballot) : Prop :=
  match method with
  | .plurality => b.choice ≠ none
  | .approval => b.approvals ≠ []
  | .irv => b.ranking ≠ []
  | .proportional => ∃ id, b.choice = some id ∧ id ∈ candidacies.map Candidacy.candidacyId

theorem marks_ne_nil_iff {method : ElectionMethod} {candidacies : List Candidacy} {b : Ballot} :
    marks method candidacies b ≠ [] ↔ Fills method candidacies b := by
  cases method with
  | plurality => cases hb : b.choice <;> simp [marks, Fills, hb]
  | approval =>
    have hnil : sortedSet b.approvals = [] ↔ b.approvals = [] := by
      simp only [List.eq_nil_iff_forall_not_mem, mem_sortedSet]
    exact not_congr hnil
  | irv => cases hb : b.ranking <;> simp [marks, Fills, hb]
  | proportional => cases hb : b.choice <;> simp [marks, Fills, hb]

/-- The votes the ballots themselves give: the counts, or the first round. -/
def Tally.given (t : Tally) : ElectionMethod → Votes
  | .irv => t.rounds.headD ∅
  | _ => t.counts

theorem sortedSet_nodup (ids : List String) : (sortedSet ids).Nodup :=
  (List.perm_insertionSort _ _).nodup_iff.mpr (List.nodup_dedup ids)

theorem marks_nodup (method : ElectionMethod) (candidacies : List Candidacy) (b : Ballot) :
    (marks method candidacies b).Nodup := by
  cases method with
  | plurality => cases hb : b.choice <;> simp [marks, hb]
  | approval => exact sortedSet_nodup b.approvals
  | irv => cases hb : b.ranking <;> simp [marks, hb]
  | proportional =>
    apply List.Nodup.filter
    cases b.choice <;> simp

theorem marks_of_abstains {method : ElectionMethod} {candidacies : List Candidacy} {b : Ballot}
    (h : b.Abstains) : marks method candidacies b = [] := by
  obtain ⟨hchoice, hranking, happrovals⟩ := h
  cases method with
  | plurality => simp [marks, hchoice]
  | approval => simp [marks, happrovals, sortedSet]
  | irv => simp [marks, hranking]
  | proportional => simp [marks, hchoice]

/-! ## The counts -/

theorem choices_eq (ballots : List Ballot) :
    choices ballots = ballots.flatMap (marks .plurality []) := by
  unfold choices
  rw [List.filterMap_eq_flatMap_toList]
  rfl

theorem validChoices_eq (candidacies : List Candidacy) (ballots : List Ballot) :
    validChoices candidacies ballots = ballots.flatMap (marks .proportional candidacies) := by
  unfold validChoices choices
  rw [List.filterMap_eq_flatMap_toList, List.filter_flatMap]
  rfl

theorem sort_of_keys_nil {votes : Votes} (h : votes.keys = []) : Dict.sort votes = ∅ := by
  have hnil : votes.entries = [] := List.map_eq_nil_iff.mp h
  apply Dict.ext_entries
  show Dict.sortedEntries votes = []
  unfold Dict.sortedEntries
  rw [hnil]
  rfl

theorem plurality_counts (draw : List String → String) (ballots : List Ballot) :
    (plurality draw ballots).counts = Dict.sort (Votes.ofMarks (choices ballots)) := by
  unfold plurality
  dsimp only
  split
  · rename_i h
    exact (sort_of_keys_nil h).symm
  · rfl

theorem approval_counts (ballots : List Ballot) :
    (approval ballots).counts = Dict.sort (Votes.ofMarks (approvals ballots)) := by
  unfold approval
  dsimp only
  split
  · rename_i h
    have hperm : (Votes.ofMarks (approvals ballots)).ranked.Perm
        (Votes.ofMarks (approvals ballots)).keys := List.perm_insertionSort _ _
    rw [h] at hperm
    exact (sort_of_keys_nil hperm.nil_eq.symm).symm
  · rfl

theorem irvRounds_prefix (ballots : List Ballot) (active : List String) (rounds : List Votes)
    (last : Votes) : rounds <+: (irvRounds ballots active rounds last).rounds := by
  fun_induction irvRounds ballots active rounds last with
  | case1 => exact List.prefix_refl _
  | case2 => exact List.prefix_append _ _
  | case3 => exact List.prefix_append _ _
  | case4 => exact List.prefix_append _ _
  | case5 => exact List.prefix_append _ _
  | case6 => rename_i ih; exact (List.prefix_append _ _).trans ih
  | case7 => exact List.prefix_append _ _

theorem irvRounds_first {ballots : List Ballot} {active : List String} (h : active ≠ [])
    (rounds : List Votes) (last : Votes) :
    (rounds ++ [roundCounts ballots active]) <+: (irvRounds ballots active rounds last).rounds := by
  unfold irvRounds
  rw [if_neg h]
  dsimp only
  repeat' split
  all_goals first | exact List.prefix_refl _ | exact irvRounds_prefix _ _ _ _

theorem zeros_spec (active : List String) :
    (∀ y, (zeros active).getD y 0 = 0) ∧ (zeros active).sum = 0 := by
  unfold zeros
  generalize active.insertionSort (· ≤ ·) = sorted
  have hstart : (∀ y, (∅ : Votes).getD y 0 = 0) ∧ (∅ : Votes).sum = 0 := ⟨fun _ => rfl, rfl⟩
  revert hstart
  generalize (∅ : Votes) = start
  induction sorted generalizing start with
  | nil => exact id
  | cons c cs ih =>
    rintro ⟨hget, hsum⟩
    rw [List.foldl_cons]
    apply ih
    constructor
    · intro y
      unfold Dict.getD
      rw [Dict.get?_put]
      by_cases hy : y = c
      · rw [if_pos hy]
        rfl
      · rw [if_neg hy]
        exact hget y
    · rw [Votes.sum_eq_total] at hsum ⊢
      have hc := hget c
      unfold Dict.getD at hc
      cases hrow : start.get? c with
      | none =>
        rw [Dict.total_put_of_none _ hrow, hsum]
        rfl
      | some n =>
        rw [hrow] at hc
        have hn : n = 0 := hc
        rw [Dict.total_put_of_some _ hrow, hsum, hn]
        rfl

theorem topChoice_of_mem {ballots : List Ballot} {b : Ballot} (hb : b ∈ ballots) :
    topChoice (ballots.flatMap Ballot.ranking).dedup b = b.ranking.head? := by
  unfold topChoice
  cases hr : b.ranking with
  | nil => rfl
  | cons c cs =>
    have hc : c ∈ (ballots.flatMap Ballot.ranking).dedup := by
      rw [List.mem_dedup, List.mem_flatMap]
      exact ⟨b, hb, by rw [hr]; exact List.mem_cons_self⟩
    rw [List.find?_cons_of_pos (by simpa using hc)]
    rfl

theorem irv_given (ballots : List Ballot) :
    (∀ y, ((irv ballots).given .irv).getD y 0 = (ballots.flatMap (marks .irv [])).count y) ∧
    ((irv ballots).given .irv).sum = (ballots.flatMap (marks .irv [])).length := by
  have hmarks : ballots.flatMap (marks .irv []) = ballots.filterMap fun b => b.ranking.head? := by
    rw [List.filterMap_eq_flatMap_toList]
    rfl
  by_cases hactive : (ballots.flatMap Ballot.ranking).dedup = []
  · -- without rankings there is no round
    have hnone : ∀ b ∈ ballots, b.ranking = [] := by
      have hnil := (List.dedup_eq_nil _).mp hactive
      exact List.flatMap_eq_nil_iff.mp hnil
    have hnil : (ballots.filterMap fun b => b.ranking.head?) = [] := by
      rw [List.filterMap_eq_nil_iff]
      intro b hb
      rw [hnone b hb]
      rfl
    rw [hmarks, hnil]
    unfold irv irvRounds
    rw [if_pos hactive]
    exact ⟨fun _ => rfl, rfl⟩
  · obtain ⟨rest, hrest⟩ := irvRounds_first hactive [] ∅
    have hgiven : (irv ballots).given .irv
        = roundCounts ballots (ballots.flatMap Ballot.ranking).dedup := by
      show (irv ballots).rounds.headD ∅ = _
      unfold irv
      rw [← hrest]
      rfl
    have htop : ballots.filterMap (topChoice (ballots.flatMap Ballot.ranking).dedup)
        = ballots.filterMap fun b => b.ranking.head? :=
      List.filterMap_congr fun b hb => topChoice_of_mem hb
    obtain ⟨hzero, hsum⟩ := zeros_spec (ballots.flatMap Ballot.ranking).dedup
    rw [hgiven, hmarks]
    unfold roundCounts
    rw [htop]
    constructor
    · intro y
      rw [Votes.getD_foldl_add, hzero, zero_add]
    · rw [Votes.sum_foldl_add, hsum, zero_add]

theorem tally_given (draw : List String → String) (candidacies : List Candidacy)
    (election : Election) (ballots : List Ballot) :
    (∀ y, ((tally draw candidacies election ballots).given election.method).getD y 0
      = (ballots.flatMap (marks election.method candidacies)).count y) ∧
    ((tally draw candidacies election ballots).given election.method).sum
      = (ballots.flatMap (marks election.method candidacies)).length := by
  unfold tally
  cases election.method with
  | plurality =>
    show (∀ y, (plurality draw ballots).counts.getD y 0 = _) ∧
      (plurality draw ballots).counts.sum = _
    rw [plurality_counts, choices_eq]
    exact ⟨fun y => (Votes.getD_sort _ y).trans (Votes.getD_ofMarks _ y),
      (Votes.sum_sort _).trans (Votes.sum_ofMarks _)⟩
  | approval =>
    show (∀ y, (approval ballots).counts.getD y 0 = _) ∧ (approval ballots).counts.sum = _
    rw [approval_counts]
    exact ⟨fun y => (Votes.getD_sort _ y).trans (Votes.getD_ofMarks _ y),
      (Votes.sum_sort _).trans (Votes.sum_ofMarks _)⟩
  | irv => exact irv_given ballots
  | proportional =>
    show (∀ y, (proportional candidacies election.seats ballots).counts.getD y 0 = _) ∧
      (proportional candidacies election.seats ballots).counts.sum = _
    unfold proportional
    dsimp only
    rw [validChoices_eq]
    exact ⟨fun y => (Votes.getD_sort _ y).trans (Votes.getD_ofMarks _ y),
      (Votes.sum_sort _).trans (Votes.sum_ofMarks _)⟩

theorem count_marks (method : ElectionMethod) (candidacies : List Candidacy)
    (ballots : List Ballot) (y : String) :
    (ballots.flatMap (marks method candidacies)).count y
      = ballots.countP fun b => y ∈ marks method candidacies b := by
  induction ballots with
  | nil => rfl
  | cons b bs ih =>
    rw [List.flatMap_cons, List.count_append, ih, List.countP_cons, Nat.add_comm]
    congr 1
    by_cases hy : y ∈ marks method candidacies b
    · rw [List.count_eq_one_of_mem (marks_nodup method candidacies b) hy]
      simp [hy]
    · rw [List.count_eq_zero_of_not_mem hy]
      simp [hy]

theorem tally_count (draw : List String → String) (candidacies : List Candidacy)
    (election : Election) (ballots : List Ballot) (y : String) :
    ((tally draw candidacies election ballots).given election.method).getD y 0
      = (ballots.countP fun b => y ∈ marks election.method candidacies b : Nat) := by
  rw [(tally_given draw candidacies election ballots).1, count_marks]

/-! ## Every ballot counts -/

/-- All votes the ballots give under the rule of an election. -/
def votesGiven (draw : List String → String) (candidacies : List Candidacy) (election : Election)
    (ballots : List Ballot) : Int :=
  ((tally draw candidacies election ballots).given election.method).sum

/-- Every ballot that is not an abstention counts: under approval, leaving it
out lowers the votes given; otherwise the votes are as many as such ballots. -/
def EveryBallotCounts (draw : List String → String) (candidacies : List Candidacy)
    (election : Election) (ballots : List Ballot) : Prop :=
  match election.method with
  | .approval => ∀ before b after, ballots = before ++ b :: after → ¬b.Abstains →
      votesGiven draw candidacies election (before ++ after)
        < votesGiven draw candidacies election ballots
  | _ => votesGiven draw candidacies election ballots = (ballots.countP fun b => ¬b.Abstains : Nat)

theorem length_flatMap_eq_countP {α β : Type} {f : α → List β} {p : α → Bool} {xs : List α}
    (hle : ∀ x ∈ xs, (f x).length ≤ 1) (hnone : ∀ x ∈ xs, p x = false → f x = []) :
    (xs.flatMap f).length ≤ xs.countP p ∧
      ((xs.flatMap f).length = xs.countP p ↔ ∀ x ∈ xs, p x = true → f x ≠ []) := by
  induction xs with
  | nil => simp
  | cons x xs ih =>
    obtain ⟨hlen, hiff⟩ := ih (fun y hy => hle y (List.mem_cons_of_mem _ hy))
      fun y hy => hnone y (List.mem_cons_of_mem _ hy)
    have hx := hle x List.mem_cons_self
    rw [List.flatMap_cons, List.length_append, List.countP_cons, List.forall_mem_cons, ← hiff]
    by_cases hp : p x = true
    · rw [if_pos hp]
      have hpos : f x ≠ [] ↔ 0 < (f x).length := List.length_pos_iff.symm
      refine ⟨by omega, ?_⟩
      constructor
      · intro heq
        exact ⟨fun _ => hpos.mpr (by omega), by omega⟩
      · rintro ⟨hne, heq⟩
        have := hpos.mp (hne hp)
        omega
    · have hfalse : p x = false := Bool.eq_false_iff.mpr hp
      rw [if_neg hp, hnone x List.mem_cons_self hfalse, List.length_nil]
      refine ⟨by omega, ?_⟩
      constructor
      · intro heq
        exact ⟨fun h => absurd h hp, by omega⟩
      · rintro ⟨-, heq⟩
        omega

theorem marks_length_le {method : ElectionMethod} (h : method ≠ .approval)
    (candidacies : List Candidacy) (b : Ballot) : (marks method candidacies b).length ≤ 1 := by
  cases method with
  | plurality => cases hb : b.choice <;> simp [marks, hb]
  | approval => exact absurd rfl h
  | irv => cases hb : b.ranking <;> simp [marks, hb]
  | proportional =>
    refine le_trans (List.length_filter_le _ _) ?_
    cases b.choice <;> simp

theorem everyBallotCounts_iff (draw : List String → String) (candidacies : List Candidacy)
    (election : Election) (ballots : List Ballot) :
    EveryBallotCounts draw candidacies election ballots ↔
      ∀ b ∈ ballots, ¬b.Abstains → marks election.method candidacies b ≠ [] := by
  have hgiven : ∀ bs, votesGiven draw candidacies election bs
      = (bs.flatMap (marks election.method candidacies)).length :=
    fun bs => (tally_given draw candidacies election bs).2
  by_cases happroval : election.method = .approval
  · have hiff : EveryBallotCounts draw candidacies election ballots ↔
        ∀ before b after, ballots = before ++ b :: after → ¬b.Abstains →
          votesGiven draw candidacies election (before ++ after)
            < votesGiven draw candidacies election ballots := by
      unfold EveryBallotCounts
      rw [happroval]
    rw [hiff]
    have hlower : ∀ before b after, ballots = before ++ b :: after →
        (votesGiven draw candidacies election (before ++ after)
            < votesGiven draw candidacies election ballots ↔
          marks election.method candidacies b ≠ []) := by
      intro before b after heq
      rw [hgiven, hgiven, heq, ← List.length_pos_iff]
      simp only [List.flatMap_append, List.flatMap_cons, List.length_append]
      omega
    constructor
    · intro h b hb habs
      obtain ⟨before, after, heq⟩ := List.append_of_mem hb
      exact (hlower before b after heq).mp (h before b after heq habs)
    · intro h before b after heq habs
      apply (hlower before b after heq).mpr
      apply h b _ habs
      rw [heq]
      exact List.mem_append_right _ List.mem_cons_self
  · have hiff : EveryBallotCounts draw candidacies election ballots ↔
        votesGiven draw candidacies election ballots
          = (ballots.countP fun b => ¬b.Abstains : Nat) := by
      unfold EveryBallotCounts
      cases hm : election.method with
      | approval => exact absurd hm happroval
      | plurality => exact Iff.rfl
      | irv => exact Iff.rfl
      | proportional => exact Iff.rfl
    have hlen : ∀ b ∈ ballots, (marks election.method candidacies b).length ≤ 1 :=
      fun b _ => marks_length_le happroval candidacies b
    have hnone : ∀ b ∈ ballots, decide (¬b.Abstains) = false →
        marks election.method candidacies b = [] :=
      fun b _ hb => marks_of_abstains (by simpa using hb)
    have hcount := (length_flatMap_eq_countP hlen hnone).2
    rw [hiff, hgiven, Nat.cast_inj, hcount]
    simp

end Polis.Society
