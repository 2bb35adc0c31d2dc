/-
  Polis.Society.Runoff — the instant runoff of `ElectionOffice._irv`
  (`society/polity.py`).

  The rounds of `irvRounds` are the rounds of `Lib.InstantRunoff` on the
  rankings of the ballots, with the candidacies of all rankings active at
  first.

  Main results:
    * `irvRounds_elects` — the rounds end with the one candidacy they elect,
      and are at most as many as the active candidacies.
    * `irv_sound` — the winner exists, has the majority when there is one, is
      not beaten by everyone, and is not harmed by a longer ballot.
-/
import Polis.Lib.InstantRunoff
import Polis.Society.Tallies

namespace Polis.Society

open Lib InstantRunoff

attribute [local instance] intOrder

/-- The rankings of the ballots. -/
def rankings (ballots : List Ballot) : List (List String) := ballots.map Ballot.ranking

/-- The candidacies some ballot ranks. -/
def rankedCandidates (ballots : List Ballot) : List String :=
  (ballots.flatMap Ballot.ranking).dedup

/-- The ballots that rank `c` before `d`. -/
def headToHead (ballots : List Ballot) (c d : String) : Nat := support (rankings ballots) c d

theorem mem_rankedCandidates {ballots : List Ballot} {c : String} :
    c ∈ rankedCandidates ballots ↔ ∃ b ∈ ballots, c ∈ b.ranking := by
  unfold rankedCandidates
  rw [List.mem_dedup, List.mem_flatMap]

theorem rankedCandidates_nodup (ballots : List Ballot) : (rankedCandidates ballots).Nodup :=
  List.nodup_dedup _

/-! ## One round -/

theorem topChoice_eq (active : List String) (b : Ballot) :
    topChoice active b = top active.toFinset b.ranking := by
  unfold topChoice top
  apply List.find?_congr
  intro c _
  simp

theorem filterMap_topChoice (ballots : List Ballot) (active : List String) :
    ballots.filterMap (topChoice active) = (rankings ballots).filterMap (top active.toFinset) := by
  unfold rankings
  rw [List.filterMap_map]
  exact List.filterMap_congr fun b _ => topChoice_eq active b

theorem count_filterMap_top (ballots : List (List String)) (active : Finset String) (c : String) :
    (ballots.filterMap (top active)).count c = votes ballots active c := by
  unfold votes
  rw [List.count_eq_countP, List.countP_filterMap]
  apply List.countP_congr
  intro b _
  cases top active b <;> simp

theorem length_filterMap_top (ballots : List (List String)) (active : Finset String) :
    (ballots.filterMap (top active)).length = total ballots active := by
  unfold total
  rw [List.length_filterMap_eq_countP]

theorem roundCounts_getD (ballots : List Ballot) (active : List String) (c : String) :
    (roundCounts ballots active).getD c 0 = votes (rankings ballots) active.toFinset c := by
  unfold roundCounts
  rw [Votes.getD_foldl_add, (zeros_spec active).1, filterMap_topChoice, count_filterMap_top]
  omega

theorem roundCounts_sum (ballots : List Ballot) (active : List String) :
    (roundCounts ballots active).sum = total (rankings ballots) active.toFinset := by
  unfold roundCounts
  rw [Votes.sum_foldl_add, (zeros_spec active).2, filterMap_topChoice, length_filterMap_top]
  omega

theorem Votes.mem_keys_add {votes : Votes} {x k : String} :
    k ∈ (votes.add x).keys ↔ k ∈ votes.keys ∨ k = x := by
  unfold Votes.add
  rw [Dict.mem_keys_iff, Dict.mem_keys_iff, Dict.get?_put]
  by_cases h : k = x
  · simp [h]
  · simp [h]

theorem Votes.mem_keys_foldl_add {xs : List String} {votes : Votes} {k : String} :
    k ∈ (xs.foldl Votes.add votes).keys ↔ k ∈ votes.keys ∨ k ∈ xs := by
  induction xs generalizing votes with
  | nil => simp
  | cons x xs ih =>
    rw [List.foldl_cons, ih, Votes.mem_keys_add, List.mem_cons, or_assoc]

theorem mem_keys_zeros {active : List String} {k : String} :
    k ∈ (zeros active).keys ↔ k ∈ active := by
  have hgeneral : ∀ (cs : List String) (start : Votes),
      k ∈ (cs.foldl (fun votes c => Dict.put votes c 0) start).keys ↔ k ∈ start.keys ∨ k ∈ cs := by
    intro cs
    induction cs with
    | nil => simp
    | cons c cs ih =>
      intro start
      rw [List.foldl_cons, ih, Dict.mem_keys_iff, Dict.mem_keys_iff, Dict.get?_put, List.mem_cons]
      by_cases h : k = c
      · simp [h]
      · simp [h]
  unfold zeros
  rw [hgeneral, List.mem_insertionSort]
  exact or_iff_right (List.not_mem_nil)

theorem mem_keys_roundCounts {ballots : List Ballot} {active : List String} {k : String} :
    k ∈ (roundCounts ballots active).keys ↔ k ∈ active := by
  unfold roundCounts
  rw [Votes.mem_keys_foldl_add, mem_keys_zeros]
  constructor
  · rintro (h | h)
    · exact h
    · obtain ⟨b, _, htop⟩ := List.mem_filterMap.mp h
      simpa using List.find?_some htop
  · exact Or.inl

theorem leads_of_leader {ballots : List Ballot} {active : List String} {c : String}
    (h : (roundCounts ballots active).leader = some c) :
    Leads (rankings ballots) active.toFinset c := by
  unfold Votes.leader at h
  refine ⟨by simpa using mem_keys_roundCounts.mp (List.argmin_mem h), fun d hd => ?_⟩
  have hkey : d ∈ (roundCounts ballots active).keys := mem_keys_roundCounts.mpr (by simpa using hd)
  have hle := Prod.Lex.toLex_le_toLex.mp (List.le_of_mem_argmin hkey h)
  simp only [roundCounts_getD] at hle
  rcases hle with hlt | ⟨heq, hname⟩
  · left
    omega
  · right
    exact ⟨by omega, hname⟩

theorem trails_of_loser {ballots : List Ballot} {active : List String} {c : String}
    (h : (roundCounts ballots active).loser = some c) :
    Trails (rankings ballots) active.toFinset c := by
  unfold Votes.loser at h
  refine ⟨by simpa using mem_keys_roundCounts.mp (List.argmin_mem h), fun d hd => ?_⟩
  have hkey : d ∈ (roundCounts ballots active).keys := mem_keys_roundCounts.mpr (by simpa using hd)
  have hle := Prod.Lex.toLex_le_toLex.mp (List.le_of_mem_argmin hkey h)
  simp only [roundCounts_getD] at hle
  rcases hle with hlt | ⟨heq, hname⟩
  · left
    omega
  · right
    exact ⟨by omega, hname⟩

theorem roundCounts_keys_ne_nil {ballots : List Ballot} {active : List String}
    (h : active ≠ []) : (roundCounts ballots active).keys ≠ [] := by
  intro hnil
  obtain ⟨c, hc⟩ := List.exists_mem_of_ne_nil active h
  have hkey : c ∈ (roundCounts ballots active).keys := mem_keys_roundCounts.mpr hc
  rw [hnil] at hkey
  cases hkey

/-! ## All rounds -/

theorem irvRounds_elects (ballots : List Ballot) (active : List String) (rounds : List Votes)
    (last : Votes) (hnodup : active.Nodup) (hne : active ≠ [])
    (hranked : ∀ c ∈ active, ∃ b ∈ ballots, c ∈ b.ranking) :
    ∃ w, (irvRounds ballots active rounds last).winnerIds = [w] ∧
      Elects (rankings ballots) active.toFinset w ∧
      (irvRounds ballots active rounds last).rounds.length ≤ rounds.length + active.length := by
  have hcard : active.toFinset.card = active.length := List.toFinset_card_of_nodup hnodup
  fun_induction irvRounds ballots active rounds last with
  | case1 => exact absurd rfl hne
  | case2 active rounds last _ counts total hzero =>
    -- some ballot ranks an active candidacy, so a round has votes
    obtain ⟨c, hc⟩ := List.exists_mem_of_ne_nil active hne
    obtain ⟨b, hb, hbc⟩ := hranked c hc
    have hpos : 0 < InstantRunoff.total (rankings ballots) active.toFinset :=
      total_pos (List.mem_map_of_mem hb) hbc (List.mem_toFinset.mpr hc)
    have hsum : total = _ := roundCounts_sum ballots active
    rw [hzero] at hsum
    omega
  | case3 active rounds last _ counts total _ hnone =>
    exact absurd (List.argmin_eq_none.mp hnone) (roundCounts_keys_ne_nil hne)
  | case4 active rounds last _ counts total hsome leader hleader hdone =>
    have hlead := leads_of_leader hleader
    have hlength := List.length_pos_iff.mpr hne
    refine ⟨leader, rfl, .decided hlead ?_, ?_⟩
    · rw [hcard]
      rcases hdone with hmost | hone
      · left
        have hsum : total = _ := roundCounts_sum ballots active
        have hcount : counts.getD leader 0 = _ := roundCounts_getD ballots active leader
        rw [hsum, hcount] at hmost
        omega
      · exact .inr hone
    · rw [List.length_append, List.length_singleton]
      omega
  | case5 active rounds last _ counts total _ leader _ _ hnone =>
    exact absurd (List.argmin_eq_none.mp hnone) (roundCounts_keys_ne_nil hne)
  | case6 active rounds last _ counts total _ leader hleader hopen loser hloser hmem ih =>
    rw [not_or] at hopen
    have hlength := List.length_pos_iff.mpr hne
    have herase : (active.erase loser).length = active.length - 1 := List.length_erase_of_mem hmem
    have hrest : active.erase loser ≠ [] := by
      rw [← List.length_pos_iff]
      omega
    obtain ⟨w, hwinner, helects, hrounds⟩ := ih (hnodup.erase loser) hrest
      (fun c hc => hranked c (List.mem_of_mem_erase hc))
      (List.toFinset_card_of_nodup (hnodup.erase loser))
    refine ⟨w, hwinner, ?_, ?_⟩
    · refine .dropped (leads_of_leader hleader) ?_ (by omega) (trails_of_loser hloser) ?_
      · have hsum : total = _ := roundCounts_sum ballots active
        have hcount : counts.getD leader 0 = _ := roundCounts_getD ballots active leader
        rw [hsum, hcount] at hopen
        omega
      · have hset : (active.erase loser).toFinset = active.toFinset.erase loser := by
          ext x
          simp [hnodup.mem_erase_iff]
        rwa [hset] at helects
    · rw [List.length_append, List.length_singleton] at hrounds
      omega
  | case7 active rounds last _ counts total _ leader _ _ loser hloser hnot =>
    have hmem := (trails_of_loser hloser).1
    exact absurd (List.mem_toFinset.mp hmem) hnot

theorem irv_of_nil {ballots : List Ballot} (h : rankedCandidates ballots = []) :
    (irv ballots).winnerIds = [] ∧ (irv ballots).rounds = [] := by
  have hnil : (ballots.flatMap Ballot.ranking).dedup = [] := h
  unfold irv irvRounds
  rw [if_pos hnil]
  exact ⟨rfl, rfl⟩

theorem irv_elects {ballots : List Ballot} (h : rankedCandidates ballots ≠ []) :
    ∃ w, (irv ballots).winnerIds = [w] ∧
      Elects (rankings ballots) (rankedCandidates ballots).toFinset w ∧
      (irv ballots).rounds.length ≤ (rankedCandidates ballots).length := by
  have hrun := irvRounds_elects ballots (rankedCandidates ballots) [] ∅
    (rankedCandidates_nodup ballots) h fun c hc => mem_rankedCandidates.mp hc
  rwa [List.length_nil, Nat.zero_add] at hrun

theorem elects_of_winner {ballots : List Ballot} {w : String} (h : w ∈ (irv ballots).winnerIds) :
    Elects (rankings ballots) (rankedCandidates ballots).toFinset w := by
  by_cases hnil : rankedCandidates ballots = []
  · rw [(irv_of_nil hnil).1] at h
    cases h
  · obtain ⟨v, hwinner, helects, -⟩ := irv_elects hnil
    rw [hwinner, List.mem_singleton] at h
    rwa [h]

/-! ## What the rounds decide -/

theorem rankedCandidates_ne_nil {ballots : List Ballot} {b : Ballot} (hb : b ∈ ballots)
    (h : b.ranking ≠ []) : rankedCandidates ballots ≠ [] := by
  obtain ⟨c, hc⟩ := List.exists_mem_of_ne_nil _ h
  exact List.ne_nil_of_mem (mem_rankedCandidates.mpr ⟨b, hb, hc⟩)

theorem top_ranked {ballots : List Ballot} {b : Ballot} (hb : b ∈ ballots) :
    top (rankedCandidates ballots).toFinset b.ranking = b.ranking.head? := by
  rw [← topChoice_eq]
  exact topChoice_of_mem hb

theorem votes_first (ballots : List Ballot) (c : String) :
    votes (rankings ballots) (rankedCandidates ballots).toFinset c
      = ballots.countP fun b => b.ranking.head? = some c := by
  unfold votes rankings
  rw [List.countP_map]
  apply List.countP_congr
  intro b hb
  simp [top_ranked hb]

theorem total_first (ballots : List Ballot) :
    total (rankings ballots) (rankedCandidates ballots).toFinset
      = ballots.countP fun b => b.ranking ≠ [] := by
  unfold total rankings
  rw [List.countP_map]
  apply List.countP_congr
  intro b hb
  simp only [Function.comp_apply, top_ranked hb]
  cases b.ranking <;> simp

theorem irv_majority {ballots : List Ballot} {c : String}
    (h : (ballots.countP fun b => b.ranking ≠ [])
      < 2 * ballots.countP fun b => b.ranking.head? = some c) :
    (irv ballots).winnerIds = [c] := by
  have hpos : 0 < ballots.countP fun b => b.ranking.head? = some c := by omega
  obtain ⟨b, hb, hfirst⟩ := List.countP_pos_iff.mp hpos
  have hc : c ∈ b.ranking := List.mem_of_mem_head? (by simpa using hfirst)
  obtain ⟨w, hwinner, helects, -⟩ :=
    irv_elects (rankedCandidates_ne_nil hb (List.ne_nil_of_mem hc))
  rw [← total_first, ← votes_first] at h
  have hactive : c ∈ (rankedCandidates ballots).toFinset :=
    List.mem_toFinset.mpr (mem_rankedCandidates.mpr ⟨b, hb, hc⟩)
  rw [hwinner, helects.of_majority hactive h]

theorem irv_ties_one {ballots : List Ballot} {w : String} (h : w ∈ (irv ballots).winnerIds)
    (hmany : 2 ≤ (rankedCandidates ballots).length) :
    ∃ e ∈ rankedCandidates ballots, e ≠ w ∧ headToHead ballots e w ≤ headToHead ballots w e := by
  have helects := elects_of_winner h
  have hother : ∃ d ∈ (rankedCandidates ballots).toFinset, d ≠ w := by
    have hcard := List.toFinset_card_of_nodup (rankedCandidates_nodup ballots)
    exact Finset.exists_mem_ne (by omega) w
  obtain ⟨d, hd, hne⟩ := hother
  obtain ⟨e, he, hew, hsupport⟩ := helects.ties_one hd hne
  exact ⟨e, List.mem_toFinset.mp he, hew, hsupport⟩

theorem irv_append {before after : List Ballot} {b : Ballot} {w : String} (x : String)
    (h : w ∈ (irv (before ++ b :: after)).winnerIds) (hw : w ∈ b.ranking) :
    (irv (before ++ { b with ranking := b.ranking ++ [x] } :: after)).winnerIds = [w] := by
  have hold := elects_of_winner h
  have hnew : x ∉ (rankedCandidates (before ++ b :: after)).toFinset →
      ∀ ballot ∈ rankings before ++ b.ranking :: rankings after, x ∉ ballot := by
    intro hout ballot hballot hx
    apply hout
    rw [List.mem_toFinset, mem_rankedCandidates]
    have hrow : ballot ∈ (before ++ b :: after).map Ballot.ranking := by
      rw [List.map_append, List.map_cons]
      exact hballot
    obtain ⟨row, hmem, rfl⟩ := List.mem_map.mp hrow
    exact ⟨row, hmem, hx⟩
  unfold rankings at hold hnew
  rw [List.map_append, List.map_cons] at hold
  have helects := hold.append_last hw hnew
  have hset : insert x (rankedCandidates (before ++ b :: after)).toFinset
      = (rankedCandidates
          (before ++ { b with ranking := b.ranking ++ [x] } :: after)).toFinset := by
    ext c
    simp only [Finset.mem_insert, List.mem_toFinset, mem_rankedCandidates, List.mem_append,
      List.mem_cons, or_and_right, exists_or, exists_eq_left]
    grind
  have hne : rankedCandidates (before ++ { b with ranking := b.ranking ++ [x] } :: after) ≠ [] :=
    rankedCandidates_ne_nil (List.mem_append_right _ List.mem_cons_self) (by simp)
  obtain ⟨v, hwinner, hv, -⟩ := irv_elects hne
  rw [← hset] at hv
  unfold rankings at hv
  rw [List.map_append, List.map_cons] at hv
  rw [hwinner, helects.unique hv]

/-- **The instant runoff is sound.**  It takes at most as many rounds as
candidacies are ranked, elects someone when a ballot ranks someone, elects the
first choice of more than half, elects nobody who loses every comparison of
two, and a longer ballot harms nobody it ranked before. -/
theorem irv_sound (ballots : List Ballot) :
    (irv ballots).rounds.length ≤ (rankedCandidates ballots).length ∧
    ((∃ b ∈ ballots, b.ranking ≠ []) → ∃ w, (irv ballots).winnerIds = [w]) ∧
    (∀ c, ((ballots.countP fun b => b.ranking ≠ [])
        < 2 * ballots.countP fun b => b.ranking.head? = some c) →
      (irv ballots).winnerIds = [c]) ∧
    (∀ c ∈ (irv ballots).winnerIds, 2 ≤ (rankedCandidates ballots).length →
      ¬∀ e ∈ rankedCandidates ballots, e ≠ c → headToHead ballots c e < headToHead ballots e c) ∧
    ∀ before b after, ballots = before ++ b :: after → ∀ x, ∀ w ∈ b.ranking,
      w ∈ (irv ballots).winnerIds →
        (irv (before ++ { b with ranking := b.ranking ++ [x] } :: after)).winnerIds = [w] := by
  refine ⟨?_, ?_, fun c => irv_majority, ?_, ?_⟩
  · by_cases hnil : rankedCandidates ballots = []
    · rw [(irv_of_nil hnil).2]
      exact Nat.zero_le _
    · obtain ⟨_, -, -, hrounds⟩ := irv_elects hnil
      exact hrounds
  · rintro ⟨b, hb, hranks⟩
    obtain ⟨w, hwinner, -⟩ := irv_elects (rankedCandidates_ne_nil hb hranks)
    exact ⟨w, hwinner⟩
  · intro c hc hmany hloses
    obtain ⟨e, he, hne, hkeeps⟩ := irv_ties_one hc hmany
    have := hloses e he hne
    omega
  · rintro before b after rfl x w hw hwinner
    exact irv_append x hwinner hw

end Polis.Society
