/-
  Lib.InstantRunoff — elimination by fewest first preferences.

  A ballot is a list of candidates, best first; it may leave candidates out
  and name one twice.  In each round a ballot counts for its first candidate
  still active.  A candidate with more than half of these votes is elected,
  and so is the last one left; otherwise the candidate with fewest votes
  drops out.  Among equals the least leads, and the least drops out.

  Main results:
    * `Elects.unique` — the rounds elect one candidate.
    * `Elects.of_majority` — more than half of the votes elect.
    * `Elects.ties_one` — the elected does not lose to every other candidate.
    * `Elects.append_last` — appending a candidate to a ballot does not take
      the election from one ranked on it.
-/
import Mathlib.Data.Finset.Card
import Mathlib.Data.List.Find
import Mathlib.Order.Basic
import Mathlib.Tactic.Linarith

namespace Lib.InstantRunoff

variable {ι : Type*} [LinearOrder ι]

/-! ## Votes -/

/-- The first candidate of a ballot that is active. -/
def top (active : Finset ι) (ballot : List ι) : Option ι := ballot.find? fun c => c ∈ active

/-- The ballots that count for a candidate. -/
def votes (ballots : List (List ι)) (active : Finset ι) (c : ι) : ℕ :=
  ballots.countP fun b => top active b = some c

/-- The ballots that count for anyone. -/
def total (ballots : List (List ι)) (active : Finset ι) : ℕ :=
  ballots.countP fun b => (top active b).isSome

/-- The ballots that rank `c` before `d`. -/
def support (ballots : List (List ι)) (c d : ι) : ℕ := votes ballots {c, d} c

section Votes

variable {ballots : List (List ι)} {active : Finset ι} {b : List ι} {c d : ι}

theorem mem_of_top (h : top active b = some c) : c ∈ active ∧ c ∈ b :=
  ⟨by simpa using List.find?_some h, List.mem_of_find?_eq_some h⟩

theorem top_isSome_iff : (top active b).isSome ↔ ∃ c ∈ b, c ∈ active := by
  unfold top
  rw [List.find?_isSome]
  simp

theorem top_of_subset {fewer : Finset ι} (h : top active b = some c) (hsub : fewer ⊆ active)
    (hc : c ∈ fewer) : top fewer b = some c := by
  unfold top at h ⊢
  rw [List.find?_eq_some_iff_append] at h ⊢
  obtain ⟨-, before, after, hb, hnone⟩ := h
  refine ⟨by simpa using hc, before, after, hb, fun d hd => ?_⟩
  have hout := hnone d hd
  simp only [Bool.not_eq_eq_eq_not, Bool.not_true, decide_eq_false_iff_not] at hout ⊢
  exact fun hmem => hout (hsub hmem)

theorem votes_add_le (ballots : List (List ι)) (active : Finset ι) (h : c ≠ d) :
    votes ballots active c + votes ballots active d ≤ total ballots active := by
  unfold votes total
  induction ballots with
  | nil => simp
  | cons b bs ih =>
    simp only [List.countP_cons]
    cases htop : top active b with
    | none => simpa using ih
    | some x =>
      by_cases hc : x = c
      · subst hc
        simp [h]
        omega
      · by_cases hd : x = d
        · subst hd
          simp [hc]
          omega
        · simp [hc, hd]
          omega

theorem total_single (ballots : List (List ι)) (c : ι) : total ballots {c} ≤ votes ballots {c} c :=
  List.countP_mono_left fun b _ h => by
    simp only [decide_eq_true_eq]
    obtain ⟨d, hd⟩ := Option.isSome_iff_exists.mp h
    rw [hd, Finset.mem_singleton.mp (mem_of_top hd).1]

theorem total_pair (ballots : List (List ι)) (c d : ι) :
    total ballots {c, d} ≤ votes ballots {c, d} c + votes ballots {c, d} d := by
  unfold votes total
  induction ballots with
  | nil => simp
  | cons b bs ih =>
    simp only [List.countP_cons]
    cases htop : top {c, d} b with
    | none => simpa using ih
    | some x =>
      have hx : x = c ∨ x = d := by simpa using (mem_of_top htop).1
      rcases hx with rfl | rfl
      · simp
        omega
      · simp
        omega

theorem total_pos (hb : b ∈ ballots) (hc : c ∈ b) (hactive : c ∈ active) :
    0 < total ballots active :=
  List.countP_pos_iff.mpr ⟨b, hb, top_isSome_iff.mpr ⟨c, hc, hactive⟩⟩

theorem votes_of_not_mem (ballots : List (List ι)) (h : c ∉ active) :
    votes ballots active c = 0 := by
  unfold votes
  rw [List.countP_eq_zero]
  intro b _ htop
  simp only [decide_eq_true_eq] at htop
  exact h (mem_of_top htop).1

theorem votes_le_support (ballots : List (List ι)) (hd : d ∈ active) (hc : c ∈ active) :
    votes ballots active c ≤ support ballots c d := by
  refine List.countP_mono_left fun b _ h => ?_
  simp only [decide_eq_true_eq] at h ⊢
  refine top_of_subset h ?_ (Finset.mem_insert_self c {d})
  intro x hx
  rcases Finset.mem_insert.mp hx with rfl | hx
  · exact hc
  · rwa [Finset.mem_singleton.mp hx]

theorem support_add_votes_le (ballots : List (List ι)) (hd : d ∈ active) (hne : c ≠ d) :
    support ballots d c + votes ballots active c ≤ total ballots active := by
  unfold support votes total
  induction ballots with
  | nil => simp
  | cons b bs ih =>
    simp only [List.countP_cons]
    by_cases hpair : top {d, c} b = some d
    · have hcounts : (top active b).isSome = true :=
        top_isSome_iff.mpr ⟨d, (mem_of_top hpair).2, hd⟩
      have hother : top active b ≠ some c := by
        intro htop
        -- a ballot for `c` among the active is for `c` between the two
        have hbetween : top {d, c} b = some c := by
          refine top_of_subset htop ?_ (by simp)
          intro x hx
          rcases Finset.mem_insert.mp hx with rfl | hx
          · exact hd
          · rw [Finset.mem_singleton.mp hx]
            exact (mem_of_top htop).1
        rw [hpair] at hbetween
        exact hne (Option.some.inj hbetween).symm
      simp [hpair, hcounts, hother]
      omega
    · by_cases htop : top active b = some c
      · simp [hpair, htop]
        omega
      · simp only [hpair, htop, decide_false, Bool.false_eq_true, if_false]
        split <;> omega

end Votes

/-! ## Rounds -/

/-- The candidate a round is led by. -/
def Leads (ballots : List (List ι)) (active : Finset ι) (c : ι) : Prop :=
  c ∈ active ∧ ∀ d ∈ active, votes ballots active d < votes ballots active c ∨
    votes ballots active d = votes ballots active c ∧ c ≤ d

/-- The candidate that would drop out of a round. -/
def Trails (ballots : List (List ι)) (active : Finset ι) (c : ι) : Prop :=
  c ∈ active ∧ ∀ d ∈ active, votes ballots active c < votes ballots active d ∨
    votes ballots active c = votes ballots active d ∧ c ≤ d

/-- The rounds from a set of active candidates on elect a candidate. -/
inductive Elects (ballots : List (List ι)) : Finset ι → ι → Prop where
  | decided {active : Finset ι} {c : ι} (hlead : Leads ballots active c)
      (hdone : total ballots active < 2 * votes ballots active c ∨ active.card = 1) :
      Elects ballots active c
  | dropped {active : Finset ι} {lead last c : ι} (hlead : Leads ballots active lead)
      (hopen : 2 * votes ballots active lead ≤ total ballots active) (hmany : active.card ≠ 1)
      (hlast : Trails ballots active last) (hrest : Elects ballots (active.erase last) c) :
      Elects ballots active c

section Rounds

variable {ballots : List (List ι)} {active : Finset ι} {c d : ι}

theorem Leads.unique (h : Leads ballots active c) (h' : Leads ballots active d) : c = d := by
  rcases h.2 d h'.1 with hlt | ⟨heq, hcd⟩
  · rcases h'.2 c h.1 with hlt' | ⟨heq', -⟩ <;> omega
  · rcases h'.2 c h.1 with hlt' | ⟨-, hdc⟩
    · omega
    · exact le_antisymm hcd hdc

theorem Trails.unique (h : Trails ballots active c) (h' : Trails ballots active d) : c = d := by
  rcases h.2 d h'.1 with hlt | ⟨heq, hcd⟩
  · rcases h'.2 c h.1 with hlt' | ⟨heq', -⟩ <;> omega
  · rcases h'.2 c h.1 with hlt' | ⟨-, hdc⟩
    · omega
    · exact le_antisymm hcd hdc

theorem Leads.votes_pos (h : Leads ballots active c) (hpos : 0 < total ballots active) :
    0 < votes ballots active c := by
  obtain ⟨b, hb, hcounts⟩ := List.countP_pos_iff.mp hpos
  obtain ⟨d, hd⟩ := Option.isSome_iff_exists.mp hcounts
  have hvote : 0 < votes ballots active d := List.countP_pos_iff.mpr ⟨b, hb, by simpa using hd⟩
  rcases h.2 d (mem_of_top hd).1 with hlt | ⟨heq, -⟩ <;> omega

theorem Elects.mem (h : Elects ballots active c) : c ∈ active := by
  induction h with
  | decided hlead _ => exact hlead.1
  | dropped _ _ _ _ _ ih => exact Finset.mem_of_mem_erase ih

theorem Elects.unique (h : Elects ballots active c) (h' : Elects ballots active d) : c = d := by
  induction h with
  | decided hlead hdone =>
    cases h' with
    | decided hlead' _ => exact hlead.unique hlead'
    | dropped hlead' hopen hmany _ _ =>
      obtain rfl := hlead.unique hlead'
      rcases hdone with hdone | hdone
      · omega
      · exact absurd hdone hmany
  | dropped hlead hopen hmany hlast _ ih =>
    cases h' with
    | decided hlead' hdone =>
      obtain rfl := hlead.unique hlead'
      rcases hdone with hdone | hdone
      · omega
      · exact absurd hdone hmany
    | dropped _ _ _ hlast' hrest' =>
      obtain rfl := hlast.unique hlast'
      exact ih hrest'

theorem Elects.of_majority (h : Elects ballots active c) (hd : d ∈ active)
    (hmajority : total ballots active < 2 * votes ballots active d) : c = d := by
  cases h with
  | decided hlead _ =>
    by_contra hne
    have hsum := votes_add_le ballots active hne
    rcases hlead.2 d hd with hlt | ⟨heq, -⟩ <;> omega
  | dropped hlead hopen _ _ _ =>
    rcases hlead.2 d hd with hlt | ⟨heq, -⟩ <;> omega

theorem Elects.ties_one (h : Elects ballots active c) (hd : d ∈ active) (hne : d ≠ c) :
    ∃ e ∈ active, e ≠ c ∧ support ballots e c ≤ support ballots c e := by
  induction h generalizing d with
  | @decided active c hlead hdone =>
    refine ⟨d, hd, hne, ?_⟩
    rcases hdone with hdone | hone
    · have hother := support_add_votes_le ballots hd hne.symm
      have hown := votes_le_support ballots hd hlead.1
      omega
    · obtain ⟨x, rfl⟩ := Finset.card_eq_one.mp hone
      rw [Finset.mem_singleton] at hd
      have := Finset.mem_singleton.mp hlead.1
      exact absurd (hd.trans this.symm) hne
  | @dropped active lead last c hlead hopen hmany hlast hrest ih =>
    by_cases hothers : ∃ e ∈ active.erase last, e ≠ c
    · obtain ⟨e, he, hec⟩ := hothers
      obtain ⟨e', he', hec', hsupport⟩ := ih he hec
      exact ⟨e', Finset.mem_of_mem_erase he', hec', hsupport⟩
    · -- two are left, and neither has more than half
      have hc := hrest.mem
      have hlc : last ≠ c := (Finset.ne_of_mem_erase hc).symm
      have hpair : active = {c, last} := by
        ext x
        simp only [Finset.mem_insert, Finset.mem_singleton]
        constructor
        · intro hx
          by_contra hnot
          rw [not_or] at hnot
          exact hothers ⟨x, Finset.mem_erase.mpr ⟨hnot.2, hx⟩, hnot.1⟩
        · rintro (rfl | rfl)
          · exact Finset.mem_of_mem_erase hc
          · exact hlast.1
      subst hpair
      refine ⟨last, by simp, hlc, ?_⟩
      have hsplit := votes_add_le ballots {c, last} hlc.symm
      have hall := total_pair ballots c last
      have hleadc := hlead.2 c (by simp)
      have hleadlast := hlead.2 last (by simp)
      have hswap : support ballots last c = votes ballots {c, last} last := by
        unfold support
        rw [Finset.pair_comm]
      have hown : support ballots c last = votes ballots {c, last} c := rfl
      rw [hswap, hown]
      omega

end Rounds

/-! ## Appending to a ballot -/

section Append

variable {before after : List (List ι)} {b : List ι} {active : Finset ι} {x w : ι}

theorem top_append (hw : w ∈ b) (hactive : w ∈ active) : top active (b ++ [x]) = top active b := by
  have hsome : (top active b).isSome = true := top_isSome_iff.mpr ⟨w, hw, hactive⟩
  unfold top at hsome ⊢
  rw [List.find?_append]
  cases hfind : b.find? fun c => c ∈ active with
  | none =>
    rw [hfind] at hsome
    cases hsome
  | some c => rfl

theorem votes_append (before after : List (List ι)) (x : ι) (hw : w ∈ b) (hactive : w ∈ active)
    (c : ι) :
    votes (before ++ (b ++ [x]) :: after) active c = votes (before ++ b :: after) active c := by
  unfold votes
  simp only [List.countP_append, List.countP_cons, top_append hw hactive]

theorem total_append (hw : w ∈ b) (hactive : w ∈ active) :
    total (before ++ (b ++ [x]) :: after) active = total (before ++ b :: after) active := by
  unfold total
  simp only [List.countP_append, List.countP_cons, top_append hw hactive]

theorem Elects.append_same (h : Elects (before ++ b :: after) active w) (hw : w ∈ b) :
    Elects (before ++ (b ++ [x]) :: after) active w := by
  induction h with
  | @decided active w hlead hdone =>
    have hvotes := votes_append before after x hw hlead.1
    refine .decided ⟨hlead.1, ?_⟩ ?_
    · simpa only [hvotes] using hlead.2
    · rwa [hvotes, total_append hw hlead.1]
  | @dropped active lead last w hlead hopen hmany hlast hrest ih =>
    have hactive : w ∈ active := Finset.mem_of_mem_erase hrest.mem
    have hvotes := votes_append before after x hw hactive
    refine .dropped ⟨hlead.1, ?_⟩ ?_ hmany ⟨hlast.1, ?_⟩ (ih hw)
    · simpa only [hvotes] using hlead.2
    · rwa [hvotes, total_append hw hactive]
    · simpa only [hvotes] using hlast.2

theorem top_insert {ballot : List ι} (hx : x ∉ ballot) :
    top (insert x active) ballot = top active ballot := by
  unfold top
  apply List.find?_congr
  intro c hc
  have hne : c ≠ x := fun heq => hx (heq ▸ hc)
  simp [hne]

theorem votes_append_insert (hnew : ∀ ballot ∈ before ++ b :: after, x ∉ ballot) (hw : w ∈ b)
    (hactive : w ∈ active) (c : ι) :
    votes (before ++ (b ++ [x]) :: after) (insert x active) c
      = votes (before ++ b :: after) active c := by
  rw [votes_append before after x hw (Finset.mem_insert_of_mem hactive)]
  exact List.countP_congr fun ballot hmem => by rw [top_insert (hnew ballot hmem)]

theorem total_append_insert (hnew : ∀ ballot ∈ before ++ b :: after, x ∉ ballot) (hw : w ∈ b)
    (hactive : w ∈ active) :
    total (before ++ (b ++ [x]) :: after) (insert x active)
      = total (before ++ b :: after) active := by
  rw [total_append hw (Finset.mem_insert_of_mem hactive)]
  exact List.countP_congr fun ballot hmem => by rw [top_insert (hnew ballot hmem)]

theorem Elects.append_new (h : Elects (before ++ b :: after) active w) (hw : w ∈ b)
    (hx : x ∉ active) (hnew : ∀ ballot ∈ before ++ b :: after, x ∉ ballot) :
    Elects (before ++ (b ++ [x]) :: after) (insert x active) w := by
  induction h with
  | @decided active w hlead hdone =>
    have hvotes := votes_append_insert hnew hw hlead.1
    have htotal := total_append_insert hnew hw hlead.1
    have hpos : 0 < total (before ++ b :: after) active :=
      total_pos (List.mem_append_right _ List.mem_cons_self) hw hlead.1
    have hnone : votes (before ++ b :: after) active x = 0 := votes_of_not_mem _ hx
    have hmost : total (before ++ b :: after) active
        < 2 * votes (before ++ b :: after) active w := by
      rcases hdone with hdone | hone
      · exact hdone
      · obtain ⟨c, rfl⟩ := Finset.card_eq_one.mp hone
        obtain rfl := Finset.mem_singleton.mp hlead.1
        have hall := total_single (before ++ b :: after) w
        omega
    refine .decided ⟨Finset.mem_insert_of_mem hlead.1, ?_⟩ (.inl ?_)
    · intro d hd
      rw [hvotes, hvotes]
      rcases Finset.mem_insert.mp hd with rfl | hd
      · left
        omega
      · exact hlead.2 d hd
    · rw [hvotes, htotal]
      exact hmost
  | @dropped active lead last w hlead hopen hmany hlast hrest ih =>
    have hactive : w ∈ active := Finset.mem_of_mem_erase hrest.mem
    have hvotes := votes_append_insert hnew hw hactive
    have htotal := total_append_insert hnew hw hactive
    have hpos : 0 < total (before ++ b :: after) active :=
      total_pos (List.mem_append_right _ List.mem_cons_self) hw hactive
    have hnone : votes (before ++ b :: after) active x = 0 := votes_of_not_mem _ hx
    have hleadpos := hlead.votes_pos hpos
    have hlead' : Leads (before ++ (b ++ [x]) :: after) (insert x active) lead := by
      refine ⟨Finset.mem_insert_of_mem hlead.1, fun d hd => ?_⟩
      rw [hvotes, hvotes]
      rcases Finset.mem_insert.mp hd with rfl | hd
      · left
        omega
      · exact hlead.2 d hd
    have hopen' : 2 * votes (before ++ (b ++ [x]) :: after) (insert x active) lead
        ≤ total (before ++ (b ++ [x]) :: after) (insert x active) := by
      rw [hvotes, htotal]
      exact hopen
    have hmany' : (insert x active).card ≠ 1 := by
      have := Finset.card_pos.mpr ⟨w, hactive⟩
      rw [Finset.card_insert_of_notMem hx]
      omega
    by_cases hfirst : votes (before ++ b :: after) active last = 0 ∧ last < x
    · -- a candidate without votes and before `x` drops out in both
      refine Elects.dropped hlead' hopen' hmany'
        (⟨Finset.mem_insert_of_mem hlast.1, fun d hd => ?_⟩ : Trails _ _ last) ?_
      · rw [hvotes, hvotes]
        rcases Finset.mem_insert.mp hd with rfl | hd
        · right
          exact ⟨by omega, hfirst.2.le⟩
        · exact hlast.2 d hd
      · have hne : x ≠ last := hfirst.2.ne'
        rw [Finset.erase_insert_of_ne hne]
        exact ih hw fun hmem => hx (Finset.mem_of_mem_erase hmem)
    · -- `x` drops out, and what is left is the old field
      refine Elects.dropped hlead' hopen' hmany'
        (⟨Finset.mem_insert_self _ _, fun d hd => ?_⟩ : Trails _ _ x) ?_
      · rw [hvotes, hvotes, hnone]
        rcases Finset.mem_insert.mp hd with rfl | hd
        · right
          exact ⟨hnone.symm, le_refl _⟩
        · have hbehind := hlast.2 d hd
          rcases Nat.eq_zero_or_pos (votes (before ++ b :: after) active d) with hzero | hsome
          · right
            have hlastzero : votes (before ++ b :: after) active last = 0 := by omega
            have hxlast : x ≤ last := not_lt.mp fun hlt => hfirst ⟨hlastzero, hlt⟩
            have hld : last ≤ d := by
              rcases hbehind with hlt | ⟨-, hle⟩
              · omega
              · exact hle
            exact ⟨hzero.symm, hxlast.trans hld⟩
          · left
            exact hsome
      · rw [Finset.erase_insert hx]
        exact (Elects.dropped hlead hopen hmany hlast hrest).append_same hw

theorem Elects.append_last (h : Elects (before ++ b :: after) active w) (hw : w ∈ b)
    (hnew : x ∉ active → ∀ ballot ∈ before ++ b :: after, x ∉ ballot) :
    Elects (before ++ (b ++ [x]) :: after) (insert x active) w := by
  by_cases hx : x ∈ active
  · rw [Finset.insert_eq_of_mem hx]
    exact h.append_same hw
  · exact h.append_new hw hx (hnew hx)

end Append

end Lib.InstantRunoff
