/-
  Lib.TopRanked — the rows of a list with the highest keys.

  Main results:
    * `above_topRanked` — below the cut, leaving rows out hides none of the
      rows that are above one.
    * `topRanked_append` — cutting, adding rows and cutting again keeps what
      one cut of all rows keeps.
    * `mem_take_sorted_iff` — what a sorted list loses at its front is what
      the cut leaves out.
-/
import Mathlib.Data.List.MinMax
import Polis.Lib.StableSort

namespace Lib.TopRanked

open StableSort

variable {α κ : Type*} [LinearOrder κ] (key : α → κ)

/-- The number of rows above a row. -/
def above (xs : List α) (x : α) : Nat := xs.countP fun y => key x < key y

/-- The rows with fewer than `m` rows above them. -/
def topRanked (m : Nat) (xs : List α) : List α := xs.filter fun x => above key xs x < m

variable {key}

theorem above_append (xs ys : List α) (x : α) :
    above key (xs ++ ys) x = above key xs x + above key ys x := List.countP_append

theorem above_perm {xs ys : List α} (h : xs.Perm ys) (x : α) : above key xs x = above key ys x :=
  h.countP_eq _

theorem countP_lt_length {p : α → Bool} {xs : List α} {x : α} (hx : x ∈ xs) (h : p x = false) :
    xs.countP p < xs.length := by
  refine lt_of_le_of_ne List.countP_le_length fun heq => ?_
  rw [List.countP_eq_length.mp heq x hx] at h
  cases h

theorem above_lt {xs : List α} {x y : α} (hy : y ∈ xs) (h : key x < key y) :
    above key xs y < above key xs x := by
  unfold above
  induction xs with
  | nil => cases hy
  | cons z zs ih =>
    have hmono : ∀ w ∈ zs, decide (key y < key w) = true → decide (key x < key w) = true := by
      intro w _ hw
      simpa using h.trans (of_decide_eq_true hw)
    have hle := List.countP_mono_left hmono
    rw [List.countP_cons, List.countP_cons]
    rcases List.mem_cons.mp hy with rfl | hy
    · rw [if_neg (by simp), if_pos (by simpa using h)]
      omega
    · have := ih hy
      by_cases hz : key y < key z
      · rw [if_pos (by simpa using hz), if_pos (by simpa using h.trans hz)]
        omega
      · rw [if_neg (by simpa using hz)]
        omega

theorem mem_topRanked {m : Nat} {xs : List α} {x : α} :
    x ∈ topRanked key m xs ↔ x ∈ xs ∧ above key xs x < m := by
  simp [topRanked]

theorem above_topRanked_le (m : Nat) (xs : List α) (x : α) :
    above key (topRanked key m xs) x ≤ above key xs x :=
  List.filter_sublist.countP_le

theorem above_topRanked {m : Nat} {xs : List α} {x : α} (h : above key xs x < m) :
    above key (topRanked key m xs) x = above key xs x := by
  unfold above topRanked
  rw [List.countP_filter]
  refine List.countP_congr fun y hy => ?_
  simp only [Bool.and_eq_true, decide_eq_true_eq, and_iff_left_iff_imp]
  intro hxy
  exact (above_lt hy hxy).trans h

theorem le_above_topRanked {m : Nat} {xs : List α} {x : α} (h : m ≤ above key xs x) :
    m ≤ above key (topRanked key m xs) x := by
  by_contra hfew
  have hfew : above key (topRanked key m xs) x < m := not_le.mp hfew
  -- the highest of the rows above `x` that are left out
  let lost := xs.filter fun y => key x < key y ∧ m ≤ above key xs y
  have mem_lost : ∀ y, y ∈ lost ↔ y ∈ xs ∧ key x < key y ∧ m ≤ above key xs y := by
    intro y
    simp [lost]
  have hlost : lost ≠ [] := by
    intro hnil
    have hsame : above key (topRanked key m xs) x = above key xs x := by
      unfold above topRanked
      rw [List.countP_filter]
      refine List.countP_congr fun y hy => ?_
      simp only [Bool.and_eq_true, decide_eq_true_eq, and_iff_left_iff_imp]
      intro hxy
      by_contra hout
      have hmem := (mem_lost y).mpr ⟨hy, hxy, not_lt.mp hout⟩
      rw [hnil] at hmem
      cases hmem
    omega
  have hsome : List.argmax key lost ≠ none := mt List.argmax_eq_none.mp hlost
  obtain ⟨y, hmax⟩ := Option.ne_none_iff_exists'.mp hsome
  have hy := List.argmax_mem (f := key) (Option.mem_def.mpr hmax)
  obtain ⟨hmem, hxy, hout⟩ := (mem_lost y).mp hy
  -- what is above it was kept
  have hkept : above key xs y ≤ above key (topRanked key m xs) x := by
    unfold above topRanked
    rw [List.countP_filter]
    refine List.countP_mono_left fun z hz hyz => ?_
    have hyz : key y < key z := of_decide_eq_true hyz
    simp only [Bool.and_eq_true, decide_eq_true_eq]
    refine ⟨hxy.trans hyz, ?_⟩
    by_contra hzout
    have hzlost := (mem_lost z).mpr ⟨hz, hxy.trans hyz, not_lt.mp hzout⟩
    exact absurd (List.le_of_mem_argmax hzlost (Option.mem_def.mpr hmax)) (not_le.mpr hyz)
  omega

theorem above_topRanked_lt_iff {m : Nat} {xs : List α} {x : α} :
    above key (topRanked key m xs) x < m ↔ above key xs x < m := by
  constructor
  · intro h
    by_contra hc
    exact absurd (le_above_topRanked (not_lt.mp hc)) (not_le.mpr h)
  · exact (above_topRanked_le m xs x).trans_lt

theorem topRanked_append (m : Nat) (xs ys : List α) :
    topRanked key m (topRanked key m xs ++ ys) = topRanked key m (xs ++ ys) := by
  have habove : ∀ x, above key (topRanked key m xs ++ ys) x < m ↔ above key (xs ++ ys) x < m := by
    intro x
    rw [above_append, above_append]
    by_cases h : above key xs x < m
    · rw [above_topRanked h]
    · have := le_above_topRanked (not_lt.mp h)
      omega
  have hfilter : ∀ zs : List α, zs.filter (fun x => above key (topRanked key m xs ++ ys) x < m)
      = zs.filter fun x => above key (xs ++ ys) x < m := by
    intro zs
    refine List.filter_congr fun x _ => ?_
    simp only [habove]
  unfold topRanked at hfilter ⊢
  rw [hfilter, List.filter_append, List.filter_append, List.filter_filter]
  congr 1
  refine List.filter_congr fun x _ => ?_
  rw [Bool.and_eq_left_iff_imp]
  intro hx
  have hx : above key (xs ++ ys) x < m := of_decide_eq_true hx
  rw [above_append] at hx
  simp only [decide_eq_true_eq]
  omega

theorem topRanked_of_length_le {m : Nat} {xs : List α} (h : xs.length ≤ m) :
    topRanked key m xs = xs := by
  unfold topRanked
  rw [List.filter_eq_self]
  intro x hx
  simp only [decide_eq_true_eq]
  refine lt_of_lt_of_le ?_ h
  exact countP_lt_length hx (by simp)

theorem length_topRanked_le {m : Nat} {xs : List α} (hkeys : (xs.map key).Nodup) :
    (topRanked key m xs).length ≤ m := by
  have hsub : (topRanked key m xs).Sublist xs := List.filter_sublist
  cases hmin : List.argmin key (topRanked key m xs) with
  | none =>
    rw [List.argmin_eq_none.mp hmin]
    exact Nat.zero_le m
  | some x =>
    have hx := List.argmin_mem (f := key) (Option.mem_def.mpr hmin)
    -- only the lowest row is not above the lowest row
    have hlow : (topRanked key m xs).countP (fun y => !decide (key x < key y)) ≤ 1 := by
      have hnodup := List.nodup_iff_count_le_one.mp (hkeys.sublist (hsub.map key)) (key x)
      refine le_trans ?_ hnodup
      rw [List.count, List.countP_map]
      refine List.countP_mono_left fun y hy hle => ?_
      have hle : ¬key x < key y := by simpa using hle
      have hge := List.le_of_mem_argmin hy (Option.mem_def.mpr hmin)
      simpa using le_antisymm (not_lt.mp hle) hge
    have hsum := List.length_eq_countP_add_countP (fun y => decide (key x < key y))
      (l := topRanked key m xs)
    have hfew : above key (topRanked key m xs) x < m :=
      above_topRanked_lt_iff.mpr (mem_topRanked.mp hx).2
    unfold above at hfew
    simp only [decide_not, Bool.decide_eq_true] at hsum
    omega

theorem mem_take_sorted_iff {m : Nat} {xs : List α} (hkeys : (xs.map key).Nodup)
    (hlong : m ≤ xs.length) {x : α} (hx : x ∈ xs) :
    x ∈ (sortByKey key xs).take (xs.length - m) ↔ ¬above key xs x < m := by
  have hperm : (sortByKey key xs).Perm xs := List.perm_insertionSort _ xs
  have hlength := hperm.length_eq
  have hstrict : (sortByKey key xs).Pairwise fun a b => key a < key b := by
    have hnodup : (sortByKey key xs).Pairwise fun a b => key a ≠ key b :=
      List.pairwise_map.mp ((hperm.map key).nodup_iff.mpr hkeys)
    exact (hnodup.and (pairwise_sortByKey key xs)).imp fun h => lt_of_le_of_ne h.2 h.1
  rw [← above_perm hperm]
  generalize sortByKey key xs = sorted at hperm hlength hstrict
  have hsplit := List.take_append_drop (xs.length - m) sorted
  have hpair := hstrict
  rw [← hsplit] at hpair
  obtain ⟨-, hdrop, hcross⟩ := List.pairwise_append.mp hpair
  have hdroplen : (sorted.drop (xs.length - m)).length = m := by
    rw [List.length_drop]
    omega
  rw [not_lt]
  constructor
  · intro hmem
    -- everything behind the cut is above
    have hall : (sorted.drop (xs.length - m)).countP (fun y => key x < key y) = m := by
      rw [List.countP_eq_length.mpr, hdroplen]
      intro y hy
      simpa using hcross x hmem y hy
    rw [← hall]
    exact (List.drop_sublist _ _).countP_le
  · intro hmany
    by_contra hout
    have hxsorted : x ∈ sorted := hperm.mem_iff.mpr hx
    rw [← hsplit, List.mem_append] at hxsorted
    have hxdrop := hxsorted.resolve_left hout
    have hfront : (sorted.take (xs.length - m)).countP (fun y => key x < key y) = 0 := by
      rw [List.countP_eq_zero]
      intro y hy
      simpa using (hcross y hy x hxdrop).le
    have hback : (sorted.drop (xs.length - m)).countP (fun y => key x < key y) < m := by
      have hself : decide (key x < key x) = false := by simp
      have hlt := countP_lt_length (p := fun y => decide (key x < key y)) hxdrop hself
      omega
    have habove : above key sorted x < m := by
      unfold above
      rw [← hsplit, List.countP_append, hfront]
      omega
    omega

end Lib.TopRanked
