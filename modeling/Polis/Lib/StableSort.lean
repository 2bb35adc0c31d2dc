/-
  Lib.StableSort — sorting by a key, and cutting the sorted list at a key.

  Main results:
    * `filter_insertionSort` — sorting and leaving rows out commute, also
      among rows with equal keys.
    * `cut_append` — a sorted list is its rows below a key and then the rest.
-/
import Mathlib.Data.List.Sort

namespace Lib.StableSort

variable {α κ : Type*} [LinearOrder κ] (key : α → κ)

/-- The order of rows by their key. -/
def ByKey (a b : α) : Prop := key a ≤ key b

instance : DecidableRel (ByKey key) := fun a b => inferInstanceAs (Decidable (key a ≤ key b))

instance : Std.Total (ByKey key) := ⟨fun a b => le_total (key a) (key b)⟩

instance : IsTrans α (ByKey key) := ⟨fun _ _ _ => le_trans⟩

/-- `sorted(rows, key=...)`. -/
def sortByKey (xs : List α) : List α := xs.insertionSort (ByKey key)

theorem pairwise_sortByKey (xs : List α) : (sortByKey key xs).Pairwise (ByKey key) :=
  List.pairwise_insertionSort _ xs

theorem filter_orderedInsert (p : α → Bool) (x : α) {xs : List α} (h : xs.Pairwise (ByKey key)) :
    (xs.orderedInsert (ByKey key) x).filter p
      = if p x then (xs.filter p).orderedInsert (ByKey key) x else xs.filter p := by
  induction xs with
  | nil => cases hx : p x <;> simp [hx]
  | cons y ys ih =>
    obtain ⟨hy, hys⟩ := List.pairwise_cons.mp h
    by_cases hle : ByKey key x y
    · -- every row of the list is at or behind `x`
      have hall : ∀ z ∈ (y :: ys).filter p, ByKey key x z := by
        intro z hz
        rcases List.mem_cons.mp (List.mem_filter.mp hz).1 with rfl | hz
        · exact hle
        · exact le_trans hle (hy z hz)
      rw [List.orderedInsert_cons_of_le _ _ hle, List.filter_cons]
      by_cases hx : p x = true
      · rw [if_pos hx, if_pos hx]
        cases hrest : (y :: ys).filter p with
        | nil => rfl
        | cons z zs =>
          have hz := hall z (by rw [hrest]; exact List.mem_cons_self)
          rw [List.orderedInsert_cons_of_le _ _ hz]
      · rw [if_neg hx, if_neg hx]
    · rw [List.orderedInsert_of_not_le _ _ hle, List.filter_cons, ih hys, List.filter_cons]
      by_cases hx : p x = true
      · rw [if_pos hx, if_pos hx]
        by_cases hp : p y = true
        · rw [if_pos hp, if_pos hp, List.orderedInsert_of_not_le _ _ hle]
        · rw [if_neg hp, if_neg hp]
      · rw [if_neg hx, if_neg hx]

theorem filter_insertionSort (p : α → Bool) (xs : List α) :
    (sortByKey key xs).filter p = sortByKey key (xs.filter p) := by
  unfold sortByKey
  induction xs with
  | nil => rfl
  | cons x xs ih =>
    rw [List.insertionSort_cons,
      filter_orderedInsert key p x (List.pairwise_insertionSort _ xs), ih, List.filter_cons]
    by_cases hx : p x = true
    · rw [if_pos hx, if_pos hx, List.insertionSort_cons]
    · rw [if_neg hx, if_neg hx]

theorem cut_append (k : κ) {xs : List α} (h : xs.Pairwise (ByKey key)) :
    xs.filter (fun x => key x < k) ++ xs.filter (fun x => k ≤ key x) = xs := by
  induction xs with
  | nil => rfl
  | cons x xs ih =>
    obtain ⟨hx, hxs⟩ := List.pairwise_cons.mp h
    by_cases hlt : key x < k
    · rw [List.filter_cons_of_pos (by simpa using hlt),
        List.filter_cons_of_neg (by simpa using hlt), List.cons_append, ih hxs]
    · -- nothing behind `x` is below the key
      have hle : k ≤ key x := not_lt.mp hlt
      have hnone : (x :: xs).filter (fun y => key y < k) = [] := by
        rw [List.filter_eq_nil_iff]
        intro y hy
        rcases List.mem_cons.mp hy with rfl | hy
        · simpa using hle
        · simpa using hle.trans (hx y hy)
      have hall : (x :: xs).filter (fun y => k ≤ key y) = x :: xs := by
        rw [List.filter_eq_self]
        intro y hy
        rcases List.mem_cons.mp hy with rfl | hy
        · simpa using hle
        · simpa using hle.trans (hx y hy)
      rw [hnone, hall, List.nil_append]

end Lib.StableSort
