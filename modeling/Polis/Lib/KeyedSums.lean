/-
  Lib.KeyedSums — the sums of a list, key by key.

  Every row of a list has a key and an amount.  `sumAt key amount k rows` is
  what the rows of one key come to.

  Main results:
    * `sumAt_concat` — one more row.
    * `sum_sumAt_filter` — the keys of a range come to what the rows of the
      range come to, when every such row has its key among them.
-/
import Mathlib.Algebra.BigOperators.Group.List.Basic
import Mathlib.Algebra.Order.BigOperators.Group.List
import Mathlib.Algebra.Order.Group.Int
import Mathlib.Algebra.Ring.Int.Defs
import Mathlib.Data.List.Nodup

namespace Lib

universe u v

variable {α : Type u} {κ : Type v} [DecidableEq κ] (key : α → κ) (amount : α → Int)

/-- What the rows of key `k` come to. -/
def sumAt (k : κ) (rows : List α) : Int :=
  ((rows.filter fun row => key row = k).map amount).sum

@[simp] theorem sumAt_nil (k : κ) : sumAt key amount k [] = 0 := rfl

theorem sumAt_cons (k : κ) (row : α) (rows : List α) :
    sumAt key amount k (row :: rows)
      = (if key row = k then amount row else 0) + sumAt key amount k rows := by
  by_cases h : key row = k
  · simp [sumAt, h]
  · simp [sumAt, h]

theorem sumAt_concat (k : κ) (rows : List α) (row : α) :
    sumAt key amount k (rows ++ [row])
      = sumAt key amount k rows + if key row = k then amount row else 0 := by
  by_cases h : key row = k
  · simp [sumAt, h]
  · simp [sumAt, h]

theorem sumAt_eq_zero {k : κ} {rows : List α} (h : ∀ row ∈ rows, key row ≠ k) :
    sumAt key amount k rows = 0 := by
  have hnil : (rows.filter fun row => key row = k) = [] := by
    rw [List.filter_eq_nil_iff]
    intro row hrow
    simpa using h row hrow
  rw [sumAt, hnil]
  rfl

theorem sumAt_pos {k : κ} {rows : List α} (hpos : ∀ row ∈ rows, 0 < amount row)
    {row : α} (hrow : row ∈ rows) (hk : key row = k) : 0 < sumAt key amount k rows := by
  refine List.sum_pos _ ?_ ?_
  · intro n hn
    obtain ⟨r, hr, rfl⟩ := List.mem_map.mp hn
    exact hpos r (List.mem_filter.mp hr).1
  · intro hnil
    have hmem : row ∈ rows.filter fun row => key row = k :=
      List.mem_filter.mpr ⟨hrow, by simpa using hk⟩
    rw [List.map_eq_nil_iff.mp hnil] at hmem
    exact List.not_mem_nil hmem

theorem sum_indicator {keys : List κ} (hn : keys.Nodup) (k : κ) (n : Int) :
    (keys.map fun j => if k = j then n else 0).sum = if k ∈ keys then n else 0 := by
  induction keys with
  | nil => simp
  | cons j keys ih =>
    obtain ⟨hj, hkeys⟩ := List.nodup_cons.mp hn
    by_cases h : k = j
    · subst h
      simp [ih hkeys, hj]
    · simp [ih hkeys, h]

theorem sum_sumAt {keys : List κ} (hn : keys.Nodup) {rows : List α}
    (hkeys : ∀ row ∈ rows, key row ∈ keys) :
    (keys.map fun k => sumAt key amount k rows).sum = (rows.map amount).sum := by
  induction rows with
  | nil => simp
  | cons row rows ih =>
    have hrow : key row ∈ keys := hkeys row List.mem_cons_self
    have hrest := ih fun r hr => hkeys r (List.mem_cons_of_mem _ hr)
    simp only [sumAt_cons, List.map_cons, List.sum_cons]
    rw [List.sum_map_add, sum_indicator hn, if_pos hrow, hrest]

theorem sum_sumAt_filter {keys : List κ} (hn : keys.Nodup) (p : κ → Bool) {rows : List α}
    (hkeys : ∀ row ∈ rows, p (key row) = true → key row ∈ keys) :
    ((keys.filter p).map fun k => sumAt key amount k rows).sum
      = ((rows.filter fun row => p (key row)).map amount).sum := by
  have hin : ∀ row ∈ rows.filter (fun row => p (key row)), key row ∈ keys.filter p := by
    intro row hrow
    obtain ⟨hmem, hp⟩ := List.mem_filter.mp hrow
    exact List.mem_filter.mpr ⟨hkeys row hmem hp, hp⟩
  rw [← sum_sumAt key amount (hn.filter p) hin]
  refine congrArg List.sum (List.map_congr_left fun k hk => ?_)
  -- a key of the range loses none of its rows
  rw [sumAt, sumAt, List.filter_filter]
  refine congrArg (fun rs : List α => (rs.map amount).sum) (List.filter_congr fun row _ => ?_)
  by_cases h : key row = k
  · rw [h]
    simp [(List.mem_filter.mp hk).2]
  · simp [h]

end Lib
