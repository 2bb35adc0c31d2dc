/-
  Lib.SharedEnds — counting a growing collection by windows that share their
  ends.

  A closing counts what lies in its window, both ends included.  The next
  window starts at the end of this one, so what lies there and was present
  already is counted again.

  Main results:
    * `counted_eq` — a closing counts what is new since the closing before,
      and what that closing left at its very end.
    * `Chained.exact_iff` — all closings together count everything once
      exactly when none but the last leaves anything at its end.
-/
import Mathlib.Algebra.BigOperators.Group.List.Basic
import Mathlib.Algebra.Order.BigOperators.Group.List
import Mathlib.Algebra.Order.Group.Nat
import Mathlib.Algebra.Ring.Nat
import Mathlib.Data.Finset.Card

namespace Lib.SharedEnds

variable {α : Type*} [DecidableEq α]

/-- A closing: its window, what was present at the closing before it and what
is present now. -/
structure Closing (α : Type*) where
  start : Int
  stop : Int
  before : Finset α
  present : Finset α

namespace Closing

/-- What came since the closing before. -/
def fresh (c : Closing α) : Finset α := c.present \ c.before

variable (time : α → Int)

omit [DecidableEq α] in
/-- How much a closing counts. -/
def counted (c : Closing α) : Nat :=
  (c.present.filter fun x => c.start ≤ time x ∧ time x ≤ c.stop).card

omit [DecidableEq α] in
/-- What a closing counts although the one before it did already. -/
def carried (c : Closing α) : Finset α := c.before.filter fun x => time x = c.start

omit [DecidableEq α] in
/-- What lies at the end of the window. -/
def atEnd (c : Closing α) : Finset α := c.present.filter fun x => time x = c.stop

/-- A closing that follows `S`, present at `u`: its window starts there, and
what is new lies inside the window. -/
structure Follows (S : Finset α) (u : Int) (c : Closing α) : Prop where
  start : c.start = u
  before : c.before = S
  le : u ≤ c.stop
  kept : S ⊆ c.present
  inside : ∀ x ∈ c.present, x ∉ S → u ≤ time x ∧ time x ≤ c.stop

end Closing

open Closing

variable {time : α → Int}

theorem counted_eq {S : Finset α} {u : Int} {c : Closing α} (h : c.Follows time S u)
    (hS : ∀ x ∈ S, time x ≤ u) : c.counted time = c.fresh.card + (c.carried time).card := by
  have hstart := h.start
  have hstop := h.le
  have hsplit : (c.present.filter fun x => c.start ≤ time x ∧ time x ≤ c.stop)
      = c.fresh ∪ c.carried time := by
    ext x
    simp only [fresh, carried, Finset.mem_filter, Finset.mem_union, Finset.mem_sdiff, h.before]
    by_cases hx : x ∈ S
    · have hle := hS x hx
      have hin := h.kept hx
      constructor
      · intro hwin
        exact Or.inr ⟨hx, by omega⟩
      · intro hor
        have heq : time x = c.start := by
          rcases hor with hnew | hold
          · exact absurd hx hnew.2
          · exact hold.2
        exact ⟨hin, by omega⟩
    · constructor
      · intro hwin
        exact Or.inl ⟨hwin.1, hx⟩
      · intro hor
        have hin : x ∈ c.present := by
          rcases hor with hnew | hold
          · exact hnew.1
          · exact absurd hold.1 hx
        have hwin := h.inside x hin hx
        exact ⟨hin, by omega⟩
  have hdisjoint : Disjoint c.fresh (c.carried time) := by
    refine Finset.disjoint_left.mpr fun x hfresh hcarried => ?_
    exact (Finset.mem_sdiff.mp hfresh).2 (Finset.mem_filter.mp hcarried).1
  show Finset.card _ = _
  rw [hsplit, Finset.card_union_of_disjoint hdisjoint]

/-- Closings one after another, from the first: `S` is what was present at the
last of them and `u` is its time. -/
inductive Chained (time : α → Int) (first : Int) : Finset α → Int → List (Closing α) → Prop
  | nil : Chained time first ∅ first []
  | snoc {S : Finset α} {u : Int} {cs : List (Closing α)} {c : Closing α}
      (earlier : Chained time first S u cs) (follows : c.Follows time S u) :
      Chained time first c.present c.stop (cs ++ [c])

section Chained

variable {first u : Int} {S : Finset α} {cs : List (Closing α)}

theorem Chained.time_le (h : Chained time first S u cs) : ∀ x ∈ S, time x ≤ u := by
  induction h with
  | nil => simp
  | @snoc T v ds c _ hc ih =>
    intro x hx
    by_cases hold : x ∈ T
    · exact (ih x hold).trans hc.le
    · exact (hc.inside x hx hold).2

theorem Chained.sum_fresh (h : Chained time first S u cs) :
    (cs.map fun c => c.fresh.card).sum = S.card := by
  induction h with
  | nil => rfl
  | @snoc T v ds c _ hc ih =>
    have hcard : c.fresh.card + T.card = c.present.card := by
      unfold fresh
      rw [hc.before]
      exact Finset.card_sdiff_add_card_eq_card hc.kept
    rw [List.map_append, List.sum_append, ih]
    simp only [List.map_cons, List.map_nil, List.sum_cons, List.sum_nil]
    omega

theorem Chained.counted_eq (h : Chained time first S u cs) :
    ∀ c ∈ cs, c.counted time = c.fresh.card + (c.carried time).card := by
  induction h with
  | nil => simp
  | @snoc T v ds c hds hc ih =>
    intro d hd
    rcases List.mem_append.mp hd with hd | hd
    · exact ih d hd
    · rw [List.mem_singleton.mp hd]
      exact SharedEnds.counted_eq hc hds.time_le

omit [DecidableEq α] in
theorem Chained.last (h : Chained time first S u cs) :
    (cs = [] ∧ S = ∅) ∨ ∃ ds c, cs = ds ++ [c] ∧ S = c.present ∧ u = c.stop := by
  cases h with
  | nil => exact Or.inl ⟨rfl, rfl⟩
  | snoc => exact Or.inr ⟨_, _, rfl, rfl, rfl⟩

omit [DecidableEq α] in
theorem Chained.carried_iff (h : Chained time first S u cs) :
    (∀ c ∈ cs, c.carried time = ∅) ↔ ∀ c ∈ cs.dropLast, c.atEnd time = ∅ := by
  induction h with
  | nil => simp
  | @snoc T v ds c hds hc ih =>
    rw [List.dropLast_concat]
    rcases hds.last with ⟨rfl, rfl⟩ | ⟨es, d, rfl, rfl, rfl⟩
    · simp [carried, hc.before]
    · -- what the closing counts again is what the one before it had at its end
      have hagain : c.carried time = d.atEnd time := by
        unfold carried atEnd
        rw [hc.before, hc.start]
      rw [List.dropLast_concat] at ih
      refine List.forall_mem_append.trans ((and_congr ih List.forall_mem_singleton).trans ?_)
      rw [hagain]
      exact (List.forall_mem_append.trans (and_congr Iff.rfl List.forall_mem_singleton)).symm

theorem Chained.exact_iff (h : Chained time first S u cs) :
    (cs.map fun c => c.counted time).sum = S.card ↔ ∀ c ∈ cs.dropLast, c.atEnd time = ∅ := by
  have hsum : (cs.map fun c => c.counted time).sum
      = S.card + (cs.map fun c => (c.carried time).card).sum := by
    rw [← h.sum_fresh, ← List.sum_map_add]
    exact congrArg List.sum (List.map_congr_left h.counted_eq)
  have hnone : (cs.map fun c => (c.carried time).card).sum = 0 ↔ ∀ c ∈ cs, c.carried time = ∅ := by
    rw [List.sum_eq_zero_iff, List.forall_mem_map]
    exact forall₂_congr fun c _ => Finset.card_eq_zero
  rw [← h.carried_iff, ← hnone, hsum]
  omega

end Chained

end Lib.SharedEnds
