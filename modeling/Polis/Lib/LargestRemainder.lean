/-
  Lib.LargestRemainder — handing out one more to those with the largest
  remainders.

  Every item has a number, divided by a common divisor; what the quotients
  leave over is handed out in the order of the remainders.

  Main results:
    * `sum_emod` — the remainders are what is left over.
    * `remainder_pos_of_taken` — only items with a remainder are handed one
      more.
    * `mem_take_of_lt` — whoever comes before one that is served is served.
-/
import Mathlib.Algebra.BigOperators.Group.List.Basic
import Mathlib.Algebra.Order.BigOperators.Group.List
import Mathlib.Algebra.Order.Group.Int
import Mathlib.Algebra.Ring.Int.Defs
import Mathlib.Tactic.Linarith

namespace Lib.LargestRemainder

variable {α κ : Type*}

theorem sum_emod (f : α → Int) (d : Int) (xs : List α) :
    (xs.map fun x => f x % d).sum = (xs.map f).sum - d * (xs.map fun x => f x / d).sum := by
  induction xs with
  | nil => simp
  | cons x xs ih =>
    have hx := Int.mul_ediv_add_emod (f x) d
    simp only [List.map_cons, List.sum_cons, ih, mul_add]
    omega

theorem sum_lt {d : Int} {xs : List Int} (hne : xs ≠ []) (h : ∀ x ∈ xs, x < d) :
    xs.sum < d * xs.length := by
  induction xs with
  | nil => exact absurd rfl hne
  | cons x xs ih =>
    have hx := h x List.mem_cons_self
    by_cases hxs : xs = []
    · subst hxs
      simpa using hx
    · have hrest := ih hxs fun y hy => h y (List.mem_cons_of_mem _ hy)
      rw [List.sum_cons, List.length_cons]
      push_cast
      linarith

theorem remainder_pos_of_taken {rem : α → Int} {d : Int} {m : Nat} {xs : List α} (hd : 0 < d)
    (hrange : ∀ x ∈ xs, 0 ≤ rem x ∧ rem x < d) (hsorted : xs.Pairwise fun a b => rem b ≤ rem a)
    (hsum : (xs.map rem).sum = d * m) {x : α} (hx : x ∈ xs.take m) : 0 < rem x := by
  by_contra hzero
  obtain ⟨before, after, hsplit⟩ := List.append_of_mem hx
  -- nothing from `x` on has a remainder
  have hxs : xs = before ++ x :: (after ++ xs.drop m) := by
    rw [← List.cons_append, ← List.append_assoc, ← hsplit, List.take_append_drop]
  have hbehind : ((x :: (after ++ xs.drop m)).map rem).sum = 0 := by
    refine List.sum_eq_zero fun r hr => ?_
    obtain ⟨y, hy, rfl⟩ := List.mem_map.mp hr
    have hin : y ∈ xs := by
      rw [hxs]
      exact List.mem_append_right _ hy
    have hnonneg := (hrange y hin).1
    rw [hxs] at hsorted
    have htail := (List.pairwise_append.mp hsorted).2.1
    rcases List.mem_cons.mp hy with rfl | hy
    · omega
    · have hle := (List.pairwise_cons.mp htail).1 y hy
      omega
  have hlen : before.length < m := by
    have hcount := congrArg List.length hsplit
    rw [List.length_append, List.length_cons] at hcount
    have htake := List.length_take_le m xs
    omega
  have hfront : (xs.map rem).sum = (before.map rem).sum := by
    rw [hxs, List.map_append, List.sum_append, hbehind, add_zero]
  by_cases hbefore : before = []
  · rw [hfront, hbefore] at hsum
    have hm : (0 : Int) < d * m := mul_pos hd (by omega)
    simp at hsum
    omega
  · have hlt : (before.map rem).sum < d * (before.map rem).length := by
      refine sum_lt (by simpa using hbefore) fun r hr => ?_
      obtain ⟨y, hy, rfl⟩ := List.mem_map.mp hr
      refine (hrange y ?_).2
      rw [hxs]
      exact List.mem_append_left _ hy
    have hle : d * ((before.map rem).length : Int) ≤ d * m :=
      mul_le_mul_of_nonneg_left (by simpa using hlen.le) hd.le
    omega

theorem mem_take_of_lt [LinearOrder κ] {key : α → κ} {m : Nat} {xs : List α}
    (hsorted : xs.Pairwise fun a b => key a ≤ key b) {x y : α} (hx : x ∈ xs.take m) (hy : y ∈ xs)
    (h : key y < key x) : y ∈ xs.take m := by
  rw [← List.take_append_drop m xs] at hsorted hy
  rcases List.mem_append.mp hy with hin | hout
  · exact hin
  · have hle := (List.pairwise_append.mp hsorted).2.2 x hx y hout
    exact absurd h (not_lt.mpr hle)

end Lib.LargestRemainder
