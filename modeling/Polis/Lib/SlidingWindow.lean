/-
  Lib.SlidingWindow — admissions that count the admissions of the window
  before them.

  `Admitted n w ts` says of the times `ts`, in the order they were admitted
  in, that each of them found fewer than `n` of the earlier ones after the
  start of its window of length `w`.  The times need not be sorted.

  Main results:
    * `Admitted.countP_le` — at most `n` admissions lie in a span whose times
      are all less than `w` apart.
    * `Admitted.ioc_le`, `Admitted.ico_le` — the half-open windows.
-/
import Mathlib.Algebra.Order.Group.Defs
import Mathlib.Algebra.Order.Sub.Defs
import Mathlib.Data.List.Count
import Mathlib.Tactic.Abel

namespace Lib

variable {α : Type*} [AddCommGroup α] [LinearOrder α] [IsOrderedAddMonoid α]

/-- Each time found fewer than `n` of the earlier ones after the start of its
window. -/
inductive Admitted (n : ℕ) (w : α) : List α → Prop
  | nil : Admitted n w []
  | snoc {ts : List α} {t : α} (earlier : Admitted n w ts)
      (room : ts.countP (fun x => t - w < x) < n) : Admitted n w (ts ++ [t])

namespace Admitted

variable {n : ℕ} {w : α} {ts : List α}

omit [IsOrderedAddMonoid α] in
theorem countP_le (h : Admitted n w ts) {p : α → Prop} [DecidablePred p]
    (hspan : ∀ t x, p t → p x → t - w < x) : ts.countP (fun x => p x) ≤ n := by
  induction h with
  | nil => simp
  | @snoc ts t earlier room ih =>
    rw [List.countP_append]
    by_cases ht : p t
    · -- the last admission of the span counted all the others
      have hle : ts.countP (fun x => p x) ≤ ts.countP (fun x => t - w < x) := by
        apply List.countP_mono_left
        intro x _ hx
        simpa using hspan t x ht (by simpa using hx)
      have hone : [t].countP (fun x => p x) = 1 := by simp [ht]
      omega
    · have hnone : [t].countP (fun x => p x) = 0 := by simp [ht]
      omega

theorem ioc_le (h : Admitted n w ts) (lo : α) :
    ts.countP (fun x => lo < x ∧ x ≤ lo + w) ≤ n := by
  apply h.countP_le
  intro t x ht hx
  calc t - w ≤ lo + w - w := sub_le_sub_right ht.2 w
    _ = lo := by abel
    _ < x := hx.1

theorem ico_le (h : Admitted n w ts) (lo : α) :
    ts.countP (fun x => lo ≤ x ∧ x < lo + w) ≤ n := by
  apply h.countP_le
  intro t x ht hx
  calc t - w < lo + w - w := sub_lt_sub_right ht.2 w
    _ = lo := by abel
    _ ≤ x := hx.1

end Admitted

end Lib
