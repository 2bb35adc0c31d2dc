/-
  Lib.Runs — runs of a state machine given as a step function.

  A run is the left fold of `step` over a list of calls.  `Along Q` says that
  every call of a run meets `Q` in the state it is made in.

  Main results:
    * `Along.invariant` — what every call along a run preserves holds at its
      end.
    * `along_append` — a run may be cut anywhere.
-/
import Mathlib.Init
import Mathlib.Data.List.Basic

namespace Lib.Runs

variable {σ α : Type*} (step : σ → α → σ)

/-- Every call meets `Q` in the state it is made in. -/
def Along (Q : σ → α → Prop) : σ → List α → Prop
  | _, [] => True
  | s, a :: as => Q s a ∧ Along Q (step s a) as

instance along_decidable (Q : σ → α → Prop) [∀ s a, Decidable (Q s a)] :
    ∀ (s : σ) (as : List α), Decidable (Along step Q s as)
  | _, [] => isTrue trivial
  | s, a :: as =>
    have := along_decidable Q (step s a) as
    inferInstanceAs (Decidable (Q s a ∧ Along step Q (step s a) as))

variable {step}

@[simp] theorem along_nil (Q : σ → α → Prop) (s : σ) : Along step Q s [] := trivial

theorem along_append {Q : σ → α → Prop} {s : σ} {as bs : List α} :
    Along step Q s (as ++ bs) ↔ Along step Q s as ∧ Along step Q (as.foldl step s) bs := by
  induction as generalizing s with
  | nil => simp
  | cons a as ih =>
    simp only [List.cons_append, Along, List.foldl_cons, ih]
    exact and_assoc.symm

theorem Along.mono {Q R : σ → α → Prop} {s : σ} {as : List α} (h : Along step Q s as)
    (hr : ∀ s a, Q s a → R s a) : Along step R s as := by
  induction as generalizing s with
  | nil => trivial
  | cons a as ih => exact ⟨hr s a h.1, ih h.2⟩

theorem Along.and {Q R : σ → α → Prop} {s : σ} {as : List α} (hq : Along step Q s as)
    (hr : Along step R s as) : Along step (fun s a => Q s a ∧ R s a) s as := by
  induction as generalizing s with
  | nil => trivial
  | cons a as ih => exact ⟨⟨hq.1, hr.1⟩, ih hq.2 hr.2⟩

theorem along_of_forall {Q : σ → α → Prop} (h : ∀ s a, Q s a) (s : σ) (as : List α) :
    Along step Q s as := by
  induction as generalizing s with
  | nil => trivial
  | cons a as ih => exact ⟨h s a, ih _⟩

theorem along_of_mem {Q : α → Prop} {as : List α} (h : ∀ a ∈ as, Q a) (s : σ) :
    Along step (fun _ a => Q a) s as := by
  induction as generalizing s with
  | nil => trivial
  | cons a as ih => exact ⟨h a List.mem_cons_self, ih (fun b hb => h b (List.mem_cons_of_mem _ hb)) _⟩

theorem Along.invariant {Q : σ → α → Prop} {I : σ → Prop}
    (hstep : ∀ s a, I s → Q s a → I (step s a)) {s : σ} {as : List α}
    (h : Along step Q s as) (hs : I s) : I (as.foldl step s) := by
  induction as generalizing s with
  | nil => exact hs
  | cons a as ih => exact ih h.2 (hstep s a hs h.1)

theorem run_within {R : σ → σ → Prop} (hrefl : ∀ s, R s s)
    (htrans : ∀ a b c, R a b → R b c → R a c) (hstep : ∀ s a, R s (step s a)) (s : σ)
    (as : List α) : R s (as.foldl step s) := by
  induction as generalizing s with
  | nil => exact hrefl s
  | cons a as ih => exact htrans _ _ _ (hstep s a) (ih _)

end Lib.Runs
