/-
  Lib.ListSeats — highest averages among the claimants with room.

  Seats are dealt as in `Lib.HighestAverages`, to the largest
  `weight / (seats + 1)` and the least claimant among equals, but who may hold
  one more seat is a relation of its own, such as a list that is not used up.

  Main results:
    * `Allotted.limit` — an allotment within the limits is the one among the
      claimants below their limit.
    * `Allotted.fill` — after as many seats as all limits together, everyone
      is at its limit.
    * `sum_min_eq_iff` — what two bounds leave of two sums.
-/
import Polis.Lib.HighestAverages

namespace Lib.HighestAverages

variable {ι : Type*} [LinearOrder ι]

/-- The claimant with room whose turn it is. -/
def NextOf (room : ι → ℤ → Prop) (w s : ι → ℤ) (c : ι) : Prop :=
  room c (s c) ∧ ∀ d, room d (s d) →
    average w s d < average w s c ∨ (average w s d = average w s c ∧ c ≤ d)

/-- What the claimants hold after a number of seats. -/
inductive Allotted (room : ι → ℤ → Prop) (w : ι → ℤ) : ℕ → (ι → ℤ) → Prop
  | none : Allotted room w 0 fun _ => 0
  | seat {n : ℕ} {s : ι → ℤ} {c : ι} (before : Allotted room w n s) (next : NextOf room w s c) :
      Allotted room w (n + 1) (give s c)

variable {room : ι → ℤ → Prop} {w s cap : ι → ℤ} {n : ℕ} {c : ι} {T : Finset ι}

theorem Allotted.nonneg (h : Allotted room w n s) (c : ι) : 0 ≤ s c := by
  induction h with
  | none => exact le_rfl
  | @seat n s d before next ih => exact ih.trans (le_give s d c)

theorem Allotted.eq_zero (h : Allotted room w n s) (hT : ∀ d k, room d k → d ∈ T) (hc : c ∉ T) :
    s c = 0 := by
  induction h with
  | none => rfl
  | @seat n s d before next ih =>
    have hne : c ≠ d := fun heq => hc (heq ▸ hT d _ next.1)
    rw [give_of_ne hne, ih]

theorem Allotted.sum (h : Allotted room w n s) (hT : ∀ d k, room d k → d ∈ T) :
    ∑ d ∈ T, s d = n := by
  induction h with
  | none => simp
  | seat before next ih =>
    rw [sum_give (hT _ _ next.1), ih]
    push_cast
    rfl

theorem Allotted.limit (h : Allotted room w n s) (hcap : ∀ d, s d ≤ cap d) :
    Allotted (fun d k => room d k ∧ k < cap d) w n s := by
  induction h with
  | none => exact .none
  | @seat n s c before next ih =>
    have hbefore : ∀ d, s d ≤ cap d := fun d => (le_give s c d).trans (hcap d)
    have hbelow : s c < cap c := by
      have hlast := hcap c
      rw [give_self] at hlast
      omega
    exact .seat (ih hbefore) ⟨⟨next.1, hbelow⟩, fun d hd => next.2 d hd.1⟩

theorem exists_nextOf (w : ι → ℤ) (h : ∃ d ∈ T, s d < cap d) :
    ∃ c, NextOf (fun d k => d ∈ T ∧ k < cap d) w s c := by
  obtain ⟨d, hd, hbelow⟩ := h
  obtain ⟨c, hc, hmax⟩ := Finset.exists_max_image (T.filter fun d => s d < cap d)
    (fun d => toLex (average w s d, OrderDual.toDual d))
    ⟨d, Finset.mem_filter.mpr ⟨hd, hbelow⟩⟩
  refine ⟨c, Finset.mem_filter.mp hc, fun e he => ?_⟩
  rcases Prod.Lex.le_iff.mp (hmax e (Finset.mem_filter.mpr he)) with hlt | ⟨heq, hle⟩
  · exact Or.inl hlt
  · exact Or.inr ⟨heq, OrderDual.toDual_le_toDual.mp hle⟩

theorem Allotted.le_cap (h : Allotted (fun d k => d ∈ T ∧ k < cap d) w n s)
    (hcap : ∀ d ∈ T, 0 ≤ cap d) : ∀ d ∈ T, s d ≤ cap d := by
  induction h with
  | none => exact hcap
  | @seat n s c before next ih =>
    intro d hd
    by_cases hdc : d = c
    · subst hdc
      have hbelow := next.1.2
      rw [give_self]
      omega
    · rw [give_of_ne hdc]
      exact ih d hd

theorem allotted_exists (w : ι → ℤ) (n : ℕ) (hn : (n : ℤ) ≤ ∑ d ∈ T, cap d) :
    ∃ s, Allotted (fun d k => d ∈ T ∧ k < cap d) w n s := by
  induction n with
  | zero => exact ⟨_, .none⟩
  | succ n ih =>
    obtain ⟨s, hs⟩ := ih (by omega)
    have hsum := hs.sum fun _ _ h => h.1
    have hlt : ∑ d ∈ T, s d < ∑ d ∈ T, cap d := by omega
    obtain ⟨d, hd, hbelow⟩ := Finset.exists_lt_of_sum_lt hlt
    obtain ⟨c, hc⟩ := exists_nextOf w ⟨d, hd, hbelow⟩
    exact ⟨_, hs.seat hc⟩

theorem Allotted.fill (w : ι → ℤ) (hcap : ∀ d ∈ T, 0 ≤ cap d) (hn : (n : ℤ) = ∑ d ∈ T, cap d) :
    Allotted (fun d k => d ∈ T ∧ k < cap d) w n fun d => if d ∈ T then cap d else 0 := by
  obtain ⟨s, hs⟩ := allotted_exists w n hn.le
  have hsum := hs.sum fun _ _ h => h.1
  have heq : ∀ d ∈ T, s d = cap d :=
    (Finset.sum_eq_sum_iff_of_le (hs.le_cap hcap)).mp (by omega)
  have hall : s = fun d => if d ∈ T then cap d else 0 := by
    funext d
    by_cases hd : d ∈ T
    · rw [if_pos hd]
      exact heq d hd
    · rw [if_neg hd]
      exact hs.eq_zero (fun _ _ h => h.1) hd
  rwa [← hall]

omit [LinearOrder ι] in
theorem sum_min_eq_iff (s cap : ι → ℤ) (T : Finset ι) :
    ∑ d ∈ T, min (s d) (cap d) = min (∑ d ∈ T, s d) (∑ d ∈ T, cap d) ↔
      (∀ d ∈ T, s d ≤ cap d) ∨ ∀ d ∈ T, cap d ≤ s d := by
  constructor
  · intro h
    rcases min_choice (∑ d ∈ T, s d) (∑ d ∈ T, cap d) with hmin | hmin
    · left
      rw [hmin] at h
      have heq := (Finset.sum_eq_sum_iff_of_le fun d _ => min_le_left (s d) (cap d)).mp h
      exact fun d hd => min_eq_left_iff.mp (heq d hd)
    · right
      rw [hmin] at h
      have heq := (Finset.sum_eq_sum_iff_of_le fun d _ => min_le_right (s d) (cap d)).mp h
      exact fun d hd => min_eq_right_iff.mp (heq d hd)
  · rintro (h | h)
    · rw [min_eq_left (Finset.sum_le_sum h)]
      exact Finset.sum_congr rfl fun d hd => min_eq_left (h d hd)
    · rw [min_eq_right (Finset.sum_le_sum h)]
      exact Finset.sum_congr rfl fun d hd => min_eq_right (h d hd)

end Lib.HighestAverages
