/-
  Lib.HighestAverages — capped highest averages, the divisor method of
  Jefferson and d'Hondt.

  Each claimant has a weight.  Seats are dealt one by one: the next seat goes
  to the claimant below its weight with the largest `weight / (seats + 1)`,
  to the least claimant among equals.

  Main results:
    * `dealt_unique` — the number of seats decides who holds them.
    * `dealt_mono` — more seats take none away.
    * `dealt_divisor` — after as many seats as a divisor gives out, everyone
      holds what the divisor gives.
-/
import Mathlib.Algebra.BigOperators.Group.Finset.Basic
import Mathlib.Algebra.Order.BigOperators.Group.Finset
import Mathlib.Algebra.Order.Floor.Ring
import Mathlib.Data.Finset.Max
import Mathlib.Data.Prod.Lex
import Mathlib.Data.Rat.Floor
import Mathlib.Tactic.FieldSimp
import Mathlib.Tactic.Linarith

namespace Lib.HighestAverages

variable {ι : Type*} [LinearOrder ι]

/-! ## Dealing seats -/

/-- What a claimant's next seat is worth to it. -/
def average (w s : ι → ℤ) (c : ι) : ℚ := w c / (s c + 1)

/-- The claimant whose turn it is. -/
def Next (w s : ι → ℤ) (c : ι) : Prop :=
  s c < w c ∧ ∀ d, s d < w d →
    average w s d < average w s c ∨ (average w s d = average w s c ∧ c ≤ d)

/-- One more seat for `c`. -/
def give (s : ι → ℤ) (c : ι) : ι → ℤ := Function.update s c (s c + 1)

/-- What the claimants hold after a number of seats. -/
inductive Dealt (w : ι → ℤ) : ℕ → (ι → ℤ) → Prop
  | none : Dealt w 0 fun _ => 0
  | seat {n : ℕ} {s : ι → ℤ} {c : ι} (before : Dealt w n s) (next : Next w s c) :
      Dealt w (n + 1) (give s c)

@[simp] theorem give_self (s : ι → ℤ) (c : ι) : give s c c = s c + 1 := Function.update_self ..

theorem give_of_ne {s : ι → ℤ} {c d : ι} (h : d ≠ c) : give s c d = s d :=
  Function.update_of_ne h ..

theorem le_give (s : ι → ℤ) (c d : ι) : s d ≤ give s c d := by
  by_cases h : d = c
  · subst h
    simp
  · rw [give_of_ne h]

theorem next_unique {w s : ι → ℤ} {c d : ι} (hc : Next w s c) (hd : Next w s d) : c = d := by
  rcases hc.2 d hd.1 with hlt | ⟨heq, hcd⟩
  · rcases hd.2 c hc.1 with hlt' | ⟨heq', -⟩
    · exact absurd hlt' (not_lt.mpr hlt.le)
    · exact absurd heq' hlt.ne'
  · rcases hd.2 c hc.1 with hlt' | ⟨-, hdc⟩
    · exact absurd heq hlt'.ne'
    · exact le_antisymm hcd hdc

theorem dealt_succ {w s' : ι → ℤ} {n : ℕ} (h : Dealt w (n + 1) s') :
    ∃ s c, Dealt w n s ∧ Next w s c ∧ s' = give s c := by
  cases h with
  | seat before next => exact ⟨_, _, before, next, rfl⟩

theorem dealt_unique {w s s' : ι → ℤ} {n : ℕ} (h : Dealt w n s) (h' : Dealt w n s') : s = s' := by
  induction h generalizing s' with
  | none =>
    cases h'
    rfl
  | seat before next ih =>
    obtain ⟨t, d, hbefore, hnext, rfl⟩ := dealt_succ h'
    obtain rfl := ih hbefore
    rw [next_unique next hnext]

theorem dealt_mono {w s s' : ι → ℤ} {n m : ℕ} (h : Dealt w n s) (h' : Dealt w m s') (hnm : n ≤ m)
    (c : ι) : s c ≤ s' c := by
  induction h' generalizing s with
  | none =>
    obtain rfl : n = 0 := by omega
    cases h
    exact le_rfl
  | @seat k t d before next ih =>
    by_cases hlast : n = k + 1
    · subst hlast
      rw [dealt_unique h (before.seat next)]
    · exact (ih h (by omega)).trans (le_give t d c)

theorem dealt_nonneg {w s : ι → ℤ} {n : ℕ} (h : Dealt w n s) (c : ι) : 0 ≤ s c :=
  dealt_mono Dealt.none h (Nat.zero_le n) c

theorem dealt_le {w s : ι → ℤ} {n : ℕ} (hw : ∀ c, 0 ≤ w c) (h : Dealt w n s) (c : ι) :
    s c ≤ w c := by
  induction h with
  | none => exact hw c
  | @seat n s d before next ih =>
    by_cases hcd : c = d
    · subst hcd
      have hopen := next.1
      rw [give_self]
      omega
    · rwa [give_of_ne hcd]

/-! ## Finitely many claimants -/

section Finite

variable {w : ι → ℤ} {T : Finset ι}

theorem sum_give {s : ι → ℤ} {c : ι} (hc : c ∈ T) : ∑ d ∈ T, give s c d = ∑ d ∈ T, s d + 1 := by
  have hrest : ∑ d ∈ T.erase c, give s c d = ∑ d ∈ T.erase c, s d :=
    Finset.sum_congr rfl fun d hd => give_of_ne (Finset.ne_of_mem_erase hd)
  rw [← Finset.add_sum_erase T _ hc, ← Finset.add_sum_erase T s hc, hrest, give_self]
  omega

theorem next_mem {s : ι → ℤ} {c : ι} (hT : ∀ c ∉ T, w c = 0) (hs : 0 ≤ s c) (h : Next w s c) :
    c ∈ T := by
  by_contra hout
  have hzero := hT c hout
  have hopen := h.1
  omega

theorem dealt_sum (hT : ∀ c ∉ T, w c = 0) {s : ι → ℤ} {n : ℕ} (h : Dealt w n s) :
    ∑ c ∈ T, s c = n := by
  induction h with
  | none => simp
  | seat before next ih =>
    rw [sum_give (next_mem hT (dealt_nonneg before _) next), ih]
    push_cast
    rfl

theorem exists_next (hT : ∀ c ∉ T, w c = 0) {s : ι → ℤ} (hs : ∀ c, 0 ≤ s c)
    (h : ∃ c, s c < w c) : ∃ c, Next w s c := by
  obtain ⟨d, hd⟩ := h
  have hopen : ∀ c, s c < w c → c ∈ T.filter fun c => s c < w c := by
    intro c hc
    refine Finset.mem_filter.mpr ⟨?_, hc⟩
    by_contra hout
    have hzero := hT c hout
    have hnonneg := hs c
    omega
  -- the largest average first, then the least claimant
  obtain ⟨c, hc, hmax⟩ := Finset.exists_max_image (T.filter fun c => s c < w c)
    (fun c => toLex (average w s c, OrderDual.toDual c)) ⟨d, hopen d hd⟩
  refine ⟨c, (Finset.mem_filter.mp hc).2, ?_⟩
  intro e he
  rcases Prod.Lex.le_iff.mp (hmax e (hopen e he)) with hlt | ⟨heq, hle⟩
  · exact Or.inl hlt
  · exact Or.inr ⟨heq, OrderDual.toDual_le_toDual.mp hle⟩

theorem dealt_exists (hT : ∀ c ∉ T, w c = 0) (n : ℕ)
    (hn : (n : ℤ) ≤ ∑ c ∈ T, w c) : ∃ s, Dealt w n s := by
  induction n with
  | zero => exact ⟨_, Dealt.none⟩
  | succ n ih =>
    obtain ⟨s, hs⟩ := ih (by omega)
    have hsum := dealt_sum hT hs
    have hlt : ∑ c ∈ T, s c < ∑ c ∈ T, w c := by omega
    obtain ⟨d, -, hd⟩ := Finset.exists_lt_of_sum_lt hlt
    obtain ⟨c, hc⟩ := exists_next hT (dealt_nonneg hs) ⟨d, hd⟩
    exact ⟨_, hs.seat hc⟩

/-! ## Divisors -/

omit [LinearOrder ι] in
/-- What a divisor gives: as many seats as the weight holds it, up to the weight. -/
def quota (w : ι → ℤ) (h : ℚ) (c : ι) : ℤ := min (w c) ⌊(w c : ℚ) / h⌋

omit [LinearOrder ι] in
theorem quota_le (h : ℚ) (c : ι) : quota w h c ≤ w c := min_le_left _ _

omit [LinearOrder ι] in
theorem quota_nonneg {h : ℚ} (hh : 0 < h) {c : ι} (hw : 0 ≤ w c) : 0 ≤ quota w h c := by
  have hdiv : (0 : ℚ) ≤ w c / h := div_nonneg (by exact_mod_cast hw) hh.le
  exact le_min hw (Int.floor_nonneg.mpr hdiv)

omit [LinearOrder ι] in
theorem quota_of_zero (h : ℚ) {c : ι} (hw : w c = 0) : quota w h c = 0 := by
  unfold quota
  rw [hw]
  simp

omit [LinearOrder ι] in
theorem quota_one (w : ι → ℤ) : quota w 1 = w := by
  funext c
  unfold quota
  rw [div_one, Int.floor_intCast, min_self]

omit [LinearOrder ι] in
theorem lt_quota_iff {s : ι → ℤ} {h : ℚ} (hh : 0 < h) {c : ι} (hs : 0 ≤ s c) :
    s c < quota w h c ↔ s c < w c ∧ h ≤ average w s c := by
  have hseat : (0 : ℚ) < s c + 1 := by
    have hcast : (0 : ℚ) ≤ s c := by exact_mod_cast hs
    linarith
  have hfloor : s c < ⌊(w c : ℚ) / h⌋ ↔ h ≤ average w s c := by
    rw [← Int.add_one_le_iff, Int.le_floor]
    unfold average
    rw [le_div_iff₀ hh, le_div_iff₀ hseat]
    push_cast
    rw [mul_comm]
  unfold quota
  rw [lt_min_iff, hfloor]

theorem next_lt_quota {s : ι → ℤ} {h : ℚ} (hh : 0 < h) (hs : ∀ c, 0 ≤ s c)
    (hbelow : ∃ d, s d < quota w h d) {c : ι} (hc : Next w s c) : s c < quota w h c := by
  obtain ⟨d, hd⟩ := hbelow
  obtain ⟨hopen, hworth⟩ := (lt_quota_iff hh (hs d)).mp hd
  refine (lt_quota_iff hh (hs c)).mpr ⟨hc.1, ?_⟩
  rcases hc.2 d hopen with hlt | ⟨heq, -⟩
  · exact hworth.trans hlt.le
  · rwa [← heq]

theorem dealt_le_quota (hw : ∀ c, 0 ≤ w c) (hT : ∀ c ∉ T, w c = 0) {h : ℚ} (hh : 0 < h)
    {s : ι → ℤ} {n : ℕ} (hs : Dealt w n s) (hn : (n : ℤ) ≤ ∑ c ∈ T, quota w h c) (c : ι) :
    s c ≤ quota w h c := by
  induction hs with
  | none => exact quota_nonneg hh (hw c)
  | @seat n s d before next ih =>
    have hle := ih (by omega)
    by_cases hcd : c = d
    · subst hcd
      have hsum := dealt_sum hT before
      have hlt : ∑ e ∈ T, s e < ∑ e ∈ T, quota w h e := by omega
      obtain ⟨e, -, he⟩ := Finset.exists_lt_of_sum_lt hlt
      have hseat := next_lt_quota hh (dealt_nonneg before) ⟨e, he⟩ next
      rw [give_self]
      omega
    · rwa [give_of_ne hcd]

theorem dealt_divisor (hw : ∀ c, 0 ≤ w c) (hT : ∀ c ∉ T, w c = 0) {h : ℚ} (hh : 0 < h) {n : ℕ}
    (hn : (n : ℤ) = ∑ c ∈ T, quota w h c) : Dealt w n (quota w h) := by
  have hle : ∑ c ∈ T, quota w h c ≤ ∑ c ∈ T, w c := Finset.sum_le_sum fun c _ => quota_le h c
  obtain ⟨s, hs⟩ := dealt_exists hT n (by omega)
  have hbelow := dealt_le_quota hw hT hh hs hn.le
  have hsum := dealt_sum hT hs
  have heq : ∀ c ∈ T, s c = quota w h c :=
    (Finset.sum_eq_sum_iff_of_le fun c _ => hbelow c).mp (by omega)
  have hall : s = quota w h := by
    funext c
    by_cases hc : c ∈ T
    · exact heq c hc
    · have hlow := dealt_nonneg hs c
      have hhigh := dealt_le hw hs c
      have hquota := quota_nonneg hh (hw c)
      have hquota' := quota_le (w := w) h c
      have hzero := hT c hc
      omega
  rwa [← hall]

theorem dealt_all (hw : ∀ c, 0 ≤ w c) (hT : ∀ c ∉ T, w c = 0) {n : ℕ}
    (hn : (n : ℤ) = ∑ c ∈ T, w c) : Dealt w n w := by
  have h := dealt_divisor hw hT one_pos (n := n) (by rw [quota_one]; exact hn)
  rwa [quota_one] at h

end Finite

end Lib.HighestAverages
