/-
  Polis.Economy.Shuffle — which draws decide a shuffle (`kernel/rng.py`).

  Main results:
    * `shuffle_eq_iff` — each order comes of one sequence of draws.
-/
import Polis.Economy.Sim

namespace Polis.Economy

variable {α : Type} (word word' : Nat → Nat) (n : Nat)

/-- The place that the turn of a counter swaps with the last one it may. -/
def targetAt (counter : Nat) : Nat := word counter % (n - 1 - counter + 1)

/-- One turn of a shuffle of `n` values. -/
def swapAt (xs : List α) (counter : Nat) : List α :=
  match xs[n - 1 - counter]?, xs[targetAt word n counter]? with
  | some a, some b => (xs.set (n - 1 - counter) b).set (targetAt word n counter) a
  | _, _ => xs

theorem targetAt_le (counter : Nat) : targetAt word n counter ≤ n - 1 - counter :=
  Nat.le_of_lt_succ (Nat.mod_lt _ (Nat.succ_pos _))

variable {word word' n}

theorem swapAt_last {xs : List α} (hn : xs.length = n) (hpos : 0 < n) (counter : Nat) :
    (swapAt word n xs counter)[n - 1 - counter]? = xs[targetAt word n counter]? := by
  have hle := targetAt_le word n counter
  have hlast := List.getElem?_eq_getElem (l := xs) (i := n - 1 - counter) (by omega)
  have htarget := List.getElem?_eq_getElem (l := xs) (i := targetAt word n counter) (by omega)
  unfold swapAt
  rw [hlast, htarget]
  by_cases heq : targetAt word n counter = n - 1 - counter
  · simp only [heq]
    rw [List.getElem?_set_self (by rw [List.length_set]; omega)]
  · show ((xs.set _ _).set _ _)[n - 1 - counter]? = _
    rw [List.getElem?_set_ne heq, List.getElem?_set_self (by omega)]

/-- What stands behind the places that are swapped stays. -/
theorem swaps_behind {p : Nat} (counters : List Nat) (xs : List α)
    (hp : ∀ c ∈ counters, n - 1 - c < p) :
    (counters.foldl (swapAt word n) xs)[p]? = xs[p]? := by
  induction counters generalizing xs with
  | nil => rfl
  | cons c counters ih =>
    rw [List.foldl_cons, ih _ fun c' hc' => hp c' (List.mem_cons_of_mem _ hc')]
    have hindex := hp c List.mem_cons_self
    have hle := targetAt_le word n c
    unfold swapAt
    split
    · rw [List.getElem?_set_ne (by omega), List.getElem?_set_ne (by omega)]
    · rfl

theorem swaps_eq_iff (len first : Nat) (hfirst : first + len = n - 1) {xs : List α}
    (hxs : xs.Nodup) (hn : xs.length = n) :
    (List.range' first len).foldl (swapAt word n) xs
        = (List.range' first len).foldl (swapAt word' n) xs ↔
      ∀ c ∈ List.range' first len, targetAt word n c = targetAt word' n c := by
  induction len generalizing first xs with
  | zero => simp
  | succ len ih =>
    simp only [List.range'_succ, List.foldl_cons, List.forall_mem_cons]
    have hperm : (swapAt word n xs first).Perm xs := swap_perm xs _ _
    have hrest := ih (first + 1) (by omega) (hperm.nodup_iff.mpr hxs) (hperm.length_eq.trans hn)
    have hturn : targetAt word n first = targetAt word' n first →
        swapAt word n xs first = swapAt word' n xs first := fun h => by unfold swapAt; rw [h]
    -- the place of this turn is not written again
    have hlater : ∀ c ∈ List.range' (first + 1) len, n - 1 - c < n - 1 - first := by
      intro c hc
      have := List.mem_range'_1.mp hc
      omega
    constructor
    · intro heq
      have hplace := congrArg (fun ys => ys[n - 1 - first]?) heq
      simp only [swaps_behind _ _ hlater, swapAt_last hn (by omega)] at hplace
      have hle := targetAt_le word n first
      have hsame := (List.getElem?_inj (by omega) hxs).mp hplace
      rw [← hturn hsame] at heq
      exact ⟨hsame, hrest.mp heq⟩
    · rintro ⟨hsame, hall⟩
      rw [← hturn hsame]
      exact hrest.mpr hall

/-- **Each order comes of one sequence of draws**: two shuffles of distinct
values agree exactly when every turn of them swaps with the same place. -/
theorem shuffle_eq_iff (word word' : Nat → Nat) (values : List α) (hdistinct : values.Nodup) :
    shuffle word values = shuffle word' values ↔
      ∀ c < values.length - 1, word c % (values.length - c) = word' c % (values.length - c) := by
  have hswaps := @swaps_eq_iff _ word word' _ (values.length - 1) 0
    (Nat.zero_add _) _ hdistinct rfl
  rw [← List.range_eq_range'] at hswaps
  have hlength : ∀ c < values.length - 1, values.length - 1 - c + 1 = values.length - c := by omega
  refine hswaps.trans (forall_congr' fun c => ?_)
  rw [List.mem_range]
  refine imp_congr_right fun hc => ?_
  unfold targetAt
  rw [hlength c hc]

theorem shuffle_eq_iff_three :
    shuffle (fun c => c) [1, 2, 3] = shuffle (fun c => c + 6) [1, 2, 3] ↔
      ∀ c < 2, c % (3 - c) = (c + 6) % (3 - c) :=
  shuffle_eq_iff _ _ [1, 2, 3] (by decide)

end Polis.Economy
