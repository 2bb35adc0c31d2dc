/-
  Polis.Economy.Apportion — the largest-remainder rule (`economy/money.py`).

  Everyone is given the share rounded down, and the cents left over go to
  those whose share lost most in the rounding.

  Main results:
    * `allocate_share` — a share is rounded down, plus a cent for those at the
      head of the order of remainders.
    * `shortfall_remainders` — the cents left over are what the remainders
      make up.
    * `allocate_perm` — the order in which claimants are listed is forgotten.
    * `allocate_apportions` — the pool is handed out, to nobody a cent too
      much or too little, and never less to the heavier.
-/
import Polis.Economy.Money
import Polis.Lib.LargestRemainder
import Mathlib.Algebra.BigOperators.Ring.List

namespace Polis.Economy

open Lib

/-- The remainder a claimant's share loses in the rounding. -/
def remainderOf (pool total : Int) (e : String × Int) : Int := pool * e.2 % total

/-- The key of the order in which the cents left over are handed out. -/
def remainderKey (pool total : Int) (e : String × Int) : Int ×ₗ (Int ×ₗ String) :=
  toLex (-remainderOf pool total e, toLex (-e.2, e.1))

/-- The cents that rounding down leaves over. -/
def shortfall (pool : Int) (ws : List (String × Int)) : Nat :=
  (pool - (floorShares pool (ws.map Prod.snd).sum ws).values.sum).toNat

/-- The claimants handed one more cent. -/
def served (pool : Int) (ws : List (String × Int)) : List (String × Int) :=
  (remainderOrder pool (ws.map Prod.snd).sum ws).take (shortfall pool ws)

theorem mem_of_served {pool : Int} {ws : List (String × Int)} {e : String × Int}
    (h : e ∈ served pool ws) : e ∈ ws := mem_sortedBy.mp (List.mem_of_mem_take h)

theorem allocate_share {pool : Int} {ws : List (String × Int)} {d : Dict String Int}
    (h : allocate pool ws = .ok d) {e : String × Int} (he : e ∈ ws) :
    d.get? e.1 = some (pool * e.2 / (ws.map Prod.snd).sum + if e ∈ served pool ws then 1 else 0) := by
  obtain ⟨_, _, hn, _, _, hd⟩ := allocate_eq_ok h
  have hkeys : ((served pool ws).map Prod.fst).Nodup := by
    refine List.Nodup.sublist ((List.take_sublist _ _).map Prod.fst) ?_
    exact (((sortedBy_perm _ ws).map Prod.fst).nodup_iff).mpr hn
  have hcount : ((served pool ws).map Prod.fst).count e.1 = if e ∈ served pool ws then 1 else 0 := by
    split_ifs with hin
    · exact List.count_eq_one_of_mem hkeys (List.mem_map_of_mem hin)
    · refine List.count_eq_zero.mpr fun hmem => hin ?_
      -- two claimants of one id are the same row
      obtain ⟨x, hx, hid⟩ := List.mem_map.mp hmem
      have hsame := List.inj_on_of_nodup_map hn (mem_of_served hx) he hid
      rwa [← hsame]
  have hfloor : (floorShares pool (ws.map Prod.snd).sum ws).get? e.1
      = some (pool * e.2 / (ws.map Prod.snd).sum) :=
    foldl_put_get? (fun e => pool * e.2 / (ws.map Prod.snd).sum) hn he
  have hmade : d = (served pool ws).foldl (fun d e => Dict.modify d e.1 (· + 1))
      (floorShares pool (ws.map Prod.snd).sum ws) := hd
  rw [hmade, foldl_modify_get?, hfloor, hcount]
  split_ifs
  · rfl
  · rfl

theorem remainder_range {pool total : Int} (ht : 0 < total) (e : String × Int) :
    0 ≤ remainderOf pool total e ∧ remainderOf pool total e < total :=
  ⟨Int.emod_nonneg _ (by omega), Int.emod_lt_of_pos _ ht⟩

theorem shortfall_remainders {pool : Int} {ws : List (String × Int)}
    (hn : (ws.map Prod.fst).Nodup) (ht : 0 < (ws.map Prod.snd).sum) :
    ((remainderOrder pool (ws.map Prod.snd).sum ws).map
        (remainderOf pool (ws.map Prod.snd).sum)).sum
      = (ws.map Prod.snd).sum * (shortfall pool ws : Int) := by
  set total := (ws.map Prod.snd).sum with htotal
  have hperm : ((remainderOrder pool total ws).map (remainderOf pool total)).sum
      = (ws.map (remainderOf pool total)).sum := ((sortedBy_perm _ ws).map _).sum_eq
  have hrest := Lib.LargestRemainder.sum_emod (fun e : String × Int => pool * e.2) total ws
  have hpool : (ws.map fun e => pool * e.2).sum = pool * total := by
    rw [htotal, List.sum_map_mul_left]
  have hnonneg : 0 ≤ (ws.map (remainderOf pool total)).sum := by
    refine List.sum_nonneg fun r hr => ?_
    obtain ⟨e, _, rfl⟩ := List.mem_map.mp hr
    exact (remainder_range ht e).1
  have hleft : (ws.map (remainderOf pool total)).sum
      = total * (pool - (floorShares pool total ws).values.sum) := by
    rw [floorShares_sum hn, mul_sub, mul_comm total pool, ← hpool]
    exact hrest
  have hover : 0 ≤ pool - (floorShares pool total ws).values.sum := by
    rw [hleft] at hnonneg
    exact nonneg_of_mul_nonneg_right hnonneg ht
  rw [hperm, hleft]
  show _ = total * ((pool - (floorShares pool total ws).values.sum).toNat : Int)
  rw [Int.toNat_of_nonneg hover]

theorem remainderOrder_sorted (pool total : Int) (ws : List (String × Int)) :
    (remainderOrder pool total ws).Pairwise
      fun a b => remainderKey pool total a ≤ remainderKey pool total b :=
  List.pairwise_insertionSort (fun a b => remainderKey pool total a ≤ remainderKey pool total b) ws

theorem remainder_pos_of_served {pool : Int} {ws : List (String × Int)}
    (hn : (ws.map Prod.fst).Nodup) (ht : 0 < (ws.map Prod.snd).sum) {e : String × Int}
    (h : e ∈ served pool ws) : 0 < remainderOf pool (ws.map Prod.snd).sum e := by
  refine Lib.LargestRemainder.remainder_pos_of_taken ht (fun x _ => remainder_range ht x) ?_
    (shortfall_remainders hn ht) h
  refine (remainderOrder_sorted pool _ ws).imp fun {a b} hab => ?_
  have hfst := Prod.Lex.monotone_fst _ _ hab
  have hneg : -remainderOf pool (ws.map Prod.snd).sum a ≤ -remainderOf pool (ws.map Prod.snd).sum b :=
    hfst
  omega

theorem served_of_lt {pool : Int} {ws : List (String × Int)} {e e' : String × Int}
    (h : e ∈ served pool ws) (he' : e' ∈ ws)
    (hlt : remainderKey pool (ws.map Prod.snd).sum e' < remainderKey pool (ws.map Prod.snd).sum e) :
    e' ∈ served pool ws :=
  Lib.LargestRemainder.mem_take_of_lt (remainderOrder_sorted pool _ ws) h (mem_sortedBy.mpr he') hlt

/-- `e` is the heavier claimant, or of the same weight with the smaller id. -/
def Outweighs (e e' : String × Int) : Prop := e'.2 < e.2 ∨ (e'.2 = e.2 ∧ e.1 < e'.1)

theorem key_lt_of_outweighs {pool total : Int} {e e' : String × Int} (h : Outweighs e e')
    (hrem : remainderOf pool total e' ≤ remainderOf pool total e) :
    remainderKey pool total e < remainderKey pool total e' := by
  unfold remainderKey
  rw [Prod.Lex.toLex_lt_toLex]
  rcases hrem.lt_or_eq with hlt | heq
  · exact .inl (by simpa using hlt)
  · refine .inr ⟨by simp [heq], ?_⟩
    show toLex (-e.2, e.1) < toLex (-e'.2, e'.1)
    rw [Prod.Lex.toLex_lt_toLex]
    rcases h with hw | ⟨hw, hid⟩
    · exact .inl (by simpa using hw)
    · exact .inr ⟨by simp [hw], hid⟩

/-- The claimants' shares of a pool: all of it, each within a cent of its
exact part. -/
structure Apportions (pool : Int) (ws : List (String × Int)) (d : Dict String Int) : Prop where
  whole : d.values.sum = pool
  claimants : ∀ k, (d.get? k).isSome ↔ k ∈ ws.map Prod.fst
  nonneg : ∀ k w v, (k, w) ∈ ws → d.get? k = some v → 0 ≤ v
  within : ∀ k w v, (k, w) ∈ ws → d.get? k = some v →
    (v - 1) * (ws.map Prod.snd).sum < pool * w ∧ pool * w < (v + 1) * (ws.map Prod.snd).sum
  weightless : ∀ k v, (k, 0) ∈ ws → d.get? k = some v → v = 0
  bounded : pool ≤ (ws.map Prod.snd).sum → ∀ k w v, (k, w) ∈ ws → d.get? k = some v → v ≤ w
  monotone : ∀ k w v k' w' v', (k, w) ∈ ws → d.get? k = some v → (k', w') ∈ ws →
    d.get? k' = some v' → Outweighs (k, w) (k', w') → v' ≤ v

theorem share_within {pool : Int} {ws : List (String × Int)} {d : Dict String Int}
    (h : allocate pool ws = .ok d) {e : String × Int} (he : e ∈ ws) {v : Int}
    (hv : d.get? e.1 = some v) :
    (v - 1) * (ws.map Prod.snd).sum < pool * e.2 ∧ pool * e.2 < (v + 1) * (ws.map Prod.snd).sum := by
  obtain ⟨_, _, hn, _, ht, _⟩ := allocate_eq_ok h
  set total := (ws.map Prod.snd).sum with htotal
  rw [allocate_share h he, Option.some.injEq] at hv
  have hdiv := Int.mul_ediv_add_emod (pool * e.2) total
  have hrange : 0 ≤ remainderOf pool total e ∧ remainderOf pool total e < total :=
    remainder_range ht e
  obtain ⟨hlo, hhi⟩ := hrange
  have hrem : remainderOf pool total e = pool * e.2 % total := rfl
  split_ifs at hv with hin
  · have hpos := remainder_pos_of_served hn ht hin
    rw [← hv]
    constructor
    · linarith
    · linarith
  · rw [← hv]
    constructor
    · linarith
    · linarith

theorem share_monotone {pool : Int} {ws : List (String × Int)} {d : Dict String Int}
    (h : allocate pool ws = .ok d) {e e' : String × Int} (he : e ∈ ws) (he' : e' ∈ ws)
    {v v' : Int} (hv : d.get? e.1 = some v) (hv' : d.get? e'.1 = some v') (hle : Outweighs e e') :
    v' ≤ v := by
  obtain ⟨hp, _, hn, _, ht, _⟩ := allocate_eq_ok h
  rw [allocate_share h he, Option.some.injEq] at hv
  rw [allocate_share h he', Option.some.injEq] at hv'
  have hweight : e'.2 ≤ e.2 := by
    rcases hle with hlt | ⟨heq, _⟩
    · exact hlt.le
    · exact heq.le
  have hexact : pool * e'.2 ≤ pool * e.2 := mul_le_mul_of_nonneg_left hweight hp
  have hfloor := Int.ediv_le_ediv ht hexact
  by_cases hsame : pool * e'.2 / (ws.map Prod.snd).sum = pool * e.2 / (ws.map Prod.snd).sum
  · -- with equal floors, the heavier has the larger remainder and is served first
    have hdiv := Int.mul_ediv_add_emod (pool * e.2) (ws.map Prod.snd).sum
    have hdiv' := Int.mul_ediv_add_emod (pool * e'.2) (ws.map Prod.snd).sum
    rw [hsame] at hdiv'
    have hrem : remainderOf pool (ws.map Prod.snd).sum e' ≤ remainderOf pool (ws.map Prod.snd).sum e := by
      show pool * e'.2 % _ ≤ pool * e.2 % _
      omega
    by_cases hin' : e' ∈ served pool ws
    · have hin := served_of_lt hin' he (key_lt_of_outweighs hle hrem)
      rw [if_pos hin] at hv
      rw [if_pos hin'] at hv'
      omega
    · rw [if_neg hin'] at hv'
      split_ifs at hv <;> omega
  · split_ifs at hv hv' <;> omega

theorem apportions_of_ok {pool : Int} {ws : List (String × Int)} {d : Dict String Int}
    (h : allocate pool ws = .ok d) : Apportions pool ws d := by
  obtain ⟨_, _, _, _, ht, _⟩ := allocate_eq_ok h
  refine ⟨allocate_sum h, allocate_isSome h, fun _ _ _ _ hv => allocate_nonneg h hv,
    fun k w v he hv => share_within h he hv, fun k v he hv => ?_, fun hle k w v he hv => ?_,
    fun k w v k' w' v' he hv he' hv' hout => share_monotone h he he' hv hv' hout⟩
  · have hnonneg := allocate_nonneg h hv
    have hlt := (share_within h he hv).1
    rw [mul_zero] at hlt
    have hone : v - 1 < 0 := neg_of_mul_neg_left hlt ht.le
    omega
  · have hlt := (share_within h he hv).1
    have hw : 0 ≤ w := (allocate_eq_ok h).2.2.2.1 (k, w) he
    have hcap : pool * w ≤ w * (ws.map Prod.snd).sum := by
      rw [mul_comm w]
      exact mul_le_mul_of_nonneg_right hle hw
    have hone : v - 1 < w := lt_of_mul_lt_mul_right (hlt.trans_le hcap) ht.le
    omega

/-! ## The order of the list -/

theorem remainderKey_injective (pool total : Int) : Function.Injective (remainderKey pool total) := by
  rintro ⟨k, w⟩ ⟨k', w'⟩ h
  have hsnd : toLex (-w, k) = toLex (-w', k') := congrArg (fun p => (ofLex p).2) h
  have hpair := toLex.injective hsnd
  simp only [Prod.mk.injEq, neg_inj] at hpair
  rw [hpair.1, hpair.2]

theorem allocate_ok {pool : Int} {ws : List (String × Int)} (hpool : 0 ≤ pool) (hne : ws ≠ [])
    (hn : (ws.map Prod.fst).Nodup) (hw : ∀ e ∈ ws, 0 ≤ e.2) (ht : 0 < (ws.map Prod.snd).sum) :
    ∃ d, allocate pool ws = .ok d := by
  have hneg : ¬∃ e ∈ ws, e.2 < 0 := by
    rintro ⟨e, he, hlt⟩
    have := hw e he
    omega
  unfold allocate
  rw [if_neg (by omega), if_neg hne, if_neg (not_not.mpr hn), if_neg hneg]
  dsimp only
  rw [if_neg (by omega)]
  exact ⟨_, rfl⟩

theorem allocate_perm {pool : Int} {ws ws' : List (String × Int)} {d : Dict String Int}
    (h : allocate pool ws = .ok d) (hperm : ws.Perm ws') :
    ∃ d', allocate pool ws' = .ok d' ∧ ∀ k, d'.get? k = d.get? k := by
  obtain ⟨hp, hne, hn, hw, ht, _⟩ := allocate_eq_ok h
  have htotal : (ws.map Prod.snd).sum = (ws'.map Prod.snd).sum := (hperm.map Prod.snd).sum_eq
  have hn' : (ws'.map Prod.fst).Nodup := ((hperm.map Prod.fst).nodup_iff).mp hn
  have hne' : ws' ≠ [] := by
    rintro rfl
    exact hne hperm.eq_nil
  obtain ⟨d', h'⟩ := allocate_ok hp hne' hn' (fun e he => hw e (hperm.mem_iff.mpr he)) (htotal ▸ ht)
  -- the same cents are left over, and handed out in the same order
  have hfloors : (floorShares pool (ws.map Prod.snd).sum ws).values.sum
      = (floorShares pool (ws'.map Prod.snd).sum ws').values.sum := by
    rw [floorShares_sum hn, floorShares_sum hn', htotal]
    exact (hperm.map _).sum_eq
  have horder : remainderOrder pool (ws.map Prod.snd).sum ws
      = remainderOrder pool (ws'.map Prod.snd).sum ws' := by
    rw [htotal]
    exact sortedBy_eq_of_perm (remainderKey_injective pool _) hperm
  have hserved : served pool ws = served pool ws' := by
    unfold served shortfall
    rw [horder, hfloors]
  refine ⟨d', h', fun k => ?_⟩
  by_cases hk : k ∈ ws.map Prod.fst
  · obtain ⟨e, he, rfl⟩ := List.mem_map.mp hk
    rw [allocate_share h he, allocate_share h' (hperm.mem_iff.mp he), hserved, htotal]
  · have hk' : k ∉ ws'.map Prod.fst := fun hin => hk ((hperm.map Prod.fst).mem_iff.mpr hin)
    have hnone : d.get? k = none := by
      rw [← Option.not_isSome_iff_eq_none, allocate_isSome h]
      exact hk
    have hnone' : d'.get? k = none := by
      rw [← Option.not_isSome_iff_eq_none, allocate_isSome h']
      exact hk'
    rw [hnone, hnone']

/-- **The largest-remainder rule**: an allocation is made, hands out the pool,
is within a cent of the exact parts, and forgets the order of the list. -/
theorem allocate_apportions (pool : Int) (ws : List (String × Int)) (hpool : 0 ≤ pool)
    (hne : ws ≠ []) (hn : (ws.map Prod.fst).Nodup) (hw : ∀ e ∈ ws, 0 ≤ e.2)
    (ht : 0 < (ws.map Prod.snd).sum) :
    ∃ d, allocate pool ws = .ok d ∧ Apportions pool ws d ∧
      ∀ ws', ws.Perm ws' → ∃ d', allocate pool ws' = .ok d' ∧ ∀ k, d'.get? k = d.get? k := by
  obtain ⟨d, h⟩ := allocate_ok hpool hne hn hw ht
  exact ⟨d, h, apportions_of_ok h, fun ws' hperm => allocate_perm h hperm⟩

theorem two_cents_apportioned :
    ∃ d, allocate 2 [("a", 1), ("b", 2), ("c", 0)] = .ok d ∧
      Apportions 2 [("a", 1), ("b", 2), ("c", 0)] d ∧
      ∀ ws', List.Perm [("a", 1), ("b", 2), ("c", 0)] ws' →
        ∃ d', allocate 2 ws' = .ok d' ∧ ∀ k, d'.get? k = d.get? k :=
  allocate_apportions 2 [("a", 1), ("b", 2), ("c", 0)] (by decide) (by decide) (by decide)
    (by decide) (by decide)

end Polis.Economy
