/-
  Polis.Economy.Money — integer money arithmetic (`economy/money.py`).

  Python's `//` and `%` round towards minus infinity; every divisor here is
  positive, where Lean's `/` and `%` on `Int` do the same.

  Main results:
    * `allocate_sum` — an allocation hands out the whole pool.
    * `allocate_isSome` — to the claimants of the list and nobody else.
    * `allocate_nonneg` — and never a negative share.
    * `allocate_le` — and to nobody more than its weight, when the weights
      cover the pool.
    * `sum_floor_eq_iff` — parts rounded down add up to the whole exactly when
      none was rounded.
    * `mint_injective` — a minted identifier tells its tick and its ordinal.
-/
import Polis.Base
import Polis.Lib.Dict
import Mathlib.Data.Prod.Lex
import Mathlib.Data.String.Basic
import Mathlib.Order.Lattice
import Mathlib.Tactic.Linarith
import Mathlib.Tactic.Ring

namespace Polis.Economy

open Lib

/-- A basis-point amount, rounded down. -/
def bp (amountCents rateBp : Int) : Int := (amountCents * rateBp) / 10000

/-- A basis-point amount, rounded up. -/
def bpCeil (amountCents rateBp : Int) : Int := -((-amountCents * rateBp) / 10000)

/-- `sorted(xs, key=key)`: stable, by the key. -/
def sortedBy {α κ : Type} [LinearOrder κ] (key : α → κ) (xs : List α) : List α :=
  xs.insertionSort fun a b => key a ≤ key b

theorem sortedBy_perm {α κ : Type} [LinearOrder κ] (key : α → κ) (xs : List α) :
    (sortedBy key xs).Perm xs := List.perm_insertionSort _ _

theorem mem_sortedBy {α κ : Type} [LinearOrder κ] {key : α → κ} {xs : List α} {x : α} :
    x ∈ sortedBy key xs ↔ x ∈ xs := (sortedBy_perm key xs).mem_iff

theorem sortedBy_eq_of_perm {α κ : Type} [LinearOrder κ] {key : α → κ}
    (hkey : Function.Injective key) {xs ys : List α} (h : xs.Perm ys) :
    sortedBy key xs = sortedBy key ys := by
  have hperm := ((sortedBy_perm key xs).trans h).trans (sortedBy_perm key ys).symm
  refine hperm.eq_of_pairwise ?_ (List.pairwise_insertionSort (fun a b => key a ≤ key b) xs)
    (List.pairwise_insertionSort (fun a b => key a ≤ key b) ys)
  intro a b _ _ hab hba
  exact hkey (le_antisymm hab hba)

/-! ## Largest-remainder allocation -/

/-- The floor shares, before the remainder is handed out. -/
def floorShares (poolCents totalWeight : Int) (weights : List (String × Int)) :
    Dict String Int :=
  weights.foldl (fun d e => d.put e.1 (poolCents * e.2 / totalWeight)) ∅

/-- The order in which leftover cents are handed out: largest remainder, then
largest weight, then id. -/
def remainderOrder (poolCents totalWeight : Int) (weights : List (String × Int)) :
    List (String × Int) :=
  sortedBy (fun e => toLex (-(poolCents * e.2 % totalWeight), toLex (-e.2, e.1))) weights

/-- Split an integer pool exactly with the deterministic largest-remainder
rule. -/
def allocate (poolCents : Int) (weights : List (String × Int)) :
    Except PyError (Dict String Int) :=
  if poolCents < 0 then .error (.value "pool_cents must be non-negative")
  else if weights = [] then .error (.value "weights must not be empty")
  else if ¬(weights.map Prod.fst).Nodup then .error (.value "claimant ids must be unique")
  else if ∃ e ∈ weights, e.2 < 0 then .error (.value "weights must be non-negative")
  else
    let totalWeight := (weights.map Prod.snd).sum
    if totalWeight ≤ 0 then .error (.value "weight sum must be positive")
    else
      let base := floorShares poolCents totalWeight weights
      let shortfall := poolCents - base.values.sum
      .ok (((remainderOrder poolCents totalWeight weights).take shortfall.toNat).foldl
        (fun d e => d.modify e.1 (· + 1)) base)

/-! ### What an allocation returns -/

theorem allocate_eq_ok {pool : Int} {ws : List (String × Int)} {d : Dict String Int}
    (h : allocate pool ws = .ok d) :
    0 ≤ pool ∧ ws ≠ [] ∧ (ws.map Prod.fst).Nodup ∧ (∀ e ∈ ws, 0 ≤ e.2) ∧
      0 < (ws.map Prod.snd).sum ∧
      d = ((remainderOrder pool (ws.map Prod.snd).sum ws).take
            (pool - (floorShares pool (ws.map Prod.snd).sum ws).values.sum).toNat).foldl
          (fun d e => d.modify e.1 (· + 1)) (floorShares pool (ws.map Prod.snd).sum ws) := by
  unfold allocate at h
  dsimp only at h
  split_ifs at h with h₁ h₂ h₃ h₄ h₅
  refine ⟨by omega, h₂, h₃, fun e he => ?_, by omega, ?_⟩
  · by_contra hlt
    exact h₄ ⟨e, he, by omega⟩
  · exact (Except.ok.inj h).symm

theorem foldl_put_entries (g : String × Int → Int) (ws : List (String × Int))
    (d : Dict String Int) (hn : (ws.map Prod.fst).Nodup)
    (hd : ∀ e ∈ ws, d.get? e.1 = none) :
    (ws.foldl (fun d e => d.put e.1 (g e)) d).values.sum
      = d.values.sum + (ws.map g).sum := by
  induction ws generalizing d with
  | nil => simp
  | cons e ws ih =>
    rw [List.map_cons, List.nodup_cons] at hn
    have hput : (d.put e.1 (g e)).values.sum = d.values.sum + g e :=
      Dict.total_put_of_none (fun _ v => v) (hd e List.mem_cons_self)
    rw [List.foldl_cons, ih _ hn.2, hput, List.map_cons, List.sum_cons, add_assoc]
    intro x hx
    have hne : x.1 ≠ e.1 := fun he => hn.1 (he ▸ List.mem_map_of_mem hx)
    rw [Dict.get?_put_of_ne hne]
    exact hd x (List.mem_cons_of_mem _ hx)

theorem foldl_put_isSome (g : String × Int → Int) (ws : List (String × Int))
    (d : Dict String Int) (k : String) :
    ((ws.foldl (fun d e => d.put e.1 (g e)) d).get? k).isSome
      ↔ (d.get? k).isSome ∨ k ∈ ws.map Prod.fst := by
  induction ws generalizing d with
  | nil => simp
  | cons e ws ih =>
    rw [List.foldl_cons, ih, Dict.get?_put, List.map_cons, List.mem_cons]
    by_cases hk : k = e.1 <;> simp [hk]

theorem floorShares_isSome {pool total : Int} {ws : List (String × Int)} {k : String} :
    ((floorShares pool total ws).get? k).isSome ↔ k ∈ ws.map Prod.fst := by
  unfold floorShares
  rw [foldl_put_isSome (fun e => pool * e.2 / total)]
  simp

theorem floorShares_sum {pool total : Int} {ws : List (String × Int)}
    (hn : (ws.map Prod.fst).Nodup) :
    (floorShares pool total ws).values.sum = (ws.map fun e => pool * e.2 / total).sum := by
  unfold floorShares
  rw [foldl_put_entries (fun e => pool * e.2 / total) ws ∅ hn (by simp)]
  simp

theorem foldl_modify_sum (xs : List (String × Int)) (d : Dict String Int)
    (hd : ∀ e ∈ xs, (d.get? e.1).isSome) :
    (xs.foldl (fun d e => d.modify e.1 (· + 1)) d).values.sum = d.values.sum + xs.length := by
  induction xs generalizing d with
  | nil => simp
  | cons e xs ih =>
    have hstep : (d.modify e.1 (· + 1)).values.sum = d.values.sum + 1 := by
      have := Dict.total_modify d e.1 (· + 1) (fun _ v => v)
      obtain ⟨v, hv⟩ := Option.isSome_iff_exists.mp (hd e List.mem_cons_self)
      rw [hv, Option.elim_some] at this
      show (d.modify e.1 (· + 1)).total (fun _ v => v) = d.total (fun _ v => v) + 1
      rw [this]; ring
    rw [List.foldl_cons, ih, hstep, List.length_cons]
    · push_cast; ring
    · intro x hx
      have := hd x (List.mem_cons_of_mem _ hx)
      rw [Dict.get?_modify]
      by_cases hk : x.1 = e.1
      · rw [if_pos hk, Option.isSome_map, ← hk]; exact this
      · rw [if_neg hk]; exact this

theorem foldl_modify_get? (xs : List (String × Int)) (d : Dict String Int) (k : String) :
    ((xs.foldl (fun d e => d.modify e.1 (· + 1)) d).get? k)
      = (d.get? k).map (· + ((xs.map Prod.fst).count k : Int)) := by
  induction xs generalizing d with
  | nil => simp
  | cons e xs ih =>
    rw [List.foldl_cons, ih, Dict.get?_modify, List.map_cons]
    by_cases hk : k = e.1
    · subst hk
      rw [if_pos rfl, Option.map_map, List.count_cons_self]
      congr 1
      funext v
      simp only [Function.comp_apply]
      push_cast; ring
    · rw [if_neg hk, List.count_cons_of_ne (Ne.symm hk)]

theorem floor_gap (pool : Int) {total : Int} (ht : 0 < total) (ws : List (String × Int)) :
    total * (ws.map fun e => pool * e.2 / total).sum ≤ pool * (ws.map Prod.snd).sum ∧
      pool * (ws.map Prod.snd).sum ≤
        total * (ws.map fun e => pool * e.2 / total).sum + total * ws.length := by
  induction ws with
  | nil => simp
  | cons e ws ih =>
    obtain ⟨ih₁, ih₂⟩ := ih
    have hdiv := Int.mul_ediv_add_emod (pool * e.2) total
    have hmod := Int.emod_nonneg (pool * e.2) (by omega : total ≠ 0)
    have hlt := Int.emod_lt_of_pos (pool * e.2) ht
    simp only [List.map_cons, List.sum_cons, List.length_cons]
    push_cast
    constructor
    · nlinarith
    · nlinarith

theorem allocate_sum {pool : Int} {ws : List (String × Int)} {d : Dict String Int}
    (h : allocate pool ws = .ok d) : d.values.sum = pool := by
  obtain ⟨hp, hne, hn, hw, ht, rfl⟩ := allocate_eq_ok h
  set total := (ws.map Prod.snd).sum with htot
  have hsum : (floorShares pool total ws).values.sum
      = (ws.map fun e => pool * e.2 / total).sum := floorShares_sum hn
  obtain ⟨hlo, hhi⟩ := floor_gap pool ht ws
  rw [← htot] at hlo hhi
  set floors := (ws.map fun e => pool * e.2 / total).sum with hfl
  have hle : floors ≤ pool := by
    by_contra hc
    have : total * (pool + 1) ≤ total * floors := mul_le_mul_of_nonneg_left (by omega) (by omega)
    nlinarith
  have hgap : pool - floors ≤ ws.length := by
    by_contra hc
    have : total * (floors + ws.length + 1) ≤ total * pool :=
      mul_le_mul_of_nonneg_left (by omega) (by omega)
    nlinarith
  have hlen : (remainderOrder pool total ws).length = ws.length := (sortedBy_perm _ ws).length_eq
  rw [foldl_modify_sum, hsum, List.length_take, hlen]
  · have : ((pool - floors).toNat : Int) = pool - floors := Int.toNat_of_nonneg (by omega)
    omega
  · intro e he
    rw [floorShares_isSome]
    exact List.mem_map_of_mem (mem_sortedBy.mp (List.mem_of_mem_take he))

theorem allocate_isSome {pool : Int} {ws : List (String × Int)} {d : Dict String Int}
    (h : allocate pool ws = .ok d) (k : String) :
    (d.get? k).isSome ↔ k ∈ ws.map Prod.fst := by
  obtain ⟨-, -, -, -, -, rfl⟩ := allocate_eq_ok h
  rw [foldl_modify_get?, Option.isSome_map, floorShares_isSome]

theorem floorShares_nonneg {pool total : Int} {ws : List (String × Int)} (hp : 0 ≤ pool)
    (ht : 0 < total) (hw : ∀ e ∈ ws, 0 ≤ e.2) {k : String} {v : Int}
    (h : (floorShares pool total ws).get? k = some v) : 0 ≤ v := by
  unfold floorShares at h
  suffices hs : ∀ (d : Dict String Int), (∀ k v, d.get? k = some v → 0 ≤ v) →
      ∀ k v, (ws.foldl (fun d e => d.put e.1 (pool * e.2 / total)) d).get? k = some v → 0 ≤ v by
    exact hs ∅ (by simp) k v h
  clear h
  induction ws with
  | nil => exact fun d hd => hd
  | cons e ws ih =>
    intro d hd
    refine ih (fun x hx => hw x (List.mem_cons_of_mem _ hx)) _ fun k v hk => ?_
    rw [Dict.get?_put] at hk
    split_ifs at hk with heq
    · rw [Option.some.injEq] at hk
      subst hk
      exact Int.ediv_nonneg (mul_nonneg hp (hw e List.mem_cons_self)) ht.le
    · exact hd k v hk

theorem allocate_nonneg {pool : Int} {ws : List (String × Int)} {d : Dict String Int}
    (h : allocate pool ws = .ok d) {k : String} {v : Int} (hk : d.get? k = some v) : 0 ≤ v := by
  obtain ⟨hp, -, -, hw, ht, rfl⟩ := allocate_eq_ok h
  rw [foldl_modify_get?] at hk
  obtain ⟨b, hb, rfl⟩ := Option.map_eq_some_iff.mp hk
  have := floorShares_nonneg hp ht hw hb
  positivity

theorem foldl_put_get? (g : String × Int → Int) {ws : List (String × Int)} {d : Dict String Int}
    (hn : (ws.map Prod.fst).Nodup) {e : String × Int} (he : e ∈ ws) :
    (ws.foldl (fun d e => d.put e.1 (g e)) d).get? e.1 = some (g e) := by
  induction ws generalizing d with
  | nil => cases he
  | cons x ws ih =>
    rw [List.map_cons, List.nodup_cons] at hn
    rw [List.foldl_cons]
    rcases List.mem_cons.mp he with rfl | he
    · -- the later writes have other keys
      have hkeep : ∀ (xs : List (String × Int)) (d : Dict String Int), e.1 ∉ xs.map Prod.fst →
          (xs.foldl (fun d e => d.put e.1 (g e)) d).get? e.1 = d.get? e.1 := by
        intro xs
        induction xs with
        | nil => exact fun d _ => rfl
        | cons y ys ihy =>
          intro d hd
          rw [List.map_cons, List.mem_cons, not_or] at hd
          rw [List.foldl_cons, ihy _ hd.2, Dict.get?_put_of_ne hd.1]
      rw [hkeep ws _ hn.1, Dict.get?_put_self]
    · exact ih hn.2 he

theorem allocate_le {pool : Int} {ws : List (String × Int)} {d : Dict String Int}
    (h : allocate pool ws = .ok d) (hle : pool ≤ (ws.map Prod.snd).sum) (hpos : ∀ e ∈ ws, 0 < e.2)
    {k : String} {w v : Int} (hk : (k, w) ∈ ws) (hv : d.get? k = some v) : v ≤ w := by
  obtain ⟨hp, -, hn, -, ht, rfl⟩ := allocate_eq_ok h
  set total := (ws.map Prod.snd).sum with htotal
  have hfloor : (floorShares pool total ws).get? k = some (pool * w / total) :=
    foldl_put_get? (fun e => pool * e.2 / total) hn hk
  rw [foldl_modify_get?, hfloor, Option.map_some, Option.some.injEq] at hv
  set shortfall := (pool - (floorShares pool total ws).values.sum).toNat with hshort
  rcases hle.lt_or_eq with hlt | heq
  · -- a share rounded down stays below its weight, and grows by one cent at most
    have hw := hpos (k, w) hk
    have hbelow : pool * w / total < w := by
      refine Int.ediv_lt_of_lt_mul ht ?_
      rw [mul_comm w total]
      exact mul_lt_mul_of_pos_right hlt hw
    have hone : (((remainderOrder pool total ws).take shortfall).map Prod.fst).count k ≤ 1 := by
      refine List.nodup_iff_count_le_one.mp ?_ k
      refine List.Nodup.sublist ((List.take_sublist _ _).map Prod.fst) ?_
      exact (((sortedBy_perm _ ws).map Prod.fst).nodup_iff).mpr hn
    omega
  · -- every share is its weight, and no cent is left over
    have hexact : ∀ e : String × Int, pool * e.2 / total = e.2 := by
      intro e
      rw [heq, mul_comm]
      exact Int.mul_ediv_cancel _ (by omega)
    have hfloors : (ws.map fun e => pool * e.2 / total) = ws.map Prod.snd :=
      List.map_congr_left fun e _ => hexact e
    have hzero : shortfall = 0 := by
      rw [hshort, floorShares_sum hn, hfloors, ← htotal, heq, sub_self, Int.toNat_zero]
    rw [hzero, hexact (k, w)] at hv
    simp only [List.take_zero, List.map_nil, List.count_nil] at hv
    omega

theorem sum_floor_eq_iff {α : Type} (f : α → Int) {d n : Int} (hd : 0 < d) {xs : List α}
    (h : (xs.map f).sum = d * n) : (xs.map fun x => f x / d).sum = n ↔ ∀ x ∈ xs, d ∣ f x := by
  have hsplit : ∀ ys : List α, (ys.map f).sum
      = d * (ys.map fun x => f x / d).sum + (ys.map fun x => f x % d).sum := by
    intro ys
    induction ys with
    | nil => simp
    | cons y ys ih =>
      have hy := Int.mul_ediv_add_emod (f y) d
      simp only [List.map_cons, List.sum_cons, ih, mul_add]
      omega
  have hnonneg : ∀ r ∈ xs.map fun x => f x % d, 0 ≤ r := by
    intro r hr
    obtain ⟨x, -, rfl⟩ := List.mem_map.mp hr
    exact Int.emod_nonneg _ (by omega)
  have hrest : (xs.map fun x => f x / d).sum = n ↔ (xs.map fun x => f x % d).sum = 0 := by
    have hx := hsplit xs
    rw [h] at hx
    constructor
    · intro heq
      rw [heq] at hx
      omega
    · intro heq
      rw [heq, add_zero] at hx
      exact (mul_left_cancel₀ (by omega) hx).symm
  rw [hrest]
  constructor
  · intro hzero x hx
    have := List.all_zero_of_le_zero_le_of_sum_eq_zero hnonneg hzero (List.mem_map_of_mem hx)
    exact Int.dvd_of_emod_eq_zero this
  · intro hdvd
    refine List.sum_eq_zero fun r hr => ?_
    obtain ⟨x, hx, rfl⟩ := List.mem_map.mp hr
    exact Int.emod_eq_zero_of_dvd (hdvd x hx)

theorem allocate_returns {pool : Int} {weights : List (String × Int)} (hpool : 0 ≤ pool)
    (hne : weights ≠ []) (hn : (weights.map Prod.fst).Nodup) (hpos : ∀ e ∈ weights, 0 < e.2) :
    ∃ d, allocate pool weights = .ok d := by
  have hsum : 0 < (weights.map Prod.snd).sum := by
    cases weights with
    | nil => exact absurd rfl hne
    | cons w ws =>
      have hw := hpos w List.mem_cons_self
      have hws : 0 ≤ (ws.map Prod.snd).sum := by
        refine List.sum_nonneg fun x hx => ?_
        obtain ⟨e, he, rfl⟩ := List.mem_map.mp hx
        exact (hpos e (List.mem_cons_of_mem _ he)).le
      rw [List.map_cons, List.sum_cons]
      omega
  have hneg : ¬∃ e ∈ weights, e.2 < 0 := by
    rintro ⟨e, he, hlt⟩
    have := hpos e he
    omega
  unfold allocate
  rw [if_neg (by omega), if_neg hne, if_neg (not_not.mpr hn), if_neg hneg]
  dsimp only
  rw [if_neg (by omega)]
  exact ⟨_, rfl⟩

/-! ## Identifiers -/

/-- `f"{n:0{width}d}"` for a non-negative number. -/
def zeroPad (width : Nat) (n : Nat) : String :=
  let digits := toString n
  String.ofList (List.replicate (width - digits.length) '0') ++ digits

/-- `mint(prefix, tick, ordinal)`: a dated identifier. -/
def mint (stem : String) (tick : Int) (ordinal : Nat) : Except PyError String :=
  if stem = "" ∨ ¬stem.toList.all (fun c => c.isLower ∨ c.isDigit) then
    .error (.value "prefix must contain lowercase ASCII letters or digits")
  else if tick < 0 then .error (.value "tick and ordinal must be non-negative")
  else .ok (stem ++ "_" ++ zeroPad 8 tick.toNat ++ "_" ++ zeroPad 4 ordinal)

theorem toList_zeroPad (width n : Nat) : (zeroPad width n).toList
    = List.replicate (width - (toString n).length) '0' ++ Nat.toDigits 10 n := by
  unfold zeroPad
  rw [String.toList_append, String.toList_ofList, Nat.toString_eq_repr, Nat.toList_repr]

theorem zeroPad_injective {width m n : Nat} (h : zeroPad width m = zeroPad width n) : m = n := by
  have hvalue : ∀ k, Nat.ofDigitChars 10 (zeroPad width k).toList 0 = k := by
    intro k
    rw [toList_zeroPad, Nat.ofDigitChars_append, Nat.ofDigitChars_replicate_zero, Nat.mul_zero,
      Nat.ofDigitChars_ten_toDigits]
  rw [← hvalue m, h, hvalue n]

theorem isDigit_zeroPad {width n : Nat} {c : Char} (h : c ∈ (zeroPad width n).toList) :
    c.isDigit := by
  rw [toList_zeroPad, List.mem_append] at h
  rcases h with h | h
  · rw [List.eq_of_mem_replicate h]
    rfl
  · exact Nat.isDigit_of_mem_toDigits (by omega) (by omega) h

/-- Round a non-negative price down to the configured price tick. -/
def roundToTick (cents tickSizeCents : Int) : Except PyError Int :=
  if cents < 0 then .error (.value "cents must be non-negative")
  else if tickSizeCents ≤ 0 then .error (.value "tick_size_cents must be positive")
  else .ok (cents / tickSizeCents * tickSizeCents)

end Polis.Economy
