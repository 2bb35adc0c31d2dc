/-
  Polis.Economy.Bankruptcy.ProRata — `_monotone_pro_rata`
  (`economy/ventures.py`).

  A cutoff divisor is searched for by bisection; what it leaves of the pool is
  handed out cent by cent.  Decimals appear as the rationals they denote.

  Main results:
    * `search_spec` — the divisor found is positive and gives out less than
      the pool.
    * `resolveTies_deals` — the loop after it deals seat by seat.
    * `proRata_deals` — the whole function does.
    * `pro_rata_seat_by_seat` — it returns what seat by seat dealing comes to.
-/
import Polis.Base
import Polis.Lib.Dict
import Polis.Lib.Effect
import Polis.Lib.HighestAverages
import Mathlib.Data.List.MinMax
import Mathlib.Data.String.Basic

namespace Polis.Economy.Bankruptcy

open Lib Lib.Effect Lib.HighestAverages

/-! ## The function -/

/-- `int(x)`: towards zero. -/
def towardZero (x : ℚ) : Int := if 0 ≤ x then ⌊x⌋ else ⌈x⌉

/-- `Decimal(weight) / divisor`. -/
def divide (weight : Int) (divisor : ℚ) : Except PyError ℚ :=
  if divisor = 0 then .error .zeroDivision else .ok (weight / divisor)

/-- `min(weight, int(Decimal(weight) / divisor))`, claim by claim. -/
def seatsAt (weights : Dict String Int) (divisor : ℚ) : Except PyError (List (String × Int)) :=
  weights.entries.mapM fun e => do
    let quotient ← divide e.2 divisor
    pure (e.1, min e.2 (towardZero quotient))

/-- The bisection: its last upper bound. -/
def search (weights : Dict String Int) (poolCents : Int) : ℕ → ℚ → ℚ → Except PyError ℚ
  | 0, _, high => .ok high
  | n + 1, low, high =>
    let midpoint := (low + high) / 2
    if midpoint = low ∨ midpoint = high then .ok high
    else do
      let rows ← seatsAt weights midpoint
      let seats := (rows.map Prod.snd).sum
      if poolCents ≤ seats then search weights poolCents n midpoint high
      else search weights poolCents n low midpoint

/-- `precision`. -/
def precision (maxWeight : Int) : ℕ := max 80 ((toString maxWeight).length * 3 + 32)

/-- The claims that are not paid in full. -/
def candidates (weights payments : Dict String Int) : List (String × Int) :=
  weights.entries.filter fun e => payments.getD e.1 0 < e.2

/-- The order of the candidates: the largest average first, then the claim id. -/
def candidateKey (payments : Dict String Int) (e : String × Int) : ℚ ×ₗ String :=
  toLex (-((e.2 : ℚ) / ((payments.getD e.1 0 : Int) + 1)), e.1)

/-- `while remaining`. -/
def resolveTies (weights : Dict String Int) : ℕ → Dict String Int → Except PyError (Dict String Int)
  | 0, payments => .ok payments
  | remaining + 1, payments =>
    match (candidates weights payments).argmin (candidateKey payments) with
    | none => .error (.runtime "pro-rata allocation exhausted all claims")
    | some e => resolveTies weights remaining (payments.modify e.1 (· + 1))

/-- Use capped highest averages so a larger pool never reduces a recovery. -/
def monotoneProRata (poolCents : Int) (weightedClaims : List (String × Int)) :
    Except PyError (Dict String Int) :=
  let weights := Dict.ofList weightedClaims
  if weights.entries.length ≠ weightedClaims.length then
    .error (.value "pro-rata allocation ids must be unique")
  else if poolCents < 0 ∨ ∃ weight ∈ weights.values, weight < 0 then
    .error (.value "pro-rata values cannot be negative")
  else
    let totalWeight := weights.values.sum
    if totalWeight < poolCents then .error (.value "pro-rata pool cannot exceed total claims")
    else if poolCents = 0 then .ok (weights.mapValues fun _ _ => 0).sort
    else if poolCents = totalWeight then .ok weights.sort
    else do
      let maxWeight := weights.values.max?.getD 0
      let high ← search weights poolCents (precision maxWeight * 4) 0 (maxWeight + 1)
      let payments ← seatsAt weights high
      let remaining := poolCents - (payments.map Prod.snd).sum
      if remaining < 0 then
        .error (.runtime "pro-rata divisor search over-allocated the pool")
      else do
        let resolved ← resolveTies weights remaining.toNat (Dict.ofList payments)
        .ok resolved.sort

/-! ## Weights -/

/-- What a claim id weighs. -/
def weightOf (weights : Dict String Int) : String → Int := fun id => weights.getD id 0

/-- What a claim id holds. -/
abbrev held (payments : Dict String Int) : String → Int := fun id => payments.getD id 0

/-- Weights a pro-rata allocation takes. -/
def NonNegative (weights : Dict String Int) : Prop := ∀ weight ∈ weights.values, 0 ≤ weight

theorem weightOf_nonneg {weights : Dict String Int} (h : NonNegative weights) (id : String) :
    0 ≤ weightOf weights id := by
  show 0 ≤ (weights.get? id).getD 0
  cases hget : weights.get? id with
  | none => exact le_rfl
  | some weight => exact h weight (Dict.mem_values_of_get? hget)

theorem getD_of_notMem {d : Dict String Int} {id : String} (h : id ∉ d.keys.toFinset) :
    d.getD id 0 = 0 := by
  show (d.get? id).getD 0 = 0
  cases hget : d.get? id with
  | none => rfl
  | some v =>
    have hrow := Dict.mem_entries_iff.mpr hget
    exact absurd (List.mem_toFinset.mpr (List.mem_map_of_mem hrow)) h

theorem getD_of_mem {d : Dict String Int} {e : String × Int} (h : e ∈ d.entries) :
    d.getD e.1 0 = e.2 := by
  show (d.get? e.1).getD 0 = e.2
  rw [Dict.mem_entries_iff.mp h]
  rfl

theorem sum_getD (d : Dict String Int) : ∑ id ∈ d.keys.toFinset, d.getD id 0 = d.values.sum := by
  have hrows : d.keys.map (fun id => d.getD id 0) = d.values := by
    show (d.entries.map Prod.fst).map _ = d.entries.map Prod.snd
    rw [List.map_map]
    exact List.map_congr_left fun e he => getD_of_mem he
  rw [← hrows]
  exact List.sum_toFinset _ d.nodup

theorem getD_sort (d : Dict String Int) (id : String) : d.sort.getD id 0 = d.getD id 0 := by
  unfold Dict.getD
  rw [Dict.sort_get?]

/-! ## What a divisor gives -/

theorem towardZero_of_nonneg {x : ℚ} (h : 0 ≤ x) : towardZero x = ⌊x⌋ := if_pos h

theorem seatsAt_ok {weights : Dict String Int} (hw : NonNegative weights) {divisor : ℚ}
    (hd : 0 < divisor) :
    seatsAt weights divisor
      = .ok (weights.mapValues fun id _ => quota (weightOf weights) divisor id).entries := by
  have hrow : ∀ e ∈ weights.entries, (do
      let quotient ← divide e.2 divisor
      pure (e.1, min e.2 (towardZero quotient)) : Except PyError (String × Int))
      = .ok (e.1, quota (weightOf weights) divisor e.1) := by
    intro e he
    have hweight : weightOf weights e.1 = e.2 := getD_of_mem he
    have hnonneg : (0 : ℚ) ≤ e.2 / divisor := by
      have hcast : (0 : ℚ) ≤ e.2 := by exact_mod_cast hw e.2 (List.mem_map_of_mem he)
      exact div_nonneg hcast hd.le
    unfold divide quota
    rw [if_neg hd.ne', hweight]
    show Except.ok (e.1, min e.2 (towardZero (e.2 / divisor))) = _
    rw [towardZero_of_nonneg hnonneg]
  unfold seatsAt
  show _ = Except.ok (weights.entries.map fun e => (e.1, quota (weightOf weights) divisor e.1))
  generalize weights.entries = rows at hrow ⊢
  induction rows with
  | nil => rfl
  | cons e rows ih =>
    rw [List.mapM_cons, hrow e List.mem_cons_self,
      ih fun e' he' => hrow e' (List.mem_cons_of_mem _ he')]
    rfl

theorem seatsAt_sum (weights : Dict String Int) (divisor : ℚ) :
    ((weights.mapValues fun id _ => quota (weightOf weights) divisor id).entries.map Prod.snd).sum
      = ∑ id ∈ weights.keys.toFinset, quota (weightOf weights) divisor id := by
  have hsum := List.sum_toFinset (quota (weightOf weights) divisor) weights.nodup
  show ((weights.entries.map fun e => (e.1, quota (weightOf weights) divisor e.1)).map Prod.snd).sum
    = ∑ id ∈ (weights.entries.map Prod.fst).toFinset, _
  rw [hsum, List.map_map, List.map_map]
  rfl

/-! ## The bisection -/

/-- A divisor that gives out less than the pool. -/
structure Short (weights : Dict String Int) (poolCents : Int) (divisor : ℚ) : Prop where
  pos : 0 < divisor
  short : ∑ id ∈ weights.keys.toFinset, quota (weightOf weights) divisor id < poolCents

theorem search_spec {weights : Dict String Int} (hw : NonNegative weights) {poolCents : Int}
    (n : ℕ) {low high : ℚ} (hlow : 0 ≤ low) (hhigh : Short weights poolCents high) :
    ∃ divisor, search weights poolCents n low high = .ok divisor ∧
      Short weights poolCents divisor := by
  induction n generalizing low high with
  | zero => exact ⟨high, rfl, hhigh⟩
  | succ n ih =>
    unfold search
    by_cases hstop : (low + high) / 2 = low ∨ (low + high) / 2 = high
    · exact ⟨high, if_pos hstop, hhigh⟩
    · have hmid : 0 < (low + high) / 2 := by
        have hpos := hhigh.pos
        linarith
      dsimp only
      rw [if_neg hstop, seatsAt_ok hw hmid]
      show ∃ divisor, (if poolCents ≤ _ then _ else _) = _ ∧ _
      rw [seatsAt_sum]
      by_cases hseats : poolCents ≤ ∑ id ∈ weights.keys.toFinset,
          quota (weightOf weights) ((low + high) / 2) id
      · rw [if_pos hseats]
        exact ih hmid.le hhigh
      · rw [if_neg hseats]
        exact ih hlow ⟨hmid, not_le.mp hseats⟩

theorem le_maxWeight {weights : Dict String Int} {weight : Int} (h : weight ∈ weights.values) :
    weight ≤ weights.values.max?.getD 0 := by
  cases hmax : weights.values.max? with
  | none =>
    rw [List.max?_eq_none_iff.mp hmax] at h
    cases h
  | some top => exact (List.max?_eq_some_iff.mp hmax).2 weight h

theorem maxWeight_nonneg {weights : Dict String Int} (hw : NonNegative weights) :
    0 ≤ weights.values.max?.getD 0 := by
  cases hmax : weights.values.max? with
  | none => exact le_rfl
  | some top => exact hw top (List.max?_eq_some_iff.mp hmax).1

theorem start_short {weights : Dict String Int} (hw : NonNegative weights) (poolCents : Int)
    (hpool : 0 < poolCents) :
    Short weights poolCents ((weights.values.max?.getD 0 : Int) + 1) := by
  have htop := maxWeight_nonneg hw
  have hpos : (0 : ℚ) < (weights.values.max?.getD 0 : Int) + 1 := by
    have hcast : (0 : ℚ) ≤ (weights.values.max?.getD 0 : Int) := by exact_mod_cast htop
    linarith
  refine ⟨hpos, ?_⟩
  have hnone : ∀ id ∈ weights.keys.toFinset,
      quota (weightOf weights) ((weights.values.max?.getD 0 : Int) + 1) id = 0 := by
    intro id hid
    obtain ⟨e, he, rfl⟩ := List.mem_map.mp (List.mem_toFinset.mp hid)
    have hweight : weightOf weights e.1 = e.2 := getD_of_mem he
    have hle := le_maxWeight (List.mem_map_of_mem (f := Prod.snd) he)
    have hnonneg := hw e.2 (List.mem_map_of_mem he)
    have hfloor : ⌊(e.2 : ℚ) / ((weights.values.max?.getD 0 : Int) + 1)⌋ = 0 := by
      rw [Int.floor_eq_zero_iff, Set.mem_Ico]
      refine ⟨div_nonneg (by exact_mod_cast hnonneg) hpos.le, ?_⟩
      rw [div_lt_one hpos]
      have hcast : (e.2 : ℚ) ≤ (weights.values.max?.getD 0 : Int) := by exact_mod_cast hle
      linarith
    unfold quota
    rw [hweight, hfloor]
    exact min_eq_right hnonneg
  rw [Finset.sum_eq_zero hnone]
  exact hpool

/-! ## The loop over the rest -/

/-- Payments under the ids of the weights, as a number of seats dealt leaves them. -/
structure Deals (weights : Dict String Int) (n : ℕ) (payments : Dict String Int) : Prop where
  keys : payments.keys = weights.keys
  dealt : Dealt (weightOf weights) n (held payments)

theorem held_give (payments : Dict String Int) {id : String} (h : id ∈ payments.keys) :
    held (payments.modify id (· + 1)) = give (held payments) id := by
  funext x
  show ((payments.modify id (· + 1)).get? x).getD 0 = give (held payments) id x
  rw [Dict.get?_modify]
  by_cases hx : x = id
  · subst hx
    obtain ⟨e, he, rfl⟩ := List.mem_map.mp h
    rw [if_pos rfl, give_self]
    show ((payments.get? e.1).map (· + 1)).getD 0 = (payments.get? e.1).getD 0 + 1
    rw [Dict.mem_entries_iff.mp he]
    rfl
  · rw [if_neg hx, give_of_ne hx]
    rfl

theorem row_of_weight {weights : Dict String Int} {id : String} (h : weightOf weights id ≠ 0) :
    (id, weightOf weights id) ∈ weights.entries := by
  by_contra hout
  apply h
  show (weights.get? id).getD 0 = 0
  cases hget : weights.get? id with
  | none => rfl
  | some weight =>
    have hrow := Dict.mem_entries_iff.mpr hget
    have hweight : weightOf weights id = weight := getD_of_mem hrow
    rw [hweight] at hout
    exact absurd hrow hout

theorem candidate_next {weights payments : Dict String Int} {e : String × Int}
    (hheld : ∀ id, 0 ≤ held payments id)
    (h : e ∈ (candidates weights payments).argmin (candidateKey payments)) :
    e ∈ weights.entries ∧ Next (weightOf weights) (held payments) e.1 := by
  have hmem := List.mem_filter.mp (List.argmin_mem h)
  have hweight : weightOf weights e.1 = e.2 := getD_of_mem hmem.1
  have hworth : average (weightOf weights) (held payments) e.1
      = (e.2 : ℚ) / ((payments.getD e.1 0 : Int) + 1) := by
    unfold average
    rw [hweight]
  refine ⟨hmem.1, ?_, ?_⟩
  · rw [hweight]
    exact of_decide_eq_true hmem.2
  · intro d hd
    have hnonneg := hheld d
    have hrow : (d, weightOf weights d) ∈ weights.entries := row_of_weight (by omega)
    have hcandidate : (d, weightOf weights d) ∈ candidates weights payments :=
      List.mem_filter.mpr ⟨hrow, decide_eq_true hd⟩
    have hle := List.le_of_mem_argmin hcandidate h
    rw [hworth]
    rcases Prod.Lex.le_iff.mp hle with hlt | ⟨heq, hid⟩
    · exact Or.inl (neg_lt_neg_iff.mp hlt)
    · exact Or.inr ⟨(neg_inj.mp heq).symm, hid⟩

theorem resolveTies_deals {weights : Dict String Int} (remaining : ℕ) {n : ℕ}
    {payments : Dict String Int} (h : Deals weights n payments)
    (hroom : (n + remaining : Int) ≤ weights.values.sum) :
    ∃ resolved, resolveTies weights remaining payments = .ok resolved ∧
      Deals weights (n + remaining) resolved := by
  induction remaining generalizing n payments with
  | zero => exact ⟨payments, rfl, h⟩
  | succ remaining ih =>
    have hheld := dealt_nonneg h.dealt
    -- the seats dealt do not cover the weights, so a candidate is left
    have hsum := dealt_sum (fun _ hid => getD_of_notMem hid) h.dealt
    have hopen : ∃ id ∈ weights.keys.toFinset, held payments id < weightOf weights id := by
      apply Finset.exists_lt_of_sum_lt
      rw [hsum]
      have htotal := sum_getD weights
      push_cast at hroom
      show (n : Int) < ∑ id ∈ weights.keys.toFinset, weights.getD id 0
      omega
    obtain ⟨id, -, hid⟩ := hopen
    have hrow : (id, weightOf weights id) ∈ candidates weights payments := by
      have hnonneg := hheld id
      exact List.mem_filter.mpr ⟨row_of_weight (by omega), decide_eq_true hid⟩
    unfold resolveTies
    cases hmin : (candidates weights payments).argmin (candidateKey payments) with
    | none =>
      rw [List.argmin_eq_none.mp hmin] at hrow
      cases hrow
    | some e =>
      obtain ⟨hmem, hnext⟩ := candidate_next hheld hmin
      have hkey : e.1 ∈ payments.keys := by
        rw [h.keys]
        exact List.mem_map_of_mem hmem
      have hgiven : Deals weights (n + 1) (payments.modify e.1 (· + 1)) := by
        refine ⟨(Dict.keys_modify payments e.1 _).trans h.keys, ?_⟩
        rw [held_give payments hkey]
        exact h.dealt.seat hnext
      obtain ⟨resolved, hresolved, hdeals⟩ := ih hgiven (by push_cast at hroom ⊢; omega)
      refine ⟨resolved, hresolved, ?_⟩
      rwa [Nat.add_assoc, Nat.add_comm 1] at hdeals

/-! ## The whole function -/

/-- Claims a pro-rata allocation takes. -/
structure Weighted (claims : List (String × Int)) : Prop where
  ids : (claims.map Prod.fst).Nodup
  weights : ∀ e ∈ claims, 0 ≤ e.2

theorem Weighted.nonNegative {claims : List (String × Int)} (h : Weighted claims) :
    NonNegative (Dict.ofList claims) := by
  intro weight hweight
  have hrows : (Dict.ofList claims).values = claims.map Prod.snd :=
    congrArg (List.map Prod.snd) (Dict.entries_ofList h.ids)
  rw [hrows] at hweight
  obtain ⟨e, he, rfl⟩ := List.mem_map.mp hweight
  exact h.weights e he

theorem held_sort (payments : Dict String Int) : held payments.sort = held payments :=
  funext fun id => getD_sort payments id

theorem proRata_deals {poolCents : Int} {claims : List (String × Int)} (hclaims : Weighted claims)
    (hpool : 0 ≤ poolCents) (htotal : poolCents ≤ (claims.map Prod.snd).sum) :
    ∃ payments, monotoneProRata poolCents claims = .ok payments.sort ∧
      Deals (Dict.ofList claims) poolCents.toNat payments := by
  have hrows := Dict.entries_ofList hclaims.ids
  have hw := hclaims.nonNegative
  have hvalues : (Dict.ofList claims).values = claims.map Prod.snd :=
    congrArg (List.map Prod.snd) hrows
  rw [← hvalues] at htotal
  unfold monotoneProRata
  generalize hweights : Dict.ofList claims = weights at hrows hw htotal ⊢
  have hlength : ¬weights.entries.length ≠ claims.length := by rw [hrows]; simp
  have hsign : ¬(poolCents < 0 ∨ ∃ weight ∈ weights.values, weight < 0) := by
    rintro (h | ⟨weight, hmem, h⟩)
    · omega
    · have hnonneg := hw weight hmem
      omega
  have hcover : ¬weights.values.sum < poolCents := by omega
  have hout : ∀ id ∉ weights.keys.toFinset, weightOf weights id = 0 := fun _ => getD_of_notMem
  have hnonneg := weightOf_nonneg hw
  dsimp only
  rw [if_neg hlength, if_neg hsign, if_neg hcover]
  by_cases hzero : poolCents = 0
  · subst hzero
    refine ⟨weights.mapValues fun _ _ => 0, by rw [if_pos rfl], Dict.keys_mapValues _ _, ?_⟩
    have hheld : held (weights.mapValues fun _ _ => 0) = fun _ => 0 := by
      funext id
      show ((weights.mapValues fun _ _ => 0).get? id).getD 0 = 0
      rw [Dict.get?_mapValues]
      cases weights.get? id with
      | none => rfl
      | some weight => rfl
    rw [hheld]
    exact Dealt.none
  · rw [if_neg hzero]
    by_cases hall : poolCents = weights.values.sum
    · refine ⟨weights, by rw [if_pos hall], rfl, ?_⟩
      apply dealt_all hnonneg hout
      have hsum := sum_getD weights
      show (poolCents.toNat : Int) = ∑ id ∈ weights.keys.toFinset, weights.getD id 0
      omega
    · rw [if_neg hall]
      obtain ⟨divisor, hsearch, hshort⟩ := search_spec hw (precision (weights.values.max?.getD 0) * 4)
        le_rfl (start_short hw poolCents (by omega))
      set payments := weights.mapValues fun id _ => quota (weightOf weights) divisor id with hpay
      have hsum : (payments.entries.map Prod.snd).sum
          = ∑ id ∈ weights.keys.toFinset, quota (weightOf weights) divisor id := seatsAt_sum _ _
      have hlow : 0 ≤ ∑ id ∈ weights.keys.toFinset, quota (weightOf weights) divisor id :=
        Finset.sum_nonneg fun id _ => quota_nonneg hshort.pos (hnonneg id)
      have hlt := hshort.short
      -- the divisor's seats are the first ones dealt
      have hfirst : Deals weights (payments.entries.map Prod.snd).sum.toNat payments := by
        refine ⟨Dict.keys_mapValues _ _, ?_⟩
        have hheld : held payments = quota (weightOf weights) divisor := by
          funext id
          show ((weights.mapValues _).get? id).getD 0 = _
          rw [Dict.get?_mapValues]
          cases hget : weights.get? id with
          | none =>
            have hzeroWeight : weightOf weights id = 0 := congrArg (fun o => o.getD 0) hget
            rw [quota_of_zero divisor hzeroWeight]
            rfl
          | some weight => rfl
        rw [hheld]
        exact dealt_divisor hnonneg hout hshort.pos (by omega)
      obtain ⟨resolved, hresolved, hdeals⟩ := resolveTies_deals
        (poolCents - (payments.entries.map Prod.snd).sum).toNat hfirst (by omega)
      refine ⟨resolved, ?_, ?_⟩
      · rw [hsearch]
        show (seatsAt weights divisor >>= _) = _
        rw [seatsAt_ok hw hshort.pos]
        show (if poolCents - (payments.entries.map Prod.snd).sum < 0 then _ else _) = _
        rw [if_neg (by omega)]
        show (resolveTies weights _ (Dict.ofList payments.entries) >>= _) = _
        rw [Dict.ofList_entries, hresolved]
        rfl
      · have hcount : (payments.entries.map Prod.snd).sum.toNat
            + (poolCents - (payments.entries.map Prod.snd).sum).toNat = poolCents.toNat := by omega
        rwa [hcount] at hdeals

/-- **`_monotone_pro_rata` returns, in the order of the ids, what dealing the
pool seat by seat comes to.** -/
theorem pro_rata_seat_by_seat {poolCents : Int} {claims : List (String × Int)}
    (hids : (claims.map Prod.fst).Nodup) (hweights : ∀ e ∈ claims, 0 ≤ e.2)
    (hpool : 0 ≤ poolCents) (htotal : poolCents ≤ (claims.map Prod.snd).sum) :
    ∃ payments, monotoneProRata poolCents claims = .ok payments ∧ payments.Sorted ∧
      (∀ id, id ∈ payments.keys ↔ id ∈ claims.map Prod.fst) ∧
      ∀ s, Dealt (weightOf (Dict.ofList claims)) poolCents.toNat s ↔ s = held payments := by
  obtain ⟨payments, hreturn, hdeals⟩ := proRata_deals ⟨hids, hweights⟩ hpool htotal
  refine ⟨payments.sort, hreturn, Dict.sort_sorted payments, ?_, ?_⟩
  · intro id
    have hkeys : (Dict.ofList claims).keys = claims.map Prod.fst :=
      congrArg (List.map Prod.fst) (Dict.entries_ofList hids)
    rw [Dict.mem_keys_sort, hdeals.keys, hkeys]
  · intro s
    rw [held_sort]
    constructor
    · intro hs
      exact dealt_unique hs hdeals.dealt
    · rintro rfl
      exact hdeals.dealt

theorem pro_rata_seat_by_seat_two :
    ∃ payments, monotoneProRata 2 [("cl_b", 1), ("cl_a", 2)] = .ok payments ∧ payments.Sorted ∧
      (∀ id, id ∈ payments.keys ↔ id ∈ ["cl_b", "cl_a"]) ∧
      ∀ s, Dealt (weightOf (Dict.ofList [("cl_b", 1), ("cl_a", 2)])) 2 s ↔ s = held payments :=
  pro_rata_seat_by_seat (by decide) (by decide) (by decide) (by decide)

end Polis.Economy.Bankruptcy
