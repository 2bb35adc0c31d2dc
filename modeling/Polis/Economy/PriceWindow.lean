/-
  Polis.Economy.PriceWindow — transaction prices and their window
  (`economy/goods.py`).

  A price is read off two windows of quantities and values, tick by tick, and
  off the last price of each good.  The windows lose their old ticks every
  day; the list of transactions never does.

  `Cached` is what ties the three caches to the list: every tick the windows
  still have is summed up right, every tick they have lost is out of reach,
  and the last prices are those of the latest tick of each good.

  Main results:
    * `Cached.price` — under the invariant the caches and the list tell the
      same price.
    * `runs_cached` — a run keeps the invariant.
    * `cached_price_agrees` — so the two readings agree in every run.
-/
import Polis.Lib.KeyedSums
import Polis.Economy.Goods

namespace Polis.Economy.Goods

open Lib Lib.Effect Sim

/-! ## The price of a good -/

/-- `economy.goods_price_value_by_tick[row_tick]`. -/
def valueRow (e : EconomyState) (rowTick : Int) : Except PyError (Dict String Int) :=
  match e.goodsPriceValueByTick.get? rowTick with
  | some row => .ok row
  | none => .error (.key (toString rowTick))

/-- A price and whether it is carried over from before the window, read off
the caches. -/
def cachedPriceCents (sku : String) (tick windowTicks : Int) (e : EconomyState) :
    Except PyError (Int × Bool) :=
  let includedTicks := e.goodsPriceQtyByTick.keys.filter fun rowTick =>
    tick - windowTicks < rowTick ∧ rowTick ≤ tick
  let totalQty := (includedTicks.map fun rowTick =>
    (e.goodsPriceQtyByTick.getD rowTick ∅).getD sku 0).sum
  if totalQty ≠ 0 then do
    let values ← includedTicks.mapM fun rowTick =>
      (valueRow e rowTick).map fun row => row.getD sku 0
    .ok (Int.fdiv values.sum totalQty, false)
  else
    match e.basket with
    | none => .error (.runtime "CPI basket is not fixed")
    | some basket =>
      -- the default of `get` is looked up whether or not it is needed
      match basket.basePricesCents.get? sku with
      | none => .error (.key sku)
      | some base => .ok (e.goodsLastPriceCents.getD sku base, true)

/-- A price and whether it is carried over from before the window, read off
the list of transactions. -/
def listedPriceCents (sku : String) (tick windowTicks : Int) (e : EconomyState) :
    Except PyError (Int × Bool) :=
  let rows := e.goodsTransactions.filter fun row =>
    row.sku = sku ∧ tick - windowTicks < row.tick ∧ row.tick ≤ tick
  let totalQty : Int := (rows.map (·.qty)).sum
  if totalQty ≠ 0 then
    .ok (Int.fdiv (rows.map fun row => row.unitPriceCents * row.qty).sum totalQty, false)
  else
    match e.basket with
    | none => .error (.runtime "CPI basket is not fixed")
    | some basket =>
      let previous := e.goodsTransactions.filter fun row => row.sku = sku ∧ row.tick ≤ tick
      match (previous.map (·.tick)).max? with
      | some latestTick =>
        let latest := previous.filter fun row => row.tick = latestTick
        let latestQty : Int := (latest.map (·.qty)).sum
        if latestQty = 0 then .error .zeroDivision
        else
          .ok (Int.fdiv (latest.map fun row => row.unitPriceCents * row.qty).sum latestQty, true)
      | none =>
        match basket.basePricesCents.get? sku with
        | none => .error (.key sku)
        | some base => .ok (base, true)

/-- `transaction_price_cents(sku, tick, window_ticks, economy=)`. -/
def transactionPriceCents (sku : String) (tick windowTicks : Int) (e : EconomyState) :
    Except PyError (Int × Bool) :=
  if e.goodsPriceQtyByTick.entries ≠ [] ∨ e.goodsLastPriceCents.entries ≠ [] then
    cachedPriceCents sku tick windowTicks e
  else listedPriceCents sku tick windowTicks e

/-- The same economy with only its list of transactions to read prices from. -/
def withoutPriceCache (e : EconomyState) : EconomyState :=
  { e with
    goodsPriceQtyByTick := ∅
    goodsPriceValueByTick := ∅
    goodsLastPriceCents := ∅ }

/-- The window of the price index, in ticks. -/
def priceWindowTicks (settings : Settings) : Int :=
  settings.goods.cpiWindowDays * settings.clock.ticksPerSimDay

/-! ## What the prices are read from -/

/-- The transactions and the three caches. -/
structure Prices where
  transactions : List GoodsTransactionState
  qty : Dict Int (Dict String Int)
  value : Dict Int (Dict String Int)
  last : Dict String Int
  deriving DecidableEq

/-- The prices of an economy. -/
abbrev pricesOf (e : EconomyState) : Prices :=
  ⟨e.goodsTransactions, e.goodsPriceQtyByTick, e.goodsPriceValueByTick, e.goodsLastPriceCents⟩

namespace Prices

/-- One more transaction. -/
def sell (row : GoodsTransactionState) (p : Prices) : Prices :=
  let priceQty := p.qty.getD row.tick ∅
  let priceValue := p.value.getD row.tick ∅
  let qty := priceQty.getD row.sku 0 + row.qty
  let value := priceValue.getD row.sku 0 + row.unitPriceCents * row.qty
  { transactions := p.transactions ++ [row]
    qty := p.qty.put row.tick (priceQty.put row.sku qty)
    value := p.value.put row.tick (priceValue.put row.sku value)
    last := p.last.put row.sku (value / qty) }

/-- The windows without the ticks up to a cutoff. -/
def expire (cutoff : Int) (p : Prices) : Prices :=
  { p with
    qty := p.qty.filterKeys fun t => cutoff < t
    value := (p.qty.keys.filter fun t => t ≤ cutoff).foldl (fun d t => d.erase t) p.value }

end Prices

theorem pricesOf_sale (row : GoodsTransactionState) (e : EconomyState) :
    pricesOf (recordSale row (recordTransaction row e)) = (pricesOf e).sell row := rfl

theorem pricesOf_expire (ctx : Ctx) (tick : Int) (e : EconomyState) :
    pricesOf (expireSalesWindow ctx tick e)
      = (pricesOf e).expire (tick - priceWindowTicks ctx.settings) := rfl

/-! ## The invariant -/

/-- The sales of one good. -/
def salesOf (sku : String) (rows : List GoodsTransactionState) : List GoodsTransactionState :=
  rows.filter fun row => row.sku = sku

/-- The units of a good sold in a tick. -/
def qtyAt (rows : List GoodsTransactionState) (sku : String) (tick : Int) : Int :=
  sumAt (·.tick) (·.qty) tick (salesOf sku rows)

/-- What the units of a good sold in a tick were paid with. -/
def valueAt (rows : List GoodsTransactionState) (sku : String) (tick : Int) : Int :=
  sumAt (·.tick) (fun row => row.unitPriceCents * row.qty) tick (salesOf sku rows)

/-- The caches agree with the transactions at a tick, for a window. -/
structure Cached (window tick : Int) (p : Prices) : Prop where
  /-- Sales lie in the past and are of something. -/
  past : ∀ row ∈ p.transactions, row.tick ≤ tick ∧ 0 < row.qty
  /-- A tick of the window has its quantities. -/
  qtys : ∀ t m, p.qty.get? t = some m → ∀ sku, m.getD sku 0 = qtyAt p.transactions sku t
  /-- A tick of the window has its values. -/
  values : ∀ t m, p.value.get? t = some m → ∀ sku, m.getD sku 0 = valueAt p.transactions sku t
  /-- Both windows have the same ticks. -/
  same : ∀ t, (p.value.get? t).isSome = (p.qty.get? t).isSome
  /-- A sale is in the window, or too old for it. -/
  kept : ∀ row ∈ p.transactions,
    (p.qty.get? row.tick).isSome = true ∨ (row.tick ≤ tick - window ∧ row.tick < tick)
  /-- The last price is that of the latest tick of a good. -/
  last : ∀ row ∈ p.transactions,
    (∀ r ∈ p.transactions, r.sku = row.sku → r.tick ≤ row.tick) →
      p.last.get? row.sku
        = some (valueAt p.transactions row.sku row.tick / qtyAt p.transactions row.sku row.tick)
  /-- A good that was never sold has no last price. -/
  unsold : ∀ sku, (∀ row ∈ p.transactions, row.sku ≠ sku) → p.last.get? sku = none

variable {window tick : Int} {p : Prices}

/-- Nothing is sold yet. -/
def Prices.empty : Prices := ⟨[], ∅, ∅, ∅⟩

theorem Cached.empty (window tick : Int) : Cached window tick Prices.empty where
  past := fun row h => absurd h List.not_mem_nil
  qtys := fun t m h => by cases h
  values := fun t m h => by cases h
  same := fun t => rfl
  kept := fun row h => absurd h List.not_mem_nil
  last := fun row h => absurd h List.not_mem_nil
  unsold := fun sku _ => rfl

theorem Cached.later (h : Cached window tick p) {tick' : Int} (ht : tick ≤ tick') :
    Cached window tick' p where
  past := fun row hrow => ⟨(h.past row hrow).1.trans ht, (h.past row hrow).2⟩
  qtys := h.qtys
  values := h.values
  same := h.same
  kept := fun row hrow => by
    rcases h.kept row hrow with hin | hold
    · exact .inl hin
    · exact .inr (by omega)
  last := h.last
  unsold := h.unsold

/-! ### The windows lose their old ticks -/

theorem get?_foldl_erase {α : Type} (ks : List Int) (d : Dict Int α) (t : Int) :
    (ks.foldl (fun d t => d.erase t) d).get? t = if t ∈ ks then none else d.get? t := by
  induction ks generalizing d with
  | nil => simp
  | cons k ks ih =>
    rw [List.foldl_cons, ih, Dict.get?_erase]
    by_cases hk : t = k
    · simp [hk]
    · simp [hk]

theorem Prices.get?_qty_expire (cutoff t : Int) (p : Prices) :
    (p.expire cutoff).qty.get? t = if cutoff < t then p.qty.get? t else none := by
  show (p.qty.filterKeys fun t => cutoff < t).get? t = _
  rw [Dict.get?_filterKeys]
  simp only [decide_eq_true_eq]

theorem Prices.get?_value_expire (cutoff t : Int) {p : Prices}
    (hsame : (p.value.get? t).isSome = (p.qty.get? t).isSome) :
    (p.expire cutoff).value.get? t = if cutoff < t then p.value.get? t else none := by
  show ((p.qty.keys.filter fun t => t ≤ cutoff).foldl (fun d t => d.erase t) p.value).get? t = _
  rw [get?_foldl_erase]
  by_cases ht : cutoff < t
  · rw [if_pos ht, if_neg]
    intro hmem
    have hle : t ≤ cutoff := by simpa using (List.mem_filter.mp hmem).2
    omega
  · rw [if_neg ht]
    split_ifs with hmem
    · rfl
    · -- a tick without quantities has no values either
      have hnone : p.qty.get? t = none := by
        by_contra hsome
        obtain ⟨m, hm⟩ := Option.ne_none_iff_exists'.mp hsome
        refine hmem (List.mem_filter.mpr ⟨Dict.mem_keys_iff.mpr ⟨m, hm⟩, ?_⟩)
        simpa using ht
      rw [hnone] at hsame
      simpa using hsame

theorem Cached.expire (h : Cached window tick p)
    (hday : 0 < window ∨ ∀ row ∈ p.transactions, row.tick < tick) :
    Cached window tick (p.expire (tick - window)) where
  past := h.past
  qtys := fun t m hm => by
    rw [Prices.get?_qty_expire] at hm
    split_ifs at hm
    exact h.qtys t m hm
  values := fun t m hm => by
    rw [Prices.get?_value_expire _ _ (h.same t)] at hm
    split_ifs at hm
    exact h.values t m hm
  same := fun t => by
    rw [Prices.get?_qty_expire, Prices.get?_value_expire _ _ (h.same t)]
    split_ifs
    · exact h.same t
    · rfl
  kept := fun row hrow => by
    rw [Prices.get?_qty_expire]
    rcases h.kept row hrow with hin | hold
    · by_cases ht : tick - window < row.tick
      · rw [if_pos ht]
        exact .inl hin
      · -- a lost tick lies before the present one
        refine .inr ⟨by omega, ?_⟩
        rcases hday with hw | hall
        · omega
        · exact hall row hrow
    · exact .inr hold
  last := h.last
  unsold := h.unsold

/-! ### A sale enters the caches -/

theorem mem_salesOf {sku : String} {rows : List GoodsTransactionState}
    {row : GoodsTransactionState} : row ∈ salesOf sku rows ↔ row ∈ rows ∧ row.sku = sku := by
  simp [salesOf]

theorem salesOf_concat (sku : String) (rows : List GoodsTransactionState)
    (row : GoodsTransactionState) :
    salesOf sku (rows ++ [row]) = salesOf sku rows ++ if row.sku = sku then [row] else [] := by
  by_cases h : row.sku = sku
  · simp [salesOf, h]
  · simp [salesOf, h]

theorem sumAt_sale (amount : GoodsTransactionState → Int) (rows : List GoodsTransactionState)
    (row : GoodsTransactionState) (sku : String) (t : Int) :
    sumAt (·.tick) amount t (salesOf sku (rows ++ [row]))
      = sumAt (·.tick) amount t (salesOf sku rows)
        + if row.sku = sku ∧ row.tick = t then amount row else 0 := by
  rw [salesOf_concat]
  by_cases h : row.sku = sku
  · rw [if_pos h, sumAt_concat]
    simp [h]
  · simp [h]

theorem getD_row {amount : GoodsTransactionState → Int} {rows : List GoodsTransactionState}
    {d : Dict Int (Dict String Int)} {t : Int}
    (hsums : ∀ m, d.get? t = some m → ∀ sku,
      m.getD sku 0 = sumAt (·.tick) amount t (salesOf sku rows))
    (hnone : d.get? t = none → ∀ row ∈ rows, row.tick ≠ t) (sku : String) :
    (d.getD t ∅).getD sku 0 = sumAt (·.tick) amount t (salesOf sku rows) := by
  unfold Dict.getD
  cases hd : d.get? t with
  | some m => exact hsums m hd sku
  | none =>
    rw [sumAt_eq_zero]
    · rfl
    · intro row hrow
      exact hnone hd row (mem_salesOf.mp hrow).1

theorem getD_put_row (amount : GoodsTransactionState → Int) {rows : List GoodsTransactionState}
    {d : Dict Int (Dict String Int)} {row : GoodsTransactionState}
    (hsums : ∀ t m, d.get? t = some m → ∀ sku,
      m.getD sku 0 = sumAt (·.tick) amount t (salesOf sku rows))
    (hnone : d.get? row.tick = none → ∀ r ∈ rows, r.tick ≠ row.tick) (t : Int)
    (m : Dict String Int)
    (hm : (d.put row.tick ((d.getD row.tick ∅).put row.sku
      ((d.getD row.tick ∅).getD row.sku 0 + amount row))).get? t = some m) (sku : String) :
    m.getD sku 0 = sumAt (·.tick) amount t (salesOf sku (rows ++ [row])) := by
  rw [Dict.get?_put] at hm
  rw [sumAt_sale]
  by_cases ht : t = row.tick
  · subst ht
    rw [if_pos rfl] at hm
    have hrow := fun sku => getD_row (hsums row.tick) hnone sku
    obtain rfl := Option.some.inj hm
    rw [← hrow sku]
    by_cases hs : sku = row.sku
    · subst hs
      simp [Dict.getD]
    · have hs' : row.sku ≠ sku := fun h => hs h.symm
      simp [Dict.getD, Dict.get?_put, hs, hs']
  · rw [if_neg ht] at hm
    have ht' : ¬ row.tick = t := fun h => ht h.symm
    simp [hsums t m hm sku, ht']

theorem Cached.unsold_tick (h : Cached window tick p) (ht : p.qty.get? tick = none) :
    ∀ row ∈ p.transactions, row.tick ≠ tick := by
  intro row hrow heq
  rcases h.kept row hrow with hin | hold
  · rw [heq, ht] at hin
    cases hin
  · omega

theorem Cached.unvalued_tick (h : Cached window tick p) (ht : p.value.get? tick = none) :
    ∀ row ∈ p.transactions, row.tick ≠ tick := by
  apply h.unsold_tick
  have hsame := h.same tick
  rw [ht] at hsame
  simpa using hsame.symm

theorem Cached.last_sell (h : Cached window tick p) {row : GoodsTransactionState}
    (ht : row.tick = tick) (r : GoodsTransactionState) (hr : r ∈ p.transactions ++ [row])
    (hlatest : ∀ r' ∈ p.transactions ++ [row], r'.sku = r.sku → r'.tick ≤ r.tick) :
    (p.sell row).last.get? r.sku = some (valueAt (p.transactions ++ [row]) r.sku r.tick
      / qtyAt (p.transactions ++ [row]) r.sku r.tick) := by
  subst ht
  show (p.last.put _ _).get? r.sku = _
  rw [Dict.get?_put]
  unfold valueAt qtyAt
  rw [sumAt_sale, sumAt_sale]
  by_cases hs : r.sku = row.sku
  · -- the sale is the latest of its good
    have hle : row.tick ≤ r.tick :=
      hlatest row (List.mem_append_right _ List.mem_cons_self) hs.symm
    have hge : r.tick ≤ row.tick := by
      rcases List.mem_append.mp hr with hr | hr
      · exact (h.past r hr).1
      · rw [List.mem_singleton.mp hr]
    have hrt : r.tick = row.tick := by omega
    rw [if_pos hs, hs, hrt, if_pos ⟨rfl, rfl⟩, if_pos ⟨rfl, rfl⟩,
      ← getD_row (h.qtys row.tick) h.unsold_tick, ← getD_row (h.values row.tick) h.unvalued_tick]
  · -- the last prices of the other goods stay
    have hs' : ¬ (row.sku = r.sku ∧ row.tick = r.tick) := fun hc => hs hc.1.symm
    have hr' : r ∈ p.transactions := by
      rcases List.mem_append.mp hr with hr | hr
      · exact hr
      · exact absurd (congrArg (·.sku) (List.mem_singleton.mp hr)) hs
    rw [if_neg hs, if_neg hs', if_neg hs', add_zero, add_zero]
    exact h.last r hr' fun r' hr'' => hlatest r' (List.mem_append_left _ hr'')

theorem Cached.sell (h : Cached window tick p) {row : GoodsTransactionState}
    (ht : row.tick = tick) (hqty : 0 < row.qty) : Cached window tick (p.sell row) := by
  have hnone : p.qty.get? row.tick = none → ∀ r ∈ p.transactions, r.tick ≠ row.tick :=
    ht ▸ h.unsold_tick
  have hnone' : p.value.get? row.tick = none → ∀ r ∈ p.transactions, r.tick ≠ row.tick :=
    ht ▸ h.unvalued_tick
  exact {
    past := fun r hr => by
      rcases List.mem_append.mp hr with hr | hr
      · exact h.past r hr
      · obtain rfl := List.mem_singleton.mp hr
        exact ⟨ht.le, hqty⟩
    qtys := fun t m hm sku => getD_put_row (·.qty) h.qtys hnone t m hm sku
    values := fun t m hm sku =>
      getD_put_row (fun r => r.unitPriceCents * r.qty) h.values hnone' t m hm sku
    same := fun t => by
      show ((p.value.put _ _).get? t).isSome = ((p.qty.put _ _).get? t).isSome
      rw [Dict.get?_put, Dict.get?_put]
      split_ifs
      · rfl
      · exact h.same t
    kept := fun r hr => by
      show ((p.qty.put _ _).get? r.tick).isSome = true ∨ _
      rw [Dict.get?_put]
      split_ifs with hrt
      · exact .inl rfl
      · rcases List.mem_append.mp hr with hr | hr
        · exact h.kept r hr
        · exact absurd (congrArg (·.tick) (List.mem_singleton.mp hr)) hrt
    last := h.last_sell ht
    unsold := fun sku hall => by
      show (p.last.put _ _).get? sku = none
      rw [Dict.get?_put, if_neg]
      · exact h.unsold sku fun r hr => hall r (List.mem_append_left _ hr)
      · intro heq
        exact hall row (List.mem_append_right _ List.mem_cons_self) heq.symm }

/-! ## The two readings of a price -/

theorem Cached.window_sum (h : Cached window tick p) {windowTicks : Int}
    (hw : windowTicks ≤ window) (sku : String) (amount : GoodsTransactionState → Int)
    (d : Dict Int (Dict String Int))
    (hd : ∀ t ∈ p.qty.keys, (d.getD t ∅).getD sku 0
      = sumAt (·.tick) amount t (salesOf sku p.transactions)) :
    ((p.qty.keys.filter fun t => tick - windowTicks < t ∧ t ≤ tick).map fun t =>
        (d.getD t ∅).getD sku 0).sum
      = ((p.transactions.filter fun row =>
          row.sku = sku ∧ tick - windowTicks < row.tick ∧ row.tick ≤ tick).map amount).sum := by
  have hkeys : ∀ row ∈ salesOf sku p.transactions,
      decide (tick - windowTicks < row.tick ∧ row.tick ≤ tick) = true →
        row.tick ∈ p.qty.keys := by
    intro row hrow hin
    rw [decide_eq_true_eq] at hin
    rcases h.kept row (mem_salesOf.mp hrow).1 with hkept | hold
    · exact Dict.mem_keys_iff.mpr (Option.isSome_iff_exists.mp hkept)
    · omega
  have hsum := sum_sumAt_filter (·.tick) amount p.qty.nodup
    (fun t => decide (tick - windowTicks < t ∧ t ≤ tick)) hkeys
  have hcached : ((p.qty.keys.filter fun t => tick - windowTicks < t ∧ t ≤ tick).map fun t =>
        (d.getD t ∅).getD sku 0)
      = (p.qty.keys.filter fun t => tick - windowTicks < t ∧ t ≤ tick).map fun t =>
        sumAt (·.tick) amount t (salesOf sku p.transactions) :=
    List.map_congr_left fun t ht => hd t (List.mem_filter.mp ht).1
  rw [hcached]
  refine hsum.trans ?_
  rw [salesOf, List.filter_filter]
  refine congrArg (fun rows : List GoodsTransactionState => (rows.map amount).sum)
    (List.filter_congr fun row _ => ?_)
  rw [Bool.and_comm]
  simp

theorem mapM_valueRow {e : EconomyState} (sku : String) {ticks : List Int}
    (h : ∀ t ∈ ticks, (e.goodsPriceValueByTick.get? t).isSome = true) :
    (ticks.mapM fun t => (valueRow e t).map fun row => row.getD sku 0)
      = .ok (ticks.map fun t => (e.goodsPriceValueByTick.getD t ∅).getD sku 0) := by
  induction ticks with
  | nil => rfl
  | cons t ticks ih =>
    obtain ⟨m, hm⟩ := Option.isSome_iff_exists.mp (h t List.mem_cons_self)
    have hrow : valueRow e t = .ok m := by
      unfold valueRow
      rw [hm]
    have hget : e.goodsPriceValueByTick.getD t ∅ = m := by
      rw [Dict.getD, hm]
      rfl
    rw [List.mapM_cons, ih fun t' ht' => h t' (List.mem_cons_of_mem _ ht'), hrow, List.map_cons,
      hget]
    rfl

theorem Cached.last_of_latest (h : Cached window tick p) {sku : String} {latestTick : Int}
    (hmax : ((salesOf sku p.transactions).map (·.tick)).max? = some latestTick) :
    0 < qtyAt p.transactions sku latestTick ∧
    p.last.get? sku
      = some (valueAt p.transactions sku latestTick / qtyAt p.transactions sku latestTick) := by
  rw [List.max?_eq_some_iff] at hmax
  obtain ⟨row, hrow, ht⟩ := List.mem_map.mp hmax.1
  obtain ⟨hmem, hsku⟩ := mem_salesOf.mp hrow
  constructor
  · refine sumAt_pos _ _ ?_ hrow ht
    intro r hr
    exact (h.past r (mem_salesOf.mp hr).1).2
  · rw [← hsku, ← ht]
    refine h.last row hmem fun r hr hs => ?_
    rw [ht]
    exact hmax.2 r.tick (List.mem_map_of_mem (mem_salesOf.mpr ⟨hr, hs.trans hsku⟩))

theorem Cached.last_of_unsold (h : Cached window tick p) {sku : String}
    (hmax : ((salesOf sku p.transactions).map (·.tick)).max? = none) :
    p.last.get? sku = none := by
  rw [List.max?_eq_none_iff, List.map_eq_nil_iff] at hmax
  refine h.unsold sku fun row hrow hsku => ?_
  have hmem := mem_salesOf.mpr ⟨hrow, hsku⟩
  rw [hmax] at hmem
  exact List.not_mem_nil hmem

theorem Cached.previous (h : Cached window tick p) (sku : String) :
    (p.transactions.filter fun row => row.sku = sku ∧ row.tick ≤ tick)
      = salesOf sku p.transactions := by
  refine List.filter_congr fun row hrow => ?_
  have hpast := (h.past row hrow).1
  simp [hpast]

theorem Cached.price_carried {e : EconomyState} (h : Cached window tick (pricesOf e)) {sku : String}
    {latestTick : Int}
    (hmax : ((salesOf sku e.goodsTransactions).map (·.tick)).max? = some latestTick) (base : Int) :
    e.goodsLastPriceCents.getD sku base
      = Int.fdiv (valueAt e.goodsTransactions sku latestTick)
          (qtyAt e.goodsTransactions sku latestTick) := by
  obtain ⟨hpos, hlast⟩ := h.last_of_latest hmax
  rw [Int.fdiv_eq_ediv_of_nonneg _ hpos.le, Dict.getD]
  rw [show e.goodsLastPriceCents.get? sku = _ from hlast]
  rfl

theorem Cached.cachedPrice {e : EconomyState} (h : Cached window tick (pricesOf e))
    {windowTicks : Int} (hw : windowTicks ≤ window) {sku : String}
    (hbasket : ∀ b, e.basket = some b → b.basePricesCents.contains sku = true) :
    cachedPriceCents sku tick windowTicks e = listedPriceCents sku tick windowTicks e := by
  have hqty := h.window_sum hw sku (·.qty) e.goodsPriceQtyByTick fun t ht => by
      obtain ⟨m, hm⟩ := Dict.mem_keys_iff.mp ht
      exact getD_row (h.qtys t) (fun hnone => by rw [hm] at hnone; cases hnone) sku
  have hkey : ∀ t ∈ e.goodsPriceQtyByTick.keys, (e.goodsPriceValueByTick.get? t).isSome = true := by
    intro t ht
    obtain ⟨m, hm⟩ := Dict.mem_keys_iff.mp ht
    exact (h.same t).trans (by rw [hm]; rfl)
  have hvalue := h.window_sum hw sku (fun row => row.unitPriceCents * row.qty)
    e.goodsPriceValueByTick fun t ht => by
      obtain ⟨m, hm⟩ := Option.isSome_iff_exists.mp (hkey t ht)
      exact getD_row (h.values t) (fun hnone => by rw [hm] at hnone; cases hnone) sku
  have hprevious := h.previous sku
  simp only [cachedPriceCents, listedPriceCents]
  rw [hqty]
  split_ifs with htotal
  · rw [mapM_valueRow sku fun t ht => hkey t (List.mem_filter.mp ht).1]
    exact congrArg (fun n => Except.ok (Int.fdiv n _, false)) hvalue
  · -- nothing was sold in the window
    cases hbase : e.basket with
    | none => rfl
    | some basket =>
      obtain ⟨base, hget⟩ := Dict.contains_iff.mp (hbasket basket hbase)
      rw [hprevious]
      simp only [hget]
      cases hmax : ((salesOf sku e.goodsTransactions).map (·.tick)).max? with
      | none =>
        rw [Dict.getD, h.last_of_unsold hmax]
        rfl
      | some latestTick =>
        have hpos := (h.last_of_latest hmax).1
        rw [h.price_carried hmax]
        exact (if_neg hpos.ne').symm

theorem Cached.price {e : EconomyState} (h : Cached window tick (pricesOf e)) {windowTicks : Int}
    (hw : windowTicks ≤ window) {sku : String}
    (hbasket : ∀ b, e.basket = some b → b.basePricesCents.contains sku = true) :
    transactionPriceCents sku tick windowTicks e
      = transactionPriceCents sku tick windowTicks (withoutPriceCache e) := by
  have hplain : transactionPriceCents sku tick windowTicks (withoutPriceCache e)
      = listedPriceCents sku tick windowTicks e := rfl
  rw [hplain]
  unfold transactionPriceCents
  split_ifs
  · exact h.cachedPrice hw hbasket
  · rfl

/-! ## Runs -/

/-- The step leaves the transactions and the caches alone. -/
def PricesKept (s s' : Sim) : Prop := pricesOf s'.economy = pricesOf s.economy

theorem PricesKept.refl (s : Sim) : PricesKept s s := Eq.refl _

theorem PricesKept.trans (a b c : Sim) (h : PricesKept a b) (h' : PricesKept b c) :
    PricesKept a c := Eq.trans h' h

theorem kept_emit (tick : Int) (kind : EventKind) (payload : List (String × Value))
    (actorId : Option String) (subjectIds : List String) :
    Within PricesKept (emit tick kind payload actorId subjectIds) := by
  intro s event s' h
  obtain ⟨log, rfl⟩ := emit_eq_ok h
  exact rfl

theorem kept_post [Uuid5] (legs : List Leg) (tick : Int) (cause : Event) :
    Within PricesKept (post legs tick cause) := by
  intro s txn s' h
  obtain ⟨L', -, rfl⟩ := post_eq_ok h
  exact rfl

theorem kept_nextTxnId [Uuid5] (tick : Int) : Within PricesKept (nextTxnId tick) := by
  intro s txn s' h
  obtain ⟨L', -, rfl⟩ := onLedger_eq_ok.mp h
  exact rfl

theorem kept_failed (buyerId sku : String) (qty : Int) (reason : String) (tick : Int) :
    Within PricesKept (failed buyerId sku qty reason tick) := kept_emit _ _ _ _ _

theorem kept_economyNow : Within PricesKept economyNow := by
  intro s e s' h
  obtain ⟨-, rfl⟩ := economyNow_eq_ok.mp h
  exact rfl

variable (ctx : Ctx)

theorem kept_consume (agentId sku : String) (qty tick : Int) :
    Within PricesKept (consume ctx agentId sku qty tick) := by
  unfold consume
  refine within_bind PricesKept.trans (within_require PricesKept.refl _ _) fun _ => ?_
  refine within_bind PricesKept.trans kept_economyNow fun e => ?_
  refine within_bind PricesKept.trans (within_orRaise PricesKept.refl _ _) fun row => ?_
  have hneeds : ∀ needs, Within PricesKept (gather (fun need : String × Int => do
      let s ← get
      let span := ctx.restored agentId need.1 (qty * need.2) s.log.events
      let event ← emit tick .needSatisfied
        [("agent_id", .str agentId), ("need", .str need.1), ("sku", .str sku),
          ("from_bp", .int span.1), ("to_bp", .int span.2)]
        (some agentId)
      pure [event]) needs) := by
    intro needs
    refine within_gather PricesKept.refl PricesKept.trans fun need _ => ?_
    refine within_bind PricesKept.trans (within_get PricesKept.refl) fun s => ?_
    refine within_bind PricesKept.trans (kept_emit _ _ _ _ _) fun event => ?_
    exact within_pure PricesKept.refl _
  cases row.durableLifeTicks with
  | none => exact hneeds _
  | some lifeTicks =>
    refine within_bind PricesKept.trans (within_liftE PricesKept.refl _) fun durableId => ?_
    exact within_bind PricesKept.trans (within_modify fun s => rfl) fun _ => hneeds _

variable [Uuid5]

/-- What a purchase does to the prices: at most one sale of the tick. -/
def OneSale (tick : Int) (s s' : Sim) : Prop :=
  PricesKept s s' ∨ ∃ row : GoodsTransactionState,
    pricesOf s'.economy = (pricesOf s.economy).sell row ∧ row.tick = tick ∧ 0 < row.qty

omit [Uuid5] in
theorem purchaseLegs_pos {settings : Settings} {e : EconomyState} {buyerId sellerId sku : String}
    {qty unitPriceCents : Int} {r : List Leg × PurchaseBreakdown}
    (h : purchaseLegs settings e buyerId sellerId sku qty unitPriceCents = .ok r) : 0 < qty := by
  by_contra hqty
  unfold purchaseLegs at h
  rw [if_pos (Or.inl (not_lt.mp hqty))] at h
  cases h

theorem purchase_sells (action : BuyGoodAction) (initialStock : Int) (ordinal : Nat) (tick : Int) :
    Within (OneSale tick) (purchase ctx action initialStock ordinal tick) := by
  intro s r s' h
  unfold purchase at h
  obtain ⟨e, _, h₁, h⟩ := bind_eq_ok.mp h
  obtain ⟨rfl, rfl⟩ := economyNow_eq_ok.mp h₁
  have hrefuse : ∀ reason, Within PricesKept (do
      let event ← failed action.actorId action.params.sku
        (min action.params.qty ctx.settings.goods.purchaseMaxQty) reason tick
      pure (ordinal, [event]) : EngineM (Nat × List Event)) := fun reason =>
    within_bind PricesKept.trans (kept_failed _ _ _ _ _) fun _ => within_pure PricesKept.refl _
  cases hinv : s.economy.inventory.get?
      (inventoryId action.params.sellerFirmId action.params.sku) with
  | none =>
    simp only [hinv] at h
    exact .inl (hrefuse "stockout" _ _ _ h)
  | some inventory =>
    simp only [hinv] at h
    split_ifs at h with hstock hration hcap
    · exact .inl (hrefuse "stockout" _ _ _ h)
    · exact .inl (hrefuse "rationed" _ _ _ h)
    · exact .inl (hrefuse "price_above_cap" _ _ _ h)
    · obtain ⟨⟨legs, b⟩, _, h₁, h⟩ := bind_eq_ok.mp h
      obtain ⟨hlegs, rfl⟩ := liftE_eq_ok.mp h₁
      dsimp only at h
      split_ifs at h with hpoor
      · exact .inl (hrefuse "unaffordable" _ _ _ h)
      · obtain ⟨goodsTxnId, _, h₁, h⟩ := bind_eq_ok.mp h
        obtain ⟨-, rfl⟩ := liftE_eq_ok.mp h₁
        obtain ⟨expected, s₁, h₁, h⟩ := bind_eq_ok.mp h
        have hk₁ := kept_nextTxnId tick _ _ _ h₁
        obtain ⟨event, s₂, h₁, h⟩ := bind_eq_ok.mp h
        have hk₂ := kept_emit _ _ _ _ _ _ _ _ h₁
        obtain ⟨ledgerTxnId, s₃, h₁, h⟩ := bind_eq_ok.mp h
        have hk₃ := kept_post _ _ _ _ _ _ h₁
        obtain ⟨_, _, h₁, h⟩ := bind_eq_ok.mp h
        obtain ⟨-, rfl⟩ := require_eq_ok.mp h₁
        -- the sale enters the list, the firm is looked up, the sale enters the caches
        obtain ⟨_, s₄, h₁, h⟩ := bind_eq_ok.mp h
        obtain rfl := modifyEconomy_eq_ok.mp h₁
        obtain ⟨_, _, h₁, h⟩ := bind_eq_ok.mp h
        obtain ⟨-, rfl⟩ := require_eq_ok.mp h₁
        obtain ⟨_, s₅, h₁, h⟩ := bind_eq_ok.mp h
        obtain rfl := modifyEconomy_eq_ok.mp h₁
        obtain ⟨consumed, s₆, h₁, h⟩ := bind_eq_ok.mp h
        have hk₄ := kept_consume ctx _ _ _ _ _ _ _ h₁
        obtain ⟨-, rfl⟩ := pure_eq_ok.mp h
        have hkept : pricesOf s₃.economy = pricesOf s.economy :=
          Eq.trans hk₃ (Eq.trans hk₂ hk₁)
        have hsale : pricesOf s₆.economy = (pricesOf s₃.economy).sell _ :=
          Eq.trans hk₄ (pricesOf_sale _ _)
        rw [hkept] at hsale
        exact .inr ⟨_, hsale, rfl, purchaseLegs_pos hlegs⟩

/-- The step keeps the invariant of a tick. -/
def KeepsCached (window tick : Int) (s s' : Sim) : Prop :=
  Cached window tick (pricesOf s.economy) → Cached window tick (pricesOf s'.economy)

omit [Uuid5] in
theorem OneSale.keeps {s s' : Sim} (h : OneSale tick s s') : KeepsCached window tick s s' := by
  intro hc
  rcases h with hkept | ⟨row, hsell, ht, hqty⟩
  · rw [show pricesOf s'.economy = pricesOf s.economy from hkept]
    exact hc
  · rw [hsell]
    exact hc.sell ht hqty

theorem resolve_keeps (actions : List BuyGoodAction) (ordinal : Nat) (tick : Int) :
    Within (KeepsCached window tick) (resolve ctx actions ordinal tick) := by
  have hr : ∀ s, KeepsCached window tick s s := fun s => id
  have ht : ∀ a b c, KeepsCached window tick a b → KeepsCached window tick b c →
      KeepsCached window tick a c := fun a b c h h' hc => h' (h hc)
  unfold resolve
  refine within_foldEff hr ht (fun acc key _ => ?_) _
  refine within_bind ht (kept_economyNow.mono fun s s' h => OneSale.keeps (.inl h)) fun e => ?_
  refine within_foldEff hr ht (fun acc action _ => ?_) _
  refine within_bind ht ?_ fun r => within_pure hr _
  exact (purchase_sells ctx action _ _ tick).mono fun s s' h => h.keeps

/-- What can happen to an economy as far as its prices go, with the present
tick.  The daily expiry comes before the sales of its tick, as in the policy's
step; a window of some ticks may also expire after them. -/
inductive Runs : Int → Sim → Prop
  | start {tick : Int} {s : Sim} : pricesOf s.economy = Prices.empty → Runs tick s
  | tick {tick tick' : Int} {s : Sim} : Runs tick s → tick ≤ tick' → Runs tick' s
  | expire {tick : Int} {s : Sim} : Runs tick s →
      (0 < priceWindowTicks ctx.settings ∨ ∀ row ∈ s.economy.goodsTransactions, row.tick < tick) →
      Runs tick { s with economy := expireSalesWindow ctx tick s.economy }
  | buy {tick : Int} {s s' : Sim} {actions : List BuyGoodAction} {ordinal : Nat}
      {r : Nat × List Event} : Runs tick s → resolve ctx actions ordinal tick s = .ok r s' →
      Runs tick s'
  | other {tick : Int} {s s' : Sim} : Runs tick s → PricesKept s s' → Runs tick s'

theorem runs_cached {tick : Int} {s : Sim} (h : Runs ctx tick s) :
    Cached (priceWindowTicks ctx.settings) tick (pricesOf s.economy) := by
  induction h with
  | start h =>
    rw [h]
    exact Cached.empty _ _
  | tick _ hle ih => exact ih.later hle
  | expire _ hday ih =>
    rw [pricesOf_expire]
    exact ih.expire hday
  | buy _ hbuy ih => exact resolve_keeps ctx _ _ _ _ _ _ hbuy ih
  | other _ hkept ih => exact OneSale.keeps (.inl hkept) ih

/-- **The price cache agrees with the list of transactions** in every run: at
the present tick, for every good of the basket and every window up to that of
the price index. -/
theorem cached_price_agrees {tick : Int} {s : Sim} (h : Runs ctx tick s) {windowTicks : Int}
    (hw : windowTicks ≤ priceWindowTicks ctx.settings) {sku : String}
    (hbasket : ∀ b, s.economy.basket = some b → b.basePricesCents.contains sku = true) :
    transactionPriceCents sku tick windowTicks s.economy
      = transactionPriceCents sku tick windowTicks (withoutPriceCache s.economy) :=
  (runs_cached ctx h).price hw hbasket

/-! ### A loaf and the window after it -/

/-- The shop with its loaf in the basket. -/
def basketBakery : EconomyState :=
  { bakery with
    basket := some ⟨1, Dict.ofList [("bread", 1)], Dict.ofList [("bread", 12)], 0⟩ }

/-- Fund a buyer. -/
def fundBuyer : EngineM Unit := do
  let _ ← onLedger (Ledger.openAccount .iss "bk_cb" "central_bank" none none 0)
  each (fun (code, ownerId, bankId) => do
    let _ ← onLedger (Ledger.openAccount code ownerId "institution" bankId none 0))
    [(.res, "bk_1", none), (.dpl, "bk_1", none),
      (.dep, "ag_a", some "bk_1"), (.dep, "fm_shop", some "bk_1"),
      (.dep, "gv_treasury", some "bk_1")]
  let issued ← emit 0 .moneyIssued []
  let _ ← onLedger (Ledger.issueBaseMoney
    [⟨"iss:bk_cb", -1, 100, "issuance"⟩, ⟨"res:bk_1", 1, 100, "issuance"⟩,
      ⟨"dpl:bk_1", -1, 100, "issuance"⟩, ⟨"dep:ag_a@bk_1", 1, 100, "issuance"⟩] 0 issued)

/-- Buy the loaf. -/
def buyLoaf : EngineM (Nat × List Event) :=
  resolve { agents := ["ag_a"] } [⟨"ag_a", {
    sku := "bread"
    qty := 1
    sellerFirmId := "fm_shop"
    maxUnitPriceCents := 10 }⟩] 0 0

omit [Uuid5] in
theorem cached_price_agrees_bakery :
    letI : Uuid5 := ⟨fun run name => run ++ name⟩
    ∃ s₁ s₂ r, fundBuyer ⟨basketBakery, ⟨"run", []⟩, []⟩ = .ok () s₁ ∧ buyLoaf s₁ = .ok r s₂ ∧
      let e := expireSalesWindow { agents := ["ag_a"] } 720 s₂.economy
      (e.goodsPriceQtyByTick.entries = [] ∧
        transactionPriceCents "bread" 720 720 e = .ok (11, true)) ∧
      transactionPriceCents "bread" 720 720 e
        = transactionPriceCents "bread" 720 720 (withoutPriceCache e) := by
  let _ : Uuid5 := ⟨fun run name => run ++ name⟩
  have hrun : outcome (fundBuyer ⟨basketBakery, ⟨"run", []⟩, []⟩) (fun s₁ =>
      (decide (pricesOf s₁.economy = Prices.empty), outcome (buyLoaf s₁) fun s₂ =>
        let e := expireSalesWindow { agents := ["ag_a"] } 720 s₂.economy
        decide (s₂.economy.basket = basketBakery.basket ∧ e.goodsPriceQtyByTick.entries = [] ∧
          transactionPriceCents "bread" 720 720 e = .ok (11, true))))
      = some (true, some true) := by decide +kernel
  obtain ⟨_, s₁, hs₁, hw⟩ := outcome_eq_some hrun
  obtain ⟨hempty, hbuy⟩ := Prod.mk.inj hw
  obtain ⟨r, s₂, hs₂, hw⟩ := outcome_eq_some hbuy
  obtain ⟨hbasket, hleft⟩ := of_decide_eq_true hw
  have hstart : Runs { agents := ["ag_a"] } 0 s₁ := .start (of_decide_eq_true hempty)
  have hexpired := Runs.expire ((hstart.buy hs₂).tick (by decide : (0 : Int) ≤ 720))
    (.inl (by decide))
  refine ⟨s₁, s₂, r, hs₁, hs₂, hleft, ?_⟩
  refine cached_price_agrees _ hexpired (by decide) fun b hb => ?_
  have hb' : s₂.economy.basket = some b := hb
  rw [hbasket] at hb'
  obtain rfl := Option.some.inj hb'
  decide

end Polis.Economy.Goods
