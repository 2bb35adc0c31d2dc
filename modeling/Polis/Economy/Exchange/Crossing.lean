/-
  Polis.Economy.Exchange.Crossing — no crossed book after a call auction
  (`_match_call` of `economy/exchange/engine.py`, the crossed-book check of
  `EconomyWorldState.order_invariant_failures`).

  An order the auction did not fill to its end would have added volume at every
  price it trades at.  So a buy and a sell that are left over cannot trade at
  one price, unless the auction passed an order over because it met its own
  trader: the clean-up afterwards looks at pairs of one trader only.

  Main results:
    * `auction_uncrossed` — what the auction leaves is not crossed.
    * `settleFills_rows` — what settling its fills leaves of the rows.
    * `match_call_uncrossed` — the whole call.
-/
import Polis.Economy.Exchange.Priority
import Polis.Economy.Exchange.SelfTrades
import Mathlib.Data.List.TakeWhile

namespace Polis.Economy

open Lib Lib.PairOff

/-! ## Sides -/

/-- The sign of a side: a buyer takes lower prices, a seller higher ones. -/
def OrderSide.sign : OrderSide → Int
  | .buy => 1
  | .sell => -1

/-- An order of a side that trades at a price. -/
def tradesAt : OrderSide → Int → OrderState → Bool
  | .buy => bidsAt
  | .sell => asksAt

/-- The sort key of a side. -/
def priorityOf : OrderSide → OrderState → Int ×ₗ Nat ×ₗ String
  | .buy => bidPriority
  | .sell => askPriority

/-- What the orders of a side want at a price. -/
def volumeAt (orders : List OrderState) (side : OrderSide) (price : Int) : Int :=
  ((orders.filter (tradesAt side price)).map OrderState.remainingQty).sum

/-- An active limit order with its price. -/
structure LimitAt (o : OrderState) (limit : Int) : Prop where
  active : o.status.active = true
  orderType : o.orderType = .limit
  price : o.limitPriceCents = some limit

theorem tradesAt_iff {o : OrderState} {limit : Int} (h : LimitAt o limit) (side : OrderSide)
    (price : Int) : tradesAt side price o = true ↔
      o.side = side ∧ side.sign * price ≤ side.sign * limit := by
  have htype := h.orderType
  have hprice := h.price
  have hactive := h.active
  cases side with
  | buy =>
    show bidsAt price o = true ↔ _
    rw [bidsAt_iff]
    simp [htype, hprice, hactive, OrderSide.sign]
  | sell =>
    show asksAt price o = true ↔ _
    rw [asksAt_iff]
    simp [htype, hprice, hactive, OrderSide.sign]

theorem priorityOf_fst {o : OrderState} {limit : Int} (h : LimitAt o limit) (side : OrderSide) :
    (ofLex (priorityOf side o)).1 = -(side.sign * limit) := by
  have hprice := h.price
  cases side with
  | buy => simp [priorityOf, bidPriority, hprice, OrderSide.sign]
  | sell => simp [priorityOf, askPriority, hprice, OrderSide.sign]

theorem executable_eq (orders : List OrderState) (side : OrderSide) (price : Int) :
    executable orders price = min (volumeAt orders side price) (volumeAt orders side.other price) := by
  cases side with
  | buy => rfl
  | sell => exact min_comm _ _

theorem sideQueue_eq (orders : List OrderState) (price : Int) (side : OrderSide) :
    sideQueue orders price side =
      sortedBy (priorityOf side) (orders.filter (tradesAt side price)) := by
  cases side with
  | buy => rfl
  | sell => rfl

theorem held_sideQueue (orders : List OrderState) (price : Int) (side : OrderSide) :
    held (queue (sideQueue orders price side)) = volumeAt orders side price := by
  cases side with
  | buy => exact held_bidsOf
  | sell => exact held_asksOf

/-! ## What is left over -/

section Left

variable {orders : List OrderState} {prevClose price volume : Int}

theorem held_le_volumeAt (hstocked : Stocked orders) {side : OrderSide} {os : List OrderState}
    (hnd : Distinct os) (hos : ∀ o ∈ os, o ∈ orders ∧ tradesAt side price o = true) :
    held (queue os) ≤ volumeAt orders side price := by
  have hsub : os ⊆ orders.filter (tradesAt side price) := fun o ho => List.mem_filter.mpr (hos o ho)
  obtain ⟨os', hperm, hsublist⟩ := List.subperm_of_subset hnd.of_map hsub
  rw [held_queue, ← (hperm.map OrderState.remainingQty).sum_eq]
  apply (hsublist.map OrderState.remainingQty).sum_le_sum
  intro n hn
  obtain ⟨o, ho, rfl⟩ := List.mem_map.mp hn
  obtain ⟨hmem, hat⟩ := List.mem_filter.mp ho
  have hactive : o.status.active = true := by
    cases side with
    | buy => exact (bidsAt_iff.mp hat).1
    | sell => exact (asksAt_iff.mp hat).1
  exact (hstocked o hmem hactive).le

theorem total_tradesFrom (side : OrderSide) :
    total (tradesFrom orders price volume side) = total (auctionTrades orders price volume) := by
  rw [← total_fills price (auctionTrades orders price volume), ← tradesFrom_eq side,
    List.map_map]
  cases side with
  | buy => rfl
  | sell => rfl

theorem front_better {side : OrderSide} {o d : OrderState} {limit limit' : Int}
    (hids : Distinct orders) (ho : o ∈ sideQueue orders price side) (hl : LimitAt o limit)
    (hd : d ∈ inFront (sideQueue orders price side) o.orderId) (hl' : LimitAt d limit') :
    side.sign * limit ≤ side.sign * limit' := by
  obtain ⟨back, hsplit⟩ := split_queue (hids.side price side) ho
  have hsorted := List.pairwise_insertionSort
    (fun a b : OrderState => priorityOf side a ≤ priorityOf side b)
    (orders.filter (tradesAt side price))
  have hpair : (sideQueue orders price side).Pairwise fun a b =>
      priorityOf side a ≤ priorityOf side b := by
    rw [sideQueue_eq]
    exact hsorted
  rw [hsplit, List.pairwise_append] at hpair
  have hle := hpair.2.2 d hd o List.mem_cons_self
  have hfst := (Prod.Lex.le_iff.mp hle)
  rw [priorityOf_fst hl, priorityOf_fst hl'] at hfst
  omega

theorem volume_lt_front (hids : Distinct orders) (hstocked : Stocked orders)
    (hself : MeetsNoSelf orders price volume) (hvolume : volume = executable orders price)
    (hpos : 0 ≤ volume) {o : OrderState} (ho : o ∈ sideQueue orders price o.side)
    (hleft : filledOf o.orderId ((auctionTrades orders price volume).map (fillOf price))
      < o.remainingQty) :
    volume < held (queue (inFront (sideQueue orders price o.side) o.orderId)) + o.remainingQty := by
  obtain ⟨back, hsplit⟩ := split_queue (hids.side price o.side) ho
  have hqueue : queue (sideQueue orders price o.side) =
      queue (inFront (sideQueue orders price o.side) o.orderId)
        ++ (o, o.remainingQty) :: queue back := by
    rw [← queue_cons, ← queue_append, ← hsplit]
  have hstk := hstocked.side price o.side
  have hsmooth := hself.from o.side
  have htaken : taken (hasId o.orderId) (tradesFrom orders price volume o.side)
      < o.remainingQty := by
    rw [← tradesFrom_eq o.side, filledOf_from hids (fun f hf => hf) (mem_sideQueue ho).1 rfl]
      at hleft
    exact hleft
  have hnone : ∀ e ∈ queue (inFront (sideQueue orders price o.side) o.orderId),
      hasId o.orderId e.1 = false := by
    intro e he
    obtain ⟨d, hd, rfl⟩ := List.mem_map.mp he
    have hne := List.mem_takeWhile_imp hd
    simpa [hasId] using hne
  have htotal : total (tradesFrom orders price volume o.side) = volume := by
    rw [total_tradesFrom]
    exact total_auctionTrades hstocked hpos hvolume.le hself
  unfold tradesFrom at htaken htotal
  rw [hqueue] at hstk hsmooth htaken htotal
  have hle := total_le_front hstk (hstocked.side price o.side.other)
    (show hasId o.orderId o = true by simp [hasId]) hnone hsmooth htaken
  omega

theorem volume_lt_of_left (hids : Distinct orders) (hstocked : Stocked orders)
    (hlimit : ∀ o ∈ orders, ∃ limit, LimitAt o limit)
    (hself : MeetsNoSelf orders price volume) (hvolume : volume = executable orders price)
    (hpos : 0 ≤ volume) {o : OrderState} (ho : o ∈ orders)
    (hleft : filledOf o.orderId ((auctionTrades orders price volume).map (fillOf price))
      < o.remainingQty) {q : Int} (hq : tradesAt o.side q o = true) :
    volume < volumeAt orders o.side q := by
  obtain ⟨limit, hl⟩ := hlimit o ho
  have hbetter := ((tradesAt_iff hl _ _).mp hq).2
  -- better orders trade wherever it trades
  have htrade : ∀ d ∈ sideQueue orders price o.side, ∀ limit', LimitAt d limit' →
      o.side.sign * limit ≤ o.side.sign * limit' → d ∈ orders ∧ tradesAt o.side q d = true := by
    intro d hd limit' hl' hle
    obtain ⟨hmem, hside, -⟩ := mem_sideQueue hd
    exact ⟨hmem, (tradesAt_iff hl' _ _).mpr ⟨hside, by omega⟩⟩
  have hself' : o ∈ orders ∧ tradesAt o.side q o = true := ⟨ho, hq⟩
  by_cases hin : o ∈ sideQueue orders price o.side
  · have hlt := volume_lt_front hids hstocked hself hvolume hpos hin hleft
    obtain ⟨back, hsplit⟩ := split_queue (hids.side price o.side) hin
    have hsum : held (queue (inFront (sideQueue orders price o.side) o.orderId ++ [o])) ≤
        volumeAt orders o.side q := by
      apply held_le_volumeAt hstocked
      · have hall := hids.side price o.side
        rw [hsplit] at hall
        apply hall.sublist
        exact (List.Sublist.refl _).append (List.singleton_sublist.mpr List.mem_cons_self)
      · intro d hd
        cases List.mem_append.mp hd with
        | inl hd =>
          have hdq := (List.takeWhile_sublist _).subset hd
          obtain ⟨limit', hl'⟩ := hlimit d (mem_sideQueue hdq).1
          exact htrade d hdq limit' hl' (front_better hids hin hl hd hl')
        | inr hd => exact List.mem_singleton.mp hd ▸ hself'
    simp only [queue_append, held_append, queue_cons, held_cons] at hsum
    have hnil : held (queue []) = 0 := rfl
    omega
  · -- it does not trade at the clearing price, so everything that does is better
    have hnot : ¬tradesAt o.side price o = true := by
      intro hat
      apply hin
      rw [sideQueue_eq, mem_sortedBy]
      exact List.mem_filter.mpr ⟨ho, hat⟩
    rw [tradesAt_iff hl] at hnot
    have hprice : o.side.sign * limit < o.side.sign * price := by
      simpa using hnot
    have hle : volume ≤ volumeAt orders o.side price := by
      rw [hvolume, executable_eq orders o.side]
      exact min_le_left _ _
    have hsum : held (queue (sideQueue orders price o.side ++ [o])) ≤
        volumeAt orders o.side q := by
      apply held_le_volumeAt hstocked
      · unfold Distinct
        rw [List.map_append, List.nodup_append]
        refine ⟨hids.side price o.side, by simp, ?_⟩
        intro id hid id' hid' heq
        obtain ⟨d, hd, rfl⟩ := List.mem_map.mp hid
        rw [List.map_singleton, List.mem_singleton] at hid'
        rw [hid'] at heq
        exact hin (hids.eq_of_id (mem_sideQueue hd).1 ho heq ▸ hd)
      · intro d hd
        cases List.mem_append.mp hd with
        | inl hd =>
          obtain ⟨limit', hl'⟩ := hlimit d (mem_sideQueue hd).1
          rw [sideQueue_eq, mem_sortedBy] at hd
          have hat := ((tradesAt_iff hl' _ _).mp (List.mem_filter.mp hd).2).2
          refine htrade d ?_ limit' hl' (by omega)
          rw [sideQueue_eq, mem_sortedBy]
          exact hd
        | inr hd => exact List.mem_singleton.mp hd ▸ hself'
    have hrem := hstocked o ho hl.active
    simp only [queue_append, held_append, queue_cons, held_cons, held_sideQueue] at hsum
    have hnil : held (queue []) = 0 := rfl
    omega

theorem auction_uncrossed (hids : Distinct orders) (hstocked : Stocked orders)
    (hlimit : ∀ o ∈ orders, ∃ limit, LimitAt o limit) (hself : AuctionMeetsNoSelf orders prevClose)
    {bid ask : OrderState} (hb : bid ∈ orders) (ha : ask ∈ orders) (hbs : bid.side = .buy)
    (has : ask.side = .sell) {lb la : Int} (hlb : LimitAt bid lb) (hla : LimitAt ask la)
    (hbl : filledOf bid.orderId (callAuction orders prevClose) < bid.remainingQty)
    (hal : filledOf ask.orderId (callAuction orders prevClose) < ask.remainingQty) : lb < la := by
  by_contra hcross
  -- both trade at the price of the ask
  have hbt : tradesAt .buy la bid = true := by
    rw [tradesAt_iff hlb]
    refine ⟨hbs, ?_⟩
    simp only [OrderSide.sign]
    omega
  have hat : tradesAt .sell la ask = true := (tradesAt_iff hla _ _).mpr ⟨has, le_rfl⟩
  have hboth : ∀ volume, volume < volumeAt orders .buy la → volume < volumeAt orders .sell la →
      volume < executable orders la := by
    intro volume h₁ h₂
    rw [executable_eq orders .buy]
    exact lt_min h₁ h₂
  cases hu : uncross orders prevClose with
  | none =>
    have hnone := uncross_eq_none hu (mem_limitPrices.mpr ⟨ask, ha, hla.active, hla.orderType,
      hla.price⟩)
    have hpos : ∀ side o, o ∈ orders → tradesAt side la o = true → LimitAt o la ∨ LimitAt o lb →
        0 < volumeAt orders side la := by
      intro side o ho hat hl
      have hactive : o.status.active = true := hl.elim (·.active) (·.active)
      have hone : held (queue [o]) ≤ volumeAt orders side la := by
        apply held_le_volumeAt hstocked (show Distinct [o] by simp [Distinct])
        intro d hd
        exact List.mem_singleton.mp hd ▸ ⟨ho, hat⟩
      have hrem := hstocked o ho hactive
      simp only [queue, List.map_cons, List.map_nil, held_cons, held_nil] at hone
      omega
    have hlt := hboth 0 (hpos .buy bid hb hbt (.inr hlb)) (hpos .sell ask ha hat (.inl hla))
    omega
  | some pv =>
    obtain ⟨price, volume⟩ := pv
    obtain ⟨-, hvolume, hpos, -⟩ := uncross_eq_some hu
    have hmax := executable_le hstocked hu la
    rw [callAuction_eq hids hu] at hbl hal
    have hself' := hself _ _ hu
    have h₁ := volume_lt_of_left hids hstocked hlimit hself' hvolume hpos.le hb hbl (q := la)
      (by rw [hbs]; exact hbt)
    have h₂ := volume_lt_of_left hids hstocked hlimit hself' hvolume hpos.le ha hal (q := la)
      (by rw [has]; exact hat)
    rw [hbs] at h₁
    rw [has] at h₂
    have hlt := hboth volume h₁ h₂
    omega

theorem callAuction_fill (hids : Distinct orders) {f : Fill} (hf : f ∈ callAuction orders prevClose) :
    0 < f.qty ∧ f.priceCents ∈ limitPrices orders ∧ ∃ bid ∈ orders, ∃ ask ∈ orders,
      f.buyOrderId = bid.orderId ∧ f.sellOrderId = ask.orderId ∧ bid.traderId ≠ ask.traderId := by
  cases hu : uncross orders prevClose with
  | none =>
    unfold callAuction at hf
    rw [hu] at hf
    cases hf
  | some pv =>
    rw [callAuction_eq hids hu] at hf
    obtain ⟨g, hg, rfl⟩ := List.mem_map.mp hf
    obtain ⟨hb, ha, hq, hne⟩ := mem_auctionTrades hg
    exact ⟨hq, (uncross_eq_some hu).1, g.1, (mem_bidsOf.mp hb).1, g.2.1, (mem_asksOf.mp ha).1, rfl,
      rfl, hne⟩

theorem filledOf_callAuction_le (hids : Distinct orders) (hstocked : Stocked orders)
    {o : OrderState} (ho : o ∈ orders) (hactive : o.status.active = true) :
    filledOf o.orderId (callAuction orders prevClose) ≤ o.remainingQty := by
  cases hu : uncross orders prevClose with
  | none =>
    have hpos := hstocked o ho hactive
    unfold callAuction
    rw [hu]
    show filledOf o.orderId [] ≤ o.remainingQty
    rw [filledOf_nil]
    omega
  | some pv =>
    rw [callAuction_eq hids hu]
    exact filledOf_le hids hstocked ho hactive

end Left

namespace Exchange

open Lib.Effect Sim

/-! ## Settling the fills -/

section Settling

variable [Uuid5] {ctx : Ctx} {s s' : Sim} {tick : Int}

/-- The row `n` filled shares leave. -/
structure FilledBy (o o' : OrderState) (n : Int) : Prop where
  orderId : o'.orderId = o.orderId
  traderId : o'.traderId = o.traderId
  symbol : o'.symbol = o.symbol
  side : o'.side = o.side
  orderType : o'.orderType = o.orderType
  limit : o'.limitPriceCents = o.limitPriceCents
  remaining : o'.remainingQty = o.remainingQty - n
  nonneg : 0 ≤ n
  active : o'.status.active = true → 0 < n ∧ 0 < o'.remainingQty ∨ n = 0 ∧ o' = o

omit [Uuid5] in
theorem FilledBy.refl (o : OrderState) : FilledBy o o 0 :=
  ⟨rfl, rfl, rfl, rfl, rfl, rfl, by omega, by omega, fun _ => .inr ⟨rfl, rfl⟩⟩

/-- The fills can be settled in full: they join orders of two traders, inside
the band, and fill no order beyond its remainder. -/
structure Settleable (cfg : ExchangeSettings) (symbol : String) (x : ExchangeState)
    (fills : List Fill) : Prop where
  band : ∀ security, x.securities.get? symbol = some security → ∀ f ∈ fills,
    inBand cfg security f.priceCents = true
  pos : ∀ f ∈ fills, 0 < f.qty
  others : ∀ f ∈ fills, ∀ buy sell, x.orders.get? f.buyOrderId = some buy →
    x.orders.get? f.sellOrderId = some sell → buy.traderId ≠ sell.traderId
  room : ∀ f ∈ fills, ∀ k o, f.of k → x.orders.get? k = some o → filledOf k fills ≤ o.remainingQty

omit [Uuid5] in
theorem FilledBy.trans {o o₁ o' : OrderState} {n m : Int} (h : FilledBy o o₁ n)
    (h' : FilledBy o₁ o' m) : FilledBy o o' (n + m) where
  orderId := h'.orderId.trans h.orderId
  traderId := h'.traderId.trans h.traderId
  symbol := h'.symbol.trans h.symbol
  side := h'.side.trans h.side
  orderType := h'.orderType.trans h.orderType
  limit := h'.limit.trans h.limit
  remaining := by rw [h'.remaining, h.remaining]; omega
  nonneg := add_nonneg h.nonneg h'.nonneg
  active := by
    intro hactive
    have hn := h.nonneg
    cases h'.active hactive with
    | inl hpos => exact .inl ⟨by omega, hpos.2⟩
    | inr hsame =>
      obtain ⟨rfl, rfl⟩ := hsame
      cases h.active hactive with
      | inl hpos => exact .inl ⟨by omega, hpos.2⟩
      | inr hsame => exact .inr ⟨by omega, hsame.2⟩

omit [Uuid5] in
theorem Settled.filledBy {cfg : ExchangeSettings} {fill : Fill} {buy sell : OrderState}
    {security : SecurityState} {t : Settlement}
    (h : Settled cfg fill tick buy sell security t s s') (hqty : t.qty = fill.qty) {k : String}
    {o' : OrderState} (ho' : s'.exch.orders.get? k = some o') :
    ∃ o, s.exch.orders.get? k = some o ∧ FilledBy o o' (filledOf k [fill]) := by
  have hle : t.qty ≤ buy.remainingQty ∧ t.qty ≤ sell.remainingQty := by
    have hamount : t.qty = min fill.qty (min buy.remainingQty sell.remainingQty) := by
      rw [h.amounts]
      rfl
    omega
  rw [h.order_at] at ho'
  have hpos := h.qty_pos
  rw [filledOf_cons, filledOf_nil, add_zero, ← hqty]
  split_ifs at ho' with hb hs
  · cases ho'
    rw [if_pos (.inl hb.symm)]
    refine ⟨buy, hb ▸ h.buy_at, ⟨rfl, rfl, rfl, rfl, rfl, rfl, rfl, hpos.le, ?_⟩⟩
    · intro hactive
      refine .inl ⟨hpos, ?_⟩
      -- a row that is filled to its end is closed
      show 0 < buy.remainingQty - t.qty
      by_contra hz
      have hzero : buy.remainingQty - t.qty = 0 := by omega
      simp [buyAfter, closeFill, fillBuy, hzero, OrderStatus.active] at hactive
  · cases ho'
    rw [if_pos (.inr hs.symm)]
    refine ⟨sell, hs ▸ h.sell_at, ⟨rfl, rfl, rfl, rfl, rfl, rfl, rfl, hpos.le, ?_⟩⟩
    · intro hactive
      refine .inl ⟨hpos, ?_⟩
      show 0 < sell.remainingQty - t.qty
      by_contra hz
      have hzero : sell.remainingQty - t.qty = 0 := by omega
      simp [sellAfter, closeFill, fillSell, hzero, OrderStatus.active] at hactive
  · refine ⟨o', ho', ?_⟩
    rw [if_neg]
    · exact .refl o'
    · rintro (heq | heq)
      · exact hb heq.symm
      · exact hs heq.symm

omit [Uuid5] in
theorem filledOf_append (k : String) (fills fills' : List Fill) :
    filledOf k (fills ++ fills') = filledOf k fills + filledOf k fills' := by
  simp [filledOf]

omit [Uuid5] in
theorem filledOf_nonneg {k : String} {fills : List Fill} (h : ∀ f ∈ fills, 0 < f.qty) :
    0 ≤ filledOf k fills := by
  induction fills with
  | nil => simp
  | cons f fills ih =>
    have hf := h f List.mem_cons_self
    have hrest := ih fun g hg => h g (List.mem_cons_of_mem _ hg)
    rw [filledOf_cons]
    split_ifs <;> omega

omit [Uuid5] in
theorem Settleable.settled {cfg : ExchangeSettings} {symbol : String} {fill : Fill}
    {fills : List Fill} {buy sell : OrderState} {security : SecurityState} {t : Settlement}
    (hok : Settleable cfg symbol s.exch (fill :: fills))
    (h : Settled cfg fill tick buy sell security t s s') (hqty : t.qty = fill.qty) :
    Settleable cfg symbol s'.exch fills where
  band := by
    intro r hr f hf
    rw [h.securities_eq, Dict.get?_modify] at hr
    -- the last price is not what the band is built on
    have hband : ∃ r₀, s.exch.securities.get? symbol = some r₀ ∧
        inBand cfg r f.priceCents = inBand cfg r₀ f.priceCents := by
      split_ifs at hr with hsym
      · obtain ⟨r₀, hr₀, rfl⟩ := Option.map_eq_some_iff.mp hr
        exact ⟨r₀, hsym.symm ▸ hr₀, rfl⟩
      · exact ⟨r, hr, rfl⟩
    obtain ⟨r₀, hr₀, heq⟩ := hband
    rw [heq]
    exact hok.band r₀ hr₀ f (List.mem_cons_of_mem _ hf)
  pos f hf := hok.pos f (List.mem_cons_of_mem _ hf)
  others := by
    intro f hf b a hb ha
    obtain ⟨b₀, hb₀, hfb⟩ := h.filledBy hqty hb
    obtain ⟨a₀, ha₀, hfa⟩ := h.filledBy hqty ha
    rw [hfb.traderId, hfa.traderId]
    exact hok.others f (List.mem_cons_of_mem _ hf) b₀ a₀ hb₀ ha₀
  room := by
    intro f hf k o hof ho
    obtain ⟨o₀, ho₀, hfill⟩ := h.filledBy hqty ho
    have hroom := hok.room f (List.mem_cons_of_mem _ hf) k o₀ hof ho₀
    have hrem := hfill.remaining
    rw [← List.singleton_append, filledOf_append] at hroom
    omega

theorem settleFills_rows {symbol : String} {fills : List Fill} {events : List Event}
    (hok : Settleable ctx.settings.exchange symbol s.exch fills)
    (h : settleFills ctx symbol tick (fun _ => false) fills s = .ok events s') {k : String}
    {o' : OrderState} (ho' : s'.exch.orders.get? k = some o') :
    ∃ o, s.exch.orders.get? k = some o ∧ FilledBy o o' (filledOf k fills) := by
  induction fills generalizing s events with
  | nil =>
    obtain ⟨-, rfl⟩ := pure_eq_ok.mp h
    exact ⟨o', ho', .refl o'⟩
  | cons fill fills ih =>
    unfold settleFills at h
    obtain ⟨security, _, h₁, h⟩ := bind_eq_ok.mp h
    obtain ⟨hsec, rfl⟩ := securityAt_eq_ok.mp h₁
    have hband := hok.band security hsec fill List.mem_cons_self
    rcases ite_eq_ok.mp h with ⟨hout, -⟩ | ⟨-, h⟩
    · exact absurd hband hout
    obtain ⟨settled, s₁, h₁, h⟩ := bind_eq_ok.mp h
    obtain ⟨_, _, h₂, h⟩ := bind_eq_ok.mp h
    obtain ⟨rfl, rfl⟩ := exchangeNow_eq_ok.mp h₂
    rcases ite_eq_ok.mp h with ⟨hstop, -⟩ | ⟨-, h⟩
    · exact absurd hstop (by simp)
    obtain ⟨rest, _, h₂, h⟩ := bind_eq_ok.mp h
    obtain ⟨-, rfl⟩ := pure_eq_ok.mp h
    -- the first fill settles in full
    obtain ⟨buy, sell, hb, hs, hcase⟩ := settle_cases h₁
    have hpos := hok.pos fill List.mem_cons_self
    have hne := hok.others fill List.mem_cons_self buy sell hb hs
    have hrest : ∀ id, 0 ≤ filledOf id fills := fun id =>
      filledOf_nonneg fun f hf => hok.pos f (List.mem_cons_of_mem _ hf)
    have hbuy : fill.qty ≤ buy.remainingQty := by
      have hroom := hok.room fill List.mem_cons_self _ buy (.inl rfl) hb
      have hnn := hrest fill.buyOrderId
      rw [filledOf_cons, if_pos (.inl rfl)] at hroom
      omega
    have hsell : fill.qty ≤ sell.remainingQty := by
      have hroom := hok.room fill List.mem_cons_self _ sell (.inr rfl) hs
      have hnn := hrest fill.sellOrderId
      rw [filledOf_cons, if_pos (.inr rfl)] at hroom
      omega
    rcases hcase with ⟨hidle, -⟩ | ⟨security', t, hset⟩
    · cases hidle with
      | inl hz => omega
      | inr hsame => exact absurd hsame hne
    · have hqty : t.qty = fill.qty := by
        rw [hset.amounts]
        show min fill.qty (min buy.remainingQty sell.remainingQty) = fill.qty
        omega
      obtain ⟨o₁, ho₁, hlast⟩ := ih (hok.settled hset hqty) h₂
      obtain ⟨o, ho, hfirst⟩ := hset.filledBy hqty ho₁
      refine ⟨o, ho, ?_⟩
      rw [← List.singleton_append, filledOf_append]
      exact hfirst.trans hlast

end Settling

/-! ## Cancelling -/

section Thinning

variable [Uuid5] {ctx : Ctx}

/-- The active orders afterwards stood like that before. -/
def Thins (s s' : Sim) : Prop :=
  ∀ k o, s'.exch.orders.get? k = some o → o.status.active = true →
    s.exch.orders.get? k = some o

omit [Uuid5] in
theorem Thins.refl (s : Sim) : Thins s s := fun _ _ h _ => h

omit [Uuid5] in
theorem Thins.trans {s₁ s₂ s₃ : Sim} (h : Thins s₁ s₂) (h' : Thins s₂ s₃) : Thins s₁ s₃ :=
  fun k o ho hactive => h k o (h' k o ho hactive) hactive

omit [Uuid5] in
theorem Thins.of_orders {s s' : Sim} (h : s'.exch.orders = s.exch.orders) : Thins s s' := by
  intro k o ho _
  rw [← h]
  exact ho

theorem cancel_thins (orderId : String) (tick : Int) (initiator : String) (expired : Bool) :
    Within Thins (cancel orderId tick initiator expired) := by
  intro s events s' h
  rcases cancel_eq_ok h with rfl | ⟨order, hcan⟩
  · exact .refl _
  · intro k o ho hactive
    rw [hcan.order_get] at ho
    split_ifs at ho with hk
    · -- the cancelled row is not active
      cases ho
      cases expired
      · simp [cancelledRow, OrderStatus.active] at hactive
      · simp [cancelledRow, OrderStatus.active] at hactive
    · exact ho

omit [Uuid5] in
theorem quiet_thins {α : Type} {x : EngineM α} (h : Within Quiet x) : Within Thins x :=
  h.mono fun _ _ hq => .of_orders hq.orders_eq

theorem cancelSelfCrosses_thins (symbol : String) (tick : Int) (rounds : Nat) :
    Within Thins (cancelSelfCrosses symbol tick rounds) := by
  induction rounds with
  | zero => exact within_pure .refl _
  | succ rounds ih =>
    refine within_bind (fun _ _ _ => .trans) (quiet_thins exchangeNow_quiet) fun x => ?_
    split
    · exact within_pure .refl _
    · refine within_bind (fun _ _ _ => .trans) (cancel_thins _ _ _ _) fun _ => ?_
      exact within_bind (fun _ _ _ => .trans) ih fun _ => within_pure .refl _

end Thinning

/-! ## The whole call -/

section Call

variable [Uuid5] {ctx : Ctx} {s s' : Sim} {tick : Int}

/-- The active orders of a symbol. -/
def activeOrders (x : ExchangeState) (symbol : String) : List OrderState :=
  x.orders.values.filter fun o => o.symbol = symbol && o.status.active

omit [Uuid5] in
theorem mem_activeOrders {x : ExchangeState} (hk : Keyed x) {symbol : String} {o : OrderState} :
    o ∈ activeOrders x symbol ↔ x.orders.get? o.orderId = some o ∧ o.symbol = symbol ∧
      o.status.active = true := by
  unfold activeOrders
  rw [List.mem_filter, Dict.mem_values_iff]
  simp only [Bool.and_eq_true, decide_eq_true_eq]
  constructor
  · rintro ⟨⟨k, hget⟩, hsym, hactive⟩
    exact ⟨(hk k o hget).symm ▸ hget, hsym, hactive⟩
  · rintro ⟨hget, hsym, hactive⟩
    exact ⟨⟨_, hget⟩, hsym, hactive⟩

/-- The active orders of a symbol are limit orders inside the band. -/
def LimitBook (cfg : ExchangeSettings) (x : ExchangeState) (symbol : String)
    (security : SecurityState) : Prop :=
  ∀ o ∈ activeOrders x symbol, 0 < o.remainingQty ∧
    ∃ limit, LimitAt o limit ∧ inBand cfg security limit = true

/-- No crossed book. -/
def Uncrossed (x : ExchangeState) (symbol : String) : Prop :=
  ∀ bid ∈ activeOrders x symbol, ∀ ask ∈ activeOrders x symbol, bid.side = .buy →
    ask.side = .sell → ∀ lb la, LimitAt bid lb → LimitAt ask la → lb < la

omit [Uuid5] in
theorem distinct_activeOrders {x : ExchangeState} (hk : Keyed x) (symbol : String) :
    Distinct (activeOrders x symbol) := by
  have hall : Distinct x.orders.values := by
    unfold Distinct Dict.values
    rw [List.map_map]
    have hkeys : x.orders.entries.map (OrderState.orderId ∘ Prod.snd)
        = x.orders.entries.map Prod.fst := by
      apply List.map_congr_left
      intro e he
      exact hk e.1 e.2 (Dict.mem_entries_iff.mp he)
    rw [hkeys]
    exact x.orders.nodup
  exact hall.sublist List.filter_sublist

omit [Uuid5] in
theorem of_filledOf_pos {k : String} {fills : List Fill} (h : 0 < filledOf k fills) :
    ∃ f ∈ fills, f.of k := by
  by_contra hno
  push Not at hno
  have hzero : filledOf k fills = 0 := by
    unfold filledOf
    apply List.sum_eq_zero
    intro n hn
    obtain ⟨f, hf, rfl⟩ := List.mem_map.mp hn
    exact if_neg (hno f hf)
  omega

omit [Uuid5] in
theorem auction_settleable {cfg : ExchangeSettings} {x : ExchangeState} {symbol : String}
    {security : SecurityState} (hk : Keyed x) (hsec : x.securities.get? symbol = some security)
    (hbook : LimitBook cfg x symbol security) (prevClose : Int) :
    Settleable cfg symbol x (callAuction (activeOrders x symbol) prevClose) := by
  have hids := distinct_activeOrders hk symbol
  have hstocked : Stocked (activeOrders x symbol) := fun o ho _ => (hbook o ho).1
  have hrow : ∀ o ∈ activeOrders x symbol, x.orders.get? o.orderId = some o :=
    fun o ho => ((mem_activeOrders hk).mp ho).1
  refine ⟨?_, fun f hf => (callAuction_fill hids hf).1, ?_, ?_⟩
  · -- the clearing price is a limit price of the book
    intro r hr f hf
    rw [hsec] at hr
    cases hr
    obtain ⟨-, hprice, -⟩ := callAuction_fill hids hf
    obtain ⟨o, ho, -, -, hlp⟩ := mem_limitPrices.mp hprice
    obtain ⟨limit, hl, hband⟩ := (hbook o ho).2
    rw [hl.price] at hlp
    cases hlp
    exact hband
  · intro f hf buy sell hb hs
    obtain ⟨-, -, bid, hbid, ask, hask, hbi, hai, hne⟩ := callAuction_fill hids hf
    rw [hbi, hrow bid hbid] at hb
    rw [hai, hrow ask hask] at hs
    cases hb
    cases hs
    exact hne
  · intro f hf k o hof ho
    obtain ⟨d, hd, hid⟩ : ∃ d ∈ activeOrders x symbol, d.orderId = k := by
      obtain ⟨-, -, bid, hbid, ask, hask, hbi, hai, -⟩ := callAuction_fill hids hf
      cases hof with
      | inl hb => exact ⟨bid, hbid, hbi.symm.trans hb⟩
      | inr hs => exact ⟨ask, hask, hai.symm.trans hs⟩
    subst hid
    rw [hrow d hd] at ho
    cases ho
    exact filledOf_callAuction_le hids hstocked hd ((mem_activeOrders hk).mp hd).2.2

theorem matchCall_eq_ok {symbol : String} {security : SecurityState} {events : List Event}
    (hsec : s.exch.securities.get? symbol = some security) (hlisted : security.status = .listed)
    (h : matchCall ctx symbol tick s = .ok events s') : ∃ settled s₁,
      settleFills ctx symbol tick (fun _ => false)
        (callAuction (activeOrders s.exch symbol) security.referencePriceCents) s
          = .ok settled s₁ ∧ Thins s₁ s' := by
  unfold matchCall at h
  obtain ⟨_, _, h₁, h⟩ := bind_eq_ok.mp h
  obtain ⟨hsec', rfl⟩ := securityAt_eq_ok.mp h₁
  rw [hsec] at hsec'
  cases hsec'
  rcases ite_eq_ok.mp h with ⟨hnot, -⟩ | ⟨-, h⟩
  · exact absurd hlisted hnot
  obtain ⟨_, _, h₁, h⟩ := bind_eq_ok.mp h
  obtain ⟨rfl, rfl⟩ := exchangeNow_eq_ok.mp h₁
  obtain ⟨settled, s₁, hset, h⟩ := bind_eq_ok.mp h
  refine ⟨settled, s₁, hset, ?_⟩
  obtain ⟨_, _, h₁, h⟩ := bind_eq_ok.mp h
  obtain ⟨rfl, rfl⟩ := exchangeNow_eq_ok.mp h₁
  obtain ⟨crossed, s₂, hcross, h⟩ := bind_eq_ok.mp h
  obtain ⟨_, _, h₁, h⟩ := bind_eq_ok.mp h
  obtain ⟨rfl, rfl⟩ := exchangeNow_eq_ok.mp h₁
  obtain ⟨unfilled, s₃, hunfilled, h⟩ := bind_eq_ok.mp h
  obtain ⟨snapshot, s₄, hsnap, h⟩ := bind_eq_ok.mp h
  obtain ⟨-, rfl⟩ := pure_eq_ok.mp h
  have hmarket : Thins s₂ s₃ := by
    refine within_gather .refl (fun _ _ _ => .trans) (fun id _ => ?_) _ _ _ hunfilled
    refine within_bind (fun _ _ _ => .trans) (quiet_thins ?_) fun o => ?_
    · intro s₀ o s₂ h₂
      obtain ⟨-, rfl⟩ := orderAt_eq_ok.mp h₂
      exact .refl _
    · exact within_ite (cancel_thins _ _ _ _) (within_pure .refl _)
  have hself := cancelSelfCrosses_thins symbol tick _ _ _ _ hcross
  have hlast : Thins s₃ s₄ := .of_orders (bookSnapshot_quiet symbol tick _ _ _ hsnap).orders_eq
  exact (hself.trans hmarket).trans hlast

theorem left_over {symbol : String} {security : SecurityState} {events : List Event}
    (hk : Keyed s.exch) (hsec : s.exch.securities.get? symbol = some security)
    (hlisted : security.status = .listed)
    (hbook : LimitBook ctx.settings.exchange s.exch symbol security)
    (h : matchCall ctx symbol tick s = .ok events s') {o' : OrderState}
    (ho' : o' ∈ activeOrders s'.exch symbol) : ∃ o ∈ activeOrders s.exch symbol,
      o.side = o'.side ∧ o.orderType = o'.orderType ∧ o.limitPriceCents = o'.limitPriceCents ∧
      filledOf o.orderId (callAuction (activeOrders s.exch symbol) security.referencePriceCents)
        < o.remainingQty := by
  have hids := distinct_activeOrders hk symbol
  have hrow : ∀ o ∈ activeOrders s.exch symbol, s.exch.orders.get? o.orderId = some o :=
    fun o ho => ((mem_activeOrders hk).mp ho).1
  have hsteps : Steps ctx.settings.exchange true s s' := matchCall_goes ctx symbol tick s events s' h hk
  obtain ⟨settled, s₁, hset, hthin⟩ := matchCall_eq_ok hsec hlisted h
  obtain ⟨hget', hsym', hactive'⟩ := (mem_activeOrders (hsteps.keyed hk)).mp ho'
  obtain ⟨o, ho, hfb⟩ := settleFills_rows (auction_settleable hk hsec hbook _) hset
    (hthin _ _ hget' hactive')
  have hid : o.orderId = o'.orderId := hk _ _ ho
  rw [← hid] at ho hfb
  have hrem := hfb.remaining
  have hmem : o ∈ activeOrders s.exch symbol := by
    cases hfb.active hactive' with
    | inl hpos =>
      -- it was filled, so the auction had it
      obtain ⟨f, hf, hof⟩ := of_filledOf_pos hpos.1
      obtain ⟨-, -, bid, hbid, ask, hask, hbi, hai, -⟩ := callAuction_fill hids hf
      cases hof with
      | inl hb =>
        rw [← hb, hbi, hrow bid hbid] at ho
        cases ho
        exact hbid
      | inr hs =>
        rw [← hs, hai, hrow ask hask] at ho
        cases ho
        exact hask
    | inr hsame =>
      rw [hsame.2] at hactive' hsym'
      exact (mem_activeOrders hk).mpr ⟨ho, hsym', hactive'⟩
  have hstock := (hbook o hmem).1
  refine ⟨o, hmem, hfb.side.symm, hfb.orderType.symm, hfb.limit.symm, ?_⟩
  cases hfb.active hactive' with
  | inl hpos => omega
  | inr hsame => omega

/-- **No crossed book after a call auction**, unless the auction passed an
order over because it met its own trader. -/
theorem match_call_uncrossed {symbol : String} {security : SecurityState} {events : List Event}
    (hk : Keyed s.exch) (hsec : s.exch.securities.get? symbol = some security)
    (hlisted : security.status = .listed)
    (hbook : LimitBook ctx.settings.exchange s.exch symbol security)
    (hself : AuctionMeetsNoSelf (activeOrders s.exch symbol) security.referencePriceCents)
    (h : matchCall ctx symbol tick s = .ok events s') : Uncrossed s'.exch symbol := by
  have hids := distinct_activeOrders hk symbol
  have hstocked : Stocked (activeOrders s.exch symbol) := fun o ho _ => (hbook o ho).1
  have hlimit : ∀ o ∈ activeOrders s.exch symbol, ∃ limit, LimitAt o limit := fun o ho =>
    (hbook o ho).2.imp fun _ hl => hl.1
  intro bid' hbid' ask' hask' hbs has lb la hlb hla
  obtain ⟨bid, hbid, hside, htype, hlim, hbl⟩ := left_over hk hsec hlisted hbook h hbid'
  obtain ⟨ask, hask, hside', htype', hlim', hal⟩ := left_over hk hsec hlisted hbook h hask'
  have hactive := ((mem_activeOrders hk).mp hbid).2.2
  have hactive' := ((mem_activeOrders hk).mp hask).2.2
  exact auction_uncrossed hids hstocked hlimit hself hbid hask (hside.trans hbs)
    (hside'.trans has) ⟨hactive, htype.trans hlb.orderType, hlim.trans hlb.price⟩
    ⟨hactive', htype'.trans hla.orderType, hlim'.trans hla.price⟩ hbl hal

/-! ## Two traders on both sides -/

/-- A listing of "S", half of it held by "ag_a" and half by "ag_b", and orders
admitted one after the other. -/
def placeBook (actions : List ExchangeAction) : EngineM Unit := do
  openMarket ["ag_a", "ag_b"] 1000
  let _ ← listSecurity "S" "fm_s" 1000 10 0 (Dict.ofList [("ag_a", 500), ("ag_b", 500)]) none none
  each (fun e => do
      let _ ← admitOrder { settings := mild, agents := ["ag_a", "ag_b"] } e.1 e.2 9 true)
    (actions.filterMap orderRequest?).zipIdx

/-- The book of "S" is of limit orders inside the band. -/
def bookStands (s : Sim) : Bool :=
  decide (∀ e ∈ s.exch.orders.entries, e.2.orderId = e.1) &&
  (s.exch.securities.get? "S").any fun r =>
    decide (r.status = .listed) && (activeOrders s.exch "S").all fun o =>
      decide (0 < o.remainingQty ∧ o.orderType = .limit) &&
        o.limitPriceCents.any (inBand mild.exchange r)

/-- The book stands, and the call on "S" returns. -/
def callReturns (actions : List ExchangeAction) (check : Sim → Sim → Bool) : Bool :=
  outcome (placeBook actions emptySim) (fun s => bookStands s &&
    (outcome (matchCall { settings := mild, agents := ["ag_a", "ag_b"] } "S" 9 s) (check s))
      = some true) = some true

omit [Uuid5] in
theorem limitBook_of_bookStands {s : Sim} (h : bookStands s = true) : Keyed s.exch ∧
    ∃ security, s.exch.securities.get? "S" = some security ∧ security.status = .listed ∧
      LimitBook mild.exchange s.exch "S" security := by
  obtain ⟨hkeyed, hsec⟩ := Bool.and_eq_true_iff.mp h
  obtain ⟨r, hr, hbook⟩ := (Option.any_eq_true _ _).mp hsec
  obtain ⟨hlisted, hall⟩ := Bool.and_eq_true_iff.mp hbook
  refine ⟨fun k o hk => of_decide_eq_true hkeyed (k, o) (Dict.mem_entries_iff.mpr hk), r, hr,
    of_decide_eq_true hlisted, fun o ho => ?_⟩
  obtain ⟨hrow, hband⟩ := Bool.and_eq_true_iff.mp (List.all_eq_true.mp hall o ho)
  obtain ⟨hpos, htype⟩ := of_decide_eq_true hrow
  obtain ⟨limit, hlimit, hin⟩ := (Option.any_eq_true _ _).mp hband
  have hactive : o.status.active = true := by
    have hc := (List.mem_filter.mp ho).2
    simp only [Bool.and_eq_true, decide_eq_true_eq] at hc
    exact hc.2
  exact ⟨hpos, limit, ⟨hactive, htype, hlimit⟩, hin⟩

theorem run_of_callReturns {actions : List ExchangeAction} {check : Sim → Sim → Bool}
    (h : callReturns actions check = true) : ∃ s s' events security, Keyed s.exch ∧
      s.exch.securities.get? "S" = some security ∧ security.status = .listed ∧
      LimitBook mild.exchange s.exch "S" security ∧
      matchCall { settings := mild, agents := ["ag_a", "ag_b"] } "S" 9 s = .ok events s' ∧
      check s s' = true := by
  obtain ⟨_, s, -, hs⟩ := outcome_eq_some (of_decide_eq_true h)
  obtain ⟨hbook, hcall⟩ := Bool.and_eq_true_iff.mp hs
  obtain ⟨events, s', hrun, hcheck⟩ := outcome_eq_some (of_decide_eq_true hcall)
  obtain ⟨hk, security, hsec, hlisted, hlimit⟩ := limitBook_of_bookStands hbook
  exact ⟨s, s', events, security, hk, hsec, hlisted, hlimit, hrun, hcheck⟩

end Call

/-- A bid of "ag_b" and two asks of "ag_a". -/
def onesidedBook : List ExchangeAction :=
  [limitOrder "a1" "ag_a" "S" .sell 1 10, limitOrder "a2" "ag_a" "S" .sell 1 11,
    limitOrder "b1" "ag_b" "S" .buy 2 10]

/-- Both traders bid and ask at one price. -/
def crossingBook : List ExchangeAction :=
  [limitOrder "a1" "ag_a" "S" .buy 1 10, limitOrder "b1" "ag_b" "S" .buy 1 10,
    limitOrder "a2" "ag_a" "S" .sell 1 10, limitOrder "b2" "ag_b" "S" .sell 1 10]

/-- The book before the call has nobody on both sides, and one order of each
side is left. -/
def bookLeft (s s' : Sim) : Bool :=
  decide ((∀ bid ∈ activeOrders s.exch "S", ∀ ask ∈ activeOrders s.exch "S",
      bid.side = .buy → ask.side = .sell → bid.traderId ≠ ask.traderId) ∧
    (activeOrders s'.exch "S").length = 2)

/-- A bid and an ask at one price are left. -/
def bookCrossed (_s s' : Sim) : Bool :=
  (activeOrders s'.exch "S").any fun bid => (activeOrders s'.exch "S").any fun ask =>
    decide (bid.side = .buy ∧ ask.side = .sell ∧ bid.orderType = .limit ∧ ask.orderType = .limit ∧
      bid.limitPriceCents = some 10 ∧ ask.limitPriceCents = some 10)

theorem match_call_uncrossed_apart :
    letI : Uuid5 := ⟨fun run name => run ++ name⟩
    ∃ s' : Sim, (activeOrders s'.exch "S").length = 2 ∧ Uncrossed s'.exch "S" := by
  let _ : Uuid5 := ⟨fun run name => run ++ name⟩
  obtain ⟨s, s', events, security, hk, hsec, hlisted, hbook, hrun, hcheck⟩ := run_of_callReturns
    (show callReturns onesidedBook bookLeft = true by decide +kernel)
  obtain ⟨happart, hlen⟩ := of_decide_eq_true hcheck
  have hone : OneSided (activeOrders s.exch "S") := fun bid hb ask ha _ _ => happart bid hb ask ha
  refine ⟨s', hlen, match_call_uncrossed hk hsec hlisted ?_ ?_ hrun⟩
  · exact hbook
  · exact fun _ _ _ => hone.smooth _ _ _

/-- **A crossed book is left**: the ask of "ag_a" is passed over for good when
it meets the bid of "ag_a", and the bid of "ag_b" never meets it. -/
theorem passed_over_leaves_cross :
    letI : Uuid5 := ⟨fun run name => run ++ name⟩
    ∃ s s' events security, Keyed s.exch ∧ s.exch.securities.get? "S" = some security ∧
      security.status = .listed ∧ LimitBook mild.exchange s.exch "S" security ∧
      matchCall { settings := mild, agents := ["ag_a", "ag_b"] } "S" 9 s = .ok events s' ∧
      ¬Uncrossed s'.exch "S" := by
  let _ : Uuid5 := ⟨fun run name => run ++ name⟩
  obtain ⟨s, s', events, security, hk, hsec, hlisted, hbook, hrun, hcheck⟩ := run_of_callReturns
    (show callReturns crossingBook bookCrossed = true by decide +kernel)
  refine ⟨s, s', events, security, hk, hsec, hlisted, hbook, hrun, fun hlaw => ?_⟩
  obtain ⟨bid, hbid, hcheck⟩ := List.any_eq_true.mp hcheck
  obtain ⟨ask, hask, hcheck⟩ := List.any_eq_true.mp hcheck
  obtain ⟨hbs, has, htype, htype', hlb, hla⟩ := of_decide_eq_true hcheck
  have hactive : ∀ o ∈ activeOrders s'.exch "S", o.status.active = true := by
    intro o ho
    have hc := (List.mem_filter.mp ho).2
    simp only [Bool.and_eq_true, decide_eq_true_eq] at hc
    exact hc.2
  have hlt := hlaw bid hbid ask hask hbs has 10 10 ⟨hactive bid hbid, htype, hlb⟩
    ⟨hactive ask hask, htype', hla⟩
  omega

end Exchange

end Polis.Economy
