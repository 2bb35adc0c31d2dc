/-
  Polis.Economy.Exchange.Book — matching (`economy/exchange/book.py`).

  Both matchers are pure: from the order rows they build the list of fills,
  which the engine then settles one after the other.

  Main results:
    * `callAuction_mem` — a fill of the call auction joins an active buy and an
      active sell of the list.
    * `continuousMatches_mem` — a fill of the continuous matcher joins the
      incoming order with an active order of the other side.
-/
import Polis.Economy.Money
import Polis.Economy.Exchange.Models
import Mathlib.Data.List.Dedup

namespace Polis.Economy

open Lib

/-- `Fill`. -/
structure Fill where
  buyOrderId : String
  sellOrderId : String
  priceCents : Int
  qty : Int
  aggressor : Aggressor
  deriving Repr, DecidableEq

/-- `bid_priority(order)`. -/
def bidPriority (order : OrderState) : Int ×ₗ Nat ×ₗ String :=
  toLex (-(order.limitPriceCents.getD (2 ^ 62)), toLex (order.arrivalOrdinal, order.orderId))

/-- `ask_priority(order)`. -/
def askPriority (order : OrderState) : Int ×ₗ Nat ×ₗ String :=
  toLex (order.limitPriceCents.getD 0, toLex (order.arrivalOrdinal, order.orderId))

/-- `crosses(incoming, resting)`. -/
def crosses (incoming resting : OrderState) : Bool :=
  if incoming.orderType = .market then true
  else
    match incoming.limitPriceCents, resting.limitPriceCents with
    | some p, some q => if incoming.side = .buy then q ≤ p else p ≤ q
    | _, _ => true

/-! ## Call auction -/

/-- An order that buys at `price`. -/
def bidsAt (price : Int) (order : OrderState) : Bool :=
  order.status.active && order.side = .buy &&
    (order.orderType = .market || order.limitPriceCents.any (price ≤ ·))

/-- An order that sells at `price`. -/
def asksAt (price : Int) (order : OrderState) : Bool :=
  order.status.active && order.side = .sell &&
    (order.orderType = .market || order.limitPriceCents.any (· ≤ price))

/-- The candidate of one price: volume, imbalance, proximity, price. -/
def candidate (orders : List OrderState) (prevClose price : Int) : Int ×ₗ Int ×ₗ Int ×ₗ Int :=
  let demand := ((orders.filter (bidsAt price)).map OrderState.remainingQty).sum
  let supply := ((orders.filter (asksAt price)).map OrderState.remainingQty).sum
  toLex (min demand supply,
    toLex (-|demand - supply|, toLex (-|price - prevClose|, -price)))

/-- The limit prices that stand in the book. -/
def limitPrices (orders : List OrderState) : List Int :=
  (((orders.filter fun o => o.status.active && o.orderType = .limit).filterMap
    OrderState.limitPriceCents).dedup).insertionSort (· ≤ ·)

/-- `uncross(orders, prev_close)`: the clearing price and volume, if any. -/
def uncross (orders : List OrderState) (prevClose : Int) : Option (Int × Int) :=
  match ((limitPrices orders).map (candidate orders prevClose)).max? with
  | none => none
  | some best =>
    let volume := (ofLex best).1
    let negativePrice := (ofLex (ofLex (ofLex best).2).2).2
    if volume ≤ 0 then none else some (-negativePrice, volume)

/-- The allocation loop of the auction.  Every round drops an order from one
of the lists or exhausts the volume, so `fuel` rounds are enough when it
exceeds the number of orders. -/
def auctionFills (price : Int) : Nat → List OrderState → List OrderState → Int →
    Dict String Int → List Fill
  | 0, _, _, _, _ => []
  | fuel + 1, bid :: bids, ask :: asks, remaining, localRemaining =>
    if remaining ≤ 0 then []
    else if bid.traderId = ask.traderId then
      if bid.arrivalOrdinal < ask.arrivalOrdinal then
        auctionFills price fuel (bid :: bids) asks remaining localRemaining
      else auctionFills price fuel bids (ask :: asks) remaining localRemaining
    else
      let bidLeft := localRemaining.getD bid.orderId 0
      let askLeft := localRemaining.getD ask.orderId 0
      let qty := min remaining (min bidLeft askLeft)
      if qty ≤ 0 then []
      else
        let localRemaining := (localRemaining.put bid.orderId (bidLeft - qty)).modify
          ask.orderId (· - qty)
        ⟨bid.orderId, ask.orderId, price, qty, .auction⟩ ::
          auctionFills price fuel
            (if localRemaining.getD bid.orderId 0 = 0 then bids else bid :: bids)
            (if localRemaining.getD ask.orderId 0 = 0 then asks else ask :: asks)
            (remaining - qty) localRemaining
  | _ + 1, _, _, _, _ => []

/-- `call_auction(orders, prev_close)`. -/
def callAuction (orders : List OrderState) (prevClose : Int) : List Fill :=
  match uncross orders prevClose with
  | none => []
  | some (price, volume) =>
    let bids := sortedBy bidPriority (orders.filter (bidsAt price))
    let asks := sortedBy askPriority (orders.filter (asksAt price))
    let localRemaining := Dict.ofList ((bids ++ asks).map fun o => (o.orderId, o.remainingQty))
    auctionFills price (bids.length + asks.length + 1) bids asks volume localRemaining

theorem auctionFills_mem {price : Int} {fuel : Nat} {bids asks : List OrderState}
    {remaining : Int} {left : Dict String Int} {fill : Fill}
    (h : fill ∈ auctionFills price fuel bids asks remaining left) :
    ∃ bid ∈ bids, ∃ ask ∈ asks, fill.buyOrderId = bid.orderId ∧ fill.sellOrderId = ask.orderId ∧
      fill.priceCents = price := by
  induction fuel generalizing bids asks remaining left with
  | zero => simp [auctionFills] at h
  | succ fuel ih =>
    cases bids with
    | nil => simp [auctionFills] at h
    | cons bid bids =>
      cases asks with
      | nil => simp [auctionFills] at h
      | cons ask asks =>
        unfold auctionFills at h
        dsimp only at h
        split_ifs at h with h₁ h₂ h₃ h₄ h₅ h₆ h₆
        all_goals first
          | exact absurd h List.not_mem_nil
          | skip
        · obtain ⟨b, hb, a, ha, he⟩ := ih h
          exact ⟨b, hb, a, List.mem_cons_of_mem _ ha, he⟩
        · obtain ⟨b, hb, a, ha, he⟩ := ih h
          exact ⟨b, List.mem_cons_of_mem _ hb, a, ha, he⟩
        all_goals
          rcases List.mem_cons.mp h with rfl | h
          · exact ⟨bid, List.mem_cons_self, ask, List.mem_cons_self, rfl, rfl, rfl⟩
          · obtain ⟨b, hb, a, ha, he⟩ := ih h
            exact ⟨b, by first | exact hb | exact List.mem_cons_of_mem _ hb,
              a, by first | exact ha | exact List.mem_cons_of_mem _ ha, he⟩

theorem callAuction_mem {orders : List OrderState} {prevClose : Int} {fill : Fill}
    (h : fill ∈ callAuction orders prevClose) :
    ∃ bid ∈ orders, ∃ ask ∈ orders, fill.buyOrderId = bid.orderId ∧
      fill.sellOrderId = ask.orderId ∧ bidsAt fill.priceCents bid = true ∧
      asksAt fill.priceCents ask = true := by
  unfold callAuction at h
  cases hu : uncross orders prevClose with
  | none => simp [hu] at h
  | some pv =>
    obtain ⟨price, volume⟩ := pv
    simp only [hu] at h
    obtain ⟨bid, hbid, ask, hask, hb, ha, hp⟩ := auctionFills_mem h
    have hbid := List.mem_filter.mp (mem_sortedBy.mp hbid)
    have hask := List.mem_filter.mp (mem_sortedBy.mp hask)
    exact ⟨bid, hbid.1, ask, hask.1, hb, ha, hp ▸ hbid.2, hp ▸ hask.2⟩

/-! ## Continuous matching -/

/-- The matching loop of the continuous session. -/
def matchResting (incoming : OrderState) : List OrderState → Int → List Fill
  | [], _ => []
  | resting :: rest, remaining =>
    if remaining ≤ 0 ∨ ¬crosses incoming resting then []
    else if resting.traderId = incoming.traderId then matchResting incoming rest remaining
    else
      let qty := min remaining resting.remainingQty
      match resting.limitPriceCents.or incoming.limitPriceCents with
      | none => matchResting incoming rest remaining
      | some price =>
        let buyId := if incoming.side = .buy then incoming.orderId else resting.orderId
        let sellId := if incoming.side = .sell then incoming.orderId else resting.orderId
        ⟨buyId, sellId, price, qty, if incoming.side = .buy then .buy else .sell⟩ ::
          matchResting incoming rest (remaining - qty)

/-- `continuous_matches(incoming, resting_orders)`. -/
def continuousMatches (incoming : OrderState) (restingOrders : List OrderState) : List Fill :=
  let opposite := restingOrders.filter fun o =>
    o.status.active && o.symbol = incoming.symbol && o.side ≠ incoming.side
  let opposite :=
    if incoming.side = .buy then sortedBy askPriority opposite else sortedBy bidPriority opposite
  matchResting incoming opposite incoming.remainingQty

theorem matchResting_mem {incoming : OrderState} {resting : List OrderState} {remaining : Int}
    {fill : Fill} (h : fill ∈ matchResting incoming resting remaining) :
    ∃ o ∈ resting, o.traderId ≠ incoming.traderId ∧
      fill.buyOrderId = (if incoming.side = .buy then incoming.orderId else o.orderId) ∧
      fill.sellOrderId = (if incoming.side = .sell then incoming.orderId else o.orderId) := by
  induction resting generalizing remaining with
  | nil => simp [matchResting] at h
  | cons o rest ih =>
    have step : ∀ {r}, fill ∈ matchResting incoming rest r → ∃ o' ∈ o :: rest,
        o'.traderId ≠ incoming.traderId ∧
        fill.buyOrderId = (if incoming.side = .buy then incoming.orderId else o'.orderId) ∧
        fill.sellOrderId = (if incoming.side = .sell then incoming.orderId else o'.orderId) := by
      intro r hr
      obtain ⟨o', ho', he⟩ := ih hr
      exact ⟨o', List.mem_cons_of_mem _ ho', he⟩
    unfold matchResting at h
    by_cases h₁ : remaining ≤ 0 ∨ ¬crosses incoming o
    · rw [if_pos h₁] at h
      exact absurd h List.not_mem_nil
    · rw [if_neg h₁] at h
      by_cases h₂ : o.traderId = incoming.traderId
      · rw [if_pos h₂] at h
        exact step h
      · rw [if_neg h₂] at h
        dsimp only at h
        cases hp : o.limitPriceCents.or incoming.limitPriceCents with
        | none =>
          rw [hp] at h
          exact step h
        | some price =>
          rw [hp] at h
          rcases List.mem_cons.mp h with rfl | h
          · exact ⟨o, List.mem_cons_self, h₂, rfl, rfl⟩
          · exact step h

theorem continuousMatches_mem {incoming : OrderState} {resting : List OrderState} {fill : Fill}
    (h : fill ∈ continuousMatches incoming resting) :
    ∃ o ∈ resting, o.status.active = true ∧ o.symbol = incoming.symbol ∧ o.side ≠ incoming.side ∧
      o.traderId ≠ incoming.traderId ∧
      fill.buyOrderId = (if incoming.side = .buy then incoming.orderId else o.orderId) ∧
      fill.sellOrderId = (if incoming.side = .sell then incoming.orderId else o.orderId) := by
  unfold continuousMatches at h
  obtain ⟨o, ho, he⟩ := matchResting_mem h
  have hmem : o ∈ resting.filter fun o =>
      o.status.active && o.symbol = incoming.symbol && o.side ≠ incoming.side := by
    split_ifs at ho
    · exact mem_sortedBy.mp ho
    · exact mem_sortedBy.mp ho
  obtain ⟨hr, hc⟩ := List.mem_filter.mp hmem
  simp only [Bool.and_eq_true, decide_eq_true_eq] at hc
  exact ⟨o, hr, hc.1.1, hc.1.2, hc.2, he⟩

end Polis.Economy
