/-
  Polis.Economy.Exchange.Settle — prices, reservations, settlement and
  cancellation (`economy/exchange/engine.py`).

  A settlement pays out of the buyer's escrow, moves the shares, and books
  what it opens or covers on the short side.  A cancellation releases what an
  order still reserves.
-/
import Polis.Economy.Sim

namespace Polis.Economy.Exchange

open Lib Lib.Effect Sim

/-! ## Prices and reservations -/

/-- `_bp_ceil(value, rate_bp)`. -/
def bpCeil (value rateBp : Int) : Int := (value * rateBp + 9999) / 10000

variable (cfg : ExchangeSettings)

/-- `_commission(notional)`. -/
def commission (notional : Int) : Int :=
  if cfg.commissionBp = 0 then 0
  else max cfg.commissionFloorCents (bpCeil notional cfg.commissionBp)

/-- `_reserve_required(qty, price)`: a limit order can fill one share at a
time, so the largest commission a fill can cost is reserved for each share. -/
def reserveRequired (qty price : Int) : Int :=
  if qty ≤ 0 then 0 else qty * price + qty * commission cfg price

/-- `_band(security)`. -/
def band (security : SecurityState) : Int × Int :=
  (max cfg.tickSizeCents (security.referencePriceCents * (10000 - cfg.bandBp) / 10000),
    max cfg.tickSizeCents (security.referencePriceCents * (10000 + cfg.bandBp) / 10000))

/-- `_in_band(security, price)`. -/
def inBand (security : SecurityState) (price : Int) : Bool :=
  (band cfg security).1 ≤ price ∧ price ≤ (band cfg security).2

/-! ## Rows -/

/-- `flag in order.flags`. -/
def OrderState.has (order : OrderState) (flag : String) : Bool := flag ∈ order.flags

/-- `f"margin-{symbol}"`. -/
def marginRef (symbol : String) : String := "margin-" ++ symbol

/-- The escrow reference an order's cents are released from. -/
def escrowRef (order : OrderState) : String :=
  if OrderState.has order "opens_short" then marginRef order.symbol else "exchange"

/-- Write an order row. -/
def modifyOrder (orderId : String) (f : OrderState → OrderState) : EngineM Unit :=
  modifyExchange fun x => { x with orders := x.orders.modify orderId f }

/-- `self.state.orders[order_id]`. -/
def orderAt (orderId : String) : EngineM OrderState := do
  let x ← exchangeNow
  orRaise (x.orders.get? orderId) (.key orderId)

/-- `self.state.securities[symbol]`. -/
def securityAt (symbol : String) : EngineM SecurityState := do
  let x ← exchangeNow
  orRaise (x.securities.get? symbol) (.key symbol)

/-- Write a security row. -/
def modifySecurity (symbol : String) (f : SecurityState → SecurityState) : EngineM Unit :=
  modifyExchange fun x => { x with securities := x.securities.modify symbol f }

/-- The ids of the orders, sorted. -/
def orderIds (x : ExchangeState) : List String := x.orders.sortedEntries.map Prod.fst

/-- The text of a side. -/
def sideText : OrderSide → String
  | .buy => "buy"
  | .sell => "sell"

/-- The text of an aggressor. -/
def aggressorText : Aggressor → String
  | .buy => "buy"
  | .sell => "sell"
  | .auction => "auction"

/-- `f"{n:0{width}d}"`. -/
def padInt (width : Nat) (n : Int) : String :=
  if n < 0 then "-" ++ zeroPad (width - 1) n.natAbs else zeroPad width n.natAbs

/-! ## Fill events -/

/-- `_fill_events(order)`. -/
def fillEvents (orderId : String) (tick : Int) : EngineM (List Event) := do
  let order ← orderAt orderId
  let average := order.filledNotionalCents / max 1 order.filledQty
  if order.remainingQty = 0 then
    modifyOrder orderId fun o => { o with status := .filled }
    let event ← emit tick .orderFilled
      [("order_id", .str order.orderId), ("total_qty", .int order.qty),
        ("avg_price_cents", .int average), ("commission_cents", .int order.commissionCents)]
      (some order.traderId)
    pure [event]
  else
    modifyOrder orderId fun o => { o with status := .partialFill }
    let event ← emit tick .orderPartiallyFilled
      [("order_id", .str order.orderId), ("filled_qty", .int order.filledQty),
        ("remaining_qty", .int order.remainingQty), ("avg_price_cents", .int average)]
      (some order.traderId)
    pure [event]

/-! ## Short positions -/

/-- The position a short sale leaves. -/
def shortAfterSale (existing : Option ShortPositionState) (traderId symbol : String)
    (qty price collateralCents tick : Int) : ShortPositionState :=
  match existing with
  | none => {
      traderId
      symbol
      qty
      entryPriceCents := price
      collateralCents
      openedTick := tick
      borrowFeeBp := cfg.borrowFeeBp }
  | some position => { position with
      entryPriceCents :=
        (position.entryPriceCents * position.qty + price * qty) / (position.qty + qty)
      qty := position.qty + qty
      collateralCents := position.collateralCents + collateralCents }

/-- `_record_short(order, qty, price, collateral_cents)`. -/
def recordShort (traderId symbol : String) (qty price collateralCents tick : Int) :
    EngineM Event := do
  let key := holdingKey traderId symbol
  modifyExchange fun x => { x with
    shorts := x.shorts.put key
      (shortAfterSale cfg (x.shorts.get? key) traderId symbol qty price collateralCents tick) }
  emit tick .shortOpened
    [("trader_id", .str traderId), ("symbol", .str symbol), ("qty", .int qty),
      ("price_cents", .int price), ("borrow_fee_bp", .int cfg.borrowFeeBp),
      ("collateral_cents", .int collateralCents),
      ("margin_ratio_bp", .int (10000 * collateralCents / max 1 (qty * price)))]
    (some traderId) [symbol]

/-- The collateral a cover of `covered` shares releases. -/
def coverRelease (position : ShortPositionState) (covered : Int) : Int :=
  position.collateralCents * covered / max 1 position.qty

/-- The position a cover leaves. -/
def shortAfterCover (position : ShortPositionState) (covered : Int) : ShortPositionState :=
  let left := position.qty - covered
  { position with
    qty := left
    collateralCents := position.collateralCents - coverRelease position covered
    status := if left = 0 then .covered else position.status }

/-- Pay cents that are no longer reserved out of an escrow account of a trader
into its deposit. -/
def releaseCents [Uuid5] (traderId ref : String) (cents tick : Int) (cause : Event) :
    EngineM Unit := do
  if cents ≠ 0 then
    let L ← ledgerNow
    let escrow ← liftE (escrowId L traderId ref)
    let deposit ← liftE (depositAccount L traderId)
    let legs ← liftE (Ledger.transfer escrow deposit cents "escrow")
    let _ ← post legs tick cause

/-- `_record_cover(order, qty, price)`. -/
def recordCover [Uuid5] (order : OrderState) (qty price tick : Int) : EngineM (List Event) := do
  if qty ≤ 0 then pure []
  else
    let key := holdingKey order.traderId order.symbol
    let x ← exchangeNow
    match x.shorts.get? key with
    | none => pure []
    | some position =>
      let covered := min qty position.qty
      let realised := (position.entryPriceCents - price) * covered
      let released := coverRelease position covered
      modifyExchange fun x => { x with shorts := x.shorts.put key (shortAfterCover position covered) }
      let event ← emit tick .shortCovered
        [("trader_id", .str order.traderId), ("symbol", .str order.symbol), ("qty", .int covered),
          ("price_cents", .int price), ("realised_pnl_cents", .int realised),
          ("fees_paid_cents", .int order.commissionCents)]
        (some order.traderId) [order.symbol]
      releaseCents order.traderId (marginRef order.symbol) released tick event
      if OrderState.has order "forced_liquidation" then
        let forced ← emit tick .forcedLiquidation
          [("trader_id", .str order.traderId), ("symbol", .str order.symbol),
            ("qty", .int covered), ("avg_price_cents", .int price),
            ("shortfall_cents", .int (max 0 (covered * price - released)))]
          (some order.traderId) [order.symbol]
        pure [event, forced]
      else pure [event]

/-! ## Settlement -/

/-- What a fill of `qty` shares costs and moves. -/
structure Settlement where
  qty : Int
  gross : Int
  commissionBuy : Int
  commissionSell : Int
  remainingRequired : Int
  release : Int

/-- The amounts of a fill, from the two rows and the buyer's reserve price. -/
def settlementOf (fill : Fill) (buy sell : OrderState) (reservePrice : Int) : Settlement :=
  let qty := min fill.qty (min buy.remainingQty sell.remainingQty)
  let gross := fill.priceCents * qty
  let commissionBuy := commission cfg gross
  let commissionSell := commission cfg gross
  let remainingRequired := reserveRequired cfg (buy.remainingQty - qty) reservePrice
  let actual := gross + commissionBuy
  { qty, gross, commissionBuy, commissionSell, remainingRequired
    release := max 0 (buy.reservedCents - actual - remainingRequired) }

/-- The price a buy order's reservation was made at. -/
def reservePriceOf (buy : OrderState) (security : SecurityState) : Int :=
  buy.limitPriceCents.getD (band cfg security).2

/-- The legs of a settlement, all out of the buyer's escrow. -/
def settlementLegs (t : Settlement) (buyerEscrow sellerDeposit brokerDeposit buyerDeposit : AccountId) :
    Except PyError (List Leg) := do
  let sellerNet := t.gross - t.commissionSell
  let toSeller ← legsIf (0 < sellerNet)
    (Ledger.transfer buyerEscrow sellerDeposit sellerNet "trade")
  let totalCommission := t.commissionBuy + t.commissionSell
  let toBroker ← legsIf (0 < totalCommission)
    (Ledger.transfer buyerEscrow brokerDeposit totalCommission "trade")
  let toBuyer ← legsIf (0 < t.release)
    (Ledger.transfer buyerEscrow buyerDeposit t.release "escrow")
  .ok (toSeller ++ toBroker ++ toBuyer)

/-- The buy row after a fill. -/
def fillBuy (t : Settlement) (o : OrderState) : OrderState :=
  { o with
    reservedCents := t.remainingRequired
    remainingQty := o.remainingQty - t.qty
    filledQty := o.filledQty + t.qty
    filledNotionalCents := o.filledNotionalCents + t.gross
    commissionCents := o.commissionCents + t.commissionBuy }

/-- The sell row after a fill. -/
def fillSell (t : Settlement) (o : OrderState) : OrderState :=
  { o with
    remainingQty := o.remainingQty - t.qty
    filledQty := o.filledQty + t.qty
    filledNotionalCents := o.filledNotionalCents + t.gross
    commissionCents := o.commissionCents + t.commissionSell }

/-- The buyer's holding after a fill. -/
def holdingBought (t : Settlement) (h : HoldingState) : HoldingState :=
  let qty := h.qty + t.qty
  if 0 < qty then
    let oldPositive := max 0 h.qty
    { h with
      qty
      avgCostCents := (oldPositive * h.avgCostCents + t.gross) / max 1 (oldPositive + t.qty) }
  else { h with qty }

/-- The seller's holding after a fill. -/
def holdingSold (t : Settlement) (sell : OrderState) (h : HoldingState) : HoldingState :=
  { h with
    qty := h.qty - t.qty
    reservedQty :=
      if OrderState.has sell "opens_short" then h.reservedQty else h.reservedQty - t.qty
    lockedQty :=
      if OrderState.has sell "forced_liquidation" ∧ h.lockedQty ≠ 0 then max 0 (h.lockedQty - t.qty)
      else h.lockedQty }

/-- Write the rows of a trade: the two orders, the two holdings and the last
price. -/
def tradeRows (t : Settlement) (fill : Fill) (buy sell : OrderState) (x : ExchangeState) :
    ExchangeState :=
  let x := { x with
    orders := (x.orders.modify fill.buyOrderId (fillBuy t)).modify fill.sellOrderId (fillSell t) }
  let x := x.putHolding buy.traderId buy.symbol
    (holdingBought t (x.holdingRow buy.traderId buy.symbol))
  let x := x.putHolding sell.traderId sell.symbol
    (holdingSold t sell (x.holdingRow sell.traderId sell.symbol))
  let x := { x with
    orders := x.orders.modify fill.sellOrderId fun o =>
      if OrderState.has sell "opens_short" then o
      else { o with reservedQty := o.reservedQty - t.qty } }
  { x with
    securities := x.securities.modify buy.symbol fun s =>
      { s with lastPriceCents := fill.priceCents } }

/-- The share of a short order's collateral that a fill turns into margin. -/
def shortCollateral (sell : OrderState) (qty : Int) : Int :=
  sell.reservedCents * qty / max 1 (sell.remainingQty - qty + qty)

variable [Uuid5]

/-- `_settle(fill)`. -/
def settle (fill : Fill) (tick : Int) : EngineM (List Event) := do
  let buy ← orderAt fill.buyOrderId
  let sell ← orderAt fill.sellOrderId
  let qty := min fill.qty (min buy.remainingQty sell.remainingQty)
  if qty ≤ 0 ∨ buy.traderId = sell.traderId then pure []
  else
    let x ← exchangeNow
    note (.settle x fill)
    let L ← ledgerNow
    let buyerEscrow ← liftE (escrowId L buy.traderId "exchange")
    let sellerDeposit ← liftE (depositAccount L sell.traderId)
    let brokerDeposit ← liftE (depositAccount L "fm_broker")
    let buyerDeposit ← liftE (depositAccount L buy.traderId)
    let security ← securityAt buy.symbol
    let t := settlementOf cfg fill buy sell (reservePriceOf cfg buy security)
    let legs ← liftE (settlementLegs t buyerEscrow sellerDeposit brokerDeposit buyerDeposit)
    let expectedTxn ← nextTxnId tick
    let tradeId := "tr_" ++ padInt 10 tick ++ "_" ++ padInt 10 x.trades.length
    let tradeEvent ← emit tick .tradeExecuted
      [("trade_id", .str tradeId), ("symbol", .str buy.symbol),
        ("price_cents", .int fill.priceCents), ("qty", .int t.qty),
        ("buy_order_id", .str buy.orderId), ("sell_order_id", .str sell.orderId),
        ("buyer_id", .str buy.traderId), ("seller_id", .str sell.traderId),
        ("aggressor", .str (aggressorText fill.aggressor)),
        ("commission_buy_cents", .int t.commissionBuy),
        ("commission_sell_cents", .int t.commissionSell),
        ("ledger_txn_id", .str expectedTxn)]
      (some (if fill.aggressor = .buy then buy.traderId else sell.traderId))
      [buy.traderId, sell.traderId, buy.symbol]
    let txnId ← post (coalesce legs) tick tradeEvent
    require (txnId = expectedTxn) (.runtime "exchange ledger ordinal diverged")
    let x ← exchangeNow
    let oldQty := (x.holdingRow buy.traderId buy.symbol).qty
    modifyExchange (tradeRows t fill buy sell)
    modifyExchange fun x => { x with
      trades := x.trades ++ [{
        tradeId
        symbol := buy.symbol
        tick
        priceCents := fill.priceCents
        qty := t.qty
        buyOrderId := buy.orderId
        sellOrderId := sell.orderId
        buyerId := buy.traderId
        sellerId := sell.traderId
        aggressor := fill.aggressor
        commissionBuyCents := t.commissionBuy
        commissionSellCents := t.commissionSell
        ledgerTxnId := txnId }] }
    let opened ← onlyIf (OrderState.has sell "opens_short") do
      let collateral := shortCollateral sell t.qty
      modifyOrder fill.sellOrderId fun o =>
        { o with reservedCents := o.reservedCents - collateral }
      let event ← recordShort cfg sell.traderId sell.symbol t.qty fill.priceCents collateral tick
      pure [event]
    let covered ← onlyIf (oldQty < 0) do
      let bought ← orderAt fill.buyOrderId
      recordCover bought (min t.qty (-oldQty)) fill.priceCents tick
    let filledBuy ← fillEvents fill.buyOrderId tick
    let filledSell ← fillEvents fill.sellOrderId tick
    pure (tradeEvent :: opened ++ covered ++ filledBuy ++ filledSell)

/-! ## Cancellation -/

/-- Give reserved shares back to the holding. -/
def unreserve (order : OrderState) (x : ExchangeState) : ExchangeState :=
  if order.reservedQty ≠ 0 then
    let holding := x.holdingRow order.traderId order.symbol
    x.putHolding order.traderId order.symbol
      { holding with reservedQty := holding.reservedQty - order.reservedQty }
  else x

/-- `_cancel(order, initiator, expired=)`. -/
def cancel (orderId : String) (tick : Int) (initiator : String) (expired : Bool) :
    EngineM (List Event) := do
  let order ← orderAt orderId
  if ¬order.status.active then pure []
  else
    let payload : List (String × Value) :=
      [("order_id", .str order.orderId), ("remaining_qty", .int order.remainingQty),
        ("released_cents", .int order.reservedCents), ("released_qty", .int order.reservedQty)]
    let event ← emit tick (if expired then .orderExpired else .orderCancelled)
      (if expired then payload else payload ++ [("initiator", .str initiator)])
      (some order.traderId) [order.symbol]
    releaseCents order.traderId (escrowRef order) order.reservedCents tick event
    modifyExchange (unreserve order)
    modifyOrder orderId fun o => { o with
      reservedCents := 0
      reservedQty := 0
      status := if expired then .expired else .cancelled }
    pure [event]

end Polis.Economy.Exchange
