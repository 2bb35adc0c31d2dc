/-
  Polis.Economy.Exchange.Session — matching, margins and the trading session
  (`economy/exchange/engine.py`).

  `resolve` runs one tick of the exchange: cancel requests, offerings, new
  orders in a shuffled arrival order, matching, the close of offerings, halts,
  margins and the close of the session.
-/
import Polis.Economy.Exchange.Listing

namespace Polis.Economy.Exchange

open Lib Lib.Effect Sim

variable (ctx : Ctx)

/-! ## Session -/

/-- `_session_state(tick)`: whether orders are taken, and whether the session
opens or closes now. -/
def sessionState (tick : Int) : Bool × Bool × Bool :=
  match ctx.settings.clock.profile with
  | .chronicle => (true, true, true)
  | .microscope =>
    let hour := tick % ctx.settings.clock.ticksPerSimDay
    (9 ≤ hour && hour < 16, hour = 9, hour = 16)

/-- The listed securities, in symbol order. -/
def listedSymbols (x : ExchangeState) : List (String × SecurityState) :=
  x.securities.sortedEntries.filter fun e => e.2.status = .listed

/-- `f"xs_{tick:010d}"`. -/
def sessionIdOf (tick : Int) : String := "xs_" ++ padInt 10 tick

/-- `_open_session(tick)`. -/
def openSession (tick : Int) : EngineM Event := do
  modifyExchange fun x => { x with
    sessionId := some (sessionIdOf tick)
    sessionTick := some tick
    securities := x.securities.mapValues fun _ s =>
      { s with referencePriceCents := s.lastPriceCents, breakerCount := 0 } }
  let x ← exchangeNow
  emit tick .sessionOpened
    [("session_id", .str (sessionIdOf tick)), ("tick", .int tick),
      ("symbols", .strs ((listedSymbols x).map Prod.fst)), ("opening_auction", .dict []),
      ("reference_prices", .ints ((listedSymbols x).map fun e => (e.1, e.2.referencePriceCents)))]

/-- The row of a session in which a security traded, or did not. -/
def ohlcvRow (security : SecurityState) (symbol : String) (trades : List TradeState) (tick : Int) :
    OhlcvState :=
  let prices := trades.map TradeState.priceCents
  let volume := (trades.map TradeState.qty).sum
  let value := (trades.map fun t => t.qty * t.priceCents).sum
  { symbol
    sessionTick := tick
    openCents := prices.head?.getD security.lastPriceCents
    highCents := prices.max?.getD security.lastPriceCents
    lowCents := prices.min?.getD security.lastPriceCents
    closeCents := prices.getLast?.getD security.lastPriceCents
    volume
    vwapCents := if trades = [] then none else some (value / volume)
    tradesN := trades.length }

/-- `_market_data(symbol)`. -/
def marketData (symbol : String) (tick : Int) : EngineM (List Event) := do
  let security ← securityAt symbol
  let x ← exchangeNow
  let row := ohlcvRow security symbol
    (x.trades.filter fun t => t.symbol = symbol && t.tick = tick) tick
  modifyExchange fun x => { x with ohlcv := x.ohlcv.put (symbol ++ ":" ++ toString tick) row }
  let event ← emit tick .ohlcvComputed
    [("symbol", .str symbol), ("session_tick", .int tick), ("open_cents", .int row.openCents),
      ("high_cents", .int row.highCents), ("low_cents", .int row.lowCents),
      ("close_cents", .int row.closeCents), ("volume", .int row.volume),
      ("vwap_cents", .ofInt? row.vwapCents), ("trades_n", .int row.tradesN)]
    none [symbol]
  pure [event]

/-- `_index(tick)`. -/
def computeIndex (tick : Int) : EngineM (List Event) := do
  let x ← exchangeNow
  let rows := constituents x
  if rows = [] then pure []
  else
    let mcap := marketCap rows
    let divisor := match x.indexDivisor with
      | some d => if d ≤ 0 then max 1 mcap else d
      | none => max 1 mcap
    let value := 10000 * mcap / divisor
    modifyExchange fun x => { x with
      indexDivisor := some divisor
      indexHistoryBp := x.indexHistoryBp.put tick value }
    let event ← emit tick .indexComputed
      [("index_name", .str "POLIS_ALL"), ("value_bp", .int value), ("divisor", .int divisor),
        ("constituents", .strs ((rows.map SecurityState.symbol).insertionSort (· ≤ ·))),
        ("mcap_cents", .int mcap)]
    pure [event]

/-- The price levels of one side of a book. -/
def bookLevels (x : ExchangeState) (symbol : String) (side : OrderSide) : Dict Int Int :=
  (x.orders.values.filter fun o => o.symbol = symbol && o.side = side && o.status.active).foldl
    (fun levels o => match o.limitPriceCents with
      | some price => levels.put price (levels.getD price 0 + o.remainingQty)
      | none => levels) ∅

/-- `_book_snapshot(symbol)`. -/
def bookSnapshot (symbol : String) (tick : Int) : EngineM Event := do
  let x ← exchangeNow
  let bids := bookLevels x symbol .buy
  let asks := bookLevels x symbol .sell
  let level (side : String) (e : Int × Int) : Value :=
    .dict [("side", .str side), ("price_cents", .int e.1), ("qty", .int e.2)]
  emit tick .bookSnapshot
    [("symbol", .str symbol), ("best_bid_cents", .ofInt? bids.keys.max?),
      ("best_ask_cents", .ofInt? asks.keys.min?), ("bid_depth", .int bids.values.sum),
      ("ask_depth", .int asks.values.sum),
      ("levels", .list (((bids.sortedEntries.reverse.take 5).map (level "buy"))
        ++ ((asks.sortedEntries.take 5).map (level "sell"))))]
    none [symbol]

/-! ## Halts -/

/-- `_trigger_breaker(security, price)`. -/
def triggerBreaker (symbol : String) (tick price : Int) : EngineM (List Event) := do
  let cfg := ctx.settings.exchange
  modifySecurity symbol fun s => { s with
    breakerCount := s.breakerCount + 1
    haltUntilTick := some (tick + cfg.haltTicks) }
  let s ← securityAt symbol
  let moveBp := 10000 * (price - s.referencePriceCents) / max 1 s.referencePriceCents
  let event ← emit tick .circuitBreakerTriggered
    [("symbol", .str s.symbol), ("reference_cents", .int s.referencePriceCents),
      ("last_cents", .int price), ("move_bp", .int moveBp), ("band_bp", .int cfg.bandBp),
      ("halt_until_tick", .ofInt? s.haltUntilTick), ("breaker_count", .int s.breakerCount)]
    none [s.symbol]
  pure [event]

/-- `_resume_halts(tick)`. -/
def resumeHalts (tick : Int) : EngineM (List Event) := do
  let cfg := ctx.settings.exchange
  let x ← exchangeNow
  gather (fun symbol => do
    let s ← securityAt symbol
    if s.haltUntilTick.all (tick < ·) then pure []
    else
      modifySecurity symbol fun s => { s with
        haltUntilTick := none
        referencePriceCents := s.lastPriceCents }
      let event ← emit tick .tradingResumed
        [("symbol", .str s.symbol), ("reopen_auction_price_cents", .int s.lastPriceCents),
          ("new_band_bp", .int
            (if cfg.maxHaltsPerSession ≤ s.breakerCount then 5000 else cfg.bandBp))]
        none [s.symbol]
      pure [event]) (x.securities.sortedEntries.map Prod.fst)

section Matching

variable [Uuid5]

/-! ## Matching -/

/-- Settle the fills of a matcher in order, until one leaves the band or
`stop` holds after a settlement. -/
def settleFills (symbol : String) (tick : Int) (stop : ExchangeState → Bool) :
    List Fill → EngineM (List Event)
  | [] => pure []
  | fill :: fills => do
    let security ← securityAt symbol
    if ¬inBand ctx.settings.exchange security fill.priceCents then
      triggerBreaker ctx symbol tick fill.priceCents
    else
      let settled ← settle ctx.settings.exchange fill tick
      let x ← exchangeNow
      if stop x then pure settled
      else
        let rest ← settleFills symbol tick stop fills
        pure (settled ++ rest)

/-- The crossing pairs of one trader's own orders. -/
def selfCrossPairs (x : ExchangeState) (symbol : String) : List (OrderState × OrderState) :=
  let active := x.orders.values.filter fun o => o.symbol = symbol && o.status.active
  (active.filter fun o => o.side = .buy).flatMap fun bid =>
    (active.filter fun ask =>
      ask.side = .sell && bid.traderId = ask.traderId && crosses bid ask).map fun ask => (bid, ask)

/-- The order a self-cross gives up: the newer of the first crossing pair. -/
def selfCrossVictim (pairs : List (OrderState × OrderState)) : Option String :=
  match sortedBy (fun p : OrderState × OrderState =>
      toLex (p.1.traderId, toLex (p.1.orderId, p.2.orderId))) pairs with
  | [] => none
  | (bid, ask) :: _ =>
    let age (o : OrderState) : Int ×ₗ Nat ×ₗ String :=
      toLex (o.submittedTick, toLex (o.arrivalOrdinal, o.orderId))
    some (if age bid < age ask then ask.orderId else bid.orderId)

/-- The loop of `_cancel_self_crosses`; every round cancels an active order,
so as many rounds as there are active orders are enough. -/
def cancelSelfCrosses (symbol : String) (tick : Int) : Nat → EngineM (List Event)
  | 0 => pure []
  | rounds + 1 => do
    let x ← exchangeNow
    match selfCrossVictim (selfCrossPairs x symbol) with
    | none => pure []
    | some orderId =>
      let cancelled ← cancel orderId tick "stp" false
      let rest ← cancelSelfCrosses symbol tick rounds
      pure (cancelled ++ rest)

/-- The active orders. -/
def activeCount (x : ExchangeState) : Nat := (x.orders.values.filter fun o => o.status.active).length

/-- `_match_call(symbol)`. -/
def matchCall (symbol : String) (tick : Int) : EngineM (List Event) := do
  let security ← securityAt symbol
  if security.status ≠ .listed then pure []
  else
    let x ← exchangeNow
    let orders := x.orders.values.filter fun o => o.symbol = symbol && o.status.active
    let settled ← settleFills ctx symbol tick (fun _ => false)
      (callAuction orders security.referencePriceCents)
    let x ← exchangeNow
    let crossed ← cancelSelfCrosses symbol tick (activeCount x + 1)
    let x ← exchangeNow
    let unfilled ← gather (fun orderId => do
      let o ← orderAt orderId
      if o.symbol = symbol ∧ o.orderType = .market ∧ o.status.active then
        cancel orderId tick "market_unfilled" false
      else pure []) (orderIds x)
    let snapshot ← bookSnapshot symbol tick
    pure (settled ++ crossed ++ unfilled ++ [snapshot])

/-- `_match_continuous(incoming)`. -/
def matchContinuous (orderId : String) (tick : Int) : EngineM (List Event) := do
  let incoming ← orderAt orderId
  let _ ← securityAt incoming.symbol
  let x ← exchangeNow
  let resting := (x.orders.entries.filter fun e =>
    e.2.orderId ≠ orderId && e.2.submittedTick ≤ tick).map Prod.fst
  let crossed ← gather (fun restingId => do
    let o ← orderAt restingId
    if o.traderId = incoming.traderId ∧ crosses incoming o then cancel restingId tick "stp" false
    else pure []) (resting.insertionSort (· ≤ ·))
  let x ← exchangeNow
  let incoming ← orderAt orderId
  let settled ← settleFills ctx incoming.symbol tick
    (fun x => (x.orders.get? orderId).any fun o => o.status = .filled)
    (continuousMatches incoming (resting.filterMap x.orders.get?))
  let incoming ← orderAt orderId
  let unfilled ← onlyIf (incoming.orderType = .market ∧ incoming.status.active)
    (cancel orderId tick "market_unfilled" false)
  let snapshot ← bookSnapshot incoming.symbol tick
  pure (crossed ++ settled ++ unfilled ++ [snapshot])

/-! ## Margins -/

/-- The name the id of a forced cover is hashed from. -/
def forcedCoverName (position : ShortPositionState) (tick : Int) : String :=
  "polis.action|" ++ position.traderId ++ "|" ++ toString tick ++ "|0|submit_order|\x7b'symbol': '"
    ++ position.symbol ++ "', 'side': 'buy', 'order_type': 'market', 'qty': "
    ++ toString position.qty
    ++ ", 'limit_price_cents': None, 'flags': ['forced_liquidation']\x7d"

/-- `NAMESPACE_URL`. -/
def namespaceUrl : UUID := "6ba7b811-9dad-11d1-80b4-00c04fd430c8"

/-- `_forced_cover_actions(tick)`. -/
def forcedCoverActions (x : ExchangeState) (tick : Int) : List OrderRequest :=
  let due := x.shorts.values.filter fun p =>
    p.status = .opened && 0 < p.qty && p.marginDeadlineTick.any (· ≤ tick) &&
      !x.orders.values.any fun o => o.traderId = p.traderId && o.symbol = p.symbol &&
        OrderState.has o "forced_liquidation" && o.status.active
  (sortedBy (fun p : ShortPositionState => toLex (p.traderId, p.symbol)) due).map fun p => {
    actionId := Uuid5.uuid5 namespaceUrl (forcedCoverName p tick)
    actorId := p.traderId
    symbol := upper p.symbol
    isShort := false
    side := .buy
    orderType := .market
    qty := p.qty
    limitPriceCents := none
    collateralCents := 0
    flags := ["forced_liquidation"] }

/-- The legs that distribute a borrow fee. -/
def borrowFeeLegs (L : Ledger) (source : AccountId) : List (String × Int) →
    Except PyError (List Leg)
  | [] => .ok []
  | (holderId, cents) :: rest => do
    let here ← legsIf (cents ≠ 0) do
      let deposit ← depositAccount L holderId
      Ledger.transfer source deposit cents "trade"
    let others ← borrowFeeLegs L source rest
    .ok (here ++ others)

/-- The margin call on one position. -/
def marginCall (key : String) (position : ShortPositionState) (mark tick : Int) :
    EngineM (List Event) := do
  let cfg := ctx.settings.exchange
  let loss := max 0 ((mark - position.entryPriceCents) * position.qty)
  let equity := position.collateralCents - loss
  let required := bpCeil (mark * position.qty) cfg.maintenanceMarginBp
  if equity < required ∧ position.marginDeadlineTick = none then
    let deadline := tick + ctx.settings.clock.ticksPerSimDay
    modifyExchange fun x => { x with
      shorts := x.shorts.modify key fun p => { p with marginDeadlineTick := some deadline } }
    let event ← emit tick .marginCall
      [("trader_id", .str position.traderId), ("symbol", .str position.symbol),
        ("equity_cents", .int equity), ("required_cents", .int required),
        ("deadline_tick", .int deadline)]
      (some position.traderId) [position.symbol]
    pure [event]
  else pure []

/-- The borrow fee of one position, once a day. -/
def borrowFee (position : ShortPositionState) (mark tick : Int) : EngineM (List Event) := do
  let clock := ctx.settings.clock
  let ticksPerYear := clock.ticksPerSimDay * clock.daysPerSimYear
  if position.openedTick < tick ∧ tick % clock.ticksPerSimDay = 0 then
    let fee := bpCeil (mark * position.qty) position.borrowFeeBp
      / max 1 (ticksPerYear / clock.ticksPerSimDay)
    let x ← exchangeNow
    let longs := (x.holdings.values.filter fun h => h.symbol = position.symbol && 0 < h.qty).map
      fun h => (h.holderId, h.qty)
    let L ← ledgerNow
    let source ← liftE (depositAccount L position.traderId)
    let available ← liftE (L.balance source)
    if 0 < fee ∧ longs ≠ [] ∧ fee ≤ available then
      let distribution ← liftE (allocate fee longs)
      let legs ← liftE (borrowFeeLegs L source distribution.sortedEntries)
      let expectedTxn ← nextTxnId tick
      let event ← emit tick .borrowFeeCharged
        [("trader_id", .str position.traderId), ("symbol", .str position.symbol),
          ("cents", .int fee), ("distributed_to", .ints distribution.sortedEntries),
          ("txn_id", .str expectedTxn)]
        (some position.traderId) [position.symbol]
      let txnId ← post (coalesce legs) tick event
      require (txnId = expectedTxn) (.runtime "borrow-fee ledger ordinal diverged")
      pure [event]
    else pure []
  else pure []

/-- `_mark_shorts(tick)`. -/
def markShorts (tick : Int) : EngineM (List Event) := do
  let x ← exchangeNow
  gather (fun key => do
    let x ← exchangeNow
    let position ← orRaise (x.shorts.get? key) (.key key)
    if position.status ≠ .opened ∨ position.qty ≤ 0 then pure []
    else
      let security ← securityAt position.symbol
      let called ← marginCall ctx key position security.lastPriceCents tick
      let charged ← borrowFee ctx position security.lastPriceCents tick
      pure (called ++ charged)) (x.shorts.sortedEntries.map Prod.fst)

/-- `_close_session(tick)`. -/
def closeSession (tick : Int) : EngineM (List Event) := do
  let x ← exchangeNow
  let expired ← gather (fun orderId => do
    let o ← orderAt orderId
    if o.status.active then cancel orderId tick "session" true else pure []) (orderIds x)
  let x ← exchangeNow
  let sessionTrades := x.trades.filter fun t => t.tick = tick
  let data ← gather (fun symbol => do
    let s ← securityAt symbol
    if s.status ≠ .listed then pure [] else marketData symbol tick)
    (x.securities.sortedEntries.map Prod.fst)
  let index ← computeIndex tick
  let x ← exchangeNow
  let event ← emit tick .sessionClosed
    [("session_id", .str (x.sessionId.getD (sessionIdOf tick))), ("tick", .int tick),
      ("closing_auction", .dict []), ("trades_n", .int sessionTrades.length),
      ("volume", .int (sessionTrades.map TradeState.qty).sum),
      ("notional_cents", .int (sessionTrades.map fun t => t.qty * t.priceCents).sum)]
  modifyExchange fun x => { x with sessionId := none, sessionTick := none }
  pure (expired ++ data ++ index ++ [event])

/-! ## Resolution -/

/-- The order requests by symbol. -/
def bySymbol (requests : List OrderRequest) : Dict String (List OrderRequest) :=
  requests.foldl (fun d r => d.put r.symbol (d.getD r.symbol [] ++ [r])) ∅

/-- Take the orders of one symbol in, in their arrival order. -/
def admitAll (openNow opening closing : Bool) (tick : Int) :
    Nat → List OrderRequest → EngineM (List Event)
  | _, [] => pure []
  | ordinal, r :: rest => do
    let (order, admitted) ← admitOrder ctx r ordinal tick openNow
    let matched ← gather (fun orderId =>
      onlyIf (ctx.settings.clock.profile = .microscope ∧ ¬opening ∧ ¬closing)
        (matchContinuous ctx orderId tick)) order.toList
    let others ← admitAll openNow opening closing tick (ordinal + 1) rest
    pure (admitted ++ matched ++ others)

/-- The cancel requests, by actor and action. -/
def cancelRequests (actions : List ExchangeAction) : List (String × CancelOrderParams) :=
  (sortedBy (fun a : ExchangeAction => toLex (a.actorId, a.actionId)) actions).filterMap fun a =>
    match a.params with
    | .cancelOrder p => some (a.actorId, p)
    | _ => none

/-- The offerings asked for, by actor and action. -/
def ipoRequests (actions : List ExchangeAction) : List (ExchangeAction × IpoListParams) :=
  (sortedBy (fun a : ExchangeAction => toLex (a.actorId, a.actionId)) actions).filterMap fun a =>
    match a.params with
    | .ipoList p => some (a, p)
    | _ => none

/-- `resolve(actions, tick)`. -/
def resolve (actions : List ExchangeAction) (tick : Int) : EngineM (List Event) := do
  if ¬ctx.settings.exchange.enabled then pure []
  else
    let bootstrapped ← bootstrapListing ctx tick
    let (openNow, opening, closing) := sessionState ctx tick
    let opened ← onlyIf opening do
      let event ← openSession tick
      pure [event]
    let cancelled ← gather (fun c => cancelAction c.1 c.2 tick) (cancelRequests actions)
    let announced ← gather (fun a => announceIpo ctx a.1.actionId a.1.actorId a.2 tick)
      (ipoRequests actions)
    let x ← exchangeNow
    let requests := actions.filterMap orderRequest? ++ forcedCoverActions x tick
    let admitted ← gather (fun (group : String × List OrderRequest) =>
      let ordered := sortedBy (fun r : OrderRequest => toLex (r.actorId, r.actionId)) group.2
      admitAll ctx openNow opening closing tick 0
        (shuffle (ctx.word "exchange.arrival" group.1 tick) ordered))
      (bySymbol requests).sortedEntries
    let called ← onlyIf (ctx.settings.clock.profile = .chronicle ∨ opening ∨ closing) do
      let x ← exchangeNow
      gather (fun symbol => matchCall ctx symbol tick) (x.securities.sortedEntries.map Prod.fst)
    let completed ← closeIpos ctx tick
    let resumed ← resumeHalts ctx tick
    let marked ← markShorts ctx tick
    let closed ← onlyIf (ctx.settings.clock.profile = .chronicle ∨ closing) (closeSession tick)
    pure (bootstrapped ++ opened ++ cancelled ++ announced ++ admitted ++ called ++ completed
      ++ resumed ++ marked ++ closed)

end Matching

end Polis.Economy.Exchange
