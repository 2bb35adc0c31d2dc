/-
  Polis.Economy.Exchange.Admit — orders, offerings and indications
  (`economy/exchange/engine.py`).

  An action that passes the parameter models becomes an order when it passes
  every check of `_admit`: its cents move into escrow, or its shares are
  reserved.  An order flagged `ipo` is an indication in an open book instead.
-/
import Polis.Economy.Exchange.Settle

namespace Polis.Economy.Exchange

open Lib Lib.Effect Sim

/-! ## Actions -/

/-- `SubmitOrderParams`. -/
structure SubmitOrderParams where
  symbol : String
  side : OrderSide
  orderType : OrderType := .limit
  qty : Int
  limitPriceCents : Option Int := none
  flags : List String := []
  qty_pos : 1 ≤ qty := by decide
  limit_pos : ∀ p, limitPriceCents = some p → 1 ≤ p := by decide

/-- `ShortParams`. -/
structure ShortParams where
  symbol : String
  qty : Int
  limitPriceCents : Int
  collateralCents : Int
  qty_pos : 1 ≤ qty := by decide
  limit_pos : 1 ≤ limitPriceCents := by decide
  collateral_pos : 1 ≤ collateralCents := by decide

/-- `CancelOrderParams`. -/
structure CancelOrderParams where
  orderId : String

/-- `IpoListParams`. -/
structure IpoListParams where
  firmId : String
  symbol : String
  sharesOffered : Int
  primaryShares : Int
  secondaryShares : Int
  priceLowCents : Int
  priceHighCents : Int
  underwriterBankId : String
  shares_pos : 1 ≤ sharesOffered := by decide
  primary_nonneg : 0 ≤ primaryShares := by decide
  secondary_nonneg : 0 ≤ secondaryShares := by decide
  low_pos : 1 ≤ priceLowCents := by decide
  high_pos : 1 ≤ priceHighCents := by decide

/-- The parameters of an exchange action, by its type. -/
inductive ExchangeParams where
  | submitOrder (params : SubmitOrderParams)
  | short (params : ShortParams)
  | cancelOrder (params : CancelOrderParams)
  | ipoList (params : IpoListParams)

/-- An `Action` of one of the exchange's types. -/
structure ExchangeAction where
  actionId : UUID
  actorId : String
  params : ExchangeParams

/-- `str.upper()`, on letters without accents. -/
def upper (s : String) : String := s.map Char.toUpper

/-- The order a `SUBMIT_ORDER` or a `SHORT` action asks for: what `_admit`
reads from its parameters, defaults filled in. -/
structure OrderRequest where
  actionId : UUID
  actorId : String
  symbol : String
  isShort : Bool
  side : OrderSide
  orderType : OrderType
  qty : Int
  limitPriceCents : Option Int
  collateralCents : Int
  flags : List String

/-- The order requests among the actions. -/
def orderRequest? (action : ExchangeAction) : Option OrderRequest :=
  match action.params with
  | .submitOrder p => some {
      actionId := action.actionId
      actorId := action.actorId
      symbol := upper p.symbol
      isShort := false
      side := p.side
      orderType := p.orderType
      qty := p.qty
      limitPriceCents := p.limitPriceCents
      collateralCents := 0
      flags := p.flags }
  | .short p => some {
      actionId := action.actionId
      actorId := action.actorId
      symbol := upper p.symbol
      isShort := true
      side := .sell
      orderType := .limit
      qty := p.qty
      limitPriceCents := some p.limitPriceCents
      collateralCents := p.collateralCents
      flags := [] }
  | _ => none

/-- `action_id` without dashes, cut to `width` digits. -/
def hexPrefix (actionId : UUID) (width : Nat) : String :=
  String.ofList ((actionId.toList.filter (· ≠ '-')).take width)

/-- The id of the order an action places. -/
def orderIdOf (actionId : UUID) : String := "or_" ++ hexPrefix actionId 24

/-- The id of the offering an action announces. -/
def ipoIdOf (actionId : UUID) : String := "ipo_" ++ hexPrefix actionId 20

/-! ## Rejections and escrow -/

/-- `_reject(action, symbol, reason, detail)`. -/
def reject (actorId symbol reason : String) (detail : List (String × Value)) (tick : Int) :
    EngineM Event :=
  emit tick .orderRejected
    [("trader_id", .str actorId), ("symbol", .str symbol), ("reason", .str reason),
      ("detail", .dict detail)]
    (some actorId) (if symbol = "" then [] else [symbol])

/-- `_under_stay(entity_id)`. -/
def underStay (e : EconomyState) (entityId : String) : Bool :=
  e.ventures.bankruptcies.values.any fun c => c.entityId = entityId && c.status = .opened

variable (ctx : Ctx)

/-- The owner type an escrow account is opened for. -/
def ownerType (ownerId : String) : String :=
  if ownerId ∈ ctx.agents then "agent" else "institution"

/-- `_escrow_account(owner_id, ref)`: the account, opened when there is none. -/
def escrowAccount (ownerId ref : String) (tick : Int) : EngineM (AccountId × List Event) := do
  let L ← ledgerNow
  let value ← liftE (escrowId L ownerId ref)
  if L.isOpen value then pure (value, [])
  else
    let _ ← onLedger
      (Ledger.openAccount .esc ownerId (ownerType ctx ownerId) value.bankId (some ref) tick)
    let event ← emit tick .accountOpened
      [("account_id", .str value.text), ("owner_id", .str ownerId),
        ("owner_type", .str (ownerType ctx ownerId)), ("bank_id", .ofStr? value.bankId),
        ("account_type", .str "escrow"), ("code", .str "esc")]
      none [ownerId]
    pure (value, [event])

/-! ## Admission -/

/-- Why an order is turned away: the reason and its detail. -/
abbrev Rejection := String × List (String × Value)

/-- `"forced_liquidation" in flags`. -/
def OrderRequest.forced (r : OrderRequest) : Bool := "forced_liquidation" ∈ r.flags

/-- The flags an order is stored with. -/
def OrderRequest.orderFlags (r : OrderRequest) : List String :=
  if r.isShort then ((r.flags ++ ["opens_short"]).dedup).insertionSort (· ≤ ·) else r.flags

/-- The shares sold short of a security. -/
def aggregateShort (x : ExchangeState) (symbol : String) : Int :=
  ((x.holdings.values.filter fun h => h.symbol = symbol).map fun h => max 0 (-h.qty)).sum

/-- The checks of `_admit` before anything is reserved; the price the
reservation is made at. -/
def screenOrder (e : EconomyState) (r : OrderRequest) (tick : Int) (sessionOpen : Bool) :
    Except Rejection Int :=
  let cfg := ctx.settings.exchange
  if underStay e r.actorId ∧ ¬r.forced then .error ("stay", [])
  else
    match e.exchange.securities.get? r.symbol with
    | none => .error ("no_security", [])
    | some security =>
      let maxQty := max 1 (security.sharesOutstanding * cfg.maxOrderQtyBp / 10000)
      let (lower, upper) := band cfg security
      let shortCap := security.sharesOutstanding * cfg.maxShortBp / 10000
      if security.status ≠ .listed then .error ("no_security", [])
      else if ¬sessionOpen then .error ("session_closed", [])
      else if security.haltUntilTick.any (tick < ·) then .error ("halted", [])
      else if r.qty ≤ 0 ∨ maxQty < r.qty then
        .error ("rate_limit", [("max_order_qty", .int maxQty)])
      else if r.orderType = .limit ∧ r.limitPriceCents = none then .error ("invalid_price", [])
      else if r.limitPriceCents.any (fun p =>
          p ≤ 0 || p % cfg.tickSizeCents ≠ 0 || p < lower || upper < p) then
        .error ("price_band", [("lower_cents", .int lower), ("upper_cents", .int upper)])
      else if r.isShort ∧ shortCap < aggregateShort e.exchange r.symbol + r.qty then
        .error ("short_cap", [("cap_qty", .int shortCap)])
      else .ok (r.limitPriceCents.getD upper)

/-- What an admitted order reserves. -/
structure Reservation where
  escrow : Option AccountId := none
  cents : Int := 0
  qty : Int := 0
  opened : List Event := []

/-- Reserve the cents of a buy. -/
def reserveBuy (r : OrderRequest) (reservePrice tick : Int) :
    EngineM (Except Rejection Reservation) := do
  let cents := reserveRequired ctx.settings.exchange r.qty reservePrice
  let L ← ledgerNow
  match depositAccount L r.actorId with
  | .error _ => pure (.error ("insufficient_reservation", []))
  | .ok deposit =>
    let available ← liftE (L.balance deposit)
    if available < cents then
      pure (.error ("insufficient_reservation", [("required_cents", .int cents)]))
    else
      let (escrow, opened) ← escrowAccount ctx r.actorId "exchange" tick
      pure (.ok { escrow := some escrow, cents, opened })

/-- Reserve the collateral of a short sale. -/
def reserveShort (r : OrderRequest) (reservePrice tick : Int) :
    EngineM (Except Rejection Reservation) := do
  let required := bpCeil (r.qty * reservePrice) ctx.settings.exchange.initialMarginBp
  if r.collateralCents < required then
    pure (.error ("insufficient_reservation", [("required_collateral_cents", .int required)]))
  else
    let L ← ledgerNow
    match depositAccount L r.actorId with
    | .error _ => pure (.error ("insufficient_reservation", []))
    | .ok deposit =>
      let available ← liftE (L.balance deposit)
      if available < r.collateralCents then pure (.error ("insufficient_reservation", []))
      else
        let (escrow, opened) ← escrowAccount ctx r.actorId (marginRef r.symbol) tick
        pure (.ok { escrow := some escrow, cents := r.collateralCents, opened })

/-- Reserve the shares of an ordinary sale; the holding row is created when
there is none. -/
def reserveSell (r : OrderRequest) : EngineM (Except Rejection Reservation) := do
  modifyExchange fun x => x.putHolding r.actorId r.symbol (x.holdingRow r.actorId r.symbol)
  let x ← exchangeNow
  let holding := x.holdingRow r.actorId r.symbol
  let locked := if r.forced then 0 else holding.lockedQty
  let available := holding.qty - holding.reservedQty - locked
  if max 0 available < r.qty then
    let reason := if holding.lockedQty ≠ 0 then "lockup" else "insufficient_reservation"
    pure (.error (reason, [("available_qty", .int (max 0 available))]))
  else
    modifyExchange fun x => x.putHolding r.actorId r.symbol
      { holding with reservedQty := holding.reservedQty + r.qty }
    pure (.ok { qty := r.qty })

/-- Reserve what an order needs. -/
def reserve (r : OrderRequest) (reservePrice tick : Int) :
    EngineM (Except Rejection Reservation) :=
  if r.side = .buy then reserveBuy ctx r reservePrice tick
  else if "opens_short" ∈ r.orderFlags then reserveShort ctx r reservePrice tick
  else reserveSell r

/-- The row an admitted order is stored as. -/
def orderRow (r : OrderRequest) (reserved : Reservation) (arrivalOrdinal : Nat) (tick : Int) :
    OrderState :=
  { orderId := orderIdOf r.actionId
    symbol := r.symbol
    traderId := r.actorId
    side := r.side
    orderType := r.orderType
    qty := r.qty
    remainingQty := r.qty
    limitPriceCents := r.limitPriceCents
    submittedTick := tick
    arrivalOrdinal
    reservedCents := reserved.cents
    reservedQty := reserved.qty
    flags := r.orderFlags }

/-- The text of an order type. -/
def orderTypeText : OrderType → String
  | .limit => "limit"
  | .market => "market"

variable [Uuid5]

/-- Pay the reserved cents of an order into escrow. -/
def reserveCents (traderId : String) (reserved : Reservation) (tick : Int) (cause : Event) :
    EngineM Unit := do
  if reserved.cents ≠ 0 then
    let L ← ledgerNow
    let source ← liftE (depositAccount L traderId)
    let escrow ← orRaise reserved.escrow (.key "escrow")
    let legs ← liftE (Ledger.transfer source escrow reserved.cents "escrow")
    let _ ← post legs tick cause

/-- Announce an admitted order, move its cents into escrow and store it. -/
def placeOrder (r : OrderRequest) (reserved : Reservation) (arrivalOrdinal : Nat) (tick : Int) :
    EngineM (List Event) := do
  let order := orderRow r reserved arrivalOrdinal tick
  let submitted ← emit tick .orderSubmitted
    [("order_id", .str order.orderId), ("symbol", .str order.symbol),
      ("trader_id", .str order.traderId), ("side", .str (sideText order.side)),
      ("order_type", .str (orderTypeText order.orderType)),
      ("limit_price_cents", .ofInt? order.limitPriceCents), ("qty", .int order.qty),
      ("tif", .str "day"), ("reserved_cents", .int order.reservedCents),
      ("reserved_qty", .int order.reservedQty), ("arrival_ordinal", .int arrivalOrdinal)]
    (some r.actorId) [r.symbol]
  reserveCents r.actorId reserved tick submitted
  let x ← exchangeNow
  note (.admitOrder x order.orderId)
  modifyExchange fun x => { x with orders := x.orders.put order.orderId order }
  pure (reserved.opened ++ [submitted])

/-- `_ipo_indication(action, symbol)`. -/
def ipoIndication (r : OrderRequest) (tick : Int) : EngineM (List Event) := do
  let x ← exchangeNow
  let announced := x.ipos.entries.find? fun e => e.2.symbol = r.symbol && e.2.status = .announced
  match announced with
  | none => do
    let event ← reject r.actorId r.symbol "no_security" [("ipo", .str "closed")] tick
    pure [event]
  | some (key, ipo) =>
    if ipo.bookCloseTick < tick then do
      let event ← reject r.actorId r.symbol "no_security" [("ipo", .str "closed")] tick
      pure [event]
    else
      let limitPrice := r.limitPriceCents.getD 0
      if r.qty ≤ 0 ∨ ¬(ipo.priceLowCents ≤ limitPrice ∧ limitPrice ≤ ipo.priceHighCents) then do
        let event ← reject r.actorId r.symbol "price_band" [("ipo", .bool true)] tick
        pure [event]
      else
        let required := r.qty * limitPrice
        let L ← ledgerNow
        match depositAccount L r.actorId with
        | .error _ => do
          let event ← reject r.actorId r.symbol "insufficient_reservation" [] tick
          pure [event]
        | .ok deposit =>
          let available ← liftE (L.balance deposit)
          if available < required then do
            let event ← reject r.actorId r.symbol "insufficient_reservation"
              [("required_cents", .int required)] tick
            pure [event]
          else
            let (escrow, opened) ← escrowAccount ctx r.actorId "exchange" tick
            let indication ← emit tick .ipoIndication
              [("firm_id", .str ipo.firmId), ("investor_id", .str r.actorId),
                ("qty", .int r.qty), ("limit_price_cents", .int limitPrice)]
              (some r.actorId) [ipo.firmId]
            let legs ← liftE (Ledger.transfer deposit escrow required "escrow")
            let _ ← post legs tick indication
            require (ipo.indications.get? r.actorId = none)
              (.value "one IPO indication per investor is permitted")
            modifyExchange fun x => { x with
              ipos := x.ipos.modify key fun row =>
                { row with indications := row.indications.put r.actorId (r.qty, limitPrice) } }
            pure (opened ++ [indication])

/-- `_admit(action, symbol, arrival_ordinal, session_open)`: the id of the
stored order, when there is one. -/
def admitOrder (r : OrderRequest) (arrivalOrdinal : Nat) (tick : Int) (sessionOpen : Bool) :
    EngineM (Option String × List Event) := do
  if ¬r.isShort ∧ "ipo" ∈ r.flags then
    let events ← ipoIndication ctx r tick
    pure (none, events)
  else
    let e ← economyNow
    match screenOrder ctx e r tick sessionOpen with
    | .error (reason, detail) => do
      let event ← reject r.actorId r.symbol reason detail tick
      pure (none, [event])
    | .ok reservePrice =>
      match ← reserve ctx r reservePrice tick with
      | .error (reason, detail) => do
        let event ← reject r.actorId r.symbol reason detail tick
        pure (none, [event])
      | .ok reserved => do
        let events ← placeOrder r reserved arrivalOrdinal tick
        pure (some (orderIdOf r.actionId), events)

/-! ## Offerings -/

/-- The firm may list: it is the actor's, not under a stay, and neither the
symbol nor an offering of it stands yet. -/
def ipoEligible (e : EconomyState) (actorId firmId symbol : String) : Option FirmState :=
  match e.firms.get? firmId with
  | none => none
  | some firm =>
    if firm.founderId ≠ actorId ∨ underStay e firmId ∨
        e.exchange.securities.contains symbol ∨
        e.exchange.ipos.values.any (fun row => row.symbol = symbol && row.status = .announced) then
      none
    else some firm

/-- The terms of an offering are sound and its fees are funded. -/
def ipoFunded (e : EconomyState) (p : IpoListParams) (firm : FirmState) (tick : Int) : Bool :=
  let cfg := ctx.settings.exchange
  let startup := e.ventures.startups.values.find? fun row => row.firmId = p.firmId
  let foundedTick := (startup.map StartupState.foundedTick).getD 0
  let minimumAgeTicks := cfg.ipoMinAgeDays * ctx.settings.clock.ticksPerSimDay
  let maximumFees :=
    bpCeil (p.sharesOffered * p.priceHighCents) cfg.underwritingFeeBp + cfg.listingFeeCents
  ¬(p.sharesOffered ≤ 0 ∨ p.primaryShares < 0 ∨ p.secondaryShares < 0 ∨
    p.primaryShares + p.secondaryShares ≠ p.sharesOffered ∨ p.priceLowCents ≤ 0 ∨
    p.priceHighCents < p.priceLowCents ∨ tick - foundedTick < minimumAgeTicks ∨
    firm.cumulativeRevenueCents < cfg.ipoMinRevenueCents ∨ e.ledger.netWorth p.firmId ≤ 0 ∨
    (e.banks.get? p.underwriterBankId).all (fun bank =>
      bank.isCentral || bank.status ≠ .active || bank.lendingFrozen) ∨
    e.ledger.liquid p.firmId < maximumFees)

/-- The row of an announced offering. -/
def ipoRow (p : IpoListParams) (ipoId symbol : String) (tick : Int) : IpoState :=
  { ipoId
    firmId := p.firmId
    symbol
    sharesOffered := p.sharesOffered
    primaryShares := p.primaryShares
    secondaryShares := p.secondaryShares
    priceLowCents := p.priceLowCents
    priceHighCents := p.priceHighCents
    underwriterBankId := p.underwriterBankId
    announcedTick := tick
    bookCloseTick :=
      tick + ctx.settings.exchange.ipoBookDays * ctx.settings.clock.ticksPerSimDay }

omit [Uuid5] in
/-- `_announce_ipo(action)`. -/
def announceIpo (actionId : UUID) (actorId : String) (p : IpoListParams) (tick : Int) :
    EngineM (List Event) := do
  let symbol := upper p.symbol
  let e ← economyNow
  match ipoEligible e actorId p.firmId symbol with
  | none => do
    let event ← reject actorId symbol "no_security" [("ipo", .str "ineligible")] tick
    pure [event]
  | some firm =>
    if ¬ipoFunded ctx e p firm tick then do
      let event ← reject actorId symbol "invalid_ipo"
        [("ipo", .str "eligibility_or_fee_funding")] tick
      pure [event]
    else
      let ipoId := ipoIdOf actionId
      let ipo := ipoRow ctx p ipoId symbol tick
      note (.announce e.exchange ipoId)
      modifyExchange fun x => { x with ipos := x.ipos.put ipoId ipo }
      let event ← emit tick .ipoAnnounced
        [("firm_id", .str p.firmId), ("symbol", .str symbol),
          ("shares_offered", .int p.sharesOffered), ("primary_shares", .int p.primaryShares),
          ("secondary_shares", .int p.secondaryShares),
          ("price_low_cents", .int p.priceLowCents), ("price_high_cents", .int p.priceHighCents),
          ("underwriter_bank_id", .str p.underwriterBankId),
          ("book_close_tick", .int ipo.bookCloseTick)]
        (some actorId) [p.firmId]
      pure [event]

/-! ## Cancel requests -/

/-- `_cancel_action(action)`. -/
def cancelAction (actorId : String) (p : CancelOrderParams) (tick : Int) :
    EngineM (List Event) := do
  let x ← exchangeNow
  match x.orders.get? p.orderId with
  | none => pure []
  | some order =>
    if order.traderId ≠ actorId ∨ ¬order.status.active ∨ tick ≤ order.submittedTick then pure []
    else cancel p.orderId tick "trader" false

end Polis.Economy.Exchange
