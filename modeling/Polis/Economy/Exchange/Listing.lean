/-
  Polis.Economy.Exchange.Listing — listings and the close of an offering
  (`economy/exchange/engine.py`).

  A listing hands out the initial shares.  An offering closes by pricing its
  book, paying everything out of the investors' escrow in one transaction, and
  listing the security.
-/
import Polis.Economy.Exchange.Admit

namespace Polis.Economy.Exchange

open Lib Lib.Effect Sim

variable (ctx : Ctx)

/-! ## Index divisor -/

/-- The securities an index is made of. -/
def constituents (x : ExchangeState) : List SecurityState :=
  x.securities.values.filter fun s => s.status = .listed && s.securityClass = .common

/-- The market value of a list of securities. -/
def marketCap (rows : List SecurityState) : Int :=
  (rows.map fun s => s.lastPriceCents * s.sharesOutstanding).sum

/-- `_reset_index_divisor()`. -/
def resetIndexDivisor (x : ExchangeState) : ExchangeState :=
  let mcap := marketCap (constituents x)
  if 0 < mcap then
    let latestTick := x.indexHistoryBp.keys.max?
    let currentValue := (latestTick.bind x.indexHistoryBp.get?).getD 10000
    { x with indexDivisor := some (max 1 (10000 * mcap / max 1 currentValue)) }
  else x

/-! ## Listing -/

/-- Hand out the initial shares, in holder order. -/
def allot (symbol : String) (priceCents : Int) (founderId : Option String) :
    List (String × Int) → ExchangeState → ExchangeState
  | [], x => x
  | (holderId, qty) :: rest, x =>
    let holding := x.holdingRow holderId symbol
    let holding := { holding with qty := holding.qty + qty, avgCostCents := priceCents }
    let holding := if founderId = some holderId then { holding with lockedQty := qty } else holding
    allot symbol priceCents founderId rest (x.putHolding holderId symbol holding)

/-- The holders a listing starts with: those given, else the founder. -/
def initialHolders (e : EconomyState) (issuerFirmId : String) (sharesOutstanding : Int)
    (holders : Dict String Int) : Except PyError (Dict String Int) :=
  if holders.entries = [] then
    match e.firms.get? issuerFirmId with
    | none => .error (.key issuerFirmId)
    | some firm => .ok ((∅ : Dict String Int).put firm.founderId sharesOutstanding)
  else .ok holders

/-- The founder whose shares are locked, when the listing has a lockup. -/
def lockedFounder (e : EconomyState) (issuerFirmId : String) (lockupUntilTick : Option Int) :
    Except PyError (Option String) :=
  if lockupUntilTick.isSome then
    match e.firms.get? issuerFirmId with
    | none => .error (.key issuerFirmId)
    | some firm => .ok (some firm.founderId)
  else .ok none

/-- `list_security(...)`; an empty `holders` stands for none given. -/
def listSecurity (symbol issuerFirmId : String) (sharesOutstanding listingPriceCents tick : Int)
    (holders : Dict String Int) (ipoRoundId : Option String) (lockupUntilTick : Option Int) :
    EngineM (List Event) := do
  let symbol := upper symbol
  let e ← economyNow
  require (e.exchange.securities.contains symbol = false)
    (.value ("security already exists: " ++ symbol))
  require (0 < sharesOutstanding ∧ 0 < listingPriceCents)
    (.value "listing shares and price must be positive")
  let allocation ← liftE (initialHolders e issuerFirmId sharesOutstanding holders)
  require (allocation.values.sum = sharesOutstanding)
    (.value "initial holdings must equal shares outstanding")
  let security : SecurityState := {
    symbol
    issuerFirmId
    securityClass := .common
    sharesOutstanding
    listedTick := tick
    listingPriceCents
    lastPriceCents := listingPriceCents
    referencePriceCents := listingPriceCents
    ipoRoundId
    lockupUntilTick }
  modifyExchange fun x => { x with securities := x.securities.put symbol security }
  let locked ← liftE (lockedFounder e issuerFirmId lockupUntilTick)
  modifyExchange (allot symbol listingPriceCents locked allocation.sortedEntries)
  modifyExchange resetIndexDivisor
  let event ← emit tick .securityListed
    [("symbol", .str symbol), ("issuer_firm_id", .str issuerFirmId), ("class", .str "common"),
      ("shares_outstanding", .int sharesOutstanding),
      ("listing_price_cents", .int listingPriceCents), ("ipo_round_id", .ofStr? ipoRoundId),
      ("lockup_until_tick", .ofInt? lockupUntilTick)]
    none [issuerFirmId]
  pure [event]

/-- `_bootstrap_listing(tick)`. -/
def bootstrapListing (tick : Int) : EngineM (List Event) := do
  let cfg := ctx.settings.exchange
  let e ← economyNow
  match cfg.bootstrapListingDay with
  | none => pure []
  | some day =>
    if tick ≠ day * ctx.settings.clock.ticksPerSimDay ∨ e.exchange.securities.entries ≠ [] then
      pure []
    else
      let firms := sortedBy FirmState.firmId e.firms.values
      match firms.find? fun f => f.status = .active && f.firmId ≠ "fm_broker" with
      | none => pure []
      | some firm =>
        listSecurity "POLS" firm.firmId cfg.bootstrapShares cfg.bootstrapPriceCents tick
          ((∅ : Dict String Int).put firm.founderId cfg.bootstrapShares) none none

section Cancelling

variable [Uuid5]

/-- `delist(symbol, reason)`. -/
def delist (symbol reason : String) (tick : Int) : EngineM (List Event) := do
  let _ ← securityAt symbol
  let x ← exchangeNow
  let cancelled ← gather (fun orderId => do
    let order ← orderAt orderId
    if order.symbol = symbol ∧ order.status.active then cancel orderId tick "session" false
    else pure []) (orderIds x)
  modifySecurity symbol fun s => { s with status := .delisted, delistedTick := some tick }
  let security ← securityAt symbol
  let x ← exchangeNow
  let holdersN := (x.holdings.values.filter fun h => h.symbol = symbol && h.qty ≠ 0).length
  let event ← emit tick .securityDelisted
    [("symbol", .str symbol), ("reason", .str reason),
      ("final_price_cents", .int security.lastPriceCents), ("holders_n", .int holdersN)]
    none [security.issuerFirmId]
  modifyExchange resetIndexDivisor
  pure (cancelled ++ [event])

/-- What `cancel_entity` reports. -/
structure Released where
  events : List Event := []
  orderIds : List String := []
  cents : Int := 0
  shares : Dict String Int := ∅

/-- `cancel_entity(entity_id, initiator=)`. -/
def cancelEntity (entityId : String) (tick : Int) (initiator : String := "stay") :
    EngineM Released := do
  let x ← exchangeNow
  let released ← foldEff (fun (acc : Released) orderId => do
    let order ← orderAt orderId
    if order.traderId ≠ entityId ∨ ¬order.status.active then pure acc
    else
      let events ← cancel orderId tick initiator false
      pure {
        events := acc.events ++ events
        orderIds := acc.orderIds ++ [orderId]
        cents := acc.cents + order.reservedCents
        shares := acc.shares.put order.symbol
          (acc.shares.getD order.symbol 0 + order.reservedQty) })
    ({} : Released) (orderIds x)
  pure { released with shares := released.shares.sort }

end Cancelling

/-! ## Closing an offering -/

/-- The highest indicated price that sells every offered share, else the low
end of the range. -/
def clearingPrice (ipo : IpoState) : Int :=
  let prices := (ipo.indications.values.map Prod.snd).dedup.insertionSort (· ≥ ·)
  let demandAt (price : Int) : Int :=
    ((ipo.indications.values.filter fun i => price ≤ i.2).map Prod.fst).sum
  (prices.find? fun price => ipo.sharesOffered ≤ demandAt price).getD ipo.priceLowCents

/-- The offer price: the clearing price less the discount, on the tick grid. -/
def offerPrice (cfg : ExchangeSettings) (clearing : Int) : Int :=
  let offer := max cfg.tickSizeCents (clearing * (10000 - cfg.underwriterDiscountBp) / 10000)
  offer - offer % cfg.tickSizeCents

/-- The legs that pay one allotted investor's reservation out. -/
def allottedLegs (L : Ledger) (ipo : IpoState) (offer sold primarySold : Int)
    (firmDeposit founderDeposit : AccountId) (investor : String) (allocation : Int) :
    Except PyError (List Leg) := do
  let escrow ← escrowId L investor "exchange"
  let paid := allocation * offer
  match ipo.indications.get? investor with
  | none => .error (.key investor)
  | some (indicatedQty, indicatedPrice) => do
    let reserved := indicatedQty * indicatedPrice
    let primaryAmount := paid * primarySold / max 1 sold
    let secondaryAmount := paid - primaryAmount
    let toFirm ← legsIf (paid ≠ 0 ∧ primaryAmount ≠ 0)
      (Ledger.transfer escrow firmDeposit primaryAmount "trade")
    let toFounder ← legsIf (paid ≠ 0 ∧ secondaryAmount ≠ 0)
      (Ledger.transfer escrow founderDeposit secondaryAmount "trade")
    let release := reserved - paid
    let toInvestor ← legsIf (release ≠ 0) do
      let deposit ← depositAccount L investor
      Ledger.transfer escrow deposit release "escrow"
    .ok (toFirm ++ toFounder ++ toInvestor)

/-- The legs that return one unallotted investor's reservation. -/
def returnedLegs (L : Ledger) (investor : String) (indication : Int × Int) :
    Except PyError (List Leg) := do
  let escrow ← escrowId L investor "exchange"
  let deposit ← depositAccount L investor
  Ledger.transfer escrow deposit (indication.1 * indication.2) "escrow"

/-- The legs that pay the underwriter and the listing fee. -/
def feeLegs (firmDeposit underwriterDeposit treasuryDeposit : AccountId)
    (underwritingFee listingFee : Int) : Except PyError (List Leg) := do
  let toUnderwriter ← legsIf (underwritingFee + listingFee ≠ 0 ∧ underwritingFee ≠ 0)
    (Ledger.transfer firmDeposit underwriterDeposit underwritingFee "trade")
  let toTreasury ← legsIf (underwritingFee + listingFee ≠ 0 ∧ listingFee ≠ 0)
    (Ledger.transfer firmDeposit treasuryDeposit listingFee "trade")
  .ok (toUnderwriter ++ toTreasury)

/-- The investors whose limit reaches the offer price. -/
def eligible (ipo : IpoState) (offer : Int) : List (String × Int) :=
  (ipo.indications.sortedEntries.filter fun e => offer ≤ e.2.2).map fun e => (e.1, e.2.1)

variable [Uuid5]

/-- `_complete_ipo(ipo)`. -/
def completeIpo (ipoKey : String) (tick : Int) : EngineM (List Event) := do
  let cfg := ctx.settings.exchange
  let x ← exchangeNow
  let ipo ← orRaise (x.ipos.get? ipoKey) (.key ipoKey)
  let setStatus (status : IpoStatus) : EngineM Unit :=
    modifyExchange fun x => { x with ipos := x.ipos.modify ipoKey fun row => { row with status } }
  if ipo.indications.entries = [] then do
    setStatus .failed
    pure []
  else
    let clearing := clearingPrice ipo
    let offer := offerPrice cfg clearing
    let candidates := eligible ipo offer
    let totalDemand := (candidates.map Prod.snd).sum
    let sold := min ipo.sharesOffered totalDemand
    let allocations ← liftE (allocate sold candidates)
    let priced ← emit tick .ipoPriced
      [("firm_id", .str ipo.firmId), ("symbol", .str ipo.symbol),
        ("clearing_price_cents", .int clearing), ("offer_price_cents", .int offer),
        ("discount_bp", .int cfg.underwriterDiscountBp),
        ("oversubscription_bp", .int (10000 * totalDemand / ipo.sharesOffered))]
      none [ipo.firmId]
    let gross := sold * offer
    let underwritingFee := bpCeil gross cfg.underwritingFeeBp
    let listingFee := min cfg.listingFeeCents (max 0 (gross - underwritingFee))
    let primarySold := min ipo.primaryShares sold
    let secondarySold := sold - primarySold
    let e ← economyNow
    let L := e.ledger
    let firmDeposit ← liftE (depositAccount L ipo.firmId)
    let firm ← orRaise (e.firms.get? ipo.firmId) (.key ipo.firmId)
    let founderDeposit ← liftE (depositAccount L firm.founderId)
    let underwriterDeposit ← liftE (depositAccount L ipo.underwriterBankId)
    let treasuryDeposit ← liftE (depositAccount L "gv_treasury")
    let allotted ← gather (fun a => liftE
      (allottedLegs L ipo offer sold primarySold firmDeposit founderDeposit a.1 a.2))
      allocations.sortedEntries
    let returned ← gather (fun i =>
      if allocations.contains i.1 then pure [] else liftE (returnedLegs L i.1 i.2))
      ipo.indications.sortedEntries
    let fees ← liftE
      (feeLegs firmDeposit underwriterDeposit treasuryDeposit underwritingFee listingFee)
    let expectedTxn ← nextTxnId tick
    let completed ← emit tick .ipoCompleted
      [("firm_id", .str ipo.firmId), ("symbol", .str ipo.symbol),
        ("allocations", .ints allocations.sortedEntries), ("gross_proceeds_cents", .int gross),
        ("primary_cents", .int (primarySold * offer)),
        ("secondary_cents", .int (secondarySold * offer)),
        ("underwriting_fee_cents", .int underwritingFee), ("listing_fee_cents", .int listingFee),
        ("txn_id", .str expectedTxn)]
      none [ipo.firmId]
    let txnId ← post (coalesce (allotted ++ returned ++ fees)) tick completed
    require (txnId = expectedTxn) (.runtime "IPO ledger ordinal diverged")
    let totalShares := max cfg.bootstrapShares ipo.sharesOffered
    let holders := allocations.put firm.founderId
      (allocations.getD firm.founderId 0 + totalShares - sold)
    setStatus .completed
    let listed ← listSecurity ipo.symbol ipo.firmId totalShares offer tick holders (some ipo.ipoId)
      (some (tick + cfg.lockupDays * ctx.settings.clock.ticksPerSimDay))
    pure (priced :: completed :: listed)

/-- `_close_ipos(tick)`. -/
def closeIpos (tick : Int) : EngineM (List Event) := do
  let x ← exchangeNow
  gather (fun key => do
    let x ← exchangeNow
    let ipo ← orRaise (x.ipos.get? key) (.key key)
    if ipo.status ≠ .announced ∨ tick < ipo.bookCloseTick then pure []
    else completeIpo ctx key tick) (x.ipos.sortedEntries.map Prod.fst)

end Polis.Economy.Exchange
