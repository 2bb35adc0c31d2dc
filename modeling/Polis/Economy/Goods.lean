/-
  Polis.Economy.Goods — purchases and their price windows
  (`economy/goods.py`).

  A purchase pays the seller, the sales tax and a subsidy, and enters the
  quantities sold into two windows: sales of the last 28 days, and prices of
  the last `cpi_window_days`.  A window drops its rows when they leave it; the
  list of transactions is never cut.

  Main results:
    * `checkpoint_round_trip` — an economy survives dump and load exactly when
      it has no transaction or some price window left.
-/
import Polis.Economy.Payments

namespace Polis.Economy.Goods

open Lib Lib.Effect Sim

/-! ## Purchases -/

theorem one_unit : 1 ≤ (1 : Int) ∧ (1 : Int) ≤ 1000 := by decide

/-- `BuyGoodParams`. -/
structure BuyGoodParams where
  sku : String
  qty : Int
  sellerFirmId : String
  maxUnitPriceCents : Int
  qty_range : 1 ≤ qty ∧ qty ≤ 1000 := by first | exact one_unit | decide

/-- A `BUY_GOOD` action. -/
structure BuyGoodAction where
  actorId : String
  params : BuyGoodParams

/-- `PurchaseBreakdown`. -/
structure PurchaseBreakdown where
  grossCents : Int
  salesTaxCents : Int
  subsidyCents : Int
  paidCents : Int
  deriving Repr, DecidableEq

/-- `_deposit_account(economy, owner_id)`: the first open deposit. -/
def depositAccount (L : Ledger) (ownerId : String) : Except PyError AccountId :=
  match (L.accountsOf ownerId).find? fun a => a.code = .dep ∧ L.isOpen a with
  | some a => .ok a
  | none => .error (.runtime ("owner " ++ ownerId ++ " has no open deposit"))

/-- The amounts of a purchase. -/
def breakdown (settings : Settings) (sku : SkuState) (qty unitPriceCents : Int) :
    PurchaseBreakdown :=
  let gross := qty * unitPriceCents
  let taxable := ¬(sku.isNecessity ∧ settings.treasury.tax.exemptNecessities)
  let salesTax := if taxable then bpCeil gross settings.treasury.tax.salesBp else 0
  let subsidy :=
    if sku.category = "health" then bp gross settings.treasury.spend.healthSubsidyBp else 0
  ⟨gross, salesTax, subsidy, gross + salesTax - subsidy⟩

/-- One payment of a purchase, left out when it is zero. -/
def payment (src dst : AccountId) (amountCents : Int) (reason : String) :
    Except PyError (List Leg) :=
  if amountCents = 0 then .ok [] else Ledger.transfer src dst amountCents reason

/-- `purchase_legs(buyer, seller, sku, qty, unit_price)`. -/
def purchaseLegs (settings : Settings) (e : EconomyState) (buyerId sellerFirmId sku : String)
    (qty unitPriceCents : Int) : Except PyError (List Leg × PurchaseBreakdown) := do
  if qty ≤ 0 ∨ unitPriceCents ≤ 0 then
    .error (.value "purchase quantity and unit price must be positive")
  else
    match e.skus.get? sku with
    | none => .error (.key sku)
    | some row => do
      let b := breakdown settings row qty unitPriceCents
      let buyerDeposit ← depositAccount e.ledger buyerId
      let sellerDeposit ← depositAccount e.ledger sellerFirmId
      let treasuryDeposit ← depositAccount e.ledger "gv_treasury"
      let toSeller ← payment buyerDeposit sellerDeposit (b.grossCents - b.subsidyCents) "purchase"
      let toTreasury ← payment buyerDeposit treasuryDeposit b.salesTaxCents "tax"
      let subsidy ← payment treasuryDeposit sellerDeposit b.subsidyCents "purchase"
      .ok (combineLegs (toSeller ++ toTreasury ++ subsidy), b)

/-- The id of an inventory row. -/
def inventoryId (firmId sku : String) : String := firmId ++ ":" ++ sku

/-- A purchase leaves the shelf and enters the list of transactions. -/
def recordTransaction (row : GoodsTransactionState) (e : EconomyState) : EconomyState :=
  { e with
    inventory := e.inventory.modify (inventoryId row.sellerFirmId row.sku) fun i =>
      { i with quantity := i.quantity - row.qty }
    goodsTransactions := e.goodsTransactions ++ [row] }

/-- A purchase enters the seller's revenue and both windows. -/
def recordSale (row : GoodsTransactionState) (e : EconomyState) : EconomyState :=
  let key := inventoryId row.sellerFirmId row.sku
  let sales := e.goodsSalesByTick.getD row.tick ∅
  let priceQty := e.goodsPriceQtyByTick.getD row.tick ∅
  let priceValue := e.goodsPriceValueByTick.getD row.tick ∅
  let qty := priceQty.getD row.sku 0 + row.qty
  let value := priceValue.getD row.sku 0 + row.unitPriceCents * row.qty
  { e with
    inventory := e.inventory.modify key fun i =>
      { i with unitsSold28d := i.unitsSold28d + row.qty }
    firms := e.firms.modify row.sellerFirmId fun f =>
      { f with cumulativeRevenueCents := f.cumulativeRevenueCents + row.grossCents }
    goodsSalesByTick := e.goodsSalesByTick.put row.tick
      (sales.put key (sales.getD key 0 + row.qty))
    goodsPriceQtyByTick := e.goodsPriceQtyByTick.put row.tick (priceQty.put row.sku qty)
    goodsPriceValueByTick := e.goodsPriceValueByTick.put row.tick (priceValue.put row.sku value)
    goodsLastPriceCents := e.goodsLastPriceCents.put row.sku (value / qty) }

variable (ctx : Ctx)

/-- `_failed(buyer_id, sku, qty, reason)`. -/
def failed (buyerId sku : String) (qty : Int) (reason : String) (tick : Int) : EngineM Event :=
  emit tick .purchaseFailed
    [("buyer_id", .str buyerId), ("sku", .str sku), ("qty", .int qty), ("reason", .str reason)]
    (some buyerId)

/-- `_consume(agent_id, sku, qty)`. -/
def consume (agentId sku : String) (qty tick : Int) : EngineM (List Event) := do
  require (agentId ∈ ctx.agents) (.key agentId)
  let e ← economyNow
  let row ← orRaise (e.skus.get? sku) (.key sku)
  match row.durableLifeTicks with
  | some lifeTicks =>
    let durableId ← liftE (mint "dur" tick e.durables.entries.length)
    modifyEconomy fun e => { e with
      durables := e.durables.put durableId ⟨durableId, agentId, sku, tick, lifeTicks, qty⟩ }
  | none => pure ()
  gather (fun (need, restoreBp) => do
    let s ← get
    let (before, after) := ctx.restored agentId need (qty * restoreBp) s.log.events
    let event ← emit tick .needSatisfied
      [("agent_id", .str agentId), ("need", .str need), ("sku", .str sku),
        ("from_bp", .int before), ("to_bp", .int after)]
      (some agentId)
    pure [event]) row.needRestoreBp.sortedEntries

variable [Uuid5]

/-- `_purchase(action, inventory, initial_stock)`; returns the next ordinal of
the tick. -/
def purchase (action : BuyGoodAction) (initialStock : Int) (ordinal : Nat) (tick : Int) :
    EngineM (Nat × List Event) := do
  let sku := action.params.sku
  let qtyRequested := min action.params.qty ctx.settings.goods.purchaseMaxQty
  let sellerId := action.params.sellerFirmId
  let refuse (reason : String) : EngineM (Nat × List Event) := do
    let event ← failed action.actorId sku qtyRequested reason tick
    pure (ordinal, [event])
  let e ← economyNow
  match e.inventory.get? (inventoryId sellerId sku) with
  | none => refuse "stockout"
  | some inventory =>
    if initialStock = 0 then refuse "stockout"
    else if inventory.quantity ≤ 0 then refuse "rationed"
    else if action.params.maxUnitPriceCents < inventory.priceCents then refuse "price_above_cap"
    else
      let fill := min qtyRequested inventory.quantity
      let (legs, b) ←
        liftE (purchaseLegs ctx.settings e action.actorId sellerId sku fill inventory.priceCents)
      if e.ledger.liquid action.actorId < b.paidCents then refuse "unaffordable"
      else
        let goodsTxnId ← liftE (mint "gds" tick ordinal)
        let expected ← nextTxnId tick
        let event ← emit tick .goodsPurchased
          [("txn_id", .str goodsTxnId), ("buyer_id", .str action.actorId),
            ("seller_firm_id", .str sellerId), ("sku", .str sku), ("qty", .int fill),
            ("unit_price_cents", .int inventory.priceCents), ("gross_cents", .int b.grossCents),
            ("sales_tax_cents", .int b.salesTaxCents), ("subsidy_cents", .int b.subsidyCents),
            ("ledger_txn_id", .str expected)]
          (some action.actorId) [sellerId]
        let ledgerTxnId ← post legs tick event
        require (ledgerTxnId = expected) (.runtime "goods transaction ordinal diverged")
        let row : GoodsTransactionState := {
          txnId := goodsTxnId
          ledgerTxnId
          tick
          buyerId := action.actorId
          sellerFirmId := sellerId
          sku
          qty := fill
          unitPriceCents := max 1 (b.paidCents / fill)
          grossCents := b.grossCents
          salesTaxCents := b.salesTaxCents
          subsidyCents := b.subsidyCents }
        modifyEconomy (recordTransaction row)
        require (e.firms.contains sellerId = true) (.key sellerId)
        modifyEconomy (recordSale row)
        let consumed ← consume ctx action.actorId sku fill tick
        pure (ordinal + 1, event :: consumed)

/-- The seller and good an action buys from. -/
def BuyGoodAction.key (action : BuyGoodAction) : String ×ₗ String :=
  toLex (action.params.sellerFirmId, action.params.sku)

/-- The buyers of one seller and good, in the order they are served. -/
def serviceOrder (key : String ×ₗ String) (actions : List BuyGoodAction) (tick : Int) :
    List BuyGoodAction :=
  shuffle (ctx.word "goods.service" ((ofLex key).1 ++ ":" ++ (ofLex key).2) tick)
    (sortedBy (fun a => ctx.signatureRank a.actorId) (actions.filter fun a => a.key = key))

/-- `resolve(actions)`, from the ordinal the engine stands at in this tick. -/
def resolve (actions : List BuyGoodAction) (ordinal : Nat) (tick : Int) :
    EngineM (Nat × List Event) := do
  let keys := (actions.map BuyGoodAction.key).dedup.insertionSort (· ≤ ·)
  foldEff (fun (acc : Nat × List Event) key => do
    let e ← economyNow
    let initialStock :=
      ((e.inventory.get? (inventoryId (ofLex key).1 (ofLex key).2)).map
        InventoryState.quantity).getD 0
    foldEff (fun (acc : Nat × List Event) action => do
      let (next, events) ← purchase ctx action initialStock acc.1 tick
      pure (next, acc.2 ++ events)) acc (serviceOrder ctx key actions tick)) (ordinal, []) keys

/-! ## Windows -/

/-- `_expire_sales_window(tick)`. -/
def expireSalesWindow (tick : Int) (e : EconomyState) : EconomyState :=
  let ticksPerDay := ctx.settings.clock.ticksPerSimDay
  let cutoff := tick - 28 * ticksPerDay
  let priceCutoff := tick - ctx.settings.goods.cpiWindowDays * ticksPerDay
  let sold := e.goodsSalesByTick.sortedEntries.filter fun r => r.1 ≤ cutoff
  let inventory := (sold.flatMap fun r => r.2.entries).foldl
    (fun inventory row => inventory.modify row.1 fun i =>
      { i with unitsSold28d := max 0 (i.unitsSold28d - row.2) }) e.inventory
  { e with
    inventory
    goodsSalesByTick := e.goodsSalesByTick.filterKeys fun t => cutoff < t
    goodsPriceQtyByTick := e.goodsPriceQtyByTick.filterKeys fun t => priceCutoff < t
    goodsPriceValueByTick :=
      (e.goodsPriceQtyByTick.keys.filter fun t => t ≤ priceCutoff).foldl
        (fun d t => d.erase t) e.goodsPriceValueByTick }

/-! ## Checkpoints -/

omit [Uuid5] in
/-- **The checkpoint round trip**, for every economy: it holds exactly when
`load` has nothing to rebuild. -/
theorem checkpoint_round_trip (e : EconomyState) :
    e.RoundTrips ↔ e.goodsTransactions = [] ∨ e.goodsPriceQtyByTick.entries ≠ [] := by
  constructor
  · intro h
    by_contra hc
    rw [not_or, not_not] at hc
    obtain ⟨e', hl, hd⟩ := h e
    exact EconomyState.dump_ne_of_rebuilt hc hl hd
  · intro h fresh
    have hw : ¬ e.WindowsLost := fun hl => h.elim hl.1 fun hp => hp hl.2
    exact ⟨_, EconomyState.load_dump hw fresh, EconomyState.dump_reloaded e fresh⟩

/-- A shop with one loaf. -/
def bakery : EconomyState where
  ledger := { runId := "run" }
  firms := Dict.ofList [("fm_shop", {
    firmId := "fm_shop"
    name := "shop"
    sector := "food"
    placeId := "pl_1"
    founderId := "ag_b"
    ledgerAccountId := ⟨.dep, "fm_shop", some "bk_1", none, by decide,
      ofFirstBank, ofNone, firstBank_isSome, none_isSome⟩
    productivityBp := 10000 })]
  inventory := Dict.ofList [("fm_shop:bread", {
    firmId := "fm_shop"
    sku := "bread"
    quantity := 1
    priceCents := 10 })]
  skus := Dict.ofList [("bread", {
    sku := "bread"
    category := "food"
    isNecessity := true
    baseUtilityBp := 0
    perishableBpPerDay := 0
    durableLifeTicks := none
    isService := false
    isCapital := false
    needRestoreBp := ∅
    gammaUnitsPerYear := 0
    betaBp := 0
    sectors := ["food"]
    yieldUnits := 1 })]
  exchange := {}
  ventures := {}

/-- Fund a buyer, sell it the loaf, and let the price window pass. -/
def bakeryRun : EngineM Unit := do
  let _ ← onLedger (Ledger.openAccount .iss "bk_cb" "central_bank" none none 0)
  each (fun (code, ownerId, bankId) => do
    let _ ← onLedger (Ledger.openAccount code ownerId "institution" bankId none 0))
    [(.res, "bk_1", none), (.dpl, "bk_1", none),
      (.dep, "ag_a", some "bk_1"), (.dep, "fm_shop", some "bk_1"),
      (.dep, "gv_treasury", some "bk_1")]
  let issued ← emit 0 .moneyIssued []
  let _ ← onLedger (Ledger.issueBaseMoney
    [⟨"iss:bk_cb", -1, 100, "issuance"⟩, ⟨"res:bk_1", 1, 100, "issuance"⟩,
      ⟨"dpl:bk_1", -1, 100, "issuance"⟩, ⟨"dep:ag_a@bk_1", 1, 100, "issuance"⟩] 0 issued)
  let _ ← resolve { agents := ["ag_a"] } [⟨"ag_a", {
    sku := "bread"
    qty := 1
    sellerFirmId := "fm_shop"
    maxUnitPriceCents := 10 }⟩] 0 0
  modifyEconomy (expireSalesWindow {} 720)

omit [Uuid5] in
/-- The run ends with a transaction and no price window, in an economy whose
checkpoint does not load back. -/
theorem bakery_loses_windows :
    letI : Uuid5 := ⟨fun run name => run ++ name⟩
    ∃ s', bakeryRun ⟨bakery, ⟨"run", []⟩, []⟩ = .ok () s' ∧ ¬ s'.economy.RoundTrips := by
  let _ : Uuid5 := ⟨fun run name => run ++ name⟩
  have hrun : outcome (bakeryRun ⟨bakery, ⟨"run", []⟩, []⟩) (fun s =>
      (s.economy.goodsTransactions.length, s.economy.goodsPriceQtyByTick.entries.length))
        = some (1, 0) := by decide +kernel
  obtain ⟨_, s', hs', hw⟩ := outcome_eq_some hrun
  rw [Prod.mk.injEq] at hw
  refine ⟨s', hs', fun hr => ?_⟩
  obtain ⟨e', hl, hd⟩ := hr s'.economy
  refine EconomyState.dump_ne_of_rebuilt ⟨?_, List.length_eq_zero_iff.mp hw.2⟩ hl hd
  intro hnil
  rw [hnil] at hw
  cases hw.1

end Polis.Economy.Goods
