/-
  Polis.Economy.State — the economy and its checkpoint (`economy/state.py`).

  Rows follow the source's data classes.  `EconomyRows` is generic in the
  three parts with a checkpoint form of their own (ledger, exchange,
  ventures): the live economy and the mapping `dump` returns are two
  instances of it.

  Main results:
    * `load_dump` — loading a dump whose price windows need no rebuilding
      gives the same rows in key order.
    * `dump_ne_of_rebuilt` — a load that rebuilds the price windows never
      gives the dumped checkpoint back.
-/
import Polis.Economy.Exchange.Models
import Polis.Economy.VentureState

namespace Polis.Economy

open Lib Lib.Effect

/-! ## Enumerations -/

/-- The states of a bank. -/
inductive BankStatus where
  | active | failed
  deriving Repr, DecidableEq

/-- The states of a loan application. -/
inductive LoanApplicationStatus where
  | submitted | approved | denied
  deriving Repr, DecidableEq

/-- The states of a loan. -/
inductive LoanStatus where
  | current | delinquent | defaulted | repaid | writtenOff
  deriving Repr, DecidableEq

/-- The states of a tax assessment. -/
inductive AssessmentStatus where
  | assessed | paid | arrears
  deriving Repr, DecidableEq

/-- The states of a bond. -/
inductive BondStatus where
  | outstanding | matured
  deriving Repr, DecidableEq

/-- The states of a firm. -/
inductive FirmStatus where
  | active | subsidiary | acquired | bankrupt | dissolved
  deriving Repr, DecidableEq

/-- The states of a vacancy. -/
inductive VacancyStatus where
  | opened | filled | expired | closed
  deriving Repr, DecidableEq

/-- The states of a job application. -/
inductive ApplicationStatus where
  | pending | shortlisted | rejected | offered | hired | withdrawn
  deriving Repr, DecidableEq

/-- The states of a job offer. -/
inductive OfferStatus where
  | opened | accepted | expired
  deriving Repr, DecidableEq

/-! ## Rows -/

/-- `BankState`. -/
structure BankState where
  bankId : String
  name : String
  placeId : String
  reserveAccountId : AccountId
  depositLiabilityAccountId : AccountId
  isCentral : Bool
  capitalCents : Int := 0
  reserveRatioBp : Int := 1000
  status : BankStatus := .active
  foundedTick : Int := 0
  failedTick : Option Int := none
  lendingFrozen : Bool := false
  capitalRatioBp : Int := 10000
  deriving DecidableEq

/-- `LoanApplicationState`. -/
structure LoanApplicationState where
  applicationId : String
  borrowerId : String
  lenderId : String
  requestedCents : Int
  purpose : String
  termTicks : Int
  collateral : Dict String Value
  submittedTick : Int
  status : LoanApplicationStatus := .submitted
  scoreBp : Option Int := none
  offeredCents : Int := 0
  offeredRateBp : Int := 0
  reasonCodes : List String := []

/-- `LoanState`. -/
structure LoanState where
  loanId : String
  lenderId : String
  borrowerId : String
  purpose : String
  principalCents : Int
  outstandingCents : Int
  annualRateBp : Int
  termTicks : Int
  originatedTick : Int
  maturesTick : Int
  status : LoanStatus
  collateral : Dict String Value
  collateralValueCents : Int
  creditScoreAtOriginationBp : Int
  lenderReceivableAccountId : AccountId
  borrowerPayableAccountId : AccountId
  paymentCents : Int
  paymentsN : Int
  nextPaymentTick : Int
  accruedInterestCents : Int := 0
  accrualRemainder : Int := 0
  totalInterestPaidCents : Int := 0
  totalInterestScheduledCents : Int := 0
  totalInterestForgivenCents : Int := 0
  capitalisedInterestCents : Int := 0
  paymentsMade : Int := 0
  missedSinceTick : Option Int := none
  defaultedTick : Option Int := none
  closedTick : Option Int := none

/-- `LoanPaymentState`. -/
structure LoanPaymentState where
  paymentId : String
  loanId : String
  tick : Int
  principalCents : Int
  interestCents : Int
  missed : Bool
  deriving Repr, DecidableEq

/-- `TaxAssessmentState`. -/
structure TaxAssessmentState where
  assessmentId : String
  taxpayerId : String
  taxType : String
  baseCents : Int
  rateBp : Int
  assessedCents : Int
  assessedTick : Int
  dueTick : Int
  paidCents : Int := 0
  status : AssessmentStatus := .assessed
  deriving Repr, DecidableEq

/-- `BondState`. -/
structure BondState where
  symbol : String
  faceCents : Int
  couponBp : Int
  issuedTick : Int
  maturesTick : Int
  holderId : String
  status : BondStatus := .outstanding
  lastCouponTick : Int := 0
  deriving Repr, DecidableEq

/-- `TreasuryState`. -/
structure TreasuryState where
  receiptsCents : Int := 0
  spendingCents : Int := 0
  debtServiceCents : Int := 0
  periodReceiptsCents : Int := 0
  periodSpendingCents : Int := 0
  periodDebtServiceCents : Int := 0
  corporateRevenueMarks : Dict String Int := ∅
  corporateWageMarks : Dict String Int := ∅
  deriving DecidableEq

/-- `FirmState`. -/
structure FirmState where
  firmId : String
  name : String
  sector : String
  placeId : String
  founderId : String
  ledgerAccountId : AccountId
  productivityBp : Int
  capitalCents : Int := 1000000
  liquidCents : Int := 0
  headcount : Int := 0
  targetHeadcount : Int := 1
  cumulativeOutputUnits : Int := 0
  cumulativeRevenueCents : Int := 0
  cumulativeWageCents : Int := 0
  status : FirmStatus := .active
  dissolvedTick : Option Int := none
  deriving DecidableEq

/-- `VacancyState`. -/
structure VacancyState where
  vacancyId : String
  firmId : String
  occupation : String
  skillReqs : Dict String Int
  wageOfferCents : Int
  headcount : Int
  postedTick : Int
  expiresTick : Int
  districtId : String
  minMatchScoreBp : Int := 5500
  status : VacancyStatus := .opened
  applicantsN : Int := 0
  deriving DecidableEq

/-- `ApplicationState`. -/
structure ApplicationState where
  applicationId : String
  vacancyId : String
  agentId : String
  askedWageCents : Int
  submittedTick : Int
  status : ApplicationStatus := .pending
  matchScoreBp : Option Int := none
  rank : Option Int := none
  deriving Repr, DecidableEq

/-- `OfferState`. -/
structure OfferState where
  offerId : String
  applicationId : String
  vacancyId : String
  firmId : String
  agentId : String
  wageCents : Int
  occupation : String
  madeTick : Int
  expiresTick : Int
  status : OfferStatus := .opened
  deriving Repr, DecidableEq

/-- `EmploymentState`. -/
structure EmploymentState where
  employmentId : String
  agentId : String
  firmId : String
  occupation : String
  wageCents : Int
  startedTick : Int
  matchScoreBp : Int
  endedTick : Option Int := none
  hoursBp : Int := 10000
  accruedWageCents : Int := 0
  accrualRemainder : Int := 0
  totalPaidCents : Int := 0
  lastWorkedTick : Option Int := none
  lastEffectiveLabourBp : Int := 0
  deriving Repr, DecidableEq

/-- `InventoryState`. -/
structure InventoryState where
  firmId : String
  sku : String
  quantity : Int := 0
  unitCostCents : Int := 1
  priceCents : Int := 1
  carryMicro : Int := 0
  markupBp : Int := 2500
  unitsSold28d : Int := 0
  deriving Repr, DecidableEq

/-- `SkuState`. -/
structure SkuState where
  sku : String
  category : String
  isNecessity : Bool
  baseUtilityBp : Int
  perishableBpPerDay : Int
  durableLifeTicks : Option Int
  isService : Bool
  isCapital : Bool
  needRestoreBp : Dict String Int
  gammaUnitsPerYear : Int
  betaBp : Int
  sectors : List String
  yieldUnits : Int
  deriving DecidableEq

/-- `GoodsTransactionState`. -/
structure GoodsTransactionState where
  txnId : String
  ledgerTxnId : UUID
  tick : Int
  buyerId : String
  sellerFirmId : String
  sku : String
  qty : Int
  unitPriceCents : Int
  grossCents : Int
  salesTaxCents : Int
  subsidyCents : Int
  deriving Repr, DecidableEq

/-- `DurableState`. -/
structure DurableState where
  durableId : String
  agentId : String
  sku : String
  acquiredTick : Int
  lifeTicks : Int
  qty : Int
  deriving Repr, DecidableEq

/-- `BasketState`. -/
structure BasketState where
  version : Int
  quantities : Dict String Int
  basePricesCents : Dict String Int
  fixedTick : Int
  deriving DecidableEq

/-! ## The economy -/

/-- The collections of an economy. -/
structure EconomyRows (LedgerPart ExchangePart VenturePart : Type) where
  ledger : LedgerPart
  banks : Dict String BankState := ∅
  firms : Dict String FirmState := ∅
  vacancies : Dict String VacancyState := ∅
  applications : Dict String ApplicationState := ∅
  offers : Dict String OfferState := ∅
  employments : Dict String EmploymentState := ∅
  inventory : Dict String InventoryState := ∅
  skillLastUsedTick : Dict String (Dict String Int) := ∅
  skus : Dict String SkuState := ∅
  goodsTransactions : List GoodsTransactionState := []
  goodsSalesByTick : Dict Int (Dict String Int) := ∅
  goodsPriceQtyByTick : Dict Int (Dict String Int) := ∅
  goodsPriceValueByTick : Dict Int (Dict String Int) := ∅
  goodsLastPriceCents : Dict String Int := ∅
  foodOnHand : Dict String (Dict String Int) := ∅
  durables : Dict String DurableState := ∅
  basket : Option BasketState := none
  cpiHistoryBp : Dict Int Int := ∅
  cpiCoreHistoryBp : Dict Int Int := ∅
  cpiFisherHistoryBp : Dict Int Int := ∅
  cpiCategoryHistoryBp : Dict String (Dict Int Int) := ∅
  initialInventoryValueCents : Int := 0
  grossIncomeByTick : Dict Int (Dict String Int) := ∅
  grossWagesByTick : Dict Int (Dict String Int) := ∅
  loanApplications : Dict String LoanApplicationState := ∅
  loans : Dict String LoanState := ∅
  loanPayments : List LoanPaymentState := []
  taxAssessments : Dict String TaxAssessmentState := ∅
  bonds : Dict String BondState := ∅
  bondHoldingsCents : Dict String (Dict String Int) := ∅
  treasury : TreasuryState := {}
  exchange : ExchangePart
  ventures : VenturePart
  policyRateBp : Int := 400
  pendingPolicyRate : Option (Int × Int) := none

/-- `EconomyState`. -/
abbrev EconomyState := EconomyRows Ledger ExchangeState VentureState

namespace EconomyState

/-! ## Checkpoint -/

/-- The mapping `dump` returns. -/
abbrev Dump := EconomyRows Ledger.Dump ExchangeState VentureState.Dump

/-- `{key: dict(sorted(values.items())) for key, values in sorted(...)}`. -/
def sortRows {κ ι α : Type} [LinearOrder κ] [LinearOrder ι] (d : Dict κ (Dict ι α)) :
    Dict κ (Dict ι α) :=
  d.sort.mapValues fun _ rows => rows.sort

/-- `dump()`. -/
def dump (e : EconomyState) : Dump where
  ledger := e.ledger.dump
  banks := e.banks.sort
  firms := e.firms.sort
  vacancies := e.vacancies.sort
  applications := e.applications.sort
  offers := e.offers.sort
  employments := e.employments.sort
  inventory := e.inventory.sort
  skillLastUsedTick := sortRows e.skillLastUsedTick
  skus := e.skus.sort
  goodsTransactions := e.goodsTransactions
  goodsSalesByTick := sortRows e.goodsSalesByTick
  goodsPriceQtyByTick := sortRows e.goodsPriceQtyByTick
  goodsPriceValueByTick := sortRows e.goodsPriceValueByTick
  goodsLastPriceCents := e.goodsLastPriceCents.sort
  foodOnHand := sortRows e.foodOnHand
  durables := e.durables.sort
  basket := e.basket
  cpiHistoryBp := e.cpiHistoryBp.sort
  cpiCoreHistoryBp := e.cpiCoreHistoryBp.sort
  cpiFisherHistoryBp := e.cpiFisherHistoryBp.sort
  cpiCategoryHistoryBp := sortRows e.cpiCategoryHistoryBp
  initialInventoryValueCents := e.initialInventoryValueCents
  grossIncomeByTick := sortRows e.grossIncomeByTick
  grossWagesByTick := sortRows e.grossWagesByTick
  loanApplications := e.loanApplications.sort
  loans := e.loans.sort
  loanPayments := e.loanPayments
  taxAssessments := e.taxAssessments.sort
  bonds := e.bonds.sort
  bondHoldingsCents := sortRows e.bondHoldingsCents
  treasury := e.treasury
  exchange := e.exchange.dump
  ventures := VentureState.dump e.ventures
  policyRateBp := e.policyRateBp
  pendingPolicyRate := e.pendingPolicyRate

/-- One transaction entered into the price caches. -/
def cacheTransaction (row : GoodsTransactionState)
    (qty value : Dict Int (Dict String Int)) :
    Dict Int (Dict String Int) × Dict Int (Dict String Int) :=
  let qtyRow := qty.getD row.tick ∅
  let valueRow := value.getD row.tick ∅
  (qty.put row.tick (qtyRow.put row.sku (qtyRow.getD row.sku 0 + row.qty)),
    value.put row.tick (valueRow.put row.sku
      (valueRow.getD row.sku 0 + row.unitPriceCents * row.qty)))

/-- The price caches rebuilt from the transactions. -/
def cacheTransactions (rows : List GoodsTransactionState)
    (caches : Dict Int (Dict String Int) × Dict Int (Dict String Int)) :
    Dict Int (Dict String Int) × Dict Int (Dict String Int) :=
  rows.foldl (fun c row => cacheTransaction row c.1 c.2) caches

/-- The last price of each good of one tick. -/
def lastPricesAt (value : Dict String Int) :
    List (String × Int) → Dict String Int → Except PyError (Dict String Int)
  | [], last => .ok last
  | (sku, skuQty) :: rows, last =>
    match value.get? sku with
    | none => .error (.key sku)
    | some v =>
      if skuQty = 0 then .error .zeroDivision
      else lastPricesAt value rows (last.put sku (Int.fdiv v skuQty))

/-- The last price of each good, tick by tick. -/
def lastPrices (value : Dict Int (Dict String Int)) :
    List (Int × Dict String Int) → Dict String Int → Except PyError (Dict String Int)
  | [], last => .ok last
  | (tick, rows) :: rest, last =>
    match value.get? tick with
    | none => .error (.key (toString tick))
    | some v =>
      match lastPricesAt v rows.entries last with
      | .error e => .error e
      | .ok last' => lastPrices value rest last'

/-- The branch of `load` that rebuilds the price caches when the checkpoint
has transactions and no price windows. -/
def rebuildPrices (e : EconomyState) : Except PyError EconomyState :=
  if e.goodsTransactions ≠ [] ∧ e.goodsPriceQtyByTick.entries = [] then
    let caches := cacheTransactions e.goodsTransactions
      (e.goodsPriceQtyByTick, e.goodsPriceValueByTick)
    match lastPrices caches.2 caches.1.sortedEntries e.goodsLastPriceCents with
    | .error err => .error err
    | .ok last => .ok { e with
        goodsPriceQtyByTick := caches.1
        goodsPriceValueByTick := caches.2
        goodsLastPriceCents := last }
  else .ok e

/-- `load(state)`. -/
def load (raw : Dump) : EStateM PyError EconomyState Unit := do
  zoom EconomyRows.ledger (fun e L => { e with ledger := L }) (Ledger.load raw.ledger)
  modify fun e => { e with
    banks := raw.banks.sort
    firms := raw.firms.sort
    vacancies := raw.vacancies.sort
    applications := raw.applications.sort
    offers := raw.offers.sort
    employments := raw.employments.sort
    inventory := raw.inventory.sort
    skillLastUsedTick := raw.skillLastUsedTick.sort
    skus := raw.skus.sort
    goodsTransactions := raw.goodsTransactions
    goodsSalesByTick := raw.goodsSalesByTick.sort
    goodsPriceQtyByTick := raw.goodsPriceQtyByTick.sort
    goodsPriceValueByTick := raw.goodsPriceValueByTick.sort
    goodsLastPriceCents := raw.goodsLastPriceCents.sort }
  let e ← get
  let e' ← liftE (rebuildPrices e)
  set { e' with
    foodOnHand := raw.foodOnHand.sort
    durables := raw.durables.sort
    basket := raw.basket
    cpiHistoryBp := raw.cpiHistoryBp
    cpiCoreHistoryBp := raw.cpiCoreHistoryBp
    cpiFisherHistoryBp := raw.cpiFisherHistoryBp
    cpiCategoryHistoryBp := raw.cpiCategoryHistoryBp.sort
    initialInventoryValueCents := raw.initialInventoryValueCents
    grossIncomeByTick := raw.grossIncomeByTick.sort
    grossWagesByTick := raw.grossWagesByTick.sort
    loanApplications := raw.loanApplications.sort
    loans := raw.loans.sort
    loanPayments := raw.loanPayments
    taxAssessments := raw.taxAssessments.sort
    bonds := raw.bonds.sort
    bondHoldingsCents := raw.bondHoldingsCents.sort
    treasury := raw.treasury
    exchange := ExchangeState.load raw.exchange }
  let ventures ← liftE (VentureState.load raw.ventures)
  modify fun e => { e with
    ventures := ventures
    policyRateBp := raw.policyRateBp
    pendingPolicyRate := raw.pendingPolicyRate }

/-! ## Round trip -/

/-- The rows of `e` in key order, as `load` puts them over `fresh`; the ledger
keeps the run of `fresh`. -/
def reloaded (e fresh : EconomyState) : EconomyState where
  ledger := { fresh.ledger with
    accounts := e.ledger.accounts.sort
    entries := e.ledger.entries
    pendingEntries := e.ledger.pendingEntries
    dirtyAccounts := e.ledger.dirtyAccounts.sort
    ordinalByTick := e.ledger.ordinalByTick.sort
    postedByTick := e.ledger.postedByTick.sort }
  banks := e.banks.sort
  firms := e.firms.sort
  vacancies := e.vacancies.sort
  applications := e.applications.sort
  offers := e.offers.sort
  employments := e.employments.sort
  inventory := e.inventory.sort
  skillLastUsedTick := sortRows e.skillLastUsedTick
  skus := e.skus.sort
  goodsTransactions := e.goodsTransactions
  goodsSalesByTick := sortRows e.goodsSalesByTick
  goodsPriceQtyByTick := sortRows e.goodsPriceQtyByTick
  goodsPriceValueByTick := sortRows e.goodsPriceValueByTick
  goodsLastPriceCents := e.goodsLastPriceCents.sort
  foodOnHand := sortRows e.foodOnHand
  durables := e.durables.sort
  basket := e.basket
  cpiHistoryBp := e.cpiHistoryBp.sort
  cpiCoreHistoryBp := e.cpiCoreHistoryBp.sort
  cpiFisherHistoryBp := e.cpiFisherHistoryBp.sort
  cpiCategoryHistoryBp := sortRows e.cpiCategoryHistoryBp
  initialInventoryValueCents := e.initialInventoryValueCents
  grossIncomeByTick := sortRows e.grossIncomeByTick
  grossWagesByTick := sortRows e.grossWagesByTick
  loanApplications := e.loanApplications.sort
  loans := e.loans.sort
  loanPayments := e.loanPayments
  taxAssessments := e.taxAssessments.sort
  bonds := e.bonds.sort
  bondHoldingsCents := sortRows e.bondHoldingsCents
  treasury := e.treasury
  exchange := ExchangeState.load e.exchange.dump
  ventures := VentureState.sorted e.ventures
  policyRateBp := e.policyRateBp
  pendingPolicyRate := e.pendingPolicyRate

section RoundTrip

variable {κ ι α : Type} [LinearOrder κ] [LinearOrder ι]

@[simp] theorem sort_sortRows (d : Dict κ (Dict ι α)) : (sortRows d).sort = sortRows d :=
  Dict.sort_eq_self (Dict.sorted_mapValues d.sort_sorted _)

@[simp] theorem sortRows_sortRows (d : Dict κ (Dict ι α)) :
    sortRows (sortRows d) = sortRows d := by
  show ((sortRows d).sort).mapValues _ = _
  rw [sort_sortRows]
  unfold sortRows
  rw [Dict.mapValues_mapValues]
  simp only [Dict.sort_sort]

theorem sortRows_entries_eq_nil {d : Dict κ (Dict ι α)} :
    (sortRows d).entries = [] ↔ d.entries = [] := by
  have hp : d.sort.entries = [] ↔ d.entries = [] := by
    constructor
    · intro h
      have := d.sortedEntries_perm
      rw [show d.sortedEntries = [] from h] at this
      exact this.nil_eq.symm
    · intro h
      show d.entries.insertionSort _ = []
      rw [h, List.insertionSort_nil]
  rw [← hp]
  exact List.map_eq_nil_iff

end RoundTrip

/-- The checkpoint has transactions and no price window. -/
def WindowsLost (e : EconomyState) : Prop :=
  e.goodsTransactions ≠ [] ∧ e.goodsPriceQtyByTick.entries = []

instance (e : EconomyState) : Decidable e.WindowsLost := by unfold WindowsLost; infer_instance

theorem dump_reloaded (e fresh : EconomyState) : (e.reloaded fresh).dump = e.dump := by
  have hv : (VentureState.sorted e.ventures).dump = VentureState.dump e.ventures :=
    VentureState.dump_sorted e.ventures
  simp only [dump, reloaded, Ledger.dump, Dict.sort_sort, sortRows_sortRows,
    ExchangeState.dump_load, hv]

/-- The state `load` has reached when it decides whether to rebuild. -/
def staged (e fresh : EconomyState) : EconomyState :=
  { fresh with
    ledger := (e.reloaded fresh).ledger
    banks := e.banks.sort
    firms := e.firms.sort
    vacancies := e.vacancies.sort
    applications := e.applications.sort
    offers := e.offers.sort
    employments := e.employments.sort
    inventory := e.inventory.sort
    skillLastUsedTick := sortRows e.skillLastUsedTick
    skus := e.skus.sort
    goodsTransactions := e.goodsTransactions
    goodsSalesByTick := sortRows e.goodsSalesByTick
    goodsPriceQtyByTick := sortRows e.goodsPriceQtyByTick
    goodsPriceValueByTick := sortRows e.goodsPriceValueByTick
    goodsLastPriceCents := e.goodsLastPriceCents.sort }

theorem rebuildPrices_eq_ok {e r : EconomyState} (h : rebuildPrices e = .ok r) :
    r = { e with
      goodsPriceQtyByTick := r.goodsPriceQtyByTick
      goodsPriceValueByTick := r.goodsPriceValueByTick
      goodsLastPriceCents := r.goodsLastPriceCents } := by
  unfold rebuildPrices at h
  split at h
  · dsimp only at h
    split at h
    · cases h
    · cases h
      rfl
  · cases h
    rfl

theorem load_dump_eq_ok {e fresh e' : EconomyState} :
    load e.dump fresh = .ok () e' ↔ ∃ r, rebuildPrices (e.staged fresh) = .ok r ∧
      e' = { e.reloaded fresh with
        goodsPriceQtyByTick := r.goodsPriceQtyByTick
        goodsPriceValueByTick := r.goodsPriceValueByTick
        goodsLastPriceCents := r.goodsLastPriceCents } := by
  have hL : Ledger.load e.dump.ledger fresh.ledger = .ok () (e.reloaded fresh).ledger :=
    Ledger.load_dump e.ledger fresh.ledger
  have hV : VentureState.load e.dump.ventures = .ok (VentureState.sorted e.ventures) :=
    VentureState.load_dump e.ventures
  have hstaged : ∀ r, rebuildPrices (e.staged fresh) = .ok r →
      { r with
        foodOnHand := (sortRows e.foodOnHand).sort
        durables := e.durables.sort.sort
        basket := e.basket
        cpiHistoryBp := e.cpiHistoryBp.sort
        cpiCoreHistoryBp := e.cpiCoreHistoryBp.sort
        cpiFisherHistoryBp := e.cpiFisherHistoryBp.sort
        cpiCategoryHistoryBp := (sortRows e.cpiCategoryHistoryBp).sort
        initialInventoryValueCents := e.initialInventoryValueCents
        grossIncomeByTick := (sortRows e.grossIncomeByTick).sort
        grossWagesByTick := (sortRows e.grossWagesByTick).sort
        loanApplications := e.loanApplications.sort.sort
        loans := e.loans.sort.sort
        loanPayments := e.loanPayments
        taxAssessments := e.taxAssessments.sort.sort
        bonds := e.bonds.sort.sort
        bondHoldingsCents := (sortRows e.bondHoldingsCents).sort
        treasury := e.treasury
        exchange := ExchangeState.load e.exchange.dump
        ventures := VentureState.sorted e.ventures
        policyRateBp := e.policyRateBp
        pendingPolicyRate := e.pendingPolicyRate : EconomyState }
      = { e.reloaded fresh with
        goodsPriceQtyByTick := r.goodsPriceQtyByTick
        goodsPriceValueByTick := r.goodsPriceValueByTick
        goodsLastPriceCents := r.goodsLastPriceCents } := by
    intro r hr
    rw [rebuildPrices_eq_ok hr]
    simp only [staged, reloaded, Dict.sort_sort, sort_sortRows]
  constructor
  · intro h
    obtain ⟨_, s₁, h₁, h⟩ := bind_eq_ok.mp h
    obtain ⟨L, hL', rfl⟩ := zoom_eq_ok.mp h₁
    rw [hL] at hL'
    cases hL'
    obtain ⟨_, s₂, h₂, h⟩ := bind_eq_ok.mp h
    have h₂ := modify_eq_ok.mp h₂
    obtain ⟨e₀, s₃, h₃, h⟩ := bind_eq_ok.mp h
    obtain ⟨rfl, rfl⟩ := get_eq_ok.mp h₃
    have hs : s₂ = e.staged fresh := by
      rw [← h₂]
      simp only [staged, dump, Dict.sort_sort, sort_sortRows]
    obtain ⟨r, s₄, h₄, h⟩ := bind_eq_ok.mp h
    obtain ⟨hr, rfl⟩ := liftE_eq_ok.mp h₄
    obtain ⟨_, s₅, h₅, h⟩ := bind_eq_ok.mp h
    have h₅ := set_eq_ok.mp h₅
    obtain ⟨v, s₆, h₆, h⟩ := bind_eq_ok.mp h
    obtain ⟨hv, rfl⟩ := liftE_eq_ok.mp h₆
    rw [hV] at hv
    cases hv
    have h := modify_eq_ok.mp h
    rw [hs] at hr
    refine ⟨r, hr, ?_⟩
    rw [← hstaged r hr, ← h, ← h₅]
    rfl
  · rintro ⟨r, hr, rfl⟩
    rw [← hstaged r hr]
    refine bind_eq_ok.mpr ⟨(), _, zoom_eq_ok.mpr ⟨_, hL, rfl⟩, ?_⟩
    refine bind_eq_ok.mpr ⟨(), e.staged fresh, modify_eq_ok.mpr ?_, ?_⟩
    · simp only [staged, dump, Dict.sort_sort, sort_sortRows]
    refine bind_eq_ok.mpr ⟨_, _, get_eq_ok.mpr ⟨rfl, rfl⟩, ?_⟩
    refine bind_eq_ok.mpr ⟨r, _, liftE_eq_ok.mpr ⟨hr, rfl⟩, ?_⟩
    refine bind_eq_ok.mpr ⟨(), _, set_eq_ok.mpr rfl, ?_⟩
    refine bind_eq_ok.mpr ⟨_, _, liftE_eq_ok.mpr ⟨hV, rfl⟩, ?_⟩
    exact modify_eq_ok.mpr rfl

theorem windowsLost_staged (e fresh : EconomyState) :
    (e.staged fresh).WindowsLost ↔ e.WindowsLost := by
  show (_ ∧ (sortRows e.goodsPriceQtyByTick).entries = []) ↔ _
  rw [sortRows_entries_eq_nil]
  rfl

theorem load_dump {e : EconomyState} (h : ¬ e.WindowsLost) (fresh : EconomyState) :
    load e.dump fresh = .ok () (e.reloaded fresh) := by
  rw [load_dump_eq_ok]
  refine ⟨e.staged fresh, ?_, rfl⟩
  unfold rebuildPrices
  exact if_neg fun hl => h ((windowsLost_staged e fresh).mp hl)

theorem cacheTransactions_ne_nil {rows : List GoodsTransactionState} (h : rows ≠ [])
    (caches : Dict Int (Dict String Int) × Dict Int (Dict String Int)) :
    (cacheTransactions rows caches).1.entries ≠ [] := by
  induction rows generalizing caches with
  | nil => exact absurd rfl h
  | cons row rows ih =>
    cases rows with
    | nil => exact Dict.put_entries_ne_nil _ _ _
    | cons row' rows => exact ih (List.cons_ne_nil _ _) _

theorem dump_ne_of_rebuilt {e fresh e' : EconomyState} (h : e.WindowsLost)
    (hl : load e.dump fresh = .ok () e') : e'.dump ≠ e.dump := by
  obtain ⟨r, hr, rfl⟩ := load_dump_eq_ok.mp hl
  have hw := (windowsLost_staged e fresh).mpr h
  have hne : r.goodsPriceQtyByTick.entries ≠ [] := by
    unfold rebuildPrices at hr
    split at hr
    · dsimp only at hr
      split at hr
      · cases hr
      · cases hr
        exact cacheTransactions_ne_nil hw.1 _
    · exact absurd hw ‹_›
  intro hd
  have hq : sortRows r.goodsPriceQtyByTick = sortRows e.goodsPriceQtyByTick :=
    congrArg EconomyRows.goodsPriceQtyByTick hd
  have he : (sortRows r.goodsPriceQtyByTick).entries = [] := by
    rw [hq]
    exact sortRows_entries_eq_nil.mpr h.2
  exact hne (sortRows_entries_eq_nil.mp he)

/-- Loading the dump into any economy returns, and dumps the same again. -/
def RoundTrips (e : EconomyState) : Prop :=
  ∀ fresh : EconomyState, ∃ e', load e.dump fresh = .ok () e' ∧ e'.dump = e.dump

end EconomyState

end Polis.Economy
