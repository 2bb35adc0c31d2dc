/-
  Polis.Config — the settings the modelled engines read
  (`config/settings.py`).

  A settings record carries what its validator checks, so settings the source
  refuses to build cannot be built here either.
-/
import Polis.Lib.Dict

namespace Polis

/-- The two clock profiles. -/
inductive ClockProfile where
  | microscope | chronicle
  deriving Repr, DecidableEq

/-! ## Defaults within their bounds -/

theorem ticks_default : (0 : Int) < 24 := by decide

theorem tickSize_default : (0 : Int) < 1 := by decide

theorem commission_default : (0 : Int) ≤ 20 ∧ (20 : Int) ≤ 10000 := by decide

theorem maxOrderQty_default : (0 : Int) < 1000 ∧ (1000 : Int) ≤ 10000 := by decide

theorem bootstrap_default : (0 : Int) < 100000 ∧ (0 : Int) < 1000 := by decide

theorem band_default : (0 : Int) ≤ 2000 := by decide

/-! ## Records -/

/-- `ClockSettings`: a simulated day has at least one tick. -/
structure ClockSettings where
  profile : ClockProfile := .microscope
  ticksPerSimDay : Int := 24
  daysPerSimYear : Int := 360
  ticks_pos : 0 < ticksPerSimDay := by first | exact ticks_default | decide

/-- `ExchangeSettings` with the facts its validator establishes. -/
structure ExchangeSettings where
  enabled : Bool := false
  tickSizeCents : Int := 1
  commissionBp : Int := 20
  commissionFloorCents : Int := 1
  maxOrderQtyBp : Int := 1000
  bandBp : Int := 2000
  haltTicks : Int := 2
  maxHaltsPerSession : Int := 2
  maxShortBp : Int := 1000
  initialMarginBp : Int := 15000
  maintenanceMarginBp : Int := 3000
  borrowFeeBp : Int := 200
  ipoMinAgeDays : Int := 720
  ipoMinRevenueCents : Int := 0
  ipoBookDays : Int := 3
  underwriterDiscountBp : Int := 500
  underwritingFeeBp : Int := 500
  listingFeeCents : Int := 10000
  lockupDays : Int := 180
  bootstrapListingDay : Option Int := none
  bootstrapShares : Int := 100000
  bootstrapPriceCents : Int := 1000
  tickSize_pos : 0 < tickSizeCents := by first | exact tickSize_default | decide
  commission_range : 0 ≤ commissionBp ∧ commissionBp ≤ 10000 := by
    first | exact commission_default | decide
  maxOrderQty_range : 0 < maxOrderQtyBp ∧ maxOrderQtyBp ≤ 10000 := by
    first | exact maxOrderQty_default | decide
  bootstrap_pos : 0 < bootstrapShares ∧ 0 < bootstrapPriceCents := by
    first | exact bootstrap_default | decide
  /-- The zero-intelligence spread lies between zero and the band. -/
  band_nonneg : 0 ≤ bandBp := by first | exact band_default | decide

/-- `GoodsSettings`. -/
structure GoodsSettings where
  purchaseMaxQty : Int := 1000
  cpiWindowDays : Int := 30

/-- `LabourPayrollSettings`. -/
structure LabourPayrollSettings where
  days : List Int := [1, 15]

/-- `LabourSettings`. -/
structure LabourSettings where
  vacancyTtlDays : Int := 30
  maxOpenVacanciesPerFirm : Nat := 5
  maxOpenApplications : Nat := 6
  minMatchScoreBp : Int := 5500
  shortlistMultiple : Int := 3
  offerTtlDays : Int := 5
  noticeTicks : Int := 0
  minimumWageCents : Int := 0
  payroll : LabourPayrollSettings := {}

/-- `TaxSettings`. -/
structure TaxSettings where
  incomeBrackets : List (Int × Int) :=
    [(0, 0), (2000000, 1500), (6000000, 2500), (15000000, 3500)]
  payrollEmployerBp : Int := 500
  salesBp : Int := 800
  exemptNecessities : Bool := false

/-- `SpendSettings`. -/
structure SpendSettings where
  healthSubsidyBp : Int := 0

/-- `TreasurySettings`. -/
structure TreasurySettings where
  tax : TaxSettings := {}
  spend : SpendSettings := {}

/-- Who decides on a loan: the scorecard alone, or a model after it. -/
inductive Underwriting where
  | scorecard | llm
  deriving Repr, DecidableEq

/-- `BankingSettings`. -/
structure BankingSettings where
  capitalRatioMinBp : Int := 800
  capitalBufferBp : Int := 1050
  stressScoreBumpBp : Int := 500
  underwriting : Underwriting := .scorecard
  interbankMinRatioBp : Int := 900
  interbankSpreadBp : Int := 50
  interbankConcentrationBp : Int := 2500
  discountPenaltyBp : Int := 200

/-- `CreditSettings`. -/
structure CreditSettings where
  minScoreBp : Int := 4500
  riskSpreadK : Int := 6000
  baseSpreadBp : Int := 150
  termPremiumBpPerYear : Int := 25
  concentrationBp : Int := 2500
  maxLoanIncomeMultipleBp : Int := 40000
  delinquencyDays : Int := 30
  defaultDays : Int := 90
  writeoffAfterDays : Int := 180
  delinquencyPenaltyBp : Int := 300
  paymentIntervalDays : Int := 30
  maxTermDays : Lib.Dict String Int := Lib.Dict.ofList
    [("consumer", 1080), ("mortgage", 9000), ("corporate", 2520), ("interbank", 1),
      ("sovereign", 3600), ("tax_arrears", 1080)]
  riskWeightBp : Lib.Dict String Int := Lib.Dict.ofList
    [("sovereign", 0), ("mortgage", 5000), ("corporate", 10000), ("consumer", 10000),
      ("interbank", 2000), ("tax_arrears", 10000)]

/-- `EconomySettings`. -/
structure EconomySettings where
  medianWageCents : Int := 3600000

/-- `Settings`. -/
structure Settings where
  clock : ClockSettings := {}
  economy : EconomySettings := {}
  exchange : ExchangeSettings := {}
  goods : GoodsSettings := {}
  treasury : TreasurySettings := {}
  banking : BankingSettings := {}
  credit : CreditSettings := {}
  labour : LabourSettings := {}
  mechanisms : Lib.Dict String String := ∅

end Polis
