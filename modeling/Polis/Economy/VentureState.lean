/-
  Polis.Economy.VentureState — rows of the venture engine
  (`economy/venture_state.py`).

  Main results:
    * `load_dump` — a dumped venture state loads, every row in key order.
-/
import Polis.Economy.Ledger

namespace Polis.Economy

open Lib

/-! ## Enumerations -/

/-- The states of a startup. -/
inductive StartupStatus where
  | active | exited | dead
  deriving Repr, DecidableEq

/-- The states of a pitch. -/
inductive PitchStatus where
  | opened | evaluated
  deriving Repr, DecidableEq

/-- The states of a term sheet. -/
inductive TermSheetStatus where
  | opened | accepted | expired
  deriving Repr, DecidableEq

/-- The states of an acquisition. -/
inductive AcquisitionStatus where
  | proposed | approved | completed
  deriving Repr, DecidableEq

/-- The states of a bankruptcy case. -/
inductive CaseStatus where
  | opened | discharged
  deriving Repr, DecidableEq

/-! ## Rows -/

/-- `StartupState`. -/
structure StartupState where
  startupId : String
  firmId : String
  founderId : String
  thesis : String
  sector : String
  foundedTick : Int
  initialCapitalCents : Int
  burnRateCents : Int
  stage : String := "pre_seed"
  runwayTicks : Int := 0
  revenueTtmCents : Int := 0
  totalRaisedCents : Int := 0
  status : StartupStatus := .active
  deriving Repr, DecidableEq

/-- `VCFundState`. -/
structure VCFundState where
  fundId : String
  firmId : String
  gpAgentId : String
  committedCents : Int
  calledCents : Int
  deployedCents : Int
  vintageTick : Int
  thesis : String
  managementFeeBp : Int
  carryBp : Int
  hurdleBp : Int
  lps : Dict String Int := ∅
  status : String := "investing"
  deriving DecidableEq

/-- `CapTableState`. -/
structure CapTableState where
  firmId : String
  holderId : String
  shareClass : String
  shares : Int
  investedCents : Int := 0
  roundId : Option String := none
  liqPrefBp : Int := 0
  participating : Bool := false
  proRata : Bool := false
  conversionPriceCents : Int := 0
  deriving Repr, DecidableEq

/-- `FundingRoundState`. -/
structure FundingRoundState where
  roundId : String
  startupId : String
  stage : String
  preMoneyCents : Int
  amountCents : Int
  postMoneyCents : Int
  pricePerShareCents : Int
  newShares : Int
  leadInvestorId : String
  participants : Dict String Int
  optionPoolShares : Int
  liqPrefBp : Int
  participating : Bool
  closedTick : Int
  deriving DecidableEq

/-- `PitchState`. -/
structure PitchState where
  pitchId : String
  startupId : String
  founderId : String
  investorId : String
  askCents : Int
  preMoneyAskCents : Int
  deckText : String
  madeTick : Int
  status : PitchStatus := .opened
  convictionBp : Option Int := none
  valuationViewCents : Option Int := none
  verdict : Option String := none
  deriving Repr, DecidableEq

/-- `TermSheetState`. -/
structure TermSheetState where
  termSheetId : String
  startupId : String
  investorId : String
  preMoneyCents : Int
  amountCents : Int
  security : String
  liqPrefBp : Int
  participating : Bool
  proRata : Bool
  boardSeat : Bool
  optionPoolBp : Int
  antiDilution : String
  issuedTick : Int
  expiresTick : Int
  status : TermSheetStatus := .opened
  deriving Repr, DecidableEq

/-- `AcquisitionState`. -/
structure AcquisitionState where
  dealId : String
  acquirerId : String
  targetId : String
  offerCents : Int
  perShareCents : Int
  consideration : String
  stockRatioBp : Int
  premiumBp : Int
  integrationMode : String
  financing : String
  proposedTick : Int
  expiresTick : Int
  acceptingHolders : Dict String Int := ∅
  acceptingBp : Int := 0
  dragAlongApplied : Bool := false
  squeezeOutApplied : Bool := false
  status : AcquisitionStatus := .proposed
  deriving DecidableEq

/-- `ClaimState`. -/
structure ClaimState where
  claimId : String
  caseId : String
  creditorId : String
  claimCents : Int
  priorityClass : Int
  collateralRef : Option String := none
  loanId : Option String := none
  paidCents : Int := 0
  deriving Repr, DecidableEq

/-- `BankruptcyCaseState`. -/
structure BankruptcyCaseState where
  caseId : String
  entityId : String
  entityType : String
  trigger : String
  assetsCents : Int
  liabilitiesCents : Int
  filedTick : Int
  stayUntilTick : Int
  status : CaseStatus := .opened
  liquidationTick : Option Int := none
  listedBookQty : Dict String Int := ∅
  listedBookCents : Dict String Int := ∅
  estateCents : Int := 0
  resolvedTick : Option Int := none
  deriving DecidableEq

/-- The collections of a venture state; dividends are keyed by the tick, or by
its text in a checkpoint. -/
structure VentureRows (Tick : Type) where
  startups : Dict String StartupState := ∅
  funds : Dict String VCFundState := ∅
  capTable : Dict String CapTableState := ∅
  rounds : Dict String FundingRoundState := ∅
  pitches : Dict String PitchState := ∅
  termSheets : Dict String TermSheetState := ∅
  acquisitions : Dict String AcquisitionState := ∅
  bankruptcies : Dict String BankruptcyCaseState := ∅
  claims : Dict String ClaimState := ∅
  insolvencySinceTick : Dict String Int := ∅
  creditFlagsUntilTick : Dict String Int := ∅
  dividendsByTick : Dict Tick (Dict String Int) := ∅
  fundDistributionsCents : Dict String Int := ∅
  deriving DecidableEq

/-- `VentureState`. -/
abbrev VentureState := VentureRows Int

/-- `cap_key(firm_id, holder_id, share_class)`. -/
def capKey (firmId holderId shareClass : String) : String :=
  firmId ++ ":" ++ holderId ++ ":" ++ shareClass

namespace VentureState

/-! ## Checkpoint -/

/-- The mapping `dump` returns. -/
abbrev Dump := VentureRows String

/-- `dump()`. -/
def dump (v : VentureState) : Dump where
  startups := v.startups.sort
  funds := v.funds.sort
  capTable := v.capTable.sort
  rounds := v.rounds.sort
  pitches := v.pitches.sort
  termSheets := v.termSheets.sort
  acquisitions := v.acquisitions.sort
  bankruptcies := v.bankruptcies.sort
  claims := v.claims.sort
  insolvencySinceTick := v.insolvencySinceTick.sort
  creditFlagsUntilTick := v.creditFlagsUntilTick.sort
  dividendsByTick := (v.dividendsByTick.sort.mapValues fun _ rows => rows.sort).mapKeys
    Ledger.strInt Ledger.strInt_injective
  fundDistributionsCents := v.fundDistributionsCents.sort

/-- `VentureState.load(raw)`; the plain counters keep the order they are given
in. -/
def load (raw : Dump) : Except PyError VentureState := do
  let dividends ← Ledger.intKeys raw.dividendsByTick.entries
  .ok {
    startups := raw.startups.sort
    funds := raw.funds.sort
    capTable := raw.capTable.sort
    rounds := raw.rounds.sort
    pitches := raw.pitches.sort
    termSheets := raw.termSheets.sort
    acquisitions := raw.acquisitions.sort
    bankruptcies := raw.bankruptcies.sort
    claims := raw.claims.sort
    insolvencySinceTick := raw.insolvencySinceTick
    creditFlagsUntilTick := raw.creditFlagsUntilTick
    dividendsByTick := Dict.ofList dividends
    fundDistributionsCents := raw.fundDistributionsCents }

/-- A venture state with every collection in key order. -/
def sorted (v : VentureState) : VentureState where
  startups := v.startups.sort
  funds := v.funds.sort
  capTable := v.capTable.sort
  rounds := v.rounds.sort
  pitches := v.pitches.sort
  termSheets := v.termSheets.sort
  acquisitions := v.acquisitions.sort
  bankruptcies := v.bankruptcies.sort
  claims := v.claims.sort
  insolvencySinceTick := v.insolvencySinceTick.sort
  creditFlagsUntilTick := v.creditFlagsUntilTick.sort
  dividendsByTick := v.dividendsByTick.sort.mapValues fun _ rows => rows.sort
  fundDistributionsCents := v.fundDistributionsCents.sort

theorem load_dump (v : VentureState) : load v.dump = .ok v.sorted := by
  have hk : Ledger.intKeys v.dump.dividendsByTick.entries
      = .ok (v.dividendsByTick.sort.mapValues fun _ rows => rows.sort).entries :=
    Ledger.intKeys_strInt _
  unfold load
  rw [hk]
  simp only [dump, sorted, Dict.sort_sort, Dict.ofList_entries, bind, Except.bind]

theorem dump_sorted (v : VentureState) : v.sorted.dump = v.dump := by
  have hd : (v.dividendsByTick.sort.mapValues fun _ rows => rows.sort).sort
      = v.dividendsByTick.sort.mapValues fun _ rows => rows.sort :=
    Dict.sort_eq_self (Dict.sorted_mapValues v.dividendsByTick.sort_sorted _)
  simp only [sorted, dump, Dict.sort_sort, hd, Dict.mapValues_mapValues]

end VentureState

end Polis.Economy
