/-
  Polis.Economy.Exchange.Models — rows of the exchange
  (`economy/exchange/models.py`).

  Main results:
    * `holdingKey_inj` — a holding key determines its holder and symbol when
      the holder carries no separator.
    * `dump_load` — reloading a dumped exchange gives the dumped rows back.
-/
import Polis.Lib.Dict
import Polis.Economy.Account

namespace Polis.Economy

open Lib

/-! ## Enumerations -/

/-- `SecurityClass`. -/
inductive SecurityClass where
  | common | preferred | bond
  deriving Repr, DecidableEq

/-- `OrderSide`. -/
inductive OrderSide where
  | buy | sell
  deriving Repr, DecidableEq

/-- `OrderType`. -/
inductive OrderType where
  | limit | market
  deriving Repr, DecidableEq

/-- `OrderStatus`. -/
inductive OrderStatus where
  | opened | partialFill | filled | cancelled | expired | rejected
  deriving Repr, DecidableEq

/-- `status in {"open", "partial"}`. -/
def OrderStatus.active : OrderStatus → Bool
  | .opened | .partialFill => true
  | _ => false

/-- The states of a listing. -/
inductive SecurityStatus where
  | listed | delisted
  deriving Repr, DecidableEq

/-- The states of a short position. -/
inductive ShortStatus where
  | opened | covered
  deriving Repr, DecidableEq

/-- The states of an offering. -/
inductive IpoStatus where
  | announced | completed | failed
  deriving Repr, DecidableEq

/-! ## Rows -/

/-- `SecurityState`. -/
structure SecurityState where
  symbol : String
  issuerFirmId : String
  securityClass : SecurityClass
  sharesOutstanding : Int
  listedTick : Int
  listingPriceCents : Int
  lastPriceCents : Int
  referencePriceCents : Int
  ipoRoundId : Option String := none
  lockupUntilTick : Option Int := none
  status : SecurityStatus := .listed
  delistedTick : Option Int := none
  haltUntilTick : Option Int := none
  breakerCount : Int := 0
  deriving Repr, DecidableEq

/-- `HoldingState`. -/
structure HoldingState where
  holderId : String
  symbol : String
  qty : Int := 0
  reservedQty : Int := 0
  lockedQty : Int := 0
  avgCostCents : Int := 0
  deriving Repr, DecidableEq

/-- `OrderState`. -/
structure OrderState where
  orderId : String
  symbol : String
  traderId : String
  side : OrderSide
  orderType : OrderType
  qty : Int
  remainingQty : Int
  limitPriceCents : Option Int
  submittedTick : Int
  arrivalOrdinal : Nat
  tif : String := "day"
  status : OrderStatus := .opened
  reservedCents : Int := 0
  reservedQty : Int := 0
  filledQty : Int := 0
  filledNotionalCents : Int := 0
  commissionCents : Int := 0
  flags : List String := []
  deriving Repr, DecidableEq

/-- Which side a fill is attributed to. -/
inductive Aggressor where
  | buy | sell | auction
  deriving Repr, DecidableEq

/-- `TradeState`. -/
structure TradeState where
  tradeId : String
  symbol : String
  tick : Int
  priceCents : Int
  qty : Int
  buyOrderId : String
  sellOrderId : String
  buyerId : String
  sellerId : String
  aggressor : Aggressor
  commissionBuyCents : Int
  commissionSellCents : Int
  ledgerTxnId : UUID
  deriving Repr, DecidableEq

/-- `OhlcvState`. -/
structure OhlcvState where
  symbol : String
  sessionTick : Int
  openCents : Int
  highCents : Int
  lowCents : Int
  closeCents : Int
  volume : Int
  vwapCents : Option Int
  tradesN : Int
  deriving Repr, DecidableEq

/-- `ShortPositionState`. -/
structure ShortPositionState where
  traderId : String
  symbol : String
  qty : Int
  entryPriceCents : Int
  collateralCents : Int
  openedTick : Int
  borrowFeeBp : Int
  marginDeadlineTick : Option Int := none
  status : ShortStatus := .opened
  deriving Repr, DecidableEq

/-- `IpoState`. -/
structure IpoState where
  ipoId : String
  firmId : String
  symbol : String
  sharesOffered : Int
  primaryShares : Int
  secondaryShares : Int
  priceLowCents : Int
  priceHighCents : Int
  underwriterBankId : String
  announcedTick : Int
  bookCloseTick : Int
  indications : Dict String (Int × Int) := ∅
  status : IpoStatus := .announced
  deriving DecidableEq

/-- `ExchangeState`. -/
structure ExchangeState where
  securities : Dict String SecurityState := ∅
  holdings : Dict String HoldingState := ∅
  orders : Dict String OrderState := ∅
  trades : List TradeState := []
  ohlcv : Dict String OhlcvState := ∅
  shorts : Dict String ShortPositionState := ∅
  ipos : Dict String IpoState := ∅
  indexHistoryBp : Dict Int Int := ∅
  indexDivisor : Option Int := none
  sessionId : Option String := none
  sessionTick : Option Int := none
  deriving DecidableEq

/-! ## Holdings -/

/-- `holding_key(holder_id, symbol)`. -/
def holdingKey (holderId symbol : String) : String := holderId ++ ":" ++ symbol

theorem holdingKey_inj {h h' s s' : String} (hc : ':' ∉ h.toList) (hc' : ':' ∉ h'.toList)
    (hk : holdingKey h s = holdingKey h' s') : h = h' ∧ s = s' := by
  have hp : ∀ h s : String, ':' ∉ h.toList →
      partition ':' (holdingKey h s).toList = (h.toList, some s.toList) := by
    intro h s hc
    have : (holdingKey h s).toList = h.toList ++ ':' :: s.toList := by
      simp [holdingKey]
    rw [this, partition_append hc]
  have h₁ := hp h s hc
  rw [hk, hp h' s' hc'] at h₁
  simp only [Prod.mk.injEq, Option.some.injEq, String.toList_inj] at h₁
  exact ⟨h₁.1.symm, h₁.2.symm⟩

namespace ExchangeState

/-- The row `holding(holder_id, symbol)` hands out: the stored one, or a new
empty one. -/
def holdingRow (x : ExchangeState) (holderId symbol : String) : HoldingState :=
  (x.holdings.get? (holdingKey holderId symbol)).getD { holderId, symbol }

/-- Write a holding row back under its holder and symbol. -/
def putHolding (x : ExchangeState) (holderId symbol : String) (row : HoldingState) :
    ExchangeState :=
  { x with holdings := x.holdings.put (holdingKey holderId symbol) row }

/-! ## Checkpoint -/

/-- `dump()`: every collection in key order. -/
def dump (x : ExchangeState) : ExchangeState :=
  { x with
    securities := x.securities.sort
    holdings := x.holdings.sort
    orders := x.orders.sort
    ohlcv := x.ohlcv.sort
    shorts := x.shorts.sort
    ipos := x.ipos.sort
    indexHistoryBp := x.indexHistoryBp.sort }

/-- `ExchangeState.load(raw)`; the index history keeps the order it is given
in. -/
def load (raw : ExchangeState) : ExchangeState :=
  { raw with
    securities := raw.securities.sort
    holdings := raw.holdings.sort
    orders := raw.orders.sort
    ohlcv := raw.ohlcv.sort
    shorts := raw.shorts.sort
    ipos := raw.ipos.sort }

theorem dump_load (x : ExchangeState) : (load x.dump).dump = x.dump := by
  simp only [dump, load, Dict.sort_sort]

end ExchangeState

end Polis.Economy
