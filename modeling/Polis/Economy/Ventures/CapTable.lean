/-
  Polis.Economy.Ventures.CapTable — who owns a firm (`economy/ventures.py`).

  A private firm is owned through the rows of its cap table, a listed one
  through the holdings of its security.
-/
import Polis.Economy.Sim

namespace Polis.Economy.Ventures

open Lib Lib.Effect Sim

/-- `_cap_rows(firm_id)`. -/
def capRows (v : VentureState) (firmId : String) : List CapTableState :=
  sortedBy (fun row => toLex (row.shareClass, row.holderId))
    (v.capTable.values.filter fun row => row.firmId = firmId)

/-- `_listed_symbol(firm_id)`: the first listed security of an issuer. -/
def listedSymbol (x : ExchangeState) (firmId : String) : Option String :=
  ((sortedBy SecurityState.symbol x.securities.values).find? fun row =>
    row.issuerFirmId = firmId && row.status = .listed).map SecurityState.symbol

/-- `_acquisition_equity_rows(firm_id)`. -/
def acquisitionEquityRows (e : EconomyState) (firmId : String) : List CapTableState :=
  match listedSymbol e.exchange firmId with
  | none => (capRows e.ventures firmId).filter fun row =>
      row.holderId ≠ "option_pool" && 0 < row.shares
  | some symbol =>
    ((sortedBy HoldingState.holderId e.exchange.holdings.values).filter fun h =>
      h.symbol = symbol && 0 < h.qty).map fun h =>
        { firmId, holderId := h.holderId, shareClass := "common", shares := h.qty }

end Polis.Economy.Ventures
