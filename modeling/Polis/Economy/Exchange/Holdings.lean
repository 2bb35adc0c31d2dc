/-
  Polis.Economy.Exchange.Holdings — what a step does to the share counts.

  A holding row is read through its key: the shares it holds and the shares it
  reserves.  A settlement moves shares between two keys, a stored sale reserves
  some, a cancellation gives them back, a listing only adds.

  Main results:
    * `Settled.held`, `Settled.kept` — shares and reserved shares of a trade.
    * `Cancelled.kept`, `Placed.kept` — reserved shares of an order.
    * `Listed.held` — shares handed out by a listing.
    * `Step.locksOk` — locks stay at or above zero.
-/
import Polis.Economy.Exchange.Steps

namespace Polis.Economy.Exchange

open Lib Lib.Effect Sim

/-! ## Reads -/

/-- The shares held under a key. -/
def held (x : ExchangeState) (k : String) : Int := (x.holdings.get? k).elim 0 HoldingState.qty

/-- The shares reserved under a key. -/
def kept (x : ExchangeState) (k : String) : Int :=
  (x.holdings.get? k).elim 0 HoldingState.reservedQty

/-- The holding key of an order. -/
def OrderState.key (o : OrderState) : String := holdingKey o.traderId o.symbol

theorem holdingRow_qty (x : ExchangeState) (holderId symbol : String) :
    (x.holdingRow holderId symbol).qty = held x (holdingKey holderId symbol) := by
  unfold ExchangeState.holdingRow held
  cases x.holdings.get? (holdingKey holderId symbol) with
  | none => rfl
  | some h => rfl

theorem holdingRow_reservedQty (x : ExchangeState) (holderId symbol : String) :
    (x.holdingRow holderId symbol).reservedQty = kept x (holdingKey holderId symbol) := by
  unfold ExchangeState.holdingRow kept
  cases x.holdings.get? (holdingKey holderId symbol) with
  | none => rfl
  | some h => rfl

theorem held_putHolding (x : ExchangeState) (holderId symbol : String) (row : HoldingState)
    (k : String) : held (x.putHolding holderId symbol row) k
      = if k = holdingKey holderId symbol then row.qty else held x k := by
  unfold held ExchangeState.putHolding
  dsimp only
  rw [Dict.get?_put]
  split_ifs
  · rfl
  · rfl

theorem kept_putHolding (x : ExchangeState) (holderId symbol : String) (row : HoldingState)
    (k : String) : kept (x.putHolding holderId symbol row) k
      = if k = holdingKey holderId symbol then row.reservedQty else kept x k := by
  unfold kept ExchangeState.putHolding
  dsimp only
  rw [Dict.get?_put]
  split_ifs
  · rfl
  · rfl

theorem held_congr {x y : ExchangeState} (h : x.holdings = y.holdings) (k : String) :
    held x k = held y k := by
  unfold held
  rw [h]

theorem kept_congr {x y : ExchangeState} (h : x.holdings = y.holdings) (k : String) :
    kept x k = kept y k := by
  unfold kept
  rw [h]

theorem held_touchHolding (traderId symbol : String) (x : ExchangeState) (k : String) :
    held (touchHolding traderId symbol x) k = held x k := by
  unfold touchHolding
  rw [held_putHolding, holdingRow_qty]
  split_ifs with h
  · rw [h]
  · rfl

theorem kept_touchHolding (traderId symbol : String) (x : ExchangeState) (k : String) :
    kept (touchHolding traderId symbol x) k = kept x k := by
  unfold touchHolding
  rw [kept_putHolding, holdingRow_reservedQty]
  split_ifs with h
  · rw [h]
  · rfl

theorem held_reserveShares (traderId symbol : String) (qty : Int) (x : ExchangeState) (k : String) :
    held (reserveShares traderId symbol qty x) k = held x k := by
  unfold reserveShares
  rw [held_putHolding, holdingRow_qty]
  split_ifs with h
  · rw [h]
  · rfl

theorem kept_reserveShares (traderId symbol : String) (qty : Int) (x : ExchangeState) (k : String) :
    kept (reserveShares traderId symbol qty x) k
      = kept x k + if k = holdingKey traderId symbol then qty else 0 := by
  unfold reserveShares
  rw [kept_putHolding, holdingRow_reservedQty]
  split_ifs with h
  · rw [h]
  · rw [add_zero]

theorem held_unreserve (order : OrderState) (x : ExchangeState) (k : String) :
    held (unreserve order x) k = held x k := by
  unfold unreserve
  split_ifs
  · dsimp only
    rw [held_putHolding, holdingRow_qty]
    split_ifs with h
    · rw [h]
    · rfl
  · rfl

theorem kept_unreserve (order : OrderState) (x : ExchangeState) (k : String) :
    kept (unreserve order x) k
      = kept x k - if k = OrderState.key order then order.reservedQty else 0 := by
  unfold unreserve OrderState.key
  split_ifs with hz h h
  · dsimp only
    rw [kept_putHolding, holdingRow_reservedQty, if_pos h, h]
  · dsimp only
    rw [kept_putHolding, if_neg h, sub_zero]
  · omega
  · rw [sub_zero]

/-! ## Steps -/

variable {s s' : Sim}

theorem Settled.keys_ne {cfg : ExchangeSettings} {fill : Fill} {tick : Int} {buy sell : OrderState}
    {security : SecurityState} {t : Settlement}
    (h : Settled cfg fill tick buy sell security t s s') :
    OrderState.key buy ≠ OrderState.key sell :=
  fun he => h.traders_ne (holdingKey_inj h.buyer_ok h.seller_ok he).1

theorem Settled.held {cfg : ExchangeSettings} {fill : Fill} {tick : Int} {buy sell : OrderState}
    {security : SecurityState} {t : Settlement}
    (h : Settled cfg fill tick buy sell security t s s') (k : String) :
    held s'.exch k = held s.exch k + (if k = OrderState.key buy then t.qty else 0)
      - (if k = OrderState.key sell then t.qty else 0) := by
  have hne := h.keys_ne
  rw [held_congr h.holdings_eq]
  unfold tradeHoldings
  dsimp only
  have hbought : ∀ row, (holdingBought t row).qty = row.qty + t.qty := by
    intro row
    unfold holdingBought
    dsimp only
    split_ifs
    · rfl
    · rfl
  rw [held_putHolding, held_putHolding, hbought, holdingRow_qty]
  show (if k = OrderState.key sell then (holdingSold t sell _).qty else _) = _
  unfold holdingSold
  dsimp only
  rw [holdingRow_qty, held_putHolding]
  change OrderState.key buy ≠ OrderState.key sell at hne
  show (if k = OrderState.key sell then (if OrderState.key sell = OrderState.key buy then _ else
    Exchange.held s.exch (OrderState.key sell)) - t.qty else if k = OrderState.key buy then
      Exchange.held s.exch (OrderState.key buy) + t.qty else Exchange.held s.exch k) = _
  rw [if_neg hne.symm]
  split_ifs with h₁ h₂ h₂
  · exact absurd (h₂.symm.trans h₁) hne
  · rw [h₁, add_zero]
  · rw [h₂, sub_zero]
  · rw [add_zero, sub_zero]

theorem Settled.kept {cfg : ExchangeSettings} {fill : Fill} {tick : Int} {buy sell : OrderState}
    {security : SecurityState} {t : Settlement}
    (h : Settled cfg fill tick buy sell security t s s') (k : String) :
    kept s'.exch k = kept s.exch k
      - (if k = OrderState.key sell ∧ OrderState.has sell "opens_short" = false then t.qty
        else 0) := by
  have hne := h.keys_ne
  rw [kept_congr h.holdings_eq]
  unfold tradeHoldings
  dsimp only
  have hbought : ∀ row, (holdingBought t row).reservedQty = row.reservedQty := by
    intro row
    unfold holdingBought
    dsimp only
    split_ifs
    · rfl
    · rfl
  rw [kept_putHolding, kept_putHolding, hbought, holdingRow_reservedQty]
  unfold holdingSold
  dsimp only
  rw [holdingRow_reservedQty, kept_putHolding]
  show (if k = OrderState.key sell then (if OrderState.has sell "opens_short" = true then
      (if OrderState.key sell = OrderState.key buy then _ else
        Exchange.kept s.exch (OrderState.key sell))
    else (if OrderState.key sell = OrderState.key buy then _ else
        Exchange.kept s.exch (OrderState.key sell)) - t.qty)
    else if k = OrderState.key buy then Exchange.kept s.exch (OrderState.key buy)
      else Exchange.kept s.exch k) = _
  rw [if_neg hne.symm]
  cases hf : OrderState.has sell "opens_short" with
  | true =>
    simp only [if_true, Bool.true_eq_false, and_false, if_false, sub_zero]
    split_ifs with h₁ h₂
    · rw [h₁]
    · rw [h₂]
    · rfl
  | false =>
    simp only [Bool.false_eq_true, if_false, and_true]
    split_ifs with h₁ h₂
    · rw [h₁]
    · rw [h₂, sub_zero]
    · rw [sub_zero]

theorem Cancelled.held {orderId : String} {expired : Bool} {order : OrderState}
    (h : Cancelled orderId expired order s s') (k : String) : held s'.exch k = held s.exch k := by
  rw [h.exch_eq]
  exact held_unreserve order s.exch k

theorem Cancelled.kept {orderId : String} {expired : Bool} {order : OrderState}
    (h : Cancelled orderId expired order s s') (k : String) :
    kept s'.exch k = kept s.exch k - if k = OrderState.key order then order.reservedQty else 0 := by
  rw [h.exch_eq]
  exact kept_unreserve order s.exch k

theorem Placed.held {r : OrderRequest} {ordinal : Nat} {tick : Int} {reserved : Reservation}
    (h : Placed r ordinal tick reserved s s') (k : String) : held s'.exch k = held s.exch k := by
  rw [h.exch_eq]
  show Exchange.held (if reserved.qty = 0 then s.exch else _) k = _
  split_ifs
  · rfl
  · exact held_reserveShares _ _ _ _ k

theorem Placed.kept {r : OrderRequest} {ordinal : Nat} {tick : Int} {reserved : Reservation}
    (h : Placed r ordinal tick reserved s s') (k : String) :
    kept s'.exch k
      = kept s.exch k + if k = holdingKey r.actorId r.symbol then reserved.qty else 0 := by
  rw [h.exch_eq]
  show Exchange.kept (if reserved.qty = 0 then s.exch else _) k = _
  by_cases hz : reserved.qty = 0
  · rw [if_pos hz, hz, ite_self, add_zero]
  · rw [if_neg hz]
    exact kept_reserveShares _ _ _ _ k

theorem Turned.held {r : OrderRequest} (h : Turned r s s') (k : String) :
    held s'.exch k = held s.exch k := by
  rcases h.exch_eq with hx | hx
  · rw [hx]
  · rw [hx, held_touchHolding]

theorem Turned.kept {r : OrderRequest} (h : Turned r s s') (k : String) :
    kept s'.exch k = kept s.exch k := by
  rcases h.exch_eq with hx | hx
  · rw [hx]
  · rw [hx, kept_touchHolding]

/-! ## Listings -/

theorem allot_counts (symbol : String) (price : Int) (locked : Option String)
    (rows : List (String × Int)) (x : ExchangeState) (k : String) :
    held (allot symbol price locked rows x) k = held x k
        + (rows.map fun r => if k = holdingKey r.1 symbol then r.2 else 0).sum ∧
      kept (allot symbol price locked rows x) k = kept x k := by
  induction rows generalizing x with
  | nil => exact ⟨by simp [allot], rfl⟩
  | cons row rows ih =>
    obtain ⟨holderId, qty⟩ := row
    obtain ⟨hheld, hkept⟩ := ih (x.putHolding holderId symbol
      (if locked = some holderId then
        { x.holdingRow holderId symbol with
          qty := (x.holdingRow holderId symbol).qty + qty
          avgCostCents := price
          lockedQty := qty }
      else
        { x.holdingRow holderId symbol with
          qty := (x.holdingRow holderId symbol).qty + qty
          avgCostCents := price }))
    refine ⟨hheld.trans ?_, hkept.trans ?_⟩
    · rw [held_putHolding, List.map_cons, List.sum_cons, ← add_assoc, apply_ite HoldingState.qty,
        ite_self, holdingRow_qty]
      split_ifs with h
      · rw [h]
      · rw [add_zero]
    · rw [kept_putHolding, apply_ite HoldingState.reservedQty, ite_self, holdingRow_reservedQty]
      split_ifs with h
      · rw [h]
      · rfl

theorem Listed.held {symbol : String} {shares : Int} {allocation : Dict String Int}
    {x x' : ExchangeState} (h : Listed symbol shares allocation x x') (k : String) :
    held x' k = held x k
      + (allocation.sortedEntries.map fun r => if k = holdingKey r.1 symbol then r.2 else 0).sum := by
  obtain ⟨price, locked, hx⟩ := h.holdings_eq
  rw [held_congr hx]
  exact (allot_counts symbol price locked _ x k).1

theorem Listed.kept {symbol : String} {shares : Int} {allocation : Dict String Int}
    {x x' : ExchangeState} (h : Listed symbol shares allocation x x') (k : String) :
    kept x' k = kept x k := by
  obtain ⟨price, locked, hx⟩ := h.holdings_eq
  rw [kept_congr hx]
  exact (allot_counts symbol price locked _ x k).2

/-! ## Locks -/

/-- No holding locks a negative number of shares. -/
def LocksOk (x : ExchangeState) : Prop := ∀ k h, x.holdings.get? k = some h → 0 ≤ h.lockedQty

theorem LocksOk.row {x : ExchangeState} (h : LocksOk x) (holderId symbol : String) :
    0 ≤ (x.holdingRow holderId symbol).lockedQty := by
  unfold ExchangeState.holdingRow
  cases hg : x.holdings.get? (holdingKey holderId symbol) with
  | none => exact le_rfl
  | some row => exact h _ row hg

theorem LocksOk.put {x : ExchangeState} (h : LocksOk x) (holderId symbol : String)
    {row : HoldingState} (hr : 0 ≤ row.lockedQty) : LocksOk (x.putHolding holderId symbol row) := by
  intro k r hk
  unfold ExchangeState.putHolding at hk
  dsimp only at hk
  rw [Dict.get?_put] at hk
  split_ifs at hk
  · cases hk
    exact hr
  · exact h k r hk

theorem LocksOk.congr {x y : ExchangeState} (h : LocksOk x) (he : y.holdings = x.holdings) :
    LocksOk y := fun k r hk => h k r (he ▸ hk)

theorem LocksOk.allot {symbol : String} {price : Int} {locked : Option String}
    {rows : List (String × Int)} (hrows : ∀ r ∈ rows, 0 ≤ r.2) {x : ExchangeState}
    (h : LocksOk x) : LocksOk (allot symbol price locked rows x) := by
  induction rows generalizing x with
  | nil => exact h
  | cons row rows ih =>
    refine ih (fun r hr => hrows r (List.mem_cons_of_mem _ hr)) (h.put _ _ ?_)
    split_ifs
    · exact hrows row List.mem_cons_self
    · exact h.row _ _

theorem Step.locksOk {cfg : ExchangeSettings} (hstep : Step cfg false s s')
    (h : LocksOk s.exch) : LocksOk s'.exch := by
  have listed : ∀ {symbol : String} {shares : Int} {allocation : Dict String Int}
      {x x' : ExchangeState}, Listed symbol shares allocation x x' →
      (∀ k q, allocation.get? k = some q → 0 ≤ q) → LocksOk x → LocksOk x' := by
    intro symbol shares allocation x x' hl hq hx
    obtain ⟨price, locked, he⟩ := hl.holdings_eq
    refine (hx.allot fun r hr => ?_).congr he
    exact hq r.1 r.2 (Dict.mem_entries_iff.mp ((Dict.sortedEntries_perm _).mem_iff.mp hr))
  cases hstep with
  | quiet hq => exact h.congr hq.holdings_eq
  | @settled _ _ buy sell _ t _ hs =>
    refine @LocksOk.congr (tradeHoldings t buy sell s.exch) _ ?_ hs.holdings_eq
    have hbought : ∀ row : HoldingState, (holdingBought t row).lockedQty = row.lockedQty := by
      intro row
      unfold holdingBought
      dsimp only
      split_ifs
      · rfl
      · rfl
    have hx : LocksOk (s.exch.putHolding buy.traderId buy.symbol
        (holdingBought t (s.exch.holdingRow buy.traderId buy.symbol))) := by
      refine h.put _ _ ?_
      rw [hbought]
      exact h.row _ _
    refine hx.put _ _ ?_
    unfold holdingSold
    dsimp only
    split_ifs
    · exact le_max_left _ _
    · exact hx.row _ _
  | @cancelled _ _ order hc =>
    rw [hc.exch_eq]
    refine @LocksOk.congr (unreserve order s.exch) _ ?_ rfl
    unfold unreserve
    split_ifs
    · exact h.put _ _ (h.row _ _)
    · exact h
  | turned ht =>
    rcases ht.exch_eq with hx | hx
    · rw [hx]
      exact h
    · rw [hx]
      exact h.put _ _ (h.row _ _)
  | indicated hi =>
    rw [hi.exch_eq]
    exact h
  | @placed r _ _ reserved hp =>
    rw [hp.exch_eq]
    refine @LocksOk.congr (if reserved.qty = 0 then s.exch
      else reserveShares r.actorId r.symbol reserved.qty s.exch) _ ?_ rfl
    split_ifs
    · exact h
    · exact h.put _ _ (h.row _ _)
  | announced ha =>
    rw [ha.exch_eq]
    exact h
  | failed hf =>
    rw [hf.eq]
    exact h
  | completed _ hc =>
    obtain ⟨_, _, _, hl, hq⟩ := hc.listed
    exact listed hl (fun k q hk => (hq k q hk).1) h
  | listed hl _ _ hfrom =>
    rcases hfrom with hout | ⟨-, hq⟩
    · cases hout
    · exact listed hl hq h
  | called hx =>
    rw [hx]
    exact h

end Polis.Economy.Exchange
