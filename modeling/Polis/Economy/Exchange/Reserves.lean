/-
  Polis.Economy.Exchange.Reserves — reserved shares against the orders that
  reserve them.

  An ordinary sale reserves its shares out of the holding when it is stored and
  gives them up as it is filled or cancelled.  A short sale reserves nothing,
  and takes the shares it sells off the same holding.

  Main results:
    * `SalesOk.settled`, `SalesOk.cancelled`, `SalesOk.placed` — what a step does
      to the reserved shares of all sales together.
    * `ReserveInv.step` — one step.
    * `reserved_shares` — every run of ticks.
-/
import Polis.Economy.Exchange.Escrow
import Polis.Economy.Exchange.Holdings

namespace Polis.Economy.Exchange

open Lib Lib.Effect Sim

/-! ## The law -/

/-- What an open or partial sale reserves under a key. -/
def sellReserve (k : String) (o : OrderState) : Int :=
  if o.status.active = true ∧ o.side = .sell ∧ OrderState.key o = k then o.reservedQty else 0

/-- **Reserved shares are owned shares**: a holding reserves what its open and
partial sales reserve, at least nothing and at most what it holds. -/
def ReserveLaw (x : ExchangeState) : Prop :=
  ∀ traderId symbol,
    (x.holdingRow traderId symbol).reservedQty
      = x.orders.total (fun _ o => sellReserve (holdingKey traderId symbol) o) ∧
    0 ≤ (x.holdingRow traderId symbol).reservedQty ∧
    (x.holdingRow traderId symbol).reservedQty ≤ max 0 (x.holdingRow traderId symbol).qty

instance (o : OrderState) : Decidable (OrderState.ordinary o) :=
  inferInstanceAs (Decidable (_ ∧ _))

/-- A short sale takes no share that ordinary sales of the same holding have
reserved, and no stored order replaces an ordinary sale that is still active. -/
def ReserveGood : Mark → Prop
  | .settle x fill => ∀ buy, x.orders.get? fill.buyOrderId = some buy →
      ∀ sell, x.orders.get? fill.sellOrderId = some sell →
      OrderState.has sell "opens_short" = true →
      kept x (OrderState.key sell) = 0 ∨
        kept x (OrderState.key sell) + min fill.qty (min buy.remainingQty sell.remainingQty)
          ≤ held x (OrderState.key sell)
  | .admitOrder x orderId => ∀ o, x.orders.get? orderId = some o →
      ¬(o.status.active = true ∧ OrderState.ordinary o)
  | _ => True

instance : DecidablePred ReserveGood
  | .settle x fill => inferInstanceAs (Decidable (∀ buy ∈ x.orders.get? fill.buyOrderId,
      ∀ sell ∈ x.orders.get? fill.sellOrderId, OrderState.has sell "opens_short" = true →
      kept x (OrderState.key sell) = 0 ∨
        kept x (OrderState.key sell) + min fill.qty (min buy.remainingQty sell.remainingQty)
          ≤ held x (OrderState.key sell)))
  | .admitOrder x orderId => inferInstanceAs (Decidable (∀ o ∈ x.orders.get? orderId,
      ¬(o.status.active = true ∧ OrderState.ordinary o)))
  | .announce _ _ => inferInstanceAs (Decidable True)

/-! ## Sales out of the holding -/

/-- What an active sale out of the holding still reserves under a key. -/
def saleReserve (k : String) (o : OrderState) : Int :=
  if o.status.active = true ∧ OrderState.ordinary o ∧ OrderState.key o = k then o.reservedQty else 0

/-- An active sale reserves what it has left to sell; other orders reserve no
shares. -/
def ReserveOk (o : OrderState) : Prop :=
  (OrderState.ordinary o → o.status.active = true →
    o.reservedQty = o.remainingQty ∧ 0 ≤ o.remainingQty) ∧
  (¬OrderState.ordinary o → o.reservedQty = 0)

/-- Every stored order reserves as it should. -/
def SalesOk (x : ExchangeState) : Prop := ∀ k o, x.orders.get? k = some o → ReserveOk o

theorem saleReserve_nonneg {k : String} {o : OrderState} (h : ReserveOk o) :
    0 ≤ saleReserve k o := by
  unfold saleReserve
  split_ifs with hc
  · obtain ⟨he, hn⟩ := h.1 hc.2.1 hc.1
    omega
  · exact le_rfl

theorem sellReserve_eq {k : String} {o : OrderState} (h : ReserveOk o) :
    sellReserve k o = saleReserve k o := by
  unfold sellReserve saleReserve
  by_cases hord : OrderState.ordinary o
  · simp only [hord, hord.1, true_and]
  · rw [h.2 hord, ite_self, ite_self]

theorem SalesOk.sales_nonneg {x : ExchangeState} (h : SalesOk x) (k : String) :
    0 ≤ x.orders.total fun _ o => saleReserve k o := by
  refine List.sum_nonneg fun y hy => ?_
  obtain ⟨e, he, rfl⟩ := List.mem_map.mp hy
  exact saleReserve_nonneg (h _ _ (Dict.mem_entries_iff.mp he))

theorem SalesOk.sale_le {x : ExchangeState} (h : SalesOk x) {orderId : String} {o : OrderState}
    (hsales : x.orders.total (fun _ o' => saleReserve (OrderState.key o) o')
      ≤ kept x (OrderState.key o))
    (hcov : kept x (OrderState.key o) ≤ max 0 (held x (OrderState.key o)))
    (ho : x.orders.get? orderId = some o) (hord : OrderState.ordinary o)
    (ha : o.status.active = true) : o.remainingQty ≤ max 0 (held x (OrderState.key o)) := by
  have hone : saleReserve (OrderState.key o) o = o.remainingQty := by
    unfold saleReserve
    rw [if_pos ⟨ha, hord, rfl⟩]
    exact ((h _ _ ho).1 hord ha).1
  have hle : saleReserve (OrderState.key o) o
      ≤ x.orders.total fun _ o' => saleReserve (OrderState.key o) o' := by
    refine @Dict.row_le_total _ _ _ _ (fun _ o' => saleReserve (OrderState.key o) o') ?_ _ _ ho
    exact fun e he => saleReserve_nonneg (h _ _ (Dict.mem_entries_iff.mp he))
  calc o.remainingQty = saleReserve (OrderState.key o) o := hone.symm
    _ ≤ x.orders.total fun _ o' => saleReserve (OrderState.key o) o' := hle
    _ ≤ kept x (OrderState.key o) := hsales
    _ ≤ max 0 (held x (OrderState.key o)) := hcov

/-! ## What a step does to the sales -/

variable {cfg : ExchangeSettings} {s s' : Sim}

theorem saleReserve_sellAfter {t : Settlement} {sell : OrderState} (k : String)
    (ha : sell.status.active = true) (hok : ReserveOk sell) :
    saleReserve k (sellAfter t sell sell) = saleReserve k sell
      - (if k = OrderState.key sell ∧ OrderState.ordinary sell then t.qty else 0) := by
  have hkey : OrderState.key (sellAfter t sell sell) = OrderState.key sell := rfl
  have hord : OrderState.ordinary (sellAfter t sell sell) ↔ OrderState.ordinary sell := Iff.rfl
  by_cases ho : OrderState.ordinary sell ∧ OrderState.key sell = k
  swap
  · have h₁ : saleReserve k (sellAfter t sell sell) = 0 := by
      unfold saleReserve
      rw [if_neg fun hx => ho ⟨hord.mp hx.2.1, hkey ▸ hx.2.2⟩]
    have h₂ : saleReserve k sell = 0 := by
      unfold saleReserve
      rw [if_neg fun hx => ho hx.2]
    rw [h₁, h₂, if_neg fun hx => ho ⟨hx.2, hx.1.symm⟩, sub_zero]
  obtain ⟨hor, hk⟩ := ho
  have hleft := (hok.1 hor ha).1
  have hbefore : saleReserve k sell = sell.reservedQty := by
    unfold saleReserve
    rw [if_pos ⟨ha, hor, hk⟩]
  rw [hbefore, if_pos ⟨hk.symm, hor⟩]
  unfold saleReserve
  have hres : (sellAfter t sell sell).reservedQty = sell.reservedQty - t.qty := by
    show (if OrderState.has sell "opens_short" = true then sell.reservedQty
      else sell.reservedQty - t.qty) = _
    rw [hor.2]
    rfl
  have hst : (sellAfter t sell sell).status
      = if sell.remainingQty - t.qty = 0 then .filled else .partialFill := rfl
  by_cases hz : sell.remainingQty - t.qty = 0
  · rw [if_neg]
    · omega
    · rintro ⟨hact, -⟩
      rw [hst, if_pos hz] at hact
      exact absurd hact (by decide)
  · rw [if_pos, hres]
    refine ⟨?_, hord.mpr hor, hkey.trans hk⟩
    rw [hst, if_neg hz]
    rfl

theorem Settled.seller_active {fill : Fill} {tick : Int} {buy sell : OrderState}
    {security : SecurityState} {t : Settlement} (hok : FillOk s.exch fill)
    (hs : Settled cfg fill tick buy sell security t s s') :
    buy.side = .buy ∧ sell.side = .sell ∧ buy.symbol = sell.symbol ∧
      sell.status.active = true ∧
      t.qty = min fill.qty (min buy.remainingQty sell.remainingQty) := by
  obtain ⟨b, c, hb, hc, hsb, hsc, hsym, -, hfc⟩ := hok
  rw [hs.buy_at] at hb
  cases hb
  rw [hs.sell_at] at hc
  cases hc
  have hqty := hs.qty_pos
  have hqmin : t.qty = min fill.qty (min buy.remainingQty sell.remainingQty) := by
    rw [hs.amounts]; rfl
  exact ⟨hsb, hsc, hsym, hfc.resolve_right (by omega), hqmin⟩

theorem SalesOk.settled {fill : Fill} {tick : Int} {buy sell : OrderState}
    {security : SecurityState} {t : Settlement} (h : SalesOk s.exch) (hok : FillOk s.exch fill)
    (hs : Settled cfg fill tick buy sell security t s s') :
    SalesOk s'.exch ∧ ∀ k, s'.exch.orders.total (fun _ o => saleReserve k o)
      = s.exch.orders.total (fun _ o => saleReserve k o)
        - (if k = OrderState.key sell ∧ OrderState.has sell "opens_short" = false then t.qty
          else 0) := by
  obtain ⟨hsb, hsc, -, hac, hqmin⟩ := hs.seller_active hok
  have hqty := hs.qty_pos
  have hrow := h _ _ hs.sell_at
  refine ⟨fun k o ho => ?_, fun k => ?_⟩
  · rw [hs.order_at k] at ho
    split_ifs at ho with h₁ h₂
    · cases ho
      exact ⟨fun hx => absurd (hx.1.symm.trans hsb) (by decide),
        fun _ => (h _ _ hs.buy_at).2 fun hx => absurd (hx.1.symm.trans hsb) (by decide)⟩
    · cases ho
      refine ⟨fun hor _ => ?_, fun hnor => ?_⟩
      · obtain ⟨he, hn⟩ := hrow.1 hor hac
        have hf : OrderState.has sell "opens_short" = false := hor.2
        show (if OrderState.has sell "opens_short" = true then sell.reservedQty
          else sell.reservedQty - t.qty) = sell.remainingQty - t.qty ∧ 0 ≤ sell.remainingQty - t.qty
        rw [hf]
        simp only [Bool.false_eq_true, if_false]
        omega
      · have hnor : ¬OrderState.ordinary sell := hnor
        have hf : OrderState.has sell "opens_short" = true := by
          by_contra hx
          exact hnor ⟨hsc, by simpa using hx⟩
        show (if OrderState.has sell "opens_short" = true then sell.reservedQty
          else sell.reservedQty - t.qty) = 0
        rw [if_pos hf]
        exact hrow.2 hnor
    · exact h k o ho
  · have hneId : fill.sellOrderId ≠ fill.buyOrderId := by
      intro he
      have hb := hs.buy_at
      rw [← he, hs.sell_at] at hb
      cases hb
      exact hs.traders_ne rfl
    have hbuy : ∀ o : OrderState, o.side = .buy → saleReserve k o = 0 := by
      intro o hside
      unfold saleReserve
      rw [if_neg fun hx => absurd (hx.2.1.1.symm.trans hside) (by decide)]
    rw [hs.orders_eq, Dict.total_modify, Dict.total_modify, Dict.get?_modify, if_neg hneId,
      hs.buy_at, hs.sell_at]
    simp only [Option.elim_some]
    rw [hbuy buy hsb, hbuy (buyAfter t buy) hsb, saleReserve_sellAfter k hac hrow]
    have hiff : (k = OrderState.key sell ∧ OrderState.ordinary sell)
        ↔ (k = OrderState.key sell ∧ OrderState.has sell "opens_short" = false) :=
      and_congr_right fun _ => ⟨fun hx => hx.2, fun hx => ⟨hsc, hx⟩⟩
    simp only [hiff]
    omega

theorem SalesOk.cancelled {orderId : String} {expired : Bool} {order : OrderState}
    (h : SalesOk s.exch) (hc : Cancelled orderId expired order s s') :
    SalesOk s'.exch ∧ 0 ≤ order.reservedQty ∧
      ∀ k, s'.exch.orders.total (fun _ o => saleReserve k o)
        = s.exch.orders.total (fun _ o => saleReserve k o)
          - (if k = OrderState.key order then order.reservedQty else 0) := by
  have hrow := h _ _ hc.order_at
  have hinactive : (cancelledRow expired order).status.active = false := by
    unfold cancelledRow
    cases expired
    · rfl
    · rfl
  have hreserve : 0 ≤ order.reservedQty := by
    by_cases hor : OrderState.ordinary order
    · obtain ⟨he, hn⟩ := hrow.1 hor hc.active
      omega
    · exact (hrow.2 hor).ge
  refine ⟨fun k o ho => ?_, hreserve, fun k => ?_⟩
  · rw [hc.order_get k] at ho
    split_ifs at ho with hk
    · cases ho
      exact ⟨fun _ ha => absurd ha (by rw [hinactive]; decide), fun _ => rfl⟩
    · exact h k o ho
  · have hafter : saleReserve k (cancelledRow expired order) = 0 := by
      unfold saleReserve
      rw [if_neg fun hx => absurd hx.1 (by rw [hinactive]; decide)]
    have hbefore : saleReserve k order
        = if k = OrderState.key order then order.reservedQty else 0 := by
      unfold saleReserve
      by_cases hor : OrderState.ordinary order
      · simp only [hc.active, hor, true_and, eq_comm]
      · rw [if_neg fun hx => hor hx.2.1, hrow.2 hor, ite_self]
    have horders : s'.exch.orders = s.exch.orders.modify orderId (cancelledRow expired) := by
      rw [hc.exch_eq]
    rw [horders, Dict.total_modify, hc.order_at]
    simp only [Option.elim_some, hafter, hbefore]
    omega

theorem Placed.reserved {r : OrderRequest} {ordinal : Nat} {tick : Int} {reserved : Reservation}
    (hp : Placed r ordinal tick reserved s s') (hlocks : LocksOk s.exch) :
    ReserveOk (orderRow r reserved ordinal tick) ∧ 0 ≤ reserved.qty ∧
      (reserved.qty ≠ 0 → reserved.qty ≤ max 0 (Exchange.held s.exch (holdingKey r.actorId r.symbol)
        - Exchange.kept s.exch (holdingKey r.actorId r.symbol))) ∧
      ∀ k, saleReserve k (orderRow r reserved ordinal tick)
        = if k = holdingKey r.actorId r.symbol then reserved.qty else 0 := by
  have hqty := hp.qty_pos
  -- an order that is no ordinary sale reserves no shares
  have none : ¬OrderState.ordinary (orderRow r reserved ordinal tick) → reserved.qty = 0 →
      ReserveOk (orderRow r reserved ordinal tick) ∧ 0 ≤ reserved.qty ∧
        (reserved.qty ≠ 0 → reserved.qty ≤ max 0 (Exchange.held s.exch (holdingKey r.actorId r.symbol)
          - Exchange.kept s.exch (holdingKey r.actorId r.symbol))) ∧
        ∀ k, saleReserve k (orderRow r reserved ordinal tick)
          = if k = holdingKey r.actorId r.symbol then reserved.qty else 0 := by
    intro hnor hz
    refine ⟨⟨fun hor => absurd hor hnor, fun _ => hz⟩, hz.ge, fun hne => absurd hz hne, fun k => ?_⟩
    unfold saleReserve
    rw [if_neg fun hx => hnor hx.2.1, hz, ite_self]
  rcases hp.kind with ⟨hbuy, hz⟩ | ⟨-, hflag, hz⟩ | ⟨hside, hflag, he, -, hroom⟩
  · exact none (fun hor => absurd (hor.1.symm.trans hbuy) (by decide)) hz
  · refine none (fun hor => ?_) hz
    have hf : decide ("opens_short" ∈ r.orderFlags) = false := hor.2
    exact absurd hflag (of_decide_eq_false hf)
  · have hlock := hlocks.row r.actorId r.symbol
    have hor : OrderState.ordinary (orderRow r reserved ordinal tick) := by
      refine ⟨?_, decide_eq_false hflag⟩
      show r.side = .sell
      cases hr : r.side with
      | buy => exact absurd hr hside
      | sell => rfl
    rw [holdingRow_qty, holdingRow_reservedQty] at hroom
    refine ⟨⟨fun _ _ => ⟨he, hqty.le⟩, fun hnor => absurd hor hnor⟩, by omega, fun _ => ?_,
      fun k => ?_⟩
    · split_ifs at hroom
      · omega
      · omega
    · have hkey : OrderState.key (orderRow r reserved ordinal tick)
          = holdingKey r.actorId r.symbol := rfl
      have hact : (orderRow r reserved ordinal tick).status.active = true := rfl
      have hres : (orderRow r reserved ordinal tick).reservedQty = reserved.qty := rfl
      unfold saleReserve
      simp only [hact, hor, hkey, hres, true_and, eq_comm]

theorem SalesOk.placed {r : OrderRequest} {ordinal : Nat} {tick : Int} {reserved : Reservation}
    (h : SalesOk s.exch) (hlocks : LocksOk s.exch) (hp : Placed r ordinal tick reserved s s') :
    SalesOk s'.exch ∧ ∀ k, s'.exch.orders.total (fun _ o => saleReserve k o)
      = s.exch.orders.total (fun _ o => saleReserve k o)
        - s.exch.orders.weightAt (orderIdOf r.actionId) (fun _ o => saleReserve k o)
        + (if k = holdingKey r.actorId r.symbol then reserved.qty else 0) := by
  obtain ⟨hrow, -, -, hnew⟩ := hp.reserved hlocks
  refine ⟨fun k o ho => ?_, fun k => ?_⟩
  · rw [hp.order_get k] at ho
    split_ifs at ho
    · cases ho
      exact hrow
    · exact h k o ho
  · have horders : s'.exch.orders
        = s.exch.orders.put (orderIdOf r.actionId) (orderRow r reserved ordinal tick) := by
      rw [hp.exch_eq]
    rw [horders, Dict.total_put, hnew k]

/-! ## The invariant -/

/-- A holding reserves exactly what its sales reserve, and holds it. -/
structure ReserveInv (x : ExchangeState) : Prop where
  rows : SalesOk x
  sales : ∀ k, x.orders.total (fun _ o => saleReserve k o) = kept x k
  covered : ∀ k, kept x k ≤ max 0 (held x k)
  locks : LocksOk x

theorem ReserveInv.reserveLaw {x : ExchangeState} (h : ReserveInv x) : ReserveLaw x := by
  intro traderId symbol
  have hsame : x.orders.total (fun _ o => sellReserve (holdingKey traderId symbol) o)
      = x.orders.total (fun _ o => saleReserve (holdingKey traderId symbol) o) :=
    Dict.total_congr fun e he => sellReserve_eq (h.rows _ _ (Dict.mem_entries_iff.mp he))
  rw [holdingRow_reservedQty, holdingRow_qty, hsame]
  refine ⟨(h.sales _).symm, ?_, h.covered _⟩
  rw [← h.sales]
  exact h.rows.sales_nonneg _

theorem ReserveInv.congr {x y : ExchangeState} (h : ReserveInv x) (ho : y.orders = x.orders)
    (hheld : ∀ k, held x k ≤ held y k) (hkept : ∀ k, kept y k = kept x k) (hlocks : LocksOk y) :
    ReserveInv y where
  rows k o hk := h.rows k o (ho ▸ hk)
  sales k := by
    rw [ho, hkept k]
    exact h.sales k
  covered k := by
    have hcov := h.covered k
    have hmore := hheld k
    rw [hkept k]
    omega
  locks := hlocks

theorem ReserveInv.settled {fill : Fill} {tick : Int} {buy sell : OrderState}
    {security : SecurityState} {t : Settlement} (h : ReserveInv s.exch) (hok : FillOk s.exch fill)
    (hgood : ReserveGood (.settle s.exch fill)) (hlocks : LocksOk s'.exch)
    (hs : Settled cfg fill tick buy sell security t s s') : ReserveInv s'.exch := by
  obtain ⟨-, hsc, -, hac, hqmin⟩ := hs.seller_active hok
  obtain ⟨hrows, hsales⟩ := h.rows.settled hok hs
  have hne := hs.keys_ne
  have hqty := hs.qty_pos
  refine ⟨hrows, fun k => ?_, fun k => ?_, hlocks⟩
  · rw [hsales k, hs.kept k, h.sales k]
  have hcov := h.covered k
  rw [hs.kept k, hs.held k]
  by_cases hks : k = OrderState.key sell
  · have hkb : k ≠ OrderState.key buy := fun hx => hne (hx.symm.trans hks)
    rw [if_neg hkb, if_pos hks]
    cases hf : OrderState.has sell "opens_short" with
    | true =>
      -- the shares sold short are not among the reserved ones
      have hfree := hgood buy hs.buy_at sell hs.sell_at hf
      rw [← hks, ← hqmin] at hfree
      rw [if_neg (by simp)]
      omega
    | false =>
      have hroom := h.rows.sale_le (h.sales _).le (h.covered _) hs.sell_at ⟨hsc, hf⟩ hac
      rw [← hks] at hroom
      rw [if_pos ⟨hks, rfl⟩]
      omega
  · rw [if_neg fun hx => hks hx.1, if_neg hks]
    split_ifs
    · omega
    · omega

theorem ReserveInv.step (hstep : Step cfg false s s') (hgood : ∀ m ∈ s'.trail, ReserveGood m)
    (h : ReserveInv s.exch) : ReserveInv s'.exch := by
  have hlocks := hstep.locksOk h.locks
  have listed : ∀ {symbol : String} {shares : Int} {allocation : Dict String Int}
      {x x' : ExchangeState}, Listed symbol shares allocation x x' →
      (∀ k q, allocation.get? k = some q → 0 ≤ q) → LocksOk x' → ReserveInv x →
      ReserveInv x' := by
    intro symbol shares allocation x x' hl hq hx' hx
    refine hx.congr hl.orders_eq (fun k => ?_) hl.kept hx'
    rw [hl.held k]
    refine le_add_of_nonneg_right (List.sum_nonneg fun y hy => ?_)
    obtain ⟨r, hr, rfl⟩ := List.mem_map.mp hy
    split_ifs
    · exact hq r.1 r.2 (Dict.mem_entries_iff.mp ((Dict.sortedEntries_perm _).mem_iff.mp hr))
    · exact le_rfl
  cases hstep with
  | quiet hq =>
    exact h.congr hq.orders_eq (fun k => (held_congr hq.holdings_eq k).ge)
      (fun k => kept_congr hq.holdings_eq k) hlocks
  | @settled fill _ _ _ _ _ hok hs =>
    exact h.settled hok (hgood (.settle s.exch fill) (by rw [hs.trail_eq]; simp)) hlocks hs
  | @cancelled orderId _ order hc =>
    obtain ⟨hrows, hreserve, hsales⟩ := h.rows.cancelled hc
    refine ⟨hrows, fun k => ?_, fun k => ?_, hlocks⟩
    · rw [hsales k, hc.kept k, h.sales k]
    · have hcov := h.covered k
      rw [hc.kept k, hc.held k]
      split_ifs
      · omega
      · omega
  | turned ht =>
    exact h.congr ht.orders_eq (fun k => (ht.held k).ge) ht.kept hlocks
  | indicated hi =>
    have hx := hi.exch_eq
    exact h.congr (by rw [hx]) (fun k => (held_congr (by rw [hx]) k).ge)
      (fun k => kept_congr (by rw [hx]) k) hlocks
  | @placed r _ _ reserved hp =>
    obtain ⟨hrows, hsales⟩ := h.rows.placed h.locks hp
    obtain ⟨-, hnonneg, hroom, -⟩ := hp.reserved h.locks
    obtain ⟨x, htrail, horders⟩ := hp.trail_eq
    have hfresh := hgood (.admitOrder x (orderIdOf r.actionId)) (by rw [htrail]; simp)
    -- the replaced order reserved nothing
    have hold : ∀ k, s.exch.orders.weightAt (orderIdOf r.actionId) (fun _ o => saleReserve k o)
        = 0 := by
      intro k
      unfold Dict.weightAt
      cases hg : s.exch.orders.get? (orderIdOf r.actionId) with
      | none => rfl
      | some o =>
        have hidle := hfresh o (by rw [horders]; exact hg)
        show saleReserve k o = 0
        unfold saleReserve
        rw [if_neg fun hx => hidle ⟨hx.1, hx.2.1⟩]
    refine ⟨hrows, fun k => ?_, fun k => ?_, hlocks⟩
    · rw [hsales k, hold k, hp.kept k, h.sales k, sub_zero]
    · have hcov := h.covered k
      rw [hp.kept k, hp.held k]
      split_ifs with hk
      · by_cases hz : reserved.qty = 0
        · omega
        · have := hroom hz
          rw [← hk] at this
          omega
      · omega
  | announced ha =>
    have hx := ha.exch_eq
    exact h.congr (by rw [hx]) (fun k => (held_congr (by rw [hx]) k).ge)
      (fun k => kept_congr (by rw [hx]) k) hlocks
  | failed hf =>
    have he := hf.eq
    subst he
    exact h.congr rfl (fun _ => le_rfl) (fun _ => rfl) hlocks
  | @completed key _ _ hc =>
    obtain ⟨_, _, _, hl, hq⟩ := hc.listed
    have hx : ReserveInv (withIpoStatus key .completed s.exch) :=
      h.congr rfl (fun _ => le_rfl) (fun _ => rfl) h.locks
    exact listed hl (fun k q hk => (hq k q hk).1) hlocks hx
  | listed hl _ _ hfrom =>
    rcases hfrom with hout | ⟨-, hq⟩
    · cases hout
    · exact listed hl hq hlocks h
  | called hx =>
    exact h.congr (by rw [hx]) (fun k => (held_congr (by rw [hx]) k).ge)
      (fun k => kept_congr (by rw [hx]) k) hlocks

/-! ## Runs -/

/-- No orders and no positions; no holding is negative, reserved or locked
below zero. -/
structure LongOnly (x : ExchangeState) : Prop where
  orders : x.orders.entries = []
  shorts : x.shorts.entries = []
  holdings : ∀ k h, x.holdings.get? k = some h → 0 ≤ h.qty ∧ h.reservedQty = 0 ∧ 0 ≤ h.lockedQty

theorem LongOnly.of_rows {x : ExchangeState} (h : x.orders = ∅ ∧ x.shorts = ∅ ∧
    ∀ e ∈ x.holdings.entries, 0 ≤ e.2.qty ∧ e.2.reservedQty = 0 ∧ 0 ≤ e.2.lockedQty) :
    LongOnly x := by
  refine ⟨by rw [h.1]; rfl, by rw [h.2.1]; rfl, fun k r hk => ?_⟩
  exact h.2.2 _ (Dict.mem_entries_iff.mpr hk)

theorem LongOnly.counts {x : ExchangeState} (h : LongOnly x) (k : String) :
    0 ≤ held x k ∧ kept x k = 0 := by
  unfold held kept
  cases hk : x.holdings.get? k with
  | none => exact ⟨le_rfl, rfl⟩
  | some row => exact ⟨(h.holdings k row hk).1, (h.holdings k row hk).2.1⟩

theorem LongOnly.no_order {x : ExchangeState} (h : LongOnly x) (k : String) :
    x.orders.get? k = none := by
  have ho : x.orders = ∅ := Dict.ext_entries h.orders
  rw [ho]
  rfl

theorem LongOnly.keyed {x : ExchangeState} (h : LongOnly x) : Keyed x := by
  intro k o hk
  rw [h.no_order k] at hk
  cases hk

theorem LongOnly.reserveInv {x : ExchangeState} (h : LongOnly x) : ReserveInv x := by
  refine ⟨fun k o hk => ?_, fun k => ?_, fun k => ?_, fun k r hr => (h.holdings k r hr).2.2⟩
  · rw [h.no_order k] at hk
    cases hk
  · have ho : x.orders = ∅ := Dict.ext_entries h.orders
    rw [ho, (h.counts k).2]
    rfl
  · rw [(h.counts k).2]
    exact le_max_left _ _

/-- **Reserved shares are owned shares** in every state ticks reach, as long as
no short sale takes shares that are reserved and no active sale is replaced. -/
theorem reserved_shares [Uuid5] {settings : Settings} {s₀ s : Sim} (h₀ : LongOnly s₀.exch)
    (hrun : Ticks settings s₀ s) (hgood : ∀ m ∈ s.trail, ReserveGood m) : ReserveLaw s.exch := by
  have hinv : ReserveInv s.exch :=
    Steps.induction (fun _ _ => ReserveInv.step) (hrun.steps h₀.keyed) hgood h₀.reserveInv
  exact hinv.reserveLaw

/-- A market in which "ag_a" owns ten shares of "S" and "ag_b" the others. -/
def sharedMarket [Uuid5] : EngineM Unit := do
  openMarket ["ag_a", "ag_b", "ag_c"] 1000
  ExchangeCall.run
    (.listSecurity "S" "fm_s" 1000 10 0 (Dict.ofList [("ag_a", 10), ("ag_b", 990)]) none none)

/-- The settings and the traders of the market. -/
def ownedMarketCtx : Ctx where
  settings := { exchange := { enabled := true } }
  agents := ["ag_a", "ag_b", "ag_c"]

/-- "ag_a" offers shares at a price nobody bids, and sells one short to
"ag_b". -/
def offerAndShort (offered : Int) (pos : 1 ≤ offered := by decide) :
    List (List ExchangeAction × Int) :=
  [([limitOrder "a1" "ag_a" "S" .sell offered 11 pos, shortSale "a2" "ag_a" "S" 1 10 15,
      limitOrder "b1" "ag_b" "S" .buy 1 10], 9)]

theorem reserved_shares_offered :
    letI : Uuid5 := ⟨fun run name => run ++ name⟩
    ∃ s₀ s, Ticks ownedMarketCtx.settings s₀ s ∧ kept s.exch "ag_a:S" = 9 ∧
      held s.exch "ag_a:S" = 9 ∧ ReserveLaw s.exch := by
  let _ : Uuid5 := ⟨fun run name => run ++ name⟩
  have hmarket : outcome (sharedMarket emptySim) (fun s =>
      decide (s.exch.orders = ∅ ∧ s.exch.shorts = ∅ ∧ ∀ e ∈ s.exch.holdings.entries,
        0 ≤ e.2.qty ∧ e.2.reservedQty = 0 ∧ 0 ≤ e.2.lockedQty) &&
      (outcome (each (tickOf ownedMarketCtx) (offerAndShort 9) s) fun s =>
        decide (kept s.exch "ag_a:S" = 9 ∧ held s.exch "ag_a:S" = 9 ∧
          ∀ m ∈ s.trail, ReserveGood m)) = some true) = some true := by decide +kernel
  obtain ⟨_, s₀, -, hboth⟩ := outcome_eq_some hmarket
  obtain ⟨hrows, hdays⟩ := Bool.and_eq_true_iff.mp hboth
  obtain ⟨_, s, hrun, hend⟩ := outcome_eq_some (of_decide_eq_true hdays)
  obtain ⟨hkept, hheld, hgood⟩ := of_decide_eq_true hend
  have hs : Ticks ownedMarketCtx.settings s₀ s := Ticks.start.more rfl hrun
  exact ⟨s₀, s, hs, hkept, hheld,
    reserved_shares (.of_rows (of_decide_eq_true hrows)) hs hgood⟩

theorem reserved_shares_breaks :
    letI : Uuid5 := ⟨fun run name => run ++ name⟩
    ∃ s₀ s, LongOnly s₀.exch ∧ Ticks ownedMarketCtx.settings s₀ s ∧
      kept s.exch "ag_a:S" = 10 ∧ held s.exch "ag_a:S" = 9 ∧ ¬ReserveLaw s.exch := by
  let _ : Uuid5 := ⟨fun run name => run ++ name⟩
  have hmarket : outcome (sharedMarket emptySim) (fun s =>
      decide (s.exch.orders = ∅ ∧ s.exch.shorts = ∅ ∧ ∀ e ∈ s.exch.holdings.entries,
        0 ≤ e.2.qty ∧ e.2.reservedQty = 0 ∧ 0 ≤ e.2.lockedQty) &&
      (outcome (each (tickOf ownedMarketCtx) (offerAndShort 10) s) fun s =>
        decide (kept s.exch "ag_a:S" = 10 ∧ held s.exch "ag_a:S" = 9)) = some true)
          = some true := by decide +kernel
  obtain ⟨_, s₀, -, hboth⟩ := outcome_eq_some hmarket
  obtain ⟨hrows, hdays⟩ := Bool.and_eq_true_iff.mp hboth
  obtain ⟨_, s, hrun, hend⟩ := outcome_eq_some (of_decide_eq_true hdays)
  obtain ⟨hkept, hheld⟩ := of_decide_eq_true hend
  refine ⟨s₀, s, .of_rows (of_decide_eq_true hrows), Ticks.start.more rfl hrun, hkept, hheld,
    fun hlaw => ?_⟩
  have hq := (hlaw "ag_a" "S").2.2
  have hkey : holdingKey "ag_a" "S" = "ag_a:S" := by decide
  rw [holdingRow_qty, holdingRow_reservedQty, hkey, hkept, hheld] at hq
  exact absurd hq (by decide)

end Polis.Economy.Exchange
