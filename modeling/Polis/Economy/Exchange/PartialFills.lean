/-
  Polis.Economy.Exchange.PartialFills — what the reservation of a buy order
  covers (`_settle`, `_commission`, `_reserve_required` of
  `economy/exchange/engine.py`).

  A buy order reserves, for each share, its price and the largest commission
  one share can cost.  The commission is rounded up and has a floor, so a fill
  of several shares never costs more than the sum over its shares, and the
  reservation covers every split of the order.  What leaves the escrow is more
  than the reservation gives up exactly when the commission exceeds the price
  paid, because the seller's net is clamped at zero.

  Main results:
    * `reserve_covers` — a fill and the rest of the order.
    * `partial_fills_covered` — every sequence of fills of an order.
-/
import Polis.Economy.Exchange.Escrow

namespace Polis.Economy.Exchange

open Lib Lib.Effect Lib.DoubleEntry Sim Ledger

/-! ## Commissions -/

section Commissions

variable {cfg : ExchangeSettings}

theorem bpCeil_le_iff (value rateBp c : Int) : bpCeil value rateBp ≤ c ↔ value * rateBp ≤ 10000 * c := by
  unfold bpCeil
  omega

/-- The rates and floors the settings accept. -/
structure Rated (cfg : ExchangeSettings) : Prop where
  bp_nonneg : 0 ≤ cfg.commissionBp
  bp_le : cfg.commissionBp ≤ 10000
  floor_nonneg : 0 ≤ cfg.commissionFloorCents

theorem Rated.commission_nonneg (h : Rated cfg) (notional : Int) : 0 ≤ commission cfg notional := by
  have hfloor := h.floor_nonneg
  unfold commission
  split_ifs
  · omega
  · omega

theorem Rated.commission_le_mul (h : Rated cfg) {qty price reserve : Int} (hq : 0 < qty)
    (hp : price ≤ reserve) : commission cfg (price * qty) ≤ qty * commission cfg reserve := by
  unfold commission
  split_ifs with hbp
  · omega
  · apply max_le
    · -- the floor is charged once for the fill and once for each share
      calc cfg.commissionFloorCents = 1 * cfg.commissionFloorCents := (one_mul _).symm
        _ ≤ qty * cfg.commissionFloorCents :=
          mul_le_mul_of_nonneg_right (by omega) h.floor_nonneg
        _ ≤ _ := mul_le_mul_of_nonneg_left (le_max_left _ _) (by omega)
    · -- rounding up once loses less than rounding up for each share
      have hone : reserve * cfg.commissionBp ≤ 10000 * bpCeil reserve cfg.commissionBp :=
        (bpCeil_le_iff _ _ _).mp le_rfl
      rw [bpCeil_le_iff]
      calc price * qty * cfg.commissionBp = qty * (price * cfg.commissionBp) := by ring
        _ ≤ qty * (reserve * cfg.commissionBp) :=
          mul_le_mul_of_nonneg_left (mul_le_mul_of_nonneg_right hp h.bp_nonneg) (by omega)
        _ ≤ qty * (10000 * max cfg.commissionFloorCents (bpCeil reserve cfg.commissionBp)) := by
          apply mul_le_mul_of_nonneg_left _ (by omega)
          omega
        _ = 10000 * (qty * max cfg.commissionFloorCents (bpCeil reserve cfg.commissionBp)) := by
          ring

theorem Rated.commission_le_iff (h : Rated cfg) {gross : Int} (hg : 0 < gross) :
    commission cfg gross ≤ gross ↔ cfg.commissionBp = 0 ∨ cfg.commissionFloorCents ≤ gross := by
  have hceil : bpCeil gross cfg.commissionBp ≤ gross := by
    rw [bpCeil_le_iff, mul_comm]
    exact mul_le_mul_of_nonneg_right h.bp_le (by omega)
  unfold commission
  split_ifs with hbp
  · simp only [hbp, true_or, iff_true]
    omega
  · simp only [hbp, false_or]
    omega

theorem Rated.reserve_covers (h : Rated cfg) {qty remaining price reserve : Int} (hq : 0 < qty)
    (hle : qty ≤ remaining) (hp : price ≤ reserve) :
    price * qty + commission cfg (price * qty) + reserveRequired cfg (remaining - qty) reserve ≤
      reserveRequired cfg remaining reserve := by
  have hcomm := h.commission_le_mul hq hp
  have hgross : price * qty ≤ reserve * qty := mul_le_mul_of_nonneg_right hp (by omega)
  -- with nothing left the reservation is the same product
  have hrest : reserveRequired cfg (remaining - qty) reserve =
      (remaining - qty) * reserve + (remaining - qty) * commission cfg reserve := by
    unfold reserveRequired
    split_ifs with hz
    · have hzero : remaining - qty = 0 := by omega
      rw [hzero]
      ring
    · rfl
  have hall : reserveRequired cfg remaining reserve =
      remaining * reserve + remaining * commission cfg reserve := if_neg (by omega)
  rw [hrest, hall]
  have hsum : (remaining - qty) * reserve + (remaining - qty) * commission cfg reserve =
      remaining * reserve + remaining * commission cfg reserve
        - (reserve * qty + qty * commission cfg reserve) := by ring
  omega

end Commissions

/-! ## One fill -/

section Fill

variable {cfg : ExchangeSettings} {fill : Fill} {buy sell : OrderState} {reserve : Int}

theorem settled_qty_le : (settlementOf cfg fill buy sell reserve).qty ≤ buy.remainingQty := by
  show min fill.qty (min buy.remainingQty sell.remainingQty) ≤ buy.remainingQty
  omega

theorem release_nonneg (h : Rated cfg)
    (hres : buy.reservedCents = reserveRequired cfg buy.remainingQty reserve)
    (hq : 0 < (settlementOf cfg fill buy sell reserve).qty) (hp : fill.priceCents ≤ reserve) :
    0 ≤ buy.reservedCents - ((settlementOf cfg fill buy sell reserve).gross
      + (settlementOf cfg fill buy sell reserve).commissionBuy)
      - (settlementOf cfg fill buy sell reserve).remainingRequired := by
  have hcovers := h.reserve_covers hq settled_qty_le hp
  rw [hres]
  show 0 ≤ reserveRequired cfg buy.remainingQty reserve
    - (fill.priceCents * (settlementOf cfg fill buy sell reserve).qty
      + commission cfg (fill.priceCents * (settlementOf cfg fill buy sell reserve).qty))
    - reserveRequired cfg (buy.remainingQty - (settlementOf cfg fill buy sell reserve).qty) reserve
  omega

/-- What the legs of a settlement take out of an account. -/
def takenFrom (a : AccountId) (legs : List Leg) : Int :=
  -net (fun b => if b = a then 1 else 0) (lines legs)

theorem outside_single {a : AccountId} (ha : a.code = .esc) :
    Outside fun b : AccountId => if b = a then (1 : ℤ) else 0 where
  dpl b hb := by
    rw [if_neg]
    intro h
    rw [h, ha] at hb
    cases hb
  res b hb := by
    rw [if_neg]
    intro h
    rw [h, ha] at hb
    cases hb

theorem takenFrom_pay {escrow deposit : AccountId} {cents : Int} {reason : String}
    {legs : List Leg} (he : escrow.code = .esc) (hd : deposit.code = .dep)
    (h : legsIf (0 < cents) (transfer escrow deposit cents reason) = .ok legs) :
    takenFrom escrow legs = max 0 cents := by
  unfold takenFrom
  unfold legsIf at h
  split_ifs at h with hc
  · have hne : deposit ≠ escrow := by
      intro heq
      rw [heq, he] at hd
      cases hd
    rw [net_transfer (outside_single he) h, if_neg hne, if_pos rfl]
    omega
  · cases h
    rw [max_eq_left (by omega)]
    rfl

theorem takenFrom_append (a : AccountId) (legs legs' : List Leg) :
    takenFrom a (legs ++ legs') = takenFrom a legs + takenFrom a legs' := by
  unfold takenFrom
  rw [lines_append, net_append]
  ring

theorem takenFrom_settlement {t : Settlement} {escrow seller broker buyer : AccountId}
    {legs : List Leg} (he : escrow.code = .esc) (hs : seller.code = .dep) (hb : broker.code = .dep)
    (hd : buyer.code = .dep) (h : settlementLegs t escrow seller broker buyer = .ok legs) :
    takenFrom escrow legs = spent t := by
  unfold settlementLegs at h
  obtain ⟨toSeller, h₁, h⟩ := except_bind_eq_ok.mp h
  obtain ⟨toBroker, h₂, h⟩ := except_bind_eq_ok.mp h
  obtain ⟨toBuyer, h₃, h⟩ := except_bind_eq_ok.mp h
  cases h
  rw [takenFrom_append, takenFrom_append, takenFrom_pay he hs h₁, takenFrom_pay he hb h₂,
    takenFrom_pay he hd h₃]
  rfl

theorem pay_within {escrow deposit : AccountId} (cents : Int) (reason : String)
    (he : escrow.code = .esc) (hd : deposit.code = .dep) (hbank : bankOf escrow = bankOf deposit) :
    ∃ legs, legsIf (0 < cents) (transfer escrow deposit cents reason) = .ok legs := by
  unfold legsIf
  split_ifs with hc
  · unfold transfer
    rw [if_neg (by omega), if_neg (by simp [he, hd]), if_pos hbank]
    exact ⟨_, rfl⟩
  · exact ⟨[], rfl⟩

theorem settlementLegs_within (t : Settlement) (escrow seller broker buyer : AccountId)
    (he : escrow.code = .esc) (hs : seller.code = .dep) (hb : broker.code = .dep)
    (hd : buyer.code = .dep) (hs' : bankOf escrow = bankOf seller)
    (hb' : bankOf escrow = bankOf broker) (hd' : bankOf escrow = bankOf buyer) :
    ∃ legs, settlementLegs t escrow seller broker buyer = .ok legs := by
  obtain ⟨toSeller, h₁⟩ := pay_within (t.gross - t.commissionSell) "trade" he hs hs'
  obtain ⟨toBroker, h₂⟩ := pay_within (t.commissionBuy + t.commissionSell) "trade" he hb hb'
  obtain ⟨toBuyer, h₃⟩ := pay_within t.release "escrow" he hd hd'
  unfold settlementLegs
  dsimp only
  rw [h₁, h₂, h₃]
  exact ⟨_, rfl⟩

theorem spent_eq_drop_iff (h : Rated cfg)
    (hres : buy.reservedCents = reserveRequired cfg buy.remainingQty reserve)
    (hq : 0 < (settlementOf cfg fill buy sell reserve).qty) (hlow : 1 ≤ fill.priceCents)
    (hp : fill.priceCents ≤ reserve) :
    spent (settlementOf cfg fill buy sell reserve) =
        buy.reservedCents - (settlementOf cfg fill buy sell reserve).remainingRequired ↔
      cfg.commissionBp = 0 ∨
        cfg.commissionFloorCents ≤ (settlementOf cfg fill buy sell reserve).gross := by
  have hrelease := release_nonneg h hres hq hp
  have hcomm := h.commission_nonneg (settlementOf cfg fill buy sell reserve).gross
  have hg : 0 < (settlementOf cfg fill buy sell reserve).gross := mul_pos (by omega) hq
  rw [← h.commission_le_iff hg]
  set st := settlementOf cfg fill buy sell reserve with hst
  have hbuy : st.commissionBuy = commission cfg st.gross := by rw [hst]; rfl
  have hsell : st.commissionSell = commission cfg st.gross := by rw [hst]; rfl
  have hr : st.release
      = max 0 (buy.reservedCents - (st.gross + st.commissionBuy) - st.remainingRequired) := by
    rw [hst]
    rfl
  unfold spent
  rw [hr, hsell, hbuy]
  rw [hbuy] at hrelease
  -- the seller's net is clamped when the commission exceeds the price
  constructor
  · intro heq
    omega
  · intro hle
    omega

end Fill

/-! ## Every sequence of fills -/

section Fills

variable {cfg : ExchangeSettings}

/-- Fills of a buy order at prices up to its reserve price; between them the
exchange does what it likes to other rows. -/
inductive PartialFills (cfg : ExchangeSettings) (orderId : String) (reserve : Int) (s₀ : Sim) :
    Sim → Prop where
  | start : PartialFills cfg orderId reserve s₀ s₀
  | fill {s s' : Sim} {f : Fill} {tick : Int} {buy sell : OrderState} {security : SecurityState}
      {t : Settlement} (h : PartialFills cfg orderId reserve s₀ s)
      (hfill : Settled cfg f tick buy sell security t s s') (hbuy : f.buyOrderId = orderId)
      (hprice : reservePriceOf cfg buy security = reserve) (hlow : 1 ≤ f.priceCents)
      (hhigh : f.priceCents ≤ reserve) : PartialFills cfg orderId reserve s₀ s'
  | other {s s' : Sim} (h : PartialFills cfg orderId reserve s₀ s)
      (hrow : s'.exch.orders.get? orderId = s.exch.orders.get? orderId) :
      PartialFills cfg orderId reserve s₀ s'

/-- The row of an order reserves what its remainder needs. -/
def Reserved (cfg : ExchangeSettings) (orderId : String) (reserve : Int) (s : Sim) : Prop :=
  ∀ o, s.exch.orders.get? orderId = some o →
    o.reservedCents = reserveRequired cfg o.remainingQty reserve

theorem Reserved.settled {orderId : String} {reserve : Int} {s s' : Sim} {f : Fill} {tick : Int}
    {buy sell : OrderState} {security : SecurityState} {t : Settlement}
    (hfill : Settled cfg f tick buy sell security t s s') (hbuy : f.buyOrderId = orderId)
    (hprice : reservePriceOf cfg buy security = reserve) : Reserved cfg orderId reserve s' := by
  intro o ho
  rw [hfill.order_at, if_pos hbuy.symm] at ho
  cases ho
  rw [hfill.amounts, hprice]
  rfl

theorem Reserved.fills {orderId : String} {reserve : Int} {s₀ s : Sim}
    (h : PartialFills cfg orderId reserve s₀ s) (h₀ : Reserved cfg orderId reserve s₀) :
    Reserved cfg orderId reserve s := by
  induction h with
  | start => exact h₀
  | fill _ hfill hbuy hprice _ _ _ => exact .settled hfill hbuy hprice
  | other _ hrow ih =>
    intro o ho
    rw [hrow] at ho
    exact ih o ho

/-- **Reservations and partial fills.**  However an order is split into fills,
the release of a fill is not negative before it is clamped.  What the legs take
out of the buyer's escrow is what the reservation gives up exactly when there
is no commission or the fill pays at least its floor. -/
theorem partial_fills_covered (hrated : Rated cfg) {orderId : String} {reserve : Int}
    {s₀ s s' : Sim} (h₀ : Reserved cfg orderId reserve s₀)
    (h : PartialFills cfg orderId reserve s₀ s) {f : Fill} {tick : Int} {buy sell : OrderState}
    {security : SecurityState} {t : Settlement}
    (hfill : Settled cfg f tick buy sell security t s s') (hbuy : f.buyOrderId = orderId)
    (hprice : reservePriceOf cfg buy security = reserve) (hlow : 1 ≤ f.priceCents)
    (hhigh : f.priceCents ≤ reserve) :
    0 ≤ buy.reservedCents - (t.gross + t.commissionBuy) - t.remainingRequired ∧
    ∀ (buyer : OrderState), s'.exch.orders.get? orderId = some buyer →
      ∀ (escrow seller broker deposit : AccountId) (legs : List Leg), escrow.code = .esc →
        seller.code = .dep → broker.code = .dep → deposit.code = .dep →
        settlementLegs t escrow seller broker deposit = .ok legs →
        (takenFrom escrow legs = buy.reservedCents - buyer.reservedCents ↔
          cfg.commissionBp = 0 ∨ cfg.commissionFloorCents ≤ t.gross) := by
  have hres := h₀.fills h buy (hbuy ▸ hfill.buy_at)
  have hq := hfill.qty_pos
  have ht := hfill.amounts
  rw [hprice] at ht
  subst ht
  refine ⟨release_nonneg hrated hres hq hhigh, ?_⟩
  intro buyer hbuyer escrow seller broker deposit legs he hs hb hd hlegs
  rw [hfill.order_at, if_pos hbuy.symm] at hbuyer
  cases hbuyer
  rw [takenFrom_settlement he hs hb hd hlegs]
  exact spent_eq_drop_iff hrated hres hq hlow hhigh

end Fills

/-! ## Two commissions -/

section

variable [Uuid5]

/-- A listing of "S", a share offered by "ag_a" at 10, and bids of "ag_b" at 8
and 10. -/
def placeBids (settings : Settings) : EngineM Unit := do
  openMarket ["ag_a", "ag_b"] 1000
  let _ ← listSecurity "S" "fm_s" 1000 10 0 (Dict.ofList [("ag_a", 1000)]) none none
  each (fun r => do
      let _ ← admitOrder { settings, agents := ["ag_a", "ag_b"] } r 0 9 true)
    ([limitOrder "a1" "ag_a" "S" .sell 1 10, limitOrder "b1" "ag_b" "S" .buy 1 8,
      limitOrder "b2" "ag_b" "S" .buy 1 10].filterMap orderRequest?)

/-- The fill of the bid at 10. -/
def shareFill : Fill := ⟨orderIdOf "b2", orderIdOf "a1", 10, 1, .auction⟩

/-- The bid at 10 is reserved and its fill goes through, taking `cents`. -/
def fillTakes (settings : Settings) (cents drop : Int) : Bool :=
  outcome (placeBids settings emptySim) (fun s =>
    decide (∀ o ∈ s.exch.orders.get? (orderIdOf "b2"),
      o.reservedCents = reserveRequired settings.exchange o.remainingQty 10 ∧
      ∀ sell ∈ s.exch.orders.get? (orderIdOf "a1"), ∀ security ∈ s.exch.securities.get? o.symbol,
        reservePriceOf settings.exchange o security = 10 ∧
        spent (settlementOf settings.exchange shareFill o sell 10) = cents ∧
        o.reservedCents - (settlementOf settings.exchange shareFill o sell 10).remainingRequired
          = drop) &&
    (outcome (settle settings.exchange shareFill 9 s) fun s' =>
      decide (s'.trail.length ≠ s.trail.length)) = some true) = some true

theorem settled_of_fillTakes {settings : Settings} {cents drop : Int}
    (h : fillTakes settings cents drop = true) :
    ∃ s s' buy sell security t,
      Settled settings.exchange shareFill 9 buy sell security t s s' ∧
      Reserved settings.exchange (orderIdOf "b2") 10 s ∧
      reservePriceOf settings.exchange buy security = 10 ∧ spent t = cents ∧
      buy.reservedCents - (buyAfter t buy).reservedCents = drop := by
  obtain ⟨_, s, -, hs⟩ := outcome_eq_some (of_decide_eq_true h)
  obtain ⟨hrows, hsettle⟩ := Bool.and_eq_true_iff.mp hs
  obtain ⟨_, s', hrun, hlen⟩ := outcome_eq_some (of_decide_eq_true hsettle)
  have hrows := of_decide_eq_true hrows
  rcases settle_eq_ok hrun with rfl | ⟨buy, sell, security, t, hfill⟩
  · exact absurd rfl (of_decide_eq_true hlen)
  · obtain ⟨-, hb⟩ := hrows buy hfill.buy_at
    obtain ⟨hprice, hspent, hdrop⟩ := hb sell hfill.sell_at security hfill.security_at
    have ht := hfill.amounts
    rw [hprice] at ht
    subst ht
    exact ⟨s, s', buy, sell, security, _, hfill, fun o ho => (hrows o ho).1, hprice, hspent, hdrop⟩

end

theorem partial_fills_covered_mild :
    letI : Uuid5 := ⟨fun run name => run ++ name⟩
    ∃ s s' buy sell security t,
      Settled mild.exchange shareFill 9 buy sell security t s s' ∧
      0 ≤ buy.reservedCents - (t.gross + t.commissionBuy) - t.remainingRequired := by
  let _ : Uuid5 := ⟨fun run name => run ++ name⟩
  have hrated : Rated mild.exchange := ⟨by decide, by decide, by decide⟩
  obtain ⟨s, s', buy, sell, security, t, hfill, hres, hprice, -, -⟩ :=
    settled_of_fillTakes (show fillTakes mild 12 12 = true by decide +kernel)
  exact ⟨s, s', buy, sell, security, t, hfill,
    (partial_fills_covered hrated hres .start hfill rfl hprice (by decide) (by decide)).1⟩

theorem steep_fill_overdraws :
    letI : Uuid5 := ⟨fun run name => run ++ name⟩
    ∃ s s' buy sell security t, Rated steep.exchange ∧
      Settled steep.exchange shareFill 9 buy sell security t s s' ∧
      Reserved steep.exchange (orderIdOf "b2") 10 s ∧
      reservePriceOf steep.exchange buy security = 10 ∧
      ∃ (escrow seller broker deposit : AccountId) (legs : List Leg), escrow.code = .esc ∧
        seller.code = .dep ∧ broker.code = .dep ∧ deposit.code = .dep ∧
        settlementLegs t escrow seller broker deposit = .ok legs ∧
        takenFrom escrow legs = 200 ∧ buy.reservedCents - (buyAfter t buy).reservedCents = 110 := by
  let _ : Uuid5 := ⟨fun run name => run ++ name⟩
  obtain ⟨s, s', buy, sell, security, t, hfill, hres, hprice, hspent, hdrop⟩ :=
    settled_of_fillTakes (show fillTakes steep 200 110 = true by decide +kernel)
  let escrow : AccountId := ⟨.esc, "ag_b", some "bk_1", some "exchange", by decide,
    by rintro _ ⟨⟩; decide, by rintro _ ⟨⟩; decide, rfl, rfl⟩
  let deposit (owner : String) (hok : GoodName owner) : AccountId :=
    ⟨.dep, owner, some "bk_1", none, hok, by rintro _ ⟨⟩; decide, by rintro _ ⟨⟩, rfl, rfl⟩
  obtain ⟨legs, hlegs⟩ := settlementLegs_within t escrow (deposit "ag_a" (by decide))
    (deposit "fm_broker" (by decide)) (deposit "ag_b" (by decide)) rfl rfl rfl rfl rfl rfl rfl
  exact ⟨s, s', buy, sell, security, t, ⟨by decide, by decide, by decide⟩, hfill, hres, hprice,
    escrow, _, _, _, legs, rfl, rfl, rfl, rfl, hlegs,
    (takenFrom_settlement rfl rfl rfl rfl hlegs).trans hspent, hdrop⟩

end Polis.Economy.Exchange
