/-
  Polis.Economy.Exchange.Effects — what a returning call of each exchange
  method did.

  One lemma a method: which rows it wrote, as a function of the rows before,
  and which payments it made.  Everything proved about runs of the exchange
  goes through these lemmas and never unfolds a method again.

  Main results:
    * `settle_eq_ok` — a settlement, or nothing.
    * `cancel_eq_ok` — a release, or nothing.
-/
import Polis.Economy.Exchange.Session
import Polis.Economy.Payments

namespace Polis.Economy.Exchange

open Lib Lib.Effect Sim

/-! ## Escrow flows -/

/-- What an account counts towards the escrow of a trader. -/
def escrowWeight (traderId : String) (a : AccountId) : ℤ :=
  if a.code = .esc ∧ a.ownerId = traderId then 1 else 0

theorem escrowWeight_outside (traderId : String) : Outside (escrowWeight traderId) where
  dpl a ha := by simp [escrowWeight, ha]
  res a ha := by simp [escrowWeight, ha]

/-- The moves pay `cents` out of the escrow of an owner into deposits. -/
structure Outflow (ownerId : String) (cents : Int) (ms : List Move) : Prop where
  ends : ∀ m ∈ ms, m.src.code = .esc ∧ m.src.ownerId = ownerId ∧ m.dst.code = .dep
  sum_eq : (ms.map Move.amountCents).sum = cents

/-- The moves pay `cents` out of deposits into the escrow of an owner. -/
structure Inflow (ownerId : String) (cents : Int) (ms : List Move) : Prop where
  ends : ∀ m ∈ ms, m.src.code = .dep ∧ m.dst.code = .esc ∧ m.dst.ownerId = ownerId
  sum_eq : (ms.map Move.amountCents).sum = cents

theorem Outflow.nil (ownerId : String) : Outflow ownerId 0 [] :=
  ⟨fun _ hm => absurd hm List.not_mem_nil, rfl⟩

theorem Outflow.append {ownerId : String} {c c' : Int} {ms ms' : List Move}
    (h : Outflow ownerId c ms) (h' : Outflow ownerId c' ms') :
    Outflow ownerId (c + c') (ms ++ ms') := by
  refine ⟨fun m hm => ?_, by rw [List.map_append, List.sum_append, h.sum_eq, h'.sum_eq]⟩
  rcases List.mem_append.mp hm with hm | hm
  · exact h.ends m hm
  · exact h'.ends m hm

theorem Outflow.moved {ownerId : String} {c : Int} {ms : List Move} (h : Outflow ownerId c ms)
    (traderId : String) :
    moved (escrowWeight traderId) ms = if ownerId = traderId then -c else 0 := by
  obtain ⟨hends, rfl⟩ := h
  induction ms with
  | nil => simp
  | cons m ms ih =>
    obtain ⟨hs, ho, hd⟩ := hends m List.mem_cons_self
    rw [moved_cons, ih fun x hx => hends x (List.mem_cons_of_mem _ hx)]
    have hsrc : escrowWeight traderId m.src = if ownerId = traderId then 1 else 0 := by
      simp [escrowWeight, hs, ho]
    have hdst : escrowWeight traderId m.dst = 0 := by simp [escrowWeight, hd]
    rw [hsrc, hdst, List.map_cons, List.sum_cons]
    split_ifs
    · ring
    · ring

theorem Inflow.moved {ownerId : String} {c : Int} {ms : List Move} (h : Inflow ownerId c ms)
    (traderId : String) :
    moved (escrowWeight traderId) ms = if ownerId = traderId then c else 0 := by
  obtain ⟨hends, rfl⟩ := h
  induction ms with
  | nil => simp
  | cons m ms ih =>
    obtain ⟨hs, hd, ho⟩ := hends m List.mem_cons_self
    rw [moved_cons, ih fun x hx => hends x (List.mem_cons_of_mem _ hx)]
    have hsrc : escrowWeight traderId m.src = 0 := by simp [escrowWeight, hs]
    have hdst : escrowWeight traderId m.dst = if ownerId = traderId then 1 else 0 := by
      simp [escrowWeight, hd, ho]
    rw [hsrc, hdst, List.map_cons, List.sum_cons]
    split_ifs
    · ring
    · ring

theorem Inflow.nil (ownerId : String) : Inflow ownerId 0 [] :=
  ⟨fun _ hm => absurd hm List.not_mem_nil, rfl⟩

theorem Inflow.transfer {L : Ledger} {ownerId payer : String} {escrow deposit : AccountId}
    {cents : Int} (hd : depositAccount L payer = .ok deposit)
    (he : escrow.code = .esc ∧ escrow.ownerId = ownerId) :
    Inflow ownerId cents [⟨deposit, escrow, cents⟩] := by
  obtain ⟨hdc, -, -⟩ := depositAccount_eq_ok hd
  refine ⟨fun m hm => ?_, by simp⟩
  rw [List.mem_singleton] at hm
  subst hm
  exact ⟨hdc, he.1, he.2⟩

theorem Outflow.transfer {L : Ledger} {ownerId ref payee : String} {escrow deposit : AccountId}
    {cents : Int} (he : escrowId L ownerId ref = .ok escrow)
    (hd : depositAccount L payee = .ok deposit) :
    Outflow ownerId cents [⟨escrow, deposit, cents⟩] := by
  obtain ⟨hc, ho, -⟩ := escrowId_eq_ok he
  obtain ⟨hdc, -, -⟩ := depositAccount_eq_ok hd
  refine ⟨fun m hm => ?_, by simp⟩
  rw [List.mem_singleton] at hm
  subst hm
  exact ⟨hc, ho, hdc⟩

/-! ## Reading and writing rows -/

section Rows

variable {s s' : Sim}

theorem orderAt_eq_ok {orderId : String} {o : OrderState} :
    orderAt orderId s = .ok o s' ↔ s.exch.orders.get? orderId = some o ∧ s = s' := by
  unfold orderAt
  rw [bind_eq_ok]
  constructor
  · rintro ⟨x, t, h₁, h⟩
    obtain ⟨rfl, rfl⟩ := exchangeNow_eq_ok.mp h₁
    exact orRaise_eq_ok.mp h
  · rintro ⟨h, rfl⟩
    exact ⟨_, _, exchangeNow_eq_ok.mpr ⟨rfl, rfl⟩, orRaise_eq_ok.mpr ⟨h, rfl⟩⟩

theorem securityAt_eq_ok {symbol : String} {r : SecurityState} :
    securityAt symbol s = .ok r s' ↔ s.exch.securities.get? symbol = some r ∧ s = s' := by
  unfold securityAt
  rw [bind_eq_ok]
  constructor
  · rintro ⟨x, t, h₁, h⟩
    obtain ⟨rfl, rfl⟩ := exchangeNow_eq_ok.mp h₁
    exact orRaise_eq_ok.mp h
  · rintro ⟨h, rfl⟩
    exact ⟨_, _, exchangeNow_eq_ok.mpr ⟨rfl, rfl⟩, orRaise_eq_ok.mpr ⟨h, rfl⟩⟩

theorem modifyOrder_eq_ok {orderId : String} {f : OrderState → OrderState} {u : Unit} :
    modifyOrder orderId f s = .ok u s' ↔
      s' = s.putExch { s.exch with orders := s.exch.orders.modify orderId f } :=
  modifyExchange_eq_ok

theorem modifySecurity_eq_ok {symbol : String} {f : SecurityState → SecurityState} {u : Unit} :
    modifySecurity symbol f s = .ok u s' ↔
      s' = s.putExch { s.exch with securities := s.exch.securities.modify symbol f } :=
  modifyExchange_eq_ok

/-- The status of an order after a fill. -/
def closeFill (o : OrderState) : OrderState :=
  { o with status := if o.remainingQty = 0 then .filled else .partialFill }

theorem fillEvents_eq_ok {orderId : String} {tick : Int} {events : List Event}
    (h : fillEvents orderId tick s = .ok events s') :
    ∃ log, s' = (s.putExch
      { s.exch with orders := s.exch.orders.modify orderId closeFill }).putLog log := by
  unfold fillEvents at h
  obtain ⟨o, _, h₁, h⟩ := bind_eq_ok.mp h
  obtain ⟨ho, rfl⟩ := orderAt_eq_ok.mp h₁
  -- both branches write the status the row's own remainder asks for
  have hwrite : ∀ status : OrderStatus, (if o.remainingQty = 0 then OrderStatus.filled
      else .partialFill) = status →
      s.exch.orders.modify orderId (fun o => { o with status }) = s.exch.orders.modify orderId closeFill := by
    intro status hs
    refine Dict.modify_congr fun v hv => ?_
    rw [ho] at hv
    cases hv
    unfold closeFill
    rw [hs]
  rcases ite_eq_ok.mp h with ⟨hz, h⟩ | ⟨hz, h⟩
  · obtain ⟨_, _, h₁, h⟩ := bind_eq_ok.mp h
    rw [modifyOrder_eq_ok, hwrite .filled (if_pos hz)] at h₁
    obtain ⟨_, _, h₂, h⟩ := bind_eq_ok.mp h
    obtain ⟨log, rfl⟩ := emit_eq_ok h₂
    obtain ⟨-, rfl⟩ := pure_eq_ok.mp h
    exact ⟨log, by rw [h₁]⟩
  · obtain ⟨_, _, h₁, h⟩ := bind_eq_ok.mp h
    rw [modifyOrder_eq_ok, hwrite .partialFill (if_neg hz)] at h₁
    obtain ⟨_, _, h₂, h⟩ := bind_eq_ok.mp h
    obtain ⟨log, rfl⟩ := emit_eq_ok h₂
    obtain ⟨-, rfl⟩ := pure_eq_ok.mp h
    exact ⟨log, by rw [h₁]⟩

end Rows

/-! ## Covers -/

/-- The short positions after a cover of at most `qty` shares. -/
def coverShorts (shorts : Dict String ShortPositionState) (key : String) (qty : Int) :
    Dict String ShortPositionState :=
  if qty ≤ 0 then shorts
  else match shorts.get? key with
    | none => shorts
    | some position => shorts.put key (shortAfterCover position (min qty position.qty))

/-- The margin a cover of at most `qty` shares releases. -/
def coverCents (shorts : Dict String ShortPositionState) (key : String) (qty : Int) : Int :=
  if qty ≤ 0 then 0
  else match shorts.get? key with
    | none => 0
    | some position => coverRelease position (min qty position.qty)

section Settling

variable [Uuid5] {s s' : Sim}

theorem releaseCents_eq_ok {traderId ref : String} {cents tick : Int} {cause : Event} {u : Unit}
    (h : releaseCents traderId ref cents tick cause s = .ok u s') :
    ∃ L', s' = s.putBooks L' ∧ ∃ ms, Moved ms s.books L' ∧ Outflow traderId cents ms := by
  unfold releaseCents at h
  rcases ite_eq_ok.mp h with ⟨hr, h⟩ | ⟨hr, h⟩
  · obtain ⟨_, _, h₁, h⟩ := bind_eq_ok.mp h
    obtain ⟨rfl, rfl⟩ := ledgerNow_eq_ok.mp h₁
    obtain ⟨escrow, _, h₁, h⟩ := bind_eq_ok.mp h
    obtain ⟨he, rfl⟩ := liftE_eq_ok.mp h₁
    obtain ⟨deposit, _, h₁, h⟩ := bind_eq_ok.mp h
    obtain ⟨hd, rfl⟩ := liftE_eq_ok.mp h₁
    obtain ⟨legs, _, h₁, h⟩ := bind_eq_ok.mp h
    obtain ⟨hl, rfl⟩ := liftE_eq_ok.mp h₁
    obtain ⟨_, _, h₁, h⟩ := bind_eq_ok.mp h
    obtain ⟨L', hL, rfl⟩ := post_eq_ok h₁
    obtain ⟨-, rfl⟩ := pure_eq_ok.mp h
    exact ⟨L', rfl, _, .posted (.single hl) hL, .transfer he hd⟩
  · obtain ⟨-, rfl⟩ := pure_eq_ok.mp h
    rw [not_not] at hr
    exact ⟨_, rfl, [], .refl _, hr ▸ .nil _⟩

theorem recordCover_eq_ok {order : OrderState} {qty price tick : Int} {events : List Event}
    (h : recordCover order qty price tick s = .ok events s') :
    s'.exch = { s.exch with
      shorts := coverShorts s.exch.shorts (holdingKey order.traderId order.symbol) qty } ∧
    s'.trail = s.trail ∧
    ∃ ms, Moved ms s.books s'.books ∧ Outflow order.traderId
      (coverCents s.exch.shorts (holdingKey order.traderId order.symbol) qty) ms := by
  unfold recordCover at h
  rcases ite_eq_ok.mp h with ⟨hq, h⟩ | ⟨hq, h⟩
  · obtain ⟨-, rfl⟩ := pure_eq_ok.mp h
    rw [coverShorts, coverCents, if_pos hq, if_pos hq]
    exact ⟨rfl, rfl, [], .refl _, .nil _⟩
  · rw [coverShorts, coverCents, if_neg hq, if_neg hq]
    obtain ⟨_, _, h₁, h⟩ := bind_eq_ok.mp h
    obtain ⟨rfl, rfl⟩ := exchangeNow_eq_ok.mp h₁
    cases hp : s.exch.shorts.get? (holdingKey order.traderId order.symbol) with
    | none =>
      rw [hp] at h
      obtain ⟨-, rfl⟩ := pure_eq_ok.mp h
      exact ⟨rfl, rfl, [], .refl _, .nil _⟩
    | some position =>
      rw [hp] at h
      dsimp only at h ⊢
      obtain ⟨_, s₁, h₁, h⟩ := bind_eq_ok.mp h
      have hs₁ := modifyExchange_eq_ok.mp h₁
      obtain ⟨event, s₂, h₂, h⟩ := bind_eq_ok.mp h
      obtain ⟨log, rfl⟩ := emit_eq_ok h₂
      obtain ⟨_, s₃, h₃, h⟩ := bind_eq_ok.mp h
      obtain ⟨L', rfl, ms, hm, ho⟩ := releaseCents_eq_ok h₃
      rcases ite_eq_ok.mp h with ⟨-, h⟩ | ⟨-, h⟩
      · obtain ⟨_, _, h₄, h⟩ := bind_eq_ok.mp h
        obtain ⟨log', rfl⟩ := emit_eq_ok h₄
        obtain ⟨-, rfl⟩ := pure_eq_ok.mp h
        subst hs₁
        exact ⟨rfl, rfl, ms, hm, ho⟩
      · obtain ⟨-, rfl⟩ := pure_eq_ok.mp h
        subst hs₁
        exact ⟨rfl, rfl, ms, hm, ho⟩

omit [Uuid5] in
theorem recordShort_eq_ok {cfg : ExchangeSettings} {traderId symbol : String}
    {qty price collateral tick : Int} {event : Event}
    (h : recordShort cfg traderId symbol qty price collateral tick s = .ok event s') :
    ∃ log, s' = (s.putExch { s.exch with
      shorts := s.exch.shorts.put (holdingKey traderId symbol)
        (shortAfterSale cfg (s.exch.shorts.get? (holdingKey traderId symbol)) traderId symbol qty
          price collateral tick) }).putLog log := by
  obtain ⟨_, s₁, h₁, h⟩ := bind_eq_ok.mp h
  have hs₁ := modifyExchange_eq_ok.mp h₁
  obtain ⟨log, rfl⟩ := emit_eq_ok h
  exact ⟨log, by rw [hs₁]⟩

/-! ## Settlement -/

/-- What a settlement pays out of the buyer's escrow. -/
def spent (t : Settlement) : Int :=
  max 0 (t.gross - t.commissionSell) + max 0 (t.commissionBuy + t.commissionSell)
    + max 0 t.release

omit [Uuid5] in
theorem payOut_eq_ok {L : Ledger} {ownerId ref payee reason : String} {escrow deposit : AccountId}
    {cents : Int} {legs : List Leg} (he : escrowId L ownerId ref = .ok escrow)
    (hd : depositAccount L payee = .ok deposit)
    (h : legsIf (0 < cents) (Ledger.transfer escrow deposit cents reason) = .ok legs) :
    ∃ ms, Pays ms legs ∧ Outflow ownerId (max 0 cents) ms := by
  unfold legsIf at h
  split_ifs at h with hc
  · rw [max_eq_right hc.le]
    exact ⟨_, .single h, .transfer he hd⟩
  · cases h
    rw [max_eq_left (not_lt.mp hc)]
    exact ⟨[], .nil, .nil _⟩

omit [Uuid5] in
theorem settlementLegs_eq_ok {L : Ledger} {t : Settlement} {buyerId sellerId ref : String}
    {buyerEscrow sellerDeposit brokerDeposit buyerDeposit : AccountId} {legs : List Leg}
    (he : escrowId L buyerId ref = .ok buyerEscrow)
    (hs : depositAccount L sellerId = .ok sellerDeposit)
    (hb : depositAccount L "fm_broker" = .ok brokerDeposit)
    (hd : depositAccount L buyerId = .ok buyerDeposit)
    (h : settlementLegs t buyerEscrow sellerDeposit brokerDeposit buyerDeposit = .ok legs) :
    ∃ ms, Pays ms legs ∧ Outflow buyerId (spent t) ms := by
  unfold settlementLegs at h
  obtain ⟨toSeller, h₁, h⟩ := except_bind_eq_ok.mp h
  obtain ⟨toBroker, h₂, h⟩ := except_bind_eq_ok.mp h
  obtain ⟨toBuyer, h₃, h⟩ := except_bind_eq_ok.mp h
  cases h
  obtain ⟨ms₁, p₁, o₁⟩ := payOut_eq_ok he hs h₁
  obtain ⟨ms₂, p₂, o₂⟩ := payOut_eq_ok he hb h₂
  obtain ⟨ms₃, p₃, o₃⟩ := payOut_eq_ok he hd h₃
  exact ⟨_, (p₁.append p₂).append p₃, (o₁.append o₂).append o₃⟩

/-- The buy row a settlement leaves. -/
def buyAfter (t : Settlement) (o : OrderState) : OrderState := closeFill (fillBuy t o)

/-- The sell row a settlement leaves. -/
def sellAfter (t : Settlement) (sell o : OrderState) : OrderState :=
  closeFill { fillSell t o with
    reservedQty :=
      if OrderState.has sell "opens_short" then o.reservedQty else o.reservedQty - t.qty
    reservedCents :=
      if OrderState.has sell "opens_short" then o.reservedCents - shortCollateral sell t.qty
      else o.reservedCents }

/-- The short positions after the sale of a settlement. -/
def saleShorts (cfg : ExchangeSettings) (sell : OrderState) (qty price tick : Int)
    (shorts : Dict String ShortPositionState) : Dict String ShortPositionState :=
  let key := holdingKey sell.traderId sell.symbol
  if OrderState.has sell "opens_short" then
    shorts.put key (shortAfterSale cfg (shorts.get? key) sell.traderId sell.symbol qty price
      (shortCollateral sell qty) tick)
  else shorts

/-- The holdings after a settlement. -/
def tradeHoldings (t : Settlement) (buy sell : OrderState) (x : ExchangeState) : ExchangeState :=
  let x := x.putHolding buy.traderId buy.symbol
    (holdingBought t (x.holdingRow buy.traderId buy.symbol))
  x.putHolding sell.traderId sell.symbol
    (holdingSold t sell (x.holdingRow sell.traderId sell.symbol))

/-- The shares a settlement covers. -/
def coveredQty (t : Settlement) (buy : OrderState) (x : ExchangeState) : Int :=
  min t.qty (-(x.holdingRow buy.traderId buy.symbol).qty)

/-- A fill that settled. -/
structure Settled (cfg : ExchangeSettings) (fill : Fill) (tick : Int) (buy sell : OrderState)
    (security : SecurityState) (t : Settlement) (s s' : Sim) : Prop where
  buy_at : s.exch.orders.get? fill.buyOrderId = some buy
  sell_at : s.exch.orders.get? fill.sellOrderId = some sell
  security_at : s.exch.securities.get? buy.symbol = some security
  amounts : t = settlementOf cfg fill buy sell (reservePriceOf cfg buy security)
  qty_pos : 0 < t.qty
  traders_ne : buy.traderId ≠ sell.traderId
  buyer_ok : ':' ∉ buy.traderId.toList
  seller_ok : ':' ∉ sell.traderId.toList
  trail_eq : s'.trail = s.trail ++ [.settle s.exch fill]
  orders_eq : s'.exch.orders =
    (s.exch.orders.modify fill.buyOrderId (buyAfter t)).modify fill.sellOrderId (sellAfter t sell)
  holdings_eq : s'.exch.holdings = (tradeHoldings t buy sell s.exch).holdings
  shorts_eq : s'.exch.shorts = coverShorts
    (saleShorts cfg sell t.qty fill.priceCents tick s.exch.shorts)
    (holdingKey buy.traderId buy.symbol) (coveredQty t buy s.exch)
  securities_eq : s'.exch.securities = s.exch.securities.modify buy.symbol fun r =>
    { r with lastPriceCents := fill.priceCents }
  ipos_eq : s'.exch.ipos = s.exch.ipos
  moved : ∃ ms, Moved ms s.books s'.books ∧ Outflow buy.traderId
    (spent t + coverCents (saleShorts cfg sell t.qty fill.priceCents tick s.exch.shorts)
      (holdingKey buy.traderId buy.symbol) (coveredQty t buy s.exch)) ms

omit [Uuid5] in
theorem depositAccount_owner {L : Ledger} {o : String} {a : AccountId}
    (h : depositAccount L o = .ok a) : ':' ∉ o.toList := by
  obtain ⟨-, ho, -⟩ := depositAccount_eq_ok h
  rw [← ho]
  exact a.colon_notMem_owner

theorem settle_cases {cfg : ExchangeSettings} {fill : Fill} {tick : Int} {events : List Event}
    (h : settle cfg fill tick s = .ok events s') :
    ∃ buy sell, s.exch.orders.get? fill.buyOrderId = some buy ∧
      s.exch.orders.get? fill.sellOrderId = some sell ∧
      ((min fill.qty (min buy.remainingQty sell.remainingQty) ≤ 0 ∨
          buy.traderId = sell.traderId) ∧ s' = s ∨
        ∃ security t, Settled cfg fill tick buy sell security t s s') := by
  unfold settle at h
  obtain ⟨buy, _, h₁, h⟩ := bind_eq_ok.mp h
  obtain ⟨hbuy, rfl⟩ := orderAt_eq_ok.mp h₁
  obtain ⟨sell, _, h₁, h⟩ := bind_eq_ok.mp h
  obtain ⟨hsell, rfl⟩ := orderAt_eq_ok.mp h₁
  refine ⟨buy, sell, hbuy, hsell, ?_⟩
  rcases ite_eq_ok.mp h with ⟨hidle, h⟩ | ⟨hgo, h⟩
  · obtain ⟨-, rfl⟩ := pure_eq_ok.mp h
    exact .inl ⟨hidle, rfl⟩
  rw [not_or, not_le] at hgo
  right
  obtain ⟨_, _, h₁, h⟩ := bind_eq_ok.mp h
  obtain ⟨rfl, rfl⟩ := exchangeNow_eq_ok.mp h₁
  obtain ⟨_, _, h₁, h⟩ := bind_eq_ok.mp h
  obtain rfl := note_eq_ok.mp h₁
  obtain ⟨_, _, h₁, h⟩ := bind_eq_ok.mp h
  obtain ⟨rfl, rfl⟩ := ledgerNow_eq_ok.mp h₁
  obtain ⟨buyerEscrow, _, h₁, h⟩ := bind_eq_ok.mp h
  obtain ⟨hesc, rfl⟩ := liftE_eq_ok.mp h₁
  obtain ⟨sellerDeposit, _, h₁, h⟩ := bind_eq_ok.mp h
  obtain ⟨hsd, rfl⟩ := liftE_eq_ok.mp h₁
  obtain ⟨brokerDeposit, _, h₁, h⟩ := bind_eq_ok.mp h
  obtain ⟨hbd, rfl⟩ := liftE_eq_ok.mp h₁
  obtain ⟨buyerDeposit, _, h₁, h⟩ := bind_eq_ok.mp h
  obtain ⟨hbuyd, rfl⟩ := liftE_eq_ok.mp h₁
  obtain ⟨security, _, h₁, h⟩ := bind_eq_ok.mp h
  obtain ⟨hsec, rfl⟩ := securityAt_eq_ok.mp h₁
  generalize ht : settlementOf cfg fill buy sell (reservePriceOf cfg buy security) = t at h
  obtain ⟨legs, _, h₁, h⟩ := bind_eq_ok.mp h
  obtain ⟨hlegs, rfl⟩ := liftE_eq_ok.mp h₁
  obtain ⟨expected, _, h₁, h⟩ := bind_eq_ok.mp h
  obtain ⟨L₁, hL₁, rfl⟩ := onLedger_eq_ok.mp h₁
  obtain ⟨event, _, h₁, h⟩ := bind_eq_ok.mp h
  obtain ⟨log₁, rfl⟩ := emit_eq_ok h₁
  obtain ⟨txn, _, h₁, h⟩ := bind_eq_ok.mp h
  obtain ⟨L₂, hL₂, rfl⟩ := post_eq_ok h₁
  obtain ⟨_, _, h₁, h⟩ := bind_eq_ok.mp h
  obtain ⟨-, rfl⟩ := require_eq_ok.mp h₁
  obtain ⟨_, _, h₁, h⟩ := bind_eq_ok.mp h
  obtain ⟨rfl, rfl⟩ := exchangeNow_eq_ok.mp h₁
  obtain ⟨_, s₁, h₁, h⟩ := bind_eq_ok.mp h
  have hs₁ := modifyExchange_eq_ok.mp h₁
  obtain ⟨_, s₂, h₂, h⟩ := bind_eq_ok.mp h
  have hs₂ := modifyExchange_eq_ok.mp h₂
  obtain ⟨opened, s₃, h₃, h⟩ := bind_eq_ok.mp h
  obtain ⟨covered, s₄, h₄, h⟩ := bind_eq_ok.mp h
  obtain ⟨filledBuy, s₅, h₅, h⟩ := bind_eq_ok.mp h
  obtain ⟨filledSell, s₆, h₆, h⟩ := bind_eq_ok.mp h
  obtain ⟨-, rfl⟩ := pure_eq_ok.mp h
  obtain ⟨log₅, rfl⟩ := fillEvents_eq_ok h₅
  obtain ⟨log₆, rfl⟩ := fillEvents_eq_ok h₆
  have hne : fill.buyOrderId ≠ fill.sellOrderId := by
    intro he
    rw [he, hsell] at hbuy
    cases hbuy
    exact hgo.2 rfl
  -- the short side of the sale
  have hopened : s₃.books = s₂.books ∧ s₃.trail = s₂.trail ∧ s₃.exch = { s₂.exch with
      orders := s₂.exch.orders.modify fill.sellOrderId fun o => { o with
        reservedCents :=
          if OrderState.has sell "opens_short" then o.reservedCents - shortCollateral sell t.qty
          else o.reservedCents }
      shorts := saleShorts cfg sell t.qty fill.priceCents tick s₂.exch.shorts } := by
    unfold saleShorts
    rcases onlyIf_eq_ok.mp h₃ with ⟨hf, h₃⟩ | ⟨hf, -, rfl⟩
    · obtain ⟨_, s₇, h₇, h₃⟩ := bind_eq_ok.mp h₃
      have hs₇ := modifyOrder_eq_ok.mp h₇
      obtain ⟨_, _, h₈, h₃⟩ := bind_eq_ok.mp h₃
      obtain ⟨log, rfl⟩ := recordShort_eq_ok h₈
      obtain ⟨-, rfl⟩ := pure_eq_ok.mp h₃
      subst hs₇
      refine ⟨rfl, rfl, ?_⟩
      simp only [hf, if_true]
      rfl
    · rw [Bool.not_eq_true] at hf
      refine ⟨rfl, rfl, ?_⟩
      simp only [hf, Bool.false_eq_true, if_false, Dict.modify_id]
  have hx₂ : s₂.exch = { tradeRows t fill buy sell s.exch with trades := s₂.exch.trades } := by
    rw [hs₂, hs₁]
    rfl
  have hrow₂ : s₂.exch.orders.get? fill.buyOrderId = some (fillBuy t buy) := by
    rw [hx₂]
    simp only [tradeRows, ExchangeState.putHolding, Dict.get?_modify, if_neg hne, if_true, hbuy,
      Option.map_some]
  -- the short side of the purchase
  have hcovered : s₄.trail = s₃.trail ∧
      s₄.exch = { s₃.exch with
        shorts := coverShorts s₃.exch.shorts (holdingKey buy.traderId buy.symbol)
          (coveredQty t buy s.exch) } ∧
      ∃ ms, Moved ms s₃.books s₄.books ∧ Outflow buy.traderId (coverCents s₃.exch.shorts
        (holdingKey buy.traderId buy.symbol) (coveredQty t buy s.exch)) ms := by
    rcases onlyIf_eq_ok.mp h₄ with ⟨hold, h₄⟩ | ⟨hold, -, rfl⟩
    · obtain ⟨bought, _, h₇, h₄⟩ := bind_eq_ok.mp h₄
      obtain ⟨hb, rfl⟩ := orderAt_eq_ok.mp h₇
      have hfb : bought = fillBuy t buy := by
        rw [hopened.2.2] at hb
        simp only [Dict.get?_modify, if_neg hne] at hb
        rw [hrow₂] at hb
        exact (Option.some.inj hb).symm
      subst hfb
      obtain ⟨hxc, htc, hmc⟩ := recordCover_eq_ok h₄
      exact ⟨htc, hxc, hmc⟩
    · have hle : coveredQty t buy s.exch ≤ 0 := by
        have : ¬(s.exch.holdingRow buy.traderId buy.symbol).qty < 0 := hold
        unfold coveredQty
        omega
      rw [coverShorts, coverCents, if_pos hle, if_pos hle]
      exact ⟨rfl, rfl, [], .refl _, .nil _⟩
  obtain ⟨hbk₃, htr₃, hx₃⟩ := hopened
  obtain ⟨htr₄, hx₄, ms₂, hm₂, ho₂⟩ := hcovered
  obtain ⟨ms₁, hp₁, ho₁⟩ := settlementLegs_eq_ok hesc hsd hbd hbuyd hlegs
  have hbooks₂ : s₂.books = L₂ := by rw [hs₂, hs₁]; rfl
  have hm₁ : Moved ms₁ s.books L₂ := by
    have := (Moved.nextTxnId hL₁).trans (Moved.coalesced hp₁ hL₂)
    rwa [List.nil_append] at this
  have hsh₂ : s₂.exch.shorts = s.exch.shorts := by rw [hx₂]; rfl
  have hsh₃ : s₃.exch.shorts
      = saleShorts cfg sell t.qty fill.priceCents tick s.exch.shorts := by
    rw [hx₃, ← hsh₂]
  rw [hsh₃] at ho₂
  have hord₄ : s₄.exch.orders = ((s.exch.orders.modify fill.buyOrderId (fillBuy t)).modify
      fill.sellOrderId (fillSell t)).modify fill.sellOrderId (fun o => { o with
        reservedQty :=
          if OrderState.has sell "opens_short" then o.reservedQty else o.reservedQty - t.qty
        reservedCents :=
          if OrderState.has sell "opens_short" then o.reservedCents - shortCollateral sell t.qty
          else o.reservedCents }) := by
    rw [hx₄, hx₃, hx₂]
    simp only [tradeRows, ExchangeState.putHolding, Dict.modify_modify]
    congr 1
    funext o
    cases OrderState.has sell "opens_short" <;> rfl
  have hamount : t.qty = min fill.qty (min buy.remainingQty sell.remainingQty) := by
    rw [← ht]
    rfl
  refine ⟨security, t, {
    buy_at := hbuy
    sell_at := hsell
    security_at := hsec
    amounts := ht.symm
    qty_pos := by rw [hamount]; exact hgo.1
    traders_ne := hgo.2
    buyer_ok := depositAccount_owner hbuyd
    seller_ok := depositAccount_owner hsd
    trail_eq := ?_
    orders_eq := ?_
    holdings_eq := ?_
    shorts_eq := ?_
    securities_eq := ?_
    ipos_eq := ?_
    moved := ⟨ms₁ ++ ms₂, ?_, ho₁.append ho₂⟩ }⟩
  · show s₄.trail = _
    rw [htr₄, htr₃, hs₂, hs₁]
    rfl
  · show (s₄.exch.orders.modify fill.buyOrderId closeFill).modify fill.sellOrderId closeFill = _
    rw [hord₄, Dict.modify_modify, Dict.modify_comm _ hne.symm, Dict.modify_modify,
      Dict.modify_modify]
    rfl
  · show s₄.exch.holdings = _
    rw [hx₄, hx₃, hx₂]
    rfl
  · show s₄.exch.shorts = _
    rw [hx₄, hsh₃]
  · show s₄.exch.securities = _
    rw [hx₄, hx₃, hx₂]
    rfl
  · show s₄.exch.ipos = _
    rw [hx₄, hx₃, hx₂]
    rfl
  · show Moved _ _ s₄.books
    rw [← hbooks₂, ← hbk₃] at hm₁
    exact hm₁.trans hm₂

theorem settle_eq_ok {cfg : ExchangeSettings} {fill : Fill} {tick : Int} {events : List Event}
    (h : settle cfg fill tick s = .ok events s') :
    s' = s ∨ ∃ buy sell security t, Settled cfg fill tick buy sell security t s s' := by
  obtain ⟨buy, sell, -, -, ⟨-, hs⟩ | ⟨security, t, hset⟩⟩ := settle_cases h
  · exact .inl hs
  · exact .inr ⟨buy, sell, security, t, hset⟩

/-! ## Cancellation -/

/-- The row a cancellation leaves. -/
def cancelledRow (expired : Bool) (o : OrderState) : OrderState :=
  { o with
    reservedCents := 0
    reservedQty := 0
    status := if expired then .expired else .cancelled }

/-- An order that was cancelled or expired. -/
structure Cancelled (orderId : String) (expired : Bool) (order : OrderState) (s s' : Sim) :
    Prop where
  order_at : s.exch.orders.get? orderId = some order
  active : order.status.active = true
  trail_eq : s'.trail = s.trail
  exch_eq : s'.exch = { unreserve order s.exch with
    orders := s.exch.orders.modify orderId (cancelledRow expired) }
  moved : ∃ ms, Moved ms s.books s'.books ∧ Outflow order.traderId order.reservedCents ms

omit [Uuid5] in
theorem unreserve_eq (order : OrderState) (x : ExchangeState) :
    unreserve order x = { x with holdings := (unreserve order x).holdings } := by
  unfold unreserve
  split_ifs <;> rfl

omit [Uuid5] in
theorem unreserve_orders (order : OrderState) (x : ExchangeState) :
    (unreserve order x).orders = x.orders := by rw [unreserve_eq]

theorem cancel_cases {orderId initiator : String} {tick : Int} {expired : Bool}
    {events : List Event} (h : cancel orderId tick initiator expired s = .ok events s') :
    ∃ order, s.exch.orders.get? orderId = some order ∧
      (¬order.status.active = true ∧ s' = s ∨ Cancelled orderId expired order s s') := by
  unfold cancel at h
  obtain ⟨order, _, h₁, h⟩ := bind_eq_ok.mp h
  obtain ⟨ho, rfl⟩ := orderAt_eq_ok.mp h₁
  refine ⟨order, ho, ?_⟩
  rcases ite_eq_ok.mp h with ⟨hactive, h⟩ | ⟨hactive, h⟩
  · obtain ⟨-, rfl⟩ := pure_eq_ok.mp h
    exact .inl ⟨hactive, rfl⟩
  rw [not_not] at hactive
  right
  obtain ⟨event, _, h₁, h⟩ := bind_eq_ok.mp h
  obtain ⟨log, rfl⟩ := emit_eq_ok h₁
  obtain ⟨_, _, h₁, h⟩ := bind_eq_ok.mp h
  obtain ⟨L', rfl, ms, hm, ho'⟩ := releaseCents_eq_ok h₁
  obtain ⟨_, s₂, h₁, h⟩ := bind_eq_ok.mp h
  have hs₂ := modifyExchange_eq_ok.mp h₁
  obtain ⟨_, s₃, h₁, h⟩ := bind_eq_ok.mp h
  have hs₃ := modifyOrder_eq_ok.mp h₁
  obtain ⟨-, rfl⟩ := pure_eq_ok.mp h
  subst hs₂
  subst hs₃
  refine ⟨ho, hactive, rfl, ?_, ms, hm, ho'⟩
  show ({ unreserve order s.exch with orders := (unreserve order s.exch).orders.modify _ _ } :
    ExchangeState) = _
  rw [unreserve_orders]
  rfl

theorem cancel_eq_ok {orderId initiator : String} {tick : Int} {expired : Bool}
    {events : List Event} (h : cancel orderId tick initiator expired s = .ok events s') :
    s' = s ∨ ∃ order, Cancelled orderId expired order s s' := by
  obtain ⟨order, -, ⟨-, hs⟩ | hc⟩ := cancel_cases h
  · exact .inl hs
  · exact .inr ⟨order, hc⟩

end Settling

end Polis.Economy.Exchange
