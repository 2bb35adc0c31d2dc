/-
  Polis.Economy.Exchange.Escrow — the escrow identity
  (`EconomyWorldState.order_invariant_failures`).

  What lies in a trader's escrow accounts is what its orders, its short
  positions and its indications claim.  A settlement keeps this exactly when
  the buyer's reservation covers the fill and its commissions; every other
  step keeps it, unless it overwrites a row that still claims cents.

  Main results:
    * `EscrowInv.step` — one step.
    * `escrow_identity` — every run.
-/
import Polis.Economy.Exchange.Calls

namespace Polis.Economy.Exchange

open Lib Lib.Effect Lib.DoubleEntry Sim Ledger

/-! ## The law -/

/-- The balances of a trader's open escrow accounts. -/
def openEscrow (L : Ledger) (traderId : String) : Int :=
  L.accounts.total fun a r =>
    if a.code = .esc ∧ a.ownerId = traderId ∧ r.closedTick = none then r.balanceCents else 0

/-- What an order claims of a trader's escrow. -/
def orderClaim (traderId : String) (o : OrderState) : Int :=
  if o.traderId = traderId ∧ o.status.active then o.reservedCents else 0

/-- What a short position claims of a trader's escrow. -/
def shortClaim (traderId : String) (p : ShortPositionState) : Int :=
  if p.traderId = traderId ∧ 0 < p.qty then p.collateralCents else 0

/-- What an offering claims of a trader's escrow. -/
def ipoClaim (traderId : String) (ipo : IpoState) : Int :=
  if ipo.status = .announced then indicatedBy ipo traderId else 0

/-- What the exchange claims of a trader's escrow. -/
def escrowClaims (x : ExchangeState) (traderId : String) : Int :=
  x.orders.total (fun _ o => orderClaim traderId o)
    + x.shorts.total (fun _ p => shortClaim traderId p)
    + x.ipos.total (fun _ ipo => ipoClaim traderId ipo)

/-- **The escrow identity.** -/
def EscrowLaw (s : Sim) : Prop := ∀ traderId, openEscrow s.books traderId = escrowClaims s.exch traderId

/-- The buyer's reservation covers a fill, its commissions and what the rest of
the order needs; the commission does not exceed the price paid. -/
def Funded (cfg : ExchangeSettings) (x : ExchangeState) (fill : Fill) : Prop :=
  ∀ buy sell security, x.orders.get? fill.buyOrderId = some buy →
    x.orders.get? fill.sellOrderId = some sell → x.securities.get? buy.symbol = some security →
    let t := settlementOf cfg fill buy sell (reservePriceOf cfg buy security)
    0 ≤ t.commissionBuy ∧ t.commissionBuy ≤ t.gross ∧
      t.gross + t.commissionBuy + t.remainingRequired ≤ buy.reservedCents

instance (cfg : ExchangeSettings) (x : ExchangeState) (fill : Fill) :
    Decidable (Funded cfg x fill) :=
  decidable_of_iff (∀ buy ∈ x.orders.get? fill.buyOrderId,
    ∀ sell ∈ x.orders.get? fill.sellOrderId, ∀ security ∈ x.securities.get? buy.symbol,
      let t := settlementOf cfg fill buy sell (reservePriceOf cfg buy security)
      0 ≤ t.commissionBuy ∧ t.commissionBuy ≤ t.gross ∧
        t.gross + t.commissionBuy + t.remainingRequired ≤ buy.reservedCents)
    ⟨fun h buy sell security hb hs hx => h buy hb sell hs security hx,
      fun h buy hb sell hs security hx => h buy sell security hb hs hx⟩

/-- The fill is funded; no claim is overwritten. -/
def EscrowGood (cfg : ExchangeSettings) : Mark → Prop
  | .settle x fill => Funded cfg x fill
  | .admitOrder x orderId =>
    ∀ o, x.orders.get? orderId = some o → o.status.active = true → o.reservedCents = 0
  | .announce x ipoId =>
    ∀ ipo, x.ipos.get? ipoId = some ipo → ipo.status = .announced → ipo.indications.entries = []

instance (cfg : ExchangeSettings) : DecidablePred (EscrowGood cfg)
  | .settle x fill => inferInstanceAs (Decidable (Funded cfg x fill))
  | .admitOrder x orderId => inferInstanceAs (Decidable (∀ o ∈ x.orders.get? orderId,
      o.status.active = true → o.reservedCents = 0))
  | .announce x ipoId => inferInstanceAs (Decidable (∀ ipo ∈ x.ipos.get? ipoId,
      ipo.status = .announced → ipo.indications.entries = []))

/-! ## The invariant -/

/-- A sale out of the holding, not short. -/
def OrderState.ordinary (o : OrderState) : Prop :=
  o.side = .sell ∧ OrderState.has o "opens_short" = false

/-- A position is stored under its holder and claims nothing when empty. -/
def ShortOk (k : String) (p : ShortPositionState) : Prop :=
  k = holdingKey p.traderId p.symbol ∧ ':' ∉ p.traderId.toList ∧ 0 ≤ p.qty ∧
    (p.qty = 0 → p.collateralCents = 0)

/-- The escrow identity with what carries it through a run. -/
structure EscrowInv (s : Sim) : Prop where
  law : ∀ t, weigh (escrowWeight t) s.books.book = escrowClaims s.exch t
  closed : ∀ a r, s.books.accounts.get? a = some r → a.code = .esc → r.closedTick ≠ none →
    r.balanceCents = 0
  sales : ∀ k o, s.exch.orders.get? k = some o → OrderState.ordinary o → o.reservedCents = 0
  shorts : ∀ k p, s.exch.shorts.get? k = some p → ShortOk k p

theorem EscrowInv.escrowLaw {s : Sim} (h : EscrowInv s) : EscrowLaw s := by
  intro t
  rw [← h.law t, weigh_book]
  unfold openEscrow
  refine Dict.total_congr fun e he => ?_
  have hget := Dict.mem_entries_iff.mp he
  unfold escrowWeight
  by_cases hc : e.1.code = .esc ∧ e.1.ownerId = t
  · by_cases ho : e.2.closedTick = none
    · rw [if_pos ⟨hc.1, hc.2, ho⟩, if_pos hc, one_mul]
    · rw [if_neg fun hx => ho hx.2.2, h.closed _ _ hget hc.1 ho, mul_zero]
  · rw [if_neg hc, zero_mul, if_neg fun hx => hc ⟨hx.1, hx.2.1⟩]

theorem closed_steady {L L' : Ledger} (h : Steady L L')
    (hc : ∀ a r, L.accounts.get? a = some r → a.code = .esc → r.closedTick ≠ none →
      r.balanceCents = 0) :
    ∀ a r, L'.accounts.get? a = some r → a.code = .esc → r.closedTick ≠ none →
      r.balanceCents = 0 := by
  intro a r hr hcode hclosed
  cases hg : L.accounts.get? a with
  | none => exact absurd (h.new a r hr hg) hclosed
  | some r₀ =>
    obtain ⟨r', hr', hct, hb⟩ := h.rows a r₀ hg
    rw [hr] at hr'
    cases hr'
    rw [hct] at hclosed
    rw [hb hclosed]
    exact hc a r₀ hg hcode hclosed

theorem EscrowInv.moved {s s' : Sim} {ms : List Move} (h : EscrowInv s)
    (hm : Moved ms s.books s'.books)
    (hclaims : ∀ t, escrowClaims s'.exch t
      = escrowClaims s.exch t + Economy.moved (escrowWeight t) ms)
    (hsales : ∀ k o, s'.exch.orders.get? k = some o → OrderState.ordinary o → o.reservedCents = 0)
    (hshorts : ∀ k p, s'.exch.shorts.get? k = some p → ShortOk k p) : EscrowInv s' where
  law t := by rw [hm.weigh_eq (escrowWeight_outside t), h.law t, hclaims t]
  closed := closed_steady hm.steady h.closed
  sales := hsales
  shorts := hshorts

/-! ## Positions -/

theorem saleShorts_spec {cfg : ExchangeSettings} {sell : OrderState} {qty price tick : Int}
    {shorts : Dict String ShortPositionState} (hq : 0 < qty) (hname : ':' ∉ sell.traderId.toList)
    (hok : ∀ k p, shorts.get? k = some p → ShortOk k p) :
    (∀ k p, (saleShorts cfg sell qty price tick shorts).get? k = some p → ShortOk k p) ∧
    ∀ t, (saleShorts cfg sell qty price tick shorts).total (fun _ p => shortClaim t p)
      = shorts.total (fun _ p => shortClaim t p)
        + (if sell.traderId = t ∧ OrderState.has sell "opens_short" then shortCollateral sell qty
          else 0) := by
  unfold saleShorts
  by_cases hf : OrderState.has sell "opens_short" = true
  swap
  · rw [if_neg hf]
    refine ⟨hok, fun t => ?_⟩
    rw [if_neg fun hx => hf hx.2, add_zero]
  rw [if_pos hf]
  cases hp : shorts.get? (holdingKey sell.traderId sell.symbol) with
  | none =>
    refine ⟨fun k p hk => ?_, fun t => ?_⟩
    · rw [Dict.get?_put] at hk
      split_ifs at hk with h₁
      · cases hk
        exact ⟨h₁, hname, hq.le, fun hz => absurd hz (ne_of_gt hq)⟩
      · exact hok k p hk
    · rw [Dict.total_put_of_none _ hp]
      simp only [shortClaim, shortAfterSale, hq, and_true, hf]
  | some position =>
    obtain ⟨hkey, hn, hq₀, hz⟩ := hok _ _ hp
    obtain ⟨hsame, -⟩ := holdingKey_inj hname hn hkey
    refine ⟨fun k p hk => ?_, fun t => ?_⟩
    · rw [Dict.get?_put] at hk
      split_ifs at hk with h₁
      · cases hk
        refine ⟨h₁.trans hkey, hn, ?_, fun hz' => ?_⟩
        · show 0 ≤ position.qty + qty
          omega
        · have : position.qty + qty = 0 := hz'
          omega
      · exact hok k p hk
    · rw [Dict.total_put_of_some _ hp]
      have hafter : shortClaim t (shortAfterSale cfg (some position) sell.traderId sell.symbol qty
          price (shortCollateral sell qty) tick)
          = if position.traderId = t then position.collateralCents + shortCollateral sell qty
            else 0 := by
        have : 0 < position.qty + qty := by omega
        simp only [shortClaim, shortAfterSale, this, and_true]
      have hbefore : shortClaim t position
          = if position.traderId = t then position.collateralCents else 0 := by
        unfold shortClaim
        by_cases hpos : 0 < position.qty
        · simp only [hpos, and_true]
        · have hc := hz (by omega)
          simp only [hpos, and_false, hc, ite_self]
      rw [hafter, hbefore, hsame]
      simp only [hf, and_true]
      split_ifs
      · ring
      · ring

theorem coverShorts_spec {shorts : Dict String ShortPositionState} {traderId symbol : String}
    {qty : Int} (hname : ':' ∉ traderId.toList)
    (hok : ∀ k p, shorts.get? k = some p → ShortOk k p) :
    (∀ k p, (coverShorts shorts (holdingKey traderId symbol) qty).get? k = some p → ShortOk k p) ∧
    ∀ t, (coverShorts shorts (holdingKey traderId symbol) qty).total (fun _ p => shortClaim t p)
      = shorts.total (fun _ p => shortClaim t p)
        - (if traderId = t then coverCents shorts (holdingKey traderId symbol) qty else 0) := by
  unfold coverShorts coverCents
  by_cases hq : qty ≤ 0
  · rw [if_pos hq, if_pos hq]
    refine ⟨hok, fun t => ?_⟩
    rw [ite_self, sub_zero]
  rw [if_neg hq, if_neg hq]
  cases hp : shorts.get? (holdingKey traderId symbol) with
  | none =>
    refine ⟨hok, fun t => ?_⟩
    show shorts.total _ = _ - (if traderId = t then 0 else 0)
    rw [ite_self, sub_zero]
  | some position =>
    obtain ⟨hkey, hn, hq₀, hz⟩ := hok _ _ hp
    obtain ⟨hsame, -⟩ := holdingKey_inj hname hn hkey
    dsimp only
    -- a cover of everything releases everything
    have hall : position.qty - min qty position.qty = 0 →
        position.collateralCents - coverRelease position (min qty position.qty) = 0 := by
      intro he
      have hcov : min qty position.qty = position.qty := by omega
      unfold coverRelease
      rw [hcov]
      by_cases hpos : position.qty = 0
      · rw [hz hpos]
        simp
      · rw [max_eq_right (by omega), Int.mul_ediv_cancel _ hpos, sub_self]
    refine ⟨fun k p hk => ?_, fun t => ?_⟩
    · rw [Dict.get?_put] at hk
      split_ifs at hk with h₁
      · cases hk
        refine ⟨h₁.trans hkey, hn, ?_, hall⟩
        show 0 ≤ position.qty - min qty position.qty
        omega
      · exact hok k p hk
    · rw [Dict.total_put_of_some _ hp]
      have hafter : shortClaim t (shortAfterCover position (min qty position.qty))
          = if position.traderId = t then
              position.collateralCents - coverRelease position (min qty position.qty) else 0 := by
        unfold shortClaim shortAfterCover
        dsimp only
        by_cases hpos : 0 < position.qty - min qty position.qty
        · simp only [hpos, and_true]
        · have hc := hall (by omega)
          simp only [hpos, and_false, hc, ite_self]
      have hbefore : shortClaim t position
          = if position.traderId = t then position.collateralCents else 0 := by
        unfold shortClaim
        by_cases hpos : 0 < position.qty
        · simp only [hpos, and_true]
        · have hc := hz (by omega)
          simp only [hpos, and_false, hc, ite_self]
      rw [hafter, hbefore, hsame]
      split_ifs
      · ring
      · ring

/-! ## Settlements -/

theorem orderClaim_buyAfter {cfg : ExchangeSettings} {fill : Fill} {buy sell : OrderState}
    {price : Int} (t : String) :
    orderClaim t (buyAfter (settlementOf cfg fill buy sell price) buy)
      = if buy.traderId = t then (settlementOf cfg fill buy sell price).remainingRequired
        else 0 := by
  set st := settlementOf cfg fill buy sell price with hst
  unfold orderClaim buyAfter closeFill fillBuy
  dsimp only
  by_cases hz : buy.remainingQty - st.qty = 0
  · have hreq : st.remainingRequired = 0 := by
      rw [hst]
      unfold settlementOf reserveRequired
      dsimp only
      rw [if_pos]
      rw [hst] at hz
      exact hz.le
    simp only [if_pos hz, hreq, ite_self]
  · rw [if_neg hz]
    simp only [OrderStatus.active, and_true]

theorem orderClaim_sellAfter {st : Settlement} {sell : OrderState} (hside : sell.side = .sell)
    (hqty : 0 < st.qty) (hsale : OrderState.ordinary sell → sell.reservedCents = 0) (t : String) :
    orderClaim t (sellAfter st sell sell)
      = if sell.traderId = t then sell.reservedCents
          - (if OrderState.has sell "opens_short" then shortCollateral sell st.qty else 0)
        else 0 := by
  unfold orderClaim sellAfter closeFill fillSell
  dsimp only
  by_cases hf : OrderState.has sell "opens_short" = true
  · simp only [hf, if_true]
    by_cases hz : sell.remainingQty - st.qty = 0
    · have hrem : sell.remainingQty = st.qty := by omega
      have hall : shortCollateral sell st.qty = sell.reservedCents := by
        unfold shortCollateral
        rw [sub_add_cancel, hrem, max_eq_right (by omega), Int.mul_ediv_cancel _ (by omega)]
      simp only [if_pos hz, hall, sub_self, ite_self]
    · rw [if_neg hz]
      simp only [OrderStatus.active, and_true]
  · have hzero := hsale ⟨hside, by simpa using hf⟩
    simp only [hf, Bool.false_eq_true, if_false, sub_zero, hzero, ite_self]

theorem fill_claims {p q r : Prop} [Decidable p] [Decidable q] [Decidable r]
    (total required bought sold short : Int) :
    total + ((if p then required else 0) - if p then bought else 0)
        + ((if q then sold - (if r then short else 0) else 0) - if q then sold else 0)
      = total + (if p then required - bought else 0) - (if q ∧ r then short else 0) := by
  by_cases hp : p <;> by_cases hq : q <;> by_cases hr : r <;>
    simp only [hp, hq, hr, and_self, and_true, and_false, if_true, if_false] <;> ring

theorem fill_balance {p : Prop} [Decidable p] (orders positions ipos required reserved short
    cover : Int) :
    (orders + (if p then required - reserved else 0) - short)
        + (positions + short - (if p then cover else 0)) + ipos
      = orders + positions + ipos + (if p then -(reserved - required + cover) else 0) := by
  by_cases hp : p <;> simp only [hp, if_true, if_false] <;> ring

theorem spent_eq {cfg : ExchangeSettings} {fill : Fill} {buy sell : OrderState} {price : Int}
    (h : 0 ≤ (settlementOf cfg fill buy sell price).commissionBuy ∧
      (settlementOf cfg fill buy sell price).commissionBuy
        ≤ (settlementOf cfg fill buy sell price).gross ∧
      (settlementOf cfg fill buy sell price).gross
        + (settlementOf cfg fill buy sell price).commissionBuy
        + (settlementOf cfg fill buy sell price).remainingRequired ≤ buy.reservedCents) :
    spent (settlementOf cfg fill buy sell price)
      = buy.reservedCents - (settlementOf cfg fill buy sell price).remainingRequired := by
  set st := settlementOf cfg fill buy sell price with hst
  have hc : st.commissionSell = st.commissionBuy := by rw [hst]; rfl
  have hr : st.release
      = max 0 (buy.reservedCents - (st.gross + st.commissionBuy) - st.remainingRequired) := by
    rw [hst]; rfl
  unfold spent
  rw [hr, hc]
  omega

theorem EscrowInv.settled {cfg : ExchangeSettings} {fill : Fill} {tick : Int}
    {buy sell : OrderState} {security : SecurityState} {st : Settlement} {s s' : Sim}
    (h : EscrowInv s) (hok : FillOk s.exch fill) (hfund : Funded cfg s.exch fill)
    (hs : Settled cfg fill tick buy sell security st s s') : EscrowInv s' := by
  -- the two rows are active, and joined as a fill should be
  obtain ⟨b, c, hb, hc, hsb, hsc, hsym, hfb, hfc⟩ := hok
  rw [hs.buy_at] at hb
  cases hb
  rw [hs.sell_at] at hc
  cases hc
  have hamount := hs.amounts
  have hqmin : st.qty = min fill.qty (min buy.remainingQty sell.remainingQty) := by
    rw [hamount]; rfl
  have hqty := hs.qty_pos
  have hab : buy.status.active = true := hfb.resolve_right (by omega)
  have hac : sell.status.active = true := hfc.resolve_right (by omega)
  have hsale := h.sales _ _ hs.sell_at
  obtain ⟨hsok, hstot⟩ := @saleShorts_spec cfg sell st.qty fill.priceCents tick _ hqty
    hs.seller_ok h.shorts
  obtain ⟨hcok, hctot⟩ := @coverShorts_spec _ _ buy.symbol (coveredQty st buy s.exch)
    hs.buyer_ok hsok
  obtain ⟨ms, hm, hout⟩ := hs.moved
  have hspent : spent st = buy.reservedCents - st.remainingRequired := by
    have hf := hfund buy sell security hs.buy_at hs.sell_at hs.security_at
    rw [hamount]
    exact spent_eq hf
  have hne : fill.sellOrderId ≠ fill.buyOrderId := by
    intro he
    have hb := hs.buy_at
    rw [← he, hs.sell_at] at hb
    cases hb
    exact hs.traders_ne rfl
  refine h.moved hm (fun t => ?_) (fun k o ho hord => ?_) (fun k p hp => ?_)
  · -- the claims of the two orders
    have horders : s'.exch.orders.total (fun _ o => orderClaim t o)
        = s.exch.orders.total (fun _ o => orderClaim t o)
          + (if buy.traderId = t then st.remainingRequired - buy.reservedCents else 0)
          - (if sell.traderId = t ∧ OrderState.has sell "opens_short" then
              shortCollateral sell st.qty else 0) := by
      rw [hs.orders_eq, Dict.total_modify, Dict.total_modify, Dict.get?_modify, if_neg hne,
        hs.buy_at, hs.sell_at]
      simp only [Option.elim_some]
      rw [orderClaim_sellAfter hsc hqty hsale t]
      have hbuyClaim : orderClaim t (buyAfter st buy)
          = if buy.traderId = t then st.remainingRequired else 0 := by
        rw [hamount]
        exact orderClaim_buyAfter t
      have hbuyBefore : orderClaim t buy
          = if buy.traderId = t then buy.reservedCents else 0 := by
        simp only [orderClaim, hab, and_true]
      have hsellBefore : orderClaim t sell
          = if sell.traderId = t then sell.reservedCents else 0 := by
        simp only [orderClaim, hac, and_true]
      rw [hbuyClaim, hbuyBefore, hsellBefore]
      exact fill_claims ..
    -- the claims of the positions
    have hshorts : s'.exch.shorts.total (fun _ p => shortClaim t p)
        = s.exch.shorts.total (fun _ p => shortClaim t p)
          + (if sell.traderId = t ∧ OrderState.has sell "opens_short" then
              shortCollateral sell st.qty else 0)
          - (if buy.traderId = t then coverCents
              (saleShorts cfg sell st.qty fill.priceCents tick s.exch.shorts)
              (holdingKey buy.traderId buy.symbol) (coveredQty st buy s.exch) else 0) := by
      rw [hs.shorts_eq, hctot t, hstot t]
    unfold escrowClaims
    rw [horders, hshorts, hs.ipos_eq, hout.moved t, hspent]
    exact fill_balance ..
  · rw [hs.order_at k] at ho
    split_ifs at ho with h₁ h₂
    · cases ho
      exact absurd (hord.1.symm.trans hsb) (by decide)
    · cases ho
      have hfalse : OrderState.has sell "opens_short" = false := hord.2
      show (if OrderState.has sell "opens_short" then _ else sell.reservedCents) = 0
      rw [hfalse]
      exact hsale ⟨hsc, hfalse⟩
    · exact h.sales k o ho hord
  · rw [hs.shorts_eq] at hp
    exact hcok k p hp

/-! ## The other steps -/

theorem EscrowInv.cancelled {orderId : String} {expired : Bool} {order : OrderState} {s s' : Sim}
    (h : EscrowInv s) (hc : Cancelled orderId expired order s s') : EscrowInv s' := by
  obtain ⟨ms, hm, hout⟩ := hc.moved
  have hshorts : s'.exch.shorts = s.exch.shorts := by rw [hc.exch_eq, unreserve_eq]
  have hipos : s'.exch.ipos = s.exch.ipos := by rw [hc.exch_eq, unreserve_eq]
  have horders : s'.exch.orders = s.exch.orders.modify orderId (cancelledRow expired) := by
    rw [hc.exch_eq]
  refine h.moved hm (fun t => ?_) (fun k o ho hord => ?_) (fun k p hp => ?_)
  · unfold escrowClaims
    rw [hshorts, hipos, horders, Dict.total_modify, hc.order_at, hout.moved t]
    have hafter : orderClaim t (cancelledRow expired order) = 0 := by
      unfold orderClaim cancelledRow
      dsimp only
      rw [ite_self]
    have hbefore : orderClaim t order
        = if order.traderId = t then order.reservedCents else 0 := by
      simp only [orderClaim, hc.active, and_true]
    simp only [Option.elim_some, hafter, hbefore]
    split_ifs <;> ring
  · rw [hc.order_get k] at ho
    split_ifs at ho with h₁
    · cases ho
      rfl
    · exact h.sales k o ho hord
  · rw [hshorts] at hp
    exact h.shorts k p hp

theorem EscrowInv.placed {cfg : ExchangeSettings} {r : OrderRequest} {ordinal : Nat} {tick : Int}
    {reserved : Reservation} {s s' : Sim} (h : EscrowInv s)
    (hgood : ∀ m ∈ s'.trail, EscrowGood cfg m) (hp : Placed r ordinal tick reserved s s') :
    EscrowInv s' := by
  obtain ⟨ms, hm, hin⟩ := hp.moved
  obtain ⟨x, htrail, hx⟩ := hp.trail_eq
  have hfree : ∀ o, s.exch.orders.get? (orderIdOf r.actionId) = some o →
      o.status.active = true → o.reservedCents = 0 := by
    have := hgood (.admitOrder x (orderIdOf r.actionId)) (by rw [htrail]; simp)
    rw [← hx]
    exact this
  have hshorts : s'.exch.shorts = s.exch.shorts := by
    rw [hp.exch_eq]
    dsimp only
    split_ifs <;> rfl
  have hipos : s'.exch.ipos = s.exch.ipos := by
    rw [hp.exch_eq]
    dsimp only
    split_ifs <;> rfl
  have horders : s'.exch.orders
      = s.exch.orders.put (orderIdOf r.actionId) (orderRow r reserved ordinal tick) := by
    rw [hp.exch_eq]
  refine h.moved hm (fun t => ?_) (fun k o ho hord => ?_) (fun k p hp => ?_)
  · unfold escrowClaims
    rw [hshorts, hipos, horders, Dict.total_put, hin.moved t]
    have hold : s.exch.orders.weightAt (orderIdOf r.actionId) (fun _ o => orderClaim t o) = 0 := by
      unfold Dict.weightAt
      cases hg : s.exch.orders.get? (orderIdOf r.actionId) with
      | none => rfl
      | some o =>
        show orderClaim t o = 0
        unfold orderClaim
        split_ifs with hc
        · exact hfree o hg hc.2
        · rfl
    have hnew : orderClaim t (orderRow r reserved ordinal tick)
        = if r.actorId = t then reserved.cents else 0 := by
      simp only [orderClaim, orderRow, OrderStatus.active, and_true]
    rw [hold, hnew]
    ring
  · rw [hp.order_get k] at ho
    split_ifs at ho with h₁
    · cases ho
      have hside : r.side = .sell := hord.1
      rcases hp.kind with ⟨hbuy, -⟩ | ⟨-, hflag, -⟩ | ⟨-, -, -, hz, -⟩
      · rw [hbuy] at hside
        cases hside
      · have hf : decide ("opens_short" ∈ r.orderFlags) = false := hord.2
        exact absurd hflag (of_decide_eq_false hf)
      · exact hz
    · exact h.sales k o ho hord
  · rw [hshorts] at hp
    exact h.shorts k p hp

theorem EscrowInv.indicated {r : OrderRequest} {key : String} {ipo : IpoState} {s s' : Sim}
    (h : EscrowInv s) (hi : Indicated r key ipo s s') : EscrowInv s' := by
  obtain ⟨ms, hm, hin⟩ := hi.moved
  have hx := hi.exch_eq
  refine h.moved hm (fun t => ?_) (fun k o ho => ?_) (fun k p hp => ?_)
  · unfold escrowClaims
    rw [hx]
    dsimp only
    rw [Dict.total_modify, hi.ipo_at, hin.moved t]
    simp only [Option.elim_some, ipoClaim, hi.announced, if_true]
    have hput : ∀ row : IpoState,
        row.indications = ipo.indications.put r.actorId (r.qty, r.limitPriceCents.getD 0) →
        indicatedBy row t
          = indicatedBy ipo t + if r.actorId = t then r.qty * r.limitPriceCents.getD 0 else 0 := by
      intro row hrow
      unfold indicatedBy
      rw [hrow, Dict.get?_put]
      by_cases ht : r.actorId = t
      · subst ht
        rw [if_pos rfl, if_pos rfl, hi.fresh]
        simp
      · rw [if_neg (Ne.symm ht), if_neg ht, add_zero]
    rw [hput _ rfl]
    ring
  · rw [hx] at ho
    exact h.sales k o ho
  · rw [hx] at hp
    exact h.shorts k p hp

theorem EscrowInv.of_ipos {s s' : Sim} {ms : List Move} (h : EscrowInv s)
    (hm : Moved ms s.books s'.books) (ho : s'.exch.orders = s.exch.orders)
    (hs : s'.exch.shorts = s.exch.shorts)
    (hi : ∀ t, s'.exch.ipos.total (fun _ ipo => ipoClaim t ipo)
      = s.exch.ipos.total (fun _ ipo => ipoClaim t ipo) + Economy.moved (escrowWeight t) ms) :
    EscrowInv s' := by
  refine h.moved hm (fun t => ?_) (fun k o hk => ?_) (fun k p hk => ?_)
  · unfold escrowClaims
    rw [ho, hs, hi t]
    ring
  · rw [ho] at hk
    exact h.sales k o hk
  · rw [hs] at hk
    exact h.shorts k p hk

theorem EscrowInv.announced {cfg : ExchangeSettings} {ipoId : String} {ipo : IpoState}
    {s s' : Sim} (h : EscrowInv s) (hgood : ∀ m ∈ s'.trail, EscrowGood cfg m)
    (ha : Announced ipoId ipo s s') : EscrowInv s' := by
  have hx := ha.exch_eq
  have hfree : ∀ old, s.exch.ipos.get? ipoId = some old → old.status = .announced →
      old.indications.entries = [] :=
    hgood (.announce s.exch ipoId) (by rw [ha.trail_eq]; simp)
  have hm : Moved [] s.books s'.books := by
    rw [ha.books_eq]
    exact .refl _
  refine h.of_ipos hm (by rw [hx]) (by rw [hx]) fun t => ?_
  rw [hx]
  dsimp only
  rw [Dict.total_put, moved_nil]
  have hempty : ∀ row : IpoState, (row.status = .announced → row.indications.entries = []) →
      ipoClaim t row = 0 := by
    intro row hrow
    unfold ipoClaim
    split_ifs with hst
    · have : row.indications = ∅ := Dict.ext_entries (hrow hst)
      simp [indicatedBy, this]
    · rfl
  have hold : s.exch.ipos.weightAt ipoId (fun _ ipo => ipoClaim t ipo) = 0 := by
    unfold Dict.weightAt
    cases hg : s.exch.ipos.get? ipoId with
    | none => rfl
    | some old => exact hempty old (hfree old hg)
  rw [hold, hempty ipo fun _ => by rw [ha.empty]; rfl]
  ring

theorem ipos_total_status {x : ExchangeState} {key : String} {ipo : IpoState} {status : IpoStatus}
    (hget : x.ipos.get? key = some ipo) (hs : status ≠ .announced) (t : String) :
    (withIpoStatus key status x).ipos.total (fun _ ipo => ipoClaim t ipo)
      = x.ipos.total (fun _ ipo => ipoClaim t ipo) - ipoClaim t ipo := by
  unfold withIpoStatus
  dsimp only
  rw [Dict.total_modify, hget]
  simp only [Option.elim_some, ipoClaim, hs, if_false]
  ring

theorem EscrowInv.failed {key : String} {ipo : IpoState} {s s' : Sim} (h : EscrowInv s)
    (hf : Failed key ipo s s') : EscrowInv s' := by
  have he := hf.eq
  subst he
  have hm : Moved [] s.books (s.putExch (withIpoStatus key .failed s.exch)).books := .refl _
  refine h.of_ipos hm rfl rfl fun t => ?_
  rw [exch_putExch, ipos_total_status hf.ipo_at (by decide), moved_nil]
  have hz : ipoClaim t ipo = 0 := by
    have : ipo.indications = ∅ := Dict.ext_entries hf.empty
    simp [ipoClaim, indicatedBy, this]
  rw [hz]
  ring

theorem EscrowInv.completed {key : String} {ipo : IpoState} {s s' : Sim} (h : EscrowInv s)
    (hannounced : ipo.status = .announced) (hc : Completed key ipo s s') : EscrowInv s' := by
  obtain ⟨ms, hm, hd⟩ := hc.moved
  obtain ⟨_, _, _, hl, -⟩ := hc.listed
  refine h.of_ipos hm hl.orders_eq hl.shorts_eq fun t => ?_
  rw [hl.ipos_eq, ipos_total_status hc.ipo_at (by decide), hd t]
  simp only [ipoClaim, hannounced, if_true]
  ring

theorem EscrowInv.quiet {s s' : Sim} (h : EscrowInv s) (hq : Quiet s s') : EscrowInv s' := by
  obtain ⟨ms, hm, hd⟩ := hq.moved
  refine h.of_ipos hm hq.orders_eq hq.shorts_eq fun t => ?_
  rw [hq.ipos_eq, hd t]
  ring

theorem EscrowInv.turned {r : OrderRequest} {s s' : Sim} (h : EscrowInv s) (ht : Turned r s s') :
    EscrowInv s' := by
  have hx : s'.exch.shorts = s.exch.shorts ∧ s'.exch.ipos = s.exch.ipos := by
    rcases ht.exch_eq with hx | hx
    · rw [hx]; exact ⟨rfl, rfl⟩
    · rw [hx]; exact ⟨rfl, rfl⟩
  refine h.of_ipos ht.moved ht.orders_eq hx.1 fun t => ?_
  rw [hx.2, moved_nil, add_zero]

theorem EscrowInv.called {key : String} {deadline : Int} {s s' : Sim} (h : EscrowInv s)
    (hx : s'.exch = { s.exch with
      shorts := s.exch.shorts.modify key fun p => { p with marginDeadlineTick := some deadline } })
    (hbooks : s'.books = s.books) : EscrowInv s' := by
  have hm : Moved [] s.books s'.books := by
    rw [hbooks]
    exact .refl _
  refine h.moved hm (fun t => ?_) (fun k o ho => ?_) (fun k p hp => ?_)
  · unfold escrowClaims
    rw [hx, moved_nil]
    dsimp only
    rw [Dict.total_modify]
    cases s.exch.shorts.get? key with
    | none => simp
    | some p => simp [shortClaim]
  · rw [hx] at ho
    exact h.sales k o ho
  · rw [hx] at hp
    have hp : (s.exch.shorts.modify key _).get? k = some p := hp
    rw [Dict.get?_modify] at hp
    split_ifs at hp with h₁
    · obtain ⟨p₀, hp₀, rfl⟩ := Option.map_eq_some_iff.mp hp
      exact h₁ ▸ h.shorts key p₀ hp₀
    · exact h.shorts k p hp

/-! ## Runs -/

theorem EscrowInv.step {cfg : ExchangeSettings} {outside : Bool} {s s' : Sim}
    (hstep : Step cfg outside s s') (hgood : ∀ m ∈ s'.trail, EscrowGood cfg m)
    (h : EscrowInv s) : EscrowInv s' := by
  cases hstep with
  | quiet hq => exact h.quiet hq
  | @settled fill _ _ _ _ _ hok hs =>
    have hfund := hgood (.settle s.exch fill) (by rw [hs.trail_eq]; simp)
    exact h.settled hok hfund hs
  | cancelled hc => exact h.cancelled hc
  | turned ht => exact h.turned ht
  | indicated hi => exact h.indicated hi
  | placed hp => exact h.placed hgood hp
  | announced ha => exact h.announced hgood ha
  | failed hf => exact h.failed hf
  | completed hannounced hc => exact h.completed hannounced hc
  | listed hl htrail hbooks =>
    have hm : Moved [] s.books s'.books := by
      rw [hbooks]
      exact .refl _
    refine h.of_ipos hm hl.orders_eq hl.shorts_eq fun t => ?_
    rw [hl.ipos_eq, moved_nil, add_zero]
  | called hx htrail hbooks => exact h.called hx hbooks

/-- A state with no orders, no positions, no offerings and no cents in
escrow. -/
structure NoClaims (s : Sim) : Prop where
  orders : s.exch.orders.entries = []
  shorts : s.exch.shorts.entries = []
  ipos : s.exch.ipos.entries = []
  escrow : ∀ a r, s.books.accounts.get? a = some r → a.code = .esc → r.balanceCents = 0

theorem NoClaims.escrowInv {s : Sim} (h : NoClaims s) : EscrowInv s := by
  have ho : s.exch.orders = ∅ := Dict.ext_entries h.orders
  have hs : s.exch.shorts = ∅ := Dict.ext_entries h.shorts
  have hi : s.exch.ipos = ∅ := Dict.ext_entries h.ipos
  refine ⟨fun t => ?_, fun a r hr hc _ => h.escrow a r hr hc, fun k o hk => ?_, fun k p hk => ?_⟩
  · have hzero : weigh (escrowWeight t) s.books.book = 0 := by
      rw [weigh_book]
      refine Dict.total_eq_zero fun e he => ?_
      unfold escrowWeight
      split_ifs with hc
      · rw [one_mul, h.escrow _ _ (Dict.mem_entries_iff.mp he) hc.1]
      · rw [zero_mul]
    unfold escrowClaims
    rw [hzero, ho, hs, hi]
    rfl
  · rw [ho] at hk
    cases hk
  · rw [hs] at hk
    cases hk

theorem NoClaims.of_fresh {s : Sim}
    (h : s.exch = {} ∧ ∀ e ∈ s.books.accounts.entries, e.1.code ≠ .esc) : NoClaims s := by
  refine ⟨by rw [h.1]; rfl, by rw [h.1]; rfl, by rw [h.1]; rfl, fun a r hr hc => ?_⟩
  exact absurd hc (h.2 _ (Dict.mem_entries_iff.mpr hr))

/-- **The escrow identity over whole runs**: it holds in every state a run
reaches whose fills were all funded and in which no claim was overwritten. -/
theorem escrow_identity [Uuid5] {settings : Settings} {s₀ s : Sim} (h₀ : NoClaims s₀)
    (hrun : Run settings s₀ s) (hgood : ∀ m ∈ s.trail, EscrowGood settings.exchange m) :
    EscrowLaw s := by
  have hkeyed : Keyed s₀.exch := by
    intro k o hk
    have ho : s₀.exch.orders = ∅ := Dict.ext_entries h₀.orders
    rw [ho] at hk
    cases hk
  exact (Steps.induction (fun _ _ => EscrowInv.step) (hrun.steps hkeyed) hgood
    h₀.escrowInv).escrowLaw

/-- A listing of "S", and one tick in which "ag_a" sells a share at 10 while
"ag_b" bids 8 and 10. -/
def twoBids (settings : Settings) : List ExchangeCall :=
  [.listSecurity "S" "fm_s" 1000 10 0 (Dict.ofList [("ag_a", 1000)]) none none,
    .resolve { settings, agents := ["ag_a", "ag_b"] }
      [limitOrder "a1" "ag_a" "S" .sell 1 10, limitOrder "b1" "ag_b" "S" .buy 1 8,
        limitOrder "b2" "ag_b" "S" .buy 1 10] 9]

theorem twoBids_under (settings : Settings) : ∀ c ∈ twoBids settings, c.under settings := by
  simp [twoBids, ExchangeCall.under]

/-- The exchange with a commission of two cents on a share. -/
def mild : Settings where
  exchange := { enabled := true, commissionFloorCents := 2 }

/-- The exchange with a commission of a hundred cents on a share. -/
def steep : Settings where
  exchange := { enabled := true, commissionFloorCents := 100 }

theorem escrow_identity_mild :
    letI : Uuid5 := ⟨fun run name => run ++ name⟩
    ∃ s₀ s, Run mild s₀ s ∧ s.exch.trades.length = 1 ∧ EscrowLaw s := by
  let _ : Uuid5 := ⟨fun run name => run ++ name⟩
  have hmarket : outcome (openMarket ["ag_a", "ag_b"] 1000 emptySim) (fun s =>
      decide (s.exch = {} ∧ ∀ e ∈ s.books.accounts.entries, e.1.code ≠ .esc) &&
      (outcome (each ExchangeCall.run (twoBids mild) s) fun s =>
        decide (s.exch.trades.length = 1 ∧ ∀ m ∈ s.trail, EscrowGood mild.exchange m))
          = some true) = some true := by decide +kernel
  obtain ⟨_, s₀, -, hboth⟩ := outcome_eq_some hmarket
  obtain ⟨hfresh, hday⟩ := Bool.and_eq_true_iff.mp hboth
  obtain ⟨_, s, hrun, hend⟩ := outcome_eq_some (of_decide_eq_true hday)
  obtain ⟨htrade, hgood⟩ := of_decide_eq_true hend
  have hs : Run mild s₀ s := Run.start.calls (twoBids_under mild) hrun
  exact ⟨s₀, s, hs, htrade, escrow_identity (.of_fresh (of_decide_eq_true hfresh)) hs hgood⟩

/-- With a large one the broker is paid out of the other bid's reservation: 18
cents are left for the 108 that bid reserved. -/
theorem steep_commission_eats_reservation :
    letI : Uuid5 := ⟨fun run name => run ++ name⟩
    ∃ s₀ s, NoClaims s₀ ∧ Run steep s₀ s ∧ openEscrow s.books "ag_b" = 18 ∧
      escrowClaims s.exch "ag_b" = 108 ∧ ¬EscrowLaw s := by
  let _ : Uuid5 := ⟨fun run name => run ++ name⟩
  have hmarket : outcome (openMarket ["ag_a", "ag_b"] 1000 emptySim) (fun s =>
      decide (s.exch = {} ∧ ∀ e ∈ s.books.accounts.entries, e.1.code ≠ .esc) &&
      (outcome (each ExchangeCall.run (twoBids steep) s) fun s =>
        decide (openEscrow s.books "ag_b" = 18 ∧ escrowClaims s.exch "ag_b" = 108))
          = some true) = some true := by decide +kernel
  obtain ⟨_, s₀, -, hboth⟩ := outcome_eq_some hmarket
  obtain ⟨hfresh, hday⟩ := Bool.and_eq_true_iff.mp hboth
  obtain ⟨_, s, hrun, hend⟩ := outcome_eq_some (of_decide_eq_true hday)
  obtain ⟨hheld, hclaimed⟩ := of_decide_eq_true hend
  refine ⟨s₀, s, .of_fresh (of_decide_eq_true hfresh),
    Run.start.calls (twoBids_under steep) hrun, hheld, hclaimed, fun hlaw => ?_⟩
  have := hlaw "ag_b"
  omega

end Polis.Economy.Exchange
