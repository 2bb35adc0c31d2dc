/-
  Polis.Economy.Exchange.ShortCap — the cap on the shares sold short.

  `_admit` turns a SHORT away when the shares already short and its own do not
  fit under the cap.  It does not count what other open orders will still sell
  short, and neither an order flagged "opens_short" nor a trade is checked.  The
  cap holds over every run in which an order that trades with more left than its
  seller owns finds room for all of it.

  Main results:
    * `CapInv.step` — one step.
    * `short_cap` — every run of ticks.
-/
import Polis.Economy.Exchange.Shares
import Polis.Economy.Exchange.Shorts

namespace Polis.Economy.Exchange

open Lib Lib.Effect Sim

/-! ## The law -/

/-- The most shares of a security that may be sold short. -/
def capQty (cfg : ExchangeSettings) (security : SecurityState) : Int :=
  security.sharesOutstanding * cfg.maxShortBp / 10000

/-- **The short cap**: the shares sold short of a security stay within its
cap. -/
def ShortCapLaw (cfg : ExchangeSettings) (x : ExchangeState) : Prop :=
  ∀ a security, x.securities.get? a = some security → aggregateShort x a ≤ capQty cfg security

/-- What an order has left to sell beyond the shares its seller owns. -/
def uncoveredQty (x : ExchangeState) (sell : OrderState) : Int :=
  sell.remainingQty - max 0 (x.holdingRow sell.traderId sell.symbol).qty

/-- An order that is about to trade and has more left than its seller owns
finds room for all of that under the cap. -/
def ShortCapGood (cfg : ExchangeSettings) : Mark → Prop
  | .settle x fill => ∀ sell, x.orders.get? fill.sellOrderId = some sell →
      0 < uncoveredQty x sell → ∀ security,
        x.securities.get? (x.holdingRow sell.traderId sell.symbol).symbol = some security →
        aggregateShort x (x.holdingRow sell.traderId sell.symbol).symbol + uncoveredQty x sell
          ≤ capQty cfg security
  | _ => True

instance (cfg : ExchangeSettings) : DecidablePred (ShortCapGood cfg)
  | .settle x fill => inferInstanceAs (Decidable (∀ sell ∈ x.orders.get? fill.sellOrderId,
      0 < uncoveredQty x sell → ∀ security ∈
        x.securities.get? (x.holdingRow sell.traderId sell.symbol).symbol,
        aggregateShort x (x.holdingRow sell.traderId sell.symbol).symbol + uncoveredQty x sell
          ≤ capQty cfg security))
  | .admitOrder _ _ => inferInstanceAs (Decidable True)
  | .announce _ _ => inferInstanceAs (Decidable True)

/-! ## What is sold short -/

/-- What a row adds to the shares sold short of a security. -/
def shortIn (a : String) (h : HoldingState) : Int := if h.symbol = a then max 0 (-h.qty) else 0

theorem aggregateShort_eq (x : ExchangeState) (a : String) :
    aggregateShort x a = x.holdings.total fun _ h => shortIn a h := by
  unfold aggregateShort Dict.total Dict.values
  induction x.holdings.entries with
  | nil => rfl
  | cons e es ih =>
    rw [List.map_cons, List.filter_cons, List.map_cons, List.sum_cons, ← ih]
    unfold shortIn
    by_cases h : e.2.symbol = a
    · simp [h]
    · simp [h]

theorem aggregateShort_congr {x y : ExchangeState} (h : y.holdings = x.holdings) (a : String) :
    aggregateShort y a = aggregateShort x a := by
  unfold aggregateShort
  rw [h]

theorem aggregateShort_put (x : ExchangeState) (o a : String) (row : HoldingState) (b : String) :
    aggregateShort (x.putHolding o a row) b
      = aggregateShort x b - shortIn b (x.holdingRow o a) + shortIn b row := by
  rw [aggregateShort_eq, aggregateShort_eq]
  show (x.holdings.put (holdingKey o a) row).total _ = _
  rw [Dict.total_put]
  congr 2
  unfold Dict.weightAt ExchangeState.holdingRow
  cases x.holdings.get? (holdingKey o a) with
  | none =>
    -- a missing row reads as an empty one
    show (0 : Int) = if a = b then 0 else 0
    rw [ite_self]
  | some h => rfl

theorem aggregateShort_put_le {x : ExchangeState} {o a : String} {row : HoldingState}
    (hs : row.symbol = (x.holdingRow o a).symbol) (hq : (x.holdingRow o a).qty ≤ row.qty)
    (b : String) : aggregateShort (x.putHolding o a row) b ≤ aggregateShort x b := by
  have hle : shortIn b row ≤ shortIn b (x.holdingRow o a) := by
    unfold shortIn
    rw [hs]
    split_ifs
    · omega
    · omega
  rw [aggregateShort_put]
  omega

/-! ## Stored securities -/

/-- Every holding is of a security that `known` admits. -/
def HoldingsIn (known : String → Prop) (x : ExchangeState) : Prop :=
  ∀ k h, x.holdings.get? k = some h → known h.symbol

variable {known : String → Prop} {x y : ExchangeState}

theorem HoldingsIn.congr (h : HoldingsIn known x) (he : y.holdings = x.holdings) :
    HoldingsIn known y := fun k r hk => h k r (he ▸ hk)

theorem HoldingsIn.row (h : HoldingsIn known x) (o : String) {a : String} (ha : known a) :
    known (x.holdingRow o a).symbol := by
  unfold ExchangeState.holdingRow
  cases hg : x.holdings.get? (holdingKey o a) with
  | none => exact ha
  | some row => exact h _ _ hg

theorem HoldingsIn.put (h : HoldingsIn known x) {o a : String} {row : HoldingState}
    (hs : known row.symbol) : HoldingsIn known (x.putHolding o a row) := by
  intro k r hk
  have hk : (x.holdings.put (holdingKey o a) row).get? k = some r := hk
  rw [Dict.get?_put] at hk
  split_ifs at hk
  · cases hk
    exact hs
  · exact h k r hk

theorem HoldingsIn.allot {symbol : String} {price : Int} {locked : Option String}
    {rows : List (String × Int)} (hrows : ∀ r ∈ rows, 0 ≤ r.2) (hs : known symbol)
    (h : HoldingsIn known x) :
    HoldingsIn known (allot symbol price locked rows x) ∧
      ∀ b, aggregateShort (allot symbol price locked rows x) b ≤ aggregateShort x b := by
  induction rows generalizing x with
  | nil => exact ⟨h, fun _ => le_rfl⟩
  | cons r rows ih =>
    obtain ⟨holderId, qty⟩ := r
    have hq : 0 ≤ qty := hrows (holderId, qty) List.mem_cons_self
    have hput : ∀ row : HoldingState, row.symbol = (x.holdingRow holderId symbol).symbol →
        row.qty = (x.holdingRow holderId symbol).qty + qty →
        HoldingsIn known (x.putHolding holderId symbol row) ∧
          ∀ b, aggregateShort (x.putHolding holderId symbol row) b ≤ aggregateShort x b := by
      intro row hsym hqty
      refine ⟨h.put ?_, aggregateShort_put_le hsym (by omega)⟩
      rw [hsym]
      exact h.row holderId hs
    obtain ⟨hfirst, hless⟩ := hput
      (if locked = some holderId then
        { x.holdingRow holderId symbol with
          qty := (x.holdingRow holderId symbol).qty + qty
          avgCostCents := price
          lockedQty := qty }
      else
        { x.holdingRow holderId symbol with
          qty := (x.holdingRow holderId symbol).qty + qty
          avgCostCents := price })
      (by split_ifs <;> rfl) (by split_ifs <;> rfl)
    obtain ⟨hrest, hfewer⟩ := ih (fun r hr => hrows r (List.mem_cons_of_mem _ hr)) hfirst
    exact ⟨hrest, fun b => (hfewer b).trans (hless b)⟩

/-! ## The invariant -/

/-- A security is stored under the symbol. -/
def Stored (x : ExchangeState) (a : String) : Prop := x.securities.get? a ≠ none

/-- The short cap with what carries it through a run: orders and holdings are
of stored securities. -/
structure CapInv (cfg : ExchangeSettings) (x : ExchangeState) : Prop where
  orders : ∀ k o, x.orders.get? k = some o → Stored x o.symbol
  holdings : HoldingsIn (Stored x) x
  law : ShortCapLaw cfg x

variable {cfg : ExchangeSettings} {s s' : Sim}

theorem Step.ordersStored (hstep : Step cfg false s s')
    (h : ∀ k o, s.exch.orders.get? k = some o → Stored s.exch o.symbol) :
    ∀ k o, s'.exch.orders.get? k = some o → Stored s'.exch o.symbol := by
  intro k o ho
  cases hstep.orderStep k with
  | same he => exact hstep.known (h k o (he ▸ ho))
  | filled ho₀ ho' _ _ _ _ _ _ hsymbol =>
    rw [ho'] at ho
    cases ho
    rw [hsymbol]
    exact hstep.known (h k _ ho₀)
  | @cancelled before _ ho₀ ho' _ =>
    rw [ho'] at ho
    cases ho
    show Stored s'.exch before.symbol
    exact hstep.known (h k before ho₀)
  | @placed r _ _ _ hp _ ho' =>
    rw [ho'] at ho
    cases ho
    obtain ⟨security, hsec⟩ := hp.screened
    refine hstep.known ?_
    show s.exch.securities.get? r.symbol ≠ none
    rw [hsec]
    simp

theorem ShortCapLaw.less (h : ShortCapLaw cfg x)
    (hless : ∀ a, aggregateShort y a ≤ aggregateShort x a)
    (hsec : ∀ a, (y.securities.get? a).map SecurityState.sharesOutstanding
      = (x.securities.get? a).map SecurityState.sharesOutstanding) : ShortCapLaw cfg y := by
  intro a security ha
  have hmap := hsec a
  rw [ha] at hmap
  obtain ⟨before, hbefore, heq⟩ := Option.map_eq_some_iff.mp hmap.symm
  have hcap : capQty cfg before = capQty cfg security := by
    unfold capQty
    rw [heq]
  have := h a before hbefore
  have := hless a
  omega

theorem CapInv.listed {symbol : String} {shares : Int} {allocation : Dict String Int}
    (hbp : 0 ≤ cfg.maxShortBp) (h : CapInv cfg x) (hl : Listed symbol shares allocation x y)
    (hq : ∀ k q, allocation.get? k = some q → 0 ≤ q) :
    HoldingsIn (Stored y) y ∧ ShortCapLaw cfg y := by
  obtain ⟨security, hshares, hsec⟩ := hl.securities_eq
  obtain ⟨price, locked, hholdings⟩ := hl.holdings_eq
  have hstored : Stored y symbol := by
    unfold Stored
    rw [hsec, Dict.get?_put_self]
    simp
  have hmid : HoldingsIn (Stored y) x := by
    intro k r hk
    unfold Stored
    rw [hsec, Dict.get?_put]
    split_ifs
    · simp
    · exact h.holdings k r hk
  have hrows : ∀ r ∈ allocation.sortedEntries, 0 ≤ r.2 := fun r hr =>
    hq r.1 r.2 (Dict.mem_entries_iff.mp ((Dict.sortedEntries_perm _).mem_iff.mp hr))
  obtain ⟨hin, hless⟩ := @HoldingsIn.allot _ x symbol price locked _ hrows hstored hmid
  refine ⟨hin.congr hholdings, fun a row ha => ?_⟩
  rw [aggregateShort_congr hholdings a]
  have hle := hless a
  rw [hsec, Dict.get?_put] at ha
  split_ifs at ha with hsame
  · cases ha
    -- no row was of this security before
    have hzero : aggregateShort x a = 0 := by
      rw [aggregateShort_eq]
      refine Dict.total_eq_zero fun e he => ?_
      show shortIn a e.2 = 0
      unfold shortIn
      rw [if_neg]
      intro hsym
      refine h.holdings _ _ (Dict.mem_entries_iff.mp he) ?_
      rw [hsym, hsame, hl.fresh]
    have hcap : 0 ≤ capQty cfg security := by
      have hpos := hl.shares_pos
      unfold capQty
      rw [hshares]
      exact Int.ediv_nonneg (Int.mul_nonneg hpos.le hbp) (by omega)
    omega
  · have := h.law a row ha
    omega

theorem CapInv.settled {fill : Fill} {tick : Int} {buy sell : OrderState}
    {security : SecurityState} {t : Settlement} (h : CapInv cfg s.exch)
    (hgood : ShortCapGood cfg (.settle s.exch fill))
    (hknown : ∀ a, Stored s.exch a → Stored s'.exch a)
    (hs : Settled cfg fill tick buy sell security t s s') :
    HoldingsIn (Stored s'.exch) s'.exch ∧ ShortCapLaw cfg s'.exch := by
  have hbuy : Stored s.exch buy.symbol := h.orders _ _ hs.buy_at
  have hsell : Stored s.exch sell.symbol := h.orders _ _ hs.sell_at
  have hqty := hs.qty_pos
  have hleft : t.qty ≤ sell.remainingQty := by
    have hmin : t.qty = min fill.qty (min buy.remainingQty sell.remainingQty) := by
      rw [hs.amounts]; rfl
    omega
  have hbought : ∀ row, (holdingBought t row).symbol = row.symbol ∧
      (holdingBought t row).qty = row.qty + t.qty := by
    intro row
    unfold holdingBought
    dsimp only
    split_ifs
    · exact ⟨rfl, rfl⟩
    · exact ⟨rfl, rfl⟩
  -- the seller's row is the one before the buyer's was written
  have hrow : (s.exch.putHolding buy.traderId buy.symbol
      (holdingBought t (s.exch.holdingRow buy.traderId buy.symbol))).holdingRow
        sell.traderId sell.symbol = s.exch.holdingRow sell.traderId sell.symbol := by
    have hne : holdingKey sell.traderId sell.symbol ≠ holdingKey buy.traderId buy.symbol :=
      hs.keys_ne.symm
    unfold ExchangeState.holdingRow ExchangeState.putHolding
    dsimp only
    rw [Dict.get?_put_of_ne hne]
  generalize hseller : s.exch.holdingRow sell.traderId sell.symbol = row at hrow
  have hseq : s'.exch.holdings = ((s.exch.putHolding buy.traderId buy.symbol
      (holdingBought t (s.exch.holdingRow buy.traderId buy.symbol))).putHolding sell.traderId
        sell.symbol (holdingSold t sell row)).holdings := by
    rw [hs.holdings_eq]
    unfold tradeHoldings
    dsimp only
    rw [hrow]
  have hin : HoldingsIn (Stored s'.exch) s.exch := fun k r hk => hknown _ (h.holdings k r hk)
  have hsym : Stored s'.exch row.symbol := by
    rw [← hseller]
    exact hin.row _ (hknown _ hsell)
  have hboth : HoldingsIn (Stored s'.exch) ((s.exch.putHolding buy.traderId buy.symbol
      (holdingBought t (s.exch.holdingRow buy.traderId buy.symbol))).putHolding sell.traderId
        sell.symbol (holdingSold t sell row)) := by
    refine (hin.put ?_).put hsym
    rw [(hbought _).1]
    exact hin.row _ (hknown _ hbuy)
  refine ⟨hboth.congr hseq, fun a after ha => ?_⟩
  -- the buyer's row gains shares, the seller's loses as many
  have hgain := @aggregateShort_put_le s.exch buy.traderId buy.symbol
    (holdingBought t (s.exch.holdingRow buy.traderId buy.symbol)) (hbought _).1
    (by rw [(hbought _).2]; omega) a
  have hloss : aggregateShort s'.exch a ≤ aggregateShort s.exch a - shortIn a row
      + shortIn a (holdingSold t sell row) := by
    rw [aggregateShort_congr hseq a, aggregateShort_put, hrow]
    omega
  have hsold : shortIn a (holdingSold t sell row)
      = if row.symbol = a then max 0 (-(row.qty - t.qty)) else 0 := rfl
  have hbefore : shortIn a row = if row.symbol = a then max 0 (-row.qty) else 0 := rfl
  rw [hsold, hbefore] at hloss
  -- the security before the trade had as many shares outstanding
  obtain ⟨before, hat, hcap⟩ : ∃ before, s.exch.securities.get? a = some before ∧
      capQty cfg before = capQty cfg after := by
    rw [hs.securities_eq, Dict.get?_modify] at ha
    split_ifs at ha with hsame
    · obtain ⟨before, hb, rfl⟩ := Option.map_eq_some_iff.mp ha
      exact ⟨before, hsame ▸ hb, rfl⟩
    · exact ⟨after, ha, rfl⟩
  have hlaw := h.law a before hat
  rw [← hcap]
  by_cases hsame : row.symbol = a
  · rw [if_pos hsame, if_pos hsame] at hloss
    by_cases hroom : sell.remainingQty ≤ max 0 row.qty
    · -- the seller owns all it sells
      omega
    · have hmore : uncoveredQty s.exch sell = sell.remainingQty - max 0 row.qty := by
        unfold uncoveredQty
        rw [hseller]
      have hfits := hgood sell hs.sell_at (by omega) before (by rw [hseller, hsame]; exact hat)
      rw [hseller, hsame, hmore] at hfits
      omega
  · rw [if_neg hsame, if_neg hsame] at hloss
    omega

theorem CapInv.step (hbp : 0 ≤ cfg.maxShortBp) (hstep : Step cfg false s s')
    (hgood : ∀ m ∈ s'.trail, ShortCapGood cfg m) (h : CapInv cfg s.exch) :
    CapInv cfg s'.exch := by
  have hknown : ∀ a, Stored s.exch a → Stored s'.exch a := fun a ha => hstep.known ha
  have hin : HoldingsIn (Stored s'.exch) s.exch := fun k r hk => hknown _ (h.holdings k r hk)
  have horders := hstep.ordersStored h.orders
  -- steps that write no holding
  have same : s'.exch.holdings = s.exch.holdings →
      (∀ a, (s'.exch.securities.get? a).map SecurityState.sharesOutstanding
        = (s.exch.securities.get? a).map SecurityState.sharesOutstanding) → CapInv cfg s'.exch :=
    fun he hs => ⟨horders, hin.congr he,
      h.law.less (fun a => (aggregateShort_congr he a).le) hs⟩
  -- steps that write one holding and leave its shares
  have rewrite : ∀ {o a : String} {row : HoldingState}, Stored s.exch a →
      s'.exch.holdings = (s.exch.putHolding o a row).holdings →
      row.symbol = (s.exch.holdingRow o a).symbol → row.qty = (s.exch.holdingRow o a).qty →
      s'.exch.securities = s.exch.securities → CapInv cfg s'.exch := by
    intro o a row ha he hsym hq hsecs
    refine ⟨horders, HoldingsIn.congr (hin.put ?_) he, h.law.less (fun b => ?_) fun b => by
      rw [hsecs]⟩
    · rw [hsym]
      exact hin.row o (hknown a ha)
    · rw [aggregateShort_congr he b]
      exact aggregateShort_put_le hsym hq.ge b
  cases hstep with
  | quiet hq => exact same hq.holdings_eq hq.shares_eq
  | @settled fill _ _ _ _ _ _ hs =>
    obtain ⟨hholdings, hlaw⟩ := h.settled (hgood (.settle s.exch fill) (by rw [hs.trail_eq]; simp))
      hknown hs
    exact ⟨horders, hholdings, hlaw⟩
  | @cancelled _ _ order hc =>
    have hsecs : s'.exch.securities = s.exch.securities := by rw [hc.exch_eq, unreserve_eq]
    have hheld : s'.exch.holdings = (unreserve order s.exch).holdings := by rw [hc.exch_eq]
    unfold unreserve at hheld
    split_ifs at hheld
    · exact rewrite (h.orders _ _ hc.order_at) hheld rfl rfl hsecs
    · exact same hheld fun a => by rw [hsecs]
  | turned ht hsec =>
    obtain ⟨security, hsec⟩ := hsec
    rcases ht.exch_eq with hx | hx
    · exact same (by rw [hx]) fun a => by rw [hx]
    · exact rewrite (by unfold Stored; rw [hsec]; simp) (by rw [hx]; rfl) rfl rfl (by rw [hx]; rfl)
  | indicated hi => exact same (by rw [hi.exch_eq]) fun a => by rw [hi.exch_eq]
  | @placed r _ _ reserved hp =>
    obtain ⟨security, hsec⟩ := hp.screened
    have hsecs : s'.exch.securities = s.exch.securities := by
      rw [hp.exch_eq]
      dsimp only
      split_ifs <;> rfl
    have hheld : s'.exch.holdings = (if reserved.qty = 0 then s.exch
        else reserveShares r.actorId r.symbol reserved.qty s.exch).holdings := by rw [hp.exch_eq]
    split_ifs at hheld
    · exact same hheld fun a => by rw [hsecs]
    · exact rewrite (by unfold Stored; rw [hsec]; simp) hheld rfl rfl hsecs
  | announced ha => exact same (by rw [ha.exch_eq]) fun a => by rw [ha.exch_eq]
  | failed hf => exact same (by rw [hf.eq]; rfl) fun a => by rw [hf.eq]; rfl
  | @completed key _ _ hc =>
    obtain ⟨_, _, _, hl, hq⟩ := hc.listed
    have hx : CapInv cfg (withIpoStatus key .completed s.exch) := ⟨h.orders, h.holdings, h.law⟩
    obtain ⟨hholdings, hlaw⟩ := hx.listed hbp hl fun k q hk => (hq k q hk).1
    exact ⟨horders, hholdings, hlaw⟩
  | listed hl _ _ hfrom =>
    rcases hfrom with hout | ⟨-, hq⟩
    · cases hout
    · obtain ⟨hholdings, hlaw⟩ := h.listed hbp hl hq
      exact ⟨horders, hholdings, hlaw⟩
  | called hx => exact same (by rw [hx]) fun a => by rw [hx]

/-! ## Runs -/

/-- **The short cap over whole runs**: from a state that keeps it, every state
ticks reach keeps it, as long as the cap is not negative and every order that
trades with more left than its seller owns finds room for it under the cap. -/
theorem short_cap [Uuid5] {settings : Settings} {s₀ s : Sim} (hkeyed : Keyed s₀.exch)
    (h₀ : CapInv settings.exchange s₀.exch) (hrun : Ticks settings s₀ s)
    (hbp : 0 ≤ settings.exchange.maxShortBp)
    (hgood : ∀ m ∈ s.trail, ShortCapGood settings.exchange m) :
    ShortCapLaw settings.exchange s.exch := by
  have hinv : CapInv settings.exchange s.exch :=
    Steps.induction (fun _ _ => CapInv.step hbp) (hrun.steps hkeyed) hgood h₀
  exact hinv.law

theorem CapInv.of_rows (h : x.orders = ∅ ∧
    (∀ e ∈ x.holdings.entries, x.securities.get? e.2.symbol ≠ none) ∧
    ∀ e ∈ x.securities.entries, aggregateShort x e.1 ≤ capQty cfg e.2) :
    Keyed x ∧ CapInv cfg x := by
  obtain ⟨horders, hholdings, hlaw⟩ := h
  have none : ∀ k o, x.orders.get? k ≠ some o := by
    intro k o hk
    rw [horders] at hk
    cases hk
  refine ⟨fun k o hk => absurd hk (none k o), fun k o hk => absurd hk (none k o),
    fun k r hk => ?_, fun a security ha => ?_⟩
  · exact hholdings _ (Dict.mem_entries_iff.mpr hk)
  · exact hlaw _ (Dict.mem_entries_iff.mpr ha)

theorem short_cap_one :
    letI : Uuid5 := ⟨fun run name => run ++ name⟩
    ∃ s₀ s, Ticks ownedMarketCtx.settings s₀ s ∧ aggregateShort s.exch "S" = 1 ∧
      ShortCapLaw ownedMarketCtx.settings.exchange s.exch := by
  let _ : Uuid5 := ⟨fun run name => run ++ name⟩
  have hmarket : outcome (ownedMarket emptySim) (fun s =>
      decide (s.exch.orders = ∅ ∧
        (∀ e ∈ s.exch.holdings.entries, s.exch.securities.get? e.2.symbol ≠ none) ∧
        ∀ e ∈ s.exch.securities.entries, aggregateShort s.exch e.1
          ≤ capQty ownedMarketCtx.settings.exchange e.2) &&
      (outcome (each (tickOf ownedMarketCtx) shortOnce s) fun s =>
        decide (aggregateShort s.exch "S" = 1 ∧
          ∀ m ∈ s.trail, ShortCapGood ownedMarketCtx.settings.exchange m))
            = some true) = some true := by decide +kernel
  obtain ⟨_, s₀, -, hboth⟩ := outcome_eq_some hmarket
  obtain ⟨hrows, hdays⟩ := Bool.and_eq_true_iff.mp hboth
  obtain ⟨_, s, hrun, hend⟩ := outcome_eq_some (of_decide_eq_true hdays)
  obtain ⟨hone, hgood⟩ := of_decide_eq_true hend
  have hs : Ticks ownedMarketCtx.settings s₀ s := Ticks.start.more rfl hrun
  obtain ⟨hkeyed, hinv⟩ := CapInv.of_rows (of_decide_eq_true hrows)
  exact ⟨s₀, s, hs, hone, short_cap hkeyed hinv hs (by decide) hgood⟩

/-- A market in which "ag_a" owns all hundred shares of "S", of which ten may
be sold short. -/
def smallMarket [Uuid5] : EngineM Unit := do
  openMarket ["ag_a", "ag_b", "ag_c"] 1000
  ExchangeCall.run (.listSecurity "S" "fm_s" 100 10 0 (Dict.ofList [("ag_a", 100)]) none none)

/-- Two traders sell ten shares short in one tick, and one buys them all. -/
def shortTwice : List (List ExchangeAction × Int) :=
  [([shortSale "b1" "ag_b" "S" 10 10 150, shortSale "c1" "ag_c" "S" 10 10 150,
    limitOrder "a1" "ag_a" "S" .buy 10 10, limitOrder "a2" "ag_a" "S" .buy 10 10], 9)]

theorem pending_shorts_break_cap :
    letI : Uuid5 := ⟨fun run name => run ++ name⟩
    ∃ s₀ s, Keyed s₀.exch ∧ CapInv ownedMarketCtx.settings.exchange s₀.exch ∧
      Ticks ownedMarketCtx.settings s₀ s ∧
      (∃ security, s.exch.securities.get? "S" = some security ∧
        capQty ownedMarketCtx.settings.exchange security = 10) ∧
      aggregateShort s.exch "S" = 20 ∧
      ¬ShortCapLaw ownedMarketCtx.settings.exchange s.exch := by
  let _ : Uuid5 := ⟨fun run name => run ++ name⟩
  have hmarket : outcome (smallMarket emptySim) (fun s =>
      decide (s.exch.orders = ∅ ∧
        (∀ e ∈ s.exch.holdings.entries, s.exch.securities.get? e.2.symbol ≠ none) ∧
        ∀ e ∈ s.exch.securities.entries, aggregateShort s.exch e.1
          ≤ capQty ownedMarketCtx.settings.exchange e.2) &&
      (outcome (each (tickOf ownedMarketCtx) shortTwice s) fun s =>
        decide ((s.exch.securities.get? "S").map (capQty ownedMarketCtx.settings.exchange)
            = some 10 ∧ aggregateShort s.exch "S" = 20)) = some true) = some true := by
    decide +kernel
  obtain ⟨_, s₀, -, hboth⟩ := outcome_eq_some hmarket
  obtain ⟨hrows, hdays⟩ := Bool.and_eq_true_iff.mp hboth
  obtain ⟨_, s, hrun, hend⟩ := outcome_eq_some (of_decide_eq_true hdays)
  obtain ⟨hcap, hshort⟩ := of_decide_eq_true hend
  obtain ⟨security, hat, hten⟩ := Option.map_eq_some_iff.mp hcap
  obtain ⟨hkeyed, hinv⟩ := CapInv.of_rows (of_decide_eq_true hrows)
  refine ⟨s₀, s, hkeyed, hinv, Ticks.start.more rfl hrun, ⟨security, hat, hten⟩, hshort,
    fun hlaw => ?_⟩
  have hle := hlaw "S" security hat
  rw [hshort, hten] at hle
  exact absurd hle (by decide)

end Polis.Economy.Exchange
