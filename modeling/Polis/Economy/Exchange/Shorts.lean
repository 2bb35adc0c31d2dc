/-
  Polis.Economy.Exchange.Shorts — the short book against the holdings.

  A short position holds what the trader's holding is below zero, and is open
  as long as it holds anything.  Ordinary sales cannot break this: their shares
  are reserved out of the holding.  A short sale keeps it when the trader owns
  no shares and the position it adds to was not covered before.

  Main results:
    * `ShortInv.step` — one step.
    * `short_book` — every run of ticks.
-/
import Polis.Economy.Exchange.Reserves

namespace Polis.Economy.Exchange

open Lib Lib.Effect Sim

/-! ## The law -/

/-- The shares sold short under a key. -/
def shorted (x : ExchangeState) (k : String) : Int :=
  (x.shorts.get? k).elim 0 ShortPositionState.qty

/-- **The short book**: a position holds what the holding is below zero, and is
open exactly when it holds something. -/
def ShortLaw (x : ExchangeState) : Prop :=
  ∀ traderId symbol,
    shorted x (holdingKey traderId symbol) = max 0 (-(x.holdingRow traderId symbol).qty) ∧
    ∀ p, x.shorts.get? (holdingKey traderId symbol) = some p → (p.status = .opened ↔ 0 < p.qty)

/-- The seller of a short sale owns no shares, and its position was not covered
before. -/
def ShortGood : Mark → Prop
  | .settle x fill => ∀ sell, x.orders.get? fill.sellOrderId = some sell →
      OrderState.has sell "opens_short" = true →
      (x.holdingRow sell.traderId sell.symbol).qty ≤ 0 ∧
        ∀ p, x.shorts.get? (holdingKey sell.traderId sell.symbol) = some p → p.status ≠ .covered
  | _ => True

instance : DecidablePred ShortGood
  | .settle x fill => inferInstanceAs (Decidable (∀ sell ∈ x.orders.get? fill.sellOrderId,
      OrderState.has sell "opens_short" = true →
      (x.holdingRow sell.traderId sell.symbol).qty ≤ 0 ∧
        ∀ p ∈ x.shorts.get? (holdingKey sell.traderId sell.symbol), p.status ≠ .covered))
  | .admitOrder _ _ => inferInstanceAs (Decidable True)
  | .announce _ _ => inferInstanceAs (Decidable True)

/-! ## The invariant -/

/-- The short book with what carries it through a run: the sales reserve at
most what the holding reserves, which is at most what it holds; positions stand
under keys of known securities. -/
structure ShortInv (x : ExchangeState) : Prop where
  qty_eq : ∀ k, shorted x k = max 0 (-held x k)
  status : ∀ k p, x.shorts.get? k = some p → (p.status = .opened ↔ 0 < p.qty)
  rows : SalesOk x
  sales : ∀ k, x.orders.total (fun _ o => saleReserve k o) ≤ kept x k
  covered : ∀ k, kept x k ≤ max 0 (held x k)
  locks : LocksOk x
  known : ∀ k p, x.shorts.get? k = some p →
    ∃ traderId symbol, k = holdingKey traderId symbol ∧ ':' ∉ traderId.toList ∧
      x.securities.get? symbol ≠ none

theorem ShortInv.shortLaw {x : ExchangeState} (h : ShortInv x) : ShortLaw x := by
  intro traderId symbol
  rw [holdingRow_qty]
  exact ⟨h.qty_eq _, h.status _⟩

theorem ShortInv.congr {x y : ExchangeState} (h : ShortInv x) (ho : y.orders = x.orders)
    (hs : y.shorts = x.shorts) (hheld : ∀ k, held y k = held x k) (hkept : ∀ k, kept y k = kept x k)
    (hlocks : LocksOk y)
    (hsec : ∀ k, x.securities.get? k ≠ none → y.securities.get? k ≠ none) : ShortInv y where
  qty_eq k := by
    unfold shorted
    rw [hs, hheld k]
    exact h.qty_eq k
  status k p hp := h.status k p (hs ▸ hp)
  rows k o hk := h.rows k o (ho ▸ hk)
  sales k := by
    rw [ho, hkept k]
    exact h.sales k
  covered k := by
    rw [hkept k, hheld k]
    exact h.covered k
  locks := hlocks
  known k p hp := by
    obtain ⟨traderId, symbol, hk, hn, hx⟩ := h.known k p (hs ▸ hp)
    exact ⟨traderId, symbol, hk, hn, hsec _ hx⟩

/-! ## Positions -/

theorem saleShorts_get? {cfg : ExchangeSettings} {sell : OrderState} {qty price tick : Int}
    {shorts : Dict String ShortPositionState} (k : String) :
    ((saleShorts cfg sell qty price tick shorts).get? k).elim 0 ShortPositionState.qty
      = (shorts.get? k).elim 0 ShortPositionState.qty
        + (if k = OrderState.key sell ∧ OrderState.has sell "opens_short" = true then qty
          else 0) := by
  unfold saleShorts OrderState.key
  by_cases hf : OrderState.has sell "opens_short" = true
  · simp only [hf, if_true, and_true, Dict.get?_put]
    split_ifs with hk
    · rw [hk]
      cases hp : shorts.get? (holdingKey sell.traderId sell.symbol) with
      | none => exact (zero_add qty).symm
      | some position => rfl
    · rw [add_zero]
  · rw [if_neg hf, if_neg fun hx => hf hx.2, add_zero]

theorem coverShorts_get? {shorts : Dict String ShortPositionState} {key : String} {qty : Int}
    (k : String) :
    ((coverShorts shorts key qty).get? k).elim 0 ShortPositionState.qty
      = (shorts.get? k).elim 0 ShortPositionState.qty
        - (if k = key ∧ 0 < qty then min qty ((shorts.get? k).elim 0 ShortPositionState.qty)
          else 0) := by
  unfold coverShorts
  by_cases hq : qty ≤ 0
  · rw [if_pos hq, if_neg fun hx => absurd hx.2 (not_lt.mpr hq), sub_zero]
  · rw [if_neg hq]
    have hpos : 0 < qty := not_le.mp hq
    cases hp : shorts.get? key with
    | none =>
      by_cases hk : k = key
      · rw [hk, hp, if_pos ⟨rfl, hpos⟩]
        exact (by omega : (0 : Int) = 0 - min qty 0)
      · rw [if_neg fun hx => hk hx.1, sub_zero]
    | some position =>
      dsimp only
      rw [Dict.get?_put]
      by_cases hk : k = key
      · rw [if_pos hk, hk, hp, if_pos ⟨rfl, hpos⟩]
        rfl
      · rw [if_neg hk, if_neg fun hx => hk hx.1, sub_zero]

theorem saleShorts_status {cfg : ExchangeSettings} {sell : OrderState} {qty price tick : Int}
    {shorts : Dict String ShortPositionState} (hq : 0 < qty)
    (hfresh : OrderState.has sell "opens_short" = true →
      ∀ p, shorts.get? (OrderState.key sell) = some p → p.status ≠ .covered)
    (hok : ∀ k p, shorts.get? k = some p → (p.status = .opened ↔ 0 < p.qty)) {k : String}
    {p : ShortPositionState} (hp : (saleShorts cfg sell qty price tick shorts).get? k = some p) :
    p.status = .opened ↔ 0 < p.qty := by
  unfold saleShorts at hp
  by_cases hf : OrderState.has sell "opens_short" = true
  swap
  · rw [if_neg hf] at hp
    exact hok k p hp
  rw [if_pos hf, Dict.get?_put] at hp
  split_ifs at hp with hk
  swap
  · exact hok k p hp
  cases hold : shorts.get? (holdingKey sell.traderId sell.symbol) with
  | none =>
    rw [hold] at hp
    cases hp
    exact ⟨fun _ => hq, fun _ => rfl⟩
  | some position =>
    rw [hold] at hp
    cases hp
    have hstatus : position.status = .opened := by
      have hne := hfresh hf position hold
      cases hs : position.status with
      | opened => rfl
      | covered => exact absurd hs hne
    have hpos := (hok _ _ hold).mp hstatus
    refine ⟨fun _ => ?_, fun _ => hstatus⟩
    show 0 < position.qty + qty
    omega

theorem coverShorts_status {shorts : Dict String ShortPositionState} {key : String} {qty : Int}
    (hok : ∀ k p, shorts.get? k = some p → (p.status = .opened ↔ 0 < p.qty)) {k : String}
    {p : ShortPositionState} (hp : (coverShorts shorts key qty).get? k = some p) :
    p.status = .opened ↔ 0 < p.qty := by
  unfold coverShorts at hp
  split_ifs at hp with hq
  · exact hok k p hp
  cases hold : shorts.get? key with
  | none =>
    rw [hold] at hp
    exact hok k p hp
  | some position =>
    rw [hold] at hp
    dsimp only at hp
    rw [Dict.get?_put] at hp
    split_ifs at hp with hk
    · cases hp
      have hbefore := hok _ _ hold
      show (if position.qty - min qty position.qty = 0 then ShortStatus.covered
        else position.status) = .opened ↔ 0 < position.qty - min qty position.qty
      split_ifs with hz
      · exact ⟨fun hx => (by cases hx), fun hx => by omega⟩
      · rw [hbefore]
        omega
    · exact hok k p hp

/-! ## Steps -/

variable {cfg : ExchangeSettings} {s s' : Sim}

theorem Settled.shorted {fill : Fill} {tick : Int} {buy sell : OrderState}
    {security : SecurityState} {t : Settlement}
    (hs : Settled cfg fill tick buy sell security t s s') (k : String) :
    shorted s'.exch k = shorted s.exch k
      + (if k = OrderState.key sell ∧ OrderState.has sell "opens_short" = true then t.qty else 0)
      - (if k = OrderState.key buy ∧ 0 < coveredQty t buy s.exch then
          min (coveredQty t buy s.exch) (shorted s.exch k) else 0) := by
  have hne := hs.keys_ne
  unfold Exchange.shorted
  rw [hs.shorts_eq, coverShorts_get?, saleShorts_get?]
  show _ - (if k = OrderState.key buy ∧ _ then _ else 0) = _
  by_cases hk : k = OrderState.key buy
  · subst hk
    simp only [hne, false_and, if_false, add_zero]
  · simp only [hk, false_and, if_false]

theorem ShortInv.settled {fill : Fill} {tick : Int} {buy sell : OrderState}
    {security : SecurityState} {t : Settlement} (h : ShortInv s.exch) (hok : FillOk s.exch fill)
    (hgood : ShortGood (.settle s.exch fill)) (hlocks : LocksOk s'.exch)
    (hs : Settled cfg fill tick buy sell security t s s') : ShortInv s'.exch := by
  obtain ⟨-, hsc, hsym, hac, hqmin⟩ := hs.seller_active hok
  obtain ⟨hrows, hsales⟩ := h.rows.settled hok hs
  have hqty := hs.qty_pos
  have hne := hs.keys_ne
  have hgood := hgood sell hs.sell_at
  rw [holdingRow_qty] at hgood
  have hcov : coveredQty t buy s.exch = min t.qty (-held s.exch (OrderState.key buy)) := by
    unfold coveredQty
    rw [holdingRow_qty]
    rfl
  -- a sale out of the holding is covered by it
  have hroom : OrderState.has sell "opens_short" = false →
      t.qty ≤ held s.exch (OrderState.key sell) := by
    intro hf
    have := h.rows.sale_le (h.sales _) (h.covered _) hs.sell_at ⟨hsc, hf⟩ hac
    omega
  refine ⟨fun k => ?_, fun k p hp => ?_, hrows, fun k => ?_, fun k => ?_, hlocks,
    fun k p hp => ?_⟩
  · rw [hs.shorted k, hs.held k, hcov, h.qty_eq k]
    by_cases hkb : k = OrderState.key buy
    · subst hkb
      simp only [hne, false_and, if_false, if_true, true_and]
      split_ifs with hpos
      · omega
      · omega
    by_cases hks : k = OrderState.key sell
    · subst hks
      simp only [hkb, false_and, if_false, if_true, true_and]
      cases hf : OrderState.has sell "opens_short" with
      | true =>
        have hle : held s.exch (OrderState.key sell) ≤ 0 := (hgood hf).1
        rw [if_pos rfl]
        omega
      | false =>
        have hle := hroom hf
        rw [if_neg (by simp)]
        omega
    · simp only [hkb, hks, false_and, if_false]
      omega
  · rw [hs.shorts_eq] at hp
    refine coverShorts_status (fun k' p' hp' => ?_) hp
    exact saleShorts_status hqty (fun hf => (hgood hf).2) h.status hp'
  · have hle := h.sales k
    rw [hsales k, hs.kept k]
    omega
  · have hcovered := h.covered k
    rw [hs.kept k, hs.held k]
    by_cases hkb : k = OrderState.key buy
    · have hks : k ≠ OrderState.key sell := fun hx => hne (hkb.symm.trans hx)
      rw [if_neg fun hx => hks hx.1, if_pos hkb, if_neg hks]
      omega
    · rw [if_neg hkb]
      by_cases hks : k = OrderState.key sell
      · rw [if_pos hks]
        cases hf : OrderState.has sell "opens_short" with
        | true =>
          have hle := (hgood hf).1
          change held s.exch (OrderState.key sell) ≤ 0 at hle
          rw [← hks] at hle
          rw [if_neg (by simp)]
          omega
        | false =>
          have hle := hroom hf
          rw [← hks] at hle
          rw [if_pos ⟨hks, rfl⟩]
          omega
      · rw [if_neg fun hx => hks hx.1, if_neg hks]
        omega
  · -- the position was there, or stands under the seller's key
    have hsec : ∀ sym, s.exch.securities.get? sym ≠ none → s'.exch.securities.get? sym ≠ none := by
      intro sym hx
      rw [hs.securities_eq, Dict.get?_modify]
      split_ifs with hsame
      · subst hsame
        simpa using hx
      · exact hx
    by_cases hold : s.exch.shorts.get? k = none
    · refine ⟨sell.traderId, sell.symbol, ?_, hs.seller_ok, hsec _ ?_⟩
      · by_contra hk
        have hnone : (saleShorts cfg sell t.qty fill.priceCents tick s.exch.shorts).get? k
            = none := by
          unfold saleShorts
          split_ifs
          · rw [Dict.get?_put, if_neg hk, hold]
          · exact hold
        rw [hs.shorts_eq] at hp
        unfold coverShorts at hp
        split_ifs at hp
        · rw [hnone] at hp
          cases hp
        · split at hp
          · rw [hnone] at hp
            cases hp
          · rename_i position hpos
            rw [Dict.get?_put] at hp
            split_ifs at hp with hkey
            · rw [← hkey, hnone] at hpos
              cases hpos
            · rw [hnone] at hp
              cases hp
      · rw [← hsym, hs.security_at]
        simp
    · obtain ⟨p₀, hp₀⟩ := Option.ne_none_iff_exists'.mp hold
      obtain ⟨traderId, symbol, hk, hn, hx⟩ := h.known k p₀ hp₀
      exact ⟨traderId, symbol, hk, hn, hsec _ hx⟩

theorem ShortInv.cancelled {orderId : String} {expired : Bool} {order : OrderState}
    (h : ShortInv s.exch) (hlocks : LocksOk s'.exch)
    (hc : Cancelled orderId expired order s s') : ShortInv s'.exch := by
  have hs : s'.exch.shorts = s.exch.shorts := by rw [hc.exch_eq, unreserve_eq]
  have hsec : s'.exch.securities = s.exch.securities := by rw [hc.exch_eq, unreserve_eq]
  obtain ⟨hrows, hreserve, hsales⟩ := h.rows.cancelled hc
  refine ⟨fun k => ?_, fun k p hp => ?_, hrows, fun k => ?_, fun k => ?_, hlocks,
    fun k p hp => ?_⟩
  · unfold shorted
    rw [hs, hc.held k]
    exact h.qty_eq k
  · exact h.status k p (hs ▸ hp)
  · have hle := h.sales k
    rw [hsales k, hc.kept k]
    omega
  · have hcov := h.covered k
    rw [hc.kept k, hc.held k]
    split_ifs
    · omega
    · omega
  · obtain ⟨traderId, symbol, hk, hn, hx⟩ := h.known k p (hs ▸ hp)
    exact ⟨traderId, symbol, hk, hn, by rw [hsec]; exact hx⟩

theorem ShortInv.placed {r : OrderRequest} {ordinal : Nat} {tick : Int} {reserved : Reservation}
    (h : ShortInv s.exch) (hlocks : LocksOk s'.exch)
    (hp : Placed r ordinal tick reserved s s') : ShortInv s'.exch := by
  have hs : s'.exch.shorts = s.exch.shorts := by
    rw [hp.exch_eq]
    dsimp only
    split_ifs <;> rfl
  have hsec : s'.exch.securities = s.exch.securities := by
    rw [hp.exch_eq]
    dsimp only
    split_ifs <;> rfl
  obtain ⟨hrows, hsales⟩ := h.rows.placed h.locks hp
  obtain ⟨-, hnonneg, hroom, -⟩ := hp.reserved h.locks
  refine ⟨fun k => ?_, fun k p hp' => ?_, hrows, fun k => ?_, fun k => ?_, hlocks,
    fun k p hp' => ?_⟩
  · unfold shorted
    rw [hs, hp.held k]
    exact h.qty_eq k
  · exact h.status k p (hs ▸ hp')
  · have hold : 0 ≤ s.exch.orders.weightAt (orderIdOf r.actionId) fun _ o => saleReserve k o := by
      unfold Dict.weightAt
      cases hg : s.exch.orders.get? (orderIdOf r.actionId) with
      | none => exact le_rfl
      | some o => exact saleReserve_nonneg (h.rows _ _ hg)
    have hle := h.sales k
    rw [hsales k, hp.kept k]
    omega
  · have hcov := h.covered k
    rw [hp.kept k, hp.held k]
    split_ifs with hk
    · by_cases hz : reserved.qty = 0
      · omega
      · have := hroom hz
        rw [← hk] at this
        omega
    · omega
  · obtain ⟨traderId, symbol, hk, hn, hx⟩ := h.known k p (hs ▸ hp')
    exact ⟨traderId, symbol, hk, hn, by rw [hsec]; exact hx⟩

theorem ShortInv.listed {symbol : String} {shares : Int} {allocation : Dict String Int}
    {x x' : ExchangeState} (h : ShortInv x) (hlocks : LocksOk x')
    (hl : Listed symbol shares allocation x x')
    (hq : ∀ k q, allocation.get? k = some q → 0 ≤ q)
    (hnames : x.securities.entries = [] ∨
      ∀ k q, allocation.get? k = some q → ':' ∉ k.toList) : ShortInv x' := by
  obtain ⟨security, -, hsec⟩ := hl.securities_eq
  have hrows : ∀ r ∈ allocation.sortedEntries, allocation.get? r.1 = some r.2 := fun r hr =>
    Dict.mem_entries_iff.mp ((Dict.sortedEntries_perm _).mem_iff.mp hr)
  have hadd : ∀ k, 0 ≤ (allocation.sortedEntries.map fun r =>
      if k = holdingKey r.1 symbol then r.2 else 0).sum := by
    intro k
    refine List.sum_nonneg fun y hy => ?_
    obtain ⟨r, hr, rfl⟩ := List.mem_map.mp hy
    split_ifs
    · exact hq r.1 r.2 (hrows r hr)
    · exact le_rfl
  -- no position stands under a key the listing writes
  have hapart : ∀ k p, x.shorts.get? k = some p → ∀ r ∈ allocation.sortedEntries,
      k ≠ holdingKey r.1 symbol := by
    intro k p hp r hr he
    obtain ⟨traderId, known, hk, hn, hx⟩ := h.known k p hp
    rcases hnames with hnil | hnames
    · have hempty : x.securities = ∅ := Dict.ext_entries hnil
      rw [hempty] at hx
      exact hx rfl
    · have hsame := (holdingKey_inj hn (hnames r.1 r.2 (hrows r hr)) (hk.symm.trans he)).2
      rw [hsame, hl.fresh] at hx
      exact hx rfl
  refine ⟨fun k => ?_, fun k p hp => ?_, fun k o ho => ?_, fun k => ?_, fun k => ?_, hlocks,
    fun k p hp => ?_⟩
  · have heq := h.qty_eq k
    have hsum := hadd k
    unfold shorted at heq ⊢
    rw [hl.shorts_eq, hl.held k]
    cases hp : x.shorts.get? k with
    | none =>
      rw [hp] at heq
      simp only [Option.elim_none] at heq ⊢
      omega
    | some p =>
      have hzero : (allocation.sortedEntries.map fun r =>
          if k = holdingKey r.1 symbol then r.2 else 0).sum = 0 := by
        refine List.sum_eq_zero fun y hy => ?_
        obtain ⟨r, hr, rfl⟩ := List.mem_map.mp hy
        rw [if_neg (hapart k p hp r hr)]
      rw [hp] at heq
      rw [hzero, add_zero]
      exact heq
  · rw [hl.shorts_eq] at hp
    exact h.status k p hp
  · rw [hl.orders_eq] at ho
    exact h.rows k o ho
  · rw [hl.orders_eq, hl.kept k]
    exact h.sales k
  · have hcov := h.covered k
    have hsum := hadd k
    rw [hl.kept k, hl.held k]
    omega
  · rw [hl.shorts_eq] at hp
    obtain ⟨traderId, known, hk, hn, hx⟩ := h.known k p hp
    refine ⟨traderId, known, hk, hn, ?_⟩
    rw [hsec, Dict.get?_put]
    split_ifs
    · simp
    · exact hx

theorem ShortInv.step (hstep : Step cfg false s s') (hgood : ∀ m ∈ s'.trail, ShortGood m)
    (h : ShortInv s.exch) : ShortInv s'.exch := by
  have hlocks := hstep.locksOk h.locks
  cases hstep with
  | quiet hq =>
    refine h.congr hq.orders_eq hq.shorts_eq (fun k => held_congr hq.holdings_eq k)
      (fun k => kept_congr hq.holdings_eq k) hlocks fun k hk hnone => hk ?_
    have hsame := hq.shares_eq k
    rw [hnone] at hsame
    exact Option.map_eq_none_iff.mp hsame.symm
  | @settled fill _ _ _ _ _ hok hs =>
    exact h.settled hok (hgood (.settle s.exch fill) (by rw [hs.trail_eq]; simp)) hlocks hs
  | cancelled hc => exact h.cancelled hlocks hc
  | turned ht =>
    have hx : s'.exch.shorts = s.exch.shorts ∧ s'.exch.securities = s.exch.securities := by
      rcases ht.exch_eq with hx | hx
      · rw [hx]; exact ⟨rfl, rfl⟩
      · rw [hx]; exact ⟨rfl, rfl⟩
    exact h.congr ht.orders_eq hx.1 ht.held ht.kept hlocks fun k hk => by rw [hx.2]; exact hk
  | indicated hi =>
    have hx := hi.exch_eq
    exact h.congr (by rw [hx]) (by rw [hx]) (fun k => held_congr (by rw [hx]) k)
      (fun k => kept_congr (by rw [hx]) k) hlocks fun k hk => by rw [hx]; exact hk
  | placed hp => exact h.placed hlocks hp
  | announced ha =>
    have hx := ha.exch_eq
    exact h.congr (by rw [hx]) (by rw [hx]) (fun k => held_congr (by rw [hx]) k)
      (fun k => kept_congr (by rw [hx]) k) hlocks fun k hk => by rw [hx]; exact hk
  | failed hf =>
    have he := hf.eq
    subst he
    exact h.congr rfl rfl (fun _ => rfl) (fun _ => rfl) hlocks fun _ hk => hk
  | @completed key _ _ hc =>
    obtain ⟨_, _, _, hl, hq⟩ := hc.listed
    have hx : ShortInv (withIpoStatus key .completed s.exch) :=
      h.congr rfl rfl (fun _ => rfl) (fun _ => rfl) h.locks fun _ hk => hk
    exact hx.listed hlocks hl (fun k q hk => (hq k q hk).1) (.inr fun k q hk => (hq k q hk).2)
  | listed hl _ _ hfrom =>
    rcases hfrom with hout | ⟨hnil, hq⟩
    · cases hout
    · exact h.listed hlocks hl hq (.inl hnil)
  | @called key deadline hx =>
    refine ⟨fun k => ?_, fun k p hp => ?_, fun k o ho => ?_, fun k => ?_, fun k => ?_, hlocks,
      fun k p hp => ?_⟩
    · have hheld : held s'.exch k = held s.exch k := held_congr (by rw [hx]) k
      rw [hheld, ← h.qty_eq k]
      unfold shorted
      rw [hx]
      dsimp only
      rw [Dict.get?_modify]
      split_ifs with hk
      · subst hk
        cases s.exch.shorts.get? k with
        | none => rfl
        | some p => rfl
      · rfl
    · rw [hx] at hp
      have hp : (s.exch.shorts.modify key _).get? k = some p := hp
      rw [Dict.get?_modify] at hp
      split_ifs at hp
      · obtain ⟨p₀, hp₀, rfl⟩ := Option.map_eq_some_iff.mp hp
        exact h.status key p₀ hp₀
      · exact h.status k p hp
    · rw [hx] at ho
      exact h.rows k o ho
    · rw [hx]
      exact h.sales k
    · rw [hx]
      exact h.covered k
    · rw [hx] at hp ⊢
      have hp : (s.exch.shorts.modify key _).get? k = some p := hp
      rw [Dict.get?_modify] at hp
      split_ifs at hp with hk
      · obtain ⟨p₀, hp₀, rfl⟩ := Option.map_eq_some_iff.mp hp
        exact hk ▸ h.known key p₀ hp₀
      · exact h.known k p hp

/-! ## Runs -/

theorem LongOnly.shortInv {x : ExchangeState} (h : LongOnly x) : ShortInv x := by
  have hs : x.shorts = ∅ := Dict.ext_entries h.shorts
  have hreserve := h.reserveInv
  refine ⟨fun k => ?_, fun k p hp => ?_, hreserve.rows, fun k => (hreserve.sales k).le,
    hreserve.covered, hreserve.locks, fun k p hp => ?_⟩
  · have := (h.counts k).1
    unfold shorted
    rw [hs]
    simp only [Dict.get?_empty, Option.elim_none]
    omega
  · rw [hs] at hp
    cases hp
  · rw [hs] at hp
    cases hp

/-- **The short book over whole runs**: it agrees with the holdings in every
state ticks reach, as long as no trader who owns shares sold short and no
covered position was opened again. -/
theorem short_book [Uuid5] {settings : Settings} {s₀ s : Sim} (h₀ : LongOnly s₀.exch)
    (hrun : Ticks settings s₀ s) (hgood : ∀ m ∈ s.trail, ShortGood m) : ShortLaw s.exch := by
  have hinv : ShortInv s.exch :=
    Steps.induction (fun _ _ => ShortInv.step) (hrun.steps h₀.keyed) hgood h₀.shortInv
  exact hinv.shortLaw

/-- A market in which "ag_a" owns every share of "S". -/
def ownedMarket [Uuid5] : EngineM Unit := do
  openMarket ["ag_a", "ag_b", "ag_c"] 1000
  ExchangeCall.run (.listSecurity "S" "fm_s" 1000 10 0 (Dict.ofList [("ag_a", 1000)]) none none)

/-- "ag_c" sells a share short. -/
def shortOnce : List (List ExchangeAction × Int) :=
  [([shortSale "c1" "ag_c" "S" 1 10 15, limitOrder "b1" "ag_b" "S" .buy 1 10], 9)]

/-- "ag_c" covers it with a share that "ag_a" sells short although it owns
some; then "ag_c" sells short again. -/
def shortAgain : List (List ExchangeAction × Int) :=
  shortOnce ++
    [([shortSale "a1" "ag_a" "S" 1 10 15, limitOrder "c2" "ag_c" "S" .buy 1 10], 10),
      ([shortSale "c3" "ag_c" "S" 1 10 15, limitOrder "b2" "ag_b" "S" .buy 1 10], 11)]

theorem short_book_opened :
    letI : Uuid5 := ⟨fun run name => run ++ name⟩
    ∃ s₀ s, Ticks ownedMarketCtx.settings s₀ s ∧ s.exch.shorts.keys = ["ag_c:S"] ∧
      ShortLaw s.exch := by
  let _ : Uuid5 := ⟨fun run name => run ++ name⟩
  have hmarket : outcome (ownedMarket emptySim) (fun s =>
      decide (s.exch.orders = ∅ ∧ s.exch.shorts = ∅ ∧ ∀ e ∈ s.exch.holdings.entries,
        0 ≤ e.2.qty ∧ e.2.reservedQty = 0 ∧ 0 ≤ e.2.lockedQty) &&
      (outcome (each (tickOf ownedMarketCtx) shortOnce s) fun s =>
        decide (s.exch.shorts.keys = ["ag_c:S"] ∧ ∀ m ∈ s.trail, ShortGood m))
          = some true) = some true := by decide +kernel
  obtain ⟨_, s₀, -, hboth⟩ := outcome_eq_some hmarket
  obtain ⟨hrows, hdays⟩ := Bool.and_eq_true_iff.mp hboth
  obtain ⟨_, s, hrun, hend⟩ := outcome_eq_some (of_decide_eq_true hdays)
  obtain ⟨hkeys, hgood⟩ := of_decide_eq_true hend
  have hs : Ticks ownedMarketCtx.settings s₀ s := Ticks.start.more rfl hrun
  exact ⟨s₀, s, hs, hkeys, short_book (.of_rows (of_decide_eq_true hrows)) hs hgood⟩

/-- Two ways out of the short book: "ag_a" holds 999 shares and has an open
position of one, "ag_c" is short of one share and its position is marked
covered. -/
theorem short_book_breaks :
    letI : Uuid5 := ⟨fun run name => run ++ name⟩
    ∃ s₀ s p, LongOnly s₀.exch ∧ Ticks ownedMarketCtx.settings s₀ s ∧
      shorted s.exch "ag_a:S" = 1 ∧ held s.exch "ag_a:S" = 999 ∧
      s.exch.shorts.get? "ag_c:S" = some p ∧ p.qty = 1 ∧ p.status = .covered ∧
      ¬ShortLaw s.exch := by
  let _ : Uuid5 := ⟨fun run name => run ++ name⟩
  have hmarket : outcome (ownedMarket emptySim) (fun s =>
      decide (s.exch.orders = ∅ ∧ s.exch.shorts = ∅ ∧ ∀ e ∈ s.exch.holdings.entries,
        0 ≤ e.2.qty ∧ e.2.reservedQty = 0 ∧ 0 ≤ e.2.lockedQty) &&
      (outcome (each (tickOf ownedMarketCtx) shortAgain s) fun s =>
        decide (shorted s.exch "ag_a:S" = 1 ∧ held s.exch "ag_a:S" = 999 ∧
          (s.exch.shorts.get? "ag_c:S").map (fun p => (p.qty, p.status)) = some (1, .covered)))
            = some true) = some true := by decide +kernel
  obtain ⟨_, s₀, -, hboth⟩ := outcome_eq_some hmarket
  obtain ⟨hrows, hdays⟩ := Bool.and_eq_true_iff.mp hboth
  obtain ⟨_, s, hrun, hend⟩ := outcome_eq_some (of_decide_eq_true hdays)
  obtain ⟨hopen, howned, hcovered⟩ := of_decide_eq_true hend
  obtain ⟨p, hp, hrow⟩ := Option.map_eq_some_iff.mp hcovered
  rw [Prod.mk.injEq] at hrow
  refine ⟨s₀, s, p, .of_rows (of_decide_eq_true hrows), Ticks.start.more rfl hrun, hopen, howned,
    hp, hrow.1, hrow.2, fun hlaw => ?_⟩
  have hq := (hlaw "ag_a" "S").1
  have hkey : holdingKey "ag_a" "S" = "ag_a:S" := by decide
  rw [holdingRow_qty, hkey, hopen, howned] at hq
  exact absurd hq (by decide)

end Polis.Economy.Exchange
