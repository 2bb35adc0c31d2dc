/-
  Polis.Economy.Exchange.SelfTrades — which orders continuous matching cancels
  (`_match_continuous` of `economy/exchange/engine.py`).

  Before it matches, the exchange cancels every order of the trader that
  `crosses` the incoming one.  The predicate compares prices only, so it also
  holds of orders of the same side and of other symbols.

  Main results:
    * `crossed_row` — the rows after the cancellations.
    * `self_trades_local` — the prevention is local exactly when every order it
      cancels stands on the other side of the same symbol.
-/
import Polis.Economy.Exchange.PartialFills

namespace Polis.Economy.Exchange

open Lib Lib.Effect Sim

section Local

variable [Uuid5] {ctx : Ctx} {s s' : Sim} {tick : Int}

/-! ## The cancellations -/

/-- The prevention gives an order up. -/
def givenUp (incoming o : OrderState) : Prop :=
  o.traderId = incoming.traderId ∧ crosses incoming o = true ∧ o.status.active = true

instance (incoming o : OrderState) : Decidable (givenUp incoming o) :=
  inferInstanceAs (Decidable (_ ∧ _))

omit [Uuid5] in
theorem not_givenUp_cancelled (incoming o : OrderState) (expired : Bool) :
    ¬givenUp incoming (cancelledRow expired o) := by
  intro h
  have hactive := h.2.2
  cases expired
  · simp [cancelledRow, OrderStatus.active] at hactive
  · simp [cancelledRow, OrderStatus.active] at hactive

theorem crossed_row {incoming : OrderState} {ids : List String} {events : List Event}
    (h : gather (fun restingId => do
      let o ← orderAt restingId
      if o.traderId = incoming.traderId ∧ crosses incoming o then
        cancel restingId tick "stp" false
      else pure []) ids s = .ok events s') (k : String) :
    s'.exch.orders.get? k = (s.exch.orders.get? k).map fun o =>
      if k ∈ ids ∧ givenUp incoming o then cancelledRow false o else o := by
  induction ids generalizing s events with
  | nil =>
    obtain ⟨-, rfl⟩ := pure_eq_ok.mp h
    simp
  | cons id ids ih =>
    obtain ⟨here, s₁, rest, h₁, h₂, -⟩ := gather_cons_eq_ok.mp h
    -- the row of the first id, and no other, may change
    have hone : s₁.exch.orders.get? k = (s.exch.orders.get? k).map fun o =>
        if k = id ∧ givenUp incoming o then cancelledRow false o else o := by
      obtain ⟨o, _, h₃, h₁⟩ := bind_eq_ok.mp h₁
      obtain ⟨ho, rfl⟩ := orderAt_eq_ok.mp h₃
      by_cases hk : k = id
      · subst hk
        rw [ho, Option.map_some]
        rcases ite_eq_ok.mp h₁ with ⟨hc, h₁⟩ | ⟨hc, h₁⟩
        · obtain ⟨order, hrow, hcase⟩ := cancel_cases h₁
          rw [ho] at hrow
          cases hrow
          rcases hcase with ⟨hactive, rfl⟩ | hcan
          · -- the order was not active, nothing is cancelled
            rw [ho, if_neg fun hg => hactive hg.2.2.2]
          · rw [hcan.order_get, if_pos rfl, if_pos ⟨rfl, hc.1, hc.2, hcan.active⟩]
        · obtain ⟨-, rfl⟩ := pure_eq_ok.mp h₁
          rw [ho, if_neg fun hg => hc ⟨hg.2.1, hg.2.2.1⟩]
      · simp only [hk, false_and, if_false, Option.map_id']
        rcases ite_eq_ok.mp h₁ with ⟨-, h₁⟩ | ⟨-, h₁⟩
        · rcases cancel_eq_ok h₁ with rfl | ⟨order, hcan⟩
          · rfl
          · rw [hcan.order_get, if_neg hk]
        · obtain ⟨-, rfl⟩ := pure_eq_ok.mp h₁
          rfl
    rw [ih h₂, hone, Option.map_map]
    congr 1
    funext o
    simp only [Function.comp_apply, List.mem_cons]
    by_cases hid : k = id ∧ givenUp incoming o
    · rw [if_pos hid, if_neg fun hg => not_givenUp_cancelled _ _ _ hg.2, if_pos ⟨.inl hid.1, hid.2⟩]
    · rw [if_neg hid]
      by_cases hin : k ∈ ids ∧ givenUp incoming o
      · rw [if_pos hin, if_pos ⟨.inr hin.1, hin.2⟩]
      · rw [if_neg hin, if_neg]
        rintro ⟨hk | hk, hg⟩
        · exact hid ⟨hk, hg⟩
        · exact hin ⟨hk, hg⟩

/-! ## The rest of the call -/

omit [Uuid5] in
theorem Settled.order_frame {cfg : ExchangeSettings} {fill : Fill} {buy sell : OrderState}
    {security : SecurityState} {t : Settlement}
    (h : Settled cfg fill tick buy sell security t s s') {k : String}
    (hk : k ≠ fill.buyOrderId ∧ k ≠ fill.sellOrderId) :
    s'.exch.orders.get? k = s.exch.orders.get? k := by
  rw [h.order_at, if_neg hk.1, if_neg hk.2]

theorem settleFills_frame {symbol : String} {stop : ExchangeState → Bool} {fills : List Fill}
    {events : List Event} {k : String} (hk : ∀ f ∈ fills, k ≠ f.buyOrderId ∧ k ≠ f.sellOrderId)
    (h : settleFills ctx symbol tick stop fills s = .ok events s') :
    s'.exch.orders.get? k = s.exch.orders.get? k := by
  induction fills generalizing s events with
  | nil =>
    obtain ⟨-, rfl⟩ := pure_eq_ok.mp h
    rfl
  | cons fill fills ih =>
    unfold settleFills at h
    obtain ⟨security, _, h₁, h⟩ := bind_eq_ok.mp h
    obtain ⟨-, rfl⟩ := securityAt_eq_ok.mp h₁
    rcases ite_eq_ok.mp h with ⟨-, h⟩ | ⟨-, h⟩
    · have hquiet := triggerBreaker_quiet ctx symbol tick _ _ _ _ h
      rw [hquiet.orders_eq]
    obtain ⟨settled, s₁, h₁, h⟩ := bind_eq_ok.mp h
    have hfirst : s₁.exch.orders.get? k = s.exch.orders.get? k := by
      rcases settle_eq_ok h₁ with rfl | ⟨buy, sell, security, t, hset⟩
      · rfl
      · exact hset.order_frame (hk fill List.mem_cons_self)
    obtain ⟨_, _, h₂, h⟩ := bind_eq_ok.mp h
    obtain ⟨rfl, rfl⟩ := exchangeNow_eq_ok.mp h₂
    rcases ite_eq_ok.mp h with ⟨-, h⟩ | ⟨-, h⟩
    · obtain ⟨-, rfl⟩ := pure_eq_ok.mp h
      exact hfirst
    · obtain ⟨rest, _, h₂, h⟩ := bind_eq_ok.mp h
      obtain ⟨-, rfl⟩ := pure_eq_ok.mp h
      rw [ih (fun f hf => hk f (List.mem_cons_of_mem _ hf)) h₂, hfirst]

theorem matchContinuous_rows {orderId : String} {incoming : OrderState} {events : List Event}
    (hk : Keyed s.exch) (hin : s.exch.orders.get? orderId = some incoming)
    (h : matchContinuous ctx orderId tick s = .ok events s') {k : String} {o : OrderState}
    (ho : s.exch.orders.get? k = some o) (hne : k ≠ orderId)
    (htrader : o.traderId = incoming.traderId) :
    s'.exch.orders.get? k =
      some (if o.submittedTick ≤ tick ∧ givenUp incoming o then cancelledRow false o else o) := by
  unfold matchContinuous at h
  obtain ⟨_, _, h₁, h⟩ := bind_eq_ok.mp h
  obtain ⟨hin', rfl⟩ := orderAt_eq_ok.mp h₁
  rw [hin] at hin'
  cases hin'
  obtain ⟨_, _, h₁, h⟩ := bind_eq_ok.mp h
  obtain ⟨-, rfl⟩ := securityAt_eq_ok.mp h₁
  obtain ⟨_, _, h₁, h⟩ := bind_eq_ok.mp h
  obtain ⟨rfl, rfl⟩ := exchangeNow_eq_ok.mp h₁
  obtain ⟨crossed, s₁, hcross, h⟩ := bind_eq_ok.mp h
  obtain ⟨_, _, h₁, h⟩ := bind_eq_ok.mp h
  obtain ⟨rfl, rfl⟩ := exchangeNow_eq_ok.mp h₁
  obtain ⟨now, _, h₁, h⟩ := bind_eq_ok.mp h
  obtain ⟨hnow, rfl⟩ := orderAt_eq_ok.mp h₁
  obtain ⟨settled, s₂, hset, hend⟩ := bind_eq_ok.mp h
  -- the orders that stand against the incoming one
  set ids := ((s.exch.orders.entries.filter fun e =>
    e.2.orderId ≠ orderId && e.2.submittedTick ≤ tick).map Prod.fst).insertionSort (· ≤ ·) with hids
  have hmem : ∀ {k : String} {o : OrderState}, s.exch.orders.get? k = some o →
      (k ∈ ids ↔ k ≠ orderId ∧ o.submittedTick ≤ tick) := by
    intro k o ho
    rw [hids, (List.perm_insertionSort _ _).mem_iff, List.mem_map]
    constructor
    · rintro ⟨e, he, rfl⟩
      obtain ⟨he, hc⟩ := List.mem_filter.mp he
      rw [Dict.mem_entries_iff.mp he] at ho
      cases ho
      simp only [Bool.and_eq_true, decide_eq_true_eq] at hc
      exact ⟨fun hid => hc.1 ((hk _ _ (Dict.mem_entries_iff.mp he)).trans hid), hc.2⟩
    · rintro ⟨hid, ht⟩
      refine ⟨(k, o), List.mem_filter.mpr ⟨Dict.mem_entries_iff.mpr ho, ?_⟩, rfl⟩
      simp only [Bool.and_eq_true, decide_eq_true_eq]
      exact ⟨fun h => hid ((hk _ _ ho).symm.trans h), ht⟩
  have hrow₁ := crossed_row hcross
  have hself : s₁.exch.orders.get? orderId = some incoming := by
    rw [hrow₁, hin, Option.map_some, if_neg fun hg => ((hmem hin).mp hg.1).1 rfl]
  rw [hself] at hnow
  cases hnow
  -- the matcher fills the incoming order and orders of other traders
  have hfills : ∀ f ∈ continuousMatches incoming (((s.exch.orders.entries.filter fun e =>
      e.2.orderId ≠ orderId && e.2.submittedTick ≤ tick).map Prod.fst).filterMap
        s₁.exch.orders.get?), k ≠ f.buyOrderId ∧ k ≠ f.sellOrderId := by
    intro f hf
    obtain ⟨r, hr, -, -, -, hother, hb, hs⟩ := continuousMatches_mem hf
    obtain ⟨id, -, hget⟩ := List.mem_filterMap.mp hr
    have hkr : k ≠ r.orderId := by
      intro heq
      rw [hrow₁] at hget
      obtain ⟨r₀, hg, hr₀⟩ := Option.map_eq_some_iff.mp hget
      -- a row keeps its id and its trader
      have hsame : r.orderId = r₀.orderId ∧ r.traderId = r₀.traderId := by
        subst hr₀
        split_ifs
        · exact ⟨rfl, rfl⟩
        · exact ⟨rfl, rfl⟩
      rw [heq, hsame.1, hk _ _ hg, hg] at ho
      cases ho
      exact hother (hsame.2.trans htrader)
    have hki : k ≠ incoming.orderId := by
      rw [hk _ _ hin]
      exact hne
    rw [hb, hs]
    constructor
    · split_ifs
      · exact hki
      · exact hkr
    · split_ifs
      · exact hki
      · exact hkr
  -- the market remainder of the incoming order is the only other cancellation
  have hlast : s'.exch.orders.get? k = s₂.exch.orders.get? k := by
    obtain ⟨now, _, h₂, hend⟩ := bind_eq_ok.mp hend
    obtain ⟨-, rfl⟩ := orderAt_eq_ok.mp h₂
    obtain ⟨unfilled, s₃, h₃, hend⟩ := bind_eq_ok.mp hend
    obtain ⟨snapshot, s₄, h₄, hend⟩ := bind_eq_ok.mp hend
    obtain ⟨-, rfl⟩ := pure_eq_ok.mp hend
    rw [(bookSnapshot_quiet _ tick _ _ _ h₄).orders_eq]
    rcases onlyIf_eq_ok.mp h₃ with ⟨-, h₃⟩ | ⟨-, -, rfl⟩
    · rcases cancel_eq_ok h₃ with rfl | ⟨order, hcan⟩
      · rfl
      · rw [hcan.order_get, if_neg hne]
    · rfl
  have hk₁ := hrow₁ k
  rw [ho, Option.map_some] at hk₁
  rw [hlast, settleFills_frame hfills hset, hk₁]
  simp only [hmem ho, hne, ne_eq, not_false_eq_true, true_and]

/-! ## Locality -/

/-- The order is of the symbol of the incoming one, on the other side. -/
def opposes (incoming o : OrderState) : Prop :=
  o.symbol = incoming.symbol ∧ o.side ≠ incoming.side

instance (incoming o : OrderState) : Decidable (opposes incoming o) :=
  inferInstanceAs (Decidable (_ ∧ _))

/-- **Self-trade prevention is local**: of the trader's other active orders
only such are cancelled as stand on the other side of the symbol and cross the
incoming order; the others keep their status, remainder and reservation. -/
structure StpLocal (orderId : String) (incoming : OrderState) (x x' : ExchangeState) : Prop where
  cancelled : ∀ k o, x.orders.get? k = some o → k ≠ orderId → o.traderId = incoming.traderId →
    o.status.active = true → ∀ o', x'.orders.get? k = some o' → o'.status = .cancelled →
      opposes incoming o ∧ crosses incoming o = true
  kept : ∀ k o, x.orders.get? k = some o → k ≠ orderId → o.traderId = incoming.traderId →
    o.status.active = true → ¬opposes incoming o → ∃ o', x'.orders.get? k = some o' ∧
      o'.status = o.status ∧ o'.remainingQty = o.remainingQty ∧
      o'.reservedCents = o.reservedCents ∧ o'.reservedQty = o.reservedQty

/-- What crosses the incoming order among the trader's other active orders
opposes it. -/
def CrossesOpposite (orderId : String) (incoming : OrderState) (tick : Int) (x : ExchangeState) :
    Prop :=
  ∀ k o, x.orders.get? k = some o → k ≠ orderId → o.submittedTick ≤ tick →
    givenUp incoming o → opposes incoming o

/-- **Self-trade prevention** is local exactly when every other active order of
the trader that crosses the incoming one stands on the other side of its
symbol. -/
theorem self_trades_local {orderId : String} {incoming : OrderState} {events : List Event}
    (hk : Keyed s.exch) (hin : s.exch.orders.get? orderId = some incoming)
    (h : matchContinuous ctx orderId tick s = .ok events s') :
    StpLocal orderId incoming s.exch s'.exch ↔ CrossesOpposite orderId incoming tick s.exch := by
  have hrows := fun {k o} => matchContinuous_rows (k := k) (o := o) hk hin h
  constructor
  · intro hlocal k o ho hne htick hg
    by_contra hnot
    -- the order is cancelled and would have to keep its status
    have hrow := hrows ho hne hg.1
    rw [if_pos ⟨htick, hg⟩] at hrow
    exact hnot (hlocal.cancelled k o ho hne hg.1 hg.2.2 _ hrow rfl).1
  · intro hcond
    refine ⟨?_, ?_⟩
    · intro k o ho hne htrader hactive o' ho' hstatus
      have hrow := hrows ho hne htrader
      rw [hrow] at ho'
      split_ifs at ho' with hg
      · exact ⟨hcond k o ho hne hg.1 hg.2, hg.2.2.1⟩
      · cases ho'
        rw [hstatus] at hactive
        exact absurd hactive (by decide)
    · intro k o ho hne htrader hactive hnot
      have hrow := hrows ho hne htrader
      rw [if_neg fun hg => hnot (hcond k o ho hne hg.1 hg.2)] at hrow
      exact ⟨o, hrow, rfl, rfl, rfl, rfl⟩

/-! ## Two bids of one trader -/

/-- The bids of `placeBids` stand, and matching the bid of an id returns. -/
def matchReturns (orderId : String) (check : Sim → Sim → Bool) : Bool :=
  outcome (placeBids mild emptySim) (fun s =>
    decide (∀ e ∈ s.exch.orders.entries, e.2.orderId = e.1) &&
    (outcome (matchContinuous { settings := mild, agents := ["ag_a", "ag_b"] } orderId 9 s)
      (check s)) = some true) = some true

theorem run_of_matchReturns {orderId : String} {check : Sim → Sim → Bool}
    (h : matchReturns orderId check = true) : ∃ s s' events, Keyed s.exch ∧
      matchContinuous { settings := mild, agents := ["ag_a", "ag_b"] } orderId 9 s
        = .ok events s' ∧ check s s' = true := by
  obtain ⟨_, s, -, hs⟩ := outcome_eq_some (of_decide_eq_true h)
  obtain ⟨hkeyed, hmatch⟩ := Bool.and_eq_true_iff.mp hs
  obtain ⟨events, s', hrun, hcheck⟩ := outcome_eq_some (of_decide_eq_true hmatch)
  refine ⟨s, s', events, fun k o hk => ?_, hrun, hcheck⟩
  exact of_decide_eq_true hkeyed (k, o) (Dict.mem_entries_iff.mpr hk)

end Local

/-- No order is given up for the bid at 8. -/
def bidsApart (s _s' : Sim) : Bool :=
  (s.exch.orders.get? (orderIdOf "b1")).any fun incoming =>
    decide (s.exch.orders.entries.length = 3 ∧ ∀ e ∈ s.exch.orders.entries,
      e.1 ≠ orderIdOf "b1" → ¬givenUp incoming e.2)

/-- The bid at 10 cancels the bid at 8. -/
def lowerCancelled (s s' : Sim) : Bool :=
  (s.exch.orders.get? (orderIdOf "b2")).any fun incoming =>
    (s.exch.orders.get? (orderIdOf "b1")).any fun o =>
      (s'.exch.orders.get? (orderIdOf "b1")).any fun o' =>
        decide (o.traderId = incoming.traderId ∧ o.status.active = true ∧
          o.side = incoming.side ∧ o'.status = .cancelled)

theorem self_trades_local_apart :
    letI : Uuid5 := ⟨fun run name => run ++ name⟩
    ∃ (s s' : Sim) (incoming : OrderState),
      s.exch.orders.get? (orderIdOf "b1") = some incoming ∧
      s.exch.orders.entries.length = 3 ∧ StpLocal (orderIdOf "b1") incoming s.exch s'.exch := by
  let _ : Uuid5 := ⟨fun run name => run ++ name⟩
  obtain ⟨s, s', events, hk, hrun, hcheck⟩ := run_of_matchReturns
    (show matchReturns (orderIdOf "b1") bidsApart = true by decide +kernel)
  obtain ⟨incoming, hin, hall⟩ := (Option.any_eq_true _ _).mp hcheck
  obtain ⟨hlen, hnone⟩ := of_decide_eq_true hall
  refine ⟨s, s', incoming, hin, hlen, (self_trades_local hk hin hrun).mpr ?_⟩
  intro k o ho hne _ hg
  exact absurd hg (hnone (k, o) (Dict.mem_entries_iff.mpr ho) hne)

/-- **A higher bid cancels the lower one** of the same trader, of the same side
of the same symbol. -/
theorem higher_bid_cancels_lower :
    letI : Uuid5 := ⟨fun run name => run ++ name⟩
    ∃ (s s' : Sim) (events : List Event) (incoming o : OrderState), Keyed s.exch ∧
      matchContinuous { settings := mild, agents := ["ag_a", "ag_b"] } (orderIdOf "b2") 9 s
        = .ok events s' ∧
      s.exch.orders.get? (orderIdOf "b2") = some incoming ∧
      s.exch.orders.get? (orderIdOf "b1") = some o ∧ o.side = incoming.side ∧
      ¬StpLocal (orderIdOf "b2") incoming s.exch s'.exch := by
  let _ : Uuid5 := ⟨fun run name => run ++ name⟩
  obtain ⟨s, s', events, hk, hrun, hcheck⟩ := run_of_matchReturns
    (show matchReturns (orderIdOf "b2") lowerCancelled = true by decide +kernel)
  obtain ⟨incoming, hin, hcheck⟩ := (Option.any_eq_true _ _).mp hcheck
  obtain ⟨o, ho, hcheck⟩ := (Option.any_eq_true _ _).mp hcheck
  obtain ⟨o', ho', hcheck⟩ := (Option.any_eq_true _ _).mp hcheck
  obtain ⟨htrader, hactive, hside, hstatus⟩ := of_decide_eq_true hcheck
  refine ⟨s, s', events, incoming, o, hk, hrun, hin, ho, hside, fun hlocal => ?_⟩
  have hopp := hlocal.cancelled _ o ho (by decide +kernel) htrader hactive o' ho' hstatus
  exact hopp.1.2 hside

end Polis.Economy.Exchange
