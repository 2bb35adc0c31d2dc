/-
  Polis.Economy.Exchange.Steps — the exchange as a transition system.

  A step is a settlement, a cancellation, a stored order, a listing, a margin
  call, or a change no invariant looks at.  An invariant of the exchange is
  proved step by step and then holds over every sequence of steps.

  Main results:
    * `Steps.induction` — what every step keeps, a sequence of steps keeps.
    * `Step.keyed`, `Settled.fillOk` — orders stay under their own ids, fills
      stay settleable.
    * `Step.outstanding` — a listed security keeps its shares outstanding.
-/
import Polis.Economy.Exchange.Offering
import Mathlib.Logic.Relation

namespace Polis.Economy.Exchange

open Lib Lib.Effect Sim Relation

/-! ## Steps -/

/-- Orders, holdings, positions and offerings stay; so do the shares
outstanding; payments touch no escrow. -/
structure Quiet (s s' : Sim) : Prop where
  orders_eq : s'.exch.orders = s.exch.orders
  holdings_eq : s'.exch.holdings = s.exch.holdings
  shorts_eq : s'.exch.shorts = s.exch.shorts
  ipos_eq : s'.exch.ipos = s.exch.ipos
  shares_eq : ∀ k, (s'.exch.securities.get? k).map SecurityState.sharesOutstanding
    = (s.exch.securities.get? k).map SecurityState.sharesOutstanding
  trail_eq : s'.trail = s.trail
  moved : ∃ ms, Moved ms s.books s'.books ∧ Drains (fun _ => 0) ms

theorem Quiet.refl (s : Sim) : Quiet s s :=
  ⟨rfl, rfl, rfl, rfl, fun _ => rfl, rfl, [], .refl _, .nil⟩

theorem Quiet.trans {s₁ s₂ s₃ : Sim} (h : Quiet s₁ s₂) (h' : Quiet s₂ s₃) : Quiet s₁ s₃ := by
  obtain ⟨ms, hm, hd⟩ := h.moved
  obtain ⟨ms', hm', hd'⟩ := h'.moved
  refine ⟨h'.orders_eq.trans h.orders_eq, h'.holdings_eq.trans h.holdings_eq,
    h'.shorts_eq.trans h.shorts_eq, h'.ipos_eq.trans h.ipos_eq,
    fun k => (h'.shares_eq k).trans (h.shares_eq k), h'.trail_eq.trans h.trail_eq,
    ms ++ ms', hm.trans hm', ?_⟩
  intro t
  rw [(hd.append hd') t, add_zero]

theorem Still.quiet {s s' : Sim} (h : Still s s') : Quiet s s' := by
  have hx := h.exch_eq
  exact ⟨by rw [hx], by rw [hx], by rw [hx], by rw [hx], fun k => by rw [hx], h.trail_eq, [],
    h.moved, .nil⟩

theorem quiet_modifySecurity (s : Sim) (symbol : String) (f : SecurityState → SecurityState)
    (hf : ∀ r, (f r).sharesOutstanding = r.sharesOutstanding) :
    Quiet s (s.putExch { s.exch with securities := s.exch.securities.modify symbol f }) := by
  refine ⟨rfl, rfl, rfl, rfl, fun k => ?_, rfl, [], .refl _, .nil⟩
  show ((s.exch.securities.modify symbol f).get? k).map _ = _
  rw [Dict.get?_modify]
  split_ifs with h
  · subst h
    cases s.exch.securities.get? k with
    | none => rfl
    | some r => simp only [Option.map_some, hf]
  · rfl

/-- Orders are stored under their own ids. -/
def Keyed (x : ExchangeState) : Prop := ∀ k o, x.orders.get? k = some o → o.orderId = k

/-- An order that can still be filled, or that has nothing left to fill. -/
def Fillable (o : OrderState) : Prop := o.status.active = true ∨ o.remainingQty ≤ 0

/-- A fill joins a buy and a sell of one security, neither of them cancelled. -/
def FillOk (x : ExchangeState) (fill : Fill) : Prop :=
  ∃ buy sell, x.orders.get? fill.buyOrderId = some buy ∧
    x.orders.get? fill.sellOrderId = some sell ∧ buy.side = .buy ∧ sell.side = .sell ∧
    buy.symbol = sell.symbol ∧ Fillable buy ∧ Fillable sell

/-- A step of the exchange; `outside` allows listings by other parts of the
program. -/
inductive Step (cfg : ExchangeSettings) (outside : Bool) (s s' : Sim) : Prop where
  | quiet (h : Quiet s s')
  | settled {fill : Fill} {tick : Int} {buy sell : OrderState} {security : SecurityState}
      {t : Settlement} (hok : FillOk s.exch fill)
      (h : Settled cfg fill tick buy sell security t s s')
  | cancelled {orderId : String} {expired : Bool} {order : OrderState}
      (h : Cancelled orderId expired order s s')
  | turned {r : OrderRequest} (h : Turned r s s')
      (hsec : ∃ security, s.exch.securities.get? r.symbol = some security)
  | indicated {r : OrderRequest} {key : String} {ipo : IpoState} (h : Indicated r key ipo s s')
  | placed {r : OrderRequest} {ordinal : Nat} {tick : Int} {reserved : Reservation}
      (h : Placed r ordinal tick reserved s s')
  | announced {ipoId : String} {ipo : IpoState} (h : Announced ipoId ipo s s')
  | failed {key : String} {ipo : IpoState} (h : Failed key ipo s s')
  | completed {key : String} {ipo : IpoState} (hannounced : ipo.status = .announced)
      (h : Completed key ipo s s')
  | listed {symbol : String} {shares : Int} {allocation : Dict String Int}
      (h : Listed symbol shares allocation s.exch s'.exch) (htrail : s'.trail = s.trail)
      (hbooks : s'.books = s.books)
      (hfrom : outside = true ∨ (s.exch.securities.entries = [] ∧
        ∀ k q, allocation.get? k = some q → 0 ≤ q))
  | called {key : String} {deadline : Int}
      (h : s'.exch = { s.exch with
        shorts := s.exch.shorts.modify key fun p => { p with marginDeadlineTick := some deadline } })
      (htrail : s'.trail = s.trail) (hbooks : s'.books = s.books)

/-- Any number of steps. -/
abbrev Steps (cfg : ExchangeSettings) (outside : Bool) : Sim → Sim → Prop :=
  ReflTransGen (Step cfg outside)

variable {cfg : ExchangeSettings} {outside : Bool} {s s' : Sim}

theorem Step.trail_prefix (h : Step cfg outside s s') : s.trail <+: s'.trail := by
  cases h with
  | quiet h => exact h.trail_eq ▸ List.prefix_rfl
  | settled _ h => exact h.trail_eq ▸ List.prefix_append _ _
  | cancelled h => exact h.trail_eq ▸ List.prefix_rfl
  | turned h => exact h.trail_eq ▸ List.prefix_rfl
  | indicated h => exact h.trail_eq ▸ List.prefix_rfl
  | placed h =>
    obtain ⟨x, ht, -⟩ := h.trail_eq
    exact ht ▸ List.prefix_append _ _
  | announced h => exact h.trail_eq ▸ List.prefix_append _ _
  | failed h => exact h.eq ▸ List.prefix_rfl
  | completed _ h => exact h.trail_eq ▸ List.prefix_rfl
  | listed _ ht => exact ht ▸ List.prefix_rfl
  | called _ ht => exact ht ▸ List.prefix_rfl

theorem Steps.induction {good : Mark → Prop} {I : Sim → Prop}
    (hstep : ∀ s s', Step cfg outside s s' → (∀ m ∈ s'.trail, good m) → I s → I s')
    (h : Steps cfg outside s s') (hgood : ∀ m ∈ s'.trail, good m) (hs : I s) : I s' := by
  induction h with
  | refl => exact hs
  | tail _ hlast ih =>
    exact hstep _ _ hlast hgood (ih fun m hm => hgood m (hlast.trail_prefix.subset hm))

/-! ## Keys -/

theorem Settled.order_at {fill : Fill} {tick : Int} {buy sell : OrderState}
    {security : SecurityState} {t : Settlement} (h : Settled cfg fill tick buy sell security t s s')
    (k : String) : s'.exch.orders.get? k =
      if k = fill.buyOrderId then some (buyAfter t buy)
      else if k = fill.sellOrderId then some (sellAfter t sell sell)
      else s.exch.orders.get? k := by
  have hne : fill.sellOrderId ≠ fill.buyOrderId := by
    intro he
    have hb := h.buy_at
    rw [← he, h.sell_at] at hb
    cases hb
    exact h.traders_ne rfl
  rw [h.orders_eq, Dict.get?_modify, Dict.get?_modify, Dict.get?_modify, h.buy_at, if_neg hne,
    h.sell_at]
  split_ifs with h₁ h₂ h₃
  · exact absurd (h₁.symm.trans h₂) hne
  · rfl
  · rfl
  · rfl

theorem Cancelled.order_get {orderId : String} {expired : Bool} {order : OrderState}
    (h : Cancelled orderId expired order s s') (k : String) : s'.exch.orders.get? k =
      if k = orderId then some (cancelledRow expired order) else s.exch.orders.get? k := by
  rw [h.exch_eq]
  show (s.exch.orders.modify _ _).get? k = _
  rw [Dict.get?_modify, h.order_at]
  rfl

theorem Placed.order_get {r : OrderRequest} {ordinal : Nat} {tick : Int} {reserved : Reservation}
    (h : Placed r ordinal tick reserved s s') (k : String) : s'.exch.orders.get? k =
      if k = orderIdOf r.actionId then some (orderRow r reserved ordinal tick)
      else s.exch.orders.get? k := by
  rw [h.exch_eq]
  exact Dict.get?_put _ _ _ _

theorem Turned.orders_eq {r : OrderRequest} (h : Turned r s s') :
    s'.exch.orders = s.exch.orders := by
  rcases h.exch_eq with hx | hx
  · rw [hx]
  · rw [hx]; rfl

theorem Step.keyed (h : Step cfg outside s s') (hk : Keyed s.exch) : Keyed s'.exch := by
  have keep : s'.exch.orders = s.exch.orders → Keyed s'.exch := by
    intro he k o ho
    exact hk k o (he ▸ ho)
  cases h with
  | quiet h => exact keep h.orders_eq
  | settled hok h =>
    intro k o ho
    rw [h.order_at k] at ho
    split_ifs at ho with h₁ h₂
    · cases ho
      exact (hk _ _ h.buy_at).trans h₁.symm
    · cases ho
      exact (hk _ _ h.sell_at).trans h₂.symm
    · exact hk k o ho
  | cancelled h =>
    intro k o ho
    rw [h.order_get k] at ho
    split_ifs at ho with h₁
    · cases ho
      exact (hk _ _ h.order_at).trans h₁.symm
    · exact hk k o ho
  | turned h => exact keep h.orders_eq
  | indicated h => exact keep (by rw [h.exch_eq])
  | placed h =>
    intro k o ho
    rw [h.order_get k] at ho
    split_ifs at ho with h₁
    · cases ho
      exact h₁.symm
    · exact hk k o ho
  | announced h => exact keep (by rw [h.exch_eq])
  | failed h => exact keep (by rw [h.eq]; rfl)
  | completed _ h =>
    obtain ⟨_, _, _, hl, -⟩ := h.listed
    exact keep hl.orders_eq
  | listed h => exact keep h.orders_eq
  | called h => exact keep (by rw [h])

theorem Steps.keyed (h : Steps cfg outside s s') (hk : Keyed s.exch) : Keyed s'.exch := by
  induction h with
  | refl => exact hk
  | tail _ hlast ih => exact hlast.keyed ih

/-! ## Listed securities -/

theorem Step.outstanding (h : Step cfg outside s s') {a : String} {shares : Int}
    (ha : (s.exch.securities.get? a).map SecurityState.sharesOutstanding = some shares) :
    (s'.exch.securities.get? a).map SecurityState.sharesOutstanding = some shares := by
  have listed : ∀ {symbol : String} {n : Int} {allocation : Dict String Int} {x x' : ExchangeState},
      Listed symbol n allocation x x' →
      (x.securities.get? a).map SecurityState.sharesOutstanding = some shares →
      (x'.securities.get? a).map SecurityState.sharesOutstanding = some shares := by
    intro symbol n allocation x x' hl hx
    obtain ⟨security, -, hsec⟩ := hl.securities_eq
    rw [hsec, Dict.get?_put]
    split_ifs with hsame
    · rw [hsame, hl.fresh] at hx
      cases hx
    · exact hx
  cases h with
  | quiet h => rw [h.shares_eq a]; exact ha
  | settled _ h =>
    rw [h.securities_eq, Dict.get?_modify]
    split_ifs with hsame
    · rw [← hsame, Option.map_map]
      exact ha
    · exact ha
  | cancelled h =>
    rw [h.exch_eq, unreserve_eq]
    exact ha
  | turned h =>
    rcases h.exch_eq with hx | hx
    · rw [hx]; exact ha
    · rw [hx]; exact ha
  | indicated h => rw [h.exch_eq]; exact ha
  | placed h =>
    rw [h.exch_eq]
    dsimp only
    split_ifs
    · exact ha
    · exact ha
  | announced h => rw [h.exch_eq]; exact ha
  | failed h => rw [h.eq]; exact ha
  | completed _ h =>
    obtain ⟨_, _, _, hl, -⟩ := h.listed
    exact listed hl ha
  | listed h => exact listed h ha
  | called h => rw [h]; exact ha

theorem Step.known (h : Step cfg outside s s') {a : String}
    (ha : s.exch.securities.get? a ≠ none) : s'.exch.securities.get? a ≠ none := by
  obtain ⟨security, hsec⟩ := Option.ne_none_iff_exists'.mp ha
  have hshares : (s.exch.securities.get? a).map SecurityState.sharesOutstanding
      = some security.sharesOutstanding := by rw [hsec]; rfl
  have := h.outstanding hshares
  intro hnone
  rw [hnone] at this
  cases this

/-! ## Fills stay settleable -/

theorem closeFill_fillable (o : OrderState) : Fillable (closeFill o) := by
  unfold Fillable closeFill
  by_cases h : o.remainingQty = 0
  · exact .inr h.le
  · rw [if_neg h]
    exact .inl rfl

theorem Settled.fillOk {fill : Fill} {tick : Int} {buy sell : OrderState}
    {security : SecurityState} {t : Settlement} (h : Settled cfg fill tick buy sell security t s s')
    {other : Fill} (hok : FillOk s.exch other) : FillOk s'.exch other := by
  -- a row keeps its side and symbol, and stays fillable
  have row : ∀ k o, s.exch.orders.get? k = some o → Fillable o →
      ∃ o', s'.exch.orders.get? k = some o' ∧ o'.side = o.side ∧ o'.symbol = o.symbol ∧
        Fillable o' := by
    intro k o ho hf
    rw [h.order_at k]
    split_ifs with h₁ h₂
    · subst h₁
      rw [h.buy_at] at ho
      cases ho
      exact ⟨_, rfl, rfl, rfl, closeFill_fillable _⟩
    · subst h₂
      rw [h.sell_at] at ho
      cases ho
      exact ⟨_, rfl, rfl, rfl, closeFill_fillable _⟩
    · exact ⟨o, ho, rfl, rfl, hf⟩
  obtain ⟨b, c, hb, hc, hsb, hsc, hsym, hfb, hfc⟩ := hok
  obtain ⟨b', hb', hsb', hyb', hfb'⟩ := row _ b hb hfb
  obtain ⟨c', hc', hsc', hyc', hfc'⟩ := row _ c hc hfc
  exact ⟨b', c', hb', hc', hsb'.trans hsb, hsc'.trans hsc, by rw [hyb', hyc', hsym], hfb', hfc'⟩

/-! ## Quiet methods -/

theorem emit_quiet {tick : Int} {kind : EventKind} {payload : List (String × Value)}
    {actorId : Option String} {subjectIds : List String} :
    Within Quiet (emit tick kind payload actorId subjectIds) :=
  fun _ _ _ h => (emit_still h).quiet

theorem securityAt_quiet (symbol : String) : Within Quiet (securityAt symbol) := by
  intro s r s' h
  obtain ⟨-, rfl⟩ := securityAt_eq_ok.mp h
  exact .refl s

theorem exchangeNow_quiet : Within Quiet exchangeNow := by
  intro s r s' h
  obtain ⟨-, rfl⟩ := exchangeNow_eq_ok.mp h
  exact .refl s

theorem modifySecurity_quiet (symbol : String) {f : SecurityState → SecurityState}
    (hf : ∀ r, (f r).sharesOutstanding = r.sharesOutstanding) :
    Within Quiet (modifySecurity symbol f) := by
  intro s r s' h
  obtain rfl := modifySecurity_eq_ok.mp h
  exact quiet_modifySecurity s symbol f hf

theorem modifyExchange_quiet {f : ExchangeState → ExchangeState}
    (ho : ∀ x, (f x).orders = x.orders) (hh : ∀ x, (f x).holdings = x.holdings)
    (hs : ∀ x, (f x).shorts = x.shorts) (hi : ∀ x, (f x).ipos = x.ipos)
    (hc : ∀ x k, ((f x).securities.get? k).map SecurityState.sharesOutstanding
      = (x.securities.get? k).map SecurityState.sharesOutstanding) :
    Within Quiet (modifyExchange f) := by
  intro s r s' h
  obtain rfl := modifyExchange_eq_ok.mp h
  exact ⟨ho _, hh _, hs _, hi _, hc _, rfl, [], .refl _, .nil⟩

section Quietly

variable {α β : Type}

theorem quiet_bind {x : EngineM α} {f : α → EngineM β} (hx : Within Quiet x)
    (hf : ∀ a, Within Quiet (f a)) : Within Quiet (x >>= f) :=
  within_bind (fun _ _ _ h h' => h.trans h') hx hf

theorem quiet_pure (a : α) : Within Quiet (pure a : EngineM α) := within_pure Quiet.refl a

theorem quiet_gather {f : α → EngineM (List β)} {xs : List α}
    (hf : ∀ x ∈ xs, Within Quiet (f x)) : Within Quiet (gather f xs) :=
  within_gather Quiet.refl (fun _ _ _ h h' => h.trans h') hf

end Quietly

variable (ctx : Ctx)

theorem openSession_quiet (tick : Int) : Within Quiet (openSession tick) := by
  unfold openSession
  refine quiet_bind (modifyExchange_quiet (fun _ => rfl) (fun _ => rfl) (fun _ => rfl)
    (fun _ => rfl) fun x k => ?_) fun _ => quiet_bind exchangeNow_quiet fun _ => emit_quiet
  show ((x.securities.mapValues _).get? k).map _ = _
  rw [Dict.get?_mapValues, Option.map_map]
  rfl

theorem marketData_quiet (symbol : String) (tick : Int) : Within Quiet (marketData symbol tick) := by
  unfold marketData
  refine quiet_bind (securityAt_quiet symbol) fun _ => quiet_bind exchangeNow_quiet fun _ => ?_
  refine quiet_bind (modifyExchange_quiet (fun _ => rfl) (fun _ => rfl) (fun _ => rfl)
    (fun _ => rfl) fun _ _ => rfl) fun _ => ?_
  exact quiet_bind emit_quiet fun _ => quiet_pure _

theorem computeIndex_quiet (tick : Int) : Within Quiet (computeIndex tick) := by
  unfold computeIndex
  refine quiet_bind exchangeNow_quiet fun x => within_ite (quiet_pure _) ?_
  refine quiet_bind (modifyExchange_quiet (fun _ => rfl) (fun _ => rfl) (fun _ => rfl)
    (fun _ => rfl) fun _ _ => rfl) fun _ => ?_
  exact quiet_bind emit_quiet fun _ => quiet_pure _

theorem bookSnapshot_quiet (symbol : String) (tick : Int) :
    Within Quiet (bookSnapshot symbol tick) := by
  unfold bookSnapshot
  exact quiet_bind exchangeNow_quiet fun _ => emit_quiet

theorem triggerBreaker_quiet (symbol : String) (tick price : Int) :
    Within Quiet (triggerBreaker ctx symbol tick price) := by
  unfold triggerBreaker
  refine quiet_bind (modifySecurity_quiet symbol fun _ => rfl) fun _ => ?_
  refine quiet_bind (securityAt_quiet symbol) fun _ => ?_
  exact quiet_bind emit_quiet fun _ => quiet_pure _

theorem resumeHalts_quiet (tick : Int) : Within Quiet (resumeHalts ctx tick) := by
  unfold resumeHalts
  refine quiet_bind exchangeNow_quiet fun x => quiet_gather fun symbol _ => ?_
  refine quiet_bind (securityAt_quiet symbol) fun _ => within_ite (quiet_pure _) ?_
  refine quiet_bind (modifySecurity_quiet symbol fun _ => rfl) fun _ => ?_
  exact quiet_bind emit_quiet fun _ => quiet_pure _

theorem resetIndexDivisor_quiet : Within Quiet (modifyExchange resetIndexDivisor) := by
  intro s r s' h
  obtain rfl := modifyExchange_eq_ok.mp h
  obtain ⟨divisor, hd⟩ := resetIndexDivisor_eq s.exch
  rw [hd]
  exact ⟨rfl, rfl, rfl, rfl, fun _ => rfl, rfl, [], .refl _, .nil⟩

theorem borrowFeeLegs_eq_ok {L : Ledger} {source : AccountId} (hs : source.code = .dep)
    {rows : List (String × Int)} {legs : List Leg} (h : borrowFeeLegs L source rows = .ok legs) :
    ∃ ms, Pays ms legs ∧ ∀ m ∈ ms, m.src.code = .dep ∧ m.dst.code = .dep := by
  induction rows generalizing legs with
  | nil =>
    cases h
    exact ⟨[], .nil, fun m hm => absurd hm List.not_mem_nil⟩
  | cons row rows ih =>
    obtain ⟨here, h₁, h⟩ := except_bind_eq_ok.mp h
    obtain ⟨others, h₂, h⟩ := except_bind_eq_ok.mp h
    cases h
    obtain ⟨ms', hp', hd'⟩ := ih h₂
    have hhere : ∃ ms, Pays ms here ∧ ∀ m ∈ ms, m.src.code = .dep ∧ m.dst.code = .dep := by
      unfold legsIf at h₁
      split_ifs at h₁
      · obtain ⟨deposit, hd, h₁⟩ := except_bind_eq_ok.mp h₁
        refine ⟨_, .single h₁, fun m hm => ?_⟩
        rw [List.mem_singleton] at hm
        subst hm
        exact ⟨hs, (depositAccount_eq_ok hd).1⟩
      · cases h₁
        exact ⟨[], .nil, fun m hm => absurd hm List.not_mem_nil⟩
    obtain ⟨ms, hp, hd⟩ := hhere
    refine ⟨_, hp.append hp', fun m hm => ?_⟩
    rcases List.mem_append.mp hm with hm | hm
    · exact hd m hm
    · exact hd' m hm

theorem borrowFee_quiet [Uuid5] (position : ShortPositionState) (mark tick : Int) :
    Within Quiet (borrowFee ctx position mark tick) := by
  intro s events s' h
  unfold borrowFee at h
  rcases ite_eq_ok.mp h with ⟨-, h⟩ | ⟨-, h⟩
  · obtain ⟨_, _, h₁, h⟩ := bind_eq_ok.mp h
    obtain ⟨rfl, rfl⟩ := exchangeNow_eq_ok.mp h₁
    obtain ⟨_, _, h₁, h⟩ := bind_eq_ok.mp h
    obtain ⟨rfl, rfl⟩ := ledgerNow_eq_ok.mp h₁
    obtain ⟨source, _, h₁, h⟩ := bind_eq_ok.mp h
    obtain ⟨hs, rfl⟩ := liftE_eq_ok.mp h₁
    obtain ⟨available, _, h₁, h⟩ := bind_eq_ok.mp h
    obtain ⟨-, rfl⟩ := liftE_eq_ok.mp h₁
    rcases ite_eq_ok.mp h with ⟨-, h⟩ | ⟨-, h⟩
    · obtain ⟨distribution, _, h₁, h⟩ := bind_eq_ok.mp h
      obtain ⟨-, rfl⟩ := liftE_eq_ok.mp h₁
      obtain ⟨legs, _, h₁, h⟩ := bind_eq_ok.mp h
      obtain ⟨hl, rfl⟩ := liftE_eq_ok.mp h₁
      obtain ⟨expected, _, h₁, h⟩ := bind_eq_ok.mp h
      obtain ⟨L₁, hL₁, rfl⟩ := onLedger_eq_ok.mp h₁
      obtain ⟨event, _, h₁, h⟩ := bind_eq_ok.mp h
      obtain ⟨log, rfl⟩ := emit_eq_ok h₁
      obtain ⟨txn, _, h₁, h⟩ := bind_eq_ok.mp h
      obtain ⟨L₂, hL₂, rfl⟩ := post_eq_ok h₁
      obtain ⟨_, _, h₁, h⟩ := bind_eq_ok.mp h
      obtain ⟨-, rfl⟩ := require_eq_ok.mp h₁
      obtain ⟨-, rfl⟩ := pure_eq_ok.mp h
      obtain ⟨ms, hp, hd⟩ := borrowFeeLegs_eq_ok (depositAccount_eq_ok hs).1 hl
      exact ⟨rfl, rfl, rfl, rfl, fun _ => rfl, rfl, [] ++ ms,
        (Moved.nextTxnId hL₁).trans (.coalesced hp hL₂), drains_deposits hd⟩
    · obtain ⟨-, rfl⟩ := pure_eq_ok.mp h
      exact .refl _
  · obtain ⟨-, rfl⟩ := pure_eq_ok.mp h
    exact .refl _

end Polis.Economy.Exchange
