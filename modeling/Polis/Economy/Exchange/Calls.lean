/-
  Polis.Economy.Exchange.Calls — every call of the exchange is a sequence of
  steps.

  Main results:
    * `resolve_goes`, `delist_goes`, `cancelEntity_goes`, `listSecurity_goes`
      — a returning call takes steps.
    * `Run.steps` — a run of calls takes steps.
-/
import Polis.Economy.Exchange.Steps

namespace Polis.Economy.Exchange

open Lib Lib.Effect Sim Relation

variable {cfg : ExchangeSettings} {outside : Bool}

/-- From orders stored under their own ids, steps lead from `s` to `s'`. -/
def Goes (cfg : ExchangeSettings) (outside : Bool) (s s' : Sim) : Prop :=
  Keyed s.exch → Steps cfg outside s s'

theorem Goes.refl (s : Sim) : Goes cfg outside s s := fun _ => .refl

theorem Goes.trans {s₁ s₂ s₃ : Sim} (h : Goes cfg outside s₁ s₂) (h' : Goes cfg outside s₂ s₃) :
    Goes cfg outside s₁ s₃ :=
  fun hk => (h hk).trans (h' ((h hk).keyed hk))

theorem Step.goes {s s' : Sim} (h : Step cfg outside s s') : Goes cfg outside s s' :=
  fun _ => .single h

theorem Quiet.goes {s s' : Sim} (h : Quiet s s') : Goes cfg outside s s' := (Step.quiet h).goes

section Rules

variable {α β : Type}

theorem goes_bind {x : EngineM α} {f : α → EngineM β} (hx : Within (Goes cfg outside) x)
    (hf : ∀ a, Within (Goes cfg outside) (f a)) : Within (Goes cfg outside) (x >>= f) :=
  within_bind (fun _ _ _ h h' => h.trans h') hx hf

theorem goes_pure (a : α) : Within (Goes cfg outside) (pure a : EngineM α) := within_pure Goes.refl a

theorem goes_gather {f : α → EngineM (List β)} {xs : List α}
    (hf : ∀ x ∈ xs, Within (Goes cfg outside) (f x)) : Within (Goes cfg outside) (gather f xs) :=
  within_gather Goes.refl (fun _ _ _ h h' => h.trans h') hf

theorem goes_onlyIf {c : Prop} [Decidable c] {x : EngineM (List β)}
    (hx : c → Within (Goes cfg outside) x) : Within (Goes cfg outside) (onlyIf c x) :=
  within_onlyIf Goes.refl hx

theorem goes_quiet {x : EngineM α} (h : Within Quiet x) : Within (Goes cfg outside) x :=
  h.mono fun _ _ => Quiet.goes

theorem orderAt_goes (orderId : String) : Within (Goes cfg outside) (orderAt orderId) := by
  intro s o s' h
  obtain ⟨-, rfl⟩ := orderAt_eq_ok.mp h
  exact .refl s

theorem orRaise_goes (o : Option α) (e : PyError) :
    Within (Goes cfg outside) (orRaise o e : EngineM α) :=
  within_orRaise Goes.refl o e

end Rules

/-! ## Listings and offerings -/

theorem listSecurity_goes (symbol issuerFirmId : String) (shares price tick : Int)
    (holders : Dict String Int) (ipoRoundId : Option String) (lockup : Option Int) :
    Within (Goes cfg true)
      (listSecurity symbol issuerFirmId shares price tick holders ipoRoundId lockup) := by
  intro s events s' h
  obtain ⟨⟨allocation, -, hl⟩, ht, hb⟩ := listSecurity_eq_ok h
  exact (Step.listed hl ht hb (.inl rfl)).goes

theorem bootstrapListing_goes (ctx : Ctx) (tick : Int) :
    Within (Goes cfg outside) (bootstrapListing ctx tick) := by
  intro s events s' h
  unfold bootstrapListing at h
  obtain ⟨_, _, h₁, h⟩ := bind_eq_ok.mp h
  obtain ⟨rfl, rfl⟩ := economyNow_eq_ok.mp h₁
  cases hday : ctx.settings.exchange.bootstrapListingDay with
  | none =>
    rw [hday] at h
    obtain ⟨-, rfl⟩ := pure_eq_ok.mp h
    exact .refl s
  | some day =>
    rw [hday] at h
    rcases ite_eq_ok.mp h with ⟨-, h⟩ | ⟨hc, h⟩
    · obtain ⟨-, rfl⟩ := pure_eq_ok.mp h
      exact .refl s
    rw [not_or, not_not, not_not] at hc
    generalize List.find? _ (sortedBy FirmState.firmId s.economy.firms.values) = found at h
    cases found with
    | none =>
      obtain ⟨-, rfl⟩ := pure_eq_ok.mp h
      exact .refl s
    | some firm =>
      obtain ⟨⟨allocation, hi, hl⟩, ht, hb⟩ := listSecurity_eq_ok h
      refine (Step.listed hl ht hb (.inr ⟨hc.2, fun k q hk => ?_⟩)).goes
      unfold initialHolders at hi
      rw [if_neg (Dict.put_entries_ne_nil _ _ _)] at hi
      rw [← Except.ok.inj hi, Dict.get?_put] at hk
      have hshares := ctx.settings.exchange.bootstrap_pos.1
      split_ifs at hk with hf
      · rw [Option.some.injEq] at hk
        omega
      · cases hk

section

variable [Uuid5] (ctx : Ctx)

theorem closeIpos_goes (tick : Int) : Within (Goes cfg outside) (closeIpos ctx tick) := by
  unfold closeIpos
  refine goes_bind (goes_quiet exchangeNow_quiet) fun x => goes_gather fun key _ => ?_
  intro s events s' h
  obtain ⟨_, _, h₁, h⟩ := bind_eq_ok.mp h
  obtain ⟨rfl, rfl⟩ := exchangeNow_eq_ok.mp h₁
  obtain ⟨ipo, _, h₁, h⟩ := bind_eq_ok.mp h
  obtain ⟨hipo, rfl⟩ := orRaise_eq_ok.mp h₁
  rcases ite_eq_ok.mp h with ⟨-, h⟩ | ⟨hc, h⟩
  · obtain ⟨-, rfl⟩ := pure_eq_ok.mp h
    exact .refl _
  rw [not_or, not_not] at hc
  obtain ⟨ipo', hf | hcomp⟩ := completeIpo_eq_ok h
  · exact (Step.failed hf).goes
  · have hsame := hcomp.ipo_at
    rw [hipo] at hsame
    cases hsame
    exact (Step.completed hc.1 hcomp).goes

/-! ## Cancellations -/

theorem cancel_goes (orderId : String) (tick : Int) (initiator : String) (expired : Bool) :
    Within (Goes cfg outside) (cancel orderId tick initiator expired) := by
  intro s events s' h
  rcases cancel_eq_ok h with rfl | ⟨order, hc⟩
  · exact .refl _
  · exact (Step.cancelled hc).goes

theorem cancelAction_goes (actorId : String) (p : CancelOrderParams) (tick : Int) :
    Within (Goes cfg outside) (cancelAction actorId p tick) := by
  unfold cancelAction
  refine goes_bind (goes_quiet exchangeNow_quiet) fun x => ?_
  split
  · exact goes_pure _
  · exact within_ite (goes_pure _) (cancel_goes _ _ _ _)

theorem delist_goes (symbol reason : String) (tick : Int) :
    Within (Goes cfg outside) (delist symbol reason tick) := by
  unfold delist
  refine goes_bind (goes_quiet (securityAt_quiet symbol)) fun _ => ?_
  refine goes_bind (goes_quiet exchangeNow_quiet) fun x => ?_
  refine goes_bind (goes_gather fun orderId _ => ?_) fun cancelled => ?_
  · refine goes_bind (orderAt_goes orderId) fun o => ?_
    exact within_ite (cancel_goes _ _ _ _) (goes_pure _)
  refine goes_bind (goes_quiet (modifySecurity_quiet symbol fun _ => rfl)) fun _ => ?_
  refine goes_bind (goes_quiet (securityAt_quiet symbol)) fun _ => ?_
  refine goes_bind (goes_quiet exchangeNow_quiet) fun _ => ?_
  refine goes_bind (goes_quiet emit_quiet) fun _ => ?_
  exact goes_bind (goes_quiet resetIndexDivisor_quiet) fun _ => goes_pure _

theorem cancelEntity_goes (entityId : String) (tick : Int) (initiator : String) :
    Within (Goes cfg outside) (cancelEntity entityId tick initiator) := by
  unfold cancelEntity
  refine goes_bind (goes_quiet exchangeNow_quiet) fun x => ?_
  refine goes_bind (within_foldEff Goes.refl (fun _ _ _ h h' => h.trans h')
    (fun acc orderId _ => ?_) _) fun _ => goes_pure _
  refine goes_bind (orderAt_goes orderId) fun o => within_ite (goes_pure _) ?_
  exact goes_bind (cancel_goes _ _ _ _) fun _ => goes_pure _

theorem cancelSelfCrosses_goes (symbol : String) (tick : Int) (rounds : Nat) :
    Within (Goes cfg outside) (cancelSelfCrosses symbol tick rounds) := by
  induction rounds with
  | zero => exact goes_pure _
  | succ rounds ih =>
    unfold cancelSelfCrosses
    refine goes_bind (goes_quiet exchangeNow_quiet) fun x => ?_
    split
    · exact goes_pure _
    · exact goes_bind (cancel_goes _ _ _ _) fun _ => goes_bind ih fun _ => goes_pure _

/-! ## Matching -/

theorem settleFills_goes {symbol : String} {tick : Int} {stop : ExchangeState → Bool}
    {fills : List Fill} {s s' : Sim} {events : List Event} (hok : ∀ f ∈ fills, FillOk s.exch f)
    (h : settleFills ctx symbol tick stop fills s = .ok events s') :
    Steps ctx.settings.exchange outside s s' := by
  induction fills generalizing s events with
  | nil =>
    obtain ⟨-, rfl⟩ := pure_eq_ok.mp h
    exact .refl
  | cons fill fills ih =>
    unfold settleFills at h
    obtain ⟨security, _, h₁, h⟩ := bind_eq_ok.mp h
    obtain ⟨-, rfl⟩ := securityAt_eq_ok.mp h₁
    rcases ite_eq_ok.mp h with ⟨-, h⟩ | ⟨-, h⟩
    · exact .single (.quiet (triggerBreaker_quiet ctx symbol tick _ _ _ _ h))
    obtain ⟨settled, s₁, h₁, h⟩ := bind_eq_ok.mp h
    -- the first fill, which leaves the others settleable
    have hfirst : Steps ctx.settings.exchange outside s s₁ ∧ ∀ f ∈ fills, FillOk s₁.exch f := by
      rcases settle_eq_ok h₁ with rfl | ⟨buy, sell, security, t, hset⟩
      · exact ⟨.refl, fun f hf => hok f (List.mem_cons_of_mem _ hf)⟩
      · exact ⟨.single (.settled (hok fill List.mem_cons_self) hset),
          fun f hf => hset.fillOk (hok f (List.mem_cons_of_mem _ hf))⟩
    obtain ⟨_, _, h₂, h⟩ := bind_eq_ok.mp h
    obtain ⟨rfl, rfl⟩ := exchangeNow_eq_ok.mp h₂
    rcases ite_eq_ok.mp h with ⟨-, h⟩ | ⟨-, h⟩
    · obtain ⟨-, rfl⟩ := pure_eq_ok.mp h
      exact hfirst.1
    · obtain ⟨rest, _, h₂, h⟩ := bind_eq_ok.mp h
      obtain ⟨-, rfl⟩ := pure_eq_ok.mp h
      exact hfirst.1.trans (ih hfirst.2 h₂)

omit [Uuid5] in
theorem callAuction_fillOk {x : ExchangeState} (hk : Keyed x) {symbol : String} {prevClose : Int}
    {fill : Fill} (h : fill ∈ callAuction
      (x.orders.values.filter fun o => o.symbol = symbol && o.status.active) prevClose) :
    FillOk x fill := by
  obtain ⟨bid, hbid, ask, hask, hb, ha, hbids, hasks⟩ := callAuction_mem h
  have row : ∀ o ∈ x.orders.values.filter fun o => o.symbol = symbol && o.status.active,
      x.orders.get? o.orderId = some o ∧ o.symbol = symbol ∧ o.status.active = true := by
    intro o ho
    obtain ⟨hmem, hc⟩ := List.mem_filter.mp ho
    simp only [Bool.and_eq_true, decide_eq_true_eq] at hc
    obtain ⟨k, hget⟩ := Dict.mem_values_iff.mp hmem
    exact ⟨by rw [hk k o hget]; exact hget, hc.1, hc.2⟩
  obtain ⟨hgb, hsb, hab⟩ := row bid hbid
  obtain ⟨hga, hsa, haa⟩ := row ask hask
  simp only [bidsAt, asksAt, Bool.and_eq_true, decide_eq_true_eq] at hbids hasks
  exact ⟨bid, ask, hb ▸ hgb, ha ▸ hga, hbids.1.2, hasks.1.2, hsb.trans hsa.symm, .inl hab,
    .inl haa⟩

theorem matchCall_goes (symbol : String) (tick : Int) :
    Within (Goes ctx.settings.exchange outside) (matchCall ctx symbol tick) := by
  intro s events s' h hk
  unfold matchCall at h
  obtain ⟨security, _, h₁, h⟩ := bind_eq_ok.mp h
  obtain ⟨-, rfl⟩ := securityAt_eq_ok.mp h₁
  rcases ite_eq_ok.mp h with ⟨-, h⟩ | ⟨-, h⟩
  · obtain ⟨-, rfl⟩ := pure_eq_ok.mp h
    exact .refl
  obtain ⟨_, _, h₁, h⟩ := bind_eq_ok.mp h
  obtain ⟨rfl, rfl⟩ := exchangeNow_eq_ok.mp h₁
  obtain ⟨settled, s₁, h₁, h⟩ := bind_eq_ok.mp h
  have hsettle : Steps ctx.settings.exchange outside s s₁ :=
    settleFills_goes ctx (fun f hf => callAuction_fillOk hk hf) h₁
  have hrest : Goes ctx.settings.exchange outside s₁ s' := by
    refine (goes_bind (goes_quiet exchangeNow_quiet) fun x => ?_) s₁ events s' h
    refine goes_bind (cancelSelfCrosses_goes symbol tick _) fun crossed => ?_
    refine goes_bind (goes_quiet exchangeNow_quiet) fun x => ?_
    refine goes_bind (goes_gather fun orderId _ => ?_) fun unfilled => ?_
    · exact goes_bind (orderAt_goes orderId) fun o =>
        within_ite (cancel_goes _ _ _ _) (goes_pure _)
    · exact goes_bind (goes_quiet (bookSnapshot_quiet symbol tick)) fun _ => goes_pure _
  exact hsettle.trans (hrest (hsettle.keyed hk))

theorem crossed_goes {orderId : String} {incoming : OrderState} {ids : List String} {tick : Int}
    (hids : orderId ∉ ids) {s s' : Sim} {events : List Event}
    (h : gather (fun restingId => do
      let o ← orderAt restingId
      if o.traderId = incoming.traderId ∧ crosses incoming o then
        cancel restingId tick "stp" false
      else pure []) ids s = .ok events s') :
    Steps cfg outside s s' ∧ s'.exch.orders.get? orderId = s.exch.orders.get? orderId := by
  induction ids generalizing s events with
  | nil =>
    obtain ⟨-, rfl⟩ := pure_eq_ok.mp h
    exact ⟨.refl, rfl⟩
  | cons id ids ih =>
    rw [List.mem_cons, not_or] at hids
    obtain ⟨here, s₁, rest, h₁, h₂, -⟩ := gather_cons_eq_ok.mp h
    have hone : Steps cfg outside s s₁ ∧
        s₁.exch.orders.get? orderId = s.exch.orders.get? orderId := by
      obtain ⟨o, _, h₃, h₁⟩ := bind_eq_ok.mp h₁
      obtain ⟨-, rfl⟩ := orderAt_eq_ok.mp h₃
      rcases ite_eq_ok.mp h₁ with ⟨-, h₁⟩ | ⟨-, h₁⟩
      · rcases cancel_eq_ok h₁ with rfl | ⟨order, hc⟩
        · exact ⟨.refl, rfl⟩
        · refine ⟨.single (.cancelled hc), ?_⟩
          rw [hc.order_get, if_neg hids.1]
      · obtain ⟨-, rfl⟩ := pure_eq_ok.mp h₁
        exact ⟨.refl, rfl⟩
    obtain ⟨hs, ho⟩ := ih hids.2 h₂
    exact ⟨hone.1.trans hs, ho.trans hone.2⟩

theorem matchContinuous_goes {orderId : String} {tick : Int} {s s' : Sim} {events : List Event}
    (hk : Keyed s.exch)
    (hactive : ∃ o, s.exch.orders.get? orderId = some o ∧ o.status.active = true)
    (h : matchContinuous ctx orderId tick s = .ok events s') :
    Steps ctx.settings.exchange outside s s' := by
  unfold matchContinuous at h
  obtain ⟨incoming, _, h₁, h⟩ := bind_eq_ok.mp h
  obtain ⟨hin, rfl⟩ := orderAt_eq_ok.mp h₁
  obtain ⟨o, ho, ha⟩ := hactive
  rw [hin] at ho
  cases ho
  obtain ⟨_, _, h₁, h⟩ := bind_eq_ok.mp h
  obtain ⟨-, rfl⟩ := securityAt_eq_ok.mp h₁
  obtain ⟨_, _, h₁, h⟩ := bind_eq_ok.mp h
  obtain ⟨rfl, rfl⟩ := exchangeNow_eq_ok.mp h₁
  obtain ⟨crossed, s₁, hcross, h⟩ := bind_eq_ok.mp h
  obtain ⟨_, _, h₁, h⟩ := bind_eq_ok.mp h
  obtain ⟨rfl, rfl⟩ := exchangeNow_eq_ok.mp h₁
  obtain ⟨incoming', _, h₁, h⟩ := bind_eq_ok.mp h
  obtain ⟨hin', rfl⟩ := orderAt_eq_ok.mp h₁
  obtain ⟨settled, s₂, hset, hlast⟩ := bind_eq_ok.mp h
  -- the incoming order is not among the orders that stand against it
  have hids : orderId ∉ (((s.exch.orders.entries.filter fun e =>
      e.2.orderId ≠ orderId && e.2.submittedTick ≤ tick).map Prod.fst).insertionSort (· ≤ ·)) := by
    rw [(List.perm_insertionSort _ _).mem_iff, List.mem_map]
    rintro ⟨e, he, hid⟩
    obtain ⟨hmem, hc⟩ := List.mem_filter.mp he
    simp only [Bool.and_eq_true, decide_eq_true_eq] at hc
    have hget : s.exch.orders.get? e.1 = some e.2 := Dict.mem_entries_iff.mp hmem
    exact hc.1 ((hk _ _ hget).trans hid)
  obtain ⟨hsteps, hsame⟩ : Steps ctx.settings.exchange outside s s₁ ∧ _ :=
    crossed_goes hids hcross
  rw [hsame, hin] at hin'
  cases hin'
  have hk₁ := hsteps.keyed hk
  have hin₁ : s₁.exch.orders.get? incoming.orderId = some incoming := by
    rw [hk _ _ hin, hsame, hin]
  have hfills : ∀ f ∈ continuousMatches incoming
      (((s.exch.orders.entries.filter fun e =>
        e.2.orderId ≠ orderId && e.2.submittedTick ≤ tick).map Prod.fst).filterMap
          s₁.exch.orders.get?), FillOk s₁.exch f := by
    intro f hf
    obtain ⟨o, hmem, hao, hsym, hside, -, hb, hs⟩ := continuousMatches_mem hf
    obtain ⟨k, -, hget⟩ := List.mem_filterMap.mp hmem
    have hget' : s₁.exch.orders.get? o.orderId = some o := by rw [hk₁ k o hget]; exact hget
    cases hi : incoming.side with
    | buy =>
      rw [hi] at hb hs hside
      have hos : o.side = .sell := by
        cases h : o.side with
        | buy => exact absurd h hside
        | sell => rfl
      exact ⟨incoming, o, by rw [hb]; exact hin₁, by rw [hs]; exact hget', hi, hos, hsym.symm,
        .inl ha, .inl hao⟩
    | sell =>
      rw [hi] at hb hs hside
      have hos : o.side = .buy := by
        cases h : o.side with
        | buy => rfl
        | sell => exact absurd h hside
      exact ⟨o, incoming, by rw [hb]; exact hget', by rw [hs]; exact hin₁, hos, hi, hsym,
        .inl hao, .inl ha⟩
  have hsettle : Steps ctx.settings.exchange outside s₁ s₂ := settleFills_goes ctx hfills hset
  have hrest : Goes ctx.settings.exchange outside s₂ s' := by
    refine (goes_bind (orderAt_goes orderId) fun o => ?_) s₂ events s' hlast
    refine goes_bind (goes_onlyIf fun _ => cancel_goes _ _ _ _) fun unfilled => ?_
    exact goes_bind (goes_quiet (bookSnapshot_quiet _ tick)) fun _ => goes_pure _
  exact hsteps.trans (hsettle.trans (hrest (hsettle.keyed hk₁)))

/-! ## Admission -/

theorem admitAll_goes (openNow opening closing : Bool) (tick : Int) (ordinal : Nat)
    (requests : List OrderRequest) : Within (Goes ctx.settings.exchange outside)
      (admitAll ctx openNow opening closing tick ordinal requests) := by
  induction requests generalizing ordinal with
  | nil => exact goes_pure _
  | cons r rest ih =>
    intro s events s' h hk
    unfold admitAll at h
    obtain ⟨⟨order, admitted⟩, s₁, h₁, h⟩ := bind_eq_ok.mp h
    obtain ⟨matched, s₂, h₂, h⟩ := bind_eq_ok.mp h
    obtain ⟨others, _, h₃, h⟩ := bind_eq_ok.mp h
    obtain ⟨-, rfl⟩ := pure_eq_ok.mp h
    have hmatched : Steps ctx.settings.exchange outside s s₂ := by
      rcases admit_eq_ok h₁ with ⟨hnone, hout⟩ | ⟨hsome, reserved, hp⟩
      · dsimp only at hnone
        subst hnone
        obtain ⟨-, rfl⟩ := pure_eq_ok.mp h₂
        rcases hout with hs | ⟨ht, hsec⟩ | ⟨key, ipo, hi⟩
        · exact .single (.quiet hs.quiet)
        · exact .single (.turned ht hsec)
        · exact .single (.indicated hi)
      · dsimp only at hsome
        subst hsome
        have hplaced : Step ctx.settings.exchange outside s s₁ := .placed hp
        have hg : gather (fun orderId => onlyIf (ctx.settings.clock.profile = .microscope ∧
            ¬opening ∧ ¬closing) (matchContinuous ctx orderId tick)) [orderIdOf r.actionId] s₁
            = .ok matched s₂ := h₂
        obtain ⟨here, t, none', hone, hnil, -⟩ := gather_cons_eq_ok.mp hg
        obtain ⟨-, rfl⟩ := pure_eq_ok.mp hnil
        rcases onlyIf_eq_ok.mp hone with ⟨-, hm⟩ | ⟨-, -, rfl⟩
        · have hrow : s₁.exch.orders.get? (orderIdOf r.actionId)
              = some (orderRow r reserved ordinal tick) := by rw [hp.order_get, if_pos rfl]
          exact .head hplaced (matchContinuous_goes ctx (hplaced.keyed hk) ⟨_, hrow, rfl⟩ hm)
        · exact .single hplaced
    exact hmatched.trans (ih (ordinal + 1) _ _ _ h₃ (hmatched.keyed hk))

/-! ## Margins and the close -/

omit [Uuid5] in
theorem marginCall_goes (key : String) (position : ShortPositionState) (mark tick : Int) :
    Within (Goes cfg outside) (marginCall ctx key position mark tick) := by
  intro s events s' h
  unfold marginCall at h
  rcases ite_eq_ok.mp h with ⟨-, h⟩ | ⟨-, h⟩
  · obtain ⟨_, _, h₁, h⟩ := bind_eq_ok.mp h
    obtain rfl := modifyExchange_eq_ok.mp h₁
    obtain ⟨event, _, h₁, h⟩ := bind_eq_ok.mp h
    obtain ⟨log, rfl⟩ := emit_eq_ok h₁
    obtain ⟨-, rfl⟩ := pure_eq_ok.mp h
    exact Step.goes (Step.called rfl rfl rfl)
  · obtain ⟨-, rfl⟩ := pure_eq_ok.mp h
    exact .refl s

theorem markShorts_goes (tick : Int) : Within (Goes cfg outside) (markShorts ctx tick) := by
  unfold markShorts
  refine goes_bind (goes_quiet exchangeNow_quiet) fun x => goes_gather fun key _ => ?_
  refine goes_bind (goes_quiet exchangeNow_quiet) fun x => ?_
  refine goes_bind (orRaise_goes _ _) fun position => within_ite (goes_pure _) ?_
  refine goes_bind (goes_quiet (securityAt_quiet _)) fun security => ?_
  refine goes_bind (marginCall_goes ctx key position _ tick) fun _ => ?_
  exact goes_bind (goes_quiet (borrowFee_quiet ctx position _ tick)) fun _ => goes_pure _

theorem closeSession_goes (tick : Int) : Within (Goes cfg outside) (closeSession tick) := by
  unfold closeSession
  refine goes_bind (goes_quiet exchangeNow_quiet) fun x => ?_
  refine goes_bind (goes_gather fun orderId _ => ?_) fun expired => ?_
  · exact goes_bind (orderAt_goes orderId) fun o => within_ite (cancel_goes _ _ _ _) (goes_pure _)
  refine goes_bind (goes_quiet exchangeNow_quiet) fun x => ?_
  refine goes_bind (goes_quiet (quiet_gather fun symbol _ => ?_)) fun data => ?_
  · exact quiet_bind (securityAt_quiet symbol) fun _ =>
      within_ite (quiet_pure _) (marketData_quiet symbol tick)
  refine goes_bind (goes_quiet (computeIndex_quiet tick)) fun index => ?_
  refine goes_bind (goes_quiet exchangeNow_quiet) fun x => ?_
  refine goes_bind (goes_quiet emit_quiet) fun _ => ?_
  refine goes_bind (goes_quiet (modifyExchange_quiet (fun _ => rfl) (fun _ => rfl) (fun _ => rfl)
    (fun _ => rfl) fun _ _ => rfl)) fun _ => goes_pure _

/-! ## Resolution -/

theorem resolve_goes (actions : List ExchangeAction) (tick : Int) :
    Within (Goes ctx.settings.exchange outside) (resolve ctx actions tick) := by
  unfold resolve
  refine within_ite (goes_pure _) ?_
  refine goes_bind (bootstrapListing_goes ctx tick) fun bootstrapped => ?_
  refine goes_bind (goes_onlyIf fun _ => goes_quiet
    (quiet_bind (openSession_quiet tick) fun _ => quiet_pure _)) fun opened => ?_
  refine goes_bind (goes_gather fun c _ => cancelAction_goes c.1 c.2 tick) fun cancelled => ?_
  refine goes_bind (goes_gather fun a _ => ?_) fun announced => ?_
  · intro s events s' h
    rcases announceIpo_eq_ok h with hs | ⟨ipoId, ipo, ha⟩
    · exact (Still.quiet hs).goes
    · exact (Step.announced ha).goes
  refine goes_bind (goes_quiet exchangeNow_quiet) fun x => ?_
  refine goes_bind (goes_gather fun group _ => admitAll_goes ctx _ _ _ tick 0 _) fun admitted => ?_
  refine goes_bind (goes_onlyIf fun _ => ?_) fun called => ?_
  · exact goes_bind (goes_quiet exchangeNow_quiet) fun x =>
      goes_gather fun symbol _ => matchCall_goes ctx symbol tick
  refine goes_bind (closeIpos_goes ctx tick) fun completed => ?_
  refine goes_bind (goes_quiet (resumeHalts_quiet ctx tick)) fun resumed => ?_
  refine goes_bind (markShorts_goes ctx tick) fun marked => ?_
  exact goes_bind (goes_onlyIf fun _ => closeSession_goes tick) fun closed => goes_pure _

end

/-! ## Runs -/

/-- A call of the exchange by the rest of the program. -/
inductive ExchangeCall where
  | resolve (ctx : Ctx) (actions : List ExchangeAction) (tick : Int)
  | listSecurity (symbol issuerFirmId : String) (shares price tick : Int)
      (holders : Dict String Int) (ipoRoundId : Option String) (lockup : Option Int)
  | delist (symbol reason : String) (tick : Int)
  | cancelEntity (entityId : String) (tick : Int) (initiator : String)

/-! ### Quantities and prices of the samples -/

theorem bid_one : (1 : Int) ≤ 1 := by decide

theorem bid_eight : (1 : Int) ≤ 8 := by decide

theorem bid_ten : (1 : Int) ≤ 10 := by decide

theorem bid_eleven : (1 : Int) ≤ 11 := by decide

theorem bid_fifteen : (1 : Int) ≤ 15 := by decide

section

variable [Uuid5]

/-- Run a call. -/
def ExchangeCall.run : ExchangeCall → EngineM Unit
  | .resolve ctx actions tick => do let _ ← Exchange.resolve ctx actions tick
  | .listSecurity symbol issuerFirmId shares price tick holders ipoRoundId lockup => do
    let _ ← Exchange.listSecurity symbol issuerFirmId shares price tick holders ipoRoundId lockup
  | .delist symbol reason tick => do let _ ← Exchange.delist symbol reason tick
  | .cancelEntity entityId tick initiator => do
    let _ ← Exchange.cancelEntity entityId tick initiator

/-- The call runs under the settings of the run. -/
def ExchangeCall.under (settings : Settings) : ExchangeCall → Prop
  | .resolve ctx _ _ => ctx.settings = settings
  | _ => True

theorem ExchangeCall.goes {settings : Settings} {c : ExchangeCall} (hc : c.under settings) :
    Within (Goes settings.exchange true) c.run := by
  cases c with
  | resolve ctx actions tick =>
    obtain rfl : ctx.settings = settings := hc
    exact goes_bind (resolve_goes ctx actions tick) fun _ => goes_pure _
  | listSecurity symbol issuerFirmId shares price tick holders ipoRoundId lockup =>
    exact goes_bind (listSecurity_goes _ _ _ _ _ _ _ _) fun _ => goes_pure _
  | delist symbol reason tick => exact goes_bind (delist_goes symbol reason tick) fun _ => goes_pure _
  | cancelEntity entityId tick initiator =>
    exact goes_bind (cancelEntity_goes entityId tick initiator) fun _ => goes_pure _

/-- A run: calls that return, one after the other, under one set of
settings. -/
inductive Run (settings : Settings) (s₀ : Sim) : Sim → Prop where
  | start : Run settings s₀ s₀
  | call {s s' : Sim} {c : ExchangeCall} (h : Run settings s₀ s) (hc : c.under settings)
      (hrun : c.run s = .ok () s') : Run settings s₀ s'

theorem Run.steps {settings : Settings} {s₀ s : Sim} (h : Run settings s₀ s)
    (hk : Keyed s₀.exch) : Steps settings.exchange true s₀ s := by
  induction h with
  | start => exact .refl
  | call _ hc hrun ih => exact ih.trans (ExchangeCall.goes hc _ _ _ hrun (ih.keyed hk))

theorem Run.calls {settings : Settings} {s₀ s s' : Sim} {calls : List ExchangeCall}
    (h : Run settings s₀ s) (hc : ∀ c ∈ calls, c.under settings)
    (hrun : each ExchangeCall.run calls s = .ok () s') : Run settings s₀ s' := by
  induction calls generalizing s with
  | nil =>
    obtain ⟨-, rfl⟩ := pure_eq_ok.mp hrun
    exact h
  | cons c calls ih =>
    obtain ⟨_, s₁, h₁, hrest⟩ := bind_eq_ok.mp hrun
    exact ih (h.call (hc c List.mem_cons_self) h₁)
      (fun d hd => hc d (List.mem_cons_of_mem _ hd)) hrest

/-- An economy before its first account. -/
def emptySim : Sim where
  economy := { ledger := { runId := "run" }, exchange := {}, ventures := {} }
  log := ⟨"run", []⟩

/-- Open a bank with a deposit for every trader and for the broker, and give
each trader `cents`. -/
def openMarket (traders : List String) (cents : Int) : EngineM Unit := do
  let _ ← onLedger (Ledger.openAccount .iss "bk_cb" "central_bank" none none 0)
  each (fun code => do
    let _ ← onLedger (Ledger.openAccount code "bk_1" "institution" none none 0)) [.res, .dpl]
  each (fun owner => do
    let _ ← onLedger (Ledger.openAccount .dep owner "institution" (some "bk_1") none 0))
    ("fm_broker" :: traders)
  let issued ← emit 0 .moneyIssued []
  let total := cents * traders.length
  let _ ← onLedger (Ledger.issueBaseMoney
    ([⟨"iss:bk_cb", -1, total, "issuance"⟩, ⟨"res:bk_1", 1, total, "issuance"⟩,
      ⟨"dpl:bk_1", -1, total, "issuance"⟩] ++
      traders.map fun owner => ⟨"dep:" ++ owner ++ "@bk_1", 1, cents, "issuance"⟩) 0 issued)

/-- A limit order. -/
def limitOrder (actionId actorId symbol : String) (side : OrderSide) (qty price : Int)
    (qty_pos : 1 ≤ qty := by first | exact bid_one | exact bid_ten | decide)
    (price_pos : 1 ≤ price := by
      first
        | exact bid_one | exact bid_eight | exact bid_ten | exact bid_eleven | exact bid_fifteen
        | decide) : ExchangeAction :=
  ⟨actionId, actorId, .submitOrder {
    symbol
    side
    qty
    limitPriceCents := some price
    qty_pos
    limit_pos := fun _ hp => Option.some.inj hp ▸ price_pos }⟩

/-- A short sale. -/
def shortSale (actionId actorId symbol : String) (qty price collateral : Int)
    (qty_pos : 1 ≤ qty := by first | exact bid_one | exact bid_ten | decide)
    (price_pos : 1 ≤ price := by
      first
        | exact bid_one | exact bid_eight | exact bid_ten | exact bid_eleven | exact bid_fifteen
        | decide)
    (collateral_pos : 1 ≤ collateral := by first | exact bid_ten | exact bid_fifteen | decide) :
    ExchangeAction :=
  ⟨actionId, actorId, .short {
    symbol
    qty
    limitPriceCents := price
    collateralCents := collateral
    qty_pos
    limit_pos := price_pos
    collateral_pos }⟩

/-- A run of ticks only. -/
inductive Ticks (settings : Settings) (s₀ : Sim) : Sim → Prop where
  | start : Ticks settings s₀ s₀
  | tick {s s' : Sim} {ctx : Ctx} {actions : List ExchangeAction} {tick : Int}
      {events : List Event} (h : Ticks settings s₀ s) (hc : ctx.settings = settings)
      (hrun : Exchange.resolve ctx actions tick s = .ok events s') : Ticks settings s₀ s'

theorem Ticks.steps {settings : Settings} {s₀ s : Sim} (h : Ticks settings s₀ s)
    (hk : Keyed s₀.exch) : Steps settings.exchange false s₀ s := by
  induction h with
  | start => exact .refl
  | tick _ hc hrun ih =>
    subst hc
    exact ih.trans (resolve_goes _ _ _ _ _ _ hrun (ih.keyed hk))

/-- One tick, for its effect. -/
def tickOf (ctx : Ctx) (t : List ExchangeAction × Int) : EngineM Unit := do
  let _ ← Exchange.resolve ctx t.1 t.2

theorem Ticks.more {settings : Settings} {s₀ s s' : Sim} {ctx : Ctx}
    {ticks : List (List ExchangeAction × Int)} (h : Ticks settings s₀ s)
    (hc : ctx.settings = settings) (hrun : each (tickOf ctx) ticks s = .ok () s') :
    Ticks settings s₀ s' := by
  induction ticks generalizing s with
  | nil =>
    obtain ⟨-, rfl⟩ := pure_eq_ok.mp hrun
    exact h
  | cons t ticks ih =>
    obtain ⟨_, s₁, h₁, hrest⟩ := bind_eq_ok.mp hrun
    obtain ⟨events, s₂, h₂, h₃⟩ := bind_eq_ok.mp h₁
    obtain ⟨-, rfl⟩ := pure_eq_ok.mp h₃
    exact ih (h.tick hc h₂) hrest

end

end Polis.Economy.Exchange
