/-
  Polis.Economy.Exchange.Closing — from which states the close of an offering
  returns.

  Main results:
    * `completeIpo_returns` — it returns when the ledger takes the legs, with
      the figures its events record.
    * `completeIpo_ready` — a close that returns was made in such a state.
-/
import Polis.Economy.Exchange.Offering
import Polis.Economy.Payouts

namespace Polis.Economy.Exchange

open Lib Lib.Effect Lib.DoubleEntry Ledger Sim

/-! ## The figures of a close -/

/-- The offer price of a book. -/
def ipoOffer (cfg : ExchangeSettings) (ipo : IpoState) : Int := offerPrice cfg (clearingPrice ipo)

/-- What the investors who meet the offer price asked for. -/
def ipoDemand (cfg : ExchangeSettings) (ipo : IpoState) : Int :=
  ((eligible ipo (ipoOffer cfg ipo)).map Prod.snd).sum

/-- The shares sold. -/
def ipoSold (cfg : ExchangeSettings) (ipo : IpoState) : Int :=
  min ipo.sharesOffered (ipoDemand cfg ipo)

/-- The new shares among them. -/
def ipoPrimary (cfg : ExchangeSettings) (ipo : IpoState) : Int :=
  min ipo.primaryShares (ipoSold cfg ipo)

/-- The underwriting fee. -/
def ipoUnderwriting (cfg : ExchangeSettings) (ipo : IpoState) : Int :=
  bpCeil (ipoSold cfg ipo * ipoOffer cfg ipo) cfg.underwritingFeeBp

/-- The listing fee. -/
def ipoListing (cfg : ExchangeSettings) (ipo : IpoState) : Int :=
  min cfg.listingFeeCents
    (max 0 (ipoSold cfg ipo * ipoOffer cfg ipo - ipoUnderwriting cfg ipo))

/-- A loop that collects lists and may raise. -/
def collect {α β : Type} (f : α → Except PyError (List β)) : List α → Except PyError (List β)
  | [] => .ok []
  | x :: xs => do
    let here ← f x
    let rest ← collect f xs
    .ok (here ++ rest)

theorem gather_liftE {α β : Type} (f : α → Except PyError (List β)) {xs : List α} {s s' : Sim}
    {r : List β} : gather (fun x => (liftE (f x) : EngineM (List β))) xs s = .ok r s' ↔
      collect f xs = .ok r ∧ s = s' := by
  induction xs generalizing r with
  | nil =>
    show (pure [] : EngineM (List β)) s = .ok r s' ↔ Except.ok [] = Except.ok r ∧ s = s'
    rw [pure_eq_ok, Except.ok.injEq]
  | cons x xs ih =>
    rw [gather_cons_eq_ok]
    unfold collect
    rw [except_bind_eq_ok]
    constructor
    · rintro ⟨here, t, rest, h₁, h₂, rfl⟩
      obtain ⟨hx, rfl⟩ := liftE_eq_ok.mp h₁
      obtain ⟨hxs, rfl⟩ := ih.mp h₂
      exact ⟨⟨here, hx, except_bind_eq_ok.mpr ⟨rest, hxs, rfl⟩⟩, rfl⟩
    · rintro ⟨⟨here, hx, h⟩, rfl⟩
      obtain ⟨rest, hxs, h⟩ := except_bind_eq_ok.mp h
      cases h
      exact ⟨here, s, rest, liftE_eq_ok.mpr ⟨hx, rfl⟩, ih.mpr ⟨hxs, rfl⟩, rfl⟩

/-- What an unallotted investor gets back; an allotted one is settled already. -/
def unallottedLegs (L : Ledger) (allocations : Dict String Int) (i : String × Int × Int) :
    Except PyError (List Leg) :=
  if allocations.contains i.1 then .ok [] else returnedLegs L i.1 i.2

/-- The legs of the whole close. -/
def closingLegs (cfg : ExchangeSettings) (L : Ledger) (ipo : IpoState) (founderId : String)
    (allocations : Dict String Int) : Except PyError (List Leg) := do
  let firmDeposit ← depositAccount L ipo.firmId
  let founderDeposit ← depositAccount L founderId
  let underwriterDeposit ← depositAccount L ipo.underwriterBankId
  let treasuryDeposit ← depositAccount L "gv_treasury"
  let allotted ← collect (fun a => allottedLegs L ipo (ipoOffer cfg ipo) (ipoSold cfg ipo)
    (ipoPrimary cfg ipo) firmDeposit founderDeposit a.1 a.2) allocations.sortedEntries
  let returned ← collect (unallottedLegs L allocations) ipo.indications.sortedEntries
  let fees ← feeLegs firmDeposit underwriterDeposit treasuryDeposit (ipoUnderwriting cfg ipo)
    (ipoListing cfg ipo)
  .ok (allotted ++ returned ++ fees)

/-- The ledger takes the legs, merged, as one transaction. -/
def TakesLegs (L : Ledger) (legs : List Leg) : Prop :=
  2 ≤ (coalesce legs).length ∧ ∃ deltas, settledDeltas L (coalesce legs) = .ok deltas

/-- A state in which the close of an offering goes through. -/
structure IpoReady (cfg : ExchangeSettings) (s : Sim) (ipo : IpoState) (firm : FirmState)
    (allocations : Dict String Int) (legs : List Leg) : Prop where
  allocated : allocate (ipoSold cfg ipo) (eligible ipo (ipoOffer cfg ipo)) = .ok allocations
  firm_at : s.economy.firms.get? ipo.firmId = some firm
  legs_eq : closingLegs cfg s.books ipo firm.founderId allocations = .ok legs
  taken : TakesLegs s.books legs
  run_eq : s.log.runId = s.books.runId
  unlisted : s.exch.securities.get? (upper ipo.symbol) = none

/-! ## When the close returns -/

section Returns

variable [Uuid5] {ctx : Ctx} {key : String} {tick : Int} {ipo : IpoState} {s s' : Sim}

omit [Uuid5] in
theorem gather_unallotted {L : Ledger} {allocations : Dict String Int}
    {is : List (String × Int × Int)} {s s' : Sim} {r : List Leg} :
    gather (fun i => (if allocations.contains i.1 then pure [] else liftE (returnedLegs L i.1 i.2) :
      EngineM (List Leg))) is s = .ok r s' ↔
      collect (unallottedLegs L allocations) is = .ok r ∧ s = s' := by
  rw [← gather_liftE]
  have hsame : (fun i : String × Int × Int => (if allocations.contains i.1 then pure []
      else liftE (returnedLegs L i.1 i.2) : EngineM (List Leg)))
      = fun i => liftE (unallottedLegs L allocations i) := by
    funext i
    unfold unallottedLegs
    split_ifs <;> rfl
  rw [hsame]

omit [Uuid5] in
theorem offerPrice_pos (cfg : ExchangeSettings) (clearing : Int) : 0 < offerPrice cfg clearing := by
  have htick := cfg.tickSize_pos
  unfold offerPrice
  dsimp only
  set offer := max cfg.tickSizeCents (clearing * (10000 - cfg.underwriterDiscountBp) / 10000)
    with hoffer
  have hle : cfg.tickSizeCents ≤ offer := le_max_left _ _
  have hdiv := Int.mul_ediv_add_emod offer cfg.tickSizeCents
  have hone : 1 ≤ offer / cfg.tickSizeCents := (Int.le_ediv_iff_mul_le htick).mpr (by omega)
  have : cfg.tickSizeCents * 1 ≤ cfg.tickSizeCents * (offer / cfg.tickSizeCents) :=
    mul_le_mul_of_nonneg_left hone htick.le
  omega

omit [Uuid5] in
theorem listSecurity_returns {symbol firmId : String} {shares price lockup : Int}
    {holders : Dict String Int} {roundId : Option String} {firm : FirmState}
    (hfresh : s.exch.securities.get? (upper symbol) = none) (hshares : 0 < shares)
    (hprice : 0 < price) (hne : holders.entries ≠ []) (hsum : holders.values.sum = shares)
    (hfirm : s.economy.firms.get? firmId = some firm) :
    ∃ events s', listSecurity symbol firmId shares price tick holders roundId (some lockup) s
      = .ok events s' := by
  have hnew : s.economy.exchange.securities.contains (upper symbol) = false := by
    unfold Dict.contains
    rw [show s.economy.exchange.securities.get? (upper symbol) = none from hfresh]
    rfl
  have hinit : initialHolders s.economy firmId shares holders = .ok holders := by
    unfold initialHolders
    rw [if_neg hne]
  have hlocked : lockedFounder s.economy firmId (some lockup) = .ok (some firm.founderId) := by
    unfold lockedFounder
    rw [hfirm]
    rfl
  unfold listSecurity
  dsimp only
  rw [bind_of_ok (economyNow_eq_ok.mpr ⟨rfl, rfl⟩), bind_of_ok (a := ()) (require_eq_ok.mpr ⟨hnew, rfl⟩),
    bind_of_ok (a := ()) (require_eq_ok.mpr ⟨⟨hshares, hprice⟩, rfl⟩),
    bind_of_ok (liftE_eq_ok.mpr ⟨hinit, rfl⟩), bind_of_ok (a := ()) (require_eq_ok.mpr ⟨hsum, rfl⟩),
    bind_of_ok (a := ()) (modifyExchange_eq_ok.mpr rfl), bind_of_ok (liftE_eq_ok.mpr ⟨hlocked, rfl⟩)]
  exact ⟨_, _, rfl⟩

/-- The event of a priced book. -/
def pricedPayload (cfg : ExchangeSettings) (ipo : IpoState) : List (String × Value) :=
  [("firm_id", .str ipo.firmId), ("symbol", .str ipo.symbol),
    ("clearing_price_cents", .int (clearingPrice ipo)),
    ("offer_price_cents", .int (ipoOffer cfg ipo)), ("discount_bp", .int cfg.underwriterDiscountBp),
    ("oversubscription_bp", .int (10000 * ipoDemand cfg ipo / ipo.sharesOffered))]

/-- The event of a close. -/
def completedPayload (cfg : ExchangeSettings) (ipo : IpoState) (allocations : Dict String Int)
    (txnId : UUID) : List (String × Value) :=
  [("firm_id", .str ipo.firmId), ("symbol", .str ipo.symbol),
    ("allocations", .ints allocations.sortedEntries),
    ("gross_proceeds_cents", .int (ipoSold cfg ipo * ipoOffer cfg ipo)),
    ("primary_cents", .int (ipoPrimary cfg ipo * ipoOffer cfg ipo)),
    ("secondary_cents", .int ((ipoSold cfg ipo - ipoPrimary cfg ipo) * ipoOffer cfg ipo)),
    ("underwriting_fee_cents", .int (ipoUnderwriting cfg ipo)),
    ("listing_fee_cents", .int (ipoListing cfg ipo)), ("txn_id", .str txnId)]

/-- What a close did. -/
structure Closed (cfg : ExchangeSettings) (key : String) (ipo : IpoState)
    (allocations : Dict String Int) (legs : List Leg) (priced completed : Event) (s s' : Sim) :
    Prop where
  priced_eq : priced.draft.kind = .ipoPriced ∧ priced.draft.payload = pricedPayload cfg ipo
  completed_eq : completed.draft.kind = .ipoCompleted ∧
    ∃ txnId, completed.draft.payload = completedPayload cfg ipo allocations txnId
  book_eq : s'.books.book = s.books.book + posting (lines (coalesce legs))
  entries_eq : ∃ txnId tick, s'.books.entries
    = s.books.entries ++ (coalesce legs).map (entryOf txnId tick completed.seq)
  listed : ∃ shares holders,
    Listed (upper ipo.symbol) shares holders (withIpoStatus key .completed s.exch) s'.exch

omit [Uuid5] in
theorem holders_sum (allocations : Dict String Int) (founderId : String) (total : Int) :
    (allocations.put founderId
      (allocations.getD founderId 0 + total - allocations.values.sum)).values.sum = total := by
  have hput := Dict.total_put allocations founderId
    (allocations.getD founderId 0 + total - allocations.values.sum) fun _ v => v
  have hweight : allocations.weightAt founderId (fun _ v => v) = allocations.getD founderId 0 := by
    unfold Dict.weightAt Dict.getD
    cases allocations.get? founderId <;> rfl
  rw [hweight] at hput
  show (allocations.put founderId _).total (fun _ v => v) = total
  rw [hput]
  show allocations.values.sum - _ + _ = total
  omega

theorem completeIpo_returns {firm : FirmState} {allocations : Dict String Int} {legs : List Leg}
    (hipo : s.exch.ipos.get? key = some ipo) (hne : ipo.indications.entries ≠ [])
    (hready : IpoReady ctx.settings.exchange s ipo firm allocations legs) :
    ∃ priced completed listed s', completeIpo ctx key tick s = .ok (priced :: completed :: listed) s' ∧
      Closed ctx.settings.exchange key ipo allocations legs priced completed s s' := by
  set cfg := ctx.settings.exchange with hcfg
  obtain ⟨firmDeposit, hfirm, hlegs⟩ := except_bind_eq_ok.mp hready.legs_eq
  obtain ⟨founderDeposit, hfounder, hlegs⟩ := except_bind_eq_ok.mp hlegs
  obtain ⟨underwriterDeposit, hunderwriter, hlegs⟩ := except_bind_eq_ok.mp hlegs
  obtain ⟨treasuryDeposit, htreasury, hlegs⟩ := except_bind_eq_ok.mp hlegs
  obtain ⟨allotted, hallotted, hlegs⟩ := except_bind_eq_ok.mp hlegs
  obtain ⟨returned, hreturned, hlegs⟩ := except_bind_eq_ok.mp hlegs
  obtain ⟨fees, hfees, hlegs⟩ := except_bind_eq_ok.mp hlegs
  cases hlegs
  obtain ⟨htwo, deltas, hdeltas⟩ := hready.taken
  -- the price is announced
  obtain ⟨priced, log₁, hemit₁, hpriced, hlog₁⟩ : ∃ priced log, emit tick .ipoPriced
      (pricedPayload cfg ipo) none [ipo.firmId] s = .ok priced (s.putLog log) ∧
      (priced.draft.kind = .ipoPriced ∧ priced.draft.payload = pricedPayload cfg ipo) ∧
      log.runId = s.log.runId := ⟨_, _, rfl, ⟨rfl, rfl⟩, rfl⟩
  -- the transaction is numbered, announced and posted
  obtain ⟨expected, L₁, hnext, hexpected, haccounts, hrunId, hentries, hordinal⟩ : ∃ expected L₁,
      Ledger.nextTxnId tick s.books = .ok expected L₁ ∧
      expected = Uuid5.uuid5 s.books.runId (txnName tick (s.books.ordinalByTick.getD tick 0)) ∧
      L₁.accounts = s.books.accounts ∧ L₁.runId = s.books.runId ∧
      L₁.entries = s.books.entries ∧
      L₁.ordinalByTick.getD tick 0 = s.books.ordinalByTick.getD tick 0 := by
    refine ⟨_, _, rfl, rfl, rfl, rfl, rfl, ?_⟩
    show (s.books.ordinalByTick.put tick _).getD tick 0 = _
    unfold Dict.getD
    rw [Dict.get?_put_self, Option.getD_some]
  obtain ⟨completed, log₂, hemit₂, hcompleted, hcause⟩ : ∃ completed log, emit tick .ipoCompleted
      (completedPayload cfg ipo allocations expected) none [ipo.firmId]
        ((s.putLog log₁).putBooks L₁) = .ok completed ((s.putBooks L₁).putLog log) ∧
      (completed.draft.kind = .ipoCompleted ∧
        ∃ txnId, completed.draft.payload = completedPayload cfg ipo allocations txnId) ∧
      (completed.runId = log₁.runId ∧ completed.tick = tick) :=
    ⟨_, _, rfl, ⟨rfl, expected, rfl⟩, rfl, rfl⟩
  obtain ⟨L₂, hpost, -, -⟩ := @post_of_settledDeltas L₁ _ (coalesce (allotted ++ returned ++ fees))
    tick completed deltas htwo
    ⟨hcause.1.trans (hlog₁.trans (hready.run_eq.trans hrunId.symm)), hcause.2⟩
    (by rw [settledDeltas_congr haccounts]; exact hdeltas)
  have htxn : Uuid5.uuid5 L₁.runId (txnName tick (L₁.ordinalByTick.getD tick 0)) = expected := by
    rw [hexpected, hrunId, hordinal]
  rw [htxn] at hpost
  have hposted := Ledger.post_eq_ok hpost
  have hpostSim : post (coalesce (allotted ++ returned ++ fees)) tick completed []
      ((s.putBooks L₁).putLog log₂) = .ok expected ((s.putBooks L₂).putLog log₂) :=
    onLedger_eq_ok.mpr ⟨L₂, hpost, rfl⟩
  -- the security is listed among the allotted investors and the founder
  obtain ⟨hpool, -, -, -, -, -⟩ := allocate_eq_ok hready.allocated
  have htotal : 0 < max cfg.bootstrapShares ipo.sharesOffered :=
    lt_max_of_lt_left cfg.bootstrap_pos.1
  set s₃ := ((s.putBooks L₂).putLog log₂).putExch (withIpoStatus key .completed s.exch) with hs₃
  obtain ⟨listed, s', hlisted⟩ := @listSecurity_returns tick s₃ ipo.symbol ipo.firmId
    (max cfg.bootstrapShares ipo.sharesOffered) (ipoOffer cfg ipo)
    (tick + cfg.lockupDays * ctx.settings.clock.ticksPerSimDay)
    (allocations.put firm.founderId (allocations.getD firm.founderId 0
      + max cfg.bootstrapShares ipo.sharesOffered - ipoSold cfg ipo)) (some ipo.ipoId) firm
    hready.unlisted htotal (offerPrice_pos _ _) (Dict.put_entries_ne_nil _ _ _)
    (by rw [← allocate_sum hready.allocated]; exact holders_sum _ _ _) hready.firm_at
  obtain ⟨⟨holders, -, hlist⟩, -, hbooks⟩ := listSecurity_eq_ok hlisted
  refine ⟨priced, completed, listed, s', ?_, ⟨hpriced, hcompleted, ?_, ?_, ?_⟩⟩
  · unfold completeIpo
    dsimp only
    rw [bind_of_ok (exchangeNow_eq_ok.mpr ⟨rfl, rfl⟩), bind_of_ok (orRaise_eq_ok.mpr ⟨hipo, rfl⟩),
      if_neg hne]
    refine bind_eq_ok.mpr ⟨_, _, liftE_eq_ok.mpr ⟨hready.allocated, rfl⟩, ?_⟩
    refine bind_eq_ok.mpr ⟨_, _, hemit₁, ?_⟩
    rw [bind_of_ok (economyNow_eq_ok.mpr ⟨rfl, rfl⟩)]
    refine bind_eq_ok.mpr ⟨_, _, liftE_eq_ok.mpr ⟨hfirm, rfl⟩, ?_⟩
    refine bind_eq_ok.mpr ⟨_, _, orRaise_eq_ok.mpr ⟨hready.firm_at, rfl⟩, ?_⟩
    refine bind_eq_ok.mpr ⟨_, _, liftE_eq_ok.mpr ⟨hfounder, rfl⟩, ?_⟩
    refine bind_eq_ok.mpr ⟨_, _, liftE_eq_ok.mpr ⟨hunderwriter, rfl⟩, ?_⟩
    refine bind_eq_ok.mpr ⟨_, _, liftE_eq_ok.mpr ⟨htreasury, rfl⟩, ?_⟩
    refine bind_eq_ok.mpr ⟨_, _, (gather_liftE _).mpr ⟨hallotted, rfl⟩, ?_⟩
    refine bind_eq_ok.mpr ⟨_, _, gather_unallotted.mpr ⟨hreturned, rfl⟩, ?_⟩
    refine bind_eq_ok.mpr ⟨_, _, liftE_eq_ok.mpr ⟨hfees, rfl⟩, ?_⟩
    refine bind_eq_ok.mpr ⟨_, _, onLedger_eq_ok.mpr ⟨L₁, hnext, rfl⟩, ?_⟩
    refine bind_eq_ok.mpr ⟨_, _, hemit₂, ?_⟩
    refine bind_eq_ok.mpr ⟨_, _, hpostSim, ?_⟩
    refine bind_eq_ok.mpr ⟨(), _, require_eq_ok.mpr ⟨rfl, rfl⟩, ?_⟩
    refine bind_eq_ok.mpr ⟨(), _, modifyExchange_eq_ok.mpr rfl, ?_⟩
    exact bind_eq_ok.mpr ⟨_, _, hlisted, rfl⟩
  · rw [hbooks]
    show L₂.book = _
    rw [hposted.book_eq]
    unfold book
    rw [haccounts]
  · refine ⟨expected, tick, ?_⟩
    rw [hbooks]
    show L₂.entries = _
    rw [hposted.entries_eq, hentries]
  · exact ⟨_, holders, hlist⟩

/-! ## What a returning close had -/

omit [Uuid5] in
theorem collect_mem {α β : Type} {f : α → Except PyError (List β)} {xs : List α} {r : List β}
    (h : collect f xs = .ok r) {x : α} (hx : x ∈ xs) : ∃ here, f x = .ok here := by
  induction xs generalizing r with
  | nil => cases hx
  | cons y ys ih =>
    obtain ⟨here, hy, h⟩ := except_bind_eq_ok.mp h
    obtain ⟨rest, hys, -⟩ := except_bind_eq_ok.mp h
    rcases List.mem_cons.mp hx with rfl | hx
    · exact ⟨here, hy⟩
    · exact ih hys hx

theorem completeIpo_ready {events : List Event} (hipo : s.exch.ipos.get? key = some ipo)
    (hne : ipo.indications.entries ≠ []) (h : completeIpo ctx key tick s = .ok events s') :
    ∃ firm allocations legs, IpoReady ctx.settings.exchange s ipo firm allocations legs := by
  unfold completeIpo at h
  obtain ⟨_, _, h₁, h⟩ := bind_eq_ok.mp h
  obtain ⟨rfl, rfl⟩ := exchangeNow_eq_ok.mp h₁
  obtain ⟨found, _, h₁, h⟩ := bind_eq_ok.mp h
  obtain ⟨hfound, rfl⟩ := orRaise_eq_ok.mp h₁
  have hsame : found = ipo := Option.some.inj (hfound.symm.trans hipo)
  subst hsame
  rcases ite_eq_ok.mp h with ⟨hempty, -⟩ | ⟨-, h⟩
  · exact absurd hempty hne
  obtain ⟨allocations, _, h₁, h⟩ := bind_eq_ok.mp h
  obtain ⟨halloc, rfl⟩ := liftE_eq_ok.mp h₁
  obtain ⟨priced, _, h₁, h⟩ := bind_eq_ok.mp h
  obtain ⟨log₁, rfl⟩ := emit_eq_ok h₁
  have hlog₁ : log₁.runId = s.log.runId := by
    cases h₁
    rfl
  obtain ⟨_, _, h₁, h⟩ := bind_eq_ok.mp h
  obtain ⟨rfl, rfl⟩ := economyNow_eq_ok.mp h₁
  obtain ⟨firmDeposit, _, h₁, h⟩ := bind_eq_ok.mp h
  obtain ⟨hfirm, rfl⟩ := liftE_eq_ok.mp h₁
  obtain ⟨firm, _, h₁, h⟩ := bind_eq_ok.mp h
  obtain ⟨hrow, rfl⟩ := orRaise_eq_ok.mp h₁
  obtain ⟨founderDeposit, _, h₁, h⟩ := bind_eq_ok.mp h
  obtain ⟨hfounder, rfl⟩ := liftE_eq_ok.mp h₁
  obtain ⟨underwriterDeposit, _, h₁, h⟩ := bind_eq_ok.mp h
  obtain ⟨hunderwriter, rfl⟩ := liftE_eq_ok.mp h₁
  obtain ⟨treasuryDeposit, _, h₁, h⟩ := bind_eq_ok.mp h
  obtain ⟨htreasury, rfl⟩ := liftE_eq_ok.mp h₁
  obtain ⟨allotted, _, h₁, h⟩ := bind_eq_ok.mp h
  obtain ⟨hallotted, rfl⟩ := (gather_liftE _).mp h₁
  obtain ⟨returned, _, h₁, h⟩ := bind_eq_ok.mp h
  obtain ⟨hreturned, rfl⟩ := gather_unallotted.mp h₁
  obtain ⟨fees, _, h₁, h⟩ := bind_eq_ok.mp h
  obtain ⟨hfees, rfl⟩ := liftE_eq_ok.mp h₁
  -- the transaction was taken
  obtain ⟨expected, _, h₁, h⟩ := bind_eq_ok.mp h
  obtain ⟨L₁, hL₁, rfl⟩ := onLedger_eq_ok.mp h₁
  obtain ⟨hsteady, haccounts, -⟩ := Steady.nextTxnId hL₁
  obtain ⟨completed, _, h₁, h⟩ := bind_eq_ok.mp h
  obtain ⟨log₂, rfl⟩ := emit_eq_ok h₁
  have hcompleted : completed.runId = log₁.runId := by
    cases h₁
    rfl
  obtain ⟨txn, _, h₁, h⟩ := bind_eq_ok.mp h
  obtain ⟨L₂, hpost, rfl⟩ := onLedger_eq_ok.mp h₁
  obtain ⟨hrun, deltas, hdeltas, -⟩ := settledDeltas_of_post hpost
  have htwo := (Ledger.post_eq_ok hpost).two_le
  obtain ⟨_, _, h₁, h⟩ := bind_eq_ok.mp h
  obtain ⟨-, rfl⟩ := require_eq_ok.mp h₁
  -- the symbol was free
  obtain ⟨_, _, h₁, h⟩ := bind_eq_ok.mp h
  obtain rfl := modifyExchange_eq_ok.mp h₁
  obtain ⟨listed, _, h₁, h⟩ := bind_eq_ok.mp h
  obtain ⟨⟨holders, -, hlist⟩, -, -⟩ := listSecurity_eq_ok h₁
  refine ⟨firm, allocations, allotted ++ returned ++ fees, ⟨halloc, hrow, ?_, ⟨htwo, deltas, ?_⟩,
    ?_, hlist.fresh⟩⟩
  · refine except_bind_eq_ok.mpr ⟨firmDeposit, hfirm, except_bind_eq_ok.mpr ⟨founderDeposit,
      hfounder, except_bind_eq_ok.mpr ⟨underwriterDeposit, hunderwriter, except_bind_eq_ok.mpr
      ⟨treasuryDeposit, htreasury, ?_⟩⟩⟩⟩
    exact except_bind_eq_ok.mpr ⟨allotted, hallotted, except_bind_eq_ok.mpr ⟨returned, hreturned,
      except_bind_eq_ok.mpr ⟨fees, hfees, rfl⟩⟩⟩
  · exact (settledDeltas_congr haccounts _).symm.trans hdeltas
  · rw [← hlog₁, ← hcompleted]
    exact hrun.trans hsteady.runId_eq

end Returns

end Polis.Economy.Exchange
