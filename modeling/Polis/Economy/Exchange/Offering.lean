/-
  Polis.Economy.Exchange.Offering — what a listing and the close of an
  offering did.

  Main results:
    * `listSecurity_eq_ok` — a listing adds the security and its initial
      holdings.
    * `completeIpo_eq_ok` — a closed book pays every indication out of its
      investor's escrow, exactly.
-/
import Polis.Economy.Exchange.Intake

namespace Polis.Economy.Exchange

open Lib Lib.Effect Sim

/-! ## Listing -/

/-- A security that was listed, with its initial holdings. -/
structure Listed (symbol : String) (shares : Int) (allocation : Dict String Int)
    (x x' : ExchangeState) : Prop where
  fresh : x.securities.get? symbol = none
  shares_pos : 0 < shares
  sum_eq : allocation.values.sum = shares
  securities_eq : ∃ security : SecurityState, security.sharesOutstanding = shares ∧
    x'.securities = x.securities.put symbol security
  holdings_eq : ∃ price locked,
    x'.holdings = (allot symbol price locked allocation.sortedEntries x).holdings
  orders_eq : x'.orders = x.orders
  shorts_eq : x'.shorts = x.shorts
  ipos_eq : x'.ipos = x.ipos

theorem resetIndexDivisor_eq (x : ExchangeState) : ∃ divisor,
    resetIndexDivisor x = { x with indexDivisor := divisor } := by
  unfold resetIndexDivisor
  dsimp only
  split_ifs
  · exact ⟨_, rfl⟩
  · exact ⟨x.indexDivisor, rfl⟩

theorem allot_eq (symbol : String) (price : Int) (locked : Option String)
    (rows : List (String × Int)) (x : ExchangeState) :
    allot symbol price locked rows x
      = { x with holdings := (allot symbol price locked rows { holdings := x.holdings }).holdings } := by
  induction rows generalizing x with
  | nil => rfl
  | cons row rows ih =>
    rw [allot, ih, allot, ih { holdings := _ }]
    rfl

theorem allot_holdings {x y : ExchangeState} (h : x.holdings = y.holdings) (symbol : String)
    (price : Int) (locked : Option String) (rows : List (String × Int)) :
    (allot symbol price locked rows x).holdings = (allot symbol price locked rows y).holdings := by
  rw [allot_eq symbol price locked rows x, allot_eq symbol price locked rows y, h]

section

variable {s s' : Sim}

/-- What a listing does: the checks it passed, and the state with the security added, the shares
    handed out and the index rebased. -/
structure Lists (symbol issuerFirmId : String) (shares price : Int) (holders : Dict String Int)
    (security : SecurityState) (locked : Option String) (allocation : Dict String Int)
    (s s' : Sim) : Prop where
  fresh : s.exch.securities.get? symbol = none
  shares_pos : 0 < shares
  holders_eq : initialHolders s.economy issuerFirmId shares holders = .ok allocation
  sum_eq : allocation.values.sum = shares
  outstanding_eq : security.sharesOutstanding = shares
  price_eq : security.lastPriceCents = price
  indexed : security.status = .listed ∧ security.securityClass = .common
  exch_eq : s'.exch = resetIndexDivisor (allot symbol price locked allocation.sortedEntries
    { s.exch with securities := s.exch.securities.put symbol security })
  trail_eq : s'.trail = s.trail
  books_eq : s'.books = s.books

theorem listSecurity_lists {symbol issuerFirmId : String} {shares price tick : Int}
    {holders : Dict String Int} {ipoRoundId : Option String} {lockup : Option Int}
    {events : List Event}
    (h : listSecurity symbol issuerFirmId shares price tick holders ipoRoundId lockup s
      = .ok events s') :
    ∃ security locked allocation,
      Lists (upper symbol) issuerFirmId shares price holders security locked allocation s s' := by
  unfold listSecurity at h
  obtain ⟨_, _, h₁, h⟩ := bind_eq_ok.mp h
  obtain ⟨rfl, rfl⟩ := economyNow_eq_ok.mp h₁
  obtain ⟨_, _, h₁, h⟩ := bind_eq_ok.mp h
  obtain ⟨hfresh, rfl⟩ := require_eq_ok.mp h₁
  obtain ⟨_, _, h₁, h⟩ := bind_eq_ok.mp h
  obtain ⟨hpos, rfl⟩ := require_eq_ok.mp h₁
  obtain ⟨allocation, _, h₁, h⟩ := bind_eq_ok.mp h
  obtain ⟨halloc, rfl⟩ := liftE_eq_ok.mp h₁
  obtain ⟨_, _, h₁, h⟩ := bind_eq_ok.mp h
  obtain ⟨hsum, rfl⟩ := require_eq_ok.mp h₁
  obtain ⟨_, _, h₁, h⟩ := bind_eq_ok.mp h
  obtain rfl := modifyExchange_eq_ok.mp h₁
  obtain ⟨locked, _, h₁, h⟩ := bind_eq_ok.mp h
  obtain ⟨-, rfl⟩ := liftE_eq_ok.mp h₁
  obtain ⟨_, _, h₁, h⟩ := bind_eq_ok.mp h
  obtain rfl := modifyExchange_eq_ok.mp h₁
  obtain ⟨_, _, h₁, h⟩ := bind_eq_ok.mp h
  obtain rfl := modifyExchange_eq_ok.mp h₁
  obtain ⟨event, _, h₁, h⟩ := bind_eq_ok.mp h
  obtain ⟨log, rfl⟩ := emit_eq_ok h₁
  obtain ⟨-, rfl⟩ := pure_eq_ok.mp h
  exact ⟨_, locked, allocation, {
    fresh := by simpa [Dict.contains] using hfresh
    shares_pos := hpos.1
    holders_eq := halloc
    sum_eq := hsum
    outstanding_eq := rfl
    price_eq := rfl
    indexed := ⟨rfl, rfl⟩
    exch_eq := rfl
    trail_eq := rfl
    books_eq := rfl }⟩

theorem listSecurity_eq_ok {symbol issuerFirmId : String} {shares price tick : Int}
    {holders : Dict String Int} {ipoRoundId : Option String} {lockup : Option Int}
    {events : List Event}
    (h : listSecurity symbol issuerFirmId shares price tick holders ipoRoundId lockup s
      = .ok events s') :
    (∃ allocation, initialHolders s.economy issuerFirmId shares holders = .ok allocation ∧
      Listed (upper symbol) shares allocation s.exch s'.exch) ∧
    s'.trail = s.trail ∧ s'.books = s.books := by
  obtain ⟨security, locked, allocation, hl⟩ := listSecurity_lists h
  refine ⟨⟨allocation, hl.holders_eq, ?_⟩, hl.trail_eq, hl.books_eq⟩
  obtain ⟨divisor, hd⟩ := resetIndexDivisor_eq (allot (upper symbol) price locked
    allocation.sortedEntries
    { s.exch with securities := s.exch.securities.put (upper symbol) security })
  rw [hl.exch_eq, hd, allot_eq]
  exact {
    fresh := hl.fresh
    shares_pos := hl.shares_pos
    sum_eq := hl.sum_eq
    securities_eq := ⟨security, hl.outstanding_eq, rfl⟩
    holdings_eq := ⟨price, locked,
      (congrArg ExchangeState.holdings (allot_eq _ price locked _ s.exch)).symm⟩
    orders_eq := rfl
    shorts_eq := rfl
    ipos_eq := rfl }

end

/-! ## The legs of a closing -/

/-- What an offering has reserved of an investor. -/
def indicatedBy (ipo : IpoState) (investor : String) : Int :=
  (ipo.indications.get? investor).elim 0 fun i => i.1 * i.2

/-- The moves take `cents t` out of the escrow of each trader `t`. -/
def Drains (cents : String → Int) (ms : List Move) : Prop :=
  ∀ t, moved (escrowWeight t) ms = -cents t

theorem Drains.nil : Drains (fun _ => 0) [] := fun _ => by simp

theorem Drains.append {c c' : String → Int} {ms ms' : List Move} (h : Drains c ms)
    (h' : Drains c' ms') : Drains (fun t => c t + c' t) (ms ++ ms') := by
  intro t
  rw [moved_append, h t, h' t]
  ring

theorem Outflow.drains {ownerId : String} {c : Int} {ms : List Move} (h : Outflow ownerId c ms) :
    Drains (fun t => if ownerId = t then c else 0) ms := by
  intro t
  rw [h.moved t]
  show _ = -(if ownerId = t then c else 0)
  split_ifs
  · rfl
  · rfl

theorem drains_deposits {ms : List Move} (h : ∀ m ∈ ms, m.src.code = .dep ∧ m.dst.code = .dep) :
    Drains (fun _ => 0) ms := by
  intro t
  induction ms with
  | nil => simp
  | cons m ms ih =>
    obtain ⟨hs, hd⟩ := h m List.mem_cons_self
    rw [moved_cons, ih fun x hx => h x (List.mem_cons_of_mem _ hx)]
    simp [escrowWeight, hs, hd]

theorem gather_drains {α : Type} {f : α → EngineM (List Leg)} {xs : List α} {c : α → String → Int}
    (hf : ∀ a ∈ xs, ∀ s legs s', f a s = .ok legs s' →
      s = s' ∧ ∃ ms, Pays ms legs ∧ Drains (c a) ms)
    {s s' : Sim} {legs : List Leg} (h : gather f xs s = .ok legs s') :
    s = s' ∧ ∃ ms, Pays ms legs ∧ Drains (fun t => (xs.map fun a => c a t).sum) ms := by
  induction xs generalizing s legs with
  | nil =>
    obtain ⟨rfl, rfl⟩ := pure_eq_ok.mp h
    exact ⟨rfl, [], .nil, .nil⟩
  | cons a xs ih =>
    obtain ⟨here, t, rest, ha, hxs, rfl⟩ := gather_cons_eq_ok.mp h
    obtain ⟨rfl, ms, hp, hd⟩ := hf a List.mem_cons_self _ _ _ ha
    obtain ⟨rfl, ms', hp', hd'⟩ := ih (fun b hb => hf b (List.mem_cons_of_mem _ hb)) hxs
    exact ⟨rfl, _, hp.append hp', hd.append hd'⟩

theorem legsIf_outflow {c : Prop} [Decidable c] {L : Ledger} {ownerId ref : String}
    {escrow deposit : AccountId} {cents : Int} {reason : String} {legs : List Leg}
    (hz : ¬c → cents = 0) (he : escrowId L ownerId ref = .ok escrow)
    (hd : deposit.code = .dep)
    (h : legsIf c (Ledger.transfer escrow deposit cents reason) = .ok legs) :
    ∃ ms, Pays ms legs ∧ Outflow ownerId cents ms := by
  unfold legsIf at h
  split_ifs at h with hc
  · obtain ⟨hec, ho, -⟩ := escrowId_eq_ok he
    refine ⟨_, .single h, fun m hm => ?_, by simp⟩
    rw [List.mem_singleton] at hm
    subst hm
    exact ⟨hec, ho, hd⟩
  · cases h
    rw [hz hc]
    exact ⟨[], .nil, .nil _⟩

theorem primary_unpaid {paid primarySold sold : Int}
    (h : ¬(paid ≠ 0 ∧ paid * primarySold / max 1 sold ≠ 0)) :
    paid * primarySold / max 1 sold = 0 := by
  by_cases hp : paid = 0
  · rw [hp, Int.zero_mul, Int.zero_ediv]
  · by_contra hq
    exact h ⟨hp, hq⟩

theorem secondary_unpaid {paid primarySold sold : Int}
    (h : ¬(paid ≠ 0 ∧ paid - paid * primarySold / max 1 sold ≠ 0)) :
    paid - paid * primarySold / max 1 sold = 0 := by
  by_cases hp : paid = 0
  · rw [hp, Int.zero_mul, Int.zero_ediv, Int.sub_zero]
  · by_contra hq
    exact h ⟨hp, hq⟩

theorem allottedLegs_eq_ok {L : Ledger} {ipo : IpoState} {offer sold primarySold : Int}
    {firmDeposit founderDeposit : AccountId} {investor : String} {allocation : Int}
    {legs : List Leg} (hf : firmDeposit.code = .dep) (hfo : founderDeposit.code = .dep)
    (h : allottedLegs L ipo offer sold primarySold firmDeposit founderDeposit investor allocation
      = .ok legs) :
    ':' ∉ investor.toList ∧
      ∃ ms, Pays ms legs ∧ Outflow investor (indicatedBy ipo investor) ms := by
  unfold allottedLegs at h
  obtain ⟨escrow, he, h⟩ := except_bind_eq_ok.mp h
  have hname : ':' ∉ investor.toList := by
    obtain ⟨-, ho, -⟩ := escrowId_eq_ok he
    rw [← ho]
    exact escrow.colon_notMem_owner
  refine ⟨hname, ?_⟩
  cases hi : ipo.indications.get? investor with
  | none => rw [hi] at h; cases h
  | some indication =>
    obtain ⟨qty, price⟩ := indication
    rw [hi] at h
    dsimp only at h
    obtain ⟨toFirm, h₁, h⟩ := except_bind_eq_ok.mp h
    obtain ⟨toFounder, h₂, h⟩ := except_bind_eq_ok.mp h
    obtain ⟨toInvestor, h₃, h⟩ := except_bind_eq_ok.mp h
    cases h
    obtain ⟨ms₁, p₁, o₁⟩ := legsIf_outflow primary_unpaid he hf h₁
    obtain ⟨ms₂, p₂, o₂⟩ := legsIf_outflow secondary_unpaid he hfo h₂
    have hrelease : ∃ ms, Pays ms toInvestor ∧
        Outflow investor (qty * price - allocation * offer) ms := by
      unfold legsIf at h₃
      split_ifs at h₃ with hr
      · obtain ⟨deposit, hd, h₃⟩ := except_bind_eq_ok.mp h₃
        exact ⟨_, .single h₃, .transfer he hd⟩
      · cases h₃
        rw [not_not] at hr
        rw [hr]
        exact ⟨[], .nil, .nil _⟩
    obtain ⟨ms₃, p₃, o₃⟩ := hrelease
    refine ⟨_, (p₁.append p₂).append p₃, ?_⟩
    have ho := (o₁.append o₂).append o₃
    have hsum : allocation * offer * primarySold / max 1 sold
        + (allocation * offer - allocation * offer * primarySold / max 1 sold)
        + (qty * price - allocation * offer) = indicatedBy ipo investor := by
      simp only [indicatedBy, hi, Option.elim_some]
      ring
    rwa [hsum] at ho

theorem returnedLegs_eq_ok {L : Ledger} {investor : String} {indication : Int × Int}
    {legs : List Leg} (h : returnedLegs L investor indication = .ok legs) :
    ∃ ms, Pays ms legs ∧ Outflow investor (indication.1 * indication.2) ms := by
  unfold returnedLegs at h
  obtain ⟨escrow, he, h⟩ := except_bind_eq_ok.mp h
  obtain ⟨deposit, hd, h⟩ := except_bind_eq_ok.mp h
  exact ⟨_, .single h, .transfer he hd⟩

theorem legsIf_deposits {c : Prop} [Decidable c] {src dst : AccountId} {cents : Int}
    {reason : String} {legs : List Leg} (hs : src.code = .dep) (hd : dst.code = .dep)
    (h : legsIf c (Ledger.transfer src dst cents reason) = .ok legs) :
    ∃ ms, Pays ms legs ∧ ∀ m ∈ ms, m.src.code = .dep ∧ m.dst.code = .dep := by
  unfold legsIf at h
  split_ifs at h
  · refine ⟨_, .single h, fun m hm => ?_⟩
    rw [List.mem_singleton] at hm
    subst hm
    exact ⟨hs, hd⟩
  · cases h
    exact ⟨[], .nil, fun m hm => absurd hm List.not_mem_nil⟩

theorem feeLegs_eq_ok {firmDeposit underwriterDeposit treasuryDeposit : AccountId}
    {underwritingFee listingFee : Int} {legs : List Leg} (hf : firmDeposit.code = .dep)
    (hu : underwriterDeposit.code = .dep) (ht : treasuryDeposit.code = .dep)
    (h : feeLegs firmDeposit underwriterDeposit treasuryDeposit underwritingFee listingFee
      = .ok legs) : ∃ ms, Pays ms legs ∧ Drains (fun _ => 0) ms := by
  unfold feeLegs at h
  obtain ⟨toUnderwriter, h₁, h⟩ := except_bind_eq_ok.mp h
  obtain ⟨toTreasury, h₂, h⟩ := except_bind_eq_ok.mp h
  cases h
  obtain ⟨ms₁, p₁, d₁⟩ := legsIf_deposits hf hu h₁
  obtain ⟨ms₂, p₂, d₂⟩ := legsIf_deposits hf ht h₂
  refine ⟨_, p₁.append p₂, drains_deposits fun m hm => ?_⟩
  rcases List.mem_append.mp hm with hm | hm
  · exact d₁ m hm
  · exact d₂ m hm

/-- What an allotted investor's legs drain. -/
def allottedCents (ipo : IpoState) (a : String × Int) (t : String) : Int :=
  if a.1 = t then indicatedBy ipo a.1 else 0

/-- What the legs of an indication drain when it was not allotted. -/
def returnedCents (allocations : Dict String Int) (i : String × Int × Int) (t : String) : Int :=
  if i.1 = t then (if allocations.contains i.1 then 0 else i.2.1 * i.2.2) else 0

theorem indications_drained (ipo : IpoState) (allocations : Dict String Int) (t : String) :
    (allocations.sortedEntries.map fun a => allottedCents ipo a t).sum
      + (ipo.indications.sortedEntries.map fun i => returnedCents allocations i t).sum
      = indicatedBy ipo t := by
  unfold allottedCents returnedCents
  rw [Dict.sum_sortedEntries allocations fun k _ => if k = t then indicatedBy ipo k else 0,
    Dict.sum_sortedEntries ipo.indications fun k i =>
      if k = t then (if allocations.contains k then 0 else i.1 * i.2) else 0,
    Dict.total_single allocations t fun k _ => indicatedBy ipo k,
    Dict.total_single ipo.indications t fun k i => if allocations.contains k then 0 else i.1 * i.2]
  unfold Dict.weightAt Dict.contains indicatedBy
  cases ha : allocations.get? t <;> cases hi : ipo.indications.get? t <;> simp [ha, hi]

/-! ## Closing an offering -/

/-- The exchange with another status of an offering. -/
def withIpoStatus (key : String) (status : IpoStatus) (x : ExchangeState) : ExchangeState :=
  { x with ipos := x.ipos.modify key fun row => { row with status } }

/-- A closed book without indications. -/
structure Failed (key : String) (ipo : IpoState) (s s' : Sim) : Prop where
  ipo_at : s.exch.ipos.get? key = some ipo
  empty : ipo.indications.entries = []
  eq : s' = s.putExch (withIpoStatus key .failed s.exch)

/-- A closed book whose security was listed. -/
structure Completed (key : String) (ipo : IpoState) (s s' : Sim) : Prop where
  ipo_at : s.exch.ipos.get? key = some ipo
  trail_eq : s'.trail = s.trail
  moved : ∃ ms, Moved ms s.books s'.books ∧ Drains (indicatedBy ipo) ms
  listed : ∃ symbol shares allocation,
    Listed symbol shares allocation (withIpoStatus key .completed s.exch) s'.exch ∧
    ∀ k q, allocation.get? k = some q → 0 ≤ q ∧ ':' ∉ k.toList

section

variable [Uuid5] {s s' : Sim}

omit [Uuid5] in
theorem holders_ok {cfg : ExchangeSettings} {ipo : IpoState} {sold : Int}
    {candidates : List (String × Int)} {allocations : Dict String Int} {founderId : String}
    (ha : allocate sold candidates = .ok allocations) (hsold : sold ≤ ipo.sharesOffered)
    (hnames : ∀ a ∈ allocations.sortedEntries, ':' ∉ a.1.toList) (hf : ':' ∉ founderId.toList)
    {k : String} {q : Int}
    (h : (allocations.put founderId (allocations.getD founderId 0
      + max cfg.bootstrapShares ipo.sharesOffered - sold)).get? k = some q) :
    0 ≤ q ∧ ':' ∉ k.toList := by
  rw [Dict.get?_put] at h
  split_ifs at h with hk
  · refine ⟨?_, hk ▸ hf⟩
    rw [Option.some.injEq] at h
    have hfounder : 0 ≤ allocations.getD founderId 0 := by
      unfold Dict.getD
      cases hg : allocations.get? founderId with
      | none => exact le_refl 0
      | some v => exact allocate_nonneg ha hg
    have := le_max_right cfg.bootstrapShares ipo.sharesOffered
    omega
  · refine ⟨allocate_nonneg ha h, hnames (k, q) ?_⟩
    exact Dict.mem_sortedEntries.mpr (Dict.mem_entries_iff.mpr h)

theorem completeIpo_eq_ok {ctx : Ctx} {key : String} {tick : Int} {events : List Event}
    (h : completeIpo ctx key tick s = .ok events s') :
    ∃ ipo, Failed key ipo s s' ∨ Completed key ipo s s' := by
  unfold completeIpo at h
  obtain ⟨_, _, h₁, h⟩ := bind_eq_ok.mp h
  obtain ⟨rfl, rfl⟩ := exchangeNow_eq_ok.mp h₁
  obtain ⟨ipo, _, h₁, h⟩ := bind_eq_ok.mp h
  obtain ⟨hipo, rfl⟩ := orRaise_eq_ok.mp h₁
  refine ⟨ipo, ?_⟩
  rcases ite_eq_ok.mp h with ⟨hempty, h⟩ | ⟨-, h⟩
  · obtain ⟨_, _, h₁, h⟩ := bind_eq_ok.mp h
    obtain rfl := modifyExchange_eq_ok.mp h₁
    obtain ⟨-, rfl⟩ := pure_eq_ok.mp h
    exact .inl ⟨hipo, hempty, rfl⟩
  right
  obtain ⟨allocations, _, h₁, h⟩ := bind_eq_ok.mp h
  obtain ⟨halloc, rfl⟩ := liftE_eq_ok.mp h₁
  obtain ⟨priced, _, h₁, h⟩ := bind_eq_ok.mp h
  obtain ⟨log₁, rfl⟩ := emit_eq_ok h₁
  obtain ⟨_, _, h₁, h⟩ := bind_eq_ok.mp h
  obtain ⟨rfl, rfl⟩ := economyNow_eq_ok.mp h₁
  obtain ⟨firmDeposit, _, h₁, h⟩ := bind_eq_ok.mp h
  obtain ⟨hfd, rfl⟩ := liftE_eq_ok.mp h₁
  obtain ⟨firm, _, h₁, h⟩ := bind_eq_ok.mp h
  obtain ⟨-, rfl⟩ := orRaise_eq_ok.mp h₁
  obtain ⟨founderDeposit, _, h₁, h⟩ := bind_eq_ok.mp h
  obtain ⟨hfo, rfl⟩ := liftE_eq_ok.mp h₁
  obtain ⟨underwriterDeposit, _, h₁, h⟩ := bind_eq_ok.mp h
  obtain ⟨hud, rfl⟩ := liftE_eq_ok.mp h₁
  obtain ⟨treasuryDeposit, _, h₁, h⟩ := bind_eq_ok.mp h
  obtain ⟨htd, rfl⟩ := liftE_eq_ok.mp h₁
  obtain ⟨allotted, _, ha, h⟩ := bind_eq_ok.mp h
  obtain ⟨returned, _, hr, h⟩ := bind_eq_ok.mp h
  obtain ⟨fees, _, h₁, h⟩ := bind_eq_ok.mp h
  have hfc := (depositAccount_eq_ok hfd).1
  have hfoc := (depositAccount_eq_ok hfo).1
  have huc := (depositAccount_eq_ok hud).1
  have htc := (depositAccount_eq_ok htd).1
  -- the three groups of legs
  have hallot : ∀ a ∈ allocations.sortedEntries, ∀ t legs t',
      (liftE (allottedLegs s.books ipo (offerPrice ctx.settings.exchange (clearingPrice ipo))
        (min ipo.sharesOffered ((eligible ipo
          (offerPrice ctx.settings.exchange (clearingPrice ipo))).map Prod.snd).sum)
        (min ipo.primaryShares (min ipo.sharesOffered ((eligible ipo
          (offerPrice ctx.settings.exchange (clearingPrice ipo))).map Prod.snd).sum))
        firmDeposit founderDeposit a.1 a.2) : EngineM (List Leg)) t = .ok legs t' →
      t = t' ∧ ∃ ms, Pays ms legs ∧ Drains (allottedCents ipo a) ms := by
    intro a _ t legs t' hlegs
    obtain ⟨hl, rfl⟩ := liftE_eq_ok.mp hlegs
    obtain ⟨-, ms, hp, ho⟩ := allottedLegs_eq_ok hfc hfoc hl
    exact ⟨rfl, ms, hp, ho.drains⟩
  have hnames : ∀ a ∈ allocations.sortedEntries, ':' ∉ a.1.toList := by
    intro a hmem
    obtain ⟨t, legs, t', hrun⟩ := gather_runs ha a hmem
    obtain ⟨hl, -⟩ := liftE_eq_ok.mp hrun
    exact (allottedLegs_eq_ok hfc hfoc hl).1
  have hreturn : ∀ i ∈ ipo.indications.sortedEntries, ∀ t legs t',
      (if allocations.contains i.1 then pure []
        else liftE (returnedLegs s.books i.1 i.2) : EngineM (List Leg)) t = .ok legs t' →
      t = t' ∧ ∃ ms, Pays ms legs ∧ Drains (returnedCents allocations i) ms := by
    intro i _ t legs t' hlegs
    unfold returnedCents
    rcases ite_eq_ok.mp hlegs with ⟨hc, hlegs⟩ | ⟨hc, hlegs⟩
    · obtain ⟨rfl, rfl⟩ := pure_eq_ok.mp hlegs
      refine ⟨rfl, [], .nil, ?_⟩
      simp only [hc, if_true, ite_self]
      exact .nil
    · obtain ⟨hl, rfl⟩ := liftE_eq_ok.mp hlegs
      obtain ⟨ms, hp, ho⟩ := returnedLegs_eq_ok hl
      refine ⟨rfl, ms, hp, ?_⟩
      simp only [hc, if_false, Bool.false_eq_true]
      exact ho.drains
  obtain ⟨rfl, ms₁, p₁, d₁⟩ := gather_drains hallot ha
  obtain ⟨rfl, ms₂, p₂, d₂⟩ := gather_drains hreturn hr
  obtain ⟨hfees, rfl⟩ := liftE_eq_ok.mp h₁
  obtain ⟨ms₃, p₃, d₃⟩ := feeLegs_eq_ok hfc huc htc hfees
  -- the transaction
  obtain ⟨expected, _, h₁, h⟩ := bind_eq_ok.mp h
  obtain ⟨L₁, hL₁, rfl⟩ := onLedger_eq_ok.mp h₁
  obtain ⟨completed, _, h₁, h⟩ := bind_eq_ok.mp h
  obtain ⟨log₂, rfl⟩ := emit_eq_ok h₁
  obtain ⟨txn, _, h₁, h⟩ := bind_eq_ok.mp h
  obtain ⟨L₂, hL₂, rfl⟩ := post_eq_ok h₁
  obtain ⟨_, _, h₁, h⟩ := bind_eq_ok.mp h
  obtain ⟨-, rfl⟩ := require_eq_ok.mp h₁
  -- the listing
  obtain ⟨_, _, h₁, h⟩ := bind_eq_ok.mp h
  obtain rfl := modifyExchange_eq_ok.mp h₁
  obtain ⟨listed, _, h₁, h⟩ := bind_eq_ok.mp h
  obtain ⟨⟨allocation, hinit, hlisted⟩, htrail, hbooks⟩ := listSecurity_eq_ok h₁
  obtain ⟨-, rfl⟩ := pure_eq_ok.mp h
  have hholders : allocation = allocations.put firm.founderId
      (allocations.getD firm.founderId 0 + max ctx.settings.exchange.bootstrapShares
        ipo.sharesOffered - min ipo.sharesOffered ((eligible ipo
          (offerPrice ctx.settings.exchange (clearingPrice ipo))).map Prod.snd).sum) := by
    unfold initialHolders at hinit
    rw [if_neg (Dict.put_entries_ne_nil _ _ _)] at hinit
    exact (Except.ok.inj hinit).symm
  refine ⟨hipo, htrail, ⟨ms₁ ++ ms₂ ++ ms₃, ?_, fun t => ?_⟩, _, _, allocation, hlisted,
    fun k q hk => ?_⟩
  · rw [hbooks]
    exact (Moved.nextTxnId hL₁).trans (.coalesced ((p₁.append p₂).append p₃) hL₂)
  · rw [((d₁.append d₂).append d₃) t, ← indications_drained ipo allocations t]
    ring
  · rw [hholders] at hk
    exact holders_ok halloc (min_le_left _ _) hnames (depositAccount_owner hfo) hk

end

end Polis.Economy.Exchange
