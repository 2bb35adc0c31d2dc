/-
  Polis.Economy.Estate.Interests — what the deceased owned passes on
  (`economy/estate.py`).

  The shares of every security and of every cap table row the deceased held are
  split among the recipients, and the firms it founded get a new founder.

  Main results:
    * `transferInterests_shares` — shares are conserved for every symbol.
    * `shares_and_orders` — the share law and the order laws over whole runs of
      the exchange and of estates.
-/
import Polis.Economy.Exchange.Shares
import Polis.Economy.Exchange.Calls

namespace Polis.Economy.Estate

open Lib Lib.Effect Sim Exchange Relation

/-! ## Transfer -/

/-- The heirs with a weight, else the treasury. -/
def recipientsOf (heirs : List (String × Int)) : List (String × Int) :=
  let weighted := heirs.filter fun h => 0 < h.2
  if weighted = [] then [("gv_treasury", 1)] else weighted

/-- Add shares to a holding. -/
def addShares (recipient symbol : String) (qty : Int) (x : ExchangeState) : ExchangeState :=
  let target := x.holdingRow recipient symbol
  x.putHolding recipient symbol { target with qty := target.qty + qty }

/-- Add the shares of each recipient to its holding. -/
def giveShares (symbol : String) : List (String × Int) → ExchangeState → ExchangeState
  | [], x => x
  | (recipient, qty) :: rest, x =>
    giveShares symbol rest (if qty = 0 then x else addShares recipient symbol qty x)

/-- Pass one holding of the deceased on. -/
def passHolding (agentId : String) (recipients : List (String × Int)) (key : String) :
    EngineM Unit := do
  let x ← exchangeNow
  let holding ← orRaise (x.holdings.get? key) (.key key)
  if holding.holderId ≠ agentId ∨ holding.qty ≤ 0 then pure ()
  else
    let allocations ← liftE (allocate holding.qty recipients)
    require (allocations.values.sum = holding.qty)
      (.runtime ("security allocation lost quantity for " ++ agentId))
    modifyExchange fun x =>
      let x := giveShares holding.symbol allocations.sortedEntries x
      { x with holdings := x.holdings.modify key fun h =>
          { h with qty := 0, reservedQty := 0, lockedQty := 0 } }

/-- Add the shares of each recipient to its cap table row, which starts as a
copy of the row that is passed on. -/
def giveCapShares (row : CapTableState) :
    List (String × Int) → Dict String CapTableState → Dict String CapTableState
  | [], table => table
  | (recipient, shares) :: rest, table =>
    if shares ≤ 0 then giveCapShares row rest table
    else
      let key := capKey row.firmId recipient row.shareClass
      let target := (table.get? key).getD { row with holderId := recipient, shares := 0 }
      giveCapShares row rest (table.put key { target with shares := target.shares + shares })

/-- Write the ventures. -/
def modifyVentures (f : VentureState → VentureState) : EngineM Unit :=
  modifyEconomy fun e => { e with ventures := f e.ventures }

/-- Pass one cap table row of the deceased on. -/
def passCapRow (agentId : String) (recipients : List (String × Int)) (key : String) :
    EngineM Unit := do
  let e ← economyNow
  let row ← orRaise (e.ventures.capTable.get? key) (.key key)
  if row.holderId ≠ agentId ∨ row.shares ≤ 0 then pure ()
  else
    let allocations ← liftE (allocate row.shares recipients)
    require (allocations.values.sum = row.shares)
      (.runtime ("cap table allocation lost shares for " ++ agentId))
    modifyVentures fun v => { v with
      capTable := giveCapShares row allocations.sortedEntries (v.capTable.erase key) }

/-- The recipient of the largest weight, the first of them by id. -/
def primaryOf (recipients : List (String × Int)) : Except PyError String :=
  match sortedBy (fun r : String × Int => toLex (-r.2, r.1)) recipients with
  | [] => .error (.value "min() arg is an empty sequence")
  | r :: _ => .ok r.1

/-- `_transfer_interests(agent_id, heirs)`. -/
def transferInterests (agentId : String) (heirs : List (String × Int)) : EngineM Unit := do
  let recipients := recipientsOf heirs
  let e ← economyNow
  each (passHolding agentId recipients) e.exchange.holdings.keys
  let e ← economyNow
  each (passCapRow agentId recipients) (e.ventures.capTable.sortedEntries.map Prod.fst)
  let primary ← liftE (primaryOf recipients)
  modifyEconomy fun e => { e with
    firms := e.firms.mapValues fun _ f =>
      if f.founderId = agentId then { f with founderId := primary } else f }

/-! ## What a transfer keeps -/

/-- Only holdings, cap table and founders change, and every symbol keeps its
shares. -/
structure Inherits (s s' : Sim) : Prop where
  exch_eq : s'.exch = { s.exch with holdings := s'.exch.holdings }
  books_eq : s'.books = s.books
  trail_eq : s'.trail = s.trail
  shares : Apart s.exch → RowsOk s.exch →
    RowsOk s'.exch ∧ ∀ a, sharesOf s'.exch a = sharesOf s.exch a

theorem Inherits.refl (s : Sim) : Inherits s s := ⟨rfl, rfl, rfl, fun _ h => ⟨h, fun _ => rfl⟩⟩

theorem Inherits.apart {s s' : Sim} (h : Inherits s s') (ha : Apart s.exch) : Apart s'.exch := by
  intro a b hx hy
  rw [h.exch_eq] at hx hy
  exact ha a b hx hy

theorem Inherits.trans {s₁ s₂ s₃ : Sim} (h : Inherits s₁ s₂) (h' : Inherits s₂ s₃) :
    Inherits s₁ s₃ := by
  refine ⟨?_, h'.books_eq.trans h.books_eq, h'.trail_eq.trans h.trail_eq, fun hap hrows => ?_⟩
  · rw [h'.exch_eq, h.exch_eq]
  · obtain ⟨hrows₂, hsum₂⟩ := h.shares hap hrows
    obtain ⟨hrows₃, hsum₃⟩ := h'.shares (h.apart hap) hrows₂
    exact ⟨hrows₃, fun a => (hsum₃ a).trans (hsum₂ a)⟩

theorem inherits_outside {s : Sim} {e : EconomyState} (hx : e.exchange = s.exch)
    (hb : e.ledger = s.books) : Inherits s { s with economy := e } := by
  have hexch : ({ s with economy := e } : Sim).exch = s.exch := hx
  refine ⟨by rw [hexch], hb, rfl, fun _ hrows => ?_⟩
  rw [hexch]
  exact ⟨hrows, fun _ => rfl⟩

theorem giveShares_eq (symbol : String) (rows : List (String × Int)) (x : ExchangeState) :
    giveShares symbol rows x
      = { x with holdings := (giveShares symbol rows x).holdings } := by
  induction rows generalizing x with
  | nil => rfl
  | cons r rows ih =>
    rw [giveShares, ih]
    split_ifs
    · rfl
    · rfl

theorem giveShares_spec {agentId symbol : String} {rows : List (String × Int)}
    {x : ExchangeState} (hnot : ∀ r ∈ rows, r.1 ≠ agentId) (hap : Apart x) (hrows : RowsOk x)
    (hs : x.securities.get? symbol ≠ none) :
    RowsOk (giveShares symbol rows x) ∧
    (∀ a, sharesOf (giveShares symbol rows x) a
      = sharesOf x a + if symbol = a then (rows.map Prod.snd).sum else 0) ∧
    (giveShares symbol rows x).holdings.get? (holdingKey agentId symbol)
      = x.holdings.get? (holdingKey agentId symbol) := by
  induction rows generalizing x with
  | nil =>
    refine ⟨hrows, fun a => ?_, rfl⟩
    rw [List.map_nil, List.sum_nil, ite_self, add_zero]
    rfl
  | cons r rows ih =>
    obtain ⟨recipient, qty⟩ := r
    have hnot' : ∀ r ∈ rows, r.1 ≠ agentId := fun r hr => hnot r (List.mem_cons_of_mem _ hr)
    rw [giveShares]
    by_cases hz : qty = 0
    · rw [if_pos hz]
      obtain ⟨h₁, h₂, h₃⟩ := ih hnot' hap hrows hs
      refine ⟨h₁, fun a => ?_, h₃⟩
      rw [h₂ a, List.map_cons, List.sum_cons, hz, zero_add]
    · rw [if_neg hz]
      have hap' : Apart (addShares recipient symbol qty x) := hap
      have hput : RowsOk (addShares recipient symbol qty x) ∧
          ∀ a, sharesOf (addShares recipient symbol qty x) a
            = sharesOf x a + if symbol = a then qty else 0 := by
        obtain ⟨hr, hgain⟩ := @RowsOk.put x hrows hap recipient symbol hs
          { x.holdingRow recipient symbol with
            qty := (x.holdingRow recipient symbol).qty + qty } rfl rfl
        refine ⟨hr, fun a => (hgain a).trans ?_⟩
        dsimp only
        rw [add_sub_cancel_left]
      obtain ⟨h₁, h₂, h₃⟩ := ih hnot' hap' hput.1 hs
      refine ⟨h₁, fun a => ?_, h₃.trans ?_⟩
      · rw [h₂ a, hput.2 a, List.map_cons, List.sum_cons]
        dsimp only
        split_ifs
        · ring
        · ring
      · have hkey : holdingKey agentId symbol ≠ holdingKey recipient symbol := fun he =>
          hnot _ List.mem_cons_self (hap.key_inj hs hs he).1.symm
        exact Dict.get?_put_of_ne hkey

theorem passHolding_inherits {agentId : String} {recipients : List (String × Int)} {key : String}
    (hnot : agentId ∉ recipients.map Prod.fst) :
    Within Inherits (passHolding agentId recipients key) := by
  intro s u s' h
  unfold passHolding at h
  obtain ⟨_, _, h₁, h⟩ := bind_eq_ok.mp h
  obtain ⟨rfl, rfl⟩ := exchangeNow_eq_ok.mp h₁
  obtain ⟨holding, _, h₁, h⟩ := bind_eq_ok.mp h
  obtain ⟨hrow, rfl⟩ := orRaise_eq_ok.mp h₁
  rcases ite_eq_ok.mp h with ⟨-, h⟩ | ⟨hown, h⟩
  · obtain ⟨-, rfl⟩ := pure_eq_ok.mp h
    exact .refl _
  rw [not_or, not_not] at hown
  obtain ⟨allocations, _, h₁, h⟩ := bind_eq_ok.mp h
  obtain ⟨hal, rfl⟩ := liftE_eq_ok.mp h₁
  obtain ⟨_, _, h₁, h⟩ := bind_eq_ok.mp h
  obtain ⟨hsum, rfl⟩ := require_eq_ok.mp h₁
  obtain rfl := modifyExchange_eq_ok.mp h
  have hothers : ∀ r ∈ allocations.sortedEntries, r.1 ≠ agentId := by
    intro r hr he
    have hget := Dict.mem_entries_iff.mp ((Dict.sortedEntries_perm allocations).mem_iff.mp hr)
    have hmem := (allocate_isSome hal r.1).mp (by rw [hget]; rfl)
    rw [he] at hmem
    exact hnot hmem
  have htotal : (allocations.sortedEntries.map Prod.snd).sum = holding.qty := by
    rw [← hsum]
    exact (((Dict.sortedEntries_perm allocations).map Prod.snd).sum_eq).trans rfl
  refine ⟨?_, rfl, rfl, fun hap hrows => ?_⟩
  · show ({ giveShares holding.symbol allocations.sortedEntries s.exch with holdings := _ } :
      ExchangeState) = _
    rw [giveShares_eq]
    rfl
  obtain ⟨hkey, hlisted⟩ := hrows _ _ hrow
  rw [hown.1] at hkey
  obtain ⟨hgiven, hadd, hstay⟩ := giveShares_spec hothers hap hrows hlisted
  refine ⟨fun k r hk => ?_, fun a => ?_⟩
  · have hk : ((giveShares holding.symbol allocations.sortedEntries s.exch).holdings.modify key
      fun h => { h with qty := 0, reservedQty := 0, lockedQty := 0 }).get? k = some r := hk
    rw [Dict.get?_modify] at hk
    split_ifs at hk with hsame
    · obtain ⟨r₀, hr₀, rfl⟩ := Option.map_eq_some_iff.mp hk
      rw [hsame]
      exact hgiven key r₀ hr₀
    · exact hgiven k r hk
  · show Dict.total ((giveShares holding.symbol allocations.sortedEntries s.exch).holdings.modify key
      fun h => { h with qty := 0, reservedQty := 0, lockedQty := 0 }) _ = _
    rw [Dict.total_modify, hkey, hstay, ← hkey, hrow]
    have hgivenSum := hadd a
    rw [htotal] at hgivenSum
    unfold sharesOf at hgivenSum ⊢
    rw [hgivenSum]
    simp only [Option.elim_some]
    split_ifs
    · ring
    · ring

theorem passCapRow_inherits {agentId : String} {recipients : List (String × Int)} {key : String} :
    Within Inherits (passCapRow agentId recipients key) := by
  intro s u s' h
  unfold passCapRow at h
  obtain ⟨_, _, h₁, h⟩ := bind_eq_ok.mp h
  obtain ⟨rfl, rfl⟩ := economyNow_eq_ok.mp h₁
  obtain ⟨row, _, h₁, h⟩ := bind_eq_ok.mp h
  obtain ⟨-, rfl⟩ := orRaise_eq_ok.mp h₁
  rcases ite_eq_ok.mp h with ⟨-, h⟩ | ⟨-, h⟩
  · obtain ⟨-, rfl⟩ := pure_eq_ok.mp h
    exact .refl _
  obtain ⟨allocations, _, h₁, h⟩ := bind_eq_ok.mp h
  obtain ⟨-, rfl⟩ := liftE_eq_ok.mp h₁
  obtain ⟨_, _, h₁, h⟩ := bind_eq_ok.mp h
  obtain ⟨-, rfl⟩ := require_eq_ok.mp h₁
  obtain rfl := modifyEconomy_eq_ok.mp h
  exact inherits_outside rfl rfl

theorem transferInterests_shares {agentId : String} {heirs : List (String × Int)}
    (hnot : agentId ∉ (recipientsOf heirs).map Prod.fst) :
    Within Inherits (transferInterests agentId heirs) := by
  intro s u s' h
  unfold transferInterests at h
  obtain ⟨_, _, h₁, h⟩ := bind_eq_ok.mp h
  obtain ⟨rfl, rfl⟩ := economyNow_eq_ok.mp h₁
  obtain ⟨_, s₁, h₁, h⟩ := bind_eq_ok.mp h
  have hs₁ : Inherits s s₁ := within_each Inherits.refl (fun _ _ _ h h' => h.trans h')
    (fun _ _ => passHolding_inherits hnot) _ _ _ h₁
  obtain ⟨_, _, h₁, h⟩ := bind_eq_ok.mp h
  obtain ⟨rfl, rfl⟩ := economyNow_eq_ok.mp h₁
  obtain ⟨_, s₂, h₁, h⟩ := bind_eq_ok.mp h
  have hs₂ : Inherits s₁ s₂ := within_each Inherits.refl (fun _ _ _ h h' => h.trans h')
    (fun _ _ => passCapRow_inherits) _ _ _ h₁
  obtain ⟨primary, _, h₁, h⟩ := bind_eq_ok.mp h
  obtain ⟨-, rfl⟩ := liftE_eq_ok.mp h₁
  obtain rfl := modifyEconomy_eq_ok.mp h
  exact (hs₁.trans hs₂).trans (inherits_outside rfl rfl)

/-! ## Steps -/

section

variable {s₀ s s' : Sim}

/-- A step of the exchange, or a transfer. -/
def ShareStep (cfg : ExchangeSettings) (s s' : Sim) : Prop := Step cfg true s s' ∨ Inherits s s'

theorem ShareStep.keyed {cfg : ExchangeSettings} (h : ShareStep cfg s s') (hk : Keyed s.exch) :
    Keyed s'.exch := by
  rcases h with h | h
  · exact h.keyed hk
  · intro k o ho
    rw [h.exch_eq] at ho
    exact hk k o ho

theorem ShareStep.trail_subset {cfg : ExchangeSettings} (h : ShareStep cfg s s') :
    s.trail ⊆ s'.trail := by
  rcases h with h | h
  · exact h.trail_prefix.subset
  · rw [h.trail_eq]
    exact fun _ hm => hm

theorem ShareStep.known {cfg : ExchangeSettings} (h : ShareStep cfg s s') {a : String}
    (ha : s.exch.securities.get? a ≠ none) : s'.exch.securities.get? a ≠ none := by
  rcases h with h | h
  · exact h.known ha
  · rw [h.exch_eq]
    exact ha

theorem orders_ok {cfg : ExchangeSettings} (h : ReflTransGen (ShareStep cfg) s₀ s)
    (h₀ : ∀ k o, s₀.exch.orders.get? k = some o → OrderOk s₀.exch o) :
    ∀ k o, s.exch.orders.get? k = some o → OrderOk s.exch o := by
  induction h with
  | refl => exact h₀
  | tail _ hlast ih =>
    rcases hlast with hstep | hinherits
    · exact hstep.orderOk ih
    · rw [hinherits.exch_eq]
      exact ih

theorem share_inv {cfg : ExchangeSettings} (h : ReflTransGen (ShareStep cfg) s₀ s)
    (h₀ : ∀ k o, s₀.exch.orders.get? k = some o → OrderOk s₀.exch o) (hs : ShareInv s₀.exch)
    (hap : Apart s.exch) : ShareInv s.exch := by
  induction h with
  | refl => exact hs
  | tail hsteps hlast ih =>
    have hap₀ : Apart _ := fun a b ha hb => hap a b (hlast.known ha) (hlast.known hb)
    have hinv := ih hap₀
    rcases hlast with hstep | hinherits
    · exact hinv.step hstep hap (orders_ok hsteps h₀)
    · obtain ⟨hrows, hsum⟩ := hinherits.shares hap₀ hinv.rows
      refine hinv.congr hrows hsum fun a => ?_
      rw [hinherits.exch_eq]

theorem closed_stays {cfg : ExchangeSettings} (h : ReflTransGen (ShareStep cfg) s s')
    (hgood : ∀ m ∈ s'.trail, FreshId m) {k : String} {o : OrderState}
    (ho : s.exch.orders.get? k = some o) (hclosed : o.status.active = false) :
    s'.exch.orders.get? k = some o := by
  induction h with
  | refl => exact ho
  | tail _ hlast ih =>
    have hbefore := ih fun m hm => hgood m (hlast.trail_subset hm)
    rcases hlast with hstep | hinherits
    · exact hstep.closed hgood hbefore hclosed
    · rw [hinherits.exch_eq]
      exact hbefore

end

/-! ## Runs -/

section

variable [Uuid5]

/-- A run of the exchange in which estates pass on; the deceased is none of the
recipients. -/
inductive ShareRun (settings : Settings) (s₀ : Sim) : Sim → Prop where
  | start : ShareRun settings s₀ s₀
  | call {s s' : Sim} {c : ExchangeCall} (h : ShareRun settings s₀ s) (hc : c.under settings)
      (hrun : c.run s = .ok () s') : ShareRun settings s₀ s'
  | inherit {s s' : Sim} {agentId : String} {heirs : List (String × Int)}
      (h : ShareRun settings s₀ s) (hnot : agentId ∉ (recipientsOf heirs).map Prod.fst)
      (hrun : transferInterests agentId heirs s = .ok () s') : ShareRun settings s₀ s'

variable {settings : Settings} {s₀ s : Sim}

theorem ShareRun.steps (h : ShareRun settings s₀ s) (hk : Keyed s₀.exch) :
    Keyed s.exch ∧ ReflTransGen (ShareStep settings.exchange) s₀ s := by
  induction h with
  | start => exact ⟨hk, .refl⟩
  | call _ hc hrun ih =>
    obtain ⟨hkeyed, hsteps⟩ := ih
    have hcall := ExchangeCall.goes hc _ _ _ hrun hkeyed
    exact ⟨hcall.keyed hkeyed, hsteps.trans (ReflTransGen.mono (fun _ _ h => Or.inl h) _ _ hcall)⟩
  | inherit _ hnot hrun ih =>
    obtain ⟨hkeyed, hsteps⟩ := ih
    have hstep : ShareStep settings.exchange _ _ :=
      .inr (transferInterests_shares hnot _ _ _ hrun)
    exact ⟨hstep.keyed hkeyed, hsteps.tail hstep⟩

theorem ShareRun.calls {s' : Sim} (h : ShareRun settings s₀ s) (hr : Exchange.Run settings s s') :
    ShareRun settings s₀ s' := by
  induction hr with
  | start => exact h
  | call _ hc hrun ih => exact ih.call hc hrun

/-- No securities, no holdings and no orders. -/
structure Unlisted (x : ExchangeState) : Prop where
  securities : x.securities = ∅
  holdings : x.holdings = ∅
  orders : x.orders = ∅

/-- **Share conservation and closed orders over whole runs** of the exchange
and of estates: as long as no stored symbol is another one behind a separator,
every security is held in full; every order is filled or remaining; and as long
as no order takes the id of a closed one, a closed order is never written
again. -/
theorem shares_and_orders (h₀ : Unlisted s₀.exch) (hrun : ShareRun settings s₀ s)
    (hap : Apart s.exch) :
    ShareLaw s.exch ∧
    (∀ k o, s.exch.orders.get? k = some o →
      o.filledQty + o.remainingQty = o.qty ∧ 0 ≤ o.filledQty ∧ 0 ≤ o.remainingQty) ∧
    ∀ s', ShareRun settings s s' → (∀ m ∈ s'.trail, FreshId m) →
      ∀ k o, s.exch.orders.get? k = some o → o.status.active = false →
        s'.exch.orders.get? k = some o := by
  have horders : ∀ k o, s₀.exch.orders.get? k = some o → OrderOk s₀.exch o := by
    intro k o hk
    rw [h₀.orders] at hk
    cases hk
  have hkeyed : Keyed s₀.exch := by
    intro k o hk
    rw [h₀.orders] at hk
    cases hk
  have hinv : ShareInv s₀.exch := by
    refine ⟨fun k r hk => ?_, fun a security ha => ?_⟩
    · rw [h₀.holdings] at hk
      cases hk
    · rw [h₀.securities] at ha
      cases ha
  obtain ⟨hk, hsteps⟩ := hrun.steps hkeyed
  refine ⟨(share_inv hsteps horders hinv hap).law, fun k o ho => ?_,
    fun s' hrun' hgood k o ho hclosed => ?_⟩
  · obtain ⟨hsum, hf, hr, -⟩ := orders_ok hsteps horders k o ho
    exact ⟨hsum, hf, hr⟩
  · exact closed_stays (hrun'.steps hk).2 hgood ho hclosed

end

/-- The exchange in the sample runs. -/
def openExchange : Settings where
  exchange := { enabled := true }

/-- "ag_a" lists "S" and sells a share of it to "ag_b". -/
def firstTrade (sellQty : Int) (sell_pos : 1 ≤ sellQty := by decide) : List ExchangeCall :=
  [.listSecurity "S" "fm_s" 1000 10 0 (Dict.ofList [("ag_a", 1000)]) none none,
    .resolve { settings := openExchange, agents := ["ag_a", "ag_b"] }
      [limitOrder "a1" "ag_a" "S" .sell sellQty 10 sell_pos,
        limitOrder "00000000-0000-4000-8000-000000000001" "ag_b" "S" .buy 1 10] 10]

theorem firstTrade_under (sellQty : Int) (sell_pos : 1 ≤ sellQty) :
    ∀ c ∈ firstTrade sellQty sell_pos, c.under openExchange := by
  simp [firstTrade, ExchangeCall.under]

theorem shares_and_orders_inherited :
    letI : Uuid5 := ⟨fun run name => run ++ name⟩
    ∃ s₀ s, ShareRun openExchange s₀ s ∧ held s.exch "ag_c:S" = 333 ∧ ShareLaw s.exch := by
  let _ : Uuid5 := ⟨fun run name => run ++ name⟩
  have hmarket : outcome (openMarket ["ag_a", "ag_b"] 1000 emptySim) (fun s =>
      decide (s.exch = {}) &&
      (outcome ((do
          each ExchangeCall.run (firstTrade 1)
          transferInterests "ag_a" [("ag_b", 2), ("ag_c", 1)]) s) fun s =>
        decide (s.exch.securities.keys = ["S"] ∧ held s.exch "ag_c:S" = 333)) = some true)
      = some true := by decide +kernel
  obtain ⟨_, s₀, -, hboth⟩ := outcome_eq_some hmarket
  obtain ⟨hfresh, hday⟩ := Bool.and_eq_true_iff.mp hboth
  obtain ⟨_, s, hrun, hend⟩ := outcome_eq_some (of_decide_eq_true hday)
  obtain ⟨hkeys, hheld⟩ := of_decide_eq_true hend
  have hempty : s₀.exch = {} := of_decide_eq_true hfresh
  obtain ⟨_, s₁, hcalls, hinherit⟩ := bind_eq_ok.mp hrun
  have hs₁ : ShareRun openExchange s₀ s₁ :=
    ShareRun.start.calls (Exchange.Run.start.calls (firstTrade_under 1 (by decide)) hcalls)
  have hs : ShareRun openExchange s₀ s := hs₁.inherit (by decide) hinherit
  exact ⟨s₀, s, hs, hheld, (shares_and_orders
    ⟨by rw [hempty], by rw [hempty], by rw [hempty]⟩ hs (.of_single hkeys)).1⟩

/-- An action whose id shares its first 24 digits with an earlier one overwrites
the filled order of that one; and a holder called "A:B" of "S" is taken for the
holder "A" of "B:S". -/
theorem shares_and_orders_break :
    letI : Uuid5 := ⟨fun run name => run ++ name⟩
    (∃ s₀ s s', Unlisted s₀.exch ∧ ShareRun openExchange s₀ s ∧ ShareRun openExchange s s' ∧
      ∃ o o', s.exch.orders.get? "or_000000000000400080000000" = some o ∧ o.status = .filled ∧
        s'.exch.orders.get? "or_000000000000400080000000" = some o' ∧ o'.qty ≠ o.qty) ∧
    ∃ s, ShareRun openExchange emptySim s ∧ ¬ShareLaw s.exch := by
  let _ : Uuid5 := ⟨fun run name => run ++ name⟩
  constructor
  · have hmarket : outcome (openMarket ["ag_a", "ag_b"] 1000 emptySim) (fun s =>
        decide (s.exch = {}) &&
        (outcome (each ExchangeCall.run (firstTrade 2) s) fun s =>
          decide ((s.exch.orders.get? "or_000000000000400080000000").map
            (fun o => (o.status, o.qty)) = some (.filled, 1)) &&
          (outcome (ExchangeCall.run (.resolve
              { settings := openExchange, agents := ["ag_a", "ag_b"] }
              [limitOrder "00000000-0000-4000-8000-000000000002" "ag_b" "S" .buy 3 10] 11) s)
            fun s => decide ((s.exch.orders.get? "or_000000000000400080000000").map
              OrderState.qty = some 3)) = some true) = some true) = some true := by
      decide +kernel
    obtain ⟨_, s₀, -, hall⟩ := outcome_eq_some hmarket
    obtain ⟨hfresh, hday⟩ := Bool.and_eq_true_iff.mp hall
    obtain ⟨_, s, hrun, hboth⟩ := outcome_eq_some (of_decide_eq_true hday)
    obtain ⟨hfilled, hnext⟩ := Bool.and_eq_true_iff.mp hboth
    obtain ⟨_, s', hrun', hend⟩ := outcome_eq_some (of_decide_eq_true hnext)
    obtain ⟨o, ho, hrow⟩ := Option.map_eq_some_iff.mp (of_decide_eq_true hfilled)
    obtain ⟨o', ho', hqty'⟩ := Option.map_eq_some_iff.mp (of_decide_eq_true hend)
    rw [Prod.mk.injEq] at hrow
    have hempty : s₀.exch = {} := of_decide_eq_true hfresh
    have hs' : ShareRun openExchange s s' := by
      refine ShareRun.start.call ?_ hrun'
      rfl
    refine ⟨s₀, s, s', ⟨by rw [hempty], by rw [hempty], by rw [hempty]⟩,
      ShareRun.start.calls (Exchange.Run.start.calls (firstTrade_under 2 (by decide)) hrun),
      hs', o, o', ho, hrow.1, ho', ?_⟩
    omega
  · have hlist : outcome (each ExchangeCall.run
        [.listSecurity "B:S" "fm_s" 5 10 0 (Dict.ofList [("A", 5)]) none none,
          .listSecurity "S" "fm_s" 7 10 0 (Dict.ofList [("A:B", 7)]) none none] emptySim)
        (fun s => ((s.exch.securities.get? "S").map SecurityState.sharesOutstanding,
          sharesOf s.exch "S")) = some (some 7, 0) := by decide +kernel
    obtain ⟨_, s, hrun, hend⟩ := outcome_eq_some hlist
    rw [Prod.mk.injEq] at hend
    obtain ⟨security, hsec, hshares⟩ := Option.map_eq_some_iff.mp hend.1
    refine ⟨s, ShareRun.start.calls (Exchange.Run.start.calls ?_ hrun), fun hlaw => ?_⟩
    · simp [ExchangeCall.under]
    · have := hlaw "S" security hsec
      omega

end Polis.Economy.Estate
