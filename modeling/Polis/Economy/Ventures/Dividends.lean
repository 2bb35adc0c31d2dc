/-
  Polis.Economy.Ventures.Dividends — dividends (`economy/ventures.py`).

  `_declare_dividend` hands the positive cap rows to `allocate` as they are.
  A firm without such rows, or a holder with two of them, makes it raise.

  Main results:
    * `payDividends_iff` — the payments are made exactly when the ledger takes
      them.
    * `dividend_iff` — a dividend is refused or paid in full exactly when every
      holder has one row and the ledger takes the payments.
-/
import Polis.Economy.Payouts
import Polis.Economy.Ventures.CapTable
import Polis.Economy.Exchange.Calls

namespace Polis.Economy.Ventures

open Lib Lib.Effect Lib.DoubleEntry Sim Ledger

/-! ## The engine -/

/-- The cap rows a dividend is shared among. -/
def dividendRows (v : VentureState) (firmId : String) : List CapTableState :=
  (capRows v firmId).filter fun row => row.holderId ≠ "option_pool"

/-- The weights handed to `allocate`: one line a row. -/
def dividendWeights (rows : List CapTableState) : List (String × Int) :=
  (rows.filter fun row => 0 < row.shares).map fun row => (row.holderId, row.shares)

section Engine

variable [Uuid5]

/-- Pay one holder its share. -/
def payDividend (firm : FirmState) (firmId : String) (rows : List CapTableState) (tick : Int)
    (share : String × Int) : EngineM (List Event) :=
  if share.2 ≤ 0 then pure []
  else do
    let shares := ((rows.filter fun row => row.holderId = share.1).map CapTableState.shares).sum
    let expected ← nextTxnId tick
    let paid ← emit tick .dividendPaid
      [("firm_id", .str firmId), ("holder_id", .str share.1), ("shares", .int shares),
        ("cents", .int share.2), ("txn_id", .str expected)]
      none [firmId, share.1]
    let L ← ledgerNow
    let deposit ← liftE (depositAccount L share.1)
    let legs ← liftE (Ledger.transfer firm.ledgerAccountId deposit share.2 "dividend")
    let txnId ← post legs tick paid
    require (txnId = expected) (.runtime "dividend ledger ordinal diverged")
    pure [paid]

/-- `dividends_by_tick` with what a firm paid. -/
def recordDividend (firmId : String) (tick paidTotal : Int) (v : VentureState) : VentureState :=
  let byFirm := (v.dividendsByTick.get? tick).getD ∅
  let byFirm := byFirm.put firmId (byFirm.getD firmId 0 + paidTotal)
  { v with dividendsByTick := v.dividendsByTick.put tick byFirm }

/-- Allocate, announce and pay a dividend. -/
def payOutDividend (firm : FirmState) (firmId actorId : String) (rows : List CapTableState)
    (total tick : Int) : EngineM (List Event) := do
  let distribution ← liftE (allocate total (dividendWeights rows))
  let declared ← emit tick .dividendDeclared
    [("firm_id", .str firmId),
      ("per_share_cents", .int (total / max 1 (rows.map CapTableState.shares).sum)),
      ("total_cents", .int total), ("record_tick", .int tick), ("payable_tick", .int tick),
      ("decided_by", .str actorId)]
    (some actorId) [firmId]
  let paid ← gather (payDividend firm firmId rows tick) distribution.sortedEntries
  modifyEconomy fun e =>
    { e with ventures := recordDividend firmId tick distribution.values.sum e.ventures }
  pure (declared :: paid)

/-- `_declare_dividend(action)`: the `total_cents` of the action, zero when it
gives none. -/
def declareDividend (actorId firmId : String) (total tick : Int) : EngineM (List Event) := do
  let e ← economyNow
  match e.firms.get? firmId with
  | none => pure []
  | some firm =>
    if firm.founderId ≠ actorId ∨ total ≤ 0 then pure []
    else
      let available ← liftE (e.ledger.balance firm.ledgerAccountId)
      if available < total then pure []
      else payOutDividend firm firmId actorId (dividendRows e.ventures firmId) total tick

end Engine

/-! ## What a dividend should be -/

/-- The weights, one line a holder. -/
def perHolder (weights : List (String × Int)) : List (String × Int) :=
  (weights.map Prod.fst).dedup.map fun holder =>
    (holder, ((weights.filter fun e => e.1 = holder).map Prod.snd).sum)

/-- The shares that come to at least a cent. -/
def positive (shares : List (String × Int)) : List (String × Int) :=
  shares.filter fun share => 0 < share.2

/-- The event of a payment. -/
def paidDraft (firmId : String) (rows : List CapTableState) (share : String × Int) (txn : UUID) :
    NewEvent where
  kind := .dividendPaid
  payload := [("firm_id", .str firmId), ("holder_id", .str share.1),
    ("shares", .int ((rows.filter fun row => row.holderId = share.1).map CapTableState.shares).sum),
    ("cents", .int share.2), ("txn_id", .str txn)]
  subjectIds := [firmId, share.1]

/-- Each share that comes to at least a cent is paid out of the firm's account
and announced; nothing else happens. -/
structure SharesPaid (firm : FirmState) (firmId : String) (rows : List CapTableState)
    (shares : List (String × Int)) (s s' : Sim) (events : List Event) : Prop where
  moved : ∃ ms, Moved ms s.books s'.books ∧
    List.Forall₂ (fun share m => m.src = firm.ledgerAccountId ∧
      depositAccount s.books share.1 = .ok m.dst ∧ m.amountCents = share.2) (positive shares) ms
  events_eq : List.Forall₂ (fun share event => ∃ txn, event.draft = paidDraft firmId rows share txn)
    (positive shares) events
  log_eq : s'.log = { s.log with events := s.log.events ++ events }
  economy_eq : s'.economy = { s.economy with ledger := s'.books }
  trail_eq : s'.trail = s.trail

/-! ## One payment -/

section Payment

variable [Uuid5] {firm : FirmState} {firmId : String} {rows : List CapTableState} {tick : Int}
  {share : String × Int} {s s' : Sim} {events : List Event}

theorem payDividend_eq_ok (hpos : 0 < share.2)
    (h : payDividend firm firmId rows tick share s = .ok events s') :
    s.log.runId = s.books.runId ∧ ∃ deposit L event txn,
      depositAccount s.books share.1 = .ok deposit ∧
      transferred s.books firm.ledgerAccountId deposit share.2 "dividend" = .ok L ∧
      s'.books.accounts = L.accounts ∧
      Moved [⟨firm.ledgerAccountId, deposit, share.2⟩] s.books s'.books ∧
      events = [event] ∧ event.draft = paidDraft firmId rows share txn ∧
      s'.log = { s.log with events := s.log.events ++ [event] } ∧
      s'.economy = { s.economy with ledger := s'.books } ∧ s'.trail = s.trail := by
  unfold payDividend at h
  rw [if_neg (by omega)] at h
  obtain ⟨expected, _, h₁, h⟩ := bind_eq_ok.mp h
  obtain ⟨L₁, hL₁, rfl⟩ := onLedger_eq_ok.mp h₁
  obtain ⟨event, s₂, h₂, h⟩ := bind_eq_ok.mp h
  obtain ⟨rfl, rfl⟩ : event = ⟨s.log.events.length, s.log.runId, tick, paidDraft firmId rows share
      expected⟩ ∧ s₂ = (s.putBooks L₁).putLog { s.log with events := s.log.events ++ [event] } := by
    cases h₂
    exact ⟨rfl, rfl⟩
  obtain ⟨_, _, h₁, h⟩ := bind_eq_ok.mp h
  obtain ⟨rfl, rfl⟩ := ledgerNow_eq_ok.mp h₁
  obtain ⟨deposit, _, h₁, h⟩ := bind_eq_ok.mp h
  obtain ⟨hdeposit, rfl⟩ := liftE_eq_ok.mp h₁
  obtain ⟨legs, _, h₁, h⟩ := bind_eq_ok.mp h
  obtain ⟨hlegs, rfl⟩ := liftE_eq_ok.mp h₁
  obtain ⟨txn, _, h₁, h⟩ := bind_eq_ok.mp h
  obtain ⟨L₂, hpost, rfl⟩ := onLedger_eq_ok.mp h₁
  obtain ⟨_, _, h₁, h⟩ := bind_eq_ok.mp h
  obtain ⟨-, rfl⟩ := require_eq_ok.mp h₁
  obtain ⟨rfl, rfl⟩ := pure_eq_ok.mp h
  obtain ⟨hsteady, haccounts, -⟩ := Steady.nextTxnId hL₁
  obtain ⟨hrun, deltas, hdeltas, hafter⟩ := settledDeltas_of_post hpost
  have hdep : depositAccount s.books share.1 = .ok deposit := by
    rw [← depositAccount_congr haccounts]
    exact hdeposit
  have htaken : transferred s.books firm.ledgerAccountId deposit share.2 "dividend"
      = .ok { s.books with accounts := applyDeltas s.books.accounts deltas.entries } := by
    refine transferred_eq_ok.mpr ⟨legs, deltas, hlegs, ?_, rfl⟩
    rw [← settledDeltas_congr haccounts]
    exact hdeltas
  have hmoved : Moved [⟨firm.ledgerAccountId, deposit, share.2⟩] s.books L₂ :=
    (Moved.nextTxnId hL₁).trans (.posted (.single hlegs) (Ledger.post_eq_ok hpost))
  refine ⟨hrun.trans hsteady.runId_eq, deposit, _, _, expected, hdep, htaken, ?_, hmoved, rfl, rfl,
    rfl, rfl, rfl⟩
  exact hafter.trans (congrArg (applyDeltas · deltas.entries) haccounts)

theorem payDividend_of_transferred {deposit : AccountId} {L : Ledger} (hpos : 0 < share.2)
    (hrun : s.log.runId = s.books.runId) (hdeposit : depositAccount s.books share.1 = .ok deposit)
    (h : transferred s.books firm.ledgerAccountId deposit share.2 "dividend" = .ok L) :
    ∃ events s', payDividend firm firmId rows tick share s = .ok events s' := by
  obtain ⟨legs, deltas, hlegs, hdeltas, -⟩ := transferred_eq_ok.mp h
  -- reading the counter writes it, and changes no account
  let L₁ : Ledger := { s.books with
    ordinalByTick := s.books.ordinalByTick.put tick (s.books.ordinalByTick.getD tick 0) }
  let expected := Uuid5.uuid5 s.books.runId
    (txnName tick (s.books.ordinalByTick.getD tick 0))
  let event : Event := ⟨s.log.events.length, s.log.runId, tick, paidDraft firmId rows share expected⟩
  have hsame : L₁.accounts = s.books.accounts := rfl
  have hordinal : L₁.ordinalByTick.getD tick 0 = s.books.ordinalByTick.getD tick 0 := by
    show ((s.books.ordinalByTick.put tick _).get? tick).getD 0 = _
    rw [Dict.get?_put_self]
    rfl
  have hcause : event.runId = L₁.runId ∧ event.tick = tick := ⟨hrun, rfl⟩
  obtain ⟨L₂, hpost, -, -⟩ := post_of_settledDeltas (transfer_two_le hlegs) hcause
    ((settledDeltas_congr hsame legs).trans hdeltas)
  rw [hordinal] at hpost
  let s₂ : Sim := (s.putBooks L₁).putLog { s.log with events := s.log.events ++ [event] }
  have hsecond : post legs tick event [] s₂ = .ok expected (s₂.putBooks L₂) :=
    onLedger_eq_ok.mpr ⟨L₂, hpost, rfl⟩
  unfold payDividend
  rw [if_neg (by omega)]
  refine ⟨[event], s₂.putBooks L₂, bind_eq_ok.mpr ⟨expected, s.putBooks L₁, rfl, ?_⟩⟩
  refine bind_eq_ok.mpr ⟨event, s₂, rfl, ?_⟩
  refine bind_eq_ok.mpr ⟨L₁, s₂, rfl, ?_⟩
  refine bind_eq_ok.mpr ⟨deposit, s₂,
    liftE_eq_ok.mpr ⟨(depositAccount_congr hsame _).trans hdeposit, rfl⟩, ?_⟩
  refine bind_eq_ok.mpr ⟨legs, s₂, liftE_eq_ok.mpr ⟨hlegs, rfl⟩, ?_⟩
  refine bind_eq_ok.mpr ⟨expected, s₂.putBooks L₂, hsecond, ?_⟩
  exact bind_eq_ok.mpr ⟨(), s₂.putBooks L₂, require_eq_ok.mpr ⟨rfl, rfl⟩, rfl⟩

end Payment

/-! ## All payments -/

section Payments

variable [Uuid5] {firm : FirmState} {firmId : String} {rows : List CapTableState} {tick : Int}
  {shares : List (String × Int)} {s s' : Sim} {events : List Event}

theorem payDividends_eq_ok
    (h : gather (payDividend firm firmId rows tick) shares s = .ok events s') :
    SharesPaid firm firmId rows shares s s' events ∧
      (positive shares ≠ [] → s.log.runId = s.books.runId) ∧
      ∃ L, paidOut firm.ledgerAccountId "dividend" (positive shares) s.books = .ok L := by
  induction shares generalizing s events with
  | nil =>
    obtain ⟨rfl, rfl⟩ := pure_eq_ok.mp h
    refine ⟨⟨⟨[], .refl _, .nil⟩, .nil, ?_, rfl, rfl⟩, fun hne => absurd rfl hne, s.books, rfl⟩
    rw [List.append_nil]
  | cons share shares ih =>
    obtain ⟨here, s₁, rest, h₁, h₂, rfl⟩ := gather_cons_eq_ok.mp h
    obtain ⟨hpaid, hrest, L, hL⟩ := ih h₂
    by_cases hpos : 0 < share.2
    · have hcons : positive (share :: shares) = share :: positive shares := by
        unfold positive
        rw [List.filter_cons_of_pos (by simpa using hpos)]
      obtain ⟨hrun, deposit, L₁, event, txn, hdeposit, htaken, haccounts, hmoved, rfl, hdraft,
        hlog, heconomy, htrail⟩ := payDividend_eq_ok hpos h₁
      obtain ⟨ms, hms, hpays⟩ := hpaid.moved
      -- later deposits are found among the same accounts
      have hsame : ∀ owner, depositAccount s₁.books owner = depositAccount s.books owner := by
        intro owner
        rw [depositAccount_congr haccounts]
        exact depositAccount_transferred htaken owner
      obtain ⟨L', hL', -⟩ := @paidOut_congr s₁.books L₁ firm.ledgerAccountId "dividend"
        (positive shares) L haccounts.symm hL
      refine ⟨⟨⟨⟨firm.ledgerAccountId, deposit, share.2⟩ :: ms, hmoved.trans hms, ?_⟩, ?_, ?_, ?_,
        hpaid.trail_eq.trans htrail⟩, fun _ => hrun, L', ?_⟩
      · rw [hcons]
        refine .cons ⟨rfl, hdeposit, rfl⟩ (hpays.imp fun share m hm => ?_)
        exact ⟨hm.1, (hsame _).symm.trans hm.2.1, hm.2.2⟩
      · rw [hcons]
        exact .cons ⟨txn, hdraft⟩ hpaid.events_eq
      · rw [hpaid.log_eq, hlog]
        simp
      · rw [hpaid.economy_eq, heconomy]
      · rw [hcons]
        unfold paidOut
        rw [hdeposit]
        show (transferred s.books firm.ledgerAccountId deposit share.2 "dividend" >>= _) = _
        rw [htaken]
        exact hL'
    · have hcons : positive (share :: shares) = positive shares := by
        unfold positive
        rw [List.filter_cons_of_neg (by simpa using hpos)]
      unfold payDividend at h₁
      rw [if_pos (by omega)] at h₁
      obtain ⟨rfl, rfl⟩ := pure_eq_ok.mp h₁
      refine ⟨⟨?_, ?_, hpaid.log_eq, hpaid.economy_eq, hpaid.trail_eq⟩, ?_, L, ?_⟩
      · rw [hcons]
        exact hpaid.moved
      · rw [hcons]
        exact hpaid.events_eq
      · rw [hcons]
        exact hrest
      · rw [hcons]
        exact hL

theorem payDividends_of_paidOut {L : Ledger} (hrun : s.log.runId = s.books.runId)
    (h : paidOut firm.ledgerAccountId "dividend" (positive shares) s.books = .ok L) :
    ∃ events s', gather (payDividend firm firmId rows tick) shares s = .ok events s' := by
  induction shares generalizing s L with
  | nil => exact ⟨[], s, rfl⟩
  | cons share shares ih =>
    by_cases hpos : 0 < share.2
    · have hcons : positive (share :: shares) = share :: positive shares := by
        unfold positive
        rw [List.filter_cons_of_pos (by simpa using hpos)]
      rw [hcons] at h
      unfold paidOut at h
      obtain ⟨deposit, hdeposit, h⟩ := except_bind_eq_ok.mp h
      obtain ⟨L₁, htaken, h⟩ := except_bind_eq_ok.mp h
      obtain ⟨here, s₁, h₁⟩ := @payDividend_of_transferred _ firm firmId rows tick _ _ _ _ hpos hrun
        hdeposit htaken
      obtain ⟨-, _, _, _, _, hdep, htaken', haccounts, hmoved, -, -, hlog, -⟩ :=
        payDividend_eq_ok hpos h₁
      rw [hdeposit] at hdep
      cases hdep
      rw [htaken] at htaken'
      cases htaken'
      have hrun₁ : s₁.log.runId = s₁.books.runId := by
        rw [hlog, hmoved.steady.runId_eq]
        exact hrun
      obtain ⟨L', hL', -⟩ := paidOut_congr haccounts h
      obtain ⟨rest, s', h₂⟩ := ih hrun₁ hL'
      exact ⟨here ++ rest, s', gather_cons_eq_ok.mpr ⟨here, s₁, rest, h₁, h₂, rfl⟩⟩
    · have hcons : positive (share :: shares) = positive shares := by
        unfold positive
        rw [List.filter_cons_of_neg (by simpa using hpos)]
      rw [hcons] at h
      obtain ⟨rest, s', h₂⟩ := ih hrun h
      have h₁ : payDividend firm firmId rows tick share s = .ok [] s := by
        unfold payDividend
        rw [if_pos (by omega)]
        rfl
      exact ⟨rest, s', gather_cons_eq_ok.mpr ⟨[], s, rest, h₁, h₂, rfl⟩⟩

end Payments

/-! ## Exact shares -/

theorem perHolder_of_nodup {weights : List (String × Int)} (h : (weights.map Prod.fst).Nodup) :
    perHolder weights = weights := by
  have only : ∀ ws : List (String × Int), (ws.map Prod.fst).Nodup → ∀ e ∈ ws,
      ((ws.filter fun x => x.1 = e.1).map Prod.snd).sum = e.2 := by
    intro ws
    induction ws with
    | nil =>
      intro _ e he
      cases he
    | cons w ws ih =>
      intro hn e he
      rw [List.map_cons, List.nodup_cons] at hn
      rcases List.mem_cons.mp he with rfl | he
      · have hnone : (ws.filter fun x => x.1 = e.1) = [] := by
          rw [List.filter_eq_nil_iff]
          intro x hx hsame
          exact hn.1 (of_decide_eq_true hsame ▸ List.mem_map_of_mem hx)
        rw [List.filter_cons_of_pos (by simp), hnone]
        simp
      · have hne : w.1 ≠ e.1 := fun hsame => hn.1 (hsame ▸ List.mem_map_of_mem he)
        rw [List.filter_cons_of_neg (by simpa using hne)]
        exact ih hn.2 e he
  unfold perHolder
  rw [List.Nodup.dedup h, List.map_map]
  calc weights.map _ = weights.map id := by
        refine List.map_congr_left fun e he => ?_
        exact Prod.ext rfl (only weights h e he)
    _ = weights := List.map_id weights

theorem dividendWeights_pos {rows : List CapTableState} : ∀ e ∈ dividendWeights rows, 0 < e.2 := by
  intro e he
  obtain ⟨row, hrow, rfl⟩ := List.mem_map.mp he
  simpa using (List.mem_filter.mp hrow).2

theorem sum_filter_pos {κ : Type*} {l : List (κ × Int)} (h : ∀ e ∈ l, 0 ≤ e.2) :
    ((l.filter fun e => 0 < e.2).map Prod.snd).sum = (l.map Prod.snd).sum := by
  induction l with
  | nil => rfl
  | cons e l ih =>
    have he := h e List.mem_cons_self
    have hrest := ih fun x hx => h x (List.mem_cons_of_mem _ hx)
    by_cases hpos : 0 < e.2
    · rw [List.filter_cons_of_pos (by simpa using hpos), List.map_cons, List.map_cons,
        List.sum_cons, List.sum_cons, hrest]
    · rw [List.filter_cons_of_neg (by simpa using hpos), List.map_cons, List.sum_cons, hrest]
      omega

theorem positive_sum {pool : Int} {weights : List (String × Int)} {d : Dict String Int}
    (h : allocate pool weights = .ok d) : ((positive d.sortedEntries).map Prod.snd).sum = pool := by
  have hnonneg : ∀ e ∈ d.sortedEntries, 0 ≤ e.2 := fun e he =>
    allocate_nonneg h (Dict.mem_entries_iff.mp (Dict.mem_sortedEntries.mp he))
  calc ((positive d.sortedEntries).map Prod.snd).sum = (d.sortedEntries.map Prod.snd).sum :=
        sum_filter_pos hnonneg
    _ = d.values.sum := ((Dict.sortedEntries_perm d).map Prod.snd).sum_eq
    _ = pool := allocate_sum h

/-! ## The law -/

/-- A dividend in full: announced, and every holder paid its largest-remainder
share, which add up to the total. -/
structure DividendPaid (firm : FirmState) (firmId : String) (rows : List CapTableState)
    (total tick : Int) (s s' : Sim) (events : List Event) : Prop where
  paid : ∃ shares declared payments s₂,
    allocate total (perHolder (dividendWeights rows)) = .ok shares ∧
    ((positive shares.sortedEntries).map Prod.snd).sum = total ∧
    events = declared :: payments ∧ declared.draft.kind = .dividendDeclared ∧
    SharesPaid firm firmId rows shares.sortedEntries
      (s.putLog { s.log with events := s.log.events ++ [declared] }) s₂ payments ∧
    s' = { s₂ with economy := { s₂.economy with
      ventures := recordDividend firmId tick total s₂.economy.ventures } }

/-- **The dividend law**: refused without an event or a posting, or paid in
full. -/
def DividendLaw [Uuid5] (s : Sim) (actorId firmId : String) (total tick : Int) : Prop :=
  declareDividend actorId firmId total tick s = .ok [] s ∨
    ∃ firm events s', s.economy.firms.get? firmId = some firm ∧
      declareDividend actorId firmId total tick s = .ok events s' ∧
      DividendPaid firm firmId (dividendRows s.economy.ventures firmId) total tick s s' events

/-- Somebody is to be paid, and nobody twice. -/
def OneRowEach (rows : List CapTableState) : Prop :=
  dividendWeights rows ≠ [] ∧ ((dividendWeights rows).map Prod.fst).Nodup

/-- The ledger of the run takes the exact shares out of the firm's account. -/
def LedgerTakes (s : Sim) (firm : FirmState) (rows : List CapTableState) (total : Int) : Prop :=
  s.log.runId = s.books.runId ∧
    ∀ shares, allocate total (perHolder (dividendWeights rows)) = .ok shares →
      ∃ L, paidOut firm.ledgerAccountId "dividend" (positive shares.sortedEntries) s.books = .ok L

/-- The request is refused by a guard, or every holder has one row and the
ledger takes the shares. -/
def DividendOk (s : Sim) (actorId firmId : String) (total : Int) : Prop :=
  ∀ firm, s.economy.firms.get? firmId = some firm → firm.founderId ≠ actorId ∨ total ≤ 0 ∨
    ∃ available, s.books.balance firm.ledgerAccountId = .ok available ∧
      (available < total ∨ OneRowEach (dividendRows s.economy.ventures firmId) ∧
        LedgerTakes s firm (dividendRows s.economy.ventures firmId) total)

section Law

variable [Uuid5] {firm : FirmState} {firmId actorId : String} {rows : List CapTableState}
  {total tick : Int} {s s' : Sim} {events : List Event}

theorem payOutDividend_eq_ok (htotal : 0 < total)
    (h : payOutDividend firm firmId actorId rows total tick s = .ok events s') :
    OneRowEach rows ∧ LedgerTakes s firm rows total ∧
      DividendPaid firm firmId rows total tick s s' events := by
  unfold payOutDividend at h
  obtain ⟨shares, _, h₁, h⟩ := bind_eq_ok.mp h
  obtain ⟨hshares, rfl⟩ := liftE_eq_ok.mp h₁
  obtain ⟨declared, s₁, h₁, h⟩ := bind_eq_ok.mp h
  obtain ⟨hkind, rfl⟩ : declared.draft.kind = .dividendDeclared ∧
      s₁ = s.putLog { s.log with events := s.log.events ++ [declared] } := by
    cases h₁
    exact ⟨rfl, rfl⟩
  obtain ⟨payments, s₂, h₁, h⟩ := bind_eq_ok.mp h
  obtain ⟨hpaid, hrun, L, hL⟩ := payDividends_eq_ok h₁
  obtain ⟨_, s₃, h₁, h⟩ := bind_eq_ok.mp h
  have h₁ := modifyEconomy_eq_ok.mp h₁
  obtain ⟨rfl, rfl⟩ := pure_eq_ok.mp h
  obtain ⟨-, hne, hn, -, -, -⟩ := allocate_eq_ok hshares
  have hexact : allocate total (perHolder (dividendWeights rows)) = .ok shares := by
    rw [perHolder_of_nodup hn]
    exact hshares
  have hsum := positive_sum hshares
  have hsome : positive shares.sortedEntries ≠ [] := by
    intro hnil
    rw [hnil] at hsum
    have hzero : (0 : Int) = total := hsum
    omega
  refine ⟨⟨hne, hn⟩, ⟨hrun hsome, fun d hd => ?_⟩, ⟨shares, declared, payments, s₂, hexact, hsum,
    rfl, hkind, hpaid, ?_⟩⟩
  · rw [hexact] at hd
    cases hd
    exact ⟨L, hL⟩
  · rw [h₁, allocate_sum hshares]

theorem payOutDividend_returns (htotal : 0 < total) (hone : OneRowEach rows)
    (htakes : LedgerTakes s firm rows total) :
    ∃ events s', payOutDividend firm firmId actorId rows total tick s = .ok events s' := by
  obtain ⟨hne, hn⟩ := hone
  obtain ⟨shares, hshares⟩ := allocate_returns htotal.le hne hn dividendWeights_pos
  obtain ⟨L, hL⟩ := htakes.2 shares (by rw [perHolder_of_nodup hn]; exact hshares)
  unfold payOutDividend
  rw [bind_of_ok (liftE_eq_ok.mpr ⟨hshares, rfl⟩)]
  obtain ⟨declared, s₁, hdeclared, hrun, hbooks⟩ : ∃ declared s₁, emit tick .dividendDeclared
      [("firm_id", .str firmId),
        ("per_share_cents", .int (total / max 1 (rows.map CapTableState.shares).sum)),
        ("total_cents", .int total), ("record_tick", .int tick), ("payable_tick", .int tick),
        ("decided_by", .str actorId)]
      (some actorId) [firmId] s = .ok declared s₁ ∧ s₁.log.runId = s.log.runId ∧
      s₁.books = s.books := ⟨_, _, rfl, rfl, rfl⟩
  rw [bind_of_ok hdeclared]
  obtain ⟨payments, s₂, hpayments⟩ := @payDividends_of_paidOut _ firm firmId rows tick
    shares.sortedEntries s₁ L (by rw [hrun, hbooks]; exact htakes.1) (by rw [hbooks]; exact hL)
  rw [bind_of_ok hpayments]
  exact ⟨_, _, rfl⟩

theorem declareDividend_eq_ok
    (h : declareDividend actorId firmId total tick s = .ok events s') :
    DividendOk s actorId firmId total ∧ (events = [] ∧ s' = s ∨
      ∃ firm, s.economy.firms.get? firmId = some firm ∧
        DividendPaid firm firmId (dividendRows s.economy.ventures firmId) total tick s s' events) := by
  unfold declareDividend at h
  obtain ⟨_, _, h₁, h⟩ := bind_eq_ok.mp h
  obtain ⟨rfl, rfl⟩ := economyNow_eq_ok.mp h₁
  cases hfirm : s.economy.firms.get? firmId with
  | none =>
    rw [hfirm] at h
    obtain ⟨rfl, rfl⟩ := pure_eq_ok.mp h
    refine ⟨fun firm hf => ?_, .inl ⟨rfl, rfl⟩⟩
    rw [hfirm] at hf
    cases hf
  | some firm =>
    rw [hfirm] at h
    dsimp only at h
    rcases ite_eq_ok.mp h with ⟨hguard, h⟩ | ⟨hguard, h⟩
    · obtain ⟨rfl, rfl⟩ := pure_eq_ok.mp h
      refine ⟨fun f hf => ?_, .inl ⟨rfl, rfl⟩⟩
      rw [hfirm] at hf
      cases hf
      exact hguard.imp_right .inl
    rw [not_or, not_le] at hguard
    obtain ⟨available, _, h₁, h⟩ := bind_eq_ok.mp h
    obtain ⟨hbalance, rfl⟩ := liftE_eq_ok.mp h₁
    rcases ite_eq_ok.mp h with ⟨hshort, h⟩ | ⟨-, h⟩
    · obtain ⟨rfl, rfl⟩ := pure_eq_ok.mp h
      refine ⟨fun f hf => ?_, .inl ⟨rfl, rfl⟩⟩
      rw [hfirm] at hf
      cases hf
      exact .inr (.inr ⟨available, hbalance, .inl hshort⟩)
    · obtain ⟨hone, htakes, hpaid⟩ := payOutDividend_eq_ok hguard.2 h
      refine ⟨fun f hf => ?_, .inr ⟨firm, rfl, hpaid⟩⟩
      rw [hfirm] at hf
      cases hf
      exact .inr (.inr ⟨available, hbalance, .inr ⟨hone, htakes⟩⟩)

/-- **When a dividend is refused or paid in full**: exactly when a guard refuses
it, or each holder to be paid has one row and the ledger takes the payments. -/
theorem dividend_iff (s : Sim) (actorId firmId : String) (total tick : Int) :
    DividendLaw s actorId firmId total tick ↔ DividendOk s actorId firmId total := by
  constructor
  · rintro (h | ⟨firm, events, s', -, h, -⟩)
    · exact (declareDividend_eq_ok h).1
    · exact (declareDividend_eq_ok h).1
  · intro hok
    suffices hreturns : ∃ events s', declareDividend actorId firmId total tick s = .ok events s' by
      obtain ⟨events, s', h⟩ := hreturns
      rcases (declareDividend_eq_ok h).2 with ⟨rfl, rfl⟩ | ⟨firm, hfirm, hpaid⟩
      · exact .inl h
      · exact .inr ⟨firm, events, s', hfirm, h, hpaid⟩
    unfold declareDividend
    rw [bind_of_ok (economyNow_eq_ok.mpr ⟨rfl, rfl⟩)]
    cases hfirm : s.economy.firms.get? firmId with
    | none => exact ⟨[], s, rfl⟩
    | some firm =>
      dsimp only
      by_cases hguard : firm.founderId ≠ actorId ∨ total ≤ 0
      · rw [if_pos hguard]
        exact ⟨[], s, rfl⟩
      rw [if_neg hguard]
      rw [not_or, not_le] at hguard
      obtain ⟨available, hbalance, hrest⟩ :=
        ((hok firm hfirm).resolve_left hguard.1).resolve_left (by omega)
      rw [bind_of_ok (liftE_eq_ok.mpr ⟨hbalance, rfl⟩)]
      by_cases hshort : available < total
      · rw [if_pos hshort]
        exact ⟨[], s, rfl⟩
      rw [if_neg hshort]
      obtain ⟨hone, htakes⟩ := hrest.resolve_left hshort
      exact payOutDividend_returns hguard.2 hone htakes

theorem declareDividend_raises {available : Int} {e : PyError}
    (hfirm : s.economy.firms.get? firmId = some firm) (hfounder : firm.founderId = actorId)
    (htotal : 0 < total) (hbalance : s.books.balance firm.ledgerAccountId = .ok available)
    (hle : total ≤ available)
    (h : allocate total (dividendWeights (dividendRows s.economy.ventures firmId)) = .error e) :
    declareDividend actorId firmId total tick s = .error e s := by
  unfold declareDividend
  rw [bind_of_ok (economyNow_eq_ok.mpr ⟨rfl, rfl⟩), hfirm]
  dsimp only
  rw [if_neg (by rw [not_or, not_not, not_le]; exact ⟨hfounder, htotal⟩),
    bind_of_ok (liftE_eq_ok.mpr ⟨hbalance, rfl⟩), if_neg (not_lt.mpr hle)]
  unfold payOutDividend
  rw [h]
  rfl

end Law

/-- A firm of "ag_a" with 1000 cents and a cap table. -/
def dividendFirm [Uuid5] (table : List CapTableState) : EngineM Unit := do
  Exchange.openMarket ["fm_a", "ag_a", "ag_b"] 1000
  let account ← liftE (accountId .dep "fm_a" (some "bk_1"))
  let firm : FirmState := {
    firmId := "fm_a", name := "A", sector := "food", placeId := "pl_a", founderId := "ag_a",
    ledgerAccountId := account, productivityBp := 10000 }
  let capTable := Dict.ofList
    (table.map fun row => (capKey row.firmId row.holderId row.shareClass, row))
  modifyEconomy fun e => { e with
    firms := e.firms.put "fm_a" firm
    ventures := { e.ventures with capTable } }

/-- The founder's common shares, and an investor with two classes. -/
def twoClasses : List CapTableState :=
  [{ firmId := "fm_a", holderId := "ag_a", shareClass := "common", shares := 60 },
    { firmId := "fm_a", holderId := "ag_b", shareClass := "common", shares := 10 },
    { firmId := "fm_a", holderId := "ag_b", shareClass := "preferred", shares := 30 }]

-- sixty and ten shares: the cent left over goes to the larger remainder
example :
    letI : Uuid5 := ⟨fun run name => run ++ name⟩
    outcome ((do
      dividendFirm (twoClasses.take 2)
      let _ ← declareDividend "ag_a" "fm_a" 100 1 : EngineM Unit) Exchange.emptySim) (fun s =>
        ["fm_a", "ag_a", "ag_b"].map s.books.liquid) = some [900, 1086, 1014] := by
  decide +kernel

/-- The founder asks for a dividend of 100 cents out of 1000: without a cap
table, and with an investor who holds two classes. -/
theorem dividend_raises :
    letI : Uuid5 := ⟨fun run name => run ++ name⟩
    (∃ s firm, s.economy.firms.get? "fm_a" = some firm ∧ firm.founderId = "ag_a" ∧
      s.books.balance firm.ledgerAccountId = .ok 1000 ∧ capRows s.economy.ventures "fm_a" = [] ∧
      declareDividend "ag_a" "fm_a" 100 1 s = .error (.value "weights must not be empty") s ∧
      ¬DividendLaw s "ag_a" "fm_a" 100 1) ∧
    (∃ s firm, s.economy.firms.get? "fm_a" = some firm ∧ firm.founderId = "ag_a" ∧
      s.books.balance firm.ledgerAccountId = .ok 1000 ∧
      capRows s.economy.ventures "fm_a" = twoClasses ∧
      declareDividend "ag_a" "fm_a" 100 1 s = .error (.value "claimant ids must be unique") s ∧
      ¬DividendLaw s "ag_a" "fm_a" 100 1) := by
  let _ : Uuid5 := ⟨fun run name => run ++ name⟩
  -- the guards pass, so the request raises what the allocation raises
  have fails : ∀ (table rows : List CapTableState) (e : PyError),
      outcome (dividendFirm table Exchange.emptySim) (fun s =>
        decide (capRows s.economy.ventures "fm_a" = rows ∧
          (s.economy.firms.get? "fm_a").map (fun f =>
            (f.founderId, (s.books.balance f.ledgerAccountId).toOption))
              = some ("ag_a", some 1000))) = some true →
      allocate 100 (dividendWeights (rows.filter fun row => row.holderId ≠ "option_pool"))
        = .error e →
      ∃ s firm, s.economy.firms.get? "fm_a" = some firm ∧ firm.founderId = "ag_a" ∧
        s.books.balance firm.ledgerAccountId = .ok 1000 ∧
        capRows s.economy.ventures "fm_a" = rows ∧
        declareDividend "ag_a" "fm_a" 100 1 s = .error e s ∧
        ¬DividendLaw s "ag_a" "fm_a" 100 1 := by
    intro table rows e hrun hallocate
    obtain ⟨_, s, -, hfacts⟩ := outcome_eq_some hrun
    obtain ⟨hrows, hfirm⟩ := of_decide_eq_true hfacts
    obtain ⟨firm, hat, hpair⟩ := Option.map_eq_some_iff.mp hfirm
    rw [Prod.mk.injEq] at hpair
    obtain ⟨hfounder, hmoney⟩ := hpair
    have hbalance : s.books.balance firm.ledgerAccountId = .ok 1000 := by
      cases hb : s.books.balance firm.ledgerAccountId with
      | error err =>
        rw [hb] at hmoney
        cases hmoney
      | ok n =>
        rw [hb] at hmoney
        cases hmoney
        rfl
    have hraise : declareDividend "ag_a" "fm_a" 100 1 s = .error e s := by
      refine declareDividend_raises hat hfounder (by omega) hbalance (by omega) ?_
      unfold dividendRows
      rw [hrows]
      exact hallocate
    refine ⟨s, firm, hat, hfounder, hbalance, hrows, hraise, ?_⟩
    rintro (h | ⟨_, _, _, -, h, -⟩)
    · rw [hraise] at h
      cases h
    · rw [hraise] at h
      cases h
  refine ⟨fails [] [] _ (by decide +kernel) rfl, fails twoClasses twoClasses _ ?_ ?_⟩
  · decide +kernel
  · decide +kernel

end Polis.Economy.Ventures
