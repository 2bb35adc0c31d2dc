/-
  Polis.Economy.Exchange.Indications — indications in an announced offering.

  `_ipo_indication` checks the request, moves its cents into escrow, and only
  then asks whether the investor stands in the book already.  A second
  indication that passes every check before that raises with its cents moved.

  Main results:
    * `ipoIndication_reserved`, `ipoIndication_unreserved` — what an indication
      does when the ledger takes its reservation, and when it does not.
    * `indications_atomic` — every sequence of indications: all or nothing,
      exactly as long as no investor reserves twice.
-/
import Polis.Economy.Exchange.Calls
import Polis.Economy.LedgerRuns
import Polis.Economy.Payouts
import Polis.Lib.Runs

namespace Polis.Economy.Exchange

open Lib Lib.Effect Lib.Runs Lib.DoubleEntry Sim

/-! ## The law -/

/-- `int(params.get("limit_price_cents", 0))`. -/
def OrderRequest.limitCents (r : OrderRequest) : Int := r.limitPriceCents.getD 0

/-- `required`. -/
def OrderRequest.requiredCents (r : OrderRequest) : Int := r.qty * r.limitCents

/-- The indication stands in the book, and exactly its cents went from a deposit
of the investor into its escrow. -/
structure Recorded (r : OrderRequest) (key : String) (ipo : IpoState) (deposit escrow : AccountId)
    (s s' : Sim) : Prop where
  ipo_at : s.exch.ipos.get? key = some ipo
  symbol_eq : ipo.symbol = r.symbol
  announced : ipo.status = .announced
  ipos_eq : s'.exch.ipos = s.exch.ipos.modify key fun row =>
    { row with indications := row.indications.put r.actorId (r.qty, r.limitCents) }
  deposit_ok : deposit.code = .dep ∧ deposit.ownerId = r.actorId
  escrow_ok : escrow.code = .esc ∧ escrow.ownerId = r.actorId
  debited : s'.books.book deposit = s.books.book deposit - r.requiredCents
  credited : s'.books.book escrow = s.books.book escrow + r.requiredCents
  others : ∀ a, a.code.liquid → a ≠ deposit → a ≠ escrow → s'.books.book a = s.books.book a

/-- Every balance and the books of all offerings are as they were. -/
def Untouched (s s' : Sim) : Prop :=
  (∀ a, s'.books.book a = s.books.book a) ∧ s'.exch.ipos = s.exch.ipos

section Atomic

variable [Uuid5] (ctx : Ctx)

/-- **All or nothing**: an indication is recorded with exactly its cents moved,
or it is refused, by a rejection or by an error, and nothing has changed. -/
def IndicationLaw (s : Sim) (q : OrderRequest × Int) : Prop :=
  (∃ events s', ipoIndication ctx q.1 q.2 s = .ok events s' ∧
    ∃ key ipo deposit escrow, Recorded q.1 key ipo deposit escrow s s') ∨
  Untouched s (stateAfter (ipoIndication ctx q.1 q.2 s))

/-- An indication after the other. -/
def indicate (s : Sim) (q : OrderRequest × Int) : Sim := stateAfter (ipoIndication ctx q.1 q.2 s)

/-! ## The reservation -/

/-- The escrow account of an owner and the ledger it is open in. -/
def EscrowReady (L : Ledger) (ownerId ref : String) (tick : Int) (escrow : AccountId)
    (L₁ : Ledger) : Prop :=
  escrowId L ownerId ref = .ok escrow ∧
    ((L.isOpen escrow = true ∧ L₁ = L) ∨
      (L.isOpen escrow = false ∧
        ∃ a, Ledger.openAccount .esc ownerId (ownerType ctx ownerId) escrow.bankId (some ref) tick L
          = .ok a L₁))

/-- The request passes every check of `_ipo_indication` and of the ledger, so
its cents go into escrow. -/
structure Reservable (s : Sim) (r : OrderRequest) (tick : Int) (key : String) (ipo : IpoState)
    (deposit : AccountId) (available : Int) (escrow : AccountId) (L₁ L₂ : Ledger) : Prop where
  found : (s.exch.ipos.entries.find? fun e => e.2.symbol = r.symbol && e.2.status = .announced)
    = some (key, ipo)
  bookOpen : tick ≤ ipo.bookCloseTick
  qty_pos : 0 < r.qty
  inBand : ipo.priceLowCents ≤ r.limitCents ∧ r.limitCents ≤ ipo.priceHighCents
  deposit_at : depositAccount s.books r.actorId = .ok deposit
  balance_at : s.books.balance deposit = .ok available
  covered : r.requiredCents ≤ available
  escrow_ready : EscrowReady ctx s.books r.actorId "exchange" tick escrow L₁
  run_eq : s.log.runId = s.books.runId
  taken : Ledger.transferred L₁ deposit escrow r.requiredCents "escrow" = .ok L₂

/-- An investor that stands in the book does not reserve again. -/
def ReservesOnce (s : Sim) (q : OrderRequest × Int) : Prop :=
  ∀ key ipo deposit available escrow L₁ L₂,
    Reservable ctx s q.1 q.2 key ipo deposit available escrow L₁ L₂ →
    ipo.indications.get? q.1.actorId = none

/-! ## Effects -/

section Effects

variable {ctx} {s s' : Sim} {r : OrderRequest} {tick : Int}

omit [Uuid5] in
theorem emit_run (tick : Int) (kind : EventKind) (payload : List (String × Value))
    (actorId : Option String) (subjectIds : List String) (s : Sim) :
    ∃ event log, emit tick kind payload actorId subjectIds s = .ok event (s.putLog log) ∧
      event.runId = s.log.runId ∧ event.tick = tick ∧ log.runId = s.log.runId :=
  ⟨_, _, rfl, rfl, rfl, rfl⟩

omit [Uuid5] in
theorem escrowAccount_ready {ownerId ref : String} {escrow : AccountId} {L₁ : Ledger}
    (h : EscrowReady ctx s.books ownerId ref tick escrow L₁) :
    ∃ opened log, escrowAccount ctx ownerId ref tick s
        = .ok (escrow, opened) ((s.putBooks L₁).putLog log) ∧ log.runId = s.log.runId := by
  obtain ⟨hid, hopen⟩ := h
  unfold escrowAccount
  rw [bind_of_ok (ledgerNow_eq_ok.mpr ⟨rfl, rfl⟩), bind_of_ok (liftE_eq_ok.mpr ⟨hid, rfl⟩)]
  rcases hopen with ⟨hopen, rfl⟩ | ⟨hclosed, a, ha⟩
  · rw [if_pos hopen]
    exact ⟨[], s.log, rfl, rfl⟩
  · rw [if_neg (by rw [hclosed]; decide),
      bind_of_ok (onLedger_eq_ok.mpr ⟨L₁, ha, rfl⟩)]
    exact ⟨_, _, rfl, rfl⟩

omit [Uuid5] in
theorem escrowAccount_ok_ready {ownerId ref : String} {escrow : AccountId} {opened : List Event}
    (h : escrowAccount ctx ownerId ref tick s = .ok (escrow, opened) s') :
    EscrowReady ctx s.books ownerId ref tick escrow s'.books ∧ s'.log.runId = s.log.runId := by
  unfold escrowAccount at h
  obtain ⟨_, _, h₁, h⟩ := bind_eq_ok.mp h
  obtain ⟨rfl, rfl⟩ := ledgerNow_eq_ok.mp h₁
  obtain ⟨value, _, h₁, h⟩ := bind_eq_ok.mp h
  obtain ⟨hid, rfl⟩ := liftE_eq_ok.mp h₁
  rcases ite_eq_ok.mp h with ⟨hopen, h⟩ | ⟨hclosed, h⟩
  · obtain ⟨he, rfl⟩ := pure_eq_ok.mp h
    cases he
    exact ⟨⟨hid, .inl ⟨hopen, rfl⟩⟩, rfl⟩
  · obtain ⟨a, _, h₁, h⟩ := bind_eq_ok.mp h
    obtain ⟨L₁, hL, rfl⟩ := onLedger_eq_ok.mp h₁
    obtain ⟨event, _, h₁, h⟩ := bind_eq_ok.mp h
    cases h₁
    obtain ⟨he, rfl⟩ := pure_eq_ok.mp h
    cases he
    exact ⟨⟨hid, .inr ⟨by simpa using hclosed, a, hL⟩⟩, rfl⟩

omit [Uuid5] in
theorem escrowAccount_error {ownerId ref : String} {e : PyError}
    (h : escrowAccount ctx ownerId ref tick s = .error e s') : s' = s := by
  unfold escrowAccount at h
  rw [bind_of_ok (ledgerNow_eq_ok.mpr ⟨rfl, rfl⟩)] at h
  cases hid : escrowId s.books ownerId ref with
  | error e' =>
    rw [hid] at h
    cases h
    rfl
  | ok value =>
    rw [bind_of_ok (liftE_eq_ok.mpr ⟨hid, rfl⟩)] at h
    split_ifs at h
    · cases h
    · rcases bind_eq_error.mp h with h₁ | ⟨a, t, -, h₁⟩
      · obtain ⟨L', hL, rfl⟩ := zoom_eq_error.mp h₁
        have hsame : L' = s.books := openAccount_atomic _ _ _ _ _ _ _ _ _ hL
        rw [hsame]
      · cases h₁

theorem post_error {legs : List Leg} {cause : Event} {e : PyError}
    (h : post legs tick cause [] s = .error e s') : s' = s := by
  unfold post onLedger at h
  obtain ⟨L', hL, rfl⟩ := zoom_eq_error.mp h
  have hsame : L' = s.books := post_atomic _ _ _ _ _ _ _ _ hL
  rw [hsame]

end Effects

/-! ## Outcomes -/

section Outcomes

variable {ctx} {s : Sim} {r : OrderRequest} {tick : Int}

omit [Uuid5] in
theorem still_untouched {s' : Sim} (h : Still s s') : Untouched s s' := by
  obtain ⟨legs, hpays, hbook⟩ := h.moved.paid
  cases hpays
  refine ⟨fun a => ?_, by rw [h.exch_eq]⟩
  rw [hbook]
  simp

omit [Uuid5] in
theorem rejected_still (symbol reason : String) (detail : List (String × Value)) :
    Still s (stateAfter ((do
      let event ← reject r.actorId symbol reason detail tick
      pure [event] : EngineM (List Event)) s)) := by
  obtain ⟨event, log, hrun, -⟩ := emit_run tick .orderRejected
    [("trader_id", .str r.actorId), ("symbol", .str symbol), ("reason", .str reason),
      ("detail", .dict detail)] (some r.actorId) (if symbol = "" then [] else [symbol]) s
  unfold reject
  rw [bind_of_ok hrun]
  exact .putLog s log

theorem ipoIndication_unreserved
    (h : ∀ key ipo deposit available escrow L₁ L₂,
      ¬Reservable ctx s r tick key ipo deposit available escrow L₁ L₂) :
    Still s (stateAfter (ipoIndication ctx r tick s)) := by
  unfold ipoIndication
  rw [bind_of_ok (exchangeNow_eq_ok.mpr ⟨rfl, rfl⟩)]
  dsimp only
  cases hfind : s.exch.ipos.entries.find? fun e =>
      e.2.symbol = r.symbol && e.2.status = .announced with
  | none => exact rejected_still _ _ _
  | some found =>
    obtain ⟨key, ipo⟩ := found
    dsimp only
    split_ifs with h₁ h₂
    · exact rejected_still _ _ _
    · exact rejected_still _ _ _
    rw [bind_of_ok (ledgerNow_eq_ok.mpr ⟨rfl, rfl⟩)]
    cases hd : depositAccount s.books r.actorId with
    | error e => exact rejected_still _ _ _
    | ok deposit =>
      dsimp only
      cases hbal : s.books.balance deposit with
      | error e => exact .refl s
      | ok available =>
        rw [bind_of_ok (liftE_eq_ok.mpr ⟨rfl, rfl⟩)]
        split_ifs with h₃
        · exact rejected_still _ _ _
        cases he : escrowAccount ctx r.actorId "exchange" tick s with
        | error e t =>
          rw [bind_of_error he]
          rw [escrowAccount_error he]
          exact .refl s
        | ok pair s₁ =>
          obtain ⟨escrow, opened⟩ := pair
          have hstill := (escrowAccount_eq_ok he).1
          obtain ⟨hready, hlog⟩ := escrowAccount_ok_ready he
          rw [bind_of_ok he]
          dsimp only
          obtain ⟨indication, log, hemit, hrunId, htick, -⟩ := emit_run tick .ipoIndication
            [("firm_id", .str ipo.firmId), ("investor_id", .str r.actorId), ("qty", .int r.qty),
              ("limit_price_cents", .int (r.limitPriceCents.getD 0))] (some r.actorId)
            [ipo.firmId] s₁
          have hstill₂ : Still s (s₁.putLog log) := hstill.trans (.putLog s₁ log)
          rw [bind_of_ok hemit]
          cases hl : Ledger.transfer deposit escrow (r.qty * r.limitPriceCents.getD 0) "escrow" with
          | error e => exact hstill₂
          | ok legs =>
            rw [bind_of_ok (liftE_eq_ok.mpr ⟨rfl, rfl⟩)]
            cases hp : post legs tick indication [] (s₁.putLog log) with
            | error e t =>
              rw [bind_of_error hp, post_error hp]
              exact hstill₂
            | ok txn t =>
              -- the ledger took the reservation after all
              obtain ⟨L', hL, -⟩ := onLedger_eq_ok.mp hp
              obtain ⟨hcause, deltas, hdeltas, -⟩ := Ledger.settledDeltas_of_post hL
              have hbooks : (s₁.putLog log).books.runId = s.books.runId :=
                hstill.moved.steady.runId_eq
              rw [not_or, not_not, not_le] at h₂
              refine absurd ?_ (h key ipo deposit available escrow s₁.books
                { s₁.books with
                  accounts := Ledger.applyDeltas s₁.books.accounts deltas.entries })
              exact {
                found := hfind
                bookOpen := not_lt.mp h₁
                qty_pos := h₂.1
                inBand := h₂.2
                deposit_at := hd
                balance_at := hbal
                covered := not_lt.mp h₃
                escrow_ready := hready
                run_eq := by rw [← hlog, ← hrunId, hcause, hbooks]
                taken := Ledger.transferred_eq_ok.mpr ⟨legs, deltas, hl, hdeltas, rfl⟩ }

theorem ipoIndication_reserved {key : String} {ipo : IpoState} {deposit escrow : AccountId}
    {available : Int} {L₁ L₂ : Ledger}
    (h : Reservable ctx s r tick key ipo deposit available escrow L₁ L₂) :
    ∃ events t, t.exch = s.exch ∧ Moved [⟨deposit, escrow, r.requiredCents⟩] s.books t.books ∧
      escrow.code = .esc ∧ escrow.ownerId = r.actorId ∧
      ipoIndication ctx r tick s =
        if ipo.indications.get? r.actorId = none then
          .ok events (t.putExch { t.exch with
            ipos := t.exch.ipos.modify key fun row =>
              { row with indications := row.indications.put r.actorId (r.qty, r.limitCents) } })
        else .error (.value "one IPO indication per investor is permitted") t := by
  obtain ⟨opened, log, hescrow, hlog⟩ := escrowAccount_ready h.escrow_ready
  obtain ⟨hstill, hcode, howner⟩ := escrowAccount_eq_ok hescrow
  obtain ⟨indication, log', hemit, hrunId, htick, -⟩ := emit_run tick .ipoIndication
    [("firm_id", .str ipo.firmId), ("investor_id", .str r.actorId), ("qty", .int r.qty),
      ("limit_price_cents", .int (r.limitPriceCents.getD 0))] (some r.actorId) [ipo.firmId]
    ((s.putBooks L₁).putLog log)
  obtain ⟨legs, deltas, hl, hdeltas, -⟩ := Ledger.transferred_eq_ok.mp h.taken
  have hrun : indication.runId = L₁.runId := by
    have hsame : L₁.runId = s.books.runId := hstill.moved.steady.runId_eq
    rw [hrunId, hsame, ← h.run_eq]
    exact hlog
  obtain ⟨L', hpost, -⟩ := Ledger.post_of_settledDeltas
    (Ledger.transfer_two_le hl) ⟨hrun, htick⟩ hdeltas
  have hp : post legs tick indication [] (((s.putBooks L₁).putLog log).putLog log')
      = .ok _ ((((s.putBooks L₁).putLog log).putLog log').putBooks L') :=
    onLedger_eq_ok.mpr ⟨L', hpost, rfl⟩
  have hmoved : Moved [⟨deposit, escrow, r.requiredCents⟩] L₁ L' :=
    .posted (.single hl) (Ledger.post_eq_ok hpost)
  refine ⟨opened ++ [indication], (((s.putBooks L₁).putLog log).putLog log').putBooks L', rfl,
    hstill.moved.trans hmoved, hcode, howner, ?_⟩
  have hguard : ¬(r.qty ≤ 0 ∨ ¬(ipo.priceLowCents ≤ r.limitPriceCents.getD 0 ∧
      r.limitPriceCents.getD 0 ≤ ipo.priceHighCents)) := by
    rw [not_or, not_le, not_not]
    exact ⟨h.qty_pos, h.inBand⟩
  have hcovered : ¬available < r.qty * r.limitPriceCents.getD 0 := not_lt.mpr h.covered
  have hlegs : Ledger.transfer deposit escrow (r.qty * r.limitPriceCents.getD 0) "escrow"
      = .ok legs := hl
  unfold ipoIndication
  rw [bind_of_ok (exchangeNow_eq_ok.mpr ⟨rfl, rfl⟩)]
  dsimp only
  rw [h.found]
  dsimp only
  rw [if_neg (not_lt.mpr h.bookOpen), if_neg hguard,
    bind_of_ok (ledgerNow_eq_ok.mpr ⟨rfl, rfl⟩), h.deposit_at]
  dsimp only
  rw [bind_of_ok (liftE_eq_ok.mpr ⟨h.balance_at, rfl⟩), if_neg hcovered,
    bind_of_ok hescrow]
  dsimp only
  rw [bind_of_ok hemit, bind_of_ok (liftE_eq_ok.mpr ⟨hlegs, rfl⟩), bind_of_ok hp]
  split_ifs with hfresh
  · rw [bind_of_ok (a := ()) (require_eq_ok.mpr ⟨hfresh, rfl⟩)]
    rfl
  · unfold require
    rw [if_neg hfresh]
    rfl

omit [Uuid5] in
theorem moved_balances {s' : Sim} {deposit escrow : AccountId} {n : Int}
    (h : Moved [⟨deposit, escrow, n⟩] s.books s'.books) (hd : deposit.code = .dep)
    (he : escrow.code = .esc) :
    s'.books.book deposit = s.books.book deposit - n ∧
      s'.books.book escrow = s.books.book escrow + n ∧
      ∀ a, a.code.liquid → a ≠ deposit → a ≠ escrow → s'.books.book a = s.books.book a := by
  have hne : deposit ≠ escrow := by
    rintro rfl
    rw [hd] at he
    cases he
  -- a balance is the sum of all balances weighed by its own indicator
  have hat : ∀ a : AccountId, a.code.liquid → s'.books.book a = s.books.book a
      + n * ((if escrow = a then 1 else 0) - (if deposit = a then 1 else 0)) := by
    intro a ha
    have hout : Outside fun b : AccountId => if b = a then (1 : ℤ) else 0 := by
      refine ⟨fun b hb => if_neg ?_, fun b hb => if_neg ?_⟩
      · rintro rfl
        rcases ha with ha | ha | ha <;> rw [hb] at ha <;> cases ha
      · rintro rfl
        rcases ha with ha | ha | ha <;> rw [hb] at ha <;> cases ha
    have hweigh := h.weigh_eq hout
    rw [weigh_indicator, weigh_indicator, moved_cons, moved_nil, add_zero] at hweigh
    exact hweigh
  refine ⟨?_, ?_, fun a ha h₁ h₂ => ?_⟩
  · rw [hat deposit (.inr (.inl hd)), if_neg hne.symm, if_pos rfl]
    ring
  · rw [hat escrow (.inr (.inr he)), if_pos rfl, if_neg hne]
    ring
  · rw [hat a ha, if_neg h₂.symm, if_neg h₁.symm]
    ring

end Outcomes

/-! ## Every sequence -/

theorem indicationLaw_iff (s : Sim) (q : OrderRequest × Int) :
    IndicationLaw ctx s q ↔ ReservesOnce ctx s q := by
  constructor
  · intro hlaw key ipo deposit available escrow L₁ L₂ h
    by_contra hsecond
    obtain ⟨events, t, -, hmoved, hcode, -, hrun⟩ := ipoIndication_reserved h
    rw [if_neg hsecond] at hrun
    rcases hlaw with ⟨_, _, hok, -⟩ | ⟨hsame, -⟩
    · rw [hrun] at hok
      cases hok
    · -- the cents are gone, and they were not nothing
      rw [hrun] at hsame
      obtain ⟨legs, _, hl, -⟩ := Ledger.transferred_eq_ok.mp h.taken
      have hpos := (transfer_eq_ok hl).amount_pos
      have hdebited := (moved_balances hmoved (depositAccount_eq_ok h.deposit_at).1 hcode).1
      have := hsame deposit
      simp only [stateAfter_error] at this
      omega
  · intro honce
    by_cases hany : ∃ key ipo deposit available escrow L₁ L₂,
        Reservable ctx s q.1 q.2 key ipo deposit available escrow L₁ L₂
    · obtain ⟨key, ipo, deposit, available, escrow, L₁, L₂, h⟩ := hany
      obtain ⟨events, t, hexch, hmoved, hcode, howner, hrun⟩ := ipoIndication_reserved h
      rw [if_pos (honce _ _ _ _ _ _ _ h)] at hrun
      obtain ⟨hd, ho, -⟩ := depositAccount_eq_ok h.deposit_at
      obtain ⟨hdebited, hcredited, hothers⟩ := moved_balances hmoved hd hcode
      have hmem := Dict.mem_entries_iff.mp (List.mem_of_find?_eq_some h.found)
      have hcond := List.find?_some h.found
      simp only [Bool.and_eq_true, decide_eq_true_eq] at hcond
      refine .inl ⟨events, _, hrun, key, ipo, deposit, escrow, ?_⟩
      exact ⟨hmem, hcond.1, hcond.2, by rw [← hexch]; rfl, ⟨hd, ho⟩, ⟨hcode, howner⟩, hdebited,
        hcredited, hothers⟩
    · simp only [not_exists] at hany
      exact .inr (still_untouched (ipoIndication_unreserved hany))

/-- **All or nothing, over every sequence**: from any state, each indication of
a sequence is recorded or leaves everything as it was, exactly when along the
sequence no investor that stands in a book reserves again. -/
theorem indications_atomic (s : Sim) (qs : List (OrderRequest × Int)) :
    Along (indicate ctx) (IndicationLaw ctx) s qs ↔ Along (indicate ctx) (ReservesOnce ctx) s qs :=
  ⟨fun h => h.mono fun s q => (indicationLaw_iff ctx s q).mp,
    fun h => h.mono fun s q => (indicationLaw_iff ctx s q).mpr⟩

/-! ### A second indication -/

/-- An offering of "S" that takes indications, and an investor with a thousand
cents. -/
def bookBuilding : EngineM Unit := do
  openMarket ["ag_a"] 1000
  modifyExchange fun x => { x with
    ipos := x.ipos.put "ipo_1" {
      ipoId := "ipo_1"
      firmId := "fm_s"
      symbol := "S"
      sharesOffered := 10
      primaryShares := 10
      secondaryShares := 0
      priceLowCents := 8
      priceHighCents := 12
      underwriterBankId := "bk_1"
      announcedTick := 0
      bookCloseTick := 5 } }

/-- An indication of "ag_a". -/
def indicationFor (qty price : Int) : OrderRequest where
  actionId := "i1"
  actorId := "ag_a"
  symbol := "S"
  isShort := false
  side := .buy
  orderType := .limit
  qty
  limitPriceCents := some price
  collateralCents := 0
  flags := ["ipo"]

theorem not_indicationLaw {s : Sim} {q : OrderRequest × Int}
    (hraises : outcome (ipoIndication ctx q.1 q.2 s) (fun _ => true) = none)
    (hmoves : (s.books.accounts.keys.any fun a =>
      ((indicate ctx s q).books.accounts.get? a).elim 0 Account.balanceCents
        ≠ (s.books.accounts.get? a).elim 0 Account.balanceCents) = true) :
    ¬IndicationLaw ctx s q := by
  rintro (⟨events, t, hok, -⟩ | ⟨hsame, -⟩)
  · rw [hok] at hraises
    cases hraises
  · obtain ⟨a, -, hne⟩ := List.any_eq_true.mp hmoves
    have heq := hsame a
    rw [Ledger.book_apply, Ledger.book_apply] at heq
    exact of_decide_eq_true hne heq

end Atomic

theorem indication_repeated :
    letI : Uuid5 := ⟨fun run name => run ++ name⟩
    ¬Along (indicate {}) (IndicationLaw {}) (stateAfter (bookBuilding emptySim))
      [(indicationFor 2 10, 0), (indicationFor 1 10, 0)] := by
  let _ : Uuid5 := ⟨fun run name => run ++ name⟩
  rintro ⟨-, hsecond, -⟩
  exact not_indicationLaw {} (by decide +kernel) (by decide +kernel) hsecond

end Polis.Economy.Exchange
