/-
  Polis.Economy.Exchange.Intake — what taking an order in did.

  An order request ends in a rejection, in an indication recorded in an open
  book, or in a stored order with its reservation.

  Main results:
    * `admit_eq_ok` — the three outcomes of an order request.
    * `announceIpo_eq_ok` — an offering is stored, or nothing happens.
-/
import Polis.Economy.Exchange.Effects

namespace Polis.Economy.Exchange

open Lib Lib.Effect Sim

/-! ## Calls that move nothing -/

/-- The exchange and the balances stay; accounts may be opened. -/
structure Still (s s' : Sim) : Prop where
  exch_eq : s'.exch = s.exch
  trail_eq : s'.trail = s.trail
  moved : Moved [] s.books s'.books

theorem Still.refl (s : Sim) : Still s s := ⟨rfl, rfl, .refl _⟩

theorem Still.trans {s₁ s₂ s₃ : Sim} (h : Still s₁ s₂) (h' : Still s₂ s₃) : Still s₁ s₃ :=
  ⟨h'.exch_eq.trans h.exch_eq, h'.trail_eq.trans h.trail_eq, h.moved.trans h'.moved⟩

theorem Still.putLog (s : Sim) (log : Log) : Still s (s.putLog log) := ⟨rfl, rfl, .refl _⟩

section

variable {s s' : Sim}

theorem emit_still {tick : Int} {kind : EventKind} {payload : List (String × Value)}
    {actorId : Option String} {subjectIds : List String} {event : Event}
    (h : emit tick kind payload actorId subjectIds s = .ok event s') : Still s s' := by
  obtain ⟨log, rfl⟩ := emit_eq_ok h
  exact .putLog s log

theorem reject_still {actorId symbol reason : String} {detail : List (String × Value)} {tick : Int}
    {event : Event} (h : reject actorId symbol reason detail tick s = .ok event s') :
    Still s s' := emit_still h

theorem escrowAccount_eq_ok {ctx : Ctx} {ownerId ref : String} {tick : Int}
    {r : AccountId × List Event} (h : escrowAccount ctx ownerId ref tick s = .ok r s') :
    Still s s' ∧ r.1.code = .esc ∧ r.1.ownerId = ownerId := by
  unfold escrowAccount at h
  obtain ⟨_, _, h₁, h⟩ := bind_eq_ok.mp h
  obtain ⟨rfl, rfl⟩ := ledgerNow_eq_ok.mp h₁
  obtain ⟨value, _, h₁, h⟩ := bind_eq_ok.mp h
  obtain ⟨hv, rfl⟩ := liftE_eq_ok.mp h₁
  obtain ⟨hc, ho, -⟩ := escrowId_eq_ok hv
  rcases ite_eq_ok.mp h with ⟨-, h⟩ | ⟨-, h⟩
  · obtain ⟨rfl, rfl⟩ := pure_eq_ok.mp h
    exact ⟨.refl _, hc, ho⟩
  · obtain ⟨_, _, h₁, h⟩ := bind_eq_ok.mp h
    obtain ⟨L', hL, rfl⟩ := onLedger_eq_ok.mp h₁
    obtain ⟨event, _, h₁, h⟩ := bind_eq_ok.mp h
    have he := emit_still h₁
    obtain ⟨rfl, rfl⟩ := pure_eq_ok.mp h
    have hopen : Still s (s.putBooks L') := ⟨rfl, rfl, .opened hL⟩
    exact ⟨hopen.trans he, hc, ho⟩

end

/-! ## Reservations -/

/-- Write the row `holding(trader, symbol)` hands out back. -/
def touchHolding (traderId symbol : String) (x : ExchangeState) : ExchangeState :=
  x.putHolding traderId symbol (x.holdingRow traderId symbol)

/-- Reserve shares of a holding. -/
def reserveShares (traderId symbol : String) (qty : Int) (x : ExchangeState) : ExchangeState :=
  let holding := x.holdingRow traderId symbol
  x.putHolding traderId symbol { holding with reservedQty := holding.reservedQty + qty }

/-- What an accepted reservation did. -/
inductive Reserves (cfg : ExchangeSettings) (r : OrderRequest) (price : Int) (s s' : Sim) :
    Reservation → Prop where
  | buy {escrow : AccountId} {opened : List Event} (side_eq : r.side = .buy)
      (code_eq : escrow.code = .esc) (owner_eq : escrow.ownerId = r.actorId) (still : Still s s') :
      Reserves cfg r price s s'
        { escrow := some escrow, cents := reserveRequired cfg r.qty price, opened }
  | short {escrow : AccountId} {opened : List Event} (side_ne : r.side ≠ .buy)
      (flag : "opens_short" ∈ r.orderFlags) (code_eq : escrow.code = .esc)
      (owner_eq : escrow.ownerId = r.actorId) (still : Still s s') :
      Reserves cfg r price s s' { escrow := some escrow, cents := r.collateralCents, opened }
  | sell (side_ne : r.side ≠ .buy) (flag : "opens_short" ∉ r.orderFlags)
      (room : r.qty ≤ max 0 ((s.exch.holdingRow r.actorId r.symbol).qty
        - (s.exch.holdingRow r.actorId r.symbol).reservedQty
        - (if r.forced then 0 else (s.exch.holdingRow r.actorId r.symbol).lockedQty)))
      (exch_eq : s'.exch = reserveShares r.actorId r.symbol r.qty s.exch)
      (trail_eq : s'.trail = s.trail) (books_eq : s'.books = s.books) :
      Reserves cfg r price s s' { qty := r.qty }

/-- A rejected reservation moved nothing; a holding row may have been
created. -/
structure Turned (r : OrderRequest) (s s' : Sim) : Prop where
  exch_eq : s'.exch = s.exch ∨ s'.exch = touchHolding r.actorId r.symbol s.exch
  trail_eq : s'.trail = s.trail
  moved : Moved [] s.books s'.books

theorem Still.turned {r : OrderRequest} {s s' : Sim} (h : Still s s') : Turned r s s' :=
  ⟨.inl h.exch_eq, h.trail_eq, h.moved⟩

theorem Turned.still {r : OrderRequest} {s₁ s₂ s₃ : Sim} (h : Turned r s₁ s₂) (h' : Still s₂ s₃) :
    Turned r s₁ s₃ := by
  refine ⟨?_, h'.trail_eq.trans h.trail_eq, h.moved.trans h'.moved⟩
  rcases h.exch_eq with hx | hx
  · exact .inl (h'.exch_eq.trans hx)
  · exact .inr (h'.exch_eq.trans hx)

section

variable {ctx : Ctx} {s s' : Sim} {r : OrderRequest} {price tick : Int}

theorem reserveBuy_eq_ok {result : Except Rejection Reservation} (hside : r.side = .buy)
    (h : reserveBuy ctx r price tick s = .ok result s') :
    (∃ why, result = .error why ∧ Turned r s s') ∨
      ∃ res, result = .ok res ∧ Reserves ctx.settings.exchange r price s s' res := by
  unfold reserveBuy at h
  obtain ⟨_, _, h₁, h⟩ := bind_eq_ok.mp h
  obtain ⟨rfl, rfl⟩ := ledgerNow_eq_ok.mp h₁
  cases hd : depositAccount s.books r.actorId with
  | error e =>
    rw [hd] at h
    obtain ⟨rfl, rfl⟩ := pure_eq_ok.mp h
    exact .inl ⟨_, rfl, (Still.refl _).turned⟩
  | ok deposit =>
    rw [hd] at h
    obtain ⟨available, _, h₁, h⟩ := bind_eq_ok.mp h
    obtain ⟨-, rfl⟩ := liftE_eq_ok.mp h₁
    rcases ite_eq_ok.mp h with ⟨-, h⟩ | ⟨-, h⟩
    · obtain ⟨rfl, rfl⟩ := pure_eq_ok.mp h
      exact .inl ⟨_, rfl, (Still.refl _).turned⟩
    · obtain ⟨⟨escrow, opened⟩, _, h₁, h⟩ := bind_eq_ok.mp h
      obtain ⟨hs, hc, ho⟩ := escrowAccount_eq_ok h₁
      obtain ⟨rfl, rfl⟩ := pure_eq_ok.mp h
      exact .inr ⟨_, rfl, .buy hside hc ho hs⟩

theorem reserveShort_eq_ok {result : Except Rejection Reservation} (hside : r.side ≠ .buy)
    (hflag : "opens_short" ∈ r.orderFlags)
    (h : reserveShort ctx r price tick s = .ok result s') :
    (∃ why, result = .error why ∧ Turned r s s') ∨
      ∃ res, result = .ok res ∧ Reserves ctx.settings.exchange r price s s' res := by
  unfold reserveShort at h
  rcases ite_eq_ok.mp h with ⟨-, h⟩ | ⟨-, h⟩
  · obtain ⟨rfl, rfl⟩ := pure_eq_ok.mp h
    exact .inl ⟨_, rfl, (Still.refl _).turned⟩
  obtain ⟨_, _, h₁, h⟩ := bind_eq_ok.mp h
  obtain ⟨rfl, rfl⟩ := ledgerNow_eq_ok.mp h₁
  cases hd : depositAccount s.books r.actorId with
  | error e =>
    rw [hd] at h
    obtain ⟨rfl, rfl⟩ := pure_eq_ok.mp h
    exact .inl ⟨_, rfl, (Still.refl _).turned⟩
  | ok deposit =>
    rw [hd] at h
    obtain ⟨available, _, h₁, h⟩ := bind_eq_ok.mp h
    obtain ⟨-, rfl⟩ := liftE_eq_ok.mp h₁
    rcases ite_eq_ok.mp h with ⟨-, h⟩ | ⟨-, h⟩
    · obtain ⟨rfl, rfl⟩ := pure_eq_ok.mp h
      exact .inl ⟨_, rfl, (Still.refl _).turned⟩
    · obtain ⟨⟨escrow, opened⟩, _, h₁, h⟩ := bind_eq_ok.mp h
      obtain ⟨hs, hc, ho⟩ := escrowAccount_eq_ok h₁
      obtain ⟨rfl, rfl⟩ := pure_eq_ok.mp h
      exact .inr ⟨_, rfl, .short hside hflag hc ho hs⟩

theorem holdingRow_putHolding (x : ExchangeState) (traderId symbol : String) (row : HoldingState) :
    (x.putHolding traderId symbol row).holdingRow traderId symbol = row := by
  simp [ExchangeState.holdingRow, ExchangeState.putHolding]

theorem putHolding_putHolding (x : ExchangeState) (traderId symbol : String)
    (row row' : HoldingState) :
    (x.putHolding traderId symbol row).putHolding traderId symbol row'
      = x.putHolding traderId symbol row' := by
  simp only [ExchangeState.putHolding, Dict.put_put]

theorem reserveSell_eq_ok {result : Except Rejection Reservation} (hside : r.side ≠ .buy)
    (hflag : "opens_short" ∉ r.orderFlags) (h : reserveSell r s = .ok result s') :
    (∃ why, result = .error why ∧ Turned r s s') ∨
      ∃ res, result = .ok res ∧ Reserves ctx.settings.exchange r price s s' res := by
  unfold reserveSell at h
  obtain ⟨_, s₁, h₁, h⟩ := bind_eq_ok.mp h
  obtain rfl := modifyExchange_eq_ok.mp h₁
  obtain ⟨_, _, h₁, h⟩ := bind_eq_ok.mp h
  obtain ⟨rfl, rfl⟩ := exchangeNow_eq_ok.mp h₁
  rw [exch_putExch, holdingRow_putHolding] at h
  rcases ite_eq_ok.mp h with ⟨-, h⟩ | ⟨hroom, h⟩
  · obtain ⟨rfl, rfl⟩ := pure_eq_ok.mp h
    exact .inl ⟨_, rfl, .inr rfl, rfl, .refl _⟩
  · obtain ⟨_, s₂, h₁, h⟩ := bind_eq_ok.mp h
    obtain rfl := modifyExchange_eq_ok.mp h₁
    obtain ⟨rfl, rfl⟩ := pure_eq_ok.mp h
    refine .inr ⟨_, rfl, .sell hside hflag (not_lt.mp hroom) ?_ rfl rfl⟩
    show (s.exch.putHolding _ _ _).putHolding _ _ _ = _
    rw [putHolding_putHolding]
    rfl

theorem reserve_eq_ok {result : Except Rejection Reservation}
    (h : reserve ctx r price tick s = .ok result s') :
    (∃ why, result = .error why ∧ Turned r s s') ∨
      ∃ res, result = .ok res ∧ Reserves ctx.settings.exchange r price s s' res := by
  unfold reserve at h
  split_ifs at h with hside hflag
  · exact reserveBuy_eq_ok hside h
  · exact reserveShort_eq_ok hside hflag h
  · exact reserveSell_eq_ok hside hflag h

end

/-! ## Orders -/

section

variable [Uuid5] {ctx : Ctx} {s s' : Sim} {r : OrderRequest} {tick : Int}

/-- A stored order. -/
structure Placed (r : OrderRequest) (ordinal : Nat) (tick : Int) (reserved : Reservation)
    (s s' : Sim) : Prop where
  screened : ∃ security, s.exch.securities.get? r.symbol = some security
  qty_pos : 0 < r.qty
  exch_eq : s'.exch =
    { (if reserved.qty = 0 then s.exch else reserveShares r.actorId r.symbol reserved.qty s.exch)
      with orders := s.exch.orders.put (orderIdOf r.actionId) (orderRow r reserved ordinal tick) }
  trail_eq : ∃ x, s'.trail = s.trail ++ [.admitOrder x (orderIdOf r.actionId)] ∧ x.orders = s.exch.orders
  kind : (r.side = .buy ∧ reserved.qty = 0) ∨
    (r.side ≠ .buy ∧ "opens_short" ∈ r.orderFlags ∧ reserved.qty = 0) ∨
    (r.side ≠ .buy ∧ "opens_short" ∉ r.orderFlags ∧ reserved.qty = r.qty ∧ reserved.cents = 0 ∧
      r.qty ≤ max 0 ((s.exch.holdingRow r.actorId r.symbol).qty
        - (s.exch.holdingRow r.actorId r.symbol).reservedQty
        - (if r.forced then 0 else (s.exch.holdingRow r.actorId r.symbol).lockedQty)))
  moved : ∃ ms, Moved ms s.books s'.books ∧ Inflow r.actorId reserved.cents ms

theorem reserveCents_eq_ok {reserved : Reservation} {cause : Event} {u : Unit}
    (hescrow : ∀ e, reserved.escrow = some e → e.code = .esc ∧ e.ownerId = r.actorId)
    (h : reserveCents r.actorId reserved tick cause s = .ok u s') :
    ∃ L', s' = s.putBooks L' ∧ ∃ ms, Moved ms s.books L' ∧ Inflow r.actorId reserved.cents ms := by
  unfold reserveCents at h
  rcases ite_eq_ok.mp h with ⟨-, h⟩ | ⟨hz, h⟩
  · obtain ⟨_, _, h₁, h⟩ := bind_eq_ok.mp h
    obtain ⟨rfl, rfl⟩ := ledgerNow_eq_ok.mp h₁
    obtain ⟨source, _, h₁, h⟩ := bind_eq_ok.mp h
    obtain ⟨hd, rfl⟩ := liftE_eq_ok.mp h₁
    obtain ⟨escrow, _, h₁, h⟩ := bind_eq_ok.mp h
    obtain ⟨he, rfl⟩ := orRaise_eq_ok.mp h₁
    obtain ⟨legs, _, h₁, h⟩ := bind_eq_ok.mp h
    obtain ⟨hl, rfl⟩ := liftE_eq_ok.mp h₁
    obtain ⟨_, _, h₁, h⟩ := bind_eq_ok.mp h
    obtain ⟨L', hL, rfl⟩ := post_eq_ok h₁
    obtain ⟨-, rfl⟩ := pure_eq_ok.mp h
    exact ⟨L', rfl, _, .posted (.single hl) hL, .transfer hd (hescrow escrow he)⟩
  · obtain ⟨-, rfl⟩ := pure_eq_ok.mp h
    rw [not_not] at hz
    exact ⟨_, rfl, [], .refl _, hz ▸ .nil _⟩

omit [Uuid5] in
theorem screenOrder_eq_ok {e : EconomyState} {sessionOpen : Bool} {price : Int}
    (h : screenOrder ctx e r tick sessionOpen = .ok price) :
    (∃ security, e.exchange.securities.get? r.symbol = some security) ∧ 0 < r.qty := by
  unfold screenOrder at h
  cases hs : e.exchange.securities.get? r.symbol with
  | none =>
    rw [hs] at h
    dsimp only at h
    split_ifs at h
  | some security =>
    rw [hs] at h
    dsimp only at h
    refine ⟨⟨security, rfl⟩, ?_⟩
    by_contra hq
    split_ifs at h with h₁ h₂ h₃ h₄ h₅ h₆ h₇ h₈
    exact h₅ (.inl (not_lt.mp hq))

theorem placeOrder_eq_ok {reserved : Reservation} {price : Int} {ordinal : Nat} {s₀ : Sim}
    {events : List Event} (hsec : ∃ security, s₀.exch.securities.get? r.symbol = some security)
    (hq : 0 < r.qty) (hr : Reserves ctx.settings.exchange r price s₀ s reserved)
    (h : placeOrder r reserved ordinal tick s = .ok events s') :
    Placed r ordinal tick reserved s₀ s' := by
  unfold placeOrder at h
  obtain ⟨submitted, _, h₁, h⟩ := bind_eq_ok.mp h
  obtain ⟨log, rfl⟩ := emit_eq_ok h₁
  obtain ⟨_, s₁, h₁, h⟩ := bind_eq_ok.mp h
  obtain ⟨_, _, h₂, h⟩ := bind_eq_ok.mp h
  obtain ⟨rfl, rfl⟩ := exchangeNow_eq_ok.mp h₂
  obtain ⟨_, _, h₂, h⟩ := bind_eq_ok.mp h
  obtain rfl := note_eq_ok.mp h₂
  obtain ⟨_, _, h₂, h⟩ := bind_eq_ok.mp h
  obtain rfl := modifyExchange_eq_ok.mp h₂
  obtain ⟨-, rfl⟩ := pure_eq_ok.mp h
  have hescrow : ∀ e, reserved.escrow = some e → e.code = .esc ∧ e.ownerId = r.actorId := by
    intro e he
    cases hr with
    | buy _ hc ho _ => cases he; exact ⟨hc, ho⟩
    | short _ _ hc ho _ => cases he; exact ⟨hc, ho⟩
    | sell => cases he
  obtain ⟨L', rfl, ms, hm, hin⟩ := reserveCents_eq_ok hescrow h₁
  have hbefore : s.trail = s₀.trail ∧ s.exch.orders = s₀.exch.orders ∧
      s.exch = (if reserved.qty = 0 then s₀.exch
        else reserveShares r.actorId r.symbol reserved.qty s₀.exch) ∧
      Moved [] s₀.books s.books := by
    cases hr with
    | buy _ _ _ hs => exact ⟨hs.trail_eq, by rw [hs.exch_eq], hs.exch_eq, hs.moved⟩
    | short _ _ _ _ hs => exact ⟨hs.trail_eq, by rw [hs.exch_eq], hs.exch_eq, hs.moved⟩
    | sell _ _ _ hx ht hb =>
      refine ⟨ht, by rw [hx]; rfl, ?_, hb ▸ .refl _⟩
      show _ = if r.qty = 0 then _ else _
      rw [if_neg (by omega), hx]
  obtain ⟨ht, ho, hx, hm₀⟩ := hbefore
  refine ⟨hsec, hq, ?_, ⟨s.exch, ?_, ho⟩, ?_, ms, ?_, hin⟩
  · show ({ s.exch with orders := s.exch.orders.put _ _ } : ExchangeState) = _
    rw [ho, ← hx]
    rfl
  · show s.trail ++ _ = _
    rw [ht]
    rfl
  · cases hr with
    | buy hside => exact .inl ⟨hside, rfl⟩
    | short hside hflag => exact .inr (.inl ⟨hside, hflag, rfl⟩)
    | sell hside hflag hroom => exact .inr (.inr ⟨hside, hflag, rfl, rfl, hroom⟩)
  · exact hm₀.trans hm

/-! ## Indications -/

/-- A recorded indication. -/
structure Indicated (r : OrderRequest) (key : String) (ipo : IpoState) (s s' : Sim) : Prop where
  ipo_at : s.exch.ipos.get? key = some ipo
  announced : ipo.status = .announced
  fresh : ipo.indications.get? r.actorId = none
  actor_ok : ':' ∉ r.actorId.toList
  qty_pos : 0 < r.qty
  exch_eq : s'.exch = { s.exch with
    ipos := s.exch.ipos.modify key fun row => { row with
      indications := row.indications.put r.actorId (r.qty, r.limitPriceCents.getD 0) } }
  trail_eq : s'.trail = s.trail
  moved : ∃ ms, Moved ms s.books s'.books ∧
    Inflow r.actorId (r.qty * r.limitPriceCents.getD 0) ms

theorem ipoIndication_eq_ok {events : List Event}
    (h : ipoIndication ctx r tick s = .ok events s') :
    Still s s' ∨ ∃ key ipo, Indicated r key ipo s s' := by
  unfold ipoIndication at h
  obtain ⟨_, _, h₁, h⟩ := bind_eq_ok.mp h
  obtain ⟨rfl, rfl⟩ := exchangeNow_eq_ok.mp h₁
  have hreject : ∀ {reason : String} {detail : List (String × Value)} {t : Sim},
      (do
        let event ← reject r.actorId r.symbol reason detail tick
        pure [event]) t = .ok events s' → Still t s' := by
    intro reason detail t ht
    obtain ⟨event, _, h₁, ht⟩ := bind_eq_ok.mp ht
    have := reject_still h₁
    obtain ⟨-, rfl⟩ := pure_eq_ok.mp ht
    exact this
  cases hfind : s.exch.ipos.entries.find? fun e =>
      e.2.symbol = r.symbol && e.2.status = .announced with
  | none =>
    rw [hfind] at h
    exact .inl (hreject h)
  | some found =>
    rw [hfind] at h
    obtain ⟨key, ipo⟩ := found
    have hmem := List.mem_of_find?_eq_some hfind
    have hcond := List.find?_some hfind
    simp only [Bool.and_eq_true, decide_eq_true_eq] at hcond
    rcases ite_eq_ok.mp h with ⟨-, h⟩ | ⟨-, h⟩
    · exact .inl (hreject h)
    rcases ite_eq_ok.mp h with ⟨-, h⟩ | ⟨hq, h⟩
    · exact .inl (hreject h)
    rw [not_or, not_le] at hq
    obtain ⟨_, _, h₁, h⟩ := bind_eq_ok.mp h
    obtain ⟨rfl, rfl⟩ := ledgerNow_eq_ok.mp h₁
    cases hd : depositAccount s.books r.actorId with
    | error e =>
      rw [hd] at h
      exact .inl (hreject h)
    | ok deposit =>
      rw [hd] at h
      obtain ⟨available, _, h₁, h⟩ := bind_eq_ok.mp h
      obtain ⟨-, rfl⟩ := liftE_eq_ok.mp h₁
      rcases ite_eq_ok.mp h with ⟨-, h⟩ | ⟨-, h⟩
      · exact .inl (hreject h)
      obtain ⟨⟨escrow, opened⟩, s₁, h₁, h⟩ := bind_eq_ok.mp h
      obtain ⟨hs, hc, ho⟩ := escrowAccount_eq_ok h₁
      obtain ⟨indication, _, h₁, h⟩ := bind_eq_ok.mp h
      obtain ⟨log, rfl⟩ := emit_eq_ok h₁
      obtain ⟨legs, _, h₁, h⟩ := bind_eq_ok.mp h
      obtain ⟨hl, rfl⟩ := liftE_eq_ok.mp h₁
      obtain ⟨_, _, h₁, h⟩ := bind_eq_ok.mp h
      obtain ⟨L', hL, rfl⟩ := post_eq_ok h₁
      obtain ⟨_, _, h₁, h⟩ := bind_eq_ok.mp h
      obtain ⟨hfresh, rfl⟩ := require_eq_ok.mp h₁
      obtain ⟨_, _, h₁, h⟩ := bind_eq_ok.mp h
      obtain rfl := modifyExchange_eq_ok.mp h₁
      obtain ⟨-, rfl⟩ := pure_eq_ok.mp h
      refine .inr ⟨key, ipo, Dict.mem_entries_iff.mp hmem, hcond.2, hfresh,
        depositAccount_owner hd, hq.1, ?_, hs.trail_eq, _,
        hs.moved.trans (.posted (.single hl) hL), .transfer hd ⟨hc, ho⟩⟩
      show ({ s₁.exch with ipos := s₁.exch.ipos.modify _ _ } : ExchangeState) = _
      rw [hs.exch_eq]

/-! ## Admission -/

theorem admit_eq_ok {ordinal : Nat} {sessionOpen : Bool} {result : Option String × List Event}
    (h : admitOrder ctx r ordinal tick sessionOpen s = .ok result s') :
    (result.1 = none ∧ (Still s s' ∨
      (Turned r s s' ∧ ∃ security, s.exch.securities.get? r.symbol = some security) ∨
      ∃ key ipo, Indicated r key ipo s s')) ∨
    (result.1 = some (orderIdOf r.actionId) ∧ ∃ reserved, Placed r ordinal tick reserved s s') := by
  unfold admitOrder at h
  rcases ite_eq_ok.mp h with ⟨-, h⟩ | ⟨-, h⟩
  · obtain ⟨events, _, h₁, h⟩ := bind_eq_ok.mp h
    have hi := ipoIndication_eq_ok h₁
    obtain ⟨rfl, rfl⟩ := pure_eq_ok.mp h
    exact .inl ⟨rfl, hi.imp id .inr⟩
  obtain ⟨_, _, h₁, h⟩ := bind_eq_ok.mp h
  obtain ⟨rfl, rfl⟩ := economyNow_eq_ok.mp h₁
  cases hscreen : screenOrder ctx s.economy r tick sessionOpen with
  | error why =>
    rw [hscreen] at h
    obtain ⟨event, _, h₁, h⟩ := bind_eq_ok.mp h
    have hs := reject_still h₁
    obtain ⟨rfl, rfl⟩ := pure_eq_ok.mp h
    exact .inl ⟨rfl, .inl hs⟩
  | ok price =>
    rw [hscreen] at h
    obtain ⟨hsec, hq⟩ := screenOrder_eq_ok hscreen
    obtain ⟨outcome, s₁, h₁, h⟩ := bind_eq_ok.mp h
    rcases reserve_eq_ok h₁ with ⟨why, rfl, ht⟩ | ⟨reserved, rfl, hr⟩
    · obtain ⟨event, _, h₂, h⟩ := bind_eq_ok.mp h
      have hs := reject_still h₂
      obtain ⟨rfl, rfl⟩ := pure_eq_ok.mp h
      exact .inl ⟨rfl, .inr (.inl ⟨ht.still hs, hsec⟩)⟩
    · obtain ⟨events, _, h₂, h⟩ := bind_eq_ok.mp h
      have hp := placeOrder_eq_ok hsec hq hr h₂
      obtain ⟨rfl, rfl⟩ := pure_eq_ok.mp h
      exact .inr ⟨rfl, reserved, hp⟩

end

/-! ## Offerings -/

/-- An offering that was stored. -/
structure Announced (ipoId : String) (ipo : IpoState) (s s' : Sim) : Prop where
  empty : ipo.indications = ∅
  exch_eq : s'.exch = { s.exch with ipos := s.exch.ipos.put ipoId ipo }
  trail_eq : s'.trail = s.trail ++ [.announce s.exch ipoId]
  books_eq : s'.books = s.books

theorem announceIpo_eq_ok {ctx : Ctx} {s s' : Sim} {actionId : UUID} {actorId : String}
    {p : IpoListParams} {tick : Int} {events : List Event}
    (h : announceIpo ctx actionId actorId p tick s = .ok events s') :
    Still s s' ∨ ∃ ipoId ipo, Announced ipoId ipo s s' := by
  unfold announceIpo at h
  obtain ⟨_, _, h₁, h⟩ := bind_eq_ok.mp h
  obtain ⟨rfl, rfl⟩ := economyNow_eq_ok.mp h₁
  cases he : ipoEligible s.economy actorId p.firmId (upper p.symbol) with
  | none =>
    rw [he] at h
    obtain ⟨event, _, h₁, h⟩ := bind_eq_ok.mp h
    have hs := reject_still h₁
    obtain ⟨-, rfl⟩ := pure_eq_ok.mp h
    exact .inl hs
  | some firm =>
    rw [he] at h
    rcases ite_eq_ok.mp h with ⟨-, h⟩ | ⟨-, h⟩
    · obtain ⟨event, _, h₁, h⟩ := bind_eq_ok.mp h
      have hs := reject_still h₁
      obtain ⟨-, rfl⟩ := pure_eq_ok.mp h
      exact .inl hs
    · obtain ⟨_, _, h₁, h⟩ := bind_eq_ok.mp h
      obtain rfl := note_eq_ok.mp h₁
      obtain ⟨_, _, h₁, h⟩ := bind_eq_ok.mp h
      obtain rfl := modifyExchange_eq_ok.mp h₁
      obtain ⟨event, _, h₁, h⟩ := bind_eq_ok.mp h
      obtain ⟨log, rfl⟩ := emit_eq_ok h₁
      obtain ⟨-, rfl⟩ := pure_eq_ok.mp h
      exact .inr ⟨_, _, rfl, rfl, rfl, rfl⟩

end Polis.Economy.Exchange
