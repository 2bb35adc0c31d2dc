/-
  Polis.Economy.Exchange.Priority — price–time priority of the matchers
  (`economy/exchange/book.py`).

  Both matchers sort by price, arrival ordinal and id.  The ordinals start
  again every tick, so an order that rests can stand behind a later one; and
  the auction passes an order over for good where it meets its own trader.

  Main results:
    * `auction_priority` — the auction keeps priority when it meets nobody
      with himself and its queues stand in the order of time.
    * `continuous_priority` — the continuous matcher, exactly.
    * `price_time_priority` — both.
-/
import Polis.Economy.Exchange.Auction

namespace Polis.Economy

open Lib Lib.PairOff

/-! ## The law -/

/-- `e` was submitted strictly earlier than `l`. -/
def Earlier (e l : OrderState) : Prop :=
  e.submittedTick < l.submittedTick ∨
    e.submittedTick = l.submittedTick ∧ e.arrivalOrdinal < l.arrivalOrdinal

instance (e l : OrderState) : Decidable (Earlier e l) := inferInstanceAs (Decidable (_ ∨ _))

/-- Active orders of one symbol, side and limit price, `e` before `l`. -/
structure Ranked (e l : OrderState) : Prop where
  active : e.status.active = true
  active' : l.status.active = true
  symbol : e.symbol = l.symbol
  side : e.side = l.side
  price : e.limitPriceCents = l.limitPriceCents
  earlier : Earlier e l

instance (e l : OrderState) : Decidable (Ranked e l) :=
  decidable_of_iff (e.status.active = true ∧ l.status.active = true ∧ e.symbol = l.symbol ∧
      e.side = l.side ∧ e.limitPriceCents = l.limitPriceCents ∧ Earlier e l)
    ⟨fun ⟨h₁, h₂, h₃, h₄, h₅, h₆⟩ => ⟨h₁, h₂, h₃, h₄, h₅, h₆⟩,
      fun ⟨h₁, h₂, h₃, h₄, h₅, h₆⟩ => ⟨h₁, h₂, h₃, h₄, h₅, h₆⟩⟩

/-- `f` is a fill of the order of an id. -/
def Fill.of (f : Fill) (id : String) : Prop := f.buyOrderId = id ∨ f.sellOrderId = id

/-- **Price–time priority**: whenever the later of two orders is filled against
somebody else than the trader of the earlier one, nothing is left of the
earlier one. -/
def PriceTime (orders : List OrderState) (fills : List Fill) : Prop :=
  ∀ e ∈ orders, ∀ l ∈ orders, Ranked e l → ∀ done f rest, fills = done ++ f :: rest →
    f.of l.orderId → (∀ c ∈ orders, f.of c.orderId → c.side ≠ l.side → c.traderId ≠ e.traderId) →
      e.remainingQty ≤ filledOf e.orderId done

theorem Ranked.ne {e l : OrderState} (h : Ranked e l) : e ≠ l := by
  intro heq
  subst heq
  have hlt := h.earlier
  unfold Earlier at hlt
  omega

/-! ## Standing in front -/

/-- The orders of a queue in front of the order of an id. -/
def inFront (os : List OrderState) (id : String) : List OrderState :=
  os.takeWhile fun o => o.orderId ≠ id

theorem inFront_eq {front back : List OrderState} {l : OrderState}
    (h : Distinct (front ++ l :: back)) : inFront (front ++ l :: back) l.orderId = front := by
  induction front with
  | nil => simp [inFront]
  | cons o front ih =>
    obtain ⟨ho, hrest⟩ := List.nodup_cons.mp h
    have hne : o.orderId ≠ l.orderId := fun hid => ho (by rw [hid]; simp)
    have hfront := ih hrest
    unfold inFront at hfront ⊢
    rw [List.cons_append, List.takeWhile_cons_of_pos (by simpa using hne), hfront]

theorem split_queue {os : List OrderState} {l : OrderState} (h : Distinct os) (hl : l ∈ os) :
    ∃ back, os = inFront os l.orderId ++ l :: back := by
  obtain ⟨front, back, rfl⟩ := List.append_of_mem hl
  exact ⟨back, by rw [inFront_eq h]⟩

theorem queue_append (os os' : List OrderState) : queue (os ++ os') = queue os ++ queue os' :=
  List.map_append

theorem queue_cons (o : OrderState) (os : List OrderState) :
    queue (o :: os) = (o, o.remainingQty) :: queue os := rfl

theorem queue_split {os : List OrderState} {front back : List (OrderState × Int)} {l : OrderState}
    {x : Int} (h : queue os = front ++ (l, x) :: back) :
    ∃ os₁ os₂, os = os₁ ++ l :: os₂ ∧ queue os₁ = front := by
  obtain ⟨os₁, os₂, rfl, hfront, hrest⟩ := List.map_eq_append_iff.mp h
  obtain ⟨l', os₃, rfl, hl, -⟩ := List.map_eq_cons_iff.mp hrest
  cases hl
  exact ⟨os₁, os₃, rfl, hfront⟩

/-! ## The auction -/

section Auction

variable {orders : List OrderState} {price volume : Int}

/-- The queue of a side. -/
def sideQueue (orders : List OrderState) (price : Int) : OrderSide → List OrderState
  | .buy => bidsOf orders price
  | .sell => asksOf orders price

/-- The other side. -/
def OrderSide.other : OrderSide → OrderSide
  | .buy => .sell
  | .sell => .buy

/-- How a side meets the other one. -/
def meetFrom : OrderSide → OrderState → OrderState → Meeting
  | .buy => meetOrders
  | .sell => swapMeet meetOrders

/-- As many rounds as the auction may need. -/
def auctionRounds (orders : List OrderState) (price : Int) : Nat :=
  (bidsOf orders price).length + (asksOf orders price).length + 1

/-- The auction meets no order with an order of the same trader. -/
def MeetsNoSelf (orders : List OrderState) (price volume : Int) : Prop :=
  smooth meetOrders (auctionRounds orders price) (queue (bidsOf orders price))
    (queue (asksOf orders price)) volume = true

/-- The trades of the auction seen from a side. -/
def tradesFrom (orders : List OrderState) (price volume : Int) (side : OrderSide) :
    List (OrderState × OrderState × Int) :=
  pairOff (meetFrom side) (auctionRounds orders price) (queue (sideQueue orders price side))
    (queue (sideQueue orders price side.other)) volume

/-- A trade seen from a side as a fill. -/
def fillFrom (price : Int) : OrderSide → OrderState × OrderState × Int → Fill
  | .buy, f => fillOf price f
  | .sell, f => fillOf price (swapFill f)

theorem tradesFrom_eq (side : OrderSide) :
    (tradesFrom orders price volume side).map (fillFrom price side) =
      (auctionTrades orders price volume).map (fillOf price) := by
  cases side with
  | buy => rfl
  | sell =>
    show ((pairOff (swapMeet meetOrders) (auctionRounds orders price) (queue (asksOf orders price))
      (queue (bidsOf orders price)) volume).map (fillFrom price .sell)) = _
    rw [auctionRounds, ← auctionTrades_swap, List.map_map]
    rfl

theorem MeetsNoSelf.from (h : MeetsNoSelf orders price volume) (side : OrderSide) :
    smooth (meetFrom side) (auctionRounds orders price) (queue (sideQueue orders price side))
      (queue (sideQueue orders price side.other)) volume = true := by
  cases side with
  | buy => exact h
  | sell => exact (smooth_swap ..).trans h

variable (price) in
theorem Distinct.side (h : Distinct orders) (side : OrderSide) :
    Distinct (sideQueue orders price side) := by
  cases side with
  | buy => exact h.bids
  | sell => exact h.asks

variable (price) in
theorem Stocked.side (h : Stocked orders) (side : OrderSide) :
    PairOff.Stocked (queue (sideQueue orders price side)) := by
  cases side with
  | buy => exact h.bids
  | sell => exact h.asks

theorem mem_sideQueue {side : OrderSide} {o : OrderState} (h : o ∈ sideQueue orders price side) :
    o ∈ orders ∧ o.side = side ∧ o.status.active = true := by
  cases side with
  | buy =>
    obtain ⟨hmem, hat⟩ := mem_bidsOf.mp h
    exact ⟨hmem, (bidsAt_iff.mp hat).2.1, (bidsAt_iff.mp hat).1⟩
  | sell =>
    obtain ⟨hmem, hat⟩ := mem_asksOf.mp h
    exact ⟨hmem, (asksAt_iff.mp hat).2.1, (asksAt_iff.mp hat).1⟩

theorem mem_tradesFrom {side : OrderSide} {f : OrderState × OrderState × Int}
    (h : f ∈ tradesFrom orders price volume side) :
    f.1 ∈ sideQueue orders price side ∧ f.2.1 ∈ sideQueue orders price side.other ∧ 0 < f.2.2 := by
  obtain ⟨⟨e, he, h₁⟩, ⟨d, hd, h₂⟩, hq, -⟩ := mem_pairOff h
  obtain ⟨o, ho, rfl⟩ := List.mem_map.mp he
  obtain ⟨c, hc, rfl⟩ := List.mem_map.mp hd
  exact ⟨h₁ ▸ ho, h₂ ▸ hc, hq⟩

theorem fillFrom_of {side : OrderSide} {f : OrderState × OrderState × Int} {id : String} :
    (fillFrom price side f).of id ↔ f.1.orderId = id ∨ f.2.1.orderId = id := by
  cases side with
  | buy => exact Iff.rfl
  | sell => exact or_comm

theorem side_of_fill (hids : Distinct orders) {side : OrderSide}
    {f : OrderState × OrderState × Int} (hf : f ∈ tradesFrom orders price volume side)
    {o : OrderState} (ho : o ∈ orders) (hof : (fillFrom price side f).of o.orderId) :
    o.side = side ∧ o = f.1 ∨ o.side = side.other ∧ o = f.2.1 := by
  obtain ⟨h₁, h₂, -⟩ := mem_tradesFrom hf
  obtain ⟨hm₁, hs₁, -⟩ := mem_sideQueue h₁
  obtain ⟨hm₂, hs₂, -⟩ := mem_sideQueue h₂
  cases fillFrom_of.mp hof with
  | inl hid =>
    have heq := hids.eq_of_id ho hm₁ hid.symm
    exact .inl ⟨heq ▸ hs₁, heq⟩
  | inr hid =>
    have heq := hids.eq_of_id ho hm₂ hid.symm
    exact .inr ⟨heq ▸ hs₂, heq⟩

theorem OrderSide.other_ne (side : OrderSide) : side.other ≠ side := by
  cases side <;> simp [OrderSide.other]

theorem filledOf_from (hids : Distinct orders) {side : OrderSide}
    {out : List (OrderState × OrderState × Int)}
    (hout : ∀ f ∈ out, f ∈ tradesFrom orders price volume side) {o : OrderState} (ho : o ∈ orders)
    (hside : o.side = side) :
    filledOf o.orderId (out.map (fillFrom price side)) = taken (hasId o.orderId) out := by
  induction out with
  | nil => rfl
  | cons f out ih =>
    have hf := hout f List.mem_cons_self
    rw [List.map_cons, filledOf_cons, taken_cons,
      ih fun g hg => hout g (List.mem_cons_of_mem _ hg)]
    have hqty : (fillFrom price side f).qty = f.2.2 := by cases side <;> rfl
    rw [hqty]
    congr 1
    by_cases hid : f.1.orderId = o.orderId
    · have hof : (fillFrom price side f).of o.orderId := fillFrom_of.mpr (.inl hid)
      rw [if_pos (show _ ∨ _ from hof), if_pos (by simpa [hasId] using hid)]
    · have hof : ¬(fillFrom price side f).of o.orderId := by
        intro h
        cases side_of_fill hids hf ho h with
        | inl h => exact hid (congrArg OrderState.orderId h.2.symm)
        | inr h => exact OrderSide.other_ne side (h.1.symm.trans hside)
      rw [if_neg (show ¬(_ ∨ _) from hof), if_neg (by simpa [hasId] using hid)]

/-- The earlier of two orders stands in front of the later one, wherever the
volume reaches the later one. -/
def QueuesInTime (orders : List OrderState) (price volume : Int) : Prop :=
  ∀ e ∈ orders, ∀ l ∈ orders, Ranked e l → l ∈ sideQueue orders price l.side →
    held (queue (inFront (sideQueue orders price l.side) l.orderId)) < volume →
      e ∈ inFront (sideQueue orders price l.side) l.orderId

theorem taken_front (hids : Distinct orders) (hstocked : Stocked orders)
    (hself : MeetsNoSelf orders price volume) {side : OrderSide}
    {done rest : List (OrderState × OrderState × Int)} {l c : OrderState} {q : Int}
    (hout : tradesFrom orders price volume side = done ++ (l, c, q) :: rest) :
    l ∈ sideQueue orders price side ∧ ∃ t, 0 ≤ t ∧ ∀ p, taken p done =
      heldBy p (queue (inFront (sideQueue orders price side) l.orderId)) + if p l then t else 0 := by
  obtain ⟨front, x, back, t, hsplit, ht, -, htaken⟩ :=
    taken_before (hstocked.side price side) (hstocked.side price side.other) (hself.from side) hout
  obtain ⟨os₁, os₂, hos, hfront⟩ := queue_split hsplit
  have hdistinct := hids.side price side
  rw [hos] at hdistinct
  refine ⟨by rw [hos]; simp, t, ht, fun p => ?_⟩
  rw [htaken p, hos, inFront_eq hdistinct, hfront]

theorem auction_priority (hids : Distinct orders) (hstocked : Stocked orders)
    (hself : MeetsNoSelf orders price volume) (hvolume : 0 ≤ volume)
    (htime : QueuesInTime orders price volume) :
    PriceTime orders ((auctionTrades orders price volume).map (fillOf price)) := by
  intro e he l hl hrank done f rest hfills hof hother
  rw [← tradesFrom_eq l.side] at hfills
  obtain ⟨out₁, out₂, hout, hdone, hrest⟩ := List.map_eq_append_iff.mp hfills
  obtain ⟨g, out₃, rfl, hg, -⟩ := List.map_eq_cons_iff.mp hrest
  have hall : ∀ h ∈ out₁ ++ g :: out₃, h ∈ tradesFrom orders price volume l.side :=
    fun h hh => hout ▸ hh
  have hgmem := hall g (List.mem_append_right _ List.mem_cons_self)
  -- the fill is a trade of `l` in the queue of its side
  have hgl : g.1 = l := by
    rw [← hg] at hof
    cases side_of_fill hids hgmem hl hof with
    | inl h => exact h.2.symm
    | inr h => exact absurd h.1.symm (OrderSide.other_ne l.side)
  obtain ⟨l', c, q⟩ := g
  dsimp only at hgl
  subst hgl
  obtain ⟨hlq, t, ht, htaken⟩ := taken_front hids hstocked hself hout
  -- the volume reaches it
  have hreach : held (queue (inFront (sideQueue orders price l'.side) l'.orderId)) < volume := by
    have hle : total (tradesFrom orders price volume l'.side) ≤ volume := total_le hvolume
    have hsum := htaken fun _ => true
    have hpos : ∀ h ∈ out₃, 0 < h.2.2 := fun h hh =>
      (mem_tradesFrom (hall h (List.mem_append_right _ (List.mem_cons_of_mem _ hh)))).2.2
    have hq : 0 < q := (mem_tradesFrom hgmem).2.2
    have hrest0 : 0 ≤ taken (fun _ => true) out₃ := taken_nonneg hpos
    have htotal : total (tradesFrom orders price volume l'.side) =
        taken (fun _ => true) out₁ + (q + taken (fun _ => true) out₃) := by
      rw [hout]
      simp [total, taken]
    have hheld : heldBy (fun _ => true) (queue (inFront (sideQueue orders price l'.side)
        l'.orderId)) = held (queue (inFront (sideQueue orders price l'.side) l'.orderId)) := by
      simp [heldBy, held]
    rw [hheld] at hsum
    simp only [if_true] at hsum
    have htrades : total (tradesFrom orders price volume l'.side) ≤ volume := hle
    omega
  have hfront := htime e he l' hl hrank hlq hreach
  rw [← hdone, filledOf_from hids (fun h hh => hall h (List.mem_append_left _ hh)) he hrank.side,
    htaken]
  -- the earlier order gave all it had
  obtain ⟨back, hsplit⟩ := split_queue (hids.side price l'.side) hlq
  have hdistinct : Distinct (inFront (sideQueue orders price l'.side) l'.orderId) := by
    apply (hids.side price l'.side).sublist
    exact List.takeWhile_sublist _
  rw [heldBy_queue hdistinct hfront]
  split_ifs
  · omega
  · omega

theorem OneSided.counterparty (h : OneSided orders) (hids : Distinct orders) {side : OrderSide}
    {f : OrderState × OrderState × Int} (hf : f ∈ tradesFrom orders price volume side)
    {e : OrderState} (he : e ∈ orders) (hactive : e.status.active = true) (hside : e.side = side)
    {c : OrderState} (hc : c ∈ orders) (hof : (fillFrom price side f).of c.orderId)
    (hcside : c.side ≠ side) : c.traderId ≠ e.traderId := by
  obtain ⟨-, h₂, -⟩ := mem_tradesFrom hf
  obtain ⟨-, -, hcactive⟩ := mem_sideQueue h₂
  have hceq : c = f.2.1 ∧ c.side = side.other := by
    cases side_of_fill hids hf hc hof with
    | inl h => exact absurd h.1 hcside
    | inr h => exact ⟨h.2, h.1⟩
  rw [← hceq.1] at hcactive
  cases side with
  | buy => exact (h e he c hc hactive hcactive hside hceq.2).symm
  | sell => exact h c hc e he hcactive hactive hceq.2 hside

theorem auction_priority_iff (hids : Distinct orders) (hstocked : Stocked orders)
    (hone : OneSided orders) (hvolume : 0 ≤ volume) (hle : volume ≤ executable orders price) :
    PriceTime orders ((auctionTrades orders price volume).map (fillOf price)) ↔
      QueuesInTime orders price volume := by
  have hself : MeetsNoSelf orders price volume := hone.smooth _ _ _
  refine ⟨fun hlaw e he l hl hrank hlq hreach => ?_, auction_priority hids hstocked hself hvolume⟩
  -- the volume reaches `l`, so it trades with somebody
  obtain ⟨back, hsplit⟩ := split_queue (hids.side price l.side) hlq
  have hother : volume ≤ held (queue (sideQueue orders price l.side.other)) := by
    cases l.side with
    | buy =>
      show volume ≤ held (queue (asksOf orders price))
      rw [held_asksOf]
      exact hle.trans (min_le_right _ _)
    | sell =>
      show volume ≤ held (queue (bidsOf orders price))
      rw [held_bidsOf]
      exact hle.trans (min_le_left _ _)
  have hqueue : queue (sideQueue orders price l.side) =
      queue (inFront (sideQueue orders price l.side) l.orderId)
        ++ (l, l.remainingQty) :: queue back := by
    rw [← queue_cons, ← queue_append, ← hsplit]
  have hfuel : (queue (sideQueue orders price l.side)).length +
      (queue (sideQueue orders price l.side.other)).length < auctionRounds orders price := by
    unfold auctionRounds queue
    cases l.side <;> simp only [sideQueue, OrderSide.other, List.length_map] <;> omega
  have hstk := hstocked.side price l.side
  have hsm := hself.from l.side
  rw [hqueue] at hstk hfuel hsm
  obtain ⟨c, q, hmem⟩ := pairOff_reaches hstk (hstocked.side price l.side.other) hreach hother hfuel hsm
  rw [← hqueue] at hmem
  have hmem' : (l, c, q) ∈ tradesFrom orders price volume l.side := hmem
  obtain ⟨out₁, out₂, hout⟩ := List.append_of_mem hmem'
  have hall : ∀ h ∈ out₁, h ∈ tradesFrom orders price volume l.side := by
    intro h hh
    rw [hout]
    exact List.mem_append_left _ hh
  -- the law leaves nothing of the earlier order
  have hfilled := hlaw e he l hl hrank (out₁.map (fillFrom price l.side))
    (fillFrom price l.side (l, c, q)) (out₂.map (fillFrom price l.side))
    (by rw [← tradesFrom_eq l.side, hout, List.map_append, List.map_cons])
    (fillFrom_of.mpr (.inl rfl))
    fun d hd hof hside => hone.counterparty hids hmem' he hrank.active hrank.side hd hof hside
  rw [filledOf_from hids hall he hrank.side] at hfilled
  obtain ⟨-, t, ht, htaken⟩ := taken_front hids hstocked hself hout
  rw [htaken] at hfilled
  have hpos := hstocked e he hrank.active
  have hne : ¬hasId e.orderId l = true := by
    intro hid
    exact hrank.ne (hids.eq_of_id hl he (by simpa [hasId] using hid)).symm
  rw [if_neg hne] at hfilled
  -- so it stands in front
  by_contra hno
  rw [heldBy_eq_zero] at hfilled
  · omega
  · intro d hd
    obtain ⟨o, ho, rfl⟩ := List.mem_map.mp hd
    have ho' : o ∈ sideQueue orders price l.side := (List.takeWhile_sublist _).subset ho
    have hid : o.orderId ≠ e.orderId := fun hid =>
      hno (hids.eq_of_id (mem_sideQueue ho').1 he hid ▸ ho)
    simp [hasId, hid]

end Auction

/-! ## The continuous matcher -/

section Continuous

variable {incoming : OrderState}

/-- The orders an incoming one can be matched with, best first. -/
def oppositeOf (incoming : OrderState) (resting : List OrderState) : List OrderState :=
  let opposite := resting.filter fun o =>
    o.status.active && o.symbol = incoming.symbol && o.side ≠ incoming.side
  if incoming.side = .buy then sortedBy askPriority opposite else sortedBy bidPriority opposite

theorem mem_oppositeOf {resting : List OrderState} {o : OrderState} :
    o ∈ oppositeOf incoming resting ↔ o ∈ resting ∧ o.status.active = true ∧
      o.symbol = incoming.symbol ∧ o.side ≠ incoming.side := by
  unfold oppositeOf
  dsimp only
  split_ifs <;> rw [mem_sortedBy, List.mem_filter] <;> simp [and_assoc]

variable (incoming) in
theorem Distinct.opposite {resting : List OrderState} (h : Distinct resting) :
    Distinct (oppositeOf incoming resting) := by
  have hfilter : Distinct (resting.filter fun o =>
      o.status.active && o.symbol = incoming.symbol && o.side ≠ incoming.side) :=
    h.sublist List.filter_sublist
  unfold oppositeOf
  dsimp only
  split_ifs
  · exact (((sortedBy_perm _ _).map _).nodup_iff).mpr hfilter
  · exact (((sortedBy_perm _ _).map _).nodup_iff).mpr hfilter

/-- A resting order of another trader with a price to trade at. -/
def tradable (incoming resting : OrderState) : Bool :=
  resting.traderId ≠ incoming.traderId &&
    (resting.limitPriceCents.or incoming.limitPriceCents).isSome

/-- The matcher comes to a resting order: everything in front crosses and
holds less than the incoming order wants. -/
structure Reached (incoming : OrderState) (resting : List OrderState) (r : OrderState) : Prop where
  opposite : r ∈ oppositeOf incoming resting
  front : ∀ d ∈ inFront (oppositeOf incoming resting) r.orderId, crosses incoming d = true
  wanted : heldBy (tradable incoming) (queue (inFront (oppositeOf incoming resting) r.orderId))
    < incoming.remainingQty
  crossed : crosses incoming r = true
  trades : tradable incoming r = true

variable (incoming) in
theorem matchResting_cons (o : OrderState) (os : List OrderState) (remaining : Int) :
    matchResting incoming (o :: os) remaining = [] ∧ (remaining ≤ 0 ∨ ¬crosses incoming o = true) ∨
    0 < remaining ∧ crosses incoming o = true ∧
      (tradable incoming o = false ∧
          matchResting incoming (o :: os) remaining = matchResting incoming os remaining ∨
        tradable incoming o = true ∧ ∃ f : Fill, f.qty = min remaining o.remainingQty ∧
          (∀ id, f.of id ↔ incoming.orderId = id ∨ o.orderId = id) ∧
          matchResting incoming (o :: os) remaining =
            f :: matchResting incoming os (remaining - min remaining o.remainingQty)) := by
  rw [matchResting]
  by_cases hstop : remaining ≤ 0 ∨ ¬crosses incoming o = true
  · exact .inl ⟨if_pos hstop, hstop⟩
  · rw [if_neg hstop]
    obtain ⟨hrem, hcross⟩ := not_or.mp hstop
    refine .inr ⟨not_le.mp hrem, not_not.mp hcross, ?_⟩
    unfold tradable
    by_cases hself : o.traderId = incoming.traderId
    · rw [if_pos hself]
      exact .inl ⟨by simp [hself], rfl⟩
    · rw [if_neg hself]
      dsimp only
      cases hprice : o.limitPriceCents.or incoming.limitPriceCents with
      | none => exact .inl ⟨by simp, rfl⟩
      | some price =>
        refine .inr ⟨by simp [hself], _, rfl, fun id => ?_, rfl⟩
        cases hside : incoming.side with
        | buy => simp [Fill.of]
        | sell =>
          simp only [Fill.of, reduceCtorEq, if_false, if_true]
          exact or_comm

theorem heldBy_pos_of_filled {front : List OrderState} {p : OrderState → Bool}
    (h : 0 < heldBy p (queue front)) : ∃ o ∈ front, p o = true := by
  by_contra hno
  push Not at hno
  rw [heldBy_eq_zero] at h
  · omega
  · intro e he
    obtain ⟨o, ho, rfl⟩ := List.mem_map.mp he
    simpa using hno o ho

theorem matchResting_split {os : List OrderState} {remaining : Int} {done rest : List Fill}
    {f : Fill} (hos : PairOff.Stocked (queue os))
    (h : matchResting incoming os remaining = done ++ f :: rest) :
    ∃ front r back, os = front ++ r :: back ∧
      (∀ id, f.of id ↔ incoming.orderId = id ∨ r.orderId = id) ∧
      (∀ d ∈ front, crosses incoming d = true) ∧ crosses incoming r = true ∧
      tradable incoming r = true ∧ heldBy (tradable incoming) (queue front) < remaining ∧
      ∀ id, id ≠ incoming.orderId → filledOf id done =
        heldBy (fun d => tradable incoming d && hasId id d) (queue front) := by
  induction os generalizing remaining done with
  | nil => simp [matchResting] at h
  | cons o os ih =>
    have hrest : PairOff.Stocked (queue os) := fun e he => hos e (List.mem_cons_of_mem _ he)
    have ho : 0 < o.remainingQty := hos (o, o.remainingQty) List.mem_cons_self
    rcases matchResting_cons incoming o os remaining with
      ⟨hnil, -⟩ | ⟨hrem, hcross, ⟨htr, hstep⟩ | ⟨htr, f₀, hqty, hids, hstep⟩⟩
    · rw [hnil] at h
      simp at h
    · -- a resting order the loop passes by
      rw [hstep] at h
      obtain ⟨front, r, back, rfl, hf, hfront, hr, htrade, hheld, hfilled⟩ := ih hrest h
      refine ⟨o :: front, r, back, rfl, hf, ?_, hr, htrade, ?_, fun id hid => ?_⟩
      · intro d hd
        cases List.mem_cons.mp hd with
        | inl hd => exact hd ▸ hcross
        | inr hd => exact hfront d hd
      · rw [queue_cons, heldBy_cons, htr]
        simpa using hheld
      · rw [queue_cons, heldBy_cons, htr, hfilled id hid]
        simp
    · rw [hstep] at h
      cases done with
      | nil =>
        obtain ⟨rfl, -⟩ := List.cons.inj h
        refine ⟨[], o, os, rfl, hids, fun d hd => absurd hd List.not_mem_nil, hcross, htr, ?_,
          fun id _ => rfl⟩
        simpa [queue] using hrem
      | cons g done =>
        rw [List.cons_append] at h
        have hhead : f₀ = g := (List.cons.inj h).1
        have htail := (List.cons.inj h).2
        subst hhead
        obtain ⟨front, r, back, rfl, hf, hfront, hr, htrade, hheld, hfilled⟩ := ih hrest htail
        have hstock : PairOff.Stocked (queue front) := by
          intro e he
          refine hrest e ?_
          rw [queue_append]
          exact List.mem_append_left _ he
        have hnn := heldBy_nonneg (p := tradable incoming) hstock
        -- the loop went on, so the resting order was filled to its end
        have hmin : min remaining o.remainingQty = o.remainingQty := by omega
        refine ⟨o :: front, r, back, rfl, hf, ?_, hr, htrade, ?_, fun id hid => ?_⟩
        · intro d hd
          cases List.mem_cons.mp hd with
          | inl hd => exact hd ▸ hcross
          | inr hd => exact hfront d hd
        · rw [queue_cons, heldBy_cons, htr]
          simp only [if_true]
          omega
        · rw [queue_cons, heldBy_cons, htr, filledOf_cons, hfilled id hid, hqty, hmin]
          congr 1
          by_cases hoid : o.orderId = id
          · rw [if_pos (show _ ∨ _ from (hids id).mpr (.inr hoid))]
            simp [hasId, hoid]
          · rw [if_neg (show ¬(_ ∨ _) from fun h => ((hids id).mp h).elim (fun h => hid h.symm) hoid)]
            simp [hasId, hoid]

theorem matchResting_reaches {front : List OrderState} (back : List OrderState) {r : OrderState} {remaining : Int}
    (hos : PairOff.Stocked (queue front)) (hfront : ∀ d ∈ front, crosses incoming d = true)
    (hr : crosses incoming r = true) (htrade : tradable incoming r = true)
    (hheld : heldBy (tradable incoming) (queue front) < remaining) :
    ∃ f ∈ matchResting incoming (front ++ r :: back) remaining,
      ∀ id, f.of id ↔ incoming.orderId = id ∨ r.orderId = id := by
  induction front generalizing remaining with
  | nil =>
    have hrem : 0 < remaining := by simpa [queue] using hheld
    rw [List.nil_append]
    rcases matchResting_cons incoming r back remaining with
      ⟨-, hstop⟩ | ⟨-, -, ⟨htr, -⟩ | ⟨-, f, -, hids, hstep⟩⟩
    · exact absurd hstop (not_or.mpr ⟨not_le.mpr hrem, not_not.mpr hr⟩)
    · rw [htrade] at htr
      cases htr
    · exact ⟨f, by rw [hstep]; exact List.mem_cons_self, hids⟩
  | cons o front ih =>
    have ho : 0 < o.remainingQty := hos (o, o.remainingQty) List.mem_cons_self
    have hstock : PairOff.Stocked (queue front) := fun e he => hos e (List.mem_cons_of_mem _ he)
    have hnn := heldBy_nonneg (p := tradable incoming) hstock
    have hcross := hfront o List.mem_cons_self
    have hfront' : ∀ d ∈ front, crosses incoming d = true :=
      fun d hd => hfront d (List.mem_cons_of_mem _ hd)
    rw [queue_cons, heldBy_cons] at hheld
    rw [List.cons_append]
    rcases matchResting_cons incoming o (front ++ r :: back) remaining with
      ⟨-, hstop⟩ | ⟨hrem, -, ⟨htr, hstep⟩ | ⟨htr, f₀, -, -, hstep⟩⟩
    · cases hstop with
      | inl hstop =>
        split_ifs at hheld <;> omega
      | inr hstop => exact absurd hcross hstop
    · rw [htr] at hheld
      rw [hstep]
      exact ih hstock hfront' (by simpa using hheld)
    · rw [htr] at hheld
      simp only [if_true] at hheld
      rw [hstep]
      obtain ⟨f, hf, hids⟩ := ih hstock hfront'
        (show heldBy _ _ < remaining - min remaining o.remainingQty by omega)
      exact ⟨f, List.mem_cons_of_mem _ hf, hids⟩

variable {resting : List OrderState}

theorem Stocked.opposite (h : Stocked resting) :
    PairOff.Stocked (queue (oppositeOf incoming resting)) := by
  intro e he
  obtain ⟨o, ho, rfl⟩ := List.mem_map.mp he
  obtain ⟨hmem, hactive, -⟩ := mem_oppositeOf.mp ho
  exact h o hmem hactive

theorem continuousMatches_split (hids : Distinct resting) (hstocked : Stocked resting)
    {done rest : List Fill} {f : Fill}
    (h : continuousMatches incoming resting = done ++ f :: rest) :
    ∃ r, Reached incoming resting r ∧
      (∀ id, f.of id ↔ incoming.orderId = id ∨ r.orderId = id) ∧
      ∀ id, id ≠ incoming.orderId → filledOf id done =
        heldBy (fun d => tradable incoming d && hasId id d)
          (queue (inFront (oppositeOf incoming resting) r.orderId)) := by
  have hloop : matchResting incoming (oppositeOf incoming resting) incoming.remainingQty =
      done ++ f :: rest := h
  obtain ⟨front, r, back, hos, hf, hfront, hr, htrade, hheld, hfilled⟩ :=
    matchResting_split hstocked.opposite hloop
  have hdistinct := hids.opposite incoming
  rw [hos] at hdistinct
  have hin : inFront (oppositeOf incoming resting) r.orderId = front := by
    rw [hos, inFront_eq hdistinct]
  refine ⟨r, ⟨by rw [hos]; simp, by rw [hin]; exact hfront, by rw [hin]; exact hheld, hr, htrade⟩,
    hf, ?_⟩
  rw [hin]
  exact hfilled

theorem Reached.fill (hids : Distinct resting) (hstocked : Stocked resting) {r : OrderState}
    (h : Reached incoming resting r) : ∃ done f rest,
      continuousMatches incoming resting = done ++ f :: rest ∧
      ∀ id, f.of id ↔ incoming.orderId = id ∨ r.orderId = id := by
  obtain ⟨back, hsplit⟩ := split_queue (hids.opposite incoming) h.opposite
  have hstk : PairOff.Stocked (queue (inFront (oppositeOf incoming resting) r.orderId)) := by
    intro e he
    have hall : PairOff.Stocked (queue (oppositeOf incoming resting)) := hstocked.opposite
    refine hall e ?_
    rw [hsplit, queue_append]
    exact List.mem_append_left _ he
  obtain ⟨f, hf, hfids⟩ := matchResting_reaches back hstk h.front h.crossed h.trades h.wanted
  rw [← hsplit] at hf
  obtain ⟨done, rest, hout⟩ := List.append_of_mem hf
  exact ⟨done, f, rest, hout, hfids⟩

/-- The resting orders stand in the order of time where the matcher comes, and
what it comes to is of the traders who already stood at the incoming price. -/
def RestInTime (incoming : OrderState) (resting : List OrderState) : Prop :=
  (∀ e ∈ resting, ∀ l ∈ resting, Ranked e l → e.traderId ≠ incoming.traderId →
    Reached incoming resting l → e ∈ inFront (oppositeOf incoming resting) l.orderId) ∧
  ∀ e ∈ resting, Ranked e incoming → ∀ r, Reached incoming resting r → r.traderId = e.traderId

theorem continuous_priority (hids : Distinct (incoming :: resting)) (hstocked : Stocked resting) :
    PriceTime (incoming :: resting) (continuousMatches incoming resting) ↔
      RestInTime incoming resting := by
  obtain ⟨hnotin, hnodup⟩ := List.nodup_cons.mp hids
  have hdistinct : Distinct resting := hnodup
  have hne : ∀ o ∈ resting, o.orderId ≠ incoming.orderId := fun o ho hid =>
    hnotin (hid ▸ List.mem_map_of_mem ho)
  have hopp : ∀ {r}, Reached incoming resting r → r ∈ resting ∧ r.side ≠ incoming.side := fun h =>
    ⟨(mem_oppositeOf.mp h.opposite).1, (mem_oppositeOf.mp h.opposite).2.2.2⟩
  constructor
  · intro hlaw
    refine ⟨fun e he l hl hrank hself hreach => ?_, fun e he hrank r hreach => ?_⟩
    · obtain ⟨done, f, rest, hout, hf⟩ := hreach.fill hdistinct hstocked
      have hfilled := hlaw e (List.mem_cons_of_mem _ he) l (List.mem_cons_of_mem _ hl) hrank
        done f rest hout ((hf _).mpr (.inr rfl)) fun c hc hof hside => by
          -- the only order of the other side is the incoming one
          cases (hf _).mp hof with
          | inl hid =>
            rw [← hids.eq_of_id List.mem_cons_self hc hid]
            exact hself.symm
          | inr hid =>
            have hceq := hids.eq_of_id (List.mem_cons_of_mem _ hl) hc hid
            exact absurd (hceq ▸ rfl) hside
      obtain ⟨r, -, hr, hdone⟩ := continuousMatches_split hdistinct hstocked hout
      have hrl : r.orderId = l.orderId := by
        cases (hr l.orderId).mp ((hf _).mpr (.inr rfl)) with
        | inl hid => exact absurd hid.symm (hne l hl)
        | inr hid => exact hid
      rw [hdone _ (hne e he), hrl] at hfilled
      have hpos := hstocked e he hrank.active
      obtain ⟨o, ho, hp⟩ := heldBy_pos_of_filled (lt_of_lt_of_le hpos hfilled)
      have hoe : o = e := by
        have hmem : o ∈ oppositeOf incoming resting := (List.takeWhile_sublist _).subset ho
        refine hdistinct.eq_of_id (mem_oppositeOf.mp hmem).1 he ?_
        simp only [Bool.and_eq_true, hasId, decide_eq_true_eq] at hp
        exact hp.2
      exact hoe ▸ ho
    · by_contra hother
      obtain ⟨done, f, rest, hout, hf⟩ := hreach.fill hdistinct hstocked
      have hfilled := hlaw e (List.mem_cons_of_mem _ he) incoming List.mem_cons_self hrank
        done f rest hout ((hf _).mpr (.inl rfl)) fun c hc hof hside => by
          cases (hf _).mp hof with
          | inl hid =>
            have hceq := hids.eq_of_id List.mem_cons_self hc hid
            exact absurd (hceq ▸ rfl) hside
          | inr hid =>
            have hceq := hids.eq_of_id (List.mem_cons_of_mem _ (hopp hreach).1) hc hid
            rw [← hceq]
            exact hother
      obtain ⟨r', -, -, hdone⟩ := continuousMatches_split hdistinct hstocked hout
      rw [hdone _ (hne e he)] at hfilled
      have hpos := hstocked e he hrank.active
      obtain ⟨o, ho, hp⟩ := heldBy_pos_of_filled (lt_of_lt_of_le hpos hfilled)
      -- an order of the incoming side is in front of nobody
      have hmem := mem_oppositeOf.mp ((List.takeWhile_sublist _).subset ho)
      simp only [Bool.and_eq_true, hasId, decide_eq_true_eq] at hp
      have hoe := hdistinct.eq_of_id hmem.1 he hp.2
      exact hmem.2.2.2 (hoe ▸ hrank.side)
  · rintro ⟨htime, hstood⟩ e he l hl hrank done f rest hout hof hother
    obtain ⟨r, hreach, hr, hdone⟩ := continuousMatches_split hdistinct hstocked hout
    obtain ⟨hrmem, hrside⟩ := hopp hreach
    cases List.mem_cons.mp hl with
    | inl hl =>
      subst hl
      cases List.mem_cons.mp he with
      | inl he => exact absurd he hrank.ne
      | inr he =>
        have hsame := hstood e he hrank r hreach
        exact absurd hsame
          (hother r (List.mem_cons_of_mem _ hrmem) ((hr _).mpr (.inr rfl)) hrside)
    | inr hl =>
      have hlr : l = r := by
        cases (hr _).mp hof with
        | inl hid => exact absurd hid.symm (hne l hl)
        | inr hid => exact (hdistinct.eq_of_id hrmem hl hid).symm
      subst hlr
      cases List.mem_cons.mp he with
      | inl he =>
        subst he
        exact absurd hrank.side.symm hrside
      | inr he =>
        have hself : e.traderId ≠ incoming.traderId := fun h =>
          hother incoming List.mem_cons_self ((hr _).mpr (.inl rfl)) hrside.symm h.symm
        have hfront := htime e he l hl hrank hself hreach
        rw [hdone _ (hne e he)]
        -- the earlier order has the same price to trade at
        have htrade : tradable incoming e = true := by
          have hl := hreach.trades
          unfold tradable at hl ⊢
          rw [hrank.price]
          simp only [Bool.and_eq_true, decide_eq_true_eq] at hl ⊢
          exact ⟨hself, hl.2⟩
        have hfd : Distinct (inFront (oppositeOf incoming resting) l.orderId) :=
          (hdistinct.opposite incoming).sublist (List.takeWhile_sublist _)
        have hsum : heldBy (fun d => tradable incoming d && hasId e.orderId d)
            (queue (inFront (oppositeOf incoming resting) l.orderId)) =
            heldBy (hasId e.orderId) (queue (inFront (oppositeOf incoming resting) l.orderId)) := by
          unfold heldBy
          congr 1
          apply List.map_congr_left
          intro x hx
          obtain ⟨o, ho, rfl⟩ := List.mem_map.mp hx
          by_cases hid : hasId e.orderId o = true
          · have hoe : o = e := by
              refine hdistinct.eq_of_id (mem_oppositeOf.mp ((List.takeWhile_sublist _).subset ho)).1
                he ?_
              simpa [hasId] using hid
            subst hoe
            simp [htrade]
          · simp [hid]
        rw [hsum, heldBy_queue hfd hfront]

end Continuous

/-! ## Both matchers -/

/-- Where the auction clears, no order meets its own trader. -/
def AuctionMeetsNoSelf (orders : List OrderState) (prevClose : Int) : Prop :=
  ∀ price volume, uncross orders prevClose = some (price, volume) →
    MeetsNoSelf orders price volume

/-- Where the auction clears, its queues stand in the order of time. -/
def AuctionInTime (orders : List OrderState) (prevClose : Int) : Prop :=
  ∀ price volume, uncross orders prevClose = some (price, volume) →
    QueuesInTime orders price volume

/-- **Price–time priority.**  The auction keeps it when no order meets its own
trader and the queues stand in the order of time as far as the volume reaches;
without traders on both sides it keeps it only then.  The continuous matcher
keeps it exactly when the resting orders stand in the order of time. -/
theorem price_time_priority {orders : List OrderState} (hids : Distinct orders)
    (hstocked : Stocked orders) (prevClose : Int) {incoming : OrderState}
    {resting : List OrderState} (hids' : Distinct (incoming :: resting))
    (hstocked' : Stocked resting) :
    (AuctionMeetsNoSelf orders prevClose → AuctionInTime orders prevClose →
      PriceTime orders (callAuction orders prevClose)) ∧
    (OneSided orders →
      (PriceTime orders (callAuction orders prevClose) ↔ AuctionInTime orders prevClose)) ∧
    (PriceTime (incoming :: resting) (continuousMatches incoming resting) ↔
      RestInTime incoming resting) := by
  refine ⟨fun hself htime => ?_, fun hone => ?_, continuous_priority hids' hstocked'⟩
  · cases hu : uncross orders prevClose with
    | none =>
      intro e _ l _ _ done f rest hout
      unfold callAuction at hout
      rw [hu] at hout
      simp at hout
    | some pv =>
      obtain ⟨-, -, hpos, -⟩ := uncross_eq_some hu
      rw [callAuction_eq hids hu]
      exact auction_priority hids hstocked (hself _ _ hu) hpos.le (htime _ _ hu)
  · cases hu : uncross orders prevClose with
    | none =>
      constructor
      · intro _ price volume h
        rw [hu] at h
        cases h
      · intro _ e _ l _ _ done f rest hout
        unfold callAuction at hout
        rw [hu] at hout
        simp at hout
    | some pv =>
      obtain ⟨price, volume⟩ := pv
      obtain ⟨-, hvolume, hpos, -⟩ := uncross_eq_some hu
      rw [callAuction_eq hids hu, auction_priority_iff hids hstocked hone hpos.le hvolume.le]
      refine ⟨fun h price' volume' hu' => ?_, fun h => h _ _ hu⟩
      rw [hu] at hu'
      cases hu'
      exact h

/-! ## An order that rested, and a queue that was passed over -/

/-- Two sellers at one price and a buyer of less than both: the first seller
came a tick earlier, with the ordinals given. -/
def restedBook (first second : Nat) : List OrderState :=
  [bookOrder "s1" "seller-a" .sell .limit (some 100) 5 1 first,
   bookOrder "s2" "seller-b" .sell .limit (some 100) 5 2 second,
   bookOrder "b1" "buyer" .buy .limit (some 100) 5 2 9]

theorem price_time_priority_rested :
    PriceTime (restedBook 0 1) (callAuction (restedBook 0 1) 100) := by
  have hone : OneSided (restedBook 0 1) := by
    unfold OneSided
    decide
  have hids : Distinct (restedBook 0 1) := by unfold Distinct; decide
  have hstocked : Stocked (restedBook 0 1) := by unfold Stocked; decide
  have hids' : Distinct [bookOrder "b2" "buyer" .buy .limit none 1 2 1] := by unfold Distinct; decide
  have hstocked' : Stocked [] := by unfold Stocked; decide
  obtain ⟨h, -⟩ := price_time_priority hids hstocked 100 hids' hstocked'
  refine h (fun price volume _ => hone.smooth _ _ _) fun price volume hu => ?_
  have hpv : uncross (restedBook 0 1) 100 = some (100, 5) := by decide +kernel
  rw [hpv] at hu
  cases hu
  unfold QueuesInTime
  decide +kernel

/-- **The later order goes first**: the ordinals of its tick started again, and
both matchers fill it while the earlier one rests. -/
theorem rested_order_overtaken : Distinct (restedBook 3 0) ∧ Stocked (restedBook 3 0) ∧
    ¬PriceTime (restedBook 3 0) (callAuction (restedBook 3 0) 100) ∧
    ¬PriceTime (bookOrder "b1" "buyer" .buy .limit (some 100) 5 2 9 :: (restedBook 3 0).take 2)
      (continuousMatches (bookOrder "b1" "buyer" .buy .limit (some 100) 5 2 9)
        ((restedBook 3 0).take 2)) := by
  refine ⟨by unfold Distinct; decide, by unfold Stocked; decide, fun h => ?_, fun h => ?_⟩
  · have hleft := h (bookOrder "s1" "seller-a" .sell .limit (some 100) 5 1 3) (by decide)
      (bookOrder "s2" "seller-b" .sell .limit (some 100) 5 2 0) (by decide) (by decide)
      [] ⟨"b1", "s2", 100, 5, .auction⟩ [] (by decide +kernel) (.inr rfl)
      (by unfold Fill.of; decide)
    exact absurd hleft (by decide)
  · have hleft := h (bookOrder "s1" "seller-a" .sell .limit (some 100) 5 1 3) (by decide)
      (bookOrder "s2" "seller-b" .sell .limit (some 100) 5 2 0) (by decide) (by decide)
      [] ⟨"b1", "s2", 100, 5, .buy⟩ [] (by decide +kernel) (.inr rfl)
      (by unfold Fill.of; decide)
    exact absurd hleft (by decide)

end Polis.Economy
