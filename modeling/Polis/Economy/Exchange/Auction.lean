/-
  Polis.Economy.Exchange.Auction — what the call auction fills
  (`economy/exchange/book.py`).

  The allocation loop serves two queues from their heads; the queues are the
  bids and the asks that trade at the clearing price, best first.  Two heads
  of one trader do not trade: the newer of them is passed over for good.

  Main results:
    * `executable_le` — no price executes more than the clearing price.
    * `callAuction_eq` — the auction pairs off its two queues.
    * `call_auction_exact` — volume, limits and quantities of the fills.
-/
import Polis.Economy.Exchange.Book
import Polis.Lib.PairOff

namespace Polis.Economy

open Lib Lib.PairOff

/-! ## The clearing price -/

/-- What is bid at a price. -/
def demandAt (orders : List OrderState) (price : Int) : Int :=
  ((orders.filter (bidsAt price)).map OrderState.remainingQty).sum

/-- What is offered at a price. -/
def supplyAt (orders : List OrderState) (price : Int) : Int :=
  ((orders.filter (asksAt price)).map OrderState.remainingQty).sum

/-- The volume a price executes. -/
def executable (orders : List OrderState) (price : Int) : Int :=
  min (demandAt orders price) (supplyAt orders price)

/-- Active orders have something left. -/
def Stocked (orders : List OrderState) : Prop :=
  ∀ o ∈ orders, o.status.active = true → 0 < o.remainingQty

theorem sum_filter_le {orders : List OrderState} {p q : OrderState → Bool}
    (hpos : ∀ o ∈ orders, q o = true → 0 ≤ o.remainingQty) (h : ∀ o ∈ orders, p o = true → q o = true) :
    ((orders.filter p).map OrderState.remainingQty).sum ≤
      ((orders.filter q).map OrderState.remainingQty).sum := by
  induction orders with
  | nil => simp
  | cons o orders ih =>
    have hrest := ih (fun d hd => hpos d (List.mem_cons_of_mem _ hd))
      fun d hd => h d (List.mem_cons_of_mem _ hd)
    by_cases hp : p o = true
    · have hq := h o List.mem_cons_self hp
      rw [List.filter_cons_of_pos hp, List.filter_cons_of_pos hq]
      simp only [List.map_cons, List.sum_cons]
      omega
    · rw [List.filter_cons_of_neg hp]
      by_cases hq : q o = true
      · have ho := hpos o List.mem_cons_self hq
        rw [List.filter_cons_of_pos hq]
        simp only [List.map_cons, List.sum_cons]
        omega
      · rw [List.filter_cons_of_neg hq]
        exact hrest

theorem bidsAt_iff {price : Int} {o : OrderState} :
    bidsAt price o = true ↔ o.status.active = true ∧ o.side = .buy ∧
      (o.orderType = .market ∨ ∃ l, o.limitPriceCents = some l ∧ price ≤ l) := by
  unfold bidsAt
  cases hl : o.limitPriceCents <;> simp [and_assoc]

theorem asksAt_iff {price : Int} {o : OrderState} :
    asksAt price o = true ↔ o.status.active = true ∧ o.side = .sell ∧
      (o.orderType = .market ∨ ∃ l, o.limitPriceCents = some l ∧ l ≤ price) := by
  unfold asksAt
  cases hl : o.limitPriceCents <;> simp [and_assoc]

theorem mem_limitPrices {orders : List OrderState} {price : Int} :
    price ∈ limitPrices orders ↔ ∃ o ∈ orders, o.status.active = true ∧ o.orderType = .limit ∧
      o.limitPriceCents = some price := by
  unfold limitPrices
  rw [List.mem_insertionSort, List.mem_dedup, List.mem_filterMap]
  constructor
  · rintro ⟨o, ho, hp⟩
    have ho := List.mem_filter.mp ho
    simp only [Bool.and_eq_true, decide_eq_true_eq] at ho
    exact ⟨o, ho.1, ho.2.1, ho.2.2, hp⟩
  · rintro ⟨o, ho, hactive, htype, hp⟩
    refine ⟨o, List.mem_filter.mpr ⟨ho, ?_⟩, hp⟩
    simp [hactive, htype]

theorem limitPrices_dominate {orders : List OrderState} (hne : limitPrices orders ≠ [])
    (price : Int) : ∃ c ∈ limitPrices orders, ∀ o ∈ orders,
      (bidsAt price o = true → bidsAt c o = true) ∧ (asksAt price o = true → asksAt c o = true) := by
  -- a limit order that trades at `price` is compared by its own limit price
  have hlimit : ∀ o ∈ orders, o.status.active = true → o.orderType ≠ .market → ∀ l,
      o.limitPriceCents = some l → l ∈ limitPrices orders := by
    intro o ho hactive htype l hl
    refine mem_limitPrices.mpr ⟨o, ho, hactive, ?_, hl⟩
    cases hot : o.orderType with
    | limit => rfl
    | market => exact absurd hot htype
  by_cases habove : ((limitPrices orders).filter fun l => price ≤ l) = []
  · -- every limit price is below: the largest one keeps the sellers
    cases hmax : (limitPrices orders).max? with
    | none => exact absurd (List.max?_eq_none_iff.mp hmax) hne
    | some c =>
      obtain ⟨hc, hle⟩ := List.max?_eq_some_iff.mp hmax
      refine ⟨c, hc, fun o ho => ⟨fun hb => ?_, fun ha => ?_⟩⟩
      · obtain ⟨hactive, hside, htype⟩ := bidsAt_iff.mp hb
        refine bidsAt_iff.mpr ⟨hactive, hside, ?_⟩
        by_cases hmarket : o.orderType = .market
        · exact .inl hmarket
        · obtain ⟨l, hl, hpl⟩ := htype.resolve_left hmarket
          have hmem : l ∈ (limitPrices orders).filter fun l => price ≤ l :=
            List.mem_filter.mpr ⟨hlimit o ho hactive hmarket l hl, by simpa using hpl⟩
          rw [habove] at hmem
          cases hmem
      · obtain ⟨hactive, hside, htype⟩ := asksAt_iff.mp ha
        refine asksAt_iff.mpr ⟨hactive, hside, ?_⟩
        by_cases hmarket : o.orderType = .market
        · exact .inl hmarket
        · obtain ⟨l, hl, hlp⟩ := htype.resolve_left hmarket
          exact .inr ⟨l, hl, hle l (hlimit o ho hactive hmarket l hl)⟩
  · -- the next limit price above keeps the buyers and adds sellers
    cases hmin : ((limitPrices orders).filter fun l => price ≤ l).min? with
    | none => exact absurd (List.min?_eq_none_iff.mp hmin) habove
    | some c =>
      obtain ⟨hc, hle⟩ := List.min?_eq_some_iff.mp hmin
      obtain ⟨hcmem, hpc⟩ := List.mem_filter.mp hc
      have hpc : price ≤ c := by simpa using hpc
      refine ⟨c, hcmem, fun o ho => ⟨fun hb => ?_, fun ha => ?_⟩⟩
      · obtain ⟨hactive, hside, htype⟩ := bidsAt_iff.mp hb
        refine bidsAt_iff.mpr ⟨hactive, hside, ?_⟩
        by_cases hmarket : o.orderType = .market
        · exact .inl hmarket
        · obtain ⟨l, hl, hpl⟩ := htype.resolve_left hmarket
          refine .inr ⟨l, hl, hle l (List.mem_filter.mpr ⟨?_, by simpa using hpl⟩)⟩
          exact hlimit o ho hactive hmarket l hl
      · obtain ⟨hactive, hside, htype⟩ := asksAt_iff.mp ha
        refine asksAt_iff.mpr ⟨hactive, hside, ?_⟩
        cases htype with
        | inl hmarket => exact .inl hmarket
        | inr hl =>
          obtain ⟨l, hl, hlp⟩ := hl
          exact .inr ⟨l, hl, hlp.trans hpc⟩

theorem executable_le_limit {orders : List OrderState} (hstocked : Stocked orders)
    (hne : limitPrices orders ≠ []) (price : Int) :
    ∃ c ∈ limitPrices orders, executable orders price ≤ executable orders c := by
  obtain ⟨c, hc, hkeep⟩ := limitPrices_dominate hne price
  have hd : demandAt orders price ≤ demandAt orders c :=
    sum_filter_le (fun o ho hb => (hstocked o ho (bidsAt_iff.mp hb).1).le) fun o ho => (hkeep o ho).1
  have hs : supplyAt orders price ≤ supplyAt orders c :=
    sum_filter_le (fun o ho ha => (hstocked o ho (asksAt_iff.mp ha).1).le) fun o ho => (hkeep o ho).2
  exact ⟨c, hc, min_le_min hd hs⟩

theorem uncross_eq_some {orders : List OrderState} {prevClose price volume : Int}
    (h : uncross orders prevClose = some (price, volume)) :
    price ∈ limitPrices orders ∧ volume = executable orders price ∧ 0 < volume ∧
      ∀ c ∈ limitPrices orders, executable orders c ≤ volume := by
  unfold uncross at h
  split at h
  · cases h
  · next best hbest =>
    obtain ⟨hmem, hmax⟩ := List.max?_eq_some_iff.mp hbest
    obtain ⟨p, hp, hpb⟩ := List.mem_map.mp hmem
    have hv : (ofLex best).1 = executable orders p := by rw [← hpb]; rfl
    have hprice : (ofLex (ofLex (ofLex best).2).2).2 = -p := by rw [← hpb]; rfl
    dsimp only at h
    split_ifs at h with hpos
    cases h
    refine ⟨by rw [hprice, neg_neg]; exact hp, by rw [hprice, neg_neg]; exact hv, not_le.mp hpos,
      fun c hc => ?_⟩
    -- the first component of the largest candidate is the largest
    have hle : candidate orders prevClose c ≤ best := hmax _ (List.mem_map_of_mem hc)
    have hfst := (Prod.Lex.le_iff.mp hle)
    cases hfst with
    | inl hlt => exact hlt.le
    | inr heq => exact heq.1.le

theorem uncross_eq_none {orders : List OrderState} {prevClose : Int}
    (h : uncross orders prevClose = none) {c : Int} (hc : c ∈ limitPrices orders) :
    executable orders c ≤ 0 := by
  unfold uncross at h
  split at h
  · next hnone =>
    rw [List.max?_eq_none_iff, List.map_eq_nil_iff] at hnone
    rw [hnone] at hc
    cases hc
  · next best hbest =>
    obtain ⟨-, hmax⟩ := List.max?_eq_some_iff.mp hbest
    dsimp only at h
    split_ifs at h with hpos
    have hle : candidate orders prevClose c ≤ best := hmax _ (List.mem_map_of_mem hc)
    have hfst : executable orders c ≤ (ofLex best).1 := by
      cases Prod.Lex.le_iff.mp hle with
      | inl hlt => exact hlt.le
      | inr heq => exact heq.1.le
    omega

theorem executable_le {orders : List OrderState} (hstocked : Stocked orders)
    {prevClose price volume : Int} (h : uncross orders prevClose = some (price, volume))
    (q : Int) : executable orders q ≤ volume := by
  obtain ⟨hprice, -, -, hmax⟩ := uncross_eq_some h
  obtain ⟨c, hc, hle⟩ := executable_le_limit hstocked (List.ne_nil_of_mem hprice) q
  exact hle.trans (hmax c hc)

/-! ## The two queues -/

/-- Two orders of one trader do not trade; the newer one is passed over. -/
def meetOrders (bid ask : OrderState) : Meeting :=
  if bid.traderId = ask.traderId then
    if bid.arrivalOrdinal < ask.arrivalOrdinal then .passRight else .passLeft
  else .trade

/-- A trade of the queues as a fill. -/
def fillOf (price : Int) (f : OrderState × OrderState × Int) : Fill :=
  ⟨f.1.orderId, f.2.1.orderId, price, f.2.2, .auction⟩

/-- The orders with what is left of each. -/
def queueOf (left : Dict String Int) (orders : List OrderState) : List (OrderState × Int) :=
  orders.map fun o => (o, left.getD o.orderId 0)

theorem meetOrders_eq_trade {bid ask : OrderState} :
    meetOrders bid ask = .trade ↔ bid.traderId ≠ ask.traderId := by
  unfold meetOrders
  split_ifs with h <;> simp [h]

theorem queueOf_congr {left left' : Dict String Int} {orders : List OrderState}
    (h : ∀ o ∈ orders, left'.getD o.orderId 0 = left.getD o.orderId 0) :
    queueOf left' orders = queueOf left orders := by
  apply List.map_congr_left
  intro o ho
  rw [h o ho]

theorem getD_spent (left : Dict String Int) {bid ask : String} (hne : bid ≠ ask) (q : Int)
    (hask : 0 < left.getD ask 0) (id : String) :
    ((left.put bid (left.getD bid 0 - q)).modify ask (· - q)).getD id 0 =
      if id = bid then left.getD bid 0 - q
      else if id = ask then left.getD ask 0 - q else left.getD id 0 := by
  unfold Dict.getD at hask ⊢
  rw [Dict.get?_modify]
  by_cases ha : id = ask
  · subst ha
    rw [if_pos rfl, Dict.get?_put_of_ne hne.symm, if_neg hne.symm, if_pos rfl]
    cases hg : left.get? id with
    | none =>
      rw [hg] at hask
      exact absurd hask (by simp)
    | some v => rfl
  · rw [if_neg ha, if_neg ha, Dict.get?_put]
    split_ifs <;> rfl

theorem auctionFills_eq {price : Int} {fuel : Nat} {bids asks : List OrderState} {remaining : Int}
    {left : Dict String Int} (hids : ((bids ++ asks).map OrderState.orderId).Nodup) :
    auctionFills price fuel bids asks remaining left =
      (pairOff meetOrders fuel (queueOf left bids) (queueOf left asks) remaining).map
        (fillOf price) := by
  induction fuel generalizing bids asks remaining left with
  | zero => rfl
  | succ fuel ih =>
    match bids, asks with
    | [], _ => simp [auctionFills, queueOf]
    | _ :: _, [] => simp [auctionFills, queueOf]
    | bid :: bids, ask :: asks =>
      -- the ids of the heads are met nowhere else
      have hall := hids
      rw [List.map_append, List.map_cons, List.map_cons, List.cons_append, List.nodup_cons,
        List.mem_append, List.mem_cons, not_or, not_or] at hids
      obtain ⟨⟨hbid, hne, hbidAsk⟩, hids'⟩ := hids
      have hask : ask.orderId ∉ bids.map OrderState.orderId ∧
          ask.orderId ∉ asks.map OrderState.orderId := by
        rw [List.nodup_append] at hids'
        refine ⟨fun h => hids'.2.2 _ h _ List.mem_cons_self rfl, (List.nodup_cons.mp hids'.2.1).1⟩
      have hdropBid : ((bids ++ ask :: asks).map OrderState.orderId).Nodup := by
        rw [List.map_append, List.map_cons]
        exact hids'
      have hdropAsk : ((bid :: bids ++ asks).map OrderState.orderId).Nodup :=
        hall.sublist ((((List.sublist_cons_self ask asks)).append_left (bid :: bids)).map _)
      have hdropBoth : ((bids ++ asks).map OrderState.orderId).Nodup :=
        hdropAsk.sublist ((List.sublist_cons_self _ _).map _)
      show auctionFills price (fuel + 1) (bid :: bids) (ask :: asks) remaining left =
        (pairOff meetOrders (fuel + 1) ((bid, left.getD bid.orderId 0) :: queueOf left bids)
          ((ask, left.getD ask.orderId 0) :: queueOf left asks) remaining).map (fillOf price)
      rw [auctionFills, pairOff]
      by_cases hr : remaining ≤ 0
      · rw [if_pos hr, if_pos hr]
        rfl
      · rw [if_neg hr, if_neg hr]
        unfold meetOrders
        by_cases hself : bid.traderId = ask.traderId
        · rw [if_pos hself, if_pos hself]
          by_cases hold : bid.arrivalOrdinal < ask.arrivalOrdinal
          · rw [if_pos hold, if_pos hold]
            exact ih hdropAsk
          · rw [if_neg hold, if_neg hold]
            exact ih hdropBid
        · rw [if_neg hself, if_neg hself]
          dsimp only
          by_cases hq : min remaining (min (left.getD bid.orderId 0) (left.getD ask.orderId 0)) ≤ 0
          · rw [if_pos hq, if_pos hq]
            rfl
          · rw [if_neg hq, if_neg hq, List.map_cons]
            generalize hqd : min remaining (min (left.getD bid.orderId 0)
              (left.getD ask.orderId 0)) = q at hq ⊢
            generalize hl : (left.put bid.orderId (left.getD bid.orderId 0 - q)).modify ask.orderId
              (· - q) = left'
            have hleft := getD_spent left hne q (show 0 < left.getD ask.orderId 0 by omega)
            rw [hl] at hleft
            have hbids : queueOf left' bids = queueOf left bids := by
              apply queueOf_congr
              intro o ho
              have hmem := List.mem_map_of_mem (f := OrderState.orderId) ho
              rw [hleft, if_neg (ne_of_mem_of_not_mem hmem hbid),
                if_neg (ne_of_mem_of_not_mem hmem hask.1)]
            have hasks : queueOf left' asks = queueOf left asks := by
              apply queueOf_congr
              intro o ho
              have hmem := List.mem_map_of_mem (f := OrderState.orderId) ho
              rw [hleft, if_neg (ne_of_mem_of_not_mem hmem hbidAsk),
                if_neg (ne_of_mem_of_not_mem hmem hask.2)]
            have hbidLeft : left'.getD bid.orderId 0 = left.getD bid.orderId 0 - q := by
              rw [hleft, if_pos rfl]
            have haskLeft : left'.getD ask.orderId 0 = left.getD ask.orderId 0 - q := by
              rw [hleft, if_neg fun h => hne h.symm, if_pos rfl]
            refine congrArg₂ List.cons rfl ?_
            rw [hbidLeft, haskLeft]
            have hserveBid : queueOf left' (if left.getD bid.orderId 0 - q = 0 then bids
                else bid :: bids) = serve bid (left.getD bid.orderId 0) q (queueOf left bids) := by
              unfold serve
              split_ifs with hz
              · exact hbids
              · show (bid, left'.getD bid.orderId 0) :: queueOf left' bids = _
                rw [hbids, hbidLeft]
            have hserveAsk : queueOf left' (if left.getD ask.orderId 0 - q = 0 then asks
                else ask :: asks) = serve ask (left.getD ask.orderId 0) q (queueOf left asks) := by
              unfold serve
              split_ifs with hz
              · exact hasks
              · show (ask, left'.getD ask.orderId 0) :: queueOf left' asks = _
                rw [hasks, haskLeft]
            rw [← hserveBid, ← hserveAsk]
            apply ih
            split_ifs
            · exact hdropBoth
            · exact hdropBid
            · exact hdropAsk
            · exact hall

/-! ## The auction -/

/-- The bids that trade at a price, best first. -/
def bidsOf (orders : List OrderState) (price : Int) : List OrderState :=
  sortedBy bidPriority (orders.filter (bidsAt price))

/-- The asks that trade at a price, best first. -/
def asksOf (orders : List OrderState) (price : Int) : List OrderState :=
  sortedBy askPriority (orders.filter (asksAt price))

/-- Orders with what they have left. -/
def queue (orders : List OrderState) : List (OrderState × Int) :=
  orders.map fun o => (o, o.remainingQty)

/-- The trades of the auction at a price and a volume. -/
def auctionTrades (orders : List OrderState) (price volume : Int) :
    List (OrderState × OrderState × Int) :=
  pairOff meetOrders ((bidsOf orders price).length + (asksOf orders price).length + 1)
    (queue (bidsOf orders price)) (queue (asksOf orders price)) volume

/-- The ids of the orders are distinct. -/
def Distinct (orders : List OrderState) : Prop := (orders.map OrderState.orderId).Nodup

section Queues

variable {orders : List OrderState} {price : Int}

theorem mem_bidsOf {o : OrderState} :
    o ∈ bidsOf orders price ↔ o ∈ orders ∧ bidsAt price o = true :=
  mem_sortedBy.trans List.mem_filter

theorem mem_asksOf {o : OrderState} :
    o ∈ asksOf orders price ↔ o ∈ orders ∧ asksAt price o = true :=
  mem_sortedBy.trans List.mem_filter

theorem Distinct.sublist {orders' : List OrderState} (h : Distinct orders)
    (hs : orders'.Sublist orders) : Distinct orders' := List.Nodup.sublist (hs.map _) h

theorem Distinct.bids (h : Distinct orders) : Distinct (bidsOf orders price) :=
  (((sortedBy_perm _ _).map _).nodup_iff).mpr (h.sublist List.filter_sublist)

theorem Distinct.asks (h : Distinct orders) : Distinct (asksOf orders price) :=
  (((sortedBy_perm _ _).map _).nodup_iff).mpr (h.sublist List.filter_sublist)

theorem Distinct.eq_of_id (h : Distinct orders) {o d : OrderState} (ho : o ∈ orders)
    (hd : d ∈ orders) (hid : o.orderId = d.orderId) : o = d :=
  List.inj_on_of_nodup_map h ho hd hid

theorem Distinct.queues (h : Distinct orders) :
    ((bidsOf orders price ++ asksOf orders price).map OrderState.orderId).Nodup := by
  rw [List.map_append, List.nodup_append]
  refine ⟨h.bids, h.asks, ?_⟩
  intro id hb id' ha heq
  subst heq
  obtain ⟨bid, hbid, hbe⟩ := List.mem_map.mp hb
  obtain ⟨ask, hask, hae⟩ := List.mem_map.mp ha
  obtain ⟨hbo, hbat⟩ := mem_bidsOf.mp hbid
  obtain ⟨hao, haat⟩ := mem_asksOf.mp hask
  have hsame := h.eq_of_id hbo hao (hbe.trans hae.symm)
  have hbuy := (bidsAt_iff.mp hbat).2.1
  have hsell := (asksAt_iff.mp haat).2.1
  rw [hsame, hsell] at hbuy
  cases hbuy

theorem Stocked.bids (h : Stocked orders) : PairOff.Stocked (queue (bidsOf orders price)) := by
  intro e he
  obtain ⟨o, ho, rfl⟩ := List.mem_map.mp he
  obtain ⟨hmem, hat⟩ := mem_bidsOf.mp ho
  exact h o hmem (bidsAt_iff.mp hat).1

theorem Stocked.asks (h : Stocked orders) : PairOff.Stocked (queue (asksOf orders price)) := by
  intro e he
  obtain ⟨o, ho, rfl⟩ := List.mem_map.mp he
  obtain ⟨hmem, hat⟩ := mem_asksOf.mp ho
  exact h o hmem (asksAt_iff.mp hat).1

theorem held_queue (os : List OrderState) :
    held (queue os) = (os.map OrderState.remainingQty).sum := by
  unfold held queue
  rw [List.map_map]
  rfl

theorem held_bidsOf : held (queue (bidsOf orders price)) = demandAt orders price := by
  rw [held_queue]
  exact ((sortedBy_perm _ _).map _).sum_eq

theorem held_asksOf : held (queue (asksOf orders price)) = supplyAt orders price := by
  rw [held_queue]
  exact ((sortedBy_perm _ _).map _).sum_eq

/-- The order with an id. -/
def hasId (id : String) (o : OrderState) : Bool := o.orderId = id

theorem heldBy_queue {os : List OrderState} (h : Distinct os) {o : OrderState} (ho : o ∈ os) :
    heldBy (hasId o.orderId) (queue os) = o.remainingQty := by
  induction os with
  | nil => cases ho
  | cons d os ih =>
    obtain ⟨hd, hrest⟩ := List.nodup_cons.mp h
    show heldBy _ ((d, d.remainingQty) :: queue os) = _
    rw [heldBy_cons]
    cases List.mem_cons.mp ho with
    | inl heq =>
      subst heq
      -- the later orders have other ids
      rw [heldBy_eq_zero]
      · simp [hasId]
      · intro e he
        obtain ⟨c, hc, rfl⟩ := List.mem_map.mp he
        have hne : c.orderId ≠ o.orderId := fun hid => hd (hid ▸ List.mem_map_of_mem hc)
        simp [hasId, hne]
    | inr hmem =>
      have hne : d.orderId ≠ o.orderId := fun hid => hd (hid ▸ List.mem_map_of_mem hmem)
      rw [ih hrest hmem]
      simp [hasId, hne]

end Queues

theorem callAuction_eq {orders : List OrderState} (hids : Distinct orders)
    {prevClose price volume : Int} (h : uncross orders prevClose = some (price, volume)) :
    callAuction orders prevClose = (auctionTrades orders price volume).map (fillOf price) := by
  unfold callAuction
  rw [h]
  show auctionFills price ((bidsOf orders price).length + (asksOf orders price).length + 1)
    (bidsOf orders price) (asksOf orders price) volume _ = _
  rw [auctionFills_eq hids.queues]
  -- every order starts with what it has left
  have hleft : ∀ o ∈ bidsOf orders price ++ asksOf orders price,
      (Dict.ofList ((bidsOf orders price ++ asksOf orders price).map
        fun o => (o.orderId, o.remainingQty))).getD o.orderId 0 = o.remainingQty := by
    intro o ho
    unfold Dict.getD
    rw [Dict.mem_entries_iff.mp]
    · rfl
    · rw [Dict.entries_ofList (by rw [List.map_map]; exact hids.queues)]
      exact List.mem_map.mpr ⟨o, ho, rfl⟩
  have hqueue : ∀ os, (∀ o ∈ os, o ∈ bidsOf orders price ++ asksOf orders price) →
      queueOf (Dict.ofList ((bidsOf orders price ++ asksOf orders price).map
        fun o => (o.orderId, o.remainingQty))) os = queue os := by
    intro os hos
    apply List.map_congr_left
    intro o ho
    rw [hleft o (hos o ho)]
  unfold auctionTrades
  rw [← hqueue (bidsOf orders price) fun o ho => List.mem_append_left _ ho,
    ← hqueue (asksOf orders price) fun o ho => List.mem_append_right _ ho]
  rfl

theorem mem_auctionTrades {orders : List OrderState} {price volume : Int}
    {f : OrderState × OrderState × Int} (h : f ∈ auctionTrades orders price volume) :
    f.1 ∈ bidsOf orders price ∧ f.2.1 ∈ asksOf orders price ∧ 0 < f.2.2 ∧
      f.1.traderId ≠ f.2.1.traderId := by
  obtain ⟨⟨e, he, hbid⟩, ⟨d, hd, hask⟩, hqty, hmeet⟩ := mem_pairOff h
  obtain ⟨o, ho, rfl⟩ := List.mem_map.mp he
  obtain ⟨c, hc, rfl⟩ := List.mem_map.mp hd
  exact ⟨hbid ▸ ho, hask ▸ hc, hqty, meetOrders_eq_trade.mp hmeet⟩

/-- What a list of fills takes from the order of an id. -/
def filledOf (id : String) (fills : List Fill) : Int :=
  (fills.map fun f => if f.buyOrderId = id ∨ f.sellOrderId = id then f.qty else 0).sum

@[simp] theorem filledOf_nil (id : String) : filledOf id [] = 0 := rfl
@[simp] theorem filledOf_cons (id : String) (f : Fill) (fills : List Fill) :
    filledOf id (f :: fills) =
      (if f.buyOrderId = id ∨ f.sellOrderId = id then f.qty else 0) + filledOf id fills := by
  simp [filledOf]

theorem filledOf_bid {price : Int} {out : List (OrderState × OrderState × Int)} {id : String}
    (h : ∀ f ∈ out, f.2.1.orderId ≠ id) :
    filledOf id (out.map (fillOf price)) = taken (hasId id) out := by
  induction out with
  | nil => rfl
  | cons f out ih =>
    have hf := h f List.mem_cons_self
    rw [List.map_cons, filledOf_cons, taken_cons, ih fun g hg => h g (List.mem_cons_of_mem _ hg)]
    simp [fillOf, hasId, hf]

theorem filledOf_ask {price : Int} {out : List (OrderState × OrderState × Int)} {id : String}
    (h : ∀ f ∈ out, f.1.orderId ≠ id) :
    filledOf id (out.map (fillOf price)) = taken (hasId id) (out.map swapFill) := by
  induction out with
  | nil => rfl
  | cons f out ih =>
    have hf := h f List.mem_cons_self
    rw [List.map_cons, filledOf_cons, List.map_cons, taken_cons,
      ih fun g hg => h g (List.mem_cons_of_mem _ hg)]
    by_cases hid : f.2.1.orderId = id
    · simp [fillOf, swapFill, hasId, hid]
    · simp [fillOf, swapFill, hasId, hf, hid]

section Trades

variable {orders : List OrderState} {price volume : Int}

theorem filledOf_bidsOf (hids : Distinct orders) {o : OrderState} (ho : o ∈ orders)
    (hside : o.side = .buy) :
    filledOf o.orderId ((auctionTrades orders price volume).map (fillOf price)) =
      taken (hasId o.orderId) (auctionTrades orders price volume) := by
  apply filledOf_bid
  intro f hf heq
  obtain ⟨-, hask, -⟩ := mem_auctionTrades hf
  obtain ⟨hmem, hat⟩ := mem_asksOf.mp hask
  have hsame := hids.eq_of_id hmem ho heq
  have hsell := (asksAt_iff.mp hat).2.1
  rw [hsame, hside] at hsell
  cases hsell

theorem filledOf_asksOf (hids : Distinct orders) {o : OrderState} (ho : o ∈ orders)
    (hside : o.side = .sell) :
    filledOf o.orderId ((auctionTrades orders price volume).map (fillOf price)) =
      taken (hasId o.orderId) ((auctionTrades orders price volume).map swapFill) := by
  apply filledOf_ask
  intro f hf heq
  obtain ⟨hbid, -⟩ := mem_auctionTrades hf
  obtain ⟨hmem, hat⟩ := mem_bidsOf.mp hbid
  have hsame := hids.eq_of_id hmem ho heq
  have hbuy := (bidsAt_iff.mp hat).2.1
  rw [hsame, hside] at hbuy
  cases hbuy

theorem auctionTrades_swap : (auctionTrades orders price volume).map swapFill =
    pairOff (swapMeet meetOrders) ((bidsOf orders price).length + (asksOf orders price).length + 1)
      (queue (asksOf orders price)) (queue (bidsOf orders price)) volume :=
  (pairOff_swap ..).symm

theorem filledOf_le (hids : Distinct orders) (hstocked : Stocked orders) {o : OrderState}
    (ho : o ∈ orders) (hactive : o.status.active = true) :
    filledOf o.orderId ((auctionTrades orders price volume).map (fillOf price)) ≤
      o.remainingQty := by
  have hpos := hstocked o ho hactive
  -- an order that does not trade at the price is in no queue
  have hzero : ∀ os : List OrderState, (∀ d ∈ os, d ∈ orders) → o ∉ os →
      heldBy (hasId o.orderId) (queue os) = 0 := by
    intro os hos hno
    apply heldBy_eq_zero
    intro e he
    obtain ⟨d, hd, rfl⟩ := List.mem_map.mp he
    have hne : d.orderId ≠ o.orderId := fun hid => hno (hids.eq_of_id (hos d hd) ho hid ▸ hd)
    simp [hasId, hne]
  cases hside : o.side with
  | buy =>
    rw [filledOf_bidsOf hids ho hside]
    have hle : taken (hasId o.orderId) (auctionTrades orders price volume) ≤
        heldBy (hasId o.orderId) (queue (bidsOf orders price)) :=
      taken_le _ hstocked.bids
    by_cases hin : o ∈ bidsOf orders price
    · rw [heldBy_queue hids.bids hin] at hle
      exact hle
    · rw [hzero _ (fun d hd => (mem_bidsOf.mp hd).1) hin] at hle
      exact hle.trans hpos.le
  | sell =>
    rw [filledOf_asksOf hids ho hside, auctionTrades_swap]
    have hle : taken (hasId o.orderId) (pairOff (swapMeet meetOrders)
        ((bidsOf orders price).length + (asksOf orders price).length + 1)
        (queue (asksOf orders price)) (queue (bidsOf orders price)) volume) ≤
        heldBy (hasId o.orderId) (queue (asksOf orders price)) :=
      taken_le _ hstocked.asks
    by_cases hin : o ∈ asksOf orders price
    · rw [heldBy_queue hids.asks hin] at hle
      exact hle
    · rw [hzero _ (fun d hd => (mem_asksOf.mp hd).1) hin] at hle
      exact hle.trans hpos.le

theorem total_auctionTrades (hstocked : Stocked orders) (hvolume : 0 ≤ volume)
    (hle : volume ≤ executable orders price)
    (hsmooth : smooth meetOrders ((bidsOf orders price).length + (asksOf orders price).length + 1)
      (queue (bidsOf orders price)) (queue (asksOf orders price)) volume = true) :
    total (auctionTrades orders price volume) = volume := by
  apply total_pairOff hstocked.bids hstocked.asks hvolume
  · rw [held_bidsOf]
    exact hle.trans (min_le_left _ _)
  · rw [held_asksOf]
    exact hle.trans (min_le_right _ _)
  · simp [queue]
  · exact hsmooth

end Trades

/-- No trader has orders on both sides. -/
def OneSided (orders : List OrderState) : Prop :=
  ∀ bid ∈ orders, ∀ ask ∈ orders, bid.status.active = true → ask.status.active = true →
    bid.side = .buy → ask.side = .sell → bid.traderId ≠ ask.traderId

theorem OneSided.smooth {orders : List OrderState} (h : OneSided orders) (fuel : Nat)
    (price volume : Int) : smooth meetOrders fuel (queue (bidsOf orders price))
      (queue (asksOf orders price)) volume = true := by
  apply smooth_of_trade
  intro a ha b hb
  obtain ⟨bid, hbid, rfl⟩ := List.mem_map.mp ha
  obtain ⟨ask, hask, rfl⟩ := List.mem_map.mp hb
  obtain ⟨hbo, hbat⟩ := mem_bidsOf.mp hbid
  obtain ⟨hao, haat⟩ := mem_asksOf.mp hask
  obtain ⟨hba, hbuy, -⟩ := bidsAt_iff.mp hbat
  obtain ⟨haa, hsell, -⟩ := asksAt_iff.mp haat
  exact meetOrders_eq_trade.mpr (h bid hbo ask hao hba haa hbuy hsell)

theorem total_fills (price : Int) (out : List (OrderState × OrderState × Int)) :
    ((out.map (fillOf price)).map Fill.qty).sum = total out := by
  rw [List.map_map]
  rfl

/-- **The call auction is optimal and exact** where some price is named.  The
clearing price executes as much as any price; without traders on both sides
the fills are that volume; and always they are at the clearing price, within
the limits and the quantities, and never of one trader with itself. -/
theorem call_auction_exact {orders : List OrderState} (hids : Distinct orders)
    (hstocked : Stocked orders) (prevClose : Int) :
    (∀ price volume, uncross orders prevClose = some (price, volume) →
      volume = executable orders price ∧ (∀ q, executable orders q ≤ volume) ∧
        (OneSided orders → ((callAuction orders prevClose).map Fill.qty).sum = volume)) ∧
    (uncross orders prevClose = none → callAuction orders prevClose = [] ∧
      ((∃ o ∈ orders, o.status.active = true ∧ o.orderType = .limit ∧
        o.limitPriceCents ≠ none) → ∀ q, executable orders q ≤ 0)) ∧
    (∀ o ∈ orders, o.status.active = true →
      filledOf o.orderId (callAuction orders prevClose) ≤ o.remainingQty) ∧
    ∀ f ∈ callAuction orders prevClose, 0 < f.qty ∧
      (uncross orders prevClose).map Prod.fst = some f.priceCents ∧
      ∃ bid ∈ orders, ∃ ask ∈ orders, f.buyOrderId = bid.orderId ∧ f.sellOrderId = ask.orderId ∧
        bid.side = .buy ∧ ask.side = .sell ∧ bid.traderId ≠ ask.traderId ∧
        (bid.orderType = .limit → ∃ l, bid.limitPriceCents = some l ∧ f.priceCents ≤ l) ∧
        (ask.orderType = .limit → ∃ l, ask.limitPriceCents = some l ∧ l ≤ f.priceCents) := by
  refine ⟨?_, ?_, ?_, ?_⟩
  · intro price volume h
    obtain ⟨-, hvolume, hpos, -⟩ := uncross_eq_some h
    refine ⟨hvolume, executable_le hstocked h, fun hone => ?_⟩
    rw [callAuction_eq hids h, total_fills]
    exact total_auctionTrades hstocked hpos.le hvolume.le (hone.smooth _ _ _)
  · intro h
    refine ⟨by unfold callAuction; rw [h], ?_⟩
    rintro ⟨o, ho, hactive, htype, hlimit⟩ q
    obtain ⟨l, hl⟩ := Option.ne_none_iff_exists'.mp hlimit
    have hmem : l ∈ limitPrices orders := mem_limitPrices.mpr ⟨o, ho, hactive, htype, hl⟩
    obtain ⟨c, hc, hle⟩ := executable_le_limit hstocked (List.ne_nil_of_mem hmem) q
    exact hle.trans (uncross_eq_none h hc)
  · intro o ho hactive
    cases hu : uncross orders prevClose with
    | none =>
      have hnil : callAuction orders prevClose = [] := by
        unfold callAuction
        rw [hu]
      rw [hnil]
      exact (hstocked o ho hactive).le
    | some pv =>
      rw [callAuction_eq hids hu]
      exact filledOf_le hids hstocked ho hactive
  · intro f hf
    cases hu : uncross orders prevClose with
    | none =>
      unfold callAuction at hf
      rw [hu] at hf
      cases hf
    | some pv =>
      obtain ⟨price, volume⟩ := pv
      rw [callAuction_eq hids hu] at hf
      obtain ⟨g, hg, rfl⟩ := List.mem_map.mp hf
      obtain ⟨hbid, hask, hqty, hne⟩ := mem_auctionTrades hg
      obtain ⟨hbo, hbat⟩ := mem_bidsOf.mp hbid
      obtain ⟨hao, haat⟩ := mem_asksOf.mp hask
      obtain ⟨-, hbuy, hbl⟩ := bidsAt_iff.mp hbat
      obtain ⟨-, hsell, hal⟩ := asksAt_iff.mp haat
      refine ⟨hqty, rfl, g.1, hbo, g.2.1, hao, rfl, rfl, hbuy, hsell, hne, fun ht => ?_,
        fun ht => ?_⟩
      · exact hbl.resolve_left (by rw [ht]; simp)
      · exact hal.resolve_left (by rw [ht]; simp)

/-! ## Two books -/

/-- An order of a sample book. -/
def bookOrder (orderId traderId : String) (side : OrderSide) (orderType : OrderType)
    (limit : Option Int) (qty : Int) (tick : Int) (ordinal : Nat) : OrderState where
  orderId
  symbol := "ACME"
  traderId
  side
  orderType
  qty
  remainingQty := qty
  limitPriceCents := limit
  submittedTick := tick
  arrivalOrdinal := ordinal

/-- Two buyers and two sellers. -/
def fourOrders : List OrderState :=
  [bookOrder "b1" "buyer-a" .buy .limit (some 105) 10 0 0,
   bookOrder "b2" "buyer-b" .buy .limit (some 100) 10 0 1,
   bookOrder "s1" "seller-a" .sell .limit (some 95) 8 0 2,
   bookOrder "s2" "seller-b" .sell .limit (some 100) 12 0 3]

theorem call_auction_exact_four : uncross fourOrders 99 = some (100, 20) ∧
    (∀ q, executable fourOrders q ≤ 20) ∧
    ((callAuction fourOrders 99).map Fill.qty).sum = 20 := by
  have hu : uncross fourOrders 99 = some (100, 20) := by decide +kernel
  have hids : Distinct fourOrders := by unfold Distinct; decide +kernel
  have hstocked : Stocked fourOrders := by unfold Stocked; decide +kernel
  obtain ⟨hsome, -⟩ := call_auction_exact hids hstocked 99
  obtain ⟨-, hmax, hsum⟩ := hsome 100 20 hu
  exact ⟨hu, hmax, hsum (by unfold OneSided; decide +kernel)⟩

/-- A buyer and a seller that name no price. -/
def marketOrders : List OrderState :=
  [bookOrder "b1" "buyer" .buy .market none 1 0 0, bookOrder "s1" "seller" .sell .market none 1 0 1]

/-- **Market orders alone are not cleared**, though every price would execute
them. -/
theorem market_orders_uncleared : Distinct marketOrders ∧ Stocked marketOrders ∧
    (∀ o ∈ marketOrders, o.status.active = true) ∧ OneSided marketOrders ∧
    uncross marketOrders 100 = none ∧ callAuction marketOrders 100 = [] ∧
    ∀ q, executable marketOrders q = 1 := by
  refine ⟨by unfold Distinct; decide, by unfold Stocked; decide, by decide,
    by unfold OneSided; decide, by decide, by decide, fun q => ?_⟩
  rfl

end Polis.Economy
