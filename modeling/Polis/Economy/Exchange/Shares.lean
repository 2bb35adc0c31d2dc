/-
  Polis.Economy.Exchange.Shares — shares are conserved, closed orders stay.

  The holdings of a security add up to the shares it was listed with: a trade
  moves shares between two rows, a listing hands all of them out, nothing else
  writes a quantity.  An order's filled and remaining quantities add up to what
  it asked for, and an order that is no longer active is never written again.

  Main results:
    * `ShareInv.step` — one step keeps the holdings of every security.
    * `Step.orderOk` — one step keeps the quantities of every order.
    * `Step.closed` — one step keeps closed orders.
-/
import Polis.Economy.Exchange.Holdings

namespace Polis.Economy.Exchange

open Lib Lib.Effect Sim

/-! ## Shares of a security -/

/-- The shares of a security held by all holders. -/
def sharesOf (x : ExchangeState) (symbol : String) : Int :=
  x.holdings.total fun _ h => if h.symbol = symbol then h.qty else 0

/-- No stored symbol is another one behind a separator, so that a holding key
names one of them only. -/
def Apart (x : ExchangeState) : Prop :=
  ∀ a b, x.securities.get? a ≠ none → x.securities.get? b ≠ none → ∀ u, b ≠ u ++ ":" ++ a

/-- Holdings stand under their keys and belong to stored securities. -/
def RowsOk (x : ExchangeState) : Prop :=
  ∀ k h, x.holdings.get? k = some h →
    k = holdingKey h.holderId h.symbol ∧ x.securities.get? h.symbol ≠ none

/-- **The share law**: every security is held in full. -/
def ShareLaw (x : ExchangeState) : Prop :=
  ∀ a security, x.securities.get? a = some security → sharesOf x a = security.sharesOutstanding

theorem Apart.key_inj {x : ExchangeState} (h : Apart x) {o o' a b : String}
    (ha : x.securities.get? a ≠ none) (hb : x.securities.get? b ≠ none)
    (hk : holdingKey o a = holdingKey o' b) : o = o' ∧ a = b := by
  have hlist : o.toList ++ ':' :: a.toList = o'.toList ++ ':' :: b.toList := by
    have := congrArg String.toList hk
    simpa [holdingKey] using this
  have sep : ∀ (u : List Char) (c d : String), d.toList = u ++ ':' :: c.toList →
      d = String.ofList u ++ ":" ++ c := by
    intro u c d hd
    rw [← String.toList_inj]
    simp [hd]
  rcases List.append_eq_append_iff.mp hlist with ⟨u, ho, hs⟩ | ⟨u, ho, hs⟩
  · cases u with
    | nil =>
      rw [List.append_nil] at ho
      rw [List.nil_append] at hs
      exact ⟨(String.toList_inj.mp ho).symm, String.toList_inj.mp (List.cons.inj hs).2⟩
    | cons c u =>
      rw [List.cons_append, List.cons.injEq] at hs
      exact absurd (sep u b a hs.2) (h b a hb ha _)
  · cases u with
    | nil =>
      rw [List.append_nil] at ho
      rw [List.nil_append] at hs
      exact ⟨String.toList_inj.mp ho, (String.toList_inj.mp (List.cons.inj hs).2).symm⟩
    | cons c u =>
      rw [List.cons_append, List.cons.injEq] at hs
      exact absurd (sep u a b hs.2) (h a b ha hb _)

theorem Apart.of_single {x : ExchangeState} {a : String} (h : x.securities.keys = [a]) :
    Apart x := by
  have only : ∀ b, x.securities.get? b ≠ none → b = a := by
    intro b hb
    obtain ⟨row, hrow⟩ := Option.ne_none_iff_exists'.mp hb
    have hmem : b ∈ x.securities.keys :=
      List.mem_map.mpr ⟨(b, row), Dict.mem_entries_iff.mpr hrow, rfl⟩
    rw [h] at hmem
    exact List.mem_singleton.mp hmem
  intro b c hb hc u he
  have hlen := congrArg String.length he
  rw [only b hb, only c hc] at hlen
  simp only [String.length_append] at hlen
  have : (":" : String).length = 1 := rfl
  omega

theorem RowsOk.holdingRow {x : ExchangeState} (h : RowsOk x) (hap : Apart x) {o a : String}
    (ha : x.securities.get? a ≠ none) :
    (x.holdingRow o a).holderId = o ∧ (x.holdingRow o a).symbol = a := by
  unfold ExchangeState.holdingRow
  cases hg : x.holdings.get? (holdingKey o a) with
  | none => exact ⟨rfl, rfl⟩
  | some row =>
    obtain ⟨hk, hs⟩ := h _ _ hg
    obtain ⟨ho, hsym⟩ := hap.key_inj ha hs hk
    exact ⟨ho.symm, hsym.symm⟩

theorem RowsOk.put {x : ExchangeState} (h : RowsOk x) (hap : Apart x) {o a : String}
    (ha : x.securities.get? a ≠ none) {row : HoldingState}
    (ho : row.holderId = (x.holdingRow o a).holderId)
    (hs : row.symbol = (x.holdingRow o a).symbol) :
    RowsOk (x.putHolding o a row) ∧ ∀ b, sharesOf (x.putHolding o a row) b
      = sharesOf x b + if a = b then row.qty - (x.holdingRow o a).qty else 0 := by
  obtain ⟨hho, hhs⟩ := h.holdingRow hap ha
  rw [hho] at ho
  rw [hhs] at hs
  refine ⟨fun k r hk => ?_, fun b => ?_⟩
  · unfold ExchangeState.putHolding at hk ⊢
    dsimp only at hk ⊢
    rw [Dict.get?_put] at hk
    split_ifs at hk with he
    · cases hk
      rw [ho, hs]
      exact ⟨he, ha⟩
    · exact h k r hk
  · unfold sharesOf ExchangeState.putHolding
    dsimp only
    rw [Dict.total_put, hs]
    have hold : x.holdings.weightAt (holdingKey o a) (fun _ r => if r.symbol = b then r.qty else 0)
        = if a = b then (x.holdingRow o a).qty else 0 := by
      unfold Dict.weightAt ExchangeState.holdingRow
      cases hg : x.holdings.get? (holdingKey o a) with
      | none => exact (ite_self (0 : Int)).symm
      | some r =>
        have hsym : r.symbol = a := by
          obtain ⟨hk, hsec⟩ := h _ _ hg
          exact (hap.key_inj ha hsec hk).2.symm
        show (if r.symbol = b then r.qty else 0) = _
        rw [hsym]
        rfl
    rw [hold]
    split_ifs
    · ring
    · ring

theorem RowsOk.rewrite {x : ExchangeState} (h : RowsOk x) (hap : Apart x) {o a : String}
    (ha : x.securities.get? a ≠ none) {row : HoldingState}
    (ho : row.holderId = (x.holdingRow o a).holderId)
    (hs : row.symbol = (x.holdingRow o a).symbol) (hq : row.qty = (x.holdingRow o a).qty) :
    RowsOk (x.putHolding o a row) ∧ ∀ b, sharesOf (x.putHolding o a row) b = sharesOf x b := by
  obtain ⟨hrows, hshares⟩ := h.put hap ha ho hs
  refine ⟨hrows, fun b => ?_⟩
  rw [hshares b, hq, sub_self, ite_self, add_zero]

theorem sharesOf_congr {x y : ExchangeState} (h : y.holdings = x.holdings) (a : String) :
    sharesOf y a = sharesOf x a := by
  unfold sharesOf
  rw [h]

theorem RowsOk.congr {x y : ExchangeState} (hr : RowsOk x) (h : y.holdings = x.holdings)
    (hs : ∀ a, x.securities.get? a ≠ none → y.securities.get? a ≠ none) : RowsOk y := by
  intro k r hk
  rw [h] at hk
  obtain ⟨hkey, hsec⟩ := hr k r hk
  exact ⟨hkey, hs _ hsec⟩

theorem RowsOk.allot {symbol : String} {price : Int} {locked : Option String}
    {rows : List (String × Int)} {x : ExchangeState} (h : RowsOk x) (hap : Apart x)
    (hs : x.securities.get? symbol ≠ none) :
    RowsOk (allot symbol price locked rows x) ∧ ∀ b,
      sharesOf (allot symbol price locked rows x) b
        = sharesOf x b + if symbol = b then (rows.map Prod.snd).sum else 0 := by
  induction rows generalizing x with
  | nil =>
    refine ⟨h, fun b => ?_⟩
    rw [List.map_nil, List.sum_nil, ite_self, add_zero]
    rfl
  | cons r rows ih =>
    obtain ⟨holderId, qty⟩ := r
    obtain ⟨hrow, hshares⟩ := @RowsOk.put x h hap holderId symbol hs
      (if locked = some holderId then
        { x.holdingRow holderId symbol with
          qty := (x.holdingRow holderId symbol).qty + qty
          avgCostCents := price
          lockedQty := qty }
      else
        { x.holdingRow holderId symbol with
          qty := (x.holdingRow holderId symbol).qty + qty
          avgCostCents := price })
      (by split_ifs <;> rfl) (by split_ifs <;> rfl)
    obtain ⟨hrest, hsum⟩ := ih hrow hap hs
    refine ⟨hrest, fun b => (hsum b).trans ?_⟩
    rw [hshares b, apply_ite HoldingState.qty, ite_self, List.map_cons, List.sum_cons]
    dsimp only
    split_ifs
    · ring
    · ring

/-! ## Orders -/

/-- What an order asks for is filled or remaining, of a stored security. -/
def OrderOk (x : ExchangeState) (o : OrderState) : Prop :=
  o.filledQty + o.remainingQty = o.qty ∧ 0 ≤ o.filledQty ∧ 0 ≤ o.remainingQty ∧
    x.securities.get? o.symbol ≠ none

/-- A stored order does not take the id of an order that is closed. -/
def FreshId : Mark → Prop
  | .admitOrder x orderId => ∀ o, x.orders.get? orderId = some o → o.status.active = true
  | _ => True

instance : DecidablePred FreshId
  | .admitOrder x orderId => inferInstanceAs (Decidable (∀ o ∈ x.orders.get? orderId,
      o.status.active = true))
  | .settle _ _ => inferInstanceAs (Decidable True)
  | .announce _ _ => inferInstanceAs (Decidable True)

variable {cfg : ExchangeSettings} {outside : Bool} {s s' : Sim}

/-- What a step does to the order stored under an id. -/
inductive OrderStep (s s' : Sim) (k : String) : Prop where
  | same (h : s'.exch.orders.get? k = s.exch.orders.get? k)
  | filled {o o' : OrderState} {qty : Int} (ho : s.exch.orders.get? k = some o)
      (ho' : s'.exch.orders.get? k = some o') (active : o.status.active = true)
      (qty_pos : 0 < qty) (qty_le : qty ≤ o.remainingQty) (filled_eq : o'.filledQty = o.filledQty + qty)
      (remaining_eq : o'.remainingQty = o.remainingQty - qty) (qty_eq : o'.qty = o.qty)
      (symbol_eq : o'.symbol = o.symbol)
  | cancelled {o : OrderState} {expired : Bool} (ho : s.exch.orders.get? k = some o)
      (ho' : s'.exch.orders.get? k = some (cancelledRow expired o))
      (active : o.status.active = true)
  | placed {r : OrderRequest} {ordinal : Nat} {tick : Int} {reserved : Reservation}
      (h : Placed r ordinal tick reserved s s') (hk : k = orderIdOf r.actionId)
      (ho' : s'.exch.orders.get? k = some (orderRow r reserved ordinal tick))

theorem Step.orderStep (hstep : Step cfg outside s s') (k : String) : OrderStep s s' k := by
  cases hstep with
  | quiet h => exact .same (by rw [h.orders_eq])
  | @settled fill _ buy sell _ t hok h =>
    obtain ⟨b, c, hb, hc, -, -, -, hfb, hfc⟩ := hok
    rw [h.buy_at] at hb
    cases hb
    rw [h.sell_at] at hc
    cases hc
    have hqty := h.qty_pos
    have hqmin : t.qty = min fill.qty (min buy.remainingQty sell.remainingQty) := by
      rw [h.amounts]; rfl
    have hk := h.order_at k
    split_ifs at hk with h₁ h₂
    · exact .filled (h₁ ▸ h.buy_at) hk (hfb.resolve_right (by omega)) hqty (by omega) rfl rfl rfl
        rfl
    · exact .filled (h₂ ▸ h.sell_at) hk (hfc.resolve_right (by omega)) hqty (by omega) rfl rfl rfl
        rfl
    · exact .same hk
  | cancelled h =>
    have hk := h.order_get k
    split_ifs at hk with h₁
    · exact .cancelled (h₁ ▸ h.order_at) hk h.active
    · exact .same hk
  | turned h => exact .same (by rw [h.orders_eq])
  | indicated h => exact .same (by rw [h.exch_eq])
  | placed h =>
    have hk := h.order_get k
    split_ifs at hk with h₁
    · exact .placed h h₁ hk
    · exact .same hk
  | announced h => exact .same (by rw [h.exch_eq])
  | failed h => exact .same (by rw [h.eq]; rfl)
  | completed _ h =>
    obtain ⟨_, _, _, hl, -⟩ := h.listed
    exact .same (by rw [hl.orders_eq]; rfl)
  | listed h => exact .same (by rw [h.orders_eq])
  | called h => exact .same (by rw [h])

theorem Step.orderOk (hstep : Step cfg outside s s')
    (h : ∀ k o, s.exch.orders.get? k = some o → OrderOk s.exch o) :
    ∀ k o, s'.exch.orders.get? k = some o → OrderOk s'.exch o := by
  intro k o ho
  cases hstep.orderStep k with
  | same he =>
    obtain ⟨hsum, hf, hr, hs⟩ := h k o (he ▸ ho)
    exact ⟨hsum, hf, hr, hstep.known hs⟩
  | filled ho₀ ho' _ hpos hle hfilled hremaining hqty hsymbol =>
    rw [ho'] at ho
    cases ho
    obtain ⟨hsum, hf, hr, hs⟩ := h k _ ho₀
    exact ⟨by omega, by omega, by omega, by rw [hsymbol]; exact hstep.known hs⟩
  | cancelled ho₀ ho' _ =>
    rw [ho'] at ho
    cases ho
    obtain ⟨hsum, hf, hr, hs⟩ := h k _ ho₀
    exact ⟨hsum, hf, hr, hstep.known hs⟩
  | @placed r _ _ _ hp _ ho' =>
    rw [ho'] at ho
    cases ho
    obtain ⟨security, hsec⟩ := hp.screened
    refine ⟨zero_add _, le_rfl, hp.qty_pos.le, hstep.known ?_⟩
    show s.exch.securities.get? r.symbol ≠ none
    rw [hsec]
    simp

theorem Step.closed (hstep : Step cfg outside s s') (hgood : ∀ m ∈ s'.trail, FreshId m)
    {k : String} {o : OrderState} (ho : s.exch.orders.get? k = some o)
    (hclosed : o.status.active = false) : s'.exch.orders.get? k = some o := by
  cases hstep.orderStep k with
  | same he => rw [he, ho]
  | filled ho₀ _ active =>
    rw [ho] at ho₀
    cases ho₀
    rw [hclosed] at active
    cases active
  | cancelled ho₀ _ active =>
    rw [ho] at ho₀
    cases ho₀
    rw [hclosed] at active
    cases active
  | @placed r _ _ _ hp hk _ =>
    obtain ⟨x, htrail, hx⟩ := hp.trail_eq
    have hfree : FreshId (.admitOrder x (orderIdOf r.actionId)) := hgood _ (by rw [htrail]; simp)
    have hactive := hfree o (by rw [hx, ← hk]; exact ho)
    rw [hclosed] at hactive
    cases hactive

/-! ## The share law -/

/-- The share law with what carries it through a run. -/
structure ShareInv (x : ExchangeState) : Prop where
  rows : RowsOk x
  law : ShareLaw x

theorem ShareInv.congr {x y : ExchangeState} (h : ShareInv x) (hrows : RowsOk y)
    (hshares : ∀ a, sharesOf y a = sharesOf x a)
    (hsec : ∀ a, (y.securities.get? a).map SecurityState.sharesOutstanding
      = (x.securities.get? a).map SecurityState.sharesOutstanding) : ShareInv y := by
  refine ⟨hrows, fun a security ha => ?_⟩
  have hmap := hsec a
  rw [ha] at hmap
  obtain ⟨security₀, ha₀, he⟩ := Option.map_eq_some_iff.mp hmap.symm
  rw [hshares a, h.law a security₀ ha₀, he]

theorem ShareInv.listed {symbol : String} {shares : Int} {allocation : Dict String Int}
    {x x' : ExchangeState} (h : ShareInv x) (hap : Apart x')
    (hl : Listed symbol shares allocation x x') : ShareInv x' := by
  obtain ⟨security, hshares, hsec⟩ := hl.securities_eq
  obtain ⟨price, locked, hholdings⟩ := hl.holdings_eq
  -- the state in which the shares are handed out
  have hmid : ∀ a, x.securities.get? a ≠ none →
      ({ x with securities := x'.securities } : ExchangeState).securities.get? a ≠ none := by
    intro a ha
    show x'.securities.get? a ≠ none
    rw [hsec, Dict.get?_put]
    split_ifs
    · simp
    · exact ha
  have hlisted : ({ x with securities := x'.securities } : ExchangeState).securities.get? symbol
      ≠ none := by
    show x'.securities.get? symbol ≠ none
    rw [hsec, Dict.get?_put_self]
    simp
  have hrows : RowsOk { x with securities := x'.securities } := h.rows.congr rfl hmid
  obtain ⟨hrows', hsum⟩ := @RowsOk.allot symbol price locked allocation.sortedEntries _ hrows hap
    hlisted
  have heq : x'.holdings = (Exchange.allot symbol price locked allocation.sortedEntries
      { x with securities := x'.securities }).holdings :=
    hholdings.trans (@allot_holdings x { x with securities := x'.securities } rfl _ _ _ _)
  have htotal : (allocation.sortedEntries.map Prod.snd).sum = shares := by
    rw [← hl.sum_eq]
    exact (((Dict.sortedEntries_perm allocation).map Prod.snd).sum_eq).trans rfl
  have hsecs : (Exchange.allot symbol price locked allocation.sortedEntries
      { x with securities := x'.securities }).securities = x'.securities := by
    rw [allot_eq]
  refine ⟨hrows'.congr heq fun a ha => by rw [hsecs] at ha; exact ha, fun a row ha => ?_⟩
  rw [sharesOf_congr heq a, hsum a, htotal]
  show sharesOf x a + _ = _
  rw [hsec, Dict.get?_put] at ha
  split_ifs at ha with hsame
  · cases ha
    rw [if_pos hsame.symm, hshares]
    have hzero : sharesOf x a = 0 := by
      refine Dict.total_eq_zero fun e he => ?_
      rw [if_neg]
      intro hsym
      have hknown := (h.rows _ _ (Dict.mem_entries_iff.mp he)).2
      rw [hsym, hsame, hl.fresh] at hknown
      exact hknown rfl
    rw [hzero, zero_add]
  · rw [if_neg (Ne.symm hsame), add_zero]
    exact h.law a row ha

theorem ShareInv.step (hstep : Step cfg outside s s') (hap : Apart s'.exch)
    (horders : ∀ k o, s.exch.orders.get? k = some o → OrderOk s.exch o) (h : ShareInv s.exch) :
    ShareInv s'.exch := by
  have hknown : ∀ a, s.exch.securities.get? a ≠ none → s'.exch.securities.get? a ≠ none :=
    fun a ha => hstep.known ha
  have hap₀ : Apart s.exch := fun a b ha hb => hap a b (hknown a ha) (hknown b hb)
  have same : s'.exch.holdings = s.exch.holdings →
      (∀ a, (s'.exch.securities.get? a).map SecurityState.sharesOutstanding
        = (s.exch.securities.get? a).map SecurityState.sharesOutstanding) → ShareInv s'.exch :=
    fun he hs => h.congr (h.rows.congr he hknown) (sharesOf_congr he) hs
  cases hstep with
  | quiet hq => exact same hq.holdings_eq hq.shares_eq
  | @settled fill _ buy sell security t hok hs =>
    have hsym : buy.symbol = sell.symbol := by
      obtain ⟨b, c, hb, hc, -, -, hsym, -⟩ := hok
      rw [hs.buy_at] at hb
      rw [hs.sell_at] at hc
      cases hb
      cases hc
      exact hsym
    have hbuy : s.exch.securities.get? buy.symbol ≠ none := by
      rw [hs.security_at]
      simp
    have hsell : s.exch.securities.get? sell.symbol ≠ none := hsym ▸ hbuy
    have hbought : ∀ row, (holdingBought t row).holderId = row.holderId ∧
        (holdingBought t row).symbol = row.symbol ∧ (holdingBought t row).qty = row.qty + t.qty := by
      intro row
      unfold holdingBought
      dsimp only
      split_ifs
      · exact ⟨rfl, rfl, rfl⟩
      · exact ⟨rfl, rfl, rfl⟩
    obtain ⟨hrows, hgain⟩ := h.rows.put hap₀ hbuy
      (hbought (s.exch.holdingRow buy.traderId buy.symbol)).1
      (hbought (s.exch.holdingRow buy.traderId buy.symbol)).2.1
    obtain ⟨hrows', hloss⟩ := @RowsOk.put _ hrows hap₀ sell.traderId sell.symbol hsell
      (holdingSold t sell ((s.exch.putHolding buy.traderId buy.symbol
        (holdingBought t (s.exch.holdingRow buy.traderId buy.symbol))).holdingRow
          sell.traderId sell.symbol)) rfl rfl
    refine h.congr (hrows'.congr hs.holdings_eq hknown) (fun a => ?_) fun a => ?_
    · rw [sharesOf_congr hs.holdings_eq a]
      show sharesOf (ExchangeState.putHolding _ sell.traderId sell.symbol _) a = _
      rw [hloss a, hgain a, (hbought _).2.2, hsym]
      unfold holdingSold
      dsimp only
      split_ifs
      · ring
      · ring
    · rw [hs.securities_eq, Dict.get?_modify]
      split_ifs with hsame
      · rw [← hsame, Option.map_map]
        rfl
      · rfl
  | @cancelled _ _ order hc =>
    have hsecs : s'.exch.securities = s.exch.securities := by rw [hc.exch_eq, unreserve_eq]
    have hheld : s'.exch.holdings = (unreserve order s.exch).holdings := by rw [hc.exch_eq]
    have hlisted : s.exch.securities.get? order.symbol ≠ none :=
      (horders _ _ hc.order_at).2.2.2
    have hrows : RowsOk (unreserve order s.exch) ∧
        ∀ a, sharesOf (unreserve order s.exch) a = sharesOf s.exch a := by
      unfold unreserve
      split_ifs
      · exact h.rows.rewrite hap₀ hlisted rfl rfl rfl
      · exact ⟨h.rows, fun _ => rfl⟩
    refine h.congr (hrows.1.congr hheld fun a ha => ?_) (fun a => ?_) fun a => by rw [hsecs]
    · rw [unreserve_eq] at ha
      exact hknown a ha
    · rw [sharesOf_congr hheld a, hrows.2 a]
  | turned ht hsec =>
    obtain ⟨security, hsec⟩ := hsec
    rcases ht.exch_eq with hx | hx
    · exact same (by rw [hx]) fun a => by rw [hx]
    · obtain ⟨hrows, hshares⟩ := h.rows.rewrite hap₀ (by rw [hsec]; simp) rfl rfl rfl
      exact hx ▸ h.congr hrows hshares fun a => rfl
  | indicated hi => exact same (by rw [hi.exch_eq]) fun a => by rw [hi.exch_eq]
  | @placed r _ _ reserved hp =>
    obtain ⟨security, hsec⟩ := hp.screened
    have hsecs : s'.exch.securities = s.exch.securities := by
      rw [hp.exch_eq]
      dsimp only
      split_ifs <;> rfl
    have hheld : s'.exch.holdings = (if reserved.qty = 0 then s.exch
        else reserveShares r.actorId r.symbol reserved.qty s.exch).holdings := by rw [hp.exch_eq]
    by_cases hz : reserved.qty = 0
    · rw [if_pos hz] at hheld
      exact same hheld fun a => by rw [hsecs]
    · rw [if_neg hz] at hheld
      obtain ⟨hrows, hshares⟩ := @RowsOk.rewrite _ h.rows hap₀ r.actorId r.symbol
        (by rw [hsec]; simp) { s.exch.holdingRow r.actorId r.symbol with
          reservedQty := (s.exch.holdingRow r.actorId r.symbol).reservedQty + reserved.qty }
        rfl rfl rfl
      refine h.congr (hrows.congr hheld hknown) (fun a => ?_) fun a => by rw [hsecs]
      rw [sharesOf_congr hheld a]
      exact hshares a
  | announced ha => exact same (by rw [ha.exch_eq]) fun a => by rw [ha.exch_eq]
  | failed hf => exact same (by rw [hf.eq]; rfl) fun a => by rw [hf.eq]; rfl
  | @completed key _ _ hc =>
    obtain ⟨_, _, _, hl, -⟩ := hc.listed
    have hx : ShareInv (withIpoStatus key .completed s.exch) :=
      h.congr (h.rows.congr rfl fun _ hk => hk) (fun _ => rfl) fun _ => rfl
    exact hx.listed hap hl
  | listed hl => exact h.listed hap hl
  | called hx => exact same (by rw [hx]) fun a => by rw [hx]

end Polis.Economy.Exchange
