/-
  Polis.Economy.Exchange.IndexLevel — the index across listings and
  delistings.

  `_reset_index_divisor` chooses the divisor that gives the last recorded value
  back.  The level just before a change is the one prices imply then, and they
  may have moved since the value was recorded.

  Main results:
    * `computeIndex_level` — the level is what `_index` records.
    * `IndexChange.run_rebased` — what a listing or a delisting does to the
      index.
    * `index_continuity` — the level stays exactly when the recorded value is
      near it.
-/
import Polis.Economy.Exchange.Calls
import Polis.Lib.DivideTwice
import Mathlib.Algebra.Order.Ring.Abs

namespace Polis.Economy.Exchange

open Lib Lib.Effect Lib.DivideTwice Sim

/-! ## Levels -/

/-- `10000 * mcap // divisor`. -/
def indexLevel (x : ExchangeState) : Int :=
  10000 * marketCap (constituents x) / x.indexDivisor.getD 0

/-- The last recorded value, ten thousand when there is none. -/
def lastRecorded (x : ExchangeState) : Int :=
  (x.indexHistoryBp.keys.max?.bind x.indexHistoryBp.get?).getD 10000

/-- What two integer divisions may change: at most one where the market cap is at
least the square of the level, and what dividing twice by the level itself
changes elsewhere. -/
def rounding (cap level : Int) : Int :=
  if level * level ≤ cap then 1 else |twice (10000 * cap) level - level|

/-- **The index does not jump**: the level after a change is the level before
it, up to rounding. -/
def IndexLaw (x x' : ExchangeState) : Prop :=
  |indexLevel x' - indexLevel x| ≤ rounding (marketCap (constituents x')) (indexLevel x)

/-- The recorded value is near the level that prices imply: within one of it where
the new market cap is large, and elsewhere between two bounds that the level and
the new market cap give. -/
def RecordedNear (x : ExchangeState) (cap : Int) : Prop :=
  let level := indexLevel x
  let recorded := max 1 (lastRecorded x)
  let low := level - rounding cap level
  let high := level + rounding cap level
  cap = 0 ∨
    if level * level ≤ cap then |recorded - level| ≤ 1
    else
      (low ≤ 0 ∨ low ≤ 10000 * cap ∧ 10000 * cap / (10000 * cap / low + 1) < recorded) ∧
      (10000 * cap ≤ high ∨ recorded ≤ 10000 * cap / (10000 * cap / (high + 1) + 1))

instance (x : ExchangeState) (cap : Int) : Decidable (RecordedNear x cap) :=
  inferInstanceAs (Decidable (_ ∨ ite _ _ _))

/-- What a security adds to the market cap. -/
def indexWeight (r : SecurityState) : Int :=
  if r.status = .listed ∧ r.securityClass = .common then r.lastPriceCents * r.sharesOutstanding
  else 0

theorem marketCap_constituents (x : ExchangeState) :
    marketCap (constituents x) = x.securities.total fun _ r => indexWeight r := by
  have hrows : ∀ rows : List (String × SecurityState),
      marketCap ((rows.map Prod.snd).filter fun s => s.status = .listed && s.securityClass = .common)
        = (rows.map fun e => indexWeight e.2).sum := by
    intro rows
    induction rows with
    | nil => rfl
    | cons e rows ih =>
      rw [List.map_cons, List.map_cons, List.sum_cons, ← ih]
      by_cases h : e.2.status = .listed ∧ e.2.securityClass = .common
      · rw [List.filter_cons_of_pos (by simpa using h), indexWeight, if_pos h]
        rfl
      · rw [List.filter_cons_of_neg (by simpa using h), indexWeight, if_neg h, zero_add]
  exact hrows x.securities.entries

theorem computeIndex_level {s s' : Sim} {tick d : Int} {events : List Event}
    (hd : s.exch.indexDivisor = some d) (hpos : 0 < d) (hrows : constituents s.exch ≠ [])
    (h : computeIndex tick s = .ok events s') :
    s'.exch.indexHistoryBp = s.exch.indexHistoryBp.put tick (indexLevel s.exch) := by
  unfold computeIndex at h
  obtain ⟨_, _, h₁, h⟩ := bind_eq_ok.mp h
  obtain ⟨rfl, rfl⟩ := exchangeNow_eq_ok.mp h₁
  dsimp only at h
  rw [if_neg hrows, hd] at h
  obtain ⟨_, _, h₁, h⟩ := bind_eq_ok.mp h
  have hs := modifyExchange_eq_ok.mp h₁
  obtain ⟨event, _, h₂, h⟩ := bind_eq_ok.mp h
  obtain ⟨log, rfl⟩ := emit_eq_ok h₂
  obtain ⟨-, rfl⟩ := pure_eq_ok.mp h
  subst hs
  show s.exch.indexHistoryBp.put tick
    (10000 * marketCap (constituents s.exch) / if d ≤ 0 then _ else d) = _
  rw [if_neg (not_le.mpr hpos), indexLevel, hd]
  rfl

/-! ## Changes -/

/-- A listing or a delisting. -/
inductive IndexChange where
  | list (symbol issuerFirmId : String) (shares price tick : Int) (holders : Dict String Int)
      (ipoRoundId : Option String) (lockup : Option Int)
  | delist (symbol reason : String) (tick : Int)

section Changes

variable [Uuid5]

/-- Make the change. -/
def IndexChange.run : IndexChange → EngineM (List Event)
  | .list symbol issuerFirmId shares price tick holders ipoRoundId lockup =>
    listSecurity symbol issuerFirmId shares price tick holders ipoRoundId lockup
  | .delist symbol reason tick => Exchange.delist symbol reason tick

/-- The market cap after the change. -/
def IndexChange.newCap (x : ExchangeState) : IndexChange → Int
  | .list _ _ shares price _ _ _ _ => marketCap (constituents x) + price * shares
  | .delist symbol _ _ =>
    marketCap (constituents x) - (x.securities.get? symbol).elim 0 indexWeight

/-- The divisor is reset over the new securities. -/
def Rebased (x x' : ExchangeState) (cap : Int) : Prop :=
  ∃ y, x' = resetIndexDivisor y ∧ y.indexHistoryBp = x.indexHistoryBp ∧
    y.indexDivisor = x.indexDivisor ∧ marketCap (constituents y) = cap

/-- Securities, history and divisor stay. -/
def SameIndex (s s' : Sim) : Prop :=
  s'.exch.securities = s.exch.securities ∧ s'.exch.indexHistoryBp = s.exch.indexHistoryBp ∧
    s'.exch.indexDivisor = s.exch.indexDivisor

omit [Uuid5] in
theorem SameIndex.refl (s : Sim) : SameIndex s s := ⟨rfl, rfl, rfl⟩

omit [Uuid5] in
theorem SameIndex.trans (s₁ s₂ s₃ : Sim) (h : SameIndex s₁ s₂) (h' : SameIndex s₂ s₃) :
    SameIndex s₁ s₃ :=
  ⟨h'.1.trans h.1, h'.2.1.trans h.2.1, h'.2.2.trans h.2.2⟩

theorem cancel_sameIndex (orderId initiator : String) (tick : Int) (expired : Bool) :
    Within SameIndex (cancel orderId tick initiator expired) := by
  intro s events s' h
  rcases cancel_eq_ok h with rfl | ⟨order, hc⟩
  · exact .refl s'
  · have hx := hc.exch_eq
    rw [unreserve_eq] at hx
    exact ⟨by rw [hx], by rw [hx], by rw [hx]⟩

omit [Uuid5] in
theorem list_rebased {s s' : Sim} {symbol issuerFirmId : String} {shares price tick : Int}
    {holders : Dict String Int} {ipoRoundId : Option String} {lockup : Option Int}
    {events : List Event}
    (h : listSecurity symbol issuerFirmId shares price tick holders ipoRoundId lockup s
      = .ok events s') :
    Rebased s.exch s'.exch (marketCap (constituents s.exch) + price * shares) := by
  obtain ⟨security, locked, allocation, hl⟩ := listSecurity_lists h
  have hweight : indexWeight security = price * shares := by
    rw [indexWeight, if_pos hl.indexed, hl.price_eq, hl.outstanding_eq]
  refine ⟨_, hl.exch_eq, ?_, ?_, ?_⟩
  · rw [allot_eq]
  · rw [allot_eq]
  · rw [marketCap_constituents, marketCap_constituents, allot_eq, ← hweight]
    exact Dict.total_put_of_none _ hl.fresh

theorem delist_rebased {s s' : Sim} {symbol reason : String} {tick : Int} {events : List Event}
    (h : Exchange.delist symbol reason tick s = .ok events s') :
    Rebased s.exch s'.exch
      (marketCap (constituents s.exch) - (s.exch.securities.get? symbol).elim 0 indexWeight) := by
  unfold Exchange.delist at h
  obtain ⟨security, _, h₁, h⟩ := bind_eq_ok.mp h
  obtain ⟨hsec, rfl⟩ := securityAt_eq_ok.mp h₁
  obtain ⟨_, _, h₁, h⟩ := bind_eq_ok.mp h
  obtain ⟨rfl, rfl⟩ := exchangeNow_eq_ok.mp h₁
  obtain ⟨cancelled, s₁, h₁, h⟩ := bind_eq_ok.mp h
  have hsame : SameIndex s s₁ := by
    refine within_gather SameIndex.refl SameIndex.trans (fun orderId _ => ?_) _ _ _ h₁
    refine within_bind SameIndex.trans (fun t o t' ho => ?_) fun order => ?_
    · obtain ⟨-, rfl⟩ := orderAt_eq_ok.mp ho
      exact .refl t
    · exact within_ite (cancel_sameIndex _ _ _ _) (within_pure SameIndex.refl _)
  obtain ⟨hsecurities, hhistory, hdivisor⟩ := hsame
  obtain ⟨_, _, h₁, h⟩ := bind_eq_ok.mp h
  obtain rfl := modifySecurity_eq_ok.mp h₁
  obtain ⟨_, _, h₁, h⟩ := bind_eq_ok.mp h
  obtain ⟨-, rfl⟩ := securityAt_eq_ok.mp h₁
  obtain ⟨_, _, h₁, h⟩ := bind_eq_ok.mp h
  obtain ⟨rfl, rfl⟩ := exchangeNow_eq_ok.mp h₁
  obtain ⟨event, _, h₁, h⟩ := bind_eq_ok.mp h
  obtain ⟨log, rfl⟩ := emit_eq_ok h₁
  obtain ⟨_, _, h₁, h⟩ := bind_eq_ok.mp h
  obtain rfl := modifyExchange_eq_ok.mp h₁
  obtain ⟨-, rfl⟩ := pure_eq_ok.mp h
  refine ⟨_, rfl, hhistory, hdivisor, ?_⟩
  rw [marketCap_constituents, marketCap_constituents]
  show (s₁.exch.securities.modify symbol _).total _ = _
  rw [hsecurities, Dict.total_modify, hsec]
  simp only [Option.elim_some]
  have hout : indexWeight { security with status := .delisted, delistedTick := some tick } = 0 :=
    if_neg fun hx => SecurityStatus.noConfusion hx.1
  rw [hout]
  ring

theorem IndexChange.run_rebased {s s' : Sim} {c : IndexChange} {events : List Event}
    (h : c.run s = .ok events s') : Rebased s.exch s'.exch (c.newCap s.exch) := by
  cases c with
  | list => exact list_rebased h
  | delist => exact delist_rebased h

/-! ## Continuity -/

omit [Uuid5] in
theorem constituents_resetIndexDivisor (y : ExchangeState) :
    constituents (resetIndexDivisor y) = constituents y := by
  obtain ⟨divisor, hd⟩ := resetIndexDivisor_eq y
  rw [hd]
  rfl

omit [Uuid5] in
theorem Rebased.level {x x' : ExchangeState} {cap : Int} (h : Rebased x x' cap) (hcap : 0 < cap) :
    indexLevel x' = twice (10000 * cap) (max 1 (lastRecorded x)) := by
  obtain ⟨y, rfl, hhistory, -, hy⟩ := h
  have hdivisor : (resetIndexDivisor y).indexDivisor
      = some (max 1 (10000 * cap / max 1 (lastRecorded x))) := by
    unfold resetIndexDivisor lastRecorded
    dsimp only
    rw [hy, if_pos hcap, hhistory]
  unfold indexLevel twice
  rw [constituents_resetIndexDivisor, hy, hdivisor, max_eq_right (le_max_left 1 (lastRecorded x))]
  rfl

omit [Uuid5] in
theorem Rebased.law_iff {x x' : ExchangeState} {cap : Int} (h : Rebased x x' cap) (hcap : 0 ≤ cap) :
    IndexLaw x x' ↔ RecordedNear x cap := by
  have hnew : marketCap (constituents x') = cap := by
    obtain ⟨y, rfl, -, -, hy⟩ := h
    rw [constituents_resetIndexDivisor, hy]
  unfold IndexLaw RecordedNear
  rw [hnew]
  rcases hcap.eq_or_lt with hzero | hpos
  · -- nothing is left to price: the level after is zero
    subst hzero
    have hlevel : indexLevel x' = 0 := by
      unfold indexLevel
      rw [hnew]
      simp
    refine ⟨fun _ => .inl rfl, fun _ => ?_⟩
    unfold rounding
    rw [hlevel]
    split_ifs with hsq
    · have hz : indexLevel x = 0 := by nlinarith
      rw [hz]
      simp
    · simp [twice]
  rw [h.level hpos]
  have hn : 0 ≤ 10000 * cap := by omega
  have hw : 1 ≤ max 1 (lastRecorded x) := le_max_left _ _
  have hne : ¬cap = 0 := by omega
  simp only [hne, false_or]
  by_cases hsq : indexLevel x * indexLevel x ≤ cap
  · rw [if_pos hsq]
    unfold rounding
    rw [if_pos hsq]
    refine abs_twice_sub_le_one_iff hw (by omega) (by omega) ?_
    have habs : |indexLevel x| ≤ indexLevel x * indexLevel x := by
      rw [← abs_mul_abs_self (indexLevel x)]
      rcases (abs_nonneg (indexLevel x)).eq_or_lt with hz | hz
      · rw [← hz]
        decide
      · nlinarith
    omega
  · rw [if_neg hsq]
    have hhigh : 0 ≤ indexLevel x + rounding cap (indexLevel x) := by
      have hland := twice_nonneg (w := indexLevel x) hn
      have herr := le_abs_self (twice (10000 * cap) (indexLevel x) - indexLevel x)
      unfold rounding
      rw [if_neg hsq]
      omega
    rw [← le_twice_iff hn hw, ← twice_le_iff hn hw hhigh, abs_le]
    constructor
    · rintro ⟨h₁, h₂⟩
      exact ⟨by omega, by omega⟩
    · rintro ⟨h₁, h₂⟩
      exact ⟨by omega, by omega⟩

/-- **Index continuity**: a listing or a delisting keeps the level up to rounding
exactly when the value recorded last is near the level prices imply. -/
theorem index_continuity {s s' : Sim} (c : IndexChange) {events : List Event}
    (hcap : 0 ≤ c.newCap s.exch) (hrun : c.run s = .ok events s') :
    IndexLaw s.exch s'.exch ↔ RecordedNear s.exch (c.newCap s.exch) :=
  (c.run_rebased hrun).law_iff hcap

end Changes

/-! ### A price that has moved -/

/-- A security of ten thousand cents, the index over it, and a new price. -/
def pricedAt (price : Int) : EngineM Unit := do
  let _ ← listSecurity "S" "fm_s" 1000 10 0 (Dict.ofList [("ag_a", 1000)]) none none
  let _ ← computeIndex 0
  modifySecurity "S" fun r => { r with lastPriceCents := price }

/-- A large security comes beside it. -/
def secondListing : IndexChange :=
  .list "T" "fm_t" 40000000 10 1 (Dict.ofList [("ag_b", 40000000)]) none none

theorem index_continuity_quiet :
    letI : Uuid5 := ⟨fun run name => run ++ name⟩
    ∃ s events s', s.exch.indexDivisor = some 10000 ∧ secondListing.run s = .ok events s' ∧
      indexLevel s.exch = 10000 ∧ IndexLaw s.exch s'.exch := by
  let _ : Uuid5 := ⟨fun run name => run ++ name⟩
  have hbefore : outcome (pricedAt 10 emptySim) (fun s =>
      decide (s.exch.indexDivisor = some 10000 ∧ indexLevel s.exch = 10000 ∧
        0 ≤ secondListing.newCap s.exch ∧ RecordedNear s.exch (secondListing.newCap s.exch)) &&
      (outcome (secondListing.run s) fun _ => true) = some true) = some true := by decide +kernel
  obtain ⟨_, s, -, hboth⟩ := outcome_eq_some hbefore
  obtain ⟨hstate, hlisted⟩ := Bool.and_eq_true_iff.mp hboth
  obtain ⟨hdivisor, hlevel, hcap, hnear⟩ := of_decide_eq_true hstate
  obtain ⟨events, s', hrun, -⟩ := outcome_eq_some (of_decide_eq_true hlisted)
  exact ⟨s, events, s', hdivisor, hrun, hlevel,
    (index_continuity secondListing hcap hrun).mpr hnear⟩

/-- After the price has doubled, the listing throws the level back to the value
recorded before. -/
theorem index_jumps :
    letI : Uuid5 := ⟨fun run name => run ++ name⟩
    ∃ s events s', s.exch.indexDivisor = some 10000 ∧ secondListing.run s = .ok events s' ∧
      indexLevel s.exch = 20000 ∧ indexLevel s'.exch = 10000 ∧
      20000 * 20000 ≤ marketCap (constituents s'.exch) ∧ ¬IndexLaw s.exch s'.exch := by
  let _ : Uuid5 := ⟨fun run name => run ++ name⟩
  have hbefore : outcome (pricedAt 20 emptySim) (fun s =>
      decide (s.exch.indexDivisor = some 10000 ∧ indexLevel s.exch = 20000) &&
      (outcome (secondListing.run s) fun s' => decide (indexLevel s'.exch = 10000 ∧
        20000 * 20000 ≤ marketCap (constituents s'.exch))) = some true) = some true := by
    decide +kernel
  obtain ⟨_, s, -, hboth⟩ := outcome_eq_some hbefore
  obtain ⟨hstate, hlisted⟩ := Bool.and_eq_true_iff.mp hboth
  obtain ⟨hdivisor, hlevel⟩ := of_decide_eq_true hstate
  obtain ⟨events, s', hrun, hend⟩ := outcome_eq_some (of_decide_eq_true hlisted)
  obtain ⟨hlevel', hcap⟩ := of_decide_eq_true hend
  refine ⟨s, events, s', hdivisor, hrun, hlevel, hlevel', hcap, fun hlaw => ?_⟩
  unfold IndexLaw rounding at hlaw
  rw [hlevel, hlevel', if_pos hcap] at hlaw
  exact absurd hlaw (by decide)

end Polis.Economy.Exchange
