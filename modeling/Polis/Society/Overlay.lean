/-
  Polis.Society.Overlay — the tick-indexed runtime overlay
  (`config/runtime.py`).

  Enacted values are kept by parameter, sorted by the tick they take effect
  and the sequence number of the event that enacted them; a parameter without
  an effective enactment has its configured value.

  Main results:
    * `get_spec` — what the overlay returns: the value of the effective
      enactment that is last in that order, or the configured value.
    * `get_record_of_lt` — an enactment does not show before it takes effect.
    * `enact_eq_ok` — everything a call of `enact` can do when it returns.
-/
import Polis.Lib.Dict
import Polis.Base
import Mathlib.Data.List.MinMax
import Mathlib.Data.Prod.Lex

namespace Polis.Society

open Lib

/-- The order of `ℤ` that evaluates. -/
abbrev intOrder : Preorder ℤ := Int.instLinearOrder.toPreorder

attribute [local instance] intOrder

/-- `Enactment`. -/
structure Enactment where
  parameter : String
  value : Value
  enactedTick : Int
  effectiveTick : Int
  policyId : UUID
  eventSeq : Int

/-- The order of enactments: effective tick, then event sequence number. -/
def Enactment.order (e : Enactment) : Int ×ₗ Int := toLex (e.effectiveTick, e.eventSeq)

/-- The settings an overlay is built over: the policy keys, and what an
attribute path of the settings leads to. -/
structure Base where
  policyKeys : List String
  resolve : String → Option Value

/-- Enactments in the order the overlay keeps them in. -/
def InOrder (es : List Enactment) : Prop := es.Pairwise fun a b => a.order ≤ b.order

/-- `list.sort` by effective tick and event sequence number: a stable sort. -/
def sortEnactments (es : List Enactment) : List Enactment :=
  es.insertionSort fun a b => a.order ≤ b.order

theorem sortEnactments_inOrder (es : List Enactment) : InOrder (sortEnactments es) := by
  have htot : Std.Total fun a b : Enactment => a.order ≤ b.order :=
    ⟨fun a b => le_total a.order b.order⟩
  have htrans : IsTrans Enactment fun a b => a.order ≤ b.order :=
    ⟨fun _ _ _ h h' => le_trans h h'⟩
  exact List.pairwise_insertionSort _ es

@[simp] theorem mem_sortEnactments {e : Enactment} {es : List Enactment} :
    e ∈ sortEnactments es ↔ e ∈ es := List.mem_insertionSort _

theorem filter_sortEnactments {es : List Enactment} {e : Enactment} (hs : InOrder es)
    {p : Enactment → Bool} (he : p e = false) :
    (sortEnactments (es ++ [e])).filter p = es.filter p := by
  have hsub : (es.filter p).Sublist (sortEnactments (es ++ [e])) := by
    apply List.sublist_insertionSort (hs.filter p)
    exact List.filter_sublist.trans (List.sublist_append_left es [e])
  have hfilter : (es.filter p).Sublist ((sortEnactments (es ++ [e])).filter p) := by
    have h := hsub.filter p
    rwa [List.filter_filter, List.filter_congr (q := p) (by simp)] at h
  refine (hfilter.eq_of_length ?_).symm
  have hperm : (sortEnactments (es ++ [e])).Perm (es ++ [e]) := List.perm_insertionSort _ _
  rw [(hperm.filter p).length_eq]
  simp [he]

/-- `int(value)` of the values a numeric parameter can have. -/
def pyInt : Value → Except PyError Int
  | .int n => .ok n
  | .bool b => .ok (if b then 1 else 0)
  | _ => .error (.value "int() argument must be a number")

theorem noHistory_inOrder (parameter : String) :
    InOrder ((∅ : Dict String (List Enactment)).getD parameter []) := List.Pairwise.nil

/-- The mutable part of a `RuntimeConfig`: what `enact` keeps sorted. -/
structure RuntimeConfig where
  history : Dict String (List Enactment) := ∅
  sorted : ∀ parameter, InOrder (history.getD parameter []) := by
    exact noHistory_inOrder

namespace RuntimeConfig

/-- The enactments of one parameter. -/
def of (r : RuntimeConfig) (parameter : String) : List Enactment := r.history.getD parameter []

/-- The enactments of one parameter that are in effect at a tick. -/
def candidates (r : RuntimeConfig) (parameter : String) (tick : Int) : List Enactment :=
  (r.of parameter).filter fun e => e.effectiveTick ≤ tick

/-- `_static`. -/
def static (base : Base) (parameter : String) : Except PyError Value :=
  match base.resolve parameter with
  | some v => .ok v
  | none => .error (.runtime ("unknown runtime parameter: " ++ parameter))

/-- `get`: `max` keeps the first of equals. -/
def get (base : Base) (r : RuntimeConfig) (parameter : String) (tick : Int) :
    Except PyError Value :=
  match (r.candidates parameter tick).argmax Enactment.order with
  | none => static base parameter
  | some e => .ok e.value

/-- The history with one more enactment, sorted. -/
def record (r : RuntimeConfig) (e : Enactment) : RuntimeConfig where
  history := r.history.put e.parameter (sortEnactments (r.of e.parameter ++ [e]))
  sorted := by
    intro parameter
    unfold Dict.getD
    rw [Dict.get?_put]
    by_cases h : parameter = e.parameter
    · rw [if_pos h]
      exact sortEnactments_inOrder _
    · rw [if_neg h]
      exact r.sorted parameter

/-- `enact`. -/
def enact (base : Base) (r : RuntimeConfig) (e : Enactment) : Except PyError RuntimeConfig :=
  match static base e.parameter with
  | .error err => .error err
  | .ok _ =>
    if e.effectiveTick ≤ e.enactedTick then
      .error (.runtime ("effective_tick " ++ toString e.effectiveTick
        ++ " must be after enacted_tick " ++ toString e.enactedTick))
    else .ok (r.record e)

/-- The keys of a snapshot, sorted. -/
def snapshotKeys (base : Base) (r : RuntimeConfig) : List String :=
  (base.policyKeys ++ r.history.keys).dedup.insertionSort (· ≤ ·)

/-- `snapshot`, which `as_of` returns. -/
def asOf (base : Base) (r : RuntimeConfig) (tick : Int) : Except PyError (Dict String Value) := do
  let rows ← (r.snapshotKeys base).mapM fun key => do pure (key, ← r.get base key tick)
  pure (Dict.ofList rows)

/-- `flag`. -/
def flag (base : Base) (r : RuntimeConfig) (key : String) (tick : Int) : Except PyError Bool :=
  match r.get base key tick with
  | .error e => .error e
  | .ok (.bool b) => .ok b
  | .ok _ => .error (.runtime (key ++ " is not a boolean flag"))

/-- `int(get(...))` of a numeric parameter. -/
def number (base : Base) (r : RuntimeConfig) (key : String) (tick : Int) : Except PyError Int :=
  match r.get base key tick with
  | .error e => .error e
  | .ok v => pyInt v

/-! ## What the overlay returns -/

section Facts

variable {base : Base} {r : RuntimeConfig} {parameter : String} {tick : Int} {e : Enactment}

theorem mem_candidates :
    e ∈ r.candidates parameter tick ↔ e ∈ r.of parameter ∧ e.effectiveTick ≤ tick := by
  simp [candidates]

/-- The enactment in force at a tick: effective, and last in the order. -/
structure InForce (r : RuntimeConfig) (parameter : String) (tick : Int) (e : Enactment) :
    Prop where
  mem : e ∈ r.of parameter
  effective : e.effectiveTick ≤ tick
  last : ∀ e' ∈ r.of parameter, e'.effectiveTick ≤ tick → e'.order ≤ e.order

theorem get_spec (base : Base) (r : RuntimeConfig) (parameter : String) (tick : Int) :
    (∃ e, r.InForce parameter tick e ∧ r.get base parameter tick = .ok e.value) ∨
    ((∀ e ∈ r.of parameter, tick < e.effectiveTick) ∧
      r.get base parameter tick = static base parameter) := by
  unfold get
  cases h : (r.candidates parameter tick).argmax Enactment.order with
  | none =>
    right
    have hnil : r.candidates parameter tick = [] := List.argmax_eq_none.mp h
    refine ⟨?_, rfl⟩
    intro e he
    by_contra hlt
    have hmem := mem_candidates.mpr ⟨he, not_lt.mp hlt⟩
    rw [hnil] at hmem
    cases hmem
  | some e =>
    left
    have hmem := mem_candidates.mp (List.argmax_mem h)
    refine ⟨e, ⟨hmem.1, hmem.2, ?_⟩, rfl⟩
    intro e' he' heff
    exact List.le_of_mem_argmax (mem_candidates.mpr ⟨he', heff⟩) h

theorem of_record (r : RuntimeConfig) (e : Enactment) (parameter : String) :
    (r.record e).of parameter =
      if parameter = e.parameter then sortEnactments (r.of e.parameter ++ [e])
      else r.of parameter := by
  unfold record of Dict.getD
  rw [Dict.get?_put]
  by_cases h : parameter = e.parameter
  · simp [h]
  · simp [h]

theorem mem_of_record {e' : Enactment} : e' ∈ (r.record e).of parameter ↔
    e' ∈ r.of parameter ∨ (parameter = e.parameter ∧ e' = e) := by
  rw [of_record]
  by_cases h : parameter = e.parameter
  · subst h
    simp
  · simp [h]

theorem get_record_of_lt (base : Base)
    (h : parameter = e.parameter → tick < e.effectiveTick) :
    (r.record e).get base parameter tick = r.get base parameter tick := by
  have hc : (r.record e).candidates parameter tick = r.candidates parameter tick := by
    unfold candidates
    rw [of_record]
    by_cases hp : parameter = e.parameter
    · have hlt := h hp
      subst hp
      rw [if_pos rfl]
      exact filter_sortEnactments (r.sorted _) (by simpa using hlt)
    · rw [if_neg hp]
  unfold get
  rw [hc]

theorem enact_eq_ok {r' : RuntimeConfig} : r.enact base e = .ok r' ↔
    (∃ v, static base e.parameter = .ok v) ∧ e.enactedTick < e.effectiveTick ∧
      r' = r.record e := by
  unfold enact
  cases hs : static base e.parameter with
  | error err => simp
  | ok v =>
    by_cases h : e.effectiveTick ≤ e.enactedTick
    · simp only [if_pos h, reduceCtorEq, false_iff, not_and]
      omega
    · simp only [if_neg h, Except.ok.injEq]
      constructor
      · intro hr
        exact ⟨⟨v, rfl⟩, by omega, hr.symm⟩
      · rintro ⟨-, -, hr⟩
        exact hr.symm

end Facts

end RuntimeConfig

end Polis.Society
