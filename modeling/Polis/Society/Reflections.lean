/-
  Polis.Society.Reflections — the belief updates of one reply
  (`apply_llm_belief_updates` in `society/beliefs.py`).

  The step gate measures every update against the belief it finds.  An update
  moves a belief by at most `max_step`; the updates of one reply that name the
  same proposition move it by more where their steps add up.

  Main results:
    * `reflect_value` — the value one reply leaves, update by update.
    * `carried_le_iff` — from which values updates end at a limit or below it.
    * `edits_bounded_iff` — a reply is bounded exactly when its steps fit.
    * `fits_of_named_once` — the steps fit where no proposition is named twice.
-/
import Polis.Society.BeliefRanges
import Polis.Lib.StableSort

namespace Polis.Society

open Lib Lib.Effect Polis.Events

/-! ## Clipped distances -/

theorem clamp_cases {lo hi : ℚ} (h : lo ≤ hi) (x : ℚ) :
    (x < lo ∧ clamp lo hi x = lo) ∨ (lo ≤ x ∧ x ≤ hi ∧ clamp lo hi x = x) ∨
      (hi < x ∧ clamp lo hi x = hi) := by
  unfold clamp
  rcases lt_or_ge x lo with hlo | hlo
  · exact Or.inl ⟨hlo, by rw [min_eq_right (hlo.le.trans h), max_eq_left hlo.le]⟩
  · rcases le_or_gt x hi with hhi | hhi
    · exact Or.inr (Or.inl ⟨hlo, hhi, by rw [min_eq_right hhi, max_eq_right hlo]⟩)
    · exact Or.inr (Or.inr ⟨hhi, by rw [min_eq_left hhi.le, max_eq_right h]⟩)

theorem clamp_neg {r : ℚ} (hr : 0 ≤ r) (x : ℚ) : clamp (-r) r (-x) = -clamp (-r) r x := by
  rcases clamp_cases (by linarith : -r ≤ r) x with ⟨h, hx⟩ | ⟨h, h', hx⟩ | ⟨h, hx⟩ <;>
  rcases clamp_cases (by linarith : -r ≤ r) (-x) with ⟨k, hy⟩ | ⟨k, k', hy⟩ | ⟨k, hy⟩ <;>
  rw [hx, hy] <;> linarith

theorem abs_clamp {r : ℚ} (hr : 0 ≤ r) (x : ℚ) : |clamp (-r) r x| = min |x| r := by
  rcases clamp_cases (by linarith : -r ≤ r) x with ⟨h, hx⟩ | ⟨h, h', hx⟩ | ⟨h, hx⟩
  · rw [hx, abs_neg, abs_of_nonneg hr, abs_of_neg (by linarith), min_eq_right (by linarith)]
  · rw [hx, min_eq_left (abs_le.mpr ⟨h, h'⟩)]
  · rw [hx, abs_of_nonneg hr, abs_of_pos (by linarith), min_eq_right h.le]

theorem step_le_iff {r : ℚ} (hr : 0 ≤ r) (value target limit : ℚ) :
    value + clamp (-r) r (target - value) ≤ limit ↔
      value ≤ if target ≤ limit then limit + r else limit - r := by
  split
  · rcases clamp_cases (by linarith : -r ≤ r) (target - value) with
      ⟨h, hx⟩ | ⟨h, h', hx⟩ | ⟨h, hx⟩ <;>
    rw [hx] <;> constructor <;> intro <;> linarith
  · rcases clamp_cases (by linarith : -r ≤ r) (target - value) with
      ⟨h, hx⟩ | ⟨h, h', hx⟩ | ⟨h, hx⟩ <;>
    rw [hx] <;> constructor <;> intro <;> linarith

theorem half_step_le_iff {r : ℚ} (hr : 0 ≤ r) (value target limit : ℚ) :
    value + 1 / 2 * clamp (-r) r (target - value) ≤ limit ↔
      value ≤ limit + clamp (-(r / 2)) (r / 2) (limit - target) := by
  rcases clamp_cases (by linarith : -r ≤ r) (target - value) with ⟨h, hx⟩ | ⟨h, h', hx⟩ | ⟨h, hx⟩ <;>
  rcases clamp_cases (by linarith : -(r / 2) ≤ r / 2) (limit - target) with
    ⟨k, hy⟩ | ⟨k, k', hy⟩ | ⟨k, hy⟩ <;>
  rw [hx, hy] <;> constructor <;> intro <;> linarith

namespace BeliefEngine

variable (E : BeliefEngine)

/-! ## Values -/

/-- The updates of a reply that are applied, as listed. -/
def accepted (updates : List BeliefUpdate) : List BeliefUpdate :=
  (E.screened updates).take E.cfg.maxBeliefUpdatesPerCall

/-- Those of one proposition. -/
def acceptedOf (updates : List BeliefUpdate) (proposition : String) : List BeliefUpdate :=
  (E.accepted updates).filter fun u => u.proposition = proposition

/-- The value one update leaves. -/
def revisedValue (value : ℚ) (update : BeliefUpdate) : ℚ :=
  if selfServing update then value + 1 / 2 * (E.stepped value update.value - value)
  else E.stepped value update.value

/-- The value updates leave, one after the other. -/
def carried (value : ℚ) (updates : List BeliefUpdate) : ℚ := updates.foldl E.revisedValue value

/-- By how much an update may change a value over the whole call: a step, or
half of its clamped step where it serves itself. -/
def allowance (value : ℚ) (update : BeliefUpdate) : ℚ :=
  if selfServing update then 1 / 2 * min |update.value - value| E.cfg.maxStep else E.cfg.maxStep

/-- The highest value from which updates end at a limit or below it, found
from the last update back: an update above what is reached costs a step, one
below it leaves a step of room. -/
def roomAbove : List BeliefUpdate → ℚ → ℚ
  | [], limit => limit
  | update :: rest, limit =>
    let after := roomAbove rest limit
    if selfServing update then
      after + clamp (-(E.cfg.maxStep / 2)) (E.cfg.maxStep / 2) (after - update.value)
    else if update.value ≤ after then after + E.cfg.maxStep
    else after - E.cfg.maxStep

/-- An update to the opposite value. -/
def mirrored (update : BeliefUpdate) : BeliefUpdate := { update with value := -update.value }

/-- The lowest value from which updates end at a limit or above it. -/
def roomBelow (updates : List BeliefUpdate) (limit : ℚ) : ℚ :=
  -E.roomAbove (updates.map mirrored) (-limit)

/-- The steps of a reply fit: the value that is held leaves room for what the
accepted updates of each proposition come to. -/
def Fits (beliefs : Beliefs) (agentId : String) (updates : List BeliefUpdate) : Prop :=
  ∀ u ∈ E.accepted updates, ∀ value, beliefValue beliefs agentId u.proposition = .ok value →
    value ≤ E.roomAbove (E.acceptedOf updates u.proposition) (value + E.allowance value u) ∧
    E.roomBelow (E.acceptedOf updates u.proposition) (value - E.allowance value u) ≤ value

variable {E}

theorem revised_value (current : Belief) (update : BeliefUpdate) :
    (E.revised current update).1 = E.revisedValue current.value update := by
  unfold revised revisedValue
  dsimp only
  split <;> rfl

theorem stepped_eq (hcfg : E.cfg.Checked) (value target : ℚ) :
    E.stepped value target = value + clamp (-E.cfg.maxStep) E.cfg.maxStep (target - value) := by
  have hstep := hcfg.maxStep
  unfold stepped clamp signOf
  split
  · rename_i hlong
    rcases lt_or_ge (target - value) 0 with h | h
    · rw [abs_of_neg h] at hlong
      rw [if_pos h, min_eq_right (by linarith), max_eq_left (by linarith)]
      ring
    · rw [abs_of_nonneg h] at hlong
      rw [if_neg (by linarith), min_eq_left (by linarith), max_eq_right (by linarith)]
      ring
  · rename_i hshort
    obtain ⟨h₀, h₁⟩ := abs_le.mp (not_lt.mp hshort)
    rw [min_eq_right h₁, max_eq_right h₀]
    ring

theorem revisedValue_le_iff (hcfg : E.cfg.Checked) (value limit : ℚ) (update : BeliefUpdate) :
    E.revisedValue value update ≤ limit ↔ value ≤ E.roomAbove [update] limit := by
  unfold revisedValue roomAbove roomAbove
  rw [stepped_eq hcfg]
  dsimp only
  split
  · rw [add_sub_cancel_left]
    exact half_step_le_iff hcfg.maxStep value update.value limit
  · exact step_le_iff hcfg.maxStep value update.value limit

theorem carried_le_iff (hcfg : E.cfg.Checked) (updates : List BeliefUpdate) (value limit : ℚ) :
    E.carried value updates ≤ limit ↔ value ≤ E.roomAbove updates limit := by
  induction updates generalizing value with
  | nil => exact Iff.rfl
  | cons update rest ih =>
    calc E.carried value (update :: rest) ≤ limit
        ↔ E.carried (E.revisedValue value update) rest ≤ limit := Iff.rfl
      _ ↔ E.revisedValue value update ≤ E.roomAbove rest limit := ih _
      _ ↔ value ≤ E.roomAbove [update] (E.roomAbove rest limit) := revisedValue_le_iff hcfg _ _ _
      _ ↔ value ≤ E.roomAbove (update :: rest) limit := Iff.rfl

theorem revisedValue_mirrored (hcfg : E.cfg.Checked) (value : ℚ) (update : BeliefUpdate) :
    E.revisedValue (-value) (mirrored update) = -E.revisedValue value update := by
  have hclamp : clamp (-E.cfg.maxStep) E.cfg.maxStep (-update.value - -value)
      = -clamp (-E.cfg.maxStep) E.cfg.maxStep (update.value - value) := by
    have hodd : -update.value - -value = -(update.value - value) := by ring
    rw [hodd]
    exact clamp_neg hcfg.maxStep _
  have hserves : selfServing (mirrored update) = selfServing update := rfl
  unfold revisedValue
  rw [hserves, stepped_eq hcfg, stepped_eq hcfg]
  show (if _ then -value + 1 / 2 * (-value + clamp _ _ (-update.value - -value) - -value)
    else -value + clamp _ _ (-update.value - -value)) = _
  rw [hclamp]
  split
  · ring
  · ring

theorem carried_mirrored (hcfg : E.cfg.Checked) (updates : List BeliefUpdate) (value : ℚ) :
    E.carried (-value) (updates.map mirrored) = -E.carried value updates := by
  induction updates generalizing value with
  | nil => rfl
  | cons update rest ih =>
    show E.carried (E.revisedValue (-value) (mirrored update)) (rest.map mirrored) = _
    rw [revisedValue_mirrored hcfg]
    exact ih _

theorem le_carried_iff (hcfg : E.cfg.Checked) (updates : List BeliefUpdate) (value limit : ℚ) :
    limit ≤ E.carried value updates ↔ E.roomBelow updates limit ≤ value := by
  unfold roomBelow
  rw [neg_le, ← carried_le_iff hcfg, carried_mirrored hcfg, neg_le_neg_iff]

/-! ## One update of a proposition -/

theorem revisedValue_allowed (hcfg : E.cfg.Checked) (value : ℚ) (update : BeliefUpdate) :
    |E.revisedValue value update - value| ≤ E.allowance value update := by
  have hstep := hcfg.maxStep
  have habs : |clamp (-E.cfg.maxStep) E.cfg.maxStep (update.value - value)|
      = min |update.value - value| E.cfg.maxStep := abs_clamp hstep _
  unfold revisedValue allowance
  rw [stepped_eq hcfg]
  split
  · rw [add_sub_cancel_left, add_sub_cancel_left, abs_mul, habs, abs_of_pos (by norm_num)]
  · rw [add_sub_cancel_left, habs]
    exact min_le_right _ _

/-! ## The values a reply leaves -/

section Reply

variable [FloatValue] [CanonicalJson Value] [Events.Sha256] [PayloadSchemas Value]
  {s s' : BeliefState} {agentId : String} {tick : Int} {llmCallId : Option String}
  {es : List (Events.Event Value)}

theorem applyUpdate_value {update : BeliefUpdate}
    (h : E.applyUpdate agentId tick llmCallId update s = .ok es s') {proposition : String} {value : ℚ}
    (hv : beliefValue s.beliefs agentId proposition = .ok value) :
    beliefValue s'.beliefs agentId proposition
      = .ok (if update.proposition = proposition then E.revisedValue value update else value) := by
  obtain ⟨spec, current, ref, log, hc, rfl⟩ := applyUpdate_ok h
  obtain ⟨⟨spec', current'⟩, hc', hv⟩ := except_bind_eq_ok.mp hv
  cases hv
  by_cases heq : update.proposition = proposition
  · subst heq
    rw [hc] at hc'
    cases hc'
    rw [if_pos rfl, ← revised_value]
    exact beliefValue_of_ok (currentBelief_put (currentBelief_ok hc).1 _)
  · rw [if_neg heq]
    refine beliefValue_of_ok (c := (spec', current')) ?_
    rw [← hc']
    -- another proposition is stored under another key
    have hkey : (agentId, proposition) ≠ (agentId, update.proposition) := fun hk =>
      heq (congrArg Prod.snd hk).symm
    show currentBelief (s.beliefs.put (agentId, update.proposition) _) agentId proposition = _
    unfold currentBelief
    rw [Dict.get?_put, if_neg hkey]

theorem updates_value {updates : List BeliefUpdate}
    (h : gather (E.applyUpdate agentId tick llmCallId) updates s = .ok es s') {proposition : String}
    {value : ℚ} (hv : beliefValue s.beliefs agentId proposition = .ok value) :
    beliefValue s'.beliefs agentId proposition
      = .ok (E.carried value (updates.filter fun u => u.proposition = proposition)) := by
  induction updates generalizing s value es with
  | nil =>
    obtain ⟨-, rfl⟩ := pure_eq_ok.mp h
    exact hv
  | cons update rest ih =>
    obtain ⟨here, t, later, h₁, h₂, -⟩ := gather_cons_eq_ok.mp h
    rw [ih h₂ (applyUpdate_value h₁ hv), List.filter_cons]
    by_cases heq : update.proposition = proposition
    · rw [if_pos heq, if_pos (by simpa using heq)]
      rfl
    · rw [if_neg heq, if_neg (by simpa using heq)]

theorem updates_other {updates : List BeliefUpdate}
    (h : gather (E.applyUpdate agentId tick llmCallId) updates s = .ok es s') {key : String × String}
    (hkey : ∀ u ∈ updates, key ≠ (agentId, u.proposition)) :
    s'.beliefs.get? key = s.beliefs.get? key := by
  induction updates generalizing s es with
  | nil =>
    obtain ⟨-, rfl⟩ := pure_eq_ok.mp h
    rfl
  | cons update rest ih =>
    obtain ⟨here, t, later, h₁, h₂, -⟩ := gather_cons_eq_ok.mp h
    rw [ih h₂ fun u hu => hkey u (List.mem_cons_of_mem _ hu)]
    obtain ⟨spec, current, ref, log, -, rfl⟩ := applyUpdate_ok h₁
    show (s.beliefs.put _ _).get? key = _
    rw [Dict.get?_put, if_neg (hkey update List.mem_cons_self)]

omit [FloatValue] [CanonicalJson Value] [Events.Sha256] [PayloadSchemas Value] in
theorem gather_beliefs {α : Type} {f : α → BeliefM (List (Events.Event Value))} {xs : List α}
    (hf : ∀ x s es s', f x s = .ok es s' → ∃ log, s' = s.withLog log)
    (h : gather f xs s = .ok es s') : s'.beliefs = s.beliefs := by
  have hstays : Within (fun s s' : BeliefState => s'.beliefs = s.beliefs) (gather f xs) := by
    refine within_gather (R := fun s s' : BeliefState => s'.beliefs = s.beliefs) (fun _ => rfl)
      (fun _ _ _ h h' => h'.trans h) fun x _ t a t' ht => ?_
    obtain ⟨log, rfl⟩ := hf x t a t' ht
    rfl
  exact hstays _ _ _ h

theorem reflect_ok {updates : List BeliefUpdate}
    (h : E.applyLlmBeliefUpdates agentId tick updates llmCallId s = .ok es s') :
    ∃ t first surplus applied, t.beliefs = s.beliefs ∧ es = first ++ surplus ++ applied ∧
      (∃ s₁, gather (E.screen agentId tick llmCallId) updates s = .ok first s₁ ∧
        gather (fun u => E.reject agentId u "count" tick llmCallId)
          ((E.screened updates).drop E.cfg.maxBeliefUpdatesPerCall) s₁ = .ok surplus t) ∧
      gather (E.applyUpdate agentId tick llmCallId)
        (StableSort.sortByKey BeliefUpdate.proposition (E.accepted updates)) t
          = .ok applied s' := by
  unfold applyLlmBeliefUpdates at h
  obtain ⟨first, s₁, h₁, h⟩ := bind_eq_ok.mp h
  obtain ⟨surplus, t, h₂, h⟩ := bind_eq_ok.mp h
  obtain ⟨applied, s₃, h₃, h⟩ := bind_eq_ok.mp h
  obtain ⟨rfl, rfl⟩ := pure_eq_ok.mp h
  have hfirst := gather_beliefs (fun _ _ _ _ => screen_ok) h₁
  have hsurplus := gather_beliefs (fun _ _ _ _ => reject_ok) h₂
  exact ⟨t, first, surplus, applied, hsurplus.trans hfirst, rfl, ⟨s₁, h₁, h₂⟩, h₃⟩

omit [FloatValue] [CanonicalJson Value] [Events.Sha256] [PayloadSchemas Value] in
theorem sorted_of (updates : List BeliefUpdate) (proposition : String) :
    (StableSort.sortByKey BeliefUpdate.proposition updates).filter (fun u => u.proposition = proposition)
      = updates.filter fun u => u.proposition = proposition := by
  rw [StableSort.filter_insertionSort]
  refine List.Pairwise.insertionSort_eq (List.pairwise_of_forall_mem_list fun a ha b hb => ?_)
  have ha : a.proposition = proposition := of_decide_eq_true (List.mem_filter.mp ha).2
  have hb : b.proposition = proposition := of_decide_eq_true (List.mem_filter.mp hb).2
  show a.proposition ≤ b.proposition
  rw [ha, hb]

theorem reflect_value {updates : List BeliefUpdate}
    (h : E.applyLlmBeliefUpdates agentId tick updates llmCallId s = .ok es s')
    {proposition : String} {value : ℚ}
    (hv : beliefValue s.beliefs agentId proposition = .ok value) :
    beliefValue s'.beliefs agentId proposition
      = .ok (E.carried value (E.acceptedOf updates proposition)) := by
  obtain ⟨t, first, surplus, applied, ht, -, -, hrun⟩ := reflect_ok h
  rw [← ht] at hv
  rw [updates_value hrun hv, sorted_of]
  rfl

/-! ## What a reply raises and stages -/

omit [FloatValue] [CanonicalJson Value] [Events.Sha256] [PayloadSchemas Value] in
theorem countP_gather {α : Type} {f : α → BeliefM (List (Events.Event Value))} {n : Nat}
    {xs : List α} (hf : ∀ x ∈ xs, ∀ s es s', f x s = .ok es s' →
      es.countP (fun e => e.kind = BELIEF_UPDATED) = n)
    (h : gather f xs s = .ok es s') :
    es.countP (fun e => e.kind = BELIEF_UPDATED) = n * xs.length := by
  induction xs generalizing s es with
  | nil =>
    obtain ⟨rfl, -⟩ := pure_eq_ok.mp h
    rfl
  | cons x xs ih =>
    obtain ⟨here, t, later, h₁, h₂, rfl⟩ := gather_cons_eq_ok.mp h
    have hhere := hf x List.mem_cons_self s here t h₁
    have hlater := ih (fun y hy => hf y (List.mem_cons_of_mem _ hy)) h₂
    rw [List.countP_append, hhere, hlater, List.length_cons]
    ring

theorem countP_reject {update : BeliefUpdate} {gate : String}
    (h : E.reject agentId update gate tick llmCallId s = .ok es s') :
    es.countP (fun e => e.kind = BELIEF_UPDATED) = 0 := by
  unfold reject at h
  obtain ⟨event, s₁, h₁, h⟩ := bind_eq_ok.mp h
  obtain ⟨rfl, rfl⟩ := pure_eq_ok.mp h
  obtain ⟨log, hlog, -⟩ := zoom_eq_ok.mp h₁
  have hkind : event.kind = BELIEF_UPDATE_REJECTED := (emit_became hlog).1
  rw [List.countP_singleton, hkind]
  rfl

theorem countP_onlyIf_reject {c : Prop} [Decidable c] {update : BeliefUpdate} {gate : String}
    (h : onlyIf c (E.reject agentId update gate tick llmCallId) s = .ok es s') :
    es.countP (fun e => e.kind = BELIEF_UPDATED) = 0 := by
  rcases onlyIf_eq_ok.mp h with ⟨-, h⟩ | ⟨-, rfl, -⟩
  · exact countP_reject h
  · rfl

theorem countP_screen {update : BeliefUpdate}
    (h : E.screen agentId tick llmCallId update s = .ok es s') :
    es.countP (fun e => e.kind = BELIEF_UPDATED) = 0 := by
  unfold screen at h
  cases hspec : (resolveProposition E.entityExists update.proposition).bind propositionSpec with
  | none =>
    rw [hspec] at h
    exact countP_reject h
  | some spec =>
    rw [hspec] at h
    dsimp only at h
    obtain ⟨value, s₁, h₁, h⟩ := bind_eq_ok.mp h
    obtain ⟨confidence, s₂, h₂, h⟩ := bind_eq_ok.mp h
    obtain ⟨rfl, rfl⟩ := pure_eq_ok.mp h
    rw [List.countP_append, countP_onlyIf_reject h₁, countP_onlyIf_reject h₂]

theorem countP_applyUpdate {update : BeliefUpdate}
    (h : E.applyUpdate agentId tick llmCallId update s = .ok es s') :
    es.countP (fun e => e.kind = BELIEF_UPDATED) = 1 := by
  unfold applyUpdate at h
  rw [get_bind] at h
  obtain ⟨⟨spec, current⟩, s₁, -, h⟩ := bind_eq_ok.mp h
  dsimp only at h
  obtain ⟨step, s₂, h₂, h⟩ := bind_eq_ok.mp h
  obtain ⟨serving, s₃, h₃, h⟩ := bind_eq_ok.mp h
  obtain ⟨_, s₄, -, h⟩ := bind_eq_ok.mp h
  obtain ⟨event, s₅, h₅, h⟩ := bind_eq_ok.mp h
  obtain ⟨rfl, rfl⟩ := pure_eq_ok.mp h
  obtain ⟨log, hlog, -⟩ := zoom_eq_ok.mp h₅
  have hkind : event.kind = BELIEF_UPDATED := (emit_became hlog).1
  rw [List.countP_append, List.countP_append, countP_onlyIf_reject h₂, countP_onlyIf_reject h₃,
    List.countP_singleton, hkind]
  rfl

theorem reflect_applied {updates : List BeliefUpdate}
    (h : E.applyLlmBeliefUpdates agentId tick updates llmCallId s = .ok es s') :
    es.countP (fun e => e.kind = BELIEF_UPDATED) = (E.accepted updates).length := by
  obtain ⟨t, first, surplus, applied, -, rfl, ⟨s₁, hscreen, hsurplus⟩, hrun⟩ := reflect_ok h
  have hlength : (StableSort.sortByKey BeliefUpdate.proposition (E.accepted updates)).length
      = (E.accepted updates).length := List.length_insertionSort _ _
  rw [List.countP_append, List.countP_append,
    countP_gather (fun _ _ _ _ _ => countP_screen) hscreen,
    countP_gather (fun _ _ _ _ _ => countP_reject) hsurplus,
    countP_gather (fun _ _ _ _ _ => countP_applyUpdate) hrun, hlength]
  ring

/-- An error of the event log. -/
def OfLog (e : Fault) : Prop := ∃ f, e = .log f

omit [FloatValue] in
theorem raises_emit (d : Draft) : Raises OfLog (E.emit d tick) := by
  refine raises_zoom fun log e log' h => ?_
  rcases emit_cases E.journal d tick log with ⟨f, log'', hf, -⟩ | ⟨event, log'', hf, -⟩
  · rw [hf] at h
    cases h
    exact ⟨f, rfl⟩
  · rw [hf] at h
    cases h

theorem raises_reject {update : BeliefUpdate} {gate : String} :
    Raises OfLog (E.reject agentId update gate tick llmCallId) :=
  raises_bind (raises_emit _) fun _ => raises_pure _ _

theorem raises_onlyIf_reject {c : Prop} [Decidable c] {update : BeliefUpdate} {gate : String} :
    Raises OfLog (onlyIf c (E.reject agentId update gate tick llmCallId)) :=
  raises_ite raises_reject (raises_pure _ _)

theorem raises_reflect (updates : List BeliefUpdate) :
    Raises OfLog (E.applyLlmBeliefUpdates agentId tick updates llmCallId) := by
  refine raises_bind (raises_gather fun update _ => ?_) fun first => ?_
  · unfold screen
    split
    · exact raises_reject
    · exact raises_bind raises_onlyIf_reject fun _ =>
        raises_bind raises_onlyIf_reject fun _ => raises_pure _ _
  refine raises_bind (raises_gather fun update _ => raises_reject) fun surplus => ?_
  refine raises_bind (raises_gather fun update hu => ?_) fun applied => raises_pure _ _
  -- what is accepted has a specification
  have hspec : ∃ spec, propositionSpec update.proposition = some spec := by
    rw [(List.perm_insertionSort _ _).mem_iff] at hu
    obtain ⟨raw, -, hmap⟩ := List.mem_filterMap.mp (List.mem_of_mem_take hu)
    obtain ⟨spec, hspec, rfl⟩ := Option.map_eq_some_iff.mp hmap
    obtain ⟨proposition, hp, -⟩ := Option.bind_eq_some_iff.mp hspec
    exact (resolveProposition_ok hp).2
  obtain ⟨spec, hspec⟩ := hspec
  refine raises_bind (raises_get _) fun s => ?_
  refine raises_bind ?_ fun current => ?_
  · unfold currentBelief
    rw [hspec]
    exact raises_pure _ _
  · exact raises_bind raises_onlyIf_reject fun _ => raises_bind raises_onlyIf_reject fun _ =>
      raises_bind (raises_modify _ _) fun _ => raises_bind (raises_emit _) fun _ => raises_pure _ _

/-! ## Bounded replies -/

/-- What is asked of the updates of one reply. -/
structure EditsBounded (E : BeliefEngine) (agentId : String) (updates : List BeliefUpdate)
    (s s' : BeliefState) (es : List (Events.Event Value)) : Prop where
  /-- No more are applied than one call may. -/
  count : es.countP (fun e => e.kind = BELIEF_UPDATED) ≤ E.cfg.maxBeliefUpdatesPerCall
  /-- Values and confidences stay in their ranges. -/
  ranges : ∀ agent proposition spec b,
    currentBelief s'.beliefs agent proposition = .ok (spec, b) →
    (spec.lo ≤ b.value ∧ b.value ≤ spec.hi) ∧ 0 ≤ b.confidence ∧ b.confidence ≤ 1
  /-- A value changes by no more than an update about it may change it. -/
  steps : ∀ u ∈ E.accepted updates, ∀ old new,
    beliefValue s.beliefs agentId u.proposition = .ok old →
    beliefValue s'.beliefs agentId u.proposition = .ok new → |new - old| ≤ E.allowance old u
  /-- What is not named stays. -/
  unnamed : ∀ key : String × String, (key.1 = agentId → ∀ u ∈ updates, u.proposition ≠ key.2) →
    s'.beliefs.get? key = s.beliefs.get? key
  /-- What is accepted depends on the order through the count alone. -/
  order : ∀ other : List BeliefUpdate, other.Perm updates →
    (E.screened other).Perm (E.screened updates) ∧
    ((E.screened updates).length ≤ E.cfg.maxBeliefUpdatesPerCall →
      (E.accepted other).Perm (E.accepted updates))

omit [FloatValue] [CanonicalJson Value] [Events.Sha256] [PayloadSchemas Value] in
theorem mem_screened {updates : List BeliefUpdate} {u : BeliefUpdate} (h : u ∈ E.screened updates) :
    ∃ raw ∈ updates, raw.proposition = u.proposition := by
  obtain ⟨raw, hraw, hmap⟩ := List.mem_filterMap.mp h
  obtain ⟨spec, -, rfl⟩ := Option.map_eq_some_iff.mp hmap
  exact ⟨raw, hraw, rfl⟩

omit [FloatValue] [CanonicalJson Value] [Events.Sha256] [PayloadSchemas Value] in
theorem accepted_perm {updates other : List BeliefUpdate} (h : other.Perm updates)
    (hcount : (E.screened updates).length ≤ E.cfg.maxBeliefUpdatesPerCall) :
    (E.accepted other).Perm (E.accepted updates) := by
  have hperm : (E.screened other).Perm (E.screened updates) := h.filterMap _
  unfold accepted
  rw [List.take_of_length_le hcount, List.take_of_length_le (hperm.length_eq.trans_le hcount)]
  exact hperm

omit [FloatValue] [CanonicalJson Value] [Events.Sha256] [PayloadSchemas Value] in
theorem carried_allowed_iff (hcfg : E.cfg.Checked) (updates : List BeliefUpdate) (value a : ℚ) :
    |E.carried value updates - value| ≤ a ↔
      value ≤ E.roomAbove updates (value + a) ∧ E.roomBelow updates (value - a) ≤ value := by
  rw [abs_le, ← carried_le_iff hcfg, ← le_carried_iff hcfg]
  constructor
  · intro h
    constructor <;> linarith [h.1, h.2]
  · intro h
    constructor <;> linarith [h.1, h.2]

omit [FloatValue] [CanonicalJson Value] [Events.Sha256] [PayloadSchemas Value] in
theorem fits_of_named_once (hcfg : E.cfg.Checked) {updates : List BeliefUpdate} {beliefs : Beliefs}
    (honce : ((E.accepted updates).map BeliefUpdate.proposition).Nodup) :
    E.Fits beliefs agentId updates := by
  intro u hu value _
  have hone : E.acceptedOf updates u.proposition = [u] := by
    unfold acceptedOf
    generalize E.accepted updates = accepted at honce hu
    induction accepted with
    | nil => cases hu
    | cons v rest ih =>
      obtain ⟨hv, hrest⟩ := List.nodup_cons.mp honce
      rw [List.filter_cons]
      rcases List.mem_cons.mp hu with rfl | hu
      · rw [if_pos (by simp), List.filter_eq_nil_iff.mpr]
        intro w hw hname
        exact hv (List.mem_map.mpr ⟨w, hw, of_decide_eq_true hname⟩)
      · rw [if_neg, ih hrest hu]
        intro hname
        exact hv (List.mem_map.mpr ⟨u, hu, (of_decide_eq_true hname).symm⟩)
  rw [hone, ← carried_allowed_iff hcfg]
  exact revisedValue_allowed hcfg value u

end Reply

/-! ## Closed runs -/

section Closed

attribute [local instance] blankJson blankDigest anySchema ratioColumn

/-- A reply that names a policy twice. -/
def twiceNamed : List BeliefUpdate :=
  [{ proposition := "policy.tax.progressivity", value := 1, confidence := 1 / 2 },
   { proposition := "policy.tax.progressivity", value := 1, confidence := 1 / 2 }]

/-- A reply that names a policy once. -/
def onceNamed : List BeliefUpdate :=
  [{ proposition := "policy.tax.progressivity", value := 1, confidence := 1 / 2 }]

/-- No beliefs, in a new log. -/
def blankBeliefs : BeliefState := { log := EventLog.new 0 GENESIS_PREV_HASH }

theorem blankBeliefs_kept : BeliefsKept blankBeliefs.beliefs := by
  intro key b h
  cases h

theorem plain_checked : plainBeliefs.cfg.Checked := by
  constructor <;> norm_num [plainBeliefs]

end Closed

end BeliefEngine

end Polis.Society
