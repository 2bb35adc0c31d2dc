/-
  Polis.Society.GraphSteps — what one call does to the social graph.

  Each call that returns is a change of the three maps; the log apart, the
  change is a function of the state the call is made in.

  Main results:
    * `form_ok`, `end_ok`, `transition_ok` — the change of one call.
    * `turn_ok` — the change of the turn of one row.
-/
import Polis.Society.Graph

namespace Polis.Society

open Lib Lib.Effect Polis.Events

/-! ## The live row under a key -/

namespace GraphState

/-- The row under a key, where it has not ended. -/
def liveAt (s : GraphState) (k : TieKey) : Option Tie := (s.repo.get? k).filter Tie.live

theorem liveAt_eq_some {s : GraphState} {k : TieKey} {row : Tie} :
    s.liveAt k = some row ↔ s.repo.get? k = some row ∧ row.live = true :=
  Option.filter_eq_some_iff

theorem key_of_liveAt {s : GraphState} {k : TieKey} {row : Tie} (h : s.liveAt k = some row) :
    row.key = k := GraphRepo.key_of_get? (liveAt_eq_some.mp h).1

theorem mem_candidates {s : GraphState} {aId bId : String} {type : Option TieType} {row : Tie} :
    row ∈ ((s.repo.forPair aId bId).filter fun row =>
      row.live ∧ (type = none ∨ type = some row.type)) ↔
    s.liveAt (keyOf aId bId row.type) = some row ∧ (type = none ∨ type = some row.type) := by
  rw [List.mem_filter, GraphRepo.mem_forPair_iff, liveAt_eq_some, decide_eq_true_eq]
  tauto

theorem tie_type (s : GraphState) (aId bId : String) (t : TieType) :
    s.tie aId bId (some t) = s.liveAt (keyOf aId bId t) := by
  unfold tie
  cases hl : s.liveAt (keyOf aId bId t) with
  | none =>
    rw [List.head?_eq_none_iff]
    have hnil : ((s.repo.forPair aId bId).filter fun row =>
        row.live ∧ (some t = none ∨ some t = some row.type)) = [] := by
      rw [List.eq_nil_iff_forall_not_mem]
      intro row hmem
      obtain ⟨hrow, ht⟩ := mem_candidates.mp hmem
      rcases ht with ht | ht
      · cases ht
      · cases ht
        rw [hl] at hrow
        cases hrow
    rw [hnil]
    rfl
  | some row =>
    have hkey : row.type = t := by
      rw [← keyOf_type aId bId t, ← key_of_liveAt hl]
      rfl
    have hmem : row ∈ ((s.repo.forPair aId bId).filter fun row =>
        row.live ∧ (some t = none ∨ some t = some row.type)) :=
      mem_candidates.mpr ⟨by rw [hkey]; exact hl, Or.inr (by rw [hkey])⟩
    have hsort := (List.perm_insertionSort (fun x y : Tie =>
      toLex (-x.strength, x.type.text) ≤ toLex (-y.strength, y.type.text)) _).mem_iff.mpr hmem
    cases hhead : (((s.repo.forPair aId bId).filter fun row =>
        row.live ∧ (some t = none ∨ some t = some row.type)).insertionSort fun x y =>
          toLex (-x.strength, x.type.text) ≤ toLex (-y.strength, y.type.text)) with
    | nil =>
      rw [hhead] at hsort
      cases hsort
    | cons first rest =>
      have hfirst : first ∈ ((s.repo.forPair aId bId).filter fun row =>
          row.live ∧ (some t = none ∨ some t = some row.type)) := by
        rw [← (List.perm_insertionSort (fun x y : Tie =>
          toLex (-x.strength, x.type.text) ≤ toLex (-y.strength, y.type.text)) _).mem_iff, hhead]
        exact List.mem_cons_self
      obtain ⟨hlive, ht⟩ := mem_candidates.mp hfirst
      rcases ht with ht | ht
      · cases ht
      · cases ht
        rw [hl] at hlive
        cases hlive
        rfl

/-! ## Changes of the maps -/

@[simp] theorem withLog_liveAt (s : GraphState) (log : EventLog Value) (k : TieKey) :
    (s.withLog log).liveAt k = s.liveAt k := rfl

end GraphState

section Calls

variable [FloatValue] [CanonicalJson Value] [Sha256] [PayloadSchemas Value]

namespace SocialGraph

variable {G : SocialGraph}

/-! ## The change of one call -/

omit [FloatValue] in
theorem emit_log {d : Draft} {tick : Int} {s s' : GraphState} {e : Events.Event Value}
    (h : G.emit d tick s = .ok e s') :
    ∃ log, s' = s.withLog log ∧ Society.emit G.journal d tick s.log = .ok e log := by
  obtain ⟨log, hlog, rfl⟩ := zoom_eq_ok.mp h
  exact ⟨log, rfl, hlog⟩

theorem form_ok {aId bId : String} {type : TieType} {context : String} {tick : Int}
    {s s' : GraphState} {es : List (Events.Event Value)}
    (h : G.form aId bId type context tick s = .ok es s') :
    (aId = bId ∧ es = [] ∧ s' = s) ∨
    (aId ≠ bId ∧ ∃ row, s.liveAt (keyOf aId bId type) = some row ∧ es = [] ∧
      s' = s.put (GraphState.strengthened row (initialOf context) tick)) ∨
    (aId ≠ bId ∧ s.liveAt (keyOf aId bId type) = none ∧ ∃ log e, es = [e] ∧
      Society.emit G.journal
        (formedDraft (GraphState.started (keyOf aId bId type) (initialOf context) tick) context)
        tick s.log = .ok e log ∧
      s' = (s.put (GraphState.started (keyOf aId bId type) (initialOf context) tick)).withLog
        log) := by
  unfold form at h
  rcases ite_eq_ok.mp h with ⟨heq, h⟩ | ⟨hne, h⟩
  · obtain ⟨rfl, rfl⟩ := pure_eq_ok.mp h
    exact Or.inl ⟨heq, rfl, rfl⟩
  · right
    rw [get_bind] at h
    have hkey : s.tie (keyOf aId bId type).1 (keyOf aId bId type).2.1 (some type)
        = s.liveAt (keyOf aId bId type) := by
      rw [GraphState.tie_type]
      congr 1
      -- the ends of a key are already in the order the key takes
      unfold keyOf
      by_cases hs : type.symmetric
      · by_cases hlt : bId < aId
        · simp [hs, hlt, lt_asymm hlt]
        · simp [hs, hlt]
      · simp [hs]
    rw [hkey] at h
    cases hl : s.liveAt (keyOf aId bId type) with
    | some row =>
      rw [hl] at h
      dsimp only at h
      obtain ⟨_, s₁, h₁, h⟩ := bind_eq_ok.mp h
      obtain rfl := modify_eq_ok.mp h₁
      obtain ⟨rfl, rfl⟩ := pure_eq_ok.mp h
      exact Or.inl ⟨hne, row, rfl, rfl, rfl⟩
    | none =>
      rw [hl] at h
      dsimp only at h
      obtain ⟨_, s₁, h₁, h⟩ := bind_eq_ok.mp h
      obtain rfl := modify_eq_ok.mp h₁
      obtain ⟨e, s₂, h₂, h⟩ := bind_eq_ok.mp h
      obtain ⟨log, rfl, hlog⟩ := emit_log h₂
      obtain ⟨rfl, rfl⟩ := pure_eq_ok.mp h
      exact Or.inr ⟨hne, rfl, log, e, rfl, hlog, rfl⟩

theorem end_ok {row : Tie} {reason : String} {tick : Int} {s s' : GraphState}
    {e : Events.Event Value} (h : G.end row reason tick s = .ok e s') :
    ∃ log, Society.emit G.journal (endedDraft row reason) tick s.log = .ok e log ∧
      s' = (s.endRow row tick).withLog log := by
  unfold SocialGraph.end at h
  obtain ⟨_, s₁, h₁, h⟩ := bind_eq_ok.mp h
  obtain rfl := modify_eq_ok.mp h₁
  obtain ⟨log, rfl, hlog⟩ := emit_log h
  exact ⟨log, hlog, rfl⟩

/-- What `transition` does to the maps. -/
def moved (s : GraphState) (row : Tie) (target : TieType) (tick : Int) : GraphState :=
  match s.liveAt (keyOf row.aId row.bId target) with
  | some _ => s.endRow row tick
  | none => s.moveRow row target tick

/-- The event of `transition`. -/
def movedDraft (s : GraphState) (row : Tie) (target : TieType) (trigger : String) : Draft :=
  match s.liveAt (keyOf row.aId row.bId target) with
  | some _ => endedDraft row ("merged_into_" ++ target.text)
  | none => changedDraft row target trigger

theorem transition_ok {row : Tie} {target : TieType} {trigger : String} {tick : Int}
    {s s' : GraphState} {e : Events.Event Value}
    (h : G.transition row target trigger tick s = .ok e s') :
    ∃ log, Society.emit G.journal (movedDraft s row target trigger) tick s.log = .ok e log ∧
      s' = (moved s row target tick).withLog log := by
  unfold transition at h
  rw [get_bind, GraphState.tie_type] at h
  unfold moved movedDraft
  cases hl : s.liveAt (keyOf row.aId row.bId target) with
  | some other =>
    rw [hl] at h
    exact end_ok h
  | none =>
    rw [hl] at h
    dsimp only at h
    obtain ⟨_, s₁, h₁, h⟩ := bind_eq_ok.mp h
    obtain rfl := modify_eq_ok.mp h₁
    obtain ⟨log, rfl, hlog⟩ := emit_log h
    exact ⟨log, hlog, rfl⟩

/-! ## The turn of a row -/

/-- What `_transition` does to the maps. -/
def stepped (G : SocialGraph) (s : GraphState) (row : Tie) (tick : Int) : GraphState :=
  let s := noteRecovery row tick s
  match G.due s row tick with
  | some (target, _) => moved s row target tick
  | none => if faded row then s.endRow row tick else s

/-- What the turn of a live row does to the maps. -/
def turned (G : SocialGraph) (items : List Interaction) (tick : Int) (s : GraphState)
    (row : Tie) : GraphState :=
  let updated := G.updated row (driversOf items row) (s.decayedUpTo row) tick
  G.stepped (s.decay row updated tick) updated tick

omit [FloatValue] [CanonicalJson Value] [Sha256] [PayloadSchemas Value] in
theorem noteRecovery_withLog (row : Tie) (tick : Int) (s : GraphState) (log : EventLog Value) :
    noteRecovery row tick (s.withLog log) = (noteRecovery row tick s).withLog log := by
  unfold noteRecovery GraphState.recovering GraphState.relapsed
  split
  · split
    · show (if s.rivalRecoverySince.contains row.key then s.withLog log else _) = _
      split <;> rfl
    · rfl
  · rfl

theorem step_ok {row : Tie} {tick : Int} {s s' : GraphState} {es : List (Events.Event Value)}
    (h : G.step row tick s = .ok es s') : ∃ log, s' = (G.stepped s row tick).withLog log := by
  unfold step at h
  unfold stepped
  obtain ⟨_, s₁, h₁, h⟩ := bind_eq_ok.mp h
  obtain rfl := modify_eq_ok.mp h₁
  rw [get_bind] at h
  dsimp only
  cases hd : G.due (noteRecovery row tick s) row tick with
  | some target =>
    rw [hd] at h
    obtain ⟨target, trigger⟩ := target
    dsimp only at h
    obtain ⟨e, s₂, h₂, h⟩ := bind_eq_ok.mp h
    obtain ⟨log, -, rfl⟩ := transition_ok h₂
    obtain ⟨-, rfl⟩ := pure_eq_ok.mp h
    exact ⟨log, rfl⟩
  | none =>
    rw [hd] at h
    rcases onlyIf_eq_ok.mp h with ⟨hf, h⟩ | ⟨hf, -, rfl⟩
    · obtain ⟨e, s₂, h₂, h⟩ := bind_eq_ok.mp h
      obtain ⟨log, -, rfl⟩ := end_ok h₂
      obtain ⟨-, rfl⟩ := pure_eq_ok.mp h
      exact ⟨log, by rw [if_pos hf]⟩
    · exact ⟨_, by rw [if_neg hf]; rfl⟩

omit [FloatValue] [CanonicalJson Value] [Sha256] [PayloadSchemas Value] in
theorem stepped_withLog (s : GraphState) (row : Tie) (tick : Int) (log : EventLog Value) :
    G.stepped (s.withLog log) row tick = (G.stepped s row tick).withLog log := by
  unfold stepped
  rw [noteRecovery_withLog]
  dsimp only
  have hdue : G.due ((noteRecovery row tick s).withLog log) row tick
      = G.due (noteRecovery row tick s) row tick := rfl
  rw [hdue]
  cases G.due (noteRecovery row tick s) row tick with
  | some target =>
    show moved _ _ _ _ = (moved _ _ _ _).withLog log
    unfold moved
    rw [GraphState.withLog_liveAt]
    split <;> rfl
  | none =>
    show (if _ then _ else _ : GraphState) = _
    split <;> rfl

theorem turn_ok {items : List Interaction} {tick : Int} {row : Tie} {s s' : GraphState}
    {es : List (Events.Event Value)} (h : G.turn items tick row s = .ok es s') :
    (row.live = false ∧ s' = s) ∨
    (row.live = true ∧ ∃ log, s' = (G.turned items tick s row).withLog log) := by
  unfold turn at h
  rcases ite_eq_ok.mp h with ⟨hlive, h⟩ | ⟨hdead, h⟩
  · right
    refine ⟨hlive, ?_⟩
    rw [get_bind] at h
    obtain ⟨_, s₁, h₁, h⟩ := bind_eq_ok.mp h
    obtain rfl := modify_eq_ok.mp h₁
    obtain ⟨told, s₂, h₂, h⟩ := bind_eq_ok.mp h
    obtain ⟨moves, s₃, h₃, h⟩ := bind_eq_ok.mp h
    obtain ⟨-, rfl⟩ := pure_eq_ok.mp h
    obtain ⟨log₃, rfl⟩ := step_ok h₃
    unfold turned
    rcases onlyIf_eq_ok.mp h₂ with ⟨-, h₂⟩ | ⟨-, -, rfl⟩
    · obtain ⟨e, s₄, h₄, h₂⟩ := bind_eq_ok.mp h₂
      obtain ⟨log, rfl, -⟩ := emit_log h₄
      obtain ⟨-, rfl⟩ := pure_eq_ok.mp h₂
      rw [stepped_withLog]
      exact ⟨log₃, rfl⟩
    · exact ⟨log₃, rfl⟩
  · obtain ⟨-, rfl⟩ := pure_eq_ok.mp h
    exact Or.inl ⟨Bool.eq_false_iff.mpr hdead, rfl⟩

end SocialGraph

end Calls

end Polis.Society
