/-
  Polis.Society.GraphTicks — the row one turn of `apply_tick` writes back
  (`society/graph.py`).

  Main results:
    * `inRange_strengthened`, `inRange_turnRow` — strengthening a tie, and its
      turn in a tick, leave its values in their ranges.
-/
import Polis.Society.GraphSteps

namespace Polis.Society

open Lib Lib.Effect Polis.Events

/-! ## Shapes of a graph -/

namespace GraphState

theorem liveAt_live {s : GraphState} {k : TieKey} {row : Tie} (h : s.repo.get? k = some row)
    (hlive : row.live = true) : s.liveAt k = some row := liveAt_eq_some.mpr ⟨h, hlive⟩

theorem mem_neighbours {s : GraphState} {agentId : String} {minStrength : ℚ} {row : Tie}
    (h : row ∈ s.neighbours agentId minStrength) : s.liveAt row.key = some row := by
  unfold neighbours at h
  rw [(List.perm_insertionSort _ _).mem_iff, List.mem_filter] at h
  obtain ⟨hmem, hp⟩ := h
  exact liveAt_live (GraphRepo.mem_all_iff.mp hmem) (of_decide_eq_true hp).1

end GraphState

namespace SocialGraph

open GraphState

variable {G : SocialGraph}

/-! ## The outcome of a turn -/

/-- The row a turn writes back. -/
def turnRow (G : SocialGraph) (items : List Interaction) (tick : Int) (s : GraphState)
    (row : Tie) : Tie := G.updated row (driversOf items row) (s.decayedUpTo row) tick

theorem noteRecovery_repo (row : Tie) (tick : Int) (s : GraphState) :
    (noteRecovery row tick s).repo = s.repo ∧
      (noteRecovery row tick s).lastDecayTick = s.lastDecayTick := by
  unfold noteRecovery recovering relapsed
  split
  · split
    · split
      · exact ⟨rfl, rfl⟩
      · exact ⟨rfl, rfl⟩
    · exact ⟨rfl, rfl⟩
  · exact ⟨rfl, rfl⟩

end SocialGraph

/-! ## Ranges -/

open GraphState SocialGraph

/-- The values of a row are in their ranges. -/
structure InRange (row : Tie) : Prop where
  strength : 0 ≤ row.strength ∧ row.strength ≤ 1
  valence : -1 ≤ row.valence ∧ row.valence ≤ 1
  trust : 0 ≤ row.trust ∧ row.trust ≤ 1

theorem inRange_strengthened {row : Tie} (h : InRange row) (context : String) (tick : Int) :
    InRange (strengthened row (initialOf context) tick) := by
  obtain ⟨⟨hs₀, hs₁⟩, ⟨hv₀, hv₁⟩, ⟨ht₀, ht₁⟩⟩ := h
  refine ⟨⟨?_, min_le_left _ _⟩, ⟨le_max_left _ _, ?_⟩, ⟨?_, min_le_left _ _⟩⟩
  · exact le_min (by norm_num) (le_max_of_le_left hs₀)
  · exact max_le (by norm_num) (min_le_left _ _)
  · exact le_min (by norm_num) (le_max_of_le_left ht₀)

theorem inRange_turnRow (G : SocialGraph) (items : List Interaction) (tick : Int)
    (s : GraphState) (row : Tie) : InRange (G.turnRow items tick s row) := by
  refine ⟨?_, ⟨le_min (by norm_num) (le_max_left _ _), min_le_left _ _⟩,
    ⟨le_min (by norm_num) (le_max_left _ _), min_le_left _ _⟩⟩
  show 0 ≤ (if row.type = .kin then _ else _ : ℚ) ∧ (if row.type = .kin then _ else _ : ℚ) ≤ 1
  split
  · exact ⟨le_max_of_le_left (by norm_num), max_le (by norm_num) (min_le_left _ _)⟩
  · exact ⟨le_min (by norm_num) (le_max_left _ _), min_le_left _ _⟩

end Polis.Society
