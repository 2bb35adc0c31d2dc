/-
  Polis.Society.SocietyRuns — runs of the demography and society services.

  A run is a sequence of calls that return; between two calls the log may go
  on.  Beside it goes what the changes of every tie come to that no event
  told of.
-/
import Polis.Society.Beliefs
import Polis.Society.Untold
import Polis.Society.PlatformRuns

namespace Polis.Society

open Lib Lib.Sql Lib.Effect Polis.Events Polis.Store GraphState SocialGraph

/-! ## Calls -/

/-- The social graph and the beliefs, with the log both stage in. -/
structure SocietyState where
  graph : GraphState
  beliefs : Beliefs := ∅

abbrev SocietyM := EStateM Fault SocietyState

namespace SocietyState

def withLog (s : SocietyState) (log : EventLog Value) : SocietyState :=
  { s with graph := s.graph.withLog log }

def withGraph (s : SocietyState) (graph : GraphState) : SocietyState := { s with graph }

/-- The belief engine's part. -/
def believing (s : SocietyState) : BeliefState := { log := s.graph.log, beliefs := s.beliefs }

def withBelieving (s : SocietyState) (b : BeliefState) : SocietyState :=
  { graph := s.graph.withLog b.log, beliefs := b.beliefs }

end SocietyState

/-- A call that changes ties or beliefs: those of the graph port of
demography, of speech, of the tick, and of the belief engine. -/
inductive SocietyCall where
  | form (aId bId : String) (type : TieType) (context : String)
  | endPair (aId bId : String) (type : TieType) (reason : String)
  | reciprocate (actorId targetId : String)
  | endAllFor (agentId reason : String)
  | stageInteraction (i : Interaction)
  | applyTick (contacts : ContactLedger)
  | update (agentId proposition : String) (target : ℚ) (channel : BeliefChannel)
      (sourceId : String) (llmCallId : Option String)
  | experience (agentId : String) (kind : Int) (payload : Experience)
  | reflect (agentId : String) (updates : List BeliefUpdate) (llmCallId : Option String)
  | genesis (agentIds : List String)
  | migrate (agentId cohortId : String) (offsets : List (String × ℚ))
  | birth (childId motherId fatherId : String) (heritability : ℚ)

namespace SocietyCall

section Perform

variable [FloatValue] [CanonicalJson Value] [Events.Sha256] [PayloadSchemas Value]

/-- A call of the graph. -/
def onGraph {α : Type} (x : GraphM α) : SocietyM α :=
  zoom SocietyState.graph SocietyState.withGraph x

/-- A call of the belief engine, which reads the graph. -/
def onBeliefs {α : Type} (x : GraphState → BeliefM α) : SocietyM α := do
  let s ← get
  zoom SocietyState.believing SocietyState.withBelieving (x s.graph)

/-- `end_pair`. -/
def endPairOf (G : SocialGraph) (aId bId : String) (type : TieType) (reason : String) (tick : Int) :
    GraphM (List (Events.Event Value)) := do
  let s ← get
  match s.tie aId bId (some type) with
  | none => pure []
  | some row => do
    let event ← G.end row reason tick
    pure [event]

/-- The end of a `BEFRIEND` that is returned: an acquaintance becomes a friend. -/
def reciprocateOf (G : SocialGraph) (actorId targetId : String) (tick : Int) :
    GraphM (List (Events.Event Value)) := do
  let s ← get
  match s.tie actorId targetId (some .acquaintance) with
  | none => pure []
  | some current => do
    let event ← G.transition current .friend "reciprocal_befriend" tick
    pure [event]

/-- The call itself. -/
def perform (G : SocialGraph) (E : BeliefEngine) (tick : Int) :
    SocietyCall → SocietyM (List (Events.Event Value))
  | form aId bId type context => onGraph (G.form aId bId type context tick)
  | endPair aId bId type reason => onGraph (endPairOf G aId bId type reason tick)
  | reciprocate actorId targetId => onGraph (reciprocateOf G actorId targetId tick)
  | endAllFor agentId reason => onGraph (G.endAllFor agentId reason tick)
  | stageInteraction i => do
    modify fun s => s.withGraph (s.graph.stageInteraction i)
    pure []
  | applyTick contacts => onGraph (G.applyTick tick contacts)
  | update agentId proposition target channel sourceId llmCallId =>
    onBeliefs fun g => E.apply g agentId proposition target channel sourceId tick llmCallId
  | experience agentId kind payload =>
    onBeliefs fun g => E.applyExperience g agentId kind payload tick
  | reflect agentId updates llmCallId =>
    onBeliefs fun _ => E.applyLlmBeliefUpdates agentId tick updates llmCallId
  | genesis agentIds => onBeliefs fun _ => E.initialisePopulation agentIds tick
  | migrate agentId cohortId offsets =>
    onBeliefs fun _ => E.migrantBeliefs agentId cohortId offsets tick
  | birth childId motherId fatherId heritability => do
    let inherited ← onBeliefs fun _ => E.birthBeliefs childId motherId fatherId heritability tick
    let kin ← onGraph (gather (fun parentId => G.form parentId childId .kin "birth" tick)
      [motherId, fatherId])
    pure (inherited ++ kin)

/-- What a call leaves untold of the ties. -/
def untold (G : SocialGraph) (tick : Int) (s : SocietyState) (u : Untold) : SocietyCall → Untold
  | form aId bId type context => untoldForm aId bId type context tick s.graph u
  | reciprocate actorId targetId =>
    match s.graph.tie actorId targetId (some .acquaintance) with
    | none => u
    | some current => untoldMoved s.graph current .friend u
  | applyTick contacts => G.untoldTick tick contacts s.graph u
  | birth childId motherId fatherId _ =>
    ([motherId, fatherId].foldl (noted (fun parentId => G.form parentId childId .kin "birth" tick)
      fun parentId => untoldForm parentId childId .kin "birth" tick) (s.graph, u)).2
  | _ => u

end Perform

end SocietyCall

/-! ## Runs -/

/-- A run from a new graph and no beliefs: its calls, the events they
returned, the state reached, and what no event told of. -/
inductive SocietyRun [FloatValue] [CanonicalJson Value] [Events.Sha256] [PayloadSchemas Value]
    (G : SocialGraph) (E : BeliefEngine) :
    List SocietyCall → List (Events.Event Value) → SocietyState → Untold → Prop
  | start (log : EventLog Value) : SocietyRun G E [] [] { graph := { log } } fun _ => 0
  | call {cs : List SocietyCall} {es events : List (Events.Event Value)} {s s' : SocietyState}
      {u : Untold} (c : SocietyCall) (tick : Int) (run : SocietyRun G E cs es s u)
      (returns : c.perform G E tick s = .ok events s') :
      SocietyRun G E (cs ++ [c]) (es ++ events) s' (c.untold G tick s u)
  | onwards {cs : List SocietyCall} {es : List (Events.Event Value)} {s : SocietyState}
      {u : Untold} (log : EventLog Value) (run : SocietyRun G E cs es s u)
      (later : s.graph.log.lastSeq ≤ log.lastSeq) : SocietyRun G E cs es (s.withLog log) u

/-! ## Closed runs -/

section Closed

attribute [local instance] blankJson blankDigest anySchema ratioColumn

/-- A graph with a journal that takes everything and the default settings. -/
def plainGraph : SocialGraph where
  journal := plainJournal
  ln2 := 7 / 10
  cfg :=
    { tieHalflifeSimDays := fun t =>
        match t with
        | .acquaintance => some 30
        | .friend => some 90
        | .colleague => some 120
        | .rival => some 180
        | _ => none
      halflife_ne := by
        intro t h
        cases t <;> rintro ⟨⟩ <;> norm_num }

/-- A belief engine without noise. -/
def plainBeliefs : BeliefEngine where
  journal := plainJournal
  entityExists := fun _ _ => true
  draws := { negativeSide := fun _ _ => false, genesis := fun _ _ mean _ => mean
             noise := fun _ _ _ => 0 }

end Closed

end Polis.Society
