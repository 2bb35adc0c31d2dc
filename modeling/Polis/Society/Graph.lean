/-
  Polis.Society.Graph — the social graph (`society/graph.py`).

  Three maps are kept: the rows of the ties, the tick each tie was last
  decayed at, and the tick since which a rival has been recovering.  Every
  call is a change of these followed by the event that tells of it.
-/
import Polis.Society.Kinds
import Polis.Society.Staging
import Polis.Society.Ties

namespace Polis.Society

open Lib Lib.Effect Polis.Events

/-! ## Tables -/

/-- `_INITIAL`: strength, valence and trust by context. -/
def INITIAL : List (String × ℚ × ℚ × ℚ) :=
  [("colocation", 5 / 100, 0, 50 / 100), ("conversation", 10 / 100, 5 / 100, 50 / 100),
   ("dm", 8 / 100, 5 / 100, 50 / 100), ("employer", 15 / 100, 0, 55 / 100),
   ("school", 12 / 100, 5 / 100, 55 / 100), ("household", 40 / 100, 30 / 100, 70 / 100),
   ("institution", 10 / 100, 5 / 100, 50 / 100), ("loan", 20 / 100, 0, 50 / 100),
   ("befriend", 35 / 100, 25 / 100, 60 / 100), ("platform", 6 / 100, 0, 45 / 100)]

/-- `_INITIAL.get(context, _INITIAL["institution"])`. -/
def initialOf (context : String) : ℚ × ℚ × ℚ :=
  (INITIAL.lookup context).getD (10 / 100, 5 / 100, 50 / 100)

/-- `_DYNAMICS`: the changes of strength, valence and trust by kind. -/
def DYNAMICS : List (String × ℚ × ℚ × ℚ) :=
  [("conversation", 30 / 1000, 5 / 1000, 0), ("conversation_turn", 30 / 1000, 5 / 1000, 0),
   ("dm", 20 / 1000, 5 / 1000, 0), ("colocation", 2 / 1000, 0, 0),
   ("agreement", 10 / 1000, 30 / 1000, 10 / 1000),
   ("disagreement", 10 / 1000, -25 / 1000, -5 / 1000),
   ("gift", 40 / 1000, 80 / 1000, 30 / 1000), ("hired", 60 / 1000, 50 / 1000, 20 / 1000),
   ("fired", 0, -250 / 1000, -120 / 1000), ("promise_kept", 10 / 1000, 30 / 1000, 60 / 1000),
   ("promise_broken", 0, -150 / 1000, -220 / 1000),
   ("crime_victim", 0, -600 / 1000, -500 / 1000),
   ("court_adversary", 0, -200 / 1000, -100 / 1000),
   ("testimony_against", 0, -300 / 1000, -200 / 1000)]

/-- The context a tie starts in from an interaction. -/
def contextOf : String → Option String
  | "conversation" => some "conversation"
  | "conversation_turn" => some "conversation"
  | "dm" => some "dm"
  | _ => none

theorem initialOf_range (context : String) :
    (0 ≤ (initialOf context).1 ∧ (initialOf context).1 ≤ 1) ∧
    (0 ≤ (initialOf context).2.1 ∧ (initialOf context).2.1 ≤ 1) ∧
    (0 ≤ (initialOf context).2.2 ∧ (initialOf context).2.2 ≤ 1) := by
  have hall : ∀ e ∈ INITIAL, (0 ≤ e.2.1 ∧ e.2.1 ≤ 1) ∧ (0 ≤ e.2.2.1 ∧ e.2.2.1 ≤ 1) ∧
      (0 ≤ e.2.2.2 ∧ e.2.2.2 ≤ 1) := by
    decide +kernel
  unfold initialOf
  cases h : INITIAL.lookup context with
  | none => norm_num
  | some row =>
    obtain ⟨pre, post, heq, -⟩ := List.lookup_eq_some_iff.mp h
    exact hall (context, row) (by rw [heq]; simp)

/-! ## State -/

/-- The settings of the graph: no half-life is zero, a division the source
makes at every tick. -/
structure TieSettings where
  colocationThreshold : Int := 6
  tieEventThreshold : ℚ := 2 / 100
  tieHalflifeSimDays : TieType → Option ℚ
  halflife_ne : ∀ t h, tieHalflifeSimDays t = some h → h ≠ 0

/-- What a `SocialGraph` keeps, with the log it stages in. -/
structure GraphState where
  log : EventLog Value
  repo : GraphRepo := .empty
  interactions : List Interaction := []
  rivalRecoverySince : Dict TieKey Int := ∅
  lastDecayTick : Dict TieKey Int := ∅

abbrev GraphM := EStateM Fault GraphState

/-- The changes one call makes to a row. -/
structure TieChange where
  dStrength : ℚ
  dValence : ℚ
  dTrust : ℚ

namespace GraphState

def withLog (s : GraphState) (log : EventLog Value) : GraphState := { s with log }

def put (s : GraphState) (row : Tie) : GraphState := { s with repo := s.repo.put row }

/-- `tie`. -/
def tie (s : GraphState) (aId bId : String) (type : Option TieType) : Option Tie :=
  (((s.repo.forPair aId bId).filter fun row => row.live ∧ (type = none ∨ type = some row.type)
    ).insertionSort fun x y => toLex (-x.strength, x.type.text) ≤ toLex (-y.strength, y.type.text)
    ).head?

/-- `strength`. -/
def strength (s : GraphState) (aId bId : String) : ℚ := ((s.tie aId bId none).map Tie.strength).getD 0

/-- `trust`. -/
def trust (s : GraphState) (aId bId : String) : ℚ := ((s.tie aId bId none).map Tie.trust).getD 0

/-- The other end of a row. -/
def otherEnd (agentId : String) (row : Tie) : String :=
  if row.aId = agentId then row.bId else row.aId

/-- `neighbours`. -/
def neighbours (s : GraphState) (agentId : String) (minStrength : ℚ) : List Tie :=
  (s.repo.all.filter fun row => row.live ∧ minStrength ≤ row.strength ∧
    (row.aId = agentId ∨ row.bId = agentId)).insertionSort
    fun x y => toLex (x.type.text, otherEnd agentId x) ≤ toLex (y.type.text, otherEnd agentId y)

/-- A row that `form` strengthens. -/
def strengthened (existing : Tie) (initial : ℚ × ℚ × ℚ) (tick : Int) : Tie :=
  { existing with
    strength := min 1 (max existing.strength initial.1)
    valence := max (-1) (min 1 (max existing.valence initial.2.1))
    trust := min 1 (max existing.trust initial.2.2)
    lastInteractionTick := tick }

/-- A row that `form` starts. -/
def started (key : TieKey) (initial : ℚ × ℚ × ℚ) (tick : Int) : Tie :=
  { aId := key.1, bId := key.2.1, type := key.2.2, strength := initial.1,
    valence := initial.2.1, trust := initial.2.2, formedTick := tick, endedTick := none,
    lastInteractionTick := tick }

/-- What `end` does to the maps. -/
def endRow (s : GraphState) (row : Tie) (tick : Int) : GraphState :=
  { s with
    repo := s.repo.put (row.ended tick)
    lastDecayTick := s.lastDecayTick.erase (keyOf row.aId row.bId row.type) }

/-- What `transition` does to the maps where nothing is merged. -/
def moveRow (s : GraphState) (row : Tie) (target : TieType) (tick : Int) : GraphState :=
  { s with
    repo := (s.repo.put (row.ended tick)).put (row.becoming target tick)
    lastDecayTick := (s.lastDecayTick.erase (keyOf row.aId row.bId row.type)).put
      (keyOf row.aId row.bId target) tick }

/-- The tick up to which a row has lost its decay. -/
def decayedUpTo (s : GraphState) (row : Tie) : Int :=
  s.lastDecayTick.getD (keyOf row.aId row.bId row.type)
    (max row.formedTick row.lastInteractionTick)

/-- The row of a tie is written back, decayed up to a tick. -/
def decay (s : GraphState) (row updated : Tie) (tick : Int) : GraphState :=
  { s with
    repo := s.repo.put updated
    lastDecayTick := s.lastDecayTick.put (keyOf row.aId row.bId row.type) tick }

/-- `setdefault` of the recovery of a rival. -/
def recovering (s : GraphState) (row : Tie) (tick : Int) : GraphState :=
  if s.rivalRecoverySince.contains row.key then s
  else { s with rivalRecoverySince := s.rivalRecoverySince.put row.key tick }

/-- The recovery of a rival is forgotten. -/
def relapsed (s : GraphState) (row : Tie) : GraphState :=
  { s with rivalRecoverySince := s.rivalRecoverySince.erase row.key }

end GraphState

/-! ## The graph -/

/-- A `SocialGraph`: the journal it stages in, its settings, and the
logarithm of two. -/
structure SocialGraph where
  journal : Journal
  cfg : TieSettings
  ln2 : ℚ

namespace SocialGraph

variable (G : SocialGraph)

/-- Thirty simulated days in ticks. -/
def recoveryTicks : Int := 30 * (G.journal.clock.ticksPerSimDay : Int)

/-- The sum of what the drivers of a row change. -/
def driven (drivers : List Interaction) : TieChange :=
  drivers.foldl (fun d driver =>
    match DYNAMICS.lookup driver.kind with
    | none => d
    | some change =>
      { dStrength := d.dStrength + change.1 * driver.weight
        dValence := d.dValence + change.2.1 * driver.weight
        dTrust := d.dTrust + change.2.2 * driver.weight }) ⟨0, 0, 0⟩

/-- The strength a row loses in a number of ticks. -/
def decayOf (type : TieType) (elapsed : Int) : ℚ :=
  match G.cfg.tieHalflifeSimDays type with
  | none => 0
  | some halflife => G.ln2 * elapsed / (halflife * G.journal.clock.ticksPerSimDay)

/-- The row as `apply_tick` writes it back, decayed from a tick on. -/
def updated (row : Tie) (drivers : List Interaction) (from_ tick : Int) : Tie :=
  let d := driven drivers
  let strength := min 1 (max 0 (row.strength + d.dStrength - G.decayOf row.type (max 0 (tick - from_))))
  { row with
    strength := if row.type = .kin then max (1 / 4) strength else strength
    valence := min 1 (max (-1) (row.valence + d.dValence))
    trust := min 1 (max 0 (row.trust + d.dTrust))
    lastInteractionTick := if drivers = [] then row.lastInteractionTick else tick }

/-- How far two versions of a row are apart. -/
def totalChange (row updated : Tie) : ℚ :=
  |updated.strength - row.strength| + |updated.valence - row.valence| + |updated.trust - row.trust|

section Drafts

variable [FloatValue]

def formedDraft (row : Tie) (context : String) : Draft :=
  { kind := TIE_FORMED
    payload := [("a_id", .str row.aId), ("b_id", .str row.bId), ("type", .str row.type.text),
      ("context", .str context), ("strength", FloatValue.ofRat row.strength),
      ("valence", FloatValue.ofRat row.valence), ("trust", FloatValue.ofRat row.trust)]
    subjectIds := [row.aId, row.bId] }

def endedDraft (row : Tie) (reason : String) : Draft :=
  { kind := TIE_ENDED
    payload := [("a_id", .str row.aId), ("b_id", .str row.bId), ("type", .str row.type.text),
      ("reason", .str reason), ("final_strength", FloatValue.ofRat row.strength)]
    subjectIds := [row.aId, row.bId] }

def changedDraft (row : Tie) (target : TieType) (trigger : String) : Draft :=
  { kind := TIE_TYPE_CHANGED
    payload := [("a_id", .str row.aId), ("b_id", .str row.bId),
      ("from_type", .str row.type.text), ("to_type", .str target.text),
      ("trigger", .str trigger)]
    subjectIds := [row.aId, row.bId] }

/-- The drivers of an update, by kind. -/
def driversValue (drivers : List Interaction) : Value :=
  .list ((drivers.insertionSort fun x y => x.kind ≤ y.kind).map fun item =>
    .dict [("kind", .str item.kind), ("weight", FloatValue.ofRat item.weight)])

def updatedDraft (row updated : Tie) (drivers : List Interaction) : Draft :=
  { kind := TIE_UPDATED
    payload := [("a_id", .str row.aId), ("b_id", .str row.bId), ("type", .str row.type.text),
      ("d_strength", FloatValue.ofRat (updated.strength - row.strength)),
      ("d_valence", FloatValue.ofRat (updated.valence - row.valence)),
      ("d_trust", FloatValue.ofRat (updated.trust - row.trust)),
      ("drivers", driversValue drivers)]
    subjectIds := [row.aId, row.bId] }

end Drafts

variable [FloatValue] [CanonicalJson Value] [Sha256] [PayloadSchemas Value]

/-- `_emit`. -/
def emit (d : Draft) (tick : Int) : GraphM (Events.Event Value) :=
  zoom GraphState.log GraphState.withLog (Society.emit G.journal d tick)

/-- `form`. -/
def form (aId bId : String) (type : TieType) (context : String) (tick : Int) :
    GraphM (List (Events.Event Value)) := do
  if aId = bId then pure []
  else do
    let key := keyOf aId bId type
    let s ← get
    match s.tie key.1 key.2.1 (some type) with
    | some existing => do
      modify fun s => s.put (GraphState.strengthened existing (initialOf context) tick)
      pure []
    | none => do
      let row := GraphState.started key (initialOf context) tick
      modify fun s => s.put row
      let event ← G.emit (formedDraft row context) tick
      pure [event]

/-- `end`. -/
def «end» (row : Tie) (reason : String) (tick : Int) : GraphM (Events.Event Value) := do
  modify fun s => s.endRow row tick
  G.emit (endedDraft row reason) tick

/-- `transition`. -/
def transition (row : Tie) (target : TieType) (trigger : String) (tick : Int) :
    GraphM (Events.Event Value) := do
  let s ← get
  match s.tie row.aId row.bId (some target) with
  | some _ => G.end row ("merged_into_" ++ target.text) tick
  | none => do
    modify fun s => s.moveRow row target tick
    G.emit (changedDraft row target trigger) tick

/-- What `_transition` finds due for a row; a rival that is not recovering is
asked for its recovery no longer. -/
def due (s : GraphState) (row : Tie) (tick : Int) : Option (TieType × String) :=
  match row.type with
  | .acquaintance =>
    if 40 / 100 ≤ row.strength ∧ 20 / 100 ≤ row.valence then some (.friend, "strength_valence")
    else none
  | .friend => if row.valence ≤ -40 / 100 then some (.rival, "conflict") else none
  | .rival =>
    if 10 / 100 ≤ row.valence ∧
        G.recoveryTicks ≤ tick - s.rivalRecoverySince.getD row.key tick then
      some (.acquaintance, "sustained_recovery")
    else none
  | _ => none

/-- A row that ends by decay. -/
def faded (row : Tie) : Bool :=
  row.strength < 2 / 100 ∧ row.type ∉ [TieType.kin, .partner, .creditor]

/-- The recovery of a rival, started or forgotten. -/
def noteRecovery (row : Tie) (tick : Int) (s : GraphState) : GraphState :=
  if row.type = .rival then
    if 10 / 100 ≤ row.valence then s.recovering row tick else s.relapsed row
  else s

/-- `_transition`. -/
def step (row : Tie) (tick : Int) : GraphM (List (Events.Event Value)) := do
  modify (noteRecovery row tick)
  let s ← get
  match G.due s row tick with
  | some (target, trigger) => do
    let event ← G.transition row target trigger tick
    pure [event]
  | none => onlyIf (faded row) do
    let event ← G.end row "decay" tick
    pure [event]

/-- The order interactions are taken in. -/
def interactionKey (i : Interaction) : Lex (String × Lex (String × String)) :=
  toLex (min i.aId i.bId, toLex (max i.aId i.bId, i.kind))

/-- The drivers of a row among the interactions of a tick. -/
def driversOf (items : List Interaction) (row : Tie) : List Interaction :=
  items.filter fun i => pairOf i.aId i.bId = pairOf row.aId row.bId

/-- A pair that spent long enough in one place. -/
def meet (tick : Int) (c : String × String × Nat) : GraphM (List (Events.Event Value)) := do
  let s ← get
  onlyIf (G.cfg.colocationThreshold ≤ c.2.2 ∧ s.tie c.1 c.2.1 none = none)
    (G.form c.1 c.2.1 .acquaintance "colocation" tick)

/-- An interaction between agents that have no tie. -/
def introduce (tick : Int) (i : Interaction) : GraphM (List (Events.Event Value)) := do
  let s ← get
  match contextOf i.kind with
  | none => pure []
  | some context =>
    onlyIf (s.tie i.aId i.bId none = none) (G.form i.aId i.bId .acquaintance context tick)

/-- The turn of one row. -/
def turn (items : List Interaction) (tick : Int) (row : Tie) :
    GraphM (List (Events.Event Value)) := do
  if row.live then do
    let s ← get
    let drivers := driversOf items row
    let updated := G.updated row drivers (s.decayedUpTo row) tick
    modify fun s => s.decay row updated tick
    let told ← onlyIf (G.cfg.tieEventThreshold ≤ totalChange row updated) do
      let event ← G.emit (updatedDraft row updated drivers) tick
      pure [event]
    let moved ← G.step updated tick
    pure (told ++ moved)
  else pure []

/-- The interactions of a tick, in order; none is left. -/
def takeInteractions (s : GraphState) : List Interaction :=
  s.interactions.insertionSort fun x y => interactionKey x ≤ interactionKey y

/-- `apply_tick`. -/
def applyTick (tick : Int) (contacts : ContactLedger) : GraphM (List (Events.Event Value)) := do
  let met ← gather (G.meet tick) (contacts.pairs tick)
  let s ← get
  let items := takeInteractions s
  let introduced ← gather (G.introduce tick) items
  modify fun s => { s with interactions := [] }
  let s ← get
  let turned ← gather (G.turn items tick) s.repo.all
  pure (met ++ introduced ++ turned)

/-- `end_all_for`. -/
def endAllFor (agentId reason : String) (tick : Int) : GraphM (List (Events.Event Value)) := do
  let s ← get
  gather (fun row => do
    let event ← G.end row reason tick
    pure [event]) (s.neighbours agentId 0)

end SocialGraph

/-- `stage_interaction`. -/
def GraphState.stageInteraction (s : GraphState) (i : Interaction) : GraphState :=
  { s with interactions := s.interactions ++ [i] }

end Polis.Society
