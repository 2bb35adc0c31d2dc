/-
  Polis.Store.Projection — projections, their router and the rebuild of the
  read models (`store/projections/base.py`, `store/rebuild.py`).

  A projection turns an event into statements; what it reads of the event is
  all it decides on.  A batch is one transaction.

  Main results:
    * `applyBatch_eq` — a batch in the order of the log is applied in that
      order.
    * `applyCuts_eq` — how a sequence is cut into batches does not matter.
-/
import Polis.Events.Log
import Polis.Lib.Sql

namespace Polis.Store

open Lib.Sql Polis.Events

/-- The tables of the store. -/
abbrev Tables := Db Value

/-- `Projection`: `truncate` deletes the rows of `truncated`, in order. -/
structure Projection where
  name : String
  tables : List String
  handles : List Int
  statements : Events.Event Value → Except PyError (List (Statement Value))
  truncated : List String

/-- The error of a violated key. -/
def uniqueViolation : PyError := .runtime "duplicate key value violates unique constraint"

namespace Projection

/-- `apply`. -/
def apply (p : Projection) (e : Events.Event Value) (db : Tables) : Except PyError Tables :=
  match p.statements e with
  | .error err => .error err
  | .ok sts =>
    match execAll db sts with
    | none => .error uniqueViolation
    | some db' => .ok db'

/-- `truncate`. -/
def truncate (p : Projection) (db : Tables) : Tables := p.truncated.foldl Db.clear db

theorem apply_eq_ok {p : Projection} {e : Events.Event Value} {db db' : Tables} :
    p.apply e db = .ok db' ↔ ∃ sts, p.statements e = .ok sts ∧ execAll db sts = some db' := by
  unfold apply
  cases p.statements e with
  | error err => simp
  | ok sts =>
    cases hrun : execAll db sts with
    | none => simp [hrun]
    | some db'' => simp [hrun]

end Projection

/-! ## The router -/

/-- A `for` loop over computations that may raise. -/
def eachOk {α : Type} (f : α → Tables → Except PyError Tables) :
    List α → Tables → Except PyError Tables
  | [], db => .ok db
  | x :: xs, db =>
    match f x db with
    | .error err => .error err
    | .ok db' => eachOk f xs db'

theorem eachOk_append {α : Type} (f : α → Tables → Except PyError Tables) (xs ys : List α)
    (db : Tables) : eachOk f (xs ++ ys) db = (eachOk f xs db).bind (eachOk f ys) := by
  induction xs generalizing db with
  | nil => rfl
  | cons x xs ih =>
    simp only [List.cons_append, eachOk]
    cases f x db with
    | error err => rfl
    | ok db' => exact ih db'

/-- The inner loop of `apply_batch`: the projections that handle an event, as
registered. -/
def dispatch (ps : List Projection) (e : Events.Event Value) : Tables → Except PyError Tables :=
  eachOk (fun p => p.apply e) (ps.filter fun p => e.kind ∈ p.handles)

/-- `sorted(events, key=seq)`. -/
def bySeq (events : List (Events.Event Value)) : List (Events.Event Value) :=
  events.insertionSort fun a b => a.seq ≤ b.seq

/-- `ProjectionRouter.apply_batch`. -/
def applyBatch (ps : List Projection) (events : List (Events.Event Value)) :
    Tables → Except PyError Tables := eachOk (dispatch ps) (bySeq events)

/-- `ProjectionRouter.truncate_all`. -/
def truncateAll (ps : List Projection) (db : Tables) : Tables :=
  ps.foldl (fun db p => p.truncate db) db

/-- Batches one after the other. -/
def applyCuts (ps : List Projection) (cuts : List (List (Events.Event Value))) :
    Tables → Except PyError Tables := eachOk (applyBatch ps) cuts

/-! ## Rebuilding -/

/-- `EventRepository.scan` from a tick, by sequence number. -/
def scan (events : List (Events.Event Value)) (fromTick : Int) : List (Events.Event Value) :=
  bySeq (events.filter fun e => fromTick ≤ e.tick)

/-- `events[offset:offset + batch]`, for every offset. -/
def slices (batch : Nat) (events : List (Events.Event Value)) :
    List (List (Events.Event Value)) :=
  (List.range ((events.length + batch - 1) / batch)).map fun i =>
    (events.drop (i * batch)).take batch

/-- `rebuild`; the batch size is positive. -/
def rebuild (ps : List Projection) (stored : List (Events.Event Value)) (fromTick : Int)
    (batch : Nat) (db : Tables) : Except PyError Tables :=
  applyCuts ps (slices batch (scan stored fromTick)) (truncateAll ps db)

/-! ## Cuts -/

/-- In the order of the log. -/
def InOrder (events : List (Events.Event Value)) : Prop :=
  events.Pairwise fun a b => a.seq ≤ b.seq

theorem bySeq_eq_self {events : List (Events.Event Value)} (h : InOrder events) :
    bySeq events = events := List.Pairwise.insertionSort_eq h

theorem bySeq_inOrder (events : List (Events.Event Value)) : InOrder (bySeq events) := by
  let r : Events.Event Value → Events.Event Value → Prop := fun a b => a.seq ≤ b.seq
  have : Std.Total r := ⟨fun a b => le_total a.seq b.seq⟩
  have : IsTrans _ r := ⟨fun a b c hab hbc => le_trans hab hbc⟩
  exact List.pairwise_insertionSort r events

theorem applyBatch_eq {ps : List Projection} {events : List (Events.Event Value)}
    (h : InOrder events) : applyBatch ps events = eachOk (dispatch ps) events := by
  unfold applyBatch
  rw [bySeq_eq_self h]

theorem applyCuts_eq {ps : List Projection} {cuts : List (List (Events.Event Value))}
    (h : InOrder cuts.flatten) (db : Tables) :
    applyCuts ps cuts db = eachOk (dispatch ps) cuts.flatten db := by
  induction cuts generalizing db with
  | nil => rfl
  | cons cut cuts ih =>
    rw [List.flatten_cons] at h ⊢
    obtain ⟨hcut, hcuts, -⟩ := List.pairwise_append.mp h
    rw [eachOk_append]
    show eachOk (applyBatch ps) (cut :: cuts) db = _
    simp only [eachOk]
    rw [applyBatch_eq hcut]
    cases eachOk (dispatch ps) cut db with
    | error err => rfl
    | ok db' => exact ih hcuts db'

theorem take_append_slices (batch n : Nat) (events : List (Events.Event Value)) :
    ((List.range n).map fun i => (events.drop (i * batch)).take batch).flatten
      = events.take (n * batch) := by
  induction n with
  | zero => simp
  | succ n ih =>
    rw [List.range_succ, List.map_append, List.flatten_append, ih, Nat.succ_mul, List.take_add]
    simp

theorem slices_flatten {batch : Nat} (hbatch : 0 < batch) (events : List (Events.Event Value)) :
    (slices batch events).flatten = events := by
  unfold slices
  rw [take_append_slices]
  apply List.take_of_length_le
  have hdiv := Nat.div_add_mod (events.length + batch - 1) batch
  have hmod := Nat.mod_lt (events.length + batch - 1) hbatch
  have hcomm := Nat.mul_comm batch ((events.length + batch - 1) / batch)
  omega

theorem rebuild_eq {batch : Nat} (hbatch : 0 < batch) (ps : List Projection)
    (stored : List (Events.Event Value)) (fromTick : Int) (db : Tables) :
    rebuild ps stored fromTick batch db
      = eachOk (dispatch ps) (scan stored fromTick) (truncateAll ps db) := by
  unfold rebuild
  have hflat := slices_flatten hbatch (scan stored fromTick)
  rw [applyCuts_eq (by rw [hflat]; exact bySeq_inOrder _), hflat]

end Polis.Store
