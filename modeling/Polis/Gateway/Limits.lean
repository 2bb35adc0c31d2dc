/-
  Polis.Gateway.Limits — request, slot and abuse accounting of one gateway
  instance (`gateway/limits.py`), and the errors of the gateway.

  A `defaultdict` is a total function with the default at every other key.
  The monotonic clock is read by the caller and passed in.

  Main results:
    * `charge_observes` / `strike_slots` — charging a request or a strike
      touches the slot counts only by forgetting older ticks.
    * `slotTake_observes` — so does a `slot_take` that raises.
-/
import Polis.Lib.Effect
import Mathlib.Data.Rat.Defs
import Mathlib.Algebra.Order.Ring.Rat

namespace Polis.Gateway

open Lib.Effect

/-! ## Errors -/

/-- `ErrorCode`. -/
inductive ErrorCode where
  | notAdmitted | revoked | suspended | sessionInvalid | badSignature | nonceReused
  | duplicateActionId | tickMismatch | late | noSlots | unknownActionType | schemaInvalid
  | payloadTooLarge | rateLimited | queueFull | notVisible | gatewayDegraded
  deriving Repr, DecidableEq

/-- `ProtocolError`. -/
structure ProtocolError where
  code : ErrorCode
  retryAfterMs : Option Int := none
  strikes : Int := 0
  deriving Repr, DecidableEq

/-- What a gateway call raises. -/
inductive GatewayFault where
  | protocol (e : ProtocolError)
  /-- A `ValueError` of the signed-byte builders. -/
  | value
  deriving Repr, DecidableEq

/-! ## State -/

inductive Bucket where
  | request | recall | history | memory
  deriving Repr, DecidableEq

inductive Trigger where
  | schema | signature | rate
  deriving Repr, DecidableEq

structure LimitConfig where
  requestsPerTick : Int := 40
  requestsPerSecond : Int := 20
  recallQueriesPerTick : Int := 6
  historyQueriesPerTick : Int := 3
  memoryWritesPerTick : Int := 2
  actionSlots : Int := 1
  suspensionTicks : Int := 240
  deriving Repr, DecidableEq

/-- `_Discipline`. -/
structure Discipline where
  suspendedUntilTick : Option Int := none
  throttledUntilTick : Option Int := none
  suspensions : Int := 0
  revoked : Bool := false
  deriving Repr, DecidableEq

structure LimitSet where
  config : LimitConfig := {}
  tickCounts : String → Int → Bucket → Int := fun _ _ _ => 0
  slots : String → Int → Int := fun _ _ => 0
  second : String → List ℚ := fun _ => []
  strikes : String → List (Int × Trigger) := fun _ => []
  discipline : String → Discipline := fun _ => {}
  latestTick : Int := -1

/-- A `defaultdict` with one entry written. -/
def setAt {α : Type} (f : String → α) (k : String) (v : α) : String → α :=
  fun x => if x = k then v else f x

namespace LimitSet

/-! ## Operations -/

/-- `_observe_tick`: counts of older ticks are forgotten. -/
def observeTick (tick : Int) (l : LimitSet) : LimitSet :=
  if tick ≤ l.latestTick then l
  else
    { l with
      latestTick := tick
      tickCounts := fun agent t bucket => if tick ≤ t then l.tickCounts agent t bucket else 0
      slots := fun agent t => if tick ≤ t then l.slots agent t else 0 }

/-- The strikes of the last hundred ticks. -/
def window (l : LimitSet) (agentId : String) (tick : Int) : List (Int × Trigger) :=
  (l.strikes agentId).dropWhile fun s => decide (s.1 < tick - 99)

/-- `_windowed_strikes`. -/
def windowedStrikes (agentId : String) (tick : Int) (l : LimitSet) : Int × LimitSet :=
  let history := l.window agentId tick
  (history.length, { l with strikes := setAt l.strikes agentId history })

/-- The suspension step of `strike`. -/
def disciplined (config : LimitConfig) (tick : Int) (history : List (Int × Trigger))
    (d : Discipline) : Discipline :=
  let badSignatures := (history.filter fun s => s.2 = .signature).length
  if badSignatures ≥ 5 ∨ history.length ≥ 25 then
    if d.suspendedUntilTick.any fun t => tick < t then d
    else
      { d with
        suspendedUntilTick := some (tick + config.suspensionTicks)
        suspensions := d.suspensions + 1
        revoked := d.revoked || decide (d.suspensions + 1 ≥ 3) }
  else if history.length ≥ 10 then { d with throttledUntilTick := some (tick + 100) }
  else d

/-- `strike`. -/
def strike (agentId : String) (tick : Int) (trigger : Trigger) (l : LimitSet) : Int × LimitSet :=
  let history := l.window agentId tick ++ [(tick, trigger)]
  let sameTick := (history.filter fun s => s.1 = tick).length
  (history.length,
    { l with
      strikes := setAt l.strikes agentId history
      discipline := setAt l.discipline agentId
        (disciplined l.config tick history (l.discipline agentId))
      tickCounts :=
        if sameTick ≥ 3 then fun agent t bucket =>
          if agent = agentId ∧ t = tick ∧ bucket = .request then l.config.requestsPerTick
          else l.tickCounts agent t bucket
        else l.tickCounts })

/-- `_assert_available`. -/
def assertAvailable (agentId : String) (tick : Int) : EStateM GatewayFault LimitSet Unit := do
  let l ← get
  let d := l.discipline agentId
  if d.revoked then do
    let (strikes, l') := l.windowedStrikes agentId tick
    set l'
    throw (.protocol { code := .revoked, strikes })
  else if d.suspendedUntilTick.any fun t => tick < t then do
    let (strikes, l') := l.windowedStrikes agentId tick
    set l'
    throw (.protocol { code := .suspended, retryAfterMs := some 1000, strikes })
  else pure ()

/-- The limit of a bucket; throttled agents have half the requests. -/
def bucketLimit (l : LimitSet) (agentId : String) (bucket : Bucket) (tick : Int) : Int :=
  match bucket with
  | .request =>
    if (l.discipline agentId).throttledUntilTick.any fun t => tick < t then
      max 1 (l.config.requestsPerTick / 2)
    else l.config.requestsPerTick
  | .recall => l.config.recallQueriesPerTick
  | .history => l.config.historyQueriesPerTick
  | .memory => l.config.memoryWritesPerTick

/-- `RATE_LIMITED`, with the strike it costs. -/
def rateLimited (agentId : String) (tick : Int) : EStateM GatewayFault LimitSet Unit := do
  let l ← get
  let (strikes, l') := l.strike agentId tick .rate
  set l'
  throw (.protocol { code := .rateLimited, retryAfterMs := some 1000, strikes })

/-- One more request in a bucket. -/
def countRequest (agentId : String) (bucket : Bucket) (tick : Int) (l : LimitSet) : LimitSet :=
  { l with
    tickCounts := fun agent t b =>
      if agent = agentId ∧ t = tick ∧ b = bucket then l.tickCounts agentId tick bucket + 1
      else l.tickCounts agent t b }

/-- The requests of the last second. -/
def lastSecond (l : LimitSet) (agentId : String) (now : ℚ) : List ℚ :=
  (l.second agentId).dropWhile fun t => decide (t ≤ now - 1)

/-- The once-a-second limit of `charge`. -/
def chargeSecond (agentId : String) (tick : Int) (now : ℚ) :
    EStateM GatewayFault LimitSet Unit := do
  modify fun l => { l with second := setAt l.second agentId (l.lastSecond agentId now) }
  let l ← get
  if ((l.second agentId).length : Int) ≥ l.config.requestsPerSecond then rateLimited agentId tick
  else modify fun l => { l with second := setAt l.second agentId (l.second agentId ++ [now]) }

/-- `charge`. -/
def charge (agentId : String) (bucket : Bucket) (tick : Int) (now : ℚ) :
    EStateM GatewayFault LimitSet Unit := do
  modify (observeTick tick)
  assertAvailable agentId tick
  let l ← get
  if l.tickCounts agentId tick bucket ≥ l.bucketLimit agentId bucket tick then
    rateLimited agentId tick
  else do
    runIf (bucket = .request) (chargeSecond agentId tick now)
    modify (countRequest agentId bucket tick)

/-- The slots an agent has taken in a tick, written. -/
def withSlots (agentId : String) (tick : Int) (taken : Int) (l : LimitSet) : LimitSet :=
  { l with
    slots := fun agent t => if agent = agentId ∧ t = tick then taken else l.slots agent t }

/-- `slot_take`. -/
def slotTake (agentId : String) (tick : Int) : EStateM GatewayFault LimitSet Int := do
  modify (observeTick tick)
  assertAvailable agentId tick
  let l ← get
  require (l.slots agentId tick < l.config.actionSlots) (.protocol { code := .noSlots })
  set (l.withSlots agentId tick (l.slots agentId tick + 1))
  pure (l.config.actionSlots - (l.slots agentId tick + 1))

/-- The slots left after giving one back. -/
def released (taken : Int) : Int := if taken ≤ 1 then 0 else taken - 1

/-- `slot_release`. -/
def slotRelease (agentId : String) (tick : Int) (l : LimitSet) : LimitSet :=
  l.withSlots agentId tick (released (l.slots agentId tick))

/-! ## What happens to the slot counts -/

/-- The slot counts are the same, but for older ticks forgotten. -/
def SlotsObserved (tick : Int) (l l' : LimitSet) : Prop :=
  ∀ agent t, l'.slots agent t = l.slots agent t ∨ (t < tick ∧ l'.slots agent t = 0)

theorem slotsObserved_refl (tick : Int) (l : LimitSet) : SlotsObserved tick l l :=
  fun _ _ => .inl rfl

theorem slotsObserved_of_slots {tick : Int} {l l' : LimitSet} (h : l'.slots = l.slots) :
    SlotsObserved tick l l' := fun _ _ => .inl (by rw [h])

theorem slotsObserved_trans (tick : Int) (a b c : LimitSet) (h : SlotsObserved tick a b)
    (h' : SlotsObserved tick b c) : SlotsObserved tick a c := by
  intro agent t
  rcases h' agent t with hc | hc
  · rw [hc]
    exact h agent t
  · exact .inr hc

theorem observeTick_slots (tick : Int) (l : LimitSet) :
    SlotsObserved tick l (observeTick tick l) := by
  intro agent t
  unfold observeTick
  by_cases hseen : tick ≤ l.latestTick
  · left
    rw [if_pos hseen]
  · rw [if_neg hseen]
    show (if tick ≤ t then l.slots agent t else 0) = _ ∨ _
    by_cases ht : tick ≤ t
    · left
      rw [if_pos ht]
    · right
      exact ⟨by omega, if_neg ht⟩

theorem strike_slots (agentId : String) (tick : Int) (trigger : Trigger) (l : LimitSet) :
    (l.strike agentId tick trigger).2.slots = l.slots := rfl

theorem assertAvailable_slots (agentId : String) (tick : Int) :
    Leaves (fun l l' : LimitSet => l'.slots = l.slots) (assertAvailable agentId tick) := by
  intro l
  unfold assertAvailable
  show (stateAfter ((if (l.discipline agentId).revoked then _ else _ :
    EStateM GatewayFault LimitSet Unit) l)).slots = l.slots
  split
  · rfl
  · split <;> rfl

theorem rateLimited_slots (agentId : String) (tick : Int) :
    Leaves (fun l l' : LimitSet => l'.slots = l.slots) (rateLimited agentId tick) :=
  fun _ => rfl

theorem chargeSecond_slots (agentId : String) (tick : Int) (now : ℚ) :
    Leaves (fun l l' : LimitSet => l'.slots = l.slots) (chargeSecond agentId tick now) := by
  have htrans : ∀ a b c : LimitSet, b.slots = a.slots → c.slots = b.slots → c.slots = a.slots :=
    fun _ _ _ h h' => h'.trans h
  unfold chargeSecond
  refine leaves_bind htrans (leaves_modify fun _ => rfl) fun _ => ?_
  refine leaves_bind htrans (leaves_get fun _ => rfl) fun l => ?_
  exact leaves_ite (rateLimited_slots agentId tick) (leaves_modify fun _ => rfl)

theorem charge_observes (agentId : String) (bucket : Bucket) (tick : Int) (now : ℚ) :
    Leaves (SlotsObserved tick) (charge agentId bucket tick now) := by
  have htrans := slotsObserved_trans tick
  unfold charge
  refine leaves_bind htrans (leaves_modify fun l => observeTick_slots tick l) fun _ => ?_
  apply leaves_bind htrans
  · exact (assertAvailable_slots agentId tick).mono fun _ _ h => slotsObserved_of_slots h
  intro _
  apply leaves_bind htrans (leaves_get (slotsObserved_refl tick))
  intro l
  apply leaves_ite
  · exact (rateLimited_slots agentId tick).mono fun _ _ h => slotsObserved_of_slots h
  · apply leaves_bind htrans
    · apply leaves_runIf (slotsObserved_refl tick)
      exact (chargeSecond_slots agentId tick now).mono fun _ _ h => slotsObserved_of_slots h
    · intro _
      exact leaves_modify fun _ => slotsObserved_of_slots rfl

theorem slotTake_cases (agentId : String) (tick : Int) (l : LimitSet) :
    (∃ e l', slotTake agentId tick l = .error e l' ∧ SlotsObserved tick l l') ∨
    (∃ left l₁, slotTake agentId tick l
        = .ok left (l₁.withSlots agentId tick (l₁.slots agentId tick + 1)) ∧
      SlotsObserved tick l l₁) := by
  have hobs := observeTick_slots tick l
  have havail := assertAvailable_slots agentId tick (observeTick tick l)
  have hstart : slotTake agentId tick l = _ := bind_of_ok rfl
  rw [hstart]
  cases hav : assertAvailable agentId tick (observeTick tick l) with
  | error e l' =>
    left
    rw [hav] at havail
    exact ⟨e, l', bind_of_error hav,
      slotsObserved_trans tick _ _ _ hobs (slotsObserved_of_slots havail)⟩
  | ok u l₁ =>
    rw [hav] at havail
    have hl₁ := slotsObserved_trans tick _ _ _ hobs (slotsObserved_of_slots havail)
    rw [bind_of_ok hav]
    by_cases hfree : l₁.slots agentId tick < l₁.config.actionSlots
    · right
      refine ⟨l₁.config.actionSlots - (l₁.slots agentId tick + 1), l₁, ?_, hl₁⟩
      refine bind_eq_ok.mpr ⟨l₁, l₁, rfl, ?_⟩
      exact bind_eq_ok.mpr ⟨(), l₁, require_eq_ok.mpr ⟨hfree, rfl⟩, rfl⟩
    · left
      refine ⟨.protocol { code := .noSlots }, l₁, ?_, hl₁⟩
      have hget : (get : EStateM GatewayFault LimitSet LimitSet) l₁ = .ok l₁ l₁ := rfl
      rw [bind_of_ok hget]
      apply bind_of_error
      unfold require
      rw [if_neg hfree]
      rfl

end LimitSet

end Polis.Gateway
