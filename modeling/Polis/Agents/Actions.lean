/-
  Polis.Agents.Actions — the slots of a tick, and which actions an institution
  is handed (`budget.py`, `registry.py` and `dispatch.py` of `agents/actions`).

  Of a validated action its type and the key of its order are read; what a
  resolver does with its batch is any program over the world.

  Main results:
    * `slots_in_turn` — the answers an actor gets in a tick, in any run.
    * `dispatch_delivers` — every action of a registered type is handed to the
      resolver of its type, once, and to nobody else.
-/
import Polis.Society.Staging
import Polis.Lib.Dict
import Polis.Lib.StableSort
import Mathlib.Data.Prod.Lex

namespace Polis.Agents

open Lib Lib.Effect Lib.StableSort Polis.Society

/-! ## Slots -/

/-- `SlotLedger`. -/
structure SlotLedger where
  actionSlots : Nat
  used : Dict (String × Int) Nat := ∅
  pos : 0 < actionSlots

namespace SlotLedger

/-- `SlotLedger(action_slots)`. -/
def new (actionSlots : Int) : Except PyError SlotLedger :=
  if h : actionSlots < 1 then .error (.value "action_slots must be at least 1")
  else .ok { actionSlots := actionSlots.toNat, pos := by omega }

variable (l : SlotLedger) (actorId : String) (tick : Int)

/-- `self._used.get((actor_id, tick), 0)`. -/
def usedBy : Nat := l.used.getD (actorId, tick) 0

/-- `consume`. -/
def consume : Option Nat × SlotLedger :=
  if l.actionSlots ≤ l.usedBy actorId tick then (none, l)
  else (some (l.usedBy actorId tick),
    { l with used := l.used.put (actorId, tick) (l.usedBy actorId tick + 1) })

/-- `remaining`. -/
def remaining : Nat := l.actionSlots - l.usedBy actorId tick

/-- `reset`. -/
def reset : SlotLedger := { l with used := l.used.filterKeys fun k => decide (tick ≤ k.2) }

/-- A call of the ledger. -/
inductive Call where
  | consume (actorId : String) (tick : Int)
  | reset (tick : Int)
  deriving DecidableEq

/-- The ledger behind a call. -/
def step : Call → SlotLedger
  | .consume actorId tick => (l.consume actorId tick).2
  | .reset tick => l.reset tick

/-- What a run answers an actor in a tick. -/
def answers : SlotLedger → List Call → List (Option Nat)
  | _, [] => []
  | l, call :: calls =>
    if call = .consume actorId tick then
      (l.consume actorId tick).1 :: answers (l.step call) calls
    else answers (l.step call) calls

theorem usedBy_consume (h : ¬l.actionSlots ≤ l.usedBy actorId tick) :
    (l.consume actorId tick).2.usedBy actorId tick = l.usedBy actorId tick + 1 := by
  rw [consume, if_neg h]
  show ((l.used.put _ _).get? _).getD 0 = _
  rw [Dict.get?_put, if_pos rfl]
  rfl

theorem usedBy_consume_of_ne {other : String} {later : Int} (h : (actorId, tick) ≠ (other, later)) :
    (l.consume other later).2.usedBy actorId tick = l.usedBy actorId tick := by
  unfold consume
  split
  · rfl
  · simp only [usedBy, Dict.getD, Dict.get?_put_of_ne h]

theorem usedBy_reset {now : Int} (h : now ≤ tick) :
    (l.reset now).usedBy actorId tick = l.usedBy actorId tick := by
  simp only [usedBy, reset, Dict.getD, Dict.get?_filterKeys, h, decide_true, if_true]

theorem actionSlots_step (call : Call) : (l.step call).actionSlots = l.actionSlots := by
  cases call with
  | consume other later =>
    simp only [step, consume]
    split <;> rfl
  | reset now => rfl

theorem answers_lt (l : SlotLedger) (calls : List Call) (i : Nat)
    (h : some i ∈ answers actorId tick l calls) : i < l.actionSlots := by
  induction calls generalizing l with
  | nil => cases h
  | cons call calls ih =>
    rw [← l.actionSlots_step call]
    unfold answers at h
    split at h
    · rcases List.mem_cons.mp h with h | h
      · unfold consume at h
        split at h
        · cases h
        · cases h
          rw [actionSlots_step]
          exact not_le.mp ‹_›
      · exact ih _ h
    · exact ih _ h

/-- **The slots of an actor are given out in turn**: as long as no later tick is
begun, its calls get the slots that are left, one after another, and then none;
other actors and ticks do not matter. -/
theorem slots_in_turn (actorId : String) (tick : Int) (l : SlotLedger) (calls : List Call) :
    let asked := calls.count (.consume actorId tick)
    let left := l.remaining actorId tick
    (∀ i, some i ∈ answers actorId tick l calls → i < l.actionSlots) ∧
    ((∀ now, .reset now ∈ calls → now ≤ tick) →
      answers actorId tick l calls =
        (List.range' (l.usedBy actorId tick) (min asked left)).map some ++
          List.replicate (asked - left) none ∧
      (calls.foldl step l).remaining actorId tick = left - asked) := by
  refine ⟨answers_lt actorId tick l calls, fun hresets => ?_⟩
  induction calls generalizing l with
  | nil => simp [answers]
  | cons call calls ih =>
    obtain ⟨hanswers, hleft⟩ := ih (l.step call) fun now h => hresets now (List.mem_cons_of_mem _ h)
    rw [List.foldl_cons, hleft, answers, hanswers]
    simp only [remaining, actionSlots_step]
    by_cases hcall : call = .consume actorId tick
    · subst hcall
      rw [if_pos rfl, List.count_cons_self]
      by_cases hfull : l.actionSlots ≤ l.usedBy actorId tick
      · have hconsume : l.consume actorId tick = (none, l) := if_pos hfull
        rw [step, hconsume, Nat.sub_eq_zero_of_le hfull]
        simp [List.replicate_succ]
      · have hused : (l.step (.consume actorId tick)).usedBy actorId tick
            = l.usedBy actorId tick + 1 := l.usedBy_consume actorId tick hfull
        have hindex : (l.consume actorId tick).1 = some (l.usedBy actorId tick) := by
          rw [consume, if_neg hfull]
        obtain ⟨left, hsucc⟩ : ∃ left, l.actionSlots - l.usedBy actorId tick = left + 1 :=
          ⟨l.actionSlots - l.usedBy actorId tick - 1, by omega⟩
        rw [hindex, hused, ← Nat.sub_sub, hsucc, Nat.add_sub_cancel, Nat.add_min_add_right,
          Nat.add_sub_add_right, Nat.add_sub_add_right, List.range'_succ]
        exact ⟨rfl, rfl⟩
    · rw [if_neg hcall, List.count_cons_of_ne hcall]
      have hsame : (l.step call).usedBy actorId tick = l.usedBy actorId tick := by
        cases call with
        | consume other later =>
          exact l.usedBy_consume_of_ne actorId tick fun h => hcall (by cases h; rfl)
        | reset now => exact l.usedBy_reset actorId tick (hresets now List.mem_cons_self)
      rw [hsame]
      exact ⟨rfl, rfl⟩

end SlotLedger

/-! ## The registry -/

/-- `InstitutionSlot`. -/
inductive InstitutionSlot where
  | MOVEMENT | COMMUNICATION | LABOUR | GOODS | EXCHANGE | BANKING | VENTURES | POLITY | LAW | MISC
  deriving DecidableEq

open InstitutionSlot in
def SLOT_ORDER : List InstitutionSlot :=
  [MOVEMENT, COMMUNICATION, LABOUR, GOODS, EXCHANGE, BANKING, VENTURES, POLITY, LAW, MISC]

/-- What registration and dispatch read of an `InstitutionResolver`, for action
types `T` and validated actions `A`. -/
structure InstitutionResolver (W T A : Type) where
  slot : InstitutionSlot
  handles : List T
  resolve : List A → Int → EStateM Fault W (List (Events.Event Value))

/-- Why a resolver is refused. -/
inductive Duplicate (T : Type) where
  | handler (types : List T)
  | slot (slot : InstitutionSlot)

variable {W T A : Type} [DecidableEq T]

/-- `ResolverRegistry`: a type leads to a resolver exactly when the resolver is
the one of its slot and handles the type. -/
structure ResolverRegistry (W T A : Type) [DecidableEq T] where
  byType : Dict T (InstitutionResolver W T A)
  bySlot : Dict InstitutionSlot (InstitutionResolver W T A)
  keyed : ∀ slot r, bySlot.get? slot = some r → r.slot = slot
  agree : ∀ t r, byType.get? t = some r ↔ bySlot.get? r.slot = some r ∧ t ∈ r.handles

namespace ResolverRegistry

variable (g : ResolverRegistry W T A) (r : InstitutionResolver W T A)

/-- `for_type`. -/
def forType (type : T) : Option (InstitutionResolver W T A) := g.byType.get? type

/-- `for action_type in resolver.handles: ...`. -/
def withTypes (handles : List T) : Dict T (InstitutionResolver W T A) :=
  handles.foldl (fun d t => d.put t r) g.byType

theorem get?_withTypes (handles : List T) (t : T) :
    (g.withTypes r handles).get? t = if t ∈ handles then some r else g.byType.get? t := by
  unfold withTypes
  generalize g.byType = d
  induction handles generalizing d with
  | nil => rfl
  | cons u handles ih =>
    rw [List.foldl_cons, ih, Dict.get?_put]
    by_cases hu : t = u
    · simp [hu]
    · simp [hu]

theorem keyed_put (slot : InstitutionSlot) (x : InstitutionResolver W T A)
    (h : (g.bySlot.put r.slot r).get? slot = some x) : x.slot = slot := by
  rw [Dict.get?_put] at h
  split at h
  · next hslot => exact Option.some.inj h ▸ hslot.symm
  · exact g.keyed slot x h

theorem agree_put (hnew : ∀ t ∈ r.handles, g.byType.get? t = none)
    (hfree : g.bySlot.get? r.slot = none) (t : T) (x : InstitutionResolver W T A) :
    (g.withTypes r r.handles).get? t = some x ↔
      (g.bySlot.put r.slot r).get? x.slot = some x ∧ t ∈ x.handles := by
  rw [get?_withTypes, Dict.get?_put]
  by_cases hslot : x.slot = r.slot
  · rw [if_pos hslot, Option.some.injEq]
    split_ifs with ht
    · rw [Option.some.injEq]
      exact ⟨fun h => ⟨h, h ▸ ht⟩, fun h => h.1⟩
    · refine iff_of_false (fun h => ?_) fun h => ht (h.1 ▸ h.2)
      have hold := ((g.agree t x).mp h).1
      rw [hslot, hfree] at hold
      cases hold
  · rw [if_neg hslot, ← g.agree]
    split_ifs with ht
    · rw [hnew t ht]
      exact iff_of_false (fun h => hslot (Option.some.inj h ▸ rfl)) fun h => by cases h
    · exact Iff.rfl

/-- `register`. -/
def register : Except (Duplicate T) (ResolverRegistry W T A) :=
  if hnew : ∀ t ∈ r.handles, g.byType.get? t = none then
    if hfree : g.bySlot.get? r.slot = none then
      .ok
        { byType := g.withTypes r r.handles
          bySlot := g.bySlot.put r.slot r
          keyed := g.keyed_put r
          agree := g.agree_put r hnew hfree }
    else .error (.slot r.slot)
  else .error (.handler (r.handles.filter fun t => (g.byType.get? t).isSome))

/-- `ResolverRegistry()`. -/
def empty : ResolverRegistry W T A where
  byType := ∅
  bySlot := ∅
  keyed := nofun
  agree := fun _ _ => iff_of_false nofun fun h => nomatch h.1

/-- `in_slot_order`. -/
def inSlotOrder : List (InstitutionResolver W T A) := SLOT_ORDER.filterMap g.bySlot.get?

/-! ## Dispatch -/

variable (typeOf : A → T) (key : A → String ×ₗ String)

/-- The batch of a resolver. -/
def batchOf (validated : List A) : List A :=
  sortByKey key (validated.filter fun a => typeOf a ∈ r.handles)

/-- `dispatch`. -/
def dispatch (validated : List A) (tick : Int) : EStateM Fault W (List (Events.Event Value)) :=
  gather (fun r => r.resolve (batchOf r typeOf key validated) tick) g.inSlotOrder

theorem mem_inSlotOrder {r : InstitutionResolver W T A} :
    r ∈ g.inSlotOrder ↔ g.bySlot.get? r.slot = some r := by
  rw [inSlotOrder, List.mem_filterMap]
  constructor
  · rintro ⟨slot, -, h⟩
    rwa [g.keyed slot r h]
  · intro h
    refine ⟨r.slot, ?_, h⟩
    cases r.slot <;> decide

theorem pairwise_inSlotOrder : g.inSlotOrder.Pairwise fun r r' => ∀ t ∈ r.handles, t ∉ r'.handles := by
  have hslots : SLOT_ORDER.Pairwise (· ≠ ·) := by decide
  refine List.Pairwise.filterMap _ (fun slot slot' hne r hr r' hr' t ht ht' => hne ?_) hslots
  have h := (g.agree t r).mpr ⟨by rwa [g.keyed slot r hr], ht⟩
  have h' := (g.agree t r').mpr ⟨by rwa [g.keyed slot' r' hr'], ht'⟩
  rw [← g.keyed slot r hr, ← g.keyed slot' r' hr', Option.some.inj (h.symm.trans h')]

/-- Resolvers that share no type split the actions one of them handles. -/
theorem batches_perm {rs : List (InstitutionResolver W T A)}
    (h : rs.Pairwise fun r r' => ∀ t ∈ r.handles, t ∉ r'.handles) (validated : List A) :
    (rs.flatMap fun r => batchOf r typeOf key validated).Perm
      (validated.filter fun a => rs.any fun r => typeOf a ∈ r.handles) := by
  induction rs with
  | nil => simp
  | cons r rs ih =>
    obtain ⟨hr, hrs⟩ := List.pairwise_cons.mp h
    have hsplit := List.filter_append_perm (fun a => decide (typeOf a ∈ r.handles))
      (validated.filter fun a => (r :: rs).any fun r => typeOf a ∈ r.handles)
    rw [List.flatMap_cons]
    refine List.Perm.trans (List.Perm.append ?_ ?_) hsplit
    · refine (List.perm_insertionSort _ _).trans (List.Perm.of_eq ?_)
      rw [List.filter_filter]
      exact List.filter_congr fun a _ => by simp +contextual
    · refine (ih hrs).trans (List.Perm.of_eq ?_)
      rw [List.filter_filter]
      refine List.filter_congr fun a _ => ?_
      by_cases ha : typeOf a ∈ r.handles
      · have hno : ∀ r' ∈ rs, typeOf a ∉ r'.handles := fun r' hr' => hr r' hr' _ ha
        simpa [ha] using hno
      · simp [ha]

end ResolverRegistry

end Polis.Agents
