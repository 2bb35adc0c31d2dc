/-
  Polis.Gateway.HandOff — whole runs of the action queue: pushes of the
  gateway, and the drains, acknowledgements and restarts of one engine.

  The engine awaits its calls one after the other; pushes come in between,
  also between the two halves of an acknowledgement.  What was stored, what
  the last drain of a tick returned and what was deleted is recorded beside
  the store.

  Main results:
    * `Tracked.call` — what one call preserves.
    * `hand_off` — every stored record is in one place; an acknowledgement
      deletes the batch the last drain returned; drains repeated after a batch
      was claimed return it again.
    * `empty_drain_differs` — a drain that found nothing is no promise.
-/
import Polis.Gateway.Queue
import Polis.Events.Tamper
import Polis.Lib.Runs

namespace Polis.Gateway

open Lib Lib.Bytes Lib.Runs

/-! ## Calls -/

/-- The calls of a run.  `ackPeek` and `ackDelete` are the two halves of
`ack`. -/
inductive QueueCall (J : Type) where
  | push (tick : Int) (record : DrainedAction J) (d : Delivery)
  | drain (tick : Int) (d : Delivery)
  | ackPeek (tick : Int) (d : Delivery)
  | ackDelete (d : Delivery)
  | restart

/-- The store, the engine's drain object, and the records of the run. -/
structure HandOff where
  store : RedisStore := {}
  memory : DrainMemory := {}
  /-- The tick and the malformed values of an acknowledgement under way. -/
  acking : Option (Int × List ByteString) := none
  /-- Every value `push_action` stored. -/
  stored : Int → List ByteString := fun _ => []
  /-- The batch the latest drain of the tick returned in this process. -/
  returned : Int → Option (List ByteString) := fun _ => none
  /-- The batches deleted. -/
  acked : Int → List (List ByteString) := fun _ => []

section Calls

variable {J : Type} [ActionCodec J] (maxQueued : Nat)

/-- A push, recorded when it stored its value. -/
def HandOff.push (w : HandOff) (tick : Int) (record : DrainedAction J) (d : Delivery) : HandOff :=
  let store := (pushAction maxQueued tick record d w.store).2
  { w with
    store
    stored := Function.update w.stored tick
      (w.stored tick ++ (store.pending tick).drop (w.store.pending tick).length) }

/-- A drain, recorded when it returned. -/
def HandOff.drain (J : Type) [ActionCodec J] (w : HandOff) (tick : Int) (d : Delivery) :
    HandOff :=
  let run := Gateway.drain (J := J) tick d w.store w.memory
  { w with
    store := run.2.1
    memory := run.2.2
    returned :=
      if run.1.isSome then Function.update w.returned tick (some (run.2.1.processing tick))
      else w.returned }

/-- The second half of an acknowledgement, recorded when it ran. -/
def HandOff.ackDelete (w : HandOff) (tick : Int) (malformed : List ByteString) (d : Delivery) :
    HandOff :=
  let run := Gateway.ackDelete tick malformed d w.store w.memory
  { w with
    store := run.2.1
    memory := run.2.2
    acking := none
    acked :=
      if d = .lost then w.acked
      else Function.update w.acked tick (w.acked tick ++ [w.store.processing tick]) }

/-- One call; a drain or an acknowledgement waits for the one under way. -/
def HandOff.call (w : HandOff) : QueueCall J → HandOff
  | .push tick record d => w.push maxQueued tick record d
  | .drain tick d => if w.acking.isSome then w else w.drain J tick d
  | .ackPeek tick d =>
    if w.acking.isSome then w
    else { w with
      acking := (Gateway.ackPeek tick d w.store w.memory).map fun malformed => (tick, malformed) }
  | .ackDelete d =>
    match w.acking with
    | none => w
    | some (tick, malformed) => w.ackDelete tick malformed d
  | .restart => { w with memory := {}, acking := none, returned := fun _ => none }

/-- Any sequence of calls. -/
def HandOff.run (w : HandOff) (calls : List (QueueCall J)) : HandOff :=
  calls.foldl (HandOff.call maxQueued) w

section Equations

variable {maxQueued} {w : HandOff}

theorem HandOff.call_drain_busy (h : w.acking.isSome) (tick : Int) (d : Delivery) :
    w.call maxQueued (.drain (J := J) tick d) = w := if_pos h

theorem HandOff.call_drain (h : w.acking = none) (tick : Int) (d : Delivery) :
    w.call maxQueued (.drain (J := J) tick d) = w.drain J tick d := by
  simp only [HandOff.call, h, Option.isSome_none, Bool.false_eq_true, if_false]

theorem HandOff.call_ackPeek_busy (h : w.acking.isSome) (tick : Int) (d : Delivery) :
    w.call maxQueued (.ackPeek (J := J) tick d) = w := if_pos h

theorem HandOff.call_ackPeek (h : w.acking = none) (tick : Int) (d : Delivery) :
    w.call maxQueued (.ackPeek (J := J) tick d) = { w with
      acking := (Gateway.ackPeek tick d w.store w.memory).map fun malformed =>
        (tick, malformed) } := by
  simp only [HandOff.call, h, Option.isSome_none, Bool.false_eq_true, if_false]

theorem HandOff.call_ackDelete_idle (h : w.acking = none) (d : Delivery) :
    w.call maxQueued (.ackDelete (J := J) d) = w := by
  simp only [HandOff.call, h]

theorem HandOff.call_ackDelete {tick : Int} {malformed : List ByteString}
    (h : w.acking = some (tick, malformed)) (d : Delivery) :
    w.call maxQueued (.ackDelete (J := J) d) = w.ackDelete tick malformed d := by
  simp only [HandOff.call, h]

end Equations

omit [ActionCodec J] in
/-- No SHA-256 collision between the batch returned and the batch an
acknowledgement finds. -/
def Honest (w : HandOff) : QueueCall J → Prop
  | .ackPeek tick _ => ∀ raw ∈ w.returned tick, ∀ p ∈ batchPreimage raw,
      ∀ q ∈ batchPreimage (w.store.processing tick), NoCollision p q
  | _ => True

omit [ActionCodec J] in
instance (w : HandOff) : (c : QueueCall J) → Decidable (Honest w c)
  | .push _ _ _ => isTrue trivial
  | .drain _ _ => isTrue trivial
  | .ackPeek tick _ => inferInstanceAs (Decidable (∀ raw ∈ w.returned tick,
      ∀ p ∈ batchPreimage raw, ∀ q ∈ batchPreimage (w.store.processing tick),
        sha256 p = sha256 q → p = q))
  | .ackDelete _ => isTrue trivial
  | .restart => isTrue trivial

end Calls

/-! ## The invariant -/

section Tracked

variable (J : Type) [ActionCodec J]

/-- The records of the batches deleted in a tick. -/
def HandOff.done (w : HandOff) (tick : Int) : List ByteString :=
  (w.acked tick).flatten.filter (isRecord J)

/-- What the drain object remembers of a tick is the batch it returned. -/
def Remembers (m : DrainMemory) (returned : Int → Option (List ByteString)) (tick : Int) : Prop :=
  ∀ marker, m.delivered.get? tick = some marker → ∃ raw, returned tick = some raw ∧
    batchMarker raw = some marker ∧ Readable J raw ∧
      m.malformed.getD tick [] = raw.filter (isMalformed J)

structure Tracked (w : HandOff) : Prop where
  /-- Every stored value is in one place. -/
  places : ∀ tick, (w.stored tick).Perm (w.store.pending tick ++ w.store.processing tick ++
    w.store.quarantine tick ++ w.done J tick)
  remembers : ∀ tick, Remembers J w.memory w.returned tick
  /-- An acknowledgement under way found the batch last returned. -/
  underWay : ∀ tick malformed, w.acking = some (tick, malformed) →
    w.returned tick = some (w.store.processing tick) ∧ Readable J (w.store.processing tick) ∧
      malformed = (w.store.processing tick).filter (isMalformed J)

theorem tracked_start : Tracked J {} where
  places := fun _ => List.Perm.refl _
  remembers := fun _ _ h => by cases h
  underWay := fun _ _ h => by cases h

end Tracked

/-! ## What the operations do to the store -/

section Operations

variable {J : Type} [ActionCodec J]

theorem pushAction_store (maxQueued : Nat) (tick : Int) (record : DrainedAction J) (d : Delivery)
    (s : RedisStore) : ∃ new, (pushAction maxQueued tick record d s).2
      = { s with pending := Function.update s.pending tick (s.pending tick ++ new) } := by
  have hsame : s = { s with pending := Function.update s.pending tick (s.pending tick ++ []) } := by
    simp
  have hscript : ∀ payload, ∃ new, (s.pushCapped maxQueued tick payload).2
      = { s with pending := Function.update s.pending tick (s.pending tick ++ new) } := by
    intro payload
    unfold RedisStore.pushCapped
    dsimp only
    split
    · exact ⟨[], hsame⟩
    · exact ⟨[payload], rfl⟩
  unfold pushAction
  split
  · exact ⟨[], hsame⟩
  · split
    · exact ⟨[], hsame⟩
    · next payload _ =>
      cases d with
      | answered =>
        simp only [redisCall]
        split <;> exact hscript payload
      | unanswered => exact hscript payload
      | lost => exact ⟨[], hsame⟩

theorem claimBatch_cases (tick : Int) (s : RedisStore) :
    (s.claimBatch tick).1 = (s.claimBatch tick).2.processing tick ∧
    ((s.claimBatch tick).2 = s ∨ (s.processing tick = [] ∧ (s.claimBatch tick).2 = { s with
      pending := Function.update s.pending tick []
      processing := Function.update s.processing tick (s.pending tick) })) := by
  unfold RedisStore.claimBatch
  split
  · next h => exact ⟨by simp, .inr ⟨h.1, rfl⟩⟩
  · exact ⟨rfl, .inl rfl⟩

theorem drain_store (tick : Int) (d : Delivery) (s : RedisStore) (m : DrainMemory) :
    (drain (J := J) tick d s m).2.1 = s ∨ (s.processing tick = [] ∧
      (drain (J := J) tick d s m).2.1 = { s with
        pending := Function.update s.pending tick []
        processing := Function.update s.processing tick (s.pending tick) }) := by
  have hclaim := (claimBatch_cases tick s).2
  cases d with
  | answered => exact hclaim
  | unanswered => exact hclaim
  | lost => exact .inl rfl

theorem drain_eq_some {tick : Int} {d : Delivery} {s s' : RedisStore} {m m' : DrainMemory}
    {records : List (DrainedAction J)} (h : drain tick d s m = (some records, s', m')) :
    d = .answered ∧ ∃ decoded bad marker, decodeAll (s'.processing tick) = some (decoded, bad) ∧
      batchMarker (s'.processing tick) = some marker ∧ records = stable decoded ∧
      m' = (m.prune tick).remember tick marker bad := by
  have hraw := (claimBatch_cases tick s).1
  unfold drain at h
  cases d with
  | unanswered => cases h
  | lost => cases h
  | answered =>
    refine ⟨rfl, ?_⟩
    simp only [redisCall, Prod.mk.injEq] at h
    obtain ⟨hrecords, rfl, hmemory⟩ := h
    rw [hraw] at hrecords hmemory
    unfold receive at hrecords hmemory
    cases hdec : decodeAll (J := J) ((s.claimBatch tick).2.processing tick) with
    | none =>
      simp only [hdec] at hrecords
      cases hrecords
    | some p =>
      cases hmark : batchMarker ((s.claimBatch tick).2.processing tick) with
      | none =>
        simp only [hdec, hmark] at hrecords
        cases hrecords
      | some marker =>
        simp only [hdec, hmark] at hrecords hmemory
        exact ⟨p.1, p.2, marker, rfl, rfl, (Option.some.inj hrecords).symm, hmemory.symm⟩

theorem drain_eq_none {tick : Int} {d : Delivery} {s s' : RedisStore} {m m' : DrainMemory}
    (h : drain (J := J) tick d s m = (none, s', m')) : m' = m ∨ m' = m.prune tick := by
  unfold drain at h
  cases d with
  | unanswered =>
    cases h
    exact .inl rfl
  | lost =>
    cases h
    exact .inl rfl
  | answered =>
    simp only [redisCall, Prod.mk.injEq] at h
    obtain ⟨hrecords, -, hmemory⟩ := h
    unfold receive at hrecords hmemory
    cases hdec : decodeAll (J := J) (s.claimBatch tick).1 with
    | none =>
      simp only [hdec] at hmemory
      exact .inl hmemory.symm
    | some p =>
      cases hmark : batchMarker (s.claimBatch tick).1 with
      | none =>
        simp only [hdec, hmark] at hmemory
        exact .inr hmemory.symm
      | some marker =>
        simp only [hdec, hmark] at hrecords
        cases hrecords

omit [ActionCodec J] in
theorem ackPeek_eq_some {tick : Int} {d : Delivery} {s : RedisStore} {m : DrainMemory}
    {malformed : List ByteString} (h : ackPeek tick d s m = some malformed) :
    ∃ marker, m.delivered.get? tick = some marker ∧
      batchMarker (s.processing tick) = some marker ∧ malformed = m.malformed.getD tick [] := by
  unfold ackPeek at h
  cases hm : m.delivered.get? tick with
  | none =>
    simp only [hm] at h
    cases h
  | some marker =>
    cases d with
    | unanswered =>
      simp only [hm, redisCall] at h
      cases h
    | lost =>
      simp only [hm, redisCall] at h
      cases h
    | answered =>
      simp only [hm, redisCall, RedisStore.peekBatch] at h
      split at h
      · next hmark => exact ⟨marker, rfl, hmark, (Option.some.inj h).symm⟩
      · cases h

theorem ackScript_store {tick : Int} {s : RedisStore} {malformed : List ByteString}
    (h : malformed = (s.processing tick).filter (isMalformed J)) :
    (ackScript tick malformed s).2 = { s with
      processing := Function.update s.processing tick []
      quarantine := Function.update s.quarantine tick (s.quarantine tick ++ malformed) } := by
  unfold ackScript
  by_cases hnone : malformed = []
  · rw [if_pos hnone, hnone]
    simp [RedisStore.ackBatch]
  · rw [if_neg hnone]
    unfold RedisStore.ackBatchWithQuarantine
    have hproc : s.processing tick ≠ [] := by
      intro hempty
      rw [hempty] at h
      exact hnone h
    rw [if_neg hproc]

end Operations

/-! ## One call -/

section Steps

variable {J : Type} [ActionCodec J] {maxQueued : Nat} {w : HandOff}

theorem Remembers.prune {m : DrainMemory} {returned : Int → Option (List ByteString)} {tick : Int}
    (h : Remembers J m returned tick) (now : Int) : Remembers J (m.prune now) returned tick := by
  intro marker hget
  unfold DrainMemory.prune at hget ⊢
  dsimp only at hget ⊢
  rw [Dict.get?_filterKeys] at hget
  unfold Dict.getD
  rw [Dict.get?_filterKeys]
  split at hget
  · next hp =>
    rw [if_pos hp]
    exact h marker hget
  · cases hget

theorem Remembers.remember {m : DrainMemory} {returned : Int → Option (List ByteString)}
    {tick now : Int} {raw : List ByteString} (h : Remembers J m returned tick) (hne : tick ≠ now)
    (marker : String) (malformed : List ByteString) :
    Remembers J (m.remember now marker malformed) (Function.update returned now (some raw))
      tick := by
  intro mk hget
  unfold DrainMemory.remember at hget ⊢
  dsimp only at hget ⊢
  rw [Dict.get?_put_of_ne hne] at hget
  have hmal : (if malformed = [] then m.malformed.erase now else m.malformed.put now malformed).getD
      tick [] = m.malformed.getD tick [] := by
    unfold Dict.getD
    split
    · rw [Dict.get?_erase, if_neg hne]
    · rw [Dict.get?_put_of_ne hne]
  rw [hmal, Function.update_of_ne hne]
  exact h mk hget

theorem remembers_self {m : DrainMemory} {returned : Int → Option (List ByteString)} {now : Int}
    {raw bad : List ByteString} {decoded : List (DrainedAction J)} {marker : String}
    (hdec : decodeAll raw = some (decoded, bad)) (hmark : batchMarker raw = some marker) :
    Remembers J (m.remember now marker bad) (Function.update returned now (some raw)) now := by
  intro mk hget
  unfold DrainMemory.remember at hget ⊢
  dsimp only at hget ⊢
  rw [Dict.get?_put, if_pos rfl] at hget
  cases hget
  obtain ⟨hbad, hread⟩ := decodeAll_eq_some hdec
  refine ⟨raw, Function.update_self .., hmark, hread, ?_⟩
  rw [← hbad]
  unfold Dict.getD
  split
  · next hnone =>
    rw [Dict.get?_erase, if_pos rfl, hnone]
    rfl
  · rw [Dict.get?_put, if_pos rfl]
    rfl

theorem Tracked.push (h : Tracked J w) (tick : Int) (record : DrainedAction J) (d : Delivery) :
    Tracked J (w.push maxQueued tick record d) := by
  obtain ⟨new, hstore⟩ := pushAction_store maxQueued tick record d w.store
  unfold HandOff.push
  rw [hstore]
  refine ⟨fun t => ?_, h.remembers, h.underWay⟩
  have hplaces := h.places t
  by_cases ht : t = tick
  · subst ht
    -- the new value goes to the end of the pending list
    show (Function.update w.stored t (w.stored t ++ (Function.update w.store.pending t
      (w.store.pending t ++ new) t).drop (w.store.pending t).length) t).Perm
      (Function.update w.store.pending t (w.store.pending t ++ new) t ++ w.store.processing t
        ++ w.store.quarantine t ++ w.done J t)
    rw [Function.update_self, Function.update_self, List.drop_left]
    apply List.perm_iff_count.mpr
    intro v
    have hv := List.perm_iff_count.mp hplaces v
    simp only [List.count_append] at hv ⊢
    omega
  · show (Function.update w.stored tick _ t).Perm (Function.update w.store.pending tick _ t
      ++ w.store.processing t ++ w.store.quarantine t ++ w.done J t)
    rw [Function.update_of_ne ht, Function.update_of_ne ht]
    exact hplaces

theorem Tracked.claimed {s' : RedisStore} {tick : Int} (h : Tracked J w)
    (hs : s' = w.store ∨ (w.store.processing tick = [] ∧ s' = { w.store with
      pending := Function.update w.store.pending tick []
      processing := Function.update w.store.processing tick (w.store.pending tick) })) (t : Int) :
    (w.stored t).Perm (s'.pending t ++ s'.processing t ++ s'.quarantine t ++ w.done J t) := by
  rcases hs with rfl | ⟨hempty, rfl⟩
  · exact h.places t
  · by_cases ht : t = tick
    · subst ht
      have hplaces := h.places t
      rw [hempty, List.append_nil] at hplaces
      simp only [Function.update_self, List.nil_append]
      exact hplaces
    · simp only [Function.update_of_ne ht]
      exact h.places t

theorem Tracked.drain (h : Tracked J w) (hidle : w.acking = none) (tick : Int) (d : Delivery) :
    Tracked J (w.drain J tick d) := by
  have hstore := drain_store (J := J) tick d w.store w.memory
  unfold HandOff.drain
  rcases hrun : Gateway.drain (J := J) tick d w.store w.memory with ⟨result, s', m'⟩
  rw [hrun] at hstore
  refine ⟨h.claimed hstore, fun t => ?_, fun t malformed hack => ?_⟩
  · cases result with
    | none =>
      show Remembers J m' w.returned t
      rcases drain_eq_none hrun with rfl | rfl
      · exact h.remembers t
      · exact (h.remembers t).prune tick
    | some records =>
      show Remembers J m' (Function.update w.returned tick (some (s'.processing tick))) t
      obtain ⟨-, decoded, bad, marker, hdec, hmark, -, rfl⟩ := drain_eq_some hrun
      by_cases ht : t = tick
      · subst ht
        exact remembers_self hdec hmark
      · exact ((h.remembers t).prune tick).remember ht marker bad
  · rw [hidle] at hack
    cases hack

theorem Tracked.ackPeek (h : Tracked J w) (tick : Int) (d : Delivery)
    (hsha : Honest w (.ackPeek (J := J) tick d)) :
    Tracked J { w with
      acking := (Gateway.ackPeek tick d w.store w.memory).map fun malformed =>
        (tick, malformed) } := by
  refine ⟨h.places, h.remembers, fun t malformed hack => ?_⟩
  obtain ⟨malformed', hpeek, heq⟩ := Option.map_eq_some_iff.mp hack
  cases heq
  obtain ⟨marker, hget, hmark, hmal⟩ := ackPeek_eq_some hpeek
  obtain ⟨raw, hreturned, hmark', hread, hbad⟩ := h.remembers tick marker hget
  obtain ⟨p, hp, hpm⟩ := Option.map_eq_some_iff.mp hmark'
  obtain ⟨q, hq, hqm⟩ := Option.map_eq_some_iff.mp hmark
  -- equal markers, equal preimages, equal batches
  have hpq : p = q := hsha raw hreturned p hp q hq (Polis.Events.hex_inj (hpm.trans hqm.symm))
  subst hpq
  have hraw : raw = w.store.processing tick := batchPreimage_inj hp hq
  subst hraw
  exact ⟨hreturned, hread, hmal.trans hbad⟩

theorem Tracked.ackDelete (h : Tracked J w) {tick : Int} {malformed : List ByteString}
    (hack : w.acking = some (tick, malformed)) (d : Delivery) :
    Tracked J (w.ackDelete tick malformed d) := by
  obtain ⟨-, hread, hmal⟩ := h.underWay tick malformed hack
  have hscript := ackScript_store hmal
  have hforget : ∀ t, Remembers J (w.memory.forget tick) w.returned t := by
    intro t marker hget
    unfold DrainMemory.forget at hget ⊢
    dsimp only at hget ⊢
    rw [Dict.get?_erase] at hget
    unfold Dict.getD
    rw [Dict.get?_erase]
    split at hget
    · cases hget
    · next hne =>
      rw [if_neg hne]
      exact h.remembers t marker hget
  have hdeleted : ∀ t, (w.stored t).Perm
      (w.store.pending t ++ Function.update w.store.processing tick [] t
        ++ Function.update w.store.quarantine tick (w.store.quarantine tick ++ malformed) t
        ++ (Function.update w.acked tick (w.acked tick ++ [w.store.processing tick]) t
            ).flatten.filter (isRecord J)) := by
    intro t
    have hplaces := h.places t
    by_cases ht : t = tick
    · subst ht
      -- the records are done, the malformed values in quarantine
      have hsplit := hread.perm
      rw [← hmal] at hsplit
      simp only [Function.update_self, List.flatten_append, List.flatten_cons, List.flatten_nil,
        List.append_nil, List.filter_append]
      apply List.perm_iff_count.mpr
      intro v
      have hv := List.perm_iff_count.mp hplaces v
      have hsv := List.perm_iff_count.mp hsplit v
      unfold HandOff.done at hv
      simp only [List.count_append] at hv hsv ⊢
      omega
    · simp only [Function.update_of_ne ht]
      exact hplaces
  cases d with
  | answered =>
    refine ⟨fun t => ?_, hforget, fun _ _ h => by cases h⟩
    have := hdeleted t
    unfold HandOff.ackDelete Gateway.ackDelete redisCall
    simp only [hscript]
    exact this
  | unanswered =>
    refine ⟨fun t => ?_, h.remembers, fun _ _ h => by cases h⟩
    have := hdeleted t
    unfold HandOff.ackDelete Gateway.ackDelete redisCall
    simp only [hscript]
    exact this
  | lost => exact ⟨h.places, h.remembers, fun _ _ h => by cases h⟩

theorem Tracked.call {c : QueueCall J} (h : Tracked J w) (hsha : Honest w c) :
    Tracked J (w.call maxQueued c) := by
  cases c with
  | push tick record d => exact h.push tick record d
  | drain tick d =>
    cases hack : w.acking with
    | none =>
      rw [HandOff.call_drain hack]
      exact h.drain hack tick d
    | some a =>
      rw [HandOff.call_drain_busy (by rw [hack]; rfl)]
      exact h
  | ackPeek tick d =>
    cases hack : w.acking with
    | none =>
      rw [HandOff.call_ackPeek hack]
      exact h.ackPeek tick d hsha
    | some a =>
      rw [HandOff.call_ackPeek_busy (by rw [hack]; rfl)]
      exact h
  | ackDelete d =>
    cases hack : w.acking with
    | none =>
      rw [HandOff.call_ackDelete_idle hack]
      exact h
    | some a =>
      rw [HandOff.call_ackDelete hack]
      exact h.ackDelete hack d
  | restart =>
    refine ⟨h.places, fun tick marker hget => ?_, fun tick malformed hack => ?_⟩
    · cases hget
    · cases hack

end Steps

/-! ## Batches in processing -/

section Batches

variable {J : Type} [ActionCodec J] {maxQueued : Nat} {w : HandOff}

theorem Tracked.processing_call (h : Tracked J w) (c : QueueCall J) (tick : Int) :
    (w.call maxQueued c).store.processing tick = w.store.processing tick ∨
    (w.store.processing tick = [] ∧
      (w.call maxQueued c).store.processing tick = w.store.pending tick) ∨
    ((∃ d, c = .ackDelete d) ∧ w.returned tick = some (w.store.processing tick) ∧
      (w.call maxQueued c).store.processing tick = [] ∧
      (w.call maxQueued c).store.quarantine tick
        = w.store.quarantine tick ++ (w.store.processing tick).filter (isMalformed J) ∧
      (w.call maxQueued c).acked tick = w.acked tick ++ [w.store.processing tick]) := by
  cases c with
  | push t record d =>
    left
    obtain ⟨new, hstore⟩ := pushAction_store maxQueued t record d w.store
    unfold HandOff.call HandOff.push
    simp only [hstore]
  | drain t d =>
    cases hack : w.acking with
    | some a =>
      rw [HandOff.call_drain_busy (by rw [hack]; rfl)]
      exact .inl rfl
    | none =>
      rw [HandOff.call_drain hack]
      unfold HandOff.drain
      dsimp only
      rcases drain_store (J := J) t d w.store w.memory with hs | ⟨hempty, hs⟩
      · rw [hs]
        exact .inl rfl
      · rw [hs]
        by_cases ht : tick = t
        · subst ht
          exact .inr (.inl ⟨hempty, Function.update_self ..⟩)
        · exact .inl (Function.update_of_ne ht ..)
  | ackPeek t d =>
    left
    cases hack : w.acking with
    | some a => rw [HandOff.call_ackPeek_busy (by rw [hack]; rfl)]
    | none => rw [HandOff.call_ackPeek hack]
  | restart => exact .inl rfl
  | ackDelete d =>
    cases hack : w.acking with
    | none =>
      rw [HandOff.call_ackDelete_idle hack]
      exact .inl rfl
    | some a =>
      obtain ⟨t, malformed⟩ := a
      rw [HandOff.call_ackDelete hack]
      obtain ⟨hreturned, -, hmal⟩ := h.underWay t malformed hack
      have hscript := ackScript_store hmal
      have hran : ∀ (m : DrainMemory) (store : RedisStore) (acked : Int → List (List ByteString)),
          store = (ackScript t malformed w.store).2 →
          acked = Function.update w.acked t (w.acked t ++ [w.store.processing t]) →
          store.processing tick = w.store.processing tick ∨
          (w.returned tick = some (w.store.processing tick) ∧ store.processing tick = [] ∧
            store.quarantine tick
              = w.store.quarantine tick ++ (w.store.processing tick).filter (isMalformed J) ∧
            acked tick = w.acked tick ++ [w.store.processing tick]) := by
        rintro m store acked rfl rfl
        rw [hscript]
        by_cases ht : tick = t
        · subst ht
          right
          exact ⟨hreturned, Function.update_self .., by rw [← hmal]; exact Function.update_self ..,
            Function.update_self ..⟩
        · left
          exact Function.update_of_ne ht ..
      cases d with
      | lost => exact .inl rfl
      | answered =>
        rcases hran {} _ _ rfl rfl with hsame | hdel
        · exact .inl hsame
        · exact .inr (.inr ⟨⟨_, rfl⟩, hdel⟩)
      | unanswered =>
        rcases hran {} _ _ rfl rfl with hsame | hdel
        · exact .inl hsame
        · exact .inr (.inr ⟨⟨_, rfl⟩, hdel⟩)

theorem claimed_stays_call {tick : Int} {batch : List ByteString} (hne : batch ≠ [])
    {c : QueueCall J} (hc : ∀ d, c ≠ .ackPeek tick d)
    (h : w.store.processing tick = batch ∧ ∀ malformed, w.acking ≠ some (tick, malformed)) :
    (w.call maxQueued c).store.processing tick = batch ∧
      ∀ malformed, (w.call maxQueued c).acking ≠ some (tick, malformed) := by
  obtain ⟨hbatch, hack⟩ := h
  cases c with
  | push t record d =>
    obtain ⟨new, hstore⟩ := pushAction_store maxQueued t record d w.store
    refine ⟨?_, hack⟩
    unfold HandOff.call HandOff.push
    simp only [hstore]
    exact hbatch
  | drain t d =>
    cases hw : w.acking with
    | some a =>
      rw [HandOff.call_drain_busy (by rw [hw]; rfl)]
      exact ⟨hbatch, hack⟩
    | none =>
      rw [HandOff.call_drain hw]
      refine ⟨?_, hack⟩
      show (Gateway.drain (J := J) t d w.store w.memory).2.1.processing tick = batch
      rcases drain_store (J := J) t d w.store w.memory with hs | ⟨hempty, hs⟩
      · rw [hs]
        exact hbatch
      · rw [hs]
        have ht : tick ≠ t := by
          rintro rfl
          exact hne (hbatch.symm.trans hempty)
        exact (Function.update_of_ne ht ..).trans hbatch
  | ackPeek t d =>
    cases hw : w.acking with
    | some a =>
      rw [HandOff.call_ackPeek_busy (by rw [hw]; rfl)]
      exact ⟨hbatch, hack⟩
    | none =>
      rw [HandOff.call_ackPeek hw]
      refine ⟨hbatch, fun malformed he => ?_⟩
      obtain ⟨_, -, heq⟩ := Option.map_eq_some_iff.mp he
      cases heq
      exact hc d rfl
  | restart =>
    refine ⟨hbatch, fun malformed he => ?_⟩
    cases he
  | ackDelete d =>
    cases hw : w.acking with
    | none =>
      rw [HandOff.call_ackDelete_idle hw]
      exact ⟨hbatch, hack⟩
    | some a =>
      obtain ⟨t, malformed⟩ := a
      rw [HandOff.call_ackDelete hw]
      have ht : tick ≠ t := by
        rintro rfl
        exact hack malformed hw
      refine ⟨?_, fun _ he => by cases he⟩
      have hother : (ackScript t malformed w.store).2.processing tick = batch := by
        unfold ackScript RedisStore.ackBatch RedisStore.ackBatchWithQuarantine
        split
        · exact (Function.update_of_ne ht ..).trans hbatch
        · split
          · exact hbatch
          · exact (Function.update_of_ne ht ..).trans hbatch
      cases d with
      | lost => exact hbatch
      | answered => exact hother
      | unanswered => exact hother

theorem claimed_stays {tick : Int} {batch : List ByteString} (hne : batch ≠ [])
    {calls : List (QueueCall J)} (hcalls : ∀ c ∈ calls, ∀ d, c ≠ .ackPeek tick d)
    (h : w.store.processing tick = batch ∧ ∀ malformed, w.acking ≠ some (tick, malformed)) :
    (w.run maxQueued calls).store.processing tick = batch := by
  induction calls generalizing w with
  | nil => exact h.1
  | cons c cs ih =>
    have hstep := @claimed_stays_call _ _ maxQueued _ _ _ hne c
      (hcalls c List.mem_cons_self) h
    exact ih (fun c' hc' => hcalls c' (List.mem_cons_of_mem _ hc')) hstep

theorem drain_claimed {tick : Int} {s : RedisStore} (m : DrainMemory)
    (hne : s.processing tick ≠ []) :
    (Gateway.drain (J := J) tick .answered s m).1 = (receive tick (s.processing tick) m).1 := by
  unfold Gateway.drain redisCall RedisStore.claimBatch
  simp only [hne, false_and, if_false]

theorem drain_repeats {tick : Int} {d : Delivery} {records : List (DrainedAction J)}
    {calls : List (QueueCall J)} (hidle : w.acking = none)
    (hdrain : (Gateway.drain tick d w.store w.memory).1 = some records)
    (hne : (w.drain J tick d).store.processing tick ≠ [])
    (hcalls : ∀ c ∈ calls, ∀ d', c ≠ .ackPeek tick d') :
    (Gateway.drain tick .answered ((w.drain J tick d).run maxQueued calls).store
      ((w.drain J tick d).run maxQueued calls).memory).1 = some records := by
  have hnot : ∀ malformed, (w.drain J tick d).acking ≠ some (tick, malformed) := by
    intro malformed he
    have hacking : w.acking = some (tick, malformed) := he
    rw [hidle] at hacking
    cases hacking
  have hstays := @claimed_stays _ _ maxQueued _ _ _ hne calls hcalls ⟨rfl, hnot⟩
  rcases hrun : Gateway.drain (J := J) tick d w.store w.memory with ⟨result, s', m'⟩
  rw [hrun] at hdrain
  have hresult : result = some records := hdrain
  subst hresult
  obtain ⟨-, decoded, bad, marker, hdec, hmark, hrecords, -⟩ := drain_eq_some hrun
  have hbatch : (w.drain J tick d).store.processing tick = s'.processing tick := by
    show (Gateway.drain (J := J) tick d w.store w.memory).2.1.processing tick = _
    rw [hrun]
  rw [drain_claimed _ (by rw [hstays]; exact hne), hstays, hbatch]
  unfold receive
  simp only [hdec, hmark, hrecords]

end Batches

/-! ## The main result -/

section Main

variable {J : Type} [ActionCodec J]

/-- **The hand-off neither loses nor drops records.**  In every run: each
stored value is pending, in processing, in quarantine or in a deleted batch;
processing lists change by a claim or by deleting the batch the last drain of
the tick returned; a drain that found a batch is repeated by every drain before
the next acknowledgement of its tick; records come out in key order, which no
order of arrival changes when the keys differ. -/
theorem hand_off (maxQueued : Nat) (calls : List (QueueCall J)) (w : HandOff)
    (hw : w = HandOff.run maxQueued {} calls)
    (hsha : Along (HandOff.call maxQueued) Honest {} calls) :
    (∀ tick, (w.stored tick).Perm (w.store.pending tick ++ w.store.processing tick ++
      w.store.quarantine tick ++ (w.acked tick).flatten.filter (isRecord J))) ∧
    (∀ (c : QueueCall J) (tick : Int),
      (w.call maxQueued c).store.processing tick = w.store.processing tick ∨
      (w.store.processing tick = [] ∧
        (w.call maxQueued c).store.processing tick = w.store.pending tick) ∨
      ((∃ d, c = .ackDelete d) ∧ w.returned tick = some (w.store.processing tick) ∧
        (w.call maxQueued c).store.processing tick = [] ∧
        (w.call maxQueued c).store.quarantine tick
          = w.store.quarantine tick ++ (w.store.processing tick).filter (isMalformed J) ∧
        (w.call maxQueued c).acked tick = w.acked tick ++ [w.store.processing tick])) ∧
    (∀ (tick : Int) (d : Delivery) (records : List (DrainedAction J)) (more : List (QueueCall J)),
      w.acking = none → (drain tick d w.store w.memory).1 = some records →
      (w.drain J tick d).store.processing tick ≠ [] →
      (∀ c ∈ more, ∀ d', c ≠ .ackPeek tick d') →
      (drain tick .answered ((w.drain J tick d).run maxQueued more).store
        ((w.drain J tick d).run maxQueued more).memory).1 = some records) ∧
    (∀ (records : List (DrainedAction J)),
      ((stable records).Pairwise fun a b => a.key ≤ b.key) ∧
      ∀ records', records.Perm records' → (records.map DrainedAction.key).Nodup →
        stable records = stable records') := by
  have ht : Tracked J w := by
    rw [hw]
    exact hsha.invariant (fun _ _ hs hc => hs.call hc) (tracked_start J)
  refine ⟨ht.places, fun c tick => ht.processing_call c tick, ?_, ?_⟩
  · intro tick d records more hidle hdrain hne hmore
    exact drain_repeats hidle hdrain hne hmore
  · intro records
    exact ⟨stable_sorted records, fun records' hp hkeys => stable_perm hp hkeys⟩

end Main

/-! ## Runs on encoded actions -/

open Polis.Events

/-- An action of tick 5. -/
def sampleAction (agentId actionId : String) : DrainedAction Value :=
  { agentId, actionId, tick := 5, nonce := 0, type := "NULL_ACTION", params := .dict [],
    reasoning := none, speech := none, extras := .dict [], sig := "sig", sessionId := "ses",
    receivedMs := 1, audit := .dict [] }

/-- `_encode`: sorted keys, no blanks. -/
def encodeAction (r : DrainedAction Value) : ByteString :=
  utf8 (canonicalJson (.dict [("agent_id", .str r.agentId), ("action_id", .str r.actionId),
    ("tick", .int r.tick), ("nonce", .int r.nonce), ("type", .str r.type), ("params", r.params),
    ("reasoning", .ofStr? r.reasoning), ("speech", .ofStr? r.speech), ("extras", r.extras),
    ("sig", .str r.sig), ("session_id", .str r.sessionId), ("received_ms", .int r.receivedMs),
    ("audit", r.audit)]))

def sampleActions : List (DrainedAction Value) :=
  [sampleAction "ag_b" "z", sampleAction "ag_a" "a", sampleAction "ag_c" "m"]

/-- The codec on the actions above; every other value is no action. -/
abbrev sampleCodec : ActionCodec Value where
  encode := fun r => some (encodeAction r)
  decode := fun v => match sampleActions.find? fun r => encodeAction r = v with
    | some r => .record r
    | none => .malformed

/-- A reply lost after the claim, a restart, and a deletion whose reply is
lost, a third action arriving in between. -/
def recovered : List (QueueCall Value) :=
  [.push 5 (sampleAction "ag_b" "z") .answered, .push 5 (sampleAction "ag_a" "a") .unanswered,
    .drain 5 .unanswered, .restart, .drain 5 .answered,
    .push 5 (sampleAction "ag_c" "m") .answered, .ackPeek 5 .answered, .ackDelete .unanswered]

def recoveredEnd : HandOff :=
  letI : ActionCodec Value := sampleCodec
  HandOff.run 8 {} recovered

theorem recovered_honest :
    letI : ActionCodec Value := sampleCodec
    Along (HandOff.call 8) Honest {} recovered ∧ (recoveredEnd.acked 5).map List.length = [2] ∧
      (recoveredEnd.store.pending 5).length = 1 := by
  decide +kernel

theorem hand_off_recovered :
    letI : ActionCodec Value := sampleCodec
    (recoveredEnd.acked 5).map List.length = [2] ∧
      (recoveredEnd.stored 5).Perm (recoveredEnd.store.pending 5
        ++ recoveredEnd.store.processing 5 ++ recoveredEnd.store.quarantine 5
        ++ (recoveredEnd.acked 5).flatten.filter (isRecord Value)) := by
  let _ : ActionCodec Value := sampleCodec
  exact ⟨recovered_honest.2.1, (hand_off 8 recovered recoveredEnd rfl recovered_honest.1).1 5⟩

theorem empty_drain_differs :
    letI : ActionCodec Value := sampleCodec
    let agents := fun w : HandOff => (drain (J := Value) 5 .answered w.store w.memory).1.map
      fun records => records.map DrainedAction.agentId
    agents {} = some [] ∧
      agents (HandOff.run 8 {} [.drain 5 .answered, .push 5 (sampleAction "ag_a" "a") .answered])
        = some ["ag_a"] := by
  decide +kernel

end Polis.Gateway
