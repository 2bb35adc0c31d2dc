/-
  Polis.Gateway.Lifecycle — the lifecycle queue between the gateway and the
  tick engine (`gateway/queue.py`).

  One pair of Redis lists serves a whole run.  Every push has a number of its
  own beside its bytes, so that two pushes of the same bytes are two.  A
  script runs atomically and its reply is handled at once; the reply may be
  lost, the script may never run, and either list may expire.  Calls of a
  drain object may come in any order, also between the two scripts of an
  acknowledgement and after it has timed out.

  An acknowledgement knows a batch by its marker only, and a drain that times
  out leaves the marker of an earlier batch in place.

  Main results:
    * `Accounted.call` — what a call preserves whose batches the markers tell
      apart.
    * `ack_removes_returned` — what acknowledgements remove had been returned,
      in every run of such calls.
    * `stale_marker_removes` — a lost deletion reply, the same bytes pushed
      again and a lost drain reply: a batch nobody returned is removed.
-/
import Polis.Gateway.HandOff

namespace Polis.Gateway

open Lib Lib.Bytes Lib.Runs

/-! ## Records -/

/-- `_encode` of a lifecycle record, where it does not raise, and the decoding
of `drain`, which skips what is not a JSON object. -/
class LifecycleCodec (J : Type) where
  encode : J → Option ByteString
  decode : ByteString → Option J
  /-- The encoding of a record decodes to an object. -/
  decode_encode : ∀ r v, encode r = some v → (decode v).isSome = true

/-- A stored record: the number of its push, and its bytes. -/
structure Pushed where
  serial : Nat
  value : ByteString
  deriving DecidableEq

/-- The bytes of a batch. -/
def valuesOf (batch : List Pushed) : List ByteString := batch.map Pushed.value

/-! ## Redis -/

/-- The lists `polis:reg` and `polis:reg-processing`. -/
structure LifecycleStore where
  pending : List Pushed := []
  processing : List Pushed := []

namespace LifecycleStore

/-- `POLIS_PUSH_CAPPED`. -/
def pushCapped (maxQueued : Nat) (p : Pushed) (s : LifecycleStore) : Int × LifecycleStore :=
  let current := s.pending.length
  if current ≥ maxQueued then (-1, s)
  else (current + 1, { s with pending := s.pending ++ [p] })

/-- `POLIS_CLAIM_BATCH`. -/
def claimBatch (s : LifecycleStore) : List Pushed × LifecycleStore :=
  if s.processing = [] ∧ s.pending ≠ [] then
    (s.pending, { pending := [], processing := s.pending })
  else (s.processing, s)

/-- `POLIS_PEEK_BATCH` of the processing list. -/
def peekBatch (s : LifecycleStore) : List Pushed × LifecycleStore := (s.processing, s)

/-- `POLIS_ACK_BATCH`. -/
def ackBatch (s : LifecycleStore) : Int × LifecycleStore :=
  (if s.processing = [] then 0 else 1, { s with processing := [] })

end LifecycleStore

/-- One call of a script; `none` is a timeout or a Redis error. -/
def scriptCall {α : Type} (d : Delivery) (script : LifecycleStore → α × LifecycleStore)
    (s : LifecycleStore) : Option α × LifecycleStore :=
  match d with
  | .answered => (some (script s).1, (script s).2)
  | .unanswered => (none, (script s).2)
  | .lost => (none, s)

/-! ## The two ends of the queue -/

section Ends

variable {J : Type} [LifecycleCodec J]

/-- `push_registration`: the depth of the queue, or an error. -/
def pushRegistration (maxQueued : Nat) (record : J) (serial : Nat) (d : Delivery)
    (s : LifecycleStore) : Except GatewayFault Int × LifecycleStore :=
  match LifecycleCodec.encode record with
  | none => (.error .value, s)
  | some payload =>
    match scriptCall d (LifecycleStore.pushCapped maxQueued ⟨serial, payload⟩) s with
    | (none, s') => (.error (.protocol { code := .gatewayDegraded }), s')
    | (some depth, s') =>
      if depth < 0 then (.error (.protocol { code := .queueFull }), s') else (.ok depth, s')

/-- The records of a batch, each beside the push it came from. -/
def decodeBatch (raw : List Pushed) : List (Pushed × J) :=
  raw.filterMap fun p => (LifecycleCodec.decode p.value).map fun record => (p, record)

/-- `RedisLifecycleDrain.drain`, with the `_delivered` it leaves; `none` is an
error. -/
def lifecycleDrain (d : Delivery) (s : LifecycleStore) (delivered : Option String) :
    Option (List (Pushed × J)) × LifecycleStore × Option String :=
  match scriptCall d LifecycleStore.claimBatch s with
  | (none, s') => (none, s', delivered)
  | (some raw, s') =>
    match batchMarker (valuesOf raw) with
    | none => (none, s', delivered)
    | some marker => (some (decodeBatch raw), s', some marker)

/-- The first script of `ack`: whether it goes on to delete. -/
def lifecyclePeek (d : Delivery) (s : LifecycleStore) (delivered : Option String) : Bool :=
  match delivered with
  | none => false
  | some marker =>
    match (scriptCall d LifecycleStore.peekBatch s).1 with
    | none => false
    | some raw => batchMarker (valuesOf raw) = some marker

/-- The second script of `ack`: whether a batch was deleted, or an error. -/
def lifecycleDelete (d : Delivery) (s : LifecycleStore) (delivered : Option String) :
    Option Bool × LifecycleStore × Option String :=
  match scriptCall d LifecycleStore.ackBatch s with
  | (none, s') => (none, s', delivered)
  | (some deleted, s') => (some (deleted ≠ 0), s', none)

end Ends

/-! ## Calls -/

/-- The calls of a run, and what else can happen to it. -/
inductive LifecycleCall (J : Type) where
  | push (record : J) (d : Delivery)
  | drain (d : Delivery)
  /-- The first script of an acknowledgement. -/
  | peek (d : Delivery)
  /-- The second script of the acknowledgement that found this batch. -/
  | delete (batch : List Pushed) (d : Delivery)
  | restart
  | expirePending
  | expireProcessing

/-- The store, the engine's drain object, and the records of the run. -/
structure Lifecycle where
  store : LifecycleStore := {}
  delivered : Option String := none
  /-- The batches that acknowledgements under way have found. -/
  acking : List (List Pushed) := []
  /-- How many pushes were made. -/
  pushes : Nat := 0
  /-- What drains have returned. -/
  returned : List Pushed := []
  /-- What acknowledgements have removed. -/
  removed : List Pushed := []

section Calls

variable {J : Type} [LifecycleCodec J] (maxQueued : Nat)

namespace Lifecycle

def push (w : Lifecycle) (record : J) (d : Delivery) : Lifecycle :=
  { w with
    store := (pushRegistration maxQueued record w.pushes d w.store).2
    pushes := w.pushes + 1 }

/-- A drain, recorded when it returned. -/
def drain (J : Type) [LifecycleCodec J] (w : Lifecycle) (d : Delivery) : Lifecycle :=
  let run := lifecycleDrain (J := J) d w.store w.delivered
  { w with
    store := run.2.1
    delivered := run.2.2
    returned := w.returned ++ (run.1.getD []).map Prod.fst }

def peek (w : Lifecycle) (d : Delivery) : Lifecycle :=
  if lifecyclePeek d w.store w.delivered then
    { w with acking := w.store.processing :: w.acking }
  else w

/-- A deletion, recorded when it ran. -/
def delete (w : Lifecycle) (batch : List Pushed) (d : Delivery) : Lifecycle :=
  let run := lifecycleDelete d w.store w.delivered
  { w with
    store := run.2.1
    delivered := run.2.2
    acking := w.acking.erase batch
    removed := if d = .lost then w.removed else w.removed ++ w.store.processing }

/-- One call. -/
def call (w : Lifecycle) : LifecycleCall J → Lifecycle
  | .push record d => w.push maxQueued record d
  | .drain d => w.drain J d
  | .peek d => w.peek d
  | .delete batch d => if batch ∈ w.acking then w.delete batch d else w
  | .restart => { w with delivered := none }
  | .expirePending => { w with store := { w.store with pending := [] } }
  | .expireProcessing => { w with store := { w.store with processing := [] } }

/-- Any sequence of calls. -/
def run (w : Lifecycle) (calls : List (LifecycleCall J)) : Lifecycle :=
  calls.foldl (Lifecycle.call maxQueued) w

end Lifecycle

omit [LifecycleCodec J] in
/-- No drain times out with a new batch whose marker is the one remembered, and
no deletion runs on another batch than its acknowledgement found. -/
def TellsApart (w : Lifecycle) : LifecycleCall J → Prop
  | .drain .unanswered => w.store.processing = [] → w.store.pending ≠ [] →
      ∀ marker, w.delivered = some marker → batchMarker (valuesOf w.store.pending) ≠ some marker
  | .delete batch d => batch ∈ w.acking → d ≠ .lost →
      w.store.processing = batch ∨ w.store.processing = []
  | _ => True

end Calls

/-! ## What the scripts do to the lists -/

section Scripts

variable {J : Type} [LifecycleCodec J]

theorem pushRegistration_store (maxQueued : Nat) (record : J) (serial : Nat) (d : Delivery)
    (s : LifecycleStore) : ∃ new : List Pushed,
      (pushRegistration maxQueued record serial d s).2 = { s with pending := s.pending ++ new } ∧
      ∀ p ∈ new, (LifecycleCodec.decode (J := J) p.value).isSome = true := by
  have hsame : s = { s with pending := s.pending ++ [] } := by simp
  have hnone : ∀ p ∈ ([] : List Pushed),
      (LifecycleCodec.decode (J := J) p.value).isSome = true := fun p hp => by cases hp
  unfold pushRegistration
  cases henc : LifecycleCodec.encode record with
  | none => exact ⟨[], hsame, hnone⟩
  | some payload =>
    have hscript : ∃ new : List Pushed,
        (s.pushCapped maxQueued ⟨serial, payload⟩).2 = { s with pending := s.pending ++ new } ∧
        ∀ p ∈ new, (LifecycleCodec.decode (J := J) p.value).isSome = true := by
      unfold LifecycleStore.pushCapped
      dsimp only
      split
      · exact ⟨[], hsame, hnone⟩
      · refine ⟨[⟨serial, payload⟩], rfl, fun p hp => ?_⟩
        rw [List.mem_singleton.mp hp]
        exact LifecycleCodec.decode_encode record payload henc
    cases d with
    | answered =>
      simp only [scriptCall]
      split <;> exact hscript
    | unanswered => exact hscript
    | lost => exact ⟨[], hsame, hnone⟩

theorem claimBatch_spec (s : LifecycleStore) :
    s.claimBatch.1 = s.claimBatch.2.processing ∧
    (s.claimBatch.2 = s ∨ (s.processing = [] ∧ s.pending ≠ [] ∧
      s.claimBatch.2 = { pending := [], processing := s.pending })) := by
  unfold LifecycleStore.claimBatch
  split
  · next h => exact ⟨rfl, .inr ⟨h.1, h.2, rfl⟩⟩
  · exact ⟨rfl, .inl rfl⟩

theorem decodeBatch_fst {raw : List Pushed}
    (h : ∀ p ∈ raw, (LifecycleCodec.decode (J := J) p.value).isSome = true) :
    (decodeBatch (J := J) raw).map Prod.fst = raw := by
  induction raw with
  | nil => rfl
  | cons p raw ih =>
    obtain ⟨record, hrecord⟩ := Option.isSome_iff_exists.mp (h p List.mem_cons_self)
    have hrest := ih fun q hq => h q (List.mem_cons_of_mem _ hq)
    unfold decodeBatch at hrest ⊢
    rw [List.filterMap_cons, hrecord]
    simp only [Option.map_some, List.map_cons, hrest]

omit [LifecycleCodec J] in
theorem lifecyclePeek_eq_true {d : Delivery} {s : LifecycleStore} {delivered : Option String}
    (h : lifecyclePeek d s delivered = true) :
    ∃ marker, delivered = some marker ∧ batchMarker (valuesOf s.processing) = some marker := by
  unfold lifecyclePeek at h
  cases delivered with
  | none => cases h
  | some marker =>
    cases d with
    | answered => exact ⟨marker, rfl, by simpa [scriptCall, LifecycleStore.peekBatch] using h⟩
    | unanswered => cases h
    | lost => cases h

end Scripts

/-! ## The invariant -/

section Invariant

variable (J : Type) [LifecycleCodec J]

/-- What is removed, or about to be, has been returned. -/
structure Accounted (w : Lifecycle) : Prop where
  /-- What is stored decodes to records. -/
  readable : ∀ p ∈ w.store.pending ++ w.store.processing,
    (LifecycleCodec.decode (J := J) p.value).isSome = true
  /-- A batch in processing that was not returned has not the marker remembered. -/
  marked : (∀ p ∈ w.store.processing, p ∈ w.returned) ∨
    ∀ marker, w.delivered = some marker → batchMarker (valuesOf w.store.processing) ≠ some marker
  acking : ∀ batch ∈ w.acking, ∀ p ∈ batch, p ∈ w.returned
  removed : ∀ p ∈ w.removed, p ∈ w.returned

theorem accounted_start : Accounted J {} where
  readable := fun p hp => by cases hp
  marked := .inl fun p hp => by cases hp
  acking := fun batch hb => by cases hb
  removed := fun p hp => by cases hp

variable {J} {maxQueued : Nat} {w : Lifecycle}

theorem Accounted.push (h : Accounted J w) (record : J) (d : Delivery) :
    Accounted J (w.push maxQueued record d) := by
  obtain ⟨new, hstore, hnew⟩ := pushRegistration_store maxQueued record w.pushes d w.store
  unfold Lifecycle.push
  rw [hstore]
  refine ⟨?_, h.marked, h.acking, h.removed⟩
  intro p hp
  rcases List.mem_append.mp hp with hp | hp
  · rcases List.mem_append.mp hp with hp | hp
    · exact h.readable p (List.mem_append_left _ hp)
    · exact hnew p hp
  · exact h.readable p (List.mem_append_right _ hp)

theorem Accounted.readable_claim (h : Accounted J w) :
    ∀ p ∈ w.store.claimBatch.2.pending ++ w.store.claimBatch.2.processing,
      (LifecycleCodec.decode (J := J) p.value).isSome = true := by
  rcases (claimBatch_spec w.store).2 with hsame | ⟨-, -, hmoved⟩
  · rw [hsame]
    exact h.readable
  · rw [hmoved]
    intro p hp
    exact h.readable p (List.mem_append_left _ hp)

theorem Accounted.claimed (h : Accounted J w)
    (hnew : w.store.processing = [] → w.store.pending ≠ [] → ∀ marker,
      w.delivered = some marker → batchMarker (valuesOf w.store.pending) ≠ some marker) :
    Accounted J { w with store := w.store.claimBatch.2 } where
  readable := h.readable_claim
  marked := by
    rcases (claimBatch_spec w.store).2 with hsame | ⟨hnone, hsome, hmoved⟩
    · simp only [hsame]
      exact h.marked
    · simp only [hmoved]
      exact .inr (hnew hnone hsome)
  acking := h.acking
  removed := h.removed

theorem Accounted.drain (h : Accounted J w) {d : Delivery}
    (hg : TellsApart (J := J) w (.drain d)) : Accounted J (w.drain J d) := by
  obtain ⟨hraw, -⟩ := claimBatch_spec w.store
  unfold Lifecycle.drain lifecycleDrain
  cases d with
  | lost => simpa [scriptCall] using h
  | unanswered => simpa [scriptCall] using h.claimed hg
  | answered =>
    simp only [scriptCall]
    cases hmark : batchMarker (valuesOf w.store.claimBatch.1) with
    | none =>
      -- the marker of the new batch raised, so it is no marker remembered
      have hclaimed := h.claimed fun hnone hsome marker _ => by
        have hmoved : w.store.claimBatch.1 = w.store.pending := by
          rw [LifecycleStore.claimBatch, if_pos ⟨hnone, hsome⟩]
        rw [← hmoved, hmark]
        exact fun hc => by cases hc
      simpa using hclaimed
    | some marker =>
      have hreturned : (decodeBatch (J := J) w.store.claimBatch.1).map Prod.fst
          = w.store.claimBatch.2.processing := by
        rw [hraw]
        exact decodeBatch_fst fun p hp => h.readable_claim p (List.mem_append_right _ hp)
      simp only [Option.getD_some, hreturned]
      exact {
        readable := h.readable_claim
        marked := .inl fun p hp => List.mem_append_right _ hp
        acking := fun batch hb p hp => List.mem_append_left _ (h.acking batch hb p hp)
        removed := fun p hp => List.mem_append_left _ (h.removed p hp) }

theorem Accounted.peek (h : Accounted J w) (d : Delivery) :
    Accounted J (w.peek d) := by
  unfold Lifecycle.peek
  split_ifs with hpeek
  · obtain ⟨marker, hdelivered, hmark⟩ := lifecyclePeek_eq_true hpeek
    refine ⟨h.readable, h.marked, fun batch hb => ?_, h.removed⟩
    rcases List.mem_cons.mp hb with rfl | hb
    · -- the batch found has the marker remembered, so it was returned
      rcases h.marked with hall | hno
      · exact hall
      · exact absurd hmark (hno marker hdelivered)
    · exact h.acking batch hb
  · exact h

theorem Accounted.returned_of_delete (h : Accounted J w) {batch : List Pushed} {d : Delivery}
    (hb : batch ∈ w.acking) (hd : d ≠ .lost) (hg : TellsApart (J := J) w (.delete batch d)) :
    ∀ p ∈ w.store.processing, p ∈ w.returned := by
  intro p hp
  rcases hg hb hd with hsame | hnone
  · rw [hsame] at hp
    exact h.acking batch hb p hp
  · rw [hnone] at hp
    cases hp

theorem Accounted.delete (h : Accounted J w) {batch : List Pushed} {d : Delivery}
    (hb : batch ∈ w.acking) (hg : TellsApart (J := J) w (.delete batch d)) :
    Accounted J (w.delete batch d) := by
  have hacking : ∀ b ∈ w.acking.erase batch, ∀ p ∈ b, p ∈ w.returned :=
    fun b hb' => h.acking b (List.mem_of_mem_erase hb')
  have hran : d ≠ .lost → ∀ delivered, Accounted J { w with
      store := { w.store with processing := [] }
      delivered
      acking := w.acking.erase batch
      removed := w.removed ++ w.store.processing } := by
    intro hd delivered
    refine ⟨?_, .inl fun p hp => absurd hp List.not_mem_nil, hacking, fun p hp => ?_⟩
    · intro p hp
      rw [List.append_nil] at hp
      exact h.readable p (List.mem_append_left _ hp)
    · rcases List.mem_append.mp hp with hp | hp
      · exact h.removed p hp
      · exact h.returned_of_delete hb hd hg p hp
  cases d with
  | lost => exact ⟨h.readable, h.marked, hacking, h.removed⟩
  | unanswered => exact hran (by decide) w.delivered
  | answered => exact hran (by decide) none

theorem Accounted.call (h : Accounted J w) {c : LifecycleCall J} (hg : TellsApart w c) :
    Accounted J (w.call maxQueued c) := by
  cases c with
  | push record d => exact h.push record d
  | drain d => exact h.drain hg
  | peek d => exact h.peek d
  | delete batch d =>
    show Accounted J (if batch ∈ w.acking then w.delete batch d else w)
    split_ifs with hb
    · exact h.delete hb hg
    · exact h
  | restart => exact ⟨h.readable, .inr fun marker hm => (by cases hm), h.acking, h.removed⟩
  | expirePending =>
    refine ⟨fun p hp => ?_, h.marked, h.acking, h.removed⟩
    exact h.readable p (List.mem_append_right _ hp)
  | expireProcessing =>
    refine ⟨fun p hp => ?_, .inl fun p hp => absurd hp List.not_mem_nil, h.acking, h.removed⟩
    have hp' : p ∈ w.store.pending ++ [] := hp
    rw [List.append_nil] at hp'
    exact h.readable p (List.mem_append_left _ hp')

theorem Accounted.removed_call (h : Accounted J w) {c : LifecycleCall J} (hg : TellsApart w c) :
    ∀ p ∈ (w.call maxQueued c).removed, p ∈ w.returned := by
  cases c with
  | delete batch d =>
    show ∀ p ∈ (if batch ∈ w.acking then w.delete batch d else w).removed, p ∈ w.returned
    split_ifs with hb
    · intro p hp
      by_cases hd : d = .lost
      · subst hd
        exact h.removed p hp
      · have hp' : p ∈ w.removed ++ w.store.processing := by
          simpa [Lifecycle.delete, hd] using hp
        rcases List.mem_append.mp hp' with hp' | hp'
        · exact h.removed p hp'
        · exact h.returned_of_delete hb hd hg p hp'
    · exact h.removed
  | peek d =>
    show ∀ p ∈ (w.peek d).removed, p ∈ w.returned
    unfold Lifecycle.peek
    split_ifs
    · exact h.removed
    · exact h.removed
  | push record d => exact h.removed
  | drain d => exact h.removed
  | restart => exact h.removed
  | expirePending => exact h.removed
  | expireProcessing => exact h.removed

end Invariant

/-! ## Runs -/

section Runs

variable {J : Type} [LifecycleCodec J]

/-- **Acknowledgements remove what was returned**, in every run whose markers
tell the batches apart: a push that is gone after a call had been returned by a drain that
completed before it. -/
theorem ack_removes_returned (maxQueued : Nat) (calls : List (LifecycleCall J))
    (c : LifecycleCall J)
    (h : Along (Lifecycle.call maxQueued) TellsApart {} (calls ++ [c])) :
    ∀ p ∈ (Lifecycle.run maxQueued {} (calls ++ [c])).removed,
      p ∈ (Lifecycle.run maxQueued {} calls).returned := by
  obtain ⟨hbefore, hlast⟩ := along_append.mp h
  have hinv : Accounted J (Lifecycle.run maxQueued {} calls) :=
    hbefore.invariant (fun _ _ hs hg => hs.call hg) (accounted_start J)
  have hrun : Lifecycle.run maxQueued {} (calls ++ [c])
      = (Lifecycle.run maxQueued {} calls).call maxQueued c := by
    unfold Lifecycle.run
    rw [List.foldl_append]
    rfl
  rw [hrun]
  exact hinv.removed_call hlast.1

theorem tellsApart_of_awaited {maxQueued : Nat} {w : Lifecycle} {batch : List Pushed}
    (hfound : w.store.processing = batch ∨ w.store.processing = [])
    {calls : List (LifecycleCall J)}
    (hcalls : ∀ c ∈ calls, (∃ record d, c = .push record d) ∨ c = .expirePending ∨
      c = .expireProcessing) (d : Delivery) :
    TellsApart (J := J) (w.run maxQueued calls) (.delete batch d) := by
  have hstays : (w.run maxQueued calls).store.processing = batch ∨
      (w.run maxQueued calls).store.processing = [] := by
    induction calls generalizing w with
    | nil => exact hfound
    | cons c calls ih =>
      refine ih (w := w.call maxQueued c) ?_ fun c' hc' => hcalls c' (List.mem_cons_of_mem _ hc')
      rcases hcalls c List.mem_cons_self with ⟨record, d', rfl⟩ | rfl | rfl
      · obtain ⟨new, hstore, -⟩ := pushRegistration_store maxQueued record w.pushes d' w.store
        have hsame : (w.call maxQueued (.push record d')).store.processing
            = w.store.processing := by
          show (pushRegistration maxQueued record w.pushes d' w.store).2.processing = _
          rw [hstore]
        rw [hsame]
        exact hfound
      · exact hfound
      · exact .inr rfl
  exact fun _ _ => hstays

end Runs

/-! ## Runs on encoded records -/

open Polis.Events

/-- The requests of one agent. -/
inductive Notice where
  | resume | depart
  deriving DecidableEq

/-- `_encode`: sorted keys, no blanks. -/
def encodeNotice (n : Notice) : ByteString :=
  utf8 (canonicalJson (.dict [("agent_id", .str "ag_a"),
    ("request_type", .str (match n with | .resume => "resume" | .depart => "depart"))]))

/-- The codec on these requests; every other value is skipped. -/
abbrev noticeCodec : LifecycleCodec Notice where
  encode := fun n => some (encodeNotice n)
  decode := fun v => [Notice.resume, .depart].find? fun n => encodeNotice n = v
  decode_encode := by
    intro n v h
    obtain rfl := Option.some.inj h
    rw [List.find?_isSome]
    cases n with
    | resume => exact ⟨.resume, by simp, by simp⟩
    | depart => exact ⟨.depart, by simp, by simp⟩

/-- A departure under the number of its push. -/
def departure (serial : Nat) : Pushed := ⟨serial, encodeNotice .depart⟩

/-- Two departures, the second pushed while the first is acknowledged. -/
def twoNotices : List (LifecycleCall Notice) :=
  [.push .depart .answered, .drain .answered, .peek .answered, .push .depart .answered]

theorem ack_removes_returned_departure :
    letI : LifecycleCodec Notice := noticeCodec
    let delete : LifecycleCall Notice := .delete [departure 0] .answered
    (Lifecycle.run 8 {} (twoNotices ++ [delete])).removed = [departure 0] ∧
      ∀ p ∈ (Lifecycle.run 8 {} (twoNotices ++ [delete])).removed,
        p ∈ (Lifecycle.run 8 {} twoNotices).returned := by
  let _ : LifecycleCodec Notice := noticeCodec
  have hrun : (Lifecycle.run (J := Notice) 8 {}
      (twoNotices ++ [.delete [departure 0] .answered])).removed = [departure 0] := by
    decide +kernel
  refine ⟨hrun, ack_removes_returned 8 twoNotices (.delete [departure 0] .answered) ?_⟩
  refine ⟨trivial, trivial, trivial, trivial, ?_, trivial⟩
  exact fun _ _ => .inl (by decide +kernel)

/-- The reply of a deletion is lost, the same notice is pushed again, and the
reply of the drain that claims it is lost. -/
def staleMarker : List (LifecycleCall Notice) :=
  [.push .depart .answered, .drain .answered, .peek .answered,
    .delete [departure 0] .unanswered, .push .depart .answered, .drain .unanswered,
    .peek .answered]

theorem stale_marker_removes :
    letI : LifecycleCodec Notice := noticeCodec
    ¬ ∀ (calls : List (LifecycleCall Notice)) (c : LifecycleCall Notice),
      ∀ p ∈ (Lifecycle.run 8 {} (calls ++ [c])).removed,
        p ∈ (Lifecycle.run 8 {} calls).returned := by
  let _ : LifecycleCodec Notice := noticeCodec
  intro h
  have hremoved : departure 1 ∈ (Lifecycle.run (J := Notice) 8 {}
      (staleMarker ++ [.delete [departure 1] .answered])).removed := by decide +kernel
  have hreturned : departure 1 ∉ (Lifecycle.run (J := Notice) 8 {} staleMarker).returned := by
    decide +kernel
  exact hreturned (h staleMarker (.delete [departure 1] .answered) _ hremoved)

end Polis.Gateway
