/-
  Polis.Gateway.Queue — the action queue between the gateway and the tick
  engine (`gateway/queue.py`).

  A Redis list that does not exist is empty; no key expires.  A script runs
  atomically; its reply may be lost, and the call may be lost before it runs.
  One queue serves one run, so keys differ by tick only.

  Main results:
    * `batchPreimage_inj` — the marker's preimage determines the batch.
    * `stable_perm` — records with distinct keys come out in one order,
      whatever order they arrived in.
    * `drain_outcome` — what a drain that returns has remembered.
-/
import Polis.Gateway.Limits
import Polis.Gateway.Canonical
import Polis.Lib.Dict
import Mathlib.Data.Prod.Lex
import Mathlib.Logic.Function.Basic

namespace Polis.Gateway

open Lib Lib.Bytes

/-! ## Records -/

structure DrainedAction (J : Type) where
  agentId : String
  actionId : String
  tick : Int
  nonce : Int
  type : String
  params : J
  reasoning : Option String
  speech : Option String
  extras : J
  sig : String
  sessionId : String
  receivedMs : Int
  audit : J
  deriving DecidableEq

/-- What `_decode_action` makes of a stored value: a record, an error `drain`
catches, or one it does not. -/
inductive Decoded (J : Type) where
  | record (r : DrainedAction J)
  | malformed
  | fatal

/-- `_encode` of an action and `_decode_action`. -/
class ActionCodec (J : Type) where
  encode : DrainedAction J → Option ByteString
  decode : ByteString → Decoded J

/-- The sort key of `_stable`. -/
def DrainedAction.key {J : Type} (r : DrainedAction J) : String ×ₗ String ×ₗ Int :=
  toLex (r.agentId, toLex (r.actionId, r.nonce))

/-- `_stable`. -/
def stable {J : Type} (records : List (DrainedAction J)) : List (DrainedAction J) :=
  records.insertionSort fun a b => a.key ≤ b.key

theorem stable_sorted {J : Type} (records : List (DrainedAction J)) :
    (stable records).Pairwise fun a b => a.key ≤ b.key := by
  have htot : Std.Total fun a b : DrainedAction J => a.key ≤ b.key :=
    ⟨fun a b => le_total a.key b.key⟩
  have htrans : IsTrans (DrainedAction J) fun a b => a.key ≤ b.key :=
    ⟨fun _ _ _ h h' => le_trans h h'⟩
  exact List.pairwise_insertionSort _ records

theorem stable_perm {J : Type} {xs ys : List (DrainedAction J)} (hp : xs.Perm ys)
    (hkeys : (xs.map DrainedAction.key).Nodup) : stable xs = stable ys := by
  have hperm : (stable xs).Perm (stable ys) :=
    (List.perm_insertionSort _ xs).trans (hp.trans (List.perm_insertionSort _ ys).symm)
  apply hperm.eq_of_pairwise
  · intro a b ha hb hab hba
    have hk : a.key = b.key := le_antisymm hab hba
    have ha' : a ∈ xs := (List.mem_insertionSort _).mp ha
    have hb' : b ∈ xs := hp.mem_iff.mpr ((List.mem_insertionSort _).mp hb)
    exact List.inj_on_of_nodup_map hkeys ha' hb' hk
  · exact stable_sorted xs
  · exact stable_sorted ys

/-! ## Batch markers -/

/-- What `_batch_marker` hashes: every value behind its length. -/
def batchPreimage : List ByteString → Option ByteString
  | [] => some []
  | v :: vs => do
    let first ← lengthPrefixed 8 v
    let rest ← batchPreimage vs
    some (first ++ rest)

/-- `_batch_marker`. -/
def batchMarker (values : List ByteString) : Option String :=
  (batchPreimage values).map fun p => Polis.Events.hex (sha256 p)

theorem batchPreimage_inj {xs ys : List ByteString} {p : ByteString}
    (hx : batchPreimage xs = some p) (hy : batchPreimage ys = some p) : xs = ys := by
  have hcons : ∀ {v : ByteString} {vs : List ByteString} {q : ByteString},
      batchPreimage (v :: vs) = some q → ∃ first rest, lengthPrefixed 8 v = some first ∧
        batchPreimage vs = some rest ∧ first ++ rest = q := by
    intro v vs q h
    simp only [batchPreimage, Option.bind_eq_bind, Option.bind_eq_some_iff,
      Option.some.injEq] at h
    obtain ⟨first, h₁, rest, h₂, h₃⟩ := h
    exact ⟨first, rest, h₁, h₂, h₃⟩
  have hne : ∀ {v first : ByteString}, lengthPrefixed 8 v = some first → first ≠ [] := by
    intro v first h
    obtain ⟨n, hn, rfl⟩ := Option.map_eq_some_iff.mp h
    have hlen := toBytes_length hn
    intro he
    simp [List.append_eq_nil_iff.mp he |>.1] at hlen
  induction xs generalizing ys p with
  | nil =>
    cases ys with
    | nil => rfl
    | cons y ys =>
      cases Option.some.inj hx
      obtain ⟨first, rest, h₁, -, h₃⟩ := hcons hy
      exact absurd (List.append_eq_nil_iff.mp h₃).1 (hne h₁)
  | cons x xs ih =>
    obtain ⟨first, rest, h₁, h₂, rfl⟩ := hcons hx
    cases ys with
    | nil => exact absurd (List.append_eq_nil_iff.mp (Option.some.inj hy).symm).1 (hne h₁)
    | cons y ys =>
      obtain ⟨first', rest', h₁', h₂', h₃'⟩ := hcons hy
      obtain ⟨rfl, rfl⟩ := lengthPrefixed_append_inj h₁' h₁ h₃'
      rw [ih h₂ h₂']

/-! ## Redis -/

/-- The three lists of every tick. -/
structure RedisStore where
  pending : Int → List ByteString := fun _ => []
  processing : Int → List ByteString := fun _ => []
  quarantine : Int → List ByteString := fun _ => []

namespace RedisStore

/-- `POLIS_PUSH_CAPPED`. -/
def pushCapped (maxQueued : Nat) (tick : Int) (payload : ByteString) (s : RedisStore) :
    Int × RedisStore :=
  let current := (s.pending tick).length
  if current ≥ maxQueued then (-1, s)
  else (current + 1, { s with
    pending := Function.update s.pending tick (s.pending tick ++ [payload]) })

/-- `POLIS_CLAIM_BATCH`. -/
def claimBatch (tick : Int) (s : RedisStore) : List ByteString × RedisStore :=
  if s.processing tick = [] ∧ s.pending tick ≠ [] then
    (s.pending tick, { s with
      pending := Function.update s.pending tick []
      processing := Function.update s.processing tick (s.pending tick) })
  else (s.processing tick, s)

/-- `POLIS_PEEK_BATCH` of the processing list. -/
def peekBatch (tick : Int) (s : RedisStore) : List ByteString × RedisStore :=
  (s.processing tick, s)

/-- `POLIS_ACK_BATCH`. -/
def ackBatch (tick : Int) (s : RedisStore) : Int × RedisStore :=
  (if s.processing tick = [] then 0 else 1,
    { s with processing := Function.update s.processing tick [] })

/-- `POLIS_ACK_BATCH_WITH_QUARANTINE`. -/
def ackBatchWithQuarantine (tick : Int) (malformed : List ByteString) (s : RedisStore) :
    Int × RedisStore :=
  if s.processing tick = [] then (0, s)
  else (1, { s with
    processing := Function.update s.processing tick []
    quarantine := Function.update s.quarantine tick (s.quarantine tick ++ malformed) })

end RedisStore

/-- What becomes of one call: it is answered, it runs and its reply is lost,
or it never runs. -/
inductive Delivery where
  | answered | unanswered | lost
  deriving Repr, DecidableEq

/-- One call of a script; `none` is a timeout or a Redis error. -/
def redisCall {α : Type} (d : Delivery) (script : RedisStore → α × RedisStore) (s : RedisStore) :
    Option α × RedisStore :=
  match d with
  | .answered => (some (script s).1, (script s).2)
  | .unanswered => (none, (script s).2)
  | .lost => (none, s)

/-! ## The two ends of the queue -/

section Ends

variable {J : Type} [ActionCodec J]

/-- `push_action`: the depth of the queue, or an error. -/
def pushAction (maxQueued : Nat) (tick : Int) (record : DrainedAction J) (d : Delivery)
    (s : RedisStore) : Except GatewayFault Int × RedisStore :=
  if tick ≠ record.tick then (.error .value, s)
  else
    match ActionCodec.encode record with
    | none => (.error .value, s)
    | some payload =>
      match redisCall d (RedisStore.pushCapped maxQueued tick payload) s with
      | (none, s') => (.error (.protocol { code := .gatewayDegraded }), s')
      | (some depth, s') =>
        if depth < 0 then (.error (.protocol { code := .queueFull }), s') else (.ok depth, s')

/-- What a drain object remembers: `_delivered` and `_malformed`. -/
structure DrainMemory where
  delivered : Dict Int String := ∅
  malformed : Dict Int (List ByteString) := ∅

/-- The entries of the last tick and of this one. -/
def DrainMemory.prune (m : DrainMemory) (tick : Int) : DrainMemory :=
  { delivered := m.delivered.filterKeys fun t => decide (t ≥ tick - 1)
    malformed := m.malformed.filterKeys fun t => decide (t ≥ tick - 1) }

def DrainMemory.remember (m : DrainMemory) (tick : Int) (marker : String)
    (malformed : List ByteString) : DrainMemory :=
  { delivered := m.delivered.put tick marker
    malformed := if malformed = [] then m.malformed.erase tick else m.malformed.put tick malformed }

def DrainMemory.forget (m : DrainMemory) (tick : Int) : DrainMemory :=
  { delivered := m.delivered.erase tick, malformed := m.malformed.erase tick }

/-- The loop of `drain`: the records and the malformed values of a batch. -/
def decodeAll : List ByteString → Option (List (DrainedAction J) × List ByteString)
  | [] => some ([], [])
  | v :: vs =>
    match ActionCodec.decode (J := J) v with
    | .fatal => none
    | .record r => (decodeAll vs).map fun p => (r :: p.1, p.2)
    | .malformed => (decodeAll vs).map fun p => (p.1, v :: p.2)

/-- `drain` after its script was answered with `raw`. -/
def receive (tick : Int) (raw : List ByteString) (m : DrainMemory) :
    Option (List (DrainedAction J)) × DrainMemory :=
  match decodeAll raw with
  | none => (none, m)
  | some (decoded, malformed) =>
    match batchMarker raw with
    | none => (none, m.prune tick)
    | some marker => (some (stable decoded), (m.prune tick).remember tick marker malformed)

/-- `RedisActionDrain.drain`; `none` is an error. -/
def drain (tick : Int) (d : Delivery) (s : RedisStore) (m : DrainMemory) :
    Option (List (DrainedAction J)) × RedisStore × DrainMemory :=
  match redisCall d (RedisStore.claimBatch tick) s with
  | (none, s') => (none, s', m)
  | (some raw, s') => ((receive tick raw m).1, s', (receive (J := J) tick raw m).2)

/-- The first half of `ack`: the malformed values to move when the batch in
processing is still the one delivered. -/
def ackPeek (tick : Int) (d : Delivery) (s : RedisStore) (m : DrainMemory) :
    Option (List ByteString) :=
  match m.delivered.get? tick with
  | none => none
  | some marker =>
    match (redisCall d (RedisStore.peekBatch tick) s).1 with
    | none => none
    | some values =>
      if batchMarker values = some marker then some (m.malformed.getD tick []) else none

/-- The script of the second half of `ack`. -/
def ackScript (tick : Int) (malformed : List ByteString) (s : RedisStore) : Int × RedisStore :=
  if malformed = [] then s.ackBatch tick else s.ackBatchWithQuarantine tick malformed

/-- The second half of `ack`: whether a batch was deleted, or an error. -/
def ackDelete (tick : Int) (malformed : List ByteString) (d : Delivery) (s : RedisStore)
    (m : DrainMemory) : Option Bool × RedisStore × DrainMemory :=
  match redisCall d (ackScript tick malformed) s with
  | (none, s') => (none, s', m)
  | (some deleted, s') => (some (deleted ≠ 0), s', m.forget tick)

end Ends

/-! ## Batches -/

section Batches

variable (J : Type) [ActionCodec J]

/-- Whether a stored value decodes to a record. -/
def isRecord (v : ByteString) : Bool :=
  match ActionCodec.decode (J := J) v with
  | .record _ => true
  | _ => false

/-- Whether a stored value is one `drain` sets aside. -/
def isMalformed (v : ByteString) : Bool :=
  match ActionCodec.decode (J := J) v with
  | .malformed => true
  | _ => false

/-- No value of the batch makes `drain` raise. -/
def Readable (raw : List ByteString) : Prop :=
  ∀ v ∈ raw, isRecord J v = true ∨ isMalformed J v = true

variable {J}

theorem decodeAll_eq_some {raw : List ByteString} {rs : List (DrainedAction J)}
    {bad : List ByteString} (h : decodeAll raw = some (rs, bad)) :
    bad = raw.filter (isMalformed J) ∧ Readable J raw := by
  induction raw generalizing rs bad with
  | nil =>
    cases h
    exact ⟨rfl, fun v hv => absurd hv List.not_mem_nil⟩
  | cons v vs ih =>
    unfold decodeAll at h
    cases hv : ActionCodec.decode (J := J) v with
    | fatal => simp only [hv] at h; cases h
    | record r =>
      simp only [hv] at h
      obtain ⟨⟨rs', bad'⟩, hrest, heq⟩ := Option.map_eq_some_iff.mp h
      obtain ⟨hbad, hread⟩ := ih hrest
      cases heq
      have hmal : isMalformed J v = false := by simp [isMalformed, hv]
      have hrec : isRecord J v = true := by simp [isRecord, hv]
      refine ⟨by rw [List.filter_cons, hmal]; exact hbad, ?_⟩
      exact List.forall_mem_cons.mpr ⟨.inl hrec, hread⟩
    | malformed =>
      simp only [hv] at h
      obtain ⟨⟨rs', bad'⟩, hrest, heq⟩ := Option.map_eq_some_iff.mp h
      obtain ⟨hbad, hread⟩ := ih hrest
      cases heq
      have hmal : isMalformed J v = true := by simp [isMalformed, hv]
      refine ⟨by rw [List.filter_cons, hmal, hbad]; rfl, ?_⟩
      exact List.forall_mem_cons.mpr ⟨.inr hmal, hread⟩

theorem Readable.perm {raw : List ByteString} (h : Readable J raw) :
    raw.Perm (raw.filter (isRecord J) ++ raw.filter (isMalformed J)) := by
  have hsplit : raw.filter (isMalformed J) = raw.filter fun v => !isRecord J v := by
    apply List.filter_congr
    intro v hv
    unfold isMalformed isRecord
    rcases h v hv with hr | hm
    · unfold isRecord at hr
      split at hr <;> simp_all
    · unfold isMalformed at hm
      split at hm <;> simp_all
  rw [hsplit]
  exact (List.filter_append_perm _ _).symm

end Batches

end Polis.Gateway
