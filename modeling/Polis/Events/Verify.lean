/-
  Polis.Events.Verify — walking the hash chain (`events/verify.py`).

  `verifyBatch` is the source's one pass with its failure list; it raises
  (`none`) where recomputing a hash raises or the event kind is unknown.
  `Chained` is the specification: every event follows its predecessor.

  Main results:
    * `verifyBatch_ok_iff` — the pass reports no failure exactly when the
      batch is chained from the given start.
    * `chained_append` — a chain continues from where its first part ends.
-/
import Polis.Events.Hashing

namespace Polis.Events

variable {P : Type}

/-! ## Payload schemas -/

/-- What `validate_payload` raises: `PayloadSchemaError`, or `KindError` for
a kind without a schema. -/
inductive PayloadFault where
  | schema (message : String)
  | unknownKind (message : String)
  deriving Repr, DecidableEq

/-- `validate_payload` over the registered schemas. -/
class PayloadSchemas (P : Type) where
  validatePayload : Int → P → Except PayloadFault Unit

/-! ## The report -/

inductive Reason where
  | hashMismatch | prevHashMismatch | seqGap | schemaInvalid | tickRegression
  deriving Repr, DecidableEq

/-- `ChainFailure`. -/
structure ChainFailure where
  seq : Int
  kind : Int
  reason : Reason
  expected : String
  actual : String
  deriving Repr, DecidableEq

/-- `ChainReport`. -/
structure ChainReport where
  runId : RunId
  eventsChecked : Nat
  firstSeq : Int
  lastSeq : Int
  terminalHash : String
  ok : Bool
  signaturesVerified : Nat
  unknownKinds : List Int
  failures : List ChainFailure

/-- Where a chain stands: hash, sequence number and tick of its last event. -/
structure ChainHead where
  hash : String
  seq : Int
  tick : Int
  deriving Repr, DecidableEq

/-- The head after `e`, whatever came before. -/
def headOf (e : Event P) : ChainHead := ⟨e.hash, e.seq, e.tick⟩

variable [CanonicalJson P] [Sha256] [PayloadSchemas P]

/-! ## One pass over a batch -/

/-- A failure entry for `e` if `bad` holds. -/
def failIf (bad : Prop) [Decidable bad] (e : Event P) (reason : Reason)
    (expected actual : String) : List ChainFailure :=
  if bad then [⟨e.seq, e.kind, reason, expected, actual⟩] else []

/-- The schema check: a schema error is a failure entry, any other error is
raised. -/
def schemaFailures (e : Event P) : Option (List ChainFailure) :=
  match PayloadSchemas.validatePayload e.kind e.payload with
  | .ok () => some []
  | .error (.schema message) => some [⟨e.seq, e.kind, .schemaInvalid, "valid", message⟩]
  | .error (.unknownKind _) => none

/-- The checks of one event against its predecessor. -/
def checkEvent (previous : ChainHead) (e : Event P) : Option (List ChainFailure) := do
  let expected ← recompute e
  let schema ← schemaFailures e
  some (failIf (e.seq ≠ previous.seq + 1) e .seqGap
      (toString (previous.seq + 1)) (toString e.seq)
    ++ failIf (e.prevHash ≠ previous.hash) e .prevHashMismatch previous.hash e.prevHash
    ++ failIf (expected ≠ e.hash) e .hashMismatch expected e.hash
    ++ failIf (e.tick < previous.tick) e .tickRegression
      (toString previous.tick) (toString e.tick)
    ++ schema)

/-- The loop of `verify_batch`. -/
def checkEvents : ChainHead → List (Event P) → Option (List ChainFailure × ChainHead)
  | previous, [] => some ([], previous)
  | previous, e :: es => do
    let here ← checkEvent previous e
    let (rest, last) ← checkEvents (headOf e) es
    some (here ++ rest, last)

/-- Where verification starts: no tick is before the first event's. -/
def startHead (startPrevHash : String) (startSeq : Int) : ChainHead := ⟨startPrevHash, startSeq, -1⟩

/-- `verify_batch`. -/
def verifyBatch (events : List (Event P)) (startPrevHash : String) (startSeq : Int) :
    Option ChainReport := do
  let (failures, last) ← checkEvents (startHead startPrevHash startSeq) events
  some
    { runId := (events.head?.map fun e => e.runId).getD 0
      eventsChecked := events.length
      firstSeq := (events.head?.map fun e => e.seq).getD startSeq
      lastSeq := (events.getLast?.map fun e => e.seq).getD startSeq
      terminalHash := last.hash
      ok := failures.isEmpty
      signaturesVerified := 0
      unknownKinds := []
      failures }

/-- `verify_batch(...).ok`: it returned, and without failures. -/
def VerifiesOk (events : List (Event P)) (startPrevHash : String) (startSeq : Int) : Prop :=
  (verifyBatch events startPrevHash startSeq).any ChainReport.ok

instance (events : List (Event P)) (h : String) (s : Int) : Decidable (VerifiesOk events h s) :=
  inferInstanceAs (Decidable (_ = true))

/-! ## The specification -/

/-- `e` may come right after `previous`. -/
structure Follows (previous : ChainHead) (e : Event P) : Prop where
  seq : e.seq = previous.seq + 1
  prevHash : e.prevHash = previous.hash
  hash : recompute e = some e.hash
  tick : previous.tick ≤ e.tick
  schema : PayloadSchemas.validatePayload e.kind e.payload = .ok ()

/-- Every event follows the one before it. -/
def Chained : ChainHead → List (Event P) → Prop
  | _, [] => True
  | previous, e :: es => Follows previous e ∧ Chained (headOf e) es

omit [CanonicalJson P] [Sha256] [PayloadSchemas P] in
theorem failIf_eq_nil {bad : Prop} [Decidable bad] {e : Event P} {r : Reason} {x y : String} :
    failIf bad e r x y = [] ↔ ¬bad := by
  unfold failIf
  split <;> simp_all

omit [CanonicalJson P] [Sha256] in
theorem schemaFailures_eq_nil {e : Event P} :
    schemaFailures e = some [] ↔ PayloadSchemas.validatePayload e.kind e.payload = .ok () := by
  unfold schemaFailures
  cases PayloadSchemas.validatePayload e.kind e.payload with
  | ok u => simp
  | error fault => cases fault <;> simp

theorem checkEvent_eq_nil {previous : ChainHead} {e : Event P} :
    checkEvent previous e = some [] ↔ Follows previous e := by
  unfold checkEvent
  simp only [Option.bind_eq_bind, Option.bind_eq_some_iff, Option.some.injEq,
    List.append_eq_nil_iff, failIf_eq_nil, not_not, not_lt]
  constructor
  · rintro ⟨expected, he, schema, hs, ⟨⟨⟨hseq, hprev⟩, hhash⟩, htick⟩, rfl⟩
    exact ⟨hseq, hprev, hhash ▸ he, htick, schemaFailures_eq_nil.mp hs⟩
  · rintro ⟨hseq, hprev, hhash, htick, hs⟩
    exact ⟨e.hash, hhash, [], schemaFailures_eq_nil.mpr hs,
      ⟨⟨⟨hseq, hprev⟩, rfl⟩, htick⟩, rfl⟩

theorem checkEvents_eq_nil {previous : ChainHead} {es : List (Event P)} :
    (∃ last, checkEvents previous es = some ([], last)) ↔ Chained previous es := by
  induction es generalizing previous with
  | nil => simp [checkEvents, Chained]
  | cons e es ih =>
    unfold checkEvents Chained
    simp only [Option.bind_eq_bind, Option.bind_eq_some_iff, Prod.exists, Option.some.injEq,
      Prod.mk.injEq, List.append_eq_nil_iff]
    rw [← checkEvent_eq_nil, ← ih]
    constructor
    · rintro ⟨last, here, hhere, rest, last', hrest, ⟨rfl, rfl⟩, rfl⟩
      exact ⟨hhere, last', hrest⟩
    · rintro ⟨hhere, last, hrest⟩
      exact ⟨last, [], hhere, [], last, hrest, ⟨rfl, rfl⟩, rfl⟩

theorem verifyBatch_ok_iff {es : List (Event P)} {h : String} {s : Int} :
    VerifiesOk es h s ↔ Chained (startHead h s) es := by
  rw [← checkEvents_eq_nil]
  unfold VerifiesOk verifyBatch
  cases hc : checkEvents (startHead h s) es with
  | none => simp
  | some r =>
    obtain ⟨failures, last⟩ := r
    simp

/-! ## Continuing a chain -/

/-- The head a chain ends at. -/
def chainEnd (previous : ChainHead) (es : List (Event P)) : ChainHead :=
  es.foldl (fun _ e => headOf e) previous

omit [CanonicalJson P] [Sha256] [PayloadSchemas P] in
@[simp] theorem chainEnd_nil (previous : ChainHead) :
    chainEnd previous ([] : List (Event P)) = previous := rfl

omit [CanonicalJson P] [Sha256] [PayloadSchemas P] in
@[simp] theorem chainEnd_cons (previous : ChainHead) (e : Event P) (es : List (Event P)) :
    chainEnd previous (e :: es) = chainEnd (headOf e) es := rfl

omit [CanonicalJson P] [Sha256] [PayloadSchemas P] in
@[simp] theorem chainEnd_append (previous : ChainHead) (es fs : List (Event P)) :
    chainEnd previous (es ++ fs) = chainEnd (chainEnd previous es) fs :=
  List.foldl_append ..

theorem chained_append {previous : ChainHead} {es fs : List (Event P)} :
    Chained previous (es ++ fs) ↔ Chained previous es ∧ Chained (chainEnd previous es) fs := by
  induction es generalizing previous with
  | nil => simp [Chained]
  | cons e es ih =>
    simp only [List.cons_append, Chained, chainEnd_cons, ih]
    exact and_assoc.symm

theorem Chained.seq_increasing {previous : ChainHead} {es : List (Event P)}
    (h : Chained previous es) :
    (∀ e ∈ es, previous.seq < e.seq) ∧ es.Pairwise fun e f => e.seq < f.seq := by
  induction es generalizing previous with
  | nil => simp
  | cons e es ih =>
    obtain ⟨hfirst, hrest⟩ := h
    obtain ⟨hlater, hpair⟩ := ih hrest
    have hstep : previous.seq < e.seq := by
      rw [hfirst.seq]
      omega
    constructor
    · intro f hf
      rcases List.mem_cons.mp hf with rfl | hf
      · exact hstep
      · have := hlater f hf
        simp only [headOf] at this
        omega
    · exact List.pairwise_cons.mpr ⟨fun f hf => hlater f hf, hpair⟩

theorem Chained.nodup {previous : ChainHead} {es : List (Event P)} (h : Chained previous es) :
    es.Nodup :=
  h.seq_increasing.2.imp fun hlt heq => by
    rw [heq] at hlt
    exact lt_irrefl _ hlt

end Polis.Events
