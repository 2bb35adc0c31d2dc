/-
  Polis.Events.VerifyFrom — verifying a stored run from a sequence number on
  (`verify_run` of `events/verify.py`, `scan` of `events/reader.py`).

  The pass over the events from a cut on starts with the hash, the sequence
  number and the tick of nothing at all, instead of those of the last event
  before the cut.

  Main results:
    * `scan_cut` — a scan from a cut is what a full scan leaves from there on.
    * `verifyRun_resumes_iff` — a verification from a cut agrees with the full
      one exactly when the first event from the cut on cannot tell the two
      starts apart.
-/
import Polis.Events.LogRuns
import Polis.Lib.StableSort

namespace Polis.Events

open Lib StableSort

variable {P : Type}

/-! ## Reading a stored run -/

/-- `scan` of the events of a run, from a sequence number on. -/
def scanSeq (stored : List (Event P)) (runId : RunId) (fromSeq : Option Int) : List (Event P) :=
  sortByKey (fun e => e.seq) (stored.filter fun e => e.runId = runId ∧ fromSeq.all (· ≤ e.seq))

/-- `from_seq or None`. -/
def cutOf (fromSeq : Int) : Option Int := if fromSeq = 0 then none else some fromSeq

theorem pairwise_scan (stored : List (Event P)) (runId : RunId) (fromSeq : Option Int) :
    (scanSeq stored runId fromSeq).Pairwise (ByKey fun e : Event P => e.seq) :=
  pairwise_sortByKey _ _

/-- The stored events of a run below a sequence number. -/
def earlier (stored : List (Event P)) (runId : RunId) (fromSeq : Int) : List (Event P) :=
  (scanSeq stored runId none).filter fun e => e.seq < fromSeq

theorem scan_cut (stored : List (Event P)) (runId : RunId) (fromSeq : Int) :
    scanSeq stored runId (some fromSeq)
      = (scanSeq stored runId none).filter fun e => fromSeq ≤ e.seq := by
  unfold scanSeq
  rw [filter_insertionSort, List.filter_filter]
  congr 1
  apply List.filter_congr
  intro e _
  simp [and_comm]

theorem earlier_append_scan (stored : List (Event P)) (runId : RunId) (fromSeq : Int) :
    earlier stored runId fromSeq ++ scanSeq stored runId (some fromSeq)
      = scanSeq stored runId none := by
  rw [scan_cut]
  exact cut_append (fun e : Event P => e.seq) fromSeq (pairwise_scan stored runId none)

section Verification

variable [CanonicalJson P] [Sha256] [PayloadSchemas P]

/-- `verify_run`. -/
def verifyRun (stored : List (Event P)) (runId : RunId) (fromSeq : Int) : Option ChainReport :=
  verifyBatch (scanSeq stored runId (cutOf fromSeq)) GENESIS_PREV_HASH (max 0 (fromSeq - 1))

/-! ## Reports -/

/-- The pass does not raise at an event. -/
def Checkable (e : Event P) : Prop := (recompute e).isSome ∧ (schemaFailures e).isSome

theorem checkEvent_isSome (previous : ChainHead) {e : Event P} :
    (checkEvent previous e).isSome ↔ Checkable e := by
  unfold checkEvent Checkable
  cases recompute e <;> cases schemaFailures e <;> simp

theorem Follows.checkable {previous : ChainHead} {e : Event P} (h : Follows previous e) :
    Checkable e :=
  (checkEvent_isSome previous).mp (Option.isSome_iff_exists.mpr ⟨[], checkEvent_eq_nil.mpr h⟩)

theorem Chained.checkable {previous : ChainHead} {es : List (Event P)} (h : Chained previous es) :
    ∀ e ∈ es, Checkable e := by
  induction es generalizing previous with
  | nil => exact fun _ he => absurd he List.not_mem_nil
  | cons e es ih =>
    intro f hf
    rcases List.mem_cons.mp hf with rfl | hf
    · exact h.1.checkable
    · exact ih h.2 f hf

omit [CanonicalJson P] [Sha256] in
theorem schemaFailures_seq {e : Event P} {fs : List ChainFailure} (h : schemaFailures e = some fs) :
    ∀ f ∈ fs, f.seq = e.seq := by
  unfold schemaFailures at h
  cases hv : PayloadSchemas.validatePayload e.kind e.payload with
  | ok u =>
    rw [hv] at h
    cases h
    exact fun _ hf => absurd hf List.not_mem_nil
  | error fault =>
    rw [hv] at h
    cases fault with
    | schema message =>
      cases h
      intro f hf
      rw [List.mem_singleton.mp hf]
    | unknownKind message => cases h

omit [CanonicalJson P] [Sha256] [PayloadSchemas P] in
theorem failIf_seq {bad : Prop} [Decidable bad] {e : Event P} {r : Reason} {x y : String} :
    ∀ f ∈ failIf bad e r x y, f.seq = e.seq := by
  intro f hf
  unfold failIf at hf
  split at hf
  · rw [List.mem_singleton.mp hf]
  · cases hf

theorem checkEvent_seq {previous : ChainHead} {e : Event P} {fs : List ChainFailure}
    (h : checkEvent previous e = some fs) : ∀ f ∈ fs, f.seq = e.seq := by
  unfold checkEvent at h
  simp only [Option.bind_eq_bind, Option.bind_eq_some_iff, Option.some.injEq] at h
  obtain ⟨expected, -, schema, hschema, rfl⟩ := h
  intro f hf
  simp only [List.mem_append] at hf
  rcases hf with (((hf | hf) | hf) | hf) | hf
  · exact failIf_seq f hf
  · exact failIf_seq f hf
  · exact failIf_seq f hf
  · exact failIf_seq f hf
  · exact schemaFailures_seq hschema f hf

theorem checkEvents_spec {previous last : ChainHead} {es : List (Event P)}
    {fs : List ChainFailure} (h : checkEvents previous es = some (fs, last)) :
    last = chainEnd previous es ∧ ∀ f ∈ fs, ∃ e ∈ es, f.seq = e.seq := by
  induction es generalizing previous fs with
  | nil =>
    cases h
    exact ⟨rfl, fun _ hf => absurd hf List.not_mem_nil⟩
  | cons e es ih =>
    unfold checkEvents at h
    simp only [Option.bind_eq_bind, Option.bind_eq_some_iff, Prod.exists, Option.some.injEq,
      Prod.mk.injEq] at h
    obtain ⟨here, hhere, rest, last', hrest, rfl, rfl⟩ := h
    obtain ⟨hend, hseqs⟩ := ih hrest
    refine ⟨hend, fun f hf => ?_⟩
    rcases List.mem_append.mp hf with hf | hf
    · exact ⟨e, List.mem_cons_self, checkEvent_seq hhere f hf⟩
    · obtain ⟨e', he', hseq⟩ := hseqs f hf
      exact ⟨e', List.mem_cons_of_mem _ he', hseq⟩

theorem checkEvents_isSome (previous : ChainHead) {es : List (Event P)} :
    (checkEvents previous es).isSome ↔ ∀ e ∈ es, Checkable e := by
  induction es generalizing previous with
  | nil => simp [checkEvents]
  | cons e es ih =>
    rw [List.forall_mem_cons, ← ih (headOf e), ← checkEvent_isSome previous, checkEvents]
    cases checkEvent previous e <;> cases checkEvents (headOf e) es <;> simp

theorem checkEvents_append (previous : ChainHead) (es fs : List (Event P)) :
    checkEvents previous (es ++ fs) = (checkEvents previous es).bind fun r =>
      (checkEvents (chainEnd previous es) fs).map fun r' => (r.1 ++ r'.1, r'.2) := by
  induction es generalizing previous with
  | nil => cases h : checkEvents previous fs <;> simp [checkEvents, h]
  | cons e es ih =>
    rw [List.cons_append, checkEvents, checkEvents, ih, chainEnd_cons]
    cases checkEvent previous e with
    | none => rfl
    | some here =>
      cases checkEvents (headOf e) es with
      | none => rfl
      | some r =>
        cases checkEvents (chainEnd (headOf e) es) fs with
        | none => rfl
        | some r' => simp

theorem verifyBatch_failures {es : List (Event P)} {h : String} {s : Int} {r : ChainReport} :
    verifyBatch es h s = some r →
      r.ok = r.failures.isEmpty ∧
        ∃ last, checkEvents (startHead h s) es = some (r.failures, last) := by
  intro hr
  unfold verifyBatch at hr
  simp only [Option.bind_eq_bind, Option.bind_eq_some_iff, Prod.exists, Option.some.injEq] at hr
  obtain ⟨failures, last, hcheck, rfl⟩ := hr
  exact ⟨rfl, last, hcheck⟩

theorem verifyBatch_rejects_iff {es : List (Event P)} {h : String} {s : Int} :
    (∃ r ∈ verifyBatch es h s, r.ok = false) ↔
      (∀ e ∈ es, Checkable e) ∧ ¬Chained (startHead h s) es := by
  rw [← verifyBatch_ok_iff, ← checkEvents_isSome (startHead h s)]
  unfold VerifiesOk verifyBatch
  cases checkEvents (startHead h s) es with
  | none => simp
  | some r => simp

/-! ## The cut -/

/-- Where a run stands before a cut: at its last event there, or at the start. -/
def headAt (stored : List (Event P)) (runId : RunId) (fromSeq : Int) : ChainHead :=
  chainEnd (startHead GENESIS_PREV_HASH 0) (earlier stored runId fromSeq)

/-- A verification from a cut agrees with the full one: it accepts what the
full one accepts, up to the last event, and reports a failure when the full
one reports one from the cut on. -/
structure Resumes (stored : List (Event P)) (runId : RunId) (fromSeq : Int) : Prop where
  accepts : (verifyRun stored runId 0).any ChainReport.ok →
    (∃ e ∈ scanSeq stored runId none, fromSeq ≤ e.seq) →
      (verifyRun stored runId fromSeq).any ChainReport.ok
  rejects : (∃ r ∈ verifyRun stored runId 0, ∃ f ∈ r.failures, fromSeq ≤ f.seq) →
    ∃ r ∈ verifyRun stored runId fromSeq, r.ok = false

/-- The first event from the cut on cannot tell its predecessor from nothing
at all: in a chained run it names the hash of no event, and where it would
pass as the first event of a run with nothing wrong behind it, it has the
predecessor of one. -/
def CutLinks (stored : List (Event P)) (runId : RunId) (fromSeq : Int) : Prop :=
  ∀ first rest, scanSeq stored runId (some fromSeq) = first :: rest →
    (Chained (startHead GENESIS_PREV_HASH 0) (scanSeq stored runId none) →
      first.prevHash = GENESIS_PREV_HASH) ∧
    ((∀ e ∈ earlier stored runId fromSeq, Checkable e) →
      Follows (startHead GENESIS_PREV_HASH (fromSeq - 1)) first → Chained (headOf first) rest →
        (headAt stored runId fromSeq).seq = fromSeq - 1 ∧
        (headAt stored runId fromSeq).hash = GENESIS_PREV_HASH ∧
        (headAt stored runId fromSeq).tick ≤ first.tick)

omit [CanonicalJson P] [Sha256] [PayloadSchemas P] in
theorem headAt_seq_lt (stored : List (Event P)) (runId : RunId) {fromSeq : Int}
    (hcut : 1 ≤ fromSeq) : (headAt stored runId fromSeq).seq < fromSeq := by
  have hbelow : ∀ e ∈ earlier stored runId fromSeq, e.seq < fromSeq := by
    intro e he
    simpa using (List.mem_filter.mp he).2
  unfold headAt
  have hgeneral : ∀ (es : List (Event P)) (previous : ChainHead), previous.seq < fromSeq →
      (∀ e ∈ es, e.seq < fromSeq) → (chainEnd previous es).seq < fromSeq := by
    intro es
    induction es with
    | nil => exact fun _ h _ => h
    | cons e es ih =>
      intro previous _ hall
      exact ih (headOf e) (hall e List.mem_cons_self) fun f hf => hall f (List.mem_cons_of_mem _ hf)
  apply hgeneral _ _ _ hbelow
  show (0 : Int) < fromSeq
  omega

section Cut

variable {stored : List (Event P)} {runId : RunId} {fromSeq : Int}

theorem chained_cut (fromSeq : Int) :
    Chained (startHead GENESIS_PREV_HASH 0) (scanSeq stored runId none) ↔
      Chained (startHead GENESIS_PREV_HASH 0) (earlier stored runId fromSeq) ∧
      Chained (headAt stored runId fromSeq) (scanSeq stored runId (some fromSeq)) := by
  rw [← earlier_append_scan stored runId fromSeq, chained_append]
  rfl

theorem verifyRun_full :
    verifyRun stored runId 0 = verifyBatch (scanSeq stored runId none) GENESIS_PREV_HASH 0 := rfl

theorem verifyRun_from (hcut : 1 ≤ fromSeq) :
    verifyRun stored runId fromSeq
      = verifyBatch (scanSeq stored runId (some fromSeq)) GENESIS_PREV_HASH (fromSeq - 1) := by
  have hcutOf : cutOf fromSeq = some fromSeq := if_neg (by omega)
  have hmax : max 0 (fromSeq - 1) = fromSeq - 1 := max_eq_right (by omega)
  unfold verifyRun
  rw [hcutOf, hmax]

theorem rejects_iff :
    (∃ r ∈ verifyRun stored runId 0, ∃ f ∈ r.failures, fromSeq ≤ f.seq) ↔
      (∀ e ∈ scanSeq stored runId none, Checkable e) ∧
        ¬Chained (headAt stored runId fromSeq) (scanSeq stored runId (some fromSeq)) := by
  rw [verifyRun_full]
  constructor
  · rintro ⟨r, hr, f, hf, hseq⟩
    obtain ⟨-, last, hcheck⟩ := verifyBatch_failures hr
    refine ⟨(checkEvents_isSome _).mp (by rw [hcheck]; rfl), fun hchained => ?_⟩
    rw [← earlier_append_scan stored runId fromSeq, checkEvents_append] at hcheck
    simp only [Option.bind_eq_some_iff, Option.map_eq_some_iff, Prod.exists, Prod.mk.injEq]
      at hcheck
    obtain ⟨fs, mid, hbefore, fs', last', hafter, hall, -⟩ := hcheck
    obtain ⟨end', hnone⟩ := checkEvents_eq_nil.mpr hchained
    have hsame : checkEvents (headAt stored runId fromSeq) (scanSeq stored runId (some fromSeq))
        = some (fs', last') := hafter
    rw [hnone] at hsame
    cases hsame
    -- what is left are failures of events before the cut
    rw [List.append_nil] at hall
    rw [← hall] at hf
    obtain ⟨e, he, heq⟩ := (checkEvents_spec hbefore).2 f hf
    have hlt : e.seq < fromSeq := by simpa using (List.mem_filter.mp he).2
    omega
  · rintro ⟨hcheckable, hbroken⟩
    have hsome := (checkEvents_isSome (startHead GENESIS_PREV_HASH 0)).mpr hcheckable
    obtain ⟨⟨failures, last⟩, hcheck⟩ := Option.isSome_iff_exists.mp hsome
    have hsplit := hcheck
    rw [← earlier_append_scan stored runId fromSeq, checkEvents_append] at hsplit
    simp only [Option.bind_eq_some_iff, Option.map_eq_some_iff, Prod.exists, Prod.mk.injEq]
      at hsplit
    obtain ⟨fs, mid, -, fs', last', hafter, hall, -⟩ := hsplit
    have hafter : checkEvents (headAt stored runId fromSeq) (scanSeq stored runId (some fromSeq))
        = some (fs', last') := hafter
    have hne : fs' ≠ [] := by
      intro hnil
      subst hnil
      exact hbroken (checkEvents_eq_nil.mp ⟨last', hafter⟩)
    obtain ⟨f, hf⟩ := List.exists_mem_of_ne_nil fs' hne
    obtain ⟨e, he, heq⟩ := (checkEvents_spec hafter).2 f hf
    rw [scan_cut] at he
    have hge : fromSeq ≤ e.seq := by simpa using (List.mem_filter.mp he).2
    unfold verifyBatch
    simp only [hcheck, Option.bind_eq_bind, Option.bind_some, Option.mem_def, Option.some.injEq,
      exists_eq_left']
    exact ⟨f, by rw [← hall]; exact List.mem_append_right _ hf, by omega⟩

/-- **A verification from a cut agrees with the full one exactly when the
first event from the cut on cannot tell the two starts apart.** -/
theorem verifyRun_resumes_iff (stored : List (Event P)) (runId : RunId) (fromSeq : Int)
    (hcut : 1 ≤ fromSeq) : Resumes stored runId fromSeq ↔ CutLinks stored runId fromSeq := by
  have hok : ∀ (es : List (Event P)) (s : Int),
      (verifyBatch es GENESIS_PREV_HASH s).any ChainReport.ok ↔
      Chained (startHead GENESIS_PREV_HASH s) es := fun es s => verifyBatch_ok_iff
  constructor
  · intro h first rest hlater
    constructor
    · intro hchained
      have hthere : ∃ e ∈ scanSeq stored runId none, fromSeq ≤ e.seq := by
        have hfirst : first ∈ scanSeq stored runId (some fromSeq) := by
          rw [hlater]
          exact List.mem_cons_self
        rw [scan_cut] at hfirst
        exact ⟨first, (List.mem_filter.mp hfirst).1, by simpa using (List.mem_filter.mp hfirst).2⟩
      have haccepted := h.accepts ((hok _ _).mpr hchained) hthere
      rw [verifyRun_from hcut, hok, hlater] at haccepted
      exact haccepted.1.prevHash
    · intro hcheckable hfollows hrest
      by_contra hdiffer
      -- the full verification reports the first event, the one from the cut does not
      have hbroken : ¬Chained (headAt stored runId fromSeq)
          (scanSeq stored runId (some fromSeq)) := by
        rw [hlater]
        intro hchained
        apply hdiffer
        have hseq := hchained.1.seq
        have hseq' := hfollows.seq
        refine ⟨?_, hchained.1.prevHash.symm.trans hfollows.prevHash, hchained.1.tick⟩
        show (headAt stored runId fromSeq).seq = fromSeq - 1
        have hstart : (startHead GENESIS_PREV_HASH (fromSeq - 1)).seq = fromSeq - 1 := rfl
        omega
      have hall : ∀ e ∈ scanSeq stored runId none, Checkable e := by
        rw [← earlier_append_scan stored runId fromSeq, hlater]
        intro e he
        rcases List.mem_append.mp he with he | he
        · exact hcheckable e he
        · rcases List.mem_cons.mp he with rfl | he
          · exact hfollows.checkable
          · exact hrest.checkable e he
      have hreported := h.rejects (rejects_iff.mpr ⟨hall, hbroken⟩)
      rw [verifyRun_from hcut, verifyBatch_rejects_iff, hlater] at hreported
      exact hreported.2 ⟨hfollows, hrest⟩
  · intro h
    constructor
    · intro hfull hthere
      have hchained : Chained (startHead GENESIS_PREV_HASH 0) (scanSeq stored runId none) :=
        (hok _ _).mp hfull
      obtain ⟨hbefore, hafter⟩ := (chained_cut fromSeq).mp hchained
      rw [verifyRun_from hcut, hok]
      cases hlater : scanSeq stored runId (some fromSeq) with
      | nil => trivial
      | cons first rest =>
        rw [hlater] at hafter
        obtain ⟨hfirst, hrest⟩ := hafter
        have hgenesis := (h first rest hlater).1 hchained
        have hmem : first ∈ scanSeq stored runId (some fromSeq) := by
          rw [hlater]
          exact List.mem_cons_self
        rw [scan_cut] at hmem
        have hge : fromSeq ≤ first.seq := by simpa using (List.mem_filter.mp hmem).2
        have hlt := headAt_seq_lt stored runId hcut
        have htick := hbefore.tick_le
        refine ⟨⟨?_, hgenesis, hfirst.hash, ?_, hfirst.schema⟩, hrest⟩
        · show first.seq = fromSeq - 1 + 1
          have hseq := hfirst.seq
          omega
        · exact htick.trans hfirst.tick
    · intro hreported
      obtain ⟨hall, hbroken⟩ := rejects_iff.mp hreported
      rw [verifyRun_from hcut, verifyBatch_rejects_iff]
      rw [← earlier_append_scan stored runId fromSeq] at hall
      refine ⟨fun e he => hall e (List.mem_append_right _ he), fun hchained => hbroken ?_⟩
      cases hlater : scanSeq stored runId (some fromSeq) with
      | nil => trivial
      | cons first rest =>
        rw [hlater] at hchained
        obtain ⟨hfollows, hrest⟩ := hchained
        obtain ⟨hseq, hhash, htick⟩ := (h first rest hlater).2
          (fun e he => hall e (List.mem_append_left _ he)) hfollows hrest
        refine ⟨⟨?_, ?_, hfollows.hash, htick, hfollows.schema⟩, hrest⟩
        · have hstart := hfollows.seq
          have hsame : (startHead GENESIS_PREV_HASH (fromSeq - 1)).seq = fromSeq - 1 := rfl
          omega
        · rw [hhash]
          exact hfollows.prevHash

end Cut

end Verification

/-! ## Stored runs -/

/-- The content of a second event behind a given hash. -/
def secondContent (prevHash : String) : Content Value :=
  { firstContent (tickDraft none []) with seq := 2, tick := 2, prevHash }

/-- A second event behind `storedTick`. -/
def secondTick : Event Value :=
  { secondContent storedTick.hash with
    hash := "d534160d805b9d9e8109f5c5ebfd696137de4e88d58c880aff34df7e0140a7a0" }

/-- A second event that names no predecessor. -/
def orphanTick : Event Value :=
  { secondContent GENESIS_PREV_HASH with
    hash := "f1c4b613c81ce6cf08c777d45c08d2315d31ad78f75e09ee37fef5c030c4a2ba" }

theorem verifyRun_resumes_first :
    letI : CanonicalJson Value := canonValues
    letI : Sha256 := hashlib
    letI : PayloadSchemas Value := kernelKinds
    Resumes [storedTick, secondTick] sampleRun 1 := by
  let _ : CanonicalJson Value := canonValues
  let _ : Sha256 := hashlib
  let _ : PayloadSchemas Value := kernelKinds
  refine (verifyRun_resumes_iff [storedTick, secondTick] sampleRun 1 (by decide)).mpr ?_
  intro first rest hlater
  have hscan : scanSeq [storedTick, secondTick] sampleRun (some 1) = [storedTick, secondTick] := rfl
  rw [hscan] at hlater
  obtain ⟨rfl, rfl⟩ := List.cons.inj hlater
  exact ⟨fun _ => rfl, fun _ _ _ => ⟨rfl, rfl, by decide⟩⟩

/-- **A chained run of two events is rejected from its second one on, and a
second event that names no predecessor is accepted from there.** -/
theorem verifyRun_restarts :
    letI : CanonicalJson Value := canonValues
    letI : Sha256 := hashlib
    letI : PayloadSchemas Value := kernelKinds
    ¬Resumes [storedTick, secondTick] sampleRun 2 ∧
    ¬Resumes [storedTick, orphanTick] sampleRun 2 := by
  let _ : CanonicalJson Value := canonValues
  let _ : Sha256 := hashlib
  let _ : PayloadSchemas Value := kernelKinds
  constructor
  · intro h
    have hfull : (verifyRun [storedTick, secondTick] sampleRun 0).any ChainReport.ok := by
      decide +kernel
    have hrejected :
        (verifyRun [storedTick, secondTick] sampleRun 2).any ChainReport.ok = false := by
      decide +kernel
    have hthere : ∃ e ∈ scanSeq [storedTick, secondTick] sampleRun none, 2 ≤ e.seq := by
      decide +kernel
    have haccepted := h.accepts hfull hthere
    rw [hrejected] at haccepted
    cases haccepted
  · intro h
    have hreport : ((verifyRun [storedTick, orphanTick] sampleRun 0).any fun r =>
        r.failures.any fun f => 2 ≤ f.seq) = true := by
      decide +kernel
    have haccepted :
        (verifyRun [storedTick, orphanTick] sampleRun 2).all ChainReport.ok = true := by
      decide +kernel
    rw [Option.any_eq_true] at hreport
    obtain ⟨r, hr, hfailures⟩ := hreport
    obtain ⟨f, hf, hseq⟩ := List.any_eq_true.mp hfailures
    obtain ⟨r', hr', hok⟩ := h.rejects ⟨r, hr, f, hf, by simpa using hseq⟩
    rw [hr'] at haccepted
    have hfine : r'.ok = true := by simpa using haccepted
    rw [hok] at hfine
    cases hfine

end Polis.Events
