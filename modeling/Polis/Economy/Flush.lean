/-
  Polis.Economy.Flush — a flush with its suspension point (`economy/ledger.py`).

  `Ledger.flush` makes its batch, waits for the repository, and only then
  strikes the tick off its books.  Between the two halves any other method may
  run, other flushes may start, and the repository may raise.

  Main results:
    * `flush_uninterrupted` — the two halves make up a flush.
    * `FlushInv.step` — what one step keeps, when a flush strikes off what it
      handed over.
    * `call_keeps_marks` — only the end of a flush clears a mark.
    * `flush_loses_nothing` — every such run hands each entry over once.
-/
import Polis.Economy.LedgerRuns

namespace Polis.Economy

open Lib Lib.Effect Ledger

/-! ## The two halves -/

/-- The batch of `flush(tick)`: the marked accounts and the tick's entries. -/
def makeBatch (tick : Int) (L : Ledger) : FlushRows where
  accounts := L.dirtyAccounts.sort.keys.filterMap fun k =>
    (L.accounts.get? k).map fun r => (k, r, k.code.accountType)
  entries := L.commitTick tick

/-- The batch `flush(tick)` hands to the repository, none when it does not call
it. -/
def startFlush (tick : Int) (L : Ledger) : Option FlushRows :=
  if L.hasRepo ∧ (L.dirtyAccounts.entries ≠ [] ∨ L.commitTick tick ≠ []) then
    some (makeBatch tick L)
  else none

/-- What `flush(tick)` does once the repository has returned. -/
def finishFlush (tick : Int) (L : Ledger) : Ledger :=
  let posted := L.postedByTick.getD tick []
  { L with
    postedByTick := L.postedByTick.erase tick
    pendingEntries := L.pendingEntries.filter fun e => e.txnId ∉ posted
    dirtyAccounts := ∅ }

theorem flush_uninterrupted (tick : Int) (L : Ledger) :
    Ledger.flush tick L = .ok (startFlush tick L) (finishFlush tick L) := by
  unfold Ledger.flush startFlush
  rw [get_bind]
  refine bind_eq_ok.mpr ⟨(), _, set_eq_ok.mpr rfl, ?_⟩
  split_ifs
  · rfl
  · rfl

/-! ## Runs -/

/-- A flush that waits for the repository. -/
structure Flight where
  tick : Int
  batch : FlushRows

/-- The ledger, the flushes that wait, and the batches the repository has
taken. -/
structure FlushState where
  ledger : Ledger
  flights : List Flight := []
  handed : List FlushRows := []

/-- The entries the repository has taken. -/
def FlushState.handedEntries (d : FlushState) : List Entry := d.handed.flatMap FlushRows.entries

/-- The methods without a suspension point. -/
def LedgerCall.unsuspended : LedgerCall → Bool
  | .flush _ | .restore => false
  | _ => true

/-- What a step does. -/
inductive FlushMark where
  | call (c : LedgerCall)
  | skip (tick : Int)
  | waits (tick : Int)
  | returns (f : Flight)
  | raises (f : Flight)

/-- The tick whose flush comes to its end. -/
def FlushMark.ends : FlushMark → Option Int
  | .skip tick => some tick
  | .returns f => some f.tick
  | _ => none

/-- A step of one of the tasks. -/
inductive FlushStep [Uuid5] : FlushState → FlushMark → FlushState → Prop where
  | call (d : FlushState) (c : LedgerCall) (hwrites : c.unsuspended = true) :
      FlushStep d (.call c) { d with ledger := stateAfter (c.run d.ledger) }
  /-- There is nothing to hand over. -/
  | skip (d : FlushState) (tick : Int) (hnone : startFlush tick d.ledger = none) :
      FlushStep d (.skip tick) { d with ledger := finishFlush tick d.ledger }
  | waits (d : FlushState) (tick : Int) (batch : FlushRows)
      (hsome : startFlush tick d.ledger = some batch) :
      FlushStep d (.waits tick) { d with flights := d.flights ++ [⟨tick, batch⟩] }
  | returns (L : Ledger) (before after : List Flight) (f : Flight) (handed : List FlushRows) :
      FlushStep ⟨L, before ++ f :: after, handed⟩ (.returns f)
        ⟨finishFlush f.tick L, before ++ after, handed ++ [f.batch]⟩
  | raises (L : Ledger) (before after : List Flight) (f : Flight) (handed : List FlushRows) :
      FlushStep ⟨L, before ++ f :: after, handed⟩ (.raises f) ⟨L, before ++ after, handed⟩

/-- Any number of steps, each of which meets `good` in the state it starts
from. -/
inductive FlushSteps [Uuid5] (good : FlushState → FlushMark → Prop) (d₀ : FlushState) :
    FlushState → Prop where
  | refl : FlushSteps good d₀ d₀
  | step {d d' : FlushState} {m : FlushMark} (h : FlushSteps good d₀ d)
      (hstep : FlushStep d m d') (hgood : good d m) : FlushSteps good d₀ d'

/-- A new ledger that has a repository. -/
def freshFlush (runId : UUID) : FlushState where
  ledger := { runId, hasRepo := true }

/-- The account of an entry is marked dirty. -/
def Marked (L : Ledger) (e : Entry) : Prop := ∃ a ∈ L.dirtyAccounts.keys, a.text = e.accountId

instance (L : Ledger) (e : Entry) : Decidable (Marked L e) :=
  inferInstanceAs (Decidable (∃ a ∈ L.dirtyAccounts.keys, a.text = e.accountId))

/-- No step races a flush: the accounts of a tick are still marked when its
flush starts, and the flush strikes off what it handed over. -/
def Unraced (d : FlushState) : FlushMark → Prop
  | .waits tick => ∀ e ∈ d.ledger.commitTick tick, Marked d.ledger e
  | .returns f => d.ledger.commitTick f.tick = f.batch.entries
  | _ => True

/-! ## The law -/

/-- The account of an entry is among the rows of a batch. -/
def Ledger.FlushRows.hasAccount (batch : FlushRows) (e : Entry) : Prop :=
  ∃ row ∈ batch.accounts, row.1.text = e.accountId

/-- **Nothing is lost**: what was posted was handed over once or is pending, and
the account of an entry is in its batch or a later one. -/
structure FlushLaw (d : FlushState) : Prop where
  once : (d.handedEntries ++ d.ledger.pendingEntries).Perm d.ledger.entries
  accounts : ∀ (i : Nat) (batch : FlushRows), d.handed[i]? = some batch →
    ∀ e ∈ batch.entries, ∃ (j : Nat) (later : FlushRows),
      i ≤ j ∧ d.handed[j]? = some later ∧ later.hasAccount e

/-- The law with what carries it through a run. -/
structure FlushInv (d : FlushState) : Prop where
  once : (d.handedEntries ++ d.ledger.pendingEntries).Perm d.ledger.entries
  hasRepo : d.ledger.hasRepo = true
  posted : ∀ e ∈ d.ledger.pendingEntries, e.txnId ∈ d.ledger.postedByTick.getD e.tick []
  stored : ∀ a ∈ d.ledger.dirtyAccounts.keys, a ∈ d.ledger.accounts.keys
  flights : ∀ f ∈ d.flights, ∀ e ∈ f.batch.entries, f.batch.hasAccount e
  handed : ∀ batch ∈ d.handed, ∀ e ∈ batch.entries, batch.hasAccount e

theorem FlushInv.law {d : FlushState} (h : FlushInv d) : FlushLaw d where
  once := h.once
  accounts i batch hbatch e he :=
    ⟨i, batch, le_rfl, hbatch, h.handed batch (List.mem_of_getElem? hbatch) e he⟩

/-! ## Calls -/

/-- What a call adds to the books: entries that wait under their transactions,
with their accounts marked. -/
structure Adds (L L' : Ledger) (added : List Entry) : Prop where
  entries_eq : L'.entries = L.entries ++ added
  pending_eq : L'.pendingEntries = L.pendingEntries ++ added
  hasRepo_eq : L'.hasRepo = L.hasRepo
  posted_mono : ∀ t x, x ∈ L.postedByTick.getD t [] → x ∈ L'.postedByTick.getD t []
  dirty_mono : ∀ a ∈ L.dirtyAccounts.keys, a ∈ L'.dirtyAccounts.keys
  stored : (∀ a ∈ L.dirtyAccounts.keys, a ∈ L.accounts.keys) →
    ∀ a ∈ L'.dirtyAccounts.keys, a ∈ L'.accounts.keys
  added_posted : ∀ e ∈ added, e.txnId ∈ L'.postedByTick.getD e.tick []
  added_marked : ∀ e ∈ added, Marked L' e

theorem Adds.nothing (L : Ledger) : Adds L L [] :=
  ⟨by simp, by simp, rfl, fun _ _ h => h, fun _ h => h, fun h => h, by simp, by simp⟩

theorem mem_keys_put {κ α : Type} [DecidableEq κ] {d : Dict κ α} {k x : κ} {v : α} :
    x ∈ (d.put k v).keys ↔ x = k ∨ x ∈ d.keys := Dict.mem_keys_putEntry

theorem mem_keys_foldl_put {κ : Type} [DecidableEq κ] {ks : List κ} {d : Dict κ Unit} {x : κ} :
    x ∈ (ks.foldl (fun d k => d.put k ()) d).keys ↔ x ∈ ks ∨ x ∈ d.keys := by
  induction ks generalizing d with
  | nil => simp
  | cons k ks ih =>
    rw [List.foldl_cons, ih, mem_keys_put, List.mem_cons]
    tauto

theorem Adds.account (L : Ledger) (a : AccountId) (row : Account) :
    Adds L { L with
      accounts := L.accounts.put a row
      dirtyAccounts := L.dirtyAccounts.put a () } [] := by
  refine ⟨by simp, by simp, rfl, fun _ _ h => h, fun b hb => ?_, fun h b hb => ?_, by simp, by simp⟩
  · exact mem_keys_put.mpr (.inr hb)
  · rcases mem_keys_put.mp hb with rfl | hb
    · exact mem_keys_put.mpr (.inl rfl)
    · exact mem_keys_put.mpr (.inr (h b hb))

section Calls

variable [Uuid5] {L L' : Ledger}

theorem Adds.post {legs : List Leg} {tick : Int} {cause : Event} {allowNegative : List String}
    {allowIssuance : Bool} {txnId : UUID}
    (h : postTransactionCore legs tick cause allowNegative allowIssuance L = .ok txnId L') :
    Adds L L' (legs.map (entryOf txnId tick cause.seq)) := by
  have hposted := Ledger.post_eq_ok h
  obtain ⟨deltas, hchecked, rfl, rfl⟩ := postCore_eq_ok.mp h
  obtain ⟨hok, -, hkeys⟩ := checkLegs_eq_ok hchecked.collected
  have hmem : ∀ a, a ∈ deltas.keys ↔ a ∈ (lines legs).map Prod.fst := by
    intro a
    have hnone : ((∅ : Dict AccountId Int).get? a).isSome ↔ False := by simp
    rw [Dict.mem_keys_iff, ← Option.isSome_iff_exists, hkeys, hnone, false_or]
  refine ⟨rfl, rfl, rfl, fun t x hx => ?_, fun a ha => ?_, fun h a ha => ?_, fun e he => ?_,
    fun e he => ?_⟩
  · -- transactions stay under their tick
    show x ∈ (L.postedByTick.put tick _).getD t []
    unfold Dict.getD at hx ⊢
    rw [Dict.get?_put]
    split_ifs with ht
    · subst ht
      exact List.mem_append_left _ hx
    · exact hx
  · exact mem_keys_foldl_put.mpr (.inr ha)
  · -- a marked account was stored, or a leg has found its row
    have hrow : ∃ row, L.accounts.get? a = some row := by
      rcases mem_keys_foldl_put.mp ha with ha | ha
      · obtain ⟨row, hrow, -⟩ := legs_accounts hok ((hmem a).mp ha)
        exact ⟨row, hrow⟩
      · exact Dict.mem_keys_iff.mp (h a ha)
    obtain ⟨row, hrow⟩ := hrow
    have hrow' := hposted.rows a
    rw [hrow, Option.map_some] at hrow'
    exact Dict.mem_keys_iff.mpr ⟨_, hrow'⟩
  · obtain ⟨l, hl, rfl⟩ := List.mem_map.mp he
    show _ ∈ (L.postedByTick.put tick _).getD tick []
    unfold Dict.getD
    rw [Dict.get?_put_self]
    exact List.mem_append_right _ List.mem_cons_self
  · obtain ⟨l, hl, rfl⟩ := List.mem_map.mp he
    obtain ⟨a, row, hparse, -⟩ := (hok l hl).account
    have hline : a ∈ (lines legs).map Prod.fst := by
      refine List.mem_map.mpr ⟨(a, l.direction * l.amountCents), ?_, rfl⟩
      refine List.mem_filterMap.mpr ⟨l, hl, ?_⟩
      rw [hparse]
    exact ⟨a, mem_keys_foldl_put.mpr (.inl ((hmem a).mpr hline)), parseAccountId_eq_ok.mp hparse⟩

theorem call_adds (c : LedgerCall) (hwrites : c.unsuspended = true) (L : Ledger) :
    ∃ added, Adds L (stateAfter (c.run L)) added := by
  cases hrun : c.run L with
  | error e L' =>
    rw [call_atomic c L e L' hrun]
    exact ⟨[], .nothing L⟩
  | ok a L' =>
    show ∃ added, Adds L L' added
    cases c with
    | openAccount code ownerId ownerType bankId ref tick =>
      obtain ⟨_, _, h, hpure⟩ := bind_eq_ok.mp hrun
      obtain ⟨-, rfl⟩ := pure_eq_ok.mp hpure
      obtain ⟨-, -, -, -, rfl⟩ := open_eq_ok h
      exact ⟨[], .account L _ _⟩
    | closeAccount value tick =>
      obtain ⟨_, _, h, hpure⟩ := bind_eq_ok.mp hrun
      obtain ⟨-, rfl⟩ := pure_eq_ok.mp hpure
      obtain ⟨_, _, -, -, -, -, -, rfl⟩ := close_eq_ok h
      exact ⟨[], .account L _ _⟩
    | postTransaction legs tick cause allowNegative =>
      obtain ⟨_, _, h, hpure⟩ := bind_eq_ok.mp hrun
      obtain ⟨-, rfl⟩ := pure_eq_ok.mp hpure
      exact ⟨_, .post h⟩
    | issueBaseMoney legs tick cause =>
      obtain ⟨_, _, h, hpure⟩ := bind_eq_ok.mp hrun
      obtain ⟨-, rfl⟩ := pure_eq_ok.mp hpure
      obtain ⟨_, _, h₁, h⟩ := bind_eq_ok.mp h
      obtain ⟨-, rfl⟩ := require_eq_ok.mp h₁
      exact ⟨_, .post h⟩
    | flush tick => cases hwrites
    | restore => cases hwrites

theorem call_keeps_marks (c : LedgerCall) (hwrites : c.unsuspended = true) (L : Ledger)
    (h : ∀ e ∈ L.pendingEntries, Marked L e) :
    ∀ e ∈ (stateAfter (c.run L)).pendingEntries, Marked (stateAfter (c.run L)) e := by
  obtain ⟨added, ha⟩ := call_adds c hwrites L
  intro e he
  rw [ha.pending_eq] at he
  rcases List.mem_append.mp he with he | he
  · obtain ⟨a, hmark, htext⟩ := h e he
    exact ⟨a, ha.dirty_mono a hmark, htext⟩
  · exact ha.added_marked e he

end Calls

/-! ## Steps -/

section Steps

variable {L : Ledger} {d d' : FlushState}

theorem commit_append_finish (tick : Int) (L : Ledger) :
    (L.commitTick tick ++ (finishFlush tick L).pendingEntries).Perm L.pendingEntries := by
  show (L.pendingEntries.filter (fun e => decide (e.txnId ∈ L.postedByTick.getD tick [])) ++
    L.pendingEntries.filter (fun e => decide (e.txnId ∉ L.postedByTick.getD tick []))).Perm _
  simpa using List.filter_append_perm
    (fun e => decide (e.txnId ∈ L.postedByTick.getD tick [])) L.pendingEntries

theorem finish_tick (tick : Int)
    (h : ∀ e ∈ L.pendingEntries, e.txnId ∈ L.postedByTick.getD e.tick []) :
    ∀ e ∈ (finishFlush tick L).pendingEntries, e.tick ≠ tick := by
  intro e he htick
  obtain ⟨hpending, hnot⟩ := List.mem_filter.mp he
  have hin := h e hpending
  rw [htick] at hin
  exact of_decide_eq_true hnot hin

theorem finish_posted (tick : Int)
    (h : ∀ e ∈ L.pendingEntries, e.txnId ∈ L.postedByTick.getD e.tick []) :
    ∀ e ∈ (finishFlush tick L).pendingEntries,
      e.txnId ∈ (finishFlush tick L).postedByTick.getD e.tick [] := by
  intro e he
  have hne := finish_tick tick h e he
  have hin := h e (List.mem_filter.mp he).1
  show e.txnId ∈ (L.postedByTick.erase tick).getD e.tick []
  unfold Dict.getD at hin ⊢
  rw [Dict.get?_erase, if_neg hne]
  exact hin

theorem start_hasAccount {tick : Int} {batch : FlushRows} (h : startFlush tick L = some batch)
    (hstored : ∀ a ∈ L.dirtyAccounts.keys, a ∈ L.accounts.keys)
    (hmarked : ∀ e ∈ L.commitTick tick, Marked L e) :
    ∀ e ∈ batch.entries, batch.hasAccount e := by
  unfold startFlush at h
  split_ifs at h
  cases h
  intro e he
  obtain ⟨a, ha, htext⟩ := hmarked e he
  obtain ⟨row, hrow⟩ := Dict.mem_keys_iff.mp (hstored a ha)
  refine ⟨(a, row, a.code.accountType), ?_, htext⟩
  refine List.mem_filterMap.mpr ⟨a, (Dict.mem_keys_sort _ a).mpr ha, ?_⟩
  rw [hrow]
  rfl

theorem commitTick_of_skip {tick : Int} (hrepo : L.hasRepo = true)
    (h : startFlush tick L = none) : L.commitTick tick = [] := by
  unfold startFlush at h
  split_ifs at h with hif
  by_contra hne
  exact hif ⟨hrepo, .inr hne⟩

theorem FlushInv.adds {L' : Ledger} {added : List Entry} (h : FlushInv d)
    (ha : Adds d.ledger L' added) : FlushInv { d with ledger := L' } where
  once := by
    show (d.handedEntries ++ L'.pendingEntries).Perm L'.entries
    rw [ha.pending_eq, ha.entries_eq, ← List.append_assoc]
    exact h.once.append_right added
  hasRepo := ha.hasRepo_eq.trans h.hasRepo
  posted e he := by
    have he : e ∈ L'.pendingEntries := he
    rw [ha.pending_eq] at he
    rcases List.mem_append.mp he with he | he
    · exact ha.posted_mono _ _ (h.posted e he)
    · exact ha.added_posted e he
  stored := ha.stored h.stored
  flights := h.flights
  handed := h.handed

theorem FlushInv.step [Uuid5] {m : FlushMark} (h : FlushInv d) (hstep : FlushStep d m d')
    (hgood : Unraced d m) : FlushInv d' := by
  cases hstep with
  | call d c hwrites =>
    obtain ⟨added, ha⟩ := call_adds c hwrites d.ledger
    exact h.adds ha
  | skip d tick hnone =>
    have hempty := commitTick_of_skip h.hasRepo hnone
    have hsplit := commit_append_finish tick d.ledger
    rw [hempty, List.nil_append] at hsplit
    refine ⟨?_, h.hasRepo, finish_posted tick h.posted, ?_, h.flights, h.handed⟩
    · exact (hsplit.append_left _).trans h.once
    · intro a ha
      cases ha
  | waits d tick batch hsome =>
    refine ⟨h.once, h.hasRepo, h.posted, h.stored, fun f hf => ?_, h.handed⟩
    rcases List.mem_append.mp hf with hf | hf
    · exact h.flights f hf
    · rw [List.mem_singleton.mp hf]
      exact start_hasAccount hsome h.stored hgood
  | returns L before after f handed =>
    have hcommit : L.commitTick f.tick = f.batch.entries := hgood
    have hsplit := commit_append_finish f.tick L
    rw [hcommit] at hsplit
    have hf : f ∈ before ++ f :: after := List.mem_append_right _ List.mem_cons_self
    refine ⟨?_, h.hasRepo, finish_posted f.tick h.posted, ?_, fun g hg => ?_, fun b hb => ?_⟩
    · -- the batch moves from the pending entries to the ones handed over
      show ((handed ++ [f.batch]).flatMap FlushRows.entries ++ _).Perm L.entries
      rw [List.flatMap_append, List.flatMap_singleton, List.append_assoc]
      exact (hsplit.append_left _).trans h.once
    · intro a ha
      cases ha
    · refine h.flights g ?_
      simp only [List.mem_append, List.mem_cons] at hg ⊢
      tauto
    · rcases List.mem_append.mp hb with hb | hb
      · exact h.handed b hb
      · rw [List.mem_singleton.mp hb]
        exact h.flights f hf
  | raises L before after f handed =>
    refine ⟨h.once, h.hasRepo, h.posted, h.stored, fun g hg => ?_, h.handed⟩
    refine h.flights g ?_
    simp only [List.mem_append, List.mem_cons] at hg ⊢
    tauto

theorem FlushInv.steps [Uuid5] (h : FlushInv d) (hsteps : FlushSteps Unraced d d') :
    FlushInv d' := by
  induction hsteps with
  | refl => exact h
  | step _ hstep hgood ih => exact ih.step hstep hgood

theorem flushInv_fresh (runId : UUID) : FlushInv (freshFlush runId) := by
  refine ⟨?_, rfl, ?_, ?_, ?_, ?_⟩
  · exact List.Perm.refl _
  all_goals
    intro x hx
    cases hx

theorem FlushSteps.handed [Uuid5] {good : FlushState → FlushMark → Prop}
    (h : FlushSteps good d d') : ∃ later, d'.handed = d.handed ++ later := by
  induction h with
  | refl => exact ⟨[], (List.append_nil _).symm⟩
  | step _ hstep _ ih =>
    obtain ⟨later, ih⟩ := ih
    cases hstep with
    | call | skip | waits | raises => exact ⟨later, ih⟩
    | returns L before after f handed =>
      refine ⟨later ++ [f.batch], ?_⟩
      show handed ++ [f.batch] = _
      rw [show handed = _ from ih, List.append_assoc]

theorem FlushInv.ended [Uuid5] {m : FlushMark} {tick : Int} (h : FlushInv d)
    (hstep : FlushStep d m d') (hgood : Unraced d m) (hends : m.ends = some tick) :
    ∀ e ∈ d'.ledger.pendingEntries, e.tick ≠ tick := by
  cases hstep with
  | call | waits | raises => cases hends
  | skip d t hnone =>
    cases hends
    exact finish_tick tick h.posted
  | returns L before after f handed =>
    cases hends
    exact finish_tick f.tick h.posted

end Steps

/-- **Nothing is lost**: in every run in which no step races a flush, and at
every end of a flush of a tick, each entry of the tick has been handed over as
often as it was posted, and never is again. -/
theorem flush_loses_nothing [Uuid5] (runId : UUID) (d : FlushState)
    (h : FlushSteps Unraced (freshFlush runId) d) :
    FlushLaw d ∧ ∀ m tick d', FlushStep d m d' → Unraced d m → m.ends = some tick →
      ∀ d'', FlushSteps Unraced d' d'' → ∀ e, e.tick = tick →
        d'.ledger.entries.count e ≤ d''.handedEntries.count e ∧
          d''.handedEntries.count e ≤ d''.ledger.entries.count e := by
  have hinv := (flushInv_fresh runId).steps h
  refine ⟨hinv.law, fun m tick d' hstep hgood hends d'' hlater e he => ?_⟩
  have hinv' := hinv.step hstep hgood
  have hnot : d'.ledger.pendingEntries.count e = 0 := by
    refine List.count_eq_zero.mpr fun hmem => ?_
    exact hinv.ended hstep hgood hends e hmem he
  have hthen := hinv'.once.count_eq e
  have hnow := (hinv'.steps hlater).once.count_eq e
  obtain ⟨later, heq⟩ := hlater.handed
  have hkept : d''.handedEntries.count e
      = d'.handedEntries.count e + (later.flatMap FlushRows.entries).count e := by
    unfold FlushState.handedEntries
    rw [heq, List.flatMap_append, List.count_append]
  rw [List.count_append] at hthen hnow
  omega

/-! ### A posting in between -/

theorem FlushSteps.calls [Uuid5] {good : FlushState → FlushMark → Prop} {d₀ d : FlushState}
    (h : FlushSteps good d₀ d) (hgood : ∀ d c, good d (.call c)) (cs : List LedgerCall)
    (hwrites : ∀ c ∈ cs, c.unsuspended = true) :
    FlushSteps good d₀
      { d with ledger := cs.foldl (fun L c => stateAfter (c.run L)) d.ledger } := by
  induction cs generalizing d with
  | nil => exact h
  | cons c cs ih =>
    have hcall := h.step (.call d c (hwrites c List.mem_cons_self)) (hgood d c)
    exact ih hcall fun c' hc' => hwrites c' (List.mem_cons_of_mem _ hc')

/-- The ledger after a list of calls. -/
def afterCalls [Uuid5] (runId : UUID) (cs : List LedgerCall) : Ledger :=
  cs.foldl (fun L c => stateAfter (c.run L)) (freshFlush runId).ledger

theorem flushSteps_afterCalls [Uuid5] (good : FlushState → FlushMark → Prop)
    (hgood : ∀ d c, good d (.call c)) (runId : UUID) (cs : List LedgerCall)
    (hwrites : ∀ c ∈ cs, c.unsuspended = true) :
    FlushSteps good (freshFlush runId) ⟨afterCalls runId cs, [], []⟩ :=
  FlushSteps.refl.calls hgood cs hwrites

/-- The cause of the calls below. -/
def flushCause : Event :=
  ⟨0, "00000000-0000-4000-8000-000000000001", 0, ⟨.moneyIssued, [], none, []⟩⟩

/-- Two agents, one of which has a hundred cents. -/
def twoAgents : List LedgerCall :=
  [.openAccount .iss "bk_cb" "central_bank" none none 0,
   .openAccount .cash "ag_a" "agent" none none 0,
   .openAccount .cash "ag_b" "agent" none none 0,
   .issueBaseMoney [⟨"iss:bk_cb", -1, 100, "issuance"⟩, ⟨"cash:ag_a", 1, 100, "issuance"⟩] 0
     flushCause]

/-- One pays the other. -/
def sixtyCents : LedgerCall :=
  .postTransaction [⟨"cash:ag_a", -1, 60, "transfer"⟩, ⟨"cash:ag_b", 1, 60, "transfer"⟩] 0
    flushCause []

/-- A payment posted while the flush of its tick waits is struck off with the
rest, and was in no batch. -/
theorem flush_drops_posting :
    letI : Uuid5 := ⟨tableUuid5⟩
    ¬ ∀ runId d, FlushSteps (fun _ _ => True) (freshFlush runId) d → FlushLaw d := by
  let _ : Uuid5 := ⟨tableUuid5⟩
  intro h
  let L := afterCalls "00000000-0000-4000-8000-000000000001" twoAgents
  have hfirst := flushSteps_afterCalls (fun _ _ => True) (fun _ _ => trivial)
    "00000000-0000-4000-8000-000000000001" twoAgents (by decide)
  have hwaits := hfirst.step (.waits _ 0 (makeBatch 0 L) (if_pos (by decide +kernel))) trivial
  have hpaid := hwaits.step (.call _ sixtyCents rfl) trivial
  have hdone := hpaid.step (.returns _ [] [] ⟨0, makeBatch 0 L⟩ []) trivial
  have hlength := (h _ _ hdone).once.length_eq
  revert hlength
  decide +kernel

theorem FlushSteps.flush [Uuid5] {d₀ : FlushState} {L : Ledger} {handed : List FlushRows}
    (h : FlushSteps Unraced d₀ ⟨L, [], handed⟩) (tick : Int)
    (hsome : startFlush tick L = some (makeBatch tick L))
    (hmarked : ∀ e ∈ L.commitTick tick, Marked L e) :
    FlushSteps Unraced d₀ ⟨finishFlush tick L, [], handed ++ [makeBatch tick L]⟩ := by
  have hwaits := h.step (.waits _ tick _ hsome) hmarked
  have hunraced : Unraced ⟨L, [⟨tick, makeBatch tick L⟩], handed⟩
      (.returns ⟨tick, makeBatch tick L⟩) := rfl
  exact hwaits.step (.returns L [] [] ⟨tick, makeBatch tick L⟩ handed) hunraced

theorem flush_loses_nothing_payment :
    letI : Uuid5 := ⟨tableUuid5⟩
    let L := afterCalls "00000000-0000-4000-8000-000000000001" (twoAgents ++ [sixtyCents])
    L.entries.length = 4 ∧ FlushLaw ⟨finishFlush 0 L, [], [makeBatch 0 L]⟩ := by
  let _ : Uuid5 := ⟨tableUuid5⟩
  refine ⟨by decide +kernel, ?_⟩
  have hcalls := flushSteps_afterCalls Unraced (fun _ _ => trivial)
    "00000000-0000-4000-8000-000000000001" (twoAgents ++ [sixtyCents]) (by decide)
  have hflush := hcalls.flush 0 (if_pos (by decide +kernel)) (by decide +kernel)
  exact (flush_loses_nothing _ _ hflush).1

end Polis.Economy
