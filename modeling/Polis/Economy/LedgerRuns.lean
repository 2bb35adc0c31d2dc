/-
  Polis.Economy.LedgerRuns — whole runs of the ledger.

  A run starts from an empty ledger and makes any sequence of calls, each of
  which returns or raises; `stateAfter` is what a call leaves in either case.
  `Run` carries beside the ledger the list of accepted transactions, which no
  method reads.

  Main results:
    * `Sound` — the invariant of a run: balances, entries and transactions
      agree.
    * `sound_call` / `Run.sound` — every call keeps it, so every run has it.
    * `call_atomic` — a call that raises changed nothing.
    * `ledger_sound` — the laws a reader of the ledger relies on.
-/
import Polis.Economy.Ledger

namespace Polis.Economy

open Lib Lib.Effect Lib.DoubleEntry Ledger

/-! ## Calls -/

/-- A call of a ledger method. -/
inductive LedgerCall where
  | openAccount (code : AccountCode) (ownerId ownerType : String) (bankId ref : Option String)
      (tick : Int)
  | closeAccount (value : String) (tick : Int)
  | postTransaction (legs : List Leg) (tick : Int) (cause : Event) (allowNegative : List String)
  | issueBaseMoney (legs : List Leg) (tick : Int) (cause : Event)
  | flush (tick : Int)
  /-- `load(dump())`. -/
  | restore

/-- A transaction the ledger accepted. -/
structure Accepted where
  tick : Int
  ordinal : Nat
  txnId : UUID
  eventSeq : Nat
  legs : List Leg

/-- The entries of an accepted transaction. -/
def Accepted.entries (t : Accepted) : List Entry :=
  t.legs.map (entryOf t.txnId t.tick t.eventSeq)

namespace LedgerCall

variable [Uuid5]

/-- Make the call; a posting call returns its transaction. -/
def run : LedgerCall → LedgerM (Option UUID)
  | .openAccount code ownerId ownerType bankId ref tick => do
    let _ ← Ledger.openAccount code ownerId ownerType bankId ref tick
    pure none
  | .closeAccount value tick => do
    Ledger.closeAccount value tick
    pure none
  | .postTransaction legs tick cause allowNegative => do
    let txnId ← Ledger.postTransaction legs tick cause allowNegative
    pure (some txnId)
  | .issueBaseMoney legs tick cause => do
    let txnId ← Ledger.issueBaseMoney legs tick cause
    pure (some txnId)
  | .flush tick => do
    let _ ← Ledger.flush tick
    pure none
  | .restore => do
    let L ← get
    Ledger.load L.dump
    pure none

/-- The transaction a call adds to the history, when it is accepted. -/
def accepted (c : LedgerCall) (L : Ledger) : List Accepted :=
  match c, c.run L with
  | .postTransaction legs tick cause _, .ok (some txnId) _
  | .issueBaseMoney legs tick cause, .ok (some txnId) _ =>
    [⟨tick, L.ordinalByTick.getD tick 0, txnId, cause.seq, legs⟩]
  | _, _ => []

end LedgerCall

/-- Ledgers reachable from the empty one, with the transactions accepted on
the way. -/
inductive Run [Uuid5] (runId : UUID) (hasRepo : Bool) : Ledger → List Accepted → Prop where
  | start : Run runId hasRepo { runId, hasRepo } []
  | call (c : LedgerCall) {L : Ledger} {h : List Accepted} :
      Run runId hasRepo L h → Run runId hasRepo (stateAfter (c.run L)) (h ++ c.accepted L)

/-- Make a list of calls, one after the other. -/
def runCalls [Uuid5] : Ledger → List Accepted → List LedgerCall → Ledger × List Accepted
  | L, h, [] => (L, h)
  | L, h, c :: cs => runCalls (stateAfter (c.run L)) (h ++ c.accepted L) cs

theorem Run.calls [Uuid5] {runId : UUID} {hasRepo : Bool} {L : Ledger} {h : List Accepted}
    (hr : Run runId hasRepo L h) (cs : List LedgerCall) :
    Run runId hasRepo (runCalls L h cs).1 (runCalls L h cs).2 := by
  induction cs generalizing L h with
  | nil => exact hr
  | cons c cs ih => exact ih (.call c hr)

/-! ## Calls that raise -/

theorem openAccount_atomic (code : AccountCode) (ownerId ownerType : String)
    (bankId ref : Option String) (tick : Int) :
    Atomic (Ledger.openAccount code ownerId ownerType bankId ref tick) := by
  refine atomic_bind (readOnly_require _ _) fun _ => ?_
  refine atomic_bind (readOnly_liftE _) fun _ => ?_
  refine atomic_bind readOnly_get fun _ => ?_
  refine atomic_bind (readOnly_require _ _) fun _ => ?_
  refine atomic_bind (readOnly_require _ _) fun _ => ?_
  exact (total_bind (total_set _) fun _ => total_pure _).atomic

theorem closeAccount_atomic (value : String) (tick : Int) :
    Atomic (Ledger.closeAccount value tick) := by
  refine atomic_bind readOnly_get fun _ => ?_
  refine atomic_bind (readOnly_liftE _) fun _ => ?_
  refine atomic_bind (readOnly_require _ _) fun _ => ?_
  refine atomic_bind (readOnly_require _ _) fun _ => ?_
  exact (total_set _).atomic

theorem nextTxnId_total [Uuid5] (tick : Int) : Total (nextTxnId tick) :=
  total_bind total_get fun _ => total_bind (total_set _) fun _ => total_pure _

theorem post_atomic [Uuid5] (legs : List Leg) (tick : Int) (cause : Event)
    (allowNegative : List String) (allowIssuance : Bool) :
    Atomic (postTransactionCore legs tick cause allowNegative allowIssuance) := by
  refine atomic_bind (readOnly_require _ _) fun _ => ?_
  refine atomic_bind readOnly_get fun _ => ?_
  refine atomic_bind (readOnly_require _ _) fun _ => ?_
  refine atomic_bind (readOnly_liftE _) fun _ => ?_
  refine atomic_bind (readOnly_require _ _) fun _ => ?_
  refine atomic_bind (readOnly_liftE _) fun _ => ?_
  refine atomic_bind (readOnly_liftE _) fun _ => ?_
  -- every check is behind: what remains only writes
  exact (total_bind (nextTxnId_total tick) fun _ =>
    total_bind (total_modify _) fun _ => total_pure _).atomic

theorem flush_total (tick : Int) : Total (Ledger.flush tick) := by
  refine total_bind total_get fun L => total_bind (total_set _) fun _ => ?_
  split
  · exact total_pure _
  · exact total_pure _

theorem restore_eq [Uuid5] (L : Ledger) : LedgerCall.restore.run L = .ok none { L with
    accounts := L.accounts.sort
    dirtyAccounts := L.dirtyAccounts.sort
    ordinalByTick := L.ordinalByTick.sort
    postedByTick := L.postedByTick.sort } := by
  refine bind_eq_ok.mpr ⟨L, L, get_eq_ok.mpr ⟨rfl, rfl⟩, ?_⟩
  exact bind_eq_ok.mpr ⟨(), _, load_dump L L, pure_eq_ok.mpr ⟨rfl, rfl⟩⟩

theorem atomic_bind_pure {ε σ α β : Type} {x : EStateM ε σ α} (hx : Atomic x) (f : α → β) :
    Atomic (x >>= fun a => pure (f a)) := by
  intro s e s' h
  have h : EStateM.bind x (fun a => pure (f a)) s = .error e s' := h
  unfold EStateM.bind at h
  cases hxs : x s with
  | ok a t => rw [hxs] at h; cases h
  | error e' t =>
    rw [hxs] at h
    cases h
    exact hx s _ _ hxs

theorem call_atomic [Uuid5] (c : LedgerCall) : Atomic c.run := by
  cases c with
  | openAccount code o ot b r t => exact atomic_bind_pure (openAccount_atomic code o ot b r t) _
  | closeAccount v t => exact atomic_bind_pure (closeAccount_atomic v t) _
  | postTransaction ls t c an => exact atomic_bind_pure (post_atomic ls t c an false) _
  | issueBaseMoney ls t c =>
    exact atomic_bind_pure
      (atomic_bind (readOnly_require _ _) fun _ => post_atomic ls t c [] true) _
  | flush t => exact (total_bind (flush_total t) fun _ => total_pure _).atomic
  | restore =>
    intro L e L' h
    rw [restore_eq] at h
    cases h

/-! ## The invariant of a run -/

/-- What an entry adds to its account. -/
def Entry.signed (e : Entry) : Int := e.direction * e.amountCents

/-- An entry, read as the leg it was posted from. -/
def Entry.leg (e : Entry) : Leg := ⟨e.accountId, e.direction, e.amountCents, e.reason⟩

/-- Balances, entries and accepted transactions agree. -/
structure Sound [Uuid5] (L : Ledger) (h : List Accepted) : Prop where
  zero_sum : weigh (fun _ => 1) L.book = 0
  twice : ∀ a r, L.accounts.get? a = some r → r.entryBalanceCents = r.balanceCents
  book_eq : L.book = posting (lines (L.entries.map Entry.leg))
  entries_eq : L.entries = h.flatMap Accepted.entries
  txn_zero : ∀ t ∈ h, (t.legs.map Leg.signed).sum = 0
  counted : ∀ t ∈ h, t.ordinal < L.ordinalByTick.getD t.tick 0
  slots : (h.map fun t => (t.tick, t.ordinal)).Nodup
  hashed : ∀ t ∈ h, t.txnId = Uuid5.uuid5 L.runId (txnName t.tick t.ordinal)
  closed_zero : ∀ a r, L.accounts.get? a = some r → r.closedTick ≠ none → r.balanceCents = 0

section Steps

variable [Uuid5] {L L' : Ledger} {h : List Accepted}

theorem Sound.congr (hs : Sound L h) (hr : L'.runId = L.runId)
    (ha : ∀ a, L'.accounts.get? a = L.accounts.get? a) (he : L'.entries = L.entries)
    (ho : ∀ t, L'.ordinalByTick.getD t 0 = L.ordinalByTick.getD t 0) : Sound L' h := by
  have hb : L'.book = L.book := book_congr fun a => by rw [ha]
  exact {
    zero_sum := hb ▸ hs.zero_sum
    twice := fun a r h => hs.twice a r (ha a ▸ h)
    book_eq := by rw [hb, he]; exact hs.book_eq
    entries_eq := he ▸ hs.entries_eq
    txn_zero := hs.txn_zero
    counted := fun t ht => ho t.tick ▸ hs.counted t ht
    slots := hs.slots
    hashed := hr ▸ hs.hashed
    closed_zero := fun a r h => hs.closed_zero a r (ha a ▸ h) }

theorem Sound.open (hs : Sound L h) {code : AccountCode} {ownerId ownerType : String}
    {bankId ref : Option String} {tick : Int} {a : AccountId}
    (ho : Ledger.openAccount code ownerId ownerType bankId ref tick L = .ok a L') :
    Sound L' h := by
  have hb := book_open ho
  obtain ⟨-, -, -, -, rfl⟩ := open_eq_ok ho
  have hrow : ∀ x r, (L.accounts.put a ⟨ownerType, "POL", tick, none, 0, 0⟩).get? x = some r →
      r = ⟨ownerType, "POL", tick, none, 0, 0⟩ ∨ L.accounts.get? x = some r := by
    intro x r hx
    rw [Dict.get?_put] at hx
    split_ifs at hx with h'
    · exact .inl (Option.some.inj hx).symm
    · exact .inr hx
  refine ⟨hb ▸ hs.zero_sum, fun x r hx => ?_, hb ▸ hs.book_eq, hs.entries_eq, hs.txn_zero,
    hs.counted, hs.slots, hs.hashed, fun x r hx hc => ?_⟩
  · rcases hrow x r hx with rfl | hx
    · rfl
    · exact hs.twice x r hx
  · rcases hrow x r hx with rfl | hx
    · rfl
    · exact hs.closed_zero x r hx hc

theorem Sound.close (hs : Sound L h) {value : String} {tick : Int} {u : Unit}
    (hc : Ledger.closeAccount value tick L = .ok u L') : Sound L' h := by
  have hb := book_close hc
  obtain ⟨a, r₀, -, hg, -, hzero, -, rfl⟩ := close_eq_ok hc
  have hrow : ∀ x r, (L.accounts.put a { r₀ with closedTick := some tick }).get? x = some r →
      (x = a ∧ r = { r₀ with closedTick := some tick }) ∨ L.accounts.get? x = some r := by
    intro x r hx
    rw [Dict.get?_put] at hx
    split_ifs at hx with h'
    · exact .inl ⟨h', (Option.some.inj hx).symm⟩
    · exact .inr hx
  refine ⟨hb ▸ hs.zero_sum, fun x r hx => ?_, hb ▸ hs.book_eq, hs.entries_eq, hs.txn_zero,
    hs.counted, hs.slots, hs.hashed, fun x r hx hc => ?_⟩
  · rcases hrow x r hx with ⟨rfl, rfl⟩ | hx
    · exact hs.twice x r₀ hg
    · exact hs.twice x r hx
  · rcases hrow x r hx with ⟨rfl, rfl⟩ | hx
    · exact hzero
    · exact hs.closed_zero x r hx hc

theorem Sound.post (hs : Sound L h) {legs : List Leg} {tick : Int} {cause : Event}
    {an : List String} {ai : Bool} {txn : UUID} (hp : Posted L L' legs tick cause an ai txn) :
    Sound L' (h ++ [⟨tick, L.ordinalByTick.getD tick 0, txn, cause.seq, legs⟩]) := by
  have hentries : (legs.map (entryOf txn tick cause.seq)).map Entry.leg = legs := by
    rw [List.map_map]
    exact List.map_id _
  refine ⟨?_, fun a r hr => ?_, ?_, ?_, ?_, ?_, ?_, ?_, fun a r hr hc => ?_⟩
  · rw [hp.book_eq, weigh_add_posting, hs.zero_sum, hp.balanced, add_zero]
  · rw [hp.rows] at hr
    obtain ⟨r₀, hr₀, rfl⟩ := Option.map_eq_some_iff.mp hr
    simp only [Account.credit, hs.twice a r₀ hr₀]
  · rw [hp.book_eq, hs.book_eq, hp.entries_eq, List.map_append, lines_append, posting_append,
      hentries]
  · rw [hp.entries_eq, hs.entries_eq, List.flatMap_append]
    simp [Accepted.entries]
  · intro t ht
    rcases List.mem_append.mp ht with ht | ht
    · exact hs.txn_zero t ht
    · rw [List.mem_singleton.mp ht]
      exact hp.sum_eq
  · intro t ht
    rw [hp.ordinal_eq]
    rcases List.mem_append.mp ht with ht | ht
    · have := hs.counted t ht
      split_ifs with heq
      · rw [heq] at this; omega
      · exact this
    · rw [List.mem_singleton.mp ht]
      simp
  · rw [List.map_append, List.nodup_append]
    refine ⟨hs.slots, List.nodup_singleton _, ?_⟩
    rintro _ hx _ hy rfl
    obtain ⟨t, ht, hte⟩ := List.mem_map.mp hx
    simp only [List.map_cons, List.map_nil, List.mem_singleton] at hy
    obtain ⟨htick, hord⟩ := Prod.mk.inj (hte.trans hy)
    have := hs.counted t ht
    rw [htick, hord] at this
    exact lt_irrefl _ this
  · intro t ht
    rw [hp.runId_eq]
    rcases List.mem_append.mp ht with ht | ht
    · exact hs.hashed t ht
    · rw [List.mem_singleton.mp ht]
      exact hp.txn_eq
  · rw [hp.rows] at hr
    obtain ⟨r₀, hr₀, rfl⟩ := Option.map_eq_some_iff.mp hr
    -- a closed row is named by no leg
    have hnot : a ∉ (lines legs).map Prod.fst := by
      intro ha
      obtain ⟨r₁, hr₁, hopen, -⟩ := legs_accounts hp.legs_ok ha
      rw [hr₀] at hr₁
      cases hr₁
      exact hc hopen
    simp only [Account.credit, posting_apply_of_notMem hnot, add_zero]
    exact hs.closed_zero a r₀ hr₀ hc

theorem Sound.flush (hs : Sound L h) {tick : Int} {rows : Option FlushRows}
    (hf : Ledger.flush tick L = .ok rows L') : Sound L' h := by
  obtain ⟨_, _, h₁, hf⟩ := bind_eq_ok.mp hf
  obtain ⟨rfl, rfl⟩ := get_eq_ok.mp h₁
  obtain ⟨_, L₁, h₁, hf⟩ := bind_eq_ok.mp hf
  have h₁ := set_eq_ok.mp h₁
  have hL' : L' = L₁ := by
    rcases ite_eq_ok.mp hf with ⟨-, hf⟩ | ⟨-, hf⟩ <;> exact (pure_eq_ok.mp hf).2.symm
  subst hL'
  subst h₁
  exact hs.congr rfl (fun _ => rfl) rfl fun _ => rfl

theorem sound_call (hs : Sound L h) (c : LedgerCall) :
    Sound (stateAfter (c.run L)) (h ++ c.accepted L) := by
  cases hrun : c.run L with
  | error e L' =>
    have hL' := call_atomic c L e L' hrun
    have hacc : c.accepted L = [] := by
      unfold LedgerCall.accepted
      rw [hrun]
      cases c <;> rfl
    rw [hacc, List.append_nil, stateAfter_error, hL']
    exact hs
  | ok r L' =>
    rw [stateAfter_ok]
    cases c with
    | openAccount code o ot b rf t =>
      obtain ⟨a, _, h₁, h₂⟩ := bind_eq_ok.mp hrun
      obtain ⟨-, rfl⟩ := pure_eq_ok.mp h₂
      simpa [LedgerCall.accepted] using hs.open h₁
    | closeAccount v t =>
      obtain ⟨a, _, h₁, h₂⟩ := bind_eq_ok.mp hrun
      obtain ⟨-, rfl⟩ := pure_eq_ok.mp h₂
      simpa [LedgerCall.accepted] using hs.close h₁
    | postTransaction ls t c an =>
      have hacc := hrun
      obtain ⟨txn, _, h₁, h₂⟩ := bind_eq_ok.mp hrun
      obtain ⟨rfl, rfl⟩ := pure_eq_ok.mp h₂
      simpa [LedgerCall.accepted, hacc] using hs.post (post_eq_ok h₁)
    | issueBaseMoney ls t c =>
      have hacc := hrun
      obtain ⟨txn, _, h₁, h₂⟩ := bind_eq_ok.mp hrun
      obtain ⟨rfl, rfl⟩ := pure_eq_ok.mp h₂
      obtain ⟨_, _, h₃, h₁⟩ := bind_eq_ok.mp h₁
      obtain ⟨-, rfl⟩ := require_eq_ok.mp h₃
      simpa [LedgerCall.accepted, hacc] using hs.post (post_eq_ok h₁)
    | flush t =>
      obtain ⟨a, _, h₁, h₂⟩ := bind_eq_ok.mp hrun
      obtain ⟨-, rfl⟩ := pure_eq_ok.mp h₂
      simpa [LedgerCall.accepted] using hs.flush h₁
    | restore =>
      rw [restore_eq] at hrun
      cases hrun
      have hs' : Sound L (h ++ LedgerCall.restore.accepted L) := by
        simpa [LedgerCall.accepted] using hs
      refine hs'.congr rfl (fun a => Dict.sort_get? L.accounts a) rfl fun t => ?_
      simp only [Dict.getD, Dict.sort_get?]

end Steps

theorem Run.sound [Uuid5] {runId : UUID} {hasRepo : Bool} {L : Ledger} {h : List Accepted}
    (hr : Run runId hasRepo L h) : Sound L h := by
  induction hr with
  | start => exact ⟨by simp [book, bookOf], by simp, by simp [book, bookOf], rfl, by simp, by simp,
      by simp, by simp, by simp⟩
  | call c _ ih => exact sound_call ih c

/-! ## The laws of a run -/

theorem colon_notMem_natRepr (n : Nat) : ':' ∉ (toString n).toList := by
  intro h
  have h : ':' ∈ Nat.toDigits 10 n := by simpa [toString, Nat.repr] using h
  exact absurd (Nat.isDigit_of_mem_toDigits (by decide) (by decide) h) (by decide)

theorem colon_notMem_intRepr (n : Int) : ':' ∉ (toString n).toList := by
  cases n with
  | ofNat n => exact colon_notMem_natRepr n
  | negSucc n =>
    intro h
    have h : ':' ∈ ("-" ++ toString (n + 1)).toList := h
    rw [String.toList_append, List.mem_append] at h
    rcases h with h | h
    · revert h; decide
    · exact colon_notMem_natRepr _ h

theorem txnName_inj {t t' : Int} {o o' : Nat} (h : txnName t o = txnName t' o') :
    t = t' ∧ o = o' := by
  have hp : ∀ (t : Int) (o : Nat), partition ':' (txnName t o).toList
      = ((toString t).toList, some (toString o).toList) := by
    intro t o
    have : (txnName t o).toList = (toString t).toList ++ ':' :: (toString o).toList := by
      simp [txnName]
    rw [this, partition_append (colon_notMem_intRepr t)]
  have h' := hp t o
  rw [h, hp t' o'] at h'
  simp only [Prod.mk.injEq, Option.some.injEq, String.toList_inj] at h'
  exact ⟨(Int.repr_inj.mp h'.1).symm, (Nat.repr_inj.mp h'.2).symm⟩

theorem posting_entries_apply (es : List Entry) (a : AccountId) :
    posting (lines (es.map Entry.leg)) a
      = ((es.filter fun e => e.accountId = a.text).map Entry.signed).sum := by
  rw [posting_apply]
  induction es with
  | nil => rfl
  | cons e es ih =>
    rw [List.map_cons]
    cases hp : parseAccountId e.accountId with
    | ok b =>
      have hb := parseAccountId_eq_ok.mp hp
      have hl : lines (e.leg :: es.map Entry.leg) = (b, e.signed) :: lines (es.map Entry.leg) :=
        lines_cons_of_parse hp _
      rw [hl, net_cons, ih]
      by_cases hba : b = a
      · subst hba
        rw [List.filter_cons_of_pos (by simp [hb])]
        simp
      · have hne : e.accountId ≠ a.text := fun h =>
          hba (AccountId.text_injective (hb.trans h))
        rw [List.filter_cons_of_neg (by simpa using hne)]
        simp [hba]
    | error err =>
      have hl : lines (e.leg :: es.map Entry.leg) = lines (es.map Entry.leg) := by
        unfold lines
        rw [List.filterMap_cons_none]
        dsimp only [Entry.leg]
        rw [hp]
      have hne : e.accountId ≠ a.text := by
        rintro h
        rw [h, parseAccountId_text] at hp
        cases hp
      rw [hl, ih, List.filter_cons_of_neg (by simpa using hne)]

theorem Sound.txn_sum [Uuid5] {L : Ledger} {h : List Accepted} (hs : Sound L h) (u : UUID) :
    ((L.entries.filter fun e => e.txnId = u).map Entry.signed).sum = 0 := by
  rw [hs.entries_eq]
  have hz := hs.txn_zero
  clear hs
  induction h with
  | nil => rfl
  | cons t h ih =>
    rw [List.flatMap_cons, List.filter_append, List.map_append, List.sum_append,
      ih fun x hx => hz x (List.mem_cons_of_mem _ hx), add_zero]
    by_cases hu : t.txnId = u
    · have hall : t.entries.filter (fun e => e.txnId = u) = t.entries := by
        rw [List.filter_eq_self]
        intro e he
        obtain ⟨l, -, rfl⟩ := List.mem_map.mp he
        exact decide_eq_true hu
      rw [hall, Accepted.entries, List.map_map]
      exact hz t List.mem_cons_self
    · have hnone : t.entries.filter (fun e => e.txnId = u) = [] := by
        rw [List.filter_eq_nil_iff]
        intro e he
        obtain ⟨l, -, rfl⟩ := List.mem_map.mp he
        exact fun h => hu (of_decide_eq_true h)
      rw [hnone]
      rfl

theorem Sound.txnIds_nodup [Uuid5] {L : Ledger} {h : List Accepted} (hs : Sound L h)
    (hinj : ∀ run, Function.Injective (Uuid5.uuid5 run)) : (h.map Accepted.txnId).Nodup := by
  have hid : h.map Accepted.txnId
      = (h.map fun t => (t.tick, t.ordinal)).map
          fun p => Uuid5.uuid5 L.runId (txnName p.1 p.2) := by
    rw [List.map_map]
    exact List.map_congr_left hs.hashed
  rw [hid]
  refine hs.slots.map fun p q hpq => ?_
  obtain ⟨h₁, h₂⟩ := txnName_inj (hinj _ hpq)
  exact Prod.ext h₁ h₂

/-- **The ledger is sound over whole runs**: balances sum to zero and agree
with the entries, every transaction sums to zero under an identifier of its
own, closed accounts are empty, and a call that raises changes nothing. -/
theorem ledger_sound [Uuid5] (hinj : ∀ run, Function.Injective (Uuid5.uuid5 run))
    {runId : UUID} {hasRepo : Bool} {L : Ledger} {h : List Accepted}
    (hr : Run runId hasRepo L h) :
    L.globalBalanceCents = 0 ∧
    (∀ a r, L.accounts.get? a = some r → r.balanceCents = r.entryBalanceCents ∧
      r.balanceCents
        = ((L.entries.filter fun e => e.accountId = a.text).map Entry.signed).sum) ∧
    ((∀ u, ((L.entries.filter fun e => e.txnId = u).map Entry.signed).sum = 0) ∧
      L.entries = h.flatMap Accepted.entries ∧
      (h.map fun t => (t.tick, t.ordinal)).Nodup ∧ (h.map Accepted.txnId).Nodup) ∧
    (∀ a r, L.accounts.get? a = some r → r.closedTick ≠ none → r.balanceCents = 0) ∧
    (∀ (c : LedgerCall) e L', c.run L = .error e L' →
      L'.accounts = L.accounts ∧ L'.entries = L.entries) := by
  have hs := hr.sound
  refine ⟨?_, fun a r ha => ⟨(hs.twice a r ha).symm, ?_⟩,
    ⟨hs.txn_sum, hs.entries_eq, hs.slots, hs.txnIds_nodup hinj⟩, hs.closed_zero,
    fun c e L' he => ?_⟩
  · have hz := hs.zero_sum
    rw [weigh_book] at hz
    simpa [globalBalanceCents] using hz
  · rw [← posting_entries_apply, ← hs.book_eq, book_of_get? ha]
  · rw [call_atomic c L e L' he]
    exact ⟨rfl, rfl⟩

/-! ### A run -/

/-- The hash of one run's first transaction; other names stay unhashed. -/
def tableUuid5 (run : UUID) (name : String) : UUID :=
  if run = "00000000-0000-4000-8000-000000000001" ∧ name = "0:0" then
    "35218c69-b239-585c-a7cd-1672bb07b51c"
  else "!" ++ name

theorem tableUuid5_injective (run : UUID) : Function.Injective (tableUuid5 run) := by
  intro x y h
  have hmark : ∀ n : String, "35218c69-b239-585c-a7cd-1672bb07b51c" ≠ "!" ++ n := by
    intro n hn
    have := congrArg (fun s => s.toList.head?) hn
    revert this
    simp
  unfold tableUuid5 at h
  split_ifs at h with h₁ h₂ h₂
  · rw [h₁.2, h₂.2]
  · exact absurd h (hmark y)
  · exact absurd h.symm (hmark x)
  · exact String.append_right_inj "!" |>.mp h

/-- Issue a hundred cents to an agent, refuse an unbalanced post, flush and
restore. -/
def issuanceCalls : List LedgerCall :=
  let cause : Event :=
    ⟨0, "00000000-0000-4000-8000-000000000001", 0, ⟨.moneyIssued, [], none, []⟩⟩
  [.openAccount .iss "bk_cb" "central_bank" none none 0,
   .openAccount .cash "ag_a" "agent" none none 0,
   .issueBaseMoney [⟨"iss:bk_cb", -1, 100, "issuance"⟩, ⟨"cash:ag_a", 1, 100, "issuance"⟩] 0 cause,
   .postTransaction [⟨"cash:ag_a", -1, 60, "transfer"⟩, ⟨"cash:ag_b", 1, 60, "transfer"⟩] 0
     cause [],
   .flush 0,
   .restore]

theorem ledger_sound_issuance :
    letI : Uuid5 := ⟨tableUuid5⟩
    let r := runCalls { runId := "00000000-0000-4000-8000-000000000001", hasRepo := false } []
      issuanceCalls
    r.1.globalBalanceCents = 0 ∧ r.2.length = 1 ∧ r.1.entries.length = 2 := by
  let _ : Uuid5 := ⟨tableUuid5⟩
  have hr := (@Run.start ⟨tableUuid5⟩ "00000000-0000-4000-8000-000000000001" false).calls issuanceCalls
  exact ⟨(ledger_sound tableUuid5_injective hr).1, by decide +kernel, by decide +kernel⟩

end Polis.Economy
