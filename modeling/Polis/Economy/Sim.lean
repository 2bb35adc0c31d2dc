/-
  Polis.Economy.Sim — what the engines run on.

  An engine method reads and writes the economy, stages events through
  `emit`, and may raise; what it wrote before raising stays.  Beside the
  source's state a `Sim` keeps a trail: a few methods note the rows they are
  about to overwrite, no method reads the notes.

  Main results:
    * `Sim.post_eq_ok` — a posting changes the ledger and nothing else.
    * `Sim.emit_eq_ok` — an emission changes the log and nothing else.
-/
import Polis.Config
import Polis.Economy.State
import Polis.Economy.Exchange.Book

namespace Polis.Economy

open Lib Lib.Effect

/-! ## State -/

/-- The event log of a run. -/
structure Log where
  runId : UUID
  events : List Event := []

/-- A note of the trail. -/
inductive Mark where
  /-- A fill is about to be settled. -/
  | settle (exchange : ExchangeState) (fill : Fill)
  /-- An order is about to be stored. -/
  | admitOrder (exchange : ExchangeState) (orderId : String)
  /-- An offering is about to be stored. -/
  | announce (exchange : ExchangeState) (ipoId : String)

/-- The economy, the log and the trail. -/
structure Sim where
  economy : EconomyState
  log : Log
  trail : List Mark := []

/-- An engine method. -/
abbrev EngineM := EStateM PyError Sim

/-- What an engine is built from: settings, the ids of the population and the
random words of a named stream.  Of an agent the engines read two more things,
both computed in floating point: the rank of its signature among the buyers,
and a need before and after it is restored. -/
structure Ctx where
  settings : Settings := {}
  agents : List String := []
  word : (stream entity : String) → (tick : Int) → (counter : Nat) → Nat := fun _ _ _ _ => 0
  signatureRank : (agentId : String) → Nat := fun _ => 0
  restored : (agentId need : String) → (restoreBp : Int) → (past : List Event) → Int × Int :=
    fun _ _ _ _ => (0, 0)

/-- `DeterministicRng.shuffle(values)`: Fisher-Yates from the last position
down, one word a swap. -/
def shuffle {α : Type} (word : Nat → Nat) (values : List α) : List α :=
  (List.range (values.length - 1)).foldl
    (fun xs counter =>
      let index := values.length - 1 - counter
      let target := word counter % (index + 1)
      match xs[index]?, xs[target]? with
      | some a, some b => (xs.set index b).set target a
      | _, _ => xs)
    values

theorem swap_perm {α : Type} (xs : List α) (i j : Nat) :
    (match xs[i]?, xs[j]? with
      | some a, some b => (xs.set i b).set j a
      | _, _ => xs).Perm xs := by
  by_cases hi : i < xs.length
  · by_cases hj : j < xs.length
    · rw [List.getElem?_eq_getElem hi, List.getElem?_eq_getElem hj]
      exact List.set_set_perm hi hj
    · rw [List.getElem?_eq_none (not_lt.mp hj)]
      cases xs[i]? <;> exact List.Perm.refl xs
  · rw [List.getElem?_eq_none (not_lt.mp hi)]

theorem shuffle_perm {α : Type} (word : Nat → Nat) (values : List α) :
    (shuffle word values).Perm values := by
  unfold shuffle
  suffices hfold : ∀ (counters : List Nat) (xs : List α), xs.Perm values →
      (counters.foldl (fun xs counter =>
        let index := values.length - 1 - counter
        let target := word counter % (index + 1)
        match xs[index]?, xs[target]? with
        | some a, some b => (xs.set index b).set target a
        | _, _ => xs) xs).Perm values from hfold _ values (List.Perm.refl values)
  intro counters
  induction counters with
  | nil => exact fun xs hxs => hxs
  | cons counter counters ih =>
    intro xs hxs
    exact ih _ ((swap_perm xs _ _).trans hxs)

namespace Sim

/-! ## Reading and writing -/

/-- The economy. -/
def economyNow : EngineM EconomyState := do
  let s ← get
  pure s.economy

/-- The exchange. -/
def exchangeNow : EngineM ExchangeState := do
  let s ← get
  pure s.economy.exchange

/-- The ledger. -/
def ledgerNow : EngineM Ledger := do
  let s ← get
  pure s.economy.ledger

/-- Write the economy. -/
def modifyEconomy (f : EconomyState → EconomyState) : EngineM Unit :=
  modify fun s => { s with economy := f s.economy }

/-- Write the exchange. -/
def modifyExchange (f : ExchangeState → ExchangeState) : EngineM Unit :=
  modifyEconomy fun e => { e with exchange := f e.exchange }

/-- Run a ledger method. -/
def onLedger {α : Type} (x : LedgerM α) : EngineM α :=
  zoom (fun s => s.economy.ledger)
    (fun s L => { s with economy := { s.economy with ledger := L } }) x

/-- `emit(draft)`: stage an event of the current tick. -/
def emit (tick : Int) (kind : EventKind) (payload : List (String × Value))
    (actorId : Option String := none) (subjectIds : List String := []) : EngineM Event := do
  let s ← get
  let event : Event :=
    ⟨s.log.events.length, s.log.runId, tick, ⟨kind, payload, actorId, subjectIds⟩⟩
  set { s with log := { s.log with events := s.log.events ++ [event] } }
  pure event

/-- Leave a note on the trail. -/
def note (mark : Mark) : EngineM Unit := modify fun s => { s with trail := s.trail ++ [mark] }

section Ledger

variable [Uuid5]

/-- `ledger.post_transaction(legs, tick=, cause=)`. -/
def post (legs : List Leg) (tick : Int) (cause : Event) (allowNegative : List String := []) :
    EngineM UUID :=
  onLedger (Ledger.postTransaction legs tick cause allowNegative)

/-- `ledger.next_txn_id(tick)`. -/
def nextTxnId (tick : Int) : EngineM UUID := onLedger (Ledger.nextTxnId tick)

end Ledger

/-! ## Inversion -/

/-- The exchange. -/
abbrev exch (s : Sim) : ExchangeState := s.economy.exchange

/-- The ledger. -/
abbrev books (s : Sim) : Ledger := s.economy.ledger

/-- The state with another exchange. -/
def putExch (s : Sim) (x : ExchangeState) : Sim :=
  { s with economy := { s.economy with exchange := x } }

/-- The state with another ledger. -/
def putBooks (s : Sim) (L : Ledger) : Sim :=
  { s with economy := { s.economy with ledger := L } }

/-- The state with another log. -/
def putLog (s : Sim) (log : Log) : Sim := { s with log := log }

/-- The state with one more note. -/
def mark (s : Sim) (m : Mark) : Sim := { s with trail := s.trail ++ [m] }

@[simp] theorem exch_putExch (s : Sim) (x : ExchangeState) : (s.putExch x).exch = x := rfl
@[simp] theorem books_putBooks (s : Sim) (L : Ledger) : (s.putBooks L).books = L := rfl
@[simp] theorem economy_putLog (s : Sim) (l : Log) : (s.putLog l).economy = s.economy := rfl

variable {s s' : Sim}

theorem economyNow_eq_ok {e : EconomyState} :
    economyNow s = .ok e s' ↔ e = s.economy ∧ s = s' := by
  show EStateM.Result.ok s.economy s = .ok e s' ↔ _
  simp only [EStateM.Result.ok.injEq]
  tauto

theorem exchangeNow_eq_ok {x : ExchangeState} :
    exchangeNow s = .ok x s' ↔ x = s.exch ∧ s = s' := by
  show EStateM.Result.ok s.economy.exchange s = .ok x s' ↔ _
  simp only [EStateM.Result.ok.injEq]
  tauto

theorem ledgerNow_eq_ok {L : Ledger} : ledgerNow s = .ok L s' ↔ L = s.books ∧ s = s' := by
  show EStateM.Result.ok s.economy.ledger s = .ok L s' ↔ _
  simp only [EStateM.Result.ok.injEq]
  tauto

theorem modifyEconomy_eq_ok {f : EconomyState → EconomyState} {u : Unit} :
    modifyEconomy f s = .ok u s' ↔ s' = { s with economy := f s.economy } := by
  unfold modifyEconomy
  rw [modify_eq_ok, eq_comm]

theorem modifyExchange_eq_ok {f : ExchangeState → ExchangeState} {u : Unit} :
    modifyExchange f s = .ok u s' ↔ s' = s.putExch (f s.exch) := modifyEconomy_eq_ok

theorem onLedger_eq_ok {α : Type} {x : LedgerM α} {a : α} :
    onLedger x s = .ok a s' ↔ ∃ L', x s.books = .ok a L' ∧ s' = s.putBooks L' := by
  unfold onLedger
  rw [zoom_eq_ok]
  constructor
  · rintro ⟨L', h, rfl⟩
    exact ⟨L', h, rfl⟩
  · rintro ⟨L', h, rfl⟩
    exact ⟨L', h, rfl⟩

theorem emit_eq_ok {tick : Int} {kind : EventKind} {payload : List (String × Value)}
    {actorId : Option String} {subjectIds : List String} {event : Event}
    (h : emit tick kind payload actorId subjectIds s = .ok event s') :
    ∃ log, s' = s.putLog log := by
  obtain ⟨_, _, h₁, h⟩ := bind_eq_ok.mp h
  obtain ⟨rfl, rfl⟩ := get_eq_ok.mp h₁
  obtain ⟨_, _, h₁, h⟩ := bind_eq_ok.mp h
  have h₁ := set_eq_ok.mp h₁
  obtain ⟨-, rfl⟩ := pure_eq_ok.mp h
  exact ⟨_, h₁.symm⟩

theorem note_eq_ok {m : Mark} {u : Unit} : note m s = .ok u s' ↔ s' = s.mark m := by
  unfold note
  rw [modify_eq_ok, eq_comm]
  rfl

theorem post_eq_ok [Uuid5] {legs : List Leg} {tick : Int} {cause : Event} {an : List String}
    {txn : UUID} (h : post legs tick cause an s = .ok txn s') :
    ∃ L', Ledger.Posted s.books L' legs tick cause an false txn ∧ s' = s.putBooks L' := by
  obtain ⟨L', hL, hs⟩ := onLedger_eq_ok.mp h
  exact ⟨L', Ledger.post_eq_ok hL, hs⟩

end Sim

/-! ## Accounts of an owner -/

/-- `_deposit_account(owner_id)`: the first deposit account of an owner. -/
def depositAccount (L : Ledger) (ownerId : String) : Except PyError AccountId :=
  match (L.accountsOf ownerId).find? fun a => a.code = .dep with
  | some a => .ok a
  | none => .error (.ledger ("owner has no deposit account: " ++ ownerId))

/-- `_escrow_id(owner_id, ref)`: the first open escrow account under the
reference, else the one at the bank of the first deposit. -/
def escrowId (L : Ledger) (ownerId ref : String) : Except PyError AccountId :=
  match (L.accountsOf ownerId).find? fun a => a.code = .esc ∧ a.ref = some ref ∧ L.isOpen a with
  | some a => .ok a
  | none =>
    match depositAccount L ownerId with
    | .error e => .error e
    | .ok deposit =>
      match bankOf deposit with
      | none => .error (.ledger "deposit account has no bank")
      | some bank => accountId .esc ownerId (some bank) (some ref)

/-- Legs built under a condition only. -/
def legsIf (c : Prop) [Decidable c] (legs : Except PyError (List Leg)) :
    Except PyError (List Leg) :=
  if c then legs else .ok []

/-- Legs on one account, direction and reason become one; a total is kept when
`keep` holds of it. -/
def mergeLegs (keep : Int → Bool) (legs : List Leg) : List Leg :=
  let totals : Dict (String ×ₗ Int ×ₗ String) Int :=
    legs.foldl (fun d leg =>
      let key := toLex (leg.accountId, toLex (leg.direction, leg.reason))
      d.put key (d.getD key 0 + leg.amountCents)) ∅
  (totals.sortedEntries.filter fun e => keep e.2).map fun e =>
    let key := ofLex e.1
    ⟨key.1, (ofLex key.2).1, e.2, (ofLex key.2).2⟩

/-- `_coalesce(legs)` of the exchange and the ventures: positive totals stay. -/
def coalesce (legs : List Leg) : List Leg := mergeLegs (fun n => 0 < n) legs

/-- `_combine_legs(legs)` of the goods market and the payroll: totals other
than zero stay. -/
def combineLegs (legs : List Leg) : List Leg := mergeLegs (fun n => n ≠ 0) legs

end Polis.Economy
