/-
  Polis.Economy.Ledger — the double-entry ledger (`economy/ledger.py`).

  Accounts are keyed by their identifier, which bundles the code, owner, bank
  and reference of the source's row; a leg names its account by text, as the
  source's legs do, and a text that is no identifier is an unknown account.
  A method is a computation over the ledger that may raise and keeps what it
  wrote before raising.

  Main results:
    * `post_eq_ok` — everything an accepted transaction did.
    * `book_post` — the book moves by the posting of the legs.
    * `open_eq_ok` / `close_eq_ok` — opening and closing move no money.
    * `restore_eq` — a checkpoint reloads every row, in key order.
-/
import Polis.Lib.DoubleEntry
import Polis.Lib.Effect
import Polis.Economy.Account
import Std.Data.String.ToInt

namespace Polis.Economy

open Lib Lib.Effect Lib.DoubleEntry

/-! ## Rows -/

/-- `REASONS`. -/
def reasons : List String :=
  ["transfer", "wage", "purchase", "rent", "trade", "loan", "interest", "dividend", "tax",
    "inheritance", "fine", "write_off", "escrow", "issuance", "withdrawal"]

/-- `Leg`. -/
structure Leg where
  accountId : String
  direction : Int
  amountCents : Int
  reason : String
  deriving Repr, DecidableEq

/-- `Account`; its identifier is the key it is stored under. -/
structure Account where
  ownerType : String
  currency : String
  openedTick : Int
  closedTick : Option Int := none
  balanceCents : Int := 0
  entryBalanceCents : Int := 0
  deriving Repr, DecidableEq

/-- `Entry`. -/
structure Entry where
  txnId : UUID
  tick : Int
  eventSeq : Nat
  accountId : String
  direction : Int
  amountCents : Int
  reason : String
  deriving Repr, DecidableEq

/-- `Ledger`. -/
structure Ledger where
  runId : UUID
  hasRepo : Bool := false
  accounts : Dict AccountId Account := ∅
  entries : List Entry := []
  pendingEntries : List Entry := []
  dirtyAccounts : Dict AccountId Unit := ∅
  ordinalByTick : Dict Int Nat := ∅
  postedByTick : Dict Int (List UUID) := ∅
  deriving DecidableEq

/-- A ledger method. -/
abbrev LedgerM := EStateM PyError Ledger

namespace Ledger

variable (L : Ledger)

/-! ## Reading -/

/-- The row a text names. -/
def find? (value : String) : Option (AccountId × Account) :=
  match parseAccountId value with
  | .ok a => (L.accounts.get? a).map fun r => (a, r)
  | .error _ => none

/-- `_account(value)`. -/
def account (value : String) : Except PyError (AccountId × Account) :=
  match L.find? value with
  | some row => .ok row
  | none => .error (.ledger ("unknown account: " ++ value))

/-- `_open_account(value)`. -/
def openRow (value : String) : Except PyError (AccountId × Account) :=
  match L.account value with
  | .error e => .error e
  | .ok row =>
    if row.2.closedTick.isSome then .error (.ledger ("account is closed: " ++ value))
    else .ok row

/-- `is_open(value)`. -/
def isOpen (a : AccountId) : Bool :=
  match L.accounts.get? a with
  | some r => r.closedTick.isNone
  | none => false

/-- `balance(value)`. -/
def balance (a : AccountId) : Except PyError Int :=
  match L.accounts.get? a with
  | some r => .ok r.balanceCents
  | none => .error (.ledger ("unknown account: " ++ a.text))

/-- The rows of one owner. -/
def rowsOf (ownerId : String) : List (AccountId × Account) :=
  L.accounts.entries.filter fun e => e.1.ownerId = ownerId

/-- `net_worth(owner_id)`. -/
def netWorth (ownerId : String) : Int := ((L.rowsOf ownerId).map fun e => e.2.balanceCents).sum

/-- `liquid(owner_id)`. -/
def liquid (ownerId : String) : Int :=
  (((L.rowsOf ownerId).filter fun e => e.1.code = .cash ∨ e.1.code = .dep).map
    fun e => e.2.balanceCents).sum

/-- `accounts_of(owner_id)`: sorted identifiers. -/
def accountsOf (ownerId : String) : List AccountId :=
  ((L.rowsOf ownerId).map Prod.fst).insertionSort (· ≤ ·)

/-- The name a transaction identifier is hashed from. -/
def txnName (tick : Int) (ordinal : Nat) : String := toString tick ++ ":" ++ toString ordinal

/-- `next_txn_id(tick)`; reading the counter creates it at zero. -/
def nextTxnId [Uuid5] (tick : Int) : LedgerM UUID := do
  let L ← get
  let ordinal := L.ordinalByTick.getD tick 0
  set { L with ordinalByTick := L.ordinalByTick.put tick ordinal }
  pure (Uuid5.uuid5 L.runId (txnName tick ordinal))

/-! ## Accounts -/

/-- `open_account(code, owner_id, owner_type, bank_id=, ref=, tick=)`. -/
def openAccount (code : AccountCode) (ownerId ownerType : String)
    (bankId ref : Option String) (tick : Int) : LedgerM AccountId := do
  require (0 ≤ tick) (.ledger "account opened_tick must be non-negative")
  let value ← liftE (accountId code ownerId bankId ref)
  let L ← get
  require (L.accounts.get? value = none) (.ledger ("account already exists: " ++ value.text))
  require (¬(code = .iss ∧ (ownerId ≠ "bk_cb" ∨ ownerType ≠ "central_bank")))
    (.ledger "issuance account is reserved for the central bank")
  set { L with
    accounts := L.accounts.put value ⟨ownerType, "POL", tick, none, 0, 0⟩
    dirtyAccounts := L.dirtyAccounts.put value () }
  pure value

/-- `close_account(value, tick=)`. -/
def closeAccount (value : String) (tick : Int) : LedgerM Unit := do
  let L ← get
  let (key, account) ← liftE (L.openRow value)
  require (account.balanceCents = 0) (.ledger ("cannot close non-zero account: " ++ value))
  require (account.openedTick ≤ tick) (.ledger "closed_tick precedes opened_tick")
  set { L with
    accounts := L.accounts.put key { account with closedTick := some tick }
    dirtyAccounts := L.dirtyAccounts.put key () }

/-! ## Posting -/

/-- What one leg adds to its account. -/
def Leg.signed (leg : Leg) : Int := leg.direction * leg.amountCents

end Ledger

/-- The leg on an account known by its identifier. -/
def leg (a : AccountId) (direction amountCents : Int) (reason : String) : Leg :=
  ⟨a.text, direction, amountCents, reason⟩

namespace Ledger

/-- The loop over the legs: every check on a leg, and the change of each
account. -/
def checkLegs (L : Ledger) (allowIssuance : Bool) :
    List Leg → List (String × Int × String) → Dict AccountId Int →
    Except PyError (Dict AccountId Int)
  | [], _, deltas => .ok deltas
  | leg :: legs, seen, deltas =>
    if leg.direction ≠ -1 ∧ leg.direction ≠ 1 then
      .error (.ledger "P2: direction must be +1 or -1")
    else if leg.amountCents ≤ 0 then .error (.ledger "P2: amount_cents must be positive")
    else if leg.reason ∉ reasons then .error (.ledger ("unknown ledger reason: " ++ leg.reason))
    else if (leg.accountId, leg.direction, leg.reason) ∈ seen then
      .error (.ledger "P5: duplicate canonical leg")
    else
      match L.openRow leg.accountId with
      | .error e => .error e
      | .ok (key, account) =>
        if account.currency ≠ "POL" then .error (.ledger "P4: account currency must be POL")
        else if key.code = .iss ∧ ¬allowIssuance then
          .error (.ledger "issuance can only be posted through issue_base_money")
        else
          checkLegs L allowIssuance legs ((leg.accountId, leg.direction, leg.reason) :: seen)
            (deltas.put key (deltas.getD key 0 + leg.direction * leg.amountCents))

/-- `_validate_allow_negative(values)`. -/
def validateAllowNegative : List String → Except PyError Unit
  | [] => .ok ()
  | value :: values =>
    match parseAccountId value with
    | .error e => .error e
    | .ok a =>
      if a.code = .res ∨ (a.code = .dep ∧ a.ownerId = "gv_treasury" ∧ a.bankId = some "bk_cb")
      then validateAllowNegative values
      else .error (.ledger ("unapproved allow_negative account: " ++ value))

/-- The sign each polarity keeps, unless the account may go negative. -/
def checkSigns (L : Ledger) (allowNegative : List String) :
    List (AccountId × Int) → Except PyError Unit
  | [] => .ok ()
  | (key, delta) :: rest =>
    let newBalance := ((L.accounts.get? key).elim 0 Account.balanceCents) + delta
    if key.text ∉ allowNegative ∧ key.code.polarity = .asset ∧ newBalance < 0 then
      .error (.ledger ("P6: asset account would be negative: " ++ key.text))
    else if key.text ∉ allowNegative ∧ key.code.polarity = .liability ∧ 0 < newBalance then
      .error (.ledger ("P6: liability account would be positive: " ++ key.text))
    else checkSigns L allowNegative rest

/-- Add to both balances of a row. -/
def Account.credit (delta : Int) (r : Account) : Account :=
  { r with
    balanceCents := r.balanceCents + delta
    entryBalanceCents := r.entryBalanceCents + delta }

/-- Write the collected changes. -/
def applyDeltas (accounts : Dict AccountId Account) :
    List (AccountId × Int) → Dict AccountId Account
  | [] => accounts
  | e :: es => applyDeltas (accounts.modify e.1 (Account.credit e.2)) es

/-- The entry a leg leaves. -/
def entryOf (txnId : UUID) (tick : Int) (eventSeq : Nat) (leg : Leg) : Entry :=
  ⟨txnId, tick, eventSeq, leg.accountId, leg.direction, leg.amountCents, leg.reason⟩

/-- `_post_transaction(legs, tick=, cause=, allow_negative=, allow_issuance=)`. -/
def postTransactionCore [Uuid5] (legs : List Leg) (tick : Int) (cause : Event)
    (allowNegative : List String) (allowIssuance : Bool) : LedgerM UUID := do
  require (2 ≤ legs.length) (.ledger "P1: a transaction requires at least two legs")
  let L ← get
  require (cause.runId = L.runId ∧ cause.tick = tick)
    (.ledger "P7: cause must belong to this run and tick")
  let deltas ← liftE (checkLegs L allowIssuance legs [] ∅)
  require (deltas.values.sum = 0) (.ledger "P3: transaction is not balanced")
  liftE (validateAllowNegative allowNegative)
  liftE (checkSigns L allowNegative deltas.entries)
  let ordinal := L.ordinalByTick.getD tick 0
  let txnId ← nextTxnId tick
  let entries := legs.map (entryOf txnId tick cause.seq)
  modify fun L => { L with
    ordinalByTick := L.ordinalByTick.put tick (ordinal + 1)
    accounts := applyDeltas L.accounts deltas.entries
    dirtyAccounts := deltas.keys.foldl (fun d k => d.put k ()) L.dirtyAccounts
    entries := L.entries ++ entries
    pendingEntries := L.pendingEntries ++ entries
    postedByTick := L.postedByTick.put tick (L.postedByTick.getD tick [] ++ [txnId]) }
  pure txnId

/-- `post_transaction(legs, tick=, cause=, allow_negative=)`. -/
def postTransaction [Uuid5] (legs : List Leg) (tick : Int) (cause : Event)
    (allowNegative : List String := []) : LedgerM UUID :=
  postTransactionCore legs tick cause allowNegative false

/-- The text of the issuance account. -/
def issuanceText : String := "iss:bk_cb"

/-- `issue_base_money(legs, tick=, cause=)`. -/
def issueBaseMoney [Uuid5] (legs : List Leg) (tick : Int) (cause : Event) : LedgerM UUID := do
  require ((legs.filter fun leg => leg.accountId = issuanceText).length = 1)
    (.ledger "base-money issuance requires exactly one issuance leg")
  postTransactionCore legs tick cause [] true

/-- `transfer(src, dst, amount_cents, reason)`: the legs of a payment between
two liquid accounts, with both banks' books when they differ. -/
def transfer (src dst : AccountId) (amountCents : Int) (reason : String) :
    Except PyError (List Leg) :=
  if amountCents ≤ 0 then .error (.ledger "transfer amount must be positive")
  else if ¬(src.code = .cash ∨ src.code = .dep ∨ src.code = .esc) ∨
      ¬(dst.code = .cash ∨ dst.code = .dep ∨ dst.code = .esc) then
    .error (.ledger "transfers require cash, deposit, or escrow endpoints")
  else if bankOf src = bankOf dst then
    .ok [leg src (-1) amountCents reason, leg dst 1 amountCents reason]
  else
    match bankOf src, bankOf dst with
    | some sourceBank, some destinationBank => do
      let dplSource ← accountId .dpl sourceBank
      let resSource ← accountId .res sourceBank
      let resDestination ← accountId .res destinationBank
      let dplDestination ← accountId .dpl destinationBank
      .ok [
        leg src (-1) amountCents reason,
        leg dplSource 1 amountCents reason,
        leg resSource (-1) amountCents reason,
        leg resDestination 1 amountCents reason,
        leg dplDestination (-1) amountCents reason,
        leg dst 1 amountCents reason]
    | _, _ => .error (.ledger "cross-bank transfer requires deposit or escrow endpoints")

/-! ## Persistence -/

/-- The rows a flush hands to the repository. -/
structure FlushRows where
  accounts : List (AccountId × Account × String)
  entries : List Entry

/-- `commit_tick(tick)`. -/
def commitTick (L : Ledger) (tick : Int) : List Entry :=
  let txnIds := L.postedByTick.getD tick []
  L.pendingEntries.filter fun e => e.txnId ∈ txnIds

/-- `flush(tick)`: the rows handed over, when there is a repository. -/
def flush (tick : Int) : LedgerM (Option FlushRows) := do
  let L ← get
  let rows := L.commitTick tick
  let posted := L.postedByTick.getD tick []
  set { L with
    postedByTick := L.postedByTick.erase tick
    pendingEntries := L.pendingEntries.filter fun e => e.txnId ∉ posted
    dirtyAccounts := ∅ }
  if L.hasRepo ∧ (L.dirtyAccounts.entries ≠ [] ∨ rows ≠ []) then
    pure (some {
      accounts := L.dirtyAccounts.sort.keys.filterMap fun k =>
        (L.accounts.get? k).map fun r => (k, r, k.code.accountType)
      entries := rows })
  else pure none

/-- The mapping `dump` returns. -/
structure Dump where
  accounts : Dict AccountId Account
  entries : List Entry
  pendingEntries : List Entry
  dirtyAccounts : List AccountId
  ordinalByTick : Dict Int Nat
  postedByTick : Dict String (List UUID)
  deriving DecidableEq

/-- `str` of an integer. -/
def strInt (n : Int) : String := toString n

theorem strInt_injective : Function.Injective strInt := fun _ _ h => Int.repr_inj.mp h

/-- `dump()`. -/
def dump (L : Ledger) : Dump where
  accounts := L.accounts.sort
  entries := L.entries
  pendingEntries := L.pendingEntries
  dirtyAccounts := L.dirtyAccounts.sort.keys
  ordinalByTick := L.ordinalByTick.sort
  postedByTick := L.postedByTick.sort.mapKeys strInt strInt_injective

/-- `{int(key): value ...}` over rows keyed by text. -/
def intKeys {α : Type} : List (String × α) → Except PyError (List (Int × α))
  | [] => .ok []
  | e :: es =>
    match e.1.toInt? with
    | none => .error (.value ("invalid literal for int() with base 10: " ++ quoted e.1))
    | some n =>
      match intKeys es with
      | .error err => .error err
      | .ok rest => .ok ((n, e.2) :: rest)

/-- `load(state)`. -/
def load (state : Dump) : LedgerM Unit := do
  modify fun L => { L with
    accounts := state.accounts.sort
    entries := state.entries
    pendingEntries := state.pendingEntries
    dirtyAccounts := Dict.ofList (state.dirtyAccounts.map fun k => (k, ()))
    ordinalByTick := Dict.ofList state.ordinalByTick.entries }
  let posted ← liftE (intKeys state.postedByTick.entries)
  modify fun L => { L with postedByTick := Dict.ofList posted }

/-! ## Identities -/

/-- `global_balance_cents()`. -/
def globalBalanceCents (L : Ledger) : Int := L.accounts.total fun _ r => r.balanceCents

/-- `materialisation_imbalance_cents()`. -/
def materialisationImbalanceCents (L : Ledger) : Int :=
  L.accounts.total fun _ r => |r.balanceCents - r.entryBalanceCents|

/-- Deposits and escrow held at a bank. -/
def heldAt (bankId : String) (a : AccountId) : Int :=
  if (a.code = .dep ∨ a.code = .esc) ∧ a.bankId = some bankId then 1 else 0

/-- The deposit liability of a bank. -/
def owedBy (bankId : String) (a : AccountId) : Int :=
  if a.code = .dpl ∧ a.ownerId = bankId then 1 else 0

/-- The banks `deposit_imbalances` reports on. -/
def commercialBanks (L : Ledger) : List String :=
  (L.accounts.entries.filter fun e => e.1.code = .dpl ∧ e.1.ownerId ≠ "bk_cb").map
    (fun e => e.1.ownerId) |>.insertionSort (· ≤ ·)

/-- One value of `deposit_imbalances()`. -/
def depositImbalance (L : Ledger) (bankId : String) : Except PyError Int := do
  let held := L.accounts.total fun a r => heldAt bankId a * r.balanceCents
  let liability ← accountId .dpl bankId
  let owed ← L.balance liability
  .ok (held + owed)

/-- Base money: cash, the banks' reserves and the treasury's account at the
central bank, against issuance. -/
def baseMoneyWeight (a : AccountId) : Int :=
  if a.code = .cash ∨ (a.code = .res ∧ a.ownerId ≠ "bk_cb") then 1
  else if a.code = .dep ∧ a.ownerId = "gv_treasury" ∧ a.bankId = some "bk_cb" then 1
  else 0

/-- `base_money_imbalance_cents()`. -/
def baseMoneyImbalanceCents (L : Ledger) : Except PyError Int := do
  let issuance ← accountId .iss "bk_cb"
  if (L.accounts.get? issuance).isNone then .ok 0
  else
    let owed ← L.balance issuance
    .ok (L.accounts.total (fun a r => baseMoneyWeight a * r.balanceCents) + owed)

end Ledger

/-! ## What the methods do -/

namespace Ledger

/-- The signed lines of a list of legs. -/
def lines (legs : List Leg) : List (AccountId × ℤ) :=
  legs.filterMap fun leg =>
    match parseAccountId leg.accountId with
    | .ok a => some (a, leg.direction * leg.amountCents)
    | .error _ => none

@[simp] theorem lines_nil : lines [] = [] := rfl
theorem lines_cons_of_parse {l : Leg} {a : AccountId} (h : parseAccountId l.accountId = .ok a)
    (legs : List Leg) : lines (l :: legs) = (a, l.direction * l.amountCents) :: lines legs := by
  unfold lines
  rw [List.filterMap_cons_some]
  rw [h]

@[simp] theorem lines_cons_leg (a : AccountId) (d n : Int) (r : String) (legs : List Leg) :
    lines (leg a d n r :: legs) = (a, d * n) :: lines legs := by
  have h : parseAccountId (leg a d n r).accountId = .ok a := parseAccountId_text a
  rw [lines_cons_of_parse h, leg]

@[simp] theorem lines_append (l l' : List Leg) : lines (l ++ l') = lines l ++ lines l' :=
  List.filterMap_append

/-- The balances of a ledger. -/
noncomputable def book (L : Ledger) : Book AccountId := bookOf L.accounts Account.balanceCents

theorem book_apply (L : Ledger) (a : AccountId) :
    L.book a = (L.accounts.get? a).elim 0 Account.balanceCents := bookOf_apply _ _ _

theorem book_of_get? {L : Ledger} {a : AccountId} {r : Account} (h : L.accounts.get? a = some r) :
    L.book a = r.balanceCents := bookOf_apply_some h

theorem weigh_book (w : AccountId → ℤ) (L : Ledger) :
    weigh w L.book = L.accounts.total fun a r => w a * r.balanceCents := weigh_bookOf _ _ _

theorem find?_eq_some {L : Ledger} {value : String} {row : AccountId × Account} :
    L.find? value = some row ↔ row.1.text = value ∧ L.accounts.get? row.1 = some row.2 := by
  unfold find?
  constructor
  · intro h
    cases hp : parseAccountId value with
    | error e => simp [hp] at h
    | ok a =>
      simp only [hp, Option.map_eq_some_iff] at h
      obtain ⟨r, hr, rfl⟩ := h
      exact ⟨parseAccountId_eq_ok.mp hp, hr⟩
  · rintro ⟨rfl, h⟩
    simp [parseAccountId_text, h]

theorem openRow_eq_ok {L : Ledger} {value : String} {row : AccountId × Account} :
    L.openRow value = .ok row ↔
      row.1.text = value ∧ L.accounts.get? row.1 = some row.2 ∧ row.2.closedTick = none := by
  rw [← and_assoc, ← find?_eq_some]
  unfold openRow account
  cases L.find? value with
  | none => simp
  | some row' =>
    simp only [Option.some.injEq]
    cases hc : row'.2.closedTick with
    | none =>
      simp only [Option.isSome_none, Bool.false_eq_true, if_false, Except.ok.injEq]
      exact ⟨fun h => ⟨h, h ▸ hc⟩, fun h => h.1⟩
    | some t =>
      simp only [Option.isSome_some, if_true, reduceCtorEq, false_iff, not_and]
      intro h hn
      rw [← h, hc] at hn
      cases hn

/-! ### Posting -/

/-- The checks an accepted leg has passed. -/
structure LegOk (L : Ledger) (allowIssuance : Bool) (l : Leg) : Prop where
  direction : l.direction = -1 ∨ l.direction = 1
  amount : 0 < l.amountCents
  reason : l.reason ∈ reasons
  account : ∃ a r, parseAccountId l.accountId = .ok a ∧ L.accounts.get? a = some r ∧
    r.closedTick = none ∧ (a.code = .iss → allowIssuance = true)

theorem bookOf_add (d : Dict AccountId Int) (a : AccountId) (n : Int) :
    bookOf (d.put a (d.getD a 0 + n)) id = bookOf d id + Finsupp.single a n := by
  unfold bookOf
  rw [Dict.total_put]
  unfold Dict.weightAt Dict.getD
  cases d.get? a with
  | none => simp
  | some v =>
    simp only [Option.elim_some, Option.getD_some, id, Finsupp.single_add]
    abel

theorem checkLegs_eq_ok {L : Ledger} {ai : Bool} {legs : List Leg}
    {seen : List (String × Int × String)} {deltas deltas' : Dict AccountId Int}
    (h : checkLegs L ai legs seen deltas = .ok deltas') :
    (∀ l ∈ legs, LegOk L ai l) ∧ bookOf deltas' id = bookOf deltas id + posting (lines legs) ∧
      (∀ a, (deltas'.get? a).isSome ↔ (deltas.get? a).isSome ∨ a ∈ (lines legs).map Prod.fst) := by
  induction legs generalizing seen deltas with
  | nil =>
    cases h
    simp
  | cons l legs ih =>
    unfold checkLegs at h
    split_ifs at h with h₁ h₂ h₃ h₄
    cases hrow : L.openRow l.accountId with
    | error e => rw [hrow] at h; cases h
    | ok row =>
      obtain ⟨key, acc⟩ := row
      rw [hrow] at h
      simp only at h
      split_ifs at h with h₅ h₆
      obtain ⟨ht, hg, hc⟩ := openRow_eq_ok.mp hrow
      have hparse : parseAccountId l.accountId = .ok key := parseAccountId_eq_ok.mpr ht
      obtain ⟨ihok, ihbook, ihkeys⟩ := ih h
      refine ⟨?_, ?_, fun a => ?_⟩
      · intro x hx
        rcases List.mem_cons.mp hx with rfl | hx
        · refine ⟨by omega, by omega, h₃, key, acc, hparse, hg, hc, fun hi => ?_⟩
          by_contra hai
          exact h₆ ⟨hi, hai⟩
        · exact ihok x hx
      · rw [ihbook, bookOf_add, lines_cons_of_parse hparse, posting_cons, add_assoc]
      · rw [ihkeys, Dict.get?_put, lines_cons_of_parse hparse, List.map_cons, List.mem_cons]
        by_cases ha : a = key <;> simp [ha]

theorem applyDeltas_get? (es : List (AccountId × Int)) (accounts : Dict AccountId Account)
    (hn : (es.map Prod.fst).Nodup) (a : AccountId) :
    (applyDeltas accounts es).get? a
      = (accounts.get? a).map (Account.credit ((Dict.lookup a es).getD 0)) := by
  induction es generalizing accounts with
  | nil =>
    show accounts.get? a = _
    cases accounts.get? a <;> simp [Dict.lookup, Account.credit]
  | cons e es ih =>
    rw [List.map_cons, List.nodup_cons] at hn
    rw [applyDeltas, ih _ hn.2, Dict.get?_modify]
    by_cases h : a = e.1
    · subst h
      have hnone : Dict.lookup e.1 es = none := by
        cases hl : Dict.lookup e.1 es with
        | none => rfl
        | some v => exact absurd (List.mem_map_of_mem (Dict.lookup_mem hl)) hn.1
      rw [if_pos rfl, hnone]
      cases accounts.get? e.1 <;> simp [Dict.lookup, Account.credit]
    · rw [if_neg h]
      simp [Dict.lookup, Ne.symm h]

theorem checkSigns_eq_ok {L : Ledger} {allow : List String} {es : List (AccountId × Int)}
    (h : checkSigns L allow es = .ok ()) :
    ∀ e ∈ es, e.1.text ∉ allow →
      (e.1.code.polarity = .asset →
        0 ≤ (L.accounts.get? e.1).elim 0 Account.balanceCents + e.2) ∧
      (e.1.code.polarity = .liability →
        (L.accounts.get? e.1).elim 0 Account.balanceCents + e.2 ≤ 0) := by
  induction es with
  | nil => simp
  | cons x es ih =>
    unfold checkSigns at h
    dsimp only at h
    split_ifs at h with h₁ h₂
    intro e he hallow
    rcases List.mem_cons.mp he with rfl | he
    · exact ⟨fun hp => not_lt.mp fun hlt => h₁ ⟨hallow, hp, hlt⟩,
        fun hp => not_lt.mp fun hlt => h₂ ⟨hallow, hp, hlt⟩⟩
    · exact ih h e he hallow

/-- Everything an accepted transaction did to the ledger. -/
structure Posted [Uuid5] (L L' : Ledger) (legs : List Leg) (tick : Int) (cause : Event)
    (allowNegative : List String) (allowIssuance : Bool) (txnId : UUID) : Prop where
  two_le : 2 ≤ legs.length
  cause_ok : cause.runId = L.runId ∧ cause.tick = tick
  legs_ok : ∀ l ∈ legs, LegOk L allowIssuance l
  balanced : net (fun _ => 1) (lines legs) = 0
  rows : ∀ a, L'.accounts.get? a
    = (L.accounts.get? a).map (Account.credit (posting (lines legs) a))
  signs : ∀ a r, L'.accounts.get? a = some r → a ∈ (lines legs).map Prod.fst →
    a.text ∉ allowNegative → (a.code.polarity = .asset → 0 ≤ r.balanceCents) ∧
      (a.code.polarity = .liability → r.balanceCents ≤ 0)
  txn_eq : txnId = Uuid5.uuid5 L.runId (txnName tick (L.ordinalByTick.getD tick 0))
  runId_eq : L'.runId = L.runId
  hasRepo_eq : L'.hasRepo = L.hasRepo
  entries_eq : L'.entries = L.entries ++ legs.map (entryOf txnId tick cause.seq)
  ordinal_eq : ∀ t, L'.ordinalByTick.getD t 0
    = if t = tick then L.ordinalByTick.getD tick 0 + 1 else L.ordinalByTick.getD t 0

theorem legs_accounts {L : Ledger} {ai : Bool} {legs : List Leg} (h : ∀ l ∈ legs, LegOk L ai l)
    {a : AccountId} (ha : a ∈ (lines legs).map Prod.fst) : ∃ r, L.accounts.get? a = some r ∧
      r.closedTick = none ∧ (a.code = .iss → ai = true) := by
  obtain ⟨p, hp, rfl⟩ := List.mem_map.mp ha
  obtain ⟨l, hl, hpl⟩ := List.mem_filterMap.mp hp
  obtain ⟨b, r, hparse, hg, hc, hi⟩ := (h l hl).account
  rw [hparse] at hpl
  cases hpl
  exact ⟨r, hg, hc, hi⟩

/-- The checks of a transaction whose legs change the accounts by `deltas`. -/
structure Checked (L : Ledger) (legs : List Leg) (tick : Int) (cause : Event)
    (allowNegative : List String) (allowIssuance : Bool) (deltas : Dict AccountId Int) : Prop where
  two_le : 2 ≤ legs.length
  cause_ok : cause.runId = L.runId ∧ cause.tick = tick
  collected : checkLegs L allowIssuance legs [] ∅ = .ok deltas
  sum_zero : deltas.values.sum = 0
  allow_ok : validateAllowNegative allowNegative = .ok ()
  signs_ok : checkSigns L allowNegative deltas.entries = .ok ()

/-- The identifier the next transaction of a tick gets. -/
def txnIdAt [Uuid5] (L : Ledger) (tick : Int) : UUID :=
  Uuid5.uuid5 L.runId (txnName tick (L.ordinalByTick.getD tick 0))

/-- The ledger with a transaction written. -/
def written (L : Ledger) (legs : List Leg) (tick : Int) (cause : Event)
    (deltas : Dict AccountId Int) (txnId : UUID) : Ledger :=
  { L with
    ordinalByTick := L.ordinalByTick.put tick (L.ordinalByTick.getD tick 0 + 1)
    accounts := applyDeltas L.accounts deltas.entries
    dirtyAccounts := deltas.keys.foldl (fun d k => d.put k ()) L.dirtyAccounts
    entries := L.entries ++ legs.map (entryOf txnId tick cause.seq)
    pendingEntries := L.pendingEntries ++ legs.map (entryOf txnId tick cause.seq)
    postedByTick := L.postedByTick.put tick (L.postedByTick.getD tick [] ++ [txnId]) }

theorem postCore_eq_ok [Uuid5] {legs : List Leg} {tick : Int} {cause : Event}
    {allowNegative : List String} {allowIssuance : Bool} {L L' : Ledger} {txnId : UUID} :
    postTransactionCore legs tick cause allowNegative allowIssuance L = .ok txnId L' ↔
      ∃ deltas, Checked L legs tick cause allowNegative allowIssuance deltas ∧
        txnId = L.txnIdAt tick ∧ L' = L.written legs tick cause deltas txnId := by
  constructor
  · intro h
    unfold postTransactionCore at h
    obtain ⟨_, _, h₁, h⟩ := bind_eq_ok.mp h
    obtain ⟨htwo, rfl⟩ := require_eq_ok.mp h₁
    obtain ⟨_, _, h₁, h⟩ := bind_eq_ok.mp h
    obtain ⟨rfl, rfl⟩ := get_eq_ok.mp h₁
    obtain ⟨_, _, h₁, h⟩ := bind_eq_ok.mp h
    obtain ⟨hcause, rfl⟩ := require_eq_ok.mp h₁
    obtain ⟨deltas, _, h₁, h⟩ := bind_eq_ok.mp h
    obtain ⟨hdeltas, rfl⟩ := liftE_eq_ok.mp h₁
    obtain ⟨_, _, h₁, h⟩ := bind_eq_ok.mp h
    obtain ⟨hsum, rfl⟩ := require_eq_ok.mp h₁
    obtain ⟨_, _, h₁, h⟩ := bind_eq_ok.mp h
    obtain ⟨hallow, rfl⟩ := liftE_eq_ok.mp h₁
    obtain ⟨_, _, h₁, h⟩ := bind_eq_ok.mp h
    obtain ⟨hsigns, rfl⟩ := liftE_eq_ok.mp h₁
    obtain ⟨txn, L₁, h₁, h⟩ := bind_eq_ok.mp h
    obtain ⟨_, _, h₂, h₁⟩ := bind_eq_ok.mp h₁
    obtain ⟨rfl, rfl⟩ := get_eq_ok.mp h₂
    obtain ⟨_, _, h₂, h₁⟩ := bind_eq_ok.mp h₁
    have h₂ := set_eq_ok.mp h₂
    subst h₂
    obtain ⟨rfl, rfl⟩ := pure_eq_ok.mp h₁
    obtain ⟨_, _, h₁, h⟩ := bind_eq_ok.mp h
    have h₁ := modify_eq_ok.mp h₁
    subst h₁
    obtain ⟨rfl, rfl⟩ := pure_eq_ok.mp h
    refine ⟨deltas, ⟨htwo, hcause, hdeltas, hsum, hallow, hsigns⟩, rfl, ?_⟩
    unfold written
    rw [Dict.put_put]
  · rintro ⟨deltas, hchecked, rfl, rfl⟩
    unfold postTransactionCore
    rw [bind_of_ok (a := ()) (require_eq_ok.mpr ⟨hchecked.two_le, rfl⟩), get_bind,
      bind_of_ok (a := ()) (require_eq_ok.mpr ⟨hchecked.cause_ok, rfl⟩),
      bind_of_ok (liftE_eq_ok.mpr ⟨hchecked.collected, rfl⟩),
      bind_of_ok (a := ()) (require_eq_ok.mpr ⟨hchecked.sum_zero, rfl⟩),
      bind_of_ok (liftE_eq_ok.mpr ⟨hchecked.allow_ok, rfl⟩),
      bind_of_ok (liftE_eq_ok.mpr ⟨hchecked.signs_ok, rfl⟩)]
    unfold written
    rw [← Dict.put_put L.ordinalByTick tick (L.ordinalByTick.getD tick 0)]
    rfl

theorem post_eq_ok [Uuid5] {legs : List Leg} {tick : Int} {cause : Event}
    {allowNegative : List String} {allowIssuance : Bool} {L L' : Ledger} {txnId : UUID}
    (h : postTransactionCore legs tick cause allowNegative allowIssuance L = .ok txnId L') :
    Posted L L' legs tick cause allowNegative allowIssuance txnId := by
  obtain ⟨deltas, ⟨htwo, hcause, hdeltas, hsum, -, hsigns⟩, rfl, rfl⟩ := postCore_eq_ok.mp h
  obtain ⟨hok, hbook, hkeys⟩ := checkLegs_eq_ok hdeltas
  have hpost : bookOf deltas id = posting (lines legs) := by rw [hbook]; simp [bookOf]
  have hat : ∀ a, (Dict.lookup a deltas.entries).getD 0 = posting (lines legs) a := by
    intro a
    rw [← hpost, bookOf_apply]
    show (deltas.get? a).getD 0 = _
    cases deltas.get? a <;> rfl
  have hrows : ∀ a, (applyDeltas L.accounts deltas.entries).get? a
      = (L.accounts.get? a).map (Account.credit (posting (lines legs) a)) := by
    intro a; rw [applyDeltas_get? _ _ deltas.nodup, hat]
  refine ⟨htwo, hcause, hok, ?_, hrows, ?_, rfl, rfl, rfl, rfl, ?_⟩
  · rw [← weigh_posting, ← hpost, weigh_bookOf]
    simpa [Dict.total, Dict.values] using hsum
  · intro a r hr ha hallow
    obtain ⟨v, hv⟩ := Option.isSome_iff_exists.mp ((hkeys a).mpr (Or.inr ha))
    have hs := checkSigns_eq_ok hsigns (a, v) (Dict.mem_entries_iff.mpr hv) hallow
    obtain ⟨r₀, hr₀, rfl⟩ := Option.map_eq_some_iff.mp ((hrows a).symm.trans hr)
    have hva : v = posting (lines legs) a := by
      rw [← hat a]; show v = (deltas.get? a).getD 0; rw [hv]; rfl
    simp only [hr₀, Option.elim_some, hva] at hs
    exact hs
  · intro t
    simp only [written, Dict.getD, Dict.get?_put]
    by_cases ht : t = tick <;> simp [ht]

theorem Posted.book_eq [Uuid5] {L L' : Ledger} {legs : List Leg} {tick : Int} {cause : Event}
    {an : List String} {ai : Bool} {txn : UUID} (h : Posted L L' legs tick cause an ai txn) :
    L'.book = L.book + posting (lines legs) := by
  ext a
  rw [Finsupp.add_apply, book_apply, book_apply, h.rows a]
  cases hr : L.accounts.get? a with
  | some r => simp [Account.credit]
  | none =>
    have hnot : a ∉ (lines legs).map Prod.fst := by
      intro ha
      obtain ⟨r, hr', -⟩ := legs_accounts h.legs_ok ha
      rw [hr] at hr'; cases hr'
    simp [posting_apply_of_notMem hnot]

theorem Posted.sum_eq [Uuid5] {L L' : Ledger} {legs : List Leg} {tick : Int} {cause : Event}
    {an : List String} {ai : Bool} {txn : UUID} (h : Posted L L' legs tick cause an ai txn) :
    (legs.map Leg.signed).sum = 0 := by
  have hb := h.balanced
  have hlines : ∀ ls : List Leg, (∀ l ∈ ls, LegOk L ai l) →
      net (fun _ => 1) (lines ls) = (ls.map Leg.signed).sum := by
    intro ls
    induction ls with
    | nil => simp
    | cons l ls ih =>
      intro hls
      obtain ⟨a, -, hparse, -⟩ := (hls l List.mem_cons_self).account
      rw [lines_cons_of_parse hparse, net_cons, ih fun x hx => hls x (List.mem_cons_of_mem _ hx)]
      simp [Leg.signed]
  rw [← hlines legs h.legs_ok, hb]

/-! ### Opening and closing -/

theorem open_eq_ok {code : AccountCode} {ownerId ownerType : String} {bankId ref : Option String}
    {tick : Int} {L L' : Ledger} {a : AccountId}
    (h : openAccount code ownerId ownerType bankId ref tick L = .ok a L') :
    accountId code ownerId bankId ref = .ok a ∧ L.accounts.get? a = none ∧ 0 ≤ tick ∧
      (code = .iss → ownerId = "bk_cb" ∧ ownerType = "central_bank") ∧
      L' = { L with
        accounts := L.accounts.put a ⟨ownerType, "POL", tick, none, 0, 0⟩
        dirtyAccounts := L.dirtyAccounts.put a () } := by
  unfold openAccount at h
  obtain ⟨_, _, h₁, h⟩ := bind_eq_ok.mp h
  obtain ⟨htick, rfl⟩ := require_eq_ok.mp h₁
  obtain ⟨v, _, h₁, h⟩ := bind_eq_ok.mp h
  obtain ⟨hid, rfl⟩ := liftE_eq_ok.mp h₁
  obtain ⟨_, _, h₁, h⟩ := bind_eq_ok.mp h
  obtain ⟨rfl, rfl⟩ := get_eq_ok.mp h₁
  obtain ⟨_, _, h₁, h⟩ := bind_eq_ok.mp h
  obtain ⟨hnone, rfl⟩ := require_eq_ok.mp h₁
  obtain ⟨_, _, h₁, h⟩ := bind_eq_ok.mp h
  obtain ⟨hiss, rfl⟩ := require_eq_ok.mp h₁
  obtain ⟨_, _, h₁, h⟩ := bind_eq_ok.mp h
  have h₁ := set_eq_ok.mp h₁
  subst h₁
  obtain ⟨rfl, rfl⟩ := pure_eq_ok.mp h
  refine ⟨hid, hnone, htick, fun hc => ?_, rfl⟩
  by_contra hne
  exact hiss ⟨hc, by tauto⟩

theorem close_eq_ok {value : String} {tick : Int} {L L' : Ledger} {u : Unit}
    (h : closeAccount value tick L = .ok u L') :
    ∃ a r, a.text = value ∧ L.accounts.get? a = some r ∧ r.closedTick = none ∧
      r.balanceCents = 0 ∧ r.openedTick ≤ tick ∧
      L' = { L with
        accounts := L.accounts.put a { r with closedTick := some tick }
        dirtyAccounts := L.dirtyAccounts.put a () } := by
  unfold closeAccount at h
  obtain ⟨_, _, h₁, h⟩ := bind_eq_ok.mp h
  obtain ⟨rfl, rfl⟩ := get_eq_ok.mp h₁
  obtain ⟨⟨a, r⟩, _, h₁, h⟩ := bind_eq_ok.mp h
  obtain ⟨hrow, rfl⟩ := liftE_eq_ok.mp h₁
  obtain ⟨_, _, h₁, h⟩ := bind_eq_ok.mp h
  obtain ⟨hbal, rfl⟩ := require_eq_ok.mp h₁
  obtain ⟨_, _, h₁, h⟩ := bind_eq_ok.mp h
  obtain ⟨htick, rfl⟩ := require_eq_ok.mp h₁
  have h := set_eq_ok.mp h
  obtain ⟨ht, hg, hc⟩ := openRow_eq_ok.mp hrow
  exact ⟨a, r, ht, hg, hc, hbal, htick, h.symm⟩

theorem book_congr {L L' : Ledger} (h : ∀ a, (L'.accounts.get? a).elim 0 Account.balanceCents
    = (L.accounts.get? a).elim 0 Account.balanceCents) : L'.book = L.book := by
  ext a
  rw [book_apply, book_apply, h a]

theorem book_open {code : AccountCode} {ownerId ownerType : String} {bankId ref : Option String}
    {tick : Int} {L L' : Ledger} {a : AccountId}
    (h : openAccount code ownerId ownerType bankId ref tick L = .ok a L') : L'.book = L.book := by
  obtain ⟨-, hnone, -, -, rfl⟩ := open_eq_ok h
  refine book_congr fun x => ?_
  rw [Dict.get?_put]
  split_ifs with hx
  · rw [hx, hnone]; rfl
  · rfl

theorem book_close {value : String} {tick : Int} {L L' : Ledger} {u : Unit}
    (h : closeAccount value tick L = .ok u L') : L'.book = L.book := by
  obtain ⟨a, r, -, hg, -, -, -, rfl⟩ := close_eq_ok h
  refine book_congr fun x => ?_
  rw [Dict.get?_put]
  split_ifs with hx
  · rw [hx, hg]; rfl
  · rfl

/-! ### Checkpoint -/

theorem toInt?_strInt (n : Int) : (strInt n).toInt? = some n := Int.toInt?_repr n

theorem intKeys_strInt {α : Type} (l : List (Int × α)) :
    intKeys (l.map fun e => (strInt e.1, e.2)) = .ok l := by
  induction l with
  | nil => rfl
  | cons e l ih => rw [List.map_cons, intKeys]; simp only [toInt?_strInt, ih]

theorem load_dump (L L₀ : Ledger) : load L.dump L₀ = .ok () { L₀ with
    accounts := L.accounts.sort
    entries := L.entries
    pendingEntries := L.pendingEntries
    dirtyAccounts := L.dirtyAccounts.sort
    ordinalByTick := L.ordinalByTick.sort
    postedByTick := L.postedByTick.sort } := by
  have hdirty : Dict.ofList (L.dirtyAccounts.sort.keys.map fun k => (k, ()))
      = L.dirtyAccounts.sort := by
    have hmap : L.dirtyAccounts.sort.keys.map (fun k => (k, ()))
        = L.dirtyAccounts.sort.entries := by
      unfold Dict.keys
      rw [List.map_map]
      exact List.map_id _
    rw [hmap, Dict.ofList_entries]
  refine bind_eq_ok.mpr ⟨(), _, modify_eq_ok.mpr rfl, ?_⟩
  refine bind_eq_ok.mpr ⟨L.postedByTick.sort.entries, _, liftE_eq_ok.mpr ⟨intKeys_strInt _, rfl⟩, ?_⟩
  refine modify_eq_ok.mpr ?_
  simp only [dump, Dict.ofList_entries, Dict.sort_sort, hdirty]

end Ledger

end Polis.Economy
