/-
  Polis.Economy.Account — account codes and identifiers (`economy/ledger.py`).

  An identifier names a code, an owner and, for some codes, a bank and a
  reference.  `AccountId` carries the checks of `account_id` as fields, so an
  ill-formed identifier cannot be built; `text` is the string the source
  stores, and accounts are ordered by it.

  Main results:
    * `accountId_eq_ok` — what an accepted identifier is made of.
    * `parseAccountId_text` / `parseAccountId_eq_ok` — parsing and writing an
      identifier are inverse to each other.
    * `text_injective` — distinct identifiers have distinct texts.
    * `identifiers_bijective` — writing and parsing are inverse on components
      and strings.
-/
import Polis.Base
import Mathlib.Data.String.Basic
import Mathlib.Data.List.Basic
import Mathlib.Order.Basic
import Mathlib.Tactic.SplitIfs

namespace Polis.Economy

/-! ## Codes -/

/-- `AccountCode`. -/
inductive AccountCode where
  | cash | dep | esc | res | lnr | txr | dpl | lnp | iss
  deriving Repr, DecidableEq

/-- `Polarity`. -/
inductive Polarity where
  | asset | liability
  deriving Repr, DecidableEq

namespace AccountCode

/-- `POLARITY`. -/
def polarity : AccountCode → Polarity
  | cash | dep | esc | res | lnr | txr => .asset
  | dpl | lnp | iss => .liability

/-- The code as it stands in an identifier. -/
def text : AccountCode → String
  | cash => "cash" | dep => "dep" | esc => "esc" | res => "res" | lnr => "lnr"
  | txr => "txr" | dpl => "dpl" | lnp => "lnp" | iss => "iss"

/-- `ACCOUNT_TYPE`. -/
def accountType : AccountCode → String
  | cash => "cash" | dep => "deposit" | esc => "escrow" | res => "reserve"
  | lnr => "loan_receivable" | txr => "tax_receivable" | dpl => "deposit"
  | lnp => "loan_payable" | iss => "issuance"

/-- Codes whose accounts sit at a bank. -/
def needsBank : AccountCode → Bool
  | dep | esc => true
  | _ => false

/-- Codes whose accounts carry a reference. -/
def needsRef : AccountCode → Bool
  | lnr | lnp | esc => true
  | _ => false

/-- The code a text stands for. -/
def ofText? : String → Option AccountCode
  | "cash" => some .cash | "dep" => some .dep | "esc" => some .esc | "res" => some .res
  | "lnr" => some .lnr | "txr" => some .txr | "dpl" => some .dpl | "lnp" => some .lnp
  | "iss" => some .iss
  | _ => none

@[simp] theorem ofText?_text (c : AccountCode) : ofText? c.text = some c := by
  cases c <;> rfl

theorem colon_notMem_text (c : AccountCode) : ':' ∉ c.text.toList := by
  cases c <;> decide

end AccountCode

/-! ## Identifiers -/

/-- `any(marker in s for marker in (":", "@", "#"))`. -/
def hasMarker (s : String) : Bool := s.toList.any fun c => c = ':' || c = '@' || c = '#'

/-- A non-empty name without a separator. -/
def GoodName (s : String) : Prop := s ≠ "" ∧ hasMarker s = false

instance (s : String) : Decidable (GoodName s) := inferInstanceAs (Decidable (_ ∧ _))

theorem GoodName.notMem {s : String} (h : GoodName s) :
    ':' ∉ s.toList ∧ '@' ∉ s.toList ∧ '#' ∉ s.toList := by
  have hm := h.2
  simp only [hasMarker, List.any_eq_false, Bool.or_eq_true, decide_eq_true_eq] at hm
  refine ⟨fun hc => ?_, fun hc => ?_, fun hc => ?_⟩ <;>
    exact hm _ hc (by simp)

/-- A well-formed account identifier. -/
@[ext] structure AccountId where
  code : AccountCode
  ownerId : String
  bankId : Option String
  ref : Option String
  owner_ok : GoodName ownerId
  bank_ok : ∀ b, bankId = some b → GoodName b
  ref_ok : ∀ r, ref = some r → GoodName r
  bank_iff : bankId.isSome = code.needsBank
  ref_iff : ref.isSome = code.needsRef

/-! ### Parts an account may lack -/

theorem ofNone : ∀ a, (none : Option String) = some a → GoodName a := by
  intro a h
  cases h

theorem none_isSome : (none : Option String).isSome = false := rfl

theorem ofFirstBank : ∀ b, some "bk_1" = some b → GoodName b := by
  intro b h
  cases h
  decide

theorem firstBank_isSome : (some "bk_1").isSome = true := rfl

/-- `repr` of a string that needs no escape. -/
def quoted (s : String) : String := "'" ++ s ++ "'"

/-- `account_id(code, owner_id, bank_id=..., ref=...)`. -/
def accountId (code : AccountCode) (ownerId : String) (bankId ref : Option String := none) :
    Except PyError AccountId :=
  if ho : GoodName ownerId then
    if hb : ∀ b, bankId = some b → GoodName b then
      if hr : ∀ r, ref = some r → GoodName r then
        if hbi : bankId.isSome = code.needsBank then
          if hri : ref.isSome = code.needsRef then
            .ok ⟨code, ownerId, bankId, ref, ho, hb, hr, hbi, hri⟩
          else if ref.isNone then .error (.ledger (code.text ++ " account requires ref"))
          else .error (.ledger (code.text ++ " account cannot specify ref"))
        else if bankId.isNone then .error (.ledger (code.text ++ " account requires bank_id"))
        else .error (.ledger (code.text ++ " account cannot specify bank_id"))
      else .error (.ledger ("invalid account reference: " ++ quoted (ref.getD "")))
    else .error (.ledger ("invalid bank id: " ++ quoted (bankId.getD "")))
  else .error (.ledger ("invalid account owner: " ++ quoted ownerId))

theorem accountId_eq_ok {code : AccountCode} {ownerId : String} {bankId ref : Option String}
    {a : AccountId} (h : accountId code ownerId bankId ref = .ok a) :
    a.code = code ∧ a.ownerId = ownerId ∧ a.bankId = bankId ∧ a.ref = ref := by
  unfold accountId at h
  split_ifs at h
  cases h
  exact ⟨rfl, rfl, rfl, rfl⟩

theorem accountId_self (a : AccountId) : accountId a.code a.ownerId a.bankId a.ref = .ok a := by
  unfold accountId
  rw [dif_pos a.owner_ok, dif_pos a.bank_ok, dif_pos a.ref_ok, dif_pos a.bank_iff,
    dif_pos a.ref_iff]

/-! ## Text form -/

namespace AccountId

/-- The part of the text a separator starts. -/
def tail (sep : Char) : Option String → List Char
  | some s => sep :: s.toList
  | none => []

/-- The characters after the code: `owner[@bank][#ref]`. -/
def remainder (a : AccountId) : List Char :=
  a.ownerId.toList ++ tail '@' a.bankId ++ tail '#' a.ref

/-- The stored identifier: `code:owner[@bank][#ref]`. -/
def text (a : AccountId) : String := String.ofList (a.code.text.toList ++ ':' :: a.remainder)

end AccountId

/-- `s.partition(sep)`: what stands before the first separator, and what stands
after it when there is one. -/
def partition (sep : Char) : List Char → List Char × Option (List Char)
  | [] => ([], none)
  | c :: cs =>
    if c = sep then ([], some cs)
    else ((c :: (partition sep cs).1), (partition sep cs).2)

theorem partition_of_notMem {sep : Char} {l : List Char} (h : sep ∉ l) :
    partition sep l = (l, none) := by
  induction l with
  | nil => rfl
  | cons c cs ih =>
    rw [List.mem_cons, not_or] at h
    simp [partition, Ne.symm h.1, ih h.2]

theorem partition_append {sep : Char} {l r : List Char} (h : sep ∉ l) :
    partition sep (l ++ sep :: r) = (l, some r) := by
  induction l with
  | nil => simp [partition]
  | cons c cs ih =>
    rw [List.mem_cons, not_or] at h
    simp [partition, Ne.symm h.1, ih h.2]

theorem partition_tail {sep : Char} {l : List Char} {o : Option String} (h : sep ∉ l) :
    partition sep (l ++ AccountId.tail sep o) = (l, o.map String.toList) := by
  cases o with
  | none => simpa [AccountId.tail] using partition_of_notMem h
  | some s => exact partition_append h

/-- `parse_account_id(value)`. -/
def parseAccountId (value : String) : Except PyError AccountId :=
  match partition ':' value.toList with
  | (_, none) => .error (.ledger ("invalid account id: " ++ quoted value))
  | (codeText, some remainder) =>
    match AccountCode.ofText? (String.ofList codeText) with
    | none => .error (.ledger ("unknown account code in " ++ quoted value))
    | some code =>
      let (ownerAndBank, ref) := partition '#' remainder
      let (owner, bank) := partition '@' ownerAndBank
      match accountId code (String.ofList owner) (bank.map String.ofList)
        (ref.map String.ofList) with
      | .error e => .error e
      | .ok a =>
        if a.text = value then .ok a
        else .error (.ledger ("non-canonical account id: " ++ quoted value))

theorem parseAccountId_text (a : AccountId) : parseAccountId a.text = .ok a := by
  have hown := a.owner_ok.notMem
  have hhash : '#' ∉ a.ownerId.toList ++ AccountId.tail '@' a.bankId := by
    rw [List.mem_append, not_or]
    refine ⟨hown.2.2, ?_⟩
    cases hb : a.bankId with
    | none => simp [AccountId.tail]
    | some b => simpa [AccountId.tail] using (a.bank_ok b hb).notMem.2.2
  have hmap : ∀ o : Option String, (o.map String.toList).map String.ofList = o := by
    intro o; cases o <;> simp
  have hrest : partition '#' a.remainder
      = (a.ownerId.toList ++ AccountId.tail '@' a.bankId, a.ref.map String.toList) :=
    partition_tail hhash
  have htext : a.text.toList = a.code.text.toList ++ ':' :: a.remainder := String.toList_ofList
  unfold parseAccountId
  rw [htext, partition_append a.code.colon_notMem_text]
  simp only [String.ofList_toList, AccountCode.ofText?_text, hrest, partition_tail hown.2.1, hmap,
    accountId_self, if_true]

theorem parseAccountId_eq_ok {value : String} {a : AccountId} :
    parseAccountId value = .ok a ↔ a.text = value := by
  constructor
  · intro h
    unfold parseAccountId at h
    split at h
    · simp at h
    · split at h
      · simp at h
      · dsimp only at h
        split at h
        · simp at h
        · split_ifs at h with ht
          rw [← Except.ok.inj h]; exact ht
  · rintro rfl
    exact parseAccountId_text a

namespace AccountId

theorem text_injective : Function.Injective text := by
  intro a b h
  have := parseAccountId_text a
  rw [h, parseAccountId_text b] at this
  exact (Except.ok.inj this).symm

/-- Accounts are ordered by their text. -/
instance : LinearOrder AccountId :=
  LinearOrder.lift' text text_injective

end AccountId

/-! ## Components and strings -/

/-- The components `parse_account_id` returns. -/
abbrev Components := AccountCode × String × Option String × Option String

/-- The components of an identifier. -/
def AccountId.components (a : AccountId) : Components := (a.code, a.ownerId, a.bankId, a.ref)

/-- The string `account_id` returns. -/
def identifierText (c : Components) : Except PyError String :=
  (accountId c.1 c.2.1 c.2.2.1 c.2.2.2).map AccountId.text

/-- The components `parse_account_id` returns. -/
def parsedComponents (value : String) : Except PyError Components :=
  (parseAccountId value).map AccountId.components

theorem identifierText_eq_ok {c : Components} {value : String} :
    identifierText c = .ok value ↔ ∃ a : AccountId, a.components = c ∧ a.text = value := by
  constructor
  · intro h
    unfold identifierText at h
    cases hid : accountId c.1 c.2.1 c.2.2.1 c.2.2.2 with
    | error e =>
      rw [hid] at h
      cases h
    | ok a =>
      rw [hid] at h
      obtain ⟨hcode, howner, hbank, href⟩ := accountId_eq_ok hid
      refine ⟨a, ?_, Except.ok.inj h⟩
      unfold AccountId.components
      rw [hcode, howner, hbank, href]
  · rintro ⟨a, rfl, rfl⟩
    unfold identifierText
    show (accountId a.code a.ownerId a.bankId a.ref).map AccountId.text = .ok a.text
    rw [accountId_self]
    rfl

theorem parsedComponents_eq_ok {c : Components} {value : String} :
    parsedComponents value = .ok c ↔ ∃ a : AccountId, a.components = c ∧ a.text = value := by
  constructor
  · intro h
    unfold parsedComponents at h
    cases hp : parseAccountId value with
    | error e =>
      rw [hp] at h
      cases h
    | ok a =>
      rw [hp] at h
      exact ⟨a, Except.ok.inj h, parseAccountId_eq_ok.mp hp⟩
  · rintro ⟨a, rfl, rfl⟩
    unfold parsedComponents
    rw [parseAccountId_text]
    rfl

/-- **Account identifiers are a bijection** between the components that
`account_id` accepts and the strings that `parse_account_id` accepts. -/
theorem identifiers_bijective :
    (∀ c value, identifierText c = .ok value → parsedComponents value = .ok c) ∧
      (∀ c c' value, identifierText c = .ok value → identifierText c' = .ok value → c = c') ∧
      ∀ value c, parsedComponents value = .ok c → identifierText c = .ok value := by
  refine ⟨fun c value h => ?_, fun c c' value h h' => ?_, fun value c h => ?_⟩
  · exact parsedComponents_eq_ok.mpr (identifierText_eq_ok.mp h)
  · obtain ⟨a, rfl, ha⟩ := identifierText_eq_ok.mp h
    obtain ⟨a', rfl, ha'⟩ := identifierText_eq_ok.mp h'
    rw [AccountId.text_injective (ha.trans ha'.symm)]
  · exact identifierText_eq_ok.mpr (parsedComponents_eq_ok.mp h)

theorem escrow_parsed :
    parsedComponents "esc:ann@bank_1#ord_7" = .ok (.esc, "ann", some "bank_1", some "ord_7") :=
  identifiers_bijective.1 (.esc, "ann", some "bank_1", some "ord_7") _ (by decide)

/-- `bank_of(value)`: the bank whose reserves stand behind an account. -/
def bankOf (a : AccountId) : Option String :=
  match a.code with
  | .dep | .esc => a.bankId
  | .dpl | .res => some a.ownerId
  | _ => none

end Polis.Economy
