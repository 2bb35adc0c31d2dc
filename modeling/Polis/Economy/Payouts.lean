/-
  Polis.Economy.Payouts — the payments a ledger takes.

  Whether a posting goes through depends on the accounts alone.  `transferred`
  makes the checks of one transfer and its change of balances, `paidOut` those
  of several transfers out of one account; neither stages an event or counts a
  transaction.

  Main results:
    * `post_of_transferred`, `transferred_of_post` — a transfer is posted
      exactly when the ledger takes it.
    * `paidOut_congr` — ledgers with the same accounts take the same payments.
-/
import Polis.Economy.Payments

namespace Polis.Economy.Ledger

open Lib Lib.Effect Lib.DoubleEntry

/-! ## What a ledger takes -/

/-- The changes of balances a posting makes, when its legs pass every check. -/
def settledDeltas (L : Ledger) (legs : List Leg) : Except PyError (Dict AccountId Int) := do
  let deltas ← checkLegs L false legs [] ∅
  if deltas.values.sum ≠ 0 then .error (.ledger "P3: transaction is not balanced")
  else do
    checkSigns L [] deltas.entries
    .ok deltas

/-- The ledger after a transfer it takes. -/
def transferred (L : Ledger) (src dst : AccountId) (n : Int) (reason : String) :
    Except PyError Ledger := do
  let legs ← transfer src dst n reason
  let deltas ← settledDeltas L legs
  .ok { L with accounts := applyDeltas L.accounts deltas.entries }

/-- The ledger after transfers to the deposits of several owners. -/
def paidOut (src : AccountId) (reason : String) :
    List (String × Int) → Ledger → Except PyError Ledger
  | [], L => .ok L
  | (owner, n) :: rest, L => do
    let deposit ← depositAccount L owner
    let L ← transferred L src deposit n reason
    paidOut src reason rest L

/-! ## Accounts decide -/

variable {L M : Ledger}

theorem openRow_congr (h : M.accounts = L.accounts) (value : String) :
    M.openRow value = L.openRow value := by
  unfold openRow account find?
  rw [h]

theorem checkLegs_congr (h : M.accounts = L.accounts) (allowIssuance : Bool) (legs : List Leg)
    (seen : List (String × Int × String)) (deltas : Dict AccountId Int) :
    checkLegs M allowIssuance legs seen deltas = checkLegs L allowIssuance legs seen deltas := by
  induction legs generalizing seen deltas with
  | nil => rfl
  | cons l legs ih =>
    unfold checkLegs
    rw [openRow_congr h]
    simp only [ih]

theorem checkSigns_congr (h : M.accounts = L.accounts) (allow : List String)
    (es : List (AccountId × Int)) : checkSigns M allow es = checkSigns L allow es := by
  induction es with
  | nil => rfl
  | cons e es ih =>
    unfold checkSigns
    rw [h, ih]

theorem settledDeltas_congr (h : M.accounts = L.accounts) (legs : List Leg) :
    settledDeltas M legs = settledDeltas L legs := by
  unfold settledDeltas
  simp only [checkLegs_congr h, checkSigns_congr h]

theorem depositAccount_of_keys (h : M.accounts.keys = L.accounts.keys) (owner : String) :
    depositAccount M owner = depositAccount L owner := by
  have keyed : ∀ N : Ledger, (N.rowsOf owner).map Prod.fst
      = N.accounts.keys.filter fun a => a.ownerId = owner := by
    intro N
    unfold rowsOf Dict.keys
    rw [List.filter_map]
    rfl
  unfold depositAccount accountsOf
  rw [keyed, keyed, h]

theorem depositAccount_congr (h : M.accounts = L.accounts) (owner : String) :
    depositAccount M owner = depositAccount L owner :=
  depositAccount_of_keys (by rw [h]) owner

theorem keys_applyDeltas (accounts : Dict AccountId Account) (es : List (AccountId × Int)) :
    (applyDeltas accounts es).keys = accounts.keys := by
  induction es generalizing accounts with
  | nil => rfl
  | cons e es ih =>
    show (applyDeltas (accounts.modify e.1 _) es).keys = _
    rw [ih, Dict.keys_modify]

theorem transferred_eq_ok {src dst : AccountId} {n : Int} {reason : String} :
    transferred L src dst n reason = .ok M ↔
      ∃ legs deltas, transfer src dst n reason = .ok legs ∧ settledDeltas L legs = .ok deltas ∧
        M = { L with accounts := applyDeltas L.accounts deltas.entries } := by
  unfold transferred
  constructor
  · intro h
    obtain ⟨legs, hlegs, h⟩ := except_bind_eq_ok.mp h
    obtain ⟨deltas, hdeltas, h⟩ := except_bind_eq_ok.mp h
    exact ⟨legs, deltas, hlegs, hdeltas, (Except.ok.inj h).symm⟩
  · rintro ⟨legs, deltas, hlegs, hdeltas, rfl⟩
    rw [hlegs]
    show (settledDeltas L legs >>= _) = _
    rw [hdeltas]
    rfl

theorem depositAccount_transferred {src dst : AccountId} {n : Int} {reason : String}
    (h : transferred L src dst n reason = .ok M) (owner : String) :
    depositAccount M owner = depositAccount L owner := by
  obtain ⟨_, deltas, -, -, rfl⟩ := transferred_eq_ok.mp h
  exact depositAccount_of_keys (keys_applyDeltas _ _) owner

theorem paidOut_congr {src : AccountId} {reason : String} {shares : List (String × Int)}
    {L' : Ledger} (h : M.accounts = L.accounts) (hp : paidOut src reason shares L = .ok L') :
    ∃ M', paidOut src reason shares M = .ok M' ∧ M'.accounts = L'.accounts := by
  induction shares generalizing L M with
  | nil =>
    cases hp
    exact ⟨M, rfl, h⟩
  | cons share shares ih =>
    obtain ⟨owner, n⟩ := share
    unfold paidOut at hp ⊢
    obtain ⟨deposit, hd, hp⟩ := except_bind_eq_ok.mp hp
    obtain ⟨L₁, ht, hp⟩ := except_bind_eq_ok.mp hp
    obtain ⟨legs, deltas, hlegs, hdeltas, rfl⟩ := transferred_eq_ok.mp ht
    have hM : transferred M src deposit n reason
        = .ok { M with accounts := applyDeltas M.accounts deltas.entries } :=
      transferred_eq_ok.mpr ⟨legs, deltas, hlegs, by rw [settledDeltas_congr h, hdeltas], rfl⟩
    obtain ⟨M', hrest, hacc⟩ := @ih _ { M with accounts := applyDeltas M.accounts deltas.entries }
      (by show applyDeltas M.accounts _ = applyDeltas L.accounts _; rw [h]) hp
    refine ⟨M', ?_, hacc⟩
    rw [depositAccount_congr h, hd]
    show (transferred M src deposit n reason >>= _) = _
    rw [hM]
    exact hrest

/-! ## Postings -/

variable [Uuid5]

omit [Uuid5] in
theorem transfer_two_le {src dst : AccountId} {n : Int} {reason : String} {legs : List Leg}
    (h : transfer src dst n reason = .ok legs) : 2 ≤ legs.length := by
  unfold transfer at h
  split_ifs at h with h₁ h₂ h₃
  · cases h
    simp
  · cases hs : bankOf src with
    | none => rw [hs] at h; cases h
    | some srcBank =>
      cases hd : bankOf dst with
      | none => rw [hs, hd] at h; cases h
      | some dstBank =>
        rw [hs, hd] at h
        obtain ⟨_, -, h⟩ := except_bind_eq_ok.mp h
        obtain ⟨_, -, h⟩ := except_bind_eq_ok.mp h
        obtain ⟨_, -, h⟩ := except_bind_eq_ok.mp h
        obtain ⟨_, -, h⟩ := except_bind_eq_ok.mp h
        cases h
        simp

theorem settledDeltas_of_post {legs : List Leg} {tick : Int} {cause : Event} {txn : UUID}
    {L' : Ledger} (h : postTransaction legs tick cause [] L = .ok txn L') :
    cause.runId = L.runId ∧ ∃ deltas, settledDeltas L legs = .ok deltas ∧
      L'.accounts = applyDeltas L.accounts deltas.entries := by
  obtain ⟨deltas, hchecked, -, rfl⟩ := postCore_eq_ok.mp h
  refine ⟨hchecked.cause_ok.1, deltas, ?_, rfl⟩
  unfold settledDeltas
  rw [hchecked.collected]
  show (if deltas.values.sum ≠ 0 then _ else _) = _
  rw [if_neg (not_not.mpr hchecked.sum_zero), hchecked.signs_ok]
  rfl

theorem post_of_settledDeltas {legs : List Leg} {tick : Int} {cause : Event}
    {deltas : Dict AccountId Int} (htwo : 2 ≤ legs.length)
    (hcause : cause.runId = L.runId ∧ cause.tick = tick) (h : settledDeltas L legs = .ok deltas) :
    ∃ L', postTransaction legs tick cause [] L
        = .ok (Uuid5.uuid5 L.runId (txnName tick (L.ordinalByTick.getD tick 0))) L' ∧
      L'.accounts = applyDeltas L.accounts deltas.entries ∧ L'.runId = L.runId := by
  unfold settledDeltas at h
  obtain ⟨found, hdeltas, h⟩ := except_bind_eq_ok.mp h
  split_ifs at h with hsum
  obtain ⟨_, hsigns, h⟩ := except_bind_eq_ok.mp h
  cases h
  refine ⟨_, postCore_eq_ok.mpr ⟨deltas, ?_, rfl, rfl⟩, rfl, rfl⟩
  exact ⟨htwo, hcause, hdeltas, not_not.mp hsum, rfl, hsigns⟩

end Polis.Economy.Ledger
