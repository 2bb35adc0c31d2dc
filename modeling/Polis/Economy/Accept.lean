/-
  Polis.Economy.Accept — when the ledger takes a transaction.

  `Posted` says what an accepted transaction did; this is the other direction:
  the checks of `_post_transaction`, gathered, are enough for it to return.

  Main results:
    * `checkLegs_returns` — legs that pass their checks are collected.
    * `post_returns` — an acceptable transaction is accepted.
-/
import Polis.Economy.Sim

namespace Polis.Economy.Ledger

open Lib Lib.Effect Lib.DoubleEntry

/-- What two legs of one transaction may not share. -/
def Leg.key (l : Leg) : String × Int × String := (l.accountId, l.direction, l.reason)

/-- Every account is kept in the one currency. -/
def AllPol (L : Ledger) : Prop := ∀ a r, L.accounts.get? a = some r → r.currency = "POL"

/-- The checks of a posting, P1 to P7. -/
structure Acceptable (L : Ledger) (legs : List Leg) (tick : Int) (cause : Event)
    (allowNegative : List String) (allowIssuance : Bool) : Prop where
  two_le : 2 ≤ legs.length
  cause_ok : cause.runId = L.runId ∧ cause.tick = tick
  legs_ok : ∀ l ∈ legs, LegOk L allowIssuance l
  distinct : (legs.map Leg.key).Nodup
  pol : AllPol L
  balanced : net (fun _ => 1) (lines legs) = 0
  allow_ok : validateAllowNegative allowNegative = .ok ()
  signs : ∀ a r, L.accounts.get? a = some r → a ∈ (lines legs).map Prod.fst →
    a.text ∉ allowNegative →
      (a.code.polarity = .asset → 0 ≤ r.balanceCents + posting (lines legs) a) ∧
      (a.code.polarity = .liability → r.balanceCents + posting (lines legs) a ≤ 0)

variable {L : Ledger} {legs : List Leg}

theorem checkLegs_returns {ai : Bool} (hpol : AllPol L) (hok : ∀ l ∈ legs, LegOk L ai l)
    (hn : (legs.map Leg.key).Nodup) (seen : List (String × Int × String))
    (hseen : ∀ l ∈ legs, Leg.key l ∉ seen) (deltas : Dict AccountId Int) :
    ∃ deltas', checkLegs L ai legs seen deltas = .ok deltas' := by
  induction legs generalizing seen deltas with
  | nil => exact ⟨deltas, rfl⟩
  | cons l legs ih =>
    have hl := hok l List.mem_cons_self
    obtain ⟨a, r, hparse, hrow, hopen, hiss⟩ := hl.account
    have hopenRow : L.openRow l.accountId = .ok (a, r) :=
      openRow_eq_ok.mpr ⟨parseAccountId_eq_ok.mp hparse, hrow, hopen⟩
    rw [List.map_cons, List.nodup_cons] at hn
    have hdirection := hl.direction
    have hamount := hl.amount
    have hnew : (l.accountId, l.direction, l.reason) ∉ seen := hseen l List.mem_cons_self
    unfold checkLegs
    rw [if_neg (by omega), if_neg (by omega), if_neg (not_not.mpr hl.reason), if_neg hnew, hopenRow]
    dsimp only
    rw [if_neg (not_not.mpr (hpol a r hrow)), if_neg (fun h => h.2 (hiss h.1))]
    refine ih (fun x hx => hok x (List.mem_cons_of_mem _ hx)) hn.2 _ (fun x hx => ?_) _
    rw [List.mem_cons, not_or]
    refine ⟨fun heq => hn.1 ?_, hseen x (List.mem_cons_of_mem _ hx)⟩
    show Leg.key l ∈ _
    rw [show Leg.key l = Leg.key x from heq.symm]
    exact List.mem_map_of_mem hx

theorem checkSigns_returns {allow : List String} {es : List (AccountId × Int)}
    (h : ∀ e ∈ es, e.1.text ∉ allow →
      (e.1.code.polarity = .asset → 0 ≤ (L.accounts.get? e.1).elim 0 Account.balanceCents + e.2) ∧
      (e.1.code.polarity = .liability →
        (L.accounts.get? e.1).elim 0 Account.balanceCents + e.2 ≤ 0)) :
    checkSigns L allow es = .ok () := by
  induction es with
  | nil => rfl
  | cons e es ih =>
    have he := h e List.mem_cons_self
    unfold checkSigns
    dsimp only
    rw [if_neg (fun hn => by have := (he hn.1).1 hn.2.1; omega),
      if_neg (fun hn => by have := (he hn.1).2 hn.2.1; omega)]
    exact ih fun x hx => h x (List.mem_cons_of_mem _ hx)

theorem post_returns [Uuid5] {tick : Int} {cause : Event} {an : List String} {ai : Bool}
    (h : Acceptable L legs tick cause an ai) :
    ∃ txn L', postTransactionCore legs tick cause an ai L = .ok txn L' := by
  obtain ⟨deltas, hdeltas⟩ := checkLegs_returns h.pol h.legs_ok h.distinct [] (by simp) ∅
  obtain ⟨-, hbook, hkeys⟩ := checkLegs_eq_ok hdeltas
  have hpost : bookOf deltas id = posting (lines legs) := by rw [hbook]; simp [bookOf]
  have hsum : deltas.values.sum = 0 := by
    have hb := h.balanced
    rw [← weigh_posting, ← hpost, weigh_bookOf] at hb
    simpa [Dict.total, Dict.values] using hb
  have hsigns : checkSigns L an deltas.entries = .ok () := by
    refine checkSigns_returns fun e he hallow => ?_
    have hget := Dict.mem_entries_iff.mp he
    have hat : e.2 = posting (lines legs) e.1 := by
      rw [← hpost, bookOf_apply, hget]
      rfl
    have hmem : e.1 ∈ (lines legs).map Prod.fst := by
      rcases (hkeys e.1).mp (by rw [hget]; rfl) with h₀ | h₀
      · simp at h₀
      · exact h₀
    obtain ⟨r, hr, -, -⟩ := legs_accounts h.legs_ok hmem
    rw [hr, hat]
    exact h.signs e.1 r hr hmem hallow
  exact ⟨_, _, postCore_eq_ok.mpr
    ⟨deltas, ⟨h.two_le, h.cause_ok, hdeltas, hsum, h.allow_ok, hsigns⟩, rfl, rfl⟩⟩

/-! ## Opening -/

theorem open_returns {code : AccountCode} {ownerId ownerType : String} {ref : Option String}
    {bankId : Option String} {tick : Int} {a : AccountId} (htick : 0 ≤ tick)
    (hid : accountId code ownerId bankId ref = .ok a) (hnew : L.accounts.get? a = none)
    (hiss : code ≠ .iss) :
    ∃ L', openAccount code ownerId ownerType bankId ref tick L = .ok a L' := by
  have hfree : ¬(code = .iss ∧ (ownerId ≠ "bk_cb" ∨ ownerType ≠ "central_bank")) :=
    fun h => hiss h.1
  unfold openAccount
  rw [bind_of_ok (require_eq_ok (u := ()).mpr ⟨htick, rfl⟩),
    bind_of_ok (liftE_eq_ok.mpr ⟨hid, rfl⟩), get_bind,
    bind_of_ok (require_eq_ok (u := ()).mpr ⟨hnew, rfl⟩),
    bind_of_ok (require_eq_ok (u := ()).mpr ⟨hfree, rfl⟩)]
  exact ⟨_, rfl⟩

/-! ## One currency -/

theorem AllPol.opened {L' : Ledger} {code : AccountCode} {ownerId ownerType : String}
    {bankId ref : Option String} {tick : Int} {a : AccountId} (hpol : AllPol L)
    (h : openAccount code ownerId ownerType bankId ref tick L = .ok a L') : AllPol L' := by
  obtain ⟨-, -, -, -, rfl⟩ := open_eq_ok h
  intro b r hr
  rw [Dict.get?_put] at hr
  split_ifs at hr with hb
  · cases hr
    rfl
  · exact hpol b r hr

theorem AllPol.posted [Uuid5] {L' : Ledger} {tick : Int} {cause : Event} {an : List String}
    {ai : Bool} {txn : UUID} (hpol : AllPol L) (h : Posted L L' legs tick cause an ai txn) :
    AllPol L' := by
  intro a r hr
  rw [h.rows a] at hr
  obtain ⟨r₀, hr₀, rfl⟩ := Option.map_eq_some_iff.mp hr
  exact hpol a r₀ hr₀

end Polis.Economy.Ledger
