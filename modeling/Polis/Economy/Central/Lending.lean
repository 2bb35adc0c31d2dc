/-
  Polis.Economy.Central.Lending — what one loan of the funding loop does.

  Both kinds of loan open a receivable and a payable under a new reference,
  post four legs and store the loan.  `Ready` is what a loan needs of the
  state; a loan leaves it, so the loop never runs into a ledger that refuses.

  Main results:
    * `originateInterbank_returns` — an interbank loan is made, moves reserves
      from bank to bank and adds to one exposure.
    * `discountWindow_returns` — an advance is made, and adds reserves against
      issuance.
-/
import Polis.Economy.Central.Interbank
import Polis.Economy.Payments

namespace Polis.Economy.Central

open Lib Lib.Effect Lib.DoubleEntry Ledger Sim

/-! ## Minted identifiers -/

/-- The prefixes of the loans made here. -/
def loanStems : List String := ["ib", "dw"]

/-- The identifier minted for a loan. -/
def loanIdOf (stem : String) (tick : Int) (ordinal : Nat) : String :=
  stem ++ "_" ++ zeroPad 8 tick.toNat ++ "_" ++ zeroPad 4 ordinal

theorem mint_loan {stem : String} {tick : Int} (hstem : stem ∈ loanStems) (htick : 0 ≤ tick)
    (n : Nat) : mint stem tick n = .ok (loanIdOf stem tick n) := by
  have hletters : ¬(stem = "" ∨ ¬stem.toList.all fun c => c.isLower ∨ c.isDigit) := by
    revert hstem
    unfold loanStems
    simp only [List.mem_cons, List.not_mem_nil, or_false]
    rintro (rfl | rfl)
    · decide
    · decide
  unfold mint
  rw [if_neg hletters, if_neg (by omega)]
  rfl

theorem loanIdOf_ne {stem stem' : String} {tick : Int} {m n : Nat} (hstem : stem ∈ loanStems)
    (hstem' : stem' ∈ loanStems) (h : m ≠ n) : loanIdOf stem tick m ≠ loanIdOf stem' tick n := by
  intro heq
  apply h
  have hlength : ∀ s ∈ loanStems, s.toList.length = 2 := by
    decide
  have hlist := congrArg String.toList heq
  unfold loanIdOf at hlist
  simp only [String.toList_append] at hlist
  -- the part before the ordinal is as long in both
  have htail := (List.append_inj hlist (by
    simp only [List.length_append, hlength stem hstem, hlength stem' hstem'])).2
  exact zeroPad_injective (String.toList_injective htail)

theorem goodName_loanIdOf {stem : String} {tick : Int} {n : Nat} (hstem : stem ∈ loanStems) :
    GoodName (loanIdOf stem tick n) := by
  have hmarks : ∀ c : Char, c.isDigit → (c = ':' || c = '@' || c = '#') = false := by
    intro c hc
    simp only [Bool.or_eq_false_iff, decide_eq_false_iff_not]
    refine ⟨⟨?_, ?_⟩, ?_⟩
    · rintro rfl
      exact absurd hc (by decide)
    · rintro rfl
      exact absurd hc (by decide)
    · rintro rfl
      exact absurd hc (by decide)
  have hstems : ∀ s ∈ loanStems, (s ++ "_").toList.any (fun c => c = ':' || c = '@' || c = '#')
      = false := by
    decide
  constructor
  · intro hempty
    have hlist := congrArg (fun s : String => s.toList.length) hempty
    unfold loanIdOf at hlist
    simp only [String.toList_append, List.length_append] at hlist
    have : "_".toList.length = 1 := rfl
    have : "".toList.length = 0 := rfl
    omega
  · unfold hasMarker loanIdOf
    rw [String.toList_append, String.toList_append, String.toList_append, List.any_append,
      List.any_append, List.any_append, hstems stem hstem]
    have hdigits : ∀ w k, (zeroPad w k).toList.any (fun c => c = ':' || c = '@' || c = '#')
        = false := by
      intro w k
      rw [List.any_eq_false]
      intro c hc
      rw [hmarks c (isDigit_zeroPad hc)]
      exact Bool.false_ne_true
    rw [hdigits, hdigits]
    rfl

/-! ## What a loan needs -/

/-- A commercial bank in business. -/
def Commercial (bank : BankState) : Prop := bank.isCentral = false ∧ bank.status = .active

/-- A bank row and its accounts, as the genesis opens them. -/
structure BankOk (L : Ledger) (bankId : String) (bank : BankState) : Prop where
  id_eq : bank.bankId = bankId
  not_central : bankId ≠ "bk_cb"
  ratio_nonneg : 0 ≤ bank.reserveRatioBp
  reserve : bank.reserveAccountId.code = .res ∧ bank.reserveAccountId.ownerId = bankId
  liability : bank.depositLiabilityAccountId.code = .dpl
  reserve_row : ∃ r, L.accounts.get? bank.reserveAccountId = some r ∧ r.closedTick = none ∧
    0 ≤ r.balanceCents
  liability_row : ∃ r, L.accounts.get? bank.depositLiabilityAccountId = some r

/-- The issuance account stands open. -/
def IssuanceOk (L : Ledger) : Prop := ∃ a r, a.code = .iss ∧ a.ownerId = "bk_cb" ∧
  L.accounts.get? a = some r ∧ r.closedTick = none ∧ r.balanceCents ≤ 0

/-- The loans and accounts the next ordinals name are not there yet. -/
def Unused (tick : Int) (e : EconomyState) : Prop :=
  ∀ stem ∈ loanStems, ∀ n, originatedAt tick e ≤ n →
    e.loans.get? (loanIdOf stem tick n) = none ∧
      ∀ a : AccountId, a.code = .lnr ∨ a.code = .lnp → a.ref = some (loanIdOf stem tick n) →
        e.ledger.accounts.get? a = none

/-- What a loan at a tick needs of the state. -/
structure Ready (tick : Int) (s : Sim) : Prop where
  tick_nonneg : 0 ≤ tick
  run_eq : s.log.runId = s.books.runId
  pol : AllPol s.books
  banks : ∀ id bank, s.economy.banks.get? id = some bank → Commercial bank → BankOk s.books id bank
  issuance : IssuanceOk s.books
  unused : Unused tick s.economy

/-! ## Opening the two accounts -/

/-- The ledger with the receivable and the payable of a loan. -/
structure LoanOpened (tick : Int) (loanId lenderId lenderType borrowerId : String)
    (L L' : Ledger) (receivable payable : AccountId) : Prop where
  receivable_code : receivable.code = .lnr
  payable_code : payable.code = .lnp
  receivable_ref : receivable.ref = some loanId
  payable_ref : payable.ref = some loanId
  runId_eq : L'.runId = L.runId
  pol : AllPol L → AllPol L'
  book_eq : L'.book = L.book
  fresh : ∃ ty, L'.accounts.get? receivable = some ⟨lenderType, "POL", tick, none, 0, 0⟩ ∧
    L'.accounts.get? payable = some ⟨ty, "POL", tick, none, 0, 0⟩
  rest : ∀ a, a ≠ receivable → a ≠ payable → L'.accounts.get? a = L.accounts.get? a

theorem loan_opens {tick : Int} {stem lenderId lenderType borrowerId : String} {s : Sim}
    (hready : Ready tick s) (hstem : stem ∈ loanStems) (hlender : GoodName lenderId)
    (hborrower : GoodName borrowerId) :
    ∃ receivable payable L₁ L₂,
      openAccount .lnr lenderId lenderType none
        (some (loanIdOf stem tick (originatedAt tick s.economy))) tick s.books
          = .ok receivable L₁ ∧
      openAccount .lnp borrowerId "bank" none
        (some (loanIdOf stem tick (originatedAt tick s.economy))) tick L₁ = .ok payable L₂ ∧
      LoanOpened tick (loanIdOf stem tick (originatedAt tick s.economy)) lenderId lenderType
        borrowerId s.books L₂ receivable payable := by
  set loanId := loanIdOf stem tick (originatedAt tick s.economy) with hloan
  have hname : GoodName loanId := goodName_loanIdOf hstem
  have hids : ∀ (code : AccountCode) (owner : String), code = .lnr ∨ code = .lnp → GoodName owner →
      ∃ a, accountId code owner none (some loanId) = .ok a := by
    intro code owner hcode howner
    refine ⟨⟨code, owner, none, some loanId, howner, by simp, ?_, ?_, ?_⟩, ?_⟩
    · intro r hr
      cases hr
      exact hname
    · rcases hcode with rfl | rfl <;> rfl
    · rcases hcode with rfl | rfl <;> rfl
    · exact accountId_self ⟨code, owner, none, some loanId, howner, _, _, _, _⟩
  obtain ⟨receivable, hr⟩ := hids .lnr lenderId (.inl rfl) hlender
  obtain ⟨payable, hp⟩ := hids .lnp borrowerId (.inr rfl) hborrower
  obtain ⟨hrcode, -, -, hrref⟩ := accountId_eq_ok hr
  obtain ⟨hpcode, -, -, hpref⟩ := accountId_eq_ok hp
  have hunused := (hready.unused stem hstem _ le_rfl).2
  have hne : payable ≠ receivable := by
    intro h
    rw [h, hrcode] at hpcode
    cases hpcode
  obtain ⟨L₁, h₁⟩ := @open_returns s.books .lnr lenderId lenderType (some loanId) none tick
    receivable hready.tick_nonneg hr (hunused receivable (.inl hrcode) hrref) (by decide)
  obtain ⟨-, -, -, -, hL₁⟩ := open_eq_ok h₁
  have hfree : L₁.accounts.get? payable = none := by
    rw [hL₁]
    exact (Dict.get?_put_of_ne hne).trans (hunused payable (.inr hpcode) hpref)
  obtain ⟨L₂, h₂⟩ := @open_returns L₁ .lnp borrowerId "bank" (some loanId) none tick payable
    hready.tick_nonneg hp hfree (by decide)
  obtain ⟨-, -, -, -, hL₂⟩ := open_eq_ok h₂
  refine ⟨receivable, payable, L₁, L₂, h₁, h₂, hrcode, hpcode, hrref, hpref, ?_, ?_, ?_, ?_, ?_⟩
  · rw [hL₂, hL₁]
  · exact fun hpol => (hpol.opened h₁).opened h₂
  · rw [book_open h₂, book_open h₁]
  · refine ⟨"bank", ?_, ?_⟩
    · rw [hL₂, hL₁]
      exact (Dict.get?_put_of_ne hne.symm).trans (Dict.get?_put_self _ _ _)
    · rw [hL₂]
      exact Dict.get?_put_self _ _ _
  · intro a ha hb
    rw [hL₂, hL₁]
    exact (Dict.get?_put_of_ne hb).trans (Dict.get?_put_of_ne ha)

/-! ## Posting the four legs -/

/-- The legs of a loan: one account pays another, and the loan stands against
it. -/
def loanLegs (x y receivable payable : AccountId) (direction cents : Int) (reason : String) :
    List Leg :=
  [leg x direction cents reason, leg y (-direction) cents reason, leg receivable 1 cents reason,
    leg payable (-1) cents reason]

/-- The money a loan moves, besides the loan itself. -/
def loanMoves (x y : AccountId) (n : Int) : List (AccountId × Int) := [(x, n), (y, -n)]

/-- An open account that may change by `n`. -/
structure Takes (L : Ledger) (allowIssuance : Bool) (a : AccountId) (n : Int) : Prop where
  not_loan : a.code ≠ .lnr ∧ a.code ≠ .lnp
  issuance : a.code = .iss → allowIssuance = true
  row : ∃ r, L.accounts.get? a = some r ∧ r.closedTick = none ∧
    (a.code.polarity = .asset → 0 ≤ r.balanceCents + n) ∧
    (a.code.polarity = .liability → r.balanceCents + n ≤ 0)

section Posting

variable {tick cents direction : Int} {loanId lenderId lenderType borrowerId reason : String}
  {L L₁ : Ledger} {x y receivable payable : AccountId} {ai : Bool}

theorem lines_loanLegs : lines (loanLegs x y receivable payable direction cents reason)
    = loanMoves x y (direction * cents) ++ [(receivable, cents), (payable, -cents)] := by
  unfold loanLegs loanMoves
  simp

theorem posting_loanLegs (hxy : x ≠ y) (hrp : receivable ≠ payable)
    (hx : x ≠ receivable ∧ x ≠ payable) (hy : y ≠ receivable ∧ y ≠ payable) :
    posting (lines (loanLegs x y receivable payable direction cents reason)) x
        = direction * cents ∧
      posting (lines (loanLegs x y receivable payable direction cents reason)) y
        = -(direction * cents) ∧
      posting (lines (loanLegs x y receivable payable direction cents reason)) receivable = cents ∧
      posting (lines (loanLegs x y receivable payable direction cents reason)) payable
        = -cents := by
  rw [lines_loanLegs]
  simp only [loanMoves, List.cons_append, List.nil_append, posting_cons, posting_nil,
    Finsupp.add_apply, Finsupp.single_apply, Finsupp.coe_zero, Pi.zero_apply]
  refine ⟨?_, ?_, ?_, ?_⟩
  · simp [hxy.symm, hx.1.symm, hx.2.symm]
  · simp [hxy, hy.1.symm, hy.2.symm]
  · simp [hx.1, hy.1, hrp.symm]
  · simp [hx.2, hy.2, hrp]

theorem loanLegs_acceptable
    (hopened : LoanOpened tick loanId lenderId lenderType borrowerId L L₁ receivable payable)
    (hpol : AllPol L) (hcents : 0 < cents) (hdirection : direction = 1 ∨ direction = -1)
    (hreason : reason ∈ reasons) (hxy : x ≠ y) (hx : Takes L ai x (direction * cents))
    (hy : Takes L ai y (-(direction * cents))) {cause : Event}
    (hcause : cause.runId = L.runId ∧ cause.tick = tick) :
    Acceptable L₁ (loanLegs x y receivable payable direction cents reason) tick cause [] ai := by
  have hapart : ∀ a, a.code ≠ .lnr ∧ a.code ≠ .lnp → a ≠ receivable ∧ a ≠ payable := by
    intro a ha
    refine ⟨?_, ?_⟩
    · rintro rfl
      exact ha.1 hopened.receivable_code
    · rintro rfl
      exact ha.2 hopened.payable_code
  have hrp : receivable ≠ payable := by
    intro h
    have := hopened.payable_code
    rw [← h, hopened.receivable_code] at this
    cases this
  have hx₁ := hapart x hx.not_loan
  have hy₁ := hapart y hy.not_loan
  obtain ⟨ty, hrec, hpay⟩ := hopened.fresh
  obtain ⟨rx, hrx, hcx, hsx⟩ := hx.row
  obtain ⟨ry, hry, hcy, hsy⟩ := hy.row
  have hrx₁ : L₁.accounts.get? x = some rx := (hopened.rest x hx₁.1 hx₁.2).trans hrx
  have hry₁ : L₁.accounts.get? y = some ry := (hopened.rest y hy₁.1 hy₁.2).trans hry
  obtain ⟨hpx, hpy, hpr, hpp⟩ := @posting_loanLegs cents direction reason x y receivable payable
    hxy hrp hx₁ hy₁
  have hok : ∀ (a : AccountId) (d : Int) (r : Account), d = 1 ∨ d = -1 →
      L₁.accounts.get? a = some r → r.closedTick = none → (a.code = .iss → ai = true) →
      LegOk L₁ ai (leg a d cents reason) := by
    intro a d r hd hr hclosed hiss
    exact ⟨by show d = -1 ∨ d = 1; omega, hcents, hreason, a, r, parseAccountId_text a, hr, hclosed,
      hiss⟩
  have hnotiss : ∀ a : AccountId, a = receivable ∨ a = payable → a.code = .iss → ai = true := by
    rintro a (rfl | rfl) h
    · rw [hopened.receivable_code] at h
      cases h
    · rw [hopened.payable_code] at h
      cases h
  refine ⟨by simp [loanLegs], ⟨hcause.1.trans hopened.runId_eq.symm, hcause.2⟩, ?_, ?_,
    hopened.pol hpol, ?_, rfl, ?_⟩
  · intro l hl
    simp only [loanLegs, List.mem_cons, List.not_mem_nil, or_false] at hl
    rcases hl with rfl | rfl | rfl | rfl
    · exact hok x direction rx hdirection hrx₁ hcx hx.issuance
    · exact hok y (-direction) ry (by omega) hry₁ hcy hy.issuance
    · exact hok receivable 1 _ (.inl rfl) hrec rfl (hnotiss _ (.inl rfl))
    · exact hok payable (-1) _ (.inr rfl) hpay rfl (hnotiss _ (.inr rfl))
  · have htext : ∀ {a b : AccountId}, a ≠ b → a.text ≠ b.text := fun h ht => h (AccountId.text_injective ht)
    simp [loanLegs, Leg.key, leg, htext hxy, htext hx₁.1, htext hx₁.2, htext hy₁.1, htext hy₁.2,
      htext hrp]
  · rw [lines_loanLegs]
    simp [loanMoves]
  · intro a r hr ha _
    rw [lines_loanLegs] at ha
    simp only [loanMoves, List.cons_append, List.nil_append, List.map_cons, List.map_nil,
      List.mem_cons, List.not_mem_nil, or_false] at ha
    rcases ha with rfl | rfl | rfl | rfl
    · rw [hrx₁] at hr
      cases hr
      rw [hpx]
      exact hsx
    · rw [hry₁] at hr
      cases hr
      rw [hpy]
      exact hsy
    · rw [hrec] at hr
      cases hr
      rw [hpr, hopened.receivable_code]
      refine ⟨fun _ => ?_, fun h => by cases h⟩
      show (0 : Int) ≤ 0 + cents
      omega
    · rw [hpay] at hr
      cases hr
      rw [hpp, hopened.payable_code]
      refine ⟨fun h => ?_, fun _ => ?_⟩
      · cases h
      · show (0 : Int) + -cents ≤ 0
        omega

end Posting

/-! ## The state after a loan -/

/-- What a loan did to the state. -/
structure LoanMade (lenderId borrowerId : String) (cents tick : Int)
    (moves : List (AccountId × Int)) (s s' : Sim) : Prop where
  ready : Ready tick s'
  banks_eq : s'.economy.banks = s.economy.banks
  exposure : ∀ lender borrower, exposureCents lender borrower s'.economy
    = exposureCents lender borrower s.economy
      + if lender = lenderId ∧ borrower = borrowerId then cents else 0
  book_eq : ∃ receivable payable, receivable.code = .lnr ∧ payable.code = .lnp ∧
    s'.books.book = s.books.book + posting (moves ++ [(receivable, cents), (payable, -cents)])

section After

variable [Uuid5] {tick cents direction rate term : Int}
  {loanId lenderId lenderType borrowerId reason stem : String} {s s' : Sim} {L₁ L₂ L₃ : Ledger}
  {x y receivable payable : AccountId} {ai : Bool} {cause : Event} {txn : UUID}

omit [Uuid5] in
theorem originatedAt_put {e : EconomyState} {loan : LoanState} (hnew : e.loans.get? loanId = none)
    (htick : loan.originatedTick = tick) :
    originatedAt tick { e with loans := e.loans.put loanId loan } = originatedAt tick e + 1 := by
  have hcount : ∀ d : Dict String LoanState,
      ((d.values.filter fun loan => loan.originatedTick = tick).length : Int)
        = d.total fun _ loan => if loan.originatedTick = tick then 1 else 0 := by
    intro d
    unfold Dict.values Dict.total
    induction d.entries with
    | nil => rfl
    | cons e es ih =>
      simp only [List.map_cons, List.filter_cons, List.sum_cons, ← ih]
      by_cases h : e.2.originatedTick = tick
      · simp [h]
        omega
      · simp [h]
  have hput := Dict.total_put_of_none
    (fun _ (l : LoanState) => if l.originatedTick = tick then (1 : Int) else 0) hnew (v := loan)
  rw [← hcount, ← hcount, if_pos htick] at hput
  unfold originatedAt
  show ((e.loans.put loanId loan).values.filter _).length = _
  omega

theorem row_after (hposted : Posted L₂ L₃ (loanLegs x y receivable payable direction cents reason)
    tick cause [] ai txn) {a : AccountId} {r : Account} (hr : L₂.accounts.get? a = some r) :
    ∃ r', L₃.accounts.get? a = some r' ∧ r'.closedTick = r.closedTick ∧
      (a.code.polarity = .asset → 0 ≤ r.balanceCents → 0 ≤ r'.balanceCents) ∧
      (a.code.polarity = .liability → r.balanceCents ≤ 0 → r'.balanceCents ≤ 0) := by
  have hafter := hposted.rows a
  rw [hr] at hafter
  refine ⟨_, hafter, rfl, ?_, ?_⟩
  · intro hp hb
    by_cases hmem : a ∈ (lines (loanLegs x y receivable payable direction cents reason)).map Prod.fst
    · exact (hposted.signs a _ hafter hmem (by simp)).1 hp
    · show 0 ≤ r.balanceCents + _
      rw [posting_apply_of_notMem hmem]
      omega
  · intro hp hb
    by_cases hmem : a ∈ (lines (loanLegs x y receivable payable direction cents reason)).map Prod.fst
    · exact (hposted.signs a _ hafter hmem (by simp)).2 hp
    · show r.balanceCents + _ ≤ 0
      rw [posting_apply_of_notMem hmem]
      omega

theorem loan_made (hready : Ready tick s) (hstem : stem ∈ loanStems)
    (hopened : LoanOpened tick (loanIdOf stem tick (originatedAt tick s.economy)) lenderId
      lenderType borrowerId s.books L₁ receivable payable)
    (haccounts : L₂.accounts = L₁.accounts) (hrun : L₂.runId = L₁.runId)
    (hposted : Posted L₂ L₃ (loanLegs x y receivable payable direction cents reason)
      tick cause [] ai txn)
    (heconomy : s'.economy = { s.economy with
      ledger := L₃
      loans := s.economy.loans.put (loanIdOf stem tick (originatedAt tick s.economy))
        (interbankLoan (loanIdOf stem tick (originatedAt tick s.economy)) lenderId borrowerId cents
          rate term tick receivable payable) })
    (hlog : s'.log.runId = s.log.runId) :
    LoanMade lenderId borrowerId cents tick (loanMoves x y (direction * cents)) s s' := by
  set loanId := loanIdOf stem tick (originatedAt tick s.economy) with hloanId
  set loan := interbankLoan loanId lenderId borrowerId cents rate term tick receivable payable
    with hloan
  have hnew : s.economy.loans.get? loanId = none := (hready.unused stem hstem _ le_rfl).1
  have hbooks : s'.books = L₃ := by
    show s'.economy.ledger = L₃
    rw [heconomy]
  have hrest : ∀ a, a.code ≠ .lnr → a.code ≠ .lnp →
      L₂.accounts.get? a = s.books.accounts.get? a := by
    intro a h₁ h₂
    rw [haccounts]
    refine hopened.rest a ?_ ?_
    · rintro rfl
      exact h₁ hopened.receivable_code
    · rintro rfl
      exact h₂ hopened.payable_code
  have hstays : ∀ a r, a.code ≠ .lnr → a.code ≠ .lnp → s.books.accounts.get? a = some r →
      ∃ r', s'.books.accounts.get? a = some r' ∧ r'.closedTick = r.closedTick ∧
        (a.code.polarity = .asset → 0 ≤ r.balanceCents → 0 ≤ r'.balanceCents) ∧
        (a.code.polarity = .liability → r.balanceCents ≤ 0 → r'.balanceCents ≤ 0) := by
    intro a r h₁ h₂ hr
    rw [hbooks]
    exact row_after hposted ((hrest a h₁ h₂).trans hr)
  refine ⟨⟨hready.tick_nonneg, ?_, ?_, ?_, ?_, ?_⟩, by rw [heconomy], ?_, ?_⟩
  · rw [hlog, hready.run_eq, hbooks, hposted.runId_eq, hrun, hopened.runId_eq]
  · have hpol₂ : AllPol L₂ := by
      intro a r hr
      rw [haccounts] at hr
      exact hopened.pol hready.pol a r hr
    rw [hbooks]
    exact hpol₂.posted hposted
  · intro id bank hbank hcommercial
    rw [heconomy] at hbank
    have hok := hready.banks id bank hbank hcommercial
    obtain ⟨r, hr, hopen, hpos⟩ := hok.reserve_row
    obtain ⟨rl, hrl⟩ := hok.liability_row
    obtain ⟨r', hr', hopen', hasset, -⟩ := hstays _ r (by rw [hok.reserve.1]; decide)
      (by rw [hok.reserve.1]; decide) hr
    obtain ⟨rl', hrl', -⟩ := hstays _ rl (by rw [hok.liability]; decide)
      (by rw [hok.liability]; decide) hrl
    exact ⟨hok.id_eq, hok.not_central, hok.ratio_nonneg, hok.reserve, hok.liability,
      ⟨r', hr', hopen'.trans hopen, hasset (by rw [hok.reserve.1]; rfl) hpos⟩, rl', hrl'⟩
  · obtain ⟨a, r, hcode, howner, hr, hopen, hneg⟩ := hready.issuance
    obtain ⟨r', hr', hopen', -, hliab⟩ := hstays a r (by rw [hcode]; decide) (by rw [hcode]; decide) hr
    exact ⟨a, r', hcode, howner, hr', hopen'.trans hopen, hliab (by rw [hcode]; rfl) hneg⟩
  · intro stem' hstem' n hn
    have hcount : originatedAt tick s'.economy = originatedAt tick s.economy + 1 := by
      rw [heconomy]
      exact originatedAt_put hnew rfl
    have hne : loanIdOf stem' tick n ≠ loanId := loanIdOf_ne hstem' hstem (by omega)
    obtain ⟨hl, ha⟩ := hready.unused stem' hstem' n (by omega)
    refine ⟨?_, fun a hcode href => ?_⟩
    · rw [heconomy]
      exact (Dict.get?_put_of_ne hne).trans hl
    · have hapart : ∀ b : AccountId, b.ref = some loanId → a ≠ b := by
        rintro b hb rfl
        rw [href] at hb
        exact hne (Option.some.inj hb)
      show s'.books.accounts.get? a = none
      rw [hbooks, hposted.rows a, haccounts, hopened.rest a (hapart _ hopened.receivable_ref)
        (hapart _ hopened.payable_ref), ha a hcode href]
      rfl
  · intro lender borrower
    rw [heconomy]
    show (s.economy.loans.put loanId loan).total _ = _
    rw [Dict.total_put_of_none _ hnew]
    unfold exposureCents
    congr 1
    rw [hloan]
    show (if lenderId = lender ∧ borrowerId = borrower ∧ LoanStatus.current.live = true then cents
      else 0) = _
    have hlive : LoanStatus.current.live = true := rfl
    simp only [hlive, and_true, eq_comm]
  · refine ⟨receivable, payable, hopened.receivable_code, hopened.payable_code, ?_⟩
    have hbook₂ : L₂.book = s.books.book := by
      rw [← hopened.book_eq]
      unfold book
      rw [haccounts]
    rw [hbooks, hposted.book_eq, hbook₂, lines_loanLegs]

end After

/-! ## Reading the figures -/

theorem balance_of_row {L : Ledger} {a : AccountId} {r : Account}
    (h : L.accounts.get? a = some r) : L.balance a = .ok (L.book a) := by
  unfold Ledger.balance
  rw [h, book_of_get? h]

section Figures

variable {id : String} {bank : BankState} {e : EconomyState}

theorem bankRow_eq (h : e.banks.get? id = some bank) : bankRow id e = .ok bank := by
  unfold bankRow
  rw [h]

theorem reservesCents_eq (h : e.banks.get? id = some bank) (hok : BankOk e.ledger id bank) :
    reservesCents id e = .ok (e.ledger.book bank.reserveAccountId) := by
  obtain ⟨r, hr, -, -⟩ := hok.reserve_row
  unfold reservesCents
  rw [bankRow_eq h]
  exact balance_of_row hr

/-- What a bank must hold, read off the book. -/
noncomputable def mustHold (L : Ledger) (bank : BankState) : Int :=
  bp (max 0 (-(L.book bank.depositLiabilityAccountId))) bank.reserveRatioBp

theorem requirement_eq (h : e.banks.get? id = some bank) (hok : BankOk e.ledger id bank) :
    requirement bank e = .ok (mustHold e.ledger bank) := by
  obtain ⟨r, hr⟩ := hok.liability_row
  unfold requirement depositsCents
  rw [hok.id_eq, bankRow_eq h]
  show ((e.ledger.balance bank.depositLiabilityAccountId >>= _) >>= _) = _
  rw [balance_of_row hr]
  rfl

theorem mustHold_nonneg {L : Ledger} (hok : BankOk L id bank) : 0 ≤ mustHold L bank := by
  have hratio := hok.ratio_nonneg
  unfold mustHold bp
  positivity

end Figures

/-! ## The two loans -/

section Loans

variable [Uuid5] (ctx : Ctx) {tick cents : Int} {s : Sim}

theorem originateInterbank_returns (hready : Ready tick s) {lenderId borrowerId : String}
    {lender borrower : BankState} (hlender : s.economy.banks.get? lenderId = some lender)
    (hl : Commercial lender) (hborrower : s.economy.banks.get? borrowerId = some borrower)
    (hb : Commercial borrower) (hne : lenderId ≠ borrowerId) (hcents : 0 < cents)
    (hle : cents ≤ s.books.book lender.reserveAccountId) :
    ∃ events s', originateInterbank ctx lenderId borrowerId cents tick s = .ok events s' ∧
      LoanMade lenderId borrowerId cents tick
        (loanMoves lender.reserveAccountId borrower.reserveAccountId (-1 * cents)) s s' := by
  have hlok := hready.banks lenderId lender hlender hl
  have hbok := hready.banks borrowerId borrower hborrower hb
  have hlname : GoodName lenderId := hlok.reserve.2 ▸ lender.reserveAccountId.owner_ok
  have hbname : GoodName borrowerId := hbok.reserve.2 ▸ borrower.reserveAccountId.owner_ok
  have hib : "ib" ∈ loanStems := by decide
  obtain ⟨receivable, payable, L₁, L₂, h₁, h₂, hopened⟩ :=
    @loan_opens tick "ib" lenderId "bank" borrowerId s hready hib hlname hbname
  obtain ⟨rl, hrl, hlopen, hlpos⟩ := hlok.reserve_row
  obtain ⟨rb, hrb, hbopen, hbpos⟩ := hbok.reserve_row
  have hxy : lender.reserveAccountId ≠ borrower.reserveAccountId := by
    intro h
    apply hne
    rw [← hlok.reserve.2, ← hbok.reserve.2, h]
  rw [book_of_get? hrl] at hle
  -- the lender keeps a balance, the borrower's grows
  have hx : Takes s.books false lender.reserveAccountId (-1 * cents) := by
    rw [show (-1 * cents) = -cents by omega]
    refine ⟨by rw [hlok.reserve.1]; decide, fun h => ?_, rl, hrl, hlopen, fun _ => by omega, ?_⟩
    · rw [hlok.reserve.1] at h
      cases h
    · intro h
      rw [hlok.reserve.1] at h
      cases h
  have hy : Takes s.books false borrower.reserveAccountId (-(-1 * cents)) := by
    rw [show -(-1 * cents) = cents by omega]
    refine ⟨by rw [hbok.reserve.1]; decide, fun h => ?_, rb, hrb, hbopen, fun _ => by omega, ?_⟩
    · rw [hbok.reserve.1] at h
      cases h
    · intro h
      rw [hbok.reserve.1] at h
      cases h
  obtain ⟨event, log, hemit, hevent, hlog⟩ : ∃ event log, emit tick .interbankLoan
      [("loan_id", .str (loanIdOf "ib" tick (originatedAt tick s.economy))),
        ("lender_bank_id", .str lenderId), ("borrower_bank_id", .str borrowerId),
        ("cents", .int cents),
        ("rate_bp", .int (s.economy.policyRateBp + ctx.settings.banking.interbankSpreadBp)),
        ("term_ticks", .int ctx.settings.clock.ticksPerSimDay)]
      (some lenderId) [borrowerId] ((s.putBooks L₁).putBooks L₂)
        = .ok event ((s.putBooks L₂).putLog log) ∧
      (event.runId = s.log.runId ∧ event.tick = tick) ∧ log.runId = s.log.runId :=
    ⟨_, _, rfl, ⟨rfl, rfl⟩, rfl⟩
  have hacceptable := loanLegs_acceptable hopened hready.pol hcents (.inr rfl)
    (by decide : "loan" ∈ reasons) hxy hx hy
    (⟨hevent.1.trans hready.run_eq, hevent.2⟩ : event.runId = s.books.runId ∧ event.tick = tick)
  obtain ⟨txn, L₃, hpost⟩ := post_returns hacceptable
  have hposted : post [leg lender.reserveAccountId (-1) cents "loan",
      leg borrower.reserveAccountId 1 cents "loan", leg receivable 1 cents "loan",
      leg payable (-1) cents "loan"] tick event [] ((s.putBooks L₂).putLog log)
        = .ok txn ((s.putBooks L₃).putLog log) := onLedger_eq_ok.mpr ⟨L₃, hpost, rfl⟩
  obtain ⟨s', hrun, heconomy, hlog'⟩ : ∃ s',
      originateInterbank ctx lenderId borrowerId cents tick s = .ok [event] s' ∧
      s'.economy = { s.economy with
        ledger := L₃
        loans := s.economy.loans.put (loanIdOf "ib" tick (originatedAt tick s.economy))
          (interbankLoan (loanIdOf "ib" tick (originatedAt tick s.economy)) lenderId borrowerId cents
            (s.economy.policyRateBp + ctx.settings.banking.interbankSpreadBp)
            ctx.settings.clock.ticksPerSimDay tick receivable payable) } ∧
      s'.log.runId = s.log.runId := by
    unfold originateInterbank
    rw [bind_of_ok (economyNow_eq_ok.mpr ⟨rfl, rfl⟩),
      bind_of_ok (liftE_eq_ok.mpr ⟨mint_loan hib hready.tick_nonneg _, rfl⟩),
      bind_of_ok (onLedger_eq_ok.mpr ⟨L₁, h₁, rfl⟩),
      bind_of_ok (onLedger_eq_ok.mpr ⟨L₂, h₂, rfl⟩)]
    dsimp only
    rw [bind_of_ok hemit, bind_of_ok (liftE_eq_ok.mpr ⟨bankRow_eq hlender, rfl⟩),
      bind_of_ok (liftE_eq_ok.mpr ⟨bankRow_eq hborrower, rfl⟩),
      bind_of_ok hposted, bind_of_ok (modifyEconomy_eq_ok (u := ()).mpr rfl)]
    exact ⟨_, rfl, rfl, hlog⟩
  exact ⟨[event], s', hrun, loan_made hready hib hopened rfl rfl (Ledger.post_eq_ok hpost) heconomy
    hlog'⟩

omit [Uuid5] in
theorem issuance_text {a : AccountId} (hcode : a.code = .iss) (howner : a.ownerId = "bk_cb") :
    a.text = issuanceText := by
  obtain ⟨b, hb⟩ : ∃ b, accountId .iss "bk_cb" none none = .ok b := ⟨_, rfl⟩
  obtain ⟨hbc, hbo, hbb, hbr⟩ := accountId_eq_ok hb
  have hbank : a.bankId = none := by
    have := a.bank_iff
    rw [hcode] at this
    exact Option.not_isSome_iff_eq_none.mp (by rw [this]; decide)
  have href : a.ref = none := by
    have := a.ref_iff
    rw [hcode] at this
    exact Option.not_isSome_iff_eq_none.mp (by rw [this]; decide)
  have heq : a = b := AccountId.ext (hcode.trans hbc.symm) (howner.trans hbo.symm)
    (hbank.trans hbb.symm) (href.trans hbr.symm)
  have htext : b.text = issuanceText := by
    have hself := hb
    rw [show accountId .iss "bk_cb" none none = .ok ⟨.iss, "bk_cb", none, none, by decide, by simp,
      by simp, rfl, rfl⟩ from rfl] at hself
    cases hself
    rfl
  rw [heq, htext]

theorem discountWindow_returns (hready : Ready tick s) {bankId : String} {bank : BankState}
    (hbank : s.economy.banks.get? bankId = some bank) (hb : Commercial bank) (hcents : 0 < cents) :
    ∃ events s' issuance, discountWindow ctx bankId cents tick s = .ok events s' ∧
      issuance.code = .iss ∧
      LoanMade "bk_cb" bankId cents tick (loanMoves bank.reserveAccountId issuance (1 * cents))
        s s' := by
  have hok := hready.banks bankId bank hbank hb
  have hname : GoodName bankId := hok.reserve.2 ▸ bank.reserveAccountId.owner_ok
  have hdw : "dw" ∈ loanStems := by decide
  obtain ⟨receivable, payable, L₁, L₂, h₁, h₂, hopened⟩ :=
    @loan_opens tick "dw" "bk_cb" "central_bank" bankId s hready hdw (by decide) hname
  obtain ⟨r, hr, hopen, hpos⟩ := hok.reserve_row
  -- the issuance account is found among those of the central bank
  obtain ⟨issuance, hfind⟩ : ∃ issuance,
      (L₂.accountsOf "bk_cb").find? (fun a => a.code = .iss) = some issuance := by
    obtain ⟨a, ra, hcode, howner, hra, -, -⟩ := hready.issuance
    refine Option.isSome_iff_exists.mp ?_
    rw [List.find?_isSome]
    refine ⟨a, mem_accountsOf.mpr ⟨howner, ?_⟩, by simpa using hcode⟩
    rw [hopened.rest a, hra]
    · rfl
    · rintro rfl
      rw [hopened.receivable_code] at hcode
      cases hcode
    · rintro rfl
      rw [hopened.payable_code] at hcode
      cases hcode
  have hicode : issuance.code = .iss := by simpa using List.find?_some hfind
  have hiowner : issuance.ownerId = "bk_cb" :=
    (mem_accountsOf.mp (List.mem_of_find?_eq_some hfind)).1
  obtain ⟨a, ri, hacode, haowner, hri, hiopen, hineg⟩ := hready.issuance
  have hsame : a = issuance := AccountId.text_injective
    ((issuance_text hacode haowner).trans (issuance_text hicode hiowner).symm)
  rw [hsame] at hri
  have hxy : bank.reserveAccountId ≠ issuance := by
    intro h
    rw [← h, hok.reserve.1] at hicode
    cases hicode
  have hx : Takes s.books true bank.reserveAccountId (1 * cents) := by
    refine ⟨by rw [hok.reserve.1]; decide, fun _ => rfl, r, hr, hopen, fun _ => by omega, ?_⟩
    intro h
    rw [hok.reserve.1] at h
    cases h
  have hy : Takes s.books true issuance (-(1 * cents)) := by
    refine ⟨by rw [hicode]; decide, fun _ => rfl, ri, hri, hiopen, ?_, fun _ => by omega⟩
    intro h
    rw [hicode] at h
    cases h
  obtain ⟨expected, L₂', hnext, hexpected, haccounts, hrunId, hordinal⟩ : ∃ expected L₂',
      Ledger.nextTxnId tick L₂ = .ok expected L₂' ∧
      expected = Uuid5.uuid5 L₂.runId (txnName tick (L₂.ordinalByTick.getD tick 0)) ∧
      L₂'.accounts = L₂.accounts ∧ L₂'.runId = L₂.runId ∧
      L₂'.ordinalByTick.getD tick 0 = L₂.ordinalByTick.getD tick 0 := by
    refine ⟨_, _, rfl, rfl, rfl, rfl, ?_⟩
    show (L₂.ordinalByTick.put tick _).getD tick 0 = _
    unfold Dict.getD
    rw [Dict.get?_put_self, Option.getD_some]
  have hopened' : LoanOpened tick (loanIdOf "dw" tick (originatedAt tick s.economy)) "bk_cb"
      "central_bank" bankId s.books L₂' receivable payable := by
    refine ⟨hopened.receivable_code, hopened.payable_code, hopened.receivable_ref,
      hopened.payable_ref, hrunId.trans hopened.runId_eq, ?_, ?_, ?_, ?_⟩
    · intro hpol a r hr
      rw [haccounts] at hr
      exact hopened.pol hpol a r hr
    · rw [← hopened.book_eq]
      unfold book
      rw [haccounts]
    · rw [haccounts]
      exact hopened.fresh
    · rw [haccounts]
      exact hopened.rest
  obtain ⟨issued, log, hemit, hevent, hlog⟩ : ∃ issued log, emit tick .moneyIssued
      [("amount_cents", .int cents), ("recipient_account_id", .str bank.reserveAccountId.text),
        ("instrument", .str "reserves"), ("purpose", .str "discount_window"),
        ("txn_id", .str expected)]
      none [bankId] (((s.putBooks L₁).putBooks L₂).putBooks L₂')
        = .ok issued ((s.putBooks L₂').putLog log) ∧
      (issued.runId = s.log.runId ∧ issued.tick = tick) ∧ log.runId = s.log.runId :=
    ⟨_, _, rfl, ⟨rfl, rfl⟩, rfl⟩
  have hacceptable := loanLegs_acceptable hopened' hready.pol hcents (.inl rfl)
    (by decide : "issuance" ∈ reasons) hxy hx hy
    (⟨hevent.1.trans hready.run_eq, hevent.2⟩ : issued.runId = s.books.runId ∧ issued.tick = tick)
  obtain ⟨txn, L₃, hpost⟩ := post_returns hacceptable
  have hposted := Ledger.post_eq_ok hpost
  have htxn : txn = expected := by
    rw [hposted.txn_eq, hexpected, hrunId, hordinal]
  have hissue : issueBaseMoney
      [leg bank.reserveAccountId 1 cents "issuance", leg issuance (-1) cents "issuance",
        leg receivable 1 cents "issuance", leg payable (-1) cents "issuance"] tick issued L₂'
      = .ok txn L₃ := by
    have hother : ∀ a : AccountId, a.code ≠ .iss → a.text ≠ issuanceText := by
      intro a ha h
      have := AccountId.text_injective (h.trans (issuance_text hicode hiowner).symm)
      rw [this] at ha
      exact ha hicode
    have hone : ([leg bank.reserveAccountId 1 cents "issuance",
        leg issuance (-1) cents "issuance", leg receivable 1 cents "issuance",
        leg payable (-1) cents "issuance"].filter
          fun leg => leg.accountId = issuanceText).length = 1 := by
      simp [leg, issuance_text hicode hiowner,
        hother bank.reserveAccountId (by rw [hok.reserve.1]; decide),
        hother receivable (by rw [hopened.receivable_code]; decide),
        hother payable (by rw [hopened.payable_code]; decide)]
    unfold issueBaseMoney
    rw [bind_of_ok (a := ()) (require_eq_ok.mpr ⟨hone, rfl⟩)]
    exact hpost
  have hissued : onLedger (issueBaseMoney
      [leg bank.reserveAccountId 1 cents "issuance", leg issuance (-1) cents "issuance",
        leg receivable 1 cents "issuance", leg payable (-1) cents "issuance"] tick issued)
      ((s.putBooks L₂').putLog log) = .ok txn ((s.putBooks L₃).putLog log) :=
    onLedger_eq_ok.mpr ⟨L₃, hissue, rfl⟩
  obtain ⟨events, s', hrun, heconomy, hlog'⟩ : ∃ events s',
      discountWindow ctx bankId cents tick s = .ok events s' ∧
      s'.economy = { s.economy with
        ledger := L₃
        loans := s.economy.loans.put (loanIdOf "dw" tick (originatedAt tick s.economy))
          (interbankLoan (loanIdOf "dw" tick (originatedAt tick s.economy)) "bk_cb" bankId cents
            (s.economy.policyRateBp + ctx.settings.banking.discountPenaltyBp)
            (30 * ctx.settings.clock.ticksPerSimDay) tick receivable payable) } ∧
      s'.log.runId = s.log.runId := by
    unfold discountWindow
    rw [if_neg (by omega), bind_of_ok (economyNow_eq_ok.mpr ⟨rfl, rfl⟩),
      bind_of_ok (liftE_eq_ok.mpr ⟨mint_loan hdw hready.tick_nonneg _, rfl⟩),
      bind_of_ok (onLedger_eq_ok.mpr ⟨L₁, h₁, rfl⟩),
      bind_of_ok (onLedger_eq_ok.mpr ⟨L₂, h₂, rfl⟩),
      bind_of_ok (ledgerNow_eq_ok.mpr ⟨rfl, rfl⟩), books_putBooks,
      bind_of_ok (orRaise_eq_ok.mpr ⟨hfind, rfl⟩)]
    have hcounted : Sim.nextTxnId tick ((s.putBooks L₁).putBooks L₂)
        = .ok expected (((s.putBooks L₁).putBooks L₂).putBooks L₂') :=
      onLedger_eq_ok.mpr ⟨L₂', hnext, rfl⟩
    dsimp only
    rw [bind_of_ok hcounted, bind_of_ok (liftE_eq_ok.mpr ⟨bankRow_eq hbank, rfl⟩),
      bind_of_ok hemit, bind_of_ok hissued, bind_of_ok (a := ()) (require_eq_ok.mpr ⟨htxn, rfl⟩),
      bind_of_ok (modifyEconomy_eq_ok (u := ()).mpr rfl)]
    exact ⟨_, _, rfl, rfl, hlog⟩
  exact ⟨events, s', issuance, hrun, hicode,
    loan_made hready hdw hopened haccounts hrunId hposted heconomy hlog'⟩

end Loans

end Polis.Economy.Central
