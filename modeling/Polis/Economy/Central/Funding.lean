/-
  Polis.Economy.Central.Funding — the funding loop of `settle_banks`.

  The loop is taken apart into the loans it makes.  What a loan may do to a
  bank that holds what it must is little: it can lend what it does not need,
  and it can borrow.  So a bank funded once stays funded, whatever the order
  of the borrowers and of their lenders.

  Main results:
    * `borrow_spec` — the loop over the lenders leaves them what they must
      hold, and the borrower short of no more than what is reported missing.
    * `fundBank_spec` — with the advance the borrower holds what it must.
    * `banks_funded` — the whole loop returns, and what it leaves.
-/
import Polis.Economy.Central.Lending

namespace Polis.Economy.Central

open Lib Lib.Effect Lib.DoubleEntry Ledger Sim

/-! ## What the loop does -/

/-- A loan between banks, with the economy it was made in and the one it
left. -/
structure Lending where
  lenderId : String
  borrowerId : String
  cents : Int
  before : EconomyState
  after : EconomyState

/-- A run made of interbank loans and advances, and of refusals that leave the
economy as it is. -/
inductive Funding [Uuid5] (ctx : Ctx) (tick : Int) :
    Sim → List Lending → List Int → Sim → Prop where
  | done (s : Sim) : Funding ctx tick s [] [] s
  | refused {s s₁ s' : Sim} {ls : List Lending} {advances : List Int}
      (h : s₁.economy = s.economy) (hrest : Funding ctx tick s₁ ls advances s') :
      Funding ctx tick s ls advances s'
  | lent {s s₁ s' : Sim} {ls : List Lending} {advances : List Int} (lenderId borrowerId : String)
      (cents : Int) {events : List Event}
      (h : originateInterbank ctx lenderId borrowerId cents tick s = .ok events s₁)
      (hrest : Funding ctx tick s₁ ls advances s') :
      Funding ctx tick s (⟨lenderId, borrowerId, cents, s.economy, s₁.economy⟩ :: ls) advances s'
  | advanced {s s₁ s' : Sim} {ls : List Lending} {advances : List Int} (bankId : String)
      (cents : Int) {events : List Event}
      (h : discountWindow ctx bankId cents tick s = .ok events s₁)
      (hrest : Funding ctx tick s₁ ls advances s') :
      Funding ctx tick s ls (cents :: advances) s'

theorem Funding.trans [Uuid5] {ctx : Ctx} {tick : Int} {s s₁ s' : Sim} {ls ls' : List Lending}
    {advances advances' : List Int} (h : Funding ctx tick s ls advances s₁)
    (h' : Funding ctx tick s₁ ls' advances' s') :
    Funding ctx tick s (ls ++ ls') (advances ++ advances') s' := by
  induction h with
  | done s => exact h'
  | refused h _ ih => exact .refused h (ih h')
  | lent lenderId borrowerId cents h _ ih => exact .lent lenderId borrowerId cents h (ih h')
  | advanced bankId cents h _ ih => exact .advanced bankId cents h (ih h')

/-- The two limits of an interbank loan, as they stood when it was made. -/
def Lending.Within (ctx : Ctx) (l : Lending) : Prop :=
  ctx.settings.banking.interbankMinRatioBp ≤ capitalRatioBp ctx l.borrowerId l.before ∧
    exposureCents l.lenderId l.borrowerId l.after ≤ concentrationCap ctx l.lenderId l.before

/-- A bank holds what it must. -/
def Covered (e : EconomyState) (bankId : String) : Prop :=
  ∃ bank need reserves, e.banks.get? bankId = some bank ∧ requirement bank e = .ok need ∧
    reservesCents bankId e = .ok reserves ∧ need ≤ reserves

/-- Base money: cash, the banks' reserves and the treasury's account at the
central bank. -/
def baseMoneyCents (L : Ledger) : Int := L.accounts.total fun a r => baseMoneyWeight a * r.balanceCents

/-! ## Reserves -/

/-- What a bank holds. -/
noncomputable def held (s : Sim) (bank : BankState) : Int := s.books.book bank.reserveAccountId

/-- The bank holds what it must. -/
def Above (s : Sim) (bank : BankState) : Prop := mustHold s.books bank ≤ held s bank

section Loan

variable {lenderId borrowerId : String} {cents tick n : Int} {x y : AccountId} {s s' : Sim}

theorem LoanMade.book_at (h : LoanMade lenderId borrowerId cents tick (loanMoves x y n) s s')
    {a : AccountId} (hr : a.code ≠ .lnr) (hp : a.code ≠ .lnp) :
    s'.books.book a = s.books.book a + (if x = a then n else 0) - (if y = a then n else 0) := by
  obtain ⟨receivable, payable, hrcode, hpcode, hbook⟩ := h.book_eq
  have hra : receivable ≠ a := by
    rintro rfl
    exact hr hrcode
  have hpa : payable ≠ a := by
    rintro rfl
    exact hp hpcode
  rw [hbook, Finsupp.add_apply]
  simp only [loanMoves, List.cons_append, List.nil_append, posting_cons, posting_nil,
    Finsupp.add_apply, Finsupp.single_apply, Finsupp.coe_zero, Pi.zero_apply, if_neg hra,
    if_neg hpa]
  split_ifs <;> omega

theorem LoanMade.base_eq (h : LoanMade lenderId borrowerId cents tick (loanMoves x y n) s s') :
    weigh baseMoneyWeight s'.books.book
      = weigh baseMoneyWeight s.books.book + (baseMoneyWeight x - baseMoneyWeight y) * n := by
  obtain ⟨receivable, payable, hrcode, hpcode, hbook⟩ := h.book_eq
  have hr : baseMoneyWeight receivable = 0 := by
    unfold baseMoneyWeight
    simp [hrcode]
  have hp : baseMoneyWeight payable = 0 := by
    unfold baseMoneyWeight
    simp [hpcode]
  rw [hbook, weigh_add_posting]
  simp only [loanMoves, List.cons_append, List.nil_append, net_cons, net_nil, hr, hp]
  ring

theorem baseMoneyWeight_reserve {L : Ledger} {id : String} {bank : BankState}
    (hok : BankOk L id bank) : baseMoneyWeight bank.reserveAccountId = 1 := by
  unfold baseMoneyWeight
  rw [if_pos (.inr ⟨hok.reserve.1, by rw [hok.reserve.2]; exact hok.not_central⟩)]

theorem reserve_ne {L : Ledger} {id id' : String} {bank bank' : BankState} (hok : BankOk L id bank)
    (hok' : BankOk L id' bank') (h : id ≠ id') : bank.reserveAccountId ≠ bank'.reserveAccountId := by
  intro heq
  apply h
  rw [← hok.reserve.2, ← hok'.reserve.2, heq]

end Loan

/-! ## Progress of the loop -/

/-- What a part of the loop keeps and adds. -/
structure Progress [Uuid5] (ctx : Ctx) (tick : Int) (s s' : Sim) (ls : List Lending)
    (advances : List Int) : Prop where
  funding : Funding ctx tick s ls advances s'
  ready : Ready tick s'
  banks_eq : s'.economy.banks = s.economy.banks
  owed : ∀ a : AccountId, a.code = .dpl → s'.books.book a = s.books.book a
  kept : ∀ id bank, s.economy.banks.get? id = some bank → Commercial bank → Above s bank →
    Above s' bank
  lent : ∀ l ∈ ls, l.Within ctx ∧ ∃ bank, s.economy.banks.get? l.lenderId = some bank ∧
    Commercial bank ∧ Above s' bank
  base : weigh baseMoneyWeight s'.books.book = weigh baseMoneyWeight s.books.book + advances.sum

section Progress

variable [Uuid5] {ctx : Ctx} {tick : Int} {s s₁ s' : Sim} {ls ls' : List Lending}
  {advances advances' : List Int}

theorem Progress.refl (h : Ready tick s) : Progress ctx tick s s [] [] :=
  ⟨.done s, h, rfl, fun _ _ => rfl, fun _ _ _ _ h => h, by simp, by simp⟩

theorem Progress.trans (h : Progress ctx tick s s₁ ls advances)
    (h' : Progress ctx tick s₁ s' ls' advances') :
    Progress ctx tick s s' (ls ++ ls') (advances ++ advances') := by
  refine ⟨h.funding.trans h'.funding, h'.ready, h'.banks_eq.trans h.banks_eq,
    fun a ha => (h'.owed a ha).trans (h.owed a ha), ?_, ?_, ?_⟩
  · intro id bank hbank hc ha
    exact h'.kept id bank (by rw [h.banks_eq]; exact hbank) hc (h.kept id bank hbank hc ha)
  · intro l hl
    rcases List.mem_append.mp hl with hl | hl
    · obtain ⟨hw, bank, hbank, hc, ha⟩ := h.lent l hl
      exact ⟨hw, bank, hbank, hc, h'.kept l.lenderId bank (by rw [h.banks_eq]; exact hbank) hc ha⟩
    · obtain ⟨hw, bank, hbank, hrest⟩ := h'.lent l hl
      exact ⟨hw, bank, by rw [← h.banks_eq]; exact hbank, hrest⟩
  · rw [h'.base, h.base, List.sum_append]
    omega

theorem Progress.mustHold_eq (h : Progress ctx tick s s' ls advances) {id : String}
    {bank : BankState} {L : Ledger} (hok : BankOk L id bank) :
    mustHold s'.books bank = mustHold s.books bank := by
  unfold mustHold
  rw [h.owed _ hok.liability]

theorem Progress.refused (hready : Ready tick s) {log : Log} (hlog : log.runId = s.log.runId) :
    Progress ctx tick s (s.putLog log) [] [] := by
  refine ⟨.refused (economy_putLog s log) (.done (s.putLog log)),
    ⟨hready.tick_nonneg, hlog.trans hready.run_eq, hready.pol, hready.banks, hready.issuance,
      hready.unused⟩,
    rfl, fun _ _ => rfl, fun _ _ _ _ h => h, by simp, ?_⟩
  rw [List.sum_nil, add_zero]
  rfl

theorem Progress.lending (hready : Ready tick s) {lenderId borrowerId : String}
    {lender borrower : BankState} (hlender : s.economy.banks.get? lenderId = some lender)
    (hl : Commercial lender) (hborrower : s.economy.banks.get? borrowerId = some borrower)
    (hb : Commercial borrower) (hne : lenderId ≠ borrowerId) {cents : Int} (hcents : 0 < cents)
    (hspare : mustHold s.books lender + cents ≤ held s lender)
    (hratio : ctx.settings.banking.interbankMinRatioBp ≤ capitalRatioBp ctx borrowerId s.economy)
    (hcap : exposureCents lenderId borrowerId s.economy + cents
      ≤ concentrationCap ctx lenderId s.economy) :
    ∃ events s' l, originateInterbank ctx lenderId borrowerId cents tick s = .ok events s' ∧
      Progress ctx tick s s' [l] [] ∧ held s' borrower = held s borrower + cents ∧
      ∀ id bank, s.economy.banks.get? id = some bank → Commercial bank → id ≠ lenderId →
        id ≠ borrowerId → held s' bank = held s bank := by
  have hlok := hready.banks lenderId lender hlender hl
  have hbok := hready.banks borrowerId borrower hborrower hb
  have hneed := mustHold_nonneg hlok
  obtain ⟨events, s', hrun, hmade⟩ := originateInterbank_returns ctx hready hlender hl hborrower hb
    hne hcents (by show cents ≤ held s lender; omega)
  rw [show (-1 * cents) = -cents by omega] at hmade
  have hres : ∀ id bank, s.economy.banks.get? id = some bank → Commercial bank →
      held s' bank = held s bank
        + (if lender.reserveAccountId = bank.reserveAccountId then -cents else 0)
        - (if borrower.reserveAccountId = bank.reserveAccountId then -cents else 0) := by
    intro id bank hbank hc
    have hok := hready.banks id bank hbank hc
    exact hmade.book_at (by rw [hok.reserve.1]; decide) (by rw [hok.reserve.1]; decide)
  have hheldL : held s' lender = held s lender - cents := by
    rw [hres lenderId lender hlender hl, if_pos rfl, if_neg (reserve_ne hbok hlok hne.symm)]
    omega
  have hheldB : held s' borrower = held s borrower + cents := by
    rw [hres borrowerId borrower hborrower hb, if_neg (reserve_ne hlok hbok hne), if_pos rfl]
    omega
  have hrest : ∀ id bank, s.economy.banks.get? id = some bank → Commercial bank → id ≠ lenderId →
      id ≠ borrowerId → held s' bank = held s bank := by
    intro id bank hbank hc h₁ h₂
    have hok := hready.banks id bank hbank hc
    rw [hres id bank hbank hc, if_neg (reserve_ne hlok hok h₁.symm),
      if_neg (reserve_ne hbok hok h₂.symm)]
    omega
  have howed : ∀ a : AccountId, a.code = .dpl → s'.books.book a = s.books.book a := by
    intro a ha
    have hapart : ∀ b : BankState, b.reserveAccountId.code = .res → b.reserveAccountId ≠ a := by
      rintro b hb rfl
      rw [hb] at ha
      cases ha
    rw [hmade.book_at (by rw [ha]; decide) (by rw [ha]; decide),
      if_neg (hapart lender hlok.reserve.1), if_neg (hapart borrower hbok.reserve.1)]
    omega
  have hmust : ∀ id bank, s.economy.banks.get? id = some bank → Commercial bank →
      mustHold s'.books bank = mustHold s.books bank := by
    intro id bank hbank hc
    unfold mustHold
    rw [howed _ (hready.banks id bank hbank hc).liability]
  have habove : Above s' lender := by
    unfold Above
    rw [hmust lenderId lender hlender hl, hheldL]
    omega
  refine ⟨events, s', ⟨lenderId, borrowerId, cents, s.economy, s'.economy⟩, hrun,
    ⟨.lent lenderId borrowerId cents hrun (.done s'), hmade.ready, hmade.banks_eq, howed, ?_, ?_,
      ?_⟩, hheldB, hrest⟩
  · intro id bank hbank hc ha
    by_cases h₁ : id = lenderId
    · subst h₁
      rw [hlender] at hbank
      cases hbank
      exact habove
    unfold Above at ha ⊢
    rw [hmust id bank hbank hc]
    by_cases h₂ : id = borrowerId
    · subst h₂
      rw [hborrower] at hbank
      cases hbank
      omega
    · rw [hrest id bank hbank hc h₁ h₂]
      exact ha
  · intro l hl₁
    rw [List.mem_singleton] at hl₁
    subst hl₁
    refine ⟨⟨hratio, ?_⟩, lender, hlender, hl, habove⟩
    show exposureCents lenderId borrowerId s'.economy ≤ _
    rw [hmade.exposure, if_pos ⟨rfl, rfl⟩]
    exact hcap
  · rw [hmade.base_eq, baseMoneyWeight_reserve hlok, baseMoneyWeight_reserve hbok]
    simp

theorem Progress.advance (hready : Ready tick s) {bankId : String} {bank : BankState}
    (hbank : s.economy.banks.get? bankId = some bank) (hb : Commercial bank) {cents : Int}
    (hcents : 0 < cents) :
    ∃ events s', discountWindow ctx bankId cents tick s = .ok events s' ∧
      Progress ctx tick s s' [] [cents] ∧ held s' bank = held s bank + cents := by
  have hok := hready.banks bankId bank hbank hb
  obtain ⟨events, s', issuance, hrun, hiss, hmade⟩ :=
    discountWindow_returns ctx hready hbank hb hcents
  rw [one_mul] at hmade
  have hapart : ∀ a : AccountId, a.code ≠ .iss → issuance ≠ a := by
    rintro a ha rfl
    exact ha hiss
  have hres : ∀ id b, s.economy.banks.get? id = some b → Commercial b → held s' b = held s b
      + (if bank.reserveAccountId = b.reserveAccountId then cents else 0) := by
    intro id b hb₁ hc
    have hok₁ := hready.banks id b hb₁ hc
    have hbook := hmade.book_at (a := b.reserveAccountId) (by rw [hok₁.reserve.1]; decide)
      (by rw [hok₁.reserve.1]; decide)
    rw [if_neg (hapart _ (by rw [hok₁.reserve.1]; decide))] at hbook
    show s'.books.book b.reserveAccountId = _
    rw [hbook]
    show _ = s.books.book b.reserveAccountId + _
    omega
  have howed : ∀ a : AccountId, a.code = .dpl → s'.books.book a = s.books.book a := by
    intro a ha
    have hne : bank.reserveAccountId ≠ a := by
      rintro rfl
      rw [hok.reserve.1] at ha
      cases ha
    rw [hmade.book_at (by rw [ha]; decide) (by rw [ha]; decide), if_neg hne,
      if_neg (hapart a (by rw [ha]; decide))]
    omega
  refine ⟨events, s', hrun, ⟨.advanced bankId cents hrun (.done s'), hmade.ready, hmade.banks_eq,
    howed, ?_, by simp, ?_⟩, ?_⟩
  · intro id b hb₁ hc ha
    unfold Above mustHold at ha ⊢
    rw [howed _ (hready.banks id b hb₁ hc).liability, hres id b hb₁ hc]
    split_ifs <;> omega
  · have hweight : baseMoneyWeight issuance = 0 := by
      unfold baseMoneyWeight
      simp [hiss]
    rw [hmade.base_eq, baseMoneyWeight_reserve hok, hweight]
    simp
  · rw [hres bankId bank hbank hb, if_pos rfl]

end Progress

/-! ## Reading the banks -/

section Banks

variable {tick : Int} {s : Sim} {required : Dict String Int} {e : EconomyState}
  {banks : List BankState}

theorem mem_commercial {bank : BankState} : bank ∈ commercial e ↔
    ∃ id, e.banks.get? id = some bank ∧ Commercial bank := by
  unfold commercial Commercial
  rw [List.mem_filter, Dict.mem_values_iff]
  simp

theorem commercial_nodup (h : ∀ id bank, e.banks.get? id = some bank → Commercial bank →
    bank.bankId = id) : ((commercial e).map BankState.bankId).Nodup := by
  have hkeys := e.banks.nodup
  have hrows : ∀ entry ∈ e.banks.entries, Commercial entry.2 → entry.2.bankId = entry.1 :=
    fun entry hentry => h entry.1 entry.2 (Dict.mem_entries_iff.mp hentry)
  unfold commercial Dict.values
  revert hkeys hrows
  induction e.banks.entries with
  | nil => simp
  | cons entry entries ih =>
    intro hkeys hrows
    rw [List.map_cons, List.nodup_cons] at hkeys
    have hrest := ih hkeys.2 fun x hx => hrows x (List.mem_cons_of_mem _ hx)
    rw [List.map_cons, List.filter_cons]
    split_ifs with hc
    · have hcommercial : Commercial entry.2 := by
        unfold Commercial
        simpa using hc
      rw [List.map_cons, List.nodup_cons]
      refine ⟨?_, hrest⟩
      rw [hrows entry List.mem_cons_self hcommercial]
      intro hmem
      obtain ⟨bank, hbank, hid⟩ := List.mem_map.mp hmem
      obtain ⟨hbank, hc'⟩ := List.mem_filter.mp hbank
      obtain ⟨entry', hentry', rfl⟩ := List.mem_map.mp hbank
      have hcommercial' : Commercial entry'.2 := by
        unfold Commercial
        simpa using hc'
      rw [hrows entry' (List.mem_cons_of_mem _ hentry') hcommercial'] at hid
      exact hkeys.1 (hid ▸ List.mem_map_of_mem hentry')
    · exact hrest

theorem requirements_returns (N : BankState → Int)
    (h : ∀ bank ∈ banks, requirement bank e = .ok (N bank))
    (hn : (banks.map BankState.bankId).Nodup) (d : Dict String Int) :
    ∃ required, requirements e banks d = .ok required ∧
      (∀ bank ∈ banks, required.get? bank.bankId = some (N bank)) ∧
      ∀ id, id ∉ banks.map BankState.bankId → required.get? id = d.get? id := by
  induction banks generalizing d with
  | nil => exact ⟨d, rfl, by simp, fun _ _ => rfl⟩
  | cons bank banks ih =>
    rw [List.map_cons, List.nodup_cons] at hn
    obtain ⟨required, hrun, hin, hout⟩ := ih (fun b hb => h b (List.mem_cons_of_mem _ hb)) hn.2
      (d.put bank.bankId (N bank))
    refine ⟨required, ?_, ?_, ?_⟩
    · unfold requirements
      rw [h bank List.mem_cons_self]
      exact hrun
    · intro b hb
      rcases List.mem_cons.mp hb with rfl | hb
      · rw [hout b.bankId hn.1, Dict.get?_put_self]
      · exact hin b hb
    · intro id hid
      rw [List.map_cons, List.mem_cons, not_or] at hid
      rw [hout id hid.2, Dict.get?_put_of_ne hid.1]

theorem shortsOf_eq (N H : BankState → Int)
    (hN : ∀ bank ∈ banks, requiredOf required bank = .ok (N bank))
    (hH : ∀ bank ∈ banks, reservesCents bank.bankId e = .ok (H bank)) :
    shortsOf required e banks
      = .ok ((banks.filter fun bank => H bank < N bank).map fun bank => (bank, N bank - H bank)) := by
  induction banks with
  | nil => rfl
  | cons bank banks ih =>
    unfold shortsOf
    rw [hN bank List.mem_cons_self, hH bank List.mem_cons_self,
      ih (fun b hb => hN b (List.mem_cons_of_mem _ hb)) fun b hb => hH b (List.mem_cons_of_mem _ hb)]
    show Except.ok (if H bank < N bank then _ else _) = _
    rw [List.filter_cons]
    by_cases hlt : H bank < N bank
    · simp [hlt]
    · simp [hlt]

theorem longsOf_eq (N H : BankState → Int) (borrowerId : String)
    (hN : ∀ bank ∈ banks, requiredOf required bank = .ok (N bank))
    (hH : ∀ bank ∈ banks, reservesCents bank.bankId e = .ok (H bank)) :
    longsOf required borrowerId e banks
      = .ok ((banks.filter fun bank => bank.bankId ≠ borrowerId ∧ N bank < H bank).map
          fun bank => (bank, H bank - N bank)) := by
  induction banks with
  | nil => rfl
  | cons bank banks ih =>
    have hrest := ih (fun b hb => hN b (List.mem_cons_of_mem _ hb)) fun b hb =>
      hH b (List.mem_cons_of_mem _ hb)
    unfold longsOf
    rw [List.filter_cons]
    by_cases hid : bank.bankId = borrowerId
    · rw [if_pos hid, hrest]
      simp [hid]
    · rw [if_neg hid, hN bank List.mem_cons_self, hH bank List.mem_cons_self, hrest]
      show Except.ok (if N bank < H bank then _ else _) = _
      by_cases hlt : N bank < H bank
      · simp [hid, hlt]
      · simp [hid, hlt]

end Banks

/-! ## The loop over the lenders -/

section Loop

variable [Uuid5] (ctx : Ctx) {tick : Int} {s : Sim} {borrower : BankState}

/-- A lender as the loop finds it: another commercial bank, and what it can
spare now. -/
def CanSpare (s : Sim) (borrower : BankState) (long : BankState × Int) : Prop :=
  s.economy.banks.get? long.1.bankId = some long.1 ∧ Commercial long.1 ∧
    long.1.bankId ≠ borrower.bankId ∧ 0 < long.2 ∧ long.2 = held s long.1 - mustHold s.books long.1

theorem borrow_spec {longs : List (BankState × Int)} {shortfall : Int} (hready : Ready tick s)
    (hborrower : s.economy.banks.get? borrower.bankId = some borrower) (hb : Commercial borrower)
    (hlongs : ∀ long ∈ longs, CanSpare s borrower long)
    (hdistinct : (longs.map fun long => long.1.bankId).Nodup) (hshort : 0 ≤ shortfall)
    (hgap : mustHold s.books borrower ≤ held s borrower + shortfall) :
    ∃ events missing s' ls, borrow ctx borrower tick longs shortfall s = .ok (events, missing) s' ∧
      Progress ctx tick s s' ls [] ∧ 0 ≤ missing ∧
      mustHold s'.books borrower ≤ held s' borrower + missing := by
  induction longs generalizing s shortfall with
  | nil => exact ⟨[], shortfall, s, [], rfl, .refl hready, hshort, hgap⟩
  | cons long longs ih =>
    obtain ⟨lender, excess⟩ := long
    rw [List.map_cons, List.nodup_cons] at hdistinct
    have hrest := fun x hx => hlongs x (List.mem_cons_of_mem _ hx)
    unfold borrow
    by_cases hdone : shortfall ≤ 0
    · rw [if_pos hdone]
      exact ⟨[], shortfall, s, [], rfl, .refl hready, hshort, hgap⟩
    rw [if_neg hdone]
    dsimp only
    rw [bind_of_ok (economyNow_eq_ok.mpr ⟨rfl, rfl⟩)]
    -- a refusal stages an event and goes on to the next lender
    have hskip : ∀ reason, ∃ events missing s' ls,
        (do
          let refused ← refuse borrower lender (min shortfall excess) reason tick
          let rest ← borrow ctx borrower tick longs shortfall
          pure (refused :: rest.1, rest.2) : EngineM (List Event × Int)) s
            = .ok (events, missing) s' ∧
        Progress ctx tick s s' ls [] ∧ 0 ≤ missing ∧
        mustHold s'.books borrower ≤ held s' borrower + missing := by
      intro reason
      obtain ⟨event, log, hemit, hlog⟩ : ∃ event log,
          refuse borrower lender (min shortfall excess) reason tick s = .ok event (s.putLog log) ∧
          log.runId = s.log.runId := ⟨_, _, rfl, rfl⟩
      have hstep : Progress ctx tick s (s.putLog log) [] [] := .refused hready hlog
      obtain ⟨events, missing, s', ls, hrun, hprogress, hleft⟩ :=
        @ih (s.putLog log) shortfall hstep.ready hborrower hrest hdistinct.2 hshort hgap
      refine ⟨event :: events, missing, s', ls, ?_, hstep.trans hprogress, hleft⟩
      rw [bind_of_ok hemit, bind_of_ok hrun]
      rfl
    by_cases hratio : capitalRatioBp ctx borrower.bankId s.economy <
        ctx.settings.banking.interbankMinRatioBp
    · rw [if_pos hratio]
      exact hskip _
    rw [if_neg hratio]
    by_cases hcap : concentrationCap ctx lender.bankId s.economy <
        exposureCents lender.bankId borrower.bankId s.economy + min shortfall excess
    · rw [if_pos hcap]
      exact hskip _
    rw [if_neg hcap]
    obtain ⟨hlender, hl, hne, hpos, hexcess⟩ := hlongs (lender, excess) List.mem_cons_self
    dsimp only at hlender hl hne hpos hexcess
    obtain ⟨lent, s₁, l, hlent, hstep, hheld, hothers⟩ := Progress.lending hready hlender hl
      hborrower hb hne (by omega : 0 < min shortfall excess) (by omega) (not_lt.mp hratio)
      (not_lt.mp hcap)
    have hmust : ∀ bank, s.economy.banks.get? bank.bankId = some bank → Commercial bank →
        mustHold s₁.books bank = mustHold s.books bank :=
      fun bank hbank hc => hstep.mustHold_eq (hready.banks _ bank hbank hc)
    -- the lenders still to be asked have lent nothing yet
    have hspare : ∀ x ∈ longs, CanSpare s₁ borrower x := by
      intro x hx
      obtain ⟨hbank, hc, hnb, hxpos, hxeq⟩ := hrest x hx
      have hnl : x.1.bankId ≠ lender.bankId := by
        intro heq
        exact hdistinct.1 (heq ▸ List.mem_map_of_mem hx)
      refine ⟨by rw [hstep.banks_eq]; exact hbank, hc, hnb, hxpos, ?_⟩
      rw [hothers x.1.bankId x.1 hbank hc hnl hnb, hmust x.1 hbank hc]
      exact hxeq
    obtain ⟨events, missing, s', ls, hrun, hprogress, hleft⟩ :=
      @ih s₁ (shortfall - min shortfall excess) hstep.ready (by rw [hstep.banks_eq]; exact hborrower)
        hspare hdistinct.2 (by omega) (by
          rw [hheld, hmust borrower hborrower hb]
          omega)
    refine ⟨lent ++ events, missing, s', [l] ++ ls, ?_, hstep.trans hprogress, hleft⟩
    rw [bind_of_ok hlent, bind_of_ok hrun]
    rfl

/-! ## The loop over the short banks -/

/-- What the loop over the short banks reads of the banks. -/
structure Settling (banks : List BankState) (required : Dict String Int) (s : Sim) : Prop where
  rows : ∀ bank ∈ banks, s.economy.banks.get? bank.bankId = some bank ∧ Commercial bank
  distinct : (banks.map BankState.bankId).Nodup
  required : ∀ bank ∈ banks, required.get? bank.bankId = some (mustHold s.books bank)

theorem Settling.after {banks : List BankState} {required : Dict String Int} {s' : Sim}
    {ls : List Lending} {advances : List Int} (h : Settling banks required s)
    (hready : Ready tick s) (hstep : Progress ctx tick s s' ls advances) :
    Settling banks required s' := by
  refine ⟨fun bank hbank => ?_, h.distinct, fun bank hbank => ?_⟩
  · rw [hstep.banks_eq]
    exact h.rows bank hbank
  · obtain ⟨hrow, hc⟩ := h.rows bank hbank
    rw [hstep.mustHold_eq (hready.banks _ bank hrow hc)]
    exact h.required bank hbank

omit [Uuid5] in
theorem requiredOf_eq {required : Dict String Int} {bank : BankState} {need : Int}
    (h : required.get? bank.bankId = some need) : requiredOf required bank = .ok need := by
  unfold requiredOf
  rw [h]

theorem fundBank_spec {banks : List BankState} {required : Dict String Int} (hready : Ready tick s)
    (hs : Settling banks required s) (hmem : borrower ∈ banks) :
    ∃ events s' ls advances, fundBank ctx banks required tick borrower s = .ok events s' ∧
      Progress ctx tick s s' ls advances ∧ Above s' borrower := by
  obtain ⟨hrow, hb⟩ := hs.rows borrower hmem
  have hok : ∀ bank ∈ banks, BankOk s.books bank.bankId bank := fun bank hbank =>
    hready.banks _ bank (hs.rows bank hbank).1 (hs.rows bank hbank).2
  have hneed : ∀ bank ∈ banks, requiredOf required bank = .ok (mustHold s.books bank) :=
    fun bank hbank => requiredOf_eq (hs.required bank hbank)
  have hheld : ∀ bank ∈ banks, reservesCents bank.bankId s.economy = .ok (held s bank) :=
    fun bank hbank => reservesCents_eq (hs.rows bank hbank).1 (hok bank hbank)
  set longs := (banks.filter fun bank => bank.bankId ≠ borrower.bankId ∧
    mustHold s.books bank < held s bank).map fun bank => (bank, held s bank - mustHold s.books bank)
    with hlongs
  set lenders := shuffle (ctx.word "banking.interbank" borrower.bankId tick) (sortedBy gapKey longs)
    with hlenders
  have hperm : lenders.Perm longs := (shuffle_perm _ _).trans (sortedBy_perm _ _)
  have hspare : ∀ long ∈ lenders, CanSpare s borrower long := by
    intro long hlong
    obtain ⟨bank, hbank, rfl⟩ := List.mem_map.mp (hperm.mem_iff.mp hlong)
    obtain ⟨hbank, hcond⟩ := List.mem_filter.mp hbank
    have hcond := of_decide_eq_true hcond
    obtain ⟨hbrow, hbc⟩ := hs.rows bank hbank
    exact ⟨hbrow, hbc, hcond.1, by show 0 < held s bank - _; omega, rfl⟩
  have hdistinct : (lenders.map fun long => long.1.bankId).Nodup := by
    refine ((hperm.map _).nodup_iff).mpr ?_
    rw [hlongs, List.map_map]
    exact (List.Nodup.sublist (List.Sublist.map _ List.filter_sublist) hs.distinct)
  obtain ⟨events, missing, s₁, ls, hrun, hprogress, hmissing, hleft⟩ := borrow_spec ctx hready hrow
    hb hspare hdistinct (le_max_left 0 (mustHold s.books borrower - held s borrower)) (by omega)
  have hstart : fundBank ctx banks required tick borrower s = (do
      let advanced ← onlyIf (0 < missing) (discountWindow ctx borrower.bankId missing tick)
      pure (events ++ advanced) : EngineM (List Event)) s₁ := by
    unfold fundBank
    rw [bind_of_ok (economyNow_eq_ok.mpr ⟨rfl, rfl⟩),
      bind_of_ok (liftE_eq_ok.mpr ⟨hneed borrower hmem, rfl⟩),
      bind_of_ok (liftE_eq_ok.mpr ⟨hheld borrower hmem, rfl⟩),
      bind_of_ok (liftE_eq_ok.mpr
        ⟨longsOf_eq (mustHold s.books) (held s) borrower.bankId hneed hheld, rfl⟩)]
    dsimp only
    rw [bind_of_ok hrun]
  rw [hstart]
  have hrow₁ : s₁.economy.banks.get? borrower.bankId = some borrower := by
    rw [hprogress.banks_eq]
    exact hrow
  by_cases hzero : 0 < missing
  · obtain ⟨advanced, s', hadvance, hstep, hgain⟩ :=
      @Progress.advance _ ctx tick s₁ hprogress.ready borrower.bankId borrower hrow₁ hb _ hzero
    refine ⟨events ++ advanced, s', ls ++ [], [] ++ [missing], ?_, hprogress.trans hstep, ?_⟩
    · unfold onlyIf
      rw [if_pos hzero, bind_of_ok hadvance]
      rfl
    · unfold Above
      rw [hstep.mustHold_eq (hprogress.ready.banks _ borrower hrow₁ hb), hgain]
      exact hleft
  · refine ⟨events ++ [], s₁, ls, [], ?_, hprogress, ?_⟩
    · unfold onlyIf
      rw [if_neg hzero]
      rfl
    · unfold Above
      omega

theorem fund_each {banks borrowers : List BankState} {required : Dict String Int}
    (hready : Ready tick s) (hs : Settling banks required s) (hsub : ∀ b ∈ borrowers, b ∈ banks) :
    ∃ events s' ls advances, gather (fundBank ctx banks required tick) borrowers s = .ok events s' ∧
      Progress ctx tick s s' ls advances ∧ ∀ b ∈ borrowers, Above s' b := by
  induction borrowers generalizing s with
  | nil => exact ⟨[], s, [], [], rfl, .refl hready, by simp⟩
  | cons borrower borrowers ih =>
    have hmem := hsub borrower List.mem_cons_self
    obtain ⟨here, s₁, ls, advances, hrun, hstep, habove⟩ := fundBank_spec ctx hready hs hmem
    obtain ⟨rest, s', ls', advances', hrest, hsteps, hall⟩ := ih hstep.ready
      (hs.after ctx hready hstep) fun b hb => hsub b (List.mem_cons_of_mem _ hb)
    refine ⟨here ++ rest, s', ls ++ ls', advances ++ advances',
      gather_cons_eq_ok.mpr ⟨here, s₁, rest, hrun, hrest, rfl⟩, hstep.trans hsteps, ?_⟩
    intro b hb
    rcases List.mem_cons.mp hb with rfl | hb
    · obtain ⟨hrow, hc⟩ := hs.rows b hmem
      exact hsteps.kept b.bankId b (by rw [hstep.banks_eq]; exact hrow) hc habove
    · exact hall b hb

omit [Uuid5] in
theorem covered_of_above {id : String} {bank : BankState} (hready : Ready tick s)
    (hrow : s.economy.banks.get? id = some bank) (hc : Commercial bank) (h : Above s bank) :
    Covered s.economy id := by
  have hok := hready.banks id bank hrow hc
  exact ⟨bank, _, _, hrow, requirement_eq hrow hok, reservesCents_eq hrow hok, h⟩

omit [Uuid5] in
theorem baseMoneyCents_eq (L : Ledger) : baseMoneyCents L = weigh baseMoneyWeight L.book :=
  (weigh_book _ _).symm

/-- **The funding loop funds everyone without starving a lender.**  It returns
from every ready state, whatever words shuffle the lenders, and what it did is
made of interbank loans `lendings` and of `advances` of the central bank.  At
its end each commercial bank in business holds what it must, those that lent
among them; each interbank loan went to a borrower with the capital asked for
and kept within the cap of its lender; base money grew by the advances. -/
theorem banks_funded (hready : Ready tick s) :
    ∃ events s' lendings advances, fundBanks ctx tick s = .ok events s' ∧
      Funding ctx tick s lendings advances s' ∧ s'.economy.banks = s.economy.banks ∧
      (∀ id bank, s'.economy.banks.get? id = some bank → Commercial bank → Covered s'.economy id) ∧
      (∀ l ∈ lendings, l.Within ctx ∧ Covered s'.economy l.lenderId) ∧
      baseMoneyCents s'.books = baseMoneyCents s.books + advances.sum := by
  have hrows : ∀ bank ∈ commercial s.economy,
      s.economy.banks.get? bank.bankId = some bank ∧ Commercial bank := by
    intro bank hbank
    obtain ⟨id, hrow, hc⟩ := mem_commercial.mp hbank
    rw [(hready.banks id bank hrow hc).id_eq]
    exact ⟨hrow, hc⟩
  have hdistinct := commercial_nodup fun id bank hrow hc => (hready.banks id bank hrow hc).id_eq
  have hok : ∀ bank ∈ commercial s.economy, BankOk s.books bank.bankId bank := fun bank hbank =>
    hready.banks _ bank (hrows bank hbank).1 (hrows bank hbank).2
  have hheld : ∀ bank ∈ commercial s.economy,
      reservesCents bank.bankId s.economy = .ok (held s bank) :=
    fun bank hbank => reservesCents_eq (hrows bank hbank).1 (hok bank hbank)
  obtain ⟨required, hrequired, hin, -⟩ := requirements_returns (mustHold s.books)
    (fun bank hbank => requirement_eq (hrows bank hbank).1 (hok bank hbank)) hdistinct ∅
  have hshorts := @shortsOf_eq required s.economy (commercial s.economy) (mustHold s.books) (held s)
    (fun bank hbank => requiredOf_eq (hin bank hbank)) hheld
  set shorts := ((commercial s.economy).filter fun bank => held s bank < mustHold s.books bank).map
    fun bank => (bank, mustHold s.books bank - held s bank) with hshortsDef
  have hmem : ∀ bank, bank ∈ (sortedBy gapKey shorts).map Prod.fst ↔
      bank ∈ commercial s.economy ∧ held s bank < mustHold s.books bank := by
    intro bank
    rw [((sortedBy_perm gapKey shorts).map Prod.fst).mem_iff, hshortsDef, List.map_map]
    show bank ∈ List.map (fun b => b) _ ↔ _
    rw [List.map_id', List.mem_filter, decide_eq_true_iff]
  obtain ⟨events, s', lendings, advances, hrun, hprogress, hfunded⟩ := fund_each ctx hready
    ⟨hrows, hdistinct, hin⟩ fun bank hbank => ((hmem bank).mp hbank).1
  refine ⟨events, s', lendings, advances, ?_, hprogress.funding, hprogress.banks_eq, ?_, ?_, ?_⟩
  · unfold fundBanks
    rw [bind_of_ok (economyNow_eq_ok.mpr ⟨rfl, rfl⟩),
      bind_of_ok (liftE_eq_ok.mpr ⟨hrequired, rfl⟩), bind_of_ok (liftE_eq_ok.mpr ⟨hshorts, rfl⟩)]
    exact hrun
  · intro id bank hrow hc
    refine covered_of_above hprogress.ready hrow hc ?_
    rw [hprogress.banks_eq] at hrow
    have hbank : bank ∈ commercial s.economy := mem_commercial.mpr ⟨id, hrow, hc⟩
    -- a bank that was not short needed nothing, a short one was funded
    by_cases hshort : held s bank < mustHold s.books bank
    · exact hfunded bank ((hmem bank).mpr ⟨hbank, hshort⟩)
    · exact hprogress.kept id bank hrow hc (not_lt.mp hshort)
  · intro l hl
    obtain ⟨hwithin, bank, hrow, hc, habove⟩ := hprogress.lent l hl
    exact ⟨hwithin, covered_of_above hprogress.ready (by rw [hprogress.banks_eq]; exact hrow) hc
      habove⟩
  · rw [baseMoneyCents_eq, baseMoneyCents_eq, hprogress.base]

end Loop

/-! ## Two banks -/

/-- An account of a bank. -/
def bankAccount (code : AccountCode) (bankId : String) (hname : GoodName bankId := by decide)
    (hbank : (none : Option String).isSome = code.needsBank := by exact none_isSome)
    (href : (none : Option String).isSome = code.needsRef := by exact none_isSome) : AccountId :=
  ⟨code, bankId, none, none, hname, ofNone, ofNone, hbank, href⟩

/-- A commercial bank with a tenth of its deposits to hold. -/
def bankState (bankId : String) (hname : GoodName bankId := by decide) : BankState where
  bankId := bankId
  name := bankId
  placeId := "pl_1"
  reserveAccountId := bankAccount .res bankId hname
  depositLiabilityAccountId := bankAccount .dpl bankId hname
  isCentral := false

/-- Each bank owes 1000 cents of deposits and holds 2000 of bonds; the first
holds 30 cents of reserves, the second 470. -/
def twoBanks : Sim where
  economy := {
    ledger := {
      runId := "run"
      accounts := Dict.ofList [
        (bankAccount .iss "bk_cb", ⟨"central_bank", "POL", 0, none, -500, -500⟩),
        (bankAccount .res "bk_01", ⟨"bank", "POL", 0, none, 30, 30⟩),
        (bankAccount .dpl "bk_01", ⟨"bank", "POL", 0, none, -1000, -1000⟩),
        (bankAccount .res "bk_02", ⟨"bank", "POL", 0, none, 470, 470⟩),
        (bankAccount .dpl "bk_02", ⟨"bank", "POL", 0, none, -1000, -1000⟩)] }
    banks := Dict.ofList [("bk_01", bankState "bk_01"), ("bk_02", bankState "bk_02")]
    bondHoldingsCents := Dict.ofList
      [("bk_01", Dict.ofList [("bd_1", 2000)]), ("bk_02", Dict.ofList [("bd_1", 2000)])]
    exchange := {}
    ventures := {} }
  log := ⟨"run", []⟩

-- the second bank lends the 70 cents the first one misses
example :
    letI : Uuid5 := ⟨fun run name => run ++ name⟩
    outcome (fundBanks {} 1 twoBanks) (fun s =>
      (["bk_01", "bk_02"].map fun id => (reservesCents id s.economy).toOption,
        exposureCents "bk_02" "bk_01" s.economy, baseMoneyCents s.books))
      = some ([some 100, some 400], 70, 500) := by
  decide +kernel

theorem twoBanks_ready : Ready 1 twoBanks := by
  have hrows : ∀ entry ∈ twoBanks.books.accounts.entries, entry.2.currency = "POL" ∧
      entry.1.code ≠ .lnr ∧ entry.1.code ≠ .lnp := by
    decide +kernel
  have hbanks : twoBanks.economy.banks.entries
      = [("bk_01", bankState "bk_01"), ("bk_02", bankState "bk_02")] := by
    decide +kernel
  have hok : ∀ id (hname : GoodName id), id ≠ "bk_cb" →
      (∃ r, twoBanks.books.accounts.get? (bankAccount .res id hname) = some r ∧
        r.closedTick = none ∧ 0 ≤ r.balanceCents) →
      (∃ r, twoBanks.books.accounts.get? (bankAccount .dpl id hname) = some r) →
      BankOk twoBanks.books id (bankState id hname) := by
    intro id hname hne hres hdpl
    exact ⟨rfl, hne, by show (0 : Int) ≤ 1000; omega, ⟨rfl, rfl⟩, rfl, hres, hdpl⟩
  refine ⟨by omega, rfl, ?_, ?_, ?_, ?_⟩
  · intro a r hr
    exact (hrows _ (Dict.mem_entries_iff.mpr hr)).1
  · intro id bank hrow _
    have hmem := Dict.mem_entries_iff.mpr hrow
    rw [hbanks] at hmem
    simp only [List.mem_cons, List.not_mem_nil, or_false, Prod.mk.injEq] at hmem
    rcases hmem with ⟨rfl, rfl⟩ | ⟨rfl, rfl⟩
    · exact hok "bk_01" (by decide) (by decide)
        ⟨⟨"bank", "POL", 0, none, 30, 30⟩, by decide +kernel, rfl, by decide⟩
        ⟨⟨"bank", "POL", 0, none, -1000, -1000⟩, by decide +kernel⟩
    · exact hok "bk_02" (by decide) (by decide)
        ⟨⟨"bank", "POL", 0, none, 470, 470⟩, by decide +kernel, rfl, by decide⟩
        ⟨⟨"bank", "POL", 0, none, -1000, -1000⟩, by decide +kernel⟩
  · exact ⟨bankAccount .iss "bk_cb", ⟨"central_bank", "POL", 0, none, -500, -500⟩, rfl, rfl,
      by decide +kernel, rfl, by decide⟩
  · intro stem _ n _
    refine ⟨rfl, fun a hcode _ => ?_⟩
    by_contra hget
    obtain ⟨r, hr⟩ := Option.ne_none_iff_exists'.mp hget
    have hrow := hrows _ (Dict.mem_entries_iff.mpr hr)
    exact absurd hcode (by rw [not_or]; exact hrow.2)

theorem twoBanks_funded :
    letI : Uuid5 := ⟨fun run name => run ++ name⟩
    ∃ events s' lendings advances, fundBanks {} 1 twoBanks = .ok events s' ∧
      Funding {} 1 twoBanks lendings advances s' ∧ s'.economy.banks = twoBanks.economy.banks ∧
      (∀ id bank, s'.economy.banks.get? id = some bank → Commercial bank → Covered s'.economy id) ∧
      (∀ l ∈ lendings, l.Within {} ∧ Covered s'.economy l.lenderId) ∧
      baseMoneyCents s'.books = baseMoneyCents twoBanks.books + advances.sum := by
  let _ : Uuid5 := ⟨fun run name => run ++ name⟩
  exact banks_funded {} twoBanks_ready

end Polis.Economy.Central
