/-
  Polis.Economy.Exchange.Allotment — whether the close of an offering pays out
  what its event records.

  The event records the primary and the secondary proceeds of all shares sold;
  the legs split each investor's payment on its own, rounding the primary part
  down.  The two agree exactly when no payment is rounded.

  Main results:
    * `closingLegs_disburse` — the legs empty every reservation, and credit the
      firm and the founder with the parts of each payment.
    * `ipo_exact` — when the close is exact.
-/
import Polis.Economy.Exchange.Calls
import Polis.Economy.Exchange.Closing

namespace Polis.Economy.Exchange

open Lib Lib.Effect Lib.DoubleEntry Ledger Sim

/-! ## What the legs do -/

/-- What a leg credits to an account out of a trade. -/
def proceeds (a : AccountId) (key : LegKey) (n : Int) : Int :=
  if (ofLex key).1 = a.text ∧ (ofLex (ofLex key).2).1 = 1 ∧ (ofLex (ofLex key).2).2 = "trade" then n
  else 0

/-- What entries credit to an account out of a trade. -/
def tradeCredits (a : AccountId) (entries : List Entry) : Int :=
  ((entries.filter fun e => e.accountId = a.text ∧ e.direction = 1 ∧ e.reason = "trade").map
    Entry.amountCents).sum

/-- The legs credit `credited a` to each deposit `a` out of trades, and take
`drawn t` out of the exchange escrow of each trader `t`. -/
structure Disburses (L : Ledger) (credited : AccountId → Int) (drawn : String → Int)
    (legs : List Leg) : Prop where
  legs_pos : ∀ l ∈ legs, 0 < l.amountCents
  credits : ∀ a, a.code = .dep →
    (legs.map fun l => proceeds a l.mergeKey l.amountCents).sum = credited a
  debits : ∀ t e, escrowId L t "exchange" = .ok e → posting (lines legs) e = -drawn t

section Disburses

variable {L : Ledger} {credited credited' : AccountId → Int} {drawn drawn' : String → Int}
  {legs legs' : List Leg}

theorem proceeds_add (a : AccountId) (key : LegKey) (m n : Int) :
    proceeds a key (m + n) = proceeds a key m + proceeds a key n := by
  unfold proceeds
  split_ifs
  · rfl
  · rfl

theorem proceeds_leg (a b : AccountId) (direction n : Int) (reason : String) :
    proceeds a (leg b direction n reason).mergeKey n
      = if b = a ∧ direction = 1 ∧ reason = "trade" then n else 0 := by
  have htext : b.text = a.text ↔ b = a := AccountId.text_injective.eq_iff
  show (if b.text = a.text ∧ direction = 1 ∧ reason = "trade" then n else 0) = _
  simp only [htext]

theorem Disburses.nil : Disburses L (fun _ => 0) (fun _ => 0) [] where
  legs_pos l hl := absurd hl List.not_mem_nil
  credits a _ := rfl
  debits t e _ := by simp

theorem Disburses.append (h : Disburses L credited drawn legs)
    (h' : Disburses L credited' drawn' legs') :
    Disburses L (fun a => credited a + credited' a) (fun t => drawn t + drawn' t)
      (legs ++ legs') where
  legs_pos l hl := by
    rcases List.mem_append.mp hl with hl | hl
    · exact h.legs_pos l hl
    · exact h'.legs_pos l hl
  credits a ha := by rw [List.map_append, List.sum_append, h.credits a ha, h'.credits a ha]
  debits t e he := by
    rw [lines_append, posting_append, Finsupp.add_apply, h.debits t e he, h'.debits t e he]
    omega

theorem Disburses.congr (h : Disburses L credited drawn legs)
    (hcredited : ∀ a, a.code = .dep → credited a = credited' a) (hdrawn : ∀ t, drawn t = drawn' t) :
    Disburses L credited' drawn' legs where
  legs_pos := h.legs_pos
  credits a ha := (h.credits a ha).trans (hcredited a ha)
  debits t e he := by rw [h.debits t e he, hdrawn t]

theorem transfer_proceeds {src dst a : AccountId} {n : Int} {reason : String}
    (h : transfer src dst n reason = .ok legs) (ha : a.code = .dep) :
    (legs.map fun l => proceeds a l.mergeKey l.amountCents).sum
      = if dst = a ∧ reason = "trade" then n else 0 := by
  have hother : ∀ b : AccountId, b.code ≠ .dep → b ≠ a := by
    rintro b hb rfl
    exact hb ha
  unfold transfer at h
  split_ifs at h with h₁ h₂ h₃
  · cases h
    show proceeds a (leg src (-1) n reason).mergeKey n
      + (proceeds a (leg dst 1 n reason).mergeKey n + 0) = _
    rw [proceeds_leg, proceeds_leg, if_neg (by omega), zero_add, add_zero]
    simp
  · cases hs : bankOf src with
    | none => rw [hs] at h; cases h
    | some srcBank =>
      cases hd : bankOf dst with
      | none => rw [hs, hd] at h; cases h
      | some dstBank =>
        rw [hs, hd] at h
        obtain ⟨dplSrc, h₄, h⟩ := except_bind_eq_ok.mp h
        obtain ⟨resSrc, h₅, h⟩ := except_bind_eq_ok.mp h
        obtain ⟨resDst, h₆, h⟩ := except_bind_eq_ok.mp h
        obtain ⟨dplDst, h₇, h⟩ := except_bind_eq_ok.mp h
        cases h
        -- the banks' own books are no deposits
        have hdplSrc : dplSrc ≠ a := hother _ (by rw [(accountId_eq_ok h₄).1]; decide)
        have hresDst : resDst ≠ a := hother _ (by rw [(accountId_eq_ok h₆).1]; decide)
        show proceeds a (leg src (-1) n reason).mergeKey n
          + (proceeds a (leg dplSrc 1 n reason).mergeKey n
          + (proceeds a (leg resSrc (-1) n reason).mergeKey n
          + (proceeds a (leg resDst 1 n reason).mergeKey n
          + (proceeds a (leg dplDst (-1) n reason).mergeKey n
          + (proceeds a (leg dst 1 n reason).mergeKey n + 0))))) = _
        simp [proceeds_leg, hdplSrc, hresDst]

theorem transfer_debits {src dst e : AccountId} {n : Int} {reason : String}
    (h : transfer src dst n reason = .ok legs) (hdst : dst.code = .dep) (he : e.code = .esc) :
    posting (lines legs) e = -if src = e then n else 0 := by
  have houtside : Outside fun b => if b = e then 1 else 0 := by
    refine ⟨fun b hb => if_neg ?_, fun b hb => if_neg ?_⟩
    · rintro rfl
      rw [hb] at he
      cases he
    · rintro rfl
      rw [hb] at he
      cases he
  have hne : dst ≠ e := by
    rintro rfl
    rw [hdst] at he
    cases he
  rw [posting_apply, net_transfer houtside h, if_neg hne]
  split_ifs
  · ring
  · ring

theorem Disburses.deposits {src dst : AccountId} {n : Int} {reason : String}
    (h : transfer src dst n reason = .ok legs) (hsrc : src.code = .dep) (hdst : dst.code = .dep) :
    Disburses L (fun a => if dst = a ∧ reason = "trade" then n else 0) (fun _ => 0) legs where
  legs_pos := (transfer_eq_ok h).legs_pos
  credits _ ha := transfer_proceeds h ha
  debits t e he := by
    have hcode := (escrowId_eq_ok he).1
    have hne : src ≠ e := by
      rintro rfl
      rw [hsrc] at hcode
      cases hcode
    rw [transfer_debits h hdst hcode, if_neg hne]

theorem Disburses.escrow {investor : String} {src dst : AccountId} {n : Int} {reason : String}
    (h : transfer src dst n reason = .ok legs) (hsrc : escrowId L investor "exchange" = .ok src)
    (hdst : dst.code = .dep) :
    Disburses L (fun a => if dst = a ∧ reason = "trade" then n else 0)
      (fun t => if investor = t then n else 0) legs where
  legs_pos := (transfer_eq_ok h).legs_pos
  credits _ ha := transfer_proceeds h ha
  debits t e he := by
    have hsame : src = e ↔ investor = t := by
      constructor
      · rintro rfl
        exact (escrowId_eq_ok hsrc).2.1.symm.trans (escrowId_eq_ok he).2.1
      · rintro rfl
        exact Except.ok.inj (hsrc.symm.trans he)
    rw [transfer_debits h hdst (escrowId_eq_ok he).1]
    simp only [hsame]

theorem Disburses.escrowIf {c : Prop} [Decidable c] {investor : String} {src dst : AccountId}
    {n : Int} {reason : String} (h : legsIf c (transfer src dst n reason) = .ok legs)
    (hz : ¬c → n = 0) (hsrc : escrowId L investor "exchange" = .ok src) (hdst : dst.code = .dep) :
    Disburses L (fun a => if dst = a ∧ reason = "trade" then n else 0)
      (fun t => if investor = t then n else 0) legs := by
  unfold legsIf at h
  split_ifs at h with hc
  · exact .escrow h hsrc hdst
  · cases h
    rw [hz hc]
    exact Disburses.nil.congr (fun a _ => (ite_self 0).symm) fun t => (ite_self 0).symm

theorem Disburses.depositsIf {c : Prop} [Decidable c] {src dst : AccountId} {n : Int}
    {reason : String} (h : legsIf c (transfer src dst n reason) = .ok legs)
    (hsrc : src.code = .dep) (hdst : dst.code = .dep) :
    ∃ credited, Disburses L credited (fun _ => 0) legs ∧ ∀ a, a ≠ dst → credited a = 0 := by
  unfold legsIf at h
  split_ifs at h
  · refine ⟨_, .deposits h hsrc hdst, fun a ha => if_neg fun hc => ha hc.1.symm⟩
  · cases h
    exact ⟨_, .nil, fun a _ => rfl⟩

theorem Disburses.collect {α : Type} {f : α → Except PyError (List Leg)} {xs : List α}
    {credited : α → AccountId → Int} {drawn : α → String → Int}
    (hf : ∀ x ∈ xs, ∀ here, f x = .ok here → Disburses L (credited x) (drawn x) here)
    (h : Exchange.collect f xs = .ok legs) :
    Disburses L (fun a => (xs.map fun x => credited x a).sum)
      (fun t => (xs.map fun x => drawn x t).sum) legs := by
  induction xs generalizing legs with
  | nil =>
    cases h
    exact .nil
  | cons x xs ih =>
    obtain ⟨here, hx, h⟩ := except_bind_eq_ok.mp h
    obtain ⟨rest, hxs, h⟩ := except_bind_eq_ok.mp h
    cases h
    exact (hf x List.mem_cons_self here hx).append
      (ih (fun y hy => hf y (List.mem_cons_of_mem _ hy)) hxs)

end Disburses

/-! ## What the legs of a close do -/

section Close

variable {cfg : ExchangeSettings} {L : Ledger} {ipo : IpoState} {allocations : Dict String Int}
  {legs : List Leg}

/-- The part of an investor's payment that goes to the firm. -/
def primaryCents (cfg : ExchangeSettings) (ipo : IpoState) (allocation : Int) : Int :=
  allocation * ipoOffer cfg ipo * ipoPrimary cfg ipo / max 1 (ipoSold cfg ipo)

/-- What an allotted investor's legs credit to a deposit. -/
def allottedCredit (cfg : ExchangeSettings) (ipo : IpoState) (firmDeposit founderDeposit : AccountId)
    (a : AccountId) (allocation : Int) : Int :=
  (if firmDeposit = a then primaryCents cfg ipo allocation else 0)
    + if founderDeposit = a then allocation * ipoOffer cfg ipo - primaryCents cfg ipo allocation
      else 0

theorem allottedLegs_disburse {firmDeposit founderDeposit : AccountId} {investor : String}
    {allocation : Int} (hfirm : firmDeposit.code = .dep) (hfounder : founderDeposit.code = .dep)
    (h : allottedLegs L ipo (ipoOffer cfg ipo) (ipoSold cfg ipo) (ipoPrimary cfg ipo) firmDeposit
      founderDeposit investor allocation = .ok legs) :
    Disburses L (fun a => allottedCredit cfg ipo firmDeposit founderDeposit a allocation)
      (fun t => if investor = t then indicatedBy ipo investor else 0) legs := by
  unfold allottedLegs at h
  obtain ⟨escrow, hescrow, h⟩ := except_bind_eq_ok.mp h
  cases hi : ipo.indications.get? investor with
  | none => rw [hi] at h; cases h
  | some indication =>
    obtain ⟨qty, limit⟩ := indication
    rw [hi] at h
    dsimp only at h
    obtain ⟨toFirm, h₁, h⟩ := except_bind_eq_ok.mp h
    obtain ⟨toFounder, h₂, h⟩ := except_bind_eq_ok.mp h
    obtain ⟨toInvestor, h₃, h⟩ := except_bind_eq_ok.mp h
    cases h
    have hpaid := (Disburses.escrowIf h₁ primary_unpaid hescrow hfirm).append
      (Disburses.escrowIf h₂ secondary_unpaid hescrow hfounder)
    have hrelease : Disburses L (fun _ => 0) (fun t => if investor = t
        then qty * limit - allocation * ipoOffer cfg ipo else 0) toInvestor := by
      unfold legsIf at h₃
      split_ifs at h₃ with hr
      · obtain ⟨deposit, hd, h₃⟩ := except_bind_eq_ok.mp h₃
        refine (Disburses.escrow h₃ hescrow (depositAccount_eq_ok hd).1).congr (fun a _ => ?_)
          fun t => rfl
        exact if_neg fun hc => absurd hc.2 (by decide)
      · cases h₃
        rw [not_not] at hr
        rw [hr]
        exact Disburses.nil.congr (fun a _ => rfl) fun t => (ite_self 0).symm
    refine (hpaid.append hrelease).congr (fun a _ => ?_) fun t => ?_
    · simp only [and_true, add_zero]
      rfl
    · unfold indicatedBy
      rw [hi, Option.elim_some]
      split_ifs
      · ring
      · rfl

theorem unallottedLegs_disburse {i : String × Int × Int}
    (h : unallottedLegs L allocations i = .ok legs) :
    Disburses L (fun _ => 0) (returnedCents allocations i) legs := by
  unfold unallottedLegs at h
  unfold returnedCents
  split_ifs at h with hc
  · cases h
    simp only [hc, if_true, ite_self]
    exact .nil
  · obtain ⟨escrow, hescrow, h⟩ := except_bind_eq_ok.mp h
    obtain ⟨deposit, hd, h⟩ := except_bind_eq_ok.mp h
    refine (Disburses.escrow h hescrow (depositAccount_eq_ok hd).1).congr (fun a _ => ?_) fun t => ?_
    · exact if_neg fun hc => absurd hc.2 (by decide)
    · simp only [hc, Bool.false_eq_true, if_false]

theorem feeLegs_disburse {firmDeposit underwriterDeposit treasuryDeposit : AccountId}
    {underwritingFee listingFee : Int} (hfirm : firmDeposit.code = .dep)
    (hunderwriter : underwriterDeposit.code = .dep) (htreasury : treasuryDeposit.code = .dep)
    (h : feeLegs firmDeposit underwriterDeposit treasuryDeposit underwritingFee listingFee
      = .ok legs) :
    ∃ credited, Disburses L credited (fun _ => 0) legs ∧
      ∀ a, a ≠ underwriterDeposit → a ≠ treasuryDeposit → credited a = 0 := by
  unfold feeLegs at h
  obtain ⟨toUnderwriter, h₁, h⟩ := except_bind_eq_ok.mp h
  obtain ⟨toTreasury, h₂, h⟩ := except_bind_eq_ok.mp h
  cases h
  obtain ⟨credited₁, d₁, hz₁⟩ := Disburses.depositsIf (L := L) h₁ hfirm hunderwriter
  obtain ⟨credited₂, d₂, hz₂⟩ := Disburses.depositsIf (L := L) h₂ hfirm htreasury
  refine ⟨_, d₁.append d₂, fun a hu ht => ?_⟩
  rw [hz₁ a hu, hz₂ a ht, add_zero]

theorem closingLegs_disburse {founderId : String}
    (h : closingLegs cfg L ipo founderId allocations = .ok legs) :
    ∃ firmDeposit founderDeposit underwriterDeposit treasuryDeposit credited,
      depositAccount L ipo.firmId = .ok firmDeposit ∧
      depositAccount L founderId = .ok founderDeposit ∧
      depositAccount L ipo.underwriterBankId = .ok underwriterDeposit ∧
      depositAccount L "gv_treasury" = .ok treasuryDeposit ∧
      Disburses L credited (indicatedBy ipo) legs ∧
      (∀ a, a.code = .dep → a ≠ underwriterDeposit → a ≠ treasuryDeposit → credited a
        = (allocations.sortedEntries.map fun i =>
            allottedCredit cfg ipo firmDeposit founderDeposit a i.2).sum) ∧
      ∀ investor indication, ipo.indications.get? investor = some indication →
        ∃ escrow, escrowId L investor "exchange" = .ok escrow := by
  obtain ⟨firmDeposit, hfirm, h⟩ := except_bind_eq_ok.mp h
  obtain ⟨founderDeposit, hfounder, h⟩ := except_bind_eq_ok.mp h
  obtain ⟨underwriterDeposit, hunderwriter, h⟩ := except_bind_eq_ok.mp h
  obtain ⟨treasuryDeposit, htreasury, h⟩ := except_bind_eq_ok.mp h
  obtain ⟨allotted, hallotted, h⟩ := except_bind_eq_ok.mp h
  obtain ⟨returned, hreturned, h⟩ := except_bind_eq_ok.mp h
  obtain ⟨fees, hfees, h⟩ := except_bind_eq_ok.mp h
  cases h
  have hfc := (depositAccount_eq_ok hfirm).1
  have hfoc := (depositAccount_eq_ok hfounder).1
  have huc := (depositAccount_eq_ok hunderwriter).1
  have htc := (depositAccount_eq_ok htreasury).1
  have d₁ := Disburses.collect (fun a _ here ha => allottedLegs_disburse hfc hfoc ha) hallotted
  have d₂ := Disburses.collect (fun i _ here hi => unallottedLegs_disburse hi) hreturned
  obtain ⟨feeCredit, d₃, hz⟩ := feeLegs_disburse (L := L) hfc huc htc hfees
  refine ⟨firmDeposit, founderDeposit, underwriterDeposit, treasuryDeposit, _, hfirm, hfounder,
    hunderwriter, htreasury, ((d₁.append d₂).append d₃).congr (fun a _ => rfl) fun t => ?_,
    fun a _ hu ht => ?_, fun investor indication hi => ?_⟩
  · rw [add_zero]
    exact indications_drained ipo allocations t
  · have hzero : (ipo.indications.sortedEntries.map fun _ => (0 : Int)).sum = 0 := by simp
    show (allocations.sortedEntries.map _).sum + _ + feeCredit a = _
    rw [hz a hu ht, hzero, add_zero, add_zero]
  · -- an indication is allotted or returned, and either reads the escrow
    by_cases hc : allocations.contains investor = true
    · obtain ⟨n, hn⟩ := Option.isSome_iff_exists.mp hc
      obtain ⟨here, ha⟩ := collect_mem hallotted
        (Dict.mem_sortedEntries.mpr (Dict.mem_entries_iff.mpr hn))
      obtain ⟨escrow, hescrow, -⟩ := except_bind_eq_ok.mp ha
      exact ⟨escrow, hescrow⟩
    · obtain ⟨here, hr⟩ := collect_mem hreturned
        (Dict.mem_sortedEntries.mpr (Dict.mem_entries_iff.mpr hi))
      unfold unallottedLegs at hr
      rw [if_neg hc] at hr
      obtain ⟨escrow, hescrow, -⟩ := except_bind_eq_ok.mp hr
      exact ⟨escrow, hescrow⟩

end Close

/-! ## When a close is exact -/

/-- What the announcement and the indications have checked of a book. -/
structure BookOk (ipo : IpoState) : Prop where
  offered_pos : 0 < ipo.sharesOffered
  qty_pos : ∀ investor indication, ipo.indications.get? investor = some indication →
    0 < indication.1

/-- The firm and its founder are nobody else of the close. -/
def RolesApart (s : Sim) (ipo : IpoState) : Prop :=
  ∀ firm, s.economy.firms.get? ipo.firmId = some firm → firm.founderId ≠ ipo.firmId ∧
    ∀ payee ∈ [ipo.underwriterBankId, "gv_treasury"], payee ≠ ipo.firmId ∧ payee ≠ firm.founderId

/-- The entries a step has added. -/
def newEntries (s s' : Sim) : List Entry := s'.books.entries.drop s.books.entries.length

/-- The owner's deposit is credited what the event records under a field. -/
def PaidAsRecorded (s s' : Sim) (event : Event) (field owner : String) : Prop :=
  ∃ deposit cents, depositAccount s.books owner = .ok deposit ∧
    event.draft.payload.lookup field = some (.int cents) ∧
    tradeCredits deposit (newEntries s s') = cents

/-- A close that is exact. -/
structure ExactClose (cfg : ExchangeSettings) (key : String) (ipo : IpoState) (founderId : String)
    (allocations : Dict String Int) (completed : Event) (s s' : Sim) : Prop where
  kind_eq : completed.draft.kind = .ipoCompleted
  recorded : completed.draft.payload.lookup "allocations" = some (.ints allocations.sortedEntries)
  sum_eq : allocations.values.sum = min ipo.sharesOffered (ipoDemand cfg ipo)
  within : ∀ investor n, allocations.get? investor = some n → ∃ qty limit,
    ipo.indications.get? investor = some (qty, limit) ∧ n ≤ qty ∧ ipoOffer cfg ipo ≤ limit
  debited : ∀ investor qty limit, ipo.indications.get? investor = some (qty, limit) →
    ∃ escrow, escrowId s.books investor "exchange" = .ok escrow ∧
      s'.books.book escrow = s.books.book escrow - qty * limit
  firm_paid : PaidAsRecorded s s' completed "primary_cents" ipo.firmId
  founder_paid : PaidAsRecorded s s' completed "secondary_cents" founderId
  listed : ∃ shares holders,
    Listed (upper ipo.symbol) shares holders (withIpoStatus key .completed s.exch) s'.exch

/-- The close of a book returns, and is exact. -/
def IpoLaw [Uuid5] (ctx : Ctx) (key : String) (tick : Int) (ipo : IpoState) (s : Sim) : Prop :=
  ∃ firm allocations priced completed listed s', s.economy.firms.get? ipo.firmId = some firm ∧
    completeIpo ctx key tick s = .ok (priced :: completed :: listed) s' ∧
    ExactClose ctx.settings.exchange key ipo firm.founderId allocations completed s s'

section Exact

variable {cfg : ExchangeSettings} {ipo : IpoState} {allocations : Dict String Int}

theorem eligible_qty_pos (hbook : BookOk ipo) (offer : Int) :
    ∀ e ∈ eligible ipo offer, 0 < e.2 := by
  intro e he
  obtain ⟨i, hi, rfl⟩ := List.mem_map.mp he
  exact hbook.qty_pos i.1 i.2
    (Dict.mem_entries_iff.mp (Dict.mem_sortedEntries.mp (List.mem_of_mem_filter hi)))

theorem allotted_within (hbook : BookOk ipo)
    (halloc : allocate (ipoSold cfg ipo) (eligible ipo (ipoOffer cfg ipo)) = .ok allocations)
    {investor : String} {n : Int} (hn : allocations.get? investor = some n) :
    ∃ qty limit, ipo.indications.get? investor = some (qty, limit) ∧ n ≤ qty ∧
      ipoOffer cfg ipo ≤ limit := by
  have hmem : investor ∈ (eligible ipo (ipoOffer cfg ipo)).map Prod.fst :=
    (allocate_isSome halloc investor).mp (by rw [hn]; rfl)
  obtain ⟨e, he, rfl⟩ := List.mem_map.mp hmem
  obtain ⟨⟨k, qty, limit⟩, hi, rfl⟩ := List.mem_map.mp he
  obtain ⟨hi, hlimit⟩ := List.mem_filter.mp hi
  refine ⟨qty, limit, Dict.mem_entries_iff.mp (Dict.mem_sortedEntries.mp hi), ?_,
    of_decide_eq_true hlimit⟩
  exact allocate_le halloc (min_le_right _ _) (eligible_qty_pos hbook _) he hn

theorem sold_pos (hbook : BookOk ipo)
    (halloc : allocate (ipoSold cfg ipo) (eligible ipo (ipoOffer cfg ipo)) = .ok allocations) :
    0 < ipoSold cfg ipo := by
  obtain ⟨-, -, -, -, hdemand, -⟩ := allocate_eq_ok halloc
  exact lt_min hbook.offered_pos hdemand

theorem sum_allotted
    (halloc : allocate (ipoSold cfg ipo) (eligible ipo (ipoOffer cfg ipo)) = .ok allocations) :
    (allocations.sortedEntries.map Prod.snd).sum = ipoSold cfg ipo := by
  rw [← allocate_sum halloc]
  exact Dict.sum_sortedEntries allocations fun _ v => v

theorem sum_primaryCents_iff (hbook : BookOk ipo)
    (halloc : allocate (ipoSold cfg ipo) (eligible ipo (ipoOffer cfg ipo)) = .ok allocations) :
    (allocations.sortedEntries.map fun a => primaryCents cfg ipo a.2).sum
        = ipoPrimary cfg ipo * ipoOffer cfg ipo ↔
      ∀ investor n, allocations.get? investor = some n →
        ipoSold cfg ipo ∣ n * ipoOffer cfg ipo * ipoPrimary cfg ipo := by
  have hpos := sold_pos hbook halloc
  have hmax : max 1 (ipoSold cfg ipo) = ipoSold cfg ipo := max_eq_right hpos
  have hsum : (allocations.sortedEntries.map fun a =>
      a.2 * ipoOffer cfg ipo * ipoPrimary cfg ipo).sum
      = ipoSold cfg ipo * (ipoPrimary cfg ipo * ipoOffer cfg ipo) := by
    have hfactor : (fun a : String × Int => a.2 * ipoOffer cfg ipo * ipoPrimary cfg ipo)
        = fun a => a.2 * (ipoPrimary cfg ipo * ipoOffer cfg ipo) := by
      funext a
      ring
    rw [hfactor, List.sum_map_mul_right, sum_allotted halloc]
  unfold primaryCents
  rw [hmax, sum_floor_eq_iff _ hpos hsum]
  constructor
  · intro h investor n hn
    exact h (investor, n) (Dict.mem_sortedEntries.mpr (Dict.mem_entries_iff.mpr hn))
  · intro h a ha
    exact h a.1 a.2 (Dict.mem_entries_iff.mp (Dict.mem_sortedEntries.mp ha))

theorem sum_secondaryCents
    (halloc : allocate (ipoSold cfg ipo) (eligible ipo (ipoOffer cfg ipo)) = .ok allocations) :
    (allocations.sortedEntries.map fun a => a.2 * ipoOffer cfg ipo - primaryCents cfg ipo a.2).sum
      = ipoSold cfg ipo * ipoOffer cfg ipo
        - (allocations.sortedEntries.map fun a => primaryCents cfg ipo a.2).sum := by
  have hsplit : ∀ xs : List (String × Int),
      (xs.map fun a => a.2 * ipoOffer cfg ipo - primaryCents cfg ipo a.2).sum
        = (xs.map Prod.snd).sum * ipoOffer cfg ipo
          - (xs.map fun a => primaryCents cfg ipo a.2).sum := by
    intro xs
    induction xs with
    | nil => simp
    | cons x xs ih =>
      simp only [List.map_cons, List.sum_cons, ih]
      ring
  rw [hsplit, sum_allotted halloc]

theorem tradeCredits_entries (a : AccountId) (txnId : UUID) (tick : Int) (eventSeq : Nat)
    (legs : List Leg) : tradeCredits a (legs.map (entryOf txnId tick eventSeq))
      = (legs.map fun l => proceeds a l.mergeKey l.amountCents).sum := by
  induction legs with
  | nil => rfl
  | cons l legs ih =>
    rw [List.map_cons, List.map_cons, List.sum_cons, ← ih]
    have hhead : proceeds a l.mergeKey l.amountCents
        = if l.accountId = a.text ∧ l.direction = 1 ∧ l.reason = "trade" then l.amountCents else 0 :=
      rfl
    unfold tradeCredits
    rw [List.filter_cons, hhead]
    show (List.map _ (if decide (l.accountId = a.text ∧ l.direction = 1 ∧ l.reason = "trade") = true
      then _ else _)).sum = _
    by_cases hc : l.accountId = a.text ∧ l.direction = 1 ∧ l.reason = "trade"
    · rw [if_pos (decide_eq_true hc), if_pos hc, List.map_cons, List.sum_cons]
      rfl
    · rw [if_neg (by simpa using hc), if_neg hc, zero_add]

end Exact

section Law

variable [Uuid5] {ctx : Ctx} {key : String} {tick : Int} {ipo : IpoState} {s : Sim}

/-- **The close of a book is exact** exactly when its legs are taken and no
payment is rounded: the shares sold divide every investor's allotment times the
offer price and the new shares. -/
theorem ipo_exact (hipo : s.exch.ipos.get? key = some ipo) (hne : ipo.indications.entries ≠ [])
    (hbook : BookOk ipo) (hroles : RolesApart s ipo) :
    IpoLaw ctx key tick ipo s ↔ ∃ firm allocations legs,
      IpoReady ctx.settings.exchange s ipo firm allocations legs ∧
      ∀ investor n, allocations.get? investor = some n → ipoSold ctx.settings.exchange ipo
        ∣ n * ipoOffer ctx.settings.exchange ipo * ipoPrimary ctx.settings.exchange ipo := by
  set cfg := ctx.settings.exchange with hcfg
  -- in a ready state, the firm is paid the sum of its parts
  have hpaid : ∀ firm allocations legs priced completed s',
      IpoReady cfg s ipo firm allocations legs →
      Closed cfg key ipo allocations legs priced completed s s' →
      ∃ firmDeposit founderDeposit, depositAccount s.books ipo.firmId = .ok firmDeposit ∧
        depositAccount s.books firm.founderId = .ok founderDeposit ∧
        tradeCredits firmDeposit (newEntries s s')
          = (allocations.sortedEntries.map fun a => primaryCents cfg ipo a.2).sum ∧
        tradeCredits founderDeposit (newEntries s s') = ipoSold cfg ipo * ipoOffer cfg ipo
          - (allocations.sortedEntries.map fun a => primaryCents cfg ipo a.2).sum ∧
        ∀ investor indication, ipo.indications.get? investor = some indication →
          ∃ escrow, escrowId s.books investor "exchange" = .ok escrow ∧
            s'.books.book escrow = s.books.book escrow - indication.1 * indication.2 := by
    intro firm allocations legs priced completed s' hready hclosed
    obtain ⟨firmDeposit, founderDeposit, underwriterDeposit, treasuryDeposit, credited, hfirm,
      hfounder, hunderwriter, htreasury, hdisburse, hcredited, hescrow⟩ :=
      closingLegs_disburse hready.legs_eq
    obtain ⟨hfc, hfo, -⟩ := depositAccount_eq_ok hfirm
    obtain ⟨hfoc, hfoo, -⟩ := depositAccount_eq_ok hfounder
    have huo := (depositAccount_eq_ok hunderwriter).2.1
    have hto := (depositAccount_eq_ok htreasury).2.1
    obtain ⟨hapart, hpayees⟩ := hroles firm hready.firm_at
    obtain ⟨hu₁, hu₂⟩ := hpayees ipo.underwriterBankId (by simp)
    obtain ⟨ht₁, ht₂⟩ := hpayees "gv_treasury" (by simp)
    have howner : ∀ {a b : AccountId}, a.ownerId ≠ b.ownerId → a ≠ b := by
      rintro a b h rfl
      exact h rfl
    have hdistinct : founderDeposit ≠ firmDeposit := howner (by rw [hfoo, hfo]; exact hapart)
    obtain ⟨txnId, entryTick, hentries⟩ := hclosed.entries_eq
    have hnew : newEntries s s' = (coalesce legs).map (entryOf txnId entryTick completed.seq) := by
      unfold newEntries
      rw [hentries, List.drop_left]
    have hcredits : ∀ a, a.code = .dep → tradeCredits a (newEntries s s') = credited a := by
      intro a ha
      rw [hnew, tradeCredits_entries, ← hdisburse.credits a ha]
      exact sum_mergeLegs (proceeds_add a) (fun n hn => decide_eq_true hn) hdisburse.legs_pos
    refine ⟨firmDeposit, founderDeposit, hfirm, hfounder, ?_, ?_, fun investor indication hi => ?_⟩
    · rw [hcredits _ hfc, hcredited _ hfc (howner (by rw [hfo, huo]; exact hu₁.symm))
        (howner (by rw [hfo, hto]; exact ht₁.symm))]
      simp only [allottedCredit, if_true, if_neg hdistinct, add_zero]
    · rw [hcredits _ hfoc, hcredited _ hfoc (howner (by rw [hfoo, huo]; exact hu₂.symm))
        (howner (by rw [hfoo, hto]; exact ht₂.symm)), ← sum_secondaryCents hready.allocated]
      simp only [allottedCredit, if_true, if_neg hdistinct.symm, zero_add]
    · obtain ⟨escrow, he⟩ := hescrow investor indication hi
      refine ⟨escrow, he, ?_⟩
      have hdrawn := hdisburse.debits investor escrow he
      rw [hclosed.book_eq, posting_coalesce hdisburse.legs_pos, Finsupp.add_apply, hdrawn]
      unfold indicatedBy
      rw [hi, Option.elim_some]
      ring
  constructor
  · rintro ⟨firm₀, allocations₀, priced₀, completed₀, listed₀, s', hfirm₀, hrun, hexact⟩
    obtain ⟨firm, allocations, legs, hready⟩ := completeIpo_ready hipo hne hrun
    obtain ⟨priced, completed, listed, s₂, hrun₂, hclosed⟩ :=
      @completeIpo_returns _ ctx key tick ipo s firm allocations legs hipo hne hready
    -- the close is the same one
    rw [hrun] at hrun₂
    cases hrun₂
    refine ⟨firm, allocations, legs, hready, ?_⟩
    rw [← sum_primaryCents_iff hbook hready.allocated]
    obtain ⟨firmDeposit, -, hfirm, -, hcredit, -⟩ := hpaid _ _ _ _ _ _ hready hclosed
    obtain ⟨deposit, cents, hdeposit, hrecorded, hcents⟩ := hexact.firm_paid
    have hsame : deposit = firmDeposit := Except.ok.inj (hdeposit.symm.trans hfirm)
    obtain ⟨-, txnId, hpayload⟩ := hclosed.completed_eq
    rw [hpayload] at hrecorded
    have hprimary : ipoPrimary cfg ipo * ipoOffer cfg ipo = cents := by
      have hvalue : (completedPayload cfg ipo allocations txnId).lookup "primary_cents"
          = some (.int (ipoPrimary cfg ipo * ipoOffer cfg ipo)) := rfl
      rw [hvalue] at hrecorded
      simpa using hrecorded
    rw [hprimary, ← hcents, hsame]
    exact hcredit.symm
  · rintro ⟨firm, allocations, legs, hready, hdvd⟩
    obtain ⟨priced, completed, listed, s', hrun, hclosed⟩ :=
      @completeIpo_returns _ ctx key tick ipo s firm allocations legs hipo hne hready
    have hsum := (sum_primaryCents_iff hbook hready.allocated).mpr hdvd
    obtain ⟨firmDeposit, founderDeposit, hfirm, hfounder, hfirmCredit, hfounderCredit, hescrow⟩ :=
      hpaid _ _ _ _ _ _ hready hclosed
    obtain ⟨hkind, txnId, hpayload⟩ := hclosed.completed_eq
    refine ⟨firm, allocations, priced, completed, listed, s', hready.firm_at, hrun, {
      kind_eq := hkind
      recorded := by rw [hpayload]; rfl
      sum_eq := allocate_sum hready.allocated
      within := fun investor n hn => allotted_within hbook hready.allocated hn
      debited := fun investor qty limit hi => hescrow investor (qty, limit) hi
      firm_paid := ⟨firmDeposit, _, hfirm, by rw [hpayload]; rfl, by rw [hfirmCredit, hsum]⟩
      founder_paid := ⟨founderDeposit, _, hfounder, by rw [hpayload]; rfl, ?_⟩
      listed := hclosed.listed }⟩
    rw [hfounderCredit, hsum]
    ring

end Law

/-! ### A book of three shares -/

/-- The offering of three shares, with the two investors in its book. -/
def storedIpo (primaryShares : Int) : IpoState where
  ipoId := "ipo_1"
  firmId := "fm_s"
  symbol := "S"
  sharesOffered := 3
  primaryShares
  secondaryShares := 3 - primaryShares
  priceLowCents := 8
  priceHighCents := 12
  underwriterBankId := "bk_1"
  announcedTick := 0
  bookCloseTick := 3
  indications := Dict.ofList [("ag_b", 1, 11), ("ag_c", 2, 11)]

/-- A firm, its founder, its underwriter and two investors, a thousand cents
each. -/
def offerShares [Uuid5] (primaryShares : Int) : EngineM Unit := do
  openMarket ["ag_b", "ag_c", "ag_f", "bk_1", "fm_s", "gv_treasury"] 1000
  modifyEconomy fun e => { e with
    firms := e.firms.put "fm_s" {
      firmId := "fm_s"
      name := "Shares"
      sector := "food"
      placeId := "p"
      founderId := "ag_f"
      ledgerAccountId := ⟨.dep, "fm_s", some "bk_1", none, by decide, ofFirstBank, ofNone,
        firstBank_isSome, none_isSome⟩
      productivityBp := 10000 } }
  modifyExchange fun x => { x with
    ipos := x.ipos.put "ipo_1" { storedIpo primaryShares with indications := ∅ } }

/-- An indication at eleven cents. -/
def indicationOf (investor : String) (qty : Int) : OrderRequest where
  actionId := "i_" ++ investor
  actorId := investor
  symbol := "S"
  isShort := false
  side := .buy
  orderType := .limit
  qty
  limitPriceCents := some 11
  collateralCents := 0
  flags := ["ipo"]

/-- One investor asks for one share, the other for two. -/
def bookOfThree [Uuid5] (primaryShares : Int) : EngineM Unit := do
  offerShares primaryShares
  let _ ← ipoIndication {} (indicationOf "ag_b" 1) 1
  let _ ← ipoIndication {} (indicationOf "ag_c" 2) 1

/-- The hypotheses of `ipo_exact`, as a check. -/
def closable (s : Sim) (ipo : IpoState) : Bool :=
  decide (s.exch.ipos.get? "ipo_1" = some ipo ∧ ipo.indications.entries ≠ [] ∧
    0 < ipo.sharesOffered) &&
  ipo.indications.entries.all (fun e => decide (0 < e.2.1)) &&
  (s.economy.firms.get? ipo.firmId).all fun firm => decide (firm.founderId ≠ ipo.firmId ∧
    ∀ payee ∈ [ipo.underwriterBankId, "gv_treasury"], payee ≠ ipo.firmId ∧ payee ≠ firm.founderId)

theorem closable_eq_true {s : Sim} {ipo : IpoState} (h : closable s ipo = true) :
    s.exch.ipos.get? "ipo_1" = some ipo ∧ ipo.indications.entries ≠ [] ∧ BookOk ipo ∧
      RolesApart s ipo := by
  unfold closable at h
  rw [Bool.and_eq_true, Bool.and_eq_true, decide_eq_true_eq] at h
  obtain ⟨⟨⟨hipo, hne, hoffered⟩, hqty⟩, hroles⟩ := h
  refine ⟨hipo, hne, ⟨hoffered, fun investor indication hi => ?_⟩, fun firm hfirm => ?_⟩
  · exact of_decide_eq_true (List.all_eq_true.mp hqty (investor, indication)
      (Dict.mem_entries_iff.mpr hi))
  · rw [hfirm] at hroles
    exact of_decide_eq_true hroles

/-- What the close recorded and credited: the primary cents, and what the
deposits of the firm and the founder got. -/
def closeFigures [Uuid5] (s : Sim) : Option (Int × Int × Int) :=
  match completeIpo {} "ipo_1" 3 s, depositAccount s.books "fm_s", depositAccount s.books "ag_f" with
  | .ok (_ :: completed :: _) s', .ok firm, .ok founder =>
    match completed.draft.payload.lookup "primary_cents" with
    | some (.int cents) =>
      some (cents, tradeCredits firm (newEntries s s'), tradeCredits founder (newEntries s s'))
    | _ => none
  | _, _, _ => none

theorem not_ipoLaw [Uuid5] {ipo : IpoState} {s : Sim} {recorded firm founder : Int}
    (hfirm : ipo.firmId = "fm_s") (h : closeFigures s = some (recorded, firm, founder))
    (hne : firm ≠ recorded) : ¬IpoLaw {} "ipo_1" 3 ipo s := by
  rintro ⟨_, _, _, completed, _, s', -, hrun, hexact⟩
  obtain ⟨deposit, cents, hdeposit, hrecorded, hcents⟩ := hexact.firm_paid
  rw [hfirm] at hdeposit
  unfold closeFigures at h
  rw [hrun, hdeposit] at h
  cases hfounder : depositAccount s.books "ag_f" with
  | error e =>
    rw [hfounder] at h
    cases h
  | ok founderDeposit =>
    rw [hfounder] at h
    dsimp only at h
    rw [hrecorded] at h
    cases h
    exact hne hcents

theorem ipo_exact_primary :
    letI : Uuid5 := ⟨fun run name => run ++ name⟩
    ∃ s, s.exch.ipos.get? "ipo_1" = some (storedIpo 3) ∧ IpoLaw {} "ipo_1" 3 (storedIpo 3) s := by
  let _ : Uuid5 := ⟨fun run name => run ++ name⟩
  have hbefore : outcome (bookOfThree 3 emptySim) (fun s => closable s (storedIpo 3) &&
      (outcome (completeIpo {} "ipo_1" 3 s) fun _ => true) = some true) = some true := by
    decide +kernel
  obtain ⟨_, s, -, hboth⟩ := outcome_eq_some hbefore
  obtain ⟨hclosable, hcloses⟩ := Bool.and_eq_true_iff.mp hboth
  obtain ⟨hipo, hne, hbook, hroles⟩ := closable_eq_true hclosable
  obtain ⟨events, s', hrun, -⟩ := outcome_eq_some (of_decide_eq_true hcloses)
  obtain ⟨firm, allocations, legs, hready⟩ := completeIpo_ready hipo hne hrun
  have hall : ipoPrimary ({} : Ctx).settings.exchange (storedIpo 3)
      = ipoSold ({} : Ctx).settings.exchange (storedIpo 3) := by decide +kernel
  refine ⟨s, hipo, (ipo_exact hipo hne hbook hroles).mpr ⟨firm, allocations, legs, hready,
    fun investor n _ => ?_⟩⟩
  rw [hall]
  exact dvd_mul_left _ _

/-- When one share of three is new, the event records ten cents for the firm,
and its deposit gets nine. -/
theorem ipo_rounds :
    letI : Uuid5 := ⟨fun run name => run ++ name⟩
    ∃ s, closable s (storedIpo 1) = true ∧ closeFigures s = some (10, 9, 21) ∧
      ¬IpoLaw {} "ipo_1" 3 (storedIpo 1) s := by
  let _ : Uuid5 := ⟨fun run name => run ++ name⟩
  have hbefore : outcome (bookOfThree 1 emptySim) (fun s => closable s (storedIpo 1) &&
      closeFigures s = some (10, 9, 21)) = some true := by
    decide +kernel
  obtain ⟨_, s, -, hboth⟩ := outcome_eq_some hbefore
  obtain ⟨hclosable, hfigures⟩ := Bool.and_eq_true_iff.mp hboth
  have hfigures := of_decide_eq_true hfigures
  exact ⟨s, hclosable, hfigures, not_ipoLaw rfl hfigures (by decide)⟩

end Polis.Economy.Exchange
