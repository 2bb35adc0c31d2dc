/-
  Polis.Economy.Credit.Scoring — the scorecard of a loan
  (`credit_score_bp` and `decide`, `economy/credit.py`).

  A score is made of five components, each a quotient rounded down and capped,
  and two flags that scale the whole down.  Income enters two components, in
  one of them as the divisor.

  Main results:
    * `scoring_monotone` — a sounder borrower scores at least as much, and
      with a risk spread that is not negative pays at most as much.
    * `negative_spread_inverts` — with a negative one the lower score borrows
      cheaper.
-/
import Polis.Economy.Central.Interbank

namespace Polis.Economy.Credit

open Lib Ledger

/-! ## Requests and borrowers -/

/-- `LoanRequest`. -/
structure LoanRequest where
  borrowerId : String
  lenderId : String
  principalCents : Int
  purpose : String
  termTicks : Int
  collateral : Dict String Value
  collateralValueCents : Int
  statedPurposeText : Option String := none

/-- `BorrowerState`. -/
structure BorrowerState where
  employedTicksLastYear : Int
  annualIncomeCents : Int
  annualDebtServiceCents : Int
  onTimePayments : Int
  totalPayments : Int
  totalDebtCents : Int
  totalAssetsCents : Int
  bankruptcyFlag : Bool
  delinquencyFlag : Bool

/-- `MarketState`. -/
structure MarketState where
  medianWageCents : Int
  ticksPerSimYear : Int

/-- The components of a score, each in basis points. -/
structure Components where
  incomeStability : Int
  dti : Int
  history : Int
  leverage : Int
  coverage : Int
  deriving Repr, DecidableEq

/-- Why a loan is not given. -/
inductive Reason where
  | creditScore | amountCap | capitalRatio | reserveRatio | concentration
  | llmUnavailable | llmDenied
  deriving Repr, DecidableEq

/-- The code of a reason. -/
def Reason.text : Reason → String
  | creditScore => "credit_score"
  | amountCap => "amount_cap"
  | capitalRatio => "capital_ratio"
  | reserveRatio => "reserve_ratio"
  | concentration => "concentration"
  | llmUnavailable => "llm_unavailable"
  | llmDenied => "llm_denied"

/-- `tuple(sorted(set(reasons)))`. -/
def reasonCodes (reasons : List Reason) : List Reason := sortedBy Reason.text reasons.dedup

@[simp] theorem mem_reasonCodes {r : Reason} {reasons : List Reason} :
    r ∈ reasonCodes reasons ↔ r ∈ reasons := by
  unfold reasonCodes
  rw [mem_sortedBy, List.mem_dedup]

/-- `LoanDecision`. -/
structure LoanDecision where
  approved : Bool
  scoreBp : Int
  components : Components
  offeredCents : Int
  annualRateBp : Int
  termTicks : Int
  reasonCodes : List Reason
  llmCallId : Option String := none
  deriving Repr, DecidableEq

/-! ## The score -/

/-- A quotient in basis points, rounded down and at most 10000. -/
def cappedBp (amount base : Int) : Int := min 10000 (10000 * amount / max 1 base)

/-- The components of `credit_score_bp`. -/
def scoreComponents (borrower : BorrowerState) (request : LoanRequest) (market : MarketState) :
    Components where
  incomeStability := cappedBp borrower.employedTicksLastYear market.ticksPerSimYear
    * cappedBp borrower.annualIncomeCents market.medianWageCents / 10000
  dti := cappedBp borrower.annualDebtServiceCents borrower.annualIncomeCents
  history := 10000 * (borrower.onTimePayments + 1) / (borrower.totalPayments + 2)
  leverage := cappedBp borrower.totalDebtCents borrower.totalAssetsCents
  coverage := cappedBp request.collateralValueCents request.principalCents

/-- The weighted components. -/
def Components.raw (c : Components) : Int :=
  (3000 * c.incomeStability + 2500 * (10000 - c.dti) + 2000 * c.history
    + 1500 * (10000 - c.leverage) + 1000 * c.coverage) / 10000

/-- What a flag leaves of a score. -/
def penalised (flag : Bool) (keepBp raw : Int) : Int := if flag then raw * keepBp / 10000 else raw

/-- `credit_score_bp(borrower, request, market)`. -/
def creditScoreBp (borrower : BorrowerState) (request : LoanRequest) (market : MarketState) :
    Int × Components :=
  let components := scoreComponents borrower request market
  let raw := penalised borrower.delinquencyFlag 7500
    (penalised borrower.bankruptcyFlag 5000 components.raw)
  (max 0 (min 10000 raw), components)

/-! ## The decision -/

section Decide

variable (ctx : Ctx)

/-- `ctx.ticks_per_year`. -/
def ticksPerYear : Int := ctx.settings.clock.daysPerSimYear * ctx.settings.clock.ticksPerSimDay

/-- `ctx.payment_interval_ticks`. -/
def paymentIntervalTicks : Int :=
  ctx.settings.credit.paymentIntervalDays * ctx.settings.clock.ticksPerSimDay

/-- The market a decision is made in. -/
def market : MarketState := ⟨ctx.settings.economy.medianWageCents, ticksPerYear ctx⟩

/-- The term of the loan: what is asked for, within the purpose's cap, and at
least one payment interval. -/
def termOf (request : LoanRequest) : Int :=
  let termCap := ctx.settings.credit.maxTermDays.getD request.purpose request.termTicks
    * ctx.settings.clock.ticksPerSimDay
  max (paymentIntervalTicks ctx) (min request.termTicks termCap)

/-- `income_cap`. -/
def incomeCap (borrower : BorrowerState) : Int :=
  bp borrower.annualIncomeCents ctx.settings.credit.maxLoanIncomeMultipleBp

/-- `collateral_cap`. -/
def collateralCap (request : LoanRequest) : Int :=
  if 0 < request.collateralValueCents then request.collateralValueCents else request.principalCents

/-- What borrower and collateral carry of the request. -/
def capacity (borrower : BorrowerState) (request : LoanRequest) : Int :=
  min request.principalCents (min (incomeCap ctx borrower) (collateralCap request))

/-- What the bank is owed by the borrower on live loans. -/
def existingCents (bankId borrowerId : String) (e : EconomyState) : Int :=
  ((e.loans.values.filter fun loan =>
    loan.lenderId = bankId ∧ loan.borrowerId = borrowerId ∧ loan.status.live).map
      LoanState.outstandingCents).sum

/-- What the bank's own state says against lending `offered`; nothing when
credit supply is exogenous. -/
def bankReasons (e : EconomyState) (borrowerId : String) (bank : BankState) (offered : Int) :
    Except PyError (List Reason) :=
  if ctx.settings.mechanisms.getD "credit_supply" "endogenous" = "exogenous" then .ok []
  else do
    let ratio := Central.capitalRatioBp ctx bank.bankId e
    let deposits ← Central.depositsCents bank.bankId e
    let reserves ← Central.reservesCents bank.bankId e
    let concentrationCap :=
      bp (Central.capitalCents bank.bankId e) ctx.settings.credit.concentrationBp
    .ok ((if bank.lendingFrozen ∨ ratio < ctx.settings.banking.capitalRatioMinBp
        then [.capitalRatio] else [])
      ++ (if reserves < bp (deposits + offered) bank.reserveRatioBp then [.reserveRatio] else [])
      ++ (if max 0 concentrationCap < existingCents bank.bankId borrowerId e + offered
        then [.concentration] else []))

/-- The yearly rate at a score. -/
def annualRate (e : EconomyState) (termTicks score : Int) : Int :=
  let riskGap := 10000 - score
  let riskSpread := ctx.settings.credit.riskSpreadK * riskGap * riskGap / 100000000
  let termYears := max 1 (termTicks / max 1 (ticksPerYear ctx))
  e.policyRateBp + ctx.settings.credit.baseSpreadBp + riskSpread
    + termYears * ctx.settings.credit.termPremiumBpPerYear

/-- `decide(request, borrower, bank)`. -/
def decide (e : EconomyState) (request : LoanRequest) (borrower : BorrowerState)
    (bank : BankState) : Except PyError LoanDecision := do
  let (score, components) := creditScoreBp borrower request (market ctx)
  let offered := capacity ctx borrower request
  let stressed := Central.capitalRatioBp ctx bank.bankId e < ctx.settings.banking.capitalBufferBp
  let scoreFloor := ctx.settings.credit.minScoreBp
    + (if stressed then ctx.settings.banking.stressScoreBumpBp else 0)
  let ofBank ← bankReasons ctx e request.borrowerId bank offered
  let reasons : List Reason := (if score < scoreFloor then [.creditScore] else [])
    ++ (if offered ≤ 0 then [.amountCap] else []) ++ ofBank
  .ok {
    approved := reasons.isEmpty
    scoreBp := score
    components := components
    offeredCents := if reasons.isEmpty then offered else 0
    annualRateBp := annualRate ctx e (termOf ctx request) score
    termTicks := termOf ctx request
    reasonCodes := reasonCodes reasons }

end Decide

/-! ## The score is monotone -/

/-- The fields of a borrower and a request are not negative. -/
structure Nonneg (borrower : BorrowerState) (request : LoanRequest) : Prop where
  employed : 0 ≤ borrower.employedTicksLastYear
  income : 0 ≤ borrower.annualIncomeCents
  debtService : 0 ≤ borrower.annualDebtServiceCents
  onTime : 0 ≤ borrower.onTimePayments
  total : 0 ≤ borrower.totalPayments
  debt : 0 ≤ borrower.totalDebtCents
  assets : 0 ≤ borrower.totalAssetsCents
  principal : 0 ≤ request.principalCents
  collateral : 0 ≤ request.collateralValueCents

/-- The second borrower with its request is at least as sound as the first:
more employment, income, payments on time and collateral, less debt, debt
service and principal, no flag the first does not have. -/
structure Sounder (b b' : BorrowerState) (r r' : LoanRequest) : Prop where
  employed : b.employedTicksLastYear ≤ b'.employedTicksLastYear
  income : b.annualIncomeCents ≤ b'.annualIncomeCents
  onTime : b.onTimePayments ≤ b'.onTimePayments
  total : b'.totalPayments = b.totalPayments
  collateral : r.collateralValueCents ≤ r'.collateralValueCents
  debtService : b'.annualDebtServiceCents ≤ b.annualDebtServiceCents
  debt : b'.totalDebtCents ≤ b.totalDebtCents
  assets : b'.totalAssetsCents = b.totalAssetsCents
  principal : r'.principalCents ≤ r.principalCents
  bankruptcy : b'.bankruptcyFlag = true → b.bankruptcyFlag = true
  delinquency : b'.delinquencyFlag = true → b.delinquencyFlag = true

theorem cappedBp_le (amount base : Int) : cappedBp amount base ≤ 10000 := min_le_left _ _

theorem cappedBp_nonneg {amount : Int} (h : 0 ≤ amount) (base : Int) :
    0 ≤ cappedBp amount base := by
  have hbase : 0 < max 1 base := lt_max_of_lt_left one_pos
  have hquot : 0 ≤ 10000 * amount / max 1 base := Int.ediv_nonneg (by omega) hbase.le
  unfold cappedBp
  omega

theorem cappedBp_mono {a a' b b' : Int} (ha : a ≤ a') (hb : b' ≤ b) (ha' : 0 ≤ a') :
    cappedBp a b ≤ cappedBp a' b' := by
  have hbase : 0 < max 1 b' := lt_max_of_lt_left one_pos
  have hbases : max 1 b' ≤ max 1 b := max_le_max le_rfl hb
  have hamount : 10000 * a / max 1 b ≤ 10000 * a' / max 1 b :=
    Int.ediv_le_ediv (hbase.trans_le hbases) (by omega)
  have hdivisor : 10000 * a' / max 1 b ≤ 10000 * a' / max 1 b' := by
    rw [Int.le_ediv_iff_mul_le hbase]
    calc 10000 * a' / max 1 b * max 1 b'
        ≤ 10000 * a' / max 1 b * max 1 b :=
          mul_le_mul_of_nonneg_left hbases
            (Int.ediv_nonneg (by omega) (hbase.trans_le hbases).le)
      _ ≤ 10000 * a' := Int.ediv_mul_le _ (hbase.trans_le hbases).ne'
  unfold cappedBp
  omega

section Monotone

variable {b b' : BorrowerState} {r r' : LoanRequest}

theorem scoreComponents_mono (hb : Nonneg b r) (hb' : Nonneg b' r') (h : Sounder b b' r r')
    (m : MarketState) :
    (scoreComponents b r m).incomeStability ≤ (scoreComponents b' r' m).incomeStability ∧
    (scoreComponents b' r' m).dti ≤ (scoreComponents b r m).dti ∧
    (scoreComponents b r m).history ≤ (scoreComponents b' r' m).history ∧
    (scoreComponents b' r' m).leverage ≤ (scoreComponents b r m).leverage ∧
    (scoreComponents b r m).coverage ≤ (scoreComponents b' r' m).coverage := by
  refine ⟨?_, ?_, ?_, ?_, ?_⟩
  · -- employment and income are multiplied, both capped
    have hemployed := cappedBp_mono (b := m.ticksPerSimYear) h.employed le_rfl hb'.employed
    have hincome := cappedBp_mono (b := m.medianWageCents) h.income le_rfl hb'.income
    have hproduct := mul_le_mul hemployed hincome (cappedBp_nonneg hb.income _)
      (cappedBp_nonneg hb'.employed _)
    exact Int.ediv_le_ediv (by omega) hproduct
  · exact cappedBp_mono h.debtService h.income hb.debtService
  · show 10000 * (b.onTimePayments + 1) / (b.totalPayments + 2)
      ≤ 10000 * (b'.onTimePayments + 1) / (b'.totalPayments + 2)
    have honTime := h.onTime
    have htotal := hb.total
    rw [h.total]
    exact Int.ediv_le_ediv (by omega) (by omega)
  · exact cappedBp_mono h.debt h.assets.ge hb.debt
  · exact cappedBp_mono h.collateral h.principal hb'.collateral

theorem raw_nonneg (hb : Nonneg b r) (m : MarketState) : 0 ≤ (scoreComponents b r m).raw := by
  have hstability : 0 ≤ (scoreComponents b r m).incomeStability :=
    Int.ediv_nonneg (mul_nonneg (cappedBp_nonneg hb.employed _) (cappedBp_nonneg hb.income _))
      (by omega)
  have hdti : (scoreComponents b r m).dti ≤ 10000 := cappedBp_le _ _
  have hleverage : (scoreComponents b r m).leverage ≤ 10000 := cappedBp_le _ _
  have hcoverage : 0 ≤ (scoreComponents b r m).coverage := cappedBp_nonneg hb.collateral _
  have hhistory : 0 ≤ (scoreComponents b r m).history := by
    have honTime := hb.onTime
    have htotal := hb.total
    exact Int.ediv_nonneg (by omega) (by omega)
  unfold Components.raw
  omega

theorem raw_mono (hb : Nonneg b r) (hb' : Nonneg b' r') (h : Sounder b b' r r')
    (m : MarketState) : (scoreComponents b r m).raw ≤ (scoreComponents b' r' m).raw := by
  obtain ⟨hstability, hdti, hhistory, hleverage, hcoverage⟩ := scoreComponents_mono hb hb' h m
  unfold Components.raw
  omega

theorem penalised_nonneg {flag : Bool} {keepBp raw : Int} (hkeep : 0 ≤ keepBp) (hraw : 0 ≤ raw) :
    0 ≤ penalised flag keepBp raw := by
  have hscaled : 0 ≤ raw * keepBp / 10000 := Int.ediv_nonneg (mul_nonneg hraw hkeep) (by omega)
  unfold penalised
  split <;> omega

theorem penalised_mono {flag flag' : Bool} (keepBp : Int) {raw raw' : Int} (hkeep : 0 ≤ keepBp)
    (hkeep' : keepBp ≤ 10000) (hraw : 0 ≤ raw) (hle : raw ≤ raw')
    (hflag : flag' = true → flag = true) :
    penalised flag keepBp raw ≤ penalised flag' keepBp raw' := by
  have hscaled : raw * keepBp / 10000 ≤ raw' * keepBp / 10000 :=
    Int.ediv_le_ediv (by omega) (mul_le_mul_of_nonneg_right hle hkeep)
  have hkept : raw * keepBp / 10000 ≤ raw := by
    have := mul_le_mul_of_nonneg_left hkeep' hraw
    omega
  unfold penalised
  cases hf : flag with
  | true => cases flag' <;> simp <;> omega
  | false =>
    have hf' : flag' = false := by
      cases hf'' : flag' with
      | false => rfl
      | true => exact absurd (hflag hf'') (by rw [hf]; simp)
    rw [hf']
    exact hle

theorem creditScoreBp_range (b : BorrowerState) (r : LoanRequest) (m : MarketState) :
    0 ≤ (creditScoreBp b r m).1 ∧ (creditScoreBp b r m).1 ≤ 10000 := by
  unfold creditScoreBp
  dsimp only
  omega

theorem creditScoreBp_mono (hb : Nonneg b r) (hb' : Nonneg b' r') (h : Sounder b b' r r')
    (m : MarketState) : (creditScoreBp b r m).1 ≤ (creditScoreBp b' r' m).1 := by
  have hbankrupt := penalised_mono 5000 (by omega) (by omega) (raw_nonneg hb m)
    (raw_mono hb hb' h m) h.bankruptcy
  have hraw := penalised_mono 7500 (by omega) (by omega)
    (penalised_nonneg (by omega) (raw_nonneg hb m)) hbankrupt h.delinquency
  unfold creditScoreBp
  dsimp only
  omega

end Monotone

/-! ## The rate falls with the score -/

theorem annualRate_anti {ctx : Ctx} (hk : 0 ≤ ctx.settings.credit.riskSpreadK)
    {e e' : EconomyState} (hpolicy : e.policyRateBp = e'.policyRateBp) (termTicks : Int)
    {score score' : Int} (hle : score ≤ score') (htop : score' ≤ 10000) :
    annualRate ctx e' termTicks score' ≤ annualRate ctx e termTicks score := by
  have hgap : (10000 - score') * (10000 - score') ≤ (10000 - score) * (10000 - score) :=
    mul_le_mul (by omega) (by omega) (by omega) (by omega)
  have hspread : ctx.settings.credit.riskSpreadK * (10000 - score') * (10000 - score') / 100000000
      ≤ ctx.settings.credit.riskSpreadK * (10000 - score) * (10000 - score) / 100000000 := by
    apply Int.ediv_le_ediv (by omega)
    rw [mul_assoc, mul_assoc]
    exact mul_le_mul_of_nonneg_left hgap hk
  unfold annualRate
  dsimp only
  rw [hpolicy]
  omega

theorem decide_eq_ok {ctx : Ctx} {e : EconomyState} {r : LoanRequest} {b : BorrowerState}
    {bank : BankState} {d : LoanDecision} (h : decide ctx e r b bank = .ok d) :
    d.scoreBp = (creditScoreBp b r (market ctx)).1 ∧ d.termTicks = termOf ctx r ∧
      d.annualRateBp = annualRate ctx e d.termTicks d.scoreBp := by
  unfold decide at h
  dsimp only at h
  obtain ⟨ofBank, -, hd⟩ := Lib.Effect.except_bind_eq_ok.mp h
  cases hd
  exact ⟨rfl, rfl, rfl⟩

/-- **Scoring is monotone.**  Every score lies in 0..10000; of two cases with
fields that are not negative the sounder one scores at least as much; and of
two decisions for one term under one policy rate the one with the higher score
costs at most as much, when the risk spread is not negative. -/
theorem scoring_monotone (ctx : Ctx) :
    (∀ b r m, 0 ≤ (creditScoreBp b r m).1 ∧ (creditScoreBp b r m).1 ≤ 10000) ∧
    (∀ b b' r r' m, Nonneg b r → Nonneg b' r' → Sounder b b' r r' →
      (creditScoreBp b r m).1 ≤ (creditScoreBp b' r' m).1) ∧
    (0 ≤ ctx.settings.credit.riskSpreadK →
      ∀ e e' r r' b b' bank bank' d d',
        decide ctx e r b bank = .ok d → decide ctx e' r' b' bank' = .ok d' →
        e.policyRateBp = e'.policyRateBp → d.termTicks = d'.termTicks →
        d.scoreBp ≤ d'.scoreBp → d'.annualRateBp ≤ d.annualRateBp) := by
  refine ⟨creditScoreBp_range, ?_, ?_⟩
  · intro b b' r r' m hb hb' h
    exact creditScoreBp_mono hb hb' h m
  · intro hk e e' r r' b b' bank bank' d d' hd hd' hpolicy hterm hscore
    obtain ⟨-, -, hrate⟩ := decide_eq_ok hd
    obtain ⟨hscore', -, hrate'⟩ := decide_eq_ok hd'
    have htop : d'.scoreBp ≤ 10000 := hscore' ▸ (creditScoreBp_range b' r' (market ctx)).2
    rw [hrate, hrate', ← hterm]
    exact annualRate_anti hk hpolicy _ hscore htop

/-! ## A case -/

/-- A lender whose own state does not count. -/
def outsideCredit (riskSpreadK : Int) : Ctx where
  settings := {
    credit := { riskSpreadK }
    mechanisms := (∅ : Dict String String).put "credit_supply" "exogenous" }

/-- An economy without rows. -/
def emptyEconomy : EconomyState := { ledger := { runId := "run" }, exchange := {}, ventures := {} }

/-- A year's loan of 1000 cents. -/
def smallRequest : LoanRequest := ⟨"ag_a", "bk_1", 1000, "consumer", 8640, ∅, 0, none⟩

/-- A borrower with a year's income, employed for a number of ticks. -/
def worker (employed : Int) : BorrowerState := ⟨employed, 3600000, 0, 0, 0, 0, 0, false, false⟩

theorem nonneg_worker {employed : Int} (h : 0 ≤ employed) :
    Nonneg (worker employed) smallRequest := by
  constructor <;> simp [worker, smallRequest, h]

/-- The bank of the case. -/
def lender : BankState where
  bankId := "bk_1"
  name := "bk_1"
  placeId := "pl_1"
  reserveAccountId := ⟨.res, "bk_1", none, none, by decide, ofNone, ofNone, none_isSome, none_isSome⟩
  depositLiabilityAccountId := ⟨.dpl, "bk_1", none, none, by decide, ofNone, ofNone, none_isSome, none_isSome⟩
  isCentral := false

theorem scoring_monotone_worker :
    (creditScoreBp (worker 0) smallRequest (market (outsideCredit 6000))).1
        ≤ (creditScoreBp (worker 8640) smallRequest (market (outsideCredit 6000))).1 ∧
      ∀ d d', decide (outsideCredit 6000) emptyEconomy smallRequest (worker 0) lender = .ok d →
        decide (outsideCredit 6000) emptyEconomy smallRequest (worker 8640) lender = .ok d' →
        d.termTicks = d'.termTicks → d.scoreBp ≤ d'.scoreBp → d'.annualRateBp ≤ d.annualRateBp := by
  obtain ⟨-, hscore, hrate⟩ := scoring_monotone (outsideCredit 6000)
  constructor
  · apply hscore _ _ _ _ _ (nonneg_worker (by decide)) (nonneg_worker (by decide))
    constructor <;> simp [worker, smallRequest]
  · intro d d' hd hd' hterm hle
    exact hrate (by decide) _ _ _ _ _ _ _ _ _ _ hd hd' rfl hterm hle

theorem decide_outside (k : Int) (b : BorrowerState) :
    ∃ d, decide (outsideCredit k) emptyEconomy smallRequest b lender = .ok d := by
  have hbank : bankReasons (outsideCredit k) emptyEconomy smallRequest.borrowerId lender
      (capacity (outsideCredit k) b smallRequest) = .ok [] := if_pos rfl
  unfold decide
  dsimp only
  rw [hbank]
  exact ⟨_, rfl⟩

theorem negative_spread_inverts :
    ∃ ctx e r b b' bank d d', Nonneg b r ∧ Nonneg b' r ∧
      decide ctx e r b bank = .ok d ∧ decide ctx e r b' bank = .ok d' ∧
      d.termTicks = d'.termTicks ∧ d.scoreBp ≤ d'.scoreBp ∧ d.annualRateBp < d'.annualRateBp := by
  obtain ⟨d, hd⟩ := decide_outside (-6000) (worker 0)
  obtain ⟨d', hd'⟩ := decide_outside (-6000) (worker 8640)
  obtain ⟨hscore, hterm, hrate⟩ := decide_eq_ok hd
  obtain ⟨hscore', hterm', hrate'⟩ := decide_eq_ok hd'
  refine ⟨_, _, _, _, _, _, d, d', nonneg_worker (by decide), nonneg_worker (by decide), hd, hd',
    hterm.trans hterm'.symm, ?_, ?_⟩
  · rw [hscore, hscore']
    decide +kernel
  · rw [hrate, hrate', hterm, hterm', hscore, hscore']
    decide +kernel

end Polis.Economy.Credit
