/-
  Polis.Economy.Credit.Underwriting — a language model as credit officer
  (`decide_with_underwriting`, `economy/credit.py`).

  The model is asked after the scorecard has decided, and answers with an
  amount of its own.  What the bank's state says was worked out for another
  amount: a smaller one passes wherever the larger did, unless both the
  reserve ratio and the reserves are negative.

  Main results:
    * `underwriting_bounded` — what is approved keeps within the bank's
      constraints, whatever the reply.
    * `underwriting_overshoots` — with negative reserves and a negative
      reserve ratio a smaller amount can break them.
-/
import Polis.Economy.Credit.Scoring
import Polis.Llm.Router

namespace Polis.Economy.Credit

open Lib Lib.Effect Ledger
open Polis.Llm (Json CallRequest CallResult LlmError canonicalJson)

/-! ## The question -/

/-- What a decision can raise. -/
inductive UnderwritingError where
  | economy (e : PyError)
  | llm (e : LlmError)

/-- A computation on the economy alone. -/
def ofEconomy {α : Type} (x : Except PyError α) : Except UnderwritingError α :=
  x.mapError .economy

mutual

/-- A value as JSON. -/
def jsonOf : Value → Json
  | .none => .none
  | .bool b => .bool b
  | .int n => .int n
  | .str s => .str s
  | .list xs => .list (jsonItems xs)
  | .dict xs => .dict (jsonMembers xs)

def jsonItems : List Value → List Json
  | [] => []
  | x :: xs => jsonOf x :: jsonItems xs

def jsonMembers : List (String × Value) → List (String × Json)
  | [] => []
  | (k, x) :: xs => (k, jsonOf x) :: jsonMembers xs

end

/-- `CREDIT_EVAL_SCHEMA`. -/
def CREDIT_EVAL_SCHEMA : Json := .dict [
  ("type", .str "object"),
  ("properties", .dict [
    ("approve", .dict [("type", .str "boolean")]),
    ("rate_view_bp",
      .dict [("type", .str "integer"), ("minimum", .int 0), ("maximum", .int 10000)]),
    ("amount_view_cents",
      .dict [("type", .str "integer"), ("minimum", .int 0), ("maximum", .int 10000000000)]),
    ("concerns", .dict [("type", .str "array"),
      ("items", .dict [("type", .str "string"), ("maxLength", .int 80)]),
      ("maxItems", .int 8)])]),
  ("required",
    .list [.str "approve", .str "rate_view_bp", .str "amount_view_cents", .str "concerns"]),
  ("additionalProperties", .bool false)]

/-- `asdict(request)`. -/
def LoanRequest.asDict (r : LoanRequest) : Json := .dict [
  ("borrower_id", .str r.borrowerId), ("lender_id", .str r.lenderId),
  ("principal_cents", .int r.principalCents), ("purpose", .str r.purpose),
  ("term_ticks", .int r.termTicks), ("collateral", .dict (jsonMembers r.collateral.entries)),
  ("collateral_value_cents", .int r.collateralValueCents),
  ("stated_purpose_text", Json.ofStr? r.statedPurposeText)]

/-- `asdict(borrower)`. -/
def BorrowerState.asDict (b : BorrowerState) : Json := .dict [
  ("employed_ticks_last_year", .int b.employedTicksLastYear),
  ("annual_income_cents", .int b.annualIncomeCents),
  ("annual_debt_service_cents", .int b.annualDebtServiceCents),
  ("on_time_payments", .int b.onTimePayments), ("total_payments", .int b.totalPayments),
  ("total_debt_cents", .int b.totalDebtCents), ("total_assets_cents", .int b.totalAssetsCents),
  ("bankruptcy_flag", .bool b.bankruptcyFlag), ("delinquency_flag", .bool b.delinquencyFlag)]

/-- The components as a mapping. -/
def Components.asDict (c : Components) : Json := .dict [
  ("income_stability", .int c.incomeStability), ("dti", .int c.dti), ("history", .int c.history),
  ("leverage", .int c.leverage), ("coverage", .int c.coverage)]

/-- The scorecard as the prompt shows it. -/
def LoanDecision.reference (d : LoanDecision) : Json := .dict [
  ("approved", .bool d.approved), ("score_bp", .int d.scoreBp),
  ("components", d.components.asDict), ("offered_cents", .int d.offeredCents),
  ("annual_rate_bp", .int d.annualRateBp),
  ("reason_codes", .list (d.reasonCodes.map fun r => .str r.text))]

/-! ## The reply -/

/-- The reasons a model cannot talk away. -/
def Reason.hard : Reason → Bool
  | .amountCap | .capitalRatio | .reserveRatio | .concentration => true
  | _ => false

/-- A reply that decides nothing. -/
def unusable (reply : CallResult) : Prop :=
  reply.degraded = true ∨ reply.parsedOk = false ∨ reply.parsed = none

instance (reply : CallResult) : Decidable (unusable reply) :=
  inferInstanceAs (Decidable (_ ∨ _ ∨ _ = none))

/-- `parsed[key]`; `parsed` is a mapping. -/
def member (parsed : Json) (key : String) : Except UnderwritingError Json :=
  match parsed with
  | .dict xs =>
    match xs.lookup key with
    | some x => .ok x
    | none => .error (.economy (.key key))
  | _ => .error (.economy (.runtime "parsed is not a mapping"))

section Decide

-- `toInt` is `int(value)` of a parsed member, `router` what `router.call` returns or raises
variable (toInt : Json → Except UnderwritingError Int)
  (router : CallRequest → Except UnderwritingError CallResult) (ctx : Ctx)

/-- What the model is asked. -/
def creditRequest (e : EconomyState) (request : LoanRequest) (borrower : BorrowerState)
    (bank : BankState) (scorecard : LoanDecision) (tick : Int) :
    Except UnderwritingError CallRequest := do
  let reserves ← ofEconomy (Central.reservesCents bank.bankId e)
  let deposits ← ofEconomy (Central.depositsCents bank.bankId e)
  let prompt ← (canonicalJson (.dict [
    ("instruction", .str ("Assess this loan using only the supplied simulation state. Return the "
      ++ "requested structured decision without naming a provider or system.")),
    ("request", request.asDict),
    ("borrower", borrower.asDict),
    ("scorecard_reference", scorecard.reference),
    ("bank_constraints", .dict [
      ("capital_ratio_bp", .int (Central.capitalRatioBp ctx bank.bankId e)),
      ("minimum_capital_ratio_bp", .int ctx.settings.banking.capitalRatioMinBp),
      ("reserve_cents", .int reserves), ("deposit_cents", .int deposits),
      ("lending_frozen", .bool bank.lendingFrozen)]),
    ("stated_purpose", Json.ofStr? request.statedPurposeText)])).mapError .llm
  .ok {
    purpose := .creditEval
    agentId := request.borrowerId
    tick := tick
    promptVariables := Dict.ofList [
      ("system", .str "You are a bank credit officer operating inside a simulation."),
      ("prompt", .str prompt)]
    schema := some CREDIT_EVAL_SCHEMA }

/-- The decision after a reply. -/
def afterReply (e : EconomyState) (request : LoanRequest) (borrower : BorrowerState)
    (scorecard : LoanDecision) (reply : CallResult) : Except UnderwritingError LoanDecision :=
  if unusable reply then
    .ok { scorecard with
      approved := false
      offeredCents := 0
      reasonCodes := reasonCodes (scorecard.reasonCodes ++ [.llmUnavailable])
      llmCallId := some reply.callId }
  else do
    let parsed := reply.parsed.getD .none
    let hardReasons := scorecard.reasonCodes.filter Reason.hard
    let approve ← member parsed "approve"
    let amountMember ← member parsed "amount_view_cents"
    let amountInt ← toInt amountMember
    let offered := if approve.truthy ∧ hardReasons = []
      then min (capacity ctx borrower request) (max 0 amountInt) else 0
    let rateMember ← member parsed "rate_view_bp"
    let rateView ← toInt rateMember
    .ok {
      approved := approve.truthy && hardReasons.isEmpty && 0 < offered
      scoreBp := scorecard.scoreBp
      components := scorecard.components
      offeredCents := offered
      annualRateBp := max e.policyRateBp (min 10000 rateView)
      termTicks := scorecard.termTicks
      reasonCodes := reasonCodes (hardReasons
        ++ (if ¬approve.truthy then [.llmDenied] else [])
        ++ (if offered ≤ 0 ∧ .amountCap ∉ hardReasons then [.amountCap] else []))
      llmCallId := some reply.callId }

/-- `decide_with_underwriting(request, borrower, bank, tick=)`. -/
def decideWithUnderwriting (e : EconomyState) (request : LoanRequest) (borrower : BorrowerState)
    (bank : BankState) (tick : Int) : Except UnderwritingError LoanDecision := do
  let scorecard ← ofEconomy (decide ctx e request borrower bank)
  if ctx.settings.banking.underwriting = .scorecard then .ok scorecard
  else do
    let question ← creditRequest ctx e request borrower bank scorecard tick
    let reply ← router question
    afterReply toInt ctx e request borrower scorecard reply

end Decide

/-! ## A smaller amount passes -/

/-- The bank's state says nothing against an amount. -/
def Passes (ctx : Ctx) (e : EconomyState) (borrowerId : String) (bank : BankState) (offered : Int) :
    Prop := bankReasons ctx e borrowerId bank offered = .ok []

/-- The reserve ratio or the reserves of a bank are not negative. -/
def Backed (e : EconomyState) (bank : BankState) : Prop :=
  0 ≤ bank.reserveRatioBp ∨
    ∀ reserves, Central.reservesCents bank.bankId e = .ok reserves → 0 ≤ reserves

theorem depositsCents_nonneg {bankId : String} {e : EconomyState} {deposits : Int}
    (h : Central.depositsCents bankId e = .ok deposits) : 0 ≤ deposits := by
  unfold Central.depositsCents at h
  obtain ⟨bank, -, h⟩ := except_bind_eq_ok.mp h
  obtain ⟨balance, -, h⟩ := except_bind_eq_ok.mp h
  cases h
  exact le_max_left _ _

theorem reserves_suffice {ratio reserves deposits small large : Int}
    (hratio : 0 ≤ ratio ∨ 0 ≤ reserves) (hdeposits : 0 ≤ deposits) (hpos : 0 ≤ small)
    (hle : small ≤ large) (h : bp (deposits + large) ratio ≤ reserves) :
    bp (deposits + small) ratio ≤ reserves := by
  unfold bp at h ⊢
  rcases le_or_gt 0 ratio with hr | hr
  · have hmono : (deposits + small) * ratio ≤ (deposits + large) * ratio :=
      mul_le_mul_of_nonneg_right (by omega) hr
    have := Int.ediv_le_ediv (c := 10000) (by omega) hmono
    omega
  · have hneg : (deposits + small) * ratio ≤ 0 :=
      mul_nonpos_of_nonneg_of_nonpos (by omega) hr.le
    have hreserves : 0 ≤ reserves := by omega
    omega

theorem Passes.smaller {ctx : Ctx} {e : EconomyState} {borrowerId : String} {bank : BankState}
    {small large : Int} (h : Passes ctx e borrowerId bank large) (hbacked : Backed e bank)
    (hpos : 0 ≤ small) (hle : small ≤ large) : Passes ctx e borrowerId bank small := by
  unfold Passes bankReasons at h ⊢
  split at h
  · rename_i hexogenous
    rw [if_pos hexogenous]
  · rename_i hendogenous
    rw [if_neg hendogenous]
    dsimp only at h ⊢
    obtain ⟨deposits, hdeposits, h⟩ := except_bind_eq_ok.mp h
    obtain ⟨reserves, hreserves, h⟩ := except_bind_eq_ok.mp h
    simp only [Except.ok.injEq, List.append_eq_nil_iff, ite_eq_right_iff, reduceCtorEq, imp_false,
      not_lt] at h
    obtain ⟨⟨hcapital, hreserve⟩, hconcentration⟩ := h
    have hratio : 0 ≤ bank.reserveRatioBp ∨ 0 ≤ reserves := by
      rcases hbacked with hratio | hres
      · exact .inl hratio
      · exact .inr (hres reserves hreserves)
    have hsmall := reserves_suffice hratio (depositsCents_nonneg hdeposits) hpos hle hreserve
    rw [hdeposits, hreserves]
    show Except.ok _ = _
    rw [if_neg hcapital, if_neg (not_lt.mpr hsmall), if_neg (by omega)]
    rfl

/-! ## What is approved -/

/-- A decision keeps within the bank's constraints. -/
structure WithinBank (ctx : Ctx) (e : EconomyState) (request : LoanRequest)
    (borrower : BorrowerState) (bank : BankState) (scorecard d : LoanDecision) : Prop where
  no_hard : ∀ r ∈ scorecard.reasonCodes, r.hard = false
  positive : 0 < d.offeredCents
  within : d.offeredCents ≤ capacity ctx borrower request
  passes : Passes ctx e request.borrowerId bank d.offeredCents

/-- What a scorecard without hard reasons found. -/
structure Clear (ctx : Ctx) (e : EconomyState) (request : LoanRequest)
    (borrower : BorrowerState) (bank : BankState) : Prop where
  capacity_pos : 0 < capacity ctx borrower request
  passes : Passes ctx e request.borrowerId bank (capacity ctx borrower request)

theorem bankReasons_hard {ctx : Ctx} {e : EconomyState} {borrowerId : String} {bank : BankState}
    {offered : Int} {reasons : List Reason}
    (h : bankReasons ctx e borrowerId bank offered = .ok reasons) :
    ∀ r ∈ reasons, r.hard = true := by
  unfold bankReasons at h
  split at h
  · cases h
    simp
  · dsimp only at h
    obtain ⟨deposits, -, h⟩ := except_bind_eq_ok.mp h
    obtain ⟨reserves, -, h⟩ := except_bind_eq_ok.mp h
    cases h
    intro r hr
    simp only [List.mem_append, List.mem_ite_nil_right, List.mem_singleton] at hr
    rcases hr with (⟨-, rfl⟩ | ⟨-, rfl⟩) | ⟨-, rfl⟩ <;> rfl

section Approval

variable {ctx : Ctx} {e : EconomyState} {request : LoanRequest} {borrower : BorrowerState}
  {bank : BankState} {scorecard d : LoanDecision}

theorem clear_of_scorecard (h : decide ctx e request borrower bank = .ok scorecard)
    (hhard : ∀ r ∈ scorecard.reasonCodes, r.hard = false) : Clear ctx e request borrower bank := by
  unfold decide at h
  dsimp only at h
  obtain ⟨ofBank, hbank, h⟩ := except_bind_eq_ok.mp h
  cases h
  simp only [mem_reasonCodes, List.mem_append, List.mem_ite_nil_right, List.mem_singleton] at hhard
  constructor
  · by_contra hnot
    exact absurd (hhard .amountCap (.inl (.inr ⟨not_lt.mp hnot, rfl⟩))) (by simp [Reason.hard])
  · have hnil : ofBank = [] := by
      rw [List.eq_nil_iff_forall_not_mem]
      intro r hr
      have hfalse := hhard r (.inr hr)
      rw [bankReasons_hard hbank r hr] at hfalse
      cases hfalse
    rw [hnil] at hbank
    exact hbank

theorem scorecard_approved (h : decide ctx e request borrower bank = .ok scorecard)
    (happroved : scorecard.approved = true) :
    scorecard.reasonCodes = [] ∧ scorecard.offeredCents = capacity ctx borrower request := by
  unfold decide at h
  dsimp only at h
  obtain ⟨ofBank, -, h⟩ := except_bind_eq_ok.mp h
  cases h
  dsimp only at happroved ⊢
  rw [if_pos happroved]
  refine ⟨?_, rfl⟩
  rw [List.isEmpty_iff] at happroved
  rw [happroved]
  rfl

variable {toInt : Json → Except UnderwritingError Int} {reply : CallResult}

theorem unusable_denied (h : afterReply toInt ctx e request borrower scorecard reply = .ok d)
    (hreply : unusable reply) : d.approved = false := by
  unfold afterReply at h
  rw [if_pos hreply] at h
  cases h
  rfl

theorem afterReply_approved (h : afterReply toInt ctx e request borrower scorecard reply = .ok d)
    (happroved : d.approved = true) :
    (∀ r ∈ scorecard.reasonCodes, r.hard = false) ∧ 0 < d.offeredCents ∧
      d.offeredCents ≤ capacity ctx borrower request := by
  unfold afterReply at h
  split at h
  · cases h
    cases happroved
  · dsimp only at h
    obtain ⟨approve, -, h⟩ := except_bind_eq_ok.mp h
    obtain ⟨amountMember, -, h⟩ := except_bind_eq_ok.mp h
    obtain ⟨amount, -, h⟩ := except_bind_eq_ok.mp h
    obtain ⟨rateMember, -, h⟩ := except_bind_eq_ok.mp h
    obtain ⟨rate, -, h⟩ := except_bind_eq_ok.mp h
    cases h
    simp only [Bool.and_eq_true, List.isEmpty_iff, decide_eq_true_eq] at happroved
    obtain ⟨⟨htruthy, hhard⟩, hpos⟩ := happroved
    refine ⟨?_, hpos, ?_⟩
    · intro r hr
      by_contra hnot
      exact List.filter_eq_nil_iff.mp hhard r hr (by simpa using hnot)
    · show (if _ then _ else _) ≤ _
      rw [if_pos ⟨htruthy, hhard⟩]
      exact min_le_left _ _

theorem withinBank_of_clear (h : decide ctx e request borrower bank = .ok scorecard)
    (hbacked : Backed e bank) (hhard : ∀ r ∈ scorecard.reasonCodes, r.hard = false)
    (hpos : 0 < d.offeredCents) (hle : d.offeredCents ≤ capacity ctx borrower request) :
    WithinBank ctx e request borrower bank scorecard d where
  no_hard := hhard
  positive := hpos
  within := hle
  passes := (clear_of_scorecard h hhard).passes.smaller hbacked hpos.le hle

end Approval

/-- **A model cannot talk a bank out of its constraints.**  Whatever the
router replies and however its members are read, an approved decision keeps
within them, and an unusable reply approves nothing. -/
theorem underwriting_bounded (toInt : Json → Except UnderwritingError Int)
    (router : CallRequest → Except UnderwritingError CallResult) (ctx : Ctx) (e : EconomyState)
    (request : LoanRequest) (borrower : BorrowerState) (bank : BankState) (tick : Int)
    (d : LoanDecision) (hbacked : Backed e bank)
    (hrun : decideWithUnderwriting toInt router ctx e request borrower bank tick = .ok d) :
    (d.approved = true → ∃ scorecard, decide ctx e request borrower bank = .ok scorecard ∧
      WithinBank ctx e request borrower bank scorecard d) ∧
    (ctx.settings.banking.underwriting = .llm →
      ∀ scorecard question reply, decide ctx e request borrower bank = .ok scorecard →
        creditRequest ctx e request borrower bank scorecard tick = .ok question →
        router question = .ok reply → unusable reply → d.approved = false) := by
  unfold decideWithUnderwriting at hrun
  obtain ⟨scorecard, hscorecard, hrun⟩ := except_bind_eq_ok.mp hrun
  have hdecided : decide ctx e request borrower bank = .ok scorecard := by
    unfold ofEconomy at hscorecard
    cases hx : decide ctx e request borrower bank with
    | ok x =>
      rw [hx] at hscorecard
      cases hscorecard
      rfl
    | error x =>
      rw [hx] at hscorecard
      cases hscorecard
  by_cases hmode : ctx.settings.banking.underwriting = .scorecard
  · rw [if_pos hmode] at hrun
    cases hrun
    constructor
    · intro happroved
      obtain ⟨hnone, hoffered⟩ := scorecard_approved hdecided happroved
      have hhard : ∀ r ∈ d.reasonCodes, r.hard = false := by
        rw [hnone]
        simp
      refine ⟨d, hdecided, withinBank_of_clear hdecided hbacked hhard ?_ hoffered.le⟩
      rw [hoffered]
      exact (clear_of_scorecard hdecided hhard).capacity_pos
    · intro hllm
      rw [hmode] at hllm
      cases hllm
  · rw [if_neg hmode] at hrun
    obtain ⟨question, hquestion, hrun⟩ := except_bind_eq_ok.mp hrun
    obtain ⟨reply, hreply, hrun⟩ := except_bind_eq_ok.mp hrun
    constructor
    · intro happroved
      obtain ⟨hhard, hpos, hle⟩ := afterReply_approved hrun happroved
      exact ⟨scorecard, hdecided, withinBank_of_clear hdecided hbacked hhard hpos hle⟩
    · intro _ scorecard' question' reply' hscorecard' hquestion' hreply' hunusable
      -- the question asked and the reply to it are this one
      rw [hdecided] at hscorecard'
      cases hscorecard'
      rw [hquestion] at hquestion'
      cases hquestion'
      rw [hreply] at hreply'
      cases hreply'
      exact unusable_denied hrun hunusable

/-! ## A case -/

/-- A bank that lends on a model's word. -/
def modelBank : Ctx where
  settings := { banking := { underwriting := .llm } }

/-- The bank of the case, with a reserve ratio. -/
def ratioLender (reserveRatioBp : Int) : BankState := { lender with reserveRatioBp }

/-- Its books: some reserves, no deposits, 1000 cents of bonds. -/
def lenderBooks (reserves : Int) : EconomyState where
  ledger := {
    runId := "run"
    accounts := Dict.ofList [
      (lender.reserveAccountId, ⟨"bank", "POL", 0, none, reserves, reserves⟩),
      (lender.depositLiabilityAccountId, ⟨"bank", "POL", 0, none, 0, 0⟩)] }
  banks := (∅ : Dict String BankState).put "bk_1" lender
  bondHoldingsCents := (∅ : Dict String (Dict String Int)).put "bk_1"
    ((∅ : Dict String Int).put "bd_1" 1000)
  exchange := {}
  ventures := {}

/-- A reply that approves an amount. -/
def approving (amount : Int) : CallResult where
  callId := "call"
  purpose := .creditEval
  text := ""
  parsed := some (.dict [("approve", .bool true), ("rate_view_bp", .int 300),
    ("amount_view_cents", .int amount), ("concerns", .list [])])
  parsedOk := true
  lane := "main"
  model := "model"
  modelVersion := none
  cacheKey := ""
  cacheHit := false
  cacheMode := .live
  tokensIn := 0
  tokensOut := 0
  tokensCachedIn := 0
  costUsd := 0
  latencyMs := 0
  degraded := false
  budgetLine := "main"
  providerRequestId := none
  error := none

/-- A member that is an integer. -/
def intMember : Json → Except UnderwritingError Int
  | .int n => .ok n
  | _ => .error (.economy (.value "invalid literal for int()"))

/-- A hundred cents asked for, ten approved. -/
def underwritten (reserves reserveRatioBp : Int) : Except UnderwritingError LoanDecision :=
  decideWithUnderwriting intMember (fun _ => .ok (approving 10)) modelBank (lenderBooks reserves)
    { smallRequest with principalCents := 100 } (worker 8640) (ratioLender reserveRatioBp) 1

theorem underwritten_approved (reserves ratio : Int)
    (h : ((underwritten reserves ratio).toOption.map fun d => (d.approved, d.offeredCents))
      = some (true, 10)) :
    ∃ d, underwritten reserves ratio = .ok d ∧ d.approved = true ∧ d.offeredCents = 10 := by
  cases hrun : underwritten reserves ratio with
  | error x =>
    rw [hrun] at h
    cases h
  | ok d =>
    rw [hrun] at h
    simp only [Except.toOption, Option.map_some, Option.some.injEq, Prod.mk.injEq] at h
    exact ⟨d, rfl, h.1, h.2⟩

theorem underwriting_bounded_small :
    ∃ d, underwritten 50 1000 = .ok d ∧ d.approved = true ∧
      ∃ scorecard, WithinBank modelBank (lenderBooks 50)
        { smallRequest with principalCents := 100 } (worker 8640) (ratioLender 1000)
          scorecard d := by
  obtain ⟨d, hrun, happroved, -⟩ := underwritten_approved 50 1000 (by decide +kernel)
  have hbacked : Backed (lenderBooks 50) (ratioLender 1000) := .inl (by decide)
  obtain ⟨scorecard, -, hwithin⟩ :=
    (underwriting_bounded _ _ _ _ _ _ _ _ d hbacked hrun).1 happroved
  exact ⟨d, hrun, happroved, scorecard, hwithin⟩

theorem underwriting_overshoots :
    ∃ d, underwritten (-50) (-10000) = .ok d ∧ d.approved = true ∧
      ¬Passes modelBank (lenderBooks (-50)) "ag_a" (ratioLender (-10000)) d.offeredCents := by
  obtain ⟨d, hrun, happroved, hoffered⟩ := underwritten_approved (-50) (-10000)
    (by decide +kernel)
  refine ⟨d, hrun, happroved, ?_⟩
  rw [hoffered]
  intro hpasses
  have hnone : (bankReasons modelBank (lenderBooks (-50)) "ag_a" (ratioLender (-10000)) 10).toOption
      = some [.reserveRatio] := by
    decide +kernel
  rw [hpasses] at hnone
  cases hnone

end Polis.Economy.Credit
