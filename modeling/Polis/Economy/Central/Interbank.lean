/-
  Polis.Economy.Central.Interbank — loans between banks
  (`economy/central.py`, with the figures of `economy/credit.py`).

  A short bank borrows from the banks with reserves to spare, in a random
  order and under two refusals; what is missing then, the central bank lends
  against new money.  What each bank must hold is fixed before the first loan;
  reserves, capital and exposures are read again before each.
-/
import Polis.Economy.Accept

namespace Polis.Economy

open Lib Lib.Effect Lib.DoubleEntry Ledger Sim

/-! ## Figures of a bank -/

/-- `status in {"current", "delinquent", "default"}`. -/
def LoanStatus.live : LoanStatus → Bool
  | .current | .delinquent | .defaulted => true
  | .repaid | .writtenOff => false

namespace Central

/-- `economy.banks[bank_id]`. -/
def bankRow (bankId : String) (e : EconomyState) : Except PyError BankState :=
  match e.banks.get? bankId with
  | some bank => .ok bank
  | none => .error (.key (quoted bankId))

/-- `deposits_cents(bank_id, economy)`. -/
def depositsCents (bankId : String) (e : EconomyState) : Except PyError Int := do
  let bank ← bankRow bankId e
  let balance ← e.ledger.balance bank.depositLiabilityAccountId
  .ok (max 0 (-balance))

/-- `reserves_cents(bank_id, economy)`. -/
def reservesCents (bankId : String) (e : EconomyState) : Except PyError Int := do
  let bank ← bankRow bankId e
  e.ledger.balance bank.reserveAccountId

/-- `capital_cents(bank_id, economy)`. -/
def capitalCents (bankId : String) (e : EconomyState) : Int :=
  e.ledger.netWorth bankId + (e.bondHoldingsCents.getD bankId ∅).values.sum

/-- `rwa_cents(bank_id, ctx)`. -/
def rwaCents (ctx : Ctx) (bankId : String) (e : EconomyState) : Int :=
  ((e.loans.values.filter fun loan => loan.lenderId = bankId ∧ loan.status.live).map
    fun loan => bp loan.outstandingCents
      (ctx.settings.credit.riskWeightBp.getD loan.purpose 10000)).sum

/-- `capital_ratio_bp(bank_id, ctx)`. -/
def capitalRatioBp (ctx : Ctx) (bankId : String) (e : EconomyState) : Int :=
  if rwaCents ctx bankId e ≤ 0 then if 0 ≤ capitalCents bankId e then 10000 else -10000
  else 10000 * capitalCents bankId e / rwaCents ctx bankId e

/-- What a lender is owed by a borrower on live loans. -/
def exposureCents (lenderId borrowerId : String) (e : EconomyState) : Int :=
  e.loans.total fun _ loan =>
    if loan.lenderId = lenderId ∧ loan.borrowerId = borrowerId ∧ loan.status.live then
      loan.outstandingCents
    else 0

/-- The most a lender may be owed by one borrower. -/
def concentrationCap (ctx : Ctx) (lenderId : String) (e : EconomyState) : Int :=
  bp (max 0 (capitalCents lenderId e)) ctx.settings.banking.interbankConcentrationBp

/-! ## Loans -/

/-- The loans of a tick so far. -/
def originatedAt (tick : Int) (e : EconomyState) : Nat :=
  (e.loans.values.filter fun loan => loan.originatedTick = tick).length

/-- The row of an interbank loan: one payment, at maturity. -/
def interbankLoan (loanId lenderId borrowerId : String) (cents rate termTicks tick : Int)
    (receivable payable : AccountId) : LoanState where
  loanId := loanId
  lenderId := lenderId
  borrowerId := borrowerId
  purpose := "interbank"
  principalCents := cents
  outstandingCents := cents
  annualRateBp := rate
  termTicks := termTicks
  originatedTick := tick
  maturesTick := tick + termTicks
  status := .current
  collateral := ∅
  collateralValueCents := 0
  creditScoreAtOriginationBp := 10000
  lenderReceivableAccountId := receivable
  borrowerPayableAccountId := payable
  paymentCents := cents
  paymentsN := 1
  nextPaymentTick := tick + termTicks

section Engine

variable [Uuid5] (ctx : Ctx)

/-- `_originate_interbank(lender_id, borrower_id, cents, tick)`. -/
def originateInterbank (lenderId borrowerId : String) (cents tick : Int) :
    EngineM (List Event) := do
  let e ← economyNow
  let loanId ← liftE (mint "ib" tick (originatedAt tick e))
  let receivable ← onLedger (openAccount .lnr lenderId "bank" none (some loanId) tick)
  let payable ← onLedger (openAccount .lnp borrowerId "bank" none (some loanId) tick)
  let rate := e.policyRateBp + ctx.settings.banking.interbankSpreadBp
  let term := ctx.settings.clock.ticksPerSimDay
  let event ← emit tick .interbankLoan
    [("loan_id", .str loanId), ("lender_bank_id", .str lenderId),
      ("borrower_bank_id", .str borrowerId), ("cents", .int cents), ("rate_bp", .int rate),
      ("term_ticks", .int term)]
    (some lenderId) [borrowerId]
  let lender ← liftE (bankRow lenderId e)
  let borrower ← liftE (bankRow borrowerId e)
  let _ ← post
    [leg lender.reserveAccountId (-1) cents "loan", leg borrower.reserveAccountId 1 cents "loan",
      leg receivable 1 cents "loan", leg payable (-1) cents "loan"] tick event
  modifyEconomy fun e => { e with
    loans := e.loans.put loanId
      (interbankLoan loanId lenderId borrowerId cents rate term tick receivable payable) }
  pure [event]

/-- `discount_window(bank_id, shortfall_cents, tick)`. -/
def discountWindow (bankId : String) (shortfallCents tick : Int) : EngineM (List Event) := do
  if shortfallCents ≤ 0 then pure []
  else
    let e ← economyNow
    let loanId ← liftE (mint "dw" tick (originatedAt tick e))
    let receivable ← onLedger (openAccount .lnr "bk_cb" "central_bank" none (some loanId) tick)
    let payable ← onLedger (openAccount .lnp bankId "bank" none (some loanId) tick)
    let L ← ledgerNow
    let issuance ← orRaise ((L.accountsOf "bk_cb").find? fun a => a.code = .iss) .stopIteration
    let expected ← nextTxnId tick
    let bank ← liftE (bankRow bankId e)
    let issued ← emit tick .moneyIssued
      [("amount_cents", .int shortfallCents),
        ("recipient_account_id", .str bank.reserveAccountId.text),
        ("instrument", .str "reserves"), ("purpose", .str "discount_window"),
        ("txn_id", .str expected)]
      none [bankId]
    let transactionId ← onLedger (issueBaseMoney
      [leg bank.reserveAccountId 1 shortfallCents "issuance",
        leg issuance (-1) shortfallCents "issuance", leg receivable 1 shortfallCents "issuance",
        leg payable (-1) shortfallCents "issuance"] tick issued)
    require (transactionId = expected) (.runtime "discount-window transaction ordinal diverged")
    let rate := e.policyRateBp + ctx.settings.banking.discountPenaltyBp
    modifyEconomy fun e => { e with
      loans := e.loans.put loanId
        (interbankLoan loanId "bk_cb" bankId shortfallCents rate
          (30 * ctx.settings.clock.ticksPerSimDay) tick receivable payable) }
    let borrowed ← emit tick .discountWindowBorrowed
      [("bank_id", .str bankId), ("cents", .int shortfallCents),
        ("penalty_rate_bp", .int ctx.settings.banking.discountPenaltyBp),
        ("reserve_shortfall_cents", .int shortfallCents)]
      none [bankId]
    pure [issued, borrowed]

end Engine

/-! ## The funding loop -/

/-- The commercial banks in business. -/
def commercial (e : EconomyState) : List BankState :=
  e.banks.values.filter fun bank => ¬bank.isCentral ∧ bank.status = .active

/-- `bp(deposits_cents(bank.bank_id), bank.reserve_ratio_bp)`. -/
def requirement (bank : BankState) (e : EconomyState) : Except PyError Int := do
  let deposits ← depositsCents bank.bankId e
  .ok (bp deposits bank.reserveRatioBp)

/-- `required`: what each bank must hold, added to `d`. -/
def requirements (e : EconomyState) :
    List BankState → Dict String Int → Except PyError (Dict String Int)
  | [], d => .ok d
  | bank :: banks, d => do
    let need ← requirement bank e
    requirements e banks (d.put bank.bankId need)

/-- `required[bank.bank_id]`. -/
def requiredOf (required : Dict String Int) (bank : BankState) : Except PyError Int :=
  match required.get? bank.bankId with
  | some need => .ok need
  | none => .error (.key (quoted bank.bankId))

/-- The banks below what they must hold, with what they miss. -/
def shortsOf (required : Dict String Int) (e : EconomyState) :
    List BankState → Except PyError (List (BankState × Int))
  | [] => .ok []
  | bank :: banks => do
    let need ← requiredOf required bank
    let reserves ← reservesCents bank.bankId e
    let rest ← shortsOf required e banks
    .ok (if reserves < need then (bank, need - reserves) :: rest else rest)

/-- The other banks above what they must hold, with what they can spare. -/
def longsOf (required : Dict String Int) (borrowerId : String) (e : EconomyState) :
    List BankState → Except PyError (List (BankState × Int))
  | [] => .ok []
  | bank :: banks =>
    if bank.bankId = borrowerId then longsOf required borrowerId e banks
    else do
      let need ← requiredOf required bank
      let reserves ← reservesCents bank.bankId e
      let rest ← longsOf required borrowerId e banks
      .ok (if need < reserves then (bank, reserves - need) :: rest else rest)

/-- `key=lambda item: (-item[1], item[0].bank_id)`. -/
def gapKey (item : BankState × Int) : Int ×ₗ String := toLex (-item.2, item.1.bankId)

section Loop

variable [Uuid5] (ctx : Ctx)

/-- A refusal. -/
def refuse (borrower lender : BankState) (amount : Int) (reason : String) (tick : Int) :
    EngineM Event :=
  emit tick .interbankRefused
    [("borrower_bank_id", .str borrower.bankId), ("lender_bank_id", .str lender.bankId),
      ("cents", .int amount), ("reason", .str reason)]
    (some lender.bankId) [borrower.bankId]

/-- The loop over the lenders; returns the events and what is still missing. -/
def borrow (borrower : BankState) (tick : Int) :
    List (BankState × Int) → Int → EngineM (List Event × Int)
  | [], shortfall => pure ([], shortfall)
  | (lender, excess) :: longs, shortfall =>
    if shortfall ≤ 0 then pure ([], shortfall)
    else do
      let amount := min shortfall excess
      let e ← economyNow
      if capitalRatioBp ctx borrower.bankId e < ctx.settings.banking.interbankMinRatioBp then do
        let refused ← refuse borrower lender amount "capital_ratio" tick
        let (events, missing) ← borrow borrower tick longs shortfall
        pure (refused :: events, missing)
      else if concentrationCap ctx lender.bankId e <
          exposureCents lender.bankId borrower.bankId e + amount then do
        let refused ← refuse borrower lender amount "concentration" tick
        let (events, missing) ← borrow borrower tick longs shortfall
        pure (refused :: events, missing)
      else do
        let lent ← originateInterbank ctx lender.bankId borrower.bankId amount tick
        let (events, missing) ← borrow borrower tick longs (shortfall - amount)
        pure (lent ++ events, missing)

/-- The body of the loop over the short banks. -/
def fundBank (banks : List BankState) (required : Dict String Int) (tick : Int)
    (borrower : BankState) : EngineM (List Event) := do
  let e ← economyNow
  let need ← liftE (requiredOf required borrower)
  let reserves ← liftE (reservesCents borrower.bankId e)
  let longs ← liftE (longsOf required borrower.bankId e banks)
  let lenders := shuffle (ctx.word "banking.interbank" borrower.bankId tick) (sortedBy gapKey longs)
  let (events, missing) ← borrow ctx borrower tick lenders (max 0 (need - reserves))
  let advanced ← onlyIf (0 < missing) (discountWindow ctx borrower.bankId missing tick)
  pure (events ++ advanced)

/-- The funding loop of `settle_banks(tick)`. -/
def fundBanks (tick : Int) : EngineM (List Event) := do
  let e ← economyNow
  let banks := commercial e
  let required ← liftE (requirements e banks ∅)
  let shorts ← liftE (shortsOf required e banks)
  gather (fundBank ctx banks required tick) ((sortedBy gapKey shorts).map Prod.fst)

end Loop

end Central

end Polis.Economy
