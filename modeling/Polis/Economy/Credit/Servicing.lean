/-
  Polis.Economy.Credit.Servicing — loans in service (`CreditEngine`,
  `economy/credit.py`).

  Interest accrues daily in whole cents; what is left of a cent is carried to
  the next day.  Payments, capitalisation, penalties and write-offs change
  principal, rate and accrued interest, and leave the carry alone.
-/
import Polis.Economy.Credit.Scoring

namespace Polis.Economy.Credit

open Lib Lib.Effect Ledger Sim

/-! ## Rows -/

/-- `economy.loans[key]`. -/
def loanAt (key : String) : EngineM LoanState := do
  let e ← economyNow
  orRaise (e.loans.get? key) (.key key)

/-- Write a loan. -/
def modifyLoan (key : String) (f : LoanState → LoanState) : EngineM Unit :=
  modifyEconomy fun e => { e with loans := e.loans.modify key f }

/-- The keys of the loans, in the order of `sorted(loans.values(), key=...)`. -/
def loansInOrder (e : EconomyState) : List String :=
  (sortedBy (fun r : String × LoanState => r.2.loanId) e.loans.entries).map Prod.fst

/-- An open bankruptcy case stands against an entity. -/
def hasOpenCase (e : EconomyState) (entityId : String) : Bool :=
  e.ventures.bankruptcies.values.any fun c => c.entityId = entityId ∧ c.status = .opened

/-- `status in {"current", "delinquent"}`. -/
def LoanStatus.serviced : LoanStatus → Bool
  | .current | .delinquent => true
  | _ => false

section Servicing

variable (ctx : Ctx)

/-! ## Interest -/

/-- The loan takes part in the accrual of a day. -/
def Accrues (e : EconomyState) (loan : LoanState) : Prop :=
  LoanStatus.serviced loan.status ∧ 0 < loan.outstandingCents ∧ ¬hasOpenCase e loan.borrowerId

instance (e : EconomyState) (loan : LoanState) : Decidable (Accrues e loan) :=
  inferInstanceAs (Decidable (_ ∧ _ ∧ _))

/-- `denominator`. -/
def accrualDenominator : Int := 10000 * ctx.settings.clock.daysPerSimYear

/-- The row after a day's accrual. -/
def LoanState.accrue (denominator : Int) (loan : LoanState) : LoanState :=
  let numerator := loan.outstandingCents * loan.annualRateBp + loan.accrualRemainder
  { loan with
    accrualRemainder := Int.fmod numerator denominator
    accruedInterestCents := loan.accruedInterestCents + Int.fdiv numerator denominator }

/-- One loan of `accrue_interest`. -/
def accrueOne (tick : Int) (key : String) : EngineM (List Event) := do
  let e ← economyNow
  let loan ← loanAt key
  if ¬Accrues e loan then pure []
  else do
    require (accrualDenominator ctx ≠ 0) .zeroDivision
    let accrued := LoanState.accrue (accrualDenominator ctx) loan
    modifyLoan key (LoanState.accrue (accrualDenominator ctx))
    let event ← emit tick .interestAccrued
      [("loan_id", .str loan.loanId),
        ("cents", .int (accrued.accruedInterestCents - loan.accruedInterestCents)),
        ("annual_rate_bp", .int loan.annualRateBp),
        ("period_ticks", .int ctx.settings.clock.ticksPerSimDay),
        ("accrued_total_cents", .int accrued.accruedInterestCents)]
      none [loan.borrowerId, loan.lenderId]
    pure [event]

/-- `accrue_interest(tick)`. -/
def accrueInterest (tick : Int) : EngineM (List Event) := do
  if tick % ctx.settings.clock.ticksPerSimDay ≠ 0 then pure []
  else do
    let e ← economyNow
    gather (accrueOne ctx tick) (loansInOrder e)

/-! ## Missed payments -/

/-- `mark_default(loan_id, trigger)`. -/
def markDefault (loanId trigger : String) (tick : Int) : EngineM (List Event) := do
  let loan ← loanAt loanId
  if loan.status = .defaulted ∨ loan.status = .repaid ∨ loan.status = .writtenOff then pure []
  else do
    modifyLoan loanId fun loan => { loan with status := .defaulted, defaultedTick := some tick }
    let event ← emit tick .loanDefaulted
      [("loan_id", .str loan.loanId), ("outstanding_cents", .int loan.outstandingCents),
        ("trigger", .str trigger)]
      none [loan.borrowerId, loan.lenderId]
    pure [event]

variable [Uuid5]

/-- A loan falls delinquent: its accrued interest is capitalised, its rate
raised. -/
def fallDelinquent (key : String) (loan : LoanState) (days tick : Int) :
    EngineM (List Event) := do
  let capitalised := loan.accruedInterestCents
  let expected ← nextTxnId tick
  let event ← emit tick .loanDelinquent
    [("loan_id", .str loan.loanId), ("days_past_due", .int days),
      ("capitalised_interest_cents", .int capitalised), ("txn_id", .str expected)]
    (some loan.borrowerId) [loan.lenderId]
  runIf (capitalised ≠ 0) (do
    let transactionId ← post
      [leg loan.lenderReceivableAccountId 1 capitalised "interest",
        leg loan.borrowerPayableAccountId (-1) capitalised "interest"] tick event
    require (transactionId = expected) (.runtime "interest capitalisation ordinal diverged")
    modifyLoan key fun loan => { loan with
      outstandingCents := loan.outstandingCents + capitalised
      totalInterestScheduledCents := loan.totalInterestScheduledCents + capitalised
      capitalisedInterestCents := loan.capitalisedInterestCents + capitalised
      accruedInterestCents := 0 })
  modifyLoan key fun loan => { loan with
    status := .delinquent
    annualRateBp := loan.annualRateBp + ctx.settings.credit.delinquencyPenaltyBp }
  pure [event]

/-- `_transition_missed(loan)`. -/
def transitionMissed (key : String) (tick : Int) : EngineM (List Event) := do
  let loan ← loanAt key
  match loan.missedSinceTick with
  | none => pure []
  | some missedSince =>
    let days := (tick - missedSince) / ctx.settings.clock.ticksPerSimDay
    if loan.status = .current ∧ ctx.settings.credit.delinquencyDays ≤ days then
      fallDelinquent ctx key loan days tick
    else if loan.status = .delinquent ∧ ctx.settings.credit.defaultDays ≤ days then
      markDefault loan.loanId "dpd" tick
    else pure []

/-! ## Payments -/

/-- The principal of the payment due. -/
def principalDue (loan : LoanState) (tick : Int) : Int :=
  if loan.paymentsN ≤ loan.paymentsMade + 1 ∨ loan.maturesTick ≤ tick then loan.outstandingCents
  else min loan.outstandingCents (max 1 (loan.paymentCents - loan.accruedInterestCents))

/-- The deposit accounts of a borrower. -/
def borrowerDeposits (e : EconomyState) (borrowerId : String) : List AccountId :=
  (e.ledger.accountsOf borrowerId).filter fun a => a.code = .dep

/-- The balances of accounts. -/
def balances (e : EconomyState) : List AccountId → Except PyError (List (AccountId × Int))
  | [] => .ok []
  | a :: accounts => do
    let balance ← e.ledger.balance a
    let rest ← balances e accounts
    .ok ((a, balance) :: rest)

/-- `available`: the best single deposit for the treasury, else all that is
liquid. -/
def availableCents (e : EconomyState) (loan : LoanState) : Except PyError Int :=
  if loan.lenderId = "gv_treasury" then do
    let rows ← balances e (borrowerDeposits e loan.borrowerId)
    .ok ((rows.map Prod.snd).max?.getD 0)
  else .ok (e.ledger.liquid loan.borrowerId)

/-- `borrower_deposit`: the account a payment is drawn on. -/
def payingDeposit (e : EconomyState) (loan : LoanState) (due : Int) : Except PyError AccountId :=
  if loan.lenderId = "gv_treasury" then do
    let rows ← balances e (borrowerDeposits e loan.borrowerId)
    match rows.find? fun row => due ≤ row.2 with
    | some row => .ok row.1
    | none => .error .stopIteration
  else
    match (borrowerDeposits e loan.borrowerId).find? fun a => a.bankId = some loan.lenderId with
    | some a => .ok a
    | none => .error .stopIteration

/-- The legs of a payment. -/
def paymentLegs (e : EconomyState) (loan : LoanState) (deposit : AccountId) (principal due : Int) :
    Except PyError (List Leg) :=
  if loan.lenderId = "gv_treasury" then
    match deposit.bankId with
    | none => .error (.runtime "tax arrears require a banked deposit")
    | some bankId => do
      let bank ← Central.bankRow bankId e
      match (e.ledger.accountsOf "gv_treasury").find? fun a => a.code = .dep with
      | none => .error .stopIteration
      | some treasury => .ok [
          leg deposit (-1) due "tax", leg bank.depositLiabilityAccountId 1 due "tax",
          leg bank.reserveAccountId (-1) due "tax", leg treasury 1 due "tax",
          leg loan.lenderReceivableAccountId (-1) principal "loan",
          leg loan.borrowerPayableAccountId 1 principal "loan"]
  else do
    let bank ← Central.bankRow loan.lenderId e
    .ok [leg deposit (-1) due "loan", leg bank.depositLiabilityAccountId 1 due "loan",
      leg loan.lenderReceivableAccountId (-1) principal "loan",
      leg loan.borrowerPayableAccountId 1 principal "loan"]

/-- The interest capitalised before and not yet paid or forgiven. -/
def capitalisedInterestDue (loan : LoanState) : Int :=
  max 0 (loan.totalInterestScheduledCents - loan.totalInterestPaidCents
    - loan.totalInterestForgivenCents)

/-- The row after a payment. -/
def LoanState.paid (principal interest intervalTicks : Int) (loan : LoanState) : LoanState :=
  { loan with
    outstandingCents := loan.outstandingCents - principal
    totalInterestPaidCents := loan.totalInterestPaidCents
      + (interest + min principal (capitalisedInterestDue loan))
    totalInterestScheduledCents := loan.totalInterestScheduledCents + interest
    accruedInterestCents := 0
    paymentsMade := loan.paymentsMade + 1
    missedSinceTick := none
    nextPaymentTick := loan.nextPaymentTick + intervalTicks }

/-- A payment is missed. -/
def missPayment (key : String) (loan : LoanState) (paymentId : String) (due available tick : Int) :
    EngineM (List Event) := do
  let missedSince := loan.missedSinceTick.getD tick
  modifyLoan key fun loan => { loan with missedSinceTick := some missedSince }
  let event ← emit tick .loanPaymentMissed
    [("loan_id", .str loan.loanId), ("due_cents", .int due), ("available_cents", .int available),
      ("days_past_due", .int ((tick - missedSince) / ctx.settings.clock.ticksPerSimDay))]
    (some loan.borrowerId) [loan.lenderId]
  modifyEconomy fun e => { e with
    loanPayments := e.loanPayments ++
      [⟨paymentId, loan.loanId, tick, 0, loan.accruedInterestCents, true⟩] }
  modifyLoan key fun loan => { loan with
    nextPaymentTick := loan.nextPaymentTick + paymentIntervalTicks ctx }
  let events ← transitionMissed ctx key tick
  pure (event :: events)

/-- A payment is made. -/
def makePayment (key : String) (loan : LoanState) (paymentId : String) (principal due tick : Int) :
    EngineM (List Event) := do
  let e ← economyNow
  let interest := loan.accruedInterestCents
  let deposit ← liftE (payingDeposit e loan due)
  let expected ← nextTxnId tick
  let event ← emit tick .loanPaymentMade
    [("loan_id", .str loan.loanId), ("payment_no", .int (loan.paymentsMade + 1)),
      ("principal_cents", .int principal), ("interest_cents", .int interest),
      ("outstanding_after_cents", .int (loan.outstandingCents - principal)),
      ("txn_id", .str expected)]
    (some loan.borrowerId) [loan.lenderId]
  let legs ← liftE (paymentLegs e loan deposit principal due)
  let transactionId ← post legs tick event
  require (transactionId = expected) (.runtime "loan payment transaction ordinal diverged")
  let after := LoanState.paid principal interest (paymentIntervalTicks ctx) loan
  modifyLoan key (LoanState.paid principal interest (paymentIntervalTicks ctx))
  modifyEconomy fun e => { e with
    loanPayments := e.loanPayments ++ [⟨paymentId, loan.loanId, tick, principal, interest, false⟩] }
  if after.outstandingCents ≠ 0 then pure [event]
  else do
    modifyLoan key fun loan => { loan with status := .repaid, closedTick := some tick }
    let repaid ← emit tick .loanRepaid
      [("loan_id", .str loan.loanId),
        ("total_interest_cents", .int after.totalInterestPaidCents),
        ("ticks_to_repay", .int (tick - loan.originatedTick)),
        ("early", .bool (tick < loan.maturesTick))]
      (some loan.borrowerId) [loan.lenderId]
    pure [event, repaid]

/-- The loan has a payment to make at a tick. -/
def FallsDue (e : EconomyState) (loan : LoanState) (tick : Int) : Prop :=
  LoanStatus.serviced loan.status ∧ loan.nextPaymentTick ≤ tick ∧
    ¬hasOpenCase e loan.borrowerId ∧ ¬e.banks.contains loan.borrowerId ∧
    (e.banks.contains loan.lenderId ∨ loan.lenderId = "gv_treasury")

instance (e : EconomyState) (loan : LoanState) (tick : Int) : Decidable (FallsDue e loan tick) :=
  inferInstanceAs (Decidable (_ ∧ _ ∧ _ ∧ _ ∧ (_ ∨ _)))

/-- One loan of `amortise`. -/
def amortiseOne (tick : Int) (key : String) : EngineM (List Event) := do
  let e ← economyNow
  let loan ← loanAt key
  if ¬FallsDue e loan tick then pure []
  else do
    let principal := principalDue loan tick
    let due := principal + loan.accruedInterestCents
    let available ← liftE (availableCents e loan)
    let paymentId ← liftE (mint "lpay" tick e.loanPayments.length)
    if available < due then missPayment ctx key loan paymentId due available tick
    else makePayment ctx key loan paymentId principal due tick

/-- `amortise(tick)`. -/
def amortise (tick : Int) : EngineM (List Event) := do
  let e ← economyNow
  gather (amortiseOne ctx tick) (loansInOrder e)

/-! ## Write-offs -/

omit ctx in
/-- The row after a write-off. -/
def LoanState.writtenOffBy (writtenOff tick : Int) (loan : LoanState) : LoanState :=
  let outstanding := loan.outstandingCents - writtenOff
  { loan with
    outstandingCents := outstanding
    totalInterestScheduledCents := loan.totalInterestScheduledCents + loan.accruedInterestCents
    totalInterestForgivenCents := loan.totalInterestForgivenCents
      + (min writtenOff (capitalisedInterestDue loan) + loan.accruedInterestCents)
    accruedInterestCents := 0
    status := if outstanding = 0 then .writtenOff else loan.status
    closedTick := if outstanding = 0 then some tick else loan.closedTick }

/-- `write_off_loan(loan_id, amount_cents, recovery_cents)`. -/
def writeOffLoan (loanId : String) (amountCents recoveryCents tick : Int) :
    EngineM (List Event) := do
  let loan ← loanAt loanId
  let writtenOff := min amountCents loan.outstandingCents
  if writtenOff ≤ 0 then pure []
  else do
    let expected ← nextTxnId tick
    let event ← emit tick .loanWrittenOff
      [("loan_id", .str loanId), ("written_off_cents", .int writtenOff),
        ("recovery_cents", .int recoveryCents),
        ("loss_given_default_bp",
          .int (10000 - 10000 * recoveryCents / max 1 (writtenOff + recoveryCents))),
        ("txn_id", .str expected)]
      (some loan.lenderId) [loan.borrowerId]
    let transactionId ← post
      [leg loan.lenderReceivableAccountId (-1) writtenOff "write_off",
        leg loan.borrowerPayableAccountId 1 writtenOff "write_off"] tick event
    require (transactionId = expected) (.runtime "loan write-off transaction ordinal diverged")
    modifyLoan loanId (LoanState.writtenOffBy writtenOff tick)
    pure [event]

/-- One loan of `write_off_due`. -/
def writeOffOne (tick : Int) (key : String) : EngineM (List Event) := do
  let loan ← loanAt key
  let threshold := ctx.settings.credit.writeoffAfterDays * ctx.settings.clock.ticksPerSimDay
  match loan.defaultedTick with
  | some defaulted =>
    if loan.status = .defaulted ∧ threshold ≤ tick - defaulted then
      writeOffLoan loan.loanId loan.outstandingCents 0 tick
    else pure []
  | none => pure []

/-- `write_off_due(tick)`. -/
def writeOffDue (tick : Int) : EngineM (List Event) := do
  let e ← economyNow
  gather (writeOffOne ctx tick) (loansInOrder e)

end Servicing

end Polis.Economy.Credit
