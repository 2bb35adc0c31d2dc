/-
  Polis.Base — values, events and errors shared by every module.

  An event carries the payload its emitter builds.  Errors keep the exception
  class and the message of the source.
-/
import Mathlib.Init

namespace Polis

/-- The exception classes the modelled code raises, with their messages. -/
inductive PyError where
  | ledger (message : String)
  | value (message : String)
  | runtime (message : String)
  | key (message : String)
  | stopIteration
  | assertion (message : String)
  | zeroDivision
  deriving Repr, DecidableEq

/-- A UUID in its canonical text form, `str(uuid)`. -/
abbrev UUID := String

/-- `uuid5(namespace, name)`: the name-based identifier hash. -/
class Uuid5 where
  uuid5 : UUID → String → UUID

/-- A JSON-like value, as event payloads and action parameters hold them. -/
inductive Value where
  | none
  | bool (b : Bool)
  | int (n : Int)
  | str (s : String)
  | list (xs : List Value)
  | dict (xs : List (String × Value))

namespace Value

/-- An optional integer: `None` or the number. -/
def ofInt? : Option Int → Value
  | some n => .int n
  | Option.none => .none

/-- An optional string: `None` or the text. -/
def ofStr? : Option String → Value
  | some s => .str s
  | Option.none => .none

/-- A list of strings. -/
def strs (xs : List String) : Value := .list (xs.map .str)

/-- A mapping of names to integers. -/
def ints (xs : List (String × Int)) : Value := .dict (xs.map fun e => (e.1, .int e.2))

end Value

/-- The event kinds the modelled engines emit. -/
inductive EventKind where
  -- ledger and exchange
  | accountOpened | bookSnapshot | borrowFeeCharged | circuitBreakerTriggered
  | forcedLiquidation | indexComputed | ipoAnnounced | ipoCompleted | ipoIndication | ipoPriced
  | marginCall | ohlcvComputed | orderCancelled | orderExpired | orderFilled
  | orderPartiallyFilled | orderRejected | orderSubmitted | securityDelisted | securityListed
  | sessionClosed | sessionOpened | shortCovered | shortOpened | tradeExecuted | tradingResumed
  -- goods, labour and estates
  | goodsPurchased | purchaseFailed | needSatisfied | wagePaid | payrollShortfall | payrollRun
  | fired | layoffBatch | vacancyPosted | vacancyClosed | jobApplicationSubmitted
  | applicationScreened | offerMade | offerAccepted | offerExpired | hired
  | unemploymentSpellEnded | workPerformed | childCostCharged
  -- credit and banking
  | interestAccrued | loanDefaulted | loanDelinquent | loanOriginated | loanPaymentMade
  | loanPaymentMissed | loanRepaid | loanWrittenOff | depositInterestPaid | withdrawalMade
  | withdrawalRefused | bankRunDetected
  -- central bank and treasury
  | bankFailed | bankRatiosComputed | bankUndercapitalised | depositHaircut
  | depositInsurancePaid | discountWindowBorrowed | interbankLoan | interbankRefused
  | moneyIssued | bondAuctionCleared | bondAuctionFailed | bondIssued | bondMatured
  | couponPaid | govBudgetClosed | taxArrears | taxAssessed | taxCollected | transferPaid
  -- ventures
  | termSheetAccepted | roundClosed | optionPoolSet | capTableUpdated | downRound
  | assetsLiquidated | exemptionApplied | distributionMade | bankruptcyDischarged
  | dividendDeclared | dividendPaid | acquisitionApproved
  deriving Repr, DecidableEq

/-- A draft handed to `emit`. -/
structure NewEvent where
  kind : EventKind
  payload : List (String × Value)
  actorId : Option String := none
  subjectIds : List String := []

/-- A staged event: the draft with its position in the log. -/
structure Event where
  seq : Nat
  runId : UUID
  tick : Int
  draft : NewEvent

end Polis
