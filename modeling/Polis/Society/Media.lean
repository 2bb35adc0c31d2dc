/-
  Polis.Society.Media — the revenue of an outlet (`EconomyNewsLedgerAdapter`,
  `society/ledger.py`).

  Every cent is reserved against the balance of a named payer before it is
  booked, and all of it is posted at once; the budgets are spent after the
  posting.
-/
import Polis.Society.Elections

namespace Polis.Society

open Lib Lib.Effect Polis.Events

def OUTLET_REVENUE_BOOKED : Int := 11051

/-- `RevenueBooking`. -/
structure RevenueBooking where
  adRevenueCents : Int := 0
  subscriptionCents : Int := 0
  campaignCents : Int := 0
  advertisers : List String := []
  txnIds : List UUID := []
  event : Option (Events.Event Value) := none

/-- The budgets of the advertisers, with the books. -/
structure NewsState (L : Type) where
  books : Books L
  advertiserBudgets : Dict String Int := ∅

abbrev NewsM (L : Type) := EStateM Fault (NewsState L)

def NewsState.withBooks {L : Type} (s : NewsState L) (books : Books L) : NewsState L :=
  { s with books }

/-- What an `EconomyNewsLedgerAdapter` is built with. -/
structure NewsLedger (L : Type) where
  journal : Journal
  ledger : SocietyLedger L
  campaignBuys : Dict String (Dict String Int)
  subscriptionPriceCents : Int := 0

/-- What a period of an outlet is booked with. -/
structure RevenuePeriod where
  outlet : Outlet
  periodStartTick : Int
  tick : Int
  impressions : Int
  cpmCents : Int
  subscribers : List String

namespace NewsLedger

variable {L : Type} (N : NewsLedger L)

/-- `_affordable`. -/
def affordable (ledger : L) (payerId payeeId : String) (requested committed : Int) : Int :=
  if requested ≤ 0 then 0
  else min requested (max 0 (N.ledger.compatibleBalance ledger payerId payeeId - committed))

/-- What was reserved so far, and the rows of one kind of payer. -/
structure Reserved where
  committed : Dict String Int := ∅
  rows : List (String × Int) := []

/-- `reserve`, and the row it adds when there is something to pay. -/
def reserve (ledger : L) (payeeId payerId : String) (requested : Int) (r : Reserved) :
    Reserved × Int :=
  let held := r.committed.getD payerId 0
  let cents := N.affordable ledger payerId payeeId requested held
  ({ committed := r.committed.put payerId (held + cents)
     rows := if 0 < cents then r.rows ++ [(payerId, cents)] else r.rows }, cents)

/-- One advertiser; nothing is reserved once all advertising is placed. -/
def reserveAd (ledger : L) (payeeId : String) (acc : Reserved × Int) (row : String × Int) :
    Reserved × Int :=
  if acc.2 ≤ 0 then acc
  else
    let next := N.reserve ledger payeeId row.1 (min acc.2 (max 0 row.2)) acc.1
    (next.1, acc.2 - max 0 next.2)

/-- The rows of advertisers, subscribers and campaigns. -/
structure Bookings where
  ads : List (String × Int)
  subscriptions : List (String × Int)
  campaigns : List (String × Int)

/-- The three loops of `book_outlet_revenue`. -/
def bookings (s : NewsState L) (payeeId : String) (period : RevenuePeriod) : Bookings :=
  let remaining := max 0 (period.impressions * period.cpmCents / 1000)
  let ads := (s.advertiserBudgets.sortedEntries.foldl (N.reserveAd s.books.ledger payeeId)
    ({}, remaining)).1
  let subscriptions := (sortedSet period.subscribers).foldl
    (fun r id => (N.reserve s.books.ledger payeeId id N.subscriptionPriceCents r).1)
    { committed := ads.committed }
  let campaigns := (N.campaignBuys.getD period.outlet.outletId ∅).sortedEntries.foldl
    (fun r row => (N.reserve s.books.ledger payeeId row.1 (max 0 row.2) r).1)
    { committed := subscriptions.committed }
  { ads := ads.rows, subscriptions := subscriptions.rows, campaigns := campaigns.rows }

namespace Bookings

/-- Everything that is paid, in order. -/
def transfers (b : Bookings) (payeeId : String) : List Transfer :=
  (b.ads ++ b.subscriptions ++ b.campaigns).map fun row => (row.1, payeeId, row.2)

/-- The advertisers an event names. -/
def advertisers (b : Bookings) : List String :=
  sortedSet ((b.ads ++ b.campaigns).map Prod.fst)

def cents (rows : List (String × Int)) : Int := (rows.map Prod.snd).sum

end Bookings

/-- The event of a booking. -/
def bookedDraft (period : RevenuePeriod) (b : Bookings) (txnId : Value) : Draft :=
  { kind := OUTLET_REVENUE_BOOKED
    payload := [("outlet_id", .str period.outlet.outletId),
      ("period_start_tick", .int period.periodStartTick),
      ("impressions", .int period.impressions), ("cpm_cents", .int period.cpmCents),
      ("ad_revenue_cents", .int (Bookings.cents b.ads)),
      ("subscription_cents", .int (Bookings.cents b.subscriptions)),
      ("campaign_cents", .int (Bookings.cents b.campaigns)),
      ("advertisers", Value.strs b.advertisers), ("txn_ids", .list [txnId])]
    subjectIds := period.outlet.outletId :: b.advertisers }

/-- The budgets after a booking. -/
def spend (rows : List (String × Int)) (s : NewsState L) : NewsState L :=
  { s with advertiserBudgets :=
      rows.foldl (fun d row => d.modify row.1 fun n => n - row.2) s.advertiserBudgets }

variable [CanonicalJson Value] [Events.Sha256] [PayloadSchemas Value]

/-- `book_outlet_revenue`. -/
def bookOutletRevenue (period : RevenuePeriod) : NewsM L RevenueBooking := do
  let s ← get
  match period.outlet.firmId with
  | none => pure {}
  | some payeeId =>
    let b := N.bookings s payeeId period
    if b.transfers payeeId = [] then pure {}
    else do
      let event ← zoom NewsState.books NewsState.withBooks
        (stagePosted N.ledger N.journal True .none (bookedDraft period b) (b.transfers payeeId)
          "purchase" "media revenue ledger transaction ordinal diverged" period.tick)
      modify (spend b.ads)
      pure
        { adRevenueCents := Bookings.cents b.ads
          subscriptionCents := Bookings.cents b.subscriptions
          campaignCents := Bookings.cents b.campaigns
          advertisers := b.advertisers
          txnIds := [N.ledger.nextTransferId s.books.ledger period.tick]
          event := some event }

end NewsLedger

end Polis.Society
