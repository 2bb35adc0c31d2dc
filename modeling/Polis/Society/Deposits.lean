/-
  Polis.Society.Deposits — candidacy deposits and their refunds
  (`ElectionOffice.announce` and `hold`, `society/polity.py`).

  The deposit of a candidacy is kept under the identifier of the candidacy,
  which an agent that announces again in the same election is given again.

  Main results:
    * `hold_parts` — `hold` counts the ballots, pays the refunds and finishes.
    * `announce_deposits` — an announcement pays one deposit.
    * `hold_deposits` — a count refunds the candidacies that reach the share.
-/
import Polis.Society.OfficeRuns
import Polis.Society.Recording

namespace Polis.Society

open Lib Lib.Effect Polis.Events

variable {L : Type}

/-! ## Deposits among the postings -/

/-- What has been posted. -/
def PolityState.posted (s : PolityState (Recorded L)) : List Posting := s.books.ledger.2

/-- A deposit or a refund: candidacy, agent and cents. -/
abbrev DepositRow := String × String × Int

namespace Posting

/-- A field of the event that caused a posting. -/
def field (p : Posting) (key : String) : Option Value :=
  match p.cause.payload with
  | .dict fields => fields.lookup key
  | _ => none

/-- The candidacy a row of a refund event is about. -/
def refundedId : Value → Option String
  | .dict fields =>
    match fields.lookup "candidacy_id" with
    | some (.str id) => some id
    | _ => none
  | _ => none

/-- The deposit a posting pays. -/
def deposit? (p : Posting) : Option DepositRow :=
  if p.cause.kind = CANDIDACY_ANNOUNCED then
    match p.field "candidacy_id", p.transfers with
    | some (.str id), [(payerId, _, cents)] => some (id, payerId, cents)
    | _, _ => none
  else none

/-- The refunds a posting pays. -/
def refunds (p : Posting) : List DepositRow :=
  if p.cause.kind = CANDIDACY_DEPOSITS_REFUNDED then
    match p.field "refunds" with
    | some (.list rows) => (rows.zip p.transfers).filterMap fun r =>
        (refundedId r.1).map fun id => (id, r.2.2.1, r.2.2.2)
    | _ => []
  else []

/-- The posting neither takes a deposit nor pays one back. -/
def Unrelated (p : Posting) : Prop :=
  p.cause.kind ≠ CANDIDACY_ANNOUNCED ∧ p.cause.kind ≠ CANDIDACY_DEPOSITS_REFUNDED

instance (p : Posting) : Decidable p.Unrelated := inferInstanceAs (Decidable (_ ∧ _))

theorem Unrelated.deposit? {p : Posting} (h : p.Unrelated) : p.deposit? = none := if_neg h.1

theorem Unrelated.refunds {p : Posting} (h : p.Unrelated) : p.refunds = [] := if_neg h.2

end Posting

/-- The deposits among some postings. -/
def depositsPaid (posted : List Posting) : List DepositRow := posted.filterMap Posting.deposit?

/-- The refunds among some postings. -/
def refundsPaid (posted : List Posting) : List DepositRow := posted.flatMap Posting.refunds

/-- The cents of the rows of an agent. -/
def centsOf (agentId : String) (rows : List DepositRow) : Int :=
  ((rows.filter fun r => r.2.1 = agentId).map fun r => r.2.2).sum

/-- The rows of a candidacy. -/
def candidacyRows (candidacyId : String) (rows : List DepositRow) : List DepositRow :=
  rows.filter fun r => r.1 = candidacyId

theorem centsOf_append (agentId : String) (xs ys : List DepositRow) :
    centsOf agentId (xs ++ ys) = centsOf agentId xs + centsOf agentId ys := by
  unfold centsOf
  rw [List.filter_append, List.map_append, List.sum_append]

theorem candidacyRows_append (id : String) (xs ys : List DepositRow) :
    candidacyRows id (xs ++ ys) = candidacyRows id xs ++ candidacyRows id ys := List.filter_append ..

theorem depositsPaid_append (ps qs : List Posting) :
    depositsPaid (ps ++ qs) = depositsPaid ps ++ depositsPaid qs := List.filterMap_append ..

theorem refundsPaid_append (ps qs : List Posting) :
    refundsPaid (ps ++ qs) = refundsPaid ps ++ refundsPaid qs := List.flatMap_append ..

theorem paid_of_unrelated {ps : List Posting} (h : ∀ p ∈ ps, p.Unrelated) :
    depositsPaid ps = [] ∧ refundsPaid ps = [] := by
  constructor
  · exact List.filterMap_eq_nil_iff.mpr fun p hp => (h p hp).deposit?
  · exact List.flatMap_eq_nil_iff.mpr fun p hp => (h p hp).refunds

namespace ElectionOffice

variable [FloatValue]

theorem paid_of_announced {c : Candidacy} {deposit tick : Int} {v : Value} {treasuryId : String}
    {event : Events.Event Value} (h : (announcedDraft c deposit v).Became event) :
    depositsPaid [⟨[(c.agentId, treasuryId, deposit)], "transfer", tick, event⟩]
      = [(c.candidacyId, c.agentId, deposit)] ∧
    refundsPaid [⟨[(c.agentId, treasuryId, deposit)], "transfer", tick, event⟩] = [] := by
  obtain ⟨hkind, hpayload⟩ := h
  have hkind : event.kind = CANDIDACY_ANNOUNCED := hkind
  have hid : Posting.field ⟨[(c.agentId, treasuryId, deposit)], "transfer", tick, event⟩
      "candidacy_id" = some (.str c.candidacyId) := by
    unfold Posting.field
    rw [hpayload]
    rfl
  constructor
  · have hdeposit : Posting.deposit?
        ⟨[(c.agentId, treasuryId, deposit)], "transfer", tick, event⟩
          = some (c.candidacyId, c.agentId, deposit) := by
      unfold Posting.deposit?
      dsimp only
      rw [if_pos hkind, hid]
    unfold depositsPaid
    rw [List.filterMap_cons_some hdeposit]
    rfl
  · have hother : event.kind ≠ CANDIDACY_DEPOSITS_REFUNDED := by
      rw [hkind]
      decide
    unfold refundsPaid Posting.refunds
    rw [List.flatMap_cons]
    dsimp only
    rw [if_neg hother]
    rfl

omit [FloatValue] in
theorem paid_of_refunded {electionId : String} {rows : List DepositRow} {v : Value}
    (treasuryId : String) (tick : Int) {event : Events.Event Value}
    (h : (refundDraft electionId rows v).Became event) :
    depositsPaid [⟨(rows.filter fun r => 0 < r.2.2).map fun r => (treasuryId, r.2.1, r.2.2),
      "transfer", tick, event⟩] = [] ∧
    refundsPaid [⟨(rows.filter fun r => 0 < r.2.2).map fun r => (treasuryId, r.2.1, r.2.2),
      "transfer", tick, event⟩] = rows.filter fun r => 0 < r.2.2 := by
  obtain ⟨hkind, hpayload⟩ := h
  have hkind : event.kind = CANDIDACY_DEPOSITS_REFUNDED := hkind
  generalize hpositive : (rows.filter fun r => 0 < r.2.2) = positive
  constructor
  · have hother : event.kind ≠ CANDIDACY_ANNOUNCED := by
      rw [hkind]
      decide
    have hnone : Posting.deposit? ⟨positive.map fun r => (treasuryId, r.2.1, r.2.2), "transfer",
        tick, event⟩ = none := if_neg hother
    unfold depositsPaid
    rw [List.filterMap_cons_none hnone]
    rfl
  · have hfield : Posting.field ⟨positive.map fun r => (treasuryId, r.2.1, r.2.2), "transfer",
        tick, event⟩ "refunds" = some (.list (positive.map fun r =>
          .dict [("candidacy_id", .str r.1), ("agent_id", .str r.2.1),
            ("amount_cents", .int r.2.2)])) := by
      unfold Posting.field
      rw [hpayload, ← hpositive]
      rfl
    unfold refundsPaid Posting.refunds
    rw [List.flatMap_cons, List.flatMap_nil, List.append_nil]
    dsimp only
    rw [if_pos hkind, hfield]
    show ((positive.map _).zip (positive.map _)).filterMap _ = positive
    rw [List.zip_map', List.filterMap_map]
    exact List.filterMap_some

end ElectionOffice

/-! ## The parts of `hold` -/

namespace ElectionOffice

/-- What `hold` goes on with when it has counted: the election, the states
before and after the ballots were cast, and the deposits that go back. -/
structure Held (L : Type) where
  election : Election
  before : PolityState L
  counted : PolityState L
  rows : List DepositRow

section Parts

variable [CanonicalJson Value] [Events.Sha256] [PayloadSchemas Value] [FloatValue]
  (E : ElectionOffice L)

/-- `hold` as far as the deposits that go back. -/
def countBallots (electionId : String) (tick : Int) :
    PolityM L (Option (Held L) × List (Events.Event Value)) := do
  let s ← get
  match s.repo.elections.get? electionId with
  | none => throw (.py (.key electionId))
  | some election => do
    let voters ← liftPy (E.electors s election tick)
    let fit := E.fitFor s election voters.deliberate tick
    if fit.usable = false then do
      let events ← E.callAgain election tick
      pure (none, events)
    else do
      let deliberate ← gather (fun b => E.cast electionId b tick) voters.deliberate
      let reflex ← gather (E.castReflex election (s.repo.openCandidacies electionId) fit.omega tick)
        voters.reflex
      let counted ← get
      let t := E.tallyOf counted election
      let resolved ← E.emit (resolvedDraft election t (counted.repo.turnout election.electionId)
        voters fit (s.resolvedElections = 0)) tick
      let rows ← liftPy (E.refundable counted.repo election.electionId t)
      pure (some { election, before := s, counted, rows }, deliberate ++ reflex ++ [resolved])

/-- The refunds of `hold`. -/
def payRefunds (tick : Int) (r : Option (Held L) × List (Events.Event Value)) :
    PolityM L (Option (Held L) × List (Events.Event Value)) :=
  match r.1 with
  | none => pure r
  | some held => do
    let refunds ← E.refund held.election.electionId held.rows held.before.repo tick
    modify fun s => s.withRepo (held.rows.foldl markRefunded s.repo)
    pure (r.1, r.2 ++ refunds)

/-- `hold` behind the refunds. -/
def finishHold (tick : Int) (r : Option (Held L) × List (Events.Event Value)) :
    PolityM L (List (Events.Event Value)) :=
  match r.1 with
  | none => pure r.2
  | some held => do
    let t := E.tallyOf held.counted held.election
    each noteVotes t.counts.entries
    let assumed ← gather (E.assume held.election tick) t.winnerIds
    modify (closeElection held.election
      (held.before.repo.openCandidacies held.election.electionId))
    pure (r.2 ++ assumed)

theorem hold_parts (electionId : String) (tick : Int) :
    E.hold electionId tick
      = E.countBallots electionId tick >>= fun r => E.payRefunds tick r >>= E.finishHold tick := by
  unfold hold countBallots
  rw [bind_assoc]
  congr 1
  funext s
  cases s.repo.elections.get? electionId with
  | none => rfl
  | some election =>
    dsimp only
    rw [bind_assoc]
    congr 1
    funext voters
    by_cases hfit : (E.fitFor s election voters.deliberate tick).usable = false
    · rw [if_pos hfit, if_pos hfit, bind_assoc]
      simp only [pure_bind, payRefunds, finishHold]
      exact (bind_pure _).symm
    · rw [if_neg hfit, if_neg hfit]
      unfold resolve
      simp only [bind_assoc, pure_bind, payRefunds, finishHold, List.append_assoc,
        List.cons_append, List.nil_append]

end Parts

end ElectionOffice

/-! ## What leaves the deposits alone -/

/-- Who stands, and where. -/
def Candidacy.standing (c : Candidacy) : String × String := (c.electionId, c.agentId)

/-- The candidacies, their deposits and what has been posted stay as they are. -/
structure Idle (s s' : PolityState (Recorded L)) : Prop where
  deposits : s'.repo.deposits = s.repo.deposits
  posted : s'.posted = s.posted
  standing : ∀ id, (s'.repo.candidacies.get? id).map Candidacy.standing
    = (s.repo.candidacies.get? id).map Candidacy.standing

theorem idle_refl (s : PolityState (Recorded L)) : Idle s s := ⟨rfl, rfl, fun _ => rfl⟩

theorem idle_trans (a b c : PolityState (Recorded L)) (h : Idle a b) (h' : Idle b c) :
    Idle a c :=
  ⟨h'.deposits.trans h.deposits, h'.posted.trans h.posted,
    fun id => (h'.standing id).trans (h.standing id)⟩

theorem idle_of_eq {s s' : PolityState (Recorded L)} (hdeposits : s'.repo.deposits = s.repo.deposits)
    (hposted : s'.posted = s.posted) (hcandidacies : s'.repo.candidacies = s.repo.candidacies) :
    Idle s s' := by
  refine ⟨hdeposits, hposted, ?_⟩
  intro id
  rw [hcandidacies]

theorem idle_withVotes {s : PolityState (Recorded L)} {c : Candidacy}
    (h : s.repo.candidacies.get? c.candidacyId = some c) (votes : Int) :
    Idle s (ElectionOffice.withVotes c votes s) := by
  refine ⟨rfl, rfl, ?_⟩
  intro id
  show ((s.repo.candidacies.put c.candidacyId { c with votes }).get? id).map Candidacy.standing = _
  rw [Dict.get?_put]
  by_cases hid : id = c.candidacyId
  · rw [if_pos hid, hid, h]
    rfl
  · rw [if_neg hid]

namespace ElectionOffice

theorem noteVotes_idle (row : String × Int) :
    Leaves Idle (noteVotes row : PolityM (Recorded L) Unit) := by
  intro s
  unfold noteVotes
  rw [get_bind]
  cases hrow : s.repo.candidacies.get? row.1 with
  | none => exact idle_refl s
  | some c =>
    apply idle_withVotes
    rw [s.repo.candidacy_keyed _ _ hrow]
    exact hrow

section Runs

variable [CanonicalJson Value] [Events.Sha256] [PayloadSchemas Value] [FloatValue]
  (E : ElectionOffice (Recorded L))

omit [FloatValue] in
theorem emit_idle (d : Draft) (tick : Int) : Leaves Idle (E.emit d tick) := by
  intro s
  unfold emit
  rw [stateAfter_zoom]
  exact idle_of_eq rfl (congrArg Prod.snd (emit_posted E.journal d tick s.books)) rfl

omit [CanonicalJson Value] [Events.Sha256] [PayloadSchemas Value] [FloatValue] in
theorem liftPy_idle {α : Type} (x : Except PyError α) :
    Leaves Idle (liftPy x : PolityM (Recorded L) α) := by
  intro s
  cases x with
  | ok a => exact idle_refl s
  | error e => exact idle_refl s

theorem cast_idle (electionId : String) (b : Ballot) (tick : Int) :
    Leaves Idle (E.cast electionId b tick) := by
  unfold cast
  apply leaves_bind idle_trans (leaves_get idle_refl)
  intro s
  apply leaves_bind idle_trans (leaves_require idle_refl _ _)
  intro _
  apply leaves_bind idle_trans (leaves_require idle_refl _ _)
  intro _
  apply leaves_bind idle_trans
  · exact leaves_modify fun t => idle_of_eq rfl rfl rfl
  intro _
  apply leaves_bind idle_trans (E.emit_idle _ tick)
  intro _
  exact leaves_pure idle_refl _

theorem castReflex_idle (election : Election) (candidacies : List Candidacy)
    (omega : Dict String ℚ) (tick : Int) (voterId : String) :
    Leaves Idle (E.castReflex election candidacies omega tick voterId) := by
  unfold castReflex
  apply leaves_bind idle_trans (leaves_get idle_refl)
  intro s
  exact E.cast_idle _ _ tick

omit [FloatValue] in
theorem callAgain_idle (election : Election) (tick : Int) :
    Leaves Idle (E.callAgain election tick) := by
  unfold callAgain
  apply leaves_bind idle_trans
  · exact leaves_modify fun s => idle_of_eq rfl rfl rfl
  intro _
  apply leaves_bind idle_trans (E.emit_idle _ tick)
  intro _
  exact leaves_pure idle_refl _

omit [FloatValue] in
theorem assume_idle (election : Election) (tick : Int) (candidacyId : String) :
    Leaves Idle (E.assume election tick candidacyId) := by
  unfold assume
  apply leaves_bind idle_trans (leaves_get idle_refl)
  intro s
  split
  · apply leaves_bind idle_trans
    · exact leaves_modify fun t => idle_of_eq rfl rfl rfl
    intro _
    apply leaves_bind idle_trans (E.emit_idle _ tick)
    intro _
    exact leaves_pure idle_refl _
  · exact leaves_throw idle_refl _
  · exact leaves_throw idle_refl _

theorem countBallots_idle (electionId : String) (tick : Int) :
    Leaves Idle (E.countBallots electionId tick) := by
  unfold countBallots
  apply leaves_bind idle_trans (leaves_get idle_refl)
  intro s
  split
  · exact leaves_throw idle_refl _
  apply leaves_bind idle_trans (liftPy_idle _)
  intro voters
  dsimp only
  apply leaves_ite
  · apply leaves_bind idle_trans (E.callAgain_idle _ tick)
    intro events
    exact leaves_pure idle_refl _
  · apply leaves_bind idle_trans
    · exact leaves_gather idle_refl idle_trans fun b _ => E.cast_idle electionId b tick
    intro deliberate
    apply leaves_bind idle_trans
    · exact leaves_gather idle_refl idle_trans fun v _ => E.castReflex_idle _ _ _ tick v
    intro reflex
    apply leaves_bind idle_trans (leaves_get idle_refl)
    intro counted
    apply leaves_bind idle_trans (E.emit_idle _ tick)
    intro resolved
    apply leaves_bind idle_trans (liftPy_idle _)
    intro rows
    exact leaves_pure idle_refl _

omit [FloatValue] in
theorem finishHold_idle (tick : Int)
    (r : Option (Held (Recorded L)) × List (Events.Event Value)) :
    Leaves Idle (E.finishHold tick r) := by
  unfold finishHold
  split
  · exact leaves_pure idle_refl _
  · apply leaves_bind idle_trans
    · exact leaves_each idle_refl idle_trans fun row _ => noteVotes_idle row
    intro _
    apply leaves_bind idle_trans
    · exact leaves_gather idle_refl idle_trans fun id _ => E.assume_idle _ tick id
    intro assumed
    apply leaves_bind idle_trans
    · exact leaves_modify fun s => idle_of_eq rfl rfl rfl
    intro _
    exact leaves_pure idle_refl _

end Runs

end ElectionOffice

/-! ## Announcing -/

/-- A candidacy that was announced: it is new, and pays its deposit. -/
structure Announced (s s' : PolityState (Recorded L)) (c : Candidacy) (cents : Int) : Prop where
  fresh : s.repo.candidacies.get? c.candidacyId = none
  nonneg : 0 ≤ cents
  candidacies : s'.repo.candidacies = s.repo.candidacies.put c.candidacyId c
  deposits : s'.repo.deposits = s.repo.deposits.put c.candidacyId (c.agentId, cents, false)
  paid : depositsPaid s'.posted = depositsPaid s.posted
    ++ if cents = 0 then [] else [(c.candidacyId, c.agentId, cents)]
  refunded : refundsPaid s'.posted = refundsPaid s.posted

namespace ElectionOffice

section Runs

variable [CanonicalJson Value] [Events.Sha256] [PayloadSchemas Value] [FloatValue] [Uuid5]
  (E : ElectionOffice (Recorded L))

/-- The ledger refuses the deposit of an agent. -/
def RefusesDeposit (s : PolityState (Recorded L)) (agentId : String) (tick : Int) : Prop :=
  E.cfg.candidacyDepositCents ≠ 0 ∧ ∀ cause, ∃ e ledger,
    E.ledger.postTransfers [(agentId, E.treasuryId, E.cfg.candidacyDepositCents)] "transfer" tick
      cause s.books.ledger = .error e ledger

/-- An announcement in an open window is not of a candidacy that is stored, or
its deposit is refused. -/
def Unrepeated (s : PolityState (Recorded L)) (agentId : String)
    (params : AnnounceCandidacyParams) (tick : Int) : Prop :=
  ∀ electionId election, firstText params.electionId params.officeId = some electionId →
    s.repo.elections.get? electionId = some election → tick ≤ election.campaignEndsTick →
    s.repo.candidacies.get? (candidacyIdOf electionId agentId) = none ∨
      E.RefusesDeposit s agentId tick

theorem announce_deposits {B : SocietyLedger L} (hB : B.Reliable) (hE : E.ledger = B.recorded)
    {s : PolityState (Recorded L)} {agentId : String} {params : AnnounceCandidacyParams}
    {tick : Int} (h : E.Unrepeated s agentId params tick) :
    Idle s (stateAfter (E.announce agentId params tick s)) ∨
    ∃ c cents, Announced s (stateAfter (E.announce agentId params tick s)) c cents := by
  unfold announce
  rw [get_bind]
  cases helection : firstText params.electionId params.officeId with
  | none => exact Or.inl (idle_refl s)
  | some electionId =>
    dsimp only
    cases hrow : s.repo.elections.get? electionId with
    | none => exact Or.inl (idle_refl s)
    | some election =>
      dsimp only
      by_cases hopen : tick ≤ election.campaignEndsTick
      swap
      · unfold require
        rw [if_neg hopen]
        exact Or.inl (idle_refl s)
      have hfresh := h electionId election helection hrow hopen
      unfold require
      rw [if_pos hopen, pure_bind_apply]
      by_cases hparty : ∀ partyId ∈ params.partyId, s.parties.parties.contains partyId = true
      swap
      · rw [if_neg hparty]
        exact Or.inl (idle_refl s)
      rw [if_pos hparty, pure_bind_apply, hE]
      generalize hc : ({
          candidacyId := candidacyIdOf electionId agentId, electionId, agentId,
          partyId := params.partyId, platform := candidatePlatform s params, spendCents := 0,
          votes := 0 } : Candidacy) = c
      have hid : c.candidacyId = candidacyIdOf electionId agentId := by rw [← hc]
      have hagent : c.agentId = agentId := by rw [← hc]
      rcases stagePosted_reliable hB E.journal (E.cfg.candidacyDepositCents ≠ 0) (.str "")
          (announcedDraft c E.cfg.candidacyDepositCents)
          [(agentId, E.treasuryId, E.cfg.candidacyDepositCents)] "transfer"
          "candidacy deposit transaction ordinal diverged" tick s.books with
        ⟨f, books, hpost, hposted⟩ | ⟨v, event, books, hpost, hbecame, hcents, hposted⟩
      · left
        rw [bind_of_error (zoom_of_error hpost)]
        exact idle_of_eq rfl hposted rfl
      · right
        have hnew : s.repo.candidacies.get? c.candidacyId = none := by
          rcases hfresh with hfresh | ⟨hpays, hrefused⟩
          · rw [hid]
            exact hfresh
          · -- a refused deposit cannot have been posted
            exfalso
            obtain ⟨log, -, -, hledger⟩ := stagePosted_eq_ok.mp hpost
            rw [if_pos hpays] at hledger
            obtain ⟨e, ledger, herror⟩ := hrefused event
            rw [hE, hledger] at herror
            cases herror
        rw [bind_of_ok (zoom_of_ok hpost)]
        refine ⟨c, E.cfg.candidacyDepositCents, hnew, ?_, rfl, rfl, ?_, ?_⟩
        · by_cases hzero : E.cfg.candidacyDepositCents = 0
          · rw [hzero]
          · exact hcents hzero _ List.mem_cons_self
        · show depositsPaid books.ledger.2 = _
          rw [hposted, depositsPaid_append]
          by_cases hzero : E.cfg.candidacyDepositCents = 0
          · rw [if_neg (not_not.mpr hzero), if_pos hzero]
            rfl
          · rw [if_pos hzero, if_neg hzero, ← hagent, (paid_of_announced hbecame).1]
            rfl
        · show refundsPaid books.ledger.2 = _
          rw [hposted, refundsPaid_append]
          by_cases hzero : E.cfg.candidacyDepositCents = 0
          · rw [if_neg (not_not.mpr hzero)]
            exact List.append_nil _
          · rw [if_pos hzero, ← hagent, (paid_of_announced hbecame).2]
            exact List.append_nil _

end Runs

end ElectionOffice

/-! ## The deposits that go back -/

/-- A candidacy has at least a share of some votes. -/
def Votes.Reaches (share : ℚ) (votes : Votes) (id : String) : Prop :=
  votes.sum ≠ 0 ∧ share ≤ (votes.getD id 0 : ℚ) / votes.sum

instance (share : ℚ) (votes : Votes) (id : String) : Decidable (votes.Reaches share id) :=
  inferInstanceAs (Decidable (_ ∧ _))

namespace ElectionOffice

section Refundable

variable (E : ElectionOffice L)

/-- One deposit of `refundable`. -/
def refundRow (repo : ElectionRepository) (electionId : String) (t : Tally)
    (e : String × String × Int × Bool) : Except PyError (List DepositRow) :=
  match repo.candidacies.get? e.1 with
  | none => .error (.key e.1)
  | some c => .ok (if c.electionId ≠ electionId ∨ e.2.2.2 = true ∨ t.counts.sum = 0
      ∨ (t.counts.getD e.1 0 : ℚ) / t.counts.sum < E.cfg.depositRefundShare then []
    else [(e.1, e.2.1, e.2.2.1)])

theorem mem_of_refundRow {repo : ElectionRepository} {electionId : String} {t : Tally}
    {e : String × String × Int × Bool} {rows : List DepositRow}
    (h : E.refundRow repo electionId t e = .ok rows) :
    (rows.map Prod.fst).Sublist [e.1] ∧ ∀ r, r ∈ rows ↔
      e = (r.1, r.2.1, r.2.2, false) ∧
      (∃ c, repo.candidacies.get? r.1 = some c ∧ c.electionId = electionId) ∧
      t.counts.Reaches E.cfg.depositRefundShare r.1 := by
  unfold refundRow at h
  cases hc : repo.candidacies.get? e.1 with
  | none =>
    rw [hc] at h
    cases h
  | some c =>
    rw [hc] at h
    cases h
    split
    · rename_i hskip
      refine ⟨List.nil_sublist _, ?_⟩
      intro r
      constructor
      · intro hr
        cases hr
      · rintro ⟨rfl, ⟨c', hc', helection⟩, hsum, hshare⟩
        rw [hc] at hc'
        cases hc'
        rcases hskip with hskip | hskip | hskip | hskip
        · exact absurd helection hskip
        · cases hskip
        · exact absurd hskip hsum
        · exact absurd hskip (not_lt.mpr hshare)
    · rename_i hkeep
      push Not at hkeep
      obtain ⟨helection, hrefunded, hsum, hshare⟩ := hkeep
      refine ⟨List.Sublist.refl _, ?_⟩
      intro r
      rw [List.mem_singleton]
      constructor
      · rintro rfl
        refine ⟨?_, ⟨c, hc, helection⟩, hsum, hshare⟩
        have hfalse : e.2.2.2 = false := by simpa using hrefunded
        rw [← hfalse]
      · rintro ⟨rfl, -⟩
        rfl

theorem refundable_eq_ok {repo : ElectionRepository} {electionId : String} {t : Tally}
    {rows : List DepositRow} (h : E.refundable repo electionId t = .ok rows) :
    (rows.map Prod.fst).Nodup ∧ ∀ r, r ∈ rows ↔
      repo.deposits.get? r.1 = some (r.2.1, r.2.2, false) ∧
      (∃ c, repo.candidacies.get? r.1 = some c ∧ c.electionId = electionId) ∧
      t.counts.Reaches E.cfg.depositRefundShare r.1 := by
  have hmap : ∀ (es : List (String × String × Int × Bool)) (found : List (List DepositRow)),
      es.mapM (E.refundRow repo electionId t) = .ok found →
      (found.flatten.map Prod.fst).Sublist (es.map Prod.fst) ∧ ∀ r, r ∈ found.flatten ↔
        (r.1, r.2.1, r.2.2, false) ∈ es ∧
        (∃ c, repo.candidacies.get? r.1 = some c ∧ c.electionId = electionId) ∧
        t.counts.Reaches E.cfg.depositRefundShare r.1 := by
    intro es
    induction es with
    | nil =>
      intro found hfound
      cases hfound
      exact ⟨List.Sublist.refl _, fun r => by simp⟩
    | cons e es ih =>
      intro found hfound
      rw [List.mapM_cons] at hfound
      obtain ⟨here, hhere, hfound⟩ := except_bind_eq_ok.mp hfound
      obtain ⟨rest, hrest, hfound⟩ := except_bind_eq_ok.mp hfound
      cases hfound
      obtain ⟨hsub, hmem⟩ := E.mem_of_refundRow hhere
      obtain ⟨hsub', hmem'⟩ := ih rest hrest
      rw [List.flatten_cons]
      refine ⟨?_, ?_⟩
      · rw [List.map_append]
        exact hsub.append hsub'
      · intro r
        rw [List.mem_append, hmem, hmem', List.mem_cons]
        constructor
        · rintro (⟨rfl, hstands⟩ | ⟨hr, hstands⟩)
          · exact ⟨Or.inl rfl, hstands⟩
          · exact ⟨Or.inr hr, hstands⟩
        · rintro ⟨hr | hr, hstands⟩
          · exact Or.inl ⟨hr.symm, hstands⟩
          · exact Or.inr ⟨hr, hstands⟩
  obtain ⟨found, hfound, hrows⟩ := except_bind_eq_ok.mp h
  cases hrows
  obtain ⟨hsub, hmem⟩ := hmap _ _ hfound
  refine ⟨?_, ?_⟩
  · have hperm := (repo.deposits.sortedEntries_perm).map Prod.fst
    exact hsub.nodup (hperm.nodup_iff.mpr repo.deposits.nodup)
  · intro r
    rw [hmem, Dict.mem_sortedEntries, Dict.mem_entries_iff]

end Refundable

end ElectionOffice

/-! ## Counts -/

/-- A count: the ballots of an election, and the share it asks for. -/
structure Count where
  electionId : String
  method : ElectionMethod
  candidacies : List Candidacy
  ballots : List Ballot
  share : ℚ

/-- The votes cast, each as the candidacy it is for. -/
def Count.votes (k : Count) : List String := k.ballots.flatMap (marks k.method k.candidacies)

/-- A candidacy of the election has at least the share of the votes cast. -/
def Count.Earns (k : Count) (id : String) : Prop :=
  id ∈ k.candidacies.map Candidacy.candidacyId ∧ k.votes ≠ [] ∧
    k.share ≤ (k.votes.count id : ℚ) / k.votes.length

instance (k : Count) (id : String) : Decidable (k.Earns id) :=
  inferInstanceAs (Decidable (_ ∧ _ ∧ _))

theorem reaches_given_iff (draw : List String → String) (candidacies : List Candidacy)
    (election : Election) (ballots : List Ballot) (share : ℚ) (id : String) :
    ((tally draw candidacies election ballots).given election.method).Reaches share id ↔
      ballots.flatMap (marks election.method candidacies) ≠ [] ∧
        share ≤ ((ballots.flatMap (marks election.method candidacies)).count id : ℚ)
          / (ballots.flatMap (marks election.method candidacies)).length := by
  obtain ⟨hget, hsum⟩ := tally_given draw candidacies election ballots
  unfold Votes.Reaches
  rw [hget, hsum]
  refine and_congr ?_ ?_
  · rw [ne_eq, Nat.cast_eq_zero, List.length_eq_zero_iff]
  · rw [Int.cast_natCast, Int.cast_natCast]

namespace ElectionOffice

/-- The count `hold` went on with. -/
def Held.count (held : Held L) (share : ℚ) : Count :=
  { electionId := held.election.electionId
    method := held.election.method
    candidacies := held.counted.repo.openCandidacies held.election.electionId
    ballots := held.counted.repo.ballotsOf held.election.electionId
    share }

/-- The refunds of a count that were paid. -/
structure Settled (s s' : PolityState (Recorded L)) (rows : List DepositRow) : Prop where
  deposits : s'.repo.deposits
    = rows.foldl (fun d r => d.put r.1 (r.2.1, r.2.2, true)) s.repo.deposits
  paid : depositsPaid s'.posted = depositsPaid s.posted
  refunded : refundsPaid s'.posted = refundsPaid s.posted ++ rows.filter fun r => 0 < r.2.2
  standing : ∀ id, (s'.repo.candidacies.get? id).map Candidacy.standing
    = (s.repo.candidacies.get? id).map Candidacy.standing

theorem Settled.idle {a b c d : PolityState (Recorded L)} {rows : List DepositRow}
    (h : Idle a b) (hsettled : Settled b c rows) (h' : Idle c d) : Settled a d rows where
  deposits := by rw [h'.deposits, hsettled.deposits, h.deposits]
  paid := by rw [h'.posted, hsettled.paid, h.posted]
  refunded := by rw [h'.posted, hsettled.refunded, h.posted]
  standing := fun id => (h'.standing id).trans ((hsettled.standing id).trans (h.standing id))

theorem markRefunded_deposits (rows : List DepositRow) (repo : ElectionRepository) :
    (rows.foldl markRefunded repo).deposits
      = rows.foldl (fun d r => d.put r.1 (r.2.1, r.2.2, true)) repo.deposits ∧
    (rows.foldl markRefunded repo).candidacies = repo.candidacies := by
  induction rows generalizing repo with
  | nil => exact ⟨rfl, rfl⟩
  | cons row rows ih => exact ih (markRefunded repo row)

section Runs

variable [CanonicalJson Value] [Events.Sha256] [PayloadSchemas Value] [FloatValue]
  (E : ElectionOffice (Recorded L))

omit [FloatValue] in
theorem refund_cases {B : SocietyLedger L} (hB : B.Reliable) (hE : E.ledger = B.recorded)
    (electionId : String) (rows : List DepositRow) (prior : ElectionRepository) (tick : Int)
    (s : PolityState (Recorded L)) :
    (∃ f s', E.refund electionId rows prior tick s = .error f s' ∧ Idle s s') ∨
    (∃ events s', E.refund electionId rows prior tick s = .ok events s' ∧ s'.repo = s.repo ∧
      depositsPaid s'.posted = depositsPaid s.posted ∧
      refundsPaid s'.posted = refundsPaid s.posted ++ rows.filter fun r => 0 < r.2.2) := by
  have hnone : (rows.filter fun r => 0 < r.2.2) = [] →
      E.refund electionId rows prior tick s = .ok [] s := by
    intro h
    exact congrFun (onlyIf_of_not (not_not.mpr h) _) s
  by_cases hpositive : (rows.filter fun r => 0 < r.2.2) = []
  · right
    refine ⟨[], s, hnone hpositive, rfl, rfl, ?_⟩
    rw [hpositive, List.append_nil]
  · rw [show E.refund electionId rows prior tick s = _ from congrFun (onlyIf_of hpositive _) s, hE]
    rcases stagePosted_reliable hB E.journal True (.str "") (refundDraft electionId rows)
        ((rows.filter fun r => 0 < r.2.2).map fun r => (E.treasuryId, r.2.1, r.2.2)) "transfer"
        "deposit refund transaction ordinal diverged" tick s.books with
      ⟨f, books, hpost, hposted⟩ | ⟨v, event, books, hpost, hbecame, -, hposted⟩
    · left
      rw [zoom_of_error hpost]
      cases f with
      | posting e => exact ⟨_, _, rfl, idle_of_eq rfl hposted rfl⟩
      | log e => exact ⟨_, _, rfl, idle_of_eq rfl hposted rfl⟩
      | py e => exact ⟨_, _, rfl, idle_of_eq rfl hposted rfl⟩
    · right
      rw [zoom_of_ok hpost]
      rw [if_pos trivial] at hposted
      obtain ⟨hpaid, hrefunded⟩ := paid_of_refunded E.treasuryId tick hbecame
      refine ⟨_, _, rfl, rfl, ?_, ?_⟩
      · show depositsPaid books.ledger.2 = _
        rw [hposted, depositsPaid_append, hpaid, List.append_nil]
        rfl
      · show refundsPaid books.ledger.2 = _
        rw [hposted, refundsPaid_append, hrefunded]
        rfl

omit [FloatValue] in
theorem payRefunds_cases {B : SocietyLedger L} (hB : B.Reliable) (hE : E.ledger = B.recorded)
    (tick : Int) (held : Held (Recorded L)) (events : List (Events.Event Value))
    (s : PolityState (Recorded L)) :
    (∃ f s', E.payRefunds tick (some held, events) s = .error f s' ∧ Idle s s') ∨
    (∃ events' s', E.payRefunds tick (some held, events) s = .ok (some held, events') s' ∧
      Settled s s' held.rows) := by
  unfold payRefunds
  dsimp only
  rcases E.refund_cases hB hE held.election.electionId held.rows held.before.repo tick s with
    ⟨f, s', hrun, hidle⟩ | ⟨refunds, s', hrun, hrepo, hpaid, hrefunded⟩
  · left
    rw [bind_of_error hrun]
    exact ⟨f, s', rfl, hidle⟩
  · right
    rw [bind_of_ok hrun]
    obtain ⟨hdeposits, hcandidacies⟩ := markRefunded_deposits held.rows s'.repo
    refine ⟨_, _, rfl, ?_, hpaid, hrefunded, ?_⟩
    · show (held.rows.foldl markRefunded s'.repo).deposits = _
      rw [hdeposits, hrepo]
    · intro id
      show ((held.rows.foldl markRefunded s'.repo).candidacies.get? id).map _ = _
      rw [hcandidacies, hrepo]

/-- The count a call of `hold` makes and pays the refunds of. -/
def countAt (electionId : String) (tick : Int) (s : PolityState (Recorded L)) : Option Count :=
  match (E.countBallots electionId tick >>= E.payRefunds tick) s with
  | .ok (some held, _) _ => some (held.count E.cfg.depositRefundShare)
  | _ => none

/-- The rounds of the count of an election move no candidacy whose deposit is
kept across the share: in the counts of the tally it reaches the share exactly
when it does in the votes that the ballots give. -/
def RoundsAgree (s : PolityState (Recorded L)) (electionId : String) (tick : Int) : Prop :=
  ∀ election voters, s.repo.elections.get? electionId = some election →
    E.electors s election tick = .ok voters →
    (E.fitFor s election voters.deliberate tick).usable = true →
    ∀ ballots : List Ballot, (∀ b, b ∈ ballots ↔ E.Sourced s election voters tick b) →
    (ballots.map Ballot.voterId).Nodup →
    ∀ id agentId cents, s.repo.deposits.get? id = some (agentId, cents, false) →
    id ∈ (s.repo.openCandidacies election.electionId).map Candidacy.candidacyId →
    ((tally (E.draw election.electionId election.votingTick)
        (s.repo.openCandidacies election.electionId) election ballots).counts.Reaches
          E.cfg.depositRefundShare id ↔
      ((tally (E.draw election.electionId election.votingTick)
        (s.repo.openCandidacies election.electionId) election ballots).given
          election.method).Reaches E.cfg.depositRefundShare id)

omit [CanonicalJson Value] [Events.Sha256] [PayloadSchemas Value] [FloatValue] in
theorem roundsAgree_of_ne_irv {s : PolityState (Recorded L)} {electionId : String} {tick : Int}
    (h : ∀ election, s.repo.elections.get? electionId = some election → election.method ≠ .irv) :
    E.RoundsAgree s electionId tick := by
  intro election voters helection _ _ ballots _ _ id agentId cents _ _
  have hmethod := h election helection
  unfold Tally.given
  cases hm : election.method with
  | irv => exact absurd hm hmethod
  | plurality => exact Iff.rfl
  | approval => exact Iff.rfl
  | proportional => exact Iff.rfl

theorem countBallots_eq_ok {electionId : String} {tick : Int} {s s' : PolityState (Recorded L)}
    {held : Held (Recorded L)} {events : List (Events.Event Value)}
    (h : E.countBallots electionId tick s = .ok (some held, events) s') :
    ∃ voters, s.repo.elections.get? electionId = some held.election ∧
      E.electors s held.election tick = .ok voters ∧
      (E.fitFor s held.election voters.deliberate tick).usable = true ∧
      OnlyBallots s held.counted ∧ held.counted.repo.deposits = s.repo.deposits ∧
      (∀ b, b ∈ held.counted.repo.ballotsOf held.election.electionId ↔
        E.Sourced s held.election voters tick b) ∧
      E.refundable held.counted.repo held.election.electionId
        (E.tallyOf held.counted held.election) = .ok held.rows := by
  unfold countBallots at h
  rw [get_bind] at h
  cases helection : s.repo.elections.get? electionId with
  | none =>
    rw [helection] at h
    cases h
  | some election =>
    rw [helection] at h
    dsimp only at h
    have hkey := s.repo.election_keyed _ _ helection
    obtain ⟨voters, t₀, hsplit, h⟩ := bind_eq_ok.mp h
    obtain ⟨hvoters, rfl⟩ := liftPy_eq_ok.mp hsplit
    by_cases hfit : (E.fitFor s election voters.deliberate tick).usable = false
    · rw [if_pos hfit] at h
      obtain ⟨again, t₁, -, h⟩ := bind_eq_ok.mp h
      cases h
    rw [if_neg hfit] at h
    obtain ⟨deliberate, t₁, hdeliberate, h⟩ := bind_eq_ok.mp h
    obtain ⟨reflex, t₂, hreflex, h⟩ := bind_eq_ok.mp h
    rw [get_bind] at h
    obtain ⟨resolved, t₃, -, h⟩ := bind_eq_ok.mp h
    obtain ⟨rows, t₄, hfound, h⟩ := bind_eq_ok.mp h
    obtain ⟨hrows, rfl⟩ := liftPy_eq_ok.mp hfound
    cases h
    have hidle₁ : Idle s t₁ := by
      have hleaves := leaves_gather idle_refl idle_trans
        (fun b (_ : b ∈ voters.deliberate) => E.cast_idle electionId b tick) s
      rwa [hdeliberate] at hleaves
    have hidle₂ : Idle t₁ t₂ := by
      have hleaves := leaves_gather idle_refl idle_trans
        (fun v (_ : v ∈ voters.reflex) => E.castReflex_idle election
          (s.repo.openCandidacies electionId)
          (E.fitFor s election voters.deliberate tick).omega tick v) t₁
      rwa [hreflex] at hleaves
    rw [← hkey] at hdeliberate hreflex
    obtain ⟨honly, hmem⟩ := E.mem_ballots_cast hdeliberate hreflex
    exact ⟨voters, rfl, hvoters, Bool.eq_true_of_not_eq_false hfit, honly,
      (hidle₂.deposits.trans hidle₁.deposits), hmem, hrows⟩

/-- A count and its refunds, as one step of a run. -/
structure Counts (s s' : PolityState (Recorded L)) (k : Count) (rows : List DepositRow) :
    Prop where
  settled : Settled s s' rows
  distinct : (rows.map Prod.fst).Nodup
  rows : ∀ r, r ∈ rows ↔
    s.repo.deposits.get? r.1 = some (r.2.1, r.2.2, false) ∧ k.Earns r.1
  candidacies : ∀ id, id ∈ k.candidacies.map Candidacy.candidacyId ↔
    ∃ c, s.repo.candidacies.get? id = some c ∧ c.electionId = k.electionId

theorem counts_of_settled {electionId : String} {tick : Int} {s t s' : PolityState (Recorded L)}
    {held : Held (Recorded L)} {events : List (Events.Event Value)}
    (hrun : E.countBallots electionId tick s = .ok (some held, events) t)
    (hrounds : E.RoundsAgree s electionId tick) (hsettled : Settled s s' held.rows) :
    Counts s s' (held.count E.cfg.depositRefundShare) held.rows := by
  obtain ⟨voters, helection, hvoters, hfit, honly, hdeposits, hmem, hrows⟩ :=
    E.countBallots_eq_ok hrun
  obtain ⟨hdistinct, hrow⟩ := E.refundable_eq_ok hrows
  have hopen := honly.openCandidacies held.election.electionId
  have hstands : ∀ id, id ∈ (s.repo.openCandidacies held.election.electionId).map
      Candidacy.candidacyId ↔
        ∃ c, s.repo.candidacies.get? id = some c ∧ c.electionId = held.election.electionId := by
    intro id
    rw [List.mem_map]
    constructor
    · rintro ⟨c, hc, rfl⟩
      exact ⟨c, ElectionRepository.mem_openCandidacies.mp hc⟩
    · rintro ⟨c, hc, helected⟩
      have hkey := s.repo.candidacy_keyed _ _ hc
      refine ⟨c, ElectionRepository.mem_openCandidacies.mpr ⟨?_, helected⟩, hkey⟩
      rw [hkey]
      exact hc
  refine ⟨hsettled, hdistinct, ?_, ?_⟩
  · intro r
    rw [hrow, hdeposits, honly.candidacies]
    refine and_congr_right ?_
    intro hkept
    have hearns : (held.count E.cfg.depositRefundShare).Earns r.1 ↔
        r.1 ∈ (s.repo.openCandidacies held.election.electionId).map Candidacy.candidacyId ∧
        ((E.tallyOf held.counted held.election).given held.election.method).Reaches
          E.cfg.depositRefundShare r.1 := by
      unfold tallyOf
      rw [reaches_given_iff, ← hopen]
      rfl
    rw [hearns, hstands]
    refine and_congr_right ?_
    intro hstanding
    have hagree := hrounds held.election voters helection hvoters hfit
      (held.counted.repo.ballotsOf held.election.electionId) hmem
      (held.counted.repo.ballotsOf_nodup held.election.electionId) r.1 r.2.1 r.2.2 hkept
      ((hstands r.1).mpr hstanding)
    unfold tallyOf
    rw [hopen]
    exact hagree
  · intro id
    show id ∈ (held.counted.repo.openCandidacies held.election.electionId).map _ ↔ _
    rw [hopen]
    exact hstands id

theorem hold_deposits {B : SocietyLedger L} (hB : B.Reliable) (hE : E.ledger = B.recorded)
    {s : PolityState (Recorded L)} {electionId : String} {tick : Int}
    (hrounds : E.RoundsAgree s electionId tick) :
    (E.countAt electionId tick s = none ∧ Idle s (stateAfter (E.hold electionId tick s))) ∨
    ∃ k rows, E.countAt electionId tick s = some k ∧
      Counts s (stateAfter (E.hold electionId tick s)) k rows := by
  have hcounted := E.countBallots_idle electionId tick s
  unfold countAt
  rw [hold_parts]
  cases hrun : E.countBallots electionId tick s with
  | error f t =>
    rw [hrun] at hcounted
    rw [bind_of_error hrun, bind_of_error hrun]
    exact Or.inl ⟨rfl, hcounted⟩
  | ok r t =>
    rw [hrun] at hcounted
    rw [bind_of_ok hrun, bind_of_ok hrun]
    obtain ⟨found, events⟩ := r
    cases found with
    | none => exact Or.inl ⟨rfl, hcounted⟩
    | some held =>
      rcases E.payRefunds_cases hB hE tick held events t with
        ⟨f, t', hpay, hidle⟩ | ⟨events', t', hpay, hsettled⟩
      · rw [hpay, bind_of_error hpay]
        exact Or.inl ⟨rfl, idle_trans _ _ _ hcounted hidle⟩
      · rw [hpay, bind_of_ok hpay]
        have hfinish := E.finishHold_idle tick (some held, events') t'
        right
        exact ⟨_, held.rows, rfl, E.counts_of_settled hrun hrounds
          (Settled.idle hcounted hsettled hfinish)⟩

end Runs

end ElectionOffice

end Polis.Society
