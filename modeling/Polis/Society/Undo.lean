/-
  Polis.Society.Undo — what a failed posting leaves behind.

  Nine operations stage an event, post, and undo by hand when the posting
  raises.  They undo their own registers, and roll the log back: not to where
  they began, but to the beginning of the tick.

  Main results:
    * `found_posting`, `announce_posting`, ... — after a failed posting the
      batch is empty and the registers are as before.
    * `garnish_posting` — those of a garnishment are as before exactly when
      the first collection is the one refused.
    * `posting_undoes_iff` — a failed posting undoes only itself exactly when
      nothing was staged before.
-/
import Polis.Society.Counting
import Polis.Society.Filing
import Polis.Society.Media

namespace Polis.Society

open Lib Lib.Effect Polis.Events

/-- A run that fails in a posting leaves the batch and the registers as they
were exactly under a condition on the state it began in. -/
def UndoesItselfWhen {σ ρ α : Type} (op : EStateM Fault σ α) (log : σ → EventLog Value)
    (registries : σ → ρ) (cond : σ → Prop) : Prop :=
  ∀ s e s', op s = .error (.posting e) s' →
    (((log s').staged = (log s).staged ∧ registries s' = registries s) ↔ cond s)

/-- A run that fails in a posting leaves an empty batch, and the registers as
they were. -/
def EmptiesBatch {σ ρ α : Type} (op : EStateM Fault σ α) (log : σ → EventLog Value)
    (registries : σ → ρ) : Prop :=
  ∀ s e s', op s = .error (.posting e) s' → (log s').staged = [] ∧ registries s' = registries s

theorem EmptiesBatch.undoesItselfWhen {σ ρ α : Type} {op : EStateM Fault σ α}
    {log : σ → EventLog Value} {registries : σ → ρ} (h : EmptiesBatch op log registries) :
    UndoesItselfWhen op log registries fun s => (log s).staged = [] := by
  intro s e s' hrun
  obtain ⟨hempty, hregistries⟩ := h s e s' hrun
  rw [hempty]
  constructor
  · rintro ⟨hs, -⟩
    exact hs.symm
  · intro hs
    exact ⟨hs.symm, hregistries⟩

/-! ## Faults that are not of a posting -/

/-- A fault of the log or of a check. -/
def Fault.Plain : Fault → Prop
  | .posting _ => False
  | _ => True

theorem raises_check {σ : Type} (c : Prop) [Decidable c] (e : PyError) :
    Raises Fault.Plain (require c (.py e) : EStateM Fault σ Unit) :=
  raises_require (e := Fault.py e) trivial

theorem raises_liftPy {σ α : Type} (x : Except PyError α) :
    Raises Fault.Plain (liftPy x : EStateM Fault σ α) := by
  cases x with
  | ok a => exact raises_pure _ a
  | error e => exact raises_throw (e := Fault.py e) trivial

theorem posting_behind {σ α β : Type} {x : EStateM Fault σ α} {f : α → EStateM Fault σ β}
    (hx : Raises Fault.Plain x) {s s' : σ} {e : PyError}
    (h : (x >>= f) s = .error (.posting e) s') :
    ∃ a t, x s = .ok a t ∧ f a t = .error (.posting e) s' := by
  rcases bind_eq_error.mp h with h | h
  · exact (hx _ _ _ h).elim
  · exact h

theorem posting_before {σ α β : Type} {x : EStateM Fault σ α} {f : α → EStateM Fault σ β}
    (hf : ∀ a, Raises Fault.Plain (f a)) {s s' : σ} {e : PyError}
    (h : (x >>= f) s = .error (.posting e) s') : x s = .error (.posting e) s' := by
  rcases bind_eq_error.mp h with h | ⟨a, t, -, h⟩
  · exact h
  · exact (hf a _ _ _ h).elim

theorem raises_modify_pure {σ α : Type} (P : Fault → Prop) (f : σ → σ) (a : α) :
    Raises P (do modify f; pure a) := by
  refine raises_bind (raises_modify P f) fun _ => ?_
  exact raises_pure P a

section Runs

variable {L : Type} [CanonicalJson Value] [Events.Sha256] [PayloadSchemas Value]

theorem raises_emit (j : Journal) (d : Draft) (tick : Int) :
    Raises Fault.Plain (Books.emit j d tick : EStateM Fault (Books L) (Events.Event Value)) := by
  intro s f s' h
  rcases Books.emit_cases j d tick s with ⟨f', log, hr, -⟩ | ⟨event, log, hr, -⟩
  · rw [hr] at h
    cases h
    trivial
  · rw [hr] at h
    cases h

/-! ## Suits and revenue -/

theorem CourtService.file_posting (C : CourtService L) (filerId : String)
    (params : FileSuitParams) (tick : Int) :
    EmptiesBatch (C.file filerId params tick) (fun s => s.books.log) CourtState.cases := by
  intro s e s' h
  unfold file at h
  rw [get_bind] at h
  have h := posting_before (fun _ => raises_modify_pure _ _ _) h
  obtain ⟨books, hpost, rfl⟩ := zoom_eq_error.mp h
  exact ⟨stagePosted_posting hpost, rfl⟩

theorem NewsLedger.bookOutletRevenue_posting (N : NewsLedger L) (period : RevenuePeriod) :
    EmptiesBatch (N.bookOutletRevenue period) (fun s => s.books.log)
      NewsState.advertiserBudgets := by
  intro s e s' h
  unfold bookOutletRevenue at h
  rw [get_bind] at h
  cases hfirm : period.outlet.firmId with
  | none =>
    rw [hfirm] at h
    cases h
  | some payeeId =>
    rw [hfirm] at h
    dsimp only at h
    by_cases hnil : (N.bookings s payeeId period).transfers payeeId = []
    · rw [if_pos hnil] at h
      cases h
    · rw [if_neg hnil] at h
      have h := posting_before (fun _ => raises_modify_pure _ _ _) h
      obtain ⟨books, hpost, rfl⟩ := zoom_eq_error.mp h
      exact ⟨stagePosted_posting hpost, rfl⟩

/-! ## Policy -/

/-- The registers of a `PolicyEngine`. -/
def PolicyState.registries (s : PolicyState) : RuntimeConfig × PolicyRepository :=
  (s.runtime, s.repo)

theorem PolicyEngine.raises_emit (E : PolicyEngine) (d : Draft) (tick : Int) :
    Raises Fault.Plain (E.emit d tick) := by
  apply raises_zoom
  intro log f log' h
  rcases Society.emit_cases E.journal d tick log with ⟨f', t, hr, -⟩ | ⟨event, t, hr, -⟩
  · rw [hr] at h
    cases h
    trivial
  · rw [hr] at h
    cases h

theorem PolicyEngine.raises_noteRepeal (E : PolicyEngine) (policyId : UUID) (p : Proposal)
    (prior : Option PolicyRecord) (tick : Int) :
    Raises Fault.Plain (E.noteRepeal policyId p prior tick) := by
  unfold noteRepeal
  refine raises_bind (raises_get _) fun s => ?_
  unfold onlyIf
  refine raises_ite ?_ ?_
  · refine raises_bind (E.raises_emit _ _) fun event => ?_
    exact raises_pure _ _
  · exact raises_pure _ _

omit [CanonicalJson Value] [Events.Sha256] [PayloadSchemas Value] in
theorem liftPy_leaves {σ α : Type} {x : Except PyError α} {s t : σ} {a : α}
    (h : (liftPy x : EStateM Fault σ α) s = .ok a t) : s = t := by
  cases x with
  | ok b =>
    cases h
    rfl
  | error e => cases h

theorem PolicyEngine.emit_leaves (E : PolicyEngine) {d : Draft} {tick : Int} {s t : PolicyState}
    {event : Events.Event Value} (h : E.emit d tick s = .ok event t) :
    t.registries = s.registries := by
  obtain ⟨log, -, rfl⟩ := zoom_eq_ok.mp h
  rfl

theorem PolicyEngine.enact_posting [Uuid5] (E : PolicyEngine) (p : Proposal) (margin : Value)
    (enactedBy : String) (tick : Int) :
    EmptiesBatch (E.enact p margin enactedBy tick) PolicyState.log PolicyState.registries := by
  intro s e s' h
  unfold enact at h
  obtain ⟨effectiveTick, t, heff, h⟩ := posting_behind (raises_liftPy _) h
  obtain rfl := liftPy_leaves heff
  rw [get_bind] at h
  obtain ⟨proposalSeq, t, hseq, h⟩ := posting_behind (raises_liftPy _) h
  obtain rfl := liftPy_leaves hseq
  obtain ⟨event, t, hemit, h⟩ := posting_behind (E.raises_emit _ _) h
  have hregistries := E.emit_leaves hemit
  rcases bind_eq_error.mp h with h | ⟨_, u, -, h⟩
  swap
  · -- what follows the overlay emits and writes
    rw [get_bind] at h
    obtain ⟨_, v, -, h⟩ := posting_behind (raises_modify _ _) h
    obtain ⟨_, w, -, h⟩ := posting_behind (E.raises_noteRepeal _ _ _ _) h
    cases h
  unfold overlayEnact at h
  rw [get_bind] at h
  cases hruntime : t.runtime.enact E.base
      { parameter := p.parameter, value := p.proposedValue, enactedTick := tick, effectiveTick,
        policyId := policyIdOf p tick, eventSeq := event.seq } with
  | ok runtime =>
    rw [hruntime] at h
    cases h
  | error err =>
    rw [hruntime] at h
    cases h
    exact ⟨rfl, hregistries⟩

/-! ## Parties, candidacies and campaigns -/

section Polity

/-- The registers of the polity.  How often a founding was attempted counts the
attempts that failed as well, and is not among them. -/
def PolityState.registries (s : PolityState L) :
    PartyState × ElectionRepository × OfficeState × Dict (String × String) (List (Int × String))
      × Nat × RuntimeConfig × PolicyRepository :=
  ({ s.parties with foundingAttempts := 0 }, s.repo, s.offices, s.exposure, s.resolvedElections,
    s.runtime, s.policies)

variable [FloatValue]

theorem PartyRegistry.found_posting [Uuid5] (R : PartyRegistry L) (founderId : String)
    (params : FoundPartyParams) (tick : Int) :
    EmptiesBatch (R.found founderId params tick) (fun s => s.books.log)
      PolityState.registries := by
  intro s e s' h
  unfold found at h
  obtain ⟨_, t, hattempt, h⟩ := posting_behind (raises_modify _ _) h
  obtain rfl := modify_eq_ok.mp hattempt
  obtain ⟨_, t, hmembers, h⟩ := posting_behind (raises_check _ _) h
  obtain ⟨-, rfl⟩ := require_eq_ok.mp hmembers
  obtain ⟨_, t, hplanks, h⟩ := posting_behind (raises_check _ _) h
  obtain ⟨-, rfl⟩ := require_eq_ok.mp hplanks
  dsimp only at h
  rw [get_bind] at h
  obtain ⟨_, t, hnew, h⟩ := posting_behind (raises_check _ _) h
  obtain ⟨-, rfl⟩ := require_eq_ok.mp hnew
  have h := posting_before (fun _ => raises_modify_pure _ _ _) h
  obtain ⟨books, hpost, rfl⟩ := zoom_eq_error.mp h
  exact ⟨stagePosted_posting hpost, rfl⟩

theorem ElectionOffice.announce_posting [Uuid5] (E : ElectionOffice L) (agentId : String)
    (params : AnnounceCandidacyParams) (tick : Int) :
    EmptiesBatch (E.announce agentId params tick) (fun s => s.books.log)
      PolityState.registries := by
  intro s e s' h
  unfold announce at h
  rw [get_bind] at h
  cases hid : firstText params.electionId params.officeId with
  | none =>
    rw [hid] at h
    cases h
  | some electionId =>
    rw [hid] at h
    dsimp only at h
    cases helection : s.repo.elections.get? electionId with
    | none =>
      rw [helection] at h
      cases h
    | some election =>
      rw [helection] at h
      dsimp only at h
      obtain ⟨_, t, hopen, h⟩ := posting_behind (raises_check _ _) h
      obtain ⟨-, rfl⟩ := require_eq_ok.mp hopen
      obtain ⟨_, t, hparty, h⟩ := posting_behind (raises_check _ _) h
      obtain ⟨-, rfl⟩ := require_eq_ok.mp hparty
      have h := posting_before (fun _ => raises_modify_pure _ _ _) h
      obtain ⟨books, hpost, rfl⟩ := zoom_eq_error.mp h
      exact ⟨stagePosted_posting hpost, rfl⟩

omit [FloatValue] in
theorem ElectionOffice.campaign_posting (E : ElectionOffice L) (agentId : String)
    (params : CampaignParams) (tick : Int) :
    EmptiesBatch (E.campaign agentId params tick) (fun s => s.books.log)
      PolityState.registries := by
  intro s e s' h
  unfold campaign at h
  rw [get_bind] at h
  cases hc : s.repo.candidacies.get? params.candidacyId with
  | none =>
    rw [hc] at h
    cases h
  | some c =>
    rw [hc] at h
    dsimp only at h
    obtain ⟨plan, t, hplan, h⟩ := posting_behind (raises_liftPy _) h
    obtain rfl := liftPy_leaves hplan
    have h := posting_before (fun _ => raises_modify_pure _ _ _) h
    obtain ⟨books, hpost, rfl⟩ := zoom_eq_error.mp h
    exact ⟨stagePosted_posting hpost, rfl⟩

/-! ## Elections -/

namespace ElectionOffice

variable (E : ElectionOffice L)

omit [FloatValue] in
theorem raises_emit (d : Draft) (tick : Int) : Raises Fault.Plain (E.emit d tick) :=
  raises_zoom (Society.raises_emit _ _ _)

theorem raises_cast (electionId : String) (b : Ballot) (tick : Int) :
    Raises Fault.Plain (E.cast electionId b tick) := by
  unfold cast
  refine raises_bind (raises_get _) fun s => ?_
  refine raises_bind (raises_check _ _) fun _ => ?_
  refine raises_bind (raises_check _ _) fun _ => ?_
  refine raises_bind (raises_modify _ _) fun _ => ?_
  refine raises_bind (E.raises_emit _ _) fun event => ?_
  exact raises_pure _ _

omit [FloatValue] in
theorem raises_assume (election : Election) (tick : Int) (candidacyId : String) :
    Raises Fault.Plain (E.assume election tick candidacyId) := by
  unfold assume
  refine raises_bind (raises_get _) fun s => ?_
  cases s.repo.candidacies.get? candidacyId with
  | none => exact raises_throw trivial
  | some c =>
    cases E.cfg.offices.get? election.office with
    | none => exact raises_throw trivial
    | some office =>
      refine raises_bind (raises_modify _ _) fun _ => ?_
      refine raises_bind (E.raises_emit _ _) fun event => ?_
      exact raises_pure _ _

omit [CanonicalJson Value] [Events.Sha256] [PayloadSchemas Value] [FloatValue] in
theorem raises_noteVotes (row : String × Int) :
    Raises Fault.Plain (noteVotes row : PolityM L Unit) := by
  unfold noteVotes
  refine raises_bind (raises_get _) fun s => ?_
  cases s.repo.candidacies.get? row.1 with
  | none => exact raises_throw trivial
  | some c => exact raises_modify _ _

/-- The registers but the ballots. -/
def aside (s : PolityState L) : PolityState L := s.withRepo (restoreBallots s.repo {})

/-- What casting ballots leaves alone: the registers but the ballots. -/
def KeepsAside (s s' : PolityState L) : Prop := (aside s').registries = (aside s).registries

omit [CanonicalJson Value] [Events.Sha256] [PayloadSchemas Value] [FloatValue] in
theorem keepsAside_refl (s : PolityState L) : KeepsAside s s := rfl

omit [CanonicalJson Value] [Events.Sha256] [PayloadSchemas Value] [FloatValue] in
theorem keepsAside_trans (a b c : PolityState L) (h : KeepsAside a b) (h' : KeepsAside b c) :
    KeepsAside a c := h'.trans h

omit [FloatValue] in
theorem emit_keepsAside (d : Draft) (tick : Int) : Within KeepsAside (E.emit d tick) := by
  intro s event s' h
  obtain ⟨books, -, rfl⟩ := zoom_eq_ok.mp h
  rfl

theorem cast_keepsAside (electionId : String) (b : Ballot) (tick : Int) :
    Within KeepsAside (E.cast electionId b tick) := by
  unfold cast
  apply within_bind keepsAside_trans (within_get keepsAside_refl)
  intro s
  apply within_bind keepsAside_trans (within_require keepsAside_refl _ _)
  intro _
  apply within_bind keepsAside_trans (within_require keepsAside_refl _ _)
  intro _
  apply within_bind keepsAside_trans
  · exact within_modify fun _ => rfl
  · intro _
    apply within_bind keepsAside_trans (E.emit_keepsAside _ _)
    intro event
    exact within_pure keepsAside_refl _

omit [CanonicalJson Value] [Events.Sha256] [PayloadSchemas Value] [FloatValue] in
theorem restoreBallots_eq {repo prior : ElectionRepository}
    (h : restoreBallots repo {} = restoreBallots prior {}) : restoreBallots repo prior = prior := by
  cases repo
  cases prior
  simp only [restoreBallots, ElectionRepository.mk.injEq] at h ⊢
  obtain ⟨helections, hcandidacies, -, hdeposits, hcounts⟩ := h
  exact ⟨helections, hcandidacies, trivial, hdeposits, hcounts⟩

omit [CanonicalJson Value] [Events.Sha256] [PayloadSchemas Value] [FloatValue] in
theorem registries_restoreBallots {s s' : PolityState L} (h : KeepsAside s s') :
    (s'.withRepo (restoreBallots s'.repo s.repo)).registries = s.registries := by
  unfold KeepsAside aside PolityState.registries PolityState.withRepo at h
  unfold PolityState.registries PolityState.withRepo
  rw [Prod.mk.injEq, Prod.mk.injEq] at h ⊢
  obtain ⟨hparties, hrepo, hrest⟩ := h
  exact ⟨hparties, restoreBallots_eq hrepo, hrest⟩

omit [FloatValue] in
theorem refund_posting {electionId : String} {rows : List (String × String × Int)}
    {prior s s' : PolityState L} {tick : Int} {e : PyError} (hprior : KeepsAside prior s)
    (h : E.refund electionId rows prior.repo tick s = .error (.posting e) s') :
    s'.books.log.staged = [] ∧ s'.registries = prior.registries := by
  obtain ⟨-, h⟩ := onlyIf_eq_error.mp h
  split at h
  · cases h
  · rename_i hpost
    cases h
    obtain ⟨books, hbooks, rfl⟩ := zoom_eq_error.mp hpost
    refine ⟨stagePosted_posting hbooks, ?_⟩
    exact @registries_restoreBallots _ prior (s.withBooks books) hprior
  · rename_i hfault hpost
    cases h
    exact (hfault _ rfl).elim

theorem resolve_posting {election : Election} {voters : Electors} {fit : FitResult}
    {prior s s' : PolityState L} {tick : Int} {e : PyError} (hprior : KeepsAside prior s)
    (h : E.resolve election voters fit prior tick s = .error (.posting e) s') :
    s'.books.log.staged = [] ∧ s'.registries = prior.registries := by
  unfold resolve at h
  rw [get_bind] at h
  obtain ⟨resolved, t, hemit, h⟩ := posting_behind (E.raises_emit _ _) h
  have hresolved := keepsAside_trans _ _ _ hprior (E.emit_keepsAside _ _ _ _ _ hemit)
  obtain ⟨rows, u, hrows, h⟩ := posting_behind (raises_liftPy _) h
  obtain rfl := liftPy_leaves hrows
  rcases bind_eq_error.mp h with h | ⟨refunds, u, -, h⟩
  swap
  · -- what follows the refund writes and emits
    obtain ⟨_, v, -, h⟩ := posting_behind (raises_modify _ _) h
    obtain ⟨_, v, -, h⟩ := posting_behind (raises_each fun row _ => raises_noteVotes row) h
    obtain ⟨_, v, -, h⟩ := posting_behind (raises_gather fun id _ => E.raises_assume _ _ id) h
    obtain ⟨_, v, -, h⟩ := posting_behind (raises_modify _ _) h
    cases h
  exact E.refund_posting hresolved h

theorem hold_posting (electionId : String) (tick : Int) :
    EmptiesBatch (E.hold electionId tick) (fun s => s.books.log) PolityState.registries := by
  intro s e s' h
  unfold hold at h
  rw [get_bind] at h
  cases helection : s.repo.elections.get? electionId with
  | none =>
    rw [helection] at h
    cases h
  | some election =>
    rw [helection] at h
    dsimp only at h
    obtain ⟨voters, t, hvoters, h⟩ := posting_behind (raises_liftPy _) h
    obtain rfl := liftPy_leaves hvoters
    split at h
    · unfold callAgain at h
      obtain ⟨_, t, -, h⟩ := posting_behind (raises_modify _ _) h
      obtain ⟨_, t, -, h⟩ := posting_behind (E.raises_emit _ _) h
      cases h
    · obtain ⟨deliberate, t, hcast, h⟩ :=
        posting_behind (raises_gather fun b _ => E.raises_cast _ b _) h
      have hreflex : ∀ v, Raises Fault.Plain (E.castReflex election
          (s.repo.openCandidacies electionId) (E.fitFor s election voters.deliberate tick).omega
          tick v) := by
        intro v
        refine raises_bind (raises_get _) fun u => ?_
        exact E.raises_cast _ _ _
      obtain ⟨reflex, u, hcast', h⟩ := posting_behind (raises_gather fun v _ => hreflex v) h
      rcases bind_eq_error.mp h with h | ⟨rest, v, -, h⟩
      · refine E.resolve_posting ?_ h
        apply keepsAside_trans _ t
        · exact within_gather keepsAside_refl keepsAside_trans
            (fun b _ => E.cast_keepsAside _ b _) _ _ _ hcast
        · apply within_gather keepsAside_refl keepsAside_trans _ _ _ _ hcast'
          intro v _
          apply within_bind keepsAside_trans (within_get keepsAside_refl)
          intro w
          exact E.cast_keepsAside _ _ _
      · cases h

end ElectionOffice

end Polity

/-! ## Awards and garnishment -/

/-- The registers of a `PenaltyService`. -/
def LawState.registries (s : LawState L) :
    Dict String Receivable × Dict String (Events.Event Value) × Dict String Sentence
      × Dict String Int × Dict String Location :=
  (s.receivables, s.receivableCauses, s.sentences, s.records, s.locations)

namespace PenaltyService

variable (S : PenaltyService L)

theorem award_posting (a : Award) (tick : Int) :
    EmptiesBatch (S.award a tick) (fun s => s.books.log) LawState.registries := by
  intro s e s' h
  unfold award at h
  obtain ⟨-, h⟩ := onlyIf_eq_error.mp h
  rw [get_bind] at h
  rcases bind_eq_error.mp h with h | ⟨event, t, -, h⟩
  · obtain ⟨books, hpost, rfl⟩ := zoom_eq_error.mp h
    exact ⟨stagePosted_posting hpost, rfl⟩
  · -- the receivable is written after the posting
    unfold runIf at h
    rcases bind_eq_error.mp h with h | ⟨_, u, -, h⟩
    · exact (raises_ite (raises_modify Fault.Plain _) (raises_pure _ _) _ _ _ h).elim
    · cases h

/-- A receivable of which an agent can be made to pay something. -/
structure Due (agentId : String) (room : Int) (s : LawState L) (receivableId : String)
    (row : Receivable) : Prop where
  found : s.receivables.get? receivableId = some row
  debtor : row.debtorId = agentId
  owed : 0 < row.outstandingCents
  payable : 0 < S.collectable row agentId room s.books.ledger

/-- The ledger refuses what would be collected of a receivable. -/
def Refuses (agentId : String) (room tick : Int) (s : LawState L) (row : Receivable) : Prop :=
  ∀ event log, Society.emit S.journal
      (garnishDraft row agentId (S.collectable row agentId room s.books.ledger)
        (S.ledger.nextTransferId s.books.ledger tick)) tick s.books.log = .ok event log →
    ∃ e ledger, S.ledger.postTransfers
      [(agentId, row.creditorId, S.collectable row agentId room s.books.ledger)] row.reason tick
        event s.books.ledger = .error e ledger

/-- The first receivable that is due is one the ledger refuses. -/
def FirstRefused (agentId : String) (room tick : Int) (s : LawState L) : List String → Prop
  | [] => False
  | id :: ids =>
    (∃ row, S.Due agentId room s id row ∧ S.Refuses agentId room tick s row) ∨
    ((∀ row, ¬S.Due agentId room s id row) ∧ FirstRefused agentId room tick s ids)

/-- No receivable has gone, or grown. -/
def Lowered (s s' : LawState L) : Prop :=
  ∀ id row, s.receivables.get? id = some row →
    ∃ row', s'.receivables.get? id = some row' ∧ row'.outstandingCents ≤ row.outstandingCents

omit [CanonicalJson Value] [Events.Sha256] [PayloadSchemas Value] in
theorem lowered_refl (s : LawState L) : Lowered s s := fun _ row h => ⟨row, h, le_refl _⟩

omit [CanonicalJson Value] [Events.Sha256] [PayloadSchemas Value] in
theorem lowered_trans (a b c : LawState L) (h : Lowered a b) (h' : Lowered b c) :
    Lowered a c := by
  intro id row hrow
  obtain ⟨row₁, hrow₁, hle₁⟩ := h id row hrow
  obtain ⟨row₂, hrow₂, hle₂⟩ := h' id row₁ hrow₁
  exact ⟨row₂, hrow₂, hle₂.trans hle₁⟩

/-- What a turn of the loop of `garnish` that returned did: nothing where
nothing is due, and otherwise it lowered the receivable. -/
inductive Collected (agentId : String) (cap diverted tick : Int) (receivableId : String)
    (s : LawState L) : Int → LawState L → Prop
  | skipped (h : ∀ row, ¬S.Due agentId (cap - diverted) s receivableId row) :
      Collected agentId cap diverted tick receivableId s diverted s
  | paid (diverted' : Int) (s' : LawState L) (row : Receivable)
      (hdue : S.Due agentId (cap - diverted) s receivableId row)
      (haccepted : ¬S.Refuses agentId (cap - diverted) tick s row)
      (hrow : s'.receivables = s.receivables.put receivableId
        { row with outstandingCents :=
            row.outstandingCents - S.collectable row agentId (cap - diverted) s.books.ledger }) :
      Collected agentId cap diverted tick receivableId s diverted' s'

/-- What a turn that failed in its posting left. -/
structure CollectionRefused (agentId : String) (room tick : Int) (receivableId : String)
    (s s' : LawState L) : Prop where
  due : ∃ row, S.Due agentId room s receivableId row ∧ S.Refuses agentId room tick s row
  batch : s'.books.log.staged = []
  registers : s'.registries = s.registries

theorem collect_of_due {agentId : String} {cap diverted tick : Int} {id : String}
    {s : LawState L} {row : Receivable} (hdue : S.Due agentId (cap - diverted) s id row) :
    S.collect agentId cap tick diverted id s =
      (do
        let amount := S.collectable row agentId (cap - diverted) s.books.ledger
        let predicted := S.ledger.nextTransferId s.books.ledger tick
        let event ← zoom LawState.books LawState.withBooks
          (Books.emit S.journal (garnishDraft row agentId amount predicted) tick)
        match s.receivableCauses.get? id with
        | none => throw (.py (.key id))
        | some priorCause => do
          modify (putReceivable id
            { row with outstandingCents := row.outstandingCents - amount } event)
          let actual ← S.postCollection id row priorCause agentId amount tick event
          closeCollection id (row.outstandingCents - amount) actual predicted
          pure (diverted + amount) : LawM L Int) s := by
  unfold collect
  rw [get_bind, hdue.found]
  have hdebtor := hdue.debtor
  have howed := hdue.owed
  have hpayable := hdue.payable
  have hnot : ¬(row.debtorId ≠ agentId ∨ row.outstandingCents ≤ 0 ∨
      S.collectable row agentId (cap - diverted) s.books.ledger ≤ 0) := by
    rintro (h | h | h)
    · contradiction
    · omega
    · omega
  dsimp only
  exact congrFun (if_neg hnot) s

theorem collect_of_not_due {agentId : String} {cap diverted : Int} (tick : Int) {id : String}
    {s : LawState L} (hdue : ∀ row, ¬S.Due agentId (cap - diverted) s id row) :
    (∃ e, S.collect agentId cap tick diverted id s = .error (.py e) s) ∨
      S.collect agentId cap tick diverted id s = .ok diverted s := by
  unfold collect
  rw [get_bind]
  cases hrow : s.receivables.get? id with
  | none => exact Or.inl ⟨_, rfl⟩
  | some row =>
    right
    dsimp only
    rw [if_pos]
    · rfl
    · by_contra hnot
      rw [not_or, not_or, not_not] at hnot
      exact hdue row ⟨hrow, hnot.1, by omega, by omega⟩

theorem collect_eq_ok {agentId : String} {cap diverted diverted' tick : Int} {id : String}
    {s s' : LawState L} (h : S.collect agentId cap tick diverted id s = .ok diverted' s') :
    S.Collected agentId cap diverted tick id s diverted' s' := by
  by_cases hdue : ∃ row, S.Due agentId (cap - diverted) s id row
  · obtain ⟨row, hdue⟩ := hdue
    rw [S.collect_of_due hdue] at h
    obtain ⟨event, t, hemit, h⟩ := bind_eq_ok.mp h
    obtain ⟨books, hbooks, rfl⟩ := zoom_eq_ok.mp hemit
    obtain ⟨log, hlog, rfl⟩ := zoom_eq_ok.mp hbooks
    cases hcause : s.receivableCauses.get? id with
    | none =>
      rw [hcause] at h
      cases h
    | some priorCause =>
      rw [hcause] at h
      obtain ⟨_, u, hput, h⟩ := bind_eq_ok.mp h
      obtain rfl := modify_eq_ok.mp hput
      obtain ⟨actual, v, hpost, h⟩ := bind_eq_ok.mp h
      unfold postCollection at hpost
      split at hpost
      · rename_i hledger
        cases hpost
        obtain ⟨_, w, hclose, h⟩ := bind_eq_ok.mp h
        obtain ⟨-, rfl⟩ := pure_eq_ok.mp h
        have haccepted : ¬S.Refuses agentId (cap - diverted) tick s row := by
          intro hrefuses
          obtain ⟨e, ledger, herror⟩ := hrefuses event log hlog
          exact absurd (herror.symm.trans hledger) (by simp)
        refine .paid _ _ row hdue haccepted ?_
        -- closing writes the causes at most
        unfold closeCollection at hclose
        obtain ⟨_, x, hrun, hclose⟩ := bind_eq_ok.mp hclose
        obtain ⟨-, rfl⟩ := require_eq_ok.mp hclose
        unfold runIf at hrun
        rcases ite_eq_ok.mp hrun with ⟨-, hrun⟩ | ⟨-, hrun⟩
        · obtain rfl := modify_eq_ok.mp hrun
          rfl
        · obtain ⟨-, rfl⟩ := pure_eq_ok.mp hrun
          rfl
      · cases hpost
  · have hdue := not_exists.mp hdue
    rcases S.collect_of_not_due tick hdue with ⟨e, hrun⟩ | hrun
    · rw [hrun] at h
      cases h
    · rw [hrun] at h
      cases h
      exact .skipped hdue

theorem collect_posting {agentId : String} {cap diverted tick : Int} {id : String}
    {s s' : LawState L} {e : PyError}
    (h : S.collect agentId cap tick diverted id s = .error (.posting e) s') :
    S.CollectionRefused agentId (cap - diverted) tick id s s' := by
  by_cases hdue : ∃ row, S.Due agentId (cap - diverted) s id row
  · obtain ⟨row, hdue⟩ := hdue
    rw [S.collect_of_due hdue] at h
    obtain ⟨event, t, hemit, h⟩ := posting_behind (raises_zoom (raises_emit _ _ _)) h
    obtain ⟨books, hbooks, rfl⟩ := zoom_eq_ok.mp hemit
    obtain ⟨log, hlog, rfl⟩ := zoom_eq_ok.mp hbooks
    cases hcause : s.receivableCauses.get? id with
    | none =>
      rw [hcause] at h
      cases h
    | some priorCause =>
      rw [hcause] at h
      obtain ⟨_, u, hput, h⟩ := posting_behind (raises_modify _ _) h
      obtain rfl := modify_eq_ok.mp hput
      rcases bind_eq_error.mp h with h | ⟨actual, v, -, h⟩
      · unfold postCollection at h
        split at h
        · cases h
        · rename_i hledger
          cases h
          refine ⟨⟨row, hdue, ?_⟩, rfl, ?_⟩
          · intro event' log' hlog'
            rw [hlog] at hlog'
            cases hlog'
            exact ⟨_, _, hledger⟩
          · show ((s.receivables.put id _).put id row,
              (s.receivableCauses.put id event).put id priorCause, _, _, _) = _
            rw [Dict.put_put, Dict.put_put, Dict.put_of_get? hdue.found,
              Dict.put_of_get? hcause]
            rfl
      · -- closing raises no error of a posting
        rcases bind_eq_error.mp h with h | ⟨_, w, -, h⟩
        · unfold closeCollection at h
          obtain ⟨_, x, -, h⟩ := posting_behind
            (raises_ite (raises_modify _ _) (raises_pure _ _)) h
          exact (raises_check _ _ _ _ _ h).elim
        · cases h
  · have hdue := not_exists.mp hdue
    rcases S.collect_of_not_due tick hdue with ⟨e', hrun⟩ | hrun
    · rw [hrun] at h
      cases h
    · rw [hrun] at h
      cases h

theorem Collected.lowered {agentId : String} {cap diverted diverted' tick : Int} {id : String}
    {s s' : LawState L} (h : S.Collected agentId cap diverted tick id s diverted' s') :
    Lowered s s' := by
  cases h with
  | skipped h => exact lowered_refl s
  | paid _ _ row hdue haccepted hrow =>
    intro id' row' hrow'
    rw [hrow, Dict.get?_put]
    by_cases hid : id' = id
    · subst hid
      have hsame : row = row' := Option.some.inj (hdue.found.symm.trans hrow')
      subst hsame
      rw [if_pos rfl]
      have := hdue.payable
      refine ⟨_, rfl, ?_⟩
      show row.outstandingCents - _ ≤ row.outstandingCents
      omega
    · rw [if_neg hid]
      exact ⟨row', hrow', le_refl _⟩

theorem collectAll_posting {agentId : String} {cap tick : Int} {ids : List String}
    {s s' : LawState L} {e : PyError} {diverted : Int}
    (h : foldEff (S.collect agentId cap tick) diverted ids s = .error (.posting e) s') :
    s'.books.log.staged = [] ∧ Lowered s s' ∧
      (s'.registries = s.registries ↔ S.FirstRefused agentId (cap - diverted) tick s ids) := by
  induction ids generalizing s diverted with
  | nil => cases h
  | cons id ids ih =>
    rw [foldEff_cons] at h
    rcases bind_eq_error.mp h with h | ⟨diverted', t, hcollect, h⟩
    · have hrefused := S.collect_posting h
      obtain ⟨row, hdue, hrefuses⟩ := hrefused.due
      refine ⟨hrefused.batch, ?_, ?_⟩
      · intro id' row' hrow'
        have hreceivables : s'.receivables = s.receivables :=
          congrArg Prod.fst hrefused.registers
        rw [hreceivables]
        exact ⟨row', hrow', le_refl _⟩
      · exact ⟨fun _ => Or.inl ⟨row, hdue, hrefuses⟩, fun _ => hrefused.registers⟩
    · have hcollected := S.collect_eq_ok hcollect
      obtain ⟨hbatch, hlowered, hiff⟩ := ih h
      refine ⟨hbatch, lowered_trans _ _ _ hcollected.lowered hlowered, ?_⟩
      cases hcollected with
      | skipped hdue =>
        rw [hiff]
        constructor
        · exact fun hfirst => Or.inr ⟨hdue, hfirst⟩
        · rintro (⟨row, hrow, -⟩ | ⟨-, hfirst⟩)
          · exact absurd hrow (hdue row)
          · exact hfirst
      | paid _ _ row hdue haccepted hrow =>
        constructor
        · -- what was collected stays collected
          intro hregisters
          have hreceivables : s'.receivables = s.receivables := congrArg Prod.fst hregisters
          have hafter := Dict.get?_put_self s.receivables id
            { row with outstandingCents := row.outstandingCents
                - S.collectable row agentId (cap - diverted) s.books.ledger }
          rw [← hrow] at hafter
          obtain ⟨row', hrow', hle⟩ := hlowered id _ hafter
          rw [hreceivables, hdue.found] at hrow'
          cases hrow'
          have := hdue.payable
          dsimp only at hle
          omega
        · rintro (⟨row', hdue', hrefuses⟩ | ⟨hnone, -⟩)
          · have hsame : row = row' :=
              Option.some.inj (hdue.found.symm.trans hdue'.found)
            subst hsame
            exact absurd hrefuses haccepted
          · exact absurd hdue (hnone row)

/-- What `garnish` may collect of an income. -/
def garnishCap (incomeCents : Int) : Int :=
  max 0 (Kernel.pyRound (incomeCents * S.cfg.garnishmentRate))

/-- The receivables of a garnishment, in the order of the loop. -/
def garnished (s : LawState L) : List String := s.receivables.keys.insertionSort (· ≤ ·)

theorem garnish_posting (agentId : String) (incomeCents tick : Int) :
    UndoesItselfWhen (S.garnish agentId incomeCents tick) (fun s => s.books.log)
      LawState.registries fun s => s.books.log.staged = [] ∧
        S.FirstRefused agentId (S.garnishCap incomeCents) tick s (garnished s) := by
  intro s e s' h
  unfold garnish at h
  rw [get_bind] at h
  obtain ⟨hbatch, -, hiff⟩ := S.collectAll_posting h
  rw [hbatch, hiff, sub_zero]
  constructor
  · rintro ⟨hs, hfirst⟩
    exact ⟨hs.symm, hfirst⟩
  · rintro ⟨hs, hfirst⟩
    exact ⟨hs.symm, hfirst⟩

end PenaltyService

/-! ## All of them -/

/-- **A failed posting undoes only itself exactly when nothing was staged
before**, and a garnishment only when nothing was collected before as well. -/
theorem posting_undoes_iff [FloatValue] [Uuid5] (R : PartyRegistry L) (E : ElectionOffice L)
    (C : CourtService L) (S : PenaltyService L) (P : PolicyEngine) (N : NewsLedger L) :
    (∀ founderId params tick, UndoesItselfWhen (R.found founderId params tick)
      (fun s => s.books.log) PolityState.registries fun s => s.books.log.staged = []) ∧
    (∀ agentId params tick, UndoesItselfWhen (E.announce agentId params tick)
      (fun s => s.books.log) PolityState.registries fun s => s.books.log.staged = []) ∧
    (∀ agentId params tick, UndoesItselfWhen (E.campaign agentId params tick)
      (fun s => s.books.log) PolityState.registries fun s => s.books.log.staged = []) ∧
    (∀ electionId tick, UndoesItselfWhen (E.hold electionId tick)
      (fun s => s.books.log) PolityState.registries fun s => s.books.log.staged = []) ∧
    (∀ filerId params tick, UndoesItselfWhen (C.file filerId params tick)
      (fun s => s.books.log) CourtState.cases fun s => s.books.log.staged = []) ∧
    (∀ a tick, UndoesItselfWhen (S.award a tick)
      (fun s => s.books.log) LawState.registries fun s => s.books.log.staged = []) ∧
    (∀ agentId incomeCents tick, UndoesItselfWhen (S.garnish agentId incomeCents tick)
      (fun s => s.books.log) LawState.registries fun s => s.books.log.staged = [] ∧
        S.FirstRefused agentId (S.garnishCap incomeCents) tick s (PenaltyService.garnished s)) ∧
    (∀ p margin enactedBy tick, UndoesItselfWhen (P.enact p margin enactedBy tick)
      PolicyState.log PolicyState.registries fun s => s.log.staged = []) ∧
    (∀ period, UndoesItselfWhen (N.bookOutletRevenue period)
      (fun s => s.books.log) NewsState.advertiserBudgets fun s => s.books.log.staged = []) :=
  ⟨fun founderId params tick => (R.found_posting founderId params tick).undoesItselfWhen,
   fun agentId params tick => (E.announce_posting agentId params tick).undoesItselfWhen,
   fun agentId params tick => (E.campaign_posting agentId params tick).undoesItselfWhen,
   fun electionId tick => (E.hold_posting electionId tick).undoesItselfWhen,
   fun filerId params tick => (C.file_posting filerId params tick).undoesItselfWhen,
   fun a tick => (S.award_posting a tick).undoesItselfWhen,
   fun agentId incomeCents tick => S.garnish_posting agentId incomeCents tick,
   fun p margin enactedBy tick => (P.enact_posting p margin enactedBy tick).undoesItselfWhen,
   fun period => (N.bookOutletRevenue_posting period).undoesItselfWhen⟩

end Runs

/-! ## A founder without the fee -/

section Closed

attribute [local instance] blankJson blankDigest anySchema ratioValue plainUuid

/-- A registry whose ledger refuses every transfer. -/
def refusedRegistry : PartyRegistry Unit :=
  { journal := plainJournal, beliefs := fun _ _ => 0,
    cfg := { offices := ∅, omegaPrior := ∅ }, ledger := emptyLedger }

/-- A polity in whose log another institution has staged an election. -/
def busyPolity : PolityState Unit :=
  { books :=
      { log := stateAfter (Society.emit plainJournal { kind := ELECTION_CALLED, payload := [] } 0
          (EventLog.new 0 "")),
        ledger := () } }

/-- A party whose founder has no money. -/
def foundRefused : EStateM.Result Fault (PolityState Unit) (List (Events.Event Value)) :=
  refusedRegistry.found "ann"
    { name := "Reform", platform := ∅, foundingMemberIds := ["ann", "bo", "cy"] } 0 busyPolity

/-- How many events are staged before and after a posting that failed. -/
def stagedAround : Option (Nat × Nat) :=
  match foundRefused with
  | .error (.posting _) s' => some (busyPolity.books.log.staged.length, s'.books.log.staged.length)
  | _ => none

theorem stagedAround_eq : stagedAround = some (1, 0) := by
  decide +kernel

theorem found_drops_staged :
    ∃ e s', foundRefused = .error (.posting e) s' ∧ busyPolity.books.log.staged ≠ [] ∧
      s'.books.log.staged ≠ busyPolity.books.log.staged := by
  have h := stagedAround_eq
  unfold stagedAround at h
  split at h
  · rename_i e s' hrun
    obtain ⟨hbefore, hafter⟩ := Prod.mk.inj (Option.some.inj h)
    refine ⟨e, s', hrun, List.ne_nil_of_length_pos (by omega), ?_⟩
    intro hsame
    rw [hsame] at hafter
    omega
  · cases h

end Closed

end Polis.Society
