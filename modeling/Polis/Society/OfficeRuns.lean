/-
  Polis.Society.OfficeRuns — offices over whole runs of elections,
  appointments, removals and resignations (`OfficeRegister`, and
  `ElectionOffice.hold`, `society/polity.py`).

  Nothing in `assume` looks at who holds the office already.

  Main results:
    * `hold_eq` — `hold` counts the votes and lets its winners assume.
    * `Follows` — everything an operation can do to the register.
    * `offices_seated` — in every run in which an agent assumes an office only
      while fewer others than its seats hold it, no office is over-filled.
-/
import Polis.Society.Counting
import Polis.Society.Offices

namespace Polis.Society

open Lib Lib.Effect Polis.Events

/-! ## The winners of an election -/

namespace ElectionOffice

variable {L : Type} [CanonicalJson Value] [Events.Sha256] [PayloadSchemas Value] [FloatValue]
  (E : ElectionOffice L)

/-- `hold` before the winners assume the office: the election, the candidacies
it had and its winners, unless it is called again. -/
def countVotes (electionId : String) (tick : Int) :
    PolityM L (Option (Election × List Candidacy × List String) × List (Events.Event Value)) := do
  let s ← get
  match s.repo.elections.get? electionId with
  | none => throw (.py (.key electionId))
  | some election => do
    let voters ← liftPy (E.electors s election tick)
    let fit := E.fitFor s election voters.deliberate tick
    if fit.usable = false then do
      let events ← E.callAgain election tick
      pure (none, events)
    else do
      let deliberate ← gather (fun b => E.cast electionId b tick) voters.deliberate
      let reflex ← gather (E.castReflex election (s.repo.openCandidacies electionId) fit.omega tick)
        voters.reflex
      let counted ← get
      let t := E.tallyOf counted election
      let resolved ← E.emit (resolvedDraft election t (counted.repo.turnout election.electionId)
        voters fit (s.resolvedElections = 0)) tick
      let rows ← liftPy (E.refundable counted.repo election.electionId t)
      let refunds ← E.refund election.electionId rows s.repo tick
      modify fun s => s.withRepo (rows.foldl markRefunded s.repo)
      each noteVotes t.counts.entries
      pure (some (election, s.repo.openCandidacies election.electionId, t.winnerIds),
        deliberate ++ reflex ++ resolved :: refunds)

/-- The end of `hold`: the winners assume the office. -/
def seatWinners (tick : Int)
    (r : Option (Election × List Candidacy × List String) × List (Events.Event Value)) :
    PolityM L (List (Events.Event Value)) :=
  match r.1 with
  | none => pure r.2
  | some (election, candidacies, winnerIds) => do
    let assumed ← gather (E.assume election tick) winnerIds
    modify (closeElection election candidacies)
    pure (r.2 ++ assumed)

theorem hold_eq (electionId : String) (tick : Int) :
    E.hold electionId tick = E.countVotes electionId tick >>= E.seatWinners tick := by
  unfold hold countVotes
  rw [bind_assoc]
  congr 1
  funext s
  cases s.repo.elections.get? electionId with
  | none => rfl
  | some election =>
    dsimp only
    rw [bind_assoc]
    congr 1
    funext voters
    by_cases hfit : (E.fitFor s election voters.deliberate tick).usable = false
    · rw [if_pos hfit, if_pos hfit, bind_assoc]
      simp only [pure_bind]
      exact (bind_pure _).symm
    · rw [if_neg hfit, if_neg hfit]
      unfold resolve
      simp only [bind_assoc, pure_bind, seatWinners, List.append_assoc, List.cons_append]

/-- The rows of the holders stay as they are. -/
def SameHolders (s s' : PolityState L) : Prop := s'.offices.holders = s.offices.holders

omit [CanonicalJson Value] [Events.Sha256] [PayloadSchemas Value] [FloatValue] in
theorem sameHolders_refl (s : PolityState L) : SameHolders s s := rfl

omit [CanonicalJson Value] [Events.Sha256] [PayloadSchemas Value] [FloatValue] in
theorem sameHolders_trans (a b c : PolityState L) (h : SameHolders a b) (h' : SameHolders b c) :
    SameHolders a c := h'.trans h

omit [FloatValue] in
theorem emit_holders (d : Draft) (tick : Int) : Leaves SameHolders (E.emit d tick) := by
  intro s
  unfold emit
  rw [stateAfter_zoom]
  rfl

theorem cast_holders (electionId : String) (b : Ballot) (tick : Int) :
    Leaves SameHolders (E.cast electionId b tick) := by
  unfold cast
  apply leaves_bind sameHolders_trans (leaves_get sameHolders_refl)
  intro s
  apply leaves_bind sameHolders_trans (leaves_require sameHolders_refl _ _)
  intro _
  apply leaves_bind sameHolders_trans (leaves_require sameHolders_refl _ _)
  intro _
  apply leaves_bind sameHolders_trans
  · exact leaves_modify fun _ => rfl
  intro _
  apply leaves_bind sameHolders_trans (E.emit_holders _ tick)
  intro _
  exact leaves_pure sameHolders_refl _

omit [FloatValue] in
theorem refund_holders (electionId : String) (rows : List (String × String × Int))
    (prior : ElectionRepository) (tick : Int) :
    Leaves SameHolders (E.refund electionId rows prior tick) := by
  unfold refund onlyIf
  apply leaves_ite
  · intro s
    beta_reduce
    generalize hrun : zoom PolityState.books PolityState.withBooks _ s = r
    have hsame : SameHolders s (stateAfter r) := by
      rw [← hrun, stateAfter_zoom]
      rfl
    cases r with
    | ok event t => exact hsame
    | error e t =>
      cases e with
      | log e => exact hsame
      | py e => exact hsame
      | posting e => exact hsame
  · exact leaves_pure sameHolders_refl _

theorem countVotes_holders (electionId : String) (tick : Int) :
    Leaves SameHolders (E.countVotes electionId tick) := by
  have hlift : ∀ {α : Type} (x : Except PyError α),
      Leaves SameHolders (liftPy x : PolityM L α) := by
    intro α x s
    cases x <;> rfl
  unfold countVotes
  apply leaves_bind sameHolders_trans (leaves_get sameHolders_refl)
  intro s
  split
  · exact leaves_throw sameHolders_refl _
  apply leaves_bind sameHolders_trans (hlift _)
  intro voters
  dsimp only
  apply leaves_ite
  · -- the election is called again
    apply leaves_bind sameHolders_trans
    · unfold callAgain
      apply leaves_bind sameHolders_trans
      · exact leaves_modify fun _ => rfl
      intro _
      apply leaves_bind sameHolders_trans (E.emit_holders _ tick)
      intro _
      exact leaves_pure sameHolders_refl _
    intro _
    exact leaves_pure sameHolders_refl _
  · apply leaves_bind sameHolders_trans
    · exact leaves_gather sameHolders_refl sameHolders_trans
        fun b _ => E.cast_holders electionId b tick
    intro deliberate
    apply leaves_bind sameHolders_trans
    · apply leaves_gather sameHolders_refl sameHolders_trans
      intro v _
      apply leaves_bind sameHolders_trans (leaves_get sameHolders_refl)
      intro t
      exact E.cast_holders _ _ tick
    intro reflex
    apply leaves_bind sameHolders_trans (leaves_get sameHolders_refl)
    intro counted
    apply leaves_bind sameHolders_trans (E.emit_holders _ tick)
    intro resolved
    apply leaves_bind sameHolders_trans (hlift _)
    intro rows
    apply leaves_bind sameHolders_trans (E.refund_holders _ rows _ tick)
    intro refunds
    apply leaves_bind sameHolders_trans
    · exact leaves_modify fun _ => rfl
    intro _
    apply leaves_bind sameHolders_trans
    · apply leaves_each sameHolders_refl sameHolders_trans
      intro row _
      unfold noteVotes
      apply leaves_bind sameHolders_trans (leaves_get sameHolders_refl)
      intro t
      split
      · exact leaves_throw sameHolders_refl _
      · exact leaves_modify fun _ => rfl
    intro _
    exact leaves_pure sameHolders_refl _

end ElectionOffice

/-! ## What can happen to the register -/

/-- An agent about to assume an office. -/
structure Assumption where
  register : OfficeState
  office : String
  agentId : String
  tick : Int

/-- Fewer others hold the office than it has seats. -/
def Assumption.Room (cfg : PolitySettings) (p : Assumption) : Prop :=
  ∀ o ∈ cfg.offices.get? p.office, (p.register.others p.office p.agentId p.tick).length < o.seats

instance (cfg : PolitySettings) (p : Assumption) : Decidable (p.Room cfg) :=
  inferInstanceAs (Decidable (∀ o ∈ cfg.offices.get? p.office, _ < o.seats))

/-- Who assumed each office last. -/
def noteLast (last : Dict String String) (p : Assumption) : Dict String String :=
  last.put p.office p.agentId

/-- Everything that happens to the register at a tick: rows that stay, terms
that end and agents that assume an office, in their order. -/
inductive Follows (cfg : PolitySettings) (tick : Int) :
    OfficeState → List Assumption → OfficeState → Prop where
  | same {s s' : OfficeState} (h : s'.holders = s.holders) : Follows cfg tick s [] s'
  | stop {s : OfficeState} {office agentId : String} {row : Int × Option Int × Int}
      (h : s.rowOf office agentId = some row) :
      Follows cfg tick s [] (s.install office agentId (row.1, some tick, row.2.2))
  | assume {s : OfficeState} {office agentId : String} {o : OfficeSettings}
      (h : cfg.offices.get? office = some o) (termEnd : Option Int) (salary : Int) :
      Follows cfg tick s [⟨s, office, agentId, tick⟩]
        (s.install office agentId (tick, termEnd, salary))
  | trans {s s' s'' : OfficeState} {as bs : List Assumption} (h : Follows cfg tick s as s')
      (h' : Follows cfg tick s' bs s'') : Follows cfg tick s (as ++ bs) s''

/-- No office is over-filled at a tick, and the holder of a single seat is the
agent who assumed it last. -/
structure Seated (cfg : PolitySettings) (s : OfficeState) (last : Dict String String)
    (now : Int) : Prop where
  started : ∀ office agentId row, s.rowOf office agentId = some row → row.1 ≤ now
  known : ∀ office agentId row, s.rowOf office agentId = some row →
    ∃ o, cfg.offices.get? office = some o
  seats : ∀ office o, cfg.offices.get? office = some o →
    (s.holding office now).length ≤ o.seats
  single : ∀ office o, cfg.offices.get? office = some o → o.seats = 1 →
    ∀ agentId ∈ s.holding office now, last.get? office = some agentId

namespace Seated

variable {cfg : PolitySettings} {s s' : OfficeState} {last : Dict String String} {now tick : Int}

theorem congr (h : Seated cfg s last now) (hsame : s'.holders = s.holders) :
    Seated cfg s' last now := by
  have hrows : ∀ office agentId, s'.rowOf office agentId = s.rowOf office agentId := by
    intro office agentId
    unfold OfficeState.rowOf
    rw [hsame]
  have hholding : ∀ office t, s'.holding office t = s.holding office t := by
    intro office t
    unfold OfficeState.holding
    rw [hsame]
  refine ⟨?_, ?_, ?_, ?_⟩
  · intro office agentId row hrow
    rw [hrows] at hrow
    exact h.started office agentId row hrow
  · intro office agentId row hrow
    rw [hrows] at hrow
    exact h.known office agentId row hrow
  · intro office o ho
    rw [hholding]
    exact h.seats office o ho
  · intro office o ho hone agentId hmem
    rw [hholding] at hmem
    exact h.single office o ho hone agentId hmem

theorem later (h : Seated cfg s last now) (hle : now ≤ tick) : Seated cfg s last tick := by
  have hsub : ∀ office, s.holding office tick ⊆ s.holding office now := fun office =>
    OfficeState.holding_of_le (fun agentId row hrow => h.started office agentId row hrow) hle
  refine ⟨?_, h.known, ?_, ?_⟩
  · intro office agentId row hrow
    exact le_trans (h.started office agentId row hrow) hle
  · intro office o ho
    exact le_trans (OfficeState.length_holding_le (hsub office)) (h.seats office o ho)
  · intro office o ho hone agentId hmem
    exact h.single office o ho hone agentId (hsub office hmem)

theorem stop (h : Seated cfg s last tick) {office agentId : String}
    {row : Int × Option Int × Int} (hrow : s.rowOf office agentId = some row) :
    Seated cfg (s.install office agentId (row.1, some tick, row.2.2)) last tick := by
  have hsub : ∀ office',
      (s.install office agentId (row.1, some tick, row.2.2)).holding office' tick
        ⊆ s.holding office' tick := fun office' => OfficeState.holding_stop office'
  refine ⟨?_, ?_, ?_, ?_⟩
  · intro office' a row' hrow'
    rw [OfficeState.rowOf_install] at hrow'
    split at hrow'
    · cases hrow'
      exact h.started office agentId row hrow
    · exact h.started office' a row' hrow'
  · intro office' a row' hrow'
    rw [OfficeState.rowOf_install] at hrow'
    split at hrow'
    · next hsame =>
      rw [hsame.1]
      exact h.known office agentId row hrow
    · exact h.known office' a row' hrow'
  · intro office' o ho
    exact le_trans (OfficeState.length_holding_le (hsub office')) (h.seats office' o ho)
  · intro office' o ho hone a hmem
    exact h.single office' o ho hone a (hsub office' hmem)

theorem assume (h : Seated cfg s last tick) {office agentId : String} {o : OfficeSettings}
    (ho : cfg.offices.get? office = some o) (termEnd : Option Int) (salary : Int)
    (hroom : Assumption.Room cfg ⟨s, office, agentId, tick⟩) :
    Seated cfg (s.install office agentId (tick, termEnd, salary))
      (noteLast last ⟨s, office, agentId, tick⟩) tick := by
  have hfew : (s.others office agentId tick).length < o.seats := hroom o ho
  refine ⟨?_, ?_, ?_, ?_⟩
  · intro office' a row' hrow'
    rw [OfficeState.rowOf_install] at hrow'
    split at hrow'
    · cases hrow'
      exact le_refl tick
    · exact h.started office' a row' hrow'
  · intro office' a row' hrow'
    rw [OfficeState.rowOf_install] at hrow'
    split at hrow'
    · next hsame =>
      rw [hsame.1]
      exact ⟨o, ho⟩
    · exact h.known office' a row' hrow'
  · intro office' o' ho'
    by_cases hoffice : office' = office
    · subst hoffice
      obtain rfl : o = o' := Option.some.inj (ho.symm.trans ho')
      have hlen := s.length_holding_install office' agentId (tick, termEnd, salary) tick
      omega
    · exact le_trans (OfficeState.length_holding_le (OfficeState.holding_install_of_ne hoffice))
        (h.seats office' o' ho')
  · intro office' o' ho' hone a hmem
    show (last.put office agentId).get? office' = some a
    by_cases hoffice : office' = office
    · subst hoffice
      obtain rfl : o = o' := Option.some.inj (ho.symm.trans ho')
      -- nobody else holds the single seat
      have hnobody : s.others office' agentId tick = [] := by
        apply List.eq_nil_of_length_eq_zero
        omega
      have hmem' := s.holding_install office' agentId (tick, termEnd, salary) tick hmem
      rw [hnobody, List.mem_singleton] at hmem'
      rw [Dict.get?_put_self, hmem']
    · rw [Dict.get?_put_of_ne hoffice]
      exact h.single office' o' ho' hone a (OfficeState.holding_install_of_ne hoffice hmem)

theorem follows {as : List Assumption} (hf : Follows cfg tick s as s')
    (h : Seated cfg s last tick) (hroom : ∀ p ∈ as, p.Room cfg) :
    Seated cfg s' (as.foldl noteLast last) tick := by
  induction hf generalizing last with
  | same hsame => exact h.congr hsame
  | stop hrow => exact h.stop hrow
  | assume ho termEnd salary =>
    exact h.assume ho termEnd salary (hroom _ (List.mem_singleton_self _))
  | trans _ _ ih ih' =>
    rw [List.foldl_append]
    exact ih' (ih h fun p hp => hroom p (List.mem_append_left _ hp))
      fun p hp => hroom p (List.mem_append_right _ hp)

end Seated

/-! ## What an operation does to the register -/

namespace OfficeRegister

variable {L : Type} [CanonicalJson Value] [Events.Sha256] [PayloadSchemas Value] [FloatValue]
  (R : OfficeRegister)

omit [FloatValue] in
theorem emit_holders (d : Draft) (tick : Int) (s : PolityState L) :
    (stateAfter (R.emit d tick s)).offices = s.offices := by
  unfold emit
  rw [stateAfter_zoom]
  rfl

/-- `assume`, as the assumption it makes: none of an unknown office. -/
def assumes (s : OfficeState) (office agentId : String) (tick : Int) : List Assumption :=
  if (R.cfg.offices.get? office).isSome then [⟨s, office, agentId, tick⟩] else []

/-- The assumption a call of `vacate` makes: the successor's. -/
def succeeds (s : PolityState L) (office agentId reason : String) (tick : Int) :
    List Assumption :=
  match s.offices.rowOf office agentId with
  | none => []
  | some row =>
    let offices := stopped s.offices office agentId row tick
    match R.successorFor offices office reason tick with
    | .ok (some member) =>
      match R.emit (vacatedDraft office agentId reason (some member)) tick
          { s with offices := offices } with
      | .ok _ _ => R.assumes offices "president" member tick
      | .error _ _ => []
    | _ => []

omit [FloatValue] in
theorem assume_follows (office agentId : String) (tick : Int) (via : String) (salary : Int)
    (s : PolityState L) :
    Follows R.cfg tick s.offices (R.assumes s.offices office agentId tick)
      (stateAfter (R.assume office agentId tick via salary s)).offices := by
  unfold assume assumes
  cases ho : R.cfg.offices.get? office with
  | none => exact .same rfl
  | some o =>
    dsimp only
    have hstate : (stateAfter ((do
        modify (ElectionOffice.installed office agentId (tick,
          o.termSimYears.map fun n => tick + R.journal.clock.ticksFor { years := n }, salary))
        let event ← R.emit (ElectionOffice.assumedDraft office agentId via tick
          (o.termSimYears.map fun n => tick + R.journal.clock.ticksFor { years := n }) salary) tick
        pure [event] : PolityM L (List (Events.Event Value))) s)).offices
        = s.offices.install office agentId (tick,
          o.termSimYears.map fun n => tick + R.journal.clock.ticksFor { years := n }, salary) := by
      show (stateAfter ((do
        let event ← R.emit _ tick
        pure [event] : PolityM L _) (ElectionOffice.installed office agentId _ s))).offices = _
      rw [stateAfter_bind_pure, emit_holders]
      rfl
    rw [hstate]
    exact .assume ho _ _

omit [FloatValue] in
theorem vacate_follows (office agentId reason : String) (tick : Int) (s : PolityState L) :
    Follows R.cfg tick s.offices (R.succeeds s office agentId reason tick)
      (stateAfter (R.vacate office agentId reason tick s)).offices := by
  unfold vacate succeeds
  rw [get_bind]
  cases hrow : s.offices.rowOf office agentId with
  | none => exact .same rfl
  | some row =>
    dsimp only
    have hstop : Follows R.cfg tick s.offices [] (stopped s.offices office agentId row tick) :=
      .stop hrow
    rw [bind_of_ok (a := ⟨⟩) (modify_eq_ok.mpr rfl)]
    cases R.successorFor (stopped s.offices office agentId row tick) office reason tick with
    | error e =>
      rw [bind_of_error liftPy_error]
      exact hstop
    | ok successor =>
      rw [bind_of_ok liftPy_ok]
      have hemit := R.emit_holders (vacatedDraft office agentId reason successor) tick
        { s with offices := stopped s.offices office agentId row tick }
      cases hrun : R.emit (vacatedDraft office agentId reason successor) tick
          { s with offices := stopped s.offices office agentId row tick } with
      | error e t =>
        rw [bind_of_error hrun]
        rw [hrun] at hemit
        change t.offices = stopped s.offices office agentId row tick at hemit
        rw [stateAfter_error, hemit]
        cases successor with
        | none => exact hstop
        | some member =>
          dsimp only
          rw [hrun]
          exact hstop
      | ok event t =>
        rw [bind_of_ok hrun]
        rw [hrun] at hemit
        change t.offices = stopped s.offices office agentId row tick at hemit
        cases successor with
        | none =>
          show Follows R.cfg tick s.offices [] t.offices
          rw [hemit]
          exact hstop
        | some member =>
          dsimp only
          rw [hrun]
          dsimp only
          cases ho : R.cfg.offices.get? "president" with
          | none =>
            have hnone : R.assumes (stopped s.offices office agentId row tick) "president" member
                tick = [] := by
              unfold assumes
              rw [ho]
              rfl
            rw [hnone]
            show Follows R.cfg tick s.offices [] t.offices
            rw [hemit]
            exact hstop
          | some o =>
            dsimp only
            rw [stateAfter_bind_pure, ← hemit]
            rw [← hemit] at hstop
            exact hstop.trans (R.assume_follows "president" member tick "succession"
              o.salaryCents t)

omit [FloatValue] in
theorem succeeds_ne {s : PolityState L} {office agentId reason : String} {tick : Int}
    (h : office = "president" → reason ∈ successionReasons →
      R.successor s.offices tick ≠ .ok (some agentId)) :
    ∀ p ∈ R.succeeds s office agentId reason tick, p.agentId ≠ agentId := by
  intro p hp
  unfold succeeds at hp
  cases hrow : s.offices.rowOf office agentId with
  | none =>
    rw [hrow] at hp
    cases hp
  | some row =>
    rw [hrow] at hp
    dsimp only at hp
    split at hp
    · rename_i member hmember
      unfold successorFor at hmember
      split at hmember
      · next hreason =>
        -- ending the president's term does not change the council
        have hcouncil : (stopped s.offices office agentId row tick).holder R.cfg "council" tick
            = s.offices.holder R.cfg "council" tick := by
          have hrows : (stopped s.offices office agentId row tick).holding "council" tick
              = s.offices.holding "council" tick := by
            unfold OfficeState.holding Dict.getD
            show List.insertionSort _ (List.map _ (List.filter _
              (((s.offices.holders.put office _).get? "council").getD ∅).entries)) = _
            rw [hreason.1, Dict.get?_put_of_ne (by decide)]
          unfold OfficeState.holder
          rw [hrows]
        have hsame : R.successor s.offices tick = .ok (some member) := by
          rw [← hmember]
          unfold successor
          rw [hcouncil]
          rfl
        split at hp
        · unfold assumes at hp
          split at hp
          · rw [List.mem_singleton] at hp
            rw [hp]
            intro heq
            have heq : member = agentId := heq
            rw [heq] at hsame
            exact h hreason.1 hreason.2 hsame
          · cases hp
        · cases hp
      · cases hmember
    · cases hp

/-- The assumption a call of `appoint` makes. -/
def appoints (s : PolityState L) (office appointeeId byId : String) (tick : Int) :
    List Assumption :=
  if R.Confirmed office appointeeId then
    match R.emit (R.appointmentDraft office appointeeId byId) tick s with
    | .ok _ t => R.assumes t.offices office appointeeId tick
    | .error _ _ => []
  else []

/-- The assumption a call of `remove` makes: none, as `"removal"` is no reason
for a succession. -/
def removes (s : PolityState L) (office agentId byId : String) (margin : ℚ) (tick : Int) :
    List Assumption :=
  if office = "cb_governor" ∧ margin < 5 / 7 then []
  else
    match R.emit (removedDraft office agentId byId margin) tick s with
    | .ok _ t => R.succeeds t office agentId "removal" tick
    | .error _ _ => []

theorem appoint_follows (office appointeeId byId : String) (tick : Int) (s : PolityState L) :
    Follows R.cfg tick s.offices (R.appoints s office appointeeId byId tick)
      (stateAfter (R.appoint office appointeeId byId tick s)).offices := by
  unfold appoint appoints
  have hemit := R.emit_holders (R.appointmentDraft office appointeeId byId) tick s
  cases hrun : R.emit (R.appointmentDraft office appointeeId byId) tick s with
  | error e t =>
    rw [hrun] at hemit
    change t.offices = s.offices at hemit
    rw [bind_of_error hrun, stateAfter_error, hemit]
    rw [ite_self]
    exact .same rfl
  | ok event t =>
    rw [hrun] at hemit
    change t.offices = s.offices at hemit
    rw [bind_of_ok hrun, ← hemit]
    by_cases hconfirmed : R.Confirmed office appointeeId
    · rw [if_pos hconfirmed, if_pos hconfirmed]
      cases ho : R.cfg.offices.get? office with
      | none =>
        have hnone : R.assumes t.offices office appointeeId tick = [] := by
          unfold assumes
          rw [ho]
          rfl
        dsimp only
        rw [hnone]
        exact .same rfl
      | some o =>
        dsimp only
        rw [stateAfter_bind_pure]
        exact R.assume_follows office appointeeId tick "appointment" o.salaryCents t
    · rw [if_neg hconfirmed, if_neg hconfirmed]
      exact .same rfl

theorem remove_follows (office agentId byId : String) (margin : ℚ) (tick : Int)
    (s : PolityState L) :
    Follows R.cfg tick s.offices (R.removes s office agentId byId margin tick)
      (stateAfter (R.remove office agentId byId margin tick s)).offices := by
  unfold remove removes
  by_cases hfew : office = "cb_governor" ∧ margin < 5 / 7
  · rw [if_pos hfew, if_pos hfew]
    exact .same rfl
  · rw [if_neg hfew, if_neg hfew]
    have hemit := R.emit_holders (removedDraft office agentId byId margin) tick s
    cases hrun : R.emit (removedDraft office agentId byId margin) tick s with
    | error e t =>
      rw [hrun] at hemit
      change t.offices = s.offices at hemit
      rw [bind_of_error hrun, stateAfter_error, hemit]
      exact .same rfl
    | ok event t =>
      rw [hrun] at hemit
      change t.offices = s.offices at hemit
      rw [bind_of_ok hrun, stateAfter_bind_pure, ← hemit]
      exact R.vacate_follows office agentId "removal" tick t

end OfficeRegister

/-! ## What an election does to the register -/

namespace ElectionOffice

variable {L : Type} [CanonicalJson Value] [Events.Sha256] [PayloadSchemas Value] [FloatValue]
  (E : ElectionOffice L)

/-- The register the office writes to. -/
def register (confirmation : String → String → ℚ) : OfficeRegister :=
  { journal := E.journal, cfg := E.cfg, confirmation }

/-- A winner about to assume, in the state its turn begins with. -/
def takes (election : Election) (tick : Int) (v : PolityState L × String) : List Assumption :=
  match v.1.repo.candidacies.get? v.2, E.cfg.offices.get? election.office with
  | some c, some _ => [⟨v.1.offices, election.office, c.agentId, tick⟩]
  | _, _ => []

/-- The assumptions of a list of winners. -/
def takesAll (election : Election) (tick : Int) (winnerIds : List String) (s : PolityState L) :
    List Assumption :=
  (visited (E.assume election tick) winnerIds s).flatMap (E.takes election tick)

/-- The assumptions a call of `hold` makes. -/
def holds (s : PolityState L) (electionId : String) (tick : Int) : List Assumption :=
  match E.countVotes electionId tick s with
  | .ok (some (election, _, winnerIds), _) t => E.takesAll election tick winnerIds t
  | _ => []

omit [FloatValue] in
theorem assume_takes (election : Election) (tick : Int) (candidacyId : String)
    (s : PolityState L) :
    Follows E.cfg tick s.offices (E.takes election tick (s, candidacyId))
      (stateAfter (E.assume election tick candidacyId s)).offices := by
  unfold assume takes
  rw [get_bind]
  dsimp only
  cases hc : s.repo.candidacies.get? candidacyId with
  | none => exact .same rfl
  | some c =>
    cases ho : E.cfg.offices.get? election.office with
    | none => exact .same rfl
    | some o =>
      -- the winner assumes as an appointee does
      have h := (E.register fun _ _ => 1).assume_follows election.office c.agentId tick
        election.electionId o.salaryCents s
      unfold OfficeRegister.assume OfficeRegister.assumes at h
      simp only [show (E.register fun _ _ => 1).cfg.offices.get? election.office = some o from ho]
        at h
      exact h

omit [FloatValue] in
theorem takesAll_follows (election : Election) (tick : Int) (winnerIds : List String)
    (s : PolityState L) :
    Follows E.cfg tick s.offices (E.takesAll election tick winnerIds s)
      (stateAfter (gather (E.assume election tick) winnerIds s)).offices := by
  induction winnerIds generalizing s with
  | nil => exact .same rfl
  | cons w ws ih =>
    have hturn := E.assume_takes election tick w s
    unfold takesAll visited
    rw [List.flatMap_cons, gather_cons]
    cases hrun : E.assume election tick w s with
    | error e t =>
      rw [hrun] at hturn
      rw [bind_of_error hrun]
      exact hturn.trans (.same rfl)
    | ok here t =>
      rw [hrun] at hturn
      rw [bind_of_ok hrun, stateAfter_bind_pure]
      exact hturn.trans (ih t)

theorem hold_follows (electionId : String) (tick : Int) (s : PolityState L) :
    Follows E.cfg tick s.offices (E.holds s electionId tick)
      (stateAfter (E.hold electionId tick s)).offices := by
  have hcount := E.countVotes_holders electionId tick s
  rw [hold_eq]
  unfold holds
  cases hrun : E.countVotes electionId tick s with
  | error e t =>
    rw [hrun] at hcount
    rw [bind_of_error hrun]
    exact .same hcount
  | ok r t =>
    rw [hrun] at hcount
    have hsame : Follows E.cfg tick s.offices [] t.offices := .same hcount
    rw [bind_of_ok hrun]
    obtain ⟨won, events⟩ := r
    cases won with
    | none => exact hsame
    | some won =>
      obtain ⟨election, candidacies, winnerIds⟩ := won
      have htakes := hsame.trans (E.takesAll_follows election tick winnerIds t)
      unfold seatWinners
      dsimp only
      cases hloop : gather (E.assume election tick) winnerIds t with
      | error e u =>
        rw [hloop] at htakes
        rw [bind_of_error hloop]
        exact htakes
      | ok assumed u =>
        rw [hloop] at htakes
        rw [bind_of_ok hloop]
        exact htakes

end ElectionOffice

/-! ## Runs -/

/-- One step of a run: a call of the register, an election held, or anything
that happens to the rest of the polity. -/
inductive OfficeStep (L : Type) where
  | hold (electionId : String) (tick : Int)
  | assume (office agentId : String) (tick : Int) (via : String) (salaryCents : Int)
  | appoint (office appointeeId byId : String) (tick : Int)
  | remove (office agentId byId : String) (margin : ℚ) (tick : Int)
  | vacate (office agentId reason : String) (tick : Int)
  | outside (rest : PolityState L)

namespace OfficeStep

/-- The tick of a call. -/
def tick? {L : Type} : OfficeStep L → Option Int
  | .hold _ tick | .assume _ _ tick _ _ | .appoint _ _ _ tick | .remove _ _ _ _ tick
  | .vacate _ _ _ tick => some tick
  | .outside _ => none

/-- The tick after a step. -/
def after {L : Type} (now : Int) (a : OfficeStep L) : Int := a.tick?.getD now

/-- The tick a run has reached. -/
def reached {L : Type} (now : Int) (steps : List (OfficeStep L)) : Int := steps.foldl after now

/-- The agent a step takes out of an office. -/
def vacating {L : Type} : OfficeStep L → Option String
  | .vacate _ agentId _ _ | .remove _ agentId _ _ _ => some agentId
  | _ => none

/-- The ticks of a run do not decrease. -/
def Ordered {L : Type} : Int → List (OfficeStep L) → Prop
  | _, [] => True
  | now, a :: as => now ≤ a.after now ∧ Ordered (a.after now) as

end OfficeStep

namespace ElectionOffice

section Runs

variable {L : Type} [CanonicalJson Value] [Events.Sha256] [PayloadSchemas Value] [FloatValue]
  (E : ElectionOffice L) (confirmation : String → String → ℚ)

/-- One step, returned or raised. -/
def officeStep (s : PolityState L) : OfficeStep L → PolityState L
  | .hold electionId tick => stateAfter (E.hold electionId tick s)
  | .assume office agentId tick via salaryCents =>
    stateAfter ((E.register confirmation).assume office agentId tick via salaryCents s)
  | .appoint office appointeeId byId tick =>
    stateAfter ((E.register confirmation).appoint office appointeeId byId tick s)
  | .remove office agentId byId margin tick =>
    stateAfter ((E.register confirmation).remove office agentId byId margin tick s)
  | .vacate office agentId reason tick =>
    stateAfter ((E.register confirmation).vacate office agentId reason tick s)
  | .outside rest => { rest with offices := s.offices }

/-- The agents that assume an office in a step, in their order. -/
def assumptions (s : PolityState L) : OfficeStep L → List Assumption
  | .hold electionId tick => E.holds s electionId tick
  | .assume office agentId tick _ _ =>
    (E.register confirmation).assumes s.offices office agentId tick
  | .appoint office appointeeId byId tick =>
    (E.register confirmation).appoints s office appointeeId byId tick
  | .remove office agentId byId margin tick =>
    (E.register confirmation).removes s office agentId byId margin tick
  | .vacate office agentId reason tick =>
    (E.register confirmation).succeeds s office agentId reason tick
  | .outside _ => []

/-- A run from a state, with who assumed each office last. -/
def officeRun (s : PolityState L) (last : Dict String String) :
    List (OfficeStep L) → PolityState L × Dict String String
  | [] => (s, last)
  | a :: as =>
    officeRun (E.officeStep confirmation s a)
      ((E.assumptions confirmation s a).foldl noteLast last) as

/-- The council member that would follow a president who vacates the office is
another agent. -/
def FollowedByAnother (s : PolityState L) : OfficeStep L → Prop
  | .vacate office agentId reason tick =>
    office = "president" → reason ∈ OfficeRegister.successionReasons →
      (E.register confirmation).successor s.offices tick ≠ .ok (some agentId)
  | _ => True

/-- A step seats agents only where there is room, and no president follows
itself. -/
def Admits (s : PolityState L) (a : OfficeStep L) : Prop :=
  (∀ p ∈ E.assumptions confirmation s a, p.Room E.cfg) ∧ E.FollowedByAnother confirmation s a

/-- Every step of a run is as `Admits` asks. -/
def AllAdmit : PolityState L → List (OfficeStep L) → Prop
  | _, [] => True
  | s, a :: as =>
    E.Admits confirmation s a ∧ AllAdmit (E.officeStep confirmation s a) as

theorem officeStep_follows (s : PolityState L) (a : OfficeStep L) (now : Int) :
    Follows E.cfg (a.after now) s.offices (E.assumptions confirmation s a)
      (E.officeStep confirmation s a).offices := by
  cases a with
  | hold electionId tick => exact E.hold_follows electionId tick s
  | assume office agentId tick via salaryCents =>
    exact (E.register confirmation).assume_follows office agentId tick via salaryCents s
  | appoint office appointeeId byId tick =>
    exact (E.register confirmation).appoint_follows office appointeeId byId tick s
  | remove office agentId byId margin tick =>
    exact (E.register confirmation).remove_follows office agentId byId margin tick s
  | vacate office agentId reason tick =>
    exact (E.register confirmation).vacate_follows office agentId reason tick s
  | outside rest => exact .same rfl

theorem officeStep_seated {s : PolityState L} {a : OfficeStep L} {last : Dict String String}
    {now : Int} (h : Seated E.cfg s.offices last now) (hle : now ≤ a.after now)
    (ha : E.Admits confirmation s a) :
    Seated E.cfg (E.officeStep confirmation s a).offices
      ((E.assumptions confirmation s a).foldl noteLast last) (a.after now) :=
  (h.later hle).follows (E.officeStep_follows confirmation s a now) ha.1

theorem assumptions_ne {s : PolityState L} {a : OfficeStep L}
    (ha : E.FollowedByAnother confirmation s a) :
    ∀ agentId ∈ a.vacating, ∀ p ∈ E.assumptions confirmation s a, p.agentId ≠ agentId := by
  intro agentId hagent
  cases a with
  | vacate office agent reason tick =>
    cases hagent
    exact (E.register confirmation).succeeds_ne ha
  | remove office agent byId margin tick =>
    cases hagent
    intro p hp
    have hp : p ∈ (E.register confirmation).removes s office agentId byId margin tick := hp
    unfold OfficeRegister.removes at hp
    split at hp
    · cases hp
    · split at hp
      · apply (E.register confirmation).succeeds_ne _ p hp
        intro _ hreason
        exact absurd hreason (by decide)
      · cases hp
  | hold electionId tick => cases hagent
  | assume office agent tick via salaryCents => cases hagent
  | appoint office appointeeId byId tick => cases hagent
  | outside rest => cases hagent

/-- **No office is over-filled** in a run in which agents find room and no
president follows itself. -/
theorem offices_seated (s : PolityState L) (steps : List (OfficeStep L)) (now : Int)
    (hnew : s.offices.holders = ∅) (hord : OfficeStep.Ordered now steps)
    (hall : E.AllAdmit confirmation s steps) (n : Nat) :
    (∀ office tick, OfficeStep.reached now (steps.take n) ≤ tick →
      ((E.officeRun confirmation s ∅ (steps.take n)).1.offices.holding office tick).length
        ≤ ((E.cfg.offices.get? office).map OfficeSettings.seats).getD 0 ∧
      ∀ agentId, (E.officeRun confirmation s ∅ (steps.take n)).1.offices.holder E.cfg office tick
          = .ok (some (.one agentId)) →
        (E.officeRun confirmation s ∅ (steps.take n)).2.get? office = some agentId) ∧
    ∀ a, steps[n]? = some a → ∀ agentId ∈ a.vacating,
      ∀ p ∈ E.assumptions confirmation (E.officeRun confirmation s ∅ (steps.take n)).1 a,
        p.agentId ≠ agentId := by
  have hrun : ∀ (steps : List (OfficeStep L)) (s : PolityState L) (last : Dict String String)
      (now : Int), Seated E.cfg s.offices last now → OfficeStep.Ordered now steps →
      E.AllAdmit confirmation s steps → ∀ n,
      Seated E.cfg (E.officeRun confirmation s last (steps.take n)).1.offices
        (E.officeRun confirmation s last (steps.take n)).2
        (OfficeStep.reached now (steps.take n)) ∧
      ∀ a, steps[n]? = some a →
        E.Admits confirmation (E.officeRun confirmation s last (steps.take n)).1 a := by
    intro steps
    induction steps with
    | nil =>
      intro s last now hs _ _ n
      rw [List.take_nil]
      exact ⟨hs, fun a ha => by cases ha⟩
    | cons a as ih =>
      intro s last now hs hord hall n
      cases n with
      | zero =>
        refine ⟨hs, ?_⟩
        intro b hb
        cases hb
        exact hall.1
      | succ n =>
        exact ih _ _ _ (E.officeStep_seated confirmation hs hord.1 hall.1) hord.2 hall.2 n
  have hempty : ∀ office agentId, s.offices.rowOf office agentId = none := by
    intro office agentId
    unfold OfficeState.rowOf
    rw [hnew]
    rfl
  have hnobody : ∀ office, s.offices.holding office now = [] := by
    intro office
    unfold OfficeState.holding
    rw [hnew]
    rfl
  have hstart : Seated E.cfg s.offices ∅ now := by
    refine ⟨?_, ?_, ?_, ?_⟩
    · intro office agentId row hrow
      rw [hempty] at hrow
      cases hrow
    · intro office agentId row hrow
      rw [hempty] at hrow
      cases hrow
    · intro office o _
      rw [hnobody]
      exact Nat.zero_le _
    · intro office o _ _ agentId hmem
      rw [hnobody] at hmem
      cases hmem
  obtain ⟨hseated, hnext⟩ := hrun steps s ∅ now hstart hord hall n
  refine ⟨?_, fun a ha => E.assumptions_ne confirmation (hnext a ha).2⟩
  intro office tick hle
  have hlater := hseated.later hle
  cases ho : E.cfg.offices.get? office with
  | none =>
    -- an office that is not configured has no rows
    have hnone : (E.officeRun confirmation s ∅ (steps.take n)).1.offices.holding office tick
        = [] := by
      apply List.eq_nil_iff_forall_not_mem.mpr
      intro a ha
      obtain ⟨row, hrow, -⟩ := OfficeState.mem_holding.mp ha
      obtain ⟨o, ho'⟩ := hlater.known office a row hrow
      rw [ho] at ho'
      cases ho'
    refine ⟨by rw [hnone]; exact Nat.zero_le _, ?_⟩
    intro agentId hholder
    have hmem := OfficeState.mem_of_holder hholder
    rw [hnone] at hmem
    cases hmem
  | some o =>
    refine ⟨hlater.seats office o ho, ?_⟩
    intro agentId hholder
    have hmem := OfficeState.mem_of_holder hholder
    exact hlater.single office o ho (OfficeState.seats_of_holder hholder ho) agentId hmem

end Runs

end ElectionOffice

/-! ## Two chiefs of police, and a president that follows itself -/

section Closed

attribute [local instance] blankJson blankDigest anySchema ratioValue

/-- The offices of the default settings. -/
def defaultElections : ElectionOffice Unit :=
  { approvalOffice with cfg := { offices := defaultOffices, omegaPrior := ∅ } }

def noOfficers : PolityState Unit := { books := { log := EventLog.new 0 "", ledger := () } }

/-- Two chiefs of police are appointed, then a president with a council seat
dies. -/
def overfill : List (OfficeStep Unit) :=
  [.appoint "police_chief" "ag_a" "ag_p" 0, .appoint "police_chief" "ag_b" "ag_p" 1,
   .assume "president" "ag_p" 1 "el_1" 900000, .assume "council" "ag_p" 1 "el_2" 450000,
   .vacate "president" "ag_p" "death" 2]

/-- The state after some of these steps, with who assumed last. -/
def overfilled (n : Nat) : PolityState Unit × Dict String String :=
  defaultElections.officeRun (fun _ _ => 1) noOfficers ∅ (overfill.take n)

/-- The chiefs at tick 1, the one the register answers with and the last to
assume; and who follows the president. -/
def overfillReading : List String × Option String × List (String × String) :=
  ((overfilled 2).1.offices.holding "police_chief" 1,
    (overfilled 2).2.get? "police_chief",
    (defaultElections.assumptions (fun _ _ => 1) (overfilled 4).1
      (.vacate "president" "ag_p" "death" 2)).map fun p => (p.office, p.agentId))

theorem overfillReading_eq :
    overfillReading = (["ag_a", "ag_b"], some "ag_b", [("president", "ag_p")]) := by
  decide +kernel

theorem overfillHolder_eq :
    (overfilled 2).1.offices.holder defaultElections.cfg "police_chief" 1
      = .ok (some (.one "ag_a")) := by
  decide +kernel

theorem offices_overfilled :
    (∃ office o, defaultElections.cfg.offices.get? office = some o ∧
      o.seats < ((overfilled 2).1.offices.holding office 1).length) ∧
    (∃ agentId, (overfilled 2).1.offices.holder defaultElections.cfg "police_chief" 1
        = .ok (some (.one agentId)) ∧
      (overfilled 2).2.get? "police_chief" ≠ some agentId) ∧
    ∃ p ∈ defaultElections.assumptions (fun _ _ => 1) (overfilled 4).1
      (.vacate "president" "ag_p" "death" 2), p.office = "president" ∧ p.agentId = "ag_p" := by
  have h := overfillReading_eq
  unfold overfillReading at h
  simp only [Prod.mk.injEq] at h
  obtain ⟨hchiefs, hlast, hheir⟩ := h
  refine ⟨⟨"police_chief", { salaryCents := 600000 }, by decide +kernel, ?_⟩,
    ⟨"ag_a", overfillHolder_eq, ?_⟩, ?_⟩
  · rw [hchiefs]
    decide
  · rw [hlast]
    decide
  · obtain ⟨p, hp, heq⟩ := List.mem_map.mp (hheir ▸ List.mem_singleton_self ("president", "ag_p"))
    exact ⟨p, hp, congrArg Prod.fst heq, congrArg Prod.snd heq⟩

/-- A chief of police resigns before the next one, and a president is followed
by a member of the council. -/
def orderly : List (OfficeStep Unit) :=
  [.appoint "police_chief" "ag_a" "ag_p" 0, .vacate "police_chief" "ag_a" "resigned" 1,
   .appoint "police_chief" "ag_b" "ag_p" 1, .assume "president" "ag_p" 1 "el_1" 900000,
   .assume "council" "ag_c" 1 "el_2" 450000, .vacate "president" "ag_p" "death" 2]

theorem offices_seated_orderly :
    (∀ office tick, OfficeStep.reached 0 (orderly.take 5) ≤ tick →
      ((defaultElections.officeRun (fun _ _ => 1) noOfficers ∅
          (orderly.take 5)).1.offices.holding office tick).length
        ≤ ((defaultElections.cfg.offices.get? office).map OfficeSettings.seats).getD 0 ∧
      ∀ agentId, (defaultElections.officeRun (fun _ _ => 1) noOfficers ∅
          (orderly.take 5)).1.offices.holder defaultElections.cfg office tick
          = .ok (some (.one agentId)) →
        (defaultElections.officeRun (fun _ _ => 1) noOfficers ∅
          (orderly.take 5)).2.get? office = some agentId) ∧
    ∀ a, orderly[5]? = some a → ∀ agentId ∈ a.vacating,
      ∀ p ∈ defaultElections.assumptions (fun _ _ => 1)
        (defaultElections.officeRun (fun _ _ => 1) noOfficers ∅ (orderly.take 5)).1 a,
        p.agentId ≠ agentId :=
  defaultElections.offices_seated (fun _ _ => 1) noOfficers orderly 0 rfl
    ⟨by decide, by decide, by decide, by decide, by decide, by decide, trivial⟩
    ⟨⟨by decide +kernel, trivial⟩,
     ⟨by decide +kernel, fun h => absurd h (by decide)⟩,
     ⟨by decide +kernel, trivial⟩,
     ⟨by decide +kernel, trivial⟩,
     ⟨by decide +kernel, trivial⟩,
     ⟨by decide +kernel, fun _ _ => by decide +kernel⟩, trivial⟩ 5

end Closed

end Polis.Society
