/-
  Polis.Society.Prison — sentences over whole runs of commitments and releases
  (`Incarceration`, `society/law.py`).

  There is one row for each prisoner: a further sentence replaces it.

  Main results:
    * `commit_sentences` — a commitment writes one row or none.
    * `releaseDue_spec` — a release deletes the rows that are due and places
      their prisoners.
    * `sentences_served` — prisoners stay until their sentences end.
-/
import Polis.Society.Penalties

namespace Polis.Society

open Lib Lib.Effect Polis.Events

def INCARCERATION_ENDED : Int := 13044

variable {L : Type}

/-- `is_incarcerated`. -/
def LawState.IsIncarcerated (s : LawState L) (agentId : String) (tick : Int) : Prop :=
  ∃ sentence ∈ s.sentences.get? agentId, sentence.startedTick ≤ tick ∧ tick < sentence.releaseTick

/-! ## Release -/

/-- What `release_due` asks of other services: the household and the home an
agent returns to, and the places of the world. -/
structure Homes where
  householdReturn : String → Option String × Option String
  place : String → Option Location

namespace Homes

variable (H : Homes)

/-- The home of an agent, if it is a place of the world. -/
def homeOf (agentId : String) : Option Location := (H.householdReturn agentId).2.bind H.place

/-- Where an agent goes after its sentence: home, or where it was before. -/
def returnTo (agentId : String) (sentence : Sentence) : Option Location :=
  match H.homeOf agentId with
  | some home => some home
  | none => sentence.priorLocation

/-- The locations with a released agent placed. -/
def placed (agentId : String) (sentence : Sentence) (s : LawState L) : LawState L :=
  match H.returnTo agentId sentence with
  | some location => { s with locations := s.locations.put agentId location }
  | none => s

end Homes

/-- The rows without a prisoner. -/
def unlock (agentId : String) (s : LawState L) : LawState L :=
  { s with sentences := s.sentences.erase agentId }

namespace PenaltyService

variable [CanonicalJson Value] [Events.Sha256] [PayloadSchemas Value] [FloatValue]
  (S : PenaltyService L)

/-- The event of a release. -/
def releasedDraft (agentId : String) (sentence : Sentence) (household : Option String)
    (tick : Int) : Draft :=
  { kind := INCARCERATION_ENDED
    payload := [("agent_id", .str agentId), ("ticks_served", .int (tick - sentence.startedTick)),
      ("skill_delta", FloatValue.ofRat 0), ("ties_lost", .int 0),
      ("returns_to_household_id", Value.ofStr? household)]
    actorId := some agentId
    subjectIds := [agentId, sentence.caseId] }

/-- One turn of the loop of `release_due`. -/
def release (H : Homes) (tick : Int) (row : String × Sentence) :
    LawM L (List (Events.Event Value)) :=
  onlyIf (row.2.releaseTick ≤ tick) do
    modify (H.placed row.1 row.2)
    let event ← zoom LawState.books LawState.withBooks
      (Books.emit S.journal (releasedDraft row.1 row.2 (H.householdReturn row.1).1 tick) tick)
    modify (unlock row.1)
    pure [event]

/-- `release_due`. -/
def releaseDue (H : Homes) (tick : Int) : LawM L (List (Events.Event Value)) := do
  let s ← get
  gather (S.release H tick) s.sentences.sortedEntries

end PenaltyService

/-! ## What a release does -/

/-- A prisoner whose sentence was due is free, and is where it goes after. -/
structure Freed (H : Homes) (tick : Int) (agentId : String) (sentence : Sentence)
    (s : LawState L) : Prop where
  due : sentence.releaseTick ≤ tick
  free : s.sentences.get? agentId = none
  place : ∀ location ∈ H.returnTo agentId sentence, s.locations.get? agentId = some location

theorem Homes.placed_sentences (H : Homes) (agentId : String) (sentence : Sentence)
    (s : LawState L) : (H.placed agentId sentence s).sentences = s.sentences := by
  unfold Homes.placed
  split <;> rfl

theorem Homes.placed_of_ne (H : Homes) {agentId a : String} (h : a ≠ agentId)
    (sentence : Sentence) (s : LawState L) :
    (H.placed agentId sentence s).locations.get? a = s.locations.get? a := by
  unfold Homes.placed
  split
  · exact Dict.get?_put_of_ne h
  · rfl

theorem Homes.placed_self (H : Homes) {agentId : String} {sentence : Sentence}
    {location : Location} (h : H.returnTo agentId sentence = some location) (s : LawState L) :
    (H.placed agentId sentence s).locations.get? agentId = some location := by
  unfold Homes.placed
  rw [h]
  exact Dict.get?_put_self _ _ _

/-- Nothing happened to an agent. -/
def Untouched (agentId : String) (s s' : LawState L) : Prop :=
  s'.sentences.get? agentId = s.sentences.get? agentId ∧
    s'.locations.get? agentId = s.locations.get? agentId

namespace PenaltyService

variable [CanonicalJson Value] [Events.Sha256] [PayloadSchemas Value] [FloatValue]
  (S : PenaltyService L)

theorem release_due (H : Homes) {tick : Int} {agentId : String} {sentence : Sentence}
    (hdue : sentence.releaseTick ≤ tick) (s : LawState L) :
    ∃ books,
      stateAfter (S.release H tick (agentId, sentence) s)
        = (H.placed agentId sentence s).withBooks books ∨
      stateAfter (S.release H tick (agentId, sentence) s)
        = unlock agentId ((H.placed agentId sentence s).withBooks books) := by
  unfold release onlyIf
  rw [if_pos hdue]
  show ∃ books,
    stateAfter ((do
      let event ← zoom LawState.books LawState.withBooks
        (Books.emit S.journal
          (releasedDraft agentId sentence (H.householdReturn agentId).1 tick) tick)
      modify (unlock agentId)
      pure [event] : LawM L (List (Events.Event Value))) (H.placed agentId sentence s)) = _ ∨
    stateAfter ((do
      let event ← zoom LawState.books LawState.withBooks
        (Books.emit S.journal
          (releasedDraft agentId sentence (H.householdReturn agentId).1 tick) tick)
      modify (unlock agentId)
      pure [event] : LawM L (List (Events.Event Value))) (H.placed agentId sentence s)) = _
  cases hrun : Books.emit S.journal
      (releasedDraft agentId sentence (H.householdReturn agentId).1 tick) tick
      (H.placed agentId sentence s).books with
  | error e books =>
    rw [bind_of_error (zoom_of_error hrun)]
    exact ⟨books, Or.inl rfl⟩
  | ok event books =>
    rw [bind_of_ok (zoom_of_ok hrun)]
    exact ⟨books, Or.inr rfl⟩

theorem release_spec (H : Homes) (tick : Int) (row : String × Sentence) (s : LawState L) :
    (∀ a, a ≠ row.1 → Untouched a s (stateAfter (S.release H tick row s))) ∧
    ((stateAfter (S.release H tick row s)).sentences.get? row.1 = s.sentences.get? row.1 ∨
      Freed H tick row.1 row.2 (stateAfter (S.release H tick row s))) := by
  obtain ⟨agentId, sentence⟩ := row
  by_cases hdue : sentence.releaseTick ≤ tick
  · have hsentences := H.placed_sentences agentId sentence s
    obtain ⟨books, hstate | hstate⟩ := S.release_due H hdue s
    · rw [hstate]
      refine ⟨?_, Or.inl ?_⟩
      · intro a ha
        exact ⟨congrArg (fun d => d.get? a) hsentences, H.placed_of_ne ha sentence s⟩
      · exact congrArg (fun d => d.get? agentId) hsentences
    · rw [hstate]
      refine ⟨?_, Or.inr ⟨hdue, ?_, ?_⟩⟩
      · intro a ha
        refine ⟨?_, H.placed_of_ne ha sentence s⟩
        show ((H.placed agentId sentence s).sentences.erase agentId).get? a = _
        rw [Dict.get?_erase, if_neg ha, hsentences]
      · show ((H.placed agentId sentence s).sentences.erase agentId).get? agentId = none
        rw [Dict.get?_erase, if_pos rfl]
      · intro location hlocation
        exact H.placed_self hlocation s
  · have hstate : stateAfter (S.release H tick (agentId, sentence) s) = s := by
      unfold release onlyIf
      rw [if_neg hdue]
      rfl
    rw [hstate]
    exact ⟨fun a _ => ⟨rfl, rfl⟩, Or.inl rfl⟩

theorem releaseDue_spec (H : Homes) (tick : Int) (s : LawState L) (agentId : String) :
    (stateAfter (S.releaseDue H tick s)).sentences.get? agentId = s.sentences.get? agentId ∨
    ∃ sentence, s.sentences.get? agentId = some sentence ∧
      Freed H tick agentId sentence (stateAfter (S.releaseDue H tick s)) := by
  -- the rows still to come are untouched, the rows behind are settled
  have hloop : ∀ (rows : List (String × Sentence)) (t : LawState L),
      (rows.map Prod.fst).Nodup → (∀ row ∈ rows, t.sentences.get? row.1 = some row.2) →
      (agentId ∉ rows.map Prod.fst →
        Untouched agentId t (stateAfter (gather (S.release H tick) rows t))) ∧
      ((stateAfter (gather (S.release H tick) rows t)).sentences.get? agentId
          = t.sentences.get? agentId ∨
        ∃ sentence, t.sentences.get? agentId = some sentence ∧
          Freed H tick agentId sentence (stateAfter (gather (S.release H tick) rows t))) := by
    intro rows
    induction rows with
    | nil =>
      intro t _ _
      exact ⟨fun _ => ⟨rfl, rfl⟩, Or.inl rfl⟩
    | cons row rows ih =>
      intro t hnodup hrows
      rw [List.map_cons, List.nodup_cons] at hnodup
      obtain ⟨hothers, hself⟩ := S.release_spec H tick row t
      rw [gather_cons]
      cases hrun : S.release H tick row t with
      | error e u =>
        rw [hrun] at hothers hself
        rw [bind_of_error hrun]
        rw [stateAfter_error] at hothers hself ⊢
        refine ⟨?_, ?_⟩
        · intro hnot
          rw [List.map_cons, List.mem_cons, not_or] at hnot
          exact hothers agentId hnot.1
        · by_cases hid : agentId = row.1
          · rw [hid]
            rcases hself with hself | hself
            · exact Or.inl hself
            · exact Or.inr ⟨row.2, hrows row List.mem_cons_self, hself⟩
          · exact Or.inl (hothers agentId hid).1
      | ok here u =>
        rw [hrun] at hothers hself
        rw [bind_of_ok hrun, stateAfter_bind_pure]
        rw [stateAfter_ok] at hothers hself
        have hrest : ∀ r ∈ rows, u.sentences.get? r.1 = some r.2 := by
          intro r hr
          have hne : r.1 ≠ row.1 := by
            intro heq
            exact hnodup.1 (heq ▸ List.mem_map_of_mem hr)
          rw [(hothers r.1 hne).1]
          exact hrows r (List.mem_cons_of_mem _ hr)
        obtain ⟨ihnot, ihself⟩ := ih u hnodup.2 hrest
        refine ⟨?_, ?_⟩
        · intro hnot
          rw [List.map_cons, List.mem_cons, not_or] at hnot
          have h₁ := hothers agentId hnot.1
          have h₂ := ihnot hnot.2
          exact ⟨h₂.1.trans h₁.1, h₂.2.trans h₁.2⟩
        · by_cases hid : agentId = row.1
          · -- its turn is behind, and the loop does not come back to it
            have h₂ := ihnot (hid ▸ hnodup.1)
            rw [hid] at h₂ ⊢
            rcases hself with hself | hself
            · exact Or.inl (h₂.1.trans hself)
            · refine Or.inr ⟨row.2, hrows row List.mem_cons_self, hself.due, ?_, ?_⟩
              · rw [h₂.1]
                exact hself.free
              · intro location hlocation
                rw [h₂.2]
                exact hself.place location hlocation
          · rw [(hothers agentId hid).1] at ihself
            exact ihself
  unfold releaseDue
  rw [get_bind]
  apply (hloop s.sentences.sortedEntries s _ _).2
  · exact ((Dict.sortedEntries_perm _).map Prod.fst).nodup_iff.mpr s.sentences.nodup
  · intro row hrow
    exact Dict.mem_entries_iff.mp (Dict.mem_sortedEntries.mp hrow)

end PenaltyService

/-! ## What a commitment does -/

/-- The rows of the prisoners stay as they are. -/
def SameRows (s s' : LawState L) : Prop := s'.sentences = s.sentences

/-- The callbacks of an `Incarceration` belong to other services: they do not
touch its rows. -/
structure Incarceration.Outside (inc : Incarceration L) : Prop where
  terminates : ∀ agentId tick, Leaves SameRows (inc.terminateEmployment agentId tick)
  fines : ∀ fine ∈ inc.conversionFine, ∀ agentId caseId cents tick,
    Leaves SameRows (fine agentId caseId cents tick)

namespace PenaltyService

variable [CanonicalJson Value] [Events.Sha256] [PayloadSchemas Value] (S : PenaltyService L)

/-- The prison a commitment takes the agent to: none when the sentence becomes a
fine, or when the commitment raises before. -/
def cell (inc : Incarceration L) (agentId caseId : String) (ticks tick : Int)
    (s : LawState L) : Option Location :=
  match S.runtime.number S.base "prison.capacity" tick with
  | .error _ => none
  | .ok capacity =>
    let occupied := s.sentences.entries.length
    let prison := inc.prisons[occupied % inc.prisons.length]?
    if inc.prisons = [] ∨ capacity ≤ occupied then none
    else
      match Books.emit S.journal
          (sentenceDraft agentId caseId ticks (prison.map Location.placeId) false capacity) tick
          s.books with
      | .ok _ _ => prison
      | .error _ _ => none

theorem commit_sentences {inc : Incarceration L} (hout : inc.Outside)
    (agentId caseId : String) (ticks tick : Int) (s : LawState L) :
    (stateAfter (S.commit inc agentId caseId ticks tick s)).sentences =
      match S.cell inc agentId caseId ticks tick s with
      | some prison => (imprison agentId caseId ticks tick prison s).sentences
      | none => s.sentences := by
  unfold commit cell
  rw [get_bind]
  cases hcapacity : S.runtime.number S.base "prison.capacity" tick with
  | error e => rfl
  | ok capacity =>
    rw [bind_of_ok liftPy_ok]
    dsimp only
    by_cases hfull : inc.prisons = [] ∨ capacity ≤ s.sentences.entries.length
    · -- the sentence becomes a fine
      rw [if_pos hfull, decide_eq_true hfull]
      cases hrun : Books.emit S.journal
          (sentenceDraft agentId caseId ticks
            ((inc.prisons[s.sentences.entries.length % inc.prisons.length]?).map Location.placeId)
            true capacity) tick s.books with
      | error e books =>
        rw [bind_of_error (zoom_of_error hrun)]
        rfl
      | ok event books =>
        rw [bind_of_ok (zoom_of_ok hrun)]
        dsimp only
        cases hfine : inc.conversionFine with
        | none => rfl
        | some fine =>
          dsimp only
          rw [stateAfter_bind_pure]
          exact hout.fines fine hfine agentId caseId _ tick _
    · rw [if_neg hfull, decide_eq_false hfull]
      cases hrun : Books.emit S.journal
          (sentenceDraft agentId caseId ticks
            ((inc.prisons[s.sentences.entries.length % inc.prisons.length]?).map Location.placeId)
            false capacity) tick s.books with
      | error e books =>
        rw [bind_of_error (zoom_of_error hrun)]
        rfl
      | ok event books =>
        rw [bind_of_ok (zoom_of_ok hrun)]
        have hprison : s.sentences.entries.length % inc.prisons.length < inc.prisons.length := by
          apply Nat.mod_lt
          exact List.length_pos_of_ne_nil fun h => hfull (Or.inl h)
        rw [List.getElem?_eq_getElem hprison]
        dsimp only
        show (stateAfter ((do
          let ended ← inc.terminateEmployment agentId tick
          pure (event :: ended) : LawM L (List (Events.Event Value)))
            (imprison agentId caseId ticks tick _ (s.withBooks books)))).sentences = _
        rw [stateAfter_bind_pure]
        exact hout.terminates agentId tick _

theorem capacity_of_cell {inc : Incarceration L} {agentId caseId : String} {ticks tick : Int}
    {s : LawState L} {prison : Location}
    (h : S.cell inc agentId caseId ticks tick s = some prison) :
    ∃ capacity, S.runtime.number S.base "prison.capacity" tick = .ok capacity ∧
      s.sentences.entries.length < capacity := by
  unfold cell at h
  cases hcapacity : S.runtime.number S.base "prison.capacity" tick with
  | error e =>
    rw [hcapacity] at h
    cases h
  | ok capacity =>
    rw [hcapacity] at h
    dsimp only at h
    split at h
    · cases h
    · next hfull =>
      refine ⟨capacity, rfl, ?_⟩
      have hroom : ¬capacity ≤ s.sentences.entries.length := fun h' => hfull (Or.inr h')
      omega

end PenaltyService

/-! ## Runs -/

/-- One step of a run: a commitment or a release, with the services as they are
then, or anything else that leaves the rows of the prisoners alone. -/
inductive PrisonStep (L : Type) where
  | commit (S : PenaltyService L) (inc : Incarceration L) (agentId caseId : String)
      (ticks tick : Int)
  | releaseDue (S : PenaltyService L) (H : Homes) (tick : Int)
  | outside (rest : LawState L)

/-- A sentence that was not converted. -/
structure Given where
  agentId : String
  start : Int
  ticks : Int

/-- A stay in prison: where the agent was before, and whether it was sentenced
again since. -/
structure Stay where
  before : Option Location
  again : Bool

/-- A run: the state, the sentences given and the stays. -/
structure PrisonRun (L : Type) where
  state : LawState L
  given : List Given := []
  stays : Dict String Stay := ∅

namespace PrisonStep

variable [CanonicalJson Value] [Events.Sha256] [PayloadSchemas Value] [FloatValue]

/-- The tick after a step. -/
def after (now : Int) : PrisonStep L → Int
  | .commit _ _ _ _ _ tick | .releaseDue _ _ tick => tick
  | .outside _ => now

/-- The tick a run has reached. -/
def reached (now : Int) (steps : List (PrisonStep L)) : Int := steps.foldl after now

/-- The ticks of a run do not decrease. -/
def Ordered : Int → List (PrisonStep L) → Prop
  | _, [] => True
  | now, a :: as => now ≤ a.after now ∧ Ordered (a.after now) as

/-- The stay that a sentence begins or goes on with. -/
def stayOf (agentId : String) (r : PrisonRun L) : Stay :=
  if r.state.sentences.contains agentId then
    { before := ((r.stays.get? agentId).map Stay.before).getD none, again := true }
  else { before := r.state.locations.get? agentId, again := false }

/-- One step, returned or raised. -/
def step (r : PrisonRun L) : PrisonStep L → PrisonRun L
  | .commit S inc agentId caseId ticks tick =>
    { state := stateAfter (S.commit inc agentId caseId ticks tick r.state)
      given :=
        if (S.cell inc agentId caseId ticks tick r.state).isSome then
          ⟨agentId, tick, ticks⟩ :: r.given else r.given
      stays :=
        if (S.cell inc agentId caseId ticks tick r.state).isSome then
          r.stays.put agentId (stayOf agentId r) else r.stays }
  | .releaseDue S H tick => { r with state := stateAfter (S.releaseDue H tick r.state) }
  | .outside rest => { r with state := { rest with sentences := r.state.sentences } }

/-- A run from a state. -/
def run (r : PrisonRun L) (steps : List (PrisonStep L)) : PrisonRun L := steps.foldl step r

/-- The callbacks of a commitment are outside, and a prisoner is not sentenced
again to an earlier end. -/
def Fair (r : PrisonRun L) : PrisonStep L → Prop
  | .commit S inc agentId caseId ticks tick =>
    inc.Outside ∧ ∀ sentence ∈ r.state.sentences.get? agentId,
      (S.cell inc agentId caseId ticks tick r.state).isSome → sentence.releaseTick ≤ tick + ticks
  | _ => True

/-- Every step of a run is as `Fair` asks. -/
def AllFair : PrisonRun L → List (PrisonStep L) → Prop
  | _, [] => True
  | r, a :: as => a.Fair r ∧ AllFair (step r a) as

end PrisonStep

/-- What every step keeps: a sentence that is not over yet is covered by the row
of its agent, and the row of a first sentence knows where its prisoner was. -/
structure Served (r : PrisonRun L) (now : Int) : Prop where
  covered : ∀ g ∈ r.given, g.start + g.ticks ≤ now ∨
    ∃ sentence, r.state.sentences.get? g.agentId = some sentence ∧
      g.start + g.ticks ≤ sentence.releaseTick
  started : ∀ agentId sentence, r.state.sentences.get? agentId = some sentence →
    sentence.startedTick ≤ now
  known : ∀ agentId sentence, r.state.sentences.get? agentId = some sentence →
    ∃ stay, r.stays.get? agentId = some stay ∧
      (stay.again = false → sentence.priorLocation = stay.before)

section Served

variable [CanonicalJson Value] [Events.Sha256] [PayloadSchemas Value] [FloatValue]

omit [CanonicalJson Value] [Events.Sha256] [PayloadSchemas Value] [FloatValue] in
theorem Served.congr {r r' : PrisonRun L} {now tick : Int} (h : Served r now) (hle : now ≤ tick)
    (hrows : r'.state.sentences = r.state.sentences) (hgiven : r'.given = r.given)
    (hstays : r'.stays = r.stays) : Served r' tick where
  covered := by
    intro g hg
    rw [hgiven] at hg
    rw [hrows]
    rcases h.covered g hg with hover | hrow
    · exact Or.inl (by omega)
    · exact Or.inr hrow
  started := by
    intro agentId sentence hrow
    rw [hrows] at hrow
    exact le_trans (h.started agentId sentence hrow) hle
  known := by
    intro agentId sentence hrow
    rw [hrows] at hrow
    rw [hstays]
    exact h.known agentId sentence hrow

theorem Served.commit {r : PrisonRun L} {now tick : Int} {S : PenaltyService L}
    {inc : Incarceration L} {agentId caseId : String} {ticks : Int} (h : Served r now)
    (hle : now ≤ tick)
    (hfair : PrisonStep.Fair r (.commit S inc agentId caseId ticks tick)) :
    Served (PrisonStep.step r (.commit S inc agentId caseId ticks tick)) tick := by
  have hrows := S.commit_sentences hfair.1 agentId caseId ticks tick r.state
  cases hcell : S.cell inc agentId caseId ticks tick r.state with
  | none =>
    rw [hcell] at hrows
    apply h.congr hle hrows
    · simp only [PrisonStep.step, hcell, Option.isSome_none, Bool.false_eq_true, if_false]
    · simp only [PrisonStep.step, hcell, Option.isSome_none, Bool.false_eq_true, if_false]
  | some prison =>
    rw [hcell] at hrows
    have hlater := hfair.2
    rw [hcell] at hlater
    have hget : ∀ a,
        (PrisonStep.step r (.commit S inc agentId caseId ticks tick)).state.sentences.get? a =
          if a = agentId then
            some
              { agentId, caseId, startedTick := tick, releaseTick := tick + ticks
                prisonPlaceId := prison.placeId
                priorLocation := r.state.locations.get? agentId }
          else r.state.sentences.get? a := by
      intro a
      show (stateAfter (S.commit inc agentId caseId ticks tick r.state)).sentences.get? a = _
      rw [hrows]
      exact Dict.get?_put _ _ _ _
    refine ⟨?_, ?_, ?_⟩
    · intro g hg
      rw [hget]
      simp only [PrisonStep.step, hcell, Option.isSome_some, if_true, List.mem_cons] at hg
      rcases hg with rfl | hg
      · rw [if_pos rfl]
        exact Or.inr ⟨_, rfl, le_refl _⟩
      · rcases h.covered g hg with hover | ⟨sentence, hrow, hend⟩
        · exact Or.inl (by omega)
        · by_cases hagent : g.agentId = agentId
          · -- the new sentence does not end before the old one
            rw [if_pos hagent]
            rw [hagent] at hrow
            have hlate := hlater sentence hrow rfl
            exact Or.inr ⟨_, rfl, by show g.start + g.ticks ≤ tick + ticks; omega⟩
          · rw [if_neg hagent]
            exact Or.inr ⟨sentence, hrow, hend⟩
    · intro a sentence hrow
      rw [hget] at hrow
      split at hrow
      · cases hrow
        exact le_refl tick
      · exact le_trans (h.started a sentence hrow) hle
    · intro a sentence hrow
      rw [hget] at hrow
      simp only [PrisonStep.step, hcell, Option.isSome_some, if_true]
      rw [Dict.get?_put]
      split at hrow
      · next hagent =>
        cases hrow
        rw [if_pos hagent]
        refine ⟨_, rfl, ?_⟩
        intro hagain
        unfold PrisonStep.stayOf at hagain ⊢
        split at hagain
        · cases hagain
        · next hfree =>
          rw [if_neg hfree]
      · next hagent =>
        rw [if_neg hagent]
        exact h.known a sentence hrow

theorem Served.releaseDue {r : PrisonRun L} {now tick : Int} (S : PenaltyService L) (H : Homes)
    (h : Served r now) (hle : now ≤ tick) :
    Served (PrisonStep.step r (.releaseDue S H tick)) tick := by
  have hspec := S.releaseDue_spec H tick r.state
  have hstays : ∀ a sentence,
      (stateAfter (S.releaseDue H tick r.state)).sentences.get? a = some sentence →
      r.state.sentences.get? a = some sentence := by
    intro a sentence hrow
    rcases hspec a with hsame | ⟨_, -, hfreed⟩
    · exact hsame ▸ hrow
    · rw [hfreed.free] at hrow
      cases hrow
  refine ⟨?_, ?_, ?_⟩
  · intro g hg
    rcases h.covered g hg with hover | ⟨sentence, hrow, hend⟩
    · exact Or.inl (by omega)
    · rcases hspec g.agentId with hsame | ⟨sentence', hrow', hfreed⟩
      · exact Or.inr ⟨sentence, hsame.trans hrow, hend⟩
      · rw [hrow] at hrow'
        cases hrow'
        have hdue := hfreed.due
        exact Or.inl (by omega)
  · intro a sentence hrow
    exact le_trans (h.started a sentence (hstays a sentence hrow)) hle
  · intro a sentence hrow
    exact h.known a sentence (hstays a sentence hrow)

theorem Served.step {r : PrisonRun L} {now : Int} {a : PrisonStep L} (h : Served r now)
    (hle : now ≤ a.after now) (hfair : a.Fair r) : Served (PrisonStep.step r a) (a.after now) := by
  cases a with
  | commit S inc agentId caseId ticks tick => exact h.commit hle hfair
  | releaseDue S H tick => exact h.releaseDue S H hle
  | outside rest => exact h.congr hle rfl rfl rfl

/-- **Sentences are served** in every run in which no prisoner is sentenced
again to an earlier end; a commitment imprisons up to the capacity it reads,
and a release places its prisoners at home or where they were before. -/
theorem sentences_served (s : LawState L) (steps : List (PrisonStep L)) (now : Int)
    (hnew : s.sentences = ∅) (hord : PrisonStep.Ordered now steps)
    (hall : PrisonStep.AllFair { state := s } steps) (n : Nat) :
    (∀ g ∈ (PrisonStep.run { state := s } (steps.take n)).given, ∀ t,
      PrisonStep.reached now (steps.take n) ≤ t → t < g.start + g.ticks →
      (PrisonStep.run { state := s } (steps.take n)).state.IsIncarcerated g.agentId t) ∧
    (∀ S inc agentId caseId ticks tick,
      steps[n]? = some (.commit S inc agentId caseId ticks tick) →
      ∀ capacity, S.runtime.number S.base "prison.capacity" tick = .ok capacity →
      (((PrisonStep.run { state := s } (steps.take (n + 1))).state.sentences.entries.length : Int)
          ≤ capacity ∨
        (PrisonStep.run { state := s } (steps.take (n + 1))).state.sentences
          = (PrisonStep.run { state := s } (steps.take n)).state.sentences)) ∧
    ∀ S H tick, steps[n]? = some (.releaseDue S H tick) → ∀ agentId,
      (PrisonStep.run { state := s } (steps.take n)).state.sentences.contains agentId = true →
      (PrisonStep.run { state := s } (steps.take (n + 1))).state.sentences.contains agentId
        = false →
      (∀ home, H.homeOf agentId = some home →
        (PrisonStep.run { state := s } (steps.take (n + 1))).state.locations.get? agentId
          = some home) ∧
      (H.homeOf agentId = none → ∀ stay,
        (PrisonStep.run { state := s } (steps.take n)).stays.get? agentId = some stay →
        stay.again = false → ∀ before, stay.before = some before →
        (PrisonStep.run { state := s } (steps.take (n + 1))).state.locations.get? agentId
          = some before) := by
  have hrun : ∀ (steps : List (PrisonStep L)) (r : PrisonRun L) (now : Int), Served r now →
      PrisonStep.Ordered now steps → PrisonStep.AllFair r steps → ∀ n,
      Served (PrisonStep.run r (steps.take n)) (PrisonStep.reached now (steps.take n)) ∧
      ∀ a, steps[n]? = some a → a.Fair (PrisonStep.run r (steps.take n)) ∧
        PrisonStep.run r (steps.take (n + 1))
          = PrisonStep.step (PrisonStep.run r (steps.take n)) a := by
    intro steps
    induction steps with
    | nil =>
      intro r now h _ _ n
      rw [List.take_nil]
      exact ⟨h, fun a ha => by cases ha⟩
    | cons a as ih =>
      intro r now h hord hall n
      cases n with
      | zero =>
        refine ⟨h, ?_⟩
        intro b hb
        cases hb
        exact ⟨hall.1, rfl⟩
      | succ n => exact ih _ _ (h.step hord.1 hall.1) hord.2 hall.2 n
  have hstart : Served { state := s } now := by
    have hnone : ∀ agentId, s.sentences.get? agentId = none := by
      intro agentId
      rw [hnew]
      rfl
    refine ⟨?_, ?_, ?_⟩
    · intro g hg
      cases hg
    · intro agentId sentence hrow
      rw [hnone] at hrow
      cases hrow
    · intro agentId sentence hrow
      rw [hnone] at hrow
      cases hrow
  obtain ⟨hserved, hnext⟩ := hrun steps { state := s } now hstart hord hall n
  refine ⟨?_, ?_, ?_⟩
  · intro g hg t hle hlt
    rcases hserved.covered g hg with hover | ⟨sentence, hrow, hend⟩
    · omega
    · have hstarted := hserved.started g.agentId sentence hrow
      exact ⟨sentence, hrow, by omega, by omega⟩
  · intro S inc agentId caseId ticks tick ha capacity hcapacity
    obtain ⟨hfair, hstep⟩ := hnext _ ha
    rw [hstep]
    have hrows := S.commit_sentences hfair.1 agentId caseId ticks tick
      (PrisonStep.run { state := s } (steps.take n)).state
    show ((stateAfter (S.commit inc agentId caseId ticks tick _)).sentences.entries.length : Int)
        ≤ capacity ∨ (stateAfter (S.commit inc agentId caseId ticks tick _)).sentences = _
    rw [hrows]
    cases hcell : S.cell inc agentId caseId ticks tick
        (PrisonStep.run { state := s } (steps.take n)).state with
    | none => exact Or.inr rfl
    | some prison =>
      obtain ⟨capacity', hread, hroom⟩ := S.capacity_of_cell hcell
      rw [hcapacity] at hread
      cases hread
      apply Or.inl
      show ((((PrisonStep.run { state := s } (steps.take n)).state.sentences.put agentId
        _).entries.length : Nat) : Int) ≤ capacity
      rw [Dict.length_put]
      split <;> omega
  · intro S H tick ha agentId hin hout
    obtain ⟨-, hstep⟩ := hnext _ ha
    rw [hstep] at hout ⊢
    change (stateAfter (S.releaseDue H tick _)).sentences.contains agentId = false at hout
    rcases S.releaseDue_spec H tick (PrisonStep.run { state := s } (steps.take n)).state agentId
      with hsame | ⟨sentence, hrow, hfreed⟩
    · unfold Dict.contains at hin hout
      rw [hsame, hin] at hout
      cases hout
    · refine ⟨?_, ?_⟩
      · intro home hhome
        apply hfreed.place
        unfold Homes.returnTo
        rw [hhome]
        rfl
      · intro hhome stay hstay honce before hbefore
        obtain ⟨stay', hstay', hprior⟩ := hserved.known agentId sentence hrow
        rw [hstay] at hstay'
        cases hstay'
        apply hfreed.place
        unfold Homes.returnTo
        rw [hhome]
        exact (hprior honce).trans hbefore

end Served

/-! ## Two prisoners and a capacity lowered to one -/

section Closed

attribute [local instance] blankJson blankDigest anySchema ratioValue

/-- A court with a prison capacity. -/
def courtWith (capacity : Int) : PenaltyService Unit :=
  { journal := plainJournal
    ledger := freeLedger
    base := { policyKeys := [], resolve := fun _ => some (.int capacity) }
    runtime := {}
    cases := fun _ => none
    crimes := fun _ => none
    cfg := { filingFeeCents := 0, filingFeeWaiverPct := 0, finePerTickCents := 0,
             garnishmentRate := 0 }
    incarceration := none }

/-- One prison, and callbacks that do nothing. -/
def onePrison : Incarceration Unit :=
  { prisons := [⟨"pl_prison", "di_one", 0, 0⟩]
    conversionFine := none
    terminateEmployment := fun _ _ => pure [] }

theorem onePrison_outside : onePrison.Outside where
  terminates := fun _ _ _ => rfl
  fines := by
    intro fine hfine
    cases hfine

/-- Agents without a home. -/
def homeless : Homes := { householdReturn := fun _ => (none, none), place := fun _ => none }

/-- Two agents with a known location, nobody in prison. -/
def freeCity : LawState Unit :=
  { books := { log := EventLog.new 0 "", ledger := () }
    locations := Dict.ofList
      [("ag_a", ⟨"pl_home", "di_one", 1, 1⟩), ("ag_b", ⟨"pl_home", "di_one", 1, 1⟩)] }

/-- Two sentences, a third while the capacity is one, a shorter one for the
first prisoner, and a release. -/
def shortened : List (PrisonStep Unit) :=
  [.commit (courtWith 3) onePrison "ag_a" "ca_1" 10 0,
   .commit (courtWith 3) onePrison "ag_b" "ca_2" 10 0,
   .commit (courtWith 1) onePrison "ag_c" "ca_3" 10 1,
   .commit (courtWith 3) onePrison "ag_a" "ca_4" 2 1,
   .releaseDue (courtWith 3) homeless 5]

/-- The run after some of these steps. -/
def shortenedAt (n : Nat) : PrisonRun Unit :=
  PrisonStep.run { state := freeCity } (shortened.take n)

/-- The prisoners after the third sentence, and the first prisoner after the
release: its row and its place. -/
def shortenedReading : Nat × Option Sentence × Option String :=
  ((shortenedAt 3).state.sentences.entries.length,
    (shortenedAt 5).state.sentences.get? "ag_a",
    ((shortenedAt 5).state.locations.get? "ag_a").map Location.placeId)

theorem shortenedReading_eq : shortenedReading = (2, none, some "pl_prison") := by
  decide +kernel

/-- **More prisoners than the capacity that was read**, a sentence of ten ticks
that is over after five, and a released agent that is left in the prison. -/
theorem sentences_shortened :
    ((courtWith 1).runtime.number (courtWith 1).base "prison.capacity" 1 = .ok 1 ∧
      1 < (shortenedAt 3).state.sentences.entries.length) ∧
    ((∃ g ∈ (shortenedAt 5).given, g.agentId = "ag_a" ∧ 5 < g.start + g.ticks) ∧
      ¬(shortenedAt 5).state.IsIncarcerated "ag_a" 5) ∧
    ((shortenedAt 5).state.locations.get? "ag_a").map Location.placeId = some "pl_prison" := by
  have h := shortenedReading_eq
  unfold shortenedReading at h
  simp only [Prod.mk.injEq] at h
  obtain ⟨hlength, hrow, hplace⟩ := h
  refine ⟨⟨by decide +kernel, by omega⟩, ⟨?_, ?_⟩, hplace⟩
  · have hgiven : (shortenedAt 5).given.any
        (fun g => decide (g.agentId = "ag_a" ∧ 5 < g.start + g.ticks)) = true := by
      decide +kernel
    obtain ⟨g, hg, hdecide⟩ := List.any_eq_true.mp hgiven
    exact ⟨g, hg, of_decide_eq_true hdecide⟩
  · rintro ⟨sentence, hsentence, -⟩
    rw [hrow] at hsentence
    cases hsentence

/-- One sentence and its release. -/
def servedOnce : List (PrisonStep Unit) :=
  [.commit (courtWith 3) onePrison "ag_a" "ca_1" 10 0, .releaseDue (courtWith 3) homeless 12]

theorem sentences_served_once :
    (∀ g ∈ (PrisonStep.run { state := freeCity } (servedOnce.take 1)).given, ∀ t,
      PrisonStep.reached 0 (servedOnce.take 1) ≤ t → t < g.start + g.ticks →
      (PrisonStep.run { state := freeCity } (servedOnce.take 1)).state.IsIncarcerated
        g.agentId t) ∧
    (∀ S inc agentId caseId ticks tick,
      servedOnce[1]? = some (.commit S inc agentId caseId ticks tick) →
      ∀ capacity, S.runtime.number S.base "prison.capacity" tick = .ok capacity →
      (((PrisonStep.run { state := freeCity }
          (servedOnce.take 2)).state.sentences.entries.length : Int) ≤ capacity ∨
        (PrisonStep.run { state := freeCity } (servedOnce.take 2)).state.sentences
          = (PrisonStep.run { state := freeCity } (servedOnce.take 1)).state.sentences)) ∧
    ∀ S H tick, servedOnce[1]? = some (.releaseDue S H tick) → ∀ agentId,
      (PrisonStep.run { state := freeCity } (servedOnce.take 1)).state.sentences.contains agentId
        = true →
      (PrisonStep.run { state := freeCity } (servedOnce.take 2)).state.sentences.contains agentId
        = false →
      (∀ home, H.homeOf agentId = some home →
        (PrisonStep.run { state := freeCity } (servedOnce.take 2)).state.locations.get? agentId
          = some home) ∧
      (H.homeOf agentId = none → ∀ stay,
        (PrisonStep.run { state := freeCity } (servedOnce.take 1)).stays.get? agentId = some stay →
        stay.again = false → ∀ before, stay.before = some before →
        (PrisonStep.run { state := freeCity } (servedOnce.take 2)).state.locations.get? agentId
          = some before) :=
  sentences_served freeCity servedOnce 0 rfl ⟨by decide, by decide, trivial⟩
    ⟨⟨onePrison_outside, fun _ h => by cases h⟩, trivial, trivial⟩ 1

end Closed

end Polis.Society
