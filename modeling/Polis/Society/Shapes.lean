/-
  Polis.Society.Shapes — what the projections of the society read models ask
  of the tables (`society/projections.py`).

  Each projection stays within the tables it owns, except that a conviction
  counts on the agents.  Only some events bring a row into the tables.

  Main results:
    * `fits_registry` — which tables an event touches, and when it brings a
      row.
-/
import Polis.Society.Projections

namespace Polis.Society

open Lib.Sql Polis.Events Polis.Store

/-! ## What a computation returns -/

/-- What a computation returns, if it returns, satisfies `P`. -/
def Gives {β : Type} (P : β → Prop) (x : Except PyError β) : Prop := ∀ b, x = .ok b → P b

theorem gives_pure {β : Type} {P : β → Prop} {b : β} (h : P b) : Gives P (pure b) := by
  intro b' heq
  cases heq
  exact h

theorem gives_throw {β : Type} {P : β → Prop} {err : PyError} : Gives P (throw err) := by
  intro b heq
  cases heq

theorem gives_bind {α β : Type} {P : β → Prop} {x : Except PyError α} {f : α → Except PyError β}
    (h : ∀ a, x = .ok a → Gives P (f a)) : Gives P (x >>= f) := by
  intro b heq
  cases hx : x with
  | error err =>
    rw [hx] at heq
    cases heq
  | ok a =>
    rw [hx] at heq
    exact h a hx b heq

theorem gives_ite {β : Type} {P : β → Prop} {c : Prop} [Decidable c] {x y : Except PyError β}
    (hx : c → Gives P x) (hy : ¬c → Gives P y) : Gives P (if c then x else y) := by
  by_cases h : c
  · rw [if_pos h]
    exact hx h
  · rw [if_neg h]
    exact hy h

theorem gives_mono {β : Type} {P Q : β → Prop} {x : Except PyError β} (h : Gives P x)
    (hPQ : ∀ b, P b → Q b) : Gives Q x := fun b hb => hPQ b (h b hb)

theorem eachRow_all {α β : Type} {P : β → Prop} {f : α → Except PyError β} {xs : List α}
    {ys : List β} (h : eachRow f xs = .ok ys) (hf : ∀ x ∈ xs, ∀ y, f x = .ok y → P y) :
    (∀ y ∈ ys, P y) ∧ ys.length = xs.length := by
  induction xs generalizing ys with
  | nil =>
    cases h
    exact ⟨fun y hy => absurd hy List.not_mem_nil, rfl⟩
  | cons x xs ih =>
    unfold eachRow at h
    cases hx : f x with
    | error err =>
      rw [hx] at h
      cases h
    | ok y =>
      rw [hx] at h
      cases hxs : eachRow f xs with
      | error err =>
        rw [hxs] at h
        cases h
      | ok ys' =>
        rw [hxs] at h
        cases h
        obtain ⟨hall, hlen⟩ := ih hxs fun x hx => hf x (List.mem_cons_of_mem _ hx)
        refine ⟨fun y' hy' => ?_, by rw [List.length_cons, List.length_cons, hlen]⟩
        rcases List.mem_cons.mp hy' with rfl | hy'
        · exact hf x List.mem_cons_self y' hx
        · exact hall y' hy'

theorem field_ok {e : Events.Event Value} {key : String} {v : Value} (h : field e key = .ok v) :
    field? e key = some v := by
  unfold field memberOf at h
  cases hlook : (payloadRows e).lookup key with
  | none =>
    rw [hlook] at h
    cases h
  | some w =>
    rw [hlook] at h
    cases h
    exact hlook

/-! ## Events that bring a row -/

/-- The kinds of events that insert a row. -/
def INSERTING : List Int :=
  [POST_PUBLISHED, POST_ENGAGED, FOLLOW_CREATED, TIE_FORMED, OUTLET_FOUNDED, ARTICLE_PUBLISHED,
    BELIEF_UPDATED, PARTY_FOUNDED, ELECTION_CALLED, CANDIDACY_ANNOUNCED, VOTE_CAST, ABSTAINED,
    POLICY_ENACTED, CRIME_COMMITTED, SUIT_FILED]

/-- The kinds of events that insert a row for each item of a field. -/
def LISTING : List (Int × String) :=
  [(BELIEF_PRIORS_SET, "propositions"), (MIGRATION_IN, "belief_priors"),
    (BELIEF_DRIFT_APPLIED, "updates")]

/-- An event that inserts a row. -/
def Inserts (e : Events.Event Value) : Prop :=
  e.kind ∈ INSERTING ∨
    ∃ key ∈ LISTING.lookup e.kind, ∃ x xs, field? e key = some (.list (x :: xs))

/-- Statements of a form, none of them a deletion; one of them grows exactly
when the event inserts. -/
structure Fits (P : Statement Value → Prop) (e : Events.Event Value)
    (sts : List (Statement Value)) : Prop where
  each : ∀ st ∈ sts, P st ∧ st.deletes = false
  grows : (∃ st ∈ sts, st.grows = true) ↔ Inserts e

theorem Fits.mono {P Q : Statement Value → Prop} {e : Events.Event Value}
    {sts : List (Statement Value)} (h : Fits P e sts) (hPQ : ∀ st, P st → Q st) : Fits Q e sts where
  each := fun st hst => ⟨hPQ st (h.each st hst).1, (h.each st hst).2⟩
  grows := h.grows

theorem fits_grow {P : Statement Value → Prop} {e : Events.Event Value}
    {sts : List (Statement Value)} (hk : e.kind ∈ INSERTING)
    (h : ∀ st ∈ sts, P st ∧ st.deletes = false) (hex : ∃ st ∈ sts, st.grows = true) :
    Fits P e sts where
  each := h
  grows := iff_of_true hex (Or.inl hk)

theorem fits_still {P : Statement Value → Prop} {e : Events.Event Value}
    {sts : List (Statement Value)} (hk : e.kind ∉ INSERTING) (hl : LISTING.lookup e.kind = none)
    (h : ∀ st ∈ sts, P st ∧ st.deletes = false ∧ st.grows = false) : Fits P e sts where
  each := fun st hst => ⟨(h st hst).1, (h st hst).2.1⟩
  grows := by
    refine iff_of_false ?_ ?_
    · rintro ⟨st, hst, hg⟩
      rw [(h st hst).2.2] at hg
      cases hg
    · rintro (hin | ⟨key, hkey, -⟩)
      · exact hk hin
      · rw [hl] at hkey
        cases hkey

theorem fits_rows {P : Statement Value → Prop} {e : Events.Event Value} {key : String} {v : Value}
    {xs : List Value} {f : Value → Except PyError (Statement Value)} (hk : e.kind ∉ INSERTING)
    (hl : LISTING.lookup e.kind = some key) (hv : field e key = .ok v) (hxs : itemsOf v = .ok xs)
    (hf : ∀ x st, f x = .ok st → P st ∧ st.deletes = false ∧ st.grows = true) :
    Gives (Fits P e) (eachRow f xs) := by
  intro sts h
  obtain ⟨hall, hlen⟩ := eachRow_all h fun x _ => hf x
  refine ⟨fun st hst => ⟨(hall st hst).1, (hall st hst).2.1⟩, ?_⟩
  have hfield : field? e key = some (.list xs) := by
    cases v with
    | list ys =>
      cases hxs
      exact field_ok hv
    | _ => cases hxs
  constructor
  · rintro ⟨st, hst, -⟩
    cases xs with
    | nil =>
      have hnil := List.length_eq_zero_iff.mp hlen
      rw [hnil] at hst
      cases hst
    | cons x xs => exact Or.inr ⟨key, hl, x, xs, hfield⟩
  · rintro (hin | ⟨key', hkey', x, xs', heq⟩)
    · exact absurd hin hk
    · have hsame : key = key' := Option.some.inj (hl.symm.trans hkey')
      rw [← hsame, hfield] at heq
      cases heq
      cases sts with
      | nil => cases hlen
      | cons st sts => exact ⟨st, List.mem_cons_self, (hall st List.mem_cons_self).2.2⟩

/-- A statement within some tables. -/
def Owned (tables : List String) (st : Statement Value) : Prop := st.Within {t | t ∈ tables}

theorem Owned.mono {tables tables' : List String} {st : Statement Value} (h : Owned tables st)
    (hsub : ∀ t ∈ tables, t ∈ tables') : Owned tables' st :=
  ⟨fun t ht => hsub t (h.1 t ht), fun t ht => hsub t (h.2 t ht)⟩

/-! ## The projections -/

section Floats

variable [FloatColumn]

attribute [local simp] Owned Statement.Within Statement.writes Statement.reads Statement.deletes
  Statement.grows

theorem posts_fits {e : Events.Event Value} (h : e.kind ∈ postsProjection.handles) :
    Gives (Fits (Owned postsProjection.tables) e) (postsStatements e) := by
  unfold postsStatements
  refine gives_ite (fun hk => ?_) fun h1 => gives_ite (fun hk => ?_) fun h2 =>
    gives_ite (fun hk => ?_) fun h3 => gives_ite (fun hk => ?_) fun h4 => ?_
  · refine gives_bind fun postId _ => gives_bind fun cs _ => gives_pure ?_
    refine fits_grow (by rw [hk]; decide) ?_ ?_ <;> simp [postsProjection]
  · refine gives_bind fun postId _ => gives_pure ?_
    refine fits_still (by rw [hk]; decide) (by rw [hk]; decide) ?_
    simp [postsProjection]
  · refine gives_bind fun postId _ => gives_bind fun agentId _ => gives_bind fun type _ => ?_
    split
    all_goals
      refine gives_pure (fits_grow (by rw [hk]; decide) ?_ ?_) <;> simp [postsProjection]
  · have hstill : e.kind ∉ INSERTING ∧ LISTING.lookup e.kind = none := by
      rw [hk]
      decide
    refine gives_bind fun subject _ => gives_bind fun score _ => ?_
    split
    · refine gives_pure (fits_still hstill.1 hstill.2 ?_)
      simp
    · refine gives_bind fun score _ => gives_bind fun postId _ => gives_pure ?_
      refine fits_still hstill.1 hstill.2 ?_
      simp [postsProjection]
    · refine gives_pure (fits_still hstill.1 hstill.2 ?_)
      simp
  · simp [postsProjection, h1, h2, h3, h4] at h

omit [FloatColumn] in
theorem follows_fits {e : Events.Event Value} (h : e.kind ∈ followsProjection.handles) :
    Gives (Fits (Owned followsProjection.tables) e) (followsStatements e) := by
  unfold followsStatements
  refine gives_ite (fun hk => ?_) fun h1 => gives_ite (fun hk => ?_) fun h2 => gives_pure ?_
  · refine gives_bind fun followerId _ => gives_bind fun followeeId _ =>
      gives_bind fun context _ => gives_pure ?_
    refine fits_grow (by rw [hk]; decide) ?_ ?_ <;> simp [followsProjection]
  · refine gives_bind fun followerId _ => gives_bind fun followeeId _ => gives_pure ?_
    refine fits_still (by rw [hk]; decide) (by rw [hk]; decide) ?_
    simp [followsProjection]
  · -- the end of a follow
    have hk : e.kind = FOLLOW_ENDED := by simpa [followsProjection, h1] using h
    refine fits_still (by rw [hk]; decide) (by rw [hk]; decide) ?_
    simp

theorem relationships_fits {e : Events.Event Value} (h : e.kind ∈ relationshipsProjection.handles) :
    Gives (Fits (Owned relationshipsProjection.tables) e) (relationshipsStatements e) := by
  unfold relationshipsStatements
  refine gives_ite (fun hk => ?_) fun h1 => gives_ite (fun hk => ?_) fun h2 =>
    gives_ite (fun hk => ?_) fun h3 => ?_
  · refine gives_bind fun key _ => gives_bind fun strength _ => gives_bind fun valence _ =>
      gives_bind fun trust _ => gives_pure ?_
    refine fits_grow (by rw [hk]; decide) ?_ ?_ <;> simp [relationshipsProjection]
  · refine gives_bind fun dStrength _ => gives_bind fun dValence _ => gives_bind fun dTrust _ =>
      gives_bind fun drivers _ => gives_bind fun key _ => gives_pure ?_
    refine fits_still (by rw [hk]; decide) (by rw [hk]; decide) ?_
    simp [relationshipsProjection]
  · refine gives_bind fun strength _ => gives_bind fun key _ => gives_pure ?_
    refine fits_still (by rw [hk]; decide) (by rw [hk]; decide) ?_
    simp [relationshipsProjection]
  · have hk : e.kind = TIE_TYPE_CHANGED := by simpa [relationshipsProjection, h1, h2, h3] using h
    refine gives_bind fun source _ => gives_bind fun key _ => gives_pure ?_
    refine fits_still (by rw [hk]; decide) (by rw [hk]; decide) ?_
    simp [relationshipsProjection]

omit [FloatColumn] in
theorem outlets_fits {e : Events.Event Value} (h : e.kind ∈ outletsProjection.handles) :
    Gives (Fits (Owned outletsProjection.tables) e) (outletsStatements e) := by
  unfold outletsStatements
  refine gives_ite (fun hk => ?_) fun h1 => gives_ite (fun hk => ?_) fun h2 => ?_
  · refine gives_bind fun outletId _ => gives_bind fun cs _ => gives_pure ?_
    refine fits_grow (by rw [hk]; decide) ?_ ?_ <;> simp [outletsProjection]
  · refine gives_bind fun reach _ => gives_bind fun outletId _ => gives_pure ?_
    refine fits_still (by rw [hk]; decide) (by rw [hk]; decide) ?_
    simp [outletsProjection]
  · have hk : e.kind = OUTLET_REVENUE_BOOKED := by simpa [outletsProjection, h1, h2] using h
    refine gives_bind fun impressions _ => gives_bind fun outletId _ => gives_pure ?_
    refine fits_still (by rw [hk]; decide) (by rw [hk]; decide) ?_
    simp [outletsProjection]

theorem articles_fits {e : Events.Event Value} (h : e.kind ∈ articlesProjection.handles) :
    Gives (Fits (Owned articlesProjection.tables) e) (articlesStatements e) := by
  unfold articlesStatements
  refine gives_ite (fun hk => ?_) fun h1 => gives_ite (fun hk => ?_) fun h2 =>
    gives_ite (fun hk => ?_) fun h3 => gives_ite (fun hk => ?_) fun h4 => ?_
  · refine gives_bind fun articleId _ => gives_bind fun cs _ => gives_pure ?_
    refine fits_grow (by rw [hk]; decide) ?_ ?_ <;> simp [articlesProjection]
  · refine gives_bind fun reach _ => gives_bind fun articleId _ => gives_pure ?_
    refine fits_still (by rw [hk]; decide) (by rw [hk]; decide) ?_
    simp [articlesProjection]
  · have hstill : e.kind ∉ INSERTING ∧ LISTING.lookup e.kind = none := by
      rw [hk]
      decide
    refine gives_bind fun id _ => ?_
    split
    · refine gives_pure (fits_still hstill.1 hstill.2 ?_)
      simp
    · refine gives_bind fun articleId _ => gives_pure (fits_still hstill.1 hstill.2 ?_)
      simp [articlesProjection]
  · have hstill : e.kind ∉ INSERTING ∧ LISTING.lookup e.kind = none := by
      rw [hk]
      decide
    refine gives_bind fun subject _ => gives_bind fun score _ => ?_
    split
    · refine gives_pure (fits_still hstill.1 hstill.2 ?_)
      simp
    · refine gives_bind fun score _ => gives_bind fun articleId _ => gives_pure ?_
      refine fits_still hstill.1 hstill.2 ?_
      simp [articlesProjection]
    · refine gives_pure (fits_still hstill.1 hstill.2 ?_)
      simp
  · simp [articlesProjection, h1, h2, h3, h4] at h

/-- A statement that inserts a row into the beliefs. -/
def InsertsBelief (st : Statement Value) : Prop :=
  Owned beliefsProjection.tables st ∧ st.deletes = false ∧ st.grows = true

theorem priorStatement_inserts (e : Events.Event Value) (agentId : String)
    (source sourceRef prior : Value) :
    Gives InsertsBelief (priorStatement e agentId source sourceRef prior) := by
  unfold priorStatement
  refine gives_bind fun rows _ => gives_bind fun v _ => gives_bind fun proposition _ =>
    gives_ite (fun _ => gives_throw) fun _ => ?_
  refine gives_bind fun v _ => gives_bind fun value _ => gives_bind fun c _ =>
    gives_bind fun confidence _ => gives_pure ?_
  simp [InsertsBelief, beliefUpsert, beliefsProjection]

theorem driftStatement_inserts (e : Events.Event Value) (agentId : String) (channel update : Value) :
    Gives InsertsBelief (driftStatement e agentId channel update) := by
  unfold driftStatement
  refine gives_bind fun rows _ => gives_bind fun v _ => gives_bind fun proposition _ => ?_
  split
  · exact gives_throw
  · refine gives_bind fun v _ => gives_bind fun dValue _ => gives_bind fun c _ =>
      gives_bind fun dConfidence _ => gives_pure ?_
    simp [InsertsBelief, beliefsProjection]

theorem beliefs_fits {e : Events.Event Value} (h : e.kind ∈ beliefsProjection.handles) :
    Gives (Fits (Owned beliefsProjection.tables) e) (beliefsStatements e) := by
  unfold beliefsStatements
  refine gives_ite (fun hk => ?_) fun h1 => gives_ite (fun hk => ?_) fun h2 =>
    gives_ite (fun hk => ?_) fun h3 => ?_
  · refine gives_bind fun agentId _ => gives_bind fun proposition _ => gives_bind fun value _ =>
      gives_bind fun confidence _ => gives_bind fun channel _ => gives_bind fun sourceRef _ =>
      gives_pure ?_
    refine fits_grow (by rw [hk]; decide) ?_ ?_ <;> simp [beliefsProjection, beliefUpsert]
  · refine gives_bind fun v hv => gives_bind fun priors hpriors => gives_bind fun agentId _ =>
      gives_bind fun source _ => ?_
    exact fits_rows (by rw [hk]; decide) (by rw [hk]; decide) hv hpriors
      fun prior => priorStatement_inserts _ _ _ _ prior
  · refine gives_bind fun v hv => gives_bind fun priors hpriors => gives_bind fun agentId _ =>
      gives_bind fun cohortId _ => ?_
    exact fits_rows (by rw [hk]; decide) (by rw [hk]; decide) hv hpriors
      fun prior => priorStatement_inserts _ _ _ _ prior
  · have hk : e.kind = BELIEF_DRIFT_APPLIED := by simpa [beliefsProjection, h1, h2, h3] using h
    refine gives_bind fun v hv => gives_bind fun updates hupdates => gives_bind fun agentId _ =>
      gives_bind fun channel _ => ?_
    exact fits_rows (by rw [hk]; decide) (by rw [hk]; decide) hv hupdates
      fun update => driftStatement_inserts _ _ _ update

theorem polity_fits {e : Events.Event Value} (h : e.kind ∈ polityProjection.handles) :
    Gives (Fits (Owned polityProjection.tables) e) (polityStatements e) := by
  unfold polityStatements
  refine gives_ite (fun hk => ?_) fun h1 => gives_ite (fun hk => ?_) fun h2 =>
    gives_ite (fun hk => ?_) fun h3 => gives_ite (fun hk => ?_) fun h4 =>
    gives_ite (fun hk => ?_) fun h5 => gives_ite (fun hk => ?_) fun h6 =>
    gives_ite (fun hk => ?_) fun h7 => gives_ite (fun hk => ?_) fun h8 =>
    gives_ite (fun hk => ?_) fun h9 => gives_ite (fun hk => ?_) fun h10 => ?_
  · refine gives_bind fun partyId _ => gives_bind fun cs _ => gives_pure ?_
    refine fits_grow (by rw [hk]; decide) ?_ ?_ <;> simp [polityProjection]
  · refine gives_bind fun v _ => gives_bind fun changes _ => gives_bind fun changes _ =>
      gives_bind fun partyId _ => gives_pure ?_
    refine fits_still (by rw [hk]; decide) (by rw [hk]; decide) ?_
    simp [polityProjection]
  · refine gives_bind fun partyId _ => gives_pure ?_
    refine fits_still (by rw [hk]; decide) (by rw [hk]; decide) ?_
    simp [polityProjection]
  · refine gives_bind fun electionId _ => gives_bind fun cs _ => gives_pure ?_
    refine fits_grow (by rw [hk]; decide) ?_ ?_ <;> simp [polityProjection]
  · refine gives_bind fun v _ => gives_bind fun winners _ => gives_bind fun cs _ =>
      gives_bind fun electionId _ => gives_bind fun w _ => gives_bind fun tallies _ =>
      gives_pure ?_
    refine fits_still (by rw [hk]; decide) (by rw [hk]; decide) ?_
    intro st hst
    -- the election, then the votes of each candidacy
    rcases List.mem_cons.mp hst with rfl | hst
    · simp [polityProjection]
    · obtain ⟨row, -, rfl⟩ := List.mem_map.mp hst
      simp [polityProjection, votesStatement]
  · refine gives_bind fun candidacyId _ => gives_bind fun cs _ => gives_pure ?_
    refine fits_grow (by rw [hk]; decide) ?_ ?_ <;> simp [polityProjection]
  · refine gives_bind fun amount _ => gives_bind fun candidacyId _ => gives_pure ?_
    refine fits_still (by rw [hk]; decide) (by rw [hk]; decide) ?_
    simp [polityProjection]
  · refine gives_bind fun electionId _ => gives_bind fun voterId _ => gives_bind fun cs _ =>
      gives_pure ?_
    refine fits_grow (by rcases hk with hk | hk <;> rw [hk] <;> decide) ?_ ?_ <;>
      simp [polityProjection]
  · refine gives_bind fun policyId _ => gives_bind fun cs _ => gives_pure ?_
    refine fits_grow (by rw [hk]; decide) ?_ ?_ <;> simp [polityProjection]
  · refine gives_bind fun policyId _ => gives_pure ?_
    refine fits_still (by rw [hk]; decide) (by rw [hk]; decide) ?_
    simp [polityProjection]
  · rw [not_or] at h8
    simp [polityProjection, h1, h2, h3, h4, h5, h6, h7, h8, h9, h10] at h

/-- A statement of the law projection: within its tables, or a conviction. -/
def OfLaw (st : Statement Value) : Prop :=
  Owned lawProjection.tables st ∨ ∃ caseId, st = convictStatement caseId

omit [FloatColumn] in
theorem law_fits {e : Events.Event Value} (h : e.kind ∈ lawProjection.handles) :
    Gives (Fits OfLaw e) (lawStatements e) := by
  unfold lawStatements
  refine gives_ite (fun hk => ?_) fun h1 => gives_ite (fun hk => ?_) fun h2 =>
    gives_ite (fun hk => ?_) fun h3 => gives_ite (fun hk => ?_) fun h4 =>
    gives_ite (fun hk => ?_) fun h5 => gives_ite (fun hk => ?_) fun h6 =>
    gives_ite (fun hk => ?_) fun h7 => gives_ite (fun hk => ?_) fun h8 => ?_
  · refine gives_bind fun crimeId _ => gives_bind fun cs _ => gives_pure ?_
    refine fits_grow (by rw [hk]; decide) ?_ ?_ <;> simp [OfLaw, lawProjection]
  · refine gives_bind fun crimeId _ => gives_pure ?_
    refine fits_still (by rw [hk]; decide) (by rw [hk]; decide) ?_
    simp [OfLaw, lawProjection]
  · refine gives_bind fun reporterId _ => gives_bind fun crimeId _ => gives_pure ?_
    refine fits_still (by rw [hk]; decide) (by rw [hk]; decide) ?_
    simp [OfLaw, lawProjection]
  · refine gives_bind fun caseId _ => gives_bind fun cs _ => gives_pure ?_
    refine fits_grow (by rw [hk]; decide) ?_ ?_ <;> simp [OfLaw, lawProjection]
  · refine gives_bind fun side _ => gives_bind fun counselId _ => gives_bind fun caseId _ =>
      gives_pure ?_
    refine fits_still (by rw [hk]; decide) (by rw [hk]; decide) ?_
    simp [OfLaw, lawProjection]
  · refine gives_bind fun v _ => gives_bind fun admitted _ => gives_bind fun caseId _ =>
      gives_pure ?_
    refine fits_still (by rw [hk]; decide) (by rw [hk]; decide) ?_
    simp [OfLaw, lawProjection]
  · refine gives_bind fun caseId _ => gives_pure ?_
    refine fits_still (by rw [hk]; decide) (by rw [hk]; decide) ?_
    simp [OfLaw, lawProjection]
  · have hstill : e.kind ∉ INSERTING ∧ LISTING.lookup e.kind = none := by
      rw [hk]
      decide
    refine gives_bind fun judgeId _ => gives_bind fun verdict _ => gives_bind fun fine _ =>
      gives_bind fun cs _ => gives_bind fun caseId _ => ?_
    split
    · refine gives_pure (fits_still hstill.1 hstill.2 ?_)
      intro st hst
      rcases List.mem_cons.mp hst with rfl | hst
      · simp [OfLaw, lawProjection]
      · rw [List.mem_singleton.mp hst]
        exact ⟨Or.inr ⟨caseId, rfl⟩, rfl, rfl⟩
    · refine gives_pure (fits_still hstill.1 hstill.2 ?_)
      simp [OfLaw, lawProjection]
  · simp [lawProjection, h1, h2, h3, h4, h5, h6, h7, h8] at h

/-! ## The registry -/

/-- The projections other than the law's. -/
def civilProjections : List Projection :=
  [postsProjection, followsProjection, relationshipsProjection, outletsProjection,
   articlesProjection, beliefsProjection, polityProjection]

theorem registry_eq : PROJECTION_REGISTRY = civilProjections ++ [lawProjection] := rfl

/-- The tables that the projections own. -/
def ownedTables : List String := PROJECTION_REGISTRY.flatMap fun p => p.tables

theorem ownedTables_eq : ownedTables =
    ["posts", "engagements", "post_viewers", "follows", "relationships", "outlets", "articles",
      "beliefs", "parties", "elections", "candidacies", "votes", "policies", "crimes",
      "court_cases"] := rfl

/-- A statement within the owned tables, or a conviction. -/
def OfRegistry (st : Statement Value) : Prop :=
  Owned ownedTables st ∨ ∃ caseId, st = convictStatement caseId

theorem civil_fits {p : Projection} {e : Events.Event Value} (hp : p ∈ civilProjections)
    (h : e.kind ∈ p.handles) : Gives (Fits (Owned p.tables) e) (p.statements e) := by
  simp only [civilProjections, List.mem_cons, List.not_mem_nil, or_false] at hp
  rcases hp with rfl | rfl | rfl | rfl | rfl | rfl | rfl
  · exact posts_fits h
  · exact follows_fits h
  · exact relationships_fits h
  · exact outlets_fits h
  · exact articles_fits h
  · exact beliefs_fits h
  · exact polity_fits h

theorem civil_tables {p : Projection} (hp : p ∈ civilProjections) :
    "agents" ∉ p.tables ∧ "court_cases" ∉ p.tables := by
  simp only [civilProjections, List.mem_cons, List.not_mem_nil, or_false] at hp
  rcases hp with rfl | rfl | rfl | rfl | rfl | rfl | rfl
  all_goals
    simp [postsProjection, followsProjection, relationshipsProjection, outletsProjection,
      articlesProjection, beliefsProjection, polityProjection]

theorem fits_registry {p : Projection} {e : Events.Event Value} (hp : p ∈ PROJECTION_REGISTRY)
    (h : e.kind ∈ p.handles) : Gives (Fits OfRegistry e) (p.statements e) := by
  have hsub : ∀ t ∈ p.tables, t ∈ ownedTables := fun t ht => List.mem_flatMap.mpr ⟨p, hp, ht⟩
  rw [registry_eq, List.mem_append, List.mem_singleton] at hp
  rcases hp with hp | rfl
  · refine gives_mono (civil_fits hp h) fun sts hfits => hfits.mono fun st hst => ?_
    exact Or.inl (hst.mono hsub)
  · refine gives_mono (law_fits h) fun sts hfits => hfits.mono fun st hst => ?_
    rcases hst with hst | hconvict
    · exact Or.inl (hst.mono hsub)
    · exact Or.inr hconvict

end Floats

end Polis.Society
