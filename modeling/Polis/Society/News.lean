/-
  Polis.Society.News — the distribution of articles and the weekly books of
  the outlets (`NewsCycle`, `society/media/news.py`).

  A distribution notes who was shown which article at which tick.  A closing
  counts the exposures of the week behind it, for every outlet that is live,
  and books its revenue.

  Main results:
    * `distribute_exposing` — what a distribution may do to the exposures and
      the articles.
-/
import Polis.Society.BeliefRanges
import Polis.Lib.StableSort
import Mathlib.Data.Finset.Card

namespace Polis.Society

open Lib Lib.Effect Lib.StableSort Polis.Events

/-! ## What the press keeps -/

/-- `Article`, with the fields distribution and the books read. -/
structure Article where
  articleId : String
  outletId : String
  tick : Int
  headline : String
  reach : Int := 0
  stanceProposition : Option String := none
  stanceValue : Option ℚ := none

/-- `ArticleBrief`. -/
structure ArticleBrief where
  articleId : String
  outletId : String
  headline : String
  tick : Int
  stanceProposition : Option String
  stanceValue : Option ℚ

def Article.brief (a : Article) : ArticleBrief :=
  { articleId := a.articleId, outletId := a.outletId, headline := a.headline, tick := a.tick
    stanceProposition := a.stanceProposition, stanceValue := a.stanceValue }

/-- An outlet, and when it closed. -/
structure PressOutlet extends Outlet where
  closedTick : Option Int := none

/-- An agent, the article it was shown and when. -/
abbrev Exposure := String × String × Int

/-- `MemoryNewsRepository`.  An article is kept under its own name. -/
structure NewsRepository where
  outlets : Dict String PressOutlet := ∅
  articles : Dict String Article := ∅
  keyed : ∀ id a, articles.get? id = some a → a.articleId = id := by exact fun _ _ h => by cases h
  exposures : Finset Exposure := ∅
  audience : List String := []
  subscriptions : List (String × String) := []

namespace NewsRepository

variable (r : NewsRepository)

/-- `put_outlet`. -/
def putOutlet (o : PressOutlet) : NewsRepository :=
  { r with outlets := r.outlets.put o.outletId o }

/-- `put_article`. -/
def putArticle (a : Article) : NewsRepository :=
  { r with
    articles := r.articles.put a.articleId a
    keyed := by
      intro id b h
      rw [Dict.get?_put] at h
      split at h
      · cases h
        exact Eq.symm ‹_›
      · exact r.keyed id b h }

/-- `note_exposure`, where the exposure is new. -/
def noteExposure (row : Exposure) : NewsRepository :=
  { r with exposures := insert row r.exposures, audience := row.1 :: r.audience }

/-- `subscribe`. -/
def subscribe (agentId outletId : String) : NewsRepository :=
  { r with
    subscriptions := (agentId, outletId) :: r.subscriptions
    audience := agentId :: r.audience }

/-- `set_reach`. -/
def setReach (articleId : String) (reach : Int) : NewsRepository :=
  match r.articles.get? articleId with
  | none => r
  | some a => r.putArticle { a with reach := max a.reach reach }

/-- `audience_ids`. -/
def audienceIds : List String := sortedSet r.audience

/-- `subscribers`. -/
def subscribers (outletId : String) : List String :=
  sortedSet ((r.subscriptions.filter fun row => row.2 = outletId).map Prod.fst)

/-- `live`. -/
def live : List PressOutlet :=
  (sortByKey (fun o : PressOutlet => o.outletId) r.outlets.values).filter fun o =>
    o.closedTick = none

/-- The names of the articles of an outlet. -/
def articleIds (outletId : String) : List String :=
  (r.articles.values.filter fun a => a.outletId = outletId).map Article.articleId

/-- The outlet of an article. -/
def outletOf (articleId : String) : Option String :=
  (r.articles.get? articleId).map Article.outletId

theorem mem_articleIds {r : NewsRepository} {articleId outletId : String} :
    articleId ∈ r.articleIds outletId ↔ r.outletOf articleId = some outletId := by
  unfold articleIds outletOf
  rw [List.mem_map, Option.map_eq_some_iff]
  constructor
  · intro hin
    obtain ⟨a, ha, rfl⟩ := hin
    obtain ⟨hvalue, houtlet⟩ := List.mem_filter.mp ha
    obtain ⟨id, hget⟩ := Dict.mem_values_iff.mp hvalue
    rw [r.keyed id a hget]
    exact ⟨a, hget, of_decide_eq_true houtlet⟩
  · intro hof
    obtain ⟨a, hget, houtlet⟩ := hof
    exact ⟨a, List.mem_filter.mpr ⟨Dict.mem_values_of_get? hget, decide_eq_true houtlet⟩,
      r.keyed articleId a hget⟩

theorem outletOf_putArticle (a : Article) (id : String) :
    (r.putArticle a).outletOf id = if id = a.articleId then some a.outletId else r.outletOf id := by
  unfold outletOf
  show Option.map _ ((r.articles.put a.articleId a).get? id) = _
  rw [Dict.get?_put]
  split <;> rfl

@[simp] theorem exposures_setReach (articleId : String) (reach : Int) :
    (r.setReach articleId reach).exposures = r.exposures := by
  unfold setReach
  split <;> rfl

@[simp] theorem outletOf_setReach (articleId : String) (reach : Int) (id : String) :
    (r.setReach articleId reach).outletOf id = r.outletOf id := by
  unfold setReach
  cases hget : r.articles.get? articleId with
  | none => rfl
  | some a =>
    have hname := r.keyed articleId a hget
    show (r.putArticle _).outletOf id = _
    rw [outletOf_putArticle]
    by_cases hid : id = a.articleId
    · rw [if_pos hid, hid, hname]
      unfold outletOf
      rw [hget]
      rfl
    · rw [if_neg hid]

end NewsRepository

/-- From `r` to `r'` nothing but exposures of these articles at this tick was
noted, and no article went to another outlet. -/
structure Exposing (ids : List String) (tick : Int) (r r' : NewsRepository) : Prop where
  kept : r.exposures ⊆ r'.exposures
  new : ∀ e ∈ r'.exposures, e ∈ r.exposures ∨ (e.2.1 ∈ ids ∧ e.2.2 = tick)
  outletOf : ∀ id, r'.outletOf id = r.outletOf id

namespace Exposing

variable {ids : List String} {tick : Int}

theorem refl (r : NewsRepository) : Exposing ids tick r r where
  kept := Finset.Subset.refl _
  new := fun _ h => Or.inl h
  outletOf := fun _ => rfl

theorem trans {a b c : NewsRepository} (hab : Exposing ids tick a b) (hbc : Exposing ids tick b c) :
    Exposing ids tick a c where
  kept := hab.kept.trans hbc.kept
  new := by
    intro e he
    rcases hbc.new e he with hb | hnew
    · exact hab.new e hb
    · exact Or.inr hnew
  outletOf := fun id => (hbc.outletOf id).trans (hab.outletOf id)

theorem noteExposure {articleId : String} (h : articleId ∈ ids) (agentId : String)
    (r : NewsRepository) : Exposing ids tick r (r.noteExposure (agentId, articleId, tick)) where
  kept := Finset.subset_insert _ _
  new := by
    intro e he
    rcases Finset.mem_insert.mp he with rfl | hold
    · exact Or.inr ⟨h, rfl⟩
    · exact Or.inl hold
  outletOf := fun _ => rfl

theorem setReach (articleId : String) (reach : Int) (r : NewsRepository) :
    Exposing ids tick r (r.setReach articleId reach) where
  kept := by rw [NewsRepository.exposures_setReach]
  new := by
    intro e he
    rw [NewsRepository.exposures_setReach] at he
    exact Or.inl he
  outletOf := r.outletOf_setReach articleId reach

end Exposing

/-- What a `NewsCycle` works on. -/
structure PressState (L : Type) where
  log : EventLog Value
  ledger : L
  advertiserBudgets : Dict String Int := ∅
  beliefs : Beliefs := ∅
  graph : GraphState
  repo : NewsRepository := {}

abbrev PressM (L : Type) := EStateM Fault (PressState L)

namespace PressState

variable {L : Type} (s : PressState L)

def withLog (log : EventLog Value) : PressState L := { s with log }

def withRepo (repo : NewsRepository) : PressState L := { s with repo }

/-- The part of the state the belief engine works on. -/
def beliefState : BeliefState := { log := s.log, beliefs := s.beliefs }

def withBeliefState (b : BeliefState) : PressState L := { s with log := b.log, beliefs := b.beliefs }

/-- The part of the state the revenue of outlets is booked in. -/
def newsState : NewsState L :=
  { books := { log := s.log, ledger := s.ledger }, advertiserBudgets := s.advertiserBudgets }

def withNewsState (n : NewsState L) : PressState L :=
  { s with log := n.books.log, ledger := n.books.ledger, advertiserBudgets := n.advertiserBudgets }

@[simp] theorem withLog_repo (log : EventLog Value) : (s.withLog log).repo = s.repo := rfl

@[simp] theorem withBeliefState_repo (b : BeliefState) : (s.withBeliefState b).repo = s.repo := rfl

/-- `Exposing` between the repositories of two states. -/
def ExposingTo (ids : List String) (tick : Int) (s s' : PressState L) : Prop :=
  Exposing ids tick s.repo s'.repo

variable {ids : List String} {tick : Int}

theorem exposing_refl (s : PressState L) : s.ExposingTo ids tick s := .refl _

theorem exposing_trans (a b c : PressState L) (hab : a.ExposingTo ids tick b)
    (hbc : b.ExposingTo ids tick c) : a.ExposingTo ids tick c := hab.trans hbc

theorem exposing_zoom {τ α : Type} {view : PressState L → τ} {put : PressState L → τ → PressState L}
    (h : ∀ s t, (put s t).repo = s.repo) (x : EStateM Fault τ α) :
    Leaves (ExposingTo ids tick) (zoom view put x) := by
  refine leaves_zoom (Q := fun _ _ => True) (fun s t _ => ?_) fun _ => trivial
  unfold ExposingTo
  rw [h s t]
  exact .refl _

end PressState

/-! ## The cycle -/

/-- The settings of distribution and of the books. -/
structure NewsSettings where
  cpmCents : Nat := 40
  reachNorm : Nat := 500
  distributionWeights : Dict String ℚ := Dict.ofList
    [("trust", 35 / 100), ("topic", 25 / 100), ("prox", 15 / 100), ("sub", 15 / 100),
      ("reach", 10 / 100)]

/-- What a `NewsCycle` is built with. -/
structure NewsCycle (L : Type) where
  journal : Journal
  cfg : NewsSettings := {}
  beliefs : BeliefEngine
  ledger : NewsLedger L

namespace NewsCycle

variable {L : Type} (C : NewsCycle L)

/-- How much an article of an outlet appeals to an agent. -/
def score (s : PressState L) (agentId : String) (outlet : PressOutlet) : Except PyError ℚ := do
  let trust ← beliefValue s.beliefs agentId ("trust.outlet." ++ outlet.outletId)
  let weight := fun name => C.cfg.distributionWeights.getD name 0
  let subscribed : ℚ := if agentId ∈ s.repo.subscribers outlet.outletId then 1 else 0
  let reach := min 1 ((outlet.reach : ℚ) / C.cfg.reachNorm)
  pure (weight "trust" * trust + weight "topic" * 1 + weight "prox" * (1 / 2)
    + weight "sub" * subscribed + weight "reach" * reach)

/-- The rows of an agent: every article whose outlet is known, with its score. -/
def rows (s : PressState L) (articles : List Article) (agentId : String) :
    Except PyError (String × List (ℚ × Article)) := do
  let known := articles.filterMap fun a => (s.repo.outlets.get? a.outletId).map fun o => (o, a)
  let scored ← BeliefEngine.collect (fun row : PressOutlet × Article => do
    let score ← C.score s agentId row.1
    pure (score, row.2)) known
  pure (agentId, scored)

/-- The best score first, and then by name. -/
def rowKey (row : ℚ × Article) : Lex (ℚ × String) := toLex (-row.1, row.2.articleId)

/-- The three articles an agent is shown. -/
def selected (rows : List (ℚ × Article)) : List Article :=
  ((sortByKey rowKey rows).take 3).map Prod.snd

theorem rows_articles {C : NewsCycle L} {s : PressState L} {articles : List Article} {agentId : String}
    {row : String × List (ℚ × Article)} (h : C.rows s articles agentId = .ok row) :
    ∀ a ∈ selected row.2, a ∈ articles := by
  intro a ha
  unfold rows at h
  obtain ⟨scored, hscored, hrow⟩ := except_bind_eq_ok.mp h
  cases hrow
  obtain ⟨scoredRow, htake, rfl⟩ := List.mem_map.mp ha
  have hmem : scoredRow ∈ scored := (List.mem_insertionSort _).mp (List.mem_of_mem_take htake)
  obtain ⟨known, hknown, hscore⟩ := mem_collect hscored scoredRow hmem
  obtain ⟨score, -, heq⟩ := except_bind_eq_ok.mp hscore
  cases heq
  obtain ⟨b, hb, hpair⟩ := List.mem_filterMap.mp hknown
  obtain ⟨o, -, rfl⟩ := Option.map_eq_some_iff.mp hpair
  exact hb

/-- The event of a distributed article. -/
def distributedDraft [FloatValue] (article : Article) (audience subscribers : List String) : Draft :=
  { kind := ARTICLE_DISTRIBUTED
    payload := [("article_id", .str article.articleId), ("outlet_id", .str article.outletId),
      ("agent_ids", Value.strs audience), ("reach", .int audience.length),
      ("impressions", .int audience.length), ("district_shares", .dict []),
      ("subscriber_share", FloatValue.ofRat (if audience = [] then 0
        else (audience.countP fun id => id ∈ subscribers : ℕ) / audience.length))]
    subjectIds := article.articleId :: article.outletId :: audience }

/-- The event of a booking that staged none of its own. -/
def revenueDraft (period : RevenuePeriod) (booking : RevenueBooking) : Draft :=
  { kind := OUTLET_REVENUE_BOOKED
    payload := [("outlet_id", .str period.outlet.outletId),
      ("period_start_tick", .int period.periodStartTick),
      ("impressions", .int period.impressions), ("cpm_cents", .int period.cpmCents),
      ("ad_revenue_cents", .int booking.adRevenueCents),
      ("subscription_cents", .int booking.subscriptionCents),
      ("campaign_cents", .int booking.campaignCents),
      ("advertisers", Value.strs booking.advertisers), ("txn_ids", Value.strs booking.txnIds)]
    subjectIds := period.outlet.outletId :: booking.advertisers }

/-- A week in ticks. -/
def weekTicks : Int := C.journal.clock.ticksPerSimDay * 7

/-- The period that a closing books for an outlet. -/
def period (exposures : Finset Exposure) (r : NewsRepository) (tick : Int) (outlet : PressOutlet) :
    RevenuePeriod :=
  let start := max 0 (tick - C.weekTicks)
  let articleIds := r.articleIds outlet.outletId
  { outlet := outlet.toOutlet
    periodStartTick := start
    tick
    impressions := (exposures.filter fun e =>
      e.2.1 ∈ articleIds ∧ start ≤ e.2.2 ∧ e.2.2 ≤ tick).card
    cpmCents := C.cfg.cpmCents
    subscribers := r.subscribers outlet.outletId }

/-- What a closing leaves for one outlet. -/
structure Closing where
  period : RevenuePeriod
  booking : RevenueBooking
  event : Events.Event Value

variable [FloatValue] [CanonicalJson Value] [Sha256] [PayloadSchemas Value]

/-- `_emit`. -/
def emit (d : Draft) (tick : Int) : PressM L (Events.Event Value) :=
  zoom PressState.log PressState.withLog (Society.emit C.journal d tick)

/-- The media effect of an article that takes a stance. -/
def influence (agentId : String) (article : Article) (tick : Int) : PressM L Unit := do
  let s ← get
  match article.stanceProposition, article.stanceValue with
  | some proposition, some value => do
    let _ ← zoom PressState.beliefState PressState.withBeliefState
      (C.beliefs.applyMedia s.graph agentId proposition value article.outletId tick)
    pure ()
  | _, _ => pure ()

/-- Show an agent an article: whom it reached, when the exposure is new. -/
def expose (agentId : String) (tick : Int) (article : Article) : PressM L (List (String × String)) :=
  do
    let s ← get
    if (agentId, article.articleId, tick) ∈ s.repo.exposures then pure []
    else do
      modify fun s => s.withRepo (s.repo.noteExposure (agentId, article.articleId, tick))
      C.influence agentId article tick
      pure [(article.articleId, agentId)]

/-- The reach of an article, and its event. -/
def announce (subscribers : String → List String) (reached : List (String × String)) (tick : Int)
    (article : Article) : PressM L (List (Events.Event Value)) := do
  let audience := ((reached.filter fun row => row.1 = article.articleId).map Prod.snd).insertionSort
    (· ≤ ·)
  modify fun s => s.withRepo (s.repo.setReach article.articleId audience.length)
  let event ← C.emit (distributedDraft article audience (subscribers article.outletId)) tick
  pure [event]

/-- `distribute`. -/
def distribute (articles : List Article) (tick : Int) :
    PressM L (List (String × List ArticleBrief) × List (Events.Event Value)) := do
  let s ← get
  let byAgent ← liftPy (BeliefEngine.collect (C.rows s articles) s.repo.audienceIds)
  let shown := (byAgent.filter fun row => row.2 ≠ []).map fun row => (row.1, selected row.2)
  let reached ← gather (fun row => gather (C.expose row.1 tick) row.2) shown
  let subscribers := fun outletId =>
    if (s.repo.outlets.get? outletId).isSome then s.repo.subscribers outletId else []
  let events ← gather (C.announce subscribers reached tick)
    (sortByKey (fun a : Article => a.articleId) articles)
  pure (shown.map fun row => (row.1, row.2.map Article.brief), events)

/-- The event of a booking: its own, or one for it. -/
def bookedEvent (period : RevenuePeriod) (booking : RevenueBooking) (tick : Int) :
    PressM L (Events.Event Value) :=
  match booking.event with
  | some event => pure event
  | none => C.emit (revenueDraft period booking) tick

/-- The booking of one outlet, and its event. -/
def closing (exposures : Finset Exposure) (tick : Int) (outlet : PressOutlet) :
    PressM L (List Closing) := do
  let s ← get
  let period := C.period exposures s.repo tick outlet
  let booking ← zoom PressState.newsState PressState.withNewsState
    (C.ledger.bookOutletRevenue period)
  let event ← C.bookedEvent period booking tick
  pure [{ period, booking, event }]

/-- The loop of `close_books`. -/
def closings (tick : Int) : PressM L (List Closing) := do
  let s ← get
  gather (C.closing s.repo.exposures tick) s.repo.live

/-- `close_books`. -/
def closeBooks (tick : Int) : PressM L (List (Events.Event Value)) := do
  let rows ← C.closings tick
  pure (rows.map Closing.event)

/-! ## What a distribution may do -/

section Distribution

open PressState

variable {C} {ids : List String} {tick : Int}

theorem influence_exposing (agentId : String) (article : Article) :
    Leaves (ExposingTo ids tick)
      (C.influence agentId article tick) := by
  apply leaves_bind exposing_trans (leaves_get exposing_refl)
  intro s
  cases article.stanceProposition with
  | none => exact leaves_pure exposing_refl ()
  | some proposition =>
    cases article.stanceValue with
    | none => exact leaves_pure exposing_refl ()
    | some value =>
      exact leaves_bind exposing_trans (exposing_zoom withBeliefState_repo _) fun _ =>
        leaves_pure exposing_refl ()

theorem expose_exposing {article : Article} (h : article.articleId ∈ ids) (agentId : String) :
    Leaves (ExposingTo ids tick)
      (C.expose agentId tick article) := by
  apply leaves_bind exposing_trans (leaves_get exposing_refl)
  intro s
  apply leaves_ite (leaves_pure exposing_refl [])
  have hnote : Leaves (ExposingTo ids tick) (modify fun s : PressState L =>
      s.withRepo (s.repo.noteExposure (agentId, article.articleId, tick)) : PressM L PUnit) :=
    fun s => Exposing.noteExposure h agentId s.repo
  apply leaves_bind exposing_trans hnote
  intro _
  exact leaves_bind exposing_trans (influence_exposing agentId article) fun _ =>
    leaves_pure exposing_refl _

theorem announce_exposing (subscribers : String → List String) (reached : List (String × String))
    (article : Article) :
    Leaves (ExposingTo ids tick)
      (C.announce subscribers reached tick article) := by
  refine leaves_bind exposing_trans ?_ fun _ => ?_
  · exact fun s => Exposing.setReach article.articleId _ s.repo
  · exact leaves_bind exposing_trans (exposing_zoom withLog_repo _) fun _ =>
      leaves_pure exposing_refl _

theorem distribute_exposing (articles : List Article) :
    Leaves (ExposingTo (articles.map Article.articleId) tick)
      (C.distribute articles tick) := by
  intro s
  unfold distribute
  rw [get_bind]
  cases hrows : BeliefEngine.collect (C.rows s articles) s.repo.audienceIds with
  | error e =>
    rw [bind_of_error liftPy_error]
    exact .refl _
  | ok byAgent =>
    rw [bind_of_ok liftPy_ok]
    refine leaves_bind exposing_trans (leaves_gather exposing_refl exposing_trans ?_) ?_ s
    · intro row hrow
      obtain ⟨scored, hscored, rfl⟩ := List.mem_map.mp hrow
      obtain ⟨agentId, -, hok⟩ := mem_collect hrows scored (List.mem_filter.mp hscored).1
      apply leaves_gather exposing_refl exposing_trans
      intro a ha
      exact expose_exposing (List.mem_map_of_mem (rows_articles hok a ha)) _
    · intro reached
      apply leaves_bind exposing_trans
      · exact leaves_gather exposing_refl exposing_trans fun a _ => announce_exposing _ _ a
      · exact fun _ => leaves_pure exposing_refl _

end Distribution

end NewsCycle

end Polis.Society
