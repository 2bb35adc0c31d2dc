/-
  Polis.Society.NewsWeeks — the weeks of an outlet over histories of
  distributions and closings (`NewsCycle`, `society/media/news.py`).

  The week a closing books has both its ends in it, so an exposure that is
  noted at the tick of a closing, before that closing, is billed by it and by
  the next one.

  Main results:
    * `ads_within` — what advertisers pay for a period.
    * `History.weeks` — what the closings of a history bill.
    * `impressions_billed_once_iff` — every exposure is billed once exactly
      when none is noted at the tick of a closing before it, the last apart.
-/
import Polis.Society.News
import Polis.Lib.SharedEnds
import Mathlib.Algebra.BigOperators.Ring.Finset

namespace Polis.Society

open Lib Lib.Effect Lib.SharedEnds Polis.Events

/-! ## What advertisers pay -/

namespace NewsLedger

variable {L : Type} (N : NewsLedger L)

theorem affordable_range (ledger : L) (payerId payeeId : String) {requested : Int} (committed : Int)
    (h : 0 ≤ requested) :
    0 ≤ N.affordable ledger payerId payeeId requested committed ∧
      N.affordable ledger payerId payeeId requested committed ≤ requested := by
  unfold affordable
  split
  · exact ⟨le_refl 0, h⟩
  · exact ⟨le_min h (le_max_left _ _), min_le_left _ _⟩

/-- What is reserved and what is left to place are `total` together. -/
def Placed (total : Int) (acc : Reserved × Int) : Prop :=
  Bookings.cents acc.1.rows + acc.2 = total ∧ 0 ≤ acc.2

theorem reserveAd_placed {ledger : L} {payeeId : String} {total : Int} {acc : Reserved × Int}
    (h : Placed total acc) (row : String × Int) :
    Placed total (N.reserveAd ledger payeeId acc row) := by
  obtain ⟨hsum, hleft⟩ := h
  unfold reserveAd
  by_cases hnone : acc.2 ≤ 0
  · rw [if_pos hnone]
    exact ⟨hsum, hleft⟩
  · rw [if_neg hnone]
    have hasks : 0 ≤ min acc.2 (max 0 row.2) := le_min hleft (le_max_left _ _)
    have hrange := N.affordable_range ledger row.1 payeeId (acc.1.committed.getD row.1 0) hasks
    have hasked : min acc.2 (max 0 row.2) ≤ acc.2 := min_le_left _ _
    unfold Placed reserve Bookings.cents at *
    dsimp only
    split
    · rw [List.map_append, List.sum_append]
      simp only [List.map_cons, List.map_nil, List.sum_cons, List.sum_nil]
      omega
    · omega

theorem ads_within (s : NewsState L) (payeeId : String) (period : RevenuePeriod) :
    Bookings.cents (N.bookings s payeeId period).ads
      ≤ max 0 (period.impressions * period.cpmCents / 1000) := by
  have hloop : ∀ (rows : List (String × Int)) (total : Int) (acc : Reserved × Int),
      Placed total acc →
        Placed total (rows.foldl (N.reserveAd s.books.ledger payeeId) acc) := by
    intro rows total
    induction rows with
    | nil => exact fun _ h => h
    | cons row rows ih => exact fun acc h => ih _ (N.reserveAd_placed h row)
  have hstart : Placed (max 0 (period.impressions * period.cpmCents / 1000))
      (({} : Reserved), max 0 (period.impressions * period.cpmCents / 1000)) :=
    ⟨zero_add _, le_max_left _ _⟩
  have hend := hloop s.advertiserBudgets.sortedEntries _ _ hstart
  have hads : (N.bookings s payeeId period).ads = (s.advertiserBudgets.sortedEntries.foldl
      (N.reserveAd s.books.ledger payeeId)
      ({}, max 0 (period.impressions * period.cpmCents / 1000))).1.rows := rfl
  rw [hads]
  unfold Placed at hend
  omega

section Booked

variable [CanonicalJson Value] [Events.Sha256] [PayloadSchemas Value]

theorem bookOutletRevenue_within {period : RevenuePeriod} {s s' : NewsState L}
    {booking : RevenueBooking} (h : N.bookOutletRevenue period s = .ok booking s') :
    booking.adRevenueCents ≤ max 0 (period.impressions * period.cpmCents / 1000) := by
  unfold bookOutletRevenue at h
  rw [get_bind] at h
  cases hfirm : period.outlet.firmId with
  | none =>
    rw [hfirm] at h
    cases h
    exact le_max_left _ _
  | some payeeId =>
    rw [hfirm] at h
    dsimp only at h
    by_cases hnil : (N.bookings s payeeId period).transfers payeeId = []
    · rw [if_pos hnil] at h
      cases h
      exact le_max_left _ _
    · rw [if_neg hnil] at h
      obtain ⟨event, t, -, h⟩ := bind_eq_ok.mp h
      obtain ⟨-, u, -, h⟩ := bind_eq_ok.mp h
      obtain ⟨rfl, -⟩ := pure_eq_ok.mp h
      exact N.ads_within s payeeId period

end Booked

end NewsLedger

/-! ## The exposures of an outlet -/

namespace NewsRepository

/-- The exposures of the articles of an outlet. -/
def exposuresOf (r : NewsRepository) (outletId : String) : Finset Exposure :=
  r.exposures.filter fun e => r.outletOf e.2.1 = some outletId

/-- Nothing was noted, and no article left its outlet. -/
structure Quiet (r r' : NewsRepository) : Prop where
  exposures : r'.exposures = r.exposures
  outletOf : ∀ id o, r.outletOf id = some o → r'.outletOf id = some o

end NewsRepository

namespace NewsCycle

/-- When an exposure was noted. -/
def exposureTick (e : Exposure) : Int := e.2.2

/-- A week of an outlet: the window its closing billed, the exposures of the
outlet that were noted at the closing before and at this one, the impressions
that were billed and the advertising that was booked. -/
structure Week extends SharedEnds.Closing Exposure where
  impressions : Int
  adRevenueCents : Int

section Histories

variable {L : Type} (C : NewsCycle L) [FloatValue] [CanonicalJson Value] [Sha256]
  [PayloadSchemas Value]

/-- A history of the press and the weeks that an outlet closed in it, at the
first ends of a week, one after another; `now` is the tick reached and `noted`
what the last closing found of the outlet. -/
inductive History (outletId : String) :
    PressState L → (now : Int) → (noted : Finset Exposure) → List Week → Prop
  | start (s : PressState L) (unexposed : s.repo.exposures = ∅) : History outletId s 0 ∅ []
  /-- Anything else that happens, at no earlier tick. -/
  | elsewhere {s s' : PressState L} {now tick : Int} {noted : Finset Exposure} {ws : List Week}
      (earlier : History outletId s now noted ws) (later : now ≤ tick)
      (quiet : s.repo.Quiet s'.repo) : History outletId s' tick noted ws
  /-- A distribution of articles that are kept, returned or raised. -/
  | distribute {s : PressState L} {now tick : Int} {noted : Finset Exposure} {ws : List Week}
      {articles : List Article} (earlier : History outletId s now noted ws) (later : now ≤ tick)
      (kept : ∀ a ∈ articles, (s.repo.outletOf a.articleId).isSome = true) :
      History outletId (stateAfter (C.distribute articles tick s)) tick noted ws
  /-- The closing of the next week, with the outlet live. -/
  | closeBooks {s s' : PressState L} {now tick : Int} {noted : Finset Exposure} {ws : List Week}
      {rows : List Closing} {row : Closing} (earlier : History outletId s now noted ws)
      (later : now ≤ tick) (due : tick = C.weekTicks * (ws.length + 1))
      (books : C.closings tick s = .ok rows s') (closed : row ∈ rows)
      (live : row.period.outlet.outletId = outletId) :
      History outletId s' tick (s.repo.exposuresOf outletId)
        (ws ++ [{ start := C.weekTicks * ws.length
                  stop := tick
                  before := noted
                  present := s.repo.exposuresOf outletId
                  impressions := row.period.impressions
                  adRevenueCents := row.booking.adRevenueCents }])

variable {C} {outletId : String}

omit [FloatValue] [CanonicalJson Value] [Sha256] [PayloadSchemas Value] in
theorem weekTicks_nonneg : 0 ≤ C.weekTicks := by
  unfold weekTicks
  omega

omit [FloatValue] in
theorem closing_repo {exposures : Finset Exposure} {tick : Int} {o : PressOutlet}
    {s s' : PressState L} {rows : List Closing} (h : C.closing exposures tick o s = .ok rows s') :
    s'.repo = s.repo ∧ ∀ row ∈ rows, row.period = C.period exposures s.repo tick o ∧
      row.booking.adRevenueCents
        ≤ max 0 (row.period.impressions * row.period.cpmCents / 1000) := by
  unfold closing at h
  rw [get_bind] at h
  obtain ⟨booking, t, hbook, h⟩ := bind_eq_ok.mp h
  obtain ⟨event, u, hevent, h⟩ := bind_eq_ok.mp h
  obtain ⟨rfl, rfl⟩ := pure_eq_ok.mp h
  obtain ⟨n, hrun, rfl⟩ := zoom_eq_ok.mp hbook
  have hrepo : u.repo = s.repo := by
    unfold bookedEvent at hevent
    cases hown : booking.event with
    | some e =>
      rw [hown] at hevent
      obtain ⟨-, rfl⟩ := pure_eq_ok.mp hevent
      rfl
    | none =>
      rw [hown] at hevent
      obtain ⟨log, -, rfl⟩ := zoom_eq_ok.mp hevent
      rfl
  refine ⟨hrepo, fun row hrow => ?_⟩
  rw [List.mem_singleton.mp hrow]
  exact ⟨rfl, C.ledger.bookOutletRevenue_within hrun⟩

omit [FloatValue] in
theorem closings_row {tick : Int} {s s' : PressState L} {rows : List Closing} {row : Closing}
    (h : C.closings tick s = .ok rows s') (hrow : row ∈ rows) :
    s'.repo = s.repo ∧
      row.period.impressions = (((s.repo.exposuresOf row.period.outlet.outletId).filter fun e =>
        max 0 (tick - C.weekTicks) ≤ exposureTick e ∧ exposureTick e ≤ tick).card : Int) ∧
      row.booking.adRevenueCents ≤ max 0 (row.period.impressions * C.cfg.cpmCents / 1000) := by
  unfold closings at h
  rw [get_bind] at h
  have hkeep : ∀ o ∈ s.repo.live, ∀ t a t', C.closing s.repo.exposures tick o t = .ok a t' →
      t.repo = s.repo → t'.repo = s.repo :=
    fun o _ t a t' hrun ht => (closing_repo hrun).1.trans ht
  obtain ⟨o, -, t, a, t', ht, hrun, hin⟩ := mem_of_gather_kept hkeep rfl h hrow
  obtain ⟨hperiod, had⟩ := (closing_repo hrun).2 row hin
  have hend : s'.repo = s.repo :=
    within_gather (R := fun a b : PressState L => b.repo = a.repo) (fun _ => rfl)
      (fun _ _ _ hab hbc => hbc.trans hab) (fun o _ u b u' hu => (closing_repo hu).1) s rows s' h
  refine ⟨hend, ?_, ?_⟩
  · rw [hperiod, ht]
    unfold period NewsRepository.exposuresOf
    dsimp only
    rw [Finset.filter_filter]
    congr 2
    ext e
    simp only [Finset.mem_filter, NewsRepository.mem_articleIds]
    rfl
  · rwa [hperiod] at had ⊢

/-! ## What holds along a history -/

omit [FloatValue] [CanonicalJson Value] [Sha256] [PayloadSchemas Value] in
/-- What a history keeps: its closings are chained, what is noted of the outlet
since the last of them came after it, and every exposure is of a kept article. -/
structure Billed (C : NewsCycle L) (outletId : String) (r : NewsRepository) (now : Int)
    (noted : Finset Exposure) (ws : List Week) : Prop where
  chained : Chained exposureTick 0 noted (C.weekTicks * ws.length) (ws.map Week.toClosing)
  le : C.weekTicks * ws.length ≤ now
  found : noted ⊆ r.exposuresOf outletId
  since : ∀ e ∈ r.exposuresOf outletId, e ∉ noted →
    C.weekTicks * ws.length ≤ exposureTick e ∧ exposureTick e ≤ now
  kept : ∀ e ∈ r.exposures, (r.outletOf e.2.1).isSome = true
  impressions : ∀ w ∈ ws, w.impressions = w.counted exposureTick
  ads : ∀ w ∈ ws, w.adRevenueCents ≤ max 0 (w.impressions * C.cfg.cpmCents / 1000)

section Steps

omit [FloatValue] [CanonicalJson Value] [Sha256] [PayloadSchemas Value]

variable {r r' : NewsRepository} {now tick : Int} {noted : Finset Exposure} {ws : List Week}

theorem Billed.step (h : Billed C outletId r now noted ws) (hlater : now ≤ tick)
    (hold : r.exposuresOf outletId ⊆ r'.exposuresOf outletId)
    (hnew : ∀ e ∈ r'.exposuresOf outletId, e ∈ r.exposuresOf outletId ∨ exposureTick e = tick)
    (hkept : ∀ e ∈ r'.exposures, (r'.outletOf e.2.1).isSome = true) :
    Billed C outletId r' tick noted ws where
  chained := h.chained
  le := h.le.trans hlater
  found := h.found.trans hold
  since := by
    intro e he hout
    have hle := h.le
    rcases hnew e he with hin | heq
    · have := h.since e hin hout
      omega
    · omega
  kept := hkept
  impressions := h.impressions
  ads := h.ads

theorem Billed.quiet (h : Billed C outletId r now noted ws) (hlater : now ≤ tick)
    (hquiet : r.Quiet r') : Billed C outletId r' tick noted ws := by
  -- an article that was shown stays where it was
  have hof : ∀ e ∈ r.exposures, r'.outletOf e.2.1 = r.outletOf e.2.1 := by
    intro e he
    obtain ⟨o, ho⟩ := Option.isSome_iff_exists.mp (h.kept e he)
    rw [ho, hquiet.outletOf _ _ ho]
  have hsame : r'.exposuresOf outletId = r.exposuresOf outletId := by
    unfold NewsRepository.exposuresOf
    rw [hquiet.exposures]
    exact Finset.filter_congr fun e he => by rw [hof e he]
  apply h.step hlater
  · rw [hsame]
  · intro e he
    exact Or.inl (hsame ▸ he)
  · intro e he
    rw [hquiet.exposures] at he
    rw [hof e he]
    exact h.kept e he

theorem Billed.exposing (h : Billed C outletId r now noted ws) (hlater : now ≤ tick)
    {ids : List String} (hids : ∀ id ∈ ids, (r.outletOf id).isSome = true)
    (hexp : Exposing ids tick r r') : Billed C outletId r' tick noted ws := by
  have hof := hexp.outletOf
  apply h.step hlater
  · intro e he
    obtain ⟨hin, houtlet⟩ := Finset.mem_filter.mp he
    exact Finset.mem_filter.mpr ⟨hexp.kept hin, by rw [hof, houtlet]⟩
  · intro e he
    obtain ⟨hin, houtlet⟩ := Finset.mem_filter.mp he
    rcases hexp.new e hin with hold | hnew
    · exact Or.inl (Finset.mem_filter.mpr ⟨hold, by rw [← hof, houtlet]⟩)
    · exact Or.inr hnew.2
  · intro e he
    rw [hof]
    rcases hexp.new e he with hold | hnew
    · exact h.kept e hold
    · exact hids _ hnew.1

end Steps

theorem History.weeks {s : PressState L} {now : Int} {noted : Finset Exposure} {ws : List Week}
    (h : C.History outletId s now noted ws) : Billed C outletId s.repo now noted ws := by
  induction h with
  | start s unexposed =>
    have hnone : s.repo.exposuresOf outletId = ∅ := by
      unfold NewsRepository.exposuresOf
      rw [unexposed]
      rfl
    refine ⟨?_, ?_, Finset.empty_subset _, ?_, ?_, ?_, ?_⟩
    · have hnil : Chained exposureTick 0 ∅ 0 [] := .nil
      simpa using hnil
    · simp
    · simp [hnone]
    · simp [unexposed]
    · simp
    · simp
  | elsewhere _ later quiet ih => exact ih.quiet later quiet
  | @distribute s now tick noted ws articles _ later kept ih =>
    refine ih.exposing later ?_ (distribute_exposing articles s)
    intro id hid
    obtain ⟨a, ha, rfl⟩ := List.mem_map.mp hid
    exact kept a ha
  | @closeBooks s s' now tick noted ws rows row _ later due books closed live ih =>
    obtain ⟨hrepo, himpressions, had⟩ := closings_row books closed
    have hweek := weekTicks_nonneg (C := C)
    have hlen : C.weekTicks * ((ws.length : Int) + 1) = C.weekTicks * ws.length + C.weekTicks := by
      ring
    have hstart : 0 ≤ C.weekTicks * (ws.length : Int) := mul_nonneg hweek (Int.natCast_nonneg _)
    have hfollows : (SharedEnds.Closing.mk (C.weekTicks * ws.length) tick noted
        (s.repo.exposuresOf outletId)).Follows exposureTick noted (C.weekTicks * ws.length) :=
      { start := rfl, before := rfl, le := by dsimp only; omega, kept := ih.found
        inside := by
          intro e he hout
          have hsince := ih.since e he hout
          dsimp only
          omega }
    have hstop : tick = C.weekTicks * ((ws.length + 1 : ℕ) : Int) := by
      rw [due]
      push_cast
      rfl
    rw [hrepo]
    refine ⟨?_, ?_, Finset.Subset.refl _, fun e he hout => absurd he hout, ih.kept, ?_, ?_⟩
    · rw [List.length_append, List.length_singleton, List.map_append, ← hstop]
      exact ih.chained.snoc hfollows
    · rw [List.length_append, List.length_singleton, ← hstop]
    · refine List.forall_mem_append.mpr ⟨ih.impressions, List.forall_mem_singleton.mpr ?_⟩
      have hwindow : max 0 (tick - C.weekTicks) = C.weekTicks * (ws.length : Int) := by omega
      rw [live, hwindow] at himpressions
      exact himpressions
    · exact List.forall_mem_append.mpr ⟨ih.ads, List.forall_mem_singleton.mpr had⟩

/-- **Every exposure of an outlet is billed once**, and its advertising keeps
to what the exposures of each week cost, exactly when none of its exposures
is noted at the tick of a closing before that closing, the last one apart. -/
theorem impressions_billed_once_iff {s : PressState L} {now : Int} {noted : Finset Exposure}
    {ws : List Week} (h : C.History outletId s now noted ws) :
    ((ws.map Week.impressions).sum = noted.card ∧
      (ws.map Week.adRevenueCents).sum
        ≤ (ws.map fun w => (w.fresh.card * C.cfg.cpmCents / 1000 : Int)).sum) ↔
    ∀ w ∈ ws.dropLast, ∀ e ∈ w.present, exposureTick e ≠ w.stop := by
  have hbilled := h.weeks
  have hsum : (ws.map Week.impressions).sum
      = (((ws.map Week.toClosing).map fun c => c.counted exposureTick).sum : ℕ) := by
    rw [Nat.cast_list_sum, List.map_map, List.map_map]
    exact congrArg List.sum (List.map_congr_left hbilled.impressions)
  have hcarried : (∀ c ∈ ws.map Week.toClosing, c.carried exposureTick = ∅) ↔
      ∀ w ∈ ws.dropLast, ∀ e ∈ w.present, exposureTick e ≠ w.stop := by
    rw [hbilled.chained.carried_iff, ← List.map_dropLast, List.forall_mem_map]
    exact forall₂_congr fun w _ => Finset.filter_eq_empty_iff
  have hexact := hbilled.chained.exact_iff
  rw [← hbilled.chained.carried_iff, hcarried] at hexact
  constructor
  · intro hclaim
    exact hexact.mp (by exact_mod_cast hsum.symm.trans hclaim.1)
  · intro hnone
    refine ⟨by rw [hsum, hexact.mpr hnone], List.sum_le_sum fun w hw => ?_⟩
    -- each week bills what is new in it
    have hcounted := hbilled.chained.counted_eq w.toClosing (List.mem_map_of_mem hw)
    rw [hcarried.mpr hnone w.toClosing (List.mem_map_of_mem hw), Finset.card_empty] at hcounted
    have hads := hbilled.ads w hw
    rw [hbilled.impressions w hw, hcounted] at hads
    have hcost : (0 : Int) ≤ w.fresh.card * C.cfg.cpmCents / 1000 := by positivity
    have hmax := max_eq_right hcost
    rw [Nat.add_zero, hmax] at hads
    exact hads

end Histories

/-! ## Closed runs -/

section Closed

attribute [local instance] blankJson blankDigest anySchema ratioColumn

def plainPress : NewsCycle Unit where
  journal := plainJournal
  beliefs := plainBeliefs
  ledger := { journal := plainJournal, ledger := freeLedger, campaignBuys := ∅ }

/-- An article of the only outlet. -/
def bulletin : Article :=
  { articleId := "ar_1", outletId := "ol_1", tick := 0, headline := "Harvest in" }

/-- One outlet with one article and a single reader. -/
def newsstand : PressState Unit where
  log := EventLog.new 0 GENESIS_PREV_HASH
  ledger := ()
  graph := { log := EventLog.new 0 GENESIS_PREV_HASH }
  repo :=
    (({ audience := ["ag_1"] } : NewsRepository).putOutlet
      { outletId := "ol_1", reach := 0, firmId := none }).putArticle bulletin

/-- The article is shown at a tick. -/
def shown (tick : Int) : PressState Unit :=
  stateAfter (plainPress.distribute [bulletin] tick newsstand)

/-- The books are closed at a tick. -/
def closed (tick : Int) (s : PressState Unit) : PressState Unit :=
  stateAfter (plainPress.closings tick s)

/-- What a closing bills, and to whom. -/
def billed (tick : Int) (s : PressState Unit) : Option (List (String × Int)) :=
  match plainPress.closings tick s with
  | .ok rows _ => some (rows.map fun row => (row.period.outlet.outletId, row.period.impressions))
  | .error _ _ => none

theorem closed_row {tick n : Int} {s : PressState Unit} {outletId : String}
    (h : billed tick s = some [(outletId, n)]) :
    ∃ row, plainPress.closings tick s = .ok [row] (closed tick s) ∧
      row.period.outlet.outletId = outletId ∧ row.period.impressions = n := by
  unfold billed at h
  unfold closed
  cases hrun : plainPress.closings tick s with
  | error e t =>
    rw [hrun] at h
    cases h
  | ok rows t =>
    rw [hrun] at h
    obtain ⟨row, rfl, hrow⟩ := List.map_eq_singleton_iff.mp (Option.some.inj h)
    exact ⟨row, rfl, congrArg Prod.fst hrow, congrArg Prod.snd hrow⟩

theorem two_weeks (tick n m : Int) (hfirst : 0 ≤ tick) (hweek : tick ≤ 7)
    (hn : billed 7 (shown tick) = some [("ol_1", n)])
    (hm : billed 14 (closed 7 (shown tick)) = some [("ol_1", m)]) :
    ∃ ws, plainPress.History "ol_1" (closed 14 (closed 7 (shown tick))) 14
        ((closed 7 (shown tick)).repo.exposuresOf "ol_1") ws ∧
      (ws.map Week.impressions).sum = n + m ∧
      ws.dropLast.map Week.toClosing =
        [⟨0, 7, ∅, (shown tick).repo.exposuresOf "ol_1"⟩] := by
  obtain ⟨row₁, hclose₁, hlive₁, hbill₁⟩ := closed_row hn
  obtain ⟨row₂, hclose₂, hlive₂, hbill₂⟩ := closed_row hm
  have hstart : plainPress.History "ol_1" newsstand 0 ∅ [] := .start _ rfl
  have hlisted : ∀ a ∈ [bulletin], (newsstand.repo.outletOf a.articleId).isSome = true := by decide
  have hshown := hstart.distribute hfirst hlisted
  have hone := hshown.closeBooks hweek rfl hclose₁ List.mem_cons_self hlive₁
  have hlater : (7 : Int) ≤ 14 := by decide
  have htwo := hone.closeBooks hlater rfl hclose₂ List.mem_cons_self hlive₂
  refine ⟨_, htwo, ?_, rfl⟩
  simp [hbill₁, hbill₂]

theorem midweek_bulletin_billed_once :
    ∃ ws, plainPress.History "ol_1" (closed 14 (closed 7 (shown 3))) 14
        ((closed 7 (shown 3)).repo.exposuresOf "ol_1") ws ∧
      (ws.map Week.impressions).sum = 1 := by
  obtain ⟨ws, hrun, -, hlast⟩ := two_weeks 3 1 0 (by decide) (by decide)
    (by decide +kernel) (by decide +kernel)
  have honce := (impressions_billed_once_iff hrun).mpr (by
    intro w hw e he
    have hmem := List.mem_map_of_mem (f := Week.toClosing) hw
    rw [hlast] at hmem
    have hclosing := List.mem_singleton.mp hmem
    rw [hclosing] at he ⊢
    revert e
    decide +kernel)
  refine ⟨ws, hrun, honce.1.trans ?_⟩
  decide +kernel

theorem closing_day_bulletin_billed_twice :
    ∃ ws, plainPress.History "ol_1" (closed 14 (closed 7 (shown 7))) 14
        ((closed 7 (shown 7)).repo.exposuresOf "ol_1") ws ∧
      (ws.map Week.impressions).sum = 2 ∧
      ((closed 7 (shown 7)).repo.exposuresOf "ol_1").card = 1 := by
  obtain ⟨ws, hrun, hsum, -⟩ := two_weeks 7 1 1 (by decide) (by decide)
    (by decide +kernel) (by decide +kernel)
  exact ⟨ws, hrun, hsum, by decide +kernel⟩

end Closed

end NewsCycle

end Polis.Society
