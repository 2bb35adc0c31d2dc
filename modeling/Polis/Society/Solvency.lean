/-
  Polis.Society.Solvency — what a council session does to the overlays to come
  (`PolicyEngine.admissible` and `council_session`, `society/policy.py`).

  Every proposal is projected alone, over the values in force at the session.

  Main results:
    * `overlayAt_eq_ok` — the keys and the values of an overlay.
    * `afterSession` — what a session adds to the overlay was judged sound.
    * `fiscal_composes` — an overlay to come that differs from the one judged by
      nothing else is sound.
-/
import Polis.Society.PolicyRuns
import Mathlib.Data.List.Dedup

namespace Polis.Society

open Lib Lib.Effect Polis.Events

/-! ## Overlays -/

theorem mapM_rows_eq_ok {names : List String} {f : String → Except PyError Value}
    {rows : List (String × Value)}
    (h : (names.mapM fun name => do pure (name, ← f name)) = .ok rows) :
    rows.map Prod.fst = names ∧ ∀ row ∈ rows, f row.1 = .ok row.2 := by
  induction names generalizing rows with
  | nil =>
    cases h
    exact ⟨rfl, fun _ hrow => by cases hrow⟩
  | cons name names ih =>
    rw [List.mapM_cons] at h
    obtain ⟨row, hrow, h⟩ := except_bind_eq_ok.mp h
    obtain ⟨v, hv, hpair⟩ := except_bind_eq_ok.mp hrow
    cases hpair
    obtain ⟨rest, hrest, h⟩ := except_bind_eq_ok.mp h
    cases h
    obtain ⟨hnames, hrows⟩ := ih hrest
    refine ⟨by rw [List.map_cons, hnames], ?_⟩
    intro r hr
    rcases List.mem_cons.mp hr with rfl | hr
    · exact hv
    · exact hrows r hr

theorem mapM_rows_of_ok {names : List String} {f : String → Except PyError Value}
    (h : ∀ name ∈ names, ∃ v, f name = .ok v) :
    ∃ rows, (names.mapM fun name => do pure (name, ← f name)) = .ok rows := by
  induction names with
  | nil => exact ⟨[], rfl⟩
  | cons name names ih =>
    obtain ⟨v, hv⟩ := h name List.mem_cons_self
    obtain ⟨rest, hrest⟩ := ih fun n hn => h n (List.mem_cons_of_mem _ hn)
    refine ⟨(name, v) :: rest, ?_⟩
    rw [List.mapM_cons, hv, hrest]
    rfl

namespace PolicyEngine

variable (E : PolicyEngine)

/-- The parameters of the registry, sorted. -/
def names : List String := (E.registry.map PolicySpec.parameter).insertionSort (· ≤ ·)

/-- The overlay at a tick: what a proposal is put into. -/
def overlayAt (runtime : RuntimeConfig) (tick : Int) : Except PyError (Dict String Value) := do
  let rows ← E.names.mapM fun name => do pure (name, ← runtime.get E.base name tick)
  let snapshot ← runtime.asOf E.base tick
  pure ((Dict.ofList rows).update snapshot)

theorem proposedOverlay_eq (runtime : RuntimeConfig) (p : Proposal) (tick : Int) :
    E.proposedOverlay runtime p tick = (E.overlayAt runtime tick >>= fun overlay =>
      pure (overlay.put p.parameter p.proposedValue)) := by
  unfold proposedOverlay overlayAt
  simp only [bind_assoc, pure_bind]
  rfl

/-- The keys of an overlay: the registry, then the other keys of a snapshot. -/
def overlayKeys (runtime : RuntimeConfig) : List String :=
  E.names ++ (runtime.snapshotKeys E.base).filter fun k => k ∉ E.names

theorem names_nodup : E.names.Nodup := by
  have hregistry : (E.registry.map PolicySpec.parameter).Nodup :=
    (List.filter_sublist.map PolicySpec.parameter).nodup parameters_distinct
  exact (List.perm_insertionSort _ _).nodup_iff.mpr hregistry

theorem mem_names {parameter : String} {spec : PolicySpec}
    (h : specOf E.registry parameter = some spec) : parameter ∈ E.names := by
  apply (List.mem_insertionSort _).mpr
  have hparameter := List.find?_some h
  rw [← of_decide_eq_true hparameter]
  exact List.mem_map_of_mem (List.mem_of_find?_eq_some h)

end PolicyEngine

theorem RuntimeConfig.snapshotKeys_nodup (base : Base) (r : RuntimeConfig) :
    (r.snapshotKeys base).Nodup :=
  (List.perm_insertionSort _ _).nodup_iff.mpr (List.nodup_dedup _)

theorem RuntimeConfig.mem_snapshotKeys {base : Base} {r : RuntimeConfig} {k : String} :
    k ∈ r.snapshotKeys base ↔ k ∈ base.policyKeys ∨ k ∈ r.history.keys := by
  unfold snapshotKeys
  rw [List.mem_insertionSort, List.mem_dedup, List.mem_append]

namespace PolicyEngine

variable (E : PolicyEngine)

/-- An overlay with the values a runtime has at a tick. -/
structure Reads (runtime : RuntimeConfig) (tick : Int) (overlay : Dict String Value) : Prop where
  keys : overlay.keys = E.overlayKeys runtime
  values : ∀ k ∈ overlay.keys, ∃ v, runtime.get E.base k tick = .ok v ∧
    overlay.get? k = some v

theorem overlayAt_eq_ok {runtime : RuntimeConfig} {tick : Int} {overlay : Dict String Value}
    (h : E.overlayAt runtime tick = .ok overlay) : E.Reads runtime tick overlay := by
  obtain ⟨rows, hrows, h⟩ := except_bind_eq_ok.mp h
  obtain ⟨snapshot, hsnapshot, h⟩ := except_bind_eq_ok.mp h
  cases h
  obtain ⟨taken, htaken, hpure⟩ := except_bind_eq_ok.mp hsnapshot
  cases hpure
  obtain ⟨hnames, hvalues⟩ := mapM_rows_eq_ok hrows
  obtain ⟨hkeys, htook⟩ := mapM_rows_eq_ok htaken
  have hlist : (Dict.ofList rows).entries = rows := by
    apply Dict.entries_ofList
    rw [hnames]
    exact E.names_nodup
  have hsnap : (Dict.ofList taken).entries = taken := by
    apply Dict.entries_ofList
    rw [hkeys]
    exact runtime.snapshotKeys_nodup E.base
  have hlistKeys : (Dict.ofList rows).keys = E.names := by
    unfold Dict.keys
    rw [hlist, hnames]
  have hsnapKeys : (Dict.ofList taken).keys = runtime.snapshotKeys E.base := by
    unfold Dict.keys
    rw [hsnap, hkeys]
  have hall : ((Dict.ofList rows).update (Dict.ofList taken)).keys = E.overlayKeys runtime := by
    rw [Dict.keys_update_eq, hlistKeys, hsnapKeys]
    rfl
  refine ⟨hall, ?_⟩
  intro k hk
  rw [Dict.get?_update]
  cases hget : (Dict.ofList taken).get? k with
  | some v =>
    have hmem := Dict.mem_entries_iff.mpr hget
    rw [hsnap] at hmem
    exact ⟨v, htook _ hmem, rfl⟩
  | none =>
    -- a key that the snapshot lacks is one of the registry
    rw [Dict.keys_update_eq, List.mem_append] at hk
    rcases hk with hk | hk
    · obtain ⟨v, hv⟩ := Dict.mem_keys_iff.mp hk
      have hmem := Dict.mem_entries_iff.mpr hv
      rw [hlist] at hmem
      exact ⟨v, hvalues _ hmem, hv⟩
    · obtain ⟨v, hv⟩ := Dict.mem_keys_iff.mp (List.mem_filter.mp hk).1
      rw [hget] at hv
      cases hv

theorem overlayAt_of_ok {runtime : RuntimeConfig} {tick : Int}
    (h : ∀ k ∈ E.overlayKeys runtime, ∃ v, runtime.get E.base k tick = .ok v) :
    ∃ overlay, E.overlayAt runtime tick = .ok overlay := by
  have hnames : ∀ k ∈ E.names, ∃ v, runtime.get E.base k tick = .ok v :=
    fun k hk => h k (List.mem_append_left _ hk)
  have hkeys : ∀ k ∈ runtime.snapshotKeys E.base, ∃ v, runtime.get E.base k tick = .ok v := by
    intro k hk
    by_cases hname : k ∈ E.names
    · exact hnames k hname
    · exact h k (List.mem_append_right _ (List.mem_filter.mpr ⟨hk, by simpa using hname⟩))
  obtain ⟨rows, hrows⟩ := mapM_rows_of_ok hnames
  obtain ⟨taken, htaken⟩ := mapM_rows_of_ok hkeys
  unfold overlayAt RuntimeConfig.asOf
  rw [hrows, htaken]
  exact ⟨_, rfl⟩

theorem Reads.unique {r r' : RuntimeConfig} {t t' : Int} {o o' : Dict String Value}
    (h : E.Reads r t o) (h' : E.Reads r' t' o') (hkeys : E.overlayKeys r' = E.overlayKeys r)
    (hsame : ∀ k, r'.get E.base k t' = r.get E.base k t) : o' = o := by
  have hall : o'.keys = o.keys := by rw [h'.keys, hkeys, ← h.keys]
  apply Dict.ext_keys hall
  intro k
  by_cases hk : k ∈ o.keys
  · obtain ⟨v, hv, hget⟩ := h.values k hk
    obtain ⟨v', hv', hget'⟩ := h'.values k (hall ▸ hk)
    rw [hsame, hv] at hv'
    cases hv'
    rw [hget, hget']
  · have hnone : ∀ d : Dict String Value, k ∉ d.keys → d.get? k = none :=
      fun d hd => Dict.lookup_eq_none hd
    rw [hnone o hk, hnone o' (hall ▸ hk)]

/-! ## Sound overlays -/

/-- An overlay satisfies P-MONEY and P-SOLVENCY, as the projector judges at a
tick. -/
structure Sound (fiscal : FiscalProjector) (overlay : Dict String Value) (tick : Int) : Prop where
  money : fiscal.moneyDelta overlay E.clock.ticksPerSimYear tick = 0
  solvency : ∃ v ceiling, overlay.get? "government.debt_ceiling_cents" = some v ∧
    pyInt v = .ok ceiling ∧
    -ceiling ≤ fiscal.projectedBalance overlay E.clock.ticksPerSimYear tick

theorem sound_of_fiscallyAdmissible {runtime : RuntimeConfig} {fiscal : FiscalProjector}
    {p : Proposal} {tick : Int} {a : Admissibility}
    (h : E.fiscallyAdmissible runtime fiscal p tick = .ok a) (ha : a.admissible = true)
    (hceiling : "government.debt_ceiling_cents" ∈ E.names) :
    ∃ overlay, E.overlayAt runtime tick = .ok overlay ∧
      E.Sound fiscal (overlay.put p.parameter p.proposedValue) tick := by
  unfold fiscallyAdmissible at h
  obtain ⟨proposed, hproposed, h⟩ := except_bind_eq_ok.mp h
  rw [proposedOverlay_eq] at hproposed
  obtain ⟨overlay, hoverlay, hput⟩ := except_bind_eq_ok.mp hproposed
  cases hput
  refine ⟨overlay, hoverlay, ?_⟩
  split at h
  · cases h
    cases ha
  · rename_i hmoney
    obtain ⟨fallback, -, h⟩ := except_bind_eq_ok.mp h
    obtain ⟨ceiling, hnumber, h⟩ := except_bind_eq_ok.mp h
    split at h
    · cases h
      cases ha
    · rename_i hsolvent
      refine ⟨not_not.mp hmoney, ?_⟩
      -- the ceiling is a parameter of the registry, so it is in the overlay
      have hkey : ∃ v, (overlay.put p.parameter p.proposedValue).get?
          "government.debt_ceiling_cents" = some v := by
        rw [Dict.get?_put]
        split
        · exact ⟨_, rfl⟩
        · apply Dict.mem_keys_iff.mp
          rw [(E.overlayAt_eq_ok hoverlay).keys]
          exact List.mem_append_left _ hceiling
      obtain ⟨v, hv⟩ := hkey
      unfold Dict.getD at hnumber
      rw [hv] at hnumber
      exact ⟨v, ceiling, hv, hnumber, not_lt.mp hsolvent⟩

theorem ceiling_mem_names : "government.debt_ceiling_cents" ∈ E.names := by
  apply (List.mem_insertionSort _).mpr
  have hrow : ∃ row ∈ POLICY_REGISTRY, row.parameter = "government.debt_ceiling_cents" ∧
      row.enabledWhen = none := by decide +kernel
  obtain ⟨row, hrow, hparameter, henabled⟩ := hrow
  rw [← hparameter]
  apply List.mem_map_of_mem
  apply List.mem_filter.mpr
  refine ⟨hrow, ?_⟩
  rw [henabled]
  rfl

theorem sound_of_admissible {runtime : RuntimeConfig} {polity : Polity} {p : Proposal}
    {tick : Int} {a : Admissibility} (h : E.admissible runtime polity p tick = .ok a)
    (ha : a.admissible = true) :
    ∃ overlay, E.overlayAt runtime tick = .ok overlay ∧
      E.Sound polity.fiscal (overlay.put p.parameter p.proposedValue) tick := by
  have hfiscal : E.fiscallyAdmissible runtime polity.fiscal p tick = .ok a := by
    unfold admissible at h
    by_cases hforbidden : isForbidden p.parameter = true
    · rw [if_pos hforbidden] at h
      cases h
      cases ha
    rw [if_neg hforbidden] at h
    obtain ⟨failure, -, h⟩ := except_bind_eq_ok.mp h
    split at h
    · cases h
      cases ha
    · cases h
    · split at h
      · cases h
        cases ha
      split at h
      · cases h
        cases ha
      split at h
      · cases h
        cases ha
      exact h
  exact E.sound_of_fiscallyAdmissible hfiscal ha E.ceiling_mem_names

/-! ## A session -/

/-- An enactment was judged over the values in force at the session. -/
structure Judged (fiscal : FiscalProjector) (s : PolicyState) (tick : Int) (e : Enactment) :
    Prop where
  known : e.parameter ∈ E.names
  sound : ∃ overlay, E.Reads s.runtime tick overlay ∧
    E.Sound fiscal (overlay.put e.parameter e.value) tick

/-- What a session does to the overlay. -/
structure AfterSession (fiscal : FiscalProjector) (tick : Int) (s u : PolicyState) : Prop where
  keys : E.overlayKeys u.runtime = E.overlayKeys s.runtime
  now : ∀ k, u.runtime.get E.base k tick = s.runtime.get E.base k tick
  enacted : ∀ k, ∀ e ∈ u.runtime.of k, e ∈ s.runtime.of k ∨
    (e.parameter = k ∧ E.Judged fiscal s tick e)

theorem AfterSession.quiet {E : PolicyEngine} {fiscal : FiscalProjector} {tick : Int}
    {s u u' : PolicyState} (h : E.AfterSession fiscal tick s u) (hq : Quiet u u') :
    E.AfterSession fiscal tick s u' := by
  refine ⟨?_, ?_, ?_⟩
  · rw [hq.runtime]
    exact h.keys
  · intro k
    rw [hq.runtime]
    exact h.now k
  · intro k e he
    rw [hq.runtime] at he
    exact h.enacted k e he

theorem overlayKeys_record {e : Enactment} (h : e.parameter ∈ E.names) (r : RuntimeConfig) :
    E.overlayKeys (r.record e) = E.overlayKeys r := by
  unfold overlayKeys
  congr 1
  have hmem : ∀ k, k ∈ (r.record e).snapshotKeys E.base ↔
      k ∈ r.snapshotKeys E.base ∨ k = e.parameter := by
    intro k
    rw [RuntimeConfig.mem_snapshotKeys, RuntimeConfig.mem_snapshotKeys]
    have hkeys : k ∈ (r.record e).history.keys ↔ k = e.parameter ∨ k ∈ r.history.keys :=
      Dict.mem_keys_putEntry
    rw [hkeys]
    constructor
    · rintro (hk | hk | hk)
      · exact Or.inl (Or.inl hk)
      · exact Or.inr hk
      · exact Or.inl (Or.inr hk)
    · rintro ((hk | hk) | hk)
      · exact Or.inl hk
      · exact Or.inr (Or.inr hk)
      · exact Or.inr (Or.inl hk)
  have hsorted : ∀ r : RuntimeConfig,
      ((r.snapshotKeys E.base).filter fun k => k ∉ E.names).Pairwise (· ≤ ·) := by
    intro r
    have hkeys : (r.snapshotKeys E.base).Pairwise (· ≤ ·) := List.pairwise_insertionSort _ _
    exact hkeys.filter _
  have hnodup : ∀ r : RuntimeConfig,
      ((r.snapshotKeys E.base).filter fun k => k ∉ E.names).Nodup :=
    fun r => (r.snapshotKeys_nodup E.base).filter _
  apply List.Perm.eq_of_pairwise (fun a b _ _ hab hba => le_antisymm hab hba) (hsorted _)
    (hsorted _)
  apply (List.perm_ext_iff_of_nodup (hnodup _) (hnodup _)).mpr
  intro k
  rw [List.mem_filter, List.mem_filter, hmem]
  constructor
  · rintro ⟨hk | rfl, hout⟩
    · exact ⟨hk, hout⟩
    · exact absurd h (of_decide_eq_true hout)
  · rintro ⟨hk, hout⟩
    exact ⟨Or.inl hk, hout⟩

theorem AfterSession.turn [CanonicalJson Value] [Sha256] [PayloadSchemas Value] [Uuid5]
    [FloatValue] {E : PolicyEngine} {t : Turn} {s : PolicyState}
    (h : E.AfterSession t.polity.fiscal t.tick s t.before) :
    E.AfterSession t.polity.fiscal t.tick s (E.after t) := by
  rcases E.consider_effect t with hq | ⟨hc, e, he⟩
  · exact h.quiet hq
  obtain ⟨a, ha, hadm⟩ := hc.admissible
  obtain ⟨spec, hspec, -⟩ := hc.vote
  obtain ⟨overlay, hoverlay, hsound⟩ := E.sound_of_admissible ha hadm
  have hreads := E.overlayAt_eq_ok hoverlay
  have hname : e.parameter ∈ E.names := by
    rw [he.parameter]
    exact E.mem_names hspec
  have hlater : t.tick < e.effectiveTick := effectiveTickFor_lt he.effective
  refine ⟨?_, ?_, ?_⟩
  · rw [he.runtime, E.overlayKeys_record hname]
    exact h.keys
  · intro k
    rw [he.runtime, RuntimeConfig.get_record_of_lt E.base fun _ => hlater]
    exact h.now k
  · intro k e' he'
    rw [he.runtime] at he'
    rcases RuntimeConfig.mem_of_record.mp he' with hold | ⟨hk, rfl⟩
    · exact h.enacted k e' hold
    · right
      refine ⟨hk.symm, hname, overlay, ⟨?_, ?_⟩, ?_⟩
      · rw [hreads.keys, h.keys]
      · intro j hj
        obtain ⟨v, hv, hget⟩ := hreads.values j hj
        exact ⟨v, by rw [← h.now, hv], hget⟩
      · rw [he.parameter, he.value]
        exact hsound

section Sessions

variable [CanonicalJson Value] [Sha256] [PayloadSchemas Value] [Uuid5] [FloatValue]

theorem afterSession (polity : Polity) (tick : Int) (s : PolicyState) :
    E.AfterSession polity.fiscal tick s (stateAfter (E.councilSession polity tick s)) := by
  have hstart : E.AfterSession polity.fiscal tick s s := ⟨rfl, fun _ => rfl, fun _ _ he => Or.inl he⟩
  unfold councilSession
  rw [get_bind]
  apply gather_invariant _ hstart
  intro v _ hv
  exact AfterSession.turn (t := ⟨polity, tick, v.1, v.2⟩) hv

/-- At a later tick the session shows nowhere, or in one parameter only while
every other has the value it had at the session. -/
def OneChange (s s' : PolicyState) (tick later : Int) : Prop :=
  (∀ k, s'.runtime.get E.base k later = s.runtime.get E.base k later) ∨
  ∃ k, ∃ e ∈ s'.runtime.of k, e ∉ s.runtime.of k ∧
    s'.runtime.get E.base k later = .ok e.value ∧
    ∀ j, j ≠ k → s'.runtime.get E.base j later = s.runtime.get E.base j tick

/-- **Fiscal admissibility composes** as far as the proposals were projected: at
every later tick at which the session shows nowhere, or in one parameter over the
values that were in force, the overlay is sound if the overlays before were. -/
theorem fiscal_composes (polity : Polity) (tick : Int) (s : PolicyState)
    (hbefore : ∀ later, tick ≤ later → ∀ overlay, E.overlayAt s.runtime later = .ok overlay →
      E.Sound polity.fiscal overlay tick)
    (later : Int) (hlater : tick < later) (overlay : Dict String Value)
    (hoverlay : E.overlayAt (stateAfter (E.councilSession polity tick s)).runtime later
      = .ok overlay)
    (hone : E.OneChange s (stateAfter (E.councilSession polity tick s)) tick later) :
    E.Sound polity.fiscal overlay tick := by
  have hafter := E.afterSession polity tick s
  have hreads := E.overlayAt_eq_ok hoverlay
  rcases hone with hsame | ⟨k, e, he, hnew, hvalue, hothers⟩
  · -- the overlay is the one there would have been
    have hexists : ∃ o, E.overlayAt s.runtime later = .ok o := by
      apply E.overlayAt_of_ok
      intro j hj
      rw [← hafter.keys, ← hreads.keys] at hj
      obtain ⟨v, hv, -⟩ := hreads.values j hj
      exact ⟨v, by rw [← hsame, hv]⟩
    obtain ⟨o, ho⟩ := hexists
    rw [(E.overlayAt_eq_ok ho).unique E hreads hafter.keys hsame]
    exact hbefore later hlater.le o ho
  · -- the overlay is the one the proposal was judged with
    rcases hafter.enacted k e he with hold | ⟨rfl, hjudged⟩
    · exact absurd hold hnew
    obtain ⟨o, ho, hsound⟩ := hjudged.sound
    have hkey : e.parameter ∈ o.keys := by
      rw [ho.keys]
      exact List.mem_append_left _ hjudged.known
    have hkeys : overlay.keys = (o.put e.parameter e.value).keys := by
      rw [Dict.keys_put o e.value hkey, hreads.keys, hafter.keys, ho.keys]
    have heq : overlay = o.put e.parameter e.value := by
      apply Dict.ext_keys hkeys
      intro j
      rw [Dict.get?_put]
      by_cases hj : j = e.parameter
      · rw [if_pos hj, hj]
        have hmem : e.parameter ∈ overlay.keys := by
          rw [hkeys, Dict.keys_put o e.value hkey]
          exact hkey
        obtain ⟨v, hv, hget⟩ := hreads.values _ hmem
        rw [hvalue] at hv
        cases hv
        exact hget
      · rw [if_neg hj]
        by_cases hin : j ∈ o.keys
        · obtain ⟨v, hv, hget⟩ := ho.values j hin
          have hmem : j ∈ overlay.keys := by
            rw [hkeys, Dict.keys_put o e.value hkey]
            exact hin
          obtain ⟨v', hv', hget'⟩ := hreads.values j hmem
          rw [hothers j hj, hv] at hv'
          cases hv'
          rw [hget, hget']
        · have hout : j ∉ overlay.keys := by
            rw [hkeys, Dict.keys_put o e.value hkey]
            exact hin
          have hnone : ∀ d : Dict String Value, j ∉ d.keys → d.get? j = none :=
            fun d hd => Dict.lookup_eq_none hd
          rw [hnone o hin, hnone overlay hout]
    rw [heq]
    exact hsound

end Sessions

end PolicyEngine

/-! ## Two budgets -/

section Closed

attribute [local instance] blankJson blankDigest anySchema ratioValue plainUuid

/-- The number a parameter has in an overlay. -/
def centsIn (overlay : Dict String Value) (key : String) : Int :=
  match overlay.get? key with
  | some (.int n) => n
  | _ => 0

/-- A treasury with a revenue of a hundred cents and two budgets. -/
def hundredRevenue : FiscalProjector := fun overlay _ _ =>
  { projectedRevenueCents := 100
    projectedOutlayCents := centsIn overlay "police.budget_cents"
      + centsIn overlay "courts.budget_cents" }

/-- A council of one that votes for everything. -/
def agreeing : Polity where
  holdsOffice := fun _ _ => none
  holder := fun office _ => if office = "council" then some (.one "ag_c") else none
  fiscal := hundredRevenue
  voteProvider := fun _ _ => "aye"

/-- An engine whose settings are all zero. -/
def zeroEngine : PolicyEngine where
  journal := plainJournal
  base := { policyKeys := [], resolve := fun _ => some (.int 0) }
  settingFlag := fun _ => false
  campaignLengthSimDays := 30
  councilSeats := 7

/-- A proposal to spend sixty cents. -/
def sixtyCents (proposalId parameter : String) : Proposal :=
  { proposalId, proposerId := "ag_c", parameter, oldValue := .int 0, proposedValue := .int 60,
    rationale := "", cosigners := [], proposedTick := 0 }

/-- Some pending proposals, and nothing enacted. -/
def proposing (proposals : List Proposal) : PolicyState :=
  zeroEngine.run (PolicyState.start "" 0) (proposals.map .propose)

/-- The overlay after a session on some proposals. -/
def sessionOf (proposals : List Proposal) : PolicyState :=
  stateAfter (zeroEngine.councilSession agreeing 1 (proposing proposals))

theorem proposing_runtime (proposals : List Proposal) : (proposing proposals).runtime = {} := by
  have hrun : ∀ s : PolicyState, (zeroEngine.run s (proposals.map .propose)).runtime = s.runtime := by
    induction proposals with
    | nil => exact fun _ => rfl
    | cons p ps ih =>
      intro s
      show (zeroEngine.run (stateAfter (zeroEngine.propose p s)) (ps.map .propose)).runtime = _
      rw [ih]
      exact (zeroEngine.leaves_propose p s).runtime
  exact hrun _

/-- The money delta, the projected balance and the debt ceiling of an overlay. -/
def readOverlay (overlay : Except PyError (Dict String Value)) : Option (Int × Int × Int) :=
  match overlay with
  | .ok o =>
    match o.get? "government.debt_ceiling_cents" with
    | some (.int ceiling) =>
      some (hundredRevenue.moneyDelta o 360 1, hundredRevenue.projectedBalance o 360 1, ceiling)
    | _ => none
  | .error _ => none

theorem sound_of_readOverlay {overlay : Except PyError (Dict String Value)}
    {o : Dict String Value} (ho : overlay = .ok o) {delta balance ceiling : Int}
    (h : readOverlay overlay = some (delta, balance, ceiling)) :
    zeroEngine.Sound hundredRevenue o 1 ↔ delta = 0 ∧ -ceiling ≤ balance := by
  subst ho
  unfold readOverlay at h
  dsimp only at h
  split at h
  · rename_i c hget
    simp only [Option.some.injEq, Prod.mk.injEq] at h
    obtain ⟨hdelta, hbalance, hceiling⟩ := h
    subst hdelta hbalance hceiling
    constructor
    · intro ⟨hmoney, v, c', hget', hnumber, hsolvent⟩
      rw [hget] at hget'
      cases hget'
      cases hnumber
      exact ⟨hmoney, hsolvent⟩
    · intro ⟨hmoney, hsolvent⟩
      exact ⟨hmoney, _, c, hget, rfl, hsolvent⟩
  · cases h

theorem emptyOverlay_eq : readOverlay (zeroEngine.overlayAt {} 1) = some (0, 100, 0) := by
  decide +kernel

theorem proposing_sound (proposals : List Proposal) (later : Int) (overlay : Dict String Value)
    (h : zeroEngine.overlayAt (proposing proposals).runtime later = .ok overlay) :
    zeroEngine.Sound hundredRevenue overlay 1 := by
  rw [proposing_runtime] at h
  have hsame : zeroEngine.overlayAt {} later = zeroEngine.overlayAt {} 1 := rfl
  rw [hsame] at h
  apply (sound_of_readOverlay h emptyOverlay_eq).mpr
  omega

/-- Two budgets that the revenue covers one by one. -/
def twoBudgets : List Proposal :=
  [sixtyCents "p1" "police.budget_cents", sixtyCents "p2" "courts.budget_cents"]

theorem twoBudgets_eq :
    readOverlay (zeroEngine.overlayAt (sessionOf twoBudgets).runtime 40) = some (0, -20, 0) := by
  decide +kernel

theorem fiscal_composes_fails :
    (∀ later, 1 ≤ later → ∀ overlay,
      zeroEngine.overlayAt (proposing twoBudgets).runtime later = .ok overlay →
      zeroEngine.Sound agreeing.fiscal overlay 1) ∧
    ∃ overlay, zeroEngine.overlayAt
        (stateAfter (zeroEngine.councilSession agreeing 1 (proposing twoBudgets))).runtime 40
          = .ok overlay ∧
      ¬zeroEngine.Sound agreeing.fiscal overlay 1 := by
  refine ⟨fun later _ overlay h => proposing_sound twoBudgets later overlay h, ?_⟩
  have hread := twoBudgets_eq
  cases hoverlay : zeroEngine.overlayAt (sessionOf twoBudgets).runtime 40 with
  | error e =>
    rw [hoverlay] at hread
    cases hread
  | ok overlay =>
    refine ⟨overlay, hoverlay, ?_⟩
    intro hsound
    have := (sound_of_readOverlay hoverlay hread).mp hsound
    omega

/-- One budget. -/
def oneBudget : List Proposal := [sixtyCents "p1" "police.budget_cents"]

/-- The parameters with an enactment after the session, and the values of the
budget's enactments and at tick 40. -/
def oneReading : List String × List Int × Option Int :=
  ((sessionOf oneBudget).runtime.history.keys,
    ((sessionOf oneBudget).runtime.of "police.budget_cents").map fun e =>
      match e.value with
      | .int n => n
      | _ => 0,
    match (sessionOf oneBudget).runtime.get zeroEngine.base "police.budget_cents" 40 with
    | .ok (.int n) => some n
    | _ => none)

theorem oneReading_eq : oneReading = (["police.budget_cents"], [60], some 60) := by
  decide +kernel

theorem oneBudget_eq :
    readOverlay (zeroEngine.overlayAt (sessionOf oneBudget).runtime 40) = some (0, 40, 0) := by
  decide +kernel

theorem get_of_empty (r : RuntimeConfig) {k : String} (h : r.of k = []) (tick : Int) :
    r.get zeroEngine.base k tick = .ok (.int 0) := by
  have hnone : r.candidates k tick = [] := by
    unfold RuntimeConfig.candidates
    rw [h]
    rfl
  unfold RuntimeConfig.get
  rw [hnone]
  rfl

theorem sessionOf_oneBudget_of {k : String} (h : k ≠ "police.budget_cents") :
    (sessionOf oneBudget).runtime.of k = [] := by
  have hkeys : (sessionOf oneBudget).runtime.history.keys = ["police.budget_cents"] :=
    congrArg Prod.fst oneReading_eq
  have hout : k ∉ (sessionOf oneBudget).runtime.history.keys := by
    rw [hkeys]
    simpa using h
  unfold RuntimeConfig.of Dict.getD
  rw [show (sessionOf oneBudget).runtime.history.get? k = none from Dict.lookup_eq_none hout]
  rfl

theorem oneBudget_oneChange :
    zeroEngine.OneChange (proposing oneBudget) (sessionOf oneBudget) 1 40 := by
  have hempty : ∀ k, (proposing oneBudget).runtime.of k = [] := by
    intro k
    rw [proposing_runtime]
    rfl
  have hvalues : ((sessionOf oneBudget).runtime.of "police.budget_cents").map (fun e =>
      match e.value with
      | .int n => n
      | _ => 0) = [60] := congrArg (fun x => x.2.1) oneReading_eq
  have hget : (match (sessionOf oneBudget).runtime.get zeroEngine.base "police.budget_cents" 40
      with
      | .ok (.int n) => some n
      | _ => none) = some 60 := congrArg (fun x => x.2.2) oneReading_eq
  obtain ⟨e, rest, hof, hsixty, -⟩ := List.map_eq_cons_iff.mp hvalues
  have hvalue : e.value = .int 60 := by
    split at hsixty
    · rename_i n hn
      rw [hn, hsixty]
    · cases hsixty
  right
  refine ⟨"police.budget_cents", e, ?_, ?_, ?_, ?_⟩
  · rw [hof]
    exact List.mem_cons_self
  · rw [hempty]
    exact List.not_mem_nil
  · rw [hvalue]
    split at hget
    · rename_i n hn
      cases hget
      exact hn
    · cases hget
  · intro j hj
    rw [get_of_empty _ (sessionOf_oneBudget_of hj), get_of_empty _ (hempty j)]

theorem fiscal_composes_once :
    ∃ overlay, zeroEngine.overlayAt (sessionOf oneBudget).runtime 40 = .ok overlay ∧
      zeroEngine.Sound agreeing.fiscal overlay 1 := by
  have hread := oneBudget_eq
  cases hoverlay : zeroEngine.overlayAt (sessionOf oneBudget).runtime 40 with
  | error e =>
    rw [hoverlay] at hread
    cases hread
  | ok overlay =>
    exact ⟨overlay, rfl, zeroEngine.fiscal_composes agreeing 1 (proposing oneBudget)
      (fun later _ o h => proposing_sound oneBudget later o h) 40 (by decide) overlay hoverlay
      oneBudget_oneChange⟩

end Closed

end Polis.Society
