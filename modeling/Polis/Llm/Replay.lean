/-
  Polis.Llm.Replay — a replay over the completions a live run left
  (`llm/router.py`, `llm/cache.py`).

  A replay has no lanes: it keys a lookup by the names in the settings, where
  a live run keys it by what its provider says of itself, and it admits
  nothing.

  Main results:
    * `replay_transparent` — what a replay returns, looks up and keeps, for a
      live run that was never refused, never asked twice for a completion it
      had stored, and whose providers go by the names in the settings.
    * `refusal_unreplayable` — a refused call left nothing to replay.
-/
import Polis.Llm.Gather

namespace Polis.Llm

open Lib (Dict Coroutine)
open Lib.Coroutine (Told Served AlongServe serve)
open Polis.Events (Sha256)

section Definitions

variable [Sha256] [Uuid5] [Host]

/-! ## The two runs -/

omit [Sha256] [Uuid5] [Host] in
theorem keyed_eq_ok {α : Type} {d : Dict String α} {key : String} {x : α}
    (h : keyed d key = .ok x) : d.get? key = some x := by
  unfold keyed at h
  cases hd : d.get? key with
  | none =>
    rw [hd] at h
    cases h
  | some y =>
    rw [hd] at h
    cases h
    rfl

/-- The same router in replay mode. -/
def LLMRouter.replaying (r : LLMRouter) : LLMRouter :=
  { r with
    settings := { r.settings with cache := { r.settings.cache with mode := .replay } }
    lanes := ∅ }

/-- The calls of a run, one after another. -/
def LLMRouter.callAll (r : LLMRouter) : List CallRequest → Call (List CallResult)
  | [] => return []
  | q :: qs => do
    let result ← r.call q
    let results ← r.callAll qs
    return result :: results

/-- The keys a run looks up, in order. -/
def lookups (told : Told callSignature) : List String :=
  told.filterMap fun
    | ⟨.cacheGet key _, _⟩ => some key
    | _ => none

/-- The same result, reported by a replay. -/
def CallResult.replayed (x : CallResult) : CallResult := { x with cacheMode := .replay }

/-- The act leaves something to replay: an admission permits, and a lookup of
a completion that was stored finds it in L0. -/
def Repeatable (settings : LLMSettings) (s : RouterState) : Op → Prop
  | .cacheGet key _ => (s.cache.database.get? key).isSome → (s.cache.record? key).isSome
  | .admission line estIn estOut estUsd =>
    (s.budget.admission settings.budget line estIn estOut estUsd).1 = .ok .permit
  | _ => True

instance (settings : LLMSettings) (s : RouterState) : ∀ o, Decidable (Repeatable settings s o)
  | .cacheGet _ _ => inferInstanceAs (Decidable (_ → _))
  | .admission _ _ _ _ => inferInstanceAs (Decidable (_ = _))
  | .reportedHit _ | .beginTick _ | .charge _ _ _ _ | .cachePut _ => isTrue trivial

/-- The provider of the route's lane goes by the names a replay keys with. -/
def NamedAlike (settings : LLMSettings) (purpose : Purpose) : Prop :=
  ∀ route config lane, settings.routing.get? purpose.value = some route →
    settings.providers.get? route.lane = some config →
    buildLane settings route.lane config = .ok lane →
    lane.provider.name = route.lane ∧ lane.provider.model = config.pinned route.model

end Definitions

/-! ## Keys and results -/

section Keys

variable [Sha256] [Uuid5] [Host] {r : LLMRouter}

omit [Sha256] [Uuid5] [Host] in
theorem buildLanes_get? {settings : LLMSettings} {lanes : Dict String Lane} {name : String}
    {lane : Lane} (h : buildLanes settings = .ok lanes) (hlane : lanes.get? name = some lane) :
    ∃ config, settings.providers.get? name = some config ∧
      buildLane settings name config = .ok lane := by
  unfold buildLanes at h
  split at h
  · cases h
    cases hlane
  · have hfold : ∀ (es : List (String × LaneSettings)) (acc out : Dict String Lane),
        (∀ e ∈ es, settings.providers.get? e.1 = some e.2) →
        (∀ k l, acc.get? k = some l → ∃ config, settings.providers.get? k = some config ∧
          buildLane settings k config = .ok l) →
        es.foldlM (fun lanes e => do return lanes.put e.1 (← buildLane settings e.1 e.2)) acc
          = .ok out →
        ∀ k l, out.get? k = some l → ∃ config, settings.providers.get? k = some config ∧
          buildLane settings k config = .ok l := by
      intro es
      induction es with
      | nil =>
        intro acc out _ hacc h
        cases h
        exact hacc
      | cons e es ih =>
        intro acc out hes hacc h
        rw [List.foldlM_cons] at h
        obtain ⟨acc', hacc', h⟩ := Lib.Effect.except_bind_eq_ok.mp h
        obtain ⟨l, hl, hput⟩ := Lib.Effect.except_bind_eq_ok.mp hacc'
        cases hput
        refine ih _ out (fun x hx => hes x (List.mem_cons_of_mem _ hx)) (fun k l' hk => ?_) h
        rw [Dict.get?_put] at hk
        split at hk
        · next hke =>
          cases hk
          rw [hke]
          exact ⟨e.2, hes e List.mem_cons_self, hl⟩
        · exact hacc k l' hk
    refine hfold _ ∅ lanes (fun e he => ?_) (fun k l hk => by cases hk) h name lane hlane
    exact Dict.mem_entries_iff.mp (Dict.mem_sortedEntries.mp he)

theorem prepare_replaying {route : RouteSpec} {config : LaneSettings} (purpose : Purpose)
    (agentId : String) (tick : Int) (promptVariables : Dict String Json) (schema : Option Json)
    (hnamed : ∀ lane, r.lanes.get? route.lane = some lane →
      lane.provider.name = route.lane ∧ lane.provider.model = config.pinned route.model) :
    r.replaying.prepare route config purpose agentId tick promptVariables schema =
      r.prepare route config purpose agentId tick promptVariables schema := by
  unfold LLMRouter.prepare
  cases hlane : r.lanes.get? route.lane with
  | none => rfl
  | some lane =>
    obtain ⟨hname, hmodel⟩ := hnamed lane hlane
    simp only [Option.map_some, Option.getD_some, hname, hmodel]
    rfl

omit [Sha256] [Uuid5] in
theorem result_replaying (purpose : Purpose) (route : RouteSpec) (p : LLMRouter.Prepared)
    (response : CompletionResponse) (schema : Option Json) (cacheHit : Bool) (cost : Rat) :
    r.replaying.result purpose route p response schema cacheHit cost =
      (r.result purpose route p response schema cacheHit cost).map CallResult.replayed := by
  unfold LLMRouter.result
  cases schema with
  | none => rfl
  | some schema =>
    dsimp only
    split
    · cases extractAndValidate response.text schema with
      | error e => rfl
      | ok x => rfl
    · rfl

omit [Sha256] [Uuid5] [Host] in
theorem aggregateAttempts_replayed (earlier : List CallResult) (final : CallResult) :
    LLMRouter.aggregateAttempts (earlier.map CallResult.replayed) final.replayed =
      (LLMRouter.aggregateAttempts earlier final).replayed := by
  simp [LLMRouter.aggregateAttempts, CallResult.replayed, Function.comp_def]

omit [Sha256] [Uuid5] in
theorem repairedVariables_replayed (rendered : Dict String Json) (instruction : String)
    (last : CallResult) (attempt : Nat) :
    LLMRouter.repairedVariables rendered instruction last.replayed attempt =
      LLMRouter.repairedVariables rendered instruction last attempt :=
  rfl

end Keys

/-! ## A live run and its replay, side by side -/

/-- Every row of the one file is a row of the other. -/
def Included (d e : Dict String Row) : Prop := ∀ k row, d.get? k = some row → e.get? k = some row

section Simulation

variable [Sha256] [Uuid5] [Host]

/-- A live cache and the cache of a replay over the file `D` that its run
leaves. -/
structure Mirrors (D : Dict String Row) (c c' : CompletionCache) : Prop where
  live : c.mode = .live
  replay : c'.mode = .replay
  l0Entries : 1 ≤ c'.l0Entries
  verifyRender : c'.verifyRender = c.verifyRender
  schemaVersion : c'.schemaVersion = c.schemaVersion
  database : c'.database = D
  versions : ∀ k row, c.database.get? k = some row → row.schemaVersion = c.schemaVersion
  kept : ∀ x ∈ c.records, ∃ row, c.database.get? x.key = some row ∧ x = row.record x.key
  seen : ∀ x ∈ c'.records, ∃ row, D.get? x.key = some row ∧ x = row.record x.key
  accessed : ∀ k, 0 < c'.replayAccesses.getD k 0 ↔ (c.database.get? k).isSome
  manifest : ∀ k, c.manifest.get? k = (c.database.get? k).map Row.digest
  manifest' : ∀ k, c'.manifest.get? k = (D.get? k).map Row.digest

omit [Uuid5] in
theorem Mirrors.get_row {D : Dict String Row} {c c' : CompletionCache} (h : Mirrors D c c')
    {key renderedHash : String} {row : Row} (hrow : D.get? key = some row)
    (hversion : row.schemaVersion = c.schemaVersion)
    (hrender : c.verifyRender = true → row.renderedHash = renderedHash) :
    ∃ c'', c'.get key renderedHash = (.ok (some (row.record key)), c'') ∧
      CompletionCache.Replayed key row c' c'' := by
  refine CompletionCache.get_replay h.replay h.l0Entries (h.database ▸ hrow)
    (hversion.trans h.schemaVersion.symm) (fun x hx => ?_) (fun hv => hrender (h.verifyRender ▸ hv))
  obtain ⟨hmem, hkey⟩ := CompletionCache.mem_of_record? hx
  obtain ⟨row', hrow', hx'⟩ := h.seen x hmem
  rw [hkey, hrow, Option.some.injEq] at hrow'
  rw [hx', hkey, hrow']

omit [Uuid5] in
theorem Mirrors.looked {D : Dict String Row} {c d c' c'' : CompletionCache} (h : Mirrors D c c')
    {key : String} {row : Row} (hrow : D.get? key = some row)
    (hr : CompletionCache.Replayed key row c' c'') (hmode : d.mode = .live)
    (hverify : d.verifyRender = c.verifyRender) (hversion : d.schemaVersion = c.schemaVersion)
    (hversions : ∀ k row, d.database.get? k = some row → row.schemaVersion = d.schemaVersion)
    (hkept : ∀ x ∈ d.records, ∃ row, d.database.get? x.key = some row ∧ x = row.record x.key)
    (hmanifest : ∀ k, d.manifest.get? k = (d.database.get? k).map Row.digest)
    (hsame : ∀ k, k ≠ key → d.database.get? k = c.database.get? k)
    (hkey : (d.database.get? key).isSome) : Mirrors D d c'' where
  live := hmode
  replay := hr.mode.trans h.replay
  l0Entries := by
    rw [hr.l0Entries]
    exact h.l0Entries
  verifyRender := by rw [hr.verifyRender, h.verifyRender, hverify]
  schemaVersion := by rw [hr.schemaVersion, h.schemaVersion, hversion]
  database := hr.database.trans h.database
  versions := hversions
  kept := hkept
  seen := by
    intro x hx
    rcases hr.records x hx with rfl | hx
    · exact ⟨row, hrow, rfl⟩
    · exact h.seen x hx
  accessed := by
    intro k
    rw [hr.accesses, Dict.getD, Dict.get?_put]
    by_cases hk : k = key
    · subst hk
      simp [hkey]
    · rw [if_neg hk, hsame k hk]
      exact h.accessed k
  manifest := hmanifest
  manifest' := by
    intro k
    rcases hr.manifest with hm | hm
    · rw [hm]
      exact h.manifest' k
    · rw [hm, Dict.get?_put]
      by_cases hk : k = key
      · subst hk
        rw [if_pos rfl, hrow]
        rfl
      · rw [if_neg hk]
        exact h.manifest' k

variable (r : LLMRouter) (reply reply' : Nat → Query → Except LlmError CompletionResponse)

/-- Where the live program returns, along acts that leave something to replay,
the other program returns in the replay what `g` makes of it, with the same
lookups. -/
def Follows {α β : Type} (g : α → β) (c : Call α) (c' : Call β) : Prop :=
  ∀ n s a, s.cache.mode = .live →
    AlongServe (S := callSignature) (handle r.settings) reply (Repeatable r.settings) c n s →
    (serve (S := callSignature) (handle r.settings) reply c n s).result = .ok a →
    let x := serve (S := callSignature) (handle r.settings) reply c n s
    x.state.cache.mode = .live ∧ x.state.cache.schemaVersion = s.cache.schemaVersion ∧
    Included s.cache.database x.state.cache.database ∧
    ∀ D n' s', Included x.state.cache.database D → Mirrors D s.cache s'.cache →
      let y := serve (S := callSignature) (handle r.replaying.settings) reply' c' n' s'
      y.result = .ok (g a) ∧ y.asked = n' ∧ lookups y.told = lookups x.told ∧
        Mirrors D x.state.cache y.state.cache

variable {r reply reply'}

omit [Uuid5] in
theorem follows_ret {α β : Type} (g : α → β) (a : α) :
    Follows r reply reply' g (.ret a) (.ret (g a)) := by
  intro n s a' hlive _ ha
  cases ha
  exact ⟨hlive, rfl, fun _ _ h => h, fun D n' s' _ hM => ⟨rfl, rfl, rfl, hM⟩⟩

omit [Uuid5] in
theorem follows_raise {α β : Type} (g : α → β) (e : LlmError) (c' : Call β) :
    Follows r reply reply' g (.raise e) c' := by
  intro n s a _ _ ha
  cases ha

omit [Uuid5] in
theorem follows_bind {α β γ δ : Type} {g : α → β} {g' : γ → δ} {c : Call α} {c' : Call β}
    {f : α → Call γ} {f' : β → Call δ} (hc : Follows r reply reply' g c c')
    (hf : ∀ a, Follows r reply reply' g' (f a) (f' (g a))) :
    Follows r reply reply' g' (c >>= f) (c' >>= f') := by
  intro n s z hlive halong hz
  obtain ⟨hal, hfl⟩ := Coroutine.alongServe_bind halong
  obtain ⟨a, ha, hza⟩ := Coroutine.serve_bind_ok hz
  obtain ⟨hlive', hversion, hgrow, hsim⟩ := hc n s a hlive hal ha
  obtain ⟨hlive'', hversion', hgrow', hsim'⟩ := hf a _ _ z hlive' (hfl a ha) hza
  rw [Coroutine.serve_bind_eq ha]
  refine ⟨hlive'', hversion'.trans hversion, fun k row hk => hgrow' k row (hgrow k row hk),
    fun D n' s' hD hM => ?_⟩
  -- what the first part stored is still there at the end
  obtain ⟨hy, hasked, hlook, hM'⟩ := hsim D n' s' (fun k row hk => hD k row (hgrow' k row hk)) hM
  rw [Coroutine.serve_bind_eq hy]
  obtain ⟨hz', hasked', hlook', hM''⟩ := hsim' D _ _ hD hM'
  refine ⟨hz', hasked'.trans hasked, ?_, hM''⟩
  show lookups (_ ++ _) = lookups (_ ++ _)
  unfold lookups at hlook hlook' ⊢
  rw [List.filterMap_append, List.filterMap_append, hlook, hlook']

omit [Uuid5] in
theorem follows_ofExcept_bind {α γ δ : Type} {g : γ → δ} (x : Except LlmError α)
    {f : α → Call γ} {f' : α → Call δ}
    (hf : ∀ a, x = .ok a → Follows r reply reply' g (f a) (f' a)) :
    Follows r reply reply' g (Coroutine.ofExcept (S := callSignature) x >>= f)
      (Coroutine.ofExcept (S := callSignature) x >>= f') := by
  cases x with
  | ok a => exact hf a rfl
  | error e => exact follows_raise g e _

/-! ### One attempt -/

/-- The price of a reply. -/
def costOf (lane : Lane) (response : CompletionResponse) : Rat :=
  lane.provider.price response.tokensIn response.tokensOut response.tokensCachedIn

omit [Uuid5] in
theorem serve_ofExcept {settings : LLMSettings} {α : Type} {x : Except LlmError α} {n : Nat}
    {s : RouterState} {a : α}
    (h : (serve (S := callSignature) (handle settings) reply
      (Coroutine.ofExcept (S := callSignature) x) n s).result = .ok a) :
    x = .ok a ∧ serve (S := callSignature) (handle settings) reply
      (Coroutine.ofExcept (S := callSignature) x) n s = ⟨.ok a, n, s, []⟩ := by
  cases x with
  | error e => cases h
  | ok b =>
    cases h
    exact ⟨rfl, rfl⟩

omit [Uuid5] in
theorem settle_live {route : RouteSpec} {lane : Lane} {purpose : Purpose} {schema : Option Json}
    {p : LLMRouter.Prepared} {response : CompletionResponse} {n : Nat} {s : RouterState}
    {a : CallResult}
    (ha : (serve (S := callSignature) (handle r.settings) reply
      (r.settle route lane purpose schema p response) n s).result = .ok a) :
    r.result purpose route p response schema false (costOf lane response) = .ok a ∧
      (serve (S := callSignature) (handle r.settings) reply
        (r.settle route lane purpose schema p response) n s).state.cache =
          s.cache.put ⟨p.key, p.renderedHash, response, costOf lane response⟩ ∧
      lookups (serve (S := callSignature) (handle r.settings) reply
        (r.settle route lane purpose schema p response) n s).told = [] := by
  rw [LLMRouter.settle_eq] at ha ⊢
  rw [Coroutine.serve_act_result] at ha
  rw [Coroutine.serve_act_state, Coroutine.serve_act_told]
  generalize hcharge : handle r.settings (.charge (PURPOSE_LINE purpose) response.tokensIn
    response.tokensOut _) s = charged at ha ⊢
  have hcache : charged.2.cache = s.cache := by rw [← hcharge]; rfl
  cases hfirst : charged.1 with
  | error e =>
    rw [hfirst] at ha
    cases ha
  | ok _ =>
    rw [hfirst] at ha
    obtain ⟨hres, heq⟩ := serve_ofExcept ha
    refine ⟨hres, ?_, ?_⟩
    · refine (congrArg (fun y => y.state.cache) heq).trans ?_
      rw [← hcache]
      rfl
    · exact congrArg (fun y => lookups y.told) heq

omit [Uuid5] in
theorem complete_live {route : RouteSpec} {config : LaneSettings} {lane : Lane}
    {purpose : Purpose} {tick : Int} {schema : Option Json} {p : LLMRouter.Prepared} {n : Nat}
    {s : RouterState} {a : CallResult}
    (halong : AlongServe (S := callSignature) (handle r.settings) reply (Repeatable r.settings)
      (r.complete route config lane purpose tick schema p) n s)
    (ha : (serve (S := callSignature) (handle r.settings) reply
      (r.complete route config lane purpose tick schema p) n s).result = .ok a) :
    ∃ response, r.result purpose route p response schema false (costOf lane response) = .ok a ∧
      (serve (S := callSignature) (handle r.settings) reply
        (r.complete route config lane purpose tick schema p) n s).state.cache =
          s.cache.put ⟨p.key, p.renderedHash, response, costOf lane response⟩ ∧
      lookups (serve (S := callSignature) (handle r.settings) reply
        (r.complete route config lane purpose tick schema p) n s).told = [] := by
  rw [LLMRouter.complete_eq] at halong ha ⊢
  obtain ⟨_, hpermit, _⟩ := halong
  rw [Coroutine.serve_act_result, Coroutine.serve_act_result] at ha
  rw [Coroutine.serve_act_state, Coroutine.serve_act_told, Coroutine.serve_act_state,
    Coroutine.serve_act_told]
  generalize hadmitted : handle r.settings (.admission (PURPOSE_LINE purpose) _ _ _)
    (handle r.settings (.beginTick tick) s).2 = admitted at ha ⊢
  have hcache : admitted.2.cache = s.cache := by rw [← hadmitted]; rfl
  have hfirst : admitted.1 = .ok .permit := by rw [← hadmitted]; exact hpermit
  rw [hfirst, LLMRouter.answered_permit, Coroutine.serve_ask] at ha ⊢
  cases hreply : reply n (LLMRouter.question config lane purpose schema p) with
  | error e =>
    rw [hreply] at ha
    cases ha
  | ok response =>
    rw [hreply] at ha
    obtain ⟨hres, hput, hlook⟩ := settle_live ha
    refine ⟨response, hres, ?_, ?_⟩
    · rw [← hcache]
      exact hput
    · exact hlook

omit [Uuid5] in
theorem serve_found {settings : LLMSettings} {route : RouteSpec} {config : LaneSettings}
    {purpose : Purpose} {tick : Int} {schema : Option Json} {p : LLMRouter.Prepared} {n : Nat}
    {s : RouterState} {rec : CacheRecord} {c : CompletionCache} {a : CallResult}
    (hget : s.cache.get p.key p.renderedHash = (.ok (some rec), c))
    (hres : r.result purpose route p rec.response schema (c.reportedHit p.key) rec.costUsd
      = .ok a) :
    serve (S := callSignature) (handle settings) reply
      (.act (.cacheGet p.key p.renderedHash) (r.looked route config purpose tick schema p)) n s =
        ⟨.ok a, n, { s with cache := c },
          [⟨.cacheGet p.key p.renderedHash, .ok (some rec)⟩,
            ⟨.reportedHit p.key, c.reportedHit p.key⟩]⟩ := by
  have hhandle : handle settings (.cacheGet p.key p.renderedHash) s =
      (.ok (some rec), { s with cache := c }) := by
    show ((s.cache.get p.key p.renderedHash).1, { s with cache := (s.cache.get _ _).2 }) = _
    rw [hget]
  have hnext : serve (S := callSignature) (handle settings) reply
      (r.looked route config purpose tick schema p (.ok (some rec))) n { s with cache := c } =
        ⟨.ok a, n, { s with cache := c }, [⟨.reportedHit p.key, c.reportedHit p.key⟩]⟩ := by
    show serve (S := callSignature) _ _ (.act (.reportedHit p.key) fun hit =>
      Coroutine.ofExcept (S := callSignature)
        (r.result purpose route p rec.response schema hit rec.costUsd)) n _ = _
    simp only [serve, handle]
    rw [hres]
    rfl
  simp only [serve, hhandle]
  rw [hnext]

omit [Uuid5] in
theorem replay_found {route : RouteSpec} {config : LaneSettings} {purpose : Purpose}
    {tick : Int} {schema : Option Json} {p : LLMRouter.Prepared} {D : Dict String Row}
    {c : CompletionCache} {s : RouterState} {row : Row} {a : CallResult}
    (hM : Mirrors D c s.cache) (hrow : D.get? p.key = some row)
    (hversion : row.schemaVersion = c.schemaVersion)
    (hrender : c.verifyRender = true → row.renderedHash = p.renderedHash)
    (hres : r.result purpose route p row.response schema (c.database.get? p.key).isSome
      row.costUsd = .ok a) (n : Nat) :
    ∃ c' told, serve (S := callSignature) (handle r.replaying.settings) reply'
        (.act (.cacheGet p.key p.renderedHash)
          (r.replaying.looked route config purpose tick schema p)) n s =
        ⟨.ok a.replayed, n, { s with cache := c' }, told⟩ ∧ lookups told = [p.key] ∧
      CompletionCache.Replayed p.key row s.cache c' := by
  obtain ⟨c', hget, hr⟩ := hM.get_row hrow hversion hrender
  have hhit : c'.reportedHit p.key = (c.database.get? p.key).isSome := by
    have haccess := hM.accessed p.key
    rw [CompletionCache.reportedHit, if_pos (hr.mode.trans hM.replay), hr.accesses, Dict.getD,
      Dict.get?_put_self, Option.getD_some]
    cases hthere : (c.database.get? p.key).isSome with
    | true =>
      rw [hthere] at haccess
      have := haccess.mpr rfl
      simpa using this
    | false =>
      rw [hthere] at haccess
      have : ¬ 0 < s.cache.replayAccesses.getD p.key 0 := fun h => by simpa using haccess.mp h
      simpa using this
  refine ⟨c', _, serve_found hget ?_, rfl, hr⟩
  rw [hhit, result_replaying]
  show (r.result purpose route p row.response schema _ row.costUsd).map _ = _
  rw [hres]
  rfl

omit [Uuid5] in
theorem follows_looked {route : RouteSpec} {config : LaneSettings} {purpose : Purpose}
    {tick : Int} {schema : Option Json} {p : LLMRouter.Prepared} :
    Follows r reply reply' CallResult.replayed
      (.act (.cacheGet p.key p.renderedHash) (r.looked route config purpose tick schema p))
      (.act (.cacheGet p.key p.renderedHash)
        (r.replaying.looked route config purpose tick schema p)) := by
  intro n s a hlive halong ha
  cases hrec : s.cache.record? p.key with
  | some rec =>
    -- answered from L0: the record is a row, stored before
    have hget := CompletionCache.get_of_record? hrec p.renderedHash
    by_cases hbad : s.cache.verifyRender = true ∧ rec.renderedHash ≠ p.renderedHash
    · rw [if_pos hbad] at hget
      have hans : (handle r.settings (.cacheGet p.key p.renderedHash) s).1 =
          .error (.cacheRenderMismatch p.key) := congrArg Prod.fst hget
      rw [Coroutine.serve_act_result, hans] at ha
      cases ha
    · rw [if_neg hbad] at hget
      have hans : handle r.settings (.cacheGet p.key p.renderedHash) s =
          (.ok (some rec), { s with cache := s.cache.touch p.key rec }) := by
        show ((s.cache.get _ _).1, { s with cache := (s.cache.get _ _).2 }) = _
        rw [hget]
      have hhit : (s.cache.touch p.key rec).reportedHit p.key = true :=
        if_neg (fun h => by rw [show (s.cache.touch p.key rec).mode = _ from hlive] at h; cases h)
      rw [Coroutine.serve_act_result, hans] at ha
      have hres := (serve_ofExcept (show (serve (S := callSignature) _ _
        (Coroutine.ofExcept (S := callSignature) (r.result purpose route p rec.response schema
          ((s.cache.touch p.key rec).reportedHit p.key) rec.costUsd)) _ _).result = _ from ha)).1
      rw [serve_found hget hres]
      refine ⟨hlive, rfl, fun _ _ h => h, fun D n' s' hD hM => ?_⟩
      obtain ⟨hmem, hkey⟩ := CompletionCache.mem_of_record? hrec
      obtain ⟨row, hrow, hrecord⟩ := hM.kept rec hmem
      rw [hkey] at hrow hrecord
      have hrender : s.cache.verifyRender = true → row.renderedHash = p.renderedHash := by
        intro hv
        by_contra hne
        refine hbad ⟨hv, ?_⟩
        rw [hrecord]
        exact hne
      rw [hhit, hrecord] at hres
      obtain ⟨c', told, hserve, hlook, hr⟩ := replay_found hM (hD _ row hrow)
        (hM.versions _ row hrow) hrender (by rw [hrow]; exact hres) n'
      rw [hserve]
      refine ⟨rfl, rfl, hlook, ?_⟩
      refine hM.looked (hD _ row hrow) hr hlive rfl rfl hM.versions (fun x hx => ?_) hM.manifest
        (fun _ _ => rfl) (show (s.cache.database.get? p.key).isSome = true by rw [hrow]; rfl)
      rcases CompletionCache.mem_moveToEnd hx with rfl | hx
      · exact hM.kept x hmem
      · exact hM.kept x hx
  | none =>
    -- not stored yet: the lane is asked and its reply is stored
    obtain ⟨hstored, halong⟩ := halong
    have hnew : s.cache.database.get? p.key = none := by
      cases hd : s.cache.database.get? p.key with
      | none => rfl
      | some row =>
        have hsome := hstored (by rw [hd]; rfl)
        rw [hrec] at hsome
        cases hsome
    have hans : handle r.settings (.cacheGet p.key p.renderedHash) s =
        (.ok none, { s with cache := { s.cache with misses := s.cache.misses + 1 } }) := by
      show ((s.cache.get _ _).1, { s with cache := (s.cache.get _ _).2 }) = _
      rw [CompletionCache.get_live_none hlive hrec]
    rw [Coroutine.serve_act_result] at ha
    rw [hans] at ha halong
    cases hlane : r.lanes.get? route.lane with
    | none =>
      rw [show r.looked route config purpose tick schema p (.ok none) = Coroutine.raise _ by
        simp only [LLMRouter.looked, hlane]; rfl] at ha
      cases ha
    | some lane =>
      have hcomplete : r.looked route config purpose tick schema p (.ok none) =
          r.complete route config lane purpose tick schema p := by
        simp only [LLMRouter.looked, hlane]
      rw [hcomplete] at ha halong
      obtain ⟨response, hres, hput, hlook⟩ := complete_live halong ha
      have hlive' : serve (S := callSignature) (handle r.settings) reply
          (.act (.cacheGet p.key p.renderedHash)
            (r.looked route config purpose tick schema p)) n s =
          { serve (S := callSignature) (handle r.settings) reply
              (r.complete route config lane purpose tick schema p) n
              { s with cache := { s.cache with misses := s.cache.misses + 1 } } with
            told := ⟨.cacheGet p.key p.renderedHash, .ok none⟩ ::
              (serve (S := callSignature) (handle r.settings) reply
                (r.complete route config lane purpose tick schema p) n
                { s with cache := { s.cache with misses := s.cache.misses + 1 } }).told } := by
        simp only [serve, hans, hcomplete]
      rw [hlive']
      dsimp only
      rw [hput]
      have hstate := CompletionCache.put_live
        (c := { s.cache with misses := s.cache.misses + 1 }) hlive
        ⟨p.key, p.renderedHash, response, costOf lane response⟩
      have hgrow : Included s.cache.database (s.cache.database.put p.key
          ⟨s.cache.schemaVersion, p.renderedHash, response, costOf lane response⟩) := by
        intro k row hk
        rw [Dict.get?_put]
        split
        · next hkey =>
          rw [hkey, hnew] at hk
          cases hk
        · exact hk
      rw [hstate]
      refine ⟨hlive, rfl, hgrow, fun D n' s' hD hM => ?_⟩
      have hrow := hD p.key _ (Dict.get?_put_self _ _ _)
      obtain ⟨c', told, hserve, hlook', hr⟩ := replay_found hM hrow rfl (fun _ => rfl)
        (by rw [hnew]; exact hres) n'
      rw [hserve]
      refine ⟨rfl, rfl, hlook'.trans (congrArg (p.key :: ·) hlook).symm, ?_⟩
      refine hM.looked hrow hr hlive rfl rfl (fun k row hk => ?_) (fun x hx => ?_) (fun k => ?_)
        (fun k hk => Dict.get?_put_of_ne hk) (by rw [Dict.get?_put_self]; rfl)
      · rw [Dict.get?_put] at hk
        split at hk
        · cases hk
          rfl
        · exact hM.versions k row hk
      · rcases CompletionCache.mem_remember hx with rfl | hx
        · exact ⟨_, Dict.get?_put_self _ _ _, rfl⟩
        · obtain ⟨row, hrow', hx'⟩ := hM.kept x hx
          exact ⟨row, hgrow _ row hrow', hx'⟩
      · show (s.cache.manifest.put p.key _).get? k = _
        rw [Dict.get?_put, Dict.get?_put]
        split
        · rfl
        · exact hM.manifest k

theorem follows_callOnce {purpose : Purpose} (hnamed : NamedAlike r.settings purpose)
    (hlanes : buildLanes r.settings = .ok r.lanes) (agentId : String) (tick : Int)
    (promptVariables : Dict String Json) (schema : Option Json) :
    Follows r reply reply' CallResult.replayed
      (r.callOnce purpose agentId tick promptVariables schema)
      (r.replaying.callOnce purpose agentId tick promptVariables schema) := by
  unfold LLMRouter.callOnce
  refine follows_ofExcept_bind _ fun route hroute => ?_
  refine follows_ofExcept_bind _ fun config hconfig => ?_
  rw [prepare_replaying purpose agentId tick promptVariables schema fun lane hlane => ?_]
  · exact follows_ofExcept_bind _ fun p _ => follows_looked
  · obtain ⟨config', hconfig', hbuilt⟩ := buildLanes_get? hlanes hlane
    have hroute' : r.settings.routing.get? purpose.value = some route := keyed_eq_ok hroute
    have hsame := keyed_eq_ok hconfig
    rw [hsame, Option.some.injEq] at hconfig'
    subst hconfig'
    exact hnamed route config lane hroute' hsame hbuilt

theorem follows_repair {q : CallRequest} (hnamed : NamedAlike r.settings q.purpose)
    (hlanes : buildLanes r.settings = .ok r.lanes) (rendered : Dict String Json)
    (instruction : String) (k attempt : Nat) (earlier : List CallResult) (last : CallResult) :
    Follows r reply reply' CallResult.replayed
      (r.repair q rendered instruction k attempt earlier last)
      (r.replaying.repair q rendered instruction k attempt (earlier.map CallResult.replayed)
        last.replayed) := by
  induction k generalizing attempt earlier last with
  | zero =>
    simp only [LLMRouter.repair, aggregateAttempts_replayed]
    exact follows_ret CallResult.replayed _
  | succ k ih =>
    simp only [LLMRouter.repair, repairedVariables_replayed]
    refine follows_ofExcept_bind _ fun promptVariables _ => ?_
    refine follows_bind (follows_callOnce hnamed hlanes _ _ _ _) fun next => ?_
    have hmap : earlier.map CallResult.replayed ++ [last.replayed] =
        (earlier ++ [last]).map CallResult.replayed := by simp
    rw [hmap, aggregateAttempts_replayed, show next.replayed.parsedOk = next.parsedOk from rfl]
    split
    · exact follows_ret CallResult.replayed _
    · exact ih _ _ _

theorem follows_call {q : CallRequest} (hnamed : NamedAlike r.settings q.purpose)
    (hlanes : buildLanes r.settings = .ok r.lanes) :
    Follows r reply reply' CallResult.replayed (r.call q) (r.replaying.call q) := by
  unfold LLMRouter.call
  refine follows_ofExcept_bind _ fun route _ => ?_
  refine follows_ofExcept_bind _ fun config _ => ?_
  refine follows_ofExcept_bind _ fun instruction _ => ?_
  refine follows_ofExcept_bind _ fun rendered _ => ?_
  refine follows_bind (follows_callOnce hnamed hlanes _ _ _ _) fun first => ?_
  rw [show first.replayed.parsedOk = first.parsedOk from rfl]
  split
  · exact follows_ret CallResult.replayed _
  · exact follows_repair hnamed hlanes _ _ _ _ [] first

variable (reply reply') in
theorem follows_callAll {requests : List CallRequest}
    (hnamed : ∀ q ∈ requests, NamedAlike r.settings q.purpose)
    (hlanes : buildLanes r.settings = .ok r.lanes) :
    Follows r reply reply' (List.map CallResult.replayed) (r.callAll requests)
      (r.replaying.callAll requests) := by
  induction requests with
  | nil => exact follows_ret (List.map CallResult.replayed) []
  | cons q qs ih =>
    refine follows_bind (follows_call (hnamed q List.mem_cons_self) hlanes) fun result => ?_
    refine follows_bind (ih fun x hx => hnamed x (List.mem_cons_of_mem _ hx)) fun results => ?_
    exact follows_ret (List.map CallResult.replayed) (result :: results)

omit [Uuid5] in
theorem openCache_replay (settings : CacheSettings) (file : Dict String Row)
    (hversions : ∀ k row, file.get? k = some row → row.schemaVersion = settings.schemaVersion) :
    openCache { settings with mode := .replay } file = .ok
      { mode := .replay
        l0Entries := settings.l0Entries
        verifyRender := settings.verifyRender
        schemaVersion := settings.schemaVersion
        strictVersion := settings.strictVersion
        database := file
        manifest := file.sort.mapValues fun _ row => row.digest } := by
  have hfold : ∀ (es : List (String × Row)) (acc : Dict String String),
      (∀ e ∈ es, e.2.schemaVersion = settings.schemaVersion) →
      es.foldlM (loadManifestRow { settings with mode := .replay }) acc =
        .ok ((es.map fun e => (e.1, e.2.digest)).foldl (fun d e => d.put e.1 e.2) acc) := by
    intro es
    induction es with
    | nil =>
      intro acc _
      rfl
    | cons e es ih =>
      intro acc hes
      have hfirst : loadManifestRow { settings with mode := .replay } acc e =
          .ok (acc.put e.1 e.2.digest) :=
        if_neg (fun hne => hne (hes e List.mem_cons_self))
      rw [List.foldlM_cons, hfirst]
      exact ih _ fun x hx => hes x (List.mem_cons_of_mem _ hx)
  have hload := hfold file.sortedEntries ∅ fun e he =>
    hversions e.1 e.2 (Dict.mem_entries_iff.mp (Dict.mem_sortedEntries.mp he))
  have hmanifest : (file.sortedEntries.map fun e => (e.1, e.2.digest)).foldl
      (fun d e => d.put e.1 e.2) ∅ = file.sort.mapValues fun _ row => row.digest := by
    apply Dict.ext_entries
    have hn : ((file.sortedEntries.map fun e => (e.1, e.2.digest)).map Prod.fst).Nodup := by
      rw [List.map_map]
      exact file.sort.nodup
    exact Dict.entries_ofList hn
  unfold openCache
  rw [if_neg (by simp)]
  simp only [hload, hmanifest]
  rfl

omit [Uuid5] in
theorem mirrors_start {settings : CacheSettings} {file D : Dict String Row}
    {c : CompletionCache} (hlive : settings.mode = .live) (hl0 : 1 ≤ settings.l0Entries)
    (hopen : openCache settings file = .ok c) :
    c.database = ∅ ∧ c.mode = .live ∧ c.schemaVersion = settings.schemaVersion ∧
    Mirrors D c
      { mode := .replay
        l0Entries := settings.l0Entries
        verifyRender := settings.verifyRender
        schemaVersion := settings.schemaVersion
        strictVersion := settings.strictVersion
        database := D
        manifest := D.sort.mapValues fun _ row => row.digest } := by
  unfold openCache at hopen
  rw [if_pos hlive] at hopen
  cases hopen
  refine ⟨rfl, hlive, rfl, ?_⟩
  exact {
    live := hlive, replay := rfl, l0Entries := hl0, verifyRender := rfl, schemaVersion := rfl
    database := rfl
    versions := fun k row hk => by cases hk
    kept := fun x hx => by cases hx
    seen := fun x hx => by cases hx
    accessed := fun k => by simp [Dict.getD]
    manifest := fun k => rfl
    manifest' := fun k => by rw [Dict.get?_mapValues, Dict.sort_get?] }

omit [Uuid5] [Host] in
theorem manifestHash_congr {c c' : CompletionCache}
    (h : ∀ k, c.manifest.get? k = c'.manifest.get? k) : c.manifestHash = c'.manifestHash := by
  unfold CompletionCache.manifestHash
  rw [Dict.sort_congr h]

end Simulation

/-! ## Transparency -/

section Transparency

variable [Sha256] [Uuid5] [Host]

/-- **Replay is transparent** for a live run that completed, of providers that
go by the names in the settings, along acts that leave something to replay:
over the file the run left, a replay returns the same results, looks up the
same keys, asks no lane, and ends with the same manifest. -/
theorem replay_transparent (reply' : Nat → Query → Except LlmError CompletionResponse)
    {r : LLMRouter} {requests : List CallRequest}
    {reply : Nat → Query → Except LlmError CompletionResponse} {file : Dict String Row}
    {cache : CompletionCache} {results : List CallResult}
    (hlive : r.settings.cache.mode = .live) (hl0 : 1 ≤ r.settings.cache.l0Entries)
    (hlanes : buildLanes r.settings = .ok r.lanes)
    (hopen : openCache r.settings.cache file = .ok cache)
    (hok : (serve (S := callSignature) (handle r.settings) reply (r.callAll requests) 0
      ⟨{}, cache⟩).result = .ok results)
    (hnamed : ∀ q ∈ requests, NamedAlike r.settings q.purpose)
    (hsteps : AlongServe (S := callSignature) (handle r.settings) reply (Repeatable r.settings)
      (r.callAll requests) 0 ⟨{}, cache⟩) :
    let x := serve (S := callSignature) (handle r.settings) reply (r.callAll requests) 0
      ⟨{}, cache⟩
    ∃ cache', openCache r.replaying.settings.cache x.state.cache.database = .ok cache' ∧
      let y := serve (S := callSignature) (handle r.replaying.settings) reply'
        (r.replaying.callAll requests) 0 ⟨{}, cache'⟩
      y.result = .ok (results.map CallResult.replayed) ∧ y.asked = 0 ∧
        lookups y.told = lookups x.told ∧
        y.state.cache.manifestHash = x.state.cache.manifestHash := by
  intro x
  obtain ⟨hempty, hmode, hversion, hM⟩ :=
    mirrors_start (D := x.state.cache.database) hlive hl0 hopen
  obtain ⟨_, hsame, _, hsim⟩ := follows_callAll reply reply' hnamed hlanes 0 ⟨{}, cache⟩ results
    hmode hsteps hok
  obtain ⟨hy, hasked, hlook, hM'⟩ := hsim x.state.cache.database 0 ⟨{}, _⟩ (fun _ _ h => h) hM
  -- the file that was left holds rows of this version only, so it opens
  have hfile := openCache_replay r.settings.cache x.state.cache.database
    fun k row hk => ((hM'.versions k row hk).trans hsame).trans hversion
  refine ⟨_, hfile, hy, hasked, hlook, ?_⟩
  apply manifestHash_congr
  intro k
  rw [hM'.manifest', hM'.manifest]

end Transparency

/-! ## A repeated request, and a refused one -/

/-- The sample settings with another cap on calls. -/
def cappedSettings (calls : Int) : LLMSettings :=
  { sampleSettings with
    budget := { lines := (∅ : Dict String LLMBudgetLine).put "ancillary" ⟨calls, 600⟩ } }

def cappedRouter (calls : Int) : LLMRouter := { sampleRouter with settings := cappedSettings calls }

theorem capped_named (calls : Int) : NamedAlike (cappedSettings calls) .importance := by
  intro route config lane hroute hconfig hlane
  cases hroute
  cases hconfig
  cases hlane
  exact ⟨rfl, rfl⟩

theorem capped_lanes (calls : Int) :
    buildLanes (cappedSettings calls) = .ok (cappedRouter calls).lanes := rfl

theorem replay_transparent_repeated :
    let _ := Polis.Events.hashlib; let _ := sampleHost; let _ := sampleUuid5
    let x := serve (S := callSignature) (handle (cappedSettings 10)) (sampleReplies 0)
      ((cappedRouter 10).callAll [sampleRequest "a", sampleRequest "a"]) 0 sampleStart
    ∃ results cache', x.result = .ok results ∧
      openCache (cappedRouter 10).replaying.settings.cache x.state.cache.database = .ok cache' ∧
      (serve (S := callSignature) (handle (cappedRouter 10).replaying.settings) (sampleReplies 0)
        ((cappedRouter 10).replaying.callAll [sampleRequest "a", sampleRequest "a"]) 0
        ⟨{}, cache'⟩).result = .ok (results.map CallResult.replayed) := by
  intro _ _ _ x
  have hx : x.result.isOk = true := by decide +kernel
  cases hres : x.result with
  | error e =>
    rw [hres] at hx
    cases hx
  | ok results =>
    obtain ⟨cache', hopen, hy, _⟩ := replay_transparent (sampleReplies 0) (r := cappedRouter 10)
      rfl (by decide) (capped_lanes 10)
      (show openCache (cappedRouter 10).settings.cache ∅ = .ok sampleStart.cache from rfl) hres
      (fun q hq => by
        simp only [List.mem_cons, List.not_mem_nil, or_false, or_self] at hq
        rw [hq]
        exact capped_named 10)
      (by decide +kernel)
    exact ⟨results, cache', rfl, hopen, hy⟩

theorem refusal_unreplayable :
    let _ := Polis.Events.hashlib; let _ := sampleHost; let _ := sampleUuid5
    let x := serve (S := callSignature) (handle (cappedSettings 0)) (sampleReplies 0)
      ((cappedRouter 0).callAll [sampleRequest "a"]) 0 sampleStart
    buildLanes (cappedSettings 0) = .ok (cappedRouter 0).lanes ∧
      1 ≤ (cappedSettings 0).cache.l0Entries ∧ (∃ results, x.result = .ok results) ∧
      ∃ cache' key, openCache (cappedRouter 0).replaying.settings.cache x.state.cache.database
          = .ok cache' ∧
        (serve (S := callSignature) (handle (cappedRouter 0).replaying.settings) (sampleReplies 0)
          ((cappedRouter 0).replaying.callAll [sampleRequest "a"]) 0 ⟨{}, cache'⟩).result =
            .error (.cacheMissInReplay key) := by
  intro _ _ _ x
  refine ⟨capped_lanes 0, by decide, ?_, ?_⟩
  · have hx : x.result.isOk = true := by decide +kernel
    cases hres : x.result with
    | error e =>
      rw [hres] at hx
      cases hx
    | ok results => exact ⟨results, rfl⟩
  · -- nothing was stored, so the replay opens an empty file
    have hempty : x.state.cache.database = ∅ :=
      Dict.ext_entries (List.isEmpty_iff.mp (by decide +kernel))
    rw [hempty]
    have hmiss : ((serve (S := callSignature) (handle (cappedRouter 0).replaying.settings)
        (sampleReplies 0) ((cappedRouter 0).replaying.callAll [sampleRequest "a"]) 0
        ⟨{}, { mode := .replay, l0Entries := 50000, verifyRender := true, schemaVersion := 1,
               strictVersion := true }⟩).result matches .error (.cacheMissInReplay _)) = true := by
      decide +kernel
    split at hmiss
    · next key hkey => exact ⟨_, key, rfl, hkey⟩
    · cases hmiss

end Polis.Llm
