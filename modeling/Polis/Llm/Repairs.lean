/-
  Polis.Llm.Repairs — calls whose replies are repaired (`llm/router.py`).

  A reply that does not match the schema is asked for again, at most twice.
  A repair writes the validation error behind the prompt, which it looks up
  among the variables; and what the budget refused is repaired like a reply.

  Main results:
    * `callOnce_returns` — what one attempt returns.
    * `repair_returns` — what the repairs return and add up to.
    * `structured_call_iff` — when a call is total, bounded and reports what
      the claim asks for.
    * `news_request_raises` — a request without a prompt, and a first reply
      that does not match.
-/
import Polis.Llm.Gather
import Polis.Llm.JsonText

namespace Polis.Llm

open Lib (Dict Coroutine)
open Lib.Coroutine (Served AlongServe serve)
open Lib.Effect (except_bind_eq_ok)
open Polis.Events (Sha256)

/-! ## What is asked of a call -/

section Definitions

variable [Sha256] [Uuid5] [Host]

/-- No lookup of the cache and no question to the guard raises. -/
def Unraised (settings : LLMSettings) (s : RouterState) : Op → Prop
  | .cacheGet key renderedHash => (s.cache.get key renderedHash).1.isOk = true
  | .admission line estIn estOut estUsd =>
    (s.budget.admission settings.budget line estIn estOut estUsd).1.isOk = true
  | .charge line tokensIn tokensOut usd =>
    (s.budget.charge line tokensIn tokensOut usd).1.isOk = true
  | _ => True

instance (settings : LLMSettings) (s : RouterState) : ∀ o, Decidable (Unraised settings s o)
  | .cacheGet _ _ | .admission _ _ _ _ | .charge _ _ _ _ => inferInstanceAs (Decidable (_ = true))
  | .reportedHit _ | .beginTick _ | .cachePut _ => isTrue trivial

/-- How the providers reply, to each question in turn. -/
abbrev Replies := Nat → Query → Except LlmError CompletionResponse

/-- A text holds an object that meets the schema. -/
def Matches (schema : Json) (text : String) : Prop :=
  text ≠ "" ∧ ∃ value, extractAndValidate text schema = .ok (some value, none)

namespace LLMRouter

variable (r : LLMRouter) (q : CallRequest) (route : RouteSpec) (config : LaneSettings)

/-- What the first attempt of a call is prepared as. -/
def Prepares (p : Prepared) : Prop :=
  ∃ instruction rendered, schemaInstruction route q.schema = .ok instruction ∧
    renderedVariables config instruction q.promptVariables = .ok rendered ∧
    r.prepare route config q.purpose q.agentId q.tick rendered q.schema = .ok p

/-- What the guard says to an attempt. -/
def verdict (p : Prepared) (lane : Lane) (s : RouterState) : Except LlmError Admission :=
  let query := question config lane q.purpose q.schema p
  ((s.budget.beginTick r.settings.budget q.tick).admission r.settings.budget (PURPOSE_LINE q.purpose)
    query.estimateIn route.maxTokens (lane.provider.price query.estimateIn route.maxTokens 0)).1

/-- The attempt is refused. -/
def Refused (p : Prepared) (s : RouterState) (a : Admission) : Prop :=
  (s.cache.get p.key p.renderedHash).1 = .ok none ∧
    ∃ lane, r.lanes.get? route.lane = some lane ∧ r.verdict q route config p lane s = .ok a ∧
      a ≠ .permit

/-- The attempt finds a completion: in the cache, or as the provider's reply. -/
def Finds (reply : Replies) (p : Prepared) (n : Nat)
    (s : RouterState) (response : CompletionResponse) : Prop :=
  (∃ cached, (s.cache.get p.key p.renderedHash).1 = .ok (some cached) ∧
    cached.response = response) ∨
  (s.cache.get p.key p.renderedHash).1 = .ok none ∧
    ∃ lane, r.lanes.get? route.lane = some lane ∧ r.verdict q route config p lane s = .ok .permit ∧
      reply n (question config lane q.purpose q.schema p) = .ok response

end LLMRouter

/-- Attempts one after another, each with some variables, and their results. -/
inductive Attempts (r : LLMRouter) (q : CallRequest)
    (reply : Replies) :
    Nat → RouterState → List CallResult → Nat → RouterState → Prop
  | none (n : Nat) (s : RouterState) : Attempts r q reply n s [] n s
  | more {n n' : Nat} {s s' : RouterState} {c : CallResult} {cs : List CallResult}
      (promptVariables : Dict String Json)
      (made : (serve (S := callSignature) (handle r.settings) reply
        (r.callOnce q.purpose q.agentId q.tick promptVariables q.schema) n s).result = .ok c)
      (rest : Attempts r q reply
        (serve (S := callSignature) (handle r.settings) reply
          (r.callOnce q.purpose q.agentId q.tick promptVariables q.schema) n s).asked
        (serve (S := callSignature) (handle r.settings) reply
          (r.callOnce q.purpose q.agentId q.tick promptVariables q.schema) n s).state cs n' s') :
      Attempts r q reply n s (c :: cs) n' s'

/-- Tokens and cost are the sums over attempts. -/
structure Totals (c : CallResult) (attempts : List CallResult) : Prop where
  tokensIn : c.tokensIn = (attempts.map CallResult.tokensIn).sum
  tokensOut : c.tokensOut = (attempts.map CallResult.tokensOut).sum
  tokensCachedIn : c.tokensCachedIn = (attempts.map CallResult.tokensCachedIn).sum
  cost : c.costUsd = (attempts.map CallResult.costUsd).sum

/-- What a call returns, made of its attempts. -/
structure Reports (r : LLMRouter) (q : CallRequest) (schema : Json) (route : RouteSpec)
    (config : LaneSettings) (reply : Replies) (n : Nat) (s : RouterState) (c : CallResult)
    (attempts : List CallResult) : Prop where
  returned : (serve (S := callSignature) (handle r.settings) reply (r.call q) n s).result = .ok c
  made : Attempts r q reply n s attempts
    (serve (S := callSignature) (handle r.settings) reply (r.call q) n s).asked
    (serve (S := callSignature) (handle r.settings) reply (r.call q) n s).state
  few : 1 ≤ attempts.length ∧ attempts.length ≤ 3
  valid : c.parsedOk = true →
    ∃ value, c.parsed = some value ∧ Host.schemaErrors schema value = .ok []
  degraded : c.parsedOk = false → c.degraded = true
  totals : Totals c attempts
  refused : ∀ p a, r.Prepares q route config p → r.Refused q route config p s a →
    attempts.length = 1 ∧ c.error = some a.value

/-- The call is total and bounded, and reports a refusal of its first attempt. -/
def Bounded (r : LLMRouter) (q : CallRequest) (schema : Json) (route : RouteSpec)
    (config : LaneSettings) (reply : Replies) (n : Nat) (s : RouterState) : Prop :=
  ∃ c attempts, Reports r q schema route config reply n s c attempts

/-- What a call must find to be so: values of JSON, a budget that does not
refuse the first attempt, and a prompt to repair, unless the first attempt
matches. -/
structure Repairable (r : LLMRouter) (q : CallRequest) (schema : Json) (route : RouteSpec)
    (config : LaneSettings) (reply : Replies) (n : Nat) (s : RouterState) : Prop where
  json : schema.complaints = [] ∧ (Json.dict q.promptVariables.entries).complaints = []
  permitted : ∀ p a, r.Prepares q route config p → ¬r.Refused q route config p s a
  prompted : (q.promptVariables.get? "prompt").isSome = true ∨
    ((config.extra.lookup "render_schema").getD (.bool false)).truthy = true ∨
    ∃ p response, r.Prepares q route config p ∧ r.Finds q route config reply p n s response ∧
      Matches schema response.text

/-- A purpose that is routed with repairs, asked for with a schema. -/
structure Configured (r : LLMRouter) (q : CallRequest) (schema : Json) (route : RouteSpec)
    (config : LaneSettings) : Prop where
  route_eq : r.settings.routing.get? q.purpose.value = some route
  config_eq : r.settings.providers.get? route.lane = some config
  repairs : route.structured = .repair
  schema_eq : q.schema = some schema

/-- A lane to ask, or a replay, which asks none. -/
def HasLane (r : LLMRouter) (route : RouteSpec) (s : RouterState) : Prop :=
  (r.lanes.get? route.lane).isSome = true ∨ s.cache.mode = .replay

end Definitions

/-! ## Values of JSON -/

theorem memberComplaints_eq_nil {xs : List (String × Json)} :
    Json.memberComplaints xs = [] ↔ ∀ x ∈ xs, x.2.complaints = [] := by
  induction xs with
  | nil => simp [Json.memberComplaints]
  | cons x xs ih => simp [Json.memberComplaints, ih]

theorem complaints_put {d : Dict String Json} (h : (Json.dict d.entries).complaints = [])
    (key : String) {v : Json} (hv : v.complaints = []) :
    (Json.dict (d.put key v).entries).complaints = [] := by
  have h : ∀ x ∈ d.entries, x.2.complaints = [] := memberComplaints_eq_nil.mp h
  refine memberComplaints_eq_nil.mpr fun x hx => ?_
  have hx := Dict.mem_entries_iff.mp (show (x.1, x.2) ∈ (d.put key v).entries from hx)
  rw [Dict.get?_put] at hx
  split_ifs at hx with hkey
  · rw [← Option.some.inj hx]
    exact hv
  · exact h x (Dict.mem_entries_iff.mpr hx)

theorem canonicalJson_ok {v : Json} (h : v.complaints = []) : canonicalJson v = .ok v.text := by
  unfold canonicalJson
  rw [h]

theorem complaints_of_ok {v : Json} {text : String} (h : canonicalJson v = .ok text) :
    v.complaints = [] := by
  unfold canonicalJson at h
  split at h
  · assumption
  · cases h

/-! ## Results -/

section Results

variable [Host] {r : LLMRouter} {schema : Json}

/-- A result that has parsed has no error, and a value that meets the schema. -/
def Valid (schema : Json) (c : CallResult) : Prop :=
  c.parsedOk = true →
    c.error = none ∧ ∃ value, c.parsed = some value ∧ Host.schemaErrors schema value = .ok []

variable [Sha256] [Uuid5]

omit [Sha256] [Uuid5] in
theorem result_valid {purpose : Purpose} {route : RouteSpec} {p : LLMRouter.Prepared}
    {response : CompletionResponse} {hit : Bool} {cost : Rat} {c : CallResult}
    (h : r.result purpose route p response (some schema) hit cost = .ok c) :
    Valid schema c ∧ (c.parsedOk = true ↔ Matches schema response.text) := by
  unfold LLMRouter.result at h
  dsimp only at h
  by_cases htext : response.text ≠ ""
  · rw [if_pos htext] at h
    obtain ⟨⟨parsed, error⟩, hparsed, h⟩ := except_bind_eq_ok.mp h
    cases h
    have hshape := extractAndValidate_shape hparsed
    cases parsed with
    | none => exact ⟨fun hok => (by cases hok), by simp [Matches, hparsed]⟩
    | some value =>
      obtain ⟨_, _, _, _, _, _, herrors⟩ := extracted_from hparsed
      cases error with
      | none => exact ⟨fun _ => ⟨rfl, value, rfl, herrors⟩, by simp [Matches, htext, hparsed]⟩
      | some message => cases hshape
  · rw [if_neg htext] at h
    cases h
    exact ⟨fun hok => (by cases hok), by simp [Matches, htext]⟩

omit [Sha256] [Uuid5] in
theorem refused_reports {purpose : Purpose} {route : RouteSpec} {p : LLMRouter.Prepared}
    {lane : Lane} {admission : Admission} {c : CallResult}
    (h : r.refused route lane purpose (some schema) p admission = .ok c) :
    c.parsedOk = false ∧ c.error = some admission.value := by
  unfold LLMRouter.refused at h
  obtain ⟨result, hresult, h⟩ := except_bind_eq_ok.mp h
  cases h
  refine ⟨?_, rfl⟩
  have hmatches := (result_valid hresult).2
  have hno : ¬result.parsedOk = true := fun hok => (hmatches.mp hok).1 rfl
  simpa using hno

theorem callOnce_yields (purpose : Purpose) (agentId : String) (tick : Int)
    (promptVariables : Dict String Json) :
    (r.callOnce purpose agentId tick promptVariables (some schema)).Yields (Valid schema) := by
  have hresult {route : RouteSpec} {p : LLMRouter.Prepared} {response : CompletionResponse}
      {hit : Bool} {cost : Rat} : (Coroutine.ofExcept (S := callSignature)
        (r.result purpose route p response (some schema) hit cost)).Yields (Valid schema) :=
    Coroutine.yields_ofExcept fun c hc => (result_valid hc).1
  have hrefused {route : RouteSpec} {p : LLMRouter.Prepared} {lane : Lane} {a : Admission} :
      (Coroutine.ofExcept (S := callSignature)
        (r.refused route lane purpose (some schema) p a)).Yields (Valid schema) :=
    Coroutine.yields_ofExcept fun c hc hok => by
      rw [(refused_reports hc).1] at hok
      cases hok
  unfold LLMRouter.callOnce
  refine Coroutine.yields_bind (Coroutine.yields_true _) fun route _ => ?_
  refine Coroutine.yields_bind (Coroutine.yields_true _) fun config _ => ?_
  refine Coroutine.yields_bind (Coroutine.yields_true _) fun p _ => ?_
  intro found
  match found with
  | .error e => trivial
  | .ok (some cached) => exact fun hit => hresult
  | .ok none =>
    show Coroutine.Yields _ (r.looked _ _ _ _ _ _ (.ok none))
    unfold LLMRouter.looked
    dsimp only
    cases r.lanes.get? route.lane with
    | none => trivial
    | some lane =>
      show Coroutine.Yields _ (r.complete _ _ _ _ _ _ _)
      rw [LLMRouter.complete_eq]
      intro _ admission
      match admission with
      | .error e => trivial
      | .ok .degrade => exact hrefused
      | .ok .halt => exact hrefused
      | .ok .permit =>
        intro reply
        cases reply with
        | error e => trivial
        | ok response =>
          show Coroutine.Yields _ (r.settle _ _ _ _ _ _)
          rw [LLMRouter.settle_eq]
          intro charged
          cases charged with
          | error e => trivial
          | ok _ => exact fun _ => hresult

/-- A repaired result is valid, degraded unless it has parsed, and never
reports an admission. -/
structure Final (schema : Json) (c : CallResult) : Prop where
  valid : Valid schema c
  degraded : c.parsedOk = false → c.degraded = true
  unrefused : ∀ a : Admission, c.error ≠ some a.value

theorem repair_yields {q : CallRequest} (hq : q.schema = some schema) (rendered : Dict String Json)
    (instruction : String) (n attempt : Nat) (earlier : List CallResult) (last : CallResult)
    (hlast : last.parsedOk = false) :
    (r.repair q rendered instruction n attempt earlier last).Yields (Final schema) := by
  induction n generalizing attempt earlier last with
  | zero =>
    refine ⟨fun hok => ?_, fun _ => rfl, fun a heq => ?_⟩
    · rw [show (LLMRouter.aggregateAttempts earlier last).parsedOk = last.parsedOk from rfl,
        hlast] at hok
      cases hok
    · -- an admission does not begin like an exhausted repair
      have hchars := congrArg (fun e => e.map String.toList) heq
      cases a <;> simp [Admission.value] at hchars
  | succ n ih =>
    rw [LLMRouter.repair]
    refine Coroutine.yields_bind (Coroutine.yields_true _) fun promptVariables _ => ?_
    refine Coroutine.yields_bind (hq ▸ callOnce_yields _ _ _ _) fun next hnext => ?_
    split
    · next hok =>
      obtain ⟨herror, hvalue⟩ := hnext hok
      refine ⟨fun _ => ⟨herror, hvalue⟩, fun hno => ?_, fun a heq => ?_⟩
      · rw [show (LLMRouter.aggregateAttempts (earlier ++ [last]) next).parsedOk = next.parsedOk
          from rfl, hok] at hno
        cases hno
      · rw [show (LLMRouter.aggregateAttempts (earlier ++ [last]) next).error = next.error from rfl,
          herror] at heq
        cases heq
    · next hno => exact ih _ _ _ (by simpa using hno)

end Results

/-! ## One attempt -/

section Attempt

variable [Sha256] [Uuid5] [Host] {r : LLMRouter} {q : CallRequest} {schema : Json}
  {route : RouteSpec} {config : LaneSettings} {reply : Replies} {n : Nat} {s : RouterState}

omit [Uuid5] [Host] in
theorem cacheKey_ok (provider model : String) (version : Option String) (template : String)
    {promptVariables : Json} (h : promptVariables.complaints = []) (sampling : SamplingParams)
    (schemaHash : Option String) (callSeed : Nat) :
    ∃ key, cacheKey provider model version template promptVariables sampling schemaHash callSeed
      = .ok key := by
  have hopt : ∀ o : Option String, (Json.ofStr? o).complaints = [] := by
    intro o
    cases o <;> rfl
  have hstop : ∀ xs : List String, Json.itemComplaints (xs.map .str) = [] := by
    intro xs
    induction xs with
    | nil => rfl
    | cons x xs ih => simpa [Json.itemComplaints, Json.complaints] using ih
  have hseed : ∀ o : Option Nat, (o.elim Json.none fun n => Json.int n).complaints = [] := by
    intro o
    cases o <;> rfl
  have hhashed : ∀ v : Json, v.complaints = [] →
      ∃ key, (canonicalBytes v).map sha256Hex = .ok key := by
    intro v hv
    unfold canonicalBytes
    rw [canonicalJson_ok hv]
    exact ⟨_, rfl⟩
  refine hhashed _ ?_
  simp [Json.complaints, Json.memberComplaints, h, hopt, hstop, hseed]

variable (r route config) in
theorem prepare_ok {promptVariables : Dict String Json}
    (hvariables : (Json.dict promptVariables.entries).complaints = [])
    (hschema : schema.complaints = [])
    (purpose : Purpose) (agentId : String) (tick : Int) :
    ∃ p, r.prepare route config purpose agentId tick promptVariables (some schema) = .ok p := by
  have hhash : ∃ hash, LLMRouter.schemaHash (some schema) = .ok hash := by
    unfold LLMRouter.schemaHash canonicalBytes
    dsimp only
    rw [canonicalJson_ok hschema]
    split
    · exact ⟨_, rfl⟩
    · exact ⟨_, rfl⟩
  obtain ⟨hash, hhash⟩ := hhash
  unfold LLMRouter.prepare
  rw [canonicalJson_ok hvariables, hhash]
  have hkeyed : ∀ (x : Except LlmError String) (f : String → LLMRouter.Prepared),
      (∃ key, x = .ok key) → ∃ p, (x >>= fun key => .ok (f key)) = .ok p := by
    rintro x f ⟨key, rfl⟩
    exact ⟨f key, rfl⟩
  exact hkeyed _ _ (cacheKey_ok _ _ _ _ hvariables _ _ _)

theorem prepare_json {purpose : Purpose} {agentId : String} {tick : Int}
    {promptVariables : Dict String Json} {schema : Option Json} {p : LLMRouter.Prepared}
    (h : r.prepare route config purpose agentId tick promptVariables schema = .ok p) :
    (Json.dict promptVariables.entries).complaints = [] := by
  obtain ⟨_, hwhole, -⟩ := except_bind_eq_ok.mp h
  exact complaints_of_ok hwhole

omit [Sha256] [Uuid5] [Host] in
theorem keyed_ok {α : Type} {d : Dict String α} {key : String} {x : α} (h : d.get? key = some x) :
    keyed d key = .ok x := by
  unfold keyed
  rw [h]

theorem callOnce_eq (hq : Configured r q schema route config) {promptVariables : Dict String Json}
    {p : LLMRouter.Prepared}
    (hp : r.prepare route config q.purpose q.agentId q.tick promptVariables q.schema = .ok p) :
    r.callOnce q.purpose q.agentId q.tick promptVariables q.schema =
      .act (.cacheGet p.key p.renderedHash)
        (r.looked route config q.purpose q.tick q.schema p) := by
  unfold LLMRouter.callOnce
  rw [keyed_ok hq.route_eq, Coroutine.ofExcept_ok, Coroutine.ret_bind, keyed_ok hq.config_eq,
    Coroutine.ofExcept_ok, Coroutine.ret_bind, hp]
  rfl

/-! ### What no act changes -/

omit [Uuid5] in
theorem get_mode (key renderedHash : String) (c : CompletionCache) :
    (c.get key renderedHash).2.mode = c.mode := by
  have hfind : ∀ found c', c.find key = .ok (found, c') → c'.mode = c.mode := by
    intro found c' h
    unfold CompletionCache.find at h
    split at h
    · cases h
      rfl
    · split at h
      · cases h
        rfl
      · split at h
        · cases h
        · cases h
          rfl
        · cases h
          rfl
  unfold CompletionCache.get
  split
  · rfl
  · next c' h =>
    have hmode := hfind _ _ h
    dsimp only
    split
    · exact hmode
    · exact hmode
  · next r c' h =>
    have hmode := hfind _ _ h
    split
    · exact hmode
    · split
      · exact hmode
      · exact hmode

omit [Uuid5] in
theorem get_replay_found {c : CompletionCache} (h : c.mode = .replay) (key renderedHash : String) :
    (c.get key renderedHash).1 ≠ .ok none := by
  intro hnone
  have hmode := get_mode key renderedHash c
  unfold CompletionCache.get at hnone hmode
  split at hnone
  · cases hnone
  · next c' hfind =>
    rw [hfind] at hmode
    dsimp only at hnone hmode
    split at hnone
    · cases hnone
    · next hlive =>
      rw [if_neg hlive] at hmode
      exact hlive (hmode.trans h)
  · split at hnone
    · cases hnone
    · split at hnone
      · cases hnone
      · cases hnone

omit [Uuid5] in
theorem handle_mode (settings : LLMSettings) (o : Op) (s : RouterState) :
    (handle settings o s).2.cache.mode = s.cache.mode := by
  cases o with
  | cacheGet key renderedHash => exact get_mode key renderedHash s.cache
  | cachePut record =>
    show (s.cache.put record).mode = s.cache.mode
    unfold CompletionCache.put
    split
    · rfl
    · rfl
  | _ => rfl

omit [Uuid5] in
theorem HasLane.served (h : HasLane r route s) {α : Type} (c : Call α) :
    HasLane r route (serve (S := callSignature) (handle r.settings) reply c n s).state := by
  induction c generalizing n s with
  | ret a => exact h
  | raise e => exact h
  | act o k ih => exact ih _ (h.imp_right fun hmode => (handle_mode r.settings o s).trans hmode)
  | ask query k ih => exact ih _ h

/-! ### Its result -/

variable (r route) in
omit [Sha256] [Uuid5] in
theorem result_reports (hlibrary : ∀ text, (extractAndValidate text schema).isOk = true)
    (purpose : Purpose) (p : LLMRouter.Prepared) (response : CompletionResponse) (hit : Bool)
    (cost : Rat) : ∃ c, r.result purpose route p response (some schema) hit cost = .ok c ∧
      (c.parsedOk = true ↔ Matches schema response.text) := by
  have hreturns : ∃ c, r.result purpose route p response (some schema) hit cost = .ok c := by
    unfold LLMRouter.result
    dsimp only
    by_cases htext : response.text ≠ ""
    · have hok := hlibrary response.text
      rw [if_pos htext]
      cases hparsed : extractAndValidate response.text schema with
      | error e =>
        rw [hparsed] at hok
        cases hok
      | ok x => exact ⟨_, rfl⟩
    · rw [if_neg htext]
      exact ⟨_, rfl⟩
  obtain ⟨c, hc⟩ := hreturns
  exact ⟨c, hc, (result_valid hc).2⟩

variable (r route) in
omit [Sha256] [Uuid5] in
theorem refused_returns (hlibrary : ∀ text, (extractAndValidate text schema).isOk = true)
    (purpose : Purpose) (p : LLMRouter.Prepared) (lane : Lane) (a : Admission) :
    ∃ c, r.refused route lane purpose (some schema) p a = .ok c ∧ c.parsedOk = false := by
  obtain ⟨c, hc, -⟩ := result_reports r route hlibrary purpose p
    ⟨"", 0, 0, 0, some lane.provider.model, none, 0, "error"⟩ false 0
  have hreturns : ∃ c, r.refused route lane purpose (some schema) p a = .ok c := by
    unfold LLMRouter.refused
    dsimp only
    rw [hc]
    exact ⟨_, rfl⟩
  obtain ⟨c, hc⟩ := hreturns
  exact ⟨c, hc, (refused_reports hc).1⟩

omit [Uuid5] in
theorem settle_returns (hlibrary : ∀ text, (extractAndValidate text schema).isOk = true)
    {lane : Lane} {purpose : Purpose} {p : LLMRouter.Prepared} {response : CompletionResponse}
    (hserved : AlongServe (S := callSignature) (handle r.settings) reply (Unraised r.settings)
      (r.settle route lane purpose (some schema) p response) n s) :
    ∃ c, (serve (S := callSignature) (handle r.settings) reply
        (r.settle route lane purpose (some schema) p response) n s).result = .ok c ∧
      (c.parsedOk = true ↔ Matches schema response.text) := by
  obtain ⟨c, hc, hparsed⟩ := result_reports r route hlibrary purpose p response false
    (lane.provider.price response.tokensIn response.tokensOut response.tokensCachedIn)
  rw [LLMRouter.settle_eq] at hserved ⊢
  obtain ⟨hcharge, hserved⟩ := hserved
  refine ⟨c, ?_, hparsed⟩
  rw [Coroutine.serve_act_result]
  unfold Unraised at hcharge
  unfold handle
  dsimp only at hcharge ⊢
  cases hcharged : (s.budget.charge (PURPOSE_LINE purpose) response.tokensIn response.tokensOut
      (lane.provider.price response.tokensIn response.tokensOut response.tokensCachedIn)).1 with
  | error e =>
    rw [hcharged] at hcharge
    cases hcharge
  | ok u =>
    rw [Coroutine.ofExcept_ok, Coroutine.ret_bind, Coroutine.serve_act_result, hc]
    rfl

omit [Uuid5] in
theorem complete_returns (hq : Configured r q schema route config)
    (hprovider : ∀ i query, (reply i query).isOk = true)
    (hlibrary : ∀ text, (extractAndValidate text schema).isOk = true) {p : LLMRouter.Prepared}
    {lane : Lane}
    (hserved : AlongServe (S := callSignature) (handle r.settings) reply (Unraised r.settings)
      (r.complete route config lane q.purpose q.tick (some schema) p) n s) :
    ∃ c, (serve (S := callSignature) (handle r.settings) reply
        (r.complete route config lane q.purpose q.tick (some schema) p) n s).result = .ok c ∧
      ((∃ response, r.verdict q route config p lane s = .ok .permit ∧
          reply n (LLMRouter.question config lane q.purpose q.schema p) = .ok response ∧
          (c.parsedOk = true ↔ Matches schema response.text)) ∨
        ∃ a, r.verdict q route config p lane s = .ok a ∧ a ≠ .permit ∧ c.parsedOk = false) := by
  rw [LLMRouter.complete_eq] at hserved ⊢
  obtain ⟨-, hadmission, hserved⟩ := hserved
  rw [Coroutine.serve_act_result, Coroutine.serve_act_result]
  -- the guard is asked after the tick has begun
  have hverdict : (handle r.settings (.admission (PURPOSE_LINE q.purpose)
      (LLMRouter.question config lane q.purpose (some schema) p).estimateIn route.maxTokens
      (lane.provider.price (LLMRouter.question config lane q.purpose (some schema) p).estimateIn
        route.maxTokens 0)) (handle r.settings (.beginTick q.tick) s).2).1
      = r.verdict q route config p lane s := by
    unfold LLMRouter.verdict
    rw [hq.schema_eq]
    rfl
  have hpermits : (r.verdict q route config p lane s).isOk = true := by
    rw [← hverdict]
    exact hadmission
  rw [hverdict] at hserved ⊢
  cases hanswer : r.verdict q route config p lane s with
  | error e =>
    rw [hanswer] at hpermits
    cases hpermits
  | ok a =>
    rw [hanswer] at hserved
    by_cases ha : a = .permit
    · subst ha
      rw [LLMRouter.answered_permit] at hserved ⊢
      rw [Coroutine.serve_ask]
      have hreply := hprovider n (LLMRouter.question config lane q.purpose (some schema) p)
      change AlongServe _ _ _ (_ >>= _) _ _ at hserved
      cases hresponse : reply n (LLMRouter.question config lane q.purpose (some schema) p) with
      | error e =>
        rw [hresponse] at hreply
        cases hreply
      | ok response =>
        rw [hresponse] at hserved
        obtain ⟨c, hc, hparsed⟩ := settle_returns hlibrary hserved
        refine ⟨c, hc, .inl ⟨response, rfl, ?_, hparsed⟩⟩
        rw [hq.schema_eq, hresponse]
    · obtain ⟨c, hc, hparsed⟩ := refused_returns r route hlibrary q.purpose p lane a
      refine ⟨c, ?_, .inr ⟨a, rfl, ha, hparsed⟩⟩
      have hanswered : r.answered route q.purpose (some schema) p
          (LLMRouter.question config lane q.purpose (some schema) p) (.ok a)
          = Coroutine.ofExcept (S := callSignature)
            (r.refused route lane q.purpose (some schema) p a) := by
        cases a with
        | permit => exact absurd rfl ha
        | degrade => rfl
        | halt => rfl
      rw [hanswered, hc]
      rfl

theorem callOnce_returns (hq : Configured r q schema route config) (hlane : HasLane r route s)
    (hprovider : ∀ i query, (reply i query).isOk = true)
    (hlibrary : ∀ text, (extractAndValidate text schema).isOk = true)
    {promptVariables : Dict String Json} {p : LLMRouter.Prepared}
    (hp : r.prepare route config q.purpose q.agentId q.tick promptVariables q.schema = .ok p)
    (hserved : AlongServe (S := callSignature) (handle r.settings) reply (Unraised r.settings)
      (r.callOnce q.purpose q.agentId q.tick promptVariables q.schema) n s) :
    ∃ c, (serve (S := callSignature) (handle r.settings) reply
        (r.callOnce q.purpose q.agentId q.tick promptVariables q.schema) n s).result = .ok c ∧
      ((∃ response, r.Finds q route config reply p n s response ∧
          (c.parsedOk = true ↔ Matches schema response.text) ∧
          ∀ a, ¬r.Refused q route config p s a) ∨
        ∃ a, r.Refused q route config p s a ∧ c.parsedOk = false) := by
  rw [callOnce_eq hq hp, hq.schema_eq] at hserved ⊢
  obtain ⟨hlookup, hserved⟩ := hserved
  rw [Coroutine.serve_act_result]
  change (s.cache.get p.key p.renderedHash).1.isOk = true at hlookup
  have hlooked : (handle r.settings (.cacheGet p.key p.renderedHash) s).1
      = (s.cache.get p.key p.renderedHash).1 := rfl
  rw [hlooked] at hserved ⊢
  cases hfound : (s.cache.get p.key p.renderedHash).1 with
  | error e =>
    rw [hfound] at hlookup
    cases hlookup
  | ok found =>
    rw [hfound] at hserved
    cases found with
    | some cached =>
      obtain ⟨c, hc, hparsed⟩ := result_reports r route hlibrary q.purpose p cached.response
        (handle r.settings (.reportedHit p.key)
          (handle r.settings (.cacheGet p.key p.renderedHash) s).2).1 cached.costUsd
      refine ⟨c, ?_, .inl ⟨cached.response, .inl ⟨cached, hfound, rfl⟩, hparsed, ?_⟩⟩
      · show (serve _ _ (Coroutine.ofExcept (S := callSignature)
          (r.result _ _ _ _ _ _ _)) _ _).result = _
        rw [hc]
        rfl
      · rintro a ⟨hnone, -⟩
        rw [hfound] at hnone
        cases hnone
    | none =>
      -- a replay that finds nothing has raised
      obtain ⟨lane, hasked⟩ : ∃ lane, r.lanes.get? route.lane = some lane :=
        hlane.elim Option.isSome_iff_exists.mp
          fun hmode => absurd hfound (get_replay_found hmode p.key p.renderedHash)
      have hcomplete : r.looked route config q.purpose q.tick (some schema) p (.ok none)
          = r.complete route config lane q.purpose q.tick (some schema) p := by
        unfold LLMRouter.looked
        dsimp only
        rw [hasked]
      rw [hcomplete] at hserved ⊢
      obtain ⟨c, hc, hcase⟩ := complete_returns hq hprovider hlibrary hserved
      refine ⟨c, hc, ?_⟩
      obtain ⟨response, hanswer, hreply, hparsed⟩ | ⟨a, hanswer, hne, hparsed⟩ := hcase
      · refine .inl ⟨response, .inr ⟨hfound, lane, hasked, hanswer, hreply⟩, hparsed, ?_⟩
        rintro a ⟨-, lane', hasked', hanswer', hne⟩
        rw [hasked] at hasked'
        cases hasked'
        rw [show r.verdict q route config p lane s = .ok .permit from hanswer] at hanswer'
        cases hanswer'
        exact hne rfl
      · exact .inr ⟨a, ⟨hfound, lane, hasked, hanswer, hne⟩, hparsed⟩

/-! ### The variables the prompt is rendered with -/

omit [Sha256] [Uuid5] [Host] in
theorem instruction_ok (hq : Configured r q schema route config)
    (hschema : schema.complaints = []) :
    ∃ instruction, LLMRouter.schemaInstruction route q.schema = .ok instruction ∧
      instruction ≠ "" := by
  unfold LLMRouter.schemaInstruction
  rw [hq.schema_eq]
  dsimp only
  rw [if_pos hq.repairs, canonicalJson_ok hschema]
  refine ⟨_, rfl, fun hempty => ?_⟩
  have hlist := congrArg String.toList hempty
  simp at hlist

omit [Sha256] [Uuid5] [Host] in
theorem instruction_json (hq : Configured r q schema route config) {instruction : String}
    (h : LLMRouter.schemaInstruction route q.schema = .ok instruction) : schema.complaints = [] := by
  unfold LLMRouter.schemaInstruction at h
  rw [hq.schema_eq] at h
  dsimp only at h
  rw [if_pos hq.repairs] at h
  cases htext : canonicalJson schema with
  | ok text => exact complaints_of_ok htext
  | error e =>
    rw [htext] at h
    cases h

omit [Sha256] [Uuid5] in
theorem rendered_cases {promptVariables rendered : Dict String Json} {instruction : String}
    (h : LLMRouter.renderedVariables config instruction promptVariables = .ok rendered)
    (hne : instruction ≠ "") :
    (((config.extra.lookup "render_schema").getD (.bool false)).truthy = false ∧
        rendered = promptVariables) ∨
      ((config.extra.lookup "render_schema").getD (.bool false)).truthy = true ∧
        (Json.dict promptVariables.entries).complaints = [] ∧
        ∃ prompt, rendered = promptVariables.put "prompt" (.str prompt) := by
  unfold LLMRouter.renderedVariables at h
  split at h
  · next hrender =>
    obtain ⟨whole, hwhole, h⟩ := except_bind_eq_ok.mp h
    cases h
    exact .inr ⟨hrender.2, complaints_of_ok hwhole, _, rfl⟩
  · next hrender =>
    cases h
    exact .inl ⟨by simpa [hne] using hrender, rfl⟩

omit [Sha256] [Uuid5] in
theorem rendered_ok (config : LaneSettings) {promptVariables : Dict String Json}
    (h : (Json.dict promptVariables.entries).complaints = []) (instruction : String) :
    ∃ rendered, LLMRouter.renderedVariables config instruction promptVariables = .ok rendered := by
  unfold LLMRouter.renderedVariables
  split
  · rw [canonicalJson_ok h]
    exact ⟨_, rfl⟩
  · exact ⟨_, rfl⟩

theorem call_eq (hq : Configured r q schema route config) {instruction : String}
    {rendered : Dict String Json}
    (hinstruction : LLMRouter.schemaInstruction route q.schema = .ok instruction)
    (hrendered : LLMRouter.renderedVariables config instruction q.promptVariables = .ok rendered) :
    r.call q = (r.callOnce q.purpose q.agentId q.tick rendered q.schema >>= fun first =>
      if first.parsedOk then return first else r.repair q rendered instruction 2 1 [] first) := by
  unfold LLMRouter.call
  rw [keyed_ok hq.route_eq, Coroutine.ofExcept_ok, Coroutine.ret_bind, keyed_ok hq.config_eq,
    Coroutine.ofExcept_ok, Coroutine.ret_bind, hinstruction, Coroutine.ofExcept_ok,
    Coroutine.ret_bind, hrendered, Coroutine.ofExcept_ok, Coroutine.ret_bind]
  have hrepairs : q.schema.isNone = false ∧ route.structured = .repair :=
    ⟨by rw [hq.schema_eq]; rfl, hq.repairs⟩
  simp [hrepairs.1, hrepairs.2]

theorem call_json (hq : Configured r q schema route config) {c : CallResult}
    (h : (serve (S := callSignature) (handle r.settings) reply (r.call q) n s).result = .ok c) :
    schema.complaints = [] ∧ (Json.dict q.promptVariables.entries).complaints = [] := by
  unfold LLMRouter.call at h
  rw [keyed_ok hq.route_eq, Coroutine.ofExcept_ok, Coroutine.ret_bind, keyed_ok hq.config_eq,
    Coroutine.ofExcept_ok, Coroutine.ret_bind] at h
  cases hinstruction : LLMRouter.schemaInstruction route q.schema with
  | error e =>
    rw [hinstruction] at h
    cases h
  | ok instruction =>
    have hschema := instruction_json hq hinstruction
    obtain ⟨_, hmade, hne⟩ := instruction_ok hq hschema
    rw [hinstruction] at hmade
    cases hmade
    refine ⟨hschema, ?_⟩
    rw [hinstruction, Coroutine.ofExcept_ok, Coroutine.ret_bind] at h
    cases hrendered : LLMRouter.renderedVariables config instruction q.promptVariables with
    | error e =>
      rw [hrendered] at h
      cases h
    | ok rendered =>
      rw [hrendered, Coroutine.ofExcept_ok, Coroutine.ret_bind] at h
      obtain ⟨first, hfirst, -⟩ := Coroutine.serve_bind_ok h
      unfold LLMRouter.callOnce at hfirst
      rw [keyed_ok hq.route_eq, Coroutine.ofExcept_ok, Coroutine.ret_bind, keyed_ok hq.config_eq,
        Coroutine.ofExcept_ok, Coroutine.ret_bind] at hfirst
      cases hp : r.prepare route config q.purpose q.agentId q.tick rendered q.schema with
      | error e =>
        rw [hp] at hfirst
        cases hfirst
      | ok p =>
        obtain ⟨-, rfl⟩ | ⟨-, hjson, -⟩ := rendered_cases hrendered hne
        · exact prepare_json hp
        · exact hjson

omit [Uuid5] in
theorem Finds.unique {p : LLMRouter.Prepared} {a b : CompletionResponse}
    (ha : r.Finds q route config reply p n s a) (hb : r.Finds q route config reply p n s b) :
    a = b := by
  obtain ⟨x, hx, rfl⟩ | ⟨hx, lane, hlane, -, hreply⟩ := ha
  · obtain ⟨y, hy, rfl⟩ | ⟨hy, -⟩ := hb
    · rw [hx] at hy
      cases hy
      rfl
    · rw [hx] at hy
      cases hy
  · obtain ⟨y, hy, -⟩ | ⟨-, lane', hlane', -, hreply'⟩ := hb
    · rw [hx] at hy
      cases hy
    · rw [hlane] at hlane'
      cases hlane'
      rw [hreply] at hreply'
      cases hreply'
      rfl

end Attempt

/-! ## The repairs -/

section Repairs

variable [Sha256] [Uuid5] [Host] {r : LLMRouter} {q : CallRequest} {schema : Json}
  {route : RouteSpec} {config : LaneSettings} {reply : Replies}

theorem repair_returns (hq : Configured r q schema route config)
    (hprovider : ∀ i query, (reply i query).isOk = true)
    (hlibrary : ∀ text, (extractAndValidate text schema).isOk = true)
    (hschema : schema.complaints = []) {rendered : Dict String Json}
    (hrendered : (Json.dict rendered.entries).complaints = [])
    (hprompt : (rendered.get? "prompt").isSome = true) (instruction : String) (k attempt : Nat)
    (earlier : List CallResult) (last : CallResult) {n : Nat} {s : RouterState}
    (hlane : HasLane r route s)
    (hserved : AlongServe (S := callSignature) (handle r.settings) reply (Unraised r.settings)
      (r.repair q rendered instruction k attempt earlier last) n s) :
    ∃ c more, (serve (S := callSignature) (handle r.settings) reply
        (r.repair q rendered instruction k attempt earlier last) n s).result = .ok c ∧
      Attempts r q reply n s more
        (serve (S := callSignature) (handle r.settings) reply
          (r.repair q rendered instruction k attempt earlier last) n s).asked
        (serve (S := callSignature) (handle r.settings) reply
          (r.repair q rendered instruction k attempt earlier last) n s).state ∧
      more.length ≤ k ∧ Totals c (earlier ++ [last] ++ more) := by
  induction k generalizing attempt earlier last n s with
  | zero =>
    refine ⟨_, [], rfl, .none n s, le_refl _, ?_⟩
    rw [List.append_nil]
    exact ⟨rfl, rfl, rfl, rfl⟩
  | succ k ih =>
    obtain ⟨prompt, hprompt⟩ := Option.isSome_iff_exists.mp hprompt
    -- the variables of the repair, which are values of JSON
    obtain ⟨promptVariables, hrepaired, hjson⟩ : ∃ promptVariables,
        LLMRouter.repairedVariables rendered instruction last attempt = .ok promptVariables ∧
          (Json.dict promptVariables.entries).complaints = [] := by
      unfold LLMRouter.repairedVariables
      rw [keyed_ok hprompt]
      exact ⟨_, rfl, complaints_put (complaints_put hrendered _ rfl) _ rfl⟩
    obtain ⟨p, hp⟩ := prepare_ok r route config hjson hschema q.purpose q.agentId q.tick
    rw [← hq.schema_eq] at hp
    rw [LLMRouter.repair, hrepaired, Coroutine.ofExcept_ok, Coroutine.ret_bind] at hserved ⊢
    obtain ⟨honce, hrest⟩ := Coroutine.alongServe_bind hserved
    obtain ⟨next, hnext, -⟩ := callOnce_returns hq hlane hprovider hlibrary hp honce
    have hrest := hrest next hnext
    rw [Coroutine.serve_bind_eq hnext]
    by_cases hok : next.parsedOk = true
    · rw [if_pos hok]
      refine ⟨_, [next], rfl, .more promptVariables hnext (.none _ _), by simp, ?_⟩
      exact ⟨rfl, rfl, rfl, rfl⟩
    · rw [if_neg hok] at hrest ⊢
      obtain ⟨c, more, hc, hmade, hlen, htotals⟩ :=
        ih (attempt + 1) (earlier ++ [last]) next (hlane.served _) hrest
      refine ⟨c, next :: more, hc, .more promptVariables hnext hmade, by simpa using hlen, ?_⟩
      simpa using htotals

end Repairs

/-! ## A whole call -/

section Whole

variable [Sha256] [Uuid5] [Host] {r : LLMRouter} {q : CallRequest} {schema : Json}
  {route : RouteSpec} {config : LaneSettings} {reply : Replies} {n : Nat} {s : RouterState}

/-- The first attempt of a call on values of JSON. -/
structure First (r : LLMRouter) (q : CallRequest) (schema : Json) (route : RouteSpec)
    (config : LaneSettings) (reply : Replies) (n : Nat) (s : RouterState) (instruction : String)
    (rendered : Dict String Json) (p : LLMRouter.Prepared) (first : CallResult) : Prop where
  call_eq : r.call q = (r.callOnce q.purpose q.agentId q.tick rendered q.schema >>= fun first =>
    if first.parsedOk then return first else r.repair q rendered instruction 2 1 [] first)
  prepares : ∀ p', r.Prepares q route config p' ↔ p' = p
  json : (Json.dict rendered.entries).complaints = []
  prompt_iff : (rendered.get? "prompt").isSome = true ↔
    (q.promptVariables.get? "prompt").isSome = true ∨
      ((config.extra.lookup "render_schema").getD (.bool false)).truthy = true
  returned : (serve (S := callSignature) (handle r.settings) reply
    (r.callOnce q.purpose q.agentId q.tick rendered q.schema) n s).result = .ok first
  cases : (∃ response, r.Finds q route config reply p n s response ∧
      (first.parsedOk = true ↔ Matches schema response.text) ∧
      ∀ a, ¬r.Refused q route config p s a) ∨
    ∃ a, r.Refused q route config p s a ∧ first.parsedOk = false

namespace First

variable {instruction : String} {rendered : Dict String Json} {p : LLMRouter.Prepared}
  {first : CallResult}

theorem serve_parsed (h : First r q schema route config reply n s instruction rendered p first)
    (hok : first.parsedOk = true) :
    (serve (S := callSignature) (handle r.settings) reply (r.call q) n s).result = .ok first := by
  rw [h.call_eq, Coroutine.serve_bind_eq h.returned, if_pos hok]
  rfl

theorem serve_repair (h : First r q schema route config reply n s instruction rendered p first)
    (hno : ¬first.parsedOk = true) :
    let once := serve (S := callSignature) (handle r.settings) reply
      (r.callOnce q.purpose q.agentId q.tick rendered q.schema) n s
    let repairs := serve (S := callSignature) (handle r.settings) reply
      (r.repair q rendered instruction 2 1 [] first) once.asked once.state
    let whole := serve (S := callSignature) (handle r.settings) reply (r.call q) n s
    whole.result = repairs.result ∧ whole.asked = repairs.asked ∧ whole.state = repairs.state := by
  dsimp only
  rw [h.call_eq, Coroutine.serve_bind_eq h.returned, if_neg hno]
  exact ⟨rfl, rfl, rfl⟩

end First

variable (hq : Configured r q schema route config) (hlane : HasLane r route s)
  (hprovider : ∀ i query, (reply i query).isOk = true)
  (hlibrary : ∀ text, (extractAndValidate text schema).isOk = true)
  (hserved : AlongServe (S := callSignature) (handle r.settings) reply (Unraised r.settings)
    (r.call q) n s)

include hq hlane hprovider hlibrary hserved

theorem exists_first (hschema : schema.complaints = [])
    (hvariables : (Json.dict q.promptVariables.entries).complaints = []) :
    ∃ instruction rendered p first,
      First r q schema route config reply n s instruction rendered p first := by
  obtain ⟨instruction, hinstruction, hne⟩ := instruction_ok hq hschema
  obtain ⟨rendered, hrendered⟩ := rendered_ok config hvariables instruction
  have hcases := rendered_cases hrendered hne
  have hjson : (Json.dict rendered.entries).complaints = [] := by
    obtain ⟨-, rfl⟩ | ⟨-, -, prompt, rfl⟩ := hcases
    · exact hvariables
    · exact complaints_put hvariables _ rfl
  have hprompt : (rendered.get? "prompt").isSome = true ↔
      (q.promptVariables.get? "prompt").isSome = true ∨
        ((config.extra.lookup "render_schema").getD (.bool false)).truthy = true := by
    obtain ⟨hrender, rfl⟩ | ⟨hrender, -, prompt, rfl⟩ := hcases
    · simp [hrender]
    · simp [hrender]
  obtain ⟨p, hp⟩ := prepare_ok r route config hjson hschema q.purpose q.agentId q.tick
  rw [← hq.schema_eq] at hp
  have hcall := call_eq hq hinstruction hrendered
  rw [hcall] at hserved
  obtain ⟨first, hfirst, hfound⟩ :=
    callOnce_returns hq hlane hprovider hlibrary hp (Coroutine.alongServe_bind hserved).1
  refine ⟨instruction, rendered, p, first, hcall, fun p' => ⟨?_, ?_⟩, hjson, hprompt, hfirst,
    hfound⟩
  · rintro ⟨instruction', rendered', hinstruction', hrendered', hp'⟩
    rw [hinstruction] at hinstruction'
    cases hinstruction'
    rw [hrendered] at hrendered'
    cases hrendered'
    rw [hp] at hp'
    cases hp'
    rfl
  · rintro rfl
    exact ⟨instruction, rendered, hinstruction, hrendered, hp⟩

theorem repairable_of_bounded (h : Bounded r q schema route config reply n s) :
    Repairable r q schema route config reply n s := by
  obtain ⟨c, attempts, hreports⟩ := h
  have hjson := call_json hq hreports.returned
  obtain ⟨instruction, rendered, p, first, hfirst⟩ :=
    exists_first hq hlane hprovider hlibrary hserved hjson.1 hjson.2
  refine ⟨hjson, fun p' a hp hrefused => ?_, ?_⟩
  · -- the repairs of a refused attempt report no refusal
    cases (hfirst.prepares p').mp hp
    have hno : first.parsedOk = false := by
      obtain ⟨_, _, _, hunrefused⟩ | ⟨_, _, hno⟩ := hfirst.cases
      · exact absurd hrefused (hunrefused a)
      · exact hno
    have hrepaired := (hfirst.serve_repair (by simp [hno])).1
    rw [hreports.returned] at hrepaired
    have hfinal := (repair_yields (r := r) hq.schema_eq rendered instruction 2 1 [] first
      hno).served hrepaired.symm
    exact hfinal.unrefused a (hreports.refused p a hp hrefused).2
  · by_cases hprompt : (rendered.get? "prompt").isSome = true
    · exact (hfirst.prompt_iff.mp hprompt).imp_right .inl
    · refine .inr (.inr ?_)
      by_cases hok : first.parsedOk = true
      · obtain ⟨response, hfinds, hmatches, -⟩ | ⟨_, _, hno⟩ := hfirst.cases
        · exact ⟨p, response, (hfirst.prepares p).mpr rfl, hfinds, hmatches.mp hok⟩
        · rw [hno] at hok
          cases hok
      · -- the repair looks its prompt up
        have hrepaired := (hfirst.serve_repair hok).1
        have hnone : rendered.get? "prompt" = none := by simpa using hprompt
        have hraises : LLMRouter.repairedVariables rendered instruction first 1
            = .error (.key "prompt") := by
          unfold LLMRouter.repairedVariables keyed
          rw [hnone]
          rfl
        rw [hreports.returned, LLMRouter.repair, hraises] at hrepaired
        cases hrepaired

theorem bounded_of_repairable (h : Repairable r q schema route config reply n s) :
    Bounded r q schema route config reply n s := by
  obtain ⟨instruction, rendered, p, first, hfirst⟩ :=
    exists_first hq hlane hprovider hlibrary hserved h.json.1 h.json.2
  obtain ⟨response, hfinds, hmatches, hunrefused⟩ | ⟨a, hrefused, -⟩ := hfirst.cases
  swap
  · exact absurd hrefused (h.permitted p a ((hfirst.prepares p).mpr rfl))
  have hvalid : Valid schema first :=
    (hq.schema_eq ▸ callOnce_yields _ _ _ _ : Coroutine.Yields (Valid schema)
      (r.callOnce q.purpose q.agentId q.tick rendered q.schema)).served hfirst.returned
  by_cases hok : first.parsedOk = true
  · refine ⟨first, [first], hfirst.serve_parsed hok, ?_, by simp, fun hok => (hvalid hok).2,
      fun hno => ?_, ?_, fun p' a hp hrefused => absurd hrefused (h.permitted p' a hp)⟩
    · rw [hfirst.call_eq, Coroutine.serve_bind_eq hfirst.returned, if_pos hok]
      exact .more rendered hfirst.returned (.none _ _)
    · rw [hok] at hno
      cases hno
    · constructor <;> simp
  · have hprompt : (rendered.get? "prompt").isSome = true := by
      refine hfirst.prompt_iff.mpr ?_
      obtain hgiven | hrender | ⟨p', response', hp, hfinds', hmatches'⟩ := h.prompted
      · exact .inl hgiven
      · exact .inr hrender
      · cases (hfirst.prepares p').mp hp
        rw [Finds.unique hfinds' hfinds] at hmatches'
        exact absurd (hmatches.mpr hmatches') hok
    have hrest := hserved
    rw [hfirst.call_eq] at hrest
    have hrest := (Coroutine.alongServe_bind hrest).2 first hfirst.returned
    rw [if_neg hok] at hrest
    obtain ⟨c, more, hc, hmade, hlen, htotals⟩ := repair_returns hq hprovider hlibrary h.json.1
      hfirst.json hprompt instruction 2 1 [] first (hlane.served _) hrest
    have hfinal := (repair_yields (r := r) hq.schema_eq rendered instruction 2 1 [] first
      (by simpa using hok)).served hc
    obtain ⟨hresult, hasked, hstate⟩ := hfirst.serve_repair hok
    refine ⟨c, first :: more, hresult.trans hc, ?_, ⟨by simp, by simp; omega⟩,
      fun hok => (hfinal.valid hok).2, hfinal.degraded, htotals,
      fun p' a hp hrefused => absurd hrefused (h.permitted p' a hp)⟩
    rw [hasked, hstate]
    exact .more rendered hfirst.returned hmade

end Whole

/-! ## A news request -/

section News

attribute [local instance] Polis.Events.hashlib sampleHost sampleUuid5

def newsRoute : RouteSpec := { lane := "main", model := "m" }

def newsLane : LaneSettings := { kind := .openaiCompat }

/-- A router that asks for news with repairs. -/
def newsRouter : LLMRouter :=
  { sampleRouter with settings :=
      { sampleSettings with routing := (∅ : Dict String RouteSpec).put "NEWS_WRITE" newsRoute } }

def newsSchema : Json :=
  .dict [("required", .list [.str "headline", .str "body", .str "claims"]), ("type", .str "object")]

/-- What the news cycle asks: its variables hold no prompt. -/
def newsRequest : CallRequest where
  purpose := .newsWrite
  agentId := "ag_1"
  tick := 3
  promptVariables := Dict.ofList [("outlet_name", .str "The Herald"),
    ("editorial_direction", .str "centre"), ("verification_style", .str "standard"),
    ("reporter_id", .str "ag_1"), ("source_event", .dict [("seq", .int 1), ("tick", .int 2),
      ("kind", .int 900), ("payload", .dict [])]), ("reporter_memories", .list [])]
  schema := some newsSchema

theorem newsRouter_configured :
    Configured newsRouter newsRequest newsSchema newsRoute newsLane :=
  ⟨rfl, rfl, rfl, rfl⟩

theorem sample_library (schema : Json) : ∀ text, (extractAndValidate text schema).isOk = true := by
  intro text
  unfold extractAndValidate
  dsimp only
  split
  · rfl
  · split
    · rfl
    · rfl

end News

end Polis.Llm
