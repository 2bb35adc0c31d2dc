/-
  Polis.Llm.Router — one call of the router (`llm/router.py`,
  `llm/lanes.py`).

  A call is a coroutine: it acts on the guard and the cache at once, and waits
  only for the lane's reply.  A provider is its name, its model and its price;
  what it replies comes from outside.

  Main results:
    * `call_uses` — within its tick a call admits and charges only once its
      tick has begun.
-/
import Polis.Llm.Budget
import Polis.Llm.Cache
import Polis.Llm.Structured
import Polis.Kernel.Rng
import Polis.Lib.Coroutine

namespace Polis.Llm

open Lib.Bytes
open Lib (Dict Coroutine Signature)
open Polis.Events (Sha256)

/-! ## Lanes -/

/-- `Provider`. -/
structure Provider where
  name : String
  model : String
  price : Int → Int → Int → Rat

/-- `StubProvider`. -/
def stubProvider : Provider := ⟨"stub", "stub-v1", fun _ _ _ => 0⟩

/-- `price` of the providers that bill by the token. -/
def tokenPrice (config : LaneSettings) (tin tout tcached : Int) : Rat :=
  let uncached := max 0 (tin - tcached)
  let cachedPrice :=
    match config.priceCachedInUsdPerMtok with
    | some p => if p = 0 then config.priceInUsdPerMtok else p
    | none => config.priceInUsdPerMtok
  (uncached * config.priceInUsdPerMtok + tcached * cachedPrice
    + tout * config.priceOutUsdPerMtok) / 1000000

/-- `Lane`. -/
structure Lane where
  name : String
  provider : Provider

/-- `model_version_pin or model`: an empty pin is no pin. -/
def LaneSettings.pinned (config : LaneSettings) (model : String) : String :=
  match config.modelVersionPin with
  | some pin => if pin = "" then model else pin
  | none => model

/-- The lane of one entry of `providers`. -/
def buildLane (settings : LLMSettings) (name : String) (config : LaneSettings) :
    Except LlmError Lane :=
  if config.kind = .stub then .ok ⟨name, stubProvider⟩
  else
    let routeModels :=
      (settings.routing.values.filter fun route => route.lane = name).map RouteSpec.model
    let model := routeModels.head?.getD (config.pinned "")
    if config.kind = .codexCli ∨ config.kind = .grokCli then
      .ok ⟨name, name, model, tokenPrice config⟩
    else
      match config.extra.lookup "reasoning_split" with
      | none | some (.bool _) => .ok ⟨name, name, model, tokenPrice config⟩
      | some _ => .error (.value ("provider '" ++ name
          ++ "' extra.reasoning_split must be boolean"))

/-- `build_lanes`: a replay has none. -/
def buildLanes (settings : LLMSettings) : Except LlmError (Dict String Lane) :=
  if settings.cache.mode = .replay then .ok ∅
  else settings.providers.sortedEntries.foldlM (fun lanes e => do
    return lanes.put e.1 (← buildLane settings e.1 e.2)) ∅

/-! ## Calls -/

/-- `CallResult`. -/
structure CallResult where
  callId : UUID
  purpose : Purpose
  text : String
  parsed : Option Json
  parsedOk : Bool
  lane : String
  model : String
  modelVersion : Option String
  cacheKey : String
  cacheHit : Bool
  cacheMode : CacheMode
  tokensIn : Int
  tokensOut : Int
  tokensCachedIn : Int
  costUsd : Rat
  latencyMs : Int
  degraded : Bool
  budgetLine : String
  providerRequestId : Option String
  error : Option String
  repairAttempts : Nat := 0

/-- `CallRequest`. -/
structure CallRequest where
  purpose : Purpose
  agentId : String
  tick : Int
  promptVariables : Dict String Json
  schema : Option Json := none

/-- What a call does to the guard and the cache. -/
inductive Op where
  | cacheGet (key renderedHash : String)
  | reportedHit (key : String)
  | beginTick (tick : Int)
  | admission (line : String) (estIn estOut : Int) (estUsd : Rat)
  | charge (line : String) (tokensIn tokensOut : Int) (usd : Rat)
  | cachePut (record : CacheRecord)

/-- What it is answered. -/
abbrev Op.Ans : Op → Type
  | cacheGet _ _ => Except LlmError (Option CacheRecord)
  | reportedHit _ => Bool
  | beginTick _ => Unit
  | admission _ _ _ _ => Except LlmError Admission
  | charge _ _ _ _ => Except LlmError Unit
  | cachePut _ => Unit

/-- What it waits for: `lane.complete(request)`. -/
structure Query where
  lane : Lane
  request : CompletionRequest

/-- The input tokens a request is estimated at. -/
def Query.estimateIn (q : Query) : Int :=
  (q.request.system.length + q.request.user.length) / 4

abbrev callSignature : Signature where
  Op := Op
  Ans := Op.Ans
  Query := Query
  Reply := Except LlmError CompletionResponse
  Error := LlmError

abbrev Call := Coroutine callSignature

/-- `LLMRouter`: what does not change while it runs. -/
structure LLMRouter where
  settings : LLMSettings
  runSeed : Int
  runId : UUID
  lanes : Dict String Lane

/-- The guard and the cache of a router. -/
structure RouterState where
  budget : BudgetGuard
  cache : CompletionCache

/-- `settings[key]`. -/
def keyed {α : Type} (d : Dict String α) (key : String) : Except LlmError α :=
  match d.get? key with
  | some x => .ok x
  | none => .error (.key key)

section Router

variable [Sha256] [Uuid5] [Host]

/-- The guard and the cache answer at once. -/
def handle (settings : LLMSettings) : (o : Op) → RouterState → Op.Ans o × RouterState
  | .cacheGet key renderedHash, s =>
    ((s.cache.get key renderedHash).1, { s with cache := (s.cache.get key renderedHash).2 })
  | .reportedHit key, s => (s.cache.reportedHit key, s)
  | .beginTick tick, s => ((), { s with budget := s.budget.beginTick settings.budget tick })
  | .admission line estIn estOut estUsd, s =>
    let x := s.budget.admission settings.budget line estIn estOut estUsd
    (x.1, { s with budget := x.2 })
  | .charge line tokensIn tokensOut usd, s =>
    let x := s.budget.charge line tokensIn tokensOut usd
    (x.1, { s with budget := x.2 })
  | .cachePut record, s => ((), { s with cache := s.cache.put record })

namespace LLMRouter

/-- `_seed`. -/
def seed (r : LLMRouter) (purpose : Purpose) (agentId : String) (tick : Int) : Nat :=
  Kernel.fromBytes ((Sha256.digest (utf8 (Json.dict [
    ("run_id", .str r.runId), ("master_seed", .int r.runSeed), ("purpose", .str purpose.value),
    ("agent_id", .str agentId), ("tick", .int tick)]).text)).take 8)

/-- What `_call_once` works out before it looks the completion up. -/
structure Prepared where
  system : String
  user : String
  renderedHash : String
  sampling : SamplingParams
  key : String
  callId : UUID

/-- `schema_hash`: none for an empty schema. -/
def schemaHash : Option Json → Except LlmError (Option String)
  | some schema =>
    if schema.truthy then (canonicalBytes schema).map fun b => some (sha256Hex b) else .ok none
  | none => .ok none

def prepare (r : LLMRouter) (route : RouteSpec) (config : LaneSettings) (purpose : Purpose)
    (agentId : String) (tick : Int) (promptVariables : Dict String Json) (schema : Option Json) :
    Except LlmError Prepared := do
  let lane := r.lanes.get? route.lane
  let whole ← canonicalJson (.dict promptVariables.entries)
  let system := pyStr (promptVariables.getD "system" (.str "You are a POLIS agent."))
  let user := pyStr (promptVariables.getD "prompt" (.str whole))
  let sampling : SamplingParams :=
    { temperature := route.temperature, maxTokens := route.maxTokens
      seed := some (r.seed purpose agentId tick) }
  let schemaHash ← schemaHash schema
  let key ← cacheKey ((lane.map fun l => l.provider.name).getD route.lane) route.model
    (match lane with
      | some lane => some lane.provider.model
      | none => some (config.pinned route.model))
    (sha256Hex (utf8 route.template)) (.dict promptVariables.entries) sampling schemaHash
    (sampling.seed.getD 0)
  return {
    system := system
    user := user
    renderedHash := sha256Hex (utf8 (system ++ "\x1f" ++ user))
    sampling := sampling
    key := key
    callId := Uuid5.uuid5 Kernel.NAMESPACE_URL ("polis:" ++ r.runId ++ ":" ++ key) }

/-- `_result`. -/
def result (r : LLMRouter) (purpose : Purpose) (route : RouteSpec) (p : Prepared)
    (response : CompletionResponse) (schema : Option Json) (cacheHit : Bool) (cost : Rat) :
    Except LlmError CallResult := do
  let (parsed, error) ←
    match schema with
    | some schema =>
      if response.text ≠ "" then extractAndValidate response.text schema else .ok (none, none)
    | none => .ok (none, none)
  return {
    callId := p.callId
    purpose := purpose
    text := response.text
    parsed := parsed
    parsedOk := schema.isNone || parsed.isSome
    lane := route.lane
    model := route.model
    modelVersion := response.modelVersion
    cacheKey := p.key
    cacheHit := cacheHit
    cacheMode := r.settings.cache.mode
    tokensIn := response.tokensIn
    tokensOut := response.tokensOut
    tokensCachedIn := response.tokensCachedIn
    costUsd := cost
    latencyMs := response.latencyMs
    degraded := false
    budgetLine := PURPOSE_LINE purpose
    providerRequestId := response.providerRequestId
    error := error }

/-- The part of `_call_once` after the lane replied. -/
def settle (r : LLMRouter) (route : RouteSpec) (lane : Lane) (purpose : Purpose)
    (schema : Option Json) (p : Prepared) (response : CompletionResponse) : Call CallResult := do
  let cost := lane.provider.price response.tokensIn response.tokensOut response.tokensCachedIn
  let charged ← Coroutine.perform (S := callSignature)
    (.charge (PURPOSE_LINE purpose) response.tokensIn response.tokensOut cost)
  Coroutine.ofExcept charged
  Coroutine.perform (S := callSignature) (.cachePut ⟨p.key, p.renderedHash, response, cost⟩)
  Coroutine.ofExcept (r.result purpose route p response schema false cost)

/-- The result of a call the guard refuses. -/
def refused (r : LLMRouter) (route : RouteSpec) (lane : Lane) (purpose : Purpose)
    (schema : Option Json) (p : Prepared) (admission : Admission) :
    Except LlmError CallResult := do
  let empty : CompletionResponse := ⟨"", 0, 0, 0, some lane.provider.model, none, 0, "error"⟩
  let result ← r.result purpose route p empty schema false 0
  return { result with degraded := true, error := some admission.value }

/-- The part of `_call_once` after the guard's answer. -/
def answered (r : LLMRouter) (route : RouteSpec) (purpose : Purpose) (schema : Option Json)
    (p : Prepared) (query : Query) : Except LlmError Admission → Call CallResult
  | .error e => Coroutine.raise e
  | .ok .permit => do
    let reply ← Coroutine.query (S := callSignature) query
    let response ← Coroutine.ofExcept (S := callSignature) reply
    r.settle route query.lane purpose schema p response
  | .ok refusal => Coroutine.ofExcept (r.refused route query.lane purpose schema p refusal)

/-- The question a call puts to its lane. -/
def question (config : LaneSettings) (lane : Lane) (purpose : Purpose) (schema : Option Json)
    (p : Prepared) : Query :=
  ⟨lane,
    { purpose := purpose.value, system := p.system, user := p.user, schema := schema
      sampling := p.sampling, callSeed := p.sampling.seed.getD 0, timeoutS := config.timeoutS }⟩

/-- The part of `_call_once` after a lookup that found nothing. -/
def complete (r : LLMRouter) (route : RouteSpec) (config : LaneSettings) (lane : Lane)
    (purpose : Purpose) (tick : Int) (schema : Option Json) (p : Prepared) : Call CallResult := do
  Coroutine.perform (S := callSignature) (.beginTick tick)
  let query := question config lane purpose schema p
  let estimateUsd := lane.provider.price query.estimateIn route.maxTokens 0
  let admission ← Coroutine.perform (S := callSignature)
    (.admission (PURPOSE_LINE purpose) query.estimateIn route.maxTokens estimateUsd)
  r.answered route purpose schema p query admission

/-- The part of `_call_once` after the lookup. -/
def looked (r : LLMRouter) (route : RouteSpec) (config : LaneSettings) (purpose : Purpose)
    (tick : Int) (schema : Option Json) (p : Prepared) :
    Except LlmError (Option CacheRecord) → Call CallResult
  | .error e => Coroutine.raise e
  | .ok (some cached) => do
    let hit ← Coroutine.perform (S := callSignature) (.reportedHit p.key)
    Coroutine.ofExcept (r.result purpose route p cached.response schema hit cached.costUsd)
  | .ok none =>
    match r.lanes.get? route.lane with
    | none => Coroutine.raise (.runtime ("provider lane '" ++ route.lane
        ++ "' unavailable in replay mode"))
    | some lane => r.complete route config lane purpose tick schema p

/-- `_call_once`. -/
def callOnce (r : LLMRouter) (purpose : Purpose) (agentId : String) (tick : Int)
    (promptVariables : Dict String Json) (schema : Option Json) : Call CallResult := do
  let route ← Coroutine.ofExcept (keyed r.settings.routing purpose.value)
  let config ← Coroutine.ofExcept (keyed r.settings.providers route.lane)
  let p ← Coroutine.ofExcept (r.prepare route config purpose agentId tick promptVariables schema)
  let found ← Coroutine.perform (S := callSignature) (.cacheGet p.key p.renderedHash)
  r.looked route config purpose tick schema p found

/-- `_aggregate_attempts`, of the attempts before and the last one. -/
def aggregateAttempts (earlier : List CallResult) (final : CallResult) : CallResult :=
  let attempts := earlier ++ [final]
  { final with
    tokensIn := (attempts.map CallResult.tokensIn).sum
    tokensOut := (attempts.map CallResult.tokensOut).sum
    tokensCachedIn := (attempts.map CallResult.tokensCachedIn).sum
    costUsd := (attempts.map CallResult.costUsd).sum
    latencyMs := (attempts.map CallResult.latencyMs).sum
    repairAttempts := earlier.length }

/-- The variables of a repair. -/
def repairedVariables (rendered : Dict String Json) (instruction : String) (last : CallResult)
    (attempt : Nat) : Except LlmError (Dict String Json) := do
  let error :=
    match last.error with
    | some e => if e = "" then "response did not match the required schema" else e
    | none => "response did not match the required schema"
  let prompt ← keyed rendered "prompt"
  return (rendered.put "prompt" (.str (pyStr prompt ++ "\n\n" ++ instruction
    ++ "\nValidation error: " ++ error ++ "\nReturn a corrected JSON object only."))).put
      "repair_attempt" (.int attempt)

/-- The repair loop: `n` repairs are left after `attempt - 1` of them. -/
def repair (r : LLMRouter) (q : CallRequest) (rendered : Dict String Json)
    (instruction : String) : Nat → Nat → List CallResult → CallResult → Call CallResult
  | 0, _, earlier, last =>
    return { aggregateAttempts earlier last with
      degraded := true
      error := some ("schema_repair_exhausted: " ++ last.error.getD "None") }
  | n + 1, attempt, earlier, last => do
    let promptVariables ← Coroutine.ofExcept (repairedVariables rendered instruction last attempt)
    let next ← r.callOnce q.purpose q.agentId q.tick promptVariables q.schema
    if next.parsedOk then return aggregateAttempts (earlier ++ [last]) next
    else r.repair q rendered instruction n (attempt + 1) (earlier ++ [last]) next

/-- The schema as the prompt shows it, where replies are repaired. -/
def schemaInstruction (route : RouteSpec) (schema : Option Json) : Except LlmError String :=
  match schema with
  | some schema =>
    if route.structured = .repair then
      (canonicalJson schema).map fun text =>
        "No deep analysis is needed. Answer directly.\n## Required JSON Schema\n" ++ text
          ++ "\nReturn one JSON object matching this schema and no other text."
    else .ok ""
  | none => .ok ""

/-- The variables the prompt is rendered with. -/
def renderedVariables (config : LaneSettings) (instruction : String)
    (promptVariables : Dict String Json) : Except LlmError (Dict String Json) := do
  if instruction ≠ "" ∧ ((config.extra.lookup "render_schema").getD (.bool false)).truthy then
    let whole ← canonicalJson (.dict promptVariables.entries)
    return promptVariables.put "prompt"
      (.str (pyStr (promptVariables.getD "prompt" (.str whole)) ++ "\n\n" ++ instruction))
  else return promptVariables

/-- `call`. -/
def call (r : LLMRouter) (q : CallRequest) : Call CallResult := do
  let route ← Coroutine.ofExcept (keyed r.settings.routing q.purpose.value)
  let config ← Coroutine.ofExcept (keyed r.settings.providers route.lane)
  let instruction ← Coroutine.ofExcept (schemaInstruction route q.schema)
  let rendered ← Coroutine.ofExcept (renderedVariables config instruction q.promptVariables)
  let first ← r.callOnce q.purpose q.agentId q.tick rendered q.schema
  if q.schema.isNone || route.structured ≠ .repair || first.parsedOk then return first
  else r.repair q rendered instruction 2 1 [] first

/-! ## The acts of a call -/

end LLMRouter

end Router

/-- The acts of a call of tick `tick`: it admits and charges where its tick
has begun. -/
def InTick (tick : Int) : Bool → Op → Prop
  | _, .beginTick t => t = tick
  | begun, .admission _ _ _ _ | begun, .charge _ _ _ _ => begun = true
  | _, _ => True

def Op.begins : Op → Bool
  | beginTick _ => true
  | _ => false

namespace LLMRouter

variable [Sha256] [Uuid5] [Host] {r : LLMRouter} {tick : Int}

omit [Sha256] [Uuid5] in
theorem settle_eq (route : RouteSpec) (lane : Lane) (purpose : Purpose) (schema : Option Json)
    (p : Prepared) (response : CompletionResponse) :
    r.settle route lane purpose schema p response =
      .act (.charge (PURPOSE_LINE purpose) response.tokensIn response.tokensOut
          (lane.provider.price response.tokensIn response.tokensOut response.tokensCachedIn))
        fun charged => Coroutine.ofExcept (S := callSignature) charged >>= fun _ =>
          .act (.cachePut ⟨p.key, p.renderedHash, response,
            lane.provider.price response.tokensIn response.tokensOut response.tokensCachedIn⟩)
            fun _ => Coroutine.ofExcept (r.result purpose route p response schema false
              (lane.provider.price response.tokensIn response.tokensOut
                response.tokensCachedIn)) := rfl

omit [Sha256] [Uuid5] in
theorem answered_permit (route : RouteSpec) (purpose : Purpose) (schema : Option Json)
    (p : Prepared) (query : Query) :
    r.answered route purpose schema p query (.ok .permit) =
      .ask query fun reply => Coroutine.ofExcept (S := callSignature) reply >>= fun response =>
        r.settle route query.lane purpose schema p response := rfl

omit [Sha256] [Uuid5] in
theorem complete_eq (route : RouteSpec) (config : LaneSettings) (lane : Lane)
    (purpose : Purpose) (schema : Option Json) (p : Prepared) :
    r.complete route config lane purpose tick schema p =
      .act (.beginTick tick) fun _ =>
        .act (.admission (PURPOSE_LINE purpose)
            (question config lane purpose schema p).estimateIn route.maxTokens
            (lane.provider.price (question config lane purpose schema p).estimateIn
              route.maxTokens 0))
          (r.answered route purpose schema p (question config lane purpose schema p)) := rfl

omit [Sha256] [Uuid5] in
theorem settle_uses (route : RouteSpec) (lane : Lane) (purpose : Purpose)
    (schema : Option Json) (p : Prepared) (response : CompletionResponse) :
    (r.settle route lane purpose schema p response).Uses (InTick tick) Op.begins true := by
  rw [settle_eq]
  refine ⟨rfl, fun charged => ?_⟩
  cases charged with
  | error e => trivial
  | ok _ => exact ⟨trivial, fun _ => Coroutine.uses_ofExcept _ _⟩

omit [Sha256] [Uuid5] in
theorem complete_uses (b : Bool) (route : RouteSpec) (config : LaneSettings) (lane : Lane)
    (purpose : Purpose) (schema : Option Json) (p : Prepared) :
    (r.complete route config lane purpose tick schema p).Uses (InTick tick) Op.begins b := by
  rw [complete_eq]
  refine ⟨rfl, fun _ => ?_⟩
  -- from here on the tick has begun
  rw [show (b || Op.begins (.beginTick tick)) = true from Bool.or_true b]
  refine ⟨rfl, fun admission => ?_⟩
  match admission with
  | .error e => trivial
  | .ok .degrade => exact Coroutine.uses_ofExcept _ _
  | .ok .halt => exact Coroutine.uses_ofExcept _ _
  | .ok .permit =>
    intro reply
    cases reply with
    | error e => trivial
    | ok response => exact settle_uses route lane purpose schema p response

theorem callOnce_uses (b : Bool) (purpose : Purpose) (agentId : String)
    (promptVariables : Dict String Json) (schema : Option Json) :
    (r.callOnce purpose agentId tick promptVariables schema).Uses (InTick tick) Op.begins b := by
  unfold callOnce
  refine Coroutine.uses_bind (Coroutine.uses_ofExcept _ _) fun route b => ?_
  refine Coroutine.uses_bind (Coroutine.uses_ofExcept _ _) fun config b => ?_
  refine Coroutine.uses_bind (Coroutine.uses_ofExcept _ _) fun p b => ?_
  refine ⟨trivial, fun found => ?_⟩
  match found with
  | .error e => trivial
  | .ok (some cached) => exact ⟨trivial, fun hit => Coroutine.uses_ofExcept _ _⟩
  | .ok none =>
    show Coroutine.Uses _ _ _ (r.looked _ _ _ _ _ _ (.ok none))
    unfold looked
    dsimp only
    cases r.lanes.get? route.lane with
    | none => trivial
    | some lane => exact complete_uses _ route config lane purpose schema p

theorem repair_uses (q : CallRequest) (hq : q.tick = tick) (rendered : Dict String Json)
    (instruction : String) (n attempt : Nat) (earlier : List CallResult) (last : CallResult)
    (b : Bool) :
    (r.repair q rendered instruction n attempt earlier last).Uses (InTick tick) Op.begins b := by
  induction n generalizing attempt earlier last b with
  | zero => trivial
  | succ n ih =>
    refine Coroutine.uses_bind (Coroutine.uses_ofExcept _ _) fun promptVariables b => ?_
    refine Coroutine.uses_bind (hq ▸ callOnce_uses b _ _ _ _) fun next b => ?_
    split
    · trivial
    · exact ih _ _ _ b

theorem call_uses (q : CallRequest) (hq : q.tick = tick) (b : Bool) :
    (r.call q).Uses (InTick tick) Op.begins b := by
  unfold call
  refine Coroutine.uses_bind (Coroutine.uses_ofExcept _ _) fun route b => ?_
  refine Coroutine.uses_bind (Coroutine.uses_ofExcept _ _) fun config b => ?_
  refine Coroutine.uses_bind (Coroutine.uses_ofExcept _ _) fun instruction b => ?_
  refine Coroutine.uses_bind (Coroutine.uses_ofExcept _ _) fun rendered b => ?_
  refine Coroutine.uses_bind (hq ▸ callOnce_uses b _ _ _ _) fun first b => ?_
  split
  · trivial
  · exact repair_uses q hq _ _ _ _ _ _ b

end LLMRouter

end Polis.Llm
