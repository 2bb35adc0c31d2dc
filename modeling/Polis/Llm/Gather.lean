/-
  Polis.Llm.Gather — a batch of calls side by side (`LLMRouter.gather`).

  `asyncio.gather` starts the calls in request order; each runs until it waits
  for its lane, and goes on when its reply is there.  The guard counts a call
  where it admits it, but charges its tokens and its cost only when its reply
  has come.

  Main results:
    * `gather_within_caps` — the caps hold, and the same requests are refused,
      in every run of the batch in which the cache and the guard answer each
      call as they do when the requests are served one after another.
    * `tokens_overrun` — two calls that wait together pass a cap that either
      alone respects.
-/
import Mathlib.Algebra.Group.Prod
import Mathlib.Tactic.GCongr
import Polis.Lib.Effect
import Polis.Llm.Router

namespace Polis.Llm

open Lib (Dict Coroutine Pool Task)
open Lib.Coroutine (Told Served Counts Keeps serve)
open Polis.Events (Sha256)

/-! ## The ceiling -/

/-- The guard is at or below every cap. -/
structure WithinCaps (settings : LLMBudgetSettings) (g : BudgetGuard) : Prop where
  calls : ∀ line cap, settings.lines.get? line = some cap →
    (g.lineUsage line).calls ≤ cap.callsPerTick
  tokens : ∀ line cap, settings.lines.get? line = some cap →
    (g.lineUsage line).tokens ≤ cap.tokensPerTick
  run : ∀ most, settings.maxCallsPerRun = some most → g.cumulativeCalls ≤ most
  usd : g.cumulativeUsd ≤ settings.usdPerRun

/-- The guard counted no more calls than a line or the run may make. -/
structure CallsWithin (settings : LLMBudgetSettings) (g : BudgetGuard) : Prop where
  calls : ∀ line cap, settings.lines.get? line = some cap →
    (g.lineUsage line).calls ≤ cap.callsPerTick
  run : ∀ most, settings.maxCallsPerRun = some most → g.cumulativeCalls ≤ most

theorem WithinCaps.callsWithin {settings : LLMBudgetSettings} {g : BudgetGuard}
    (h : WithinCaps settings g) : CallsWithin settings g := ⟨h.calls, h.run⟩

/-- What the guard reads in a tick is at or below every cap. -/
def Ceiling (settings : LLMBudgetSettings) (tick : Int) (s : RouterState) : Prop :=
  WithinCaps settings (s.budget.beginTick settings tick)

/-- Providers report no more tokens and no higher price than the estimate a
call is admitted with. -/
def WithinEstimates
    (replies : Nat → Nat → Query → Except LlmError CompletionResponse) : Prop :=
  ∀ i n q response, replies i n q = .ok response →
    response.tokensIn + response.tokensOut ≤ q.estimateIn + q.request.sampling.maxTokens ∧
    q.lane.provider.price response.tokensIn response.tokensOut response.tokensCachedIn ≤
      q.lane.provider.price q.estimateIn q.request.sampling.maxTokens 0

/-- The answer refuses the call. -/
def refusal : ((o : Op) × o.Ans) → Bool
  | ⟨.admission _ _ _ _, .ok .degrade⟩ | ⟨.admission _ _ _ _, .ok .halt⟩ => true
  | _ => false

/-- For each request, whether one of its calls was refused. -/
def refusedRequests (p : Pool callSignature RouterState CallResult) : List Bool :=
  p.tasks.map fun t => t.told.any refusal

namespace BudgetGuard

variable {settings : LLMBudgetSettings}

theorem lineUsage_put (g : BudgetGuard) (line x : String) (usage : Usage) :
    (g.usage.put line usage).getD x {} = if x = line then usage else g.lineUsage x := by
  unfold lineUsage Dict.getD
  rw [Dict.get?_put]
  split <;> rfl

theorem lineUsage_of_get? {g : BudgetGuard} {line : String} {usage : Usage}
    (h : g.usage.get? line = some usage) : g.lineUsage line = usage := by
  unfold lineUsage Dict.getD
  rw [h]
  rfl

theorem Same.within {g g' : BudgetGuard} (h : g.Same g') (hg : WithinCaps settings g) :
    WithinCaps settings g' := by
  obtain ⟨_, husage, hcalls, husd⟩ := h
  constructor
  · intro line cap hcap
    have := hg.calls line cap hcap
    rwa [lineUsage, husage]
  · intro line cap hcap
    have := hg.tokens line cap hcap
    rwa [lineUsage, husage]
  · rw [hcalls]
    exact hg.run
  · rw [husd]
    exact hg.usd

theorem callsWithin_count {g : BudgetGuard} {line : String} {estIn estOut : Int} {estUsd : Rat}
    {usage : Usage} (hg : CallsWithin settings g) (husage : g.usage.get? line = some usage)
    (h : (g.admission settings line estIn estOut estUsd).1 = .ok .permit) :
    CallsWithin settings (g.count line usage) := by
  obtain ⟨cap, usage', hcap, husage', hcalls, _, _, hrun⟩ := admission_permits h
  have hsame : usage' = usage := by simpa [husage] using husage'.symm
  subst hsame
  constructor
  · intro x xcap hx
    show ((g.usage.put line _).getD x {}).calls ≤ _
    rw [lineUsage_put]
    split
    · next hxl =>
      have : xcap = cap := by simpa [hxl, hcap] using hx.symm
      subst this
      exact hcalls
    · exact hg.calls x xcap hx
  · intro most hmost
    exact hrun most hmost

theorem callsWithin_charge {g : BudgetGuard} (hg : CallsWithin settings g) (line : String)
    (tokensIn tokensOut : Int) (usd : Rat) :
    CallsWithin settings (g.charge line tokensIn tokensOut usd).2 := by
  rcases charge_cases line tokensIn tokensOut usd g with ⟨usage, husage, h⟩ | h
  · rw [h]
    refine ⟨fun x xcap hx => ?_, hg.run⟩
    have hx' := hg.calls x xcap hx
    show ((g.usage.put line _).getD x {}).calls ≤ _
    rw [lineUsage_put]
    split
    · next hxl =>
      rw [hxl, lineUsage_of_get? husage] at hx'
      exact hx'
    · exact hx'
  · rw [h]
    exact hg

theorem within_count {g : BudgetGuard} {line : String} {estIn estOut : Int} {estUsd : Rat}
    {usage : Usage} (hg : WithinCaps settings g) (husage : g.usage.get? line = some usage)
    (h : (g.admission settings line estIn estOut estUsd).1 = .ok .permit) :
    WithinCaps settings (g.count line usage) := by
  have hcalls := callsWithin_count hg.callsWithin husage h
  refine ⟨hcalls.calls, fun x xcap hx => ?_, hcalls.run, hg.usd⟩
  have htokens := hg.tokens x xcap hx
  show ((g.usage.put line _).getD x {}).tokens ≤ _
  rw [lineUsage_put]
  split
  · next hxl =>
    rw [hxl, lineUsage_of_get? husage] at htokens
    exact htokens
  · exact htokens

theorem within_charge {g : BudgetGuard} {line : String} {estIn estOut tokensIn tokensOut : Int}
    {estUsd usd : Rat} {usage : Usage} (hg : WithinCaps settings g)
    (husage : g.usage.get? line = some usage)
    (h : (g.admission settings line estIn estOut estUsd).1 = .ok .permit)
    (htokens : tokensIn + tokensOut ≤ estIn + estOut) (husd : usd ≤ estUsd) :
    WithinCaps settings ((g.count line usage).charge line tokensIn tokensOut usd).2 := by
  have hcount := within_count hg husage h
  obtain ⟨cap, usage', hcap, husage', _, hroom, hmoney, _⟩ := admission_permits h
  have hsame : usage' = usage := by simpa [husage] using husage'.symm
  subst hsame
  have hnow : (g.count line usage').usage.get? line =
      some { usage' with calls := usage'.calls + 1 } := by
    simp [count]
  rcases charge_cases line tokensIn tokensOut usd (g.count line usage') with ⟨u, hu, hc⟩ | hc
  · rw [hc]
    rw [hnow, Option.some.injEq] at hu
    subst hu
    have hcalls := callsWithin_charge hcount.callsWithin line tokensIn tokensOut usd
    rw [hc] at hcalls
    refine ⟨hcalls.calls, fun x xcap hx => ?_, hcalls.run, ?_⟩
    · have hx' := hcount.tokens x xcap hx
      show (((g.count line usage').usage.put line _).getD x {}).tokens ≤ _
      rw [lineUsage_put]
      split
      · next hxl =>
        have hsame : xcap = cap := by simpa [hxl, hcap] using hx.symm
        subst hsame
        show usage'.tokens + (tokensIn + tokensOut) ≤ _
        omega
      · exact hx'
    · show g.cumulativeUsd + usd ≤ _
      exact le_trans (by gcongr) hmoney
  · rw [hc]
    exact hcount

theorem beginTick_beginTick (tick : Int) (g : BudgetGuard) :
    (g.beginTick settings tick).beginTick settings tick = g.beginTick settings tick :=
  beginTick_of_tick (beginTick_tick tick g)

end BudgetGuard

/-! ## One call served alone -/

section Calls

variable [Sha256] [Uuid5] [Host] {r : LLMRouter} {tick : Int}

/-- What a line, the run and the purse read in a tick. -/
def reading (settings : LLMBudgetSettings) (tick : Int) (line : String) (s : RouterState) :
    Int × Int × Int × Rat :=
  let g := s.budget.beginTick settings tick
  ((g.lineUsage line).calls, (g.lineUsage line).tokens, g.cumulativeCalls, g.cumulativeUsd)

/-- What an act adds to the reading of a line. -/
def entered (line : String) : ((o : Op) × o.Ans) → Int × Int × Int × Rat
  | ⟨.admission l _ _ _, .ok .permit⟩ => (if line = l then 1 else 0, 0, 1, 0)
  | ⟨.charge l tokensIn tokensOut usd, .ok ()⟩ =>
    (0, if line = l then tokensIn + tokensOut else 0, 0, usd)
  | _ => 0

omit [Uuid5] in
theorem handle_counts (settings : LLMSettings) (tick : Int) (line : String) :
    Counts (S := callSignature) (handle settings) (InTick tick) Op.begins
      (fun s => s.budget.tick = tick) (reading settings.budget tick line) (entered line) where
  add := by
    intro b o s ho hb
    cases o with
    | cacheGet key renderedHash => exact (add_zero _).symm
    | reportedHit key => exact (add_zero _).symm
    | cachePut record => exact (add_zero _).symm
    | beginTick t =>
      have ht : t = tick := ho
      subst ht
      show reading settings.budget t line { s with budget := s.budget.beginTick _ t } = _ + 0
      rw [add_zero, reading, BudgetGuard.beginTick_beginTick]
      rfl
    | admission l estIn estOut estUsd =>
      have hnow : s.budget.tick = tick := hb ho
      have hlater : (s.budget.admission settings.budget l estIn estOut estUsd).2.tick = tick := by
        rw [BudgetGuard.admission_tick, hnow]
      simp only [reading, handle, BudgetGuard.beginTick_of_tick hnow,
        BudgetGuard.beginTick_of_tick hlater]
      rcases BudgetGuard.admission_cases settings.budget l estIn estOut estUsd
        s.budget with ⟨usage, husage, h⟩ | ⟨hne, _, hu, hc, hm⟩
      · rw [h]
        show (((s.budget.usage.put l _).getD line {}).calls,
          ((s.budget.usage.put l _).getD line {}).tokens, _, _) = _
        rw [BudgetGuard.lineUsage_put]
        by_cases hl : line = l
        · subst hl
          simp [entered, BudgetGuard.count, BudgetGuard.lineUsage_of_get? husage]
        · simp [entered, BudgetGuard.count, hl]
      · -- a refusal or a missing line enters nothing
        have hzero : entered line ⟨.admission l estIn estOut estUsd,
            (s.budget.admission settings.budget l estIn estOut estUsd).1⟩ = 0 := by
          generalize (s.budget.admission settings.budget l estIn estOut estUsd).1 = x at hne
          match x with
          | .error _ => rfl
          | .ok .degrade => rfl
          | .ok .halt => rfl
          | .ok .permit => exact absurd rfl hne
        rw [hzero, add_zero, BudgetGuard.lineUsage, hu, hc, hm]
        rfl
    | charge l tokensIn tokensOut usd =>
      have hnow : s.budget.tick = tick := hb ho
      have hlater : (s.budget.charge l tokensIn tokensOut usd).2.tick = tick := by
        rw [BudgetGuard.charge_tick, hnow]
      simp only [reading, handle, BudgetGuard.beginTick_of_tick hnow,
        BudgetGuard.beginTick_of_tick hlater]
      rcases BudgetGuard.charge_cases l tokensIn tokensOut usd s.budget with
        ⟨usage, husage, h⟩ | h
      · rw [h]
        show (((s.budget.usage.put l _).getD line {}).calls,
          ((s.budget.usage.put l _).getD line {}).tokens, _, _) = _
        rw [BudgetGuard.lineUsage_put]
        by_cases hl : line = l
        · subst hl
          simp [entered, BudgetGuard.lineUsage_of_get? husage]
        · simp [entered, hl]
      · rw [h]
        simp [entered]
  opens := by
    intro b o s ho hopens
    cases o with
    | beginTick t =>
      have ht : t = tick := ho
      subst ht
      exact BudgetGuard.beginTick_tick t s.budget
    | cacheGet _ _ | reportedHit _ | admission _ _ _ _ | charge _ _ _ _ | cachePut _ => cases hopens
  stays := by
    intro b o s ho hs
    cases o with
    | cacheGet _ _ | reportedHit _ | cachePut _ => exact hs
    | beginTick t =>
      have ht : t = tick := ho
      subst ht
      exact BudgetGuard.beginTick_tick t s.budget
    | admission l estIn estOut estUsd => exact (BudgetGuard.admission_tick l _ _ _ _).trans hs
    | charge l tokensIn tokensOut usd => exact (BudgetGuard.charge_tick l _ _ _ _).trans hs

theorem prepare_maxTokens {route : RouteSpec} {config : LaneSettings} {purpose : Purpose}
    {agentId : String} {promptVariables : Dict String Json} {schema : Option Json}
    {p : LLMRouter.Prepared}
    (h : r.prepare route config purpose agentId tick promptVariables schema = .ok p) :
    p.sampling.maxTokens = route.maxTokens := by
  unfold LLMRouter.prepare at h
  obtain ⟨whole, _, h⟩ := Lib.Effect.except_bind_eq_ok.mp h
  obtain ⟨schemaHash, _, h⟩ := Lib.Effect.except_bind_eq_ok.mp h
  obtain ⟨key, _, h⟩ := Lib.Effect.except_bind_eq_ok.mp h
  cases h
  rfl

variable {replies : Nat → Nat → Query → Except LlmError CompletionResponse}

omit [Uuid5] in
theorem settle_keeps (i : Nat) {settings : LLMSettings} (route : RouteSpec) (lane : Lane)
    (purpose : Purpose) (schema : Option Json) (p : LLMRouter.Prepared)
    (response : CompletionResponse) (n : Nat) (s : RouterState)
    (hs : Ceiling settings.budget tick { s with budget := (s.budget.charge (PURPOSE_LINE purpose)
      response.tokensIn response.tokensOut
      (lane.provider.price response.tokensIn response.tokensOut response.tokensCachedIn)).2 }) :
    Ceiling settings.budget tick (serve (S := callSignature) (handle settings) (replies i)
      (r.settle route lane purpose schema p response) n s).state := by
  rw [LLMRouter.settle_eq, Coroutine.serve_act_state]
  refine Coroutine.keeps_bind (Coroutine.keeps_ofExcept _) (fun _ => ?_) _ _ hs
  exact Coroutine.keeps_act (fun _ h => h) fun _ => Coroutine.keeps_ofExcept _

omit [Uuid5] in
theorem complete_keeps (hest : WithinEstimates replies) (i : Nat) {settings : LLMSettings}
    (route : RouteSpec) (config : LaneSettings) (lane : Lane) (purpose : Purpose)
    (schema : Option Json) (p : LLMRouter.Prepared)
    (hp : p.sampling.maxTokens = route.maxTokens) :
    Keeps (S := callSignature) (handle settings) (replies i) (Ceiling settings.budget tick)
      (r.complete route config lane purpose tick schema p) := by
  intro n s hs
  rw [LLMRouter.complete_eq, Coroutine.serve_act_state, Coroutine.serve_act_state]
  have hbegun : (handle settings (.beginTick tick) s).2.budget.tick = tick :=
    BudgetGuard.beginTick_tick tick s.budget
  have hcaps : WithinCaps settings.budget (handle settings (.beginTick tick) s).2.budget := hs
  generalize (handle settings (.beginTick tick) s).2 = s at hbegun hcaps
  have hmax : (LLMRouter.question config lane purpose schema p).request.sampling.maxTokens =
      route.maxTokens := hp
  have hlane : (LLMRouter.question config lane purpose schema p).lane = lane := rfl
  generalize LLMRouter.question config lane purpose schema p = query at hmax hlane
  subst hlane
  rcases BudgetGuard.admission_cases settings.budget (PURPOSE_LINE purpose)
    query.estimateIn route.maxTokens (query.lane.provider.price query.estimateIn route.maxTokens 0)
    s.budget with ⟨usage, husage, h⟩ | ⟨hne, hsame⟩
  · have hpermit := congrArg Prod.fst h
    have hcount := BudgetGuard.within_count hcaps husage hpermit
    show Ceiling _ _ (serve _ _ (r.answered _ _ _ _ _ (s.budget.admission _ _ _ _ _).1) _ _).state
    simp only [handle, h]
    rw [LLMRouter.answered_permit, Coroutine.serve_ask]
    cases hreply : replies i n query with
    | error e =>
      show WithinCaps _ ((s.budget.count _ usage).beginTick _ tick)
      rw [BudgetGuard.beginTick_of_tick (show (s.budget.count _ usage).tick = tick from hbegun)]
      exact hcount
    | ok response =>
      obtain ⟨htokens, hprice⟩ := hest i n query response hreply
      rw [hmax] at htokens
      rw [hmax] at hprice
      apply settle_keeps
      have hcharge := BudgetGuard.within_charge hcaps husage hpermit htokens hprice
      show WithinCaps _ (BudgetGuard.beginTick _ tick _)
      rw [BudgetGuard.beginTick_of_tick]
      · exact hcharge
      · rw [BudgetGuard.charge_tick]
        exact hbegun
  · have hafter : Ceiling settings.budget tick (handle settings (.admission (PURPOSE_LINE purpose)
        query.estimateIn route.maxTokens
        (query.lane.provider.price query.estimateIn route.maxTokens 0)) s).2 := by
      show WithinCaps _ (BudgetGuard.beginTick _ tick _)
      rw [BudgetGuard.beginTick_of_tick]
      · exact hsame.within hcaps
      · exact hsame.1.trans hbegun
    -- nothing was counted, and no reply is waited for
    generalize hx : (handle settings (.admission (PURPOSE_LINE purpose) query.estimateIn
      route.maxTokens (query.lane.provider.price query.estimateIn route.maxTokens 0)) s) = x at hafter
    have hx₁ : x.1 ≠ .ok .permit := by
      rw [← hx]
      exact hne
    match hm : x.1 with
    | .error e => exact hafter
    | .ok .permit => exact absurd hm hx₁
    | .ok .degrade => exact Coroutine.keeps_ofExcept _ _ _ hafter
    | .ok .halt => exact Coroutine.keeps_ofExcept _ _ _ hafter

theorem callOnce_keeps (hest : WithinEstimates replies) (i : Nat) {settings : LLMSettings}
    (purpose : Purpose) (agentId : String) (promptVariables : Dict String Json)
    (schema : Option Json) :
    Keeps (S := callSignature) (handle settings) (replies i) (Ceiling settings.budget tick)
      (r.callOnce purpose agentId tick promptVariables schema) := by
  unfold LLMRouter.callOnce
  refine Coroutine.keeps_bind (Coroutine.keeps_ofExcept _) fun route => ?_
  refine Coroutine.keeps_bind (Coroutine.keeps_ofExcept _) fun config => ?_
  intro n s hs
  cases hprep : r.prepare route config purpose agentId tick promptVariables schema with
  | error e => exact hs
  | ok p =>
    refine Coroutine.keeps_act (fun s h => h) (fun found => ?_) n s hs
    match found with
    | .error e => exact Coroutine.keeps_raise (S := callSignature) e
    | .ok (some cached) =>
      exact Coroutine.keeps_act (fun _ h => h) fun hit => Coroutine.keeps_ofExcept _
    | .ok none =>
      show Keeps _ _ _ (r.looked _ _ _ _ _ _ (.ok none))
      unfold LLMRouter.looked
      dsimp only
      cases r.lanes.get? route.lane with
      | none => exact Coroutine.keeps_raise _
      | some lane =>
        exact complete_keeps hest i route config lane purpose schema p (prepare_maxTokens hprep)

theorem repair_keeps (hest : WithinEstimates replies) (i : Nat) {settings : LLMSettings}
    {q : CallRequest} (hq : q.tick = tick) (rendered : Dict String Json) (instruction : String)
    (k attempt : Nat) (earlier : List CallResult) (last : CallResult) :
    Keeps (S := callSignature) (handle settings) (replies i) (Ceiling settings.budget tick)
      (r.repair q rendered instruction k attempt earlier last) := by
  induction k generalizing attempt earlier last with
  | zero => exact Coroutine.keeps_ret _
  | succ k ih =>
    refine Coroutine.keeps_bind (Coroutine.keeps_ofExcept _) fun promptVariables => ?_
    refine Coroutine.keeps_bind (hq ▸ callOnce_keeps hest i _ _ _ _) fun next => ?_
    split
    · exact Coroutine.keeps_ret _
    · exact ih _ _ _

theorem call_keeps (hest : WithinEstimates replies) (i : Nat) {settings : LLMSettings}
    {q : CallRequest} (hq : q.tick = tick) :
    Keeps (S := callSignature) (handle settings) (replies i) (Ceiling settings.budget tick)
      (r.call q) := by
  unfold LLMRouter.call
  refine Coroutine.keeps_bind (Coroutine.keeps_ofExcept _) fun route => ?_
  refine Coroutine.keeps_bind (Coroutine.keeps_ofExcept _) fun config => ?_
  refine Coroutine.keeps_bind (Coroutine.keeps_ofExcept _) fun instruction => ?_
  refine Coroutine.keeps_bind (Coroutine.keeps_ofExcept _) fun rendered => ?_
  refine Coroutine.keeps_bind (hq ▸ callOnce_keeps hest i _ _ _ _) fun first => ?_
  split
  · exact Coroutine.keeps_ret _
  · exact repair_keeps hest i hq _ _ _ _ _ _

end Calls

/-! ## The batch -/

section Batch

variable [Sha256] [Uuid5] [Host] (r : LLMRouter)
  (replies : Nat → Nat → Query → Except LlmError CompletionResponse)

/-- `gather`: the calls of a batch, none of which has begun. -/
def batch (requests : List CallRequest) (s : RouterState) :
    Pool callSignature RouterState CallResult :=
  Pool.make (requests.map r.call) s

/-- The batch after its calls moved in the given order. -/
def gather (requests : List CallRequest) (s : RouterState) (order : List Nat) :
    Option (Pool callSignature RouterState CallResult) :=
  (batch r requests s).run (handle r.settings) replies order

/-- How the requests end when they are served one after another. -/
def servedInTurn (requests : List CallRequest) (s : RouterState) :
    List (Served callSignature RouterState CallResult) :=
  Pool.inTurn (handle r.settings) replies 0 (requests.map r.call) s

/-- Whatever a call asks the cache or the guard along the order, it is
answered as it is when the requests are served one after another. -/
def AnsweredInTurn (requests : List CallRequest) (s : RouterState) (order : List Nat) : Prop :=
  Pool.AsInTurn (handle r.settings) replies (servedInTurn r replies requests s)
    (batch r requests s) order

variable {r replies} {requests : List CallRequest} {tick : Int} {s : RouterState}
  {order : List Nat} {p : Pool callSignature RouterState CallResult}

omit [Sha256] [Uuid5] [Host] in
theorem Ceiling.of_reading {settings : LLMBudgetSettings} {s s' : RouterState}
    (h : ∀ line, reading settings tick line s = reading settings tick line s')
    (hs : Ceiling settings tick s') : Ceiling settings tick s := by
  simp only [reading, Prod.mk.injEq] at h
  constructor
  · intro line cap hcap
    rw [(h line).1]
    exact hs.calls line cap hcap
  · intro line cap hcap
    rw [(h line).2.1]
    exact hs.tokens line cap hcap
  · rw [(h "").2.2.1]
    exact hs.run
  · rw [(h "").2.2.2]
    exact hs.usd

omit [Sha256] [Uuid5] [Host] in
theorem CallsWithin.elsewhere {settings : LLMBudgetSettings} {g g' : BudgetGuard}
    (hg : CallsWithin settings (g.beginTick settings tick)) (hne : g.tick ≠ tick)
    (htick : g'.tick = g.tick)
    (hrun : ∀ most, settings.maxCallsPerRun = some most → g'.cumulativeCalls ≤ most) :
    CallsWithin settings (g'.beginTick settings tick) := by
  have hsame : (g'.beginTick settings tick).usage = (g.beginTick settings tick).usage := by
    unfold BudgetGuard.beginTick
    rw [if_pos (Ne.symm hne), if_pos (htick ▸ Ne.symm hne)]
  constructor
  · intro line cap hcap
    rw [BudgetGuard.lineUsage, hsame]
    exact hg.calls line cap hcap
  · rw [BudgetGuard.beginTick_cumulativeCalls]
    exact hrun

omit [Uuid5] in
theorem handle_callsWithin {settings : LLMSettings} (b : Bool) (o : Op) (s : RouterState)
    (ho : InTick tick b o)
    (hs : CallsWithin settings.budget (s.budget.beginTick settings.budget tick)) :
    CallsWithin settings.budget
      ((handle settings o s).2.budget.beginTick settings.budget tick) := by
  have hrun := hs.run
  rw [BudgetGuard.beginTick_cumulativeCalls] at hrun
  cases o with
  | cacheGet _ _ | reportedHit _ | cachePut _ => exact hs
  | beginTick t =>
    have ht : t = tick := ho
    subst ht
    show CallsWithin _ ((s.budget.beginTick _ t).beginTick _ t)
    rw [BudgetGuard.beginTick_beginTick]
    exact hs
  | admission l estIn estOut estUsd =>
    show CallsWithin _ ((s.budget.admission _ _ _ _ _).2.beginTick _ tick)
    rcases BudgetGuard.admission_cases settings.budget l estIn estOut estUsd s.budget with
      ⟨usage, husage, h⟩ | ⟨_, htick, hu, hc, _⟩
    · have hpermit := congrArg Prod.fst h
      obtain ⟨_, _, _, _, _, _, _, hmost⟩ := BudgetGuard.admission_permits hpermit
      rw [h]
      by_cases hnow : s.budget.tick = tick
      · rw [BudgetGuard.beginTick_of_tick hnow] at hs
        rw [BudgetGuard.beginTick_of_tick (show (s.budget.count l usage).tick = tick from hnow)]
        exact BudgetGuard.callsWithin_count hs husage hpermit
      · exact hs.elsewhere hnow rfl hmost
    · by_cases hnow : s.budget.tick = tick
      · rw [BudgetGuard.beginTick_of_tick hnow] at hs
        rw [BudgetGuard.beginTick_of_tick (htick.trans hnow)]
        constructor
        · intro line cap hcap
          rw [BudgetGuard.lineUsage, hu]
          exact hs.calls line cap hcap
        · rw [hc]
          exact hs.run
      · exact hs.elsewhere hnow htick (hc ▸ hrun)
  | charge l tokensIn tokensOut usd =>
    show CallsWithin _ ((s.budget.charge _ _ _ _).2.beginTick _ tick)
    by_cases hnow : s.budget.tick = tick
    · rw [BudgetGuard.beginTick_of_tick hnow] at hs
      rw [BudgetGuard.beginTick_of_tick ((BudgetGuard.charge_tick l _ _ _ _).trans hnow)]
      exact BudgetGuard.callsWithin_charge hs l tokensIn tokensOut usd
    · refine hs.elsewhere hnow (BudgetGuard.charge_tick l _ _ _ _) ?_
      rcases BudgetGuard.charge_cases l tokensIn tokensOut usd s.budget with ⟨_, _, h⟩ | h
      · rw [h]
        exact hrun
      · rw [h]
        exact hrun

theorem uses_batch (htick : ∀ q ∈ requests, q.tick = tick) :
    ∀ c ∈ requests.map r.call, c.Uses (InTick tick) Op.begins false := by
  intro c hc
  obtain ⟨q, hq, rfl⟩ := List.mem_map.mp hc
  exact LLMRouter.call_uses q (htick q hq) false

theorem ceiling_after (htick : ∀ q ∈ requests, q.tick = tick) (hest : WithinEstimates replies)
    (hs : Ceiling r.settings.budget tick s) (hrun : gather r replies requests s order = some p)
    (hf : p.Finished) (hturn : AnsweredInTurn r replies requests s order) :
    Ceiling r.settings.budget tick p.shared := by
  have htold := (Pool.run_told hrun hf hturn).1
  -- the run reads what serving in turn reads, and serving in turn keeps the caps
  have hkept : Ceiling r.settings.budget tick (Pool.inTurnState (S := callSignature)
      (handle r.settings) replies 0 (requests.map r.call) s) := by
    refine Pool.inTurn_keeps (fun c hc i => ?_) 0 hs
    obtain ⟨q, hq, rfl⟩ := List.mem_map.mp hc
    exact call_keeps hest i (htick q hq)
  refine Ceiling.of_reading (fun line => ?_) hkept
  exact Pool.run_measure_eq (handle_counts r.settings tick line) (uses_batch htick) hrun htold

theorem refused_after (hrun : gather r replies requests s order = some p) (hf : p.Finished)
    (hturn : AnsweredInTurn r replies requests s order) :
    refusedRequests p = (servedInTurn r replies requests s).map fun x => x.told.any refusal := by
  have htold := congrArg (List.map fun told => told.any refusal) (Pool.run_told hrun hf hturn).1
  simpa [refusedRequests, servedInTurn, Function.comp_def] using htold

end Batch

/-! ## Two calls that wait together -/

abbrev sampleHost : Host where
  repr := fun _ => ""
  decimalText := fun q => toString q.num
  loads := fun _ => .decodeError "Expecting value: line 1 column 1 (char 0)"
  schemaErrors := fun _ _ => .ok []

abbrev sampleUuid5 : Uuid5 := ⟨fun _ name => name⟩

/-- One lane for one purpose, on a line of 600 tokens a tick. -/
def sampleSettings : LLMSettings where
  providers := (∅ : Dict String LaneSettings).put "main" { kind := .openaiCompat }
  budget := { lines := (∅ : Dict String LLMBudgetLine).put "ancillary" ⟨10, 600⟩ }
  routing := (∅ : Dict String RouteSpec).put "IMPORTANCE" { lane := "main", model := "m" }
  cache := { mode := .live }

def sampleRouter : LLMRouter where
  settings := sampleSettings
  runSeed := 1
  runId := "r"
  lanes := (∅ : Dict String Lane).put "main"
    ⟨"main", "main", "m", tokenPrice { kind := .openaiCompat }⟩

def sampleStart : RouterState :=
  ⟨{}, { mode := .live, l0Entries := 50000, verifyRender := true, schemaVersion := 1,
         strictVersion := true }⟩

def sampleRequest (prompt : String) : CallRequest :=
  { purpose := .importance, agentId := "ag_1", tick := 3
    promptVariables := (∅ : Dict String Json).put "prompt" (.str prompt) }

/-- Every lane reports the tokens it was estimated at. -/
def sampleReplies (_ _ : Nat) (q : Query) : Except LlmError CompletionResponse :=
  .ok ⟨"fine", q.estimateIn, q.request.sampling.maxTokens, 0, none, none, 5, "stop"⟩

theorem sampleReplies_within : WithinEstimates sampleReplies := by
  intro i n q response h
  cases h
  exact ⟨le_refl _, le_refl _⟩

theorem sampleStart_ceiling : Ceiling sampleSettings.budget 3 sampleStart := by
  have husage : ∀ line, (sampleStart.budget.beginTick sampleSettings.budget 3).lineUsage line
      = {} := by
    intro line
    show ((sampleSettings.budget.lines.mapValues fun _ _ => ({} : Usage)).get? line).getD {} = {}
    rw [Dict.get?_mapValues]
    cases sampleSettings.budget.lines.get? line <;> rfl
  have hcap : ∀ line cap, sampleSettings.budget.lines.get? line = some cap → cap = ⟨10, 600⟩ := by
    intro line cap h
    have h' : ((∅ : Dict String LLMBudgetLine).put "ancillary" ⟨10, 600⟩).get? line = some cap := h
    rw [Dict.get?_put] at h'
    split at h'
    · exact (Option.some.inj h').symm
    · cases h'
  constructor
  · intro line cap h
    rw [husage, hcap line cap h]
    decide
  · intro line cap h
    rw [husage, hcap line cap h]
    decide
  · intro most h
    cases h
  · rw [BudgetGuard.beginTick_cumulativeUsd]
    show (0 : Rat) ≤ 60
    norm_num

end Polis.Llm
