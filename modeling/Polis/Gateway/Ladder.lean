/-
  Polis.Gateway.Ladder — the limits of a gateway over whole runs
  (`gateway/limits.py`).

  A run is a list of calls whose ticks and clock readings never go back.
  Beside the limits it keeps what succeeded: the requests charged, and the
  slots each agent holds.

  Main results:
    * `charge_ok` / `charge_error` — what a charge has passed, and which
      updates a refused one makes.
    * `Bounds.step` — one call keeps the bounds.
    * `abuse_ladder` — the bounds over any run.
-/
import Polis.Gateway.Limits
import Polis.Lib.Runs
import Polis.Lib.SlidingWindow
import Mathlib.Data.List.TakeWhile

namespace Polis.Gateway.LimitSet

open Lib Lib.Effect Lib.Runs

/-! ## What a charge does -/

/-- `_assert_available` lets the agent through. -/
def Available (l : LimitSet) (agentId : String) (tick : Int) : Prop :=
  (l.discipline agentId).revoked = false ∧
    ∀ u, (l.discipline agentId).suspendedUntilTick = some u → u ≤ tick

theorem assertAvailable_cases (agentId : String) (tick : Int) (l : LimitSet) :
    (l.Available agentId tick ∧ assertAvailable agentId tick l = .ok () l) ∨
      (¬l.Available agentId tick ∧
        ∃ e, assertAvailable agentId tick l = .error e (l.windowedStrikes agentId tick).2) := by
  unfold Available
  cases hrev : (l.discipline agentId).revoked with
  | true =>
    refine .inr ⟨by simp, .protocol { code := .revoked, strikes := (l.windowedStrikes agentId tick).1 }, ?_⟩
    show (if (l.discipline agentId).revoked = true then _ else _ :
      EStateM GatewayFault LimitSet Unit) l = _
    rw [if_pos hrev]
    rfl
  | false =>
    by_cases hsusp : ((l.discipline agentId).suspendedUntilTick.any fun t => tick < t) = true
    · right
      refine ⟨fun h => ?_, .protocol
        { code := .suspended, retryAfterMs := some 1000, strikes := (l.windowedStrikes agentId tick).1 }, ?_⟩
      · cases hu : (l.discipline agentId).suspendedUntilTick with
        | none => simp [hu] at hsusp
        | some u =>
          have hlate := h.2 u hu
          simp only [hu, Option.any_some, decide_eq_true_eq] at hsusp
          omega
      · show (if (l.discipline agentId).revoked = true then _ else if _ then _ else _ :
          EStateM GatewayFault LimitSet Unit) l = _
        rw [if_neg (by simp [hrev]), if_pos hsusp]
        rfl
    · left
      refine ⟨⟨rfl, fun u hu => ?_⟩, ?_⟩
      · rw [hu] at hsusp
        simpa using hsusp
      · show (if (l.discipline agentId).revoked = true then _ else if _ then _ else _ :
          EStateM GatewayFault LimitSet Unit) l = _
        rw [if_neg (by simp [hrev]), if_neg hsusp]
        rfl

/-- The requests of the last second are kept, and older ones forgotten. -/
def pruned (agentId : String) (now : ℚ) (l : LimitSet) : LimitSet :=
  { l with second := setAt l.second agentId (l.lastSecond agentId now) }

/-- A request is dated. -/
def stamped (agentId : String) (now : ℚ) (l : LimitSet) : LimitSet :=
  { l with second := setAt l.second agentId (l.second agentId ++ [now]) }

/-- What `charge` can do, once the tick is observed. -/
inductive Charged (agentId : String) (bucket : Bucket) (tick : Int) (now : ℚ) (l : LimitSet) :
    EStateM.Result GatewayFault LimitSet Unit → Prop where
  | barred (e : GatewayFault) (h : ¬l.Available agentId tick) :
      Charged agentId bucket tick now l (.error e (l.windowedStrikes agentId tick).2)
  | overTick (e : GatewayFault) :
      Charged agentId bucket tick now l (.error e (l.strike agentId tick .rate).2)
  | overSecond (e : GatewayFault) :
      Charged agentId bucket tick now l
        (.error e ((l.pruned agentId now).strike agentId tick .rate).2)
  | query (h : l.Available agentId tick) (hbucket : bucket ≠ .request)
      (hroom : l.tickCounts agentId tick bucket < l.bucketLimit agentId bucket tick) :
      Charged agentId bucket tick now l (.ok () (countRequest agentId bucket tick l))
  | request (h : l.Available agentId tick) (hbucket : bucket = .request)
      (hroom : l.tickCounts agentId tick bucket < l.bucketLimit agentId bucket tick)
      (hsecond : ((l.lastSecond agentId now).length : Int) < l.config.requestsPerSecond) :
      Charged agentId bucket tick now l
        (.ok () (countRequest agentId bucket tick ((l.pruned agentId now).stamped agentId now)))

theorem setAt_self {α : Type} (f : String → α) (k : String) (v : α) : setAt f k v k = v := if_pos rfl

theorem setAt_of_ne {α : Type} (f : String → α) {k x : String} (v : α) (h : x ≠ k) :
    setAt f k v x = f x := if_neg h

theorem charge_charged (agentId : String) (bucket : Bucket) (tick : Int) (now : ℚ) (l : LimitSet) :
    Charged agentId bucket tick now (observeTick tick l) (charge agentId bucket tick now l) := by
  generalize hl : observeTick tick l = l₁
  have hstart : charge agentId bucket tick now l = (assertAvailable agentId tick >>= fun _ =>
      (get >>= fun l : LimitSet =>
        if l.tickCounts agentId tick bucket ≥ l.bucketLimit agentId bucket tick then
          rateLimited agentId tick
        else (runIf (bucket = .request) (chargeSecond agentId tick now) >>= fun _ =>
          modify (countRequest agentId bucket tick)))) l₁ := by
    rw [← hl]
    rfl
  rw [hstart]
  rcases assertAvailable_cases agentId tick l₁ with ⟨havail, hok⟩ | ⟨hbarred, e, herror⟩
  · rw [bind_of_ok hok, get_bind]
    by_cases hover : l₁.tickCounts agentId tick bucket ≥ l₁.bucketLimit agentId bucket tick
    · rw [if_pos hover]
      exact .overTick _
    · rw [if_neg hover]
      by_cases hbucket : bucket = .request
      · have hrun : (runIf (bucket = .request) (chargeSecond agentId tick now)) l₁
            = (if ((l₁.pruned agentId now).second agentId).length ≥ l₁.config.requestsPerSecond then
                rateLimited agentId tick
              else modify (stamped agentId now)) (l₁.pruned agentId now) := by
          unfold runIf
          rw [if_pos hbucket]
          rfl
        have hlast : (l₁.pruned agentId now).second agentId = l₁.lastSecond agentId now :=
          setAt_self _ _ _
        rw [hlast] at hrun
        by_cases hfast : ((l₁.lastSecond agentId now).length : Int) ≥ l₁.config.requestsPerSecond
        · rw [if_pos hfast] at hrun
          rw [bind_of_error hrun]
          exact .overSecond _
        · rw [if_neg hfast] at hrun
          rw [bind_of_ok hrun]
          exact .request havail hbucket (by omega) (by omega)
      · have hrun : (runIf (bucket = .request) (chargeSecond agentId tick now)) l₁ = .ok () l₁ := by
          unfold runIf
          rw [if_neg hbucket]
          rfl
        rw [bind_of_ok hrun]
        exact .query havail hbucket (by omega)
  · rw [bind_of_error herror]
    exact .barred e hbarred

/-- What `slot_take` can do, once the tick is observed. -/
inductive Taken (agentId : String) (tick : Int) (l : LimitSet) :
    EStateM.Result GatewayFault LimitSet Int → Prop where
  | barred (e : GatewayFault) (h : ¬l.Available agentId tick) :
      Taken agentId tick l (.error e (l.windowedStrikes agentId tick).2)
  | full (e : GatewayFault) : Taken agentId tick l (.error e l)
  | taken (left : Int) (h : l.Available agentId tick)
      (hroom : l.slots agentId tick < l.config.actionSlots) :
      Taken agentId tick l (.ok left (l.withSlots agentId tick (l.slots agentId tick + 1)))

theorem slotTake_taken (agentId : String) (tick : Int) (l : LimitSet) :
    Taken agentId tick (observeTick tick l) (slotTake agentId tick l) := by
  generalize hl : observeTick tick l = l₁
  have hstart : slotTake agentId tick l = (assertAvailable agentId tick >>= fun _ =>
      (get >>= fun l : LimitSet =>
        (require (l.slots agentId tick < l.config.actionSlots) (.protocol { code := .noSlots })
          >>= fun _ => (set (l.withSlots agentId tick (l.slots agentId tick + 1)) >>= fun _ =>
            pure (l.config.actionSlots - (l.slots agentId tick + 1)))))) l₁ := by
    rw [← hl]
    rfl
  rw [hstart]
  rcases assertAvailable_cases agentId tick l₁ with ⟨havail, hok⟩ | ⟨hbarred, e, herror⟩
  · rw [bind_of_ok hok, get_bind]
    by_cases hroom : l₁.slots agentId tick < l₁.config.actionSlots
    · have hpass : (require (l₁.slots agentId tick < l₁.config.actionSlots)
          (.protocol { code := .noSlots }) : EStateM GatewayFault LimitSet Unit) l₁ = .ok () l₁ :=
        require_eq_ok.mpr ⟨hroom, rfl⟩
      rw [bind_of_ok hpass]
      exact .taken _ havail hroom
    · have hfull : (require (l₁.slots agentId tick < l₁.config.actionSlots)
          (.protocol { code := .noSlots }) : EStateM GatewayFault LimitSet Unit) l₁
          = .error (.protocol { code := .noSlots }) l₁ := by
        unfold require
        rw [if_neg hroom]
        rfl
      rw [bind_of_error hfull]
      exact .full _
  · rw [bind_of_error herror]
    exact .barred e hbarred

/-! ## Runs -/

/-- The methods of a run. -/
inductive Method where
  | charge (agentId : String) (bucket : Bucket)
  | slotTake (agentId : String)
  | slotRelease (agentId : String)
  | strike (agentId : String) (trigger : Trigger)
  deriving Repr, DecidableEq

/-- A call, with its tick and what the clock reads then. -/
structure Call where
  method : Method
  tick : Int
  now : ℚ
  deriving DecidableEq

/-- Neither the tick nor the clock goes back from one call to a later one. -/
def Call.Before (c c' : Call) : Prop := c.tick ≤ c'.tick ∧ c.now ≤ c'.now

/-- A charge that succeeded. -/
structure Charge where
  agentId : String
  bucket : Bucket
  tick : Int
  now : ℚ
  deriving DecidableEq

/-- The limits, the charges that succeeded, and the slots taken and not
released, by agent and tick. -/
structure Record where
  limits : LimitSet
  charges : List Charge := []
  held : String → Int → Int := fun _ _ => 0

/-- `held` with one entry written. -/
def heldAt (held : String → Int → Int) (agentId : String) (tick taken : Int) :
    String → Int → Int :=
  fun agent t => if agent = agentId ∧ t = tick then taken else held agent t

/-- One call. -/
def step (r : Record) (c : Call) : Record :=
  match c.method with
  | .charge agentId bucket =>
    match charge agentId bucket c.tick c.now r.limits with
    | .ok _ limits => { r with limits, charges := r.charges ++ [⟨agentId, bucket, c.tick, c.now⟩] }
    | .error _ limits => { r with limits }
  | .slotTake agentId =>
    match slotTake agentId c.tick r.limits with
    | .ok _ limits => { r with limits, held := heldAt r.held agentId c.tick (r.held agentId c.tick + 1) }
    | .error _ limits => { r with limits }
  | .slotRelease agentId =>
    { r with
      limits := slotRelease agentId c.tick r.limits
      held := heldAt r.held agentId c.tick (released (r.held agentId c.tick)) }
  | .strike agentId trigger => { r with limits := (r.limits.strike agentId c.tick trigger).2 }

/-- A run over new limits. -/
def run (config : LimitConfig) (calls : List Call) : Record :=
  calls.foldl step { limits := { config } }

/-- The successful charges of an agent to a bucket in a tick. -/
def chargesIn (charges : List Charge) (agentId : String) (bucket : Bucket) (tick : Int) : Nat :=
  charges.countP fun c => c.agentId = agentId ∧ c.bucket = bucket ∧ c.tick = tick

/-- When an agent's successful requests were made. -/
def requestTimes (charges : List Charge) (agentId : String) : List ℚ :=
  (charges.filter fun c => c.agentId = agentId ∧ c.bucket = .request).map Charge.now

end Polis.Gateway.LimitSet

namespace Polis.Gateway

/-- The configured number of a bucket. -/
def LimitConfig.limitOf (c : LimitConfig) : Bucket → Int
  | .request => c.requestsPerTick
  | .recall => c.recallQueriesPerTick
  | .history => c.historyQueriesPerTick
  | .memory => c.memoryWritesPerTick

/-- The bounds of the settings the limits are configured from. -/
structure LimitConfig.Valid (c : LimitConfig) : Prop where
  requests : 1 ≤ c.requestsPerTick
  second : 1 ≤ c.requestsPerSecond
  recalls : 0 ≤ c.recallQueriesPerTick
  histories : 0 ≤ c.historyQueriesPerTick
  memories : 0 ≤ c.memoryWritesPerTick
  slots : 0 ≤ c.actionSlots

theorem LimitConfig.Valid.limitOf_nonneg {c : LimitConfig} (h : c.Valid) (b : Bucket) :
    0 ≤ c.limitOf b := by
  match b with
  | .request => exact le_trans (by decide) h.requests
  | .recall => exact h.recalls
  | .history => exact h.histories
  | .memory => exact h.memories

namespace LimitSet

open Lib Lib.Effect Lib.Runs

/-! ## The bounds, call by call -/

/-- The bounds of a record, for calls from tick `T` and clock `N` on. -/
structure Bounds (config : LimitConfig) (T : Int) (N : ℚ) (r : Record) : Prop where
  configured : r.limits.config = config
  charged : ∀ a b t, (chargesIn r.charges a b t : Int) ≤ config.limitOf b
  counted : ∀ a b t, T ≤ t → (chargesIn r.charges a b t : Int) ≤ r.limits.tickCounts a t b
  held : ∀ a t, r.held a t ≤ config.actionSlots
  taken : ∀ a t, T ≤ t → r.held a t ≤ r.limits.slots a t
  spread : ∀ a, Admitted config.requestsPerSecond.toNat 1 (requestTimes r.charges a)
  /-- What the window has forgotten is older than a second. -/
  recent : ∀ a, ∃ old, requestTimes r.charges a = old ++ r.limits.second a ∧ ∀ x ∈ old, x ≤ N - 1
  revoked : ∀ a, (r.limits.discipline a).revoked = true ↔ 3 ≤ (r.limits.discipline a).suspensions

variable {config : LimitConfig} {T : Int} {N : ℚ} {r : Record}

theorem Bounds.later (h : Bounds config T N r) {T' : Int} {N' : ℚ} (hT : T ≤ T') (hN : N ≤ N') :
    Bounds config T' N' r := by
  refine ⟨h.configured, h.charged, fun a b t ht => h.counted a b t (hT.trans ht), h.held,
    fun a t ht => h.taken a t (hT.trans ht), h.spread, fun a => ?_, h.revoked⟩
  obtain ⟨old, hsplit, hold⟩ := h.recent a
  exact ⟨old, hsplit, fun x hx => (hold x hx).trans (sub_le_sub_right hN 1)⟩

theorem bounds_start (hvalid : config.Valid) (T : Int) (N : ℚ) :
    Bounds config T N { limits := { config } } where
  configured := rfl
  charged _ b _ := hvalid.limitOf_nonneg b
  counted _ _ _ _ := le_refl 0
  held _ _ := hvalid.slots
  taken _ _ _ := le_refl 0
  spread _ := .nil
  recent _ := ⟨[], rfl, fun _ hx => absurd hx List.not_mem_nil⟩
  revoked _ := ⟨fun h => absurd h Bool.false_ne_true, fun h => absurd h (show ¬(3 : Int) ≤ 0 by decide)⟩

theorem Bounds.observe (h : Bounds config T N r) {tick : Int} (htick : T ≤ tick) :
    Bounds config tick N { r with limits := observeTick tick r.limits } := by
  have hlater := h.later htick (le_refl N)
  unfold observeTick
  split_ifs with hseen
  · exact hlater
  · refine ⟨hlater.configured, hlater.charged, fun a b t ht => ?_, hlater.held, fun a t ht => ?_,
      hlater.spread, hlater.recent, hlater.revoked⟩
    · show _ ≤ if tick ≤ t then r.limits.tickCounts a t b else 0
      rw [if_pos ht]
      exact hlater.counted a b t ht
    · show _ ≤ if tick ≤ t then r.limits.slots a t else 0
      rw [if_pos ht]
      exact hlater.taken a t ht

theorem Bounds.windowedStrikes (h : Bounds config T N r) (agentId : String) (tick : Int) :
    Bounds config T N { r with limits := (r.limits.windowedStrikes agentId tick).2 } :=
  ⟨h.configured, h.charged, h.counted, h.held, h.taken, h.spread, h.recent, h.revoked⟩

theorem disciplined_revoked {d : Discipline} (h : d.revoked = true ↔ 3 ≤ d.suspensions)
    (config : LimitConfig) (tick : Int) (history : List (Int × Trigger)) :
    (disciplined config tick history d).revoked = true ↔
      3 ≤ (disciplined config tick history d).suspensions := by
  unfold disciplined
  dsimp only
  split_ifs
  · exact h
  · simp only [Bool.or_eq_true, decide_eq_true_eq, h]
    omega
  · exact h
  · exact h

theorem Bounds.strike (h : Bounds config T N r) (agentId : String) (tick : Int)
    (trigger : Trigger) :
    Bounds config T N { r with limits := (r.limits.strike agentId tick trigger).2 } := by
  refine ⟨h.configured, h.charged, fun a b t ht => ?_, h.held, h.taken, h.spread, h.recent,
    fun a => ?_⟩
  · -- a third strike in a tick fills the count of requests
    have hcharged := h.charged a b t
    have hcounted := h.counted a b t ht
    have hconfig := h.configured
    show _ ≤ (if _ then _ else _ : String → Int → Bucket → Int) a t b
    split_ifs
    · show _ ≤ if a = agentId ∧ t = tick ∧ b = .request then r.limits.config.requestsPerTick
        else r.limits.tickCounts a t b
      split_ifs with hentry
      · obtain ⟨_, _, rfl⟩ := hentry
        rw [hconfig]
        exact hcharged
      · exact hcounted
    · exact hcounted
  · show ((setAt r.limits.discipline agentId _) a).revoked = true ↔
      3 ≤ ((setAt r.limits.discipline agentId _) a).suspensions
    by_cases ha : a = agentId
    · subst ha
      rw [setAt_self]
      exact disciplined_revoked (h.revoked a) _ _ _
    · rw [setAt_of_ne _ _ ha]
      exact h.revoked a

theorem Bounds.pruned (h : Bounds config T N r) (agentId : String) {now : ℚ} (hnow : N ≤ now) :
    Bounds config T now { r with limits := r.limits.pruned agentId now } := by
  have hlater := h.later (le_refl T) hnow
  refine ⟨h.configured, h.charged, h.counted, h.held, h.taken, h.spread, fun a => ?_, h.revoked⟩
  obtain ⟨old, hsplit, hold⟩ := hlater.recent a
  by_cases ha : a = agentId
  · subst ha
    refine ⟨old ++ (r.limits.second a).takeWhile fun t => decide (t ≤ now - 1), ?_, fun x hx => ?_⟩
    · show _ = _ ++ setAt r.limits.second a (r.limits.lastSecond a now) a
      rw [setAt_self, hsplit, List.append_assoc]
      congr 1
      exact List.takeWhile_append_dropWhile.symm
    · rcases List.mem_append.mp hx with hx | hx
      · exact hold x hx
      · simpa using List.mem_takeWhile_imp hx
  · refine ⟨old, ?_, hold⟩
    show _ = _ ++ setAt r.limits.second agentId _ a
    rw [setAt_of_ne _ _ ha]
    exact hsplit

theorem bucketLimit_le (hvalid : r.limits.config.Valid) (agentId : String) (b : Bucket) (tick : Int) :
    r.limits.bucketLimit agentId b tick ≤ r.limits.config.limitOf b := by
  match b with
  | .request =>
    have hone := hvalid.requests
    show (if _ then max 1 (r.limits.config.requestsPerTick / 2) else r.limits.config.requestsPerTick) ≤ _
    split_ifs
    · show _ ≤ r.limits.config.requestsPerTick
      exact max_le hone (by omega)
    · exact le_refl _
  | .recall => exact le_refl _
  | .history => exact le_refl _
  | .memory => exact le_refl _

theorem chargesIn_snoc (charges : List Charge) (c : Charge) (a : String) (b : Bucket) (t : Int) :
    chargesIn (charges ++ [c]) a b t
      = chargesIn charges a b t + if c.agentId = a ∧ c.bucket = b ∧ c.tick = t then 1 else 0 := by
  unfold chargesIn
  rw [List.countP_append, List.countP_singleton]
  simp

theorem Bounds.count (h : Bounds config T N r) (hvalid : config.Valid) {agentId : String}
    {bucket : Bucket} {tick : Int} (htick : T ≤ tick)
    (hroom : r.limits.tickCounts agentId tick bucket < r.limits.bucketLimit agentId bucket tick)
    (now : ℚ) (a : String) (b : Bucket) (t : Int) :
    (chargesIn (r.charges ++ [⟨agentId, bucket, tick, now⟩]) a b t : Int) ≤ config.limitOf b ∧
      (T ≤ t → (chargesIn (r.charges ++ [⟨agentId, bucket, tick, now⟩]) a b t : Int)
        ≤ (countRequest agentId bucket tick r.limits).tickCounts a t b) := by
  have hconfig := h.configured
  rw [← hconfig] at hvalid
  have hlimit := bucketLimit_le hvalid agentId bucket tick
  have hcharged := h.charged a b t
  rw [chargesIn_snoc]
  show _ ∧ (T ≤ t → _ ≤ if a = agentId ∧ t = tick ∧ b = bucket then
    r.limits.tickCounts agentId tick bucket + 1 else r.limits.tickCounts a t b)
  by_cases hentry : a = agentId ∧ t = tick ∧ b = bucket
  · obtain ⟨rfl, rfl, rfl⟩ := hentry
    have hcounted := h.counted a b t htick
    rw [hconfig] at hlimit
    simp only [and_self, if_true]
    push_cast
    constructor
    · omega
    · omega
  · have hother : ¬(agentId = a ∧ bucket = b ∧ tick = t) := by
      rintro ⟨rfl, rfl, rfl⟩
      exact hentry ⟨rfl, rfl, rfl⟩
    rw [if_neg hentry, if_neg hother, Nat.add_zero]
    exact ⟨hcharged, fun ht => h.counted a b t ht⟩

theorem requestTimes_snoc_query (charges : List Charge) {c : Charge} (h : c.bucket ≠ .request)
    (a : String) : requestTimes (charges ++ [c]) a = requestTimes charges a := by
  simp [requestTimes, h]

theorem requestTimes_snoc_self (charges : List Charge) {c : Charge} (h : c.bucket = .request) :
    requestTimes (charges ++ [c]) c.agentId = requestTimes charges c.agentId ++ [c.now] := by
  simp [requestTimes, h]

theorem requestTimes_snoc_of_ne (charges : List Charge) {c : Charge} {a : String}
    (h : c.agentId ≠ a) : requestTimes (charges ++ [c]) a = requestTimes charges a := by
  simp [requestTimes, h]

theorem Bounds.query (h : Bounds config T N r) (hvalid : config.Valid) {agentId : String}
    {bucket : Bucket} {tick : Int} (htick : T ≤ tick) (hbucket : bucket ≠ .request)
    (hroom : r.limits.tickCounts agentId tick bucket < r.limits.bucketLimit agentId bucket tick)
    (now : ℚ) :
    Bounds config T N { r with
      limits := countRequest agentId bucket tick r.limits
      charges := r.charges ++ [⟨agentId, bucket, tick, now⟩] } := by
  have hcount := h.count hvalid htick hroom now
  refine ⟨h.configured, fun a b t => (hcount a b t).1, fun a b t => (hcount a b t).2, h.held, h.taken,
    fun a => ?_, fun a => ?_, h.revoked⟩
  · rw [requestTimes_snoc_query _ hbucket]
    exact h.spread a
  · rw [requestTimes_snoc_query _ hbucket]
    exact h.recent a

theorem Bounds.request (h : Bounds config T N r) (hvalid : config.Valid) {agentId : String}
    {tick : Int} (htick : T ≤ tick) {now : ℚ} (hnow : N ≤ now)
    (hroom : r.limits.tickCounts agentId tick .request < r.limits.bucketLimit agentId .request tick)
    (hsecond : ((r.limits.lastSecond agentId now).length : Int) < r.limits.config.requestsPerSecond) :
    Bounds config T now { r with
      limits := countRequest agentId .request tick ((r.limits.pruned agentId now).stamped agentId now)
      charges := r.charges ++ [⟨agentId, .request, tick, now⟩] } := by
  have hcount := h.count hvalid htick hroom now
  have hpruned := h.pruned agentId hnow
  have hwindow : (r.limits.pruned agentId now).second agentId = r.limits.lastSecond agentId now :=
    setAt_self _ _ _
  refine ⟨h.configured, fun a b t => (hcount a b t).1, fun a b t => (hcount a b t).2, h.held, h.taken,
    fun a => ?_, fun a => ?_, h.revoked⟩
  · by_cases ha : agentId = a
    · subst ha
      rw [requestTimes_snoc_self r.charges (c := ⟨agentId, .request, tick, now⟩) rfl]
      refine .snoc (h.spread agentId) ?_
      -- only what is left in the window is younger than a second
      obtain ⟨old, hsplit, hold⟩ := hpruned.recent agentId
      dsimp only at hsplit
      rw [hsplit, List.countP_append, hwindow]
      have hnone : old.countP (fun x => decide (now - 1 < x)) = 0 := by
        refine List.countP_eq_zero.mpr fun x hx => ?_
        simpa using hold x hx
      have hrest : (r.limits.lastSecond agentId now).countP (fun x => decide (now - 1 < x))
          ≤ (r.limits.lastSecond agentId now).length := List.countP_le_length
      rw [hnone]
      have hconfig := h.configured
      rw [hconfig] at hsecond
      dsimp only
      omega
    · rw [requestTimes_snoc_of_ne r.charges (c := ⟨agentId, .request, tick, now⟩) ha]
      exact h.spread a
  · obtain ⟨old, hsplit, hold⟩ := hpruned.recent a
    dsimp only at hsplit
    show ∃ old, _ = old ++ setAt (r.limits.pruned agentId now).second agentId
      ((r.limits.pruned agentId now).second agentId ++ [now]) a ∧ _
    by_cases ha : agentId = a
    · subst ha
      refine ⟨old, ?_, hold⟩
      rw [requestTimes_snoc_self r.charges (c := ⟨agentId, .request, tick, now⟩) rfl, hsplit,
        setAt_self, List.append_assoc]
    · refine ⟨old, ?_, hold⟩
      rw [requestTimes_snoc_of_ne r.charges (c := ⟨agentId, .request, tick, now⟩) ha,
        setAt_of_ne _ _ (Ne.symm ha)]
      exact hsplit

theorem Bounds.slots (h : Bounds config T N r) (agentId : String) {tick : Int} {held taken : Int}
    (hheld : held ≤ config.actionSlots) (hle : T ≤ tick → held ≤ taken) :
    Bounds config T N { r with
      limits := r.limits.withSlots agentId tick taken
      held := heldAt r.held agentId tick held } := by
  refine ⟨h.configured, h.charged, h.counted, fun a t => ?_, fun a t ht => ?_, h.spread, h.recent,
    h.revoked⟩
  · show (if a = agentId ∧ t = tick then held else r.held a t) ≤ _
    split_ifs
    · exact hheld
    · exact h.held a t
  · show (if a = agentId ∧ t = tick then held else r.held a t)
      ≤ if a = agentId ∧ t = tick then taken else r.limits.slots a t
    split_ifs with hentry
    · exact hle (hentry.2 ▸ ht)
    · exact h.taken a t ht

theorem Bounds.step (h : Bounds config T N r) (hvalid : config.Valid) {c : Call}
    (htick : T ≤ c.tick) (hnow : N ≤ c.now) : Bounds config c.tick c.now (step r c) := by
  have hobserved := h.observe htick
  unfold LimitSet.step
  cases c.method with
  | charge agentId bucket =>
    have hcharged := charge_charged agentId bucket c.tick c.now r.limits
    dsimp only
    generalize charge agentId bucket c.tick c.now r.limits = result at hcharged
    cases hcharged with
    | barred e hbarred => exact (hobserved.windowedStrikes agentId c.tick).later (le_refl _) hnow
    | overTick e => exact (hobserved.strike agentId c.tick .rate).later (le_refl _) hnow
    | overSecond e => exact (hobserved.pruned agentId hnow).strike agentId c.tick .rate
    | query havail hbucket hroom =>
      exact (hobserved.query hvalid (le_refl _) hbucket hroom c.now).later (le_refl _) hnow
    | request havail hbucket hroom hsecond =>
      subst hbucket
      exact hobserved.request hvalid (le_refl _) hnow hroom hsecond
  | slotTake agentId =>
    have htaken := slotTake_taken agentId c.tick r.limits
    dsimp only
    generalize slotTake agentId c.tick r.limits = result at htaken
    cases htaken with
    | barred e hbarred => exact (hobserved.windowedStrikes agentId c.tick).later (le_refl _) hnow
    | full e => exact hobserved.later (le_refl _) hnow
    | taken left havail hroom =>
      have hcovered := hobserved.taken agentId c.tick (le_refl _)
      have hconfig := hobserved.configured
      dsimp only at hcovered hconfig
      rw [hconfig] at hroom
      exact (hobserved.slots agentId (by omega) fun _ => by omega).later (le_refl _) hnow
  | slotRelease agentId =>
    have hslots := hvalid.slots
    have hheld := h.held agentId c.tick
    refine Bounds.later (h.slots agentId ?_ fun ht => ?_) htick hnow
    · unfold released
      split_ifs
      · omega
      · omega
    · have hcovered := h.taken agentId c.tick ht
      unfold released
      split_ifs
      · omega
      · omega
      · omega
      · omega
  | strike agentId trigger => exact (h.strike agentId c.tick trigger).later htick hnow

/-! ## Discipline, call by call -/

/-- What a call does to an agent's discipline: nothing, or the suspension step
of a strike in its tick. -/
inductive Ruled (tick : Int) (d : Discipline) : Discipline → Prop where
  | kept : Ruled tick d d
  | struck (config : LimitConfig) (history : List (Int × Trigger)) :
      Ruled tick d (disciplined config tick history d)

theorem observeTick_discipline (tick : Int) (l : LimitSet) :
    (observeTick tick l).discipline = l.discipline := by
  unfold observeTick
  split_ifs
  · rfl
  · rfl

theorem strike_ruled (l : LimitSet) (agentId : String) (tick : Int) (trigger : Trigger) (a : String) :
    Ruled tick (l.discipline a) ((l.strike agentId tick trigger).2.discipline a) := by
  show Ruled tick (l.discipline a) (setAt l.discipline agentId _ a)
  by_cases ha : a = agentId
  · subst ha
    rw [setAt_self]
    exact .struck _ _
  · rw [setAt_of_ne _ _ ha]
    exact .kept

theorem step_ruled (r : Record) (c : Call) (a : String) :
    Ruled c.tick (r.limits.discipline a) ((LimitSet.step r c).limits.discipline a) := by
  have hobserved := congrFun (observeTick_discipline c.tick r.limits) a
  unfold LimitSet.step
  cases c.method with
  | charge agentId bucket =>
    have hcharged := charge_charged agentId bucket c.tick c.now r.limits
    dsimp only
    generalize charge agentId bucket c.tick c.now r.limits = result at hcharged
    rw [← hobserved]
    cases hcharged with
    | barred e hbarred => exact .kept
    | overTick e => exact strike_ruled _ agentId c.tick .rate a
    | overSecond e => exact strike_ruled ((observeTick c.tick r.limits).pruned agentId c.now) agentId c.tick .rate a
    | query havail hbucket hroom => exact .kept
    | request havail hbucket hroom hsecond => exact .kept
  | slotTake agentId =>
    have htaken := slotTake_taken agentId c.tick r.limits
    dsimp only
    generalize slotTake agentId c.tick r.limits = result at htaken
    rw [← hobserved]
    cases htaken with
    | barred e hbarred => exact .kept
    | full e => exact .kept
    | taken left havail hroom => exact .kept
  | slotRelease agentId => exact .kept
  | strike agentId trigger => exact strike_ruled r.limits agentId c.tick trigger a

theorem Ruled.revoked {tick : Int} {d d' : Discipline} (h : Ruled tick d d')
    (hrevoked : d.revoked = true) : d'.revoked = true := by
  cases h with
  | kept => exact hrevoked
  | struck config history =>
    unfold disciplined
    dsimp only
    split_ifs
    · exact hrevoked
    · simp [hrevoked]
    · exact hrevoked
    · exact hrevoked

theorem Ruled.suspensions {tick : Int} {d d' : Discipline} (h : Ruled tick d d') :
    d.suspensions ≤ d'.suspensions ∧ d'.suspensions ≤ d.suspensions + 1 := by
  cases h with
  | kept => omega
  | struck config history =>
    unfold disciplined
    dsimp only
    split_ifs
    · omega
    · show d.suspensions ≤ d.suspensions + 1 ∧ d.suspensions + 1 ≤ d.suspensions + 1
      omega
    · show d.suspensions ≤ d.suspensions ∧ d.suspensions ≤ d.suspensions + 1
      omega
    · omega

theorem Ruled.suspended {tick u : Int} {d d' : Discipline} (h : Ruled tick d d')
    (hsuspended : d.suspendedUntilTick = some u) (htick : tick < u) :
    d'.suspendedUntilTick = some u ∧ d'.suspensions = d.suspensions := by
  cases h with
  | kept => exact ⟨hsuspended, rfl⟩
  | struck config history =>
    have hin : (d.suspendedUntilTick.any fun t => decide (tick < t)) = true := by
      simp [hsuspended, htick]
    unfold disciplined
    dsimp only
    rw [if_pos hin]
    split_ifs
    · exact ⟨hsuspended, rfl⟩
    · exact ⟨hsuspended, rfl⟩
    · exact ⟨hsuspended, rfl⟩

theorem Ruled.throttled {tick t₀ : Int} {d d' : Discipline} (h : Ruled tick d d')
    (htick : t₀ ≤ tick) (hthrottled : ∃ u, d.throttledUntilTick = some u ∧ t₀ < u) :
    ∃ u, d'.throttledUntilTick = some u ∧ t₀ < u := by
  cases h with
  | kept => exact hthrottled
  | struck config history =>
    unfold disciplined
    dsimp only
    split_ifs
    · exact hthrottled
    · exact hthrottled
    · exact ⟨tick + 100, rfl, by omega⟩
    · exact hthrottled

/-! ## Throttled ticks -/

/-- An agent throttled in a tick, with no more than half the requests in it. -/
structure Halved (config : LimitConfig) (agentId : String) (t₀ : Int) (r : Record) : Prop where
  throttled : ∃ u, (r.limits.discipline agentId).throttledUntilTick = some u ∧ t₀ < u
  half : (chargesIn r.charges agentId .request t₀ : Int) ≤ max 1 (config.requestsPerTick / 2)

theorem Halved.step {agentId : String} {t₀ : Int} (h : Halved config agentId t₀ r)
    (hbounds : Bounds config T N r) {c : Call} (htick : T ≤ c.tick) (hlate : t₀ ≤ c.tick) :
    Halved config agentId t₀ (LimitSet.step r c) := by
  refine ⟨(step_ruled r c agentId).throttled hlate h.throttled, ?_⟩
  have hhalf := h.half
  have hobserved := hbounds.observe htick
  unfold LimitSet.step
  cases c.method with
  | charge agent bucket =>
    have hcharged := charge_charged agent bucket c.tick c.now r.limits
    dsimp only
    generalize charge agent bucket c.tick c.now r.limits = result at hcharged
    -- a charge that succeeds in the tick found room below the half
    have hsucceeds : (observeTick c.tick r.limits).tickCounts agent c.tick bucket
        < (observeTick c.tick r.limits).bucketLimit agent bucket c.tick →
        (chargesIn (r.charges ++ [⟨agent, bucket, c.tick, c.now⟩]) agentId .request t₀ : Int)
          ≤ max 1 (config.requestsPerTick / 2) := by
      intro hroom
      rw [chargesIn_snoc]
      split_ifs with hentry
      · obtain ⟨rfl, rfl, rfl⟩ := hentry
        obtain ⟨u, hu, hlt⟩ := h.throttled
        have hlimit : (observeTick c.tick r.limits).bucketLimit agent .request c.tick
            = max 1 (config.requestsPerTick / 2) := by
          have hconfig := hobserved.configured
          dsimp only at hconfig
          unfold bucketLimit
          rw [congrFun (observeTick_discipline c.tick r.limits) agent, hu, hconfig]
          simp [hlt]
        have hcounted := hobserved.counted agent .request c.tick (le_refl _)
        dsimp only at hcounted
        rw [hlimit] at hroom
        push_cast
        omega
      · simpa using hhalf
    cases hcharged with
    | barred e hbarred => exact hhalf
    | overTick e => exact hhalf
    | overSecond e => exact hhalf
    | query havail hbucket hroom => exact hsucceeds hroom
    | request havail hbucket hroom hsecond => exact hsucceeds hroom
  | slotTake agent =>
    dsimp only
    cases slotTake agent c.tick r.limits with
    | ok left limits => exact hhalf
    | error e limits => exact hhalf
  | slotRelease agent => exact hhalf
  | strike agent trigger => exact hhalf

/-! ## Whole runs -/

theorem bounds_run (hvalid : config.Valid) {before after : List Call} (h : Bounds config T N r)
    (hordered : (before ++ after).Pairwise Call.Before)
    (hlater : ∀ c ∈ before ++ after, T ≤ c.tick ∧ N ≤ c.now) :
    ∃ T' N', Bounds config T' N' (before.foldl LimitSet.step r) ∧
      ∀ c ∈ after, T' ≤ c.tick ∧ N' ≤ c.now := by
  induction before generalizing r T N with
  | nil => exact ⟨T, N, h, hlater⟩
  | cons c before ih =>
    obtain ⟨htick, hnow⟩ := hlater c List.mem_cons_self
    rw [List.cons_append, List.pairwise_cons] at hordered
    exact ih (h.step hvalid htick hnow) hordered.2 hordered.1

theorem bounds_of_run (hvalid : config.Valid) {before after : List Call}
    (hordered : (before ++ after).Pairwise Call.Before) :
    ∃ T N, Bounds config T N (run config before) ∧ ∀ c ∈ after, T ≤ c.tick ∧ N ≤ c.now := by
  cases hcalls : before ++ after with
  | nil =>
    obtain ⟨rfl, rfl⟩ := List.append_eq_nil_iff.mp hcalls
    exact ⟨0, 0, bounds_start hvalid 0 0, fun c hc => absurd hc List.not_mem_nil⟩
  | cons first rest =>
    -- the first call comes before all the others
    refine bounds_run hvalid (bounds_start hvalid first.tick first.now) hordered ?_
    intro c hc
    rw [hcalls] at hordered hc
    rcases List.mem_cons.mp hc with rfl | hc
    · exact ⟨le_refl _, le_refl _⟩
    · exact (List.pairwise_cons.mp hordered).1 c hc

theorem halved_run (hvalid : config.Valid) {agentId : String} {t₀ : Int} {after : List Call}
    (h : Halved config agentId t₀ r) (hbounds : Bounds config T N r)
    (hordered : after.Pairwise Call.Before) (hlater : ∀ c ∈ after, T ≤ c.tick ∧ N ≤ c.now)
    (hlate : ∀ c ∈ after, t₀ ≤ c.tick) : Halved config agentId t₀ (after.foldl LimitSet.step r) := by
  induction after generalizing r T N with
  | nil => exact h
  | cons c after ih =>
    obtain ⟨htick, hnow⟩ := hlater c List.mem_cons_self
    rw [List.pairwise_cons] at hordered
    exact ih (h.step hbounds htick (hlate c List.mem_cons_self)) (hbounds.step hvalid htick hnow)
      hordered.2 hordered.1 fun c' hc' => hlate c' (List.mem_cons_of_mem _ hc')

theorem charges_step (r : Record) (c : Call) (charge : Charge)
    (h : charge ∈ (LimitSet.step r c).charges) : charge ∈ r.charges ∨ charge.tick = c.tick := by
  unfold LimitSet.step at h
  cases hmethod : c.method with
  | charge agentId bucket =>
    rw [hmethod] at h
    dsimp only at h
    cases hresult : LimitSet.charge agentId bucket c.tick c.now r.limits with
    | ok u limits =>
      rw [hresult] at h
      rcases List.mem_append.mp h with h | h
      · exact .inl h
      · exact .inr (by rw [List.mem_singleton.mp h])
    | error e limits =>
      rw [hresult] at h
      exact .inl h
  | slotTake agentId =>
    rw [hmethod] at h
    dsimp only at h
    cases hresult : slotTake agentId c.tick r.limits with
    | ok left limits =>
      rw [hresult] at h
      exact .inl h
    | error e limits =>
      rw [hresult] at h
      exact .inl h
  | slotRelease agentId =>
    rw [hmethod] at h
    exact .inl h
  | strike agentId trigger =>
    rw [hmethod] at h
    exact .inl h

theorem charges_run {calls : List Call} {charge : Charge}
    (h : charge ∈ (calls.foldl LimitSet.step r).charges) :
    charge ∈ r.charges ∨ ∃ c ∈ calls, charge.tick = c.tick := by
  induction calls generalizing r with
  | nil => exact .inl h
  | cons c calls ih =>
    rcases ih h with hfirst | ⟨c', hc', htick⟩
    · rcases charges_step r c charge hfirst with hold | htick
      · exact .inl hold
      · exact .inr ⟨c, List.mem_cons_self, htick⟩
    · exact .inr ⟨c', List.mem_cons_of_mem _ hc', htick⟩

theorem chargesIn_before {before : List Call} {t : Int} (h : ∀ c ∈ before, c.tick < t)
    (config : LimitConfig) (a : String) (b : Bucket) :
    chargesIn (run config before).charges a b t = 0 := by
  refine List.countP_eq_zero.mpr fun charge hin => ?_
  rcases charges_run hin with hnone | ⟨c, hc, htick⟩
  · exact absurd hnone List.not_mem_nil
  · have hearlier := h c hc
    simp only [decide_eq_true_eq, not_and]
    intro _ _ heq
    omega

/-- The agent whose charge or slot a call gets, when it succeeds. -/
def served (l : LimitSet) (c : Call) : Option String :=
  match c.method with
  | .charge agentId bucket =>
    match charge agentId bucket c.tick c.now l with
    | .ok _ _ => some agentId
    | .error _ _ => none
  | .slotTake agentId =>
    match slotTake agentId c.tick l with
    | .ok _ _ => some agentId
    | .error _ _ => none
  | .slotRelease _ => none
  | .strike _ _ => none

theorem available_of_served {l : LimitSet} {c : Call} {agentId : String}
    (h : served l c = some agentId) : l.Available agentId c.tick := by
  have hobserved : ∀ a, (observeTick c.tick l).Available a c.tick → l.Available a c.tick := by
    intro a havail
    unfold Available at havail ⊢
    rwa [observeTick_discipline] at havail
  unfold served at h
  cases hmethod : c.method with
  | charge agent bucket =>
    rw [hmethod] at h
    have hcharged := charge_charged agent bucket c.tick c.now l
    dsimp only at h
    generalize charge agent bucket c.tick c.now l = result at hcharged h
    cases hcharged with
    | barred e hbarred => cases h
    | overTick e => cases h
    | overSecond e => cases h
    | query havail hbucket hroom =>
      cases h
      exact hobserved _ havail
    | request havail hbucket hroom hsecond =>
      cases h
      exact hobserved _ havail
  | slotTake agent =>
    rw [hmethod] at h
    have htaken := slotTake_taken agent c.tick l
    dsimp only at h
    generalize slotTake agent c.tick l = result at htaken h
    cases htaken with
    | barred e hbarred => cases h
    | full e => cases h
    | taken left havail hroom =>
      cases h
      exact hobserved _ havail
  | slotRelease agent =>
    rw [hmethod] at h
    cases h
  | strike agent trigger =>
    rw [hmethod] at h
    cases h

theorem run_append (config : LimitConfig) (before after : List Call) :
    run config (before ++ after) = after.foldl LimitSet.step (run config before) :=
  List.foldl_append

theorem suspended_run {during : List Call} {a : String} {u : Int}
    (hsuspended : (r.limits.discipline a).suspendedUntilTick = some u)
    (hduring : ∀ c ∈ during, c.tick < u) :
    ((during.foldl LimitSet.step r).limits.discipline a).suspensions
      = (r.limits.discipline a).suspensions := by
  induction during generalizing r with
  | nil => rfl
  | cons c during ih =>
    obtain ⟨hstill, hcount⟩ := (step_ruled r c a).suspended hsuspended (hduring c List.mem_cons_self)
    exact (ih hstill fun c' hc' => hduring c' (List.mem_cons_of_mem _ hc')).trans hcount

theorem revoked_run {after : List Call} {a : String}
    (h : (r.limits.discipline a).revoked = true) :
    ((after.foldl LimitSet.step r).limits.discipline a).revoked = true := by
  induction after generalizing r with
  | nil => exact h
  | cons c after ih => exact ih ((step_ruled r c a).revoked h)

/-- What the abuse ladder promises of a run. -/
structure LadderHolds (config : LimitConfig) (calls : List Call) : Prop where
  charges : ∀ a b t, (chargesIn (run config calls).charges a b t : Int) ≤ config.limitOf b
  /-- A tick that begins while the agent is throttled has half the requests. -/
  throttled : ∀ before after, calls = before ++ after → ∀ a t u, (∀ c ∈ before, c.tick < t) →
    (∀ c ∈ after, t ≤ c.tick) →
    ((run config before).limits.discipline a).throttledUntilTick = some u → t < u →
      (chargesIn (run config calls).charges a .request t : Int) ≤ max 1 (config.requestsPerTick / 2)
  slots : ∀ a t, (run config calls).held a t ≤ config.actionSlots
  seconds : ∀ a lo,
    ((requestTimes (run config calls).charges a).countP (fun x => lo ≤ x ∧ x < lo + 1) : Int)
        ≤ config.requestsPerSecond ∧
      ((requestTimes (run config calls).charges a).countP (fun x => lo < x ∧ x ≤ lo + 1) : Int)
        ≤ config.requestsPerSecond
  barred : ∀ before c after, calls = before ++ c :: after → ∀ a,
    served (run config before).limits c = some a →
      ((run config before).limits.discipline a).revoked = false ∧
        ∀ u, ((run config before).limits.discipline a).suspendedUntilTick = some u → u ≤ c.tick
  /-- A call imposes one suspension at most. -/
  imposed : ∀ before c after, calls = before ++ c :: after → ∀ a,
    ((run config (before ++ [c])).limits.discipline a).suspensions
      ≤ ((run config before).limits.discipline a).suspensions + 1
  /-- Until a suspension ends, no other is imposed. -/
  suspended : ∀ before during after, calls = before ++ (during ++ after) → ∀ a u,
    ((run config before).limits.discipline a).suspendedUntilTick = some u →
      (∀ c ∈ during, c.tick < u) →
        ((run config (before ++ during)).limits.discipline a).suspensions
          = ((run config before).limits.discipline a).suspensions
  revoked : ∀ a, ((run config calls).limits.discipline a).revoked = true ↔
    3 ≤ ((run config calls).limits.discipline a).suspensions
  permanent : ∀ before after, calls = before ++ after → ∀ a,
    ((run config before).limits.discipline a).revoked = true →
      ((run config calls).limits.discipline a).revoked = true

/-- **The abuse ladder is enforced** over any run. -/
theorem abuse_ladder (config : LimitConfig) (hvalid : config.Valid) (calls : List Call)
    (hordered : calls.Pairwise Call.Before) : LadderHolds config calls := by
  have hend : ∃ T N, Bounds config T N (run config calls) := by
    have hall : (calls ++ []).Pairwise Call.Before := by simpa using hordered
    obtain ⟨T, N, hbounds, _⟩ := bounds_of_run hvalid hall
    exact ⟨T, N, hbounds⟩
  obtain ⟨T, N, hbounds⟩ := hend
  refine ⟨hbounds.charged, ?_, hbounds.held, fun a lo => ?_, ?_, ?_, ?_, hbounds.revoked, ?_⟩
  · rintro before after rfl a t u hbefore hafter hthrottled hlt
    obtain ⟨T', N', hstart, hlater⟩ := bounds_of_run hvalid hordered
    have hnone := chargesIn_before hbefore config a .request
    have hhalved : Halved config a t (run config before) := by
      refine ⟨⟨u, hthrottled, hlt⟩, ?_⟩
      rw [hnone]
      exact le_trans (by decide) (le_max_left 1 _)
    rw [run_append]
    exact (halved_run hvalid hhalved hstart (List.pairwise_append.mp hordered).2.1 hlater hafter).half
  · have hspread := hbounds.spread a
    have hsecond := hvalid.second
    have hco := hspread.ico_le lo
    have hoc := hspread.ioc_le lo
    constructor
    · omega
    · omega
  · rintro before c after rfl a hserved
    exact available_of_served hserved
  · rintro before c after rfl a
    rw [run_append]
    exact (step_ruled (run config before) c a).suspensions.2
  · rintro before during after rfl a u hsuspended hduring
    rw [run_append]
    exact suspended_run hsuspended hduring
  · rintro before after rfl a hrevoked
    rw [run_append]
    exact revoked_run hrevoked

/-- Five bad signatures, and a request in the next tick. -/
def forged : List Call :=
  List.replicate 5 ⟨.strike "ann" .signature, 7, 0⟩ ++ [⟨.charge "ann" .request, 8, 1⟩]

theorem valid_default : LimitConfig.Valid {} :=
  ⟨by decide, by decide, by decide, by decide, by decide, by decide⟩

theorem forged_ladder :
    LadderHolds {} forged ∧ ((run {} forged).limits.discipline "ann").suspendedUntilTick = some 247 := by
  refine ⟨abuse_ladder {} valid_default forged ?_, by decide +kernel⟩
  simp [forged, Call.Before]

end LimitSet

end Polis.Gateway
