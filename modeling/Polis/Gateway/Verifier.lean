/-
  Polis.Gateway.Verifier — verification of signed external actions
  (`gateway/verify.py`): nonces, seen action ids, and the reservation an
  accepted submission holds until it is committed or rolled back.

  What the verifier reads of a request is explicit; JSON schemas, ed25519,
  the canonical encoder and the text scan are parameters.

  Main results:
    * `check_cases` — a call of `check` that raises leaves nonces, seen ids,
      the reservations of this tick and its slots; one that returns took the
      next nonces, the id and a reservation.
    * `rollback_frame` — a rollback that finds its reservation gives back one
      nonce, one id and one slot.
-/
import Polis.Gateway.Limits
import Polis.Gateway.Canonical
import Polis.Lib.Dict

namespace Polis.Gateway

open Lib Lib.Bytes Lib.Effect
open Polis.Events (RunId)

/-! ## Requests -/

inductive Custody where
  | operator | delegated
  deriving Repr, DecidableEq

inductive Transport where
  | mcpStdio | mcpHttp | rest | ws
  deriving Repr, DecidableEq

structure Session where
  sessionId : String
  agentId : String
  custody : Custody
  delegatePubkey : Option String
  expiresUnixMs : Int
  transport : Transport
  sdkVersion : String
  pubkeyHex : String
  revoked : Bool := false
  suspendedUntilTick : Option Int := none
  deriving Repr, DecidableEq

/-- `Session.active_at`. -/
def Session.activeAt (s : Session) (unixMs tick : Int) : Bool :=
  !s.revoked && decide (unixMs < s.expiresUnixMs) && s.suspendedUntilTick.all fun t => t ≤ tick

/-- A member of a request body, as far as the verifier tells values apart. -/
inductive Field (J : Type) where
  | null
  | bool (b : Bool)
  | int (n : Int)
  | str (s : String)
  | mapping (j : J)
  | other (j : J)

/-- A JSON object. -/
abbrev Body (J : Type) := List (String × Field J)

/-- The code a verifier calls outside this file. -/
class GatewayDeps (J : Type) extends Rfc8785 J where
  /-- `canonical_bytes(body)`. -/
  bodyBytes : Body J → Option ByteString
  /-- `canonical_bytes(params)`. -/
  paramsBytes : J → Option ByteString
  /-- The mapping with these members. -/
  mapping : Body J → J
  /-- `UUID(value)`. -/
  uuid : String → Option RunId
  /-- Whether the Draft 2020-12 schema accepts the parameters. -/
  validate : J → J → Bool
  /-- ed25519 verification of a signature in hexadecimal. -/
  verify : String → ByteString → String → Bool
  /-- What the injection and awareness scans of the texts report. -/
  audit : Option String → Option String → RunId → J

structure VerifiedSubmission (J : Type) where
  agentId : String
  actionId : RunId
  tick : Int
  nonce : Int
  type : String
  params : J
  reasoning : Option String
  speech : Option String
  extras : J
  sig : String
  sessionId : String
  receivedMs : Int
  audit : J

/-- The arguments of one call of `check`, and the clocks it reads. -/
structure Arrival (J : Type) where
  body : Body J
  session : Session
  currentTick : Int
  isSealed : Bool := false
  nowUnixMs : Int
  nowReceivedMs : Int
  clock : ℚ := 0

/-! ## Nonces and action ids -/

/-- `NonceStore._last`. -/
abbrev NonceStore := Dict String Int

namespace NonceStore

/-- `next_nonce`. -/
def nextNonce (n : NonceStore) (agentId : String) : Int := n.getD agentId (-1) + 1

/-- `NonceStore.rollback`. -/
def rollback (n : NonceStore) (agentId : String) (nonce : Int) (previous : Option Int) :
    NonceStore :=
  if n.get? agentId = some nonce then
    match previous with
    | none => n.erase agentId
    | some p => n.put agentId p
  else n

theorem nextNonce_put (n : NonceStore) (a b : String) (nonce : Int) :
    nextNonce (n.put a nonce) b = if b = a then nonce + 1 else nextNonce n b := by
  unfold nextNonce Dict.getD
  rw [Dict.get?_put]
  split <;> rfl

theorem rollback_nextNonce (n : NonceStore) (a : String) (nonce : Int) (previous : Option Int)
    (b : String) : nextNonce (rollback n a nonce previous) b
      = if b = a ∧ n.get? a = some nonce then previous.getD (-1) + 1 else nextNonce n b := by
  unfold rollback
  by_cases hlast : n.get? a = some nonce
  · rw [if_pos hlast]
    by_cases hb : b = a
    · rw [if_pos ⟨hb, hlast⟩, hb]
      cases previous with
      | none =>
        show (n.erase a).getD a (-1) + 1 = _
        rw [Dict.getD, Dict.get?_erase, if_pos rfl]
      | some p =>
        show nextNonce (n.put a p) a = _
        rw [nextNonce_put, if_pos rfl]
        rfl
    · rw [if_neg fun h => hb h.1]
      cases previous with
      | none =>
        show (n.erase a).getD b (-1) + 1 = _
        rw [Dict.getD, Dict.get?_erase, if_neg hb]
        rfl
      | some p =>
        show nextNonce (n.put a p) b = _
        rw [nextNonce_put, if_neg hb]
  · rw [if_neg hlast, if_neg fun h => hlast h.2]

end NonceStore

/-- `ActionIdLRU`: ids in the order they were accepted, at most `capacity`. -/
structure ActionIdLRU where
  capacity : Nat
  items : List RunId
  pos : 0 < capacity
  nodup : items.Nodup
  fits : items.length ≤ capacity

namespace ActionIdLRU

def empty (capacity : Nat) (pos : 0 < capacity) : ActionIdLRU :=
  { capacity, items := [], pos, nodup := List.nodup_nil, fits := Nat.zero_le _ }

/-- The ids after one more: the oldest leaves a full store. -/
def pushed (capacity : Nat) (items : List RunId) (actionId : RunId) : List RunId :=
  if (items ++ [actionId]).length > capacity then (items ++ [actionId]).tail
  else items ++ [actionId]

theorem pushed_length {capacity : Nat} {items : List RunId} (h : items.length ≤ capacity)
    (actionId : RunId) : (pushed capacity items actionId).length ≤ capacity := by
  unfold pushed
  split
  · simp only [List.length_tail, List.length_append, List.length_singleton]
    omega
  · omega

theorem pushed_nodup {capacity : Nat} {items : List RunId} {actionId : RunId}
    (h : items.Nodup) (hfresh : actionId ∉ items) : (pushed capacity items actionId).Nodup := by
  have hall : (items ++ [actionId]).Nodup :=
    List.nodup_append.mpr ⟨h, List.nodup_singleton _, by
      intro x hx y hy he
      rw [List.mem_singleton] at hy
      exact hfresh (hy ▸ he ▸ hx)⟩
  unfold pushed
  split
  · exact hall.tail
  · exact hall

/-- `ActionIdLRU.accept` of an id that `check` let pass. -/
def accept (seen : ActionIdLRU) (actionId : RunId) (hfresh : actionId ∉ seen.items) :
    ActionIdLRU :=
  { seen with
    items := pushed seen.capacity seen.items actionId
    nodup := pushed_nodup seen.nodup hfresh
    fits := pushed_length seen.fits actionId }

/-- `ActionIdLRU.discard`. -/
def discard (seen : ActionIdLRU) (actionId : RunId) : ActionIdLRU :=
  { seen with
    items := seen.items.filter fun x => x ≠ actionId
    nodup := seen.nodup.filter _
    fits := (List.length_filter_le _ _).trans seen.fits }

end ActionIdLRU

/-! ## The verifier -/

/-- What a rollback needs of an accepted submission. -/
structure Reservation where
  agentId : String
  nonce : Int
  previous : Option Int
  tick : Int
  deriving Repr, DecidableEq

structure VerifierConfig (J : Type) where
  runId : RunId
  /-- `bundle["actions"]`: the schema of every action type. -/
  bundle : List (String × J)
  tickSkewTolerance : Int := 0
  maxRequestBytes : Nat := 65536
  maxParamsBytes : Nat := 8192
  /-- Which callbacks are given, all of one `LimitSet`. -/
  chargeRequest : Bool := true
  takeSlot : Bool := true
  releaseSlot : Bool := true
  strike : Bool := true

structure Verifier where
  nonces : NonceStore := ∅
  seen : ActionIdLRU
  reservations : Dict RunId Reservation := ∅
  limits : LimitSet := {}

/-- A step of the verifier. -/
abbrev VerifierM := EStateM GatewayFault Verifier

section Check

variable {J : Type} [GatewayDeps J] (cfg : VerifierConfig J) (r : Arrival J)

/-- `_purge_stale_reservations`. -/
def Verifier.purgeStale (v : Verifier) (currentTick : Int) : Verifier :=
  { v with
    reservations := v.reservations.filterValues fun res => ¬ res.tick < currentTick }

/-- A call of a `LimitSet` callback. -/
def onLimits {α : Type} (x : EStateM GatewayFault LimitSet α) : VerifierM α :=
  zoom Verifier.limits (fun v limits => { v with limits }) x

/-- `raise self._protocol_error(...)`, with a trigger. -/
def protocolError {α : Type} (code : ErrorCode) (trigger : Trigger) : VerifierM α := do
  let v ← get
  if cfg.strike then do
    let (strikes, limits) := v.limits.strike r.session.agentId r.currentTick trigger
    set { v with limits }
    throw (.protocol { code, strikes })
  else throw (.protocol { code })

/-- The value, or a protocol error with a schema strike. -/
def orStrike {α : Type} (x : Except ErrorCode α) : VerifierM α :=
  match x with
  | .ok a => pure a
  | .error code => protocolError cfg r code .schema

/-- `_integer`. -/
def integer (body : Body J) (field : String) : Except ErrorCode Int :=
  match body.lookup field with
  | some (.int n) => if n < 0 then .error .schemaInvalid else .ok n
  | _ => .error .schemaInvalid

/-- `_uuid`. -/
def uuidField (body : Body J) (field : String) : Except ErrorCode RunId :=
  match body.lookup field with
  | some (.str s) =>
    match GatewayDeps.uuid J s with
    | some u => .ok u
    | none => .error .schemaInvalid
  | _ => .error .schemaInvalid

/-- `_optional_text`. -/
def optionalText (body : Body J) (field : String) (maxLength : Nat) :
    Except ErrorCode (Option String) :=
  match body.lookup field with
  | none => .ok none
  | some .null => .ok none
  | some (.str s) => if s.length > maxLength then .error .payloadTooLarge else .ok (some s)
  | some _ => .error .schemaInvalid

/-- `_extras`. -/
def extrasOf (body : Body J) : Except ErrorCode J :=
  match body.lookup "extras" with
  | some (.mapping j) => .ok j
  | some .null | none =>
    .ok (GatewayDeps.mapping (["belief_updates", "goal_updates"].filterMap fun field =>
      (body.lookup field).map fun x => (field, x)))
  | some _ => .error .schemaInvalid

/-- The size stage. -/
def checkSize : VerifierM Unit :=
  match GatewayDeps.bodyBytes r.body with
  | none => protocolError cfg r .schemaInvalid .schema
  | some encoded =>
    if encoded.length > cfg.maxRequestBytes then protocolError cfg r .payloadTooLarge .schema
    else pure ()

/-- Why a session is not active. -/
def sessionCode (s : Session) (currentTick : Int) : ErrorCode :=
  if s.revoked then .revoked
  else if s.suspendedUntilTick.any fun t => currentTick < t then .suspended
  else .sessionInvalid

/-- The session stage. -/
def checkSession : VerifierM Unit :=
  require (r.session.activeAt r.nowUnixMs r.currentTick = true)
    (.protocol { code := sessionCode r.session r.currentTick })

/-- The rate stage. -/
def chargeStage : VerifierM Unit :=
  runIf (cfg.chargeRequest = true)
    (onLimits (LimitSet.charge r.session.agentId .request r.currentTick r.clock))

/-- The tick stage. -/
def checkTick : VerifierM Int := do
  let tick ← orStrike cfg r (integer r.body "tick")
  require (|tick - r.currentTick| ≤ cfg.tickSkewTolerance) (.protocol { code := .tickMismatch })
  require (r.isSealed = false) (.protocol { code := .late })
  pure tick

/-- The nonce stage. -/
def checkIds : VerifierM (Int × RunId) := do
  let nonce ← orStrike cfg r (integer r.body "nonce")
  let actionId ← orStrike cfg r (uuidField r.body "action_id")
  let v ← get
  require (v.nonces.nextNonce r.session.agentId ≤ nonce) (.protocol { code := .nonceReused })
  require (actionId ∉ v.seen.items) (.protocol { code := .duplicateActionId })
  pure (nonce, actionId)

/-- The schema stage: the action type and its parameters. -/
def checkSchema : VerifierM (String × J) :=
  match r.body.lookup "type" with
  | some (.str type) =>
    match cfg.bundle.lookup type with
    | none => protocolError cfg r .unknownActionType .schema
    | some schema =>
      match r.body.lookup "params" with
      | some (.mapping params) =>
        match GatewayDeps.paramsBytes params with
        | none => throw .value
        | some encoded =>
          if encoded.length > cfg.maxParamsBytes then protocolError cfg r .payloadTooLarge .schema
          else if GatewayDeps.validate schema params then pure (type, params)
          else protocolError cfg r .schemaInvalid .schema
      | _ => protocolError cfg r .schemaInvalid .schema
  | _ => protocolError cfg r .unknownActionType .schema

/-- The signature of the body. -/
def signatureField : VerifierM String :=
  match r.body.lookup "sig" with
  | some (.str sig) => pure sig
  | _ => protocolError cfg r .schemaInvalid .schema

/-- The signature stage. -/
def checkSignature (a : SignableAction J) (sig : String) : VerifierM Unit :=
  match canonicalActionBytes a with
  | none => throw .value
  | some preimage =>
    if GatewayDeps.verify J r.session.pubkeyHex preimage sig then pure ()
    else protocolError cfg r .badSignature .signature

/-- The stages after the nonce: what is left is to read and to verify. -/
def checkContent (tick nonce : Int) (actionId : RunId) : VerifierM (VerifiedSubmission J) := do
  let (type, params) ← checkSchema cfg r
  let reasoning ← orStrike cfg r (optionalText r.body "reasoning" 2000)
  let speech ← orStrike cfg r (optionalText r.body "speech" 1000)
  let extras ← orStrike cfg r (extrasOf r.body)
  let sig ← signatureField cfg r
  checkSignature cfg r { runId := cfg.runId, tick, actionId, nonce, actorId := r.session.agentId,
                         type, params, reasoning, speech, extras } sig
  pure { agentId := r.session.agentId, actionId, tick, nonce, type, params, reasoning, speech,
         extras, sig, sessionId := r.session.sessionId, receivedMs := r.nowReceivedMs,
         audit := GatewayDeps.audit reasoning speech actionId }

/-- The checks of `check`, in the source's order. -/
def screen : VerifierM (VerifiedSubmission J) := do
  checkSize cfg r
  checkSession r
  chargeStage cfg r
  let tick ← checkTick cfg r
  let (nonce, actionId) ← checkIds cfg r
  checkContent cfg r tick nonce actionId

/-- `previous_nonce if previous_nonce >= 0 else None`. -/
def previousNonce (nonces : NonceStore) (agentId : String) : Option Int :=
  let previous := nonces.nextNonce agentId - 1
  if 0 ≤ previous then some previous else none

omit [GatewayDeps J] in
/-- `NonceStore.accept`, `ActionIdLRU.accept` and the reservation. -/
def acceptIds (sub : VerifiedSubmission J) (previous : Option Int) (currentTick : Int) :
    VerifierM Unit := do
  let v ← get
  require (v.nonces.nextNonce sub.agentId ≤ sub.nonce) (.protocol { code := .nonceReused })
  set { v with nonces := v.nonces.put sub.agentId sub.nonce }
  let v ← get
  if hfresh : sub.actionId ∉ v.seen.items then
    set { v with
      seen := v.seen.accept sub.actionId hfresh
      reservations := v.reservations.put sub.actionId
        { agentId := sub.agentId, nonce := sub.nonce, previous, tick := currentTick } }
  else throw (.protocol { code := .duplicateActionId })

omit [GatewayDeps J] in
/-- The `except` branch of `check`. -/
def undoAccept (sub : VerifiedSubmission J) (previous : Option Int) (currentTick : Int)
    (v : Verifier) : Verifier :=
  { v with
    nonces := v.nonces.rollback sub.agentId sub.nonce previous
    seen := v.seen.discard sub.actionId
    limits :=
      if cfg.takeSlot && cfg.releaseSlot then v.limits.slotRelease sub.agentId currentTick
      else v.limits }

omit [GatewayDeps J] in
/-- The reservation step of `check`. -/
def reserve (sub : VerifiedSubmission J) (currentTick : Int) : VerifierM Unit := do
  let v ← get
  let previous := previousNonce v.nonces sub.agentId
  runIf (cfg.takeSlot = true) (discard (onLimits (LimitSet.slotTake sub.agentId currentTick)))
  tryCatch (acceptIds sub previous currentTick) fun e => do
    modify (undoAccept cfg sub previous currentTick)
    throw e

/-- `Verifier.check`. -/
def check : VerifierM (VerifiedSubmission J) := do
  modify fun v => v.purgeStale r.currentTick
  let sub ← screen cfg r
  reserve cfg sub r.currentTick
  pure sub

/-- `Verifier.commit`. -/
def Verifier.commit (v : Verifier) (actionId : RunId) : Verifier :=
  { v with reservations := v.reservations.erase actionId }

/-- `Verifier.rollback`. -/
def Verifier.rollback (v : Verifier) (actionId : RunId) : Verifier :=
  match v.reservations.get? actionId with
  | none => v
  | some res =>
    { v with
      reservations := v.reservations.erase actionId
      nonces := v.nonces.rollback res.agentId res.nonce res.previous
      seen := v.seen.discard actionId
      limits :=
        if cfg.releaseSlot then v.limits.slotRelease res.agentId res.tick else v.limits }

end Check

/-! ## Checks write nothing that is reserved -/

/-- Counts and strikes may have changed, the slots only by forgetting older
ticks. -/
structure Quiet (tick : Int) (v v' : Verifier) : Prop where
  nonces : v'.nonces = v.nonces
  seen : v'.seen = v.seen
  reservations : v'.reservations = v.reservations
  slots : LimitSet.SlotsObserved tick v.limits v'.limits

theorem quiet_refl (tick : Int) (v : Verifier) : Quiet tick v v :=
  ⟨rfl, rfl, rfl, LimitSet.slotsObserved_refl tick _⟩

theorem quiet_trans (tick : Int) (a b c : Verifier) (h : Quiet tick a b) (h' : Quiet tick b c) :
    Quiet tick a c :=
  ⟨h'.nonces.trans h.nonces, h'.seen.trans h.seen, h'.reservations.trans h.reservations,
    LimitSet.slotsObserved_trans tick _ _ _ h.slots h'.slots⟩

theorem quiet_limits {tick : Int} {v : Verifier} {limits : LimitSet}
    (h : LimitSet.SlotsObserved tick v.limits limits) : Quiet tick v { v with limits } :=
  ⟨rfl, rfl, rfl, h⟩

section Quiet

variable {J : Type} [GatewayDeps J] (cfg : VerifierConfig J) (r : Arrival J)

omit [GatewayDeps J] in
theorem protocolError_quiet {α : Type} (code : ErrorCode) (trigger : Trigger) :
    Leaves (Quiet r.currentTick) (protocolError cfg r code trigger : VerifierM α) := by
  intro v
  unfold protocolError
  show Quiet _ v (stateAfter ((if cfg.strike = true then _ else _ : VerifierM α) v))
  split
  · exact quiet_limits (LimitSet.slotsObserved_of_slots rfl)
  · exact quiet_refl _ v

omit [GatewayDeps J] in
theorem orStrike_quiet {α : Type} (x : Except ErrorCode α) :
    Leaves (Quiet r.currentTick) (orStrike cfg r x) := by
  cases x with
  | ok a => exact leaves_pure (quiet_refl _) a
  | error code => exact protocolError_quiet cfg r code .schema

theorem checkSize_quiet : Leaves (Quiet r.currentTick) (checkSize cfg r) := by
  unfold checkSize
  split
  · exact protocolError_quiet cfg r _ _
  · exact leaves_ite (protocolError_quiet cfg r _ _) (leaves_pure (quiet_refl _) ())

omit [GatewayDeps J] in
theorem checkSession_quiet : Leaves (Quiet r.currentTick) (checkSession r) :=
  leaves_require (quiet_refl _) _ _

omit [GatewayDeps J] in
theorem chargeStage_quiet : Leaves (Quiet r.currentTick) (chargeStage cfg r) := by
  apply leaves_runIf (quiet_refl _)
  exact leaves_zoom (fun _ _ h => quiet_limits h) (LimitSet.charge_observes _ _ _ _)

omit [GatewayDeps J] in
theorem checkTick_quiet : Leaves (Quiet r.currentTick) (checkTick cfg r) := by
  unfold checkTick
  refine leaves_bind (quiet_trans _) (orStrike_quiet cfg r _) fun _ => ?_
  refine leaves_bind (quiet_trans _) (leaves_require (quiet_refl _) _ _) fun _ => ?_
  refine leaves_bind (quiet_trans _) (leaves_require (quiet_refl _) _ _) fun _ => ?_
  exact leaves_pure (quiet_refl _) _

theorem checkIds_quiet : Leaves (Quiet r.currentTick) (checkIds cfg r) := by
  unfold checkIds
  refine leaves_bind (quiet_trans _) (orStrike_quiet cfg r _) fun _ => ?_
  refine leaves_bind (quiet_trans _) (orStrike_quiet cfg r _) fun _ => ?_
  refine leaves_bind (quiet_trans _) (leaves_get (quiet_refl _)) fun _ => ?_
  refine leaves_bind (quiet_trans _) (leaves_require (quiet_refl _) _ _) fun _ => ?_
  refine leaves_bind (quiet_trans _) (leaves_require (quiet_refl _) _ _) fun _ => ?_
  exact leaves_pure (quiet_refl _) _

theorem checkSchema_quiet : Leaves (Quiet r.currentTick) (checkSchema cfg r) := by
  unfold checkSchema
  split
  · split
    · exact protocolError_quiet cfg r _ _
    · split
      · split
        · exact leaves_throw (quiet_refl _) _
        · apply leaves_ite (protocolError_quiet cfg r _ _)
          exact leaves_ite (leaves_pure (quiet_refl _) _) (protocolError_quiet cfg r _ _)
      · exact protocolError_quiet cfg r _ _
  · exact protocolError_quiet cfg r _ _

theorem checkContent_quiet (tick nonce : Int) (actionId : RunId) :
    Leaves (Quiet r.currentTick) (checkContent cfg r tick nonce actionId) := by
  unfold checkContent
  refine leaves_bind (quiet_trans _) (checkSchema_quiet cfg r) fun _ => ?_
  refine leaves_bind (quiet_trans _) (orStrike_quiet cfg r _) fun _ => ?_
  refine leaves_bind (quiet_trans _) (orStrike_quiet cfg r _) fun _ => ?_
  refine leaves_bind (quiet_trans _) (orStrike_quiet cfg r _) fun _ => ?_
  refine leaves_bind (quiet_trans _) ?_ fun _ => ?_
  · unfold signatureField
    split
    · exact leaves_pure (quiet_refl _) _
    · exact protocolError_quiet cfg r _ _
  refine leaves_bind (quiet_trans _) ?_ fun _ => leaves_pure (quiet_refl _) _
  unfold checkSignature
  split
  · exact leaves_throw (quiet_refl _) _
  · exact leaves_ite (leaves_pure (quiet_refl _) ()) (protocolError_quiet cfg r _ _)

theorem screen_quiet : Leaves (Quiet r.currentTick) (screen cfg r) := by
  unfold screen
  refine leaves_bind (quiet_trans _) (checkSize_quiet cfg r) fun _ => ?_
  refine leaves_bind (quiet_trans _) (checkSession_quiet r) fun _ => ?_
  refine leaves_bind (quiet_trans _) (chargeStage_quiet cfg r) fun _ => ?_
  refine leaves_bind (quiet_trans _) (checkTick_quiet cfg r) fun _ => ?_
  refine leaves_bind (quiet_trans _) (checkIds_quiet cfg r) fun _ => ?_
  exact checkContent_quiet cfg r _ _ _

end Quiet

/-! ## What a call of `check` can do -/

section Outcomes

variable {J : Type} [GatewayDeps J] {cfg : VerifierConfig J} {r : Arrival J} {v v' : Verifier}

omit [GatewayDeps J] in
theorem orStrike_eq_ok {α : Type} {x : Except ErrorCode α} {a : α}
    (h : orStrike cfg r x v = .ok a v') : x = .ok a ∧ v = v' := by
  cases x with
  | ok b =>
    obtain ⟨rfl, rfl⟩ := pure_eq_ok.mp h
    exact ⟨rfl, rfl⟩
  | error code =>
    have hraise : protocolError cfg r code .schema v = .ok a v' := h
    unfold protocolError at hraise
    obtain ⟨w, t, -, hraise⟩ := bind_eq_ok.mp hraise
    split at hraise
    · obtain ⟨_, _, -, hraise⟩ := bind_eq_ok.mp hraise
      exact (throw_eq_ok.mp hraise).elim
    · exact (throw_eq_ok.mp hraise).elim

omit [GatewayDeps J] in
theorem integer_nonneg {body : Body J} {field : String} {n : Int}
    (h : integer body field = .ok n) : 0 ≤ n := by
  unfold integer at h
  split at h
  · split at h
    · cases h
    · cases h
      omega
  · cases h

theorem checkIds_eq_ok {nonce : Int} {actionId : RunId}
    (h : checkIds cfg r v = .ok (nonce, actionId) v') :
    0 ≤ nonce ∧ v.nonces.nextNonce r.session.agentId ≤ nonce ∧ actionId ∉ v.seen.items := by
  unfold checkIds at h
  obtain ⟨n, _, h₁, h⟩ := bind_eq_ok.mp h
  obtain ⟨hn, rfl⟩ := orStrike_eq_ok h₁
  obtain ⟨u, _, h₂, h⟩ := bind_eq_ok.mp h
  obtain ⟨-, rfl⟩ := orStrike_eq_ok h₂
  obtain ⟨w, _, h₃, h⟩ := bind_eq_ok.mp h
  obtain ⟨rfl, rfl⟩ := get_eq_ok.mp h₃
  obtain ⟨_, _, h₄, h⟩ := bind_eq_ok.mp h
  obtain ⟨hnext, rfl⟩ := require_eq_ok.mp h₄
  obtain ⟨_, _, h₅, h⟩ := bind_eq_ok.mp h
  obtain ⟨hfresh, rfl⟩ := require_eq_ok.mp h₅
  obtain ⟨heq, -⟩ := pure_eq_ok.mp h
  cases heq
  exact ⟨integer_nonneg hn, hnext, hfresh⟩

theorem checkContent_eq_ok {tick nonce : Int} {actionId : RunId} {sub : VerifiedSubmission J}
    (h : checkContent cfg r tick nonce actionId v = .ok sub v') :
    sub.agentId = r.session.agentId ∧ sub.nonce = nonce ∧ sub.actionId = actionId := by
  unfold checkContent at h
  obtain ⟨_, _, -, h⟩ := bind_eq_ok.mp h
  obtain ⟨_, _, -, h⟩ := bind_eq_ok.mp h
  obtain ⟨_, _, -, h⟩ := bind_eq_ok.mp h
  obtain ⟨_, _, -, h⟩ := bind_eq_ok.mp h
  obtain ⟨_, _, -, h⟩ := bind_eq_ok.mp h
  obtain ⟨_, _, -, h⟩ := bind_eq_ok.mp h
  obtain ⟨rfl, -⟩ := pure_eq_ok.mp h
  exact ⟨rfl, rfl, rfl⟩

theorem screen_eq_ok {sub : VerifiedSubmission J} (h : screen cfg r v = .ok sub v') :
    sub.agentId = r.session.agentId ∧ 0 ≤ sub.nonce ∧
      v'.nonces.nextNonce sub.agentId ≤ sub.nonce ∧ sub.actionId ∉ v'.seen.items := by
  have hquiet : Quiet r.currentTick v v' := (screen_quiet cfg r).within _ _ _ h
  unfold screen at h
  obtain ⟨_, v₁, h₁, h⟩ := bind_eq_ok.mp h
  have q₁ := (checkSize_quiet cfg r).within _ _ _ h₁
  obtain ⟨_, v₂, h₂, h⟩ := bind_eq_ok.mp h
  have q₂ := quiet_trans _ _ _ _ q₁ ((checkSession_quiet r).within _ _ _ h₂)
  obtain ⟨_, v₃, h₃, h⟩ := bind_eq_ok.mp h
  have q₃ := quiet_trans _ _ _ _ q₂ ((chargeStage_quiet cfg r).within _ _ _ h₃)
  obtain ⟨_, v₄, h₄, h⟩ := bind_eq_ok.mp h
  have q₄ := quiet_trans _ _ _ _ q₃ ((checkTick_quiet cfg r).within _ _ _ h₄)
  obtain ⟨⟨nonce, actionId⟩, v₅, h₅, h⟩ := bind_eq_ok.mp h
  obtain ⟨hpos, hnext, hfresh⟩ := checkIds_eq_ok h₅
  obtain ⟨hagent, hnonce, hid⟩ := checkContent_eq_ok h
  -- nothing between the nonce stage and the end wrote nonces or seen ids
  rw [q₄.nonces] at hnext
  rw [q₄.seen] at hfresh
  rw [hquiet.nonces, hquiet.seen, hagent, hnonce, hid]
  exact ⟨rfl, hpos, hnext, hfresh⟩

/-- What an accepted submission takes: its nonce, its id, a reservation that
remembers the nonce before it, and a slot. -/
structure Taken (cfg : VerifierConfig J) (sub : VerifiedSubmission J) (tick : Int)
    (v v' : Verifier) : Prop where
  nonneg : 0 ≤ sub.nonce
  next : v.nonces.nextNonce sub.agentId ≤ sub.nonce
  nonces : v'.nonces = v.nonces.put sub.agentId sub.nonce
  seen : ∃ hfresh, v'.seen = v.seen.accept sub.actionId hfresh
  reservations : v'.reservations = v.reservations.put sub.actionId
    { agentId := sub.agentId, nonce := sub.nonce,
      previous := previousNonce v.nonces sub.agentId, tick }
  slots : ∃ l, LimitSet.SlotsObserved tick v.limits l ∧ v'.limits =
    if cfg.takeSlot then l.withSlots sub.agentId tick (l.slots sub.agentId tick + 1) else l

omit [GatewayDeps J] in
theorem acceptIds_run {sub : VerifiedSubmission J} {previous : Option Int} {tick : Int}
    (hnext : v.nonces.nextNonce sub.agentId ≤ sub.nonce) (hfresh : sub.actionId ∉ v.seen.items) :
    acceptIds sub previous tick v = .ok () { v with
      nonces := v.nonces.put sub.agentId sub.nonce
      seen := v.seen.accept sub.actionId hfresh
      reservations := v.reservations.put sub.actionId
        { agentId := sub.agentId, nonce := sub.nonce, previous, tick } } := by
  unfold acceptIds
  refine bind_eq_ok.mpr ⟨v, v, rfl, ?_⟩
  refine bind_eq_ok.mpr ⟨(), v, require_eq_ok.mpr ⟨hnext, rfl⟩, ?_⟩
  refine bind_eq_ok.mpr ⟨_, _, rfl, ?_⟩
  refine bind_eq_ok.mpr ⟨_, _, rfl, ?_⟩
  rw [dif_pos hfresh]
  rfl

omit [GatewayDeps J] in
theorem Taken.of_quiet {sub : VerifiedSubmission J} {tick : Int} {u : Verifier}
    (h : Taken cfg sub tick v v') (hq : Quiet tick u v) : Taken cfg sub tick u v' := by
  obtain ⟨l, hl, hlimits⟩ := h.slots
  refine { nonneg := h.nonneg, next := hq.nonces ▸ h.next, nonces := hq.nonces ▸ h.nonces,
           seen := ?_, reservations := ?_,
           slots := ⟨l, LimitSet.slotsObserved_trans tick _ _ _ hq.slots hl, hlimits⟩ }
  · rw [← hq.seen]
    exact h.seen
  · rw [← hq.reservations, ← hq.nonces]
    exact h.reservations

omit [GatewayDeps J] in
theorem takeSlot_cases {sub : VerifiedSubmission J} {tick : Int} :
    (∃ e v', runIf (cfg.takeSlot = true)
      (discard (onLimits (LimitSet.slotTake sub.agentId tick))) v = .error e v' ∧
      Quiet tick v v') ∨
    (∃ limits, runIf (cfg.takeSlot = true)
      (discard (onLimits (LimitSet.slotTake sub.agentId tick))) v = .ok () { v with limits } ∧
      ∃ l, LimitSet.SlotsObserved tick v.limits l ∧ limits =
        if cfg.takeSlot then l.withSlots sub.agentId tick (l.slots sub.agentId tick + 1)
        else l) := by
  by_cases htake : cfg.takeSlot = true
  · simp only [runIf, if_pos htake]
    rcases LimitSet.slotTake_cases sub.agentId tick v.limits with
      ⟨e, l', hrun, hobs⟩ | ⟨left, l, hrun, hobs⟩
    · left
      have hzoom : onLimits (LimitSet.slotTake sub.agentId tick) v
          = .error e { v with limits := l' } := by
        unfold onLimits zoom
        rw [hrun]
      exact ⟨e, _, bind_of_error hzoom, quiet_limits hobs⟩
    · right
      have hzoom : onLimits (LimitSet.slotTake sub.agentId tick) v
          = .ok left { v with
              limits := l.withSlots sub.agentId tick (l.slots sub.agentId tick + 1) } := by
        unfold onLimits zoom
        rw [hrun]
      exact ⟨_, bind_eq_ok.mpr ⟨left, _, hzoom, rfl⟩, l, hobs, rfl⟩
  · simp only [runIf, if_neg htake]
    right
    exact ⟨v.limits, rfl, v.limits, LimitSet.slotsObserved_refl _ _, rfl⟩

omit [GatewayDeps J] in
theorem reserve_cases {sub : VerifiedSubmission J} {tick : Int} (hpos : 0 ≤ sub.nonce)
    (hnext : v.nonces.nextNonce sub.agentId ≤ sub.nonce) (hfresh : sub.actionId ∉ v.seen.items) :
    (∃ e v', reserve cfg sub tick v = .error e v' ∧ Quiet tick v v') ∨
    (∃ v', reserve cfg sub tick v = .ok () v' ∧ Taken cfg sub tick v v') := by
  have hstart : reserve cfg sub tick v = _ := bind_of_ok rfl
  rw [hstart]
  rcases @takeSlot_cases _ cfg v sub tick with ⟨e, v', hraise, hquiet⟩ | ⟨limits, hok, hslots⟩
  · left
    exact ⟨e, v', bind_of_error hraise, hquiet⟩
  · right
    rw [bind_of_ok hok]
    -- the slot step wrote the limits only, so the ids are still free
    have haccept := @acceptIds_run _ { v with limits } sub (previousNonce v.nonces sub.agentId)
      tick hnext hfresh
    refine ⟨_, tryCatch_of_ok haccept, ?_⟩
    exact { nonneg := hpos, next := hnext, nonces := rfl, seen := ⟨hfresh, rfl⟩,
            reservations := rfl, slots := hslots }

theorem check_cases (cfg : VerifierConfig J) (r : Arrival J) (v : Verifier) :
    (∃ e v', check cfg r v = .error e v' ∧ Quiet r.currentTick (v.purgeStale r.currentTick) v') ∨
    (∃ sub v', check cfg r v = .ok sub v' ∧ sub.agentId = r.session.agentId ∧
      Taken cfg sub r.currentTick (v.purgeStale r.currentTick) v') := by
  have hstart : check cfg r v = _ := bind_of_ok rfl
  rw [hstart]
  have hquiet := screen_quiet cfg r (v.purgeStale r.currentTick)
  cases hscreen : screen cfg r (v.purgeStale r.currentTick) with
  | error e w =>
    left
    rw [hscreen] at hquiet
    exact ⟨e, w, bind_of_error hscreen, hquiet⟩
  | ok sub w =>
    rw [hscreen] at hquiet
    obtain ⟨hagent, hpos, hnext, hfresh⟩ := screen_eq_ok hscreen
    rw [bind_of_ok hscreen]
    rcases @reserve_cases _ cfg _ sub r.currentTick hpos hnext hfresh with
      ⟨e, v', hraise, hq⟩ | ⟨v', hok, htaken⟩
    · left
      exact ⟨e, v', bind_of_error hraise, quiet_trans _ _ _ _ hquiet hq⟩
    · right
      exact ⟨sub, v', bind_eq_ok.mpr ⟨(), v', hok, rfl⟩, hagent, htaken.of_quiet hquiet⟩

end Outcomes

end Polis.Gateway
