/-
  Polis.Gateway.Registrar — opening and closing sessions, revoking and
  departing (`gateway/auth.py`, `Registrar`).

  A call runs until it awaits the admission record or a push to the queue; it
  is then kept with what it needs to go on.  What runs between two awaits is
  one step, so the calls interleave at the awaits and nowhere else.  Signature
  verification and the random tokens are parameters; the clock and the tick
  are read by each step anew.

  Main results:
    * `beginSession_spec` — exactly when an admission read lets an
      `open_session` open its token, and what it does otherwise.
    * `verifyLifecycle_frame` — verifying a lifecycle request touches the
      reserved signatures only.
-/
import Polis.Gateway.Sessions

namespace Polis.Gateway

open Lib Lib.Bytes Lib.Effect
open Polis.Events (RunId hex)

/-- The code the registrar calls outside this file. -/
class RegistrarDeps where
  /-- ed25519 verification of a signature in hexadecimal. -/
  verify : String → ByteString → String → Bool
  /-- The `n`-th `secrets.token_hex(nbytes)`. -/
  tokenHex : Nat → Nat → String
  /-- The `n`-th `secrets.token_urlsafe(nbytes)`. -/
  tokenUrlsafe : Nat → Nat → String

/-- What the registrar reads of an admission record. -/
structure Admission where
  pubkey : String
  revokedTick : Option Int
  deriving Repr, DecidableEq

/-- The arguments of `open_session`. -/
structure OpenCall where
  agentId : String
  ttlS : Int
  sigHex : String
  delegatePubkey : Option String
  transport : String
  unixMs : Int
  sdkVersion : String
  deriving Repr, DecidableEq

/-- `Literal["depart", "revoke"]`. -/
inductive Ending where
  | depart | revoke
  deriving Repr, DecidableEq

/-- The arguments of `revoke` and `depart`. -/
structure EndCall where
  operation : Ending
  agentId : String
  reason : String
  sigHex : String
  unixMs : Int
  deriving Repr, DecidableEq

/-- What one step reads of the clock, call by call, and of the tick. -/
structure Readings where
  serverNow : Int
  reserveNow : Int
  reapNow : Int
  tick : Int

/-- A call that awaits. -/
inductive Pending where
  /-- `open_session` at its admission read. -/
  | openRead (call : OpenCall)
  /-- `open_session` at its push. -/
  | openPush (token : String) (session : Session) (sigHex : String)
  /-- `close_session` at its push. -/
  | closePush (token : String) (session : Session)
  /-- `revoke` or `depart` at its admission read. -/
  | endRead (call : EndCall)
  /-- `revoke` or `depart` at its push. -/
  | endPush (call : EndCall) (tick : Int)
  deriving DecidableEq

/-- `Registrar`, with the calls that await by their number, and the number of
random draws and of calls so far. -/
structure Registrar where
  sessions : SessionRegistry := {}
  lifecycleSignatures : Dict String Int := ∅
  pending : Dict Nat Pending := ∅
  draws : Nat := 0
  calls : Nat := 0

/-! ## Lifecycle signatures -/

/-- `_SKEW_TOLERANCE_MS`. -/
def SKEW_TOLERANCE_MS : Int := 300000

/-- `_SIGNATURE_RESERVATION_TTL_MS`. -/
def SIGNATURE_RESERVATION_TTL_MS : Int := 2 * SKEW_TOLERANCE_MS + 1

/-- `_lifecycle_signature_digest`. -/
def lifecycleSignatureDigest (operation sigHex : String) : String :=
  hex (sha256 (utf8 (operation ++ ":" ++ sigHex)))

def raised (code : ErrorCode) : GatewayFault := .protocol { code := code }

/-- `_reserve_lifecycle_signature`. -/
def reserveLifecycleSignature (operation sigHex : String) (now : Int) :
    EStateM GatewayFault Registrar Unit := do
  modify fun g => { g with
    lifecycleSignatures := g.lifecycleSignatures.filterValues fun expires => now < expires }
  let digest := lifecycleSignatureDigest operation sigHex
  let g ← get
  require (¬ g.lifecycleSignatures.contains digest = true) (raised .nonceReused)
  modify fun g => { g with lifecycleSignatures :=
    g.lifecycleSignatures.put digest (now + SIGNATURE_RESERVATION_TTL_MS) }

/-- `_release_lifecycle_signature`. -/
def releaseLifecycleSignature (g : Registrar) (operation sigHex : String) : Registrar :=
  { g with lifecycleSignatures :=
    g.lifecycleSignatures.erase (lifecycleSignatureDigest operation sigHex) }

/-! ## Opening a session -/

/-- The number a hexadecimal digit spells. -/
def hexValue (c : Char) : Option Nat :=
  if '0' ≤ c ∧ c ≤ '9' then some (c.toNat - 48)
  else if 'a' ≤ c ∧ c ≤ 'f' then some (c.toNat - 87)
  else if 'A' ≤ c ∧ c ≤ 'F' then some (c.toNat - 55)
  else none

/-- `bytes.fromhex`: two digits a byte, with blanks between bytes. -/
def fromHexChars : List Char → Option ByteString
  | [] => some []
  | c :: cs =>
    if c ∈ [' ', '\t', '\n', '\r', '\x0b', '\x0c'] then fromHexChars cs
    else match cs with
      | [] => none
      | d :: rest => do
        let high ← hexValue c
        let low ← hexValue d
        let bs ← fromHexChars rest
        some (UInt8.ofNat (16 * high + low) :: bs)

def fromHex (s : String) : Option ByteString := fromHexChars s.toList

/-- The transports a session may name. -/
def Transport.ofString : String → Option Transport
  | "mcp_stdio" => some .mcpStdio
  | "mcp_http" => some .mcpHttp
  | "rest" => some .rest
  | "ws" => some .ws
  | _ => none

/-- `bytes.fromhex(delegate_pubkey) if delegate_pubkey is not None else None`. -/
def delegateOf : Option String → Option (Option ByteString)
  | none => some none
  | some key => (fromHex key).map some

variable [RegistrarDeps] (runId : RunId) (sessionTtlS : Int)

/-- The session `open_session` opens. -/
def sessionOf (call : OpenCall) (pubkey : String) (transport : Transport) (serverNow : Int)
    (draw : Nat) : Session where
  sessionId := "ses_" ++ RegistrarDeps.tokenHex draw 12
  agentId := call.agentId
  custody := if call.delegatePubkey.isSome then .delegated else .operator
  delegatePubkey := call.delegatePubkey
  expiresUnixMs := serverNow + call.ttlS * 1000
  transport := transport
  sdkVersion := call.sdkVersion
  pubkeyHex := match call.delegatePubkey with
    | some key => if key = "" then pubkey else key
    | none => pubkey

/-- The checks `open_session` makes of what it has read. -/
def sessionChecks (call : OpenCall) (record : Option Admission) (now : Readings) :
    Except GatewayFault (Admission × Transport) := do
  let some admitted := record.filter fun r => r.revokedTick.isNone
    | throw (raised .notAdmitted)
  unless 1 ≤ call.ttlS ∧ call.ttlS ≤ sessionTtlS do throw (raised .schemaInvalid)
  unless |call.unixMs - now.serverNow| ≤ SKEW_TOLERANCE_MS do throw (raised .sessionInvalid)
  let some delegate := delegateOf call.delegatePubkey | throw (raised .schemaInvalid)
  unless delegate.all fun key => key.length = 32 do throw (raised .schemaInvalid)
  let some preimage := canonicalSessionBytes runId call.agentId call.unixMs call.ttlS delegate
    | throw .value
  unless RegistrarDeps.verify admitted.pubkey preimage call.sigHex do
    throw (raised .badSignature)
  let some transport := Transport.ofString call.transport | throw (raised .schemaInvalid)
  pure (admitted, transport)

/-- `open_session` from its admission read to its push: the token it opens. -/
def beginSession (call : OpenCall) (record : Option Admission) (now : Readings) :
    EStateM GatewayFault Registrar (String × Session) := do
  let checked ← liftE (sessionChecks runId sessionTtlS call record now)
  reserveLifecycleSignature "session" call.sigHex now.reserveNow
  let g ← get
  let session := sessionOf call checked.1.pubkey checked.2 now.serverNow g.draws
  let token := RegistrarDeps.tokenUrlsafe (g.draws + 1) 32
  set { g with
    sessions := g.sessions.openToken now.reapNow token session
    draws := g.draws + 2 }
  pure (token, session)

/-- Whether a signature is reserved. -/
def Registrar.reserved (g : Registrar) (operation sigHex : String) (now : Int) : Bool :=
  (g.lifecycleSignatures.filterValues fun expires => now < expires).contains
    (lifecycleSignatureDigest operation sigHex)

/-! ## Revoking and departing -/

/-- The name a lifecycle signature is reserved under. -/
def Ending.name : Ending → String
  | .depart => "depart"
  | .revoke => "revoke"

/-- The bytes a lifecycle signature signs. -/
def Ending.preimage (runId : RunId) (call : EndCall) : Option ByteString :=
  match call.operation with
  | .depart => canonicalDepartBytes runId call.agentId call.unixMs call.reason
  | .revoke => canonicalRevokeBytes runId call.agentId call.unixMs call.reason

/-- `_verify_lifecycle` after its admission read. -/
def verifyLifecycle (call : EndCall) (record : Option Admission) (now : Readings) :
    EStateM GatewayFault Registrar Unit := do
  let admitted ← orRaise (record.filter fun r => r.revokedTick.isNone) (raised .revoked)
  require (|call.unixMs - now.serverNow| ≤ SKEW_TOLERANCE_MS) (raised .sessionInvalid)
  let preimage ← orRaise (Ending.preimage runId call) .value
  require (RegistrarDeps.verify admitted.pubkey preimage call.sigHex) (raised .badSignature)
  reserveLifecycleSignature call.operation.name call.sigHex now.reserveNow

/-! ## Steps -/

/-- How a push to the queue ends: a `ProtocolError`, an `OSError` or
`RedisError`, or any other exception. -/
inductive PushOutcome where
  | ok
  | protocol (e : ProtocolError)
  | io
  | other
  deriving DecidableEq

/-- What the gateway does between two awaits: a call is received, a call goes
on, or the registry is asked. -/
inductive Step where
  | openSession (call : OpenCall)
  | closeSession (token : String)
  | endCall (call : EndCall)
  | read (id : Nat) (record : Option Admission) (now : Readings)
  | readRaises (id : Nat)
  | pushed (id : Nat) (outcome : PushOutcome)
  | resolve (token : String) (unixMs tick : Int)
  | issueTicket (token : String) (reapNow now : Int)
  | consumeTicket (ticket : String) (unixMs tick : Int)

/-- What a step reports: the call awaits, returns or raises. -/
inductive Reply where
  | awaits
  | opened (token : String) (session : Session)
  | closed
  | ended (tick : Int)
  | session (s : Session)
  | ticket (value : String) (expiresUnixMs : Int)
  | raised (e : GatewayFault)
  | failed
  | idle
  deriving DecidableEq

namespace Registrar

/-- A new call awaits. -/
def await (g : Registrar) (p : Pending) : Registrar :=
  { g with pending := g.pending.put g.calls p, calls := g.calls + 1 }

/-- A call goes on. -/
def resume (g : Registrar) (id : Nat) : Registrar := { g with pending := g.pending.erase id }

/-- `close_session` up to its push. -/
def closeSession (g : Registrar) (token : String) : Registrar × Reply :=
  let g' := { g with sessions := g.sessions.close token }
  match g.sessions.tokens.get? token with
  | none => (g', .raised sessionInvalid)
  | some session => (g'.await (.closePush token session), .awaits)

/-- A call that awaits its admission record gets it. -/
def onRead (g : Registrar) (id : Nat) (record : Option Admission) (now : Readings) :
    Registrar × Reply :=
  match g.pending.get? id with
  | some (.openRead call) =>
    match beginSession runId sessionTtlS call record now (g.resume id) with
    | .ok (token, session) g' =>
      ({ g' with pending := g'.pending.put id (.openPush token session call.sigHex) }, .awaits)
    | .error e g' => (g', .raised e)
  | some (.endRead call) =>
    match verifyLifecycle runId call record now (g.resume id) with
    | .ok _ g' => ({ g' with pending := g'.pending.put id (.endPush call now.tick) }, .awaits)
    | .error e g' => (g', .raised e)
  | _ => (g, .idle)

/-- The admission read of a call raises. -/
def onReadRaises (g : Registrar) (id : Nat) : Registrar × Reply :=
  match g.pending.get? id with
  | some (.openRead _) => (g.resume id, .failed)
  | some (.endRead _) => (g.resume id, .failed)
  | _ => (g, .idle)

/-- The registrar after `open_session` failed to push. -/
def abandon (g : Registrar) (token sigHex : String) : Registrar :=
  releaseLifecycleSignature { g with sessions := g.sessions.close token } "session" sigHex

/-- The push of a call ends. -/
def onPushed (g : Registrar) (id : Nat) (outcome : PushOutcome) : Registrar × Reply :=
  match g.pending.get? id with
  | some (.openPush token session sigHex) =>
    match outcome with
    | .ok => (g.resume id, .opened token session)
    | .protocol e => ((g.resume id).abandon token sigHex, .raised (.protocol e))
    | .io => ((g.resume id).abandon token sigHex, .raised (raised .gatewayDegraded))
    | .other => (g.resume id, .failed)
  | some (.closePush token session) =>
    let back := { g.resume id with sessions := g.sessions.restore token session }
    match outcome with
    | .ok => (g.resume id, .closed)
    | .protocol e => (back, .raised (.protocol e))
    | .io => (back, .raised (raised .gatewayDegraded))
    | .other => (g.resume id, .failed)
  | some (.endPush call tick) =>
    let release := releaseLifecycleSignature (g.resume id) call.operation.name call.sigHex
    match outcome with
    | .ok => ({ g.resume id with sessions := g.sessions.closeAgent call.agentId }, .ended tick)
    | .protocol e => (release, .raised (.protocol e))
    | .io => (release, .failed)
    | .other => (g.resume id, .failed)
  | _ => (g, .idle)

/-- A call of the registry. -/
def ask {α : Type} (g : Registrar) (x : EStateM GatewayFault SessionRegistry α)
    (reply : α → Reply) : Registrar × Reply :=
  match x g.sessions with
  | .ok a r => ({ g with sessions := r }, reply a)
  | .error e r => ({ g with sessions := r }, .raised e)

/-- One step. -/
def step (g : Registrar) : Step → Registrar × Reply
  | .openSession call => (g.await (.openRead call), .awaits)
  | .closeSession token => g.closeSession token
  | .endCall call => (g.await (.endRead call), .awaits)
  | .read id record now => g.onRead runId sessionTtlS id record now
  | .readRaises id => g.onReadRaises id
  | .pushed id outcome => g.onPushed id outcome
  | .resolve token unixMs tick => g.ask (SessionRegistry.resolve token unixMs tick) .session
  | .issueTicket token reapNow now =>
    { g with draws := g.draws + 1 }.ask
      (SessionRegistry.issueWebsocketTicket token (RegistrarDeps.tokenUrlsafe g.draws 24) reapNow
        now) fun t => .ticket t.1 t.2
  | .consumeTicket ticket unixMs tick =>
    g.ask (SessionRegistry.consumeWebsocketTicket ticket unixMs tick) .session

end Registrar

/-! ## What the steps leave alone -/

section Frames

variable {runId sessionTtlS}

omit [RegistrarDeps] in
theorem reserve_of_reserved {operation sigHex : String} {now : Int} {g : Registrar}
    (h : g.reserved operation sigHex now = true) :
    reserveLifecycleSignature operation sigHex now g = .error (raised .nonceReused)
      { g with lifecycleSignatures := g.lifecycleSignatures.filterValues fun e => now < e } := by
  unfold reserveLifecycleSignature
  rw [bind_of_ok (a := ⟨⟩) (modify_eq_ok.mpr rfl), get_bind]
  exact bind_of_error (require_fail (not_not_intro h) _ _)

omit [RegistrarDeps] in
theorem reserve_frame (operation sigHex : String) (now : Int) (g : Registrar) :
    ∃ d, stateAfter (reserveLifecycleSignature operation sigHex now g) =
        { g with lifecycleSignatures := d } ∧
      ((∃ g', reserveLifecycleSignature operation sigHex now g = .ok () g') ↔
        g.reserved operation sigHex now = false) := by
  by_cases h : g.reserved operation sigHex now = true
  · rw [reserve_of_reserved h]
    exact ⟨_, rfl, by simp [h]⟩
  · have hres : ∃ d, reserveLifecycleSignature operation sigHex now g = .ok ()
        { g with lifecycleSignatures := d } := by
      refine ⟨(g.lifecycleSignatures.filterValues fun e => now < e).put
        (lifecycleSignatureDigest operation sigHex) (now + SIGNATURE_RESERVATION_TTL_MS), ?_⟩
      unfold reserveLifecycleSignature
      rw [bind_of_ok (a := ⟨⟩) (modify_eq_ok.mpr rfl), get_bind]
      exact bind_of_ok (require_pass h _ _)
    obtain ⟨d, hd⟩ := hres
    rw [hd]
    exact ⟨d, rfl, by simp [h]⟩

/-- The condition under which an admission read lets `open_session` open. -/
def Admits (runId : RunId) (sessionTtlS : Int) (g : Registrar) (call : OpenCall)
    (record : Option Admission) (now : Readings) : Prop :=
  (∃ checked, sessionChecks runId sessionTtlS call record now = .ok checked) ∧
    g.reserved "session" call.sigHex now.reserveNow = false

variable (runId sessionTtlS) in
theorem beginSession_spec (call : OpenCall) (record : Option Admission) (now : Readings)
    (g : Registrar) :
    (Admits runId sessionTtlS g call record now ∧ ∃ d pubkey transport,
      beginSession runId sessionTtlS call record now g =
        .ok (RegistrarDeps.tokenUrlsafe (g.draws + 1) 32,
            sessionOf call pubkey transport now.serverNow g.draws)
          { g with
            lifecycleSignatures := d
            sessions := g.sessions.openToken now.reapNow
              (RegistrarDeps.tokenUrlsafe (g.draws + 1) 32)
              (sessionOf call pubkey transport now.serverNow g.draws)
            draws := g.draws + 2 }) ∨
    (¬ Admits runId sessionTtlS g call record now ∧ ∃ d e,
      beginSession runId sessionTtlS call record now g =
        .error e { g with lifecycleSignatures := d }) := by
  unfold beginSession
  cases hc : sessionChecks runId sessionTtlS call record now with
  | error e =>
    refine .inr ⟨fun h => ?_, g.lifecycleSignatures, e, rfl⟩
    obtain ⟨⟨checked, hok⟩, _⟩ := h
    rw [hc] at hok
    cases hok
  | ok checked =>
    obtain ⟨d, hframe, hiff⟩ := reserve_frame "session" call.sigHex now.reserveNow g
    rw [bind_of_ok (show (liftE (.ok checked) : EStateM GatewayFault Registrar _) g = .ok checked g
      from rfl)]
    cases hr : reserveLifecycleSignature "session" call.sigHex now.reserveNow g with
    | ok u g' =>
      rw [hr, stateAfter_ok] at hframe
      have hfree := hiff.mp ⟨g', hr⟩
      rw [bind_of_ok hr, hframe]
      exact .inl ⟨⟨⟨checked, hc⟩, hfree⟩, d, checked.1.pubkey, checked.2, rfl⟩
    | error e g' =>
      rw [hr, stateAfter_error] at hframe
      rw [bind_of_error hr, hframe]
      refine .inr ⟨fun h => ?_, d, e, rfl⟩
      obtain ⟨g'', hok⟩ := hiff.mpr h.2
      rw [hr] at hok
      cases hok

variable (runId) in
theorem verifyLifecycle_frame (call : EndCall) (record : Option Admission) (now : Readings)
    (g : Registrar) : ∃ d, stateAfter (verifyLifecycle runId call record now g) =
      { g with lifecycleSignatures := d } := by
  have hleaves : Leaves (fun g g' : Registrar => ∃ d, g' = { g with lifecycleSignatures := d })
      (verifyLifecycle runId call record now) := by
    have hr : ∀ g : Registrar, ∃ d, g = { g with lifecycleSignatures := d } := fun g => ⟨_, rfl⟩
    have ht : ∀ a b c : Registrar, (∃ d, b = { a with lifecycleSignatures := d }) →
        (∃ d, c = { b with lifecycleSignatures := d }) →
        ∃ d, c = { a with lifecycleSignatures := d } := by
      rintro a b c ⟨d, rfl⟩ ⟨d', rfl⟩
      exact ⟨d', rfl⟩
    have horraise : ∀ {α : Type} (o : Option α) (e : GatewayFault),
        Leaves (fun g g' : Registrar => ∃ d, g' = { g with lifecycleSignatures := d })
          (orRaise o e) := by
      intro α o e s
      cases o <;> exact ⟨_, rfl⟩
    refine leaves_bind ht (horraise _ _) fun _ => ?_
    refine leaves_bind ht (leaves_require hr _ _) fun _ => ?_
    refine leaves_bind ht (horraise _ _) fun _ => ?_
    refine leaves_bind ht (leaves_require hr _ _) fun _ => ?_
    intro g
    obtain ⟨d, hd, _⟩ := reserve_frame call.operation.name call.sigHex now.reserveNow g
    exact ⟨d, hd⟩
  exact hleaves g

end Frames

end Polis.Gateway
