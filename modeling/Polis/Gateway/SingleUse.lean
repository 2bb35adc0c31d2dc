/-
  Polis.Gateway.SingleUse — signatures of lifecycle requests, used once
  (`gateway/auth.py`, `Registrar`).

  Opening a session, resuming, revoking and departing each check a signature,
  reserve it, push to the queue, and release it when the push fails.  A call
  is two steps, before and after it awaits its push, and the steps of any
  number of calls interleave.  The clock is read twice in the first step, for
  the age of the request and for the reservation.

  Main results:
    * `begin_begun` — what a call has passed that awaits its push.
    * `Kept.step` — no two calls that await or have succeeded share a
      signature.
    * `single_use` — over every run: a signed message succeeds once.
    * `reservation_outlived` — the clock passes the end of a reservation
      between its two readings, and a message succeeds twice.
-/
import Polis.Gateway.Registrar
import Polis.Lib.Runs

namespace Polis.Gateway

open Lib Lib.Bytes Lib.Effect Lib.Runs
open Polis.Events (RunId)

/-! ## Calls -/

/-- What `resume` reads of an admission record. -/
structure Enrolment extends Admission where
  naturalisedTick : Option Int
  resumeGraceUntilTick : Option Int
  deriving Repr, DecidableEq

/-- The arguments of `resume`. -/
structure ResumeCall where
  agentId : String
  sigHex : String
  unixMs : Int
  deriving Repr, DecidableEq

/-- A call with a lifecycle signature. -/
inductive SignedCall where
  | openSession (call : OpenCall)
  | resume (call : ResumeCall)
  | ending (call : EndCall)
  deriving Repr, DecidableEq

namespace SignedCall

/-- The name the signature is reserved under. -/
def operation : SignedCall → String
  | .openSession _ => "session"
  | .resume _ => "resume"
  | .ending call => call.operation.name

def sigHex : SignedCall → String
  | .openSession call => call.sigHex
  | .resume call => call.sigHex
  | .ending call => call.sigHex

def unixMs : SignedCall → Int
  | .openSession call => call.unixMs
  | .resume call => call.unixMs
  | .ending call => call.unixMs

/-- `_lifecycle_signature_digest` of a call. -/
def digest (c : SignedCall) : String := lifecycleSignatureDigest c.operation c.sigHex

/-- The message a call's signature signs. -/
def message (runId : RunId) : SignedCall → Option ByteString
  | .openSession call => do
    let delegate ← delegateOf call.delegatePubkey
    canonicalSessionBytes runId call.agentId call.unixMs call.ttlS delegate
  | .resume call => canonicalResumeBytes runId call.agentId call.unixMs
  | .ending call => Ending.preimage runId call

end SignedCall

variable [RegistrarDeps] (runId : RunId) (sessionTtlS : Int)

/-- `resume` from its admission read to its push. -/
def beginResume (call : ResumeCall) (record : Option Enrolment) (now : Readings) :
    EStateM GatewayFault Registrar Unit := do
  let admitted ← orRaise (record.filter fun r => r.revokedTick.isNone) (raised .revoked)
  require (|call.unixMs - now.serverNow| ≤ SKEW_TOLERANCE_MS) (raised .sessionInvalid)
  let preimage ← orRaise (canonicalResumeBytes runId call.agentId call.unixMs) .value
  require (RegistrarDeps.verify admitted.pubkey preimage call.sigHex) (raised .badSignature)
  require (admitted.naturalisedTick.isSome ∧
    admitted.resumeGraceUntilTick.any fun grace => now.tick ≤ grace) (raised .notAdmitted)
  reserveLifecycleSignature "resume" call.sigHex now.reserveNow

/-- A call from its admission read to its push: the session it opens. -/
def SignedCall.begin (call : SignedCall) (record : Option Enrolment) (now : Readings) :
    EStateM GatewayFault Registrar (Option (String × Session)) :=
  match call with
  | .openSession call =>
    some <$> beginSession runId sessionTtlS call (record.map Enrolment.toAdmission) now
  | .resume call => (fun _ => none) <$> beginResume runId call record now
  | .ending call =>
    (fun _ => none) <$> verifyLifecycle runId call (record.map Enrolment.toAdmission) now

/-! ## Runs -/

/-- A call that awaits its push, and when its signature was reserved. -/
structure Awaiting where
  call : SignedCall
  opened : Option (String × Session)
  reservedAt : Int

/-- The registrar after a push that failed with an error the call catches. -/
def Awaiting.released (a : Awaiting) (g : Registrar) : Registrar :=
  match a.call, a.opened with
  | .openSession call, some (token, _) => g.abandon token call.sigHex
  | call, _ => releaseLifecycleSignature g call.operation call.sigHex

/-- The registrar after a push that was made. -/
def Awaiting.finished (a : Awaiting) (g : Registrar) : Registrar :=
  match a.call with
  | .ending call => { g with sessions := g.sessions.closeAgent call.agentId }
  | _ => g

/-- A step of a run. -/
inductive LifecycleStep where
  /-- A call reads its admission record, and goes on to its push or raises. -/
  | enter (call : SignedCall) (record : Option Enrolment) (now : Readings)
  /-- The push of one of the awaiting calls ends; `happened` tells whether
  anything was queued. -/
  | settle (i : Nat) (outcome : PushOutcome) (happened : Bool)

/-- The registrar, the calls that await, and those that succeeded. -/
structure LifecycleDesk where
  registrar : Registrar := {}
  awaiting : List Awaiting := []
  succeeded : List Awaiting := []

namespace LifecycleDesk

/-- One step. -/
def step (s : LifecycleDesk) : LifecycleStep → LifecycleDesk
  | .enter call record now =>
    match call.begin runId sessionTtlS record now s.registrar with
    | .ok opened registrar =>
      { s with registrar, awaiting := s.awaiting ++ [⟨call, opened, now.reserveNow⟩] }
    | .error _ registrar => { s with registrar }
  | .settle i outcome _ =>
    match s.awaiting[i]? with
    | none => s
    | some a =>
      let awaiting := s.awaiting.eraseIdx i
      match outcome with
      | .ok =>
        { registrar := a.finished s.registrar, awaiting, succeeded := s.succeeded ++ [a] }
      | .protocol _ => { s with registrar := a.released s.registrar, awaiting }
      | .io => { s with registrar := a.released s.registrar, awaiting }
      | .other => { s with awaiting }

/-- A run. -/
def run (steps : List LifecycleStep) : LifecycleDesk :=
  steps.foldl (LifecycleDesk.step runId sessionTtlS) {}

/-- The calls that await or have succeeded. -/
def live (s : LifecycleDesk) : List Awaiting := s.awaiting ++ s.succeeded

end LifecycleDesk

/-! ## What a call has passed -/

/-- The reservations that have not expired. -/
def Registrar.unexpired (g : Registrar) (now : Int) : Dict String Int :=
  g.lifecycleSignatures.filterValues fun expires => now < expires

omit [RegistrarDeps] in
theorem reserve_ok {operation sigHex : String} {now : Int} {g g' : Registrar}
    (h : reserveLifecycleSignature operation sigHex now g = .ok () g') :
    (g.unexpired now).get? (lifecycleSignatureDigest operation sigHex) = none ∧
      g'.lifecycleSignatures = (g.unexpired now).put (lifecycleSignatureDigest operation sigHex)
        (now + SIGNATURE_RESERVATION_TTL_MS) := by
  unfold reserveLifecycleSignature at h
  obtain ⟨_, g₁, hpurge, hrest⟩ := bind_eq_ok.mp h
  obtain ⟨read, g₂, hget, hcheck⟩ := bind_eq_ok.mp hrest
  obtain ⟨_, g₃, hrequire, hput⟩ := bind_eq_ok.mp hcheck
  obtain ⟨rfl, rfl⟩ := get_eq_ok.mp hget
  obtain ⟨hfree, rfl⟩ := require_eq_ok.mp hrequire
  have hg' := modify_eq_ok.mp hput
  rw [← modify_eq_ok.mp hpurge] at hfree hg'
  rw [← hg']
  refine ⟨?_, rfl⟩
  simpa [Dict.contains, Registrar.unexpired] using hfree

omit [RegistrarDeps] in
theorem reserve_error {operation sigHex : String} {now : Int} {g g' : Registrar} {e : GatewayFault}
    (h : reserveLifecycleSignature operation sigHex now g = .error e g') :
    g'.lifecycleSignatures = g.unexpired now := by
  obtain ⟨d, hframe, hiff⟩ := reserve_frame operation sigHex now g
  have hreserved : g.reserved operation sigHex now = true := by
    by_contra hfree
    obtain ⟨g'', hok⟩ := hiff.mpr (by simpa using hfree)
    rw [h] at hok
    cases hok
  have hres := reserve_of_reserved hreserved
  rw [h] at hres
  cases hres
  rfl

/-- A call passes the checks before its reservation. -/
def SignedCall.Passes (call : SignedCall) (record : Option Enrolment) (now : Readings) : Prop :=
  match call with
  | .openSession call =>
    ∃ checked, sessionChecks runId sessionTtlS call (record.map Enrolment.toAdmission) now = .ok checked
  | .resume call =>
    ∃ admitted preimage, record = some admitted ∧ admitted.revokedTick = none ∧
      |call.unixMs - now.serverNow| ≤ SKEW_TOLERANCE_MS ∧
      canonicalResumeBytes runId call.agentId call.unixMs = some preimage ∧
      RegistrarDeps.verify admitted.pubkey preimage call.sigHex = true ∧
      admitted.naturalisedTick.isSome = true ∧
      admitted.resumeGraceUntilTick.any (fun grace => now.tick ≤ grace) = true
  | .ending call =>
    ∃ admitted preimage, record = some admitted ∧ admitted.revokedTick = none ∧
      |call.unixMs - now.serverNow| ≤ SKEW_TOLERANCE_MS ∧
      Ending.preimage runId call = some preimage ∧
      RegistrarDeps.verify admitted.pubkey preimage call.sigHex = true

/-- The reservations a call leaves. -/
def SignedCall.Reserves (call : SignedCall) (record : Option Enrolment) (now : Readings)
    (g g' : Registrar) : Prop :=
  call.Passes runId sessionTtlS record now ∧
    (g.unexpired now.reserveNow).get? call.digest = none ∧
    g'.lifecycleSignatures = (g.unexpired now.reserveNow).put call.digest
      (now.reserveNow + SIGNATURE_RESERVATION_TTL_MS)

/-- The reservations a call leaves that raises. -/
def SignedCall.Leaves (now : Readings) (g g' : Registrar) : Prop :=
  g'.lifecycleSignatures = g.lifecycleSignatures ∨
    g'.lifecycleSignatures = g.unexpired now.reserveNow

theorem verifyLifecycle_begun (call : EndCall) (record : Option Enrolment) (now : Readings)
    (g : Registrar) :
    EndsIn ((SignedCall.ending call).Reserves runId sessionTtlS record now g) (SignedCall.Leaves now g)
      (verifyLifecycle runId call (record.map Enrolment.toAdmission) now g) := by
  unfold verifyLifecycle
  cases hrecord : (record.map Enrolment.toAdmission).filter fun r => r.revokedTick.isNone with
  | none => exact .inl rfl
  | some admitted =>
    rw [bind_of_ok (orRaise_eq_ok.mpr ⟨rfl, rfl⟩)]
    by_cases hskew : |call.unixMs - now.serverNow| ≤ SKEW_TOLERANCE_MS
    · rw [bind_of_ok (require_pass hskew _ g)]
      cases hpre : Ending.preimage runId call with
      | none => exact .inl rfl
      | some preimage =>
        rw [bind_of_ok (orRaise_eq_ok.mpr ⟨rfl, rfl⟩)]
        by_cases hsig : RegistrarDeps.verify admitted.pubkey preimage call.sigHex = true
        · rw [bind_of_ok (require_pass hsig _ g)]
          cases hres : reserveLifecycleSignature call.operation.name call.sigHex now.reserveNow g with
          | error e g' => exact .inr (reserve_error hres)
          | ok _ g' =>
            refine ⟨?_, reserve_ok hres⟩
            obtain ⟨hadmitted, hrevoked⟩ := Option.filter_eq_some_iff.mp hrecord
            obtain ⟨enrolment, rfl, rfl⟩ := Option.map_eq_some_iff.mp hadmitted
            exact ⟨enrolment, preimage, rfl, by simpa using hrevoked, hskew, hpre, hsig⟩
        · rw [bind_of_error (require_fail hsig _ g)]
          exact .inl rfl
    · rw [bind_of_error (require_fail hskew _ g)]
      exact .inl rfl

theorem beginResume_begun (call : ResumeCall) (record : Option Enrolment) (now : Readings)
    (g : Registrar) :
    EndsIn ((SignedCall.resume call).Reserves runId sessionTtlS record now g) (SignedCall.Leaves now g)
      (beginResume runId call record now g) := by
  unfold beginResume
  cases hrecord : record.filter fun r => r.revokedTick.isNone with
  | none => exact .inl rfl
  | some admitted =>
    rw [bind_of_ok (orRaise_eq_ok.mpr ⟨rfl, rfl⟩)]
    by_cases hskew : |call.unixMs - now.serverNow| ≤ SKEW_TOLERANCE_MS
    · rw [bind_of_ok (require_pass hskew _ g)]
      cases hpre : canonicalResumeBytes runId call.agentId call.unixMs with
      | none => exact .inl rfl
      | some preimage =>
        rw [bind_of_ok (orRaise_eq_ok.mpr ⟨rfl, rfl⟩)]
        by_cases hsig : RegistrarDeps.verify admitted.pubkey preimage call.sigHex = true
        · rw [bind_of_ok (require_pass hsig _ g)]
          by_cases hgrace : admitted.naturalisedTick.isSome = true ∧
              admitted.resumeGraceUntilTick.any (fun grace => now.tick ≤ grace) = true
          · rw [bind_of_ok (require_pass hgrace _ g)]
            cases hres : reserveLifecycleSignature "resume" call.sigHex now.reserveNow g with
            | error e g' => exact .inr (reserve_error hres)
            | ok _ g' =>
              refine ⟨?_, reserve_ok hres⟩
              obtain ⟨hadmitted, hrevoked⟩ := Option.filter_eq_some_iff.mp hrecord
              exact ⟨admitted, preimage, hadmitted, by simpa using hrevoked, hskew, hpre, hsig, hgrace⟩
          · rw [bind_of_error (require_fail hgrace _ g)]
            exact .inl rfl
        · rw [bind_of_error (require_fail hsig _ g)]
          exact .inl rfl
    · rw [bind_of_error (require_fail hskew _ g)]
      exact .inl rfl

theorem beginSession_begun (call : OpenCall) (record : Option Enrolment) (now : Readings)
    (g : Registrar) :
    EndsIn ((SignedCall.openSession call).Reserves runId sessionTtlS record now g)
      (SignedCall.Leaves now g)
      (beginSession runId sessionTtlS call (record.map Enrolment.toAdmission) now g) := by
  unfold beginSession
  cases hchecks : sessionChecks runId sessionTtlS call (record.map Enrolment.toAdmission) now with
  | error e => exact .inl rfl
  | ok checked =>
    rw [bind_of_ok (show (liftE (.ok checked) : EStateM GatewayFault Registrar _) g = .ok checked g
      from rfl)]
    cases hres : reserveLifecycleSignature "session" call.sigHex now.reserveNow g with
    | error e g' =>
      rw [bind_of_error hres]
      exact .inr (reserve_error hres)
    | ok _ g' =>
      obtain ⟨hfree, hput⟩ := reserve_ok hres
      rw [bind_of_ok hres]
      exact ⟨⟨checked, hchecks⟩, hfree, hput⟩

theorem begin_begun (call : SignedCall) (record : Option Enrolment) (now : Readings) (g : Registrar) :
    EndsIn (call.Reserves runId sessionTtlS record now g) (SignedCall.Leaves now g)
      (call.begin runId sessionTtlS record now g) := by
  cases call with
  | openSession call => exact endsIn_map _ (beginSession_begun runId sessionTtlS call record now g)
  | resume call => exact endsIn_map _ (beginResume_begun runId sessionTtlS call record now g)
  | ending call => exact endsIn_map _ (verifyLifecycle_begun runId sessionTtlS call record now g)

theorem SignedCall.Passes.signed {call : SignedCall} {record : Option Enrolment} {now : Readings}
    (h : call.Passes runId sessionTtlS record now) :
    ∃ admitted message, record = some admitted ∧ call.message runId = some message ∧
      RegistrarDeps.verify admitted.pubkey message call.sigHex = true ∧
      |call.unixMs - now.serverNow| ≤ SKEW_TOLERANCE_MS := by
  cases call with
  | openSession call =>
    obtain ⟨checked, hchecks⟩ := h
    unfold sessionChecks at hchecks
    cases hrecord : (record.map Enrolment.toAdmission).filter fun r => r.revokedTick.isNone with
    | none =>
      rw [hrecord] at hchecks
      cases hchecks
    | some admitted =>
      obtain ⟨hadmitted, _⟩ := Option.filter_eq_some_iff.mp hrecord
      obtain ⟨enrolment, hadmitted', rfl⟩ := Option.map_eq_some_iff.mp hadmitted
      rw [hrecord] at hchecks
      dsimp only at hchecks
      by_cases httl : 1 ≤ call.ttlS ∧ call.ttlS ≤ sessionTtlS
      · rw [if_pos httl] at hchecks
        by_cases hskew : |call.unixMs - now.serverNow| ≤ SKEW_TOLERANCE_MS
        · rw [if_pos hskew] at hchecks
          cases hkey : delegateOf call.delegatePubkey with
          | none =>
            rw [hkey] at hchecks
            cases hchecks
          | some delegate =>
            rw [hkey] at hchecks
            dsimp only at hchecks
            by_cases hlength : delegate.all fun key => key.length = 32
            · rw [if_pos hlength] at hchecks
              cases hpre : canonicalSessionBytes runId call.agentId call.unixMs call.ttlS delegate with
              | none =>
                rw [hpre] at hchecks
                cases hchecks
              | some preimage =>
                rw [hpre] at hchecks
                dsimp only at hchecks
                by_cases hsig : RegistrarDeps.verify enrolment.pubkey preimage call.sigHex = true
                · refine ⟨enrolment, preimage, hadmitted', ?_, hsig, hskew⟩
                  simp [SignedCall.message, hkey, hpre]
                · rw [if_neg hsig] at hchecks
                  cases hchecks
            · rw [if_neg hlength] at hchecks
              cases hchecks
        · rw [if_neg hskew] at hchecks
          cases hchecks
      · rw [if_neg httl] at hchecks
        cases hchecks
  | resume call =>
    obtain ⟨admitted, preimage, hrecord, _, hskew, hpre, hsig, _⟩ := h
    exact ⟨admitted, preimage, hrecord, hpre, hsig, hskew⟩
  | ending call =>
    obtain ⟨admitted, preimage, hrecord, _, hskew, hpre, hsig⟩ := h
    exact ⟨admitted, preimage, hrecord, hpre, hsig, hskew⟩

/-! ## One message, one kind of call -/

/-- The operation whose requests a builder encodes. -/
def Builder.operation : Builder → String
  | .session => "session"
  | .resume => "resume"
  | .revoke => "revoke"
  | .depart => "depart"
  | _ => ""

omit [RegistrarDeps] in
theorem message_request [Rfc8785 Empty] {call : SignedCall} {m : ByteString}
    (h : call.message runId = some m) :
    ∃ r : Request Empty, r.bytes = some m ∧ r.builder.operation = call.operation := by
  cases call with
  | openSession call =>
    obtain ⟨delegate, _, hbytes⟩ := Option.bind_eq_some_iff.mp h
    exact ⟨.session runId call.agentId call.unixMs call.ttlS delegate, hbytes, rfl⟩
  | resume call => exact ⟨.resume runId call.agentId call.unixMs, h, rfl⟩
  | ending call =>
    cases hop : call.operation with
    | depart =>
      refine ⟨.depart runId call.agentId call.unixMs call.reason, ?_, ?_⟩
      · show canonicalDepartBytes runId call.agentId call.unixMs call.reason = some m
        simpa [SignedCall.message, Ending.preimage, hop] using h
      · simp [SignedCall.operation, hop, Ending.name, Request.builder, Builder.operation]
    | revoke =>
      refine ⟨.revoke runId call.agentId call.unixMs call.reason, ?_, ?_⟩
      · show canonicalRevokeBytes runId call.agentId call.unixMs call.reason = some m
        simpa [SignedCall.message, Ending.preimage, hop] using h
      · simp [SignedCall.operation, hop, Ending.name, Request.builder, Builder.operation]

omit [RegistrarDeps] in
theorem same_operation {call call' : SignedCall} {m : ByteString}
    (h : call.message runId = some m) (h' : call'.message runId = some m) :
    call.operation = call'.operation := by
  let _ : Rfc8785 Empty := ⟨fun e => nomatch e⟩
  obtain ⟨r, hr, hop⟩ := message_request runId h
  obtain ⟨r', hr', hop'⟩ := message_request runId h'
  rw [← hop, ← hop', same_builder hr hr']

/-! ## What a step keeps -/

omit [RegistrarDeps] in
theorem Registrar.get?_unexpired (g : Registrar) (now : Int) (digest : String) :
    (g.unexpired now).get? digest
      = (g.lifecycleSignatures.get? digest).filter fun expires => decide (now < expires) :=
  Dict.get?_filterValues _ _ _

namespace LifecycleDesk

/-- The calls that await or have succeeded have signatures of their own, each
reserved until its reservation expires. -/
structure Kept (N : Int) (s : LifecycleDesk) : Prop where
  apart : (s.live.map fun a => a.call.digest).Nodup
  reserved : ∀ a ∈ s.live, a.reservedAt + SIGNATURE_RESERVATION_TTL_MS ≤ N ∨
    s.registrar.lifecycleSignatures.get? a.call.digest
      = some (a.reservedAt + SIGNATURE_RESERVATION_TTL_MS)

/-- A step under which a signature stays single use.  No call comes to the
reservation of a signature in use after that signature's reservation has
expired, and no push fails with an exception that its call does not catch,
unless something was queued. -/
def Prompt (s : LifecycleDesk) : LifecycleStep → Prop
  | .enter call record now => call.Passes runId sessionTtlS record now →
      ∀ a ∈ s.live, a.call.digest = call.digest →
        now.reserveNow < a.reservedAt + SIGNATURE_RESERVATION_TTL_MS
  | .settle _ outcome happened => outcome = .other → happened = true

variable {runId sessionTtlS} {N : Int} {s : LifecycleDesk}

omit [RegistrarDeps] in
theorem Kept.unexpired (h : Kept N s) {now : Int} (hnow : N ≤ now) {a : Awaiting} (ha : a ∈ s.live) :
    a.reservedAt + SIGNATURE_RESERVATION_TTL_MS ≤ now ∨
      (s.registrar.unexpired now).get? a.call.digest
        = some (a.reservedAt + SIGNATURE_RESERVATION_TTL_MS) := by
  by_cases hexpired : a.reservedAt + SIGNATURE_RESERVATION_TTL_MS ≤ now
  · exact .inl hexpired
  · right
    rcases h.reserved a ha with hold | hreserved
    · omega
    · rw [Registrar.get?_unexpired, hreserved]
      simp only [Option.filter_some, decide_eq_true_eq]
      rw [if_pos (by omega)]

theorem Kept.enter (h : Kept N s) {call : SignedCall} {record : Option Enrolment} {now : Readings}
    (hnow : N ≤ now.reserveNow) (hprompt : s.Prompt runId sessionTtlS (.enter call record now)) :
    Kept now.reserveNow (s.step runId sessionTtlS (.enter call record now)) := by
  have hbegun := begin_begun runId sessionTtlS call record now s.registrar
  unfold LifecycleDesk.step
  dsimp only
  cases hres : call.begin runId sessionTtlS record now s.registrar with
  | error e g' =>
    rw [hres] at hbegun
    refine ⟨h.apart, fun a ha => ?_⟩
    show _ ∨ g'.lifecycleSignatures.get? _ = _
    rcases hbegun with hsame | hpurged
    · rw [hsame]
      rcases h.reserved a ha with hold | hreserved
      · exact .inl (hold.trans hnow)
      · exact .inr hreserved
    · rw [hpurged]
      exact h.unexpired hnow ha
  | ok opened g' =>
    rw [hres] at hbegun
    obtain ⟨hpasses, hfree, hput⟩ := hbegun
    -- a signature in use is still reserved, so this one is not in use
    have hnew : ∀ a ∈ s.live, a.call.digest ≠ call.digest := by
      intro a ha hsame
      have hlive := hprompt hpasses a ha hsame
      rcases h.unexpired hnow ha with hold | hreserved
      · omega
      · rw [hsame, hfree] at hreserved
        cases hreserved
    have hperm : (s.awaiting ++ [Awaiting.mk call opened now.reserveNow] ++ s.succeeded).Perm
        (Awaiting.mk call opened now.reserveNow :: s.live) := by
      rw [List.append_assoc]
      exact List.perm_middle
    constructor
    · refine ((hperm.map fun a => a.call.digest).nodup_iff).mpr ?_
      rw [List.map_cons, List.nodup_cons]
      refine ⟨fun hin => ?_, h.apart⟩
      obtain ⟨a, ha, hsame⟩ := List.mem_map.mp hin
      exact hnew a ha hsame
    · intro a ha
      show _ ∨ g'.lifecycleSignatures.get? _ = _
      rw [hput]
      rcases List.mem_cons.mp (hperm.mem_iff.mp ha) with rfl | ha
      · exact .inr (Dict.get?_put_self _ _ _)
      · rw [Dict.get?_put_of_ne (hnew a ha)]
        exact h.unexpired hnow ha

omit [RegistrarDeps] in
theorem live_perm {i : Nat} {a : Awaiting} (h : s.awaiting[i]? = some a) :
    s.live.Perm (a :: (s.awaiting.eraseIdx i ++ s.succeeded)) := by
  obtain ⟨hi, rfl⟩ := List.getElem?_eq_some_iff.mp h
  exact ((List.getElem_cons_eraseIdx_perm hi).symm.append_right s.succeeded)

omit [RegistrarDeps] in
theorem released_get? (a : Awaiting) (g : Registrar) (digest : String) :
    (a.released g).lifecycleSignatures.get? digest
      = if digest = a.call.digest then none else g.lifecycleSignatures.get? digest := by
  obtain ⟨call, opened, reservedAt⟩ := a
  cases call with
  | openSession call =>
    cases opened with
    | none => exact Dict.get?_erase _ _ _
    | some session => exact Dict.get?_erase _ _ _
  | resume call => exact Dict.get?_erase _ _ _
  | ending call => exact Dict.get?_erase _ _ _

omit [RegistrarDeps] in
theorem finished_reservations (a : Awaiting) (g : Registrar) :
    (a.finished g).lifecycleSignatures = g.lifecycleSignatures := by
  unfold Awaiting.finished
  split
  · rfl
  · rfl

theorem Kept.settle (h : Kept N s) (i : Nat) (outcome : PushOutcome) (happened : Bool) :
    Kept N (s.step runId sessionTtlS (.settle i outcome happened)) := by
  unfold LifecycleDesk.step
  dsimp only
  cases hi : s.awaiting[i]? with
  | none => exact h
  | some a =>
    have hperm := live_perm hi
    have hapart := ((hperm.map fun a => a.call.digest).nodup_iff).mp h.apart
    rw [List.map_cons, List.nodup_cons] at hapart
    -- the other calls keep their signatures
    have hother : ∀ b ∈ s.awaiting.eraseIdx i ++ s.succeeded, b.call.digest ≠ a.call.digest := by
      intro b hb hsame
      exact hapart.1 (hsame ▸ List.mem_map_of_mem hb)
    have hleft : ∀ b ∈ s.awaiting.eraseIdx i ++ s.succeeded, b ∈ s.live :=
      fun b hb => hperm.mem_iff.mpr (List.mem_cons_of_mem _ hb)
    have hfailed : Kept N { s with
        registrar := a.released s.registrar, awaiting := s.awaiting.eraseIdx i } := by
      refine ⟨hapart.2, fun b hb => ?_⟩
      show _ ∨ (a.released s.registrar).lifecycleSignatures.get? _ = _
      rw [released_get?, if_neg (hother b hb)]
      exact h.reserved b (hleft b hb)
    cases outcome with
    | ok =>
      have hmoved : (s.awaiting.eraseIdx i ++ (s.succeeded ++ [a])).Perm s.live := by
        rw [← List.append_assoc]
        exact (List.perm_append_singleton _ _).trans hperm.symm
      refine ⟨((hmoved.map fun a => a.call.digest).nodup_iff).mpr h.apart, fun b hb => ?_⟩
      show _ ∨ (a.finished s.registrar).lifecycleSignatures.get? _ = _
      rw [finished_reservations]
      exact h.reserved b (hmoved.mem_iff.mp hb)
    | protocol e => exact hfailed
    | io => exact hfailed
    | other => exact ⟨hapart.2, fun b hb => h.reserved b (hleft b hb)⟩

/-! ## Whole runs -/

/-- What a step reads of the clock, in order. -/
def readings : LifecycleStep → List Int
  | .enter _ _ now => [now.serverNow, now.reserveNow]
  | .settle _ _ _ => []

theorem kept_run {steps : List LifecycleStep} (h : Kept N s)
    (hprompt : Along (LifecycleDesk.step runId sessionTtlS) (LifecycleDesk.Prompt runId sessionTtlS) s steps)
    (hclock : (steps.flatMap readings).Pairwise (· ≤ ·))
    (hlater : ∀ t ∈ steps.flatMap readings, N ≤ t) :
    ∃ N', Kept N' (steps.foldl (LifecycleDesk.step runId sessionTtlS) s) := by
  induction steps generalizing s N with
  | nil => exact ⟨N, h⟩
  | cons e steps ih =>
    obtain ⟨hstep, hrest⟩ := hprompt
    rw [List.flatMap_cons] at hclock hlater
    have hrestclock := (List.pairwise_append.mp hclock).2.1
    cases e with
    | enter call record now =>
      have hnow : N ≤ now.reserveNow := hlater now.reserveNow (by simp [readings])
      refine ih (h.enter hnow hstep) hrest hrestclock fun t ht => ?_
      exact (List.pairwise_append.mp hclock).2.2 now.reserveNow (by simp [readings]) t ht
    | settle i outcome happened =>
      exact ih (h.settle i outcome happened) hrest hrestclock
        fun t ht => hlater t (List.mem_append_right _ ht)

variable (runId sessionTtlS) in
/-- A call that is in use entered, and passed its checks. -/
def Entered (steps : List LifecycleStep) (a : Awaiting) : Prop :=
  ∃ record now, .enter a.call record now ∈ steps ∧ a.call.Passes runId sessionTtlS record now

theorem live_step (e : LifecycleStep) {a : Awaiting}
    (ha : a ∈ (s.step runId sessionTtlS e).live) : a ∈ s.live ∨ Entered runId sessionTtlS [e] a := by
  cases e with
  | enter call record now =>
    have hbegun := begin_begun runId sessionTtlS call record now s.registrar
    unfold LifecycleDesk.step at ha
    dsimp only at ha
    cases hres : call.begin runId sessionTtlS record now s.registrar with
    | error e g' =>
      rw [hres] at ha
      exact .inl ha
    | ok opened g' =>
      rw [hres] at ha hbegun
      simp only [live, List.append_assoc, List.mem_append, List.mem_cons, List.not_mem_nil,
        or_false] at ha
      rcases ha with hin | rfl | hin
      · exact .inl (List.mem_append_left _ hin)
      · exact .inr ⟨record, now, List.mem_singleton_self _, hbegun.1⟩
      · exact .inl (List.mem_append_right _ hin)
  | settle i outcome happened =>
    left
    unfold LifecycleDesk.step at ha
    dsimp only at ha
    cases hi : s.awaiting[i]? with
    | none =>
      rw [hi] at ha
      exact ha
    | some b =>
      rw [hi] at ha
      have hperm := live_perm hi
      have hleft : a ∈ s.awaiting.eraseIdx i ++ s.succeeded → a ∈ s.live :=
        fun hin => hperm.mem_iff.mpr (List.mem_cons_of_mem _ hin)
      cases outcome with
      | ok =>
        simp only [live, List.mem_append, List.mem_singleton] at ha
        rcases ha with hin | hin | rfl
        · exact hleft (List.mem_append_left _ hin)
        · exact hleft (List.mem_append_right _ hin)
        · exact hperm.mem_iff.mpr List.mem_cons_self
      | protocol e => exact hleft ha
      | io => exact hleft ha
      | other => exact hleft ha

theorem entered_run {steps : List LifecycleStep} {a : Awaiting}
    (ha : a ∈ (steps.foldl (LifecycleDesk.step runId sessionTtlS) s).live) :
    a ∈ s.live ∨ Entered runId sessionTtlS steps a := by
  induction steps generalizing s with
  | nil => exact .inl ha
  | cons e steps ih =>
    rcases ih ha with hfirst | ⟨record, now, hin, hpasses⟩
    · rcases live_step e hfirst with hold | ⟨record, now, hin, hpasses⟩
      · exact .inl hold
      · refine .inr ⟨record, now, ?_, hpasses⟩
        rw [List.mem_singleton.mp hin]
        exact List.mem_cons_self
    · exact .inr ⟨record, now, List.mem_cons_of_mem _ hin, hpasses⟩

variable (runId) in
/-- No message is presented with two signatures that verify: nobody but the
holder of the key makes one, and the holder makes one for each message. -/
def OneSignature (steps : List LifecycleStep) : Prop :=
  ∀ call record now call' record' now' admitted admitted' m,
    .enter call record now ∈ steps → .enter call' record' now' ∈ steps →
    record = some admitted → record' = some admitted' →
    call.message runId = some m → call'.message runId = some m →
    RegistrarDeps.verify admitted.pubkey m call.sigHex = true →
    RegistrarDeps.verify admitted'.pubkey m call'.sigHex = true → call.sigHex = call'.sigHex

theorem same_digest {steps : List LifecycleStep} (hone : OneSignature runId steps) {a b : Awaiting}
    (ha : Entered runId sessionTtlS steps a) (hb : Entered runId sessionTtlS steps b) {m : ByteString}
    (hma : a.call.message runId = some m) (hmb : b.call.message runId = some m) :
    a.call.digest = b.call.digest := by
  obtain ⟨record, now, hin, hpasses⟩ := ha
  obtain ⟨record', now', hin', hpasses'⟩ := hb
  obtain ⟨admitted, m₁, hrecord, hm₁, hsig, _⟩ := hpasses.signed
  obtain ⟨admitted', m₂, hrecord', hm₂, hsig', _⟩ := hpasses'.signed
  rw [hma] at hm₁
  rw [hmb] at hm₂
  cases hm₁
  cases hm₂
  have hsame := hone _ _ _ _ _ _ admitted admitted' m hin hin' hrecord hrecord' hma hmb hsig hsig'
  unfold SignedCall.digest
  rw [same_operation runId hma hmb, hsame]

variable (runId sessionTtlS) in
/-- Lifecycle signatures are single use over a run. -/
structure SingleUse (steps : List LifecycleStep) : Prop where
  /-- A signed message leads to one successful call at most. -/
  once : ∀ before after, steps = before ++ after → ∀ m,
    ((run runId sessionTtlS before).succeeded.countP fun a => a.call.message runId = some m) ≤ 1
  /-- A call whose push fails with nothing queued leaves its signature unreserved. -/
  usable : ∀ before i outcome after, steps = before ++ .settle i outcome false :: after →
    outcome ≠ .ok → ∀ a, (run runId sessionTtlS before).awaiting[i]? = some a →
      (run runId sessionTtlS (before ++ [.settle i outcome false])).registrar.lifecycleSignatures.get?
        a.call.digest = none

/-- **Lifecycle signatures are single use**, in every run whose steps are all
prompt. -/
theorem single_use (runId : RunId) (sessionTtlS : Int) (steps : List LifecycleStep)
    (hclock : (steps.flatMap readings).Pairwise (· ≤ ·)) (hone : OneSignature runId steps)
    (hprompt : Along (LifecycleDesk.step runId sessionTtlS) (LifecycleDesk.Prompt runId sessionTtlS) {} steps) :
    SingleUse runId sessionTtlS steps := by
  constructor
  · rintro before after rfl m
    obtain ⟨hbefore, _⟩ := along_append.mp hprompt
    have hclock' : (before.flatMap readings).Pairwise (· ≤ ·) := by
      rw [List.flatMap_append] at hclock
      exact (List.pairwise_append.mp hclock).1
    have hstart : ∃ N, Kept N ({} : LifecycleDesk) ∧ ∀ t ∈ before.flatMap readings, N ≤ t := by
      cases hall : before.flatMap readings with
      | nil => exact ⟨0, ⟨List.nodup_nil, fun a ha => absurd ha List.not_mem_nil⟩, by simp⟩
      | cons t rest =>
        rw [hall] at hclock'
        refine ⟨t, ⟨List.nodup_nil, fun a ha => absurd ha List.not_mem_nil⟩, fun t' ht' => ?_⟩
        rcases List.mem_cons.mp ht' with rfl | ht'
        · exact le_refl _
        · exact (List.pairwise_cons.mp hclock').1 t' ht'
    obtain ⟨N, hkept, hlater⟩ := hstart
    obtain ⟨N', hend⟩ := kept_run hkept hbefore hclock' hlater
    have hone' : OneSignature runId before := by
      intro call record now call' record' now' admitted admitted' m hin hin'
      exact hone call record now call' record' now' admitted admitted' m
        (List.mem_append_left _ hin) (List.mem_append_left _ hin')
    have hentered : ∀ a ∈ (run runId sessionTtlS before).succeeded,
        Entered runId sessionTtlS before a := by
      intro a ha
      rcases entered_run (s := {}) (List.mem_append_right _ ha) with hnone | hin
      · exact absurd hnone List.not_mem_nil
      · exact hin
    have hapart : ((run runId sessionTtlS before).succeeded.map fun a => a.call.digest).Nodup :=
      hend.apart.sublist ((List.sublist_append_right _ _).map _)
    -- two successes with the message would share a signature
    rw [List.countP_eq_length_filter]
    have hfilter := hapart.sublist ((List.filter_sublist
      (p := fun a : Awaiting => decide (a.call.message runId = some m))).map fun a => a.call.digest)
    have hmem : ∀ a ∈ (run runId sessionTtlS before).succeeded.filter
        (fun a => decide (a.call.message runId = some m)),
        a ∈ (run runId sessionTtlS before).succeeded ∧ a.call.message runId = some m := by
      intro a ha
      simpa using List.mem_filter.mp ha
    revert hfilter hmem
    generalize (run runId sessionTtlS before).succeeded.filter
      (fun a => decide (a.call.message runId = some m)) = found
    intro hfilter hmem
    match found with
    | [] => exact Nat.zero_le 1
    | [_] => exact le_refl 1
    | a :: b :: rest =>
      obtain ⟨ha, hma⟩ := hmem a List.mem_cons_self
      obtain ⟨hb, hmb⟩ := hmem b (List.mem_cons_of_mem _ List.mem_cons_self)
      have hsame := same_digest hone' (hentered a ha) (hentered b hb) hma hmb
      rw [List.map_cons, List.nodup_cons, hsame] at hfilter
      exact absurd (List.mem_map_of_mem List.mem_cons_self) hfilter.1
  · rintro before i outcome after rfl hfailed a hi
    obtain ⟨_, hsettle, _⟩ := along_append.mp hprompt
    have hrun : run runId sessionTtlS (before ++ [.settle i outcome false])
        = (run runId sessionTtlS before).step runId sessionTtlS (.settle i outcome false) := by
      unfold run
      rw [List.foldl_append]
      rfl
    rw [hrun]
    unfold LifecycleDesk.step
    dsimp only
    rw [hi]
    cases outcome with
    | ok => exact absurd rfl hfailed
    | protocol e => simp [released_get?]
    | io => simp [released_get?]
    | other => cases hsettle rfl

end LifecycleDesk

end Polis.Gateway

namespace Polis.Gateway.LifecycleDesk

open Lib Lib.Runs
open Polis.Events (RunId)

/-! ## A reservation that is outlived -/

/-- One signature verifies, as one key made it. -/
abbrev oneSignatureDeps : RegistrarDeps where
  verify := fun _ _ sig => sig = "5a"
  tokenHex := fun n bytes => String.ofList (List.replicate (n + bytes) 'a')
  tokenUrlsafe := fun n bytes => String.ofList (List.replicate (n + bytes) 'A')

attribute [local instance] oneSignatureDeps

/-- An agent that may resume. -/
def resumable : Enrolment :=
  { pubkey := "pk", revokedTick := none, naturalisedTick := some 4, resumeGraceUntilTick := some 20 }

/-- A request to resume, dated as late as the clock tolerates at its first use. -/
def lateResume : SignedCall :=
  .resume ⟨String.ofList ("ag_".toList ++ List.replicate 64 '0'), "5a", 300000⟩

/-- Presented at the first and at the last moment the clock tolerates it; the
second time, a millisecond passes before the reservation. -/
def outlived : List LifecycleStep := [
  .enter lateResume (some resumable) ⟨0, 0, 0, 10⟩, .settle 0 .ok true,
  .enter lateResume (some resumable) ⟨600000, 600001, 600001, 10⟩, .settle 0 .ok true]

/-- The same, without that millisecond. -/
def refusedLater : List LifecycleStep := [
  .enter lateResume (some resumable) ⟨0, 0, 0, 10⟩, .settle 0 .ok true,
  .enter lateResume (some resumable) ⟨600000, 600000, 600000, 10⟩]

theorem oneSignature_resumes {steps : List LifecycleStep} : OneSignature 0 steps := by
  intro call record now call' record' now' admitted admitted' m _ _ _ _ _ _ hsig hsig'
  have hone : call.sigHex = "5a" := of_decide_eq_true hsig
  have hone' : call'.sigHex = "5a" := of_decide_eq_true hsig'
  rw [hone, hone']

theorem refused_later : SingleUse 0 3600 refusedLater := by
  refine single_use 0 3600 refusedLater (by decide) oneSignature_resumes ⟨?_, ?_, ?_, trivial⟩
  · intro _ a ha
    cases ha
  · exact fun h => by cases h
  · intro _ a ha _
    have hlive : (run 0 3600 (refusedLater.take 2)).live.map Awaiting.reservedAt = [0] := by
      decide +kernel
    have hzero : a.reservedAt ∈ (run 0 3600 (refusedLater.take 2)).live.map Awaiting.reservedAt :=
      List.mem_map_of_mem ha
    rw [hlive, List.mem_singleton] at hzero
    rw [hzero]
    decide

theorem reservation_outlived :
    ¬∀ (_ : RegistrarDeps) (runId : RunId) (sessionTtlS : Int) (steps : List LifecycleStep),
      (steps.flatMap readings).Pairwise (· ≤ ·) → OneSignature runId steps →
        SingleUse runId sessionTtlS steps := by
  intro h
  have hsingle := h oneSignatureDeps 0 3600 outlived (by decide) oneSignature_resumes
  obtain ⟨m, hm⟩ : ∃ m, lateResume.message 0 = some m :=
    Option.isSome_iff_exists.mp (by decide +kernel)
  have honce := hsingle.once outlived [] (List.append_nil _).symm m
  have htwice : (run 0 3600 outlived).succeeded.map Awaiting.call = [lateResume, lateResume] := by
    decide +kernel
  have hcount : ((run 0 3600 outlived).succeeded.countP fun a => a.call.message 0 = some m) = 2 := by
    let asks : SignedCall → Bool := fun call => decide (call.message 0 = some m)
    have hmap := List.countP_map (p := asks) (f := Awaiting.call)
      (l := (run 0 3600 outlived).succeeded)
    have hasks : asks lateResume = true := decide_eq_true hm
    rw [htwice, List.countP_cons_of_pos hasks, List.countP_cons_of_pos hasks, List.countP_nil] at hmap
    exact hmap.symm
  omega

end Polis.Gateway.LifecycleDesk
