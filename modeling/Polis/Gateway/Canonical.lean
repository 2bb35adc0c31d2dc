/-
  Polis.Gateway.Canonical — the byte strings external requests are signed
  over (`gateway/sdk/canonical.py`).

  Every builder starts with its own domain and writes fixed-width or
  length-prefixed fields, so a reader can take the string apart in one way
  only.  Free text and extras enter through SHA-256.  The RFC 8785 encoder
  is a parameter; `none` is a builder that raises.

  Main results:
    * `sealed_by_domain` — a signed byte string starts with the domain of
      its builder.
    * `signed_preimages_injective` — equal byte strings come from the same
      builder and equal arguments.
-/
import Polis.Events.Canon

namespace Polis.Gateway

open Lib.Bytes
open Polis.Events (RunId)

/-! ## Parameters -/

/-- `rfc8785.dumps`, or an error for a value that is not canonical JSON. -/
class Rfc8785 (J : Type) where
  dumps : J → Option ByteString

/-- `hashlib.sha256(...).digest()`. -/
abbrev sha256 (b : ByteString) : ByteString := Lib.Sha256.digest b

/-- No SHA-256 collision between two inputs. -/
def NoCollision (a b : ByteString) : Prop := sha256 a = sha256 b → a = b

/-! ## Domains -/

/-- A domain separator: protocol, request and version, and a zero byte. -/
def domain (request : String) : ByteString := utf8 ("POLIS/" ++ request ++ "/1") ++ [0]

def DOMAIN_ACT : ByteString := domain "ACT"
def DOMAIN_REG : ByteString := domain "REG"
def DOMAIN_SES : ByteString := domain "SES"
def DOMAIN_RES : ByteString := domain "RES"
def DOMAIN_REV : ByteString := domain "REV"
def DOMAIN_DEP : ByteString := domain "DEP"
def DOMAIN_MEM : ByteString := domain "MEM"

/-- The builders of signed byte strings. -/
inductive Builder where
  | action | registration | session | resume | revoke | depart | memory
  deriving Repr, DecidableEq

/-- The domain a builder writes first. -/
def Builder.domain : Builder → ByteString
  | .action => DOMAIN_ACT
  | .registration => DOMAIN_REG
  | .session => DOMAIN_SES
  | .resume => DOMAIN_RES
  | .revoke => DOMAIN_REV
  | .depart => DOMAIN_DEP
  | .memory => DOMAIN_MEM

theorem Builder.domain_length (x : Builder) : x.domain.length = 12 := by
  cases x <;> decide +kernel

theorem Builder.domain_inj {x y : Builder} (h : x.domain = y.domain) : x = y := by
  -- six of the seven columns of each row end in two different domains
  cases x <;> cases y <;> first | rfl | exact absurd h (by decide +kernel)

/-! ## Fields -/

/-- `_AGENT_ID.fullmatch`: `ag_` and 64 lowercase hexadecimal digits. -/
def isAgentId (s : String) : Bool :=
  s.toList.length = 67 && s.toList.take 3 = ['a', 'g', '_'] &&
    (s.toList.drop 3).all fun c => ('0' ≤ c && c ≤ '9') || ('a' ≤ c && c ≤ 'f')

/-- `_agent_bytes`. -/
def agentBytes (agentId : String) : Option ByteString :=
  if isAgentId agentId then ascii agentId else none

theorem agentBytes_length {s : String} {b : ByteString} (h : agentBytes s = some b) :
    b.length = 67 := by
  unfold agentBytes at h
  split at h
  · rename_i hs
    simp only [isAgentId, Bool.and_eq_true, decide_eq_true_eq] at hs
    rw [ascii_length h]
    exact hs.1.1
  · cases h

theorem agentBytes_inj {s t : String} {b : ByteString} (hs : agentBytes s = some b)
    (ht : agentBytes t = some b) : s = t := by
  unfold agentBytes at hs ht
  split at hs
  · split at ht
    · exact ascii_inj hs ht
    · cases ht
  · cases hs

/-- What `_text_hash` hashes: a presence byte, and the text if present. -/
def textPreimage : Option String → ByteString
  | none => [0]
  | some s => 1 :: utf8 s

/-- `_text_hash`. -/
def textHash (s : Option String) : ByteString := sha256 (textPreimage s)

theorem textPreimage_inj {s t : Option String} (h : textPreimage s = textPreimage t) : s = t := by
  cases s with
  | none =>
    cases t with
    | none => rfl
    | some t => simp [textPreimage] at h
  | some s =>
    cases t with
    | none => simp [textPreimage] at h
    | some t =>
      have hst : utf8 s = utf8 t := (List.cons.inj h).2
      rw [utf8_inj hst]

/-- `_uint(value, 8, ...)` and the other fixed widths. -/
abbrev uint (value : Int) (width : Nat) : Option ByteString := toBytes width value

/-- The presence byte of a delegate key, and the key if present. -/
def delegateBytes : Option ByteString → ByteString
  | none => [0]
  | some key => 1 :: key

variable {J : Type}

/-! ## The builders -/

/-- `SignableAction`. -/
structure SignableAction (J : Type) where
  runId : RunId
  tick : Int
  actionId : RunId
  nonce : Int
  actorId : String
  type : String
  params : J
  reasoning : Option String := none
  speech : Option String := none
  extras : J

variable [Rfc8785 J]

/-- `canonical_action_bytes`. -/
def canonicalActionBytes (a : SignableAction J) : Option ByteString := do
  let typeBytes ← ascii a.type
  if typeBytes = [] then none
  else do
    let params ← Rfc8785.dumps a.params
    let extras ← Rfc8785.dumps a.extras
    let tick ← uint a.tick 8
    let nonce ← uint a.nonce 8
    let actor ← agentBytes a.actorId
    let type ← lengthPrefixed 2 typeBytes
    let params ← lengthPrefixed 4 params
    some (DOMAIN_ACT ++ RunId.bytes a.runId ++ tick ++ RunId.bytes a.actionId ++ nonce ++ actor
      ++ type ++ params ++ textHash a.reasoning ++ textHash a.speech ++ sha256 extras)

/-- `canonical_registration_bytes`. -/
def canonicalRegistrationBytes (challenge : ByteString) (declaration : J) : Option ByteString :=
  if challenge.length ≠ 32 then none
  else do
    let body ← Rfc8785.dumps declaration
    let body ← lengthPrefixed 4 body
    some (DOMAIN_REG ++ challenge ++ body)

/-- `canonical_session_bytes`. -/
def canonicalSessionBytes (runId : RunId) (agentId : String) (unixMs ttlS : Int)
    (delegatePubkey : Option ByteString) : Option ByteString :=
  if delegatePubkey.any fun key => key.length ≠ 32 then none
  else do
    let agent ← agentBytes agentId
    let unixMs ← uint unixMs 8
    let ttl ← uint ttlS 4
    some (DOMAIN_SES ++ RunId.bytes runId ++ agent ++ unixMs ++ ttl ++ delegateBytes delegatePubkey)

/-- `canonical_resume_bytes`. -/
def canonicalResumeBytes (runId : RunId) (agentId : String) (unixMs : Int) :
    Option ByteString := do
  let agent ← agentBytes agentId
  let unixMs ← uint unixMs 8
  some (DOMAIN_RES ++ RunId.bytes runId ++ agent ++ unixMs)

/-- `_canonical_lifecycle_bytes`. -/
def canonicalLifecycleBytes (domain : ByteString) (runId : RunId) (agentId : String)
    (unixMs : Int) (reason : String) : Option ByteString := do
  let agent ← agentBytes agentId
  let unixMs ← uint unixMs 8
  let reason ← lengthPrefixed 4 (utf8 reason)
  some (domain ++ RunId.bytes runId ++ agent ++ unixMs ++ reason)

/-- `canonical_revoke_bytes`. -/
def canonicalRevokeBytes := canonicalLifecycleBytes DOMAIN_REV

/-- `canonical_depart_bytes`. -/
def canonicalDepartBytes := canonicalLifecycleBytes DOMAIN_DEP

/-- `canonical_memory_bytes`. -/
def canonicalMemoryBytes (runId : RunId) (agentId : String) (tick nonce : Int) (body : J) :
    Option ByteString := do
  let encoded ← Rfc8785.dumps body
  let agent ← agentBytes agentId
  let tick ← uint tick 8
  let nonce ← uint nonce 8
  let body ← lengthPrefixed 4 encoded
  some (DOMAIN_MEM ++ RunId.bytes runId ++ agent ++ tick ++ nonce ++ body)

/-! ## Requests -/

/-- A call of one of the builders. -/
inductive Request (J : Type) where
  | action (a : SignableAction J)
  | registration (challenge : ByteString) (declaration : J)
  | session (runId : RunId) (agentId : String) (unixMs ttlS : Int)
      (delegatePubkey : Option ByteString)
  | resume (runId : RunId) (agentId : String) (unixMs : Int)
  | revoke (runId : RunId) (agentId : String) (unixMs : Int) (reason : String)
  | depart (runId : RunId) (agentId : String) (unixMs : Int) (reason : String)
  | memory (runId : RunId) (agentId : String) (tick nonce : Int) (body : J)

namespace Request

/-- The bytes a request is signed over. -/
def bytes : Request J → Option ByteString
  | .action a => canonicalActionBytes a
  | .registration challenge declaration => canonicalRegistrationBytes challenge declaration
  | .session runId agentId unixMs ttlS key =>
    canonicalSessionBytes runId agentId unixMs ttlS key
  | .resume runId agentId unixMs => canonicalResumeBytes runId agentId unixMs
  | .revoke runId agentId unixMs reason => canonicalRevokeBytes runId agentId unixMs reason
  | .depart runId agentId unixMs reason => canonicalDepartBytes runId agentId unixMs reason
  | .memory runId agentId tick nonce body => canonicalMemoryBytes runId agentId tick nonce body

omit [Rfc8785 J] in
/-- The builder a request calls. -/
def builder : Request J → Builder
  | .action _ => .action
  | .registration _ _ => .registration
  | .session _ _ _ _ _ => .session
  | .resume _ _ _ => .resume
  | .revoke _ _ _ _ => .revoke
  | .depart _ _ _ _ => .depart
  | .memory _ _ _ _ _ => .memory

/-- The texts a request puts through SHA-256. -/
def hashed : Request J → List ByteString
  | .action a => [textPreimage a.reasoning, textPreimage a.speech] ++ (Rfc8785.dumps a.extras).toList
  | _ => []

omit [Rfc8785 J] in
/-- The same builder with equal arguments, JSON compared by `same`. -/
def Same (same : J → J → Prop) : Request J → Request J → Prop
  | .action a, .action b => a.runId = b.runId ∧ a.tick = b.tick ∧ a.actionId = b.actionId ∧
      a.nonce = b.nonce ∧ a.actorId = b.actorId ∧ a.type = b.type ∧ same a.params b.params ∧
      a.reasoning = b.reasoning ∧ a.speech = b.speech ∧ same a.extras b.extras
  | .registration c d, .registration c' d' => c = c' ∧ same d d'
  | .session r a u t k, .session r' a' u' t' k' => r = r' ∧ a = a' ∧ u = u' ∧ t = t' ∧ k = k'
  | .resume r a u, .resume r' a' u' => r = r' ∧ a = a' ∧ u = u'
  | .revoke r a u x, .revoke r' a' u' x' => r = r' ∧ a = a' ∧ u = u' ∧ x = x'
  | .depart r a u x, .depart r' a' u' x' => r = r' ∧ a = a' ∧ u = u' ∧ x = x'
  | .memory r a t n b, .memory r' a' t' n' b' => r = r' ∧ a = a' ∧ t = t' ∧ n = n' ∧ same b b'
  | _, _ => False

end Request

/-! ## Every string shows its builder -/

theorem canonicalActionBytes_eq_some {a : SignableAction J} {b : ByteString} :
    canonicalActionBytes a = some b ↔ ∃ typeBytes params extras tick nonce actor type body,
      ascii a.type = some typeBytes ∧ typeBytes ≠ [] ∧ Rfc8785.dumps a.params = some params ∧
      Rfc8785.dumps a.extras = some extras ∧ uint a.tick 8 = some tick ∧
      uint a.nonce 8 = some nonce ∧ agentBytes a.actorId = some actor ∧
      lengthPrefixed 2 typeBytes = some type ∧ lengthPrefixed 4 params = some body ∧
      DOMAIN_ACT ++ (RunId.bytes a.runId ++ (tick ++ (RunId.bytes a.actionId ++ (nonce ++ (actor
        ++ (type ++ (body ++ (textHash a.reasoning ++ (textHash a.speech
          ++ sha256 extras))))))))) = b := by
  unfold canonicalActionBytes
  simp only [Option.bind_eq_bind, Option.bind_eq_some_iff, Option.ite_none_left_eq_some,
    Option.some.injEq, List.append_assoc]
  constructor
  · rintro ⟨ty, h₁, hne, p, h₂, x, h₃, t, h₄, n, h₅, ac, h₆, lt, h₇, lp, h₈, h⟩
    exact ⟨ty, p, x, t, n, ac, lt, lp, h₁, hne, h₂, h₃, h₄, h₅, h₆, h₇, h₈, h⟩
  · rintro ⟨ty, p, x, t, n, ac, lt, lp, h₁, hne, h₂, h₃, h₄, h₅, h₆, h₇, h₈, h⟩
    exact ⟨ty, h₁, hne, p, h₂, x, h₃, t, h₄, n, h₅, ac, h₆, lt, h₇, lp, h₈, h⟩

theorem canonicalRegistrationBytes_eq_some {c : ByteString} {d : J} {b : ByteString} :
    canonicalRegistrationBytes c d = some b ↔ ∃ enc body, c.length = 32 ∧
      Rfc8785.dumps d = some enc ∧ lengthPrefixed 4 enc = some body ∧
      DOMAIN_REG ++ (c ++ body) = b := by
  unfold canonicalRegistrationBytes
  simp only [Option.bind_eq_bind, Option.bind_eq_some_iff, Option.ite_none_left_eq_some,
    Option.some.injEq, List.append_assoc, not_not]
  constructor
  · rintro ⟨hlen, enc, h₁, body, h₂, h⟩
    exact ⟨enc, body, hlen, h₁, h₂, h⟩
  · rintro ⟨enc, body, hlen, h₁, h₂, h⟩
    exact ⟨hlen, enc, h₁, body, h₂, h⟩

omit [Rfc8785 J] in
theorem canonicalSessionBytes_eq_some {r : RunId} {a : String} {u t : Int}
    {k : Option ByteString} {b : ByteString} :
    canonicalSessionBytes r a u t k = some b ↔ ∃ agent ms ttl,
      ¬(k.any fun key => key.length ≠ 32) ∧ agentBytes a = some agent ∧ uint u 8 = some ms ∧
      uint t 4 = some ttl ∧
      DOMAIN_SES ++ (RunId.bytes r ++ (agent ++ (ms ++ (ttl ++ delegateBytes k)))) = b := by
  unfold canonicalSessionBytes
  simp only [Option.bind_eq_bind, Option.bind_eq_some_iff, Option.ite_none_left_eq_some,
    Option.some.injEq, List.append_assoc]
  constructor
  · rintro ⟨hk, agent, h₁, ms, h₂, ttl, h₃, h⟩
    exact ⟨agent, ms, ttl, hk, h₁, h₂, h₃, h⟩
  · rintro ⟨agent, ms, ttl, hk, h₁, h₂, h₃, h⟩
    exact ⟨hk, agent, h₁, ms, h₂, ttl, h₃, h⟩

omit [Rfc8785 J] in
theorem canonicalResumeBytes_eq_some {r : RunId} {a : String} {u : Int} {b : ByteString} :
    canonicalResumeBytes r a u = some b ↔ ∃ agent ms, agentBytes a = some agent ∧
      uint u 8 = some ms ∧ DOMAIN_RES ++ (RunId.bytes r ++ (agent ++ ms)) = b := by
  unfold canonicalResumeBytes
  simp only [Option.bind_eq_bind, Option.bind_eq_some_iff, Option.some.injEq, List.append_assoc]
  constructor
  · rintro ⟨agent, h₁, ms, h₂, h⟩
    exact ⟨agent, ms, h₁, h₂, h⟩
  · rintro ⟨agent, ms, h₁, h₂, h⟩
    exact ⟨agent, h₁, ms, h₂, h⟩

omit [Rfc8785 J] in
theorem canonicalLifecycleBytes_eq_some {dom : ByteString} {r : RunId} {a : String} {u : Int}
    {x : String} {b : ByteString} :
    canonicalLifecycleBytes dom r a u x = some b ↔ ∃ agent ms reason,
      agentBytes a = some agent ∧ uint u 8 = some ms ∧
      lengthPrefixed 4 (utf8 x) = some reason ∧
      dom ++ (RunId.bytes r ++ (agent ++ (ms ++ reason))) = b := by
  unfold canonicalLifecycleBytes
  simp only [Option.bind_eq_bind, Option.bind_eq_some_iff, Option.some.injEq, List.append_assoc]
  constructor
  · rintro ⟨agent, h₁, ms, h₂, reason, h₃, h⟩
    exact ⟨agent, ms, reason, h₁, h₂, h₃, h⟩
  · rintro ⟨agent, ms, reason, h₁, h₂, h₃, h⟩
    exact ⟨agent, h₁, ms, h₂, reason, h₃, h⟩

theorem canonicalMemoryBytes_eq_some {r : RunId} {a : String} {t n : Int} {j : J}
    {b : ByteString} :
    canonicalMemoryBytes r a t n j = some b ↔ ∃ enc agent tick nonce body,
      Rfc8785.dumps j = some enc ∧ agentBytes a = some agent ∧ uint t 8 = some tick ∧
      uint n 8 = some nonce ∧ lengthPrefixed 4 enc = some body ∧
      DOMAIN_MEM ++ (RunId.bytes r ++ (agent ++ (tick ++ (nonce ++ body)))) = b := by
  unfold canonicalMemoryBytes
  simp only [Option.bind_eq_bind, Option.bind_eq_some_iff, Option.some.injEq, List.append_assoc]
  constructor
  · rintro ⟨enc, h₁, agent, h₂, tick, h₃, nonce, h₄, body, h₅, h⟩
    exact ⟨enc, agent, tick, nonce, body, h₁, h₂, h₃, h₄, h₅, h⟩
  · rintro ⟨enc, agent, tick, nonce, body, h₁, h₂, h₃, h₄, h₅, h⟩
    exact ⟨enc, h₁, agent, h₂, tick, h₃, nonce, h₄, body, h₅, h⟩

theorem sealed_by_domain {r : Request J} {b : ByteString} (h : r.bytes = some b) :
    ∃ rest, b = r.builder.domain ++ rest := by
  cases r with
  | action a =>
    obtain ⟨_, _, _, _, _, _, _, _, -, -, -, -, -, -, -, -, -, rfl⟩ :=
      canonicalActionBytes_eq_some.mp h
    exact ⟨_, rfl⟩
  | registration c d =>
    obtain ⟨_, _, -, -, -, rfl⟩ := canonicalRegistrationBytes_eq_some.mp h
    exact ⟨_, rfl⟩
  | session r a u t k =>
    obtain ⟨_, _, _, -, -, -, -, rfl⟩ := canonicalSessionBytes_eq_some.mp h
    exact ⟨_, rfl⟩
  | resume r a u =>
    obtain ⟨_, _, -, -, rfl⟩ := canonicalResumeBytes_eq_some.mp h
    exact ⟨_, rfl⟩
  | revoke r a u x =>
    obtain ⟨_, _, _, -, -, -, rfl⟩ := canonicalLifecycleBytes_eq_some.mp h
    exact ⟨_, rfl⟩
  | depart r a u x =>
    obtain ⟨_, _, _, -, -, -, rfl⟩ := canonicalLifecycleBytes_eq_some.mp h
    exact ⟨_, rfl⟩
  | memory r a t n j =>
    obtain ⟨_, _, _, _, _, -, -, -, -, -, rfl⟩ := canonicalMemoryBytes_eq_some.mp h
    exact ⟨_, rfl⟩

theorem same_builder {r r' : Request J} {b : ByteString} (h : r.bytes = some b)
    (h' : r'.bytes = some b) : r.builder = r'.builder := by
  obtain ⟨rest, rfl⟩ := sealed_by_domain h
  obtain ⟨rest', heq⟩ := sealed_by_domain h'
  apply Builder.domain_inj
  exact (List.append_inj heq (by rw [Builder.domain_length, Builder.domain_length])).1

/-! ## Reading fields off the front -/

theorem front_inj {p q r s : ByteString} (n : Nat) (hp : p.length = n) (hq : q.length = n)
    (h : p ++ r = q ++ s) : p = q ∧ r = s := List.append_inj h (hp.trans hq.symm)

theorem runId_front_inj {r s : RunId} {x y : ByteString}
    (h : RunId.bytes r ++ x = RunId.bytes s ++ y) : r = s ∧ x = y := by
  obtain ⟨hb, hxy⟩ := front_inj 16 (by simp [RunId.bytes]) (by simp [RunId.bytes]) h
  exact ⟨RunId.bytes_inj hb, hxy⟩

theorem uint_front_inj {w : Nat} {m n : Int} {p q x y : ByteString} (hp : uint m w = some p)
    (hq : uint n w = some q) (h : p ++ x = q ++ y) : m = n ∧ x = y := by
  obtain ⟨rfl, hxy⟩ := front_inj w (toBytes_length hp) (toBytes_length hq) h
  exact ⟨toBytes_inj hp hq, hxy⟩

theorem agent_front_inj {a b : String} {p q x y : ByteString} (hp : agentBytes a = some p)
    (hq : agentBytes b = some q) (h : p ++ x = q ++ y) : a = b ∧ x = y := by
  obtain ⟨rfl, hxy⟩ := front_inj 67 (agentBytes_length hp) (agentBytes_length hq) h
  exact ⟨agentBytes_inj hp hq, hxy⟩

theorem sha_front_inj {a b x y : ByteString} (hc : NoCollision a b)
    (h : sha256 a ++ x = sha256 b ++ y) : a = b ∧ x = y := by
  obtain ⟨hd, hxy⟩ := front_inj 32 (Lib.Sha256.digest_length a) (Lib.Sha256.digest_length b) h
  exact ⟨hc hd, hxy⟩

theorem delegateBytes_inj {k l : Option ByteString} (h : delegateBytes k = delegateBytes l) :
    k = l := by
  cases k with
  | none =>
    cases l with
    | none => rfl
    | some l => simp [delegateBytes] at h
  | some k =>
    cases l with
    | none => simp [delegateBytes] at h
    | some l => rw [(List.cons.inj h).2]

/-! ## One builder, equal bytes -/

section Builders

variable {same : J → J → Prop}

/-- The encoder is injective up to `same`. -/
def EncodesUpTo (same : J → J → Prop) : Prop :=
  ∀ j k b, Rfc8785.dumps j = some b → Rfc8785.dumps k = some b → same j k

variable {b : ByteString}

theorem action_inj (hjson : EncodesUpTo same) {x y : SignableAction J}
    (hx : canonicalActionBytes x = some b) (hy : canonicalActionBytes y = some b)
    (hsha : ∀ u ∈ (Request.action x).hashed, ∀ v ∈ (Request.action y).hashed, NoCollision u v) :
    (Request.action x).Same same (.action y) := by
  obtain ⟨ty, p, e, t, n, ac, lt, lp, hty, -, hp, he, ht, hn, hac, hlt, hlp, rfl⟩ :=
    canonicalActionBytes_eq_some.mp hx
  obtain ⟨ty', p', e', t', n', ac', lt', lp', hty', -, hp', he', ht', hn', hac', hlt', hlp', h⟩ :=
    canonicalActionBytes_eq_some.mp hy
  replace h := List.append_cancel_left h
  obtain ⟨erun, h⟩ := runId_front_inj h
  obtain ⟨etick, h⟩ := uint_front_inj ht' ht h
  obtain ⟨eid, h⟩ := runId_front_inj h
  obtain ⟨enonce, h⟩ := uint_front_inj hn' hn h
  obtain ⟨eactor, h⟩ := agent_front_inj hac' hac h
  obtain ⟨etype, h⟩ := lengthPrefixed_append_inj hlt' hlt h
  obtain ⟨eparams, h⟩ := lengthPrefixed_append_inj hlp' hlp h
  subst etype eparams
  -- the three digests, in order: reasoning, speech, extras
  have hreason : NoCollision (textPreimage y.reasoning) (textPreimage x.reasoning) := fun heq =>
    (hsha _ (by simp [Request.hashed]) _ (by simp [Request.hashed]) heq.symm).symm
  have hspeech : NoCollision (textPreimage y.speech) (textPreimage x.speech) := fun heq =>
    (hsha _ (by simp [Request.hashed]) _ (by simp [Request.hashed]) heq.symm).symm
  have hextras : NoCollision e' e := fun heq =>
    (hsha _ (by simp [Request.hashed, he]) _ (by simp [Request.hashed, he']) heq.symm).symm
  obtain ⟨er, h⟩ := sha_front_inj hreason h
  obtain ⟨es, h⟩ := sha_front_inj hspeech h
  have ee : e' = e := hextras h
  subst ee
  exact ⟨erun.symm, etick.symm, eid.symm, enonce.symm, eactor.symm, ascii_inj hty hty',
    hjson _ _ _ hp hp', (textPreimage_inj er).symm, (textPreimage_inj es).symm,
    hjson _ _ _ he he'⟩

theorem registration_inj (hjson : EncodesUpTo same) {c c' : ByteString} {d d' : J}
    (hx : canonicalRegistrationBytes c d = some b)
    (hy : canonicalRegistrationBytes c' d' = some b) : c = c' ∧ same d d' := by
  obtain ⟨enc, body, hlen, henc, hbody, rfl⟩ := canonicalRegistrationBytes_eq_some.mp hx
  obtain ⟨enc', body', hlen', henc', hbody', h⟩ := canonicalRegistrationBytes_eq_some.mp hy
  replace h := List.append_cancel_left h
  obtain ⟨ec, h⟩ := front_inj 32 hlen' hlen h
  have h : body' ++ [] = body ++ [] := by rw [h]
  obtain ⟨eenc, -⟩ := lengthPrefixed_append_inj hbody' hbody h
  subst eenc
  exact ⟨ec.symm, hjson _ _ _ henc henc'⟩

omit [Rfc8785 J] in
theorem session_inj {r r' : RunId} {a a' : String} {u u' t t' : Int} {k k' : Option ByteString}
    (hx : canonicalSessionBytes r a u t k = some b)
    (hy : canonicalSessionBytes r' a' u' t' k' = some b) :
    r = r' ∧ a = a' ∧ u = u' ∧ t = t' ∧ k = k' := by
  obtain ⟨ag, ms, ttl, -, hag, hms, httl, rfl⟩ := canonicalSessionBytes_eq_some.mp hx
  obtain ⟨ag', ms', ttl', -, hag', hms', httl', h⟩ := canonicalSessionBytes_eq_some.mp hy
  replace h := List.append_cancel_left h
  obtain ⟨erun, h⟩ := runId_front_inj h
  obtain ⟨eagent, h⟩ := agent_front_inj hag' hag h
  obtain ⟨ems, h⟩ := uint_front_inj hms' hms h
  obtain ⟨ettl, h⟩ := uint_front_inj httl' httl h
  exact ⟨erun.symm, eagent.symm, ems.symm, ettl.symm, (delegateBytes_inj h).symm⟩

omit [Rfc8785 J] in
theorem resume_inj {r r' : RunId} {a a' : String} {u u' : Int}
    (hx : canonicalResumeBytes r a u = some b) (hy : canonicalResumeBytes r' a' u' = some b) :
    r = r' ∧ a = a' ∧ u = u' := by
  obtain ⟨ag, ms, hag, hms, rfl⟩ := canonicalResumeBytes_eq_some.mp hx
  obtain ⟨ag', ms', hag', hms', h⟩ := canonicalResumeBytes_eq_some.mp hy
  replace h := List.append_cancel_left h
  obtain ⟨erun, h⟩ := runId_front_inj h
  obtain ⟨eagent, h⟩ := agent_front_inj hag' hag h
  subst h
  exact ⟨erun.symm, eagent.symm, toBytes_inj hms hms'⟩

omit [Rfc8785 J] in
theorem lifecycle_inj {dom : ByteString} {r r' : RunId} {a a' : String} {u u' : Int}
    {x x' : String} (hx : canonicalLifecycleBytes dom r a u x = some b)
    (hy : canonicalLifecycleBytes dom r' a' u' x' = some b) :
    r = r' ∧ a = a' ∧ u = u' ∧ x = x' := by
  obtain ⟨ag, ms, re, hag, hms, hre, rfl⟩ := canonicalLifecycleBytes_eq_some.mp hx
  obtain ⟨ag', ms', re', hag', hms', hre', h⟩ := canonicalLifecycleBytes_eq_some.mp hy
  replace h := List.append_cancel_left h
  obtain ⟨erun, h⟩ := runId_front_inj h
  obtain ⟨eagent, h⟩ := agent_front_inj hag' hag h
  obtain ⟨ems, h⟩ := uint_front_inj hms' hms h
  have h : re' ++ [] = re ++ [] := by rw [h]
  obtain ⟨etext, -⟩ := lengthPrefixed_append_inj hre' hre h
  exact ⟨erun.symm, eagent.symm, ems.symm, (utf8_inj etext).symm⟩

theorem memory_inj (hjson : EncodesUpTo same) {r r' : RunId} {a a' : String} {t t' n n' : Int}
    {j j' : J} (hx : canonicalMemoryBytes r a t n j = some b)
    (hy : canonicalMemoryBytes r' a' t' n' j' = some b) :
    r = r' ∧ a = a' ∧ t = t' ∧ n = n' ∧ same j j' := by
  obtain ⟨enc, ag, tk, nn, body, henc, hag, htk, hnn, hbody, rfl⟩ :=
    canonicalMemoryBytes_eq_some.mp hx
  obtain ⟨enc', ag', tk', nn', body', henc', hag', htk', hnn', hbody', h⟩ :=
    canonicalMemoryBytes_eq_some.mp hy
  replace h := List.append_cancel_left h
  obtain ⟨erun, h⟩ := runId_front_inj h
  obtain ⟨eagent, h⟩ := agent_front_inj hag' hag h
  obtain ⟨etick, h⟩ := uint_front_inj htk' htk h
  obtain ⟨enonce, h⟩ := uint_front_inj hnn' hnn h
  have h : body' ++ [] = body ++ [] := by rw [h]
  obtain ⟨rfl, -⟩ := lengthPrefixed_append_inj hbody' hbody h
  exact ⟨erun.symm, eagent.symm, etick.symm, enonce.symm, hjson _ _ _ henc henc'⟩

end Builders

/-! ## The main result -/

/-- **Signed preimages are injective and domain separated.**  Two requests the
builders accept have equal byte strings only if they call one builder with
equal arguments, provided the encoder is injective up to `same` and SHA-256
does not collide on their texts. -/
theorem signed_preimages_injective {same : J → J → Prop} (hjson : EncodesUpTo same)
    {r r' : Request J} {b : ByteString} (h : r.bytes = some b) (h' : r'.bytes = some b)
    (hsha : ∀ u ∈ r.hashed, ∀ v ∈ r'.hashed, NoCollision u v) : r.Same same r' := by
  have hbuilder := same_builder h h'
  cases r with
  | action a =>
    cases r' with
    | action a' => exact action_inj hjson h h' hsha
    | _ => cases hbuilder
  | registration c d =>
    cases r' with
    | registration c' d' => exact registration_inj hjson h h'
    | _ => cases hbuilder
  | session r a u t k =>
    cases r' with
    | session r' a' u' t' k' => exact session_inj h h'
    | _ => cases hbuilder
  | resume r a u =>
    cases r' with
    | resume r' a' u' => exact resume_inj h h'
    | _ => cases hbuilder
  | revoke r a u x =>
    cases r' with
    | revoke r' a' u' x' => exact lifecycle_inj h h'
    | _ => cases hbuilder
  | depart r a u x =>
    cases r' with
    | depart r' a' u' x' => exact lifecycle_inj h h'
    | _ => cases hbuilder
  | memory r a t n j =>
    cases r' with
    | memory r' a' t' n' j' => exact memory_inj hjson h h'
    | _ => cases hbuilder

/-! ### A move, its parameters written in two orders -/

/-- RFC 8785 on values without floating-point numbers and with ASCII keys. -/
abbrev rfc8785 : Rfc8785 Polis.Value := ⟨fun v => some (utf8 (Polis.Events.canonicalJson v))⟩

/-- The agent whose key is all zeros. -/
def zeroKeyAgent : String := String.ofList (['a', 'g', '_'] ++ List.replicate 64 '0')

def moveBy (params : List (String × Polis.Value)) : Request Polis.Value :=
  .action { runId := 1, tick := 17, actionId := 2, nonce := 3, actorId := zeroKeyAgent,
            type := "MOVE", params := .dict params, reasoning := some "closer to work",
            extras := .dict [] }

def movePlaceFirst : Request Polis.Value := moveBy [("place", .int 4), ("mode", .str "walk")]

def moveModeFirst : Request Polis.Value := moveBy [("mode", .str "walk"), ("place", .int 4)]

theorem moves_same_bytes :
    letI : Rfc8785 Polis.Value := rfc8785
    movePlaceFirst.bytes = some (moveModeFirst.bytes.getD []) ∧
      moveModeFirst.bytes = some (moveModeFirst.bytes.getD []) := by decide +kernel

theorem moves_no_collision :
    letI : Rfc8785 Polis.Value := rfc8785
    ∀ u ∈ movePlaceFirst.hashed, ∀ v ∈ moveModeFirst.hashed, sha256 u = sha256 v → u = v := by
  decide +kernel

theorem signed_preimages_injective_move :
    letI : Rfc8785 Polis.Value := rfc8785
    movePlaceFirst.Same
      (fun j k => Polis.Events.canonicalJson j = Polis.Events.canonicalJson k)
      moveModeFirst := by
  let _ : Rfc8785 Polis.Value := rfc8785
  have hjson : EncodesUpTo fun j k : Polis.Value =>
      Polis.Events.canonicalJson j = Polis.Events.canonicalJson k := by
    intro j k b hj hk
    exact utf8_inj (Option.some.inj (hj.trans hk.symm))
  exact signed_preimages_injective hjson moves_same_bytes.1 moves_same_bytes.2
    moves_no_collision

end Polis.Gateway
