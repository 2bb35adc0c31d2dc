/-
  Polis.Gateway.Sessions — session tokens and websocket tickets
  (`gateway/auth.py`, `SessionRegistry`).

  Three maps: the session of a token, the tokens of an agent, and the token
  and expiry a ticket stands for.  Tokens and tickets are drawn outside.

  Main results:
    * `close_index`, `open_index`, ... — every operation keeps the tokens of
      the agents in step with the sessions.
    * `Fewer` — what an operation that opens nothing can do to the maps.
    * `consumeWebsocketTicket_ok` — a ticket that resolves was in the map,
      leaves it, and is not past its expiry or its session's.
-/
import Polis.Gateway.Verifier
import Mathlib.Data.Finset.Sort

namespace Polis.Gateway

open Lib

/-- `SessionRegistry`. -/
structure SessionRegistry where
  tokens : Dict String Session := ∅
  byAgent : Dict String (Finset String) := ∅
  websocketTickets : Dict String (String × Int) := ∅

/-- `ProtocolError(ErrorCode.SESSION_INVALID)`. -/
def sessionInvalid : GatewayFault := .protocol { code := .sessionInvalid }

namespace SessionRegistry

/-- `_WEBSOCKET_TICKET_TTL_MS`. -/
def WEBSOCKET_TICKET_TTL_MS : Int := 30000

/-- The tokens of an agent without one of them; an agent without tokens has no row. -/
def discard (byAgent : Dict String (Finset String)) (agentId token : String) :
    Dict String (Finset String) :=
  match byAgent.get? agentId with
  | none => byAgent
  | some tokens =>
    if tokens.erase token = ∅ then byAgent.erase agentId
    else byAgent.put agentId (tokens.erase token)

/-- `close`: the registry without the token; what it stood for is
`r.tokens.get? token`. -/
def close (r : SessionRegistry) (token : String) : SessionRegistry where
  tokens := r.tokens.erase token
  byAgent := match r.tokens.get? token with
    | none => r.byAgent
    | some session => discard r.byAgent session.agentId token
  websocketTickets := r.websocketTickets.filterValues fun v => v.1 ≠ token

/-- `reap`. -/
def reap (r : SessionRegistry) (now : Int) : SessionRegistry :=
  let r := r.tokens.entries.foldl (fun r e =>
    if e.2.revoked = true ∨ e.2.expiresUnixMs ≤ now then r.close e.1 else r) r
  { r with websocketTickets := r.websocketTickets.filterValues fun v => ¬ v.2 ≤ now }

/-- The writes that make a token stand for a session. -/
def add (r : SessionRegistry) (token : String) (session : Session) : SessionRegistry :=
  { r with
    tokens := r.tokens.put token session
    byAgent := r.byAgent.put session.agentId
      (insert token (r.byAgent.getD session.agentId ∅)) }

/-- `open`, with the token it draws. -/
def openToken (r : SessionRegistry) (now : Int) (token : String) (session : Session) :
    SessionRegistry := (r.reap now).add token session

/-- `resolve`. -/
def resolve (token : String) (unixMs tick : Int) :
    EStateM GatewayFault SessionRegistry Session := fun r =>
  match r.tokens.get? token with
  | none => .error sessionInvalid r
  | some session =>
    if session.activeAt unixMs tick then .ok session r
    else if session.revoked = true ∨ session.expiresUnixMs ≤ unixMs then
      .error sessionInvalid (r.close token)
    else .error sessionInvalid r

/-- `issue_websocket_ticket`, with the ticket it draws and its two readings of
the clock. -/
def issueWebsocketTicket (token ticket : String) (reapNow now : Int) :
    EStateM GatewayFault SessionRegistry (String × Int) := fun r =>
  let r := r.reap reapNow
  match r.tokens.get? token with
  | none => .error sessionInvalid r
  | some session =>
    let expiresUnixMs := min session.expiresUnixMs (now + WEBSOCKET_TICKET_TTL_MS)
    .ok (ticket, expiresUnixMs)
      { r with websocketTickets := r.websocketTickets.put ticket (token, expiresUnixMs) }

/-- `consume_websocket_ticket`. -/
def consumeWebsocketTicket (ticket : String) (unixMs tick : Int) :
    EStateM GatewayFault SessionRegistry Session := fun r =>
  let source := r.websocketTickets.get? ticket
  let r := { r with websocketTickets := r.websocketTickets.erase ticket }
  match source with
  | none => .error sessionInvalid r
  | some (token, expiresUnixMs) =>
    if expiresUnixMs ≤ unixMs then .error sessionInvalid r
    else resolve token unixMs tick r

/-- `restore`. -/
def restore (r : SessionRegistry) (token : String) (session : Session) : SessionRegistry :=
  (r.close token).add token session

/-- `close_agent`. -/
def closeAgent (r : SessionRegistry) (agentId : String) : SessionRegistry :=
  let r := ((r.byAgent.getD agentId ∅).sort (· ≤ ·)).foldl close r
  { r with byAgent := r.byAgent.erase agentId }

/-- `connected_agents`. -/
def connectedAgents (r : SessionRegistry) (now : Int) : Nat × SessionRegistry :=
  ((r.reap now).byAgent.entries.length, r.reap now)

/-! ## The index -/

/-- `_by_agent` lists exactly the tokens of `_tokens`, and no agent without one. -/
structure Index (r : SessionRegistry) : Prop where
  lists : ∀ a t, t ∈ r.byAgent.getD a ∅ ↔ ∃ s, r.tokens.get? t = some s ∧ s.agentId = a
  inhabited : ∀ a ts, r.byAgent.get? a = some ts → ts ≠ ∅

theorem index_empty : Index {} :=
  ⟨fun a t => by simp [Dict.getD], fun a ts h => by cases h⟩

theorem getD_discard (d : Dict String (Finset String)) (a token b : String) :
    (discard d a token).getD b ∅ = if b = a then (d.getD a ∅).erase token else d.getD b ∅ := by
  unfold discard
  cases h : d.get? a with
  | none =>
    by_cases hb : b = a
    · simp [Dict.getD, hb, h]
    · simp [hb]
  | some tokens =>
    simp only
    split
    · next hempty =>
      rw [Dict.getD, Dict.get?_erase]
      by_cases hb : b = a
      · simp [hb, Dict.getD, h, hempty]
      · simp [hb, Dict.getD]
    · rw [Dict.getD, Dict.get?_put]
      by_cases hb : b = a
      · simp [hb, Dict.getD, h]
      · simp [hb, Dict.getD]

theorem discard_inhabited {d : Dict String (Finset String)}
    (h : ∀ a ts, d.get? a = some ts → ts ≠ ∅) (a token : String) :
    ∀ b ts, (discard d a token).get? b = some ts → ts ≠ ∅ := by
  intro b ts hb
  unfold discard at hb
  cases ha : d.get? a with
  | none =>
    rw [ha] at hb
    exact h b ts hb
  | some tokens =>
    simp only [ha] at hb
    split at hb
    · rw [Dict.get?_erase] at hb
      split at hb
      · cases hb
      · exact h b ts hb
    · next hne =>
      rw [Dict.get?_put] at hb
      split at hb
      · cases hb
        exact hne
      · exact h b ts hb

@[simp] theorem tokens_close (r : SessionRegistry) (token t : String) :
    (r.close token).tokens.get? t = if t = token then none else r.tokens.get? t :=
  Dict.get?_erase _ _ _

theorem tickets_close (r : SessionRegistry) (token k : String) :
    (r.close token).websocketTickets.get? k =
      (r.websocketTickets.get? k).filter fun v => v.1 ≠ token :=
  Dict.get?_filterValues _ _ _

theorem close_index {r : SessionRegistry} (h : Index r) (token : String) :
    Index (r.close token) := by
  constructor
  · intro a t
    rw [tokens_close]
    show t ∈ Dict.getD (match r.tokens.get? token with
      | none => r.byAgent
      | some session => discard r.byAgent session.agentId token) a ∅ ↔ _
    cases hs : r.tokens.get? token with
    | none =>
      rw [h.lists a t]
      by_cases ht : t = token
      · simp [ht, hs]
      · simp [ht]
    | some s =>
      simp only [getD_discard]
      by_cases ha : a = s.agentId
      · rw [if_pos ha, Finset.mem_erase, ← ha, h.lists a t]
        by_cases ht : t = token <;> simp [ht]
      · rw [if_neg ha, h.lists a t]
        by_cases ht : t = token
        · subst ht
          simp [hs, Ne.symm ha]
        · simp [ht]
  · intro a ts ha
    cases hs : r.tokens.get? token with
    | none => exact h.inhabited a ts (by simpa [close, hs] using ha)
    | some s =>
      exact discard_inhabited h.inhabited s.agentId token a ts (by simpa [close, hs] using ha)

theorem add_index {r : SessionRegistry} (h : Index r) {token : String} (session : Session)
    (hnew : r.tokens.get? token = none) : Index (r.add token session) := by
  constructor
  · intro a t
    show t ∈ (r.byAgent.put session.agentId _).getD a ∅ ↔
      ∃ s, (r.tokens.put token session).get? t = some s ∧ s.agentId = a
    rw [Dict.getD, Dict.get?_put, Dict.get?_put]
    by_cases ha : a = session.agentId
    · rw [if_pos ha, Option.getD_some, Finset.mem_insert, ← ha, h.lists a t]
      by_cases ht : t = token
      · simp [ht, ha]
      · simp [ht]
    · rw [if_neg ha, ← Dict.getD, h.lists a t]
      by_cases ht : t = token
      · simp [ht, hnew, Ne.symm ha]
      · simp [ht]
  · intro a ts hget
    change (r.byAgent.put session.agentId _).get? a = some ts at hget
    rw [Dict.get?_put] at hget
    split at hget
    · cases hget
      exact Finset.insert_ne_empty _ _
    · exact h.inhabited a ts hget

theorem tickets_index {r : SessionRegistry} (h : Index r) (tickets : Dict String (String × Int)) :
    Index { r with websocketTickets := tickets } := ⟨h.lists, h.inhabited⟩

/-! ## Operations that open nothing -/

/-- Nothing was opened: the sessions and the tickets left were there before. -/
structure Fewer (r r' : SessionRegistry) : Prop where
  tokens : ∀ t s, r'.tokens.get? t = some s → r.tokens.get? t = some s
  tickets : ∀ k v, r'.websocketTickets.get? k = some v → r.websocketTickets.get? k = some v

theorem Fewer.refl (r : SessionRegistry) : Fewer r r := ⟨fun _ _ h => h, fun _ _ h => h⟩

theorem Fewer.trans {a b c : SessionRegistry} (h : Fewer a b) (h' : Fewer b c) : Fewer a c :=
  ⟨fun t s ht => h.tokens t s (h'.tokens t s ht), fun k v hk => h.tickets k v (h'.tickets k v hk)⟩

theorem close_fewer (r : SessionRegistry) (token : String) : Fewer r (r.close token) := by
  constructor
  · intro t s h
    rw [tokens_close] at h
    split at h
    · cases h
    · exact h
  · intro k v h
    rw [tickets_close, Option.filter_eq_some_iff] at h
    exact h.1

theorem closes_spec (ts : List String) {r : SessionRegistry} (h : Index r) :
    Index (ts.foldl close r) ∧ Fewer r (ts.foldl close r) ∧
      ∀ t, (ts.foldl close r).tokens.get? t = if t ∈ ts then none else r.tokens.get? t := by
  induction ts generalizing r with
  | nil => exact ⟨h, Fewer.refl r, fun t => by simp⟩
  | cons x ts ih =>
    obtain ⟨hi, hf, hg⟩ := ih (close_index h x)
    refine ⟨hi, (close_fewer r x).trans hf, fun t => ?_⟩
    rw [List.foldl_cons, hg, tokens_close]
    by_cases ht : t ∈ ts <;> by_cases hx : t = x <;> simp [ht, hx]

theorem reap_spec {r : SessionRegistry} (h : Index r) (now : Int) :
    Index (r.reap now) ∧ Fewer r (r.reap now) := by
  have hloop : ∀ (es : List (String × Session)) (r : SessionRegistry), Index r →
      Index (es.foldl (fun r e =>
        if e.2.revoked = true ∨ e.2.expiresUnixMs ≤ now then r.close e.1 else r) r) ∧
      Fewer r (es.foldl (fun r e =>
        if e.2.revoked = true ∨ e.2.expiresUnixMs ≤ now then r.close e.1 else r) r) := by
    intro es
    induction es with
    | nil => exact fun r h => ⟨h, Fewer.refl r⟩
    | cons e es ih =>
      intro r h
      rw [List.foldl_cons]
      split
      · obtain ⟨hi, hf⟩ := ih _ (close_index h e.1)
        exact ⟨hi, (close_fewer r e.1).trans hf⟩
      · exact ih r h
  obtain ⟨hi, hf⟩ := hloop r.tokens.entries r h
  refine ⟨tickets_index hi _, hf.trans ⟨fun _ _ ht => ht, fun k v hk => ?_⟩⟩
  rw [reap, Dict.get?_filterValues, Option.filter_eq_some_iff] at hk
  exact hk.1

theorem openToken_index {r : SessionRegistry} (h : Index r) (now : Int) {token : String}
    (session : Session) (hnew : r.tokens.get? token = none) :
    Index (r.openToken now token session) := by
  obtain ⟨hi, hf⟩ := reap_spec h now
  refine add_index hi session ?_
  cases ht : (r.reap now).tokens.get? token with
  | none => rfl
  | some s =>
    rw [hf.tokens token s ht] at hnew
    cases hnew

theorem tokens_openToken {r : SessionRegistry} (h : Index r) {now : Int} {token t : String}
    {session s : Session} (ht : (r.openToken now token session).tokens.get? t = some s) :
    (t = token ∧ s = session) ∨ (t ≠ token ∧ r.tokens.get? t = some s) := by
  change ((r.reap now).tokens.put token session).get? t = some s at ht
  rw [Dict.get?_put] at ht
  split at ht
  · next heq =>
    cases ht
    exact .inl ⟨heq, rfl⟩
  · next hne => exact .inr ⟨hne, (reap_spec h now).2.tokens t s ht⟩

theorem restore_index {r : SessionRegistry} (h : Index r) (token : String) (session : Session) :
    Index (r.restore token session) :=
  add_index (close_index h token) session (by rw [tokens_close, if_pos rfl])

theorem tokens_restore (r : SessionRegistry) (token t : String) (session : Session) :
    (r.restore token session).tokens.get? t =
      if t = token then some session else r.tokens.get? t := by
  show ((r.close token).tokens.put token session).get? t = _
  rw [Dict.get?_put, tokens_close]
  split <;> rfl

theorem tickets_restore {r : SessionRegistry} {token k : String} {session : Session}
    {v : String × Int} (h : (r.restore token session).websocketTickets.get? k = some v) :
    r.websocketTickets.get? k = some v := (close_fewer r token).tickets k v h

theorem closeAgent_spec {r : SessionRegistry} (h : Index r) (a : String) :
    Index (r.closeAgent a) ∧ Fewer r (r.closeAgent a) ∧
      ∀ t s, (r.closeAgent a).tokens.get? t = some s → s.agentId ≠ a := by
  obtain ⟨hi, hf, hg⟩ := closes_spec ((r.byAgent.getD a ∅).sort (· ≤ ·)) h
  have hgone : ∀ t s, (((r.byAgent.getD a ∅).sort (· ≤ ·)).foldl close r).tokens.get? t = some s →
      s.agentId ≠ a := by
    intro t s ht heq
    have hold := hf.tokens t s ht
    have hmem : t ∈ (r.byAgent.getD a ∅).sort (· ≤ ·) :=
      (Finset.mem_sort _).mpr ((h.lists a t).mpr ⟨s, hold, heq⟩)
    rw [hg, if_pos hmem] at ht
    cases ht
  refine ⟨⟨fun b t => ?_, fun b ts hb => ?_⟩, ⟨hf.tokens, hf.tickets⟩, hgone⟩
  · show t ∈ (Dict.erase _ a).getD b ∅ ↔ _
    rw [Dict.getD, Dict.get?_erase]
    by_cases hb : b = a
    · rw [if_pos hb]
      constructor
      · intro hmem
        simp at hmem
      · rintro ⟨s, hs, hsa⟩
        exact absurd (hsa.trans hb) (hgone t s hs)
    · rw [if_neg hb]
      exact hi.lists b t
  · change (Dict.erase _ a).get? b = some ts at hb
    rw [Dict.get?_erase] at hb
    split at hb
    · cases hb
    · exact hi.inhabited b ts hb

/-! ## Resolving -/

theorem resolve_spec {r : SessionRegistry} (h : Index r) (token : String) (unixMs tick : Int) :
    Index (Effect.stateAfter (resolve token unixMs tick r)) ∧
      Fewer r (Effect.stateAfter (resolve token unixMs tick r)) ∧
      ∀ s r', resolve token unixMs tick r = .ok s r' →
        r.tokens.get? token = some s ∧ s.activeAt unixMs tick = true := by
  unfold resolve
  cases hs : r.tokens.get? token with
  | none => exact ⟨h, Fewer.refl r, fun s r' hr => by cases hr⟩
  | some s =>
    simp only
    split
    · next hact =>
      refine ⟨h, Fewer.refl r, fun s' r' hr => ?_⟩
      cases hr
      exact ⟨rfl, hact⟩
    · split
      · exact ⟨close_index h token, close_fewer r token, fun s r' hr => by cases hr⟩
      · exact ⟨h, Fewer.refl r, fun s r' hr => by cases hr⟩

theorem resolve_none {r : SessionRegistry} {token : String} (h : r.tokens.get? token = none)
    (unixMs tick : Int) : resolve token unixMs tick r = .error sessionInvalid r := by
  rw [resolve, h]

theorem resolve_live {r : SessionRegistry} {token : String} {s : Session}
    (h : r.tokens.get? token = some s) (hrev : s.revoked = false) :
    ∃ unixMs tick, resolve token unixMs tick r = .ok s r := by
  refine ⟨s.expiresUnixMs - 1, s.suspendedUntilTick.getD 0, ?_⟩
  have hact : s.activeAt (s.expiresUnixMs - 1) (s.suspendedUntilTick.getD 0) = true := by
    cases hsus : s.suspendedUntilTick <;> simp [Session.activeAt, hrev, hsus]
  rw [resolve, h]
  simp [hact]

theorem issueWebsocketTicket_spec {r : SessionRegistry} (h : Index r) (token ticket : String)
    (reapNow now : Int) :
    Index (Effect.stateAfter (issueWebsocketTicket token ticket reapNow now r)) ∧
      (∀ t s, (Effect.stateAfter (issueWebsocketTicket token ticket reapNow now r)).tokens.get? t
        = some s → r.tokens.get? t = some s) ∧
      ∀ k v, (Effect.stateAfter
          (issueWebsocketTicket token ticket reapNow now r)).websocketTickets.get? k = some v →
        r.websocketTickets.get? k = some v ∨
          (k = ticket ∧ ∃ r', issueWebsocketTicket token ticket reapNow now r
            = .ok (ticket, v.2) r') := by
  obtain ⟨hi, hf⟩ := reap_spec h reapNow
  unfold issueWebsocketTicket
  simp only
  cases hs : (r.reap reapNow).tokens.get? token with
  | none => exact ⟨hi, hf.tokens, fun k v hk => .inl (hf.tickets k v hk)⟩
  | some s =>
    refine ⟨tickets_index hi _, hf.tokens, fun k v hk => ?_⟩
    simp only [Effect.stateAfter_ok, Dict.get?_put] at hk
    split at hk
    · next heq =>
      cases hk
      exact .inr ⟨heq, _, rfl⟩
    · exact .inl (hf.tickets k v hk)

theorem consumeWebsocketTicket_spec {r : SessionRegistry} (h : Index r) (ticket : String)
    (unixMs tick : Int) :
    Index (Effect.stateAfter (consumeWebsocketTicket ticket unixMs tick r)) ∧
      Fewer r (Effect.stateAfter (consumeWebsocketTicket ticket unixMs tick r)) ∧
      (Effect.stateAfter
        (consumeWebsocketTicket ticket unixMs tick r)).websocketTickets.get? ticket = none ∧
      ∀ s r', consumeWebsocketTicket ticket unixMs tick r = .ok s r' →
        ∃ token e, r.websocketTickets.get? ticket = some (token, e) ∧ unixMs < e ∧
          r.tokens.get? token = some s ∧ unixMs < s.expiresUnixMs := by
  have hpop : Fewer r { r with websocketTickets := r.websocketTickets.erase ticket } := by
    refine ⟨fun _ _ ht => ht, fun k v hk => ?_⟩
    rw [Dict.get?_erase] at hk
    split at hk
    · cases hk
    · exact hk
  have hgone : (r.websocketTickets.erase ticket).get? ticket = none := by
    rw [Dict.get?_erase, if_pos rfl]
  unfold consumeWebsocketTicket
  simp only
  cases hs : r.websocketTickets.get? ticket with
  | none => exact ⟨tickets_index h _, hpop, hgone, fun s r' hr => by cases hr⟩
  | some v =>
    obtain ⟨token, e⟩ := v
    simp only
    split
    · exact ⟨tickets_index h _, hpop, hgone, fun s r' hr => by cases hr⟩
    · next hlt =>
      obtain ⟨hi, hf, hok⟩ := resolve_spec
        (tickets_index h (r.websocketTickets.erase ticket)) token unixMs tick
      refine ⟨hi, hpop.trans hf, ?_, fun s r' hr => ?_⟩
      · cases hk : (Effect.stateAfter (resolve token unixMs tick
          { r with websocketTickets := r.websocketTickets.erase ticket })).websocketTickets.get?
            ticket with
        | none => rfl
        | some v =>
          have := hf.tickets ticket v hk
          rw [hgone] at this
          cases this
      · obtain ⟨htok, hact⟩ := hok s r' hr
        simp only [Session.activeAt, Bool.and_eq_true, decide_eq_true_eq] at hact
        exact ⟨token, e, rfl, by omega, htok, hact.1.2⟩

end SessionRegistry

end Polis.Gateway
