/-
  Polis.Gateway.Revocation — what revoking and departing end.

  A run interleaves the calls of the registrar and the registry.  Beside it
  we keep which session request each token was opened for, which requests
  were received before a revocation of their agent returned, and what the
  tickets did.

  Main results:
    * `step_kept` — every step keeps the index, and ties tokens and tickets
      to what they were handed out for.
    * `final_step`, `untimely_step` — which steps bring a token of an ended
      request back.
    * `revocation_final_iff` — over every run: the index and the tickets hold
      always; revocation is final exactly when no such step is taken.
    * `closing_restores` — a session closed, revoked and restored.
-/
import Polis.Gateway.Registrar
import Polis.Lib.Runs

namespace Polis.Gateway

open Lib Lib.Effect Lib.Runs
open Polis.Events (RunId)

/-! ## Histories -/

/-- What has happened so far. -/
structure History where
  /-- the agent of a session request, by its number -/
  received : Dict Nat String := ∅
  /-- the request a token was opened for -/
  opened : Dict String Nat := ∅
  /-- requests received before a revocation or departure of their agent returned -/
  ended : List Nat := []
  /-- the expiry a ticket was issued with -/
  issued : Dict String Int := ∅
  /-- the tickets that resolved, when, and to which session -/
  consumed : List (String × Int × Session) := []

/-- The requests of an agent received so far. -/
def History.requestsOf (h : History) (agentId : String) : List Nat :=
  (h.received.entries.filter fun e => e.2 = agentId).map Prod.fst

/-- The history after a step that took `g` to `g'` and reported `reply`. -/
def History.next (h : History) (g g' : Registrar) (reply : Reply) : Step → History
  | .openSession call => { h with received := h.received.put g.calls call.agentId }
  | .read id _ _ =>
    match g.pending.get? id, g'.pending.get? id with
    | some (.openRead _), some (.openPush token _ _) =>
      { h with opened := h.opened.put token id }
    | _, _ => h
  | .pushed id _ =>
    match g.pending.get? id, reply with
    | some (.endPush call _), .ended _ => { h with ended := h.ended ++ h.requestsOf call.agentId }
    | _, _ => h
  | .issueTicket _ _ _ =>
    match reply with
    | .ticket value expiresUnixMs => { h with issued := h.issued.put value expiresUnixMs }
    | _ => h
  | .consumeTicket ticket unixMs _ =>
    match reply with
    | .session s => { h with consumed := h.consumed ++ [(ticket, unixMs, s)] }
    | _ => h
  | _ => h

/-- A registrar and its history. -/
structure Watched where
  registrar : Registrar := {}
  history : History := {}

section Watching

variable [RegistrarDeps] (runId : RunId) (sessionTtlS : Int)

/-- One step of a watched registrar. -/
def watch (x : Watched) (st : Step) : Watched :=
  let next := x.registrar.step runId sessionTtlS st
  { registrar := next.1, history := x.history.next x.registrar next.1 next.2 st }

/-! ## What a run keeps -/

/-- Where a session comes from: an unrevoked session of the agent whose
request its token was opened for. -/
def Known (h : History) (token : String) (s : Session) : Prop :=
  s.revoked = false ∧ ∃ c, h.opened.get? token = some c ∧ h.received.get? c = some s.agentId

/-- A ticket that has been drawn. -/
def Drawn (bytes n : Nat) (value : String) : Prop :=
  ∃ k < n, value = RegistrarDeps.tokenUrlsafe k bytes

/-- What every step keeps. -/
structure Kept (x : Watched) : Prop where
  index : x.registrar.sessions.Index
  live : ∀ t s, x.registrar.sessions.tokens.get? t = some s → Known x.history t s
  closing : ∀ id t s, x.registrar.pending.get? id = some (.closePush t s) → Known x.history t s
  reading : ∀ id call, x.registrar.pending.get? id = some (.openRead call) →
    x.history.received.get? id = some call.agentId
  numbered : ∀ c a, x.history.received.get? c = some a → c < x.registrar.calls
  opened : ∀ t c, x.history.opened.get? t = some c → Drawn 32 x.registrar.draws t
  issued : ∀ k e, x.history.issued.get? k = some e → Drawn 24 x.registrar.draws k
  tickets : ∀ k v, x.registrar.sessions.websocketTickets.get? k = some v →
    x.history.issued.get? k = some v.2
  consumed : ∀ k u s, (k, u, s) ∈ x.history.consumed →
    x.registrar.sessions.websocketTickets.get? k = none ∧
      ∃ e, x.history.issued.get? k = some e ∧ u < e ∧ u < s.expiresUnixMs
  once : (x.history.consumed.map Prod.fst).Nodup

theorem kept_init : Kept {} where
  index := SessionRegistry.index_empty
  live := fun _ _ h => by cases h
  closing := fun _ _ _ h => by cases h
  reading := fun _ _ h => by cases h
  numbered := fun _ _ h => by cases h
  opened := fun _ _ h => by cases h
  issued := fun _ _ h => by cases h
  tickets := fun _ _ h => by cases h
  consumed := fun _ _ _ h => by cases h
  once := List.nodup_nil

/-- A call that awaits with nothing to keep for a run. -/
def Pending.Plain : Pending → Prop
  | .openRead _ => False
  | .closePush _ _ => False
  | _ => True

variable {runId sessionTtlS}

theorem Drawn.mono {bytes n m : Nat} {value : String} (h : Drawn bytes n value) (hle : n ≤ m) :
    Drawn bytes m value := by
  obtain ⟨k, hk, heq⟩ := h
  exact ⟨k, by omega, heq⟩

theorem Kept.fewer {x : Watched} (h : Kept x) (g : Registrar) (ended : List Nat)
    (hi : g.sessions.Index) (hf : x.registrar.sessions.Fewer g.sessions)
    (hp : ∀ id p, g.pending.get? id = some p →
      x.registrar.pending.get? id = some p ∨ p.Plain)
    (hd : x.registrar.draws ≤ g.draws) (hc : x.registrar.calls ≤ g.calls) :
    Kept { registrar := g, history := { x.history with ended := ended } } where
  index := hi
  live := fun t s ht => h.live t s (hf.tokens t s ht)
  closing := fun id t s ht => by
    rcases hp id _ ht with hold | hplain
    · exact h.closing id t s hold
    · cases hplain
  reading := fun id call ht => by
    rcases hp id _ ht with hold | hplain
    · exact h.reading id call hold
    · cases hplain
  numbered := fun c a ha => lt_of_lt_of_le (h.numbered c a ha) hc
  opened := fun t c ht => (h.opened t c ht).mono hd
  issued := fun k e hk => (h.issued k e hk).mono hd
  tickets := fun k v hk => h.tickets k v (hf.tickets k v hk)
  consumed := fun k u s hk => by
    obtain ⟨hnone, e, he⟩ := h.consumed k u s hk
    refine ⟨?_, e, he⟩
    cases hget : g.sessions.websocketTickets.get? k with
    | none => rfl
    | some v =>
      have hold := hf.tickets k v hget
      rw [hnone] at hold
      cases hold
  once := h.once

omit [RegistrarDeps] in
theorem pending_resume {g : Registrar} {id k : Nat} {p : Pending}
    (h : (g.resume id).pending.get? k = some p) : g.pending.get? k = some p := by
  rw [Registrar.resume, Dict.get?_erase] at h
  split at h
  · cases h
  · exact h

omit [RegistrarDeps] in
theorem pending_put {g : Registrar} {id k : Nat} {p q : Pending}
    (h : ((g.resume id).pending.put id q).get? k = some p) :
    g.pending.get? k = some p ∨ p = q := by
  rw [Dict.get?_put] at h
  split at h
  · exact .inr (Option.some.inj h).symm
  · exact .inl (pending_resume h)

omit [RegistrarDeps] in
theorem pending_await {g : Registrar} {k : Nat} {p q : Pending}
    (h : (g.await q).pending.get? k = some p) :
    g.pending.get? k = some p ∨ (k = g.calls ∧ p = q) := by
  rw [Registrar.await, Dict.get?_put] at h
  split at h
  · next heq => exact .inr ⟨heq, (Option.some.inj h).symm⟩
  · exact .inl h

theorem Kept.fresh (hfresh : ∀ n, Function.Injective fun k => RegistrarDeps.tokenUrlsafe k n)
    {x : Watched} (h : Kept x) {k : Nat} (hk : x.registrar.draws ≤ k) :
    x.history.opened.get? (RegistrarDeps.tokenUrlsafe k 32) = none ∧
      x.registrar.sessions.tokens.get? (RegistrarDeps.tokenUrlsafe k 32) = none := by
  have hopened : x.history.opened.get? (RegistrarDeps.tokenUrlsafe k 32) = none := by
    cases ho : x.history.opened.get? (RegistrarDeps.tokenUrlsafe k 32) with
    | none => rfl
    | some c =>
      obtain ⟨j, hj, heq⟩ := h.opened _ c ho
      have := hfresh 32 heq
      omega
  refine ⟨hopened, ?_⟩
  cases ht : x.registrar.sessions.tokens.get? (RegistrarDeps.tokenUrlsafe k 32) with
  | none => rfl
  | some s =>
    obtain ⟨_, c, hc, _⟩ := h.live _ s ht
    rw [hopened] at hc
    cases hc

/-! ## The steps -/

theorem kept_openSession {x : Watched} (h : Kept x) (call : OpenCall) :
    Kept (watch runId sessionTtlS x (.openSession call)) := by
  have hreceived : ∀ c a, x.history.received.get? c = some a →
      (x.history.received.put x.registrar.calls call.agentId).get? c = some a := by
    intro c a ha
    rw [Dict.get?_put_of_ne (by have := h.numbered c a ha; omega), ha]
  have hknown : ∀ t s, Known x.history t s → Known
      { x.history with received := x.history.received.put x.registrar.calls call.agentId } t s := by
    rintro t s ⟨hrev, c, ho, ha⟩
    exact ⟨hrev, c, ho, hreceived c _ ha⟩
  refine ⟨h.index, fun t s ht => hknown t s (h.live t s ht), fun id t s hp => ?_,
    fun id c hp => ?_, fun c a ha => ?_, h.opened, h.issued, h.tickets, h.consumed, h.once⟩
  · rcases pending_await hp with hold | ⟨_, heq⟩
    · exact hknown t s (h.closing id t s hold)
    · cases heq
  · rcases pending_await hp with hold | ⟨hid, heq⟩
    · exact hreceived id _ (h.reading id c hold)
    · cases heq
      rw [hid]
      exact Dict.get?_put_self _ _ _
  · show c < x.registrar.calls + 1
    change (x.history.received.put x.registrar.calls call.agentId).get? c = some a at ha
    rw [Dict.get?_put] at ha
    split at ha
    · omega
    · have := h.numbered c a ha
      omega

theorem kept_closeSession {x : Watched} (h : Kept x) (token : String) :
    Kept (watch runId sessionTtlS x (.closeSession token)) := by
  have hi := SessionRegistry.close_index h.index token
  have hf := SessionRegistry.close_fewer x.registrar.sessions token
  show Kept ⟨(x.registrar.closeSession token).1, x.history⟩
  unfold Registrar.closeSession
  cases hs : x.registrar.sessions.tokens.get? token with
  | none => exact h.fewer _ x.history.ended hi hf (fun _ _ hp => .inl hp) le_rfl le_rfl
  | some s =>
    have hrest := h.fewer { x.registrar with sessions := x.registrar.sessions.close token }
      x.history.ended hi hf
      (fun _ _ hp => .inl hp) le_rfl le_rfl
    refine ⟨hi, hrest.live, fun id t s' hp => ?_, fun id c hp => ?_, fun c a ha => ?_,
      hrest.opened, hrest.issued, hrest.tickets, hrest.consumed, hrest.once⟩
    · rcases pending_await hp with hold | ⟨_, heq⟩
      · exact h.closing id t s' hold
      · cases heq
        exact h.live token s hs
    · rcases pending_await hp with hold | ⟨_, heq⟩
      · exact h.reading id c hold
      · cases heq
    · have := h.numbered c a ha
      show c < x.registrar.calls + 1
      omega

theorem kept_endCall {x : Watched} (h : Kept x) (call : EndCall) :
    Kept (watch runId sessionTtlS x (.endCall call)) := by
  refine h.fewer (x.registrar.await (.endRead call)) x.history.ended h.index
    (SessionRegistry.Fewer.refl _) (fun id p hp => ?_) le_rfl (Nat.le_succ _)
  rcases pending_await hp with hold | ⟨_, heq⟩
  · exact .inl hold
  · rw [heq]
    exact .inr trivial

/-- The state after the request `id` opened its token. -/
def Watched.opening (x : Watched) (id : Nat) (d : Dict String Int) (reapNow : Int)
    (session : Session) (sigHex : String) : Watched :=
  let token := RegistrarDeps.tokenUrlsafe (x.registrar.draws + 1) 32
  { registrar := { x.registrar.resume id with
      lifecycleSignatures := d
      sessions := x.registrar.sessions.openToken reapNow token session
      draws := x.registrar.draws + 2
      pending := (x.registrar.resume id).pending.put id (.openPush token session sigHex) }
    history := { x.history with opened := x.history.opened.put token id } }

theorem kept_open (hfresh : ∀ n, Function.Injective fun k => RegistrarDeps.tokenUrlsafe k n)
    {x : Watched} (h : Kept x) {id : Nat} {call : OpenCall}
    (hp : x.registrar.pending.get? id = some (.openRead call)) {session : Session}
    (hagent : session.agentId = call.agentId) (hrev : session.revoked = false)
    (d : Dict String Int) (now : Int) (sigHex : String) :
    Kept (x.opening id d now session sigHex) := by
  generalize htoken : RegistrarDeps.tokenUrlsafe (x.registrar.draws + 1) 32 = token
  have hq : (Pending.openPush token session sigHex).Plain := trivial
  unfold Watched.opening
  rw [htoken]
  obtain ⟨hnew, htok⟩ := h.fresh hfresh (Nat.le_succ x.registrar.draws)
  rw [htoken] at hnew htok
  have hopened : ∀ t c, x.history.opened.get? t = some c →
      (x.history.opened.put token id).get? t = some c := by
    intro t c hc
    rw [Dict.get?_put_of_ne, hc]
    intro heq
    rw [heq, hnew] at hc
    cases hc
  have hknown : ∀ t s, Known x.history t s →
      Known { x.history with opened := x.history.opened.put token id } t s := by
    rintro t s ⟨hr, c, ho, ha⟩
    exact ⟨hr, c, hopened t c ho, ha⟩
  have hf := (SessionRegistry.reap_spec h.index now).2
  refine ⟨SessionRegistry.openToken_index h.index now session htok, fun t s ht => ?_,
    fun k t s hk => ?_, fun k c hk => ?_, h.numbered, fun t c hc => ?_, fun k e hk => ?_,
    fun k v hk => h.tickets k v (hf.tickets k v hk), fun k u s hk => ?_, h.once⟩
  · rcases SessionRegistry.tokens_openToken h.index ht with ⟨rfl, rfl⟩ | ⟨_, hold⟩
    · exact ⟨hrev, id, Dict.get?_put_self _ _ _, by rw [hagent]; exact h.reading id call hp⟩
    · exact hknown t s (h.live t s hold)
  · rcases pending_put hk with hold | heq
    · exact hknown t s (h.closing k t s hold)
    · rw [← heq] at hq
      cases hq
  · rcases pending_put hk with hold | heq
    · exact h.reading k c hold
    · rw [← heq] at hq
      cases hq
  · change (x.history.opened.put token id).get? t = some c at hc
    rw [Dict.get?_put] at hc
    split at hc
    · next heq => exact ⟨x.registrar.draws + 1, Nat.lt_succ_self _, heq.trans htoken.symm⟩
    · exact (h.opened t c hc).mono (Nat.le_add_right _ 2)
  · exact (h.issued k e hk).mono (Nat.le_add_right _ 2)
  · obtain ⟨hnone, e, he⟩ := h.consumed k u s hk
    refine ⟨?_, e, he⟩
    cases hget : (x.registrar.sessions.reap now).websocketTickets.get? k with
    | none => exact hget
    | some v =>
      have := hf.tickets k v hget
      rw [hnone] at this
      cases this

variable (runId sessionTtlS) in
theorem read_cases (x : Watched) (id : Nat) (record : Option Admission) (now : Readings) :
    (∃ call d pubkey transport, x.registrar.pending.get? id = some (.openRead call) ∧
      Admits runId sessionTtlS (x.registrar.resume id) call record now ∧
      watch runId sessionTtlS x (.read id record now) = x.opening id d now.reapNow
        (sessionOf call pubkey transport now.serverNow x.registrar.draws) call.sigHex) ∨
    ((∀ call, x.registrar.pending.get? id = some (.openRead call) →
        ¬ Admits runId sessionTtlS (x.registrar.resume id) call record now) ∧
      ∃ g, watch runId sessionTtlS x (.read id record now) = ⟨g, x.history⟩ ∧
        g.sessions = x.registrar.sessions ∧ g.draws = x.registrar.draws ∧
        g.calls = x.registrar.calls ∧ ∀ k p, g.pending.get? k = some p →
          x.registrar.pending.get? k = some p ∨ p.Plain) := by
  have hgone : (x.registrar.resume id).pending.get? id = none := by
    rw [Registrar.resume, Dict.get?_erase, if_pos rfl]
  cases hp : x.registrar.pending.get? id with
  | none =>
    refine .inr ⟨fun call hc => (by cases hc), x.registrar, ?_, rfl, rfl, rfl, fun _ _ h => .inl h⟩
    simp [watch, Registrar.step, Registrar.onRead, History.next, hp]
  | some p =>
    cases p with
    | openRead call =>
      rcases beginSession_spec runId sessionTtlS call record now
        (x.registrar.resume id) with ⟨hadm, d, pubkey, transport, hok⟩ | ⟨hnot, d, e, herr⟩
      · refine .inl ⟨call, d, pubkey, transport, rfl, hadm, ?_⟩
        simp only [watch, Registrar.step, Registrar.onRead, History.next, hp, hok,
          Dict.get?_put_self]
        rfl
      · refine .inr ⟨fun c hc => (by cases hc; exact hnot), { x.registrar.resume id with
          lifecycleSignatures := d }, ?_, rfl, rfl, rfl, fun _ _ h => .inl (pending_resume h)⟩
        simp only [watch, Registrar.step, Registrar.onRead, History.next, hp, herr, hgone]
    | endRead call =>
      obtain ⟨d, hframe⟩ := verifyLifecycle_frame runId call record now
        (x.registrar.resume id)
      refine .inr ⟨fun c hc => (by cases hc), ?_⟩
      cases hv : verifyLifecycle runId call record now (x.registrar.resume id) with
      | ok u g =>
        rw [hv, stateAfter_ok] at hframe
        refine ⟨{ g with pending := g.pending.put id (.endPush call now.tick) }, ?_, ?_, ?_, ?_, ?_⟩
        · simp [watch, Registrar.step, Registrar.onRead, History.next, hp, hv]
        · rw [hframe]; rfl
        · rw [hframe]; rfl
        · rw [hframe]; rfl
        · intro k p hk
          rw [hframe] at hk
          rcases pending_put hk with hold | heq
          · exact .inl hold
          · rw [heq]
            exact .inr trivial
      | error e g =>
        rw [hv, stateAfter_error] at hframe
        refine ⟨g, ?_, ?_, ?_, ?_, ?_⟩
        · simp [watch, Registrar.step, Registrar.onRead, History.next, hp, hv]
        · rw [hframe]; rfl
        · rw [hframe]; rfl
        · rw [hframe]; rfl
        · intro k p hk
          rw [hframe] at hk
          exact .inl (pending_resume hk)
    | openPush t s sig =>
      refine .inr ⟨fun call hc => (by cases hc), x.registrar, ?_, rfl, rfl, rfl, fun _ _ h => .inl h⟩
      simp [watch, Registrar.step, Registrar.onRead, History.next, hp]
    | closePush t s =>
      refine .inr ⟨fun call hc => (by cases hc), x.registrar, ?_, rfl, rfl, rfl, fun _ _ h => .inl h⟩
      simp [watch, Registrar.step, Registrar.onRead, History.next, hp]
    | endPush call tick =>
      refine .inr ⟨fun call hc => (by cases hc), x.registrar, ?_, rfl, rfl, rfl, fun _ _ h => .inl h⟩
      simp [watch, Registrar.step, Registrar.onRead, History.next, hp]

theorem kept_read (hfresh : ∀ n, Function.Injective fun k => RegistrarDeps.tokenUrlsafe k n)
    {x : Watched} (h : Kept x) (id : Nat) (record : Option Admission) (now : Readings) :
    Kept (watch runId sessionTtlS x (.read id record now)) := by
  rcases read_cases runId sessionTtlS x id record now with
    ⟨call, d, pubkey, transport, hp, _, heq⟩ | ⟨_, g, heq, hs, hd, hc, hpend⟩
  · rw [heq]
    exact kept_open hfresh h hp rfl rfl d now.reapNow call.sigHex
  · rw [heq]
    exact h.fewer _ x.history.ended (by rw [hs]; exact h.index)
      (by rw [hs]; exact SessionRegistry.Fewer.refl _) hpend (by rw [hd]) (by rw [hc])

/-- The outcomes of a push the registrar handles: its `except` clauses. -/
def PushOutcome.handled : PushOutcome → Bool
  | .protocol _ => true
  | .io => true
  | _ => false

variable (runId sessionTtlS) in
theorem pushed_cases {x : Watched} (h : Kept x) (id : Nat) (outcome : PushOutcome) :
    (∃ call tick, x.registrar.pending.get? id = some (.endPush call tick) ∧ outcome = .ok ∧
      watch runId sessionTtlS x (.pushed id outcome) =
        ⟨{ x.registrar.resume id with
            sessions := x.registrar.sessions.closeAgent call.agentId },
          { x.history with ended := x.history.ended ++ x.history.requestsOf call.agentId }⟩) ∨
    (∃ token session, x.registrar.pending.get? id = some (.closePush token session) ∧
      outcome.handled = true ∧ watch runId sessionTtlS x (.pushed id outcome) =
        ⟨{ x.registrar.resume id with
            sessions := x.registrar.sessions.restore token session }, x.history⟩) ∨
    ((∀ token session, x.registrar.pending.get? id = some (.closePush token session) →
        outcome.handled = false) ∧
      ∃ g, watch runId sessionTtlS x (.pushed id outcome) = ⟨g, x.history⟩ ∧
        g.sessions.Index ∧ x.registrar.sessions.Fewer g.sessions ∧
        g.draws = x.registrar.draws ∧ g.calls = x.registrar.calls ∧
        ∀ k p, g.pending.get? k = some p → x.registrar.pending.get? k = some p) := by
  have hback := SessionRegistry.Fewer.refl x.registrar.sessions
  have hsame : ∀ k p, x.registrar.pending.get? k = some p →
      x.registrar.pending.get? k = some p := fun _ _ h => h
  have hres : ∀ k p, (x.registrar.resume id).pending.get? k = some p →
      x.registrar.pending.get? k = some p := fun _ _ h => pending_resume h
  have hstep : watch runId sessionTtlS x (.pushed id outcome) =
      ⟨(x.registrar.onPushed id outcome).1,
        match x.registrar.pending.get? id, (x.registrar.onPushed id outcome).2 with
        | some (.endPush call _), .ended _ =>
          { x.history with ended := x.history.ended ++ x.history.requestsOf call.agentId }
        | _, _ => x.history⟩ := rfl
  rw [hstep, Registrar.onPushed]
  cases hp : x.registrar.pending.get? id with
  | none => exact .inr (.inr ⟨fun _ _ hc => (by cases hc), _, rfl, h.index, hback, rfl, rfl, hsame⟩)
  | some p =>
    cases p with
    | openRead call =>
      exact .inr (.inr ⟨fun _ _ hc => (by cases hc), _, rfl, h.index, hback, rfl, rfl, hsame⟩)
    | endRead call =>
      exact .inr (.inr ⟨fun _ _ hc => (by cases hc), _, rfl, h.index, hback, rfl, rfl, hsame⟩)
    | openPush token session sig =>
      have hi := SessionRegistry.close_index h.index token
      have hf := SessionRegistry.close_fewer x.registrar.sessions token
      refine .inr (.inr ⟨fun _ _ hc => (by cases hc), ?_⟩)
      cases outcome with
      | ok => exact ⟨_, rfl, h.index, hback, rfl, rfl, hres⟩
      | protocol e => exact ⟨_, rfl, hi, hf, rfl, rfl, hres⟩
      | io => exact ⟨_, rfl, hi, hf, rfl, rfl, hres⟩
      | other => exact ⟨_, rfl, h.index, hback, rfl, rfl, hres⟩
    | closePush token session =>
      cases outcome with
      | ok => exact .inr (.inr ⟨fun _ _ _ => rfl, _, rfl, h.index, hback, rfl, rfl, hres⟩)
      | protocol e => exact .inr (.inl ⟨token, session, rfl, rfl, rfl⟩)
      | io => exact .inr (.inl ⟨token, session, rfl, rfl, rfl⟩)
      | other => exact .inr (.inr ⟨fun _ _ _ => rfl, _, rfl, h.index, hback, rfl, rfl, hres⟩)
    | endPush call tick =>
      cases outcome with
      | ok => exact .inl ⟨call, tick, rfl, rfl, rfl⟩
      | protocol e =>
        exact .inr (.inr ⟨fun _ _ hc => (by cases hc), _, rfl, h.index, hback, rfl, rfl, hres⟩)
      | io =>
        exact .inr (.inr ⟨fun _ _ hc => (by cases hc), _, rfl, h.index, hback, rfl, rfl, hres⟩)
      | other =>
        exact .inr (.inr ⟨fun _ _ hc => (by cases hc), _, rfl, h.index, hback, rfl, rfl, hres⟩)

theorem kept_pushed {x : Watched} (h : Kept x) (id : Nat) (outcome : PushOutcome) :
    Kept (watch runId sessionTtlS x (.pushed id outcome)) := by
  rcases pushed_cases runId sessionTtlS h id outcome with
    ⟨call, tick, _, _, heq⟩ | ⟨token, session, hp, _, heq⟩ | ⟨_, g, heq, hi, hf, hd, hc, hpend⟩
  · rw [heq]
    obtain ⟨hi, hf, _⟩ := SessionRegistry.closeAgent_spec h.index call.agentId
    exact h.fewer _ _ hi hf (fun _ _ hk => .inl (pending_resume hk)) le_rfl le_rfl
  · -- the session that comes back is the one that was closed
    rw [heq]
    refine ⟨SessionRegistry.restore_index h.index token session, fun t s ht => ?_,
      fun k t s hk => h.closing k t s (pending_resume hk),
      fun k c hk => h.reading k c (pending_resume hk), h.numbered, h.opened, h.issued,
      fun k v hk => h.tickets k v (SessionRegistry.tickets_restore hk), fun k u s hk => ?_, h.once⟩
    · change (x.registrar.sessions.restore token session).tokens.get? t = some s at ht
      rw [SessionRegistry.tokens_restore] at ht
      split at ht
      · next heq' =>
        cases ht
        rw [heq']
        exact h.closing id token session hp
      · exact h.live t s ht
    · obtain ⟨hnone, e, he⟩ := h.consumed k u s hk
      refine ⟨?_, e, he⟩
      show (x.registrar.sessions.restore token session).websocketTickets.get? k = none
      cases hget : (x.registrar.sessions.restore token session).websocketTickets.get? k with
      | none => rfl
      | some v =>
        have := SessionRegistry.tickets_restore hget
        rw [hnone] at this
        cases this
  · rw [heq]
    exact h.fewer _ x.history.ended hi hf (fun k p hk => .inl (hpend k p hk)) (by rw [hd])
      (by rw [hc])

theorem kept_readRaises {x : Watched} (h : Kept x) (id : Nat) :
    Kept (watch runId sessionTtlS x (.readRaises id)) := by
  have hsub : ∀ k p, (x.registrar.onReadRaises id).1.pending.get? k = some p →
      x.registrar.pending.get? k = some p ∨ p.Plain := by
    intro k p hk
    unfold Registrar.onReadRaises at hk
    split at hk
    · exact .inl (pending_resume hk)
    · exact .inl (pending_resume hk)
    · exact .inl hk
  have hsame : (x.registrar.onReadRaises id).1.sessions = x.registrar.sessions ∧
      (x.registrar.onReadRaises id).1.draws = x.registrar.draws ∧
      (x.registrar.onReadRaises id).1.calls = x.registrar.calls := by
    unfold Registrar.onReadRaises
    split <;> exact ⟨rfl, rfl, rfl⟩
  exact h.fewer (x.registrar.onReadRaises id).1 x.history.ended
    (by rw [hsame.1]; exact h.index) (by rw [hsame.1]; exact SessionRegistry.Fewer.refl _) hsub
    hsame.2.1.ge hsame.2.2.ge

omit [RegistrarDeps] in
theorem ask_fst {α : Type} (g : Registrar) (q : EStateM GatewayFault SessionRegistry α)
    (reply : α → Reply) :
    (g.ask q reply).1 = { g with sessions := stateAfter (q g.sessions) } := by
  unfold Registrar.ask
  cases q g.sessions <;> rfl

theorem kept_resolve {x : Watched} (h : Kept x) (token : String) (unixMs tick : Int) :
    Kept (watch runId sessionTtlS x (.resolve token unixMs tick)) := by
  obtain ⟨hi, hf, _⟩ := SessionRegistry.resolve_spec h.index token unixMs tick
  show Kept ⟨(x.registrar.ask (SessionRegistry.resolve token unixMs tick) .session).1, x.history⟩
  rw [ask_fst]
  exact h.fewer _ x.history.ended hi hf (fun _ _ hk => .inl hk) le_rfl le_rfl

theorem kept_issueTicket (hfresh : ∀ n, Function.Injective fun k => RegistrarDeps.tokenUrlsafe k n)
    {x : Watched} (h : Kept x) (token : String) (reapNow now : Int) :
    Kept (watch runId sessionTtlS x (.issueTicket token reapNow now)) := by
  generalize hvalue : RegistrarDeps.tokenUrlsafe x.registrar.draws 24 = value
  obtain ⟨hi, hf, ht⟩ := SessionRegistry.issueWebsocketTicket_spec h.index token value reapNow now
  have hnew : x.history.issued.get? value = none := by
    cases hiss : x.history.issued.get? value with
    | none => rfl
    | some e =>
      obtain ⟨j, hj, heq⟩ := h.issued value e hiss
      have := hfresh 24 (hvalue.trans heq)
      omega
  have hgone : x.registrar.sessions.websocketTickets.get? value = none := by
    cases hget : x.registrar.sessions.websocketTickets.get? value with
    | none => rfl
    | some v =>
      have := h.tickets value v hget
      rw [hnew] at this
      cases this
  have hstep : watch runId sessionTtlS x (.issueTicket token reapNow now) =
      ⟨{ x.registrar with
          draws := x.registrar.draws + 1
          sessions := stateAfter (SessionRegistry.issueWebsocketTicket token value reapNow now
            x.registrar.sessions) },
        match SessionRegistry.issueWebsocketTicket token value reapNow now x.registrar.sessions with
        | .ok t _ => { x.history with issued := x.history.issued.put t.1 t.2 }
        | .error _ _ => x.history⟩ := by
    simp only [watch, Registrar.step, hvalue, Registrar.ask, History.next]
    cases SessionRegistry.issueWebsocketTicket token value reapNow now x.registrar.sessions <;> rfl
  rw [hstep]
  cases hres : SessionRegistry.issueWebsocketTicket token value reapNow now x.registrar.sessions with
  | error e r =>
    rw [hres] at hi hf ht
    refine h.fewer _ x.history.ended hi ⟨hf, fun k v hk => ?_⟩ (fun _ _ hk => .inl hk)
      (Nat.le_succ _) le_rfl
    rcases ht k v hk with hold | ⟨_, r', hr'⟩
    · exact hold
    · cases hr'
  | ok t r =>
    rw [hres] at hi hf ht
    have ht1 : t.1 = value := by
      unfold SessionRegistry.issueWebsocketTicket at hres
      simp only at hres
      split at hres
      · cases hres
      · cases hres
        rfl
    refine ⟨hi, fun t' s ht' => h.live t' s (hf t' s ht'), h.closing, h.reading, h.numbered,
      fun t' c hc => (h.opened t' c hc).mono (Nat.le_succ _), fun k e hk => ?_, fun k v hk => ?_,
      fun k u s hk => ?_, h.once⟩
    · change (x.history.issued.put t.1 t.2).get? k = some e at hk
      rw [Dict.get?_put, ht1] at hk
      split at hk
      · next heq => exact ⟨x.registrar.draws, Nat.lt_succ_self _, heq.trans hvalue.symm⟩
      · exact (h.issued k e hk).mono (Nat.le_succ _)
    · show (x.history.issued.put t.1 t.2).get? k = some v.2
      rw [Dict.get?_put, ht1]
      rcases ht k v hk with hold | ⟨heq, r', hr'⟩
      · rw [if_neg (fun heq => by rw [heq, hgone] at hold; cases hold)]
        exact h.tickets k v hold
      · rw [if_pos heq]
        cases hr'
        rfl
    · obtain ⟨hnone, e, he, hlt⟩ := h.consumed k u s hk
      have hne : k ≠ value := by
        intro heq
        rw [heq, hnew] at he
        cases he
      refine ⟨?_, e, ?_, hlt⟩
      · cases hget : r.websocketTickets.get? k with
        | none => exact hget
        | some v =>
          rcases ht k v hget with hold | ⟨heq, _⟩
          · rw [hnone] at hold
            cases hold
          · exact absurd heq hne
      · show (x.history.issued.put t.1 t.2).get? k = some e
        rw [ht1, Dict.get?_put_of_ne hne]
        exact he

theorem kept_consumeTicket {x : Watched} (h : Kept x) (ticket : String) (unixMs tick : Int) :
    Kept (watch runId sessionTtlS x (.consumeTicket ticket unixMs tick)) := by
  obtain ⟨hi, hf, hgone, hok⟩ :=
    SessionRegistry.consumeWebsocketTicket_spec h.index ticket unixMs tick
  have hstep : watch runId sessionTtlS x (.consumeTicket ticket unixMs tick) =
      ⟨{ x.registrar with
          sessions := stateAfter (SessionRegistry.consumeWebsocketTicket ticket unixMs tick
            x.registrar.sessions) },
        match SessionRegistry.consumeWebsocketTicket ticket unixMs tick x.registrar.sessions with
        | .ok s _ => { x.history with consumed := x.history.consumed ++ [(ticket, unixMs, s)] }
        | .error _ _ => x.history⟩ := by
    simp only [watch, Registrar.step, Registrar.ask, History.next]
    cases SessionRegistry.consumeWebsocketTicket ticket unixMs tick x.registrar.sessions <;> rfl
  have hrest := h.fewer { x.registrar with
      sessions := stateAfter (SessionRegistry.consumeWebsocketTicket ticket unixMs tick
        x.registrar.sessions) }
    x.history.ended hi hf (fun _ _ hk => .inl hk) le_rfl le_rfl
  rw [hstep]
  cases hres : SessionRegistry.consumeWebsocketTicket ticket unixMs tick x.registrar.sessions with
  | error e r =>
    rw [hres] at hrest
    exact hrest
  | ok s r =>
    rw [hres] at hrest hgone
    obtain ⟨token, e, hin, hlt, _, hexp⟩ := hok s r hres
    refine ⟨hrest.index, hrest.live, hrest.closing, hrest.reading, hrest.numbered, hrest.opened,
      hrest.issued, hrest.tickets, fun k u s' hk => ?_, ?_⟩
    · rcases List.mem_append.mp hk with hold | hnew
      · exact hrest.consumed k u s' hold
      · cases List.mem_singleton.mp hnew
        exact ⟨hgone, e, h.tickets ticket (token, e) hin, hlt, hexp⟩
    · show ((x.history.consumed ++ [(ticket, unixMs, s)]).map Prod.fst).Nodup
      rw [List.map_append, List.nodup_append]
      refine ⟨h.once, by simp, fun k hk k' hk' heq => ?_⟩
      obtain ⟨⟨k₀, u, s'⟩, hmem, rfl⟩ := List.mem_map.mp hk
      have hspent := (h.consumed k₀ u s' hmem).1
      simp only [List.map_cons, List.map_nil, List.mem_singleton] at hk'
      rw [show k₀ = ticket from heq.trans hk', hin] at hspent
      cases hspent

theorem step_kept (hfresh : ∀ n, Function.Injective fun k => RegistrarDeps.tokenUrlsafe k n)
    {x : Watched} (h : Kept x) (st : Step) : Kept (watch runId sessionTtlS x st) := by
  cases st with
  | openSession call => exact kept_openSession h call
  | closeSession token => exact kept_closeSession h token
  | endCall call => exact kept_endCall h call
  | read id record now => exact kept_read hfresh h id record now
  | readRaises id => exact kept_readRaises h id
  | pushed id outcome => exact kept_pushed h id outcome
  | resolve token unixMs tick => exact kept_resolve h token unixMs tick
  | issueTicket token reapNow now => exact kept_issueTicket hfresh h token reapNow now
  | consumeTicket ticket unixMs tick => exact kept_consumeTicket h ticket unixMs tick

/-! ## Finality -/

/-- A token opened for a request received before a revocation or departure of
its agent returned. -/
def Ended (h : History) (token : String) : Prop :=
  ∃ c, h.opened.get? token = some c ∧ c ∈ h.ended

/-- No token of an ended request resolves, and no ticket for one. -/
structure Final (x : Watched) : Prop where
  tokens : ∀ t, Ended x.history t → ∀ unixMs tick s r,
    SessionRegistry.resolve t unixMs tick x.registrar.sessions ≠ .ok s r
  tickets : ∀ k t e, x.registrar.sessions.websocketTickets.get? k = some (t, e) →
    Ended x.history t → ∀ unixMs tick s r,
      SessionRegistry.consumeWebsocketTicket k unixMs tick x.registrar.sessions ≠ .ok s r

variable (runId sessionTtlS) in
/-- The steps that bring no ended request back: an admission read does not
admit one, and a push whose failure is handled restores no session of one. -/
def Timely (x : Watched) : Step → Prop
  | .read id record now => id ∈ x.history.ended → ∀ call,
      x.registrar.pending.get? id = some (.openRead call) →
      ¬ Admits runId sessionTtlS x.registrar call record now
  | .pushed id outcome => ∀ token session,
      x.registrar.pending.get? id = some (.closePush token session) →
      outcome.handled = true → ¬ Ended x.history token
  | _ => True

omit [RegistrarDeps] in
theorem final_of_gone {x : Watched}
    (h : ∀ t, Ended x.history t → x.registrar.sessions.tokens.get? t = none) : Final x := by
  constructor
  · intro t ht unixMs tick s r hok
    rw [SessionRegistry.resolve_none (h t ht)] at hok
    cases hok
  · intro k t e hk ht unixMs tick s r hok
    unfold SessionRegistry.consumeWebsocketTicket at hok
    simp only [hk] at hok
    split at hok
    · cases hok
    · have hnone := SessionRegistry.resolve_none (r := { x.registrar.sessions with
        websocketTickets := x.registrar.sessions.websocketTickets.erase k }) (h t ht) unixMs tick
      cases hnone.symm.trans hok

theorem final_iff {x : Watched} (h : Kept x) :
    Final x ↔ ∀ t, Ended x.history t → x.registrar.sessions.tokens.get? t = none := by
  refine ⟨fun hf t ht => ?_, final_of_gone⟩
  cases hs : x.registrar.sessions.tokens.get? t with
  | none => rfl
  | some s =>
    obtain ⟨unixMs, tick, hok⟩ := SessionRegistry.resolve_live hs (h.live t s hs).1
    exact absurd hok (hf.tokens t ht unixMs tick s _)

omit [RegistrarDeps] in
theorem gone_of_fewer {x : Watched} (x' : Watched)
    (h : ∀ t, Ended x.history t → x.registrar.sessions.tokens.get? t = none)
    (hopened : x'.history.opened = x.history.opened) (hended : x'.history.ended = x.history.ended)
    (htok : ∀ t s, x'.registrar.sessions.tokens.get? t = some s →
      x.registrar.sessions.tokens.get? t = some s) :
    ∀ t, Ended x'.history t → x'.registrar.sessions.tokens.get? t = none := by
  rintro t ⟨c, hc, hin⟩
  rw [hopened] at hc
  rw [hended] at hin
  cases hs : x'.registrar.sessions.tokens.get? t with
  | none => rfl
  | some s =>
    have := htok t s hs
    rw [h t ⟨c, hc, hin⟩] at this
    cases this

theorem final_read (hfresh : ∀ n, Function.Injective fun k => RegistrarDeps.tokenUrlsafe k n)
    {x : Watched} (h : Kept x)
    (hg : ∀ t, Ended x.history t → x.registrar.sessions.tokens.get? t = none) {id : Nat}
    {record : Option Admission} {now : Readings}
    (ht : Timely runId sessionTtlS x (.read id record now)) :
    ∀ t, Ended (watch runId sessionTtlS x (.read id record now)).history t →
      (watch runId sessionTtlS x (.read id record now)).registrar.sessions.tokens.get? t = none := by
  rcases read_cases runId sessionTtlS x id record now with
    ⟨call, d, pubkey, transport, hp, hadm, heq⟩ | ⟨_, g, heq, hs, _⟩
  · rw [heq]
    have hnot : id ∉ x.history.ended := fun hin => ht hin call hp hadm
    obtain ⟨hnew, _⟩ := h.fresh hfresh (Nat.le_succ x.registrar.draws)
    rintro t ⟨c, hc, hin⟩
    change (x.history.opened.put _ id).get? t = some c at hc
    rw [Dict.get?_put] at hc
    split at hc
    · -- the new token: its request is not an ended one
      cases hc
      exact absurd hin hnot
    · next hne =>
      cases hs : (x.opening id d now.reapNow (sessionOf call pubkey transport now.serverNow
          x.registrar.draws) call.sigHex).registrar.sessions.tokens.get? t with
      | none => rfl
      | some s =>
        rcases SessionRegistry.tokens_openToken h.index hs with ⟨heq', _⟩ | ⟨_, hold⟩
        · exact absurd heq' hne
        · rw [hg t ⟨c, hc, hin⟩] at hold
          cases hold
  · rw [heq]
    exact gone_of_fewer ⟨g, x.history⟩ hg rfl rfl fun t s hs' => by rwa [hs] at hs'

theorem final_pushed {x : Watched} (h : Kept x)
    (hg : ∀ t, Ended x.history t → x.registrar.sessions.tokens.get? t = none) {id : Nat}
    {outcome : PushOutcome} (ht : Timely runId sessionTtlS x (.pushed id outcome)) :
    ∀ t, Ended (watch runId sessionTtlS x (.pushed id outcome)).history t →
      (watch runId sessionTtlS x (.pushed id outcome)).registrar.sessions.tokens.get? t = none := by
  rcases pushed_cases runId sessionTtlS h id outcome with
    ⟨call, tick, _, _, heq⟩ | ⟨token, session, hp, hh, heq⟩ | ⟨_, g, heq, _, hf, _⟩
  · rw [heq]
    obtain ⟨_, hf, hgone⟩ := SessionRegistry.closeAgent_spec h.index call.agentId
    rintro t ⟨c, hc, hin⟩
    show (x.registrar.sessions.closeAgent call.agentId).tokens.get? t = none
    cases hs : (x.registrar.sessions.closeAgent call.agentId).tokens.get? t with
    | none => rfl
    | some s =>
      have hlive := hf.tokens t s hs
      rcases List.mem_append.mp hin with hold | hnew
      · rw [hg t ⟨c, hc, hold⟩] at hlive
        cases hlive
      · -- a request of the agent that is ended now: its session was closed
        obtain ⟨e, he, rfl⟩ := List.mem_map.mp hnew
        obtain ⟨hmem, hagent⟩ := List.mem_filter.mp he
        obtain ⟨_, c', hc', hrec⟩ := h.live t s hlive
        change x.history.opened.get? t = some e.1 at hc
        rw [hc'] at hc
        cases hc
        have hrec' : x.history.received.get? e.1 = some e.2 := Dict.mem_entries_iff.mp hmem
        rw [hrec'] at hrec
        have hsame : e.2 = s.agentId := Option.some.inj hrec
        exact absurd (hsame.symm.trans (of_decide_eq_true hagent)) (hgone t s hs)
  · rw [heq]
    rintro t hended
    show (x.registrar.sessions.restore token session).tokens.get? t = none
    have hnot : ¬ Ended x.history token := ht token session hp hh
    have hne : t ≠ token := by
      intro heq'
      rw [heq'] at hended
      exact hnot hended
    rw [SessionRegistry.tokens_restore, if_neg hne]
    exact hg t hended
  · rw [heq]
    exact gone_of_fewer ⟨g, x.history⟩ hg rfl rfl hf.tokens

theorem final_step (hfresh : ∀ n, Function.Injective fun k => RegistrarDeps.tokenUrlsafe k n)
    {x : Watched} (h : Kept x) (hf : Final x) {st : Step}
    (ht : Timely runId sessionTtlS x st) : Final (watch runId sessionTtlS x st) := by
  have hg := (final_iff h).mp hf
  refine final_of_gone ?_
  cases st with
  | openSession call => exact gone_of_fewer _ hg rfl rfl fun _ _ hs => hs
  | closeSession token =>
    have hsess : (x.registrar.closeSession token).1.sessions =
        x.registrar.sessions.close token := by
      unfold Registrar.closeSession
      cases x.registrar.sessions.tokens.get? token <;> rfl
    refine gone_of_fewer _ hg rfl rfl fun t s hs => ?_
    change (x.registrar.closeSession token).1.sessions.tokens.get? t = some s at hs
    rw [hsess] at hs
    exact (SessionRegistry.close_fewer _ token).tokens t s hs
  | endCall call => exact gone_of_fewer _ hg rfl rfl fun _ _ hs => hs
  | read id record now => exact final_read hfresh h hg ht
  | readRaises id =>
    refine gone_of_fewer _ hg rfl rfl fun t s hs => ?_
    change (x.registrar.onReadRaises id).1.sessions.tokens.get? t = some s at hs
    unfold Registrar.onReadRaises at hs
    split at hs <;> exact hs
  | pushed id outcome => exact final_pushed h hg ht
  | resolve token unixMs tick =>
    refine gone_of_fewer _ hg rfl rfl fun t s hs => ?_
    change (x.registrar.ask _ _).1.sessions.tokens.get? t = some s at hs
    rw [ask_fst] at hs
    exact (SessionRegistry.resolve_spec h.index token unixMs tick).2.1.tokens t s hs
  | issueTicket token reapNow now =>
    have hhist : (watch runId sessionTtlS x (.issueTicket token reapNow now)).history.opened =
          x.history.opened ∧
        (watch runId sessionTtlS x (.issueTicket token reapNow now)).history.ended =
          x.history.ended := by
      simp only [watch, History.next]
      split <;> exact ⟨rfl, rfl⟩
    refine gone_of_fewer _ hg hhist.1 hhist.2 fun t s hs => ?_
    change (Registrar.ask _ _ _).1.sessions.tokens.get? t = some s at hs
    rw [ask_fst] at hs
    exact (SessionRegistry.issueWebsocketTicket_spec h.index token _ reapNow now).2.1 t s hs
  | consumeTicket ticket unixMs tick =>
    have hhist : (watch runId sessionTtlS x (.consumeTicket ticket unixMs tick)).history.opened =
          x.history.opened ∧
        (watch runId sessionTtlS x (.consumeTicket ticket unixMs tick)).history.ended =
          x.history.ended := by
      simp only [watch, History.next]
      split <;> exact ⟨rfl, rfl⟩
    refine gone_of_fewer _ hg hhist.1 hhist.2 fun t s hs => ?_
    change (Registrar.ask _ _ _).1.sessions.tokens.get? t = some s at hs
    rw [ask_fst] at hs
    exact (SessionRegistry.consumeWebsocketTicket_spec h.index ticket unixMs tick).2.1.tokens t s hs

theorem untimely_step (hfresh : ∀ n, Function.Injective fun k => RegistrarDeps.tokenUrlsafe k n)
    {x : Watched} (h : Kept x) {st : Step} (ht : ¬ Timely runId sessionTtlS x st) :
    ¬ Final (watch runId sessionTtlS x st) := by
  intro hf
  have hg := (final_iff (step_kept hfresh h st)).mp hf
  cases st with
  | read id record now =>
    simp only [Timely, not_forall, not_not] at ht
    obtain ⟨hin, call, hp, hadm⟩ := ht
    rcases read_cases runId sessionTtlS x id record now with
      ⟨call', d, pubkey, transport, hp', _, heq⟩ | ⟨hnot, _⟩
    · rw [heq] at hg
      have := hg (RegistrarDeps.tokenUrlsafe (x.registrar.draws + 1) 32)
        ⟨id, Dict.get?_put_self _ _ _, hin⟩
      simp only [Watched.opening, SessionRegistry.openToken, SessionRegistry.add,
        Dict.get?_put_self] at this
      cases this
    · exact hnot call hp hadm
  | pushed id outcome =>
    simp only [Timely, not_forall, not_not] at ht
    obtain ⟨token, session, hp, hh, hended⟩ := ht
    rcases pushed_cases runId sessionTtlS h id outcome with
      ⟨call, tick, hp', _⟩ | ⟨token', session', hp', _, heq⟩ | ⟨hnot, _⟩
    · rw [hp] at hp'
      cases hp'
    · rw [hp] at hp'
      cases hp'
      rw [heq] at hg
      have := hg token hended
      change (x.registrar.sessions.restore token session).tokens.get? token = none at this
      rw [SessionRegistry.tokens_restore, if_pos rfl] at this
      cases this
    · rw [hnot token session hp] at hh
      cases hh
  | openSession _ => exact ht trivial
  | closeSession _ => exact ht trivial
  | endCall _ => exact ht trivial
  | readRaises _ => exact ht trivial
  | resolve _ _ _ => exact ht trivial
  | issueTicket _ _ _ => exact ht trivial
  | consumeTicket _ _ _ => exact ht trivial

/-! ## Runs -/

variable (runId sessionTtlS) in
/-- The state after some steps. -/
def runOf (x : Watched) (steps : List Step) : Watched := steps.foldl (watch runId sessionTtlS) x

variable (runId sessionTtlS) in
theorem runOf_kept (hfresh : ∀ n, Function.Injective fun k => RegistrarDeps.tokenUrlsafe k n)
    {x : Watched} (h : Kept x) (steps : List Step) : Kept (runOf runId sessionTtlS x steps) :=
  Along.invariant (Q := fun _ _ => True) (I := Kept)
    (fun _ st hx _ => step_kept hfresh hx st) (along_of_forall (fun _ _ => trivial) x steps) h

theorem final_run (hfresh : ∀ n, Function.Injective fun k => RegistrarDeps.tokenUrlsafe k n)
    {x : Watched} (h : Kept x) (hf : Final x) (steps : List Step) :
    (∀ p, p <+: steps → Final (runOf runId sessionTtlS x p)) ↔
      Along (watch runId sessionTtlS) (Timely runId sessionTtlS) x steps := by
  induction steps generalizing x with
  | nil =>
    refine ⟨fun _ => trivial, fun _ p hp => ?_⟩
    rw [List.prefix_nil.mp hp]
    exact hf
  | cons st steps ih =>
    constructor
    · intro hall
      have hnext : Final (watch runId sessionTtlS x st) :=
        hall [st] ⟨steps, rfl⟩
      refine ⟨by_contra fun hnot => untimely_step hfresh h hnot hnext, ?_⟩
      refine (ih (step_kept hfresh h st) hnext).mp fun p hp => ?_
      exact hall (st :: p) ((List.cons_prefix_cons).mpr ⟨rfl, hp⟩)
    · rintro ⟨ht, hrest⟩ p hp
      cases p with
      | nil => exact hf
      | cons st' p =>
        obtain ⟨rfl, hp'⟩ := List.cons_prefix_cons.mp hp
        exact (ih (step_kept hfresh h st') (final_step hfresh h hf ht)).mpr hrest p hp'

/-- **Revocation at the gateway.**  In every state of every run `_by_agent`
lists the tokens of `_tokens`, a ticket resolves once at most, and only before
its expiry and its session's.  Revocation is final in every state of a run
exactly when every step is timely. -/
theorem revocation_final_iff (runId : RunId) (sessionTtlS : Int)
    (hfresh : ∀ n, Function.Injective fun k => RegistrarDeps.tokenUrlsafe k n)
    (steps : List Step) :
    (∀ p, p <+: steps →
      (runOf runId sessionTtlS {} p).registrar.sessions.Index ∧
      ((runOf runId sessionTtlS {} p).history.consumed.map Prod.fst).Nodup ∧
      ∀ k u s, (k, u, s) ∈ (runOf runId sessionTtlS {} p).history.consumed →
        ∃ e, (runOf runId sessionTtlS {} p).history.issued.get? k = some e ∧
          u < e ∧ u < s.expiresUnixMs) ∧
    ((∀ p, p <+: steps → Final (runOf runId sessionTtlS {} p)) ↔
      Along (watch runId sessionTtlS) (Timely runId sessionTtlS) {} steps) := by
  constructor
  · intro p _
    have h := runOf_kept runId sessionTtlS hfresh kept_init p
    exact ⟨h.index, h.once, fun k u s hk => (h.consumed k u s hk).2⟩
  · refine final_run hfresh kept_init (final_of_gone ?_) steps
    rintro t ⟨c, hc, _⟩
    cases hc

end Watching

/-! ## A session that comes back -/

/-- Every signature verifies; draws differ in their length. -/
abbrev sampleRegistrarDeps : RegistrarDeps where
  verify := fun _ _ _ => true
  tokenHex := fun n bytes => String.ofList (List.replicate (n + bytes) 'a')
  tokenUrlsafe := fun n bytes => String.ofList (List.replicate (n + bytes) 'A')

theorem sampleRegistrarDeps_fresh (n : Nat) :
    Function.Injective fun k => sampleRegistrarDeps.tokenUrlsafe k n := by
  intro j k h
  have hlen : (List.replicate (j + n) 'A').length = (List.replicate (k + n) 'A').length :=
    congrArg List.length (String.ofList_injective h)
  rw [List.length_replicate, List.length_replicate] at hlen
  exact Nat.add_right_cancel hlen

/-- All clock readings at one second, in tick 5. -/
def atOneSecond : Readings := ⟨1000, 1000, 1000, 5⟩

/-- The record of an agent that was admitted and not revoked. -/
def admittedRecord : Admission := ⟨"pk", none⟩

/-- A session is opened; its closing awaits its push while the agent is
revoked; then that push fails. -/
def closingRun : List Step := [
  .openSession ⟨zeroKeyAgent, 60, "s1", none, "rest", 1000, "sdk"⟩,
  .read 0 (some admittedRecord) atOneSecond,
  .pushed 0 .ok,
  .closeSession (sampleRegistrarDeps.tokenUrlsafe 1 32),
  .endCall ⟨.revoke, zeroKeyAgent, "lost key", "s2", 1000⟩,
  .read 2 (some admittedRecord) atOneSecond,
  .pushed 2 .ok,
  .pushed 1 .io]

theorem revocation_final_iff_closing :
    let _ : RegistrarDeps := sampleRegistrarDeps
    (∀ p, p <+: closingRun →
      (runOf 0 3600 {} p).registrar.sessions.Index ∧
      ((runOf 0 3600 {} p).history.consumed.map Prod.fst).Nodup ∧
      ∀ k u s, (k, u, s) ∈ (runOf 0 3600 {} p).history.consumed →
        ∃ e, (runOf 0 3600 {} p).history.issued.get? k = some e ∧ u < e ∧ u < s.expiresUnixMs) ∧
    ((∀ p, p <+: closingRun → Final (runOf 0 3600 {} p)) ↔
      Along (watch 0 3600) (Timely 0 3600) {} closingRun) := by
  intro _
  exact revocation_final_iff 0 3600 sampleRegistrarDeps_fresh closingRun

theorem closing_restores :
    let _ : RegistrarDeps := sampleRegistrarDeps
    Ended (runOf 0 3600 {} closingRun).history (sampleRegistrarDeps.tokenUrlsafe 1 32) ∧
      (∃ s r, SessionRegistry.resolve (sampleRegistrarDeps.tokenUrlsafe 1 32) 2000 6
        (runOf 0 3600 {} closingRun).registrar.sessions = .ok s r) ∧
      ¬ Final (runOf 0 3600 {} closingRun) := by
  intro _
  have hended : Ended (runOf 0 3600 {} closingRun).history (sampleRegistrarDeps.tokenUrlsafe 1 32) :=
    ⟨0, by decide +kernel, by decide +kernel⟩
  have heval : (outcome (SessionRegistry.resolve (sampleRegistrarDeps.tokenUrlsafe 1 32) 2000 6
      (runOf 0 3600 {} closingRun).registrar.sessions) fun _ => ()).isSome = true := by
    decide +kernel
  cases hres : SessionRegistry.resolve (sampleRegistrarDeps.tokenUrlsafe 1 32) 2000 6
      (runOf 0 3600 {} closingRun).registrar.sessions with
  | ok s r => exact ⟨hended, ⟨s, r, rfl⟩, fun h => h.tokens _ hended _ _ s r hres⟩
  | error e r =>
    rw [hres] at heval
    cases heval

end Polis.Gateway
