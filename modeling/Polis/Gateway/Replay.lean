/-
  Polis.Gateway.Replay — whole runs of the verifier: any sequence of `check`,
  `commit` and `rollback` calls, a call that raises being caught.

  A submission is live until a rollback that finds a reservation takes it
  back.  A reservation remembers the nonce before its own, so the nonces kept
  live stay below the next one whatever the order of rollbacks.

  Main results:
    * `Guarded.call` — what one call preserves.
    * `external_actions_once` — live nonces of an agent rise strictly, a
      rollback gives back one submission, a check that raises takes nothing.
    * `external_actions_fail` — a check that raises drops stale reservations;
      after an eviction a rollback can take back another submission.
-/
import Polis.Gateway.Verifier
import Polis.Lib.Runs

namespace Polis.Gateway

open Lib Lib.Effect Lib.Runs
open Polis.Events (RunId)

/-! ## Calls -/

/-- One call; a submission is named by the order it was accepted in. -/
inductive VerifierCall (J : Type) where
  | check (r : Arrival J)
  | commit (i : Nat)
  | rollback (i : Nat)

/-- A submission `check` returned. -/
structure Entry where
  agentId : String
  actionId : RunId
  nonce : Int
  /-- A rollback found its reservation. -/
  rolledBack : Bool := false
  deriving Repr, DecidableEq

/-- The verifier and every submission it accepted, in order. -/
structure Desk where
  verifier : Verifier
  accepted : List Entry := []

/-- A verifier that has accepted nothing yet. -/
def Desk.start (nonces : NonceStore) (seen : ActionIdLRU) (limits : LimitSet) : Desk :=
  { verifier := { nonces, seen, limits } }

section Calls

variable {J : Type} [GatewayDeps J] (cfg : VerifierConfig J)

/-- The desk after a rollback of the submission `e`, the `i`-th. -/
def Desk.rollback (w : Desk) (i : Nat) (e : Entry) : Desk :=
  { verifier := w.verifier.rollback cfg e.actionId
    accepted :=
      if w.verifier.reservations.contains e.actionId then
        w.accepted.set i { e with rolledBack := true }
      else w.accepted }

/-- One call, returned or raised. -/
def Desk.call (w : Desk) : VerifierCall J → Desk
  | .check r =>
    match check cfg r w.verifier with
    | .ok sub v =>
      { verifier := v
        accepted := w.accepted ++
          [{ agentId := sub.agentId, actionId := sub.actionId, nonce := sub.nonce }] }
    | .error _ v => { w with verifier := v }
  | .commit i =>
    match w.accepted[i]? with
    | none => w
    | some e => { w with verifier := w.verifier.commit e.actionId }
  | .rollback i =>
    match w.accepted[i]? with
    | none => w
    | some e => w.rollback cfg i e

/-- Any sequence of calls. -/
def Desk.run (w : Desk) (calls : List (VerifierCall J)) : Desk := calls.foldl (Desk.call cfg) w

section Equations

variable {cfg} {w : Desk} {i : Nat} {e : Entry}

theorem Desk.call_commit_none (he : w.accepted[i]? = none) : w.call cfg (.commit i) = w := by
  simp only [Desk.call, he]

theorem Desk.call_commit (he : w.accepted[i]? = some e) :
    w.call cfg (.commit i) = { w with verifier := w.verifier.commit e.actionId } := by
  simp only [Desk.call, he]

theorem Desk.call_rollback_none (he : w.accepted[i]? = none) : w.call cfg (.rollback i) = w := by
  simp only [Desk.call, he]

theorem Desk.call_rollback (he : w.accepted[i]? = some e) :
    w.call cfg (.rollback i) = w.rollback cfg i e := by
  simp only [Desk.call, he]

end Equations

omit [GatewayDeps J] in
/-- No submission accepted after the `i`-th holds the reservation that a
rollback of the `i`-th would find. -/
def Owned (w : Desk) (i : Nat) : Bool :=
  match w.accepted[i]? with
  | none => true
  | some e => !w.verifier.reservations.contains e.actionId ||
      (w.accepted.drop (i + 1)).all fun f => decide (f.actionId ≠ e.actionId)

omit [GatewayDeps J] in
/-- A rollback finds its own reservation or none. -/
def Own (w : Desk) : VerifierCall J → Prop
  | .rollback i => Owned w i = true
  | _ => True

omit [GatewayDeps J] in
instance (w : Desk) : (c : VerifierCall J) → Decidable (Own w c)
  | .check _ => isTrue trivial
  | .commit _ => isTrue trivial
  | .rollback i => inferInstanceAs (Decidable (Owned w i = true))

end Calls

/-! ## The invariant -/

/-- Accepted submissions are below the next nonce of their agent, in rising
order, and every reservation belongs to the last submission of its id. -/
structure Guarded (w : Desk) : Prop where
  nonneg : ∀ (i : Nat) (e : Entry), w.accepted[i]? = some e → 0 ≤ e.nonce
  below : ∀ (i : Nat) (e : Entry), w.accepted[i]? = some e → e.rolledBack = false →
    e.nonce < w.verifier.nonces.nextNonce e.agentId
  rising : ∀ (i j : Nat) (e f : Entry), w.accepted[i]? = some e → w.accepted[j]? = some f → i < j →
    e.rolledBack = false → f.rolledBack = false → e.agentId = f.agentId → e.nonce < f.nonce
  held : ∀ actionId res, w.verifier.reservations.get? actionId = some res →
    ∃ (i : Nat) (e : Entry), w.accepted[i]? = some e ∧ e.actionId = actionId ∧ e.agentId = res.agentId ∧
      e.nonce = res.nonce ∧ e.rolledBack = false ∧
      (∀ (j : Nat) (f : Entry), w.accepted[j]? = some f → f.actionId = actionId → j ≤ i) ∧
      (∀ (j : Nat) (f : Entry), w.accepted[j]? = some f → j < i → f.rolledBack = false →
        f.agentId = res.agentId → f.nonce < res.previous.getD (-1) + 1)

theorem guarded_start (nonces : NonceStore) (seen : ActionIdLRU) (limits : LimitSet) :
    Guarded (Desk.start nonces seen limits) where
  nonneg := by simp [Desk.start]
  below := by simp [Desk.start]
  rising := by simp [Desk.start]
  held := by simp [Desk.start]

theorem getElem?_concat_eq_some {α : Type} {l : List α} {a x : α} {j : Nat} :
    (l ++ [a])[j]? = some x ↔ l[j]? = some x ∨ (j = l.length ∧ a = x) := by
  rcases Nat.lt_trichotomy j l.length with hj | hj | hj
  · rw [List.getElem?_append_left hj]
    constructor
    · exact fun h => .inl h
    · rintro (h | ⟨h, -⟩)
      · exact h
      · omega
  · subst hj
    simp
  · rw [List.getElem?_eq_none (by simp; omega), List.getElem?_eq_none (by omega)]
    constructor
    · intro h; cases h
    · rintro (h | ⟨h, -⟩)
      · cases h
      · omega

theorem getElem?_set_eq_some {α : Type} {l : List α} {a x : α} {i j : Nat}
    (h : (l.set i a)[j]? = some x) : (j ≠ i ∧ l[j]? = some x) ∨ (j = i ∧ x = a) := by
  by_cases hj : j = i
  · subst hj
    have hlt : j < (l.set j a).length := by
      by_contra hge
      rw [List.getElem?_eq_none (by omega)] at h
      cases h
    rw [List.length_set] at hlt
    rw [List.getElem?_set_self hlt] at h
    exact .inr ⟨rfl, (Option.some.inj h).symm⟩
  · rw [List.getElem?_set_ne (Ne.symm hj)] at h
    exact .inl ⟨hj, h⟩

theorem Guarded.drop {w : Desk} {v' : Verifier} (h : Guarded w)
    (hn : v'.nonces = w.verifier.nonces)
    (hr : ∀ actionId res, v'.reservations.get? actionId = some res →
      w.verifier.reservations.get? actionId = some res) :
    Guarded { w with verifier := v' } where
  nonneg := h.nonneg
  below := fun i e he hlive => by
    show _ < v'.nonces.nextNonce e.agentId
    rw [hn]
    exact h.below i e he hlive
  rising := h.rising
  held := fun actionId res hres => h.held actionId res (hr actionId res hres)

theorem get?_purgeStale {v : Verifier} {tick : Int} (actionId : RunId) :
    (v.purgeStale tick).reservations.get? actionId
      = (v.reservations.get? actionId).filter fun res => decide ¬ res.tick < tick :=
  Dict.get?_filterValues ..

theorem of_get?_purgeStale {v : Verifier} {tick : Int} {actionId : RunId} {res : Reservation}
    (h : (v.purgeStale tick).reservations.get? actionId = some res) :
    v.reservations.get? actionId = some res := by
  rw [get?_purgeStale] at h
  exact (Option.filter_eq_some_iff.mp h).1

section Steps

variable {J : Type} [GatewayDeps J] {cfg : VerifierConfig J} {w : Desk}

omit [GatewayDeps J] in
theorem Guarded.taken {sub : VerifiedSubmission J} {tick : Int} {v' : Verifier} (h : Guarded w)
    (ht : Taken cfg sub tick w.verifier v') :
    Guarded { verifier := v', accepted := w.accepted ++
      [{ agentId := sub.agentId, actionId := sub.actionId, nonce := sub.nonce }] } where
  nonneg := by
    intro i e he
    rcases getElem?_concat_eq_some.mp he with he | ⟨-, rfl⟩
    · exact h.nonneg i e he
    · exact ht.nonneg
  below := by
    intro i e he hlive
    show e.nonce < v'.nonces.nextNonce e.agentId
    rw [ht.nonces, NonceStore.nextNonce_put]
    rcases getElem?_concat_eq_some.mp he with he | ⟨-, rfl⟩
    · have hold := h.below i e he hlive
      have hnext := ht.next
      split
      · next heq =>
        rw [heq] at hold
        omega
      · exact hold
    · rw [if_pos rfl]
      show sub.nonce < sub.nonce + 1
      omega
  rising := by
    intro i j e f he hf hij hlive hlive' hagent
    rcases getElem?_concat_eq_some.mp hf with hf | ⟨hj, rfl⟩
    · rcases getElem?_concat_eq_some.mp he with he | ⟨hi, rfl⟩
      · exact h.rising i j e f he hf hij hlive hlive' hagent
      · have hjlt := (List.getElem?_eq_some_iff.mp hf).1
        omega
    · rcases getElem?_concat_eq_some.mp he with he | ⟨hi, rfl⟩
      · -- the new nonce is at least the next one, which is above all live ones
        have hold := h.below i e he hlive
        have hnext := ht.next
        have heq : e.agentId = sub.agentId := hagent
        rw [heq] at hold
        show e.nonce < sub.nonce
        omega
      · omega
  held := by
    intro actionId res hres
    have hres : v'.reservations.get? actionId = some res := hres
    rw [ht.reservations, Dict.get?_put] at hres
    split at hres
    · next heq =>
      -- the new reservation
      cases hres
      refine ⟨w.accepted.length, _, getElem?_concat_eq_some.mpr (.inr ⟨rfl, rfl⟩), heq.symm, rfl,
        rfl, rfl, ?_, ?_⟩
      · intro j f hf _
        rcases getElem?_concat_eq_some.mp hf with hf | ⟨hj, -⟩
        · exact (List.getElem?_eq_some_iff.mp hf).1.le
        · exact hj.le
      · intro j f hf hj hlive hagent
        rcases getElem?_concat_eq_some.mp hf with hf | ⟨hj', -⟩
        · have hold := h.below j f hf hlive
          have hpos := h.nonneg j f hf
          rw [hagent] at hold
          show f.nonce < (previousNonce w.verifier.nonces sub.agentId).getD (-1) + 1
          unfold previousNonce
          dsimp only at hold ⊢
          split <;> simp only [Option.getD_some, Option.getD_none] <;> omega
        · omega
    · next hne =>
      obtain ⟨i, e, he, hid, hagent, hnonce, hlive, hlast, hprev⟩ := h.held actionId res hres
      refine ⟨i, e, getElem?_concat_eq_some.mpr (.inl he), hid, hagent, hnonce, hlive, ?_, ?_⟩
      · intro j f hf hfid
        rcases getElem?_concat_eq_some.mp hf with hf | ⟨-, rfl⟩
        · exact hlast j f hf hfid
        · exact absurd hfid.symm hne
      · intro j f hf hj hflive hfagent
        rcases getElem?_concat_eq_some.mp hf with hf | ⟨hj', -⟩
        · exact hprev j f hf hj hflive hfagent
        · have hilt := (List.getElem?_eq_some_iff.mp he).1
          omega

omit [GatewayDeps J] in
theorem owned_eq_true {i : Nat} {e : Entry} (he : w.accepted[i]? = some e)
    (ho : Owned w i = true) (hres : w.verifier.reservations.contains e.actionId = true) :
    ∀ (j : Nat) (f : Entry), w.accepted[j]? = some f → f.actionId = e.actionId → j ≤ i := by
  intro j f hf hid
  unfold Owned at ho
  rw [he] at ho
  simp only [hres, Bool.not_true, Bool.false_or, List.all_eq_true, decide_eq_true_eq] at ho
  by_contra hlt
  refine ho f ?_ hid
  have hdrop : (w.accepted.drop (i + 1))[j - (i + 1)]? = some f := by
    rw [List.getElem?_drop]
    rw [show i + 1 + (j - (i + 1)) = j from by omega]
    exact hf
  exact List.mem_of_getElem? hdrop

omit [GatewayDeps J] in
theorem Guarded.own_reservation {i : Nat} {e : Entry} {res : Reservation} (h : Guarded w)
    (he : w.accepted[i]? = some e) (ho : Owned w i = true)
    (hres : w.verifier.reservations.get? e.actionId = some res) :
    e.agentId = res.agentId ∧ e.nonce = res.nonce ∧ e.rolledBack = false ∧
      ∀ (j : Nat) (f : Entry), w.accepted[j]? = some f → j < i → f.rolledBack = false →
        f.agentId = res.agentId → f.nonce < res.previous.getD (-1) + 1 := by
  have hcontains : w.verifier.reservations.contains e.actionId = true := by
    unfold Dict.contains
    rw [hres]
    rfl
  obtain ⟨k, g, hg, hid, hagent, hnonce, hlive, hlast, hprev⟩ := h.held e.actionId res hres
  have hki : k = i :=
    le_antisymm (owned_eq_true he ho hcontains k g hg hid) (hlast i e he rfl)
  subst hki
  rw [he] at hg
  cases hg
  exact ⟨hagent, hnonce, hlive, hprev⟩

omit [GatewayDeps J] in
theorem Guarded.below_rollback {i : Nat} {e : Entry} {res : Reservation} (h : Guarded w)
    (he : w.accepted[i]? = some e) (ho : Owned w i = true)
    (hres : w.verifier.reservations.get? e.actionId = some res) {j : Nat} {f : Entry}
    (hf : w.accepted[j]? = some f) (hji : j ≠ i) (hlive : f.rolledBack = false) :
    f.nonce < (w.verifier.nonces.rollback res.agentId res.nonce res.previous).nextNonce
      f.agentId := by
  obtain ⟨hagent, hnonce, helive, hprev⟩ := h.own_reservation he ho hres
  have hold := h.below j f hf hlive
  rw [NonceStore.rollback_nextNonce]
  split
  · next hcase =>
    obtain ⟨hfagent, hlast⟩ := hcase
    rcases Nat.lt_or_gt_of_ne hji with hlt | hgt
    · exact hprev j f hf hlt hlive hfagent
    · -- a later live nonce of this agent would be above the last one
      have hrise := h.rising i j e f he hf hgt helive hlive (hagent.trans hfagent.symm)
      have hnext : w.verifier.nonces.nextNonce f.agentId = res.nonce + 1 := by
        unfold NonceStore.nextNonce Dict.getD
        rw [hfagent, hlast]
        rfl
      omega
  · exact hold

omit [GatewayDeps J] in
theorem Guarded.rollback {i : Nat} {e : Entry} (h : Guarded w) (he : w.accepted[i]? = some e)
    (ho : Owned w i = true) : Guarded (w.rollback cfg i e) := by
  unfold Desk.rollback Verifier.rollback Dict.contains
  cases hres : w.verifier.reservations.get? e.actionId with
  | none => exact h
  | some res =>
    have hset : ∀ (j : Nat) (f : Entry), (w.accepted.set i { e with rolledBack := true })[j]? = some f →
        f.rolledBack = false → j ≠ i ∧ w.accepted[j]? = some f := by
      intro j f hf hlive
      rcases getElem?_set_eq_some hf with hold | ⟨-, rfl⟩
      · exact hold
      · cases hlive
    refine ⟨?_, ?_, ?_, ?_⟩
    · intro j f hf
      rcases getElem?_set_eq_some hf with ⟨-, hold⟩ | ⟨-, rfl⟩
      · exact h.nonneg j f hold
      · exact h.nonneg i e he
    · intro j f hf hlive
      obtain ⟨hji, hold⟩ := hset j f hf hlive
      exact h.below_rollback he ho hres hold hji hlive
    · intro j k f g hf hg hjk hlive hlive' hagent
      exact h.rising j k f g (hset j f hf hlive).2 (hset k g hg hlive').2 hjk hlive hlive' hagent
    · intro actionId res' hres'
      have hres' : (w.verifier.reservations.erase e.actionId).get? actionId = some res' := hres'
      rw [Dict.get?_erase] at hres'
      split at hres'
      · cases hres'
      · next hne =>
        obtain ⟨k, g, hg, hid, hagent, hnonce, hlive, hlast, hprev⟩ :=
          h.held actionId res' hres'
        have hki : i ≠ k := by
          rintro rfl
          rw [he] at hg
          cases hg
          exact hne hid.symm
        refine ⟨k, g, ?_, hid, hagent, hnonce, hlive, ?_, ?_⟩
        · show (w.accepted.set i _)[k]? = some g
          rw [List.getElem?_set_ne hki]
          exact hg
        · intro j f hf hfid
          rcases getElem?_set_eq_some hf with ⟨-, hold⟩ | ⟨rfl, rfl⟩
          · exact hlast j f hold hfid
          · exact hlast j e he hfid
        · intro j f hf hj hflive hfagent
          exact hprev j f (hset j f hf hflive).2 hj hflive hfagent

theorem Guarded.call {c : VerifierCall J} (h : Guarded w) (ho : Own w c) :
    Guarded (w.call cfg c) := by
  cases c with
  | check r =>
    have hpurged : Guarded { w with verifier := w.verifier.purgeStale r.currentTick } :=
      h.drop rfl fun _ _ => of_get?_purgeStale
    unfold Desk.call
    rcases check_cases cfg r w.verifier with ⟨e, v', hrun, hq⟩ | ⟨sub, v', hrun, -, ht⟩
    · simp only [hrun]
      refine hpurged.drop hq.nonces fun actionId res hres => ?_
      rwa [hq.reservations] at hres
    · simp only [hrun]
      exact hpurged.taken ht
  | commit i =>
    cases he : w.accepted[i]? with
    | none =>
      rw [Desk.call_commit_none he]
      exact h
    | some e =>
      rw [Desk.call_commit he]
      refine h.drop rfl fun actionId res hres => ?_
      have hres : (w.verifier.reservations.erase e.actionId).get? actionId = some res := hres
      rw [Dict.get?_erase] at hres
      split at hres
      · cases hres
      · exact hres
  | rollback i =>
    cases he : w.accepted[i]? with
    | none =>
      rw [Desk.call_rollback_none he]
      exact h
    | some e =>
      rw [Desk.call_rollback he]
      exact h.rollback he ho

end Steps

/-! ## The main result -/

/-- What a rollback of the `i`-th submission `e` may change. -/
structure GivesBack {J : Type} (cfg : VerifierConfig J) (w w' : Desk) (i : Nat) (e : Entry)
    (res : Reservation) : Prop where
  /-- The reservation is the submission's own. -/
  own : res.agentId = e.agentId ∧ res.nonce = e.nonce
  reservations : ∀ actionId, w'.verifier.reservations.get? actionId
    = if actionId = e.actionId then none else w.verifier.reservations.get? actionId
  seen : ∀ actionId, actionId ∈ w'.verifier.seen.items ↔
    actionId ∈ w.verifier.seen.items ∧ actionId ≠ e.actionId
  others : ∀ agentId, agentId ≠ e.agentId →
    w'.verifier.nonces.nextNonce agentId = w.verifier.nonces.nextNonce agentId
  /-- The nonces of other live submissions stay taken. -/
  taken : ∀ (j : Nat) (f : Entry), w.accepted[j]? = some f → j ≠ i → f.rolledBack = false →
    f.nonce < w'.verifier.nonces.nextNonce f.agentId
  slots : ∀ agentId tick, w'.verifier.limits.slots agentId tick
    = if cfg.releaseSlot = true ∧ agentId = e.agentId ∧ tick = res.tick then
        LimitSet.released (w.verifier.limits.slots agentId tick)
      else w.verifier.limits.slots agentId tick

/-- What a check that raises may change: reservations and slot counts of
earlier ticks are dropped. -/
structure LeftAlone (tick : Int) (v v' : Verifier) : Prop where
  nonces : v'.nonces = v.nonces
  seen : v'.seen = v.seen
  reservations : ∀ actionId, v'.reservations.get? actionId
    = (v.reservations.get? actionId).filter fun res => decide ¬ res.tick < tick
  slots : LimitSet.SlotsObserved tick v.limits v'.limits

section Main

variable {J : Type} [GatewayDeps J] {cfg : VerifierConfig J}

theorem check_leftAlone {r : Arrival J} {v v' : Verifier} {e : GatewayFault}
    (h : check cfg r v = .error e v') : LeftAlone r.currentTick v v' := by
  rcases check_cases cfg r v with ⟨e', w, hrun, hq⟩ | ⟨sub, w, hrun, -, -⟩
  · rw [h] at hrun
    cases hrun
    refine ⟨hq.nonces, hq.seen, fun actionId => ?_, hq.slots⟩
    rw [hq.reservations]
    exact get?_purgeStale actionId
  · rw [h] at hrun
    cases hrun

omit [GatewayDeps J] in
theorem Guarded.givesBack {w : Desk} {i : Nat} {e : Entry} {res : Reservation} (h : Guarded w)
    (he : w.accepted[i]? = some e) (ho : Owned w i = true)
    (hres : w.verifier.reservations.get? e.actionId = some res) :
    GivesBack cfg w (w.rollback cfg i e) i e res := by
  obtain ⟨hagent, hnonce, -, -⟩ := h.own_reservation he ho hres
  have hrun : (w.rollback cfg i e).verifier =
      { w.verifier with
        reservations := w.verifier.reservations.erase e.actionId
        nonces := w.verifier.nonces.rollback res.agentId res.nonce res.previous
        seen := w.verifier.seen.discard e.actionId
        limits :=
          if cfg.releaseSlot then w.verifier.limits.slotRelease res.agentId res.tick
          else w.verifier.limits } := by
    show w.verifier.rollback cfg e.actionId = _
    unfold Verifier.rollback
    rw [hres]
  refine ⟨⟨hagent.symm, hnonce.symm⟩, ?_, ?_, ?_, ?_, ?_⟩
  · intro actionId
    rw [hrun]
    exact Dict.get?_erase ..
  · intro actionId
    rw [hrun]
    simp [ActionIdLRU.discard]
  · intro agentId hne
    rw [hrun]
    show (w.verifier.nonces.rollback _ _ _).nextNonce agentId = _
    rw [NonceStore.rollback_nextNonce, if_neg fun hc => hne (hc.1.trans hagent.symm)]
  · intro j f hf hji hlive
    rw [hrun]
    exact h.below_rollback he ho hres hf hji hlive
  · intro agentId tick
    rw [hrun, hagent]
    by_cases hrel : cfg.releaseSlot = true
    · simp only [hrel, if_true, true_and]
      show (if agentId = res.agentId ∧ tick = res.tick then _ else _) = _
      by_cases hk : agentId = res.agentId ∧ tick = res.tick
      · rw [if_pos hk, if_pos hk, hk.1, hk.2]
      · rw [if_neg hk, if_neg hk]
    · simp only [hrel, Bool.false_eq_true, if_false, false_and]

/-- **External actions cannot be replayed**, in every run whose rollbacks
find their own reservation or none: of an agent's live submissions no two have
one nonce and their nonces rise strictly; a rollback gives back one submission
or nothing; a check that raises drops what earlier ticks held and no more. -/
theorem external_actions_once (nonces : NonceStore) (seen : ActionIdLRU) (limits : LimitSet)
    (calls : List (VerifierCall J)) (w : Desk)
    (hw : w = (Desk.start nonces seen limits).run cfg calls)
    (hown : Along (Desk.call cfg) Own (Desk.start nonces seen limits) calls) :
    (∀ (i j : Nat) (e f : Entry), w.accepted[i]? = some e → w.accepted[j]? = some f →
      e.rolledBack = false → f.rolledBack = false → e.agentId = f.agentId →
      (e.nonce = f.nonce → i = j) ∧ (i < j → e.nonce < f.nonce)) ∧
    (∀ (i : Nat) (e : Entry), w.accepted[i]? = some e → Own (J := J) w (.rollback i) →
      (w.verifier.reservations.get? e.actionId = none → w.call cfg (.rollback i) = w) ∧
      ∀ res, w.verifier.reservations.get? e.actionId = some res →
        GivesBack cfg w (w.call cfg (.rollback i)) i e res) ∧
    (∀ (r : Arrival J) (e : GatewayFault) (v' : Verifier), check cfg r w.verifier = .error e v' →
      LeftAlone r.currentTick w.verifier v') := by
  have hg : Guarded w := by
    rw [hw]
    exact hown.invariant (fun s c hs ho => hs.call ho) (guarded_start nonces seen limits)
  refine ⟨?_, ?_, fun r e v' => check_leftAlone⟩
  · intro i j e f he hf hlive hlive' hagent
    refine ⟨fun hnonce => ?_, fun hij => hg.rising i j e f he hf hij hlive hlive' hagent⟩
    rcases Nat.lt_trichotomy i j with hij | hij | hij
    · have := hg.rising i j e f he hf hij hlive hlive' hagent
      omega
    · exact hij
    · have := hg.rising j i f e hf he hij hlive' hlive hagent.symm
      omega
  · intro i e he ho
    rw [Desk.call_rollback he]
    refine ⟨fun hnone => ?_, fun res hres => hg.givesBack he ho hres⟩
    unfold Desk.rollback Verifier.rollback Dict.contains
    rw [hnone]
    rfl

end Main

/-! ## Runs on signed requests -/

open Lib.Bytes Polis.Events

/-- A field as a value. -/
def Field.toValue : Field Value → Value
  | .null => .none
  | .bool b => .bool b
  | .int n => .int n
  | .str s => .str s
  | .mapping j => j
  | .other j => j

/-- `UUID(value)` of a text with hyphens. -/
def uuidOf (s : String) : Option RunId :=
  let digits := s.toList.filter fun c => c ≠ '-'
  if digits.length = 32 then
    (digits.mapM hexDigit).map fun ds => BitVec.ofNat 128 (ds.foldl (fun n d => 16 * n + d) 0)
  else none

/-- The public key of the agent below. -/
def sampleKey : String := "d54207da194977dcf46adbfec2bc2e75b52d5a8a42184fedfdc00024f0e3e8da"

/-- The SHA-256 of a preimage and its ed25519 signature under `sampleKey`. -/
def sampleSignatures : List (String × String) :=
  [("d9855c01ae64d1bc79f974da61fd83fa16431c858b4eae906ae9bb7588d744a2",
    "16de0b9f78a6efc1c797f48277ded688467ab82d3820546e9c459a911589243d" ++
    "bfbd779026a95f03fb01726d92ebe977318779f896f770548956835e4414460d"),
   ("af13e9daff5cc0621e8643632ae0e9367571f3b03a0c58771977eb96de917993",
    "602b66360004a3c474f4174e1c2bbf5cbf870b8db0410e0467fe856de08c2345" ++
    "855df9a0e397ee3463908c31e7c68617c34731ef548eba0d381e56178e2c9f0d"),
   ("4fa031fae72913da60882ea845cb9a60fc13f2101823294b49db38144159524c",
    "5a0eaa9296d64522cf77369ae2ae41fd5f050547ac55f4970fc68f16b70187cf" ++
    "7de0472164ebe4326ab97a17f354cd09376f5430654d5450b75f297c5f5aaa03"),
   ("7dfd4981fc6654a09226e2d91dd76a1f39c0a608b658d2594d0f02b73ef18839",
    "df077fef586db7d3d7a964f75b48ed7c35d71767d837bbcb2cc2598e893e15b0" ++
    "17bcdb7357881a00f885382f8f80d26c3fcade0b34aea214da31dba0175bcf0d")]

/-- `canonical_bytes(body)` of a body whose texts need no escaping. -/
def plainBody (b : Body Value) : ByteString :=
  let text := fun s : String => utf8 "\"" ++ utf8 s ++ utf8 "\""
  let member := fun e : String × Field Value => text e.1 ++ utf8 ":" ++ match e.2 with
    | .str s => text s
    | x => utf8 (canonicalJson x.toValue)
  utf8 "\x7b" ++ (utf8 ",").intercalate ((b.insertionSort fun a b => a.1 ≤ b.1).map member)
    ++ utf8 "\x7d"

/-- The gateway's dependencies on bodies without floating-point numbers, with
the signatures above. -/
abbrev sampleDeps : GatewayDeps Value where
  dumps := fun v => some (utf8 (canonicalJson v))
  bodyBytes := fun b => some (plainBody b)
  paramsBytes := fun v => some (utf8 (canonicalJson v))
  mapping := fun b => .dict (b.map fun e => (e.1, e.2.toValue))
  uuid := uuidOf
  validate := fun _ params => match params with
    | .dict _ => true
    | _ => false
  verify := fun key preimage sig =>
    key = sampleKey && sampleSignatures.contains (hex (sha256 preimage), sig)
  audit := fun _ _ _ => .dict []

def sampleSession : Session :=
  { sessionId := "ses_1", agentId := "ag_" ++ sampleKey, custody := .operator,
    delegatePubkey := none, expiresUnixMs := 10000, transport := .rest, sdkVersion := "1",
    pubkeyHex := sampleKey }

/-- A signed `NULL_ACTION` for tick 9. -/
def nullAction (actionId : String) (nonce : Int) (k : Nat) : Arrival Value :=
  { body := [("tick", .int 9), ("nonce", .int nonce),
      ("action_id", .str ("00000000-0000-0000-0000-00000000000" ++ actionId)),
      ("type", .str "NULL_ACTION"), ("params", .mapping (.dict [])),
      ("sig", .str ((sampleSignatures[k]?.map Prod.snd).getD ""))]
    session := sampleSession, currentTick := 9, nowUnixMs := 1000, nowReceivedMs := 1000 }

/-- A request of the next tick in an expired session. -/
def expired : Arrival Value :=
  { body := [("tick", .int 10)], session := sampleSession, currentTick := 10,
    nowUnixMs := 10000, nowReceivedMs := 10000 }

def sampleVerifier : VerifierConfig Value :=
  { runId := 1, bundle := [("NULL_ACTION", .dict [("type", .str "object")])] }

/-- A desk with three slots a tick that remembers `capacity` ids. -/
def sampleDesk (capacity : Nat) (pos : 0 < capacity) : Desk :=
  Desk.start ∅ (.empty capacity pos) { config := { actionSlots := 3 } }

/-- Two submissions rolled back in the order they were accepted in, the nonce
of the second sent again. -/
def outOfOrder : List (VerifierCall Value) :=
  [.check (nullAction "1" 0 0), .check (nullAction "2" 1 1), .rollback 0, .rollback 1,
    .check (nullAction "2" 1 1), .commit 2, .check expired]

def outOfOrderEnd : Desk :=
  letI : GatewayDeps Value := sampleDeps
  (sampleDesk 8 (by decide)).run sampleVerifier outOfOrder

theorem outOfOrder_own :
    letI : GatewayDeps Value := sampleDeps
    Along (Desk.call sampleVerifier) Own (sampleDesk 8 (by decide)) outOfOrder ∧
      outOfOrderEnd.accepted.map (fun e => (e.nonce, e.rolledBack))
        = [(0, true), (1, true), (1, false)] := by
  decide +kernel

theorem external_actions_once_out_of_order :
    letI : GatewayDeps Value := sampleDeps
    outOfOrderEnd.accepted.map (fun e => (e.nonce, e.rolledBack))
        = [(0, true), (1, true), (1, false)] ∧
      ∀ (i j : Nat) (e f : Entry), outOfOrderEnd.accepted[i]? = some e →
        outOfOrderEnd.accepted[j]? = some f → e.rolledBack = false → f.rolledBack = false →
        e.agentId = f.agentId → e.nonce = f.nonce → i = j := by
  let _ : GatewayDeps Value := sampleDeps
  refine ⟨outOfOrder_own.2, fun i j e f he hf hlive hlive' hagent => ?_⟩
  exact ((external_actions_once ∅ (.empty 8 (by decide)) { config := { actionSlots := 3 } }
    outOfOrder outOfOrderEnd rfl outOfOrder_own.1).1 i j e f he hf hlive hlive' hagent).1

/-- The third submission's id was evicted by the second: the rollback of the
first takes the third back. -/
def evicted : List (VerifierCall Value) :=
  [.check (nullAction "1" 0 0), .check (nullAction "2" 1 1), .check (nullAction "1" 2 2),
    .rollback 0, .check (nullAction "3" 2 3)]

/-- One submission pending at tick 9, and a check at tick 10 that raises. -/
def abandoned : List (VerifierCall Value) := [.check (nullAction "1" 0 0), .check expired]

theorem external_actions_fail :
    letI : GatewayDeps Value := sampleDeps
    ((sampleDesk 1 (by decide)).run sampleVerifier evicted).accepted.map
        (fun e => (e.agentId == sampleSession.agentId, e.nonce, e.rolledBack))
      = [(true, 0, true), (true, 1, false), (true, 2, false), (true, 2, false)] ∧
    ((sampleDesk 8 (by decide)).run sampleVerifier (abandoned.take 1)
      ).verifier.reservations.keys = [1] ∧
    (fun w : Desk => (w.accepted.length, w.verifier.reservations.keys))
      ((sampleDesk 8 (by decide)).run sampleVerifier abandoned) = (1, []) := by
  decide +kernel

end Polis.Gateway
