/-
  Polis.Society.Recording — a ledger that keeps what it posts.

  The services read a ledger through four operations.  A ledger can be run
  beside the list of its successful postings, so that a statement about a
  whole run can speak of the money moved in it.

  Main results:
    * `recorded_post` — a posting is recorded when it returns.
    * `stagePosted_posted` — what an announced posting records, whether it
      returns or raises.
    * `stagePosted_reliable` — on a reliable ledger it is recorded exactly when
      it returns.
-/
import Polis.Society.Posting

namespace Polis.Society

open Lib.Effect Polis.Events

/-- A posting that returned: its transfers, and the event that caused it. -/
structure Posting where
  transfers : List Transfer
  reason : String
  tick : Int
  cause : Events.Event Value

/-- The cents a posting moves. -/
def Posting.total (p : Posting) : Int := (p.transfers.map fun t => t.2.2).sum

/-- A ledger beside what it has posted. -/
abbrev Recorded (L : Type) := L × List Posting

variable {L : Type}

/-- A ledger that records its postings. -/
def SocietyLedger.recorded (B : SocietyLedger L) : SocietyLedger (Recorded L) :=
  { canPay := fun l => B.canPay l.1
    compatibleBalance := fun l => B.compatibleBalance l.1
    nextTransferId := fun l => B.nextTransferId l.1
    postTransfers := fun transfers reason tick cause l =>
      match B.postTransfers transfers reason tick cause l.1 with
      | .ok id ledger => .ok id (ledger, l.2 ++ [⟨transfers, reason, tick, cause⟩])
      | .error e ledger => .error e (ledger, l.2) }

theorem recorded_post (B : SocietyLedger L) (transfers : List Transfer) (reason : String)
    (tick : Int) (cause : Events.Event Value) (l : Recorded L) :
    (∃ id l', B.recorded.postTransfers transfers reason tick cause l = .ok id l' ∧
      l'.2 = l.2 ++ [⟨transfers, reason, tick, cause⟩]) ∨
    (∃ e l', B.recorded.postTransfers transfers reason tick cause l = .error e l' ∧
      l'.2 = l.2) := by
  unfold SocietyLedger.recorded
  dsimp only
  cases B.postTransfers transfers reason tick cause l.1 with
  | ok id ledger => exact Or.inl ⟨id, _, rfl, rfl⟩
  | error e ledger => exact Or.inr ⟨e, _, rfl, rfl⟩

theorem posted_of_ok {B : SocietyLedger L} {transfers : List Transfer} {reason : String}
    {tick : Int} {cause : Events.Event Value} {l l' : Recorded L} {id : UUID}
    (h : B.recorded.postTransfers transfers reason tick cause l = .ok id l') :
    l'.2 = l.2 ++ [⟨transfers, reason, tick, cause⟩] := by
  rcases recorded_post B transfers reason tick cause l with
    ⟨id', l'', hpost, hl⟩ | ⟨e, l'', hpost, -⟩
  · rw [h] at hpost
    cases hpost
    exact hl
  · rw [h] at hpost
    cases hpost

theorem postOrRollback_posted (B : SocietyLedger L) (transfers : List Transfer)
    (reason : String) (tick : Int) (predicted : UUID) (diverged : String)
    (cause : Events.Event Value) (s : Books (Recorded L)) :
    (stateAfter (postOrRollback B.recorded transfers reason tick predicted diverged cause
        s)).ledger.2 = s.ledger.2 ∨
    (stateAfter (postOrRollback B.recorded transfers reason tick predicted diverged cause
        s)).ledger.2 = s.ledger.2 ++ [⟨transfers, reason, tick, cause⟩] := by
  unfold postOrRollback
  rcases recorded_post B transfers reason tick cause s.ledger with
    ⟨id, l', hpost, hl⟩ | ⟨e, l', hpost, hl⟩
  · right
    rw [hpost]
    dsimp only
    split
    · exact hl
    · exact hl
  · left
    rw [hpost]
    exact hl

variable [CanonicalJson Value] [Sha256] [PayloadSchemas Value]

theorem emit_posted (j : Journal) (d : Draft) (tick : Int) (s : Books (Recorded L)) :
    (stateAfter (Books.emit j d tick s)).ledger = s.ledger := by
  unfold Books.emit
  rw [stateAfter_zoom]

theorem stagePosted_posted {B : SocietyLedger L} {j : Journal} {pays : Prop} [Decidable pays]
    {blank : Value} {draft : Value → Draft} {transfers : List Transfer}
    {reason diverged : String} {tick : Int} (s : Books (Recorded L)) :
    (stateAfter (stagePosted B.recorded j pays blank draft transfers reason diverged tick
        s)).ledger.2 = s.ledger.2 ∨
    ∃ v event, (draft v).Became event ∧
      (stateAfter (stagePosted B.recorded j pays blank draft transfers reason diverged tick
        s)).ledger.2 = s.ledger.2 ++ [⟨transfers, reason, tick, event⟩] := by
  unfold stagePosted
  rw [get_bind]
  generalize (if pays then Value.str (B.recorded.nextTransferId s.ledger tick) else blank)
    = v
  rcases Books.emit_cases j (draft v) tick s with ⟨f, log, hr, -⟩ | ⟨event, log, hr, hemit⟩
  · rw [bind_of_error hr]
    exact Or.inl rfl
  · rw [bind_of_ok hr]
    have hbecame := emit_became hemit
    by_cases hp : pays
    · unfold runIf
      rw [if_pos hp, stateAfter_bind_pure]
      rcases postOrRollback_posted B transfers reason tick
          (B.recorded.nextTransferId s.ledger tick) diverged event { s with log } with
        hsame | hposted
      · exact Or.inl hsame
      · exact Or.inr ⟨v, event, hbecame, hposted⟩
    · unfold runIf
      rw [if_neg hp]
      exact Or.inl rfl

theorem posted_of_error {B : SocietyLedger L} {j : Journal} {pays : Prop} [Decidable pays]
    {blank : Value} {draft : Value → Draft} {transfers : List Transfer}
    {reason diverged : String} {tick : Int} {s s' : Books (Recorded L)} {f : Fault}
    (h : stagePosted B.recorded j pays blank draft transfers reason diverged tick s
      = .error f s') :
    s'.ledger.2 = s.ledger.2 ∨ ∃ v event, (draft v).Became event ∧
      s'.ledger.2 = s.ledger.2 ++ [⟨transfers, reason, tick, event⟩] := by
  have hstate : s' = stateAfter
      (stagePosted B.recorded j pays blank draft transfers reason diverged tick s) := by
    rw [h]
    rfl
  rw [hstate]
  exact stagePosted_posted s

/-! ## Reliable ledgers -/

/-- A ledger that posts under the identifier it announces, and no negative
transfer. -/
structure SocietyLedger.Reliable (B : SocietyLedger L) : Prop where
  announced : ∀ transfers reason tick cause l id l',
    B.postTransfers transfers reason tick cause l = .ok id l' → id = B.nextTransferId l tick
  nonneg : ∀ transfers reason tick cause l id l',
    B.postTransfers transfers reason tick cause l = .ok id l' → ∀ t ∈ transfers, 0 ≤ t.2.2

omit [CanonicalJson Value] [Sha256] [PayloadSchemas Value] in
theorem postOrRollback_reliable {B : SocietyLedger L} (hB : B.Reliable)
    (transfers : List Transfer) (reason : String) (tick : Int) (diverged : String)
    (cause : Events.Event Value) (s : Books (Recorded L)) :
    (∃ f s', postOrRollback B.recorded transfers reason tick
        (B.recorded.nextTransferId s.ledger tick) diverged cause s = .error f s' ∧
      s'.ledger.2 = s.ledger.2) ∨
    (∃ s', postOrRollback B.recorded transfers reason tick
        (B.recorded.nextTransferId s.ledger tick) diverged cause s = .ok () s' ∧
      (∀ t ∈ transfers, 0 ≤ t.2.2) ∧
      s'.ledger.2 = s.ledger.2 ++ [⟨transfers, reason, tick, cause⟩]) := by
  unfold postOrRollback SocietyLedger.recorded
  dsimp only
  cases hpost : B.postTransfers transfers reason tick cause s.ledger.1 with
  | error e ledger =>
    left
    exact ⟨_, _, rfl, rfl⟩
  | ok id ledger =>
    right
    have hid := hB.announced _ _ _ _ _ _ _ hpost
    dsimp only
    rw [if_pos hid]
    exact ⟨_, rfl, hB.nonneg _ _ _ _ _ _ _ hpost, rfl⟩

theorem stagePosted_reliable {B : SocietyLedger L} (hB : B.Reliable) (j : Journal) (pays : Prop)
    [Decidable pays] (blank : Value) (draft : Value → Draft) (transfers : List Transfer)
    (reason diverged : String) (tick : Int) (s : Books (Recorded L)) :
    (∃ f s', stagePosted B.recorded j pays blank draft transfers reason diverged tick s
        = .error f s' ∧ s'.ledger.2 = s.ledger.2) ∨
    (∃ v event s', stagePosted B.recorded j pays blank draft transfers reason diverged tick s
        = .ok event s' ∧ (draft v).Became event ∧ (pays → ∀ t ∈ transfers, 0 ≤ t.2.2) ∧
      s'.ledger.2 = s.ledger.2 ++ if pays then [⟨transfers, reason, tick, event⟩] else []) := by
  unfold stagePosted
  rw [get_bind]
  rcases Books.emit_cases j (draft (if pays then .str (B.recorded.nextTransferId s.ledger tick)
    else blank)) tick s with ⟨f, log, hr, -⟩ | ⟨event, log, hr, hemit⟩
  · left
    rw [bind_of_error hr]
    exact ⟨_, _, rfl, rfl⟩
  · rw [bind_of_ok hr]
    have hbecame := emit_became hemit
    by_cases hp : pays
    · simp only [runIf, if_pos hp] at hbecame ⊢
      rcases postOrRollback_reliable hB transfers reason tick diverged event
          { s with log } with ⟨f, s', hpost, hl⟩ | ⟨s', hpost, hcents, hl⟩
      · left
        rw [bind_of_error hpost]
        exact ⟨f, s', rfl, hl⟩
      · right
        rw [bind_of_ok hpost]
        exact ⟨_, event, s', rfl, hbecame, fun _ => hcents, hl⟩
    · right
      simp only [runIf, if_neg hp] at hbecame ⊢
      exact ⟨_, event, _, rfl, hbecame, fun h => absurd h hp, (List.append_nil _).symm⟩

end Polis.Society
