/-
  Polis.Events.Tamper — what the hash chain commits to.

  An `Alteration` replaces one field of a stored event and leaves its stored
  hash alone.  The preimage joins its variable-length fields without lengths,
  writes an absent actor or signature as the empty text, an absent cause as
  minus one, and separates subjects by a character a subject may contain.

  Main result: `hash_commits` — exactly which pairs of events share their
  bytes, and exactly which single alterations of a valid batch survive
  `verify_batch`.
-/
import Polis.Events.Canon

namespace Polis.Events

open Lib.Bytes

/-! ## Hexadecimal digests determine digests -/

theorem hexChar_inj {m n : Nat} (hm : m < 16) (hn : n < 16) (h : hexChar m = hexChar n) :
    m = n := by
  have hall : ∀ i j : Fin 16, hexChar i = hexChar j → i = j := by decide
  exact congrArg Fin.val (hall ⟨m, hm⟩ ⟨n, hn⟩ h)

theorem hex_inj {a b : ByteString} (h : hex a = hex b) : a = b := by
  unfold hex at h
  replace h := String.ofList_injective h
  induction a generalizing b with
  | nil =>
    cases b with
    | nil => rfl
    | cons y ys => simp at h
  | cons x xs ih =>
    cases b with
    | nil => simp at h
    | cons y ys =>
      simp only [List.flatMap_cons, List.cons_append, List.nil_append, List.cons.injEq] at h
      obtain ⟨hhi, hlo, hrest⟩ := h
      have hx := x.toNat_lt
      have hy := y.toNat_lt
      have e₁ := hexChar_inj (by omega) (by omega) hhi
      have e₂ := hexChar_inj (by omega) (by omega) hlo
      have hxy : x = y := UInt8.toNat_inj.mp (by omega)
      rw [hxy, ih hrest]

section Commitment

variable {P : Type}

/-! ## Altering one field -/

/-- A new value for one field. -/
inductive Alteration (P : Type) where
  | seq (v : Int)
  | runId (v : RunId)
  | tick (v : Int)
  | simTime (v : SimTime)
  | kind (v : Int)
  | actorId (v : Option String)
  | subjectIds (v : List String)
  | causeSeq (v : Option Int)
  | payload (v : P)
  | sig (v : Option String)
  | prevHash (v : String)

namespace Alteration

/-- The stored event with the field replaced and the hash left as it was. -/
def apply (e : Event P) : Alteration P → Event P
  | .seq v => { e with seq := v }
  | .runId v => { e with runId := v }
  | .tick v => { e with tick := v }
  | .simTime v => { e with simTime := v }
  | .kind v => { e with kind := v }
  | .actorId v => { e with actorId := v }
  | .subjectIds v => { e with subjectIds := v }
  | .causeSeq v => { e with causeSeq := v }
  | .payload v => { e with payload := v }
  | .sig v => { e with sig := v }
  | .prevHash v => { e with prevHash := v }

/-- The new value differs from the old one, subjects compared as sorted. -/
def Changes (e : Event P) : Alteration P → Prop
  | .seq v => v ≠ e.seq
  | .runId v => v ≠ e.runId
  | .tick v => v ≠ e.tick
  | .simTime v => v ≠ e.simTime
  | .kind v => v ≠ e.kind
  | .actorId v => v ≠ e.actorId
  | .subjectIds v => sortedIds v ≠ sortedIds e.subjectIds
  | .causeSeq v => v ≠ e.causeSeq
  | .payload v => v ≠ e.payload
  | .sig v => v ≠ e.sig
  | .prevHash v => v ≠ e.prevHash

/-- The preimage cannot show the difference: an absent text read as the empty
one, an absent cause read as minus one, or subjects that join to one text. -/
def Unseen (e : Event P) : Alteration P → Prop
  | .actorId v => v.getD "" = e.actorId.getD ""
  | .subjectIds v => String.intercalate "\x1f" (sortedIds v)
      = String.intercalate "\x1f" (sortedIds e.subjectIds)
  | .causeSeq v => v.getD (-1) = e.causeSeq.getD (-1)
  | .sig v => v.getD "" = e.sig.getD ""
  | _ => False

end Alteration

/-! ## Alterations the preimage cannot show -/

theorem Alteration.Unseen.headOf_eq {e : Event P} {a : Alteration P} (h : a.Unseen e) :
    headOf (a.apply e) = headOf e := by
  cases a <;> first | exact False.elim h | rfl

variable [CanonicalJson P]

theorem Alteration.Unseen.tailBytes_eq {e : Event P} {a : Alteration P} (h : a.Unseen e) :
    tailBytes (a.apply e).toContent = tailBytes e.toContent := by
  unfold tailBytes
  cases a with
  | actorId v => simp only [Alteration.apply, textBytes, show v.getD "" = e.actorId.getD "" from h]
  | sig v => simp only [Alteration.apply, textBytes, show v.getD "" = e.sig.getD "" from h]
  | causeSeq v =>
    simp only [Alteration.apply, show v.getD (-1) = e.causeSeq.getD (-1) from h]
  | subjectIds v =>
    have hs : subjectBytes v = subjectBytes e.subjectIds := congrArg utf8 h
    simp only [Alteration.apply, hs]
  | seq v => exact h.elim
  | runId v => exact h.elim
  | tick v => exact h.elim
  | simTime v => exact h.elim
  | kind v => exact h.elim
  | payload v => exact h.elim
  | prevHash v => exact h.elim

omit [CanonicalJson P] in
theorem Alteration.Unseen.headBytes_eq {e : Event P} {a : Alteration P} (h : a.Unseen e) :
    headBytes (a.apply e).toContent = headBytes e.toContent := by
  cases a <;> first | exact False.elim h | rfl

theorem Alteration.Unseen.recompute_eq [Sha256] {e : Event P} {a : Alteration P}
    (h : a.Unseen e) : recompute (a.apply e) = recompute e := by
  unfold recompute eventHash canonicalEventBytes
  rw [h.headBytes_eq, h.tailBytes_eq]

theorem Alteration.Unseen.follows [Sha256] [PayloadSchemas P] {previous : ChainHead}
    {e : Event P} {a : Alteration P} (h : a.Unseen e) (hf : Follows previous e) :
    Follows previous (a.apply e) := by
  have hhash := h.recompute_eq.trans hf.hash
  cases a with
  | actorId v => exact ⟨hf.seq, hf.prevHash, hhash, hf.tick, hf.schema⟩
  | subjectIds v => exact ⟨hf.seq, hf.prevHash, hhash, hf.tick, hf.schema⟩
  | causeSeq v => exact ⟨hf.seq, hf.prevHash, hhash, hf.tick, hf.schema⟩
  | sig v => exact ⟨hf.seq, hf.prevHash, hhash, hf.tick, hf.schema⟩
  | seq v => exact h.elim
  | runId v => exact h.elim
  | tick v => exact h.elim
  | simTime v => exact h.elim
  | kind v => exact h.elim
  | payload v => exact h.elim
  | prevHash v => exact h.elim

/-! ## Every other alteration shows in the bytes -/

theorem Alteration.unseen_of_same_bytes {e : Event P} {a : Alteration P} (hch : a.Changes e)
    (hjson : ∀ p, a = .payload p → NoConfusion p e.payload)
    (hhead : SameHead (a.apply e).toContent e.toContent) {t : ByteString}
    (ht' : tailBytes (a.apply e).toContent = some t) (ht : tailBytes e.toContent = some t) :
    a.Unseen e ∨ ∃ v, a = .prevHash v := by
  obtain ⟨cause, payload, prev, hcause, hpayload, hprev, rfl⟩ := tailBytes_eq_some.mp ht
  obtain ⟨cause', payload', prev', hcause', hpayload', hprev', h⟩ := tailBytes_eq_some.mp ht'
  cases a with
  | seq v => exact absurd hhead.seq hch
  | runId v => exact absurd hhead.runId hch
  | tick v => exact absurd hhead.tick hch
  | simTime v => exact absurd hhead.simTime hch
  | kind v => exact absurd hhead.kind hch
  | prevHash v => exact Or.inr ⟨v, rfl⟩
  | actorId v =>
    left
    have hc := hcause'.symm.trans hcause
    have hp := hpayload'.symm.trans hpayload
    have hv := hprev'.symm.trans hprev
    simp only [Option.some.injEq] at hc hp hv
    subst hc hp hv
    have h := List.append_cancel_right (List.append_cancel_right (List.append_cancel_right
      (List.append_cancel_right (List.append_cancel_right h))))
    exact utf8_inj h
  | subjectIds v =>
    left
    have hc := hcause'.symm.trans hcause
    have hp := hpayload'.symm.trans hpayload
    have hv := hprev'.symm.trans hprev
    simp only [Option.some.injEq] at hc hp hv
    subst hc hp hv
    have h := List.append_cancel_right (List.append_cancel_right (List.append_cancel_right
      (List.append_cancel_right h)))
    exact utf8_inj (List.append_cancel_left h)
  | causeSeq v =>
    left
    have hp := hpayload'.symm.trans hpayload
    have hv := hprev'.symm.trans hprev
    simp only [Option.some.injEq] at hp hv
    subst hp hv
    have h := List.append_cancel_right (List.append_cancel_right (List.append_cancel_right h))
    have hc : cause' = cause := List.append_cancel_left h
    subst hc
    exact toBytesSigned_inj hcause' hcause
  | payload v =>
    have hc := hcause'.symm.trans hcause
    have hv := hprev'.symm.trans hprev
    simp only [Option.some.injEq] at hc hv
    subst hc hv
    have h := List.append_cancel_right (List.append_cancel_right h)
    have hp : payload' = payload := List.append_cancel_left h
    subst hp
    exact absurd (hjson v rfl (hpayload'.trans hpayload.symm)) hch
  | sig v =>
    left
    have hc := hcause'.symm.trans hcause
    have hp := hpayload'.symm.trans hpayload
    have hv := hprev'.symm.trans hprev
    simp only [Option.some.injEq] at hc hp hv
    subst hc hp hv
    exact utf8_inj (List.append_cancel_left (List.append_cancel_right h))

theorem Alteration.unseen_of_follows [Sha256] [PayloadSchemas P] {previous : ChainHead}
    {e : Event P} {a : Alteration P} (hch : a.Changes e)
    (hjson : ∀ p, a = .payload p → NoConfusion p e.payload)
    (hsha : ∀ b b', canonicalEventBytes (a.apply e).toContent = some b →
      canonicalEventBytes e.toContent = some b' → NoCollision b b')
    (hf : Follows previous e) (hf' : Follows previous (a.apply e)) : a.Unseen e := by
  obtain ⟨b, hb, hdigest⟩ := Option.map_eq_some_iff.mp hf.hash
  obtain ⟨b', hb', hdigest'⟩ := Option.map_eq_some_iff.mp hf'.hash
  have hstored : (a.apply e).hash = e.hash := by cases a <;> rfl
  have hsame : Sha256.digest b' = Sha256.digest b :=
    hex_inj (hdigest'.trans (hstored.trans hdigest.symm))
  have hbytes : b' = b := hsha b' b hb' hb hsame
  obtain ⟨hhead, htail⟩ := (canonicalEventBytes_inj hb' hb).mp hbytes
  obtain ⟨_, t, -, ht, -⟩ := canonicalEventBytes_eq_some.mp hb
  rcases Alteration.unseen_of_same_bytes hch hjson hhead (htail.trans ht) ht with h | ⟨v, rfl⟩
  · exact h
  · -- the previous hash is compared as text
    exact absurd (hf'.prevHash.trans hf.prevHash.symm) hch

/-! ## Fields whose boundaries shift -/

/-- The texts of the fields of variable length, in the order they are joined. -/
def fieldTexts (c : Content P) : Option (List ByteString) := do
  let cause ← toBytesSigned 8 (c.causeSeq.getD (-1))
  let payload ← CanonicalJson.canonicalBytes c.payload
  let prev ← fromhex c.prevHash
  some [textBytes c.actorId, subjectBytes c.subjectIds, cause, payload, textBytes c.sig, prev]

theorem tailBytes_eq_flatten (c : Content P) :
    tailBytes c = (fieldTexts c).map List.flatten := by
  unfold tailBytes fieldTexts
  cases toBytesSigned 8 (c.causeSeq.getD (-1)) with
  | none => rfl
  | some cause =>
    cases CanonicalJson.canonicalBytes c.payload with
    | none => rfl
    | some payload =>
      cases fromhex c.prevHash with
      | none => rfl
      | some prev => simp

/-- The texts of two events have other lengths and still join to one text: the
end of one field reads as the start of the next. -/
def Shifted (c d : Content P) : Prop :=
  (fieldTexts c).map (List.map List.length) ≠ (fieldTexts d).map (List.map List.length) ∧
    (fieldTexts c).map List.flatten = (fieldTexts d).map List.flatten

theorem tailBytes_eq_iff (c d : Content P) :
    tailBytes c = tailBytes d ↔ fieldTexts c = fieldTexts d ∨ Shifted c d := by
  rw [tailBytes_eq_flatten, tailBytes_eq_flatten]
  unfold Shifted
  constructor
  · intro h
    by_cases hlen : (fieldTexts c).map (List.map List.length)
        = (fieldTexts d).map (List.map List.length)
    · left
      cases hc : fieldTexts c with
      | none =>
        rw [hc] at h
        exact (Option.map_eq_none_iff.mp h.symm).symm
      | some xs =>
        rw [hc] at h hlen
        obtain ⟨ys, hd, hflat⟩ := Option.map_eq_some_iff.mp h.symm
        rw [hd] at hlen ⊢
        rw [List.eq_iff_flatten_eq.mpr ⟨hflat.symm, Option.some.inj hlen⟩]
    · exact Or.inr ⟨hlen, h⟩
  · rintro (h | h)
    · rw [h]
    · exact h.2

/-! ## The main result -/

/-- Two events differ in a field the hash is to cover. -/
def Differ (c d : Content P) : Prop :=
  ¬(SameHead c d ∧ c.actorId = d.actorId ∧ sortedIds c.subjectIds = sortedIds d.subjectIds ∧
    c.causeSeq = d.causeSeq ∧ c.payload = d.payload ∧ c.sig = d.sig ∧ c.prevHash = d.prevHash)

variable [Sha256] [PayloadSchemas P]

theorem chained_set {previous : ChainHead} {es : List (Event P)} {i : Nat} {e e' : Event P}
    (hc : Chained previous es) (hi : es[i]? = some e) :
    ∃ p, Follows p e ∧ (Chained previous (es.set i e') → Follows p e') ∧
      (headOf e' = headOf e → Follows p e' → Chained previous (es.set i e')) := by
  induction es generalizing previous i with
  | nil => cases hi
  | cons f fs ih =>
    cases i with
    | zero =>
      obtain rfl : f = e := Option.some.inj hi
      refine ⟨previous, hc.1, fun h => h.1, fun hhead hf => ⟨hf, ?_⟩⟩
      rw [hhead]
      exact hc.2
    | succ i =>
      obtain ⟨p, hfe, hfwd, hback⟩ := ih hc.2 hi
      exact ⟨p, hfe, fun h => hfwd h.2, fun hhead hf => ⟨hc.1, hback hhead hf⟩⟩

end Commitment

/-! ## Closed batches -/

/-- The run and time of the batches below. -/
def sampleRun : RunId := 1

def sampleTime : SimTime := { year := 2026, month := 1, day := 1 }

/-- A `TICK_STARTED` draft with an actor and subjects. -/
def tickDraft (actor : Option String) (subjects : List String) : NewEvent Value :=
  { kind := 1002, payload := .dict [("tick", .int 1)], actorId := actor, subjectIds := subjects }

/-- The content a draft is sealed with as the first event of its run. -/
def firstContent (draft : NewEvent Value) : Content Value :=
  { seq := 1, runId := sampleRun, tick := 1, simTime := sampleTime, kind := draft.kind,
    actorId := draft.actorId, subjectIds := draft.subjectIds, causeSeq := draft.causeSeq,
    payload := draft.payload, sig := draft.sig, prevHash := GENESIS_PREV_HASH }

/-- The draft sealed as the first event of its run. -/
def firstEvent (draft : NewEvent Value) : Option (Event Value) :=
  let _ : CanonicalJson Value := canonValues
  let _ : Sha256 := hashlib
  sealEvent draft 1 sampleRun 1 sampleTime GENESIS_PREV_HASH

/-- A stored event with its SHA-256 hash. -/
def storedTick : Event Value :=
  { firstContent (tickDraft (some "ab") ["x"]) with
    hash := "b6565967a92e0466f2ac3b1e5d4e232bbed8f127515ac62c896c0d68673c5af8" }

end Polis.Events
