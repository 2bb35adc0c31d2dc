/-
  Polis.Events.Hashing — events and the bytes their hash covers
  (`events/types.py`, `events/hashing.py`).

  The payload type is a parameter with its canonical JSON encoder; SHA-256 is
  a parameter too.  An encoder that raises in the source returns `none`.

  Main results:
    * `canonicalEventBytes_inj` — the fixed-width fields are always
      recovered; the fields of variable length are recovered up to their
      concatenation.
    * `seal_recompute` — a sealed event passes its own hash check.
-/
import Polis.Lib.Bytes
import Polis.Base
import Mathlib.Data.List.Sort
import Mathlib.Data.String.Basic

namespace Polis.Events

open Lib.Bytes

/-! ## Parameters -/

/-- `hashlib.sha256`. -/
class Sha256 where
  digest : ByteString → ByteString

/-- `canonical_bytes`: compact JSON with sorted keys, or an error. -/
class CanonicalJson (P : Type) where
  canonicalBytes : P → Option ByteString

/-- No collision between two inputs: equal digests come from equal inputs. -/
def NoCollision [Sha256] (a b : ByteString) : Prop := Sha256.digest a = Sha256.digest b → a = b

/-- No collision between two payloads: equal canonical bytes come from equal
payloads. -/
def NoConfusion {P : Type} [CanonicalJson P] (p q : P) : Prop :=
  CanonicalJson.canonicalBytes p = CanonicalJson.canonicalBytes q → p = q

/-! ## Hexadecimal text -/

/-- The lowercase hexadecimal digit of a number below 16. -/
def hexChar (n : Nat) : Char := Nat.digitChar n

/-- `bytes.hex`. -/
def hex (b : ByteString) : String :=
  String.ofList (b.flatMap fun x => [hexChar (x.toNat / 16), hexChar (x.toNat % 16)])

/-- The value of a hexadecimal digit in either case. -/
def hexDigit (c : Char) : Option Nat :=
  if '0' ≤ c ∧ c ≤ '9' then some (c.toNat - 48)
  else if 'a' ≤ c ∧ c ≤ 'f' then some (c.toNat - 87)
  else if 'A' ≤ c ∧ c ≤ 'F' then some (c.toNat - 55)
  else none

/-- ASCII white space. -/
def isSpace (c : Char) : Bool := c = ' ' || (9 ≤ c.toNat && c.toNat ≤ 13)

/-- `bytes.fromhex` on characters: pairs of digits, white space between pairs
ignored. -/
def fromhexChars : List Char → Option ByteString
  | [] => some []
  | [c] => if isSpace c then some [] else none
  | c :: d :: cs =>
    if isSpace c then fromhexChars (d :: cs)
    else
      match hexDigit c, hexDigit d with
      | some hi, some lo => (fromhexChars cs).map fun b => UInt8.ofNat (16 * hi + lo) :: b
      | _, _ => none

/-- `bytes.fromhex`. -/
def fromhex (s : String) : Option ByteString := fromhexChars s.toList

/-! ## Simulated time -/

theorem zero_lt_hundred : 0 < 100 := by decide

theorem one_lt_hundred : 1 < 100 := by decide

/-- A `datetime`: `aware` says that it carries a time zone. -/
structure SimTime where
  year : Nat
  month : Nat
  day : Nat
  hour : Nat := 0
  minute : Nat := 0
  second : Nat := 0
  microsecond : Nat := 0
  aware : Bool := false
  year_lt : year < 10000 := by decide
  month_lt : month < 100 := by first | exact one_lt_hundred | decide
  day_lt : day < 100 := by first | exact one_lt_hundred | decide
  hour_lt : hour < 100 := by first | exact zero_lt_hundred | decide
  minute_lt : minute < 100 := by first | exact zero_lt_hundred | decide
  second_lt : second < 100 := by first | exact zero_lt_hundred | decide
  deriving DecidableEq

/-- `isoformat` of a naive time without microseconds, in UTF-8. -/
def SimTime.isoformat (t : SimTime) : ByteString :=
  decimal 4 t.year ++ [45] ++ decimal 2 t.month ++ [45] ++ decimal 2 t.day ++ [84]
    ++ decimal 2 t.hour ++ [58] ++ decimal 2 t.minute ++ [58] ++ decimal 2 t.second

@[simp] theorem SimTime.isoformat_length (t : SimTime) : t.isoformat.length = 19 := by
  simp [isoformat]

/-- The check `canonical_event_bytes` makes before it encodes a time. -/
def SimTime.Plain (t : SimTime) : Prop := t.aware = false ∧ t.microsecond = 0

instance (t : SimTime) : Decidable t.Plain := inferInstanceAs (Decidable (_ ∧ _))

theorem SimTime.isoformat_inj {t u : SimTime} (ht : t.Plain) (hu : u.Plain)
    (h : t.isoformat = u.isoformat) : t = u := by
  unfold isoformat at h
  obtain ⟨h, hsec⟩ := List.append_inj h (by simp)
  obtain ⟨h, -⟩ := List.append_inj h (by simp)
  obtain ⟨h, hmin⟩ := List.append_inj h (by simp)
  obtain ⟨h, -⟩ := List.append_inj h (by simp)
  obtain ⟨h, hhour⟩ := List.append_inj h (by simp)
  obtain ⟨h, -⟩ := List.append_inj h (by simp)
  obtain ⟨h, hday⟩ := List.append_inj h (by simp)
  obtain ⟨h, -⟩ := List.append_inj h (by simp)
  obtain ⟨h, hmon⟩ := List.append_inj h (by simp)
  obtain ⟨hyear, -⟩ := List.append_inj h (by simp)
  have e₁ := decimal_inj t.year_lt u.year_lt hyear
  have e₂ := decimal_inj t.month_lt u.month_lt hmon
  have e₃ := decimal_inj t.day_lt u.day_lt hday
  have e₄ := decimal_inj t.hour_lt u.hour_lt hhour
  have e₅ := decimal_inj t.minute_lt u.minute_lt hmin
  have e₆ := decimal_inj t.second_lt u.second_lt hsec
  have e₇ : t.microsecond = u.microsecond := ht.2.trans hu.2.symm
  have e₈ : t.aware = u.aware := ht.1.trans hu.1.symm
  cases t
  cases u
  simp_all

/-! ## Events -/

/-- A run identifier: the 128 bits of a UUID. -/
abbrev RunId := BitVec 128

/-- `UUID.bytes`. -/
def RunId.bytes (r : RunId) : ByteString := bigEndian 16 r.toNat

theorem RunId.bytes_inj {r s : RunId} (h : RunId.bytes r = RunId.bytes s) : r = s :=
  BitVec.eq_of_toNat_eq (bigEndian_inj r.isLt s.isLt h)

def GENESIS_PREV_HASH : String := String.ofList (List.replicate 64 '0')

def EPHEMERAL_SEQ : Int := -1

variable {P : Type}

/-- The fields of an event that its hash covers. -/
structure Content (P : Type) where
  seq : Int
  runId : RunId
  tick : Int
  simTime : SimTime
  kind : Int
  actorId : Option String
  subjectIds : List String
  causeSeq : Option Int
  payload : P
  sig : Option String
  prevHash : String
  deriving DecidableEq

/-- `Event`. -/
structure Event (P : Type) extends Content P where
  hash : String
  deriving DecidableEq

/-- `NewEvent`. -/
structure NewEvent (P : Type) where
  kind : Int
  payload : P
  actorId : Option String := none
  subjectIds : List String := []
  causeSeq : Option Int := none
  sig : Option String := none

/-- `tuple(sorted(subject_ids))`. -/
def sortedIds (ids : List String) : List String := ids.insertionSort (· ≤ ·)

@[simp] theorem sortedIds_sortedIds (ids : List String) :
    sortedIds (sortedIds ids) = sortedIds ids :=
  List.Pairwise.insertionSort_eq (List.pairwise_insertionSort (· ≤ ·) ids)

/-! ## The bytes of an event -/

/-- `"\x1f".join(sorted(subject_ids)).encode()`. -/
def subjectBytes (ids : List String) : ByteString :=
  utf8 (String.intercalate "\x1f" (sortedIds ids))

/-- The actor or signature text, an absent one as the empty text. -/
def textBytes (s : Option String) : ByteString := utf8 (s.getD "")

variable [CanonicalJson P]

/-- The fields of fixed width: sequence number, run, tick, time and kind. -/
def headBytes (c : Content P) : Option ByteString := do
  let seq ← toBytes 8 c.seq
  let tick ← toBytes 8 c.tick
  let kind ← toBytes 4 c.kind
  if c.simTime.Plain then
    some (seq ++ RunId.bytes c.runId ++ tick ++ c.simTime.isoformat ++ kind)
  else none

/-- The remaining fields, joined without lengths or separators. -/
def tailBytes (c : Content P) : Option ByteString := do
  let cause ← toBytesSigned 8 (c.causeSeq.getD (-1))
  let payload ← CanonicalJson.canonicalBytes c.payload
  let prev ← fromhex c.prevHash
  some (textBytes c.actorId ++ subjectBytes c.subjectIds ++ cause ++ payload
    ++ textBytes c.sig ++ prev)

/-- `canonical_event_bytes`. -/
def canonicalEventBytes (c : Content P) : Option ByteString := do
  let head ← headBytes c
  let tail ← tailBytes c
  some (head ++ tail)

theorem canonicalEventBytes_eq_some {c : Content P} {b : ByteString} :
    canonicalEventBytes c = some b ↔
      ∃ h t, headBytes c = some h ∧ tailBytes c = some t ∧ h ++ t = b := by
  unfold canonicalEventBytes
  simp only [Option.bind_eq_bind, Option.bind_eq_some_iff, Option.some.injEq]
  constructor
  · rintro ⟨h, hh, t, ht, rfl⟩
    exact ⟨h, t, hh, ht, rfl⟩
  · rintro ⟨h, t, hh, ht, rfl⟩
    exact ⟨h, hh, t, ht, rfl⟩

omit [CanonicalJson P] in
theorem headBytes_eq_some {c : Content P} {b : ByteString} :
    headBytes c = some b ↔ ∃ seq tick kind, toBytes 8 c.seq = some seq ∧
      toBytes 8 c.tick = some tick ∧ toBytes 4 c.kind = some kind ∧ c.simTime.Plain ∧
      seq ++ RunId.bytes c.runId ++ tick ++ c.simTime.isoformat ++ kind = b := by
  unfold headBytes
  simp only [Option.bind_eq_bind, Option.bind_eq_some_iff]
  constructor
  · rintro ⟨seq, hs, tick, ht, kind, hk, h⟩
    split at h
    · rename_i hp
      exact ⟨seq, tick, kind, hs, ht, hk, hp, Option.some.inj h⟩
    · cases h
  · rintro ⟨seq, tick, kind, hs, ht, hk, hp, rfl⟩
    exact ⟨seq, hs, tick, ht, kind, hk, if_pos hp⟩

theorem tailBytes_eq_some {c : Content P} {b : ByteString} :
    tailBytes c = some b ↔ ∃ cause payload prev,
      toBytesSigned 8 (c.causeSeq.getD (-1)) = some cause ∧
      CanonicalJson.canonicalBytes c.payload = some payload ∧ fromhex c.prevHash = some prev ∧
      textBytes c.actorId ++ subjectBytes c.subjectIds ++ cause ++ payload
        ++ textBytes c.sig ++ prev = b := by
  unfold tailBytes
  simp only [Option.bind_eq_bind, Option.bind_eq_some_iff, Option.some.injEq]
  constructor
  · rintro ⟨cause, hc, payload, hp, prev, hv, rfl⟩
    exact ⟨cause, payload, prev, hc, hp, hv, rfl⟩
  · rintro ⟨cause, payload, prev, hc, hp, hv, rfl⟩
    exact ⟨cause, hc, payload, hp, prev, hv, rfl⟩

/-- The fixed-width fields agree. -/
structure SameHead (c d : Content P) : Prop where
  seq : c.seq = d.seq
  runId : c.runId = d.runId
  tick : c.tick = d.tick
  simTime : c.simTime = d.simTime
  kind : c.kind = d.kind

omit [CanonicalJson P] in
theorem headBytes_length {c : Content P} {b : ByteString} (h : headBytes c = some b) :
    b.length = 55 := by
  obtain ⟨seq, tick, kind, hs, ht, hk, -, rfl⟩ := headBytes_eq_some.mp h
  simp [toBytes_length hs, toBytes_length ht, toBytes_length hk, RunId.bytes]

omit [CanonicalJson P] in
theorem headBytes_inj {c d : Content P} {b : ByteString} (hc : headBytes c = some b)
    (hd : headBytes d = some b) : SameHead c d := by
  obtain ⟨seq, tick, kind, hs, ht, hk, hp, rfl⟩ := headBytes_eq_some.mp hc
  obtain ⟨seq', tick', kind', hs', ht', hk', hp', h⟩ := headBytes_eq_some.mp hd
  obtain ⟨h, ekind⟩ := List.append_inj h (by
    simp [RunId.bytes, toBytes_length hs, toBytes_length ht, toBytes_length hs',
      toBytes_length ht'])
  obtain ⟨h, etime⟩ := List.append_inj h (by
    simp [RunId.bytes, toBytes_length hs, toBytes_length ht, toBytes_length hs',
      toBytes_length ht'])
  obtain ⟨h, etick⟩ := List.append_inj h (by
    simp [RunId.bytes, toBytes_length hs, toBytes_length hs'])
  obtain ⟨eseq, erun⟩ := List.append_inj h (by rw [toBytes_length hs, toBytes_length hs'])
  subst eseq etick ekind
  exact
    { seq := toBytes_inj hs hs'
      runId := (RunId.bytes_inj erun).symm
      tick := toBytes_inj ht ht'
      simTime := (SimTime.isoformat_inj hp' hp etime).symm
      kind := toBytes_inj hk hk' }

omit [CanonicalJson P] in
theorem SameHead.headBytes_eq {c d : Content P} (h : SameHead c d) :
    headBytes c = headBytes d := by
  unfold headBytes
  rw [h.seq, h.tick, h.kind, h.simTime, h.runId]

theorem canonicalEventBytes_inj {c d : Content P} {b b' : ByteString}
    (hc : canonicalEventBytes c = some b) (hd : canonicalEventBytes d = some b') :
    b = b' ↔ SameHead c d ∧ tailBytes c = tailBytes d := by
  obtain ⟨h, t, hh, ht, rfl⟩ := canonicalEventBytes_eq_some.mp hc
  obtain ⟨h', t', hh', ht', rfl⟩ := canonicalEventBytes_eq_some.mp hd
  constructor
  · intro heq
    obtain ⟨rfl, rfl⟩ := List.append_inj heq (by
      rw [headBytes_length hh, headBytes_length hh'])
    exact ⟨headBytes_inj hh hh', ht.trans ht'.symm⟩
  · rintro ⟨hhead, htail⟩
    have e₁ := hhead.headBytes_eq
    rw [hh, hh', Option.some.injEq] at e₁
    rw [ht, ht', Option.some.injEq] at htail
    rw [e₁, htail]

/-! ## Sealing and recomputing -/

variable [Sha256]

/-- `event_hash`. -/
def eventHash (c : Content P) : Option String :=
  (canonicalEventBytes c).map fun b => hex (Sha256.digest b)

/-- `seal`: the draft at its place in the chain, with its hash. -/
def sealEvent (draft : NewEvent P) (seq : Int) (runId : RunId) (tick : Int) (simTime : SimTime)
    (prevHash : String) : Option (Event P) := do
  let digest ← eventHash
    { seq, runId, tick, simTime, kind := draft.kind, actorId := draft.actorId,
      subjectIds := draft.subjectIds, causeSeq := draft.causeSeq, payload := draft.payload,
      sig := draft.sig, prevHash }
  some
    { seq, runId, tick, simTime, kind := draft.kind, actorId := draft.actorId,
      subjectIds := sortedIds draft.subjectIds, causeSeq := draft.causeSeq,
      payload := draft.payload, sig := draft.sig, prevHash, hash := digest }

/-- `recompute`. -/
def recompute (e : Event P) : Option String := eventHash e.toContent

omit [CanonicalJson P] [Sha256] in
@[simp] theorem subjectBytes_sortedIds (ids : List String) :
    subjectBytes (sortedIds ids) = subjectBytes ids := by
  simp [subjectBytes]

theorem eventHash_sorted (c : Content P) :
    eventHash { c with subjectIds := sortedIds c.subjectIds } = eventHash c := by
  unfold eventHash canonicalEventBytes
  have hhead : headBytes { c with subjectIds := sortedIds c.subjectIds } = headBytes c := rfl
  have htail : tailBytes { c with subjectIds := sortedIds c.subjectIds } = tailBytes c := by
    unfold tailBytes
    simp
  rw [hhead, htail]

/-- What a sealed event carries. -/
structure Sealed (draft : NewEvent P) (seq : Int) (runId : RunId) (tick : Int)
    (prevHash : String) (e : Event P) : Prop where
  seq_eq : e.seq = seq
  runId_eq : e.runId = runId
  tick_eq : e.tick = tick
  kind_eq : e.kind = draft.kind
  payload_eq : e.payload = draft.payload
  prevHash_eq : e.prevHash = prevHash
  recompute_eq : recompute e = some e.hash
  seq_nonneg : 0 ≤ e.seq
  tick_nonneg : 0 ≤ e.tick

theorem seal_recompute {draft : NewEvent P} {seq : Int} {runId : RunId} {tick : Int}
    {simTime : SimTime} {prevHash : String} {e : Event P}
    (h : sealEvent draft seq runId tick simTime prevHash = some e) :
    Sealed draft seq runId tick prevHash e := by
  unfold sealEvent at h
  simp only [Option.bind_eq_bind, Option.bind_eq_some_iff, Option.some.injEq] at h
  obtain ⟨digest, hd, rfl⟩ := h
  -- the hash exists, so the integers fit their unsigned encodings
  have hbytes := hd
  unfold eventHash at hbytes
  obtain ⟨b, hb, -⟩ := Option.map_eq_some_iff.mp hbytes
  obtain ⟨hh, tt, hhead, -, -⟩ := canonicalEventBytes_eq_some.mp hb
  obtain ⟨_, _, _, hs, ht, -⟩ := headBytes_eq_some.mp hhead
  exact
    { seq_eq := rfl
      runId_eq := rfl
      tick_eq := rfl
      kind_eq := rfl
      payload_eq := rfl
      prevHash_eq := rfl
      recompute_eq := (eventHash_sorted _).trans hd
      seq_nonneg := (toBytes_eq_some.mp hs).1.1
      tick_nonneg := (toBytes_eq_some.mp ht).1.1 }

end Polis.Events
