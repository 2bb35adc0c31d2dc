/-
  Polis.Kernel.Checkpoint — checkpoints of named components
  (`kernel/checkpoint.py`).

  A checkpoint is the canonical JSON of what its components dumped, kept in a
  blob whose key is read back off the URI of the blob.  A restore loads the
  components one after another.

  Main results:
    * `keyBehind_uri` — the key that is read back off the URI of a checkpoint.
    * `loads_of_payload` — what the components load of a payload.
-/
import Polis.Events.Tamper
import Polis.Economy.Money
import Polis.Lib.Effect
import Polis.Lib.StableSort
import Polis.Store.Blobs

namespace Polis

/-! ## JSON values -/

namespace Value

mutual

/-- Every mapping has each of its keys once. -/
def Keyed : Value → Prop
  | .list xs => ItemsKeyed xs
  | .dict xs => (xs.map Prod.fst).Nodup ∧ MembersKeyed xs
  | _ => True

def ItemsKeyed : List Value → Prop
  | [] => True
  | x :: xs => x.Keyed ∧ ItemsKeyed xs

def MembersKeyed : List (String × Value) → Prop
  | [] => True
  | (_, x) :: xs => x.Keyed ∧ MembersKeyed xs

end

mutual

/-- The value with every mapping in key order. -/
def keySorted : Value → Value
  | .list xs => .list (itemsSorted xs)
  | .dict xs => .dict (Lib.StableSort.sortByKey Prod.fst (membersSorted xs))
  | v => v

def itemsSorted : List Value → List Value
  | [] => []
  | x :: xs => x.keySorted :: itemsSorted xs

def membersSorted : List (String × Value) → List (String × Value)
  | [] => []
  | (k, x) :: xs => (k, x.keySorted) :: membersSorted xs

end

theorem membersKeyed_iff {xs : List (String × Value)} :
    MembersKeyed xs ↔ ∀ e ∈ xs, e.2.Keyed := by
  induction xs with
  | nil => simp [MembersKeyed]
  | cons x xs ih =>
    obtain ⟨k, v⟩ := x
    rw [MembersKeyed, ih, List.forall_mem_cons]

theorem membersSorted_eq_map (xs : List (String × Value)) :
    membersSorted xs = xs.map fun e => (e.1, e.2.keySorted) := by
  induction xs with
  | nil => rfl
  | cons x xs ih =>
    obtain ⟨k, v⟩ := x
    rw [membersSorted, ih]
    rfl

/-- `value[name]` of a mapping. -/
def member? (v : Value) (name : String) : Option Value :=
  match v with
  | .dict xs => Lib.Dict.lookup name xs
  | _ => Option.none

end Value

namespace Kernel

open Lib Lib.Bytes Lib.Effect Lib.SlashText Lib.StableSort Polis.Events Polis.Economy Polis.Store

/-- `json.loads` beside `json.dumps`: what is dumped is loaded again, every
mapping in key order. -/
class JsonReader extends CanonicalJson Value where
  loads : ByteString → Option Value
  loads_dumped : ∀ (v : Value) (b : ByteString), v.Keyed →
    CanonicalJson.canonicalBytes v = some b → loads b = some v.keySorted

/-- `zlib`. -/
class Zlib where
  compress : ByteString → ByteString
  decompress : ByteString → Option ByteString
  decompress_compress : ∀ b, decompress (compress b) = some b

/-! ## The manager -/

/-- `Checkpointable`: what a component dumps, and what its `load` does with a
value. -/
structure Component where
  name : String
  dump : Value
  keyed : dump.Keyed
  load : Value → Except PyError Unit

/-- `Checkpoint`. -/
structure Checkpoint where
  runId : RunId
  tick : Int
  lastSeq : Int
  chainHash : String
  uri : ByteString
  bytes : Nat
  payloadHash : String

/-- What `write` and `restore` raise. -/
inductive CheckpointFault where
  | py (error : PyError)
  | store (error : StoreError)
  | config (message : String)
  | noRecord (runId : RunId) (tick : Int)
  | zlib
  | json

structure CheckpointManager where
  blobs : LocalBlobStore
  interval : Int := 500
  compress : Bool := true

/-- The files and the records of a manager. -/
structure CheckpointState where
  disk : Disk
  records : Dict (RunId × Int) Checkpoint := ∅

/-- `f"{tick:012d}"`. -/
def tickText (tick : Int) : String :=
  if tick < 0 then "-" ++ zeroPad 11 (-tick).toNat else zeroPad 12 tick.toNat

/-- The values by name; of components with one name, the last one's. -/
def payload (components : List Component) : Dict String Value :=
  Dict.ofList ((sortByKey Component.name components).map fun c => (c.name, c.dump))

/-- What the loads of a restore received so far. -/
abbrev Loads := List (String × Value)

/-- `component.load(payload[component.name])`. -/
def loadComponent (payload : Value) (c : Component) : EStateM CheckpointFault Loads Unit := do
  let v ← orRaise (payload.member? c.name) (.py (.key c.name))
  liftE ((c.load v).mapError .py)
  modify fun loads => loads ++ [(c.name, v)]

namespace CheckpointManager

variable (M : CheckpointManager)

/-- `due`. -/
def due (tick : Int) : Bool := 0 < tick && tick % M.interval == 0

/-- The suffix of a blob. -/
def suffix : String := if M.compress then "json.zlib" else "json"

/-- The key of a blob. -/
def key (runId : RunId) (tick : Int) : ByteString :=
  asciiBytes ("checkpoints/" ++ hex runId.bytes ++ "/" ++ tickText tick ++ "." ++ M.suffix)

variable [Zlib]

def pack (raw : ByteString) : ByteString := if M.compress then Zlib.compress raw else raw

def unpack (data : ByteString) : Option ByteString :=
  if M.compress then Zlib.decompress data else some data

variable [JsonReader] [Sha256]

/-- `write`. -/
def write (runId : RunId) (tick lastSeq : Int) (chainHash : String) (components : List Component) :
    EStateM CheckpointFault CheckpointState Checkpoint := do
  let s ← get
  let raw ← orRaise (CanonicalJson.canonicalBytes (Value.dict (payload components).entries))
    (.config "value is not canonical JSON")
  let data := M.pack raw
  let stored ← liftE ((M.blobs.put s.disk (M.key runId tick) data).mapError .store)
  let checkpoint : Checkpoint :=
    { runId, tick, lastSeq, chainHash, uri := stored.1, bytes := data.length
      payloadHash := hex (Events.Sha256.digest raw) }
  set ({ disk := stored.2, records := s.records.put (runId, tick) checkpoint } : CheckpointState)
  pure checkpoint

/-- `restore`, in the state `s` of the manager. -/
def restore (s : CheckpointState) (runId : RunId) (tick : Int) (components : List Component) :
    EStateM CheckpointFault Loads Checkpoint := do
  let checkpoint ← orRaise (s.records.get? (runId, tick)) (.noRecord runId tick)
  let key := afterFirst (asciiBytes "/checkpoints/") checkpoint.uri
  let found ← liftE ((M.blobs.get s.disk (asciiBytes "checkpoints/" ++ key)).mapError .store)
  let data ← orRaise found (.py (.value "checkpoint blob is missing"))
  let raw ← orRaise (M.unpack data) .zlib
  require (hex (Events.Sha256.digest raw) = checkpoint.payloadHash)
    (.py (.value "checkpoint payload hash mismatch"))
  let payload ← orRaise (JsonReader.loads raw) .json
  each (loadComponent payload) components
  pure checkpoint

end CheckpointManager

/-! ## Blobs of checkpoints -/

def CHECKPOINTS : ByteString := asciiBytes "checkpoints"

theorem asciiBytes_append (s t : String) : asciiBytes (s ++ t) = asciiBytes s ++ asciiBytes t := by
  simp [asciiBytes]

/-- The ASCII characters that a URI shows as they are. -/
def Plain (c : Char) : Prop := c.toNat < 128 ∧ unreserved (UInt8.ofNat c.toNat) = true

instance (c : Char) : Decidable (Plain c) :=
  inferInstanceAs (Decidable (c.toNat < 128 ∧ unreserved (UInt8.ofNat c.toNat) = true))

/-- A text of plain characters. -/
def PlainText (s : String) : Prop := ∀ c ∈ s.toList, Plain c

instance (s : String) : Decidable (PlainText s) :=
  decidable_of_iff (s.toList.all fun c => decide (Plain c)) (by simp [PlainText])

theorem PlainText.append {s t : String} (hs : PlainText s) (ht : PlainText t) :
    PlainText (s ++ t) := by
  intro c hc
  rw [String.toList_append, List.mem_append] at hc
  exact hc.elim (hs c) (ht c)

theorem PlainText.shown {s : String} (h : PlainText s) :
    ∀ b ∈ asciiBytes s, unreserved b = true := by
  intro b hb
  obtain ⟨c, hc, rfl⟩ := List.mem_map.mp hb
  exact (h c hc).2

theorem PlainText.isName {s : String} (h : PlainText s) (hlen : 2 < s.toList.length) :
    IsName (asciiBytes s) := by
  have hlength : (asciiBytes s).length = s.toList.length := by simp [asciiBytes]
  refine ⟨?_, ?_, ?_, ?_⟩
  · intro hempty
    rw [hempty] at hlength
    simp at hlength
    omega
  · intro hslash
    exact absurd (h.shown _ hslash) (by decide)
  · intro hdot
    rw [hdot] at hlength
    have : (asciiBytes ".").length = 1 := by decide
    omega
  · intro hdots
    rw [hdots] at hlength
    have : (asciiBytes "..").length = 2 := by decide
    omega

theorem plain_isDigit {c : Char} (h : c.isDigit = true) : Plain c := by
  have hrange : 48 ≤ c.toNat ∧ c.toNat ≤ 57 := by
    simpa [Char.isDigit, UInt32.le_iff_toNat_le, ← Char.toNat_val] using h
  have hall : ∀ n : Fin 58, 48 ≤ n.val → unreserved (UInt8.ofNat n.val) = true := by decide
  exact ⟨by omega, hall ⟨c.toNat, by omega⟩ hrange.1⟩

theorem plain_hex (b : ByteString) : PlainText (hex b) := by
  have hchar : ∀ n < 16, Plain (hexChar n) := by decide
  intro c hc
  unfold hex at hc
  rw [String.toList_ofList, List.mem_flatMap] at hc
  obtain ⟨x, -, hin⟩ := hc
  have hx := x.toNat_lt
  rcases List.mem_cons.mp hin with rfl | hin
  · exact hchar _ (by omega)
  · rw [List.mem_singleton.mp hin]
    exact hchar _ (by omega)

theorem plain_zeroPad (width n : Nat) : PlainText (zeroPad width n) :=
  fun _ hc => plain_isDigit (isDigit_zeroPad hc)

theorem plain_tickText (tick : Int) : PlainText (tickText tick) := by
  unfold tickText
  split
  · exact .append (by decide) (plain_zeroPad _ _)
  · exact plain_zeroPad _ _

theorem tickText_injective {t u : Int} (h : tickText t = tickText u) : t = u := by
  -- a minus sign is no digit
  have hsign : ∀ width n m, zeroPad width n ≠ "-" ++ zeroPad 11 m := by
    intro width n m heq
    have hin : '-' ∈ (zeroPad width n).toList := by
      rw [heq, String.toList_append]
      exact List.mem_append_left _ (by decide)
    exact absurd (isDigit_zeroPad hin) (by decide)
  unfold tickText at h
  by_cases ht : t < 0
  · rw [if_pos ht] at h
    by_cases hu : u < 0
    · rw [if_pos hu] at h
      have hpad := zeroPad_injective ((String.append_right_inj _).mp h)
      omega
    · rw [if_neg hu] at h
      exact absurd h.symm (hsign _ _ _)
  · rw [if_neg ht] at h
    by_cases hu : u < 0
    · rw [if_pos hu] at h
      exact absurd h (hsign _ _ _)
    · rw [if_neg hu] at h
      have hpad := zeroPad_injective h
      omega

theorem asciiBytes_injective {s t : String} (hs : PlainText s) (ht : PlainText t)
    (h : asciiBytes s = asciiBytes t) : s = t := by
  have hread : ∀ u : String, PlainText u → (asciiBytes u).map (fun b => Char.ofNat b.toNat) = u.toList := by
    intro u hu
    unfold asciiBytes
    rw [List.map_map]
    refine (List.map_congr_left fun c hc => ?_).trans (List.map_id _)
    have hlt := (hu c hc).1
    have hbyte : (UInt8.ofNat c.toNat).toNat = c.toNat := by
      rw [UInt8.toNat_ofNat', Nat.mod_eq_of_lt (by omega)]
    show Char.ofNat (UInt8.ofNat c.toNat).toNat = c
    rw [hbyte]
    exact Char.ofNat_toNat c
  exact String.toList_injective ((hread s hs).symm.trans ((congrArg _ h).trans (hread t ht)))

namespace CheckpointManager

variable (M : CheckpointManager)

/-- The file of a blob. -/
def fileName (tick : Int) : ByteString := asciiBytes (tickText tick ++ "." ++ M.suffix)

/-- The names below the root that lead to a blob. -/
def blobNames (runId : RunId) (tick : Int) : List ByteString :=
  [CHECKPOINTS, asciiBytes (hex runId.bytes), M.fileName tick]

/-- The file of a checkpoint. -/
def blobPath (runId : RunId) (tick : Int) : Path := M.blobs.root ++ M.blobNames runId tick

theorem plain_fileName (tick : Int) : PlainText (tickText tick ++ "." ++ M.suffix) := by
  refine .append (.append (plain_tickText tick) (by decide)) ?_
  unfold suffix
  split
  · decide
  · decide

theorem key_eq (runId : RunId) (tick : Int) :
    M.key runId tick = joined SLASH (M.blobNames runId tick) := by
  have hslash : asciiBytes "/" = [SLASH] := by decide
  have hdir : asciiBytes "checkpoints/" = CHECKPOINTS ++ [SLASH] := by decide
  unfold key blobNames fileName joined slashed
  simp only [asciiBytes_append, hslash, hdir, List.flatMap_cons, List.flatMap_nil, List.append_nil,
    List.cons_append, List.tail_cons, List.append_assoc, List.nil_append]

theorem blobNames_name (runId : RunId) (tick : Int) :
    ∀ name ∈ M.blobNames runId tick, IsName name := by
  have hhex : 2 < (hex runId.bytes).toList.length := by
    unfold hex RunId.bytes
    simp [bigEndian]
  have hfile : 2 < (tickText tick ++ "." ++ M.suffix).toList.length := by
    unfold suffix
    split
    · simp
    · simp
  simp only [blobNames, List.forall_mem_cons, List.not_mem_nil, false_imp_iff, implies_true, and_true]
  exact ⟨by decide, (plain_hex _).isName hhex, (M.plain_fileName tick).isName hfile⟩

theorem blobNames_quote (runId : RunId) (tick : Int) :
    (M.blobNames runId tick).map quote = M.blobNames runId tick := by
  have hdir : quote CHECKPOINTS = CHECKPOINTS :=
    quote_of_unreserved (List.all_eq_true.mp (by decide))
  simp only [blobNames, List.map_cons, List.map_nil, hdir,
    quote_of_unreserved (plain_hex runId.bytes).shown,
    quote_of_unreserved (M.plain_fileName tick).shown, fileName]

theorem blobPath_injective {runId runId' : RunId} {tick tick' : Int}
    (h : M.blobPath runId tick = M.blobPath runId' tick') : runId = runId' ∧ tick = tick' := by
  have hnames := List.append_cancel_left h
  simp only [blobNames, List.cons.injEq, true_and, and_true] at hnames
  have hhex := asciiBytes_injective (plain_hex _) (plain_hex _) hnames.1
  have hfile := asciiBytes_injective (M.plain_fileName _) (M.plain_fileName _) hnames.2
  rw [String.append_left_inj, String.append_left_inj] at hfile
  exact ⟨RunId.bytes_inj (hex_inj hhex), tickText_injective hfile⟩

theorem asUri_eq (path : Path) : asUri path
    = asciiBytes "file:" ++ slashed SLASH (([] :: [] :: path).map quote) := by
  have hstart : asciiBytes "file://" = asciiBytes "file:" ++ [SLASH, SLASH] := by decide
  unfold asUri
  rw [hstart, List.append_assoc]
  rfl

theorem keyBehind_uri (runId : RunId) (tick : Int) {above below : Path}
    (hpath : M.blobPath runId tick = above ++ CHECKPOINTS :: below) (hne : below ≠ [])
    (hnames : ∀ name ∈ above, IsName name) (hfirst : CHECKPOINTS ∉ above) :
    afterFirst (asciiBytes "/checkpoints/") (asUri (M.blobPath runId tick))
      = joined SLASH (below.map quote) := by
  have hsep : asciiBytes "/checkpoints/" = SLASH :: (CHECKPOINTS ++ [SLASH]) := by decide
  have hplain : ∀ b ∈ CHECKPOINTS, unreserved b = true := List.all_eq_true.mp (by decide)
  have hquote : quote CHECKPOINTS = CHECKPOINTS := quote_of_unreserved hplain
  have hwords : ([] :: [] :: M.blobPath runId tick).map quote
      = ([] :: [] :: above.map quote) ++ CHECKPOINTS :: below.map quote := by
    rw [hpath]
    simp only [List.map_cons, List.map_append, hquote, List.cons_append]
    rfl
  rw [asUri_eq, hwords, hsep]
  apply afterFirst_slashed (by decide) (by decide)
  · intro w hw
    rcases List.mem_cons.mp hw with rfl | hw
    · exact List.not_mem_nil
    · rcases List.mem_cons.mp hw with rfl | hw
      · exact List.not_mem_nil
      · obtain ⟨name, hname, rfl⟩ := List.mem_map.mp hw
        exact slash_quote (hnames name hname).2.1
  · intro hin
    rcases List.mem_cons.mp hin with hnil | hin
    · exact absurd hnil (by decide)
    · rcases List.mem_cons.mp hin with hnil | hin
      · exact absurd hnil (by decide)
      · obtain ⟨name, hname, heq⟩ := List.mem_map.mp hin
        exact hfirst ((quote_eq_iff hplain).mp heq ▸ hname)
  · simpa using hne

theorem key_joined {names : List ByteString} (hne : names ≠ []) :
    asciiBytes "checkpoints/" ++ joined SLASH names = joined SLASH (CHECKPOINTS :: names) := by
  have hdir : asciiBytes "checkpoints/" = CHECKPOINTS ++ [SLASH] := by decide
  show _ = CHECKPOINTS ++ slashed SLASH names
  rw [hdir, slashed_eq_joined hne, List.append_assoc]
  rfl

end CheckpointManager

/-! ## Loads -/

/-- A component is in a payload and takes its value. -/
def Accepts (dumps : Dict String Value) (c : Component) : Prop :=
  ∃ v, dumps.get? c.name = some v ∧ c.load v.keySorted = .ok ()

/-- What was loaded: the component's value, its mappings in key order. -/
def Received (dumps : Dict String Value) (c : Component) (load : String × Value) : Prop :=
  load.1 = c.name ∧ ∃ v, dumps.get? c.name = some v ∧ load.2 = v.keySorted

theorem member?_keySorted (dumps : Dict String Value) (name : String) :
    (Value.dict dumps.entries).keySorted.member? name
      = (dumps.get? name).map Value.keySorted := by
  show Dict.lookup name (sortByKey Prod.fst (Value.membersSorted dumps.entries)) = _
  rw [Value.membersSorted_eq_map]
  have hperm : (sortByKey Prod.fst (dumps.entries.map fun e => (e.1, e.2.keySorted))).Perm
      (dumps.mapValues fun _ v => v.keySorted).entries := List.perm_insertionSort _ _
  have hnodup := (hperm.map Prod.fst).nodup_iff.mpr (Dict.nodup _)
  rw [← Dict.get?_mapValues dumps (fun _ v => v.keySorted) name]
  cases hget : (dumps.mapValues fun _ v => v.keySorted).get? name with
  | some v =>
    exact Dict.lookup_of_mem hnodup (hperm.mem_iff.mpr (Dict.mem_entries_iff.mpr hget))
  | none =>
    refine Dict.lookup_eq_none fun hin => ?_
    obtain ⟨e, he, rfl⟩ := List.mem_map.mp hin
    have hsome := Dict.mem_entries_iff.mp (hperm.mem_iff.mp (show (e.1, e.2) ∈ _ from he))
    rw [hget] at hsome
    cases hsome

theorem loadComponent_of_accepts {dumps : Dict String Value} {c : Component}
    (h : Accepts dumps c) (loads : Loads) :
    ∃ load, Received dumps c load ∧
      loadComponent (Value.dict dumps.entries).keySorted c loads = .ok () (loads ++ [load]) := by
  obtain ⟨v, hget, hload⟩ := h
  refine ⟨(c.name, v.keySorted), ⟨rfl, v, hget, rfl⟩, ?_⟩
  unfold loadComponent
  rw [member?_keySorted, hget, Option.map_some]
  have htake : (liftE ((c.load v.keySorted).mapError CheckpointFault.py) :
      EStateM CheckpointFault Loads Unit) loads = .ok () loads := by
    rw [hload]
    rfl
  rw [bind_of_ok (orRaise_eq_ok.mpr ⟨rfl, rfl⟩), bind_of_ok htake]
  rfl

theorem loadComponent_of_refuses {dumps : Dict String Value} {c : Component}
    (h : ¬Accepts dumps c) (loads : Loads) :
    ∃ e, loadComponent (Value.dict dumps.entries).keySorted c loads = .error e loads := by
  unfold loadComponent
  rw [member?_keySorted]
  cases hget : dumps.get? c.name with
  | none => exact ⟨_, rfl⟩
  | some v =>
    rw [Option.map_some, bind_of_ok (orRaise_eq_ok.mpr ⟨rfl, rfl⟩)]
    cases hload : c.load v.keySorted with
    | ok u => exact absurd ⟨v, hget, hload⟩ h
    | error e => exact ⟨_, rfl⟩

theorem loads_of_accepts {dumps : Dict String Value} {components : List Component}
    (h : ∀ c ∈ components, Accepts dumps c) (loads : Loads) :
    ∃ new, List.Forall₂ (Received dumps) components new ∧
      each (loadComponent (Value.dict dumps.entries).keySorted) components loads
        = .ok () (loads ++ new) := by
  induction components generalizing loads with
  | nil => exact ⟨[], .nil, by rw [List.append_nil]; rfl⟩
  | cons c cs ih =>
    obtain ⟨load, hload, hrun⟩ := loadComponent_of_accepts (h c List.mem_cons_self) loads
    obtain ⟨new, hnew, hrest⟩ := ih (fun d hd => h d (List.mem_cons_of_mem _ hd)) (loads ++ [load])
    refine ⟨load :: new, .cons hload hnew, ?_⟩
    show (loadComponent _ c >>= fun _ => each _ cs) loads = _
    rw [bind_of_ok hrun, hrest, List.append_assoc]
    rfl

theorem loads_of_payload {dumps : Dict String Value} {before : List Component} {c : Component}
    (hbefore : ∀ d ∈ before, Accepts dumps d) (hc : ¬Accepts dumps c) (after : List Component)
    (loads : Loads) :
    ∃ e new, new.length = before.length ∧
      each (loadComponent (Value.dict dumps.entries).keySorted) (before ++ c :: after) loads
        = .error e (loads ++ new) := by
  induction before generalizing loads with
  | nil =>
    obtain ⟨e, hrun⟩ := loadComponent_of_refuses hc loads
    refine ⟨e, [], rfl, ?_⟩
    show (loadComponent _ c >>= fun _ => each _ after) loads = _
    rw [bind_of_error hrun, List.append_nil]
  | cons d ds ih =>
    obtain ⟨load, -, hrun⟩ := loadComponent_of_accepts (hbefore d List.mem_cons_self) loads
    obtain ⟨e, new, hlen, hrest⟩ :=
      ih (fun x hx => hbefore x (List.mem_cons_of_mem _ hx)) (loads ++ [load])
    refine ⟨e, load :: new, congrArg Nat.succ hlen, ?_⟩
    show (loadComponent _ d >>= fun _ => each _ (ds ++ c :: after)) loads = _
    rw [bind_of_ok hrun, hrest, List.append_assoc]
    rfl

theorem first_refusal {dumps : Dict String Value} {components : List Component}
    (h : ¬∀ c ∈ components, Accepts dumps c) :
    ∃ before c after, components = before ++ c :: after ∧ (∀ d ∈ before, Accepts dumps d) ∧
      ¬Accepts dumps c := by
  induction components with
  | nil => exact absurd (by simp) h
  | cons c cs ih =>
    by_cases hc : Accepts dumps c
    · have hrest : ¬∀ d ∈ cs, Accepts dumps d := fun hall => h (List.forall_mem_cons.mpr ⟨hc, hall⟩)
      obtain ⟨before, d, after, rfl, hbefore, hd⟩ := ih hrest
      exact ⟨c :: before, d, after, rfl, List.forall_mem_cons.mpr ⟨hc, hbefore⟩, hd⟩
    · exact ⟨[], c, cs, rfl, by simp, hc⟩

end Kernel

end Polis
