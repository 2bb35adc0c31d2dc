/-
  Polis.Store.Blobs — blobs in files below a root directory
  (`store/blobs.py`).

  Paths and texts are the bytes the file system and a URI hold.

  Main results:
    * `path_joined` — the file of a key of plain names.
    * `quote_eq_iff` — a name is quoted as a word without reserved bytes only
      when it is that word.
-/
import Polis.Lib.Bytes
import Polis.Lib.SlashText
import Mathlib.Logic.Function.Basic

namespace Polis.Store

open Lib.Bytes Lib.SlashText

/-- The bytes of an ASCII text. -/
def asciiBytes (s : String) : ByteString := s.toList.map fun c => UInt8.ofNat c.toNat

def SLASH : UInt8 := 47

/-- A path from the top of the file system: the names along it. -/
abbrev Path := List ByteString

/-- What the files hold. -/
abbrev Disk := Path → Option ByteString

/-- A name a resolved path can have. -/
def IsName (name : ByteString) : Prop :=
  name ≠ [] ∧ SLASH ∉ name ∧ name ≠ asciiBytes "." ∧ name ≠ asciiBytes ".."

instance (name : ByteString) : Decidable (IsName name) :=
  inferInstanceAs (Decidable (name ≠ [] ∧ SLASH ∉ name ∧ name ≠ asciiBytes "." ∧ name ≠ asciiBytes ".."))

/-- `StoreError(f"blob key escapes root: ...")`. -/
inductive StoreError where
  | escapesRoot (key : ByteString)
  deriving Repr, DecidableEq

/-- A `LocalBlobStore`, its root resolved. -/
structure LocalBlobStore where
  root : Path
  resolved : ∀ name ∈ root, IsName name

/-- One more name of a path that is being resolved. -/
def descend (path : Path) (name : ByteString) : Path :=
  if name = [] ∨ name = asciiBytes "." then path
  else if name = asciiBytes ".." then path.dropLast
  else path ++ [name]

/-- `(base / key).resolve()`, on a disk without symbolic links. -/
def resolve (base : Path) (key : ByteString) : Path :=
  (key.splitOn SLASH).foldl descend (if key.head? = some SLASH then [] else base)

/-! ## URIs -/

/-- A byte that a URI shows as it is. -/
def unreserved (b : UInt8) : Bool :=
  (48 ≤ b && b ≤ 57) || (65 ≤ b && b ≤ 90) || (97 ≤ b && b ≤ 122)
    || b == 45 || b == 46 || b == 95 || b == 126

/-- An uppercase hexadecimal digit. -/
def upperHex (n : Nat) : UInt8 := UInt8.ofNat (if n < 10 then 48 + n else 55 + n)

def quoteByte (b : UInt8) : ByteString :=
  if unreserved b then [b] else [37, upperHex (b.toNat / 16), upperHex (b.toNat % 16)]

/-- A name as a URI shows it. -/
def quote (name : ByteString) : ByteString := name.flatMap quoteByte

/-- `path.as_uri()`. -/
def asUri (path : Path) : ByteString := asciiBytes "file://" ++ slashed SLASH (path.map quote)

/-! ## The store -/

namespace LocalBlobStore

variable (B : LocalBlobStore)

/-- `_path`. -/
def path (key : ByteString) : Except StoreError Path :=
  let path := resolve B.root key
  if B.root.isPrefixOf path ∧ path ≠ B.root then .ok path else .error (.escapesRoot key)

/-- `put`: the URI of the file, and the files after it was written. -/
def put (disk : Disk) (key data : ByteString) : Except StoreError (ByteString × Disk) := do
  let path ← B.path key
  pure (asUri path, Function.update disk path (some data))

/-- `get`. -/
def get (disk : Disk) (key : ByteString) : Except StoreError (Option ByteString) := do
  let path ← B.path key
  pure (disk path)

end LocalBlobStore

/-! ## Plain names -/

theorem descend_name {name : ByteString} (h : IsName name) (path : Path) :
    descend path name = path ++ [name] := by
  obtain ⟨hempty, -, hdot, hdots⟩ := h
  unfold descend
  rw [if_neg (not_or.mpr ⟨hempty, hdot⟩), if_neg hdots]

theorem foldl_descend {names : List ByteString} (h : ∀ name ∈ names, IsName name) (path : Path) :
    names.foldl descend path = path ++ names := by
  induction names generalizing path with
  | nil => exact (List.append_nil path).symm
  | cons name names ih =>
    rw [List.foldl_cons, descend_name (h name List.mem_cons_self),
      ih fun n hn => h n (List.mem_cons_of_mem _ hn)]
    simp

theorem path_joined (B : LocalBlobStore) {names : List ByteString}
    (h : ∀ name ∈ names, IsName name) (hne : names ≠ []) :
    B.path (joined SLASH names) = .ok (B.root ++ names) := by
  have hsplit : (joined SLASH names).splitOn SLASH = names :=
    splitOn_joined (fun name hname => (h name hname).2.1) hne
  have hhead : (joined SLASH names).head? ≠ some SLASH := by
    cases names with
    | nil => exact absurd rfl hne
    | cons name names =>
      obtain ⟨hempty, hslash, -⟩ := h name List.mem_cons_self
      intro hhead
      have hfirst : name.head? = some SLASH := by
        rw [← hhead]
        show _ = (name ++ slashed SLASH names).head?
        rw [List.head?_append_of_ne_nil _ hempty]
      exact hslash (List.mem_of_head? hfirst)
  have hresolve : resolve B.root (joined SLASH names) = B.root ++ names := by
    unfold resolve
    rw [hsplit, if_neg hhead, foldl_descend h]
  unfold LocalBlobStore.path
  dsimp only
  rw [hresolve, if_pos]
  refine ⟨?_, ?_⟩
  · exact List.isPrefixOf_iff_prefix.mpr (List.prefix_append _ _)
  · intro heq
    exact hne (List.append_right_eq_self.mp heq)

/-! ## Quoting -/

theorem quote_cons (b : UInt8) (name : ByteString) : quote (b :: name) = quoteByte b ++ quote name :=
  rfl

theorem quote_of_unreserved {word : ByteString} (h : ∀ b ∈ word, unreserved b = true) :
    quote word = word := by
  induction word with
  | nil => rfl
  | cons b word ih =>
    rw [quote_cons, ih fun c hc => h c (List.mem_cons_of_mem _ hc)]
    unfold quoteByte
    rw [if_pos (h b List.mem_cons_self)]
    rfl

theorem quote_eq_iff {name word : ByteString} (h : ∀ b ∈ word, unreserved b = true) :
    quote name = word ↔ name = word := by
  constructor
  · intro hquote
    induction name generalizing word with
    | nil => exact hquote
    | cons b name ih =>
      rw [quote_cons] at hquote
      unfold quoteByte at hquote
      by_cases hb : unreserved b = true
      · rw [if_pos hb] at hquote
        cases word with
        | nil => cases hquote
        | cons c word =>
          obtain ⟨hbc, hrest⟩ := List.cons.inj hquote
          rw [hbc, ih (fun d hd => h d (List.mem_cons_of_mem _ hd)) hrest]
      · -- a quoted byte begins with a percent sign
        rw [if_neg hb] at hquote
        have hpercent : (37 : UInt8) ∈ word := by
          rw [← hquote]
          exact List.mem_cons_self
        exact absurd (h 37 hpercent) (by decide)
  · intro hname
    rw [hname]
    exact quote_of_unreserved h

theorem slash_quoteByte {b : UInt8} (h : b ≠ SLASH) : SLASH ∉ quoteByte b := by
  have hdigit : ∀ n < 16, SLASH ≠ upperHex n := by decide
  have hb := b.toNat_lt
  unfold quoteByte
  split
  · simpa using h.symm
  · simp only [List.mem_cons, List.not_mem_nil, or_false, not_or]
    exact ⟨by decide, hdigit _ (by omega), hdigit _ (by omega)⟩

theorem slash_quote {name : ByteString} (h : SLASH ∉ name) : SLASH ∉ quote name := by
  intro hslash
  obtain ⟨b, hb, hin⟩ := List.mem_flatMap.mp hslash
  have hne : b ≠ SLASH := fun heq => h (heq ▸ hb)
  exact slash_quoteByte hne hin

theorem IsName.quote {name : ByteString} (h : IsName name) : IsName (quote name) := by
  obtain ⟨hempty, hslash, hdot, hdots⟩ := h
  refine ⟨?_, slash_quote hslash, ?_, ?_⟩
  · intro hquote
    have hnone : ∀ b ∈ ([] : ByteString), unreserved b = true := by simp
    exact hempty ((quote_eq_iff hnone).mp hquote)
  · intro hquote
    exact hdot ((quote_eq_iff (List.all_eq_true.mp (by decide))).mp hquote)
  · intro hquote
    exact hdots ((quote_eq_iff (List.all_eq_true.mp (by decide))).mp hquote)

end Polis.Store
