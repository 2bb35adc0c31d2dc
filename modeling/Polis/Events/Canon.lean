/-
  Polis.Events.Canon — compact JSON with sorted keys (`config/canon.py`), on
  values without floating-point numbers.

  Main result: `canonicalJson_reordered` — the order in which mappings list
  their keys does not show in the canonical text of a value.
-/
import Polis.Events.Verify
import Polis.Lib.Sha256

namespace Polis.Events

open Lib.Bytes

/-- A character inside a JSON string. -/
def escapeChar (c : Char) : List Char :=
  if c = '"' then ['\\', '"']
  else if c = '\\' then ['\\', '\\']
  else if c = '\n' then ['\\', 'n']
  else if c = '\r' then ['\\', 'r']
  else if c = '\t' then ['\\', 't']
  else if c.toNat = 8 then ['\\', 'b']
  else if c.toNat = 12 then ['\\', 'f']
  else if c.toNat < 32 then
    ['\\', 'u', '0', '0', hexChar (c.toNat / 16), hexChar (c.toNat % 16)]
  else [c]

def jsonString (s : String) : String :=
  String.ofList (['"'] ++ s.toList.flatMap escapeChar ++ ['"'])

/-- The members of a mapping in key order, `"key":value`. -/
def sortedMembers (members : List (String × String)) : List String :=
  (members.insertionSort fun a b => a.1 ≤ b.1).map fun e => jsonString e.1 ++ ":" ++ e.2

mutual

/-- `canonical_json`. -/
def canonicalJson : Value → String
  | .none => "null"
  | .bool true => "true"
  | .bool false => "false"
  | .int n => toString n
  | .str s => jsonString s
  | .list xs => "[" ++ String.intercalate "," (canonicalItems xs) ++ "]"
  | .dict xs => "\x7b" ++ String.intercalate "," (sortedMembers (canonicalMembers xs)) ++ "\x7d"

def canonicalItems : List Value → List String
  | [] => []
  | x :: xs => canonicalJson x :: canonicalItems xs

def canonicalMembers : List (String × Value) → List (String × String)
  | [] => []
  | (k, x) :: xs => (k, canonicalJson x) :: canonicalMembers xs

end

theorem canonicalMembers_eq_map (xs : List (String × Value)) :
    canonicalMembers xs = xs.map fun e => (e.1, canonicalJson e.2) := by
  induction xs with
  | nil => rfl
  | cons x xs ih =>
    obtain ⟨k, v⟩ := x
    rw [canonicalMembers, ih]
    rfl

theorem canonicalItems_eq_map (xs : List Value) : canonicalItems xs = xs.map canonicalJson := by
  induction xs with
  | nil => rfl
  | cons x xs ih => rw [canonicalItems, ih, List.map_cons]

theorem sortedMembers_perm {xs ys : List (String × String)} (hp : xs.Perm ys)
    (hkeys : (xs.map Prod.fst).Nodup) : sortedMembers xs = sortedMembers ys := by
  unfold sortedMembers
  congr 1
  -- both sides are sorted rearrangements of one list without repeated keys
  have hperm : (xs.insertionSort fun a b => a.1 ≤ b.1).Perm
      (ys.insertionSort fun a b => a.1 ≤ b.1) :=
    (List.perm_insertionSort _ xs).trans (hp.trans (List.perm_insertionSort _ ys).symm)
  apply hperm.eq_of_pairwise
  · intro a b ha hb hab hba
    have hk : a.1 = b.1 := le_antisymm hab hba
    have ha' : a ∈ xs := (List.mem_insertionSort _).mp ha
    have hb' : b ∈ xs := hp.mem_iff.mpr ((List.mem_insertionSort _).mp hb)
    exact List.inj_on_of_nodup_map hkeys ha' hb' hk
  · exact sorted_by_key xs
  · exact sorted_by_key ys
where
  sorted_by_key (zs : List (String × String)) :
      (zs.insertionSort fun a b => a.1 ≤ b.1).Pairwise fun a b => a.1 ≤ b.1 := by
    have htot : Std.Total fun a b : String × String => a.1 ≤ b.1 :=
      ⟨fun a b => le_total a.1 b.1⟩
    have htrans : IsTrans (String × String) fun a b => a.1 ≤ b.1 :=
      ⟨fun _ _ _ h h' => le_trans h h'⟩
    exact List.pairwise_insertionSort _ zs

/-- The same value, with its mappings listed in another order. -/
inductive Reordered : Value → Value → Prop
  | keys {xs ys : List (String × Value)} (hp : xs.Perm ys) (hkeys : (xs.map Prod.fst).Nodup) :
      Reordered (.dict xs) (.dict ys)
  | item (before after : List Value) {v w : Value} (h : Reordered v w) :
      Reordered (.list (before ++ v :: after)) (.list (before ++ w :: after))
  | member (before after : List (String × Value)) (k : String) {v w : Value} (h : Reordered v w) :
      Reordered (.dict (before ++ (k, v) :: after)) (.dict (before ++ (k, w) :: after))
  | trans {u v w : Value} (h : Reordered u v) (h' : Reordered v w) : Reordered u w

/-- **The order in which mappings list their keys does not show**, at any depth. -/
theorem canonicalJson_reordered {v w : Value} (h : Reordered v w) :
    canonicalJson v = canonicalJson w := by
  induction h with
  | @keys xs ys hp hkeys =>
    simp only [canonicalJson, canonicalMembers_eq_map]
    rw [sortedMembers_perm (hp.map _)]
    rw [List.map_map]
    exact hkeys
  | item before after h ih =>
    simp only [canonicalJson, canonicalItems_eq_map, List.map_append, List.map_cons, ih]
  | member before after k h ih =>
    simp only [canonicalJson, canonicalMembers_eq_map, List.map_append, List.map_cons, ih]
  | trans h h' ih ih' => exact ih.trans ih'

theorem canonicalJson_reordered_nested :
    canonicalJson (.list [.dict [("b", .none), ("a", .int 1)]])
      = canonicalJson (.list [.dict [("a", .int 1), ("b", .none)]]) :=
  canonicalJson_reordered (.item [] [] (.keys (.swap _ _ _) (by decide)))

/-- The JSON encoder and the hash the engine runs with, for payloads without
floating-point numbers. -/
abbrev canonValues : CanonicalJson Value := ⟨fun v => some (utf8 (canonicalJson v))⟩

abbrev hashlib : Sha256 := ⟨Lib.Sha256.digest⟩

/-- `validate_payload` for kinds whose schema lists required keys. -/
def validateRequired (registry : List (Int × List String)) (kind : Int) (payload : Value) :
    Except PayloadFault Unit :=
  match registry.lookup kind, payload with
  | none, _ => .error (.unknownKind ("unknown event kind: " ++ toString kind))
  | some required, .dict members =>
    match required.find? fun k => !(members.any fun e => e.1 = k) with
    | some k => .error (.schema ("'" ++ k ++ "' is a required property"))
    | none => .ok ()
  | some _, _ => .error (.schema "payload is not of type 'object'")

/-- The kernel's `TICK_STARTED` and `TICK_COMPLETED` kinds. -/
abbrev kernelKinds : PayloadSchemas Value :=
  ⟨validateRequired [(1002, ["tick"]), (1003, ["tick", "event_count"])]⟩

example : canonicalJson (.dict [("tick", .int 1), ("a", .list [.bool true, .none])])
    = "\x7b\"a\":[true,null],\"tick\":1\x7d" := by decide +kernel

end Polis.Events
