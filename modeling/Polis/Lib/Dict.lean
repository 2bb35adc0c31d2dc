/-
  Lib.Dict — insertion-ordered dictionaries.

  A dictionary is a list of key/value pairs with distinct keys, kept in the
  order the keys were first inserted: writing an existing key keeps its
  place, a new key goes last.  The distinctness of the keys is a field, so a
  dictionary with two rows under one key cannot be built.

  Main results:
    * `get?_put` — reading after a write.
    * `mem_entries_iff` — rows of the list are the successful reads.
    * `total_put` / `total_modify` — how a sum over all rows changes when one
      row is written.
    * `sort_get?` / `total_sort` / `sort_eq_self` — re-inserting the rows in
      key order changes neither the reads nor the sums.
-/
import Mathlib.Algebra.BigOperators.Group.List.Basic
import Mathlib.Algebra.Group.Int.Defs
import Mathlib.Algebra.Order.BigOperators.Group.List
import Mathlib.Algebra.Order.Group.Int
import Mathlib.Data.List.Nodup
import Mathlib.Data.List.Sort
import Mathlib.Tactic.Abel

namespace Lib

universe u v w

/-- An insertion-ordered dictionary: distinct keys, in insertion order. -/
structure Dict (κ : Type u) (α : Type v) where
  entries : List (κ × α)
  nodup : (entries.map Prod.fst).Nodup
  deriving DecidableEq

namespace Dict

variable {κ : Type u} {α : Type v} {β : Type w}

instance : EmptyCollection (Dict κ α) := ⟨⟨[], List.nodup_nil⟩⟩

instance : Inhabited (Dict κ α) := ⟨∅⟩

@[simp] theorem entries_empty : (∅ : Dict κ α).entries = [] := rfl
theorem ext_entries {d e : Dict κ α} (h : d.entries = e.entries) : d = e := by
  cases d; cases e; simp only [mk.injEq]; exact h

/-- The keys, in insertion order. -/
def keys (d : Dict κ α) : List κ := d.entries.map Prod.fst

/-- The values, in insertion order. -/
def values (d : Dict κ α) : List α := d.entries.map Prod.snd

@[simp] theorem values_empty : (∅ : Dict κ α).values = [] := rfl

/-! ## Reading and writing -/

section ReadWrite

variable [DecidableEq κ]

/-- The value stored under `k` in a list of rows. -/
def lookup (k : κ) : List (κ × α) → Option α
  | [] => none
  | e :: es => if e.1 = k then some e.2 else lookup k es

/-- Overwrite the row of `k` in place, or append it. -/
def putEntry (k : κ) (v : α) : List (κ × α) → List (κ × α)
  | [] => [(k, v)]
  | e :: es => if e.1 = k then (k, v) :: es else e :: putEntry k v es

theorem mem_keys_putEntry {k x : κ} {v : α} {l : List (κ × α)} :
    x ∈ (putEntry k v l).map Prod.fst ↔ x = k ∨ x ∈ l.map Prod.fst := by
  induction l with
  | nil => simp [putEntry]
  | cons e es ih =>
    by_cases h : e.1 = k
    · simp only [putEntry, h, if_true, List.map_cons, List.mem_cons]
      tauto
    · simp only [putEntry, h, if_false, List.map_cons, List.mem_cons, ih]
      tauto

theorem nodup_putEntry {k : κ} {v : α} {l : List (κ × α)}
    (h : (l.map Prod.fst).Nodup) : ((putEntry k v l).map Prod.fst).Nodup := by
  induction l with
  | nil => simp [putEntry]
  | cons e es ih =>
    rw [List.map_cons, List.nodup_cons] at h
    by_cases hk : e.1 = k
    · subst hk
      simpa [putEntry] using h
    · simp only [putEntry, hk, if_false, List.map_cons, List.nodup_cons]
      refine ⟨fun hm => ?_, ih h.2⟩
      rcases mem_keys_putEntry.mp hm with hx | hx
      · exact hk hx
      · exact h.1 hx

/-- `d.get(k)`. -/
def get? (d : Dict κ α) (k : κ) : Option α := lookup k d.entries

/-- `d[k] = v`. -/
def put (d : Dict κ α) (k : κ) (v : α) : Dict κ α :=
  ⟨putEntry k v d.entries, nodup_putEntry d.nodup⟩

/-- `d.get(k, default)`. -/
def getD (d : Dict κ α) (k : κ) (default : α) : α := (d.get? k).getD default

/-- `k in d`. -/
def contains (d : Dict κ α) (k : κ) : Bool := (d.get? k).isSome

/-- Apply `g` to the row of `k` when there is one. -/
def modify (d : Dict κ α) (k : κ) (g : α → α) : Dict κ α :=
  match d.get? k with
  | some v => d.put k (g v)
  | none => d

/-- `d.pop(k, None)`: drop the row of `k`. -/
def erase (d : Dict κ α) (k : κ) : Dict κ α :=
  ⟨d.entries.filter fun e => e.1 ≠ k,
    d.nodup.sublist ((List.filter_sublist).map Prod.fst)⟩

/-- The rows whose key satisfies `p`. -/
def filterKeys (d : Dict κ α) (p : κ → Bool) : Dict κ α :=
  ⟨d.entries.filter fun e => p e.1, d.nodup.sublist ((List.filter_sublist).map Prod.fst)⟩

/-- The rows whose value satisfies `p`. -/
def filterValues (d : Dict κ α) (p : α → Bool) : Dict κ α :=
  ⟨d.entries.filter fun e => p e.2, d.nodup.sublist ((List.filter_sublist).map Prod.fst)⟩

@[simp] theorem get?_empty (k : κ) : (∅ : Dict κ α).get? k = none := rfl

theorem lookup_putEntry (k x : κ) (v : α) (l : List (κ × α)) :
    lookup x (putEntry k v l) = if x = k then some v else lookup x l := by
  induction l with
  | nil => simp [putEntry, lookup, eq_comm]
  | cons e es ih =>
    by_cases hk : e.1 = k <;> by_cases hx : x = k
    · simp [putEntry, lookup, hk, hx]
    · simp [putEntry, lookup, hk, hx, Ne.symm hx]
    · subst hx
      simp [putEntry, lookup, hk, ih]
    · simp [putEntry, lookup, hk, ih, hx]

theorem get?_put (d : Dict κ α) (k x : κ) (v : α) :
    (d.put k v).get? x = if x = k then some v else d.get? x :=
  lookup_putEntry k x v d.entries

theorem put_entries_ne_nil (d : Dict κ α) (k : κ) (v : α) : (d.put k v).entries ≠ [] := by
  intro h
  have := get?_put d k k v
  rw [if_pos rfl, get?, h] at this
  cases this

@[simp] theorem get?_put_self (d : Dict κ α) (k : κ) (v : α) :
    (d.put k v).get? k = some v := by rw [get?_put, if_pos rfl]

theorem get?_put_of_ne {d : Dict κ α} {k x : κ} {v : α} (h : x ≠ k) :
    (d.put k v).get? x = d.get? x := by rw [get?_put, if_neg h]

theorem putEntry_putEntry (k : κ) (v w : α) (l : List (κ × α)) :
    putEntry k w (putEntry k v l) = putEntry k w l := by
  induction l with
  | nil => simp [putEntry]
  | cons e es ih =>
    by_cases h : e.1 = k
    · simp [putEntry, h]
    · simp [putEntry, h, ih]

@[simp] theorem put_put (d : Dict κ α) (k : κ) (v w : α) : (d.put k v).put k w = d.put k w :=
  ext_entries (putEntry_putEntry k v w d.entries)

theorem get?_modify (d : Dict κ α) (k x : κ) (g : α → α) :
    (d.modify k g).get? x = if x = k then (d.get? k).map g else d.get? x := by
  unfold modify
  cases h : d.get? k with
  | some v => simp only [get?_put, Option.map_some]
  | none =>
    by_cases hx : x = k
    · subst hx; simp [h]
    · simp [hx]

theorem lookup_mem {k : κ} {v : α} {l : List (κ × α)} (h : lookup k l = some v) :
    (k, v) ∈ l := by
  induction l with
  | nil => simp [lookup] at h
  | cons e es ih =>
    by_cases hk : e.1 = k
    · simp only [lookup, hk, if_true, Option.some.injEq] at h
      subst hk; subst h; exact List.mem_cons_self
    · simp only [lookup, hk, if_false] at h
      exact List.mem_cons_of_mem _ (ih h)

theorem lookup_of_mem {k : κ} {v : α} {l : List (κ × α)}
    (hn : (l.map Prod.fst).Nodup) (h : (k, v) ∈ l) : lookup k l = some v := by
  induction l with
  | nil => simp at h
  | cons e es ih =>
    rw [List.map_cons, List.nodup_cons] at hn
    rcases List.mem_cons.mp h with h | h
    · subst h; simp [lookup]
    · have hne : e.1 ≠ k := fun hk => hn.1 (hk ▸ List.mem_map_of_mem h)
      simp [lookup, hne, ih hn.2 h]

theorem putEntry_eq_map {k : κ} {v : α} {l : List (κ × α)} (hn : (l.map Prod.fst).Nodup)
    (h : k ∈ l.map Prod.fst) :
    putEntry k v l = l.map fun e => if e.1 = k then (k, v) else e := by
  induction l with
  | nil => simp at h
  | cons e es ih =>
    rw [List.map_cons, List.nodup_cons] at hn
    by_cases hk : e.1 = k
    · have hes : es.map (fun e => if e.1 = k then (k, v) else e) = es := by
        refine (List.map_congr_left fun x hx => ?_).trans (List.map_id es)
        refine if_neg fun hxk : x.1 = k => hn.1 ?_
        rw [hk, ← hxk]
        exact List.mem_map_of_mem hx
      rw [putEntry, if_pos hk, List.map_cons, if_pos hk, hes]
    · have hmem : k ∈ es.map Prod.fst := by
        rcases List.mem_cons.mp h with hx | hx
        · exact absurd hx.symm hk
        · exact hx
      rw [putEntry, if_neg hk, List.map_cons, if_neg hk, ih hn.2 hmem]

theorem modify_entries (d : Dict κ α) (k : κ) (g : α → α) :
    (d.modify k g).entries = d.entries.map fun e => if e.1 = k then (e.1, g e.2) else e := by
  unfold modify
  cases h : d.get? k with
  | some v =>
    have hm : (k, v) ∈ d.entries := lookup_mem h
    show putEntry k (g v) d.entries = _
    rw [putEntry_eq_map d.nodup (List.mem_map_of_mem hm)]
    refine List.map_congr_left fun e he => ?_
    by_cases hk : e.1 = k
    · have hev : d.get? e.1 = some e.2 := lookup_of_mem d.nodup he
      rw [hk, h] at hev
      rw [if_pos hk, if_pos hk, hk, Option.some.inj hev]
    · rw [if_neg hk, if_neg hk]
  | none =>
    show d.entries = _
    refine ((List.map_congr_left fun e he => ?_).trans (List.map_id d.entries)).symm
    refine if_neg fun hk => ?_
    have hev : d.get? e.1 = some e.2 := lookup_of_mem d.nodup he
    rw [hk, h] at hev
    cases hev

theorem modify_modify (d : Dict κ α) (k : κ) (f g : α → α) :
    (d.modify k f).modify k g = d.modify k fun v => g (f v) := by
  refine ext_entries ?_
  simp only [modify_entries, List.map_map]
  refine List.map_congr_left fun e _ => ?_
  by_cases hk : e.1 = k <;> simp [hk]

theorem modify_comm (d : Dict κ α) {j k : κ} (h : j ≠ k) (f g : α → α) :
    (d.modify j f).modify k g = (d.modify k g).modify j f := by
  refine ext_entries ?_
  simp only [modify_entries, List.map_map]
  refine List.map_congr_left fun e _ => ?_
  by_cases hj : e.1 = j
  · have hk : e.1 ≠ k := fun hk => h (hj.symm.trans hk)
    simp [hj, h]
  · by_cases hk : e.1 = k <;> simp [hj, hk, Ne.symm h]

@[simp] theorem modify_id (d : Dict κ α) (k : κ) : (d.modify k fun v => v) = d := by
  refine ext_entries ?_
  rw [modify_entries]
  refine (List.map_congr_left fun e _ => ?_).trans (List.map_id _)
  split_ifs <;> rfl

theorem modify_congr {d : Dict κ α} {k : κ} {f g : α → α}
    (h : ∀ v, d.get? k = some v → f v = g v) : d.modify k f = d.modify k g := by
  unfold modify
  cases hv : d.get? k with
  | some v =>
    show d.put k (f v) = d.put k (g v)
    rw [h v hv]
  | none => rfl

theorem put_of_get? {d : Dict κ α} {k : κ} {v : α} (h : d.get? k = some v) : d.put k v = d := by
  have hput : (d.modify k fun _ => v) = d.put k v := by
    unfold modify
    rw [h]
  rw [← hput, modify_congr (g := fun w => w), modify_id]
  intro w hw
  rw [h] at hw
  exact Option.some.inj hw

theorem lookup_filter (k x : κ) (l : List (κ × α)) :
    lookup x (l.filter fun e => e.1 ≠ k) = if x = k then none else lookup x l := by
  induction l with
  | nil => simp [lookup]
  | cons e es ih =>
    by_cases he : e.1 = k
    · rw [List.filter_cons_of_neg (by simp [he]), ih]
      by_cases hx : x = k
      · simp [hx]
      · simp [lookup, he, hx, Ne.symm hx]
    · rw [List.filter_cons_of_pos (by simp [he])]
      simp only [lookup, ih]
      by_cases hx : x = k
      · subst hx; simp [he]
      · simp [hx]

theorem get?_erase (d : Dict κ α) (k x : κ) :
    (d.erase k).get? x = if x = k then none else d.get? x :=
  lookup_filter k x d.entries

theorem get?_eraseAll (ks : List κ) (d : Dict κ α) (x : κ) :
    (ks.foldl Dict.erase d).get? x = if x ∈ ks then none else d.get? x := by
  induction ks generalizing d with
  | nil => simp
  | cons k ks ih =>
    rw [List.foldl_cons, ih, get?_erase]
    by_cases hk : x = k
    · simp [hk]
    · simp [hk]

theorem get?_filterKeys (d : Dict κ α) (p : κ → Bool) (k : κ) :
    (d.filterKeys p).get? k = if p k then d.get? k else none := by
  show lookup k (d.entries.filter fun e => p e.1) = if p k then lookup k d.entries else none
  induction d.entries with
  | nil => simp [lookup]
  | cons e es ih =>
    by_cases hk : e.1 = k
    · subst hk
      by_cases hp : p e.1 = true
      · simp [hp, lookup]
      · simpa [hp, lookup] using ih
    · by_cases hp : p e.1 = true
      · simpa [hp, lookup, hk] using ih
      · simpa [hp, lookup, hk] using ih

theorem lookup_eq_none {k : κ} {l : List (κ × α)} (h : k ∉ l.map Prod.fst) :
    lookup k l = none := by
  induction l with
  | nil => rfl
  | cons e es ih =>
    simp only [List.map_cons, List.mem_cons, not_or] at h
    rw [lookup, if_neg (Ne.symm h.1)]
    exact ih h.2

theorem lookup_filterValues (p : α → Bool) (k : κ) {l : List (κ × α)}
    (hn : (l.map Prod.fst).Nodup) :
    lookup k (l.filter fun e => p e.2) = (lookup k l).filter p := by
  induction l with
  | nil => rfl
  | cons e es ih =>
    obtain ⟨hnot, hes⟩ := List.nodup_cons.mp hn
    have hrest := ih hes
    by_cases hk : e.1 = k
    · -- the other rows have other keys
      subst hk
      rw [lookup_eq_none hnot] at hrest
      by_cases hp : p e.2 = true
      · simp [lookup, Option.filter, hp]
      · simpa [List.filter_cons, lookup, Option.filter, hp] using hrest
    · by_cases hp : p e.2 = true
      · simpa [List.filter_cons, lookup, hk, hp] using hrest
      · simpa [List.filter_cons, lookup, hk, hp] using hrest

theorem get?_filterValues (d : Dict κ α) (p : α → Bool) (k : κ) :
    (d.filterValues p).get? k = (d.get? k).filter p :=
  lookup_filterValues p k d.nodup

theorem mem_entries_iff {d : Dict κ α} {k : κ} {v : α} :
    (k, v) ∈ d.entries ↔ d.get? k = some v :=
  ⟨lookup_of_mem d.nodup, lookup_mem⟩

theorem mem_values_iff {d : Dict κ α} {v : α} :
    v ∈ d.values ↔ ∃ k, d.get? k = some v := by
  simp only [values, List.mem_map, Prod.exists, exists_eq_right, mem_entries_iff]

theorem mem_values_of_get? {d : Dict κ α} {k : κ} {v : α} (h : d.get? k = some v) :
    v ∈ d.values := mem_values_iff.mpr ⟨k, h⟩

theorem contains_iff {d : Dict κ α} {k : κ} :
    d.contains k = true ↔ ∃ v, d.get? k = some v := by
  simp [contains, Option.isSome_iff_exists]

end ReadWrite

/-- Apply `f` to every row, in place. -/
def mapValues (d : Dict κ α) (f : κ → α → β) : Dict κ β :=
  ⟨d.entries.map fun e => (e.1, f e.1 e.2), by
    simpa [List.map_map, Function.comp_def] using d.nodup⟩

theorem lookup_map [DecidableEq κ] (f : κ → α → β) (k : κ) (l : List (κ × α)) :
    lookup k (l.map fun e => (e.1, f e.1 e.2)) = (lookup k l).map (f k) := by
  induction l with
  | nil => rfl
  | cons e es ih =>
    by_cases h : e.1 = k
    · subst h; simp [lookup]
    · simp [lookup, h, ih]

theorem get?_mapValues [DecidableEq κ] (d : Dict κ α) (f : κ → α → β) (k : κ) :
    (d.mapValues f).get? k = (d.get? k).map (f k) := lookup_map f k d.entries

theorem mapValues_mapValues {γ : Type*} (d : Dict κ α) (f : κ → α → β) (g : κ → β → γ) :
    (d.mapValues f).mapValues g = d.mapValues fun k v => g k (f k v) :=
  ext_entries (by simp [mapValues, List.map_map, Function.comp_def])

/-! ## Building from a list, renaming keys -/

/-- `dict(rows)`: write the rows one after the other. -/
def ofList [DecidableEq κ] (l : List (κ × α)) : Dict κ α :=
  l.foldl (fun d e => d.put e.1 e.2) ∅

theorem putEntry_of_notMem [DecidableEq κ] {k : κ} {v : α} {l : List (κ × α)}
    (h : k ∉ l.map Prod.fst) : putEntry k v l = l ++ [(k, v)] := by
  induction l with
  | nil => rfl
  | cons e es ih =>
    rw [List.map_cons, List.mem_cons, not_or] at h
    simp [putEntry, Ne.symm h.1, ih h.2]

theorem foldl_put_eq [DecidableEq κ] (l : List (κ × α)) (d : Dict κ α)
    (h : ((d.entries ++ l).map Prod.fst).Nodup) :
    (l.foldl (fun d e => d.put e.1 e.2) d).entries = d.entries ++ l := by
  induction l generalizing d with
  | nil => simp
  | cons e l ih =>
    have hk : e.1 ∉ d.entries.map Prod.fst := by
      rw [List.map_append, List.map_cons] at h
      exact fun hm => (List.nodup_append.mp h).2.2 _ hm _ List.mem_cons_self rfl
    have hput : (d.put e.1 e.2).entries = d.entries ++ [e] := putEntry_of_notMem hk
    rw [List.foldl_cons, ih, hput, List.append_assoc, List.singleton_append]
    rwa [hput, List.append_assoc, List.singleton_append]

theorem ofList_entries [DecidableEq κ] (d : Dict κ α) : ofList d.entries = d :=
  ext_entries (foldl_put_eq d.entries ∅ d.nodup)

theorem entries_ofList [DecidableEq κ] {l : List (κ × α)} (h : (l.map Prod.fst).Nodup) :
    (ofList l).entries = l := congrArg entries (ofList_entries ⟨l, h⟩)

/-! ### Keys -/

theorem mem_keys_iff [DecidableEq κ] {d : Dict κ α} {k : κ} :
    k ∈ d.keys ↔ ∃ v, d.get? k = some v := by
  constructor
  · intro h
    obtain ⟨e, he, rfl⟩ := List.mem_map.mp h
    exact ⟨e.2, mem_entries_iff.mp he⟩
  · rintro ⟨v, hv⟩
    exact List.mem_map_of_mem (f := Prod.fst) (mem_entries_iff.mpr hv)

theorem keys_mapValues (d : Dict κ α) (f : κ → α → β) : (d.mapValues f).keys = d.keys := by
  show ((d.entries.map fun e => (e.1, f e.1 e.2)).map Prod.fst) = d.entries.map Prod.fst
  rw [List.map_map]
  rfl

theorem keys_modify [DecidableEq κ] (d : Dict κ α) (k : κ) (f : α → α) :
    (d.modify k f).keys = d.keys := by
  show (d.modify k f).entries.map Prod.fst = d.entries.map Prod.fst
  rw [modify_entries, List.map_map]
  refine List.map_congr_left fun e _ => ?_
  by_cases h : e.1 = k
  · simp [h]
  · simp [h]

theorem keys_put [DecidableEq κ] (d : Dict κ α) {k : κ} (v : α) (h : k ∈ d.keys) :
    (d.put k v).keys = d.keys := by
  obtain ⟨w, hw⟩ := mem_keys_iff.mp h
  have hput : d.put k v = d.modify k fun _ => v := by
    unfold modify
    rw [hw]
  rw [hput, keys_modify]

theorem length_put [DecidableEq κ] (d : Dict κ α) (k : κ) (v : α) :
    (d.put k v).entries.length
      = if d.contains k = true then d.entries.length else d.entries.length + 1 := by
  have hlist : ∀ l : List (κ × α), (putEntry k v l).length
      = if (lookup k l).isSome = true then l.length else l.length + 1 := by
    intro l
    induction l with
    | nil => rfl
    | cons e es ih =>
      by_cases h : e.1 = k
      · simp [putEntry, lookup, h]
      · simp only [putEntry, lookup, h, if_false, List.length_cons, ih]
        split <;> rfl
  exact hlist d.entries

/-- `d.update(e)`. -/
def update [DecidableEq κ] (d e : Dict κ α) : Dict κ α :=
  e.entries.foldl (fun d row => d.put row.1 row.2) d

theorem keys_update [DecidableEq κ] {d e : Dict κ α} (h : ∀ k ∈ e.keys, k ∈ d.keys) :
    (d.update e).keys = d.keys := by
  have hrows : ∀ rows : List (κ × α), (∀ row ∈ rows, row.1 ∈ d.keys) → ∀ d' : Dict κ α,
      d'.keys = d.keys → (rows.foldl (fun d row => d.put row.1 row.2) d').keys = d.keys := by
    intro rows
    induction rows with
    | nil => exact fun _ _ hd => hd
    | cons row rows ih =>
      intro hmem d' hd
      refine ih (fun r hr => hmem r (List.mem_cons_of_mem _ hr)) _ ?_
      rw [keys_put d' row.2 (by rw [hd]; exact hmem row List.mem_cons_self), hd]
  exact hrows e.entries (fun row hrow => h row.1 (List.mem_map_of_mem hrow)) d rfl

theorem get?_update [DecidableEq κ] (d e : Dict κ α) (k : κ) :
    (d.update e).get? k = (e.get? k).or (d.get? k) := by
  have hrows : ∀ rows : List (κ × α), (rows.map Prod.fst).Nodup → ∀ d : Dict κ α,
      (rows.foldl (fun d row => d.put row.1 row.2) d).get? k = (lookup k rows).or (d.get? k) := by
    intro rows
    induction rows with
    | nil => exact fun _ _ => rfl
    | cons row rows ih =>
      intro hn d
      rw [List.map_cons, List.nodup_cons] at hn
      rw [List.foldl_cons, ih hn.2, get?_put]
      by_cases hk : row.1 = k
      · subst hk
        rw [lookup_eq_none hn.1]
        simp [lookup]
      · rw [if_neg (Ne.symm hk)]
        simp [lookup, hk]
  exact hrows e.entries e.nodup d

theorem keys_update_eq [DecidableEq κ] (d e : Dict κ α) :
    (d.update e).keys = d.keys ++ e.keys.filter fun k => k ∉ d.keys := by
  have hrows : ∀ (rows : List (κ × α)), (rows.map Prod.fst).Nodup → ∀ d : Dict κ α,
      (rows.foldl (fun d row => d.put row.1 row.2) d).keys
        = d.keys ++ (rows.map Prod.fst).filter fun k => k ∉ d.keys := by
    intro rows
    induction rows with
    | nil =>
      intro _ d
      exact (List.append_nil _).symm
    | cons row rows ih =>
      intro hn d
      rw [List.map_cons, List.nodup_cons] at hn
      rw [List.foldl_cons, ih hn.2, List.map_cons]
      by_cases hk : row.1 ∈ d.keys
      · rw [keys_put d row.2 hk, List.filter_cons_of_neg (by simpa using hk)]
      · have hput : (d.put row.1 row.2).keys = d.keys ++ [row.1] := by
          have hentries : (d.put row.1 row.2).entries = d.entries ++ [(row.1, row.2)] :=
            putEntry_of_notMem hk
          unfold keys
          rw [hentries, List.map_append]
          rfl
        rw [hput, List.filter_cons_of_pos (by simpa using hk), List.append_assoc]
        congr 1
        rw [List.singleton_append]
        congr 1
        apply List.filter_congr
        intro k hmem
        have hne : k ≠ row.1 := fun heq => hn.1 (heq ▸ hmem)
        simp [hne]
  exact hrows e.entries e.nodup d

theorem ext_keys [DecidableEq κ] {d e : Dict κ α} (hkeys : d.keys = e.keys) (h : ∀ k, d.get? k = e.get? k) :
    d = e := by
  have hrows : ∀ (c : Dict κ α), c.entries = c.keys.filterMap fun k =>
      (c.get? k).map fun v => (k, v) := by
    intro c
    unfold keys
    rw [List.filterMap_map]
    have hself : ∀ x ∈ c.entries, ((fun k => (c.get? k).map fun v => (k, v)) ∘ Prod.fst) x
        = some x := by
      intro x hx
      have hget : c.get? x.1 = some x.2 := mem_entries_iff.mp hx
      simp [hget]
    rw [List.filterMap_congr hself]
    exact List.filterMap_some.symm
  apply ext_entries
  rw [hrows d, hrows e, hkeys]
  apply List.filterMap_congr
  intro k _
  rw [h]

/-- Rename every key. -/
def mapKeys {ι : Type*} (f : κ → ι) (hf : Function.Injective f) (d : Dict κ α) : Dict ι α :=
  ⟨d.entries.map fun e => (f e.1, e.2), by
    have := d.nodup.map hf
    rwa [List.map_map] at this ⊢⟩

/-! ## Sums over all rows -/

section Total

variable {M : Type*} [AddCommGroup M]

/-- The sum of `f` over all rows. -/
def total (d : Dict κ α) (f : κ → α → M) : M :=
  (d.entries.map fun e => f e.1 e.2).sum

@[simp] theorem total_empty (f : κ → α → M) : (∅ : Dict κ α).total f = 0 := rfl

theorem total_congr {d : Dict κ α} {f g : κ → α → M}
    (h : ∀ e ∈ d.entries, f e.1 e.2 = g e.1 e.2) : d.total f = d.total g := by
  unfold total
  rw [List.map_congr_left h]

theorem total_eq_zero {d : Dict κ α} {f : κ → α → M}
    (h : ∀ e ∈ d.entries, f e.1 e.2 = 0) : d.total f = 0 := by
  unfold total
  refine List.sum_eq_zero fun x hx => ?_
  obtain ⟨e, he, rfl⟩ := List.mem_map.mp hx
  exact h e he

variable [DecidableEq κ]

/-- What the row of `k` contributes to a sum. -/
def weightAt (d : Dict κ α) (k : κ) (f : κ → α → M) : M := (d.get? k).elim 0 (f k)

theorem sum_putEntry (k : κ) (v : α) (f : κ → α → M) (l : List (κ × α)) :
    ((putEntry k v l).map fun e => f e.1 e.2).sum
      = (l.map fun e => f e.1 e.2).sum - (lookup k l).elim 0 (f k) + f k v := by
  induction l with
  | nil => simp [putEntry, lookup]
  | cons e es ih =>
    by_cases h : e.1 = k
    · subst h
      simp only [putEntry, lookup, if_true, List.map_cons, List.sum_cons, Option.elim_some]
      abel
    · simp only [putEntry, lookup, h, if_false, List.map_cons, List.sum_cons, ih]
      abel

theorem total_single (d : Dict κ α) (k : κ) (f : κ → α → M) :
    (d.total fun i v => if i = k then f i v else 0) = d.weightAt k f := by
  unfold total weightAt get?
  have hn := d.nodup
  revert hn
  induction d.entries with
  | nil => intro _; rfl
  | cons e es ih =>
    intro hn
    rw [List.map_cons, List.nodup_cons] at hn
    rw [List.map_cons, List.sum_cons, ih hn.2]
    by_cases h : e.1 = k
    · have hnone : lookup k es = none := by
        cases hl : lookup k es with
        | none => rfl
        | some v => exact absurd (List.mem_map_of_mem (lookup_mem hl)) (h ▸ hn.1)
      subst h
      simp [lookup, hnone]
    · simp [lookup, h]

theorem total_put (d : Dict κ α) (k : κ) (v : α) (f : κ → α → M) :
    (d.put k v).total f = d.total f - d.weightAt k f + f k v :=
  sum_putEntry k v f d.entries

theorem total_put_of_none {d : Dict κ α} {k : κ} {v : α} (f : κ → α → M)
    (h : d.get? k = none) : (d.put k v).total f = d.total f + f k v := by
  simp [total_put, weightAt, h]

theorem total_put_of_some {d : Dict κ α} {k : κ} {v o : α} (f : κ → α → M)
    (h : d.get? k = some o) : (d.put k v).total f = d.total f - f k o + f k v := by
  simp [total_put, weightAt, h]

theorem total_modify (d : Dict κ α) (k : κ) (g : α → α) (f : κ → α → M) :
    (d.modify k g).total f
      = d.total f + (d.get? k).elim 0 fun v => f k (g v) - f k v := by
  unfold modify
  cases h : d.get? k with
  | some v => simp only [total_put_of_some f h, Option.elim_some]; abel
  | none => simp

theorem row_le_total {d : Dict κ α} {f : κ → α → Int} (h : ∀ e ∈ d.entries, 0 ≤ f e.1 e.2) {k : κ}
    {v : α} (hk : d.get? k = some v) : f k v ≤ d.total f := by
  unfold total
  refine List.single_le_sum (fun y hy => ?_) _
    (List.mem_map.mpr ⟨(k, v), mem_entries_iff.mpr hk, rfl⟩)
  obtain ⟨e, he, rfl⟩ := List.mem_map.mp hy
  exact h e he

end Total

/-! ## Re-insertion in key order -/

section Ordered

variable [LinearOrder κ]

/-- `sorted(d.items())`: the keys are distinct, so values are never compared. -/
def sortedEntries (d : Dict κ α) : List (κ × α) :=
  d.entries.insertionSort fun a b => a.1 ≤ b.1

theorem sortedEntries_perm (d : Dict κ α) : d.sortedEntries.Perm d.entries :=
  List.perm_insertionSort _ _

theorem mem_sortedEntries {d : Dict κ α} {e : κ × α} :
    e ∈ d.sortedEntries ↔ e ∈ d.entries := d.sortedEntries_perm.mem_iff

/-- The same rows, inserted in key order. -/
def sort (d : Dict κ α) : Dict κ α :=
  ⟨d.sortedEntries, (d.sortedEntries_perm.map Prod.fst).nodup_iff.mpr d.nodup⟩

theorem sort_get? (d : Dict κ α) (k : κ) : d.sort.get? k = d.get? k := by
  cases h : d.get? k with
  | some v => exact mem_entries_iff.mp (mem_sortedEntries.mpr (mem_entries_iff.mpr h))
  | none =>
    cases h' : d.sort.get? k with
    | none => rfl
    | some v =>
      have := mem_entries_iff.mp (mem_sortedEntries.mp (mem_entries_iff.mpr h'))
      rw [h] at this
      exact absurd this (by simp)

theorem total_sort {M : Type*} [AddCommGroup M] (d : Dict κ α) (f : κ → α → M) :
    d.sort.total f = d.total f :=
  (d.sortedEntries_perm.map fun e : κ × α => f e.1 e.2).sum_eq

theorem sum_sortedEntries {M : Type*} [AddCommGroup M] (d : Dict κ α) (f : κ → α → M) :
    (d.sortedEntries.map fun e => f e.1 e.2).sum = d.total f := d.total_sort f

theorem mem_keys_sort (d : Dict κ α) (k : κ) : k ∈ d.sort.keys ↔ k ∈ d.keys :=
  (d.sortedEntries_perm.map Prod.fst).mem_iff

theorem sort_congr {d e : Dict κ α} (h : ∀ k, d.get? k = e.get? k) : d.sort = e.sort := by
  apply ext_entries
  have hmem : ∀ x, x ∈ d.entries ↔ x ∈ e.entries := by
    intro x
    obtain ⟨k, v⟩ := x
    rw [mem_entries_iff, mem_entries_iff, h]
  have hperm : d.entries.Perm e.entries :=
    (List.perm_ext_iff_of_nodup (List.Nodup.of_map _ d.nodup) (List.Nodup.of_map _ e.nodup)).mpr
      hmem
  have hsorted : ∀ l : List (κ × α), (l.insertionSort fun a b => a.1 ≤ b.1).Pairwise
      fun a b => a.1 ≤ b.1 := by
    intro l
    have : IsTrans (κ × α) fun a b => a.1 ≤ b.1 := ⟨fun _ _ _ h h' => le_trans h h'⟩
    have : Std.Total fun a b : κ × α => a.1 ≤ b.1 := ⟨fun a b => le_total a.1 b.1⟩
    exact List.pairwise_insertionSort (fun a b : κ × α => a.1 ≤ b.1) l
  have hall := (d.sortedEntries_perm.trans hperm).trans e.sortedEntries_perm.symm
  refine hall.eq_of_pairwise (fun a b ha hb hab hba => ?_) (hsorted _) (hsorted _)
  -- equal keys of one mapping hold equal values
  have hk : a.1 = b.1 := le_antisymm hab hba
  have hda := mem_entries_iff.mp (mem_sortedEntries.mp ha)
  have heb := mem_entries_iff.mp (mem_sortedEntries.mp hb)
  rw [h, hk, heb, Option.some.injEq] at hda
  exact Prod.ext hk hda.symm

/-- Keys already increasing. -/
def Sorted (d : Dict κ α) : Prop := d.entries.Pairwise fun a b => a.1 ≤ b.1

theorem sort_sorted (d : Dict κ α) : d.sort.Sorted := by
  have : IsTrans (κ × α) fun a b => a.1 ≤ b.1 := ⟨fun _ _ _ h h' => le_trans h h'⟩
  have : Std.Total fun a b : κ × α => a.1 ≤ b.1 := ⟨fun a b => le_total a.1 b.1⟩
  exact List.pairwise_insertionSort (fun a b : κ × α => a.1 ≤ b.1) d.entries

theorem sort_eq_self {d : Dict κ α} (h : d.Sorted) : d.sort = d :=
  ext_entries (List.Pairwise.insertionSort_eq h)

theorem sorted_mapValues {d : Dict κ α} (h : d.Sorted) (f : κ → α → β) :
    (d.mapValues f).Sorted := by
  unfold Sorted mapValues
  rw [List.pairwise_map]
  exact h

@[simp] theorem sort_sort (d : Dict κ α) : d.sort.sort = d.sort :=
  sort_eq_self d.sort_sorted

end Ordered

end Dict

end Lib
