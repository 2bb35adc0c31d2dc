/-
  Lib.Sql — keyed tables and the statements read models write them with.

  A table maps primary keys to rows, a row maps columns to values.  A
  statement names the tables it reads and the tables it writes; what it does
  to one table depends on the tables it reads and on nothing else.

  Main results:
    * `exec_frame` — a statement leaves every table it does not write.
    * `execAll_agree` — databases that agree on a closed set of tables agree
      on it after the same statements.
    * `exec_stays`, `exec_grows`, `exec_still` — rows stay, and only some
      statements bring one into empty tables.
-/
import Mathlib.Data.Set.Basic
import Mathlib.Logic.Function.Basic

namespace Lib.Sql

variable {V : Type}

/-- A row: a value for each column. -/
abbrev Row (V : Type) := String → V

/-- A table: rows by primary key. -/
abbrev Table (V : Type) := List String → Option (Row V)

/-- The tables of a database, by name. -/
abbrev Db (V : Type) := String → Table V

/-! ## Rows -/

namespace Row

/-- `SET a=…, b=…`. -/
def write (r : Row V) : List (String × V) → Row V
  | [] => r
  | c :: cs => write (Function.update r c.1 c.2) cs

/-- The columns of an `INSERT`; the others are NULL. -/
def ofList (null : V) (cs : List (String × V)) : Row V := write (fun _ => null) cs

/-- `SET a=EXCLUDED.a, …`. -/
def copy (names : List String) (excluded r : Row V) : Row V := fun c =>
  if c ∈ names then excluded c else r c

@[simp] theorem write_cons (r : Row V) (c : String × V) (cs : List (String × V)) :
    r.write (c :: cs) = write (Function.update r c.1 c.2) cs := rfl

theorem write_append (r : Row V) (cs ds : List (String × V)) :
    r.write (cs ++ ds) = (r.write cs).write ds := by
  induction cs generalizing r with
  | nil => rfl
  | cons c cs ih => exact ih _

theorem write_ne {cs : List (String × V)} {name : String} (h : ∀ c ∈ cs, c.1 ≠ name) (r : Row V) :
    r.write cs name = r name := by
  induction cs generalizing r with
  | nil => rfl
  | cons c cs ih =>
    have hne : name ≠ c.1 := fun he => h c List.mem_cons_self he.symm
    rw [write_cons, ih fun d hd => h d (List.mem_cons_of_mem _ hd), Function.update_of_ne hne]

end Row

/-! ## Statements -/

/-- The statements of a projection. -/
inductive Statement (V : Type) where
  /-- `INSERT`; a row that is there is a violation. -/
  | insert (table : String) (key : List String) (row : Row V)
  /-- `INSERT … ON CONFLICT DO UPDATE`. -/
  | upsert (table : String) (key : List String) (row : Row V) (set : Row V → Row V)
  /-- `UPDATE … WHERE` on the primary key. -/
  | update (table : String) (key : List String) (set : Row V → Row V)
  /-- `INSERT … ON CONFLICT DO UPDATE` of a row selected from the same table. -/
  | upsertFrom (table : String) (source key : List String) (row : Row V → Row V)
      (set : Row V → Row V → Row V)
  /-- `INSERT … ON CONFLICT DO NOTHING`, and an `UPDATE` where it inserted. -/
  | insertThen (table : String) (key : List String) (row : Row V) (target : String)
      (targetKey : List String) (set : Row V → Row V)
  /-- `UPDATE … WHERE key = (SELECT column FROM source WHERE …)`. -/
  | updateVia (table : String) (source : String) (sourceKey : List String)
      (column : Row V → Option (List String)) (set : Row V → Row V)
  /-- `DELETE`. -/
  | clear (table : String)

namespace Db

/-- The database with one row written or dropped. -/
def setRow (db : Db V) (table : String) (key : List String) (row : Option (Row V)) : Db V :=
  fun t k => if t = table ∧ k = key then row else db t k

/-- The database with a row rewritten where there is one. -/
def modifyRow (db : Db V) (table : String) (key : List String) (set : Row V → Row V) : Db V :=
  db.setRow table key ((db table key).map set)

/-- The database without the rows of a table. -/
def clear (db : Db V) (table : String) : Db V := fun t => if t = table then fun _ => none else db t

theorem setRow_self (db : Db V) (table : String) (key : List String) (row : Option (Row V)) :
    db.setRow table key row table key = row := if_pos ⟨rfl, rfl⟩

theorem setRow_table_ne {db : Db V} {table t : String} (h : t ≠ table) (key : List String)
    (row : Option (Row V)) : db.setRow table key row t = db t := by
  funext k
  exact if_neg fun hk => h hk.1

theorem setRow_key_ne {db : Db V} {table : String} {key k : List String} (h : k ≠ key)
    (row : Option (Row V)) : db.setRow table key row table k = db table k :=
  if_neg fun hk => h hk.2

theorem setRow_table (db : Db V) (table : String) (key : List String) (row : Option (Row V)) :
    db.setRow table key row table = fun k => if k = key then row else db table k := by
  funext k
  unfold setRow
  by_cases hk : k = key
  · rw [if_pos ⟨rfl, hk⟩, if_pos hk]
  · rw [if_neg fun h => hk h.2, if_neg hk]

theorem clear_table (db : Db V) (table : String) : db.clear table table = fun _ => none := if_pos rfl

theorem clear_table_ne {db : Db V} {table t : String} (h : t ≠ table) : db.clear table t = db t :=
  if_neg h

theorem foldl_clear (tables : List String) (db : Db V) (t : String) :
    tables.foldl Db.clear db t = if t ∈ tables then fun _ => none else db t := by
  induction tables generalizing db with
  | nil => rfl
  | cons table tables ih =>
    rw [List.foldl_cons, ih]
    by_cases ht : t ∈ tables
    · rw [if_pos ht, if_pos (List.mem_cons_of_mem _ ht)]
    · rw [if_neg ht]
      by_cases heq : t = table
      · rw [heq, Db.clear_table, if_pos List.mem_cons_self]
      · rw [Db.clear_table_ne heq, if_neg]
        intro hmem
        rcases List.mem_cons.mp hmem with h | h
        · exact heq h
        · exact ht h

end Db

namespace Statement

/-- What a statement does; nothing comes back from a violation. -/
def exec (db : Db V) : Statement V → Option (Db V)
  | insert table key row =>
    match db table key with
    | none => some (db.setRow table key (some row))
    | some _ => none
  | upsert table key row set =>
    some (db.setRow table key (some ((db table key).elim row set)))
  | update table key set => some (db.modifyRow table key set)
  | upsertFrom table source key row set =>
    match db table source with
    | none => some db
    | some r => some (db.setRow table key (some ((db table key).elim (row r) (set (row r)))))
  | insertThen table key row target targetKey set =>
    match db table key with
    | none => some ((db.setRow table key (some row)).modifyRow target targetKey set)
    | some _ => some db
  | updateVia table source sourceKey column set =>
    match (db source sourceKey).bind column with
    | none => some db
    | some key => some (db.modifyRow table key set)
  | clear table => some (db.clear table)

/-- The tables a statement writes. -/
def writes : Statement V → List String
  | insert table .. | upsert table .. | update table .. | upsertFrom table .. | updateVia table ..
  | clear table => [table]
  | insertThen table _ _ target _ _ => [table, target]

/-- The tables a statement reads besides those it writes. -/
def reads : Statement V → List String
  | updateVia _ source .. => [source]
  | _ => []

end Statement

/-- The statements of a batch, in order. -/
def execAll (db : Db V) : List (Statement V) → Option (Db V)
  | [] => some db
  | st :: sts => (st.exec db).bind fun db' => execAll db' sts

theorem execAll_append (db : Db V) (sts sts' : List (Statement V)) :
    execAll db (sts ++ sts') = (execAll db sts).bind fun db' => execAll db' sts' := by
  induction sts generalizing db with
  | nil => rfl
  | cons st sts ih =>
    simp only [List.cons_append, execAll]
    cases st.exec db with
    | none => rfl
    | some db' => exact ih db'

/-! ## Frames -/

theorem exec_frame {db db' : Db V} {st : Statement V} (h : st.exec db = some db') {t : String}
    (ht : t ∉ st.writes) : db' t = db t := by
  cases st with
  | insert table key row =>
    have hne : t ≠ table := fun he => ht (by simp [Statement.writes, he])
    simp only [Statement.exec] at h
    split at h
    · cases h
      exact Db.setRow_table_ne hne _ _
    · cases h
  | upsert table key row set =>
    have hne : t ≠ table := fun he => ht (by simp [Statement.writes, he])
    cases h
    exact Db.setRow_table_ne hne _ _
  | update table key set =>
    have hne : t ≠ table := fun he => ht (by simp [Statement.writes, he])
    cases h
    exact Db.setRow_table_ne hne _ _
  | upsertFrom table source key row set =>
    have hne : t ≠ table := fun he => ht (by simp [Statement.writes, he])
    simp only [Statement.exec] at h
    split at h
    · cases h
      rfl
    · cases h
      exact Db.setRow_table_ne hne _ _
  | insertThen table key row target targetKey set =>
    have hne : t ≠ table := fun he => ht (by simp [Statement.writes, he])
    have hne' : t ≠ target := fun he => ht (by simp [Statement.writes, he])
    simp only [Statement.exec] at h
    split at h
    · cases h
      exact (Db.setRow_table_ne hne' _ _).trans (Db.setRow_table_ne hne _ _)
    · cases h
      rfl
  | updateVia table source sourceKey column set =>
    have hne : t ≠ table := fun he => ht (by simp [Statement.writes, he])
    simp only [Statement.exec] at h
    split at h
    · cases h
      rfl
    · cases h
      exact Db.setRow_table_ne hne _ _
  | clear table =>
    have hne : t ≠ table := fun he => ht (by simp [Statement.writes, he])
    cases h
    exact Db.clear_table_ne hne

theorem execAll_frame {db db' : Db V} {sts : List (Statement V)} (h : execAll db sts = some db')
    {t : String} (ht : ∀ st ∈ sts, t ∉ st.writes) : db' t = db t := by
  induction sts generalizing db with
  | nil =>
    cases h
    rfl
  | cons st sts ih =>
    simp only [execAll] at h
    obtain ⟨mid, hmid, h⟩ := Option.bind_eq_some_iff.mp h
    rw [ih h fun s hs => ht s (List.mem_cons_of_mem _ hs),
      exec_frame hmid (ht st List.mem_cons_self)]

/-! ## Agreement -/

/-- Databases that agree on some tables. -/
def AgreeOn (T : Set String) (a b : Db V) : Prop := ∀ t ∈ T, a t = b t

theorem AgreeOn.refl (T : Set String) (a : Db V) : AgreeOn T a a := fun _ _ => rfl

theorem AgreeOn.symm {T : Set String} {a b : Db V} (h : AgreeOn T a b) : AgreeOn T b a :=
  fun t ht => (h t ht).symm

theorem AgreeOn.trans {T : Set String} {a b c : Db V} (h : AgreeOn T a b) (h' : AgreeOn T b c) :
    AgreeOn T a c := fun t ht => (h t ht).trans (h' t ht)

theorem AgreeOn.setRow {T : Set String} {a b : Db V} (h : AgreeOn T a b) (table : String)
    (key : List String) (row : Option (Row V)) :
    AgreeOn T (a.setRow table key row) (b.setRow table key row) := by
  intro t ht
  funext k
  unfold Db.setRow
  rw [h t ht]

theorem AgreeOn.row {T : Set String} {a b : Db V} (h : AgreeOn T a b) {table : String}
    (ht : table ∈ T) (key : List String) : a table key = b table key := by rw [h table ht]

/-- A statement is closed in a set of tables when what it writes there depends
on them alone: it stays within the set, or it writes outside it. -/
def Statement.ClosedIn (T : Set String) (st : Statement V) : Prop :=
  ((∀ t ∈ st.writes, t ∈ T) ∧ ∀ t ∈ st.reads, t ∈ T) ∨
    ((∃ table source key column set, st = .updateVia table source key column set) ∧
      ∀ t ∈ st.writes, t ∉ T)

/-- Two outcomes that agree on some tables. -/
def AgreeResult (T : Set String) : Option (Db V) → Option (Db V) → Prop
  | some a, some b => AgreeOn T a b
  | none, none => True
  | _, _ => False

theorem exec_agree {T : Set String} {a b : Db V} (h : AgreeOn T a b) {st : Statement V}
    (hst : st.ClosedIn T) : AgreeResult T (st.exec a) (st.exec b) := by
  rcases hst with ⟨hwrites, hreads⟩ | ⟨⟨table, source, key, column, set, rfl⟩, hwrites⟩
  · cases st with
    | insert table key row =>
      have hT := hwrites table List.mem_cons_self
      simp only [Statement.exec, h.row hT key]
      cases b table key with
      | none => exact h.setRow _ _ _
      | some r => trivial
    | upsert table key row set =>
      have hT := hwrites table List.mem_cons_self
      simp only [Statement.exec, h.row hT key]
      exact h.setRow _ _ _
    | update table key set =>
      have hT := hwrites table List.mem_cons_self
      simp only [Statement.exec, Db.modifyRow, h.row hT key]
      exact h.setRow _ _ _
    | upsertFrom table source key row set =>
      have hT := hwrites table List.mem_cons_self
      simp only [Statement.exec, h.row hT key, h.row hT source]
      cases b table source with
      | none => exact h
      | some r => exact h.setRow _ _ _
    | insertThen table key row target targetKey set =>
      have hT := hwrites table List.mem_cons_self
      have hT' := hwrites target (List.mem_cons_of_mem _ List.mem_cons_self)
      simp only [Statement.exec, h.row hT key]
      cases b table key with
      | none =>
        have h' := h.setRow table key (some row)
        simp only [Db.modifyRow, h'.row hT' targetKey]
        exact h'.setRow _ _ _
      | some r => exact h
    | updateVia table source sourceKey column set =>
      have hT := hwrites table List.mem_cons_self
      have hS := hreads source List.mem_cons_self
      simp only [Statement.exec, h.row hS sourceKey]
      cases (b source sourceKey).bind column with
      | none => exact h
      | some key =>
        simp only [Db.modifyRow, h.row hT key]
        exact h.setRow _ _ _
    | clear table =>
      intro t ht
      simp only [Db.clear, h t ht]
  · -- the row it rewrites is in neither set
    have hT := hwrites table List.mem_cons_self
    have haway : ∀ (db : Db V) (k : List String) (row : Option (Row V)),
        AgreeOn T (db.setRow table k row) db := by
      intro db k row t ht
      have hne : t ≠ table := by
        rintro rfl
        exact hT ht
      exact Db.setRow_table_ne hne _ _
    have hexec : ∀ db : Db V, ∃ db', (Statement.updateVia table source key column set).exec db
        = some db' ∧ AgreeOn T db' db := by
      intro db
      simp only [Statement.exec]
      cases (db source key).bind column with
      | none => exact ⟨db, rfl, AgreeOn.refl _ _⟩
      | some k => exact ⟨_, rfl, haway _ _ _⟩
    obtain ⟨a', ha, haa⟩ := hexec a
    obtain ⟨b', hb, hbb⟩ := hexec b
    rw [ha, hb]
    exact (haa.trans h).trans hbb.symm

theorem execAll_agree {T : Set String} {a b : Db V} (h : AgreeOn T a b)
    {sts : List (Statement V)} (hsts : ∀ st ∈ sts, st.ClosedIn T) :
    AgreeResult T (execAll a sts) (execAll b sts) := by
  induction sts generalizing a b with
  | nil => exact h
  | cons st sts ih =>
    have hst := exec_agree h (hsts st List.mem_cons_self)
    simp only [execAll]
    cases ha : st.exec a with
    | none =>
      cases hb : st.exec b with
      | none => trivial
      | some b' =>
        rw [ha, hb] at hst
        exact hst.elim
    | some a' =>
      cases hb : st.exec b with
      | none =>
        rw [ha, hb] at hst
        exact hst.elim
      | some b' =>
        rw [ha, hb] at hst
        exact ih hst fun s hs => hsts s (List.mem_cons_of_mem _ hs)

/-! ## Rows that come and rows that stay -/

namespace Statement

/-- A statement that leaves a row behind whatever the tables hold. -/
def grows : Statement V → Bool
  | insert .. | upsert .. | insertThen .. => true
  | _ => false

/-- A statement that takes rows away. -/
def deletes : Statement V → Bool
  | clear .. => true
  | _ => false

/-- A statement that stays within some tables. -/
def Within (T : Set String) (st : Statement V) : Prop :=
  (∀ t ∈ st.writes, t ∈ T) ∧ ∀ t ∈ st.reads, t ∈ T

end Statement

/-- Tables without a row. -/
def Empty (T : Set String) (db : Db V) : Prop := ∀ t ∈ T, ∀ k, db t k = none

namespace Db

theorem setRow_stays (db : Db V) (table : String) (key : List String) (row : Row V) {t : String}
    {k : List String} (h : (db t k).isSome) : (db.setRow table key (some row) t k).isSome := by
  unfold setRow
  split
  · rfl
  · exact h

theorem modifyRow_isSome (db : Db V) (table : String) (key : List String) (set : Row V → Row V)
    (t : String) (k : List String) : (db.modifyRow table key set t k).isSome = (db t k).isSome := by
  unfold modifyRow setRow
  by_cases h : t = table ∧ k = key
  · rw [if_pos h, Option.isSome_map, h.1, h.2]
  · rw [if_neg h]

theorem modifyRow_none {db : Db V} {table : String} {key : List String} (h : db table key = none)
    (set : Row V → Row V) : db.modifyRow table key set = db := by
  funext t k
  unfold modifyRow setRow
  by_cases hk : t = table ∧ k = key
  · rw [if_pos hk, h, hk.1, hk.2, h]
    rfl
  · rw [if_neg hk]

end Db

theorem exec_stays {db db' : Db V} {st : Statement V} (h : st.exec db = some db')
    (hst : st.deletes = false) {t : String} {k : List String} (hrow : (db t k).isSome) :
    (db' t k).isSome := by
  cases st with
  | insert table key row =>
    simp only [Statement.exec] at h
    split at h
    · cases h
      exact Db.setRow_stays _ _ _ _ hrow
    · cases h
  | upsert table key row set =>
    cases h
    exact Db.setRow_stays _ _ _ _ hrow
  | update table key set =>
    cases h
    rw [Db.modifyRow_isSome]
    exact hrow
  | upsertFrom table source key row set =>
    simp only [Statement.exec] at h
    split at h
    · cases h
      exact hrow
    · cases h
      exact Db.setRow_stays _ _ _ _ hrow
  | insertThen table key row target targetKey set =>
    simp only [Statement.exec] at h
    split at h
    · cases h
      rw [Db.modifyRow_isSome]
      exact Db.setRow_stays _ _ _ _ hrow
    · cases h
      exact hrow
  | updateVia table source sourceKey column set =>
    simp only [Statement.exec] at h
    split at h
    · cases h
      exact hrow
    · cases h
      rw [Db.modifyRow_isSome]
      exact hrow
  | clear table => cases hst

theorem execAll_stays {db db' : Db V} {sts : List (Statement V)} (h : execAll db sts = some db')
    (hsts : ∀ st ∈ sts, st.deletes = false) {t : String} {k : List String}
    (hrow : (db t k).isSome) : (db' t k).isSome := by
  induction sts generalizing db with
  | nil =>
    cases h
    exact hrow
  | cons st sts ih =>
    simp only [execAll] at h
    obtain ⟨mid, hmid, h⟩ := Option.bind_eq_some_iff.mp h
    exact ih h (fun s hs => hsts s (List.mem_cons_of_mem _ hs))
      (exec_stays hmid (hsts st List.mem_cons_self) hrow)

theorem exec_grows {T : Set String} {db db' : Db V} {st : Statement V}
    (h : st.exec db = some db') (hst : st.grows = true) (hT : ∀ t ∈ st.writes, t ∈ T) :
    ∃ t ∈ T, ∃ k, (db' t k).isSome := by
  cases st with
  | insert table key row =>
    refine ⟨table, hT table List.mem_cons_self, key, ?_⟩
    simp only [Statement.exec] at h
    split at h
    · cases h
      rw [Db.setRow_self]
      rfl
    · cases h
  | upsert table key row set =>
    refine ⟨table, hT table List.mem_cons_self, key, ?_⟩
    cases h
    rw [Db.setRow_self]
    rfl
  | insertThen table key row target targetKey set =>
    refine ⟨table, hT table List.mem_cons_self, key, ?_⟩
    simp only [Statement.exec] at h
    split at h
    · cases h
      rw [Db.modifyRow_isSome, Db.setRow_self]
      rfl
    · next r hr =>
      cases h
      rw [hr]
      rfl
  | update => cases hst
  | upsertFrom => cases hst
  | updateVia => cases hst
  | clear => cases hst

theorem exec_still {T : Set String} {db : Db V} {st : Statement V} (hst : st.grows = false)
    (hT : st.Within T) (hempty : Empty T db) : st.exec db = some db := by
  cases st with
  | insert => cases hst
  | upsert => cases hst
  | insertThen => cases hst
  | update table key set =>
    have hnone := hempty table (hT.1 table List.mem_cons_self) key
    simp only [Statement.exec, Db.modifyRow_none hnone]
  | upsertFrom table source key row set =>
    have hnone := hempty table (hT.1 table List.mem_cons_self) source
    simp only [Statement.exec, hnone]
  | updateVia table source sourceKey column set =>
    have hnone := hempty source (hT.2 source List.mem_cons_self) sourceKey
    simp only [Statement.exec, hnone, Option.bind_none]
  | clear table =>
    have hsame : db.clear table = db := by
      funext t k
      unfold Db.clear
      by_cases ht : t = table
      · rw [if_pos ht, ht, hempty table (hT.1 table List.mem_cons_self)]
      · rw [if_neg ht]
    simp only [Statement.exec, hsame]

end Lib.Sql
