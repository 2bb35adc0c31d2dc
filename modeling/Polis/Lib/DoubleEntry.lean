/-
  Lib.DoubleEntry — books, postings and what they preserve.

  A *book* gives every account a signed balance, all but finitely many of
  them zero.  A *posting* is a list of signed lines; posting adds it to the
  book.  Every quantity an accounting identity speaks about (the sum of all
  balances, the deposits held at one bank, the escrow of one owner) is a
  weighted sum of balances, so one statement covers them all:

      weigh w (b + posting l) = weigh w b + net w l

  and an identity `weigh w = 0` survives exactly the postings whose net
  weight is zero.  `bookOf` reads the book off a dictionary of accounts.
-/
import Polis.Lib.Dict
import Mathlib.Data.Finsupp.Basic
import Mathlib.Algebra.BigOperators.Finsupp.Basic
import Mathlib.Algebra.Ring.Int.Defs
import Mathlib.Tactic.Ring

namespace Lib.DoubleEntry

variable {ι : Type*}

/-- A book: one signed balance an account. -/
abbrev Book (ι : Type*) := ι →₀ ℤ

/-- The weighted value of a book. -/
noncomputable def weigh (w : ι → ℤ) : Book ι →+ ℤ :=
  Finsupp.liftAddHom fun i => AddMonoidHom.mulLeft (w i)

@[simp] theorem weigh_single (w : ι → ℤ) (i : ι) (n : ℤ) :
    weigh w (Finsupp.single i n) = w i * n := by
  simp [weigh]

/-- The book a list of signed lines adds up to. -/
noncomputable def posting (lines : List (ι × ℤ)) : Book ι :=
  (lines.map fun p => Finsupp.single p.1 p.2).sum

@[simp] theorem posting_nil : posting ([] : List (ι × ℤ)) = 0 := rfl
@[simp] theorem posting_cons (p : ι × ℤ) (l : List (ι × ℤ)) :
    posting (p :: l) = Finsupp.single p.1 p.2 + posting l := by
  simp [posting]

theorem posting_append (l l' : List (ι × ℤ)) : posting (l ++ l') = posting l + posting l' := by
  simp [posting]

/-! ## Net weight of a list of lines -/

/-- The weighted sum of a list of signed lines. -/
def net (w : ι → ℤ) (lines : List (ι × ℤ)) : ℤ := (lines.map fun p => w p.1 * p.2).sum

@[simp] theorem net_nil (w : ι → ℤ) : net w [] = 0 := rfl

@[simp] theorem net_cons (w : ι → ℤ) (p : ι × ℤ) (l : List (ι × ℤ)) :
    net w (p :: l) = w p.1 * p.2 + net w l := by simp [net]

@[simp] theorem net_append (w : ι → ℤ) (l l' : List (ι × ℤ)) :
    net w (l ++ l') = net w l + net w l' := by simp [net]

theorem weigh_posting (w : ι → ℤ) (l : List (ι × ℤ)) : weigh w (posting l) = net w l := by
  induction l with
  | nil => simp
  | cons p l ih => rw [posting_cons, map_add, weigh_single, ih, net_cons]

theorem weigh_add_posting (w : ι → ℤ) (b : Book ι) (l : List (ι × ℤ)) :
    weigh w (b + posting l) = weigh w b + net w l := by
  rw [map_add, weigh_posting]

theorem weigh_indicator [DecidableEq ι] (i : ι) (b : Book ι) :
    weigh (fun j => if j = i then 1 else 0) b = b i := by
  induction b using Finsupp.induction_linear with
  | zero => simp
  | add f g hf hg => rw [map_add, hf, hg, Finsupp.add_apply]
  | single j n =>
    rw [weigh_single, Finsupp.single_apply]
    by_cases h : j = i <;> simp [h]

theorem posting_apply [DecidableEq ι] (l : List (ι × ℤ)) (i : ι) :
    posting l i = net (fun j => if j = i then 1 else 0) l := by
  rw [← weigh_posting, weigh_indicator]

theorem posting_apply_of_notMem [DecidableEq ι] {l : List (ι × ℤ)} {i : ι} (h : i ∉ l.map Prod.fst) :
    posting l i = 0 := by
  induction l with
  | nil => rfl
  | cons p l ih =>
    rw [List.map_cons, List.mem_cons, not_or] at h
    rw [posting_cons, Finsupp.add_apply, ih h.2, Finsupp.single_apply, if_neg (Ne.symm h.1),
      zero_add]

/-! ## The book of a dictionary -/

section OfDict

variable {α : Type*}

/-- The book whose balance at a key is `f` of the row stored there. -/
noncomputable def bookOf (d : Dict ι α) (f : α → ℤ) : Book ι :=
  d.total fun i v => Finsupp.single i (f v)

theorem weigh_bookOf (w : ι → ℤ) (d : Dict ι α) (f : α → ℤ) :
    weigh w (bookOf d f) = d.total fun i v => w i * f v := by
  unfold bookOf Dict.total
  induction d.entries with
  | nil => simp
  | cons e es ih => rw [List.map_cons, List.sum_cons, map_add, weigh_single, ih, List.map_cons,
      List.sum_cons]

theorem sum_single_apply [DecidableEq ι] (l : List (ι × α)) (f : α → ℤ) (hn : (l.map Prod.fst).Nodup) (i : ι) :
    (l.map fun e => Finsupp.single e.1 (f e.2)).sum i = (Dict.lookup i l).elim 0 f := by
  induction l with
  | nil => rfl
  | cons e es ih =>
    rw [List.map_cons, List.nodup_cons] at hn
    rw [List.map_cons, List.sum_cons, Finsupp.add_apply, ih hn.2, Finsupp.single_apply]
    by_cases h : e.1 = i
    · have hnone : Dict.lookup i es = none := by
        cases hl : Dict.lookup i es with
        | none => rfl
        | some v => exact absurd (List.mem_map_of_mem (Dict.lookup_mem hl)) (h ▸ hn.1)
      simp [h, Dict.lookup, hnone]
    · simp [h, Dict.lookup]

theorem bookOf_apply [DecidableEq ι] (d : Dict ι α) (f : α → ℤ) (i : ι) :
    bookOf d f i = (d.get? i).elim 0 f := sum_single_apply d.entries f d.nodup i

theorem bookOf_apply_some [DecidableEq ι] {d : Dict ι α} {f : α → ℤ} {i : ι} {v : α} (h : d.get? i = some v) :
    bookOf d f i = f v := by rw [bookOf_apply, h, Option.elim_some]

end OfDict

end Lib.DoubleEntry
