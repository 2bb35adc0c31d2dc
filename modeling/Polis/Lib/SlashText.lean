/-
  Lib.SlashText — words written one after another, each behind a slash, and
  what splitting such a text once at a word between two slashes returns.

  The letters are those of any alphabet; `slash` is the letter that no word
  has in it.

  Main results:
    * `afterFirst_slashed` — the text behind the first such word.
    * `splitOn_joined` — the words of a text, read back.
-/
import Mathlib.Init
import Mathlib.Data.List.Basic

namespace Lib.SlashText

variable {α : Type*} [DecidableEq α]

/-! ## Splitting once -/

/-- A text without the prefix it begins with. -/
def strip? : List α → List α → Option (List α)
  | [], text => some text
  | _ :: _, [] => none
  | a :: sep, b :: text => if a = b then strip? sep text else none

/-- What stands behind the first place a separator is found at. -/
def behind? (sep : List α) : List α → Option (List α)
  | [] => strip? sep []
  | a :: text =>
    match strip? sep (a :: text) with
    | some rest => some rest
    | none => behind? sep text

/-- `text.split(sep, 1)[-1]`. -/
def afterFirst (sep text : List α) : List α := (behind? sep text).getD text

theorem strip?_eq_some {sep text rest : List α} :
    strip? sep text = some rest ↔ text = sep ++ rest := by
  induction sep generalizing text with
  | nil =>
    show some text = some rest ↔ _
    rw [Option.some.injEq, List.nil_append]
  | cons a sep ih =>
    cases text with
    | nil => exact iff_of_false (fun h => by cases h) (fun h => by cases h)
    | cons b text =>
      show (if a = b then strip? sep text else none) = _ ↔ _
      by_cases hab : a = b
      · rw [if_pos hab, ih, hab, List.cons_append, List.cons.injEq]
        simp
      · rw [if_neg hab, List.cons_append, List.cons.injEq]
        exact iff_of_false (fun h => by cases h) (fun h => hab h.1.symm)

theorem behind?_append {a : α} {sep word : List α} (h : a ∉ word) (text : List α) :
    behind? (a :: sep) (word ++ text) = behind? (a :: sep) text := by
  induction word with
  | nil => rfl
  | cons b word ih =>
    obtain ⟨hb, hword⟩ := List.ne_and_not_mem_of_not_mem_cons h
    have hnone : strip? (a :: sep) (b :: (word ++ text)) = none := if_neg hb
    rw [List.cons_append, behind?, hnone, ← ih hword]

/-! ## Words behind slashes -/

omit [DecidableEq α] in
/-- Every word behind a slash. -/
def slashed (slash : α) (words : List (List α)) : List α := words.flatMap fun w => slash :: w

omit [DecidableEq α] in
/-- The words with slashes between them. -/
def joined (slash : α) (words : List (List α)) : List α := (slashed slash words).tail

variable {slash : α}

omit [DecidableEq α] in
theorem slashed_cons (word : List α) (words : List (List α)) :
    slashed slash (word :: words) = slash :: (word ++ slashed slash words) := rfl

omit [DecidableEq α] in
omit [DecidableEq α] in
theorem slashed_eq_joined {words : List (List α)} (h : words ≠ []) :
    slashed slash words = slash :: joined slash words := by
  cases words with
  | nil => exact absurd rfl h
  | cons w ws => rfl

omit [DecidableEq α] in
theorem word_unique {v w s t : List α} (hv : slash ∉ v) (hw : slash ∉ w)
    (h : v ++ slash :: s = w ++ slash :: t) : v = w ∧ s = t := by
  induction v generalizing w with
  | nil =>
    cases w with
    | nil => exact ⟨rfl, (List.cons.inj h).2⟩
    | cons b w => exact absurd (List.cons.inj h).1 (List.ne_of_not_mem_cons hw)
  | cons a v ih =>
    cases w with
    | nil => exact absurd (List.cons.inj h).1.symm (List.ne_of_not_mem_cons hv)
    | cons b w =>
      obtain ⟨hab, hrest⟩ := List.cons.inj h
      obtain ⟨hvw, hst⟩ := ih (List.not_mem_of_not_mem_cons hv)
        (List.not_mem_of_not_mem_cons hw) hrest
      exact ⟨by rw [hab, hvw], hst⟩

theorem behind?_here {word : List α} {words : List (List α)} (h : words ≠ []) :
    behind? (slash :: (word ++ [slash])) (slashed slash (word :: words))
      = some (joined slash words) := by
  have hstrip : strip? (slash :: (word ++ [slash])) (slash :: (word ++ slashed slash words))
      = some (joined slash words) := by
    rw [strip?_eq_some, slashed_eq_joined h]
    simp
  rw [slashed_cons, behind?, hstrip]

theorem behind?_later {word first : List α} {words : List (List α)} (hword : slash ∉ word)
    (hfirst : slash ∉ first) (hne : first ≠ word) :
    behind? (slash :: (word ++ [slash])) (slashed slash (first :: words))
      = behind? (slash :: (word ++ [slash])) (slashed slash words) := by
  have hnone : strip? (slash :: (word ++ [slash])) (slash :: (first ++ slashed slash words))
      = none := by
    rw [Option.eq_none_iff_forall_ne_some]
    intro rest hsome
    have htext := (List.cons.inj (strip?_eq_some.mp hsome)).2
    have htext : first ++ slashed slash words = word ++ slash :: rest := by
      rw [htext]
      simp
    cases words with
    | nil =>
      -- the last word is not followed by a slash
      have hlast : slash ∈ first ++ slashed slash ([] : List (List α)) := by
        rw [htext]
        exact List.mem_append_right _ List.mem_cons_self
      exact hfirst (by simpa [slashed] using hlast)
    | cons w ws =>
      rw [slashed_cons] at htext
      exact hne (word_unique hfirst hword htext).1
  rw [slashed_cons, behind?, hnone]
  exact behind?_append hfirst _

theorem afterFirst_slashed {start word : List α} {before after : List (List α)}
    (hstart : slash ∉ start) (hword : slash ∉ word) (hslash : ∀ w ∈ before, slash ∉ w)
    (hbefore : word ∉ before) (hafter : after ≠ []) :
    afterFirst (slash :: (word ++ [slash])) (start ++ slashed slash (before ++ word :: after))
      = joined slash after := by
  have hfound : behind? (slash :: (word ++ [slash])) (slashed slash (before ++ word :: after))
      = some (joined slash after) := by
    induction before with
    | nil => exact behind?_here hafter
    | cons w ws ih =>
      obtain ⟨hne, hrest⟩ := List.ne_and_not_mem_of_not_mem_cons hbefore
      rw [List.cons_append, behind?_later hword (hslash w List.mem_cons_self) hne.symm]
      exact ih (fun v hv => hslash v (List.mem_cons_of_mem _ hv)) hrest
  unfold afterFirst
  rw [behind?_append hstart, hfound, Option.getD_some]

/-! ## Reading words back -/

omit [DecidableEq α] in
theorem joined_eq_intercalate (words : List (List α)) :
    joined slash words = [slash].intercalate words := by
  unfold joined
  cases words with
  | nil => rfl
  | cons w ws =>
    rw [slashed_cons, List.tail_cons]
    induction ws generalizing w with
    | nil => simp [slashed]
    | cons v vs ih => rw [slashed_cons, List.intercalate_cons_cons, ih v, List.append_assoc, List.singleton_append]

theorem splitOn_joined {words : List (List α)} (hslash : ∀ w ∈ words, slash ∉ w)
    (hne : words ≠ []) : (joined slash words).splitOn slash = words := by
  rw [joined_eq_intercalate]
  exact List.splitOn_intercalate slash hslash hne

end Lib.SlashText
