/-
  Lib.BraceText — texts whose braces match outside string literals.

  A string literal stands between two quotation marks; inside it a backslash
  takes the next character with it.  A body is made of plain characters, string
  literals and braced bodies.

  Main results:
    * `Inner.append`, `Body.append` — such texts may be joined.
    * `body_of_plain` — a text without quotation marks and braces is a body.
-/
import Mathlib.Data.List.Basic

namespace Lib.BraceText

/-- What stands inside a string literal. -/
inductive Inner : List Char → Prop
  | nil : Inner []
  | plain {c : Char} {rest : List Char} (hquote : c ≠ '"') (hslash : c ≠ '\\') (h : Inner rest) :
      Inner (c :: rest)
  | escape (c : Char) {rest : List Char} (h : Inner rest) : Inner ('\\' :: c :: rest)

theorem Inner.append {xs ys : List Char} (hx : Inner xs) (hy : Inner ys) : Inner (xs ++ ys) := by
  induction hx with
  | nil => exact hy
  | plain hquote hslash _ ih => exact .plain hquote hslash ih
  | escape c _ ih => exact .escape c ih

/-- A text whose braces match. -/
inductive Body : List Char → Prop
  | nil : Body []
  | plain {c : Char} {rest : List Char} (hquote : c ≠ '"') (hopen : c ≠ '\x7b') (hclose : c ≠ '\x7d')
      (h : Body rest) : Body (c :: rest)
  | string {inner rest : List Char} (hinner : Inner inner) (h : Body rest) :
      Body ('"' :: (inner ++ '"' :: rest))
  | braced {body rest : List Char} (hbody : Body body) (h : Body rest) :
      Body ('\x7b' :: (body ++ '\x7d' :: rest))

/-- An object: a body between braces. -/
def Balanced (text : List Char) : Prop := ∃ body, Body body ∧ text = '\x7b' :: (body ++ ['\x7d'])

theorem Body.append {xs ys : List Char} (hx : Body xs) (hy : Body ys) : Body (xs ++ ys) := by
  induction hx with
  | nil => exact hy
  | plain hquote hopen hclose _ ih => exact .plain hquote hopen hclose ih
  | string hinner _ ih =>
    rw [List.cons_append, List.append_assoc, List.cons_append]
    exact .string hinner ih
  | braced hbody _ _ ih =>
    rw [List.cons_append, List.append_assoc, List.cons_append]
    exact .braced hbody ih

theorem body_of_plain {xs : List Char} (h : ∀ c ∈ xs, c ≠ '"' ∧ c ≠ '\x7b' ∧ c ≠ '\x7d') :
    Body xs := by
  induction xs with
  | nil => exact .nil
  | cons c xs ih =>
    obtain ⟨hquote, hopen, hclose⟩ := h c List.mem_cons_self
    exact .plain hquote hopen hclose (ih fun d hd => h d (List.mem_cons_of_mem _ hd))

theorem body_of_literal {inner : List Char} (h : Inner inner) : Body ('"' :: (inner ++ ['"'])) :=
  .string h .nil

end Lib.BraceText
