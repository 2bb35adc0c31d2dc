/-
  Polis.Llm.JsonText — which object `extract_and_validate` finds
  (`llm/structured.py`).

  The scanner of braces stops exactly at the end of the object it starts at.
  A JSON encoder writes such objects, whatever whitespace it puts and however
  it escapes its strings, and cleaning a reply takes nothing of them away.

  Main results:
    * `balanced_object` / `balanced_of_found` — the scanner finds the object a
      text starts with, and only that.
    * `Encodes.body` — what an encoder writes has matching braces.
    * `cleaned_around` / `cleaned_within` — what cleaning leaves of a reply.
    * `extraction_finds_object` — an encoded object is found in any reply, and
      a value returned is the parse of an object of the reply.
-/
import Polis.Lib.BraceText
import Polis.Llm.Structured

namespace Polis.Llm

open Lib.BraceText

/-! ## The scanner -/

theorem balanced_inner {inner : List Char} (h : Inner inner) (depth : Nat) (rest : List Char) :
    balanced (inner ++ '"' :: rest) depth true false
      = (balanced rest depth false false).map ((inner ++ ['"']) ++ ·) := by
  induction h with
  | nil => simp [balanced]
  | plain hquote hslash _ ih =>
    rw [List.cons_append, balanced]
    simp only [hslash, hquote, decide_false, Bool.false_and, Bool.false_eq_true, if_false, if_true, ih]
    rw [Option.map_map]
    rfl
  | escape c _ ih =>
    rw [List.cons_append, List.cons_append, balanced]
    simp only [Bool.false_eq_true, if_false, decide_true, Bool.and_true, if_true]
    rw [balanced]
    simp only [if_true, ih]
    rw [Option.map_map, Option.map_map]
    rfl

theorem balanced_body {body : List Char} (h : Body body) {depth : Nat} (hdepth : 0 < depth)
    (rest : List Char) :
    balanced (body ++ rest) depth false false
      = (balanced rest depth false false).map (body ++ ·) := by
  induction h generalizing depth rest with
  | nil => simp
  | plain hquote hopen hclose _ ih =>
    rw [List.cons_append, balanced]
    simp only [hquote, hopen, hclose, Bool.and_false, Bool.false_eq_true, if_false, ih hdepth]
    rw [Option.map_map]
    rfl
  | @string inner rest' hinner _ ih =>
    have hstart : balanced ('"' :: (inner ++ '"' :: rest') ++ rest) depth false false
        = (balanced (inner ++ '"' :: (rest' ++ rest)) depth true false).map ('"' :: ·) := by
      rw [List.cons_append, List.append_assoc, List.cons_append, balanced]
      simp
    rw [hstart, balanced_inner hinner, ih hdepth, Option.map_map, Option.map_map]
    congr 1
    funext xs
    simp
  | @braced body rest' hbody _ ihbody ih =>
    have hstart : balanced ('\x7b' :: (body ++ '\x7d' :: rest') ++ rest) depth false false
        = (balanced (body ++ ('\x7d' :: (rest' ++ rest))) (depth + 1) false false).map ('\x7b' :: ·) := by
      rw [List.cons_append, List.append_assoc, List.cons_append, balanced]
      simp
    -- the closing brace comes back to the depth of the opening one
    have hend : balanced ('\x7d' :: (rest' ++ rest)) (depth + 1) false false
        = (balanced (rest' ++ rest) depth false false).map ('\x7d' :: ·) := by
      rw [balanced]
      have hopen : depth + 1 - 1 ≠ 0 := by omega
      simp [Nat.ne_of_gt hdepth]
    rw [hstart, ihbody (by omega), hend, ih hdepth, Option.map_map, Option.map_map, Option.map_map]
    congr 1
    funext xs
    simp

theorem balanced_object {object : List Char} (h : Balanced object) (rest : List Char) :
    balanced (object ++ rest) 0 false false = some object := by
  obtain ⟨body, hbody, rfl⟩ := h
  have hstart : balanced ('\x7b' :: (body ++ ['\x7d']) ++ rest) 0 false false
      = (balanced (body ++ ('\x7d' :: rest)) 1 false false).map ('\x7b' :: ·) := by
    rw [List.cons_append, List.append_assoc, balanced]
    simp
  have hend : balanced ('\x7d' :: rest) 1 false false = some ['\x7d'] := by
    rw [balanced]
    simp
  rw [hstart, balanced_body hbody (by omega), hend]
  simp

theorem inner_of_balanced {depth : Nat} (n : Nat) : ∀ (cs : List Char), cs.length ≤ n →
    ∀ {out : List Char}, balanced cs depth true false = some out →
    ∃ inner rest out', cs = inner ++ '"' :: rest ∧ Inner inner ∧
      balanced rest depth false false = some out' ∧ out = inner ++ '"' :: out' := by
  induction n using Nat.strong_induction_on with
  | _ n ih =>
    intro cs hn out h
    cases cs with
    | nil => cases h
    | cons c cs =>
      have hlen : cs.length + 1 ≤ n := by simpa using hn
      rw [balanced] at h
      simp only [Bool.false_eq_true, if_false, Bool.and_true, decide_eq_true_eq, if_true,
        Bool.not_true] at h
      by_cases hslash : c = '\\'
      · subst hslash
        simp only [if_true] at h
        obtain ⟨out₁, hout₁, rfl⟩ := Option.map_eq_some_iff.mp h
        -- the character after the backslash belongs to the literal
        cases cs with
        | nil => cases hout₁
        | cons d cs =>
          rw [balanced] at hout₁
          simp only [if_true] at hout₁
          obtain ⟨out₂, hout₂, rfl⟩ := Option.map_eq_some_iff.mp hout₁
          have hshort : cs.length < n := by simp at hlen; omega
          obtain ⟨inner, rest, out', rfl, hinner, hrest, rfl⟩ :=
            ih cs.length hshort cs (Nat.le_refl _) hout₂
          exact ⟨'\\' :: d :: inner, rest, out', rfl, .escape d hinner, hrest, rfl⟩
      · rw [if_neg hslash] at h
        by_cases hquote : c = '"'
        · subst hquote
          simp only [if_true] at h
          obtain ⟨out', hout', rfl⟩ := Option.map_eq_some_iff.mp h
          exact ⟨[], cs, out', rfl, .nil, hout', rfl⟩
        · rw [if_neg hquote] at h
          obtain ⟨out₁, hout₁, rfl⟩ := Option.map_eq_some_iff.mp h
          obtain ⟨inner, rest, out', rfl, hinner, hrest, rfl⟩ :=
            ih cs.length (by omega) cs (Nat.le_refl _) hout₁
          exact ⟨c :: inner, rest, out', rfl, .plain hquote hslash hinner, hrest, rfl⟩

theorem body_of_balanced (n : Nat) : ∀ (cs : List Char), cs.length ≤ n → ∀ (k : Nat) {out : List Char},
    balanced cs (k + 1) false false = some out →
    ∃ body rest, cs = body ++ '\x7d' :: rest ∧ Body body ∧
      ((k = 0 ∧ out = body ++ ['\x7d']) ∨
        ∃ out', 0 < k ∧ balanced rest k false false = some out' ∧ out = body ++ '\x7d' :: out') := by
  induction n using Nat.strong_induction_on with
  | _ n ih =>
    intro cs hn k out h
    cases cs with
    | nil => cases h
    | cons c cs =>
      have hlen : cs.length + 1 ≤ n := by simpa using hn
      rw [balanced] at h
      simp only [Bool.false_eq_true, if_false, Bool.and_false, Bool.not_false] at h
      by_cases hquote : c = '"'
      · subst hquote
        simp only [if_true] at h
        obtain ⟨out₁, hout₁, rfl⟩ := Option.map_eq_some_iff.mp h
        obtain ⟨inner, rest, out₂, rfl, hinner, hrest, rfl⟩ :=
          inner_of_balanced cs.length cs (Nat.le_refl _) hout₁
        have hshort : rest.length < n := by simp at hlen; omega
        obtain ⟨body, rest', rfl, hbody, hend⟩ := ih rest.length hshort rest (Nat.le_refl _) k hrest
        refine ⟨'"' :: (inner ++ '"' :: body), rest', by simp, .string hinner hbody, ?_⟩
        obtain ⟨hk, rfl⟩ | ⟨out', hk, hout', rfl⟩ := hend
        · exact .inl ⟨hk, by simp⟩
        · exact .inr ⟨out', hk, hout', by simp⟩
      · rw [if_neg hquote] at h
        by_cases hopen : c = '\x7b'
        · subst hopen
          simp only [if_true] at h
          obtain ⟨out₁, hout₁, rfl⟩ := Option.map_eq_some_iff.mp h
          -- the inner object closes first, the body goes on after it
          obtain ⟨inner, rest, rfl, hinner, hend⟩ :=
            ih cs.length (by omega) cs (Nat.le_refl _) (k + 1) hout₁
          obtain ⟨hk, -⟩ | ⟨out₂, -, hout₂, rfl⟩ := hend
          · omega
          · have hshort : rest.length < n := by simp at hlen; omega
            obtain ⟨body, rest', rfl, hbody, hend⟩ :=
              ih rest.length hshort rest (Nat.le_refl _) k hout₂
            refine ⟨'\x7b' :: (inner ++ '\x7d' :: body), rest', by simp, .braced hinner hbody, ?_⟩
            obtain ⟨hk, rfl⟩ | ⟨out', hk, hout', rfl⟩ := hend
            · exact .inl ⟨hk, by simp⟩
            · exact .inr ⟨out', hk, hout', by simp⟩
        · rw [if_neg hopen] at h
          by_cases hclose : c = '\x7d'
          · subst hclose
            simp only [if_true, Nat.add_sub_cancel] at h
            refine ⟨[], cs, rfl, .nil, ?_⟩
            by_cases hk : k = 0
            · rw [if_pos hk] at h
              cases h
              exact .inl ⟨hk, rfl⟩
            · rw [if_neg hk] at h
              obtain ⟨out', hout', rfl⟩ := Option.map_eq_some_iff.mp h
              exact .inr ⟨out', by omega, hout', rfl⟩
          · rw [if_neg hclose] at h
            obtain ⟨out₁, hout₁, rfl⟩ := Option.map_eq_some_iff.mp h
            obtain ⟨body, rest, rfl, hbody, hend⟩ :=
              ih cs.length (by omega) cs (Nat.le_refl _) k hout₁
            refine ⟨c :: body, rest, rfl, .plain hquote hopen hclose hbody, ?_⟩
            obtain ⟨hk, rfl⟩ | ⟨out', hk, hout', rfl⟩ := hend
            · exact .inl ⟨hk, rfl⟩
            · exact .inr ⟨out', hk, hout', rfl⟩

theorem balanced_of_found {cs out : List Char}
    (h : balanced ('\x7b' :: cs) 0 false false = some out) :
    Balanced out ∧ ∃ rest, '\x7b' :: cs = out ++ rest := by
  rw [balanced] at h
  have hquote : '\x7b' ≠ '"' := by decide
  simp only [Bool.false_eq_true, if_false, Bool.and_false, if_true, Nat.zero_add, hquote] at h
  obtain ⟨out₁, hout₁, rfl⟩ := Option.map_eq_some_iff.mp h
  obtain ⟨body, rest, rfl, hbody, hend⟩ := body_of_balanced cs.length cs (Nat.le_refl _) 0 hout₁
  obtain ⟨-, rfl⟩ | ⟨out', hk, -⟩ := hend
  · exact ⟨⟨body, hbody, rfl⟩, rest, by simp⟩
  · omega

/-! ## What an encoder writes -/

/-- The value of a hexadecimal digit. -/
def hexDigit (c : Char) : Option Nat :=
  if '0' ≤ c ∧ c ≤ '9' then some (c.toNat - 48)
  else if 'a' ≤ c ∧ c ≤ 'f' then some (c.toNat - 87)
  else if 'A' ≤ c ∧ c ≤ 'F' then some (c.toNat - 55)
  else none

/-- `\uXXXX` for a unit of sixteen bits. -/
inductive Unit16 : Nat → List Char → Prop
  | mk {a b c d : Char} {w x y z : Nat} (ha : hexDigit a = some w) (hb : hexDigit b = some x)
      (hc : hexDigit c = some y) (hd : hexDigit d = some z) :
      Unit16 (((w * 16 + x) * 16 + y) * 16 + z) ['\\', 'u', a, b, c, d]

/-- The letters that stand for a character after a backslash. -/
def shortEscapes : List (Char × Char) :=
  [('"', '"'), ('\\', '\\'), ('/', '/'), ('\x08', 'b'), ('\x0c', 'f'), ('\n', 'n'), ('\r', 'r'),
    ('\t', 't')]

/-- The ways to write one character of a string. -/
inductive Spelled : Char → List Char → Prop
  | plain {c : Char} (hquote : c ≠ '"') (hslash : c ≠ '\\') (hcontrol : 0x20 ≤ c.toNat) :
      Spelled c [c]
  | short {c letter : Char} (h : (c, letter) ∈ shortEscapes) : Spelled c ['\\', letter]
  | unit {c : Char} {text : List Char} (h : Unit16 c.toNat text) : Spelled c text
  | pair {c : Char} {high low : List Char} (hwide : 0x10000 ≤ c.toNat)
      (hhigh : Unit16 (0xd800 + (c.toNat - 0x10000) / 0x400) high)
      (hlow : Unit16 (0xdc00 + (c.toNat - 0x10000) % 0x400) low) : Spelled c (high ++ low)

/-- The ways to write what stands between the quotation marks of a string. -/
inductive Written : List Char → List Char → Prop
  | nil : Written [] []
  | cons {c : Char} {cs text rest : List Char} (hc : Spelled c text) (h : Written cs rest) :
      Written (c :: cs) (text ++ rest)

/-- Whitespace of JSON. -/
def Blank (text : List Char) : Prop := ∀ c ∈ text, c = ' ' ∨ c = '\t' ∨ c = '\n' ∨ c = '\r'

/-- The items of an array or an object: commas between them, whitespace around
them. -/
inductive Joined : List (List Char) → List Char → Prop
  | empty {blank : List Char} (hblank : Blank blank) : Joined [] blank
  | last {item before after : List Char} (hbefore : Blank before) (hafter : Blank after) :
      Joined [item] (before ++ item ++ after)
  | more {item next before after rest : List Char} {items : List (List Char)}
      (hbefore : Blank before) (hafter : Blank after) (h : Joined (next :: items) rest) :
      Joined (item :: next :: items) (before ++ item ++ after ++ ',' :: rest)

/-- The characters of a number, `NaN` and `Infinity` included. -/
def Numeral (text : List Char) : Prop :=
  ∀ c ∈ text, c.isAlphanum ∨ c = '+' ∨ c = '-' ∨ c = '.'

/-- One member of an object as an encoder writes it. -/
structure Member where
  name : String
  value : Json
  nameText : List Char
  before : List Char
  after : List Char
  valueText : List Char

def Member.text (m : Member) : List Char :=
  '"' :: (m.nameText ++ '"' :: (m.before ++ ':' :: (m.after ++ m.valueText)))

/-- The texts a JSON encoder may write for a value: any whitespace, any way to
spell the characters of a string, any number text for a float, the members of
an object in the order the text has them. -/
inductive Encodes : Json → List Char → Prop
  | none : Encodes .none ['n', 'u', 'l', 'l']
  | true : Encodes (.bool Bool.true) ['t', 'r', 'u', 'e']
  | false : Encodes (.bool Bool.false) ['f', 'a', 'l', 's', 'e']
  | int (n : Int) : Encodes (.int n) (toString n).toList
  | float (number : String) {text : List Char} (h : Numeral text) : Encodes (.float number) text
  | str {value : String} {text : List Char} (h : Written value.toList text) :
      Encodes (.str value) ('"' :: (text ++ ['"']))
  | list {items : List (Json × List Char)} {text : List Char}
      (hitems : ∀ item ∈ items, Encodes item.1 item.2)
      (hjoined : Joined (items.map Prod.snd) text) :
      Encodes (.list (items.map Prod.fst)) ('[' :: (text ++ [']']))
  | dict {members : List Member} {text : List Char}
      (hnames : ∀ m ∈ members, Written m.name.toList m.nameText)
      (hblanks : ∀ m ∈ members, Blank m.before ∧ Blank m.after)
      (hvalues : ∀ m ∈ members, Encodes m.value m.valueText)
      (hjoined : Joined (members.map Member.text) text) :
      Encodes (.dict (members.map fun m => (m.name, m.value))) ('\x7b' :: (text ++ ['\x7d']))

/-! ## Encoded texts have matching braces -/

theorem hexDigit_plain {c : Char} {n : Nat} (h : hexDigit c = some n) : c ≠ '"' ∧ c ≠ '\\' := by
  constructor
  · rintro rfl
    cases h
  · rintro rfl
    cases h

theorem Unit16.inner {n : Nat} {text : List Char} (h : Unit16 n text) : Inner text := by
  cases h with
  | mk ha hb hc hd =>
    have hplain {e : Char} {m : Nat} (he : hexDigit e = some m) {rest : List Char}
        (hrest : Inner rest) : Inner (e :: rest) :=
      .plain (hexDigit_plain he).1 (hexDigit_plain he).2 hrest
    exact .escape 'u' (hplain ha (hplain hb (hplain hc (hplain hd .nil))))

theorem Spelled.inner {c : Char} {text : List Char} (h : Spelled c text) : Inner text := by
  cases h with
  | plain hquote hslash _ => exact .plain hquote hslash .nil
  | short _ => exact .escape _ .nil
  | unit h => exact h.inner
  | pair _ hhigh hlow => exact hhigh.inner.append hlow.inner

theorem Written.inner {cs text : List Char} (h : Written cs text) : Inner text := by
  induction h with
  | nil => exact .nil
  | cons hc _ ih => exact hc.inner.append ih

theorem Blank.body {text : List Char} (h : Blank text) : Body text := by
  apply body_of_plain
  intro c hc
  obtain rfl | rfl | rfl | rfl := h c hc <;> decide

theorem Numeral.body {text : List Char} (h : Numeral text) : Body text := by
  apply body_of_plain
  intro c hc
  have hc := h c hc
  refine ⟨?_, ?_, ?_⟩ <;> rintro rfl <;> revert hc <;> decide

theorem intText_numeral (n : Int) : Numeral (toString n).toList := by
  have hnat (m : Nat) : Numeral (toString m).toList := by
    intro c hc
    have hdigits : c ∈ Nat.toDigits 10 m := by simpa [toString, Nat.repr] using hc
    have hdigit : c.isDigit := Nat.isDigit_of_mem_toDigits (by decide) (by decide) hdigits
    exact .inl (by simp [Char.isAlphanum, hdigit])
  cases n with
  | ofNat m => exact hnat m
  | negSucc m =>
    intro c hc
    have htext : (toString (Int.negSucc m)).toList = '-' :: (toString (m + 1)).toList := by
      simp [toString, Int.repr]
    rw [htext] at hc
    obtain rfl | hc := List.mem_cons.mp hc
    · exact .inr (.inr (.inl rfl))
    · exact hnat (m + 1) c hc

theorem Joined.body {items : List (List Char)} {text : List Char} (h : Joined items text)
    (hitems : ∀ item ∈ items, Body item) : Body text := by
  have hcomma {rest : List Char} (hrest : Body rest) : Body (',' :: rest) :=
    .plain (by decide) (by decide) (by decide) hrest
  induction h with
  | empty hblank => exact hblank.body
  | last hbefore hafter =>
    exact (hbefore.body.append (hitems _ List.mem_cons_self)).append hafter.body
  | more hbefore hafter _ ih =>
    have hrest := ih fun item hitem => hitems item (List.mem_cons_of_mem _ hitem)
    exact ((hbefore.body.append (hitems _ List.mem_cons_self)).append hafter.body).append
      (hcomma hrest)

theorem Member.body {m : Member} (hname : Written m.name.toList m.nameText)
    (hblank : Blank m.before ∧ Blank m.after) (hvalue : Body m.valueText) : Body m.text := by
  have hcolon : Body (':' :: (m.after ++ m.valueText)) :=
    .plain (by decide) (by decide) (by decide) (hblank.2.body.append hvalue)
  exact .string hname.inner (hblank.1.body.append hcolon)

theorem Encodes.body {value : Json} {text : List Char} (h : Encodes value text) : Body text := by
  induction h with
  | none => exact body_of_plain (by simp)
  | true => exact body_of_plain (by simp)
  | false => exact body_of_plain (by simp)
  | int n => exact (intText_numeral n).body
  | float _ h => exact h.body
  | str h => exact body_of_literal h.inner
  | @list items text _ hjoined ih =>
    have htext : Body text := hjoined.body (by
      intro item hitem
      obtain ⟨pair, hpair, rfl⟩ := List.mem_map.mp hitem
      exact ih pair hpair)
    have hclose : Body [']'] := body_of_plain (by simp)
    exact .plain (by decide) (by decide) (by decide) (htext.append hclose)
  | @dict members text hnames hblanks _ hjoined ih =>
    have htext : Body text := hjoined.body (by
      intro item hitem
      obtain ⟨m, hm, rfl⟩ := List.mem_map.mp hitem
      exact Member.body (hnames m hm) (hblanks m hm) (ih m hm))
    exact .braced htext .nil

theorem Encodes.balanced {members : List (String × Json)} {text : List Char}
    (h : Encodes (.dict members) text) : Balanced text := by
  generalize hvalue : Json.dict members = value at h
  cases h with
  | dict hnames hblanks hvalues hjoined =>
    refine ⟨_, hjoined.body ?_, rfl⟩
    intro item hitem
    obtain ⟨m, hm, rfl⟩ := List.mem_map.mp hitem
    exact Member.body (hnames m hm) (hblanks m hm) (hvalues m hm).body
  | _ => cases hvalue

/-! ## Cleaning a reply -/

theorem dropWhile_stop {p : Char → Bool} {c : Char} (hc : p c = false) (front rest : List Char) :
    ∃ left, left <:+ front ∧ (front ++ c :: rest).dropWhile p = left ++ c :: rest := by
  induction front with
  | nil => exact ⟨[], List.suffix_refl _, by simp [hc]⟩
  | cons d front ih =>
    by_cases hd : p d = true
    · obtain ⟨left, hleft, heq⟩ := ih
      exact ⟨left, hleft.trans (List.suffix_cons d front), by simpa [hd] using heq⟩
    · exact ⟨d :: front, List.suffix_refl _, by simp [hd]⟩

theorem fence_stop {c : Char} (hspace : isSpace c = false) (fence : List Char)
    {front rest cs : List Char} (h : front ++ c :: rest = fence ++ cs) (hfence : c ∉ fence) :
    ∃ left, left <:+ front ∧ cs.dropWhile isSpace = left ++ c :: rest := by
  obtain ⟨beyond, hbeyond, hcs⟩ | ⟨left, hleft, hcs⟩ := List.append_eq_append_iff.mp h
  · cases beyond with
    | nil =>
      rw [List.nil_append] at hcs
      exact ⟨[], List.nil_suffix, by simp [← hcs, hspace]⟩
    | cons d beyond =>
      rw [List.cons_append, List.cons.injEq] at hcs
      exact absurd (by simp [hbeyond, hcs.1]) hfence
  · obtain ⟨kept, hkept, heq⟩ := dropWhile_stop hspace left rest
    exact ⟨kept, hkept.trans ⟨fence, hleft.symm⟩, by rw [hcs, heq]⟩

theorem dropFence_stop (front rest : List Char) :
    ∃ left, left <:+ front ∧ dropFence (front ++ '\x7b' :: rest) = left ++ '\x7b' :: rest := by
  unfold dropFence
  split
  · next cs h =>
    exact fence_stop (by decide) ['\x60', '\x60', '\x60', 'j', 's', 'o', 'n'] h (by decide)
  · next cs _ h =>
    exact fence_stop (by decide) ['\x60', '\x60', '\x60'] h (by decide)
  · exact ⟨front, List.suffix_refl _, rfl⟩

theorem dropClosingFence_stop (front back : List Char) :
    ∃ right, dropClosingFence (front ++ '\x7d' :: back) = front ++ '\x7d' :: right := by
  have hreverse : (front ++ '\x7d' :: back).reverse = back.reverse ++ '\x7d' :: front.reverse := by
    simp
  unfold dropClosingFence
  split
  · next rest h =>
    rw [hreverse] at h
    obtain ⟨left, -, heq⟩ :=
      fence_stop (by decide) ['\x60', '\x60', '\x60'] h (by decide)
    exact ⟨left.reverse, by simp [heq]⟩
  · exact ⟨back, rfl⟩

theorem strip_stop (front mid back : List Char) :
    ∃ left right, left <:+ front ∧
      strip (front ++ '\x7b' :: (mid ++ '\x7d' :: back)) = left ++ '\x7b' :: (mid ++ '\x7d' :: right) := by
  obtain ⟨left, hleft, heq⟩ :=
    dropWhile_stop (p := isSpace) (c := '\x7b') (by decide) front (mid ++ '\x7d' :: back)
  obtain ⟨right, -, hright⟩ := dropWhile_stop (p := isSpace) (c := '\x7d') (by decide)
    back.reverse (mid.reverse ++ '\x7b' :: left.reverse)
  refine ⟨left, right.reverse, hleft, ?_⟩
  have hreverse : (left ++ '\x7b' :: (mid ++ '\x7d' :: back)).reverse
      = back.reverse ++ '\x7d' :: (mid.reverse ++ '\x7b' :: left.reverse) := by
    simp
  rw [strip, heq, hreverse, hright]
  simp

/-- The text `extract_and_validate` scans. -/
def cleaned (text : List Char) : List Char := dropClosingFence (dropFence (strip text))

theorem cleaned_around (front mid back : List Char) :
    ∃ left right, left <:+ front ∧
      cleaned (front ++ '\x7b' :: (mid ++ '\x7d' :: back))
        = left ++ '\x7b' :: (mid ++ '\x7d' :: right) := by
  obtain ⟨left, right, hleft, hstrip⟩ := strip_stop front mid back
  obtain ⟨left', hleft', hfence⟩ := dropFence_stop left (mid ++ '\x7d' :: right)
  obtain ⟨right', hclosing⟩ := dropClosingFence_stop (left' ++ '\x7b' :: mid) right
  refine ⟨left', right', hleft'.trans hleft, ?_⟩
  rw [cleaned, hstrip, hfence]
  simpa using hclosing

theorem strip_within (text : List Char) : strip text <:+: text := by
  have hfront : text.dropWhile isSpace <:+ text := List.dropWhile_suffix _
  have hback : strip text <+: text.dropWhile isSpace := by
    have h : (text.dropWhile isSpace).reverse.dropWhile isSpace <:+ (text.dropWhile isSpace).reverse :=
      List.dropWhile_suffix _
    simpa [strip] using List.reverse_prefix.mpr h
  exact hback.isInfix.trans hfront.isInfix

theorem dropFence_suffix (text : List Char) : dropFence text <:+ text := by
  unfold dropFence
  split
  · next cs =>
    exact (List.dropWhile_suffix _).trans
      (List.suffix_append ['\x60', '\x60', '\x60', 'j', 's', 'o', 'n'] cs)
  · next cs _ =>
    exact (List.dropWhile_suffix _).trans (List.suffix_append ['\x60', '\x60', '\x60'] cs)
  · exact List.suffix_refl _

theorem dropClosingFence_front (text : List Char) : dropClosingFence text <+: text := by
  unfold dropClosingFence
  split
  · next rest h =>
    have hsuffix : rest.dropWhile isSpace <:+ text.reverse := by
      rw [h]
      exact (List.dropWhile_suffix _).trans (List.suffix_append ['\x60', '\x60', '\x60'] rest)
    simpa using List.reverse_prefix.mpr hsuffix
  · exact List.prefix_refl _

theorem cleaned_within (text : List Char) : cleaned text <:+: text :=
  ((dropClosingFence_front _).isInfix.trans (dropFence_suffix _).isInfix).trans (strip_within text)

/-! ## Extraction -/

theorem starts_with_brace (cs : List Char) (h : cs.dropWhile (· ≠ '\x7b') = [] → False) :
    ∃ rest, cs.dropWhile (· ≠ '\x7b') = '\x7b' :: rest := by
  cases hdrop : cs.dropWhile (· ≠ '\x7b') with
  | nil => exact (h hdrop).elim
  | cons c rest =>
    have hhead := List.head_dropWhile_not (· ≠ '\x7b') (fun hnil => h hnil)
    simp only [hdrop, List.head_cons, decide_eq_false_iff_not, not_not] at hhead
    exact ⟨rest, by rw [hhead]⟩

section Extraction

variable [Host]

theorem extracted {front object back : String} {schema : Json} {members : List (String × Json)}
    (hobject : Balanced object.toList) (hfront : '\x7b' ∉ front.toList)
    (hloads : Host.loads object = .value (.dict members))
    (hschema : Host.schemaErrors schema (.dict members) = .ok []) :
    extractAndValidate (front ++ object ++ back) schema = .ok (some (.dict members), none) := by
  obtain ⟨body, hbody, hchars⟩ := hobject
  have htext : (front ++ object ++ back).toList
      = front.toList ++ '\x7b' :: (body ++ '\x7d' :: back.toList) := by
    simp [hchars]
  obtain ⟨left, right, hleft, hcleaned⟩ := cleaned_around front.toList body back.toList
  have hstart : (cleaned (front ++ object ++ back).toList).dropWhile (· ≠ '\x7b')
      = '\x7b' :: (body ++ '\x7d' :: right) := by
    have hnone : ∀ c ∈ left, (decide (c ≠ '\x7b')) = true := by
      intro c hc
      have hin : c ∈ front.toList := hleft.subset hc
      have hne : c ≠ '\x7b' := fun h => hfront (h ▸ hin)
      simpa using hne
    rw [htext, hcleaned, List.dropWhile_append_of_pos hnone]
    simp
  have hfound : balanced ('\x7b' :: (body ++ '\x7d' :: right)) 0 false false
      = some ('\x7b' :: (body ++ ['\x7d'])) := by
    have h := balanced_object ⟨body, hbody, rfl⟩ right
    simpa using h
  have hback : String.ofList ('\x7b' :: (body ++ ['\x7d'])) = object := by
    rw [← hchars, String.ofList_toList]
  rw [cleaned] at hstart
  simp only [extractAndValidate, hstart, hfound, hback, hloads, hschema]
  rfl

theorem extracted_from {text : String} {schema value : Json} {error : Option String}
    (h : extractAndValidate text schema = .ok (some value, error)) :
    ∃ before object after, text = before ++ object ++ after ∧ Balanced object.toList ∧
      Host.loads object = .value value ∧ Host.schemaErrors schema value = .ok [] := by
  unfold extractAndValidate at h
  dsimp only at h
  split at h
  · cases h
  · next start hne =>
    split at h
    · cases h
    · next object hfound =>
      -- the text scanned starts with a brace, and is the end of the cleaned reply
      obtain ⟨rest, hrest⟩ := starts_with_brace (cleaned text.toList) hne
      rw [cleaned] at hrest
      rw [hrest] at hfound
      obtain ⟨hbalanced, back, hback⟩ := balanced_of_found hfound
      have hobject : object <:+: text.toList := by
        have hsuffix : object ++ back <:+ cleaned text.toList := by
          rw [← hback, ← hrest]
          exact List.dropWhile_suffix _
        exact (List.prefix_append object back).isInfix.trans
          (hsuffix.isInfix.trans (cleaned_within text.toList))
      obtain ⟨before, after, htext⟩ := hobject
      have hvalue : Host.loads (String.ofList object) = .value value ∧
          Host.schemaErrors schema value = .ok [] := by
        split at h
        · cases h
        · cases h
        · next members hloads =>
          cases herrors : Host.schemaErrors schema (.dict members) with
          | error e =>
            rw [herrors] at h
            cases h
          | ok messages =>
            rw [herrors] at h
            cases messages with
            | nil =>
              cases h
              exact ⟨hloads, herrors⟩
            | cons message messages => cases h
        · cases h
      refine ⟨String.ofList before, String.ofList object, String.ofList after, ?_, by simpa, hvalue⟩
      rw [← String.ofList_append, ← String.ofList_append, htext, String.ofList_toList]

/-- **The object of a reply is found**: whatever way an encoder writes an object
that meets the schema, it is returned from a reply that has no brace before it;
and a value returned is the parse of a balanced object that stands in the reply
and meets the schema.  `hschema` is what the validator decides. -/
theorem extraction_finds_object (Satisfies : Json → Json → Prop)
    (hschema : ∀ schema value, Satisfies schema value ↔ Host.schemaErrors schema value = .ok [])
    (schema : Json) :
    (∀ members (object : String), Encodes (.dict members) object.toList →
      Host.loads object = .value (.dict members) → Satisfies schema (.dict members) →
      ∀ front back : String, '\x7b' ∉ front.toList →
        extractAndValidate (front ++ object ++ back) schema = .ok (some (.dict members), none)) ∧
    (∀ text value error, extractAndValidate text schema = .ok (some value, error) →
      ∃ before object after, text = before ++ object ++ after ∧ Balanced object.toList ∧
        Host.loads object = .value value ∧ Satisfies schema value) := by
  constructor
  · intro members object hencodes hloads hsatisfies front back hfront
    exact extracted hencodes.balanced hfront hloads ((hschema _ _).mp hsatisfies)
  · intro text value error h
    obtain ⟨before, object, after, htext, hbalanced, hloads, herrors⟩ := extracted_from h
    exact ⟨before, object, after, htext, hbalanced, hloads, (hschema _ _).mpr herrors⟩

end Extraction

/-- A member whose string has a brace and a quotation mark. -/
def bracedMember : Member where
  name := "a"
  value := .str "\x7d\""
  nameText := ['a']
  before := []
  after := [' ']
  valueText := '"' :: (['\x7d', '\\', '"'] ++ ['"'])

/-- A library that loads one object and has no complaint about it. -/
@[reducible] def bracedHost : Host where
  repr := fun _ => ""
  decimalText := fun _ => ""
  loads := fun text =>
    if text = "\x7b\"a\": \"\x7d\\\"\"\x7d" then .value (.dict [("a", .str "\x7d\"")])
    else .decodeError "Expecting value"
  schemaErrors := fun _ _ => .ok []

attribute [local instance] bracedHost

theorem braced_member_found :
    extractAndValidate ("```json " ++ "\x7b\"a\": \"\x7d\\\"\"\x7d" ++ "\n``` done") (.dict [])
      = .ok (some (.dict [("a", .str "\x7d\"")]), none) := by
  have hname : Written ['a'] ['a'] :=
    .cons (.plain (by decide) (by decide) (by decide)) .nil
  have hstring : Written ['\x7d', '"'] ['\x7d', '\\', '"'] :=
    .cons (.plain (by decide) (by decide) (by decide))
      (.cons (.short (by decide)) .nil)
  have hmembers : ∀ m ∈ [bracedMember], m = bracedMember := fun m hm => List.mem_singleton.mp hm
  have hencodes : Encodes (.dict [("a", .str "\x7d\"")])
      ('\x7b' :: (([] ++ bracedMember.text ++ []) ++ ['\x7d'])) := by
    refine @Encodes.dict [bracedMember] _ ?_ ?_ ?_ ?_
    · intro m hm
      rw [hmembers m hm]
      exact hname
    · intro m hm
      rw [hmembers m hm]
      exact ⟨by simp [Blank, bracedMember], by simp [Blank, bracedMember]⟩
    · intro m hm
      rw [hmembers m hm]
      exact .str hstring
    · exact .last (by simp [Blank]) (by simp [Blank])
  have htext : "\x7b\"a\": \"\x7d\\\"\"\x7d".toList
      = '\x7b' :: (([] ++ bracedMember.text ++ []) ++ ['\x7d']) := by
    decide
  exact (extraction_finds_object (fun _ _ => True) (fun _ _ => ⟨fun _ => rfl, fun _ => trivial⟩)
    (.dict [])).1 _ _ (htext ▸ hencodes) rfl trivial _ _ (by decide)

end Polis.Llm
