/-
  Polis.Llm.Structured — the JSON object a reply carries
  (`llm/structured.py`).

  Main results:
    * `extractAndValidate_shape` — a reply yields an object or an error
      message, never both and never neither.
-/
import Polis.Llm.Settings

namespace Polis.Llm

variable [Host]

/-- The characters `str.isspace` holds of. -/
def isSpace (c : Char) : Bool :=
  let n := c.toNat
  (9 ≤ n && n ≤ 13) || (28 ≤ n && n ≤ 32) || n = 0x85 || n = 0xa0 || n = 0x1680
    || (0x2000 ≤ n && n ≤ 0x200a) || n = 0x2028 || n = 0x2029 || n = 0x202f || n = 0x205f
    || n = 0x3000

/-- `str.strip`. -/
def strip (cs : List Char) : List Char :=
  ((cs.dropWhile isSpace).reverse.dropWhile isSpace).reverse

/-- The text without the fence that opens it: three backticks, perhaps the
word `json`, and blanks. -/
def dropFence : List Char → List Char
  | '\x60' :: '\x60' :: '\x60' :: 'j' :: 's' :: 'o' :: 'n' :: cs => cs.dropWhile isSpace
  | '\x60' :: '\x60' :: '\x60' :: cs => cs.dropWhile isSpace
  | cs => cs

/-- The text without the fence that closes it and the blanks before. -/
def dropClosingFence (cs : List Char) : List Char :=
  match cs.reverse with
  | '\x60' :: '\x60' :: '\x60' :: rest => (rest.dropWhile isSpace).reverse
  | _ => cs

/-- The text up to the brace that closes the object it opens with. -/
def balanced : List Char → Nat → Bool → Bool → Option (List Char)
  | [], _, _, _ => none
  | c :: cs, depth, inString, escaped =>
    (if escaped then balanced cs depth inString false
    else if c = '\\' && inString then balanced cs depth inString true
    else if c = '"' then balanced cs depth (!inString) false
    else if inString then balanced cs depth inString false
    else if c = '\x7b' then balanced cs (depth + 1) inString false
    else if c = '\x7d' then
      if depth - 1 = 0 then some [] else balanced cs (depth - 1) inString false
    else balanced cs depth inString false).map (c :: ·)

/-- `extract_and_validate`. -/
def extractAndValidate (text : String) (schema : Json) :
    Except LlmError (Option Json × Option String) :=
  let cleaned := dropClosingFence (dropFence (strip text.toList))
  match cleaned.dropWhile (· ≠ '\x7b') with
  | [] => .ok (none, some "no JSON object found")
  | start =>
    match balanced start 0 false false with
    | none => .ok (none, some "unterminated JSON object")
    | some object =>
      match Host.loads (String.ofList object) with
      | .decodeError message => .ok (none, some message)
      | .raises e => .error e
      | .value (.dict members) => do
        match ← Host.schemaErrors schema (.dict members) with
        | [] => .ok (some (.dict members), none)
        | message :: _ => .ok (none, some message)
      | .value _ => .ok (none, some "response must be an object")

theorem extractAndValidate_shape {text : String} {schema : Json}
    {parsed : Option Json} {error : Option String}
    (h : extractAndValidate text schema = .ok (parsed, error)) :
    parsed.isSome = !error.isSome := by
  unfold extractAndValidate at h
  dsimp only at h
  split at h
  · cases h
    rfl
  · split at h
    · cases h
      rfl
    · split at h
      · cases h
        rfl
      · cases h
      · cases herr : Host.schemaErrors schema (.dict _) with
        | error e =>
          rw [herr] at h
          cases h
        | ok messages =>
          rw [herr] at h
          cases messages with
          | nil =>
            cases h
            rfl
          | cons message messages =>
            cases h
            rfl
      · cases h
        rfl

end Polis.Llm
