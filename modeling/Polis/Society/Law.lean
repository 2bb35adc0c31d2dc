/-
  Polis.Society.Law — cases, statutory ranges and judgments
  (`society/law.py`).

  A judge's reply has passed its JSON schema: a verdict of the enumeration and
  five integers that are not negative.

  Main results:
    * `benchVerdict_mem` — a conviction by the bench lies in its range.
-/
import Polis.Base
import Polis.Kernel.Rounding

namespace Polis.Society

open Kernel (pyRound)

/-! ## Crimes -/

/-- `CrimeType`. -/
inductive CrimeType where
  | theft | assault | fraud | insiderTrading | embezzlement | contractBreach | perjury
  deriving Repr, DecidableEq

/-- `Crime`, with the fields the court reads. -/
structure Crime where
  crimeId : String
  type : CrimeType
  perpetratorId : String
  victimId : Option String
  amountCents : Option Int
  deriving Repr, DecidableEq

/-- `CaseType`. -/
inductive CaseType where
  | criminal | civil
  deriving Repr, DecidableEq

inductive CaseStatus where
  | open | settled | resolved
  deriving Repr, DecidableEq

/-! ## Verdicts and judgments -/

/-- `Verdict`. -/
inductive Verdict where
  | guilty | notGuilty | liable | notLiable | dismissed
  deriving Repr, DecidableEq

namespace Verdict

def text : Verdict → String
  | guilty => "guilty"
  | notGuilty => "not_guilty"
  | liable => "liable"
  | notLiable => "not_liable"
  | dismissed => "dismissed"

/-- The verdicts that carry a penalty. -/
def punitive (v : Verdict) : Bool := v = guilty || v = liable

/-- The verdicts a case type allows. -/
def allowed : CaseType → List Verdict
  | .criminal => [guilty, notGuilty, dismissed]
  | .civil => [liable, notLiable, dismissed]

end Verdict

/-- `Judgment`; `origin` is `"llm"` or `"bench"`. -/
structure Judgment where
  verdict : Verdict
  findings : List String
  fineCents : Int
  sentenceTicks : Int
  damagesCents : Int
  restitutionCents : Int
  disqualificationTicks : Int
  clamped : List String
  origin : String
  llmCallId : Option String
  deriving Repr, DecidableEq

/-! ## Cases and ranges -/

/-- `CourtCase`.  A claim is not negative: its parameter is a `Cents`. -/
structure CourtCase where
  caseId : String
  type : CaseType
  plaintiffId : Option String
  defendantId : String
  crimeId : Option String
  causeOfAction : String
  claimCents : Int
  filedTick : Int
  evidenceEventSeqs : List Int := []
  admittedEventSeqs : List Int := []
  plaintiffCounselId : Option String := none
  defenceCounselId : Option String := none
  witnessIds : List String := []
  evidenceStrength : ℚ := 0
  judgeId : Option String := none
  resolvedTick : Option Int := none
  judgment : Option Judgment := none
  status : CaseStatus := .open
  claim_nonneg : 0 ≤ claimCents := by decide

/-- `Range`, a range of fines and one of sentences. -/
structure Range where
  fineLo : Int
  fineHi : Int
  sentenceLoTicks : Int
  sentenceHiTicks : Int
  fine_le : fineLo ≤ fineHi := by decide
  sentence_le : sentenceLoTicks ≤ sentenceHiTicks := by decide
  deriving Repr, DecidableEq

/-- The sentences of `STATUTORY`, in days. -/
def sentenceDays : CrimeType → Nat × Nat
  | .theft => (0, 90)
  | .assault => (30, 365)
  | .fraud => (90, 1080)
  | .insiderTrading => (0, 720)
  | .embezzlement => (180, 1440)
  | .contractBreach => (0, 0)
  | .perjury => (30, 540)

/-- The fines of `statutory_range`, before the multiplier. -/
def baseFines (type : CrimeType) (amount : Nat) : Nat × Nat :=
  match type with
  | .theft => (amount, amount * 3)
  | .contractBreach => (amount, amount * 2)
  | .fraud | .embezzlement => (amount * 2, amount * 5)
  | .insiderTrading => (amount * 3, amount * 10)
  | .assault => (5000, 50000)
  | .perjury => (10000, 100000)

theorem baseFines_le (type : CrimeType) (amount : Nat) :
    (baseFines type amount).1 ≤ (baseFines type amount).2 := by
  cases type <;> simp only [baseFines] <;> omega

theorem sentenceDays_le (type : CrimeType) : (sentenceDays type).1 ≤ (sentenceDays type).2 := by
  cases type <;> decide

theorem scaled_le {a b : Nat} (h : a ≤ b) (multiplierBp : Nat) :
    ((a * multiplierBp / 10000 : Nat) : Int) ≤ ((b * multiplierBp / 10000 : Nat) : Int) := by
  have hle : a * multiplierBp / 10000 ≤ b * multiplierBp / 10000 :=
    Nat.div_le_div_right (Nat.mul_le_mul_right _ h)
  exact_mod_cast hle

/-- `statutory_range`. -/
def statutoryRange (type : CrimeType) (amountCents : Option Int) (multiplierBp : Nat)
    (ticksPerSimDay : Int) : Range :=
  let amount := (amountCents.getD 0).toNat
  let perDay := (max 1 ticksPerSimDay).toNat
  { fineLo := ((baseFines type amount).1 * multiplierBp / 10000 : Nat)
    fineHi := ((baseFines type amount).2 * multiplierBp / 10000 : Nat)
    sentenceLoTicks := ((sentenceDays type).1 * perDay * multiplierBp / 10000 : Nat)
    sentenceHiTicks := ((sentenceDays type).2 * perDay * multiplierBp / 10000 : Nat)
    fine_le := scaled_le (baseFines_le type amount) multiplierBp
    sentence_le := scaled_le (Nat.mul_le_mul_right _ (sentenceDays_le type)) multiplierBp }

/-! ## The bench -/

/-- The verdict of the bench and its penalty in a range. -/
def benchVerdict (evidenceStrength threshold : ℚ) (lo hi : Int) : Bool × Int :=
  if evidenceStrength < threshold then (false, 0)
  else if 1 ≤ threshold then (true, lo)
  else
    let fraction := min 1 (max 0 ((evidenceStrength - threshold) / (1 - threshold)))
    (true, pyRound (lo + (hi - lo) * fraction))

theorem benchVerdict_acquits {e t : ℚ} {lo hi : Int} (h : (benchVerdict e t lo hi).1 = false) :
    (benchVerdict e t lo hi).2 = 0 := by
  unfold benchVerdict at h ⊢
  by_cases h₁ : e < t
  · rw [if_pos h₁]
  · rw [if_neg h₁] at h
    split at h <;> cases h

theorem benchVerdict_fst (e t : ℚ) (lo hi : Int) :
    (benchVerdict e t lo hi).1 = !decide (e < t) := by
  unfold benchVerdict
  by_cases h₁ : e < t
  · simp [h₁]
  · rw [if_neg h₁]
    split <;> simp [h₁]

theorem benchVerdict_mem {e t : ℚ} {lo hi : Int} (hle : lo ≤ hi)
    (h : (benchVerdict e t lo hi).1 = true) :
    lo ≤ (benchVerdict e t lo hi).2 ∧ (benchVerdict e t lo hi).2 ≤ hi := by
  unfold benchVerdict at h ⊢
  by_cases h₁ : e < t
  · rw [if_pos h₁] at h
    cases h
  · by_cases h₂ : 1 ≤ t
    · rw [if_neg h₁, if_pos h₂]
      exact ⟨le_refl lo, hle⟩
    · rw [if_neg h₁, if_neg h₂]
      set f : ℚ := min 1 (max 0 ((e - t) / (1 - t))) with hf
      have hf₀ : 0 ≤ f := le_min zero_le_one (le_max_left _ _)
      have hf₁ : f ≤ 1 := min_le_left _ _
      have hwidth : (0 : ℚ) ≤ (hi : ℚ) - lo := by
        have : (lo : ℚ) ≤ hi := by exact_mod_cast hle
        linarith
      have hlow : 0 ≤ ((hi : ℚ) - lo) * f := mul_nonneg hwidth hf₀
      have hhigh : ((hi : ℚ) - lo) * f ≤ (hi : ℚ) - lo := mul_le_of_le_one_right hwidth hf₁
      exact Kernel.pyRound_mem (by linarith) (by linarith)

/-- `bench_rule`. -/
def benchRule (evidenceStrength threshold : ℚ) (caseType : CaseType) (statutory : Range) :
    Judgment :=
  let convicted := (benchVerdict evidenceStrength threshold statutory.fineLo statutory.fineHi).1
  { verdict :=
      match caseType with
      | .criminal => if convicted then .guilty else .notGuilty
      | .civil => if convicted then .liable else .notLiable
    findings := []
    fineCents := (benchVerdict evidenceStrength threshold statutory.fineLo statutory.fineHi).2
    sentenceTicks :=
      (benchVerdict evidenceStrength threshold statutory.sentenceLoTicks
        statutory.sentenceHiTicks).2
    damagesCents := 0
    restitutionCents := 0
    disqualificationTicks := 0
    clamped := []
    origin := "bench"
    llmCallId := none }

/-! ## Replies of the model -/

/-- A reply that satisfies `judge.schema.json`. -/
structure JudgeReply where
  verdict : Verdict
  findings : List String
  fineCents : Nat
  sentenceTicks : Nat
  damagesCents : Nat
  restitutionCents : Nat
  disqualificationTicks : Nat
  deriving Repr, DecidableEq

/-- How regular expressions read characters: the value of a decimal digit,
and membership in `\\w`. -/
class CharClasses where
  decimal : Char → Option Nat
  isWord : Char → Bool

variable [CharClasses]

/-- The number spelled by the digits a text starts with, and the rest. -/
def leadingNumber : List Char → Option (Nat × List Char)
  | [] => none
  | c :: cs =>
    match CharClasses.decimal c with
    | none => none
    | some d => some (go d cs)
where
  go (n : Nat) : List Char → Nat × List Char
    | [] => (n, [])
    | c :: cs =>
      match CharClasses.decimal c with
      | some d => go (10 * n + d) cs
      | none => (n, c :: cs)

/-- `\\b` behind a digit: no word character follows. -/
def atBoundary : List Char → Bool
  | [] => true
  | c :: _ => !CharClasses.isWord c

/-- `re.findall(r"#(\\d+)\\b", text)` as numbers; a digit is a word character,
so a shorter run of digits is never at a boundary. -/
def citedSeqs : List Char → List Nat
  | [] => []
  | c :: cs =>
    let rest := citedSeqs cs
    if c = '#' then
      match leadingNumber cs with
      | some (n, after) => if atBoundary after then n :: rest else rest
      | none => rest
    else rest

/-- The sequence numbers a finding cites. -/
def cited (finding : String) : List Nat := citedSeqs finding.toList

/-- Every citation of a finding is admitted. -/
def citesAdmitted (admitted : List Int) (finding : String) : Bool :=
  (cited finding).all fun n => (n : Int) ∈ admitted

/-- `bounded`: a penalty moved into its range, noted when it was outside. -/
def bounded (name : String) (raw : Nat) (lo hi : Int) : Int × List String :=
  let value := min hi (max lo raw)
  (value, if value = raw then [] else [name])

/-- The restitution a crime allows. -/
def restitutionLimit (crime : Option Crime) : Int :=
  (crime.map fun c => max 0 (c.amountCents.getD 0)).getD 0

/-- A penalty limited from above, noted when it was over the limit. -/
def limited (name : String) (raw : Nat) (limit : Int) : Int × List String :=
  let value := min limit raw
  (value, if value = raw then [] else [name])

/-- `_clamp_judgment`. -/
def clampJudgment (case : CourtCase) (statutory : Range) (crime : Option Crime)
    (parsed : JudgeReply) (callId : String) : Option Judgment :=
  if parsed.verdict ∈ Verdict.allowed case.type then
    let fine := if parsed.verdict.punitive then
        bounded "fine_cents" parsed.fineCents statutory.fineLo statutory.fineHi else (0, [])
    let sentence := if parsed.verdict = .guilty then
        bounded "sentence_ticks" parsed.sentenceTicks statutory.sentenceLoTicks
          statutory.sentenceHiTicks else (0, [])
    let damages := limited "damages_cents" parsed.damagesCents case.claimCents
    let restitution :=
      limited "restitution_cents" parsed.restitutionCents (restitutionLimit crime)
    let dropped := parsed.findings.filter fun f => !citesAdmitted case.admittedEventSeqs f
    some
      { verdict := parsed.verdict
        findings := parsed.findings.filter (citesAdmitted case.admittedEventSeqs)
        fineCents := fine.1
        sentenceTicks := sentence.1
        damagesCents := damages.1
        restitutionCents := restitution.1
        disqualificationTicks := parsed.disqualificationTicks
        clamped := fine.2 ++ sentence.2 ++ damages.2 ++ restitution.2
          ++ dropped.map fun _ => "finding_non_admitted"
        origin := "llm"
        llmCallId := some callId }
  else none

/-- What one call of the router returns. -/
structure RouterResult where
  parsedOk : Bool
  parsed : Option JudgeReply
  callId : String
  deriving Repr, DecidableEq

/-- The judgment one call of the router leads to. -/
def attemptJudgment (case : CourtCase) (statutory : Range) (crime : Option Crime)
    (result : RouterResult) : Option Judgment :=
  if result.parsedOk then
    result.parsed.bind fun parsed => clampJudgment case statutory crime parsed result.callId
  else none

/-- `_decide`: three attempts of the router, where there is one, and then the
bench. -/
def decideCase (threshold : ℚ) (router : Option (Nat → RouterResult)) (case : CourtCase)
    (statutory : Range) (crime : Option Crime) : Judgment :=
  let attempts := match router with
    | none => []
    | some call => [call 0, call 1, call 2]
  (attempts.findSome? (attemptJudgment case statutory crime)).getD
    (benchRule case.evidenceStrength threshold case.type statutory)

end Polis.Society
