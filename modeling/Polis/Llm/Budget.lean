/-
  Polis.Llm.Budget — the budget guard (`llm/budget.py`).

  A call is counted where it is admitted and its tokens and cost are charged
  where its reply is read.

  Main results:
    * `admission_cases` — what an admission leaves: a call more where it is
      permitted, the same counts where it is not.
    * `admission_permits` — a permitted call fits under every cap with its
      estimate.
-/
import Polis.Llm.Settings

namespace Polis.Llm

open Lib (Dict)

/-- `Admission`. -/
inductive Admission where
  | permit | degrade | halt
  deriving Repr, DecidableEq

/-- `admission.value`. -/
def Admission.value : Admission → String
  | permit => "permit"
  | degrade => "degrade"
  | halt => "halt"

/-- `_Usage`. -/
structure Usage where
  calls : Int := 0
  tokens : Int := 0
  usd : Rat := 0
  deriving Repr, DecidableEq

/-- `BudgetGuard`. -/
structure BudgetGuard where
  tick : Int := -1
  usage : Dict String Usage := ∅
  cumulativeCalls : Int := 0
  cumulativeUsd : Rat := 0
  bindingConstraint : Option String := none

namespace BudgetGuard

section Operations

variable (settings : LLMBudgetSettings)

/-- `begin_tick`. -/
def beginTick (tick : Int) (g : BudgetGuard) : BudgetGuard :=
  if tick ≠ g.tick then
    { g with
      tick := tick
      usage := settings.lines.mapValues fun _ _ => {}
      bindingConstraint := none }
  else g

/-- The run has no call left. -/
def callsHalted (g : BudgetGuard) : Bool :=
  settings.maxCallsPerRun.any fun most => g.cumulativeCalls + 1 > most

/-- The cap an estimate breaks, if any. -/
def reason (cap : LLMBudgetLine) (usage : Usage) (line : String) (estIn estOut : Int)
    (estUsd : Rat) (g : BudgetGuard) : Option String :=
  if usage.calls + 1 > cap.callsPerTick then some (line ++ ".calls")
  else if usage.tokens + estIn + estOut > cap.tokensPerTick then some (line ++ ".tokens")
  else if g.cumulativeUsd + estUsd > settings.usdPerRun then some "run.usd"
  else none

/-- The guard that admitted one more call. -/
def count (line : String) (usage : Usage) (g : BudgetGuard) : BudgetGuard :=
  { g with
    usage := g.usage.put line { usage with calls := usage.calls + 1 }
    cumulativeCalls := g.cumulativeCalls + 1 }

/-- `admit`. -/
def admission (line : String) (estIn estOut : Int) (estUsd : Rat) (g : BudgetGuard) :
    Except LlmError Admission × BudgetGuard :=
  match settings.lines.get? line, g.usage.get? line with
  | none, _ => (.error (.key line), g)
  | some _, none => (.error (.key line), g)
  | some cap, some usage =>
    if g.callsHalted settings then
      (.ok .halt, { g with bindingConstraint := some "run.calls_halt" })
    else if g.cumulativeUsd + estUsd > settings.usdPerRun * settings.usdHaltMultiple then
      (.ok .halt, { g with bindingConstraint := some "run.usd_halt" })
    else
      match g.reason settings cap usage line estIn estOut estUsd with
      | none => (.ok .permit, g.count line usage)
      | some reason =>
        (.ok (if settings.onExhaustion = .halt then .halt else .degrade),
          { g with bindingConstraint := some reason })

/-- `charge`. -/
def charge (line : String) (tokensIn tokensOut : Int) (usd : Rat) (g : BudgetGuard) :
    Except LlmError Unit × BudgetGuard :=
  match g.usage.get? line with
  | none => (.error (.key line), g)
  | some usage =>
    (.ok (), { g with
      usage := g.usage.put line
        { usage with tokens := usage.tokens + (tokensIn + tokensOut), usd := usage.usd + usd }
      cumulativeUsd := g.cumulativeUsd + usd })

end Operations

variable {settings : LLMBudgetSettings}

@[simp] theorem beginTick_tick (tick : Int) (g : BudgetGuard) :
    (g.beginTick settings tick).tick = tick := by
  unfold beginTick
  by_cases h : tick = g.tick
  · simp [h]
  · simp [h]

theorem beginTick_of_tick {tick : Int} {g : BudgetGuard} (h : g.tick = tick) :
    g.beginTick settings tick = g := by
  unfold beginTick
  simp [h]

@[simp] theorem beginTick_cumulativeCalls (tick : Int) (g : BudgetGuard) :
    (g.beginTick settings tick).cumulativeCalls = g.cumulativeCalls := by
  unfold beginTick
  split <;> rfl

@[simp] theorem beginTick_cumulativeUsd (tick : Int) (g : BudgetGuard) :
    (g.beginTick settings tick).cumulativeUsd = g.cumulativeUsd := by
  unfold beginTick
  split <;> rfl

/-- The usage of a line: nothing where the line has none. -/
def lineUsage (g : BudgetGuard) (line : String) : Usage := g.usage.getD line {}

/-- Two guards that charge and count alike. -/
def Same (g g' : BudgetGuard) : Prop :=
  g'.tick = g.tick ∧ g'.usage = g.usage ∧ g'.cumulativeCalls = g.cumulativeCalls ∧
    g'.cumulativeUsd = g.cumulativeUsd

variable (settings) in
theorem admission_cases (line : String) (estIn estOut : Int) (estUsd : Rat) (g : BudgetGuard) :
    (∃ usage, g.usage.get? line = some usage ∧
      g.admission settings line estIn estOut estUsd = (.ok .permit, g.count line usage)) ∨
    ((g.admission settings line estIn estOut estUsd).1 ≠ .ok .permit ∧
      g.Same (g.admission settings line estIn estOut estUsd).2) := by
  unfold admission
  split
  · exact .inr ⟨by simp, rfl, rfl, rfl, rfl⟩
  · exact .inr ⟨by simp, rfl, rfl, rfl, rfl⟩
  · next cap usage hcap husage =>
    split
    · exact .inr ⟨by simp, rfl, rfl, rfl, rfl⟩
    · split
      · exact .inr ⟨by simp, rfl, rfl, rfl, rfl⟩
      · split
        · exact .inl ⟨usage, husage, rfl⟩
        · refine .inr ⟨?_, rfl, rfl, rfl, rfl⟩
          -- a refusal is a halt or a degrade, never a permit
          split <;> simp

theorem admission_permits {line : String} {estIn estOut : Int} {estUsd : Rat} {g : BudgetGuard}
    (h : (g.admission settings line estIn estOut estUsd).1 = .ok .permit) :
    ∃ cap usage, settings.lines.get? line = some cap ∧ g.usage.get? line = some usage ∧
      usage.calls + 1 ≤ cap.callsPerTick ∧
      usage.tokens + estIn + estOut ≤ cap.tokensPerTick ∧
      g.cumulativeUsd + estUsd ≤ settings.usdPerRun ∧
      ∀ most, settings.maxCallsPerRun = some most → g.cumulativeCalls + 1 ≤ most := by
  unfold admission at h
  split at h
  · cases h
  · cases h
  · next cap usage hcap husage =>
    split at h
    · cases h
    · next hcalls =>
      split at h
      · cases h
      · split at h
        · next hreason =>
          refine ⟨cap, usage, hcap, husage, ?_⟩
          unfold reason at hreason
          split at hreason
          · cases hreason
          · split at hreason
            · cases hreason
            · split at hreason
              · cases hreason
              · next h₁ h₂ h₃ =>
                refine ⟨by omega, by omega, not_lt.mp h₃, fun most hmost => ?_⟩
                simp only [callsHalted, hmost, Option.any_some, decide_eq_true_eq] at hcalls
                omega
        · simp only [Except.ok.injEq] at h
          split at h
          · cases h
          · cases h

theorem charge_cases (line : String) (tokensIn tokensOut : Int) (usd : Rat) (g : BudgetGuard) :
    (∃ usage, g.usage.get? line = some usage ∧
      g.charge line tokensIn tokensOut usd = (.ok (), { g with
        usage := g.usage.put line
          { usage with tokens := usage.tokens + (tokensIn + tokensOut), usd := usage.usd + usd }
        cumulativeUsd := g.cumulativeUsd + usd })) ∨
    (g.charge line tokensIn tokensOut usd = (.error (.key line), g)) := by
  unfold charge
  cases husage : g.usage.get? line with
  | none => exact .inr rfl
  | some usage => exact .inl ⟨usage, rfl, rfl⟩

@[simp] theorem admission_tick (line : String) (estIn estOut : Int) (estUsd : Rat)
    (g : BudgetGuard) : (g.admission settings line estIn estOut estUsd).2.tick = g.tick := by
  rcases admission_cases settings line estIn estOut estUsd g with ⟨usage, _, h⟩ | ⟨_, h⟩
  · rw [h]
    rfl
  · exact h.1

@[simp] theorem charge_tick (line : String) (tokensIn tokensOut : Int) (usd : Rat)
    (g : BudgetGuard) : (g.charge line tokensIn tokensOut usd).2.tick = g.tick := by
  rcases charge_cases line tokensIn tokensOut usd g with ⟨usage, _, h⟩ | h
  · rw [h]
  · rw [h]

end BudgetGuard

end Polis.Llm
