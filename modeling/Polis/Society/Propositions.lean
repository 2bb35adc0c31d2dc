/-
  Polis.Society.Propositions — the registry of propositions
  (`society/beliefs.py`).

  A proposition is one of a closed list or an instance of a template; either
  way its class decides its bounds and its defaults.

  Main results:
    * `propositionSpec_default` — a default lies within its bounds.
-/
import Polis.Base
import Mathlib.Data.Rat.Defs
import Mathlib.Tactic.NormNum

namespace Polis.Society

/-- `PropClass`. -/
inductive PropClass where
  | policy | factual | trust
  deriving Repr, DecidableEq

/-- `PropositionSpec`, but for its name. -/
structure PropositionSpec where
  cls : PropClass
  lo : ℚ
  hi : ℚ
  defaultValue : ℚ
  defaultConfidence : ℚ
  deriving DecidableEq

/-- The bounds and the defaults of a class. -/
def PropClass.spec : PropClass → PropositionSpec
  | .policy => ⟨.policy, -1, 1, 0, 35 / 100⟩
  | .factual => ⟨.factual, 0, 1, 1 / 2, 25 / 100⟩
  | .trust => ⟨.trust, 0, 1, 1 / 2, 35 / 100⟩

def POLICY_PROPOSITIONS : List String :=
  ["policy.tax.progressivity", "policy.tax.rate_should_rise", "policy.tax.corporate_should_rise",
   "policy.tax.inheritance_should_rise", "policy.welfare.generosity",
   "policy.welfare.conditionality", "policy.money.should_tighten", "policy.money.independence",
   "policy.education.spend", "policy.education.compulsory_longer", "policy.police.budget",
   "policy.sentencing.severity", "policy.labour.min_wage_should_rise", "policy.labour.protection",
   "policy.regulation.finance", "policy.regulation.media", "policy.housing.rent_control",
   "policy.migration.openness", "policy.market.free_vs_managed", "policy.debt.austerity"]

def FACTUAL_CLOSED : List String :=
  ["fact.economy.recession_now", "fact.economy.prices_rising", "fact.economy.jobs_scarce",
   "fact.crime.rising"]

def TRUST_CLOSED : List String :=
  ["trust.generalised", "trust.institution.court", "trust.institution.police",
   "trust.institution.government", "trust.institution.bank", "trust.institution.market",
   "trust.institution.press"]

/-- A template: the text before and after its token. -/
abbrev Template := String × String

def FACTUAL_TEMPLATES : List Template :=
  [("fact.firm.", ".solvent"), ("fact.firm.", ".fraudulent"), ("fact.agent.", ".corrupt"),
   ("fact.agent.", ".competent"), ("fact.market.", ".overvalued"), ("fact.election.", ".rigged"),
   ("fact.outlet.", ".fabricates"), ("fact.policy.", ".caused_harm"), ("fact.party.", ".corrupt")]

def TRUST_TEMPLATES : List Template := [("trust.outlet.", ""), ("trust.party.", ""),
  ("trust.agent.", "")]

/-- `_match_template`: the entity of an instance, which has no dot. -/
def matchTemplate (raw : String) (template : Template) : Option String :=
  let before := template.1.toList
  let after := template.2.toList
  let cs := raw.toList
  if before.isPrefixOf cs && after.isSuffixOf cs then
    let entity := (cs.drop before.length).take (cs.length - after.length - before.length)
    if entity = [] ∨ '.' ∈ entity then none else some (String.ofList entity)
  else none

/-- The class of a proposition of the closed lists. -/
def closedClass (proposition : String) : Option PropClass :=
  if proposition ∈ POLICY_PROPOSITIONS then some .policy
  else if proposition ∈ FACTUAL_CLOSED then some .factual
  else if proposition ∈ TRUST_CLOSED then some .trust
  else none

/-- The class of an instance of a template. -/
def templateClass (proposition : String) : Option PropClass :=
  if FACTUAL_TEMPLATES.any fun t => (matchTemplate proposition t).isSome then some .factual
  else if TRUST_TEMPLATES.any fun t => (matchTemplate proposition t).isSome then some .trust
  else none

/-- `proposition_spec`. -/
def propositionSpec (proposition : String) : Option PropositionSpec :=
  ((closedClass proposition).orElse fun _ => templateClass proposition).map PropClass.spec

theorem propositionSpec_default {proposition : String} {spec : PropositionSpec}
    (h : propositionSpec proposition = some spec) :
    spec.lo ≤ spec.defaultValue ∧ spec.defaultValue ≤ spec.hi ∧
      0 ≤ spec.defaultConfidence ∧ spec.defaultConfidence ≤ 1 := by
  unfold propositionSpec at h
  obtain ⟨cls, -, rfl⟩ := Option.map_eq_some_iff.mp h
  cases cls with
  | policy => norm_num [PropClass.spec]
  | factual => norm_num [PropClass.spec]
  | trust => norm_num [PropClass.spec]

end Polis.Society
