/-
  Polis.Society.PolicyRegistry — the closed registry of legislable parameters
  (`society/policy.py`).

  Main results:
    * `governor_only` — the policy rate is the only parameter the governor
      of the central bank decides alone.
-/
import Polis.Base

namespace Polis.Society

/-- The `py_type` of a row. -/
inductive PyType where
  | int | bool | cents | bp | enum | brackets | optionalBp | optionalCents
  deriving Repr, DecidableEq

/-- `Authority`. -/
inductive Authority where
  | councilMajority | councilAndPresident | cbGovernorOnly
  deriving Repr, DecidableEq

/-- The bounds `lo` and `hi` of a row: a number, a marker that is looked up in
the fiscal snapshot, or the choices of an enumeration. -/
inductive Bound where
  | none
  | int (n : Int)
  | marker (name : String)
  | choices (names : List String)
  deriving Repr, DecidableEq

/-- `PolicySpec`. -/
structure PolicySpec where
  parameter : String
  pyType : PyType
  lo : Bound
  hi : Bound
  authority : Authority
  lag : String
  enabledWhen : Option String := none
  deriving Repr, DecidableEq

open Bound in
/-- `POLICY_REGISTRY`. -/
def POLICY_REGISTRY : List PolicySpec :=
  [⟨"tax.income.brackets", .brackets, int 0, int 7500, .councilMajority, "1mo", .none⟩,
   ⟨"tax.corporate_bp", .bp, int 0, int 6000, .councilMajority, "1q", .none⟩,
   ⟨"tax.capital_gains_bp", .bp, int 0, int 6000, .councilMajority, "1mo", .none⟩,
   ⟨"tax.inheritance_bp", .bp, int 0, int 9000, .councilAndPresident, "1mo", .none⟩,
   ⟨"tax.vat_bp", .bp, int 0, int 3500, .councilMajority, "1w", .none⟩,
   ⟨"money.policy_rate_bp", .bp, int (-200), int 2500, .cbGovernorOnly, "1w", .none⟩,
   ⟨"welfare.unemployment_benefit_cents", .cents, int 0, marker "2x_median_wage",
    .councilMajority, "1mo", .none⟩,
   ⟨"welfare.benefit_duration_ticks", .int, int 0, marker "2_sim_years", .councilMajority,
    "1mo", .none⟩,
   ⟨"welfare.pension_cents", .cents, int 0, marker "2x_median_wage", .councilMajority, "1q",
    .none⟩,
   ⟨"welfare.child_benefit_cents", .cents, int 0, marker "median_wage", .councilMajority,
    "1mo", .none⟩,
   ⟨"education.spend_cents_per_student", .cents, int 0, none, .councilMajority, "1q", .none⟩,
   ⟨"education.compulsory_until_age", .int, int 10, int 22, .councilMajority, "1q", .none⟩,
   ⟨"police.budget_cents", .cents, int 0, none, .councilMajority, "1mo", .none⟩,
   ⟨"courts.budget_cents", .cents, int 0, none, .councilMajority, "1mo", .none⟩,
   ⟨"courts.loser_pays", .bool, none, none, .councilMajority, "1mo", .none⟩,
   ⟨"prison.capacity", .int, int 0, none, .councilMajority, "1q", .none⟩,
   ⟨"sentencing.multiplier_bp", .bp, int 2500, int 40000, .councilAndPresident,
    "next_judgment", .none⟩,
   ⟨"labour.minimum_wage_cents", .cents, int 0, marker "3x_median_wage", .councilMajority,
    "1mo", .none⟩,
   ⟨"labour.max_hours_per_sim_week", .int, int 20, int 80, .councilMajority, "1mo", .none⟩,
   ⟨"regulation.finance.margin_allowed", .bool, none, none, .councilMajority, "1w", .none⟩,
   ⟨"regulation.finance.short_selling_allowed", .bool, none, none, .councilMajority, "1w",
    .none⟩,
   ⟨"regulation.finance.insider_trading_enforced", .bool, none, none, .councilMajority,
    "immediate", .none⟩,
   ⟨"regulation.labour.at_will_dismissal", .bool, none, none, .councilMajority, "1mo", .none⟩,
   ⟨"regulation.media.disclosure_required", .bool, none, none, .councilMajority, "1w", .none⟩,
   ⟨"regulation.housing.rent_cap_bp", .optionalBp, int 0, int 10000, .councilMajority, "1q",
    .none⟩,
   ⟨"migration.quota_per_sim_year", .int, int 0, marker "20pct_population", .councilMajority,
    "1q", .none⟩,
   ⟨"polity.campaign_cap_cents", .optionalCents, int 0, none, .councilAndPresident,
    "next_election", .none⟩,
   ⟨"polity.felon_franchise", .bool, none, none, .councilMajority, "next_election", .none⟩,
   ⟨"government.debt_ceiling_cents", .cents, int 0, none, .councilAndPresident, "immediate",
    .none⟩,
   ⟨"society.feed_algorithm", .enum,
    choices ["chronological", "engagement", "social", "diversity"], none,
    .councilAndPresident, "1w", some "polity.can_regulate_feed"⟩,
   ⟨"government.public_notices_budget_cents", .cents, int 0, none, .councilMajority, "1mo",
    .none⟩]

/-- `registry_for`: the rows whose flag is set. -/
def registryFor (settingFlag : String → Bool) : List PolicySpec :=
  POLICY_REGISTRY.filter fun row => row.enabledWhen.all settingFlag

/-- `registry.get(parameter)`; the parameters of the rows are distinct. -/
def specOf (registry : List PolicySpec) (parameter : String) : Option PolicySpec :=
  registry.find? fun row => row.parameter = parameter

theorem governor_only :
    ∀ row ∈ POLICY_REGISTRY, row.authority = .cbGovernorOnly →
      row.parameter = "money.policy_rate_bp" := by
  decide +kernel

theorem specOf_registryFor {flag : String → Bool} {parameter : String} {row : PolicySpec}
    (h : specOf (registryFor flag) parameter = some row) :
    row ∈ POLICY_REGISTRY ∧ row.parameter = parameter := by
  unfold specOf registryFor at h
  refine ⟨(List.mem_filter.mp (List.mem_of_find?_eq_some h)).1, ?_⟩
  have hp := List.find?_some h
  exact of_decide_eq_true hp

theorem parameters_distinct : (POLICY_REGISTRY.map PolicySpec.parameter).Nodup := by
  decide +kernel

end Polis.Society
