/-
  Polis.Economy.Labour.Tax — the progressive income tax
  (`economy/labour.py`).

  A bracket table is read as the bands between its sorted floors, each taxed
  at its own rate and rounded down; the sum is rounded down once more when it
  is brought back to one pay period.

  Main results:
    * `bandTaxes_grows` — a larger income pays more tax, by no more than what
      the income grew above the lowest floor.
    * `income_tax_well_behaved` — the tax is never negative and never more
      than the pay, and neither it nor the net pay falls as the pay rises.
-/
import Mathlib.Data.Int.ConditionallyCompleteOrder
import Mathlib.Order.ConditionallyCompleteLattice.Basic
import Polis.Economy.Labour.Market

namespace Polis.Economy.Labour

/-! ## One band -/

/-- What a band from `floor` to `ceiling` has of an income. -/
def bandOf (floor ceiling annual : Int) : Int := max 0 (min annual ceiling - floor)

theorem bp_grows {amount amount' rateBp : Int} (hrate : 0 ≤ rateBp ∧ rateBp ≤ 10000)
    (h : amount ≤ amount') :
    bp amount rateBp ≤ bp amount' rateBp ∧ bp amount' rateBp ≤ bp amount rateBp + (amount' - amount) := by
  obtain ⟨hlo, hhi⟩ := hrate
  have hmul : amount * rateBp ≤ amount' * rateBp := mul_le_mul_of_nonneg_right h hlo
  have hgap : (amount' - amount) * rateBp ≤ (amount' - amount) * 10000 :=
    mul_le_mul_of_nonneg_left hhi (by omega)
  rw [sub_mul] at hgap
  unfold bp
  constructor
  · exact Int.ediv_le_ediv (by omega) hmul
  · omega

theorem bp_zero (rateBp : Int) : bp 0 rateBp = 0 := by simp [bp]

/-! ## The bands of a table -/

/-- A table in the order of its floors, at rates between nothing and all. -/
structure Banded (bands : List (Int × Int)) : Prop where
  ordered : bands.Pairwise fun a b => a.1 ≤ b.1
  rates : ∀ b ∈ bands, 0 ≤ b.2 ∧ b.2 ≤ 10000

theorem Banded.tail {b : Int × Int} {bands : List (Int × Int)} (h : Banded (b :: bands)) :
    Banded bands :=
  ⟨(List.pairwise_cons.mp h.ordered).2, fun x hx => h.rates x (List.mem_cons_of_mem _ hx)⟩

theorem bandTaxes_below {annual : Int} {bands : List (Int × Int)} (h : Banded bands)
    (hbelow : ∀ b ∈ bands, annual ≤ b.1) : bandTaxes annual bands = 0 := by
  cases bands with
  | nil => rfl
  | cons b rest =>
    have hfloor := hbelow b List.mem_cons_self
    cases rest with
    | nil =>
      have hnone : max 0 (min annual annual - b.1) = 0 := by omega
      simp only [bandTaxes, hnone, bp_zero, le_refl, if_true]
    | cons next rest =>
      have hordered := (List.pairwise_cons.mp h.ordered).1 next List.mem_cons_self
      have hnone : max 0 (min annual next.1 - b.1) = 0 := by omega
      simp only [bandTaxes, hnone, bp_zero]
      rw [if_pos (by omega)]

theorem bandTaxes_cons {annual : Int} {b next : Int × Int} {rest : List (Int × Int)}
    (h : Banded (b :: next :: rest)) :
    bandTaxes annual (b :: next :: rest)
      = bp (bandOf b.1 next.1 annual) b.2 + bandTaxes annual (next :: rest) := by
  show (if annual ≤ next.1 then bp (bandOf b.1 next.1 annual) b.2
    else bp (bandOf b.1 next.1 annual) b.2 + bandTaxes annual (next :: rest)) = _
  split_ifs with hle
  · -- the loop breaks at the band that holds the income: those above have none of it
    have hnone : bandTaxes annual (next :: rest) = 0 := by
      refine bandTaxes_below h.tail fun x hx => ?_
      rcases List.mem_cons.mp hx with rfl | hx
      · exact hle
      · have hordered := (List.pairwise_cons.mp h.tail.ordered).1 x hx
        omega
    rw [hnone, add_zero]
  · rfl

theorem bandTaxes_single (annual : Int) (b : Int × Int) :
    bandTaxes annual [b] = bp (max 0 (annual - b.1)) b.2 := by
  simp [bandTaxes]

theorem bandTaxes_grows {annual annual' : Int} (hle : annual ≤ annual') {b : Int × Int}
    {rest : List (Int × Int)} (h : Banded (b :: rest)) :
    bandTaxes annual (b :: rest) ≤ bandTaxes annual' (b :: rest) ∧
      bandTaxes annual' (b :: rest)
        ≤ bandTaxes annual (b :: rest) + (max annual' b.1 - max annual b.1) := by
  induction rest generalizing b with
  | nil =>
    have hgrows := bp_grows (h.rates b List.mem_cons_self)
      (show max 0 (annual - b.1) ≤ max 0 (annual' - b.1) by omega)
    rw [bandTaxes_single, bandTaxes_single]
    constructor
    · exact hgrows.1
    · omega
  | cons next rest ih =>
    have hordered := (List.pairwise_cons.mp h.ordered).1 next List.mem_cons_self
    have hband : bandOf b.1 next.1 annual ≤ bandOf b.1 next.1 annual' := by
      unfold bandOf
      omega
    have hgrows := bp_grows (h.rates b List.mem_cons_self) hband
    have habove := ih h.tail
    -- what the income grew is split between this band and those above it
    have hsplit : bandOf b.1 next.1 annual' - bandOf b.1 next.1 annual
        + (max annual' next.1 - max annual next.1) = max annual' b.1 - max annual b.1 := by
      unfold bandOf
      omega
    rw [bandTaxes_cons h, bandTaxes_cons h]
    constructor
    · omega
    · omega

theorem bandTaxes_nonneg {annual : Int} {bands : List (Int × Int)} (h : Banded bands) :
    0 ≤ bandTaxes annual bands := by
  cases bands with
  | nil => exact le_refl 0
  | cons b rest =>
    rcases le_or_gt annual b.1 with hlow | hhigh
    · have hbelow : bandTaxes annual (b :: rest) = 0 := by
        refine bandTaxes_below h fun x hx => ?_
        rcases List.mem_cons.mp hx with rfl | hx
        · exact hlow
        · have hordered := (List.pairwise_cons.mp h.ordered).1 x hx
          omega
      exact hbelow.ge
    · have hnone : bandTaxes b.1 (b :: rest) = 0 := by
        refine bandTaxes_below h fun x hx => ?_
        rcases List.mem_cons.mp hx with rfl | hx
        · exact le_refl _
        · exact (List.pairwise_cons.mp h.ordered).1 x hx
      have hgrows := bandTaxes_grows hhigh.le h
      omega

/-! ## The tax of a pay period -/

/-- A bracket table of non-negative floors, at rates between nothing and all. -/
structure Brackets (brackets : List (Int × Int)) : Prop where
  floors : ∀ b ∈ brackets, 0 ≤ b.1
  rates : ∀ b ∈ brackets, 0 ≤ b.2 ∧ b.2 ≤ 10000

theorem Brackets.banded {brackets : List (Int × Int)} (h : Brackets brackets) :
    Banded (sortedBy toLex brackets) := by
  refine ⟨?_, fun b hb => h.rates b (mem_sortedBy.mp hb)⟩
  have hsorted := List.pairwise_insertionSort (fun a b : Int × Int => toLex a ≤ toLex b) brackets
  exact hsorted.imp fun {a b} hab => Prod.Lex.monotone_fst _ _ hab

theorem annualTax_grows {brackets : List (Int × Int)} (h : Brackets brackets)
    {annual annual' : Int} (hpos : 0 ≤ annual) (hle : annual ≤ annual') :
    bandTaxes annual (sortedBy toLex brackets) ≤ bandTaxes annual' (sortedBy toLex brackets) ∧
      bandTaxes annual' (sortedBy toLex brackets)
        ≤ bandTaxes annual (sortedBy toLex brackets) + (annual' - annual) := by
  have hbanded := h.banded
  cases hbands : sortedBy toLex brackets with
  | nil =>
    constructor
    · exact le_refl 0
    · show (0 : Int) ≤ 0 + (annual' - annual)
      omega
  | cons b rest =>
    rw [hbands] at hbanded
    have hgrows := bandTaxes_grows hle hbanded
    constructor
    · exact hgrows.1
    · omega

theorem annualTax_zero {brackets : List (Int × Int)} (h : Brackets brackets) :
    bandTaxes 0 (sortedBy toLex brackets) = 0 :=
  bandTaxes_below h.banded fun b hb => h.floors b (mem_sortedBy.mp hb)

theorem tax_eq {brackets : List (Int × Int)} (h : Brackets brackets) {gross : Int}
    (hgross : 0 ≤ gross) (periods : Int) :
    progressiveIncomeTaxCents gross brackets periods
      = bandTaxes (gross * periods) (sortedBy toLex brackets) / periods := by
  unfold progressiveIncomeTaxCents
  split_ifs with hnone
  · have hzero : gross = 0 := by omega
    rw [hzero, zero_mul, annualTax_zero h, Int.zero_ediv]
  · rfl

theorem tax_grows {brackets : List (Int × Int)} (h : Brackets brackets) {periods : Int}
    (hperiods : 0 < periods) {gross gross' : Int} (hgross : 0 ≤ gross) (hle : gross ≤ gross') :
    progressiveIncomeTaxCents gross brackets periods
        ≤ progressiveIncomeTaxCents gross' brackets periods ∧
      progressiveIncomeTaxCents gross' brackets periods
        ≤ progressiveIncomeTaxCents gross brackets periods + (gross' - gross) := by
  rw [tax_eq h hgross, tax_eq h (hgross.trans hle)]
  have hannual : gross * periods ≤ gross' * periods := mul_le_mul_of_nonneg_right hle hperiods.le
  obtain ⟨hmore, hless⟩ := annualTax_grows h (mul_nonneg hgross hperiods.le) hannual
  constructor
  · exact Int.ediv_le_ediv hperiods hmore
  · rw [← sub_mul] at hless
    calc bandTaxes (gross' * periods) (sortedBy toLex brackets) / periods
        ≤ (bandTaxes (gross * periods) (sortedBy toLex brackets) + (gross' - gross) * periods)
            / periods := Int.ediv_le_ediv hperiods hless
      _ = _ := Int.add_mul_ediv_right _ _ (by omega)

theorem tax_nonneg {brackets : List (Int × Int)} (h : Brackets brackets) {periods : Int}
    (hperiods : 0 < periods) (gross : Int) :
    0 ≤ progressiveIncomeTaxCents gross brackets periods := by
  unfold progressiveIncomeTaxCents
  split_ifs
  · exact le_refl 0
  · exact Int.ediv_nonneg (bandTaxes_nonneg h.banded) hperiods.le

theorem tax_of_nonpos {gross : Int} (h : gross ≤ 0) (brackets : List (Int × Int)) (periods : Int) :
    progressiveIncomeTaxCents gross brackets periods = 0 := by
  unfold progressiveIncomeTaxCents
  rw [if_pos h]

/-- **The income tax is well behaved**: it is never negative, never more than
the pay, and neither the tax nor the net pay falls as the pay rises. -/
theorem income_tax_well_behaved (brackets : List (Int × Int)) (periods : Int)
    (hfloors : ∀ b ∈ brackets, 0 ≤ b.1) (hrates : ∀ b ∈ brackets, 0 ≤ b.2 ∧ b.2 ≤ 10000)
    (hperiods : 0 < periods) :
    (∀ gross, 0 ≤ progressiveIncomeTaxCents gross brackets periods ∧
        progressiveIncomeTaxCents gross brackets periods ≤ max 0 gross) ∧
      (Monotone fun gross => progressiveIncomeTaxCents gross brackets periods) ∧
      Monotone fun gross => gross - progressiveIncomeTaxCents gross brackets periods := by
  have h : Brackets brackets := ⟨hfloors, hrates⟩
  have hnone := fun gross (hgross : gross ≤ 0) => tax_of_nonpos hgross brackets periods
  refine ⟨fun gross => ⟨tax_nonneg h hperiods gross, ?_⟩, fun gross gross' hle => ?_,
    fun gross gross' hle => ?_⟩
  · rcases le_total gross 0 with hneg | hpos
    · rw [hnone gross hneg]
      omega
    · have hgrows := tax_grows h hperiods (le_refl 0) hpos
      rw [hnone 0 (le_refl 0)] at hgrows
      omega
  · show progressiveIncomeTaxCents gross brackets periods ≤ _
    rcases le_total gross 0 with hneg | hpos
    · rw [hnone gross hneg]
      exact tax_nonneg h hperiods gross'
    · exact (tax_grows h hperiods hpos hle).1
  · show gross - progressiveIncomeTaxCents gross brackets periods
      ≤ gross' - progressiveIncomeTaxCents gross' brackets periods
    rcases le_total gross 0 with hneg | hpos
    · rw [hnone gross hneg]
      rcases le_total gross' 0 with hneg' | hpos'
      · rw [hnone gross' hneg']
        omega
      · have hgrows := tax_grows h hperiods (le_refl 0) hpos'
        rw [hnone 0 (le_refl 0)] at hgrows
        omega
    · have hgrows := tax_grows h hperiods hpos hle
      omega

theorem one_bracket_well_behaved :
    (∀ gross, 0 ≤ progressiveIncomeTaxCents gross [(1000, 1000)] 24 ∧
        progressiveIncomeTaxCents gross [(1000, 1000)] 24 ≤ max 0 gross) ∧
      (Monotone fun gross => progressiveIncomeTaxCents gross [(1000, 1000)] 24) ∧
      Monotone fun gross => gross - progressiveIncomeTaxCents gross [(1000, 1000)] 24 :=
  income_tax_well_behaved [(1000, 1000)] 24 (by decide) (by decide) (by decide)

theorem tax_above_negative_pay :
    ¬∀ (brackets : List (Int × Int)) (periods : Int), (∀ b ∈ brackets, 0 ≤ b.1) →
      (∀ b ∈ brackets, 0 ≤ b.2 ∧ b.2 ≤ 10000) → 0 < periods →
      (∀ gross, 0 ≤ progressiveIncomeTaxCents gross brackets periods ∧
          progressiveIncomeTaxCents gross brackets periods ≤ gross) ∧
        (Monotone fun gross => progressiveIncomeTaxCents gross brackets periods) ∧
        Monotone fun gross => gross - progressiveIncomeTaxCents gross brackets periods := by
  intro h
  have hnegative := ((h [(1000, 1000)] 24 (by decide) (by decide) (by decide)).1 (-1)).2
  revert hnegative
  decide

end Polis.Economy.Labour
