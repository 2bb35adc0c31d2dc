/-
  Polis.Kernel.Rounding — Python's `round` on the exact value of a float.

  Floats appear in the model as the rationals they denote; arithmetic on them
  is exact.

  Main results:
    * `pyRound_mem` — rounding stays between the integers around a value.
-/
import Mathlib.Algebra.Order.Floor.Ring
import Mathlib.Data.Rat.Floor
import Mathlib.Tactic.Linarith

namespace Polis.Kernel

/-- `round(q)`: to the nearest integer, ties to the even one. -/
def pyRound (q : ℚ) : Int :=
  let below := ⌊q⌋
  let rest := q - below
  if rest < 1 / 2 then below
  else if 1 / 2 < rest then below + 1
  else if below % 2 = 0 then below else below + 1

theorem pyRound_cases (q : ℚ) : pyRound q = ⌊q⌋ ∨ (pyRound q = ⌊q⌋ + 1 ∧ (⌊q⌋ : ℚ) < q) := by
  unfold pyRound
  by_cases h₁ : q - ⌊q⌋ < 1 / 2
  · exact Or.inl (if_pos h₁)
  · have hpos : (⌊q⌋ : ℚ) < q := by linarith
    by_cases h₂ : 1 / 2 < q - ⌊q⌋
    · right
      refine ⟨?_, hpos⟩
      show (if q - ⌊q⌋ < 1 / 2 then _ else _) = _
      rw [if_neg h₁, if_pos h₂]
    · by_cases h₃ : ⌊q⌋ % 2 = 0
      · left
        show (if q - ⌊q⌋ < 1 / 2 then _ else _) = _
        rw [if_neg h₁, if_neg h₂, if_pos h₃]
      · right
        refine ⟨?_, hpos⟩
        show (if q - ⌊q⌋ < 1 / 2 then _ else _) = _
        rw [if_neg h₁, if_neg h₂, if_neg h₃]

theorem pyRound_mem {q : ℚ} {lo hi : Int} (hlo : (lo : ℚ) ≤ q) (hhi : q ≤ hi) :
    lo ≤ pyRound q ∧ pyRound q ≤ hi := by
  have hfloor : lo ≤ ⌊q⌋ := Int.le_floor.mpr hlo
  have hle : (⌊q⌋ : ℚ) ≤ q := Int.floor_le q
  rcases pyRound_cases q with h | ⟨h, hlt⟩
  · rw [h]
    refine ⟨hfloor, ?_⟩
    have hcast : ((⌊q⌋ : Int) : ℚ) ≤ (hi : ℚ) := le_trans hle hhi
    exact_mod_cast hcast
  · rw [h]
    have hcast : ((⌊q⌋ : Int) : ℚ) < (hi : ℚ) := lt_of_lt_of_le hlt hhi
    have hint : ⌊q⌋ < hi := by exact_mod_cast hcast
    omega

/-- `round(q, 6)`. -/
def round6 (q : ℚ) : ℚ := pyRound (q * 1000000) / 1000000

end Polis.Kernel
