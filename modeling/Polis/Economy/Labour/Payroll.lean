/-
  Polis.Economy.Labour.Payroll — the rolls across a payroll.

  Main results:
    * `payWage_quiet` — a wage that is paid leaves the rolls.
-/
import Polis.Economy.Labour.Jobs

namespace Polis.Economy.Labour

open Lib Lib.Effect

section Payroll

variable {A G : Type} [Worker A] (m : LabourCtx A G)

section Wage

variable [Uuid5]

omit [Uuid5] in
theorem depositAccount_leaves (ownerId : String) (tick : Int) :
    Within LeavesLabour (depositAccount ownerId tick) := by
  intro s a s' h
  obtain ⟨_, _, h₁, h⟩ := bind_eq_ok.mp h
  obtain ⟨rfl, rfl⟩ := Sim.economyNow_eq_ok.mp h₁
  cases hopen : (s.economy.ledger.accountsOf ownerId).find? fun a =>
      a.code = .dep ∧ s.economy.ledger.isOpen a with
  | some account =>
    simp only [hopen] at h
    obtain ⟨-, rfl⟩ := pure_eq_ok.mp h
    exact leavesLabour_refl s
  | none =>
    simp only [hopen] at h
    cases hbank : ((s.economy.banks.values.filter fun b => ¬b.isCentral ∧ b.status = .active).map
        BankState.bankId).min? with
    | none =>
      simp only [hbank] at h
      exact (throw_eq_ok.mp h).elim
    | some bankId =>
      simp only [hbank] at h
      exact onLedger_leaves _ _ _ _ h

omit [Uuid5] in
theorem wageLegs_leaves (firm : FirmState) (agentId : String) (net taxTotal tick : Int) :
    Within LeavesLabour (wageLegs firm agentId net taxTotal tick) := by
  have htax : ∀ wage : List Leg, Within LeavesLabour (do
      let tax ← liftE (legsIf (taxTotal ≠ 0)
        (Ledger.transfer firm.ledgerAccountId treasury taxTotal "tax"))
      pure (wage ++ tax)) := by
    intro wage
    refine within_bind leavesLabour_trans (within_liftE leavesLabour_refl _) fun _ => ?_
    exact within_pure leavesLabour_refl _
  unfold wageLegs
  refine within_ite ?_ ?_
  · refine within_bind leavesLabour_trans (depositAccount_leaves _ _) fun _ => ?_
    exact within_bind leavesLabour_trans (within_liftE leavesLabour_refl _) htax
  · exact within_bind leavesLabour_trans (within_pure leavesLabour_refl _) htax

omit [Worker A] in
theorem payWage_quiet (firm : FirmState) (employment : EmploymentState)
    (net incomeTax employerTax tick : Int) :
    Within Quiet (payWage m firm employment net incomeTax employerTax tick) := by
  refine within_bind quiet_trans (onSim_quiet (onLedger_leaves _)) fun expected => ?_
  refine within_bind quiet_trans (emit_quiet (by decide) _ _ _) fun wageEvent => ?_
  refine within_bind quiet_trans (onSim_quiet (wageLegs_leaves _ _ _ _ _)) fun legs => ?_
  refine within_bind quiet_trans (onSim_quiet (onLedger_leaves _)) fun txnId => ?_
  refine within_bind quiet_trans (within_require quiet_refl _ _) fun _ => ?_
  cases hgarnish : m.garnish with
  | none => exact within_bind quiet_trans (within_pure quiet_refl _) fun _ => within_pure quiet_refl _
  | some garnish =>
    refine within_bind quiet_trans ?_ fun _ => within_pure quiet_refl _
    refine within_ite ?_ (within_pure quiet_refl _)
    intro s _ s' h
    obtain ⟨⟨g, sim⟩, hrun, rfl⟩ := zoom_eq_ok.mp h
    exact (m.garnish_leaves garnish hgarnish _ _ _ _ _ _ _ hrun).quiet g

end Wage

end Payroll

end Polis.Economy.Labour
