/-
  Polis.Economy.Labour.Wages — wages in whole cents add up.

  A WORK action accrues a share of the wage and carries what is less than a
  cent.  Payroll and redundancies leave the carry alone.  What nothing checks
  is whether the employment has accrued in this tick already.

  Main results:
    * `work_spec` — what one WORK action does to the employments.
    * `carry_forward` — along every run, interest and wages accrued are exact;
      and where no action works an employment a second time in a tick, none
      accrues twice.
    * `shift_worked_twice` — two WORK actions of one tick accrue twice.
-/
import Polis.Economy.Credit.Accrual
import Polis.Economy.Labour.Payroll

namespace Polis.Economy.Labour

open Lib Lib.Effect Lib.Carry

section Shifts

variable {A G : Type}

/-! ## One shift -/

/-- The checks of `_work`. -/
def CanWork (employment : EmploymentState) (actorId : String) (tick : Int) : Prop :=
  employment.agentId = actorId ∧ employment.startedTick ≤ tick ∧ employment.endedTick = none

instance (employment : EmploymentState) (actorId : String) (tick : Int) :
    Decidable (CanWork employment actorId tick) :=
  inferInstanceAs (Decidable (_ ∧ _ ∧ _ = none))

/-- The parts a cent of wage is divided in. -/
def wageDenominator (m : LabourCtx A G) : Int :=
  10000 * max 1 (14 * m.settings.clock.ticksPerSimDay)

theorem wageDenominator_pos (m : LabourCtx A G) : 0 < wageDenominator m := by
  unfold wageDenominator
  omega

/-- What a shift is worth, in parts of a cent. -/
def shiftWorth (employment : EmploymentState) : Int := employment.wageCents * employment.hoursBp

/-- What is carried for an employment, and when it was last worked. -/
def shifts (s : Market A G) (key : String) : Option (Int × Option Int) :=
  (s.sim.economy.employments.get? key).map fun e => (e.accrualRemainder, e.lastWorkedTick)

/-- The wages accrued on an employment and not yet paid. -/
def accruedWage (s : Market A G) (key : String) : Int :=
  ((s.sim.economy.employments.get? key).map EmploymentState.accruedWageCents).getD 0

/-- A shift is worked: carry, accrued wage and tick are written on the row. -/
structure Worked (m : LabourCtx A G) (key : String) (employment : EmploymentState) (tick : Int)
    (s s' : Market A G) : Prop where
  carry : shifts s' key = some (Int.fmod (shiftWorth employment + employment.accrualRemainder)
    (wageDenominator m), some tick)
  wage : accruedWage s' key = employment.accruedWageCents
    + Int.fdiv (shiftWorth employment + employment.accrualRemainder) (wageDenominator m)
  rest : ∀ k, k ≠ key → s'.sim.economy.employments.get? k = s.sim.economy.employments.get? k

/-! ## What leaves the shifts -/

/-- Carry and last shift of every employment stay. -/
def SameShifts (s s' : Market A G) : Prop := shifts s' = shifts s

theorem sameShifts_refl (s : Market A G) : SameShifts s s := rfl

theorem sameShifts_trans (a b c : Market A G) (h : SameShifts a b) (h' : SameShifts b c) :
    SameShifts a c := h'.trans h

theorem sameShifts_of_employments {s s' : Market A G}
    (h : s'.sim.economy.employments = s.sim.economy.employments) : SameShifts s s' := by
  unfold SameShifts shifts
  rw [h]

theorem Quiet.shifts {s s' : Market A G} (h : Quiet s s') : SameShifts s s' :=
  sameShifts_of_employments (congrArg Rolls.employments h)

theorem emit_shifts (tick : Int) (kind : EventKind) (payload : List (String × Value))
    (actorId : Option String) (subjectIds : List String) :
    Within SameShifts (emit tick kind payload actorId subjectIds : MarketM A G Event) := by
  intro s event s' h
  obtain ⟨-, hrolls⟩ := emit_eq_ok h
  apply sameShifts_of_employments
  have := congrArg Rolls.employments hrolls
  exact this

theorem modify_shifts {key : String} {g : EmploymentState → EmploymentState}
    {f : EconomyState → EconomyState}
    (hf : ∀ e, (f e).employments = e.employments.modify key g)
    (hg : ∀ row, (g row).accrualRemainder = row.accrualRemainder ∧
      (g row).lastWorkedTick = row.lastWorkedTick) :
    Within SameShifts (modifyEconomy f : MarketM A G Unit) := by
  intro s u s' h
  rw [modifyEconomy_eq_ok.mp h]
  funext k
  show ((f s.sim.economy).employments.get? k).map _ = _
  rw [hf, Dict.get?_modify]
  unfold shifts
  by_cases hk : k = key
  · subst hk
    rw [if_pos rfl, Option.map_map]
    congr 1
    funext row
    show ((g row).accrualRemainder, (g row).lastWorkedTick) = _
    rw [(hg row).1, (hg row).2]
  · rw [if_neg hk]

theorem reading_shifts {α : Type} {x : MarketM A G α} (h : Within Quiet x) :
    Within SameShifts x := h.mono fun _ _ => Quiet.shifts

/-! ## The account of a run -/

/-- What employments earned, before rounding, what was accrued on them, and
the shifts worked, each with its tick. -/
structure Earnings where
  earned : String → Int
  accrued : String → Int
  worked : List (String × Int)

/-- The account after a shift. -/
def Earnings.after (w : Earnings) (key : String) (employment : EmploymentState) (tick : Int)
    (s s' : Market A G) : Earnings where
  earned k := w.earned k + if k = key then shiftWorth employment else 0
  accrued k := w.accrued k + (accruedWage s' k - accruedWage s k)
  worked := w.worked ++ [(key, tick)]

/-- What the rest of the kernel does between two calls: it leaves carry and
last shift of every employment; a new employment starts without either. -/
def SparesShifts (s s' : Market A G) : Prop :=
  ∀ key, shifts s' key = shifts s key ∨ shifts s key = none ∧ shifts s' key = some (0, none)

/-- The employment has not been worked in this tick. -/
def Unworked (_ : Market A G) (employment : EmploymentState) (tick : Int) : Prop :=
  employment.lastWorkedTick ≠ some tick

/-- The account of every employment is exact, and its last shift is the last
one noted. -/
structure Settled (m : LabourCtx A G) (s : Market A G) (now : Int) (w : Earnings) : Prop where
  exact : ∀ key c last, shifts s key = some (c, last) →
    Exact (wageDenominator m) (w.earned key) ⟨w.accrued key, c⟩
  unknown : ∀ key, shifts s key = none →
    w.earned key = 0 ∧ w.accrued key = 0 ∧ ∀ t, (key, t) ∉ w.worked
  last : ∀ key c last t, shifts s key = some (c, last) → (key, t) ∈ w.worked →
    ∃ t', last = some t' ∧ t ≤ t' ∧ t' ≤ now

variable [Worker A] [Uuid5] (m : LabourCtx A G)

omit [Uuid5] in
theorem work_spec {actorId : String} {p : WorkParams} {tick : Int} {s s' : Market A G}
    {r : Option Event} (h : work m actorId p tick s = .ok r s') :
    (r = none ∧ s' = s ∧ ∀ e, s.sim.economy.employments.get? p.employmentId = some e →
      ¬CanWork e actorId tick) ∨
    ∃ employment, s.sim.economy.employments.get? p.employmentId = some employment ∧
      CanWork employment actorId tick ∧ r.isSome ∧
      Worked m p.employmentId employment tick s s' := by
  obtain ⟨_, _, h₁, h⟩ := bind_eq_ok.mp h
  obtain ⟨rfl, rfl⟩ := economyNow_eq_ok.mp h₁
  cases hemployment : s.sim.economy.employments.get? p.employmentId with
  | none =>
    simp only [hemployment] at h
    obtain ⟨rfl, rfl⟩ := pure_eq_ok.mp h
    exact .inl ⟨rfl, rfl, fun e he => by cases he⟩
  | some employment =>
    simp only [hemployment] at h
    rcases ite_eq_ok.mp h with ⟨hrefused, h⟩ | ⟨hallowed, h⟩
    · obtain ⟨rfl, rfl⟩ := pure_eq_ok.mp h
      refine .inl ⟨rfl, rfl, fun e he hcan => ?_⟩
      cases he
      obtain ⟨hagent, hstarted, hended⟩ := hcan
      rcases hrefused with hne | hlt | hne
      · exact hne hagent
      · omega
      · exact hne hended
    have hcan : CanWork employment actorId tick := by
      simp only [not_or, not_not, not_lt] at hallowed
      exact hallowed
    obtain ⟨agent, _, h₁, h⟩ := bind_eq_ok.mp h
    obtain ⟨-, rfl⟩ := agentAt_eq_ok.mp h₁
    obtain ⟨occupation, _, h₁, h⟩ := bind_eq_ok.mp h
    obtain ⟨-, rfl⟩ := orRaise_eq_ok.mp h₁
    obtain ⟨_, s₁, h₁, h⟩ := bind_eq_ok.mp h
    have hwritten := modifyEconomy_eq_ok.mp h₁
    obtain ⟨deltas, s₂, h₂, h⟩ := bind_eq_ok.mp h
    -- practice and the event leave the employments
    have hpractised : rolls s₂ = rolls s₁ := by
      refine within_gather quiet_refl quiet_trans (fun x _ => ?_) _ _ _ h₂
      refine within_bind quiet_trans (agentAt_quiet _) fun _ => ?_
      refine within_bind quiet_trans (within_liftE quiet_refl _) fun _ => ?_
      refine within_bind quiet_trans (writeAgent_quiet _ _) fun _ => ?_
      refine within_bind quiet_trans ?_ fun _ => within_pure quiet_refl _
      intro t _ t' ht
      rw [modifyEconomy_eq_ok.mp ht]
      rfl
    obtain ⟨event, s₃, h₃, h⟩ := bind_eq_ok.mp h
    have hemitted : rolls s₃ = rolls s₂ := emit_quiet (by decide) _ _ _ _ _ _ h₃
    obtain ⟨rfl, rfl⟩ := pure_eq_ok.mp h
    obtain ⟨effective, hrows⟩ : ∃ effective, s₃.sim.economy.employments
        = s.sim.economy.employments.modify p.employmentId fun row => { row with
          accrualRemainder :=
            (shiftWorth employment + employment.accrualRemainder) % wageDenominator m
          accruedWageCents := row.accruedWageCents
            + (shiftWorth employment + employment.accrualRemainder) / wageDenominator m
          lastWorkedTick := some tick
          lastEffectiveLabourBp := effective } := by
      have hsame : s₃.sim.economy.employments = s₁.sim.economy.employments :=
        congrArg Rolls.employments (hemitted.trans hpractised)
      exact ⟨_, hsame.trans (congrArg (fun t => t.sim.economy.employments) hwritten)⟩
    have hpos := wageDenominator_pos m
    refine .inr ⟨employment, rfl, hcan, rfl, ?_, ?_, ?_⟩
    · rw [shifts, hrows, Dict.get?_modify, if_pos rfl, hemployment,
        Int.fmod_eq_emod_of_nonneg _ hpos.le]
      rfl
    · rw [accruedWage, hrows, Dict.get?_modify, if_pos rfl, hemployment,
        Int.fdiv_eq_ediv_of_nonneg _ hpos.le]
      rfl
    · intro k hk
      rw [hrows, Dict.get?_modify, if_neg hk]

/-! ## Payroll leaves the carry -/

theorem payEmployment_shifts (firm : FirmState) (tick : Int) (t : Payroll) (key : String) :
    Within SameShifts (payEmployment m firm tick t key) := by
  refine within_bind sameShifts_trans (reading_shifts economyNow_quiet) fun e => ?_
  refine within_bind sameShifts_trans (within_orRaise sameShifts_refl _ _) fun employment => ?_
  refine within_bind sameShifts_trans (reading_shifts (agentAt_quiet _)) fun agent => ?_
  refine within_ite ?_ (within_ite (within_pure sameShifts_refl _) ?_)
  · refine within_bind sameShifts_trans (emit_shifts _ _ _ _ _) fun event => ?_
    refine within_bind sameShifts_trans
      (modify_shifts (fun _ => rfl) fun _ => ⟨rfl, rfl⟩) fun _ => ?_
    refine within_ite ?_ (within_pure sameShifts_refl _)
    refine within_bind sameShifts_trans
      (modify_shifts (fun _ => rfl) fun _ => ⟨rfl, rfl⟩) fun _ => ?_
    exact within_pure sameShifts_refl _
  · refine within_bind sameShifts_trans (reading_shifts (payWage_quiet m _ _ _ _ _ _)) fun _ => ?_
    refine within_bind sameShifts_trans
      (modify_shifts (fun _ => rfl) fun _ => ⟨rfl, rfl⟩) fun _ => ?_
    exact within_pure sameShifts_refl _

omit [Uuid5] in
theorem layOff_shifts (firmId : String) (tick : Int) (employment : EmploymentState) :
    Within SameShifts (layOff m firmId tick employment) := by
  refine within_bind sameShifts_trans
    (modify_shifts (fun _ => rfl) fun _ => ⟨rfl, rfl⟩) fun _ => ?_
  refine within_bind sameShifts_trans (reading_shifts (agentAt_quiet _)) fun _ => ?_
  refine within_bind sameShifts_trans (reading_shifts (writeAgent_quiet _ _)) fun _ => ?_
  refine within_bind sameShifts_trans ?_ fun _ => ?_
  · intro s u s' h
    rw [modifyEconomy_eq_ok.mp h]
    exact sameShifts_of_employments rfl
  · refine within_bind sameShifts_trans (emit_shifts _ _ _ _ _) fun _ => ?_
    exact within_pure sameShifts_refl _

omit [Uuid5] in
theorem layoffForShortfall_shifts (firmId : String) (unpaid : List String) (tick : Int) :
    Within SameShifts (layoffForShortfall m firmId unpaid tick) := by
  refine within_bind sameShifts_trans (reading_shifts economyNow_quiet) fun e => ?_
  refine within_bind sameShifts_trans (within_orRaise sameShifts_refl _ _) fun firm => ?_
  refine within_bind sameShifts_trans (within_liftE sameShifts_refl _) fun rows => ?_
  refine within_ite (within_pure sameShifts_refl _) ?_
  refine within_bind sameShifts_trans
    (within_gather sameShifts_refl sameShifts_trans fun _ _ => layOff_shifts m _ _ _) fun _ => ?_
  refine within_bind sameShifts_trans (reading_shifts economyNow_quiet) fun _ => ?_
  refine within_bind sameShifts_trans (within_orRaise sameShifts_refl _ _) fun _ => ?_
  refine within_bind sameShifts_trans (emit_shifts _ _ _ _ _) fun _ => ?_
  exact within_pure sameShifts_refl _

theorem runPayroll_shifts (tick : Int) : Within SameShifts (runPayroll m tick) := by
  refine within_bind sameShifts_trans (within_liftE sameShifts_refl _) fun due => ?_
  refine within_ite (within_pure sameShifts_refl _) ?_
  refine within_bind sameShifts_trans (reading_shifts economyNow_quiet) fun e => ?_
  refine within_gather sameShifts_refl sameShifts_trans fun firm _ => ?_
  refine within_bind sameShifts_trans (reading_shifts economyNow_quiet) fun e => ?_
  refine within_ite (within_pure sameShifts_refl _) ?_
  refine within_bind sameShifts_trans (within_foldEff sameShifts_refl sameShifts_trans
    (fun t key _ => payEmployment_shifts m firm tick t key) _) fun t => ?_
  refine within_bind sameShifts_trans (within_onlyIf sameShifts_refl fun _ => ?_) fun _ => ?_
  · refine within_bind sameShifts_trans (reading_shifts economyNow_quiet) fun _ => ?_
    refine within_bind sameShifts_trans (within_liftE sameShifts_refl _) fun _ => ?_
    refine within_bind sameShifts_trans (emit_shifts _ _ _ _ _) fun _ => ?_
    refine within_bind sameShifts_trans (layoffForShortfall_shifts m _ _ _) fun _ => ?_
    exact within_pure sameShifts_refl _
  · refine within_bind sameShifts_trans (emit_shifts _ _ _ _ _) fun _ => ?_
    exact within_pure sameShifts_refl _

/-! ## Runs -/

/-- A run of the labour market up to a tick, with the account of its WORK
actions: each meets `Q` in the state it is taken in, and time does not go
back. -/
inductive WorkRun (Q : Market A G → EmploymentState → Int → Prop) (s₀ : Market A G) :
    Market A G → Int → Earnings → Prop where
  | start (now : Int) : WorkRun Q s₀ s₀ now ⟨fun _ => 0, fun _ => 0, []⟩
  | refused {s s' : Market A G} {now tick : Int} {w : Earnings} (actorId : String) (p : WorkParams)
      (h : WorkRun Q s₀ s now w) (htime : now ≤ tick)
      (hrun : work m actorId p tick s = .ok none s') : WorkRun Q s₀ s' tick w
  | work {s s' : Market A G} {now tick : Int} {w : Earnings} {event : Event} (actorId : String)
      (p : WorkParams) (employment : EmploymentState) (h : WorkRun Q s₀ s now w)
      (htime : now ≤ tick)
      (hemployment : s.sim.economy.employments.get? p.employmentId = some employment)
      (hmeets : Q s employment tick) (hrun : work m actorId p tick s = .ok (some event) s') :
      WorkRun Q s₀ s' tick (w.after p.employmentId employment tick s s')
  | runPayroll {s s' : Market A G} {now tick : Int} {w : Earnings} {r : List Event}
      (h : WorkRun Q s₀ s now w) (htime : now ≤ tick) (hrun : runPayroll m tick s = .ok r s') :
      WorkRun Q s₀ s' tick w
  | aside {s s' : Market A G} {now tick : Int} {w : Earnings} (h : WorkRun Q s₀ s now w)
      (htime : now ≤ tick) (haside : SparesShifts s s') : WorkRun Q s₀ s' tick w

variable {m} {s s' : Market A G} {now tick : Int} {w : Earnings}

omit [Worker A] [Uuid5] in
theorem Settled.later (h : Settled m s now w) (htime : now ≤ tick) : Settled m s tick w where
  exact := h.exact
  unknown := h.unknown
  last key c last t hkey hmem := by
    obtain ⟨t', hlast, hle, hnow⟩ := h.last key c last t hkey hmem
    exact ⟨t', hlast, hle, hnow.trans htime⟩

omit [Worker A] [Uuid5] in
theorem Settled.spare (h : Settled m s now w) (haside : SparesShifts s s') :
    Settled m s' now w := by
  constructor
  · intro key c last hkey
    rcases haside key with hsame | ⟨hnew, hzero⟩
    · exact h.exact key c last (hsame ▸ hkey)
    · rw [hzero] at hkey
      cases hkey
      obtain ⟨hearned, haccrued, -⟩ := h.unknown key hnew
      rw [hearned, haccrued]
      exact exact_zero _
  · intro key hkey
    rcases haside key with hsame | ⟨-, hzero⟩
    · exact h.unknown key (hsame ▸ hkey)
    · rw [hzero] at hkey
      cases hkey
  · intro key c last t hkey hmem
    rcases haside key with hsame | ⟨hnew, -⟩
    · exact h.last key c last t (hsame ▸ hkey) hmem
    · exact absurd hmem ((h.unknown key hnew).2.2 t)

omit [Worker A] [Uuid5] in
theorem Settled.same (h : Settled m s now w) (hsame : SameShifts s s') : Settled m s' now w :=
  h.spare fun key => .inl (congrFun hsame key)

omit [Worker A] [Uuid5] in
theorem Settled.shift (h : Settled m s now w) (htime : now ≤ tick) {key : String}
    {employment : EmploymentState}
    (hemployment : s.sim.economy.employments.get? key = some employment)
    (hworked : Worked m key employment tick s s') :
    Settled m s' tick (w.after key employment tick s s') := by
  have hshift : shifts s key = some (employment.accrualRemainder, employment.lastWorkedTick) := by
    rw [shifts, hemployment]
    rfl
  have hrest : ∀ k, k ≠ key → shifts s' k = shifts s k := by
    intro k hk
    rw [shifts, shifts, hworked.rest k hk]
  have hwage : ∀ k, k ≠ key → accruedWage s' k = accruedWage s k := by
    intro k hk
    rw [accruedWage, accruedWage, hworked.rest k hk]
  constructor
  · intro k c last hk
    by_cases heq : k = key
    · subst heq
      rw [hworked.carry] at hk
      cases hk
      have hnext := (h.exact k _ _ hshift).add (wageDenominator_pos m).ne' (shiftWorth employment)
      have haccrued : accruedWage s k = employment.accruedWageCents := by
        rw [accruedWage, hemployment]
        rfl
      convert hnext using 1
      · simp [Earnings.after]
      · simp [Earnings.after, Account.add, hworked.wage, haccrued]
    · rw [hrest k heq] at hk
      have hexact := h.exact k c last hk
      simpa [Earnings.after, heq, hwage k heq] using hexact
  · intro k hk
    by_cases heq : k = key
    · subst heq
      rw [hworked.carry] at hk
      cases hk
    · rw [hrest k heq] at hk
      obtain ⟨hearned, haccrued, hnone⟩ := h.unknown k hk
      simp [Earnings.after, heq, hwage k heq, hearned, haccrued, hnone]
  · intro k c last t hk hmem
    rcases List.mem_append.mp hmem with hold | hnew
    · by_cases heq : k = key
      · subst heq
        rw [hworked.carry] at hk
        cases hk
        obtain ⟨t', -, hle, hnow⟩ := h.last k _ _ t hshift hold
        exact ⟨tick, rfl, by omega, le_rfl⟩
      · rw [hrest k heq] at hk
        obtain ⟨t', hlast, hle, hnow⟩ := h.last k c last t hk hold
        exact ⟨t', hlast, hle, by omega⟩
    · rw [List.mem_singleton, Prod.mk.injEq] at hnew
      obtain ⟨rfl, rfl⟩ := hnew
      rw [hworked.carry] at hk
      cases hk
      exact ⟨t, rfl, le_rfl, le_rfl⟩

/-- No employment carries anything or has been worked. -/
def Unstarted (s : Market A G) : Prop := ∀ key row, shifts s key = some row → row = (0, none)

variable {Q : Market A G → EmploymentState → Int → Prop} {s₀ : Market A G}

theorem WorkRun.settled (hfresh : Unstarted s₀) (h : WorkRun m Q s₀ s now w) :
    Settled m s now w := by
  induction h with
  | start now =>
    constructor
    · intro key c last hkey
      cases hfresh key _ hkey
      exact exact_zero _
    · intro key _
      simp
    · intro key c last t _ hmem
      cases hmem
  | refused actorId p h htime hrun ih =>
    rcases work_spec m hrun with ⟨-, rfl, -⟩ | ⟨_, _, _, hsome, _⟩
    · exact ih.later htime
    · cases hsome
  | work actorId p employment h htime hemployment hmeets hrun ih =>
    rcases work_spec m hrun with ⟨hnone, -, -⟩ | ⟨employment', hemployment', -, -, hworked⟩
    · cases hnone
    · rw [hemployment] at hemployment'
      cases hemployment'
      exact ih.shift htime hemployment hworked
  | runPayroll h htime hrun ih => exact (ih.same (runPayroll_shifts m _ _ _ _ hrun)).later htime
  | aside h htime haside ih => exact (ih.spare haside).later htime

theorem WorkRun.worked_nodup (hfresh : Unstarted s₀) (h : WorkRun m Unworked s₀ s now w) :
    w.worked.Nodup := by
  induction h with
  | start now => exact List.nodup_nil
  | refused actorId p h htime hrun ih => exact ih
  | @work s s' now tick w event actorId p employment h htime hemployment hmeets hrun ih =>
    refine List.Nodup.append ih (List.nodup_singleton _) ?_
    intro shift hmem hnew
    rw [List.mem_singleton] at hnew
    subst hnew
    have hshift : shifts s p.employmentId
        = some (employment.accrualRemainder, employment.lastWorkedTick) := by
      rw [shifts, hemployment]
      rfl
    obtain ⟨t', hlast, hle, hnow⟩ := (h.settled hfresh).last _ _ _ _ hshift hmem
    have heq : t' = tick := by omega
    exact hmeets (heq ▸ hlast)
  | runPayroll h htime hrun ih => exact ih
  | aside h htime haside ih => exact ih

/-- **Accrual carries forward.**  In every run the interest a loan has been
credited, and the wage an employment has accrued, are the whole cents of what
was owed and earned; and in a run whose WORK actions each find the employment
unworked in their tick, each employment accrues at most once a tick. -/
theorem carry_forward (ctx : Ctx) (m : LabourCtx A G) :
    (∀ s₀ s i, (∀ key c, Credit.carries s₀ key = some c → c = 0) → Credit.Run ctx s₀ s i →
      ∀ key loan, s.economy.loans.get? key = some loan →
        i.credited key = Int.fdiv (i.owed key) (Credit.accrualDenominator ctx)) ∧
    (∀ Q s₀ s now w, Unstarted s₀ → WorkRun m Q s₀ s now w →
      ∀ key employment, s.sim.economy.employments.get? key = some employment →
        w.accrued key = Int.fdiv (w.earned key) (wageDenominator m)) ∧
    (∀ s₀ s now w, Unstarted s₀ → WorkRun m Unworked s₀ s now w → w.worked.Nodup) := by
  refine ⟨?_, ?_, ?_⟩
  · intro s₀ s i hfresh hrun key loan hloan
    exact (Credit.interest_exact hfresh hrun hloan).1
  · intro Q s₀ s now w hfresh hrun key employment hemployment
    have hshift : shifts s key
        = some (employment.accrualRemainder, employment.lastWorkedTick) := by
      rw [shifts, hemployment]
      rfl
    exact ((hrun.settled hfresh).exact key _ _ hshift).1
  · intro s₀ s now w hfresh hrun
    exact hrun.worked_nodup hfresh

end Shifts

/-! ## A job in town -/

/-- What the market reads of an inhabitant of the town. -/
structure Person where
  alive : Bool := true
  reputationBp : Int := 0
  status : JobStatus := .unemployed

instance : Worker Person where
  alive := Person.alive
  educationLevel _ := .none
  skillBp _ _ := 0
  reputationBp := Person.reputationBp
  signatureRank _ := 0
  healthBp _ := 10000
  energyBp _ := 10000
  practise agent _ _ := .ok (agent, .int 0)
  withStatus status agent := { agent with status }

/-- A firm of the town. -/
def townFirm (firmId : String) (account : AccountId) : FirmState where
  firmId
  name := firmId
  sector := "retail"
  placeId := "pl_1"
  founderId := "ag_b"
  ledgerAccountId := account
  productivityBp := 10000

/-- Two firms and two inhabitants, "ag_b" of the better reputation. -/
def town : Market Person Unit where
  sim := {
    economy := {
      ledger := { runId := "run" }
      exchange := {}
      ventures := {}
      firms := ((∅ : Dict String FirmState).put "fm_1" (townFirm "fm_1"
          ⟨.dep, "fm_1", some "bk_1", none, by decide, ofFirstBank, ofNone, firstBank_isSome,
            none_isSome⟩)).put
        "fm_2" (townFirm "fm_2"
          ⟨.dep, "fm_2", some "bk_1", none, by decide, ofFirstBank, ofNone, firstBank_isSome,
            none_isSome⟩) }
    log := ⟨"run", []⟩ }
  population := ((∅ : Dict String Person).put "ag_a" {}).put "ag_b" { reputationBp := 500 }
  courts := ()

/-- The market of the town: clerks are sought, a vacancy shortlists as many as
it has positions. -/
def townMarket : LabourCtx Person Unit where
  settings := { labour := { shortlistMultiple := 1 } }
  occupations := (∅ : Dict String Occupation).put "clerk" ⟨"clerk", ∅, ∅, ∅⟩

/-- The state a call leaves. -/
def left {α : Type} (x : MarketM Person Unit α) (s : Market Person Unit) : Market Person Unit :=
  stateAfter (x s)

theorem returns_left {α : Type} {x : MarketM Person Unit α} {s : Market Person Unit}
    (h : (outcome (x s) fun _ => ()).isSome = true) : ∃ r, x s = .ok r (left x s) := by
  obtain ⟨_, h⟩ := Option.isSome_iff_exists.mp h
  obtain ⟨r, t, hrun, -⟩ := outcome_eq_some h
  refine ⟨r, ?_⟩
  unfold left
  rw [hrun]
  rfl

/-- A job of "ag_a" at "fm_1", from tick 1 on. -/
def clerkship : EmploymentState where
  employmentId := "emp_1"
  agentId := "ag_a"
  firmId := "fm_1"
  occupation := "clerk"
  wageCents := 100
  startedTick := 1
  matchScoreBp := 0

/-- The town with one job in it. -/
def staffedTown : Market Person Unit :=
  town.putEconomy { town.sim.economy with
    employments := (∅ : Dict String EmploymentState).put "emp_1" clerkship }

/-- "ag_a" works. -/
def shiftAt (tick : Int) : MarketM Person Unit (Option Event) :=
  work townMarket "ag_a" ⟨"emp_1", 10000⟩ tick

theorem unstarted_staffedTown : Unstarted staffedTown := by
  intro key row hrow
  by_cases hkey : key = "emp_1"
  · subst hkey
    exact (Option.some.inj hrow).symm
  · have hnone : staffedTown.sim.economy.employments.get? key = none := by
      show ((∅ : Dict String EmploymentState).put "emp_1" clerkship).get? key = none
      rw [Dict.get?_put, if_neg hkey, Dict.get?_empty]
    rw [shifts, hnone] at hrow
    cases hrow

section Town

variable [Uuid5]

theorem shift_runs {Q : Market Person Unit → EmploymentState → Int → Prop}
    {s : Market Person Unit} {now : Int} {w : Earnings} (tick : Int) (employment : EmploymentState)
    (h : WorkRun townMarket Q staffedTown s now w) (htime : now ≤ tick)
    (hemployment : s.sim.economy.employments.get? "emp_1" = some employment)
    (hcan : CanWork employment "ag_a" tick) (hmeets : Q s employment tick)
    (hreturns : (outcome (shiftAt tick s) fun _ => ()).isSome = true) :
    WorkRun townMarket Q staffedTown (left (shiftAt tick) s) tick
      (w.after "emp_1" employment tick s (left (shiftAt tick) s)) := by
  obtain ⟨r, hrun⟩ := returns_left hreturns
  rcases work_spec townMarket hrun with ⟨-, -, hrefused⟩ | ⟨_, _, _, hsome, _⟩
  · exact absurd hcan (hrefused employment hemployment)
  · obtain ⟨event, rfl⟩ := Option.isSome_iff_exists.mp hsome
    exact .work "ag_a" ⟨"emp_1", 10000⟩ employment h htime hemployment hmeets hrun

end Town

theorem carry_forward_shift :
    letI : Uuid5 := ⟨fun run name => run ++ name⟩
    ∃ s w, WorkRun townMarket Unworked staffedTown s 5 w ∧ w.worked = [("emp_1", 5)] ∧
      w.worked.Nodup := by
  let _ : Uuid5 := ⟨fun run name => run ++ name⟩
  have hrun := shift_runs (Q := Unworked) 5 clerkship (.start 5) le_rfl
    (by decide +kernel) (by decide) (by simp [Unworked, clerkship]) (by decide +kernel)
  exact ⟨_, _, hrun, rfl,
    (carry_forward {} townMarket).2.2 _ _ _ _ unstarted_staffedTown hrun⟩

theorem shift_worked_twice :
    letI : Uuid5 := ⟨fun run name => run ++ name⟩
    ∃ s w, WorkRun townMarket (fun _ _ _ => True) staffedTown s 5 w ∧ Unstarted staffedTown ∧
      w.worked = [("emp_1", 5), ("emp_1", 5)] := by
  let _ : Uuid5 := ⟨fun run name => run ++ name⟩
  have hfirst := shift_runs (Q := fun _ _ _ => True) 5 clerkship (.start 5) le_rfl
    (by decide +kernel) (by decide) trivial (by decide +kernel)
  have hsecond := shift_runs 5 { clerkship with
      accrualRemainder := 1000000, lastWorkedTick := some 5, lastEffectiveLabourBp := 10000 }
    hfirst le_rfl (by decide +kernel) (by decide) trivial (by decide +kernel)
  exact ⟨_, _, hsecond, unstarted_staffedTown, rfl⟩

end Polis.Economy.Labour
