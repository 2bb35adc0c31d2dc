/-
  Polis.Economy.Labour.Market — vacancies, applications, offers, employments
  and the payroll (`economy/labour.py`).

  The market writes the economy and the agents.  What it computes of an agent
  in floating point (skills and their practice, reputation, health, energy) is
  a parameter, `Worker`; so are the penalties of the courts, with a state of
  their own.

  Main results:
    * `onSim_eq_ok` — a step on the economy and the log changes nothing else.
-/
import Polis.Economy.Sim

namespace Polis.Economy.Labour

open Lib Lib.Effect

/-! ## Agents and occupations -/

/-- `EducationLevel`. -/
inductive Education where
  | none | primary | secondary | tertiary | graduate
  deriving Repr, DecidableEq

/-- The employment statuses the market writes. -/
inductive JobStatus where
  | employed | unemployed
  deriving Repr, DecidableEq

/-- What the market reads of an agent and writes to it. -/
class Worker (A : Type) where
  alive : A → Bool
  educationLevel : A → Education
  /-- `_skill_bp(agent, skill)`. -/
  skillBp : A → String → Int
  /-- `int(2_000 * (agent.reputation - 0.5))`. -/
  reputationBp : A → Int
  /-- The position of `_candidate_signature(agent)` among the signatures. -/
  signatureRank : A → Nat
  /-- `int(agent.health * 10_000)`. -/
  healthBp : A → Int
  /-- `int(agent.needs.energy * 10_000)`. -/
  energyBp : A → Int
  /-- A skill practised at an intensity: the agent after it, and the change
  rounded to eight digits. -/
  practise : A → (skill : String) → (intensity : Int) → Except PyError (A × Value)
  /-- `agent.employment_status = status`. -/
  withStatus : JobStatus → A → A

/-- `SKILLS`. -/
def SKILLS : List String :=
  ["manual", "operations", "sales", "finance", "engineering", "research", "law", "medicine",
    "teaching", "writing", "design", "management", "negotiation", "persuasion"]

/-- `Occupation`. -/
structure Occupation where
  id : String
  requirements : Dict String Int
  intensity : Dict String Int
  weights : Dict String Int

section Scores

variable {A : Type} [Worker A]

/-- `skill_value_bp(agent, occupation)`. -/
def skillValueBp (agent : A) (occupation : Occupation) : Int :=
  let weightSum := occupation.weights.values.sum
  if weightSum ≤ 0 then 10000
  else (SKILLS.map fun skill => occupation.weights.getD skill 0 * Worker.skillBp agent skill).sum
    / weightSum

end Scores

/-! ## Rows -/

/-- `redundancy_order(employments, tick=)`. -/
def redundancyOrder (employments : List EmploymentState) (tick : Int) : List EmploymentState :=
  sortedBy (fun row => toLex
    (row.matchScoreBp * Nat.sqrt (max 1 (tick - row.startedTick + 1)).toNat,
      toLex (row.startedTick, row.employmentId))) employments

/-- The tax of the bands from one floor to the next. -/
def bandTaxes (annual : Int) : List (Int × Int) → Int
  | [] => 0
  | (floor, rateBp) :: rest =>
    let ceiling := match rest with
      | (next, _) :: _ => next
      | [] => annual
    let tax := bp (max 0 (min annual ceiling - floor)) rateBp
    if annual ≤ ceiling then tax else tax + bandTaxes annual rest

/-- `progressive_income_tax_cents(gross, brackets, periods_per_year=)`. -/
def progressiveIncomeTaxCents (grossCents : Int) (brackets : List (Int × Int))
    (periodsPerYear : Int := 24) : Int :=
  if grossCents ≤ 0 then 0
  else bandTaxes (grossCents * periodsPerYear) (sortedBy toLex brackets) / periodsPerYear

/-! ## State -/

/-- The economy and its log, the agents, and the state of the courts. -/
structure Market (A G : Type) where
  sim : Sim
  population : Dict String A
  courts : G

/-- A method of the labour market. -/
abbrev MarketM (A G : Type) := EStateM PyError (Market A G)

section State

variable {A G : Type}

/-- A step on the economy and the log. -/
def onSim {α : Type} (x : EngineM α) : MarketM A G α :=
  zoom Market.sim (fun s sim => { s with sim }) x

/-- The economy. -/
def economyNow : MarketM A G EconomyState := onSim Sim.economyNow

/-- Write the economy. -/
def modifyEconomy (f : EconomyState → EconomyState) : MarketM A G Unit :=
  onSim (Sim.modifyEconomy f)

/-- `emit(draft)`. -/
def emit (tick : Int) (kind : EventKind) (payload : List (String × Value))
    (actorId : Option String := none) (subjectIds : List String := []) : MarketM A G Event :=
  onSim (Sim.emit tick kind payload actorId subjectIds)

/-- `population[agent_id]`. -/
def agentAt (agentId : String) : MarketM A G A := do
  let s ← get
  orRaise (s.population.get? agentId) (.key agentId)

/-- Write an agent. -/
def writeAgent (agentId : String) (f : A → A) : MarketM A G Unit :=
  modify fun s => { s with population := s.population.modify agentId f }

theorem onSim_eq_ok {α : Type} {x : EngineM α} {s s' : Market A G} {a : α} :
    onSim x s = .ok a s' ↔ ∃ sim, x s.sim = .ok a sim ∧ { s with sim } = s' := zoom_eq_ok

end State

/-! ## Actions -/

/-- `WorkParams`. -/
structure WorkParams where
  employmentId : String
  effortBp : Int := 10000

/-! ## The market -/

/-- The vacancy and the headcount an event posts. -/
def posting? (event : Event) : Option (String × Int) :=
  if event.draft.kind = .vacancyPosted then
    match event.draft.payload.lookup "vacancy_id", event.draft.payload.lookup "headcount" with
    | some (.str vacancyId), some (.int headcount) => some (vacancyId, headcount)
    | _, _ => none
  else none

/-- The labour rows, the firms and the postings of the log stay. -/
structure LeavesLabour (s s' : Sim) : Prop where
  vacancies_eq : s'.economy.vacancies = s.economy.vacancies
  applications_eq : s'.economy.applications = s.economy.applications
  offers_eq : s'.economy.offers = s.economy.offers
  employments_eq : s'.economy.employments = s.economy.employments
  firms_eq : s'.economy.firms = s.economy.firms
  postings_eq : s'.log.events.filterMap posting? = s.log.events.filterMap posting?

/-- What a `LabourMarket` is built from.  Garnishment pays creditors out of a
deposit and stages what it collected; it writes no labour row. -/
structure LabourCtx (A G : Type) where
  settings : Settings := {}
  occupations : Dict String Occupation := ∅
  /-- `world.place(place_id).district_id`. -/
  districtOf : (placeId : String) → Except PyError String := fun _ => .ok ""
  word : (stream entity : String) → (tick : Int) → (counter : Nat) → Nat := fun _ _ _ _ => 0
  /-- `garnishment.garnish(agent_id, net, tick)`. -/
  garnish : Option ((agentId : String) → (netCents tick : Int) → EStateM PyError (G × Sim) Unit) :=
    none
  /-- `round(wage * wage_penalty.wage_multiplier(agent_id))`. -/
  penalised : Option (G → (agentId : String) → (wageCents : Int) → Int) := none
  garnish_leaves : ∀ f, garnish = some f → ∀ agentId netCents tick g s g' s',
    f agentId netCents tick (g, s) = .ok () (g', s') → LeavesLabour s s' := by
      intro f hf
      cases hf

section Methods

variable {A G : Type} [Worker A] (m : LabourCtx A G)

/-- `_work(action)`. -/
def work (actorId : String) (p : WorkParams) (tick : Int) : MarketM A G (Option Event) := do
  let e ← economyNow
  match e.employments.get? p.employmentId with
  | none => pure none
  | some employment =>
    if employment.agentId ≠ actorId ∨ tick < employment.startedTick ∨ employment.endedTick ≠ none
    then pure none
    else do
      let agent ← agentAt actorId
      let occupation ← orRaise (m.occupations.get? employment.occupation)
        (.key employment.occupation)
      let hours := employment.hoursBp
      let effort := max 0 (min p.effortBp (min (Worker.healthBp agent) (Worker.energyBp agent)))
      let effective := hours * effort * skillValueBp agent occupation / 100000000
      let period := 10000 * max 1 (14 * m.settings.clock.ticksPerSimDay)
      let numerator := employment.wageCents * hours + employment.accrualRemainder
      modifyEconomy fun e => { e with
        employments := e.employments.modify p.employmentId fun row => { row with
          accrualRemainder := numerator % period
          accruedWageCents := row.accruedWageCents + numerator / period
          lastWorkedTick := some tick
          lastEffectiveLabourBp := effective } }
      let deltas ← gather (fun (skill, intensity) => do
        let agent ← agentAt actorId
        let (agent, delta) ← liftE (Worker.practise agent skill intensity)
        writeAgent actorId fun _ => agent
        modifyEconomy fun e => { e with
          skillLastUsedTick := e.skillLastUsedTick.put actorId
            ((e.skillLastUsedTick.getD actorId ∅).put skill tick) }
        pure [(skill, delta)]) occupation.intensity.entries
      let event ← emit tick .workPerformed
        [("employment_id", .str p.employmentId), ("agent_id", .str actorId),
          ("firm_id", .str employment.firmId), ("hours_bp", .int hours), ("effort_bp", .int effort),
          ("effective_labour_bp", .int effective), ("skill_deltas", .dict deltas)]
        (some actorId) [employment.firmId]
      pure (some event)

/-! ### Payroll -/

/-- `payroll_due(tick)`. -/
def payrollDue (tick : Int) : Except PyError Bool :=
  if tick % m.settings.clock.ticksPerSimDay ≠ 0 then .ok false
  else if m.settings.clock.daysPerSimYear = 0 then .error .zeroDivision
  else
    let day := Int.fmod (tick / m.settings.clock.ticksPerSimDay - 1)
      m.settings.clock.daysPerSimYear + 1
    .ok (day ∈ m.settings.labour.payroll.days)

/-- `_deposit_account(owner_id, tick)`: the first open deposit, else a new one
at the first active commercial bank. -/
def depositAccount (ownerId : String) (tick : Int) : EngineM AccountId := do
  let e ← Sim.economyNow
  match (e.ledger.accountsOf ownerId).find? fun a => a.code = .dep ∧ e.ledger.isOpen a with
  | some a => pure a
  | none =>
    let bankIds := (e.banks.values.filter fun b => ¬b.isCentral ∧ b.status = .active).map
      BankState.bankId
    match bankIds.min? with
    | none =>
      throw (.ledger "payroll cannot open a deposit without an active commercial bank")
    | some bankId =>
      Sim.onLedger (Ledger.openAccount .dep ownerId "agent" (some bankId) none tick)

/-- `treasury = "dep:gv_treasury@bk_cb"`. -/
def treasury : AccountId :=
  ⟨.dep, "gv_treasury", some "bk_cb", none, by decide, by simp; decide, ofNone, rfl, none_isSome⟩

/-- What the payroll of one firm adds up. -/
structure Payroll where
  events : List Event := []
  txnIds : List UUID := []
  paidGross : Int := 0
  paidTax : Int := 0
  employerTax : Int := 0
  unpaid : List String := []
  deadWriteOff : Int := 0

/-- The wages of a tick with one more. -/
def addIncome (incomes : Dict Int (Dict String Int)) (tick : Int) (agentId : String) (gross : Int) :
    Dict Int (Dict String Int) :=
  let row := incomes.getD tick ∅
  incomes.put tick (row.put agentId (row.getD agentId 0 + gross))

section Payroll

variable [Uuid5]

/-- The legs of one wage. -/
def wageLegs (firm : FirmState) (agentId : String) (net taxTotal tick : Int) :
    EngineM (List Leg) := do
  let wage ←
    if net ≠ 0 then do
      let deposit ← depositAccount agentId tick
      liftE (Ledger.transfer firm.ledgerAccountId deposit net "wage")
    else pure []
  let tax ← liftE (legsIf (taxTotal ≠ 0)
    (Ledger.transfer firm.ledgerAccountId treasury taxTotal "tax"))
  pure (wage ++ tax)

/-- One wage is paid: the event, the transaction and the garnishment. -/
def payWage (firm : FirmState) (employment : EmploymentState) (net incomeTax employerTax tick : Int) :
    MarketM A G (Event × UUID) := do
  let expected ← onSim (Sim.nextTxnId tick)
  let wageEvent ← emit tick .wagePaid
    [("employment_id", .str employment.employmentId), ("agent_id", .str employment.agentId),
      ("firm_id", .str employment.firmId), ("gross_cents", .int employment.accruedWageCents),
      ("income_tax_cents", .int incomeTax), ("net_cents", .int net),
      ("hours_bp", .int employment.hoursBp), ("txn_id", .str expected)]
    (some firm.firmId) [employment.agentId]
  let legs ← onSim (wageLegs firm employment.agentId net (incomeTax + employerTax) tick)
  let txnId ← onSim (Sim.post (combineLegs legs) tick wageEvent)
  require (txnId = expected) (.runtime "payroll transaction ordinal diverged")
  match m.garnish with
  | some garnish =>
    runIf (net ≠ 0) (zoom (fun s : Market A G => (s.courts, s.sim))
      (fun s t => { s with courts := t.1, sim := t.2 }) (garnish employment.agentId net tick))
  | none => pure ()
  pure (wageEvent, txnId)

/-- One employment of a firm's payroll. -/
def payEmployment (firm : FirmState) (tick : Int) (t : Payroll) (key : String) :
    MarketM A G Payroll := do
  let e ← economyNow
  let employment ← orRaise (e.employments.get? key) (.key key)
  let gross := employment.accruedWageCents
  let agent ← agentAt employment.agentId
  if ¬Worker.alive agent then do
    let event ← emit tick .payrollShortfall
      [("firm_id", .str firm.firmId), ("required_cents", .int gross),
        ("available_cents", .int (e.ledger.liquid firm.firmId)),
        ("unpaid_employment_ids", .strs [employment.employmentId]),
        ("accrued_claim_cents", .int gross)]
      (some firm.firmId) [employment.agentId]
    modifyEconomy fun e => { e with
      employments := e.employments.modify key fun row => { row with accruedWageCents := 0 } }
    if employment.endedTick = none then
      modifyEconomy fun e => { e with
        employments := e.employments.modify key fun row => { row with endedTick := some tick }
        firms := e.firms.modify firm.firmId fun f => { f with headcount := max 0 (f.headcount - 1) } }
    pure { t with events := t.events ++ [event], deadWriteOff := t.deadWriteOff + gross }
  else
    let incomeTax := progressiveIncomeTaxCents gross m.settings.treasury.tax.incomeBrackets
    let employerTax := bp gross m.settings.treasury.tax.payrollEmployerBp
    if e.ledger.liquid firm.firmId < gross + employerTax then
      pure { t with unpaid := t.unpaid ++ [employment.employmentId] }
    else do
      let (wageEvent, txnId) ← payWage m firm employment (gross - incomeTax) incomeTax employerTax tick
      modifyEconomy fun e => { e with
        employments := e.employments.modify key fun row =>
          { row with totalPaidCents := row.totalPaidCents + gross, accruedWageCents := 0 }
        grossIncomeByTick := addIncome e.grossIncomeByTick tick employment.agentId gross
        grossWagesByTick := addIncome e.grossWagesByTick tick employment.agentId gross
        firms := e.firms.modify firm.firmId fun f =>
          { f with cumulativeWageCents := f.cumulativeWageCents + gross } }
      pure { t with
        events := t.events ++ [wageEvent]
        txnIds := t.txnIds ++ [txnId]
        paidGross := t.paidGross + gross
        paidTax := t.paidTax + incomeTax
        employerTax := t.employerTax + employerTax }

/-- The rows of employments. -/
def rowsAt (e : EconomyState) : List String → Except PyError (List EmploymentState)
  | [] => .ok []
  | id :: ids => do
    let row ← match e.employments.get? id with
      | some row => .ok row
      | none => .error (.key id)
    let rest ← rowsAt e ids
    .ok (row :: rest)

omit [Uuid5] in
/-- One redundancy of `_layoff_for_shortfall`. -/
def layOff (firmId : String) (tick : Int) (employment : EmploymentState) :
    MarketM A G (List Event) := do
  modifyEconomy fun e => { e with
    employments := e.employments.modify employment.employmentId fun row =>
      { row with endedTick := some (tick + m.settings.labour.noticeTicks) } }
  let _ ← agentAt employment.agentId
  writeAgent employment.agentId (Worker.withStatus .unemployed)
  modifyEconomy fun e => { e with
    firms := e.firms.modify firmId fun f => { f with headcount := max 0 (f.headcount - 1) } }
  let event ← emit tick .fired
    [("employment_id", .str employment.employmentId), ("agent_id", .str employment.agentId),
      ("firm_id", .str firmId), ("reason", .str "redundancy"), ("severance_cents", .int 0),
      ("notice_ticks", .int m.settings.labour.noticeTicks)]
    (some firmId) [employment.agentId]
  pure [event]

omit [Uuid5] in
/-- `_layoff_for_shortfall(firm_id, unpaid, tick)`. -/
def layoffForShortfall (firmId : String) (unpaid : List String) (tick : Int) :
    MarketM A G (List Event) := do
  let e ← economyNow
  let firm ← orRaise (e.firms.get? firmId) (.key firmId)
  let rows ← liftE (rowsAt e unpaid)
  let candidates := redundancyOrder (rows.filter fun row => row.endedTick = none) tick
  if candidates = [] then pure []
  else do
    let fired ← gather (layOff m firmId tick) candidates
    let after ← economyNow
    let firmAfter ← orRaise (after.firms.get? firmId) (.key firmId)
    let batch ← emit tick .layoffBatch
      [("firm_id", .str firmId),
        ("employment_ids", .strs (candidates.map EmploymentState.employmentId)),
        ("headcount_before", .int firm.headcount), ("headcount_after", .int firmAfter.headcount),
        ("trigger", .str "payroll_shortfall")]
      (some firmId)
    pure (fired ++ [batch])

/-- The payroll of one firm. -/
def payFirm (tick : Int) (firm : FirmState) : MarketM A G (List Event) := do
  let e ← economyNow
  if e.ventures.bankruptcies.values.any fun case =>
      case.entityId = firm.firmId && case.status = .opened then pure []
  else do
    let employments := e.employments.entries.filter fun x =>
      x.2.firmId = firm.firmId && 0 < x.2.accruedWageCents
    let required := (employments.map fun x => x.2.accruedWageCents).sum
    let t ← foldEff (payEmployment m firm tick) {}
      ((sortedBy (fun x => x.2.employmentId) employments).map Prod.fst)
    let shortfall ← onlyIf (t.unpaid ≠ []) do
      let e' ← economyNow
      let rows ← liftE (rowsAt e' t.unpaid)
      let event ← emit tick .payrollShortfall
        [("firm_id", .str firm.firmId), ("required_cents", .int (required - t.deadWriteOff)),
          ("available_cents", .int (e.ledger.liquid firm.firmId)),
          ("unpaid_employment_ids", .strs t.unpaid),
          ("accrued_claim_cents", .int (rows.map EmploymentState.accruedWageCents).sum)]
        (some firm.firmId)
      let laidOff ← layoffForShortfall m firm.firmId t.unpaid tick
      pure (event :: laidOff)
    let run ← emit tick .payrollRun
      [("firm_id", .str firm.firmId),
        ("period_start_tick", .int (max 0 (tick - 14 * m.settings.clock.ticksPerSimDay))),
        ("period_end_tick", .int tick), ("n_employees", .int employments.length),
        ("gross_cents", .int t.paidGross), ("income_tax_cents", .int t.paidTax),
        ("employer_tax_cents", .int t.employerTax), ("net_cents", .int (t.paidGross - t.paidTax)),
        ("txn_ids", .strs t.txnIds)]
      (some firm.firmId)
    pure (t.events ++ shortfall ++ [run])

/-- `run_payroll(tick)`. -/
def runPayroll (tick : Int) : MarketM A G (List Event) := do
  let due ← liftE (payrollDue m tick)
  if ¬due then pure []
  else do
    let e ← economyNow
    gather (payFirm m tick) (sortedBy FirmState.firmId e.firms.values)

end Payroll

end Methods

end Polis.Economy.Labour
