/-
  Polis.Economy.Labour.Jobs — the rolls of the labour market.

  The rolls are the four collections, the headcounts of the firms and the
  vacancies posted.  `rolls` reads them off the economy and its log; most of
  what the market calls leaves them.

  Main results:
    * `emit_eq_ok` — an emission adds to the vacancies posted, or to nothing.
    * `emit_quiet`, `onSim_quiet` — what leaves the rolls.
-/
import Polis.Economy.Labour.Market
import Polis.Lib.Runs

namespace Polis.Economy.Labour

open Lib Lib.Effect Lib.Runs

/-- The labour collections, the id and headcount of every firm, and the
vacancies posted with their headcounts. -/
structure Rolls where
  vacancies : Dict String VacancyState
  applications : Dict String ApplicationState
  offers : Dict String OfferState
  employments : Dict String EmploymentState
  staff : Dict String (String × Int)
  posted : List (String × Int)

section Reading

variable {A G : Type}

/-- The rolls of a state. -/
def rolls (s : Market A G) : Rolls where
  vacancies := s.sim.economy.vacancies
  applications := s.sim.economy.applications
  offers := s.sim.economy.offers
  employments := s.sim.economy.employments
  staff := s.sim.economy.firms.mapValues fun _ f => (f.firmId, f.headcount)
  posted := s.sim.log.events.filterMap posting?

/-- The rolls stay. -/
def Quiet (s s' : Market A G) : Prop := rolls s' = rolls s

theorem quiet_refl (s : Market A G) : Quiet s s := rfl

theorem quiet_trans (a b c : Market A G) (h : Quiet a b) (h' : Quiet b c) : Quiet a c :=
  Eq.trans h' h

/-! ## The primitives -/

theorem economyNow_eq_ok {s s' : Market A G} {e : EconomyState} :
    economyNow s = .ok e s' ↔ e = s.sim.economy ∧ s = s' := by
  unfold economyNow
  rw [onSim_eq_ok]
  constructor
  · rintro ⟨sim, h, rfl⟩
    obtain ⟨rfl, rfl⟩ := Sim.economyNow_eq_ok.mp h
    exact ⟨rfl, rfl⟩
  · rintro ⟨rfl, rfl⟩
    exact ⟨s.sim, Sim.economyNow_eq_ok.mpr ⟨rfl, rfl⟩, rfl⟩

/-- The state with another economy. -/
def Market.putEconomy (s : Market A G) (e : EconomyState) : Market A G :=
  { s with sim := { s.sim with economy := e } }

theorem modifyEconomy_eq_ok {f : EconomyState → EconomyState} {s s' : Market A G} {u : Unit} :
    modifyEconomy f s = .ok u s' ↔ s' = s.putEconomy (f s.sim.economy) := by
  unfold modifyEconomy
  rw [onSim_eq_ok]
  constructor
  · rintro ⟨sim, h, rfl⟩
    rw [Sim.modifyEconomy_eq_ok.mp h]
    rfl
  · rintro rfl
    exact ⟨_, Sim.modifyEconomy_eq_ok.mpr rfl, rfl⟩

theorem agentAt_eq_ok {agentId : String} {s s' : Market A G} {agent : A} :
    agentAt agentId s = .ok agent s' ↔ s.population.get? agentId = some agent ∧ s = s' := by
  unfold agentAt
  rw [get_bind, orRaise_eq_ok]

theorem emit_eq_ok {tick : Int} {kind : EventKind} {payload : List (String × Value)}
    {actorId : Option String} {subjectIds : List String} {s s' : Market A G} {event : Event}
    (h : emit tick kind payload actorId subjectIds s = .ok event s') :
    event.draft = ⟨kind, payload, actorId, subjectIds⟩ ∧
      rolls s' = { rolls s with posted := (rolls s).posted ++ (posting? event).toList } := by
  obtain ⟨sim, hsim, rfl⟩ := onSim_eq_ok.mp h
  obtain ⟨_, _, h₁, hsim⟩ := bind_eq_ok.mp hsim
  obtain ⟨rfl, rfl⟩ := get_eq_ok.mp h₁
  obtain ⟨_, _, h₁, hsim⟩ := bind_eq_ok.mp hsim
  have h₁ := set_eq_ok.mp h₁
  obtain ⟨rfl, rfl⟩ := pure_eq_ok.mp hsim
  subst h₁
  refine ⟨rfl, ?_⟩
  unfold rolls
  simp only [List.filterMap_append]
  congr 2

theorem emit_quiet {tick : Int} {kind : EventKind} (hkind : kind ≠ .vacancyPosted)
    (payload : List (String × Value)) (actorId : Option String) (subjectIds : List String) :
    Within Quiet (emit tick kind payload actorId subjectIds : MarketM A G Event) := by
  intro s event s' h
  obtain ⟨hdraft, hrolls⟩ := emit_eq_ok h
  have hnone : posting? event = none := by
    unfold posting?
    rw [hdraft, if_neg hkind]
  rw [hnone] at hrolls
  show rolls s' = rolls s
  rw [hrolls]
  simp

theorem economyNow_quiet : Within Quiet (economyNow : MarketM A G EconomyState) := by
  intro s e s' h
  obtain ⟨-, rfl⟩ := economyNow_eq_ok.mp h
  exact quiet_refl s

theorem agentAt_quiet (agentId : String) : Within Quiet (agentAt agentId : MarketM A G A) := by
  intro s agent s' h
  obtain ⟨-, rfl⟩ := agentAt_eq_ok.mp h
  exact quiet_refl s

theorem writeAgent_quiet (agentId : String) (f : A → A) :
    Within Quiet (writeAgent agentId f : MarketM A G Unit) :=
  within_modify fun _ => rfl

theorem leavesLabour_refl (s : Sim) : LeavesLabour s s := ⟨rfl, rfl, rfl, rfl, rfl, rfl⟩

theorem leavesLabour_trans (a b c : Sim) (h : LeavesLabour a b) (h' : LeavesLabour b c) :
    LeavesLabour a c where
  vacancies_eq := h'.vacancies_eq.trans h.vacancies_eq
  applications_eq := h'.applications_eq.trans h.applications_eq
  offers_eq := h'.offers_eq.trans h.offers_eq
  employments_eq := h'.employments_eq.trans h.employments_eq
  firms_eq := h'.firms_eq.trans h.firms_eq
  postings_eq := h'.postings_eq.trans h.postings_eq

theorem LeavesLabour.quiet {s : Market A G} {sim : Sim} (h : LeavesLabour s.sim sim) (courts : G) :
    Quiet s { s with courts, sim } := by
  unfold Quiet rolls
  simp only [h.vacancies_eq, h.applications_eq, h.offers_eq, h.employments_eq, h.firms_eq,
    h.postings_eq]

theorem onSim_quiet {α : Type} {x : EngineM α} (hx : Within LeavesLabour x) :
    Within Quiet (onSim x : MarketM A G α) := by
  intro s a s' h
  obtain ⟨sim, hsim, rfl⟩ := onSim_eq_ok.mp h
  exact (hx _ _ _ hsim).quiet s.courts

theorem onLedger_leaves {α : Type} (x : LedgerM α) : Within LeavesLabour (Sim.onLedger x) := by
  intro s a s' h
  obtain ⟨L, -, rfl⟩ := Sim.onLedger_eq_ok.mp h
  exact ⟨rfl, rfl, rfl, rfl, rfl, rfl⟩

end Reading

end Polis.Economy.Labour
