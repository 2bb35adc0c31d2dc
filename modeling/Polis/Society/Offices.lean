/-
  Polis.Society.Offices — who holds an office (`OfficeRegister`,
  `society/polity.py`).

  An election, an appointment and a succession all end in `assume`, which
  writes the row of one agent; `vacate` ends the term of one row.

  Main results:
    * `mem_holding` — an agent holds an office when its row is in its term.
    * `holding_of_le` — without a call of the register nobody takes office.
    * `length_holding_install` — how many hold an office after one more row.
-/
import Polis.Society.Elections

namespace Polis.Society

open Lib Lib.Effect Polis.Events

attribute [local instance] intOrder

def OFFICE_VACATED : Int := 12024
def APPOINTMENT_MADE : Int := 12040
def OFFICER_REMOVED : Int := 12041

/-- `_default_polity_offices`. -/
def defaultOffices : Dict String OfficeSettings :=
  Dict.ofList
    [("president", { termSimYears := some 4, salaryCents := 900000 }),
     ("council", { seats := 7, termSimYears := some 2, method := some .proportional,
                   salaryCents := 450000 }),
     ("judge", { seats := 2, termSimYears := some 6, salaryCents := 700000 }),
     ("police_chief", { salaryCents := 600000 }),
     ("cb_governor", { termSimYears := some 6, salaryCents := 800000 })]

/-! ## Reading the register -/

/-- The holders as a list: a sole holder is a list of one. -/
def Holder.members : Option Holder → List String
  | none => []
  | some (.one agentId) => [agentId]
  | some (.many agentIds) => agentIds

namespace OfficeState

/-- The row of an agent. -/
def rowOf (s : OfficeState) (office agentId : String) : Option (Int × Option Int × Int) :=
  (s.holders.getD office ∅).get? agentId

/-- The agents in their term, by identifier. -/
def holding (s : OfficeState) (office : String) (tick : Int) : List String :=
  (((s.holders.getD office ∅).entries.filter fun e => InTerm e.2 tick).map
    Prod.fst).insertionSort (· ≤ ·)

/-- `holder`. -/
def holder (cfg : PolitySettings) (s : OfficeState) (office : String) (tick : Int) :
    Except PyError (Option Holder) :=
  match s.holding office tick with
  | [] => .ok none
  | first :: rest =>
    match cfg.offices.get? office with
    | none => .error (.key office)
    | some o => .ok (some (if o.seats = 1 then .one first else .many (first :: rest)))

/-- The agents in their term, without one of them. -/
def others (s : OfficeState) (office agentId : String) (tick : Int) : List String :=
  (s.holding office tick).filter fun a => a ≠ agentId

theorem mem_holding {s : OfficeState} {office agentId : String} {tick : Int} :
    agentId ∈ s.holding office tick ↔ ∃ row, s.rowOf office agentId = some row ∧ InTerm row tick := by
  unfold holding rowOf
  rw [List.mem_insertionSort, List.mem_map]
  constructor
  · rintro ⟨⟨a, row⟩, he, rfl⟩
    obtain ⟨hmem, hterm⟩ := List.mem_filter.mp he
    exact ⟨row, Dict.mem_entries_iff.mp hmem, by simpa using hterm⟩
  · rintro ⟨row, hrow, hterm⟩
    refine ⟨(agentId, row), ?_, rfl⟩
    exact List.mem_filter.mpr ⟨Dict.mem_entries_iff.mpr hrow, by simpa using hterm⟩

theorem holding_nodup (s : OfficeState) (office : String) (tick : Int) :
    (s.holding office tick).Nodup := by
  unfold holding
  rw [(List.perm_insertionSort _ _).nodup_iff]
  exact List.Nodup.sublist (List.filter_sublist.map _) (s.holders.getD office ∅).nodup

theorem mem_others {s : OfficeState} {office agentId a : String} {tick : Int} :
    a ∈ s.others office agentId tick ↔ a ∈ s.holding office tick ∧ a ≠ agentId := by
  unfold others
  rw [List.mem_filter, decide_eq_true_iff]

theorem rowOf_install (s : OfficeState) (office agentId : String) (row : Int × Option Int × Int)
    (office' a : String) : (s.install office agentId row).rowOf office' a =
      if office' = office ∧ a = agentId then some row else s.rowOf office' a := by
  show (((s.holders.put office _).get? office').getD ∅).get? a = _
  rw [Dict.get?_put]
  by_cases hoffice : office' = office
  · subst hoffice
    rw [if_pos rfl]
    show ((s.holders.getD office' ∅).put agentId row).get? a = _
    rw [Dict.get?_put]
    simp only [true_and]
    rfl
  · rw [if_neg hoffice, if_neg fun h => hoffice h.1]
    rfl

theorem InTerm.of_le {row : Int × Option Int × Int} {now t : Int} (h : InTerm row t)
    (hstarted : row.1 ≤ now) (hle : now ≤ t) : InTerm row now := by
  refine ⟨hstarted, ?_⟩
  intro stop hstop
  have := h.2 stop hstop
  omega

theorem holding_of_le {s : OfficeState} {office : String} {now t : Int}
    (hstarted : ∀ agentId row, s.rowOf office agentId = some row → row.1 ≤ now) (hle : now ≤ t) :
    s.holding office t ⊆ s.holding office now := by
  intro a ha
  obtain ⟨row, hrow, hterm⟩ := mem_holding.mp ha
  exact mem_holding.mpr ⟨row, hrow, hterm.of_le (hstarted a row hrow) hle⟩

theorem length_holding_le {s : OfficeState} {office : String} {t : Int} {as : List String}
    (h : s.holding office t ⊆ as) : (s.holding office t).length ≤ as.length :=
  (List.subperm_of_subset (s.holding_nodup office t) h).length_le

theorem holding_install (s : OfficeState) (office agentId : String)
    (row : Int × Option Int × Int) (tick : Int) :
    (s.install office agentId row).holding office tick ⊆ agentId :: s.others office agentId tick := by
  intro a ha
  obtain ⟨row', hrow', hterm⟩ := mem_holding.mp ha
  rw [rowOf_install] at hrow'
  by_cases heq : a = agentId
  · rw [heq]
    exact List.mem_cons_self
  · rw [if_neg fun h => heq h.2] at hrow'
    exact List.mem_cons_of_mem _ (mem_others.mpr ⟨mem_holding.mpr ⟨row', hrow', hterm⟩, heq⟩)

theorem length_holding_install (s : OfficeState) (office agentId : String)
    (row : Int × Option Int × Int) (tick : Int) :
    ((s.install office agentId row).holding office tick).length
      ≤ (s.others office agentId tick).length + 1 :=
  length_holding_le (s.holding_install office agentId row tick)

theorem holding_install_of_ne {s : OfficeState} {office office' agentId : String}
    {row : Int × Option Int × Int} {tick : Int} (h : office' ≠ office) :
    (s.install office agentId row).holding office' tick ⊆ s.holding office' tick := by
  intro a ha
  obtain ⟨row', hrow', hterm⟩ := mem_holding.mp ha
  rw [rowOf_install, if_neg fun h' => h h'.1] at hrow'
  exact mem_holding.mpr ⟨row', hrow', hterm⟩

theorem holding_stop {s : OfficeState} {office agentId : String} {start tick salary : Int}
    (office' : String) :
    (s.install office agentId (start, some tick, salary)).holding office' tick
      ⊆ s.holding office' tick := by
  intro a ha
  obtain ⟨row', hrow', hterm⟩ := mem_holding.mp ha
  rw [rowOf_install] at hrow'
  split at hrow'
  · cases hrow'
    have hend : tick < tick := hterm.2 tick rfl
    omega
  · exact mem_holding.mpr ⟨row', hrow', hterm⟩

theorem mem_of_holder {cfg : PolitySettings} {s : OfficeState} {office agentId : String}
    {tick : Int} (h : s.holder cfg office tick = .ok (some (.one agentId))) :
    agentId ∈ s.holding office tick := by
  unfold holder at h
  split at h
  · cases h
  · rename_i first rest hrows
    rw [hrows]
    split at h
    · cases h
    · split at h
      · cases h
        exact List.mem_cons_self
      · cases h

theorem seats_of_holder {cfg : PolitySettings} {s : OfficeState} {office agentId : String}
    {tick : Int} {o : OfficeSettings}
    (h : s.holder cfg office tick = .ok (some (.one agentId)))
    (ho : cfg.offices.get? office = some o) : o.seats = 1 := by
  unfold holder at h
  rw [ho] at h
  split at h
  · cases h
  · dsimp only at h
    split at h
    · next hone => exact hone
    · cases h

end OfficeState

/-! ## Operations -/

/-- What an `OfficeRegister` is built with. -/
structure OfficeRegister where
  journal : Journal
  cfg : PolitySettings
  confirmation : String → String → ℚ := fun _ _ => 1

namespace OfficeRegister

variable {L : Type} [CanonicalJson Value] [Events.Sha256] [PayloadSchemas Value] [FloatValue]
  (R : OfficeRegister)

/-- `_emit`. -/
def emit (d : Draft) (tick : Int) : PolityM L (Events.Event Value) :=
  zoom PolityState.books PolityState.withBooks (Books.emit R.journal d tick)

/-- `assume`. -/
def assume (office agentId : String) (tick : Int) (via : String) (salaryCents : Int) :
    PolityM L (List (Events.Event Value)) :=
  match R.cfg.offices.get? office with
  | none => throw (.py (.key office))
  | some o => do
    let termEnd := o.termSimYears.map fun n => tick + R.journal.clock.ticksFor { years := n }
    modify (ElectionOffice.installed office agentId (tick, termEnd, salaryCents))
    let event ← R.emit
      (ElectionOffice.assumedDraft office agentId via tick termEnd salaryCents) tick
    pure [event]

/-- The reasons for which the council gives a president's successor. -/
def successionReasons : List String := ["death", "incarceration", "emigration"]

/-- The council member with most votes, the first of equals. -/
def successor (s : OfficeState) (tick : Int) : Except PyError (Option String) := do
  let council ← s.holder R.cfg "council" tick
  pure ((Holder.members council).argmin fun member => toLex (-(s.lastVotes.getD member 0), member))

/-- The successor of an office that is vacated. -/
def successorFor (s : OfficeState) (office reason : String) (tick : Int) :
    Except PyError (Option String) :=
  if office = "president" ∧ reason ∈ successionReasons then R.successor s tick else .ok none

/-- The event of a vacated office. -/
def vacatedDraft (office agentId reason : String) (successor : Option String) : Draft :=
  { kind := OFFICE_VACATED
    payload := [("office", .str office), ("agent_id", .str agentId), ("reason", .str reason),
      ("successor_id", Value.ofStr? successor)]
    subjectIds := agentId :: (successor.filter fun m => m ≠ "").toList }

/-- The register with the term of a row ended. -/
def stopped (s : OfficeState) (office agentId : String) (row : Int × Option Int × Int)
    (tick : Int) : OfficeState := s.install office agentId (row.1, some tick, row.2.2)

/-- `vacate`. -/
def vacate (office agentId reason : String) (tick : Int) :
    PolityM L (List (Events.Event Value)) := do
  let s ← get
  match s.offices.rowOf office agentId with
  | none => pure []
  | some row => do
    let offices := stopped s.offices office agentId row tick
    modify fun s => { s with offices := offices }
    let successor ← liftPy (R.successorFor offices office reason tick)
    let event ← R.emit (vacatedDraft office agentId reason successor) tick
    match successor with
    | none => pure [event]
    | some member =>
      match R.cfg.offices.get? "president" with
      | none => throw (.py (.key "president"))
      | some o => do
        let assumed ← R.assume "president" member tick "succession" o.salaryCents
        pure (event :: assumed)

/-- An appointment is confirmed. -/
def Confirmed (office appointeeId : String) : Prop :=
  office = "police_chief" ∨ 0 < R.confirmation office appointeeId

instance (office appointeeId : String) : Decidable (R.Confirmed office appointeeId) :=
  inferInstanceAs (Decidable (_ ∨ _))

/-- The event of an appointment. -/
def appointmentDraft (office appointeeId byId : String) : Draft :=
  { kind := APPOINTMENT_MADE
    payload := [("office", .str office), ("appointee_id", .str appointeeId),
      ("appointed_by", .str byId), ("confirmed", .bool (R.Confirmed office appointeeId)),
      ("confirm_margin", FloatValue.ofRat (R.confirmation office appointeeId))]
    actorId := some byId
    subjectIds := [appointeeId] }

/-- `appoint`. -/
def appoint (office appointeeId byId : String) (tick : Int) :
    PolityM L (List (Events.Event Value)) := do
  let event ← R.emit (R.appointmentDraft office appointeeId byId) tick
  if R.Confirmed office appointeeId then
    match R.cfg.offices.get? office with
    | none => throw (.py (.key office))
    | some o => do
      let assumed ← R.assume office appointeeId tick "appointment" o.salaryCents
      pure (event :: assumed)
  else pure [event]

/-- The event of an officer removed. -/
def removedDraft (office agentId byId : String) (margin : ℚ) : Draft :=
  { kind := OFFICER_REMOVED
    payload := [("office", .str office), ("agent_id", .str agentId), ("removed_by", .str byId),
      ("margin", FloatValue.ofRat margin), ("reason", .str "council_removal")]
    actorId := some byId
    subjectIds := [agentId] }

/-- `remove`; a governor of the central bank is removed by five of seven votes
only. -/
def remove (office agentId byId : String) (margin : ℚ) (tick : Int) :
    PolityM L (List (Events.Event Value)) :=
  if office = "cb_governor" ∧ margin < 5 / 7 then pure []
  else do
    let event ← R.emit (removedDraft office agentId byId margin) tick
    let vacated ← R.vacate office agentId "removal" tick
    pure (event :: vacated)

end OfficeRegister

end Polis.Society
