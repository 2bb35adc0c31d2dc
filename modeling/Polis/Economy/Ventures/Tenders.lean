/-
  Polis.Economy.Ventures.Tenders — tender offers (`economy/ventures.py`).

  A tender stores how many shares its holder accepts for and is never looked at
  again: `_tender` adds up what was accepted, not what the holders still own.
  Shares that are passed on after a tender and tendered by their next holder
  count twice.

  Main results:
    * `tender_eq_ok` — a tender is ignored, stored, or approves its deal.
    * `Covered.tender` — a stored tender is covered by its holder's shares.
    * `approvals_live` — in every run that leaves open acceptances covered, an
      approval counts live shares only.
-/
import Polis.Economy.Ventures.CapTable
import Polis.Economy.Estate.Interests

namespace Polis.Economy.Ventures

open Lib Lib.Effect Sim

/-! ## The engine -/

/-- The thresholds of `VentureSettings` an acquisition is decided by. -/
structure ApprovalSettings where
  acquisitionThresholdBp : Int := 5001
  dragAlongBp : Int := 7500
  squeezeOutBp : Int := 9000

/-- The shares of the rows. -/
def totalShares (rows : List CapTableState) : Int := (rows.map CapTableState.shares).sum

/-- The shares of one holder. -/
def sharesHeld (rows : List CapTableState) (holderId : String) : Int :=
  totalShares (rows.filter fun row => row.holderId = holderId)

/-- The acceptances of a deal with one more tender. -/
def accepted (deal : AcquisitionState) (actorId : String) (qty : Int) : Dict String Int :=
  deal.acceptingHolders.put actorId (max qty (deal.acceptingHolders.getD actorId 0))

/-- What `_tender` takes for the accepting share of all shares. -/
def acceptingBp (rows : List CapTableState) (holders : Dict String Int) : Int :=
  10000 * min (totalShares rows) holders.values.sum / max 1 (totalShares rows)

/-- A deal whose acceptances reach the threshold. -/
def approvedDeal (cfg : ApprovalSettings) (isPublic : Bool) (bp : Int) (deal : AcquisitionState) :
    AcquisitionState :=
  { deal with
    acceptingBp := bp
    dragAlongApplied := !isPublic && cfg.dragAlongBp ≤ bp
    squeezeOutApplied := isPublic && cfg.squeezeOutBp ≤ bp
    status := .approved }

/-- Write a deal. -/
def putDeal (dealId : String) (deal : AcquisitionState) (e : EconomyState) : EconomyState :=
  { e with ventures := { e.ventures with
      acquisitions := e.ventures.acquisitions.put dealId deal } }

/-- The event of an approval. -/
def approvalPayload (cfg : ApprovalSettings) (deal : AcquisitionState) : List (String × Value) :=
  [("deal_id", .str deal.dealId), ("accepting_holders", .ints deal.acceptingHolders.sortedEntries),
    ("accepting_bp", .int deal.acceptingBp), ("threshold_bp", .int cfg.acquisitionThresholdBp),
    ("drag_along_applied", .bool deal.dragAlongApplied),
    ("squeeze_out_applied", .bool deal.squeezeOutApplied)]

/-- `_tender(action)` with the `deal_id` of the action, empty when it gives
none; `complete` stands for `_complete_acquisition`. -/
def tender (cfg : ApprovalSettings) (complete : AcquisitionState → Int → EngineM (List Event))
    (actorId dealId : String) (qty tick : Int) : EngineM (List Event) := do
  let e ← economyNow
  match if dealId = "" then none else e.ventures.acquisitions.get? dealId with
  | none => pure []
  | some deal =>
    if deal.status ≠ .proposed ∨ deal.expiresTick < tick then pure []
    else
      let rows := acquisitionEquityRows e deal.targetId
      let qty := min (sharesHeld rows actorId) qty
      if qty ≤ 0 then pure []
      else
        let deal := { deal with acceptingHolders := accepted deal actorId qty }
        modifyEconomy (putDeal dealId deal)
        let bp := acceptingBp rows deal.acceptingHolders
        if bp < cfg.acquisitionThresholdBp then pure []
        else
          let deal := approvedDeal cfg (listedSymbol e.exchange deal.targetId).isSome bp deal
          let approved ← emit tick .acquisitionApproved (approvalPayload cfg deal) none
            [deal.acquirerId, deal.targetId]
          modifyEconomy (putDeal dealId deal)
          let completed ← complete deal tick
          pure (approved :: completed)

/-! ## What a tender does -/

section Cases

variable {cfg : ApprovalSettings} {complete : AcquisitionState → Int → EngineM (List Event)}
  {actorId dealId : String} {qty tick : Int} {s s' : Sim} {events : List Event}

/-- A tender the engine counts: an open deal, and shares its holder owns. -/
structure Tendered (s : Sim) (actorId dealId : String) (tick : Int) (deal : AcquisitionState)
    (q : Int) : Prop where
  deal_at : s.economy.ventures.acquisitions.get? dealId = some deal
  proposed : deal.status = .proposed
  in_time : tick ≤ deal.expiresTick
  pos : 0 < q
  owned : q ≤ sharesHeld (acquisitionEquityRows s.economy deal.targetId) actorId

/-- The deal with the tender stored. -/
def storedDeal (deal : AcquisitionState) (actorId : String) (q : Int) : AcquisitionState :=
  { deal with acceptingHolders := accepted deal actorId q }

/-- An approval: what it records, announces and hands to the completion. -/
structure Approves (cfg : ApprovalSettings)
    (complete : AcquisitionState → Int → EngineM (List Event)) (dealId : String) (tick : Int)
    (s s' : Sim) (deal : AcquisitionState) (events : List Event) : Prop where
  status_eq : deal.status = .approved
  threshold_le : cfg.acquisitionThresholdBp ≤ deal.acceptingBp
  bp_eq : deal.acceptingBp
    = acceptingBp (acquisitionEquityRows s.economy deal.targetId) deal.acceptingHolders
  drag : deal.dragAlongApplied = true → cfg.dragAlongBp ≤ deal.acceptingBp
  squeeze : deal.squeezeOutApplied = true → cfg.squeezeOutBp ≤ deal.acceptingBp
  goes_on : ∃ approved completed s₁, events = approved :: completed ∧
    approved.draft = ⟨.acquisitionApproved, approvalPayload cfg deal, none,
      [deal.acquirerId, deal.targetId]⟩ ∧
    s₁.economy.ventures.acquisitions.get? dealId = some deal ∧
    complete deal tick s₁ = .ok completed s'

theorem tender_eq_ok (h : tender cfg complete actorId dealId qty tick s = .ok events s') :
    (events = [] ∧ s' = s) ∨ ∃ deal q, Tendered s actorId dealId tick deal q ∧
      ((events = [] ∧
          s' = { s with economy := putDeal dealId (storedDeal deal actorId q) s.economy }) ∨
        ∃ approved, approved.acceptingHolders = accepted deal actorId q ∧
          approved.targetId = deal.targetId ∧
          Approves cfg complete dealId tick s s' approved events) := by
  unfold tender at h
  obtain ⟨_, _, h₁, h⟩ := bind_eq_ok.mp h
  obtain ⟨rfl, rfl⟩ := economyNow_eq_ok.mp h₁
  cases hdeal : (if dealId = "" then none else s.economy.ventures.acquisitions.get? dealId) with
  | none =>
    rw [hdeal] at h
    obtain ⟨rfl, rfl⟩ := pure_eq_ok.mp h
    exact .inl ⟨rfl, rfl⟩
  | some deal =>
    rw [hdeal] at h
    have hat : s.economy.ventures.acquisitions.get? dealId = some deal := by
      split_ifs at hdeal
      exact hdeal
    dsimp only at h
    rcases ite_eq_ok.mp h with ⟨-, h⟩ | ⟨hopen, h⟩
    · obtain ⟨rfl, rfl⟩ := pure_eq_ok.mp h
      exact .inl ⟨rfl, rfl⟩
    rw [not_or, not_not, not_lt] at hopen
    rcases ite_eq_ok.mp h with ⟨-, h⟩ | ⟨hpos, h⟩
    · obtain ⟨rfl, rfl⟩ := pure_eq_ok.mp h
      exact .inl ⟨rfl, rfl⟩
    rw [not_le] at hpos
    right
    refine ⟨deal, _, ⟨hat, hopen.1, hopen.2, hpos, min_le_left _ _⟩, ?_⟩
    obtain ⟨_, s₁, h₁, h⟩ := bind_eq_ok.mp h
    have h₁ := modifyEconomy_eq_ok.mp h₁
    rcases ite_eq_ok.mp h with ⟨-, h⟩ | ⟨hbp, h⟩
    · obtain ⟨rfl, rfl⟩ := pure_eq_ok.mp h
      exact .inl ⟨rfl, h₁⟩
    right
    obtain ⟨approved, s₂, h₂, h⟩ := bind_eq_ok.mp h
    obtain ⟨_, s₃, h₃, h⟩ := bind_eq_ok.mp h
    have h₃ := modifyEconomy_eq_ok.mp h₃
    obtain ⟨completed, _, h₄, h⟩ := bind_eq_ok.mp h
    obtain ⟨rfl, rfl⟩ := pure_eq_ok.mp h
    refine ⟨approvedDeal cfg (listedSymbol s.economy.exchange deal.targetId).isSome _
      (storedDeal deal actorId _), rfl, rfl, ⟨rfl, not_lt.mp hbp, rfl, fun hd => ?_, fun hs => ?_,
      approved, completed, s₃, rfl, ?_, ?_, h₄⟩⟩
    · have hd := (Bool.and_eq_true_iff.mp hd).2
      exact of_decide_eq_true hd
    · have hs := (Bool.and_eq_true_iff.mp hs).2
      exact of_decide_eq_true hs
    · cases h₂
      rfl
    · rw [h₃]
      exact Dict.get?_put_self _ _ _

end Cases

/-! ## Live shares -/

/-- The accepting share of all shares, each holder counted for what it still
owns. -/
def liveBp (rows : List CapTableState) (holders : Dict String Int) : Int :=
  10000 * holders.total (fun holder qty => min qty (sharesHeld rows holder)) / totalShares rows

/-- Every acceptance of a deal that is still open is covered by its holder's
shares. -/
def Covered (e : EconomyState) (tick : Int) : Prop :=
  ∀ dealId deal, e.ventures.acquisitions.get? dealId = some deal → deal.status = .proposed →
    tick ≤ deal.expiresTick → ∀ holder qty, deal.acceptingHolders.get? holder = some qty →
      qty ≤ sharesHeld (acquisitionEquityRows e deal.targetId) holder

theorem total_live {rows : List CapTableState} {holders : Dict String Int}
    (h : ∀ holder qty, holders.get? holder = some qty → qty ≤ sharesHeld rows holder) :
    holders.total (fun holder qty => min qty (sharesHeld rows holder)) = holders.values.sum := by
  have hsame : holders.total (fun holder qty => min qty (sharesHeld rows holder))
      = holders.total fun _ qty => qty := by
    refine Dict.total_congr fun e he => ?_
    exact min_eq_left (h e.1 e.2 (Dict.mem_entries_iff.mp he))
  rw [hsame]
  rfl

theorem acceptingBp_le_liveBp {rows : List CapTableState} {holders : Dict String Int}
    (hpos : 0 < totalShares rows)
    (h : ∀ holder qty, holders.get? holder = some qty → qty ≤ sharesHeld rows holder) :
    acceptingBp rows holders ≤ liveBp rows holders := by
  unfold acceptingBp liveBp
  rw [total_live h, max_eq_right (by omega)]
  exact Int.ediv_le_ediv hpos (by have := min_le_right (totalShares rows) holders.values.sum; omega)

variable {cfg : ApprovalSettings} {complete : AcquisitionState → Int → EngineM (List Event)}
  {actorId dealId : String} {qty tick : Int} {s s' : Sim} {events : List Event}

theorem acquisitionEquityRows_pos {e : EconomyState} {firmId : String} :
    ∀ row ∈ acquisitionEquityRows e firmId, 0 < row.shares := by
  intro row hrow
  unfold acquisitionEquityRows at hrow
  cases hsymbol : listedSymbol e.exchange firmId with
  | none =>
    rw [hsymbol] at hrow
    have hfilter := (List.mem_filter.mp hrow).2
    exact of_decide_eq_true (Bool.and_eq_true_iff.mp hfilter).2
  | some symbol =>
    rw [hsymbol] at hrow
    obtain ⟨holding, hholding, rfl⟩ := List.mem_map.mp hrow
    have hfilter := (List.mem_filter.mp hholding).2
    exact of_decide_eq_true (Bool.and_eq_true_iff.mp hfilter).2

theorem sharesHeld_le {rows : List CapTableState} (h : ∀ row ∈ rows, 0 < row.shares)
    (holderId : String) : sharesHeld rows holderId ≤ totalShares rows := by
  unfold sharesHeld totalShares
  induction rows with
  | nil => exact le_rfl
  | cons row rows ih =>
    have hrow := h row List.mem_cons_self
    have hrest := ih fun r hr => h r (List.mem_cons_of_mem _ hr)
    by_cases hsame : row.holderId = holderId
    · rw [List.filter_cons_of_pos (by simpa using hsame)]
      simp only [List.map_cons, List.sum_cons]
      omega
    · rw [List.filter_cons_of_neg (by simpa using hsame)]
      simp only [List.map_cons, List.sum_cons]
      omega

theorem Tendered.covered {deal : AcquisitionState} {q : Int}
    (h : Tendered s actorId dealId tick deal q) (hcov : Covered s.economy tick) (holder : String)
    (n : Int) (hn : (accepted deal actorId q).get? holder = some n) :
    n ≤ sharesHeld (acquisitionEquityRows s.economy deal.targetId) holder := by
  have hold := hcov dealId deal h.deal_at h.proposed h.in_time
  have howned := h.owned
  have hpos := h.pos
  unfold accepted at hn
  rw [Dict.get?_put] at hn
  split_ifs at hn with hsame
  · cases hn
    subst hsame
    unfold Dict.getD
    cases hprev : deal.acceptingHolders.get? holder with
    | none =>
      show max q 0 ≤ _
      omega
    | some prev =>
      have := hold holder prev hprev
      show max q prev ≤ _
      omega
  · exact hold holder n hn

theorem Covered.tender {deal : AcquisitionState} {q : Int} (hcov : Covered s.economy tick)
    (h : Tendered s actorId dealId tick deal q) :
    Covered (putDeal dealId (storedDeal deal actorId q) s.economy) tick := by
  intro id d hd hproposed hin holder n hn
  have hd : (s.economy.ventures.acquisitions.put dealId (storedDeal deal actorId q)).get? id
      = some d := hd
  rw [Dict.get?_put] at hd
  split_ifs at hd
  · cases hd
    exact h.covered hcov holder n hn
  · exact hcov id d hd hproposed hin holder n hn

theorem Covered.later {e : EconomyState} {t t' : Int} (h : Covered e t) (ht : t ≤ t') :
    Covered e t' := fun id d hd hp hin => h id d hd hp (by omega)

/-! ## Runs -/

/-- A run of tenders interleaved with share transfers of any kind, at the tick
it has come to.  Transfers, and the completion of an approved deal, leave open
acceptances covered. -/
inductive TenderRun (cfg : ApprovalSettings)
    (complete : AcquisitionState → Int → EngineM (List Event)) (s₀ : Sim) (t₀ : Int) :
    Sim → Int → Prop where
  | start : TenderRun cfg complete s₀ t₀ s₀ t₀
  | tender {s s' : Sim} {t t' : Int} {actorId dealId : String} {qty : Int} {events : List Event}
      (h : TenderRun cfg complete s₀ t₀ s t) (ht : t ≤ t')
      (hrun : Ventures.tender cfg complete actorId dealId qty t' s = .ok events s')
      (hcovered : events ≠ [] → Covered s'.economy t') : TenderRun cfg complete s₀ t₀ s' t'
  | transfer {s s' : Sim} {t t' : Int} (h : TenderRun cfg complete s₀ t₀ s t) (ht : t ≤ t')
      (hcovered : Covered s'.economy t') : TenderRun cfg complete s₀ t₀ s' t'

theorem TenderRun.covered {s₀ : Sim} {t₀ t : Int} (h₀ : Covered s₀.economy t₀)
    (h : TenderRun cfg complete s₀ t₀ s t) : Covered s.economy t := by
  induction h with
  | start => exact h₀
  | tender _ ht hrun hcovered ih =>
    rcases tender_eq_ok hrun with ⟨-, rfl⟩ | ⟨deal, q, htendered, ⟨-, rfl⟩ | ⟨_, -, -, happroves⟩⟩
    · exact ih.later ht
    · exact (ih.later ht).tender htendered
    · obtain ⟨_, _, _, hevents, -⟩ := happroves.goes_on
      exact hcovered (by rw [hevents]; simp)
  | transfer _ _ hcovered _ => exact hcovered

/-- **Approvals count live shares**: in every run from a state without open
acceptances, a tender that approves its deal records no more than the accepting
holders still own, and drag-along and squeeze-out follow from that alone. -/
theorem approvals_live {s₀ : Sim} {t₀ t t' : Int} (h₀ : Covered s₀.economy t₀)
    (hrun : TenderRun cfg complete s₀ t₀ s t) (ht : t ≤ t')
    (h : tender cfg complete actorId dealId qty t' s = .ok events s') (hevents : events ≠ []) :
    ∃ deal, Approves cfg complete dealId t' s s' deal events ∧
      deal.acceptingBp
        ≤ liveBp (acquisitionEquityRows s.economy deal.targetId) deal.acceptingHolders ∧
      (deal.dragAlongApplied = true → cfg.dragAlongBp
        ≤ liveBp (acquisitionEquityRows s.economy deal.targetId) deal.acceptingHolders) ∧
      (deal.squeezeOutApplied = true → cfg.squeezeOutBp
        ≤ liveBp (acquisitionEquityRows s.economy deal.targetId) deal.acceptingHolders) := by
  have hcov : Covered s.economy t' := (hrun.covered h₀).later ht
  rcases tender_eq_ok h with ⟨hnil, -⟩ | ⟨deal, q, htendered, ⟨hnil, -⟩ | ⟨approved, hholders,
    htarget, happroves⟩⟩
  · exact absurd hnil hevents
  · exact absurd hnil hevents
  have hpos : 0 < totalShares (acquisitionEquityRows s.economy deal.targetId) := by
    have hheld := sharesHeld_le (@acquisitionEquityRows_pos s.economy deal.targetId) actorId
    have := htendered.pos
    have := htendered.owned
    omega
  have hlive : approved.acceptingBp
      ≤ liveBp (acquisitionEquityRows s.economy approved.targetId) approved.acceptingHolders := by
    rw [happroves.bp_eq, htarget, hholders]
    exact acceptingBp_le_liveBp hpos (htendered.covered hcov)
  exact ⟨approved, happroves, hlive, fun hd => (happroves.drag hd).trans hlive,
    fun hs => (happroves.squeeze hs).trans hlive⟩

theorem Covered.of_rows {e : EconomyState} {t : Int}
    (h : ∀ d ∈ e.ventures.acquisitions.entries, ∀ a ∈ d.2.acceptingHolders.entries,
      a.2 ≤ sharesHeld (acquisitionEquityRows e d.2.targetId) a.1) : Covered e t := by
  intro id deal hdeal _ _ holder qty hqty
  exact h (id, deal) (Dict.mem_entries_iff.mpr hdeal) (holder, qty) (Dict.mem_entries_iff.mpr hqty)

/-- An offer for "fm_a", of which "ag_a" owns forty shares and "ag_c" sixty. -/
def tenderMarket : Sim :=
  let deal : AcquisitionState := {
    dealId := "ma_1", acquirerId := "fm_b", targetId := "fm_a", offerCents := 1000,
    perShareCents := 10, consideration := "cash", stockRatioBp := 0, premiumBp := 0,
    integrationMode := "absorb", financing := "cash", proposedTick := 0, expiresTick := 720 }
  let ventures : VentureState := {
    capTable := Dict.ofList [
      ("fm_a:ag_a:common",
        { firmId := "fm_a", holderId := "ag_a", shareClass := "common", shares := 40 }),
      ("fm_a:ag_c:common",
        { firmId := "fm_a", holderId := "ag_c", shareClass := "common", shares := 60 })]
    acquisitions := Dict.ofList [("ma_1", deal)] }
  { Exchange.emptySim with economy := { Exchange.emptySim.economy with ventures } }

/-- A completion that does nothing. -/
def completesAtOnce (_ : AcquisitionState) (_ : Int) : EngineM (List Event) := pure []

theorem tender_status {deal deal' : AcquisitionState}
    (h : tender cfg completesAtOnce actorId dealId qty tick s = .ok events s')
    (hdeal : s.economy.ventures.acquisitions.get? dealId = some deal)
    (hopen : deal.status = .proposed)
    (hdeal' : s'.economy.ventures.acquisitions.get? dealId = some deal') :
    events = [] ↔ deal'.status = .proposed := by
  rcases tender_eq_ok h with ⟨rfl, rfl⟩ | ⟨before, q, htendered, ⟨rfl, rfl⟩ | ⟨approved, -, -,
    happroves⟩⟩
  · rw [hdeal] at hdeal'
    cases hdeal'
    simp [hopen]
  · have hput : (s.economy.ventures.acquisitions.put dealId (storedDeal before actorId q)).get?
        dealId = some deal' := hdeal'
    rw [Dict.get?_put_self] at hput
    cases hput
    have hstatus : (storedDeal before actorId q).status = .proposed := htendered.proposed
    simp [hstatus]
  · obtain ⟨event, rest, s₁, rfl, -, hat, hcompleted⟩ := happroves.goes_on
    obtain ⟨-, rfl⟩ := pure_eq_ok.mp hcompleted
    rw [hat] at hdeal'
    cases hdeal'
    simp [happroves.status_eq]

theorem approvals_live_inherited :
    ∃ s s' t' events deal, TenderRun {} completesAtOnce tenderMarket 0 s 2 ∧
      tender {} completesAtOnce "ag_b" "ma_1" 60 t' s = .ok events s' ∧
      Approves {} completesAtOnce "ma_1" t' s s' deal events ∧
      deal.acceptingBp
        ≤ liveBp (acquisitionEquityRows s.economy deal.targetId) deal.acceptingHolders := by
  have hstart : Covered tenderMarket.economy 0 := .of_rows (by decide)
  have hrun : outcome (tender {} completesAtOnce "ag_a" "ma_1" 40 1 tenderMarket) (fun s =>
      ((s.economy.ventures.acquisitions.get? "ma_1").map AcquisitionState.status,
      outcome (Estate.transferInterests "ag_c" [("ag_b", 1)] s) fun s =>
        ((s.economy.ventures.acquisitions.get? "ma_1").map AcquisitionState.status,
        decide (∀ d ∈ s.economy.ventures.acquisitions.entries,
          ∀ a ∈ d.2.acceptingHolders.entries,
            a.2 ≤ sharesHeld (acquisitionEquityRows s.economy d.2.targetId) a.1),
        outcome (tender {} completesAtOnce "ag_b" "ma_1" 60 3 s) fun s =>
          (s.economy.ventures.acquisitions.get? "ma_1").map AcquisitionState.status)))
      = some (some .proposed, some (some .proposed, true, some (some .approved))) := by
    decide +kernel
  obtain ⟨events₁, s₁, h₁, hrest⟩ := outcome_eq_some hrun
  rw [Prod.mk.injEq] at hrest
  obtain ⟨hfirst, hrest⟩ := hrest
  obtain ⟨_, s₂, -, hrest⟩ := outcome_eq_some hrest
  rw [Prod.mk.injEq, Prod.mk.injEq] at hrest
  obtain ⟨hsecond, hrows, hlast⟩ := hrest
  obtain ⟨events, s', h, hthird⟩ := outcome_eq_some hlast
  obtain ⟨d₁, hd₁, hopen₁⟩ := Option.map_eq_some_iff.mp hfirst
  obtain ⟨d₂, hd₂, hopen₂⟩ := Option.map_eq_some_iff.mp hsecond
  obtain ⟨d₃, hd₃, hdone⟩ := Option.map_eq_some_iff.mp hthird
  have hstored : events₁ = [] := (tender_status h₁ rfl rfl hd₁).mpr hopen₁
  have happroved : events ≠ [] := by
    intro hnil
    rw [(tender_status h hd₂ hopen₂ hd₃).mp hnil] at hdone
    cases hdone
  have hs₁ : TenderRun {} completesAtOnce tenderMarket 0 s₁ 1 :=
    .tender .start (by decide) h₁ fun hne => absurd hstored hne
  have hs₂ : TenderRun {} completesAtOnce tenderMarket 0 s₂ 2 :=
    hs₁.transfer (by decide) (.of_rows (of_decide_eq_true hrows))
  obtain ⟨deal, hdeal, hlive, -⟩ := approvals_live hstart hs₂ (by decide : (2 : Int) ≤ 3) h
    happroved
  exact ⟨s₂, s', 3, events, deal, hs₂, h, hdeal, hlive⟩

/-- "ag_a" tenders forty shares and leaves them to "ag_b", who tenders them
again: eighty of a hundred are counted where forty are live, and the others are
dragged along. -/
theorem inherited_shares_count_twice :
    ∃ s₁ s₂ s₃ events deal, Covered tenderMarket.economy 0 ∧
      tender {} completesAtOnce "ag_a" "ma_1" 40 1 tenderMarket = .ok [] s₁ ∧
      Estate.transferInterests "ag_a" [("ag_b", 1)] s₁ = .ok () s₂ ∧
      tender {} completesAtOnce "ag_b" "ma_1" 40 2 s₂ = .ok events s₃ ∧
      s₃.economy.ventures.acquisitions.get? "ma_1" = some deal ∧ deal.status = .approved ∧
      deal.acceptingBp = 8000 ∧ deal.dragAlongApplied = true ∧
      liveBp (acquisitionEquityRows s₂.economy "fm_a") deal.acceptingHolders = 4000 ∧
      ¬deal.acceptingBp
        ≤ liveBp (acquisitionEquityRows s₂.economy "fm_a") deal.acceptingHolders := by
  have hrun : outcome (tender {} completesAtOnce "ag_a" "ma_1" 40 1 tenderMarket) (fun s =>
      ((s.economy.ventures.acquisitions.get? "ma_1").map AcquisitionState.status,
      outcome (Estate.transferInterests "ag_a" [("ag_b", 1)] s) fun s₂ =>
        outcome (tender {} completesAtOnce "ag_b" "ma_1" 40 2 s₂) fun s =>
          (s.economy.ventures.acquisitions.get? "ma_1").map fun d =>
            decide (d.status = .approved ∧ d.acceptingBp = 8000 ∧ d.dragAlongApplied = true ∧
              liveBp (acquisitionEquityRows s₂.economy "fm_a") d.acceptingHolders = 4000)))
      = some (some .proposed, some (some (some true))) := by
    decide +kernel
  obtain ⟨events₁, s₁, h₁, hrest⟩ := outcome_eq_some hrun
  rw [Prod.mk.injEq] at hrest
  obtain ⟨hfirst, hrest⟩ := hrest
  obtain ⟨_, s₂, h₂, hrest⟩ := outcome_eq_some hrest
  obtain ⟨events, s₃, h₃, hthird⟩ := outcome_eq_some hrest
  obtain ⟨d₁, hd₁, hopen₁⟩ := Option.map_eq_some_iff.mp hfirst
  obtain ⟨deal, hdeal, hrow⟩ := Option.map_eq_some_iff.mp hthird
  obtain ⟨hstatus, hbp, hdrag, hlive⟩ := of_decide_eq_true hrow
  have hstored : events₁ = [] := (tender_status h₁ rfl rfl hd₁).mpr hopen₁
  subst hstored
  refine ⟨s₁, s₂, s₃, events, deal, .of_rows (by decide), h₁, h₂, h₃, hdeal, hstatus, hbp, hdrag,
    hlive, ?_⟩
  rw [hbp, hlive]
  decide

end Polis.Economy.Ventures
