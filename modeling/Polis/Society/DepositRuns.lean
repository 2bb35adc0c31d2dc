/-
  Polis.Society.DepositRuns — candidacy deposits over whole runs of
  announcements and elections (`ElectionOffice`, `society/polity.py`).

  Main results:
    * `keptOf_markAll` — refunds lower what the register keeps by their cents.
    * `Balances.announce`, `Balances.count` — what one step keeps.
    * `deposits_balance` — in every run in which no candidacy is announced
      again, what was paid and not refunded is what the register keeps.
-/
import Polis.Society.Deposits

namespace Polis.Society

open Lib Lib.Effect Polis.Events

variable {L : Type}

/-! ## Rows of distinct candidacies -/

theorem candidacyRows_of_mem {rows : List DepositRow} (h : (rows.map Prod.fst).Nodup) {r : DepositRow}
    (hr : r ∈ rows) : candidacyRows r.1 rows = [r] := by
  induction rows with
  | nil => cases hr
  | cons x xs ih =>
    rw [List.map_cons, List.nodup_cons] at h
    unfold candidacyRows
    rcases List.mem_cons.mp hr with rfl | hr
    · rw [List.filter_cons_of_pos (by simp)]
      congr 1
      apply List.filter_eq_nil_iff.mpr
      intro y hy heq
      apply h.1
      rw [← of_decide_eq_true heq]
      exact List.mem_map_of_mem hy
    · have hne : ¬x.1 = r.1 := by
        intro heq
        apply h.1
        rw [heq]
        exact List.mem_map_of_mem hr
      rw [List.filter_cons_of_neg (by simpa using hne)]
      exact ih h.2 hr

theorem candidacyRows_of_notMem {rows : List DepositRow} {id : String}
    (h : ∀ r ∈ rows, r.1 ≠ id) : candidacyRows id rows = [] := by
  apply List.filter_eq_nil_iff.mpr
  intro r hr heq
  exact h r hr (of_decide_eq_true heq)

theorem candidacyRows_filter (id : String) (p : DepositRow → Bool) (rows : List DepositRow) :
    candidacyRows id (rows.filter p) = (candidacyRows id rows).filter p := by
  unfold candidacyRows
  rw [List.filter_filter, List.filter_filter]
  exact List.filter_congr fun r _ => Bool.and_comm _ _

theorem centsOf_positive {rows : List DepositRow} (h : ∀ r ∈ rows, 0 ≤ r.2.2)
    (agentId : String) : centsOf agentId (rows.filter fun r => 0 < r.2.2) = centsOf agentId rows := by
  induction rows with
  | nil => rfl
  | cons r rs ih =>
    have hr := h r List.mem_cons_self
    have hrs := ih fun x hx => h x (List.mem_cons_of_mem _ hx)
    by_cases hpos : 0 < r.2.2
    · rw [List.filter_cons_of_pos (by simpa using hpos)]
      show centsOf agentId ([r] ++ _) = centsOf agentId ([r] ++ rs)
      rw [centsOf_append, centsOf_append, hrs]
    · rw [List.filter_cons_of_neg (by simpa using hpos), hrs]
      show _ = centsOf agentId ([r] ++ rs)
      have hzero : centsOf agentId [r] = 0 := by
        unfold centsOf
        by_cases hagent : r.2.1 = agentId
        · rw [List.filter_cons_of_pos (by simpa using hagent)]
          show r.2.2 + 0 = 0
          omega
        · rw [List.filter_cons_of_neg (by simpa using hagent)]
          rfl
      rw [centsOf_append, hzero, Int.zero_add]

/-- The register with some deposits marked as refunded. -/
def markAll (d : Dict String (String × Int × Bool)) (rows : List DepositRow) :
    Dict String (String × Int × Bool) :=
  rows.foldl (fun d r => d.put r.1 (r.2.1, r.2.2, true)) d

theorem get?_markAll_of_notMem {rows : List DepositRow} {id : String}
    (h : ∀ r ∈ rows, r.1 ≠ id) (d : Dict String (String × Int × Bool)) :
    (markAll d rows).get? id = d.get? id := by
  induction rows generalizing d with
  | nil => rfl
  | cons r rs ih =>
    have hr : ¬id = r.1 := fun heq => h r List.mem_cons_self heq.symm
    show (markAll (d.put r.1 (r.2.1, r.2.2, true)) rs).get? id = _
    rw [ih (fun x hx => h x (List.mem_cons_of_mem _ hx)), Dict.get?_put, if_neg hr]

theorem get?_markAll_of_mem {rows : List DepositRow} (h : (rows.map Prod.fst).Nodup)
    {r : DepositRow} (hr : r ∈ rows) (d : Dict String (String × Int × Bool)) :
    (markAll d rows).get? r.1 = some (r.2.1, r.2.2, true) := by
  induction rows generalizing d with
  | nil => cases hr
  | cons x xs ih =>
    rw [List.map_cons, List.nodup_cons] at h
    show (markAll (d.put x.1 (x.2.1, x.2.2, true)) xs).get? r.1 = _
    rcases List.mem_cons.mp hr with rfl | hr
    · rw [get?_markAll_of_notMem, Dict.get?_put, if_pos rfl]
      intro y hy heq
      apply h.1
      rw [← heq]
      exact List.mem_map_of_mem hy
    · exact ih h.2 hr _

/-- What the register keeps of an agent's deposits. -/
def keptOf (agentId : String) (d : Dict String (String × Int × Bool)) : Int :=
  d.total fun _ row => if row.1 = agentId ∧ row.2.2 = false then row.2.1 else 0

theorem keptOf_markAll {rows : List DepositRow} (h : (rows.map Prod.fst).Nodup)
    {d : Dict String (String × Int × Bool)}
    (hrows : ∀ r ∈ rows, d.get? r.1 = some (r.2.1, r.2.2, false)) (agentId : String) :
    keptOf agentId (markAll d rows) = keptOf agentId d - centsOf agentId rows := by
  induction rows generalizing d with
  | nil =>
    show keptOf agentId d = keptOf agentId d - 0
    omega
  | cons r rs ih =>
    rw [List.map_cons, List.nodup_cons] at h
    have hrest : ∀ x ∈ rs, (d.put r.1 (r.2.1, r.2.2, true)).get? x.1
        = some (x.2.1, x.2.2, false) := by
      intro x hx
      have hne : ¬x.1 = r.1 := by
        intro heq
        apply h.1
        rw [← heq]
        exact List.mem_map_of_mem hx
      rw [Dict.get?_put, if_neg hne]
      exact hrows x (List.mem_cons_of_mem _ hx)
    show keptOf agentId (markAll (d.put r.1 (r.2.1, r.2.2, true)) rs)
      = _ - centsOf agentId ([r] ++ rs)
    rw [ih h.2 hrest, centsOf_append]
    have hput : keptOf agentId (d.put r.1 (r.2.1, r.2.2, true))
        = keptOf agentId d - centsOf agentId [r] := by
      unfold keptOf
      rw [Dict.total_put_of_some _ (hrows r List.mem_cons_self)]
      unfold centsOf
      by_cases hagent : r.2.1 = agentId
      · rw [List.filter_cons_of_pos (by simpa using hagent)]
        simp [hagent]
      · rw [List.filter_cons_of_neg (by simpa using hagent)]
        simp [hagent]
    rw [hput]
    omega

/-! ## Runs -/

/-- One step of a run: an announcement or the holding of an election, with the
office as it is then, or anything else, which leaves the candidacies and their
deposits alone. -/
inductive DepositStep (L : Type) where
  | announce (E : ElectionOffice (Recorded L)) (agentId : String)
      (params : AnnounceCandidacyParams) (tick : Int)
  | hold (E : ElectionOffice (Recorded L)) (electionId : String) (tick : Int)
  | outside (rest : PolityState L) (postings : List Posting)

/-- A run: the state, and the counts that were made. -/
structure DepositRun (L : Type) where
  state : PolityState (Recorded L)
  counts : List Count := []

namespace DepositStep

variable [CanonicalJson Value] [Events.Sha256] [PayloadSchemas Value] [FloatValue] [Uuid5]

/-- The rest of the world goes on. -/
def goOn (rest : PolityState L) (postings : List Posting) (s : PolityState (Recorded L)) :
    PolityState (Recorded L) :=
  { books :=
      { log := rest.books.log
        ledger := (rest.books.ledger, s.posted ++ postings.filter fun p => p.Unrelated) }
    parties := rest.parties
    repo :=
      { rest.repo with
        candidacies := s.repo.candidacies
        deposits := s.repo.deposits
        candidacy_keyed := s.repo.candidacy_keyed }
    offices := rest.offices
    exposure := rest.exposure
    resolvedElections := rest.resolvedElections
    runtime := rest.runtime
    policies := rest.policies }

/-- One step, returned or raised. -/
def step (r : DepositRun L) : DepositStep L → DepositRun L
  | .announce E agentId params tick =>
    { r with state := stateAfter (E.announce agentId params tick r.state) }
  | .hold E electionId tick =>
    { state := stateAfter (E.hold electionId tick r.state)
      counts := r.counts ++ (E.countAt electionId tick r.state).toList }
  | .outside rest postings => { r with state := goOn rest postings r.state }

/-- A run from a state. -/
def run (r : DepositRun L) (steps : List (DepositStep L)) : DepositRun L := steps.foldl step r

/-- A step posts on the recorded ledger, announces no candidacy again, and has
no rounds that move a candidacy across the share. -/
def Proper (B : SocietyLedger L) (r : DepositRun L) : DepositStep L → Prop
  | .announce E agentId params tick =>
    E.ledger = B.recorded ∧ E.Unrepeated r.state agentId params tick
  | .hold E electionId tick => E.ledger = B.recorded ∧ E.RoundsAgree r.state electionId tick
  | .outside _ _ => True

/-- Every step of a run is as `Proper` asks. -/
def AllProper (B : SocietyLedger L) : DepositRun L → List (DepositStep L) → Prop
  | _, [] => True
  | r, a :: as => a.Proper B r ∧ AllProper B (step r a) as

end DepositStep

namespace DepositRun

/-- The deposits that were paid. -/
def paid (r : DepositRun L) : List DepositRow := depositsPaid r.state.posted

/-- The deposits that were paid back. -/
def refunded (r : DepositRun L) : List DepositRow := refundsPaid r.state.posted

/-- A candidacy paid one deposit, and it was refunded once exactly if some count
of its election gave it the share of the votes cast. -/
structure Pays (r : DepositRun L) (id : String) (c : Candidacy) (cents : Int) (back : Bool) :
    Prop where
  row : r.state.repo.deposits.get? id = some (c.agentId, cents, back)
  nonneg : 0 ≤ cents
  paid : candidacyRows id r.paid = if cents = 0 then [] else [(id, c.agentId, cents)]
  refunded : candidacyRows id r.refunded
    = if back = true ∧ cents ≠ 0 then [(id, c.agentId, cents)] else []
  earned : back = true ↔ ∃ k ∈ r.counts, k.electionId = c.electionId ∧ k.Earns id

/-- Deposits balance. -/
structure Balances (r : DepositRun L) : Prop where
  /-- What an agent paid and was not refunded is what the register keeps. -/
  money : ∀ agentId,
    centsOf agentId r.paid - centsOf agentId r.refunded = keptOf agentId r.state.repo.deposits
  /-- Every candidacy paid once and was refunded as it earned. -/
  candidacies : ∀ id c, r.state.repo.candidacies.get? id = some c →
    ∃ cents back, r.Pays id c cents back
  /-- Nothing was paid, or paid back, for anything else. -/
  others : ∀ id, r.state.repo.candidacies.get? id = none →
    r.state.repo.deposits.get? id = none ∧ candidacyRows id r.paid = [] ∧ candidacyRows id r.refunded = []
  /-- Only candidacies of an election earn anything in a count of it. -/
  counted : ∀ k ∈ r.counts, ∀ id, k.Earns id →
    ∃ c, r.state.repo.candidacies.get? id = some c ∧ c.electionId = k.electionId

namespace Balances

theorem standing_cases {o o' : Option Candidacy}
    (h : o'.map Candidacy.standing = o.map Candidacy.standing) :
    (o = none ∧ o' = none) ∨ ∃ c c', o = some c ∧ o' = some c' ∧
      c'.electionId = c.electionId ∧ c'.agentId = c.agentId := by
  cases o with
  | none =>
    cases o' with
    | none => exact Or.inl ⟨rfl, rfl⟩
    | some c' => cases h
  | some c =>
    cases o' with
    | none => cases h
    | some c' =>
      right
      have hstanding : c'.standing = c.standing := Option.some.inj h
      exact ⟨c, c', rfl, rfl, congrArg Prod.fst hstanding, congrArg Prod.snd hstanding⟩

theorem idle {r : DepositRun L} {s' : PolityState (Recorded L)} (h : r.Balances)
    (hdeposits : s'.repo.deposits = r.state.repo.deposits)
    (hpaid : depositsPaid s'.posted = r.paid) (hrefunded : refundsPaid s'.posted = r.refunded)
    (hstanding : ∀ id, (s'.repo.candidacies.get? id).map Candidacy.standing
      = (r.state.repo.candidacies.get? id).map Candidacy.standing) :
    Balances { r with state := s' } := by
  have hpaid' : DepositRun.paid { r with state := s' } = r.paid := hpaid
  have hrefunded' : DepositRun.refunded { r with state := s' } = r.refunded := hrefunded
  refine ⟨?_, ?_, ?_, ?_⟩
  · intro agentId
    rw [hpaid', hrefunded']
    show _ = keptOf agentId s'.repo.deposits
    rw [hdeposits]
    exact h.money agentId
  · intro id c' hc'
    rcases standing_cases (hstanding id) with ⟨-, hnone⟩ | ⟨c, d, hc, hd, helection, hagent⟩
    · rw [hnone] at hc'
      cases hc'
    · rw [hd] at hc'
      cases hc'
      obtain ⟨cents, back, hpays⟩ := h.candidacies id c hc
      refine ⟨cents, back, ?_, hpays.nonneg, ?_, ?_, ?_⟩
      · show s'.repo.deposits.get? id = _
        rw [hdeposits, hagent]
        exact hpays.row
      · rw [hpaid', hagent]
        exact hpays.paid
      · rw [hrefunded', hagent]
        exact hpays.refunded
      · rw [helection]
        exact hpays.earned
  · intro id hnone
    rcases standing_cases (hstanding id) with ⟨hbefore, -⟩ | ⟨c, d, hc, hd, -, -⟩
    · show s'.repo.deposits.get? id = none ∧ _
      rw [hpaid', hrefunded', hdeposits]
      exact h.others id hbefore
    · rw [hd] at hnone
      cases hnone
  · intro k hk id hearns
    obtain ⟨c, hc, helected⟩ := h.counted k hk id hearns
    rcases standing_cases (hstanding id) with ⟨hbefore, -⟩ | ⟨c₀, d, hc₀, hd, helection, -⟩
    · rw [hbefore] at hc
      cases hc
    · rw [hc₀] at hc
      cases hc
      exact ⟨d, hd, helection.trans helected⟩

theorem announce {r : DepositRun L} {s' : PolityState (Recorded L)} {c : Candidacy} {cents : Int}
    (h : r.Balances) (hnew : Announced r.state s' c cents) : Balances { r with state := s' } := by
  have hpaid : DepositRun.paid { r with state := s' }
      = r.paid ++ if cents = 0 then [] else [(c.candidacyId, c.agentId, cents)] := hnew.paid
  have hrefunded : DepositRun.refunded { r with state := s' } = r.refunded := hnew.refunded
  obtain ⟨hnodeposit, hnopaid, hnorefund⟩ := h.others _ hnew.fresh
  have hother : ∀ id, id ≠ c.candidacyId →
      candidacyRows id (DepositRun.paid { r with state := s' }) = candidacyRows id r.paid := by
    intro id hid
    rw [hpaid, candidacyRows_append]
    have hnil : candidacyRows id (if cents = 0 then [] else [(c.candidacyId, c.agentId, cents)]) = [] := by
      apply candidacyRows_of_notMem
      intro x hx
      split at hx
      · cases hx
      · rw [List.mem_singleton.mp hx]
        exact fun heq => hid heq.symm
    rw [hnil, List.append_nil]
  refine ⟨?_, ?_, ?_, ?_⟩
  · intro agentId
    have hmoney := h.money agentId
    have hkept : keptOf agentId s'.repo.deposits
        = keptOf agentId r.state.repo.deposits + if c.agentId = agentId then cents else 0 := by
      unfold keptOf
      rw [hnew.deposits, Dict.total_put_of_none _ hnodeposit]
      simp
    have hcents : centsOf agentId (if cents = 0 then [] else [(c.candidacyId, c.agentId, cents)])
        = if c.agentId = agentId then cents else 0 := by
      unfold centsOf
      by_cases hzero : cents = 0
      · simp [hzero]
      · by_cases hagent : c.agentId = agentId
        · simp [hzero, hagent]
        · simp [hzero, hagent]
    rw [hpaid, hrefunded, centsOf_append, hcents]
    show _ = keptOf agentId s'.repo.deposits
    rw [hkept]
    omega
  · intro id d hd
    have hd : (r.state.repo.candidacies.put c.candidacyId c).get? id = some d := by
      rw [← hnew.candidacies]
      exact hd
    rw [Dict.get?_put] at hd
    by_cases hid : id = c.candidacyId
    · rw [if_pos hid] at hd
      cases hd
      subst hid
      refine ⟨cents, false, ?_, hnew.nonneg, ?_, ?_, ?_⟩
      · show s'.repo.deposits.get? _ = _
        rw [hnew.deposits, Dict.get?_put, if_pos rfl]
      · rw [hpaid, candidacyRows_append, hnopaid, List.nil_append]
        split
        · rfl
        · simp [candidacyRows]
      · rw [hrefunded, hnorefund]
        simp
      · -- no count can have given it anything yet
        constructor
        · intro hfalse
          cases hfalse
        · rintro ⟨k, hk, -, hearns⟩
          obtain ⟨d, hd, -⟩ := h.counted k hk _ hearns
          rw [hnew.fresh] at hd
          cases hd
    · rw [if_neg hid] at hd
      obtain ⟨cents', back, hpays⟩ := h.candidacies id d hd
      refine ⟨cents', back, ?_, hpays.nonneg, ?_, ?_, hpays.earned⟩
      · show s'.repo.deposits.get? id = _
        rw [hnew.deposits, Dict.get?_put, if_neg hid]
        exact hpays.row
      · rw [hother id hid]
        exact hpays.paid
      · rw [hrefunded]
        exact hpays.refunded
  · intro id hnone
    have hnone : (r.state.repo.candidacies.put c.candidacyId c).get? id = none := by
      rw [← hnew.candidacies]
      exact hnone
    rw [Dict.get?_put] at hnone
    by_cases hid : id = c.candidacyId
    · rw [if_pos hid] at hnone
      cases hnone
    · rw [if_neg hid] at hnone
      obtain ⟨hrow, hnothing, hnoback⟩ := h.others id hnone
      refine ⟨?_, ?_, ?_⟩
      · show s'.repo.deposits.get? id = none
        rw [hnew.deposits, Dict.get?_put, if_neg hid]
        exact hrow
      · rw [hother id hid]
        exact hnothing
      · rw [hrefunded]
        exact hnoback
  · intro k hk id hearns
    obtain ⟨d, hd, helected⟩ := h.counted k hk id hearns
    refine ⟨d, ?_, helected⟩
    show s'.repo.candidacies.get? id = some d
    rw [hnew.candidacies, Dict.get?_put]
    by_cases hid : id = c.candidacyId
    · rw [hid, hnew.fresh] at hd
      cases hd
    · rw [if_neg hid]
      exact hd

theorem count {r : DepositRun L} {s' : PolityState (Recorded L)} {k : Count}
    {rows : List DepositRow} (h : r.Balances)
    (hcounts : ElectionOffice.Counts r.state s' k rows) :
    Balances { state := s', counts := r.counts ++ [k] } := by
  have hpaid : DepositRun.paid { state := s', counts := r.counts ++ [k] } = r.paid :=
    hcounts.settled.paid
  have hrefunded : DepositRun.refunded { state := s', counts := r.counts ++ [k] }
      = r.refunded ++ rows.filter fun x => 0 < x.2.2 := hcounts.settled.refunded
  have hdeposits : s'.repo.deposits = markAll r.state.repo.deposits rows :=
    hcounts.settled.deposits
  have hstanding := hcounts.settled.standing
  -- a deposit that goes back is that of a stored candidacy
  have hstored : ∀ x ∈ rows, ∃ c, r.state.repo.candidacies.get? x.1 = some c ∧
      r.Pays x.1 c x.2.2 false ∧ x.2.1 = c.agentId := by
    intro x hx
    obtain ⟨hrow, hearns⟩ := (hcounts.rows x).mp hx
    obtain ⟨c, hc, -⟩ := (hcounts.candidacies x.1).mp hearns.1
    obtain ⟨cents, back, hpays⟩ := h.candidacies x.1 c hc
    have hsame := hpays.row
    rw [hrow, Option.some.injEq, Prod.mk.injEq, Prod.mk.injEq] at hsame
    obtain ⟨hagent, hcents, hback⟩ := hsame
    rw [← hcents, ← hback] at hpays
    exact ⟨c, hc, hpays, hagent⟩
  refine ⟨?_, ?_, ?_, ?_⟩
  · intro agentId
    have hmoney := h.money agentId
    have hkept := keptOf_markAll hcounts.distinct
      (fun x hx => ((hcounts.rows x).mp hx).1) agentId
    have hcents : centsOf agentId (rows.filter fun x => 0 < x.2.2) = centsOf agentId rows := by
      apply centsOf_positive
      intro x hx
      obtain ⟨c, -, hpays, -⟩ := hstored x hx
      exact hpays.nonneg
    rw [hpaid, hrefunded, centsOf_append, hcents]
    show _ = keptOf agentId s'.repo.deposits
    rw [hdeposits, hkept]
    omega
  · intro id c' hc'
    rcases standing_cases (hstanding id) with ⟨-, hnone⟩ | ⟨c, d, hc, hd, helection, hagent⟩
    · rw [hnone] at hc'
      cases hc'
    rw [hd] at hc'
    cases hc'
    by_cases hmem : ∃ x ∈ rows, x.1 = id
    · obtain ⟨x, hx, rfl⟩ := hmem
      obtain ⟨c₀, hc₀, hpays, hpayer⟩ := hstored x hx
      rw [hc] at hc₀
      cases hc₀
      obtain ⟨-, hearns⟩ := (hcounts.rows x).mp hx
      obtain ⟨c₁, hc₁, helected⟩ := (hcounts.candidacies x.1).mp hearns.1
      rw [hc] at hc₁
      cases hc₁
      refine ⟨x.2.2, true, ?_, hpays.nonneg, ?_, ?_, ?_⟩
      · show s'.repo.deposits.get? x.1 = _
        rw [hdeposits, get?_markAll_of_mem hcounts.distinct hx, hagent, hpayer]
      · rw [hpaid, hagent]
        exact hpays.paid
      · rw [hrefunded, candidacyRows_append, candidacyRows_filter, candidacyRows_of_mem hcounts.distinct hx,
          hpays.refunded, hagent, ← hpayer]
        have hnonneg := hpays.nonneg
        by_cases hzero : x.2.2 = 0
        · simp [hzero]
        · have hpos : 0 < x.2.2 := by omega
          simp [hzero, hpos]
      · constructor
        · intro _
          exact ⟨k, List.mem_append_right _ List.mem_cons_self, by rw [helection, helected], hearns⟩
        · intro _
          rfl
    · push Not at hmem
      obtain ⟨cents, back, hpays⟩ := h.candidacies id c hc
      refine ⟨cents, back, ?_, hpays.nonneg, ?_, ?_, ?_⟩
      · show s'.repo.deposits.get? id = _
        rw [hdeposits, get?_markAll_of_notMem hmem, hagent]
        exact hpays.row
      · rw [hpaid, hagent]
        exact hpays.paid
      · rw [hrefunded, candidacyRows_append, candidacyRows_filter, candidacyRows_of_notMem hmem, hagent,
          hpays.refunded]
        exact List.append_nil _
      · rw [helection, hpays.earned]
        constructor
        · rintro ⟨k', hk', hearns⟩
          exact ⟨k', List.mem_append_left _ hk', hearns⟩
        · rintro ⟨k', hk', hsame, hearns⟩
          rcases List.mem_append.mp hk' with hk' | hk'
          · exact ⟨k', hk', hsame, hearns⟩
          · -- a kept deposit that earned the share would have gone back
            rw [List.mem_singleton.mp hk'] at hearns
            cases back with
            | true => exact hpays.earned.mp rfl
            | false =>
              exfalso
              exact hmem (id, c.agentId, cents) ((hcounts.rows _).mpr ⟨hpays.row, hearns⟩) rfl
  · intro id hnone
    rcases standing_cases (hstanding id) with ⟨hbefore, -⟩ | ⟨c, d, hc, hd, -, -⟩
    · have hmem : ∀ x ∈ rows, x.1 ≠ id := by
        rintro x hx rfl
        obtain ⟨c, hc, -⟩ := hstored x hx
        rw [hbefore] at hc
        cases hc
      obtain ⟨hrow, hnothing, hnoback⟩ := h.others id hbefore
      refine ⟨?_, ?_, ?_⟩
      · show s'.repo.deposits.get? id = none
        rw [hdeposits, get?_markAll_of_notMem hmem]
        exact hrow
      · rw [hpaid]
        exact hnothing
      · rw [hrefunded, candidacyRows_append, candidacyRows_filter, candidacyRows_of_notMem hmem, hnoback]
        rfl
    · rw [hd] at hnone
      cases hnone
  · intro k' hk' id hearns
    have hbefore : ∃ c, r.state.repo.candidacies.get? id = some c ∧
        c.electionId = k'.electionId := by
      rcases List.mem_append.mp hk' with hk' | hk'
      · exact h.counted k' hk' id hearns
      · rw [List.mem_singleton.mp hk'] at hearns ⊢
        exact (hcounts.candidacies id).mp hearns.1
    obtain ⟨c, hc, helected⟩ := hbefore
    rcases standing_cases (hstanding id) with ⟨hnone, -⟩ | ⟨c₀, d, hc₀, hd, helection, -⟩
    · rw [hnone] at hc
      cases hc
    · rw [hc₀] at hc
      cases hc
      exact ⟨d, hd, helection.trans helected⟩

section Steps

variable [CanonicalJson Value] [Events.Sha256] [PayloadSchemas Value] [FloatValue] [Uuid5]
  {B : SocietyLedger L}

theorem step {r : DepositRun L} {a : DepositStep L} (hB : B.Reliable) (h : r.Balances)
    (ha : a.Proper B r) : Balances (DepositStep.step r a) := by
  cases a with
  | announce E agentId params tick =>
    rcases E.announce_deposits hB ha.1 ha.2 with hidle | ⟨c, cents, hnew⟩
    · exact h.idle hidle.deposits (congrArg depositsPaid hidle.posted)
        (congrArg refundsPaid hidle.posted) hidle.standing
    · exact h.announce hnew
  | hold E electionId tick =>
    unfold DepositStep.step
    dsimp only
    rcases E.hold_deposits hB ha.1 ha.2 with ⟨hnone, hidle⟩ | ⟨k, rows, hsome, hcounts⟩
    · rw [hnone]
      have hsame := h.idle hidle.deposits (congrArg depositsPaid hidle.posted)
        (congrArg refundsPaid hidle.posted) hidle.standing
      simpa using hsame
    · rw [hsome]
      exact h.count hcounts
  | outside rest postings =>
    have hkept : ∀ p ∈ postings.filter fun p => p.Unrelated, p.Unrelated := by
      intro p hp
      exact of_decide_eq_true (List.mem_filter.mp hp).2
    obtain ⟨hpaid, hrefunded⟩ := paid_of_unrelated hkept
    show Balances { r with state := DepositStep.goOn rest postings r.state }
    refine h.idle ?_ ?_ ?_ ?_
    · rfl
    · show depositsPaid (r.state.posted ++ _) = _
      rw [depositsPaid_append, hpaid, List.append_nil]
      rfl
    · show refundsPaid (r.state.posted ++ _) = _
      rw [refundsPaid_append, hrefunded, List.append_nil]
      rfl
    · intro id
      rfl

theorem run (hB : B.Reliable) (steps : List (DepositStep L)) {r : DepositRun L} (h : r.Balances)
    (hall : DepositStep.AllProper B r steps) (n : Nat) :
    Balances (DepositStep.run r (steps.take n)) := by
  induction steps generalizing r n with
  | nil =>
    rw [List.take_nil]
    exact h
  | cons a as ih =>
    cases n with
    | zero => exact h
    | succ n => exact ih (h.step hB hall.1) hall.2 n

end Steps

theorem start {s : PolityState (Recorded L)} (hcandidacies : s.repo.candidacies = ∅)
    (hdeposits : s.repo.deposits = ∅) (hposted : s.posted = []) :
    Balances { state := s } := by
  have hnothing : DepositRun.paid { state := s } = [] ∧ DepositRun.refunded { state := s } = [] := by
    unfold DepositRun.paid DepositRun.refunded
    rw [hposted]
    exact ⟨rfl, rfl⟩
  refine ⟨?_, ?_, ?_, ?_⟩
  · intro agentId
    show _ = keptOf agentId s.repo.deposits
    rw [hnothing.1, hnothing.2, hdeposits]
    rfl
  · intro id c hc
    have hc : s.repo.candidacies.get? id = some c := hc
    rw [hcandidacies] at hc
    cases hc
  · intro id _
    rw [hnothing.1, hnothing.2]
    show s.repo.deposits.get? id = none ∧ _
    rw [hdeposits]
    exact ⟨rfl, rfl, rfl⟩
  · intro k hk
    cases hk

end Balances

end DepositRun

/-- **Deposits balance in every state of a run** that begins without candidacies
and in which none is announced again and no rounds of a count move one across
the share. -/
theorem deposits_balance [CanonicalJson Value] [Events.Sha256] [PayloadSchemas Value]
    [FloatValue] [Uuid5] (B : SocietyLedger L) (hB : B.Reliable) (s : PolityState (Recorded L))
    (steps : List (DepositStep L)) (hcandidacies : s.repo.candidacies = ∅)
    (hdeposits : s.repo.deposits = ∅) (hposted : s.posted = [])
    (hall : DepositStep.AllProper B { state := s } steps) (n : Nat) :
    (DepositStep.run { state := s } (steps.take n)).Balances := by
  have hstart := DepositRun.Balances.start hcandidacies hdeposits hposted
  exact hstart.run hB steps hall n

/-! ## A candidacy announced twice and one that is eliminated -/

section Closed

attribute [local instance] blankJson blankDigest anySchema ratioValue plainUuid

/-- A ledger that posts every transfer that is not negative. -/
def openLedger : SocietyLedger Unit :=
  { freeLedger with
    postTransfers := fun transfers _ _ _ ledger =>
      if ∀ t ∈ transfers, 0 ≤ t.2.2 then .ok "txn" ledger
      else .error (.ledger "negative transfer") ledger }

theorem openLedger_reliable : openLedger.Reliable where
  announced := by
    intro transfers reason tick cause l id l' h
    unfold openLedger at h
    dsimp only at h
    split at h
    · cases h
      rfl
    · cases h
  nonneg := by
    intro transfers reason tick cause l id l' h
    unfold openLedger at h
    dsimp only at h
    split at h
    · rename_i hall
      exact hall
    · cases h

/-- An office that asks for a deposit of a hundred cents. -/
def depositOffice : ElectionOffice (Recorded Unit) :=
  { journal := plainJournal
    cfg := { offices := Dict.ofList [("council", {})], omegaPrior := ∅,
             candidacyDepositCents := 100 }
    parties :=
      { journal := plainJournal, beliefs := fun _ _ => 0
        cfg := { offices := ∅, omegaPrior := ∅ }, ledger := openLedger.recorded }
    voteModel :=
      { value := fun _ _ => 0, confidence := fun _ _ => 0, selfInterest := fun _ _ _ => 0,
        social := fun _ _ _ => 0, decay := fun _ => 0, conscientiousness := fun _ => 0,
        civic := fun _ => 0, noise := fun _ _ _ => 0,
        fit := fun _ => { omega := ∅, logLikelihood := 0, holdoutAccuracy := 0,
                          nDeliberate := 0, usable := false } }
    base := { policyKeys := [], resolve := fun _ => none }
    ledger := openLedger.recorded
    agents := fun _ => none
    world := none
    outlets := none
    deliberateBallots := none
    shuffle := fun _ _ ids => ids
    draw := fun _ _ ids => ids.headD "" }

/-- A ballot of the election, by the agents it ranks. -/
def rankingOf (voterId : String) (agents : List String) : Ballot :=
  { voterId, choice := (agents.head?).map (ElectionOffice.candidacyIdOf "el"),
    ranking := agents.map (ElectionOffice.candidacyIdOf "el") }

/-- An election whose ballots are cast. -/
def ballotedState (method : ElectionMethod) (ballots : List Ballot) :
    PolityState (Recorded Unit) :=
  { books := { log := EventLog.new 0 "", ledger := ((), []) }
    repo := ballots.foldl (fun repo b => repo.putBallot "el" b)
      (({} : ElectionRepository).putElection
        { electionId := "el", office := "council", seats := 1, method, calledTick := 0,
          votingTick := 30, campaignEndsTick := 23, electorateIds := [] }) }

/-- Two ballots each for two agents, and one for a third that ranks the first
behind. -/
def fiveBallots : List Ballot :=
  [rankingOf "v1" ["ann"], rankingOf "v2" ["ann"], rankingOf "v3" ["bob"],
   rankingOf "v4" ["bob"], rankingOf "v5" ["cy", "ann"]]

/-- Three candidacies, one of them announced again, and the election. -/
def announcedAgain : List (DepositStep Unit) :=
  [.announce depositOffice "ann" { electionId := some "el" } 1,
   .announce depositOffice "bob" { electionId := some "el" } 1,
   .announce depositOffice "cy" { electionId := some "el" } 1,
   .announce depositOffice "ann" { electionId := some "el" } 2,
   .hold depositOffice "el" 30]

/-- The run under instant runoff. -/
def runoffRun : DepositRun Unit :=
  DepositStep.run { state := ballotedState .irv fiveBallots } announcedAgain

/-- What the first agent paid, was refunded and has in the register. -/
def annReading : Int × Int × Int :=
  (centsOf "ann" runoffRun.paid, centsOf "ann" runoffRun.refunded,
    keptOf "ann" runoffRun.state.repo.deposits)

/-- Whether the third agent earned its deposit, and whether it was refunded. -/
def cyReading : Bool × Option Bool :=
  (runoffRun.counts.any fun k => decide (k.Earns (ElectionOffice.candidacyIdOf "el" "cy")),
    (runoffRun.state.repo.deposits.get? (ElectionOffice.candidacyIdOf "el" "cy")).map
      fun row => row.2.2)

theorem annReading_eq : annReading = (200, 100, 0) := by
  decide +kernel

theorem cyReading_eq : cyReading = (true, some false) := by
  decide +kernel

/-- **A deposit paid twice is lost once**, and a candidacy that an elimination
takes out of the last round is not refunded, whatever its share was. -/
theorem deposits_lost :
    centsOf "ann" runoffRun.paid - centsOf "ann" runoffRun.refunded
      ≠ keptOf "ann" runoffRun.state.repo.deposits ∧
    (∃ k ∈ runoffRun.counts, k.Earns (ElectionOffice.candidacyIdOf "el" "cy")) ∧
    ∃ row, runoffRun.state.repo.deposits.get? (ElectionOffice.candidacyIdOf "el" "cy") = some row ∧
      row.2.2 = false := by
  have hann := annReading_eq
  have hcy := cyReading_eq
  unfold annReading at hann
  unfold cyReading at hcy
  simp only [Prod.mk.injEq] at hann hcy
  refine ⟨by omega, ?_, ?_⟩
  · obtain ⟨k, hk, hearns⟩ := List.any_eq_true.mp hcy.1
    exact ⟨k, hk, of_decide_eq_true hearns⟩
  · exact Option.map_eq_some_iff.mp hcy.2

/-- Two candidacies and an election of one round. -/
def announcedOnce : List (DepositStep Unit) :=
  [.announce depositOffice "ann" { electionId := some "el" } 1,
   .announce depositOffice "cy" { electionId := some "el" } 1, .hold depositOffice "el" 30]

/-- The run after some of these steps. -/
def onceRun (n : Nat) : DepositRun Unit :=
  DepositStep.run { state := ballotedState .plurality fiveBallots } (announcedOnce.take n)

theorem announcedOnce_proper :
    DepositStep.AllProper openLedger { state := ballotedState .plurality fiveBallots }
      announcedOnce := by
  have hann : (onceRun 0).state.repo.candidacies.get? (ElectionOffice.candidacyIdOf "el" "ann")
      = none := by rfl
  have hcy : ((onceRun 1).state.repo.candidacies.get?
      (ElectionOffice.candidacyIdOf "el" "cy")).isNone = true := by decide +kernel
  have hmethod : ((onceRun 2).state.repo.elections.get? "el").map Election.method
      = some .plurality := by decide +kernel
  refine ⟨⟨rfl, ?_⟩, ⟨rfl, ?_⟩, ⟨rfl, ?_⟩, trivial⟩
  · intro electionId election hid _ _
    cases hid
    exact Or.inl hann
  · intro electionId election hid _ _
    cases hid
    exact Or.inl (Option.isNone_iff_eq_none.mp hcy)
  · apply ElectionOffice.roundsAgree_of_ne_irv
    intro election helection
    have helection : (onceRun 2).state.repo.elections.get? "el" = some election := helection
    rw [helection] at hmethod
    have hplurality : election.method = .plurality := Option.some.inj hmethod
    rw [hplurality]
    decide

theorem deposits_balance_once : (onceRun 3).Balances :=
  deposits_balance openLedger openLedger_reliable (ballotedState .plurality fiveBallots)
    announcedOnce rfl rfl rfl announcedOnce_proper 3

end Closed

end Polis.Society
