/-
  Polis.Society.Debts — judgment debts over whole runs (`PenaltyService`,
  `society/law.py`).

  An award pays what the payer can pay and opens a receivable for the rest;
  garnishments collect it.  The ledger is run beside the list of its postings,
  so that what was collected can be counted.

  Main results:
    * `award_splits` — an award is what it transferred and the receivable it
      opened.
    * `apply_extends` — judgments open receivables and leave the others alone.
    * `garnish_collects` — garnishments lower receivables by what they post.
    * `debts_conserved` — what is outstanding is what was opened less what was
      collected, in every state of a run.
-/
import Polis.Society.Recording
import Polis.Society.Undo
import Std.Data.String.ToNat

namespace Polis.Society

open Lib Lib.Effect Polis.Events

variable {L : Type}

/-! ## What was collected -/

/-- The receivable a garnishment collects for. -/
def Posting.receivableId? (p : Posting) : Option String :=
  if p.cause.kind = GARNISHMENT_COLLECTED then
    match p.cause.payload with
    | .dict fields =>
      match fields.lookup "receivable_id" with
      | some (.str id) => some id
      | _ => none
    | _ => none
  else none

/-- The cents garnished for a receivable. -/
def collectedFor (posted : List Posting) (receivableId : String) : Int :=
  ((posted.filter fun p => p.receivableId? = some receivableId).map Posting.total).sum

theorem collectedFor_append (ps qs : List Posting) (id : String) :
    collectedFor (ps ++ qs) id = collectedFor ps id + collectedFor qs id := by
  unfold collectedFor
  rw [List.filter_append, List.map_append, List.sum_append]

theorem collectedFor_eq_zero {ps : List Posting} {id : String}
    (h : ∀ p ∈ ps, p.receivableId? ≠ some id) : collectedFor ps id = 0 := by
  unfold collectedFor
  have hnil : ps.filter (fun p => p.receivableId? = some id) = [] := by
    apply List.filter_eq_nil_iff.mpr
    intro p hp
    simpa using h p hp
  rw [hnil]
  rfl

/-- What has been posted. -/
def LawState.posted (s : LawState (Recorded L)) : List Posting := s.books.ledger.2

/-! ## Identifiers -/

/-- The parts of a receivable's identifier, with how many there were before
it. -/
def receivableParts (row : Receivable) (n : Nat) : List String :=
  [row.caseId, row.debtorId, row.creditorId, row.reason, toString n]

/-- The parts of the identifier an award would open a receivable under. -/
def awardParts (a : PenaltyService.Award) (n : Nat) : List String :=
  [a.caseId, a.payerId, a.payeeId, a.reason, toString n]

theorem bar_notMem_natRepr (n : Nat) : '|' ∉ (toString n).toList := by
  intro h
  have h : '|' ∈ Nat.toDigits 10 n := by simpa [toString, Nat.repr] using h
  exact absurd (Nat.isDigit_of_mem_toDigits (by decide) (by decide) h) (by decide)

theorem suffix_of_mark {m : Char} {as bs xs ys : List Char} (hxs : m ∉ xs) (hys : m ∉ ys)
    (h : as ++ m :: xs = bs ++ m :: ys) : xs = ys := by
  induction as generalizing bs with
  | nil =>
    cases bs with
    | nil => exact (List.cons.inj h).2
    | cons b bs =>
      have htail : xs = bs ++ m :: ys := (List.cons.inj h).2
      rw [htail] at hxs
      exact absurd (List.mem_append_right _ List.mem_cons_self) hxs
  | cons a as ih =>
    cases bs with
    | nil =>
      have htail : as ++ m :: xs = ys := (List.cons.inj h).2
      rw [← htail] at hys
      exact absurd (List.mem_append_right _ List.mem_cons_self) hys
    | cons b bs => exact ih (List.cons.inj h).2

theorem number_of_text {a b c d a' b' c' d' : String} {n m : Nat}
    (h : String.intercalate "|" [a, b, c, d, toString n]
      = String.intercalate "|" [a', b', c', d', toString m]) : n = m := by
  have hsplit : ∀ (a b c d : String) (n : Nat),
      (String.intercalate "|" [a, b, c, d, toString n]).toList
        = (a ++ "|" ++ b ++ "|" ++ c ++ "|" ++ d).toList ++ '|' :: (toString n).toList := by
    intro a b c d n
    simp [String.intercalate_cons_cons]
  have hlists := congrArg String.toList h
  rw [hsplit, hsplit] at hlists
  have hdigits := suffix_of_mark (bar_notMem_natRepr n) (bar_notMem_natRepr m) hlists
  exact Nat.repr_inj.mp (String.toList_inj.mp hdigits)

/-- The receivables are stored under their own identifiers, which number them
in the order in which they were opened. -/
structure Listed [Events.Sha256] (s : LawState L) : Prop where
  keyed : ∀ id row, s.receivables.get? id = some row → row.receivableId = id
  named : ∀ (n : Nat) (e : String × Receivable), s.receivables.entries[n]? = some e →
    e.1 = stableId "rec" (receivableParts e.2 n)

/-- The identifier an award would open a receivable under is not that of
another text: no collision of digests. -/
def NoClash [Events.Sha256] (s : LawState L) (a : PenaltyService.Award) : Prop :=
  ∀ (n : Nat) (e : String × Receivable), s.receivables.entries[n]? = some e →
    stableId "rec" (receivableParts e.2 n)
      = stableId "rec" (awardParts a s.receivables.entries.length) →
    String.intercalate "|" (receivableParts e.2 n)
      = String.intercalate "|" (awardParts a s.receivables.entries.length)

instance [Events.Sha256] (s : LawState L) (a : PenaltyService.Award) : Decidable (NoClash s a) :=
  decidable_of_iff (∀ i : Fin s.receivables.entries.length,
      stableId "rec" (receivableParts (s.receivables.entries.get i).2 i)
        = stableId "rec" (awardParts a s.receivables.entries.length) →
      String.intercalate "|" (receivableParts (s.receivables.entries.get i).2 i)
        = String.intercalate "|" (awardParts a s.receivables.entries.length))
    ⟨fun h n e he => by
      obtain ⟨hn, rfl⟩ := List.getElem?_eq_some_iff.mp he
      exact h ⟨n, hn⟩,
     fun h i => h i _ (List.getElem?_eq_getElem i.isLt)⟩

theorem Listed.fresh [Events.Sha256] {s : LawState L} {a : PenaltyService.Award} (h : Listed s)
    (hclash : NoClash s a) :
    s.receivables.get? (stableId "rec" (awardParts a s.receivables.entries.length)) = none := by
  cases hget : s.receivables.get? (stableId "rec" (awardParts a s.receivables.entries.length)) with
  | none => rfl
  | some row =>
    obtain ⟨n, hn, hrow⟩ := List.mem_iff_getElem.mp (Dict.mem_entries_iff.mpr hget)
    have hentry : s.receivables.entries[n]? = some
        (stableId "rec" (awardParts a s.receivables.entries.length), row) := by
      rw [List.getElem?_eq_getElem hn, hrow]
    have hname := h.named n _ hentry
    have htext := hclash n _ hentry hname.symm
    have hnumber := number_of_text htext
    omega

/-! ## What a judgment does -/

/-- What awards may do to the receivables and to what has been posted: old
receivables stay, new ones are not negative, and nothing is garnished. -/
structure Extends (s s' : LawState (Recorded L)) : Prop where
  kept : ∀ id row, s.receivables.get? id = some row → s'.receivables.get? id = some row
  added : ∀ id row, s'.receivables.get? id = some row →
    s.receivables.get? id = some row ∨ 0 ≤ row.outstandingCents
  posted : ∃ extra, s'.posted = s.posted ++ extra ∧ ∀ p ∈ extra, p.receivableId? = none

theorem Extends.trans {a b c : LawState (Recorded L)} (h : Extends a b) (h' : Extends b c) :
    Extends a c where
  kept := fun id row hrow => h'.kept id row (h.kept id row hrow)
  added := by
    intro id row hrow
    rcases h'.added id row hrow with hold | hnew
    · exact h.added id row hold
    · exact Or.inr hnew
  posted := by
    obtain ⟨ps, hps, hnone⟩ := h.posted
    obtain ⟨qs, hqs, hnone'⟩ := h'.posted
    refine ⟨ps ++ qs, ?_, ?_⟩
    · rw [hqs, hps, List.append_assoc]
    · intro p hp
      rcases List.mem_append.mp hp with hp | hp
      · exact hnone p hp
      · exact hnone' p hp

/-- The receivables are left alone, and nothing is garnished. -/
structure Aside (s s' : LawState (Recorded L)) : Prop where
  same : s'.receivables = s.receivables
  posted : ∃ extra, s'.posted = s.posted ++ extra ∧ ∀ p ∈ extra, p.receivableId? = none

theorem aside_of_eq {s s' : LawState (Recorded L)} (hsame : s'.receivables = s.receivables)
    (hposted : s'.posted = s.posted) : Aside s s' :=
  ⟨hsame, [], by rw [hposted, List.append_nil], fun p hp => by cases hp⟩

theorem aside_refl (s : LawState (Recorded L)) : Aside s s := aside_of_eq rfl rfl

theorem Aside.extends {s s' : LawState (Recorded L)} (h : Aside s s') : Extends s s' where
  kept := by
    intro id row hrow
    rw [h.same]
    exact hrow
  added := by
    intro id row hrow
    rw [h.same] at hrow
    exact Or.inl hrow
  posted := h.posted

theorem Listed.congr [Events.Sha256] {s s' : LawState L} (h : Listed s)
    (hsame : s'.receivables = s.receivables) : Listed s' where
  keyed := by
    rw [hsame]
    exact h.keyed
  named := by
    rw [hsame]
    exact h.named

theorem aside_trans (a b c : LawState (Recorded L)) (h : Aside a b) (h' : Aside b c) :
    Aside a c :=
  ⟨h'.same.trans h.same, (h.extends.trans h'.extends).posted⟩

namespace PenaltyService

variable [CanonicalJson Value] [Events.Sha256] [PayloadSchemas Value] {B : SocietyLedger L}
  {S : PenaltyService (Recorded L)}

/-- The receivable an award opens. -/
def debtOf (a : Award) (shortfall : Int) (id : String) : Receivable :=
  { receivableId := id, caseId := a.caseId, debtorId := a.payerId, creditorId := a.payeeId,
    originalCents := a.amountCents, outstandingCents := shortfall, reason := a.reason }

/-- What an award that returned did: it paid, and opened a receivable for the
rest. -/
structure Split (a : Award) (tick : Int) (s s' : LawState (Recorded L)) (paid opened : Int) :
    Prop where
  amount : a.amountCents = paid + opened
  paid_nonneg : 0 ≤ paid
  opened_nonneg : 0 ≤ opened
  posted : ∃ event : Events.Event Value, event.kind = a.kind ∧
    s'.posted = s.posted ++ if paid = 0 then [] else
      [⟨[(a.payerId, a.payeeId, paid)], a.reason, tick, event⟩]
  receivables : s'.receivables = if opened = 0 then s.receivables else
    s.receivables.put (stableId "rec" (awardParts a s.receivables.entries.length))
      (debtOf a opened (stableId "rec" (awardParts a s.receivables.entries.length)))

theorem award_splits (hB : S.ledger = B.recorded) {a : Award} {tick : Int}
    {s s' : LawState (Recorded L)} {events : List (Events.Event Value)}
    (h : S.award a tick s = .ok events s') (hamount : 0 < a.amountCents) :
    ∃ paid opened, Split a tick s s' paid opened := by
  unfold award at h
  rcases onlyIf_eq_ok.mp h with ⟨-, h⟩ | ⟨hnot, -⟩
  · rw [get_bind] at h
    obtain ⟨event, t, hpost, h⟩ := bind_eq_ok.mp h
    obtain ⟨books, hbooks, rfl⟩ := zoom_eq_ok.mp hpost
    obtain ⟨_, u, hopen, h⟩ := bind_eq_ok.mp h
    obtain ⟨-, rfl⟩ := pure_eq_ok.mp h
    obtain ⟨hpaid, hle⟩ := S.paidNow_nonneg hamount s.books.ledger
    obtain ⟨log, hemit, -, hledger⟩ := stagePosted_eq_ok.mp hbooks
    have hkind := (emit_became hemit).1
    refine ⟨S.paidNow a s.books.ledger, a.amountCents - S.paidNow a s.books.ledger, by omega,
      hpaid, by omega, ⟨event, hkind, ?_⟩, ?_⟩
    · have hposted : u.posted = books.ledger.2 := by
        unfold runIf at hopen
        rcases ite_eq_ok.mp hopen with ⟨-, hopen⟩ | ⟨-, hopen⟩
        · obtain rfl := modify_eq_ok.mp hopen
          rfl
        · obtain ⟨-, rfl⟩ := pure_eq_ok.mp hopen
          rfl
      rw [hposted]
      by_cases hzero : S.paidNow a s.books.ledger = 0
      · rw [if_neg (not_not.mpr hzero)] at hledger
        rw [if_pos hzero, hledger, List.append_nil]
        rfl
      · rw [if_pos hzero, hB] at hledger
        rw [if_neg hzero]
        exact posted_of_ok hledger
    · unfold runIf at hopen
      rcases ite_eq_ok.mp hopen with ⟨hshort, hopen⟩ | ⟨hshort, hopen⟩
      · obtain rfl := modify_eq_ok.mp hopen
        rw [if_neg hshort]
        rfl
      · obtain ⟨-, rfl⟩ := pure_eq_ok.mp hopen
        rw [if_pos (not_not.mp hshort)]
        rfl
  · omega

/-- An award is no garnishment. -/
def Plain (a : Award) : Prop := a.kind ≠ GARNISHMENT_COLLECTED

omit [CanonicalJson Value] [Events.Sha256] [PayloadSchemas Value] in
theorem receivableId?_of_kind {p : Posting} (h : p.cause.kind ≠ GARNISHMENT_COLLECTED) :
    p.receivableId? = none := by
  unfold Posting.receivableId?
  rw [if_neg h]

theorem award_extends (hB : S.ledger = B.recorded) {a : Award} (hplain : Plain a) (tick : Int)
    {s : LawState (Recorded L)} (h : Listed s) (hclash : NoClash s a) :
    Extends s (stateAfter (S.award a tick s)) ∧ Listed (stateAfter (S.award a tick s)) := by
  by_cases hamount : 0 < a.amountCents
  · cases hrun : S.award a tick s with
    | error e t =>
      -- the posting raised: no receivable is opened
      have haside : Aside s t := by
        unfold award at hrun
        obtain ⟨-, hrun⟩ := onlyIf_eq_error.mp hrun
        rw [get_bind] at hrun
        rcases bind_eq_error.mp hrun with hrun | ⟨event, u, -, hrun⟩
        · obtain ⟨books, hbooks, rfl⟩ := zoom_eq_error.mp hrun
          rw [hB] at hbooks
          have hposted := posted_of_error hbooks
          rcases hposted with hsame | ⟨v, event, hbecame, hposted⟩
          · exact aside_of_eq rfl hsame
          · refine ⟨rfl, _, hposted, ?_⟩
            intro p hp
            rw [List.mem_singleton.mp hp]
            apply receivableId?_of_kind
            rw [hbecame.1]
            exact hplain
        · unfold runIf at hrun
          rcases bind_eq_error.mp hrun with hrun | ⟨_, w, -, hrun⟩
          · split at hrun
            · cases hrun
            · cases hrun
          · cases hrun
      exact ⟨haside.extends, h.congr haside.same⟩
    | ok events t =>
      obtain ⟨paid, opened, hsplit⟩ := award_splits hB hrun hamount
      rw [stateAfter_ok]
      have hposted : ∃ extra, t.posted = s.posted ++ extra ∧
          ∀ p ∈ extra, p.receivableId? = none := by
        obtain ⟨event, hkind, hposted⟩ := hsplit.posted
        refine ⟨_, hposted, ?_⟩
        intro p hp
        split at hp
        · cases hp
        · rw [List.mem_singleton.mp hp]
          apply receivableId?_of_kind
          rw [hkind]
          exact hplain
      have hrows := hsplit.receivables
      by_cases hopened : opened = 0
      · rw [if_pos hopened] at hrows
        have haside : Aside s t := ⟨hrows, hposted⟩
        exact ⟨haside.extends, h.congr hrows⟩
      · rw [if_neg hopened] at hrows
        have hfresh := h.fresh hclash
        have hentries : t.receivables.entries = s.receivables.entries
            ++ [(stableId "rec" (awardParts a s.receivables.entries.length), debtOf a opened
              (stableId "rec" (awardParts a s.receivables.entries.length)))] := by
          rw [hrows]
          apply Dict.putEntry_of_notMem
          intro hkey
          obtain ⟨row, hrow⟩ := Dict.mem_keys_iff.mp hkey
          rw [hfresh] at hrow
          cases hrow
        refine ⟨⟨?_, ?_, hposted⟩, ⟨?_, ?_⟩⟩
        · intro id row hrow
          rw [hrows, Dict.get?_put]
          split
          · next hid =>
            rw [hid, hfresh] at hrow
            cases hrow
          · exact hrow
        · intro id row hrow
          rw [hrows, Dict.get?_put] at hrow
          split at hrow
          · cases hrow
            exact Or.inr hsplit.opened_nonneg
          · exact Or.inl hrow
        · intro id row hrow
          rw [hrows, Dict.get?_put] at hrow
          split at hrow
          · next hid =>
            cases hrow
            exact hid.symm
          · exact h.keyed id row hrow
        · intro n e he
          rw [hentries] at he
          by_cases hn : n < s.receivables.entries.length
          · rw [List.getElem?_append_left hn] at he
            exact h.named n e he
          · rw [List.getElem?_append_right (by omega)] at he
            cases hsub : n - s.receivables.entries.length with
            | zero =>
              rw [hsub] at he
              cases he
              have hlen : n = s.receivables.entries.length := by omega
              rw [hlen]
              rfl
            | succ k =>
              rw [hsub] at he
              cases he
  · rw [S.award_of_nonpos (by omega) tick s]
    exact ⟨(aside_refl s).extends, h⟩

end PenaltyService

/-- The callbacks of an `Incarceration` belong to other services: they leave the
receivables alone and garnish nothing. -/
structure Incarceration.Apart (inc : Incarceration (Recorded L)) : Prop where
  terminates : ∀ agentId tick, Leaves Aside (inc.terminateEmployment agentId tick)
  fines : ∀ fine ∈ inc.conversionFine, ∀ agentId caseId cents tick,
    Leaves Aside (fine agentId caseId cents tick)

namespace PenaltyService

variable [CanonicalJson Value] [Events.Sha256] [PayloadSchemas Value] {B : SocietyLedger L}
  {S : PenaltyService (Recorded L)}

theorem commit_aside {inc : Incarceration (Recorded L)} (hinc : inc.Apart)
    (agentId caseId : String) (ticks tick : Int) :
    Leaves Aside (S.commit inc agentId caseId ticks tick) := by
  unfold commit
  apply leaves_bind aside_trans (leaves_get aside_refl)
  intro s
  apply leaves_bind aside_trans
  · intro u
    cases S.runtime.number S.base "prison.capacity" tick <;> exact aside_refl u
  intro capacity
  apply leaves_bind aside_trans
  · intro u
    rw [stateAfter_zoom]
    exact aside_of_eq rfl (congrArg Prod.snd (emit_posted S.journal _ tick u.books))
  intro event
  split
  · apply leaves_bind aside_trans
    · exact leaves_modify fun u => aside_of_eq rfl rfl
    intro _
    apply leaves_bind aside_trans (hinc.terminates agentId tick)
    intro ended
    exact leaves_pure aside_refl _
  · split
    · exact leaves_pure aside_refl _
    · next fine hfine =>
      apply leaves_bind aside_trans (hinc.fines fine hfine agentId caseId _ tick)
      intro fined
      exact leaves_pure aside_refl _

/-- The awards a judgment makes, with the state each begins in. -/
def awardsOf (S : PenaltyService (Recorded L)) (caseId : String) (j : Judgment) (tick : Int)
    (s : LawState (Recorded L)) : List (LawState (Recorded L) × Award) :=
  match S.cases caseId with
  | none => []
  | some case =>
    let convicted := stateAfter ((runIf (j.verdict = .guilty ∧ S.incarceration.isSome = true)
      (modify (recordConviction case.defendantId)) : LawM (Recorded L) Unit) s)
    let awards := judgmentAwards case (S.crimes (case.crimeId.getD "")) j
    visited (fun a => S.award a tick) awards convicted ++
      match gather (fun a => S.award a tick) awards convicted with
      | .ok _ t => visited (fun a => S.award a tick) (S.costsAward case) t
      | .error _ _ => []

theorem apply_extends (hB : S.ledger = B.recorded) (hinc : ∀ inc ∈ S.incarceration, inc.Apart)
    {caseId : String} {j : Judgment} {tick : Int} {s : LawState (Recorded L)} (h : Listed s)
    (hclash : ∀ v ∈ awardsOf S caseId j tick s, NoClash v.1 v.2) :
    Extends s (stateAfter (S.apply caseId j tick s)) ∧
      Listed (stateAfter (S.apply caseId j tick s)) := by
  have haside : ∀ {u v : LawState (Recorded L)}, Extends s u ∧ Listed u → Aside u v →
      Extends s v ∧ Listed v := by
    intro u v hu hv
    exact ⟨hu.1.trans hv.extends, hu.2.congr hv.same⟩
  have hloop : ∀ (awards : List Award) (u : LawState (Recorded L)),
      (∀ a ∈ awards, Plain a) →
      (∀ v ∈ visited (fun a => S.award a tick) awards u, NoClash v.1 v.2) →
      Extends s u ∧ Listed u →
      Extends s (stateAfter (gather (fun a => S.award a tick) awards u)) ∧
        Listed (stateAfter (gather (fun a => S.award a tick) awards u)) := by
    intro awards u hplain hnone hu
    apply gather_invariant (I := fun v => Extends s v ∧ Listed v) _ hu
    intro v hv hI
    have hmem : v.2 ∈ awards := mem_of_visited hv
    obtain ⟨hext, hlisted⟩ := award_extends hB (hplain v.2 hmem) tick hI.2 (hnone v hv)
    exact ⟨hI.1.trans hext, hlisted⟩
  unfold apply
  unfold awardsOf at hclash
  cases hcase : S.cases caseId with
  | none => exact ⟨(aside_refl s).extends, h⟩
  | some case =>
    rw [hcase] at hclash
    dsimp only at hclash ⊢
    -- the conviction is recorded
    have hconvicted : ∃ u, (runIf (j.verdict = .guilty ∧ S.incarceration.isSome = true)
        (modify (recordConviction case.defendantId)) : LawM (Recorded L) Unit) s = .ok () u ∧
        Aside s u := by
      unfold runIf
      split
      · exact ⟨_, rfl, aside_of_eq rfl rfl⟩
      · exact ⟨s, rfl, aside_refl s⟩
    obtain ⟨u, hrecord, hu⟩ := hconvicted
    rw [hrecord, stateAfter_ok] at hclash
    rw [bind_of_ok hrecord]
    have hstart : Extends s u ∧ Listed u := ⟨hu.extends, h.congr hu.same⟩
    have hplain : ∀ a ∈ judgmentAwards case (S.crimes (case.crimeId.getD "")) j, Plain a := by
      intro a ha
      unfold judgmentAwards at ha
      unfold Plain
      rcases List.mem_append.mp ha with ha | ha
      · rcases List.mem_append.mp ha with ha | ha
        · rw [List.mem_singleton.mp ha]
          show FINE_LEVIED ≠ GARNISHMENT_COLLECTED
          decide
        · obtain ⟨plaintiff, -, rfl⟩ := List.mem_map.mp ha
          show DAMAGES_AWARDED ≠ GARNISHMENT_COLLECTED
          decide
      · obtain ⟨victim, -, rfl⟩ := List.mem_map.mp ha
        show DAMAGES_AWARDED ≠ GARNISHMENT_COLLECTED
        decide
    have hawarded := hloop _ u hplain
      (fun v hv => hclash v (List.mem_append_left _ hv)) hstart
    cases hrun : gather (fun a => S.award a tick)
        (judgmentAwards case (S.crimes (case.crimeId.getD "")) j) u with
    | error e t =>
      rw [hrun] at hawarded
      rw [bind_of_error hrun]
      exact hawarded
    | ok awarded t =>
      rw [hrun] at hawarded hclash
      rw [bind_of_ok hrun]
      rw [stateAfter_ok] at hawarded
      cases S.runtime.flag S.base "courts.loser_pays" tick with
      | error e =>
        rw [bind_of_error liftPy_error]
        exact hawarded
      | ok loserPays =>
        rw [bind_of_ok liftPy_ok]
        have hcosts : Extends s (stateAfter ((onlyIf
            (loserPays = true ∧ j.verdict.punitive = true)
            (gather (fun a => S.award a tick) (S.costsAward case)) : LawM _ _) t)) ∧
            Listed (stateAfter ((onlyIf (loserPays = true ∧ j.verdict.punitive = true)
              (gather (fun a => S.award a tick) (S.costsAward case)) : LawM _ _) t)) := by
          unfold onlyIf
          split
          · apply hloop _ t _ (fun v hv => hclash v (List.mem_append_right _ hv)) hawarded
            intro a ha
            obtain ⟨plaintiff, -, rfl⟩ := List.mem_map.mp ha
            show DAMAGES_AWARDED ≠ GARNISHMENT_COLLECTED
            decide
          · exact hawarded
        cases hrun' : (onlyIf (loserPays = true ∧ j.verdict.punitive = true)
            (gather (fun a => S.award a tick) (S.costsAward case)) : LawM _ _) t with
        | error e v =>
          rw [hrun'] at hcosts
          rw [bind_of_error hrun']
          exact hcosts
        | ok costs v =>
          rw [hrun'] at hcosts
          rw [bind_of_ok hrun', stateAfter_bind_pure]
          rw [stateAfter_ok] at hcosts
          apply haside hcosts
          have hserve : Leaves Aside (onlyIf (j.sentenceTicks ≠ 0)
              (S.serve case.defendantId caseId j.sentenceTicks tick)) := by
            apply leaves_ite
            · unfold serve
              cases hservice : S.incarceration with
              | none => exact leaves_pure aside_refl _
              | some inc =>
                exact commit_aside (hinc inc hservice) case.defendantId caseId _ tick
            · exact leaves_pure aside_refl _
          exact hserve v

end PenaltyService

/-! ## What a garnishment does -/

/-- A collection: a posting from the debtor for a receivable of the register. -/
structure Collection (agentId : String) (s : LawState (Recorded L)) (p : Posting) : Prop where
  positive : 0 < p.total
  payer : ∃ creditorId, p.transfers = [(agentId, creditorId, p.total)]
  debt : ∃ id row, p.receivableId? = some id ∧ s.receivables.get? id = some row

/-- What garnishments do: each receivable is lowered by what was posted for it,
and not below zero. -/
structure Collects (agentId : String) (s s' : LawState (Recorded L)) (new : List Posting) :
    Prop where
  posted : s'.posted = s.posted ++ new
  keys : s'.receivables.keys = s.receivables.keys
  rows : ∀ id row, s.receivables.get? id = some row → ∃ row',
    s'.receivables.get? id = some row' ∧
    row' = { row with outstandingCents := row.outstandingCents - collectedFor new id } ∧
    (0 ≤ row.outstandingCents → 0 ≤ row'.outstandingCents)
  each : ∀ p ∈ new, Collection agentId s p

theorem collects_refl (agentId : String) {s s' : LawState (Recorded L)}
    (hsame : s'.receivables = s.receivables) (hposted : s'.posted = s.posted) :
    Collects agentId s s' [] where
  posted := by rw [hposted, List.append_nil]
  keys := by rw [hsame]
  rows := by
    intro id row hrow
    refine ⟨row, hsame ▸ hrow, ?_, fun hle => hle⟩
    show row = { row with outstandingCents := row.outstandingCents - 0 }
    rw [Int.sub_zero]
  each := fun p hp => by cases hp

theorem Collects.get?_of_none {agentId : String} {s s' : LawState (Recorded L)}
    {new : List Posting} (h : Collects agentId s s' new) {id : String} {row : Receivable}
    (hrow : s'.receivables.get? id = some row) : ∃ row, s.receivables.get? id = some row := by
  apply Dict.mem_keys_iff.mp
  rw [← h.keys]
  exact Dict.mem_keys_iff.mpr ⟨row, hrow⟩

theorem Collects.trans {agentId : String} {a b c : LawState (Recorded L)}
    {ps qs : List Posting} (h : Collects agentId a b ps) (h' : Collects agentId b c qs) :
    Collects agentId a c (ps ++ qs) where
  posted := by rw [h'.posted, h.posted, List.append_assoc]
  keys := h'.keys.trans h.keys
  rows := by
    intro id row hrow
    obtain ⟨row₁, hrow₁, heq₁, hnonneg₁⟩ := h.rows id row hrow
    obtain ⟨row₂, hrow₂, heq₂, hnonneg₂⟩ := h'.rows id row₁ hrow₁
    refine ⟨row₂, hrow₂, ?_, fun hle => hnonneg₂ (hnonneg₁ hle)⟩
    rw [heq₂, heq₁, collectedFor_append]
    show { row with outstandingCents :=
      row.outstandingCents - collectedFor ps id - collectedFor qs id } = _
    rw [Int.sub_sub]
  each := by
    intro p hp
    rcases List.mem_append.mp hp with hp | hp
    · exact h.each p hp
    · obtain ⟨hpositive, hpayer, id, row, hid, hrow⟩ := h'.each p hp
      obtain ⟨row', hrow'⟩ := h.get?_of_none hrow
      exact ⟨hpositive, hpayer, id, row', hid, hrow'⟩

theorem Collects.listed [Events.Sha256] {agentId : String} {s s' : LawState (Recorded L)}
    {new : List Posting} (h : Collects agentId s s' new) (hs : Listed s) : Listed s' where
  keyed := by
    intro id row hrow
    obtain ⟨row₀, hrow₀⟩ := h.get?_of_none hrow
    obtain ⟨row', hrow', heq, -⟩ := h.rows id row₀ hrow₀
    rw [hrow] at hrow'
    cases hrow'
    rw [heq]
    exact hs.keyed id row₀ hrow₀
  named := by
    intro n e he
    have hrow : s'.receivables.get? e.1 = some e.2 :=
      Dict.mem_entries_iff.mp (List.mem_of_getElem? he)
    obtain ⟨row₀, hrow₀⟩ := h.get?_of_none hrow
    obtain ⟨row', hrow', heq, -⟩ := h.rows e.1 row₀ hrow₀
    rw [hrow] at hrow'
    cases hrow'
    -- the row stands where it stood before
    have hkey : s.receivables.keys[n]? = some e.1 := by
      rw [← h.keys]
      unfold Dict.keys
      rw [List.getElem?_map, he]
      rfl
    unfold Dict.keys at hkey
    rw [List.getElem?_map] at hkey
    obtain ⟨e₀, he₀, hfst⟩ := Option.map_eq_some_iff.mp hkey
    have hrow₁ : s.receivables.get? e₀.1 = some e₀.2 :=
      Dict.mem_entries_iff.mp (List.mem_of_getElem? he₀)
    rw [hfst, hrow₀] at hrow₁
    have hname := hs.named n e₀ he₀
    rw [hfst, ← Option.some.inj hrow₁] at hname
    rw [hname, heq]
    rfl

namespace PenaltyService

variable [CanonicalJson Value] [Events.Sha256] [PayloadSchemas Value] {B : SocietyLedger L}
  {S : PenaltyService (Recorded L)}

/-- The posting of a collection. -/
def collection (row : Receivable) (agentId : String) (amount tick : Int)
    (event : Events.Event Value) : Posting :=
  ⟨[(agentId, row.creditorId, amount)], row.reason, tick, event⟩

omit [CanonicalJson Value] [Events.Sha256] [PayloadSchemas Value] in
theorem total_collection (row : Receivable) (agentId : String) (amount tick : Int)
    (event : Events.Event Value) : (collection row agentId amount tick event).total = amount := by
  show [amount].sum = amount
  rw [List.sum_singleton]

omit [CanonicalJson Value] [Events.Sha256] [PayloadSchemas Value] in
theorem receivableId?_collection {row : Receivable} {agentId : String} {amount tick : Int}
    {txnId : UUID} {event : Events.Event Value}
    (h : (garnishDraft row agentId amount txnId).Became event) :
    (collection row agentId amount tick event).receivableId? = some row.receivableId := by
  have hkind : event.kind = GARNISHMENT_COLLECTED := h.1
  unfold Posting.receivableId? collection
  dsimp only
  rw [hkind, h.2, if_pos rfl]
  rfl

omit [CanonicalJson Value] [PayloadSchemas Value] in
theorem collects_of_posting {agentId id : String} {room tick : Int}
    {s s' : LawState (Recorded L)} {row : Receivable} {event : Events.Event Value}
    (h : Listed s) (hdue : S.Due agentId room s id row) {txnId : UUID}
    (hbecame : (garnishDraft row agentId (S.collectable row agentId room s.books.ledger)
      txnId).Became event)
    (hrows : s'.receivables = s.receivables.put id
      { row with outstandingCents :=
          row.outstandingCents - S.collectable row agentId room s.books.ledger })
    (hposted : s'.posted = s.posted ++
      [collection row agentId (S.collectable row agentId room s.books.ledger) tick event]) :
    Collects agentId s s'
      [collection row agentId (S.collectable row agentId room s.books.ledger) tick event] := by
  have hkey := h.keyed id row hdue.found
  have hid : (collection row agentId (S.collectable row agentId room s.books.ledger) tick
      event).receivableId? = some row.receivableId :=
    receivableId?_collection hbecame
  rw [hkey] at hid
  have hle : S.collectable row agentId room s.books.ledger ≤ row.outstandingCents := by
    unfold collectable
    omega
  refine ⟨hposted, ?_, ?_, ?_⟩
  · rw [hrows]
    exact Dict.keys_put _ _ (Dict.mem_keys_iff.mpr ⟨row, hdue.found⟩)
  · intro x rowx hrowx
    rw [hrows, Dict.get?_put]
    by_cases hx : x = id
    · rw [hx, hdue.found] at hrowx
      cases hrowx
      rw [if_pos hx]
      refine ⟨_, rfl, ?_, ?_⟩
      · have hsum : collectedFor
            [collection row agentId (S.collectable row agentId room s.books.ledger) tick event] x
            = S.collectable row agentId room s.books.ledger := by
          unfold collectedFor
          rw [List.filter_cons_of_pos (by rw [hid, hx]; exact decide_eq_true rfl)]
          show [Posting.total _].sum = _
          rw [total_collection, List.sum_singleton]
        rw [hsum]
      · intro _
        show 0 ≤ row.outstandingCents - S.collectable row agentId room s.books.ledger
        omega
    · rw [if_neg hx]
      refine ⟨rowx, hrowx, ?_, fun hle => hle⟩
      have hsum : collectedFor
          [collection row agentId (S.collectable row agentId room s.books.ledger) tick event] x
          = 0 := by
        apply collectedFor_eq_zero
        intro p hp
        rw [List.mem_singleton.mp hp, hid]
        intro heq
        exact hx (Option.some.inj heq).symm
      rw [hsum, Int.sub_zero]
  · intro p hp
    rw [List.mem_singleton.mp hp]
    refine ⟨?_, ⟨row.creditorId, ?_⟩, id, row, hid, hdue.found⟩
    · rw [total_collection]
      exact hdue.payable
    · rw [total_collection]
      rfl

omit [CanonicalJson Value] [Events.Sha256] [PayloadSchemas Value] in
theorem closeCollection_same (id : String) (remaining : Int) (actual predicted : UUID)
    (s : LawState (Recorded L)) :
    (stateAfter (closeCollection id remaining actual predicted s)).receivables = s.receivables ∧
    (stateAfter (closeCollection id remaining actual predicted s)).posted = s.posted := by
  unfold closeCollection runIf require
  by_cases hzero : remaining = 0
  · rw [if_pos hzero]
    by_cases hid : actual = predicted
    · rw [if_pos hid]
      exact ⟨rfl, rfl⟩
    · rw [if_neg hid]
      exact ⟨rfl, rfl⟩
  · rw [if_neg hzero]
    by_cases hid : actual = predicted
    · rw [if_pos hid]
      exact ⟨rfl, rfl⟩
    · rw [if_neg hid]
      exact ⟨rfl, rfl⟩

omit [CanonicalJson Value] [Events.Sha256] [PayloadSchemas Value] in
theorem postCollection_posted (hB : S.ledger = B.recorded) (id : String) (row : Receivable)
    (priorCause : Events.Event Value) (agentId : String) (amount tick : Int)
    (event : Events.Event Value) (u : LawState (Recorded L)) :
    (∃ actual v, S.postCollection id row priorCause agentId amount tick event u = .ok actual v ∧
      v.receivables = u.receivables ∧
      v.posted = u.posted ++ [collection row agentId amount tick event]) ∨
    (∃ e v, S.postCollection id row priorCause agentId amount tick event u = .error e v ∧
      v.receivables = u.receivables.put id row ∧ v.posted = u.posted) := by
  unfold postCollection
  rw [hB]
  rcases recorded_post B [(agentId, row.creditorId, amount)] row.reason tick event
      u.books.ledger with ⟨actual, l', hpost, hl⟩ | ⟨e, l', hpost, hl⟩
  · rw [hpost]
    exact Or.inl ⟨actual, _, rfl, rfl, hl⟩
  · rw [hpost]
    exact Or.inr ⟨_, _, rfl, rfl, hl⟩

theorem collect_collects (hB : S.ledger = B.recorded) (agentId : String) (cap tick : Int)
    (diverted : Int) (id : String) {s : LawState (Recorded L)} (h : Listed s) :
    ∃ new, Collects agentId s (stateAfter (S.collect agentId cap tick diverted id s)) new ∧
      ∀ diverted' s', S.collect agentId cap tick diverted id s = .ok diverted' s' →
        diverted' = diverted + (new.map Posting.total).sum ∧ (diverted ≤ cap → diverted' ≤ cap) := by
  by_cases hdue : ∃ row, S.Due agentId (cap - diverted) s id row
  · obtain ⟨row, hdue⟩ := hdue
    have hroom : S.collectable row agentId (cap - diverted) s.books.ledger ≤ cap - diverted := by
      unfold collectable
      omega
    rw [S.collect_of_due hdue]
    dsimp only
    rcases Books.emit_cases S.journal (garnishDraft row agentId
        (S.collectable row agentId (cap - diverted) s.books.ledger)
        (S.ledger.nextTransferId s.books.ledger tick)) tick s.books with
      ⟨f, log, hr, -⟩ | ⟨event, log, hr, hemit⟩
    · rw [bind_of_error (zoom_of_error hr)]
      exact ⟨[], collects_refl agentId rfl rfl, fun _ _ hok => by cases hok⟩
    · rw [bind_of_ok (zoom_of_ok hr)]
      cases hcause : s.receivableCauses.get? id with
      | none => exact ⟨[], collects_refl agentId rfl rfl, fun _ _ hok => by cases hok⟩
      | some priorCause =>
        have hbecame := emit_became hemit
        dsimp only
        rw [bind_of_ok ((modify_eq_ok (u := ⟨⟩)).mpr rfl)]
        rcases postCollection_posted hB id row priorCause agentId
            (S.collectable row agentId (cap - diverted) s.books.ledger) tick event
            (putReceivable id
              { row with
                outstandingCents := row.outstandingCents
                  - S.collectable row agentId (cap - diverted) s.books.ledger }
              event (s.withBooks { s.books with log })) with
          ⟨actual, v, hrun, hrows, hposted⟩ | ⟨e, v, hrun, hrows, hposted⟩
        · rw [bind_of_ok hrun]
          refine ⟨[collection row agentId
            (S.collectable row agentId (cap - diverted) s.books.ledger) tick event], ?_, ?_⟩
          · rw [stateAfter_bind_pure]
            apply collects_of_posting h hdue hbecame
            · rw [(closeCollection_same _ _ _ _ _).1, hrows]
              rfl
            · rw [(closeCollection_same _ _ _ _ _).2, hposted]
              rfl
          · intro diverted' s' hok
            obtain ⟨_, _, -, hok⟩ := bind_eq_ok.mp hok
            obtain ⟨rfl, -⟩ := pure_eq_ok.mp hok
            refine ⟨?_, fun _ => by omega⟩
            rw [List.map_singleton, List.sum_singleton, total_collection]
        · -- the row is put back
          rw [bind_of_error hrun]
          refine ⟨[], collects_refl agentId ?_ hposted, fun _ _ hok => by cases hok⟩
          show v.receivables = s.receivables
          rw [hrows]
          show (s.receivables.put id _).put id row = s.receivables
          rw [Dict.put_put, Dict.put_of_get? hdue.found]
  · rcases S.collect_of_not_due tick (not_exists.mp hdue) with ⟨e, hrun⟩ | hrun
    · rw [hrun]
      exact ⟨[], collects_refl agentId rfl rfl, fun _ _ hok => by cases hok⟩
    · rw [hrun]
      refine ⟨[], collects_refl agentId rfl rfl, ?_⟩
      intro diverted' s' hok
      cases hok
      exact ⟨by simp, fun hle => hle⟩

theorem garnish_collects (hB : S.ledger = B.recorded) (agentId : String)
    (incomeCents tick : Int) {s : LawState (Recorded L)} (h : Listed s) :
    ∃ new, Collects agentId s (stateAfter (S.garnish agentId incomeCents tick s)) new ∧
      ∀ diverted s', S.garnish agentId incomeCents tick s = .ok diverted s' →
        diverted = (new.map Posting.total).sum ∧
        diverted ≤ max 0 (Kernel.pyRound (incomeCents * S.cfg.garnishmentRate)) := by
  have hloop : ∀ (cap : Int) (ids : List String) (diverted : Int) (t : LawState (Recorded L)),
      Listed t → ∃ new,
      Collects agentId t (stateAfter (foldEff (S.collect agentId cap tick) diverted ids t)) new ∧
      ∀ diverted' s', foldEff (S.collect agentId cap tick) diverted ids t = .ok diverted' s' →
        diverted' = diverted + (new.map Posting.total).sum ∧
        (diverted ≤ cap → diverted' ≤ cap) := by
    intro cap ids
    induction ids with
    | nil =>
      intro diverted t _
      refine ⟨[], collects_refl agentId rfl rfl, ?_⟩
      intro diverted' s' hok
      obtain ⟨rfl, -⟩ := pure_eq_ok.mp hok
      exact ⟨by simp, fun hle => hle⟩
    | cons id ids ih =>
      intro diverted t ht
      obtain ⟨new, hnew, hok⟩ := collect_collects hB agentId cap tick diverted id ht
      rw [foldEff_cons]
      cases hrun : S.collect agentId cap tick diverted id t with
      | error e u =>
        rw [hrun] at hnew
        rw [bind_of_error hrun]
        exact ⟨new, hnew, fun _ _ hok => by cases hok⟩
      | ok diverted' u =>
        rw [hrun] at hnew
        rw [bind_of_ok hrun]
        rw [stateAfter_ok] at hnew
        obtain ⟨hsum, hcap⟩ := hok diverted' u hrun
        obtain ⟨rest, hrest, hok'⟩ := ih diverted' u (hnew.listed ht)
        refine ⟨new ++ rest, hnew.trans hrest, ?_⟩
        intro total s' hrun'
        obtain ⟨hsum', hcap'⟩ := hok' total s' hrun'
        refine ⟨?_, fun hle => hcap' (hcap hle)⟩
        rw [List.map_append, List.sum_append]
        omega
  unfold garnish
  rw [get_bind]
  obtain ⟨new, hnew, hok⟩ := hloop (max 0 (Kernel.pyRound (incomeCents * S.cfg.garnishmentRate)))
    (s.receivables.keys.insertionSort (· ≤ ·)) 0 s h
  refine ⟨new, hnew, ?_⟩
  intro diverted s' hrun
  obtain ⟨hsum, hcap⟩ := hok diverted s' hrun
  exact ⟨by omega, hcap (by omega)⟩

end PenaltyService

/-! ## Runs -/

/-- One step of a run: a judgment applied or an income garnished, with the
service as it is then, or anything else that posts no garnishment and leaves
the receivables alone. -/
inductive DebtStep (L : Type) where
  | apply (S : PenaltyService (Recorded L)) (caseId : String) (j : Judgment) (tick : Int)
  | garnish (S : PenaltyService (Recorded L)) (agentId : String) (incomeCents tick : Int)
  | outside (rest : LawState L) (postings : List Posting)

/-- A run: the state, and what each receivable was opened with. -/
structure DebtRun (L : Type) where
  state : LawState (Recorded L)
  openings : Dict String Int := ∅

namespace DebtStep

variable [CanonicalJson Value] [Events.Sha256] [PayloadSchemas Value]

/-- The receivables that are new, with what is outstanding of them. -/
def noteOpenings (s : LawState (Recorded L)) (openings : Dict String Int) : Dict String Int :=
  s.receivables.entries.foldl
    (fun d e => if d.contains e.1 then d else d.put e.1 e.2.outstandingCents) openings

/-- The rest of the world goes on. -/
def goOn (rest : LawState L) (postings : List Posting) (s : LawState (Recorded L)) :
    LawState (Recorded L) :=
  { s with
    books :=
      { log := rest.books.log
        ledger := (rest.books.ledger,
          s.posted ++ postings.filter fun p => p.receivableId? = none) }
    sentences := rest.sentences
    records := rest.records
    locations := rest.locations }

/-- One step, returned or raised. -/
def step (r : DebtRun L) : DebtStep L → DebtRun L
  | .apply S caseId j tick =>
    let state := stateAfter (S.apply caseId j tick r.state)
    { state, openings := noteOpenings state r.openings }
  | .garnish S agentId incomeCents tick =>
    { r with state := stateAfter (S.garnish agentId incomeCents tick r.state) }
  | .outside rest postings => { r with state := goOn rest postings r.state }

/-- A run from a state. -/
def run (r : DebtRun L) (steps : List (DebtStep L)) : DebtRun L := steps.foldl step r

/-- The services of a step post on the recorded ledger, the callbacks of the
incarceration are apart, and no two identifiers collide. -/
def Proper (B : SocietyLedger L) (r : DebtRun L) : DebtStep L → Prop
  | .apply S caseId j tick =>
    S.ledger = B.recorded ∧ (∀ inc ∈ S.incarceration, inc.Apart) ∧
      ∀ v ∈ PenaltyService.awardsOf S caseId j tick r.state, NoClash v.1 v.2
  | .garnish S _ _ _ => S.ledger = B.recorded
  | .outside _ _ => True

/-- Every step of a run is as `Proper` asks. -/
def AllProper (B : SocietyLedger L) : DebtRun L → List (DebtStep L) → Prop
  | _, [] => True
  | r, a :: as => a.Proper B r ∧ AllProper B (step r a) as

end DebtStep

/-- Every receivable is what it was opened with less what was collected for it,
and never negative. -/
structure Balanced [Events.Sha256] (r : DebtRun L) : Prop where
  listed : Listed r.state
  rows : ∀ id row, r.state.receivables.get? id = some row → ∃ opening,
    r.openings.get? id = some opening ∧
      row.outstandingCents = opening - collectedFor r.state.posted id ∧
      0 ≤ row.outstandingCents
  known : ∀ id opening, r.openings.get? id = some opening →
    ∃ row, r.state.receivables.get? id = some row
  debts : ∀ p ∈ r.state.posted, ∀ id, p.receivableId? = some id →
    0 < p.total ∧ ∃ row, r.state.receivables.get? id = some row

section Balanced

theorem collectedFor_of_none {ps extra : List Posting} (h : ∀ p ∈ extra, p.receivableId? = none)
    (id : String) : collectedFor (ps ++ extra) id = collectedFor ps id := by
  have hzero : collectedFor extra id = 0 := by
    apply collectedFor_eq_zero
    intro p hp
    rw [h p hp]
    intro heq
    cases heq
  rw [collectedFor_append, hzero, Int.add_zero]

theorem get?_noteOpenings (s : LawState (Recorded L)) (openings : Dict String Int)
    (id : String) : (DebtStep.noteOpenings s openings).get? id
      = (openings.get? id).or ((s.receivables.get? id).map Receivable.outstandingCents) := by
  have hlist : ∀ (rows : List (String × Receivable)) (d : Dict String Int),
      (rows.foldl (fun d e => if d.contains e.1 then d else d.put e.1 e.2.outstandingCents)
        d).get? id = (d.get? id).or ((Dict.lookup id rows).map Receivable.outstandingCents) := by
    intro rows
    induction rows with
    | nil =>
      intro d
      show d.get? id = (d.get? id).or none
      rw [Option.or_none]
    | cons e rows ih =>
      intro d
      have hhead : Dict.lookup id (e :: rows)
          = if e.1 = id then some e.2 else Dict.lookup id rows := rfl
      rw [List.foldl_cons, ih, hhead]
      by_cases hid : e.1 = id
      · rw [if_pos hid]
        by_cases hknown : d.contains e.1 = true
        · rw [if_pos hknown]
          obtain ⟨o, ho⟩ := Dict.contains_iff.mp hknown
          rw [hid] at ho
          rw [ho]
          rfl
        · rw [if_neg hknown]
          have hnone : d.get? id = none := by
            rw [← hid]
            unfold Dict.contains at hknown
            simpa using hknown
          rw [hid, Dict.get?_put_self, hnone]
          rfl
      · rw [if_neg hid]
        split
        · rfl
        · rw [Dict.get?_put_of_ne (Ne.symm hid)]
  exact hlist s.receivables.entries openings

variable [CanonicalJson Value] [Events.Sha256] [PayloadSchemas Value]

omit [CanonicalJson Value] [PayloadSchemas Value] in
theorem Balanced.extend {r : DebtRun L} {s' : LawState (Recorded L)} (h : Balanced r)
    (hext : Extends r.state s') (hlisted : Listed s') :
    Balanced { state := s', openings := DebtStep.noteOpenings s' r.openings } := by
  obtain ⟨extra, hposted, hnone⟩ := hext.posted
  have hold : ∀ id row, r.state.receivables.get? id = some row → ∃ opening,
      (DebtStep.noteOpenings s' r.openings).get? id = some opening ∧
        row.outstandingCents = opening - collectedFor s'.posted id ∧
        0 ≤ row.outstandingCents := by
    intro id row hrow
    obtain ⟨opening, hopening, hsum, hnonneg⟩ := h.rows id row hrow
    refine ⟨opening, ?_, ?_, hnonneg⟩
    · rw [get?_noteOpenings, hopening]
      rfl
    · rw [hposted, collectedFor_of_none hnone]
      exact hsum
  refine ⟨hlisted, ?_, ?_, ?_⟩
  · intro id row hrow
    rcases hext.added id row hrow with hrow' | hnonneg
    · exact hold id row hrow'
    · cases hbefore : r.state.receivables.get? id with
      | some row₀ =>
        have hkept := hext.kept id row₀ hbefore
        have hrow : s'.receivables.get? id = some row := hrow
        rw [hrow] at hkept
        cases hkept
        exact hold id row hbefore
      | none =>
        -- nothing was collected for a receivable that was not there
        have hzero : collectedFor r.state.posted id = 0 := by
          apply collectedFor_eq_zero
          intro p hp hid
          obtain ⟨-, row₀, hrow₀⟩ := h.debts p hp id hid
          rw [hbefore] at hrow₀
          cases hrow₀
        have hunknown : r.openings.get? id = none := by
          cases hopening : r.openings.get? id with
          | none => rfl
          | some opening =>
            obtain ⟨row₀, hrow₀⟩ := h.known id opening hopening
            rw [hbefore] at hrow₀
            cases hrow₀
        refine ⟨row.outstandingCents, ?_, ?_, hnonneg⟩
        · have hrow : s'.receivables.get? id = some row := hrow
          rw [get?_noteOpenings, hunknown, hrow]
          rfl
        · show row.outstandingCents = row.outstandingCents - collectedFor s'.posted id
          rw [hposted, collectedFor_of_none hnone, hzero, Int.sub_zero]
  · intro id opening hopening
    rw [get?_noteOpenings] at hopening
    cases hbefore : r.openings.get? id with
    | some o =>
      obtain ⟨row, hrow⟩ := h.known id o hbefore
      exact ⟨row, hext.kept id row hrow⟩
    | none =>
      rw [hbefore] at hopening
      obtain ⟨row, hrow, -⟩ := Option.map_eq_some_iff.mp hopening
      exact ⟨row, hrow⟩
  · intro p hp id hid
    have hp : p ∈ s'.posted := hp
    rw [hposted] at hp
    rcases List.mem_append.mp hp with hp | hp
    · obtain ⟨hpositive, row, hrow⟩ := h.debts p hp id hid
      exact ⟨hpositive, row, hext.kept id row hrow⟩
    · rw [hnone p hp] at hid
      cases hid

omit [CanonicalJson Value] [PayloadSchemas Value] in
theorem Balanced.collect {r : DebtRun L} {s' : LawState (Recorded L)} {agentId : String}
    {new : List Posting} (h : Balanced r) (hnew : Collects agentId r.state s' new) :
    Balanced { r with state := s' } := by
  refine ⟨hnew.listed h.listed, ?_, ?_, ?_⟩
  · intro id row hrow
    obtain ⟨row₀, hrow₀⟩ := hnew.get?_of_none hrow
    obtain ⟨row', hrow', heq, hnonneg⟩ := hnew.rows id row₀ hrow₀
    have hrow : s'.receivables.get? id = some row := hrow
    rw [hrow] at hrow'
    cases hrow'
    obtain ⟨opening, hopening, hsum, hle⟩ := h.rows id row₀ hrow₀
    refine ⟨opening, hopening, ?_, hnonneg hle⟩
    show row.outstandingCents = opening - collectedFor s'.posted id
    rw [hnew.posted, collectedFor_append, heq]
    show row₀.outstandingCents - collectedFor new id = _
    omega
  · intro id opening hopening
    obtain ⟨row, hrow⟩ := h.known id opening hopening
    obtain ⟨row', hrow', -⟩ := hnew.rows id row hrow
    exact ⟨row', hrow'⟩
  · intro p hp id hid
    have hp : p ∈ s'.posted := hp
    rw [hnew.posted] at hp
    rcases List.mem_append.mp hp with hp | hp
    · obtain ⟨hpositive, row, hrow⟩ := h.debts p hp id hid
      obtain ⟨row', hrow', -⟩ := hnew.rows id row hrow
      exact ⟨hpositive, row', hrow'⟩
    · have hcollection := hnew.each p hp
      obtain ⟨id', row, hid', hrow⟩ := hcollection.debt
      rw [hid] at hid'
      cases hid'
      obtain ⟨row', hrow', -⟩ := hnew.rows id row hrow
      exact ⟨hcollection.positive, row', hrow'⟩

omit [CanonicalJson Value] [PayloadSchemas Value] in
theorem Balanced.goOn {r : DebtRun L} (h : Balanced r) (rest : LawState L)
    (postings : List Posting) : Balanced { r with state := DebtStep.goOn rest postings r.state } := by
  have hnone : ∀ p ∈ postings.filter (fun p => p.receivableId? = none),
      p.receivableId? = none := by
    intro p hp
    simpa using (List.mem_filter.mp hp).2
  refine ⟨h.listed.congr rfl, ?_, h.known, ?_⟩
  · intro id row hrow
    obtain ⟨opening, hopening, hsum, hle⟩ := h.rows id row hrow
    refine ⟨opening, hopening, ?_, hle⟩
    show row.outstandingCents = opening - collectedFor
      (r.state.posted ++ postings.filter fun p => p.receivableId? = none) id
    rw [collectedFor_of_none hnone]
    exact hsum
  · intro p hp id hid
    rcases List.mem_append.mp hp with hp | hp
    · exact h.debts p hp id hid
    · rw [hnone p hp] at hid
      cases hid

/-- What a run adds to: postings and openings stay. -/
structure Grows (r r' : DebtRun L) : Prop where
  posted : ∃ more, r'.state.posted = r.state.posted ++ more
  openings : ∀ id opening, r.openings.get? id = some opening →
    r'.openings.get? id = some opening

omit [CanonicalJson Value] [Events.Sha256] [PayloadSchemas Value] in
theorem Grows.refl (r : DebtRun L) : Grows r r :=
  ⟨⟨[], by rw [List.append_nil]⟩, fun _ _ h => h⟩

omit [CanonicalJson Value] [Events.Sha256] [PayloadSchemas Value] in
theorem Grows.trans {a b c : DebtRun L} (h : Grows a b) (h' : Grows b c) : Grows a c := by
  obtain ⟨ps, hps⟩ := h.posted
  obtain ⟨qs, hqs⟩ := h'.posted
  refine ⟨⟨ps ++ qs, ?_⟩, fun id opening ho => h'.openings id opening (h.openings id opening ho)⟩
  rw [hqs, hps, List.append_assoc]

theorem Balanced.step {B : SocietyLedger L} {r : DebtRun L} {a : DebtStep L} (h : Balanced r)
    (ha : a.Proper B r) : Balanced (DebtStep.step r a) ∧ Grows r (DebtStep.step r a) := by
  cases a with
  | apply S caseId j tick =>
    obtain ⟨hext, hlisted⟩ := PenaltyService.apply_extends ha.1 ha.2.1 h.listed ha.2.2
    refine ⟨h.extend hext hlisted, ?_, ?_⟩
    · obtain ⟨extra, hposted, -⟩ := hext.posted
      exact ⟨extra, hposted⟩
    · intro id opening hopening
      show (DebtStep.noteOpenings _ r.openings).get? id = some opening
      rw [get?_noteOpenings, hopening]
      rfl
  | garnish S agentId incomeCents tick =>
    obtain ⟨new, hnew, -⟩ := PenaltyService.garnish_collects ha agentId incomeCents tick h.listed
    exact ⟨h.collect hnew, ⟨new, hnew.posted⟩, fun _ _ ho => ho⟩
  | outside rest postings => exact ⟨h.goOn rest postings, ⟨_, rfl⟩, fun _ _ ho => ho⟩

omit [CanonicalJson Value] [Events.Sha256] [PayloadSchemas Value] in
theorem filter_of_settled {more : List Posting} {id : String}
    (hpositive : ∀ p ∈ more, p.receivableId? = some id → 0 < p.total)
    (hsum : collectedFor more id ≤ 0) : more.filter (fun p => p.receivableId? = some id) = [] := by
  cases hfilter : more.filter fun p => p.receivableId? = some id with
  | nil => rfl
  | cons p ps =>
    exfalso
    have hall : ∀ q ∈ p :: ps, 0 < q.total := by
      intro q hq
      rw [← hfilter] at hq
      obtain ⟨hmem, hid⟩ := List.mem_filter.mp hq
      exact hpositive q hmem (by simpa using hid)
    have hrest : 0 ≤ (ps.map Posting.total).sum := by
      apply List.sum_nonneg
      intro x hx
      obtain ⟨q, hq, rfl⟩ := List.mem_map.mp hx
      exact (hall q (List.mem_cons_of_mem _ hq)).le
    have hhead := hall p List.mem_cons_self
    unfold collectedFor at hsum
    rw [hfilter, List.map_cons, List.sum_cons] at hsum
    omega

theorem Balanced.run {B : SocietyLedger L} (steps : List (DebtStep L)) (r : DebtRun L)
    (h : Balanced r) (hall : DebtStep.AllProper B r steps) :
    (∀ n, Balanced (DebtStep.run r (steps.take n)) ∧
      Grows r (DebtStep.run r (steps.take n)) ∧
      ∀ a, steps[n]? = some a → a.Proper B (DebtStep.run r (steps.take n)) ∧
        DebtStep.run r (steps.take (n + 1))
          = DebtStep.step (DebtStep.run r (steps.take n)) a) ∧
    ∀ n m, n ≤ m → Grows (DebtStep.run r (steps.take n)) (DebtStep.run r (steps.take m)) := by
  induction steps generalizing r with
  | nil =>
    refine ⟨?_, ?_⟩
    · intro n
      rw [List.take_nil]
      exact ⟨h, Grows.refl r, fun a ha => by cases ha⟩
    · intro n m _
      rw [List.take_nil, List.take_nil]
      exact Grows.refl r
  | cons a as ih =>
    obtain ⟨hbalanced, hgrows⟩ := h.step hall.1
    obtain ⟨hbefore, hlater⟩ := ih (DebtStep.step r a) hbalanced hall.2
    refine ⟨?_, ?_⟩
    · intro n
      cases n with
      | zero =>
        refine ⟨h, Grows.refl r, ?_⟩
        intro b hb
        cases hb
        exact ⟨hall.1, rfl⟩
      | succ n => exact ⟨(hbefore n).1, hgrows.trans (hbefore n).2.1, (hbefore n).2.2⟩
    · intro n m hle
      cases n with
      | zero =>
        cases m with
        | zero => exact Grows.refl r
        | succ m => exact hgrows.trans (hbefore m).2.1
      | succ n =>
        cases m with
        | zero => omega
        | succ m => exact hlater n m (by omega)

omit [CanonicalJson Value] [PayloadSchemas Value] in
theorem balanced_start {s : LawState (Recorded L)} (hnew : s.receivables = ∅)
    (hposted : s.posted = []) : Balanced { state := s } := by
  have hnone : ∀ id, s.receivables.get? id = none := by
    intro id
    rw [hnew]
    rfl
  refine ⟨⟨?_, ?_⟩, ?_, ?_, ?_⟩
  · intro id row hrow
    rw [hnone] at hrow
    cases hrow
  · intro n e he
    have he : s.receivables.entries[n]? = some e := he
    rw [hnew] at he
    cases he
  · intro id row hrow
    rw [hnone] at hrow
    cases hrow
  · intro id opening hopening
    cases hopening
  · intro p hp
    have hp : p ∈ s.posted := hp
    rw [hposted] at hp
    cases hp

/-- The run after its first `n` steps. -/
def DebtStep.reached (s : LawState (Recorded L)) (steps : List (DebtStep L)) (n : Nat) :
    DebtRun L := DebtStep.run { state := s } (steps.take n)

/-- What holds of the debts of a run. -/
structure Conserved (B : SocietyLedger L) (s : LawState (Recorded L))
    (steps : List (DebtStep L)) : Prop where
  /-- An award that returns is what it paid and the receivable it opened. -/
  split : ∀ (S : PenaltyService (Recorded L)) a tick u events v, S.ledger = B.recorded →
    S.award a tick u = .ok events v → 0 < a.amountCents →
    ∃ paid opened, PenaltyService.Split a tick u v paid opened
  /-- What is outstanding is the opening less the garnishments, and not negative. -/
  outstanding : ∀ n id row, (DebtStep.reached s steps n).state.receivables.get? id = some row →
    ∃ opening, (DebtStep.reached s steps n).openings.get? id = some opening ∧
      row.outstandingCents
        = opening - collectedFor (DebtStep.reached s steps n).state.posted id ∧
      0 ≤ row.outstandingCents
  /-- A garnishment posts collections only; it returns their sum, within its cap. -/
  within : ∀ (n : Nat) S agentId incomeCents tick,
    steps[n]? = some (.garnish S agentId incomeCents tick) →
    ∃ new : List Posting,
      (DebtStep.reached s steps (n + 1)).state.posted
        = (DebtStep.reached s steps n).state.posted ++ new ∧
      (∀ p ∈ new, Collection agentId (DebtStep.reached s steps n).state p) ∧
      ∀ diverted s', S.garnish agentId incomeCents tick (DebtStep.reached s steps n).state
          = .ok diverted s' →
        diverted = (new.map Posting.total).sum ∧
        diverted ≤ max 0 (Kernel.pyRound (incomeCents * S.cfg.garnishmentRate))
  /-- Nothing is collected for a receivable that has reached zero. -/
  settled : ∀ n m id row, n ≤ m →
    (DebtStep.reached s steps n).state.receivables.get? id = some row →
    row.outstandingCents = 0 →
    ((DebtStep.reached s steps m).state.posted.filter fun p => p.receivableId? = some id)
      = (DebtStep.reached s steps n).state.posted.filter fun p => p.receivableId? = some id

/-- **Judgment debts are conserved** in every run that begins without
receivables. -/
theorem debts_conserved (B : SocietyLedger L) (s : LawState (Recorded L))
    (steps : List (DebtStep L)) (hnew : s.receivables = ∅) (hposted : s.posted = [])
    (hall : DebtStep.AllProper B { state := s } steps) : Conserved B s steps := by
  obtain ⟨hat, hgrows⟩ := Balanced.run steps { state := s } (balanced_start hnew hposted) hall
  refine ⟨?_, ?_, ?_, ?_⟩
  · intro S a tick u events v hB hok hamount
    exact PenaltyService.award_splits hB hok hamount
  · intro n id row hrow
    exact (hat n).1.rows id row hrow
  · intro n S agentId incomeCents tick ha
    obtain ⟨hbalanced, -, hnext⟩ := hat n
    obtain ⟨hB, hstep⟩ := hnext _ ha
    obtain ⟨new, hcollects, hok⟩ :=
      PenaltyService.garnish_collects hB agentId incomeCents tick hbalanced.listed
    show ∃ new : List Posting, (DebtStep.run { state := s } (steps.take (n + 1))).state.posted
      = _ ∧ _
    rw [hstep]
    exact ⟨new, hcollects.posted, hcollects.each, hok⟩
  · intro n m id row hle hrow hzero
    obtain ⟨opening, hopening, hsum, -⟩ := (hat n).1.rows id row hrow
    obtain ⟨⟨more, hmore⟩, hkept⟩ := hgrows n m hle
    -- the opening stays, so no more can have been collected
    have hlater := hkept id opening hopening
    obtain ⟨row', hrow'⟩ := (hat m).1.known id opening hlater
    obtain ⟨opening', hopening', hsum', hnonneg⟩ := (hat m).1.rows id row' hrow'
    rw [hlater] at hopening'
    cases hopening'
    rw [hmore, collectedFor_append] at hsum'
    have hnomore : more.filter (fun p => p.receivableId? = some id) = [] := by
      apply filter_of_settled
      · intro p hp hid
        apply ((hat m).1.debts p _ id hid).1
        rw [hmore]
        exact List.mem_append_right _ hp
      · omega
    show ((DebtStep.run { state := s } (steps.take m)).state.posted.filter _) = _
    rw [hmore, List.filter_append, hnomore, List.append_nil]
    rfl

end Balanced

/-! ## An insolvent loser -/

section Closed

/-- A digest that tells texts apart by how they end. -/
abbrev tailDigest : Sha256 := ⟨List.reverse⟩

attribute [local instance] blankJson tailDigest anySchema ratioValue

/-- A ledger on which everyone can pay thirty cents. -/
def purseLedger : SocietyLedger Unit :=
  { freeLedger with compatibleBalance := fun _ _ _ => 30 }

/-- A court of one civil case that garnishes a quarter of an income. -/
def purseCourt : PenaltyService (Recorded Unit) :=
  { journal := plainJournal
    ledger := purseLedger.recorded
    base := { policyKeys := [], resolve := fun _ => some (.bool false) }
    runtime := {}
    cases := fun caseId => some
      { caseId, type := .civil, plaintiffId := some "ag_b", defendantId := "ag_a",
        crimeId := none, causeOfAction := "breach", claimCents := 100, filedTick := 0 }
    crimes := fun _ => none
    cfg := { filingFeeCents := 0, filingFeeWaiverPct := 0, finePerTickCents := 0,
             garnishmentRate := 1 / 4 }
    incarceration := none }

/-- Damages of a hundred cents. -/
def hundredDamages : Judgment :=
  { verdict := .liable, findings := [], fineCents := 0, sentenceTicks := 0, damagesCents := 100,
    restitutionCents := 0, disqualificationTicks := 0, clamped := [], origin := "rule",
    llmCallId := none }

/-- Nothing owed yet. -/
def noDebts : LawState (Recorded Unit) :=
  { books := { log := EventLog.new 0 "", ledger := ((), []) } }

/-- A judgment, an income, a loss, and two more incomes. -/
def indebted : List (DebtStep Unit) :=
  [.apply purseCourt "ca_1" hundredDamages 0, .garnish purseCourt "ag_a" 100 1,
   .garnish purseCourt "ag_a" (-100) 2, .garnish purseCourt "ag_a" 1000 3,
   .garnish purseCourt "ag_a" 1000 4]

theorem indebted_proper :
    DebtStep.AllProper purseLedger { state := noDebts } indebted := by
  refine ⟨⟨rfl, fun _ h => (by cases h), ?_⟩, rfl, rfl, rfl, rfl, trivial⟩
  show ∀ v ∈ PenaltyService.awardsOf purseCourt "ca_1" hundredDamages 0 noDebts, NoClash v.1 v.2
  decide +kernel

theorem debts_conserved_once : Conserved purseLedger noDebts indebted :=
  debts_conserved purseLedger noDebts indebted rfl rfl indebted_proper

/-- What the third step diverts. -/
def divertedOfLoss : Option Int :=
  match purseCourt.garnish "ag_a" (-100) 2 (DebtStep.reached noDebts indebted 2).state with
  | .ok diverted _ => some diverted
  | .error _ _ => none

theorem divertedOfLoss_eq : divertedOfLoss = some 0 := by
  decide +kernel

theorem debts_of_loss :
    ∃ diverted s',
      purseCourt.garnish "ag_a" (-100) 2 (DebtStep.reached noDebts indebted 2).state
        = .ok diverted s' ∧
      ¬diverted ≤ Kernel.pyRound ((-100 : Int) * purseCourt.cfg.garnishmentRate) := by
  have h := divertedOfLoss_eq
  unfold divertedOfLoss at h
  split at h
  · rename_i diverted s' hrun
    refine ⟨diverted, s', hrun, ?_⟩
    cases h
    decide +kernel
  · cases h

end Closed

end Polis.Society
