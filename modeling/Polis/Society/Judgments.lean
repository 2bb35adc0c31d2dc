/-
  Polis.Society.Judgments — which judgments stay within the law.

  A judgment is lawful when its verdict fits the case, its penalties lie
  within their bounds, its findings cite admitted events, and an acquittal,
  once applied, takes nothing from anybody.

  Main results:
    * `takesNothing_iff` — an acquittal takes nothing exactly when it awards
      nothing that somebody could claim.
    * `decideCase_lawful_iff` — a decided case is lawful exactly when the
      reply that decided it is within the law.
    * `decideCase_lawful_fails` — an acquittal with damages, and a liability
      in a range that starts above zero.
-/
import Polis.Society.Penalties

namespace Polis.Society

open Lib Lib.Effect Polis.Events

/-! ## Lawful judgments -/

/-- Applying a judgment moves no money, opens no receivable and starts no
sentence, in any court that knows the case and its crime. -/
def TakesNothing (case : CourtCase) (crime : Option Crime) (j : Judgment) : Prop :=
  ∀ [CanonicalJson Value] [Events.Sha256] [PayloadSchemas Value] (L : Type)
    (S : PenaltyService L), S.cases case.caseId = some case →
    S.crimes (case.crimeId.getD "") = crime → ∀ (tick : Int) (s : LawState L),
      (stateAfter (S.apply case.caseId j tick s)).books.ledger = s.books.ledger ∧
      (stateAfter (S.apply case.caseId j tick s)).receivables = s.receivables ∧
      (stateAfter (S.apply case.caseId j tick s)).sentences = s.sentences

/-- A judgment within the law. -/
structure LawfulJudgment [CharClasses] (case : CourtCase) (statutory : Range)
    (crime : Option Crime) (j : Judgment) : Prop where
  verdict : j.verdict ∈ Verdict.allowed case.type
  fine : j.verdict.punitive = true →
    statutory.fineLo ≤ j.fineCents ∧ j.fineCents ≤ statutory.fineHi
  sentence : j.verdict.punitive = true →
    statutory.sentenceLoTicks ≤ j.sentenceTicks ∧ j.sentenceTicks ≤ statutory.sentenceHiTicks
  damages : j.damagesCents ≤ case.claimCents
  restitution : j.restitutionCents ≤ restitutionLimit crime
  findings : ∀ f ∈ j.findings, ∀ n ∈ cited f, (n : Int) ∈ case.admittedEventSeqs
  acquittal : j.verdict.punitive = false → TakesNothing case crime j

/-! ## What an acquittal takes -/

theorem judgmentAwards_nonpos_iff {case : CourtCase} {crime : Option Crime} {j : Judgment} :
    (∀ a ∈ PenaltyService.judgmentAwards case crime j, a.amountCents ≤ 0) ↔
      j.fineCents ≤ 0 ∧ (case.plaintiffId = none ∨ j.damagesCents ≤ 0) ∧
        (crime.bind Crime.victimId = none ∨ j.restitutionCents ≤ 0) := by
  unfold PenaltyService.judgmentAwards
  cases case.plaintiffId <;> cases crime.bind Crime.victimId <;> simp

theorem judgmentAwards_kind {case : CourtCase} {crime : Option Crime} {j : Judgment}
    {a : PenaltyService.Award} (h : a ∈ PenaltyService.judgmentAwards case crime j) :
    a.kind = FINE_LEVIED ∨ a.kind = DAMAGES_AWARDED := by
  unfold PenaltyService.judgmentAwards at h
  rcases List.mem_append.mp h with h | h
  · rcases List.mem_append.mp h with h | h
    · obtain rfl := List.mem_singleton.mp h
      exact Or.inl rfl
    · obtain ⟨plaintiff, -, rfl⟩ := List.mem_map.mp h
      exact Or.inr rfl
  · obtain ⟨victim, -, rfl⟩ := List.mem_map.mp h
    exact Or.inr rfl

/-- A court whose debtors have nothing and whose log seals every event. -/
def insolventCourt (case : CourtCase) (crime : Option Crime) : PenaltyService Unit :=
  { journal := plainJournal
    ledger := emptyLedger
    base := { policyKeys := [], resolve := fun _ => some (.bool false) }
    runtime := {}
    cases := fun _ => some case
    crimes := fun _ => crime
    cfg := { filingFeeCents := 0, filingFeeWaiverPct := 0, finePerTickCents := 0,
             garnishmentRate := 0 }
    incarceration := none }

/-- Its state before the judgment. -/
def noReceivables : LawState Unit := { books := { log := EventLog.new 0 "", ledger := () } }

section Insolvent

attribute [local instance] blankJson blankDigest anySchema

theorem insolventCourt_emits (case : CourtCase) (crime : Option Crime) {d : Draft}
    (hk : d.kind = FINE_LEVIED ∨ d.kind = DAMAGES_AWARDED) :
    ∃ event books, Books.emit (insolventCourt case crime).journal d 0 noReceivables.books
      = .ok event books := by
  obtain ⟨kind, payload, actorId, subjectIds⟩ := d
  rcases hk with hk | hk
  · obtain rfl : kind = FINE_LEVIED := hk
    exact ⟨_, _, rfl⟩
  · obtain rfl : kind = DAMAGES_AWARDED := hk
    exact ⟨_, _, rfl⟩

theorem award_opens {case : CourtCase} {crime : Option Crime} {a : PenaltyService.Award}
    (ha : 0 < a.amountCents) (hk : a.kind = FINE_LEVIED ∨ a.kind = DAMAGES_AWARDED) :
    (stateAfter ((insolventCourt case crime).award a 0 noReceivables)).receivables.entries ≠ [] := by
  have hpaid : (insolventCourt case crime).paidNow a noReceivables.books.ledger = 0 := by
    show min a.amountCents (max 0 0) = 0
    omega
  have hposted : ∃ event books, stagePosted (insolventCourt case crime).ledger
      (insolventCourt case crime).journal ((0 : Int) ≠ 0) Value.none
      (PenaltyService.awardDraft a (a.amountCents - 0)) [(a.payerId, a.payeeId, 0)] a.reason
      "penalty ledger transaction ordinal diverged" 0 noReceivables.books = .ok event books := by
    obtain ⟨event, books, hemit⟩ := insolventCourt_emits case crime
      (d := PenaltyService.awardDraft a (a.amountCents - 0) Value.none) hk
    refine ⟨event, books, ?_⟩
    unfold stagePosted
    rw [get_bind, if_neg (by decide), bind_of_ok hemit]
    rfl
  obtain ⟨event, books, hposted⟩ := hposted
  unfold PenaltyService.award onlyIf
  rw [if_pos ha, get_bind, hpaid]
  rw [bind_of_ok (zoom_of_ok hposted), runIf, if_pos (by omega)]
  exact Dict.put_entries_ne_nil _ _ _

theorem awards_open {case : CourtCase} {crime : Option Crime} {awards : List PenaltyService.Award}
    (hk : ∀ a ∈ awards, a.kind = FINE_LEVIED ∨ a.kind = DAMAGES_AWARDED)
    (hpos : ¬∀ a ∈ awards, a.amountCents ≤ 0) :
    (stateAfter (gather (fun a => (insolventCourt case crime).award a 0) awards
      noReceivables)).receivables.entries ≠ [] := by
  set S := insolventCourt case crime with hS
  induction awards with
  | nil => exact absurd (fun a ha => absurd ha List.not_mem_nil) hpos
  | cons a as ih =>
    by_cases ha : 0 < a.amountCents
    · -- the first award opens one, and the others keep it
      have hopen : (stateAfter (S.award a 0 noReceivables)).receivables.entries ≠ [] :=
        award_opens ha (hk a List.mem_cons_self)
      have hkeep : ∀ s : LawState Unit, s.receivables.entries ≠ [] →
          (stateAfter (gather (fun a => S.award a 0) as s)).receivables.entries ≠ [] :=
        fun s hs => gather_invariant (I := fun s => s.receivables.entries ≠ [])
          (fun v _ hv => S.award_staysOwed v.2 0 v.1 hv) hs
      rw [gather_cons]
      cases hrun : S.award a 0 noReceivables with
      | error f t =>
        rw [hrun] at hopen
        rw [bind_of_error hrun]
        exact hopen
      | ok here t =>
        rw [hrun] at hopen
        rw [bind_of_ok hrun, stateAfter_bind_pure]
        exact hkeep t hopen
    · have hnone := S.award_of_nonpos (not_lt.mp ha) 0 noReceivables
      rw [gather_cons, bind_of_ok hnone, stateAfter_bind_pure]
      apply ih (fun b hb => hk b (List.mem_cons_of_mem _ hb))
      intro hall
      apply hpos
      intro b hb
      rcases List.mem_cons.mp hb with rfl | hb
      · omega
      · exact hall b hb

end Insolvent

theorem takesNothing_iff {case : CourtCase} {crime : Option Crime} {j : Judgment}
    (hverdict : j.verdict.punitive = false) (hfine : j.fineCents = 0)
    (hsentence : j.sentenceTicks = 0) :
    TakesNothing case crime j ↔ (case.plaintiffId = none ∨ j.damagesCents ≤ 0) ∧
      (crime.bind Crime.victimId = none ∨ j.restitutionCents ≤ 0) := by
  have hiff : (∀ a ∈ PenaltyService.judgmentAwards case crime j, a.amountCents ≤ 0) ↔ _ :=
    judgmentAwards_nonpos_iff
  constructor
  · intro h
    let _ := blankJson
    let _ := blankDigest
    let _ := anySchema
    have hkept := (h Unit (insolventCourt case crime) rfl rfl 0 noReceivables).2.1
    rw [(insolventCourt case crime).apply_unpunished rfl hverdict hsentence] at hkept
    by_contra hsome
    have hpos : ¬∀ a ∈ PenaltyService.judgmentAwards case crime j, a.amountCents ≤ 0 :=
      fun hall => hsome (hiff.mp hall).2
    have hopen : (stateAfter (gather (fun a => (insolventCourt case crime).award a 0)
        (PenaltyService.judgmentAwards case crime j) noReceivables)).receivables.entries ≠ [] :=
      awards_open (fun a ha => judgmentAwards_kind ha) hpos
    apply hopen
    exact congrArg Dict.entries hkept
  · intro h _ _ _ L S hcase hcrime tick s
    have hawards := hiff.mpr ⟨hfine.le, h⟩
    rw [← hcrime] at hawards
    rw [S.apply_of_nothing hcase hverdict hsentence hawards tick s]
    exact ⟨rfl, rfl, rfl⟩

/-! ## Replies within the law -/

section Replies

variable [CharClasses]

/-- A reply leads to a lawful judgment: a liability is decided in a range that
allows no sentence, and an acquittal claims no money for anybody. -/
structure WithinLaw (case : CourtCase) (statutory : Range) (crime : Option Crime)
    (r : JudgeReply) : Prop where
  liable : r.verdict = .liable → statutory.sentenceLoTicks ≤ 0 ∧ 0 ≤ statutory.sentenceHiTicks
  damages : r.verdict.punitive = false →
    case.plaintiffId = none ∨ case.claimCents = 0 ∨ r.damagesCents = 0
  restitution : r.verdict.punitive = false →
    crime.bind Crime.victimId = none ∨ restitutionLimit crime = 0 ∨ r.restitutionCents = 0

omit [CharClasses] in
theorem restitutionLimit_nonneg (crime : Option Crime) : 0 ≤ restitutionLimit crime := by
  unfold restitutionLimit
  cases crime with
  | none => exact le_refl 0
  | some c => exact le_max_left _ _

omit [CharClasses] in
theorem bounded_mem (name : String) (raw : Nat) {lo hi : Int} (h : lo ≤ hi) :
    lo ≤ (bounded name raw lo hi).1 ∧ (bounded name raw lo hi).1 ≤ hi := by
  show lo ≤ min hi (max lo (raw : Int)) ∧ min hi (max lo (raw : Int)) ≤ hi
  omega

omit [CharClasses] in
theorem limited_le (name : String) (raw : Nat) (limit : Int) :
    (limited name raw limit).1 ≤ limit := min_le_left _ _

omit [CharClasses] in
theorem limited_nonpos_iff {name : String} {raw : Nat} {limit : Int} (h : 0 ≤ limit) :
    (limited name raw limit).1 ≤ 0 ↔ limit = 0 ∨ raw = 0 := by
  show min limit (raw : Int) ≤ 0 ↔ _
  omega

theorem cited_findings {admitted : List Int} {findings : List String} :
    ∀ f ∈ findings.filter (citesAdmitted admitted), ∀ n ∈ cited f, (n : Int) ∈ admitted := by
  intro f hf n hn
  have hall : citesAdmitted admitted f = true := (List.mem_filter.mp hf).2
  unfold citesAdmitted at hall
  exact of_decide_eq_true (List.all_eq_true.mp hall n hn)

omit [CharClasses] in
theorem punitive_iff {v : Verdict} : v.punitive = true ↔ v = .guilty ∨ v = .liable := by
  cases v <;> decide

/-- What the judgment of a reply is. -/
structure Clamped (case : CourtCase) (statutory : Range) (crime : Option Crime) (r : JudgeReply)
    (j : Judgment) : Prop where
  verdict : j.verdict = r.verdict
  findings : j.findings = r.findings.filter (citesAdmitted case.admittedEventSeqs)
  fine : j.fineCents = if r.verdict.punitive then
    (bounded "fine_cents" r.fineCents statutory.fineLo statutory.fineHi).1 else 0
  sentence : j.sentenceTicks = if r.verdict = .guilty then
    (bounded "sentence_ticks" r.sentenceTicks statutory.sentenceLoTicks
      statutory.sentenceHiTicks).1 else 0
  damages : j.damagesCents = (limited "damages_cents" r.damagesCents case.claimCents).1
  restitution : j.restitutionCents =
    (limited "restitution_cents" r.restitutionCents (restitutionLimit crime)).1

theorem clampJudgment_spec {case : CourtCase} (statutory : Range) (crime : Option Crime)
    {r : JudgeReply} (callId : String) (hr : r.verdict ∈ Verdict.allowed case.type) :
    ∃ j, clampJudgment case statutory crime r callId = some j ∧
      Clamped case statutory crime r j := by
  unfold clampJudgment
  rw [if_pos hr]
  exact ⟨_, rfl, rfl, rfl, apply_ite Prod.fst _ _ _, apply_ite Prod.fst _ _ _, rfl, rfl⟩

namespace Clamped

variable {case : CourtCase} {statutory : Range} {crime : Option Crime} {r : JudgeReply}
  {j : Judgment}

theorem acquits (h : Clamped case statutory crime r j) (hacq : r.verdict.punitive = false) :
    j.fineCents = 0 ∧ j.sentenceTicks = 0 := by
  have hguilty : r.verdict ≠ .guilty := by
    intro hg
    rw [hg] at hacq
    cases hacq
  constructor
  · rw [h.fine, hacq]
    rfl
  · rw [h.sentence, if_neg hguilty]

theorem takesNothing_iff (h : Clamped case statutory crime r j)
    (hacq : r.verdict.punitive = false) :
    TakesNothing case crime j ↔
      (case.plaintiffId = none ∨ case.claimCents = 0 ∨ r.damagesCents = 0) ∧
      (crime.bind Crime.victimId = none ∨ restitutionLimit crime = 0 ∨ r.restitutionCents = 0) := by
  obtain ⟨hfine, hsentence⟩ := h.acquits hacq
  have hverdict : j.verdict.punitive = false := by rw [h.verdict, hacq]
  rw [Society.takesNothing_iff hverdict hfine hsentence, h.damages, h.restitution,
    limited_nonpos_iff case.claim_nonneg, limited_nonpos_iff (restitutionLimit_nonneg crime)]

theorem lawful_iff (h : Clamped case statutory crime r j)
    (hr : r.verdict ∈ Verdict.allowed case.type) :
    LawfulJudgment case statutory crime j ↔ WithinLaw case statutory crime r := by
  constructor
  · intro hlaw
    refine ⟨?_, ?_, ?_⟩
    · intro hliable
      have hpun : j.verdict.punitive = true := by
        rw [h.verdict]
        exact punitive_iff.mpr (Or.inr hliable)
      have hsentence : j.sentenceTicks = 0 := by
        rw [h.sentence, if_neg (by rw [hliable]; decide)]
      have hmem := hlaw.sentence hpun
      rwa [hsentence] at hmem
    · intro hacq
      exact ((h.takesNothing_iff hacq).mp (hlaw.acquittal (by rw [h.verdict, hacq]))).1
    · intro hacq
      exact ((h.takesNothing_iff hacq).mp (hlaw.acquittal (by rw [h.verdict, hacq]))).2
  · intro hwithin
    refine ⟨?_, ?_, ?_, ?_, ?_, ?_, ?_⟩
    · rw [h.verdict]
      exact hr
    · intro hpun
      rw [h.verdict] at hpun
      rw [h.fine, if_pos hpun]
      exact bounded_mem _ _ statutory.fine_le
    · intro hpun
      rw [h.verdict] at hpun
      by_cases hguilty : r.verdict = .guilty
      · rw [h.sentence, if_pos hguilty]
        exact bounded_mem _ _ statutory.sentence_le
      · have hliable : r.verdict = .liable := (punitive_iff.mp hpun).resolve_left hguilty
        rw [h.sentence, if_neg hguilty]
        exact hwithin.liable hliable
    · rw [h.damages]
      exact limited_le _ _ _
    · rw [h.restitution]
      exact limited_le _ _ _
    · rw [h.findings]
      exact cited_findings
    · intro hacq
      rw [h.verdict] at hacq
      exact (h.takesNothing_iff hacq).mpr ⟨hwithin.damages hacq, hwithin.restitution hacq⟩

end Clamped

/-! ## The bench -/

omit [CharClasses] in
theorem benchRule_punitive {e t : ℚ} {caseType : CaseType} {statutory : Range} :
    (benchRule e t caseType statutory).verdict.punitive = !decide (e < t) := by
  unfold benchRule
  simp only [benchVerdict_fst]
  by_cases h : e < t
  · cases caseType <;> simp [h] <;> rfl
  · cases caseType <;> simp [h] <;> rfl

theorem benchRule_lawful (threshold : ℚ) (case : CourtCase) (statutory : Range)
    (crime : Option Crime) :
    LawfulJudgment case statutory crime
      (benchRule case.evidenceStrength threshold case.type statutory) := by
  have hpunitive : (benchRule case.evidenceStrength threshold case.type statutory).verdict.punitive
      = !decide (case.evidenceStrength < threshold) := benchRule_punitive
  have hconvicts : ∀ lo hi, (benchVerdict case.evidenceStrength threshold lo hi).1
      = !decide (case.evidenceStrength < threshold) := benchVerdict_fst _ _
  refine ⟨?_, ?_, ?_, case.claim_nonneg, restitutionLimit_nonneg crime, ?_, ?_⟩
  · unfold benchRule
    cases case.type <;> dsimp only <;> split <;> decide
  · intro hpun
    apply benchVerdict_mem statutory.fine_le
    rw [hconvicts, ← hpunitive, hpun]
  · intro hpun
    apply benchVerdict_mem statutory.sentence_le
    rw [hconvicts, ← hpunitive, hpun]
  · intro f hf
    cases hf
  · intro hacq
    have hfine : (benchRule case.evidenceStrength threshold case.type statutory).fineCents = 0 := by
      apply benchVerdict_acquits
      rw [hconvicts, ← hpunitive, hacq]
    have hsentence :
        (benchRule case.evidenceStrength threshold case.type statutory).sentenceTicks = 0 := by
      apply benchVerdict_acquits
      rw [hconvicts, ← hpunitive, hacq]
    rw [takesNothing_iff hacq hfine hsentence]
    exact ⟨Or.inr (le_refl 0), Or.inr (le_refl 0)⟩

/-! ## Decided cases -/

/-- The reply of one call, when it decides the case. -/
def decides (case : CourtCase) (result : RouterResult) : Option JudgeReply :=
  if result.parsedOk then
    result.parsed.filter fun r => r.verdict ∈ Verdict.allowed case.type
  else none

/-- The reply that decides a case: the first of three whose verdict fits. -/
def decidingReply (router : Option (Nat → RouterResult)) (case : CourtCase) : Option JudgeReply :=
  router.bind fun call => [call 0, call 1, call 2].findSome? (decides case)

omit [CharClasses] in
theorem decides_allowed {case : CourtCase} {result : RouterResult} {r : JudgeReply}
    (h : decides case result = some r) : r.verdict ∈ Verdict.allowed case.type := by
  unfold decides at h
  split at h
  · exact of_decide_eq_true (Option.filter_eq_some_iff.mp h).2
  · cases h

theorem attemptJudgment_eq {case : CourtCase} {statutory : Range} {crime : Option Crime}
    (result : RouterResult) :
    attemptJudgment case statutory crime result
      = (decides case result).bind fun r =>
          clampJudgment case statutory crime r result.callId := by
  unfold attemptJudgment decides
  by_cases hok : result.parsedOk = true
  · rw [if_pos hok, if_pos hok]
    cases result.parsed with
    | none => rfl
    | some r =>
      by_cases hr : r.verdict ∈ Verdict.allowed case.type
      · simp [Option.filter, hr]
      · simp [Option.filter, hr, clampJudgment]
  · rw [if_neg hok, if_neg hok]
    rfl

theorem findSome_attempts (case : CourtCase) (statutory : Range) (crime : Option Crime)
    (results : List RouterResult) :
    (results.findSome? (decides case) = none ∧
      results.findSome? (attemptJudgment case statutory crime) = none) ∨
    ∃ r j, results.findSome? (decides case) = some r ∧
      results.findSome? (attemptJudgment case statutory crime) = some j ∧
      r.verdict ∈ Verdict.allowed case.type ∧ Clamped case statutory crime r j := by
  induction results with
  | nil => exact Or.inl ⟨rfl, rfl⟩
  | cons result results ih =>
    rw [List.findSome?_cons, List.findSome?_cons, attemptJudgment_eq]
    cases hdec : decides case result with
    | none => exact ih
    | some r =>
      have hr := decides_allowed hdec
      obtain ⟨j, hj, hclamped⟩ := clampJudgment_spec statutory crime result.callId hr
      right
      refine ⟨r, j, rfl, ?_, hr, hclamped⟩
      rw [Option.bind_some, hj]

/-- **A decided case is lawful exactly when the reply that decided it is
within the law**; a case no reply decided is lawful. -/
theorem decideCase_lawful_iff (threshold : ℚ) (router : Option (Nat → RouterResult))
    (case : CourtCase) (statutory : Range) (crime : Option Crime) :
    LawfulJudgment case statutory crime (decideCase threshold router case statutory crime) ↔
      ∀ r, decidingReply router case = some r → WithinLaw case statutory crime r := by
  unfold decideCase decidingReply
  cases router with
  | none =>
    -- without a router the bench decides
    constructor
    · intro _ r hr
      cases hr
    · intro _
      exact benchRule_lawful threshold case statutory crime
  | some call =>
    dsimp only [Option.bind_some]
    rcases findSome_attempts case statutory crime [call 0, call 1, call 2] with
      ⟨hnone, hattempts⟩ | ⟨r, j, hsome, hattempts, hr, hclamped⟩
    · rw [hnone, hattempts]
      constructor
      · intro _ r hr
        cases hr
      · intro _
        exact benchRule_lawful threshold case statutory crime
    · rw [hsome, hattempts, Option.getD_some, hclamped.lawful_iff hr]
      constructor
      · intro hwithin r' hr'
        cases hr'
        exact hwithin
      · intro hall
        exact hall r rfl

end Replies

/-! ## Judgments outside the law -/

/-- Characters by their ASCII classes. -/
abbrev asciiClasses : CharClasses :=
  { decimal := fun c => if c.isDigit then some (c.toNat - 48) else none
    isWord := fun c => c.isAlphanum || c = '_' }

/-- A suit for a thousand cents. -/
def smallSuit : CourtCase :=
  { caseId := "ca_suit", type := .civil, plaintiffId := some "ag_plaintiff",
    defendantId := "ag_defendant", crimeId := none, causeOfAction := "assault",
    claimCents := 1000, filedTick := 1 }

/-- A router that always returns one verdict, with damages. -/
def alwaysReplies (verdict : Verdict) (damages : Nat) : Nat → RouterResult := fun _ =>
  { parsedOk := true
    parsed := some { verdict, findings := [], fineCents := 0, sentenceTicks := 0,
                     damagesCents := damages, restitutionCents := 0, disqualificationTicks := 0 }
    callId := "call" }

/-- The range of an assault. -/
def assaultRange : Range := statutoryRange .assault (some 1000) 10000 1

/-- The judgment of the suit. -/
def suitJudgment (verdict : Verdict) (damages : Nat) : Judgment :=
  letI := asciiClasses
  decideCase (3 / 5) (some (alwaysReplies verdict damages)) smallSuit assaultRange none

theorem decideCase_lawful_fails :
    letI := asciiClasses
    (suitJudgment .notLiable 500).verdict = .notLiable ∧
    ¬TakesNothing smallSuit none (suitJudgment .notLiable 500) ∧
    ¬LawfulJudgment smallSuit assaultRange none (suitJudgment .notLiable 500) ∧
    ¬LawfulJudgment smallSuit assaultRange none (suitJudgment .liable 500) := by
  let _ := asciiClasses
  have htakes : ¬TakesNothing smallSuit none (suitJudgment .notLiable 500) := by
    intro h
    have hdamages := ((takesNothing_iff rfl rfl rfl).mp h).1
    revert hdamages
    decide
  refine ⟨rfl, htakes, ?_, ?_⟩
  · intro h
    exact htakes (h.acquittal rfl)
  · intro h
    have hsentence := (h.sentence rfl).1
    revert hsentence
    decide

end Polis.Society
