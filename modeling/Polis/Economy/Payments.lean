/-
  Polis.Economy.Payments — what payments do to weighted sums of balances.

  Every payment of the engines is built from `transfer`, possibly coalesced,
  and posted.  This module says once what each of them does to a weighted sum
  of balances, and what a posting leaves alone.

  Main results:
    * `transfer_eq_ok` — the lines of a transfer, within a bank or across two.
    * `net_transfer` — a transfer moves its amount from source to target.
    * `posting_coalesce` — coalescing legs changes no posting.
    * `Moved.weigh_eq` — the same for any sequence of payments and openings.
    * `Steady` — a ledger change that keeps every row, open or closed, and the
      balance of every closed row.
-/
import Polis.Economy.Sim

namespace Polis.Economy

open Lib Lib.Effect Lib.DoubleEntry Ledger

/-! ## Transfers -/

/-- `code in {"cash", "dep", "esc"}`. -/
def AccountCode.liquid (c : AccountCode) : Prop := c = .cash ∨ c = .dep ∨ c = .esc

/-- The lines of an accepted transfer. -/
structure TransferLines (src dst : AccountId) (n : Int) (legs : List Leg) : Prop where
  amount_pos : 0 < n
  src_liquid : src.code.liquid
  dst_liquid : dst.code.liquid
  legs_pos : ∀ l ∈ legs, 0 < l.amountCents
  /-- Within one bank the two accounts change, across banks both banks' books
  follow. -/
  lines_eq : (bankOf src = bankOf dst ∧ lines legs = [(src, -n), (dst, n)]) ∨
    ∃ dplSrc resSrc resDst dplDst : AccountId, ∃ srcBank dstBank,
      bankOf src = some srcBank ∧ bankOf dst = some dstBank ∧ srcBank ≠ dstBank ∧
      (dplSrc.code = .dpl ∧ dplSrc.ownerId = srcBank) ∧
      (resSrc.code = .res ∧ resSrc.ownerId = srcBank) ∧
      (resDst.code = .res ∧ resDst.ownerId = dstBank) ∧
      (dplDst.code = .dpl ∧ dplDst.ownerId = dstBank) ∧
      lines legs = [(src, -n), (dplSrc, n), (resSrc, -n), (resDst, n), (dplDst, -n), (dst, n)]

theorem transfer_eq_ok {src dst : AccountId} {n : Int} {r : String} {legs : List Leg}
    (h : transfer src dst n r = .ok legs) : TransferLines src dst n legs := by
  unfold transfer at h
  split_ifs at h with h₁ h₂ h₃
  · cases h
    rw [not_or, not_not, not_not] at h₂
    refine ⟨by omega, h₂.1, h₂.2, ?_, .inl ⟨h₃, by simp⟩⟩
    intro l hl
    simp only [List.mem_cons, List.not_mem_nil, or_false] at hl
    rcases hl with rfl | rfl
    · show 0 < n; omega
    · show 0 < n; omega
  · rw [not_or, not_not, not_not] at h₂
    cases hs : bankOf src with
    | none => rw [hs] at h; cases h
    | some srcBank =>
      cases hd : bankOf dst with
      | none => rw [hs, hd] at h; cases h
      | some dstBank =>
        rw [hs, hd] at h
        obtain ⟨dplSrc, h₄, h⟩ := except_bind_eq_ok.mp h
        obtain ⟨resSrc, h₅, h⟩ := except_bind_eq_ok.mp h
        obtain ⟨resDst, h₆, h⟩ := except_bind_eq_ok.mp h
        obtain ⟨dplDst, h₇, h⟩ := except_bind_eq_ok.mp h
        cases h
        obtain ⟨c₄, o₄, -, -⟩ := accountId_eq_ok h₄
        obtain ⟨c₅, o₅, -, -⟩ := accountId_eq_ok h₅
        obtain ⟨c₆, o₆, -, -⟩ := accountId_eq_ok h₆
        obtain ⟨c₇, o₇, -, -⟩ := accountId_eq_ok h₇
        refine ⟨by omega, h₂.1, h₂.2, ?_, .inr ⟨dplSrc, resSrc, resDst, dplDst, srcBank, dstBank,
          hs, hd, ?_, ⟨c₄, o₄⟩, ⟨c₅, o₅⟩, ⟨c₆, o₆⟩, ⟨c₇, o₇⟩, by simp⟩⟩
        · intro l hl
          simp only [List.mem_cons, List.not_mem_nil, or_false] at hl
          rcases hl with rfl | rfl | rfl | rfl | rfl | rfl <;> (show 0 < n; omega)
        · rintro rfl
          exact h₃ (hs.trans hd.symm)

/-- A weight that ignores the banks' own books. -/
structure Outside (w : AccountId → ℤ) : Prop where
  dpl : ∀ a, a.code = .dpl → w a = 0
  res : ∀ a, a.code = .res → w a = 0

theorem net_transfer {w : AccountId → ℤ} (hw : Outside w) {src dst : AccountId} {n : Int}
    {r : String} {legs : List Leg} (h : transfer src dst n r = .ok legs) :
    net w (lines legs) = n * (w dst - w src) := by
  rcases (transfer_eq_ok h).lines_eq with ⟨-, hl⟩ | 
    ⟨a₁, a₂, a₃, a₄, sb, db, -, -, -, h₁, h₂, h₃, h₄, hl⟩
  · rw [hl]
    simp only [net_cons, net_nil]
    ring
  · rw [hl]
    simp only [net_cons, net_nil, hw.dpl a₁ h₁.1, hw.res a₂ h₂.1, hw.res a₃ h₃.1, hw.dpl a₄ h₄.1]
    ring

/-! ## Coalescing -/

/-- What two legs that become one have in common. -/
abbrev LegKey := String ×ₗ Int ×ₗ String

/-- The key a leg is merged under. -/
def Leg.mergeKey (l : Leg) : LegKey := toLex (l.accountId, toLex (l.direction, l.reason))

/-- The line a coalesced key stands for. -/
noncomputable def keyBook (key : LegKey) (n : Int) : Book AccountId :=
  posting (lines [⟨(ofLex key).1, (ofLex (ofLex key).2).1, n, (ofLex (ofLex key).2).2⟩])

theorem keyBook_add (key : LegKey) (m n : Int) :
    keyBook key (m + n) = keyBook key m + keyBook key n := by
  unfold keyBook
  cases hp : parseAccountId (ofLex key).1 with
  | error e => simp [lines, hp]
  | ok a => simp [lines, hp, mul_add]

theorem posting_eq_sum (legs : List Leg) :
    posting (lines legs) = (legs.map fun l => keyBook l.mergeKey l.amountCents).sum := by
  induction legs with
  | nil => rfl
  | cons l legs ih =>
    rw [← List.singleton_append, lines_append, posting_append, ih, List.singleton_append,
      List.map_cons, List.sum_cons]
    rfl

/-- The totals `coalesce` collects. -/
def legTotals (legs : List Leg) (d : Dict LegKey Int) : Dict LegKey Int :=
  legs.foldl (fun d leg =>
    let key := toLex (leg.accountId, toLex (leg.direction, leg.reason))
    d.put key (d.getD key 0 + leg.amountCents)) d

section Merging

variable {M : Type*} [AddCommGroup M] {f : LegKey → Int → M}

theorem total_legTotals (hf : ∀ k m n, f k (m + n) = f k m + f k n) (legs : List Leg)
    (d : Dict LegKey Int) : (legTotals legs d).total f
      = d.total f + (legs.map fun l => f l.mergeKey l.amountCents).sum := by
  have hzero : ∀ k, f k 0 = 0 := by
    intro k
    have h := hf k 0 0
    rw [add_zero] at h
    exact left_eq_add.mp h
  induction legs generalizing d with
  | nil => simp [legTotals]
  | cons l legs ih =>
    have hput : (d.put l.mergeKey (d.getD l.mergeKey 0 + l.amountCents)).total f
        = d.total f + f l.mergeKey l.amountCents := by
      rw [Dict.total_put, hf]
      unfold Dict.weightAt Dict.getD
      cases d.get? l.mergeKey with
      | none => simp [hzero]
      | some v =>
        simp only [Option.elim_some, Option.getD_some]
        abel
    show (legTotals legs (d.put l.mergeKey (d.getD l.mergeKey 0 + l.amountCents))).total f = _
    rw [ih, hput, List.map_cons, List.sum_cons, add_assoc]

end Merging

theorem legTotals_pos {legs : List Leg} (hpos : ∀ l ∈ legs, 0 < l.amountCents)
    {d : Dict (String ×ₗ Int ×ₗ String) Int} (hd : ∀ k v, d.get? k = some v → 0 < v) :
    ∀ k v, (legTotals legs d).get? k = some v → 0 < v := by
  induction legs generalizing d with
  | nil => exact hd
  | cons l legs ih =>
    refine ih (fun x hx => hpos x (List.mem_cons_of_mem _ hx)) fun k v hk => ?_
    rw [Dict.get?_put] at hk
    split_ifs at hk with heq
    · have hl := hpos l List.mem_cons_self
      cases hg : d.get? (toLex (l.accountId, toLex (l.direction, l.reason))) with
      | none =>
        simp only [Dict.getD, hg, Option.getD_none, Option.some.injEq] at hk
        omega
      | some u =>
        have := hd _ _ hg
        simp only [Dict.getD, hg, Option.getD_some, Option.some.injEq] at hk
        omega
    · exact hd k v hk

theorem sum_mergeLegs {M : Type*} [AddCommGroup M] {f : LegKey → Int → M}
    (hf : ∀ k m n, f k (m + n) = f k m + f k n) {keep : Int → Bool}
    (hk : ∀ n, 0 < n → keep n = true) {legs : List Leg} (hpos : ∀ l ∈ legs, 0 < l.amountCents) :
    ((mergeLegs keep legs).map fun l => f l.mergeKey l.amountCents).sum
      = (legs.map fun l => f l.mergeKey l.amountCents).sum := by
  have hall : ((legTotals legs ∅).sortedEntries.filter fun e => keep e.2)
      = (legTotals legs ∅).sortedEntries := by
    refine List.filter_eq_self.mpr fun e he => hk _ ?_
    exact legTotals_pos hpos (by simp) e.1 e.2
      (Dict.mem_entries_iff.mp (Dict.mem_sortedEntries.mp he))
  have htotal := total_legTotals hf legs ∅
  rw [Dict.total_empty, zero_add] at htotal
  show ((((legTotals legs ∅).sortedEntries.filter fun e => keep e.2).map _).map _).sum = _
  rw [hall, List.map_map, ← htotal]
  exact Dict.sum_sortedEntries (legTotals legs ∅) f

theorem posting_mergeLegs {keep : Int → Bool} (hk : ∀ n, 0 < n → keep n = true)
    {legs : List Leg} (hpos : ∀ l ∈ legs, 0 < l.amountCents) :
    posting (lines (mergeLegs keep legs)) = posting (lines legs) := by
  rw [posting_eq_sum, posting_eq_sum, sum_mergeLegs keyBook_add hk hpos]

theorem posting_coalesce {legs : List Leg} (hpos : ∀ l ∈ legs, 0 < l.amountCents) :
    posting (lines (coalesce legs)) = posting (lines legs) :=
  posting_mergeLegs (fun _ hn => decide_eq_true hn) hpos

/-! ## Accounts of an owner -/

theorem mem_accountsOf {L : Ledger} {o : String} {a : AccountId} :
    a ∈ L.accountsOf o ↔ a.ownerId = o ∧ (L.accounts.get? a).isSome := by
  unfold accountsOf rowsOf
  rw [(List.perm_insertionSort _ _).mem_iff, List.mem_map]
  constructor
  · rintro ⟨⟨b, r⟩, hb, rfl⟩
    obtain ⟨hmem, ho⟩ := List.mem_filter.mp hb
    refine ⟨by simpa using ho, ?_⟩
    rw [Dict.mem_entries_iff.mp hmem]
    rfl
  · rintro ⟨ho, hs⟩
    obtain ⟨r, hr⟩ := Option.isSome_iff_exists.mp hs
    exact ⟨(a, r), List.mem_filter.mpr ⟨Dict.mem_entries_iff.mpr hr, by simpa using ho⟩, rfl⟩

theorem depositAccount_eq_ok {L : Ledger} {o : String} {a : AccountId}
    (h : depositAccount L o = .ok a) :
    a.code = .dep ∧ a.ownerId = o ∧ (L.accounts.get? a).isSome := by
  unfold depositAccount at h
  cases hf : (L.accountsOf o).find? fun a => a.code = .dep with
  | none => rw [hf] at h; cases h
  | some b =>
    rw [hf] at h
    cases h
    obtain ⟨ho, hs⟩ := mem_accountsOf.mp (List.mem_of_find?_eq_some hf)
    exact ⟨by simpa using List.find?_some hf, ho, hs⟩

theorem escrowId_eq_ok {L : Ledger} {o ref : String} {a : AccountId}
    (h : escrowId L o ref = .ok a) : a.code = .esc ∧ a.ownerId = o ∧ a.ref = some ref := by
  unfold escrowId at h
  split at h
  · next b hf =>
    cases h
    have hb := List.find?_some hf
    simp only [decide_eq_true_eq] at hb
    exact ⟨hb.1, (mem_accountsOf.mp (List.mem_of_find?_eq_some hf)).1, hb.2.1⟩
  · split at h
    · cases h
    · split at h
      · cases h
      · obtain ⟨hc, ho, -, hr⟩ := accountId_eq_ok h
        exact ⟨hc, ho, hr⟩

theorem AccountId.colon_notMem_owner (a : AccountId) : ':' ∉ a.ownerId.toList :=
  a.owner_ok.notMem.1

/-! ## What postings leave alone -/

/-- Every row stays, open or closed as it was, and closed rows keep their
balance. -/
structure Steady (L L' : Ledger) : Prop where
  runId_eq : L'.runId = L.runId
  rows : ∀ a r, L.accounts.get? a = some r → ∃ r', L'.accounts.get? a = some r' ∧
    r'.closedTick = r.closedTick ∧ (r.closedTick ≠ none → r'.balanceCents = r.balanceCents)
  new : ∀ a r', L'.accounts.get? a = some r' → L.accounts.get? a = none → r'.closedTick = none

theorem Steady.refl (L : Ledger) : Steady L L :=
  ⟨rfl, fun _ r h => ⟨r, h, rfl, fun _ => rfl⟩, fun a r h h' => by rw [h] at h'; cases h'⟩

theorem Steady.trans {L₁ L₂ L₃ : Ledger} (h : Steady L₁ L₂) (h' : Steady L₂ L₃) :
    Steady L₁ L₃ := by
  refine ⟨h'.runId_eq.trans h.runId_eq, fun a r hr => ?_, fun a r hr hn => ?_⟩
  · obtain ⟨r₂, hr₂, hc₂, hb₂⟩ := h.rows a r hr
    obtain ⟨r₃, hr₃, hc₃, hb₃⟩ := h'.rows a r₂ hr₂
    exact ⟨r₃, hr₃, hc₃.trans hc₂, fun hc => (hb₃ (hc₂ ▸ hc)).trans (hb₂ hc)⟩
  · cases hg : L₂.accounts.get? a with
    | none => exact h'.new a r hr hg
    | some r₂ =>
      obtain ⟨r₃, hr₃, hc₃, -⟩ := h'.rows a r₂ hg
      rw [hr] at hr₃
      cases hr₃
      exact hc₃.trans (h.new a r₂ hg hn)

theorem Steady.posted [Uuid5] {L L' : Ledger} {legs : List Leg} {tick : Int} {cause : Event}
    {an : List String} {ai : Bool} {txn : UUID} (h : Posted L L' legs tick cause an ai txn) :
    Steady L L' := by
  refine ⟨h.runId_eq, fun a r hr => ?_, fun a r' hr' hn => ?_⟩
  · refine ⟨Account.credit (posting (lines legs) a) r, by rw [h.rows a, hr]; rfl, rfl, fun hc => ?_⟩
    have hnot : a ∉ (lines legs).map Prod.fst := by
      intro ha
      obtain ⟨r₁, hr₁, hopen, -⟩ := legs_accounts h.legs_ok ha
      rw [hr] at hr₁
      cases hr₁
      exact hc hopen
    simp [Account.credit, posting_apply_of_notMem hnot]
  · rw [h.rows a, hn] at hr'
    cases hr'

theorem Steady.opened {code : AccountCode} {ownerId ownerType : String}
    {bankId ref : Option String} {tick : Int} {L L' : Ledger} {a : AccountId}
    (h : openAccount code ownerId ownerType bankId ref tick L = .ok a L') : Steady L L' := by
  obtain ⟨-, hnone, -, -, rfl⟩ := open_eq_ok h
  refine ⟨rfl, fun b r hr => ⟨r, ?_, rfl, fun _ => rfl⟩, fun b r hr hn => ?_⟩
  · have hne : b ≠ a := fun hb => by rw [hb, hnone] at hr; cases hr
    exact (Dict.get?_put_of_ne hne).trans hr
  · by_cases hb : b = a
    · subst hb
      simp only [Dict.get?_put_self, Option.some.injEq] at hr
      rw [← hr]
    · rw [Dict.get?_put_of_ne hb, hn] at hr
      cases hr

theorem Steady.nextTxnId [Uuid5] {tick : Int} {L L' : Ledger} {txn : UUID}
    (h : Ledger.nextTxnId tick L = .ok txn L') :
    Steady L L' ∧ L'.accounts = L.accounts ∧ L'.entries = L.entries := by
  obtain ⟨_, _, h₁, h⟩ := bind_eq_ok.mp h
  obtain ⟨rfl, rfl⟩ := get_eq_ok.mp h₁
  obtain ⟨_, _, h₁, h⟩ := bind_eq_ok.mp h
  have h₁ := set_eq_ok.mp h₁
  subst h₁
  obtain ⟨-, rfl⟩ := pure_eq_ok.mp h
  exact ⟨⟨rfl, fun _ r h => ⟨r, h, rfl, fun _ => rfl⟩, fun a r h h' => by rw [h] at h'; cases h'⟩,
    rfl, rfl⟩

/-! ## Payments made of transfers -/

/-- A payment between two accounts. -/
structure Move where
  src : AccountId
  dst : AccountId
  amountCents : Int

/-- The legs pay the moves, one transfer each. -/
inductive Pays : List Move → List Leg → Prop where
  | nil : Pays [] []
  | cons {m : Move} {here : List Leg} {r : String} {ms : List Move} {rest : List Leg}
      (h : transfer m.src m.dst m.amountCents r = .ok here) (hrest : Pays ms rest) :
      Pays (m :: ms) (here ++ rest)

/-- What moves do to a weighted sum. -/
def moved (w : AccountId → ℤ) (ms : List Move) : ℤ :=
  (ms.map fun m => m.amountCents * (w m.dst - w m.src)).sum

@[simp] theorem moved_nil (w : AccountId → ℤ) : moved w [] = 0 := rfl

@[simp] theorem moved_cons (w : AccountId → ℤ) (m : Move) (ms : List Move) :
    moved w (m :: ms) = m.amountCents * (w m.dst - w m.src) + moved w ms := by simp [moved]

@[simp] theorem moved_append (w : AccountId → ℤ) (ms ms' : List Move) :
    moved w (ms ++ ms') = moved w ms + moved w ms' := by simp [moved]

theorem Pays.single {src dst : AccountId} {n : Int} {r : String} {legs : List Leg}
    (h : transfer src dst n r = .ok legs) : Pays [⟨src, dst, n⟩] legs := by
  have := Pays.cons (m := ⟨src, dst, n⟩) h .nil
  rwa [List.append_nil] at this

theorem Pays.append {ms ms' : List Move} {legs legs' : List Leg} (h : Pays ms legs)
    (h' : Pays ms' legs') : Pays (ms ++ ms') (legs ++ legs') := by
  induction h with
  | nil => exact h'
  | cons ht _ ih =>
    rw [List.cons_append, List.append_assoc]
    exact .cons ht ih

theorem Pays.legs_pos {ms : List Move} {legs : List Leg} (h : Pays ms legs) :
    ∀ l ∈ legs, 0 < l.amountCents := by
  induction h with
  | nil => intro l hl; exact absurd hl List.not_mem_nil
  | cons ht _ ih =>
    intro l hl
    rcases List.mem_append.mp hl with hl | hl
    · exact (transfer_eq_ok ht).legs_pos l hl
    · exact ih l hl

theorem Pays.net {w : AccountId → ℤ} (hw : Outside w) {ms : List Move} {legs : List Leg}
    (h : Pays ms legs) : net w (lines legs) = moved w ms := by
  induction h with
  | nil => rfl
  | cons ht _ ih => rw [lines_append, net_append, net_transfer hw ht, ih, moved_cons]

/-- The ledger made the moves, and opened accounts at most. -/
structure Moved (ms : List Move) (L L' : Ledger) : Prop where
  steady : Steady L L'
  paid : ∃ legs, Pays ms legs ∧ L'.book = L.book + posting (lines legs)

theorem Moved.refl (L : Ledger) : Moved [] L L := ⟨.refl L, [], .nil, by simp⟩

theorem Moved.trans {ms ms' : List Move} {L₁ L₂ L₃ : Ledger} (h : Moved ms L₁ L₂)
    (h' : Moved ms' L₂ L₃) : Moved (ms ++ ms') L₁ L₃ := by
  obtain ⟨legs, hp, hb⟩ := h.paid
  obtain ⟨legs', hp', hb'⟩ := h'.paid
  refine ⟨h.steady.trans h'.steady, legs ++ legs', hp.append hp', ?_⟩
  rw [hb', hb, lines_append, posting_append, add_assoc]

theorem Moved.opened {code : AccountCode} {ownerId ownerType : String} {bankId ref : Option String}
    {tick : Int} {L L' : Ledger} {a : AccountId}
    (h : openAccount code ownerId ownerType bankId ref tick L = .ok a L') : Moved [] L L' :=
  ⟨.opened h, [], .nil, by rw [book_open h]; simp⟩

theorem Moved.nextTxnId [Uuid5] {tick : Int} {L L' : Ledger} {txn : UUID}
    (h : Ledger.nextTxnId tick L = .ok txn L') : Moved [] L L' := by
  obtain ⟨hs, ha, -⟩ := Steady.nextTxnId h
  refine ⟨hs, [], .nil, ?_⟩
  unfold book
  rw [ha]
  simp

section Posted

variable [Uuid5] {L L' : Ledger} {tick : Int} {cause : Event} {an : List String} {ai : Bool}
  {txn : UUID} {ms : List Move} {legs : List Leg}

theorem Moved.posted (hp : Pays ms legs) (h : Posted L L' legs tick cause an ai txn) :
    Moved ms L L' :=
  ⟨.posted h, legs, hp, h.book_eq⟩

theorem Moved.coalesced (hp : Pays ms legs) (h : Posted L L' (coalesce legs) tick cause an ai txn) :
    Moved ms L L' :=
  ⟨.posted h, legs, hp, by rw [h.book_eq, posting_coalesce hp.legs_pos]⟩

end Posted

theorem Moved.weigh_eq {w : AccountId → ℤ} (hw : Outside w) {ms : List Move} {L L' : Ledger}
    (h : Moved ms L L') : weigh w L'.book = weigh w L.book + moved w ms := by
  obtain ⟨legs, hp, hb⟩ := h.paid
  rw [hb, weigh_add_posting, hp.net hw]

end Polis.Economy
