/-
  Lib.PairOff — two queues served against each other from their heads.

  Each entry has a quantity.  The two heads trade as much as both have, or one
  of them is passed over; at most `r` is traded in all.

  Main results:
    * `taken_le` — no entry gives more than it has.
    * `total_pairOff` — queues that hold `r` and pass nobody over trade `r`.
    * `taken_before` — then an entry trades only when the entries before it
      have given all they have.
    * `pairOff_reaches` — and it trades when they hold less than `r`.
-/
import Mathlib.Algebra.Order.BigOperators.Group.List
import Mathlib.Tactic.Linarith

namespace Lib.PairOff

/-- What happens where two heads meet. -/
inductive Meeting where
  | trade | passLeft | passRight
  deriving Repr, DecidableEq

/-- The meeting seen from the other queue. -/
def Meeting.swap : Meeting → Meeting
  | trade => trade
  | passLeft => passRight
  | passRight => passLeft

variable {α β : Type}

/-- The entry at the head of a queue after it gave `q`. -/
def serve (a : α) (x q : Int) (as : List (α × Int)) : List (α × Int) :=
  if x - q = 0 then as else (a, x - q) :: as

/-- Serve the queues against each other.  Every round passes an entry over,
serves one to its end or trades the last of `r`, so as many rounds as there
are entries and one are enough. -/
def pairOff (meet : α → β → Meeting) :
    Nat → List (α × Int) → List (β × Int) → Int → List (α × β × Int)
  | 0, _, _, _ => []
  | fuel + 1, (a, x) :: as, (b, y) :: bs, r =>
    if r ≤ 0 then []
    else match meet a b with
      | .passRight => pairOff meet fuel ((a, x) :: as) bs r
      | .passLeft => pairOff meet fuel as ((b, y) :: bs) r
      | .trade =>
        let q := min r (min x y)
        if q ≤ 0 then []
        else (a, b, q) :: pairOff meet fuel (serve a x q as) (serve b y q bs) (r - q)
  | _ + 1, _, _, _ => []

/-- No head is passed over while there is something to trade. -/
def smooth (meet : α → β → Meeting) : Nat → List (α × Int) → List (β × Int) → Int → Bool
  | 0, _, _, _ => true
  | fuel + 1, (a, x) :: as, (b, y) :: bs, r =>
    if r ≤ 0 then true
    else match meet a b with
      | .passRight | .passLeft => false
      | .trade =>
        let q := min r (min x y)
        if q ≤ 0 then true
        else smooth meet fuel (serve a x q as) (serve b y q bs) (r - q)
  | _ + 1, _, _, _ => true

/-! ## Sums -/

/-- What a queue holds. -/
def held (as : List (α × Int)) : Int := (as.map Prod.snd).sum

/-- What the entries with `p` hold. -/
def heldBy (p : α → Bool) (as : List (α × Int)) : Int :=
  (as.map fun e => if p e.1 then e.2 else 0).sum

/-- What was traded. -/
def total (out : List (α × β × Int)) : Int := (out.map fun f => f.2.2).sum

/-- What the entries with `p` gave. -/
def taken (p : α → Bool) (out : List (α × β × Int)) : Int :=
  (out.map fun f => if p f.1 then f.2.2 else 0).sum

/-- Every entry holds something. -/
def Stocked (as : List (α × Int)) : Prop := ∀ e ∈ as, 0 < e.2

@[simp] theorem held_nil : held ([] : List (α × Int)) = 0 := rfl
@[simp] theorem held_cons (e : α × Int) (as : List (α × Int)) : held (e :: as) = e.2 + held as := by
  simp [held]
@[simp] theorem held_append (as bs : List (α × Int)) : held (as ++ bs) = held as + held bs := by
  simp [held]
@[simp] theorem heldBy_nil (p : α → Bool) : heldBy p ([] : List (α × Int)) = 0 := rfl
@[simp] theorem heldBy_cons (p : α → Bool) (e : α × Int) (as : List (α × Int)) :
    heldBy p (e :: as) = (if p e.1 then e.2 else 0) + heldBy p as := by
  simp [heldBy]
@[simp] theorem total_nil : total ([] : List (α × β × Int)) = 0 := rfl
@[simp] theorem total_cons (f : α × β × Int) (out : List (α × β × Int)) :
    total (f :: out) = f.2.2 + total out := by
  simp [total]
@[simp] theorem taken_nil (p : α → Bool) : taken p ([] : List (α × β × Int)) = 0 := rfl
@[simp] theorem taken_cons (p : α → Bool) (f : α × β × Int) (out : List (α × β × Int)) :
    taken p (f :: out) = (if p f.1 then f.2.2 else 0) + taken p out := by
  simp [taken]

theorem heldBy_serve (p : α → Bool) (a : α) (x q : Int) (as : List (α × Int)) :
    heldBy p (serve a x q as) = heldBy p ((a, x) :: as) - if p a then q else 0 := by
  unfold serve
  by_cases hp : p a
  · split_ifs with h
    · simp only [heldBy_cons, hp, if_true]
      omega
    · simp only [heldBy_cons, hp, if_true]
      omega
  · split_ifs with h <;> simp [hp]

theorem held_serve (a : α) (x q : Int) (as : List (α × Int)) :
    held (serve a x q as) = held ((a, x) :: as) - q := by
  unfold serve
  split_ifs with h
  · simp only [held_cons]
    omega
  · simp only [held_cons]
    omega

theorem held_nonneg {as : List (α × Int)} (h : Stocked as) : 0 ≤ held as := by
  induction as with
  | nil => simp
  | cons e as ih =>
    have he := h e List.mem_cons_self
    have hrest := ih fun d hd => h d (List.mem_cons_of_mem _ hd)
    rw [held_cons]
    omega

theorem heldBy_nonneg {p : α → Bool} {as : List (α × Int)} (h : Stocked as) : 0 ≤ heldBy p as := by
  induction as with
  | nil => simp
  | cons e as ih =>
    have he := h e List.mem_cons_self
    have hrest := ih fun d hd => h d (List.mem_cons_of_mem _ hd)
    rw [heldBy_cons]
    split_ifs <;> omega

theorem heldBy_eq_zero {p : α → Bool} {as : List (α × Int)} (h : ∀ e ∈ as, p e.1 = false) :
    heldBy p as = 0 := by
  induction as with
  | nil => rfl
  | cons e as ih =>
    rw [heldBy_cons, h e List.mem_cons_self, ih fun d hd => h d (List.mem_cons_of_mem _ hd)]
    simp

theorem Stocked.serve {a : α} {x q : Int} {as : List (α × Int)} (h : Stocked ((a, x) :: as))
    (hq : q ≤ x) : Stocked (serve a x q as) := by
  have hrest : Stocked as := fun e he => h e (List.mem_cons_of_mem _ he)
  unfold PairOff.serve
  split_ifs with h0
  · exact hrest
  · intro e he
    cases List.mem_cons.mp he with
    | inl he =>
      subst he
      show 0 < x - q
      omega
    | inr he => exact hrest e he

theorem mem_serve {a : α} {x q : Int} {as : List (α × Int)} {e : α × Int}
    (h : e ∈ serve a x q as) : e.1 = a ∨ e ∈ as := by
  unfold serve at h
  split_ifs at h
  · exact .inr h
  · cases List.mem_cons.mp h with
    | inl h =>
      subst h
      exact .inl rfl
    | inr h => exact .inr h

/-! ## One round -/

section Rounds

variable {meet : α → β → Meeting}

@[simp] theorem pairOff_nil_left (fuel : Nat) (bs : List (β × Int)) (r : Int) :
    pairOff meet fuel [] bs r = [] := by
  cases fuel <;> rfl

@[simp] theorem pairOff_nil_right (fuel : Nat) (as : List (α × Int)) (r : Int) :
    pairOff meet fuel as [] r = [] := by
  cases fuel with
  | zero => rfl
  | succ fuel => cases as <;> rfl

theorem pairOff_stop (fuel : Nat) (as : List (α × Int)) (bs : List (β × Int)) {r : Int}
    (hr : r ≤ 0) : pairOff meet fuel as bs r = [] := by
  match fuel, as, bs with
  | 0, _, _ => rfl
  | _ + 1, [], _ => simp
  | _ + 1, _ :: _, [] => simp
  | _ + 1, _ :: _, _ :: _ => exact if_pos hr

theorem pairOff_trade {fuel : Nat} {a : α} {x : Int} {as : List (α × Int)} {b : β} {y : Int}
    {bs : List (β × Int)} {r : Int} (hr : 0 < r) (hm : meet a b = .trade)
    (hq : 0 < min r (min x y)) :
    pairOff meet (fuel + 1) ((a, x) :: as) ((b, y) :: bs) r = (a, b, min r (min x y)) ::
      pairOff meet fuel (serve a x (min r (min x y)) as) (serve b y (min r (min x y)) bs)
        (r - min r (min x y)) := by
  rw [pairOff, if_neg (not_le.mpr hr), hm]
  exact if_neg (not_le.mpr hq)

variable (meet) in
theorem pairOff_cases (fuel : Nat) (a : α) (x : Int) (as : List (α × Int)) (b : β) (y : Int)
    (bs : List (β × Int)) (r : Int) :
    pairOff meet (fuel + 1) ((a, x) :: as) ((b, y) :: bs) r = [] ∧
        (0 < r → meet a b = .trade ∧ min x y ≤ 0) ∨
      pairOff meet (fuel + 1) ((a, x) :: as) ((b, y) :: bs) r
        = pairOff meet fuel ((a, x) :: as) bs r ∧ meet a b ≠ .trade ∧ 0 < r ∨
      pairOff meet (fuel + 1) ((a, x) :: as) ((b, y) :: bs) r
        = pairOff meet fuel as ((b, y) :: bs) r ∧ meet a b ≠ .trade ∧ 0 < r ∨
      0 < r ∧ meet a b = .trade ∧ 0 < min r (min x y) := by
  by_cases hr : r ≤ 0
  · refine .inl ⟨?_, fun h => absurd h (not_lt.mpr hr)⟩
    rw [pairOff, if_pos hr]
  · rw [pairOff, if_neg hr]
    cases hm : meet a b with
    | passRight => exact .inr (.inl ⟨rfl, by simp, by omega⟩)
    | passLeft => exact .inr (.inr (.inl ⟨rfl, by simp, by omega⟩))
    | trade =>
      by_cases hq : min r (min x y) ≤ 0
      · refine .inl ⟨if_pos hq, fun _ => ⟨rfl, ?_⟩⟩
        omega
      · exact .inr (.inr (.inr ⟨by omega, rfl, by omega⟩))

theorem smooth_trade {fuel : Nat} {a : α} {x : Int} {as : List (α × Int)} {b : β} {y : Int}
    {bs : List (β × Int)} {r : Int} (hr : 0 < r)
    (h : smooth meet (fuel + 1) ((a, x) :: as) ((b, y) :: bs) r = true) :
    meet a b = .trade ∧ (0 < min r (min x y) →
      smooth meet fuel (serve a x (min r (min x y)) as) (serve b y (min r (min x y)) bs)
        (r - min r (min x y)) = true) := by
  rw [smooth, if_neg (not_le.mpr hr)] at h
  cases hm : meet a b with
  | passRight =>
    rw [hm] at h
    cases h
  | passLeft =>
    rw [hm] at h
    cases h
  | trade =>
    rw [hm] at h
    refine ⟨rfl, fun hq => ?_⟩
    simpa [not_le.mpr hq] using h

theorem smooth_of_trade {fuel : Nat} {as : List (α × Int)} {bs : List (β × Int)} {r : Int}
    (h : ∀ a ∈ as, ∀ b ∈ bs, meet a.1 b.1 = .trade) : smooth meet fuel as bs r = true := by
  induction fuel generalizing as bs r with
  | zero => rfl
  | succ fuel ih =>
    match as, bs with
    | [], _ => rfl
    | _ :: _, [] => rfl
    | (a, x) :: as, (b, y) :: bs =>
      rw [smooth]
      split_ifs with hr
      · rfl
      · rw [h (a, x) List.mem_cons_self (b, y) List.mem_cons_self]
        dsimp only
        split_ifs with hq
        · rfl
        · apply ih
          intro c hc d hd
          have hc' : c.1 = a ∨ c ∈ as := mem_serve hc
          have hd' : d.1 = b ∨ d ∈ bs := mem_serve hd
          -- the entries that are left stood in the queues before
          have hcs : ∃ c' ∈ (a, x) :: as, c'.1 = c.1 := by
            cases hc' with
            | inl hc' => exact ⟨(a, x), List.mem_cons_self, hc'.symm⟩
            | inr hc' => exact ⟨c, List.mem_cons_of_mem _ hc', rfl⟩
          have hds : ∃ d' ∈ (b, y) :: bs, d'.1 = d.1 := by
            cases hd' with
            | inl hd' => exact ⟨(b, y), List.mem_cons_self, hd'.symm⟩
            | inr hd' => exact ⟨d, List.mem_cons_of_mem _ hd', rfl⟩
          obtain ⟨c', hc', hce⟩ := hcs
          obtain ⟨d', hd', hde⟩ := hds
          rw [← hce, ← hde]
          exact h c' hc' d' hd'

/-! ## What is traded -/

theorem mem_pairOff {fuel : Nat} {as : List (α × Int)} {bs : List (β × Int)} {r : Int}
    {f : α × β × Int} (h : f ∈ pairOff meet fuel as bs r) :
    (∃ e ∈ as, e.1 = f.1) ∧ (∃ e ∈ bs, e.1 = f.2.1) ∧ 0 < f.2.2 ∧ meet f.1 f.2.1 = .trade := by
  induction fuel generalizing as bs r with
  | zero => simp [pairOff] at h
  | succ fuel ih =>
    match as, bs with
    | [], _ => simp at h
    | _ :: _, [] => simp at h
    | (a, x) :: as, (b, y) :: bs =>
      rcases pairOff_cases meet fuel a x as b y bs r with
        ⟨hout, -⟩ | ⟨hout, -, -⟩ | ⟨hout, -, -⟩ | ⟨hr, hm, hq⟩
      · rw [hout] at h
        cases h
      · rw [hout] at h
        obtain ⟨hl, ⟨e, he, hb⟩, hrest⟩ := ih h
        exact ⟨hl, ⟨e, List.mem_cons_of_mem _ he, hb⟩, hrest⟩
      · rw [hout] at h
        obtain ⟨⟨e, he, ha⟩, hrest⟩ := ih h
        exact ⟨⟨e, List.mem_cons_of_mem _ he, ha⟩, hrest⟩
      · rw [pairOff_trade hr hm hq] at h
        cases List.mem_cons.mp h with
        | inl h =>
          subst h
          exact ⟨⟨_, List.mem_cons_self, rfl⟩, ⟨_, List.mem_cons_self, rfl⟩, hq, hm⟩
        | inr h =>
          obtain ⟨⟨e, he, ha⟩, ⟨d, hd, hb⟩, hrest⟩ := ih h
          refine ⟨?_, ?_, hrest⟩
          · cases mem_serve he with
            | inl h1 => exact ⟨(a, x), List.mem_cons_self, h1.symm.trans ha⟩
            | inr h1 => exact ⟨e, List.mem_cons_of_mem _ h1, ha⟩
          · cases mem_serve hd with
            | inl h1 => exact ⟨(b, y), List.mem_cons_self, h1.symm.trans hb⟩
            | inr h1 => exact ⟨d, List.mem_cons_of_mem _ h1, hb⟩

theorem taken_nonneg {p : α → Bool} {out : List (α × β × Int)} (h : ∀ f ∈ out, 0 < f.2.2) :
    0 ≤ taken p out := by
  induction out with
  | nil => simp
  | cons f out ih =>
    have hf := h f List.mem_cons_self
    have hrest := ih fun g hg => h g (List.mem_cons_of_mem _ hg)
    rw [taken_cons]
    split_ifs <;> omega

variable (meet) in
theorem taken_pairOff_nonneg (p : α → Bool) (fuel : Nat) (as : List (α × Int))
    (bs : List (β × Int)) (r : Int) : 0 ≤ taken p (pairOff meet fuel as bs r) :=
  taken_nonneg fun _ hf => (mem_pairOff hf).2.2.1

theorem taken_le (p : α → Bool) {fuel : Nat} {as : List (α × Int)} {bs : List (β × Int)} {r : Int}
    (has : Stocked as) : taken p (pairOff meet fuel as bs r) ≤ heldBy p as := by
  induction fuel generalizing as bs r with
  | zero => exact heldBy_nonneg has
  | succ fuel ih =>
    match as, bs with
    | [], _ => simp
    | e :: as, [] =>
      rw [pairOff_nil_right]
      exact heldBy_nonneg has
    | (a, x) :: as, (b, y) :: bs =>
      rcases pairOff_cases meet fuel a x as b y bs r with
        ⟨hout, -⟩ | ⟨hout, -, -⟩ | ⟨hout, -, -⟩ | ⟨hr, hm, hq⟩
      · rw [hout]
        exact heldBy_nonneg has
      · rw [hout]
        exact ih has
      · rw [hout]
        have hrest : taken p (pairOff meet fuel as ((b, y) :: bs) r) ≤ heldBy p as :=
          ih fun e he => has e (List.mem_cons_of_mem _ he)
        have hx := has (a, x) List.mem_cons_self
        rw [heldBy_cons]
        split_ifs <;> omega
      · rw [pairOff_trade hr hm hq, taken_cons]
        have hrest : taken p (pairOff meet fuel (serve a x (min r (min x y)) as)
            (serve b y (min r (min x y)) bs) (r - min r (min x y))) ≤
            heldBy p (serve a x (min r (min x y)) as) :=
          ih (has.serve (show min r (min x y) ≤ x by omega))
        rw [heldBy_serve] at hrest
        dsimp only
        split_ifs at hrest ⊢ <;> omega

theorem total_le {fuel : Nat} {as : List (α × Int)} {bs : List (β × Int)} {r : Int} (hr0 : 0 ≤ r) :
    total (pairOff meet fuel as bs r) ≤ r := by
  induction fuel generalizing as bs r with
  | zero => exact hr0
  | succ fuel ih =>
    match as, bs with
    | [], _ => simpa using hr0
    | _ :: _, [] => simpa using hr0
    | (a, x) :: as, (b, y) :: bs =>
      rcases pairOff_cases meet fuel a x as b y bs r with
        ⟨hout, -⟩ | ⟨hout, -, -⟩ | ⟨hout, -, -⟩ | ⟨hr, hm, hq⟩
      · rw [hout]
        exact hr0
      · rw [hout]
        exact ih hr0
      · rw [hout]
        exact ih hr0
      · rw [pairOff_trade hr hm hq, total_cons]
        have hrest : total (pairOff meet fuel (serve a x (min r (min x y)) as)
            (serve b y (min r (min x y)) bs) (r - min r (min x y))) ≤ r - min r (min x y) :=
          ih (by omega)
        dsimp only
        omega

/-! ## Smooth services -/

theorem smooth_round {fuel : Nat} {a : α} {x : Int} {as : List (α × Int)} {b : β} {y : Int}
    {bs : List (β × Int)} {r : Int} (hr : 0 < r) (has : Stocked ((a, x) :: as))
    (hbs : Stocked ((b, y) :: bs))
    (h : smooth meet (fuel + 1) ((a, x) :: as) ((b, y) :: bs) r = true) :
    ∃ q, 0 < q ∧ q ≤ r ∧ q ≤ x ∧ q ≤ y ∧ (q = r ∨ q = x ∨ q = y) ∧
      pairOff meet (fuel + 1) ((a, x) :: as) ((b, y) :: bs) r =
        (a, b, q) :: pairOff meet fuel (serve a x q as) (serve b y q bs) (r - q) ∧
      smooth meet fuel (serve a x q as) (serve b y q bs) (r - q) = true ∧
      Stocked (serve a x q as) ∧ Stocked (serve b y q bs) := by
  have hx : 0 < x := has (a, x) List.mem_cons_self
  have hy : 0 < y := hbs (b, y) List.mem_cons_self
  have hq : 0 < min r (min x y) := by omega
  obtain ⟨hm, hrest⟩ := smooth_trade hr h
  refine ⟨min r (min x y), hq, by omega, by omega, by omega, by omega, pairOff_trade hr hm hq,
    hrest hq, has.serve (by omega), hbs.serve (by omega)⟩

theorem length_serve {a : α} {x q : Int} {as : List (α × Int)} :
    (serve a x q as).length = if x = q then as.length else as.length + 1 := by
  unfold serve
  by_cases h : x = q
  · rw [if_pos (by omega), if_pos h]
  · rw [if_neg (by omega), if_neg h]
    rfl

theorem total_pairOff {fuel : Nat} {as : List (α × Int)} {bs : List (β × Int)} {r : Int}
    (has : Stocked as) (hbs : Stocked bs) (hr0 : 0 ≤ r) (hra : r ≤ held as) (hrb : r ≤ held bs)
    (hfuel : as.length + bs.length < fuel) (h : smooth meet fuel as bs r = true) :
    total (pairOff meet fuel as bs r) = r := by
  induction fuel generalizing as bs r with
  | zero => omega
  | succ fuel ih =>
    match as, bs with
    | [], _ =>
      rw [held_nil] at hra
      simp only [pairOff_nil_left, total_nil]
      omega
    | _ :: _, [] =>
      rw [held_nil] at hrb
      simp only [pairOff_nil_right, total_nil]
      omega
    | (a, x) :: as, (b, y) :: bs =>
      by_cases hr : 0 < r
      · obtain ⟨q, hq, hqr, hqx, hqy, hend, hout, hsmooth, hsa, hsb⟩ := smooth_round hr has hbs h
        rw [hout, total_cons]
        dsimp only
        by_cases hlast : q = r
        · -- the rest of `r` was traded
          have hnil : total (pairOff meet fuel (serve a x q as) (serve b y q bs) (r - q)) ≤ r - q :=
            total_le (by omega)
          have hpos : 0 ≤ total (pairOff meet fuel (serve a x q as) (serve b y q bs) (r - q)) := by
            have hnn := taken_pairOff_nonneg meet (fun _ => true) fuel (serve a x q as)
              (serve b y q bs) (r - q)
            simpa [taken, total] using hnn
          omega
        · have hrest := ih hsa hsb (by omega) (by rw [held_serve]; omega)
            (by rw [held_serve]; omega) (by
              -- one of the heads was served to its end
              rw [length_serve, length_serve]
              simp only [List.length_cons] at hfuel
              split_ifs <;> omega) hsmooth
          omega
      · rw [pairOff_stop _ _ _ (not_lt.mp hr), total_nil]
        omega

theorem taken_before {fuel : Nat} {as : List (α × Int)} {bs : List (β × Int)} {r : Int}
    {done rest : List (α × β × Int)} {a : α} {b : β} {q : Int} (has : Stocked as)
    (hbs : Stocked bs) (h : smooth meet fuel as bs r = true)
    (hout : pairOff meet fuel as bs r = done ++ (a, b, q) :: rest) :
    ∃ front x back t, as = front ++ (a, x) :: back ∧ 0 ≤ t ∧ t < x ∧
      ∀ p, taken p done = heldBy p front + if p a then t else 0 := by
  induction fuel generalizing as bs r done with
  | zero => simp [pairOff] at hout
  | succ fuel ih =>
    match as, bs with
    | [], _ => simp at hout
    | _ :: _, [] => simp at hout
    | (a₀, x₀) :: as, (b₀, y₀) :: bs =>
      by_cases hr : 0 < r
      · obtain ⟨q₀, hq, hqr, hqx, hqy, hend, hstep, hsmooth, hsa, hsb⟩ := smooth_round hr has hbs h
        rw [hstep] at hout
        cases done with
        | nil =>
          -- the head trades first
          simp only [List.nil_append, List.cons.injEq, Prod.mk.injEq] at hout
          obtain ⟨⟨rfl, rfl, rfl⟩, rfl⟩ := hout
          exact ⟨[], x₀, as, 0, rfl, le_refl 0, by omega, fun p => by simp⟩
        | cons f done =>
          simp only [List.cons_append, List.cons.injEq] at hout
          obtain ⟨rfl, hout⟩ := hout
          obtain ⟨front, x, back, t, has', ht0, htx, htaken⟩ := ih hsa hsb hsmooth hout
          unfold serve at has'
          split_ifs at has' with hz
          · -- the head was served to its end
            refine ⟨(a₀, x₀) :: front, x, back, t, by rw [has']; rfl, ht0, htx, fun p => ?_⟩
            have hp := htaken p
            rw [taken_cons, heldBy_cons, hp]
            dsimp only
            split_ifs <;> omega
          · cases front with
            | nil =>
              -- the head goes on
              simp only [List.nil_append, List.cons.injEq, Prod.mk.injEq] at has'
              obtain ⟨⟨rfl, rfl⟩, rfl⟩ := has'
              refine ⟨[], x₀, as, q₀ + t, rfl, by omega, by omega, fun p => ?_⟩
              have hp := htaken p
              rw [taken_cons, hp]
              simp only [heldBy_nil]
              split_ifs <;> omega
            | cons e front =>
              simp only [List.cons_append, List.cons.injEq] at has'
              obtain ⟨rfl, rfl⟩ := has'
              refine ⟨(a₀, x₀) :: front, x, back, t, rfl, ht0, htx, fun p => ?_⟩
              have hp := htaken p
              rw [taken_cons, heldBy_cons, hp, heldBy_cons]
              dsimp only
              split_ifs <;> omega
      · rw [pairOff_stop _ _ _ (not_lt.mp hr)] at hout
        simp at hout

theorem pairOff_reaches {fuel : Nat} {front back : List (α × Int)} {a : α} {x : Int}
    {bs : List (β × Int)} {r : Int} (has : Stocked (front ++ (a, x) :: back)) (hbs : Stocked bs)
    (hfront : held front < r) (hrb : r ≤ held bs)
    (hfuel : (front ++ (a, x) :: back).length + bs.length < fuel)
    (h : smooth meet fuel (front ++ (a, x) :: back) bs r = true) :
    ∃ b q, (a, b, q) ∈ pairOff meet fuel (front ++ (a, x) :: back) bs r := by
  induction fuel generalizing front x bs r with
  | zero => omega
  | succ fuel ih =>
    match bs with
    | [] =>
      rw [held_nil] at hrb
      have hf : 0 ≤ held front := held_nonneg fun e he => has e (List.mem_append_left _ he)
      omega
    | (b, y) :: bs =>
      cases front with
      | nil =>
        rw [held_nil] at hfront
        obtain ⟨q, -, -, -, -, -, hout, -⟩ := smooth_round hfront has hbs h
        refine ⟨b, q, ?_⟩
        rw [List.nil_append, hout]
        exact List.mem_cons_self
      | cons e front =>
        obtain ⟨a₀, x₀⟩ := e
        have hx₀ : 0 < x₀ := has (a₀, x₀) (by simp)
        have hf : 0 ≤ held front := held_nonneg fun e he => has e (by simp [he])
        rw [held_cons] at hfront
        dsimp only at hfront
        rw [List.cons_append] at has h
        obtain ⟨q, hq, hqr, hqx, hqy, hend, hout, hsmooth, hsa, hsb⟩ :=
          smooth_round (by omega) has hbs h
        have hrb' : r - q ≤ held (serve b y q bs) := by
          rw [held_serve]
          omega
        -- the head leaves the queue or stays in front of `a`
        have hnext : ∃ front', serve a₀ x₀ q (front ++ (a, x) :: back) = front' ++ (a, x) :: back ∧
            held front' < r - q := by
          unfold serve
          split_ifs with hz
          · exact ⟨front, rfl, by omega⟩
          · refine ⟨(a₀, x₀ - q) :: front, rfl, ?_⟩
            rw [held_cons]
            dsimp only
            omega
        obtain ⟨front', hserve, hfront'⟩ := hnext
        have hfuel' : (serve a₀ x₀ q (front ++ (a, x) :: back)).length
            + (serve b y q bs).length < fuel := by
          rw [length_serve, length_serve]
          simp only [List.cons_append, List.length_cons] at hfuel
          split_ifs <;> omega
        rw [hserve] at hsmooth hsa hfuel'
        obtain ⟨b', q', hmem⟩ := ih hsa hsb hfront' hrb' hfuel' hsmooth
        refine ⟨b', q', ?_⟩
        rw [List.cons_append, hout, hserve]
        exact List.mem_cons_of_mem _ hmem

theorem total_le_front {fuel : Nat} {front back : List (α × Int)} {a : α} {x : Int}
    {bs : List (β × Int)} {r : Int} {p : α → Bool} (has : Stocked (front ++ (a, x) :: back))
    (hbs : Stocked bs) (hp : p a = true) (hfront : ∀ e ∈ front, p e.1 = false)
    (h : smooth meet fuel (front ++ (a, x) :: back) bs r = true)
    (hleft : taken p (pairOff meet fuel (front ++ (a, x) :: back) bs r) < x) :
    total (pairOff meet fuel (front ++ (a, x) :: back) bs r) ≤
      held front + taken p (pairOff meet fuel (front ++ (a, x) :: back) bs r) := by
  have hf : 0 ≤ held front := held_nonneg fun e he => has e (List.mem_append_left _ he)
  induction fuel generalizing front x bs r with
  | zero => simpa [pairOff] using hf
  | succ fuel ih =>
    match bs with
    | [] => simpa using hf
    | (b, y) :: bs =>
      by_cases hr : 0 < r
      · cases front with
        | nil =>
          obtain ⟨q, hq, hqr, hqx, hqy, hend, hout, hsmooth, hsa, hsb⟩ := smooth_round hr has hbs h
          rw [List.nil_append, hout, taken_cons] at hleft ⊢
          rw [total_cons]
          simp only [hp, if_true, held_nil] at hleft ⊢
          have hnn := taken_pairOff_nonneg meet p fuel (serve a x q back)
            (serve b y q bs) (r - q)
          -- `a` stays at the head
          have hserve : serve a x q back = [] ++ (a, x - q) :: back := by
            unfold serve
            rw [if_neg (by omega)]
            rfl
          rw [hserve] at hsmooth hsa hleft hnn ⊢
          have hrest := ih hsa hsb (fun e he => absurd he List.not_mem_nil) hsmooth (by omega)
            (by simp)
          rw [held_nil] at hrest
          omega
        | cons e front =>
          obtain ⟨a₀, x₀⟩ := e
          have hpe : p a₀ = false := hfront (a₀, x₀) List.mem_cons_self
          rw [List.cons_append] at has h
          obtain ⟨q, hq, hqr, hqx, hqy, hend, hout, hsmooth, hsa, hsb⟩ := smooth_round hr has hbs h
          rw [List.cons_append, hout, taken_cons] at hleft ⊢
          rw [total_cons]
          simp only [hpe, Bool.false_eq_true, if_false, held_cons, zero_add] at hleft ⊢
          have hnext : ∃ front', serve a₀ x₀ q (front ++ (a, x) :: back)
              = front' ++ (a, x) :: back ∧ held front' = x₀ - q + held front ∧
              ∀ e ∈ front', p e.1 = false := by
            unfold serve
            split_ifs with hz
            · exact ⟨front, rfl, by omega, fun e he => hfront e (List.mem_cons_of_mem _ he)⟩
            · refine ⟨(a₀, x₀ - q) :: front, rfl, by rw [held_cons], fun e he => ?_⟩
              cases List.mem_cons.mp he with
              | inl he =>
                subst he
                exact hpe
              | inr he => exact hfront e (List.mem_cons_of_mem _ he)
          obtain ⟨front', hserve, hheld, hfront'⟩ := hnext
          rw [hserve] at hsmooth hsa hleft ⊢
          have hf' : 0 ≤ held front' :=
            held_nonneg fun e he => hsa e (List.mem_append_left _ he)
          have hrest := ih hsa hsb hfront' hsmooth hleft hf'
          omega
      · rw [pairOff_stop _ _ _ (not_lt.mp hr)]
        simpa using hf

end Rounds

/-! ## The other queue -/

section Swap

variable (meet : α → β → Meeting)

/-- The meetings seen from the other queue. -/
def swapMeet (b : β) (a : α) : Meeting := (meet a b).swap

/-- A trade seen from the other queue. -/
def swapFill (f : α × β × Int) : β × α × Int := (f.2.1, f.1, f.2.2)

theorem pairOff_swap (fuel : Nat) (as : List (α × Int)) (bs : List (β × Int)) (r : Int) :
    pairOff (swapMeet meet) fuel bs as r = (pairOff meet fuel as bs r).map swapFill := by
  induction fuel generalizing as bs r with
  | zero => rfl
  | succ fuel ih =>
    match as, bs with
    | [], _ => simp
    | _ :: _, [] => simp
    | (a, x) :: as, (b, y) :: bs =>
      rw [pairOff, pairOff]
      by_cases hr : r ≤ 0
      · rw [if_pos hr, if_pos hr]
        rfl
      · rw [if_neg hr, if_neg hr]
        unfold swapMeet
        rw [min_comm y x]
        cases hm : meet a b with
        | passRight => exact ih _ _ _
        | passLeft => exact ih _ _ _
        | trade =>
          simp only [Meeting.swap]
          by_cases hq : min r (min x y) ≤ 0
          · rw [if_pos hq, if_pos hq]
            rfl
          · rw [if_neg hq, if_neg hq, List.map_cons]
            exact congrArg _ (ih _ _ _)

theorem smooth_swap (fuel : Nat) (as : List (α × Int)) (bs : List (β × Int)) (r : Int) :
    smooth (swapMeet meet) fuel bs as r = smooth meet fuel as bs r := by
  induction fuel generalizing as bs r with
  | zero => rfl
  | succ fuel ih =>
    match as, bs with
    | [], [] => rfl
    | [], _ :: _ => rfl
    | _ :: _, [] => rfl
    | (a, x) :: as, (b, y) :: bs =>
      rw [smooth, smooth]
      by_cases hr : r ≤ 0
      · rw [if_pos hr, if_pos hr]
      · rw [if_neg hr, if_neg hr]
        unfold swapMeet
        rw [min_comm y x]
        cases hm : meet a b with
        | passRight => rfl
        | passLeft => rfl
        | trade =>
          simp only [Meeting.swap]
          by_cases hq : min r (min x y) ≤ 0
          · rw [if_pos hq, if_pos hq]
          · rw [if_neg hq, if_neg hq]
            exact ih _ _ _

end Swap

end Lib.PairOff
