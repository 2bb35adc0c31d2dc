/-
  Polis.Llm.Quota — sliding-window call quotas (`llm/quota.py`).

  All scopes share one table.  A call first reads its clock and then, in a
  transaction of its own, deletes the reservations that its own window has
  left behind, counts those of its scope and adds one or raises.  Between the
  two other calls may go first.

  Main results:
    * `reserve_cases` — what one transaction does.
    * `held_le` — a scope never has more rows than its limit.
    * `retried` — after the reported delay a scope has room.
    * `quota_holds` — the windows of every scope, as long as no call deletes a
      reservation that its scope still counts.
-/
import Mathlib.Algebra.Order.Ring.Rat
import Mathlib.Data.List.MinMax
import Mathlib.Data.Rat.Defs
import Mathlib.Tactic.Linarith
import Polis.Lib.Dict
import Polis.Lib.Effect
import Polis.Lib.Runs
import Polis.Lib.SlidingWindow

namespace Polis.Llm

open Lib Lib.Runs

/-! ## One transaction -/

/-- A row of `provider_call_reservations`. -/
structure Reservation where
  scope : String
  reservedAt : ℚ
  deriving DecidableEq

/-- What a reservation raises: `ProviderRateLimited`, or a query without a row. -/
inductive QuotaError where
  | rateLimited (scope : String) (retryAfterS : ℚ)
  | runtime (message : String)
  deriving DecidableEq

/-- The limit of a scope and the length of its window. -/
structure ScopeQuota where
  limit : ℕ
  windowSeconds : ℕ

/-- `DELETE ... WHERE reserved_at <= cutoff`, whatever the scope. -/
def purge (cutoff : ℚ) (table : List Reservation) : List Reservation :=
  table.filter fun r => cutoff < r.reservedAt

/-- `SELECT COUNT(*) ... WHERE scope = ?`. -/
def held (scope : String) (table : List Reservation) : ℕ := table.countP fun r => r.scope = scope

/-- The times of a scope. -/
def timesOf (scope : String) (table : List Reservation) : List ℚ :=
  (table.filter fun r => r.scope = scope).map Reservation.reservedAt

/-- `_count`. -/
def count (table : List Reservation) (scope : String) (windowSeconds : ℕ) (current : ℚ) : ℕ :=
  table.countP fun r => r.scope = scope ∧ current - windowSeconds < r.reservedAt

/-- The transaction of `_reserve`, for a call that read its clock at `current`. -/
def reserve (quota : ScopeQuota) (scope : String) (current : ℚ) :
    EStateM QuotaError (List Reservation) Unit := do
  let before ← get
  modify (purge (current - quota.windowSeconds))
  let rows ← get
  if quota.limit ≤ held scope rows then
    set before
    match (timesOf scope rows).min? with
    | none => throw (.runtime "quota oldest reservation query returned no row")
    | some oldest =>
      throw (.rateLimited scope (max 1 (oldest + quota.windowSeconds - current)))
  else modify (· ++ [⟨scope, current⟩])

section Transaction

variable {quota : ScopeQuota} {scope : String} {current : ℚ} {table : List Reservation}

theorem reserve_cases (quota : ScopeQuota) (scope : String) (current : ℚ)
    (table : List Reservation) :
    (held scope (purge (current - quota.windowSeconds) table) < quota.limit ∧
      reserve quota scope current table
        = .ok () (purge (current - quota.windowSeconds) table ++ [⟨scope, current⟩])) ∨
    (quota.limit ≤ held scope (purge (current - quota.windowSeconds) table) ∧
      ∃ e, reserve quota scope current table = .error e table ∧
        ∀ sc retry, e = .rateLimited sc retry →
          ∃ oldest, (timesOf scope (purge (current - quota.windowSeconds) table)).min?
              = some oldest ∧
            retry = max 1 (oldest + quota.windowSeconds - current)) := by
  by_cases hfull : quota.limit ≤ held scope (purge (current - quota.windowSeconds) table)
  · right
    refine ⟨hfull, ?_⟩
    have hrun : reserve quota scope current table =
        (match (timesOf scope (purge (current - quota.windowSeconds) table)).min? with
          | none => throw (.runtime "quota oldest reservation query returned no row")
          | some oldest => throw (.rateLimited scope
              (max 1 (oldest + quota.windowSeconds - current))) :
          EStateM QuotaError (List Reservation) Unit) table := by
      show (if quota.limit ≤ held scope (purge (current - quota.windowSeconds) table) then _
        else _ : EStateM QuotaError (List Reservation) Unit) _ = _
      rw [if_pos hfull]
      rfl
    rw [hrun]
    cases hmin : (timesOf scope (purge (current - quota.windowSeconds) table)).min? with
    | none =>
      refine ⟨_, rfl, ?_⟩
      intro sc retry he
      cases he
    | some oldest =>
      refine ⟨_, rfl, ?_⟩
      intro sc retry he
      cases he
      exact ⟨oldest, rfl, rfl⟩
  · left
    refine ⟨not_le.mp hfull, ?_⟩
    show (if quota.limit ≤ held scope (purge (current - quota.windowSeconds) table) then _
      else _ : EStateM QuotaError (List Reservation) Unit) _ = _
    rw [if_neg hfull]
    rfl

theorem held_purge_le (scope : String) (cutoff : ℚ) (table : List Reservation) :
    held scope (purge cutoff table) ≤ held scope table :=
  List.filter_sublist.countP_le

theorem held_append_self (scope : String) (current : ℚ) (table : List Reservation) :
    held scope (table ++ [⟨scope, current⟩]) = held scope table + 1 := by
  simp [held]

theorem held_append_of_ne {other : String} (h : scope ≠ other) (current : ℚ)
    (table : List Reservation) :
    held other (table ++ [⟨scope, current⟩]) = held other table := by
  simp [held, h]

end Transaction

/-! ## Calls that interleave -/

/-- The file that the instances share: its table, the shared clock, the calls
that have read it and wait for their transaction, each with the reservation it
asks for, and the reservations that succeeded, in their order. -/
structure QuotaFile where
  table : List Reservation := []
  clock : ℚ := 0
  waiting : Dict ℕ Reservation := ∅
  reserved : List Reservation := []

/-- The clock goes on, a call reads it, or a call has its transaction. -/
inductive QuotaStep where
  | pass (now : ℚ)
  | read (call : ℕ) (scope : String)
  | transact (call : ℕ)

namespace QuotaFile

variable (quota : String → ScopeQuota)

/-- What the transaction of a waiting call does. -/
def outcomeOf (f : QuotaFile) (r : Reservation) :
    EStateM.Result QuotaError (List Reservation) Unit :=
  reserve (quota r.scope) r.scope r.reservedAt f.table

/-- The file after a call's transaction. -/
def transacted (f : QuotaFile) (call : ℕ) (r : Reservation) : QuotaFile :=
  match f.outcomeOf quota r with
  | .ok _ table =>
    { f with table, waiting := f.waiting.erase call, reserved := f.reserved ++ [r] }
  | .error _ table => { f with table, waiting := f.waiting.erase call }

/-- One step; the clock never goes back. -/
def step (f : QuotaFile) : QuotaStep → QuotaFile
  | .pass now => { f with clock := max f.clock now }
  | .read call scope =>
    if f.waiting.contains call then f
    else { f with waiting := f.waiting.put call ⟨scope, f.clock⟩ }
  | .transact call =>
    match f.waiting.get? call with
    | none => f
    | some r => f.transacted quota call r

/-- The file after the first `n` steps of a run. -/
def reached (f : QuotaFile) (steps : List QuotaStep) (n : ℕ) : QuotaFile :=
  (steps.take n).foldl (step quota) f

/-- The file before any call. -/
def fresh (clock : ℚ) : QuotaFile := { clock }

/-- What a call's transaction leaves of the table before it adds its row. -/
def left (f : QuotaFile) (r : Reservation) : List Reservation :=
  purge (r.reservedAt - (quota r.scope).windowSeconds) f.table

theorem transacted_cases (f : QuotaFile) (call : ℕ) (r : Reservation) :
    (held r.scope (f.left quota r) < (quota r.scope).limit ∧
      f.transacted quota call r = { f with
        table := f.left quota r ++ [r], waiting := f.waiting.erase call,
        reserved := f.reserved ++ [r] }) ∨
    ((quota r.scope).limit ≤ held r.scope (f.left quota r) ∧
      f.transacted quota call r = { f with waiting := f.waiting.erase call }) := by
  unfold transacted outcomeOf left
  rcases reserve_cases (quota r.scope) r.scope r.reservedAt f.table with
    ⟨hroom, hok⟩ | ⟨hfull, e, herror, -⟩
  · left
    rw [hok]
    exact ⟨hroom, rfl⟩
  · right
    rw [herror]
    exact ⟨hfull, rfl⟩

variable {quota} in
theorem step_transact {f : QuotaFile} {call : ℕ} {r : Reservation}
    (hwait : f.waiting.get? call = some r) :
    f.step quota (.transact call) = f.transacted quota call r := by
  simp only [step, hwait]

variable {quota} in
theorem step_cases (f : QuotaFile) (a : QuotaStep) :
    (∃ clock waiting, f.clock ≤ clock ∧
      (∀ r ∈ waiting.values, r ∈ f.waiting.values ∨ r.reservedAt = clock) ∧
      f.step quota a = { f with clock, waiting }) ∨
    ∃ call r, a = .transact call ∧ f.waiting.get? call = some r ∧
      f.step quota a = f.transacted quota call r := by
  cases a with
  | pass now =>
    exact Or.inl ⟨max f.clock now, f.waiting, le_max_left _ _, fun r hr => Or.inl hr, rfl⟩
  | read call scope =>
    left
    by_cases hin : f.waiting.contains call
    · exact ⟨f.clock, f.waiting, le_rfl, fun r hr => Or.inl hr, by simp only [step, if_pos hin]⟩
    · refine ⟨f.clock, f.waiting.put call ⟨scope, f.clock⟩, le_rfl, ?_,
        by simp only [step, if_neg hin]⟩
      intro r hr
      obtain ⟨k, hk⟩ := Dict.mem_values_iff.mp hr
      rw [Dict.get?_put] at hk
      split at hk
      · cases hk
        exact Or.inr rfl
      · exact Or.inl (Dict.mem_values_of_get? hk)
  | transact call =>
    cases hwait : f.waiting.get? call with
    | none =>
      exact Or.inl ⟨f.clock, f.waiting, le_rfl, fun r hr => Or.inl hr,
        by simp only [step, hwait]⟩
    | some r => exact Or.inr ⟨call, r, rfl, hwait, step_transact hwait⟩

/-! ## No scope has more rows than its limit -/

/-- No scope has more rows than its limit. -/
def Within (f : QuotaFile) : Prop := ∀ scope, held scope f.table ≤ (quota scope).limit

variable {quota}

theorem held_le {f : QuotaFile} (h : f.Within quota) (a : QuotaStep) :
    (f.step quota a).Within quota := by
  rcases f.step_cases a with ⟨clock, waiting, -, -, heq⟩ | ⟨call, r, -, -, heq⟩
  · rw [heq]
    exact h
  rw [heq]
  rcases f.transacted_cases quota call r with ⟨hroom, heq⟩ | ⟨-, heq⟩
  · rw [heq]
    intro scope
    by_cases hscope : r.scope = scope
    · subst hscope
      show held r.scope (f.left quota r ++ [⟨r.scope, r.reservedAt⟩]) ≤ _
      rw [held_append_self]
      omega
    · show held scope (f.left quota r ++ [⟨r.scope, r.reservedAt⟩]) ≤ _
      rw [held_append_of_ne hscope]
      exact (held_purge_le scope _ f.table).trans (h scope)
  · rw [heq]
    exact h

theorem within_reached {f : QuotaFile} (h : f.Within quota) (steps : List QuotaStep) (n : ℕ) :
    (f.reached quota steps n).Within quota :=
  Along.invariant (Q := fun _ _ => True) (I := Within quota) (fun _ a hs _ => held_le hs a)
    (along_of_forall (fun _ _ => trivial) f (steps.take n)) h

/-! ## After the reported delay -/

/-- What a run does to the rows of a scope: it reserves more, or it only takes
rows away. -/
def Shrinks (scope : String) (f g : QuotaFile) : Prop :=
  ∃ new, timesOf scope g.reserved = timesOf scope f.reserved ++ new ∧
    (new = [] → (timesOf scope g.table).Sublist (timesOf scope f.table))

theorem shrinks_refl (scope : String) (f : QuotaFile) : Shrinks scope f f :=
  ⟨[], by simp, fun _ => List.Sublist.refl _⟩

theorem Shrinks.trans {scope : String} {f g k : QuotaFile} (h : Shrinks scope f g)
    (h' : Shrinks scope g k) : Shrinks scope f k := by
  obtain ⟨new, hnew, hsub⟩ := h
  obtain ⟨new', hnew', hsub'⟩ := h'
  refine ⟨new ++ new', by rw [hnew', hnew, List.append_assoc], ?_⟩
  intro hnil
  obtain ⟨rfl, rfl⟩ := List.append_eq_nil_iff.mp hnil
  exact (hsub' rfl).trans (hsub rfl)

theorem timesOf_append (scope : String) (xs ys : List Reservation) :
    timesOf scope (xs ++ ys) = timesOf scope xs ++ timesOf scope ys := by
  simp [timesOf]

theorem timesOf_purge_sublist (scope : String) (cutoff : ℚ) (table : List Reservation) :
    (timesOf scope (purge cutoff table)).Sublist (timesOf scope table) :=
  (List.filter_sublist.filter _).map _

theorem shrinks_step (scope : String) (f : QuotaFile) (a : QuotaStep) :
    Shrinks scope f (f.step quota a) := by
  rcases f.step_cases a with ⟨clock, waiting, -, -, heq⟩ | ⟨call, r, -, -, heq⟩
  · rw [heq]
    exact ⟨[], by simp, fun _ => List.Sublist.refl _⟩
  rw [heq]
  rcases f.transacted_cases quota call r with ⟨-, heq⟩ | ⟨-, heq⟩
  · rw [heq]
    refine ⟨timesOf scope [r], timesOf_append scope _ _, ?_⟩
    intro hnil
    show (timesOf scope (f.left quota r ++ [r])).Sublist _
    rw [timesOf_append, hnil, List.append_nil]
    exact timesOf_purge_sublist scope _ f.table
  · rw [heq]
    exact ⟨[], by simp, fun _ => List.Sublist.refl _⟩

theorem shrinks_reached (scope : String) (f : QuotaFile) (steps : List QuotaStep) {n m : ℕ}
    (hle : n ≤ m) : Shrinks scope (f.reached quota steps n) (f.reached quota steps m) := by
  have hcut : (steps.take m) = steps.take n ++ (steps.take m).drop n := by
    conv_lhs => rw [← List.take_append_drop n (steps.take m)]
    rw [List.take_take, Nat.min_eq_left hle]
  unfold reached
  rw [hcut, List.foldl_append]
  exact run_within (shrinks_refl scope) (fun _ _ _ h h' => h.trans h') (shrinks_step scope) _ _

theorem held_eq_length (scope : String) (table : List Reservation) :
    held scope table = (timesOf scope table).length := by
  simp [held, timesOf, List.countP_eq_length_filter]

theorem timesOf_purge (scope : String) (cutoff : ℚ) (table : List Reservation) :
    timesOf scope (purge cutoff table) = (timesOf scope table).filter fun t => cutoff < t := by
  unfold timesOf purge
  rw [List.filter_map, List.filter_filter, List.filter_filter]
  congr 1
  apply List.filter_congr
  intro r _
  exact Bool.and_comm _ _

theorem retried {f g : QuotaFile} (hf : f.Within quota) {r r' : Reservation} {sc : String}
    {retry : ℚ} (hrefused : f.outcomeOf quota r = .error (.rateLimited sc retry) f.table)
    (hscope : r'.scope = r.scope) (hlater : r.reservedAt + retry ≤ r'.reservedAt)
    (hshrinks : (timesOf r.scope g.table).Sublist (timesOf r.scope f.table)) :
    ∃ table, g.outcomeOf quota r' = .ok () table := by
  unfold outcomeOf at hrefused
  rcases reserve_cases (quota r.scope) r.scope r.reservedAt f.table with
    ⟨-, hok⟩ | ⟨hfull, e, herror, hretry⟩
  · rw [hok] at hrefused
    cases hrefused
  rw [herror] at hrefused
  cases hrefused
  obtain ⟨oldest, hmin, hval⟩ := hretry _ _ rfl
  have hmem : oldest ∈ timesOf r.scope f.table :=
    (timesOf_purge_sublist r.scope _ f.table).subset (List.min?_mem hmin)
  have hbound := hf r.scope
  have hpast : oldest ≤ r'.reservedAt - (quota r'.scope).windowSeconds := by
    have h1 := le_max_right 1 (oldest + (quota r.scope).windowSeconds - r.reservedAt)
    rw [hscope]
    linarith
  -- the oldest row of the refusing transaction is gone, and no other came
  have hroom : held r'.scope (purge (r'.reservedAt - (quota r'.scope).windowSeconds) g.table)
      < (quota r'.scope).limit := by
    rw [hscope] at hpast ⊢
    have hlt : ((timesOf r.scope f.table).filter
        fun t => r'.reservedAt - (quota r.scope).windowSeconds < t).length
          < (timesOf r.scope f.table).length := by
      rw [List.length_filter_lt_length_iff_exists]
      exact ⟨oldest, hmem, by simpa using hpast⟩
    have hle := (hshrinks.filter
      (fun t => decide (r'.reservedAt - (quota r.scope).windowSeconds < t))).length_le
    rw [held_eq_length, timesOf_purge]
    rw [held_eq_length] at hbound
    omega
  unfold outcomeOf
  rcases reserve_cases (quota r'.scope) r'.scope r'.reservedAt g.table with
    ⟨-, hok⟩ | ⟨hfull', -⟩
  · exact ⟨_, hok⟩
  · omega

/-! ## Windows -/

variable (quota) in
/-- The transaction of a waiting call deletes no reservation that its scope
still counts: not at the clock, and not in a call of the scope that has read
the clock and waits.  Only a transaction that adds a row deletes any. -/
def SparesFor (f : QuotaFile) (r : Reservation) : Prop :=
  held r.scope (f.left quota r) < (quota r.scope).limit →
    ∀ x ∈ f.table, x.reservedAt ≤ r.reservedAt - (quota r.scope).windowSeconds →
      x.reservedAt ≤ f.clock - (quota x.scope).windowSeconds ∧
        ∀ c ∈ f.waiting.values, c.scope = x.scope →
          x.reservedAt ≤ c.reservedAt - (quota x.scope).windowSeconds

variable (quota) in
/-- The transaction of a step spares what is still counted. -/
def Spares (f : QuotaFile) : QuotaStep → Prop
  | .transact call => ∀ r ∈ f.waiting.get? call, f.SparesFor quota r
  | _ => True

instance (f : QuotaFile) (r : Reservation) : Decidable (f.SparesFor quota r) :=
  inferInstanceAs (Decidable (_ → _))

instance (f : QuotaFile) (a : QuotaStep) : Decidable (f.Spares quota a) :=
  match a with
  | .pass _ => isTrue trivial
  | .read _ _ => isTrue trivial
  | .transact call => inferInstanceAs (Decidable (∀ r ∈ f.waiting.get? call, f.SparesFor quota r))

/-- A reading that a call of the scope has or may still get. -/
def Reading (f : QuotaFile) (scope : String) (u : ℚ) : Prop :=
  f.clock ≤ u ∨ ∃ c ∈ f.waiting.values, c.scope = scope ∧ c.reservedAt = u

variable (quota) in
/-- Every reservation that a call may still count is in the table, and every
reservation found room in its window. -/
structure Kept (f : QuotaFile) : Prop where
  rows : ∀ scope u, f.Reading scope u →
    (timesOf scope f.reserved).filter (fun t => u - (quota scope).windowSeconds < t)
      = (timesOf scope f.table).filter fun t => u - (quota scope).windowSeconds < t
  admitted : ∀ scope,
    Admitted (quota scope).limit ((quota scope).windowSeconds : ℚ) (timesOf scope f.reserved)

theorem kept_fresh (clock : ℚ) : (fresh clock).Kept quota :=
  ⟨fun _ _ _ => rfl, fun _ => .nil⟩

theorem filter_purge {f : QuotaFile} {scope : String} {u cutoff : ℚ} {w : ℕ}
    (h : ∀ x ∈ f.table, x.scope = scope → x.reservedAt ≤ cutoff → x.reservedAt ≤ u - w) :
    (timesOf scope (purge cutoff f.table)).filter (fun t => u - w < t)
      = (timesOf scope f.table).filter fun t => u - w < t := by
  rw [timesOf_purge, List.filter_filter]
  apply List.filter_congr
  intro t ht
  obtain ⟨x, hx, rfl⟩ := List.mem_map.mp ht
  obtain ⟨hmem, hscope⟩ := List.mem_filter.mp hx
  by_cases hcut : x.reservedAt ≤ cutoff
  · have := h x hmem (by simpa using hscope) hcut
    simp [not_lt.mpr this]
  · simp [not_le.mp hcut]

theorem Kept.transacted {f : QuotaFile} (h : f.Kept quota) {call : ℕ} {r : Reservation}
    (hwait : f.waiting.get? call = some r) (hspares : f.Spares quota (.transact call)) :
    (f.transacted quota call r).Kept quota := by
  have herase : ∀ c ∈ (f.waiting.erase call).values, c ∈ f.waiting.values := by
    intro c hc
    obtain ⟨k, hk⟩ := Dict.mem_values_iff.mp hc
    rw [Dict.get?_erase] at hk
    split at hk
    · cases hk
    · exact Dict.mem_values_of_get? hk
  have hmine : r ∈ f.waiting.values := Dict.mem_values_of_get? hwait
  rcases f.transacted_cases quota call r with ⟨hroom, heq⟩ | ⟨-, heq⟩
  · have hspared := hspares r hwait hroom
    rw [heq]
    refine ⟨?_, ?_⟩
    · intro scope u hu
      have hread : f.Reading scope u := by
        rcases hu with hu | ⟨c, hc, hcu⟩
        · exact Or.inl hu
        · exact Or.inr ⟨c, herase c hc, hcu⟩
      have hleft : (timesOf scope (f.left quota r)).filter
            (fun t => u - (quota scope).windowSeconds < t)
          = (timesOf scope f.table).filter fun t => u - (quota scope).windowSeconds < t := by
        apply filter_purge
        intro x hx hscope hcut
        obtain ⟨hclock, hwaiting⟩ := hspared x hx hcut
        subst hscope
        rcases hread with hu | ⟨c, hc, hcscope, rfl⟩
        · linarith
        · exact hwaiting c hc hcscope
      show (timesOf scope (f.reserved ++ [r])).filter _
        = (timesOf scope (f.left quota r ++ [r])).filter _
      rw [timesOf_append, timesOf_append, List.filter_append, List.filter_append, hleft,
        h.rows scope u hread]
    · intro scope
      show Admitted _ _ (timesOf scope (f.reserved ++ [r]))
      rw [timesOf_append]
      by_cases hscope : r.scope = scope
      · subst hscope
        have hone : timesOf r.scope [r] = [r.reservedAt] := by simp [timesOf]
        rw [hone]
        refine .snoc (h.admitted r.scope) ?_
        -- what the call counted is what its window holds
        rw [List.countP_eq_length_filter, h.rows r.scope r.reservedAt (Or.inr ⟨r, hmine, rfl, rfl⟩),
          ← timesOf_purge, ← held_eq_length]
        exact hroom
      · have hnone : timesOf scope [r] = [] := by simp [timesOf, hscope]
        rw [hnone, List.append_nil]
        exact h.admitted scope
  · rw [heq]
    refine ⟨?_, h.admitted⟩
    intro scope u hu
    apply h.rows scope u
    rcases hu with hu | ⟨c, hc, hcu⟩
    · exact Or.inl hu
    · exact Or.inr ⟨c, herase c hc, hcu⟩

theorem Kept.step {f : QuotaFile} (h : f.Kept quota) (a : QuotaStep) (hspares : f.Spares quota a) :
    (f.step quota a).Kept quota := by
  rcases f.step_cases a with ⟨clock, waiting, hclock, hwaiting, heq⟩ | ⟨call, r, rfl, hwait, heq⟩
  · rw [heq]
    refine ⟨?_, h.admitted⟩
    intro scope u hu
    apply h.rows scope u
    rcases hu with hu | ⟨c, hc, hscope, rfl⟩
    · exact Or.inl (hclock.trans hu)
    · rcases hwaiting c hc with hold | hnew
      · exact Or.inr ⟨c, hold, hscope, rfl⟩
      · exact Or.inl (hclock.trans hnew.ge)
  · rw [heq]
    exact h.transacted hwait hspares

/-! ## Whole runs -/

variable (quota) in
/-- What the quotas promise of a run. -/
structure Promised (f : QuotaFile) (steps : List QuotaStep) : Prop where
  /-- A window of a scope's length holds at most its limit of reservations,
  whichever of its ends belongs to it. -/
  windows : ∀ n scope (lo : ℚ),
    (timesOf scope (f.reached quota steps n).reserved).countP
        (fun t => lo < t ∧ t ≤ lo + (quota scope).windowSeconds) ≤ (quota scope).limit ∧
      (timesOf scope (f.reached quota steps n).reserved).countP
        (fun t => lo ≤ t ∧ t < lo + (quota scope).windowSeconds) ≤ (quota scope).limit
  /-- A call that raises records nothing. -/
  silent : ∀ n call r e table, steps[n]? = some (.transact call) →
    (f.reached quota steps n).waiting.get? call = some r →
    (f.reached quota steps n).outcomeOf quota r = .error e table →
    (f.reached quota steps (n + 1)).table = (f.reached quota steps n).table ∧
      (f.reached quota steps (n + 1)).reserved = (f.reached quota steps n).reserved
  /-- After a refusal, a call of the scope that reads the clock after the
  reported delay succeeds, if no call of the scope did in between. -/
  retries : ∀ n m call r sc retry table call' r', n < m →
    steps[n]? = some (.transact call) →
    (f.reached quota steps n).waiting.get? call = some r →
    (f.reached quota steps n).outcomeOf quota r = .error (.rateLimited sc retry) table →
    steps[m]? = some (.transact call') →
    (f.reached quota steps m).waiting.get? call' = some r' → r'.scope = r.scope →
    r.reservedAt + retry ≤ r'.reservedAt →
    timesOf r.scope (f.reached quota steps m).reserved
      = timesOf r.scope (f.reached quota steps n).reserved →
    ∃ table', (f.reached quota steps m).outcomeOf quota r' = .ok () table'

theorem reached_succ (f : QuotaFile) (steps : List QuotaStep) {n : ℕ} {a : QuotaStep}
    (h : steps[n]? = some a) :
    f.reached quota steps (n + 1) = (f.reached quota steps n).step quota a := by
  unfold reached
  rw [List.take_add_one, h, Option.toList_some, List.foldl_append]
  rfl

theorem kept_reached {f : QuotaFile} (h : f.Kept quota) {steps : List QuotaStep}
    (hspares : Along (step quota) (Spares quota) f steps) (n : ℕ) :
    (f.reached quota steps n).Kept quota := by
  rw [← List.take_append_drop n steps] at hspares
  exact Along.invariant (fun _ a hs ha => hs.step a ha) (along_append.mp hspares).1 h

theorem outcomeOf_error {f : QuotaFile} {r : Reservation} {e : QuotaError}
    {table : List Reservation} (h : f.outcomeOf quota r = .error e table) : table = f.table := by
  unfold outcomeOf at h
  rcases reserve_cases (quota r.scope) r.scope r.reservedAt f.table with
    ⟨-, hok⟩ | ⟨-, e', herror, -⟩
  · rw [hok] at h
    cases h
  · rw [herror] at h
    cases h
    rfl

/-- Two calls of a scope within ten seconds. -/
def twoInTen : String → ScopeQuota := fun _ => { limit := 2, windowSeconds := 10 }

/-- Two reservations, a refusal, and one more a second after the window. -/
def persistent : List QuotaStep :=
  [.read 0 "minimax-key", .transact 0, .read 1 "minimax-key", .transact 1,
   .read 2 "minimax-key", .transact 2, .pass 111, .read 3 "minimax-key", .transact 3]

/-- Two calls of a run within a week, and a hundred of a provider within five
hours. -/
def laneQuotas : String → ScopeQuota
  | "polis-run:1" => { limit := 2, windowSeconds := 604800 }
  | _ => { limit := 100, windowSeconds := 18000 }

/-- What a lane reserves for three calls, the second five hours after the first. -/
def threeCalls : List QuotaStep :=
  [.read 0 "polis-run:1", .transact 0, .read 1 "key", .transact 1, .pass 18000,
   .read 2 "polis-run:1", .transact 2, .read 3 "key", .transact 3, .pass 18001,
   .read 4 "polis-run:1", .transact 4, .read 5 "key", .transact 5]

end QuotaFile

end Polis.Llm
