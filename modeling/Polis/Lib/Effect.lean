/-
  Lib.Effect — stateful computations that may raise.

  `EStateM ε σ` is the reading of imperative code with exceptions: a
  computation that raises keeps the writes it made before.  This file
  collects what proofs about such code use.

  Main results:
    * `bind_eq_ok`, `zoom_eq_ok`, ... — inversion of a computation that
      returned: which intermediate states it went through.
    * `Within R x` — every returning run of `x` relates its two states by
      `R`; for a reflexive and transitive `R` the rules below compose it
      along sequencing, branching and loops.
    * `bind_eq_error`, `zoom_eq_error`, `Raises P x` — where a run raised, and
      what it may raise.
    * `Leaves R x` — the same for runs that return and runs that raise.
    * `Atomic x` — a run of `x` that raises wrote nothing; checks before
      writes compose to it.
-/
import Mathlib.Init
import Mathlib.Order.Defs.Unbundled

namespace Lib.Effect

variable {ε σ τ α β γ : Type}

/-! ## Combinators -/

/-- Raise `e` unless `c` holds. -/
def require (c : Prop) [Decidable c] (e : ε) : EStateM ε σ Unit :=
  if c then pure () else throw e

/-- The value of an option, or raise `e`. -/
def orRaise (o : Option α) (e : ε) : EStateM ε σ α :=
  match o with
  | some a => pure a
  | none => throw e

/-- Run a computation on the component `view s`, writing the component back
whether the computation returns or raises. -/
def zoom (view : σ → τ) (put : σ → τ → σ) (x : EStateM ε τ α) : EStateM ε σ α := fun s =>
  match x (view s) with
  | .ok a t => .ok a (put s t)
  | .error e t => .error e (put s t)

/-- A `for` loop that collects the lists its body returns. -/
def gather (f : α → EStateM ε σ (List β)) : List α → EStateM ε σ (List β)
  | [] => pure []
  | x :: xs => do
      let here ← f x
      let rest ← gather f xs
      pure (here ++ rest)

/-- A branch without an `else`, of a computation that collects a list. -/
def onlyIf (c : Prop) [Decidable c] (x : EStateM ε σ (List β)) : EStateM ε σ (List β) :=
  if c then x else pure []

/-- A branch without an `else`, run for its effects. -/
def runIf (c : Prop) [Decidable c] (x : EStateM ε σ Unit) : EStateM ε σ Unit :=
  if c then x else pure ()

/-- A `for` loop with an accumulator. -/
def foldEff (f : β → α → EStateM ε σ β) : β → List α → EStateM ε σ β
  | b, [] => pure b
  | b, x :: xs => do
      let b' ← f b x
      foldEff f b' xs

/-- A `for` loop run for its effects. -/
def each (f : α → EStateM ε σ Unit) : List α → EStateM ε σ Unit
  | [] => pure ()
  | x :: xs => do
      f x
      each f xs

/-- Lift a computation without state. -/
def liftE (x : Except ε α) : EStateM ε σ α :=
  match x with
  | .ok a => pure a
  | .error e => throw e

/-- The state a run leaves, whether it returned or raised. -/
def stateAfter : EStateM.Result ε σ α → σ
  | .ok _ s => s
  | .error _ s => s

/-- What a returning run leaves, read through `f`. -/
def outcome (r : EStateM.Result ε σ α) (f : σ → β) : Option β :=
  match r with
  | .ok _ s => some (f s)
  | .error _ _ => none

theorem outcome_eq_some {r : EStateM.Result ε σ α} {f : σ → β} {b : β}
    (h : outcome r f = some b) : ∃ a s, r = .ok a s ∧ f s = b := by
  cases r with
  | ok a s => exact ⟨a, s, rfl, Option.some.inj h⟩
  | error e s => cases h

@[simp] theorem stateAfter_ok (a : α) (s : σ) :
    stateAfter (.ok a s : EStateM.Result ε σ α) = s := rfl

@[simp] theorem stateAfter_error (e : ε) (s : σ) :
    stateAfter (.error e s : EStateM.Result ε σ α) = s := rfl

theorem stateAfter_zoom {view : σ → τ} {put : σ → τ → σ} {x : EStateM ε τ α} (s : σ) :
    stateAfter (zoom view put x s) = put s (stateAfter (x (view s))) := by
  unfold zoom
  cases x (view s) with
  | ok a t => rfl
  | error e t => rfl

/-! ## Inversion of returning runs -/

theorem bind_eq_ok {x : EStateM ε σ α} {f : α → EStateM ε σ β} {s s' : σ} {b : β} :
    (x >>= f) s = .ok b s' ↔ ∃ a t, x s = .ok a t ∧ f a t = .ok b s' := by
  show EStateM.bind x f s = .ok b s' ↔ _
  unfold EStateM.bind
  cases h : x s with
  | ok a t => simp only [EStateM.Result.ok.injEq]; grind
  | error e t => simp

theorem bind_of_ok {x : EStateM ε σ α} {f : α → EStateM ε σ β} {s t : σ} {a : α}
    (h : x s = .ok a t) : (x >>= f) s = f a t := by
  show EStateM.bind x f s = _
  unfold EStateM.bind
  rw [h]

theorem bind_of_error {x : EStateM ε σ α} {f : α → EStateM ε σ β} {s t : σ} {e : ε}
    (h : x s = .error e t) : (x >>= f) s = .error e t := by
  show EStateM.bind x f s = _
  unfold EStateM.bind
  rw [h]

theorem get_bind {f : σ → EStateM ε σ β} (s : σ) : ((get : EStateM ε σ σ) >>= f) s = f s s := rfl

theorem pure_bind_apply {a : α} {f : α → EStateM ε σ β} (s : σ) :
    ((pure a : EStateM ε σ α) >>= f) s = f a s := rfl

theorem zoom_of_ok {view : σ → τ} {put : σ → τ → σ} {x : EStateM ε τ α} {s : σ} {t : τ} {a : α}
    (h : x (view s) = .ok a t) : zoom view put x s = .ok a (put s t) := by
  unfold zoom
  rw [h]

theorem zoom_of_error {view : σ → τ} {put : σ → τ → σ} {x : EStateM ε τ α} {s : σ} {t : τ} {e : ε}
    (h : x (view s) = .error e t) : zoom view put x s = .error e (put s t) := by
  unfold zoom
  rw [h]

theorem stateAfter_bind_pure {x : EStateM ε σ α} {g : α → β} (s : σ) :
    stateAfter ((x >>= fun a => pure (g a)) s) = stateAfter (x s) := by
  cases h : x s with
  | ok a t => rw [bind_of_ok h]; rfl
  | error e t => rw [bind_of_error h]; rfl

theorem tryCatch_of_ok {x : EStateM ε σ α} {f : ε → EStateM ε σ α} {s t : σ} {a : α}
    (h : x s = .ok a t) : (tryCatch x f : EStateM ε σ α) s = .ok a t := by
  show EStateM.tryCatch x f s = _
  unfold EStateM.tryCatch
  rw [h]

theorem pure_eq_ok {a b : α} {s s' : σ} :
    (pure a : EStateM ε σ α) s = .ok b s' ↔ a = b ∧ s = s' := by
  show EStateM.Result.ok a s = .ok b s' ↔ _
  simp

theorem throw_eq_ok {e : ε} {b : α} {s s' : σ} :
    (throw e : EStateM ε σ α) s = .ok b s' ↔ False := by
  show EStateM.Result.error e s = .ok b s' ↔ _
  simp

theorem get_eq_ok {a s s' : σ} :
    (get : EStateM ε σ σ) s = .ok a s' ↔ s = a ∧ s = s' := by
  show EStateM.Result.ok s s = .ok a s' ↔ _
  simp

theorem set_eq_ok {t s s' : σ} {u : PUnit} :
    (set t : EStateM ε σ PUnit) s = .ok u s' ↔ t = s' := by
  show EStateM.Result.ok PUnit.unit t = .ok u s' ↔ _
  simp

theorem modify_eq_ok {f : σ → σ} {s s' : σ} {u : PUnit} :
    (modify f : EStateM ε σ PUnit) s = .ok u s' ↔ f s = s' := by
  show EStateM.Result.ok PUnit.unit (f s) = .ok u s' ↔ _
  simp

theorem require_eq_ok {c : Prop} [Decidable c] {e : ε} {s s' : σ} {u : Unit} :
    (require c e : EStateM ε σ Unit) s = .ok u s' ↔ c ∧ s = s' := by
  unfold require
  by_cases h : c
  · rw [if_pos h, pure_eq_ok]; simp [h]
  · rw [if_neg h, throw_eq_ok]; simp [h]

theorem require_pass {c : Prop} [Decidable c] (h : c) (e : ε) (s : σ) :
    (require c e : EStateM ε σ Unit) s = .ok () s := require_eq_ok.mpr ⟨h, rfl⟩

theorem require_fail {c : Prop} [Decidable c] (h : ¬c) (e : ε) (s : σ) :
    (require c e : EStateM ε σ Unit) s = .error e s := by
  unfold require
  rw [if_neg h]
  rfl

theorem orRaise_eq_ok {o : Option α} {e : ε} {s s' : σ} {a : α} :
    (orRaise o e : EStateM ε σ α) s = .ok a s' ↔ o = some a ∧ s = s' := by
  unfold orRaise
  cases o with
  | some b => rw [pure_eq_ok]; simp
  | none => rw [throw_eq_ok]; simp

theorem liftE_eq_ok {x : Except ε α} {s s' : σ} {a : α} :
    (liftE x : EStateM ε σ α) s = .ok a s' ↔ x = .ok a ∧ s = s' := by
  unfold liftE
  cases x with
  | ok b => rw [pure_eq_ok]; simp
  | error e => rw [throw_eq_ok]; simp

theorem zoom_eq_ok {view : σ → τ} {put : σ → τ → σ} {x : EStateM ε τ α} {s s' : σ} {a : α} :
    zoom view put x s = .ok a s' ↔ ∃ t, x (view s) = .ok a t ∧ put s t = s' := by
  unfold zoom
  cases h : x (view s) with
  | ok b t => simp only [EStateM.Result.ok.injEq]; grind
  | error e t => simp

theorem ite_eq_ok {c : Prop} [Decidable c] {x y : EStateM ε σ α} {s s' : σ} {a : α} :
    (if c then x else y) s = .ok a s' ↔ (c ∧ x s = .ok a s') ∨ (¬c ∧ y s = .ok a s') := by
  by_cases h : c <;> simp [h]

theorem onlyIf_of {c : Prop} [Decidable c] (h : c) (x : EStateM ε σ (List β)) :
    onlyIf c x = x := if_pos h

theorem onlyIf_of_not {c : Prop} [Decidable c] (h : ¬c) (x : EStateM ε σ (List β)) :
    onlyIf c x = pure [] := if_neg h

theorem onlyIf_eq_ok {c : Prop} [Decidable c] {x : EStateM ε σ (List β)} {s s' : σ} {r : List β} :
    onlyIf c x s = .ok r s' ↔ (c ∧ x s = .ok r s') ∨ (¬c ∧ r = [] ∧ s = s') := by
  unfold onlyIf
  rw [ite_eq_ok, pure_eq_ok]
  grind

theorem foldEff_cons (f : β → α → EStateM ε σ β) (b : β) (x : α) (xs : List α) :
    foldEff f b (x :: xs) = (do
      let b' ← f b x
      foldEff f b' xs) := rfl

theorem gather_cons (f : α → EStateM ε σ (List β)) (x : α) (xs : List α) :
    gather f (x :: xs) = (do
      let here ← f x
      let rest ← gather f xs
      pure (here ++ rest)) := rfl

theorem gather_cons_eq_ok {f : α → EStateM ε σ (List β)} {x : α} {xs : List α} {s s' : σ}
    {r : List β} : gather f (x :: xs) s = .ok r s' ↔
      ∃ a t b, f x s = .ok a t ∧ gather f xs t = .ok b s' ∧ r = a ++ b := by
  rw [gather_cons, bind_eq_ok]
  constructor
  · rintro ⟨a, t, ha, h⟩
    obtain ⟨b, t', hb, h⟩ := bind_eq_ok.mp h
    obtain ⟨rfl, rfl⟩ := pure_eq_ok.mp h
    exact ⟨a, t, b, ha, hb, rfl⟩
  · rintro ⟨a, t, b, ha, hb, rfl⟩
    exact ⟨a, t, ha, bind_eq_ok.mpr ⟨b, s', hb, pure_eq_ok.mpr ⟨rfl, rfl⟩⟩⟩

theorem gather_runs {f : α → EStateM ε σ (List β)} {xs : List α} {s s' : σ} {r : List β}
    (h : gather f xs s = .ok r s') : ∀ x ∈ xs, ∃ t a t', f x t = .ok a t' := by
  induction xs generalizing s r with
  | nil => intro x hx; cases hx
  | cons y xs ih =>
    obtain ⟨a, t, b, ha, hb, -⟩ := gather_cons_eq_ok.mp h
    intro x hx
    rcases List.mem_cons.mp hx with rfl | hx
    · exact ⟨s, a, t, ha⟩
    · exact ih hb x hx

theorem mem_of_gather_kept {I : σ → Prop} {f : α → EStateM ε σ (List β)} {xs : List α} {s s' : σ}
    {r : List β} (hturn : ∀ x ∈ xs, ∀ t a t', f x t = .ok a t' → I t → I t') (hs : I s)
    (h : gather f xs s = .ok r s') {y : β} (hy : y ∈ r) :
    ∃ x ∈ xs, ∃ t a t', I t ∧ f x t = .ok a t' ∧ y ∈ a := by
  induction xs generalizing s r with
  | nil =>
    obtain ⟨rfl, -⟩ := pure_eq_ok.mp h
    cases hy
  | cons x xs ih =>
    obtain ⟨a, t, b, ha, hb, rfl⟩ := gather_cons_eq_ok.mp h
    rcases List.mem_append.mp hy with hy | hy
    · exact ⟨x, List.mem_cons_self, s, a, t, hs, ha, hy⟩
    · have ht : I t := hturn x List.mem_cons_self s a t ha hs
      obtain ⟨z, hz, hfound⟩ := ih (fun w hw => hturn w (List.mem_cons_of_mem _ hw)) ht hb hy
      exact ⟨z, List.mem_cons_of_mem _ hz, hfound⟩

/-- The states in which the turns of a loop begin, each with its element; a
turn that raises is the last. -/
def visited (f : α → EStateM ε σ (List β)) : List α → σ → List (σ × α)
  | [], _ => []
  | x :: xs, s => (s, x) ::
      match f x s with
      | .ok _ s' => visited f xs s'
      | .error _ _ => []

theorem mem_of_visited {f : α → EStateM ε σ (List β)} {xs : List α} {s : σ} {v : σ × α}
    (h : v ∈ visited f xs s) : v.2 ∈ xs := by
  induction xs generalizing s with
  | nil => cases h
  | cons x xs ih =>
    rcases List.mem_cons.mp h with rfl | h
    · exact List.mem_cons_self
    · split at h
      · exact List.mem_cons_of_mem _ (ih h)
      · cases h

theorem gather_invariant {I : σ → Prop} {f : α → EStateM ε σ (List β)} {xs : List α} {s : σ}
    (hturn : ∀ v ∈ visited f xs s, I v.1 → I (stateAfter (f v.2 v.1))) (hs : I s) :
    I (stateAfter (gather f xs s)) := by
  induction xs generalizing s with
  | nil => exact hs
  | cons x xs ih =>
    have hx : I (stateAfter (f x s)) := hturn (s, x) List.mem_cons_self hs
    rw [gather_cons]
    cases hrun : f x s with
    | error e t =>
      rw [bind_of_error hrun]
      rwa [hrun] at hx
    | ok here t =>
      rw [hrun] at hx
      rw [bind_of_ok hrun]
      have hrest : I (stateAfter (gather f xs t)) := by
        apply ih _ hx
        intro v hv
        apply hturn v
        simp only [visited, hrun]
        exact List.mem_cons_of_mem _ hv
      cases hloop : gather f xs t with
      | error e u =>
        rw [bind_of_error hloop]
        rwa [hloop] at hrest
      | ok rest u =>
        rw [bind_of_ok hloop]
        rwa [hloop] at hrest

/-- A state of `P` where a run returns, and of `Q` where it raises. -/
def EndsIn (P Q : σ → Prop) : EStateM.Result ε σ α → Prop
  | .ok _ s => P s
  | .error _ s => Q s

theorem endsIn_map {P Q : σ → Prop} (f : α → β) {x : EStateM ε σ α} {s : σ}
    (h : EndsIn P Q (x s)) : EndsIn P Q ((f <$> x) s) := by
  show EndsIn P Q (EStateM.map f x s)
  unfold EStateM.map
  cases hx : x s with
  | ok a s' =>
    rw [hx] at h
    exact h
  | error e s' =>
    rw [hx] at h
    exact h

theorem except_bind_eq_ok {x : Except ε α} {f : α → Except ε β} {b : β} :
    (x >>= f) = .ok b ↔ ∃ a, x = .ok a ∧ f a = .ok b := by
  cases x with
  | error e => simp [bind, Except.bind]
  | ok a => simp [bind, Except.bind]

/-! ## Inversion of raising runs -/

theorem bind_eq_error {x : EStateM ε σ α} {f : α → EStateM ε σ β} {s s' : σ} {e : ε} :
    (x >>= f) s = .error e s' ↔
      x s = .error e s' ∨ ∃ a t, x s = .ok a t ∧ f a t = .error e s' := by
  cases h : x s with
  | ok a t =>
    rw [bind_of_ok h]
    constructor
    · intro hf
      exact Or.inr ⟨a, t, rfl, hf⟩
    · rintro (hx | ⟨a', t', hx, hf⟩)
      · cases hx
      · cases hx
        exact hf
  | error e' t =>
    rw [bind_of_error h]
    constructor
    · intro hx
      cases hx
      exact Or.inl rfl
    · rintro (hx | ⟨a', t', hx, -⟩)
      · cases hx
        rfl
      · cases hx

theorem zoom_eq_error {view : σ → τ} {put : σ → τ → σ} {x : EStateM ε τ α} {s s' : σ} {e : ε} :
    zoom view put x s = .error e s' ↔ ∃ t, x (view s) = .error e t ∧ put s t = s' := by
  unfold zoom
  cases h : x (view s) with
  | ok b t => simp
  | error e' t => simp only [EStateM.Result.error.injEq]; grind

theorem onlyIf_eq_error {c : Prop} [Decidable c] {x : EStateM ε σ (List β)} {s s' : σ} {e : ε} :
    onlyIf c x s = .error e s' ↔ c ∧ x s = .error e s' := by
  unfold onlyIf
  by_cases h : c
  · rw [if_pos h]
    simp [h]
  · rw [if_neg h]
    constructor
    · intro hx
      cases hx
    · rintro ⟨hc, -⟩
      exact absurd hc h

/-- Every error a run of `x` raises is one of `P`. -/
def Raises (P : ε → Prop) (x : EStateM ε σ α) : Prop := ∀ s e s', x s = .error e s' → P e

theorem raises_pure (P : ε → Prop) (a : α) : Raises P (pure a : EStateM ε σ α) := by
  intro s e s' h
  cases h

theorem raises_get (P : ε → Prop) : Raises P (get : EStateM ε σ σ) := by
  intro s e s' h
  cases h

theorem raises_modify (P : ε → Prop) (f : σ → σ) : Raises P (modify f : EStateM ε σ PUnit) := by
  intro s e s' h
  cases h

theorem raises_throw {P : ε → Prop} {e : ε} (h : P e) : Raises P (throw e : EStateM ε σ α) := by
  intro s e' s' hx
  cases hx
  exact h

theorem raises_ite {P : ε → Prop} {c : Prop} [Decidable c] {x y : EStateM ε σ α}
    (hx : Raises P x) (hy : Raises P y) : Raises P (if c then x else y) := by
  by_cases h : c <;> simp [h, hx, hy]

theorem raises_require {P : ε → Prop} {c : Prop} [Decidable c] {e : ε} (h : P e) :
    Raises P (require c e : EStateM ε σ Unit) :=
  raises_ite (raises_pure P ()) (raises_throw h)

theorem raises_zoom {P : ε → Prop} {view : σ → τ} {put : σ → τ → σ} {x : EStateM ε τ α}
    (h : Raises P x) : Raises P (zoom view put x) := by
  intro s e s' hx
  obtain ⟨t, ht, -⟩ := zoom_eq_error.mp hx
  exact h _ _ _ ht

theorem raises_bind {P : ε → Prop} {x : EStateM ε σ α} {f : α → EStateM ε σ β}
    (hx : Raises P x) (hf : ∀ a, Raises P (f a)) : Raises P (x >>= f) := by
  intro s e s' h
  rcases bind_eq_error.mp h with h | ⟨a, t, -, h⟩
  · exact hx _ _ _ h
  · exact hf a _ _ _ h

theorem raises_gather {P : ε → Prop} {f : α → EStateM ε σ (List β)} {xs : List α}
    (hf : ∀ x ∈ xs, Raises P (f x)) : Raises P (gather f xs) := by
  induction xs with
  | nil => exact raises_pure P []
  | cons x xs ih =>
    apply raises_bind (hf x List.mem_cons_self)
    intro here
    apply raises_bind (ih fun y hy => hf y (List.mem_cons_of_mem _ hy))
    intro rest
    exact raises_pure P _

theorem raises_each {P : ε → Prop} {f : α → EStateM ε σ Unit} {xs : List α}
    (hf : ∀ x ∈ xs, Raises P (f x)) : Raises P (each f xs) := by
  induction xs with
  | nil => exact raises_pure P ()
  | cons x xs ih =>
    apply raises_bind (hf x List.mem_cons_self)
    intro _
    exact ih fun y hy => hf y (List.mem_cons_of_mem _ hy)

/-! ## Runs that stay within a relation -/

/-- Every returning run of `x` relates its first and last state by `R`. -/
def Within (R : σ → σ → Prop) (x : EStateM ε σ α) : Prop :=
  ∀ s a s', x s = .ok a s' → R s s'

theorem Within.mono {R R' : σ → σ → Prop} {x : EStateM ε σ α} (h : Within R x)
    (hr : ∀ s s', R s s' → R' s s') : Within R' x :=
  fun s a s' hx => hr s s' (h s a s' hx)

theorem within_throw (R : σ → σ → Prop) (e : ε) : Within R (throw e : EStateM ε σ α) :=
  fun _ _ _ h => (throw_eq_ok.mp h).elim

theorem within_modify {R : σ → σ → Prop} {f : σ → σ} (h : ∀ s, R s (f s)) :
    Within R (modify f : EStateM ε σ PUnit) :=
  fun s _ _ hx => modify_eq_ok.mp hx ▸ h s

theorem within_ite {R : σ → σ → Prop} {c : Prop} [Decidable c] {x y : EStateM ε σ α}
    (hx : Within R x) (hy : Within R y) : Within R (if c then x else y) := by
  by_cases h : c <;> simp [h, hx, hy]

section Preorder

variable {R : σ → σ → Prop}

theorem within_pure (hr : ∀ s, R s s) (a : α) : Within R (pure a : EStateM ε σ α) := by
  intro s b s' h
  obtain ⟨-, rfl⟩ := pure_eq_ok.mp h
  exact hr s

theorem within_get (hr : ∀ s, R s s) : Within R (get : EStateM ε σ σ) := by
  intro s b s' h
  obtain ⟨-, rfl⟩ := get_eq_ok.mp h
  exact hr s

theorem within_require (hr : ∀ s, R s s) (c : Prop) [Decidable c] (e : ε) :
    Within R (require c e : EStateM ε σ Unit) := by
  intro s b s' h
  obtain ⟨-, rfl⟩ := require_eq_ok.mp h
  exact hr s

theorem within_orRaise (hr : ∀ s, R s s) (o : Option α) (e : ε) :
    Within R (orRaise o e : EStateM ε σ α) := by
  intro s b s' h
  obtain ⟨-, rfl⟩ := orRaise_eq_ok.mp h
  exact hr s

theorem within_liftE (hr : ∀ s, R s s) (x : Except ε α) :
    Within R (liftE x : EStateM ε σ α) := by
  intro s b s' h
  obtain ⟨-, rfl⟩ := liftE_eq_ok.mp h
  exact hr s

theorem within_bind (ht : ∀ a b c, R a b → R b c → R a c) {x : EStateM ε σ α}
    {f : α → EStateM ε σ β} (hx : Within R x) (hf : ∀ a, Within R (f a)) :
    Within R (x >>= f) := by
  intro s b s' h
  obtain ⟨a, t, h₁, h₂⟩ := bind_eq_ok.mp h
  exact ht _ _ _ (hx s a t h₁) (hf a t b s' h₂)

theorem within_onlyIf (hr : ∀ s, R s s) {c : Prop} [Decidable c] {x : EStateM ε σ (List β)}
    (hx : c → Within R x) : Within R (onlyIf c x) := by
  unfold onlyIf
  by_cases h : c
  · rw [if_pos h]
    exact hx h
  · rw [if_neg h]
    exact within_pure hr []

theorem within_gather (hr : ∀ s, R s s) (ht : ∀ a b c, R a b → R b c → R a c)
    {f : α → EStateM ε σ (List β)} {xs : List α} (hf : ∀ x ∈ xs, Within R (f x)) :
    Within R (gather f xs) := by
  induction xs with
  | nil => exact within_pure hr []
  | cons x xs ih =>
    refine within_bind ht (hf x List.mem_cons_self) fun _ => ?_
    refine within_bind ht (ih fun y hy => hf y (List.mem_cons_of_mem _ hy)) fun _ => ?_
    exact within_pure hr _

theorem within_foldEff (hr : ∀ s, R s s) (ht : ∀ a b c, R a b → R b c → R a c)
    {f : β → α → EStateM ε σ β} {xs : List α} (hf : ∀ b, ∀ x ∈ xs, Within R (f b x)) (b : β) :
    Within R (foldEff f b xs) := by
  induction xs generalizing b with
  | nil => exact within_pure hr b
  | cons x xs ih =>
    refine within_bind ht (hf b x List.mem_cons_self) fun b' => ?_
    exact ih (fun c y hy => hf c y (List.mem_cons_of_mem _ hy)) b'

theorem within_each (hr : ∀ s, R s s) (ht : ∀ a b c, R a b → R b c → R a c)
    {f : α → EStateM ε σ Unit} {xs : List α} (hf : ∀ x ∈ xs, Within R (f x)) :
    Within R (each f xs) := by
  induction xs with
  | nil => exact within_pure hr ()
  | cons x xs ih =>
    exact within_bind ht (hf x List.mem_cons_self) fun _ =>
      ih fun y hy => hf y (List.mem_cons_of_mem _ hy)

end Preorder

/-! ## Runs that leave a relation, returned or raised -/

/-- Every run of `x`, whether it returns or raises, relates its two states by
`R`. -/
def Leaves (R : σ → σ → Prop) (x : EStateM ε σ α) : Prop := ∀ s, R s (stateAfter (x s))

theorem Leaves.within {R : σ → σ → Prop} {x : EStateM ε σ α} (h : Leaves R x) : Within R x := by
  intro s a s' hx
  have := h s
  rwa [hx] at this

theorem Leaves.mono {R R' : σ → σ → Prop} {x : EStateM ε σ α} (h : Leaves R x)
    (hr : ∀ s s', R s s' → R' s s') : Leaves R' x := fun s => hr _ _ (h s)

theorem leaves_modify {R : σ → σ → Prop} {f : σ → σ} (h : ∀ s, R s (f s)) :
    Leaves R (modify f : EStateM ε σ PUnit) := h

theorem leaves_ite {R : σ → σ → Prop} {c : Prop} [Decidable c] {x y : EStateM ε σ α}
    (hx : Leaves R x) (hy : Leaves R y) : Leaves R (if c then x else y) := by
  by_cases h : c <;> simp [h, hx, hy]

theorem leaves_zoom {R : σ → σ → Prop} {Q : τ → τ → Prop} {view : σ → τ} {put : σ → τ → σ}
    {x : EStateM ε τ α} (h : ∀ s t, Q (view s) t → R s (put s t)) (hx : Leaves Q x) :
    Leaves R (zoom view put x) := by
  intro s
  have hs := hx (view s)
  unfold zoom
  cases hrun : x (view s) with
  | ok a t =>
    rw [hrun] at hs
    exact h s t hs
  | error e t =>
    rw [hrun] at hs
    exact h s t hs

section LeavesPreorder

variable {R : σ → σ → Prop}

theorem leaves_pure (hr : ∀ s, R s s) (a : α) : Leaves R (pure a : EStateM ε σ α) := hr

theorem leaves_throw (hr : ∀ s, R s s) (e : ε) : Leaves R (throw e : EStateM ε σ α) := hr

theorem leaves_get (hr : ∀ s, R s s) : Leaves R (get : EStateM ε σ σ) := hr

theorem leaves_require (hr : ∀ s, R s s) (c : Prop) [Decidable c] (e : ε) :
    Leaves R (require c e : EStateM ε σ Unit) := by
  unfold require
  exact leaves_ite (leaves_pure hr ()) (leaves_throw hr e)

theorem leaves_runIf (hr : ∀ s, R s s) {c : Prop} [Decidable c] {x : EStateM ε σ Unit}
    (hx : Leaves R x) : Leaves R (runIf c x) := leaves_ite hx (leaves_pure hr ())

theorem leaves_bind (ht : ∀ a b c, R a b → R b c → R a c) {x : EStateM ε σ α}
    {f : α → EStateM ε σ β} (hx : Leaves R x) (hf : ∀ a, Leaves R (f a)) :
    Leaves R (x >>= f) := by
  intro s
  have hs := hx s
  show R s (stateAfter (EStateM.bind x f s))
  unfold EStateM.bind
  cases hrun : x s with
  | ok a t =>
    rw [hrun] at hs
    exact ht _ _ _ hs (hf a t)
  | error e t =>
    rw [hrun] at hs
    exact hs

theorem leaves_gather (hr : ∀ s, R s s) (ht : ∀ a b c, R a b → R b c → R a c)
    {f : α → EStateM ε σ (List β)} {xs : List α} (hf : ∀ x ∈ xs, Leaves R (f x)) :
    Leaves R (gather f xs) := by
  induction xs with
  | nil => exact leaves_pure hr []
  | cons x xs ih =>
    rw [gather_cons]
    apply leaves_bind ht (hf x List.mem_cons_self)
    intro here
    apply leaves_bind ht (ih fun y hy => hf y (List.mem_cons_of_mem _ hy))
    intro rest
    exact leaves_pure hr _

theorem leaves_each (hr : ∀ s, R s s) (ht : ∀ a b c, R a b → R b c → R a c)
    {f : α → EStateM ε σ Unit} {xs : List α} (hf : ∀ x ∈ xs, Leaves R (f x)) :
    Leaves R (each f xs) := by
  induction xs with
  | nil => exact leaves_pure hr ()
  | cons x xs ih =>
    apply leaves_bind ht (hf x List.mem_cons_self)
    intro _
    exact ih fun y hy => hf y (List.mem_cons_of_mem _ hy)

end LeavesPreorder

/-! ## All-or-nothing runs -/

/-- A run that raises leaves the state it started from. -/
def Atomic (x : EStateM ε σ α) : Prop := ∀ s e s', x s = .error e s' → s' = s

/-- A run writes nothing, whether it returns or raises. -/
def ReadOnly (x : EStateM ε σ α) : Prop := ∀ s, stateAfter (x s) = s

/-- Every run returns. -/
def Total (x : EStateM ε σ α) : Prop := ∀ s, ∃ a s', x s = .ok a s'

theorem Total.atomic {x : EStateM ε σ α} (h : Total x) : Atomic x := by
  intro s e s' hx
  obtain ⟨a, t, ha⟩ := h s
  rw [hx] at ha
  cases ha

theorem readOnly_require (c : Prop) [Decidable c] (e : ε) :
    ReadOnly (require c e : EStateM ε σ Unit) := by
  intro s
  unfold require
  by_cases h : c <;> simp only [h, if_true, if_false] <;> rfl

theorem readOnly_get : ReadOnly (get : EStateM ε σ σ) := fun _ => rfl

theorem readOnly_liftE (x : Except ε α) : ReadOnly (liftE x : EStateM ε σ α) := by
  intro s
  cases x <;> rfl

theorem total_pure (a : α) : Total (pure a : EStateM ε σ α) := fun s => ⟨a, s, rfl⟩

theorem total_get : Total (get : EStateM ε σ σ) := fun s => ⟨s, s, rfl⟩

theorem total_set (t : σ) : Total (set t : EStateM ε σ PUnit) := fun _ => ⟨⟨⟩, t, rfl⟩

theorem total_modify (f : σ → σ) : Total (modify f : EStateM ε σ PUnit) :=
  fun s => ⟨⟨⟩, f s, rfl⟩

theorem total_bind {x : EStateM ε σ α} {f : α → EStateM ε σ β} (hx : Total x)
    (hf : ∀ a, Total (f a)) : Total (x >>= f) := by
  intro s
  obtain ⟨a, t, ha⟩ := hx s
  obtain ⟨b, t', hb⟩ := hf a t
  exact ⟨b, t', bind_eq_ok.mpr ⟨a, t, ha, hb⟩⟩

theorem atomic_bind {x : EStateM ε σ α} {f : α → EStateM ε σ β} (hx : ReadOnly x)
    (hf : ∀ a, Atomic (f a)) : Atomic (x >>= f) := by
  intro s e s' h
  have h : EStateM.bind x f s = .error e s' := h
  unfold EStateM.bind at h
  have hs := hx s
  cases hxs : x s with
  | ok a t =>
    rw [hxs] at h hs
    rw [← hs]
    exact hf a t e s' h
  | error e' t =>
    rw [hxs] at h hs
    cases h
    exact hs

end Lib.Effect
