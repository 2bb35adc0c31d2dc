/-
  Lib.Coroutine — programs that act on shared state and wait for replies.

  A coroutine acts on state it shares with others (`act`, answered at once by
  a handler) and waits for the outside (`ask`).  Between two waits it runs
  without a break.  `serve` runs one coroutine to its end; a `Pool` starts its
  tasks in order and lets any waiting task go on when its reply is there.

  Main results:
    * `serve_bind` — serving a sequence serves its parts.
    * `Pool.run_told` — a task of a finished run that was answered as it is
      when served alone ends as it does there.
    * `Pool.serial_asInTurn` — tasks served one after another are answered as
      in turn.
    * `Pool.run_measure` — what the acts add to a measure of the state is the
      sum over the tasks, whatever the order.
-/
import Mathlib.Algebra.BigOperators.Group.List.Basic

namespace Lib

/-- What coroutines of one kind act with, wait for and fail with. -/
structure Signature where
  Op : Type
  Ans : Op → Type
  Query : Type
  Reply : Type
  Error : Type

/-- A program over a signature. -/
inductive Coroutine (S : Signature) (α : Type) where
  | ret (a : α)
  | raise (e : S.Error)
  | act (o : S.Op) (k : S.Ans o → Coroutine S α)
  | ask (q : S.Query) (k : S.Reply → Coroutine S α)

namespace Coroutine

variable {S : Signature} {σ α β : Type}

/-- Go on with `f` where the program returns. -/
def bind : Coroutine S α → (α → Coroutine S β) → Coroutine S β
  | ret a, f => f a
  | raise e, _ => raise e
  | act o k, f => act o fun a => (k a).bind f
  | ask q k, f => ask q fun r => (k r).bind f

instance : Monad (Coroutine S) where
  pure := ret
  bind := bind

/-- Act and return the answer. -/
def perform (o : S.Op) : Coroutine S (S.Ans o) := act o ret

/-- Wait for a reply and return it. -/
def query (q : S.Query) : Coroutine S S.Reply := ask q ret

/-- A pure step that may fail. -/
def ofExcept : Except S.Error α → Coroutine S α
  | .ok a => ret a
  | .error e => raise e

@[simp] theorem pure_eq (a : α) : (pure a : Coroutine S α) = ret a := rfl
@[simp] theorem ret_bind (a : α) (f : α → Coroutine S β) : (ret a >>= f) = f a := rfl
@[simp] theorem raise_bind (e : S.Error) (f : α → Coroutine S β) :
    (raise e >>= f) = raise e := rfl
@[simp] theorem act_bind (o : S.Op) (k : S.Ans o → Coroutine S α) (f : α → Coroutine S β) :
    (act o k >>= f) = act o fun a => k a >>= f := rfl
@[simp] theorem ask_bind (q : S.Query) (k : S.Reply → Coroutine S α) (f : α → Coroutine S β) :
    (ask q k >>= f) = ask q fun r => k r >>= f := rfl
@[simp] theorem perform_bind (o : S.Op) (f : S.Ans o → Coroutine S β) :
    (perform o >>= f) = act o f := rfl
@[simp] theorem query_bind (q : S.Query) (f : S.Reply → Coroutine S β) :
    (query q >>= f) = ask q f := rfl
@[simp] theorem ofExcept_ok (a : α) : (ofExcept (.ok a) : Coroutine S α) = ret a := rfl
@[simp] theorem ofExcept_error (e : S.Error) :
    (ofExcept (.error e) : Coroutine S α) = raise e := rfl

/-- The program has come to its end. -/
def Ended : Coroutine S α → Prop
  | ret _ | raise _ => True
  | act _ _ | ask _ _ => False

instance : DecidablePred (Ended : Coroutine S α → Prop)
  | ret _ | raise _ => isTrue trivial
  | act _ _ | ask _ _ => isFalse id

/-- The result of a program at its end. -/
def result? : Coroutine S α → Option (Except S.Error α)
  | ret a => some (.ok a)
  | raise e => some (.error e)
  | act _ _ | ask _ _ => none

/-- Every act of the program meets `φ`, which may ask more of the acts before
the program first opens something. -/
def Uses (φ : Bool → S.Op → Prop) (opens : S.Op → Bool) : Bool → Coroutine S α → Prop
  | _, ret _ | _, raise _ => True
  | b, act o k => φ b o ∧ ∀ a, Uses φ opens (b || opens o) (k a)
  | b, ask _ k => ∀ r, Uses φ opens b (k r)

section Uses

variable {φ : Bool → S.Op → Prop} {opens : S.Op → Bool}

theorem uses_bind {b : Bool} {c : Coroutine S α} {f : α → Coroutine S β}
    (hc : c.Uses φ opens b) (hf : ∀ a b, (f a).Uses φ opens b) : (c >>= f).Uses φ opens b := by
  induction c generalizing b with
  | ret a => exact hf a b
  | raise e => trivial
  | act o k ih => exact ⟨hc.1, fun a => ih a (hc.2 a)⟩
  | ask q k ih => exact fun r => ih r (hc r)

theorem uses_ofExcept (b : Bool) (x : Except S.Error α) : (ofExcept x).Uses φ opens b := by
  cases x with
  | ok a => trivial
  | error e => trivial

end Uses

/-- Every value the program can return meets `P`. -/
def Yields (P : α → Prop) : Coroutine S α → Prop
  | ret a => P a
  | raise _ => True
  | act _ k => ∀ a, Yields P (k a)
  | ask _ k => ∀ r, Yields P (k r)

theorem yields_bind {P : α → Prop} {Q : β → Prop} {c : Coroutine S α} {f : α → Coroutine S β}
    (hc : c.Yields P) (hf : ∀ a, P a → (f a).Yields Q) : (c >>= f).Yields Q := by
  induction c with
  | ret a => exact hf a hc
  | raise e => trivial
  | act o k ih => exact fun a => ih a (hc a)
  | ask q k ih => exact fun r => ih r (hc r)

theorem yields_ofExcept {P : α → Prop} {x : Except S.Error α} (h : ∀ a, x = .ok a → P a) :
    (ofExcept x).Yields P := by
  cases x with
  | ok a => exact h a rfl
  | error e => trivial

theorem yields_true (c : Coroutine S α) : c.Yields fun _ => True := by
  induction c with
  | ret a => trivial
  | raise e => trivial
  | act o k ih => exact ih
  | ask q k ih => exact ih

/-! ## Running -/

/-- The acts a program made and the answers it was given. -/
abbrev Told (S : Signature) := List ((o : S.Op) × S.Ans o)

variable (handle : (o : S.Op) → σ → S.Ans o × σ)

/-- Run until the program waits or ends. -/
def advance : Coroutine S α → σ → Coroutine S α × σ × Told S
  | act o k, s =>
    let (a, s) := handle o s
    let (c, s, told) := (k a).advance s
    (c, s, ⟨o, a⟩ :: told)
  | c, s => (c, s, [])

/-- How a served program ended. -/
structure Served (S : Signature) (σ α : Type) where
  result : Except S.Error α
  asked : Nat
  state : σ
  told : Told S

/-- Run the program to its end; `reply n q` answers its `n`-th question. -/
def serve (reply : Nat → S.Query → S.Reply) : Coroutine S α → Nat → σ → Served S σ α
  | ret a, n, s => ⟨.ok a, n, s, []⟩
  | raise e, n, s => ⟨.error e, n, s, []⟩
  | act o k, n, s =>
    let x := serve reply (k (handle o s).1) n (handle o s).2
    { x with told := ⟨o, (handle o s).1⟩ :: x.told }
  | ask q k, n, s => serve reply (k (reply n q)) (n + 1) s

variable {handle} {reply : Nat → S.Query → S.Reply}

@[simp] theorem serve_act_state (o : S.Op) (k : S.Ans o → Coroutine S α) (n : Nat) (s : σ) :
    (serve handle reply (act o k) n s).state =
      (serve handle reply (k (handle o s).1) n (handle o s).2).state := rfl

@[simp] theorem serve_act_result (o : S.Op) (k : S.Ans o → Coroutine S α) (n : Nat) (s : σ) :
    (serve handle reply (act o k) n s).result =
      (serve handle reply (k (handle o s).1) n (handle o s).2).result := rfl

@[simp] theorem serve_act_told (o : S.Op) (k : S.Ans o → Coroutine S α) (n : Nat) (s : σ) :
    (serve handle reply (act o k) n s).told = ⟨o, (handle o s).1⟩ ::
      (serve handle reply (k (handle o s).1) n (handle o s).2).told := rfl

@[simp] theorem serve_act_asked (o : S.Op) (k : S.Ans o → Coroutine S α) (n : Nat) (s : σ) :
    (serve handle reply (act o k) n s).asked =
      (serve handle reply (k (handle o s).1) n (handle o s).2).asked := rfl
@[simp] theorem serve_ask (q : S.Query) (k : S.Reply → Coroutine S α) (n : Nat) (s : σ) :
    serve handle reply (ask q k) n s = serve handle reply (k (reply n q)) (n + 1) s := rfl

theorem serve_bind (c : Coroutine S α) (f : α → Coroutine S β) (n : Nat) (s : σ) :
    serve handle reply (c >>= f) n s =
      match (serve handle reply c n s).result with
      | .ok a =>
        let x := serve handle reply (f a) (serve handle reply c n s).asked
          (serve handle reply c n s).state
        { x with told := (serve handle reply c n s).told ++ x.told }
      | .error e => ⟨.error e, (serve handle reply c n s).asked,
          (serve handle reply c n s).state, (serve handle reply c n s).told⟩ := by
  induction c generalizing n s with
  | ret a => rfl
  | raise e => rfl
  | act o k ih =>
    simp only [act_bind, serve, ih]
    cases (serve handle reply (k (handle o s).1) n (handle o s).2).result with
    | ok a => rfl
    | error e => rfl
  | ask q k ih =>
    simp only [ask_bind, serve]
    exact ih _ _ _

theorem serve_bind_ok {c : Coroutine S α} {f : α → Coroutine S β} {n : Nat} {s : σ} {b : β}
    (h : (serve handle reply (c >>= f) n s).result = .ok b) :
    ∃ a, (serve handle reply c n s).result = .ok a ∧
      (serve handle reply (f a) (serve handle reply c n s).asked
        (serve handle reply c n s).state).result = .ok b := by
  rw [serve_bind] at h
  cases hc : (serve handle reply c n s).result with
  | error e =>
    rw [hc] at h
    cases h
  | ok a =>
    rw [hc] at h
    exact ⟨a, rfl, h⟩

theorem serve_bind_eq {c : Coroutine S α} {f : α → Coroutine S β} {n : Nat} {s : σ} {a : α}
    (h : (serve handle reply c n s).result = .ok a) :
    serve handle reply (c >>= f) n s =
      let x := serve handle reply (f a) (serve handle reply c n s).asked
        (serve handle reply c n s).state
      { x with told := (serve handle reply c n s).told ++ x.told } := by
  rw [serve_bind, h]

theorem Yields.served {P : α → Prop} {c : Coroutine S α} (h : c.Yields P) {n : Nat} {s : σ} {a : α}
    (hr : (serve handle reply c n s).result = .ok a) : P a := by
  induction c generalizing n s with
  | ret b =>
    cases hr
    exact h
  | raise e => cases hr
  | act o k ih => exact ih _ (h _) hr
  | ask q k ih => exact ih _ (h _) hr

/-- Along serving the program, every act meets `Q` in the state it is made in. -/
def AlongServe (handle : (o : S.Op) → σ → S.Ans o × σ) (reply : Nat → S.Query → S.Reply)
    (Q : σ → S.Op → Prop) : Coroutine S α → Nat → σ → Prop
  | ret _, _, _ | raise _, _, _ => True
  | act o k, n, s => Q s o ∧ AlongServe handle reply Q (k (handle o s).1) n (handle o s).2
  | ask q k, n, s => AlongServe handle reply Q (k (reply n q)) (n + 1) s

instance alongServe_decidable (Q : σ → S.Op → Prop) [∀ s o, Decidable (Q s o)] :
    ∀ (c : Coroutine S α) (n : Nat) (s : σ), Decidable (AlongServe handle reply Q c n s)
  | ret _, _, _ | raise _, _, _ => isTrue trivial
  | act o k, n, s =>
    have := alongServe_decidable Q (k (handle o s).1) n (handle o s).2
    inferInstanceAs (Decidable (Q s o ∧ AlongServe handle reply Q _ n _))
  | ask q k, n, s => alongServe_decidable Q (k (reply n q)) (n + 1) s

theorem alongServe_bind {Q : σ → S.Op → Prop} {c : Coroutine S α} {f : α → Coroutine S β}
    {n : Nat} {s : σ} (h : AlongServe handle reply Q (c >>= f) n s) :
    AlongServe handle reply Q c n s ∧ ∀ a, (serve handle reply c n s).result = .ok a →
      AlongServe handle reply Q (f a) (serve handle reply c n s).asked
        (serve handle reply c n s).state := by
  induction c generalizing n s with
  | ret a =>
    refine ⟨trivial, fun b hb => ?_⟩
    cases hb
    exact h
  | raise e => exact ⟨trivial, fun b hb => by cases hb⟩
  | act o k ih =>
    obtain ⟨hk, hf⟩ := ih _ h.2
    exact ⟨⟨h.1, hk⟩, hf⟩
  | ask q k ih => exact ih _ h

/-- Serving the program keeps `I`, whatever it was asked before. -/
def Keeps (handle : (o : S.Op) → σ → S.Ans o × σ) (reply : Nat → S.Query → S.Reply)
    (I : σ → Prop) (c : Coroutine S α) : Prop :=
  ∀ n s, I s → I (serve handle reply c n s).state

section Keeps

variable {I : σ → Prop}

theorem keeps_ret (a : α) : Keeps handle reply I (ret a) := fun _ _ h => h

theorem keeps_raise (e : S.Error) : Keeps handle reply I (raise e : Coroutine S α) :=
  fun _ _ h => h

theorem keeps_ofExcept (x : Except S.Error α) : Keeps handle reply I (ofExcept x) := by
  cases x with
  | ok a => exact keeps_ret a
  | error e => exact keeps_raise e

theorem keeps_act {o : S.Op} {k : S.Ans o → Coroutine S α}
    (ho : ∀ s, I s → I (handle o s).2) (hk : ∀ a, Keeps handle reply I (k a)) :
    Keeps handle reply I (act o k) :=
  fun n s h => hk _ n _ (ho s h)

theorem keeps_bind {c : Coroutine S α} {f : α → Coroutine S β}
    (hc : Keeps handle reply I c) (hf : ∀ a, Keeps handle reply I (f a)) :
    Keeps handle reply I (c >>= f) := by
  intro n s h
  rw [serve_bind]
  cases (serve handle reply c n s).result with
  | ok a => exact hf a _ _ (hc n s h)
  | error e => exact hc n s h

end Keeps

/-! ## The way a program takes -/

/-- From `c` with `n` questions asked the answers `told` lead to `c'` with
`n'` asked. -/
inductive Path (reply : Nat → S.Query → S.Reply) :
    Nat → Coroutine S α → Told S → Nat → Coroutine S α → Prop where
  | here {n c} : Path reply n c [] n c
  | act {n n' o k c' told} (a : S.Ans o) (h : Path reply n (k a) told n' c') :
      Path reply n (act o k) (⟨o, a⟩ :: told) n' c'
  | ask {n n' q k c' told} (h : Path reply (n + 1) (k (reply n q)) told n' c') :
      Path reply n (ask q k) told n' c'

namespace Path

theorem trans {n m l : Nat} {c d e : Coroutine S α} {told more : Told S}
    (h : Path reply n c told m d) (h' : Path reply m d more l e) :
    Path reply n c (told ++ more) l e := by
  induction h with
  | here => exact h'
  | act a _ ih => exact .act a (ih h')
  | ask _ ih => exact .ask (ih h')

theorem eq_of_ended {n m : Nat} {c d : Coroutine S α} {told : Told S}
    (h : Path reply n c told m d) (hc : c.Ended) : told = [] ∧ m = n ∧ d = c := by
  cases h with
  | here => exact ⟨rfl, rfl, rfl⟩
  | act a h => exact hc.elim
  | ask h => exact hc.elim

theorem resume {n m l : Nat} {c d e : Coroutine S α} {told rest : Told S}
    (h : Path reply n c told m d) (h' : Path reply n c (told ++ rest) l e) (he : e.Ended) :
    Path reply m d rest l e := by
  induction h with
  | here => exact h'
  | act a _ ih =>
    cases h' with
    | act _ h' => exact ih h'
  | @ask n n' q k c' told _ ih =>
    generalize hall : told ++ rest = all at h'
    cases h' with
    | here => exact he.elim
    | ask h' => exact ih (hall ▸ h')

end Path

theorem advance_path (reply : Nat → S.Query → S.Reply) (c : Coroutine S α) (n : Nat) (s : σ) :
    Path reply n c (c.advance handle s).2.2 n (c.advance handle s).1 := by
  induction c generalizing s with
  | ret a => exact .here
  | raise e => exact .here
  | act o k ih => exact .act _ (ih _ _)
  | ask q k _ => exact .here

/-- The end a result stands for. -/
def ending : Except S.Error α → Coroutine S α
  | .ok a => ret a
  | .error e => raise e

theorem ending_ended (x : Except S.Error α) : (ending (S := S) x).Ended := by
  cases x <;> trivial

theorem ending_result? (x : Except S.Error α) : (ending (S := S) x).result? = some x := by
  cases x <;> rfl

theorem serve_path (c : Coroutine S α) (n : Nat) (s : σ) :
    Path reply n c (serve handle reply c n s).told (serve handle reply c n s).asked
      (ending (serve handle reply c n s).result) := by
  induction c generalizing n s with
  | ret a => exact .here
  | raise e => exact .here
  | act o k ih => exact .act _ (ih _ _ _)
  | ask q k ih => exact .ask (ih _ _ _)

variable (handle reply) in
theorem serve_advance (c : Coroutine S α) (n : Nat) (s : σ) :
    (serve handle reply c n s).told = (c.advance handle s).2.2 ++
        (serve handle reply (c.advance handle s).1 n (c.advance handle s).2.1).told ∧
      (serve handle reply c n s).state =
        (serve handle reply (c.advance handle s).1 n (c.advance handle s).2.1).state := by
  induction c generalizing s with
  | ret a => exact ⟨rfl, rfl⟩
  | raise e => exact ⟨rfl, rfl⟩
  | act o k ih =>
    obtain ⟨htold, hstate⟩ := ih (handle o s).1 (handle o s).2
    refine ⟨?_, hstate⟩
    simp only [serve, advance, List.cons_append, htold]
  | ask q k _ => exact ⟨rfl, rfl⟩

theorem serve_ended {c : Coroutine S α} (hc : c.Ended) (n : Nat) (s : σ) :
    (serve handle reply c n s).told = [] ∧ (serve handle reply c n s).state = s := by
  cases c with
  | ret a => exact ⟨rfl, rfl⟩
  | raise e => exact ⟨rfl, rfl⟩
  | act o k => exact hc.elim
  | ask q k => exact hc.elim

/-! ## What acts add up to -/

/-- Acts add to a measure of the state what `w` says, where something was
opened before those that need it. -/
structure Counts {M : Type} [AddCommMonoid M] (handle : (o : S.Op) → σ → S.Ans o × σ)
    (φ : Bool → S.Op → Prop) (opens : S.Op → Bool) (opened : σ → Prop) (m : σ → M)
    (w : ((o : S.Op) × S.Ans o) → M) : Prop where
  add : ∀ b o s, φ b o → (b = true → opened s) →
    m (handle o s).2 = m s + w ⟨o, (handle o s).1⟩
  opens : ∀ b o s, φ b o → opens o = true → opened (handle o s).2
  stays : ∀ b o s, φ b o → opened s → opened (handle o s).2

section Measure

variable {M : Type} [AddCommMonoid M] {m : σ → M} {w : ((o : S.Op) × S.Ans o) → M}
  {φ : Bool → S.Op → Prop} {opens : S.Op → Bool} {opened : σ → Prop}

/-- The program may go on in the state: what it opened is open. -/
def Ready (φ : Bool → S.Op → Prop) (opens : S.Op → Bool) (opened : σ → Prop)
    (c : Coroutine S α) (s : σ) : Prop :=
  ∃ b, c.Uses φ opens b ∧ (b = true → opened s)

theorem Ready.act (hm : Counts handle φ opens opened m w) {o : S.Op}
    {k : S.Ans o → Coroutine S α} {s : σ} (h : Ready φ opens opened (act o k) s) :
    Ready φ opens opened (k (handle o s).1) (handle o s).2 ∧
      (opened s → opened (handle o s).2) ∧
      m (handle o s).2 = m s + w ⟨o, (handle o s).1⟩ := by
  obtain ⟨b, ⟨ho, hk⟩, hb⟩ := h
  refine ⟨⟨b || opens o, hk _, fun hor => ?_⟩, hm.stays b o s ho, hm.add b o s ho hb⟩
  rw [Bool.or_eq_true] at hor
  rcases hor with hbt | hot
  · exact hm.stays b o s ho (hb hbt)
  · exact hm.opens b o s ho hot

theorem advance_measure (hm : Counts handle φ opens opened m w) {c : Coroutine S α} {s : σ}
    (hc : Ready φ opens opened c s) :
    Ready φ opens opened (c.advance handle s).1 (c.advance handle s).2.1 ∧
      (opened s → opened (c.advance handle s).2.1) ∧
      m (c.advance handle s).2.1 = m s + ((c.advance handle s).2.2.map w).sum := by
  induction c generalizing s with
  | ret a => exact ⟨hc, id, by simp [advance]⟩
  | raise e => exact ⟨hc, id, by simp [advance]⟩
  | act o k ih =>
    obtain ⟨hk, hopen, hadd⟩ := hc.act hm
    obtain ⟨hr, ho, hsum⟩ := ih _ hk
    refine ⟨hr, fun h => ho (hopen h), ?_⟩
    simp only [advance, List.map_cons, List.sum_cons]
    rw [hsum, hadd, add_assoc]
  | ask q k _ => exact ⟨hc, id, by simp [advance]⟩

theorem serve_measure (hm : Counts handle φ opens opened m w) {c : Coroutine S α} {s : σ}
    (hc : Ready φ opens opened c s) (n : Nat) :
    m (serve handle reply c n s).state =
      m s + ((serve handle reply c n s).told.map w).sum := by
  induction c generalizing n s with
  | ret a => simp [serve]
  | raise e => simp [serve]
  | act o k ih =>
    obtain ⟨hk, _, hadd⟩ := hc.act hm
    simp only [serve, List.map_cons, List.sum_cons]
    rw [ih _ hk, hadd, add_assoc]
  | ask q k ih =>
    obtain ⟨b, hk, hb⟩ := hc
    simp only [serve]
    exact ih _ ⟨b, hk _, hb⟩ _

end Measure

end Coroutine

/-! ## Tasks side by side -/

open Coroutine

variable {S : Signature} {σ α : Type}

/-- A task: where it stands, the questions it asked, what it was told. -/
structure Task (S : Signature) (α : Type) where
  at_ : Coroutine S α
  asked : Nat := 0
  told : Told S := []

/-- Tasks over shared state; those below `started` have begun. -/
structure Pool (S : Signature) (σ α : Type) where
  tasks : List (Task S α)
  started : Nat
  shared : σ

namespace Pool

/-- A pool of programs none of which has begun. -/
def make (cs : List (Coroutine S α)) (s : σ) : Pool S σ α :=
  { tasks := cs.map fun c => { at_ := c }, started := 0, shared := s }

variable (handle : (o : S.Op) → σ → S.Ans o × σ) (replies : Nat → Nat → S.Query → S.Reply)

/-- What task `i` runs when it is its turn, and the questions it has asked by
then: the next task begins, and a waiting task goes on with its reply.  Until
all have begun only the last to begin can go on at once. -/
def turn (p : Pool S σ α) (i : Nat) (t : Task S α) : Option (Coroutine S α × Nat) :=
  if i = p.started then some (t.at_, t.asked)
  else if i < p.started ∧ (p.started = p.tasks.length ∨ i + 1 = p.started) then
    match t.at_ with
    | .ask q k => some (k (replies i t.asked q), t.asked + 1)
    | _ => none
  else none

/-- Task `i` runs until it waits or ends. -/
def move (p : Pool S σ α) (i : Nat) : Option (Pool S σ α) := do
  let t ← p.tasks[i]?
  let (c, asked) ← p.turn replies i t
  let (c, s, told) := c.advance handle p.shared
  return {
    tasks := p.tasks.set i { at_ := c, asked := asked, told := t.told ++ told }
    started := if i = p.started then p.started + 1 else p.started
    shared := s }

/-- The tasks move in the given order. -/
def run : Pool S σ α → List Nat → Option (Pool S σ α)
  | p, [] => some p
  | p, i :: order => do (← p.move handle replies i).run order

/-- Every task has begun and come to its end. -/
def Finished (p : Pool S σ α) : Prop :=
  p.started = p.tasks.length ∧ ∀ t ∈ p.tasks, t.at_.Ended

instance (p : Pool S σ α) : Decidable p.Finished :=
  inferInstanceAs (Decidable (_ ∧ ∀ t ∈ p.tasks, t.at_.Ended))

/-- Serve the programs one after another, from program number `i` on. -/
def inTurn : Nat → List (Coroutine S α) → σ → List (Served S σ α)
  | _, [], _ => []
  | i, c :: cs, s =>
    let x := serve handle (replies i) c 0 s
    x :: inTurn (i + 1) cs x.state

/-- The state serving leaves. -/
def inTurnState : Nat → List (Coroutine S α) → σ → σ
  | _, [], s => s
  | i, c :: cs, s => inTurnState (i + 1) cs (serve handle (replies i) c 0 s).state

/-- Along the order, every answer a task is given is the one it is given when
the programs are served one after another. -/
def AsInTurn (served : List (Served S σ α)) : Pool S σ α → List Nat → Prop
  | _, [] => True
  | p, i :: order =>
    (∀ t c n x, p.tasks[i]? = some t → p.turn replies i t = some (c, n) → served[i]? = some x →
      t.told ++ (c.advance handle p.shared).2.2 <+: x.told) ∧
    ∀ p', p.move handle replies i = some p' → AsInTurn served p' order

variable {handle replies}

theorem move_eq {p p' : Pool S σ α} {i : Nat} (h : p.move handle replies i = some p') :
    ∃ t c n, p.tasks[i]? = some t ∧ p.turn replies i t = some (c, n) ∧
      p' = { tasks := p.tasks.set i { at_ := (c.advance handle p.shared).1, asked := n,
                                      told := t.told ++ (c.advance handle p.shared).2.2 }
             started := if i = p.started then p.started + 1 else p.started
             shared := (c.advance handle p.shared).2.1 } := by
  unfold move at h
  cases ht : p.tasks[i]? with
  | none => simp [ht] at h
  | some t =>
    cases hc : p.turn replies i t with
    | none => simp [ht, hc] at h
    | some cn => exact ⟨t, cn.1, cn.2, rfl, hc, by simpa [ht, hc] using h.symm⟩

theorem run_cons {p p' : Pool S σ α} {i : Nat} {order : List Nat}
    (h : p.run handle replies (i :: order) = some p') :
    ∃ q, p.move handle replies i = some q ∧ q.run handle replies order = some p' := by
  simp only [run] at h
  cases hq : p.move handle replies i with
  | none => simp [hq] at h
  | some q => exact ⟨q, rfl, by simpa [hq] using h⟩

theorem turn_path {p : Pool S σ α} {i n : Nat} {t : Task S α} {c : Coroutine S α}
    (h : p.turn replies i t = some (c, n)) : Path (replies i) t.asked t.at_ [] n c := by
  unfold turn at h
  split at h
  · cases h
    exact .here
  · split at h
    · cases ha : t.at_ with
      | ask q k =>
        simp only [ha, Option.some.injEq, Prod.mk.injEq] at h
        obtain ⟨rfl, rfl⟩ := h
        exact .ask .here
      | ret a => simp [ha] at h
      | raise e => simp [ha] at h
      | act o k => simp [ha] at h
    · cases h

/-- Every task is on the way of its program. -/
def OnWay (replies : Nat → Nat → S.Query → S.Reply) (cs : List (Coroutine S α))
    (p : Pool S σ α) : Prop :=
  p.tasks.length = cs.length ∧ ∀ (i : Nat) t c, p.tasks[i]? = some t → cs[i]? = some c →
    Path (replies i) 0 c t.told t.asked t.at_

theorem onWay_make (cs : List (Coroutine S α)) (s : σ) : OnWay replies cs (make cs s) := by
  refine ⟨by simp [make], fun i t c ht hc => ?_⟩
  have hcs : t = { at_ := c } := by simpa [make, hc] using ht.symm
  rw [hcs]
  exact .here

theorem onWay_move {cs : List (Coroutine S α)} {p p' : Pool S σ α} {i : Nat}
    (hp : OnWay replies cs p) (h : p.move handle replies i = some p') : OnWay replies cs p' := by
  obtain ⟨t, c, n, ht, hturn, rfl⟩ := move_eq h
  refine ⟨by simpa using hp.1, fun j u d hu hd => ?_⟩
  by_cases hij : i = j
  · subst hij
    have hlt : i < p.tasks.length := (List.getElem?_eq_some_iff.mp ht).1
    rw [List.getElem?_set_self hlt, Option.some.injEq] at hu
    subst hu
    have hway := (hp.2 i t d ht hd).trans (turn_path hturn)
    rw [List.append_nil] at hway
    exact hway.trans (advance_path _ c n p.shared)
  · rw [List.getElem?_set_ne hij] at hu
    exact hp.2 j u d hu hd

/-- Every task was told no more than it is told when served in turn. -/
def Within (served : List (Served S σ α)) (p : Pool S σ α) : Prop :=
  ∀ (i : Nat) t x, p.tasks[i]? = some t → served[i]? = some x → t.told <+: x.told

theorem within_make (served : List (Served S σ α)) (cs : List (Coroutine S α)) (s : σ) :
    Within served (make cs s) := by
  intro i t x ht _
  simp only [make, List.getElem?_map, Option.map_eq_some_iff] at ht
  obtain ⟨c, _, rfl⟩ := ht
  exact List.nil_prefix

theorem run_invariant {cs : List (Coroutine S α)} {served : List (Served S σ α)}
    {order : List Nat} {p p' : Pool S σ α} (hp : OnWay replies cs p) (hw : Within served p)
    (h : p.run handle replies order = some p')
    (hturn : AsInTurn handle replies served p order) :
    OnWay replies cs p' ∧ Within served p' := by
  induction order generalizing p with
  | nil =>
    cases h
    exact ⟨hp, hw⟩
  | cons i order ih =>
    obtain ⟨q, hq, hrun⟩ := run_cons h
    refine ih (onWay_move hp hq) ?_ hrun (hturn.2 q hq)
    -- only task `i` was told more, and that is the condition on this move
    obtain ⟨t, c, n, ht, htn, rfl⟩ := move_eq hq
    intro j u x hu hx
    by_cases hij : i = j
    · subst hij
      have hlt : i < p.tasks.length := (List.getElem?_eq_some_iff.mp ht).1
      rw [List.getElem?_set_self hlt, Option.some.injEq] at hu
      subst hu
      exact hturn.1 t c n x ht htn hx
    · rw [List.getElem?_set_ne hij] at hu
      exact hw j u x hu hx

theorem inTurn_length (i : Nat) (cs : List (Coroutine S α)) (s : σ) :
    (inTurn handle replies i cs s).length = cs.length := by
  induction cs generalizing i s with
  | nil => rfl
  | cons c cs ih => simp [inTurn, ih]

theorem inTurn_path {i j : Nat} {cs : List (Coroutine S α)} {s : σ} {c : Coroutine S α}
    {x : Served S σ α} (hc : cs[j]? = some c) (hx : (inTurn handle replies i cs s)[j]? = some x) :
    Path (replies (i + j)) 0 c x.told x.asked (ending x.result) := by
  induction cs generalizing i j s with
  | nil => simp at hc
  | cons d cs ih =>
    cases j with
    | zero =>
      simp only [inTurn, List.getElem?_cons_zero, Option.some.injEq] at hc hx
      subst hc hx
      exact serve_path _ _ _
    | succ j =>
      simp only [inTurn, List.getElem?_cons_succ] at hc hx
      rw [show i + (j + 1) = i + 1 + j by omega]
      exact ih hc hx

theorem run_told {cs : List (Coroutine S α)} {s : σ} {order : List Nat} {p : Pool S σ α}
    (h : (make cs s).run handle replies order = some p) (hf : p.Finished)
    (hturn : AsInTurn handle replies (inTurn handle replies 0 cs s) (make cs s) order) :
    p.tasks.map Task.told = (inTurn handle replies 0 cs s).map Served.told ∧
      p.tasks.map (fun t => t.at_.result?) =
        (inTurn handle replies 0 cs s).map (fun x => some x.result) := by
  obtain ⟨hway, hwithin⟩ := run_invariant (onWay_make cs s) (within_make _ cs s) h hturn
  have hlen := hway.1
  have heach : ∀ (i : Nat) t x, p.tasks[i]? = some t →
      (inTurn handle replies 0 cs s)[i]? = some x →
      t.told = x.told ∧ t.at_.result? = some x.result := by
    intro i t x ht hx
    have hi : i < cs.length := by
      have := (List.getElem?_eq_some_iff.mp ht).1
      omega
    have hpath := inTurn_path (List.getElem?_eq_getElem hi) hx
    rw [Nat.zero_add] at hpath
    obtain ⟨rest, hrest⟩ := hwithin i t x ht hx
    rw [← hrest] at hpath
    -- the rest of the way starts at an end, so nothing is left of it
    have hleft := (hway.2 i t _ ht (List.getElem?_eq_getElem hi)).resume hpath (ending_ended _)
    obtain ⟨hnil, _, hend⟩ := hleft.eq_of_ended (hf.2 t (List.mem_of_getElem? ht))
    refine ⟨?_, ?_⟩
    · rw [← hrest, hnil, List.append_nil]
    · rw [← hend, ending_result?]
  have hsame : p.tasks.length = (inTurn handle replies 0 cs s).length := by
    rw [inTurn_length, hlen]
  constructor
  all_goals
    apply List.ext_getElem (by simpa using hsame)
    intro i hi hi'
    simp only [List.length_map] at hi hi'
    simp only [List.getElem_map]
  · exact (heach i _ _ (List.getElem?_eq_getElem hi) (List.getElem?_eq_getElem hi')).1
  · exact (heach i _ _ (List.getElem?_eq_getElem hi) (List.getElem?_eq_getElem hi')).2

/-! ### One task after another -/

section Serial

variable (handle replies)

/-- Along the order no task begins before those that began have ended. -/
def Serial : Pool S σ α → List Nat → Prop
  | _, [] => True
  | p, i :: order =>
    (i = p.started → ∀ t ∈ p.tasks.take p.started, t.at_.Ended) ∧
      match p.move handle replies i with
      | none => True
      | some p' => Serial p' order

instance serial_decidable : ∀ (p : Pool S σ α) (order : List Nat),
    Decidable (Serial handle replies p order)
  | _, [] => isTrue trivial
  | p, i :: order =>
    have : Decidable (match p.move handle replies i with
        | none => True
        | some p' => Serial handle replies p' order) :=
      match p.move handle replies i with
      | none => isTrue trivial
      | some p' => serial_decidable p' order
    inferInstanceAs (Decidable (_ ∧ _))

/-- The state the program number `i` is served in. -/
def stateBefore (cs : List (Coroutine S α)) (s : σ) : Nat → σ
  | 0 => s
  | i + 1 =>
    match cs[i]? with
    | none => stateBefore cs s i
    | some c => (serve handle (replies i) c 0 (stateBefore cs s i)).state

variable {handle replies}

variable (handle replies) in
theorem inTurn_getElem? (i : Nat) {j : Nat} {cs : List (Coroutine S α)} (s : σ) {c : Coroutine S α}
    (hc : cs[j]? = some c) :
    (inTurn handle replies i cs s)[j]? = some (serve handle (replies (i + j)) c 0
      (stateBefore handle (fun k => replies (i + k)) cs s j)) := by
  induction cs generalizing i j s with
  | nil => simp at hc
  | cons d cs ih =>
    cases j with
    | zero =>
      simp only [List.getElem?_cons_zero, Option.some.injEq] at hc
      subst hc
      rfl
    | succ j =>
      simp only [List.getElem?_cons_succ] at hc
      simp only [inTurn, List.getElem?_cons_succ, ih _ _ hc]
      have hbefore : ∀ k, stateBefore handle (fun k => replies (i + 1 + k)) cs
          (serve handle (replies i) d 0 s).state k =
          stateBefore handle (fun k => replies (i + k)) (d :: cs) s (k + 1) := by
        intro k
        induction k with
        | zero => rfl
        | succ k ihk =>
          rw [stateBefore, stateBefore, ihk, List.getElem?_cons_succ,
            show i + (k + 1) = i + 1 + k by omega]
      rw [hbefore, show i + (j + 1) = i + 1 + j by omega]

/-- A pool whose tasks began one after another: all but the last to begin have
ended, and the last is on its way through being served in turn. -/
structure OneByOne (handle : (o : S.Op) → σ → S.Ans o × σ)
    (replies : Nat → Nat → S.Query → S.Reply) (cs : List (Coroutine S α)) (s : σ)
    (p : Pool S σ α) : Prop where
  length : p.tasks.length = cs.length
  waiting : ∀ i, p.started ≤ i → p.tasks[i]? = cs[i]?.map fun c => { at_ := c }
  ended : ∀ i t, i + 1 < p.started → p.tasks[i]? = some t → t.at_.Ended
  first : p.started = 0 → p.shared = s
  last : ∀ k t c, p.started = k + 1 → p.tasks[k]? = some t → cs[k]? = some c →
    let x := serve handle (replies k) c 0 (stateBefore handle replies cs s k)
    x.told = t.told ++ (serve handle (replies k) t.at_ t.asked p.shared).told ∧
      x.state = (serve handle (replies k) t.at_ t.asked p.shared).state

theorem oneByOne_make (cs : List (Coroutine S α)) (s : σ) :
    OneByOne handle replies cs s (make cs s) where
  length := by simp [make]
  waiting := fun i _ => by simp [make]
  ended := fun i t h => absurd h (Nat.not_lt_zero _)
  first := fun _ => rfl
  last := fun k t c h => absurd h (Nat.succ_ne_zero k).symm

theorem OneByOne.shared_eq {cs : List (Coroutine S α)} {s : σ} {p : Pool S σ α}
    (h : OneByOne handle replies cs s p) (hlt : p.started ≤ cs.length)
    (hend : ∀ t ∈ p.tasks.take p.started, t.at_.Ended) :
    p.shared = stateBefore handle replies cs s p.started := by
  cases hk : p.started with
  | zero => exact h.first hk
  | succ k =>
    have hkc : k < cs.length := by omega
    have hkt : k < p.tasks.length := by rw [h.length]; exact hkc
    have ht := List.getElem?_eq_getElem hkt
    have hc := List.getElem?_eq_getElem hkc
    have hended : (p.tasks[k]).at_.Ended := by
      apply hend
      rw [hk]
      exact List.mem_take_iff_getElem.mpr ⟨k, by omega, rfl⟩
    have hstate := (h.last k _ _ hk ht hc).2
    rw [(serve_ended hended _ _).2] at hstate
    rw [stateBefore, hc]
    exact hstate.symm

theorem OneByOne.turn_serve {cs : List (Coroutine S α)} {s : σ} {p : Pool S σ α} {i n : Nat}
    {t : Task S α} {c d : Coroutine S α} (h : OneByOne handle replies cs s p)
    (hend : i = p.started → ∀ t ∈ p.tasks.take p.started, t.at_.Ended)
    (ht : p.tasks[i]? = some t) (hd : cs[i]? = some d) (htn : p.turn replies i t = some (c, n)) :
    let x := serve handle (replies i) d 0 (stateBefore handle replies cs s i)
    (i = p.started ∨ i + 1 = p.started) ∧
      x.told = t.told ++ (serve handle (replies i) c n p.shared).told ∧
      x.state = (serve handle (replies i) c n p.shared).state := by
  have hlc : i < cs.length := (List.getElem?_eq_some_iff.mp hd).1
  unfold turn at htn
  by_cases hi : i = p.started
  · rw [if_pos hi, Option.some.injEq, Prod.mk.injEq] at htn
    obtain ⟨rfl, rfl⟩ := htn
    have hwait := h.waiting i (by omega)
    rw [ht, hd, Option.map_some, Option.some.injEq] at hwait
    have hshared := h.shared_eq (by omega) (hend hi)
    rw [← hi] at hshared
    subst hwait
    refine ⟨.inl hi, ?_, ?_⟩
    · rw [hshared]
      rfl
    · rw [hshared]
  · rw [if_neg hi] at htn
    split at htn
    · next hrange =>
      cases ha : t.at_ with
      | ret a => simp [ha] at htn
      | raise e => simp [ha] at htn
      | act o k => simp [ha] at htn
      | ask q k =>
        simp only [ha, Option.some.injEq, Prod.mk.injEq] at htn
        obtain ⟨rfl, rfl⟩ := htn
        have hlast : i + 1 = p.started := by
          by_contra hne
          -- any task that began earlier has ended, and waits for nothing
          have hended := h.ended i t (by omega) ht
          rw [ha] at hended
          exact hended
        obtain ⟨htold, hstate⟩ := h.last i t d hlast.symm ht hd
        rw [ha] at htold hstate
        exact ⟨.inr hlast, htold, hstate⟩
    · cases htn

theorem oneByOne_move {cs : List (Coroutine S α)} {s : σ} {p p' : Pool S σ α} {i : Nat}
    (h : OneByOne handle replies cs s p)
    (hend : i = p.started → ∀ t ∈ p.tasks.take p.started, t.at_.Ended)
    (hmove : p.move handle replies i = some p') : OneByOne handle replies cs s p' := by
  obtain ⟨t, c, n, ht, htn, rfl⟩ := move_eq hmove
  have hlt : i < p.tasks.length := (List.getElem?_eq_some_iff.mp ht).1
  have hd := List.getElem?_eq_getElem (h.length ▸ hlt)
  obtain ⟨hi, htold, hstate⟩ := h.turn_serve hend ht hd htn
  have hstarted : (if i = p.started then p.started + 1 else p.started) = i + 1 := by
    split
    · omega
    · omega
  obtain ⟨hmore, hafter⟩ := serve_advance handle (replies i) c n p.shared
  constructor
  · simpa using h.length
  · intro j hj
    simp only [hstarted] at hj
    rw [List.getElem?_set_ne (by omega)]
    exact h.waiting j (by omega)
  · intro j u hj hu
    simp only [hstarted] at hj
    rw [List.getElem?_set_ne (by omega)] at hu
    by_cases hnew : i = p.started
    · exact hend hnew u (List.mem_take_iff_getElem.mpr
        ⟨j, by have := (List.getElem?_eq_some_iff.mp hu).1; omega,
          (List.getElem?_eq_some_iff.mp hu).2⟩)
    · exact h.ended j u (by omega) hu
  · intro hzero
    simp only [hstarted] at hzero
    omega
  · intro k u e hk hu he
    have hki : k = i := by
      simp only [hstarted] at hk
      omega
    subst hki
    rw [List.getElem?_set_self hlt, Option.some.injEq] at hu
    rw [hd, Option.some.injEq] at he
    subst hu he
    refine ⟨?_, hstate.trans hafter⟩
    rw [htold, hmore, List.append_assoc]

theorem serial_asInTurn {cs : List (Coroutine S α)} {s : σ} {order : List Nat} {p : Pool S σ α}
    (h : OneByOne handle replies cs s p) (hs : Serial handle replies p order) :
    AsInTurn handle replies (inTurn handle replies 0 cs s) p order := by
  induction order generalizing p with
  | nil => trivial
  | cons i order ih =>
    obtain ⟨hend, hrest⟩ := hs
    constructor
    · intro t c n x ht htn hx
      have hlt : i < p.tasks.length := (List.getElem?_eq_some_iff.mp ht).1
      have hd := List.getElem?_eq_getElem (h.length ▸ hlt)
      have hserved := inTurn_getElem? handle replies 0 s hd
      rw [hx] at hserved
      simp only [Nat.zero_add, Option.some.injEq] at hserved
      obtain ⟨_, htold, _⟩ := h.turn_serve hend ht hd htn
      obtain ⟨hmore, _⟩ := serve_advance handle (replies i) c n p.shared
      rw [hserved, htold, hmore, ← List.append_assoc]
      exact List.prefix_append _ _
    · intro p' hp'
      rw [hp'] at hrest
      exact ih (oneByOne_move h hend hp') hrest

end Serial

/-! ### Sums over the tasks -/

section Measure

variable {M : Type} [AddCommMonoid M] {m : σ → M} {w : ((o : S.Op) × S.Ans o) → M}
  {φ : Bool → S.Op → Prop} {opens : S.Op → Bool} {opened : σ → Prop}

theorem sum_map_set {ι : Type} {f : ι → M} {l : List ι} {i : Nat} {a b : ι} {d : M}
    (ha : l[i]? = some a) (hb : f b = f a + d) :
    ((l.set i b).map f).sum = (l.map f).sum + d := by
  induction l generalizing i with
  | nil => simp at ha
  | cons x l ih =>
    cases i with
    | zero =>
      simp only [List.getElem?_cons_zero, Option.some.injEq] at ha
      subst ha
      simp only [List.set_cons_zero, List.map_cons, List.sum_cons, hb]
      exact add_right_comm _ _ _
    | succ i =>
      simp only [List.getElem?_cons_succ] at ha
      simp only [List.set_cons_succ, List.map_cons, List.sum_cons, ih ha]
      exact (add_assoc _ _ _).symm

theorem turn_ready {p : Pool S σ α} {i n : Nat} {t : Task S α} {c : Coroutine S α}
    (ht : Ready φ opens opened t.at_ p.shared) (h : p.turn replies i t = some (c, n)) :
    Ready φ opens opened c p.shared := by
  unfold turn at h
  split at h
  · cases h
    exact ht
  · split at h
    · obtain ⟨b, hu, hb⟩ := ht
      cases ha : t.at_ with
      | ask q k =>
        simp only [ha, Option.some.injEq, Prod.mk.injEq] at h
        obtain ⟨rfl, rfl⟩ := h
        rw [ha] at hu
        exact ⟨b, hu _, hb⟩
      | ret a => simp [ha] at h
      | raise e => simp [ha] at h
      | act o k => simp [ha] at h
    · cases h

/-- What the tasks were told adds up to what the measure gained since `z`, and
every task may go on. -/
def Summed (φ : Bool → S.Op → Prop) (opens : S.Op → Bool) (opened : σ → Prop) (m : σ → M)
    (w : ((o : S.Op) × S.Ans o) → M) (z : M) (p : Pool S σ α) : Prop :=
  (∀ t ∈ p.tasks, Ready φ opens opened t.at_ p.shared) ∧
    m p.shared = z + (p.tasks.map fun t => (t.told.map w).sum).sum

theorem move_measure (hm : Counts handle φ opens opened m w) {p p' : Pool S σ α} {i : Nat} {z : M}
    (hp : Summed φ opens opened m w z p) (h : p.move handle replies i = some p') :
    Summed φ opens opened m w z p' := by
  obtain ⟨t, c, n, ht, htn, rfl⟩ := move_eq h
  have hc := turn_ready (hp.1 t (List.mem_of_getElem? ht)) htn
  obtain ⟨hr, hopen, hsum⟩ := advance_measure hm hc
  constructor
  · intro u hu
    rcases List.mem_or_eq_of_mem_set hu with hu | rfl
    · -- another task may go on as before: nothing that was open has closed
      obtain ⟨b, hub, hb⟩ := hp.1 u hu
      exact ⟨b, hub, fun hbt => hopen (hb hbt)⟩
    · exact hr
  · rw [hsum, hp.2, sum_map_set ht (d := ((c.advance handle p.shared).2.2.map w).sum)
      (by simp), add_assoc]

theorem run_measure (hm : Counts handle φ opens opened m w) {cs : List (Coroutine S α)} {s : σ}
    {order : List Nat} {p : Pool S σ α} (hcs : ∀ c ∈ cs, Ready φ opens opened c s)
    (h : (make cs s).run handle replies order = some p) :
    m p.shared = m s + (p.tasks.map fun t => (t.told.map w).sum).sum := by
  have hrun : ∀ (order : List Nat) (p p' : Pool S σ α), Summed φ opens opened m w (m s) p →
      p.run handle replies order = some p' → Summed φ opens opened m w (m s) p' := by
    intro order
    induction order with
    | nil =>
      intro p p' hz h
      cases h
      exact hz
    | cons i order ih =>
      intro p p' hz h
      obtain ⟨q, hq, hrest⟩ := run_cons h
      exact ih q p' (move_measure hm hz hq) hrest
  refine (hrun order _ p ⟨fun t ht => ?_, ?_⟩ h).2
  · simp only [make, List.mem_map] at ht
    obtain ⟨c, hc, rfl⟩ := ht
    exact hcs c hc
  · simp [make, Function.comp_def]

theorem inTurn_measure (hm : Counts handle φ opens opened m w) {cs : List (Coroutine S α)}
    (hcs : ∀ c ∈ cs, c.Uses φ opens false) (i : Nat) (s : σ) :
    m (inTurnState handle replies i cs s) =
      m s + ((inTurn handle replies i cs s).map fun x => (x.told.map w).sum).sum := by
  induction cs generalizing i s with
  | nil => simp [inTurnState, inTurn]
  | cons c cs ih =>
    simp only [inTurnState, inTurn, List.map_cons, List.sum_cons]
    rw [ih (fun d hd => hcs d (List.mem_cons_of_mem _ hd)),
      serve_measure hm ⟨false, hcs c List.mem_cons_self, by simp⟩, add_assoc]

theorem run_measure_eq (hm : Counts handle φ opens opened m w) {cs : List (Coroutine S α)} {s : σ}
    {order : List Nat} {p : Pool S σ α} (hcs : ∀ c ∈ cs, c.Uses φ opens false)
    (h : (make cs s).run handle replies order = some p)
    (htold : p.tasks.map Task.told = (inTurn handle replies 0 cs s).map Served.told) :
    m p.shared = m (inTurnState handle replies 0 cs s) := by
  rw [run_measure hm (fun c hc => ⟨false, hcs c hc, by simp⟩) h, inTurn_measure hm hcs]
  have hsum := congrArg (fun l => (l.map fun told => (told.map w).sum).sum) htold
  simp only [List.map_map, Function.comp_def] at hsum
  rw [hsum]

end Measure

theorem run_keeps {I : σ → Prop} {φ : Bool → S.Op → Prop} {opens : S.Op → Bool}
    (hI : ∀ b o s, φ b o → I s → I (handle o s).2) {cs : List (Coroutine S α)} {s : σ}
    {order : List Nat} {p : Pool S σ α} (hcs : ∀ c ∈ cs, c.Uses φ opens false) (hs : I s)
    (h : (make cs s).run handle replies order = some p) : I p.shared := by
  have hadvance : ∀ (c : Coroutine S α) (b : Bool) (s : σ), c.Uses φ opens b → I s →
      (∃ b, (c.advance handle s).1.Uses φ opens b) ∧ I (c.advance handle s).2.1 := by
    intro c
    induction c with
    | ret a => exact fun b s hc hs => ⟨⟨b, hc⟩, hs⟩
    | raise e => exact fun b s hc hs => ⟨⟨b, hc⟩, hs⟩
    | ask q k _ => exact fun b s hc hs => ⟨⟨b, hc⟩, hs⟩
    | act o k ih => exact fun b s hc hs => ih _ _ _ (hc.2 _) (hI b o s hc.1 hs)
  have hrun : ∀ (order : List Nat) (p p' : Pool S σ α),
      (∀ t ∈ p.tasks, ∃ b, t.at_.Uses φ opens b) → I p.shared →
      p.run handle replies order = some p' → I p'.shared := by
    intro order
    induction order with
    | nil =>
      intro p p' _ hs h
      cases h
      exact hs
    | cons i order ih =>
      intro p p' hp hs h
      obtain ⟨q, hq, hrest⟩ := run_cons h
      obtain ⟨t, c, n, ht, htn, rfl⟩ := move_eq hq
      have hready : Ready φ opens (fun _ => True) t.at_ p.shared := by
        obtain ⟨b, hb⟩ := hp t (List.mem_of_getElem? ht)
        exact ⟨b, hb, fun _ => trivial⟩
      obtain ⟨b, hc, _⟩ := turn_ready hready htn
      obtain ⟨hc', hs'⟩ := hadvance c b p.shared hc hs
      refine ih _ p' (fun u hu => ?_) hs' hrest
      rcases List.mem_or_eq_of_mem_set hu with hu | rfl
      · exact hp u hu
      · exact hc'
  refine hrun order _ p (fun t ht => ?_) hs h
  simp only [make, List.mem_map] at ht
  obtain ⟨c, hc, rfl⟩ := ht
  exact ⟨false, hcs c hc⟩

theorem inTurn_keeps {I : σ → Prop} {cs : List (Coroutine S α)}
    (hcs : ∀ c ∈ cs, ∀ i, Keeps handle (replies i) I c) (i : Nat) {s : σ} (hs : I s) :
    I (inTurnState handle replies i cs s) := by
  induction cs generalizing i s with
  | nil => exact hs
  | cons c cs ih =>
    exact ih (fun d hd => hcs d (List.mem_cons_of_mem _ hd)) _
      (hcs c List.mem_cons_self i 0 s hs)

end Pool

end Lib
