/-
  Polis.Events.Causal — walks along the causes of stored events
  (`events/causal.py`, with `get` and `by_cause` of `events/reader.py`).

  A walk up follows one cause after another and stops at an event it has met.
  A walk down is a breadth-first search; its queue is sorted after every turn.

  Main results:
    * `explain_follows` — the chain that explains an event, and what it means
      that it is not reported as truncated.
    * `descendants_exact` — a walk down that has not run out of nodes returns
      exactly what the root led to.
-/
import Polis.Events.VerifyFrom
import Mathlib.Data.Prod.Lex

namespace Polis.Events

open Lib StableSort

variable {P : Type} (stored : List (Event P)) (runId : RunId)

/-- `get`. -/
def getEvent (seq : Int) : Option (Event P) :=
  stored.find? fun e => e.runId = runId ∧ e.seq = seq

/-- `by_cause`. -/
def byCause (causeSeq : Int) : List (Event P) :=
  sortByKey (fun e => e.seq) (stored.filter fun e => e.runId = runId ∧ e.causeSeq = some causeSeq)

def causeOf (e : Event P) : Option (Event P) := e.causeSeq.bind (getEvent stored runId)

/-! ## Up -/

/-- The loop of `ancestors`, with room for some more events. -/
def climb : Nat → List Int → Option (Event P) → List (Event P)
  | 0, _, _ => []
  | _, _, none => []
  | room + 1, seen, some e =>
    if e.seq ∈ seen then [] else e :: climb room (e.seq :: seen) (causeOf stored runId e)

/-- `ancestors`. -/
def ancestors (seq maxDepth : Int) : List (Event P) :=
  climb stored runId (maxDepth + 1).toNat [] (getEvent stored runId seq)

/-- What `explain` returns. -/
structure Explanation (P : Type) where
  event : Option (Event P)
  ancestors : List (Event P)
  root : Option (Event P)
  depth : Nat
  truncated : Bool

/-- `explain`. -/
def explain (seq maxDepth : Int) : Explanation P :=
  let chain := ancestors stored runId seq maxDepth
  { event := chain.head?
    ancestors := chain.drop 1
    root := chain.getLast?
    depth := chain.length - 1
    truncated := decide (maxDepth < chain.length) }

/-- Each event of a list is the cause of the one before it. -/
def Follow : Option (Event P) → List (Event P) → Prop
  | _, [] => True
  | next, e :: es => next = some e ∧ Follow (causeOf stored runId e) es

variable {stored runId}

theorem climb_follow (room : Nat) (seen : List Int) (next : Option (Event P)) :
    Follow stored runId next (climb stored runId room seen next) := by
  fun_induction climb with
  | case1 | case2 | case3 => trivial
  | case4 room seen e hseen ih => exact ⟨rfl, ih⟩

theorem climb_length (room : Nat) (seen : List Int) (next : Option (Event P)) :
    (climb stored runId room seen next).length ≤ room := by
  fun_induction climb with
  | case1 | case2 | case3 => exact Nat.zero_le _
  | case4 room seen e hseen ih => exact Nat.succ_le_succ ih

theorem climb_fresh (room : Nat) (seen : List Int) (next : Option (Event P)) :
    ((climb stored runId room seen next).map fun e => e.seq).Nodup ∧
    ∀ e ∈ climb stored runId room seen next, e.seq ∉ seen := by
  fun_induction climb with
  | case1 | case2 | case3 => simp
  | case4 room seen e hseen ih =>
    obtain ⟨hnodup, hnew⟩ := ih
    constructor
    · refine List.nodup_cons.mpr ⟨fun hmem => ?_, hnodup⟩
      obtain ⟨f, hf, heq⟩ := List.mem_map.mp hmem
      exact hnew f hf (heq ▸ List.mem_cons_self)
    · intro f hf
      rcases List.mem_cons.mp hf with rfl | hf
      · exact hseen
      · exact fun h => hnew f hf (List.mem_cons_of_mem _ h)

/-- A walk that leaves room ends where there is no cause, or at an event it has
met. -/
theorem climb_ends (room : Nat) (seen : List Int) (next : Option (Event P))
    (hroom : (climb stored runId room seen next).length < room) (f : Event P)
    (hf : (climb stored runId room seen next).getLast?.elim next (causeOf stored runId) = some f) :
    f.seq ∈ seen ∨ f.seq ∈ (climb stored runId room seen next).map fun e => e.seq := by
  fun_induction climb with
  | case1 => exact absurd hroom (Nat.not_lt_zero _)
  | case2 => cases hf
  | case3 room seen e hseen =>
    cases hf
    exact .inl hseen
  | case4 room seen e hseen ih =>
    have hmet := ih (Nat.lt_of_succ_lt_succ hroom) (by
      rw [List.getLast?_cons] at hf
      cases hlast : (climb stored runId room (e.seq :: seen) (causeOf stored runId e)).getLast? <;>
        rw [hlast] at hf <;> exact hf)
    rw [List.map_cons, List.mem_cons]
    rw [List.mem_cons] at hmet
    tauto

/-- **The chain of an explanation is the walk along the causes**, and one that
is not truncated ends where there is no cause, or where the causes run in a
circle. -/
theorem explain_follows (stored : List (Event P)) (runId : RunId) (seq maxDepth : Int) :
    let told := explain stored runId seq maxDepth
    let chain := told.event.toList ++ told.ancestors
    Follow stored runId (getEvent stored runId seq) chain ∧
    (chain.map fun e => e.seq).Nodup ∧ chain.length ≤ (maxDepth + 1).toNat ∧
    told.root = chain.getLast? ∧ told.depth = chain.length - 1 ∧
    (told.truncated = false → ∀ f,
      told.root.elim (getEvent stored runId seq) (causeOf stored runId) = some f →
        f.seq ∈ chain.map fun e => e.seq) := by
  intro told chain
  have hchain : chain = ancestors stored runId seq maxDepth := by
    show (ancestors stored runId seq maxDepth).head?.toList
      ++ (ancestors stored runId seq maxDepth).drop 1 = _
    cases ancestors stored runId seq maxDepth <;> rfl
  rw [hchain]
  refine ⟨climb_follow _ _ _, (climb_fresh _ _ _).1, climb_length _ _ _, rfl, rfl,
    fun htruncated f hf => ?_⟩
  have hle := of_decide_eq_false htruncated
  have hends := climb_ends (maxDepth + 1).toNat [] (getEvent stored runId seq)
    (by show (ancestors stored runId seq maxDepth).length < _; omega) f hf
  exact hends.resolve_left List.not_mem_nil

/-! ## Down -/

/-- `CausalNode`. -/
structure CausalNode (P : Type) where
  event : Event P
  depth : Nat
  children : List Int

/-- The order of the queue: by depth, then by number. -/
def rank (q : Event P × Nat) : Nat ×ₗ Int := toLex (q.2, q.1.seq)

def CausalNode.entry (n : CausalNode P) : Event P × Nat := (n.event, n.depth)

variable (stored runId) (maxDepth : Int)

/-- The queue after the turn of an entry. -/
def queueAfter (q : Event P × Nat) (queue : List (Event P × Nat)) : List (Event P × Nat) :=
  if q.2 < maxDepth then
    sortByKey rank (queue ++ (byCause stored runId q.1.seq).map fun child => (child, q.2 + 1))
  else queue

/-- The loop of `descendants`, with room for some more nodes. -/
def sink : Nat → List (Event P × Nat) → List (CausalNode P)
  | 0, _ => []
  | _, [] => []
  | room + 1, q :: queue =>
    ⟨q.1, q.2, (byCause stored runId q.1.seq).map fun child => child.seq⟩ ::
      sink room (queueAfter stored runId maxDepth q queue)

/-- `descendants`. -/
def descendants (seq maxNodes : Int) : List (CausalNode P) :=
  match getEvent stored runId seq with
  | none => []
  | some root => sink stored runId maxDepth maxNodes.toNat [(root, 0)]

/-- What the event with a number led to, in so many steps. -/
inductive LedTo (seq : Int) : Event P → Nat → Prop
  | root {e : Event P} (h : getEvent stored runId seq = some e) : LedTo seq e 0
  | next {e child : Event P} {depth : Nat} (h : LedTo seq e depth)
      (hchild : child ∈ byCause stored runId e.seq) : LedTo seq child (depth + 1)

variable {stored runId maxDepth}

theorem mem_queueAfter {q q' : Event P × Nat} {queue : List (Event P × Nat)} :
    q' ∈ queueAfter stored runId maxDepth q queue ↔ q' ∈ queue ∨
      q.2 < maxDepth ∧ q'.1 ∈ byCause stored runId q.1.seq ∧ q'.2 = q.2 + 1 := by
  unfold queueAfter sortByKey
  split_ifs with h
  · rw [List.mem_insertionSort, List.mem_append, List.mem_map]
    refine or_congr_right ⟨?_, ?_⟩
    · rintro ⟨child, hchild, rfl⟩
      exact ⟨h, hchild, rfl⟩
    · rintro ⟨-, hchild, hdepth⟩
      exact ⟨q'.1, hchild, by rw [← hdepth]⟩
  · simp [h]

/-- What holds of a queue and passes on to causes' effects holds of every node. -/
theorem sink_sound {I : Event P → Nat → Prop}
    (hnext : ∀ e depth, I e depth → depth < maxDepth → ∀ child ∈ byCause stored runId e.seq,
      I child (depth + 1)) (room : Nat) (queue : List (Event P × Nat))
    (hqueue : ∀ q ∈ queue, I q.1 q.2) :
    ∀ n ∈ sink stored runId maxDepth room queue, I n.event n.depth ∧
      n.children = (byCause stored runId n.event.seq).map fun child => child.seq := by
  fun_induction sink with
  | case1 | case2 => exact fun _ h => absurd h List.not_mem_nil
  | case3 room q queue ih =>
    have hhead : I q.1 q.2 := hqueue q List.mem_cons_self
    intro n hn
    rcases List.mem_cons.mp hn with rfl | hn
    · exact ⟨hhead, rfl⟩
    · refine ih (fun q' hq' => ?_) n hn
      rcases mem_queueAfter.mp hq' with hold | ⟨hdepth, hchild, heq⟩
      · exact hqueue q' (List.mem_cons_of_mem _ hold)
      · rw [heq]
        exact hnext _ _ hhead hdepth _ hchild

/-- The nodes come in the order of the queue, and none before all of it. -/
theorem sink_sorted (room : Nat) (queue : List (Event P × Nat))
    (hsorted : queue.Pairwise (ByKey rank)) :
    (sink stored runId maxDepth room queue).Pairwise (ByKey fun n => rank n.entry) ∧
    ∀ k, (∀ q ∈ queue, k ≤ rank q) →
      ∀ n ∈ sink stored runId maxDepth room queue, k ≤ rank n.entry := by
  fun_induction sink with
  | case1 | case2 => exact ⟨.nil, fun _ _ _ h => absurd h List.not_mem_nil⟩
  | case3 room q queue ih =>
    obtain ⟨hfirst, hrest⟩ := List.pairwise_cons.mp hsorted
    have hafter : (queueAfter stored runId maxDepth q queue).Pairwise (ByKey rank) := by
      unfold queueAfter
      split_ifs
      · exact pairwise_sortByKey _ _
      · exact hrest
    -- the children are a step deeper than the node that leaves the queue
    have hbehind : ∀ q' ∈ queueAfter stored runId maxDepth q queue, rank q ≤ rank q' := by
      intro q' hq'
      rcases mem_queueAfter.mp hq' with hold | ⟨-, -, heq⟩
      · exact hfirst q' hold
      · exact Prod.Lex.toLex_le_toLex.mpr (.inl (by show q.2 < q'.2; omega))
    obtain ⟨hpairs, hbound⟩ := ih hafter
    refine ⟨List.pairwise_cons.mpr ⟨hbound _ hbehind, hpairs⟩, fun k hk n hn => ?_⟩
    have hhead := hk q List.mem_cons_self
    rcases List.mem_cons.mp hn with rfl | hn
    · exact hhead
    · exact hhead.trans (hbound _ hbehind n hn)

/-- A walk that leaves room has a node for what stood in its queue, and for the
children of each node that is not too deep. -/
theorem sink_complete (room : Nat) (queue : List (Event P × Nat))
    (hroom : (sink stored runId maxDepth room queue).length < room) :
    let nodes := (sink stored runId maxDepth room queue).map CausalNode.entry
    (∀ q ∈ queue, q ∈ nodes) ∧
    ∀ q ∈ nodes, q.2 < maxDepth → ∀ child ∈ byCause stored runId q.1.seq,
      (child, q.2 + 1) ∈ nodes := by
  fun_induction sink with
  | case1 => exact absurd hroom (Nat.not_lt_zero _)
  | case2 => exact ⟨fun _ h => h, fun _ h => absurd h List.not_mem_nil⟩
  | case3 room q queue ih =>
    obtain ⟨hqueued, hclosed⟩ := ih (Nat.lt_of_succ_lt_succ hroom)
    constructor
    · intro q' hq'
      rcases List.mem_cons.mp hq' with rfl | hq'
      · exact List.mem_cons_self
      · exact List.mem_cons_of_mem _ (hqueued q' (mem_queueAfter.mpr (.inl hq')))
    · intro q' hq' hdepth child hchild
      refine List.mem_cons_of_mem _ ?_
      rcases List.mem_cons.mp hq' with rfl | hq'
      · exact hqueued _ (mem_queueAfter.mpr (.inr ⟨hdepth, hchild, rfl⟩))
      · exact hclosed q' hq' hdepth child hchild

/-- **A walk down returns what an event led to**, the least deep first; all of it
to the depth asked for, unless it ran out of nodes. -/
theorem descendants_exact (stored : List (Event P)) (runId : RunId) (seq maxDepth maxNodes : Int) :
    let nodes := descendants stored runId maxDepth seq maxNodes
    (∀ n ∈ nodes, (LedTo stored runId seq n.event n.depth ∧ n.depth ≤ maxDepth.toNat) ∧
      n.children = (byCause stored runId n.event.seq).map fun child => child.seq) ∧
    nodes.Pairwise (ByKey fun n => rank n.entry) ∧
    (nodes.length < maxNodes.toNat → ∀ e depth, LedTo stored runId seq e depth →
      depth ≤ maxDepth.toNat → (e, depth) ∈ nodes.map CausalNode.entry) := by
  intro nodes
  have hnodes : nodes = descendants stored runId maxDepth seq maxNodes := rfl
  unfold descendants at hnodes
  cases hroot : getEvent stored runId seq with
  | none =>
    rw [hnodes, hroot]
    refine ⟨fun _ h => absurd h List.not_mem_nil, .nil, fun _ e depth hled _ => ?_⟩
    induction hled with
    | root h => cases hroot.symm.trans h
    | next h hchild ih => exact absurd (ih (by omega)) List.not_mem_nil
  | some e =>
    rw [hnodes, hroot]
    refine ⟨?_, (sink_sorted _ _ (List.pairwise_singleton _ _)).1, fun hroom e depth hled hle => ?_⟩
    · apply sink_sound (I := fun e depth => LedTo stored runId seq e depth ∧ depth ≤ maxDepth.toNat)
      · exact fun e depth he hlt child hchild => ⟨he.1.next hchild, by omega⟩
      · intro q hq
        rw [List.mem_singleton.mp hq]
        exact ⟨.root hroot, Nat.zero_le _⟩
    · obtain ⟨hqueued, hclosed⟩ := sink_complete _ _ hroom
      induction hled with
      | root h =>
        cases hroot.symm.trans h
        exact hqueued _ (List.mem_singleton_self _)
      | next h hchild ih =>
        exact hclosed _ (ih (by omega)) (by dsimp only; omega) _ hchild

end Polis.Events
