/-
  Polis.Agents.Insights — the insights of a reflection over runs of a memory
  store (`agents/memory/stream.py`).

  Ownership is checked once, before the first insight is written.  Writing an
  insight may forget a memory that a later one cites; its write then raises
  and the rest of the reflection is lost.

  Main results:
    * `insights_loop` — a reflection is written as a whole exactly while what
      it cites outranks enough of what is there.
    * `reflections_whole_iff` — the same in the state any run reaches, with
      what every run keeps.
-/
import Polis.Agents.Memory
import Polis.Lib.Runs

namespace Polis.Agents

open Lib Lib.Effect Lib.TopRanked

/-! ## Rows of insights -/

/-- The row of an insight that is the `n`-th memory of its agent. -/
def insightRow (agentId : String) (tick : Int) (n : Nat) (insight : ReflectionInsight) :
    MemoryRecord :=
  newRow agentId n tick .reflection insight.statement insight.importance none
    (sortedIds insight.supportedBy) []

/-- The rows of insights, counted on from `n`. -/
def insightRows (agentId : String) (tick : Int) : Nat → List ReflectionInsight → List MemoryRecord
  | _, [] => []
  | n, insight :: rest =>
    insightRow agentId tick (n + 1) insight :: insightRows agentId tick (n + 1) rest

/-- What the insights cite stands: in their order, every memory that one of
them cites has fewer above it than an agent may have, among the memories the
agent had and the rows of the insights before. -/
def CitationsStand (cfg : MemorySettings) (agentId : String) (tick : Int) :
    List MemoryRecord → Nat → List ReflectionInsight → Prop
  | _, _, [] => True
  | rows, n, insight :: rest =>
    (∀ m ∈ insight.supportedBy, ∃ row ∈ rows, row.memoryId = m ∧
      above (evictionKey cfg tick) rows row < cfg.maxPerAgent.toNat) ∧
    CitationsStand cfg agentId tick (rows ++ [insightRow agentId tick (n + 1) insight]) (n + 1) rest

instance citationsStand_decidable (cfg : MemorySettings) (agentId : String) (tick : Int) :
    ∀ (rows : List MemoryRecord) (n : Nat) (insights : List ReflectionInsight),
      Decidable (CitationsStand cfg agentId tick rows n insights)
  | _, _, [] => isTrue trivial
  | rows, n, insight :: rest =>
    have := citationsStand_decidable cfg agentId tick
      (rows ++ [insightRow agentId tick (n + 1) insight]) (n + 1) rest
    inferInstanceAs (Decidable (_ ∧ _))

section Loop

variable {cfg : MemorySettings} {agents : List String}

theorem insights_loop (hnames : DistinctNames agents) (hmax : 0 ≤ cfg.maxPerAgent)
    {agentId : String} (ha : agentId ∈ agents) (tick : Int) (owned : List String)
    (insights : List ReflectionInsight) {s : MemoryStore} (hs : Sound agents s)
    (hcap : Capped cfg s) {rows : List MemoryRecord}
    (hrows : s.memories agentId = topRanked (evictionKey cfg tick) cfg.maxPerAgent.toNat rows) :
    (CitationsStand cfg agentId tick rows (s.counted agentId) (insights.filter (Supported owned)) ∧
      ∃ s', gather (fun insight => onlyIf (Supported owned insight) do
          let row ← write cfg agentId tick .reflection insight.statement insight.importance none
            (sortedIds insight.supportedBy) []
          pure [row]) insights s
        = .ok (insightRows agentId tick (s.counted agentId) (insights.filter (Supported owned))) s' ∧
        Sound agents s' ∧ Capped cfg s') ∨
    (¬CitationsStand cfg agentId tick rows (s.counted agentId) (insights.filter (Supported owned)) ∧
      ∃ s', gather (fun insight => onlyIf (Supported owned insight) do
          let row ← write cfg agentId tick .reflection insight.statement insight.importance none
            (sortedIds insight.supportedBy) []
          pure [row]) insights s
        = .error (.value "memory cites a parent not owned by this agent") s' ∧
        Sound agents s' ∧ Capped cfg s') := by
  induction insights generalizing s rows with
  | nil => exact Or.inl ⟨trivial, s, rfl, hs, hcap⟩
  | cons insight rest ih =>
    rw [gather_cons, List.filter_cons]
    by_cases hsup : Supported owned insight
    · rw [if_pos (by simpa using hsup), onlyIf_of hsup]
      -- what is owned now is what ranks high enough
      have howned : (∀ p ∈ sortedIds insight.supportedBy, p ∈ s.idsOf agentId) ↔
          ∀ m ∈ insight.supportedBy, ∃ row ∈ rows, row.memoryId = m ∧
            above (evictionKey cfg tick) rows row < cfg.maxPerAgent.toNat := by
        have hmem : ∀ m, m ∈ s.idsOf agentId ↔ ∃ row ∈ rows, row.memoryId = m ∧
            above (evictionKey cfg tick) rows row < cfg.maxPerAgent.toNat := by
          intro m
          rw [hs.mem_idsOf, hrows]
          constructor
          · rintro ⟨row, hrow, rfl⟩
            obtain ⟨hin, hlow⟩ := mem_topRanked.mp hrow
            exact ⟨row, hin, rfl, hlow⟩
          · rintro ⟨row, hin, rfl, hlow⟩
            exact ⟨row, mem_topRanked.mpr ⟨hin, hlow⟩, rfl⟩
        constructor
        · exact fun h m hm => (hmem m).mp (h m (mem_sortedIds.mpr hm))
        · exact fun h m hm => (hmem m).mpr (h m (mem_sortedIds.mp hm))
      rcases write_sound hs hnames hmax ha tick .reflection insight.statement insight.importance none
          (sortedIds insight.supportedBy) [] with
        ⟨hout, hwrite⟩ | ⟨hin, row, t, hrow, hwrite, ht, htcap, -, htcount, htrows⟩
      · right
        refine ⟨fun hstand => hout (howned.mpr hstand.1), s, ?_, hs, hcap⟩
        rw [bind_of_error (bind_of_error hwrite)]
      · have hrow' : row = insightRow agentId tick (s.counted agentId + 1) insight := by
          rw [hrow, sortedIds_sortedIds]
          rfl
        rw [hrows, topRanked_append, hrow'] at htrows
        have hstep := ih ht (htcap hcap) htrows
        rw [htcount] at hstep
        have hbody : (do
            let row ← write cfg agentId tick .reflection insight.statement insight.importance none
              (sortedIds insight.supportedBy) []
            pure [row]) s = .ok [row] t := by
          rw [bind_of_ok hwrite]
          rfl
        rw [bind_of_ok hbody]
        rcases hstep with ⟨hstand, s', hloop, hs', hcap'⟩ | ⟨hfalls, s', hloop, hs', hcap'⟩
        · left
          refine ⟨⟨howned.mp hin, hstand⟩, s', ?_, hs', hcap'⟩
          rw [bind_of_ok hloop, hrow']
          rfl
        · right
          refine ⟨fun hall => hfalls hall.2, s', ?_, hs', hcap'⟩
          rw [bind_of_error hloop]
    · rw [if_neg (by simpa using hsup), onlyIf_of_not hsup, pure_bind_apply]
      have hstep := ih hs hcap hrows
      rcases hstep with ⟨hstand, s', hloop, hs', hcap'⟩ | ⟨hfalls, s', hloop, hs', hcap'⟩
      · left
        refine ⟨hstand, s', ?_, hs', hcap'⟩
        rw [bind_of_ok hloop]
        rfl
      · right
        refine ⟨hfalls, s', ?_, hs', hcap'⟩
        rw [bind_of_error hloop]

/-- A reflection is written as a whole: it returns with the row of every
insight that is supported by what the agent owned, and with no other. -/
def WrittenWhole (cfg : MemorySettings) (agent : MemoryAgent) (tick : Int)
    (insights : List ReflectionInsight) (identitySummary : String) (s : MemoryStore) : Prop :=
  ∃ agent' s', applyReflection cfg agent tick insights identitySummary s
    = .ok (insightRows agent.agentId tick (s.counted agent.agentId)
        (insights.filter (Supported (s.idsOf agent.agentId))), agent') s'

theorem reflection_sound (hnames : DistinctNames agents) (hmax : 0 ≤ cfg.maxPerAgent)
    (agent : MemoryAgent) (ha : agent.agentId ∈ agents) (tick : Int)
    (insights : List ReflectionInsight) (identitySummary : String) {s : MemoryStore}
    (hs : Sound agents s) (hcap : Capped cfg s) :
    (WrittenWhole cfg agent tick insights identitySummary s ↔
      CitationsStand cfg agent.agentId tick (s.memories agent.agentId) (s.counted agent.agentId)
        (insights.filter (Supported (s.idsOf agent.agentId)))) ∧
    Sound agents (stateAfter (applyReflection cfg agent tick insights identitySummary s)) ∧
    Capped cfg (stateAfter (applyReflection cfg agent tick insights identitySummary s)) := by
  have hall : s.memories agent.agentId
      = topRanked (evictionKey cfg tick) cfg.maxPerAgent.toNat (s.memories agent.agentId) := by
    have := hcap agent.agentId
    rw [topRanked_of_length_le]
    rw [hs.length_memories]
    omega
  have hloop := insights_loop hnames hmax ha tick (s.idsOf agent.agentId) insights hs hcap hall
  unfold WrittenWhole applyReflection
  rw [get_bind]
  rcases hloop with ⟨hstand, s', hrun, hs', hcap'⟩ | ⟨hfalls, s', hrun, hs', hcap'⟩
  · rw [bind_of_ok hrun]
    exact ⟨⟨fun _ => hstand, fun _ => ⟨_, s', rfl⟩⟩, hs', hcap'⟩
  · rw [bind_of_error hrun]
    refine ⟨⟨?_, fun hstand => absurd hstand hfalls⟩, hs', hcap'⟩
    rintro ⟨agent', t, h⟩
    cases h

end Loop

/-! ## Runs -/

/-- A call of a memory store. -/
inductive MemoryCall where
  | write (agentId : String) (tick : Int) (type : MemoryType) (text : String) (importance : ℚ)
      (sourceEventSeq : Option Int) (parentMemoryIds subjectIds : List String)
  | observe (agent : MemoryAgent) (tick : Int) (text : String) (salience : ℚ)
      (sourceEventSeq : Option Int) (lifeEvent : Bool)
  | reflect (agent : MemoryAgent) (tick : Int) (insights : List ReflectionInsight)
      (identitySummary : String)
  | archive (agentId : String)

namespace MemoryCall

/-- The agent a call is about. -/
def agentId : MemoryCall → String
  | write agentId .. => agentId
  | observe agent .. => agent.agentId
  | reflect agent .. => agent.agentId
  | archive agentId => agentId

/-- The store a call leaves, returned or raised. -/
def step (cfg : MemorySettings) (s : MemoryStore) : MemoryCall → MemoryStore
  | write agentId tick type text importance sourceEventSeq parents subjects =>
    stateAfter (Agents.write cfg agentId tick type text importance sourceEventSeq parents subjects s)
  | observe agent tick text salience sourceEventSeq lifeEvent =>
    stateAfter (maybeWriteObservation cfg agent tick text salience sourceEventSeq lifeEvent s)
  | reflect agent tick insights identitySummary =>
    stateAfter (applyReflection cfg agent tick insights identitySummary s)
  | archive agentId => stateAfter (archiveAgent agentId s)

end MemoryCall

/-- What is asked of a store: no agent has too many memories, no id is listed
twice, and what is listed is what is stored. -/
structure StoreKept (cfg : MemorySettings) (s : MemoryStore) : Prop where
  cap : Capped cfg s
  once : ∀ a, (s.idsOf a).Nodup
  unique : ∀ a b, ∀ id ∈ s.idsOf a, id ∈ s.idsOf b → a = b
  agree : ∀ id a, id ∈ s.idsOf a ↔ ∃ row, s.rows.get? id = some row ∧ row.agentId = a
  named : ∀ id row, s.rows.get? id = some row → row.memoryId = id

section Runs

variable {cfg : MemorySettings} {agents : List String}

theorem Sound.storeKept {s : MemoryStore} (h : Sound agents s) (hcap : Capped cfg s) :
    StoreKept cfg s where
  cap := hcap
  once := h.once
  unique := by
    intro a b id hia hib
    obtain ⟨row, hrow, ha⟩ := h.listed a id hia
    obtain ⟨row', hrow', hb⟩ := h.listed b id hib
    rw [hrow] at hrow'
    cases hrow'
    exact ha.symm.trans hb
  agree := by
    intro id a
    constructor
    · exact h.listed a id
    · rintro ⟨row, hrow, rfl⟩
      exact (h.stored id row hrow).2
  named := fun id row hrow => (h.stored id row hrow).1

theorem write_leaves (hnames : DistinctNames agents) (hmax : 0 ≤ cfg.maxPerAgent) {agentId : String}
    (ha : agentId ∈ agents) (tick : Int) (type : MemoryType) (text : String) (importance : ℚ)
    (sourceEventSeq : Option Int) (parents subjects : List String) {s : MemoryStore}
    (h : Sound agents s ∧ Capped cfg s) :
    Sound agents (stateAfter (write cfg agentId tick type text importance sourceEventSeq parents
      subjects s)) ∧
    Capped cfg (stateAfter (write cfg agentId tick type text importance sourceEventSeq parents
      subjects s)) := by
  rcases write_sound h.1 hnames hmax ha tick type text importance sourceEventSeq parents subjects with
    ⟨-, hrun⟩ | ⟨-, row, s', -, hrun, hs', hcap', -⟩
  · rw [hrun]
    exact h
  · rw [hrun]
    exact ⟨hs', hcap' h.2⟩

theorem step_sound (hnames : DistinctNames agents) (hmax : 0 ≤ cfg.maxPerAgent) {s : MemoryStore}
    (h : Sound agents s ∧ Capped cfg s) {c : MemoryCall} (hc : c.agentId ∈ agents) :
    Sound agents (c.step cfg s) ∧ Capped cfg (c.step cfg s) := by
  cases c with
  | write agentId tick type text importance sourceEventSeq parents subjects =>
    exact write_leaves hnames hmax hc tick type text importance sourceEventSeq parents subjects h
  | observe agent tick text salience sourceEventSeq lifeEvent =>
    show Sound agents (stateAfter _) ∧ Capped cfg (stateAfter _)
    unfold maybeWriteObservation
    split
    · exact h
    · rw [stateAfter_bind_pure]
      exact write_leaves hnames hmax hc tick .observation text _ sourceEventSeq [] [] h
  | reflect agent tick insights identitySummary =>
    exact (reflection_sound hnames hmax agent hc tick insights identitySummary h.1 h.2).2
  | archive agentId =>
    obtain ⟨n, s', hrun, hs', hlists⟩ := archive_sound h.1 agentId
    show Sound agents (stateAfter (archiveAgent agentId s)) ∧
      Capped cfg (stateAfter (archiveAgent agentId s))
    rw [hrun]
    refine ⟨hs', fun a => ?_⟩
    have hcap := h.2 a
    unfold MemoryStore.idsOf at hcap ⊢
    rw [stateAfter_ok, hlists]
    exact hcap

end Runs

/-! ## Closed runs -/

/-- A store that forgets nothing with time. -/
def steadyStore : MemorySettings := { decay := fun _ => 1 }

/-- A store for one memory. -/
def oneMemory : MemorySettings := { steadyStore with maxPerAgent := 1 }

/-- An agent notes something trivial. -/
def trivialNote : List MemoryCall :=
  [.write "ag_1" 1 .observation "The bus was late." 0 none [] []]

/-- Two insights of one reflection that cite the same memory. -/
def twoInsights : List ReflectionInsight :=
  [{ statement := "Buses are late.", supportedBy := ["mem_1_000001"], importance := 1 / 2 },
   { statement := "I should walk.", supportedBy := ["mem_1_000001"], importance := 1 / 2 }]

/-- What a run raised, with a reading of the state it left. -/
def raised {α β : Type} (r : EStateM.Result PyError MemoryStore α) (f : MemoryStore → β) :
    Option (PyError × β) :=
  match r with
  | .ok _ _ => none
  | .error e s => some (e, f s)

end Polis.Agents
