/-
  Polis.Agents.Memory — the memory stream (`agents/memory/stream.py`).

  A store keeps the memories of every agent under ids it counts up, and
  forgets the lowest ranked where an agent has too many.  The decay of recency
  is a parameter; embeddings and retrieval are left out.

  Main results:
    * `memoryIdOf_injective` — an id tells its agent's name and its number.
    * `evict_sound` — forgetting leaves the highest ranked memories.
    * `write_sound` — what one write does to the memories of its agent.
-/
import Polis.Economy.Money
import Polis.Lib.Effect
import Polis.Lib.TopRanked
import Mathlib.Data.List.Dedup

namespace Polis.Agents

open Lib Lib.Effect Lib.StableSort Lib.TopRanked Polis.Economy

/-! ## Records -/

/-- `MemoryType`. -/
inductive MemoryType where
  | observation | reflection | plan | semantic
  deriving DecidableEq

/-- `MemoryRecord`, but for its embedding. -/
structure MemoryRecord where
  memoryId : String
  agentId : String
  tick : Int
  type : MemoryType
  text : String
  importance : ℚ
  sourceEventSeq : Option Int := none
  parentMemoryIds : List String := []
  subjectIds : List String := []
  lastAccessedTick : Int := 0
  accessCount : Nat := 0
  archived : Bool := false

/-- `ReflectionInsight`. -/
structure ReflectionInsight where
  statement : String
  supportedBy : List String
  importance : ℚ

/-- `MemorySettings`, and `0.995 ** (ticks / 24)`. -/
structure MemorySettings where
  writeThreshold : ℚ := 25 / 100
  maxPerAgent : Int := 3000
  decay : Int → ℚ

/-- What the store reads and changes of an `AgentState`. -/
structure MemoryAgent where
  agentId : String
  importanceSinceReflection : ℚ := 0
  identitySummary : String := ""
  lastReflectionTick : Int := 0

/-- `MemoryStore`; a read of a missing list or number is the empty one. -/
structure MemoryStore where
  rows : Dict String MemoryRecord := ∅
  byAgent : Dict String (List String) := ∅
  nextId : Dict String Nat := ∅

abbrev MemoryM := EStateM PyError MemoryStore

namespace MemoryStore

/-- `_by_agent[agent_id]`. -/
def idsOf (s : MemoryStore) (agentId : String) : List String := s.byAgent.getD agentId []

/-- `_next_id[agent_id]`. -/
def counted (s : MemoryStore) (agentId : String) : Nat := s.nextId.getD agentId 0

/-- The memories of an agent. -/
def memories (s : MemoryStore) (agentId : String) : List MemoryRecord :=
  (s.idsOf agentId).filterMap s.rows.get?

end MemoryStore

/-- `s.removeprefix(prefix)`. -/
def removePrefix (lead s : String) : String :=
  if lead.toList.isPrefixOf s.toList then String.ofList (s.toList.drop lead.toList.length) else s

/-- The name of an agent in the ids of its memories. -/
def nameOf (agentId : String) : String := removePrefix "ag_" agentId

/-- The id of the `n`-th memory of an agent. -/
def memoryIdOf (agentId : String) (n : Nat) : String :=
  "mem_" ++ nameOf agentId ++ "_" ++ zeroPad 6 n

/-- `tuple(sorted(set(ids)))`. -/
def sortedIds (ids : List String) : List String := ids.dedup.insertionSort (· ≤ ·)

@[simp] theorem mem_sortedIds {ids : List String} {x : String} : x ∈ sortedIds ids ↔ x ∈ ids := by
  unfold sortedIds
  rw [(List.perm_insertionSort _ _).mem_iff, List.mem_dedup]

@[simp] theorem sortedIds_sortedIds (ids : List String) : sortedIds (sortedIds ids) = sortedIds ids := by
  have hnodup : (sortedIds ids).Nodup :=
    (List.perm_insertionSort _ _).nodup_iff.mpr (List.nodup_dedup ids)
  have hsorted : (sortedIds ids).Pairwise (· ≤ ·) := List.pairwise_insertionSort _ _
  show (sortedIds ids).dedup.insertionSort (· ≤ ·) = _
  rw [hnodup.dedup]
  exact hsorted.insertionSort_eq

theorem memoryIdOf_injective {a b : String} {m n : Nat} (h : memoryIdOf a m = memoryIdOf b n) :
    nameOf a = nameOf b ∧ m = n := by
  have hlist := congrArg String.toList h
  unfold memoryIdOf at hlist
  simp only [String.toList_append, List.append_assoc] at hlist
  have htail := List.append_cancel_left hlist
  have hdigits : ∀ k, '_' ∉ (zeroPad 6 k).toList.reverse := by
    intro k hc
    exact absurd (isDigit_zeroPad (List.mem_reverse.mp hc)) (by decide)
  -- seen from the end, the digits stop at the first underscore
  have hback := congrArg List.reverse htail
  simp only [List.reverse_append, List.append_assoc] at hback
  have hcut : ∀ {xs ys us vs : List Char}, '_' ∉ xs → '_' ∉ us →
      xs ++ ("_".toList.reverse ++ ys) = us ++ ("_".toList.reverse ++ vs) → xs = us ∧ ys = vs := by
    intro xs
    induction xs with
    | nil =>
      intro ys us vs _ hus heq
      cases us with
      | nil => exact ⟨rfl, List.append_cancel_left heq⟩
      | cons u us =>
        obtain ⟨hu, -⟩ := List.cons.inj heq
        exact absurd (hu ▸ List.mem_cons_self) hus
    | cons x xs ih =>
      intro ys us vs hxs hus heq
      cases us with
      | nil =>
        obtain ⟨hx, -⟩ := List.cons.inj heq
        exact absurd (hx ▸ List.mem_cons_self) hxs
      | cons u us =>
        obtain ⟨hxu, hrest⟩ := List.cons.inj heq
        obtain ⟨htails, hends⟩ := ih (fun hc => hxs (List.mem_cons_of_mem _ hc))
          (fun hc => hus (List.mem_cons_of_mem _ hc)) hrest
        exact ⟨by rw [hxu, htails], hends⟩
  obtain ⟨hnumbers, hnames⟩ := hcut (hdigits m) (hdigits n) hback
  exact ⟨String.toList_injective (List.reverse_injective hnames),
    zeroPad_injective (String.toList_injective (List.reverse_injective hnumbers))⟩

/-! ## The operations -/

section Operations

variable (cfg : MemorySettings)

/-- The key memories are ranked by, the lowest to be forgotten first. -/
def evictionKey (tick : Int) (row : MemoryRecord) : ℚ ×ₗ String :=
  toLex ((6 / 10 * cfg.decay (tick - row.lastAccessedTick) + 4 / 10 * row.importance)
    * (if row.type = .reflection then 15 / 10 else 1), row.memoryId)

/-- `self._rows[memory_id] for memory_id in ids`. -/
def readRows (rows : Dict String MemoryRecord) : List String → Except PyError (List MemoryRecord)
  | [] => .ok []
  | id :: ids =>
    match rows.get? id with
    | none => .error (.key id)
    | some row => (readRows rows ids).map (row :: ·)

/-- `_evict`. -/
def evict (agentId : String) (tick : Int) : MemoryM Unit := do
  let s ← get
  let ids := s.idsOf agentId
  let overflow := (ids.length : Int) - cfg.maxPerAgent
  if overflow ≤ 0 then pure ()
  else do
    let rows ← liftE (readRows s.rows ids)
    let ranked := sortByKey (evictionKey cfg tick) rows
    let removed := (ranked.take overflow.toNat).map MemoryRecord.memoryId
    modify fun s => { s with
      byAgent := s.byAgent.put agentId (ids.filter fun id => id ∉ removed)
      rows := removed.foldl Dict.erase s.rows }

/-- What `write` makes of its arguments. -/
def newRow (agentId : String) (n : Nat) (tick : Int) (type : MemoryType) (text : String)
    (importance : ℚ) (sourceEventSeq : Option Int) (parents subjects : List String) : MemoryRecord :=
  { memoryId := memoryIdOf agentId n, agentId, tick, type, text
    importance := min 1 (max 0 importance)
    sourceEventSeq
    parentMemoryIds := parents
    subjectIds := sortedIds subjects
    lastAccessedTick := tick }

/-- A row is stored and listed. -/
def MemoryStore.add (s : MemoryStore) (agentId : String) (row : MemoryRecord) : MemoryStore :=
  { rows := s.rows.put row.memoryId row
    byAgent := s.byAgent.put agentId (s.idsOf agentId ++ [row.memoryId])
    nextId := s.nextId.put agentId (s.counted agentId + 1) }

/-- `write`. -/
def write (agentId : String) (tick : Int) (type : MemoryType) (text : String) (importance : ℚ)
    (sourceEventSeq : Option Int) (parentMemoryIds subjectIds : List String) :
    MemoryM MemoryRecord := do
  let s ← get
  let parents := sortedIds parentMemoryIds
  if ∃ p ∈ parents, p ∉ s.idsOf agentId then
    throw (.value "memory cites a parent not owned by this agent")
  else do
    let row := newRow agentId (s.counted agentId + 1) tick type text importance sourceEventSeq
      parents subjectIds
    modify fun s => s.add agentId row
    evict cfg agentId tick
    pure row

/-- `maybe_write_observation`, with the agent it leaves. -/
def maybeWriteObservation (agent : MemoryAgent) (tick : Int) (text : String) (salience : ℚ)
    (sourceEventSeq : Option Int) (lifeEvent : Bool) :
    MemoryM (Option MemoryRecord × MemoryAgent) := do
  let importance := min 1 (15 / 100 + salience * (85 / 100))
  if lifeEvent = false ∧ salience ≤ cfg.writeThreshold then pure (none, agent)
  else do
    let row ← write cfg agent.agentId tick .observation text importance sourceEventSeq [] []
    pure (some row, { agent with
      importanceSinceReflection := agent.importanceSinceReflection + row.importance })

/-- An insight that `apply_reflection` writes: it cites something, and what it
cites was owned. -/
def Supported (owned : List String) (insight : ReflectionInsight) : Prop :=
  sortedIds insight.supportedBy ≠ [] ∧ ∀ m ∈ sortedIds insight.supportedBy, m ∈ owned

instance (owned : List String) (insight : ReflectionInsight) :
    Decidable (Supported owned insight) := inferInstanceAs (Decidable (_ ∧ _))

/-- `apply_reflection`, with the agent it leaves. -/
def applyReflection (agent : MemoryAgent) (tick : Int) (insights : List ReflectionInsight)
    (identitySummary : String) : MemoryM (List MemoryRecord × MemoryAgent) := do
  let s ← get
  let owned := s.idsOf agent.agentId
  let accepted ← gather (fun insight => onlyIf (Supported owned insight) do
    let row ← write cfg agent.agentId tick .reflection insight.statement insight.importance none
      (sortedIds insight.supportedBy) []
    pure [row]) insights
  pure (accepted, if accepted = [] then agent else
    { agent with
      identitySummary
      lastReflectionTick := tick
      importanceSinceReflection := 0 })

/-- `archive_agent`. -/
def archiveAgent (agentId : String) : MemoryM Nat := do
  let s ← get
  let rows ← liftE (readRows s.rows (s.idsOf agentId))
  let active := rows.filter fun row => row.archived = false
  modify fun s => { s with
    rows := active.foldl (fun d row => d.put row.memoryId { row with archived := true }) s.rows }
  pure active.length

end Operations

/-! ## Sound stores -/

/-- No two agents have one name. -/
def DistinctNames (agents : List String) : Prop :=
  ∀ a ∈ agents, ∀ b ∈ agents, nameOf a = nameOf b → a = b

instance (agents : List String) : Decidable (DistinctNames agents) :=
  inferInstanceAs (Decidable (∀ a ∈ agents, ∀ b ∈ agents, nameOf a = nameOf b → a = b))

/-- What a store keeps between calls: every memory is listed once, with its
agent, under an id that was counted. -/
structure Sound (agents : List String) (s : MemoryStore) : Prop where
  listed : ∀ a, ∀ id ∈ s.idsOf a, ∃ row, s.rows.get? id = some row ∧ row.agentId = a
  stored : ∀ id row, s.rows.get? id = some row → row.memoryId = id ∧ id ∈ s.idsOf row.agentId
  once : ∀ a, (s.idsOf a).Nodup
  minted : ∀ a, ∀ id ∈ s.idsOf a, ∃ n, n ≤ s.counted a ∧ id = memoryIdOf a n
  known : ∀ a, s.idsOf a ≠ [] → a ∈ agents

/-- No agent has more memories than the settings allow. -/
def Capped (cfg : MemorySettings) (s : MemoryStore) : Prop :=
  ∀ a, ((s.idsOf a).length : Int) ≤ cfg.maxPerAgent

theorem sound_empty (agents : List String) : Sound agents {} where
  listed := fun a id h => by cases h
  stored := fun id row h => by cases h
  once := fun a => List.nodup_nil
  minted := fun a id h => by cases h
  known := fun a h => absurd rfl h

theorem idsOf_put (s : MemoryStore) (agentId a : String) (ids : List String) :
    (s.byAgent.put agentId ids).getD a [] = if a = agentId then ids else s.idsOf a := by
  unfold MemoryStore.idsOf Dict.getD
  rw [Dict.get?_put]
  split <;> rfl

section Sound

variable {cfg : MemorySettings} {agents : List String} {s : MemoryStore}

theorem Sound.memories_ids (h : Sound agents s) (a : String) :
    (s.memories a).map MemoryRecord.memoryId = s.idsOf a := by
  have hall : ∀ ids : List String, (∀ id ∈ ids, ∃ row, s.rows.get? id = some row ∧ row.memoryId = id) →
      (ids.filterMap s.rows.get?).map MemoryRecord.memoryId = ids := by
    intro ids hids
    induction ids with
    | nil => rfl
    | cons id ids ih =>
      obtain ⟨row, hrow, hid⟩ := hids id List.mem_cons_self
      rw [List.filterMap_cons_some hrow, List.map_cons, hid,
        ih fun x hx => hids x (List.mem_cons_of_mem _ hx)]
  refine hall _ fun id hid => ?_
  obtain ⟨row, hrow, -⟩ := h.listed a id hid
  exact ⟨row, hrow, (h.stored id row hrow).1⟩

theorem Sound.length_memories (h : Sound agents s) (a : String) :
    (s.memories a).length = (s.idsOf a).length := by
  rw [← h.memories_ids a, List.length_map]

theorem Sound.mem_idsOf (h : Sound agents s) {a m : String} :
    m ∈ s.idsOf a ↔ ∃ row ∈ s.memories a, row.memoryId = m := by
  rw [← h.memories_ids a, List.mem_map]

theorem readRows_of_listed {rows : Dict String MemoryRecord} {ids : List String}
    (h : ∀ id ∈ ids, ∃ row, rows.get? id = some row) :
    readRows rows ids = .ok (ids.filterMap rows.get?) := by
  induction ids with
  | nil => rfl
  | cons id ids ih =>
    obtain ⟨row, hrow⟩ := h id List.mem_cons_self
    unfold readRows
    rw [hrow, ih fun x hx => h x (List.mem_cons_of_mem _ hx), List.filterMap_cons_some hrow]
    rfl

theorem Sound.readRows (h : Sound agents s) (a : String) :
    readRows s.rows (s.idsOf a) = .ok (s.memories a) := by
  refine readRows_of_listed fun id hid => ?_
  obtain ⟨row, hrow, -⟩ := h.listed a id hid
  exact ⟨row, hrow⟩

theorem Sound.keys_nodup (h : Sound agents s) (cfg : MemorySettings) (a : String) (tick : Int) :
    ((s.memories a).map (evictionKey cfg tick)).Nodup := by
  have hids : ((s.memories a).map MemoryRecord.memoryId).Nodup := by
    rw [h.memories_ids a]
    exact h.once a
  have hsnd : (s.memories a).map MemoryRecord.memoryId
      = ((s.memories a).map (evictionKey cfg tick)).map fun k => (ofLex k).2 := by
    rw [List.map_map]
    rfl
  rw [hsnd] at hids
  exact hids.of_map

theorem Sound.fresh (h : Sound agents s) (hnames : DistinctNames agents) {a : String}
    (ha : a ∈ agents) : s.rows.get? (memoryIdOf a (s.counted a + 1)) = none := by
  by_contra hsome
  obtain ⟨row, hrow⟩ := Option.ne_none_iff_exists'.mp hsome
  have hid := (h.stored _ row hrow).2
  obtain ⟨n, hn, heq⟩ := h.minted _ _ hid
  obtain ⟨hname, hnumber⟩ := memoryIdOf_injective heq
  have hagent : a = row.agentId :=
    hnames a ha row.agentId (h.known _ (List.ne_nil_of_mem hid)) hname
  rw [← hagent] at hn
  omega

/-! ## Forgetting -/

/-- What a call does to the memories of the other agents. -/
def Spared (agentId : String) (s s' : MemoryStore) : Prop :=
  ∀ b, b ≠ agentId → s'.idsOf b = s.idsOf b ∧ s'.memories b = s.memories b

theorem Sound.forget (h : Sound agents s) (agentId : String) (removed : List String)
    (hremoved : ∀ id ∈ removed, id ∈ s.idsOf agentId) {s' : MemoryStore}
    (hs' : s' = { s with
      byAgent := s.byAgent.put agentId ((s.idsOf agentId).filter fun id => id ∉ removed)
      rows := removed.foldl Dict.erase s.rows }) :
    Sound agents s' ∧ Spared agentId s s' ∧
      s'.memories agentId = (s.memories agentId).filter fun row => row.memoryId ∉ removed := by
  have hids : ∀ a, s'.idsOf a
      = if a = agentId then (s.idsOf agentId).filter (fun id => id ∉ removed) else s.idsOf a := by
    intro a
    rw [hs']
    exact idsOf_put s agentId a _
  have hrows : ∀ id, s'.rows.get? id = if id ∈ removed then none else s.rows.get? id := by
    intro id
    rw [hs']
    exact Dict.get?_eraseAll removed s.rows id
  -- an id that is left out is of this agent alone
  have hother : ∀ a, a ≠ agentId → ∀ id ∈ s.idsOf a, id ∉ removed := by
    intro a ha id hid hout
    obtain ⟨row, hrow, hagent⟩ := h.listed a id hid
    obtain ⟨row', hrow', hagent'⟩ := h.listed agentId id (hremoved id hout)
    rw [hrow] at hrow'
    cases hrow'
    exact ha (hagent.symm.trans hagent')
  have hmem : ∀ a, ∀ id ∈ s'.idsOf a, id ∈ s.idsOf a ∧ id ∉ removed := by
    intro a id hid
    rw [hids a] at hid
    split at hid
    · rename_i ha
      subst ha
      simpa using hid
    · rename_i ha
      exact ⟨hid, hother a ha id hid⟩
  refine ⟨?_, ?_, ?_⟩
  · constructor
    case listed =>
      intro a id hid
      obtain ⟨hin, hkept⟩ := hmem a id hid
      rw [hrows, if_neg hkept]
      exact h.listed a id hin
    case stored =>
      intro id row hrow
      rw [hrows] at hrow
      split at hrow
      · cases hrow
      · rename_i hkept
        obtain ⟨hname, hin⟩ := h.stored id row hrow
        refine ⟨hname, ?_⟩
        rw [hids]
        split
        · rename_i ha
          rw [ha] at hin
          simpa using ⟨hin, hkept⟩
        · exact hin
    case once =>
      intro a
      rw [hids]
      split
      · exact (h.once agentId).filter _
      · exact h.once a
    case minted =>
      intro a id hid
      obtain ⟨n, hn, heq⟩ := h.minted a id (hmem a id hid).1
      refine ⟨n, ?_, heq⟩
      rw [hs']
      exact hn
    case known =>
      intro a ha
      obtain ⟨id, hid⟩ := List.exists_mem_of_ne_nil _ ha
      exact h.known a (List.ne_nil_of_mem (hmem a id hid).1)
  · intro b hb
    have hsame : s'.idsOf b = s.idsOf b := by rw [hids, if_neg hb]
    refine ⟨hsame, ?_⟩
    unfold MemoryStore.memories
    rw [hsame]
    refine List.filterMap_congr fun id hid => ?_
    rw [hrows, if_neg (hother b hb id hid)]
  · unfold MemoryStore.memories
    rw [hids, if_pos rfl, List.filterMap_filter, List.filter_filterMap]
    refine List.filterMap_congr fun id hid => ?_
    obtain ⟨row, hrow, -⟩ := h.listed agentId id hid
    have hname := (h.stored id row hrow).1
    rw [hrows, hrow]
    by_cases hout : id ∈ removed
    · rw [if_neg (by simpa using hout)]
      simp [Option.filter, hname, hout]
    · rw [if_pos (by simpa using hout), if_neg hout]
      simp [Option.filter, hname, hout]

theorem evict_sound (h : Sound agents s) (hmax : 0 ≤ cfg.maxPerAgent) (agentId : String)
    (tick : Int) : ∃ s', evict cfg agentId tick s = .ok () s' ∧ Sound agents s' ∧
      s'.counted = s.counted ∧ Spared agentId s s' ∧
      s'.memories agentId
        = topRanked (evictionKey cfg tick) cfg.maxPerAgent.toNat (s.memories agentId) := by
  have hlength := h.length_memories agentId
  unfold evict
  rw [get_bind]
  dsimp only
  by_cases hfits : ((s.idsOf agentId).length : Int) - cfg.maxPerAgent ≤ 0
  · rw [if_pos hfits]
    refine ⟨s, rfl, h, rfl, fun _ _ => ⟨rfl, rfl⟩, ?_⟩
    rw [topRanked_of_length_le]
    omega
  · rw [if_neg hfits, h.readRows agentId]
    have hcut : (((s.idsOf agentId).length : Int) - cfg.maxPerAgent).toNat
        = (s.memories agentId).length - cfg.maxPerAgent.toNat := by omega
    rw [hcut]
    generalize hremoved : ((sortByKey (evictionKey cfg tick) (s.memories agentId)).take
      ((s.memories agentId).length - cfg.maxPerAgent.toNat)).map MemoryRecord.memoryId = removed
    have hin : ∀ id ∈ removed, id ∈ s.idsOf agentId := by
      intro id hid
      rw [← hremoved] at hid
      obtain ⟨row, hrow, rfl⟩ := List.mem_map.mp hid
      have hmem := (List.perm_insertionSort _ _).mem_iff.mp (List.mem_of_mem_take hrow)
      exact h.mem_idsOf.mpr ⟨row, hmem, rfl⟩
    obtain ⟨hsound, hspared, hkept⟩ := h.forget agentId removed hin rfl
    refine ⟨_, by rw [← hremoved]; rfl, hsound, rfl, hspared, ?_⟩
    rw [hkept]
    refine List.filter_congr fun row hrow => ?_
    have hkeys := h.keys_nodup cfg agentId tick
    have htake := mem_take_sorted_iff (m := cfg.maxPerAgent.toNat) hkeys (by omega) hrow
    -- a row is told by its id among the memories of an agent
    have hids : row.memoryId ∈ removed ↔ row ∈ (sortByKey (evictionKey cfg tick)
        (s.memories agentId)).take ((s.memories agentId).length - cfg.maxPerAgent.toNat) := by
      rw [← hremoved, List.mem_map]
      constructor
      · rintro ⟨other, hother, hname⟩
        have hmem := (List.perm_insertionSort _ _).mem_iff.mp (List.mem_of_mem_take hother)
        have hnodup : ((s.memories agentId).map MemoryRecord.memoryId).Nodup := by
          rw [h.memories_ids]
          exact h.once agentId
        rw [← List.inj_on_of_nodup_map hnodup hmem hrow hname]
        exact hother
      · exact fun hmem => ⟨row, hmem, rfl⟩
    rw [decide_eq_decide, hids, htake, not_not]

/-! ## Writing -/

theorem Sound.add (h : Sound agents s) (hnames : DistinctNames agents) {agentId : String}
    (ha : agentId ∈ agents) {row : MemoryRecord} (hagent : row.agentId = agentId)
    (hid : row.memoryId = memoryIdOf agentId (s.counted agentId + 1)) :
    Sound agents (s.add agentId row) ∧ Spared agentId s (s.add agentId row) ∧
      (s.add agentId row).memories agentId = s.memories agentId ++ [row] := by
  have hfresh : s.rows.get? row.memoryId = none := by
    rw [hid]
    exact h.fresh hnames ha
  have hids : ∀ a, (s.add agentId row).idsOf a
      = if a = agentId then s.idsOf agentId ++ [row.memoryId] else s.idsOf a :=
    fun a => idsOf_put s agentId a _
  have hcounted : ∀ a, (s.add agentId row).counted a
      = if a = agentId then s.counted agentId + 1 else s.counted a := by
    intro a
    show ((s.nextId.put agentId _).get? a).getD 0 = _
    rw [Dict.get?_put]
    split
    · rfl
    · rfl
  have hrows : ∀ id, (s.add agentId row).rows.get? id
      = if id = row.memoryId then some row else s.rows.get? id := fun id => Dict.get?_put _ _ _ _
  -- what is listed is stored, so it is not the new id
  have hnew : ∀ a, ∀ id ∈ s.idsOf a, id ≠ row.memoryId := by
    rintro a id hin rfl
    obtain ⟨other, hother, -⟩ := h.listed a _ hin
    rw [hfresh] at hother
    cases hother
  refine ⟨?_, ?_, ?_⟩
  · constructor
    case listed =>
      intro a id hin
      rw [hrows]
      split
      · rename_i heq
        refine ⟨row, rfl, ?_⟩
        rw [hids] at hin
        split at hin
        · rename_i haa
          rw [hagent, haa]
        · exact absurd heq (hnew a id hin)
      · rename_i hne
        rw [hids] at hin
        split at hin
        · rename_i haa
          subst haa
          rcases List.mem_append.mp hin with hin | hin
          · exact h.listed a id hin
          · exact absurd (List.mem_singleton.mp hin) hne
        · exact h.listed a id hin
    case stored =>
      intro id other hother
      rw [hrows] at hother
      split at hother
      · rename_i heq
        cases hother
        refine ⟨heq.symm, ?_⟩
        rw [hids, if_pos hagent, heq]
        simp
      · obtain ⟨hname, hin⟩ := h.stored id other hother
        refine ⟨hname, ?_⟩
        rw [hids]
        split
        · rename_i haa
          rw [haa] at hin
          exact List.mem_append_left _ hin
        · exact hin
    case once =>
      intro a
      rw [hids]
      split
      · rw [List.nodup_append]
        refine ⟨h.once agentId, List.nodup_singleton _, ?_⟩
        intro x hx y hy
        rw [List.mem_singleton.mp hy]
        exact hnew agentId x hx
      · exact h.once a
    case minted =>
      intro a id hin
      rw [hids] at hin
      rw [hcounted]
      split at hin
      · rename_i haa
        subst haa
        rw [if_pos rfl]
        rcases List.mem_append.mp hin with hin | hin
        · obtain ⟨n, hn, heq⟩ := h.minted a id hin
          exact ⟨n, by omega, heq⟩
        · exact ⟨_, le_rfl, (List.mem_singleton.mp hin).trans hid⟩
      · rename_i haa
        rw [if_neg haa]
        exact h.minted a id hin
    case known =>
      intro a hne
      rw [hids] at hne
      split at hne
      · rename_i haa
        rw [haa]
        exact ha
      · exact h.known a hne
  · intro b hb
    have hsame : (s.add agentId row).idsOf b = s.idsOf b := by rw [hids, if_neg hb]
    refine ⟨hsame, ?_⟩
    unfold MemoryStore.memories
    rw [hsame]
    refine List.filterMap_congr fun id hin => ?_
    rw [hrows, if_neg (hnew b id hin)]
  · unfold MemoryStore.memories
    rw [hids, if_pos rfl, List.filterMap_append]
    have hold : (s.idsOf agentId).filterMap (s.add agentId row).rows.get?
        = (s.idsOf agentId).filterMap s.rows.get? := by
      refine List.filterMap_congr fun id hin => ?_
      rw [hrows, if_neg (hnew agentId id hin)]
    rw [hold, List.filterMap_cons_some (by rw [hrows, if_pos rfl]), List.filterMap_nil]

theorem Capped.written (h : Capped cfg s) (hmax : 0 ≤ cfg.maxPerAgent) {s' : MemoryStore}
    (hs' : Sound agents s') {agentId : String} {tick : Int} {rows : List MemoryRecord}
    (hspared : Spared agentId s s')
    (hkept : s'.memories agentId = topRanked (evictionKey cfg tick) cfg.maxPerAgent.toNat rows)
    (hkeys : (rows.map (evictionKey cfg tick)).Nodup) : Capped cfg s' := by
  intro a
  by_cases ha : a = agentId
  · subst ha
    have hlength := length_topRanked_le (m := cfg.maxPerAgent.toNat) hkeys
    rw [← hkept, hs'.length_memories] at hlength
    omega
  · rw [(hspared a ha).1]
    exact h a

theorem write_sound (h : Sound agents s) (hnames : DistinctNames agents)
    (hmax : 0 ≤ cfg.maxPerAgent) {agentId : String} (ha : agentId ∈ agents) (tick : Int)
    (type : MemoryType) (text : String) (importance : ℚ) (sourceEventSeq : Option Int)
    (parents subjects : List String) :
    (¬(∀ p ∈ parents, p ∈ s.idsOf agentId) ∧
      write cfg agentId tick type text importance sourceEventSeq parents subjects s
        = .error (.value "memory cites a parent not owned by this agent") s) ∨
    ((∀ p ∈ parents, p ∈ s.idsOf agentId) ∧ ∃ row s', row = newRow agentId (s.counted agentId + 1)
        tick type text importance sourceEventSeq (sortedIds parents) subjects ∧
      write cfg agentId tick type text importance sourceEventSeq parents subjects s = .ok row s' ∧
      Sound agents s' ∧ (Capped cfg s → Capped cfg s') ∧ Spared agentId s s' ∧
      s'.counted agentId = s.counted agentId + 1 ∧
      s'.memories agentId = topRanked (evictionKey cfg tick) cfg.maxPerAgent.toNat
        (s.memories agentId ++ [row])) := by
  unfold write
  rw [get_bind]
  dsimp only
  by_cases howned : ∀ p ∈ parents, p ∈ s.idsOf agentId
  · right
    refine ⟨howned, ?_⟩
    have hnone : ¬∃ p ∈ sortedIds parents, p ∉ s.idsOf agentId := by
      rintro ⟨p, hp, hout⟩
      exact hout (howned p (mem_sortedIds.mp hp))
    rw [if_neg hnone]
    generalize hrow : newRow agentId (s.counted agentId + 1) tick type text importance sourceEventSeq
      (sortedIds parents) subjects = row
    have hagent : row.agentId = agentId := by rw [← hrow]; rfl
    have hid : row.memoryId = memoryIdOf agentId (s.counted agentId + 1) := by rw [← hrow]; rfl
    obtain ⟨hsound, hspared, hmemories⟩ := h.add hnames ha hagent hid
    obtain ⟨s', hevict, hsound', hcounted, hspared', hkept⟩ := evict_sound hsound hmax agentId tick
    have hothers : Spared agentId s s' := fun b hb =>
      ⟨(hspared' b hb).1.trans (hspared b hb).1, (hspared' b hb).2.trans (hspared b hb).2⟩
    refine ⟨row, s', rfl, ?_, hsound', ?_, hothers, ?_, ?_⟩
    · rw [bind_of_ok (a := PUnit.unit) (modify_eq_ok.mpr rfl), bind_of_ok hevict]
      rfl
    · exact fun hcap => hcap.written hmax hsound' hothers hkept (hsound.keys_nodup cfg agentId tick)
    · rw [hcounted]
      show ((s.nextId.put agentId _).get? agentId).getD 0 = _
      rw [Dict.get?_put_self]
      rfl
    · rw [hkept, hmemories]
  · left
    refine ⟨howned, ?_⟩
    have hsome : ∃ p ∈ sortedIds parents, p ∉ s.idsOf agentId := by
      by_contra hnone
      refine howned fun p hp => ?_
      by_contra hout
      exact hnone ⟨p, mem_sortedIds.mpr hp, hout⟩
    rw [if_pos hsome]
    rfl

/-! ## Archiving -/

/-- The same memories are stored for the same agents. -/
def SameRows (d d' : Dict String MemoryRecord) : Prop :=
  ∀ id, (d'.get? id).map (fun row => (row.memoryId, row.agentId))
    = (d.get? id).map fun row => (row.memoryId, row.agentId)

omit cfg agents s in
theorem sameRows_archived {d : Dict String MemoryRecord} {active : List MemoryRecord}
    (h : ∀ row ∈ active, ∃ old, d.get? row.memoryId = some old ∧ old.memoryId = row.memoryId ∧
      old.agentId = row.agentId) :
    SameRows d (active.foldl (fun d row => d.put row.memoryId { row with archived := true }) d) := by
  induction active generalizing d with
  | nil => exact fun _ => rfl
  | cons row rest ih =>
    obtain ⟨old, hold, hid, hagent⟩ := h row List.mem_cons_self
    -- the row that is put back is that of the same memory
    have hput : SameRows d (d.put row.memoryId { row with archived := true }) := by
      intro id
      rw [Dict.get?_put]
      split
      · rename_i heq
        rw [heq, hold]
        simp [hid, hagent]
      · rfl
    have hrest := ih (d := d.put row.memoryId { row with archived := true }) (by
      intro other hother
      obtain ⟨o, ho, hoid, hoagent⟩ := h other (List.mem_cons_of_mem _ hother)
      rw [Dict.get?_put]
      split
      · rename_i heq
        rw [heq, hold] at ho
        cases ho
        exact ⟨_, rfl, heq.symm, hagent.symm.trans hoagent⟩
      · exact ⟨o, ho, hoid, hoagent⟩)
    exact fun id => (hrest id).trans (hput id)

theorem Sound.sameRows (h : Sound agents s) {rows : Dict String MemoryRecord}
    (hrows : SameRows s.rows rows) : Sound agents { s with rows := rows } where
  listed := by
    intro a id hid
    obtain ⟨row, hrow, hagent⟩ := h.listed a id hid
    have hsame := hrows id
    rw [hrow] at hsame
    obtain ⟨new, hnew, heq⟩ := Option.map_eq_some_iff.mp hsame
    exact ⟨new, hnew, (congrArg Prod.snd heq).trans hagent⟩
  stored := by
    intro id row hrow
    have hsame := hrows id
    rw [show rows.get? id = some row from hrow] at hsame
    obtain ⟨old, hold, heq⟩ := Option.map_eq_some_iff.mp hsame.symm
    obtain ⟨hname, hin⟩ := h.stored id old hold
    have hagent : old.agentId = row.agentId := congrArg Prod.snd heq
    refine ⟨(congrArg Prod.fst heq).symm.trans hname, ?_⟩
    rw [← hagent]
    exact hin
  once := h.once
  minted := h.minted
  known := h.known

theorem archive_sound (h : Sound agents s) (agentId : String) :
    ∃ n s', archiveAgent agentId s = .ok n s' ∧ Sound agents s' ∧ s'.byAgent = s.byAgent := by
  unfold archiveAgent
  rw [get_bind, h.readRows agentId]
  refine ⟨_, _, rfl, h.sameRows (sameRows_archived fun row hrow => ?_), rfl⟩
  have hmem := (List.mem_filter.mp hrow).1
  obtain ⟨id, hid, hget⟩ := List.mem_filterMap.mp hmem
  have hname := (h.stored id row hget).1
  exact ⟨row, by rw [hname]; exact hget, rfl, rfl⟩

end Sound

end Polis.Agents
