/-
  Polis.Llm.Cache — the completion cache (`llm/cache.py`).

  L0 lists its records from the least to the most recently used.  The
  completion file is a table by key; a row keeps a record's own fields, which
  their JSON text gives back as they were.

  Main results:
    * `mem_remember` — remembering a record adds that one and no other.
    * `get_replay` — a replaying lookup of a stored key finds its row.
-/
import Polis.Llm.Settings

namespace Polis.Llm

open Lib.Bytes
open Lib (Dict)
open Polis.Events (Sha256)

/-- `CacheRecord`. -/
structure CacheRecord where
  key : String
  renderedHash : String
  response : CompletionResponse
  costUsd : Rat := 0
  deriving Repr, DecidableEq

/-- A row of `completions`, by its key. -/
structure Row where
  schemaVersion : Int
  renderedHash : String
  response : CompletionResponse
  costUsd : Rat
  deriving Repr, DecidableEq

/-- The record a row holds. -/
def Row.record (row : Row) (key : String) : CacheRecord :=
  ⟨key, row.renderedHash, row.response, row.costUsd⟩

/-- `CompletionCache`. -/
structure CompletionCache where
  mode : CacheMode
  l0Entries : Nat
  verifyRender : Bool
  schemaVersion : Int
  strictVersion : Bool
  records : List CacheRecord := []
  manifest : Dict String String := ∅
  replayAccesses : Dict String Nat := ∅
  hits : Nat := 0
  misses : Nat := 0
  database : Dict String Row := ∅

/-- `asdict(response)`. -/
def CompletionResponse.asdict (r : CompletionResponse) : Json :=
  .dict [("text", .str r.text), ("tokens_in", .int r.tokensIn), ("tokens_out", .int r.tokensOut),
    ("tokens_cached_in", .int r.tokensCachedIn), ("model_version", .ofStr? r.modelVersion),
    ("provider_request_id", .ofStr? r.providerRequestId), ("latency_ms", .int r.latencyMs),
    ("finish_reason", .str r.finishReason)]

section Digests

variable [Sha256]

/-- `cache_key`. -/
def cacheKey (provider model : String) (modelVersion : Option String)
    (promptTemplateHash : String) (promptVariables : Json) (sampling : SamplingParams)
    (schemaHash : Option String) (callSeed : Nat) : Except LlmError String :=
  (canonicalBytes (.dict [
    ("provider", .str provider),
    ("model", .str model),
    ("model_version", .ofStr? modelVersion),
    ("template_hash", .str promptTemplateHash),
    ("variables", promptVariables),
    ("sampling", .dict [
      ("temperature", .float sampling.temperature),
      ("top_p", .float sampling.topP),
      ("max_tokens", .int sampling.maxTokens),
      ("stop", .list (sampling.stop.map .str)),
      ("seed", sampling.seed.elim .none fun n => .int n)]),
    ("schema_hash", .ofStr? schemaHash),
    ("call_seed", .int callSeed)])).map sha256Hex

variable [Host]

/-- What `_manifest_digest` hashes. -/
def manifestJson (renderedHash : String) (response : CompletionResponse) (costUsd : Rat) : Json :=
  .dict [("rendered_hash", .str renderedHash), ("response", response.asdict),
    ("cost_usd", .str (Host.decimalText costUsd))]

/-- `_manifest_digest`. -/
def manifestDigest (renderedHash : String) (response : CompletionResponse) (costUsd : Rat) :
    String :=
  sha256Hex (utf8 (manifestJson renderedHash response costUsd).text)

def CacheRecord.digest (r : CacheRecord) : String :=
  manifestDigest r.renderedHash r.response r.costUsd

def Row.digest (row : Row) : String :=
  manifestDigest row.renderedHash row.response row.costUsd

/-- The entry of the manifest a row yields: none where a cache that is not
strict passes over another version. -/
def loadManifestRow (settings : CacheSettings) (manifest : Dict String String)
    (e : String × Row) : Except LlmError (Dict String String) :=
  if e.2.schemaVersion ≠ settings.schemaVersion then
    if settings.strictVersion then
      .error (.cacheVersionMismatch ("cache record " ++ e.1 ++ " is schema "
        ++ toString e.2.schemaVersion ++ ", expected " ++ toString settings.schemaVersion))
    else .ok manifest
  else .ok (manifest.put e.1 e.2.digest)

/-- `CompletionCache.__init__` over the file that is there: a live run starts
cold. -/
def openCache (settings : CacheSettings) (file : Dict String Row) :
    Except LlmError CompletionCache := do
  let cache : CompletionCache :=
    { mode := settings.mode
      l0Entries := settings.l0Entries
      verifyRender := settings.verifyRender
      schemaVersion := settings.schemaVersion
      strictVersion := settings.strictVersion }
  if settings.mode = .live then return cache
  let manifest ← file.sortedEntries.foldlM (loadManifestRow settings) ∅
  return { cache with database := file, manifest := manifest }

end Digests

namespace CompletionCache

/-- `_records.get(key)`. -/
def record? (c : CompletionCache) (key : String) : Option CacheRecord :=
  c.records.find? fun r => r.key = key

/-- `_records.move_to_end(key)`, of a record that is there. -/
def moveToEnd (c : CompletionCache) (r : CacheRecord) : CompletionCache :=
  { c with records := c.records.filter (fun x => x.key ≠ r.key) ++ [r] }

section Operations

variable [Sha256] [Host]

/-- `_remember`. -/
def remember (r : CacheRecord) (c : CompletionCache) : CompletionCache :=
  let records := (c.moveToEnd r).records
  { c with
    records := records.drop (records.length - c.l0Entries)
    manifest := c.manifest.put r.key r.digest }

/-- `_load_persistent`. -/
def loadPersistent (key : String) (c : CompletionCache) :
    Except LlmError (Option CacheRecord) :=
  match c.database.get? key with
  | none => .ok none
  | some row =>
    if row.schemaVersion ≠ c.schemaVersion then
      if c.strictVersion then
        .error (.cacheVersionMismatch ("cache record " ++ key ++ " is schema "
          ++ toString row.schemaVersion ++ ", expected " ++ toString c.schemaVersion))
      else .ok none
    else .ok (some (row.record key))

/-- The record a lookup finds, in L0 or else in the file, which it then
remembers. -/
def find (key : String) (c : CompletionCache) :
    Except LlmError (Option CacheRecord × CompletionCache) :=
  match c.record? key with
  | some r => .ok (some r, c)
  | none =>
    if c.mode = .live then .ok (none, c)
    else
      match c.loadPersistent key with
      | .error e => .error e
      | .ok none => .ok (none, c)
      | .ok (some r) => .ok (some r, c.remember r)

/-- A record found is moved to the end and counted; a replay counts the
accesses to its key. -/
def touch (key : String) (r : CacheRecord) (c : CompletionCache) : CompletionCache :=
  { c.moveToEnd r with
    hits := c.hits + 1
    replayAccesses :=
      if c.mode = .replay then c.replayAccesses.put key (c.replayAccesses.getD key 0 + 1)
      else c.replayAccesses }

/-- `get`. -/
def get (key renderedHash : String) (c : CompletionCache) :
    Except LlmError (Option CacheRecord) × CompletionCache :=
  match c.find key with
  | .error e => (.error e, c)
  | .ok (none, c) =>
    let c := { c with misses := c.misses + 1 }
    if c.mode = .replay then (.error (.cacheMissInReplay key), c) else (.ok none, c)
  | .ok (some r, c) =>
    if c.verifyRender ∧ r.renderedHash ≠ renderedHash then (.error (.cacheRenderMismatch key), c)
    -- a cache that keeps no records forgot this one before it is moved
    else if (c.record? key).isNone then (.error (.key key), c)
    else (.ok (some r), c.touch key r)

/-- `reported_hit`. -/
def reportedHit (key : String) (c : CompletionCache) : Bool :=
  if c.mode = .replay then c.replayAccesses.getD key 0 > 1 else true

/-- `put`. -/
def put (r : CacheRecord) (c : CompletionCache) : CompletionCache :=
  if c.mode = .replay then c
  else
    { c.remember r with
      database := c.database.put r.key ⟨c.schemaVersion, r.renderedHash, r.response, r.costUsd⟩ }

/-- `manifest_hash`. -/
def manifestHash (c : CompletionCache) : String :=
  sha256Hex (utf8 (Json.dict (c.manifest.sort.entries.map fun e => (e.1, .str e.2))).text)

end Operations

/-! ## Lookups -/

theorem mem_of_record? {c : CompletionCache} {key : String} {r : CacheRecord}
    (h : c.record? key = some r) : r ∈ c.records ∧ r.key = key := by
  refine ⟨List.mem_of_find?_eq_some h, ?_⟩
  have := List.find?_some h
  simpa using this

theorem mem_moveToEnd {c : CompletionCache} {r x : CacheRecord}
    (h : x ∈ (c.moveToEnd r).records) : x = r ∨ x ∈ c.records := by
  simp only [moveToEnd, List.mem_append, List.mem_filter, List.mem_singleton] at h
  rcases h with h | h
  · exact .inr h.1
  · exact .inl h

section Lookups

variable [Sha256] [Host]

theorem mem_remember {c : CompletionCache} {r x : CacheRecord}
    (h : x ∈ (c.remember r).records) : x = r ∨ x ∈ c.records :=
  mem_moveToEnd (List.mem_of_mem_drop h)

theorem record?_remember {c : CompletionCache} (r : CacheRecord) (h : 1 ≤ c.l0Entries) :
    (c.remember r).record? r.key = some r := by
  have hlen : (c.records.filter (fun x => x.key ≠ r.key) ++ [r]).length - c.l0Entries ≤
      (c.records.filter (fun x => x.key ≠ r.key)).length := by
    simp only [List.length_append, List.length_singleton]
    omega
  have hrest : (c.records.filter (fun x => x.key ≠ r.key)).find? (fun x => x.key = r.key)
      = none := by
    rw [List.find?_eq_none]
    intro x hx
    simpa using (List.mem_filter.mp hx).2
  unfold remember record? moveToEnd
  simp only
  rw [List.drop_append_of_le_length hlen, List.find?_append]
  have hdrop : ∀ n, ((c.records.filter (fun x => x.key ≠ r.key)).drop n).find?
      (fun x => x.key = r.key) = none := by
    intro n
    rw [List.find?_eq_none] at hrest ⊢
    exact fun x hx => hrest x (List.mem_of_mem_drop hx)
  rw [hdrop]
  simp

theorem get_of_record? {c : CompletionCache} {key : String} {r : CacheRecord}
    (h : c.record? key = some r) (renderedHash : String) :
    c.get key renderedHash =
      if c.verifyRender ∧ r.renderedHash ≠ renderedHash then
        (.error (.cacheRenderMismatch key), c)
      else (.ok (some r), c.touch key r) := by
  simp [get, find, h]

theorem get_live_none {c : CompletionCache} {key : String} (hmode : c.mode = .live)
    (h : c.record? key = none) (renderedHash : String) :
    c.get key renderedHash = (.ok none, { c with misses := c.misses + 1 }) := by
  simp [get, find, h, hmode]

theorem put_live {c : CompletionCache} (hmode : c.mode = .live) (r : CacheRecord) :
    c.put r = { c.remember r with
      database := c.database.put r.key
        ⟨c.schemaVersion, r.renderedHash, r.response, r.costUsd⟩ } :=
  if_neg (by rw [hmode]; decide)

/-- What a lookup of a stored key leaves of a replaying cache. -/
structure Replayed (key : String) (row : Row) (c c' : CompletionCache) : Prop where
  mode : c'.mode = c.mode
  l0Entries : c'.l0Entries = c.l0Entries
  verifyRender : c'.verifyRender = c.verifyRender
  schemaVersion : c'.schemaVersion = c.schemaVersion
  database : c'.database = c.database
  records : ∀ x ∈ c'.records, x = row.record key ∨ x ∈ c.records
  accesses : c'.replayAccesses = c.replayAccesses.put key (c.replayAccesses.getD key 0 + 1)
  manifest : c'.manifest = c.manifest ∨ c'.manifest = c.manifest.put key row.digest

theorem get_replay {c : CompletionCache} {key renderedHash : String} {row : Row}
    (hmode : c.mode = .replay) (hl0 : 1 ≤ c.l0Entries) (hrow : c.database.get? key = some row)
    (hversion : row.schemaVersion = c.schemaVersion)
    (hrecords : ∀ r, c.record? key = some r → r = row.record key)
    (hrender : c.verifyRender = true → row.renderedHash = renderedHash) :
    ∃ c', c.get key renderedHash = (.ok (some (row.record key)), c') ∧
      Replayed key row c c' := by
  have hverify : ¬ (c.verifyRender = true ∧ (row.record key).renderedHash ≠ renderedHash) :=
    fun h => h.2 (hrender h.1)
  cases hr : c.record? key with
  | some r =>
    have hr' := hrecords r hr
    subst hr'
    refine ⟨c.touch key (row.record key), ?_, ?_⟩
    · rw [get_of_record? hr, if_neg hverify]
    · exact {
        mode := rfl, l0Entries := rfl, verifyRender := rfl, schemaVersion := rfl, database := rfl
        records := fun x hx => mem_moveToEnd hx
        accesses := if_pos hmode
        manifest := .inl rfl }
  | none =>
    have hload : c.loadPersistent key = .ok (some (row.record key)) := by
      simp [loadPersistent, hrow, hversion]
    have hfind : c.find key = .ok (some (row.record key), c.remember (row.record key)) := by
      simp [find, hr, hmode, hload]
    have hthere : (c.remember (row.record key)).record? key = some (row.record key) :=
      record?_remember (row.record key) hl0
    refine ⟨(c.remember (row.record key)).touch key (row.record key), ?_, ?_⟩
    · simp only [get, hfind, hthere]
      rw [if_neg (show ¬ ((c.remember (row.record key)).verifyRender = true ∧ _) from hverify)]
      simp
    · exact {
        mode := rfl, l0Entries := rfl, verifyRender := rfl, schemaVersion := rfl, database := rfl
        records := fun x hx => by
          rcases mem_moveToEnd hx with hx | hx
          · exact .inl hx
          · exact mem_remember hx
        accesses := if_pos hmode
        manifest := .inr rfl }

end Lookups

end CompletionCache

end Polis.Llm
