/-
  Polis.Kernel.Restore — restores over runs of a checkpoint manager
  (`kernel/checkpoint.py`, `store/blobs.py`).

  The key of a blob is what follows the first directory named `checkpoints`
  in its URI, so below a root with such a directory no blob is found again.
  A component is loaded before the next one is looked up, so a restore that
  stops at a later component leaves the earlier ones loaded.

  Main results:
    * `Run.kept` — what the blob of every record holds.
    * `restore_sound_iff` — when a restore is exact or refuses, and succeeds
      on an intact blob.
-/
import Polis.Kernel.Checkpoint

namespace Polis.Kernel

open Lib Lib.Bytes Lib.Effect Lib.SlashText Polis.Events Polis.Store

/-- What the components dumped at each write. -/
abbrev Dumps := RunId × Int → Option (Dict String Value)

theorem keyed_payload (components : List Component) :
    (Value.dict (payload components).entries).Keyed := by
  refine ⟨(payload components).nodup, Value.membersKeyed_iff.mpr fun e he => ?_⟩
  -- a value of the payload is one that was put
  have hput : ∀ (cs : List Component) (d : Dict String Value), (∀ v ∈ d.values, v.Keyed) →
      ∀ v ∈ ((cs.map fun c => (c.name, c.dump)).foldl (fun d e => d.put e.1 e.2) d).values,
        v.Keyed := by
    intro cs
    induction cs with
    | nil => exact fun d hd => hd
    | cons c cs ih =>
      intro d hd
      apply ih
      intro v hv
      obtain ⟨k, hk⟩ := Dict.mem_values_iff.mp hv
      rw [Dict.get?_put] at hk
      split at hk
      · cases hk
        exact c.keyed
      · exact hd v (Dict.mem_values_of_get? hk)
  exact hput _ ∅ (by simp) e.2 (List.mem_map_of_mem he)

section Runs

variable [Zlib] [JsonReader] [Sha256] (M : CheckpointManager)

namespace CheckpointManager

/-- A run of the manager: writes, and blobs that are lost or altered, with no
collision of digests.  Before it no file lies deeper below the root than the
blobs do. -/
inductive Run : CheckpointState → Dumps → Prop
  | start (disk : Disk) (shallow : ∀ a b c names,
      disk (M.blobs.root ++ CHECKPOINTS :: a :: b :: c :: names) = none) :
      Run { disk } fun _ => none
  | write {s s' : CheckpointState} {w : Dumps} {runId : RunId} {tick lastSeq : Int}
      {chainHash : String} {components : List Component} {checkpoint : Checkpoint}
      (earlier : Run s w)
      (written : M.write runId tick lastSeq chainHash components s = .ok checkpoint s') :
      Run s' (Function.update w (runId, tick) (some (payload components)))
  | damage {s : CheckpointState} {w : Dumps} {runId : RunId} {tick : Int}
      {dumps : Dict String Value} (earlier : Run s w) (recorded : w (runId, tick) = some dumps)
      (blob : Option ByteString)
      (sha : ∀ data found raw, blob = some data → M.unpack data = some found →
        CanonicalJson.canonicalBytes (Value.dict dumps.entries) = some raw →
        NoCollision found raw) :
      Run { s with disk := Function.update s.disk (M.blobPath runId tick) blob } w

/-- The blob of a checkpoint holds what was written. -/
def Intact (s : CheckpointState) (runId : RunId) (tick : Int) (dumps : Dict String Value) : Prop :=
  ∃ data raw, s.disk (M.blobPath runId tick) = some data ∧ M.unpack data = some raw ∧
    CanonicalJson.canonicalBytes (Value.dict dumps.entries) = some raw

/-- What a restore promises: it returns with every component loaded with what
the component of its name dumped, or raises with nothing loaded; and it
returns when the blob is intact and every component accepts its value. -/
structure RestoreSound (s : CheckpointState) (w : Dumps) (runId : RunId) (tick : Int)
    (components : List Component) : Prop where
  exact : ∀ checkpoint loads, M.restore s runId tick components [] = .ok checkpoint loads →
    ∃ dumps, w (runId, tick) = some dumps ∧ List.Forall₂ (Received dumps) components loads
  refused : ∀ e loads, M.restore s runId tick components [] = .error e loads → loads = []
  succeeds : ∀ dumps, w (runId, tick) = some dumps → M.Intact s runId tick dumps →
    (∀ c ∈ components, Accepts dumps c) →
    ∃ checkpoint loads, M.restore s runId tick components [] = .ok checkpoint loads

/-! ## What a run keeps -/

/-- What the record of a write says, and that its blob, if there is one, does
not collide with what was written. -/
def RecordKept (s : CheckpointState) (runId : RunId) (tick : Int) (dumps : Dict String Value) :
    Prop :=
  ∃ checkpoint raw, s.records.get? (runId, tick) = some checkpoint ∧
    (Value.dict dumps.entries).Keyed ∧
    CanonicalJson.canonicalBytes (Value.dict dumps.entries) = some raw ∧
    checkpoint.uri = asUri (M.blobPath runId tick) ∧
    checkpoint.payloadHash = hex (Events.Sha256.digest raw) ∧
    ∀ data found, s.disk (M.blobPath runId tick) = some data → M.unpack data = some found →
      NoCollision found raw

structure Kept (s : CheckpointState) (w : Dumps) : Prop where
  unwritten : ∀ runId tick, w (runId, tick) = none → s.records.get? (runId, tick) = none
  written : ∀ runId tick dumps, w (runId, tick) = some dumps → M.RecordKept s runId tick dumps
  shallow : ∀ a b c names, s.disk (M.blobs.root ++ CHECKPOINTS :: a :: b :: c :: names) = none

omit [JsonReader] [Sha256] in
theorem unpack_pack (raw : ByteString) : M.unpack (M.pack raw) = some raw := by
  unfold unpack pack
  split
  · exact Zlib.decompress_compress raw
  · rfl

omit [Zlib] [JsonReader] [Sha256] in
theorem blobPath_shallow (runId : RunId) (tick : Int) (a b c : ByteString)
    (names : List ByteString) :
    M.blobs.root ++ CHECKPOINTS :: a :: b :: c :: names ≠ M.blobPath runId tick := by
  intro heq
  have hlen := congrArg List.length heq
  unfold blobPath blobNames at hlen
  simp at hlen

theorem write_ok {s s' : CheckpointState} {runId : RunId} {tick lastSeq : Int} {chainHash : String}
    {components : List Component} {checkpoint : Checkpoint}
    (h : M.write runId tick lastSeq chainHash components s = .ok checkpoint s') :
    ∃ raw, CanonicalJson.canonicalBytes (Value.dict (payload components).entries) = some raw ∧
      checkpoint.uri = asUri (M.blobPath runId tick) ∧
      checkpoint.payloadHash = hex (Events.Sha256.digest raw) ∧
      s'.disk = Function.update s.disk (M.blobPath runId tick) (some (M.pack raw)) ∧
      s'.records = s.records.put (runId, tick) checkpoint := by
  unfold write at h
  rw [get_bind] at h
  obtain ⟨raw, t, hraw, h⟩ := bind_eq_ok.mp h
  obtain ⟨hsome, rfl⟩ := orRaise_eq_ok.mp hraw
  have hpath : M.blobs.path (M.key runId tick) = .ok (M.blobPath runId tick) := by
    rw [M.key_eq]
    exact path_joined _ (M.blobNames_name runId tick) (by simp [blobNames])
  have hput : M.blobs.put s.disk (M.key runId tick) (M.pack raw) = .ok
      (asUri (M.blobPath runId tick),
        Function.update s.disk (M.blobPath runId tick) (some (M.pack raw))) := by
    unfold LocalBlobStore.put
    rw [hpath]
    rfl
  obtain ⟨stored, u, hstored, h⟩ := bind_eq_ok.mp h
  obtain ⟨hstored, rfl⟩ := liftE_eq_ok.mp hstored
  rw [hput] at hstored
  cases hstored
  obtain ⟨_, v, hset, h⟩ := bind_eq_ok.mp h
  obtain ⟨rfl, rfl⟩ := pure_eq_ok.mp h
  cases set_eq_ok.mp hset
  exact ⟨raw, hsome, rfl, rfl, rfl, rfl⟩

theorem write_returns (s : CheckpointState) (runId : RunId) (tick lastSeq : Int) (chainHash : String)
    {components : List Component} {raw : ByteString}
    (h : CanonicalJson.canonicalBytes (Value.dict (payload components).entries) = some raw) :
    ∃ checkpoint s', M.write runId tick lastSeq chainHash components s = .ok checkpoint s' := by
  have hpath : M.blobs.path (M.key runId tick) = .ok (M.blobPath runId tick) := by
    rw [M.key_eq]
    exact path_joined _ (M.blobNames_name runId tick) (by simp [blobNames])
  unfold write LocalBlobStore.put
  rw [get_bind, bind_of_ok (orRaise_eq_ok.mpr ⟨h, rfl⟩), hpath]
  exact ⟨_, _, rfl⟩

theorem Run.kept {M : CheckpointManager} {s : CheckpointState} {w : Dumps} (h : M.Run s w) :
    M.Kept s w := by
  induction h with
  | start disk shallow =>
    exact ⟨fun _ _ _ => rfl, fun _ _ _ hnone => (by cases hnone), shallow⟩
  | @write s s' w runId tick lastSeq chainHash components checkpoint _ written ih =>
    obtain ⟨raw, hraw, huri, hhash, hdisk, hrecords⟩ := M.write_ok written
    refine ⟨?_, ?_, ?_⟩
    · intro r t hnone
      have hne : (r, t) ≠ (runId, tick) := by
        rintro heq
        rw [heq, Function.update_self] at hnone
        cases hnone
      rw [Function.update_of_ne hne] at hnone
      rw [hrecords, Dict.get?_put_of_ne hne]
      exact ih.unwritten r t hnone
    · intro r t dumps hsome
      by_cases heq : (r, t) = (runId, tick)
      · cases heq
        rw [Function.update_self] at hsome
        cases hsome
        refine ⟨checkpoint, raw, ?_, keyed_payload components, hraw, huri, hhash, ?_⟩
        · rw [hrecords, Dict.get?_put, if_pos rfl]
        · -- the blob is the packed text itself
          intro data found hdata hfound
          rw [hdisk, Function.update_self] at hdata
          cases hdata
          rw [M.unpack_pack] at hfound
          cases hfound
          exact fun _ => rfl
      · rw [Function.update_of_ne heq] at hsome
        obtain ⟨cp, old, hget, hkeyed, hold, huri', hhash', hsha⟩ := ih.written r t dumps hsome
        have hpath : M.blobPath r t ≠ M.blobPath runId tick := by
          intro hsame
          obtain ⟨rfl, rfl⟩ := M.blobPath_injective hsame
          exact heq rfl
        refine ⟨cp, old, ?_, hkeyed, hold, huri', hhash', ?_⟩
        · rw [hrecords, Dict.get?_put_of_ne heq]
          exact hget
        · rw [hdisk, Function.update_of_ne hpath]
          exact hsha
    · intro a b c names
      rw [hdisk, Function.update_of_ne (M.blobPath_shallow runId tick a b c names)]
      exact ih.shallow a b c names
  | @damage s w runId tick dumps _ recorded blob sha ih =>
    refine ⟨ih.unwritten, ?_, ?_⟩
    · intro r t ds hsome
      obtain ⟨cp, raw, hget, hkeyed, hraw, huri, hhash, hsha⟩ := ih.written r t ds hsome
      refine ⟨cp, raw, hget, hkeyed, hraw, huri, hhash, ?_⟩
      intro data found hdata hfound
      by_cases hsame : M.blobPath r t = M.blobPath runId tick
      · obtain ⟨rfl, rfl⟩ := M.blobPath_injective hsame
        rw [recorded] at hsome
        cases hsome
        have hblob : blob = some data := by
          have hread : Function.update s.disk (M.blobPath r t) blob (M.blobPath r t) = some data :=
            hdata
          rwa [Function.update_self] at hread
        exact sha data found raw hblob hfound hraw
      · have hread : Function.update s.disk (M.blobPath runId tick) blob (M.blobPath r t)
            = some data := hdata
        rw [Function.update_of_ne hsame] at hread
        exact hsha data found hread hfound
    · intro a b c names
      have hdisk : ({ s with disk := Function.update s.disk (M.blobPath runId tick) blob }
          : CheckpointState).disk = Function.update s.disk (M.blobPath runId tick) blob := rfl
      rw [hdisk, Function.update_of_ne (M.blobPath_shallow runId tick a b c names)]
      exact ih.shallow a b c names

/-! ## Restores -/

section Restores

variable {M} {s : CheckpointState} {w : Dumps} {runId : RunId} {tick : Int}
  {dumps : Dict String Value}

omit [Zlib] [JsonReader] [Sha256] in
theorem get_found (runId : RunId) (tick : Int) (hroot : CHECKPOINTS ∉ M.blobs.root) (disk : Disk) :
    M.blobs.get disk (asciiBytes "checkpoints/" ++
      afterFirst (asciiBytes "/checkpoints/") (asUri (M.blobPath runId tick)))
      = .ok (disk (M.blobPath runId tick)) := by
  have hpath : M.blobPath runId tick
      = M.blobs.root ++ CHECKPOINTS :: [asciiBytes (hex runId.bytes), M.fileName tick] := rfl
  have hkey := M.keyBehind_uri runId tick hpath (by simp) M.blobs.resolved hroot
  have hquote := M.blobNames_quote runId tick
  have hnames : ([asciiBytes (hex runId.bytes), M.fileName tick].map quote)
      = [asciiBytes (hex runId.bytes), M.fileName tick] := (List.cons.inj hquote).2
  rw [hkey, hnames, key_joined (by simp)]
  unfold LocalBlobStore.get
  have hpath := path_joined M.blobs (M.blobNames_name runId tick) (by simp [blobNames])
  show (M.blobs.path (joined SLASH (M.blobNames runId tick)) >>= _) = _
  rw [hpath]
  rfl

omit [Zlib] [JsonReader] [Sha256] in
theorem get_astray (runId : RunId) (tick : Int) {disk : Disk} (hroot : CHECKPOINTS ∈ M.blobs.root)
    (hshallow : ∀ a b c names, disk (M.blobs.root ++ CHECKPOINTS :: a :: b :: c :: names) = none) :
    M.blobs.get disk (asciiBytes "checkpoints/" ++
      afterFirst (asciiBytes "/checkpoints/") (asUri (M.blobPath runId tick))) = .ok none := by
  obtain ⟨above, below, hsplit, hout⟩ := List.eq_append_cons_of_mem hroot
  have hpath : M.blobPath runId tick
      = above ++ CHECKPOINTS :: (below ++ M.blobNames runId tick) := by
    unfold blobPath
    rw [hsplit, List.append_assoc, List.cons_append]
  have hall : ∀ name ∈ above ++ CHECKPOINTS :: below, IsName name := hsplit ▸ M.blobs.resolved
  have habove : ∀ name ∈ above, IsName name := fun name h => hall name (List.mem_append_left _ h)
  have hbelow : ∀ name ∈ (below ++ M.blobNames runId tick).map quote, IsName name := by
    intro name hname
    obtain ⟨plain, hplain, rfl⟩ := List.mem_map.mp hname
    rcases List.mem_append.mp hplain with hin | hin
    · exact (hall plain (List.mem_append_right _ (List.mem_cons_of_mem _ hin))).quote
    · exact (M.blobNames_name runId tick plain hin).quote
  have hne : (below ++ M.blobNames runId tick).map quote ≠ [] := by simp [blobNames]
  rw [M.keyBehind_uri runId tick hpath (by simp [blobNames]) habove hout, key_joined hne]
  unfold LocalBlobStore.get
  rw [path_joined M.blobs (List.forall_mem_cons.mpr ⟨by decide, hbelow⟩) (by simp)]
  -- the key has at least three names behind the first
  obtain ⟨a, b, c, names, hnames⟩ : ∃ a b c names,
      (below ++ M.blobNames runId tick).map quote = a :: b :: c :: names := by
    rw [List.map_append, M.blobNames_quote]
    rcases below with _ | ⟨_, _ | ⟨_, _ | ⟨_, _⟩⟩⟩
    · exact ⟨_, _, _, [], rfl⟩
    · exact ⟨_, _, _, _, rfl⟩
    · exact ⟨_, _, _, _, rfl⟩
    · exact ⟨_, _, _, _, rfl⟩
  rw [hnames]
  show Except.ok (disk _) = _
  rw [hshallow]

theorem restore_unwritten (h : M.Kept s w) (hnone : w (runId, tick) = none)
    (components : List Component) :
    ∃ e, M.restore s runId tick components [] = .error e [] := by
  unfold restore
  rw [h.unwritten runId tick hnone]
  exact ⟨_, rfl⟩

theorem restore_astray (h : M.Kept s w) (hsome : w (runId, tick) = some dumps)
    (hroot : CHECKPOINTS ∈ M.blobs.root) (components : List Component) :
    ∃ e, M.restore s runId tick components [] = .error e [] := by
  obtain ⟨cp, raw, hget, -, -, huri, -, -⟩ := h.written runId tick dumps hsome
  have hfound := get_astray runId tick hroot h.shallow
  unfold restore
  rw [hget, bind_of_ok (orRaise_eq_ok.mpr ⟨rfl, rfl⟩), huri, hfound]
  exact ⟨_, rfl⟩

theorem restore_damaged (h : M.Kept s w) (hsome : w (runId, tick) = some dumps)
    (hroot : CHECKPOINTS ∉ M.blobs.root) (hblob : ¬M.Intact s runId tick dumps)
    (components : List Component) :
    ∃ e, M.restore s runId tick components [] = .error e [] := by
  obtain ⟨cp, raw, hget, -, hraw, huri, hhash, hsha⟩ := h.written runId tick dumps hsome
  have hfound := get_found runId tick hroot s.disk
  unfold restore
  rw [hget, bind_of_ok (orRaise_eq_ok.mpr ⟨rfl, rfl⟩), huri, hfound]
  cases hdata : s.disk (M.blobPath runId tick) with
  | none => exact ⟨_, rfl⟩
  | some data =>
    cases hunpack : M.unpack data with
    | none =>
      refine ⟨CheckpointFault.zlib, ?_⟩
      show (orRaise (M.unpack data) CheckpointFault.zlib >>= _) ([] : Loads) = _
      rw [hunpack]
      rfl
    | some found =>
      have hdiffers : ¬hex (Events.Sha256.digest found) = cp.payloadHash := by
        intro hsame
        rw [hhash] at hsame
        have hraw' := hsha data found hdata hunpack (hex_inj hsame)
        exact hblob ⟨data, raw, hdata, hraw' ▸ hunpack, hraw⟩
      refine ⟨.py (.value "checkpoint payload hash mismatch"), ?_⟩
      show (orRaise (M.unpack data) CheckpointFault.zlib >>= _) ([] : Loads) = _
      rw [hunpack, bind_of_ok (orRaise_eq_ok.mpr ⟨rfl, rfl⟩)]
      unfold require
      rw [if_neg hdiffers]
      rfl

theorem restore_intact (h : M.Kept s w) (hsome : w (runId, tick) = some dumps)
    (hroot : CHECKPOINTS ∉ M.blobs.root) (hblob : M.Intact s runId tick dumps)
    (components : List Component) :
    ∃ checkpoint, M.restore s runId tick components [] = (do
      each (loadComponent (Value.dict dumps.entries).keySorted) components
      pure checkpoint : EStateM CheckpointFault Loads Checkpoint) [] := by
  obtain ⟨cp, raw, hget, hkeyed, hraw, huri, hhash, -⟩ := h.written runId tick dumps hsome
  obtain ⟨data, found, hdata, hunpack, hfound⟩ := hblob
  rw [hraw] at hfound
  cases hfound
  have hread := get_found runId tick hroot s.disk
  have hloads := JsonReader.loads_dumped _ _ hkeyed hraw
  refine ⟨cp, ?_⟩
  unfold restore
  rw [hget, bind_of_ok (orRaise_eq_ok.mpr ⟨rfl, rfl⟩), huri, hread, hdata]
  show (orRaise (M.unpack data) CheckpointFault.zlib >>= _) ([] : Loads) = _
  rw [hunpack, bind_of_ok (orRaise_eq_ok.mpr ⟨rfl, rfl⟩),
    bind_of_ok (a := ()) (require_eq_ok.mpr ⟨hhash.symm, rfl⟩), hloads,
    bind_of_ok (orRaise_eq_ok.mpr ⟨rfl, rfl⟩)]

/-- **When a restore is exact or refuses, and succeeds on an intact blob**: an
intact blob must have a component that refuses when the root has a directory
named `checkpoints`, and else must have none that refuses after another one
has loaded. -/
theorem restore_sound_iff (run : M.Run s w) (runId : RunId) (tick : Int)
    (components : List Component) :
    M.RestoreSound s w runId tick components ↔
      ∀ dumps, w (runId, tick) = some dumps → M.Intact s runId tick dumps →
        (CHECKPOINTS ∈ M.blobs.root → ∃ c ∈ components, ¬Accepts dumps c) ∧
        (CHECKPOINTS ∉ M.blobs.root → ∀ before c after, components = before ++ c :: after →
          (∀ d ∈ before, Accepts dumps d) → ¬Accepts dumps c → before = []) := by
  have hkept := run.kept
  -- a restore that raises with nothing loaded is exact, and refuses
  have hraised : (∃ e, M.restore s runId tick components [] = .error e []) →
      (M.RestoreSound s w runId tick components ↔ ∀ dumps, w (runId, tick) = some dumps →
        M.Intact s runId tick dumps → ∃ c ∈ components, ¬Accepts dumps c) := by
    rintro ⟨e, hrun⟩
    constructor
    · intro hsound dumps hsome hblob
      by_contra hall
      push Not at hall
      obtain ⟨cp, loads, hok⟩ := hsound.succeeds dumps hsome hblob hall
      rw [hrun] at hok
      cases hok
    · intro hall
      refine ⟨?_, ?_, ?_⟩
      · intro cp loads hok
        rw [hrun] at hok
        cases hok
      · intro e' loads herr
        rw [hrun] at herr
        cases herr
        rfl
      · intro dumps hsome hblob haccept
        obtain ⟨c, hc, hrefuse⟩ := hall dumps hsome hblob
        exact absurd (haccept c hc) hrefuse
  cases hw : w (runId, tick) with
  | none =>
    rw [hraised (restore_unwritten hkept hw components)]
    simp [hw]
  | some dumps =>
    by_cases hroot : CHECKPOINTS ∈ M.blobs.root
    · rw [hraised (restore_astray hkept hw hroot components)]
      simp [hw, hroot]
    · by_cases hblob : M.Intact s runId tick dumps
      · obtain ⟨cp, hrun⟩ := restore_intact hkept hw hroot hblob components
        constructor
        · rintro hsound ds hds -
          cases hds
          refine ⟨fun hin => absurd hin hroot, fun _ before c after hsplit hbefore hc => ?_⟩
          obtain ⟨e, new, hlen, hstop⟩ := loads_of_payload hbefore hc after []
          rw [hsplit, bind_of_error hstop, ← hsplit] at hrun
          have hnone := hsound.refused e _ hrun
          rw [List.nil_append] at hnone
          rw [hnone] at hlen
          exact List.length_eq_zero_iff.mp hlen.symm
        · intro hcond
          have hfirst := (hcond dumps rfl hblob).2 hroot
          by_cases hall : ∀ c ∈ components, Accepts dumps c
          · obtain ⟨new, hnew, hloop⟩ := loads_of_accepts hall []
            rw [bind_of_ok hloop] at hrun
            refine ⟨?_, ?_, fun _ _ _ _ => ⟨cp, _, hrun⟩⟩
            · intro cp' loads hok
              rw [hrun] at hok
              cases hok
              exact ⟨dumps, hw, hnew⟩
            · intro e loads herr
              rw [hrun] at herr
              cases herr
          · obtain ⟨before, c, after, hsplit, hbefore, hc⟩ := first_refusal hall
            obtain ⟨e, new, hlen, hstop⟩ := loads_of_payload hbefore hc after []
            rw [hsplit, bind_of_error hstop, ← hsplit] at hrun
            rw [hfirst before c after hsplit hbefore hc] at hlen
            have hnew : new = [] := List.length_eq_zero_iff.mp hlen
            rw [hnew] at hrun
            have hrefuses := (hraised ⟨e, hrun⟩).mpr fun ds hds _ => by
              rw [hw] at hds
              cases hds
              exact ⟨c, by rw [hsplit]; simp, hc⟩
            exact hrefuses
      · rw [hraised (restore_damaged hkept hw hroot hblob components)]
        constructor
        · rintro - ds hds hin
          cases hds
          exact absurd hin hblob
        · rintro - ds hds hin
          rw [hw] at hds
          cases hds
          exact absurd hin hblob

end Restores

end CheckpointManager

end Runs

/-! ## Closed runs -/

section Closed

open CheckpointManager

/-- `{"clock":3}` -/
def clockText : ByteString := asciiBytes "\x7b\"clock\":3\x7d"

/-- A JSON library that knows one value. -/
abbrev clockJson : JsonReader where
  canonicalBytes := fun v =>
    match v with
    | .dict [("clock", .int 3)] => some clockText
    | _ => none
  loads := fun b => if b = clockText then some (.dict [("clock", .int 3)]) else none
  loads_dumped := by
    intro v b _ h
    split at h
    · cases h
      exact if_pos rfl
    · cases h

/-- A `zlib` that stores. -/
abbrev storing : Zlib := ⟨fun b => b, some, fun _ => rfl⟩

attribute [local instance] clockJson storing hashlib

def clock : Component :=
  { name := "clock", dump := .int 3, keyed := trivial, load := fun _ => .ok () }

def rng : Component :=
  { name := "rng", dump := .int 7, keyed := trivial, load := fun _ => .ok () }

/-- A manager below a root of names. -/
def managerAt (root : Path) (resolved : ∀ name ∈ root, IsName name) : CheckpointManager :=
  { blobs := { root, resolved }, compress := false }

theorem clock_written (M : CheckpointManager) :
    ∃ s w, M.Run s w ∧ w (0, 5) = some (payload [clock]) ∧ M.Intact s 0 5 (payload [clock]) := by
  have hjson : CanonicalJson.canonicalBytes (Value.dict (payload [clock]).entries)
      = some clockText := rfl
  obtain ⟨cp, s, hwrite⟩ := M.write_returns { disk := fun _ => none } 0 5 11 "ab" hjson
  obtain ⟨raw, hraw, -, -, hdisk, -⟩ := M.write_ok hwrite
  refine ⟨s, _, (Run.start _ fun _ _ _ _ => rfl).write hwrite, Function.update_self .., ?_⟩
  exact ⟨M.pack raw, raw, by rw [hdisk, Function.update_self], M.unpack_pack raw, hraw⟩

theorem clock_accepts : Accepts (payload [clock]) clock := ⟨.int 3, rfl, rfl⟩

theorem rng_refuses : ¬Accepts (payload [clock]) rng := by
  rintro ⟨v, hget, -⟩
  cases hget

theorem clock_restored :
    ∃ s w, (managerAt [asciiBytes "data"] (by decide)).Run s w ∧
      (managerAt [asciiBytes "data"] (by decide)).RestoreSound s w 0 5 [clock] := by
  obtain ⟨s, w, hrun, hw, -⟩ := clock_written (managerAt [asciiBytes "data"] (by decide))
  refine ⟨s, w, hrun, (restore_sound_iff hrun 0 5 [clock]).mpr ?_⟩
  intro dumps hdumps _
  rw [hw] at hdumps
  cases hdumps
  refine ⟨fun hroot => absurd hroot (by decide), fun _ before c after hsplit _ hc => ?_⟩
  -- the only component is the clock
  have hmem : c ∈ [clock] := by
    rw [hsplit]
    simp
  rw [List.mem_singleton.mp hmem] at hc
  exact absurd clock_accepts hc

/-- Below `/data/checkpoints` an intact blob is not found again; and below
`/data` a clock stays loaded when the generator after it is missing. -/
theorem clock_lost_or_left_loaded :
    (∃ s w, (managerAt [asciiBytes "data", asciiBytes "checkpoints"] (by decide)).Run s w ∧
      ¬(managerAt [asciiBytes "data", asciiBytes "checkpoints"] (by decide)).RestoreSound s w 0 5
        [clock]) ∧
    (∃ s w, (managerAt [asciiBytes "data"] (by decide)).Run s w ∧
      ¬(managerAt [asciiBytes "data"] (by decide)).RestoreSound s w 0 5 [clock, rng]) := by
  constructor
  · obtain ⟨s, w, hrun, hw, hblob⟩ :=
      clock_written (managerAt [asciiBytes "data", asciiBytes "checkpoints"] (by decide))
    refine ⟨s, w, hrun, fun hsound => ?_⟩
    obtain ⟨e, herr⟩ := restore_astray hrun.kept hw (by decide) [clock]
    obtain ⟨cp, loads, hok⟩ := hsound.succeeds _ hw hblob (by simpa using clock_accepts)
    rw [herr] at hok
    cases hok
  · obtain ⟨s, w, hrun, hw, hblob⟩ := clock_written (managerAt [asciiBytes "data"] (by decide))
    refine ⟨s, w, hrun, fun hsound => ?_⟩
    obtain ⟨cp, herr⟩ := restore_intact hrun.kept hw (by decide) hblob [clock, rng]
    have hclock : ∀ c ∈ [clock], Accepts (payload [clock]) c := by simpa using clock_accepts
    obtain ⟨e, new, hlen, hstop⟩ := loads_of_payload hclock rng_refuses [] []
    have herr := herr.trans (bind_of_error hstop)
    have hnone := hsound.refused e _ herr
    rw [List.nil_append] at hnone
    rw [hnone] at hlen
    cases hlen

end Closed

end Polis.Kernel
