/-
  Polis.Gateway.Stream — the frames of one streaming connection
  (`gateway/stream.py`).

  A buffer never makes its writer wait: when it is full it gives up its oldest
  observation, or the observation that comes in, or its oldest frame, and
  counts what it gave up until a reader is told of it.

  `put`, the part of `get` after its wait, and `close` each run under one
  lock, so an interleaving is a list of calls; a `get` with nothing to return
  goes on waiting.

  Main results:
    * `Accounted.step` — one call keeps the account of the frames.
    * `put_gives_up` — another frame than an observation is given up only when
      the buffer is full of such frames.
    * `drained` — after `close`, every remaining frame is delivered first.
    * `stream_accounted` — the account over any interleaving.
-/
import Polis.Base
import Polis.Lib.Dict
import Polis.Lib.Runs

namespace Polis.Gateway

open Lib Lib.Runs

/-! ## The buffer -/

/-- A frame: a JSON object. -/
abbrev Frame := Dict String Value

/-- `frame.get("type") == "observation"`. -/
def Frame.isObservation (frame : Frame) : Bool :=
  match frame.get? "type" with
  | some (.str text) => text == "observation"
  | _ => false

/-- `BoundedFrameBuffer`. -/
structure BoundedFrameBuffer where
  maxFrames : Nat
  frames : List Frame := []
  droppedObservations : Nat := 0
  droppedFrames : Nat := 0
  closed : Bool := false

/-- What `get` returns. -/
inductive Got where
  | frame (frame : Frame)
  | notice (tick : Int) (observationsDropped framesDropped : Nat)
  | ended

/-- The object `get` returns, or `None`. -/
def Got.asFrame : Got → Option Frame
  | .frame sent => some sent
  | .notice tick observationsDropped framesDropped =>
    some (((((∅ : Frame).put "type" (.str "notice")).put "tick" (.int tick)).put "notice"
      (.str "degraded")).put "detail" (.dict [("reason", .str "backpressure"),
        ("observations_dropped", .int observationsDropped),
        ("frames_dropped", .int framesDropped)]))
  | .ended => none

namespace BoundedFrameBuffer

/-- `BoundedFrameBuffer(max_frames)`. -/
def new (maxFrames : Int := 64) : Except PyError BoundedFrameBuffer :=
  if maxFrames < 1 then .error (.value "max_frames must be positive")
  else .ok { maxFrames := maxFrames.toNat }

/-- `_drop_oldest_observation()`: the frames without it, if there is one. -/
def dropOldestObservation : List Frame → Option (List Frame)
  | [] => none
  | frame :: rest =>
    if frame.isObservation then some rest
    else (dropOldestObservation rest).map (frame :: ·)

/-- `put(frame)`. -/
def put (b : BoundedFrameBuffer) (frame : Frame) : BoundedFrameBuffer :=
  if b.closed then b
  else if b.maxFrames ≤ b.frames.length then
    match dropOldestObservation b.frames with
    | some kept =>
      { b with frames := kept ++ [frame], droppedObservations := b.droppedObservations + 1 }
    | none =>
      if frame.isObservation then { b with droppedObservations := b.droppedObservations + 1 }
      else { b with frames := b.frames.tail ++ [frame], droppedFrames := b.droppedFrames + 1 }
  else { b with frames := b.frames ++ [frame] }

/-- What `get` waits for. -/
def ready (b : BoundedFrameBuffer) : Bool :=
  b.closed || 0 < b.droppedObservations || 0 < b.droppedFrames || !b.frames.isEmpty

/-- `close()`. -/
def close (b : BoundedFrameBuffer) : BoundedFrameBuffer := { b with closed := true }

-- `toInt` is `int(value)` of a member of a frame
variable (toInt : Value → Except PyError Int)

/-- The tick of a notice: that of the first frame in the buffer. -/
def noticeTick (b : BoundedFrameBuffer) : Except PyError Int :=
  match b.frames with
  | frame :: _ => toInt (frame.getD "tick" (.int 0))
  | [] => .ok 0

/-- `get()`, once its wait is over. -/
def get (b : BoundedFrameBuffer) : Except PyError Got × BoundedFrameBuffer :=
  if b.droppedObservations ≠ 0 ∨ b.droppedFrames ≠ 0 then
    ((b.noticeTick toInt).map fun tick => .notice tick b.droppedObservations b.droppedFrames,
      { b with droppedObservations := 0, droppedFrames := 0 })
  else
    match b.frames with
    | frame :: rest => (.ok (.frame frame), { b with frames := rest })
    | [] => (.ok .ended, b)

end BoundedFrameBuffer

open BoundedFrameBuffer

/-! ## Interleavings -/

/-- A call under the lock of the buffer. -/
inductive Call where
  | put (frame : Frame)
  | get
  | close

/-- A connection: its buffer, the frames put before `close`, the number of
those put after it, and what `get` returned. -/
structure Connection where
  buffer : BoundedFrameBuffer
  accepted : List Frame := []
  refused : Nat := 0
  got : List Got := []

namespace Connection

/-- The frames delivered, in order. -/
def delivered (s : Connection) : List Frame :=
  s.got.filterMap fun | .frame sent => some sent | _ => none

/-- The observations reported as dropped. -/
def reportedObservations (s : Connection) : Nat :=
  (s.got.map fun | .notice _ observations _ => observations | _ => 0).sum

/-- The other frames reported as dropped. -/
def reportedFrames (s : Connection) : Nat :=
  (s.got.map fun | .notice _ _ frames => frames | _ => 0).sum

variable (toInt : Value → Except PyError Int)

/-- One call. -/
def step (s : Connection) : Call → Connection
  | .put frame =>
    { s with
      buffer := s.buffer.put frame
      accepted := if s.buffer.closed then s.accepted else s.accepted ++ [frame]
      refused := if s.buffer.closed then s.refused + 1 else s.refused }
  | .get =>
    if s.buffer.ready then
      match s.buffer.get toInt with
      | (.ok got, buffer) => { s with buffer, got := s.got ++ [got] }
      | (.error _, buffer) => { s with buffer }
    else s
  | .close => { s with buffer := s.buffer.close }

/-! ## What a call does -/

end Connection

theorem dropOldestObservation_none {frames : List Frame} :
    dropOldestObservation frames = none ↔ ∀ frame ∈ frames, frame.isObservation = false := by
  induction frames with
  | nil => simp [dropOldestObservation]
  | cons frame rest ih =>
    rw [List.forall_mem_cons, dropOldestObservation]
    split_ifs with hobs
    · simp [hobs]
    · rw [Option.map_eq_none_iff, ih]
      simp [hobs]

theorem dropOldestObservation_some {frames kept : List Frame}
    (h : dropOldestObservation frames = some kept) :
    ∃ before frame after, frames = before ++ frame :: after ∧ kept = before ++ after ∧
      frame.isObservation = true ∧ ∀ earlier ∈ before, earlier.isObservation = false := by
  induction frames generalizing kept with
  | nil => cases h
  | cons first rest ih =>
    rw [dropOldestObservation] at h
    split_ifs at h with hobs
    · cases h
      exact ⟨[], first, rest, rfl, rfl, hobs, fun _ hnone => absurd hnone List.not_mem_nil⟩
    · obtain ⟨kept, hkept, rfl⟩ := Option.map_eq_some_iff.mp h
      obtain ⟨before, frame, after, rfl, rfl, hframe, hbefore⟩ := ih hkept
      refine ⟨first :: before, frame, after, rfl, rfl, hframe, fun earlier hin => ?_⟩
      rcases List.mem_cons.mp hin with rfl | hin
      · simpa using hobs
      · exact hbefore earlier hin

/-- What `put` can do to an open buffer. -/
inductive PutTo (b : BoundedFrameBuffer) (frame : Frame) : BoundedFrameBuffer → Prop where
  | room (h : b.frames.length < b.maxFrames) : PutTo b frame { b with frames := b.frames ++ [frame] }
  | evicts (before after : List Frame) (oldest : Frame) (hfull : b.maxFrames ≤ b.frames.length)
      (hframes : b.frames = before ++ oldest :: after) (hobs : oldest.isObservation = true) :
      PutTo b frame { b with
        frames := (before ++ after) ++ [frame]
        droppedObservations := b.droppedObservations + 1 }
  | refuses (hfull : b.maxFrames ≤ b.frames.length) (hobs : frame.isObservation = true) :
      PutTo b frame { b with droppedObservations := b.droppedObservations + 1 }
  | givesUp (hfull : b.maxFrames ≤ b.frames.length)
      (hkept : ∀ other ∈ b.frames, other.isObservation = false) (hobs : frame.isObservation = false) :
      PutTo b frame { b with
        frames := b.frames.tail ++ [frame]
        droppedFrames := b.droppedFrames + 1 }

theorem put_putTo {b : BoundedFrameBuffer} (hopen : b.closed = false) (frame : Frame) :
    PutTo b frame (b.put frame) := by
  unfold BoundedFrameBuffer.put
  rw [if_neg (by simp [hopen])]
  by_cases hfull : b.maxFrames ≤ b.frames.length
  · rw [if_pos hfull]
    cases hdrop : dropOldestObservation b.frames with
    | some kept =>
      obtain ⟨before, oldest, after, hframes, rfl, hobs, _⟩ := dropOldestObservation_some hdrop
      exact .evicts before after oldest hfull hframes hobs
    | none =>
      have hkept := dropOldestObservation_none.mp hdrop
      by_cases hobs : frame.isObservation = true
      · simp only [if_pos hobs]
        exact .refuses hfull hobs
      · simp only [if_neg hobs]
        exact .givesUp hfull hkept (by simpa using hobs)
  · rw [if_neg hfull]
    exact .room (by omega)

theorem put_closed {b : BoundedFrameBuffer} (hclosed : b.closed = true) (frame : Frame) :
    b.put frame = b := by
  unfold BoundedFrameBuffer.put
  rw [if_pos hclosed]

/-- Frames that are not observations. -/
abbrev others (frames : List Frame) : List Frame := frames.filter fun frame => !frame.isObservation

theorem put_gives_up {b : BoundedFrameBuffer} (hopen : b.closed = false) {frame : Frame}
    (h : others (b.put frame).frames ≠ others (b.frames ++ [frame])) :
    b.maxFrames ≤ b.frames.length ∧ ∀ other ∈ b.frames, other.isObservation = false := by
  have hput := put_putTo hopen frame
  revert h
  generalize b.put frame = b' at hput
  intro h
  cases hput with
  | room hroom => exact absurd rfl h
  | evicts before after oldest hfull hframes hobs =>
    refine absurd ?_ h
    simp [others, hframes, hobs]
  | refuses hfull hobs =>
    refine absurd ?_ h
    simp [others, hobs]
  | givesUp hfull hkept hobs => exact ⟨hfull, hkept⟩

/-! ## The account of the frames -/

/-- A frame whose tick, if it has one, is an integer. -/
def Frame.Ticked (frame : Frame) : Prop := ∀ v, frame.get? "tick" = some v → ∃ n, v = .int n

namespace Connection

/-- Every frame put before `close` is delivered, buffered, or counted as
dropped, and the order of the frames is kept. -/
structure Accounted (s : Connection) : Prop where
  capacity : 0 < s.buffer.maxFrames
  depth : s.buffer.frames.length ≤ s.buffer.maxFrames
  order : (s.delivered ++ s.buffer.frames).Sublist s.accepted
  observations : s.accepted.countP Frame.isObservation
    = s.delivered.countP Frame.isObservation + s.buffer.frames.countP Frame.isObservation
      + s.reportedObservations + s.buffer.droppedObservations
  otherFrames : (others s.accepted).length
    = (others s.delivered).length + (others s.buffer.frames).length
      + s.reportedFrames + s.buffer.droppedFrames
  ended : Got.ended ∈ s.got → s.buffer.closed = true ∧ s.buffer.frames = [] ∧
    s.buffer.droppedObservations = 0 ∧ s.buffer.droppedFrames = 0

/-- The frames in the buffer have ticks a notice can read. -/
def Readable (s : Connection) : Prop := ∀ frame ∈ s.buffer.frames, frame.Ticked

@[simp] theorem delivered_snoc (s : Connection) (buffer : BoundedFrameBuffer) (got : Got) :
    ({ s with buffer, got := s.got ++ [got] } : Connection).delivered
      = s.delivered ++ (match got with | .frame sent => [sent] | _ => []) := by
  cases got <;> simp [delivered]

@[simp] theorem reportedObservations_snoc (s : Connection) (buffer : BoundedFrameBuffer) (got : Got) :
    ({ s with buffer, got := s.got ++ [got] } : Connection).reportedObservations
      = s.reportedObservations + (match got with | .notice _ observations _ => observations | _ => 0) := by
  cases got <;> simp [reportedObservations]

@[simp] theorem reportedFrames_snoc (s : Connection) (buffer : BoundedFrameBuffer) (got : Got) :
    ({ s with buffer, got := s.got ++ [got] } : Connection).reportedFrames
      = s.reportedFrames + (match got with | .notice _ _ frames => frames | _ => 0) := by
  cases got <;> simp [reportedFrames]

theorem Accounted.put {s : Connection} (h : s.Accounted) (toInt : Value → Except PyError Int)
    (frame : Frame) : (step toInt s (.put frame)).Accounted := by
  cases hopen : s.buffer.closed with
  | true =>
    have hsame : step toInt s (.put frame) = { s with refused := s.refused + 1 } := by
      simp [step, hopen, put_closed]
    rw [hsame]
    exact ⟨h.capacity, h.depth, h.order, h.observations, h.otherFrames, h.ended⟩
  | false =>
    have hnotended : Got.ended ∉ s.got := fun hin => by
      rw [(h.ended hin).1] at hopen
      cases hopen
    have hput := put_putTo hopen frame
    have hcap := h.capacity
    have hdepth := h.depth
    have hobservations := h.observations
    have hothers := h.otherFrames
    have hstep : step toInt s (.put frame)
        = { s with buffer := s.buffer.put frame, accepted := s.accepted ++ [frame] } := by
      simp [step, hopen]
    rw [hstep]
    generalize s.buffer.put frame = b' at hput
    cases hput with
    | room hroom =>
      refine ⟨hcap, ?_, ?_, ?_, ?_, fun hin => absurd hin hnotended⟩
      · simp only [List.length_append, List.length_singleton]
        omega
      · show (s.delivered ++ (s.buffer.frames ++ [frame])).Sublist _
        rw [← List.append_assoc]
        exact h.order.append (List.Sublist.refl _)
      · show (s.accepted ++ [frame]).countP _ = s.delivered.countP _ + _ + s.reportedObservations + _
        simp only [List.countP_append]
        omega
      · show (others (s.accepted ++ [frame])).length = (others s.delivered).length + _ + s.reportedFrames + _
        simp only [others, List.filter_append, List.length_append] at hothers ⊢
        omega
    | evicts before after oldest hfull hframes hobs =>
      have horder := h.order
      rw [hframes] at hdepth horder hobservations hothers
      refine ⟨hcap, ?_, ?_, ?_, ?_, fun hin => absurd hin hnotended⟩
      · simp only [List.length_append, List.length_cons] at hdepth ⊢
        omega
      · show (s.delivered ++ ((before ++ after) ++ [frame])).Sublist _
        rw [← List.append_assoc]
        refine List.Sublist.append (List.Sublist.trans ?_ horder) (List.Sublist.refl _)
        exact List.Sublist.append_left (List.Sublist.append_left (List.sublist_cons_self _ _) _) _
      · show (s.accepted ++ [frame]).countP _ = s.delivered.countP _ + _ + s.reportedObservations + _
        simp only [List.countP_append, List.countP_cons_of_pos hobs] at hobservations ⊢
        omega
      · show (others (s.accepted ++ [frame])).length = (others s.delivered).length + _ + s.reportedFrames + _
        simp only [others, List.filter_append, List.length_append, List.filter_cons, hobs] at hothers ⊢
        simp at hothers ⊢
        omega
    | refuses hfull hobs =>
      refine ⟨hcap, hdepth, ?_, ?_, ?_, fun hin => absurd hin hnotended⟩
      · exact h.order.trans (List.sublist_append_left _ _)
      · show (s.accepted ++ [frame]).countP _ = s.delivered.countP _ + _ + s.reportedObservations + _
        simp only [List.countP_append, List.countP_singleton, hobs, if_true]
        omega
      · show (others (s.accepted ++ [frame])).length = (others s.delivered).length + _ + s.reportedFrames + _
        simpa [others, hobs] using hothers
    | givesUp hfull hkept hobs =>
      have horder := h.order
      cases hframes : s.buffer.frames with
      | nil =>
        rw [hframes] at hfull
        exact absurd hfull (by simp; omega)
      | cons oldest rest =>
        have holdest := hkept oldest (by simp [hframes])
        rw [hframes] at hdepth horder hobservations hothers
        refine ⟨hcap, ?_, ?_, ?_, ?_, fun hin => absurd hin hnotended⟩
        · simp only [List.tail_cons, List.length_append, List.length_cons, List.length_nil] at hdepth ⊢
          omega
        · show (s.delivered ++ (rest ++ [frame])).Sublist _
          rw [← List.append_assoc]
          refine List.Sublist.append (List.Sublist.trans ?_ horder) (List.Sublist.refl _)
          exact List.Sublist.append_left (List.sublist_cons_self _ _) _
        · show (s.accepted ++ [frame]).countP _ = s.delivered.countP _ + _ + s.reportedObservations + _
          simp only [List.tail_cons, List.countP_append, List.countP_cons, holdest, hobs] at hobservations ⊢
          simp at hobservations ⊢
          omega
        · show (others (s.accepted ++ [frame])).length = (others s.delivered).length + _ + s.reportedFrames + _
          simp only [others, List.tail_cons, List.filter_append, List.length_append,
            List.filter_cons, holdest] at hothers ⊢
          simp at hothers ⊢
          omega

/-- What a `get` that has waited does. -/
inductive GotFrom (b : BoundedFrameBuffer) : Except PyError Got → BoundedFrameBuffer → Prop where
  | told (tick : Int) (h : b.droppedObservations ≠ 0 ∨ b.droppedFrames ≠ 0) :
      GotFrom b (.ok (.notice tick b.droppedObservations b.droppedFrames))
        { b with droppedObservations := 0, droppedFrames := 0 }
  | delivered (frame : Frame) (rest : List Frame) (hframes : b.frames = frame :: rest)
      (hnone : b.droppedObservations = 0 ∧ b.droppedFrames = 0) :
      GotFrom b (.ok (.frame frame)) { b with frames := rest }
  | ended (hframes : b.frames = []) (hnone : b.droppedObservations = 0 ∧ b.droppedFrames = 0) :
      GotFrom b (.ok .ended) b

theorem noticeTick_ok {toInt : Value → Except PyError Int} (hint : ∀ n, toInt (.int n) = .ok n)
    {b : BoundedFrameBuffer} (h : ∀ frame ∈ b.frames, frame.Ticked) :
    ∃ tick, b.noticeTick toInt = .ok tick := by
  unfold noticeTick
  cases hframes : b.frames with
  | nil => exact ⟨0, rfl⟩
  | cons frame rest =>
    have hticked := h frame (by simp [hframes])
    show ∃ tick, toInt ((frame.get? "tick").getD (.int 0)) = .ok tick
    cases htick : frame.get? "tick" with
    | none => exact ⟨0, hint 0⟩
    | some v =>
      obtain ⟨n, rfl⟩ := hticked v htick
      exact ⟨n, hint n⟩

theorem get_gotFrom {toInt : Value → Except PyError Int} (hint : ∀ n, toInt (.int n) = .ok n)
    {b : BoundedFrameBuffer} (h : ∀ frame ∈ b.frames, frame.Ticked) :
    GotFrom b (b.get toInt).1 (b.get toInt).2 := by
  unfold BoundedFrameBuffer.get
  by_cases hdrops : b.droppedObservations ≠ 0 ∨ b.droppedFrames ≠ 0
  · rw [if_pos hdrops]
    obtain ⟨tick, htick⟩ := noticeTick_ok hint h
    rw [htick]
    exact .told tick hdrops
  · rw [if_neg hdrops]
    have hnone : b.droppedObservations = 0 ∧ b.droppedFrames = 0 := by omega
    cases hframes : b.frames with
    | cons frame rest => exact .delivered frame rest hframes hnone
    | nil => exact .ended hframes hnone

theorem Accounted.get {s : Connection} (h : s.Accounted) {toInt : Value → Except PyError Int}
    (hint : ∀ n, toInt (.int n) = .ok n) (hread : s.Readable) : (step toInt s .get).Accounted := by
  have hgot := get_gotFrom hint hread
  have hobservations := h.observations
  have hothers := h.otherFrames
  by_cases hready : s.buffer.ready = true
  · cases hr : s.buffer.get toInt with
    | mk r b' =>
      rw [hr] at hgot
      simp only [step, hready, if_true, hr]
      dsimp only at hgot
      cases hgot with
      | told tick hdrops =>
        have hnotended : Got.ended ∉ s.got := fun hin => by
          obtain ⟨_, _, hobs, hframes⟩ := h.ended hin
          omega
        refine ⟨h.capacity, h.depth, ?_, ?_, ?_, fun hin => ?_⟩
        · simpa using h.order
        · simp only [delivered_snoc, reportedObservations_snoc, List.append_nil]
          omega
        · simp only [delivered_snoc, reportedFrames_snoc, List.append_nil]
          omega
        · rcases List.mem_append.mp hin with hin | hin
          · exact absurd hin hnotended
          · simp at hin
      | delivered frame rest hframes hnone =>
        have hnotended : Got.ended ∉ s.got := fun hin => by
          rw [(h.ended hin).2.1] at hframes
          cases hframes
        have hdepth := h.depth
        have horder := h.order
        rw [hframes] at hdepth horder hobservations hothers
        refine ⟨h.capacity, ?_, ?_, ?_, ?_, fun hin => ?_⟩
        · simp only [List.length_cons] at hdepth
          show rest.length ≤ s.buffer.maxFrames
          omega
        · simpa using horder
        · simp only [delivered_snoc, reportedObservations_snoc, List.countP_append,
            List.countP_cons, List.countP_nil] at hobservations ⊢
          omega
        · simp only [delivered_snoc, reportedFrames_snoc, others, List.filter_append,
            List.length_append, List.filter_cons, List.filter_nil] at hothers ⊢
          split_ifs at hothers ⊢ with hobs
          · simp only [List.length_cons, List.length_nil] at hothers ⊢
            omega
          · simp only [List.length_nil] at hothers ⊢
            omega
        · rcases List.mem_append.mp hin with hin | hin
          · exact absurd hin hnotended
          · simp at hin
      | ended hframes hnone =>
        have hclosed : s.buffer.closed = true := by
          simpa [ready, hframes, hnone] using hready
        refine ⟨h.capacity, h.depth, ?_, ?_, ?_, fun _ => ⟨hclosed, hframes, hnone⟩⟩
        · simpa using h.order
        · simpa using hobservations
        · simpa using hothers
  · rw [show step toInt s .get = s by simp [step, hready]]
    exact h

theorem Accounted.close {s : Connection} (h : s.Accounted) (toInt : Value → Except PyError Int) :
    (step toInt s .close).Accounted :=
  ⟨h.capacity, h.depth, h.order, h.observations, h.otherFrames, fun hin => ⟨rfl, (h.ended hin).2⟩⟩

theorem Readable.step {s : Connection} (h : s.Readable) {toInt : Value → Except PyError Int}
    (hint : ∀ n, toInt (.int n) = .ok n) {call : Call}
    (hcall : ∀ frame, call = .put frame → frame.Ticked) : (step toInt s call).Readable := by
  intro frame hin
  cases call with
  | put new =>
    have hnew := hcall new rfl
    cases hopen : s.buffer.closed with
    | true =>
      refine h frame ?_
      simpa [Connection.step, put_closed hopen] using hin
    | false =>
      have hput := put_putTo hopen new
      change frame ∈ (s.buffer.put new).frames at hin
      generalize s.buffer.put new = b' at hput hin
      -- a put leaves the new frame and frames that were there
      suffices hor : frame ∈ s.buffer.frames ∨ frame = new by
        rcases hor with hold | rfl
        · exact h frame hold
        · exact hnew
      cases hput with
      | room hroom => simpa using hin
      | evicts before after oldest hfull hframes hobs =>
        rw [hframes]
        simp only [List.append_assoc, List.mem_append, List.mem_singleton] at hin
        simp only [List.mem_append, List.mem_cons]
        tauto
      | refuses hfull hobs => exact .inl hin
      | givesUp hfull hkept hobs =>
        rcases List.mem_append.mp hin with hold | hlast
        · exact .inl (List.mem_of_mem_tail hold)
        · exact .inr (List.mem_singleton.mp hlast)
  | get =>
    have hgot := get_gotFrom hint h
    by_cases hready : s.buffer.ready = true
    · cases hr : s.buffer.get toInt with
      | mk r b' =>
        rw [hr] at hgot
        simp only [Connection.step, hready, if_true, hr] at hin
        dsimp only at hgot
        cases hgot with
        | told tick hdrops => exact h frame hin
        | delivered first rest hframes hnone =>
          refine h frame ?_
          rw [hframes]
          exact List.mem_cons_of_mem _ hin
        | ended hframes hnone => exact h frame hin
    · exact h frame (by simpa [Connection.step, hready] using hin)
  | close => exact h frame hin

theorem Accounted.step {s : Connection} (h : s.Accounted ∧ s.Readable)
    {toInt : Value → Except PyError Int} (hint : ∀ n, toInt (.int n) = .ok n) {call : Call}
    (hcall : ∀ frame, call = .put frame → frame.Ticked) :
    (step toInt s call).Accounted ∧ (step toInt s call).Readable := by
  refine ⟨?_, h.2.step hint hcall⟩
  cases call with
  | put frame => exact h.1.put toInt frame
  | get => exact h.1.get hint h.2
  | close => exact h.1.close toInt

/-- A connection before its first call. -/
def start (buffer : BoundedFrameBuffer) : Connection := { buffer }

theorem new_eq_ok {maxFrames : Nat} {b : BoundedFrameBuffer}
    (h : BoundedFrameBuffer.new maxFrames = .ok b) : b = { maxFrames } ∧ 0 < maxFrames := by
  unfold BoundedFrameBuffer.new at h
  split_ifs at h with hsmall
  cases h
  exact ⟨rfl, by omega⟩

theorem accounted_start {maxFrames : Nat} (h : 0 < maxFrames) :
    (start { maxFrames }).Accounted ∧ (start { maxFrames }).Readable :=
  ⟨⟨h, Nat.zero_le _, List.Sublist.refl _, rfl, rfl, fun hin => absurd hin List.not_mem_nil⟩,
    fun _ hin => absurd hin List.not_mem_nil⟩

theorem accounted_run {toInt : Value → Except PyError Int} (hint : ∀ n, toInt (.int n) = .ok n)
    {calls : List Call} (hcalls : ∀ frame, Call.put frame ∈ calls → frame.Ticked) {s : Connection}
    (h : s.Accounted ∧ s.Readable) :
    (calls.foldl (Connection.step toInt) s).Accounted ∧
      (calls.foldl (Connection.step toInt) s).Readable := by
  refine Along.invariant (I := fun s : Connection => s.Accounted ∧ s.Readable)
    (Q := fun _ call => ∀ frame, call = Call.put frame → frame.Ticked)
    (fun _ _ hs hcall => Accounted.step hs hint hcall) (along_of_mem ?_ s) h
  rintro call hcall frame rfl
  exact hcalls frame hcall

/-! ## After `close` -/

/-- `s'` comes after `s`: once closed, frames leave the buffer by delivery only. -/
def Drains (s s' : Connection) : Prop :=
  s.buffer.closed = true →
    s'.buffer.closed = true ∧ s'.delivered ++ s'.buffer.frames = s.delivered ++ s.buffer.frames

theorem drains_step (toInt : Value → Except PyError Int) (s : Connection) (call : Call) :
    Drains s (Connection.step toInt s call) := by
  intro hclosed
  cases call with
  | put frame =>
    refine ⟨?_, ?_⟩
    · show (s.buffer.put frame).closed = true
      rw [put_closed hclosed, hclosed]
    · show s.delivered ++ (s.buffer.put frame).frames = _
      rw [put_closed hclosed]
  | get =>
    have hready : s.buffer.ready = true := by simp [ready, hclosed]
    simp only [Connection.step, hready, if_true, BoundedFrameBuffer.get]
    split_ifs with hdrops
    · -- a notice, or an error in reading its tick, leaves the frames alone
      cases s.buffer.noticeTick toInt with
      | ok tick => simp [Except.map, hclosed]
      | error e => exact ⟨hclosed, rfl⟩
    · cases hframes : s.buffer.frames with
      | cons frame rest => simp [hclosed]
      | nil => simp [hclosed, hframes]
  | close => exact ⟨rfl, rfl⟩

theorem delivered_of_ended {toInt : Value → Except PyError Int} {s : Connection}
    (hclosed : s.buffer.closed = true) {more : List Call}
    (hacc : (more.foldl (Connection.step toInt) s).Accounted)
    (hended : Got.ended ∈ (more.foldl (Connection.step toInt) s).got) :
    (more.foldl (Connection.step toInt) s).delivered = s.delivered ++ s.buffer.frames := by
  have hdrains : Drains s (more.foldl (Connection.step toInt) s) := by
    refine run_within (R := Drains) (fun s h => ⟨h, rfl⟩) (fun a b c hab hbc h => ?_)
      (drains_step toInt) s more
    obtain ⟨hb, hframes⟩ := hab h
    obtain ⟨hc, hframes'⟩ := hbc hb
    exact ⟨hc, hframes'.trans hframes⟩
  have hempty := (hacc.ended hended).2.1
  have hsame := (hdrains hclosed).2
  rw [hempty, List.append_nil] at hsame
  exact hsame

theorem drained_frames (toInt : Value → Except PyError Int) (frames : List Frame) {s : Connection}
    (hclosed : s.buffer.closed = true) (hframes : s.buffer.frames = frames)
    (hnone : s.buffer.droppedObservations = 0 ∧ s.buffer.droppedFrames = 0) :
    Got.ended ∈ ((List.replicate (frames.length + 1) Call.get).foldl (Connection.step toInt) s).got := by
  induction frames generalizing s with
  | nil =>
    have hstep : Connection.step toInt s .get = { s with got := s.got ++ [.ended] } := by
      simp [Connection.step, ready, BoundedFrameBuffer.get, hclosed, hframes, hnone]
    show Got.ended ∈ (Connection.step toInt s .get).got
    rw [hstep]
    exact List.mem_append_right _ (List.mem_singleton_self _)
  | cons frame rest ih =>
    have hstep : Connection.step toInt s .get
        = { s with buffer := { s.buffer with frames := rest }, got := s.got ++ [.frame frame] } := by
      simp [Connection.step, ready, BoundedFrameBuffer.get, hclosed, hframes, hnone]
    rw [List.length_cons, List.replicate_succ, List.foldl_cons, hstep]
    exact ih hclosed rfl hnone

theorem drained {toInt : Value → Except PyError Int} {s : Connection}
    (hclosed : s.buffer.closed = true) :
    ∃ n, n ≤ s.buffer.frames.length + 2 ∧
      Got.ended ∈ ((List.replicate n Call.get).foldl (Connection.step toInt) s).got := by
  by_cases hnone : s.buffer.droppedObservations = 0 ∧ s.buffer.droppedFrames = 0
  · exact ⟨_, by omega, drained_frames toInt _ hclosed rfl hnone⟩
  · refine ⟨s.buffer.frames.length + 1 + 1, le_refl _, ?_⟩
    rw [List.replicate_succ, List.foldl_cons]
    -- the first `get` clears the counts
    have hdrops : s.buffer.droppedObservations ≠ 0 ∨ s.buffer.droppedFrames ≠ 0 := by omega
    have hcleared : (Connection.step toInt s .get).buffer
        = { s.buffer with droppedObservations := 0, droppedFrames := 0 } := by
      have hready : s.buffer.ready = true := by simp [ready, hclosed]
      simp only [Connection.step, hready, if_true, BoundedFrameBuffer.get, if_pos hdrops]
      cases s.buffer.noticeTick toInt with
      | ok tick => rfl
      | error e => rfl
    refine drained_frames toInt s.buffer.frames ?_ ?_ ?_
    · rw [hcleared]
      exact hclosed
    · rw [hcleared]
    · rw [hcleared]
      exact ⟨rfl, rfl⟩

/-! ## Every interleaving -/

theorem maxFrames_step (toInt : Value → Except PyError Int) (s : Connection) (call : Call) :
    (Connection.step toInt s call).buffer.maxFrames = s.buffer.maxFrames := by
  cases call with
  | put frame =>
    show (s.buffer.put frame).maxFrames = _
    cases hopen : s.buffer.closed with
    | true => rw [put_closed hopen]
    | false =>
      have hput := put_putTo hopen frame
      generalize s.buffer.put frame = b' at hput
      cases hput <;> rfl
  | get =>
    simp only [Connection.step, BoundedFrameBuffer.get]
    split_ifs
    · cases s.buffer.noticeTick toInt with
      | ok tick => rfl
      | error e => rfl
    · cases s.buffer.frames with
      | cons frame rest => rfl
      | nil => rfl
    · rfl
  | close => rfl

/-- What is known of a connection whose buffer holds `maxFrames` frames. -/
structure AccountsForFrames (toInt : Value → Except PyError Int) (maxFrames : Nat)
    (s : Connection) : Prop where
  depth : s.buffer.frames.length ≤ maxFrames
  /-- The frames delivered are some of those put before `close`, in their order. -/
  order : s.delivered.Sublist s.accepted
  balance : s.accepted.length = s.delivered.length + s.buffer.frames.length
    + (s.reportedObservations + s.reportedFrames)
    + (s.buffer.droppedObservations + s.buffer.droppedFrames)
  /-- A put that loses another frame than an observation finds only such frames. -/
  givesUp : s.buffer.closed = false → ∀ frame,
    others (s.buffer.put frame).frames ≠ others (s.buffer.frames ++ [frame]) →
      s.buffer.frames.length = maxFrames ∧ ∀ other ∈ s.buffer.frames, other.isObservation = false
  /-- After `close`, `None` is reached. -/
  ends : s.buffer.closed = true → ∃ n, n ≤ s.buffer.frames.length + 2 ∧
    Got.ended ∈ ((List.replicate n Call.get).foldl (Connection.step toInt) s).got
  /-- After `close`, `None` is returned only once every frame is delivered. -/
  delivers : s.buffer.closed = true → ∀ more : List Call,
    (∀ frame, Call.put frame ∈ more → frame.Ticked) →
      Got.ended ∈ (more.foldl (Connection.step toInt) s).got →
        (more.foldl (Connection.step toInt) s).delivered = s.delivered ++ s.buffer.frames

theorem Accounted.balance {s : Connection} (h : s.Accounted) :
    s.accepted.length = s.delivered.length + s.buffer.frames.length
      + (s.reportedObservations + s.reportedFrames)
      + (s.buffer.droppedObservations + s.buffer.droppedFrames) := by
  have hsplit : ∀ frames : List Frame,
      frames.length = frames.countP Frame.isObservation + (others frames).length := by
    intro frames
    have hlen := List.length_eq_countP_add_countP Frame.isObservation (l := frames)
    rw [hlen, others, ← List.countP_eq_length_filter]
    simp
  have hobservations := h.observations
  have hothers := h.otherFrames
  rw [hsplit s.accepted, hsplit s.delivered, hsplit s.buffer.frames]
  omega

/-- **The stream buffer accounts for every frame**, over any interleaving of
`put`, `get` and `close` on a buffer of any capacity. -/
theorem stream_accounted (toInt : Value → Except PyError Int) (hint : ∀ n, toInt (.int n) = .ok n)
    (maxFrames : Nat) (b : BoundedFrameBuffer) (hnew : BoundedFrameBuffer.new maxFrames = .ok b)
    (calls : List Call) (hcalls : ∀ frame, Call.put frame ∈ calls → frame.Ticked) :
    AccountsForFrames toInt maxFrames (calls.foldl (Connection.step toInt) (start b)) := by
  obtain ⟨rfl, hcapacity⟩ := new_eq_ok hnew
  have hrun := accounted_run hint hcalls (accounted_start hcapacity)
  have hmax : (calls.foldl (Connection.step toInt) (start { maxFrames })).buffer.maxFrames = maxFrames := by
    have hkept : ∀ s, (calls.foldl (Connection.step toInt) s).buffer.maxFrames = s.buffer.maxFrames := by
      intro s
      refine run_within (R := fun s s' : Connection => s'.buffer.maxFrames = s.buffer.maxFrames)
        (fun _ => rfl) ?_ (maxFrames_step toInt) s calls
      intro a b c hab hbc
      exact Eq.trans hbc hab
    exact hkept (start { maxFrames })
  generalize calls.foldl (Connection.step toInt) (start { maxFrames }) = s at hrun hmax
  obtain ⟨hacc, hread⟩ := hrun
  have hdepth := hacc.depth
  refine ⟨by omega, (List.sublist_append_left _ _).trans hacc.order, hacc.balance,
    fun hopen frame hlost => ?_, fun hclosed => drained hclosed,
    fun hclosed more hmore hended => ?_⟩
  · have hfull := put_gives_up hopen hlost
    exact ⟨by omega, hfull.2⟩
  · exact delivered_of_ended hclosed (accounted_run hint hmore ⟨hacc, hread⟩).1 hended

/-- An observation gives way to a later one, which is delivered after the
notice and before `None`. -/
def oneSeat : List Call :=
  [.put ((∅ : Frame).put "type" (.str "observation")),
    .put (((∅ : Frame).put "type" (.str "observation")).put "tick" (.int 2)), .close, .get, .get, .get]

/-- `int(value)` of an integer. -/
def intOf : Value → Except PyError Int
  | .int n => .ok n
  | _ => .error (.value "invalid literal for int()")

theorem one_seat_accounted :
    AccountsForFrames intOf 1 (oneSeat.foldl (Connection.step intOf) (start { maxFrames := 1 })) ∧
      (oneSeat.foldl (Connection.step intOf) (start { maxFrames := 1 })).got.length = 3 := by
  refine ⟨stream_accounted intOf (fun _ => rfl) 1 { maxFrames := 1 } rfl oneSeat ?_, by decide⟩
  intro frame hin v hv
  simp only [oneSeat, List.mem_cons, Call.put.injEq, reduceCtorEq, List.not_mem_nil,
    or_false] at hin
  rcases hin with rfl | rfl
  · cases hv
  · cases hv
    exact ⟨2, rfl⟩

end Connection

end Polis.Gateway
