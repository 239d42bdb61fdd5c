import DualBoy.Lib.Ring
import DualBoy.Lib.Run

/-!
# The audio queue

`struct sameboy_audio_fifo` and its three operations, against a list that keeps the last
`SAMEBOY_AUDIO_FIFO_FRAMES` frames nobody read. The samples of a frame lie side by side; `ring` is
the same ring by frames.

* `ring_audioFifoPush`, `ring_readAudio`: the operations are those of a ring.
* `represents_step`: one call keeps the queue and the list together.
* **`audio_fifo_refines`**.
-/

namespace DualBoy.Sameboy

open DualBoy.Lib

/-! ## The source -/

/-- `SAMEBOY_AUDIO_FIFO_FRAMES`. -/
@[irreducible] def audioFifoFrames : Nat := 16384

theorem audioFifoFrames_pos : 0 < audioFifoFrames := by
  unfold audioFifoFrames
  decide

/-- `int16_t`. -/
abbrev Sample := BitVec 16

/-- Samples by index. -/
abbrev Samples := Nat → Sample

/-- `struct sameboy_audio_fifo`. -/
structure AudioFifo where
  samples : Samples
  readIndex : Nat
  frameCount : Nat

/-- `audio_fifo_clear`. -/
def audioFifoClear (fifo : AudioFifo) : AudioFifo :=
  { fifo with readIndex := 0, frameCount := 0 }

/-- `audio_fifo_push`. -/
def audioFifoPush (fifo : AudioFifo) (left right : Sample) : AudioFifo :=
  let fifo :=
    if fifo.frameCount = audioFifoFrames then
      { fifo with
        readIndex := (fifo.readIndex + 1) % audioFifoFrames, frameCount := fifo.frameCount - 1 }
    else fifo
  let writeIndex := (fifo.readIndex + fifo.frameCount) % audioFifoFrames
  { fifo with
    samples := Function.update (Function.update fifo.samples (writeIndex * 2) left)
      (writeIndex * 2 + 1) right
    frameCount := fifo.frameCount + 1 }

/-- One turn of the loop of `sameboy_read_audio`. -/
def copyFrame (fifo : AudioFifo) (interleaved : Samples) (index : Nat) : Samples :=
  let source := (fifo.readIndex + index) % audioFifoFrames
  Function.update (Function.update interleaved (index * 2) (fifo.samples (source * 2)))
    (index * 2 + 1) (fifo.samples (source * 2 + 1))

/-- `sameboy_read_audio`: the frames read, the caller's samples if it has any, and the queue. -/
def readAudio (fifo : AudioFifo) (interleaved : Option Samples) (maxFrames : Nat) :
    Nat × Option Samples × AudioFifo :=
  if interleaved = none ∧ maxFrames ≠ 0 then (0, interleaved, fifo)
  else
    let frames := if fifo.frameCount < maxFrames then fifo.frameCount else maxFrames
    (frames, interleaved.map fun samples => (List.range frames).foldl (copyFrame fifo) samples,
      { fifo with
        readIndex := (fifo.readIndex + frames) % audioFifoFrames
        frameCount := fifo.frameCount - frames })

/-! ## Calls -/

abbrev StereoFrame := Sample × Sample

/-- A frame of interleaved samples. -/
def frameAt (samples : Samples) (index : Nat) : StereoFrame :=
  (samples (index * 2), samples (index * 2 + 1))

inductive AudioCall where
  | push (left right : Sample)
  | read (interleaved : Option Samples) (maxFrames : Nat)
  | clear

/-- The queue, with all frames that were pushed and all that reads returned; nothing reads these. -/
structure AudioHistory where
  fifo : AudioFifo
  pushed : List StereoFrame
  returned : List StereoFrame

/-- The frames a read leaves with its caller. -/
def framesRead (result : Nat × Option Samples × AudioFifo) : List StereoFrame :=
  match result.2.1 with
  | none => []
  | some samples => (List.range result.1).map (frameAt samples)

def AudioHistory.step (h : AudioHistory) : AudioCall → AudioHistory
  | .push left right =>
    { h with fifo := audioFifoPush h.fifo left right, pushed := h.pushed ++ [(left, right)] }
  | .read interleaved maxFrames =>
    let result := readAudio h.fifo interleaved maxFrames
    { h with fifo := result.2.2, returned := h.returned ++ framesRead result }
  | .clear => { h with fifo := audioFifoClear h.fifo }

theorem AudioHistory.step_push (h : AudioHistory) (left right : Sample) :
    h.step (.push left right) =
      ⟨audioFifoPush h.fifo left right, h.pushed ++ [(left, right)], h.returned⟩ := rfl

/-- An empty queue, whatever its samples are. -/
def AudioHistory.start (samples : Samples) : AudioHistory := ⟨⟨samples, 0, 0⟩, [], []⟩

/-! ## The list -/

/-- The frames nobody read, the oldest first, and the histories. -/
structure RecentFrames where
  unread : List StereoFrame
  pushed : List StereoFrame
  returned : List StereoFrame

/-- How many frames a read may take: none without a buffer. -/
def readLimit (interleaved : Option Samples) (maxFrames : Nat) : Nat :=
  if interleaved = none then 0 else maxFrames

/-- A push keeps the last frames, a read takes the oldest ones, a clear forgets them all. -/
def RecentFrames.step (q : RecentFrames) : AudioCall → RecentFrames
  | .push left right =>
    { q with
      unread := (q.unread ++ [(left, right)]).rtake audioFifoFrames
      pushed := q.pushed ++ [(left, right)] }
  | .read interleaved maxFrames =>
    { q with
      unread := q.unread.drop (readLimit interleaved maxFrames)
      returned := q.returned ++ q.unread.take (readLimit interleaved maxFrames) }
  | .clear => { q with unread := [] }

theorem RecentFrames.step_push (q : RecentFrames) (left right : Sample) :
    q.step (.push left right) =
      ⟨(q.unread ++ [(left, right)]).rtake audioFifoFrames, q.pushed ++ [(left, right)],
        q.returned⟩ := rfl

/-- What was returned and what may still be are frames that were pushed, in their order and each
one once. -/
def RecentFrames.InPushOrder (q : RecentFrames) : Prop :=
  (q.returned ++ q.unread).Sublist q.pushed

theorem inPushOrder_step (q : RecentFrames) (call : AudioCall) (h : q.InPushOrder) :
    (q.step call).InPushOrder := by
  unfold RecentFrames.InPushOrder at h ⊢
  cases call with
  | push left right =>
    have hadded := (List.Sublist.refl q.returned).append
      (rtake_sublist audioFifoFrames (q.unread ++ [(left, right)]))
    rw [← List.append_assoc] at hadded
    rw [RecentFrames.step_push]
    exact hadded.trans (h.append (List.Sublist.refl _))
  | read interleaved maxFrames =>
    show ((q.returned ++ q.unread.take _) ++ q.unread.drop _).Sublist q.pushed
    rwa [List.append_assoc, List.take_append_drop]
  | clear =>
    show (q.returned ++ []).Sublist q.pushed
    exact ((List.Sublist.refl q.returned).append (List.nil_sublist _)).trans h

/-! ## The queue as a ring -/

/-- The queue by frames. -/
def AudioFifo.ring (fifo : AudioFifo) : RingBuffer StereoFrame :=
  ⟨frameAt fifo.samples, fifo.readIndex, fifo.frameCount⟩

/-- A frame of samples in which one frame was replaced. -/
theorem frameAt_update (samples : Samples) (index : Nat) (left right : Sample) :
    frameAt (Function.update (Function.update samples (index * 2) left) (index * 2 + 1) right) =
      Function.update (frameAt samples) index (left, right) := by
  funext other
  by_cases hother : other = index
  · rw [hother, Function.update_self]
    unfold frameAt
    rw [Function.update_self, Function.update_of_ne (by omega), Function.update_self]
  · rw [Function.update_of_ne hother]
    unfold frameAt
    rw [Function.update_of_ne (by omega), Function.update_of_ne (by omega),
      Function.update_of_ne (by omega), Function.update_of_ne (by omega)]

/-- **A push is the push of a ring.** -/
theorem ring_audioFifoPush (fifo : AudioFifo) (left right : Sample) :
    (audioFifoPush fifo left right).ring = fifo.ring.push audioFifoFrames (left, right) := by
  unfold audioFifoPush RingBuffer.push
  by_cases hfull : fifo.frameCount = audioFifoFrames
  · have hfull' : fifo.ring.count = audioFifoFrames := hfull
    simp only [if_pos hfull, if_pos hfull']
    unfold AudioFifo.ring
    rw [frameAt_update]
    rfl
  · have hfull' : fifo.ring.count ≠ audioFifoFrames := hfull
    simp only [if_neg hfull, if_neg hfull']
    unfold AudioFifo.ring
    rw [frameAt_update]
    rfl

/-- The loop of a read copies the oldest frames to the front of the caller's samples. -/
theorem frameAt_copyFrames (fifo : AudioFifo) (samples : Samples) (frames index : Nat) :
    frameAt ((List.range frames).foldl (copyFrame fifo) samples) index =
      if index < frames then fifo.ring.slots (fifo.ring.slot audioFifoFrames index)
      else frameAt samples index := by
  induction frames with
  | zero => rfl
  | succ frames ih =>
    have hturn (samples : Samples) : frameAt (copyFrame fifo samples frames) =
        Function.update (frameAt samples) frames
          (fifo.ring.slots (fifo.ring.slot audioFifoFrames frames)) := frameAt_update _ _ _ _
    rw [List.range_succ, List.foldl_append, List.foldl_cons, List.foldl_nil, hturn]
    by_cases hlast : index = frames
    · rw [hlast, Function.update_self, if_pos (Nat.lt_succ_self _)]
    · rw [Function.update_of_ne hlast, ih]
      by_cases hindex : index < frames
      · rw [if_pos hindex, if_pos (by omega)]
      · rw [if_neg hindex, if_neg (by omega)]

/-- What a read takes, and what it leaves alone. -/
theorem readAudio_spec (fifo : AudioFifo) (interleaved : Option Samples) (maxFrames : Nat) :
    let result := readAudio fifo interleaved maxFrames
    result.1 = min fifo.frameCount (readLimit interleaved maxFrames) ∧
      framesRead result =
        (fifo.ring.contents audioFifoFrames).take (readLimit interleaved maxFrames) ∧
      ∀ samples, interleaved = some samples →
        ∃ samples', result.2.1 = some samples' ∧
          ∀ index, result.1 ≤ index → frameAt samples' index = frameAt samples index := by
  cases interleaved with
  | none =>
    unfold readAudio readLimit
    by_cases hmax : maxFrames ≠ 0
    · rw [if_pos ⟨rfl, hmax⟩, if_pos rfl]
      exact ⟨(Nat.min_zero _).symm, rfl, nofun⟩
    · rw [if_neg (fun h => hmax h.2), if_pos rfl, not_not.mp hmax]
      exact ⟨(Nat.min_zero _).symm, rfl, nofun⟩
  | some samples =>
    have hframes : (if fifo.frameCount < maxFrames then fifo.frameCount else maxFrames) =
        min fifo.frameCount maxFrames := by
      by_cases hless : fifo.frameCount < maxFrames
      · rw [if_pos hless, Nat.min_eq_left (Nat.le_of_lt hless)]
      · rw [if_neg hless, Nat.min_eq_right (Nat.not_lt.mp hless)]
    have hlimit : readLimit (some samples) maxFrames = maxFrames := if_neg (Option.some_ne_none _)
    unfold readAudio
    dsimp only
    rw [hlimit, if_neg (fun h => Option.some_ne_none _ h.1), hframes]
    refine ⟨rfl, ?_, ?_⟩
    · show (List.range (min fifo.frameCount maxFrames)).map _ = _
      unfold RingBuffer.contents
      rw [← List.map_take, List.take_range, Nat.min_comm]
      refine List.map_congr_left fun index hindex => ?_
      rw [frameAt_copyFrames, if_pos (List.mem_range.mp hindex)]
    · intro samples' hsame
      obtain rfl := Option.some.inj hsame
      refine ⟨_, rfl, fun index hindex => ?_⟩
      rw [frameAt_copyFrames, if_neg (Nat.not_lt.mpr hindex)]

/-- **A read skips what it takes.** -/
theorem ring_readAudio (fifo : AudioFifo) (interleaved : Option Samples) (maxFrames : Nat)
    (h : fifo.ring.Bounded audioFifoFrames) :
    (readAudio fifo interleaved maxFrames).2.2.ring = fifo.ring.skip audioFifoFrames
      (min fifo.frameCount (readLimit interleaved maxFrames)) := by
  obtain ⟨hframes, -, -⟩ := readAudio_spec fifo interleaved maxFrames
  rw [← hframes]
  unfold readAudio
  by_cases hnone : interleaved = none ∧ maxFrames ≠ 0
  · rw [if_pos hnone]
    have hfirst : (fifo.readIndex + 0) % audioFifoFrames = fifo.readIndex :=
      Nat.mod_eq_of_lt h.first_lt
    show fifo.ring = ⟨_, (fifo.readIndex + 0) % audioFifoFrames, _⟩
    rw [hfirst]
    rfl
  · rw [if_neg hnone]
    rfl

/-! ## The refinement -/

/-- The queue is within its bounds and holds the list. -/
structure Represents (h : AudioHistory) (q : RecentFrames) : Prop where
  bounded : h.fifo.ring.Bounded audioFifoFrames
  contents : h.fifo.ring.contents audioFifoFrames = q.unread
  pushed : h.pushed = q.pushed
  returned : h.returned = q.returned

/-- **One call keeps the queue and the list together.** -/
theorem represents_step (h : AudioHistory) (q : RecentFrames) (call : AudioCall)
    (hrep : Represents h q) : Represents (h.step call) (q.step call) := by
  obtain ⟨hbounded, hcontents, hpushed, hreturned⟩ := hrep
  cases call with
  | push left right =>
    rw [AudioHistory.step_push, RecentFrames.step_push]
    constructor
    · rw [ring_audioFifoPush]
      exact hbounded.push (left, right)
    · rw [ring_audioFifoPush, RingBuffer.contents_push hbounded, hcontents]
    · exact congrArg (· ++ [(left, right)]) hpushed
    · exact hreturned
  | read interleaved maxFrames =>
    obtain ⟨-, hread, -⟩ := readAudio_spec h.fifo interleaved maxFrames
    constructor
    · show (readAudio h.fifo interleaved maxFrames).2.2.ring.Bounded audioFifoFrames
      rw [ring_readAudio _ _ _ hbounded]
      exact hbounded.skip _
    · show (readAudio h.fifo interleaved maxFrames).2.2.ring.contents audioFifoFrames = _
      have hlength : h.fifo.frameCount = q.unread.length := by
        rw [← hcontents, RingBuffer.length_contents]
        rfl
      rw [ring_readAudio _ _ _ hbounded, RingBuffer.contents_skip, hcontents, hlength]
      show q.unread.drop _ = q.unread.drop _
      rcases Nat.le_total q.unread.length (readLimit interleaved maxFrames) with hall | hsome
      · rw [Nat.min_eq_left hall, List.drop_length, List.drop_eq_nil_of_le hall]
      · rw [Nat.min_eq_right hsome]
    · exact hpushed
    · show h.returned ++ framesRead (readAudio h.fifo interleaved maxFrames) =
        q.returned ++ q.unread.take _
      rw [hread, hcontents, hreturned]
  | clear =>
    constructor
    · exact ⟨audioFifoFrames_pos, Nat.zero_le _⟩
    · rfl
    · exact hpushed
    · exact hreturned

/-- **The audio queue is a list of the most recent unread frames**: after any calls its indices are
within bounds, it holds what the list holds and its reads returned what the list's did; what was
returned is in push order, each frame at most once; and the next read, whatever its limit, returns
the oldest frames and touches no sample behind them. -/
theorem audio_fifo_refines (samples : Samples) (calls : List AudioCall) :
    let h := run AudioHistory.step (AudioHistory.start samples) calls
    let q := run RecentFrames.step ⟨[], [], []⟩ calls
    (h.fifo.readIndex < audioFifoFrames ∧ h.fifo.frameCount ≤ audioFifoFrames) ∧
    h.fifo.ring.contents audioFifoFrames = q.unread ∧
    h.pushed = q.pushed ∧ h.returned = q.returned ∧
    (h.returned ++ q.unread).Sublist h.pushed ∧
    ∀ interleaved maxFrames,
      let result := readAudio h.fifo interleaved maxFrames
      result.1 = min q.unread.length (readLimit interleaved maxFrames) ∧
      framesRead result = q.unread.take (readLimit interleaved maxFrames) ∧
      ∀ buffer, interleaved = some buffer → ∃ buffer', result.2.1 = some buffer' ∧
        ∀ index, result.1 ≤ index → frameAt buffer' index = frameAt buffer index := by
  have hrep : Represents (run AudioHistory.step (AudioHistory.start samples) calls)
      (run RecentFrames.step ⟨[], [], []⟩ calls) := by
    exact run_simulates represents_step calls
      ⟨⟨audioFifoFrames_pos, Nat.zero_le _⟩, rfl, rfl, rfl⟩
  have horder : (run RecentFrames.step ⟨[], [], []⟩ calls).InPushOrder :=
    run_invariant inPushOrder_step calls (List.Sublist.refl _)
  intro h q
  obtain ⟨hbounded, hcontents, hpushed, hreturned⟩ := hrep
  refine ⟨⟨hbounded.first_lt, hbounded.count_le⟩, hcontents, hpushed, hreturned, ?_, ?_⟩
  · rw [hreturned, hpushed]
    exact horder
  · intro interleaved maxFrames
    obtain ⟨hframes, hread, hrest⟩ := readAudio_spec h.fifo interleaved maxFrames
    rw [hcontents] at hread
    have hlength : h.fifo.frameCount = q.unread.length := by
      rw [← hcontents, RingBuffer.length_contents]
      rfl
    rw [hlength] at hframes
    exact ⟨hframes, hread, hrest⟩

end DualBoy.Sameboy
