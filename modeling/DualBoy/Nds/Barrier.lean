import DualBoy.Engine
import DualBoy.Lib.Run

/-!
# The frame barrier of the NDS pair

The thread that calls the engine and the two renderer workers, by their critical sections under
`frame_mutex`, with the condition variables they sleep on. A notification is a step of its own, and
a sleeper may also wake for nothing.
-/

namespace DualBoy.Nds

open DualBoy.Lib

/-! ## States -/

/-- `FrameState`. -/
inductive FrameState where
  | idle
  | running
  | deadlineExceeded
  | poisoned
  | shuttingDown
  deriving DecidableEq, Repr

/-- `enum dualboy_video_renderer`. -/
inductive VideoRenderer where
  | software
  | opengl
  deriving DecidableEq, Repr

/-- `struct dualboy_machine_input`. -/
structure MachineInput where
  buttons : BitVec 16
  touchActive : Bool
  touchX : BitVec 16
  touchY : BitVec 16
  deriving DecidableEq, Repr

/-- Why `RunFrame` fails. -/
inductive FrameError where
  /-- both Nintendo DS machines must be loaded -/
  | notLoaded
  /-- Nintendo DS pair is unavailable after an earlier frame, reset, or renderer failure -/
  | unavailable
  /-- a Nintendo DS frame is already running -/
  | alreadyRunning
  /-- machine cartridge save extent changed unexpectedly -/
  | saveExtentChanged (machine : Fin 2)
  /-- Local Link cannot run with the OpenGL renderer -/
  | linkWithOpenGL
  /-- Nintendo DS OpenGL frame exceeded the worker deadline -/
  | openGLTimedOut
  | openGLFailed
  /-- machine frame failed -/
  | machineFailed (machine : Fin 2)
  /-- Nintendo DS frame workers timed out -/
  | timedOut
  deriving DecidableEq, Repr

/-- Where a worker is in `WorkerMain`. -/
inductive WorkerPoint where
  /-- about to lock, at the top of the loop or out of `start_cv.wait` -/
  | awake
  /-- in `start_cv.wait` -/
  | asleep
  /-- out of `state_cv.wait` and in it, with its frame held -/
  | heldAwake
  | heldAsleep
  /-- about to call `ExecuteMachine` -/
  | starting
  /-- in `ExecuteMachine`, which found the abort requested or not -/
  | executing (aborted : Bool)
  /-- about to report -/
  | completing (success : Bool)
  /-- about to notify `done_cv` -/
  | notifying
  | exited
  deriving DecidableEq, Repr

/-- A worker with what the pair keeps for it. -/
structure Worker where
  point : WorkerPoint
  observedGeneration : Nat
  /-- `worker_success` -/
  success : Bool
  /-- `debug_hold_next_frame` and `debug_frame_held` -/
  holdNextFrame : Bool
  frameHeld : Bool
  /-- The frames it called `ExecuteMachine` in, by number. Nothing reads them. -/
  calls : List Nat
  deriving DecidableEq, Repr

/-- Where the calling thread is. -/
inductive MainPoint where
  /-- in no call -/
  | idle
  /-- in `RunFrame`, past the check of the frame state -/
  | validating
  /-- in the machines' frames on their OpenGL contexts -/
  | rendering
  /-- about to notify `start_cv` -/
  | notifying
  /-- out of `done_cv.wait_for` and in it -/
  | awake
  | asleep
  /-- out of `done_cv.wait` and in it, after the deadline -/
  | lateAwake
  | lateAsleep
  /-- about to call `SetLink(false)` -/
  | unlinking
  /-- in `ShutdownWorkers`: about to notify `start_cv`, to notify `state_cv`, to join -/
  | shutdownStart
  | shutdownState
  | joining
  | finished
  deriving DecidableEq, Repr

/-- `MelonDSPair`, with its threads. -/
structure Pair where
  frameState : FrameState
  generation : Nat
  completedWorkers : Nat
  abortRequested : Bool
  videoRenderer : VideoRenderer
  linkEnabled : Bool
  input : Fin 2 → MachineInput
  /-- How often each machine was reset. -/
  resets : Fin 2 → Nat
  worker : Fin 2 → Worker
  main : MainPoint
  /-- What the last `RunFrame` returned. -/
  returned : Option (Except FrameError Unit)
  /-- How many frames the workers were given. Nothing reads it. -/
  dispatched : Nat

namespace Worker

/-- A worker whose thread has just started. -/
def start : Worker where
  point := .awake
  observedGeneration := 0
  success := true
  holdNextFrame := false
  frameHeld := false
  calls := []

/-- `start_cv` is notified. -/
def notifiedStart (w : Worker) : Worker :=
  if w.point = .asleep then { w with point := .awake } else w

/-- `state_cv` is notified. -/
def notifiedState (w : Worker) : Worker :=
  if w.point = .heldAsleep then { w with point := .heldAwake } else w

end Worker

namespace Pair

def start (renderer : VideoRenderer) (link : Bool) (input : Fin 2 → MachineInput) : Pair where
  frameState := .idle
  generation := 0
  completedWorkers := 0
  abortRequested := false
  videoRenderer := renderer
  linkEnabled := link
  input := input
  resets := fun _ => 0
  worker := fun _ => .start
  main := .idle
  returned := none
  dispatched := 0

/-! ## Calls that wait for no worker -/

/-- The end of a renderer change, as the OpenGL contexts report it: done, undone, or the machines
could not be put back. -/
inductive Transition where
  | done
  | undone
  | retired
  deriving DecidableEq, Repr

/-- A call that a frame state other than `Idle` turns away. -/
inductive Call where
  /-- with the number of machines that an OpenGL context resets without failing -/
  | reset (done : Nat)
  | setLegacyInput (machine : Fin 2) (buttons : BitVec 16)
  | setMachineInput (machine : Fin 2) (input : MachineInput)
  | setVideoRenderer (renderer : VideoRenderer) (transition : Transition)
  deriving DecidableEq, Repr

def setInput (s : Pair) (machine : Fin 2) (input : MachineInput) : Pair :=
  { s with input := fun m => if m = machine then input else s.input m }

/-- `PoisonRendererPair`. -/
def poisonRendererPair (s : Pair) : Pair :=
  { s with frameState := .poisoned, abortRequested := true, videoRenderer := .opengl }

/-- `Reset`, when the pair is idle. -/
def reset (s : Pair) (done : Nat) : Pair :=
  match s.videoRenderer with
  | .software => { s with resets := fun m => s.resets m + 1 }
  | .opengl =>
    let s := { s with resets := fun m => if m.val < done then s.resets m + 1 else s.resets m }
    if done < 2 then { s with abortRequested := true, frameState := .poisoned } else s

/-- `SetVideoRenderer`, when the pair is idle. -/
def setVideoRenderer (s : Pair) (renderer : VideoRenderer) (transition : Transition) : Pair :=
  if renderer = s.videoRenderer then s
  else
    match renderer, transition with
    | .opengl, .done => if s.linkEnabled then s else { s with videoRenderer := .opengl }
    | .opengl, .undone => s
    | .opengl, .retired => if s.linkEnabled then s else s.poisonRendererPair
    | .software, .done | .software, .undone => { s with videoRenderer := .software }
    | .software, .retired => s.poisonRendererPair

/-- The critical section of a call. -/
def call (s : Pair) (c : Call) : Pair :=
  if s.frameState ≠ .idle then s
  else
    match c with
    | .reset done => s.reset done
    | .setLegacyInput machine buttons =>
      s.setInput machine { s.input machine with buttons, touchActive := false }
    | .setMachineInput machine input => s.setInput machine input
    | .setVideoRenderer renderer transition => s.setVideoRenderer renderer transition

/-- `MelonDSPair::SetLink`. -/
def setLink (s : Pair) (enabled : Bool) : Pair :=
  if enabled ∧ s.videoRenderer = .opengl then s else { s with linkEnabled := enabled }

/-! ## The calling thread -/

def withMain (s : Pair) (main : MainPoint) : Pair :=
  { s with main }

def return_ (s : Pair) (result : Except FrameError Unit) : Pair :=
  { s with main := .idle, returned := some result }

def notifyStart (s : Pair) : Pair :=
  { s with worker := fun w => (s.worker w).notifiedStart }

def notifyState (s : Pair) : Pair :=
  { s with worker := fun w => (s.worker w).notifiedState }

/-- The start of `RunFrame`, up to the end of its first critical section. -/
def runFrame (s : Pair) (loaded : Bool) : Pair :=
  if loaded = false then s.return_ (.error .notLoaded)
  else if s.frameState = .poisoned then s.return_ (.error .unavailable)
  else if s.frameState ≠ .idle then s.return_ (.error .alreadyRunning)
  else s.withMain .validating

/-- The critical section that gives the workers a frame. -/
def dispatch (s : Pair) : Pair :=
  { s with
    completedWorkers := 0
    worker := fun w => { s.worker w with success := true }
    abortRequested := false
    frameState := .running
    generation := (s.generation + 1) % 2 ^ 64
    main := .notifying
    dispatched := s.dispatched + 1 }

/-- The checks that are made without the lock, and what follows them. -/
def validate (s : Pair) (changed : Option (Fin 2)) : Pair :=
  match changed, s.videoRenderer with
  | some machine, _ => s.return_ (.error (.saveExtentChanged machine))
  | none, .software => s.dispatch
  | none, .opengl =>
    if s.linkEnabled then s.return_ (.error .linkWithOpenGL)
    else { s with abortRequested := false, frameState := .running, main := .rendering }

/-- The end of an OpenGL frame, in which a machine failed or the deadline passed. -/
def endOpenGLFrame (s : Pair) (success expired : Bool) : Pair :=
  let s :=
    { s with
      abortRequested := s.abortRequested || expired || !success
      frameState := if !success || expired then .poisoned else .idle }
  s.return_ (if expired then .error .openGLTimedOut
    else if success then .ok () else .error .openGLFailed)

/-- What `RunFrame` returns after a barrier in time: the first machine that failed. -/
def outcome (s : Pair) : Except FrameError Unit :=
  if (s.worker 0).success = false then .error (.machineFailed 0)
  else if (s.worker 1).success = false then .error (.machineFailed 1)
  else .ok ()

/-- The wait for the workers, with the lock, before the deadline. -/
def await (s : Pair) : Pair :=
  if s.completedWorkers = 2 then
    let s := { s with frameState := .idle }.notifyState
    s.return_ s.outcome
  else s.withMain .asleep

/-- The wait after the deadline. -/
def awaitLate (s : Pair) : Pair :=
  if s.completedWorkers = 2 then
    { s with frameState := .poisoned, main := .unlinking }.notifyState
  else s.withMain .lateAsleep

/-- The deadline passes in `wait_for`, which looks once more. -/
def expire (s : Pair) : Pair :=
  if s.completedWorkers = 2 then s.await
  else
    let s := { s with frameState := .deadlineExceeded, abortRequested := true }.notifyState
    s.awaitLate

/-- The critical section of `ShutdownWorkers`. -/
def shutdown (s : Pair) : Pair :=
  let s := s.withMain .shutdownStart
  if s.frameState ≠ .shuttingDown then
    { s with
      frameState := .shuttingDown
      abortRequested := true
      generation := (s.generation + 1) % 2 ^ 64 }
  else s

/-- The calling thread goes on, where it needs nothing from outside. -/
def goOn (s : Pair) : Option Pair :=
  match s.main with
  | .notifying => some (s.notifyStart.withMain .awake)
  | .awake => some s.await
  | .lateAwake => some s.awaitLate
  | .unlinking => some ({ s with linkEnabled := false }.return_ (.error .timedOut))
  | .shutdownStart => some (s.notifyStart.withMain .shutdownState)
  | .shutdownState => some (s.notifyState.withMain .joining)
  | .joining =>
    if (s.worker 0).point = .exited ∧ (s.worker 1).point = .exited then
      some (s.withMain .finished)
    else none
  | _ => none

/-! ## The workers -/

def withWorker (s : Pair) (w : Fin 2) (worker : Worker) : Pair :=
  { s with worker := fun v => if v = w then worker else s.worker v }

def withPoint (s : Pair) (w : Fin 2) (point : WorkerPoint) : Pair :=
  s.withWorker w { s.worker w with point }

/-- The critical section at the top of the loop. -/
def observe (s : Pair) (w : Fin 2) : Pair :=
  if s.frameState = .shuttingDown then s.withPoint w .exited
  else if (s.worker w).observedGeneration < s.generation then
    if (s.worker w).holdNextFrame then
      s.notifyState.withWorker w
        { s.worker w with
          point := .heldAsleep
          observedGeneration := s.generation
          holdNextFrame := false
          frameHeld := true }
    else
      s.withWorker w { s.worker w with point := .starting, observedGeneration := s.generation }
  else s.withPoint w .asleep

/-- The wait for a held frame. -/
def observeHold (s : Pair) (w : Fin 2) : Pair :=
  if s.frameState = .shuttingDown then s.withPoint w .exited
  else if (s.worker w).frameHeld then s.withPoint w .heldAsleep
  else s.withPoint w .starting

/-- `done_cv` is notified. -/
def notifyDone (s : Pair) : Pair :=
  match s.main with
  | .asleep => s.withMain .awake
  | .lateAsleep => s.withMain .lateAwake
  | _ => s

/-- A worker goes on, where it needs nothing from outside. -/
def goOnWorker (s : Pair) (w : Fin 2) : Option Pair :=
  match (s.worker w).point with
  | .awake => some (s.observe w)
  | .heldAwake => some (s.observeHold w)
  | .starting =>
    some (s.withWorker w
      { s.worker w with
        point := .executing s.abortRequested
        calls := (s.worker w).calls ++ [s.dispatched] })
  | .completing success =>
    some ({ s with completedWorkers := s.completedWorkers + 1 }.withWorker w
      { s.worker w with point := .notifying, success })
  | .notifying => some (s.notifyDone.withPoint w .awake)
  | _ => none

/-! ## Steps -/

inductive Thread where
  | main
  | worker (w : Fin 2)
  deriving DecidableEq, Repr

/-- What happens next. -/
inductive Action where
  | call (c : Call)
  | setLink (enabled : Bool)
  | runFrame (loaded : Bool)
  | validate (changed : Option (Fin 2))
  | endOpenGLFrame (success expired : Bool)
  | expire
  | shutdown
  | goOn (t : Thread)
  /-- `ExecuteMachine` returns -/
  | finish (w : Fin 2) (success : Bool)
  /-- a sleeper wakes without a notification -/
  | wake (t : Thread)
  | holdNextFrame (w : Fin 2)
  | releaseFrameHold (w : Fin 2)
  | notifyState
  deriving DecidableEq, Repr

/-- The step an action makes, when the thread it is of has come to it. -/
def act (s : Pair) : Action → Option Pair
  | .call c => if s.main = .idle then some (s.call c) else none
  | .setLink enabled => if s.main = .idle then some (s.setLink enabled) else none
  | .runFrame loaded => if s.main = .idle then some (s.runFrame loaded) else none
  | .validate changed => if s.main = .validating then some (s.validate changed) else none
  | .endOpenGLFrame success expired =>
    if s.main = .rendering then some (s.endOpenGLFrame success expired) else none
  | .expire => if s.main = .asleep then some s.expire else none
  | .shutdown => if s.main = .idle then some s.shutdown else none
  | .goOn .main => s.goOn
  | .goOn (.worker w) => s.goOnWorker w
  | .finish w success =>
    match (s.worker w).point with
    | .executing aborted => some (s.withPoint w (.completing (success && !aborted)))
    | _ => none
  | .wake .main =>
    match s.main with
    | .asleep | .lateAsleep => some s.notifyDone
    | _ => none
  | .wake (.worker w) =>
    match (s.worker w).point with
    | .asleep => some (s.withPoint w .awake)
    | .heldAsleep => some (s.withPoint w .heldAwake)
    | _ => none
  | .holdNextFrame w =>
    if s.frameState = .idle ∧ (s.worker w).holdNextFrame = false ∧ (s.worker w).frameHeld = false
    then some (s.withWorker w { s.worker w with holdNextFrame := true })
    else none
  | .releaseFrameHold w =>
    if (s.worker w).holdNextFrame ∨ (s.worker w).frameHeld then
      some (s.withWorker w { s.worker w with holdNextFrame := false, frameHeld := false })
    else none
  | .notifyState =>
    if (s.worker 0).point = .heldAsleep ∨ (s.worker 1).point = .heldAsleep then some s.notifyState
    else none

/-- One step; what no thread has come to does nothing. -/
def step (s : Pair) (a : Action) : Pair :=
  (s.act a).getD s

end Pair

end DualBoy.Nds
