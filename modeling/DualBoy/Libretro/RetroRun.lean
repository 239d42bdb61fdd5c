import DualBoy.Libretro.Core
import DualBoy.Libretro.Presentation
import DualBoy.Sameboy.Audio

/-!
# What the frontend is told

`libretro_core.c` as far as it decides what the frontend sees, hears and is asked for: the input of
a frame, the frame itself, its geometry, picture and sound, and the fast-forward override that local
wireless needs. An engine's pair is a parameter with the operations `retro_run` calls (`EngineOps`);
how an option update or the restore of a saved state ends is given to the entry point.

`calls` lists what the frontend has been called with, and `complete` the frames and the display of
the last complete frame; nothing reads them.
-/

namespace DualBoy.Libretro

open DualBoy.Lib DualBoy.Frontend DualBoy.Nds DualBoy.Sameboy

/-! ## Constants -/

/-- `DUALBOY_CONTROLLER_PORT_COUNT`. -/
def controllerPortCount : Nat := 5

/-- `DUALBOY_AUDIO_BUFFER_FRAMES`. -/
def audioBufferFrames : Nat := 4096

/-- `DUALBOY_AUDIO_DRAIN_LIMIT`. -/
def audioDrainLimit : Nat := 16

/-- `DUALBOY_MAX_COMPOSITE_PIXELS`. -/
def maxCompositePixels : Nat := maxCompositeWidth * maxCompositeHeight

/-- `RETRO_DEVICE_NONE`. -/
def deviceNone : Nat := 0

/-- `RETRO_DEVICE_JOYPAD`. -/
def deviceJoypad : Nat := 1

/-- `RETRO_DEVICE_ANALOG`. -/
def deviceAnalog : Nat := 5

/-- `RETRO_DEVICE_MASK`. -/
def deviceMask : Nat := 0xff

/-- `RETRO_DEVICE_ID_JOYPAD_R2`. -/
def joypadR2 : Nat := 13

/-- `RETRO_DEVICE_ID_JOYPAD_R3`. -/
def joypadR3 : Nat := 15

/-! ## State -/

/-- The engine operations of a frame. `runFrame` answers with an error or none, `readAudio` with the
number of frames it says it has written, and the frames. -/
structure EngineOps (P : Type) where
  setMachineInput : P → Fin 2 → MachineInput → P
  runFrame : P → P × Option String
  videoFrame : P → Fin 2 → Option VideoFrame
  readAudio : P → Nat → P × Nat × (Nat → StereoFrame)
  linkTransportActive : P → Bool
  reset : P → P

/-- What the frontend is called with. -/
inductive FrontendCall where
  /-- `RETRO_ENVIRONMENT_SET_FASTFORWARDING_OVERRIDE` -/
  | fastforwardOverride (inhibit : Bool)
  /-- `RETRO_ENVIRONMENT_SET_GEOMETRY` -/
  | setGeometry (geometry : Geometry)
  | video (picture : VideoFrame)
  /-- `audio_batch`, or `audio` once for each frame -/
  | audio (frames : List StereoFrame)
  | frameFailure (message : String)
  /-- `RETRO_ENVIRONMENT_SHUTDOWN` -/
  | shutdown

/-- `struct dualboy_session`, when loaded. -/
structure LoadedPair (P : Type) where
  pair : P
  /-- the platform of the first cartridge is the NDS -/
  nds : Bool
  compositePixels : Memory
  composite : VideoFrame
  display : CompositorConfig
  complete : Option ((Fin 2 → VideoFrame) × CompositorConfig)

/-- `struct dualboy_libretro_context`. -/
structure Context (P : Type) where
  initialized : Bool
  options : Options
  portDevices : Nat → Nat
  session : Option (LoadedPair P)
  touchCursors : Fin 2 → TouchCursor
  presentationBuffer : Memory
  geometryValid : Bool
  lastGeometry : Geometry
  fastforwardOverrideKnown : Bool
  fastforwardInhibited : Bool
  frameFailureLogged : Bool
  lastFrameFailure : String
  calls : List FrontendCall

/-- What the frontend's input callbacks report in a frame. -/
structure InputState where
  /-- the core may ask for `RETRO_DEVICE_ID_JOYPAD_MASK` -/
  bitmasks : Bool
  mask : Nat → BitVec 16
  button : Nat → Nat → BitVec 16
  analogX : Nat → BitVec 16
  analogY : Nat → BitVec 16
  contact : Nat → Contact
  nowUsec : Option Nat

/-- How `update_options` ends. -/
structure OptionsUpdate (P : Type) where
  options : Options
  /-- what a change of the link or of the renderer makes of the pair -/
  pair : P → P
  /-- `retire_failed_renderer_session` -/
  retired : Bool

namespace Context

variable {P : Type}

/-- `core` as `retro_deinit` leaves it, all zero. -/
def zeroed (calls : List FrontendCall) : Context P where
  initialized := false
  options :=
    { mode := .dual
      layout := .sideBySide
      linkEnabled := false
      controllerPorts := fun _ => 0
      swapScreens := false
      audioPlayer1 := false
      ndsRenderer := .software }
  portDevices := fun _ => deviceNone
  session := none
  touchCursors := fun _ => touchCursorReset
  presentationBuffer := fun _ => 0
  geometryValid := false
  lastGeometry := ⟨0, 0⟩
  fastforwardOverrideKnown := false
  fastforwardInhibited := false
  frameFailureLogged := false
  lastFrameFailure := ""
  calls := calls

/-- `core` as `retro_init` leaves it, with these options. -/
def initial (options : Options) (calls : List FrontendCall) : Context P :=
  { zeroed calls with initialized := true, options, portDevices := fun _ => deviceJoypad }

/-- `ensure_initialized`, but for the options, which are read again behind it. -/
def ensureInitialized (c : Context P) : Context P :=
  if c.initialized then c
  else
    { c with
      initialized := true
      options := .defaults
      portDevices := fun _ => deviceJoypad
      session := none }

def call (c : Context P) (call : FrontendCall) : Context P :=
  { c with calls := c.calls ++ [call] }

/-- The engine changes its pair. -/
def mapPair (c : Context P) (f : P → P) : Context P :=
  { c with session := c.session.map fun s => { s with pair := f s.pair } }

/-! ## Fast-forward -/

/-- `transport_requires_realtime`. -/
def transportRequiresRealtime (ops : EngineOps P) (c : Context P) : Bool :=
  c.session.any fun s => ops.linkTransportActive s.pair

/-- `set_fastforward_inhibition`. -/
def setFastforwardInhibition (c : Context P) (inhibit : Bool) : Context P :=
  if c.fastforwardOverrideKnown = false ∧ inhibit = false then c
  else if c.fastforwardOverrideKnown = true ∧ c.fastforwardInhibited = inhibit then c
  else
    { c with fastforwardOverrideKnown := true, fastforwardInhibited := inhibit }.call
      (.fastforwardOverride inhibit)

/-- `synchronize_fastforward_policy`. -/
def synchronizeFastforwardPolicy (ops : EngineOps P) (c : Context P) : Context P :=
  let inhibit := c.transportRequiresRealtime ops
  if inhibit = true ∨ (c.fastforwardOverrideKnown = true ∧ c.fastforwardInhibited = true) then
    c.setFastforwardInhibition inhibit
  else c

/-! ## Sessions -/

/-- `reset_touch_cursors`. -/
def resetTouchCursors (c : Context P) : Context P :=
  { c with touchCursors := fun _ => touchCursorReset }

/-- `unload_current`, and `discard_current`, which does the same here. -/
def unloadCurrent (c : Context P) : Context P :=
  { (c.setFastforwardInhibition false) with
    session := none
    touchCursors := fun _ => touchCursorReset
    geometryValid := false
    frameFailureLogged := false
    lastFrameFailure := "" }

theorem unloadCurrent_ensureInitialized (c : Context P) :
    c.ensureInitialized.unloadCurrent =
      { c.unloadCurrent with
        initialized := true
        options := c.ensureInitialized.options
        portDevices := c.ensureInitialized.portDevices } := by
  unfold ensureInitialized
  split
  · rename_i hinitialized
    unfold unloadCurrent setFastforwardInhibition call
    split_ifs <;> simp [hinitialized]
  · unfold unloadCurrent setFastforwardInhibition call
    split_ifs <;> rfl

/-- `current_display`. -/
def currentDisplay (c : Context P) : CompositorConfig where
  mode := c.options.mode
  layout := c.options.layout
  swapScreens := c.options.swapScreens

/-- `retro_load_game` and `retro_load_game_special`: the options as they are read then, and the pair
that is loaded, if there is one, with whether it is of the NDS. -/
def loadGame (c : Context P) (options : Options) (loaded : Option (P × Bool)) : Context P :=
  let c := { c.ensureInitialized.unloadCurrent with options := options }
  match loaded with
  | none => c
  | some (pair, nds) =>
    { c with
      session := some
        { pair
          nds
          compositePixels := fun _ => 0
          composite := { pixels := none, width := 0, height := 0, pitch := 0 }
          display := c.currentDisplay
          complete := none }
      geometryValid := false }

/-- The end of `update_options`. -/
def updateOptions (c : Context P) (update : OptionsUpdate P) : Context P :=
  let c :=
    { c.mapPair update.pair with
      options := update.options
      touchCursors := fun machine =>
        if update.options.controllerPorts machine ≠ c.options.controllerPorts machine then
          touchCursorReset
        else c.touchCursors machine }
  if update.retired then c.unloadCurrent.call .shutdown else c

/-- `retro_set_controller_port_device`. -/
def setControllerPortDevice (c : Context P) (port device : Nat) : Context P :=
  let baseDevice := device &&& deviceMask
  if controllerPortCount ≤ port then c
  else
    { c with
      portDevices := fun p =>
        if p = port then
          if baseDevice = deviceJoypad ∨ baseDevice = deviceAnalog ∨ baseDevice = deviceNone then
            baseDevice
          else deviceNone
        else c.portDevices p }

/-! ## Input -/

/-- `port_has_controller`. -/
def portHasController (c : Context P) (port : Nat) : Bool :=
  let device := if port < controllerPortCount then c.portDevices port &&& deviceMask else deviceNone
  device = deviceJoypad || device = deviceAnalog

/-- `read_port_button_mask`. -/
def readPortButtonMask (c : Context P) (i : InputState) (port : Nat) : BitVec 16 :=
  if c.portHasController port = false then 0
  else if i.bitmasks then i.mask port
  else
    (List.range (joypadR3 + 1)).foldl
      (fun buttons id => if i.button port id ≠ 0 then buttons ||| (1#16 <<< id) else buttons) 0

/-- The stick as `read_machine_input` hands it to the cursor. -/
def stickSample (c : Context P) (i : InputState) (port : Nat) : CursorSample :=
  let touchX := normalizedCoordinate (i.analogX port) ndsScreenWidth
  let touchY := normalizedCoordinate (i.analogY port) ndsScreenHeight
  { x := touchX
    y := touchY
    initiallyDeflected :=
      touchX + touchCursorMotionPixels ≤ ndsScreenWidth / 2 ||
        ndsScreenWidth / 2 + touchCursorMotionPixels ≤ touchX ||
        touchY + touchCursorMotionPixels ≤ ndsScreenHeight / 2 ||
        ndsScreenHeight / 2 + touchCursorMotionPixels ≤ touchY
    pressed := (c.readPortButtonMask i port).getLsbD joypadR3
    nowUsec := i.nowUsec.getD 0 }

/-- `read_machine_input`: the input, and the machine's cursor. -/
def readMachineInput (c : Context P) (nds : Bool) (i : InputState) (machine : Fin 2) :
    MachineInput × TouchCursor :=
  let port := c.options.controllerPorts machine
  let buttonMask := c.readPortButtonMask i port
  let input : MachineInput :=
    { buttons := buttonMask &&& 0x0fff#16, touchActive := false, touchX := 0, touchY := 0 }
  if nds && c.portHasController port then
    let sample := c.stickSample i port
    let cursor := touchCursorUpdate i.nowUsec.isSome (c.touchCursors machine) sample
    if sample.pressed || (buttonMask.getLsbD joypadR2 && cursor.visible) then
      ({ input with
          touchActive := true
          touchX := BitVec.ofNat 16 sample.x
          touchY := BitVec.ofNat 16 sample.y }, cursor)
    else (input, cursor)
  else (input, touchCursorReset)

/-! ## Frames -/

end Context

namespace LoadedPair

variable {P : Type}

/-- The two frames of the engine, if it has both. -/
def videoFrames (ops : EngineOps P) (pair : P) : Option (Fin 2 → VideoFrame) := do
  let first ← ops.videoFrame pair 0
  let second ← ops.videoFrame pair 1
  some fun machine => if machine = 0 then first else second

/-- `dualboy_session_run`: the session, and the error, if there is one. -/
def run (ops : EngineOps P) (s : LoadedPair P) (inputs : Fin 2 → MachineInput)
    (display : CompositorConfig) : LoadedPair P × Option String :=
  let pair := ops.setMachineInput (ops.setMachineInput s.pair 0 (inputs 0)) 1 (inputs 1)
  match ops.runFrame pair with
  | (pair, some error) =>
    ({ s with pair }, some (if error = "" then "unknown engine error" else error))
  | (pair, none) =>
    let s := { s with pair }
    match videoFrames ops pair with
    | none => (s, some "engine did not produce both video frames")
    | some frames =>
      match composeFrame s.compositePixels maxCompositePixels frames display with
      | none => (s, some "unable to compose engine video frames")
      | some (output, composite) =>
        ({ s with
            compositePixels := output, composite, display, complete := some (frames, display) }, none)

end LoadedPair

namespace Context

variable {P : Type}

/-- `publish_geometry`. -/
def publishGeometry (c : Context P) (geometry : Geometry) : Context P :=
  if c.geometryValid = true ∧ geometry = c.lastGeometry then c
  else { c with geometryValid := true, lastGeometry := geometry }.call (.setGeometry geometry)

/-- What `publish_video_with_touch_cursors` works with. -/
def presentation (ops : EngineOps P) (c : Context P) (s : LoadedPair P)
    (pointerAssigned : Fin 2 → Bool) : Presentation where
  ndsSessionLoaded := s.nds
  composite := s.composite
  display := s.display
  videoFrame := ops.videoFrame s.pair
  touchCursors := c.touchCursors
  pointerAssigned := pointerAssigned

/-- `publish_video_with_touch_cursors`. -/
def publishVideo (ops : EngineOps P) (c : Context P) (s : LoadedPair P)
    (pointerAssigned : Fin 2 → Bool) : Context P :=
  let (buffer, picture) := (c.presentation ops s pointerAssigned).publishVideo c.presentationBuffer
  let c := { c with presentationBuffer := buffer }
  match picture with
  | none => c
  | some picture => c.call (.video picture)

/-- The loop of `drain_audio`: the pair behind it, and the batches for the frontend. -/
def drainLoop (ops : EngineOps P) : Nat → P → P × List (List StereoFrame)
  | 0, pair => (pair, [])
  | left + 1, pair =>
    let (pair, written, buffer) := ops.readAudio pair audioBufferFrames
    if written = 0 then (pair, [])
    else
      let frames := min written audioBufferFrames
      let batch := (List.range frames).map buffer
      if frames < audioBufferFrames then (pair, [batch])
      else
        let (pair, batches) := drainLoop ops left pair
        (pair, batch :: batches)

/-- `drain_audio`. -/
def drainAudio (ops : EngineOps P) (c : Context P) (s : LoadedPair P) : Context P :=
  let (pair, batches) := drainLoop ops audioDrainLimit s.pair
  { c with
    session := some { s with pair }
    calls := c.calls ++ if c.options.audioPlayer1 then batches.map .audio else [] }

/-- A frame that fails is told once, as long as its message is the same. -/
def reportFailure (c : Context P) (message : String) : Context P :=
  if c.frameFailureLogged = false ∨ c.lastFrameFailure ≠ message then
    { c with frameFailureLogged := true, lastFrameFailure := message }.call (.frameFailure message)
  else c

/-- The inputs of both machines: the stick and the buttons, then the pointer. -/
def readInputs (ops : EngineOps P) (c : Context P) (s : LoadedPair P) (i : InputState)
    (display : CompositorConfig) : Context P × PointerTargets :=
  let first := c.readMachineInput s.nds i 0
  let second := c.readMachineInput s.nds i 1
  ({ c with touchCursors := fun machine => if machine = 0 then first.2 else second.2 },
    applyPointerContacts
      { ndsSessionLoaded := s.nds
        inputState := some i.contact
        display := some display
        videoFrame := some (ops.videoFrame s.pair) }
      fun machine => if machine = 0 then first.1 else second.1)

/-- The end of `retro_run` after a frame that failed. -/
def failedFrame (ops : EngineOps P) (c : Context P) (s : LoadedPair P) (message : String)
    (pointerAssigned : Fin 2 → Bool) : Context P :=
  let c := { c with session := some s }.reportFailure message
  (c.publishVideo ops s pointerAssigned).synchronizeFastforwardPolicy ops

/-- The end of `retro_run` after a complete frame. -/
def completeFrame (ops : EngineOps P) (c : Context P) (s : LoadedPair P)
    (pointerAssigned : Fin 2 → Bool) : Context P :=
  let c := { c with session := some s, frameFailureLogged := false, lastFrameFailure := "" }
  let c := c.synchronizeFastforwardPolicy ops
  let c := c.publishGeometry { width := s.composite.width, height := s.composite.height }
  (c.publishVideo ops s pointerAssigned).drainAudio ops s

/-- `retro_run` from the inputs on. -/
def runLoaded (ops : EngineOps P) (c : Context P) (s : LoadedPair P) (i : InputState) : Context P :=
  let display := c.currentDisplay
  let (c, targets) := (c.synchronizeFastforwardPolicy ops).readInputs ops s i display
  match s.run ops targets.inputs display with
  | (s, some message) => c.failedFrame ops s message targets.assigned
  | (s, none) => c.completeFrame ops s targets.assigned

/-- `retro_run`. -/
def retroRun (ops : EngineOps P) (c : Context P) (update : OptionsUpdate P) (i : InputState) :
    Context P :=
  match c.session with
  | none => c
  | some _ =>
    let c := c.updateOptions update
    match c.session with
    | none => c
    | some s => c.runLoaded ops s i

/-- `retro_reset`. -/
def retroReset (ops : EngineOps P) (c : Context P) : Context P :=
  (c.resetTouchCursors.mapPair ops.reset).synchronizeFastforwardPolicy ops

/-- `retro_unserialize`, with what the restore makes of the pair. -/
def retroUnserialize (ops : EngineOps P) (c : Context P) (pair : P → P) (outcome : RestoreOutcome) :
    Context P :=
  let restored := c.mapPair pair
  match c.session, outcome with
  | none, _ => c
  | some _, .rejected => restored
  | some _, .fatal => restored.unloadCurrent.call .shutdown
  | some _, .ok linkEnabled =>
    let c := { restored with options.linkEnabled := linkEnabled, geometryValid := false }
    c.synchronizeFastforwardPolicy ops

end Context

/-- The entry points. -/
inductive Entry (P : Type) where
  | init (options : Options)
  | deinit
  | loadGame (options : Options) (loaded : Option (P × Bool))
  | unloadGame
  | setControllerPortDevice (port device : Nat)
  | run (update : OptionsUpdate P) (i : InputState)
  | reset
  | unserialize (pair : P → P) (outcome : RestoreOutcome)

/-- One call of the frontend. -/
def Context.enter {P : Type} (ops : EngineOps P) (c : Context P) : Entry P → Context P
  | .init options => .initial options c.unloadCurrent.calls
  | .deinit => .zeroed c.unloadCurrent.calls
  | .loadGame options loaded => c.loadGame options loaded
  | .unloadGame => c.unloadCurrent
  | .setControllerPortDevice port device => c.setControllerPortDevice port device
  | .run update i => c.retroRun ops update i
  | .reset => c.retroReset ops
  | .unserialize pair outcome => c.retroUnserialize ops pair outcome

end DualBoy.Libretro
