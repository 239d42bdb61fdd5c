import DualBoy.Engine
import DualBoy.Lib.LittleEndian
import DualBoy.Lib.Layout
import DualBoy.Lib.Run

/-!
# The SameBoy pair

Two Game Boys and the link between them (`sameboy_adapter.c`). What the emulator does with a core is
a parameter, `Gb`; what its callbacks do to the pair is not.

A call that fails returns the text of its error, and the pair as it leaves it.
-/

namespace DualBoy.Sameboy

open DualBoy.Lib

/-! ## Constants -/

/-- `SAMEBOY_FRAME_TICK_WATCHDOG`. -/
def frameTickWatchdog : Nat := 16777216

/-- `SAMEBOY_FRAME_CALL_WATCHDOG`. -/
def frameCallWatchdog : Nat := 2000000

/-- `SAMEBOY_LINK_STATE_SIZE`. -/
def linkStateSize : Nat := 32

/-- `SAMEBOY_LINK_STATE_VERSION`. -/
def linkStateVersion : BitVec 16 := 1

/-- `SAMEBOY_LINK_FLAG_ENABLED`. -/
def linkFlagEnabled : Byte := 1

/-- `SAMEBOY_MAX_SERIALIZED_SKEW`. -/
def maxSerializedSkew : Nat := 1048576

/-! ## State -/

/-- `struct sameboy_machine`; `linkCallbacks` is whether the core has the link's callbacks. -/
structure Machine (Core : Type) where
  core : Option Core
  loaded : Bool
  vblankSeen : Bool
  linkCallbacks : Bool

/-- `struct sameboy_pair`. -/
structure Pair (Core : Type) where
  machine : Fin 2 → Machine Core
  tickSkew : Int
  serialOutput : Fin 2 → Bool
  infraredOutput : Fin 2 → Bool
  linkEnabled : Bool

/-- A callback of a core to the pair. -/
inductive Callback where
  | vblank
  | serialStart (output : Bool)
  | infraredOutput (output : Bool)

/-- What a call of `GB_run` does: the ticks it returns, its callbacks in order, and both cores
afterwards. -/
structure GbRun (Core : Type) where
  elapsed : Nat
  callbacks : List Callback
  core : Fin 2 → Option Core

/-- The emulator. `load` is `GB_init` with the cartridge, `none` for a core that cannot be had; a
state that does not load may have changed the core. -/
structure Gb (Core : Type) where
  load : Platform → List Byte → Option Core
  screenFits : Core → Bool
  reset : Core → Core
  setInfraredInput : Core → Bool → Core
  stateFits : Core → List Byte → Bool
  loadState : Core → List Byte → Core × Bool
  run : Fin 2 → Pair Core → GbRun Core

variable {Core : Type}

/-- The other machine. -/
def peerMachine (index : Fin 2) : Fin 2 := 1 - index

/-- `pair_is_ready`. -/
def Pair.isReady (pair : Pair Core) : Bool :=
  (pair.machine 0).loaded && (pair.machine 1).loaded

def Pair.setMachine (pair : Pair Core) (index : Fin 2) (machine : Machine Core) : Pair Core :=
  { pair with machine := fun i => if i = index then machine else pair.machine i }

/-- One turn of `apply_link_callbacks`. -/
def Pair.applyLinkCallback (gb : Gb Core) (pair : Pair Core) (index : Fin 2) : Pair Core :=
  let machine := pair.machine index
  match machine.loaded, machine.core with
  | true, some core =>
    if pair.linkEnabled && pair.isReady then
      pair.setMachine index
        { machine with
          core := some (gb.setInfraredInput core (pair.infraredOutput (peerMachine index)))
          linkCallbacks := true }
    else
      pair.setMachine index
        { machine with core := some (gb.setInfraredInput core false), linkCallbacks := false }
  | _, _ => pair

/-- `apply_link_callbacks`. -/
def Pair.applyLinkCallbacks (gb : Gb Core) (pair : Pair Core) : Pair Core :=
  (pair.applyLinkCallback gb 0).applyLinkCallback gb 1

/-- A callback, as `sameboy_vblank`, `sameboy_serial_start` and `sameboy_infrared_output` do it. -/
def Pair.callback (index : Fin 2) (pair : Pair Core) : Callback → Pair Core
  | .vblank => pair.setMachine index { pair.machine index with vblankSeen := true }
  | .serialStart output =>
    if (pair.machine index).linkCallbacks then
      { pair with serialOutput := fun i => if i = index then output else pair.serialOutput i }
    else pair
  | .infraredOutput output =>
    if (pair.machine index).linkCallbacks then
      { pair with infraredOutput := fun i => if i = index then output else pair.infraredOutput i }
    else pair

/-- What the pair is after a call of `GB_run` for a machine. -/
def Pair.afterRun (pair : Pair Core) (index : Fin 2) (r : GbRun Core) : Pair Core :=
  let pair := r.callbacks.foldl (Pair.callback index) pair
  { pair with machine := fun i => { pair.machine i with core := r.core i } }

/-! ## The calls -/

/-- `sameboy_create_pair`. -/
def createPair : Pair Core where
  machine := fun _ => { core := none, loaded := false, vblankSeen := false, linkCallbacks := false }
  tickSkew := 0
  serialOutput := fun _ => true
  infraredOutput := fun _ => false
  linkEnabled := false

/-- `sameboy_load_rom`. -/
def loadRom (gb : Gb Core) (pair : Pair Core) (index : Fin 2) (platform : Platform)
    (rom : List Byte) : Except String Unit × Pair Core :=
  let machine := pair.machine index
  if rom.length < 0x150 ∨ 32 * 1024 * 1024 < rom.length then
    (.error "Invalid GB/GBC ROM buffer", pair)
  else if platform ≠ .gb ∧ platform ≠ .gbc then
    (.error "SameBoy only accepts detected GB or GBC content", pair)
  else if machine.loaded ∨ machine.core.isSome then
    (.error s!"SameBoy machine {index.val} is already loaded", pair)
  else
    match gb.load platform rom with
    | none => (.error s!"Could not allocate SameBoy machine {index.val}", pair)
    | some core =>
      if gb.screenFits core = false then
        (.error s!"SameBoy machine {index.val} did not configure a 160x144 display",
          pair.setMachine index
            { core := none, loaded := false, vblankSeen := false, linkCallbacks := false })
      else
        (.ok (), pair.setMachine index
          { core := some core, loaded := true, vblankSeen := false, linkCallbacks := false })

/-- `sameboy_set_link`. -/
def setLink (gb : Gb Core) (pair : Pair Core) (enabled : Bool) : Except String Unit × Pair Core :=
  if enabled && !pair.isReady then
    (.error "Both SameBoy machines must be loaded before enabling link", pair)
  else
    let pair :=
      if enabled && !pair.linkEnabled then
        { pair with serialOutput := fun _ => true, infraredOutput := fun _ => false }
      else pair
    (.ok (), { pair with linkEnabled := enabled }.applyLinkCallbacks gb)

/-- One turn of the loop of `sameboy_reset`. -/
def resetMachine (gb : Gb Core) (pair : Pair Core) (index : Fin 2) : Pair Core :=
  let machine := pair.machine index
  let pair :=
    match machine.loaded, machine.core with
    | true, some core =>
      pair.setMachine index { machine with core := some (gb.reset core), vblankSeen := false }
    | _, _ => pair
  { pair with
    serialOutput := fun i => if i = index then true else pair.serialOutput i
    infraredOutput := fun i => if i = index then false else pair.infraredOutput i }

/-- `sameboy_reset`. -/
def reset (gb : Gb Core) (pair : Pair Core) : Pair Core :=
  let pair := pair.applyLinkCallbacks gb
  let pair := resetMachine gb (resetMachine gb pair 0) 1
  { pair with tickSkew := 0 }.applyLinkCallbacks gb

/-- The loop of `sameboy_run_frame`. -/
def runLoop (gb : Gb Core) (pair : Pair Core) (machineTicks : Fin 2 → Nat) (calls : Nat) :
    Except String Unit × Pair Core :=
  if (pair.machine 0).vblankSeen && (pair.machine 1).vblankSeen then (.ok (), pair)
  else
    let index : Fin 2 := if 0 ≤ pair.tickSkew then 0 else 1
    let r := gb.run index pair
    let pair := pair.afterRun index r
    if r.elapsed = 0 then
      (.error s!"SameBoy machine {index.val} made no timing progress", pair)
    else
      let machineTicks := fun i => if i = index then machineTicks i + r.elapsed else machineTicks i
      let pair :=
        { pair with
          tickSkew := if index = 0 then pair.tickSkew - r.elapsed else pair.tickSkew + r.elapsed }
      if frameCallWatchdog < calls + 1 ∨ frameTickWatchdog < machineTicks index then
        (.error "SameBoy frame scheduler watchdog expired", pair)
      else runLoop gb pair machineTicks (calls + 1)
termination_by frameCallWatchdog + 1 - calls

/-- `sameboy_run_frame`. -/
def runFrame (gb : Gb Core) (pair : Pair Core) : Except String Unit × Pair Core :=
  if pair.isReady = false then (.error "SameBoy pair is not fully loaded", pair)
  else
    runLoop gb
      { pair with machine := fun i => { pair.machine i with vblankSeen := false } }
      (fun _ => 0) 0

/-- `sameboy_unserialize_machine`. -/
def unserializeMachine (gb : Gb Core) (pair : Pair Core) (index : Fin 2) (data : List Byte) :
    Bool × Pair Core :=
  let machine := pair.machine index
  match machine.loaded, machine.core with
  | true, some core =>
    if gb.stateFits core data = false then (false, pair)
    else
      match gb.loadState core data with
      | (core, false) => (false, pair.setMachine index { machine with core := some core })
      | (core, true) =>
        (true, (pair.setMachine index
          { machine with core := some core, vblankSeen := false }).applyLinkCallbacks gb)
  | _, _ => (false, pair)

end DualBoy.Sameboy
