import DualBoy.Lib.Run
import DualBoy.Lockstep.Driver

/-!
# Runs of a linked pair

`attachLink` is the pair `attach_link` leaves behind: a fresh coordinator and one player for each
of the two machines. From there a run is any sequence of `Action`s: the SIO callbacks of either
driver, its timing event, its reset, and the machine itself, which may do anything to its own clock
and registers between two callbacks.
-/

namespace DualBoy.Lockstep

variable [Mgba]

/-- `DualBoyGBASIOLockstepCoordinatorInit`. -/
def coordinatorInit : Coordinator where
  nextId := 0
  waiting := 0
  transferActive := false
  syncArmed := false
  transferMode := .normal8
  cycle := 0
  nextHardSync := 0
  maxQueueDepth := 0
  droppedEvents := 0
  multiData := List.replicate 4 0
  normalData := List.replicate 4 0
  players := []
  attachedPlayers := List.replicate maxGbas 0
  nAttached := 0

/-- `DualBoyGBASIOLockstepDriverCreate` and the user `attach_link` gives the driver, for machine
`index` of a loaded pair. -/
def driverCreate (gba : Gba) (index : Fin 2) : Driver where
  gba := gba
  loadingMachineState := false
  blocked := false
  lockstepId := 0
  requestedId := index.val
  loaded := true

/-- The pair before its peripherals are set. -/
def linkCreate (gba0 gba1 : Gba) : Pair where
  coordinator := coordinatorInit
  driver0 := driverCreate gba0 0
  driver1 := driverCreate gba1 1
  ghost := { published := 0, current := 0, assertsHeld := true, trace := [] }

/-- `attach_link` on a loaded pair: setting a peripheral runs the driver's `Init`. -/
def attachLink (gba0 gba1 : Gba) : Pair :=
  ((linkCreate gba0 gba1).driverReset 0 true).driverReset 1 true

/-- One step of a run. -/
inductive Action where
  /-- Machine `i` runs: its clock and registers change, and a machine-state load may be going on. -/
  | run (i : Fin 2) (gba : Gba) (loadingMachineState : Bool)
  | setMode (i : Fin 2) (mode : Mode)
  | start (i : Fin 2)
  | finishMultiplayer (i : Fin 2) (data : List (BitVec 16))
  | finishNormal8 (i : Fin 2)
  | finishNormal32 (i : Fin 2)
  | lockstepEvent (i : Fin 2) (cyclesLate : BitVec 32)
  | reset (i : Fin 2)

namespace Pair

def act (s : Pair) : Action → Pair
  | .run i gba loadingMachineState => s.modifyDriver i fun d => { d with gba, loadingMachineState }
  | .setMode i mode => s.setMode i mode
  | .start i => (s.start i).1
  | .finishMultiplayer i data => (s.finishMultiplayer i data).1
  | .finishNormal8 i => (s.finishNormal8 i).1
  | .finishNormal32 i => (s.finishNormal32 i).1
  | .lockstepEvent i cyclesLate => s.lockstepEvent i cyclesLate
  | .reset i => s.driverReset i true

/-- The player of driver `i`. -/
def player (s : Pair) (i : Fin 2) : Option Player :=
  s.lookup (s.drivers i).lockstepId

/-- A whole run. -/
def acts (s : Pair) (as : List Action) : Pair :=
  Lib.run act s as

end Pair

end DualBoy.Lockstep
