import DualBoy.Lockstep.LinkState

/-!
# Detaching a player

`_removePlayer` of `mgba_lockstep.c`, which the driver's `Deinit` and `CoordinatorDetach` share: the
others are told, the player leaves the table, and those that stay are given places anew. A `LinkStep`
is anything that happens to a coordinator between its `Init` and its `Deinit`: an action of a run, a
driver that comes or goes, a saved state that is loaded, or an event that is enqueued.
-/

namespace DualBoy.Lockstep

open DualBoy.Lib

namespace Pair

section

variable [Mgba]

/-- `TableRemove`, by the id of the player's driver. -/
def tableRemove (s : Pair) (player : Player) : Pair :=
  s.modifyCoordinator fun c =>
    { c with players := c.players.filter fun e => e.1 ≠ (s.drivers player.driver).lockstepId }

/-- `_removePlayer`. -/
def removePlayer (s : Pair) (player : Player) : Pair :=
  let event : Event :=
    { type := .detach, playerId := player.playerId, timestamp := s.lockstepTime player }
  let s := (s.enqueueEvent event (targetAll &&& ~~~target player.playerId)).1
  let s := s.modifyCoordinator fun c =>
    { c with waiting := 0, transferActive := false, syncArmed := false }
  let s := (s.tableRemove player).reconfigPlayers
  s.playerWake (s.coordinator.attachedPlayers.getD 0 0)

/-- `DualBoyGBASIOLockstepCoordinatorDetach`, on the coordinator. -/
def coordinatorDetach (s : Pair) (i : Fin 2) : Pair :=
  match s.lookup (s.drivers i).lockstepId with
  | none => s
  | some player => s.removePlayer player

/-- `DualBoyGBASIOLockstepDriverDeinit`. -/
def driverDeinit (s : Pair) (i : Fin 2) : Pair :=
  let s := s.coordinatorDetach i
  let s := s.modifyGba i fun g => g.deschedule .lockstep
  s.modifyDriver i fun d => { d with lockstepId := 0 }

end

end Pair

/-- Anything that happens to a coordinator. -/
inductive LinkStep [Mgba] where
  | act (a : Action)
  /-- `Init` or `Reset`; `calloc` says whether a player can be allocated. -/
  | reset (i : Fin 2) (calloc : Bool)
  | deinit (i : Fin 2)
  | detach (i : Fin 2)
  /-- `LoadState` of driver `i`, which takes the data or refuses them. -/
  | load (i : Fin 2) (attached : Bool) (data : List Byte)
  | enqueue (event : Event) (targets : BitVec 32)

/-- One step. -/
def Pair.linkStep [MgbaTimer] (s : Pair) : LinkStep → Pair
  | .act a => s.act a
  | .reset i calloc => s.driverReset i calloc
  | .deinit i => s.driverDeinit i
  | .detach i => s.coordinatorDetach i
  | .load i attached data => (s.driverLoadState i attached data).1
  | .enqueue event targets => (s.enqueueEvent event targets).1

end DualBoy.Lockstep
