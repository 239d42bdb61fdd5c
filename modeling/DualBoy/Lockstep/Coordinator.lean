import DualBoy.Lib.Insertion
import DualBoy.Lockstep.Machine

/-!
# The lockstep coordinator

The data of `mgba_lockstep.h` and the static functions of `mgba_lockstep.c` the SIO driver is
built from: the event queues, the barrier (`waiting`), sleeping and waking. State is passed
explicitly. A player is named by its key in the coordinator's table, as `TableLookup` finds it, and
a function that dereferences a player which is not in the table leaves the state alone.

A record the scheduler's callbacks write keeps those fields in a `...State` parent. What only
attaching and detaching change (who is seated where) is added by the structure that extends it.

`Ghost` is no data of the program: it counts published events and records, in order, what the
statements about barriers and transfers speak of. `mASSERT_DEBUG` checks are compiled out of a
release build and are not modelled; `mASSERT` checks are.
-/

namespace DualBoy.Lockstep

open DualBoy.Lib

/-! ## Data -/

/-- `MAX_GBAS`. -/
def maxGbas : Nat := 4

/-- `DUALBOY_MAX_LOCKSTEP_EVENTS`. -/
def maxLockstepEvents : Nat := 8

/-- `TARGET(P)`. -/
def target (playerId : Int) : BitVec 32 := 1#32 <<< playerId.toNat

/-- `TARGET_ALL`. -/
def targetAll : BitVec 32 := 0xf#32

/-- `TARGET_PRIMARY`. -/
def targetPrimary : BitVec 32 := 0x1#32

/-- `TARGET_SECONDARY`. -/
def targetSecondary : BitVec 32 := targetAll &&& ~~~targetPrimary

/-- `enum DualBoyGBASIOLockstepEventType`, each type with its arm of the event's union. -/
inductive EventType where
  | attach
  | detach
  | hardSync
  | modeSet (mode : Mode)
  | transferStart (finishCycle : Cycle)
  deriving DecidableEq, Repr

/-- `struct DualBoyGBASIOLockstepEvent`. -/
structure Event where
  type : EventType
  playerId : Int
  timestamp : Cycle
  deriving DecidableEq, Repr

/-- An event in a player's queue: the slot of `buffer` that holds it, and (ghost) its number among
all events published. -/
structure QueuedEvent extends Event where
  slot : Fin maxLockstepEvents
  serial : Nat
  deriving DecidableEq, Repr

/-- The fields of `struct DualBoyGBASIOLockstepPlayer` the callbacks write. The queue and the free
list are the slots of `buffer` in the order of their `next` links. -/
structure PlayerState where
  mode : Mode
  otherModes : List Mode
  asleep : Bool
  cycleOffset : Cycle
  queue : List QueuedEvent
  dataReceived : Bool
  queueDepth : Nat
  maxQueueDepth : Nat
  freeList : List (Fin maxLockstepEvents)
  deriving DecidableEq, Repr

/-- `struct DualBoyGBASIOLockstepPlayer`; `driver` is the index of the pair's driver. -/
structure Player extends PlayerState where
  driver : Fin 2
  playerId : Int
  deriving DecidableEq, Repr

/-- The fields of `struct DualBoyGBASIOLockstepCoordinator` the callbacks write. -/
structure CoordinatorState where
  nextId : Nat
  waiting : BitVec 32
  transferActive : Bool
  syncArmed : Bool
  transferMode : Mode
  cycle : Cycle
  nextHardSync : Cycle
  maxQueueDepth : Nat
  droppedEvents : BitVec 32
  multiData : List (BitVec 16)
  normalData : List (BitVec 32)
  deriving DecidableEq, Repr

/-- `struct DualBoyGBASIOLockstepCoordinator`. -/
structure Coordinator extends CoordinatorState where
  players : List (Nat × Player)
  attachedPlayers : List Nat
  nAttached : Nat
  deriving DecidableEq, Repr

/-- What the callbacks write of a driver, its machine and its `mgba_lockstep_user`. -/
structure DriverState [Mgba] where
  gba : Gba
  loadingMachineState : Bool
  /-- `user->blocked`. -/
  blocked : Bool

/-- One machine of the pair with its driver and user. `requestedId` is the user's `machine`;
`loaded` says that the machine is loaded and has a core. -/
structure Driver [Mgba] extends DriverState where
  lockstepId : Nat
  requestedId : Int
  loaded : Bool

/-- What the ghost record keeps, newest first. -/
inductive Trace where
  /-- `waiting` was set, for the event published last. -/
  | raised (serial : Nat)
  /-- A player's bit of `waiting` was cleared while it processed an event. -/
  | cleared (playerId : Int) (serial : Nat)
  /-- A player's word was sampled for the transfer of a `TRANSFER_START`. -/
  | sampled (playerId : Int) (transfer : Nat) (word : BitVec 32)
  /-- A finish callback returned the words of these players from the coordinator. -/
  | finished (playerId : Int) (words : List (Int × BitVec 32))
  deriving DecidableEq, Repr

structure Ghost where
  /-- Events published so far. -/
  published : Nat
  /-- The number of the event being processed. -/
  current : Nat
  /-- Every `mASSERT` met so far held. -/
  assertsHeld : Bool
  trace : List Trace
  deriving DecidableEq, Repr

/-- The lockstep part of `struct mgba_pair`: its two machines share one coordinator. -/
structure Pair [Mgba] where
  coordinator : Coordinator
  driver0 : Driver
  driver1 : Driver
  ghost : Ghost

variable [Mgba]

namespace Pair

/-! ## Access -/

def drivers (s : Pair) : Fin 2 → Driver
  | 0 => s.driver0
  | 1 => s.driver1

/-- `TableLookup`. -/
def lookup (s : Pair) (id : Nat) : Option Player :=
  s.coordinator.players.lookup id

/-- A write through a player found in the table. -/
def modifyPlayer (s : Pair) (id : Nat) (f : Player → Player) : Pair :=
  { s with coordinator := { s.coordinator with
      players := s.coordinator.players.map fun e => if e.1 = id then (e.1, f e.2) else e } }

def modifyCoordinator (s : Pair) (f : Coordinator → Coordinator) : Pair :=
  { s with coordinator := f s.coordinator }

def modifyDriver (s : Pair) (i : Fin 2) (f : Driver → Driver) : Pair :=
  match i with
  | 0 => { s with driver0 := f s.driver0 }
  | 1 => { s with driver1 := f s.driver1 }

def modifyGba (s : Pair) (i : Fin 2) (f : Gba → Gba) : Pair :=
  s.modifyDriver i fun d => { d with gba := f d.gba }

/-- `DualBoyGBASIOLockstepTime`. -/
def lockstepTime (s : Pair) (player : Player) : Cycle :=
  cycleDelta (s.drivers player.driver).gba.now player.cycleOffset

/-- `mASSERT`. -/
def mAssert (s : Pair) (condition : Bool) : Pair :=
  { s with ghost := { s.ghost with assertsHeld := s.ghost.assertsHeld && condition } }

def record (s : Pair) (t : Trace) : Pair :=
  { s with ghost := { s.ghost with trace := t :: s.ghost.trace } }

/-! ## Sleeping and waking -/

/-- `pair_ready`. -/
def pairReady (s : Pair) : Bool :=
  s.driver0.loaded && s.driver1.loaded

/-- `lockstep_sleep`. -/
def lockstepSleep (s : Pair) (i : Fin 2) : Pair :=
  if s.pairReady then s.modifyDriver i fun d => { d with blocked := true } else s

/-- `lockstep_wake`. -/
def lockstepWake (s : Pair) (i : Fin 2) : Pair :=
  s.modifyDriver i fun d => { d with blocked := false }

/-- `DualBoyGBASIOLockstepPlayerWake`. -/
def playerWake (s : Pair) (id : Nat) : Pair :=
  match s.lookup id with
  | none => s
  | some player =>
    if player.asleep then
      (s.modifyPlayer id fun p => { p with asleep := false }).lockstepWake player.driver
    else s

/-- `DualBoyGBASIOLockstepPlayerSleep`. -/
def playerSleep (s : Pair) (id : Nat) : Pair :=
  match s.lookup id with
  | none => s
  | some player =>
    if player.asleep then s
    else
      ((s.modifyPlayer id fun p => { p with asleep := true }).lockstepSleep player.driver).modifyGba
        player.driver Gba.yield

/-- `DualBoyGBASIOLockstepCoordinatorWakePlayers`. -/
def wakePlayers (s : Pair) : Pair :=
  (List.range s.coordinator.nAttached).foldl (fun s i =>
    let pid := s.coordinator.attachedPlayers.getD i 0
    if i = 0 ∨ pid = 0 then s else s.playerWake pid) s

/-! ## The clock -/

/-- `_untilNextSync`. -/
def untilNextSync (s : Pair) (player : Player) : Cycle :=
  if s.coordinator.syncArmed then
    let cycle := cycleDelta s.coordinator.cycle (s.lockstepTime player)
    if player.playerId = 0 then
      if s.coordinator.nAttached < 2 then delayAddSaturated cycle unlockedInterval
      else delayAddSaturated cycle lockstepInterval
    else cycle
  else unlockedInterval

/-- `_advanceCycle`. -/
def advanceCycle (s : Pair) (player : Player) : Pair :=
  let newCycle := s.lockstepTime player
  let elapsed := cycleDelta newCycle s.coordinator.cycle
  if elapsed.toInt < 0 then s
  else s.modifyCoordinator fun c =>
    { c with nextHardSync := delayAddSaturated c.nextHardSync (-elapsed), cycle := newCycle }

/-! ## Queues -/

/-- `_rescheduleForQueueHead`. -/
def rescheduleForQueueHead (s : Pair) (id : Nat) : Pair :=
  match s.lookup id with
  | none => s
  | some player =>
    let gba := (s.drivers player.driver).gba
    match player.queue with
    | [] => s
    | head :: _ =>
      if Mgba.isScheduled gba.timing .lockstep then
        let scheduledDelay := cycleFromBits (Mgba.eventWhen gba.timing .lockstep - gba.now)
        let queuedDelay := sanitizeDelay (cycleDelta head.timestamp (s.lockstepTime player))
        if scheduledDelay.toInt ≤ 0 ∨ scheduledDelay.toInt ≤ queuedDelay.toInt then s
        else s.modifyGba player.driver fun g => (g.deschedule .lockstep).schedule .lockstep queuedDelay
      else s

/-- Where the search of `_enqueueEvent` stops: at the first event the new one precedes. -/
def precedes (event : QueuedEvent) (next : QueuedEvent) : Bool :=
  (cycleDelta event.timestamp next.timestamp).toInt < 0

/-- One target of `_enqueueEvent`, the player in place `i`. -/
def enqueueAt (event : Event) (r : Pair × Bool) (i : Nat) : Pair × Bool :=
  let s := r.1
  let id := s.coordinator.attachedPlayers.getD i 0
  match s.lookup id with
  | none => (s, false)
  | some player =>
    match player.freeList with
    | [] => (s.modifyCoordinator fun c => { c with droppedEvents := c.droppedEvents + 1 }, false)
    | slot :: freeList =>
      let newEvent : QueuedEvent := { event with slot, serial := s.ghost.published + 1 }
      let s := { s with ghost := { s.ghost with published := s.ghost.published + 1 } }
      let depth := player.queueDepth + 1
      let s := s.modifyPlayer id fun p =>
        { p with
          freeList
          queue := insertBefore (precedes newEvent) newEvent p.queue
          queueDepth := depth
          maxQueueDepth := max p.maxQueueDepth depth }
      let s := if player.maxQueueDepth < depth then
          s.modifyCoordinator fun c => { c with maxQueueDepth := max c.maxQueueDepth depth }
        else s
      (s.rescheduleForQueueHead id, r.2)

/-- `_enqueueEvent`: the event goes to every attached player in `targets`; the result says whether
all of them took it. -/
def enqueueEvent (s : Pair) (event : Event) (targets : BitVec 32) : Pair × Bool :=
  (List.range s.coordinator.nAttached).foldl (fun r (i : Nat) =>
    if targets &&& target i = 0 then r else enqueueAt event r i) (s, true)

/-! ## The barrier -/

/-- `DualBoyGBASIOLockstepCoordinatorWaitOnPlayers`. -/
def waitOnPlayers (s : Pair) (id : Nat) : Pair :=
  match s.lookup id with
  | none => s
  | some player =>
    let s := s.mAssert (s.coordinator.waiting = 0)
    let s := s.mAssert (!player.asleep)
    let s := s.mAssert (player.playerId = 0)
    if s.coordinator.nAttached < 2 then s
    else
      let s := s.advanceCycle player
      let s := s.modifyCoordinator fun c =>
        { c with waiting := ((1#32 <<< c.nAttached) - 1) &&& ~~~target player.playerId }
      let s := s.record (.raised s.ghost.published)
      let s := s.playerSleep id
      s.wakePlayers

/-- The loop of `AckPlayer` that hands the finished transfer to every attached player. -/
def markReceived (s : Pair) : Pair :=
  (List.range s.coordinator.nAttached).foldl (fun s i =>
    let pid := s.coordinator.attachedPlayers.getD i 0
    if pid = 0 then s else s.modifyPlayer pid fun p => { p with dataReceived := true }) s

/-- The block of `AckPlayer` for a barrier all have acknowledged. -/
def releaseBarrier (s : Pair) : Pair :=
  let s := if s.coordinator.transferActive then
      s.markReceived.modifyCoordinator fun c => { c with transferActive := false }
    else s
  s.playerWake (s.coordinator.attachedPlayers.getD 0 0)

/-- `DualBoyGBASIOLockstepCoordinatorAckPlayer`. -/
def ackPlayer (s : Pair) (id : Nat) : Pair :=
  match s.lookup id with
  | none => s
  | some player =>
    if player.playerId = 0 then s
    else if s.coordinator.waiting &&& target player.playerId = 0 then s
    else
      let s := s.modifyCoordinator fun c => { c with waiting := c.waiting &&& ~~~target player.playerId }
      let s := s.record (.cleared player.playerId s.ghost.current)
      let s := if s.coordinator.waiting = 0 then s.releaseBarrier else s
      s.playerSleep id

/-- `_hardSync`. -/
def hardSync (s : Pair) (id : Nat) : Pair :=
  match s.lookup id with
  | none => s
  | some player =>
    let event : Event := { type := .hardSync, playerId := 0, timestamp := s.lockstepTime player }
    let (s, queued) := s.enqueueEvent event targetSecondary
    if queued then s.waitOnPlayers id else s

/-! ## Transfer data and readiness -/

/-- `_setData`: the word of player `id` sampled from the SIO of driver `i`. -/
def setData (s : Pair) (id : Nat) (i : Fin 2) : Pair :=
  let gba := (s.drivers i).gba
  match s.coordinator.transferMode with
  | .multi =>
    s.modifyCoordinator fun c => { c with multiData := c.multiData.set id gba.siomltSend }
  | .normal8 =>
    s.modifyCoordinator fun c => { c with normalData := c.normalData.set id (gba.siodata8.setWidth 32) }
  | .normal32 =>
    let s := s.modifyCoordinator fun c =>
      { c with normalData := c.normalData.set id (gba.siodata32Lo.setWidth 32) }
    let word := s.coordinator.normalData.getD id 0 ||| (gba.siodata32Hi.setWidth 32 <<< 16)
    s.modifyCoordinator fun c => { c with normalData := c.normalData.set id word }
  | _ => s

/-- Ghost: the word `_setData` just sampled, for the transfer numbered `transfer`. -/
def recordSample (s : Pair) (playerId : Int) (transfer : Nat) (i : Fin 2) : Pair :=
  match (s.drivers i).gba.sioWord s.coordinator.transferMode with
  | some word => s.record (.sampled playerId transfer word)
  | none => s

/-- `_setReady`. -/
def setReady (s : Pair) (id : Nat) (playerId : Int) (mode : Mode) : Pair :=
  let s := s.modifyPlayer id fun p => { p with otherModes := p.otherModes.set playerId.toNat mode }
  match s.lookup id with
  | none => s
  | some player =>
    let ready := (List.range s.coordinator.nAttached).all fun i =>
      player.otherModes.getD i .none = player.mode
    if player.mode = .multi then
      s.modifyGba player.driver fun g =>
        { g with siocnt := Mgba.multiplayerSetReady g.siocnt ready, rcnt := Mgba.rcntSetSd g.rcnt ready }
    else s

end Pair

end DualBoy.Lockstep
