import DualBoy.Lockstep.Coordinator

/-!
# The lockstep SIO driver

The callbacks mGBA invokes on a driver (`mgba_lockstep.c`): `SetMode`, `Start`, the three finish
callbacks, `Reset` (which is also `Init`, and so attaches the driver), and the driver's timing event
`_lockstepEvent`. Driver `i` of the pair is named by its index.
-/

namespace DualBoy.Lockstep

open DualBoy.Lib

variable [Mgba]

namespace Pair

/-! ## Attaching -/

/-- The players of `_reconfigPlayers` in the order of their new ids: the first four that asked for
an id, by the id they asked for. The nested loops drain each preference list the first time they
meet it. -/
def assignedOrder (s : Pair) : List Nat :=
  let requests := (s.coordinator.players.filterMap fun e =>
    let requested := (s.drivers e.2.driver).requestedId
    if requested < 0 then none
    else some (e.1, if (maxGbas : Int) ≤ requested then maxGbas - 1 else requested.toNat)).take maxGbas
  (List.range maxGbas).flatMap fun j => (requests.filter fun r => r.2 = j).map Prod.fst

/-- `_reconfigPlayers`. -/
def reconfigPlayers (s : Pair) : Pair :=
  let s := s.modifyCoordinator fun c => { c with attachedPlayers := List.replicate maxGbas 0 }
  let s := match s.coordinator.players with
    | [] => s
    | [(p0, player)] =>
      let s := s.modifyCoordinator fun c =>
        { c with
          attachedPlayers := c.attachedPlayers.set 0 p0
          cycle := (s.drivers player.driver).gba.now
          nextHardSync := hardSyncInterval }
      let s := s.modifyPlayer p0 fun p => { p with playerId := 0 }
      if s.coordinator.transferActive then s
      else s.modifyCoordinator fun c => { c with transferMode := player.mode }
    | _ =>
      s.assignedOrder.zipIdx.foldl (fun s (e : Nat × Nat) =>
        let s := s.modifyCoordinator fun c => { c with attachedPlayers := c.attachedPlayers.set e.2 e.1 }
        s.modifyPlayer e.1 fun p => { p with playerId := e.2 }) s
  let attached := s.coordinator.attachedPlayers.map fun pid =>
    if (s.lookup pid).isSome then pid else 0
  s.modifyCoordinator fun c =>
    { c with attachedPlayers := attached, nAttached := (attached.filter (· ≠ 0)).length }

/-- The loop of `Reset` that looks for an id no player has: a table of `n` players is left after at
most `n + 1` tries. -/
def freshId (players : List (Nat × Player)) : Nat → Nat → Nat
  | 0, nextId => nextId
  | tries + 1, nextId =>
    let nextId := (if nextId = 2 ^ 32 - 1 then 0 else nextId) + 1
    if (players.lookup nextId).isSome then freshId players tries nextId else nextId

/-- The branch of `Reset` for a driver without a player, up to its clock offset: a new player joins
the table. -/
def joinPlayer (s : Pair) (i : Fin 2) : Pair :=
  let driver := s.drivers i
  let player : Player :=
    { driver := i
      playerId := -1
      mode := driver.gba.mode
      otherModes := List.replicate maxGbas .normal8
      asleep := false
      cycleOffset := 0
      queue := []
      dataReceived := false
      queueDepth := 0
      maxQueueDepth := 0
      freeList := List.finRange maxLockstepEvents }
  let id := freshId s.coordinator.players (s.coordinator.players.length + 1) s.coordinator.nextId
  let s := s.modifyCoordinator fun c => { c with nextId := id, players := c.players ++ [(id, player)] }
  let s := s.modifyDriver i fun d => { d with lockstepId := id }
  let s := s.reconfigPlayers
  s.modifyPlayer id fun p =>
    { p with cycleOffset := cycleDelta (s.drivers i).gba.now s.coordinator.cycle }

/-- The rest of that branch: a player that is not the first tells the others. -/
def announcePlayer (s : Pair) (i : Fin 2) : Pair :=
  match s.lookup (s.drivers i).lockstepId with
  | none => s
  | some player =>
    if player.playerId = 0 then s
    else
      let event : Event :=
        { type := .attach, playerId := player.playerId, timestamp := s.lockstepTime player }
      (s.enqueueEvent event (targetAll &&& ~~~target player.playerId)).1

/-- The tail of `Reset`, which schedules the driver's event unless it is scheduled already. -/
def resetSchedule (s : Pair) (i : Fin 2) : Pair :=
  if Mgba.isScheduled (s.drivers i).gba.timing .lockstep then s
  else
    let id := (s.drivers i).lockstepId
    match s.lookup id with
    | none => s
    | some player =>
      let s := s.setReady id player.playerId player.mode
      if s.coordinator.players.length = 1 then
        let s := s.modifyCoordinator fun c => { c with cycle := (s.drivers i).gba.now }
        s.modifyGba i fun g => g.schedule .lockstep (sanitizeDelay lockstepInterval)
      else
        let s := s.setReady id 0 s.coordinator.transferMode
        s.modifyGba i fun g => g.schedule .lockstep (sanitizeDelay (s.untilNextSync player))

/-- `DualBoyGBASIOLockstepDriverReset`; `calloc` says whether a new player can be allocated. -/
def driverReset (s : Pair) (i : Fin 2) (calloc : Bool) : Pair :=
  let s := s.modifyCoordinator fun c => { c with syncArmed := false }
  let id := (s.drivers i).lockstepId
  if id = 0 then
    if calloc then ((s.joinPlayer i).announcePlayer i).resetSchedule i else s
  else
    (s.modifyPlayer id fun p =>
      { p with cycleOffset := cycleDelta (s.drivers i).gba.now s.coordinator.cycle }).resetSchedule i

/-! ## Mode changes and transfers -/

/-- `DualBoyGBASIOLockstepDriverSetMode`. -/
def setMode (s : Pair) (i : Fin 2) (mode : Mode) : Pair :=
  if (s.drivers i).loadingMachineState then s
  else
    let id := (s.drivers i).lockstepId
    match s.lookup id with
    | none => s
    | some player =>
      if mode = player.mode then s
      else
        let s := s.modifyPlayer id fun p => { p with mode }
        let event : Event :=
          { type := .modeSet mode, playerId := player.playerId, timestamp := s.lockstepTime player }
        let waitOnPlayers := player.playerId = 0 ∧ s.coordinator.waiting = 0
        let s := if player.playerId = 0 then
            s.modifyCoordinator fun c => { c with transferMode := mode }
          else s
        let s := s.setReady id player.playerId mode
        let (s, queued) := s.enqueueEvent event (targetAll &&& ~~~target player.playerId)
        let s := if queued then s.modifyGba player.driver Gba.yield else s
        if waitOnPlayers ∧ queued then s.waitOnPlayers id else s

/-- `DualBoyGBASIOLockstepDriverStart`; the result says whether the transfer started. -/
def start (s : Pair) (i : Fin 2) : Pair × Bool :=
  if s.coordinator.transferActive then (s, false)
  else
    let id := (s.drivers i).lockstepId
    match s.lookup id with
    | none => (s, false)
    | some player =>
      if player.playerId ≠ 0 then (s, false)
      else
        let s := s.modifyCoordinator fun c => { c with multiData := List.replicate 4 0xffff#16 }
        let s := (s.setData 0 player.driver).recordSample 0 (s.ghost.published + 1) player.driver
        let timestamp := s.lockstepTime player
        let cycles := Mgba.transferCycles player.mode (s.drivers player.driver).gba.siocnt
          (s.coordinator.nAttached - 1)
        let event : Event :=
          { type := .transferStart (cycleAdd timestamp cycles), playerId := 0, timestamp }
        let (s, queued) := s.enqueueEvent event targetSecondary
        if queued then
          let s := s.modifyCoordinator fun c => { c with transferActive := true }
          let s := if player.mode = .multi ∧ ¬s.coordinator.syncArmed then
              s.modifyCoordinator fun c =>
                { c with syncArmed := true, nextHardSync := hardSyncInterval }
            else s
          if s.coordinator.waiting ≠ 0 then (s, true) else (s.waitOnPlayers id, true)
        else (s, false)

/-- The end the three finish callbacks share: the data is consumed, and the primary synchronizes,
now or once the barrier that stands is gone. -/
def finishTransfer (s : Pair) (id : Nat) : Pair :=
  let s := s.modifyPlayer id fun p => { p with dataReceived := false }
  match s.lookup id with
  | none => s
  | some player =>
    if player.playerId = 0 then
      if ¬s.coordinator.syncArmed then s
      else if s.coordinator.waiting ≠ 0 then
        s.modifyCoordinator fun c => { c with nextHardSync := -1#32 }
      else s.hardSync id
    else s

/-- `DualBoyGBASIOLockstepDriverFinishMultiplayer`: `data` is the caller's array. -/
def finishMultiplayer (s : Pair) (i : Fin 2) (data : List (BitVec 16)) : Pair × List (BitVec 16) :=
  if s.coordinator.transferMode = .multi then
    let id := (s.drivers i).lockstepId
    match s.lookup id with
    | none => (s, data)
    | some player =>
      if player.dataReceived then
        let words := (List.range s.coordinator.nAttached).map fun (j : Nat) =>
          ((j : Int), (s.coordinator.multiData.getD j 0).setWidth 32)
        ((s.record (.finished player.playerId words)).finishTransfer id, s.coordinator.multiData)
      else (s.finishTransfer id, List.replicate 4 0xffff#16)
  else (s, data)

/-- The word a secondary player receives in a NORMAL transfer, if the data arrived. -/
def normalWord (s : Pair) (player : Player) : Option (BitVec 32) :=
  if 0 < player.playerId ∧ player.dataReceived then
    some (s.coordinator.normalData.getD (player.playerId - 1).toNat 0)
  else none

/-- The body of the two NORMAL finish callbacks, for the transfer mode each serves. -/
def finishNormal (s : Pair) (i : Fin 2) (mode : Mode) : Pair × Option (BitVec 32) :=
  if s.coordinator.transferMode = mode then
    let id := (s.drivers i).lockstepId
    match s.lookup id with
    | none => (s, none)
    | some player =>
      match s.normalWord player with
      | some word =>
        ((s.record (.finished player.playerId [(player.playerId - 1, word)])).finishTransfer id, some word)
      | none => (s.finishTransfer id, none)
  else (s, none)

/-- `DualBoyGBASIOLockstepDriverFinishNormal8`. -/
def finishNormal8 (s : Pair) (i : Fin 2) : Pair × BitVec 8 :=
  let (s, word) := s.finishNormal i .normal8
  (s, (word.map (·.setWidth 8)).getD 0xff#8)

/-- `DualBoyGBASIOLockstepDriverFinishNormal32`. -/
def finishNormal32 (s : Pair) (i : Fin 2) : Pair × BitVec 32 :=
  let (s, word) := s.finishNormal i .normal32
  (s, word.getD 0xffffffff#32)

/-! ## The timing event -/

/-- The locals of the queue loop of `_lockstepEvent`. -/
structure EventLoop where
  pair : Pair
  nextEvent : Cycle
  wasDetach : Bool

/-- The `switch` of the queue loop, on an event already unlinked from the queue. -/
def handleEvent (id : Nat) (cyclesLate : BitVec 32) (event : QueuedEvent) (l : EventLoop) :
    EventLoop :=
  let s := l.pair
  match s.lookup id with
  | none => l
  | some player =>
    let reply : Event :=
      { type := .modeSet player.mode, playerId := player.playerId, timestamp := s.lockstepTime player }
    match event.type with
    | .attach =>
      let s := s.setReady id event.playerId .none
      let s := if player.playerId = 0 then
          s.modifyGba player.driver fun g => { g with siocnt := Mgba.multiplayerClearSlave g.siocnt }
        else s
      { l with pair := (s.enqueueEvent reply (target event.playerId)).1 }
    | .hardSync => { l with pair := s.ackPlayer id }
    | .transferStart finishCycle =>
      let s := (s.setData player.playerId.toNat player.driver).recordSample player.playerId
        s.ghost.current player.driver
      let delay := cycleDelta finishCycle (s.lockstepTime player)
      let nextEvent := sanitizeDelay (delayAfterLateness delay cyclesLate)
      let s := s.modifyGba player.driver fun g =>
        ({ g with siocnt := g.siocnt ||| 0x80#16 }.deschedule .complete).schedule .complete nextEvent
      { l with pair := s.ackPlayer id, nextEvent }
    | .modeSet mode =>
      let s := s.setReady id event.playerId mode
      { l with pair := if event.playerId = 0 then s.ackPlayer id else s }
    | .detach =>
      let s := s.setReady id event.playerId .none
      let s := s.setReady id player.playerId player.mode
      let s := (s.enqueueEvent reply (~~~target event.playerId)).1
      let slave : Bool := player.playerId ≠ 0 ∨ s.coordinator.nAttached < 2
      let s := if player.mode = .multi then
          s.modifyGba player.driver fun g =>
            let siocnt := Mgba.multiplayerSetId g.siocnt player.playerId
            { g with siocnt := Mgba.multiplayerSetSlave siocnt slave }
        else s
      { l with pair := s, wasDetach := true }

/-- The end of one turn of the queue loop: the event's slot is free again. -/
def recycleEvent (s : Pair) (id : Nat) (event : QueuedEvent) : Pair :=
  s.modifyPlayer id fun p =>
    { p with freeList := event.slot :: p.freeList, queueDepth := p.queueDepth - 1 }

/-- The queue loop of `_lockstepEvent`. A turn unlinks one event; only an `ATTACH` or a `DETACH`
may put another into the same queue, and that one is a `MODE_SET`, so twice the queue's length is
fuel enough. -/
def eventLoop (id : Nat) (cyclesLate : BitVec 32) : Nat → EventLoop → EventLoop
  | 0, l => l
  | fuel + 1, l =>
    match l.pair.lookup id with
    | none => l
    | some player =>
      match player.queue with
      | [] => l
      | event :: rest =>
        if 0 < (cycleDelta event.timestamp (l.pair.lockstepTime player)).toInt then l
        else
          let s := l.pair.modifyPlayer id fun p => { p with queue := rest }
          let s := { s with ghost := { s.ghost with current := event.serial } }
          let l := handleEvent id cyclesLate event { l with pair := s }
          eventLoop id cyclesLate fuel { l with pair := l.pair.recycleEvent id event }

/-- The clock owner's part of `_lockstepEvent`. -/
def ownClock (s : Pair) (id : Nat) (player : Player) : Pair :=
  if player.playerId = 0 ∧ 0 ≤ (cycleDelta (s.lockstepTime player) s.coordinator.cycle).toInt then
    let s := s.advanceCycle player
    let s := if s.coordinator.transferActive then s else s.wakePlayers
    if s.coordinator.syncArmed ∧ s.coordinator.nextHardSync.toInt < 0 then
      let s := if s.coordinator.waiting = 0 then s.hardSync id else s
      s.modifyCoordinator fun c =>
        { c with nextHardSync := delayAddSaturated c.nextHardSync hardSyncInterval }
    else s
  else s

/-- `player->queue && player->queue->type == DUALBOY_SIO_EV_DETACH`. -/
def detachPending (player : Player) : Bool :=
  match player.queue with
  | [] => false
  | event :: _ => event.type = .detach

/-- The end of `_lockstepEvent`: the secondary goes to sleep when it has nothing to do, and the
driver's event is scheduled again. -/
def eventTail (id : Nat) (l : EventLoop) : Pair :=
  let s := l.pair
  match s.lookup id with
  | none => s
  | some player =>
    let nextEvent := match player.queue with
      | [] => l.nextEvent
      | head :: _ =>
        let queuedDelay := cycleDelta head.timestamp (s.lockstepTime player)
        if queuedDelay.toInt < l.nextEvent.toInt then queuedDelay else l.nextEvent
    let sleeps := s.coordinator.syncArmed ∧ player.playerId ≠ 0 ∧
      nextEvent.toInt ≤ lockstepInterval.toInt ∧ (player.queue = [] ∨ l.wasDetach)
    let s := if sleeps then s.playerSleep id else s
    let nextEvent := if sleeps ∧ nextEvent.toInt < 4 then 4#32 else nextEvent
    s.modifyGba player.driver fun g => g.schedule .lockstep (sanitizeDelay nextEvent)

/-- `_lockstepEvent` of driver `i`. -/
def lockstepEvent (s : Pair) (i : Fin 2) (cyclesLate : BitVec 32) : Pair :=
  let id := (s.drivers i).lockstepId
  match s.lookup id with
  | none => s
  | some player =>
    let s := s.mAssert (0 ≤ player.playerId ∧ player.playerId < 4)
    let s := s.ownClock id player
    let fuel := match s.lookup id with
      | none => 0
      | some player => 2 * player.queue.length
    eventTail id (eventLoop id cyclesLate fuel
      { pair := s, nextEvent := s.untilNextSync player, wasDetach := detachPending player })

end Pair

end DualBoy.Lockstep
