import DualBoy.Lib.BitField
import DualBoy.Lib.Layout
import DualBoy.Lib.LittleEndian
import DualBoy.Lockstep.Run
import DualBoy.Lockstep.Timer

/-!
# The saved link of a lockstep pair

`DualBoyGBASIOLockstepDriverSaveState`, `ValidateState` and `LoadState` of `mgba_lockstep.c`, and
the two functions of `mgba_adapter.c` that put both drivers' blobs behind one header,
`mgba_serialize_link` and `mgba_unserialize_link`.

`struct DualBoyGBASIOLockstepSerializedState` is read and written at the offsets its
`static_assert`s fix. What the saver does not write is zero, as `calloc` and `memset` leave it.
-/

namespace DualBoy.Lockstep

open DualBoy.Lib

/-! ## Words -/

/-- `LOAD_32LE`, `get_u32_le`. -/
def load32 (data : List Byte) (offset : Nat) : BitVec 32 := leWord 32 4 data offset

/-- `LOAD_16LE`, `get_u16_le`. -/
def load16 (data : List Byte) (offset : Nat) : BitVec 16 := leWord 16 2 data offset

/-- `STORE_32LE`, `put_u32_le`. -/
def store32 (value : BitVec 32) : List Byte := leBytes 4 value

/-- `STORE_16LE`, `put_u16_le`. -/
def store16 (value : BitVec 16) : List Byte := leBytes 2 value

/-- `_allZero`, on `size` bytes of the state from an offset on. -/
def allZero (data : List Byte) (offset size : Nat) : Bool :=
  (fieldAt data offset size).all (· = 0)

/-! ## Layout -/

/-- `DRIVER_STATE_VERSION`. -/
def driverStateVersion : BitVec 32 := 2

/-- `MGBA_LOCKSTEP_DRIVER_STATE_SIZE`, the size of the serialized state. -/
def driverStateSize : Nat := 0xc70

/-- `SERIALIZED_LOCKSTEP_EVENTS`. -/
def serializedLockstepEvents : Nat := 64

/-- `offsetof(player.events[index])`. -/
def eventOffset (index : Nat) : Nat := 0x40 + 0x30 * index

/-- `offsetof(coordinator)`. -/
def coordinatorOffset : Nat := 0xc40

/-! The fields of `DualBoyGBASIOLockstepSerializedFlags`. -/

namespace SerializedFlags

def driverMode : BitField := ⟨0, 3⟩

def numEvents : BitField := ⟨3, 7⟩

def asleep : BitField := ⟨10, 1⟩

def dataReceived : BitField := ⟨11, 1⟩

def eventScheduled : BitField := ⟨12, 1⟩

def player0Mode : BitField := ⟨13, 3⟩

def player1Mode : BitField := ⟨16, 3⟩

def player2Mode : BitField := ⟨19, 3⟩

def player3Mode : BitField := ⟨22, 3⟩

def syncArmed : BitField := ⟨25, 1⟩

def transferMode : BitField := ⟨28, 3⟩

def transferActive : BitField := ⟨31, 1⟩

end SerializedFlags

/-- The only field of `DualBoyGBASIOLockstepSerializedEventFlags`. -/
def eventTypeField : BitField := ⟨0, 3⟩

/-- A `bool` stored in a bit. -/
def bit (flag : Bool) : BitVec 32 := if flag then 1 else 0

/-! ## Modes and event types -/

/-- `_modeEnumToInt`. -/
def modeEnumToInt : Mode → BitVec 32
  | .none => 0
  | .multi => 1
  | .normal8 => 2
  | .normal32 => 3
  | .gpio => 4
  | .uart => 5
  | .joybus => 6

/-- `_modeIntToEnum`. -/
def modeIntToEnum (mode : BitVec 32) : Mode :=
  [.none, .multi, .normal8, .normal32, .gpio, .uart, .joybus, .none].getD (mode &&& 7).toNat .none

/-- `_serializedModeValid`. -/
def serializedModeValid (mode : BitVec 32) : Bool := mode.toNat ≤ 6

/-- The value of a mode in `enum GBASIOMode`. -/
def Mode.code : Mode → BitVec 32
  | .none => -1
  | .normal8 => 0
  | .normal32 => 1
  | .multi => 2
  | .uart => 3
  | .gpio => 8
  | .joybus => 12

/-- The mode an `enum GBASIOMode` holds, if it is one. -/
def modeOfCode (code : BitVec 32) : Option Mode :=
  [Mode.none, .normal8, .normal32, .multi, .uart, .gpio, .joybus].find? (·.code = code)

/-- `_eventModeValid`. -/
def eventModeValid (mode : BitVec 32) : Bool := (modeOfCode mode).isSome

/-- The number of an event's type. -/
def EventType.code : EventType → BitVec 32
  | .attach => 0
  | .detach => 1
  | .hardSync => 2
  | .modeSet _ => 3
  | .transferStart _ => 4

/-- What the event's union holds, for the types that use it. -/
def EventType.operand : EventType → Option (BitVec 32)
  | .modeSet mode => some mode.code
  | .transferStart finishCycle => some finishCycle
  | _ => none

/-- The type a number and a union stand for. -/
def eventTypeOf (code operand : BitVec 32) : EventType :=
  match code.toNat with
  | 0 => .attach
  | 1 => .detach
  | 2 => .hardSync
  | 3 => .modeSet ((modeOfCode operand).getD .none)
  | _ => .transferStart operand

variable [MgbaTimer]

namespace Pair

/-! ## Saving -/

open SerializedFlags

/-- The flags of a player's own state. -/
def playerFlags (s : Pair) (i : Fin 2) (player : Player) : List (BitField × BitVec 32) :=
  let other := fun k : Nat => modeEnumToInt (player.otherModes.getD k .none)
  [(asleep, bit player.asleep), (dataReceived, bit player.dataReceived),
    (driverMode, modeEnumToInt player.mode),
    (eventScheduled, bit (Mgba.isScheduled (s.drivers i).gba.timing .lockstep)),
    (player0Mode, other 0), (player1Mode, other 1), (player2Mode, other 2), (player3Mode, other 3),
    (numEvents, BitVec.ofNat 32 (player.queue.take maxLockstepEvents).length)]

/-- The flags of the coordinator. -/
def coordinatorFlags (c : CoordinatorState) : List (BitField × BitVec 32) :=
  [(transferMode, modeEnumToInt c.transferMode), (transferActive, bit c.transferActive),
    (syncArmed, bit c.syncArmed)]

/-- The flags `SaveState` sets, in its order. -/
def savedFlags (s : Pair) (i : Fin 2) (player : Player) : BitVec 32 :=
  packFrom 0#32 (s.playerFlags i player ++
    if player.playerId = 0 then coordinatorFlags s.coordinator.toCoordinatorState else [])

/-- The fields of `player.events[index]`. -/
def eventFields (index : Nat) (event : Event) : List (Nat × List Byte) :=
  [(eventOffset index, store32 event.timestamp),
    (eventOffset index + 4, store32 (BitVec.ofInt 32 event.playerId)),
    (eventOffset index + 8, store32 (eventTypeField.set 0 event.type.code))] ++
  event.type.operand.toList.map fun operand => (eventOffset index + 0x20, store32 operand)

/-- The fields of `coordinator`. -/
def coordinatorFields (c : CoordinatorState) : List (Nat × List Byte) :=
  [(coordinatorOffset, store32 c.cycle), (coordinatorOffset + 4, store32 c.waiting),
    (coordinatorOffset + 8, store32 c.nextHardSync)] ++
  ((List.range 4).map fun k => (coordinatorOffset + 0x18 + 2 * k, store16 (c.multiData.getD k 0))) ++
  (List.range 4).map fun k => (coordinatorOffset + 0x20 + 4 * k, store32 (c.normalData.getD k 0))

/-- The queued events, each at its index, from index `index` on. -/
def queueFields : Nat → List QueuedEvent → List (Nat × List Byte)
  | _, [] => []
  | index, event :: events => eventFields index event.toEvent ++ queueFields (index + 1) events

/-- The fields before the events. -/
def headerFields (s : Pair) (i : Fin 2) (player : Player) : List (Nat × List Byte) :=
  [(0, store32 driverStateVersion), (4, store32 (s.savedFlags i player)),
    (0x10, store32 (s.drivers i).gba.wakeDelay), (0x30, store32 (BitVec.ofInt 32 player.playerId)),
    (0x34, store32 player.cycleOffset)]

/-- The fields `SaveState` stores. -/
def savedFields (s : Pair) (i : Fin 2) (player : Player) : List (Nat × List Byte) :=
  s.headerFields i player ++ queueFields 0 (player.queue.take maxLockstepEvents) ++
  if player.playerId = 0 then coordinatorFields s.coordinator.toCoordinatorState else []

/-- The state of a player as `SaveState` stores it. -/
def savedState (s : Pair) (i : Fin 2) (player : Player) : List Byte :=
  writeFields (List.replicate driverStateSize 0) (s.savedFields i player)

/-- `DualBoyGBASIOLockstepDriverSaveState`; `calloc` says whether the state can be allocated. -/
def driverSaveState (s : Pair) (i : Fin 2) (calloc : Bool) : Option (List Byte) :=
  if calloc then (s.lookup (s.drivers i).lockstepId).map (s.savedState i) else none

/-! ## Validation -/

/-- The checks of `ValidateState` on `player.events[index]`. -/
def eventValid (s : Pair) (data : List Byte) (index : Nat) : Bool :=
  let flags := load32 data (eventOffset index + 8)
  if flags &&& ~~~7#32 ≠ 0#32 ∨ ¬allZero data (eventOffset index + 0xc) 20 ∨
      ¬allZero data (eventOffset index + 0x24) 12 then false
  else
    let type := eventTypeField.get flags
    if 4 < type.toNat then false
    else
      let eventPlayer := (load32 data (eventOffset index + 4)).toInt
      let playerValid : Bool :=
        if type = 2 ∨ type = 4 then eventPlayer = 0
        else 0 ≤ eventPlayer ∧ eventPlayer < s.coordinator.nAttached
      let unionValid : Bool :=
        if type = 3 then eventModeValid (load32 data (eventOffset index + 0x20))
        else type = 4 || allZero data (eventOffset index + 0x20) 4
      playerValid && unionValid

/-- The checks on `coordinator`, which only player 0's state has. -/
def coordinatorValid (s : Pair) (data : List Byte) (player : Player) : Bool :=
  let flags := load32 data 4
  if player.playerId = 0 then
    let waiting := load32 data (coordinatorOffset + 4)
    let attachedMask := (1#32 <<< s.coordinator.nAttached) - 1
    serializedModeValid (transferMode.get flags) &&
      allZero data (coordinatorOffset + 0xc) 12 &&
      decide (waiting &&& ~~~attachedMask = 0#32) && decide (waiting &&& 1#32 = 0#32)
  else decide (flags &&& 0xf2000000#32 = 0#32) && allZero data coordinatorOffset 0x30

/-- The checks on the header and the flags. -/
def headerValid (data : List Byte) (player : Player) : Bool :=
  let flags := load32 data 4
  decide (load32 data 0 = driverStateVersion) && allZero data 8 8 && allZero data 0x14 28 &&
    allZero data 0x38 8 && decide (load32 data 0x30 = BitVec.ofInt 32 player.playerId) &&
    decide (flags &&& 0x0c000000#32 = 0#32) &&
    serializedModeValid (driverMode.get flags) &&
    serializedModeValid (player0Mode.get flags) &&
    serializedModeValid (player1Mode.get flags) &&
    serializedModeValid (player2Mode.get flags) &&
    serializedModeValid (player3Mode.get flags) &&
    decide ((numEvents.get flags).toNat ≤ maxLockstepEvents)

/-- `DualBoyGBASIOLockstepDriverValidateState` of driver `i`; `attached` says that the driver has a
coordinator. -/
def validateState (s : Pair) (i : Fin 2) (attached : Bool) (data : List Byte) : Bool :=
  if data.length ≠ driverStateSize ∨ ¬attached ∨ (s.drivers i).lockstepId = 0 then false
  else if s.coordinator.nAttached < 1 ∨ maxGbas < s.coordinator.nAttached then false
  else
    match s.lookup (s.drivers i).lockstepId with
    | none => false
    | some player =>
      if player.playerId < 0 ∨ (s.coordinator.nAttached : Int) ≤ player.playerId then false
      else
        let eventCount := (numEvents.get (load32 data 4)).toNat
        headerValid data player && (List.range eventCount).all (s.eventValid data) &&
          s.coordinatorValid data player

/-! ## Loading -/

/-- The event the loader reads from `player.events[index]`. -/
def loadedEvent (data : List Byte) (index : Nat) : Event where
  type := eventTypeOf (eventTypeField.get (load32 data (eventOffset index + 8)))
    (load32 data (eventOffset index + 0x20))
  playerId := (load32 data (eventOffset index + 4)).toInt
  timestamp := load32 data (eventOffset index)

/-- The number of events the loader takes. -/
def loadedCount (data : List Byte) : Nat :=
  min (numEvents.get (load32 data 4)).toNat maxLockstepEvents

/-- The queue the loader builds: the first slots of the buffer, in order. A loaded event has no
number among those published. -/
def loadedQueue (data : List Byte) : List QueuedEvent :=
  ((List.finRange maxLockstepEvents).take (loadedCount data)).map fun slot =>
    { toEvent := loadedEvent data slot.val, slot, serial := 0 }

/-- The player's fields that are read before its event is scheduled. -/
def loadedModes (data : List Byte) (p : Player) : Player :=
  let flags := load32 data 4
  { p with
    cycleOffset := load32 data 0x34
    dataReceived := dataReceived.get flags ≠ 0
    mode := modeIntToEnum (driverMode.get flags)
    otherModes :=
      [modeIntToEnum (player0Mode.get flags), modeIntToEnum (player1Mode.get flags),
        modeIntToEnum (player2Mode.get flags), modeIntToEnum (player3Mode.get flags)] }

/-- The player with the saved queue, the rest of its buffer free. -/
def loadedSlots (data : List Byte) (p : Player) : Player :=
  { p with
    freeList := (List.finRange maxLockstepEvents).drop (loadedCount data)
    queue := loadedQueue data
    queueDepth := loadedCount data
    maxQueueDepth := loadedCount data }

/-- The coordinator's fields, which player 0's state holds. -/
def loadedCoordinator (data : List Byte) (c : CoordinatorState) : CoordinatorState :=
  let flags := load32 data 4
  { c with
    cycle := load32 data coordinatorOffset
    waiting := load32 data (coordinatorOffset + 4)
    nextHardSync := load32 data (coordinatorOffset + 8)
    multiData := (List.range 4).map fun k => load16 data (coordinatorOffset + 0x18 + 2 * k)
    normalData := (List.range 4).map fun k => load32 data (coordinatorOffset + 0x20 + 4 * k)
    transferMode := modeIntToEnum (transferMode.get flags)
    transferActive := transferActive.get flags ≠ 0
    syncArmed := syncArmed.get flags ≠ 0 }

/-- The loader puts the player to sleep or wakes it. -/
def loadSleep (s : Pair) (id : Nat) (player : Player) (asleep : Bool) : Pair :=
  let s := if asleep ∧ ¬player.asleep then s.lockstepSleep player.driver
    else if ¬asleep ∧ player.asleep then s.lockstepWake player.driver
    else s
  s.modifyPlayer id fun p => { p with asleep }

/-- `DualBoyGBASIOLockstepDriverLoadState` of driver `i`. -/
def driverLoadState (s : Pair) (i : Fin 2) (attached : Bool) (data : List Byte) : Pair × Bool :=
  if ¬s.validateState i attached data then (s, false)
  else if driverStateVersion.toNat < (load32 data 0).toNat then (s, false)
  else
    let id := (s.drivers i).lockstepId
    match s.lookup id with
    | none => (s, false)
    | some player =>
      if (load32 data 0x30).toInt ≠ player.playerId then (s, false)
      else
        let flags := load32 data 4
        let s := s.modifyPlayer id (loadedModes data)
        let s := s.modifyGba i fun g => g.deschedule .lockstep
        let s := if eventScheduled.get flags ≠ 0 then
            s.modifyGba i fun g => g.schedule .lockstep (sanitizeDelay (load32 data 0x10))
          else s
        let s := s.loadSleep id player (asleep.get flags ≠ 0)
        let s := s.modifyPlayer id (loadedSlots data)
        let s := s.modifyCoordinator fun c =>
          { c with maxQueueDepth := max c.maxQueueDepth (loadedCount data) }
        let s := s.rescheduleForQueueHead id
        let s := if player.playerId = 0 then
            s.modifyCoordinator fun c => { c with toCoordinatorState := loadedCoordinator data c.toCoordinatorState }
          else s
        (s.modifyGba i Gba.interrupt, true)

end Pair

/-! ## The link of a pair -/

/-- The fields of `struct mgba_pair` the link state depends on. -/
structure MgbaPair where
  lockstep : Pair
  coordinatorInitialized : Bool
  linkEnabled : Bool
  /-- `drivers[i].coordinator` is set. -/
  attached : Fin 2 → Bool

namespace MgbaPair

/-- `MGBA_LINK_STATE_HEADER_SIZE`. -/
def linkStateHeaderSize : Nat := 32

/-- `MGBA_LINK_STATE_VERSION`. -/
def linkStateVersion : BitVec 16 := 2

/-- `MGBA_LINK_STATE_FLAG_ENABLED`. -/
def linkStateFlagEnabled : BitVec 32 := 1

/-- `MGBA_LINK_STATE_CAPACITY`. -/
def linkStateCapacity : Nat := linkStateHeaderSize + 2 * driverStateSize

/-- The fields `mgba_serialize_link` writes, with the drivers' blobs. -/
def linkFields (enabled : Bool) (state0 state1 : List Byte) : List (Nat × List Byte) :=
  [(0, [0x44, 0x42, 0x47, 0x4c]), (4, store16 linkStateVersion),
    (6, store16 (BitVec.ofNat 16 linkStateHeaderSize)),
    (8, store32 (if enabled then linkStateFlagEnabled else 0)),
    (12, store32 (if enabled then 2 else 0)),
    (16, store32 (BitVec.ofNat 32 state0.length)), (20, store32 (BitVec.ofNat 32 state1.length)),
    (linkStateHeaderSize, state0), (linkStateHeaderSize + state0.length, state1)]

/-- The string `mgba_serialize_link` writes for the drivers' blobs. -/
def linkBytes (enabled : Bool) (state0 state1 : List Byte) : List Byte :=
  writeFields (List.replicate (linkStateHeaderSize + state0.length + state1.length) 0)
    (linkFields enabled state0 state1)

/-- `mgba_serialize_link`: the bytes it writes; `calloc i` says whether driver `i`'s blob can be
allocated. -/
def serializeLink (p : MgbaPair) (capacity : Nat) (calloc : Fin 2 → Bool) : Option (List Byte) :=
  if capacity < linkStateHeaderSize then none
  else if p.linkEnabled then
    if ¬p.coordinatorInitialized then none
    else
      match p.lockstep.driverSaveState 0 (calloc 0), p.lockstep.driverSaveState 1 (calloc 1) with
      | some state0, some state1 =>
        if state0.length ≠ driverStateSize ∨ state1.length ≠ driverStateSize then none
        else if capacity < linkStateHeaderSize + state0.length + state1.length then none
        else some (linkBytes true state0 state1)
      | _, _ => none
  else some (linkBytes false [] [])

/-- `lockstep_payload_valid`. -/
def lockstepPayloadValid (p : MgbaPair) (payload : List Byte) (player : Fin 2) : Bool :=
  payload.length = driverStateSize && p.lockstep.validateState player (p.attached player) payload

/-- The header `mgba_unserialize_link` takes. -/
def linkHeaderValid (data : List Byte) : Bool :=
  linkStateHeaderSize ≤ data.length && data.getD 0 0 = 0x44 && data.getD 1 0 = 0x42 &&
    data.getD 2 0 = 0x47 && data.getD 3 0 = 0x4c && load16 data 4 = linkStateVersion &&
    load16 data 6 = BitVec.ofNat 16 linkStateHeaderSize && load32 data 24 = 0 && load32 data 28 = 0

/-- The two `loadState` calls: player 0 owns coordinator state, so the secondary comes first. -/
def loadBoth (p : MgbaPair) (payload0 payload1 : List Byte) : MgbaPair × Bool :=
  match p.lockstep.driverLoadState 1 (p.attached 1) payload1 with
  | (s, false) => ({ p with lockstep := s }, false)
  | (s, true) =>
    let r := s.driverLoadState 0 (p.attached 0) payload0
    ({ p with lockstep := r.1 }, r.2)

/-- `mgba_unserialize_link`. -/
def unserializeLink (p : MgbaPair) (data : List Byte) : MgbaPair × Bool :=
  if ¬linkHeaderValid data then (p, false)
  else
    let flags := load32 data 8
    if flags &&& ~~~linkStateFlagEnabled ≠ 0 then (p, false)
    else
      let length0 := (load32 data 16).toNat
      let length1 := (load32 data 20).toNat
      if flags &&& linkStateFlagEnabled = 0 then
        (p, !p.linkEnabled && load32 data 12 = 0 && length0 = 0 && length1 = 0 &&
          data.length = linkStateHeaderSize)
      else if ¬p.linkEnabled ∨ ¬p.coordinatorInitialized ∨ load32 data 12 ≠ 2 ∨
          length0 ≠ driverStateSize ∨ length1 ≠ driverStateSize ∨
          data.length ≠ linkStateHeaderSize + length0 + length1 then (p, false)
      else
        let payload0 := fieldAt data linkStateHeaderSize length0
        let payload1 := fieldAt data (linkStateHeaderSize + length0) length1
        if ¬p.lockstepPayloadValid payload0 0 ∨ ¬p.lockstepPayloadValid payload1 1 then (p, false)
        else p.loadBoth payload0 payload1

end MgbaPair

end DualBoy.Lockstep
