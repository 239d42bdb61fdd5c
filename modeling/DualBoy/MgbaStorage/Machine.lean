import DualBoy.Lib.Layout
import DualBoy.Lib.LittleEndian

/-!
# The battery of an mGBA machine

`mgba_adapter.c` as far as it decides what the frontend sees of a cartridge's battery: the region it
keeps for the SaveRAM and the RTC record, the copy from and to mGBA's device, and the snapshot that
is put back behind every raw state load. mGBA's core is a parameter (`StorageOps`); what it does
between two callbacks is an arbitrary change of it.

An allocation that may fail is an argument. `savedata` is there once a machine is loaded.
-/

namespace DualBoy.MgbaStorage

open DualBoy.Lib

/-! ## Constants -/

/-- `MGBA_MAX_SAVE_SIZE`, which is `GBA_SIZE_FLASH1M`. -/
@[irreducible] def maxSaveSize : Nat := 0x20000

theorem maxSaveSize_eq : maxSaveSize = 0x20000 := by
  unfold maxSaveSize
  rfl

/-- `MGBA_RTC_SIZE`. -/
def rtcRecordSize : Nat := 16

/-- `MGBA_MACHINE_STATE_HEADER_SIZE`. -/
def machineStateHeaderSize : Nat := 32

/-- `MGBA_MACHINE_STATE_VERSION`. -/
def machineStateVersion : BitVec 16 := 1

/-- What `memset` with `0xff` leaves. -/
def blank (n : Nat) : List Byte := List.replicate n 0xff

/-! ## The core -/

/-- `enum GBASavedataType`. -/
inductive SavedataType where
  | autodetect
  | forceNone
  | sram
  | flash512
  | flash1M
  | eeprom
  | eeprom512
  | sram512
  deriving DecidableEq, Repr

/-- What the adapter calls of mGBA's core and reads of its `GBASavedata`. `X` is what a core can be
told to do between two callbacks. -/
structure StorageOps (C X : Type) where
  /-- `savedata->type` -/
  savedataType : C → SavedataType
  /-- `GBASavedataSize` -/
  savedataSize : C → Nat
  /-- the size, and the copy, `none` for a null pointer -/
  savedataClone : C → Nat × Option (List Byte)
  /-- with writeback -/
  savedataRestore : C → List Byte → C × Bool
  /-- `GBASavedataForceType` -/
  forceType : C → SavedataType → C
  /-- `savedata->vf` is not null -/
  hasFile : C → Bool
  /-- `machine_has_rtc` -/
  hasRtc : C → Bool
  /-- `GBASavedataRTCWrite` -/
  rtcWrite : C → C
  /-- `GBASavedataRTCRead` -/
  rtcRead : C → C
  /-- a seek, `none` when it fails, and a read of `MGBA_RTC_SIZE` bytes, which may be short -/
  fileRead : C → Nat → Option (List Byte)
  /-- a seek and a write, and whether both succeed -/
  fileWrite : C → Nat → List Byte → C × Bool
  /-- `savedata->dirty`, `savedata->dirtAge` -/
  dirty : C → Int × Nat
  setDirty : C → Int × Nat → C
  stateSize : C → Nat
  loadState : C → List Byte → C × Bool
  saveState : C → Option (List Byte)
  /-- `core->rtc.override`, `core->rtc.value` -/
  rtcSource : C → Nat × BitVec 64
  setRtcSource : C → Nat × BitVec 64 → C
  /-- `RTC_WALLCLOCK_OFFSET`, the last source there is -/
  rtcWallclockOffset : Nat
  reset : C → C
  advance : C → X → C

/-- `struct mgba_machine`, once its ROM is loaded. -/
structure Machine (C : Type) where
  core : C
  resetOnce : Bool
  memoryImported : Bool
  memoryDirty : Bool
  persistentRestoreFailed : Bool
  crashed : Bool
  saveSize : Nat
  rtcSize : Nat
  saveData : List Byte
  rtcData : List Byte

/-- `struct mgba_persistent_snapshot`, when `captured`. -/
structure PersistentSnapshot where
  type : SavedataType
  saveData : Option (List Byte)
  saveSize : Nat
  stableSaveData : Option (List Byte)
  stableSaveSize : Nat
  rtcSize : Nat
  rtcData : List Byte
  memoryDirty : Bool
  savedataDirty : Int × Nat
  liveCaptured : Bool

variable {C X : Type}

/-! ## The copy of the device -/

namespace Machine

variable (ops : StorageOps C X) (m : Machine C)

/-- Where the RTC record lies in the file. -/
def recordOffset : Nat := ops.savedataSize m.core / 256 * 256

/-- `update_memory_layout`. -/
def updateMemoryLayout : Machine C :=
  if ops.hasRtc m.core then { m with rtcSize := rtcRecordSize } else m

/-- `read_rtc_record`. -/
def readRtcRecord : Machine C :=
  if ops.hasFile m.core = false ∨ m.rtcSize ≠ rtcRecordSize then m
  else
    match ops.fileRead m.core (m.recordOffset ops) with
    | none => m
    | some record =>
      { m with
        rtcData := if record.length = rtcRecordSize then record else blank rtcRecordSize }

/-- The device's bytes are copied to the front of the region. -/
def copySavedata : Machine C :=
  match ops.savedataClone m.core with
  | (size, some copy) =>
    if size ≠ 0 ∧ size ≤ maxSaveSize then { m with saveData := writeAt m.saveData 0 copy } else m
  | (_, none) => m

/-- The record of the live clock is flushed to the file, when there is one to flush. -/
def flushRtc : Machine C := { m with core := ops.rtcWrite m.core }

/-- `sync_machine_storage`. -/
def syncMachineStorage (flush : Bool) : Machine C :=
  if m.memoryImported = false then m
  else
    let m := (m.copySavedata ops).updateMemoryLayout ops
    if m.rtcSize = 0 then m
    else (if flush then m.flushRtc ops else m).readRtcRecord ops

/-- The RTC part of `import_machine_storage`: the machine, and whether it succeeds. -/
def importRtcRecord : Machine C × Bool :=
  if m.rtcSize = 0 ∨ ops.hasFile m.core = false then (m, true)
  else
    let m := m.flushRtc ops
    if m.rtcData = blank rtcRecordSize then (m.readRtcRecord ops, true)
    else
      match ops.fileWrite m.core (m.recordOffset ops) m.rtcData with
      | (core, false) => ({ m with core }, false)
      | (core, true) => (({ m with core := ops.rtcRead core } : Machine C).readRtcRecord ops, true)

/-- What an import comes to once the bytes are restored, or are not. -/
def finishImport (restored : Bool) : Machine C × Bool :=
  if restored = false then (m, false)
  else
    match m.importRtcRecord ops with
    | (m, false) => (m, false)
    | (m, true) => ({ m with memoryImported := true }, true)

/-- `import_machine_storage`. -/
def importMachineStorage : Machine C × Bool :=
  if m.memoryImported then (m, true)
  else
    let m := m.updateMemoryLayout ops
    if m.saveSize ≠ 0 then
      let (core, restored) := ops.savedataRestore m.core (m.saveData.take m.saveSize)
      ({ m with core } : Machine C).finishImport ops restored
    else m.finishImport ops true

/-! ## The snapshot -/

/-- What a snapshot of a device that is not imported yet holds. -/
def shallowSnapshot : PersistentSnapshot where
  type := ops.savedataType m.core
  saveData := none
  saveSize := 0
  stableSaveData := none
  stableSaveSize := 0
  rtcSize := m.rtcSize
  rtcData := List.replicate rtcRecordSize 0
  memoryDirty := m.memoryDirty
  savedataDirty := ops.dirty m.core
  liveCaptured := false

/-- The device's bytes, the region and the record. -/
def liveSnapshot (alloc : Bool) : Option PersistentSnapshot :=
  let (size, copy) := ops.savedataClone m.core
  let type := ops.savedataType m.core
  if size ≠ ops.savedataSize m.core ∨ maxSaveSize + rtcRecordSize < size ∨
      (type ≠ .autodetect ∧ maxSaveSize < size) ∨ (size ≠ 0 ∧ copy = none) then none
  else if m.saveSize ≠ 0 ∧ alloc = false then none
  else if m.rtcSize ≠ 0 ∧ m.rtcSize ≠ rtcRecordSize then none
  else
    some
      { m.shallowSnapshot ops with
        saveData := copy
        saveSize := size
        stableSaveData := if m.saveSize ≠ 0 then some (m.saveData.take m.saveSize) else none
        stableSaveSize := m.saveSize
        rtcData := if m.rtcSize ≠ 0 then m.rtcData else List.replicate rtcRecordSize 0
        liveCaptured := true }

/-- `snapshot_persistent_storage`. -/
def snapshotPersistentStorage (alloc : Bool) : Machine C × Option PersistentSnapshot :=
  if m.memoryImported then
    let m := m.syncMachineStorage ops true
    (m, m.liveSnapshot ops alloc)
  else (m, some (m.shallowSnapshot ops))

end Machine

/-- `merge_savedata_type`. -/
def mergeSavedataType (current restored : SavedataType) : SavedataType :=
  if current = .autodetect then restored
  else if restored = .autodetect ∨ current = restored then current
  else if (current = .flash512 ∨ current = .flash1M) ∧
      (restored = .flash512 ∨ restored = .flash1M) then
    if current = .flash1M ∨ restored = .flash1M then .flash1M else .flash512
  else if (current = .eeprom512 ∨ current = .eeprom) ∧
      (restored = .eeprom512 ∨ restored = .eeprom) then
    if current = .eeprom ∨ restored = .eeprom then .eeprom else .eeprom512
  else if (current = .sram ∨ current = .sram512) ∧ (restored = .sram ∨ restored = .sram512) then
    if current = .sram512 ∨ restored = .sram512 then .sram512 else .sram
  else current

namespace Machine

variable (ops : StorageOps C X) (m : Machine C)

/-- The bytes a restore puts back, `none` when there are none for the device's size. -/
def restoredBytes (snapshot : PersistentSnapshot) (selected : SavedataType) (selectedSize : Nat) :
    Option (List Byte) :=
  if snapshot.liveCaptured = true ∧ selected ≠ .autodetect then
    if maxSaveSize < selectedSize then none
    else if selectedSize ≠ snapshot.saveSize then
      if snapshot.stableSaveSize < selectedSize ∨
          (selectedSize ≠ 0 ∧ snapshot.stableSaveData = none) then none
      else some ((snapshot.stableSaveData.getD []).take selectedSize)
    else some (snapshot.saveData.getD [])
  else some (snapshot.saveData.getD [])

/-- The battery's bytes are put back. -/
def restoreSavedata (snapshot : PersistentSnapshot) (selected : SavedataType) : Machine C × Bool :=
  match restoredBytes snapshot selected (ops.savedataSize m.core) with
  | none => (m, false)
  | some bytes =>
    if snapshot.liveCaptured = true ∧ bytes.length ≠ 0 then
      let (core, restored) := ops.savedataRestore m.core bytes
      ({ m with core }, restored)
    else (m, true)

/-- The RTC record is put back. -/
def restoreRtcRecord (snapshot : PersistentSnapshot) : Machine C × Bool :=
  if snapshot.liveCaptured = true ∧ snapshot.rtcSize ≠ 0 then
    if ops.hasFile m.core = false ∨ ops.hasRtc m.core = false then (m, false)
    else
      let m := m.flushRtc ops
      match ops.fileWrite m.core (m.recordOffset ops) snapshot.rtcData with
      | (core, false) => ({ m with core }, false)
      | (core, true) => ({ m with core := ops.rtcRead core }, true)
  else (m, true)

/-- `restore_persistent_storage`. -/
def restorePersistentStorage (snapshot : PersistentSnapshot) : Machine C × Bool :=
  let selected := mergeSavedataType snapshot.type (ops.savedataType m.core)
  let m := { m with core := ops.forceType m.core selected }
  let (m, bytesRestored) := m.restoreSavedata ops snapshot selected
  let (m, recordRestored) := m.restoreRtcRecord ops snapshot
  let m :=
    { m with
      rtcSize := snapshot.rtcSize
      memoryDirty := snapshot.memoryDirty
      core := ops.setDirty m.core snapshot.savedataDirty }
  (m.syncMachineStorage ops false, bytesRestored && recordRestored)

/-! ## Machine states -/

/-- The header of a machine state. -/
def stateHeader (rawSize : Nat) (rtcSource : Nat × BitVec 64) : List Byte :=
  [0x44, 0x42, 0x47, 0x4d] ++ leBytes 2 machineStateVersion ++
    leBytes 2 (BitVec.ofNat 16 machineStateHeaderSize) ++ leBytes 8 (BitVec.ofNat 64 rawSize) ++
    leBytes 4 (BitVec.ofNat 32 rtcSource.1) ++ leBytes 4 (0 : BitVec 32) ++ leBytes 8 rtcSource.2

/-- `mgba_serialize_machine`. -/
def serializeMachine (capacity : Nat) (alloc : Bool) : Option (List Byte) :=
  let rawSize := ops.stateSize m.core
  if 2 ^ 64 - 1 - machineStateHeaderSize < rawSize then none
  else if capacity < machineStateHeaderSize + rawSize then none
  else if alloc = false then none
  else (ops.saveState m.core).map fun raw => stateHeader rawSize (ops.rtcSource m.core) ++ raw

/-- The checks of the header. -/
def headerAccepted (bytes : List Byte) : Bool :=
  machineStateHeaderSize ≤ bytes.length && bytes.take 4 = [0x44, 0x42, 0x47, 0x4d] &&
    leWord 16 2 bytes 4 = machineStateVersion &&
    leWord 16 2 bytes 6 = BitVec.ofNat 16 machineStateHeaderSize &&
    leWord 32 4 bytes 20 = 0

/-- The checks before a machine state is loaded. -/
def stateAccepted (bytes : List Byte) : Bool :=
  let rawSize := ops.stateSize m.core
  m.persistentRestoreFailed = false && headerAccepted bytes &&
    (leWord 64 8 bytes 8).toNat = rawSize && rawSize ≤ 2 ^ 64 - 1 - machineStateHeaderSize &&
    bytes.length = machineStateHeaderSize + rawSize &&
    (leWord 32 4 bytes 16).toNat ≤ ops.rtcWallclockOffset

/-- What a load comes to once the battery is put back. -/
def finishLoad (loaded restored : Bool) (rtcSource : Nat × BitVec 64) : Machine C × Bool :=
  let m := if restored then m else { m with persistentRestoreFailed := true }
  if loaded = false ∨ restored = false then (m, false)
  else
    let m :=
      { m with core := ops.setRtcSource m.core rtcSource, crashed := false, resetOnce := true }
    (m.updateMemoryLayout ops, true)

/-- `mgba_unserialize_machine`; `alloc` says whether the snapshot's buffer and the raw copy are
there. -/
def unserializeMachine (bytes : List Byte) (alloc : Bool × Bool) : Machine C × Bool :=
  if m.stateAccepted ops bytes = false then (m, false)
  else
    match m.snapshotPersistentStorage ops alloc.1 with
    | (m, none) => (m, false)
    | (m, some snapshot) =>
      if alloc.2 = false then (m, false)
      else
        let (core, loaded) := ops.loadState m.core (bytes.drop machineStateHeaderSize)
        let (m, restored) := ({ m with core } : Machine C).restorePersistentStorage ops snapshot
        m.finishLoad ops loaded restored ((leWord 32 4 bytes 16).toNat, leWord 64 8 bytes 24)

/-! ## The frontend's view -/

/-- `mgba_memory_info` and `mgba_persistent_memory_extent` look at the machine behind this. -/
def exposed : Machine C := m.syncMachineStorage ops true

/-- `mgba_memory_dirty`. -/
def isMemoryDirty : Bool := m.memoryDirty || (ops.dirty m.core).1 ≠ 0

/-- `savedata_updated`. -/
def savedataUpdated : Machine C := ({ m with memoryDirty := true }).syncMachineStorage ops false

end Machine

end DualBoy.MgbaStorage
