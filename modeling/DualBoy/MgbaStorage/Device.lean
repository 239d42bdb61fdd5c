import DualBoy.MgbaStorage.Machine

/-!
# mGBA's battery device

What the adapter can see of a `GBASavedata`, as a record of its own: the bytes of the chip, the file
behind them with the RTC record at its end, and the clock. `Device.flush`, `putRecord`, `readClock`
and `restored` are what mGBA's functions do to it; `Refines` says that a core does that.

A device whose type is not detected yet has its whole file as its bytes, the record included.

* `Refines`: a core's device is a `Device`.
* `Agrees`: the region holds the device's bytes, as far as it is kept in step with them.
-/

namespace DualBoy.MgbaStorage

open DualBoy.Lib

/-! ## The device -/

/-- A device, as far as the adapter can see it. -/
structure Device where
  type : SavedataType
  bytes : List Byte
  /-- there is a file behind it -/
  file : Bool
  /-- the cartridge has a clock -/
  clock : Bool
  /-- what a read of the record gives, `none` when the seek fails -/
  record : Option (List Byte)
  /-- the record of the clock as it runs -/
  live : List Byte
  dirty : Int × Nat

namespace Device

/-- The record lies behind the last whole page of 256 bytes. -/
def recordOffset (d : Device) : Nat := d.bytes.length / 256 * 256

/-- A record is written to the file. -/
def putRecord (d : Device) (data : List Byte) : Device :=
  { d with
    record := some data
    bytes := if d.type = .autodetect then writeAt d.bytes d.recordOffset data else d.bytes }

/-- The clock's record is written to the file. -/
def flush (d : Device) : Device :=
  if d.file = true ∧ d.clock = true then d.putRecord d.live else d

/-- The clock is set from the file. -/
def readClock (d : Device) : Device :=
  { d with
    live :=
      match d.record with
      | none => d.live
      | some record => if record.length = rtcRecordSize then record else d.live }

/-- The bytes behind a restore from `data`. -/
def restored (d : Device) (data : List Byte) : List Byte :=
  if d.type = .autodetect then writeAt d.bytes 0 data else data.take d.bytes.length

/-- What a read of the record leaves of an older copy of it. -/
def readRecord (d : Device) (old : List Byte) : List Byte :=
  if d.file = false then old
  else
    match d.record with
    | none => old
    | some record => if record.length = rtcRecordSize then record else blank rtcRecordSize

/-- A device whose type is known stays so, and the file of one whose type is not does not shrink. -/
def Resolves (d d' : Device) : Prop :=
  d'.type = .autodetect → d.type = .autodetect ∧ d.bytes.length ≤ d'.bytes.length

/-- The file of a device whose type is not detected is at least as large as the region. -/
def Roomy (d : Device) : Prop :=
  d.type = .autodetect → maxSaveSize ≤ d.bytes.length

end Device

variable {C X : Type}

/-- **A core's device is a `Device`**, of the sizes `chip` once its type is known. A copy of its bytes
can be allocated. -/
structure Refines (ops : StorageOps C X) (view : C → Device) (chip : SavedataType → Nat) : Prop where
  type : ∀ c, ops.savedataType c = (view c).type
  size : ∀ c, ops.savedataSize c = (view c).bytes.length
  clone : ∀ c, ops.savedataClone c =
    ((view c).bytes.length, if (view c).bytes = [] then none else some (view c).bytes)
  file : ∀ c, ops.hasFile c = (view c).file
  clock : ∀ c, ops.hasRtc c = (view c).clock
  dirty : ∀ c, ops.dirty c = (view c).dirty
  record : ∀ c, (view c).file = true → ops.fileRead c (view c).recordOffset = (view c).record
  live : ∀ c, (view c).live.length = rtcRecordSize
  whole : ∀ t, chip t % 256 = 0
  sized : ∀ c, (view c).type ≠ .autodetect → (view c).bytes.length = chip (view c).type
  forceType : ∀ c t, (view (ops.forceType c t)).type = t
  forceType_same : ∀ c, ops.forceType c (view c).type = c
  savedataRestore : ∀ c data c', ops.savedataRestore c data = (c', true) →
    ((view c).type ≠ .autodetect → (view c).bytes.length ≤ data.length) ∧
      (view c').type = (view c).type ∧ (view c').bytes = (view c).restored data
  rtcWrite : ∀ c, view (ops.rtcWrite c) = (view c).flush
  fileWrite : ∀ c data c', (view c).file = true → data.length = rtcRecordSize →
    ops.fileWrite c (view c).recordOffset data = (c', true) → view c' = (view c).putRecord data
  rtcRead : ∀ c, (view c).file = true → view (ops.rtcRead c) = (view c).readClock
  setDirty : ∀ c dirty, view (ops.setDirty c dirty) = { view c with dirty }
  setRtcSource : ∀ c source, view (ops.setRtcSource c source) = view c
  loadState : ∀ c raw, (view c).type = .autodetect →
    (view (ops.loadState c raw).1).type = .autodetect →
      (view (ops.loadState c raw).1).bytes.length = (view c).bytes.length
  reset : ∀ c, (view c).Resolves (view (ops.reset c))
  advance : ∀ c x, (view c).Resolves (view (ops.advance c x))

/-! ## Small facts -/

namespace Device

variable (d : Device) (data : List Byte)

@[simp] theorem putRecord_type : (d.putRecord data).type = d.type := rfl

@[simp] theorem putRecord_file : (d.putRecord data).file = d.file := rfl

@[simp] theorem putRecord_clock : (d.putRecord data).clock = d.clock := rfl

@[simp] theorem putRecord_record : (d.putRecord data).record = some data := rfl

@[simp] theorem putRecord_live : (d.putRecord data).live = d.live := rfl

@[simp] theorem putRecord_dirty : (d.putRecord data).dirty = d.dirty := rfl

@[simp] theorem flush_type : d.flush.type = d.type := by
  unfold flush
  split
  · rfl
  · rfl

@[simp] theorem flush_file : d.flush.file = d.file := by
  unfold flush
  split
  · rfl
  · rfl

@[simp] theorem flush_clock : d.flush.clock = d.clock := by
  unfold flush
  split
  · rfl
  · rfl

@[simp] theorem flush_live : d.flush.live = d.live := by
  unfold flush
  split
  · rfl
  · rfl

@[simp] theorem flush_dirty : d.flush.dirty = d.dirty := by
  unfold flush
  split
  · rfl
  · rfl

/-- A clock's record is flushed to the same place a second time. -/
theorem flush_flush_record : d.flush.flush.record = d.flush.record := by
  by_cases h : d.file = true ∧ d.clock = true
  · have hflush : d.flush = d.putRecord d.live := if_pos h
    have hagain : d.flush.flush = d.flush.putRecord d.flush.live := by
      refine if_pos ?_
      rwa [flush_file, flush_clock]
    rw [hagain, hflush]
    rfl
  · have hflush : d.flush = d := if_neg h
    rw [hflush, hflush]

theorem readRecord_congr {d d' : Device} (hfile : d'.file = d.file) (hrecord : d'.record = d.record)
    (old : List Byte) : d'.readRecord old = d.readRecord old := by
  unfold readRecord
  rw [hfile, hrecord]

/-- The record that a flush leaves depends on the file, the clock and the record before it. -/
theorem flush_readRecord_congr {d d' : Device} (hfile : d'.file = d.file)
    (hclock : d'.clock = d.clock) (hrecord : d'.record = d.record) (hlive : d'.live = d.live)
    (old : List Byte) : d'.flush.readRecord old = d.flush.readRecord old := by
  refine readRecord_congr ?_ ?_ old
  · rw [flush_file, flush_file, hfile]
  · unfold flush
    rw [hfile, hclock, hlive]
    split
    · rfl
    · exact hrecord

/-- A second read finds what the first found. -/
theorem readRecord_readRecord (old : List Byte) :
    d.readRecord (d.readRecord old) = d.readRecord old := by
  unfold readRecord
  split
  · rfl
  · split
    · rfl
    · rfl

variable {d data}

/-- A record in the file is read. -/
theorem readRecord_of_record (hfile : d.file = true) (hrecord : d.record = some data)
    (hdata : data.length = rtcRecordSize) (old : List Byte) : d.readRecord old = data := by
  unfold readRecord
  rw [if_neg (by simp [hfile]), hrecord]
  exact if_pos hdata

/-- Flushing a clock that was set from the record leaves it. -/
theorem flush_readRecord_of_record (hfile : d.file = true) (hrecord : d.record = some data)
    (hlive : d.live = data) (hdata : data.length = rtcRecordSize) (old : List Byte) :
    d.flush.readRecord old = data := by
  refine readRecord_of_record ?_ ?_ hdata old
  · rw [flush_file, hfile]
  · unfold flush
    split
    · rw [putRecord_record, hlive]
    · exact hrecord

variable (d data)

theorem length_readRecord {old : List Byte} (h : old.length = rtcRecordSize) :
    (d.readRecord old).length = rtcRecordSize := by
  unfold readRecord
  split
  · exact h
  · split
    · exact h
    · split
      · assumption
      · exact List.length_replicate

/-- A write at the end of the file leaves no whole number of pages. -/
theorem length_putRecord (h : d.type = .autodetect) (hdata : data.length = rtcRecordSize) :
    d.bytes.length ≤ (d.putRecord data).bytes.length ∧
      (d.putRecord data).bytes.length % 256 ≠ 0 := by
  have hbytes : (d.putRecord data).bytes = writeAt d.bytes d.recordOffset data := if_pos h
  rw [hbytes]
  unfold writeAt recordOffset
  rw [List.length_append, List.length_append, List.length_take, List.length_drop, hdata]
  unfold rtcRecordSize
  omega

theorem putRecord_bytes (h : d.type ≠ .autodetect) : (d.putRecord data).bytes = d.bytes :=
  if_neg h

end Device

/-! ## The region -/

/-- The region behind a copy of the device's bytes. -/
def mirrored (region bytes : List Byte) : List Byte :=
  if bytes ≠ [] ∧ bytes.length ≤ maxSaveSize then writeAt region 0 bytes else region

/-- The device's bytes are the front of the region, or too many for it. -/
def Agrees (region bytes : List Byte) : Prop :=
  maxSaveSize < bytes.length ∨ bytes <+: region

theorem writeAt_zero_of_prefix {region bytes : List Byte} (h : bytes <+: region) :
    writeAt region 0 bytes = region := by
  obtain ⟨rest, rfl⟩ := h
  unfold writeAt
  rw [List.take_zero, List.nil_append, Nat.zero_add, List.drop_left]

theorem mirrored_eq {region bytes : List Byte} (h : Agrees region bytes) :
    mirrored region bytes = region := by
  unfold mirrored
  split
  · rename_i hcopied
    exact writeAt_zero_of_prefix (h.resolve_left (by omega))
  · rfl

theorem agrees_mirrored (region bytes : List Byte) : Agrees (mirrored region bytes) bytes := by
  unfold Agrees mirrored
  split
  · exact Or.inr ⟨_, by rw [writeAt, List.take_zero, List.nil_append]⟩
  · rename_i hnot
    by_cases hnil : bytes = []
    · exact Or.inr (hnil ▸ List.nil_prefix)
    · refine Or.inl (Nat.lt_of_not_le fun hle => hnot ⟨hnil, hle⟩)

theorem length_mirrored {region : List Byte} (h : region.length = maxSaveSize) (bytes : List Byte) :
    (mirrored region bytes).length = maxSaveSize := by
  unfold mirrored
  split
  · rw [length_writeAt (by omega), h]
  · exact h

/-- A record at the end of the file does not reach into the region. -/
theorem Agrees.putRecord {region : List Byte} {d : Device} (h : Agrees region d.bytes)
    (hroomy : d.Roomy) {data : List Byte} (hdata : data.length = rtcRecordSize) :
    Agrees region (d.putRecord data).bytes ∧ (d.putRecord data).Roomy := by
  by_cases htype : d.type = .autodetect
  · obtain ⟨hgrows, hpages⟩ := d.length_putRecord data htype hdata
    have hroom := hroomy htype
    rw [maxSaveSize_eq] at hroom
    constructor
    · left
      rw [maxSaveSize_eq]
      omega
    · intro _
      rw [maxSaveSize_eq]
      omega
  · rw [d.putRecord_bytes data htype]
    exact ⟨h, fun h' => absurd h' htype⟩

theorem Agrees.flush {region : List Byte} {d : Device} (h : Agrees region d.bytes)
    (hroomy : d.Roomy) (hlive : d.live.length = rtcRecordSize) :
    Agrees region d.flush.bytes ∧ d.flush.Roomy := by
  unfold Device.flush
  split
  · exact h.putRecord hroomy hlive
  · exact ⟨h, hroomy⟩

/-! ## A core with nothing but a battery -/

/-- `GBASavedataSize` of a device whose type is known. -/
def chipSize : SavedataType → Nat
  | .autodetect | .forceNone => 0
  | .sram => 0x8000
  | .flash512 | .sram512 => 0x10000
  | .flash1M => 0x20000
  | .eeprom => 0x2000
  | .eeprom512 => 0x200

/-- A device of the right sizes. -/
structure Cartridge where
  device : Device
  live : device.live.length = rtcRecordSize
  sized : device.type ≠ .autodetect → device.bytes.length = chipSize device.type

namespace Cartridge

variable (c : Cartridge)

def putRecord (data : List Byte) : Cartridge where
  device := c.device.putRecord data
  live := c.live
  sized h := by
    have hbytes : (c.device.putRecord data).bytes = c.device.bytes :=
      Device.putRecord_bytes c.device data h
    rw [hbytes]
    exact c.sized h

def flush : Cartridge :=
  if c.device.file = true ∧ c.device.clock = true then c.putRecord c.device.live else c

def readClock : Cartridge where
  device := c.device.readClock
  live := by
    unfold Device.readClock
    dsimp only
    split
    · exact c.live
    · split
      · assumption
      · exact c.live
  sized := c.sized

/-- The file is cut, or filled up, to the size of the chip. -/
def forceType (type : SavedataType) : Cartridge :=
  if type = c.device.type then c
  else
    { device :=
        { c.device with
          type
          bytes :=
            if type = .autodetect then c.device.bytes
            else (c.device.bytes ++ blank (chipSize type)).take (chipSize type) }
      live := c.live
      sized := fun h => by
        dsimp only at h ⊢
        rw [if_neg h, List.length_take, List.length_append]
        unfold blank
        rw [List.length_replicate]
        omega }

def setBytes (bytes : List Byte) (h : bytes.length = c.device.bytes.length) : Cartridge where
  device := { c.device with bytes }
  live := c.live
  sized htype := h.trans (c.sized htype)

def restore (data : List Byte) : Cartridge × Bool :=
  if hauto : c.device.type = .autodetect then
    ({ device := { c.device with bytes := c.device.restored data }
       live := c.live
       sized := fun h => absurd hauto h }, true)
  else if hfits : c.device.bytes.length ≤ data.length then
    (c.setBytes (data.take c.device.bytes.length) (List.length_take_of_le hfits), true)
  else (c, false)

/-- A game writes a byte; a state sets every byte to its first. -/
def ops : StorageOps Cartridge (Nat × Byte) where
  savedataType c := c.device.type
  savedataSize c := c.device.bytes.length
  savedataClone c :=
    (c.device.bytes.length, if c.device.bytes = [] then none else some c.device.bytes)
  savedataRestore := restore
  forceType := forceType
  hasFile c := c.device.file
  hasRtc c := c.device.clock
  rtcWrite := flush
  rtcRead := readClock
  fileRead c _ := c.device.record
  fileWrite c _ data := (c.putRecord data, true)
  dirty c := c.device.dirty
  setDirty c dirty := { c with device := { c.device with dirty } }
  stateSize _ := 1
  loadState c raw :=
    (c.setBytes (List.replicate c.device.bytes.length (raw.headD 0)) List.length_replicate, true)
  saveState _ := some [0]
  rtcSource _ := (0, 0)
  setRtcSource c _ := c
  rtcWallclockOffset := 4
  reset := id
  advance c written := c.setBytes (c.device.bytes.set written.1 written.2) List.length_set

/-- **The core refines its device**: the laws are met. -/
theorem refines : Refines ops device chipSize where
  type _ := rfl
  size _ := rfl
  clone _ := rfl
  file _ := rfl
  clock _ := rfl
  dirty _ := rfl
  record _ _ := rfl
  live := live
  whole t := by cases t <;> rfl
  sized := sized
  forceType c t := by
    change (c.forceType t).device.type = t
    unfold forceType
    split
    · rename_i h
      exact h.symm
    · rfl
  forceType_same c := if_pos rfl
  savedataRestore c data c' h := by
    change c.restore data = (c', true) at h
    unfold restore at h
    split at h
    · rename_i hauto
      obtain ⟨rfl, -⟩ := Prod.mk.inj h
      exact ⟨fun hne => absurd hauto hne, rfl, rfl⟩
    · rename_i hne
      split at h
      · rename_i hfits
        obtain ⟨rfl, -⟩ := Prod.mk.inj h
        exact ⟨fun _ => hfits, rfl, (if_neg hne).symm⟩
      · cases (Prod.mk.inj h).2
  rtcWrite c := by
    change c.flush.device = c.device.flush
    unfold flush Device.flush
    split
    · rfl
    · rfl
  fileWrite c data c' _ _ h := by
    obtain ⟨rfl, -⟩ := Prod.mk.inj h
    rfl
  rtcRead _ _ := rfl
  setDirty _ _ := rfl
  setRtcSource _ _ := rfl
  loadState _ _ _ _ := List.length_replicate
  reset _ h := ⟨h, le_rfl⟩
  advance _ _ h := ⟨h, List.length_set.ge⟩

end Cartridge

end DualBoy.MgbaStorage
