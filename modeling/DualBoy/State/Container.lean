import DualBoy.Engine
import DualBoy.Lib.Memory

/-!
# The saved-state container

The byte layout of `state.c`: little-endian fields, the CRC-32 of the header and of each payload, and
what a header says the container holds.
-/

namespace DualBoy.State

open DualBoy.Lib

/-- `DUALBOY_STATE_HEADER_SIZE`. -/
def headerSize : Nat := 112

/-- `DUALBOY_STATE_VERSION`. -/
def stateVersion : BitVec 32 := 1

/-- `DUALBOY_STATE_FLAG_LINK_ENABLED`. -/
def flagLinkEnabled : BitVec 32 := 1

/-- `state_magic`: `DUALBST` and a zero byte. -/
def stateMagic : List Byte := [0x44, 0x55, 0x41, 0x4c, 0x42, 0x53, 0x54, 0x00]

/-! ## Fields -/

/-- The byte at an offset of the container. -/
def byteAt (bytes : List Byte) (offset : Nat) : Byte :=
  bytes.getD offset 0

/-- `put_u32`. -/
def putU32 (value : BitVec 32) : List Byte :=
  (List.range 4).map fun index => (value >>> (index * 8)).setWidth 8

/-- `put_u64`. -/
def putU64 (value : BitVec 64) : List Byte :=
  (List.range 8).map fun index => (value >>> (index * 8)).setWidth 8

/-- `get_u32` at an offset. -/
def getU32 (bytes : List Byte) (offset : Nat) : BitVec 32 :=
  (byteAt bytes offset).setWidth 32 ||| (byteAt bytes (offset + 1)).setWidth 32 <<< 8 |||
    (byteAt bytes (offset + 2)).setWidth 32 <<< 16 ||| (byteAt bytes (offset + 3)).setWidth 32 <<< 24

/-- `get_u64` at an offset. -/
def getU64 (bytes : List Byte) (offset : Nat) : BitVec 64 :=
  (List.range 8).foldl
    (fun value index => value ||| (byteAt bytes (offset + index)).setWidth 64 <<< (index * 8)) 0

/-- The `size` bytes at an offset. -/
def slice (bytes : List Byte) (offset size : Nat) : List Byte :=
  (bytes.drop offset).take size

/-! ## Checksum -/

/-- One turn of the inner loop of `crc32_bytes`. -/
def crcBit (crc : BitVec 32) : BitVec 32 :=
  let mask := -(crc &&& 1)
  (crc >>> 1) ^^^ (0xedb88320 &&& mask)

/-- One turn of its outer loop. -/
def crcByte (crc : BitVec 32) (byte : Byte) : BitVec 32 :=
  Nat.repeat crcBit 8 (crc ^^^ byte.setWidth 32)

/-- `crc32_bytes`. -/
def crc32Bytes (data : List Byte) : BitVec 32 :=
  ~~~(data.foldl crcByte 0xffffffff)

/-- The checksum of the nine bytes CRC-32 is usually tried on. -/
example : crc32Bytes [0x31, 0x32, 0x33, 0x34, 0x35, 0x36, 0x37, 0x38, 0x39] = 0xcbf43926 := by
  decide +kernel

/-! ## Contents -/

/-- `checked_add`. -/
def checkedAdd (first second : Nat) : Option Nat :=
  if sizeMax - second < first then none else some (first + second)

/-- `lengths_valid`: the size of a container with these payloads, if it fits the input. -/
def lengthsValid (first second link inputSize : Nat) : Option Nat := do
  let result ← checkedAdd headerSize first
  let result ← checkedAdd result second
  let result ← checkedAdd result link
  if inputSize < result then none else some result

/-- The payload length of machine `i` in the header. -/
def machineLength (bytes : List Byte) (i : Fin 2) : Nat :=
  (getU64 bytes (64 + 8 * i.val)).toNat

/-- The payload length of the link in the header. -/
def linkLength (bytes : List Byte) : Nat :=
  (getU64 bytes 80).toNat

/-- What a container holds. -/
structure Contents where
  linkEnabled : Bool
  machine : Fin 2 → List Byte
  link : List Byte

/-- The contents the header points to. -/
def contentsOf (bytes : List Byte) : Contents where
  linkEnabled := getU32 bytes 36 &&& flagLinkEnabled ≠ 0
  machine
    | 0 => slice bytes headerSize (machineLength bytes 0)
    | 1 => slice bytes (headerSize + machineLength bytes 0) (machineLength bytes 1)
  link := slice bytes (headerSize + machineLength bytes 0 + machineLength bytes 1) (linkLength bytes)

/-- **The accepted lengths are those whose container fits both `size_t` and the input.** -/
theorem lengthsValid_eq_some {first second link inputSize total : Nat} :
    lengthsValid first second link inputSize = some total ↔
      total = headerSize + first + second + link ∧ total ≤ inputSize ∧ total ≤ sizeMax := by
  constructor
  · intro h
    simp only [lengthsValid, checkedAdd, Option.bind_eq_bind, Option.bind_eq_some_iff,
      Option.ite_none_left_eq_some, Option.some.injEq, Nat.not_lt] at h
    obtain ⟨a, ⟨-, rfl⟩, b, ⟨-, rfl⟩, c, ⟨h3, rfl⟩, h4, rfl⟩ := h
    have hpos : 0 < headerSize := by decide
    exact ⟨rfl, h4, by omega⟩
  · rintro ⟨rfl, hinput, hmax⟩
    simp only [lengthsValid, checkedAdd, Option.bind_eq_bind, Option.bind_eq_some_iff,
      Option.ite_none_left_eq_some, Option.some.injEq, Nat.not_lt]
    exact ⟨_, ⟨by omega, rfl⟩, _, ⟨by omega, rfl⟩, _, ⟨by omega, rfl⟩, hinput, rfl⟩

end DualBoy.State
