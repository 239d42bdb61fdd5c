import DualBoy.State.Container

/-!
# Sessions and their engines

The loaded pair of machines as a restore sees it, the engine operations `state.c` calls, and the
checks that come before any of them. The pair is split into the components the operations are about:
the two machines, the link, whether the link is on, and the memory that holds the battery regions. An
engine operation is any function on the whole pair.
-/

namespace DualBoy.State

open DualBoy.Lib

/-- A loaded pair, over the states of a machine and of the link. -/
structure Pair (M L : Type) where
  machine : Fin 2 → M
  link : L
  linked : Bool
  memory : Memory

/-- The operations of `struct dualboy_engine_ops` that `state.c` uses; `none` is a null pointer. -/
structure EngineOps (M L : Type) where
  family : EngineFamily
  /-- The error is what the engine leaves in the buffer. -/
  setLink : Pair M L → Bool → Pair M L × Option String
  /-- The address, `none` for a null pointer, and the size. -/
  memoryInfo : Option (Pair M L → Fin 2 → MemoryKind → Option (Option Nat × Nat))
  machineStateSize : Option (Pair M L → Fin 2 → Nat)
  /-- The bytes written; their number is `*used`. -/
  serializeMachine : Option (Pair M L → Fin 2 → Nat → Option (List Byte))
  unserializeMachine : Option (Pair M L → Fin 2 → List Byte → Pair M L × Bool)
  linkStateSize : Option (Pair M L → Nat)
  serializeLink : Option (Pair M L → Nat → Option (List Byte))
  unserializeLink : Option (Pair M L → List Byte → Pair M L × Bool)

/-- `struct dualboy_rom`. -/
structure Rom where
  platform : Platform
  data : List Byte

/-- `struct dualboy_session`. -/
structure Session (M L : Type) where
  engine : Option (EngineOps M L)
  pair : Option (Pair M L)
  roms : Fin 2 → Rom
  machineStateCapacity : Fin 2 → Nat
  linkStateCapacity : Nat
  linkEnabled : Bool
  loaded : Bool

variable {M L : Type}

/-- A session whose state operations can be called. -/
structure Ready (M L : Type) where
  pair : Pair M L
  family : EngineFamily
  setLink : Pair M L → Bool → Pair M L × Option String
  memoryInfo : Option (Pair M L → Fin 2 → MemoryKind → Option (Option Nat × Nat))
  serializeMachine : Pair M L → Fin 2 → Nat → Option (List Byte)
  unserializeMachine : Pair M L → Fin 2 → List Byte → Pair M L × Bool
  serializeLink : Pair M L → Nat → Option (List Byte)
  unserializeLink : Pair M L → List Byte → Pair M L × Bool
  roms : Fin 2 → Rom
  machineStateCapacity : Fin 2 → Nat
  machineStateCapacity_pos : ∀ i, 0 < machineStateCapacity i
  linkStateCapacity : Nat
  linkEnabled : Bool

/-- `state_ops_valid`. -/
def stateOpsValid (s : Session M L) : Option (Ready M L) := do
  guard (s.loaded = true)
  let pair ← s.pair
  let engine ← s.engine
  let _ ← engine.machineStateSize
  let serializeMachine ← engine.serializeMachine
  let unserializeMachine ← engine.unserializeMachine
  let _ ← engine.linkStateSize
  let serializeLink ← engine.serializeLink
  let unserializeLink ← engine.unserializeLink
  if h : ∀ i, 0 < s.machineStateCapacity i then
    some
      { pair, serializeMachine, unserializeMachine, serializeLink, unserializeLink
        family := engine.family
        setLink := engine.setLink
        memoryInfo := engine.memoryInfo
        roms := s.roms
        machineStateCapacity := s.machineStateCapacity
        machineStateCapacity_pos := h
        linkStateCapacity := s.linkStateCapacity
        linkEnabled := s.linkEnabled }
  else none

/-- A usable session has this pair, this link setting and these memory regions. -/
theorem stateOpsValid_eq_some {s : Session M L} {r : Ready M L} (h : stateOpsValid s = some r) :
    s.pair = some r.pair ∧ s.linkEnabled = r.linkEnabled ∧
      ∃ engine, s.engine = some engine ∧ engine.memoryInfo = r.memoryInfo := by
  simp only [stateOpsValid, Option.bind_eq_bind, Option.bind_eq_some_iff] at h
  obtain ⟨_, _, pair, hpair, engine, hengine, _, _, _, _, _, _, _, _, _, _, _, _, h⟩ := h
  split at h
  · obtain rfl := Option.some.inj h
    exact ⟨hpair, rfl, engine, hengine, rfl⟩
  · exact absurd h (by simp)

/-! ## Layout -/

/-- The fields before the header's checksum, as `dualboy_state_serialize` writes them. -/
def Ready.fields (r : Ready M L) (c : Contents) : List Byte :=
  stateMagic ++ putU32 stateVersion ++ putU32 (BitVec.ofNat 32 headerSize) ++
    putU64 (BitVec.ofNat 64
      (headerSize + (c.machine 0).length + (c.machine 1).length + c.link.length)) ++
    putU32 r.family.code ++ putU32 (r.roms 0).platform.code ++ putU32 (r.roms 1).platform.code ++
    putU32 (if c.linkEnabled then flagLinkEnabled else 0) ++
    putU64 (BitVec.ofNat 64 (r.roms 0).data.length) ++
    putU64 (BitVec.ofNat 64 (r.roms 1).data.length) ++
    putU32 (crc32Bytes (r.roms 0).data) ++ putU32 (crc32Bytes (r.roms 1).data) ++
    putU64 (BitVec.ofNat 64 (c.machine 0).length) ++
    putU64 (BitVec.ofNat 64 (c.machine 1).length) ++ putU64 (BitVec.ofNat 64 c.link.length) ++
    putU32 (crc32Bytes (c.machine 0)) ++ putU32 (crc32Bytes (c.machine 1)) ++
    putU32 (crc32Bytes c.link) ++ List.replicate 8 0

/-- The container of these contents, without padding. -/
def Ready.container (r : Ready M L) (c : Contents) : List Byte :=
  r.fields c ++ putU32 (crc32Bytes (r.fields c)) ++ c.machine 0 ++ c.machine 1 ++ c.link

/-! ## Validation -/

/-- The checks of the header, of the identity of engine and cartridges, of the flags, of the lengths
and of the checksums. -/
structure Accepted (r : Ready M L) (bytes : List Byte) : Prop where
  magic : bytes.take 8 = stateMagic
  version : getU32 bytes 8 = stateVersion
  headerLength : getU32 bytes 12 = BitVec.ofNat 32 headerSize
  headerChecksum : getU32 bytes 108 = crc32Bytes (bytes.take 108)
  family : getU32 bytes 24 = r.family.code
  platform0 : getU32 bytes 28 = (r.roms 0).platform.code
  platform1 : getU32 bytes 32 = (r.roms 1).platform.code
  romSize0 : getU64 bytes 40 = BitVec.ofNat 64 (r.roms 0).data.length
  romSize1 : getU64 bytes 48 = BitVec.ofNat 64 (r.roms 1).data.length
  romChecksum0 : getU32 bytes 56 = crc32Bytes (r.roms 0).data
  romChecksum1 : getU32 bytes 60 = crc32Bytes (r.roms 1).data
  flags : getU32 bytes 36 &&& ~~~flagLinkEnabled = 0
  lengths : lengthsValid (machineLength bytes 0) (machineLength bytes 1) (linkLength bytes)
    bytes.length = some (getU64 bytes 16).toNat
  machineLengths : ∀ i, 0 < machineLength bytes i ∧ machineLength bytes i ≤ r.machineStateCapacity i
  linkLength : linkLength bytes ≤ r.linkStateCapacity
  machineChecksum0 : getU32 bytes 88 = crc32Bytes ((contentsOf bytes).machine 0)
  machineChecksum1 : getU32 bytes 92 = crc32Bytes ((contentsOf bytes).machine 1)
  linkChecksum : getU32 bytes 96 = crc32Bytes (contentsOf bytes).link

/-- The checks of `dualboy_state_unserialize_ex`, in their order, on an input that has a header. -/
def validate (r : Ready M L) (bytes : List Byte) : Except String Contents :=
  if bytes.take 8 ≠ stateMagic ∨ getU32 bytes 8 ≠ stateVersion ∨
      getU32 bytes 12 ≠ BitVec.ofNat 32 headerSize ∨
      getU32 bytes 108 ≠ crc32Bytes (bytes.take 108) then
    .error "savestate header is corrupt or unsupported"
  else if getU32 bytes 24 ≠ r.family.code ∨ getU32 bytes 28 ≠ (r.roms 0).platform.code ∨
      getU32 bytes 32 ≠ (r.roms 1).platform.code then
    .error "savestate engine or platform does not match"
  else if getU64 bytes 40 ≠ BitVec.ofNat 64 (r.roms 0).data.length ∨
      getU64 bytes 48 ≠ BitVec.ofNat 64 (r.roms 1).data.length ∨
      getU32 bytes 56 ≠ crc32Bytes (r.roms 0).data ∨
      getU32 bytes 60 ≠ crc32Bytes (r.roms 1).data then
    .error "savestate cartridges do not match this session"
  else if getU32 bytes 36 &&& ~~~flagLinkEnabled ≠ 0 then
    .error "savestate uses unknown feature flags"
  else if lengthsValid (machineLength bytes 0) (machineLength bytes 1) (linkLength bytes)
      bytes.length ≠ some (getU64 bytes 16).toNat then
    .error "savestate lengths are invalid"
  else if ¬∀ i, 0 < machineLength bytes i ∧ machineLength bytes i ≤ r.machineStateCapacity i then
    .error "savestate machine payload is invalid"
  else if r.linkStateCapacity < linkLength bytes then
    .error "savestate link payload is invalid"
  else if getU32 bytes 88 ≠ crc32Bytes ((contentsOf bytes).machine 0) ∨
      getU32 bytes 92 ≠ crc32Bytes ((contentsOf bytes).machine 1) ∨
      getU32 bytes 96 ≠ crc32Bytes (contentsOf bytes).link then
    .error "savestate payload checksum failed"
  else .ok (contentsOf bytes)

/-- **Validation passes exactly the accepted containers**, and yields their contents. -/
theorem validate_eq_ok {r : Ready M L} {bytes : List Byte} {contents : Contents} :
    validate r bytes = .ok contents ↔ Accepted r bytes ∧ contents = contentsOf bytes := by
  constructor
  · intro h
    unfold validate at h
    iterate 8
      split at h
      · exact absurd h (by simp)
    rename_i hheader hplatform hrom hflags hlengths hmachines hlink hpayload
    simp only [not_or, Decidable.not_not] at hheader hplatform hrom hflags hlengths hmachines hpayload
    exact
      ⟨{ magic := hheader.1
         version := hheader.2.1
         headerLength := hheader.2.2.1
         headerChecksum := hheader.2.2.2
         family := hplatform.1
         platform0 := hplatform.2.1
         platform1 := hplatform.2.2
         romSize0 := hrom.1
         romSize1 := hrom.2.1
         romChecksum0 := hrom.2.2.1
         romChecksum1 := hrom.2.2.2
         flags := hflags
         lengths := hlengths
         machineLengths := hmachines
         linkLength := Nat.not_lt.mp hlink
         machineChecksum0 := hpayload.1
         machineChecksum1 := hpayload.2.1
         linkChecksum := hpayload.2.2 }, (Except.ok.inj h).symm⟩
  · rintro ⟨h, rfl⟩
    unfold validate
    rw [if_neg (by simp [h.magic, h.version, h.headerLength, ← h.headerChecksum]),
      if_neg (by simp [h.family, h.platform0, h.platform1]),
      if_neg (by simp [h.romSize0, h.romSize1, h.romChecksum0, h.romChecksum1]),
      if_neg (by simp [h.flags]), if_neg (not_not_intro h.lengths),
      if_neg (not_not_intro h.machineLengths), if_neg (Nat.not_lt.mpr h.linkLength),
      if_neg (by simp [h.machineChecksum0, h.machineChecksum1, h.linkChecksum])]

end DualBoy.State
