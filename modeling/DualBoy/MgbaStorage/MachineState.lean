import DualBoy.MgbaStorage.Pair

/-!
# The state of one mGBA machine

A machine state is a header and what mGBA saved. The reader checks every field of the header, so that
it accepts what the writer of a machine with the same state size wrote and nothing else.

* **`stateAccepted_iff`**: the accepted strings.
* `serializeMachine_eq_some`: a written state is one of them.
* **`machine_state_round_trip`**: a state that is read back brings mGBA's state and the source of the
  clock with it.
-/

namespace DualBoy.MgbaStorage.Machine

open DualBoy.Lib

variable {C X : Type} {ops : StorageOps C X} {m m' : Machine C}

/-! ## The header -/

/-- A string is its header fields, one after the other, and the rest. -/
theorem header_append (bytes : List Byte) :
    bytes.take 4 ++ (bytes.drop 4).take 2 ++ (bytes.drop 6).take 2 ++ (bytes.drop 8).take 8 ++
      (bytes.drop 16).take 4 ++ (bytes.drop 20).take 4 ++ (bytes.drop 24).take 8 ++
        bytes.drop 32 = bytes := by
  rw [← List.take_add, ← List.take_add, ← List.take_add, ← List.take_add, ← List.take_add,
    ← List.take_add, List.take_append_drop]

theorem length_stateHeader (rawSize : Nat) (source : Nat × BitVec 64) :
    (stateHeader rawSize source).length = machineStateHeaderSize := by
  unfold stateHeader
  simp only [List.length_append, length_leBytes]
  rfl

/-- The fields of a written header, where the reader looks for them. -/
theorem fields_stateHeader (rawSize : Nat) (source : Nat × BitVec 64) (raw : List Byte) :
    leWord 16 2 (stateHeader rawSize source ++ raw) 4 = machineStateVersion ∧
      leWord 16 2 (stateHeader rawSize source ++ raw) 6 = BitVec.ofNat 16 machineStateHeaderSize ∧
      leWord 64 8 (stateHeader rawSize source ++ raw) 8 = BitVec.ofNat 64 rawSize ∧
      leWord 32 4 (stateHeader rawSize source ++ raw) 16 = BitVec.ofNat 32 source.1 ∧
      leWord 32 4 (stateHeader rawSize source ++ raw) 20 = 0 ∧
      leWord 64 8 (stateHeader rawSize source ++ raw) 24 = source.2 := by
  refine ⟨leWord_of_slice (by decide) rfl, leWord_of_slice (by decide) rfl,
    leWord_of_slice (by decide) rfl, leWord_of_slice (by decide) rfl,
    leWord_of_slice (by decide) rfl, leWord_of_slice (by decide) rfl⟩

theorem headerAccepted_stateHeader (rawSize : Nat) (source : Nat × BitVec 64) (raw : List Byte) :
    headerAccepted (stateHeader rawSize source ++ raw) = true := by
  obtain ⟨hversion, hsize, -, -, hzero, -⟩ := fields_stateHeader rawSize source raw
  have hmagic : (stateHeader rawSize source ++ raw).take 4 = [0x44, 0x42, 0x47, 0x4d] := rfl
  have hlength : machineStateHeaderSize ≤ (stateHeader rawSize source ++ raw).length := by
    rw [List.length_append, length_stateHeader]
    exact Nat.le_add_right _ _
  unfold headerAccepted
  rw [hversion, hsize, hzero, hmagic, decide_eq_true hlength]
  rfl

/-- **A string with an accepted header is the header of its fields and the rest.** -/
theorem eq_of_headerAccepted {bytes : List Byte} (h : headerAccepted bytes = true) :
    bytes = stateHeader (leWord 64 8 bytes 8).toNat
      ((leWord 32 4 bytes 16).toNat, leWord 64 8 bytes 24) ++ bytes.drop machineStateHeaderSize := by
  unfold headerAccepted at h
  simp only [Bool.and_eq_true, decide_eq_true_eq] at h
  obtain ⟨⟨⟨⟨hlength, hmagic⟩, hversion⟩, hsize⟩, hzero⟩ := h
  have hslice {w n : Nat} {offset : Nat} (hw : n * 8 ≤ w) (hfits : offset + n ≤ 32) :
      leBytes n (leWord w n bytes offset) = (bytes.drop offset).take n :=
    leBytes_leWord hw (hfits.trans hlength)
  unfold stateHeader
  dsimp only
  rw [BitVec.ofNat_toNat, BitVec.ofNat_toNat, BitVec.setWidth_eq, BitVec.setWidth_eq, ← hmagic,
    ← hversion, ← hsize, ← hzero, hslice (by decide) (by decide), hslice (by decide) (by decide),
    hslice (by decide) (by decide), hslice (by decide) (by decide), hslice (by decide) (by decide),
    hslice (by decide) (by decide)]
  exact (header_append bytes).symm

/-! ## Accepted strings -/

/-- What a machine with raw states of this size writes for a raw state and a clock's source. -/
def Written (ops : StorageOps C X) (m : Machine C) (bytes raw : List Byte)
    (source : Nat × BitVec 64) : Prop :=
  raw.length = ops.stateSize m.core ∧ raw.length ≤ 2 ^ 64 - 1 - machineStateHeaderSize ∧
    source.1 ≤ ops.rtcWallclockOffset ∧ source.1 < 2 ^ 32 ∧
      bytes = stateHeader raw.length source ++ raw

theorem Written.fields {bytes raw : List Byte} {source : Nat × BitVec 64}
    (h : Written ops m bytes raw source) :
    bytes.drop machineStateHeaderSize = raw ∧ (leWord 64 8 bytes 8).toNat = raw.length ∧
      ((leWord 32 4 bytes 16).toNat, leWord 64 8 bytes 24) = source := by
  obtain ⟨-, hlength, -, hsource, rfl⟩ := h
  obtain ⟨-, -, hsize, htype, -, hvalue⟩ := fields_stateHeader raw.length source raw
  refine ⟨?_, ?_, ?_⟩
  · rw [← length_stateHeader raw.length source, List.drop_left]
  · rw [hsize, BitVec.toNat_ofNat, Nat.mod_eq_of_lt (by omega)]
  · rw [htype, hvalue, BitVec.toNat_ofNat, Nat.mod_eq_of_lt hsource]

/-- **A machine accepts what a machine like it writes, and nothing else**, as long as its battery
could be put back. -/
theorem stateAccepted_iff (bytes : List Byte) :
    m.stateAccepted ops bytes = true ↔
      m.persistentRestoreFailed = false ∧ ∃ raw source, Written ops m bytes raw source := by
  constructor
  · intro h
    unfold stateAccepted at h
    simp only [Bool.and_eq_true, decide_eq_true_eq] at h
    obtain ⟨⟨⟨⟨⟨hmark, hheader⟩, hraw⟩, hmax⟩, hlength⟩, hsource⟩ := h
    have hdrop : (bytes.drop machineStateHeaderSize).length = ops.stateSize m.core := by
      rw [List.length_drop, hlength, Nat.add_sub_cancel_left]
    have heq := eq_of_headerAccepted hheader
    rw [hraw, ← hdrop] at heq
    exact ⟨hmark, bytes.drop machineStateHeaderSize,
      ((leWord 32 4 bytes 16).toNat, leWord 64 8 bytes 24), hdrop, hdrop ▸ hmax, hsource,
      (leWord 32 4 bytes 16).isLt, heq⟩
  · rintro ⟨hmark, raw, source, hwritten⟩
    obtain ⟨-, hsize, hsource⟩ := hwritten.fields
    obtain ⟨hraw, hmax, hlast, -, rfl⟩ := hwritten
    have hlength : (stateHeader raw.length source ++ raw).length =
        machineStateHeaderSize + ops.stateSize m.core := by
      rw [List.length_append, length_stateHeader, hraw]
    have htype : (leWord 32 4 (stateHeader raw.length source ++ raw) 16).toNat = source.1 :=
      congrArg Prod.fst hsource
    unfold stateAccepted
    dsimp only
    rw [hmark, headerAccepted_stateHeader, hsize, htype, hlength, ← hraw]
    simp only [decide_true, Bool.and_true, Bool.true_and, decide_eq_true_eq, Bool.and_eq_true]
    exact ⟨hmax, hlast⟩

/-! ## The round trip -/

/-- **What is written is one of the accepted strings**, of mGBA's own state and source. -/
theorem serializeMachine_eq_some {capacity : Nat} {alloc : Bool} {bytes : List Byte}
    (hraw : ∀ raw, ops.saveState m.core = some raw → raw.length = ops.stateSize m.core)
    (hlast : (ops.rtcSource m.core).1 ≤ ops.rtcWallclockOffset)
    (hword : ops.rtcWallclockOffset < 2 ^ 32)
    (h : m.serializeMachine ops capacity alloc = some bytes) :
    ∃ raw, ops.saveState m.core = some raw ∧ bytes.length ≤ capacity ∧
      Written ops m bytes raw (ops.rtcSource m.core) := by
  unfold serializeMachine at h
  simp only [Option.ite_none_left_eq_some] at h
  obtain ⟨hmax, hfits, -, hsaved⟩ := h
  rw [Option.map_eq_some_iff] at hsaved
  obtain ⟨raw, hsaved, rfl⟩ := hsaved
  have hlength := hraw raw hsaved
  refine ⟨raw, hsaved, ?_, hlength, by omega, hlast, by omega, by rw [hlength]⟩
  rw [List.length_append, length_stateHeader, hlength]
  exact Nat.le_of_not_lt hfits

/-- The source of the clock is set last. -/
theorem finishLoad_true {loaded restored : Bool} {source : Nat × BitVec 64}
    (h : m.finishLoad ops loaded restored source = (m', true)) :
    loaded = true ∧ restored = true ∧ m'.core = ops.setRtcSource m.core source ∧
      m'.crashed = false := by
  have hlaid (n : Machine C) : (n.updateMemoryLayout ops).core = n.core ∧
      (n.updateMemoryLayout ops).crashed = n.crashed := by
    unfold updateMemoryLayout
    split
    · exact ⟨rfl, rfl⟩
    · exact ⟨rfl, rfl⟩
  unfold finishLoad at h
  dsimp only at h
  split at h
  · cases (Prod.mk.inj h).2
  rename_i hboth
  rw [not_or, Bool.not_eq_false, Bool.not_eq_false] at hboth
  obtain ⟨rfl, rfl⟩ := hboth
  obtain ⟨rfl, -⟩ := Prod.mk.inj h
  exact ⟨rfl, rfl, (hlaid _).1, (hlaid _).2⟩

/-- What a load that comes through has done to a core: a raw state is loaded, the battery is put
back, and the clock gets its source. -/
def LoadedBy (ops : StorageOps C X) (n n' : Machine C) (alloc : Bool) (raw : List Byte)
    (source : Nat × BitVec 64) : Prop :=
  ∃ looked snapshot core restored,
    n.snapshotPersistentStorage ops alloc = (looked, some snapshot) ∧
      ops.loadState looked.core raw = (core, true) ∧
      restorePersistentStorage ops { looked with core } snapshot = (restored, true) ∧
      n'.core = ops.setRtcSource restored.core source ∧ n'.crashed = false

/-- **A machine state is read back**: every unmarked machine with states of this size accepts what
another one wrote, and a load that comes through has given mGBA the very state that was saved and
the source of the clock that was saved. -/
theorem machine_state_round_trip {n : Machine C} {capacity : Nat} {alloc : Bool} {bytes : List Byte}
    (hraw : ∀ raw, ops.saveState m.core = some raw → raw.length = ops.stateSize m.core)
    (hlast : (ops.rtcSource m.core).1 ≤ ops.rtcWallclockOffset)
    (hword : ops.rtcWallclockOffset < 2 ^ 32)
    (hsaved : m.serializeMachine ops capacity alloc = some bytes)
    (hsame : ops.stateSize n.core = ops.stateSize m.core)
    (hmark : n.persistentRestoreFailed = false) :
    ∃ raw, ops.saveState m.core = some raw ∧ bytes.length ≤ capacity ∧
      n.stateAccepted ops bytes = true ∧
      ∀ n' alloc', n.unserializeMachine ops bytes alloc' = (n', true) →
        LoadedBy ops n n' alloc'.1 raw (ops.rtcSource m.core) := by
  obtain ⟨raw, hstate, hfits, hwritten⟩ := serializeMachine_eq_some hraw hlast hword hsaved
  obtain ⟨hdrop, -, hsource⟩ := hwritten.fields
  have haccepted : n.stateAccepted ops bytes = true := by
    obtain ⟨hlength, hrest⟩ := hwritten
    exact (stateAccepted_iff bytes).mpr
      ⟨hmark, raw, ops.rtcSource m.core, hlength.trans hsame.symm, hrest⟩
  refine ⟨raw, hstate, hfits, haccepted, fun n' alloc' hload => ?_⟩
  unfold unserializeMachine at hload
  rw [if_neg (by rw [haccepted]; decide), hdrop, hsource] at hload
  split at hload
  · cases (Prod.mk.inj hload).2
  rename_i looked snapshot hlooked
  split at hload
  · cases (Prod.mk.inj hload).2
  dsimp only at hload
  obtain ⟨hloaded, hrestored, hcore, hcrashed⟩ := finishLoad_true hload
  exact ⟨looked, snapshot, _, _, hlooked, Prod.ext rfl hloaded, Prod.ext rfl hrestored, hcore,
    hcrashed⟩

/-- A cartridge's state is read back by the machine that wrote it. -/
theorem machine_state_round_trip_cartridge :
    ∃ raw, Cartridge.ops.saveState (Pair.cartridges 0) = some raw ∧
      (stateHeader 1 (0, 0) ++ [0]).length ≤ 33 ∧
      (loaded (Pair.cartridges 0)).stateAccepted Cartridge.ops (stateHeader 1 (0, 0) ++ [0]) = true ∧
      ∀ n' alloc', (loaded (Pair.cartridges 0)).unserializeMachine Cartridge.ops
          (stateHeader 1 (0, 0) ++ [0]) alloc' = (n', true) →
        LoadedBy Cartridge.ops (loaded (Pair.cartridges 0)) n' alloc'.1 raw (0, 0) := by
  have hsaved : (loaded (Pair.cartridges 0)).serializeMachine Cartridge.ops 33 true =
      some (stateHeader 1 (0, 0) ++ [0]) := rfl
  refine machine_state_round_trip ?_ (Nat.zero_le _) (by decide) hsaved rfl rfl
  intro raw hraw
  obtain rfl := Option.some.inj hraw
  rfl

end DualBoy.MgbaStorage.Machine
