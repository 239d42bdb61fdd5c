import DualBoy.Lib.Crc
import DualBoy.State.Atomicity

/-!
# What the checksums detect

`crc32_bytes` is a reflected CRC of 32 bits, so it tells apart any two byte strings of one length
whose difference is confined to 32 consecutive bits, **`crc32Bytes_burst`**. Each byte the checks of a
container rely on lies in one of four regions with a checksum outside itself, and a container damaged
so in one of them is refused before the engine is called, **`corruption_is_detected`**.
-/

namespace DualBoy.State

open DualBoy.Lib

variable {M L : Type}

/-! ## Bits of a byte string -/

/-- Bit `i` of a byte string, in the order the checksum takes them: the lowest of each byte first. -/
def bitAt (data : List Byte) (i : Nat) : Bool := (byteAt data (i / 8)).getLsbD (i % 8)

/-- The bits of a byte. -/
def byteBits (byte : Byte) : List Bool := (List.range 8).map byte.getLsbD

/-- The bits of a byte string. -/
def bitsOf (data : List Byte) : List Bool := data.flatMap byteBits

/-- Two byte strings of one length that differ, and only within 32 consecutive bits. -/
structure Burst (data data' : List Byte) : Prop where
  length : data.length = data'.length
  differ : data ≠ data'
  window : ∃ start, ∀ i, bitAt data i ≠ bitAt data' i → start ≤ i ∧ i < start + 32

@[simp] theorem length_byteBits (byte : Byte) : (byteBits byte).length = 8 := by
  unfold byteBits
  rw [List.length_map, List.length_range]

theorem bitsOf_cons (byte : Byte) (data : List Byte) :
    bitsOf (byte :: data) = byteBits byte ++ bitsOf data :=
  List.flatMap_cons

theorem length_bitsOf (data : List Byte) : (bitsOf data).length = 8 * data.length := by
  induction data with
  | nil => rfl
  | cons byte data ih =>
    rw [bitsOf_cons, List.length_append, length_byteBits, ih, List.length_cons]
    omega

theorem getElem?_byteBits (byte : Byte) {i : Nat} (hi : i < 8) :
    (byteBits byte)[i]? = some (byte.getLsbD i) := by
  unfold byteBits
  rw [List.getElem?_map, List.getElem?_range hi]
  rfl

theorem getElem?_bitsOf {data : List Byte} {i : Nat} (hi : i < 8 * data.length) :
    (bitsOf data)[i]? = some (bitAt data i) := by
  induction data generalizing i with
  | nil => exact absurd hi (Nat.not_lt_zero i)
  | cons byte data ih =>
    rw [bitsOf_cons]
    by_cases hfirst : i < 8
    · have hdiv : i / 8 = 0 := by omega
      have hmod : i % 8 = i := by omega
      rw [List.getElem?_append_left (by rw [length_byteBits]; exact hfirst),
        getElem?_byteBits byte hfirst]
      unfold bitAt byteAt
      rw [hdiv, hmod]
      rfl
    · rw [List.length_cons] at hi
      have hdiv : i / 8 = (i - 8) / 8 + 1 := by omega
      have hmod : i % 8 = (i - 8) % 8 := by omega
      rw [List.getElem?_append_right (by rw [length_byteBits]; omega), length_byteBits,
        ih (by omega)]
      unfold bitAt byteAt
      rw [hdiv, hmod]
      rfl

/-- A byte string is its bits. -/
theorem bitsOf_injective {data data' : List Byte} (hlength : data.length = data'.length)
    (h : bitsOf data = bitsOf data') : data = data' := by
  induction data generalizing data' with
  | nil => exact (List.length_eq_zero_iff.mp hlength.symm).symm
  | cons byte data ih =>
    cases data' with
    | nil => cases hlength
    | cons byte' data' =>
      rw [bitsOf_cons, bitsOf_cons] at h
      obtain ⟨hbits, hrest⟩ := List.append_inj h (by rw [length_byteBits, length_byteBits])
      have hbyte : byte = byte' := by
        refine BitVec.eq_of_getLsbD_eq fun i hi => ?_
        have hbit := getElem?_byteBits byte hi
        rw [hbits, getElem?_byteBits byte' hi] at hbit
        exact (Option.some.inj hbit).symm
      rw [hbyte, ih (Nat.succ.inj hlength) hrest]

/-! ## The checksum as a CRC -/

/-- The polynomial of `crc32_bytes`, its bits reflected. -/
def crcPolynomial : BitVec 32 := 0xedb88320

theorem crcBit_eq_shift : crcBit = Crc.shift crcPolynomial := by
  funext crc
  have hlow : crc &&& 1 = (BitVec.ofBool (crc.getLsbD 0)).setWidth 32 :=
    BitVec.and_one_eq_setWidth_ofBool_getLsbD
  unfold crcBit Crc.shift crcPolynomial
  dsimp only
  rw [hlow]
  cases crc.getLsbD 0 with
  | false =>
    rw [if_neg Bool.false_ne_true]
    exact BitVec.xor_zero
  | true =>
    rw [if_pos rfl]
    rfl

/-- The eight turns of the inner loop take the bits of the byte. -/
theorem crcByte_eq_remainder (crc : BitVec 32) (byte : Byte) :
    crcByte crc byte = Crc.remainder crcPolynomial crc (byteBits byte) := by
  have hword : Crc.bitsWord 32 (byteBits byte) = byte.setWidth 32 := by
    refine BitVec.eq_of_getLsbD_eq fun i hi => ?_
    rw [Crc.getLsbD_bitsWord, BitVec.getLsbD_setWidth, List.getD_eq_getElem?_getD]
    by_cases hbyte : i < 8
    · rw [getElem?_byteBits byte hbyte]
      rfl
    · rw [List.getElem?_eq_none (by rw [length_byteBits]; omega),
        BitVec.getLsbD_of_ge byte i (by omega)]
      rfl
  rw [Crc.remainder_eq_shifts crcPolynomial crc (by rw [length_byteBits]; decide), hword,
    length_byteBits]
  unfold crcByte
  rw [crcBit_eq_shift]
  rfl

/-- `crc32_bytes` is a CRC of the bits of its bytes. -/
theorem crc32Bytes_eq_remainder (data : List Byte) :
    crc32Bytes data = ~~~(Crc.remainder crcPolynomial 0xffffffff (bitsOf data)) := by
  have hfold (crc : BitVec 32) :
      data.foldl crcByte crc = Crc.remainder crcPolynomial crc (bitsOf data) := by
    induction data generalizing crc with
    | nil => rfl
    | cons byte data ih =>
      rw [List.foldl_cons, ih, crcByte_eq_remainder, bitsOf_cons, Crc.remainder_append]
  unfold crc32Bytes
  rw [hfold]

/-- **A burst of at most 32 bits changes the checksum.** -/
theorem crc32Bytes_burst {data data' : List Byte} (h : Burst data data') :
    crc32Bytes data ≠ crc32Bytes data' := by
  obtain ⟨start, hwindow⟩ := h.window
  have hlength : (bitsOf data).length = (bitsOf data').length := by
    rw [length_bitsOf, length_bitsOf, h.length]
  have hdiffer : bitsOf data ≠ bitsOf data' := fun heq =>
    h.differ (bitsOf_injective h.length heq)
  have hburst : Crc.remainder crcPolynomial 0xffffffff (bitsOf data) ≠
      Crc.remainder crcPolynomial 0xffffffff (bitsOf data') := by
    refine Crc.remainder_burst crcPolynomial (by decide) _ hlength hdiffer start fun i hi => ?_
    by_cases hin : i < 8 * data.length
    · rw [getElem?_bitsOf hin, getElem?_bitsOf (h.length ▸ hin)] at hi
      exact hwindow i fun hbit => hi (congrArg some hbit)
    · rw [List.getElem?_eq_none (by rw [length_bitsOf]; omega),
        List.getElem?_eq_none (by rw [length_bitsOf, ← h.length]; omega)] at hi
      exact absurd rfl hi
  rw [crc32Bytes_eq_remainder, crc32Bytes_eq_remainder]
  exact fun heq => hburst (BitVec.not_inj.mp heq)

/-! ## Damage to a container -/

/-- A container damaged in one region, by a burst of its bits and nowhere else. -/
structure Damaged (bytes bytes' : List Byte) (region : Nat × Nat) : Prop where
  length : bytes'.length = bytes.length
  outside : ∀ i, i < region.1 ∨ region.1 + region.2 ≤ i → bytes'[i]? = bytes[i]?
  inside : Burst (slice bytes region.1 region.2) (slice bytes' region.1 region.2)

/-- The regions with a checksum, each with its offset and size: the fields of the header, and the
three payloads. -/
def checkedRegions (bytes : List Byte) : List (Nat × Nat) :=
  [(0, 108), (headerSize, machineLength bytes 0),
    (headerSize + machineLength bytes 0, machineLength bytes 1),
    (headerSize + machineLength bytes 0 + machineLength bytes 1, linkLength bytes)]

variable {bytes bytes' : List Byte} {region : Nat × Nat}

theorem Damaged.byteAt_eq (h : Damaged bytes bytes' region) {i : Nat}
    (hi : i < region.1 ∨ region.1 + region.2 ≤ i) : byteAt bytes' i = byteAt bytes i := by
  unfold byteAt
  rw [List.getD_eq_getElem?_getD, List.getD_eq_getElem?_getD, h.outside i hi]

/-- A word outside the damage. -/
theorem Damaged.getU32_eq (h : Damaged bytes bytes' region) {offset : Nat}
    (hoffset : offset + 4 ≤ region.1 ∨ region.1 + region.2 ≤ offset) :
    getU32 bytes' offset = getU32 bytes offset := by
  unfold getU32
  rw [h.byteAt_eq (by omega), h.byteAt_eq (by omega), h.byteAt_eq (by omega), h.byteAt_eq (by omega)]

theorem Damaged.getU64_eq (h : Damaged bytes bytes' region) {offset : Nat}
    (hoffset : offset + 8 ≤ region.1 ∨ region.1 + region.2 ≤ offset) :
    getU64 bytes' offset = getU64 bytes offset := by
  unfold getU64
  refine List.foldl_ext _ _ _ fun value index hindex => ?_
  have hless : index < 8 := List.mem_range.mp hindex
  rw [h.byteAt_eq (by omega)]

/-- Damage behind the header leaves the lengths. -/
theorem Damaged.machineLength_eq (h : Damaged bytes bytes' region) (hregion : headerSize ≤ region.1)
    (i : Fin 2) : machineLength bytes' i = machineLength bytes i := by
  unfold machineLength
  unfold headerSize at hregion
  rw [h.getU64_eq (by omega)]

theorem Damaged.linkLength_eq (h : Damaged bytes bytes' region) (hregion : headerSize ≤ region.1) :
    linkLength bytes' = linkLength bytes := by
  unfold linkLength
  unfold headerSize at hregion
  rw [h.getU64_eq (by omega)]

/-- **No session accepts a container that was accepted and then damaged in a region with a
checksum.** -/
theorem Damaged.not_accepted {M' L' : Type} {r : Ready M L} {r' : Ready M' L'}
    (h : Damaged bytes bytes' region) (haccepted : Accepted r bytes)
    (hregion : region ∈ checkedRegions bytes) : ¬Accepted r' bytes' := by
  intro haccepted'
  have hburst := crc32Bytes_burst h.inside
  unfold checkedRegions at hregion
  simp only [List.mem_cons, List.not_mem_nil, or_false] at hregion
  rcases hregion with rfl | rfl | rfl | rfl
  · refine hburst ?_
    have hstored : getU32 bytes' 108 = getU32 bytes 108 :=
      h.getU32_eq (Or.inr (by omega))
    rw [haccepted'.headerChecksum, haccepted.headerChecksum] at hstored
    exact hstored.symm
  · have hregion : headerSize ≤ headerSize := Nat.le_refl _
    have hstored : getU32 bytes' 88 = getU32 bytes 88 :=
      h.getU32_eq (Or.inl (by unfold headerSize; omega))
    rw [haccepted'.machineChecksum0, haccepted.machineChecksum0] at hstored
    unfold contentsOf at hstored
    dsimp only at hstored
    rw [h.machineLength_eq hregion] at hstored
    exact hburst hstored.symm
  · have hregion : headerSize ≤ headerSize + machineLength bytes 0 := Nat.le_add_right _ _
    have hstored : getU32 bytes' 92 = getU32 bytes 92 :=
      h.getU32_eq (Or.inl (by unfold headerSize; omega))
    rw [haccepted'.machineChecksum1, haccepted.machineChecksum1] at hstored
    unfold contentsOf at hstored
    dsimp only at hstored
    rw [h.machineLength_eq hregion, h.machineLength_eq hregion] at hstored
    exact hburst hstored.symm
  · have hregion : headerSize ≤ headerSize + machineLength bytes 0 + machineLength bytes 1 := by
      omega
    have hstored : getU32 bytes' 96 = getU32 bytes 96 :=
      h.getU32_eq (Or.inl (by unfold headerSize; omega))
    rw [haccepted'.linkChecksum, haccepted.linkChecksum] at hstored
    unfold contentsOf at hstored
    dsimp only at hstored
    rw [h.machineLength_eq hregion, h.machineLength_eq hregion, h.linkLength_eq hregion] at hstored
    exact hburst hstored.symm

/-- **Corruption detection.** A burst of at most 32 bits changes `crc32_bytes`; and a container that
some session accepts, damaged by one in a region with a checksum, is rejected by every session, with
no mutating call made. -/
theorem corruption_is_detected :
    (∀ data data' : List Byte, Burst data data' → crc32Bytes data ≠ crc32Bytes data') ∧
      ∀ {M L M' L' : Type} {r : Ready M L} {bytes bytes' : List Byte} {region : Nat × Nat},
        Accepted r bytes → region ∈ checkedRegions bytes → Damaged bytes bytes' region →
          ∀ (malloc : Allocation → Bool) (s : Session M' L'),
            let out := unserializeEx malloc s (some bytes')
            out.result = .rejected ∧ out.calls = [] ∧ out.session = s := by
  refine ⟨fun data data' h => crc32Bytes_burst h, ?_⟩
  intro M L M' L' r bytes bytes' region haccepted hregion hdamaged malloc s
  dsimp only
  rcases unserializeEx_cases malloc s (some bytes') with
    ⟨r', read, snapshot, copies, hadmitted, -⟩ | ⟨-, error, hrejected⟩
  · obtain rfl := Option.some.inj hadmitted.given
    exact absurd hadmitted.accepted (hdamaged.not_accepted haccepted hregion)
  · rw [hrejected]
    exact ⟨rfl, rfl, rfl⟩

/-- Strings of no more than four bytes lie in one window. -/
theorem burst_of_short {data data' : List Byte} (hlength : data.length = data'.length)
    (hshort : data.length ≤ 4) (hdiffer : data ≠ data') : Burst data data' := by
  refine ⟨hlength, hdiffer, 0, fun i hi => ⟨Nat.zero_le i, ?_⟩⟩
  by_contra hlast
  refine hi ?_
  unfold bitAt byteAt
  rw [List.getD_eq_getElem?_getD, List.getD_eq_getElem?_getD, List.getElem?_eq_none (by omega),
    List.getElem?_eq_none (by omega)]

/-- The last byte of the byte engine's container. -/
theorem corruption_is_detected_bytes :
    ∃ bytes, byteContainer = some bytes ∧
      (unserializeEx (fun _ => true) byteSession (some bytes)).calls.length = 7 ∧
      (unserializeEx (fun _ => true) byteSession (some (bytes.set 114 8))).calls = [] := by
  obtain ⟨bytes, hbytes⟩ := Option.isSome_iff_exists.mp (show byteContainer.isSome by decide)
  have happlied : (unserializeEx (fun _ => true) byteSession byteContainer).calls.length = 7 := by
    decide +kernel
  rw [hbytes] at happlied
  refine ⟨bytes, hbytes, happlied, ?_⟩
  rcases unserializeEx_cases (fun _ => true) byteSession (some bytes) with
    ⟨r, read, snapshot, copies, hadmitted, -⟩ | ⟨-, error, hrejected⟩
  · obtain rfl := Option.some.inj hadmitted.given
    have hregion : (114, 1) ∈ checkedRegions bytes := by
      have h : (byteContainer.map checkedRegions).any ((114, 1) ∈ ·) = true := by decide +kernel
      rw [hbytes] at h
      simpa using h
    have hlength : bytes.length = 115 := by
      have h : byteContainer.map List.length = some 115 := by decide +kernel
      rw [hbytes] at h
      exact Option.some.inj h
    have hdamaged : Damaged bytes (bytes.set 114 8) (114, 1) := by
      refine ⟨List.length_set, fun i hi => List.getElem?_set_ne (by dsimp only at hi; omega), ?_⟩
      have h : ∀ read ∈ byteContainer, slice read 114 1 ≠ slice (read.set 114 8) 114 1 := by
        decide +kernel
      refine burst_of_short ?_ ?_ (h bytes hbytes)
      · unfold slice
        rw [List.length_take, List.length_take, List.length_drop, List.length_drop, List.length_set]
      · exact Nat.le_trans (List.length_take_le _ _) (by decide)
    exact (corruption_is_detected.2 hadmitted.accepted hregion hdamaged _ byteSession).2.1
  · rw [hrejected] at happlied
    cases happlied

end DualBoy.State
