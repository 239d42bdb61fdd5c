import DualBoy.Engine
import DualBoy.Lib.Reads

/-!
# What content is

`content.c`: the platform of a cartridge image, from its header. Every byte is read with its bounds
checked, so that a read outside the image would make the whole detection `none`.

* `reads_gbHeader`, `reads_gbaHeader`, `reads_ndsHeader`: each test reads its own header only.
* `logos_exclude`: no image has the logos of both a GB and an NDS cartridge.
* **`detectContent_stable`**.
-/

namespace DualBoy.Frontend

open DualBoy.Lib

/-! ## The source -/

/-- `gb_logo`. -/
def gbLogo : List Byte :=
  [0xCE, 0xED, 0x66, 0x66, 0xCC, 0x0D, 0x00, 0x0B,
    0x03, 0x73, 0x00, 0x83, 0x00, 0x0C, 0x00, 0x0D,
    0x00, 0x08, 0x11, 0x1F, 0x88, 0x89, 0x00, 0x0E,
    0xDC, 0xCC, 0x6E, 0xE6, 0xDD, 0xDD, 0xD9, 0x99,
    0xBB, 0xBB, 0x67, 0x63, 0x6E, 0x0E, 0xEC, 0xCC,
    0xDD, 0xDC, 0x99, 0x9F, 0xBB, 0xB9, 0x33, 0x3E]

/-- `gba_logo`. -/
def gbaLogo : List Byte :=
  [0x24, 0xFF, 0xAE, 0x51, 0x69, 0x9A, 0xA2, 0x21,
    0x3D, 0x84, 0x82, 0x0A, 0x84, 0xE4, 0x09, 0xAD,
    0x11, 0x24, 0x8B, 0x98, 0xC0, 0x81, 0x7F, 0x21,
    0xA3, 0x52, 0xBE, 0x19, 0x93, 0x09, 0xCE, 0x20,
    0x10, 0x46, 0x4A, 0x4A, 0xF8, 0x27, 0x31, 0xEC,
    0x58, 0xC7, 0xE8, 0x33, 0x82, 0xE3, 0xCE, 0xBF,
    0x85, 0xF4, 0xDF, 0x94, 0xCE, 0x4B, 0x09, 0xC1,
    0x94, 0x56, 0x8A, 0xC0, 0x13, 0x72, 0xA7, 0xFC,
    0x9F, 0x84, 0x4D, 0x73, 0xA3, 0xCA, 0x9A, 0x61,
    0x58, 0x97, 0xA3, 0x27, 0xFC, 0x03, 0x98, 0x76,
    0x23, 0x1D, 0xC7, 0x61, 0x03, 0x04, 0xAE, 0x56,
    0xBF, 0x38, 0x84, 0x00, 0x40, 0xA7, 0x0E, 0xFD,
    0xFF, 0x52, 0xFE, 0x03, 0x6F, 0x95, 0x30, 0xF1,
    0x97, 0xFB, 0xC0, 0x85, 0x60, 0xD6, 0x80, 0x25,
    0xA9, 0x63, 0xBE, 0x03, 0x01, 0x4E, 0x38, 0xE2,
    0xF9, 0xA2, 0x34, 0xFF, 0xBB, 0x3E, 0x03, 0x44,
    0x78, 0x00, 0x90, 0xCB, 0x88, 0x11, 0x3A, 0x94,
    0x65, 0xC0, 0x7C, 0x63, 0x87, 0xF0, 0x3C, 0xAF,
    0xD6, 0x25, 0xE4, 0x8B, 0x38, 0x0A, 0xAC, 0x72,
    0x21, 0xD4, 0xF8, 0x07]

/-- `memcmp` of the bytes at an offset with others: whether they are the same. -/
def sameBytes (data : List Byte) (offset : Nat) (other : List Byte) : Option Bool :=
  (if offset + other.length ≤ data.length then
      some ((data.drop offset).take other.length) else none).bind
    fun bytes => some (decide (bytes = other))

/-- `get_u16_le`. -/
def getU16Le (data : List Byte) (offset : Nat) : Option (BitVec 16) := do
  let byte0 ← data[offset]?
  let byte1 ← data[offset + 1]?
  some (byte0.setWidth 16 ||| byte1.setWidth 16 <<< 8)

/-- `get_u32_le`. -/
def getU32Le (data : List Byte) (offset : Nat) : Option (BitVec 32) := do
  let byte0 ← data[offset]?
  let byte1 ← data[offset + 1]?
  let byte2 ← data[offset + 2]?
  let byte3 ← data[offset + 3]?
  some (byte0.setWidth 32 ||| byte1.setWidth 32 <<< 8 ||| byte2.setWidth 32 <<< 16 |||
    byte3.setWidth 32 <<< 24)

/-- One turn of the inner loop of `nds_crc16`. -/
def ndsCrc16Bit (crc : BitVec 16) : BitVec 16 :=
  if crc &&& 1 ≠ 0 then (crc >>> 1) ^^^ 0xa001 else crc >>> 1

/-- One turn of its outer loop. -/
def ndsCrc16Byte (data : List Byte) (crc : BitVec 16) (index : Nat) : Option (BitVec 16) := do
  let byte ← data[index]?
  some ((List.range 8).foldl (fun crc _ => ndsCrc16Bit crc) (crc ^^^ byte.setWidth 16))

/-- `nds_crc16` of the bytes at an offset. -/
def ndsCrc16 (data : List Byte) (offset size : Nat) : Option (BitVec 16) :=
  (List.range' offset size).foldlM (ndsCrc16Byte data) 0xffff

/-- The checksum loop of `has_valid_gb_header`. -/
def gbChecksum (data : List Byte) : Option Byte :=
  (List.range' 0x134 (0x14C - 0x134 + 1)).foldlM
    (fun checksum index => do
      let byte ← data[index]?
      some (checksum - byte - 1)) 0

/-- The reads of `has_valid_gb_header`. -/
def gbHeader (data : List Byte) : Option Bool := do
  let logo ← sameBytes data 0x104 gbLogo
  if logo = false then some false
  else do
    let checksum ← gbChecksum data
    let stored ← data[0x14D]?
    some (decide (checksum = stored))

/-- `has_valid_gb_header`. -/
def hasValidGbHeader (data : List Byte) : Option Bool :=
  if data.length < 0x150 then some false else gbHeader data

/-- The checksum loop of `has_valid_gba_header`. -/
def gbaChecksum (data : List Byte) : Option Byte :=
  (List.range' 0xA0 (0xBC - 0xA0 + 1)).foldlM
    (fun checksum index => do
      let byte ← data[index]?
      some (checksum - byte)) 0

/-- The reads of `has_valid_gba_header`. -/
def gbaHeader (data : List Byte) : Option Bool := do
  let fixed ← data[0xB2]?
  if fixed ≠ 0x96 then some false
  else do
    let logo ← sameBytes data 0x04 gbaLogo
    if logo = false then some false
    else do
      let checksum ← gbaChecksum data
      let stored ← data[0xBD]?
      some (decide (checksum - 0x19 = stored))

/-- `has_valid_gba_header`. -/
def hasValidGbaHeader (data : List Byte) : Option Bool :=
  if data.length < 0xC0 then some false else gbaHeader data

/-- `nds_section_is_valid`. -/
def ndsSectionIsValid (romSize : Nat) (offset sectionSize : BitVec 32) : Bool :=
  0x200 ≤ offset.toNat && sectionSize ≠ 0 && offset.toNat ≤ romSize &&
    sectionSize.toNat ≤ romSize - offset.toNat

/-- The reads of `has_valid_nds_header` behind the test of the size. -/
def ndsHeader (data : List Byte) : Option Bool := do
  let unitCode ← data[0x12]?
  if unitCode ≠ 0x00 ∧ unitCode ≠ 0x02 then some false
  else do
    let logo ← sameBytes data 0xc0 gbaLogo
    if logo = false then some false
    else do
      let storedLogo ← getU16Le data 0x15c
      let logoCrc ← ndsCrc16 data 0xc0 gbaLogo.length
      if storedLogo ≠ logoCrc then some false
      else do
        let storedHeader ← getU16Le data 0x15e
        let headerCrc ← ndsCrc16 data 0 0x15e
        some (decide (storedHeader = headerCrc))

/-- `has_valid_nds_header`. -/
def hasValidNdsHeader (data : List Byte) : Option Bool := do
  let arm9Offset ← getU32Le data 0x20
  let arm9Size ← getU32Le data 0x2c
  let arm7Offset ← getU32Le data 0x30
  let arm7Size ← getU32Le data 0x3c
  if data.length < 0x1000 then some false
  else do
    let header ← ndsHeader data
    some (header && ndsSectionIsValid data.length arm9Offset arm9Size &&
      ndsSectionIsValid data.length arm7Offset arm7Size)

/-- `enum dualboy_detection_error`. -/
inductive DetectionError where
  | ok
  | empty
  | tooSmall
  | unknownHeader
  deriving DecidableEq, Repr

/-- `struct dualboy_detection`. -/
structure Detection where
  platform : Platform
  error : DetectionError
  message : String
  deriving DecidableEq, Repr

/-- `dualboy_detect_content`. -/
def detectContent (data : List Byte) : Option Detection :=
  if data.length = 0 then some ⟨.invalid, .empty, "content is empty"⟩
  else if data.length < 0xC0 then
    some ⟨.invalid, .tooSmall, "content is too small to contain a supported cartridge header"⟩
  else do
    let gba ← hasValidGbaHeader data
    if gba then some ⟨.gba, .ok, "Game Boy Advance"⟩
    else do
      let nds ← hasValidNdsHeader data
      if nds then some ⟨.nds, .ok, "Nintendo DS"⟩
      else do
        let gb ← hasValidGbHeader data
        if gb then do
          let cgbFlag ← data[0x143]?
          if cgbFlag = 0x80 ∨ cgbFlag = 0xC0 then some ⟨.gbc, .ok, "Game Boy Color"⟩
          else some ⟨.gb, .ok, "Game Boy"⟩
        else
          some ⟨.invalid, .unknownHeader,
            "content does not contain a valid GB/GBC, GBA, or NDS cartridge header"⟩

/-! ## What the tests read -/

theorem gbLogo_length : gbLogo.length = 48 := rfl

theorem gbaLogo_length : gbaLogo.length = 156 := by
  simp [gbaLogo]

theorem reads_sameBytes {offset n : Nat} {other : List Byte} (h : offset + other.length ≤ n) :
    ReadsBelow n fun data => sameBytes data offset other :=
  (ReadsBelow.slice h).bind fun bytes => ReadsBelow.pure (decide (bytes = other))

theorem reads_getU16Le {offset n : Nat} (h : offset + 2 ≤ n) :
    ReadsBelow n fun data => getU16Le data offset :=
  (ReadsBelow.byte (by omega)).bind fun _ => (ReadsBelow.byte (by omega)).bind fun _ =>
    ReadsBelow.pure _

theorem reads_getU32Le {offset n : Nat} (h : offset + 4 ≤ n) :
    ReadsBelow n fun data => getU32Le data offset :=
  (ReadsBelow.byte (by omega)).bind fun _ => (ReadsBelow.byte (by omega)).bind fun _ =>
    (ReadsBelow.byte (by omega)).bind fun _ => (ReadsBelow.byte (by omega)).bind fun _ =>
      ReadsBelow.pure _

theorem reads_ndsCrc16 {offset size n : Nat} (h : offset + size ≤ n) :
    ReadsBelow n fun data => ndsCrc16 data offset size := by
  refine ReadsBelow.foldlM (fun crc index hindex => ?_) 0xffff
  rw [List.mem_range'_1] at hindex
  exact (ReadsBelow.byte (by omega)).bind fun _ => ReadsBelow.pure _

theorem reads_gbHeader : ReadsBelow 0x150 gbHeader := by
  refine (reads_sameBytes (by rw [gbLogo_length]; decide)).bind fun logo => ?_
  refine (ReadsBelow.pure false).ite ?_
  refine ReadsBelow.bind ?_ fun checksum => (ReadsBelow.byte (by decide)).bind fun stored =>
    ReadsBelow.pure _
  refine ReadsBelow.foldlM (fun checksum index hindex => ?_) 0
  rw [List.mem_range'_1] at hindex
  exact (ReadsBelow.byte (by omega)).bind fun _ => ReadsBelow.pure _

theorem reads_gbaHeader : ReadsBelow 0xC0 gbaHeader := by
  refine (ReadsBelow.byte (by decide)).bind fun fixed => ?_
  refine (ReadsBelow.pure false).ite ?_
  refine (reads_sameBytes (by rw [gbaLogo_length]; decide)).bind fun logo => ?_
  refine (ReadsBelow.pure false).ite ?_
  refine ReadsBelow.bind ?_ fun checksum => (ReadsBelow.byte (by decide)).bind fun stored =>
    ReadsBelow.pure _
  refine ReadsBelow.foldlM (fun checksum index hindex => ?_) 0
  rw [List.mem_range'_1] at hindex
  exact (ReadsBelow.byte (by omega)).bind fun _ => ReadsBelow.pure _

theorem reads_ndsHeader : ReadsBelow 0x160 ndsHeader := by
  refine (ReadsBelow.byte (by decide)).bind fun unitCode => ?_
  refine (ReadsBelow.pure false).ite ?_
  refine (reads_sameBytes (by rw [gbaLogo_length]; decide)).bind fun logo => ?_
  refine (ReadsBelow.pure false).ite ?_
  refine (reads_getU16Le (by decide)).bind fun storedLogo => ?_
  refine (reads_ndsCrc16 (by rw [gbaLogo_length]; decide)).bind fun logoCrc => ?_
  refine (ReadsBelow.pure false).ite ?_
  refine (reads_getU16Le (by decide)).bind fun storedHeader => ?_
  exact (reads_ndsCrc16 (by decide)).bind fun headerCrc => ReadsBelow.pure _

/-! ## Longer images -/

section Longer

variable {data : List Byte}

theorem hasValidGbaHeader_append (h : 0xC0 ≤ data.length) (suffix : List Byte) :
    ∃ valid, hasValidGbaHeader data = some valid ∧
      hasValidGbaHeader (data ++ suffix) = some valid := by
  obtain ⟨valid, hdata, hlonger⟩ := reads_gbaHeader.found h suffix
  refine ⟨valid, ?_, ?_⟩
  · exact (if_neg (Nat.not_lt.mpr h)).trans hdata
  · refine (if_neg ?_).trans hlonger
    rw [List.length_append]
    omega

/-- A range that lies inside an image, and begins behind the secure area. -/
structure InsideImage (size : Nat) (offset sectionSize : BitVec 32) : Prop where
  offset_ge : 0x200 ≤ offset.toNat
  nonempty : 0 < sectionSize.toNat
  end_le : offset.toNat + sectionSize.toNat ≤ size

theorem ndsSectionIsValid_iff (size : Nat) (offset sectionSize : BitVec 32) :
    ndsSectionIsValid size offset sectionSize = true ↔ InsideImage size offset sectionSize := by
  have hzero : sectionSize ≠ 0 ↔ 0 < sectionSize.toNat := by
    rw [Nat.pos_iff_ne_zero]
    exact not_congr (BitVec.toNat_eq.trans Iff.rfl)
  unfold ndsSectionIsValid
  simp only [Bool.and_eq_true, decide_eq_true_eq, hzero]
  constructor
  · rintro ⟨⟨⟨hoffset, hpositive⟩, hle⟩, hsize⟩
    exact ⟨hoffset, hpositive, by omega⟩
  · rintro ⟨hoffset, hpositive, hend⟩
    exact ⟨⟨⟨hoffset, hpositive⟩, by omega⟩, by omega⟩

/-- What an accepted NDS image has: a header, and two ranges inside it. -/
theorem hasValidNdsHeader_eq_true :
    hasValidNdsHeader data = some true ↔ 0x1000 ≤ data.length ∧
      ∃ arm9Offset arm9Size arm7Offset arm7Size,
        getU32Le data 0x20 = some arm9Offset ∧ getU32Le data 0x2c = some arm9Size ∧
        getU32Le data 0x30 = some arm7Offset ∧ getU32Le data 0x3c = some arm7Size ∧
        ndsHeader data = some true ∧ InsideImage data.length arm9Offset arm9Size ∧
        InsideImage data.length arm7Offset arm7Size := by
  unfold hasValidNdsHeader
  simp only [Option.bind_eq_bind, Option.bind_eq_some_iff, ← ndsSectionIsValid_iff]
  constructor
  · rintro ⟨arm9Offset, h9, arm9Size, h9s, arm7Offset, h7, arm7Size, h7s, hrest⟩
    split at hrest
    · cases hrest
    · rename_i hsize
      obtain ⟨header, hheader, hall⟩ := Option.bind_eq_some_iff.mp hrest
      have hall := Option.some.inj hall
      simp only [Bool.and_eq_true] at hall
      obtain ⟨⟨rfl, hsection9⟩, hsection7⟩ := hall
      exact ⟨Nat.not_lt.mp hsize, _, _, _, _, h9, h9s, h7, h7s, hheader, hsection9, hsection7⟩
  · rintro ⟨hsize, arm9Offset, arm9Size, arm7Offset, arm7Size, h9, h9s, h7, h7s, hheader, hsection9,
      hsection7⟩
    refine ⟨_, h9, _, h9s, _, h7, _, h7s, ?_⟩
    rw [if_neg (Nat.not_lt.mpr hsize), hheader]
    simp only [Option.bind_some, hsection9, hsection7, Bool.and_true]

/-- The test of an NDS header reads inside the image. -/
theorem hasValidNdsHeader_isSome (h : 0xC0 ≤ data.length) :
    ∃ valid, hasValidNdsHeader data = some valid := by
  have hword (offset : Nat) (hoffset : offset + 4 ≤ 0xC0) :
      ∃ word, getU32Le data offset = some word := by
    obtain ⟨word, hword, -⟩ := (reads_getU32Le hoffset).found h []
    exact ⟨word, hword⟩
  obtain ⟨arm9Offset, h9⟩ := hword 0x20 (by decide)
  obtain ⟨arm9Size, h9s⟩ := hword 0x2c (by decide)
  obtain ⟨arm7Offset, h7⟩ := hword 0x30 (by decide)
  obtain ⟨arm7Size, h7s⟩ := hword 0x3c (by decide)
  unfold hasValidNdsHeader
  simp only [Option.bind_eq_bind, h9, h9s, h7, h7s, Option.bind_some]
  split
  · exact ⟨false, rfl⟩
  · obtain ⟨header, hheader, -⟩ := reads_ndsHeader.found (show 0x160 ≤ data.length by omega) []
    rw [hheader]
    exact ⟨_, rfl⟩

/-- An NDS image stays one when bytes are added. -/
theorem hasValidNdsHeader_append (h : hasValidNdsHeader data = some true) (suffix : List Byte) :
    hasValidNdsHeader (data ++ suffix) = some true := by
  obtain ⟨hsize, arm9Offset, arm9Size, arm7Offset, arm7Size, h9, h9s, h7, h7s, hheader, hsection9,
    hsection7⟩ := hasValidNdsHeader_eq_true.mp h
  have hword (offset : Nat) (hoffset : offset + 4 ≤ 0x1000) (word : BitVec 32)
      (hw : getU32Le data offset = some word) : getU32Le (data ++ suffix) offset = some word := by
    obtain ⟨word', hword, hlonger⟩ := (reads_getU32Le hoffset).found hsize suffix
    rwa [Option.some.inj (hword.symm.trans hw)] at hlonger
  have hheader' : ndsHeader (data ++ suffix) = some true := by
    obtain ⟨header, hfound, hlonger⟩ :=
      reads_ndsHeader.found (show 0x160 ≤ data.length by omega) suffix
    rwa [Option.some.inj (hfound.symm.trans hheader)] at hlonger
  have hinside {offset sectionSize : BitVec 32} (h : InsideImage data.length offset sectionSize) :
      InsideImage (data ++ suffix).length offset sectionSize := by
    refine ⟨h.offset_ge, h.nonempty, ?_⟩
    have hend := h.end_le
    rw [List.length_append]
    omega
  refine hasValidNdsHeader_eq_true.mpr ⟨?_, arm9Offset, arm9Size, arm7Offset, arm7Size,
    hword _ (by decide) _ h9, hword _ (by decide) _ h9s, hword _ (by decide) _ h7,
    hword _ (by decide) _ h7s, hheader', hinside hsection9, hinside hsection7⟩
  rw [List.length_append]
  omega

/-! ## The logos -/

theorem sameBytes_eq_true {offset : Nat} {other : List Byte}
    (h : sameBytes data offset other = some true) {i : Nat} (hi : i < other.length) :
    data[offset + i]? = other[i]? := by
  unfold sameBytes at h
  split at h
  · have hbytes : (data.drop offset).take other.length = other :=
      of_decide_eq_true (Option.some.inj h)
    rw [← hbytes, List.getElem?_take, if_pos hi, List.getElem?_drop]
  · cases h

theorem gbHeader_logo (h : gbHeader data = some true) :
    sameBytes data 0x104 gbLogo = some true := by
  obtain ⟨logo, hlogo, hrest⟩ := Option.bind_eq_some_iff.mp h
  cases logo with
  | true => exact hlogo
  | false => cases hrest

theorem ndsHeader_logo (h : ndsHeader data = some true) :
    sameBytes data 0xc0 gbaLogo = some true := by
  obtain ⟨unitCode, -, hrest⟩ := Option.bind_eq_some_iff.mp h
  split at hrest
  · cases hrest
  · obtain ⟨logo, hlogo, hrest⟩ := Option.bind_eq_some_iff.mp hrest
    cases logo with
    | true => exact hlogo
    | false => cases hrest

/-- **The logos of a GB and an NDS cartridge overlap, and differ there.** -/
theorem logos_exclude (hgb : gbHeader data = some true) : ndsHeader data ≠ some true := by
  intro hnds
  have hfirst := sameBytes_eq_true (gbHeader_logo hgb) (show 0 < gbLogo.length by decide)
  have hsame := sameBytes_eq_true (ndsHeader_logo hnds)
    (show 0x44 < gbaLogo.length by rw [gbaLogo_length]; decide)
  rw [show 0xc0 + 0x44 = 0x104 + 0 from rfl, hfirst] at hsame
  exact absurd hsame (by decide)

/-! ## Detection -/

/-- **What is detected**, and that detection reads inside the image. -/
theorem detectContent_cases (data : List Byte) :
    (data.length < 0xC0 ∧ ∃ result, detectContent data = some result ∧ result.error ≠ .ok) ∨
    0xC0 ≤ data.length ∧
      (hasValidGbaHeader data = some true ∧
        detectContent data = some ⟨.gba, .ok, "Game Boy Advance"⟩ ∨
      hasValidGbaHeader data = some false ∧
        (hasValidNdsHeader data = some true ∧
          detectContent data = some ⟨.nds, .ok, "Nintendo DS"⟩ ∨
        hasValidNdsHeader data = some false ∧
          (0x150 ≤ data.length ∧ gbHeader data = some true ∧ (∃ cgbFlag, data[0x143]? = some cgbFlag ∧
            detectContent data =
              if cgbFlag = 0x80 ∨ cgbFlag = 0xC0 then some ⟨.gbc, .ok, "Game Boy Color"⟩
              else some ⟨.gb, .ok, "Game Boy"⟩) ∨
          hasValidGbHeader data = some false ∧
            ∃ result, detectContent data = some result ∧ result.error ≠ .ok))) := by
  unfold detectContent
  by_cases hempty : data.length = 0
  · rw [if_pos hempty]
    exact Or.inl ⟨by omega, _, rfl, nofun⟩
  rw [if_neg hempty]
  by_cases hsmall : data.length < 0xC0
  · rw [if_pos hsmall]
    exact Or.inl ⟨hsmall, _, rfl, nofun⟩
  rw [if_neg hsmall]
  refine Or.inr ⟨Nat.not_lt.mp hsmall, ?_⟩
  obtain ⟨gba, hgba, -⟩ := hasValidGbaHeader_append (Nat.not_lt.mp hsmall) []
  obtain ⟨nds, hnds⟩ := hasValidNdsHeader_isSome (Nat.not_lt.mp hsmall)
  simp only [Option.bind_eq_bind, hgba, hnds, Option.bind_some]
  cases gba with
  | true => exact Or.inl ⟨rfl, rfl⟩
  | false =>
    refine Or.inr ⟨rfl, ?_⟩
    cases nds with
    | true => exact Or.inl ⟨rfl, rfl⟩
    | false =>
      refine Or.inr ⟨rfl, ?_⟩
      by_cases hshort : data.length < 0x150
      · have hgb : hasValidGbHeader data = some false := if_pos hshort
        rw [hgb]
        exact Or.inr ⟨rfl, _, rfl, nofun⟩
      · obtain ⟨gb, hgb, -⟩ := reads_gbHeader.found (Nat.not_lt.mp hshort) []
        have hvalid : hasValidGbHeader data = some gb := (if_neg hshort).trans hgb
        rw [hvalid]
        cases gb with
        | true =>
          have hflag : 0x143 < data.length := by omega
          refine Or.inl ⟨Nat.not_lt.mp hshort, hgb, data[0x143], List.getElem?_eq_getElem hflag, ?_⟩
          simp only [Bool.false_eq_true, if_false, Option.bind_some, if_true,
            List.getElem?_eq_getElem hflag]
        | false => exact Or.inr ⟨rfl, _, rfl, nofun⟩

theorem detectContent_gba (hsize : 0xC0 ≤ data.length) (hgba : hasValidGbaHeader data = some true) :
    detectContent data = some ⟨.gba, .ok, "Game Boy Advance"⟩ := by
  unfold detectContent
  rw [if_neg (by omega), if_neg (by omega), hgba]
  rfl

theorem detectContent_nds (hsize : 0xC0 ≤ data.length) (hgba : hasValidGbaHeader data = some false)
    (hnds : hasValidNdsHeader data = some true) :
    detectContent data = some ⟨.nds, .ok, "Nintendo DS"⟩ := by
  unfold detectContent
  rw [if_neg (by omega), if_neg (by omega), hgba, hnds]
  rfl

/-- An image with a GB header is not taken for an NDS one. -/
theorem detectContent_gb {cgbFlag : Byte} (hsize : 0x150 ≤ data.length)
    (hgba : hasValidGbaHeader data = some false) (hgb : gbHeader data = some true)
    (hflag : data[0x143]? = some cgbFlag) :
    detectContent data =
      if cgbFlag = 0x80 ∨ cgbFlag = 0xC0 then some ⟨.gbc, .ok, "Game Boy Color"⟩
      else some ⟨.gb, .ok, "Game Boy"⟩ := by
  have hnds : hasValidNdsHeader data = some false := by
    obtain ⟨valid, hvalid⟩ := hasValidNdsHeader_isSome (show 0xC0 ≤ data.length by omega)
    cases valid with
    | true =>
      obtain ⟨-, _, _, _, _, -, -, -, -, hheader, -⟩ := hasValidNdsHeader_eq_true.mp hvalid
      exact absurd hheader (logos_exclude hgb)
    | false => exact hvalid
  have hvalid : hasValidGbHeader data = some true := (if_neg (Nat.not_lt.mpr hsize)).trans hgb
  unfold detectContent
  rw [if_neg (by omega), if_neg (by omega), hgba, hnds, hvalid]
  simp only [Option.bind_eq_bind, Option.bind_some, Bool.false_eq_true, if_false, if_true, hflag]

/-- **Content detection stays inside the image and is stable under padding**: it never reads behind
the end; the ranges of both processors of an NDS image lie inside it; and what is detected as a
platform stays that platform whatever follows it. -/
theorem detectContent_stable (data : List Byte) :
    ∃ result, detectContent data = some result ∧
      (result.error = .ok → result.platform = .nds →
        ∃ arm9Offset arm9Size arm7Offset arm7Size,
          getU32Le data 0x20 = some arm9Offset ∧ getU32Le data 0x2c = some arm9Size ∧
          getU32Le data 0x30 = some arm7Offset ∧ getU32Le data 0x3c = some arm7Size ∧
          InsideImage data.length arm9Offset arm9Size ∧
          InsideImage data.length arm7Offset arm7Size) ∧
      (result.error = .ok → ∀ suffix, detectContent (data ++ suffix) = some result) := by
  rcases detectContent_cases data with ⟨-, result, hresult, herror⟩ | ⟨hsize, hcases⟩
  · exact ⟨result, hresult, fun hok => absurd hok herror, fun hok => absurd hok herror⟩
  have hlonger (suffix : List Byte) : 0xC0 ≤ (data ++ suffix).length := by
    rw [List.length_append]
    omega
  rcases hcases with ⟨hgba, hresult⟩ | ⟨hgba, hcases⟩
  · refine ⟨_, hresult, nofun, fun _ suffix => ?_⟩
    obtain ⟨valid, hdata, hsuffix⟩ := hasValidGbaHeader_append hsize suffix
    obtain rfl := Option.some.inj (hdata.symm.trans hgba)
    exact detectContent_gba (hlonger suffix) hsuffix
  have hnotGba (suffix : List Byte) : hasValidGbaHeader (data ++ suffix) = some false := by
    obtain ⟨valid, hdata, hsuffix⟩ := hasValidGbaHeader_append hsize suffix
    rwa [Option.some.inj (hdata.symm.trans hgba)] at hsuffix
  rcases hcases with ⟨hnds, hresult⟩ | ⟨hnds, hcases⟩
  · refine ⟨_, hresult, fun _ _ => ?_, fun _ suffix => ?_⟩
    · obtain ⟨-, arm9Offset, arm9Size, arm7Offset, arm7Size, h9, h9s, h7, h7s, -, hinside⟩ :=
        hasValidNdsHeader_eq_true.mp hnds
      exact ⟨arm9Offset, arm9Size, arm7Offset, arm7Size, h9, h9s, h7, h7s, hinside⟩
    · exact detectContent_nds (hlonger suffix) (hnotGba suffix)
        (hasValidNdsHeader_append hnds suffix)
  rcases hcases with ⟨hlong, hgb, cgbFlag, hflag, hresult⟩ | ⟨-, result, hresult, herror⟩
  · -- a longer image has the GB logo where an NDS one would have its own
    have hstable (suffix : List Byte) : detectContent (data ++ suffix) = detectContent data := by
      obtain ⟨valid, hdata, hsuffix⟩ := reads_gbHeader.found hlong suffix
      rw [Option.some.inj (hdata.symm.trans hgb)] at hsuffix
      have hflag' : (data ++ suffix)[0x143]? = some cgbFlag := by
        rwa [List.getElem?_append_left (by omega)]
      rw [hresult]
      exact detectContent_gb (by rw [List.length_append]; omega) (hnotGba suffix) hsuffix hflag'
    by_cases hcolor : cgbFlag = 0x80 ∨ cgbFlag = 0xC0
    · rw [if_pos hcolor] at hresult
      exact ⟨_, hresult, nofun, fun _ suffix => (hstable suffix).trans hresult⟩
    · rw [if_neg hcolor] at hresult
      exact ⟨_, hresult, nofun, fun _ suffix => (hstable suffix).trans hresult⟩
  · exact ⟨result, hresult, fun hok => absurd hok herror, fun hok => absurd hok herror⟩

end Longer

end DualBoy.Frontend
