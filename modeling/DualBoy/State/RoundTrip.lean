import DualBoy.Lib.LittleEndian
import DualBoy.State.Atomicity
import DualBoy.State.Serialize

/-!
# Saved states are accepted again

* `container_round_trip`: exactly when the largest container of a session fits `size_t`, every save
  keeps inside the buffer, and a session of the same kind accepts what was saved, with any bytes
  behind it, and hands the engine what it had produced. No input makes the checks look outside it.
-/

namespace DualBoy.State

open DualBoy.Lib

variable {M L : Type}

/-! ## Reading fields -/

theorem getU32_eq {bytes : List Byte} {offset : Nat} {value : BitVec 32}
    (h : slice bytes offset 4 = putU32 value) : getU32 bytes offset = value := by
  have hword : getU32 bytes offset = leWord 32 4 bytes offset := by
    simp [getU32, leWord, byteAt, List.range_succ]
  rw [hword]
  exact leWord_of_slice (by decide) h

theorem getU64_eq {bytes : List Byte} {offset : Nat} {value : BitVec 64}
    (h : slice bytes offset 8 = putU64 value) : getU64 bytes offset = value :=
  leWord_of_slice (by decide) h

/-! ## The fields of a container -/

/-- The size of the container of these contents. -/
def Contents.total (c : Contents) : Nat :=
  headerSize + (c.machine 0).length + (c.machine 1).length + c.link.length

/-- The fields of the header, from the contents themselves. -/
def Ready.savedFields (r : Ready M L) (c : Contents) : List (Nat × List Byte) :=
  r.headerFields c.used c.link.length c.total
    (List.replicate headerSize 0 ++ (c.machine 0 ++ c.machine 1 ++ c.link) ++ [])

/-- All the fields of a container. -/
def Ready.containerFields (r : Ready M L) (c : Contents) : List (Nat × List Byte) :=
  r.savedFields c ++
    [(100, List.replicate 8 0), (108, putU32 (crc32Bytes (r.fields c))),
      (headerSize, c.machine 0), (headerSize + (c.machine 0).length, c.machine 1),
      (headerSize + (c.machine 0).length + (c.machine 1).length, c.link)]

variable {r : Ready M L} {c : Contents}

theorem Ready.length_savedFields : (contents (r.savedFields c)).length = 100 :=
  r.length_headerFields _ _ _ _

theorem Ready.contents_savedFields (hlink : c.linkEnabled = r.linkEnabled) :
    contents (r.savedFields c) ++ List.replicate 8 0 = r.fields c := by
  obtain ⟨h0, h1, h2⟩ := slice_payloads c []
  exact r.contents_headerFields hlink c.used (fun _ => rfl) h0 h1 h2

theorem Ready.length_fields (hlink : c.linkEnabled = r.linkEnabled) :
    (r.fields c).length = 108 := by
  rw [← r.contents_savedFields hlink, List.length_append, r.length_savedFields,
    List.length_replicate]

theorem Ready.contents_containerFields (hlink : c.linkEnabled = r.linkEnabled) :
    contents (r.containerFields c) = r.container c := by
  unfold containerFields container
  rw [contents_append, ← r.contents_savedFields hlink]
  simp only [contents_cons, contents_nil, List.append_assoc, List.append_nil]

theorem Ready.consecutive_containerFields : Consecutive 0 (r.containerFields c) := by
  refine Consecutive.append (r.consecutive_headerFields _ _ _ _) ?_
  rw [r.length_savedFields]
  refine ⟨rfl, ?_, ?_, ?_, ?_, trivial⟩
  · rw [List.length_replicate]
  · rw [List.length_replicate, length_putU32]
    rfl
  · rw [List.length_replicate, length_putU32]
    rfl
  · rw [List.length_replicate, length_putU32]
    rfl

/-- **Each field of a container is found at its offset**, whatever is behind the container. -/
theorem Ready.slice_container (hlink : c.linkEnabled = r.linkEnabled) (tail : List Byte)
    {offset : Nat} {data : List Byte} (hmem : (offset, data) ∈ r.containerFields c) :
    slice (r.container c ++ tail) offset data.length = data := by
  have hfield := field_of_mem [] tail r.consecutive_containerFields hmem
  rw [r.contents_containerFields hlink, List.nil_append] at hfield
  exact hfield

theorem Ready.getU32_container (hlink : c.linkEnabled = r.linkEnabled) (tail : List Byte)
    {offset : Nat} {value : BitVec 32} (hmem : (offset, putU32 value) ∈ r.savedFields c) :
    getU32 (r.container c ++ tail) offset = value := by
  refine getU32_eq ?_
  have hfield := r.slice_container hlink tail (List.mem_append_left _ hmem)
  rwa [length_putU32] at hfield

theorem Ready.getU64_container (hlink : c.linkEnabled = r.linkEnabled) (tail : List Byte)
    {offset : Nat} {value : BitVec 64} (hmem : (offset, putU64 value) ∈ r.savedFields c) :
    getU64 (r.container c ++ tail) offset = value := by
  refine getU64_eq ?_
  have hfield := r.slice_container hlink tail (List.mem_append_left _ hmem)
  rwa [length_putU64] at hfield

/-- The payloads of a container. -/
theorem Ready.payloads_container (hlink : c.linkEnabled = r.linkEnabled) (tail : List Byte) :
    slice (r.container c ++ tail) headerSize (c.machine 0).length = c.machine 0 ∧
      slice (r.container c ++ tail) (headerSize + (c.machine 0).length) (c.machine 1).length =
        c.machine 1 ∧
      slice (r.container c ++ tail) (headerSize + (c.machine 0).length + (c.machine 1).length)
        c.link.length = c.link := by
  have h0 : (headerSize, c.machine 0) ∈ r.containerFields c := by
    unfold containerFields
    simp
  have h1 : (headerSize + (c.machine 0).length, c.machine 1) ∈ r.containerFields c := by
    unfold containerFields
    simp
  have h2 : (headerSize + (c.machine 0).length + (c.machine 1).length, c.link) ∈
      r.containerFields c := by
    unfold containerFields
    simp
  exact ⟨r.slice_container hlink tail h0, r.slice_container hlink tail h1,
    r.slice_container hlink tail h2⟩

theorem Ready.length_container (hlink : c.linkEnabled = r.linkEnabled) :
    (r.container c).length = c.total := by
  have hheader : headerSize = 108 + 4 := rfl
  unfold container Contents.total
  rw [List.length_append, List.length_append, List.length_append, List.length_append,
    r.length_fields hlink, length_putU32, hheader]

/-! ## Acceptance -/

/-- What the header of a state identifies, and the capacities, are the same. -/
structure Ready.SameKind {M' L' : Type} (r : Ready M L) (r' : Ready M' L') : Prop where
  family : r'.family = r.family
  platform : ∀ i, (r'.roms i).platform = (r.roms i).platform
  data : ∀ i, (r'.roms i).data = (r.roms i).data
  machineStateCapacity : r'.machineStateCapacity = r.machineStateCapacity
  linkStateCapacity : r'.linkStateCapacity = r.linkStateCapacity

/-- The contents a session of these capacities can have saved. -/
structure Contents.Storable (c : Contents) (r : Ready M L) : Prop where
  linkEnabled : c.linkEnabled = r.linkEnabled
  machine : ∀ i, 0 < (c.machine i).length ∧ (c.machine i).length ≤ r.machineStateCapacity i
  link : c.link.length ≤ r.linkStateCapacity
  total : c.total ≤ sizeMax

/-- The fields of a container, as a reader of it finds them. -/
structure Ready.Recorded (r : Ready M L) (c : Contents) (bytes : List Byte) : Prop where
  version : getU32 bytes 8 = stateVersion
  headerLength : getU32 bytes 12 = BitVec.ofNat 32 headerSize
  total : getU64 bytes 16 = BitVec.ofNat 64 c.total
  family : getU32 bytes 24 = r.family.code
  platform0 : getU32 bytes 28 = (r.roms 0).platform.code
  platform1 : getU32 bytes 32 = (r.roms 1).platform.code
  flags : getU32 bytes 36 = if r.linkEnabled then flagLinkEnabled else 0
  romSize0 : getU64 bytes 40 = BitVec.ofNat 64 (r.roms 0).data.length
  romSize1 : getU64 bytes 48 = BitVec.ofNat 64 (r.roms 1).data.length
  romChecksum0 : getU32 bytes 56 = crc32Bytes (r.roms 0).data
  romChecksum1 : getU32 bytes 60 = crc32Bytes (r.roms 1).data
  length0 : getU64 bytes 64 = BitVec.ofNat 64 (c.machine 0).length
  length1 : getU64 bytes 72 = BitVec.ofNat 64 (c.machine 1).length
  linkLength : getU64 bytes 80 = BitVec.ofNat 64 c.link.length
  checksum0 : getU32 bytes 88 = crc32Bytes (c.machine 0)
  checksum1 : getU32 bytes 92 = crc32Bytes (c.machine 1)
  linkChecksum : getU32 bytes 96 = crc32Bytes c.link

/-- **A reader finds what was written**, whatever is behind the container. -/
theorem Ready.recorded (hlink : c.linkEnabled = r.linkEnabled) (tail : List Byte) :
    r.Recorded c (r.container c ++ tail) := by
  obtain ⟨h0, h1, h2⟩ := slice_payloads c []
  have hu32 {offset : Nat} {value : BitVec 32} :
      (offset, putU32 value) ∈ r.savedFields c → getU32 (r.container c ++ tail) offset = value :=
    r.getU32_container hlink tail
  have hu64 {offset : Nat} {value : BitVec 64} :
      (offset, putU64 value) ∈ r.savedFields c → getU64 (r.container c ++ tail) offset = value :=
    r.getU64_container hlink tail
  unfold savedFields headerFields Contents.used at hu32 hu64
  rw [h0, h1, h2] at hu32 hu64
  simp only [List.mem_cons] at hu32 hu64
  constructor
  case version => exact hu32 (by simp only [true_or, or_true])
  case headerLength => exact hu32 (by simp only [true_or, or_true])
  case total => exact hu64 (by simp only [true_or, or_true])
  case family => exact hu32 (by simp only [true_or, or_true])
  case platform0 => exact hu32 (by simp only [true_or, or_true])
  case platform1 => exact hu32 (by simp only [true_or, or_true])
  case flags => exact hu32 (by simp only [true_or, or_true])
  case romSize0 => exact hu64 (by simp only [true_or, or_true])
  case romSize1 => exact hu64 (by simp only [true_or, or_true])
  case romChecksum0 => exact hu32 (by simp only [true_or, or_true])
  case romChecksum1 => exact hu32 (by simp only [true_or, or_true])
  case length0 => exact hu64 (by simp only [true_or, or_true])
  case length1 => exact hu64 (by simp only [true_or, or_true])
  case linkLength => exact hu64 (by simp only [true_or, or_true])
  case checksum0 => exact hu32 (by simp only [true_or, or_true])
  case checksum1 => exact hu32 (by simp only [true_or, or_true])
  case linkChecksum => exact hu32 (by simp only [true_or, or_true])

theorem Contents.Storable.lengths (h : c.Storable r) (tail : List Byte) :
    machineLength (r.container c ++ tail) 0 = (c.machine 0).length ∧
      machineLength (r.container c ++ tail) 1 = (c.machine 1).length ∧
      linkLength (r.container c ++ tail) = c.link.length ∧
      (getU64 (r.container c ++ tail) 16).toNat = c.total := by
  have htotal := h.total
  have hrecorded := r.recorded h.linkEnabled tail
  have hlength {n : Nat} (hn : n ≤ c.total) : (BitVec.ofNat 64 n).toNat = n := by
    rw [BitVec.toNat_ofNat, Nat.mod_eq_of_lt (by unfold sizeMax at htotal; omega)]
  refine ⟨?_, ?_, ?_, ?_⟩
  · exact (congrArg BitVec.toNat hrecorded.length0).trans (hlength (by unfold Contents.total; omega))
  · exact (congrArg BitVec.toNat hrecorded.length1).trans (hlength (by unfold Contents.total; omega))
  · exact (congrArg BitVec.toNat hrecorded.linkLength).trans (hlength (by unfold Contents.total; omega))
  · exact (congrArg BitVec.toNat hrecorded.total).trans (hlength (Nat.le_refl _))

/-- What a container is read as is what it was made of. -/
theorem Contents.Storable.contentsOf_container (h : c.Storable r) (tail : List Byte) :
    contentsOf (r.container c ++ tail) = c := by
  obtain ⟨hlength0, hlength1, hlength2, -⟩ := h.lengths tail
  obtain ⟨h0, h1, h2⟩ := r.payloads_container h.linkEnabled tail
  have hflags := (r.recorded h.linkEnabled tail).flags
  have hmachine : (contentsOf (r.container c ++ tail)).machine = c.machine := by
    funext i
    match i with
    | 0 =>
      simp only [contentsOf, hlength0]
      exact h0
    | 1 =>
      simp only [contentsOf, hlength0, hlength1]
      exact h1
  have hlink : (contentsOf (r.container c ++ tail)).link = c.link := by
    simp only [contentsOf, hlength0, hlength1, hlength2]
    exact h2
  have henabled : (contentsOf (r.container c ++ tail)).linkEnabled = c.linkEnabled := by
    simp only [contentsOf, hflags, h.linkEnabled]
    cases r.linkEnabled <;> decide
  generalize contentsOf (r.container c ++ tail) = read at hmachine hlink henabled
  cases read
  cases c
  simp only [mk.injEq]
  exact ⟨henabled, hmachine, hlink⟩

/-- **A session of the same kind accepts a container.** -/
theorem Contents.Storable.accepted {M' L' : Type} {r' : Ready M' L'} (h : c.Storable r)
    (hkind : r.SameKind r') (tail : List Byte) : Accepted r' (r.container c ++ tail) := by
  obtain ⟨hlength0, hlength1, hlength2, htotal⟩ := h.lengths tail
  have hcontents := h.contentsOf_container tail
  have hrecorded := r.recorded h.linkEnabled tail
  have hsize := r.length_container h.linkEnabled
  have hfields := r.length_fields h.linkEnabled
  constructor
  case magic =>
    have hmagic : slice (r.container c ++ tail) 0 stateMagic.length = stateMagic :=
      r.slice_container h.linkEnabled tail (List.mem_append_left _ List.mem_cons_self)
    exact hmagic
  case version => exact hrecorded.version
  case headerLength => exact hrecorded.headerLength
  case headerChecksum =>
    have htake : (r.container c ++ tail).take 108 = r.fields c := by
      unfold Ready.container
      simp only [List.append_assoc]
      rw [← hfields, List.take_left]
    rw [htake]
    refine getU32_eq ?_
    have hmem : (108, putU32 (crc32Bytes (r.fields c))) ∈ r.containerFields c := by
      unfold Ready.containerFields
      simp
    have hslice := r.slice_container h.linkEnabled tail hmem
    rwa [length_putU32] at hslice
  case family => rw [hrecorded.family, hkind.family]
  case platform0 => rw [hrecorded.platform0, hkind.platform]
  case platform1 => rw [hrecorded.platform1, hkind.platform]
  case romSize0 => rw [hrecorded.romSize0, hkind.data]
  case romSize1 => rw [hrecorded.romSize1, hkind.data]
  case romChecksum0 => rw [hrecorded.romChecksum0, hkind.data]
  case romChecksum1 => rw [hrecorded.romChecksum1, hkind.data]
  case flags =>
    rw [hrecorded.flags]
    cases r.linkEnabled <;> decide
  case lengths =>
    rw [lengthsValid_eq_some, hlength0, hlength1, hlength2, htotal]
    refine ⟨rfl, ?_, h.total⟩
    rw [List.length_append, hsize]
    exact Nat.le_add_right _ _
  case machineLengths =>
    intro i
    rw [hkind.machineStateCapacity]
    match i with
    | 0 => exact hlength0 ▸ h.machine 0
    | 1 => exact hlength1 ▸ h.machine 1
  case linkLength =>
    rw [hlength2, hkind.linkStateCapacity]
    exact h.link
  case machineChecksum0 => rw [hcontents, hrecorded.checksum0]
  case machineChecksum1 => rw [hcontents, hrecorded.checksum1]
  case linkChecksum => rw [hcontents, hrecorded.linkChecksum]

/-! ## Reads in bounds -/

/-- A read of 32 bits; `none` when some are outside the input. -/
def readU32 (bytes : List Byte) (offset : Nat) : Option (BitVec 32) :=
  if offset + 4 ≤ bytes.length then some (getU32 bytes offset) else none

def readU64 (bytes : List Byte) (offset : Nat) : Option (BitVec 64) :=
  if offset + 8 ≤ bytes.length then some (getU64 bytes offset) else none

def readSlice (bytes : List Byte) (offset size : Nat) : Option (List Byte) :=
  if offset + size ≤ bytes.length then some (slice bytes offset size) else none

/-- The validation with the bounds of each read checked: `none` when it looks outside the input. -/
def boundedValidate (r : Ready M L) (bytes : List Byte) : Option (Except String Contents) := do
  if bytes.length < headerSize then
    return .error "savestate is absent, truncated, or no game is loaded"
  let magic ← readSlice bytes 0 8
  let version ← readU32 bytes 8
  let headerLength ← readU32 bytes 12
  let checksum ← readU32 bytes 108
  let covered ← readSlice bytes 0 108
  if magic ≠ stateMagic ∨ version ≠ stateVersion ∨ headerLength ≠ BitVec.ofNat 32 headerSize ∨
      checksum ≠ crc32Bytes covered then
    return .error "savestate header is corrupt or unsupported"
  let family ← readU32 bytes 24
  let platform0 ← readU32 bytes 28
  let platform1 ← readU32 bytes 32
  if family ≠ r.family.code ∨ platform0 ≠ (r.roms 0).platform.code ∨
      platform1 ≠ (r.roms 1).platform.code then
    return .error "savestate engine or platform does not match"
  let romSize0 ← readU64 bytes 40
  let romSize1 ← readU64 bytes 48
  let romChecksum0 ← readU32 bytes 56
  let romChecksum1 ← readU32 bytes 60
  if romSize0 ≠ BitVec.ofNat 64 (r.roms 0).data.length ∨
      romSize1 ≠ BitVec.ofNat 64 (r.roms 1).data.length ∨
      romChecksum0 ≠ crc32Bytes (r.roms 0).data ∨ romChecksum1 ≠ crc32Bytes (r.roms 1).data then
    return .error "savestate cartridges do not match this session"
  let flags ← readU32 bytes 36
  if flags &&& ~~~flagLinkEnabled ≠ 0 then
    return .error "savestate uses unknown feature flags"
  let length0 ← readU64 bytes 64
  let length1 ← readU64 bytes 72
  let length2 ← readU64 bytes 80
  let total ← readU64 bytes 16
  if lengthsValid length0.toNat length1.toNat length2.toNat bytes.length ≠ some total.toNat then
    return .error "savestate lengths are invalid"
  if ¬((0 < length0.toNat ∧ length0.toNat ≤ r.machineStateCapacity 0) ∧
      0 < length1.toNat ∧ length1.toNat ≤ r.machineStateCapacity 1) then
    return .error "savestate machine payload is invalid"
  if r.linkStateCapacity < length2.toNat then
    return .error "savestate link payload is invalid"
  let machine0 ← readSlice bytes headerSize length0.toNat
  let machine1 ← readSlice bytes (headerSize + length0.toNat) length1.toNat
  let link ← readSlice bytes (headerSize + length0.toNat + length1.toNat) length2.toNat
  let checksum0 ← readU32 bytes 88
  let checksum1 ← readU32 bytes 92
  let linkChecksum ← readU32 bytes 96
  if checksum0 ≠ crc32Bytes machine0 ∨ checksum1 ≠ crc32Bytes machine1 ∨
      linkChecksum ≠ crc32Bytes link then
    return .error "savestate payload checksum failed"
  return .ok
    { linkEnabled := flags &&& flagLinkEnabled ≠ 0
      machine := fun i => if i = 0 then machine0 else machine1
      link }

/-- A rejection, or what follows the check. -/
theorem ite_eq_some {α : Type} {p q : Prop} [Decidable p] [Decidable q] {a b : α} {x : Option α}
    (hpq : p ↔ q) (h : ¬p → x = some b) :
    (if p then some a else x) = some (if q then a else b) := by
  by_cases hp : p
  · rw [if_pos hp, if_pos (hpq.mp hp)]
  · rw [if_neg hp, if_neg (mt hpq.mpr hp), h hp]

/-- **The validation looks at nothing outside its input**, whatever the input. -/
theorem boundedValidate_eq (r : Ready M L) (bytes : List Byte) :
    boundedValidate r bytes = some
      (if bytes.length < headerSize then
        .error "savestate is absent, truncated, or no game is loaded"
      else validate r bytes) := by
  unfold boundedValidate
  refine ite_eq_some Iff.rfl fun hshort => ?_
  have hu32 (offset : Nat) (h : offset + 4 ≤ headerSize) :
      readU32 bytes offset = some (getU32 bytes offset) := if_pos (by omega)
  have hu64 (offset : Nat) (h : offset + 8 ≤ headerSize) :
      readU64 bytes offset = some (getU64 bytes offset) := if_pos (by omega)
  have hslice (offset size : Nat) (h : offset + size ≤ bytes.length) :
      readSlice bytes offset size = some (slice bytes offset size) := if_pos h
  have hheader : headerSize = 112 := rfl
  rw [hslice 0 8 (by omega), hslice 0 108 (by omega), hu32 8 (by decide), hu32 12 (by decide),
    hu32 108 (by decide), hu32 24 (by decide), hu32 28 (by decide), hu32 32 (by decide),
    hu64 40 (by decide), hu64 48 (by decide), hu32 56 (by decide), hu32 60 (by decide),
    hu32 36 (by decide), hu64 64 (by decide), hu64 72 (by decide), hu64 80 (by decide),
    hu64 16 (by decide), hu32 88 (by decide), hu32 92 (by decide), hu32 96 (by decide)]
  unfold validate
  refine ite_eq_some Iff.rfl fun _ => ite_eq_some Iff.rfl fun _ => ite_eq_some Iff.rfl fun _ =>
    ite_eq_some Iff.rfl fun _ => ite_eq_some Iff.rfl fun hlengths => ?_
  rw [ne_eq, Decidable.not_not, lengthsValid_eq_some] at hlengths
  obtain ⟨htotal, hinside, -⟩ := hlengths
  have hmachines := Fin.forall_fin_two (p := fun i =>
    0 < machineLength bytes i ∧ machineLength bytes i ≤ r.machineStateCapacity i)
  refine ite_eq_some (not_congr hmachines.symm) fun _ => ite_eq_some Iff.rfl fun _ => ?_
  rw [hslice _ _ (by omega), hslice _ _ (by omega), hslice _ _ (by omega)]
  refine ite_eq_some Iff.rfl fun _ => ?_
  refine congrArg (fun c => some (Except.ok c)) ?_
  have hmachine : (contentsOf bytes).machine = fun i : Fin 2 =>
      if i = 0 then slice bytes headerSize (getU64 bytes 64).toNat
      else slice bytes (headerSize + (getU64 bytes 64).toNat) (getU64 bytes 72).toNat := by
    funext i
    match i with
    | 0 => rfl
    | 1 => rfl
  exact congrArg (fun machine => Contents.mk (contentsOf bytes).linkEnabled machine
    (contentsOf bytes).link) hmachine.symm

/-! ## The round trip -/

/-- The engine reports sizes within the capacities, and none of a machine is empty. -/
structure Ready.Reports (r : Ready M L) : Prop where
  machine : ∀ i bytes, r.serializeMachine r.pair i (r.machineStateCapacity i) = some bytes →
    0 < bytes.length ∧ bytes.length ≤ r.machineStateCapacity i
  link : ∀ bytes, r.serializeLink r.pair r.linkStateCapacity = some bytes →
    bytes.length ≤ r.linkStateCapacity

/-- The calls of a restore are those that bring a pair to these contents, or those of them up to one
that failed, and a rollback. -/
def Contents.Handed (c : Contents) (calls : List (Call × Option String)) : Prop :=
  calls = c.calls.map (fun call => (call, none)) ∨
    ∃ applied undone, FailedIn c.calls applied ∧ calls = applied ++ undone

/-- The contents are what the engine of the session produces. -/
structure Contents.Produced (c : Contents) (r : Ready M L) : Prop where
  linkEnabled : c.linkEnabled = r.linkEnabled
  machine : ∀ i, r.serializeMachine r.pair i (r.machineStateCapacity i) = some (c.machine i)
  link : r.serializeLink r.pair r.linkStateCapacity = some c.link

/-- Every save keeps inside a buffer of at least `dualboy_state_size` bytes. -/
def Session.SavesInside (s : Session M L) (r : Ready M L) : Prop :=
  ∀ buffer : List Byte, dualboyStateSize s ≤ buffer.length → buffer.length ≤ sizeMax →
    (serialize s (some buffer)).windows.map Window.capacity <+:
        [r.machineStateCapacity 0, r.machineStateCapacity 1, r.linkStateCapacity] ∧
      ∀ window ∈ (serialize s (some buffer)).windows,
        window.offset + window.capacity ≤ buffer.length

/-- Every session of the same kind accepts what was saved, cut anywhere behind the recorded total
and with anything behind it, and hands its engine what was produced. -/
def Session.Restorable (s : Session M L) (r : Ready M L) : Prop :=
  ∀ buffer out : List Byte, dualboyStateSize s ≤ buffer.length → buffer.length ≤ sizeMax →
    (serialize s (some buffer)).error = none → (serialize s (some buffer)).data = some out →
    ∃ c : Contents, c.Produced r ∧
      ∀ (M' L' : Type) (s' : Session M' L') (r' : Ready M' L'), stateOpsValid s' = some r' →
        r.SameKind r' → ∀ kept, (getU64 out 16).toNat ≤ kept → ∀ appended,
          headerSize ≤ (out.take kept ++ appended).length ∧
          validate r' (out.take kept ++ appended) = .ok c ∧
          ∀ malloc snapshot copies, snapshotState malloc r' = .ok snapshot →
            State.battery malloc r' = (copies, none) →
            c.Handed (unserializeEx malloc s' (some (out.take kept ++ appended))).calls

/-- What a restore makes of a container, on a session of the same kind. -/
theorem Contents.Storable.restored {M' L' : Type} {s' : Session M' L'} {r' : Ready M' L'}
    (h : c.Storable r) (hr' : stateOpsValid s' = some r') (hkind : r.SameKind r')
    (tail : List Byte) :
    headerSize ≤ (r.container c ++ tail).length ∧
      validate r' (r.container c ++ tail) = .ok c ∧
      ∀ malloc snapshot copies, snapshotState malloc r' = .ok snapshot →
        State.battery malloc r' = (copies, none) →
        c.Handed (unserializeEx malloc s' (some (r.container c ++ tail))).calls := by
  have haccepted := h.accepted hkind tail
  have hcontents := h.contentsOf_container tail
  have hheader : headerSize ≤ (r.container c ++ tail).length := by
    rw [List.length_append, r.length_container h.linkEnabled]
    unfold Contents.total
    omega
  refine ⟨hheader, validate_eq_ok.mpr ⟨haccepted, hcontents.symm⟩, ?_⟩
  intro malloc snapshot copies hsnapshot hcopies
  rcases unserializeEx_cases malloc s' (some (r.container c ++ tail)) with
    ⟨r₁, bytes, snapshot₁, copies₁, hadmitted, heq⟩ | ⟨hnone, -⟩
  · have hbytes := Option.some.inj hadmitted.given
    rw [heq, ← hbytes, hcontents]
    rcases applyState_cases s' r₁ c snapshot₁ copies₁ with
      ⟨-, hcalls, -⟩ | ⟨applied, q, hfailed, hcalls, -⟩
    · exact Or.inl hcalls
    · exact Or.inr ⟨applied, _, hfailed, hcalls⟩
  · exact absurd ⟨r', _, snapshot, copies, hr', rfl, hheader, haccepted, hsnapshot, hcopies⟩ hnone

theorem Session.restorable_of_fits {s : Session M L} (hr : stateOpsValid s = some r)
    (hreports : r.Reports) (hfits : r.Fits) : s.Restorable r := by
  intro buffer out hsize hmax herror hout
  obtain ⟨-, -, hsaved⟩ := serialize_sound hr hfits hsize hmax
  obtain ⟨c, henabled, hmachine, hlink, hlinkle, hdata⟩ := hsaved herror
  have hstorable : c.Storable r := by
    refine ⟨henabled, fun i => hreports.machine i _ (hmachine i).1, hlinkle, ?_⟩
    have h0 := (hmachine 0).2
    have h1 := (hmachine 1).2
    unfold Ready.Fits at hfits
    unfold Contents.total
    omega
  refine ⟨c, ⟨henabled, fun i => (hmachine i).1, hlink⟩, ?_⟩
  intro M' L' s' r' hr' hkind kept hkept appended
  have hsaved' := Option.some.inj (hout.symm.trans hdata)
  generalize List.replicate _ (0 : Byte) = zeros at hsaved'
  rw [hsaved', (hstorable.lengths zeros).2.2.2, ← r.length_container henabled] at hkept
  rw [hsaved', List.take_append, List.take_of_length_le hkept, List.append_assoc]
  exact hstorable.restored hr' hkind _

/-- Without room in `size_t`, the size is 0, and an empty buffer is large enough. -/
theorem Session.not_savesInside {s : Session M L} (hr : stateOpsValid s = some r)
    (hfits : ¬ r.Fits) : ¬ s.SavesInside r := by
  intro hinside
  have hzero := dualboyStateSize_of_not_fits hr hfits
  have hwindows := (hinside [] (by rw [hzero]; exact Nat.zero_le _) (Nat.zero_le _)).2
  have hsize : dualboyStateSize s ≤ ([] : List Byte).length := by
    rw [hzero]
    exact Nat.zero_le _
  have hfirst := first_window hr hsize
  have hle := hwindows _ hfirst
  have hpos : 0 < headerSize := by decide
  simp only [List.length_nil] at hle
  omega

/-- **State container round trip.** -/
theorem container_round_trip {s : Session M L} (hr : stateOpsValid s = some r)
    (hreports : r.Reports) :
    (s.SavesInside r ∧ s.Restorable r ∧
      ∀ (M' L' : Type) (r' : Ready M' L') (bytes : List Byte), boundedValidate r' bytes ≠ none) ↔
    headerSize + r.machineStateCapacity 0 + r.machineStateCapacity 1 + r.linkStateCapacity ≤
      sizeMax := by
  constructor
  · rintro ⟨hinside, -, -⟩
    by_contra hfits
    exact s.not_savesInside hr hfits hinside
  · intro hfits
    refine ⟨?_, s.restorable_of_fits hr hreports hfits, ?_⟩
    · intro buffer hsize hmax
      obtain ⟨hinside, hcapacities, -⟩ := serialize_sound hr hfits hsize hmax
      exact ⟨hcapacities, hinside⟩
    · intro M' L' r' bytes
      rw [boundedValidate_eq]
      nofun

theorem byteSession_reports (capacity : Nat) (hcapacity : 0 < capacity) {r : Ready Byte Byte}
    (hr : stateOpsValid { byteSession with machineStateCapacity := fun _ => capacity } = some r) :
    r.Reports := by
  have hpos : ∀ _ : Fin 2, 0 < capacity := fun _ => hcapacity
  simp only [stateOpsValid, byteSession, byteEngine, Option.bind_eq_bind, Option.bind_some,
    dif_pos hpos] at hr
  obtain ⟨-, hr⟩ := Option.bind_eq_some_iff.mp hr
  obtain rfl := Option.some.inj hr
  constructor
  · rintro i bytes hbytes
    obtain rfl := Option.some.inj hbytes
    exact ⟨Nat.one_pos, hcapacity⟩
  · rintro bytes hbytes
    obtain rfl := Option.some.inj hbytes
    exact Nat.le_refl 1

/-- A session whose engine reports as much as `size_t` holds. -/
def wideSession : Session Byte Byte :=
  { byteSession with machineStateCapacity := fun _ => sizeMax }

/-- Into an empty buffer, three payloads are written. -/
theorem wide_session_leaves_the_buffer :
    ∃ r, stateOpsValid wideSession = some r ∧ r.Reports ∧
      dualboyStateSize wideSession ≤ ([] : List Byte).length ∧
      (serialize wideSession (some [])).windows =
        [⟨112, sizeMax⟩, ⟨113, sizeMax⟩, ⟨114, 1⟩] ∧ ¬ wideSession.SavesInside r := by
  refine ⟨_, rfl, byteSession_reports sizeMax (by decide) rfl, by decide, by decide +kernel, ?_⟩
  refine wideSession.not_savesInside rfl ?_
  unfold Ready.Fits
  decide

/-- A session with room for a byte of each machine. -/
theorem container_round_trip_bytes :
    ∃ r, stateOpsValid byteSession = some r ∧ byteSession.SavesInside r ∧
      byteSession.Restorable r := by
  have hr : ∃ r, stateOpsValid byteSession = some r ∧ headerSize + r.machineStateCapacity 0 +
      r.machineStateCapacity 1 + r.linkStateCapacity ≤ sizeMax := ⟨_, rfl, by decide⟩
  obtain ⟨r, hr, hfits⟩ := hr
  have hround := (container_round_trip hr (byteSession_reports 1 Nat.one_pos hr)).mpr hfits
  exact ⟨r, hr, hround.1, hround.2.1⟩

end DualBoy.State
