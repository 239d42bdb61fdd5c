import DualBoy.Lib.Layout
import DualBoy.State.Session

/-!
# Saving a state

`dualboy_state_serialize`: the engine writes the payloads one behind the other into the caller's
buffer, each into a window as large as its capacity, and the header is filled in afterwards.

**`serialize_sound`**: what is left in the buffer is the container of what the engine
produced, followed by zeros.
-/

namespace DualBoy.State

open DualBoy.Lib

variable {M L : Type}

/-! ## Definitions -/

/-- `dualboy_state_size`: 0 without state operations, and when the size does not fit `size_t`. -/
def dualboyStateSize (s : Session M L) : Nat :=
  match stateOpsValid s with
  | none => 0
  | some r =>
    let total := do
      let total ← checkedAdd headerSize (r.machineStateCapacity 0)
      let total ← checkedAdd total (r.machineStateCapacity 1)
      checkedAdd total r.linkStateCapacity
    total.getD 0

/-- The part of the buffer a call of the engine may write to. -/
structure Window where
  offset : Nat
  capacity : Nat
  deriving DecidableEq, Repr

/-- How far a save has come. -/
structure Saving where
  bytes : List Byte
  offset : Nat
  windows : List Window

/-- A serialize call of the engine at the offset, and what it produced, if it did not fail. -/
def Saving.call (w : Saving) (capacity : Nat) (produced : Option (List Byte)) :
    Saving × Option (List Byte) :=
  let w := { w with windows := w.windows ++ [⟨w.offset, capacity⟩] }
  match produced with
  | none => (w, none)
  | some payload =>
    if payload.length ≤ capacity then
      ({ w with
          bytes := writeAt w.bytes w.offset payload
          offset := (w.offset + payload.length) % 2 ^ 64 }, some payload)
    else (w, none)

/-- The fields before the header's checksum, with their offsets; the checksums are of the payloads
in the buffer. -/
def Ready.headerFields (r : Ready M L) (used : Fin 2 → Nat) (linkUsed totalUsed : Nat)
    (bytes : List Byte) : List (Nat × List Byte) :=
  [(0, stateMagic),
    (8, putU32 stateVersion),
    (12, putU32 (BitVec.ofNat 32 headerSize)),
    (16, putU64 (BitVec.ofNat 64 totalUsed)),
    (24, putU32 r.family.code),
    (28, putU32 (r.roms 0).platform.code),
    (32, putU32 (r.roms 1).platform.code),
    (36, putU32 (if r.linkEnabled then flagLinkEnabled else 0)),
    (40, putU64 (BitVec.ofNat 64 (r.roms 0).data.length)),
    (48, putU64 (BitVec.ofNat 64 (r.roms 1).data.length)),
    (56, putU32 (crc32Bytes (r.roms 0).data)),
    (60, putU32 (crc32Bytes (r.roms 1).data)),
    (64, putU64 (BitVec.ofNat 64 (used 0))),
    (72, putU64 (BitVec.ofNat 64 (used 1))),
    (80, putU64 (BitVec.ofNat 64 linkUsed)),
    (88, putU32 (crc32Bytes (slice bytes headerSize (used 0)))),
    (92, putU32 (crc32Bytes (slice bytes (headerSize + used 0) (used 1)))),
    (96, putU32 (crc32Bytes (slice bytes (headerSize + used 0 + used 1) linkUsed)))]

/-- What a save returns and leaves in the buffer, and the windows the engine was handed. -/
structure Serialized where
  error : Option String
  data : Option (List Byte)
  windows : List Window

/-- A save that ended early. -/
def Saving.fail (w : Saving) (error : String) : Serialized where
  error := some error
  data := some w.bytes
  windows := w.windows

/-- The end of `dualboy_state_serialize`: the header. -/
def Saving.finish (w : Saving) (r : Ready M L) (machine0 machine1 link : List Byte)
    (totalUsed : Nat) : Serialized :=
  let used := fun i : Fin 2 => if i = 0 then machine0.length else machine1.length
  let bytes := writeFields w.bytes (r.headerFields used link.length totalUsed w.bytes)
  { error := none
    data := some (writeAt bytes 108 (putU32 (crc32Bytes (bytes.take 108))))
    windows := w.windows }

/-- `dualboy_state_serialize`; `data` is `none` for a null pointer. -/
def serialize (s : Session M L) (data : Option (List Byte)) : Serialized :=
  match stateOpsValid s, data with
  | some r, some bytes =>
    if bytes.length < dualboyStateSize s then
      ⟨some "savestate buffer is too small or no game is loaded", data, []⟩
    else
      let capacity := r.machineStateCapacity
      let w : Saving := ⟨List.replicate bytes.length 0, headerSize, []⟩
      match w.call (capacity 0) (r.serializeMachine r.pair 0 (capacity 0)) with
      | (w, none) => w.fail "failed to serialize machine 1"
      | (w, some machine0) =>
        match w.call (capacity 1) (r.serializeMachine r.pair 1 (capacity 1)) with
        | (w, none) => w.fail "failed to serialize machine 2"
        | (w, some machine1) =>
          match w.call r.linkStateCapacity (r.serializeLink r.pair r.linkStateCapacity) with
          | (w, none) => w.fail "failed to serialize link state"
          | (w', some link) =>
            match checkedAdd w.offset link.length with
            | none => w'.fail "savestate size overflow"
            | some totalUsed => w'.finish r machine0 machine1 link totalUsed
  | _, _ => ⟨some "savestate buffer is too small or no game is loaded", data, []⟩

/-! ## Size -/

/-- The largest container of the session fits `size_t`. -/
def Ready.Fits (r : Ready M L) : Prop :=
  headerSize + r.machineStateCapacity 0 + r.machineStateCapacity 1 + r.linkStateCapacity ≤ sizeMax

theorem checkedAdd_of_le {first second : Nat} (h : first + second ≤ sizeMax) :
    checkedAdd first second = some (first + second) :=
  if_neg (by omega)

theorem dualboyStateSize_of_fits {s : Session M L} {r : Ready M L} (hr : stateOpsValid s = some r)
    (hfits : r.Fits) : dualboyStateSize s =
      headerSize + r.machineStateCapacity 0 + r.machineStateCapacity 1 + r.linkStateCapacity := by
  unfold Ready.Fits at hfits
  simp only [dualboyStateSize, hr]
  rw [checkedAdd_of_le (by omega)]
  simp only [Option.bind_eq_bind, Option.bind_some]
  rw [checkedAdd_of_le (by omega)]
  simp only [Option.bind_some]
  rw [checkedAdd_of_le (by omega)]
  rfl

/-- A size that does not fit is reported as no size at all. -/
theorem dualboyStateSize_of_not_fits {s : Session M L} {r : Ready M L}
    (hr : stateOpsValid s = some r) (hfits : ¬ r.Fits) : dualboyStateSize s = 0 := by
  simp only [dualboyStateSize, hr]
  refine (congrArg (fun total : Option Nat => total.getD 0) ?_).trans (Option.getD_none)
  refine Option.eq_none_iff_forall_ne_some.mpr fun total htotal => hfits ?_
  simp only [checkedAdd, Option.bind_eq_bind, Option.bind_eq_some_iff, Option.ite_none_left_eq_some,
    Option.some.injEq, Nat.not_lt] at htotal
  obtain ⟨_, ⟨-, rfl⟩, _, ⟨-, rfl⟩, h, rfl⟩ := htotal
  have hpos : 0 < headerSize := by decide
  unfold Ready.Fits
  omega

/-! ## Fields -/

theorem length_stateMagic : stateMagic.length = 8 := rfl

@[simp] theorem length_putU32 (value : BitVec 32) : (putU32 value).length = 4 := by
  simp [putU32]

@[simp] theorem length_putU64 (value : BitVec 64) : (putU64 value).length = 8 := by
  simp [putU64]

/-- The fields of the header lie one after the other. -/
theorem Ready.consecutive_headerFields (r : Ready M L) (used : Fin 2 → Nat)
    (linkUsed totalUsed : Nat) (bytes : List Byte) :
    Consecutive 0 (r.headerFields used linkUsed totalUsed bytes) := by
  simp only [headerFields, Consecutive, length_stateMagic, length_putU32, length_putU64,
    Nat.reduceAdd, and_self]

theorem Ready.length_headerFields (r : Ready M L) (used : Fin 2 → Nat) (linkUsed totalUsed : Nat)
    (bytes : List Byte) : (contents (r.headerFields used linkUsed totalUsed bytes)).length = 100 := by
  simp only [headerFields, contents_cons, contents_nil, List.length_append, length_stateMagic,
    length_putU32, length_putU64, List.length_nil, Nat.reduceAdd]

/-- With the payloads in their places, the fields and the zeros behind them are those of the
container. -/
theorem Ready.contents_headerFields (r : Ready M L) {c : Contents} (hlink : c.linkEnabled = r.linkEnabled)
    (used : Fin 2 → Nat) (hused : ∀ i, used i = (c.machine i).length) {bytes : List Byte}
    (h0 : slice bytes headerSize (c.machine 0).length = c.machine 0)
    (h1 : slice bytes (headerSize + (c.machine 0).length) (c.machine 1).length = c.machine 1)
    (h2 : slice bytes (headerSize + (c.machine 0).length + (c.machine 1).length) c.link.length =
      c.link) :
    contents (r.headerFields used c.link.length
      (headerSize + (c.machine 0).length + (c.machine 1).length + c.link.length) bytes) ++
        List.replicate 8 0 = r.fields c := by
  delta fields
  simp only [headerFields, contents_cons, contents_nil, hused, h0, h1, h2, hlink,
    List.append_assoc, List.append_nil]

/-! ## A save -/

theorem Saving.call_windows (w : Saving) (capacity : Nat) (produced : Option (List Byte)) :
    (w.call capacity produced).1.windows = w.windows ++ [⟨w.offset, capacity⟩] := by
  unfold Saving.call
  cases produced with
  | none => rfl
  | some payload =>
    dsimp only
    split <;> rfl

theorem Saving.mem_call {w : Saving} {window : Window} (h : window ∈ w.windows) (capacity : Nat)
    (produced : Option (List Byte)) : window ∈ (w.call capacity produced).1.windows := by
  rw [w.call_windows]
  exact List.mem_append_left _ h

/-- Whenever a save begins, the first window is behind the header. -/
theorem first_window {s : Session M L} {r : Ready M L} (hr : stateOpsValid s = some r)
    {bytes : List Byte} (hsize : dualboyStateSize s ≤ bytes.length) :
    ⟨headerSize, r.machineStateCapacity 0⟩ ∈ (serialize s (some bytes)).windows := by
  unfold serialize
  simp only [hr]
  rw [if_neg (Nat.not_lt.mpr hsize)]
  have h0 : (⟨headerSize, r.machineStateCapacity 0⟩ : Window) ∈
      (Saving.call ⟨List.replicate bytes.length 0, headerSize, []⟩ (r.machineStateCapacity 0)
        (r.serializeMachine r.pair 0 (r.machineStateCapacity 0))).1.windows := by
    rw [Saving.call_windows]
    exact List.mem_singleton_self _
  rcases hcall0 : Saving.call _ _ _ with ⟨w0, _ | machine0⟩
  · rw [hcall0] at h0
    exact h0
  rw [hcall0] at h0
  have h1 := Saving.mem_call h0 (r.machineStateCapacity 1)
    (r.serializeMachine r.pair 1 (r.machineStateCapacity 1))
  dsimp only at h1 ⊢
  rcases hcall1 : Saving.call _ _ _ with ⟨w1, _ | machine1⟩
  · rw [hcall1] at h1
    exact h1
  rw [hcall1] at h1
  have h2 := Saving.mem_call h1 r.linkStateCapacity (r.serializeLink r.pair r.linkStateCapacity)
  dsimp only at h2 ⊢
  rcases hcall2 : Saving.call _ _ _ with ⟨w2, _ | link⟩
  · rw [hcall2] at h2
    exact h2
  rw [hcall2] at h2
  dsimp only
  split
  · exact h2
  · exact h2

/-- What a save has written: the payloads so far, and zeros before and behind them. -/
structure Saving.Wrote (w : Saving) (size : Nat) (payloads : List Byte) : Prop where
  bytes : w.bytes = List.replicate headerSize 0 ++ payloads ++
    List.replicate (size - headerSize - payloads.length) 0
  offset : w.offset = headerSize + payloads.length

/-- A call of the engine whose window lies in the buffer. -/
theorem Saving.Wrote.call {w : Saving} {size : Nat} {payloads : List Byte}
    (hw : w.Wrote size payloads) (capacity : Nat) (hmax : size ≤ sizeMax)
    (hroom : headerSize + payloads.length + capacity ≤ size) (produced : Option (List Byte)) :
    (w.call capacity produced).1.windows =
        w.windows ++ [⟨headerSize + payloads.length, capacity⟩] ∧
      ∀ payload, (w.call capacity produced).2 = some payload →
        produced = some payload ∧ payload.length ≤ capacity ∧
          (w.call capacity produced).1.Wrote size (payloads ++ payload) := by
  unfold Saving.call
  rw [hw.offset]
  dsimp only
  cases produced with
  | none => exact ⟨rfl, nofun⟩
  | some payload =>
    dsimp only
    split
    · rename_i hle
      refine ⟨rfl, fun payload' hpayload => ?_⟩
      obtain rfl := Option.some.inj hpayload
      refine ⟨rfl, hle, ?_, ?_⟩
      · have hfront : headerSize + payloads.length =
            (List.replicate headerSize (0 : Byte) ++ payloads).length := by simp
        dsimp only
        rw [hw.bytes, hfront, writeAt_append, List.drop_replicate, List.length_append,
          List.append_assoc _ payloads payload, Nat.sub_add_eq]
      · dsimp only
        rw [List.length_append, Nat.mod_eq_of_lt (by unfold sizeMax at hmax; omega)]
        omega
    · exact ⟨rfl, nofun⟩

/-- The slices of a buffer with a payload in it. -/
theorem slice_append (front payload rest : List Byte) :
    slice (front ++ payload ++ rest) front.length payload.length = payload := by
  unfold slice
  rw [List.append_assoc, List.drop_left, List.take_left]

/-- The payloads behind a header that is still empty. -/
theorem slice_payloads (c : Contents) (rest : List Byte) :
    let bytes := List.replicate headerSize 0 ++ (c.machine 0 ++ c.machine 1 ++ c.link) ++ rest
    slice bytes headerSize (c.machine 0).length = c.machine 0 ∧
      slice bytes (headerSize + (c.machine 0).length) (c.machine 1).length = c.machine 1 ∧
      slice bytes (headerSize + (c.machine 0).length + (c.machine 1).length) c.link.length =
        c.link := by
  have hheader : headerSize = (List.replicate headerSize (0 : Byte)).length := by simp
  refine ⟨?_, ?_, ?_⟩
  · have hslice := slice_append (List.replicate headerSize 0) (c.machine 0)
      (c.machine 1 ++ c.link ++ rest)
    rw [← hheader] at hslice
    simpa only [List.append_assoc] using hslice
  · have hslice := slice_append (List.replicate headerSize 0 ++ c.machine 0) (c.machine 1)
      (c.link ++ rest)
    rw [List.length_append, ← hheader] at hslice
    simpa only [List.append_assoc] using hslice
  · have hslice := slice_append (List.replicate headerSize 0 ++ c.machine 0 ++ c.machine 1) c.link
      rest
    rw [List.length_append, List.length_append, ← hheader] at hslice
    simpa only [List.append_assoc] using hslice

/-- The payload sizes of these contents, as the header has them. -/
def Contents.used (c : Contents) (i : Fin 2) : Nat :=
  (c.machine i).length

/-- **The header completes the container.** -/
theorem Saving.Wrote.finish {w : Saving} {size : Nat} {r : Ready M L} {c : Contents}
    (hw : w.Wrote size (c.machine 0 ++ c.machine 1 ++ c.link))
    (hlink : c.linkEnabled = r.linkEnabled) :
    (w.finish r (c.machine 0) (c.machine 1) c.link
        (headerSize + (c.machine 0).length + (c.machine 1).length + c.link.length)).data =
      some (r.container c ++ List.replicate
        (size - headerSize - (c.machine 0 ++ c.machine 1 ++ c.link).length) 0) := by
  generalize hzeros : List.replicate
    (size - headerSize - (c.machine 0 ++ c.machine 1 ++ c.link).length) (0 : Byte) = zeros
  have hbytes := hw.bytes
  rw [hzeros] at hbytes
  obtain ⟨h0, h1, h2⟩ := slice_payloads c zeros
  rw [← hbytes] at h0 h1 h2
  have hused : ∀ i : Fin 2, (if i = 0 then (c.machine 0).length else (c.machine 1).length) =
      (c.machine i).length := by
    intro i
    match i with
    | 0 => rfl
    | 1 => rfl
  -- the fields, with the eight zeros behind them, are followed by the room for the checksum
  have hdrop : w.bytes.drop 100 = List.replicate 8 0 ++ (List.replicate 4 0 ++
      (c.machine 0 ++ c.machine 1 ++ c.link ++ zeros)) := by
    rw [hbytes, List.append_assoc, List.drop_append_of_le_length (by simp [headerSize]),
      List.drop_replicate, ← List.append_assoc (List.replicate 8 0),
      List.replicate_append_replicate]
    rfl
  have hfields := r.contents_headerFields hlink _ hused h0 h1 h2
  unfold Saving.finish
  dsimp only
  generalize hlist : r.headerFields _ c.link.length _ w.bytes = fields at hfields ⊢
  have hcount : (contents fields).length = 100 := by
    rw [← hlist]
    exact r.length_headerFields _ _ _ _
  have hconsecutive : Consecutive 0 fields := by
    rw [← hlist]
    exact r.consecutive_headerFields _ _ _ _
  have hwritten := writeFields_append [] w.bytes hconsecutive
  rw [List.nil_append, List.nil_append, hcount, hdrop, ← List.append_assoc, hfields] at hwritten
  have hsize : (r.fields c).length = 108 := by
    rw [← hfields, List.length_append, hcount, List.length_replicate]
  rw [hwritten]
  have htake : (r.fields c ++ (List.replicate 4 0 ++
      (c.machine 0 ++ c.machine 1 ++ c.link ++ zeros))).take 108 = r.fields c := by
    rw [← hsize, List.take_left]
  rw [htake, ← hsize, writeAt_append, length_putU32, List.drop_left' (by simp)]
  simp only [Ready.container, List.append_assoc]

/-- What there is to know of a save into a buffer of this size: the engine was handed windows of
its full capacities inside the buffer, and a success leaves the container of what it produced. -/
structure Serialized.Sound (out : Serialized) (r : Ready M L) (size : Nat) : Prop where
  inside : ∀ window ∈ out.windows, window.offset + window.capacity ≤ size
  capacities : out.windows.map Window.capacity <+:
    [r.machineStateCapacity 0, r.machineStateCapacity 1, r.linkStateCapacity]
  container : out.error = none →
    ∃ c : Contents, c.linkEnabled = r.linkEnabled ∧
      (∀ i, r.serializeMachine r.pair i (r.machineStateCapacity i) = some (c.machine i) ∧
        (c.machine i).length ≤ r.machineStateCapacity i) ∧
      r.serializeLink r.pair r.linkStateCapacity = some c.link ∧
      c.link.length ≤ r.linkStateCapacity ∧
      out.data = some (r.container c ++ List.replicate
        (size - headerSize - (c.machine 0 ++ c.machine 1 ++ c.link).length) 0)

/-- A save that ended early, after these windows. -/
theorem Serialized.Sound.of_fail {w : Saving} {r : Ready M L} {size : Nat} (error : String)
    {windows : List Window} (hwindows : w.windows = windows)
    (hinside : ∀ window ∈ windows, window.offset + window.capacity ≤ size)
    (hcapacities : windows.map Window.capacity <+:
      [r.machineStateCapacity 0, r.machineStateCapacity 1, r.linkStateCapacity]) :
    (w.fail error).Sound r size where
  inside := fun window hmem => hinside window (hwindows ▸ hmem)
  capacities := by
    rw [Saving.fail, hwindows]
    exact hcapacities
  container := nofun

/-- **What `dualboy_state_serialize` hands the engine, and what it leaves in the buffer.** -/
theorem serialize_sound {s : Session M L} {r : Ready M L} (hr : stateOpsValid s = some r)
    (hfits : r.Fits) {bytes : List Byte} (hsize : dualboyStateSize s ≤ bytes.length)
    (hmax : bytes.length ≤ sizeMax) : (serialize s (some bytes)).Sound r bytes.length := by
  rw [dualboyStateSize_of_fits hr hfits] at hsize
  have hstart : Saving.Wrote ⟨List.replicate bytes.length 0, headerSize, []⟩ bytes.length [] := by
    refine ⟨?_, rfl⟩
    simp only [List.append_nil, List.length_nil, Nat.sub_zero, List.replicate_append_replicate]
    congr 1
    omega
  obtain ⟨hwindows0, hdone0⟩ := hstart.call (r.machineStateCapacity 0) hmax
    (by simp only [List.length_nil]; omega)
    (r.serializeMachine r.pair 0 (r.machineStateCapacity 0))
  unfold serialize
  simp only [hr]
  rw [dualboyStateSize_of_fits hr hfits, if_neg (by omega)]
  rcases hcall0 : Saving.call _ _ _ with ⟨w0, _ | machine0⟩
  · rw [hcall0] at hwindows0
    refine .of_fail _ hwindows0 ?_ ⟨_, rfl⟩
    simp only [List.nil_append, List.mem_singleton, forall_eq, List.length_nil]
    omega
  rw [hcall0] at hwindows0 hdone0
  obtain ⟨hproduced0, hle0, hw0⟩ := hdone0 machine0 rfl
  simp only [List.nil_append, List.length_nil, Nat.add_zero] at hwindows0 hw0
  obtain ⟨hwindows1, hdone1⟩ := hw0.call (r.machineStateCapacity 1) hmax
    (by omega) (r.serializeMachine r.pair 1 (r.machineStateCapacity 1))
  rw [hwindows0, List.cons_append, List.nil_append] at hwindows1
  dsimp only
  rcases hcall1 : Saving.call _ _ _ with ⟨w1, _ | machine1⟩
  · rw [hcall1] at hwindows1
    refine .of_fail _ hwindows1 ?_ ⟨_, rfl⟩
    simp only [List.mem_cons, List.not_mem_nil, or_false, forall_eq_or_imp, forall_eq]
    omega
  rw [hcall1] at hwindows1 hdone1
  obtain ⟨hproduced1, hle1, hw1⟩ := hdone1 machine1 rfl
  have hlength1 : (machine0 ++ machine1).length = machine0.length + machine1.length :=
    List.length_append
  obtain ⟨hwindows2, hdone2⟩ := hw1.call r.linkStateCapacity hmax
    (by omega) (r.serializeLink r.pair r.linkStateCapacity)
  rw [hwindows1, List.cons_append, List.cons_append, List.nil_append] at hwindows2
  dsimp only
  have hinside : ∀ window ∈ [⟨headerSize, r.machineStateCapacity 0⟩,
      ⟨headerSize + machine0.length, r.machineStateCapacity 1⟩,
      ⟨headerSize + (machine0 ++ machine1).length, r.linkStateCapacity⟩],
      Window.offset window + window.capacity ≤ bytes.length := by
    simp only [List.mem_cons, List.not_mem_nil, or_false, forall_eq_or_imp, forall_eq]
    omega
  rcases hcall2 : Saving.call _ _ _ with ⟨w2, _ | link⟩
  · rw [hcall2] at hwindows2
    exact .of_fail _ hwindows2 hinside ⟨_, rfl⟩
  rw [hcall2] at hwindows2 hdone2
  obtain ⟨hproduced2, hle2, hw2⟩ := hdone2 link rfl
  have hfinish := Saving.Wrote.finish (r := r)
    (c := ⟨r.linkEnabled, fun i => if i = 0 then machine0 else machine1, link⟩) hw2 rfl
  dsimp only at hwindows2 ⊢
  rw [hw1.offset, hlength1, checkedAdd_of_le (by omega), ← Nat.add_assoc]
  dsimp only
  refine ⟨?_, ?_, fun _ => ⟨_, rfl, fun i => ?_, hproduced2, hle2, hfinish⟩⟩
  · change ∀ window ∈ w2.windows, _
    rw [hwindows2]
    exact hinside
  · change w2.windows.map Window.capacity <+: _
    rw [hwindows2]
    exact ⟨[], rfl⟩
  · match i with
    | 0 => exact ⟨hproduced0, hle0⟩
    | 1 => exact ⟨hproduced1, hle1⟩

end DualBoy.State
