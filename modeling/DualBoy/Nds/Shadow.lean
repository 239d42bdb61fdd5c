import DualBoy.Engine
import DualBoy.Lib.Memory
import DualBoy.Lib.Run

/-!
# The shadow of NDS SaveRAM

The frontend flushes a copy of cartridge SRAM, the shadow, that melonDS's release callback brings
up to date. melonDS reports the written range by its offset and its length modulo the device's
size, so that zero stands for the whole device.

* `shadow_tracks_iff`: the shadow is the last released SRAM, in every state of a run, exactly when
  no released transaction changes bytes its reported range leaves out.
* `long_transaction_is_lost`: one byte more than the device holds, and only that byte is copied.
-/

namespace DualBoy.Nds

open DualBoy.Lib

/-! ## The callback -/

/-- `memmove(destination + offset, source + offset, count)`. -/
def memmove (destination source : List Byte) (offset count : Nat) : List Byte :=
  destination.take offset ++ (source.drop offset).take count ++ destination.drop (offset + count)

/-- What `MachineContext` keeps of the cartridge's save. -/
structure MachineContext where
  saveShadow : List Byte
  saveDirty : Bool
  deriving DecidableEq, Repr

/-- `WriteNDSSave`. The arguments are 32-bit and none of the sums exceeds one of them. -/
def writeNDSSave (context : MachineContext) (data : Option (List Byte))
    (size offset length : Nat) : MachineContext :=
  match data with
  | none => context
  | some data =>
    if context.saveShadow.length ≠ size ∨ size = 0 ∨ size ≤ offset then context
    else
      -- `SPIRelease` masks its byte count by `size - 1`: zero is a whole device
      let committedLength := if length = 0 then size else length
      let tailLength := min committedLength (size - offset)
      let shadow := memmove context.saveShadow data offset tailLength
      let wrappedLength := min (committedLength - tailLength) size
      { saveShadow := memmove shadow data 0 wrappedLength, saveDirty := true }

theorem getElem?_memmove {destination source : List Byte} {offset count : Nat}
    (hlength : source.length = destination.length) (hfit : offset + count ≤ destination.length)
    (i : Nat) :
    (memmove destination source offset count)[i]? =
      if offset ≤ i ∧ i < offset + count then source[i]? else destination[i]? := by
  unfold memmove
  have htake : (destination.take offset).length = offset := by
    rw [List.length_take]
    omega
  have hmiddle : ((source.drop offset).take count).length = count := by
    rw [List.length_take, List.length_drop]
    omega
  by_cases hbefore : i < offset
  · rw [if_neg (by omega), List.append_assoc, List.getElem?_append_left (by omega),
      List.getElem?_take_of_lt hbefore]
  · rw [List.append_assoc, List.getElem?_append_right (by omega), htake]
    by_cases hinside : i < offset + count
    · rw [if_pos ⟨by omega, hinside⟩, List.getElem?_append_left (by omega),
        List.getElem?_take_of_lt (by omega), List.getElem?_drop]
      congr 1
      omega
    · rw [if_neg (by omega), List.getElem?_append_right (by omega), hmiddle, List.getElem?_drop]
      congr 1
      omega

@[simp] theorem length_memmove {destination source : List Byte} {offset count : Nat}
    (hlength : source.length = destination.length)
    (hfit : offset + count ≤ destination.length) :
    (memmove destination source offset count).length = destination.length := by
  simp only [memmove, List.length_append, List.length_take, List.length_drop]
  omega

/-- A callback that does not describe the device changes nothing. -/
theorem writeNDSSave_of_invalid {context : MachineContext} {data : Option (List Byte)}
    {size offset : Nat}
    (h : data = none ∨ context.saveShadow.length ≠ size ∨ size = 0 ∨ size ≤ offset)
    (length : Nat) : writeNDSSave context data size offset length = context := by
  rcases h with rfl | h
  · rfl
  · cases data with
    | none => rfl
    | some data => exact if_pos h

/-- How far a cell is from `offset`, going up and around. -/
def distance (size offset i : Nat) : Nat :=
  if offset ≤ i then i - offset else i + size - offset

theorem distance_lt {size offset i : Nat} (hi : i < size) : distance size offset i < size := by
  unfold distance
  split <;> omega

/-- The cell that many bytes on. -/
theorem distance_add_mod {size offset : Nat} (h : offset < size) (n : Nat) :
    distance size offset ((offset + n) % size) = n % size := by
  have hn : n % size < size := Nat.mod_lt _ (by omega)
  rw [Nat.add_mod, Nat.mod_eq_of_lt h]
  unfold distance
  by_cases hwraps : offset + n % size < size
  · rw [Nat.mod_eq_of_lt hwraps, if_pos (by omega)]
    omega
  · have hmod : (offset + n % size) % size = offset + n % size - size := by
      rw [Nat.mod_eq_sub_mod (by omega), Nat.mod_eq_of_lt (by omega)]
    rw [hmod, if_neg (by omega)]
    omega

/-- **What the callback copies**: the cells of the reported range, wrapping, and with a reported
length of zero all of them. -/
theorem getElem?_writeNDSSave {context : MachineContext} {data : List Byte} {offset length : Nat}
    (hsize : context.saveShadow.length = data.length) (hoffset : offset < data.length)
    (hlength : length < data.length) {i : Nat} (hi : i < data.length) :
    (writeNDSSave context (some data) data.length offset length).saveShadow[i]? =
      if length = 0 ∨ distance data.length offset i < length then data[i]?
      else context.saveShadow[i]? := by
  have hvalid : ¬ (context.saveShadow.length ≠ data.length ∨ data.length = 0 ∨
      data.length ≤ offset) := by omega
  unfold writeNDSSave
  dsimp only
  rw [if_neg hvalid]
  set committed := if length = 0 then data.length else length with hcommitted
  have hcommittedLe : committed ≤ data.length := by
    rw [hcommitted]
    split <;> omega
  have hiff : (length = 0 ∨ distance data.length offset i < length) ↔
      distance data.length offset i < committed := by
    have hlt : distance data.length offset i < data.length := distance_lt hi
    rw [hcommitted]
    split <;> omega
  simp only [hiff]
  have htail : min committed (data.length - offset) ≤ data.length - offset := Nat.min_le_right _ _
  rw [getElem?_memmove (by rw [length_memmove hsize.symm (by omega), hsize])
      (by rw [length_memmove hsize.symm (by omega)]; omega),
    getElem?_memmove hsize.symm (by omega)]
  unfold distance
  split_ifs <;> first | rfl | omega

theorem length_writeNDSSave {context : MachineContext} {data : List Byte} {offset length : Nat}
    (hsize : context.saveShadow.length = data.length) (hoffset : offset < data.length)
    (hlength : length < data.length) :
    (writeNDSSave context (some data) data.length offset length).saveShadow.length =
      data.length := by
  have hvalid : ¬ (context.saveShadow.length ≠ data.length ∨ data.length = 0 ∨
      data.length ≤ offset) := by omega
  unfold writeNDSSave
  dsimp only
  rw [if_neg hvalid]
  have hcommittedLe : (if length = 0 then data.length else length) ≤ data.length := by
    split <;> omega
  have htail : min (if length = 0 then data.length else length) (data.length - offset) ≤
    data.length - offset := Nat.min_le_right _ _
  rw [length_memmove (by rw [length_memmove hsize.symm (by omega), hsize])
      (by rw [length_memmove hsize.symm (by omega)]; omega),
    length_memmove hsize.symm (by omega), hsize]

/-! ## The cartridge -/

/-- A transaction that is under way: where it started and how many bytes it has written. -/
structure Transaction where
  offset : Nat
  written : Nat
  deriving DecidableEq, Repr

/-- A machine's cartridge with its shadow. -/
structure Cartridge where
  live : List Byte
  context : MachineContext
  transaction : Option Transaction
  /-- Live SRAM at the last release, reset or load. Nothing reads it. -/
  released : List Byte
  deriving DecidableEq, Repr

namespace Cartridge

/-- `LoadMachine` copies live SRAM into the shadow. -/
def load (save : List Byte) : Cartridge :=
  ⟨save, ⟨save, false⟩, none, save⟩

/-- What happens to a cartridge. -/
inductive Event where
  /-- a transaction opens and writes its first byte -/
  | start (offset : Nat) (byte : Byte)
  | next (byte : Byte)
  | release
  /-- a frame begins; the guest's events in it follow -/
  | runFrame
  | reset
  deriving DecidableEq, Repr

/-- `RunFrame`'s check that the save is still what was loaded. -/
def topologyValid (c : Cartridge) : Bool :=
  c.live.length = c.context.saveShadow.length

/-- `ResetMachine`: the cartridge forgets its transaction and the shadow is loaded into it. -/
def resetMachine (c : Cartridge) : Cartridge :=
  if c.context.saveShadow ≠ [] then
    { c with
      live := c.context.saveShadow
      context := { c.context with saveDirty := false }
      transaction := none
      released := c.context.saveShadow }
  else { c with transaction := none, released := c.live }

/-- One event. A transaction opens below the end of the device, when none is open, and wraps. -/
def step (c : Cartridge) : Event → Cartridge
  | .start offset byte =>
    if c.transaction = none ∧ offset < c.live.length then
      { c with live := c.live.set offset byte, transaction := some ⟨offset, 1⟩ }
    else c
  | .next byte =>
    match c.transaction with
    | none => c
    | some t =>
      { c with
        live := c.live.set ((t.offset + t.written) % c.live.length) byte
        transaction := some { t with written := t.written + 1 } }
  | .release =>
    match c.transaction with
    | none => c
    | some t =>
      { c with
        context := writeNDSSave c.context (some c.live) c.live.length t.offset
          (t.written % c.live.length)
        transaction := none
        released := c.live }
  | .runFrame => c
  | .reset => c.resetMachine

/-- The shadow is live SRAM, and while a transaction is open what that was at the last release. -/
def Tracks (c : Cartridge) : Prop :=
  (c.transaction = none → c.context.saveShadow = c.live) ∧
    (c.transaction ≠ none → c.context.saveShadow = c.released)

instance (c : Cartridge) : Decidable c.Tracks := by
  unfold Tracks
  infer_instance

/-! ## Runs -/

/-- The shadow is what was last released, and an open transaction has changed no more than the
cells it wrote. -/
structure Synced (c : Cartridge) : Prop where
  shadow : c.context.saveShadow = c.released
  size : c.released.length = c.live.length
  closed : c.transaction = none → c.live = c.released
  offset : ∀ t, c.transaction = some t → t.offset < c.live.length
  frame : ∀ t i, c.transaction = some t → i < c.live.length →
    t.written ≤ distance c.live.length t.offset i → c.live[i]? = c.released[i]?

/-- The range that a release reports has every byte the transaction changed: it is not longer than
the device, or a multiple of its size, or what the report leaves out is as before. -/
def Reported (c : Cartridge) : Event → Prop
  | .release => ∀ t, c.transaction = some t →
      t.written ≤ c.live.length ∨ c.live.length ∣ t.written ∨
        ∀ i < c.live.length, t.written % c.live.length ≤ distance c.live.length t.offset i →
          c.live[i]? = c.released[i]?
  | _ => True

variable {c : Cartridge}

theorem synced_load (save : List Byte) : (load save).Synced where
  shadow := rfl
  size := rfl
  closed := fun _ => rfl
  offset := nofun
  frame := nofun

theorem Synced.tracks (h : c.Synced) : c.Tracks :=
  ⟨fun hclosed => h.shadow.trans (h.closed hclosed).symm, fun _ => h.shadow⟩

/-- `RunFrame` never finds the save's extent changed. -/
theorem Synced.topologyValid (h : c.Synced) : c.topologyValid = true := by
  unfold Cartridge.topologyValid
  rw [h.shadow, h.size]
  exact decide_eq_true rfl

/-- A release copies everything, when it reports everything, and otherwise not. -/
theorem Synced.release_iff (h : c.Synced) {t : Transaction} (ht : c.transaction = some t) :
    (writeNDSSave c.context (some c.live) c.live.length t.offset
        (t.written % c.live.length)).saveShadow = c.live ↔ c.Reported .release := by
  have hoffset := h.offset t ht
  have hsize : c.context.saveShadow.length = c.live.length := by rw [h.shadow, h.size]
  have hmod : t.written % c.live.length < c.live.length := Nat.mod_lt _ (by omega)
  have hcell (i : Nat) (hi : i < c.live.length) :=
    getElem?_writeNDSSave hsize hoffset hmod hi
  constructor
  · intro hcopied t' ht'
    obtain rfl : t = t' := Option.some.inj (ht.symm.trans ht')
    by_cases hzero : t.written % c.live.length = 0
    · exact Or.inr (Or.inl (Nat.dvd_of_mod_eq_zero hzero))
    · refine Or.inr (Or.inr fun i hi hout => ?_)
      have hi' := hcell i hi
      rw [if_neg (by omega), hcopied, h.shadow] at hi'
      exact hi'
  · intro hreported
    refine List.ext_getElem? fun i => ?_
    by_cases hi : i < c.live.length
    · rw [hcell i hi]
      by_cases hin : t.written % c.live.length = 0 ∨
          distance c.live.length t.offset i < t.written % c.live.length
      · rw [if_pos hin]
      · rw [if_neg hin, h.shadow]
        refine Eq.symm ?_
        rcases hreported t ht with hle | hdvd | hsame
        · -- a transaction that is not longer than the device reports its own length
          have hne : t.written ≠ c.live.length := by
            intro heq
            rw [heq, Nat.mod_self] at hin
            exact hin (Or.inl rfl)
          rw [Nat.mod_eq_of_lt (by omega)] at hin
          exact h.frame t i ht hi (by omega)
        · exact absurd (Or.inl (Nat.mod_eq_zero_of_dvd hdvd)) hin
        · exact hsame i hi (by omega)
    · have hlength := length_writeNDSSave hsize hoffset hmod
      rw [List.getElem?_eq_none (Nat.le_of_not_lt hi), List.getElem?_eq_none (by omega)]

theorem Synced.start (h : c.Synced) (offset : Nat) (byte : Byte) :
    (c.step (.start offset byte)).Synced := by
  unfold step
  dsimp only
  split
  · rename_i hopens
    refine ⟨h.shadow, by simpa using h.size, nofun, fun t ht => ?_,
      fun t i ht hi hout => ?_⟩
    · obtain rfl : ⟨offset, 1⟩ = t := Option.some.inj ht
      simpa using hopens.2
    · obtain rfl : ⟨offset, 1⟩ = t := Option.some.inj ht
      have hne : offset ≠ i := by
        rintro rfl
        simp [distance] at hout
      change (c.live.set offset byte)[i]? = c.released[i]?
      rw [List.getElem?_set_ne hne, h.closed hopens.1]
  · exact h

theorem Synced.next (h : c.Synced) (byte : Byte) : (c.step (.next byte)).Synced := by
  unfold step
  cases ht : c.transaction with
  | none => exact h
  | some t =>
    have hoffset := h.offset t ht
    refine ⟨h.shadow, by simpa using h.size, nofun, fun t' ht' => ?_,
      fun t' i ht' hi hout => ?_⟩
    · obtain rfl := Option.some.inj ht'
      simpa using hoffset
    · obtain rfl := Option.some.inj ht'
      dsimp only at hi hout ⊢
      rw [List.length_set] at hi hout
      have hne : (t.offset + t.written) % c.live.length ≠ i := by
        intro heq
        rw [← heq, distance_add_mod hoffset] at hout
        have := Nat.mod_le t.written c.live.length
        omega
      rw [List.getElem?_set_ne hne]
      exact h.frame t i ht hi (by omega)

theorem Synced.reset (h : c.Synced) : (c.step .reset).Synced := by
  have hlength : c.context.saveShadow.length = c.live.length := by rw [h.shadow, h.size]
  unfold step resetMachine
  dsimp only
  split
  · exact ⟨rfl, rfl, fun _ => rfl, nofun, nofun⟩
  · rename_i hempty
    rw [not_not] at hempty
    have hlive : c.live = [] := by
      rw [hempty, List.length_nil] at hlength
      exact List.length_eq_zero_iff.mp hlength.symm
    exact ⟨hempty.trans hlive.symm, rfl, fun _ => rfl, nofun, nofun⟩

/-- **An event keeps the shadow in step**, when what it reports is complete, and otherwise leaves a
closed transaction the shadow lacks bytes of. -/
theorem Synced.step (h : c.Synced) (event : Event) :
    (c.Reported event → (c.step event).Synced) ∧
      (¬ c.Reported event → ¬ (c.step event).Tracks) := by
  cases event with
  | start offset byte => exact ⟨fun _ => h.start offset byte, fun hnot => absurd trivial hnot⟩
  | next byte => exact ⟨fun _ => h.next byte, fun hnot => absurd trivial hnot⟩
  | runFrame => exact ⟨fun _ => h, fun hnot => absurd trivial hnot⟩
  | reset => exact ⟨fun _ => h.reset, fun hnot => absurd trivial hnot⟩
  | release =>
    cases ht : c.transaction with
    | none =>
      have hsame : c.step .release = c := by
        unfold Cartridge.step
        rw [ht]
      rw [hsame]
      exact ⟨fun _ => h, fun hnot => absurd (fun t hopen => by rw [ht] at hopen; cases hopen) hnot⟩
    | some t =>
      have hiff := h.release_iff ht
      unfold Cartridge.step
      rw [ht]
      refine ⟨fun hreported => ?_, fun hnot htracks => hnot (hiff.mp (htracks.1 rfl))⟩
      exact ⟨hiff.mpr hreported, rfl, fun _ => rfl, nofun, nofun⟩

/-- In step from the start, a run stays so exactly as long as its releases report everything. -/
theorem Synced.run_iff (h : c.Synced) (events : List Event) :
    (∀ n, (run Cartridge.step c (events.take n)).Tracks) ↔
      Along Cartridge.step Reported c events := by
  induction events generalizing c with
  | nil => simpa [run, Along] using h.tracks
  | cons event events ih =>
    obtain ⟨hkeeps, hloses⟩ := h.step event
    constructor
    · intro htracks
      have hreported : c.Reported event := by
        by_contra hnot
        exact hloses hnot (htracks 1)
      exact ⟨hreported, (ih (hkeeps hreported)).mp fun n => htracks (n + 1)⟩
    · rintro ⟨hreported, halong⟩ n
      cases n with
      | zero => exact h.tracks
      | succ n => exact (ih (hkeeps hreported)).mpr halong n

/-- **The shadow tracks completed transactions**, in every state of every run, exactly when every
release reports all that its transaction changed. A callback that does not describe the device
changes nothing. -/
theorem shadow_tracks_iff (save : List Byte) (events : List Event) :
    ((∀ n, (run Cartridge.step (load save) (events.take n)).Tracks) ↔
        Along Cartridge.step Reported (load save) events) ∧
      ∀ (context : MachineContext) (data : Option (List Byte)) (size offset length : Nat),
        data = none ∨ context.saveShadow.length ≠ size ∨ size = 0 ∨ size ≤ offset →
          writeNDSSave context data size offset length = context :=
  ⟨(synced_load save).run_iff events,
    fun _ _ _ _ length h => writeNDSSave_of_invalid h length⟩

/-- Two bytes around the end of a small device, with a frame between them. -/
theorem shadow_tracks_around :
    (∀ n, (run Cartridge.step (load [0, 0, 0, 0])
        ([.start 3 7, .runFrame, .next 8, .release].take n)).Tracks) ∧
      writeNDSSave ⟨[0, 0], false⟩ none 2 0 1 = ⟨[0, 0], false⟩ :=
  ⟨(shadow_tracks_iff [0, 0, 0, 0] _).1.mpr ⟨trivial, trivial, trivial, fun t ht => by
      cases ht
      exact Or.inl (by decide), trivial⟩,
    (shadow_tracks_iff [] []).2 _ none 2 0 1 (Or.inl rfl)⟩

/-! ## Longer transactions -/

/-- The open transaction has written one byte all over the cells it has come to. -/
structure Filled (c : Cartridge) (save : List Byte) (byte : Byte) (t : Transaction) : Prop where
  shadow : c.context.saveShadow = save
  length : c.live.length = save.length
  transaction : c.transaction = some t
  offset : t.offset < save.length
  cells : ∀ i < save.length, distance save.length t.offset i < t.written → c.live[i]? = some byte

variable {save : List Byte} {byte : Byte} {t : Transaction}

theorem Filled.next (h : c.Filled save byte t) :
    (c.step (.next byte)).Filled save byte { t with written := t.written + 1 } := by
  unfold step
  rw [h.transaction]
  refine ⟨h.shadow, by simpa using h.length, rfl, h.offset, fun i hi hcell => ?_⟩
  dsimp only at hcell ⊢
  rw [h.length]
  by_cases hwritten : (t.offset + t.written) % save.length = i
  · rw [hwritten, List.getElem?_set_self (by rw [h.length]; exact hi)]
  · rw [List.getElem?_set_ne hwritten]
    refine h.cells i hi ?_
    -- the next cell is the only one at that distance
    by_contra hfar
    have hoffset := h.offset
    have hdistance : distance save.length t.offset i = t.written := by omega
    refine hwritten ?_
    unfold distance at hdistance
    split at hdistance
    · rw [show t.offset + t.written = i by omega, Nat.mod_eq_of_lt hi]
    · rw [show t.offset + t.written = i + save.length by omega, Nat.add_mod_right,
        Nat.mod_eq_of_lt hi]

theorem Filled.run (n : Nat) (h : c.Filled save byte t) :
    (run Cartridge.step c (List.replicate n (.next byte))).Filled save byte
      { t with written := t.written + n } := by
  induction n generalizing c t with
  | zero => exact h
  | succ n ih =>
    have hrest := ih h.next
    rw [show t.written + 1 + n = t.written + (n + 1) by omega] at hrest
    exact hrest

/-- A transaction of a whole device and one byte, all the same. -/
def longTransaction (size : Nat) (byte : Byte) : List Event :=
  (.start 0 byte :: List.replicate size (.next byte)) ++ [.release]

/-- On every device of two bytes or more, its release reports one byte and the others are lost. -/
theorem longTransaction_lost (hsize : 2 ≤ save.length) (hbyte : save[1]? ≠ some byte) :
    ¬ (run Cartridge.step (load save) (longTransaction save.length byte)).Tracks := by
  have hstart : (load save).step (.start 0 byte) =
      { load save with live := save.set 0 byte, transaction := some ⟨0, 1⟩ } :=
    if_pos ⟨rfl, by dsimp only [load]; omega⟩
  have hopened : ((load save).step (.start 0 byte)).Filled save byte ⟨0, 1⟩ := by
    rw [hstart]
    refine ⟨rfl, List.length_set, rfl, by dsimp only; omega, fun i hi hcell => ?_⟩
    obtain rfl : i = 0 := by simpa [distance] using hcell
    exact List.getElem?_set_self hi
  have hfilled := hopened.run save.length
  have hmod : (1 + save.length) % save.length = 1 := by
    rw [Nat.add_mod_right, Nat.mod_eq_of_lt (by omega)]
  intro htracks
  unfold longTransaction at htracks
  rw [run_append] at htracks
  change Tracks (step (Lib.run Cartridge.step ((load save).step (.start 0 byte))
    (List.replicate save.length (.next byte))) .release) at htracks
  generalize Lib.run Cartridge.step ((load save).step (.start 0 byte))
    (List.replicate save.length (.next byte)) = c at hfilled htracks
  have hlive : c.live[1]? = some byte :=
    hfilled.cells 1 (by omega) (by simp [distance]; omega)
  have hlength := hfilled.length
  have hcell : (writeNDSSave c.context (some c.live) c.live.length 0 1).saveShadow[1]? =
      c.context.saveShadow[1]? := by
    rw [getElem?_writeNDSSave (by rw [hfilled.shadow, hlength]) (by omega) (by omega) (by omega)]
    exact if_neg (by simp [distance])
  rw [hfilled.shadow] at hcell
  unfold step at htracks
  rw [hfilled.transaction, hfilled.length] at htracks
  dsimp only at htracks
  rw [hmod] at htracks
  have hcopied := htracks.1 rfl
  dsimp only at hcopied
  rw [← hfilled.length] at hcopied
  rw [hcopied, hlive] at hcell
  exact hbyte hcell.symm

/-- An erased device of 512 bytes. -/
def erased : List Byte :=
  List.replicate 512 0xff

/-- **A released transaction may be lost**: of 513 bytes written to such a device and released, the
shadow lacks all but one. -/
theorem long_transaction_is_lost :
    ¬ (run Cartridge.step (load erased) (longTransaction 512 1)).Tracks := by
  have hlength : erased.length = 512 := List.length_replicate
  have hcell : erased[1]? = some 0xff := List.getElem?_replicate_of_lt (by omega)
  have hlost : ¬ (run Cartridge.step (load erased) (longTransaction erased.length 1)).Tracks :=
    longTransaction_lost (by omega) (by rw [hcell]; decide)
  rwa [hlength] at hlost

end Cartridge

end DualBoy.Nds
