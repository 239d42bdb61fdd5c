import DualBoy.Frontend.Compositor
import DualBoy.Lib.LittleEndian

/-!
# Drawing the cursor

`dualboy_compositor_draw_cursor`: a ring, two ticks and an aim point, drawn over a picture, pixel by
pixel, around a centre in it. `cursorMark` is what the rules leave at an offset from the centre;
where the picture ends takes no part in it.

* `drawCursor_eq_writeAll`: the loops write one word for each mark inside the picture.
* `drawCursor_eq_some`: the memory behind them is the picture with the marks on it.
* **`drawCursor_frame`**.
-/

namespace DualBoy.Frontend

open DualBoy.Lib

/-! ## The source -/

def black : BitVec 32 := 0x00000000#32

def white : BitVec 32 := 0x00ffffff#32

/-- `-8` to `8`. -/
def cursorOffsets : List Int := (List.range 17).map fun (i : Nat) => (i : Int) - 8

/-- The rules of the inner loop: the colour at an offset, if it is drawn. -/
def cursorColor (accent : BitVec 32) (offsetX offsetY : Int) : Option (BitVec 32) :=
  let absoluteX := if offsetX < 0 then -offsetX else offsetX
  let absoluteY := if offsetY < 0 then -offsetY else offsetY
  let distanceSquared := offsetX * offsetX + offsetY * offsetY
  let ring :=
    if 46 ≤ distanceSquared ∧ distanceSquared ≤ 68 then some black
    else if 30 ≤ distanceSquared ∧ distanceSquared ≤ 45 then some white
    else none
  let ticks :=
    if (absoluteX ≤ 1 ∧ absoluteY ≤ 8) ∨ (absoluteY ≤ 1 ∧ absoluteX ≤ 8) then
      if (offsetX = 0 ∨ offsetY = 0) ∧ (3 ≤ absoluteX ∨ 3 ≤ absoluteY) then some white
      else some black
    else ring
  if absoluteX ≤ 2 ∧ absoluteY ≤ 2 then
    if absoluteX ≤ 1 ∧ absoluteY ≤ 1 then some (accent &&& 0x00ffffff#32) else some black
  else ticks

/-- A picture and where the cursor is drawn on it: the arguments behind `output`. -/
structure CursorTarget where
  width : Nat
  height : Nat
  pitch : Nat
  centerX : Nat
  centerY : Nat
  accent : BitVec 32
  deriving DecidableEq, Repr

/-- One turn of the inner loop. -/
def drawCursorPixel (t : CursorTarget) (offsetY offsetX : Int) (output : Memory) : Memory :=
  let pixelY := (t.centerY : Int) + offsetY
  let pixelX := (t.centerX : Int) + offsetX
  if pixelX < 0 ∨ (t.width : Int) ≤ pixelX then output
  else
    match cursorColor t.accent offsetX offsetY with
    | none => output
    | some color =>
      output.write (pixelY.toNat * t.pitch % sizeRange + pixelX.toNat * wordSize)
        (leBytes wordSize color)

/-- One turn of the outer loop. -/
def drawCursorRow (t : CursorTarget) (offsetY : Int) (output : Memory) : Memory :=
  let pixelY := (t.centerY : Int) + offsetY
  if pixelY < 0 ∨ (t.height : Int) ≤ pixelY then output
  else cursorOffsets.foldl (fun output offsetX => drawCursorPixel t offsetY offsetX output) output

/-- `dualboy_compositor_draw_cursor`: the output as it leaves it, if it accepts its arguments. -/
def drawCursor (output : Option Memory) (t : CursorTarget) : Option Memory := do
  let output ← output
  let rowBytes := t.width * wordSize % sizeRange
  if t.width = 0 ∨ t.height = 0 then none
  else if rowBytes / wordSize ≠ t.width ∨ t.pitch < rowBytes ∨ t.width ≤ t.centerX ∨
      t.height ≤ t.centerY then none
  else some (cursorOffsets.foldl (fun output offsetY => drawCursorRow t offsetY output) output)

/-! ## The marks -/

/-- What the cursor puts at an offset from its centre. -/
def cursorMark (accent : BitVec 32) (offsetX offsetY : Int) : Option (BitVec 32) :=
  if offsetX.natAbs ≤ 8 ∧ offsetY.natAbs ≤ 8 then cursorColor accent offsetX offsetY else none

/-- Where a pixel of the picture is. -/
def CursorTarget.address (t : CursorTarget) (x y : Nat) : Nat := y * t.pitch + x * wordSize

/-- The mark on a pixel of the picture. -/
def CursorTarget.mark (t : CursorTarget) (x y : Nat) : Option (BitVec 32) :=
  cursorMark t.accent ((x : Int) - t.centerX) ((y : Int) - t.centerY)

/-- The picture is in memory: its last row ends at an address. -/
def CursorTarget.InMemory (t : CursorTarget) : Prop :=
  (t.height - 1) * t.pitch + t.width * wordSize ≤ sizeRange

/-- The memory with the marks on the picture. -/
def markedPicture (t : CursorTarget) (output : Memory) : Memory := fun a =>
  if a / t.pitch < t.height ∧ a % t.pitch < t.width * wordSize then
    match t.mark (a % t.pitch / wordSize) (a / t.pitch) with
    | none => output a
    | some color => (leBytes wordSize color).getD (a % t.pitch % wordSize) 0
  else output a

theorem mem_cursorOffsets (offset : Int) : offset ∈ cursorOffsets ↔ offset.natAbs ≤ 8 := by
  unfold cursorOffsets
  rw [List.mem_map]
  constructor
  · rintro ⟨i, hi, rfl⟩
    rw [List.mem_range] at hi
    omega
  · intro hoffset
    exact ⟨(offset + 8).toNat, List.mem_range.mpr (by omega), by omega⟩

/-- The aim point is the accent. -/
theorem cursorMark_center (accent : BitVec 32) :
    cursorMark accent 0 0 = some (accent &&& 0x00ffffff#32) := rfl

/-! ## The loops -/

section Loops

variable {t : CursorTarget}

/-- The words that one turn writes, none or one. -/
def cursorCopy (t : CursorTarget) (offsetY offsetX : Int) : List (Nat × List Byte) :=
  let pixelY := (t.centerY : Int) + offsetY
  let pixelX := (t.centerX : Int) + offsetX
  if (pixelY < 0 ∨ (t.height : Int) ≤ pixelY) ∨ pixelX < 0 ∨ (t.width : Int) ≤ pixelX then []
  else
    match cursorColor t.accent offsetX offsetY with
    | none => []
    | some color =>
      [(pixelY.toNat * t.pitch % sizeRange + pixelX.toNat * wordSize, leBytes wordSize color)]

def cursorCopies (t : CursorTarget) : List (Nat × List Byte) :=
  cursorOffsets.flatMap fun offsetY => cursorOffsets.flatMap (cursorCopy t offsetY)

theorem drawCursorRow_eq_writeAll (offsetY : Int) (output : Memory) :
    drawCursorRow t offsetY output =
      Memory.writeAll (cursorOffsets.flatMap (cursorCopy t offsetY)) output := by
  unfold drawCursorRow
  dsimp only
  by_cases hrow : (t.centerY : Int) + offsetY < 0 ∨ (t.height : Int) ≤ (t.centerY : Int) + offsetY
  · have hnone : cursorOffsets.flatMap (cursorCopy t offsetY) = [] := by
      rw [List.flatMap_eq_nil_iff]
      intro offsetX _
      exact if_pos (Or.inl hrow)
    rw [if_pos hrow, hnone]
    rfl
  · rw [if_neg hrow, Memory.writeAll_flatMap]
    refine congrArg (fun turn => cursorOffsets.foldl turn output) ?_
    funext output offsetX
    unfold drawCursorPixel cursorCopy
    dsimp only
    by_cases hcolumn : (t.centerX : Int) + offsetX < 0 ∨
        (t.width : Int) ≤ (t.centerX : Int) + offsetX
    · rw [if_pos hcolumn, if_pos (Or.inr hcolumn)]
      rfl
    · rw [if_neg hcolumn, if_neg (not_or.mpr ⟨hrow, hcolumn⟩)]
      cases cursorColor t.accent offsetX offsetY with
      | none => rfl
      | some color => rfl

/-- **The loops write one word for each mark inside the picture.** -/
theorem drawCursor_eq_writeAll (output : Memory) :
    cursorOffsets.foldl (fun output offsetY => drawCursorRow t offsetY output) output =
      Memory.writeAll (cursorCopies t) output := by
  unfold cursorCopies
  rw [Memory.writeAll_flatMap]
  refine congrArg (fun turn => cursorOffsets.foldl turn output) ?_
  funext output offsetY
  exact drawCursorRow_eq_writeAll offsetY output

theorem mem_cursorCopies (hmemory : t.InMemory) (copy : Nat × List Byte) :
    copy ∈ cursorCopies t ↔ ∃ x y color, x < t.width ∧ y < t.height ∧ t.mark x y = some color ∧
      copy = (t.address x y, leBytes wordSize color) := by
  have hwrap {y : Nat} (hwidth : 0 < t.width) (hy : y < t.height) :
      y * t.pitch % sizeRange = y * t.pitch := by
    have hrows : y * t.pitch ≤ (t.height - 1) * t.pitch := Nat.mul_le_mul_right _ (by omega)
    unfold CursorTarget.InMemory wordSize at hmemory
    exact Nat.mod_eq_of_lt (by omega)
  unfold cursorCopies
  simp only [List.mem_flatMap, mem_cursorOffsets]
  constructor
  · rintro ⟨offsetY, hoffsetY, offsetX, hoffsetX, hcopy⟩
    unfold cursorCopy at hcopy
    dsimp only at hcopy
    split at hcopy
    · cases hcopy
    rename_i hinside
    cases hcolor : cursorColor t.accent offsetX offsetY with
    | none =>
      rw [hcolor] at hcopy
      cases hcopy
    | some color =>
      rw [hcolor] at hcopy
      obtain rfl := List.mem_singleton.mp hcopy
      refine ⟨((t.centerX : Int) + offsetX).toNat, ((t.centerY : Int) + offsetY).toNat, color,
        by omega, by omega, ?_, ?_⟩
      · have hx : ((((t.centerX : Int) + offsetX).toNat : Nat) : Int) - t.centerX = offsetX := by
          omega
        have hy : ((((t.centerY : Int) + offsetY).toNat : Nat) : Int) - t.centerY = offsetY := by
          omega
        unfold CursorTarget.mark cursorMark
        rw [hx, hy, if_pos ⟨hoffsetX, hoffsetY⟩, hcolor]
      · rw [hwrap (by omega) (by omega)]
        rfl
  · rintro ⟨x, y, color, hx, hy, hmark, rfl⟩
    unfold CursorTarget.mark cursorMark at hmark
    split at hmark
    · rename_i hnear
      refine ⟨_, hnear.2, _, hnear.1, ?_⟩
      have hpixelX : (t.centerX : Int) + ((x : Int) - t.centerX) = x := by omega
      have hpixelY : (t.centerY : Int) + ((y : Int) - t.centerY) = y := by omega
      unfold cursorCopy
      dsimp only
      rw [hpixelX, hpixelY, if_neg (by omega), hmark, Int.toNat_natCast, Int.toNat_natCast,
        hwrap (by omega) hy]
      exact List.mem_singleton_self _
    · cases hmark

/-- A byte of a pixel, by its row, its place in the row and its place in the word. -/
theorem address_byte (hpitch : t.width * wordSize ≤ t.pitch) {x k : Nat} (y : Nat)
    (hx : x < t.width) (hk : k < wordSize) :
    (t.address x y + k) / t.pitch = y ∧
      (t.address x y + k) % t.pitch = x * wordSize + k := by
  have hshort : x * wordSize + k < t.pitch := by
    unfold wordSize at *
    omega
  have haddress : t.address x y + k = t.pitch * y + (x * wordSize + k) := by
    unfold CursorTarget.address
    rw [Nat.mul_comm y, Nat.add_assoc]
  rw [haddress]
  constructor
  · rw [Nat.mul_add_div (by omega), Nat.div_eq_of_lt hshort, Nat.add_zero]
  · rw [Nat.mul_add_mod, Nat.mod_eq_of_lt hshort]

/-- Every byte is one of a word in a row. -/
theorem address_of_byte (t : CursorTarget) (a : Nat) :
    t.address (a % t.pitch / wordSize) (a / t.pitch) + a % t.pitch % wordSize = a ∧
      a % t.pitch % wordSize < wordSize := by
  have hword := Nat.div_add_mod (a % t.pitch) wordSize
  have hplace := Nat.div_add_mod a t.pitch
  refine ⟨?_, Nat.mod_lt _ (by decide)⟩
  unfold CursorTarget.address
  rw [Nat.mul_comm (a / t.pitch), Nat.mul_comm (a % t.pitch / wordSize), Nat.add_assoc, hword,
    hplace]

theorem markedPicture_byte (hpitch : t.width * wordSize ≤ t.pitch) (output : Memory) {x y k : Nat}
    (hx : x < t.width) (hy : y < t.height) (hk : k < wordSize) :
    markedPicture t output (t.address x y + k) =
      match t.mark x y with
      | none => output (t.address x y + k)
      | some color => (leBytes wordSize color).getD k 0 := by
  obtain ⟨hrow, hcolumn⟩ := address_byte hpitch y hx hk
  have hword : (x * wordSize + k) / wordSize = x := by
    unfold wordSize at *
    omega
  have hbyte : (x * wordSize + k) % wordSize = k := by
    unfold wordSize at *
    omega
  unfold markedPicture
  rw [hrow, hcolumn, hword, hbyte, if_pos ⟨hy, by unfold wordSize at *; omega⟩]

/-- **The memory behind the loops is the picture with the marks on it.** -/
theorem drawCursor_eq_some {output output' : Memory} (hmemory : t.InMemory)
    (h : drawCursor (some output) t = some output') :
    output' = markedPicture t output ∧ t.width * wordSize ≤ t.pitch ∧ t.centerX < t.width ∧
      t.centerY < t.height := by
  unfold drawCursor at h
  simp only [Option.bind_eq_bind, Option.bind_some] at h
  split at h
  · cases h
  split at h
  · cases h
  rename_i hsize haccept
  have hrow : t.width * wordSize % sizeRange = t.width * wordSize := by
    have hdiv : t.width * wordSize % sizeRange / wordSize = t.width := by omega
    have hle := Nat.mod_le (t.width * wordSize) sizeRange
    unfold wordSize at *
    omega
  rw [hrow] at haccept
  have hpitch : t.width * wordSize ≤ t.pitch := by omega
  refine ⟨?_, hpitch, by omega, by omega⟩
  obtain rfl := Option.some.inj h
  rw [drawCursor_eq_writeAll]
  have hcopied : Memory.Copied (markedPicture t output) (cursorCopies t) := by
    intro copy hcopy
    obtain ⟨x, y, color, hx, hy, hmark, rfl⟩ := (mem_cursorCopies hmemory copy).mp hcopy
    dsimp only
    rw [length_leBytes]
    refine (Memory.read_eq_of_getD (length_leBytes _ _) fun k hk => ?_).symm
    rw [markedPicture_byte hpitch output hx hy hk, hmark]
  funext a
  by_cases hinside : ∃ copy ∈ cursorCopies t, copy.1 ≤ a ∧ a < copy.1 + copy.2.length
  · exact Memory.writeAll_restores hcopied hinside
  · -- no mark covers the byte, so the picture has it as it was
    refine Memory.writeAll_keeps hcopied ?_
    unfold markedPicture
    split
    · rename_i hpixel
      cases hmark : t.mark (a % t.pitch / wordSize) (a / t.pitch) with
      | none => rfl
      | some color =>
        obtain ⟨haddress, hlt⟩ := address_of_byte t a
        refine absurd ⟨_, (mem_cursorCopies hmemory _).mpr ⟨_, _, color, ?_, hpixel.1, hmark, rfl⟩,
          ?_⟩ hinside
        · exact Nat.div_lt_of_lt_mul (by rw [Nat.mul_comm]; exact hpixel.2)
        · rw [length_leBytes]
          dsimp only
          omega
    · rfl

end Loops

/-- **Cursor drawing stays in its frame**: it changes bytes of pixels of the picture near the centre
only, no padding behind a row, puts the accent on the centre, and what it puts on a pixel, if
anything, is a function of the pixel's offset from the centre and the accent. -/
theorem drawCursor_frame {output output' : Memory} {t : CursorTarget} (hmemory : t.InMemory)
    (h : drawCursor (some output) t = some output') :
    (∀ a, output' a ≠ output a → ∃ x y, x < t.width ∧ y < t.height ∧
      ((x : Int) - t.centerX).natAbs ≤ 8 ∧ ((y : Int) - t.centerY).natAbs ≤ 8 ∧
      t.address x y ≤ a ∧ a < t.address x y + wordSize) ∧
    (∀ y < t.height, ∀ a, y * t.pitch + t.width * wordSize ≤ a → a < (y + 1) * t.pitch →
      output' a = output a) ∧
    output'.read (t.address t.centerX t.centerY) wordSize =
      leBytes wordSize (t.accent &&& 0x00ffffff#32) ∧
    ∀ x y, x < t.width → y < t.height → output'.read (t.address x y) wordSize =
      match cursorMark t.accent ((x : Int) - t.centerX) ((y : Int) - t.centerY) with
      | none => output.read (t.address x y) wordSize
      | some color => leBytes wordSize color := by
  obtain ⟨rfl, hpitch, hx, hy⟩ := drawCursor_eq_some hmemory h
  have hpixel (x y : Nat) (hx : x < t.width) (hy : y < t.height) :
      (markedPicture t output).read (t.address x y) wordSize =
        match cursorMark t.accent ((x : Int) - t.centerX) ((y : Int) - t.centerY) with
        | none => output.read (t.address x y) wordSize
        | some color => leBytes wordSize color := by
    have hbyte (k : Nat) (hk : k < wordSize) := markedPicture_byte hpitch output hx hy hk
    unfold CursorTarget.mark at hbyte
    cases hmark : cursorMark t.accent ((x : Int) - t.centerX) ((y : Int) - t.centerY) with
    | none =>
      refine Memory.read_congr fun a hfrom hto => ?_
      have hoffset : t.address x y + (a - t.address x y) = a := by omega
      rw [← hoffset, hbyte _ (by omega), hmark]
    | some color =>
      refine Memory.read_eq_of_getD (length_leBytes _ _) fun k hk => ?_
      rw [hbyte k hk, hmark]
  refine ⟨?_, ?_, ?_, hpixel⟩
  · intro a hchanged
    unfold markedPicture at hchanged
    split at hchanged
    · rename_i hinside
      obtain ⟨haddress, hlt⟩ := address_of_byte t a
      refine ⟨a % t.pitch / wordSize, a / t.pitch,
        Nat.div_lt_of_lt_mul (by rw [Nat.mul_comm]; exact hinside.2), hinside.1, ?_⟩
      by_cases hnear : ((a % t.pitch / wordSize : Nat) - (t.centerX : Int)).natAbs ≤ 8 ∧
          ((a / t.pitch : Nat) - (t.centerY : Int)).natAbs ≤ 8
      · exact ⟨hnear.1, hnear.2, by omega, by omega⟩
      · have hnone : t.mark (a % t.pitch / wordSize) (a / t.pitch) = none := if_neg hnear
        rw [hnone] at hchanged
        exact absurd rfl hchanged
    · exact absurd rfl hchanged
  · intro y _ a hfrom hto
    have hcolumn : a % t.pitch = a - y * t.pitch := by
      rw [Nat.succ_mul] at hto
      have hsplit : a = t.pitch * y + (a - y * t.pitch) := by
        rw [Nat.mul_comm t.pitch]
        omega
      conv_lhs => rw [hsplit]
      rw [Nat.mul_add_mod, Nat.mod_eq_of_lt (by omega)]
    refine if_neg fun hinside => ?_
    rw [hcolumn] at hinside
    omega
  · have hcenter := hpixel t.centerX t.centerY hx hy
    rwa [Int.sub_self, Int.sub_self, cursorMark_center] at hcenter

/-- A picture of two pixels, with a row of twelve bytes. -/
theorem drawCursor_frame_small :
    drawCursor (some fun _ => 7) ⟨2, 1, 12, 1, 0, 0xff123456#32⟩ ≠ none ∧
      ∀ output', drawCursor (some fun _ => 7) ⟨2, 1, 12, 1, 0, 0xff123456#32⟩ = some output' →
        output'.read 4 4 = leBytes 4 (0x00123456#32) ∧ output' 9 = 7 := by
  refine ⟨nofun, fun output' h => ?_⟩
  obtain ⟨-, hpadding, hcenter, -⟩ := drawCursor_frame (by unfold CursorTarget.InMemory; decide) h
  exact ⟨hcenter, hpadding 0 (by decide) 9 (by decide) (by decide)⟩

end DualBoy.Frontend
