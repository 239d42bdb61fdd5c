import DualBoy.Frontend.Cursor
import DualBoy.Frontend.TouchCursor
import DualBoy.Libretro.Pointer

/-!
# The picture the frontend is given

`publish_video_with_touch_cursors`: the composite as it is, or, when a touch cursor shows itself, a
copy of it with the cursors drawn on. `touchCursorMark` is what a machine's cursor leaves at a point,
if anything; the second player's cursor is drawn over the first's.

* `copyComposite_word`: the copy has the pixels of the composite, without what lies between its rows.
* `read_drawTouchCursor`: one cursor drawn, over any picture that fits the buffer.
* **`publishVideo_pixel`**, `publishVideo_apply`: the picture, point by point, and the buffer behind
  it.
-/

namespace DualBoy.Libretro

open DualBoy.Lib DualBoy.Frontend

/-! ## The source -/

/-- `DUALBOY_MAX_COMPOSITE_WIDTH`. -/
def maxCompositeWidth : Nat := 512

/-- `DUALBOY_MAX_COMPOSITE_HEIGHT`. -/
def maxCompositeHeight : Nat := 768

/-- `DUALBOY_PLAYER1_CURSOR_COLOR`, `DUALBOY_PLAYER2_CURSOR_COLOR`. -/
def cursorAccent (machine : Fin 2) : BitVec 32 :=
  if machine = 0 then 0x0000dfff#32 else 0x00ffb000#32

/-- What `publish_video_with_touch_cursors` works with: the session's composite and the display it
was composed for, the frames the engine has now, the cursors, and which machines a contact of the
pointer has been given. -/
structure Presentation where
  ndsSessionLoaded : Bool
  composite : VideoFrame
  display : CompositorConfig
  videoFrame : Fin 2 → Option VideoFrame
  touchCursors : Fin 2 → TouchCursor
  pointerAssigned : Fin 2 → Bool

namespace Presentation

/-- The composite is one that can be published. -/
def publishable (p : Presentation) : Bool :=
  p.composite.pixels.isSome && p.composite.width ≠ 0 && p.composite.height ≠ 0 &&
    p.composite.width ≤ maxCompositeWidth && p.composite.height ≤ maxCompositeHeight &&
    p.composite.width * wordSize ≤ p.composite.pitch

/-- `draw[machine]`, with `cursor_x` and `cursor_y`. -/
def cursorPoint (p : Presentation) (machine : Fin 2) : Option (Nat × Nat) := do
  if p.ndsSessionLoaded = false then none
  else
    let first ← p.videoFrame 0
    let second ← p.videoFrame 1
    let frames : Fin 2 → VideoFrame := fun machine => if machine = 0 then first else second
    if p.pointerAssigned machine = false ∧ (p.touchCursors machine).visible = true then
      projectPoint frames p.display machine.val (p.touchCursors machine).x
        (ndsScreenHeight + (p.touchCursors machine).y)
    else none

/-- The copy of the composite's rows to the presentation buffer. -/
def copyComposite (p : Presentation) (buffer : Memory) : Memory :=
  forRows p.composite.height (fun row => copyRow (row * p.composite.width) p.composite row) buffer

/-- Where a cursor is drawn on the copy. -/
def cursorTarget (p : Presentation) (machine : Fin 2) (centerX centerY : Nat) : CursorTarget where
  width := p.composite.width
  height := p.composite.height
  pitch := p.composite.width * wordSize
  centerX
  centerY
  accent := cursorAccent machine

/-- One turn of the loop that draws the cursors; what `dualboy_compositor_draw_cursor` answers is
not looked at. -/
def drawTouchCursor (p : Presentation) (machine : Fin 2) (buffer : Memory) : Memory :=
  match p.cursorPoint machine with
  | none => buffer
  | some (x, y) => (drawCursor (some buffer) (p.cursorTarget machine x y)).getD buffer

/-- `publish_video_with_touch_cursors`: the presentation buffer as it leaves it, and what it gives to
`core.video`. -/
def publishVideo (p : Presentation) (buffer : Memory) : Memory × Option VideoFrame :=
  if p.publishable = false then (buffer, none)
  else if (p.cursorPoint 0).isSome || (p.cursorPoint 1).isSome then
    let buffer := p.drawTouchCursor 1 (p.drawTouchCursor 0 (p.copyComposite buffer))
    (buffer, some { p.composite with
      pixels := some buffer, pitch := p.composite.width * wordSize })
  else (buffer, some p.composite)

/-! ## The copy -/

variable {p : Presentation} {machine : Fin 2}

/-- The mark a machine's cursor leaves at a point of the picture, if it is drawn. -/
def touchCursorMark (p : Presentation) (machine : Fin 2) (x y : Nat) : Option (BitVec 32) := do
  let (centerX, centerY) ← p.cursorPoint machine
  if centerX < p.composite.width ∧ centerY < p.composite.height then
    cursorMark (cursorAccent machine) ((x : Int) - centerX) ((y : Int) - centerY)
  else none

/-- What `publishable` says. -/
theorem publishable_iff : p.publishable = true ↔
    (∃ pixels, p.composite.pixels = some pixels) ∧ 0 < p.composite.width ∧
      0 < p.composite.height ∧ p.composite.width ≤ maxCompositeWidth ∧
      p.composite.height ≤ maxCompositeHeight ∧
      p.composite.width * wordSize ≤ p.composite.pitch := by
  simp only [publishable, Bool.and_eq_true, decide_eq_true_eq, Option.isSome_iff_exists,
    Nat.pos_iff_ne_zero, and_assoc, ne_eq]

/-- A picture that is published fits into memory. -/
theorem inMemory_cursorTarget (h : p.publishable = true) (machine : Fin 2) (x y : Nat) :
    (p.cursorTarget machine x y).InMemory := by
  obtain ⟨-, -, hheight, hwidth, hmax, -⟩ := publishable_iff.mp h
  unfold maxCompositeWidth at hwidth
  unfold maxCompositeHeight at hmax
  change (p.composite.height - 1) * (p.composite.width * wordSize) +
    p.composite.width * wordSize ≤ sizeRange
  have hrows : (p.composite.height - 1) * (p.composite.width * wordSize) +
      p.composite.width * wordSize = p.composite.height * (p.composite.width * wordSize) := by
    rw [← Nat.succ_mul, Nat.succ_eq_add_one, Nat.sub_add_cancel hheight]
  have hsize : p.composite.height * (p.composite.width * wordSize) ≤ 768 * (512 * wordSize) :=
    Nat.mul_le_mul hmax (Nat.mul_le_mul_right _ hwidth)
  have hrange : 768 * (512 * wordSize) ≤ sizeRange := by decide
  omega

/-- The bytes the copy leaves. -/
theorem copyComposite_apply (p : Presentation) (buffer : Memory) (a : Nat) :
    let size := p.composite.width * wordSize
    p.copyComposite buffer a =
      if a < p.composite.height * size then
        p.composite.bytes (a / size * p.composite.pitch + a % size)
      else buffer a := by
  intro size
  have hdestination : ∀ row < p.composite.height,
      row * p.composite.width = (row + 0) * p.composite.width := fun _ _ => rfl
  have hcopy := forRows_copyRow p.composite 0 hdestination buffer a
  dsimp only at hcopy
  unfold copyComposite
  rw [hcopy]
  simp only [Nat.zero_mul, Nat.zero_add, Nat.sub_zero, Nat.zero_le, true_and]
  rfl

/-- **A point of the copy is the point of the composite.** -/
theorem copyComposite_word (p : Presentation) (buffer : Memory) {x y : Nat}
    (hx : x < p.composite.width) (hy : y < p.composite.height) :
    (p.copyComposite buffer).read (y * (p.composite.width * wordSize) + x * wordSize) wordSize =
      p.composite.pixel x y := by
  unfold VideoFrame.pixel Memory.read
  refine List.map_congr_left fun k hk => ?_
  rw [List.mem_range] at hk
  let t := p.cursorTarget 0 0 0
  obtain ⟨hrow, hcolumn⟩ := address_byte (t := t) (Nat.le_refl _) y hx hk
  have hinside : y * (p.composite.width * wordSize) + x * wordSize + k <
      p.composite.height * (p.composite.width * wordSize) := by
    have hshort : x * wordSize + k < p.composite.width * wordSize := by
      unfold wordSize at *
      omega
    have hrows : (y + 1) * (p.composite.width * wordSize) ≤
        p.composite.height * (p.composite.width * wordSize) := Nat.mul_le_mul_right _ hy
    rw [Nat.succ_mul] at hrows
    omega
  rw [copyComposite_apply p buffer, if_pos hinside]
  change p.composite.bytes ((t.address x y + k) / t.pitch * p.composite.pitch +
    (t.address x y + k) % t.pitch) = p.composite.bytes (y * p.composite.pitch + x * wordSize + k)
  rw [hrow, hcolumn, Nat.add_assoc]

/-! ## The cursors -/

/-- The cursor is drawn when its centre is in the picture. -/
theorem drawCursor_isSome (h : p.publishable = true) (machine : Fin 2) (buffer : Memory)
    {x y : Nat} (hx : x < p.composite.width) (hy : y < p.composite.height) :
    (drawCursor (some buffer) (p.cursorTarget machine x y)).isSome = true := by
  obtain ⟨-, hwidth, hheight, hmax, -, -⟩ := publishable_iff.mp h
  have hrow : p.composite.width * wordSize % sizeRange = p.composite.width * wordSize := by
    refine Nat.mod_eq_of_lt (Nat.lt_of_le_of_lt (Nat.mul_le_mul_right _ hmax) ?_)
    decide
  have hempty :
      ¬((p.cursorTarget machine x y).width = 0 ∨ (p.cursorTarget machine x y).height = 0) := by
    change ¬(p.composite.width = 0 ∨ p.composite.height = 0)
    omega
  have haccepted : ¬((p.cursorTarget machine x y).width * wordSize % sizeRange / wordSize ≠
        (p.cursorTarget machine x y).width ∨
      (p.cursorTarget machine x y).pitch < (p.cursorTarget machine x y).width * wordSize % sizeRange ∨
      (p.cursorTarget machine x y).width ≤ (p.cursorTarget machine x y).centerX ∨
      (p.cursorTarget machine x y).height ≤ (p.cursorTarget machine x y).centerY) := by
    change ¬(p.composite.width * wordSize % sizeRange / wordSize ≠ p.composite.width ∨
      p.composite.width * wordSize < p.composite.width * wordSize % sizeRange ∨
      p.composite.width ≤ x ∨ p.composite.height ≤ y)
    rw [hrow]
    unfold wordSize
    omega
  unfold drawCursor
  simp only [Option.bind_eq_bind, Option.bind_some, if_neg hempty, if_neg haccepted]
  rfl

/-- **One cursor drawn.** -/
theorem read_drawTouchCursor (h : p.publishable = true) (machine : Fin 2) (buffer : Memory)
    {x y : Nat} (hx : x < p.composite.width) (hy : y < p.composite.height) :
    let address := y * (p.composite.width * wordSize) + x * wordSize
    (p.drawTouchCursor machine buffer).read address wordSize =
      (p.touchCursorMark machine x y).elim (buffer.read address wordSize) (leBytes wordSize) := by
  intro address
  unfold drawTouchCursor touchCursorMark
  cases hpoint : p.cursorPoint machine with
  | none => rfl
  | some point =>
    obtain ⟨centerX, centerY⟩ := point
    dsimp only [Option.bind_eq_bind, Option.bind_some]
    have hmemory := inMemory_cursorTarget h machine centerX centerY
    cases hdrawn : drawCursor (some buffer) (p.cursorTarget machine centerX centerY) with
    | none =>
      have houtside : ¬(centerX < p.composite.width ∧ centerY < p.composite.height) := by
        rintro ⟨hcx, hcy⟩
        have hsome := drawCursor_isSome h machine buffer hcx hcy
        rw [hdrawn] at hsome
        cases hsome
      rw [if_neg houtside]
      rfl
    | some output =>
      obtain ⟨rfl, hpitch, hcx, hcy⟩ := drawCursor_eq_some hmemory hdrawn
      have hbyte (k : Nat) (hk : k < wordSize) := markedPicture_byte hpitch buffer hx hy hk
      have hmark : (p.cursorTarget machine centerX centerY).mark x y =
          cursorMark (cursorAccent machine) ((x : Int) - centerX) ((y : Int) - centerY) := rfl
      rw [if_pos ⟨hcx, hcy⟩, Option.getD_some, ← hmark]
      cases hcolor : (p.cursorTarget machine centerX centerY).mark x y with
      | none =>
        refine Memory.read_congr fun a hfrom hto => ?_
        have hoffset : (p.cursorTarget machine centerX centerY).address x y + (a - address) = a := by
          change address + (a - address) = a
          omega
        rw [← hoffset, hbyte _ (by omega), hcolor]
      | some color =>
        refine Memory.read_eq_of_getD (length_leBytes _ _) fun k hk => ?_
        have hk' := hbyte k hk
        rw [hcolor] at hk'
        exact hk'

/-- Nothing is drawn behind the picture. -/
theorem drawTouchCursor_apply (h : p.publishable = true) (machine : Fin 2) (buffer : Memory) {a : Nat}
    (ha : p.composite.height * (p.composite.width * wordSize) ≤ a) :
    p.drawTouchCursor machine buffer a = buffer a := by
  unfold drawTouchCursor
  cases hpoint : p.cursorPoint machine with
  | none => rfl
  | some point =>
    obtain ⟨centerX, centerY⟩ := point
    dsimp only
    cases hdrawn : drawCursor (some buffer) (p.cursorTarget machine centerX centerY) with
    | none => rfl
    | some output =>
      obtain ⟨rfl, -⟩ := drawCursor_eq_some (inMemory_cursorTarget h machine centerX centerY) hdrawn
      refine if_neg fun hinside => ?_
      have hlt : a < p.composite.width * wordSize * p.composite.height := by
        have hpos : 0 < p.composite.width * wordSize := by
          have hlt : a % (p.composite.width * wordSize) < p.composite.width * wordSize := hinside.2
          omega
        exact Nat.lt_of_not_le fun hle => absurd hinside.1 (Nat.not_lt.mpr
          ((Nat.le_div_iff_mul_le hpos).mpr (by rwa [Nat.mul_comm])))
      rw [Nat.mul_comm] at hlt
      omega

/-! ## The picture -/

/-- The mark on a point of the picture: the second player's cursor lies over the first's. -/
def mark (p : Presentation) (x y : Nat) : Option (BitVec 32) :=
  (p.touchCursorMark 1 x y).or (p.touchCursorMark 0 x y)

theorem touchCursorMark_none (h : p.cursorPoint machine = none) (x y : Nat) :
    p.touchCursorMark machine x y = none := by
  unfold touchCursorMark
  rw [h]
  rfl

/-- Both cursors drawn on the copy. -/
theorem read_drawn (h : p.publishable = true) (buffer : Memory) {x y : Nat}
    (hx : x < p.composite.width) (hy : y < p.composite.height) :
    (p.drawTouchCursor 1 (p.drawTouchCursor 0 (p.copyComposite buffer))).read
        (y * (p.composite.width * wordSize) + x * wordSize) wordSize =
      (p.mark x y).elim (p.composite.pixel x y) (leBytes wordSize) := by
  have hcopy := copyComposite_word p buffer hx hy
  have hfirst := read_drawTouchCursor h 0 (p.copyComposite buffer) hx hy
  have hsecond := read_drawTouchCursor h 1 (p.drawTouchCursor 0 (p.copyComposite buffer)) hx hy
  dsimp only at hfirst hsecond
  rw [hcopy] at hfirst
  rw [hfirst] at hsecond
  rw [hsecond]
  unfold mark
  cases p.touchCursorMark 1 x y with
  | some color => rfl
  | none => rfl

/-- A picture without gaps in memory has the words of the memory. -/
theorem pixel_of_memory {width height x y : Nat} (hwidth : width ≤ maxCompositeWidth)
    (hheight : height ≤ maxCompositeHeight) (hx : x < width) (hy : y < height) (buffer : Memory) :
    VideoFrame.pixel { pixels := some buffer, width, height, pitch := width * wordSize } x y =
      buffer.read (y * (width * wordSize) + x * wordSize) wordSize := by
  refine Memory.read_congr fun a hfrom hto => ?_
  have hrow : y * (width * wordSize) ≤ 768 * (512 * wordSize) :=
    Nat.mul_le_mul (Nat.le_of_lt (Nat.lt_of_lt_of_le hy hheight)) (Nat.mul_le_mul_right _ hwidth)
  have hrange : 768 * (512 * wordSize) + (512 * wordSize + wordSize) ≤ sizeRange := by decide
  unfold VideoFrame.bytes
  unfold maxCompositeWidth at hwidth
  dsimp only at hto ⊢
  rw [Option.getD_some, Nat.mod_eq_of_lt]
  unfold wordSize at *
  omega

/-- **The picture, point by point**: it has the size of the composite, and at each point the mark of
a cursor or else the pixel of the composite. -/
theorem publishVideo_pixel {buffer : Memory} {picture : VideoFrame}
    (h : (p.publishVideo buffer).2 = some picture) :
    picture.width = p.composite.width ∧ picture.height = p.composite.height ∧
      ∀ x < p.composite.width, ∀ y < p.composite.height,
        picture.pixel x y = (p.mark x y).elim (p.composite.pixel x y) (leBytes wordSize) := by
  unfold publishVideo at h
  split at h
  · cases h
  rename_i hpublishable
  rw [Bool.not_eq_false] at hpublishable
  obtain ⟨-, -, -, hwidth, hheight, -⟩ := publishable_iff.mp hpublishable
  split at h
  · obtain rfl := Option.some.inj h
    refine ⟨rfl, rfl, fun x hx y hy => ?_⟩
    rw [← read_drawn hpublishable buffer hx hy]
    exact pixel_of_memory hwidth hheight hx hy _
  · rename_i hcursors
    obtain rfl := Option.some.inj h
    simp only [Bool.or_eq_true, not_or, Bool.not_eq_true, Option.isSome_eq_false_iff,
      Option.isNone_iff_eq_none] at hcursors
    refine ⟨rfl, rfl, fun x _ y _ => ?_⟩
    unfold mark
    rw [touchCursorMark_none hcursors.1, touchCursorMark_none hcursors.2]
    rfl

/-- The buffer behind the picture is left alone. -/
theorem publishVideo_apply (p : Presentation) (buffer : Memory) {a : Nat}
    (ha : p.composite.height * (p.composite.width * wordSize) ≤ a) :
    (p.publishVideo buffer).1 a = buffer a := by
  unfold publishVideo
  split
  · rfl
  rename_i hpublishable
  rw [Bool.not_eq_false] at hpublishable
  split
  · change p.drawTouchCursor 1 (p.drawTouchCursor 0 (p.copyComposite buffer)) a = buffer a
    rw [drawTouchCursor_apply hpublishable 1 _ ha, drawTouchCursor_apply hpublishable 0 _ ha]
    have hcopy := copyComposite_apply p buffer a
    dsimp only at hcopy
    rw [hcopy, if_neg (by omega)]
  · rfl

/-- A picture is published when there is a composite that fits. -/
theorem publishVideo_isSome (p : Presentation) (buffer : Memory) :
    (p.publishVideo buffer).2.isSome = p.publishable := by
  unfold publishVideo
  split
  · rename_i hpublishable
    exact hpublishable.symm
  · rename_i hpublishable
    rw [Bool.not_eq_false] at hpublishable
    rw [hpublishable]
    split
    · rfl
    · rfl

end Presentation

end DualBoy.Libretro
