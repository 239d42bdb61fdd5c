import DualBoy.Engine
import DualBoy.Lib.Rows

/-!
# The compositor

The picture of the frontend: the frames of the two machines side by side, one above the other, or
one of them alone (`compositor.c`). `Shows` says which pixel of which machine a point of the picture
is; the forward map, the inverse map and the copy of the pixels are each shown to follow it.

* `mapPoint_eq_some`, `projectPoint_eq_some`: both maps are `Shows`, read in either direction.
* `exists_shows`, `shows_pixel`: every point shows a pixel, and every displayed pixel is shown once.
* `composeRows_word`: the copy puts the bytes of the pixel that is shown.
* **`compositor_geometry_laws`**.
-/

namespace DualBoy.Frontend

open DualBoy.Lib

/-! ## Frames -/

/-- The values of an `unsigned`. -/
def unsignedRange : Nat := 2 ^ 32

/-- The values of a `size_t`, and the addresses. -/
def sizeRange : Nat := 2 ^ 64

/-- The bytes of a `uint32_t`. -/
def wordSize : Nat := 4

/-- `struct dualboy_video_frame`; `pixels` is the memory from the pointer on, by byte. -/
structure VideoFrame where
  pixels : Option Memory
  width : Nat
  height : Nat
  pitch : Nat

/-- The bytes behind the pointer. Addresses wrap as the offsets do. -/
def VideoFrame.bytes (frame : VideoFrame) : Memory := fun offset =>
  (frame.pixels.getD fun _ => 0) (offset % sizeRange)

/-- The pixel of a frame, as the bytes of its word. -/
def VideoFrame.pixel (frame : VideoFrame) (x y : Nat) : List Byte :=
  frame.bytes.read (y * frame.pitch + x * wordSize) wordSize

/-- `enum dualboy_display_mode`. -/
inductive DisplayMode where
  | dual
  | player1
  | player2
  deriving DecidableEq, Repr

/-- `enum dualboy_layout`. -/
inductive Layout where
  | sideBySide
  | topBottom
  deriving DecidableEq, Repr

/-- `struct dualboy_compositor_config`. -/
structure CompositorConfig where
  mode : DisplayMode
  layout : Layout
  swapScreens : Bool
  deriving DecidableEq, Repr

/-- `struct dualboy_geometry`, without the aspect ratio. -/
structure Geometry where
  width : Nat
  height : Nat
  deriving DecidableEq, Repr

/-- `frames[machine]`, for a machine there is. -/
def frameOf (frames : Fin 2 → VideoFrame) (machine : Nat) : VideoFrame :=
  frames (Fin.ofNat 2 machine)

/-! ## The source -/

/-- `dualboy_machine_for_screen`. -/
def machineForScreen (screen : Nat) (swapScreens : Bool) : Nat :=
  if 2 ≤ screen then 2 else if swapScreens then 2 - 1 - screen else screen

/-- `valid_frame`. -/
def validFrame (frame : VideoFrame) : Bool :=
  frame.pixels.isSome && 0 < frame.width && 0 < frame.height &&
    frame.width * wordSize ≤ frame.pitch

/-- `selected_machine`. -/
def selectedMachine (config : CompositorConfig) : Nat :=
  if config.mode = .player2 then 1 else 0

/-- `screen_for_machine`. -/
def screenForMachine (machine : Nat) (swapScreens : Bool) : Nat :=
  if 2 ≤ machine then 2 else if swapScreens then 2 - 1 - machine else machine

/-- `dualboy_compositor_geometry`. -/
def compositorGeometry (frames : Fin 2 → VideoFrame) (config : CompositorConfig) :
    Option Geometry :=
  if ¬(validFrame (frames 0) ∧ validFrame (frames 1)) then none
  else if config.mode ≠ .dual then
    let first := frameOf frames (selectedMachine config)
    some { width := first.width, height := first.height }
  else
    let first := frameOf frames (machineForScreen 0 config.swapScreens)
    let second := frameOf frames (machineForScreen 1 config.swapScreens)
    if first.width ≠ second.width ∨ first.height ≠ second.height then none
    else if config.layout = .topBottom then
      some { width := first.width, height := (first.height + second.height) % unsignedRange }
    else some { width := (first.width + second.width) % unsignedRange, height := first.height }

/-- `dualboy_compositor_map_point`. -/
def mapPoint (frames : Fin 2 → VideoFrame) (config : CompositorConfig)
    (compositeX compositeY : Nat) : Option (Nat × Nat × Nat) := do
  let geometry ← compositorGeometry frames config
  if geometry.width ≤ compositeX ∨ geometry.height ≤ compositeY then none
  else
    let first := frameOf frames (machineForScreen 0 config.swapScreens)
    let (machine, localX, localY) :=
      if config.mode = .player1 then (0, compositeX, compositeY)
      else if config.mode = .player2 then (1, compositeX, compositeY)
      else if config.layout = .topBottom then
        if first.height ≤ compositeY then
          (machineForScreen 1 config.swapScreens, compositeX, compositeY - first.height)
        else (machineForScreen 0 config.swapScreens, compositeX, compositeY)
      else if first.width ≤ compositeX then
        (machineForScreen 1 config.swapScreens, compositeX - first.width, compositeY)
      else (machineForScreen 0 config.swapScreens, compositeX, compositeY)
    if 2 ≤ machine ∨ (frameOf frames machine).width ≤ localX ∨
        (frameOf frames machine).height ≤ localY then none
    else some (machine, localX, localY)

/-- `dualboy_compositor_project_point`. -/
def projectPoint (frames : Fin 2 → VideoFrame) (config : CompositorConfig)
    (machine machineX machineY : Nat) : Option (Nat × Nat) :=
  if 2 ≤ machine then none
  else do
    let geometry ← compositorGeometry frames config
    if (config.mode = .player1 ∧ machine ≠ 0) ∨ (config.mode = .player2 ∧ machine ≠ 1) then none
    else if (frameOf frames machine).width ≤ machineX ∨
        (frameOf frames machine).height ≤ machineY then none
    else
      let first := frameOf frames (machineForScreen 0 config.swapScreens)
      let (x, y) :=
        if config.mode = .dual ∧ screenForMachine machine config.swapScreens = 1 then
          if config.layout = .topBottom then
            (machineX, (machineY + first.height) % unsignedRange)
          else ((machineX + first.width) % unsignedRange, machineY)
        else (machineX, machineY)
      if geometry.width ≤ x ∨ geometry.height ≤ y then none else some (x, y)

/-- `copy_row`, to a word of the output. -/
def copyRow (destination : Nat) (source : VideoFrame) (row : Nat) (output : Memory) : Memory :=
  output.write (destination * wordSize)
    (source.bytes.read (row * source.pitch % sizeRange) (source.width * wordSize))

/-- The loops of `dualboy_compose_frame`. -/
def composeRows (frames : Fin 2 → VideoFrame) (config : CompositorConfig) (geometry : Geometry)
    (output : Memory) : Memory :=
  let first := frameOf frames (machineForScreen 0 config.swapScreens)
  let second := frameOf frames (machineForScreen 1 config.swapScreens)
  if config.mode ≠ .dual then
    let selected := frameOf frames (selectedMachine config)
    forRows selected.height (fun row => copyRow (row * geometry.width) selected row) output
  else if config.layout = .topBottom then
    forRows second.height
      (fun row => copyRow ((row + first.height) % unsignedRange * geometry.width) second row)
      (forRows first.height (fun row => copyRow (row * geometry.width) first row) output)
  else
    forRows geometry.height
      (fun row output =>
        let destination := row * geometry.width
        copyRow (destination + first.width) second row (copyRow destination first row output))
      output

/-- `dualboy_compose_frame`: the output, and the composite that points to it. -/
def composeFrame (output : Memory) (outputPixels : Nat) (frames : Fin 2 → VideoFrame)
    (config : CompositorConfig) : Option (Memory × VideoFrame) := do
  let geometry ← compositorGeometry frames config
  if outputPixels < geometry.width * geometry.height then none
  else
    let output := composeRows frames config geometry output
    some (output, { pixels := some output, width := geometry.width, height := geometry.height
                    pitch := geometry.width * wordSize })

/-! ## The picture -/

/-- The widths of the frames together, and their heights, are values of an `unsigned`. -/
def Fits (frames : Fin 2 → VideoFrame) : Prop :=
  (frames 0).width + (frames 1).width < unsignedRange ∧
    (frames 0).height + (frames 1).height < unsignedRange

/-- The machines in the picture. -/
def Displayed (config : CompositorConfig) (machine : Nat) : Prop :=
  machine < 2 ∧ (config.mode = .dual ∨ machine = selectedMachine config)

/-- Where a machine's frame begins in the picture. -/
def origin (frames : Fin 2 → VideoFrame) (config : CompositorConfig) (machine : Nat) : Nat × Nat :=
  let first := frameOf frames (machineForScreen 0 config.swapScreens)
  if config.mode = .dual ∧ machine = machineForScreen 1 config.swapScreens then
    if config.layout = .topBottom then (0, first.height) else (first.width, 0)
  else (0, 0)

/-- The pixel of a machine is what the picture has at a point. -/
structure Shows (frames : Fin 2 → VideoFrame) (config : CompositorConfig)
    (machine machineX machineY x y : Nat) : Prop where
  displayed : Displayed config machine
  column : machineX < (frameOf frames machine).width
  row : machineY < (frameOf frames machine).height
  across : x = (origin frames config machine).1 + machineX
  down : y = (origin frames config machine).2 + machineY

section Picture

variable {frames : Fin 2 → VideoFrame} {config : CompositorConfig} {geometry : Geometry}

/-- The screens show the machines, each one. -/
theorem machineForScreen_cases (swapScreens : Bool) :
    machineForScreen 0 swapScreens < 2 ∧ machineForScreen 1 swapScreens < 2 ∧
      machineForScreen 0 swapScreens ≠ machineForScreen 1 swapScreens ∧
      ∀ machine < 2, (machine = machineForScreen 0 swapScreens ∨
        machine = machineForScreen 1 swapScreens) ∧
        (screenForMachine machine swapScreens = 1 ↔ machine = machineForScreen 1 swapScreens) := by
  cases swapScreens <;> decide

theorem selectedMachine_lt (config : CompositorConfig) : selectedMachine config < 2 := by
  unfold selectedMachine
  split <;> decide

theorem Fits.screens (h : Fits frames) (swapScreens : Bool) :
    (frameOf frames (machineForScreen 0 swapScreens)).width +
        (frameOf frames (machineForScreen 1 swapScreens)).width < unsignedRange ∧
      (frameOf frames (machineForScreen 0 swapScreens)).height +
        (frameOf frames (machineForScreen 1 swapScreens)).height < unsignedRange := by
  cases swapScreens with
  | false => exact h
  | true =>
    obtain ⟨hwidth, hheight⟩ := h
    rw [Nat.add_comm] at hwidth hheight
    exact ⟨hwidth, hheight⟩

/-- What an accepted geometry is, for each kind of picture. -/
theorem compositorGeometry_cases (hfits : Fits frames)
    (hg : compositorGeometry frames config = some geometry) :
    let first := frameOf frames (machineForScreen 0 config.swapScreens)
    let second := frameOf frames (machineForScreen 1 config.swapScreens)
    let selected := frameOf frames (selectedMachine config)
    config.mode ≠ .dual ∧ geometry = { width := selected.width, height := selected.height } ∨
      config.mode = .dual ∧ (first.width = second.width ∧ first.height = second.height) ∧
        (config.layout = .topBottom ∧
          geometry = { width := first.width, height := first.height + second.height } ∨
        config.layout ≠ .topBottom ∧
          geometry = { width := first.width + second.width, height := first.height }) := by
  obtain ⟨hwidth, hheight⟩ := hfits.screens config.swapScreens
  unfold compositorGeometry at hg
  dsimp only at hg ⊢
  by_cases hvalid : ¬(validFrame (frames 0) ∧ validFrame (frames 1))
  · rw [if_pos hvalid] at hg
    exact absurd hg (by simp)
  · rw [if_neg hvalid] at hg
    by_cases hmode : config.mode ≠ .dual
    · rw [if_pos hmode] at hg
      exact Or.inl ⟨hmode, (Option.some.inj hg).symm⟩
    · rw [if_neg hmode] at hg
      by_cases hsize : (frameOf frames (machineForScreen 0 config.swapScreens)).width ≠
            (frameOf frames (machineForScreen 1 config.swapScreens)).width ∨
          (frameOf frames (machineForScreen 0 config.swapScreens)).height ≠
            (frameOf frames (machineForScreen 1 config.swapScreens)).height
      · rw [if_pos hsize] at hg
        exact absurd hg (by simp)
      · rw [if_neg hsize] at hg
        refine Or.inr ⟨not_not.mp hmode, by omega, ?_⟩
        by_cases hlayout : config.layout = .topBottom
        · rw [if_pos hlayout, Nat.mod_eq_of_lt hheight] at hg
          exact Or.inl ⟨hlayout, (Option.some.inj hg).symm⟩
        · rw [if_neg hlayout, Nat.mod_eq_of_lt hwidth] at hg
          exact Or.inr ⟨hlayout, (Option.some.inj hg).symm⟩

/-- A machine displayed alone begins where the picture does. -/
theorem origin_alone (hmode : config.mode ≠ .dual) (machine : Nat) :
    origin frames config machine = (0, 0) :=
  if_neg fun h => hmode h.1

theorem origin_first :
    origin frames config (machineForScreen 0 config.swapScreens) = (0, 0) := by
  obtain ⟨-, -, hne, -⟩ := machineForScreen_cases config.swapScreens
  exact if_neg fun h => hne h.2

theorem origin_second (hmode : config.mode = .dual) :
    origin frames config (machineForScreen 1 config.swapScreens) =
      if config.layout = .topBottom then
        (0, (frameOf frames (machineForScreen 0 config.swapScreens)).height)
      else ((frameOf frames (machineForScreen 0 config.swapScreens)).width, 0) :=
  if_pos ⟨hmode, rfl⟩

/-- The forward map, of a machine displayed alone. -/
theorem mapPoint_alone (hmode : config.mode ≠ .dual)
    (hg : compositorGeometry frames config = some geometry) (x y : Nat) :
    mapPoint frames config x y =
      if geometry.width ≤ x ∨ geometry.height ≤ y then none
      else if 2 ≤ selectedMachine config ∨
          (frameOf frames (selectedMachine config)).width ≤ x ∨
          (frameOf frames (selectedMachine config)).height ≤ y then none
      else some (selectedMachine config, x, y) := by
  unfold mapPoint
  rw [hg]
  rcases config with ⟨mode, layout, swapScreens⟩
  cases mode with
  | dual => exact absurd rfl hmode
  | player1 => rfl
  | player2 => rfl

/-- The forward map, of the two machines. -/
theorem mapPoint_dual (hmode : config.mode = .dual)
    (hg : compositorGeometry frames config = some geometry) (x y : Nat) :
    mapPoint frames config x y =
      let first := frameOf frames (machineForScreen 0 config.swapScreens)
      let p :=
        if config.layout = .topBottom then
          if first.height ≤ y then (machineForScreen 1 config.swapScreens, x, y - first.height)
          else (machineForScreen 0 config.swapScreens, x, y)
        else if first.width ≤ x then (machineForScreen 1 config.swapScreens, x - first.width, y)
          else (machineForScreen 0 config.swapScreens, x, y)
      if geometry.width ≤ x ∨ geometry.height ≤ y then none
      else if 2 ≤ p.1 ∨ (frameOf frames p.1).width ≤ p.2.1 ∨ (frameOf frames p.1).height ≤ p.2.2
      then none
      else some p := by
  unfold mapPoint
  rw [hg]
  rcases config with ⟨mode, layout, swapScreens⟩
  obtain rfl : mode = .dual := hmode
  rfl

/-- **The forward map gives the pixel that is shown.** -/
theorem mapPoint_eq_some (hfits : Fits frames)
    (hg : compositorGeometry frames config = some geometry) {machine machineX machineY x y : Nat} :
    mapPoint frames config x y = some (machine, machineX, machineY) ↔
      Shows frames config machine machineX machineY x y := by
  obtain ⟨h0, h1, hne, hall⟩ := machineForScreen_cases config.swapScreens
  rcases compositorGeometry_cases hfits hg with
    ⟨hmode, hgeometry⟩ | ⟨hmode, ⟨hwidth, hheight⟩, ⟨hlayout, hgeometry⟩ | ⟨hlayout, hgeometry⟩⟩
  · rw [mapPoint_alone hmode hg, hgeometry]
    simp only [Option.ite_none_left_eq_some, Option.some.injEq, Prod.mk.injEq]
    constructor
    · rintro ⟨hin, hlocal, rfl, rfl, rfl⟩
      refine ⟨⟨selectedMachine_lt config, Or.inr rfl⟩, by omega, by omega, ?_, ?_⟩
      · rw [origin_alone hmode, Nat.zero_add]
      · rw [origin_alone hmode, Nat.zero_add]
    · rintro ⟨⟨hlt, hselected⟩, hcolumn, hrow, hacross, hdown⟩
      obtain rfl := hselected.resolve_left hmode
      rw [origin_alone hmode, Nat.zero_add] at hacross hdown
      exact ⟨by omega, by omega, rfl, hacross, hdown⟩
  · rw [mapPoint_dual hmode hg, hgeometry]
    simp only [if_pos hlayout, Option.ite_none_left_eq_some, Option.some.injEq]
    constructor
    · rintro ⟨hin, hlocal, hp⟩
      by_cases hsecond : (frameOf frames (machineForScreen 0 config.swapScreens)).height ≤ y
      · simp only [if_pos hsecond, Prod.mk.injEq] at hlocal hp
        obtain ⟨rfl, rfl, rfl⟩ := hp
        refine ⟨⟨h1, Or.inl hmode⟩, by omega, by omega, ?_, ?_⟩
        · rw [origin_second hmode, if_pos hlayout, Nat.zero_add]
        · rw [origin_second hmode, if_pos hlayout]
          omega
      · simp only [if_neg hsecond, Prod.mk.injEq] at hlocal hp
        obtain ⟨rfl, rfl, rfl⟩ := hp
        refine ⟨⟨h0, Or.inl hmode⟩, by omega, by omega, ?_, ?_⟩
        · rw [origin_first, Nat.zero_add]
        · rw [origin_first, Nat.zero_add]
    · rintro ⟨⟨hlt, -⟩, hcolumn, hrow, hacross, hdown⟩
      rcases (hall machine hlt).1 with rfl | rfl
      · rw [origin_first, Nat.zero_add] at hacross hdown
        rw [if_neg (by omega)]
        dsimp only
        exact ⟨by omega, by omega, by rw [hacross, hdown]⟩
      · rw [origin_second hmode, if_pos hlayout] at hacross hdown
        rw [if_pos (by omega)]
        dsimp only at hacross hdown ⊢
        exact ⟨by omega, by omega, by rw [hacross, hdown, Nat.zero_add, Nat.add_sub_cancel_left]⟩
  · rw [mapPoint_dual hmode hg, hgeometry]
    simp only [if_neg hlayout, Option.ite_none_left_eq_some, Option.some.injEq]
    constructor
    · rintro ⟨hin, hlocal, hp⟩
      by_cases hsecond : (frameOf frames (machineForScreen 0 config.swapScreens)).width ≤ x
      · simp only [if_pos hsecond, Prod.mk.injEq] at hlocal hp
        obtain ⟨rfl, rfl, rfl⟩ := hp
        refine ⟨⟨h1, Or.inl hmode⟩, by omega, by omega, ?_, ?_⟩
        · rw [origin_second hmode, if_neg hlayout]
          omega
        · rw [origin_second hmode, if_neg hlayout, Nat.zero_add]
      · simp only [if_neg hsecond, Prod.mk.injEq] at hlocal hp
        obtain ⟨rfl, rfl, rfl⟩ := hp
        refine ⟨⟨h0, Or.inl hmode⟩, by omega, by omega, ?_, ?_⟩
        · rw [origin_first, Nat.zero_add]
        · rw [origin_first, Nat.zero_add]
    · rintro ⟨⟨hlt, -⟩, hcolumn, hrow, hacross, hdown⟩
      rcases (hall machine hlt).1 with rfl | rfl
      · rw [origin_first, Nat.zero_add] at hacross hdown
        rw [if_neg (by omega)]
        dsimp only
        exact ⟨by omega, by omega, by rw [hacross, hdown]⟩
      · rw [origin_second hmode, if_neg hlayout] at hacross hdown
        rw [if_pos (by omega)]
        dsimp only at hacross hdown ⊢
        exact ⟨by omega, by omega, by rw [hacross, hdown, Nat.zero_add, Nat.add_sub_cancel_left]⟩

/-- What is shown is shown in the picture. -/
theorem Shows.inside (hfits : Fits frames)
    (hg : compositorGeometry frames config = some geometry) {machine machineX machineY x y : Nat}
    (h : Shows frames config machine machineX machineY x y) :
    x < geometry.width ∧ y < geometry.height := by
  have hmap := (mapPoint_eq_some hfits hg).mpr h
  unfold mapPoint at hmap
  rw [hg, Option.bind_eq_bind, Option.bind_some, Option.ite_none_left_eq_some] at hmap
  omega

theorem displayed_iff {machine : Nat} (hlt : machine < 2) :
    Displayed config machine ↔
      ¬(config.mode = .player1 ∧ machine ≠ 0 ∨ config.mode = .player2 ∧ machine ≠ 1) := by
  rcases config with ⟨mode, layout, swapScreens⟩
  cases mode <;> simp [Displayed, selectedMachine, hlt]

/-- The point the inverse map computes. -/
theorem projected_eq (hfits : Fits frames) {machine machineX machineY : Nat} (hlt : machine < 2)
    (hcolumn : machineX < (frameOf frames machine).width)
    (hrow : machineY < (frameOf frames machine).height) :
    (if config.mode = .dual ∧ screenForMachine machine config.swapScreens = 1 then
      if config.layout = .topBottom then
        (machineX, (machineY + (frameOf frames
          (machineForScreen 0 config.swapScreens)).height) % unsignedRange)
      else ((machineX + (frameOf frames
          (machineForScreen 0 config.swapScreens)).width) % unsignedRange, machineY)
    else (machineX, machineY)) =
      ((origin frames config machine).1 + machineX, (origin frames config machine).2 + machineY) := by
  obtain ⟨-, -, -, hall⟩ := machineForScreen_cases config.swapScreens
  obtain ⟨hwidth, hheight⟩ := hfits.screens config.swapScreens
  by_cases hsecond : config.mode = .dual ∧ screenForMachine machine config.swapScreens = 1
  · obtain ⟨hmode, hscreen⟩ := hsecond
    obtain rfl := (hall machine hlt).2.mp hscreen
    rw [if_pos ⟨hmode, hscreen⟩, origin_second hmode]
    by_cases hlayout : config.layout = .topBottom
    · rw [if_pos hlayout, if_pos hlayout, Nat.mod_eq_of_lt (by omega), Nat.zero_add, Nat.add_comm]
    · rw [if_neg hlayout, if_neg hlayout, Nat.mod_eq_of_lt (by omega), Nat.zero_add, Nat.add_comm]
  · have horigin : origin frames config machine = (0, 0) :=
      if_neg fun h => hsecond ⟨h.1, (hall machine hlt).2.mpr h.2⟩
    rw [if_neg hsecond, horigin, Nat.zero_add, Nat.zero_add]

/-- **The inverse map gives the point that shows a pixel.** -/
theorem projectPoint_eq_some (hfits : Fits frames)
    (hg : compositorGeometry frames config = some geometry) {machine machineX machineY x y : Nat} :
    projectPoint frames config machine machineX machineY = some (x, y) ↔
      Shows frames config machine machineX machineY x y := by
  unfold projectPoint
  rw [hg, Option.bind_eq_bind, Option.bind_some]
  simp only [Option.ite_none_left_eq_some, Option.some.injEq]
  constructor
  · rintro ⟨hlt, hmode, hinside, -, hpoint⟩
    rw [projected_eq hfits (by omega) (by omega) (by omega), Prod.mk.injEq] at hpoint
    exact ⟨(displayed_iff (by omega)).mpr hmode, by omega, by omega, hpoint.1.symm, hpoint.2.symm⟩
  · intro h
    have hlt : machine < 2 := h.displayed.1
    rw [projected_eq hfits hlt h.column h.row]
    obtain ⟨hx, hy⟩ := h.inside hfits hg
    have hacross := h.across
    have hdown := h.down
    refine ⟨by omega, (displayed_iff hlt).mp h.displayed, ?_, ?_, ?_⟩
    · have hcolumn := h.column
      have hrow := h.row
      omega
    · dsimp only
      omega
    · rw [hacross, hdown]

/-! ## One pixel for each point -/

/-- A displayed pixel is shown at one point. -/
theorem shows_pixel {machine machineX machineY : Nat} (hdisplayed : Displayed config machine)
    (hcolumn : machineX < (frameOf frames machine).width)
    (hrow : machineY < (frameOf frames machine).height) :
    ∃! point : Nat × Nat, Shows frames config machine machineX machineY point.1 point.2 := by
  refine ⟨((origin frames config machine).1 + machineX, (origin frames config machine).2 + machineY),
    ⟨hdisplayed, hcolumn, hrow, rfl, rfl⟩, ?_⟩
  rintro ⟨x, y⟩ h
  rw [Prod.mk.injEq]
  exact ⟨h.across, h.down⟩

/-- The machines cover the picture. -/
theorem exists_shows (hfits : Fits frames)
    (hg : compositorGeometry frames config = some geometry) {x y : Nat}
    (hx : x < geometry.width) (hy : y < geometry.height) :
    ∃ machine machineX machineY, Shows frames config machine machineX machineY x y := by
  obtain ⟨h0, h1, -, -⟩ := machineForScreen_cases config.swapScreens
  rcases compositorGeometry_cases hfits hg with
    ⟨hmode, rfl⟩ | ⟨hmode, ⟨hwidth, hheight⟩, ⟨hlayout, rfl⟩ | ⟨hlayout, rfl⟩⟩
  · refine ⟨selectedMachine config, x, y, ⟨selectedMachine_lt config, Or.inr rfl⟩, hx, hy, ?_, ?_⟩
    · rw [origin_alone hmode, Nat.zero_add]
    · rw [origin_alone hmode, Nat.zero_add]
  · dsimp only at hx hy
    by_cases hsecond : (frameOf frames (machineForScreen 0 config.swapScreens)).height ≤ y
    · refine ⟨machineForScreen 1 config.swapScreens, x,
        y - (frameOf frames (machineForScreen 0 config.swapScreens)).height,
        ⟨h1, Or.inl hmode⟩, by omega, by omega, ?_, ?_⟩
      · rw [origin_second hmode, if_pos hlayout, Nat.zero_add]
      · rw [origin_second hmode, if_pos hlayout]
        omega
    · refine ⟨machineForScreen 0 config.swapScreens, x, y, ⟨h0, Or.inl hmode⟩, hx, by omega, ?_, ?_⟩
      · rw [origin_first, Nat.zero_add]
      · rw [origin_first, Nat.zero_add]
  · dsimp only at hx hy
    by_cases hsecond : (frameOf frames (machineForScreen 0 config.swapScreens)).width ≤ x
    · refine ⟨machineForScreen 1 config.swapScreens,
        x - (frameOf frames (machineForScreen 0 config.swapScreens)).width, y,
        ⟨h1, Or.inl hmode⟩, by omega, by omega, ?_, ?_⟩
      · rw [origin_second hmode, if_neg hlayout]
        omega
      · rw [origin_second hmode, if_neg hlayout, Nat.zero_add]
    · refine ⟨machineForScreen 0 config.swapScreens, x, y, ⟨h0, Or.inl hmode⟩, by omega, hy, ?_, ?_⟩
      · rw [origin_first, Nat.zero_add]
      · rw [origin_first, Nat.zero_add]

/-! ## The copy -/

/-- A copied row is a row of the frame's pixels. -/
theorem fillsRow_copyRow (destination : Nat) (source : VideoFrame) (row : Nat) :
    FillsRow (copyRow destination source row) (destination * wordSize) (source.width * wordSize)
      (fun i => source.bytes (row * source.pitch + i)) := by
  have h := fillsRow_write source.bytes (destination * wordSize) (row * source.pitch % sizeRange)
    (source.width * wordSize)
  have hbytes (i : Nat) : source.bytes (row * source.pitch % sizeRange + i) =
      source.bytes (row * source.pitch + i) := by
    unfold VideoFrame.bytes
    rw [Nat.mod_add_mod]
  simp only [hbytes] at h
  exact h

/-- A byte of the picture, as the rows of the copy have it. -/
def pictureByte (frames : Fin 2 → VideoFrame) (config : CompositorConfig) (row i : Nat) : Byte :=
  let first := frameOf frames (machineForScreen 0 config.swapScreens)
  let second := frameOf frames (machineForScreen 1 config.swapScreens)
  let selected := frameOf frames (selectedMachine config)
  if config.mode ≠ .dual then selected.bytes (row * selected.pitch + i)
  else if config.layout = .topBottom then
    if row < first.height then first.bytes (row * first.pitch + i)
    else second.bytes ((row - first.height) * second.pitch + i)
  else if i < first.width * wordSize then first.bytes (row * first.pitch + i)
  else second.bytes (row * second.pitch + (i - first.width * wordSize))

/-- A loop that copies the rows of one frame to rows of its width. -/
theorem forRows_copyRow (source : VideoFrame) (top : Nat) {destination : Nat → Nat}
    (hdestination : ∀ row < source.height, destination row = (row + top) * source.width)
    (output : Memory) (a : Nat) :
    let size := source.width * wordSize
    forRows source.height (fun row => copyRow (destination row) source row) output a =
      if top * size ≤ a ∧ a < top * size + source.height * size then
        source.bytes ((a - top * size) / size * source.pitch + (a - top * size) % size)
      else output a := by
  intro size
  refine forRows_apply (fun row i => source.bytes (row * source.pitch + i)) ?_ output a
  intro row hrow
  have haddress : destination row * wordSize = top * size + row * size := by
    rw [hdestination row hrow, Nat.mul_assoc, Nat.add_mul, Nat.add_comm]
  rw [← haddress]
  exact fillsRow_copyRow (destination row) source row

/-- **What the copy leaves**: the rows of the picture, and behind them what was there. -/
theorem composeRows_apply (hfits : Fits frames)
    (hg : compositorGeometry frames config = some geometry) (output : Memory) (a : Nat) :
    composeRows frames config geometry output a =
      if a < geometry.height * (geometry.width * wordSize) then
        pictureByte frames config (a / (geometry.width * wordSize)) (a % (geometry.width * wordSize))
      else output a := by
  obtain ⟨-, hheights⟩ := hfits.screens config.swapScreens
  unfold composeRows pictureByte
  dsimp only
  rcases compositorGeometry_cases hfits hg with
    ⟨hmode, rfl⟩ | ⟨hmode, ⟨hwidth, hheight⟩, ⟨hlayout, rfl⟩ | ⟨hlayout, rfl⟩⟩
  · set selected := frameOf frames (selectedMachine config)
    have hdestination : ∀ row < selected.height, row * selected.width = (row + 0) * selected.width :=
      fun _ _ => rfl
    rw [if_pos hmode, if_pos hmode, forRows_copyRow selected 0 hdestination]
    simp only [Nat.zero_mul, Nat.zero_add, Nat.sub_zero, Nat.zero_le, true_and]
  · rw [if_neg (not_not.mpr hmode), if_pos hlayout, if_neg (not_not.mpr hmode), if_pos hlayout]
    set first := frameOf frames (machineForScreen 0 config.swapScreens)
    set second := frameOf frames (machineForScreen 1 config.swapScreens)
    have hdestination : ∀ row < second.height,
        (row + first.height) % unsignedRange * first.width = (row + first.height) * second.width := by
      intro row hrow
      rw [Nat.mod_eq_of_lt (by omega), hwidth]
    have hdestination' : ∀ row < first.height, row * first.width = (row + 0) * first.width :=
      fun _ _ => rfl
    dsimp only
    rw [forRows_copyRow second first.height hdestination, forRows_copyRow first 0 hdestination',
      ← hwidth]
    simp only [Nat.zero_mul, Nat.zero_add, Nat.sub_zero, Nat.zero_le, true_and]
    set size := first.width * wordSize
    have htotal : (first.height + second.height) * size =
        first.height * size + second.height * size := Nat.add_mul _ _ _
    by_cases habove : a < first.height * size
    · have hrow : a / size < first.height := Nat.div_lt_of_lt_mul (by rwa [Nat.mul_comm])
      rw [if_neg (by omega), if_pos habove, if_pos (by omega), if_pos hrow]
    · by_cases hbelow : a < first.height * size + second.height * size
      · have hpos : 0 < size := by
          rcases Nat.eq_zero_or_pos size with hzero | hpos
          · rw [hzero, Nat.mul_zero, Nat.mul_zero] at hbelow
            omega
          · exact hpos
        have hrow : ¬a / size < first.height := by
          rw [Nat.div_lt_iff_lt_mul hpos]
          exact habove
        rw [if_pos ⟨by omega, hbelow⟩, if_pos (by omega), if_neg hrow, Nat.mul_comm first.height,
          Nat.sub_mul_div, Nat.sub_mul_mod (by rw [Nat.mul_comm]; omega)]
      · rw [if_neg (by omega), if_neg habove, if_neg (by omega)]
  · rw [if_neg (not_not.mpr hmode), if_neg hlayout, if_neg (not_not.mpr hmode), if_neg hlayout]
    set first := frameOf frames (machineForScreen 0 config.swapScreens)
    set second := frameOf frames (machineForScreen 1 config.swapScreens)
    have hbody (row : Nat) :
        FillsRow (fun output => copyRow (row * (first.width + second.width) + first.width) second row
          (copyRow (row * (first.width + second.width)) first row output))
          (0 + row * ((first.width + second.width) * wordSize))
          ((first.width + second.width) * wordSize)
          (fun i => if i < first.width * wordSize then first.bytes (row * first.pitch + i)
            else second.bytes (row * second.pitch + (i - first.width * wordSize))) := by
      have hfirst := fillsRow_copyRow (row * (first.width + second.width)) first row
      have hsecond :=
        fillsRow_copyRow (row * (first.width + second.width) + first.width) second row
      rw [Nat.add_mul _ first.width] at hsecond
      rw [Nat.zero_add, ← Nat.mul_assoc, Nat.add_mul first.width]
      exact hfirst.append hsecond
    dsimp only
    rw [forRows_apply _ fun row _ => hbody row]
    simp only [Nat.zero_add, Nat.sub_zero, Nat.zero_le, true_and]

/-- A byte of the picture is a byte of the pixel that is shown. -/
theorem Shows.pictureByte_eq {machine machineX machineY x y : Nat}
    (hsize : config.mode = .dual →
      (frameOf frames (machineForScreen 0 config.swapScreens)).width =
          (frameOf frames (machineForScreen 1 config.swapScreens)).width ∧
        (frameOf frames (machineForScreen 0 config.swapScreens)).height =
          (frameOf frames (machineForScreen 1 config.swapScreens)).height)
    (h : Shows frames config machine machineX machineY x y) {k : Nat} (hk : k < wordSize) :
    pictureByte frames config y (x * wordSize + k) =
      (frameOf frames machine).bytes
        (machineY * (frameOf frames machine).pitch + machineX * wordSize + k) := by
  obtain ⟨-, -, -, hall⟩ := machineForScreen_cases config.swapScreens
  obtain ⟨⟨hlt, hselected⟩, hcolumn, hrow, rfl, rfl⟩ := h
  unfold pictureByte
  dsimp only
  by_cases hmode : config.mode ≠ .dual
  · obtain rfl := hselected.resolve_left hmode
    rw [if_pos hmode, origin_alone hmode, Nat.zero_add, Nat.zero_add, Nat.add_assoc]
  · have hdual : config.mode = .dual := not_not.mp hmode
    obtain ⟨hwidth, hheight⟩ := hsize hdual
    rw [if_neg hmode]
    rcases (hall machine hlt).1 with rfl | rfl
    · rw [origin_first]
      dsimp only
      have hleft : machineX * wordSize + k <
          (frameOf frames (machineForScreen 0 config.swapScreens)).width * wordSize := by
        unfold wordSize at hk ⊢
        omega
      rw [Nat.zero_add, Nat.zero_add, if_pos hrow, if_pos hleft, ite_self, Nat.add_assoc]
    · rw [origin_second hdual]
      by_cases hlayout : config.layout = .topBottom
      · rw [if_pos hlayout, if_pos hlayout, if_neg (by omega), Nat.zero_add, Nat.add_sub_cancel_left,
          Nat.add_assoc]
      · rw [if_neg hlayout, if_neg hlayout, if_neg (by unfold wordSize; omega), Nat.zero_add,
          Nat.add_mul, Nat.add_assoc, Nat.add_sub_cancel_left, Nat.add_assoc]

/-- **The copy puts the pixel that is shown.** -/
theorem composeRows_word (hfits : Fits frames)
    (hg : compositorGeometry frames config = some geometry) (output : Memory)
    {machine machineX machineY x y : Nat} (h : Shows frames config machine machineX machineY x y) :
    (composeRows frames config geometry output).read ((y * geometry.width + x) * wordSize) wordSize =
      (frameOf frames machine).pixel machineX machineY := by
  obtain ⟨hx, hy⟩ := h.inside hfits hg
  have hsize : config.mode = .dual →
      (frameOf frames (machineForScreen 0 config.swapScreens)).width =
          (frameOf frames (machineForScreen 1 config.swapScreens)).width ∧
        (frameOf frames (machineForScreen 0 config.swapScreens)).height =
          (frameOf frames (machineForScreen 1 config.swapScreens)).height := by
    intro hdual
    rcases compositorGeometry_cases hfits hg with ⟨hmode, -⟩ | ⟨-, hsame, -⟩
    · exact absurd hdual hmode
    · exact hsame
  unfold VideoFrame.pixel Memory.read
  refine List.map_congr_left fun k hk => ?_
  rw [List.mem_range] at hk
  have hi : x * wordSize + k < geometry.width * wordSize := by
    unfold wordSize at hk ⊢
    omega
  have haddress : (y * geometry.width + x) * wordSize + k =
      geometry.width * wordSize * y + (x * wordSize + k) := by
    rw [Nat.add_mul, Nat.mul_assoc, Nat.mul_comm y, Nat.add_assoc]
  have hinside : geometry.width * wordSize * y + (x * wordSize + k) <
      geometry.height * (geometry.width * wordSize) := by
    have hrows : (y + 1) * (geometry.width * wordSize) ≤
        geometry.height * (geometry.width * wordSize) := Nat.mul_le_mul_right _ hy
    rw [Nat.succ_mul, Nat.mul_comm y] at hrows
    omega
  rw [composeRows_apply hfits hg, haddress, if_pos hinside, Nat.mul_add_div (by omega),
    Nat.mul_add_mod, Nat.div_eq_of_lt hi, Nat.mod_eq_of_lt hi, Nat.add_zero]
  exact h.pictureByte_eq hsize hk

/-! ## The laws -/

/-- **The geometry laws of the compositor**: the forward map is a bijection from the points of the
picture to the pixels of the displayed machines, the inverse map is its inverse, and the composed
frame has at every point the pixel the forward map names there and writes no word behind the
picture. -/
theorem compositor_geometry_laws (hfits : Fits frames)
    (hg : compositorGeometry frames config = some geometry) :
    (∀ x y, (mapPoint frames config x y).isSome ↔ x < geometry.width ∧ y < geometry.height) ∧
    (∀ machine machineX machineY, (projectPoint frames config machine machineX machineY).isSome ↔
      Displayed config machine ∧ machineX < (frameOf frames machine).width ∧
        machineY < (frameOf frames machine).height) ∧
    (∀ machine machineX machineY x y,
      mapPoint frames config x y = some (machine, machineX, machineY) ↔
        projectPoint frames config machine machineX machineY = some (x, y)) ∧
    (∀ machine machineX machineY, Displayed config machine →
      machineX < (frameOf frames machine).width → machineY < (frameOf frames machine).height →
        ∃! point : Nat × Nat,
          mapPoint frames config point.1 point.2 = some (machine, machineX, machineY)) ∧
    ∀ output outputPixels, geometry.width * geometry.height ≤ outputPixels →
      ∃ composed, composeFrame output outputPixels frames config =
          some (composed, { pixels := some composed, width := geometry.width
                            height := geometry.height, pitch := geometry.width * wordSize }) ∧
        (∀ x y machine machineX machineY,
          mapPoint frames config x y = some (machine, machineX, machineY) →
            composed.read ((y * geometry.width + x) * wordSize) wordSize =
              (frameOf frames machine).pixel machineX machineY) ∧
        ∀ a, geometry.width * geometry.height * wordSize ≤ a → composed a = output a := by
  refine ⟨fun x y => ?_, fun machine machineX machineY => ?_, fun machine machineX machineY x y => ?_,
    fun machine machineX machineY hdisplayed hcolumn hrow => ?_,
    fun output outputPixels hpixels => ⟨composeRows frames config geometry output, ?_, ?_, ?_⟩⟩
  · constructor
    · intro hsome
      obtain ⟨⟨machine, machineX, machineY⟩, hmap⟩ := Option.isSome_iff_exists.mp hsome
      exact ((mapPoint_eq_some hfits hg).mp hmap).inside hfits hg
    · rintro ⟨hx, hy⟩
      obtain ⟨machine, machineX, machineY, h⟩ := exists_shows hfits hg hx hy
      exact Option.isSome_iff_exists.mpr ⟨_, (mapPoint_eq_some hfits hg).mpr h⟩
  · constructor
    · intro hsome
      obtain ⟨⟨x, y⟩, hproject⟩ := Option.isSome_iff_exists.mp hsome
      have h := (projectPoint_eq_some hfits hg).mp hproject
      exact ⟨h.displayed, h.column, h.row⟩
    · rintro ⟨hdisplayed, hcolumn, hrow⟩
      obtain ⟨⟨x, y⟩, h, -⟩ := shows_pixel hdisplayed hcolumn hrow
      exact Option.isSome_iff_exists.mpr ⟨_, (projectPoint_eq_some hfits hg).mpr h⟩
  · rw [mapPoint_eq_some hfits hg, projectPoint_eq_some hfits hg]
  · simp only [mapPoint_eq_some hfits hg]
    exact shows_pixel hdisplayed hcolumn hrow
  · unfold composeFrame
    rw [hg, Option.bind_eq_bind, Option.bind_some, if_neg (by omega)]
  · intro x y machine machineX machineY hmap
    exact composeRows_word hfits hg output ((mapPoint_eq_some hfits hg).mp hmap)
  · intro a ha
    rw [composeRows_apply hfits hg, if_neg]
    rw [Nat.mul_comm geometry.width, Nat.mul_assoc] at ha
    omega

/-- Two frames of two pixels by one, swapped and one above the other, with a gap after each row. -/
def sampleFrames : Fin 2 → VideoFrame := fun i =>
  { pixels := some fun offset => BitVec.ofNat 8 (16 * i.val + offset), width := 2, height := 1
    pitch := 10 }

theorem sample_geometry_laws :
    ∃ composed, composeFrame (fun _ => 0) 4 sampleFrames ⟨.dual, .topBottom, true⟩ =
        some (composed, { pixels := some composed, width := 2, height := 2, pitch := 8 }) ∧
      composed.read 4 4 = [0x14, 0x15, 0x16, 0x17] := by
  have hfits : Fits sampleFrames := ⟨by decide, by decide⟩
  have hg : compositorGeometry sampleFrames ⟨.dual, .topBottom, true⟩ = some ⟨2, 2⟩ := rfl
  obtain ⟨-, -, -, -, hcompose⟩ := compositor_geometry_laws hfits hg
  obtain ⟨composed, hcomposed, hword, -⟩ := hcompose (fun _ => 0) 4 (by decide)
  exact ⟨composed, hcomposed, hword 1 0 1 1 0 rfl⟩

end Picture

end DualBoy.Frontend
