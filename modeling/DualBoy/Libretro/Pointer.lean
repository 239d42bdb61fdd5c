import DualBoy.Frontend.Compositor
import DualBoy.Nds.Barrier

/-!
# Pointer contacts

`apply_pointer_contacts`: contacts of the frontend's pointer, scaled to the picture and mapped to
the bottom screens of the NDS machines. The first contact on a machine's bottom screen is its touch.

* `normalizedCoordinate_lt`, `normalizedCoordinate_mono`, `normalizedCoordinate_surjective`: the
  scaling of a coordinate.
* `PointerContext.ready_eq_some`: when the function acts at all.
* `settled_turn`: one contact keeps what was settled before it.
* **`pointer_contacts_law`**.
-/

namespace DualBoy.Libretro

open DualBoy.Frontend DualBoy.Nds

/-! ## The source -/

/-- `DUALBOY_NDS_SCREEN_WIDTH`. -/
def ndsScreenWidth : Nat := 256

/-- `DUALBOY_NDS_SCREEN_HEIGHT`. -/
def ndsScreenHeight : Nat := 192

/-- `DUALBOY_POINTER_CONTACT_LIMIT`. -/
def pointerContactLimit : Nat := 16

/-- `normalized_coordinate`. -/
def normalizedCoordinate (coordinate : BitVec 16) (extent : Nat) : Nat :=
  let scaled := (coordinate.toInt + 0x8000).toNat
  if extent ≤ 1 then 0 else scaled * extent / 0x10000

/-- What `input_state` reports of one contact. -/
structure Contact where
  pressed : BitVec 16
  x : BitVec 16
  y : BitVec 16
  deriving DecidableEq, Repr

/-- What `apply_pointer_contacts` works with: whether the NDS session is loaded, the frontend's
contacts by their index, the display, and the frames the engine has of the machines. -/
structure PointerContext where
  ndsSessionLoaded : Bool
  inputState : Option (Nat → Contact)
  display : Option CompositorConfig
  videoFrame : Option (Fin 2 → Option VideoFrame)

/-- The inputs of the machines and which of them a contact has set. -/
structure PointerTargets where
  inputs : Fin 2 → MachineInput
  assigned : Fin 2 → Bool

/-- The body of the loop, behind the test of `PRESSED`. -/
def applyContact (frames : Fin 2 → VideoFrame) (display : CompositorConfig) (geometry : Geometry)
    (contact : Contact) (s : PointerTargets) : PointerTargets :=
  let compositeX := normalizedCoordinate contact.x geometry.width
  let compositeY := normalizedCoordinate contact.y geometry.height
  match mapPoint frames display compositeX compositeY with
  | none => s
  | some (machine, machineX, machineY) =>
    if hmachine : 2 ≤ machine then s
    else
      let machine : Fin 2 := ⟨machine, Nat.lt_of_not_le hmachine⟩
      if s.assigned machine = true ∨ ndsScreenWidth ≤ machineX ∨ machineY < ndsScreenHeight ∨
          ndsScreenHeight * 2 ≤ machineY then s
      else
        { inputs := Function.update s.inputs machine
            { s.inputs machine with
              touchActive := true
              touchX := BitVec.ofNat 16 machineX
              touchY := BitVec.ofNat 16 (machineY - ndsScreenHeight) }
          assigned := Function.update s.assigned machine true }

/-- The loop, with this many contacts left, from a contact on. -/
def applyContacts (frames : Fin 2 → VideoFrame) (display : CompositorConfig) (geometry : Geometry)
    (inputState : Nat → Contact) : Nat → Nat → PointerTargets → PointerTargets
  | 0, _, s => s
  | left + 1, index, s =>
    if (inputState index).pressed = 0 then s
    else
      applyContacts frames display geometry inputState left (index + 1)
        (applyContact frames display geometry (inputState index) s)

/-- What the loop runs on, unless the function returns before it. -/
def PointerContext.ready (c : PointerContext) :
    Option ((Nat → Contact) × CompositorConfig × (Fin 2 → VideoFrame) × Geometry) := do
  if c.ndsSessionLoaded = false then none
  else
    let inputState ← c.inputState
    let display ← c.display
    let videoFrame ← c.videoFrame
    let first ← videoFrame 0
    let second ← videoFrame 1
    let frames : Fin 2 → VideoFrame := fun machine => if machine = 0 then first else second
    let geometry ← compositorGeometry frames display
    some (inputState, display, frames, geometry)

/-- `apply_pointer_contacts`. -/
def applyPointerContacts (c : PointerContext) (inputs : Fin 2 → MachineInput) : PointerTargets :=
  let s : PointerTargets := ⟨inputs, fun _ => false⟩
  match c.ready with
  | none => s
  | some (inputState, display, frames, geometry) =>
    applyContacts frames display geometry inputState pointerContactLimit 0 s

/-! ## Acting -/

/-- The function acts: an NDS session is loaded, the frontend reports contacts, there is a display,
the engine has a frame of each machine, and the compositor accepts the two. -/
structure PointerContext.Acts (c : PointerContext) (inputState : Nat → Contact)
    (display : CompositorConfig) (frames : Fin 2 → VideoFrame) (geometry : Geometry) : Prop where
  loaded : c.ndsSessionLoaded = true
  contacts : c.inputState = some inputState
  displayed : c.display = some display
  framed : ∃ videoFrame, c.videoFrame = some videoFrame ∧
    ∀ machine, videoFrame machine = some (frames machine)
  accepted : compositorGeometry frames display = some geometry

/-- **The function returns early** unless it acts. -/
theorem PointerContext.ready_eq_some {c : PointerContext} {inputState : Nat → Contact}
    {display : CompositorConfig} {frames : Fin 2 → VideoFrame} {geometry : Geometry} :
    c.ready = some (inputState, display, frames, geometry) ↔
      c.Acts inputState display frames geometry := by
  unfold PointerContext.ready
  constructor
  · intro h
    split_ifs at h with hloaded
    simp only [bind, Option.bind_eq_some_iff, Option.some.injEq, Prod.mk.injEq] at h
    obtain ⟨inputState', hinput, display', hdisplay, videoFrame, hvideo, first, hfirst, second,
      hsecond, geometry', hgeometry, rfl, rfl, rfl, rfl⟩ := h
    refine ⟨eq_true_of_ne_false hloaded, hinput, hdisplay, ⟨videoFrame, hvideo, ?_⟩, hgeometry⟩
    rw [Fin.forall_fin_two]
    exact ⟨hfirst, hsecond⟩
  · rintro ⟨hloaded, hinput, hdisplay, ⟨videoFrame, hvideo, hframes⟩, hgeometry⟩
    have hsame : (fun machine : Fin 2 => if machine = 0 then frames 0 else frames 1) = frames := by
      funext machine
      revert machine
      rw [Fin.forall_fin_two]
      exact ⟨rfl, rfl⟩
    rw [if_neg (by rw [hloaded]; decide)]
    simp only [bind, Option.bind_eq_some_iff, Option.some.injEq, Prod.mk.injEq]
    exact ⟨inputState, hinput, display, hdisplay, videoFrame, hvideo, frames 0, hframes 0, frames 1,
      hframes 1, geometry, hsame ▸ hgeometry, rfl, rfl, hsame, rfl⟩

/-! ## Scaling -/

theorem coordinate_range (coordinate : BitVec 16) :
    -0x8000 ≤ coordinate.toInt ∧ coordinate.toInt ≤ 0x7fff := by
  have hle := BitVec.le_toInt coordinate
  have hlt := BitVec.toInt_lt (x := coordinate)
  constructor <;> omega

theorem normalizedCoordinate_lt (coordinate : BitVec 16) {extent : Nat} (h : 0 < extent) :
    normalizedCoordinate coordinate extent < extent := by
  obtain ⟨hlow, hhigh⟩ := coordinate_range coordinate
  unfold normalizedCoordinate
  dsimp only
  split
  · exact h
  · have hscaled : (coordinate.toInt + 0x8000).toNat < 0x10000 := by omega
    rw [Nat.div_lt_iff_lt_mul (by decide), Nat.mul_comm]
    exact Nat.mul_lt_mul_of_pos_left hscaled h

theorem normalizedCoordinate_mono {first second : BitVec 16} (extent : Nat)
    (h : first.toInt ≤ second.toInt) :
    normalizedCoordinate first extent ≤ normalizedCoordinate second extent := by
  unfold normalizedCoordinate
  dsimp only
  split
  · exact Nat.le_refl _
  · exact Nat.div_le_div_right (Nat.mul_le_mul_right _ (by omega))

/-- **Every pixel of an extent of up to 65536 is one coordinate's.** -/
theorem normalizedCoordinate_surjective {extent : Nat} (hextent : extent ≤ 0x10000) {point : Nat}
    (h : point < extent) : ∃ coordinate, normalizedCoordinate coordinate extent = point := by
  -- the least value that scales to the point
  have hpoint : (point * 0x10000 + (extent - 1)) / extent < 0x10000 := by
    rw [Nat.div_lt_iff_lt_mul (by omega), Nat.mul_comm 0x10000]
    have hlast : point * 0x10000 ≤ (extent - 1) * 0x10000 := Nat.mul_le_mul_right _ (by omega)
    rw [Nat.sub_mul] at hlast
    omega
  generalize hscaled : (point * 0x10000 + (extent - 1)) / extent = scaled at hpoint
  have hlow : point * 0x10000 ≤ scaled * extent := by
    have hdiv := Nat.div_add_mod (point * 0x10000 + (extent - 1)) extent
    have hmod := Nat.mod_lt (point * 0x10000 + (extent - 1)) (show 0 < extent by omega)
    rw [hscaled, Nat.mul_comm] at hdiv
    omega
  have hhigh : scaled * extent ≤ point * 0x10000 + (extent - 1) := by
    rw [← hscaled]
    exact Nat.div_mul_le_self _ _
  refine ⟨BitVec.ofInt 16 ((scaled : Int) - 0x8000), ?_⟩
  have htoInt : (BitVec.ofInt 16 ((scaled : Int) - 0x8000)).toInt = (scaled : Int) - 0x8000 := by
    rw [BitVec.toInt_ofInt]
    exact Int.bmod_eq_of_le (by omega) (by omega)
  unfold normalizedCoordinate
  rw [htoInt, Int.sub_add_cancel, Int.toNat_natCast]
  dsimp only
  split
  · omega
  · rw [Nat.div_eq_of_lt_le]
    · exact hlow
    · rw [Nat.succ_mul]
      omega

/-! ## Contacts -/

section Contacts

variable {frames : Fin 2 → VideoFrame} {display : CompositorConfig} {geometry : Geometry}
  {inputState : Nat → Contact}

/-- A contact is on a machine's displayed bottom screen, at a position of that screen. -/
def Touches (frames : Fin 2 → VideoFrame) (display : CompositorConfig) (geometry : Geometry)
    (contact : Contact) (machine : Fin 2) (x y : Nat) : Prop :=
  x < 256 ∧ y < 192 ∧
    mapPoint frames display (normalizedCoordinate contact.x geometry.width)
      (normalizedCoordinate contact.y geometry.height) = some (machine.val, x, 192 + y)

/-- The contact is the first one on the machine's bottom screen, and the pointer has it. -/
structure FirstContact (frames : Fin 2 → VideoFrame) (display : CompositorConfig)
    (geometry : Geometry) (inputState : Nat → Contact) (machine : Fin 2) (index x y : Nat) :
    Prop where
  index_lt : index < 16
  pressed : ∀ j ≤ index, (inputState j).pressed ≠ 0
  touches : Touches frames display geometry (inputState index) machine x y
  first : ∀ j < index, ∀ x' y', ¬Touches frames display geometry (inputState j) machine x' y'

/-- An input with a touch. -/
def touchedAt (input : MachineInput) (x y : Nat) : MachineInput :=
  { input with touchActive := true, touchX := BitVec.ofNat 16 x, touchY := BitVec.ofNat 16 y }

/-- A contact sets the machine it touches, or none. -/
theorem applyContact_cases (contact : Contact) (s : PointerTargets) :
    (∃ machine x y, Touches frames display geometry contact machine x y ∧
      s.assigned machine = false ∧
      applyContact frames display geometry contact s =
        ⟨Function.update s.inputs machine (touchedAt (s.inputs machine) x y),
          Function.update s.assigned machine true⟩) ∨
    (∀ machine x y, Touches frames display geometry contact machine x y →
      s.assigned machine = true) ∧ applyContact frames display geometry contact s = s := by
  unfold applyContact Touches
  dsimp only
  cases hmap : mapPoint frames display (normalizedCoordinate contact.x geometry.width)
      (normalizedCoordinate contact.y geometry.height) with
  | none =>
    right
    refine ⟨?_, rfl⟩
    rintro machine x y ⟨-, -, h⟩
    cases h
  | some point =>
    obtain ⟨machine, machineX, machineY⟩ := point
    dsimp only
    by_cases hmachine : 2 ≤ machine
    · right
      rw [dif_pos hmachine]
      refine ⟨?_, rfl⟩
      rintro machine' x y ⟨-, -, h⟩
      obtain ⟨rfl, -, -⟩ := Prod.mk.injEq .. ▸ Option.some.inj h
      exact absurd machine'.isLt (Nat.not_lt.mpr hmachine)
    rw [dif_neg hmachine]
    by_cases hskip : s.assigned ⟨machine, Nat.lt_of_not_le hmachine⟩ = true ∨
        ndsScreenWidth ≤ machineX ∨ machineY < ndsScreenHeight ∨ ndsScreenHeight * 2 ≤ machineY
    · right
      rw [if_pos hskip]
      refine ⟨?_, rfl⟩
      rintro machine' x y ⟨hx, hy, h⟩
      obtain ⟨rfl, rfl, rfl⟩ : machine = machine'.val ∧ machineX = x ∧ machineY = 192 + y := by
        simpa using h
      unfold ndsScreenWidth ndsScreenHeight at hskip
      rcases hskip with hassigned | hskip
      · exact hassigned
      · omega
    · left
      rw [if_neg hskip]
      unfold ndsScreenWidth ndsScreenHeight at hskip
      obtain ⟨hassigned, hinside⟩ := not_or.mp hskip
      refine ⟨⟨machine, Nat.lt_of_not_le hmachine⟩, machineX, machineY - 192,
        ⟨by omega, by omega, ?_⟩, Bool.eq_false_iff.mpr hassigned, rfl⟩
      rw [Nat.add_sub_cancel' (by omega)]

/-- A contact touches one machine at most, at one position. -/
theorem Touches.unique {contact : Contact} {machine machine' : Fin 2} {x y x' y' : Nat}
    (h : Touches frames display geometry contact machine x y)
    (h' : Touches frames display geometry contact machine' x' y') :
    machine = machine' ∧ x = x' ∧ y = y' := by
  obtain ⟨-, -, hmap⟩ := h
  obtain ⟨-, -, hmap'⟩ := h'
  have hsame := Option.some.inj (hmap.symm.trans hmap')
  simp only [Prod.mk.injEq, Nat.add_left_cancel_iff] at hsame
  exact ⟨Fin.ext hsame.1, hsame.2⟩

/-- There is one first contact, at one position. -/
theorem FirstContact.unique {machine : Fin 2} {index index' x x' y y' : Nat}
    (h : FirstContact frames display geometry inputState machine index x y)
    (h' : FirstContact frames display geometry inputState machine index' x' y') :
    index = index' ∧ x = x' ∧ y = y' := by
  obtain rfl : index = index' := by
    rcases Nat.lt_trichotomy index index' with hlt | heq | hlt
    · exact absurd h.touches (h'.first index hlt x y)
    · exact heq
    · exact absurd h'.touches (h.first index' hlt x' y')
  exact ⟨rfl, (h.touches.unique h'.touches).2⟩

/-- What the first contacts leave of the inputs. -/
def Settled (frames : Fin 2 → VideoFrame) (display : CompositorConfig) (geometry : Geometry)
    (inputState : Nat → Contact) (inputs : Fin 2 → MachineInput) (count : Nat)
    (s : PointerTargets) : Prop :=
  ∀ machine,
    (∃ index x y, index < count ∧ Touches frames display geometry (inputState index) machine x y ∧
      (∀ j < index, ∀ x' y', ¬Touches frames display geometry (inputState j) machine x' y') ∧
      s.inputs machine = touchedAt (inputs machine) x y ∧ s.assigned machine = true) ∨
    (∀ j < count, ∀ x' y', ¬Touches frames display geometry (inputState j) machine x' y') ∧
      s.inputs machine = inputs machine ∧ s.assigned machine = false

variable {inputs : Fin 2 → MachineInput} {count : Nat} {s : PointerTargets}

/-- **One contact keeps what was settled before it.** -/
theorem settled_turn (h : Settled frames display geometry inputState inputs count s) :
    Settled frames display geometry inputState inputs (count + 1)
      (applyContact frames display geometry (inputState count) s) := by
  intro machine
  rcases applyContact_cases (inputState count) s with
    ⟨machine', x, y, htouches, hassigned, hset⟩ | ⟨hall, hsame⟩
  · rw [hset]
    by_cases hmachine : machine = machine'
    · -- the machine is set now, and no contact before touched it
      rw [hmachine]
      rcases h machine' with ⟨index, _, _, _, _, _, _, htrue⟩ | ⟨hnone, hinputs, -⟩
      · exact absurd (hassigned.symm.trans htrue) Bool.false_ne_true
      · refine Or.inl ⟨count, x, y, Nat.lt_succ_self _, htouches, hnone, ?_, ?_⟩
        · exact (Function.update_self _ _ _).trans (by rw [hinputs])
        · exact Function.update_self _ _ _
    · have hother (x' y' : Nat) :
          ¬Touches frames display geometry (inputState count) machine x' y' := fun h' =>
        hmachine (h'.unique htouches).1
      rcases h machine with ⟨index, x', y', hindex, htouch, hfirst, hinputs, htrue⟩ |
          ⟨hnone, hinputs, hfalse⟩
      · refine Or.inl ⟨index, x', y', by omega, htouch, hfirst, ?_, ?_⟩
        · exact (Function.update_of_ne hmachine _ _).trans hinputs
        · exact (Function.update_of_ne hmachine _ _).trans htrue
      · refine Or.inr ⟨?_, ?_, ?_⟩
        · intro j hj x' y'
          rcases Nat.lt_succ_iff_lt_or_eq.mp hj with hj | rfl
          · exact hnone j hj x' y'
          · exact hother x' y'
        · exact (Function.update_of_ne hmachine _ _).trans hinputs
        · exact (Function.update_of_ne hmachine _ _).trans hfalse
  · rw [hsame]
    rcases h machine with ⟨index, x', y', hindex, hrest⟩ | ⟨hnone, hinputs, hfalse⟩
    · exact Or.inl ⟨index, x', y', by omega, hrest⟩
    · refine Or.inr ⟨?_, hinputs, hfalse⟩
      intro j hj x' y' htouch
      rcases Nat.lt_succ_iff_lt_or_eq.mp hj with hj | rfl
      · exact hnone j hj x' y' htouch
      · exact Bool.false_ne_true (hfalse.symm.trans (hall machine x' y' htouch))

/-- The loop settles the contacts up to the first that is not pressed. -/
theorem settled_applyContacts (left : Nat) (hpressed : ∀ j < count, (inputState j).pressed ≠ 0)
    (h : Settled frames display geometry inputState inputs count s) :
    ∃ last, last ≤ count + left ∧ (∀ j < last, (inputState j).pressed ≠ 0) ∧
      (last = count + left ∨ (inputState last).pressed = 0) ∧
      Settled frames display geometry inputState inputs last
        (applyContacts frames display geometry inputState left count s) := by
  induction left generalizing count s with
  | zero => exact ⟨count, Nat.le_refl _, hpressed, Or.inl rfl, h⟩
  | succ left ih =>
    unfold applyContacts
    by_cases hend : (inputState count).pressed = 0
    · rw [if_pos hend]
      exact ⟨count, by omega, hpressed, Or.inr hend, h⟩
    · rw [if_neg hend]
      have hpressed' : ∀ j < count + 1, (inputState j).pressed ≠ 0 := by
        intro j hj
        rcases Nat.lt_succ_iff_lt_or_eq.mp hj with hj | rfl
        · exact hpressed j hj
        · exact hend
      obtain ⟨last, hlast, hall, hlimit, hsettled⟩ := ih hpressed' (settled_turn h)
      refine ⟨last, by omega, hall, ?_, hsettled⟩
      rw [Nat.add_assoc, Nat.add_comm 1] at hlimit
      exact hlimit

end Contacts

/-- Two fingers, on the top screen of the first machine and on its bottom screen. -/
def fingers (index : Nat) : Contact :=
  if index = 0 then ⟨1, BitVec.ofInt 16 (-31488), BitVec.ofInt 16 (-31488)⟩
  else if index = 1 then ⟨1, BitVec.ofInt 16 (-31488), 1366⟩
  else ⟨0, 0, 0⟩

/-- The screens of a DS, one above the other. -/
def bothScreens : VideoFrame :=
  { pixels := some fun _ => 0, width := 256, height := 384, pitch := 1024 }

/-- Both machines side by side. -/
def pairShown : CompositorConfig :=
  { mode := .dual, layout := .sideBySide, swapScreens := false }

def twoFingers : PointerContext where
  ndsSessionLoaded := true
  inputState := some fingers
  display := some pairShown
  videoFrame := some fun _ => some bothScreens

theorem fingers_first :
    FirstContact (fun _ => bothScreens) pairShown ⟨512, 384⟩ fingers 0 1 10 8 where
  index_lt := by decide
  pressed := by decide
  touches := ⟨by decide, by decide, by decide⟩
  first := by
    intro j hj x y htouches
    obtain rfl : j = 0 := by omega
    have hmap := htouches.2.2
    rw [show mapPoint (fun _ => bothScreens) pairShown
      (normalizedCoordinate (fingers 0).x 512) (normalizedCoordinate (fingers 0).y 384) =
        some (0, 10, 7) by decide] at hmap
    simp only [Option.some.injEq, Prod.mk.injEq] at hmap
    omega

/-- **Pointer contacts.** With an NDS session, contacts, a display, a frame of each machine and a
picture of the two, each machine has the touch of the first contact on its displayed bottom screen,
at that contact's position on it, and is assigned, or there is no such contact and its input is as
it was; otherwise nothing changes. A coordinate is scaled monotonically into its extent, onto all of
it up to 65536 pixels. -/
theorem pointer_contacts_law (c : PointerContext) (inputs : Fin 2 → MachineInput) :
    ((∀ inputState display frames geometry, ¬c.Acts inputState display frames geometry) →
      applyPointerContacts c inputs = ⟨inputs, fun _ => false⟩) ∧
    (∀ inputState display frames geometry, c.Acts inputState display frames geometry →
      ∀ machine,
        (∃ index x y, FirstContact frames display geometry inputState machine index x y ∧
          (applyPointerContacts c inputs).inputs machine = touchedAt (inputs machine) x y ∧
          (applyPointerContacts c inputs).assigned machine = true ∧
          ((applyPointerContacts c inputs).inputs machine).touchX.toNat = x ∧
          ((applyPointerContacts c inputs).inputs machine).touchY.toNat = y ∧ x < 256 ∧ y < 192 ∧
          (Fits frames → Shows frames display machine x (192 + y)
            (normalizedCoordinate (inputState index).x geometry.width)
            (normalizedCoordinate (inputState index).y geometry.height))) ∨
        (∀ index x y, ¬FirstContact frames display geometry inputState machine index x y) ∧
          (applyPointerContacts c inputs).inputs machine = inputs machine ∧
          (applyPointerContacts c inputs).assigned machine = false) ∧
    ∀ extent, 1 ≤ extent → extent ≤ 0x10000 →
      (∀ coordinate, normalizedCoordinate coordinate extent < extent) ∧
      (∀ first second : BitVec 16, first.toInt ≤ second.toInt →
        normalizedCoordinate first extent ≤ normalizedCoordinate second extent) ∧
      ∀ point < extent, ∃ coordinate, normalizedCoordinate coordinate extent = point := by
  refine ⟨fun hnot => ?_, ?_, fun extent hpos hle => ?_⟩
  · unfold applyPointerContacts
    cases hready : c.ready with
    | none => rfl
    | some found =>
      obtain ⟨inputState, display, frames, geometry⟩ := found
      exact absurd (PointerContext.ready_eq_some.mp hready) (hnot _ _ _ _)
  · intro inputState display frames geometry hacts machine
    have hready := PointerContext.ready_eq_some.mpr hacts
    have hstart : Settled frames display geometry inputState inputs 0 ⟨inputs, fun _ => false⟩ :=
      fun machine => Or.inr ⟨fun j hj => absurd hj (Nat.not_lt_zero j), rfl, rfl⟩
    obtain ⟨last, hlast, hpressed, hlimit, hsettled⟩ :=
      settled_applyContacts pointerContactLimit (fun j hj => absurd hj (Nat.not_lt_zero j)) hstart
    have hresult : applyPointerContacts c inputs = applyContacts frames display geometry inputState
        pointerContactLimit 0 ⟨inputs, fun _ => false⟩ := by
      unfold applyPointerContacts
      rw [hready]
    rw [hresult]
    rw [Nat.zero_add] at hlast hlimit
    unfold pointerContactLimit at hlast hlimit
    rcases hsettled machine with ⟨index, x, y, hindex, htouches, hfirst, hinputs, htrue⟩ |
        ⟨hnone, hinputs, hfalse⟩
    · left
      obtain ⟨hx, hy, hmap⟩ := htouches
      have hcompositor : ∃ geometry', compositorGeometry frames display = some geometry' := by
        unfold mapPoint at hmap
        cases hgeometry : compositorGeometry frames display with
        | none =>
          rw [hgeometry] at hmap
          cases hmap
        | some geometry' => exact ⟨geometry', rfl⟩
      obtain ⟨geometry', hgeometry'⟩ := hcompositor
      refine ⟨index, x, y, ⟨by omega, fun j hj => hpressed j (by omega), ⟨hx, hy, hmap⟩, hfirst⟩,
        hinputs, htrue, ?_, ?_, hx, hy, fun hfits => (mapPoint_eq_some hfits hgeometry').mp hmap⟩
      · rw [hinputs]
        exact Nat.mod_eq_of_lt (by omega)
      · rw [hinputs]
        exact Nat.mod_eq_of_lt (by omega)
    · right
      refine ⟨fun index x y h => ?_, hinputs, hfalse⟩
      rcases Nat.lt_or_ge index last with hindex | hindex
      · exact hnone index hindex x y h.touches
      · -- the contacts end before this one
        have hend : (inputState last).pressed = 0 := by
          have hlt := h.index_lt
          rcases hlimit with rfl | hend
          · omega
          · exact hend
        exact h.pressed last hindex hend
  · exact ⟨fun coordinate => normalizedCoordinate_lt coordinate hpos,
      fun first second => normalizedCoordinate_mono extent,
      fun point => normalizedCoordinate_surjective hle⟩

/-- The second of two fingers is the touch, ten pixels from the left and eight from the top. -/
theorem pointer_contacts_law_two_fingers :
    let input : MachineInput := ⟨0, false, 0, 0⟩
    (applyPointerContacts twoFingers fun _ => input).inputs 0 = ⟨0, true, 10, 8⟩ ∧
      (applyPointerContacts twoFingers fun _ => input).assigned 0 = true := by
  intro input
  have hacts : twoFingers.Acts fingers pairShown (fun _ => bothScreens) ⟨512, 384⟩ :=
    ⟨rfl, rfl, rfl, ⟨fun _ => some bothScreens, rfl, fun _ => rfl⟩, by decide⟩
  rcases (pointer_contacts_law twoFingers fun _ => input).2.1 _ _ _ _ hacts 0 with
    ⟨index, x, y, hfirst, hinputs, hassigned, -⟩ | ⟨hnone, -⟩
  · obtain ⟨-, rfl, rfl⟩ := fingers_first.unique hfirst
    exact ⟨hinputs, hassigned⟩
  · exact absurd fingers_first (hnone 1 10 8)

end DualBoy.Libretro
