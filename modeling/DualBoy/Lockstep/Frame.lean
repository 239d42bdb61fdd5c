import Mathlib.Logic.Function.Basic
import DualBoy.Lockstep.Run

/-!
# Running a linked frame

`run_linked_frame` of `mgba_adapter.c`: both machines run in turn until each has finished a frame
and no link event is left, a blocked machine sitting out. The machines themselves are mGBA's; they
are the parameter `Cores`, over a state `W` of which the pair is a part. The frame runs only on an
attached link, so the two flags `machine_has_pending_link_events` checks first are set.
-/

namespace DualBoy.Lockstep

variable [Mgba]

/-- `MGBA_COOPERATIVE_WATCHDOG`. -/
def mgbaCooperativeWatchdog : Nat := 4000000

/-- `machine_has_pending_link_events`. -/
def Pair.machineHasPendingLinkEvents (s : Pair) (i : Fin 2) : Bool :=
  if (s.drivers i).lockstepId = 0 then false
  else
    match s.lookup (s.drivers i).lockstepId with
    | none => false
    | some player => !player.queue.isEmpty

/-- The two cores. -/
structure Cores (W : Type) where
  pair : W → Pair
  runLoop : Fin 2 → W → W
  frameCounter : Fin 2 → W → BitVec 32
  crashed : Fin 2 → W → Bool

/-- A machine that runs reaches the pair only through the callbacks. -/
def Cores.CallsBack {W : Type} (c : Cores W) : Prop :=
  ∀ i w, ∃ as, c.pair (c.runLoop i w) = (c.pair w).acts as

/-- Why a frame fails. -/
inductive FrameError where
  | crashed (i : Fin 2)
  | allBlocked
  | watchdogExpired
  deriving DecidableEq, Repr

/-- The text `run_linked_frame` reports. -/
def FrameError.message : FrameError → String
  | .crashed i => s!"mGBA machine {i} crashed"
  | .allBlocked => "All linked mGBA machines blocked simultaneously"
  | .watchdogExpired => "mGBA cooperative scheduling watchdog expired"

/-- The locals of `run_linked_frame`; `error` is set once it has returned. -/
structure FrameLoop (W : Type) where
  world : W
  done : Fin 2 → Bool
  watchdog : Nat
  ranAny : Bool
  error : Option FrameError

section Loop

variable {W : Type} (c : Cores W) (startFrames : Fin 2 → BitVec 32)

/-- The inner loop passes over machine `i`. -/
def sitsOut (blockedCount : Nat) (l : FrameLoop W) (i : Fin 2) : Bool :=
  let s := c.pair l.world
  (s.drivers i).blocked || (l.done i && blockedCount == 0 && !s.machineHasPendingLinkEvents i)

/-- Machine `i`'s turn in the inner loop. -/
def frameTurn (blockedCount : Nat) (l : FrameLoop W) (i : Fin 2) : FrameLoop W :=
  if l.error.isSome ∨ l.watchdog = 0 then l
  else if sitsOut c blockedCount l i then l
  else
    let world := c.runLoop i l.world
    let l := { l with world, watchdog := l.watchdog - 1, ranAny := true }
    if c.crashed i world then { l with error := some (.crashed i) }
    else if ¬l.done i ∧ c.frameCounter i world ≠ startFrames i then
      { l with done := Function.update l.done i true }
    else l

/-- The machines that are blocked. -/
def blockedCount (s : Pair) : Nat :=
  ((List.finRange 2).filter fun i => (s.drivers i).blocked).length

/-- The inner loop. -/
def framePass (l : FrameLoop W) : FrameLoop W :=
  (List.finRange 2).foldl (frameTurn c startFrames (blockedCount (c.pair l.world)))
    { l with ranAny := false }

/-- `all_done`. -/
def allDone (l : FrameLoop W) : Bool :=
  (List.finRange 2).all fun i => l.done i && !(c.pair l.world).machineHasPendingLinkEvents i

/-- The outer loop. The watchdog falls on every turn that does not return, so it is fuel enough. -/
def frameLoop : Nat → FrameLoop W → W × Option FrameError
  | 0, l => (l.world, some .watchdogExpired)
  | fuel + 1, l =>
    if l.watchdog = 0 then (l.world, some .watchdogExpired)
    else
      let l := framePass c startFrames l
      if l.error.isSome then (l.world, l.error)
      else if ¬l.ranAny then (l.world, some .allBlocked)
      else if allDone c l then (l.world, none)
      else frameLoop fuel l

end Loop

/-- `run_linked_frame`. -/
def runLinkedFrame {W : Type} (c : Cores W) (w : W) : W × Option FrameError :=
  frameLoop c (fun i => c.frameCounter i w) mgbaCooperativeWatchdog
    { world := w
      done := fun _ => false
      watchdog := mgbaCooperativeWatchdog
      ranAny := false
      error := none }

/-! ## What a turn does -/

section Turn

variable {W : Type} {c : Cores W} {startFrames : Fin 2 → BitVec 32} {blocked : Nat}
  {l : FrameLoop W} {i : Fin 2}

theorem frameTurn_of_sitsOut (h : sitsOut c blocked l i = true) :
    frameTurn c startFrames blocked l i = l := by
  unfold frameTurn
  rw [if_pos h]
  split <;> rfl

/-- A machine that does not sit out runs. -/
theorem frameTurn_of_not_sitsOut (he : l.error = none) (hw : l.watchdog ≠ 0)
    (h : sitsOut c blocked l i = false) :
    (frameTurn c startFrames blocked l i).ranAny = true := by
  unfold frameTurn
  rw [if_neg (by simp [he, hw]), if_neg (by simp [h])]
  dsimp only
  split
  · rfl
  · split <;> rfl

/-- The watchdog falls when a machine runs. -/
theorem frameTurn_watchdog :
    (frameTurn c startFrames blocked l i).watchdog ≤ l.watchdog ∧
      ((frameTurn c startFrames blocked l i).ranAny = true →
        l.ranAny = true ∨ (frameTurn c startFrames blocked l i).watchdog < l.watchdog) := by
  unfold frameTurn
  dsimp only
  split
  · exact ⟨Nat.le_refl _, Or.inl⟩
  rename_i hrun
  have hpos : l.watchdog ≠ 0 := fun h => hrun (Or.inr h)
  split
  · exact ⟨Nat.le_refl _, Or.inl⟩
  split
  · exact ⟨Nat.sub_le _ _, fun _ => Or.inr (by dsimp only; omega)⟩
  split <;> exact ⟨Nat.sub_le _ _, fun _ => Or.inr (by dsimp only; omega)⟩

theorem frameTurn_ranAny (h : l.ranAny = true) :
    (frameTurn c startFrames blocked l i).ranAny = true := by
  unfold frameTurn
  dsimp only
  split
  · exact h
  · split
    · exact h
    · split
      · rfl
      · split <;> rfl

theorem frameTurn_error_ne (h : l.error ≠ some .allBlocked) :
    (frameTurn c startFrames blocked l i).error ≠ some .allBlocked := by
  unfold frameTurn
  dsimp only
  split
  · exact h
  · split
    · exact h
    · split
      · simp
      · split <;> exact h

/-- A property of the world that running a machine keeps survives a turn. -/
theorem frameTurn_world {inv : W → Prop} (hrun : ∀ i w, inv w → inv (c.runLoop i w))
    (h : inv l.world) : inv (frameTurn c startFrames blocked l i).world := by
  unfold frameTurn
  dsimp only
  split
  · exact h
  · split
    · exact h
    · split
      · exact hrun i _ h
      · split <;> exact hrun i _ h

/-! ## A pass always runs a machine -/

theorem framePass_eq (l : FrameLoop W) :
    framePass c startFrames l =
      let n := blockedCount (c.pair l.world)
      frameTurn c startFrames n (frameTurn c startFrames n { l with ranAny := false } 0) 1 := rfl

theorem framePass_world {inv : W → Prop} (hrun : ∀ i w, inv w → inv (c.runLoop i w))
    (h : inv l.world) : inv (framePass c startFrames l).world :=
  frameTurn_world hrun (frameTurn_world hrun h)

theorem framePass_error_ne (h : l.error ≠ some .allBlocked) :
    (framePass c startFrames l).error ≠ some .allBlocked :=
  frameTurn_error_ne (frameTurn_error_ne h)

theorem blockedCount_ne_zero {s : Pair} {i : Fin 2} (h : (s.drivers i).blocked = true) :
    blockedCount s ≠ 0 := by
  have hmem : i ∈ (List.finRange 2).filter fun i => (s.drivers i).blocked := by
    simp [List.mem_finRange, h]
  exact fun h0 => List.ne_nil_of_mem hmem (List.length_eq_zero_iff.mp h0)

/-- While another machine is blocked, one that is not takes its turn. -/
theorem not_sitsOut_of_blocked (h : ((c.pair l.world).drivers i).blocked = false)
    (hb : blocked ≠ 0) : sitsOut c blocked l i = false := by
  simp [sitsOut, h, hb]

/-- With one machine awake and the frame not over, one of them takes its turn. -/
theorem exists_not_sitsOut
    (hawake : ¬(((c.pair l.world).drivers 0).blocked = true ∧
      ((c.pair l.world).drivers 1).blocked = true))
    (hdone : allDone c l = false) :
    ∃ i, sitsOut c (blockedCount (c.pair l.world)) l i = false := by
  by_cases h0 : ((c.pair l.world).drivers 0).blocked = true
  · have h1 : ((c.pair l.world).drivers 1).blocked = false := by simpa [h0] using hawake
    exact ⟨1, not_sitsOut_of_blocked h1 (blockedCount_ne_zero h0)⟩
  by_cases h1 : ((c.pair l.world).drivers 1).blocked = true
  · exact ⟨0, not_sitsOut_of_blocked (Bool.eq_false_iff.mpr h0) (blockedCount_ne_zero h1)⟩
  -- Neither is blocked: the one that is not done, or has events left, runs.
  have hnone (i : Fin 2) : ((c.pair l.world).drivers i).blocked = false := by
    match i with
    | 0 => exact Bool.eq_false_iff.mpr h0
    | 1 => exact Bool.eq_false_iff.mpr h1
  obtain ⟨i, hi⟩ : ∃ i, (l.done i && !(c.pair l.world).machineHasPendingLinkEvents i) = false := by
    simpa [allDone, List.all_eq_false] using hdone
  refine ⟨i, ?_⟩
  simp only [sitsOut, hnone i, Bool.false_or]
  cases hd : l.done i <;> simp_all

/-- With one machine awake and the frame not over, a pass runs a machine. -/
theorem framePass_ranAny (he : l.error = none) (hw : l.watchdog ≠ 0)
    (hawake : ¬(((c.pair l.world).drivers 0).blocked = true ∧
      ((c.pair l.world).drivers 1).blocked = true))
    (hdone : allDone c l = false) : (framePass c startFrames l).ranAny = true := by
  obtain ⟨i, hi⟩ := exists_not_sitsOut hawake hdone
  rw [framePass_eq]
  dsimp only
  let l₀ : FrameLoop W := { l with ranAny := false }
  have hruns (i : Fin 2) (h : sitsOut c (blockedCount (c.pair l.world)) l₀ i = false) :
      (frameTurn c startFrames (blockedCount (c.pair l.world)) l₀ i).ranAny = true :=
    frameTurn_of_not_sitsOut (show l₀.error = none from he) hw h
  match i with
  | 0 => exact frameTurn_ranAny (hruns 0 hi)
  | 1 =>
    -- Machine 0 either runs or leaves everything as it was.
    cases h0 : sitsOut c (blockedCount (c.pair l.world)) l₀ 0 with
    | false => exact frameTurn_ranAny (hruns 0 h0)
    | true =>
      rw [frameTurn_of_sitsOut h0]
      exact hruns 1 hi

theorem framePass_watchdog_lt (h : (framePass c startFrames l).ranAny = true) :
    (framePass c startFrames l).watchdog < l.watchdog := by
  rw [framePass_eq] at h ⊢
  dsimp only at h ⊢
  obtain ⟨hle1, hlt1⟩ := @frameTurn_watchdog _ W c startFrames (blockedCount (c.pair l.world))
    (frameTurn c startFrames (blockedCount (c.pair l.world)) { l with ranAny := false } 0) 1
  obtain ⟨hle0, hlt0⟩ := @frameTurn_watchdog _ W c startFrames (blockedCount (c.pair l.world))
    { l with ranAny := false } 0
  rcases hlt1 h with h0 | hlt
  · rcases hlt0 h0 with hf | hlt
    · exact absurd hf Bool.false_ne_true
    · exact Nat.lt_of_le_of_lt hle1 hlt
  · exact Nat.lt_of_lt_of_le hlt hle0

/-- The watchdog is fuel enough for the outer loop. -/
theorem frameLoop_fuel :
    ∀ (fuel : Nat) (l : FrameLoop W), l.watchdog ≤ fuel →
      frameLoop c startFrames (fuel + 1) l = frameLoop c startFrames fuel l
  | 0, l, h => if_pos (Nat.le_zero.mp h)
  | fuel + 1, l, h => by
    conv_lhs => unfold frameLoop
    conv_rhs => unfold frameLoop
    dsimp only
    by_cases hran : (framePass c startFrames l).ranAny = true
    · rw [frameLoop_fuel fuel (framePass c startFrames l)
        (Nat.le_of_lt_succ (Nat.lt_of_lt_of_le (framePass_watchdog_lt hran) h))]
    · simp only [hran, not_false_eq_true, if_true, Bool.false_eq_true]

/-- **A frame never stalls with both machines blocked**, if that is an invariant of the machines. -/
theorem frameLoop_not_allBlocked {inv : W → Prop} (hrun : ∀ i w, inv w → inv (c.runLoop i w))
    (hawake : ∀ w, inv w →
      ¬(((c.pair w).drivers 0).blocked = true ∧ ((c.pair w).drivers 1).blocked = true)) :
    ∀ (fuel : Nat) (l : FrameLoop W), inv l.world → l.error = none → allDone c l = false →
      (frameLoop c startFrames fuel l).2 ≠ some .allBlocked
  | 0, _, _, _, _ => by simp [frameLoop]
  | fuel + 1, l, h, he, hdone => by
    unfold frameLoop
    split
    · simp
    rename_i hw
    dsimp only
    split
    · exact framePass_error_ne (by simp [he])
    rename_i herr
    rw [if_neg (by simp [framePass_ranAny he hw (hawake _ h) hdone])]
    split
    · simp
    rename_i hnot
    exact frameLoop_not_allBlocked hrun hawake fuel _ (framePass_world hrun h) (by simpa using herr)
      (Bool.eq_false_iff.mpr hnot)

end Turn

end DualBoy.Lockstep
