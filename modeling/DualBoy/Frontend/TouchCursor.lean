import DualBoy.Lib.Run

/-!
# The touch cursor

`touch_cursor.c`: an aim point that shows itself when the stick moves and hides when it rests. The
cursor keeps the position of the last activity apart from the current one, so slow motion adds up.
`lastActivity` says what an activity is over a whole sequence of samples, and `Shown` how long one
lasts.

* `lastActivity_eq_some`: it is the last activity there is.
* `tracks_step`: one update keeps the fields with it.
* **`visible_iff_shown`**.
-/

namespace DualBoy.Frontend

open DualBoy.Lib

/-! ## The source -/

/-- `DUALBOY_TOUCH_CURSOR_TIMEOUT_USEC`. -/
def touchCursorTimeoutUsec : Nat := 3000000

/-- `DUALBOY_TOUCH_CURSOR_FALLBACK_FRAMES`. -/
def touchCursorFallbackFrames : Nat := 180

/-- `DUALBOY_TOUCH_CURSOR_MOTION_PIXELS`. -/
def touchCursorMotionPixels : Nat := 2

/-- `struct dualboy_touch_cursor`. -/
structure TouchCursor where
  x : Nat
  y : Nat
  activityX : Nat
  activityY : Nat
  lastActivityUsec : Nat
  inactiveFrames : Nat
  sampled : Bool
  pressed : Bool
  visible : Bool
  usingClock : Bool
  deriving DecidableEq, Repr

/-- The arguments of an update, less the one that says whether there is a clock. -/
structure CursorSample where
  x : Nat
  y : Nat
  initiallyDeflected : Bool
  pressed : Bool
  nowUsec : Nat
  deriving DecidableEq, Repr

/-- `coordinate_distance`. -/
def coordinateDistance (first second : Nat) : Nat :=
  if second ≤ first then first - second else second - first

/-- `dualboy_touch_cursor_reset`. -/
def touchCursorReset : TouchCursor := ⟨0, 0, 0, 0, 0, 0, false, false, false, false⟩

/-- The last part of `dualboy_touch_cursor_update`, for a sample without activity. -/
def touchCursorRest (cursor : TouchCursor) (timeAvailable : Bool) (nowUsec : Nat) : TouchCursor :=
  if timeAvailable then
    if cursor.usingClock = false ∨ nowUsec < cursor.lastActivityUsec then
      { cursor with lastActivityUsec := nowUsec, inactiveFrames := 0, usingClock := true }
    else if touchCursorTimeoutUsec ≤ nowUsec - cursor.lastActivityUsec then
      { cursor with visible := false }
    else cursor
  else if cursor.usingClock then { cursor with inactiveFrames := 0, usingClock := false }
  else if touchCursorFallbackFrames ≤ cursor.inactiveFrames + 1 then
    { cursor with inactiveFrames := cursor.inactiveFrames + 1, visible := false }
  else { cursor with inactiveFrames := cursor.inactiveFrames + 1 }

/-- `dualboy_touch_cursor_update`. -/
def touchCursorUpdate (timeAvailable : Bool) (cursor : TouchCursor) (sample : CursorSample) :
    TouchCursor :=
  let activity : Bool :=
    if cursor.sampled = false then sample.initiallyDeflected || sample.pressed
    else
      touchCursorMotionPixels ≤ coordinateDistance sample.x cursor.activityX ||
        touchCursorMotionPixels ≤ coordinateDistance sample.y cursor.activityY ||
        (sample.pressed && !cursor.pressed)
  let cursor :=
    if cursor.sampled = false then
      { cursor with
        sampled := true, x := sample.x, y := sample.y
        activityX := sample.x, activityY := sample.y, pressed := sample.pressed }
    else { cursor with x := sample.x, y := sample.y, pressed := sample.pressed }
  if activity then
    { cursor with
      activityX := sample.x, activityY := sample.y, lastActivityUsec := sample.nowUsec
      inactiveFrames := 0, usingClock := timeAvailable, visible := true }
  else if cursor.visible = false then cursor
  else touchCursorRest cursor timeAvailable sample.nowUsec

/-! ## Activities -/

/-- At least two pixels apart on either axis. -/
def Apart (a b : CursorSample) : Prop :=
  (a.x + 2 ≤ b.x ∨ b.x + 2 ≤ a.x) ∨ a.y + 2 ≤ b.y ∨ b.y + 2 ≤ a.y

instance (a b : CursorSample) : Decidable (Apart a b) :=
  inferInstanceAs (Decidable (_ ∨ _))

/-- A sample is an activity, given the last one before it. The first sample is one when the stick
is deflected or pressed, a later one when the stick is pressed anew or is away from where it was at
the last activity, or at the first sample. -/
def ActiveGiven (samples : Nat → CursorSample) (last : Option Nat) : Nat → Prop
  | 0 => (samples 0).initiallyDeflected = true ∨ (samples 0).pressed = true
  | n + 1 =>
    Apart (samples (n + 1)) (samples (last.getD 0)) ∨
      ((samples (n + 1)).pressed = true ∧ (samples n).pressed = false)

instance (samples : Nat → CursorSample) (last : Option Nat) :
    (n : Nat) → Decidable (ActiveGiven samples last n)
  | 0 => inferInstanceAs (Decidable (_ ∨ _))
  | _ + 1 => inferInstanceAs (Decidable (_ ∨ _))

/-- The last activity among the first samples. -/
def lastActivity (samples : Nat → CursorSample) : Nat → Option Nat
  | 0 => none
  | n + 1 =>
    if ActiveGiven samples (lastActivity samples n) n then some n else lastActivity samples n

/-- A sample is an activity. -/
def Activity (samples : Nat → CursorSample) (n : Nat) : Prop :=
  ActiveGiven samples (lastActivity samples n) n

instance (samples : Nat → CursorSample) (n : Nat) : Decidable (Activity samples n) :=
  inferInstanceAs (Decidable (ActiveGiven _ _ _))

/-- The sample of the last activity, or the first. -/
def anchor (samples : Nat → CursorSample) (n : Nat) : CursorSample :=
  samples ((lastActivity samples n).getD 0)

/-- Behind these samples the last activity is less than three seconds ago by the clock or, without
one, less than 180 samples. -/
def Shown (samples : Nat → CursorSample) (timeAvailable : Bool) (n : Nat) : Prop :=
  ∃ i, (i < n ∧ Activity samples i ∧ ∀ j, i < j → j < n → ¬Activity samples j) ∧
    if timeAvailable then
      ∀ j, i < j → j < n → (samples j).nowUsec < (samples i).nowUsec + 3000000
    else n - 1 - i < 180

variable {samples : Nat → CursorSample} {timeAvailable : Bool} {n : Nat}

theorem lastActivity_active (h : Activity samples n) :
    lastActivity samples (n + 1) = some n := if_pos h

theorem lastActivity_inactive (h : ¬Activity samples n) :
    lastActivity samples (n + 1) = lastActivity samples n := if_neg h

/-- **It is the last activity there is.** -/
theorem lastActivity_eq_some (i : Nat) :
    lastActivity samples n = some i ↔
      i < n ∧ Activity samples i ∧ ∀ j, i < j → j < n → ¬Activity samples j := by
  induction n with
  | zero => exact iff_of_false nofun fun h => Nat.not_lt_zero _ h.1
  | succ n ih =>
    by_cases hactive : Activity samples n
    · rw [lastActivity_active hactive]
      constructor
      · intro h
        obtain rfl := Option.some.inj h
        exact ⟨Nat.lt_succ_self _, hactive, fun j hlt hle => absurd hlt (by omega)⟩
      · rintro ⟨hlt, -, hnone⟩
        by_cases hlast : i = n
        · rw [hlast]
        · exact absurd hactive (hnone n (by omega) (Nat.lt_succ_self n))
    · rw [lastActivity_inactive hactive, ih]
      constructor
      · rintro ⟨hlt, hi, hnone⟩
        refine ⟨by omega, hi, fun j hij hj => ?_⟩
        rcases Nat.lt_succ_iff_lt_or_eq.mp hj with hj | rfl
        · exact hnone j hij hj
        · exact hactive
      · rintro ⟨hlt, hi, hnone⟩
        have hne : i ≠ n := by
          rintro rfl
          exact hactive hi
        exact ⟨by omega, hi, fun j hij hj => hnone j hij (by omega)⟩

theorem shown_iff :
    Shown samples timeAvailable n ↔ ∃ i, lastActivity samples n = some i ∧
      if timeAvailable then
        ∀ j, i < j → j < n → (samples j).nowUsec < (samples i).nowUsec + 3000000
      else n - 1 - i < 180 :=
  exists_congr fun i => and_congr_left fun _ => (lastActivity_eq_some i).symm

/-- An activity shows the cursor. -/
theorem Activity.shown (h : Activity samples n) : Shown samples timeAvailable (n + 1) := by
  refine shown_iff.mpr ⟨n, lastActivity_active h, ?_⟩
  cases timeAvailable with
  | true => exact fun j hlt hle => absurd hlt (by omega)
  | false =>
    show n + 1 - 1 - n < 180
    omega

/-- Without one the cursor stays shown until the last activity is too long ago. -/
theorem shown_succ (h : ¬Activity samples n) :
    Shown samples timeAvailable (n + 1) ↔ Shown samples timeAvailable n ∧
      ∀ i, lastActivity samples n = some i →
        if timeAvailable then (samples n).nowUsec < (samples i).nowUsec + 3000000
        else n - i < 180 := by
  rw [shown_iff, shown_iff, lastActivity_inactive h]
  constructor
  · rintro ⟨i, hlast, htime⟩
    have hlt := ((lastActivity_eq_some i).mp hlast).1
    refine ⟨⟨i, hlast, ?_⟩, fun i' hlast' => ?_⟩
    · cases timeAvailable with
      | true => exact fun j hij hj => htime j hij (by omega)
      | false =>
        have hcount : n + 1 - 1 - i < 180 := htime
        show n - 1 - i < 180
        omega
    · obtain rfl := Option.some.inj (hlast.symm.trans hlast')
      cases timeAvailable with
      | true => exact htime n hlt (Nat.lt_succ_self n)
      | false => exact htime
  · rintro ⟨⟨i, hlast, htime⟩, hnow⟩
    refine ⟨i, hlast, ?_⟩
    have hnow := hnow i hlast
    cases timeAvailable with
    | true =>
      intro j hij hj
      rcases Nat.lt_succ_iff_lt_or_eq.mp hj with hj | rfl
      · exact htime j hij hj
      · exact hnow
    | false => exact hnow

/-! ## The fields -/

/-- The cursor behind the first samples since a reset. -/
def cursorAfter (samples : Nat → CursorSample) (timeAvailable : Bool) (n : Nat) : TouchCursor :=
  run (touchCursorUpdate timeAvailable) touchCursorReset (firstOf samples n)

theorem cursorAfter_succ (samples : Nat → CursorSample) (timeAvailable : Bool) (n : Nat) :
    cursorAfter samples timeAvailable (n + 1) =
      touchCursorUpdate timeAvailable (cursorAfter samples timeAvailable n) (samples n) :=
  run_firstOf_last samples n touchCursorReset

/-- What the fields say of the samples seen. -/
structure Tracks (samples : Nat → CursorSample) (timeAvailable : Bool) (n : Nat)
    (cursor : TouchCursor) : Prop where
  sampled : cursor.sampled = decide (n ≠ 0)
  pressed : n ≠ 0 → cursor.pressed = (samples (n - 1)).pressed
  activityX : n ≠ 0 → cursor.activityX = (anchor samples n).x
  activityY : n ≠ 0 → cursor.activityY = (anchor samples n).y
  visible : cursor.visible = true ↔ Shown samples timeAvailable n
  timers : ∀ i, cursor.visible = true → lastActivity samples n = some i →
    cursor.usingClock = timeAvailable ∧ cursor.lastActivityUsec = (samples i).nowUsec ∧
      cursor.inactiveFrames = if timeAvailable then 0 else n - 1 - i

theorem tracks_reset : Tracks samples timeAvailable 0 touchCursorReset where
  sampled := rfl
  pressed h := absurd rfl h
  activityX h := absurd rfl h
  activityY h := absurd rfl h
  visible := iff_of_false nofun fun ⟨_, ⟨hlt, _⟩, _⟩ => Nat.not_lt_zero _ hlt
  timers _ h := nomatch h

theorem coordinateDistance_le (first second : Nat) :
    touchCursorMotionPixels ≤ coordinateDistance first second ↔
      first + 2 ≤ second ∨ second + 2 ≤ first := by
  unfold touchCursorMotionPixels coordinateDistance
  split <;> omega

/-- The cursor moved to a sample, before its timers are looked at. -/
def movedTo (samples : Nat → CursorSample) (n : Nat) (cursor : TouchCursor) : TouchCursor :=
  { cursor with
    sampled := true, x := (samples n).x, y := (samples n).y
    activityX := (anchor samples n).x, activityY := (anchor samples n).y
    pressed := (samples n).pressed }

/-- An update, by whether its sample is an activity. -/
theorem touchCursorUpdate_eq {cursor : TouchCursor} (h : Tracks samples timeAvailable n cursor) :
    touchCursorUpdate timeAvailable cursor (samples n) =
      if Activity samples n then
        { movedTo samples n cursor with
          activityX := (samples n).x, activityY := (samples n).y
          lastActivityUsec := (samples n).nowUsec, inactiveFrames := 0
          usingClock := timeAvailable, visible := true }
      else if cursor.visible = false then movedTo samples n cursor
      else touchCursorRest (movedTo samples n cursor) timeAvailable (samples n).nowUsec := by
  unfold touchCursorUpdate
  cases n with
  | zero =>
    have hsampled : cursor.sampled = false := h.sampled
    have hactivity : ((samples 0).initiallyDeflected || (samples 0).pressed) = true ↔
        Activity samples 0 := Bool.or_eq_true_iff
    simp only [hsampled, if_true, hactivity]
    rfl
  | succ n =>
    have hsampled : cursor.sampled = true := h.sampled.trans (decide_eq_true (Nat.succ_ne_zero n))
    have hactivity : (decide (touchCursorMotionPixels ≤
          coordinateDistance (samples (n + 1)).x cursor.activityX) ||
        decide (touchCursorMotionPixels ≤
          coordinateDistance (samples (n + 1)).y cursor.activityY) ||
        ((samples (n + 1)).pressed && !cursor.pressed)) = true ↔ Activity samples (n + 1) := by
      rw [h.activityX (Nat.succ_ne_zero n), h.activityY (Nat.succ_ne_zero n),
        h.pressed (Nat.succ_ne_zero n)]
      simp only [Bool.or_eq_true, decide_eq_true_eq, coordinateDistance_le, Bool.and_eq_true,
        Bool.not_eq_true']
      rfl
    have hx := (h.activityX (Nat.succ_ne_zero n)).symm
    have hy := (h.activityY (Nat.succ_ne_zero n)).symm
    simp only [hsampled, Bool.true_eq_false, if_false, hactivity, movedTo, hx, hy]

theorem anchor_active (h : Activity samples n) : anchor samples (n + 1) = samples n := by
  unfold anchor
  rw [lastActivity_active h]
  rfl

theorem anchor_inactive (h : ¬Activity samples n) :
    anchor samples (n + 1) = anchor samples n := by
  unfold anchor
  rw [lastActivity_inactive h]

/-- The fields that the timers leave alone. -/
theorem touchCursorRest_position (cursor : TouchCursor) (timeAvailable : Bool) (nowUsec : Nat) :
    (touchCursorRest cursor timeAvailable nowUsec).sampled = cursor.sampled ∧
      (touchCursorRest cursor timeAvailable nowUsec).pressed = cursor.pressed ∧
      (touchCursorRest cursor timeAvailable nowUsec).activityX = cursor.activityX ∧
      (touchCursorRest cursor timeAvailable nowUsec).activityY = cursor.activityY := by
  unfold touchCursorRest
  split
  · split
    · exact ⟨rfl, rfl, rfl, rfl⟩
    · split <;> exact ⟨rfl, rfl, rfl, rfl⟩
  · split
    · exact ⟨rfl, rfl, rfl, rfl⟩
    · split <;> exact ⟨rfl, rfl, rfl, rfl⟩

/-- The timers of a cursor whose last activity was sample `i`. -/
theorem touchCursorRest_timers {cursor : TouchCursor} {i : Nat} {last : CursorSample}
    (hvisible : cursor.visible = true) (hi : i < n)
    (hclock : timeAvailable = true → last.nowUsec ≤ (samples n).nowUsec)
    (htimers : cursor.usingClock = timeAvailable ∧ cursor.lastActivityUsec = last.nowUsec ∧
      cursor.inactiveFrames = if timeAvailable then 0 else n - 1 - i) :
    let rested := touchCursorRest cursor timeAvailable (samples n).nowUsec
    (rested.visible = true ↔
      if timeAvailable then (samples n).nowUsec < last.nowUsec + 3000000 else n - i < 180) ∧
    rested.usingClock = timeAvailable ∧ rested.lastActivityUsec = last.nowUsec ∧
      rested.inactiveFrames = if timeAvailable then 0 else n - i := by
  obtain ⟨husing, hlast, hframes⟩ := htimers
  unfold touchCursorRest
  cases timeAvailable with
  | true =>
    have hle := hclock rfl
    have hsame : ¬(cursor.usingClock = false ∨ (samples n).nowUsec < cursor.lastActivityUsec) := by
      rw [husing, hlast]
      exact not_or.mpr ⟨nofun, Nat.not_lt.mpr hle⟩
    simp only [if_true] at hframes ⊢
    rw [if_neg hsame]
    by_cases hlong : touchCursorTimeoutUsec ≤ (samples n).nowUsec - cursor.lastActivityUsec
    · rw [if_pos hlong]
      unfold touchCursorTimeoutUsec at hlong
      exact ⟨iff_of_false nofun (by omega), husing, hlast, hframes⟩
    · rw [if_neg hlong]
      unfold touchCursorTimeoutUsec at hlong
      exact ⟨iff_of_true hvisible (by omega), husing, hlast, hframes⟩
  | false =>
    have hcount : cursor.inactiveFrames + 1 = n - i := by
      have hframes : cursor.inactiveFrames = n - 1 - i := hframes
      omega
    simp only [Bool.false_eq_true, if_false, husing, hcount]
    by_cases hlong : touchCursorFallbackFrames ≤ n - i
    · rw [if_pos hlong]
      unfold touchCursorFallbackFrames at hlong
      exact ⟨iff_of_false nofun (by omega), rfl, hlast, rfl⟩
    · rw [if_neg hlong]
      unfold touchCursorFallbackFrames at hlong
      exact ⟨iff_of_true hvisible (by omega), rfl, hlast, rfl⟩

/-- **One update keeps the fields with the last activity.** -/
theorem tracks_step {cursor : TouchCursor} (h : Tracks samples timeAvailable n cursor)
    (hclock : timeAvailable = true → ∀ i < n, (samples i).nowUsec ≤ (samples n).nowUsec) :
    Tracks samples timeAvailable (n + 1) (touchCursorUpdate timeAvailable cursor (samples n)) := by
  rw [touchCursorUpdate_eq h]
  by_cases hactive : Activity samples n
  · rw [if_pos hactive]
    refine ⟨rfl, fun _ => rfl, fun _ => ?_, fun _ => ?_, iff_of_true rfl hactive.shown, ?_⟩
    · rw [anchor_active hactive]
    · rw [anchor_active hactive]
    · intro i _ hlast
      rw [lastActivity_active hactive] at hlast
      obtain rfl := Option.some.inj hlast
      refine ⟨rfl, rfl, ?_⟩
      cases timeAvailable with
      | true => rfl
      | false =>
        show 0 = n + 1 - 1 - n
        omega
  rw [if_neg hactive]
  by_cases hvisible : cursor.visible = false
  · -- a hidden cursor stays hidden
    have hhidden : ¬Shown samples timeAvailable n := fun hshown =>
      Bool.false_ne_true (hvisible.symm.trans (h.visible.mpr hshown))
    rw [if_pos hvisible]
    refine ⟨rfl, fun _ => rfl, fun _ => ?_, fun _ => ?_, ?_, ?_⟩
    · rw [anchor_inactive hactive]
      rfl
    · rw [anchor_inactive hactive]
      rfl
    · refine iff_of_false (fun htrue => ?_) fun hshown => hhidden ((shown_succ hactive).mp hshown).1
      exact Bool.false_ne_true (hvisible.symm.trans htrue)
    · intro i htrue
      exact absurd (hvisible.symm.trans htrue) Bool.false_ne_true
  · -- a shown one has an activity, and its timers count from it
    have hvisible : cursor.visible = true := (Bool.not_eq_false _).mp hvisible
    have hshown := h.visible.mp hvisible
    obtain ⟨i, hlast, -⟩ := shown_iff.mp hshown
    have hi := ((lastActivity_eq_some i).mp hlast).1
    have hmoved : (movedTo samples n cursor).visible = true := hvisible
    obtain ⟨hstays, htimers⟩ := touchCursorRest_timers hmoved hi
      (fun htime => hclock htime i hi) (h.timers i hvisible hlast)
    obtain ⟨hsampled, hpressed, hx, hy⟩ :=
      touchCursorRest_position (movedTo samples n cursor) timeAvailable (samples n).nowUsec
    rw [if_neg (by rw [hvisible]; decide)]
    refine ⟨hsampled, fun _ => hpressed, fun _ => ?_, fun _ => ?_, ?_, ?_⟩
    · rw [anchor_inactive hactive, hx]
      rfl
    · rw [anchor_inactive hactive, hy]
      rfl
    · rw [hstays, shown_succ hactive]
      constructor
      · intro htime
        refine ⟨hshown, fun i' hlast' => ?_⟩
        obtain rfl := Option.some.inj (hlast.symm.trans hlast')
        exact htime
      · rintro ⟨-, htime⟩
        exact htime i hlast
    · intro i' _ hlast'
      rw [lastActivity_inactive hactive, hlast] at hlast'
      obtain rfl := Option.some.inj hlast'
      exact htimers

/-- The fields follow the last activity over every sequence of samples. -/
theorem tracks_cursorAfter (n : Nat)
    (hclock : timeAvailable = true →
      ∀ i j, i ≤ j → j < n → (samples i).nowUsec ≤ (samples j).nowUsec) :
    Tracks samples timeAvailable n (cursorAfter samples timeAvailable n) := by
  induction n with
  | zero => exact tracks_reset
  | succ n ih =>
    rw [cursorAfter_succ]
    refine tracks_step (ih fun htime i j hij hj => hclock htime i j hij (by omega)) ?_
    exact fun htime i hi => hclock htime i n (by omega) (Nat.lt_succ_self n)

/-- **The touch cursor is visible just when it is shown by its history**: some activity has occurred
and the last one is not yet too long ago, by a clock that never goes back or, without one, by the
updates since. Motion away from the last activity counts, however slowly it came about. -/
theorem visible_iff_shown (samples : Nat → CursorSample) (timeAvailable : Bool) (n : Nat)
    (hclock : timeAvailable = true →
      ∀ i j, i ≤ j → j < n → (samples i).nowUsec ≤ (samples j).nowUsec) :
    ((cursorAfter samples timeAvailable n).visible = true ↔ Shown samples timeAvailable n) ∧
      ∀ m, n = m + 2 → Apart (samples (m + 1)) (anchor samples (m + 1)) →
        (cursorAfter samples timeAvailable n).visible = true := by
  have htracks := tracks_cursorAfter n hclock
  refine ⟨htracks.visible, ?_⟩
  rintro m rfl hapart
  have hactive : Activity samples (m + 1) := Or.inl hapart
  exact htracks.visible.mpr hactive.shown

/-- A drift of one pixel an update shows the cursor at the third. -/
theorem visible_iff_shown_drift :
    (cursorAfter (fun n => ⟨100 + n, 96, false, false, 16667 * n⟩) true 3).visible = true :=
  (visible_iff_shown _ true 3 fun _ _ _ hij _ => Nat.mul_le_mul_left 16667 hij).2 1 rfl (by decide)

end DualBoy.Frontend
