import DualBoy.Lockstep.Machine

/-!
# The timer of a machine

What the scheduler relies on when it asks mGBA to call it back: an `mTiming` is a list of events
with the time each is due, scheduling puts an event on it that is not there, descheduling takes one
off, and neither touches the other events. `MgbaTimer` adds this to `Mgba`.

`wakeDelay` is how far ahead a machine's lockstep event is. It is negative once the machine's clock
has passed the event, which then waits for the timer to be run.
-/

namespace DualBoy.Lockstep

class MgbaTimer extends Mgba where
  /-- How often an event is on the list. -/
  queued : Timing → TimingEvent → Nat
  /-- What `mTimingInterrupt` makes of `*timing->nextEvent`. -/
  interrupt : Timing → Cycle → Cycle
  isScheduled_eq : ∀ t e, isScheduled t e = decide (0 < queued t e)
  queued_schedule : ∀ t e d, queued t e = 0 → queued (schedule t e d) e = 1
  queued_deschedule : ∀ t e, queued t e ≤ 1 → queued (deschedule t e) e = 0
  queued_schedule_ne : ∀ t e e' d, e ≠ e' → queued (schedule t e d) e' = queued t e'
  queued_deschedule_ne : ∀ t e e', e ≠ e' → queued (deschedule t e) e' = queued t e'
  eventWhen_schedule : ∀ t e d, eventWhen (schedule t e d) e = currentTime t + d
  eventWhen_schedule_ne : ∀ t e e' d, e ≠ e' → eventWhen (schedule t e d) e' = eventWhen t e'
  eventWhen_deschedule_ne : ∀ t e e', e ≠ e' → eventWhen (deschedule t e) e' = eventWhen t e'

section Gba

variable [MgbaTimer]

namespace Gba

/-- How often the lockstep event is scheduled. -/
def timesScheduled (g : Gba) : Nat := MgbaTimer.queued g.timing .lockstep

/-- The cycles until the lockstep event is due. -/
def wakeDelay (g : Gba) : Cycle := cycleFromBits (Mgba.eventWhen g.timing .lockstep - g.now)

/-- `mTimingInterrupt` on this machine. -/
def interrupt (g : Gba) : Gba :=
  { g with cpuNextEvent := MgbaTimer.interrupt g.timing g.cpuNextEvent }

theorem isScheduled_iff (g : Gba) :
    Mgba.isScheduled g.timing .lockstep = true ↔ 0 < g.timesScheduled := by
  rw [MgbaTimer.isScheduled_eq, decide_eq_true_eq]
  rfl

/-! ### Scheduling -/

theorem timesScheduled_schedule {g : Gba} (h : g.timesScheduled = 0) (delay : Cycle) :
    (g.schedule .lockstep delay).timesScheduled = 1 :=
  MgbaTimer.queued_schedule _ _ _ h

theorem timesScheduled_deschedule {g : Gba} (h : g.timesScheduled ≤ 1) :
    (g.deschedule .lockstep).timesScheduled = 0 :=
  MgbaTimer.queued_deschedule _ _ h

/-- An event scheduled after a delay is that far ahead. -/
@[simp] theorem wakeDelay_schedule (g : Gba) (delay : Cycle) :
    (g.schedule .lockstep delay).wakeDelay = delay := by
  have hwhen := MgbaTimer.eventWhen_schedule g.timing .lockstep delay
  unfold wakeDelay
  rw [cycleFromBits_eq, now_schedule]
  change Mgba.eventWhen (Mgba.schedule g.timing .lockstep delay) .lockstep - g.now = delay
  rw [hwhen]
  change g.now + delay - g.now = delay
  bv_omega

/-! ### What leaves the lockstep event alone -/

/-- The two machines have the same clock and the same lockstep event. -/
structure SameWake (g g' : Gba) : Prop where
  now : g'.now = g.now
  times : g'.timesScheduled = g.timesScheduled
  delay : g'.wakeDelay = g.wakeDelay

theorem SameWake.refl (g : Gba) : SameWake g g := ⟨rfl, rfl, rfl⟩

theorem SameWake.trans {g g' g'' : Gba} (h : SameWake g g') (h' : SameWake g' g'') :
    SameWake g g'' :=
  ⟨h'.now.trans h.now, h'.times.trans h.times, h'.delay.trans h.delay⟩

/-- The wake depends on the timing alone. -/
theorem SameWake.of_timing {g g' : Gba} (h : g'.timing = g.timing) : SameWake g g' := by
  constructor
  · exact congrArg Mgba.currentTime h
  · exact congrArg (fun t => MgbaTimer.queued t .lockstep) h
  · unfold wakeDelay Gba.now
    rw [h]

theorem sameWake_yield (g : Gba) : SameWake g g.yield := .of_timing rfl

theorem sameWake_interrupt (g : Gba) : SameWake g g.interrupt := .of_timing rfl

/-- Scheduling the end of a transfer. -/
theorem sameWake_schedule_complete (g : Gba) (delay : Cycle) :
    SameWake g (g.schedule .complete delay) := by
  have hne : TimingEvent.complete ≠ .lockstep := nofun
  constructor
  · exact now_schedule _ _ _
  · exact MgbaTimer.queued_schedule_ne _ _ _ _ hne
  · unfold wakeDelay
    rw [now_schedule]
    exact congrArg (fun w => cycleFromBits (w - g.now)) (MgbaTimer.eventWhen_schedule_ne _ _ _ _ hne)

theorem sameWake_deschedule_complete (g : Gba) : SameWake g (g.deschedule .complete) := by
  have hne : TimingEvent.complete ≠ .lockstep := nofun
  constructor
  · exact now_deschedule _ _
  · exact MgbaTimer.queued_deschedule_ne _ _ _ hne
  · unfold wakeDelay
    rw [now_deschedule]
    exact congrArg (fun w => cycleFromBits (w - g.now)) (MgbaTimer.eventWhen_deschedule_ne _ _ _ hne)

end Gba

end Gba

/-- The plain machine's timer. -/
@[reducible] def plainTimer : MgbaTimer where
  toMgba := plainMgba
  queued t e := if (t.event e).isSome then 1 else 0
  interrupt _ _ := 0
  isScheduled_eq t e := by
    change (t.event e).isSome = _
    cases (t.event e).isSome <;> rfl
  queued_schedule t e d _ := by cases e <;> rfl
  queued_deschedule t e _ := by cases e <;> rfl
  queued_schedule_ne t e e' d h := by cases e <;> cases e' <;> first | rfl | exact absurd rfl h
  queued_deschedule_ne t e e' h := by cases e <;> cases e' <;> first | rfl | exact absurd rfl h
  eventWhen_schedule t e d := by cases e <;> rfl
  eventWhen_schedule_ne t e e' d h := by cases e <;> cases e' <;> first | rfl | exact absurd rfl h
  eventWhen_deschedule_ne t e e' h := by cases e <;> cases e' <;> first | rfl | exact absurd rfl h

end DualBoy.Lockstep
