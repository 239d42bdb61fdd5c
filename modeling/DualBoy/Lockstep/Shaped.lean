import DualBoy.Lockstep.Deadlock

/-!
# What a state of an attached pair holds

The invariant that `SaveState` and `ValidateState` rely on: the coordinator's arrays have their
lengths, and the events queued for player 1 are player 0's.

* **`Shaped.step`**: a step of an attached pair keeps it.
* `exists_shaped_attachLink`: it holds when both players have been attached.
-/

namespace DualBoy.Lockstep

open DualBoy.Lib

variable [Mgba]

namespace Duo

/-- The coordinator's arrays have their lengths, and player 1's events their player. -/
structure Shaped (d : Duo) : Prop where
  named1 : ∀ event ∈ d.p1.queue, event.playerId = 0
  multi : d.coordinator.multiData.length = 4
  normal : d.coordinator.normalData.length = 4

variable {d d' : Duo}

/-! ## Sleeping, waking and the clock -/

theorem Shaped.wake0 (h : Shaped d) : Shaped d.wake0 := by
  unfold Duo.wake0
  split
  · exact { h with }
  · exact h

theorem Shaped.wake1 (h : Shaped d) : Shaped d.wake1 := by
  unfold Duo.wake1
  split
  · exact { h with }
  · exact h

theorem Shaped.sleep0 (h : Shaped d) : Shaped d.sleep0 := by
  unfold Duo.sleep0
  split
  · exact h
  · exact { h with }

theorem Shaped.sleep1 (h : Shaped d) : Shaped d.sleep1 := by
  unfold Duo.sleep1
  split
  · exact h
  · exact { h with }

theorem Shaped.advance (h : Shaped d) : Shaped d.advance := by
  unfold Duo.advance
  dsimp only
  split
  · exact h
  · exact { h with }

/-! ## Events and the barrier -/

theorem Shaped.pushNoted (h : Shaped d) (p : PlayerState) :
    Shaped { d with coordinator := pushNoted d.coordinator p } := by
  unfold Duo.pushNoted
  split
  · exact { h with }
  · exact h

theorem Shaped.post0 (h : Shaped d) (event : Event) : Shaped (d.post0 event).1 := by
  unfold Duo.post0
  split
  · exact { h with }
  · exact { h.pushNoted d.p0 with }

theorem Shaped.post1 (h : Shaped d) {event : Event} (hevent : event.playerId = 0) :
    Shaped (d.post1 event).1 := by
  unfold Duo.post1
  split
  · exact { h with }
  · refine { h.pushNoted d.p1 with named1 := fun e he => ?_ }
    rcases mem_insertBefore.mp he with rfl | he
    · exact hevent
    · exact h.named1 e he

theorem Shaped.wait (h : Shaped d) : Shaped d.wait := by
  have hchecked : Shaped d.checked := { h with }
  have hraised : Shaped d.checked.advance.raise := { hchecked.advance with }
  exact hraised.sleep0.wake1

theorem Shaped.release (h : Shaped d) : Shaped d.release := by
  unfold Duo.release
  split
  · exact Shaped.wake0 { h with }
  · exact h.wake0

theorem Shaped.ack (h : Shaped d) : Shaped d.ack := by
  have hlower : Shaped d.lower := { h with }
  unfold Duo.ack
  split
  · exact h
  · split
    · exact hlower.release.sleep1
    · exact hlower.sleep1

theorem Shaped.hardSync (h : Shaped d) : Shaped d.hardSync := by
  have hpost : Shaped (d.post1 { type := .hardSync, playerId := 0, timestamp := d.time0 }).1 :=
    h.post1 rfl
  unfold Duo.hardSync
  dsimp only
  split
  · exact hpost.wait
  · exact hpost

/-! ## Data and readiness -/

theorem Shaped.stored (h : Shaped d) (id : Nat) (gba : Gba) :
    Shaped { d with coordinator := stored d.coordinator id gba } := by
  unfold Duo.stored
  split
  · exact { h with multi := by rw [List.length_set]; exact h.multi }
  · exact { h with normal := by rw [List.length_set]; exact h.normal }
  · exact { h with normal := by rw [List.length_set, List.length_set]; exact h.normal }
  · exact h

theorem Shaped.sample0 (h : Shaped d) (transfer : Nat) : Shaped (d.sample0 transfer) :=
  { h.stored 0 d.d0.gba with }

theorem Shaped.sample1 (h : Shaped d) (transfer : Nat) : Shaped (d.sample1 transfer) :=
  { h.stored 1 d.d1.gba with }

theorem Shaped.setReady0 (h : Shaped d) (id : Nat) (mode : Mode) : Shaped (d.setReady0 id mode) :=
  { h with }

theorem Shaped.setReady1 (h : Shaped d) (id : Nat) (mode : Mode) : Shaped (d.setReady1 id mode) :=
  { h with }

/-! ## The queue loops -/

theorem Shaped.handle0 (h : Shaped d) (event : QueuedEvent) : Shaped (d.handle0 event) := by
  unfold Duo.handle0
  split
  · have hset : Shaped ((d.setReady0 1 .none).modifyGba0 fun g =>
        { g with siocnt := Mgba.multiplayerClearSlave g.siocnt }) := { h.setReady0 1 .none with }
    exact hset.post1 rfl
  · exact h.setReady0 1 _
  · exact h

theorem Shaped.handle1 (h : Shaped d) (event : QueuedEvent) (cyclesLate : BitVec 32) :
    Shaped (d.handle1 event cyclesLate) := by
  unfold Duo.handle1
  split
  · exact h.ack
  · exact Shaped.ack { h.sample1 d.ghost.current with }
  · exact (h.setReady1 0 _).ack
  · exact h

theorem Shaped.turn0 (h : Shaped d) (event : QueuedEvent) (rest : List QueuedEvent) :
    Shaped (d.turn0 event rest) := by
  have htaken : Shaped (d.taken0 event rest) := { h with }
  exact { htaken.handle0 event with }

theorem Shaped.turn1 (h : Shaped d) (event : QueuedEvent) {rest : List QueuedEvent}
    (hrest : ∀ e ∈ rest, e.playerId = 0) (cyclesLate : BitVec 32) :
    Shaped (d.turn1 event rest cyclesLate) := by
  have htaken : Shaped (d.taken1 event rest) := { h with named1 := hrest }
  exact { htaken.handle1 event cyclesLate with }

theorem Shaped.loop0 (queue : List QueuedEvent) (h : Shaped d) : Shaped (d.loop0 queue) := by
  induction queue generalizing d with
  | nil => exact h
  | cons event rest ih =>
    unfold Duo.loop0
    split
    · exact ih (h.turn0 event rest)
    · exact h

theorem Shaped.loop1 (cyclesLate : BitVec 32) {queue : List QueuedEvent} (h : Shaped d)
    (hqueue : ∀ e ∈ queue, e.playerId = 0) : Shaped (d.loop1 cyclesLate queue) := by
  induction queue generalizing d with
  | nil => exact h
  | cons event rest ih =>
    have hrest : ∀ e ∈ rest, e.playerId = 0 := fun e he => hqueue e (List.mem_cons_of_mem _ he)
    unfold Duo.loop1
    split
    · exact ih (h.turn1 event hrest cyclesLate) hrest
    · exact h

theorem Shaped.wakeIdle (h : Shaped d) : Shaped d.wakeIdle := by
  unfold Duo.wakeIdle
  split
  · exact h
  · exact h.wake1

theorem Shaped.syncIdle (h : Shaped d) : Shaped d.syncIdle := by
  unfold Duo.syncIdle
  split
  · exact h.hardSync
  · exact h

theorem Shaped.syncDeferred (h : Shaped d) : Shaped d.syncDeferred := { h with }

theorem Shaped.ownClock0 (h : Shaped d) : Shaped d.ownClock0 := by
  have hidle := h.advance.wakeIdle
  unfold Duo.ownClock0
  split
  · unfold Duo.syncIfDue
    split
    · exact hidle.syncIdle.syncDeferred
    · exact hidle
  · exact h

/-! ## Modes, transfers and resets -/

theorem Shaped.setMode0 (h : Shaped d) (mode : Mode) : Shaped (d.setMode0 mode) := by
  have hmode : Shaped { d with
      coordinator := { d.coordinator with transferMode := mode }
      p0 := { d.p0 with mode } } := { h with }
  have henter : Shaped (d.enter0 mode) := hmode.setReady0 0 mode
  have hpost : Shaped ((d.enter0 mode).post1
      { type := .modeSet mode, playerId := 0, timestamp := d.time0 }).1 := henter.post1 rfl
  unfold Duo.setMode0
  split
  · exact h
  · unfold Duo.changeMode0
    dsimp only
    split
    · split
      · exact Shaped.wait { hpost with }
      · exact { hpost with }
    · exact hpost

theorem Shaped.setMode1 (h : Shaped d) (mode : Mode) : Shaped (d.setMode1 mode) := by
  have hmode : Shaped { d with p1 := { d.p1 with mode } } := { h with }
  have henter : Shaped (d.enter1 mode) := hmode.setReady1 1 mode
  have hpost := henter.post0 { type := .modeSet mode, playerId := 1, timestamp := d.time1 }
  unfold Duo.setMode1
  split
  · exact h
  · unfold Duo.changeMode1
    dsimp only
    split
    · exact { hpost with }
    · exact hpost

theorem Shaped.activated (h : Shaped d) : Shaped d.activated := by
  unfold Duo.activated
  dsimp only
  split
  · exact { h with }
  · exact { h with }

theorem Shaped.start0 (h : Shaped d) : Shaped d.start0 := by
  have hcleared : Shaped { d with
      coordinator := { d.coordinator with multiData := List.replicate 4 0xffff#16 } } :=
    { h with multi := rfl }
  have hprimed : Shaped d.primed0 := hcleared.sample0 _
  have hpost : Shaped (d.primed0.post1 d.transferEvent).1 := hprimed.post1 rfl
  unfold Duo.start0
  split
  · exact h
  · dsimp only
    split
    · split
      · exact hpost.activated.wait
      · exact hpost.activated
    · exact hpost

theorem Shaped.finished0 (h : Shaped d) : Shaped d.finished0 := by
  have hclear : Shaped { d with p0 := { d.p0 with dataReceived := false } } := { h with }
  unfold Duo.finished0
  dsimp only
  split
  · exact hclear
  · split
    · exact { hclear with }
    · exact hclear.hardSync

theorem Shaped.finished1 (h : Shaped d) : Shaped d.finished1 := { h with }

theorem Shaped.delivered (h : Shaped d) (playerId : Int) (words : List (Int × BitVec 32)) :
    Shaped (d.delivered playerId words) := { h with }

theorem Shaped.finishMulti0 (h : Shaped d) : Shaped d.finishMulti0 := by
  unfold Duo.finishMulti0
  split
  · split
    · exact (h.delivered _ _).finished0
    · exact h.finished0
  · exact h

theorem Shaped.finishMulti1 (h : Shaped d) : Shaped d.finishMulti1 := by
  unfold Duo.finishMulti1
  split
  · split
    · exact (h.delivered _ _).finished1
    · exact h.finished1
  · exact h

theorem Shaped.finishNormal0 (h : Shaped d) (mode : Mode) : Shaped (d.finishNormal0 mode) := by
  unfold Duo.finishNormal0
  split
  · exact h.finished0
  · exact h

theorem Shaped.finishNormal1 (h : Shaped d) (mode : Mode) : Shaped (d.finishNormal1 mode) := by
  unfold Duo.finishNormal1
  split
  · split
    · exact (h.delivered _ _).finished1
    · exact h.finished1
  · exact h

theorem Shaped.rescheduledReset0 (h : Shaped d) (delay : Cycle) :
    Shaped (d.rescheduledReset0 delay) :=
  { (h.setReady0 0 d.p0.mode).setReady0 0 d.coordinator.transferMode with }

theorem Shaped.rescheduledReset1 (h : Shaped d) (delay : Cycle) :
    Shaped (d.rescheduledReset1 delay) :=
  { (h.setReady1 1 d.p1.mode).setReady1 0 d.coordinator.transferMode with }

/-- **One step.** -/
theorem Shaped.step {a : Action} (h : Shaped d) (hs : Step d a d') : Shaped d' := by
  have hrebased0 : Shaped d.rebased0 := { h with }
  have hrebased1 : Shaped d.rebased1 := { h with }
  cases hs with
  | run0 gba loadingMachineState => exact { h with }
  | run1 gba loadingMachineState => exact { h with }
  | setMode0 mode => exact h.setMode0 mode
  | setMode1 mode => exact h.setMode1 mode
  | start0 => exact h.start0
  | start1 => exact h
  | finishMulti0 data => exact h.finishMulti0
  | finishMulti1 data => exact h.finishMulti1
  | finishNormal8_0 => exact h.finishNormal0 _
  | finishNormal8_1 => exact h.finishNormal1 _
  | finishNormal32_0 => exact h.finishNormal0 _
  | finishNormal32_1 => exact h.finishNormal1 _
  | event0 cyclesLate delay => exact { h.ownClock0.loop0 d.p0.queue with }
  | event1 cyclesLate delay => exact { h.loop1 cyclesLate h.named1 with }
  | event1Sleep cyclesLate delay hq => exact { (h.loop1 cyclesLate h.named1).sleep1 with }
  | reset0 => exact hrebased0
  | reset0Scheduled delay => exact hrebased0.rescheduledReset0 delay
  | reset1 => exact hrebased1
  | reset1Scheduled delay => exact hrebased1.rescheduledReset1 delay

/-- So it is when both players have been attached. -/
theorem exists_shaped_attachLink (gba0 gba1 : Gba) :
    ∃ d : Duo, attachLink gba0 gba1 = d.toPair ∧ d.Scheduled ∧ Shaped d := by
  obtain ⟨gba, otherModes, cycle, h⟩ := attachLink_toPair gba0 gba1
  have hshaped : Shaped (attachedBoth gba gba1 gba0.mode otherModes cycle) :=
    ⟨fun e he => absurd he List.not_mem_nil, rfl, rfl⟩
  have hannounced := hshaped.post0
    { type := .attach, playerId := 1, timestamp := (attachedBoth gba gba1 gba0.mode otherModes cycle).time1 }
  have hscheduled :=
    (attachedBoth_scheduled gba gba1 gba0.mode otherModes cycle).announced1
  rcases resetSchedule_toPair1 (announced1 (attachedBoth gba gba1 gba0.mode otherModes cycle))
    with hr | ⟨delay, hr⟩
  · exact ⟨_, h.trans hr, hscheduled, hannounced⟩
  · exact ⟨_, h.trans hr, hscheduled.rescheduledReset1 delay, hannounced.rescheduledReset1 delay⟩

end Duo

end DualBoy.Lockstep
