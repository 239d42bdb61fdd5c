import DualBoy.Lockstep.Attach
import DualBoy.Lockstep.Frame

/-!
# The scheduler does not deadlock

`Core` ties the sleep flags, the barrier and the queues together, whatever is going on inside a
callback; `Scheduled` adds what holds between callbacks: while the barrier stands, the secondary has
an event that takes it down.
-/

namespace DualBoy.Lockstep

open DualBoy.Lib

variable [Mgba]

namespace Duo

/-! ## The invariant -/

/-- What holds throughout a callback. -/
structure Core (d : Duo) : Prop where
  bit : d.coordinator.waiting = 0 ∨ d.coordinator.waiting = target 1
  asleep0 : d.p0.asleep = true ↔ d.coordinator.waiting ≠ 0
  awake1 : d.coordinator.waiting ≠ 0 → d.p1.asleep = false
  blocked0 : d.d0.blocked = d.p0.asleep
  blocked1 : d.d1.blocked = d.p1.asleep
  acknowledged1 : ∀ event ∈ d.p1.queue, acknowledged event.toEvent
  announced0 : ∀ event ∈ d.p0.queue, announced event.toEvent
  asserts : d.ghost.assertsHeld = true

/-- What holds between callbacks. -/
structure Scheduled (d : Duo) : Prop extends Core d where
  pending : d.coordinator.waiting ≠ 0 → d.p1.queue ≠ []
  active : d.coordinator.transferActive = true → d.coordinator.waiting ≠ 0

theorem Core.awake0 {d : Duo} (h : Core d) (hw : d.coordinator.waiting = 0) :
    d.p0.asleep = false := by
  have := h.asleep0
  simpa [hw] using this

theorem Core.wake1 {d : Duo} (h : Core d) : Core d.wake1 := by
  unfold Duo.wake1
  split
  · exact { h with awake1 := fun _ => rfl, blocked1 := rfl }
  · exact h

theorem Core.sleep1 {d : Duo} (h : Core d) (hw : d.coordinator.waiting = 0) : Core d.sleep1 := by
  unfold Duo.sleep1
  split
  · exact h
  · exact { h with awake1 := fun hne => absurd hw hne, blocked1 := rfl }

theorem Core.advance {d : Duo} (h : Core d) : Core d.advance := by
  unfold Duo.advance
  dsimp only
  split
  · exact h
  · exact { h with }

theorem Core.modifyGba0 {d : Duo} (h : Core d) (f : Gba → Gba) : Core (d.modifyGba0 f) := { h with }

theorem Core.modifyGba1 {d : Duo} (h : Core d) (f : Gba → Gba) : Core (d.modifyGba1 f) := { h with }

theorem Core.setReady0 {d : Duo} (h : Core d) (id : Nat) (mode : Mode) :
    Core (d.setReady0 id mode) := { h with }

theorem Core.setReady1 {d : Duo} (h : Core d) (id : Nat) (mode : Mode) :
    Core (d.setReady1 id mode) := { h with }

theorem Core.sample0 {d : Duo} (h : Core d) (transfer : Nat) : Core (d.sample0 transfer) where
  bit := by simpa [Duo.sample0] using h.bit
  asleep0 := by simpa [Duo.sample0] using h.asleep0
  awake1 := by simpa [Duo.sample0] using h.awake1
  blocked0 := h.blocked0
  blocked1 := h.blocked1
  acknowledged1 := h.acknowledged1
  announced0 := h.announced0
  asserts := by simpa [Duo.sample0] using h.asserts

theorem Core.sample1 {d : Duo} (h : Core d) (transfer : Nat) : Core (d.sample1 transfer) where
  bit := by simpa [Duo.sample1] using h.bit
  asleep0 := by simpa [Duo.sample1] using h.asleep0
  awake1 := by simpa [Duo.sample1] using h.awake1
  blocked0 := h.blocked0
  blocked1 := h.blocked1
  acknowledged1 := h.acknowledged1
  announced0 := h.announced0
  asserts := by simpa [Duo.sample1] using h.asserts

/-! ## Queues and the barrier -/

omit [Mgba] in
@[simp] theorem pushNoted_waiting (c : CoordinatorState) (p : PlayerState) :
    (pushNoted c p).waiting = c.waiting := by
  unfold pushNoted
  split <;> rfl

omit [Mgba] in
@[simp] theorem pushNoted_transferActive (c : CoordinatorState) (p : PlayerState) :
    (pushNoted c p).transferActive = c.transferActive := by
  unfold pushNoted
  split <;> rfl

@[simp] theorem waiting_post0 (d : Duo) (event : Event) :
    (d.post0 event).1.coordinator.waiting = d.coordinator.waiting := by
  unfold Duo.post0
  split
  · rfl
  · exact pushNoted_waiting _ _

@[simp] theorem transferActive_post0 (d : Duo) (event : Event) :
    (d.post0 event).1.coordinator.transferActive = d.coordinator.transferActive := by
  unfold Duo.post0
  split
  · rfl
  · exact pushNoted_transferActive _ _

theorem Core.post0 {d : Duo} (h : Core d) {event : Event} (hev : announced event) :
    Core (d.post0 event).1 := by
  unfold Duo.post0
  split
  · exact { h with }
  · exact
      { h with
        bit := by simpa [reschedule0] using h.bit
        asleep0 := by simpa [reschedule0, pushed] using h.asleep0
        awake1 := by simpa [reschedule0] using h.awake1
        announced0 := by
          intro e he
          rcases mem_insertBefore.mp he with rfl | he
          · exact hev
          · exact h.announced0 e he }

theorem Core.post1 {d : Duo} (h : Core d) {event : Event} (hev : acknowledged event) :
    Core (d.post1 event).1 := by
  unfold Duo.post1
  split
  · exact { h with }
  · exact
      { h with
        bit := by simpa [reschedule1] using h.bit
        asleep0 := by simpa [reschedule1] using h.asleep0
        awake1 := by simpa [reschedule1, pushed] using h.awake1
        acknowledged1 := by
          intro e he
          rcases mem_insertBefore.mp he with rfl | he
          · exact hev
          · exact h.acknowledged1 e he }

/-- A refused event leaves the queue alone, an accepted one is in it. -/
theorem queue1_post1_ne_nil {d : Duo} {event : Event}
    (h : (d.post1 event).2 = true ∨ d.p1.queue ≠ []) : (d.post1 event).1.p1.queue ≠ [] := by
  revert h
  unfold Duo.post1
  split
  · simp
  · exact fun _ => insertBefore_ne_nil _ _ _

@[simp] theorem waiting_post1 (d : Duo) (event : Event) :
    (d.post1 event).1.coordinator.waiting = d.coordinator.waiting := by
  unfold Duo.post1
  split
  · rfl
  · exact pushNoted_waiting _ _

omit [Mgba] in
theorem target1_ne_zero : target 1 ≠ 0 := by decide

/-- Where `WaitOnPlayers` is called, its `mASSERT`s hold. -/
theorem Core.checked {d : Duo} (h : Core d) (hw : d.coordinator.waiting = 0) : Core d.checked :=
  { h with asserts := by simp [Duo.checked, h.asserts, hw, h.awake0 hw] }

/-- The barrier goes up, player 0 goes to sleep and player 1 wakes. -/
theorem Core.blocked {d : Duo} (h : Core d) (hw : d.coordinator.waiting = 0) :
    Core d.raise.sleep0.wake1 := by
  have hsleep : d.raise.sleep0 =
      { d.raise with
        p0 := { d.p0 with asleep := true }
        d0 := { d.d0 with blocked := true, gba := d.d0.gba.yield } } := if_neg (by
    rw [show d.raise.p0.asleep = false from h.awake0 hw]
    exact Bool.false_ne_true)
  rw [hsleep]
  unfold Duo.wake1
  split
  · exact
      { h with
        bit := Or.inr rfl
        asleep0 := ⟨fun _ => target1_ne_zero, fun _ => rfl⟩
        awake1 := fun _ => rfl
        blocked0 := rfl
        blocked1 := rfl }
  · rename_i hawake
    exact
      { h with
        bit := Or.inr rfl
        asleep0 := ⟨fun _ => target1_ne_zero, fun _ => rfl⟩
        awake1 := fun _ => Bool.not_eq_true _ ▸ hawake
        blocked0 := rfl }

theorem Core.wait {d : Duo} (h : Core d) (hw : d.coordinator.waiting = 0) : Core d.wait :=
  (h.checked hw).advance.blocked ((waiting_advance _).trans hw)

theorem waiting_wait (d : Duo) : d.wait.coordinator.waiting = target 1 := by
  simp [Duo.wait, raise]

/-- With no barrier an acknowledgement is ignored. -/
theorem ack_of_waiting_eq_zero {d : Duo} (hw : d.coordinator.waiting = 0) : d.ack = d := by
  unfold Duo.ack
  rw [hw]
  rfl

/-- Player 1's acknowledgement takes the barrier down. -/
theorem ack_of_waiting_eq_target {d : Duo} (hw : d.coordinator.waiting = target 1) :
    d.ack = d.lower.release.sleep1 := by
  have hlow : d.lower.coordinator.waiting = 0 := by
    simp only [lower, hw]
    decide
  unfold Duo.ack
  rw [if_neg (by rw [hw]; decide), if_pos hlow]

theorem waiting_lower {d : Duo} (hw : d.coordinator.waiting = target 1) :
    d.lower.coordinator.waiting = 0 := by
  simp only [lower, hw]
  decide

@[simp] theorem waiting_release (d : Duo) :
    d.release.coordinator.waiting = d.coordinator.waiting := by
  unfold release
  rw [coordinator_wake0]
  split <;> rfl

@[simp] theorem transferActive_release (d : Duo) :
    d.release.coordinator.transferActive = false := by
  unfold release
  rw [coordinator_wake0]
  split
  · rfl
  · rename_i h
    simpa using h

/-- The barrier goes down, player 0 wakes and player 1 goes to sleep. -/
theorem Core.released {d : Duo} (h : Core d) (hw : d.coordinator.waiting = target 1) :
    Core d.lower.release.sleep1 := by
  have hlow := waiting_lower hw
  have hasleep : d.p0.asleep = true := h.asleep0.mpr (hw ▸ target1_ne_zero)
  have hwoken (e : Duo) (he : e.p0.asleep = true) : e.wake0 =
      { e with p0 := { e.p0 with asleep := false }, d0 := { e.d0 with blocked := false } } :=
    if_pos he
  refine Core.sleep1 ?_ ((waiting_release _).trans hlow)
  unfold release
  rw [hwoken _ (by split <;> exact hasleep)]
  split
  all_goals exact
    { h with
      bit := Or.inl hlow
      asleep0 := ⟨fun hf => absurd hf Bool.false_ne_true, fun hne => absurd hlow hne⟩
      awake1 := fun hne => absurd hlow hne
      blocked0 := rfl }

theorem Core.ack {d : Duo} (h : Core d) : Core d.ack := by
  rcases h.bit with hw | hw
  · rwa [ack_of_waiting_eq_zero hw]
  · rw [ack_of_waiting_eq_target hw]
    exact h.released hw

/-- After an acknowledgement the barrier is down. -/
theorem waiting_ack {d : Duo} (h : Core d) : d.ack.coordinator.waiting = 0 := by
  rcases h.bit with hw | hw
  · rwa [ack_of_waiting_eq_zero hw]
  · rw [ack_of_waiting_eq_target hw, coordinator_sleep1, waiting_release, waiting_lower hw]

/-- After an acknowledgement no transfer is on its way. -/
theorem transferActive_ack {d : Duo} (h : Core d)
    (hactive : d.coordinator.transferActive = true → d.coordinator.waiting ≠ 0) :
    d.ack.coordinator.transferActive = false := by
  rcases h.bit with hw | hw
  · rw [ack_of_waiting_eq_zero hw]
    exact Bool.eq_false_iff.mpr fun ht => hactive ht hw
  · rw [ack_of_waiting_eq_target hw, coordinator_sleep1, transferActive_release]

/-! ## The queue loops -/

theorem Core.taken1 {d : Duo} (h : Core d) {event : QueuedEvent} {rest : List QueuedEvent}
    (hq : d.p1.queue = event :: rest) : Core (d.taken1 event rest) :=
  { h with acknowledged1 := fun e he => h.acknowledged1 e (hq ▸ List.mem_cons_of_mem _ he) }

theorem Core.taken0 {d : Duo} (h : Core d) {event : QueuedEvent} {rest : List QueuedEvent}
    (hq : d.p0.queue = event :: rest) : Core (d.taken0 event rest) :=
  { h with announced0 := fun e he => h.announced0 e (hq ▸ List.mem_cons_of_mem _ he) }

/-- What player 1 does with an event ends in an acknowledgement. -/
theorem handle1_eq_ack {event : QueuedEvent} (hev : acknowledged event.toEvent) {d : Duo}
    (h : Core d) (cyclesLate : BitVec 32) :
    ∃ d', Core d' ∧ d'.coordinator.waiting = d.coordinator.waiting ∧
      d'.coordinator.transferActive = d.coordinator.transferActive ∧
      d.handle1 event cyclesLate = d'.ack := by
  unfold acknowledged at hev
  unfold handle1
  cases htype : event.type with
  | attach => simp [htype] at hev
  | detach => simp [htype] at hev
  | hardSync => exact ⟨d, h, rfl, rfl, rfl⟩
  | modeSet mode => exact ⟨_, h.setReady1 0 mode, rfl, rfl, rfl⟩
  | transferStart finishCycle =>
    exact ⟨_, (h.sample1 d.ghost.current).modifyGba1 _, stored_waiting _ _ _,
      stored_transferActive _ _ _, rfl⟩

/-- A turn of player 1 leaves no barrier standing. -/
theorem waiting_turn1 {d : Duo} (h : Scheduled d) {event : QueuedEvent} {rest : List QueuedEvent}
    (hq : d.p1.queue = event :: rest) (cyclesLate : BitVec 32) :
    (d.turn1 event rest cyclesLate).coordinator.waiting = 0 := by
  obtain ⟨d', hcore, -, -, heq⟩ := handle1_eq_ack
    (h.acknowledged1 event (hq ▸ List.mem_cons_self)) (h.toCore.taken1 hq) cyclesLate
  exact (congrArg (fun d : Duo => d.coordinator.waiting) heq).trans (waiting_ack hcore)

theorem Scheduled.turn1 {d : Duo} (h : Scheduled d) {event : QueuedEvent}
    {rest : List QueuedEvent} (hq : d.p1.queue = event :: rest) (cyclesLate : BitVec 32) :
    Scheduled (d.turn1 event rest cyclesLate) := by
  have hev := h.acknowledged1 event (hq ▸ List.mem_cons_self)
  obtain ⟨d', hcore, hwait, hactive, heq⟩ :=
    handle1_eq_ack hev (h.toCore.taken1 hq) cyclesLate
  unfold Duo.turn1
  dsimp only
  rw [heq]
  have hdown := waiting_ack hcore
  exact
    { hcore.ack with
      pending := fun hne => absurd hdown hne
      active := fun ht => by
        have := transferActive_ack hcore (by
          rw [hactive, hwait]
          exact h.active)
        exact absurd (this.symm.trans ht) Bool.false_ne_true }

theorem Scheduled.loop1 (cyclesLate : BitVec 32) :
    ∀ {queue : List QueuedEvent} {d : Duo}, Scheduled d → d.p1.queue = queue →
      Scheduled (d.loop1 cyclesLate queue)
  | [], _, h, _ => h
  | event :: rest, d, h, hq => by
    unfold Duo.loop1
    split
    · exact (h.turn1 hq cyclesLate).loop1 cyclesLate (queue1_turn1 _ _ _ _)
    · exact h

/-- Once player 1 has worked off an event, no barrier stands. -/
theorem waiting_loop1 (cyclesLate : BitVec 32) :
    ∀ {queue : List QueuedEvent} {d : Duo}, Scheduled d → d.p1.queue = queue →
      (d.coordinator.waiting ≠ 0 → ∃ event ∈ queue.head?, due event d.time1) →
      (d.loop1 cyclesLate queue).coordinator.waiting = 0
  | [], d, _, _, hdue => by
    by_contra hne
    simpa using hdue hne
  | event :: rest, d, h, hq, hdue => by
    unfold Duo.loop1
    split
    · exact waiting_loop1 cyclesLate (h.turn1 hq cyclesLate) (queue1_turn1 _ _ _ _)
        fun hne => absurd (waiting_turn1 h hq cyclesLate) hne
    · rename_i hnot
      by_contra hne
      simpa [hnot] using hdue hne

@[simp] theorem transferActive_post1 (d : Duo) (event : Event) :
    (d.post1 event).1.coordinator.transferActive = d.coordinator.transferActive := by
  unfold Duo.post1
  split
  · rfl
  · exact pushNoted_transferActive _ _

theorem Scheduled.post1 {d : Duo} (h : Scheduled d) {event : Event} (hev : acknowledged event) :
    Scheduled (d.post1 event).1 :=
  { h.toCore.post1 hev with
    pending := fun hne => queue1_post1_ne_nil (Or.inr (h.pending (waiting_post1 d event ▸ hne)))
    active := by
      rw [transferActive_post1, waiting_post1]
      exact h.active }

theorem Scheduled.post0 {d : Duo} (h : Scheduled d) {event : Event} (hev : announced event) :
    Scheduled (d.post0 event).1 :=
  { h.toCore.post0 hev with
    pending := by
      rw [waiting_post0, queue1_post0]
      exact h.pending
    active := by
      rw [transferActive_post0, waiting_post0]
      exact h.active }

theorem Scheduled.modifyGba0 {d : Duo} (h : Scheduled d) (f : Gba → Gba) :
    Scheduled (d.modifyGba0 f) := { h with }

theorem Scheduled.modifyGba1 {d : Duo} (h : Scheduled d) (f : Gba → Gba) :
    Scheduled (d.modifyGba1 f) := { h with }

theorem Scheduled.setReady0 {d : Duo} (h : Scheduled d) (id : Nat) (mode : Mode) :
    Scheduled (d.setReady0 id mode) := { h with }

theorem Scheduled.setReady1 {d : Duo} (h : Scheduled d) (id : Nat) (mode : Mode) :
    Scheduled (d.setReady1 id mode) := { h with }

theorem Scheduled.turn0 {d : Duo} (h : Scheduled d) {event : QueuedEvent}
    {rest : List QueuedEvent} (hq : d.p0.queue = event :: rest) :
    Scheduled (d.turn0 event rest) := by
  have htaken : Scheduled (d.taken0 event rest) := { h with toCore := h.toCore.taken0 hq }
  have hhandle : Scheduled ((d.taken0 event rest).handle0 event) := by
    unfold handle0
    split
    · exact ((htaken.setReady0 1 .none).modifyGba0 _).post1 rfl
    · exact htaken.setReady0 1 _
    · exact htaken
  exact { hhandle with }

theorem Scheduled.loop0 :
    ∀ {queue : List QueuedEvent} {d : Duo}, Scheduled d → d.p0.queue = queue →
      Scheduled (d.loop0 queue)
  | [], _, h, _ => h
  | event :: rest, d, h, hq => by
    unfold Duo.loop0
    split
    · exact (h.turn0 hq).loop0 (queue0_turn0 _ _ _)
    · exact h

/-! ## The callbacks -/

theorem Scheduled.advance {d : Duo} (h : Scheduled d) : Scheduled d.advance :=
  { h.toCore.advance with
    pending := by
      rw [waiting_advance, queue1_advance]
      exact h.pending
    active := by
      rw [waiting_advance, transferActive_advance]
      exact h.active }

theorem Scheduled.wakeIdle {d : Duo} (h : Scheduled d) : Scheduled d.wakeIdle := by
  unfold Duo.wakeIdle
  split
  · exact h
  · exact
      { h.toCore.wake1 with
        pending := by simpa using h.pending
        active := by simpa using h.active }

/-- The barrier is raised over a queue that holds something. -/
theorem Scheduled.wait {d : Duo} (h : Core d) (hw : d.coordinator.waiting = 0)
    (hq : d.p1.queue ≠ []) : Scheduled d.wait :=
  { h.wait hw with
    pending := fun _ => by rwa [queue1_wait]
    active := fun _ => by
      rw [waiting_wait]
      exact target1_ne_zero }

theorem Scheduled.hardSync {d : Duo} (h : Scheduled d) (hw : d.coordinator.waiting = 0) :
    Scheduled d.hardSync := by
  unfold Duo.hardSync
  dsimp only
  split
  · rename_i hqueued
    exact Scheduled.wait (h.toCore.post1 trivial) ((waiting_post1 _ _).trans hw)
      (queue1_post1_ne_nil (Or.inl hqueued))
  · exact h.post1 trivial

theorem Scheduled.syncIfDue {d : Duo} (h : Scheduled d) : Scheduled d.syncIfDue := by
  unfold Duo.syncIfDue syncDeferred syncIdle
  split
  · by_cases hw : d.coordinator.waiting = 0
    · rw [if_pos hw]
      exact { h.hardSync hw with }
    · rw [if_neg hw]
      exact { h with }
  · exact h

theorem Scheduled.ownClock0 {d : Duo} (h : Scheduled d) : Scheduled d.ownClock0 := by
  unfold Duo.ownClock0
  split
  · exact h.advance.wakeIdle.syncIfDue
  · exact h

theorem Scheduled.sleep1 {d : Duo} (h : Scheduled d) (hq : d.p1.queue = []) : Scheduled d.sleep1 := by
  have hw : d.coordinator.waiting = 0 := by
    by_contra hne
    exact h.pending hne hq
  exact
    { h.toCore.sleep1 hw with
      pending := by
        rw [coordinator_sleep1]
        exact fun hne => absurd hw hne
      active := by
        rw [coordinator_sleep1]
        exact h.active }

theorem Scheduled.setMode0 {d : Duo} (h : Scheduled d) (mode : Mode) : Scheduled (d.setMode0 mode) := by
  unfold Duo.setMode0
  split
  · exact h
  unfold changeMode0
  have henter : Scheduled (d.enter0 mode) := { h with }
  have hev : acknowledged { type := .modeSet mode, playerId := 0, timestamp := d.time0 } := rfl
  dsimp only
  split
  · rename_i hqueued
    split
    · rename_i hw
      exact Scheduled.wait ((henter.toCore.post1 hev).modifyGba0 _) ((waiting_post1 _ _).trans hw)
        (queue1_post1_ne_nil (Or.inl hqueued))
    · exact (henter.post1 hev).modifyGba0 _
  · exact henter.post1 hev

theorem Scheduled.setMode1 {d : Duo} (h : Scheduled d) (mode : Mode) : Scheduled (d.setMode1 mode) := by
  unfold Duo.setMode1
  split
  · exact h
  unfold changeMode1
  have henter : Scheduled (d.enter1 mode) := { h with }
  have hev : announced { type := .modeSet mode, playerId := 1, timestamp := d.time1 } := rfl
  dsimp only
  split
  · exact (henter.post0 hev).modifyGba1 _
  · exact henter.post0 hev

theorem Core.activated {d : Duo} (h : Core d) : Core d.activated := by
  unfold Duo.activated
  dsimp only
  split <;> exact { h with }

@[simp] theorem waiting_activated (d : Duo) :
    d.activated.coordinator.waiting = d.coordinator.waiting := by
  unfold Duo.activated
  dsimp only
  split <;> rfl

theorem Scheduled.primed0 {d : Duo} (h : Scheduled d) : Scheduled d.primed0 := by
  have hfilled : Core { d with coordinator := { d.coordinator with
      multiData := List.replicate 4 0xffff#16 } } := { h with }
  have hwait : d.primed0.coordinator.waiting = d.coordinator.waiting := stored_waiting _ _ _
  have hactive : d.primed0.coordinator.transferActive = d.coordinator.transferActive :=
    stored_transferActive _ _ _
  exact
    { hfilled.sample0 (d.ghost.published + 1) with
      pending := hwait ▸ h.pending
      active := by
        rw [hwait, hactive]
        exact h.active }

theorem Scheduled.start0 {d : Duo} (h : Scheduled d) : Scheduled d.start0 := by
  unfold Duo.start0
  split
  · exact h
  have hev : acknowledged d.transferEvent := trivial
  dsimp only
  split
  · rename_i hqueued
    have hcore := (h.primed0.toCore.post1 hev).activated
    have hqueue : (d.primed0.post1 d.transferEvent).1.activated.p1.queue ≠ [] :=
      queue1_post1_ne_nil (Or.inl hqueued)
    split
    · rename_i hw
      exact Scheduled.wait hcore hw hqueue
    · rename_i hw
      exact { hcore with pending := fun _ => hqueue, active := fun _ => hw }
  · exact h.primed0.post1 hev

theorem Scheduled.finished0 {d : Duo} (h : Scheduled d) : Scheduled d.finished0 := by
  unfold Duo.finished0
  dsimp only
  split
  · exact { h with }
  · split
    · exact { h with }
    · rename_i hw
      exact Scheduled.hardSync { h with } (not_not.mp hw)

theorem Scheduled.finished1 {d : Duo} (h : Scheduled d) : Scheduled d.finished1 := { h with }

theorem Scheduled.delivered {d : Duo} (h : Scheduled d) (playerId : Int)
    (words : List (Int × BitVec 32)) : Scheduled (d.delivered playerId words) := { h with }

theorem Scheduled.finishMulti0 {d : Duo} (h : Scheduled d) : Scheduled d.finishMulti0 := by
  unfold Duo.finishMulti0
  split
  · split
    · exact (h.delivered _ _).finished0
    · exact h.finished0
  · exact h

theorem Scheduled.finishMulti1 {d : Duo} (h : Scheduled d) : Scheduled d.finishMulti1 := by
  unfold Duo.finishMulti1
  split
  · split
    · exact (h.delivered _ _).finished1
    · exact h.finished1
  · exact h

theorem Scheduled.finishNormal0 {d : Duo} (h : Scheduled d) (mode : Mode) :
    Scheduled (d.finishNormal0 mode) := by
  unfold Duo.finishNormal0
  split
  · exact h.finished0
  · exact h

theorem Scheduled.finishNormal1 {d : Duo} (h : Scheduled d) (mode : Mode) :
    Scheduled (d.finishNormal1 mode) := by
  unfold Duo.finishNormal1
  split
  · split
    · exact (h.delivered _ _).finished1
    · exact h.finished1
  · exact h

theorem Scheduled.rescheduledReset0 {d : Duo} (h : Scheduled d) (delay : Cycle) :
    Scheduled (d.rescheduledReset0 delay) :=
  ((h.setReady0 _ _).setReady0 _ _).modifyGba0 _

theorem Scheduled.rescheduledReset1 {d : Duo} (h : Scheduled d) (delay : Cycle) :
    Scheduled (d.rescheduledReset1 delay) :=
  ((h.setReady1 _ _).setReady1 _ _).modifyGba1 _

theorem Scheduled.announced1 {d : Duo} (h : Scheduled d) : Scheduled (announced1 d) := by
  have hev : announced { type := .attach, playerId := 1, timestamp := d.time1 } := rfl
  exact h.post0 hev

/-- **The invariant is preserved by every step.** -/
theorem Scheduled.step {d d' : Duo} {a : Action} (h : Scheduled d) (hs : Step d a d') :
    Scheduled d' := by
  cases hs with
  | run0 => exact { h with }
  | run1 => exact { h with }
  | setMode0 mode => exact h.setMode0 mode
  | setMode1 mode => exact h.setMode1 mode
  | start0 => exact h.start0
  | start1 => exact h
  | finishMulti0 => exact h.finishMulti0
  | finishMulti1 => exact h.finishMulti1
  | finishNormal8_0 => exact h.finishNormal0 _
  | finishNormal8_1 => exact h.finishNormal1 _
  | finishNormal32_0 => exact h.finishNormal0 _
  | finishNormal32_1 => exact h.finishNormal1 _
  | event0 cyclesLate delay => exact (h.ownClock0.loop0 (queue0_ownClock0 d)).modifyGba0 _
  | event1 cyclesLate delay => exact (h.loop1 cyclesLate rfl).modifyGba1 _
  | event1Sleep cyclesLate delay hq => exact ((h.loop1 cyclesLate rfl).sleep1 hq).modifyGba1 _
  | reset0 => exact { h with }
  | reset0Scheduled delay =>
    have hbase : Scheduled d.rebased0 := { h with }
    exact hbase.rescheduledReset0 delay
  | reset1 => exact { h with }
  | reset1Scheduled delay =>
    have hbase : Scheduled d.rebased1 := { h with }
    exact hbase.rescheduledReset1 delay

theorem attachedBoth_scheduled (gba0 gba1 : Gba) (mode : Mode) (otherModes : List Mode)
    (cycle : Cycle) : Scheduled (attachedBoth gba0 gba1 mode otherModes cycle) where
  bit := Or.inl rfl
  asleep0 := by simp [attachedBoth, joined, coordinatorOpened, coordinatorInit]
  awake1 := fun _ => rfl
  blocked0 := rfl
  blocked1 := rfl
  acknowledged1 := by simp [attachedBoth, joined]
  announced0 := by simp [attachedBoth, joined]
  asserts := rfl
  pending := fun hne => absurd rfl hne
  active := fun ht => absurd ht Bool.false_ne_true

end Duo

/-! ## Runs -/

namespace Pair

/-- The pair is attached and its scheduler is in order. -/
def Orderly (s : Pair) : Prop :=
  ∃ d : Duo, s = d.toPair ∧ d.Scheduled

theorem orderly_attachLink (gba0 gba1 : Gba) : Orderly (attachLink gba0 gba1) := by
  obtain ⟨gba, otherModes, cycle, h⟩ := attachLink_toPair gba0 gba1
  have hannounced :=
    (Duo.attachedBoth_scheduled gba gba1 gba0.mode otherModes cycle).announced1
  rcases Duo.resetSchedule_toPair1 (announced1 (attachedBoth gba gba1 gba0.mode otherModes cycle))
    with hr | ⟨delay, hr⟩
  · exact ⟨_, h.trans hr, hannounced⟩
  · exact ⟨_, h.trans hr, hannounced.rescheduledReset1 delay⟩

theorem Orderly.act {s : Pair} (h : Orderly s) (a : Action) : Orderly (s.act a) := by
  obtain ⟨d, rfl, hd⟩ := h
  obtain ⟨d', hstep, heq⟩ := d.act_toPair hd.announced0 hd.acknowledged1 a
  exact ⟨d', heq, hd.step hstep⟩

/-- **Every state of every run of an attached pair is in order.** -/
theorem orderly_acts (gba0 gba1 : Gba) (as : List Action) :
    Orderly ((attachLink gba0 gba1).acts as) := by
  have hstep : ∀ (s : Pair) (a : Action), Orderly s → Orderly (s.act a) := fun _ a h => h.act a
  exact run_invariant hstep as (orderly_attachLink gba0 gba1)

/-- What it takes for the scheduler not to be stuck, for the players of the two drivers. -/
structure Live (s : Pair) (primary secondary : Player) : Prop where
  attached0 : s.player 0 = some primary ∧ primary.playerId = 0
  attached1 : s.player 1 = some secondary ∧ secondary.playerId = 1
  not_both_asleep : ¬(primary.asleep = true ∧ secondary.asleep = true)
  asleep_iff : primary.asleep = true ↔ s.coordinator.waiting ≠ 0
  /-- A standing barrier has an event that takes it down. -/
  pending : s.coordinator.waiting ≠ 0 → ∃ event ∈ secondary.queue, Duo.acknowledged event.toEvent
  /-- Once the secondary's clock reaches the head of its queue, its callback takes it down. -/
  released : ∀ gba loadingMachineState cyclesLate,
    (∀ event ∈ secondary.queue.head?,
      Duo.due event (cycleDelta (Gba.now gba) secondary.cycleOffset)) →
    ((s.act (.run 1 gba loadingMachineState)).act (.lockstepEvent 1 cyclesLate)).coordinator.waiting
      = 0
  /-- The `mASSERT`s of `WaitOnPlayers` held at every call so far. -/
  asserts : s.ghost.assertsHeld = true
  blocked0 : (s.drivers 0).blocked = primary.asleep
  blocked1 : (s.drivers 1).blocked = secondary.asleep

theorem live_toPair {d : Duo} (h : d.Scheduled) : Live d.toPair d.player0 d.player1 where
  attached0 := ⟨rfl, rfl⟩
  attached1 := ⟨rfl, rfl⟩
  not_both_asleep := fun ⟨h0, h1⟩ => by
    have := h.awake1 (h.asleep0.mp h0)
    exact absurd (this.symm.trans h1) Bool.false_ne_true
  asleep_iff := h.asleep0
  pending := fun hne => by
    obtain ⟨event, hmem⟩ := List.exists_mem_of_ne_nil _ (h.pending hne)
    exact ⟨event, hmem, h.acknowledged1 event hmem⟩
  released := fun gba loadingMachineState cyclesLate hdue => by
    let e : Duo := { d with d1 := { d.d1 with gba, loadingMachineState } }
    have he : e.Scheduled := { h with }
    have hw : (e.loop1 cyclesLate e.p1.queue).coordinator.waiting = 0 := by
      refine Duo.waiting_loop1 cyclesLate he rfl fun hne => ?_
      obtain ⟨event, rest, hq⟩ := List.exists_cons_of_ne_nil (h.pending hne)
      refine ⟨event, by rw [show e.p1.queue = d.p1.queue from rfl, hq]; rfl, hdue event ?_⟩
      rw [Duo.toState_player1, hq]
      rfl
    obtain ⟨delay, sleeps, _, -, heq⟩ := e.lockstepEvent_toPair1 he.acknowledged1 cyclesLate
    change (e.toPair.lockstepEvent 1 cyclesLate).coordinator.waiting = 0
    rw [heq]
    change (if sleeps then (e.loop1 cyclesLate e.p1.queue).sleep1
      else e.loop1 cyclesLate e.p1.queue).coordinator.waiting = 0
    split
    · rwa [Duo.coordinator_sleep1]
    · exact hw
  asserts := h.asserts
  blocked0 := h.blocked0
  blocked1 := h.blocked1

theorem Orderly.live {s : Pair} (h : Orderly s) : ∃ primary secondary, Live s primary secondary := by
  obtain ⟨d, rfl, hd⟩ := h
  exact ⟨_, _, live_toPair hd⟩

/-- **No scheduler deadlock.** In every state of every run of an attached pair the scheduler can go
on, and a frame run from there does not end with both machines blocked. -/
theorem no_scheduler_deadlock (gba0 gba1 : Gba) (as : List Action) :
    (∃ primary secondary, Live ((attachLink gba0 gba1).acts as) primary secondary) ∧
      ∀ (W : Type) (c : Cores W) (w : W), c.CallsBack →
        c.pair w = (attachLink gba0 gba1).acts as →
        (runLinkedFrame c w).2 ≠ some .allBlocked := by
  refine ⟨(orderly_acts gba0 gba1 as).live, fun W c w hcalls hw => ?_⟩
  have hrun (i : Fin 2) (w : W) (h : Orderly (c.pair w)) : Orderly (c.pair (c.runLoop i w)) := by
    obtain ⟨bs, hbs⟩ := hcalls i w
    have hstep : ∀ (s : Pair) (a : Action), Orderly s → Orderly (s.act a) := fun _ a h => h.act a
    rw [hbs]
    exact run_invariant hstep bs h
  have hawake (w : W) (h : Orderly (c.pair w)) :
      ¬(((c.pair w).drivers 0).blocked = true ∧ ((c.pair w).drivers 1).blocked = true) := by
    obtain ⟨primary, secondary, hlive⟩ := h.live
    rw [hlive.blocked0, hlive.blocked1]
    exact hlive.not_both_asleep
  exact frameLoop_not_allBlocked hrun hawake _ _ (hw ▸ orderly_acts gba0 gba1 as) rfl
    (by simp [allDone, List.finRange])

omit [Mgba] in
/-- Two plain cores whose machines do nothing but call their timing event. -/
def idleCores : @Cores plainMgba (@Pair plainMgba) :=
  letI := plainMgba
  { pair := id
    runLoop := fun i s => s.act (.lockstepEvent i 0)
    frameCounter := fun _ _ => 0
    crashed := fun _ _ => false }

omit [Mgba] in
theorem no_scheduler_deadlock_idle :
    (@runLinkedFrame plainMgba _ idleCores
      (@attachLink plainMgba (plainGba .multi 0 1) (plainGba .multi 0 2))).2 ≠ some .allBlocked :=
  letI := plainMgba
  (no_scheduler_deadlock (plainGba .multi 0 1) (plainGba .multi 0 2) []).2 _ idleCores _
    (fun i _ => ⟨[.lockstepEvent i 0], rfl⟩) rfl

end Pair

end DualBoy.Lockstep
