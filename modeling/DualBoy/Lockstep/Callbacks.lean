import DualBoy.Lockstep.Duo

/-!
# The callbacks of an attached pair

The queue loops of `_lockstepEvent`, its clock part and its tail, and the SIO callbacks, on a `Duo`.
A player never adds to the queue it is working off, so each loop here recurses on that queue and
needs no fuel; the loops of the model agree with them once they have as much fuel as events.
-/

namespace DualBoy.Lockstep

open DualBoy.Lib

variable [Mgba]

namespace Duo

/-! ## The queue loops -/

/-- Player 1 acknowledges the event. -/
def acknowledged (event : Event) : Prop :=
  match event.type with
  | .hardSync => True
  | .transferStart _ => True
  | .modeSet _ => event.playerId = 0
  | _ => False

/-- The event is one that player 1 publishes: it attached, or changed its mode. -/
def announced (event : Event) : Prop :=
  match event.type with
  | .attach => event.playerId = 1
  | .modeSet _ => event.playerId = 1
  | _ => False

/-- Player 0 takes the head of its queue. -/
def taken0 (d : Duo) (event : QueuedEvent) (rest : List QueuedEvent) : Duo :=
  { d with
    p0 := { d.p0 with queue := rest }
    ghost := { d.ghost with current := event.serial } }

/-- Player 1 takes the head of its queue. -/
def taken1 (d : Duo) (event : QueuedEvent) (rest : List QueuedEvent) : Duo :=
  { d with
    p1 := { d.p1 with queue := rest }
    ghost := { d.ghost with current := event.serial } }

/-- The player once the slot of an event it processed is free again. -/
def recycled (p : PlayerState) (event : QueuedEvent) : PlayerState :=
  { p with freeList := event.slot :: p.freeList, queueDepth := p.queueDepth - 1 }

def handle0 (d : Duo) (event : QueuedEvent) : Duo :=
  match event.type with
  | .attach =>
    let reply : Event := { type := .modeSet d.p0.mode, playerId := 0, timestamp := d.time0 }
    let d := (d.setReady0 1 .none).modifyGba0 fun g =>
      { g with siocnt := Mgba.multiplayerClearSlave g.siocnt }
    (d.post1 reply).1
  | .modeSet mode => d.setReady0 1 mode
  | _ => d

/-- The machine of player 1 with its transfer complete event scheduled. -/
def completing (gba : Gba) (delay : Cycle) : Gba :=
  ({ gba with siocnt := gba.siocnt ||| 0x80#16 }.deschedule .complete).schedule .complete delay

def handle1 (d : Duo) (event : QueuedEvent) (cyclesLate : BitVec 32) : Duo :=
  match event.type with
  | .hardSync => d.ack
  | .transferStart finishCycle =>
    let delay := sanitizeDelay (delayAfterLateness (cycleDelta finishCycle d.time1) cyclesLate)
    ack ((d.sample1 d.ghost.current).modifyGba1 fun g => completing g delay)
  | .modeSet mode => (d.setReady1 0 mode).ack
  | _ => d

/-- One turn of player 0's queue loop. -/
def turn0 (d : Duo) (event : QueuedEvent) (rest : List QueuedEvent) : Duo :=
  let d := (d.taken0 event rest).handle0 event
  { d with p0 := recycled d.p0 event }

/-- One turn of player 1's queue loop. -/
def turn1 (d : Duo) (event : QueuedEvent) (rest : List QueuedEvent) (cyclesLate : BitVec 32) : Duo :=
  let d := (d.taken1 event rest).handle1 event cyclesLate
  { d with p1 := recycled d.p1 event }

open Pair in
theorem handleEvent_toPair0 {event : QueuedEvent} (h : announced event.toEvent) (d : Duo)
    (cyclesLate : BitVec 32) (next : Cycle) (wasDetach : Bool) :
    handleEvent 1 cyclesLate event ⟨d.toPair, next, wasDetach⟩ =
      ⟨(d.handle0 event).toPair, next, wasDetach⟩ := by
  obtain ⟨⟨type, playerId, timestamp⟩, slot, serial⟩ := event
  unfold handleEvent handle0
  simp only [lookup_toPair0]
  cases type with
  | attach =>
    obtain rfl : playerId = 1 := h
    dsimp only
    rw [setReady_toPair0, if_pos (playerId_player0 d), driver_player0, modifyGba_toPair0,
      enqueueEvent_target1]
    rfl
  | modeSet mode =>
    obtain rfl : playerId = 1 := h
    dsimp only
    rw [setReady_toPair0, if_neg (by decide)]
    rfl
  | hardSync => exact h.elim
  | detach => exact h.elim
  | transferStart => exact h.elim

open Pair in
theorem handleEvent_toPair1 {event : QueuedEvent} (h : acknowledged event.toEvent) (d : Duo)
    (cyclesLate : BitVec 32) (next : Cycle) (wasDetach : Bool) :
    ∃ next', handleEvent 2 cyclesLate event ⟨d.toPair, next, wasDetach⟩ =
      ⟨(d.handle1 event cyclesLate).toPair, next', wasDetach⟩ := by
  obtain ⟨⟨type, playerId, timestamp⟩, slot, serial⟩ := event
  unfold handleEvent handle1
  simp only [lookup_toPair1]
  cases type with
  | attach => exact h.elim
  | modeSet mode =>
    obtain rfl : playerId = 0 := h
    refine ⟨next, ?_⟩
    dsimp only
    rw [setReady_toPair1, if_pos rfl, ackPlayer_toPair1]
    rfl
  | hardSync =>
    refine ⟨next, ?_⟩
    dsimp only
    rw [ackPlayer_toPair1]
  | detach => exact h.elim
  | transferStart finishCycle =>
    refine ⟨sanitizeDelay (delayAfterLateness (cycleDelta finishCycle d.time1) cyclesLate), ?_⟩
    dsimp only
    rw [playerId_player1, driver_player1, show (1 : Int).toNat = 1 from rfl, sample_toPair1,
      modifyGba_toPair1, ackPlayer_toPair1]
    rfl

/-- An event is processed once its time has come. -/
def due (event : QueuedEvent) (time : Cycle) : Prop :=
  ¬0 < (cycleDelta event.timestamp time).toInt

instance (event : QueuedEvent) (time : Cycle) : Decidable (due event time) :=
  inferInstanceAs (Decidable (¬_))

open Pair in
theorem eventLoop_turn {s : Pair} {id : Nat} {player : Player} {event : QueuedEvent}
    {rest : List QueuedEvent} (hp : s.lookup id = some player) (hq : player.queue = event :: rest)
    (hdue : due event (s.lockstepTime player)) (cyclesLate : BitVec 32) (fuel : Nat) (next : Cycle)
    (wasDetach : Bool) :
    eventLoop id cyclesLate (fuel + 1) ⟨s, next, wasDetach⟩ =
      let s := s.modifyPlayer id fun p => { p with queue := rest }
      let s := { s with ghost := { s.ghost with current := event.serial } }
      let l := handleEvent id cyclesLate event ⟨s, next, wasDetach⟩
      eventLoop id cyclesLate fuel { l with pair := l.pair.recycleEvent id event } := by
  conv_lhs => unfold eventLoop
  simp only [hp, hq]
  rw [if_neg hdue]

open Pair in
theorem eventLoop_done {s : Pair} {id : Nat} {player : Player} (hp : s.lookup id = some player)
    (hq : ∀ event ∈ player.queue.head?, ¬due event (s.lockstepTime player)) (cyclesLate : BitVec 32)
    (fuel : Nat) (next : Cycle) (wasDetach : Bool) :
    eventLoop id cyclesLate fuel ⟨s, next, wasDetach⟩ = ⟨s, next, wasDetach⟩ := by
  cases fuel with
  | zero => rfl
  | succ fuel =>
    unfold eventLoop
    simp only [hp]
    cases hc : player.queue with
    | nil => rfl
    | cons event rest =>
      have hnot := hq event (by rw [hc]; rfl)
      exact if_pos (not_not.mp hnot)

open Pair in
theorem eventLoop_turn0 {d : Duo} {event : QueuedEvent} {rest : List QueuedEvent}
    (hq : d.p0.queue = event :: rest) (hdue : due event d.time0)
    (hev : announced event.toEvent) (cyclesLate : BitVec 32) (fuel : Nat) (next : Cycle) :
    eventLoop 1 cyclesLate (fuel + 1) ⟨d.toPair, next, false⟩ =
      eventLoop 1 cyclesLate fuel ⟨(d.turn0 event rest).toPair, next, false⟩ := by
  rw [eventLoop_turn (lookup_toPair0 d) hq hdue]
  have h := handleEvent_toPair0 hev (d.taken0 event rest) cyclesLate next false
  change eventLoop 1 cyclesLate fuel
    { handleEvent 1 cyclesLate event ⟨(d.taken0 event rest).toPair, next, false⟩ with
      pair := (handleEvent 1 cyclesLate event
        ⟨(d.taken0 event rest).toPair, next, false⟩).pair.recycleEvent 1 event } = _
  rw [h]
  rfl

open Pair in
theorem eventLoop_turn1 {d : Duo} {event : QueuedEvent} {rest : List QueuedEvent}
    (hq : d.p1.queue = event :: rest) (hdue : due event d.time1)
    (hev : acknowledged event.toEvent) (cyclesLate : BitVec 32) (fuel : Nat) (next : Cycle) :
    ∃ next', eventLoop 2 cyclesLate (fuel + 1) ⟨d.toPair, next, false⟩ =
      eventLoop 2 cyclesLate fuel ⟨(d.turn1 event rest cyclesLate).toPair, next', false⟩ := by
  rw [eventLoop_turn (lookup_toPair1 d) hq hdue]
  obtain ⟨next', h⟩ := handleEvent_toPair1 hev (d.taken1 event rest) cyclesLate next false
  refine ⟨next', ?_⟩
  change eventLoop 2 cyclesLate fuel
    { handleEvent 2 cyclesLate event ⟨(d.taken1 event rest).toPair, next, false⟩ with
      pair := (handleEvent 2 cyclesLate event
        ⟨(d.taken1 event rest).toPair, next, false⟩).pair.recycleEvent 2 event } = _
  rw [h]
  rfl

/-! ### What a turn leaves alone -/

@[simp] theorem time1_ack (d : Duo) : d.ack.time1 = d.time1 := by
  unfold ack release sleep1 wake0 lower time1
  grind [Gba.now_yield]

@[simp] theorem now_completing (gba : Gba) (delay : Cycle) : (completing gba delay).now = gba.now := by
  simp only [completing, Gba.now_schedule, Gba.now_deschedule]
  rfl

@[simp] theorem time1_setReady1 (d : Duo) (id : Nat) (mode : Mode) :
    (d.setReady1 id mode).time1 = d.time1 := by
  simp [setReady1, time1, withMode]

theorem queue1_handle1 (d : Duo) (event : QueuedEvent) (cyclesLate : BitVec 32) :
    (d.handle1 event cyclesLate).p1.queue = d.p1.queue := by
  unfold handle1
  split <;> simp <;> rfl

/-- Player 1 works its queue off from the front. -/
theorem queue1_turn1 (d : Duo) (event : QueuedEvent) (rest : List QueuedEvent)
    (cyclesLate : BitVec 32) : (d.turn1 event rest cyclesLate).p1.queue = rest :=
  queue1_handle1 _ _ _

@[simp] theorem time0_post1 (d : Duo) (event : Event) : (d.post1 event).1.time0 = d.time0 := by
  unfold post1
  split <;> rfl

@[simp] theorem time0_setReady0 (d : Duo) (id : Nat) (mode : Mode) :
    (d.setReady0 id mode).time0 = d.time0 := by
  simp [setReady0, time0, withMode]

theorem queue0_handle0 (d : Duo) (event : QueuedEvent) : (d.handle0 event).p0.queue = d.p0.queue := by
  unfold handle0
  split
  · rw [queue0_post1]
    rfl
  · rfl
  · rfl

theorem time0_handle0 (d : Duo) (event : QueuedEvent) : (d.handle0 event).time0 = d.time0 := by
  unfold handle0
  split
  · rw [time0_post1]
    exact time0_setReady0 d 1 .none
  · simp
  · rfl

theorem queue0_turn0 (d : Duo) (event : QueuedEvent) (rest : List QueuedEvent) :
    (d.turn0 event rest).p0.queue = rest :=
  queue0_handle0 _ _

theorem time0_turn0 (d : Duo) (event : QueuedEvent) (rest : List QueuedEvent) :
    (d.turn0 event rest).time0 = d.time0 :=
  time0_handle0 _ _

/-! ### The loops -/

/-- Player 1's queue loop: the events that are due, in the order of the queue. -/
def loop1 (cyclesLate : BitVec 32) : List QueuedEvent → Duo → Duo
  | [], d => d
  | event :: rest, d =>
    if due event d.time1 then loop1 cyclesLate rest (d.turn1 event rest cyclesLate) else d

/-- Player 0's queue loop. -/
def loop0 : List QueuedEvent → Duo → Duo
  | [], d => d
  | event :: rest, d => if due event d.time0 then loop0 rest (d.turn0 event rest) else d

open Pair in
theorem eventLoop_toPair1 (cyclesLate : BitVec 32) :
    ∀ (queue : List QueuedEvent) (d : Duo) (fuel : Nat) (next : Cycle), d.p1.queue = queue →
      (∀ event ∈ queue, acknowledged event.toEvent) → queue.length ≤ fuel →
      ∃ next', eventLoop 2 cyclesLate fuel ⟨d.toPair, next, false⟩ =
        ⟨(d.loop1 cyclesLate queue).toPair, next', false⟩
  | [], d, fuel, next, hq, _, _ => by
    refine ⟨next, eventLoop_done (lookup_toPair1 d) ?_ _ _ _ _⟩
    rw [toState_player1, hq]
    simp
  | event :: rest, d, 0, next, _, _, hfuel => by simp at hfuel
  | event :: rest, d, fuel + 1, next, hq, hev, hfuel => by
    unfold loop1
    by_cases hdue : due event d.time1
    · obtain ⟨next₁, h₁⟩ := eventLoop_turn1 hq hdue (hev event (by simp)) cyclesLate fuel next
      obtain ⟨next₂, h₂⟩ := eventLoop_toPair1 cyclesLate rest (d.turn1 event rest cyclesLate) fuel
        next₁ (queue1_turn1 _ _ _ _) (fun e he => hev e (by simp [he]))
        (by simpa using hfuel)
      exact ⟨next₂, by rw [h₁, h₂, if_pos hdue]⟩
    · refine ⟨next, ?_⟩
      rw [if_neg hdue]
      refine eventLoop_done (lookup_toPair1 d) ?_ _ _ _ _
      rw [toState_player1, hq]
      simpa using hdue

open Pair in
theorem eventLoop_toPair0 (cyclesLate : BitVec 32) (next : Cycle) :
    ∀ (queue : List QueuedEvent) (d : Duo) (fuel : Nat), d.p0.queue = queue →
      (∀ event ∈ queue, announced event.toEvent) → queue.length ≤ fuel →
      eventLoop 1 cyclesLate fuel ⟨d.toPair, next, false⟩ = ⟨(d.loop0 queue).toPair, next, false⟩
  | [], d, fuel, hq, _, _ => by
    refine eventLoop_done (lookup_toPair0 d) ?_ _ _ _ _
    rw [toState_player0, hq]
    simp
  | event :: rest, d, 0, _, _, hfuel => by simp at hfuel
  | event :: rest, d, fuel + 1, hq, hev, hfuel => by
    unfold loop0
    by_cases hdue : due event d.time0
    · rw [eventLoop_turn0 hq hdue (hev event (by simp)), if_pos hdue]
      exact eventLoop_toPair0 cyclesLate next rest (d.turn0 event rest) fuel (queue0_turn0 _ _ _)
        (fun e he => hev e (by simp [he])) (by simpa using hfuel)
    · rw [if_neg hdue]
      refine eventLoop_done (lookup_toPair0 d) ?_ _ _ _ _
      rw [toState_player0, hq]
      simpa using hdue

/-! ## The clock and the tail -/

/-- The clock owner wakes the others unless a transfer is on its way. -/
def wakeIdle (d : Duo) : Duo := if d.coordinator.transferActive then d else d.wake1

/-- A hard sync, unless a barrier stands already. -/
def syncIdle (d : Duo) : Duo := if d.coordinator.waiting = 0 then d.hardSync else d

/-- The time to the next hard sync once one was due. -/
def syncDeferred (d : Duo) : Duo :=
  { d with coordinator := { d.coordinator with
      nextHardSync := delayAddSaturated d.coordinator.nextHardSync hardSyncInterval } }

/-- The clock owner's hard sync, if its time has come. -/
def syncIfDue (d : Duo) : Duo :=
  if d.coordinator.syncArmed ∧ d.coordinator.nextHardSync.toInt < 0 then d.syncIdle.syncDeferred
  else d

def ownClock0 (d : Duo) : Duo :=
  if 0 ≤ (cycleDelta d.time0 d.coordinator.cycle).toInt then d.advance.wakeIdle.syncIfDue else d

theorem wakeIdle_toPair (d : Duo) :
    (if d.toPair.coordinator.transferActive then d.toPair else d.toPair.wakePlayers) =
      d.wakeIdle.toPair := by
  unfold wakeIdle
  rw [wakePlayers_toPair, apply_ite toPair]
  rfl

theorem syncIdle_toPair (d : Duo) :
    (if d.toPair.coordinator.waiting = 0 then d.toPair.hardSync 1 else d.toPair) =
      d.syncIdle.toPair := by
  unfold syncIdle
  rw [hardSync_toPair, apply_ite toPair]
  rfl

theorem syncIfDue_toPair (d : Duo) :
    (if d.toPair.coordinator.syncArmed ∧ d.toPair.coordinator.nextHardSync.toInt < 0 then
      (if d.toPair.coordinator.waiting = 0 then d.toPair.hardSync 1 else d.toPair).modifyCoordinator
        fun c => { c with nextHardSync := delayAddSaturated c.nextHardSync hardSyncInterval }
    else d.toPair) = d.syncIfDue.toPair := by
  unfold syncIfDue
  rw [syncIdle_toPair, apply_ite toPair]
  rfl

theorem ownClock_toPair0 (d : Duo) : d.toPair.ownClock 1 d.player0 = d.ownClock0.toPair := by
  unfold Pair.ownClock ownClock0
  rw [apply_ite toPair, ← syncIfDue_toPair, ← wakeIdle_toPair, ← advanceCycle_toPair]
  simp only [playerId_player0, true_and]
  rfl

/-- Player 1 does not own the clock. -/
theorem ownClock_toPair1 (d : Duo) : d.toPair.ownClock 2 d.player1 = d.toPair := by
  unfold Pair.ownClock
  exact if_neg (by simp)

@[simp] theorem queue0_wakeIdle (d : Duo) : d.wakeIdle.p0.queue = d.p0.queue := by
  unfold wakeIdle
  split <;> simp

@[simp] theorem queue0_syncIfDue (d : Duo) : d.syncIfDue.p0.queue = d.p0.queue := by
  unfold syncIfDue syncDeferred syncIdle
  split
  · dsimp only
    split <;> simp
  · rfl

@[simp] theorem queue0_ownClock0 (d : Duo) : d.ownClock0.p0.queue = d.p0.queue := by
  unfold ownClock0
  split <;> simp

omit [Mgba] in
theorem not_detachPending_of_acknowledged {p : Player}
    (h : ∀ event ∈ p.queue, acknowledged event.toEvent) : Pair.detachPending p = false := by
  unfold Pair.detachPending
  split
  · rfl
  · rename_i event rest hq
    have hev := h event (by rw [hq]; simp)
    simp only [decide_eq_false_iff_not]
    intro htype
    simp [acknowledged, htype] at hev

omit [Mgba] in
theorem not_detachPending_of_announced {p : Player}
    (h : ∀ event ∈ p.queue, announced event.toEvent) : Pair.detachPending p = false := by
  unfold Pair.detachPending
  split
  · rfl
  · rename_i event rest hq
    have hev := h event (by rw [hq]; simp)
    simp only [decide_eq_false_iff_not]
    intro htype
    simp [announced, htype] at hev

theorem mAssert_toPair (d : Duo) {condition : Bool} (h : condition = true) :
    d.toPair.mAssert condition = d.toPair := by
  rw [h]
  simp only [Pair.mAssert, Bool.and_true]

/-- Player 0's event is scheduled again, and player 0 stays awake. -/
theorem eventTail_toPair0 (d : Duo) (next : Cycle) :
    ∃ delay, Pair.eventTail 1 ⟨d.toPair, next, false⟩ =
      (d.modifyGba0 fun g => g.schedule .lockstep delay).toPair := by
  unfold Pair.eventTail
  simp only [lookup_toPair0, playerId_player0, ne_eq, not_true_eq_false, false_and, and_false,
    if_false]
  exact ⟨_, rfl⟩

/-- Player 1 goes to sleep only once it has worked off its queue. -/
theorem eventTail_toPair1 (d : Duo) (next : Cycle) :
    ∃ delay, ∃ sleeps : Prop, ∃ _ : Decidable sleeps, (sleeps → d.p1.queue = []) ∧
      Pair.eventTail 2 ⟨d.toPair, next, false⟩ =
        ((if sleeps then d.sleep1 else d).modifyGba1 fun g => g.schedule .lockstep delay).toPair := by
  unfold Pair.eventTail
  simp only [lookup_toPair1, playerId_player1, driver_player1, playerSleep_toPair1,
    ← apply_ite toPair, modifyGba_toPair1]
  refine ⟨_, _, _, ?_, rfl⟩
  rintro ⟨-, -, -, h⟩
  simpa using h

/-- The timing event of player 0: its clock, its queue, and the next event. -/
theorem lockstepEvent_toPair0 (d : Duo) (h : ∀ event ∈ d.p0.queue, announced event.toEvent)
    (cyclesLate : BitVec 32) :
    ∃ delay, d.toPair.lockstepEvent 0 cyclesLate =
      ((d.ownClock0.loop0 d.p0.queue).modifyGba0 fun g => g.schedule .lockstep delay).toPair := by
  have hloop := eventLoop_toPair0 cyclesLate (d.ownClock0.toPair.untilNextSync d.player0) d.p0.queue
    d.ownClock0 (2 * d.ownClock0.player0.queue.length) (queue0_ownClock0 d) h (by
      rw [toState_player0, queue0_ownClock0]
      omega)
  obtain ⟨delay, htail⟩ := eventTail_toPair0 (d.ownClock0.loop0 d.p0.queue)
    (d.ownClock0.toPair.untilNextSync d.player0)
  refine ⟨delay, ?_⟩
  unfold Pair.lockstepEvent
  rw [show (d.toPair.drivers 0).lockstepId = 1 from rfl]
  simp only [lookup_toPair0]
  rw [mAssert_toPair d (by simp), ownClock_toPair0, not_detachPending_of_announced h]
  simp only [lookup_toPair0]
  rw [hloop, htail]

/-- The timing event of player 1: its queue, then sleep if there is nothing left. -/
theorem lockstepEvent_toPair1 (d : Duo) (h : ∀ event ∈ d.p1.queue, acknowledged event.toEvent)
    (cyclesLate : BitVec 32) :
    ∃ delay, ∃ sleeps : Prop, ∃ _ : Decidable sleeps,
      let d' := d.loop1 cyclesLate d.p1.queue
      (sleeps → d'.p1.queue = []) ∧ d.toPair.lockstepEvent 1 cyclesLate =
        ((if sleeps then d'.sleep1 else d').modifyGba1 fun g => g.schedule .lockstep delay).toPair := by
  obtain ⟨next, hloop⟩ := eventLoop_toPair1 cyclesLate d.p1.queue d (2 * d.player1.queue.length)
    (d.toPair.untilNextSync d.player1) rfl h (by
      rw [toState_player1]
      omega)
  obtain ⟨delay, sleeps, hdec, hsleeps, htail⟩ := eventTail_toPair1
    (d.loop1 cyclesLate d.p1.queue) next
  refine ⟨delay, sleeps, hdec, hsleeps, ?_⟩
  unfold Pair.lockstepEvent
  rw [show (d.toPair.drivers 1).lockstepId = 2 from rfl]
  simp only [lookup_toPair1]
  rw [mAssert_toPair d (by simp), ownClock_toPair1, not_detachPending_of_acknowledged h]
  simp only [lookup_toPair1]
  rw [hloop, htail]

/-! ## Mode changes and transfers -/

/-- Player 0 with its new mode, before it is published. -/
def enter0 (d : Duo) (mode : Mode) : Duo :=
  setReady0
    { d with
      coordinator := { d.coordinator with transferMode := mode }
      p0 := { d.p0 with mode } } 0 mode

/-- Player 1 with its new mode, before it is published. -/
def enter1 (d : Duo) (mode : Mode) : Duo :=
  setReady1 { d with p1 := { d.p1 with mode } } 1 mode

/-- A mode change of player 0 is published, and waited for unless a barrier stands. -/
def changeMode0 (d : Duo) (mode : Mode) : Duo :=
  let r := (d.enter0 mode).post1 { type := .modeSet mode, playerId := 0, timestamp := d.time0 }
  if r.2 then
    if d.coordinator.waiting = 0 then (r.1.modifyGba0 Gba.yield).wait else r.1.modifyGba0 Gba.yield
  else r.1

/-- A mode change of player 1 is published. -/
def changeMode1 (d : Duo) (mode : Mode) : Duo :=
  let r := (d.enter1 mode).post0 { type := .modeSet mode, playerId := 1, timestamp := d.time1 }
  if r.2 then r.1.modifyGba1 Gba.yield else r.1

def setMode0 (d : Duo) (mode : Mode) : Duo :=
  if d.d0.loadingMachineState ∨ mode = d.p0.mode then d else d.changeMode0 mode

def setMode1 (d : Duo) (mode : Mode) : Duo :=
  if d.d1.loadingMachineState ∨ mode = d.p1.mode then d else d.changeMode1 mode

theorem enter_toPair0 (d : Duo) (mode : Mode) :
    ((d.toPair.modifyPlayer 1 fun p => { p with mode }).modifyCoordinator fun c =>
      { c with transferMode := mode }).setReady 1 0 mode = (d.enter0 mode).toPair :=
  setReady_toPair0 { d with
    coordinator := { d.coordinator with transferMode := mode }, p0 := { d.p0 with mode } } 0 mode

theorem enter_toPair1 (d : Duo) (mode : Mode) :
    (d.toPair.modifyPlayer 2 fun p => { p with mode }).setReady 2 1 mode = (d.enter1 mode).toPair :=
  setReady_toPair1 { d with p1 := { d.p1 with mode } } 1 mode

theorem setMode_toPair0 (d : Duo) (mode : Mode) :
    d.toPair.setMode 0 mode = (d.setMode0 mode).toPair := by
  unfold setMode0
  by_cases hl : d.d0.loadingMachineState = true
  · rw [if_pos (Or.inl hl)]
    exact if_pos hl
  by_cases hm : mode = d.p0.mode
  · rw [if_pos (Or.inr hm)]
    exact (if_neg hl).trans (if_pos hm)
  rw [if_neg (by tauto)]
  unfold Pair.setMode changeMode0
  rw [drivers_toPair0, if_neg hl, show (d.toPair.drivers 0).lockstepId = 1 from rfl]
  simp only [lookup_toPair0]
  rw [toState_player0, if_neg hm, playerId_player0, if_pos rfl, enter_toPair0,
    enqueueEvent_others0]
  have hend (r : Duo × Bool) (idle : Prop) [Decidable idle] :
      (if ((0 : Int) = 0 ∧ idle) ∧ r.2 then
        Pair.waitOnPlayers (if r.2 then r.1.toPair.modifyGba 0 Gba.yield else r.1.toPair) 1
      else if r.2 then r.1.toPair.modifyGba 0 Gba.yield else r.1.toPair) =
      toPair (if r.2 then
        if idle then (r.1.modifyGba0 Gba.yield).wait else r.1.modifyGba0 Gba.yield
      else r.1) := by
    obtain ⟨d', queued⟩ := r
    rw [modifyGba_toPair0]
    cases queued with
    | false => simp
    | true =>
      by_cases hi : idle
      · simp [hi, waitOnPlayers_toPair]
      · simp [hi]
  exact hend _ _

theorem setMode_toPair1 (d : Duo) (mode : Mode) :
    d.toPair.setMode 1 mode = (d.setMode1 mode).toPair := by
  unfold setMode1
  by_cases hl : d.d1.loadingMachineState = true
  · rw [if_pos (Or.inl hl)]
    exact if_pos hl
  by_cases hm : mode = d.p1.mode
  · rw [if_pos (Or.inr hm)]
    exact (if_neg hl).trans (if_pos hm)
  rw [if_neg (by tauto)]
  unfold Pair.setMode changeMode1
  rw [drivers_toPair1, if_neg hl, show (d.toPair.drivers 1).lockstepId = 2 from rfl]
  simp only [lookup_toPair1]
  have hne : ¬(1 : Int) = 0 := by decide
  rw [toState_player1, if_neg hm, playerId_player1]
  simp only [hne, false_and, if_false]
  rw [enter_toPair1, enqueueEvent_others1, driver_player1, modifyGba_toPair1, apply_ite toPair]
  rfl

/-! ### Starting a transfer -/

/-- The transfer data of `Start`: filled with `0xFFFF`, then player 0's word. -/
def primed0 (d : Duo) : Duo :=
  sample0
    { d with coordinator := { d.coordinator with multiData := List.replicate 4 0xffff#16 } }
    (d.ghost.published + 1)

/-- The event `Start` publishes. -/
def transferEvent (d : Duo) : Event :=
  { type := .transferStart (cycleAdd d.time0 (Mgba.transferCycles d.p0.mode d.d0.gba.siocnt 1))
    playerId := 0
    timestamp := d.time0 }

/-- A transfer is on its way; the first one in `MULTI` mode arms the hard sync. -/
def activated (d : Duo) : Duo :=
  let c := { d.coordinator with transferActive := true }
  { d with coordinator :=
      if d.p0.mode = .multi ∧ ¬c.syncArmed then
        { c with syncArmed := true, nextHardSync := hardSyncInterval }
      else c }

def start0 (d : Duo) : Duo :=
  if d.coordinator.transferActive then d
  else
    let r := d.primed0.post1 d.transferEvent
    if r.2 then
      if r.1.activated.coordinator.waiting = 0 then r.1.activated.wait else r.1.activated
    else r.1

theorem primed_toPair0 (d : Duo) :
    let s := d.toPair.modifyCoordinator fun c => { c with multiData := List.replicate 4 0xffff#16 }
    (s.setData 0 0).recordSample 0 (s.ghost.published + 1) 0 = d.primed0.toPair :=
  sample_toPair0
    { d with coordinator := { d.coordinator with multiData := List.replicate 4 0xffff#16 } } _

@[simp] theorem mode0_post1 (d : Duo) (event : Event) : (d.post1 event).1.p0.mode = d.p0.mode := by
  unfold post1
  split <;> rfl

theorem activated_toPair (d : Duo) (mode : Mode) (hmode : mode = d.p0.mode) :
    (if mode = .multi ∧
        ¬(d.toPair.modifyCoordinator fun c => { c with transferActive := true }).coordinator.syncArmed
      then (d.toPair.modifyCoordinator fun c => { c with transferActive := true }).modifyCoordinator
        fun c => { c with syncArmed := true, nextHardSync := hardSyncInterval }
      else d.toPair.modifyCoordinator fun c => { c with transferActive := true }) =
        d.activated.toPair := by
  let f : CoordinatorState → Pair := fun c => toPair { d with coordinator := c }
  subst hmode
  unfold activated
  exact (apply_ite f _ _ _).symm

theorem start_toPair0 (d : Duo) : (d.toPair.start 0).1 = d.start0.toPair := by
  unfold Pair.start start0
  by_cases ht : d.coordinator.transferActive = true
  · rw [if_pos ht]
    exact congrArg Prod.fst (if_pos ht)
  rw [coordinator_toPair, if_neg ht, if_neg ht, show (d.toPair.drivers 0).lockstepId = 1 from rfl]
  simp only [lookup_toPair0]
  rw [playerId_player0, if_neg (by simp), driver_player0, primed_toPair0, enqueueEvent_secondary]
  have hend (r : Duo × Bool) (hr : d.player0.mode = r.1.p0.mode) :
      (if r.2 then
        let s := r.1.toPair.modifyCoordinator fun c => { c with transferActive := true }
        let s := if d.player0.mode = .multi ∧ ¬s.coordinator.syncArmed then
            s.modifyCoordinator fun c =>
              { c with syncArmed := true, nextHardSync := hardSyncInterval }
          else s
        if s.coordinator.waiting ≠ 0 then (s, true) else (s.waitOnPlayers 1, true)
      else (r.1.toPair, false)).1 =
      toPair (if r.2 then
        if r.1.activated.coordinator.waiting = 0 then r.1.activated.wait else r.1.activated
      else r.1) := by
    obtain ⟨d', queued⟩ := r
    dsimp only at hr ⊢
    rw [activated_toPair d' _ hr, coordinator_toPair]
    cases queued with
    | false => rfl
    | true =>
      by_cases hw : d'.activated.coordinator.waiting = 0
      · simp only [hw, ne_eq, not_true_eq_false, if_true, if_false, waitOnPlayers_toPair]
      · simp only [hw, ne_eq, not_false_eq_true, if_true, if_false]
  exact hend (d.primed0.post1 d.transferEvent) (mode0_post1 d.primed0 d.transferEvent).symm

/-- Only player 0 starts transfers. -/
theorem start_toPair1 (d : Duo) : (d.toPair.start 1).1 = d.toPair := by
  unfold Pair.start
  split
  · rfl
  · rw [show (d.toPair.drivers 1).lockstepId = 2 from rfl]
    simp only [lookup_toPair1]
    rw [playerId_player1, if_pos (by decide)]

/-! ### Finishing a transfer -/

/-- Player 0's end of a finish callback. -/
def finished0 (d : Duo) : Duo :=
  let d := { d with p0 := { d.p0 with dataReceived := false } }
  if ¬d.coordinator.syncArmed then d
  else if d.coordinator.waiting ≠ 0 then
    { d with coordinator := { d.coordinator with nextHardSync := -1#32 } }
  else d.hardSync

/-- Player 1's end of a finish callback. -/
def finished1 (d : Duo) : Duo :=
  { d with p1 := { d.p1 with dataReceived := false } }

theorem finishTransfer_toPair0 (d : Duo) : d.toPair.finishTransfer 1 = d.finished0.toPair := by
  let e : Duo := { d with p0 := { d.p0 with dataReceived := false } }
  unfold finished0
  rw [apply_ite toPair, apply_ite toPair, ← hardSync_toPair]
  rfl

theorem finishTransfer_toPair1 (d : Duo) : d.toPair.finishTransfer 2 = d.finished1.toPair := by
  unfold Pair.finishTransfer
  exact if_neg (show ¬(1 : Int) = 0 by decide)

/-- The record of words handed to a player. -/
def delivered (d : Duo) (playerId : Int) (words : List (Int × BitVec 32)) : Duo :=
  { d with ghost := { d.ghost with trace := .finished playerId words :: d.ghost.trace } }

/-- The words `MULTI` mode hands to both players. -/
def multiWords (c : CoordinatorState) : List (Int × BitVec 32) :=
  (List.range 2).map fun (j : Nat) => ((j : Int), (c.multiData.getD j 0).setWidth 32)

def finishMulti0 (d : Duo) : Duo :=
  if d.coordinator.transferMode = .multi then
    if d.p0.dataReceived then (d.delivered 0 (multiWords d.coordinator)).finished0 else d.finished0
  else d

def finishMulti1 (d : Duo) : Duo :=
  if d.coordinator.transferMode = .multi then
    if d.p1.dataReceived then (d.delivered 1 (multiWords d.coordinator)).finished1 else d.finished1
  else d

def finishNormal0 (d : Duo) (mode : Mode) : Duo :=
  if d.coordinator.transferMode = mode then d.finished0 else d

def finishNormal1 (d : Duo) (mode : Mode) : Duo :=
  if d.coordinator.transferMode = mode then
    if d.p1.dataReceived then
      (d.delivered 1 [(0, d.coordinator.normalData.getD 0 0)]).finished1
    else d.finished1
  else d

theorem finishMultiplayer_toPair0 (d : Duo) (data : List (BitVec 16)) :
    (d.toPair.finishMultiplayer 0 data).1 = d.finishMulti0.toPair := by
  unfold finishMulti0
  rw [apply_ite toPair, apply_ite toPair, ← finishTransfer_toPair0, ← finishTransfer_toPair0]
  unfold Pair.finishMultiplayer
  by_cases hm : d.coordinator.transferMode = .multi
  · rw [coordinator_toPair, if_pos hm, if_pos hm]
    exact apply_ite Prod.fst _ _ _
  · rw [coordinator_toPair, if_neg hm, if_neg hm]

theorem finishMultiplayer_toPair1 (d : Duo) (data : List (BitVec 16)) :
    (d.toPair.finishMultiplayer 1 data).1 = d.finishMulti1.toPair := by
  unfold finishMulti1
  rw [apply_ite toPair, apply_ite toPair, ← finishTransfer_toPair1, ← finishTransfer_toPair1]
  unfold Pair.finishMultiplayer
  by_cases hm : d.coordinator.transferMode = .multi
  · rw [coordinator_toPair, if_pos hm, if_pos hm]
    exact apply_ite Prod.fst _ _ _
  · rw [coordinator_toPair, if_neg hm, if_neg hm]

/-- Player 0 receives no word in a NORMAL transfer. -/
theorem finishNormal_toPair0 (d : Duo) (mode : Mode) :
    (d.toPair.finishNormal 0 mode).1 = (d.finishNormal0 mode).toPair := by
  unfold finishNormal0 Pair.finishNormal
  rw [coordinator_toPair]
  by_cases hm : d.coordinator.transferMode = mode
  · rw [if_pos hm, if_pos hm, ← finishTransfer_toPair0]
    rfl
  · rw [if_neg hm, if_neg hm]

theorem finishNormal_toPair1 (d : Duo) (mode : Mode) :
    (d.toPair.finishNormal 1 mode).1 = (d.finishNormal1 mode).toPair := by
  unfold finishNormal1 Pair.finishNormal
  rw [coordinator_toPair]
  by_cases hm : d.coordinator.transferMode = mode
  · rw [if_pos hm, if_pos hm, apply_ite toPair, ← finishTransfer_toPair1, ← finishTransfer_toPair1,
      show (d.toPair.drivers 1).lockstepId = 2 from rfl]
    simp only [lookup_toPair1]
    by_cases hr : d.p1.dataReceived = true
    · have hword : d.toPair.normalWord d.player1 = some (d.coordinator.normalData.getD 0 0) :=
        if_pos ⟨(by simp : (0 : Int) < 1), hr⟩
      rw [hword, if_pos hr]
      rfl
    · have hword : d.toPair.normalWord d.player1 = none := if_neg fun h => hr h.2
      rw [hword, if_neg hr]
  · rw [if_neg hm, if_neg hm]

/-! ### Reset -/

/-- Player 0's clock restarts at the coordinator's. -/
def rebased0 (d : Duo) : Duo :=
  { d with
    coordinator := { d.coordinator with syncArmed := false }
    p0 := { d.p0 with cycleOffset := cycleDelta d.d0.gba.now d.coordinator.cycle } }

/-- Player 1's clock restarts at the coordinator's. -/
def rebased1 (d : Duo) : Duo :=
  { d with
    coordinator := { d.coordinator with syncArmed := false }
    p1 := { d.p1 with cycleOffset := cycleDelta d.d1.gba.now d.coordinator.cycle } }

/-- The next event of player 0 after a reset. -/
def rescheduledReset0 (d : Duo) (delay : Cycle) : Duo :=
  ((d.setReady0 0 d.p0.mode).setReady0 0 d.coordinator.transferMode).modifyGba0 fun g =>
    g.schedule .lockstep delay

/-- The next event of player 1 after a reset. -/
def rescheduledReset1 (d : Duo) (delay : Cycle) : Duo :=
  ((d.setReady1 1 d.p1.mode).setReady1 0 d.coordinator.transferMode).modifyGba1 fun g =>
    g.schedule .lockstep delay

/-- The tail of a reset of player 0 schedules its event, unless it is scheduled. -/
theorem resetSchedule_toPair0 (d : Duo) :
    d.toPair.resetSchedule 0 = d.toPair ∨
      ∃ delay, d.toPair.resetSchedule 0 =
        (d.rescheduledReset0 delay).toPair := by
  unfold Pair.resetSchedule
  by_cases hs : Mgba.isScheduled d.d0.gba.timing .lockstep = true
  · exact Or.inl (if_pos hs)
  · right
    rw [drivers_toPair0, if_neg hs, show (d.toPair.drivers 0).lockstepId = 1 from rfl]
    simp only [lookup_toPair0]
    rw [playerId_player0, setReady_toPair0, setReady_toPair0,
      if_neg (show ¬(toPair _).coordinator.players.length = 1 from by simp [toPair])]
    exact ⟨_, rfl⟩

/-- The tail of a reset of player 1 schedules its event, unless it is scheduled. -/
theorem resetSchedule_toPair1 (d : Duo) :
    d.toPair.resetSchedule 1 = d.toPair ∨
      ∃ delay, d.toPair.resetSchedule 1 =
        (d.rescheduledReset1 delay).toPair := by
  unfold Pair.resetSchedule
  by_cases hs : Mgba.isScheduled d.d1.gba.timing .lockstep = true
  · exact Or.inl (if_pos hs)
  · right
    rw [drivers_toPair1, if_neg hs, show (d.toPair.drivers 1).lockstepId = 2 from rfl]
    simp only [lookup_toPair1]
    rw [playerId_player1, setReady_toPair1, setReady_toPair1,
      if_neg (show ¬(toPair _).coordinator.players.length = 1 from by simp [toPair])]
    exact ⟨_, rfl⟩

theorem driverReset_toPair0 (d : Duo) :
    d.toPair.driverReset 0 true = d.rebased0.toPair.resetSchedule 0 := rfl

theorem driverReset_toPair1 (d : Duo) :
    d.toPair.driverReset 1 true = d.rebased1.toPair.resetSchedule 1 := rfl

/-! ## One step of a run -/

/-- What an action does to an attached pair. -/
inductive Step (d : Duo) : Action → Duo → Prop where
  | run0 (gba : Gba) (loadingMachineState : Bool) :
    Step d (.run 0 gba loadingMachineState) { d with d0 := { d.d0 with gba, loadingMachineState } }
  | run1 (gba : Gba) (loadingMachineState : Bool) :
    Step d (.run 1 gba loadingMachineState) { d with d1 := { d.d1 with gba, loadingMachineState } }
  | setMode0 (mode : Mode) : Step d (.setMode 0 mode) (d.setMode0 mode)
  | setMode1 (mode : Mode) : Step d (.setMode 1 mode) (d.setMode1 mode)
  | start0 : Step d (.start 0) d.start0
  | start1 : Step d (.start 1) d
  | finishMulti0 (data : List (BitVec 16)) : Step d (.finishMultiplayer 0 data) d.finishMulti0
  | finishMulti1 (data : List (BitVec 16)) : Step d (.finishMultiplayer 1 data) d.finishMulti1
  | finishNormal8_0 : Step d (.finishNormal8 0) (d.finishNormal0 .normal8)
  | finishNormal8_1 : Step d (.finishNormal8 1) (d.finishNormal1 .normal8)
  | finishNormal32_0 : Step d (.finishNormal32 0) (d.finishNormal0 .normal32)
  | finishNormal32_1 : Step d (.finishNormal32 1) (d.finishNormal1 .normal32)
  | event0 (cyclesLate : BitVec 32) (delay : Cycle) :
    Step d (.lockstepEvent 0 cyclesLate)
      ((d.ownClock0.loop0 d.p0.queue).modifyGba0 fun g => g.schedule .lockstep delay)
  | event1 (cyclesLate : BitVec 32) (delay : Cycle) :
    Step d (.lockstepEvent 1 cyclesLate)
      ((d.loop1 cyclesLate d.p1.queue).modifyGba1 fun g => g.schedule .lockstep delay)
  | event1Sleep (cyclesLate : BitVec 32) (delay : Cycle)
      (hq : (d.loop1 cyclesLate d.p1.queue).p1.queue = []) :
    Step d (.lockstepEvent 1 cyclesLate)
      ((d.loop1 cyclesLate d.p1.queue).sleep1.modifyGba1 fun g => g.schedule .lockstep delay)
  | reset0 : Step d (.reset 0) d.rebased0
  | reset0Scheduled (delay : Cycle) : Step d (.reset 0) (d.rebased0.rescheduledReset0 delay)
  | reset1 : Step d (.reset 1) d.rebased1
  | reset1Scheduled (delay : Cycle) : Step d (.reset 1) (d.rebased1.rescheduledReset1 delay)

/-- An action on an attached pair leaves an attached pair. -/
theorem act_toPair (d : Duo) (h0 : ∀ event ∈ d.p0.queue, announced event.toEvent)
    (h1 : ∀ event ∈ d.p1.queue, acknowledged event.toEvent) (a : Action) :
    ∃ d', Step d a d' ∧ d.toPair.act a = d'.toPair := by
  cases a with
  | run i gba loadingMachineState =>
    match i with
    | 0 => exact ⟨_, .run0 gba loadingMachineState, rfl⟩
    | 1 => exact ⟨_, .run1 gba loadingMachineState, rfl⟩
  | setMode i mode =>
    match i with
    | 0 => exact ⟨_, .setMode0 mode, setMode_toPair0 d mode⟩
    | 1 => exact ⟨_, .setMode1 mode, setMode_toPair1 d mode⟩
  | start i =>
    match i with
    | 0 => exact ⟨_, .start0, start_toPair0 d⟩
    | 1 => exact ⟨_, .start1, start_toPair1 d⟩
  | finishMultiplayer i data =>
    match i with
    | 0 => exact ⟨_, .finishMulti0 data, finishMultiplayer_toPair0 d data⟩
    | 1 => exact ⟨_, .finishMulti1 data, finishMultiplayer_toPair1 d data⟩
  | finishNormal8 i =>
    match i with
    | 0 => exact ⟨_, .finishNormal8_0, finishNormal_toPair0 d .normal8⟩
    | 1 => exact ⟨_, .finishNormal8_1, finishNormal_toPair1 d .normal8⟩
  | finishNormal32 i =>
    match i with
    | 0 => exact ⟨_, .finishNormal32_0, finishNormal_toPair0 d .normal32⟩
    | 1 => exact ⟨_, .finishNormal32_1, finishNormal_toPair1 d .normal32⟩
  | lockstepEvent i cyclesLate =>
    match i with
    | 0 =>
      obtain ⟨delay, h⟩ := lockstepEvent_toPair0 d h0 cyclesLate
      exact ⟨_, .event0 cyclesLate delay, h⟩
    | 1 =>
      obtain ⟨delay, sleeps, _, hq, h⟩ := lockstepEvent_toPair1 d h1 cyclesLate
      by_cases hs : sleeps
      · rw [if_pos hs] at h
        exact ⟨_, .event1Sleep cyclesLate delay (hq hs), h⟩
      · rw [if_neg hs] at h
        exact ⟨_, .event1 cyclesLate delay, h⟩
  | reset i =>
    match i with
    | 0 =>
      rcases resetSchedule_toPair0 d.rebased0 with h | ⟨delay, h⟩
      · exact ⟨_, .reset0, (driverReset_toPair0 d).trans h⟩
      · exact ⟨_, .reset0Scheduled delay, (driverReset_toPair0 d).trans h⟩
    | 1 =>
      rcases resetSchedule_toPair1 d.rebased1 with h | ⟨delay, h⟩
      · exact ⟨_, .reset1, (driverReset_toPair1 d).trans h⟩
      · exact ⟨_, .reset1Scheduled delay, (driverReset_toPair1 d).trans h⟩

end Duo

end DualBoy.Lockstep
