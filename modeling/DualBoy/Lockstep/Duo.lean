import DualBoy.Lockstep.Run

/-!
# The scheduler of an attached pair

With both players attached, the coordinator's tables never change: player 0 is driver 0's, under
key 1, and player 1 is driver 1's, under key 2. `Duo` is the pair without the tables, so that a pair
with a player missing or seated elsewhere cannot be built; `Duo.toPair` puts the tables back. Each
function of the scheduler has its counterpart here, equal to it under `toPair`: player 0 is always
the one that publishes to player 1 and waits for it, player 1 the one that acknowledges.
-/

namespace DualBoy.Lockstep

open DualBoy.Lib

variable [Mgba]

/-- An attached pair. -/
@[ext] structure Duo where
  coordinator : CoordinatorState
  p0 : PlayerState
  p1 : PlayerState
  d0 : DriverState
  d1 : DriverState
  ghost : Ghost

namespace Duo

/-- Player 0 as the table holds it. -/
def player0 (d : Duo) : Player := { d.p0 with driver := 0, playerId := 0 }

/-- Player 1 as the table holds it. -/
def player1 (d : Duo) : Player := { d.p1 with driver := 1, playerId := 1 }

def toPair (d : Duo) : Pair where
  coordinator :=
    { d.coordinator with
      players := [(1, d.player0), (2, d.player1)]
      attachedPlayers := [1, 2, 0, 0]
      nAttached := 2 }
  driver0 := { d.d0 with lockstepId := 1, requestedId := 0, loaded := true }
  driver1 := { d.d1 with lockstepId := 2, requestedId := 1, loaded := true }
  ghost := d.ghost

/-! ## Access -/

@[simp] theorem lookup_toPair0 (d : Duo) : d.toPair.lookup 1 = some d.player0 := rfl

@[simp] theorem lookup_toPair1 (d : Duo) : d.toPair.lookup 2 = some d.player1 := rfl

@[simp] theorem toState_player0 (d : Duo) : d.player0.toPlayerState = d.p0 := rfl

@[simp] theorem toState_player1 (d : Duo) : d.player1.toPlayerState = d.p1 := rfl

@[simp] theorem driver_player0 (d : Duo) : d.player0.driver = 0 := rfl

@[simp] theorem driver_player1 (d : Duo) : d.player1.driver = 1 := rfl

@[simp] theorem playerId_player0 (d : Duo) : d.player0.playerId = 0 := rfl

@[simp] theorem playerId_player1 (d : Duo) : d.player1.playerId = 1 := rfl

@[simp] theorem coordinator_toPair (d : Duo) :
    d.toPair.coordinator.toCoordinatorState = d.coordinator := rfl

@[simp] theorem nAttached_toPair (d : Duo) : d.toPair.coordinator.nAttached = 2 := rfl

@[simp] theorem ghost_toPair (d : Duo) : d.toPair.ghost = d.ghost := rfl

@[simp] theorem drivers_toPair0 (d : Duo) : (d.toPair.drivers 0).toDriverState = d.d0 := rfl

@[simp] theorem drivers_toPair1 (d : Duo) : (d.toPair.drivers 1).toDriverState = d.d1 := rfl

def modifyGba0 (d : Duo) (f : Gba → Gba) : Duo := { d with d0 := { d.d0 with gba := f d.d0.gba } }

def modifyGba1 (d : Duo) (f : Gba → Gba) : Duo := { d with d1 := { d.d1 with gba := f d.d1.gba } }

theorem modifyGba_toPair0 (d : Duo) (f : Gba → Gba) :
    d.toPair.modifyGba 0 f = (d.modifyGba0 f).toPair := rfl

theorem modifyGba_toPair1 (d : Duo) (f : Gba → Gba) :
    d.toPair.modifyGba 1 f = (d.modifyGba1 f).toPair := rfl

/-! ## Sleeping and waking -/

def wake0 (d : Duo) : Duo :=
  if d.p0.asleep then
    { d with p0 := { d.p0 with asleep := false }, d0 := { d.d0 with blocked := false } }
  else d

def wake1 (d : Duo) : Duo :=
  if d.p1.asleep then
    { d with p1 := { d.p1 with asleep := false }, d1 := { d.d1 with blocked := false } }
  else d

def sleep0 (d : Duo) : Duo :=
  if d.p0.asleep then d
  else
    { d with
      p0 := { d.p0 with asleep := true }
      d0 := { d.d0 with blocked := true, gba := d.d0.gba.yield } }

def sleep1 (d : Duo) : Duo :=
  if d.p1.asleep then d
  else
    { d with
      p1 := { d.p1 with asleep := true }
      d1 := { d.d1 with blocked := true, gba := d.d1.gba.yield } }

theorem playerWake_toPair0 (d : Duo) : d.toPair.playerWake 1 = d.wake0.toPair := by
  unfold wake0
  rw [apply_ite toPair]
  rfl

theorem playerWake_toPair1 (d : Duo) : d.toPair.playerWake 2 = d.wake1.toPair := by
  unfold wake1
  rw [apply_ite toPair]
  rfl

theorem playerSleep_toPair0 (d : Duo) : d.toPair.playerSleep 1 = d.sleep0.toPair := by
  unfold sleep0
  rw [apply_ite toPair]
  rfl

theorem playerSleep_toPair1 (d : Duo) : d.toPair.playerSleep 2 = d.sleep1.toPair := by
  unfold sleep1
  rw [apply_ite toPair]
  rfl

/-- The coordinator wakes the other players, and there is one. -/
theorem wakePlayers_toPair (d : Duo) : d.toPair.wakePlayers = d.wake1.toPair :=
  playerWake_toPair1 d

/-! ## The clock -/

def time0 (d : Duo) : Cycle := cycleDelta d.d0.gba.now d.p0.cycleOffset

def time1 (d : Duo) : Cycle := cycleDelta d.d1.gba.now d.p1.cycleOffset

@[simp] theorem lockstepTime_toPair0 (d : Duo) : d.toPair.lockstepTime d.player0 = d.time0 := rfl

@[simp] theorem lockstepTime_toPair1 (d : Duo) : d.toPair.lockstepTime d.player1 = d.time1 := rfl

def advance (d : Duo) : Duo :=
  let elapsed := cycleDelta d.time0 d.coordinator.cycle
  if elapsed.toInt < 0 then d
  else
    { d with coordinator := { d.coordinator with
        nextHardSync := delayAddSaturated d.coordinator.nextHardSync (-elapsed), cycle := d.time0 } }

theorem advanceCycle_toPair (d : Duo) : d.toPair.advanceCycle d.player0 = d.advance.toPair := by
  unfold advance
  rw [apply_ite toPair]
  rfl

/-! ## Queues -/

/-- The machine once its lockstep event is due no later than the head of the player's queue. -/
def rescheduled (gba : Gba) (queue : List QueuedEvent) (time : Cycle) : Gba :=
  match queue with
  | [] => gba
  | head :: _ =>
    if Mgba.isScheduled gba.timing .lockstep then
      let scheduledDelay := cycleFromBits (Mgba.eventWhen gba.timing .lockstep - gba.now)
      let queuedDelay := sanitizeDelay (cycleDelta head.timestamp time)
      if scheduledDelay.toInt ≤ 0 ∨ scheduledDelay.toInt ≤ queuedDelay.toInt then gba
      else (gba.deschedule .lockstep).schedule .lockstep queuedDelay
    else gba

@[simp] theorem now_rescheduled (gba : Gba) (queue : List QueuedEvent) (time : Cycle) :
    (rescheduled gba queue time).now = gba.now := by
  unfold rescheduled
  split
  · rfl
  · dsimp only
    split
    · split
      · rfl
      · simp
    · rfl

/-- The player with one more event in its queue and these slots left. -/
def pushed (p : PlayerState) (event : QueuedEvent) (freeList : List (Fin maxLockstepEvents)) :
    PlayerState :=
  { p with
    freeList
    queue := insertBefore (Pair.precedes event) event p.queue
    queueDepth := p.queueDepth + 1
    maxQueueDepth := max p.maxQueueDepth (p.queueDepth + 1) }

/-- The coordinator once a player took an event. -/
def pushNoted (c : CoordinatorState) (p : PlayerState) : CoordinatorState :=
  if p.maxQueueDepth < p.queueDepth + 1 then
    { c with maxQueueDepth := max c.maxQueueDepth (p.queueDepth + 1) }
  else c

/-- The coordinator once a queue was full. -/
def dropNoted (c : CoordinatorState) : CoordinatorState :=
  { c with droppedEvents := c.droppedEvents + 1 }

def reschedule0 (d : Duo) : Duo :=
  { d with d0 := { d.d0 with gba := rescheduled d.d0.gba d.p0.queue d.time0 } }

def reschedule1 (d : Duo) : Duo :=
  { d with d1 := { d.d1 with gba := rescheduled d.d1.gba d.p1.queue d.time1 } }

theorem reschedule_toPair0 (d : Duo) :
    d.toPair.rescheduleForQueueHead 1 = d.reschedule0.toPair := by
  let f : Gba → Pair := fun gba => toPair { d with d0 := { d.d0 with gba } }
  change _ = f (rescheduled d.d0.gba d.p0.queue d.time0)
  unfold Pair.rescheduleForQueueHead rescheduled
  simp only [lookup_toPair0, toState_player0, driver_player0, drivers_toPair0, lockstepTime_toPair0]
  cases d.p0.queue with
  | nil => rfl
  | cons head rest =>
    dsimp only
    rw [apply_ite f, apply_ite f]
    rfl

theorem reschedule_toPair1 (d : Duo) :
    d.toPair.rescheduleForQueueHead 2 = d.reschedule1.toPair := by
  let f : Gba → Pair := fun gba => toPair { d with d1 := { d.d1 with gba } }
  change _ = f (rescheduled d.d1.gba d.p1.queue d.time1)
  unfold Pair.rescheduleForQueueHead rescheduled
  simp only [lookup_toPair1, toState_player1, driver_player1, drivers_toPair1, lockstepTime_toPair1]
  cases d.p1.queue with
  | nil => rfl
  | cons head rest =>
    dsimp only
    rw [apply_ite f, apply_ite f]
    rfl

/-- The event a player's queue takes: in the slot its free list offers, under the next number. -/
def queued (d : Duo) (event : Event) (slot : Fin maxLockstepEvents) : QueuedEvent :=
  { event with slot, serial := d.ghost.published + 1 }

/-- An event for player 0. -/
def post0 (d : Duo) (event : Event) : Duo × Bool :=
  match d.p0.freeList with
  | [] => ({ d with coordinator := dropNoted d.coordinator }, false)
  | slot :: rest =>
    (reschedule0
      { d with
        coordinator := pushNoted d.coordinator d.p0
        p0 := pushed d.p0 (d.queued event slot) rest
        ghost := { d.ghost with published := d.ghost.published + 1 } }, true)

/-- An event for player 1. -/
def post1 (d : Duo) (event : Event) : Duo × Bool :=
  match d.p1.freeList with
  | [] => ({ d with coordinator := dropNoted d.coordinator }, false)
  | slot :: rest =>
    (reschedule1
      { d with
        coordinator := pushNoted d.coordinator d.p1
        p1 := pushed d.p1 (d.queued event slot) rest
        ghost := { d.ghost with published := d.ghost.published + 1 } }, true)

theorem enqueueAt_toPair0 (d : Duo) (event : Event) :
    Pair.enqueueAt event (d.toPair, true) 0 =
      ((d.post0 event).1.toPair, (d.post0 event).2) := by
  unfold Pair.enqueueAt post0
  have hid : d.toPair.coordinator.attachedPlayers.getD 0 0 = 1 := rfl
  simp only [hid, lookup_toPair0, toState_player0]
  cases d.p0.freeList with
  | nil => rfl
  | cons slot rest =>
    simp only [← reschedule_toPair0]
    congr 2
    unfold pushNoted
    split <;> rfl

theorem enqueueAt_toPair1 (d : Duo) (event : Event) :
    Pair.enqueueAt event (d.toPair, true) 1 =
      ((d.post1 event).1.toPair, (d.post1 event).2) := by
  unfold Pair.enqueueAt post1
  have hid : d.toPair.coordinator.attachedPlayers.getD 1 0 = 2 := rfl
  simp only [hid, lookup_toPair1, toState_player1]
  cases d.p1.freeList with
  | nil => rfl
  | cons slot rest =>
    simp only [← reschedule_toPair1]
    congr 2
    unfold pushNoted
    split <;> rfl

/-- An event for the secondary players. -/
theorem enqueueEvent_secondary (d : Duo) (event : Event) :
    d.toPair.enqueueEvent event targetSecondary =
      ((d.post1 event).1.toPair, (d.post1 event).2) :=
  enqueueAt_toPair1 d event

/-- An event of player 0 for everybody else. -/
theorem enqueueEvent_others0 (d : Duo) (event : Event) :
    d.toPair.enqueueEvent event (targetAll &&& ~~~target 0) =
      ((d.post1 event).1.toPair, (d.post1 event).2) :=
  enqueueAt_toPair1 d event

/-- An event of player 1 for everybody else. -/
theorem enqueueEvent_others1 (d : Duo) (event : Event) :
    d.toPair.enqueueEvent event (targetAll &&& ~~~target 1) =
      ((d.post0 event).1.toPair, (d.post0 event).2) :=
  enqueueAt_toPair0 d event

/-- An event for player 1 alone. -/
theorem enqueueEvent_target1 (d : Duo) (event : Event) :
    d.toPair.enqueueEvent event (target 1) =
      ((d.post1 event).1.toPair, (d.post1 event).2) :=
  enqueueAt_toPair1 d event

/-! ## The barrier -/

/-- The barrier goes up: player 0 waits for player 1. -/
def raise (d : Duo) : Duo :=
  { d with
    coordinator := { d.coordinator with waiting := target 1 }
    ghost := { d.ghost with trace := .raised d.ghost.published :: d.ghost.trace } }

/-- The `mASSERT`s of `WaitOnPlayers`. -/
def checked (d : Duo) : Duo :=
  { d with ghost := { d.ghost with
      assertsHeld := d.ghost.assertsHeld && decide (d.coordinator.waiting = 0) && !d.p0.asleep } }

def wait (d : Duo) : Duo := d.checked.advance.raise.sleep0.wake1

theorem checked_toPair (d : Duo) :
    ((d.toPair.mAssert (d.toPair.coordinator.waiting = 0)).mAssert (!d.player0.asleep)).mAssert
      (d.player0.playerId = 0) = d.checked.toPair := by
  simp only [Pair.mAssert, playerId_player0, decide_true, Bool.and_true]
  rfl

theorem raise_toPair (d : Duo) :
    (d.toPair.modifyCoordinator fun c => { c with
      waiting := ((1#32 <<< c.nAttached) - 1) &&& ~~~target 0 }).record (.raised d.ghost.published) =
        d.raise.toPair := by
  have hmask : (((1#32 <<< 2) - 1) &&& ~~~target 0) = target 1 := by decide
  simp only [Pair.modifyCoordinator, nAttached_toPair, hmask]
  rfl

theorem waitOnPlayers_toPair (d : Duo) : d.toPair.waitOnPlayers 1 = d.wait.toPair := by
  unfold Pair.waitOnPlayers wait
  simp only [lookup_toPair0, checked_toPair]
  rw [if_neg (show ¬d.checked.toPair.coordinator.nAttached < 2 from by simp),
    show d.player0 = d.checked.player0 from rfl, advanceCycle_toPair, ← wakePlayers_toPair,
    ← playerSleep_toPair0, ← raise_toPair]
  rfl

def release (d : Duo) : Duo :=
  wake0 <|
    if d.coordinator.transferActive then
      { d with
        coordinator := { d.coordinator with transferActive := false }
        p0 := { d.p0 with dataReceived := true }
        p1 := { d.p1 with dataReceived := true } }
    else d

/-- Player 1's bit of the barrier goes down. -/
def lower (d : Duo) : Duo :=
  { d with
    coordinator := { d.coordinator with waiting := d.coordinator.waiting &&& ~~~target 1 }
    ghost := { d.ghost with trace := .cleared 1 d.ghost.current :: d.ghost.trace } }

def ack (d : Duo) : Duo :=
  if d.coordinator.waiting &&& target 1 = 0 then d
  else (if d.lower.coordinator.waiting = 0 then d.lower.release else d.lower).sleep1

theorem releaseBarrier_toPair (d : Duo) : d.toPair.releaseBarrier = d.release.toPair := by
  unfold Pair.releaseBarrier release
  rw [← playerWake_toPair0]
  by_cases h : d.coordinator.transferActive = true
  · simp only [coordinator_toPair, h, reduceIte]
    rfl
  · simp only [coordinator_toPair, h]
    rfl

theorem ackPlayer_toPair1 (d : Duo) : d.toPair.ackPlayer 2 = d.ack.toPair := by
  unfold Pair.ackPlayer ack
  simp only [lookup_toPair1]
  rw [if_neg (show ¬d.player1.playerId = 0 from by simp), apply_ite toPair, ← playerSleep_toPair1,
    apply_ite toPair, ← releaseBarrier_toPair]
  rfl

def hardSync (d : Duo) : Duo :=
  let r := d.post1 { type := .hardSync, playerId := 0, timestamp := d.time0 }
  if r.2 then r.1.wait else r.1

theorem hardSync_toPair (d : Duo) : d.toPair.hardSync 1 = d.hardSync.toPair := by
  unfold Pair.hardSync hardSync
  simp only [lookup_toPair0, enqueueEvent_secondary, waitOnPlayers_toPair, lockstepTime_toPair0]
  rw [apply_ite toPair]

/-! ## Transfer data and readiness -/

/-- The coordinator with the word of player `id` sampled from a machine. -/
def stored (c : CoordinatorState) (id : Nat) (gba : Gba) : CoordinatorState :=
  match c.transferMode with
  | .multi => { c with multiData := c.multiData.set id gba.siomltSend }
  | .normal8 => { c with normalData := c.normalData.set id (gba.siodata8.setWidth 32) }
  | .normal32 =>
    let low := c.normalData.set id (gba.siodata32Lo.setWidth 32)
    { c with normalData := low.set id (low.getD id 0 ||| (gba.siodata32Hi.setWidth 32 <<< 16)) }
  | _ => c

/-- The trace with that sample. -/
def sampledTrace (g : Ghost) (word : Option (BitVec 32)) (playerId : Int) (transfer : Nat) : Ghost :=
  match word with
  | some word => { g with trace := .sampled playerId transfer word :: g.trace }
  | none => g

def sample0 (d : Duo) (transfer : Nat) : Duo :=
  { d with
    coordinator := stored d.coordinator 0 d.d0.gba
    ghost := sampledTrace d.ghost (d.d0.gba.sioWord d.coordinator.transferMode) 0 transfer }

def sample1 (d : Duo) (transfer : Nat) : Duo :=
  { d with
    coordinator := stored d.coordinator 1 d.d1.gba
    ghost := sampledTrace d.ghost (d.d1.gba.sioWord d.coordinator.transferMode) 1 transfer }

theorem setData_toPair0 (d : Duo) :
    d.toPair.setData 0 0 = toPair { d with coordinator := stored d.coordinator 0 d.d0.gba } := by
  obtain ⟨⟨_, _, _, _, mode, _, _, _, _, _, _⟩, _, _, _, _, _⟩ := d
  cases mode <;> rfl

theorem setData_toPair1 (d : Duo) :
    d.toPair.setData 1 1 = toPair { d with coordinator := stored d.coordinator 1 d.d1.gba } := by
  obtain ⟨⟨_, _, _, _, mode, _, _, _, _, _, _⟩, _, _, _, _, _⟩ := d
  cases mode <;> rfl

theorem recordSample_toPair (d : Duo) (playerId : Int) (transfer : Nat) (i : Fin 2) :
    d.toPair.recordSample playerId transfer i = toPair
      { d with
        ghost := sampledTrace d.ghost ((d.toPair.drivers i).gba.sioWord d.coordinator.transferMode)
          playerId transfer } := by
  unfold Pair.recordSample sampledTrace
  simp only [coordinator_toPair]
  cases (d.toPair.drivers i).gba.sioWord d.coordinator.transferMode <;> rfl

@[simp] theorem stored_transferMode (c : CoordinatorState) (id : Nat) (gba : Gba) :
    (stored c id gba).transferMode = c.transferMode := by
  unfold stored
  cases h : c.transferMode <;> simp [h]

@[simp] theorem stored_waiting (c : CoordinatorState) (id : Nat) (gba : Gba) :
    (stored c id gba).waiting = c.waiting := by
  unfold stored
  cases c.transferMode <;> rfl

@[simp] theorem stored_transferActive (c : CoordinatorState) (id : Nat) (gba : Gba) :
    (stored c id gba).transferActive = c.transferActive := by
  unfold stored
  cases c.transferMode <;> rfl

omit [Mgba] in
@[simp] theorem sampledTrace_assertsHeld (g : Ghost) (word : Option (BitVec 32)) (playerId : Int)
    (transfer : Nat) : (sampledTrace g word playerId transfer).assertsHeld = g.assertsHeld := by
  unfold sampledTrace
  cases word <;> rfl

theorem sample_toPair0 (d : Duo) (transfer : Nat) :
    (d.toPair.setData 0 0).recordSample 0 transfer 0 = (d.sample0 transfer).toPair := by
  rw [setData_toPair0, recordSample_toPair, stored_transferMode]
  rfl

theorem sample_toPair1 (d : Duo) (transfer : Nat) :
    (d.toPair.setData 1 1).recordSample 1 transfer 1 = (d.sample1 transfer).toPair := by
  rw [setData_toPair1, recordSample_toPair, stored_transferMode]
  rfl

/-- The machine of a player that knows the modes of both players. -/
def readied (p : PlayerState) (gba : Gba) : Gba :=
  if p.mode = .multi then
    let ready := (List.range 2).all fun i => p.otherModes.getD i .none = p.mode
    { gba with
      siocnt := Mgba.multiplayerSetReady gba.siocnt ready, rcnt := Mgba.rcntSetSd gba.rcnt ready }
  else gba

@[simp] theorem now_readied (p : PlayerState) (gba : Gba) : (readied p gba).now = gba.now := by
  unfold readied
  split <;> rfl

/-- The player once it knows the mode of player `id`. -/
def withMode (p : PlayerState) (id : Nat) (mode : Mode) : PlayerState :=
  { p with otherModes := p.otherModes.set id mode }

def setReady0 (d : Duo) (id : Nat) (mode : Mode) : Duo :=
  { d with
    p0 := withMode d.p0 id mode
    d0 := { d.d0 with gba := readied (withMode d.p0 id mode) d.d0.gba } }

def setReady1 (d : Duo) (id : Nat) (mode : Mode) : Duo :=
  { d with
    p1 := withMode d.p1 id mode
    d1 := { d.d1 with gba := readied (withMode d.p1 id mode) d.d1.gba } }

theorem setReady_toPair0 (d : Duo) (id : Int) (mode : Mode) :
    d.toPair.setReady 1 id mode = (d.setReady0 id.toNat mode).toPair := by
  let f : Gba → Pair := fun gba =>
    toPair { d with p0 := withMode d.p0 id.toNat mode, d0 := { d.d0 with gba } }
  change _ = f (readied (withMode d.p0 id.toNat mode) d.d0.gba)
  unfold readied
  rw [apply_ite f]
  rfl

theorem setReady_toPair1 (d : Duo) (id : Int) (mode : Mode) :
    d.toPair.setReady 2 id mode = (d.setReady1 id.toNat mode).toPair := by
  let f : Gba → Pair := fun gba =>
    toPair { d with p1 := withMode d.p1 id.toNat mode, d1 := { d.d1 with gba } }
  change _ = f (readied (withMode d.p1 id.toNat mode) d.d1.gba)
  unfold readied
  rw [apply_ite f]
  rfl

/-! ## What the functions leave alone

Waking and sleeping touch neither the coordinator nor a queue, and the clock touches no queue. -/

@[simp] theorem coordinator_wake0 (d : Duo) : d.wake0.coordinator = d.coordinator := by
  unfold wake0
  split <;> rfl

@[simp] theorem coordinator_wake1 (d : Duo) : d.wake1.coordinator = d.coordinator := by
  unfold wake1
  split <;> rfl

@[simp] theorem coordinator_sleep0 (d : Duo) : d.sleep0.coordinator = d.coordinator := by
  unfold sleep0
  split <;> rfl

@[simp] theorem coordinator_sleep1 (d : Duo) : d.sleep1.coordinator = d.coordinator := by
  unfold sleep1
  split <;> rfl

@[simp] theorem ghost_wake0 (d : Duo) : d.wake0.ghost = d.ghost := by
  unfold wake0
  split <;> rfl

@[simp] theorem ghost_wake1 (d : Duo) : d.wake1.ghost = d.ghost := by
  unfold wake1
  split <;> rfl

@[simp] theorem ghost_sleep0 (d : Duo) : d.sleep0.ghost = d.ghost := by
  unfold sleep0
  split <;> rfl

@[simp] theorem ghost_sleep1 (d : Duo) : d.sleep1.ghost = d.ghost := by
  unfold sleep1
  split <;> rfl

@[simp] theorem waiting_advance (d : Duo) :
    d.advance.coordinator.waiting = d.coordinator.waiting := by
  unfold advance
  dsimp only
  split <;> rfl

@[simp] theorem transferActive_advance (d : Duo) :
    d.advance.coordinator.transferActive = d.coordinator.transferActive := by
  unfold advance
  dsimp only
  split <;> rfl

@[simp] theorem queue0_wake0 (d : Duo) : d.wake0.p0.queue = d.p0.queue := by
  unfold wake0
  split <;> rfl

@[simp] theorem queue1_wake0 (d : Duo) : d.wake0.p1.queue = d.p1.queue := by
  unfold wake0
  split <;> rfl

@[simp] theorem queue0_wake1 (d : Duo) : d.wake1.p0.queue = d.p0.queue := by
  unfold wake1
  split <;> rfl

@[simp] theorem queue1_wake1 (d : Duo) : d.wake1.p1.queue = d.p1.queue := by
  unfold wake1
  split <;> rfl

@[simp] theorem queue0_sleep0 (d : Duo) : d.sleep0.p0.queue = d.p0.queue := by
  unfold sleep0
  split <;> rfl

@[simp] theorem queue1_sleep0 (d : Duo) : d.sleep0.p1.queue = d.p1.queue := by
  unfold sleep0
  split <;> rfl

@[simp] theorem queue0_sleep1 (d : Duo) : d.sleep1.p0.queue = d.p0.queue := by
  unfold sleep1
  split <;> rfl

@[simp] theorem queue1_sleep1 (d : Duo) : d.sleep1.p1.queue = d.p1.queue := by
  unfold sleep1
  split <;> rfl

@[simp] theorem queue0_advance (d : Duo) : d.advance.p0.queue = d.p0.queue := by
  unfold advance
  dsimp only
  split <;> rfl

@[simp] theorem queue1_advance (d : Duo) : d.advance.p1.queue = d.p1.queue := by
  unfold advance
  dsimp only
  split <;> rfl

@[simp] theorem queue0_post1 (d : Duo) (event : Event) : (d.post1 event).1.p0.queue = d.p0.queue := by
  unfold post1
  split <;> rfl

@[simp] theorem queue1_post0 (d : Duo) (event : Event) : (d.post0 event).1.p1.queue = d.p1.queue := by
  unfold post0
  split <;> rfl

@[simp] theorem queue0_wait (d : Duo) : d.wait.p0.queue = d.p0.queue := by
  simp [wait, raise, checked]

@[simp] theorem queue1_wait (d : Duo) : d.wait.p1.queue = d.p1.queue := by
  simp [wait, raise, checked]

@[simp] theorem queue0_hardSync (d : Duo) : d.hardSync.p0.queue = d.p0.queue := by
  unfold hardSync
  dsimp only
  split <;> simp

@[simp] theorem queue1_ack (d : Duo) : d.ack.p1.queue = d.p1.queue := by
  unfold ack release lower
  split
  · rfl
  · rw [queue1_sleep1]
    split
    · rw [queue1_wake0]
      split <;> rfl
    · rfl

@[simp] theorem time0_wake1 (d : Duo) : d.wake1.time0 = d.time0 := by
  unfold wake1
  split <;> rfl

@[simp] theorem time0_sleep0 (d : Duo) : d.sleep0.time0 = d.time0 := by
  unfold sleep0
  split <;> rfl

@[simp] theorem time0_advance (d : Duo) : d.advance.time0 = d.time0 := by
  unfold advance
  dsimp only
  split <;> rfl

@[simp] theorem time0_wait (d : Duo) : d.wait.time0 = d.time0 := by
  unfold wait
  rw [time0_wake1, time0_sleep0]
  exact time0_advance d.checked

end Duo

end DualBoy.Lockstep
