import DualBoy.Lockstep.Run

/-!
# The clock has no origin

`Pair.shift k` moves every absolute time of the scheduler by `k`: the shared cycle, the timestamps
and the completion times in the queues; the players' offsets move the other way, so that each
player's own time moves along. Delays, and the machines themselves, stay.

* `wrap_invariance`: every function of the scheduler commutes with the shift, whatever the state and
  whatever `k`, and none of its signed arithmetic overflows.
-/

namespace DualBoy.Lockstep

open DualBoy.Lib

/-! ## Shifted states -/

def EventType.shift (k : Cycle) : EventType → EventType
  | .transferStart finishCycle => .transferStart (finishCycle + k)
  | type => type

def Event.shift (k : Cycle) (e : Event) : Event :=
  { e with type := e.type.shift k, timestamp := e.timestamp + k }

def QueuedEvent.shift (k : Cycle) (e : QueuedEvent) : QueuedEvent :=
  { e with type := e.type.shift k, timestamp := e.timestamp + k }

def Player.shift (k : Cycle) (p : Player) : Player :=
  { p with cycleOffset := p.cycleOffset - k, queue := p.queue.map (QueuedEvent.shift k) }

def Coordinator.shift (k : Cycle) (c : Coordinator) : Coordinator :=
  { c with cycle := c.cycle + k, players := c.players.map fun e => (e.1, e.2.shift k) }

/-! ## Clock arithmetic -/

theorem cycleDelta_shift (later earlier k : Cycle) :
    cycleDelta (later + k) (earlier + k) = cycleDelta later earlier := by
  rw [cycleDelta_eq, cycleDelta_eq]
  bv_omega

theorem cycleAdd_shift (cycle offset k : Cycle) :
    cycleAdd (cycle + k) offset = cycleAdd cycle offset + k := by
  unfold cycleAdd
  rw [cycleFromBits_eq, cycleFromBits_eq]
  bv_omega

/-! ## Signed arithmetic

The signed expressions of the scheduler with C's rule for them: a result outside its type is no
result. -/

/-- The value of an `int32_t` expression. -/
def int32 (value : Int) : Option Cycle :=
  if int32Min.toInt ≤ value ∧ value ≤ int32Max.toInt then some (BitVec.ofInt 32 value) else none

/-- The value of an `int64_t` expression. -/
def int64 (value : Int) : Option Int :=
  if -9223372036854775808 ≤ value ∧ value ≤ 9223372036854775807 then some value else none

/-- `_cycleFromBits`: both casts, and the difference from `-1`. -/
def cycleFromBitsChecked (value : BitVec 32) : Option Cycle :=
  if value.toNat ≤ int32Max.toNat then int32 value.toNat
  else do
    let distance ← int32 (0xffffffff#32 - value).toNat
    int32 (-1 - distance.toInt)

/-- `_cycleDelta`. -/
def cycleDeltaChecked (later earlier : Cycle) : Option Cycle :=
  cycleFromBitsChecked (later - earlier)

/-- `_delayAddSaturated`: the sum, and the cast of what is not clamped. -/
def delayAddSaturatedChecked (delay adjustment : Cycle) : Option Cycle := do
  let result ← int64 (delay.toInt + adjustment.toInt)
  if int32Max.toInt < result then some int32Max
  else if result < int32Min.toInt then some int32Min
  else int32 result

/-- `_delayAfterLateness`: the cast of the lateness, and the difference. -/
def delayAfterLatenessChecked (delay : Cycle) (cyclesLate : BitVec 32) : Option Cycle :=
  if delay.toInt ≤ 0 ∨ delay.toNat ≤ cyclesLate.toNat then some 0
  else do
    let late ← int32 cyclesLate.toNat
    int32 (delay.toInt - late.toInt)

/-- `1 << p`. -/
def shiftOneChecked (p : Nat) : Option Cycle :=
  if p < 32 then int32 (2 ^ p) else none

/-- `(1 << n) - 1`. -/
def allBelowChecked (n : Nat) : Option Cycle := do
  let bit ← shiftOneChecked n
  int32 (bit.toInt - 1)

/-- `coordinator->nAttached - 1`. -/
def othersChecked (n : Nat) : Option Cycle :=
  int32 (n - 1)

theorem int32Min_toInt : int32Min.toInt = -2147483648 := by decide

theorem int32Max_toInt : int32Max.toInt = 2147483647 := by decide

theorem int32_toInt (value : Cycle) : int32 value.toInt = some value := by
  have hlow := BitVec.le_toInt value
  have hhigh := BitVec.toInt_lt (x := value)
  unfold int32
  rw [int32Min_toInt, int32Max_toInt, if_pos (by omega), BitVec.ofInt_toInt]

theorem int32_of_toInt {value : Int} {c : Cycle} (h : c.toInt = value) : int32 value = some c :=
  h ▸ int32_toInt c

theorem cycleFromBitsChecked_eq (value : BitVec 32) :
    cycleFromBitsChecked value = some (cycleFromBits value) := by
  have hmax : int32Max.toNat = 2 ^ 31 - 1 := by decide
  unfold cycleFromBitsChecked cycleFromBits
  by_cases h : value.toNat ≤ int32Max.toNat
  · rw [if_pos h, if_pos h]
    exact int32_of_toInt (BitVec.toInt_eq_toNat_of_lt (by omega))
  · rw [if_neg h, if_neg h]
    have hback : -1#32 - (0xffffffff#32 - value) = value := by bv_omega
    have hvalue : (0xffffffff#32 - value).toNat = 2 ^ 32 - 1 - value.toNat := by bv_omega
    generalize 0xffffffff#32 - value = distance at hback hvalue
    have hdistance : distance.toInt = distance.toNat :=
      BitVec.toInt_eq_toNat_of_lt (by omega)
    rw [int32_of_toInt hdistance, Option.bind_eq_bind, Option.bind_some]
    refine int32_of_toInt ?_
    rw [hdistance, hback, BitVec.toInt_eq_toNat_cond, if_neg (by omega), hvalue]
    omega

theorem cycleDeltaChecked_eq (later earlier : Cycle) :
    cycleDeltaChecked later earlier = some (cycleDelta later earlier) :=
  cycleFromBitsChecked_eq _

/-- A delay that is not negative has a negation. -/
theorem int32_neg {delay : Cycle} (h : 0 ≤ delay.toInt) :
    int32 (-delay.toInt) = some (-delay) := by
  have hmax := BitVec.toInt_lt (x := delay)
  refine int32_of_toInt (BitVec.toInt_neg_of_ne_intMin fun hmin => ?_)
  rw [hmin] at h
  exact absurd h (by decide)

theorem delayAddSaturatedChecked_eq (delay adjustment : Cycle) :
    delayAddSaturatedChecked delay adjustment = some (delayAddSaturated delay adjustment) := by
  have hdelay := BitVec.le_toInt delay
  have hdelay' := BitVec.toInt_lt (x := delay)
  have hadjustment := BitVec.le_toInt adjustment
  have hadjustment' := BitVec.toInt_lt (x := adjustment)
  have hsum : int64 (delay.toInt + adjustment.toInt) = some (delay.toInt + adjustment.toInt) := by
    unfold int64
    rw [if_pos (by omega)]
  unfold delayAddSaturatedChecked delayAddSaturated
  rw [hsum]
  dsimp only [Option.bind_eq_bind, Option.bind_some]
  split
  · rfl
  split
  · rfl
  · unfold int32
    rw [if_pos (by omega)]

theorem delayAfterLatenessChecked_eq (delay : Cycle) (cyclesLate : BitVec 32) :
    delayAfterLatenessChecked delay cyclesLate = some (delayAfterLateness delay cyclesLate) := by
  unfold delayAfterLatenessChecked delayAfterLateness
  split
  · rfl
  · next h =>
    rw [not_or] at h
    obtain ⟨hpos, hlate⟩ := h
    have hdelay := BitVec.toInt_eq_toNat_cond delay
    split at hdelay
    · have hcast : cyclesLate.toInt = cyclesLate.toNat :=
        BitVec.toInt_eq_toNat_of_lt (by omega)
      have hdiff : (delay - cyclesLate).toNat = delay.toNat - cyclesLate.toNat := by bv_omega
      rw [int32_of_toInt hcast]
      refine int32_of_toInt ?_
      rw [BitVec.toInt_eq_toNat_of_lt (by omega), hdiff, hcast, hdelay]
      omega
    · omega

/-- Every place and every player id is below `MAX_GBAS`: its target is a bit of an `int`. -/
theorem shiftOneChecked_eq : ∀ p : Fin maxGbas, shiftOneChecked p = some (target p) := by
  decide

/-- There are no more players than places: the barrier's mask is an `int`. -/
theorem allBelowChecked_eq :
    ∀ n : Fin (maxGbas + 1), allBelowChecked n = some ((1#32 <<< n.val) - 1) := by
  decide

theorem othersChecked_eq :
    ∀ n : Fin (maxGbas + 1), othersChecked n = some (BitVec.ofInt 32 (n.val - 1)) := by
  decide

variable [Mgba]

namespace Pair

def shift (k : Cycle) (s : Pair) : Pair :=
  { s with coordinator := s.coordinator.shift k }

variable {k : Cycle} {s : Pair} {player : Player} {id : Nat}

@[simp] theorem drivers_shift (i : Fin 2) : (s.shift k).drivers i = s.drivers i := by
  match i with
  | 0 => rfl
  | 1 => rfl

@[simp] theorem lockstepTime_shift :
    (s.shift k).lockstepTime (player.shift k) = s.lockstepTime player + k := by
  unfold lockstepTime
  rw [drivers_shift, cycleDelta_eq, cycleDelta_eq]
  simp only [Player.shift]
  bv_omega

/-! ## Access -/

@[simp] theorem lookup_shift : (s.shift k).lookup id = (s.lookup id).map (Player.shift k) := by
  unfold lookup shift Coordinator.shift
  dsimp only
  induction s.coordinator.players with
  | nil => rfl
  | cons e players ih =>
    obtain ⟨key, p⟩ := e
    rw [List.map_cons, List.lookup_cons, List.lookup_cons]
    dsimp only
    cases id == key with
    | true => rfl
    | false => exact ih

theorem modifyPlayer_shift_of {f f' : Player → Player}
    (hf : ∀ p : Player, f' (p.shift k) = (f p).shift k) :
    (s.shift k).modifyPlayer id f' = (s.modifyPlayer id f).shift k := by
  unfold modifyPlayer shift Coordinator.shift
  simp only [List.map_map, mk.injEq, Coordinator.mk.injEq, and_true, true_and]
  refine List.map_congr_left fun e _ => ?_
  simp only [Function.comp]
  split
  · rw [hf]
  · rfl

theorem modifyPlayer_shift {f : Player → Player}
    (hf : ∀ p : Player, f (p.shift k) = (f p).shift k) :
    (s.shift k).modifyPlayer id f = (s.modifyPlayer id f).shift k :=
  modifyPlayer_shift_of hf

theorem modifyCoordinator_shift_of {f f' : Coordinator → Coordinator}
    (hf : ∀ c : Coordinator, f' (c.shift k) = (f c).shift k) :
    (s.shift k).modifyCoordinator f' = (s.modifyCoordinator f).shift k := by
  unfold modifyCoordinator shift
  rw [hf]

theorem modifyCoordinator_shift {f : Coordinator → Coordinator}
    (hf : ∀ c : Coordinator, f (c.shift k) = (f c).shift k) :
    (s.shift k).modifyCoordinator f = (s.modifyCoordinator f).shift k :=
  modifyCoordinator_shift_of hf

theorem modifyGba_shift (i : Fin 2) (f : Gba → Gba) :
    (s.shift k).modifyGba i f = (s.modifyGba i f).shift k := by
  match i with
  | 0 => rfl
  | 1 => rfl

theorem foldl_shift {α : Type} {f : Pair → α → Pair}
    (hf : ∀ s a, f (s.shift k) a = (f s a).shift k) (as : List α) :
    as.foldl f (s.shift k) = (as.foldl f s).shift k := by
  induction as generalizing s with
  | nil => rfl
  | cons a as ih =>
    rw [List.foldl_cons, List.foldl_cons, hf]
    exact ih

/-! ## Sleeping and waking -/

theorem lockstepWake_shift (i : Fin 2) : (s.shift k).lockstepWake i = (s.lockstepWake i).shift k := by
  match i with
  | 0 => rfl
  | 1 => rfl

theorem lockstepSleep_shift (i : Fin 2) :
    (s.shift k).lockstepSleep i = (s.lockstepSleep i).shift k := by
  unfold lockstepSleep
  rw [show (s.shift k).pairReady = s.pairReady from rfl]
  split
  · match i with
    | 0 => rfl
    | 1 => rfl
  · rfl

theorem playerWake_shift : (s.shift k).playerWake id = (s.playerWake id).shift k := by
  unfold playerWake
  rw [lookup_shift]
  cases s.lookup id with
  | none => rfl
  | some player =>
    simp only [Option.map_some]
    rw [show (player.shift k).asleep = player.asleep from rfl,
      show (player.shift k).driver = player.driver from rfl]
    split
    · rw [modifyPlayer_shift, lockstepWake_shift]
      exact fun _ => rfl
    · rfl

theorem playerSleep_shift : (s.shift k).playerSleep id = (s.playerSleep id).shift k := by
  unfold playerSleep
  rw [lookup_shift]
  cases s.lookup id with
  | none => rfl
  | some player =>
    simp only [Option.map_some]
    rw [show (player.shift k).asleep = player.asleep from rfl,
      show (player.shift k).driver = player.driver from rfl]
    split
    · rfl
    · rw [modifyPlayer_shift, lockstepSleep_shift, modifyGba_shift]
      exact fun _ => rfl

theorem wakePlayers_shift : (s.shift k).wakePlayers = s.wakePlayers.shift k := by
  unfold wakePlayers
  refine foldl_shift (fun s i => ?_) _
  by_cases h : i = 0 ∨ s.coordinator.attachedPlayers.getD i 0 = 0
  · exact (if_pos h).trans (congrArg _ (if_pos h).symm)
  · exact (if_neg h).trans (playerWake_shift.trans (congrArg _ (if_neg h).symm))

/-! ## The clock -/

theorem untilNextSync_shift :
    (s.shift k).untilNextSync (player.shift k) = s.untilNextSync player := by
  unfold untilNextSync
  rw [lockstepTime_shift]
  change (if s.coordinator.syncArmed = true then
    let cycle := cycleDelta (s.coordinator.cycle + k) (s.lockstepTime player + k)
    if player.playerId = 0 then
      if s.coordinator.nAttached < 2 then delayAddSaturated cycle unlockedInterval
      else delayAddSaturated cycle lockstepInterval
    else cycle
  else unlockedInterval) = _
  rw [cycleDelta_shift]

theorem advanceCycle_shift :
    (s.shift k).advanceCycle (player.shift k) = (s.advanceCycle player).shift k := by
  unfold advanceCycle
  rw [lockstepTime_shift]
  dsimp only
  rw [show (s.shift k).coordinator.cycle = s.coordinator.cycle + k from rfl, cycleDelta_shift]
  split
  · rfl
  · exact modifyCoordinator_shift_of fun _ => rfl

/-! ## Queues -/

theorem rescheduleForQueueHead_shift :
    (s.shift k).rescheduleForQueueHead id = (s.rescheduleForQueueHead id).shift k := by
  unfold rescheduleForQueueHead
  rw [lookup_shift]
  cases s.lookup id with
  | none => rfl
  | some player =>
    simp only [Option.map_some]
    rw [show (player.shift k).queue = player.queue.map (QueuedEvent.shift k) from rfl,
      show (player.shift k).driver = player.driver from rfl, drivers_shift]
    cases player.queue with
    | nil => rfl
    | cons head rest =>
      simp only [List.map_cons]
      rw [show (QueuedEvent.shift k head).timestamp = head.timestamp + k from rfl,
        lockstepTime_shift, cycleDelta_shift]
      split
      · split
        · rfl
        · exact modifyGba_shift _ _
      · rfl

omit [Mgba] in
theorem precedes_shift (event next : QueuedEvent) :
    precedes (event.shift k) (next.shift k) = precedes event next := by
  unfold precedes
  rw [show (QueuedEvent.shift k event).timestamp = event.timestamp + k from rfl,
    show (QueuedEvent.shift k next).timestamp = next.timestamp + k from rfl, cycleDelta_shift]

/-- The state of a result moves. -/
def shiftResult (k : Cycle) (r : Pair × Bool) : Pair × Bool :=
  (r.1.shift k, r.2)

theorem enqueueAt_shift (event : Event) (r : Pair × Bool) (i : Nat) :
    enqueueAt (event.shift k) (shiftResult k r) i = shiftResult k (enqueueAt event r i) := by
  obtain ⟨s, ok⟩ := r
  unfold enqueueAt shiftResult
  dsimp only
  rw [show (s.shift k).coordinator.attachedPlayers = s.coordinator.attachedPlayers from rfl,
    lookup_shift]
  generalize s.coordinator.attachedPlayers.getD i 0 = id
  cases s.lookup id with
  | none => rfl
  | some player =>
    simp only [Option.map_some]
    rw [show (player.shift k).freeList = player.freeList from rfl,
      show (player.shift k).queueDepth = player.queueDepth from rfl,
      show (player.shift k).maxQueueDepth = player.maxQueueDepth from rfl]
    cases player.freeList with
    | nil =>
      dsimp only
      rw [modifyCoordinator_shift]
      exact fun _ => rfl
    | cons slot freeList =>
      dsimp only
      refine Prod.ext ?_ rfl
      dsimp only
      rw [← rescheduleForQueueHead_shift]
      refine congrArg (fun s : Pair => s.rescheduleForQueueHead id) ?_
      have hplayer (s : Pair) (newEvent : QueuedEvent) :
          (s.shift k).modifyPlayer id (fun p =>
            { p with
              freeList
              queue := insertBefore (precedes (newEvent.shift k)) (newEvent.shift k) p.queue
              queueDepth := player.queueDepth + 1
              maxQueueDepth := max p.maxQueueDepth (player.queueDepth + 1) }) =
          (s.modifyPlayer id (fun p =>
            { p with
              freeList
              queue := insertBefore (precedes newEvent) newEvent p.queue
              queueDepth := player.queueDepth + 1
              maxQueueDepth := max p.maxQueueDepth (player.queueDepth + 1) })).shift k := by
        refine modifyPlayer_shift_of fun p => ?_
        unfold Player.shift
        dsimp only
        rw [map_insertBefore (precedes_shift newEvent)]
      rw [apply_ite (Pair.shift k)]
      split
      · rw [← modifyCoordinator_shift, ← hplayer]
        · rfl
        · exact fun _ => rfl
      · rw [← hplayer]
        rfl

theorem enqueueEvent_shift (event : Event) (targets : BitVec 32) :
    (s.shift k).enqueueEvent (event.shift k) targets =
      shiftResult k (s.enqueueEvent event targets) := by
  unfold enqueueEvent
  rw [show (s.shift k).coordinator.nAttached = s.coordinator.nAttached from rfl]
  have hall (places : List Nat) (r : Pair × Bool) :
      places.foldl (fun r (i : Nat) =>
        if targets &&& target i = 0 then r else enqueueAt (event.shift k) r i) (shiftResult k r) =
      shiftResult k (places.foldl (fun r (i : Nat) =>
        if targets &&& target i = 0 then r else enqueueAt event r i) r) := by
    induction places generalizing r with
    | nil => rfl
    | cons i places ih =>
      rw [List.foldl_cons, List.foldl_cons, ← ih, apply_ite (shiftResult k), enqueueAt_shift]
  exact hall _ (s, true)

/-! ## The barrier -/

theorem mAssert_shift (condition : Bool) :
    (s.shift k).mAssert condition = (s.mAssert condition).shift k := rfl

theorem record_shift (t : Trace) : (s.shift k).record t = (s.record t).shift k := rfl

theorem waitOnPlayers_shift : (s.shift k).waitOnPlayers id = (s.waitOnPlayers id).shift k := by
  unfold waitOnPlayers
  rw [lookup_shift]
  cases s.lookup id with
  | none => rfl
  | some player =>
    simp only [Option.map_some, mAssert_shift]
    rw [show (s.shift k).coordinator.waiting = s.coordinator.waiting from rfl,
      show (player.shift k).asleep = player.asleep from rfl,
      show (player.shift k).playerId = player.playerId from rfl]
    by_cases h : s.coordinator.nAttached < 2
    · exact (if_pos h).trans (congrArg _ (if_pos h).symm)
    · refine (if_neg h).trans (Eq.trans ?_ (congrArg _ (if_neg h).symm))
      rw [advanceCycle_shift, modifyCoordinator_shift, ← wakePlayers_shift, ← playerSleep_shift]
      · rfl
      · exact fun _ => rfl

theorem markReceived_shift : (s.shift k).markReceived = s.markReceived.shift k := by
  unfold markReceived
  refine foldl_shift (fun s i => ?_) _
  by_cases h : s.coordinator.attachedPlayers.getD i 0 = 0
  · exact (if_pos h).trans (congrArg _ (if_pos h).symm)
  · refine (if_neg h).trans (Eq.trans ?_ (congrArg _ (if_neg h).symm))
    exact modifyPlayer_shift fun _ => rfl

theorem releaseBarrier_shift : (s.shift k).releaseBarrier = s.releaseBarrier.shift k := by
  unfold releaseBarrier
  rw [show (s.shift k).coordinator.transferActive = s.coordinator.transferActive from rfl]
  split
  · rw [markReceived_shift, modifyCoordinator_shift, ← playerWake_shift]
    · rfl
    · exact fun _ => rfl
  · rw [← playerWake_shift]
    rfl

theorem ackPlayer_shift : (s.shift k).ackPlayer id = (s.ackPlayer id).shift k := by
  unfold ackPlayer
  rw [lookup_shift]
  cases s.lookup id with
  | none => rfl
  | some player =>
    simp only [Option.map_some]
    rw [show (player.shift k).playerId = player.playerId from rfl,
      show (s.shift k).coordinator.waiting = s.coordinator.waiting from rfl]
    split
    · rfl
    · split
      · rfl
      · rw [modifyCoordinator_shift, ← playerSleep_shift]
        · refine congrArg (fun s : Pair => s.playerSleep id) ?_
          rw [apply_ite (Pair.shift k), ← releaseBarrier_shift]
          rfl
        · exact fun _ => rfl

theorem hardSync_shift : (s.shift k).hardSync id = (s.hardSync id).shift k := by
  unfold hardSync
  rw [lookup_shift]
  cases s.lookup id with
  | none => rfl
  | some player =>
    simp only [Option.map_some]
    have hevent : (⟨.hardSync, 0, s.lockstepTime player + k⟩ : Event) =
        Event.shift k ⟨.hardSync, 0, s.lockstepTime player⟩ := rfl
    rw [lockstepTime_shift, hevent, enqueueEvent_shift]
    unfold shiftResult
    dsimp only
    split
    · exact waitOnPlayers_shift
    · rfl

/-! ## Transfer data and readiness -/

theorem setData_shift (i : Fin 2) : (s.shift k).setData id i = (s.setData id i).shift k := by
  unfold setData
  rw [drivers_shift, show (s.shift k).coordinator.transferMode = s.coordinator.transferMode from rfl]
  dsimp only
  split <;> rfl

theorem recordSample_shift (playerId : Int) (transfer : Nat) (i : Fin 2) :
    (s.shift k).recordSample playerId transfer i = (s.recordSample playerId transfer i).shift k := by
  unfold recordSample
  rw [drivers_shift, show (s.shift k).coordinator.transferMode = s.coordinator.transferMode from rfl]
  split <;> rfl

theorem setReady_shift (playerId : Int) (mode : Mode) :
    (s.shift k).setReady id playerId mode = (s.setReady id playerId mode).shift k := by
  unfold setReady
  rw [modifyPlayer_shift]
  · generalize s.modifyPlayer id _ = s
    dsimp only
    rw [lookup_shift]
    cases s.lookup id with
    | none => rfl
    | some player =>
      simp only [Option.map_some]
      rw [show (player.shift k).mode = player.mode from rfl]
      split
      · exact modifyGba_shift _ _
      · rfl
  · exact fun _ => rfl

/-! ## Callbacks -/

/-- The locals of the queue loop move with the state. -/
def EventLoop.shift (k : Cycle) (l : EventLoop) : EventLoop :=
  { l with pair := l.pair.shift k }

theorem recycleEvent_shift (event : QueuedEvent) :
    (s.shift k).recycleEvent id (event.shift k) = (s.recycleEvent id event).shift k := by
  unfold recycleEvent
  exact modifyPlayer_shift_of fun _ => rfl

theorem setMode_shift (i : Fin 2) (mode : Mode) :
    (s.shift k).setMode i mode = (s.setMode i mode).shift k := by
  unfold setMode
  rw [drivers_shift]
  split
  · rfl
  dsimp only
  rw [lookup_shift]
  generalize (s.drivers i).lockstepId = id
  cases s.lookup id with
  | none => rfl
  | some player =>
    simp only [Option.map_some]
    rw [show (player.shift k).mode = player.mode from rfl,
      show (player.shift k).playerId = player.playerId from rfl,
      show (player.shift k).driver = player.driver from rfl]
    split
    · rfl
    rw [modifyPlayer_shift]
    · generalize s.modifyPlayer id _ = s
      have hevent : (⟨.modeSet mode, player.playerId, s.lockstepTime player + k⟩ : Event) =
          Event.shift k ⟨.modeSet mode, player.playerId, s.lockstepTime player⟩ := rfl
      have hopened : (if player.playerId = 0 then
            (s.shift k).modifyCoordinator fun c => { c with transferMode := mode }
          else s.shift k) =
          Pair.shift k (if player.playerId = 0 then
            s.modifyCoordinator fun c => { c with transferMode := mode }
          else s) := by
        split <;> rfl
      rw [lockstepTime_shift, hevent, hopened, setReady_shift, enqueueEvent_shift,
        show (s.shift k).coordinator.waiting = s.coordinator.waiting from rfl]
      unfold shiftResult
      dsimp only
      generalize Pair.enqueueEvent _ _ _ = r
      rw [apply_ite (Pair.shift k), ← waitOnPlayers_shift, apply_ite (Pair.shift k),
        modifyGba_shift]
    · exact fun _ => rfl

theorem start_shift (i : Fin 2) : (s.shift k).start i = shiftResult k (s.start i) := by
  unfold start
  rw [drivers_shift,
    show (s.shift k).coordinator.transferActive = s.coordinator.transferActive from rfl]
  split
  · rfl
  dsimp only
  rw [lookup_shift]
  generalize (s.drivers i).lockstepId = id
  cases s.lookup id with
  | none => rfl
  | some player =>
    simp only [Option.map_some]
    rw [show (player.shift k).mode = player.mode from rfl,
      show (player.shift k).playerId = player.playerId from rfl,
      show (player.shift k).driver = player.driver from rfl]
    split
    · rfl
    rw [modifyCoordinator_shift]
    · generalize hcleared : s.modifyCoordinator _ = cleared
      rw [setData_shift, show (cleared.shift k).ghost = cleared.ghost from rfl, recordSample_shift]
      generalize (cleared.setData 0 player.driver).recordSample _ _ _ = s
      have hevent (cycles : Cycle) :
          (⟨.transferStart (cycleAdd (s.lockstepTime player + k) cycles), 0,
            s.lockstepTime player + k⟩ : Event) =
          Event.shift k ⟨.transferStart (cycleAdd (s.lockstepTime player) cycles), 0,
            s.lockstepTime player⟩ := by
        rw [cycleAdd_shift]
        rfl
      rw [lockstepTime_shift, drivers_shift, hevent, enqueueEvent_shift,
        show (s.shift k).coordinator.nAttached = s.coordinator.nAttached from rfl]
      unfold shiftResult
      dsimp only
      generalize Pair.enqueueEvent _ _ _ = r
      split
      · rw [modifyCoordinator_shift]
        · generalize r.1.modifyCoordinator _ = s
          have harmed : (if player.mode = .multi ∧ ¬s.coordinator.syncArmed then
                (s.shift k).modifyCoordinator fun c =>
                  { c with syncArmed := true, nextHardSync := hardSyncInterval }
              else s.shift k) =
              Pair.shift k (if player.mode = .multi ∧ ¬s.coordinator.syncArmed then
                s.modifyCoordinator fun c =>
                  { c with syncArmed := true, nextHardSync := hardSyncInterval }
              else s) := by
            split <;> rfl
          rw [show (s.shift k).coordinator.syncArmed = s.coordinator.syncArmed from rfl, harmed]
          generalize (if player.mode = .multi ∧ ¬s.coordinator.syncArmed then
            s.modifyCoordinator fun c =>
              { c with syncArmed := true, nextHardSync := hardSyncInterval }
            else s) = s
          rw [show (s.shift k).coordinator.waiting = s.coordinator.waiting from rfl,
            waitOnPlayers_shift]
          split <;> rfl
        · exact fun _ => rfl
      · rfl
    · exact fun _ => rfl

theorem finishTransfer_shift :
    (s.shift k).finishTransfer id = (s.finishTransfer id).shift k := by
  unfold finishTransfer
  rw [modifyPlayer_shift]
  · generalize s.modifyPlayer id _ = s
    dsimp only
    rw [lookup_shift]
    cases s.lookup id with
    | none => rfl
    | some player =>
      simp only [Option.map_some]
      rw [show (player.shift k).playerId = player.playerId from rfl,
        show (s.shift k).coordinator.syncArmed = s.coordinator.syncArmed from rfl,
        show (s.shift k).coordinator.waiting = s.coordinator.waiting from rfl]
      split
      · split
        · rfl
        · split
          · exact modifyCoordinator_shift_of fun _ => rfl
          · exact hardSync_shift
      · rfl
  · exact fun _ => rfl

theorem finishMultiplayer_shift (i : Fin 2) (data : List (BitVec 16)) :
    (s.shift k).finishMultiplayer i data =
      ((s.finishMultiplayer i data).1.shift k, (s.finishMultiplayer i data).2) := by
  unfold finishMultiplayer
  rw [drivers_shift, show (s.shift k).coordinator.transferMode = s.coordinator.transferMode from rfl]
  split
  · dsimp only
    rw [lookup_shift]
    cases s.lookup (s.drivers i).lockstepId with
    | none => rfl
    | some player =>
      simp only [Option.map_some]
      rw [show (player.shift k).dataReceived = player.dataReceived from rfl,
        show (player.shift k).playerId = player.playerId from rfl]
      split
      · rw [record_shift, finishTransfer_shift]
        rfl
      · rw [finishTransfer_shift]
  · rfl

theorem finishNormal_shift (i : Fin 2) (mode : Mode) :
    (s.shift k).finishNormal i mode =
      ((s.finishNormal i mode).1.shift k, (s.finishNormal i mode).2) := by
  unfold finishNormal
  rw [drivers_shift, show (s.shift k).coordinator.transferMode = s.coordinator.transferMode from rfl]
  split
  · dsimp only
    rw [lookup_shift]
    cases s.lookup (s.drivers i).lockstepId with
    | none => rfl
    | some player =>
      simp only [Option.map_some]
      rw [show (s.shift k).normalWord (player.shift k) = s.normalWord player from rfl,
        show (player.shift k).playerId = player.playerId from rfl]
      split
      · rw [record_shift, finishTransfer_shift]
      · rw [finishTransfer_shift]
  · rfl

theorem handleEvent_shift (cyclesLate : BitVec 32) (event : QueuedEvent) (l : EventLoop) :
    handleEvent id cyclesLate (event.shift k) (l.shift k) =
      (handleEvent id cyclesLate event l).shift k := by
  obtain ⟨s, nextEvent, wasDetach⟩ := l
  unfold handleEvent
  dsimp only [EventLoop.shift]
  rw [lookup_shift]
  cases s.lookup id with
  | none => rfl
  | some player =>
    simp only [Option.map_some]
    rw [show (player.shift k).mode = player.mode from rfl,
      show (player.shift k).playerId = player.playerId from rfl,
      show (player.shift k).driver = player.driver from rfl,
      show (QueuedEvent.shift k event).type = event.type.shift k from rfl,
      show (QueuedEvent.shift k event).playerId = event.playerId from rfl, lockstepTime_shift]
    have hreply : (⟨.modeSet player.mode, player.playerId, s.lockstepTime player + k⟩ : Event) =
        Event.shift k ⟨.modeSet player.mode, player.playerId, s.lockstepTime player⟩ := rfl
    rw [hreply]
    cases event.type with
    | attach =>
      dsimp only [EventType.shift]
      have hslave (s : Pair) : (if player.playerId = 0 then
            (s.shift k).modifyGba player.driver fun g =>
              { g with siocnt := Mgba.multiplayerClearSlave g.siocnt }
          else s.shift k) =
          Pair.shift k (if player.playerId = 0 then
            s.modifyGba player.driver fun g =>
              { g with siocnt := Mgba.multiplayerClearSlave g.siocnt }
          else s) := by
        rw [apply_ite (Pair.shift k), modifyGba_shift]
      rw [setReady_shift, hslave, enqueueEvent_shift]
      rfl
    | hardSync =>
      dsimp only [EventType.shift]
      rw [ackPlayer_shift]
    | transferStart finishCycle =>
      dsimp only [EventType.shift]
      rw [setData_shift, show (s.shift k).ghost = s.ghost from rfl, recordSample_shift,
        lockstepTime_shift, cycleDelta_shift, modifyGba_shift, ackPlayer_shift]
    | modeSet mode =>
      dsimp only [EventType.shift]
      rw [setReady_shift, apply_ite (Pair.shift k), ackPlayer_shift]
    | detach =>
      dsimp only [EventType.shift]
      rw [setReady_shift, setReady_shift, enqueueEvent_shift]
      unfold shiftResult
      dsimp only
      generalize (Pair.enqueueEvent _ _ _).1 = s
      rw [show (s.shift k).coordinator.nAttached = s.coordinator.nAttached from rfl,
        apply_ite (Pair.shift k), modifyGba_shift]

/-- One turn of the queue loop, from the event unlinked to its slot free again. -/
theorem turn_shift (cyclesLate : BitVec 32) (event : QueuedEvent) (l : EventLoop) :
    ({ handleEvent id cyclesLate (event.shift k) (l.shift k) with
        pair := (handleEvent id cyclesLate (event.shift k) (l.shift k)).pair.recycleEvent id
          (event.shift k) } : EventLoop) =
      EventLoop.shift k { handleEvent id cyclesLate event l with
        pair := (handleEvent id cyclesLate event l).pair.recycleEvent id event } := by
  rw [handleEvent_shift]
  generalize handleEvent id cyclesLate event l = l
  rw [show (l.shift k).pair = l.pair.shift k from rfl, recycleEvent_shift]
  rfl

/-- **The same events are processed**, in the same order. -/
theorem eventLoop_shift (cyclesLate : BitVec 32) (fuel : Nat) (l : EventLoop) :
    eventLoop id cyclesLate fuel (l.shift k) = (eventLoop id cyclesLate fuel l).shift k := by
  induction fuel generalizing l with
  | zero => rfl
  | succ fuel ih =>
    unfold eventLoop
    rw [show (l.shift k).pair = l.pair.shift k from rfl, lookup_shift]
    cases l.pair.lookup id with
    | none => rfl
    | some player =>
      simp only [Option.map_some]
      rw [show (player.shift k).queue = player.queue.map (QueuedEvent.shift k) from rfl,
        lockstepTime_shift]
      cases player.queue with
      | nil => rfl
      | cons event rest =>
        simp only [List.map_cons]
        rw [show (QueuedEvent.shift k event).timestamp = event.timestamp + k from rfl,
          cycleDelta_shift]
        split
        · rfl
        · have hrest : (l.pair.shift k).modifyPlayer id (fun p =>
                { p with queue := rest.map (QueuedEvent.shift k) }) =
              (l.pair.modifyPlayer id fun p => { p with queue := rest }).shift k :=
            modifyPlayer_shift_of fun _ => rfl
          rw [hrest, ← ih]
          exact congrArg (eventLoop id cyclesLate fuel) (turn_shift cyclesLate event
            { l with
              pair :=
                { l.pair.modifyPlayer id fun p => { p with queue := rest } with
                  ghost := { (l.pair.modifyPlayer id fun p => { p with queue := rest }).ghost with
                    current := event.serial } } })

theorem ownClock_shift : (s.shift k).ownClock id (player.shift k) =
    (s.ownClock id player).shift k := by
  unfold ownClock
  rw [lockstepTime_shift, show (s.shift k).coordinator.cycle = s.coordinator.cycle + k from rfl,
    cycleDelta_shift, show (player.shift k).playerId = player.playerId from rfl]
  split
  · rw [advanceCycle_shift]
    generalize s.advanceCycle player = s
    dsimp only
    have hwoken : (if (s.shift k).coordinator.transferActive = true then s.shift k
          else (s.shift k).wakePlayers) =
        Pair.shift k (if s.coordinator.transferActive = true then s else s.wakePlayers) := by
      rw [apply_ite (Pair.shift k), wakePlayers_shift]
      rfl
    rw [hwoken]
    generalize (if s.coordinator.transferActive = true then s else s.wakePlayers) = s
    have hsynced : (if (s.shift k).coordinator.waiting = 0 then (s.shift k).hardSync id
          else s.shift k) =
        Pair.shift k (if s.coordinator.waiting = 0 then s.hardSync id else s) := by
      rw [apply_ite (Pair.shift k), hardSync_shift]
      rfl
    rw [hsynced, show (s.shift k).coordinator.syncArmed = s.coordinator.syncArmed from rfl,
      show (s.shift k).coordinator.nextHardSync = s.coordinator.nextHardSync from rfl]
    split
    · exact modifyCoordinator_shift_of fun _ => rfl
    · rfl
  · rfl

omit [Mgba] in
theorem detachPending_shift : detachPending (player.shift k) = detachPending player := by
  unfold detachPending
  rw [show (player.shift k).queue = player.queue.map (QueuedEvent.shift k) from rfl]
  cases player.queue with
  | nil => rfl
  | cons event rest =>
    simp only [List.map_cons]
    rw [show (QueuedEvent.shift k event).type = event.type.shift k from rfl]
    cases event.type <;> rfl

theorem eventTail_shift (l : EventLoop) :
    eventTail id (l.shift k) = (eventTail id l).shift k := by
  unfold eventTail
  rw [show (l.shift k).pair = l.pair.shift k from rfl]
  dsimp only
  rw [lookup_shift]
  cases l.pair.lookup id with
  | none => rfl
  | some player =>
    simp only [Option.map_some]
    rw [show (player.shift k).queue = player.queue.map (QueuedEvent.shift k) from rfl,
      show (player.shift k).playerId = player.playerId from rfl,
      show (player.shift k).driver = player.driver from rfl]
    generalize l.pair = s
    have hdelay (head : QueuedEvent) :
        cycleDelta (head.shift k).timestamp ((s.shift k).lockstepTime (player.shift k)) =
          cycleDelta head.timestamp (s.lockstepTime player) := by
      rw [lockstepTime_shift]
      exact cycleDelta_shift _ _ _
    have hasleep (sleeps : Prop) [Decidable sleeps] :
        (if sleeps then (s.shift k).playerSleep id else s.shift k) =
          Pair.shift k (if sleeps then s.playerSleep id else s) := by
      rw [apply_ite (Pair.shift k), playerSleep_shift]
    cases player.queue with
    | nil =>
      simp only [List.map_nil]
      rw [hasleep, ← modifyGba_shift]
      rfl
    | cons head rest =>
      simp only [List.map_cons, reduceCtorEq]
      rw [hdelay, hasleep, ← modifyGba_shift]
      rfl

theorem lockstepEvent_shift (i : Fin 2) (cyclesLate : BitVec 32) :
    (s.shift k).lockstepEvent i cyclesLate = (s.lockstepEvent i cyclesLate).shift k := by
  unfold lockstepEvent
  rw [drivers_shift]
  dsimp only
  rw [lookup_shift]
  generalize (s.drivers i).lockstepId = id
  cases s.lookup id with
  | none => rfl
  | some player =>
    simp only [Option.map_some]
    rw [show (player.shift k).playerId = player.playerId from rfl, mAssert_shift, ownClock_shift,
      untilNextSync_shift, detachPending_shift]
    generalize Pair.ownClock _ id player = s
    rw [lookup_shift]
    cases s.lookup id with
    | none =>
      simp only [Option.map_none]
      rw [← eventTail_shift, ← eventLoop_shift]
      rfl
    | some player' =>
      simp only [Option.map_some]
      rw [show (player'.shift k).queue.length = player'.queue.length from List.length_map _,
        ← eventTail_shift, ← eventLoop_shift]
      rfl

/-! ## Runs -/

theorem modifyDriver_shift (i : Fin 2) (f : Driver → Driver) :
    (s.shift k).modifyDriver i f = (s.modifyDriver i f).shift k := by
  match i with
  | 0 => rfl
  | 1 => rfl

/-- An action that reads no absolute time: a reset may set the shared cycle to a machine's clock. -/
def Relative : Action → Prop
  | .reset _ => False
  | _ => True

theorem act_shift {a : Action} (ha : Relative a) : (s.shift k).act a = (s.act a).shift k := by
  cases a with
  | run i gba loading =>
    exact modifyDriver_shift i fun d => { d with gba, loadingMachineState := loading }
  | setMode i mode => exact setMode_shift i mode
  | start i => exact congrArg Prod.fst (start_shift i)
  | finishMultiplayer i data => exact congrArg Prod.fst (finishMultiplayer_shift i data)
  | finishNormal8 i => exact congrArg Prod.fst (finishNormal_shift i .normal8)
  | finishNormal32 i => exact congrArg Prod.fst (finishNormal_shift i .normal32)
  | lockstepEvent i cyclesLate => exact lockstepEvent_shift i cyclesLate
  | reset i => exact ha.elim

/-- **A run does not see where its clock started**, as long as no machine is reset. -/
theorem acts_shift {as : List Action} (has : ∀ a ∈ as, Relative a) :
    (s.shift k).acts as = (s.acts as).shift k := by
  induction as generalizing s with
  | nil => rfl
  | cons a as ih =>
    have hrest := ih (s := s.act a) fun b hb => has b (List.mem_cons_of_mem _ hb)
    rw [← act_shift (has a List.mem_cons_self)] at hrest
    exact hrest

end Pair

/-! ## No overflow -/

/-- `_advanceCycle`: the clock differences, and the elapsed time negated. -/
def Pair.advanceCycleChecked (s : Pair) (player : Player) : Option Pair := do
  let newCycle ← cycleDeltaChecked (s.drivers player.driver).gba.now player.cycleOffset
  let elapsed ← cycleDeltaChecked newCycle s.coordinator.cycle
  if elapsed.toInt < 0 then some s
  else do
    let back ← int32 (-elapsed.toInt)
    let nextHardSync ← delayAddSaturatedChecked s.coordinator.nextHardSync back
    some (s.modifyCoordinator fun c => { c with nextHardSync, cycle := newCycle })

theorem Pair.advanceCycleChecked_eq (s : Pair) (player : Player) :
    s.advanceCycleChecked player = some (s.advanceCycle player) := by
  unfold advanceCycleChecked advanceCycle lockstepTime modifyCoordinator
  simp only [cycleDeltaChecked_eq, Option.bind_eq_bind, Option.bind_some]
  generalize cycleDelta (s.drivers player.driver).gba.now player.cycleOffset = newCycle
  generalize cycleDelta newCycle s.coordinator.cycle = elapsed
  by_cases h : elapsed.toInt < 0
  · rw [if_pos h, if_pos h]
  · rw [if_neg h, if_neg h, int32_neg (Int.not_lt.mp h), Option.bind_some,
      delayAddSaturatedChecked_eq, Option.bind_some]

/-- **The clock has no origin.** Whatever the state and whatever `k`, the scheduler's functions
commute with the shift: an event goes to the same place of the queue, the queue loop processes the
same events, the machines are scheduled, put to sleep and woken alike. None of the functions
computes a signed value outside its type. -/
theorem wrap_invariance (k : Cycle) :
    ((∀ (s : Pair) (i : Fin 2) (mode : Mode),
        (s.shift k).setMode i mode = (s.setMode i mode).shift k) ∧
      (∀ (s : Pair) (i : Fin 2), (s.shift k).start i = ((s.start i).1.shift k, (s.start i).2)) ∧
      (∀ (s : Pair) (id : Nat), (s.shift k).hardSync id = (s.hardSync id).shift k) ∧
      (∀ (s : Pair) (event : Event) (targets : BitVec 32),
        (s.shift k).enqueueEvent (event.shift k) targets =
          ((s.enqueueEvent event targets).1.shift k, (s.enqueueEvent event targets).2)) ∧
      (∀ (s : Pair) (i : Fin 2) (cyclesLate : BitVec 32),
        (s.shift k).lockstepEvent i cyclesLate = (s.lockstepEvent i cyclesLate).shift k) ∧
      (∀ (s : Pair) (id : Nat), (s.shift k).waitOnPlayers id = (s.waitOnPlayers id).shift k) ∧
      ∀ (s : Pair) (id : Nat),
        (s.shift k).rescheduleForQueueHead id = (s.rescheduleForQueueHead id).shift k) ∧
    ((∀ event next : QueuedEvent, Pair.precedes (event.shift k) (next.shift k) =
        Pair.precedes event next) ∧
      ∀ (id : Nat) (cyclesLate : BitVec 32) (fuel : Nat) (l : Pair.EventLoop),
        Pair.eventLoop id cyclesLate fuel (l.shift k) =
          (Pair.eventLoop id cyclesLate fuel l).shift k) ∧
    (∀ value : BitVec 32, cycleFromBitsChecked value = some (cycleFromBits value)) ∧
    (∀ delay adjustment : Cycle,
      delayAddSaturatedChecked delay adjustment = some (delayAddSaturated delay adjustment)) ∧
    (∀ (delay : Cycle) (cyclesLate : BitVec 32),
      delayAfterLatenessChecked delay cyclesLate = some (delayAfterLateness delay cyclesLate)) ∧
    (∀ (s : Pair) (player : Player),
      s.advanceCycleChecked player = some (s.advanceCycle player)) ∧
    (∀ p : Fin maxGbas, shiftOneChecked p = some (target p)) ∧
    ∀ n : Fin (maxGbas + 1), allBelowChecked n = some ((1#32 <<< n.val) - 1) ∧
      othersChecked n = some (BitVec.ofInt 32 (n.val - 1)) :=
  ⟨⟨fun _ => Pair.setMode_shift, fun _ => Pair.start_shift, fun _ _ => Pair.hardSync_shift,
      fun _ => Pair.enqueueEvent_shift, fun _ => Pair.lockstepEvent_shift,
      fun _ _ => Pair.waitOnPlayers_shift, fun _ _ => Pair.rescheduleForQueueHead_shift⟩,
    ⟨Pair.precedes_shift, fun _ => Pair.eventLoop_shift⟩,
    cycleFromBitsChecked_eq, delayAddSaturatedChecked_eq, delayAfterLatenessChecked_eq,
    Pair.advanceCycleChecked_eq, shiftOneChecked_eq,
    fun n => ⟨allBelowChecked_eq n, othersChecked_eq n⟩⟩

end DualBoy.Lockstep
