import DualBoy.Lockstep.Buffer
import DualBoy.Lockstep.LinkAtomic
import DualBoy.Lockstep.LinkCodec
import DualBoy.Lockstep.Shaped

/-!
# Saved links resume

Link states over whole sessions: the players are attached, the cores run, and whenever the frontend
asks, `mgba_serialize_link` writes the link and `mgba_unserialize_link` reads it, be it that of the same
session or of another. `Resumable` is the invariant of a session; what it asks of the queues, the
barrier and the coordinator's arrays is what the saver stores and `ValidateState` insists on.

* `driverLoadState_toPair1`, `driverLoadState_toPair0`: what a load makes of an attached pair.
* `continues_resumed`: the loaded player is the saved one, but for the slots its events are in.
* `unserializeLink_linkBytes`: the reader finds the two blobs the writer put into the string.
* **`saved_link_resumes`**, **`no_deadlock_across_loads`**.
-/

namespace DualBoy.Lockstep

open DualBoy.Lib

variable [MgbaTimer]

namespace Duo

/-! ## Loading an attached pair -/

/-- What `lockstep_sleep` and `lockstep_wake` leave of `blocked` when a player is put to sleep or
woken. -/
def blockedBy (before after blocked : Bool) : Bool :=
  if after ∧ ¬before then true else if ¬after ∧ before then false else blocked

/-- A player with everything its saved state has. -/
def resumed (data : List Byte) (p : Player) : Player :=
  Pair.loadedSlots data { Pair.loadedModes data p with
    asleep := decide (SerializedFlags.asleep.get (load32 data 4) ≠ 0) }

/-- Player 1 once its driver has loaded a state. -/
def loaded1 (d : Duo) (data : List Byte) (gba : Gba) : Duo :=
  { d with
    coordinator := { d.coordinator with
      maxQueueDepth := max d.coordinator.maxQueueDepth (Pair.loadedCount data) }
    p1 := (resumed data d.player1).toPlayerState
    d1 := { d.d1 with
      gba
      blocked := blockedBy d.p1.asleep (resumed data d.player1).asleep d.d1.blocked } }

/-- Player 0 and the coordinator once player 0's driver has loaded a state. -/
def loaded0 (d : Duo) (data : List Byte) (gba : Gba) : Duo :=
  { d with
    coordinator := Pair.loadedCoordinator data { d.coordinator with
      maxQueueDepth := max d.coordinator.maxQueueDepth (Pair.loadedCount data) }
    p0 := (resumed data d.player0).toPlayerState
    d0 := { d.d0 with
      gba
      blocked := blockedBy d.p0.asleep (resumed data d.player0).asleep d.d0.blocked } }

theorem loadSleep_toPair1 (d : Duo) (after : Bool) {player : Player} (hdriver : player.driver = 1) :
    d.toPair.loadSleep 2 player after =
      { d with
        p1 := { d.p1 with asleep := after }
        d1 := { d.d1 with blocked := blockedBy player.asleep after d.d1.blocked } }.toPair := by
  unfold Pair.loadSleep blockedBy
  rw [hdriver]
  cases after <;> cases player.asleep <;> rfl

theorem loadSleep_toPair0 (d : Duo) (after : Bool) {player : Player} (hdriver : player.driver = 0) :
    d.toPair.loadSleep 1 player after =
      { d with
        p0 := { d.p0 with asleep := after }
        d0 := { d.d0 with blocked := blockedBy player.asleep after d.d0.blocked } }.toPair := by
  unfold Pair.loadSleep blockedBy
  rw [hdriver]
  cases after <;> cases player.asleep <;> rfl

/-- The driver's event is scheduled again, or not. -/
theorem rescheduled_toPair1 (d : Duo) (data : List Byte) :
    ∃ gba, (if SerializedFlags.eventScheduled.get (load32 data 4) ≠ 0 then
        (d.toPair.modifyGba 1 fun g => g.deschedule .lockstep).modifyGba 1 fun g =>
          g.schedule .lockstep (sanitizeDelay (load32 data 0x10))
      else d.toPair.modifyGba 1 fun g => g.deschedule .lockstep) =
        { d with d1 := { d.d1 with gba } }.toPair := by
  split
  · exact ⟨(d.d1.gba.deschedule .lockstep).schedule .lockstep (sanitizeDelay (load32 data 0x10)), rfl⟩
  · exact ⟨d.d1.gba.deschedule .lockstep, rfl⟩

theorem rescheduled_toPair0 (d : Duo) (data : List Byte) :
    ∃ gba, (if SerializedFlags.eventScheduled.get (load32 data 4) ≠ 0 then
        (d.toPair.modifyGba 0 fun g => g.deschedule .lockstep).modifyGba 0 fun g =>
          g.schedule .lockstep (sanitizeDelay (load32 data 0x10))
      else d.toPair.modifyGba 0 fun g => g.deschedule .lockstep) =
        { d with d0 := { d.d0 with gba } }.toPair := by
  split
  · exact ⟨(d.d0.gba.deschedule .lockstep).schedule .lockstep (sanitizeDelay (load32 data 0x10)), rfl⟩
  · exact ⟨d.d0.gba.deschedule .lockstep, rfl⟩

/-- **A state player 1's driver takes** leaves an attached pair. -/
theorem driverLoadState_toPair1 (d : Duo) {data : List Byte}
    (hvalid : d.toPair.validateState 1 true data = true) :
    ∃ gba, d.toPair.driverLoadState 1 true data = ((d.loaded1 data gba).toPair, true) := by
  have hloads := Pair.driverLoadState_of_valid hvalid
  unfold Pair.driverLoadState at hloads ⊢
  rw [hvalid, if_neg (by decide)] at hloads ⊢
  split at hloads
  · cases hloads
  rename_i hversion
  rw [if_neg hversion]
  have hlookup : d.toPair.lookup (d.toPair.drivers 1).lockstepId = some d.player1 := rfl
  dsimp only at hloads ⊢
  rw [hlookup] at hloads ⊢
  dsimp only at hloads ⊢
  split at hloads
  · cases hloads
  rename_i hid
  rw [if_neg hid]
  have hmodes : d.toPair.modifyPlayer (d.toPair.drivers 1).lockstepId (Pair.loadedModes data) =
      { d with p1 := (Pair.loadedModes data d.player1).toPlayerState }.toPair := rfl
  rw [hmodes]
  obtain ⟨gba, hgba⟩ := rescheduled_toPair1 { d with
    p1 := (Pair.loadedModes data d.player1).toPlayerState } data
  rw [hgba, show (d.toPair.drivers 1).lockstepId = 2 from rfl,
    loadSleep_toPair1 _ _ (show d.player1.driver = 1 from rfl)]
  let e : Duo := { d with
    coordinator := { d.coordinator with
      maxQueueDepth := max d.coordinator.maxQueueDepth (Pair.loadedCount data) }
    p1 := (resumed data d.player1).toPlayerState
    d1 := { d.d1 with
      gba
      blocked := blockedBy d.p1.asleep (resumed data d.player1).asleep d.d1.blocked } }
  have hreschedule := reschedule_toPair1 e
  refine ⟨e.reschedule1.d1.gba.interrupt, ?_⟩
  change ((Pair.rescheduleForQueueHead e.toPair 2).modifyGba 1 Gba.interrupt, true) = _
  rw [hreschedule]
  rfl

/-- **A state player 0's driver takes** leaves an attached pair. -/
theorem driverLoadState_toPair0 (d : Duo) {data : List Byte}
    (hvalid : d.toPair.validateState 0 true data = true) :
    ∃ gba, d.toPair.driverLoadState 0 true data = ((d.loaded0 data gba).toPair, true) := by
  have hloads := Pair.driverLoadState_of_valid hvalid
  unfold Pair.driverLoadState at hloads ⊢
  rw [hvalid, if_neg (by decide)] at hloads ⊢
  split at hloads
  · cases hloads
  rename_i hversion
  rw [if_neg hversion]
  have hlookup : d.toPair.lookup (d.toPair.drivers 0).lockstepId = some d.player0 := rfl
  dsimp only at hloads ⊢
  rw [hlookup] at hloads ⊢
  dsimp only at hloads ⊢
  split at hloads
  · cases hloads
  rename_i hid
  rw [if_neg hid]
  have hmodes : d.toPair.modifyPlayer (d.toPair.drivers 0).lockstepId (Pair.loadedModes data) =
      { d with p0 := (Pair.loadedModes data d.player0).toPlayerState }.toPair := rfl
  rw [hmodes]
  obtain ⟨gba, hgba⟩ := rescheduled_toPair0 { d with
    p0 := (Pair.loadedModes data d.player0).toPlayerState } data
  rw [hgba, show (d.toPair.drivers 0).lockstepId = 1 from rfl,
    loadSleep_toPair0 _ _ (show d.player0.driver = 0 from rfl)]
  let e : Duo := { d with
    coordinator := { d.coordinator with
      maxQueueDepth := max d.coordinator.maxQueueDepth (Pair.loadedCount data) }
    p0 := (resumed data d.player0).toPlayerState
    d0 := { d.d0 with
      gba
      blocked := blockedBy d.p0.asleep (resumed data d.player0).asleep d.d0.blocked } }
  have hreschedule := reschedule_toPair0 e
  refine ⟨e.reschedule0.d0.gba.interrupt, ?_⟩
  rw [if_pos (show d.player0.playerId = 0 from rfl)]
  change (((Pair.rescheduleForQueueHead e.toPair 1).modifyCoordinator fun c => { c with
    toCoordinatorState := Pair.loadedCoordinator data c.toCoordinatorState }).modifyGba 0
      Gba.interrupt, true) = _
  rw [hreschedule]
  rfl

/-! ## What an attached pair saves -/

omit [MgbaTimer] in
theorem eventSound_of_announced {event : Event} (h : announced event) : Pair.EventSound 2 event := by
  unfold announced at h
  unfold Pair.EventSound
  split at h
  · rename_i htype
    rw [htype]
    exact ⟨by omega, by omega⟩
  · rename_i mode htype
    rw [htype]
    exact ⟨by omega, by omega⟩
  · cases h

omit [MgbaTimer] in
theorem eventSound_of_named {event : Event} (h : event.playerId = 0) : Pair.EventSound 2 event := by
  unfold Pair.EventSound
  split
  · exact h
  · exact h
  · exact ⟨by omega, by omega⟩

variable {d : Duo}

/-- **Player 1's state is accepted** by any attached pair. -/
theorem validateState_saved1 (h : d.Shaped) (e : Duo) :
    e.toPair.validateState 1 true (d.toPair.savedState 1 d.player1) = true :=
  Pair.validateState_savedState (p := e.player1) rfl rfl (Nat.succ_ne_zero 1) (by simp)
    (by simp [maxGbas]) (by simp [player1])
    (fun event hevent => eventSound_of_named (h.named1 event hevent))
    fun hzero => absurd hzero Int.one_ne_zero

/-- **Player 0's state is accepted** by any attached pair. -/
theorem validateState_saved0 (h : d.Scheduled) (e : Duo) :
    e.toPair.validateState 0 true (d.toPair.savedState 0 d.player0) = true := by
  refine Pair.validateState_savedState (p := e.player0) rfl rfl (Nat.succ_ne_zero 0) (by simp)
    (by simp [maxGbas]) (by simp [player0])
    (fun event hevent => eventSound_of_announced (h.announced0 event hevent)) fun _ => ?_
  change d.coordinator.waiting &&& ~~~((1#32 <<< 2) - 1) = 0#32 ∧
    d.coordinator.waiting &&& 1#32 = 0#32
  rcases h.bit with hbit | hbit
  · rw [hbit]
    decide
  · rw [hbit]
    decide

/-! ## What is resumed -/

/-- The second player has the modes, the clock, the sleep and the queued events of the first. The
slots of its buffer may be others. -/
structure Continues (p q : PlayerState) : Prop where
  mode : q.mode = p.mode
  otherModes : ∀ k < 4, q.otherModes.getD k .none = p.otherModes.getD k .none
  asleep : q.asleep = p.asleep
  cycleOffset : q.cycleOffset = p.cycleOffset
  dataReceived : q.dataReceived = p.dataReceived
  queue : q.queue.map QueuedEvent.toEvent = p.queue.map QueuedEvent.toEvent
  queueDepth : q.queueDepth = p.queue.length

/-- **A player goes on from its saved state.** -/
theorem continues_resumed {s : Pair} {i : Fin 2} (player p : Player)
    (hlength : player.queue.length ≤ maxLockstepEvents)
    (hsound : ∀ event ∈ player.queue, Pair.EventSound 2 event.toEvent) :
    Continues player.toPlayerState (resumed (s.savedState i player) p).toPlayerState := by
  have htake : player.queue.take maxLockstepEvents = player.queue := List.take_of_length_le hlength
  have hcount : Pair.loadedCount (s.savedState i player) = player.queue.length := by
    rw [Pair.loadedCount_savedState, htake]
  have hqueue := Pair.loadedQueue_savedState (s := s) (i := i) (n := 2) (by decide) hsound
  rw [htake] at hqueue
  have hmode {f : BitField} {mode : Mode}
      (h : (f, modeEnumToInt mode) ∈ s.playerFlags i player) :
      modeIntToEnum (f.get (load32 (s.savedState i player) 4)) = mode := by
    rw [Pair.get_player h, modeIntToEnum_modeEnumToInt]
  have hflag {f : BitField} {flag : Bool} (h : (f, bit flag) ∈ s.playerFlags i player) :
      decide (f.get (load32 (s.savedState i player) 4) ≠ 0) = flag := by
    rw [Pair.get_player h, bit_ne_zero]
  refine ⟨hmode Pair.mem_driverMode, fun k hk => ?_, hflag (by simp [Pair.playerFlags]),
    Pair.load32_header (by simp [Pair.headerFields]), hflag (by simp [Pair.playerFlags]), hqueue,
    hcount⟩
  have hplayer : k = 0 ∨ k = 1 ∨ k = 2 ∨ k = 3 := by omega
  rcases hplayer with rfl | rfl | rfl | rfl
  · exact hmode (Pair.mem_otherMode SerializedFlags.player0Mode 0 (by simp))
  · exact hmode (Pair.mem_otherMode SerializedFlags.player1Mode 1 (by simp))
  · exact hmode (Pair.mem_otherMode SerializedFlags.player2Mode 2 (by simp))
  · exact hmode (Pair.mem_otherMode SerializedFlags.player3Mode 3 (by simp))

omit [MgbaTimer] in
/-- What holds of the events of a queue holds of those of a queue with the same events. -/
theorem forall_queue {events events' : List QueuedEvent} {P : Event → Prop}
    (h : events'.map QueuedEvent.toEvent = events.map QueuedEvent.toEvent)
    (hp : ∀ event ∈ events, P event.toEvent) : ∀ event ∈ events', P event.toEvent := by
  intro event hevent
  have hmem := List.mem_map_of_mem (f := QueuedEvent.toEvent) hevent
  rw [h] at hmem
  obtain ⟨saved, hsaved, heq⟩ := List.mem_map.mp hmem
  exact heq ▸ hp saved hsaved

omit [MgbaTimer] in
theorem queue_ne_nil {events events' : List QueuedEvent}
    (h : events'.map QueuedEvent.toEvent = events.map QueuedEvent.toEvent) (hne : events ≠ []) :
    events' ≠ [] := by
  rintro rfl
  exact hne (List.map_eq_nil_iff.mp h.symm)

omit [MgbaTimer] in
/-- Sleeping and waking keep `blocked` what it was: whether the player is asleep. -/
theorem blockedBy_self (before after : Bool) : blockedBy before after before = after := by
  cases before <;> cases after <;> rfl

/-- What a saved pair asks of its queues: they fit the buffers. -/
structure Fitting (d : Duo) : Prop where
  length0 : d.p0.queue.length ≤ maxLockstepEvents
  length1 : d.p1.queue.length ≤ maxLockstepEvents

/-- Pair `e` once it has loaded what pair `d` saved; `gba0` and `gba1` are what rescheduling the
events makes of its machines. -/
def resumedFrom (d e : Duo) (gba0 gba1 : Gba) : Duo :=
  (e.loaded1 (d.toPair.savedState 1 d.player1) gba1).loaded0 (d.toPair.savedState 0 d.player0) gba0

section

variable {e : Duo} {gba0 gba1 : Gba}

theorem continues_resumedFrom0 (h : d.Scheduled) (hfit : d.Fitting) (e : Duo) (gba0 gba1 : Gba) :
    Continues d.p0 (d.resumedFrom e gba0 gba1).p0 :=
  continues_resumed d.player0 e.player0 hfit.length0 fun event hevent =>
    eventSound_of_announced (h.announced0 event hevent)

theorem continues_resumedFrom1 (h : d.Shaped) (hfit : d.Fitting) (e : Duo) (gba0 gba1 : Gba) :
    Continues d.p1 (d.resumedFrom e gba0 gba1).p1 :=
  continues_resumed d.player1 e.player1 hfit.length1 fun event hevent =>
    eventSound_of_named (h.named1 event hevent)

theorem coordinator_resumedFrom (h : d.Shaped) (e : Duo) (gba0 gba1 : Gba) :
    ∃ c : CoordinatorState, (d.resumedFrom e gba0 gba1).coordinator =
      { c with
        cycle := d.coordinator.cycle
        waiting := d.coordinator.waiting
        nextHardSync := d.coordinator.nextHardSync
        multiData := d.coordinator.multiData
        normalData := d.coordinator.normalData
        transferMode := d.coordinator.transferMode
        transferActive := d.coordinator.transferActive
        syncArmed := d.coordinator.syncArmed } :=
  ⟨_, @Pair.loadedCoordinator_savedState _ d.toPair 0 d.player0 _ rfl h.multi h.normal⟩

/-- **The scheduler is in order again.** -/
theorem Scheduled.resumedFrom (h : d.Scheduled) (hd : d.Shaped) (hfit : d.Fitting)
    (he : e.Scheduled) : (d.resumedFrom e gba0 gba1).Scheduled := by
  have h0 := continues_resumedFrom0 h hfit e gba0 gba1
  have h1 := continues_resumedFrom1 hd hfit e gba0 gba1
  obtain ⟨c, hc⟩ := coordinator_resumedFrom hd e gba0 gba1
  have hwaiting : (d.resumedFrom e gba0 gba1).coordinator.waiting = d.coordinator.waiting := by
    rw [hc]
  have hactive : (d.resumedFrom e gba0 gba1).coordinator.transferActive =
      d.coordinator.transferActive := by
    rw [hc]
  refine ⟨⟨?_, ?_, ?_, ?_, ?_, ?_, ?_, he.asserts⟩, ?_, ?_⟩
  · rw [hwaiting]
    exact h.bit
  · rw [hwaiting, h0.asleep]
    exact h.asleep0
  · rw [hwaiting, h1.asleep]
    exact h.awake1
  · change blockedBy e.p0.asleep (d.resumedFrom e gba0 gba1).p0.asleep e.d0.blocked = _
    rw [he.blocked0, blockedBy_self]
  · change blockedBy e.p1.asleep (d.resumedFrom e gba0 gba1).p1.asleep e.d1.blocked = _
    rw [he.blocked1, blockedBy_self]
  · exact forall_queue h1.queue h.acknowledged1
  · exact forall_queue h0.queue h.announced0
  · rw [hwaiting]
    exact fun hne => queue_ne_nil h1.queue (h.pending hne)
  · rw [hwaiting, hactive]
    exact h.active

theorem Shaped.resumedFrom (h : d.Shaped) (hfit : d.Fitting) :
    (d.resumedFrom e gba0 gba1).Shaped := by
  have h1 := continues_resumedFrom1 h hfit e gba0 gba1
  obtain ⟨c, hc⟩ := coordinator_resumedFrom h e gba0 gba1
  refine ⟨forall_queue (P := fun event => event.playerId = 0) h1.queue h.named1, ?_, ?_⟩
  · rw [hc]
    exact h.multi
  · rw [hc]
    exact h.normal

end

end Duo

/-! ## The link's string -/

namespace MgbaPair

section

variable {state0 state1 : List Byte}

omit [MgbaTimer] in
theorem spaced_linkFields (enabled : Bool) (state0 state1 : List Byte) :
    Spaced 0 (linkStateHeaderSize + state0.length + state1.length)
      (linkFields enabled state0 state1) := by
  simp [linkFields, Spaced, linkStateHeaderSize]

omit [MgbaTimer] in
/-- A field of the string is found at its offset. -/
theorem fieldAt_linkBytes {enabled : Bool} {offset : Nat} {data : List Byte}
    (h : (offset, data) ∈ linkFields enabled state0 state1) :
    fieldAt (linkBytes enabled state0 state1) offset data.length = data :=
  fieldAt_writeFields_of_mem (spaced_linkFields enabled state0 state1) (by simp) h

omit [MgbaTimer] in
theorem load32_linkBytes {enabled : Bool} {offset : Nat} {value : BitVec 32}
    (h : (offset, store32 value) ∈ linkFields enabled state0 state1) :
    load32 (linkBytes enabled state0 state1) offset = value :=
  load32_of_fieldAt (fieldAt_linkBytes h)

omit [MgbaTimer] in
theorem load16_linkBytes {enabled : Bool} {offset : Nat} {value : BitVec 16}
    (h : (offset, store16 value) ∈ linkFields enabled state0 state1) :
    load16 (linkBytes enabled state0 state1) offset = value :=
  load16_of_fieldAt (fieldAt_linkBytes h)

omit [MgbaTimer] in
@[simp] theorem length_linkBytes (enabled : Bool) (state0 state1 : List Byte) :
    (linkBytes enabled state0 state1).length =
      linkStateHeaderSize + state0.length + state1.length := by
  unfold linkBytes
  rw [length_writeFields (spaced_linkFields enabled state0 state1) (by simp), List.length_replicate]

omit [MgbaTimer] in
/-- The header's last two words are zero. -/
theorem load32_reserved (enabled : Bool) {offset : Nat} (h : offset = 24 ∨ offset = 28) :
    load32 (linkBytes enabled state0 state1) offset = 0 := by
  refine load32_of_fieldAt ?_
  unfold linkBytes
  rw [fieldAt_writeFields_of_outside (spaced_linkFields enabled state0 state1) (by simp)]
  · have hroom : 4 ≤ linkStateHeaderSize + state0.length + state1.length - offset := by
      unfold linkStateHeaderSize
      omega
    unfold fieldAt
    rw [List.drop_replicate, List.take_replicate, Nat.min_eq_left hroom]
    rfl
  · simp only [linkFields, List.forall_mem_cons, List.not_mem_nil, false_implies, implies_true,
      and_true, Outside, length_store16, length_store32, List.length_cons, List.length_nil,
      linkStateHeaderSize]
    omega

omit [MgbaTimer] in
/-- **The header is the one the reader takes.** -/
theorem linkHeaderValid_linkBytes (enabled : Bool) (state0 state1 : List Byte) :
    linkHeaderValid (linkBytes enabled state0 state1) = true := by
  have hmagic : fieldAt (linkBytes enabled state0 state1) 0 4 = [0x44, 0x42, 0x47, 0x4c] :=
    fieldAt_linkBytes (show (0, [(0x44 : Byte), 0x42, 0x47, 0x4c]) ∈ _ by simp [linkFields])
  have hbyte (k : Nat) (hk : k < 4) : (linkBytes enabled state0 state1).getD k 0 =
      [(0x44 : Byte), 0x42, 0x47, 0x4c].getD k 0 := by
    have hslice := getD_slice (linkBytes enabled state0 state1) 0 hk
    rw [Nat.zero_add] at hslice
    rw [← hslice]
    exact congrArg (fun bytes : List Byte => bytes.getD k 0) hmagic
  have hversion : load16 (linkBytes enabled state0 state1) 4 = linkStateVersion :=
    load16_linkBytes (by simp [linkFields])
  have hsize : load16 (linkBytes enabled state0 state1) 6 = BitVec.ofNat 16 linkStateHeaderSize :=
    load16_linkBytes (by simp [linkFields])
  unfold linkHeaderValid
  rw [hbyte 0 (by omega), hbyte 1 (by omega), hbyte 2 (by omega), hbyte 3 (by omega), hversion, hsize,
    load32_reserved enabled (Or.inl rfl), load32_reserved enabled (Or.inr rfl), length_linkBytes]
  simp [Nat.add_assoc]

/-- **The string of two states is read as these two.** -/
theorem unserializeLink_linkBytes {p : MgbaPair} (henabled : p.linkEnabled = true)
    (hinitialized : p.coordinatorInitialized = true)
    (hvalid0 : p.lockstepPayloadValid state0 0 = true)
    (hvalid1 : p.lockstepPayloadValid state1 1 = true) :
    p.unserializeLink (linkBytes true state0 state1) = p.loadBoth state0 state1 := by
  have hlength0 : state0.length = driverStateSize := by
    unfold lockstepPayloadValid at hvalid0
    simpa using (Bool.and_eq_true_iff.mp hvalid0).1
  have hlength1 : state1.length = driverStateSize := by
    unfold lockstepPayloadValid at hvalid1
    simpa using (Bool.and_eq_true_iff.mp hvalid1).1
  have hflags : load32 (linkBytes true state0 state1) 8 = linkStateFlagEnabled :=
    load32_linkBytes (by simp [linkFields])
  have hcount : load32 (linkBytes true state0 state1) 12 = 2 :=
    load32_linkBytes (by simp [linkFields])
  have hsize0 : load32 (linkBytes true state0 state1) 16 = BitVec.ofNat 32 driverStateSize :=
    load32_linkBytes (by simp [linkFields, hlength0])
  have hsize1 : load32 (linkBytes true state0 state1) 20 = BitVec.ofNat 32 driverStateSize :=
    load32_linkBytes (by simp [linkFields, hlength1])
  have hstate0 : fieldAt (linkBytes true state0 state1) linkStateHeaderSize driverStateSize = state0 :=
    hlength0 ▸ fieldAt_linkBytes (by simp [linkFields])
  have hstate1 : fieldAt (linkBytes true state0 state1) (linkStateHeaderSize + driverStateSize)
      driverStateSize = state1 := by
    have hfield : fieldAt (linkBytes true state0 state1) (linkStateHeaderSize + state0.length)
        state1.length = state1 := fieldAt_linkBytes (by simp [linkFields])
    rwa [hlength0, hlength1] at hfield
  have hnat : (BitVec.ofNat 32 driverStateSize).toNat = driverStateSize := by decide
  unfold unserializeLink
  rw [linkHeaderValid_linkBytes, if_neg (by decide)]
  dsimp only
  rw [hflags, if_neg (by decide), if_neg (by decide), hcount, hsize0, hsize1, hnat, henabled,
    hinitialized, length_linkBytes, hlength0, hlength1, if_neg (by simp), hstate0, hstate1,
    hvalid0, hvalid1, if_neg (by simp)]

end

/-! ## Sessions -/

/-- A pair whose link is enabled. -/
def linked (s : Pair) : MgbaPair where
  lockstep := s
  coordinatorInitialized := true
  linkEnabled := true
  attached := fun _ => true

/-- The pairs of a session: both players are attached, the cores run and call back, and now and then
the link of this session or of another is saved and loaded. -/
inductive Session : Pair → Prop
  | attach (gba0 gba1 : Gba) : Session (attachLink gba0 gba1)
  | act {s : Pair} (h : Session s) (a : Action) : Session (s.act a)
  | load {s t : Pair} (hs : Session s) (ht : Session t) {capacity : Nat} {calloc : Fin 2 → Bool}
      {data : List Byte} (hsave : (linked t).serializeLink capacity calloc = some data) :
      Session ((linked s).unserializeLink data).1.lockstep

/-- What every pair of a session is: attached, its scheduler in order, and its buffers accounted
for. -/
structure Resumable (s : Pair) (d : Duo) : Prop where
  toPair : s = d.toPair
  scheduled : d.Scheduled
  shaped : d.Shaped
  slots : Pair.SlotsInv (s, none)

theorem Resumable.fitting {s : Pair} {d : Duo} (h : Resumable s d) : d.Fitting := by
  have hlength {player : Player} (haccounted : Pair.Accounted [] player.slots) :
      player.queue.length ≤ maxLockstepEvents := by
    have hperm := haccounted.slots.length_eq
    rw [List.length_append, List.length_finRange, List.nil_append] at hperm
    have hqueue : player.slots.queue.length = player.queue.length := rfl
    simp only [List.length_map] at hperm
    omega
  have hslots := h.slots
  rw [h.toPair] at hslots
  exact ⟨hlength (hslots.accounted 1 d.player0 rfl), hlength (hslots.accounted 2 d.player1 rfl)⟩

theorem slotsInv_of_connects {s s' : Pair} (h : Pair.SlotsInv (s, none))
    (hpath : Connects Pair.SlotStep (s, none) (s', none)) : Pair.SlotsInv (s', none) := by
  obtain ⟨labels, hpath⟩ := hpath
  exact hpath.invariant (fun _ _ _ hstep hinv => Pair.SlotsInv.step hinv hstep) h

theorem exists_resumable_attachLink (gba0 gba1 : Gba) :
    ∃ d, Resumable (attachLink gba0 gba1) d := by
  obtain ⟨d, heq, hscheduled, hshaped⟩ := Duo.exists_shaped_attachLink gba0 gba1
  have hjoined0 := slotsInv_of_connects (Pair.slotsInv_linkCreate gba0 gba1)
    (Pair.connects_linkStep (Pair.slotsInv_linkCreate gba0 gba1).roster (.reset 0 true))
  have hjoined1 := slotsInv_of_connects hjoined0
    (Pair.connects_linkStep hjoined0.roster (.reset 1 true))
  exact ⟨d, heq, hscheduled, hshaped, hjoined1⟩

theorem Resumable.act {s : Pair} {d : Duo} (h : Resumable s d) (a : Action) :
    ∃ d', Resumable (s.act a) d' := by
  have hslots := slotsInv_of_connects h.slots (Pair.connects_act s a)
  obtain rfl := h.toPair
  obtain ⟨d', hstep, heq⟩ := d.act_toPair h.scheduled.announced0 h.scheduled.acknowledged1 a
  exact ⟨d', heq, h.scheduled.step hstep, h.shaped.step hstep, hslots⟩

/-! ### Saving and loading -/

/-- What an attached pair saves. -/
theorem serializeLink_toPair {d : Duo} {capacity : Nat} {calloc : Fin 2 → Bool} {data : List Byte}
    (h : (linked d.toPair).serializeLink capacity calloc = some data) :
    data = linkBytes true (d.toPair.savedState 0 d.player0) (d.toPair.savedState 1 d.player1) := by
  have hstate {i : Fin 2} (player : Player) {state : List Byte}
      (hlookup : d.toPair.lookup (d.toPair.drivers i).lockstepId = some player)
      (hs : d.toPair.driverSaveState i (calloc i) = some state) :
      state = d.toPair.savedState i player := by
    unfold Pair.driverSaveState at hs
    split at hs
    · rw [hlookup] at hs
      exact (Option.some.inj hs).symm
    · cases hs
  unfold serializeLink at h
  split at h
  · cases h
  rw [if_pos (show (linked d.toPair).linkEnabled = true from rfl),
    if_neg (show ¬¬(linked d.toPair).coordinatorInitialized = true from not_not_intro rfl)] at h
  split at h
  · rename_i state0 state1 h0 h1
    split at h
    · cases h
    split at h
    · cases h
    obtain rfl := hstate d.player0 rfl h0
    obtain rfl := hstate d.player1 rfl h1
    exact (Option.some.inj h).symm
  · cases h

/-- **An attached pair can be saved**: into `MGBA_LINK_STATE_CAPACITY` bytes, when both blobs are
allocated. -/
theorem exists_serializeLink_toPair (d : Duo) {capacity : Nat} (calloc : Fin 2 → Bool)
    (hcapacity : linkStateCapacity ≤ capacity) (hcalloc : ∀ i, calloc i = true) :
    ∃ data, (linked d.toPair).serializeLink capacity calloc = some data := by
  have h0 : d.toPair.driverSaveState 0 (calloc 0) = some (d.toPair.savedState 0 d.player0) := by
    rw [hcalloc]
    rfl
  have h1 : d.toPair.driverSaveState 1 (calloc 1) = some (d.toPair.savedState 1 d.player1) := by
    rw [hcalloc]
    rfl
  unfold linkStateCapacity at hcapacity
  unfold serializeLink
  rw [if_neg (by omega), if_pos (show (linked d.toPair).linkEnabled = true from rfl),
    if_neg (show ¬¬(linked d.toPair).coordinatorInitialized = true from not_not_intro rfl),
    show (linked d.toPair).lockstep = d.toPair from rfl, h0, h1]
  dsimp only
  rw [Pair.length_savedState, Pair.length_savedState, if_neg (by simp), if_neg (by omega)]
  exact ⟨_, rfl⟩

/-- **An attached pair loads what another saved.** -/
theorem unserializeLink_toPair {d : Duo} (h : d.Scheduled) (hd : d.Shaped) (e : Duo) :
    ∃ gba0 gba1, (linked e.toPair).unserializeLink
      (linkBytes true (d.toPair.savedState 0 d.player0) (d.toPair.savedState 1 d.player1)) =
        (linked (d.resumedFrom e gba0 gba1).toPair, true) := by
  have hvalid0 : (linked e.toPair).lockstepPayloadValid (d.toPair.savedState 0 d.player0) 0 =
      true := by
    unfold lockstepPayloadValid
    rw [Pair.length_savedState]
    exact Bool.and_eq_true_iff.mpr ⟨decide_eq_true rfl, Duo.validateState_saved0 h e⟩
  have hvalid1 : (linked e.toPair).lockstepPayloadValid (d.toPair.savedState 1 d.player1) 1 =
      true := by
    unfold lockstepPayloadValid
    rw [Pair.length_savedState]
    exact Bool.and_eq_true_iff.mpr ⟨decide_eq_true rfl, Duo.validateState_saved1 hd e⟩
  obtain ⟨gba1, hload1⟩ := e.driverLoadState_toPair1 (Duo.validateState_saved1 hd e)
  obtain ⟨gba0, hload0⟩ := (e.loaded1 (d.toPair.savedState 1 d.player1) gba1).driverLoadState_toPair0
    (Duo.validateState_saved0 h _)
  refine ⟨gba0, gba1, ?_⟩
  rw [unserializeLink_linkBytes rfl rfl hvalid0 hvalid1]
  unfold loadBoth
  split
  · rename_i s hload
    exact absurd (hload.symm.trans hload1) (by simp)
  · rename_i s hload
    obtain ⟨rfl, -⟩ := Prod.mk.inj (hload.symm.trans hload1)
    dsimp only
    have hsecond : (linked e.toPair).attached 0 = true := rfl
    rw [hsecond, hload0]
    rfl

/-- Loading a link is a path of labels. -/
theorem connects_unserializeLink (p : MgbaPair) (data : List Byte) :
    Connects Pair.SlotStep (p.lockstep, none) ((p.unserializeLink data).1.lockstep, none) := by
  have hboth (state0 state1 : List Byte) :
      Connects Pair.SlotStep (p.lockstep, none) ((p.loadBoth state0 state1).1.lockstep, none) := by
    have hfirst := Pair.connects_driverLoadState p.lockstep 1 (p.attached 1) state1
    unfold loadBoth
    split
    · rename_i s hload
      rwa [hload] at hfirst
    · rename_i s hload
      rw [hload] at hfirst
      exact hfirst.trans (Pair.connects_driverLoadState s 0 (p.attached 0) state0)
  unfold unserializeLink
  split
  · exact .refl _
  dsimp only
  split
  · exact .refl _
  split
  · exact .refl _
  split
  · exact .refl _
  split
  · exact .refl _
  · exact hboth _ _

theorem Resumable.load {s t : Pair} {d e : Duo} (hs : Resumable s e) (ht : Resumable t d)
    {capacity : Nat} {calloc : Fin 2 → Bool} {data : List Byte}
    (hsave : (linked t).serializeLink capacity calloc = some data) :
    ∃ gba0 gba1, (linked s).unserializeLink data =
        (linked (d.resumedFrom e gba0 gba1).toPair, true) ∧
      Resumable (d.resumedFrom e gba0 gba1).toPair (d.resumedFrom e gba0 gba1) := by
  have hslots := slotsInv_of_connects hs.slots (connects_unserializeLink (linked s) data)
  have hfit := ht.fitting
  obtain rfl := hs.toPair
  obtain rfl := ht.toPair
  obtain rfl := serializeLink_toPair hsave
  obtain ⟨gba0, gba1, hload⟩ := unserializeLink_toPair ht.scheduled ht.shaped e
  rw [hload] at hslots
  exact ⟨gba0, gba1, hload, rfl, ht.scheduled.resumedFrom ht.shaped hfit hs.scheduled,
    ht.shaped.resumedFrom hfit, hslots⟩

/-- **Every pair of a session can go on**, whatever was saved and loaded. -/
theorem Session.exists_resumable {s : Pair} (h : Session s) : ∃ d, Resumable s d := by
  induction h with
  | attach gba0 gba1 => exact exists_resumable_attachLink gba0 gba1
  | act h a ih =>
    obtain ⟨d, hd⟩ := ih
    exact hd.act a
  | load hs ht hsave ihs iht =>
    obtain ⟨e, he⟩ := ihs
    obtain ⟨d, hd⟩ := iht
    obtain ⟨gba0, gba1, hload, hresumable⟩ := he.load hd hsave
    rw [hload]
    exact ⟨_, hresumable⟩

/-- One pair goes on from where the other was: its players have the same modes, clocks, sleep and
queued events, and its coordinator the same cycle, barrier, data and transfer. -/
structure Resumed (t r : Pair) : Prop where
  players : ∀ i, ∃ p q : Player, t.player i = some p ∧ r.player i = some q ∧
    q.playerId = p.playerId ∧ Duo.Continues p.toPlayerState q.toPlayerState
  blocked : ∀ i, (r.drivers i).blocked = (t.drivers i).blocked
  coordinator : ∃ c : CoordinatorState, r.coordinator.toCoordinatorState =
    { c with
      cycle := t.coordinator.cycle
      waiting := t.coordinator.waiting
      nextHardSync := t.coordinator.nextHardSync
      multiData := t.coordinator.multiData
      normalData := t.coordinator.normalData
      transferMode := t.coordinator.transferMode
      transferActive := t.coordinator.transferActive
      syncArmed := t.coordinator.syncArmed }

theorem resumed_toPair {d e : Duo} {gba0 gba1 : Gba} (h : d.Scheduled) (hd : d.Shaped)
    (hfit : d.Fitting) (he : e.Scheduled) :
    Resumed d.toPair (d.resumedFrom e gba0 gba1).toPair := by
  have h0 := Duo.continues_resumedFrom0 h hfit e gba0 gba1
  have h1 := Duo.continues_resumedFrom1 hd hfit e gba0 gba1
  have hr : (d.resumedFrom e gba0 gba1).Scheduled := h.resumedFrom hd hfit he
  refine ⟨fun i => ?_, fun i => ?_, Duo.coordinator_resumedFrom hd e gba0 gba1⟩
  · have hi : i = 0 ∨ i = 1 := by omega
    rcases hi with rfl | rfl
    · exact ⟨d.player0, (d.resumedFrom e gba0 gba1).player0, rfl, rfl, rfl, h0⟩
    · exact ⟨d.player1, (d.resumedFrom e gba0 gba1).player1, rfl, rfl, rfl, h1⟩
  · have hi : i = 0 ∨ i = 1 := by omega
    rcases hi with rfl | rfl
    · exact hr.blocked0.trans (h0.asleep.trans h.blocked0.symm)
    · exact hr.blocked1.trans (h1.asleep.trans h.blocked1.symm)

/-- **A saved link resumes.** Whatever a linked pair of a session saves, any linked pair of a session
loads, and goes on from where the saved one was: every mode, clock, sleeper, queued event, blocked
driver, and the barrier and the transfer of the coordinator. -/
theorem saved_link_resumes {s t : Pair} (hs : Session s) (ht : Session t) {capacity : Nat}
    {calloc : Fin 2 → Bool} {data : List Byte}
    (hsave : (linked t).serializeLink capacity calloc = some data) :
    ∃ r, (linked s).unserializeLink data = (linked r, true) ∧ Resumed t r := by
  obtain ⟨e, he⟩ := hs.exists_resumable
  obtain ⟨d, hd⟩ := ht.exists_resumable
  obtain ⟨gba0, gba1, hload, -⟩ := he.load hd hsave
  have hresumed : Resumed d.toPair (d.resumedFrom e gba0 gba1).toPair :=
    resumed_toPair hd.scheduled hd.shaped hd.fitting he.scheduled
  rw [← hd.toPair] at hresumed
  exact ⟨_, hload, hresumed⟩

omit [MgbaTimer] in
/-- The session's own link, saved and loaded right after the players were attached. -/
theorem saved_link_resumes_attached :
    letI := plainTimer
    let s := attachLink (plainGba .multi 0 1) (plainGba .multi 0 2)
    ∃ data r, (linked s).unserializeLink data = (linked r, true) ∧ Resumed s r := by
  letI := plainTimer
  intro s
  have hs : Session s := .attach _ _
  obtain ⟨d, hd⟩ := hs.exists_resumable
  obtain ⟨data, hsave⟩ := exists_serializeLink_toPair d (fun _ => true)
    (Nat.le_refl linkStateCapacity) fun _ => rfl
  rw [← hd.toPair] at hsave
  obtain ⟨r, hload⟩ := saved_link_resumes hs hs hsave
  exact ⟨data, r, hload⟩

/-- **No scheduler deadlock across saves and loads.** In every pair of a session the scheduler can go
on, and a frame run from there does not end with both machines blocked. -/
theorem no_deadlock_across_loads {s : Pair} (h : Session s) :
    (∃ primary secondary, Pair.Live s primary secondary) ∧
      ∀ (W : Type) (c : Cores W) (w : W), c.CallsBack → c.pair w = s →
        (runLinkedFrame c w).2 ≠ some .allBlocked := by
  obtain ⟨d, hd⟩ := h.exists_resumable
  have horderly : Pair.Orderly s := ⟨d, hd.toPair, hd.scheduled⟩
  refine ⟨horderly.live, fun W c w hcalls hw => ?_⟩
  have hrun (i : Fin 2) (w : W) (hin : Pair.Orderly (c.pair w)) :
      Pair.Orderly (c.pair (c.runLoop i w)) := by
    obtain ⟨as, has⟩ := hcalls i w
    have hact : ∀ (s : Pair) (a : Action), Pair.Orderly s → Pair.Orderly (s.act a) :=
      fun _ a hin => hin.act a
    rw [has]
    exact run_invariant hact as hin
  have hawake (w : W) (hin : Pair.Orderly (c.pair w)) :
      ¬(((c.pair w).drivers 0).blocked = true ∧ ((c.pair w).drivers 1).blocked = true) := by
    obtain ⟨primary, secondary, hlive⟩ := hin.live
    rw [hlive.blocked0, hlive.blocked1]
    exact hlive.not_both_asleep
  exact frameLoop_not_allBlocked hrun hawake _ _ (hw ▸ horderly) rfl (by simp [allDone, List.finRange])

omit [MgbaTimer] in
/-- A session whose link has been saved and loaded once, run by idle cores. -/
theorem no_deadlock_across_loads_idle :
    letI := plainTimer
    let s := attachLink (plainGba .multi 0 1) (plainGba .multi 0 2)
    ∃ data, (linked s).serializeLink linkStateCapacity (fun _ => true) = some data ∧
      (runLinkedFrame Pair.idleCores ((linked s).unserializeLink data).1.lockstep).2 ≠
        some .allBlocked := by
  letI := plainTimer
  intro s
  have hs : Session s := .attach _ _
  obtain ⟨d, hd⟩ := hs.exists_resumable
  obtain ⟨data, hsave⟩ := exists_serializeLink_toPair d (fun _ => true)
    (Nat.le_refl linkStateCapacity) fun _ => rfl
  rw [← hd.toPair] at hsave
  refine ⟨data, hsave, ?_⟩
  have hloaded : Session ((linked s).unserializeLink data).1.lockstep := .load hs hs hsave
  generalize ((linked s).unserializeLink data).1.lockstep = r at hloaded ⊢
  exact (no_deadlock_across_loads hloaded).2 _ Pair.idleCores r
    (fun i _ => ⟨[.lockstepEvent i 0], rfl⟩) rfl

end MgbaPair

end DualBoy.Lockstep
