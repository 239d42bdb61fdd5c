import DualBoy.Lib.Path
import DualBoy.Lockstep.Detach
import DualBoy.Lockstep.Enqueue

/-!
# The slots of the event buffers

A player keeps its events in `buffer`, an array of `MAX_LOCKSTEP_EVENTS` slots. What the functions of
`mgba_lockstep.c` do to the slots comes down to nine labels (`SlotLabel`): an event is taken into a
queue or refused, a due head is unlinked, the slot in the processing code's hand is given back, a
player comes or goes, and a saved queue replaces the one there is.

* `SlotStep` is what one label does to a state and the hand.
* `SameTable` and `SameSlots` say that a function leaves the table of players, and the slots, alone.
* `connects_*`: each function of the source is a path of labels, whatever else it does.
-/

namespace DualBoy.Lockstep

open DualBoy.Lib

/-- A player's slots, and the driver that owns them. -/
structure Slots where
  driver : Fin 2
  queue : List QueuedEvent
  queueDepth : Nat
  freeList : List (Fin maxLockstepEvents)

def Player.slots (p : Player) : Slots where
  driver := p.driver
  queue := p.queue
  queueDepth := p.queueDepth
  freeList := p.freeList

namespace Pair

section

variable [Mgba]

/-! ## What leaves the slots alone -/

/-- The same players with the same drivers sit in the same places. -/
structure SameTable (s s' : Pair) : Prop where
  players : s'.coordinator.players.map (fun e => (e.1, e.2.driver)) =
    s.coordinator.players.map fun e => (e.1, e.2.driver)
  lockstepId : ∀ i, (s'.drivers i).lockstepId = (s.drivers i).lockstepId
  attachedPlayers : s'.coordinator.attachedPlayers = s.coordinator.attachedPlayers
  nAttached : s'.coordinator.nAttached = s.coordinator.nAttached

/-- So do their slots, and nothing is dropped. -/
structure SameSlots (s s' : Pair) : Prop extends SameTable s s' where
  slots : ∀ id, (s'.lookup id).map Player.slots = (s.lookup id).map Player.slots
  droppedEvents : s'.coordinator.droppedEvents = s.coordinator.droppedEvents

theorem SameTable.refl (s : Pair) : SameTable s s := ⟨rfl, fun _ => rfl, rfl, rfl⟩

theorem SameTable.trans {s s' s'' : Pair} (h : SameTable s s') (h' : SameTable s' s'') :
    SameTable s s'' where
  players := h'.players.trans h.players
  lockstepId := fun i => (h'.lockstepId i).trans (h.lockstepId i)
  attachedPlayers := h'.attachedPlayers.trans h.attachedPlayers
  nAttached := h'.nAttached.trans h.nAttached

theorem SameSlots.refl (s : Pair) : SameSlots s s := ⟨.refl s, fun _ => rfl, rfl⟩

theorem SameSlots.trans {s s' s'' : Pair} (h : SameSlots s s') (h' : SameSlots s' s'') :
    SameSlots s s'' where
  toSameTable := h.toSameTable.trans h'.toSameTable
  slots := fun id => (h'.slots id).trans (h.slots id)
  droppedEvents := h'.droppedEvents.trans h.droppedEvents

theorem map_driver_modifyPlayer (s : Pair) (id : Nat) {f : Player → Player}
    (hf : ∀ p, (f p).driver = p.driver) :
    (s.modifyPlayer id f).coordinator.players.map (fun e => (e.1, e.2.driver)) =
      s.coordinator.players.map fun e => (e.1, e.2.driver) := by
  change (s.coordinator.players.map _).map _ = _
  rw [List.map_map]
  refine List.map_congr_left fun e _ => ?_
  rw [Function.comp_apply]
  split
  · rw [hf]
  · rfl

theorem sameTable_modifyPlayer (s : Pair) (id : Nat) {f : Player → Player}
    (hf : ∀ p, (f p).driver = p.driver) : SameTable s (s.modifyPlayer id f) where
  players := map_driver_modifyPlayer s id hf
  lockstepId := fun i => by
    match i with
    | 0 => rfl
    | 1 => rfl
  attachedPlayers := rfl
  nAttached := rfl

theorem sameSlots_modifyPlayer (s : Pair) (id : Nat) {f : Player → Player}
    (hf : ∀ p, (f p).slots = p.slots) : SameSlots s (s.modifyPlayer id f) where
  toSameTable := sameTable_modifyPlayer s id fun p => congrArg Slots.driver (hf p)
  slots := fun id' => by
    rw [lookup_modifyPlayer]
    split
    · rw [Option.map_map]
      exact congrArg (fun g => (s.lookup id').map g) (funext hf)
    · rfl
  droppedEvents := rfl

theorem sameSlots_modifyDriver (s : Pair) (i : Fin 2) {f : Driver → Driver}
    (hf : ∀ d, (f d).lockstepId = d.lockstepId) : SameSlots s (s.modifyDriver i f) := by
  match i with
  | 0 =>
    refine ⟨⟨rfl, fun j => ?_, rfl, rfl⟩, fun _ => rfl, rfl⟩
    match j with
    | 0 => exact hf s.driver0
    | 1 => rfl
  | 1 =>
    refine ⟨⟨rfl, fun j => ?_, rfl, rfl⟩, fun _ => rfl, rfl⟩
    match j with
    | 0 => rfl
    | 1 => exact hf s.driver1

theorem sameSlots_modifyGba (s : Pair) (i : Fin 2) (f : Gba → Gba) :
    SameSlots s (s.modifyGba i f) :=
  sameSlots_modifyDriver s i fun _ => rfl

theorem sameSlots_modifyCoordinator (s : Pair) {f : Coordinator → Coordinator}
    (hf : ∀ c, (f c).players = c.players ∧ (f c).attachedPlayers = c.attachedPlayers ∧
      (f c).nAttached = c.nAttached ∧ (f c).droppedEvents = c.droppedEvents) :
    SameSlots s (s.modifyCoordinator f) := by
  obtain ⟨hplayers, hattached, hn, hdropped⟩ := hf s.coordinator
  refine ⟨⟨?_, fun i => ?_, hattached, hn⟩, fun id => ?_, hdropped⟩
  · exact congrArg (List.map _) hplayers
  · match i with
    | 0 => rfl
    | 1 => rfl
  · exact congrArg (fun players => (players.lookup id).map Player.slots) hplayers

theorem sameSlots_ghost (s : Pair) (ghost : Ghost) : SameSlots s { s with ghost := ghost } := by
  refine ⟨⟨rfl, fun i => ?_, rfl, rfl⟩, fun _ => rfl, rfl⟩
  match i with
  | 0 => rfl
  | 1 => rfl

theorem sameSlots_ite {c : Prop} [Decidable c] {s t u : Pair} (ht : SameSlots s t)
    (hu : SameSlots s u) : SameSlots s (if c then t else u) := by
  split
  · exact ht
  · exact hu

/-! ## The functions that do so -/

theorem sameSlots_record (s : Pair) (t : Trace) : SameSlots s (s.record t) := sameSlots_ghost s _

theorem sameSlots_mAssert (s : Pair) (condition : Bool) : SameSlots s (s.mAssert condition) :=
  sameSlots_ghost s _

theorem sameSlots_lockstepSleep (s : Pair) (i : Fin 2) : SameSlots s (s.lockstepSleep i) := by
  unfold lockstepSleep
  split
  · exact sameSlots_modifyDriver s i fun _ => rfl
  · exact .refl s

theorem sameSlots_playerWake (s : Pair) (id : Nat) : SameSlots s (s.playerWake id) := by
  unfold playerWake
  split
  · exact .refl s
  · split
    · refine .trans ?_ (sameSlots_modifyDriver _ _ fun _ => rfl)
      exact sameSlots_modifyPlayer s id fun _ => rfl
    · exact .refl s

theorem sameSlots_playerSleep (s : Pair) (id : Nat) : SameSlots s (s.playerSleep id) := by
  unfold playerSleep
  split
  · exact .refl s
  · split
    · exact .refl s
    · refine .trans ?_ (sameSlots_modifyGba _ _ _)
      refine .trans ?_ (sameSlots_lockstepSleep _ _)
      exact sameSlots_modifyPlayer s id fun _ => rfl

/-- A loop over the places whose turns leave the slots alone. -/
theorem sameSlots_foldl {f : Pair → Nat → Pair} (hf : ∀ s i, SameSlots s (f s i)) (places : List Nat)
    (s : Pair) : SameSlots s (places.foldl f s) := by
  induction places generalizing s with
  | nil => exact .refl s
  | cons i places ih => exact (hf s i).trans (ih _)

theorem sameSlots_wakePlayers (s : Pair) : SameSlots s s.wakePlayers := by
  refine sameSlots_foldl (fun s i => ?_) _ s
  dsimp only
  split
  · exact .refl s
  · exact sameSlots_playerWake s _

theorem sameSlots_advanceCycle (s : Pair) (player : Player) : SameSlots s (s.advanceCycle player) := by
  unfold advanceCycle
  dsimp only
  split
  · exact .refl s
  · exact sameSlots_modifyCoordinator s fun _ => ⟨rfl, rfl, rfl, rfl⟩

theorem sameSlots_rescheduleForQueueHead (s : Pair) (id : Nat) :
    SameSlots s (s.rescheduleForQueueHead id) := by
  unfold rescheduleForQueueHead
  split
  · exact .refl s
  · dsimp only
    split
    · exact .refl s
    · split
      · split
        · exact .refl s
        · exact sameSlots_modifyGba s _ _
      · exact .refl s

theorem sameSlots_waitOnPlayers (s : Pair) (id : Nat) : SameSlots s (s.waitOnPlayers id) := by
  unfold waitOnPlayers
  split
  · exact .refl s
  · rename_i player _
    have hasserts : SameSlots s (((s.mAssert (s.coordinator.waiting = 0)).mAssert
        (!player.asleep)).mAssert (player.playerId = 0)) :=
      ((sameSlots_mAssert s _).trans (sameSlots_mAssert _ _)).trans (sameSlots_mAssert _ _)
    dsimp only
    split
    · exact hasserts
    · refine .trans ?_ (sameSlots_wakePlayers _)
      refine .trans ?_ (sameSlots_playerSleep _ _)
      refine .trans ?_ (sameSlots_record _ _)
      refine .trans ?_ (sameSlots_modifyCoordinator _ fun _ => ⟨rfl, rfl, rfl, rfl⟩)
      exact hasserts.trans (sameSlots_advanceCycle _ _)

theorem sameSlots_markReceived (s : Pair) : SameSlots s s.markReceived := by
  refine sameSlots_foldl (fun s i => ?_) _ s
  dsimp only
  split
  · exact .refl s
  · exact sameSlots_modifyPlayer s _ fun _ => rfl

theorem sameSlots_releaseBarrier (s : Pair) : SameSlots s s.releaseBarrier := by
  unfold releaseBarrier
  refine .trans ?_ (sameSlots_playerWake _ _)
  split
  · refine .trans ?_ (sameSlots_modifyCoordinator _ fun _ => ⟨rfl, rfl, rfl, rfl⟩)
    exact sameSlots_markReceived s
  · exact .refl s

theorem sameSlots_ackPlayer (s : Pair) (id : Nat) : SameSlots s (s.ackPlayer id) := by
  unfold ackPlayer
  split
  · exact .refl s
  · split
    · exact .refl s
    · split
      · exact .refl s
      · refine .trans ?_ (sameSlots_playerSleep _ _)
        split
        · refine .trans ?_ (sameSlots_releaseBarrier _)
          refine .trans ?_ (sameSlots_record _ _)
          exact sameSlots_modifyCoordinator s fun _ => ⟨rfl, rfl, rfl, rfl⟩
        · refine .trans ?_ (sameSlots_record _ _)
          exact sameSlots_modifyCoordinator s fun _ => ⟨rfl, rfl, rfl, rfl⟩

theorem sameSlots_setData (s : Pair) (id : Nat) (i : Fin 2) : SameSlots s (s.setData id i) := by
  unfold setData
  dsimp only
  split
  · exact sameSlots_modifyCoordinator s fun _ => ⟨rfl, rfl, rfl, rfl⟩
  · exact sameSlots_modifyCoordinator s fun _ => ⟨rfl, rfl, rfl, rfl⟩
  · refine .trans ?_ (sameSlots_modifyCoordinator _ fun _ => ⟨rfl, rfl, rfl, rfl⟩)
    exact sameSlots_modifyCoordinator s fun _ => ⟨rfl, rfl, rfl, rfl⟩
  · exact .refl s

theorem sameSlots_recordSample (s : Pair) (playerId : Int) (transfer : Nat) (i : Fin 2) :
    SameSlots s (s.recordSample playerId transfer i) := by
  unfold recordSample
  split
  · exact sameSlots_record s _
  · exact .refl s

theorem sameSlots_setReady (s : Pair) (id : Nat) (playerId : Int) (mode : Mode) :
    SameSlots s (s.setReady id playerId mode) := by
  have hmodes := sameSlots_modifyPlayer s id
    (f := fun p => { p with otherModes := p.otherModes.set playerId.toNat mode }) fun _ => rfl
  unfold setReady
  dsimp only
  split
  · exact hmodes
  · split
    · exact hmodes.trans (sameSlots_modifyGba _ _ _)
    · exact hmodes

theorem sameSlots_resetSchedule (s : Pair) (i : Fin 2) : SameSlots s (s.resetSchedule i) := by
  unfold resetSchedule
  split
  · exact .refl s
  · dsimp only
    split
    · exact .refl s
    · split
      · refine .trans ?_ (sameSlots_modifyGba _ _ _)
        refine .trans ?_ (sameSlots_modifyCoordinator _ fun _ => ⟨rfl, rfl, rfl, rfl⟩)
        exact sameSlots_setReady s _ _ _
      · refine .trans ?_ (sameSlots_modifyGba _ _ _)
        refine .trans ?_ (sameSlots_setReady _ _ _ _)
        exact sameSlots_setReady s _ _ _

theorem sameSlots_eventTail (id : Nat) (l : EventLoop) : SameSlots l.pair (eventTail id l) := by
  unfold eventTail
  dsimp only
  split
  · exact .refl _
  · refine .trans ?_ (sameSlots_modifyGba _ _ _)
    exact sameSlots_ite (sameSlots_playerSleep _ _) (.refl _)

/-! ## Steps

What is done to slots is done one slot at a time. Between its unlinking and its recycling the
event loop has an event in hand, whose slot is in neither list. -/

/-- The event in hand, with the player whose queue it was in. -/
abbrev Hand := Option (Nat × QueuedEvent)

inductive SlotLabel where
  | quiet
  /-- The place holds no player. -/
  | absent
  | accepted (id : Nat) (event : QueuedEvent)
  | refused (id : Nat) (event : Event)
  | unlinked (id : Nat) (event : QueuedEvent)
  /-- The slot is free again; `depth` is what `queueDepth` was before. -/
  | recycled (id : Nat) (event : QueuedEvent) (depth : Nat)
  | replaced (id : Nat) (events : List QueuedEvent)
  | joined (id : Nat)
  | removed (id : Nat)

/-- What comes of offering an event to the player in a place. -/
def offerLabel (s : Pair) (event : Event) (i : Nat) : SlotLabel :=
  match s.lookup (s.seat i) with
  | none => .absent
  | some player =>
    match player.freeList with
    | [] => .refused (s.seat i) event
    | slot :: _ => .accepted (s.seat i) { event with slot, serial := s.ghost.published + 1 }

theorem offerLabel_of_absent {s : Pair} {event : Event} {i : Nat} (h : s.lookup (s.seat i) = none) :
    s.offerLabel event i = .absent := by
  unfold offerLabel
  rw [h]

theorem offerLabel_of_full {s : Pair} {event : Event} {i : Nat} {player : Player}
    (h : s.lookup (s.seat i) = some player) (hfull : player.freeList = []) :
    s.offerLabel event i = .refused (s.seat i) event := by
  unfold offerLabel
  rw [h]
  dsimp only
  rw [hfull]

theorem offerLabel_of_free {s : Pair} {event : Event} {i : Nat} {player : Player}
    {slot : Fin maxLockstepEvents} {freeList : List (Fin maxLockstepEvents)}
    (h : s.lookup (s.seat i) = some player) (hfree : player.freeList = slot :: freeList) :
    s.offerLabel event i =
      .accepted (s.seat i) { event with slot, serial := s.ghost.published + 1 } := by
  unfold offerLabel
  rw [h]
  dsimp only
  rw [hfree]

/-- The player has its first event taken out of its queue. -/
def unlinkEvent (s : Pair) (id : Nat) (rest : List QueuedEvent) : Pair :=
  s.modifyPlayer id fun p => { p with queue := rest }

/-- The player's event is due. -/
def HeadDue (s : Pair) (id : Nat) (event : QueuedEvent) (rest : List QueuedEvent) : Prop :=
  ∃ player, s.lookup id = some player ∧ player.queue = event :: rest ∧
    ¬0 < (cycleDelta event.timestamp (s.lockstepTime player)).toInt

/-- What the source does to slots. -/
inductive SlotStep : Pair × Hand → SlotLabel → Pair × Hand → Prop
  | quiet {s s' : Pair} (hand : Hand) (h : SameSlots s s') : SlotStep (s, hand) .quiet (s', hand)
  | offer (r : Pair × Bool) (hand : Hand) (event : Event) (i : Nat) :
      SlotStep (r.1, hand) (r.1.offerLabel event i) ((enqueueAt event r i).1, hand)
  | unlink {s : Pair} {id : Nat} {event : QueuedEvent} {rest : List QueuedEvent}
      (h : s.HeadDue id event rest) :
      SlotStep (s, none) (.unlinked id event) (s.unlinkEvent id rest, some (id, event))
  | recycle (s : Pair) (id : Nat) (event : QueuedEvent) :
      SlotStep (s, some (id, event))
        (.recycled id event (((s.lookup id).map fun p => p.queueDepth).getD 0))
        (s.recycleEvent id event, none)
  | replace (s : Pair) (id : Nat) (data : List Byte) :
      SlotStep (s, none) (.replaced id (loadedQueue data)) (s.modifyPlayer id (loadedSlots data), none)
  | join {s : Pair} {i : Fin 2} (h : (s.drivers i).lockstepId = 0) :
      SlotStep (s, none) (.joined ((s.joinPlayer i).drivers i).lockstepId) (s.joinPlayer i, none)
  | remove (s : Pair) (player : Player) :
      SlotStep (s, none) (.removed (s.drivers player.driver).lockstepId)
        ((s.tableRemove player).reconfigPlayers, none)
  | leave {s : Pair} {i : Fin 2} (h : s.lookup (s.drivers i).lockstepId = none) :
      SlotStep (s, none) .quiet (s.modifyDriver i fun d => { d with lockstepId := 0 }, none)

/-! ## The operations as paths -/

variable {hand : Hand}

theorem connects_quiet {s s' : Pair} (h : SameSlots s s') : Connects SlotStep (s, hand) (s', hand) :=
  .single (.quiet hand h)

/-- What leaves the slots alone may follow. -/
theorem connects_then {s t u : Pair} (h : Connects SlotStep (s, hand) (t, hand)) (hquiet : SameSlots t u) :
    Connects SlotStep (s, hand) (u, hand) := h.trans (connects_quiet hquiet)

/-- **`_enqueueEvent` offers the event to one target after the other.** -/
theorem connects_enqueueEvent (s : Pair) (event : Event) (targets : BitVec 32) :
    Connects SlotStep (s, hand) ((s.enqueueEvent event targets).1, hand) := by
  have hall (places : List Nat) (r : Pair × Bool) : Connects SlotStep (r.1, hand)
      ((places.foldl (fun r (i : Nat) =>
        if targets &&& target i = 0 then r else enqueueAt event r i) r).1, hand) := by
    induction places generalizing r with
    | nil => exact .refl _
    | cons i places ih =>
      refine .trans ?_ (ih _)
      dsimp only
      split
      · exact .refl _
      · exact .single (.offer r hand event i)
  exact hall _ (s, true)

theorem connects_hardSync (s : Pair) (id : Nat) : Connects SlotStep (s, hand) (s.hardSync id, hand) := by
  unfold hardSync
  split
  · exact .refl _
  · dsimp only
    split
    · exact connects_then (connects_enqueueEvent s _ _) (sameSlots_waitOnPlayers _ id)
    · exact connects_enqueueEvent s _ _

theorem connects_announcePlayer (s : Pair) (i : Fin 2) :
    Connects SlotStep (s, hand) (s.announcePlayer i, hand) := by
  unfold announcePlayer
  split
  · exact .refl _
  · split
    · exact .refl _
    · exact connects_enqueueEvent s _ _

theorem connects_driverReset (s : Pair) (i : Fin 2) (calloc : Bool) :
    Connects SlotStep (s, none) (s.driverReset i calloc, none) := by
  have hsync : Connects SlotStep (s, none) (s.modifyCoordinator fun c => { c with syncArmed := false },
      none) := connects_quiet (sameSlots_modifyCoordinator s fun _ => ⟨rfl, rfl, rfl, rfl⟩)
  unfold driverReset
  dsimp only
  split
  · rename_i hid
    split
    · refine connects_then ?_ (sameSlots_resetSchedule _ i)
      refine .trans ?_ (connects_announcePlayer _ i)
      exact hsync.trans (.single (.join hid))
    · exact hsync
  · refine connects_then ?_ (sameSlots_resetSchedule _ i)
    exact connects_then hsync (sameSlots_modifyPlayer _ _ fun _ => rfl)

theorem connects_setMode (s : Pair) (i : Fin 2) (mode : Mode) :
    Connects SlotStep (s, hand) (s.setMode i mode, hand) := by
  unfold setMode
  split
  · exact .refl _
  dsimp only
  split
  · exact .refl _
  split
  · exact .refl _
  have hmode : SameSlots s (s.modifyPlayer (s.drivers i).lockstepId fun p => { p with mode }) :=
    sameSlots_modifyPlayer s _ fun _ => rfl
  refine connects_then ?_ (sameSlots_ite (sameSlots_waitOnPlayers _ _) (.refl _))
  refine connects_then ?_ (sameSlots_ite (sameSlots_modifyGba _ _ _) (.refl _))
  refine .trans ?_ (connects_enqueueEvent _ _ _)
  refine connects_then ?_ (sameSlots_setReady _ _ _ _)
  refine connects_quiet (sameSlots_ite (hmode.trans ?_) hmode)
  exact sameSlots_modifyCoordinator _ fun _ => ⟨rfl, rfl, rfl, rfl⟩

theorem connects_start (s : Pair) (i : Fin 2) : Connects SlotStep (s, hand) ((s.start i).1, hand) := by
  unfold start
  split
  · exact .refl _
  dsimp only
  split
  · exact .refl _
  rename_i player _
  split
  · exact .refl _
  have hdata : SameSlots s (s.modifyCoordinator fun c =>
      { c with multiData := List.replicate 4 0xffff#16 }) :=
    sameSlots_modifyCoordinator s fun _ => ⟨rfl, rfl, rfl, rfl⟩
  have hsampled := (hdata.trans (sameSlots_setData _ 0 player.driver)).trans
    (sameSlots_recordSample _ 0 (s.ghost.published + 1) player.driver)
  have harmed (t : Pair) : SameSlots t (if player.mode = .multi ∧ ¬t.coordinator.syncArmed then
      t.modifyCoordinator fun c => { c with syncArmed := true, nextHardSync := hardSyncInterval }
      else t) :=
    sameSlots_ite (sameSlots_modifyCoordinator t fun _ => ⟨rfl, rfl, rfl, rfl⟩) (.refl t)
  have hwait (t : Pair) : SameSlots t (if t.coordinator.waiting ≠ 0 then (t, true)
      else (t.waitOnPlayers (s.drivers i).lockstepId, true)).1 := by
    split
    · exact .refl t
    · exact sameSlots_waitOnPlayers t _
  split
  · refine connects_then ?_ (hwait _)
    refine connects_then ?_ (harmed _)
    refine connects_then ?_ (sameSlots_modifyCoordinator _ fun _ => ⟨rfl, rfl, rfl, rfl⟩)
    exact (connects_quiet hsampled).trans (connects_enqueueEvent _ _ _)
  · exact (connects_quiet hsampled).trans (connects_enqueueEvent _ _ _)

theorem connects_finishTransfer (s : Pair) (id : Nat) :
    Connects SlotStep (s, hand) (s.finishTransfer id, hand) := by
  have hreceived : Connects SlotStep (s, hand)
      (s.modifyPlayer id fun p => { p with dataReceived := false }, hand) :=
    connects_quiet (sameSlots_modifyPlayer s id fun _ => rfl)
  unfold finishTransfer
  dsimp only
  split
  · exact hreceived
  split
  · split
    · exact hreceived
    · split
      · exact connects_then hreceived (sameSlots_modifyCoordinator _ fun _ => ⟨rfl, rfl, rfl, rfl⟩)
      · exact hreceived.trans (connects_hardSync _ _)
  · exact hreceived

theorem connects_finishMultiplayer (s : Pair) (i : Fin 2) (data : List (BitVec 16)) :
    Connects SlotStep (s, hand) ((s.finishMultiplayer i data).1, hand) := by
  unfold finishMultiplayer
  split
  · dsimp only
    split
    · exact .refl _
    · split
      · exact (connects_quiet (sameSlots_record s _)).trans (connects_finishTransfer _ _)
      · exact connects_finishTransfer _ _
  · exact .refl _

theorem connects_finishNormal (s : Pair) (i : Fin 2) (mode : Mode) :
    Connects SlotStep (s, hand) ((s.finishNormal i mode).1, hand) := by
  unfold finishNormal
  split
  · dsimp only
    split
    · exact .refl _
    · split
      · exact (connects_quiet (sameSlots_record s _)).trans (connects_finishTransfer _ _)
      · exact connects_finishTransfer _ _
  · exact .refl _

theorem connects_ownClock (s : Pair) (id : Nat) (player : Player) :
    Connects SlotStep (s, hand) (s.ownClock id player, hand) := by
  unfold ownClock
  split
  · have hclock : SameSlots s (if (s.advanceCycle player).coordinator.transferActive then
        s.advanceCycle player else (s.advanceCycle player).wakePlayers) :=
      sameSlots_ite (sameSlots_advanceCycle s player)
        ((sameSlots_advanceCycle s player).trans (sameSlots_wakePlayers _))
    have hsync (t : Pair) :
        Connects SlotStep (t, hand) (if t.coordinator.waiting = 0 then t.hardSync id else t, hand) := by
      split
      · exact connects_hardSync t id
      · exact .refl _
    have hbarrier (t : Pair) : Connects SlotStep (t, hand)
        (if t.coordinator.syncArmed ∧ t.coordinator.nextHardSync.toInt < 0 then
          (if t.coordinator.waiting = 0 then t.hardSync id else t).modifyCoordinator fun c =>
            { c with nextHardSync := delayAddSaturated c.nextHardSync hardSyncInterval }
        else t, hand) := by
      split
      · exact connects_then (hsync t) (sameSlots_modifyCoordinator _ fun _ => ⟨rfl, rfl, rfl, rfl⟩)
      · exact .refl _
    exact (connects_quiet hclock).trans (hbarrier _)
  · exact .refl _

/-- The `switch` of the event loop leaves what is in hand there. -/
theorem connects_handleEvent (id : Nat) (cyclesLate : BitVec 32) (event : QueuedEvent) (l : EventLoop) :
    Connects SlotStep (l.pair, hand) ((handleEvent id cyclesLate event l).pair, hand) := by
  unfold handleEvent
  dsimp only
  split
  · exact .refl _
  rename_i player _
  split
  · refine .trans ?_ (connects_enqueueEvent _ _ _)
    have hready := sameSlots_setReady l.pair id event.playerId .none
    exact connects_quiet (sameSlots_ite (hready.trans (sameSlots_modifyGba _ _ _)) hready)
  · exact connects_quiet (sameSlots_ackPlayer _ id)
  · refine connects_then ?_ (sameSlots_ackPlayer _ id)
    refine connects_then ?_ (sameSlots_modifyGba _ _ _)
    exact connects_quiet ((sameSlots_setData _ _ _).trans (sameSlots_recordSample _ _ _ _))
  · rename_i mode _
    have hready := sameSlots_setReady l.pair id event.playerId mode
    exact connects_quiet (sameSlots_ite (hready.trans (sameSlots_ackPlayer _ id)) hready)
  · refine connects_then ?_ (sameSlots_ite (sameSlots_modifyGba _ _ _) (.refl _))
    refine .trans ?_ (connects_enqueueEvent _ _ _)
    exact connects_quiet ((sameSlots_setReady _ _ _ _).trans (sameSlots_setReady _ _ _ _))

/-- **The event loop** takes one event in hand after the other. -/
theorem connects_eventLoop (id : Nat) (cyclesLate : BitVec 32) (fuel : Nat) (l : EventLoop) :
    Connects SlotStep (l.pair, none) ((eventLoop id cyclesLate fuel l).pair, none) := by
  induction fuel generalizing l with
  | zero => exact .refl _
  | succ fuel ih =>
    unfold eventLoop
    split
    · exact .refl _
    rename_i player hplayer
    split
    · exact .refl _
    rename_i event rest hqueue
    split
    · exact .refl _
    rename_i hdue
    refine .trans ?_ (ih _)
    refine .trans ?_ (.single (.recycle _ id event))
    refine .trans ?_ (connects_handleEvent id cyclesLate event _)
    refine .trans ?_ (connects_quiet (sameSlots_ghost (l.pair.unlinkEvent id rest) _))
    exact .single (.unlink ⟨player, hplayer, hqueue, hdue⟩)

theorem connects_lockstepEvent (s : Pair) (i : Fin 2) (cyclesLate : BitVec 32) :
    Connects SlotStep (s, none) (s.lockstepEvent i cyclesLate, none) := by
  unfold lockstepEvent
  dsimp only
  split
  · exact .refl _
  · refine connects_then ?_ (sameSlots_eventTail _ _)
    refine .trans ?_ (connects_eventLoop _ _ _ _)
    exact (connects_quiet (sameSlots_mAssert s _)).trans (connects_ownClock _ _ _)

theorem connects_act (s : Pair) (a : Action) : Connects SlotStep (s, none) (s.act a, none) := by
  cases a with
  | run i gba loadingMachineState =>
    unfold act
    exact connects_quiet (sameSlots_modifyDriver s i fun _ => rfl)
  | setMode i mode => exact connects_setMode s i mode
  | start i => exact connects_start s i
  | finishMultiplayer i data => exact connects_finishMultiplayer s i data
  | finishNormal8 i => exact connects_finishNormal s i .normal8
  | finishNormal32 i => exact connects_finishNormal s i .normal32
  | lockstepEvent i cyclesLate => exact connects_lockstepEvent s i cyclesLate
  | reset i => exact connects_driverReset s i true

theorem connects_removePlayer (s : Pair) (player : Player) :
    Connects SlotStep (s, none) (s.removePlayer player, none) := by
  unfold removePlayer
  refine connects_then ?_ (sameSlots_playerWake _ _)
  refine .trans ?_ (.single (.remove _ player))
  refine connects_then ?_ (sameSlots_modifyCoordinator _ fun _ => ⟨rfl, rfl, rfl, rfl⟩)
  exact connects_enqueueEvent s _ _

theorem connects_coordinatorDetach (s : Pair) (i : Fin 2) :
    Connects SlotStep (s, none) (s.coordinatorDetach i, none) := by
  unfold coordinatorDetach
  split
  · exact .refl _
  · exact connects_removePlayer s _

end

end Pair

end DualBoy.Lockstep
