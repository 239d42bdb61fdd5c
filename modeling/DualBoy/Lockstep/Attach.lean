import DualBoy.Lockstep.Callbacks

/-!
# The attached pair at the start

`attach_link` attaches machine 0 and then machine 1. The two resets are run symbolically here: what
they leave behind is an attached pair, and the queues hold nothing but player 1's announcement.
-/

namespace DualBoy.Lockstep

variable [Mgba]

/-- A player that has just joined. -/
def joined (mode : Mode) (otherModes : List Mode) (cycleOffset : Cycle) : PlayerState where
  mode
  otherModes
  asleep := false
  cycleOffset
  queue := []
  dataReceived := false
  queueDepth := 0
  maxQueueDepth := 0
  freeList := List.finRange maxLockstepEvents

/-- The coordinator once it knows player 0. -/
def coordinatorOpened (mode : Mode) (cycle : Cycle) (nextId : Nat) : CoordinatorState :=
  { coordinatorInit with nextId, transferMode := mode, cycle, nextHardSync := hardSyncInterval }

/-- The pair with only machine 0's player attached. -/
def attachedFirst (gba0 gba1 : Gba) (mode : Mode) (otherModes : List Mode) (cycle : Cycle) :
    Pair where
  coordinator :=
    { coordinatorOpened mode cycle 1 with
      players := [(1, { joined mode otherModes 0 with driver := 0, playerId := 0 })]
      attachedPlayers := [1, 0, 0, 0]
      nAttached := 1 }
  driver0 := { driverCreate gba0 0 with lockstepId := 1 }
  driver1 := driverCreate gba1 1
  ghost := { published := 0, current := 0, assertsHeld := true, trace := [] }

/-- The pair with both players attached, before player 1 says so. -/
def attachedBoth (gba0 gba1 : Gba) (mode : Mode) (otherModes : List Mode) (cycle : Cycle) :
    Duo where
  coordinator := coordinatorOpened mode cycle 2
  p0 := joined mode otherModes 0
  p1 := joined gba1.mode (List.replicate maxGbas .normal8) (cycleDelta gba1.now cycle)
  d0 := { gba := gba0, loadingMachineState := false, blocked := false }
  d1 := { gba := gba1, loadingMachineState := false, blocked := false }
  ghost := { published := 0, current := 0, assertsHeld := true, trace := [] }

theorem joinPlayer_first (gba0 gba1 : Gba) :
    (linkCreate gba0 gba1).joinPlayer 0 =
      attachedFirst gba0 gba1 gba0.mode (List.replicate maxGbas .normal8) gba0.now := by
  simp [Pair.joinPlayer, linkCreate, Pair.drivers, driverCreate, coordinatorInit, Pair.freshId,
    Pair.modifyDriver, Pair.modifyCoordinator, Pair.reconfigPlayers, Pair.modifyPlayer, Pair.lookup,
    attachedFirst, joined, coordinatorOpened, cycleDelta, maxGbas]

theorem joinPlayer_second (gba0 gba1 : Gba) (mode : Mode) (otherModes : List Mode) (cycle : Cycle) :
    (attachedFirst gba0 gba1 mode otherModes cycle).joinPlayer 1 =
      (attachedBoth gba0 gba1 mode otherModes cycle).toPair := by
  have hrange : List.range 4 = [0, 1, 2, 3] := rfl
  simp [hrange, Pair.joinPlayer, Pair.drivers, driverCreate, coordinatorInit, Pair.freshId,
    Pair.modifyDriver, Pair.modifyCoordinator, Pair.reconfigPlayers, Pair.modifyPlayer, Pair.lookup,
    attachedFirst, joined, coordinatorOpened, maxGbas, Pair.assignedOrder, attachedBoth, Duo.toPair,
    Duo.player0, Duo.player1]

theorem setReady_first (gba0 gba1 : Gba) (mode : Mode) (otherModes : List Mode) (cycle : Cycle) :
    ∃ gba, (attachedFirst gba0 gba1 mode otherModes cycle).setReady 1 0 mode =
      attachedFirst gba gba1 mode (otherModes.set 0 mode) cycle := by
  by_cases hm : mode = .multi
  · exact ⟨_, if_pos hm⟩
  · exact ⟨gba0, if_neg hm⟩

theorem driverReset_first (gba0 gba1 : Gba) :
    ∃ gba otherModes cycle, (linkCreate gba0 gba1).driverReset 0 true =
      attachedFirst gba gba1 gba0.mode otherModes cycle := by
  have hreset : (linkCreate gba0 gba1).driverReset 0 true =
      (((linkCreate gba0 gba1).joinPlayer 0).announcePlayer 0).resetSchedule 0 := rfl
  rw [hreset, joinPlayer_first]
  -- The first player has nobody to tell.
  change ∃ gba otherModes cycle, (attachedFirst gba0 gba1 gba0.mode _ _).resetSchedule 0 = _
  unfold Pair.resetSchedule
  by_cases hs : Mgba.isScheduled gba0.timing .lockstep = true
  · exact ⟨gba0, _, _, if_pos hs⟩
  · obtain ⟨gba, hready⟩ := setReady_first gba0 gba1 gba0.mode (List.replicate maxGbas .normal8)
      gba0.now
    have hlookup : (attachedFirst gba0 gba1 gba0.mode (List.replicate maxGbas .normal8)
        gba0.now).lookup 1 = some { joined gba0.mode (List.replicate maxGbas .normal8) 0 with
          driver := 0, playerId := 0 } := rfl
    rw [if_neg (show ¬Mgba.isScheduled
      ((attachedFirst gba0 gba1 gba0.mode _ _).drivers 0).gba.timing .lockstep = true from hs),
      show ((attachedFirst gba0 gba1 gba0.mode _ _).drivers 0).lockstepId = 1 from rfl]
    simp only [hlookup]
    rw [show (joined gba0.mode (List.replicate maxGbas .normal8) 0).mode = gba0.mode from rfl, hready]
    exact ⟨_, _, _, rfl⟩

/-- Player 1 tells player 0 that it is there. -/
def announced1 (d : Duo) : Duo :=
  (d.post0 { type := .attach, playerId := 1, timestamp := d.time1 }).1

theorem announcePlayer_toPair1 (d : Duo) : d.toPair.announcePlayer 1 = (announced1 d).toPair := by
  unfold Pair.announcePlayer
  rw [show (d.toPair.drivers 1).lockstepId = 2 from rfl]
  simp only [Duo.lookup_toPair1]
  rw [Duo.playerId_player1, if_neg (show ¬(1 : Int) = 0 by decide), Duo.enqueueEvent_others1]
  rfl

/-- Attaching both players leaves an attached pair in which only the announcement is queued. -/
theorem attachLink_toPair (gba0 gba1 : Gba) :
    ∃ gba otherModes cycle, attachLink gba0 gba1 =
      (announced1 (attachedBoth gba gba1 gba0.mode otherModes cycle)).toPair.resetSchedule 1 := by
  obtain ⟨gba, otherModes, cycle, hfirst⟩ := driverReset_first gba0 gba1
  refine ⟨gba, otherModes, cycle, ?_⟩
  have hsync : (attachedFirst gba gba1 gba0.mode otherModes cycle).modifyCoordinator
      (fun c => { c with syncArmed := false }) =
        attachedFirst gba gba1 gba0.mode otherModes cycle := rfl
  have hid : ((attachedFirst gba gba1 gba0.mode otherModes cycle).drivers 1).lockstepId = 0 := rfl
  unfold attachLink
  rw [hfirst]
  unfold Pair.driverReset
  simp only [hsync, hid, if_true]
  rw [joinPlayer_second, announcePlayer_toPair1]

end DualBoy.Lockstep
