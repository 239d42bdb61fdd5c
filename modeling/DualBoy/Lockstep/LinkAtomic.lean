import DualBoy.Lockstep.LinkState
import DualBoy.Lockstep.Table

/-!
# Restoring a link is atomic

`mgba_unserialize_link` validates both payloads before it loads one, and loads the secondary before
player 0. The validator reads of the pair only who is seated where (`SameSeats`), which a load does
not change, and it is at least as strict as every check the loader makes. So once both payloads are
accepted neither load can fail, and when the restore fails nothing was written.

* `driverLoadState_of_valid`: a validated payload is loaded.
* `validateState_congr`: the validator sees the seats alone.
* **`unserializeLink_atomic`**.
-/

namespace DualBoy.Lockstep

open DualBoy.Lib

variable [MgbaTimer]

namespace Pair

/-! ## Seats -/

/-- The same players are attached in the same places. -/
structure SameSeats (s s' : Pair) : Prop where
  lockstepId : ∀ i, (s'.drivers i).lockstepId = (s.drivers i).lockstepId
  nAttached : s'.coordinator.nAttached = s.coordinator.nAttached
  playerId : ∀ id, (s'.lookup id).map Player.playerId = (s.lookup id).map Player.playerId

theorem SameSeats.refl (s : Pair) : SameSeats s s := ⟨fun _ => rfl, rfl, fun _ => rfl⟩

theorem SameSeats.trans {s s' s'' : Pair} (h : SameSeats s s') (h' : SameSeats s' s'') :
    SameSeats s s'' where
  lockstepId := fun i => (h'.lockstepId i).trans (h.lockstepId i)
  nAttached := h'.nAttached.trans h.nAttached
  playerId := fun id => (h'.playerId id).trans (h.playerId id)

theorem sameSeats_modifyPlayer (s : Pair) (id : Nat) {f : Player → Player}
    (hf : ∀ p, (f p).playerId = p.playerId) : SameSeats s (s.modifyPlayer id f) where
  lockstepId := fun i => by
    match i with
    | 0 => rfl
    | 1 => rfl
  nAttached := rfl
  playerId := fun id' => by
    rw [lookup_modifyPlayer]
    split
    · rw [Option.map_map]
      exact congrArg (fun g => (s.lookup id').map g) (funext hf)
    · rfl

theorem sameSeats_modifyDriver (s : Pair) (i : Fin 2) {f : Driver → Driver}
    (hf : ∀ d, (f d).lockstepId = d.lockstepId) : SameSeats s (s.modifyDriver i f) := by
  match i with
  | 0 =>
    refine ⟨fun j => ?_, rfl, fun _ => rfl⟩
    match j with
    | 0 => exact hf s.driver0
    | 1 => rfl
  | 1 =>
    refine ⟨fun j => ?_, rfl, fun _ => rfl⟩
    match j with
    | 0 => rfl
    | 1 => exact hf s.driver1

theorem sameSeats_modifyGba (s : Pair) (i : Fin 2) (f : Gba → Gba) :
    SameSeats s (s.modifyGba i f) :=
  sameSeats_modifyDriver s i fun _ => rfl

theorem sameSeats_modifyCoordinator (s : Pair) {f : Coordinator → Coordinator}
    (hplayers : ∀ c, (f c).players = c.players) (hn : ∀ c, (f c).nAttached = c.nAttached) :
    SameSeats s (s.modifyCoordinator f) where
  lockstepId := fun i => by
    match i with
    | 0 => rfl
    | 1 => rfl
  nAttached := hn _
  playerId := fun id => by
    unfold lookup modifyCoordinator
    rw [hplayers]

theorem sameSeats_rescheduleForQueueHead (s : Pair) (id : Nat) :
    SameSeats s (s.rescheduleForQueueHead id) := by
  unfold rescheduleForQueueHead
  split
  · exact .refl s
  · dsimp only
    split
    · exact .refl s
    · split
      · split
        · exact .refl s
        · exact sameSeats_modifyGba s _ _
      · exact .refl s

theorem sameSeats_loadSleep (s : Pair) (id : Nat) (player : Player) (asleep : Bool) :
    SameSeats s (s.loadSleep id player asleep) := by
  have hcall : SameSeats s (if asleep ∧ ¬player.asleep then s.lockstepSleep player.driver
      else if ¬asleep ∧ player.asleep then s.lockstepWake player.driver else s) := by
    split
    · unfold lockstepSleep
      split
      · exact sameSeats_modifyDriver s _ fun _ => rfl
      · exact .refl s
    · split
      · exact sameSeats_modifyDriver s _ fun _ => rfl
      · exact .refl s
  have hwrite (t : Pair) : SameSeats t (t.modifyPlayer id fun p => { p with asleep }) :=
    sameSeats_modifyPlayer t id fun _ => rfl
  exact hcall.trans (hwrite _)

/-- **Loading a state changes no seat.** -/
theorem sameSeats_driverLoadState (s : Pair) (i : Fin 2) (attached : Bool) (data : List Byte) :
    SameSeats s (s.driverLoadState i attached data).1 := by
  unfold driverLoadState
  split
  · exact .refl s
  split
  · exact .refl s
  dsimp only
  split
  · exact .refl s
  rename_i player hlookup
  split
  · exact .refl s
  dsimp only
  -- the writes of the loader, from its last to its first
  refine .trans ?_ (sameSeats_modifyGba _ i _)
  have hcoordinator (t : Pair) : SameSeats t (if player.playerId = 0 then
      t.modifyCoordinator fun c =>
        { c with toCoordinatorState := loadedCoordinator data c.toCoordinatorState }
      else t) := by
    split
    · exact sameSeats_modifyCoordinator t (fun _ => rfl) fun _ => rfl
    · exact .refl t
  refine .trans ?_ (hcoordinator _)
  refine .trans ?_ (sameSeats_rescheduleForQueueHead _ _)
  refine .trans ?_ (sameSeats_modifyCoordinator _ (fun _ => rfl) fun _ => rfl)
  refine .trans ?_ (sameSeats_modifyPlayer _ _ fun _ => rfl)
  refine .trans ?_ (sameSeats_loadSleep _ _ _ _)
  have hmodes : SameSeats s (s.modifyPlayer (s.drivers i).lockstepId (loadedModes data)) :=
    sameSeats_modifyPlayer s _ fun _ => rfl
  split
  · exact (hmodes.trans (sameSeats_modifyGba _ i _)).trans (sameSeats_modifyGba _ i _)
  · exact hmodes.trans (sameSeats_modifyGba _ i _)

/-! ## The validator -/

/-- **The validator reads the seats alone.** -/
theorem validateState_congr {s s' : Pair} (h : SameSeats s s') (i : Fin 2) (attached : Bool)
    (data : List Byte) : s'.validateState i attached data = s.validateState i attached data := by
  have hevent (index : Nat) : s'.eventValid data index = s.eventValid data index := by
    unfold eventValid
    rw [h.nAttached]
  have hevents : s'.eventValid data = s.eventValid data := funext hevent
  have hplayer := h.playerId (s.drivers i).lockstepId
  unfold validateState
  rw [h.lockstepId, h.nAttached, hevents]
  cases hold : s.lookup (s.drivers i).lockstepId with
  | none =>
    rw [hold, Option.map_none, Option.map_eq_none_iff] at hplayer
    rw [hplayer]
  | some player =>
    rw [hold, Option.map_some, Option.map_eq_some_iff] at hplayer
    obtain ⟨player', hnew, hid⟩ := hplayer
    rw [hnew]
    dsimp only
    unfold headerValid coordinatorValid
    rw [hid, h.nAttached]

/-- **The validator is as strict as the loader.** -/
theorem driverLoadState_of_valid {s : Pair} {i : Fin 2} {attached : Bool} {data : List Byte}
    (h : s.validateState i attached data = true) : (s.driverLoadState i attached data).2 = true := by
  have hvalid := h
  unfold validateState at hvalid
  split at hvalid
  · cases hvalid
  split at hvalid
  · cases hvalid
  rename_i hn
  split at hvalid
  · cases hvalid
  rename_i player hlookup
  split at hvalid
  · cases hvalid
  rename_i hid
  simp only [Bool.and_eq_true] at hvalid
  obtain ⟨⟨hheader, -⟩, -⟩ := hvalid
  unfold headerValid at hheader
  simp only [Bool.and_eq_true, decide_eq_true_eq] at hheader
  have hversion : ¬driverStateVersion.toNat < (load32 data 0).toNat := by
    rw [hheader.1.1.1.1.1.1.1.1.1.1.1]
    exact Nat.lt_irrefl _
  have hplayerId : (load32 data 0x30).toInt = player.playerId := by
    rw [hheader.1.1.1.1.1.1.1.2]
    unfold maxGbas at hn
    rw [BitVec.toInt_ofInt, Int.bmod_eq_of_le]
    · omega
    · omega
  unfold driverLoadState
  rw [h, if_neg (by decide), if_neg hversion]
  dsimp only
  rw [hlookup]
  dsimp only
  rw [if_neg (not_not_intro hplayerId)]

end Pair

namespace MgbaPair

/-- **Both loads succeed once both payloads are accepted**, the second one behind the writes of the
first. -/
theorem loads_of_valid {p : MgbaPair} {payload0 payload1 : List Byte}
    (h0 : p.lockstepPayloadValid payload0 0 = true) (h1 : p.lockstepPayloadValid payload1 1 = true) :
    (p.lockstep.driverLoadState 1 (p.attached 1) payload1).2 = true ∧
      ((p.lockstep.driverLoadState 1 (p.attached 1) payload1).1.driverLoadState 0 (p.attached 0)
        payload0).2 = true := by
  unfold lockstepPayloadValid at h0 h1
  have hseats := Pair.sameSeats_driverLoadState p.lockstep 1 (p.attached 1) payload1
  have hsecond := Pair.validateState_congr hseats 0 (p.attached 0) payload0
  rw [(Bool.and_eq_true_iff.mp h0).2] at hsecond
  exact ⟨Pair.driverLoadState_of_valid (Bool.and_eq_true_iff.mp h1).2,
    Pair.driverLoadState_of_valid hsecond⟩

theorem loadBoth_of_valid {p : MgbaPair} {payload0 payload1 : List Byte}
    (h0 : p.lockstepPayloadValid payload0 0 = true) (h1 : p.lockstepPayloadValid payload1 1 = true) :
    (p.loadBoth payload0 payload1).2 = true := by
  obtain ⟨hfirst, hsecond⟩ := loads_of_valid h0 h1
  unfold loadBoth
  split
  · rename_i s hload
    rw [hload] at hfirst
    cases hfirst
  · rename_i s hload
    rw [hload] at hsecond
    exact hsecond

/-- **Link-state restore is atomic.** One that fails leaves the pair as it was; for once both payloads
are accepted, both loads succeed. -/
theorem unserializeLink_atomic (p : MgbaPair) :
    (∀ data : List Byte, (p.unserializeLink data).2 = false → (p.unserializeLink data).1 = p) ∧
      ∀ payload0 payload1 : List Byte, p.lockstepPayloadValid payload0 0 = true →
        p.lockstepPayloadValid payload1 1 = true →
        (p.lockstep.driverLoadState 1 (p.attached 1) payload1).2 = true ∧
        ((p.lockstep.driverLoadState 1 (p.attached 1) payload1).1.driverLoadState 0 (p.attached 0)
          payload0).2 = true := by
  refine ⟨?_, fun payload0 payload1 h0 h1 => loads_of_valid h0 h1⟩
  intro data h
  unfold unserializeLink at h ⊢
  split
  · rfl
  rename_i hheader
  rw [if_neg hheader] at h
  dsimp only at h ⊢
  split
  · rfl
  rename_i hflags
  rw [if_neg hflags] at h
  split
  · rfl
  rename_i henabled
  rw [if_neg henabled] at h
  split
  · rfl
  rename_i hshape
  rw [if_neg hshape] at h
  split
  · rfl
  rename_i hvalid
  rw [if_neg hvalid] at h
  simp only [not_or, Decidable.not_not] at hvalid
  rw [loadBoth_of_valid hvalid.1 hvalid.2] at h
  cases h

end MgbaPair

end DualBoy.Lockstep
