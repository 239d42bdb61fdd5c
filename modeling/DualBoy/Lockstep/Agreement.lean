import DualBoy.Lockstep.Deadlock

/-!
# Barriers, acknowledgements and transfer data

What a barrier is for: it is acknowledged by the event it was raised for, and the words a finish
callback returns are the ones both players sampled for that transfer. Both are said of the ghost
trace. The code keeps one untagged bit per player, so an event left over from before the barrier
acknowledges it as well; `Untangled` says of a step, by the state it is taken in, that no event of
player 0 gets between player 1 and the barrier. Along such steps both properties hold.
-/

namespace DualBoy.Lockstep

open DualBoy.Lib

/-! ## The trace -/

/-- The event of the barrier raised last. -/
def lastRaised : List Trace → Option Nat
  | [] => none
  | .raised serial :: _ => some serial
  | _ :: trace => lastRaised trace

/-- Every barrier was taken down by the event it was raised for. -/
def Honoured : List Trace → Prop
  | [] => True
  | .cleared _ serial :: trace => lastRaised trace = some serial ∧ Honoured trace
  | _ :: trace => Honoured trace

/-- The transfer a player sampled its word for last. -/
def lastTransfer (playerId : Int) : List Trace → Option Nat
  | [] => none
  | .sampled p transfer _ :: trace =>
    if p = playerId then some transfer else lastTransfer playerId trace
  | _ :: trace => lastTransfer playerId trace

/-- Every word handed to a player was sampled by its sender for the transfer the player is in. -/
def Agreement : List Trace → Prop
  | [] => True
  | .finished playerId words :: trace =>
    (∃ transfer, lastTransfer playerId trace = some transfer ∧
      ∀ word ∈ words, .sampled word.1 transfer word.2 ∈ trace) ∧ Agreement trace
  | _ :: trace => Agreement trace

/-- The event starts a transfer. -/
def starts (event : Event) : Prop :=
  match event.type with
  | .transferStart _ => True
  | _ => False

instance (event : Event) : Decidable (starts event) := by
  unfold starts
  split <;> infer_instance

/-- The mode moves words. -/
def moves : Mode → Bool
  | .multi => true
  | .normal8 => true
  | .normal32 => true
  | _ => false

/-- The word of player `id` that a finish callback would return. -/
def CoordinatorState.word (c : CoordinatorState) (id : Nat) : BitVec 32 :=
  match c.transferMode with
  | .multi => (c.multiData.getD id 0).setWidth 32
  | _ => c.normalData.getD id 0

section

variable [Mgba]

/-! ## Steps that leave the barrier alone -/

namespace Pair

/-- An event player 0 publishes now goes to the front of player 1's queue. -/
def Leads (s : Pair) : Prop :=
  ∀ primary ∈ s.player 0, ∀ secondary ∈ s.player 1, ∀ head ∈ secondary.queue.head?,
    (cycleDelta (s.lockstepTime primary) head.timestamp).toInt < 0

/-- An event player 0 publishes now does not go to the front of player 1's queue. -/
def Follows (s : Pair) : Prop :=
  ∀ primary ∈ s.player 0, ∀ secondary ∈ s.player 1, ∀ head ∈ secondary.queue.head?,
    ¬(cycleDelta (s.lockstepTime primary) head.timestamp).toInt < 0

/-- The event of a new barrier goes to the front, any other event of player 0 does not. -/
def InPlace (s : Pair) : Prop :=
  if s.coordinator.waiting = 0 then s.Leads else s.Follows

/-- A `TRANSFER_START` waits in player 1's queue. -/
def StartPending (s : Pair) : Prop :=
  ∃ secondary ∈ s.player 1, ∃ event ∈ secondary.queue, starts event.toEvent

/-- Player `i` has transfer data to return. -/
def Received (s : Pair) (i : Fin 2) : Prop :=
  ∃ player ∈ s.player i, player.dataReceived = true

/-- A finish callback of player `i` in this mode raises a barrier in place, and returns data only
once player 1 has taken its part in the transfer. -/
def Finishes (s : Pair) (i : Fin 2) (mode : Mode) (returns : Prop) : Prop :=
  s.coordinator.transferMode = mode →
    (returns → s.Received i → ¬s.StartPending) ∧
    (i = 0 → s.coordinator.syncArmed = true → s.coordinator.waiting = 0 → s.Leads)

/-- The clock owner's next hard sync is due. -/
def HardSyncDue (s : Pair) : Prop :=
  ∃ primary ∈ s.player 0, 0 ≤ (cycleDelta (s.lockstepTime primary) s.coordinator.cycle).toInt ∧
    (s.advanceCycle primary).coordinator.syncArmed = true ∧
    (s.advanceCycle primary).coordinator.nextHardSync.toInt < 0

/-- Player 0's queue loop is about to answer an `ATTACH`. -/
def AttachDue (s : Pair) : Prop :=
  ∃ primary ∈ s.player 0, ∃ event ∈ primary.queue.takeWhile fun event =>
    Duo.due event (s.lockstepTime primary), event.type = .attach

/-- The step lets no event of player 0 get between player 1 and the barrier, mixes no two transfers,
and returns no data before player 1 has sampled its own. -/
def Untangled (s : Pair) : Action → Prop
  | .setMode i mode =>
    i = 0 → (s.drivers 0).loadingMachineState = false →
      (∀ primary ∈ s.player 0, mode ≠ primary.mode) →
      s.InPlace ∧ ¬s.StartPending ∧ ¬s.Received 0 ∧ ¬s.Received 1
  | .start i => i = 0 → s.coordinator.transferActive = false → s.InPlace ∧ ¬s.StartPending
  | .finishMultiplayer i _ => s.Finishes i .multi True
  | .finishNormal8 i => s.Finishes i .normal8 (i = 1)
  | .finishNormal32 i => s.Finishes i .normal32 (i = 1)
  | .lockstepEvent i _ =>
    i = 0 → (s.HardSyncDue → s.coordinator.waiting = 0 → s.Leads) ∧
      (s.AttachDue → s.coordinator.waiting ≠ 0 → s.Follows)
  | .run _ _ _ => True
  | .reset _ => True

section Decidable

instance (s : Pair) : Decidable s.Leads :=
  inferInstanceAs (Decidable (∀ primary ∈ s.player 0, ∀ secondary ∈ s.player 1,
    ∀ head ∈ secondary.queue.head?, (cycleDelta (s.lockstepTime primary) head.timestamp).toInt < 0))

instance (s : Pair) : Decidable s.Follows :=
  inferInstanceAs (Decidable (∀ primary ∈ s.player 0, ∀ secondary ∈ s.player 1,
    ∀ head ∈ secondary.queue.head?, ¬(cycleDelta (s.lockstepTime primary) head.timestamp).toInt < 0))

instance (s : Pair) : Decidable s.InPlace :=
  inferInstanceAs (Decidable (if s.coordinator.waiting = 0 then s.Leads else s.Follows))

instance (s : Pair) : Decidable s.StartPending :=
  inferInstanceAs (Decidable (∃ secondary ∈ s.player 1, ∃ event ∈ secondary.queue,
    starts event.toEvent))

instance (s : Pair) (i : Fin 2) : Decidable (s.Received i) :=
  inferInstanceAs (Decidable (∃ player ∈ s.player i, player.dataReceived = true))

instance (s : Pair) (i : Fin 2) (mode : Mode) (returns : Prop) [Decidable returns] :
    Decidable (s.Finishes i mode returns) :=
  inferInstanceAs (Decidable (_ → (_ → _ → ¬_) ∧ (_ → _ → _ → _)))

instance (s : Pair) : Decidable s.HardSyncDue :=
  inferInstanceAs (Decidable (∃ primary ∈ s.player 0, _ ∧ _ ∧ _))

instance (s : Pair) : Decidable s.AttachDue :=
  inferInstanceAs (Decidable (∃ primary ∈ s.player 0, ∃ event ∈ List.takeWhile _ _, _))

instance (s : Pair) : (a : Action) → Decidable (s.Untangled a)
  | .setMode _ _ => inferInstanceAs (Decidable (_ → _ → _ → _ ∧ ¬_ ∧ ¬_ ∧ ¬_))
  | .start _ => inferInstanceAs (Decidable (_ → _ → _ ∧ ¬_))
  | .finishMultiplayer i _ => inferInstanceAs (Decidable (s.Finishes i .multi True))
  | .finishNormal8 i => inferInstanceAs (Decidable (s.Finishes i .normal8 (i = 1)))
  | .finishNormal32 i => inferInstanceAs (Decidable (s.Finishes i .normal32 (i = 1)))
  | .lockstepEvent _ _ => inferInstanceAs (Decidable (_ → (_ → _ → _) ∧ (_ → _ → _)))
  | .run _ _ _ => isTrue trivial
  | .reset _ => isTrue trivial

end Decidable

/-- No event of the step was refused for a full queue. -/
def Accepted (s : Pair) (a : Action) : Prop :=
  (s.act a).coordinator.droppedEvents = s.coordinator.droppedEvents

instance (s : Pair) (a : Action) : Decidable (s.Accepted a) :=
  inferInstanceAs (Decidable (_ = _))

end Pair

/-! ## The invariant -/

namespace Duo

/-- Both players are in one transfer, and the words of it are the coordinator's. -/
def Shared (d : Duo) : Prop :=
  ∃ transfer, lastTransfer 0 d.ghost.trace = some transfer ∧
    lastTransfer 1 d.ghost.trace = some transfer ∧
    .sampled 0 transfer (d.coordinator.word 0) ∈ d.ghost.trace ∧
    .sampled 1 transfer (d.coordinator.word 1) ∈ d.ghost.trace

/-- What holds throughout a callback. -/
structure Consistent (d : Duo) : Prop where
  honoured : Honoured d.ghost.trace
  agreement : Agreement d.ghost.trace
  /-- A queued `TRANSFER_START` is the one of player 0's last word. -/
  started : moves d.coordinator.transferMode = true →
    ∀ event ∈ d.p1.queue, starts event.toEvent →
      lastTransfer 0 d.ghost.trace = some event.serial ∧
      .sampled 0 event.serial (d.coordinator.word 0) ∈ d.ghost.trace
  /-- Data that is there, with no `TRANSFER_START` queued, is both players' for one transfer. -/
  received : moves d.coordinator.transferMode = true →
    (d.p0.dataReceived = true ∨ d.p1.dataReceived = true) →
    (∀ event ∈ d.p1.queue, ¬starts event.toEvent) → Shared d
  multiLength : d.coordinator.multiData.length = 4
  normalLength : d.coordinator.normalData.length = 4

/-- What holds between callbacks. -/
structure Tracked (d : Duo) : Prop extends Consistent d where
  /-- A standing barrier was raised for the head of player 1's queue. -/
  head : d.coordinator.waiting ≠ 0 →
    ∃ event ∈ d.p1.queue.head?, lastRaised d.ghost.trace = some event.serial
  active : d.coordinator.transferActive = true → ∃ event ∈ d.p1.queue, starts event.toEvent

theorem attachedBoth_tracked (gba0 gba1 : Gba) (mode : Mode) (otherModes : List Mode)
    (cycle : Cycle) : Tracked (attachedBoth gba0 gba1 mode otherModes cycle) where
  honoured := trivial
  agreement := trivial
  head := fun hne => absurd rfl hne
  started := by simp [attachedBoth, joined]
  received := by simp [attachedBoth, joined]
  active := fun ht => absurd ht Bool.false_ne_true
  multiLength := rfl
  normalLength := rfl

/-! ### Clocks, sleep and registers -/

theorem Consistent.wake0 {d : Duo} (h : Consistent d) : Consistent d.wake0 := by
  unfold Duo.wake0
  split
  · exact { h with }
  · exact h

theorem Consistent.sleep1 {d : Duo} (h : Consistent d) : Consistent d.sleep1 := by
  unfold Duo.sleep1
  split
  · exact h
  · exact { h with }

theorem Tracked.wake1 {d : Duo} (h : Tracked d) : Tracked d.wake1 := by
  unfold Duo.wake1
  split
  · exact { h with }
  · exact h

theorem Tracked.sleep0 {d : Duo} (h : Tracked d) : Tracked d.sleep0 := by
  unfold Duo.sleep0
  split
  · exact h
  · exact { h with }

theorem Tracked.sleep1 {d : Duo} (h : Tracked d) : Tracked d.sleep1 := by
  unfold Duo.sleep1
  split
  · exact h
  · exact { h with }

theorem Tracked.advance {d : Duo} (h : Tracked d) : Tracked d.advance := by
  unfold Duo.advance
  dsimp only
  split
  · exact h
  · exact { h with }

theorem Tracked.wakeIdle {d : Duo} (h : Tracked d) : Tracked d.wakeIdle := by
  unfold Duo.wakeIdle
  split
  · exact h
  · exact h.wake1

theorem Tracked.modifyGba0 {d : Duo} (h : Tracked d) (f : Gba → Gba) : Tracked (d.modifyGba0 f) :=
  { h with }

theorem Tracked.modifyGba1 {d : Duo} (h : Tracked d) (f : Gba → Gba) : Tracked (d.modifyGba1 f) :=
  { h with }

theorem Tracked.setReady0 {d : Duo} (h : Tracked d) (id : Nat) (mode : Mode) :
    Tracked (d.setReady0 id mode) := { h with }

theorem Tracked.setReady1 {d : Duo} (h : Tracked d) (id : Nat) (mode : Mode) :
    Tracked (d.setReady1 id mode) := { h with }

omit [Mgba] in
theorem pushNoted_eq (c : CoordinatorState) (p : PlayerState) :
    ∃ maxQueueDepth, pushNoted c p = { c with maxQueueDepth } := by
  unfold pushNoted
  split
  · exact ⟨_, rfl⟩
  · exact ⟨c.maxQueueDepth, rfl⟩

theorem Tracked.post0 {d : Duo} (h : Tracked d) (event : Event) : Tracked (d.post0 event).1 := by
  unfold Duo.post0
  split
  · exact { h with }
  · obtain ⟨maxQueueDepth, hc⟩ := pushNoted_eq d.coordinator d.p0
    rw [hc]
    exact { h with }

/-! ### Publishing to player 1 -/

/-- An event that starts no transfer, and does not go to the front while a barrier stands. -/
theorem Tracked.post1 {d : Duo} (h : Tracked d) {event : Event} (hstart : ¬starts event)
    (hfollow : d.coordinator.waiting ≠ 0 → ∀ head ∈ d.p1.queue.head?,
      ¬(cycleDelta event.timestamp head.timestamp).toInt < 0) : Tracked (d.post1 event).1 := by
  unfold Duo.post1
  split
  · exact { h with }
  rename_i slot rest _
  obtain ⟨maxQueueDepth, hc⟩ := pushNoted_eq d.coordinator d.p1
  rw [hc]
  have hmem (e : QueuedEvent) : e ∈ insertBefore (Pair.precedes (d.queued event slot))
      (d.queued event slot) d.p1.queue ↔ e = d.queued event slot ∨ e ∈ d.p1.queue :=
    mem_insertBefore
  exact
    { h with
      head := fun hne => by
        obtain ⟨e, he, hraised⟩ := h.head hne
        obtain ⟨queue, hq⟩ : ∃ queue, d.p1.queue = e :: queue := by
          cases hc : d.p1.queue with
          | nil => simp [hc] at he
          | cons x xs => exact ⟨xs, by simpa [hc] using he⟩
        have hnot : Pair.precedes (d.queued event slot) e = false :=
          decide_eq_false (hfollow hne e he)
        refine ⟨e, ?_, hraised⟩
        change e ∈ (insertBefore (Pair.precedes (d.queued event slot)) (d.queued event slot)
          d.p1.queue).head?
        rw [hq, insertBefore_cons_of_not hnot]
        rfl
      started := fun hm e he hs => by
        rcases (hmem e).mp he with rfl | he
        · exact absurd hs hstart
        · exact h.started hm e he hs
      received := fun hm hr hnone =>
        h.received hm hr fun e he => hnone e ((hmem e).mpr (Or.inr he))
      active := fun ht => by
        obtain ⟨e, he, hs⟩ := h.active ht
        exact ⟨e, (hmem e).mpr (Or.inr he), hs⟩ }

/-- An accepted event that precedes the whole queue's head is the new head. -/
theorem head_post1 {d : Duo} {event : Event} (hqueued : (d.post1 event).2 = true)
    (hlead : ∀ head ∈ d.p1.queue.head?, (cycleDelta event.timestamp head.timestamp).toInt < 0) :
    ∃ e ∈ (d.post1 event).1.p1.queue.head?, e.serial = (d.post1 event).1.ghost.published := by
  revert hqueued
  unfold Duo.post1
  split
  · simp
  rename_i slot rest _
  intro _
  refine ⟨d.queued event slot, ?_, rfl⟩
  change d.queued event slot ∈ (insertBefore (Pair.precedes (d.queued event slot))
    (d.queued event slot) d.p1.queue).head?
  cases hq : d.p1.queue with
  | nil => rfl
  | cons e queue =>
    have hbefore : Pair.precedes (d.queued event slot) e = true :=
      decide_eq_true (hlead e (by rw [hq]; rfl))
    simp [insertBefore, hbefore]

/-- The barrier is raised for the event at the head. -/
theorem Tracked.raise {d : Duo} (h : Tracked d)
    (hhead : ∃ e ∈ d.p1.queue.head?, e.serial = d.ghost.published) : Tracked d.raise :=
  { h with
    head := fun _ => by
      obtain ⟨e, he, hserial⟩ := hhead
      exact ⟨e, he, congrArg some hserial.symm⟩
    started := fun hm e he hs => by
      obtain ⟨hlast, hsampled⟩ := h.started hm e he hs
      exact ⟨hlast, List.mem_cons_of_mem _ hsampled⟩
    received := fun hm hr hnone => by
      obtain ⟨transfer, h0, h1, hs0, hs1⟩ := h.received hm hr hnone
      exact ⟨transfer, h0, h1, List.mem_cons_of_mem _ hs0, List.mem_cons_of_mem _ hs1⟩ }

@[simp] theorem ghost_advance (d : Duo) : d.advance.ghost = d.ghost := by
  unfold Duo.advance
  dsimp only
  split <;> rfl

theorem Tracked.wait {d : Duo} (h : Tracked d)
    (hhead : ∃ e ∈ d.p1.queue.head?, e.serial = d.ghost.published) : Tracked d.wait := by
  have hchecked : Tracked d.checked := { h with }
  unfold Duo.wait
  refine (hchecked.advance.raise ?_).sleep0.wake1
  rw [queue1_advance, ghost_advance]
  exact hhead

/-- Publish, and wait. -/
theorem Tracked.barrier {d : Duo} (h : Tracked d) {event : Event} (hstart : ¬starts event)
    (hw : d.coordinator.waiting = 0)
    (hlead : ∀ head ∈ d.p1.queue.head?, (cycleDelta event.timestamp head.timestamp).toInt < 0)
    (hqueued : (d.post1 event).2 = true) (f : Gba → Gba) :
    Tracked ((d.post1 event).1.modifyGba0 f).wait :=
  ((h.post1 hstart fun hne => absurd hw hne).modifyGba0 f).wait (head_post1 hqueued hlead)

theorem Tracked.hardSync {d : Duo} (h : Tracked d) (hw : d.coordinator.waiting = 0)
    (hlead : ∀ head ∈ d.p1.queue.head?, (cycleDelta d.time0 head.timestamp).toInt < 0) :
    Tracked d.hardSync := by
  have hstart : ¬starts { type := .hardSync, playerId := 0, timestamp := d.time0 } := fun hs => hs
  unfold Duo.hardSync
  dsimp only
  split
  · rename_i hqueued
    exact h.barrier hstart hw hlead hqueued id
  · exact h.post1 hstart fun hne => absurd hw hne

/-! ### Sampling -/

theorem word_stored {c : CoordinatorState} {id : Nat} {gba : Gba} {word : BitVec 32}
    (hw : gba.sioWord c.transferMode = some word) (hid : id < 4) (hmulti : c.multiData.length = 4)
    (hnormal : c.normalData.length = 4) : (stored c id gba).word id = word := by
  unfold stored CoordinatorState.word
  unfold Gba.sioWord at hw
  cases hm : c.transferMode <;> simp [hm, List.getD_eq_getElem?_getD, hid, hmulti, hnormal] at hw ⊢
  all_goals exact hw

theorem word_stored_of_ne {c : CoordinatorState} {id id' : Nat} {gba : Gba} (h : id ≠ id') :
    (stored c id gba).word id' = c.word id' := by
  unfold stored CoordinatorState.word
  cases hm : c.transferMode <;> simp [hm, List.getD_eq_getElem?_getD, List.getElem?_set, h]

@[simp] theorem stored_multiLength (c : CoordinatorState) (id : Nat) (gba : Gba) :
    (stored c id gba).multiData.length = c.multiData.length := by
  unfold stored
  cases c.transferMode <;> simp

@[simp] theorem stored_normalLength (c : CoordinatorState) (id : Nat) (gba : Gba) :
    (stored c id gba).normalData.length = c.normalData.length := by
  unfold stored
  cases c.transferMode <;> simp

theorem sioWord_of_moves {mode : Mode} (h : moves mode = true) (gba : Gba) :
    ∃ word, gba.sioWord mode = some word := by
  cases mode <;> first | exact absurd h Bool.false_ne_true | exact ⟨_, rfl⟩

theorem sioWord_of_not_moves {mode : Mode} (h : moves mode = false) (gba : Gba) :
    gba.sioWord mode = none := by
  cases mode <;> first | rfl | exact absurd h.symm Bool.false_ne_true

omit [Mgba] in
theorem lastRaised_sampledTrace (g : Ghost) (word : Option (BitVec 32)) (playerId : Int)
    (transfer : Nat) :
    lastRaised (sampledTrace g word playerId transfer).trace = lastRaised g.trace := by
  cases word <;> rfl

omit [Mgba] in
@[simp] theorem sampledTrace_current (g : Ghost) (word : Option (BitVec 32)) (playerId : Int)
    (transfer : Nat) : (sampledTrace g word playerId transfer).current = g.current := by
  cases word <;> rfl

/-! ### What player 1 does with an event -/

/-- Player 1 samples its word for a `TRANSFER_START`. -/
theorem Consistent.sampled {d : Duo} (h : Consistent d) {event : QueuedEvent}
    {rest : List QueuedEvent} (hq : d.p1.queue = event :: rest) (hs : starts event.toEvent) :
    let d' := (d.taken1 event rest).sample1 event.serial
    Consistent d' ∧ (moves d'.coordinator.transferMode = true → Shared d') := by
  intro d'
  have hmode : d'.coordinator.transferMode = d.coordinator.transferMode := stored_transferMode _ _ _
  have hmulti : d'.coordinator.multiData.length = 4 :=
    (stored_multiLength _ _ _).trans h.multiLength
  have hnormal : d'.coordinator.normalData.length = 4 :=
    (stored_normalLength _ _ _).trans h.normalLength
  cases hm : moves d.coordinator.transferMode with
  | false =>
    -- A mode that moves no words: nothing is sampled.
    have hghost : d'.ghost.trace = d.ghost.trace := by
      simp [d', Duo.sample1, Duo.taken1, sampledTrace, sioWord_of_not_moves hm]
    have hnot {p : Prop} (hm' : moves d'.coordinator.transferMode = true) : p := by
      rw [hmode, hm] at hm'
      exact absurd hm' Bool.false_ne_true
    exact
      ⟨{ honoured := hghost ▸ h.honoured
         agreement := hghost ▸ h.agreement
         started := fun hm' => hnot hm'
         received := fun hm' => hnot hm'
         multiLength := hmulti
         normalLength := hnormal }, fun hm' => hnot hm'⟩
  | true =>
    obtain ⟨word, hword⟩ := sioWord_of_moves hm d.d1.gba
    have htrace : d'.ghost.trace = .sampled 1 event.serial word :: d.ghost.trace := by
      simp [d', Duo.sample1, Duo.taken1, sampledTrace, hword]
    have hword0 : d'.coordinator.word 0 = d.coordinator.word 0 :=
      word_stored_of_ne (by decide)
    have hword1 : d'.coordinator.word 1 = word :=
      word_stored hword (by decide) h.multiLength h.normalLength
    have hlast0 : lastTransfer 0 d'.ghost.trace = lastTransfer 0 d.ghost.trace := by
      rw [htrace]
      rfl
    have hlast1 : lastTransfer 1 d'.ghost.trace = some event.serial := by
      rw [htrace]
      rfl
    have hstarted : ∀ e ∈ event :: rest, starts e.toEvent →
        lastTransfer 0 d'.ghost.trace = some e.serial ∧
        .sampled 0 e.serial (d'.coordinator.word 0) ∈ d'.ghost.trace := by
      intro e he hse
      obtain ⟨hlast, hsampled⟩ := h.started hm e (hq ▸ he) hse
      rw [hlast0, hword0, htrace]
      exact ⟨hlast, List.mem_cons_of_mem _ hsampled⟩
    have hshared : Shared d' := by
      obtain ⟨hlast, hsampled⟩ := hstarted event List.mem_cons_self hs
      refine ⟨event.serial, hlast, hlast1, hsampled, ?_⟩
      rw [hword1, htrace]
      exact List.mem_cons_self
    exact
      ⟨{ honoured := by
           rw [htrace]
           exact h.honoured
         agreement := by
           rw [htrace]
           exact h.agreement
         started := fun _ e he hse => hstarted e (List.mem_cons_of_mem _ he) hse
         received := fun _ _ _ => hshared
         multiLength := hmulti
         normalLength := hnormal }, fun _ => hshared⟩

/-- Taking an event that starts no transfer. -/
theorem Consistent.taken {d : Duo} (h : Consistent d) {event : QueuedEvent}
    {rest : List QueuedEvent} (hq : d.p1.queue = event :: rest) (hs : ¬starts event.toEvent) :
    Consistent (d.taken1 event rest) :=
  { h with
    started := fun hm e he => h.started hm e (hq ▸ List.mem_cons_of_mem _ he)
    received := fun hm hr hnone => h.received hm hr fun e he => by
      rcases List.mem_cons.mp (hq ▸ he) with rfl | he
      · exact hs
      · exact hnone e he }

/-- The barrier comes down; a transfer on its way is declared complete. -/
theorem Consistent.ack {d : Duo} (h : Consistent d) (hcore : Core d)
    (hcurrent : d.coordinator.waiting ≠ 0 → lastRaised d.ghost.trace = some d.ghost.current)
    (hready : d.coordinator.transferActive = true → moves d.coordinator.transferMode = true →
      (∀ event ∈ d.p1.queue, ¬starts event.toEvent) → Shared d) : Consistent d.ack := by
  rcases hcore.bit with hw | hw
  · rwa [ack_of_waiting_eq_zero hw]
  rw [ack_of_waiting_eq_target hw]
  have hshared : Shared d → Shared d.lower := by
    rintro ⟨transfer, h0, h1, hs0, hs1⟩
    exact ⟨transfer, h0, h1, List.mem_cons_of_mem _ hs0, List.mem_cons_of_mem _ hs1⟩
  have hlower : Consistent d.lower :=
    { h with
      honoured := ⟨hcurrent (hw ▸ target1_ne_zero), h.honoured⟩
      started := fun hm e he hs => by
        obtain ⟨hlast, hsampled⟩ := h.started hm e he hs
        exact ⟨hlast, List.mem_cons_of_mem _ hsampled⟩
      received := fun hm hr hnone => hshared (h.received hm hr hnone) }
  refine Consistent.sleep1 (Consistent.wake0 ?_)
  split
  · rename_i ht
    exact { hlower with received := fun hm _ hnone => hshared (hready ht hm hnone) }
  · exact hlower

/-- **One turn of player 1.** The barrier, if one stands, was raised for this very event. -/
theorem Tracked.turn1 {d : Duo} (h : Tracked d) (hd : Scheduled d) {event : QueuedEvent}
    {rest : List QueuedEvent} (hq : d.p1.queue = event :: rest) (cyclesLate : BitVec 32) :
    Tracked (d.turn1 event rest cyclesLate) := by
  have hev := hd.acknowledged1 event (hq ▸ List.mem_cons_self)
  have hcore := hd.toCore.taken1 hq
  have hraised : d.coordinator.waiting ≠ 0 → lastRaised d.ghost.trace = some event.serial := by
    intro hne
    obtain ⟨e, he, hraised⟩ := h.head hne
    rw [hq] at he
    obtain rfl : event = e := by simpa using he
    exact hraised
  have hdown := waiting_turn1 hd hq cyclesLate
  have hidle : (d.turn1 event rest cyclesLate).coordinator.transferActive = false :=
    Bool.eq_false_iff.mpr fun ht => (hd.turn1 hq cyclesLate).active ht hdown
  -- Another event than a `TRANSFER_START` leaves the transfer where it is.
  have hother (hs : ¬starts event.toEvent) (ht : d.coordinator.transferActive = true)
      (hnone : ∀ e ∈ rest, ¬starts e.toEvent) : False := by
    obtain ⟨e, he, hse⟩ := h.active ht
    rcases List.mem_cons.mp (hq ▸ he) with rfl | he
    · exact hs hse
    · exact hnone e he hse
  have hconsistent : Consistent ((d.taken1 event rest).handle1 event cyclesLate) := by
    unfold handle1
    unfold acknowledged at hev
    cases htype : event.type with
    | attach => simp [htype] at hev
    | detach => simp [htype] at hev
    | hardSync =>
      have hs : ¬starts event.toEvent := by simp [starts, htype]
      exact (h.toConsistent.taken hq hs).ack hcore hraised fun ht _ hnone =>
        (hother hs ht hnone).elim
    | modeSet mode =>
      have hs : ¬starts event.toEvent := by simp [starts, htype]
      have hready : Consistent ((d.taken1 event rest).setReady1 0 mode) :=
        { h.toConsistent.taken hq hs with }
      exact hready.ack (hcore.setReady1 0 mode) hraised fun ht _ hnone => (hother hs ht hnone).elim
    | transferStart finishCycle =>
      have hs : starts event.toEvent := by simp [starts, htype]
      obtain ⟨hsampled, hshared⟩ := h.toConsistent.sampled hq hs
      let delay := sanitizeDelay
        (delayAfterLateness (cycleDelta finishCycle (d.taken1 event rest).time1) cyclesLate)
      have hready : Consistent (((d.taken1 event rest).sample1 event.serial).modifyGba1 fun g =>
        completing g delay) := { hsampled with }
      refine hready.ack ((hcore.sample1 _).modifyGba1 _) (fun hne => ?_) fun _ hm _ => hshared hm
      change lastRaised (sampledTrace _ _ _ _).trace = some (sampledTrace _ _ _ _).current
      rw [lastRaised_sampledTrace, sampledTrace_current]
      refine hraised fun hw => hne ?_
      exact (stored_waiting _ _ _).trans hw
  exact
    { hconsistent with
      head := fun hne => absurd hdown hne
      active := fun ht => absurd (hidle.symm.trans ht) Bool.false_ne_true }

theorem Tracked.loop1 (cyclesLate : BitVec 32) :
    ∀ {queue : List QueuedEvent} {d : Duo}, Tracked d → Scheduled d → d.p1.queue = queue →
      Tracked (d.loop1 cyclesLate queue)
  | [], _, h, _, _ => h
  | event :: rest, d, h, hd, hq => by
    unfold Duo.loop1
    split
    · exact (h.turn1 hd hq cyclesLate).loop1 cyclesLate (hd.turn1 hq cyclesLate)
        (queue1_turn1 _ _ _ _)
    · exact h

/-! ### What player 0 does with an event -/

/-- Player 0's queue loop is about to answer an `ATTACH`. -/
def attachDue (time : Cycle) (queue : List QueuedEvent) : Prop :=
  ∃ event ∈ queue.takeWhile fun event => due event time, event.type = .attach

/-- Player 0's events do not go to the front of player 1's queue. -/
def Follows (d : Duo) : Prop :=
  ∀ head ∈ d.p1.queue.head?, ¬(cycleDelta d.time0 head.timestamp).toInt < 0

theorem Tracked.turn0 {d : Duo} (h : Tracked d) {event : QueuedEvent} {rest : List QueuedEvent}
    (hfollow : event.type = .attach → d.coordinator.waiting ≠ 0 → d.Follows) :
    Tracked (d.turn0 event rest) := by
  have hhandle : Tracked ((d.taken0 event rest).handle0 event) := by
    have htaken : Tracked (d.taken0 event rest) := { h with }
    unfold handle0
    split
    · rename_i htype
      exact ((htaken.setReady0 1 .none).modifyGba0 _).post1 (fun hs => hs)
        fun hne => hfollow htype hne
    · exact htaken.setReady0 1 _
    · exact htaken
  exact { hhandle with }

/-- An event stamped now stays behind the head. -/
theorem Follows.post1 {d : Duo} (h : d.Follows) {event : Event} (hev : event.timestamp = d.time0) :
    (d.post1 event).1.Follows := by
  unfold Follows
  rw [time0_post1]
  unfold Duo.post1
  split
  · exact h
  rename_i slot rest _
  change ∀ head ∈ (insertBefore (Pair.precedes (d.queued event slot)) (d.queued event slot)
    d.p1.queue).head?, _
  cases hq : d.p1.queue with
  | nil =>
    intro head hhead
    obtain rfl : d.queued event slot = head := by simpa [insertBefore] using hhead
    rw [show (d.queued event slot).timestamp = d.time0 from hev, cycleDelta_eq, BitVec.sub_self]
    decide
  | cons e queue =>
    have hnot := h e (by rw [hq]; rfl)
    have hstop : Pair.precedes (d.queued event slot) e = false :=
      decide_eq_false (show ¬(cycleDelta event.timestamp e.timestamp).toInt < 0 from hev ▸ hnot)
    rw [insertBefore_cons_of_not hstop]
    intro head hhead
    obtain rfl : e = head := by simpa using hhead
    exact hnot

theorem Follows.turn0 {d : Duo} (h : d.Follows) (event : QueuedEvent) (rest : List QueuedEvent) :
    (d.turn0 event rest).Follows := by
  have hhandle : ((d.taken0 event rest).handle0 event).Follows := by
    unfold handle0
    split
    · have hready : (((d.taken0 event rest).setReady0 1 .none).modifyGba0 fun g =>
          { g with siocnt := Mgba.multiplayerClearSlave g.siocnt }).time0 = d.time0 :=
        time0_setReady0 _ _ _
      refine Follows.post1 ?_ hready.symm
      unfold Follows
      rw [hready]
      exact h
    · unfold Follows
      rw [time0_setReady0]
      exact h
    · exact h
  exact hhandle

theorem waiting_turn0 (d : Duo) (event : QueuedEvent) (rest : List QueuedEvent) :
    (d.turn0 event rest).coordinator.waiting = d.coordinator.waiting := by
  change ((d.taken0 event rest).handle0 event).coordinator.waiting = _
  unfold handle0
  split
  · rw [waiting_post1]
    rfl
  · rfl
  · rfl

theorem Tracked.loop0 :
    ∀ {queue : List QueuedEvent} {d : Duo}, Tracked d →
      (attachDue d.time0 queue → d.coordinator.waiting ≠ 0 → d.Follows) →
      Tracked (d.loop0 queue) := by
  intro queue
  induction queue with
  | nil => exact fun h _ => h
  | cons event rest ih =>
    intro d h hfollow
    unfold Duo.loop0
    split
    · rename_i hdue
      have hhead : event.type = .attach → d.coordinator.waiting ≠ 0 → d.Follows := fun htype =>
        hfollow ⟨event, by simp [hdue], htype⟩
      refine ih (h.turn0 hhead) fun hattach hne => Follows.turn0 (hfollow ?_ ?_) _ _
      · obtain ⟨e, he, htype⟩ := hattach
        rw [time0_turn0] at he
        exact ⟨e, by simp [hdue, he], htype⟩
      · rwa [waiting_turn0] at hne
    · exact h

/-! ### The callbacks -/

/-- An event of player 0 would go to the front of player 1's queue. -/
def Leads (d : Duo) : Prop :=
  ∀ head ∈ d.p1.queue.head?, (cycleDelta d.time0 head.timestamp).toInt < 0

/-- The clock owner's next hard sync is due. -/
def HardSyncDue (d : Duo) : Prop :=
  0 ≤ (cycleDelta d.time0 d.coordinator.cycle).toInt ∧ d.advance.coordinator.syncArmed = true ∧
    d.advance.coordinator.nextHardSync.toInt < 0

/-- An event stamped now that went to the front stays there. -/
theorem Leads.post1 {d : Duo} (h : d.Leads) {event : Event} (hev : event.timestamp = d.time0)
    (hqueued : (d.post1 event).2 = true) : (d.post1 event).1.Follows := by
  unfold Follows
  rw [time0_post1]
  revert hqueued
  unfold Duo.post1
  split
  · simp
  rename_i slot rest _
  intro _
  change ∀ head ∈ (insertBefore (Pair.precedes (d.queued event slot)) (d.queued event slot)
    d.p1.queue).head?, _
  have hfront : (insertBefore (Pair.precedes (d.queued event slot)) (d.queued event slot)
      d.p1.queue).head? = some (d.queued event slot) := by
    cases hq : d.p1.queue with
    | nil => rfl
    | cons e queue =>
      have hbefore : Pair.precedes (d.queued event slot) e = true :=
        decide_eq_true (show (cycleDelta event.timestamp e.timestamp).toInt < 0 from
          hev ▸ h e (by rw [hq]; rfl))
      simp [insertBefore, hbefore]
  rw [hfront]
  intro head hhead
  obtain rfl : d.queued event slot = head := by simpa using hhead
  rw [show (d.queued event slot).timestamp = d.time0 from hev, cycleDelta_eq, BitVec.sub_self]
  decide

/-- The clock owner before its hard sync. -/
theorem coordinator_wakeIdle (d : Duo) : d.wakeIdle.coordinator = d.coordinator := by
  unfold Duo.wakeIdle
  split <;> simp

theorem queue1_wakeIdle (d : Duo) : d.wakeIdle.p1.queue = d.p1.queue := by
  unfold Duo.wakeIdle
  split <;> simp

theorem time0_wakeIdle (d : Duo) : d.wakeIdle.time0 = d.time0 := by
  unfold Duo.wakeIdle
  split <;> simp

/-- The queue and player 0's clock are the same before and after the clock owner's waking. -/
theorem leads_wakeIdle {d : Duo} (h : d.Leads) : d.advance.wakeIdle.Leads := by
  unfold Leads
  rw [queue1_wakeIdle, time0_wakeIdle, queue1_advance, time0_advance]
  exact h

theorem follows_wakeIdle {d : Duo} (h : d.Follows) : d.advance.wakeIdle.Follows := by
  unfold Follows
  rw [queue1_wakeIdle, time0_wakeIdle, queue1_advance, time0_advance]
  exact h

theorem waiting_wakeIdle (d : Duo) :
    d.advance.wakeIdle.coordinator.waiting = d.coordinator.waiting := by
  rw [coordinator_wakeIdle, waiting_advance]

@[simp] theorem time0_hardSync (d : Duo) : d.hardSync.time0 = d.time0 := by
  unfold Duo.hardSync
  dsimp only
  split
  · rw [time0_wait, time0_post1]
  · exact time0_post1 _ _

theorem time0_syncIdle (d : Duo) : d.syncIdle.time0 = d.time0 := by
  unfold syncIdle
  split
  · exact time0_hardSync d
  · rfl

theorem time0_syncDeferred (d : Duo) : d.syncDeferred.time0 = d.time0 := rfl

theorem time0_ownClock0 (d : Duo) : d.ownClock0.time0 = d.time0 := by
  unfold Duo.ownClock0 Duo.syncIfDue
  split
  · split
    · rw [time0_syncDeferred, time0_syncIdle, time0_wakeIdle, time0_advance]
    · rw [time0_wakeIdle, time0_advance]
  · rfl

theorem Tracked.syncDeferred {d : Duo} (h : Tracked d) : Tracked d.syncDeferred := { h with }

theorem Follows.syncDeferred {d : Duo} (h : d.Follows) : d.syncDeferred.Follows := h

theorem waiting_syncDeferred (d : Duo) :
    d.syncDeferred.coordinator.waiting = d.coordinator.waiting := rfl

theorem Tracked.ownClock0 {d : Duo} (h : Tracked d)
    (hlead : d.HardSyncDue → d.coordinator.waiting = 0 → d.Leads) : Tracked d.ownClock0 := by
  unfold Duo.ownClock0
  split
  · rename_i howner
    unfold Duo.syncIfDue
    split
    · rename_i hdue
      rw [coordinator_wakeIdle] at hdue
      have hidle : Tracked d.advance.wakeIdle.syncIdle := by
        unfold syncIdle
        split
        · rename_i hw
          rw [waiting_wakeIdle] at hw
          exact h.advance.wakeIdle.hardSync ((waiting_wakeIdle d).trans hw)
            (leads_wakeIdle (hlead ⟨howner, hdue⟩ hw))
        · exact h.advance.wakeIdle
      exact hidle.syncDeferred
    · exact h.advance.wakeIdle
  · exact h

/-- After a hard sync player 0's next event stays behind it. -/
theorem Leads.hardSync {d : Duo} (h : d.Leads)
    (hw : d.hardSync.coordinator.waiting ≠ d.coordinator.waiting) : d.hardSync.Follows := by
  revert hw
  unfold Duo.hardSync
  dsimp only
  split
  · rename_i hqueued
    intro _
    have hpost : (d.post1 { type := .hardSync, playerId := 0, timestamp := d.time0 }).1.Follows :=
      h.post1 rfl hqueued
    unfold Follows
    rw [queue1_wait, time0_wait]
    exact hpost
  · exact fun hne => absurd (waiting_post1 _ _) hne

theorem follows_ownClock0 {d : Duo} (hlead : d.HardSyncDue → d.coordinator.waiting = 0 → d.Leads)
    (hfollow : d.coordinator.waiting ≠ 0 → d.Follows)
    (hne : d.ownClock0.coordinator.waiting ≠ 0) : d.ownClock0.Follows := by
  revert hne
  unfold Duo.ownClock0
  split
  · rename_i howner
    have hstay (hne : d.advance.wakeIdle.coordinator.waiting ≠ 0) : d.advance.wakeIdle.Follows :=
      follows_wakeIdle (hfollow (waiting_wakeIdle d ▸ hne))
    unfold Duo.syncIfDue
    split
    · rename_i hdue
      rw [coordinator_wakeIdle] at hdue
      rw [waiting_syncDeferred]
      intro hne
      have hidle : d.advance.wakeIdle.syncIdle.Follows := by
        revert hne
        unfold syncIdle
        split
        · rename_i hw
          have hwd := (waiting_wakeIdle d).symm.trans hw
          exact fun hne => (leads_wakeIdle (hlead ⟨howner, hdue⟩ hwd)).hardSync fun heq =>
            hne (heq.trans hw)
        · exact hstay
      exact hidle.syncDeferred
    · exact hstay
  · exact hfollow

/-- No `TRANSFER_START` is queued. -/
def Unstarted (d : Duo) : Prop :=
  ∀ event ∈ d.p1.queue, ¬starts event.toEvent

/-- A mode change of player 0 with no transfer or data about. -/
theorem Tracked.enter0 {d : Duo} (h : Tracked d) (hpend : d.Unstarted)
    (h0 : d.p0.dataReceived = false) (h1 : d.p1.dataReceived = false) (mode : Mode) :
    Tracked (d.enter0 mode) :=
  { h with
    started := fun _ e he hs => absurd hs (hpend e he)
    received := fun _ hr _ => by
      rcases hr with hr | hr
      · exact absurd (h0.symm.trans hr) Bool.false_ne_true
      · exact absurd (h1.symm.trans hr) Bool.false_ne_true }

theorem Tracked.changeMode0 {d : Duo} (h : Tracked d) (hpend : d.Unstarted)
    (h0 : d.p0.dataReceived = false) (h1 : d.p1.dataReceived = false)
    (hlead : d.coordinator.waiting = 0 → d.Leads)
    (hfollow : d.coordinator.waiting ≠ 0 → d.Follows) (mode : Mode) :
    Tracked (d.changeMode0 mode) := by
  have henter := h.enter0 hpend h0 h1 mode
  have hstart : ¬starts { type := .modeSet mode, playerId := 0, timestamp := d.time0 } :=
    fun hs => hs
  unfold Duo.changeMode0
  dsimp only
  split
  · rename_i hqueued
    split
    · rename_i hw
      exact henter.barrier hstart hw (hlead hw) hqueued _
    · exact (henter.post1 hstart hfollow).modifyGba0 _
  · exact henter.post1 hstart hfollow

/-! #### Starting a transfer -/

theorem dropped_post1 {d : Duo} {event : Event} (h : (d.post1 event).2 = false) :
    (d.post1 event).1.coordinator.droppedEvents = d.coordinator.droppedEvents + 1 := by
  revert h
  unfold Duo.post1
  split
  · exact fun _ => rfl
  · simp

@[simp] theorem stored_droppedEvents (c : CoordinatorState) (id : Nat) (gba : Gba) :
    (stored c id gba).droppedEvents = c.droppedEvents := by
  unfold stored
  cases c.transferMode <;> rfl

/-- With player 0's word sampled, the next event published may be a `TRANSFER_START`. -/
theorem primed0_word {d : Duo} (h : Tracked d) (hm : moves d.coordinator.transferMode = true) :
    lastTransfer 0 d.primed0.ghost.trace = some (d.ghost.published + 1) ∧
      .sampled 0 (d.ghost.published + 1) (d.primed0.coordinator.word 0) ∈
        d.primed0.ghost.trace := by
  obtain ⟨word, hword⟩ := sioWord_of_moves hm d.d0.gba
  have htrace : d.primed0.ghost.trace =
      .sampled 0 (d.ghost.published + 1) word :: d.ghost.trace := by
    simp [Duo.primed0, Duo.sample0, sampledTrace, hword]
  have hslot : d.primed0.coordinator.word 0 = word :=
    word_stored hword (by decide) rfl h.normalLength
  rw [htrace, hslot]
  exact ⟨rfl, List.mem_cons_self⟩

/-- A `TRANSFER_START` is published for the word player 0 sampled. -/
theorem Tracked.postStart (d : Duo) (event : Event) (hstart : starts event)
    (honoured : Honoured d.ghost.trace) (agreement : Agreement d.ghost.trace)
    (hword : moves d.coordinator.transferMode = true →
      lastTransfer 0 d.ghost.trace = some (d.ghost.published + 1) ∧
      .sampled 0 (d.ghost.published + 1) (d.coordinator.word 0) ∈ d.ghost.trace)
    (hmulti : d.coordinator.multiData.length = 4) (hnormal : d.coordinator.normalData.length = 4)
    (hpend : d.Unstarted)
    (hhead : d.coordinator.waiting ≠ 0 →
      ∃ e ∈ d.p1.queue.head?, lastRaised d.ghost.trace = some e.serial)
    (hfollow : d.coordinator.waiting ≠ 0 → ∀ head ∈ d.p1.queue.head?,
      ¬(cycleDelta event.timestamp head.timestamp).toInt < 0)
    (hqueued : (d.post1 event).2 = true) :
    Tracked (d.post1 event).1 ∧ ∃ e ∈ (d.post1 event).1.p1.queue, starts e.toEvent := by
  revert hqueued
  unfold Duo.post1
  split
  · simp
  rename_i slot rest _
  intro _
  obtain ⟨maxQueueDepth, hc⟩ := pushNoted_eq d.coordinator d.p1
  rw [hc]
  have hmem (e : QueuedEvent) : e ∈ insertBefore (Pair.precedes (d.queued event slot))
      (d.queued event slot) d.p1.queue ↔ e = d.queued event slot ∨ e ∈ d.p1.queue :=
    mem_insertBefore
  have hnew := (hmem _).mpr (Or.inl rfl)
  refine ⟨?_, d.queued event slot, hnew, hstart⟩
  exact
    { honoured := honoured
      agreement := agreement
      started := fun hm e he hs => by
        rcases (hmem e).mp he with rfl | he
        · exact hword hm
        · exact absurd hs (hpend e he)
      received := fun _ _ hnone => absurd hstart (hnone _ hnew)
      multiLength := hmulti
      normalLength := hnormal
      head := fun hne => by
        obtain ⟨e, he, hraised⟩ := hhead hne
        obtain ⟨queue, hq⟩ : ∃ queue, d.p1.queue = e :: queue := by
          cases hc : d.p1.queue with
          | nil => simp [hc] at he
          | cons x xs => exact ⟨xs, by simpa [hc] using he⟩
        have hnot : Pair.precedes (d.queued event slot) e = false :=
          decide_eq_false (hfollow hne e he)
        refine ⟨e, ?_, hraised⟩
        change e ∈ (insertBefore (Pair.precedes (d.queued event slot)) (d.queued event slot)
          d.p1.queue).head?
        rw [hq, insertBefore_cons_of_not hnot]
        rfl
      active := fun _ => ⟨_, hnew, hstart⟩ }

theorem Tracked.activated {d : Duo} (h : Tracked d)
    (hstart : ∃ e ∈ d.p1.queue, starts e.toEvent) : Tracked d.activated := by
  unfold Duo.activated
  dsimp only
  split <;> exact { h with active := fun _ => hstart }

/-- What sampling player 0's word puts on the trace. -/
theorem trace_primed0 (d : Duo) :
    d.primed0.ghost.trace = d.ghost.trace ∨
      ∃ word, d.primed0.ghost.trace =
        .sampled 0 (d.ghost.published + 1) word :: d.ghost.trace := by
  unfold Duo.primed0 Duo.sample0 sampledTrace
  dsimp only
  split
  · exact Or.inr ⟨_, rfl⟩
  · exact Or.inl rfl

theorem published_primed0 (d : Duo) : d.primed0.ghost.published = d.ghost.published := by
  unfold Duo.primed0 Duo.sample0 sampledTrace
  dsimp only
  split <;> rfl

/-- `Start` publishes its event, and the transfer is on its way. -/
theorem Tracked.launched {d : Duo} (h : Tracked d) (hpend : d.Unstarted)
    (hfollow : d.coordinator.waiting ≠ 0 → d.Follows)
    (hqueued : (d.primed0.post1 d.transferEvent).2 = true) :
    Tracked (d.primed0.post1 d.transferEvent).1.activated := by
  have hwait : d.primed0.coordinator.waiting = d.coordinator.waiting := stored_waiting _ _ _
  have hmode : d.primed0.coordinator.transferMode = d.coordinator.transferMode :=
    stored_transferMode _ _ _
  have hraised : lastRaised d.primed0.ghost.trace = lastRaised d.ghost.trace := by
    rcases trace_primed0 d with ht | ⟨word, ht⟩ <;> rw [ht]
    rfl
  obtain ⟨htracked, hexists⟩ := Tracked.postStart d.primed0 d.transferEvent trivial
    (by rcases trace_primed0 d with ht | ⟨word, ht⟩ <;> rw [ht] <;> exact h.honoured)
    (by rcases trace_primed0 d with ht | ⟨word, ht⟩ <;> rw [ht] <;> exact h.agreement)
    (fun hm => by
      rw [published_primed0]
      exact primed0_word h (hmode ▸ hm))
    (stored_multiLength _ _ _) ((stored_normalLength _ _ _).trans h.normalLength) hpend
    (fun hne => by
      rw [hraised]
      exact h.head (hwait ▸ hne))
    (fun hne => hfollow (hwait ▸ hne)) hqueued
  exact htracked.activated hexists

theorem Tracked.start0 {d : Duo} (h : Tracked d)
    (hcond : d.coordinator.transferActive = false → d.Unstarted ∧
      (d.coordinator.waiting = 0 → d.Leads) ∧ (d.coordinator.waiting ≠ 0 → d.Follows))
    (haccepted : d.start0.coordinator.droppedEvents = d.coordinator.droppedEvents) :
    Tracked d.start0 := by
  revert haccepted
  unfold Duo.start0
  split
  · exact fun _ => h
  rename_i hidle
  obtain ⟨hpend, hlead, hfollow⟩ := hcond (Bool.eq_false_iff.mpr hidle)
  dsimp only
  split
  · rename_i hqueued
    intro _
    have hlaunched := h.launched hpend hfollow hqueued
    split
    · rename_i hw
      have hprimed : d.primed0.coordinator.waiting = d.coordinator.waiting := stored_waiting _ _ _
      have hwd : d.coordinator.waiting = 0 := by
        rwa [waiting_activated, waiting_post1, hprimed] at hw
      exact hlaunched.wait (head_post1 hqueued (hlead hwd))
    · exact hlaunched
  · rename_i hrefused
    intro haccepted
    have hdropped := dropped_post1 (Bool.eq_false_iff.mpr hrefused)
    have hprimed : d.primed0.coordinator.droppedEvents = d.coordinator.droppedEvents :=
      stored_droppedEvents _ _ _
    rw [hdropped, hprimed] at haccepted
    exact absurd haccepted (by bv_omega)

/-! #### Finishing a transfer -/

/-- Words both players sampled are handed out. -/
theorem Tracked.delivered {d : Duo} (h : Tracked d) {playerId : Int} {words : List (Int × BitVec 32)}
    (hwords : ∃ transfer, lastTransfer playerId d.ghost.trace = some transfer ∧
      ∀ word ∈ words, .sampled word.1 transfer word.2 ∈ d.ghost.trace) :
    Tracked (d.delivered playerId words) :=
  { h with
    agreement := ⟨hwords, h.agreement⟩
    started := fun hm e he hs => by
      obtain ⟨hlast, hsampled⟩ := h.started hm e he hs
      exact ⟨hlast, List.mem_cons_of_mem _ hsampled⟩
    received := fun hm hr hnone => by
      obtain ⟨transfer, h0, h1, hs0, hs1⟩ := h.received hm hr hnone
      exact ⟨transfer, h0, h1, List.mem_cons_of_mem _ hs0, List.mem_cons_of_mem _ hs1⟩ }

theorem Tracked.finished0 {d : Duo} (h : Tracked d)
    (hlead : d.coordinator.syncArmed = true → d.coordinator.waiting = 0 → d.Leads) :
    Tracked d.finished0 := by
  have hconsumed : Tracked { d with p0 := { d.p0 with dataReceived := false } } :=
    { h with
      received := fun hm hr => h.received hm (hr.elim (fun hf => absurd hf Bool.false_ne_true) Or.inr) }
  unfold Duo.finished0
  dsimp only
  split
  · exact hconsumed
  rename_i harmed
  split
  · exact { hconsumed with }
  · rename_i hw
    exact hconsumed.hardSync (not_not.mp hw) (hlead (not_not.mp harmed) (not_not.mp hw))

theorem Tracked.finished1 {d : Duo} (h : Tracked d) : Tracked d.finished1 :=
  { h with
    received := fun hm hr => h.received hm (hr.elim Or.inl fun hf => absurd hf Bool.false_ne_true) }

omit [Mgba] in
/-- The words of `MULTI` mode are the coordinator's for the two players. -/
theorem mem_multiWords {c : CoordinatorState} (hm : c.transferMode = .multi)
    {word : Int × BitVec 32} (h : word ∈ multiWords c) :
    word = (0, c.word 0) ∨ word = (1, c.word 1) := by
  have hrange : List.range 2 = [0, 1] := rfl
  simp only [multiWords, hrange, List.map_cons, List.map_nil, List.mem_cons, List.not_mem_nil,
    or_false] at h
  simpa [CoordinatorState.word, hm] using h

/-- The words of a transfer that is there are sampled ones, for either player. -/
theorem Shared.words {d : Duo} (h : Shared d) {playerId : Int}
    (hp : playerId = 0 ∨ playerId = 1) {words : List (Int × BitVec 32)}
    (hwords : ∀ word ∈ words, word = (0, d.coordinator.word 0) ∨ word = (1, d.coordinator.word 1)) :
    ∃ transfer, lastTransfer playerId d.ghost.trace = some transfer ∧
      ∀ word ∈ words, .sampled word.1 transfer word.2 ∈ d.ghost.trace := by
  obtain ⟨transfer, h0, h1, hs0, hs1⟩ := h
  refine ⟨transfer, ?_, fun word hword => ?_⟩
  · rcases hp with rfl | rfl
    · exact h0
    · exact h1
  · rcases hwords word hword with rfl | rfl
    · exact hs0
    · exact hs1

theorem Tracked.finishMulti0 {d : Duo} (h : Tracked d)
    (hcond : d.coordinator.transferMode = .multi →
      (d.p0.dataReceived = true → d.Unstarted) ∧
      (d.coordinator.syncArmed = true → d.coordinator.waiting = 0 → d.Leads)) :
    Tracked d.finishMulti0 := by
  unfold Duo.finishMulti0
  split
  · rename_i hm
    obtain ⟨hpend, hlead⟩ := hcond hm
    split
    · rename_i hr
      have hshared := h.received (by rw [hm]; rfl) (Or.inl hr) (hpend hr)
      exact (h.delivered (hshared.words (Or.inl rfl) fun _ => mem_multiWords hm)).finished0 hlead
    · exact h.finished0 hlead
  · exact h

theorem Tracked.finishMulti1 {d : Duo} (h : Tracked d)
    (hcond : d.coordinator.transferMode = .multi → d.p1.dataReceived = true → d.Unstarted) :
    Tracked d.finishMulti1 := by
  unfold Duo.finishMulti1
  split
  · rename_i hm
    split
    · rename_i hr
      have hshared := h.received (by rw [hm]; rfl) (Or.inr hr) (hcond hm hr)
      exact (h.delivered (hshared.words (Or.inr rfl) fun _ => mem_multiWords hm)).finished1
    · exact h.finished1
  · exact h

theorem Tracked.finishNormal0 {d : Duo} (h : Tracked d) {mode : Mode}
    (hlead : d.coordinator.transferMode = mode →
      d.coordinator.syncArmed = true → d.coordinator.waiting = 0 → d.Leads) :
    Tracked (d.finishNormal0 mode) := by
  unfold Duo.finishNormal0
  split
  · rename_i hm
    exact h.finished0 (hlead hm)
  · exact h

theorem Tracked.finishNormal1 {d : Duo} (h : Tracked d) {mode : Mode}
    (hmode : mode = .normal8 ∨ mode = .normal32)
    (hcond : d.coordinator.transferMode = mode → d.p1.dataReceived = true → d.Unstarted) :
    Tracked (d.finishNormal1 mode) := by
  unfold Duo.finishNormal1
  split
  · rename_i hm
    split
    · rename_i hr
      have hmoves : moves d.coordinator.transferMode = true := by
        rcases hmode with rfl | rfl <;> rw [hm] <;> rfl
      have hword : d.coordinator.normalData.getD 0 0 = d.coordinator.word 0 := by
        rcases hmode with rfl | rfl <;> simp [CoordinatorState.word, hm]
      have hshared := h.received hmoves (Or.inr hr) (hcond hm hr)
      refine (h.delivered (hshared.words (Or.inr rfl) fun word hmem => Or.inl ?_)).finished1
      rw [← hword]
      simpa using hmem
    · exact h.finished1
  · exact h

/-! ### Steps and runs -/

theorem leads_toPair {d : Duo} (h : d.toPair.Leads) : d.Leads :=
  fun head hhead => h _ rfl _ rfl head hhead

theorem follows_toPair {d : Duo} (h : d.toPair.Follows) : d.Follows :=
  fun head hhead => h _ rfl _ rfl head hhead

theorem unstarted_toPair {d : Duo} (h : ¬d.toPair.StartPending) : d.Unstarted :=
  fun event hevent hs => h ⟨_, rfl, event, hevent, hs⟩

theorem inPlace_toPair {d : Duo} (h : d.toPair.InPlace) :
    (d.coordinator.waiting = 0 → d.Leads) ∧ (d.coordinator.waiting ≠ 0 → d.Follows) := by
  unfold Pair.InPlace at h
  constructor
  · intro hw
    rw [if_pos (show d.toPair.coordinator.waiting = 0 from hw)] at h
    exact leads_toPair h
  · intro hw
    rw [if_neg (show ¬d.toPair.coordinator.waiting = 0 from hw)] at h
    exact follows_toPair h

theorem hardSyncDue_toPair {d : Duo} (h : d.HardSyncDue) : d.toPair.HardSyncDue := by
  refine ⟨d.player0, rfl, h.1, ?_⟩
  rw [advanceCycle_toPair]
  exact h.2

/-- **Every untangled step that refuses no event keeps the trace consistent.** -/
theorem Tracked.step {d d' : Duo} {a : Action} (h : Tracked d) (hd : Scheduled d)
    (hs : Step d a d') (hu : d.toPair.Untangled a)
    (haccepted : d'.coordinator.droppedEvents = d.coordinator.droppedEvents) : Tracked d' := by
  cases hs with
  | run0 => exact { h with }
  | run1 => exact { h with }
  | setMode0 mode =>
    unfold Duo.setMode0
    split
    · exact h
    rename_i hnews
    rw [not_or] at hnews
    obtain ⟨hplace, hpend, h0, h1⟩ := hu rfl (Bool.eq_false_iff.mpr hnews.1)
      fun primary hprimary => by
        obtain rfl : d.player0 = primary := Option.some.inj hprimary
        exact hnews.2
    obtain ⟨hlead, hfollow⟩ := inPlace_toPair hplace
    exact h.changeMode0 (unstarted_toPair hpend)
      (Bool.eq_false_iff.mpr fun hr => h0 ⟨_, rfl, hr⟩)
      (Bool.eq_false_iff.mpr fun hr => h1 ⟨_, rfl, hr⟩) hlead hfollow mode
  | setMode1 mode =>
    unfold Duo.setMode1 changeMode1
    split
    · exact h
    have henter : Tracked (d.enter1 mode) := { h with }
    dsimp only
    split
    · exact (henter.post0 _).modifyGba1 _
    · exact henter.post0 _
  | start0 =>
    refine h.start0 (fun hidle => ?_) haccepted
    obtain ⟨hplace, hpend⟩ := hu rfl hidle
    exact ⟨unstarted_toPair hpend, inPlace_toPair hplace⟩
  | start1 => exact h
  | finishMulti0 data =>
    refine h.finishMulti0 fun hm => ?_
    obtain ⟨hpend, hlead⟩ := hu hm
    exact ⟨fun hr => unstarted_toPair (hpend trivial ⟨_, rfl, hr⟩),
      fun ha hw => leads_toPair (hlead rfl ha hw)⟩
  | finishMulti1 data =>
    exact h.finishMulti1 fun hm hr => unstarted_toPair ((hu hm).1 trivial ⟨_, rfl, hr⟩)
  | finishNormal8_0 => exact h.finishNormal0 fun hm ha hw => leads_toPair ((hu hm).2 rfl ha hw)
  | finishNormal8_1 =>
    exact h.finishNormal1 (Or.inl rfl) fun hm hr => unstarted_toPair ((hu hm).1 rfl ⟨_, rfl, hr⟩)
  | finishNormal32_0 => exact h.finishNormal0 fun hm ha hw => leads_toPair ((hu hm).2 rfl ha hw)
  | finishNormal32_1 =>
    exact h.finishNormal1 (Or.inr rfl) fun hm hr => unstarted_toPair ((hu hm).1 rfl ⟨_, rfl, hr⟩)
  | event0 cyclesLate delay =>
    obtain ⟨hsync, hattach⟩ := hu rfl
    have hlead (hdue : d.HardSyncDue) (hw : d.coordinator.waiting = 0) : d.Leads :=
      leads_toPair (hsync (hardSyncDue_toPair hdue) hw)
    refine ((h.ownClock0 hlead).loop0 fun ⟨e, he, htype⟩ hne => ?_).modifyGba0 _
    rw [time0_ownClock0] at he
    exact follows_ownClock0 hlead
      (fun hw => follows_toPair (hattach ⟨d.player0, rfl, e, he, htype⟩ hw)) hne
  | event1 cyclesLate delay => exact (h.loop1 cyclesLate hd rfl).modifyGba1 _
  | event1Sleep cyclesLate delay hq => exact (h.loop1 cyclesLate hd rfl).sleep1.modifyGba1 _
  | reset0 => exact { h with }
  | reset0Scheduled delay =>
    have hbase : Tracked d.rebased0 := { h with }
    exact ((hbase.setReady0 _ _).setReady0 _ _).modifyGba0 _
  | reset1 => exact { h with }
  | reset1Scheduled delay =>
    have hbase : Tracked d.rebased1 := { h with }
    exact ((hbase.setReady1 _ _).setReady1 _ _).modifyGba1 _

end Duo

namespace Pair

/-- An attached pair whose scheduler is in order and whose trace is consistent. -/
def Consistent (s : Pair) : Prop :=
  ∃ d : Duo, s = d.toPair ∧ d.Scheduled ∧ d.Tracked

theorem consistent_attachLink (gba0 gba1 : Gba) : Consistent (attachLink gba0 gba1) := by
  obtain ⟨gba, otherModes, cycle, h⟩ := attachLink_toPair gba0 gba1
  have hd := (Duo.attachedBoth_scheduled gba gba1 gba0.mode otherModes cycle).announced1
  have ht : (announced1 (attachedBoth gba gba1 gba0.mode otherModes cycle)).Tracked :=
    (Duo.attachedBoth_tracked gba gba1 gba0.mode otherModes cycle).post0 _
  rcases Duo.resetSchedule_toPair1 (announced1 (attachedBoth gba gba1 gba0.mode otherModes cycle))
    with hr | ⟨delay, hr⟩
  · exact ⟨_, h.trans hr, hd, ht⟩
  · exact ⟨_, h.trans hr, hd.rescheduledReset1 delay,
      ((ht.setReady1 _ _).setReady1 _ _).modifyGba1 _⟩

theorem Consistent.act {s : Pair} (h : Consistent s) {a : Action} (hu : s.Untangled a)
    (haccepted : s.Accepted a) : Consistent (s.act a) := by
  obtain ⟨d, rfl, hd, ht⟩ := h
  obtain ⟨d', hstep, heq⟩ := d.act_toPair hd.announced0 hd.acknowledged1 a
  unfold Accepted at haccepted
  rw [heq] at haccepted
  exact ⟨d', heq, hd.step hstep, ht.step hd hstep hu haccepted⟩

/-- **Barriers are honoured and transfers agree** along every run of untangled steps that refuses
no event. -/
theorem barriers_honoured_and_transfers_agree (gba0 gba1 : Gba) (as : List Action)
    (h : Along act (fun s a => s.Accepted a ∧ s.Untangled a) (attachLink gba0 gba1) as) :
    Honoured ((attachLink gba0 gba1).acts as).ghost.trace ∧
      Agreement ((attachLink gba0 gba1).acts as).ghost.trace := by
  have hstep (s : Pair) (a : Action) (hs : Consistent s) (ha : s.Accepted a ∧ s.Untangled a) :
      Consistent (s.act a) := hs.act ha.2 ha.1
  obtain ⟨d, heq, -, ht⟩ := h.invariant hstep (consistent_attachLink gba0 gba1)
  rw [show (attachLink gba0 gba1).acts as = d.toPair from heq]
  exact ⟨ht.honoured, ht.agreement⟩

end Pair

end

/-! ## Two runs of plain machines -/

namespace Pair

section Plain

attribute [local instance] plainMgba

/-- Two machines that have just been switched on, with their words in `SIOMLT_SEND`. -/
def plainPair : Pair :=
  attachLink (plainGba .normal8 0 0x1234#16) (plainGba .normal8 0 0x5678#16)

/-- Player 0 enters MULTI and starts a transfer; both players take it to its end. -/
def wholeTransfer : List Action :=
  [.run 0 (plainGba .normal8 1 0x1234#16) false, .lockstepEvent 0 0,
   .run 1 (plainGba .normal8 1 0x5678#16) false, .lockstepEvent 1 0,
   .run 0 (plainGba .multi 2 0x1234#16) false, .setMode 0 .multi,
   .run 1 (plainGba .normal8 2 0x5678#16) false, .lockstepEvent 1 0,
   .run 0 (plainGba .multi 3 0x1234#16) false, .start 0,
   .run 1 (plainGba .normal8 3 0x5678#16) false, .lockstepEvent 1 0,
   .run 0 (plainGba .multi 63430 0x1234#16) false, .finishMultiplayer 0 [0, 0, 0, 0],
   .run 1 (plainGba .normal8 63430 0x5678#16) false, .finishMultiplayer 1 [0, 0, 0, 0]]

/-- The same transfer, with player 1 reading its queue late: the answer to its own `ATTACH` is still
there when player 0 enters MULTI and acknowledges in place of that barrier's event, and so it goes
on with the next. -/
def strayTransfer : List Action :=
  [.run 0 (plainGba .normal8 1 0x1234#16) false, .lockstepEvent 0 0,
   .run 0 (plainGba .multi 2 0x1234#16) false, .setMode 0 .multi,
   .run 1 (plainGba .normal8 1 0x5678#16) false, .lockstepEvent 1 0,
   .run 0 (plainGba .multi 3 0x1234#16) false, .start 0,
   .run 1 (plainGba .normal8 2 0x5678#16) false, .lockstepEvent 1 0,
   .run 0 (plainGba .multi 63430 0x1234#16) false, .finishMultiplayer 0 [0, 0, 0, 0]]

theorem wholeTransfer_agrees :
    Along act (fun s a => s.Accepted a ∧ s.Untangled a) plainPair wholeTransfer ∧
      Honoured (plainPair.acts wholeTransfer).ghost.trace ∧
      Agreement (plainPair.acts wholeTransfer).ghost.trace := by
  have h : Along act (fun s a => s.Accepted a ∧ s.Untangled a) plainPair wholeTransfer := by
    decide +kernel
  exact ⟨h, barriers_honoured_and_transfers_agree _ _ _ h⟩

theorem strayTransfer_trace : (plainPair.acts strayTransfer).ghost.trace =
    [.raised 5, .finished 0 [(0, 0x1234#32), (1, 0xffff#32)], .cleared 1 3, .raised 4,
      .sampled 0 4 0x1234#32, .cleared 1 2, .raised 3] := by
  decide +kernel

/-- An answer to an `ATTACH` takes down the barrier of a mode change, and the finish callback returns
the fill for player 1's word. -/
theorem strayTransfer_disagrees :
    Along act Accepted plainPair strayTransfer ∧
      ¬Honoured (plainPair.acts strayTransfer).ghost.trace ∧
      ¬Agreement (plainPair.acts strayTransfer).ghost.trace := by
  rw [strayTransfer_trace]
  refine ⟨by decide +kernel, by simp [Honoured, lastRaised], ?_⟩
  rintro ⟨⟨transfer, -, hwords⟩, -⟩
  have h := hwords (1, 0xffff#32) (by simp)
  simp at h

end Plain

end Pair

end DualBoy.Lockstep
