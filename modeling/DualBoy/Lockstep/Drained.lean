import DualBoy.Lockstep.Buffer

/-!
# A callback serves every event that is due

The event loop of `_lockstepEvent` ends when the queue is empty or its head lies ahead. It may put
events into the queue it is emptying: the answer to an `ATTACH` or a `DETACH` can be addressed to the
player itself. The answer is a `MODE_SET`, which nothing answers, so a queue of weight `weight` is
served in that many turns. The fuel the loop runs on is enough, and **no due event is left**,
`lockstepEvent_drains`, in any state a run of attaching, detaching, resetting and loading comes to.
-/

namespace DualBoy.Lockstep

open DualBoy.Lib

/-- The turns an event may take: its own, and its answer's. -/
def EventType.weight : EventType → Nat
  | .attach | .detach => 2
  | _ => 1

def weight (queue : List QueuedEvent) : Nat :=
  (queue.map fun event => event.type.weight).sum

theorem EventType.one_le_weight (type : EventType) : 1 ≤ type.weight := by
  unfold weight
  split <;> omega

theorem EventType.weight_le_two (type : EventType) : type.weight ≤ 2 := by
  unfold weight
  split <;> omega

@[simp] theorem weight_nil : weight [] = 0 := rfl

@[simp] theorem weight_cons (event : QueuedEvent) (queue : List QueuedEvent) :
    weight (event :: queue) = event.type.weight + weight queue := List.sum_cons

theorem weight_le (queue : List QueuedEvent) : weight queue ≤ 2 * queue.length := by
  induction queue with
  | nil => exact Nat.le_refl 0
  | cons event queue ih =>
    have := event.type.weight_le_two
    rw [weight_cons, List.length_cons]
    omega

theorem weight_insertBefore (stop : QueuedEvent → Bool) (event : QueuedEvent)
    (queue : List QueuedEvent) :
    weight (insertBefore stop event queue) = event.type.weight + weight queue := by
  rw [← weight_cons]
  exact ((insertBefore_perm stop event queue).map _).sum_nat

namespace Pair

section

variable [Mgba]

/-! ## What an answer adds -/

/-- A player's queue is at most this much heavier than it was. -/
def Heavier (s s' : Pair) (id extra : Nat) : Prop :=
  ∀ player, s.lookup id = some player →
    ∃ player', s'.lookup id = some player' ∧ weight player'.queue ≤ weight player.queue + extra

theorem Heavier.trans {s s' s'' : Pair} {id extra extra' : Nat} (h : Heavier s s' id extra)
    (h' : Heavier s' s'' id extra') : Heavier s s'' id (extra + extra') := by
  intro player hplayer
  obtain ⟨player', hplayer', hle⟩ := h player hplayer
  obtain ⟨player'', hplayer'', hle'⟩ := h' player' hplayer'
  exact ⟨player'', hplayer'', by omega⟩

theorem SameSlots.heavier {s s' : Pair} (h : SameSlots s s') (id : Nat) : Heavier s s' id 0 := by
  intro player hplayer
  have hslots := h.slots id
  rw [hplayer, Option.map_some, Option.map_eq_some_iff] at hslots
  obtain ⟨player', hplayer', heq⟩ := hslots
  have hqueue : player'.queue = player.queue := congrArg Slots.queue heq
  exact ⟨player', hplayer', by rw [hqueue]; exact Nat.le_refl _⟩

/-- **An event is added to a queue once at most**, for no player sits in two places. -/
theorem heavier_enqueueEvent {s : Pair} (hseated : s.Seated) (event : Event) (targets : BitVec 32)
    (id : Nat) : Heavier s (s.enqueueEvent event targets).1 id event.type.weight := by
  intro player hplayer
  have h := enqueued_enqueueEvent hseated event targets
  by_cases hat : ∃ i, i < s.coordinator.nAttached ∧ targets &&& target i ≠ 0 ∧ s.seat i = id
  · obtain ⟨i, hi, htarget, rfl⟩ := hat
    obtain ⟨player', hplayer', hoffered⟩ := h.players i player hi htarget hplayer
    refine ⟨player', hplayer', ?_⟩
    cases hoffered with
    | full hfull => exact Nat.le_add_right _ _
    | taken hfree serial =>
      change weight (insertBefore _ _ player.queue) ≤ _
      rw [weight_insertBefore]
      dsimp only
      omega
  · refine ⟨player, ?_, Nat.le_add_right _ _⟩
    rw [h.others id fun i hi htarget hseat => hat ⟨i, hi, htarget, hseat⟩]
    exact hplayer

/-- **What one event leaves behind**: less than it weighed. -/
theorem heavier_handleEvent {l : EventLoop} (hseated : l.pair.Seated) (id : Nat)
    (cyclesLate : BitVec 32) (event : QueuedEvent) :
    Heavier l.pair (handleEvent id cyclesLate event l).pair id (event.type.weight - 1) := by
  have hquiet {t : Pair} (h : SameSlots l.pair t) :
      Heavier l.pair t id (event.type.weight - 1) := by
    intro player hplayer
    obtain ⟨player', hplayer', hle⟩ := h.heavier id player hplayer
    exact ⟨player', hplayer', by omega⟩
  have hanswer {t : Pair} (h : SameSlots l.pair t) (htype : event.type.weight = 2) (mode : Mode)
      (playerId : Int) (timestamp : Cycle) (targets : BitVec 32) :
      Heavier l.pair (t.enqueueEvent { type := .modeSet mode, playerId, timestamp } targets).1 id
        (event.type.weight - 1) := by
    rw [htype]
    have hadded := (h.heavier id).trans (heavier_enqueueEvent (hseated.congr h.toSameTable)
      { type := .modeSet mode, playerId, timestamp } targets id)
    exact hadded
  unfold handleEvent
  dsimp only
  split
  · exact hquiet (.refl _)
  rename_i player _
  split
  · rename_i htype
    refine hanswer ?_ (by rw [htype]; rfl) _ _ _ _
    have hready := sameSlots_setReady l.pair id event.playerId .none
    exact sameSlots_ite (hready.trans (sameSlots_modifyGba _ _ _)) hready
  · exact hquiet (sameSlots_ackPlayer _ id)
  · refine hquiet (.trans ?_ (sameSlots_ackPlayer _ id))
    refine .trans ?_ (sameSlots_modifyGba _ _ _)
    exact (sameSlots_setData _ _ _).trans (sameSlots_recordSample _ _ _ _)
  · rename_i mode _
    have hready := sameSlots_setReady l.pair id event.playerId mode
    exact hquiet (sameSlots_ite (hready.trans (sameSlots_ackPlayer _ id)) hready)
  · rename_i htype
    have hready := (sameSlots_setReady l.pair id event.playerId .none).trans
      (sameSlots_setReady _ id player.playerId player.mode)
    have htold := hanswer hready (by rw [htype]; rfl) player.mode player.playerId
      (l.pair.lockstepTime player) (~~~target event.playerId)
    have hslave (t : Pair) (f : Gba → Gba) :
        SameSlots t (if player.mode = .multi then t.modifyGba player.driver f else t) :=
      sameSlots_ite (sameSlots_modifyGba t _ f) (.refl t)
    exact htold.trans ((hslave _ _).heavier id)

/-! ## The loop -/

theorem queue_recycleEvent {s : Pair} {id : Nat} {event : QueuedEvent} {player player' : Player}
    (h : s.lookup id = some player) (h' : (s.recycleEvent id event).lookup id = some player') :
    player'.queue = player.queue := by
  unfold recycleEvent at h'
  rw [lookup_modifyPlayer, if_pos rfl, h] at h'
  exact congrArg (fun p => p.queue) (Option.some.inj h').symm

theorem SlotsInv.of_connects {x y : Pair × Hand} (h : SlotsInv x) (hconnects : Connects SlotStep x y) :
    SlotsInv y := by
  obtain ⟨labels, hpath⟩ := hconnects
  exact hpath.invariant (fun _ _ _ hstep hinv => SlotsInv.step hinv hstep) h

/-- **The loop ends with no due event at the head**, when its fuel is the weight of the queue. -/
theorem eventLoop_drains (id : Nat) (cyclesLate : BitVec 32) (fuel : Nat) (l : EventLoop)
    (hinv : SlotsInv (l.pair, none))
    (hfuel : ∀ player, l.pair.lookup id = some player → weight player.queue ≤ fuel)
    (event : QueuedEvent) (rest : List QueuedEvent) :
    ¬(eventLoop id cyclesLate fuel l).pair.HeadDue id event rest := by
  induction fuel generalizing l with
  | zero =>
    rintro ⟨player, hplayer, hqueue, -⟩
    have hweight := hfuel player hplayer
    have := event.type.one_le_weight
    rw [hqueue, weight_cons] at hweight
    omega
  | succ fuel ih =>
    unfold eventLoop
    split
    · rename_i hnone
      rintro ⟨player, hplayer, -⟩
      rw [hnone] at hplayer
      cases hplayer
    rename_i player hplayer
    split
    · rename_i hempty
      rintro ⟨player', hplayer', hqueue, -⟩
      obtain rfl := Option.some.inj (hplayer.symm.trans hplayer')
      rw [hempty] at hqueue
      cases hqueue
    rename_i head tail hqueue
    split
    · rename_i hahead
      rintro ⟨player', hplayer', hqueue', hdue⟩
      obtain rfl := Option.some.inj (hplayer.symm.trans hplayer')
      obtain ⟨rfl, -⟩ := List.cons.inj (hqueue.symm.trans hqueue')
      exact hdue hahead
    rename_i hdue
    -- one turn: the head is unlinked, handled and recycled
    have hunlinked := hinv.unlink ⟨player, hplayer, hqueue, hdue⟩
    have hghost := sameSlots_ghost (l.pair.unlinkEvent id tail)
      { l.pair.ghost with current := head.serial }
    have htaken := hunlinked.quiet hghost
    have hhandled := htaken.of_connects (connects_handleEvent id cyclesLate head { l with
      pair := { l.pair.unlinkEvent id tail with ghost := { l.pair.ghost with current := head.serial } } })
    have hless := heavier_handleEvent (l := { l with
      pair := { l.pair.unlinkEvent id tail with ghost := { l.pair.ghost with current := head.serial } } })
      htaken.seated id cyclesLate head
    refine ih _ hhandled.recycle fun player' hplayer' => ?_
    have hweight := hfuel player hplayer
    have hone := head.type.one_le_weight
    rw [hqueue, weight_cons] at hweight
    have hlookup : (l.pair.unlinkEvent id tail).lookup id = some { player with queue := tail } := by
      unfold unlinkEvent
      rw [lookup_modifyPlayer, if_pos rfl, hplayer]
      rfl
    obtain ⟨taken, htakenPlayer, htakenWeight⟩ := hghost.heavier id _ hlookup
    obtain ⟨handled, hhandledPlayer, hhandledWeight⟩ := hless taken htakenPlayer
    have hkept := queue_recycleEvent hhandledPlayer hplayer'
    dsimp only at htakenWeight
    rw [hkept]
    omega

/-! ## The callback -/

/-- What decides whether a head is due: every player's queue, and the time on its clock. -/
def SameTimes (s s' : Pair) : Prop :=
  ∀ id, (s'.lookup id).map (fun p => (p.queue, s'.lockstepTime p)) =
    (s.lookup id).map fun p => (p.queue, s.lockstepTime p)

theorem SameTimes.trans {s s' s'' : Pair} (h : SameTimes s s') (h' : SameTimes s' s'') :
    SameTimes s s'' := fun id => (h' id).trans (h id)

theorem headDue_of_sameTimes {s s' : Pair} (h : SameTimes s s') {id : Nat} {event : QueuedEvent}
    {rest : List QueuedEvent} (hdue : s'.HeadDue id event rest) : s.HeadDue id event rest := by
  obtain ⟨player, hplayer, hqueue, htime⟩ := hdue
  have hsame := h id
  rw [hplayer, Option.map_some, eq_comm, Option.map_eq_some_iff] at hsame
  obtain ⟨player', hplayer', heq⟩ := hsame
  obtain ⟨hqueue', htime'⟩ := Prod.mk.inj heq
  exact ⟨player', hplayer', hqueue'.trans hqueue, htime' ▸ htime⟩

theorem sameTimes_modifyPlayer (s : Pair) (id : Nat) {f : Player → Player}
    (hf : ∀ p, (f p).queue = p.queue ∧ (f p).driver = p.driver ∧ (f p).cycleOffset = p.cycleOffset) :
    SameTimes s (s.modifyPlayer id f) := by
  intro id'
  rw [lookup_modifyPlayer]
  split
  · rw [Option.map_map]
    refine congrArg (fun g => (s.lookup id').map g) (funext fun p => ?_)
    obtain ⟨hqueue, hdriver, hoffset⟩ := hf p
    have hdrivers : (s.modifyPlayer id f).drivers p.driver = s.drivers p.driver := by
      generalize p.driver = i
      match i with
      | 0 => rfl
      | 1 => rfl
    rw [Function.comp_apply, lockstepTime, hqueue, hdriver, hoffset, hdrivers]
    rfl
  · refine congrArg (fun g => (s.lookup id').map g) (funext fun p => ?_)
    have hdrivers : (s.modifyPlayer id f).drivers p.driver = s.drivers p.driver := by
      generalize p.driver = i
      match i with
      | 0 => rfl
      | 1 => rfl
    rw [lockstepTime, hdrivers]
    rfl

theorem sameTimes_modifyDriver (s : Pair) (i : Fin 2) {f : Driver → Driver}
    (hf : ∀ d, (f d).gba.now = d.gba.now) : SameTimes s (s.modifyDriver i f) := by
  intro id
  have hlookup : (s.modifyDriver i f).lookup id = s.lookup id := by
    match i with
    | 0 => rfl
    | 1 => rfl
  have hnow (j : Fin 2) : ((s.modifyDriver i f).drivers j).gba.now = (s.drivers j).gba.now := by
    match i, j with
    | 0, 0 => exact hf s.driver0
    | 0, 1 => rfl
    | 1, 0 => rfl
    | 1, 1 => exact hf s.driver1
  rw [hlookup]
  refine congrArg (fun g => (s.lookup id).map g) (funext fun p => ?_)
  rw [lockstepTime, hnow]
  rfl

theorem sameTimes_playerSleep (s : Pair) (id : Nat) : SameTimes s (s.playerSleep id) := by
  unfold playerSleep
  split
  · exact fun _ => rfl
  · split
    · exact fun _ => rfl
    · refine .trans ?_ (sameTimes_modifyDriver _ _ fun _ => rfl)
      have hslept (t : Pair) (i : Fin 2) : SameTimes t (t.lockstepSleep i) := by
        unfold lockstepSleep
        split
        · exact sameTimes_modifyDriver t i fun _ => rfl
        · exact fun _ => rfl
      refine .trans ?_ (hslept _ _)
      exact sameTimes_modifyPlayer s id fun _ => ⟨rfl, rfl, rfl⟩

/-- The end of the callback changes no queue and no clock. -/
theorem sameTimes_eventTail (id : Nat) (l : EventLoop) : SameTimes l.pair (eventTail id l) := by
  unfold eventTail
  dsimp only
  split
  · exact fun _ => rfl
  · refine .trans ?_ (sameTimes_modifyDriver _ _ fun _ => Gba.now_schedule _ _ _)
    have hite (c : Prop) [Decidable c] :
        SameTimes l.pair (if c then l.pair.playerSleep id else l.pair) := by
      split
      · exact sameTimes_playerSleep _ _
      · exact fun _ => rfl
    exact hite _

/-- **A callback leaves no due event at the head of its player's queue.** -/
theorem lockstepEvent_serves {s : Pair} (h : SlotsInv (s, none)) (i : Fin 2) (cyclesLate : BitVec 32)
    (event : QueuedEvent) (rest : List QueuedEvent)
    (hplayer : (s.lookup (s.drivers i).lockstepId).isSome) :
    ¬(s.lockstepEvent i cyclesLate).HeadDue (s.drivers i).lockstepId event rest := by
  obtain ⟨player, hplayer⟩ := Option.isSome_iff_exists.mp hplayer
  unfold lockstepEvent
  dsimp only
  rw [hplayer]
  dsimp only
  intro hdue
  have hclock := (h.quiet (sameSlots_mAssert s
    (0 ≤ player.playerId ∧ player.playerId < 4))).of_connects (connects_ownClock _ (s.drivers i).lockstepId player)
  refine eventLoop_drains _ cyclesLate _ _ hclock (fun player' hplayer' => ?_) event rest
    (headDue_of_sameTimes (sameTimes_eventTail _ _) hdue)
  dsimp only at hplayer'
  rw [hplayer']
  exact weight_le player'.queue

end

section

variable [MgbaTimer]

/-- **No callback leaves a due event at the head of its player's queue**, in any run: the loop's fuel
is enough, whatever the queues were loaded with and whoever was detached. -/
theorem lockstepEvent_drains (gba0 gba1 : Gba) (steps : List LinkStep) (i : Fin 2)
    (cyclesLate : BitVec 32) (event : QueuedEvent) (rest : List QueuedEvent) :
    let s := run linkStep (linkCreate gba0 gba1) steps
    ¬(s.lockstepEvent i cyclesLate).HeadDue (s.drivers i).lockstepId event rest := by
  intro s
  have hs : SlotsInv (s, none) :=
    (slotsInv_linkCreate gba0 gba1).of_connects (connects_run steps (slotsInv_linkCreate gba0 gba1))
  cases hplayer : s.lookup (s.drivers i).lockstepId with
  | some player => exact lockstepEvent_serves hs i cyclesLate event rest (by rw [hplayer]; rfl)
  | none =>
    have hnothing : s.lockstepEvent i cyclesLate = s := by
      unfold lockstepEvent
      dsimp only
      rw [hplayer]
    rw [hnothing]
    rintro ⟨player, hfound, -⟩
    rw [hplayer] at hfound
    cases hfound

end

end Pair

end DualBoy.Lockstep
