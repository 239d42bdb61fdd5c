import Mathlib.Data.BitVec
import Mathlib.Data.Fintype.Card
import DualBoy.Lib.Linked
import DualBoy.Lockstep.Accounting

/-!
# The buffer of a player

In the source `queue` and `freeList` are pointers into `buffer`, and each slot has a `next`. `Buffer` is
that: `enqueue`, `unlink`, `recycle`, `append` and `load` write the pointers as the source does, `search`
walks them. `Holds` relates a buffer to the two lists the model keeps, and **each operation of the
pointers keeps it** (`Holds.enqueue`, `Holds.unlink`, …), so the lists are what the pointers mean.

The headline is `slots_accounted`: in any run of a link, with any driver detached, reset, attached or
loaded from a state at any time, no slot is lost or used twice, `queueDepth` is the queue's length,
`droppedEvents` grows by exactly the refusals, as an `unsigned` does, and an event leaves a queue only to be processed, with
its player, or when a saved queue takes its place.
-/

namespace DualBoy.Lockstep

open DualBoy.Lib

/-- A slot of `buffer`. -/
abbrev Slot := Fin maxLockstepEvents

/-- The part of `struct DualBoyGBASIOLockstepPlayer` the events are kept in: `buffer`, each slot an
event and its `next`, and the heads `queue` and `freeList`. -/
structure Buffer where
  event : Slot → Event
  next : Slot → Option Slot
  queue : Option Slot
  freeList : Option Slot

namespace Buffer

/-! ## The source's pointer operations -/

/-- The loop of `Reset`, and of `LoadState`, that puts every slot on the free list. -/
def clear (b : Buffer) : Buffer :=
  { b with
    next := fun slot => if h : slot.val + 1 < maxLockstepEvents then some ⟨slot.val + 1, h⟩ else none
    queue := none
    freeList := some ⟨0, by decide⟩ }

/-- `*previous = slot`, for a pointer to `queue` or to the `next` of a queued slot. -/
def store (b : Buffer) (previous : Place Slot) (slot : Option Slot) : Buffer :=
  let r := setLink previous slot (b.queue, b.next)
  { b with queue := r.1, next := r.2 }

/-- The search of `_enqueueEvent`: `previous` and `next` where it stops. A queue has no more slots
than the buffer. -/
def search (b : Buffer) (timestamp : Cycle) : Nat → Place Slot → Option Slot → Place Slot × Option Slot
  | 0, previous, next => (previous, next)
  | steps + 1, previous, next =>
    match next with
    | none => (previous, none)
    | some slot =>
      if (cycleDelta timestamp (b.event slot).timestamp).toInt < 0 then (previous, some slot)
      else search b timestamp steps (.next slot) (b.next slot)

/-- What `_enqueueEvent` does to the buffer of one target. -/
def enqueue (b : Buffer) (event : Event) : Buffer :=
  match b.freeList with
  | none => b
  | some newEvent =>
    let b := { b with
      freeList := b.next newEvent
      event := Function.update b.event newEvent event }
    let (previous, next) := b.search event.timestamp maxLockstepEvents .head b.queue
    ({ b with next := Function.update b.next newEvent next }).store previous (some newEvent)

/-- `player->queue = event->next`. -/
def unlink (b : Buffer) : Buffer :=
  match b.queue with
  | none => b
  | some event => { b with queue := b.next event }

/-- `event->next = player->freeList; player->freeList = event`. -/
def recycle (b : Buffer) (event : Slot) : Buffer :=
  { b with next := Function.update b.next event b.freeList, freeList := some event }

/-- One turn of `LoadState`'s loop: the first free slot becomes the last of the queue. `lastEvent` is
the pointer to the link that ends it. -/
def append (r : Buffer × Place Slot) (event : Event) : Buffer × Place Slot :=
  let (b, lastEvent) := r
  match b.freeList with
  | none => (b, lastEvent)
  | some slot =>
    let b := ({ b with freeList := b.next slot }).store lastEvent (some slot)
    ({ b with
      next := Function.update b.next slot none
      event := Function.update b.event slot event }, .next slot)

/-- The queue rebuilt from a saved state. -/
def load (b : Buffer) (events : List Event) : Buffer :=
  let (b, lastEvent) := events.foldl append (b.clear, .head)
  b.store lastEvent none

/-! ## What a buffer holds -/

/-- The slots of events. -/
def slotsOf (events : List QueuedEvent) : List Slot := events.map fun event => event.slot

theorem slotsOf_append (events events' : List QueuedEvent) :
    slotsOf (events ++ events') = slotsOf events ++ slotsOf events' := List.map_append

theorem mem_slotsOf {event : QueuedEvent} {events : List QueuedEvent} (h : event ∈ events) :
    event.slot ∈ slotsOf events := List.mem_map_of_mem h

/-- The buffer's two lists, and the contents of the slots that are not free. -/
structure Holds (b : Buffer) (held queue : List QueuedEvent) (freeList : List Slot) : Prop where
  queued : Linked b.next b.queue (slotsOf queue)
  free : Linked b.next b.freeList freeList
  contents : ∀ event ∈ held ++ queue, b.event event.slot = event.toEvent

variable {b : Buffer} {held queue : List QueuedEvent} {freeList : List Slot}

/-! ### Taking out and giving back -/

theorem Holds.unlink {event : QueuedEvent} {rest : List QueuedEvent}
    (h : b.Holds [] (event :: rest) freeList) : b.unlink.Holds [event] rest freeList := by
  obtain ⟨⟨hhead, hrest⟩, hfree, hcontents⟩ := h
  unfold Buffer.unlink
  rw [hhead]
  exact ⟨hrest, hfree, hcontents⟩

theorem Holds.recycle {event : QueuedEvent} (h : b.Holds [event] queue freeList)
    (hqueue : event.slot ∉ slotsOf queue) (hfree : event.slot ∉ freeList) :
    (b.recycle event.slot).Holds [] queue (event.slot :: freeList) where
  queued := h.queued.update hqueue b.freeList
  free := by
    refine ⟨rfl, ?_⟩
    change Linked (Function.update b.next event.slot b.freeList)
      (Function.update b.next event.slot b.freeList event.slot) freeList
    rw [Function.update_self]
    exact h.free.update hfree b.freeList
  contents := fun queued hqueued => h.contents queued (List.mem_append_right _ hqueued)

/-! ### Insertion -/

/-- **The search stops where the insertion cuts the queue.** -/
theorem search_cut (newEvent : QueuedEvent) {steps : Nat}
    (hcontents : ∀ event ∈ queue, b.event event.slot = event.toEvent) {next : Option Slot}
    (hlinked : Linked b.next next (slotsOf queue)) (hsteps : queue.length ≤ steps) (first : List Slot) :
    ∃ before after, queue = before ++ after ∧
      insertBefore (Pair.precedes newEvent) newEvent queue = before ++ newEvent :: after ∧
      b.search newEvent.timestamp steps (placeAfter first) next =
        (placeAfter (first ++ slotsOf before), (slotsOf after).head?) := by
  induction queue generalizing steps next first with
  | nil =>
    obtain rfl := linked_nil.mp hlinked
    refine ⟨[], [], rfl, rfl, ?_⟩
    cases steps with
    | zero => simp [search, slotsOf]
    | succ steps => simp [search, slotsOf]
  | cons event queue ih =>
    obtain ⟨rfl, hrest⟩ := hlinked
    cases steps with
    | zero => simp at hsteps
    | succ steps =>
      have hevent := hcontents event List.mem_cons_self
      unfold search
      dsimp only
      rw [hevent]
      by_cases hstop : (cycleDelta newEvent.timestamp event.timestamp).toInt < 0
      · have hprecedes : Pair.precedes newEvent event = true := decide_eq_true hstop
        refine ⟨[], event :: queue, rfl, ?_, ?_⟩
        · simp [insertBefore, hprecedes]
        · rw [if_pos hstop]
          simp [slotsOf]
      · have hprecedes : Pair.precedes newEvent event = false := decide_eq_false hstop
        obtain ⟨before, after, hqueue, hinsert, hsearch⟩ :=
          ih (fun e he => hcontents e (List.mem_cons_of_mem _ he)) hrest
            (Nat.le_of_succ_le_succ hsteps) (first ++ [event.slot])
        refine ⟨event :: before, after, by rw [hqueue]; rfl, ?_, ?_⟩
        · rw [insertBefore_cons_of_not hprecedes, hinsert]
          rfl
        · rw [if_neg hstop, ← placeAfter_concat first event.slot, hsearch, List.append_assoc]
          rfl

/-- The new event's slot is linked in at a cut of the queue. -/
theorem linked_cut {next : Slot → Option Slot} {head : Option Slot} {slot : Slot}
    {before after : List Slot} (h : Linked next head (before ++ after))
    (hfresh : slot ∉ before ++ after) (link : Function.update next slot after.head? = next') :
    let r := setLink (placeAfter before) (some slot) (head, next')
    Linked r.2 r.1 (before ++ slot :: after) := by
  subst link
  have hbehind : slot ∉ after := fun hmem => hfresh (List.mem_append_right _ hmem)
  refine linked_setLink (h.update hfresh _) ⟨rfl, ?_⟩ fun a ha hmem => ?_
  · rw [Function.update_self]
    exact h.suffix.update hbehind _
  · rcases List.mem_cons.mp hmem with rfl | hmem
    · exact hfresh (List.mem_append_left _ ha)
    · exact (List.nodup_append.mp h.nodup).2.2 a ha a hmem rfl

/-- What is queued, in hand or free stands in different slots. -/
structure Distinct (held queue : List QueuedEvent) (slot : Slot) (freeList : List Slot) : Prop where
  nodup : (slotsOf (held ++ queue) ++ slot :: freeList).Nodup

theorem Distinct.ne {slot : Slot} (h : Distinct held queue slot freeList) {event : QueuedEvent}
    (hevent : event ∈ held ++ queue) : event.slot ≠ slot :=
  (List.nodup_append.mp h.nodup).2.2 _ (mem_slotsOf hevent) _ List.mem_cons_self

theorem Distinct.notMem_queue {slot : Slot} (h : Distinct held queue slot freeList) :
    slot ∉ slotsOf queue := by
  intro hmem
  obtain ⟨event, hevent, hslot⟩ := List.mem_map.mp hmem
  exact h.ne (List.mem_append_right _ hevent) hslot

theorem Distinct.notMem_free {slot : Slot} (h : Distinct held queue slot freeList) :
    slot ∉ freeList :=
  (List.nodup_cons.mp (List.nodup_append.mp h.nodup).2.1).1

theorem Distinct.apart {slot : Slot} (h : Distinct held queue slot freeList) {slot' : Slot}
    (hqueue : slot' ∈ slotsOf queue) : slot' ∉ freeList := by
  intro hmem
  refine (List.nodup_append.mp h.nodup).2.2 slot' ?_ slot' (List.mem_cons_of_mem _ hmem) rfl
  rw [slotsOf_append]
  exact List.mem_append_right _ hqueue

theorem Distinct.length_le {slot : Slot} (h : Distinct held queue slot freeList) :
    queue.length ≤ maxLockstepEvents := by
  have hnodup := (List.nodup_append.mp h.nodup).1
  rw [slotsOf_append] at hnodup
  have hcard := List.Nodup.length_le_card (List.nodup_append.mp hnodup).2.1
  rwa [slotsOf, List.length_map, Fintype.card_fin] at hcard

/-- **`_enqueueEvent` inserts the event**: its slot comes off the free list and into the queue, where
the search stopped. -/
theorem Holds.enqueue {newEvent : QueuedEvent} (h : b.Holds held queue (newEvent.slot :: freeList))
    (hdistinct : Distinct held queue newEvent.slot freeList) :
    (b.enqueue newEvent.toEvent).Holds held
      (insertBefore (Pair.precedes newEvent) newEvent queue) freeList := by
  obtain ⟨hqueued, ⟨hhead, hfree⟩, hcontents⟩ := h
  -- the slot that is taken is none of those the search visits
  have hwritten : ∀ event ∈ held ++ queue,
      Function.update b.event newEvent.slot newEvent.toEvent event.slot = event.toEvent :=
    fun event hevent => (Function.update_of_ne (hdistinct.ne hevent) _ _).trans (hcontents event hevent)
  obtain ⟨before, after, hqueue, hinsert, hsearch⟩ := search_cut
    (b := { b with
      freeList := b.next newEvent.slot
      event := Function.update b.event newEvent.slot newEvent.toEvent }) newEvent
    (fun event hevent => hwritten event (List.mem_append_right _ hevent)) hqueued hdistinct.length_le []
  have hsplit : slotsOf queue = slotsOf before ++ slotsOf after := by rw [hqueue, slotsOf_append]
  have hfresh := hdistinct.notMem_queue
  have hbefore {slot : Slot} (hslot : slot ∈ slotsOf before) : slot ∉ freeList :=
    hdistinct.apart (hsplit ▸ List.mem_append_left _ hslot)
  rw [hsplit] at hqueued hfresh
  unfold Buffer.enqueue
  rw [hhead]
  dsimp only
  rw [show (Place.head : Place Slot) = placeAfter [] from rfl, hsearch]
  refine ⟨?_, ?_, ?_⟩
  · rw [hinsert, slotsOf_append]
    exact linked_cut hqueued hfresh rfl
  · exact (hfree.update hdistinct.notMem_free _).setLink (fun slot hslot => hbefore hslot) _
  · intro event hevent
    rcases List.mem_append.mp hevent with hheld | hin
    · exact hwritten event (List.mem_append_left _ hheld)
    · rcases mem_insertBefore.mp hin with rfl | hin
      · exact Function.update_self _ _ _
      · exact hwritten event (List.mem_append_right _ hin)

/-! ### Loading -/

/-- The links `clear` leaves are those of a free list with every slot. -/
theorem holds_clear (b : Buffer) : b.clear.Holds [] [] (List.finRange maxLockstepEvents) :=
  ⟨rfl, ⟨rfl, rfl, rfl, rfl, rfl, rfl, rfl, rfl, rfl⟩, fun _ hevent => absurd hevent List.not_mem_nil⟩

/-- **One event is loaded.** -/
theorem Holds.append {event : QueuedEvent} (h : b.Holds [] queue (event.slot :: freeList))
    (hdistinct : Distinct [] queue event.slot freeList) :
    (append (b, placeAfter (slotsOf queue)) event.toEvent).1.Holds [] (queue ++ [event]) freeList ∧
      (append (b, placeAfter (slotsOf queue)) event.toEvent).2 =
        placeAfter (slotsOf (queue ++ [event])) := by
  obtain ⟨hqueued, ⟨hhead, hfree⟩, hcontents⟩ := h
  have hslots : slotsOf (queue ++ [event]) = slotsOf queue ++ [event.slot] := slotsOf_append _ _
  unfold Buffer.append
  dsimp only
  rw [hhead]
  dsimp only
  refine ⟨⟨?_, ?_, ?_⟩, ?_⟩
  · -- the slot still leads to the free list, until its own link is cleared
    have hlong : Linked (setLink (placeAfter (slotsOf queue)) (some event.slot) (b.queue, b.next)).2
        (setLink (placeAfter (slotsOf queue)) (some event.slot) (b.queue, b.next)).1
        (slotsOf queue ++ event.slot :: freeList) := by
      rw [← List.append_nil (slotsOf queue)] at hqueued
      refine linked_setLink hqueued ⟨rfl, hfree⟩ fun slot hslot hmem => ?_
      rcases List.mem_cons.mp hmem with rfl | hmem
      · exact hdistinct.notMem_queue hslot
      · exact hdistinct.apart hslot hmem
    rw [List.append_cons] at hlong
    have hcut := linked_setLink_none hlong
    rw [placeAfter_concat] at hcut
    rw [hslots]
    exact hcut
  · refine Linked.update ?_ hdistinct.notMem_free none
    exact hfree.setLink (fun slot hslot => hdistinct.apart hslot) _
  · intro queued hqueued
    rw [List.nil_append] at hqueued
    rcases List.mem_append.mp hqueued with hin | hlast
    · refine (Function.update_of_ne (hdistinct.ne hin) _ _).trans (hcontents queued hin)
    · rw [List.mem_singleton.mp hlast]
      exact Function.update_self _ _ _
  · rw [hslots, placeAfter_concat]

/-- The loop of `LoadState`. -/
theorem Holds.appendAll {events : List QueuedEvent}
    (h : b.Holds [] queue (slotsOf events ++ freeList))
    (hnodup : (slotsOf queue ++ (slotsOf events ++ freeList)).Nodup) :
    ((events.map fun event => event.toEvent).foldl Buffer.append (b, placeAfter (slotsOf queue))).1.Holds []
        (queue ++ events) freeList ∧
      ((events.map fun event => event.toEvent).foldl Buffer.append (b, placeAfter (slotsOf queue))).2 =
        placeAfter (slotsOf (queue ++ events)) := by
  induction events generalizing b queue with
  | nil =>
    rw [List.append_nil]
    exact ⟨h, rfl⟩
  | cons event events ih =>
    obtain ⟨hholds, hplace⟩ := Holds.append h ⟨hnodup⟩
    rw [List.map_cons, List.foldl_cons]
    generalize Buffer.append (b, placeAfter (slotsOf queue)) event.toEvent = r at hholds hplace ⊢
    obtain ⟨b', place⟩ := r
    obtain rfl := hplace
    rw [show queue ++ event :: events = queue ++ [event] ++ events from List.append_cons _ _ _]
    refine ih hholds ?_
    rw [slotsOf_append, List.append_assoc]
    exact hnodup

/-- **The queue of a saved state**, the rest of the buffer free. -/
theorem holds_load (b : Buffer) {events : List QueuedEvent}
    (hslots : slotsOf events ++ freeList = List.finRange maxLockstepEvents) :
    (b.load (events.map fun event => event.toEvent)).Holds [] events freeList := by
  have hclear := holds_clear b
  rw [← hslots] at hclear
  have hnodup : (slotsOf events ++ freeList).Nodup := hslots ▸ List.nodup_finRange _
  obtain ⟨hholds, hplace⟩ := hclear.appendAll hnodup
  unfold load
  rw [show (Place.head : Place Slot) = placeAfter (slotsOf []) from rfl]
  generalize (events.map fun event => event.toEvent).foldl append (b.clear, placeAfter (slotsOf [])) = r
    at hholds hplace ⊢
  obtain ⟨b', place⟩ := r
  obtain rfl := hplace
  obtain ⟨hqueued, hfree, hcontents⟩ := hholds
  refine ⟨?_, ?_, hcontents⟩
  · have hlast : Linked b'.next b'.queue (slotsOf events ++ []) := by
      rw [List.append_nil]
      exact hqueued
    exact linked_setLink_none hlast
  · refine hfree.setLink (fun slot hslot hmem => ?_) none
    exact (List.nodup_append.mp hnodup).2.2 slot hslot slot hmem rfl

end Buffer

/-! ## The buffers of a coordinator's players -/

/-- The buffer a new player has: `calloc` clears it. -/
def Buffer.calloc : Buffer :=
  { event := fun _ => { type := .attach, playerId := 0, timestamp := 0 }
    next := fun _ => none
    queue := none
    freeList := none }

/-- Every player's buffer, by its id. -/
abbrev Buffers := Nat → Buffer

/-- What a step does to the buffers: the source's pointer operation on the one it is about. -/
def Buffers.apply (buffers : Buffers) : Pair.SlotLabel → Buffers
  | .accepted id event => Function.update buffers id ((buffers id).enqueue event.toEvent)
  | .unlinked id _ => Function.update buffers id (buffers id).unlink
  | .recycled id event _ => Function.update buffers id ((buffers id).recycle event.slot)
  | .replaced id events =>
    Function.update buffers id ((buffers id).load (events.map fun event => event.toEvent))
  | .joined id => Function.update buffers id Buffer.calloc.clear
  | _ => buffers

namespace Pair

/-- The event in hand, if it is the player's. -/
def eventsInHand (hand : Hand) (id : Nat) : List QueuedEvent :=
  match hand with
  | none => []
  | some (id', event) => if id' = id then [event] else []

theorem eventsInHand_self (id : Nat) (event : QueuedEvent) :
    eventsInHand (some (id, event)) id = [event] := if_pos rfl

theorem eventsInHand_of_ne {id id' : Nat} (h : id' ≠ id) (event : QueuedEvent) :
    eventsInHand (some (id, event)) id' = [] := if_neg (Ne.symm h)

theorem slotsOf_eventsInHand (hand : Hand) (id : Nat) :
    Buffer.slotsOf (eventsInHand hand id) = inHand hand id := by
  match hand with
  | none => rfl
  | some (id', event) =>
    unfold eventsInHand inHand
    dsimp only
    split
    · rfl
    · rfl

section

variable [Mgba]

/-- Every player's lists are what its buffer holds. -/
def Mirrored (x : Pair × Hand) (buffers : Buffers) : Prop :=
  ∀ id player, x.1.lookup id = some player →
    (buffers id).Holds (eventsInHand x.2 id) player.queue player.freeList

theorem mirrored_of_slots {s s' : Pair} {hand : Hand} {buffers : Buffers}
    (h : ∀ id, (s'.lookup id).map Player.slots = (s.lookup id).map Player.slots)
    (hmirrored : Mirrored (s, hand) buffers) : Mirrored (s', hand) buffers := by
  intro id player hplayer
  have hslots := h id
  rw [hplayer, Option.map_some, eq_comm, Option.map_eq_some_iff] at hslots
  obtain ⟨player', hplayer', heq⟩ := hslots
  have hqueue : player'.queue = player.queue := congrArg Slots.queue heq
  have hfree : player'.freeList = player.freeList := congrArg Slots.freeList heq
  rw [← hqueue, ← hfree]
  exact hmirrored id player' hplayer'

/-- **One player's slots are written**, and its buffer. -/
theorem Mirrored.write {s : Pair} {hand hand' : Hand} {buffers : Buffers} {id : Nat}
    {f : Player → Player} {buffer : Buffer} (h : Mirrored (s, hand) buffers)
    (hplayer : ∀ p, s.lookup id = some p →
      buffer.Holds (eventsInHand hand' id) (f p).queue (f p).freeList)
    (hothers : ∀ id', id' ≠ id → eventsInHand hand' id' = eventsInHand hand id') :
    Mirrored (s.modifyPlayer id f, hand') (Function.update buffers id buffer) := by
  intro id' player hfound
  rw [lookup_modifyPlayer] at hfound
  split at hfound
  · rename_i hid
    obtain ⟨p, hp, rfl⟩ := Option.map_eq_some_iff.mp hfound
    rw [hid] at hp ⊢
    rw [Function.update_self]
    exact hplayer p hp
  · rename_i hid
    rw [Function.update_of_ne hid, hothers id' hid]
    exact h id' player hfound

/-- A player in the account with a free slot has all its slots apart. -/
theorem SlotsInv.distinct {x : Pair × Hand} (h : SlotsInv x) {id : Nat} {player : Player}
    (hplayer : x.1.lookup id = some player) {slot : Slot} {freeList : List Slot}
    (hfree : player.freeList = slot :: freeList) :
    Buffer.Distinct (eventsInHand x.2 id) player.queue slot freeList := by
  have hslots := (h.accounted id player hplayer).slots
  constructor
  rw [Buffer.slotsOf_append, slotsOf_eventsInHand, ← hfree]
  exact hslots.nodup_iff.mpr (List.nodup_finRange _)

/-- **The pointer operations keep up with the steps.** -/
theorem Mirrored.step {x y : Pair × Hand} {l : SlotLabel} {buffers : Buffers} (hinv : SlotsInv x)
    (hstep : SlotStep x l y) (h : Mirrored x buffers) : Mirrored y (buffers.apply l) := by
  cases hstep with
  | quiet hand hsame => exact mirrored_of_slots hsame.slots h
  | offer r hand event i =>
    cases hlookup : r.1.lookup (r.1.seat i) with
    | none =>
      rw [enqueueAt_of_absent hlookup, offerLabel_of_absent hlookup]
      exact h
    | some player =>
      cases hfree : player.freeList with
      | nil =>
        rw [enqueueAt_of_full hlookup hfree, offerLabel_of_full hlookup hfree]
        exact h
      | cons slot freeList =>
        rw [offerLabel_of_free hlookup hfree]
        refine mirrored_of_slots (enqueueAt_takes hlookup hfree).slots ?_
        refine h.write (fun p hp => ?_) fun _ _ => rfl
        obtain rfl := Option.some.inj (hlookup.symm.trans hp)
        have hholds := h _ _ hlookup
        rw [hfree] at hholds
        exact Buffer.Holds.enqueue hholds (hinv.distinct hlookup hfree)
  | @unlink s id event rest hdue =>
    obtain ⟨player, hplayer, hqueue, -⟩ := hdue
    refine h.write (fun p hp => ?_) fun id' hne => eventsInHand_of_ne hne event
    obtain rfl := Option.some.inj (hplayer.symm.trans hp)
    have hholds := h _ _ hplayer
    rw [hqueue] at hholds
    rw [eventsInHand_self]
    exact hholds.unlink
  | recycle s id event =>
    refine h.write (fun p hp => ?_) fun id' hne => (eventsInHand_of_ne hne event).symm
    have hholds := h _ _ hp
    have hslots := (hinv.accounted _ _ hp).slots
    dsimp only at hholds hslots
    rw [eventsInHand_self] at hholds
    rw [show inHand (some (id, event)) id = [event.slot] from if_pos rfl] at hslots
    have hnodup := List.nodup_cons.mp (hslots.nodup_iff.mpr (List.nodup_finRange _))
    refine hholds.recycle (fun hmem => ?_) fun hmem => ?_
    · exact hnodup.1 (List.mem_append_left _ hmem)
    · exact hnodup.1 (List.mem_append_right _ hmem)
  | replace s id data =>
    refine h.write (fun p _ => ?_) fun _ _ => rfl
    refine Buffer.holds_load _ ?_
    unfold Buffer.slotsOf
    rw [slots_loadedQueue]
    exact List.take_append_drop _ _
  | @join s i hid =>
    rw [lockstepId_joinPlayer]
    refine mirrored_of_slots (sameSlots_joinPlayer s i).slots ?_
    refine mirrored_of_slots (samePlayers_reconfigPlayers _).slots fun id player hplayer => ?_
    obtain ⟨hfresh, -⟩ := hinv.roster.lookup_newId hid
    rw [lookup_entered] at hplayer
    cases hold : s.lookup id with
    | some player' =>
      have hne : id ≠ s.newId := by
        rintro rfl
        rw [hfresh] at hold
        cases hold
      rw [hold, Option.some_or] at hplayer
      obtain rfl := Option.some.inj hplayer
      rw [Buffers.apply, Function.update_of_ne hne]
      exact h id _ hold
    | none =>
      rw [hold, Option.none_or] at hplayer
      split at hplayer
      · rename_i hid'
        obtain rfl := Option.some.inj hplayer
        rw [Buffers.apply, hid', Function.update_self]
        exact Buffer.holds_clear _
      · cases hplayer
  | remove s player =>
    refine mirrored_of_slots (samePlayers_reconfigPlayers _).slots fun id player' hplayer' => ?_
    rw [lookup_tableRemove] at hplayer'
    split at hplayer'
    · cases hplayer'
    · exact h id player' hplayer'
  | @leave s i hid =>
    intro id player hplayer
    refine h id player ?_
    rw [← hplayer]
    match i with
    | 0 => rfl
    | 1 => rfl

/-! ## What a path says of the slots -/

/-- The queue of a player, empty if there is none. -/
def queueOf (s : Pair) (id : Nat) : List QueuedEvent :=
  ((s.lookup id).map fun p => p.queue).getD []

/-- An attached target refused the event. -/
def SlotLabel.refuses : SlotLabel → Bool
  | .refused _ _ => true
  | _ => false

/-- The ways an event leaves a player's queue: it is taken out to be processed, the queue is replaced
by a saved one, or the player is detached. -/
inductive SlotLabel.Takes (id : Nat) (event : QueuedEvent) : SlotLabel → Prop
  | unlinked : Takes id event (.unlinked id event)
  | replaced (events : List QueuedEvent) : Takes id event (.replaced id events)
  | removed : Takes id event (.removed id)

theorem queueOf_eq {s : Pair} {id : Nat} {player : Player} (h : s.lookup id = some player) :
    s.queueOf id = player.queue := by
  unfold queueOf
  rw [h]
  rfl

theorem queueOf_congr {s s' : Pair} {id : Nat}
    (h : (s'.lookup id).map Player.slots = (s.lookup id).map Player.slots) :
    s'.queueOf id = s.queueOf id := by
  have hqueue := congrArg (fun slots => (slots.map Slots.queue).getD []) h
  simp only [Option.map_map] at hqueue
  exact hqueue

theorem queueOf_modifyPlayer (s : Pair) (id id' : Nat) (f : Player → Player) :
    (s.modifyPlayer id f).queueOf id' =
      if id' = id then ((s.lookup id').map fun p => (f p).queue).getD [] else s.queueOf id' := by
  unfold queueOf
  rw [lookup_modifyPlayer]
  split
  · rw [Option.map_map]
    rfl
  · rfl

/-- A write to another player's slots, or one that keeps the event, leaves it queued. -/
theorem mem_queueOf_modifyPlayer {s : Pair} {id id' : Nat} {f : Player → Player} {event : QueuedEvent}
    (h : event ∈ s.queueOf id')
    (hkeeps : id' = id → ∀ p, s.lookup id = some p → event ∈ p.queue → event ∈ (f p).queue) :
    event ∈ (s.modifyPlayer id f).queueOf id' := by
  rw [queueOf_modifyPlayer]
  split
  · rename_i hid
    cases hlookup : s.lookup id' with
    | none =>
      rw [queueOf, hlookup] at h
      cases h
    | some player =>
      rw [queueOf_eq hlookup] at h
      exact hkeeps hid player (hid ▸ hlookup) h
  · exact h

/-- **An event leaves a queue in one of three ways.** -/
theorem queued_step {x y : Pair × Hand} {l : SlotLabel} (hstep : SlotStep x l y) {id : Nat}
    {event : QueuedEvent} (h : event ∈ x.1.queueOf id) :
    event ∈ y.1.queueOf id ∨ l.Takes id event := by
  cases hstep with
  | quiet hand hsame =>
    refine Or.inl ?_
    dsimp only at h ⊢
    rwa [queueOf_congr (hsame.slots id)]
  | offer r hand offered i =>
    refine Or.inl ?_
    dsimp only at h ⊢
    cases hlookup : r.1.lookup (r.1.seat i) with
    | none => rwa [enqueueAt_of_absent hlookup]
    | some player =>
      cases hfree : player.freeList with
      | nil =>
        rw [enqueueAt_of_full hlookup hfree]
        exact h
      | cons slot freeList =>
        rw [queueOf_congr ((enqueueAt_takes hlookup hfree).slots id)]
        refine mem_queueOf_modifyPlayer h fun _ p _ hp => ?_
        exact mem_insertBefore.mpr (Or.inr hp)
  | @unlink s id' event' rest hdue =>
    obtain ⟨player, hplayer, hqueue, -⟩ := hdue
    by_cases hid : id = id'
    · obtain rfl := hid
      rw [queueOf_eq hplayer, hqueue] at h
      rcases List.mem_cons.mp h with rfl | hrest
      · exact Or.inr .unlinked
      · refine Or.inl ?_
        change event ∈ (s.modifyPlayer id _).queueOf id
        rw [queueOf_modifyPlayer, if_pos rfl, hplayer]
        exact hrest
    · exact Or.inl (mem_queueOf_modifyPlayer h fun heq => absurd heq hid)
  | recycle s id' event' => exact Or.inl (mem_queueOf_modifyPlayer h fun _ _ _ hp => hp)
  | replace s id' data =>
    by_cases hid : id = id'
    · exact Or.inr (hid ▸ .replaced _)
    · exact Or.inl (mem_queueOf_modifyPlayer h fun heq => absurd heq hid)
  | @join s i hid =>
    refine Or.inl ?_
    dsimp only at h ⊢
    rw [queueOf_congr ((sameSlots_joinPlayer s i).slots id),
      queueOf_congr ((samePlayers_reconfigPlayers _).slots id)]
    unfold queueOf at h ⊢
    rw [lookup_entered]
    cases hlookup : s.lookup id with
    | none =>
      rw [hlookup] at h
      cases h
    | some player =>
      rw [hlookup] at h
      exact h
  | remove s player =>
    by_cases hid : id = (s.drivers player.driver).lockstepId
    · exact Or.inr (hid ▸ .removed)
    · refine Or.inl ?_
      dsimp only at h ⊢
      rw [queueOf_congr ((samePlayers_reconfigPlayers _).slots id)]
      unfold queueOf at h ⊢
      rwa [lookup_tableRemove, if_neg hid]
  | @leave s i hid =>
    refine Or.inl ?_
    match i with
    | 0 => exact h
    | 1 => exact h

/-- **The counter of dropped events counts the refusals.** -/
theorem droppedEvents_step {x y : Pair × Hand} {l : SlotLabel} (hstep : SlotStep x l y) :
    y.1.coordinator.droppedEvents =
      if l.refuses then x.1.coordinator.droppedEvents + 1 else x.1.coordinator.droppedEvents := by
  cases hstep with
  | quiet hand hsame => exact hsame.droppedEvents
  | offer r hand event i =>
    dsimp only
    cases hlookup : r.1.lookup (r.1.seat i) with
    | none =>
      rw [enqueueAt_of_absent hlookup, offerLabel_of_absent hlookup]
      rfl
    | some player =>
      cases hfree : player.freeList with
      | nil =>
        rw [enqueueAt_of_full hlookup hfree, offerLabel_of_full hlookup hfree]
        rfl
      | cons slot freeList =>
        rw [offerLabel_of_free hlookup hfree]
        exact (enqueueAt_takes hlookup hfree).droppedEvents
  | unlink hdue => rfl
  | recycle s id event => rfl
  | replace s id data => rfl
  | @join s i hid =>
    refine (sameSlots_joinPlayer s i).droppedEvents.trans ?_
    refine (samePlayers_reconfigPlayers _).droppedEvents.trans ?_
    match i with
    | 0 => rfl
    | 1 => rfl
  | remove s player => exact (samePlayers_reconfigPlayers _).droppedEvents
  | @leave s i hid =>
    match i with
    | 0 => rfl
    | 1 => rfl

/-- **A slot that is given back was counted**: the depth is never 0 then. -/
theorem depth_step {x y : Pair × Hand} {l : SlotLabel} (hstep : SlotStep x l y) (h : SlotsInv x) :
    ∀ id event depth, l = .recycled id event depth → 0 < depth := by
  intro id event depth hl
  cases hstep with
  | recycle s id' event' =>
    obtain ⟨-, -, rfl⟩ := SlotLabel.recycled.inj hl
    obtain ⟨player, hplayer⟩ := Option.isSome_iff_exists.mp (h.there id' event' rfl)
    have hdepth := (h.accounted id' player hplayer).depth
    dsimp only at hplayer hdepth
    rw [show inHand (some (id', event')) id' = [event'.slot] from if_pos rfl] at hdepth
    rw [hplayer]
    change 0 < player.queueDepth
    change player.queueDepth = 1 + player.queue.length at hdepth
    omega
  | offer r hand event' i =>
    unfold offerLabel at hl
    split at hl
    · cases hl
    · split at hl
      · cases hl
      · cases hl
  | quiet => cases hl
  | unlink => cases hl
  | replace => cases hl
  | join => cases hl
  | remove => cases hl
  | leave => cases hl

/-! ## Whole runs -/

theorem slotsInv_linkCreate (gba0 gba1 : Gba) : SlotsInv (linkCreate gba0 gba1, none) where
  roster := ⟨List.nodup_nil, rfl, fun _ he => absurd he List.not_mem_nil⟩
  seated := fun i _ hi => absurd hi (Nat.not_lt_zero i)
  accounted := nofun
  there := nofun

/-- **What a history says of the state it leads to**: every player's slots are accounted for, and its
buffer, written by the source's pointer operations alone, holds its two lists. -/
structure Accounts (past : List SlotLabel) (s : Pair) : Prop where
  slots : ∀ id player, s.lookup id = some player → Accounted [] player.slots
  lists : ∀ id player, s.lookup id = some player →
    (past.foldl Buffers.apply (fun _ => Buffer.calloc) id).Holds [] player.queue player.freeList

theorem accounts_of_path {s s' : Pair} {past : List SlotLabel} (hs : SlotsInv (s, none))
    (hnew : ∀ id, s.lookup id = none) (h : Path SlotStep (s, none) past (s', none)) :
    Accounts past s' where
  slots := (h.invariant (fun _ _ _ hstep hinv => SlotsInv.step hinv hstep) hs).accounted
  lists := by
    have hstart : Mirrored (s, none) fun _ => Buffer.calloc := by
      intro id player hplayer
      rw [hnew] at hplayer
      cases hplayer
    have hkeeps : ∀ x l y, SlotStep x l y → SlotsInv x → SlotsInv y :=
      fun _ _ _ hstep hinv => SlotsInv.step hinv hstep
    have hmirrored : ∀ x l y buffers, SlotStep x l y → SlotsInv x → Mirrored x buffers →
        Mirrored y (buffers.apply l) :=
      fun _ _ _ _ hstep hinv hrel => Mirrored.step hinv hstep hrel
    exact Path.simulates hkeeps hmirrored h hs hstart

end

section

variable [MgbaTimer]

/-- A run is a path. -/
theorem connects_run (steps : List LinkStep) {s : Pair} (h : SlotsInv (s, none)) :
    Connects SlotStep (s, none) (run linkStep s steps, none) := by
  induction steps generalizing s with
  | nil => exact .refl _
  | cons a steps ih =>
    have hstep := connects_linkStep h.roster a
    refine hstep.trans (ih ?_)
    obtain ⟨labels, hpath⟩ := hstep
    exact hpath.invariant (fun _ _ _ hstep hinv => SlotsInv.step hinv hstep) h

/-- **The slots of the event buffers, over every run.** Whatever is attached, detached, enqueued,
processed, reset and loaded: after each step every slot of every player is in its queue or its free
list, once, as the links of its buffer have it, and `queueDepth` is the queue's length; no slot is
given back at depth 0; `droppedEvents` grows by the refusals, modulo 2^32; and an event leaves a queue only to be
processed, with its player, or when a saved queue takes its place. -/
theorem slots_accounted (gba0 gba1 : Gba) (steps : List LinkStep) :
    let s := run linkStep (linkCreate gba0 gba1) steps
    ∃ past, Path SlotStep (linkCreate gba0 gba1, none) past (s, none) ∧ Accounts past s ∧
      ∀ a, ∃ labels, Path SlotStep (s, none) labels (s.linkStep a, none) ∧
        Accounts (past ++ labels) (s.linkStep a) ∧
        (s.linkStep a).coordinator.droppedEvents =
          s.coordinator.droppedEvents + BitVec.ofNat 32 (labels.countP SlotLabel.refuses) ∧
        (∀ id event depth, .recycled id event depth ∈ labels → 0 < depth) ∧
        ∀ id, ∀ event ∈ s.queueOf id,
          event ∈ (s.linkStep a).queueOf id ∨ ∃ l ∈ labels, l.Takes id event := by
  intro s
  have hstart := slotsInv_linkCreate gba0 gba1
  have hkeeps : ∀ x l y, SlotStep x l y → SlotsInv x → SlotsInv y :=
    fun _ _ _ hstep hinv => SlotsInv.step hinv hstep
  obtain ⟨past, hpast⟩ := connects_run steps hstart
  have hs : SlotsInv (s, none) := hpast.invariant hkeeps hstart
  refine ⟨past, hpast, accounts_of_path hstart (fun _ => rfl) hpast, fun a => ?_⟩
  obtain ⟨labels, hpath⟩ := connects_linkStep hs.roster a
  refine ⟨labels, hpath, accounts_of_path hstart (fun _ => rfl) (hpast.append hpath), ?_, ?_, ?_⟩
  · have hcount : ∀ x l y, SlotStep x l y → y.1.coordinator.droppedEvents =
        if l.refuses then x.1.coordinator.droppedEvents + 1 else x.1.coordinator.droppedEvents :=
      fun _ _ _ hstep => droppedEvents_step hstep
    exact Path.total (M := BitVec 32) hcount hpath
  · intro id event depth hmem
    exact hpath.labels hkeeps (fun _ _ _ hstep hinv => depth_step hstep hinv) hs _ hmem id event depth rfl
  · intro id event hevent
    have hqueued : ∀ x l y, SlotStep x l y → event ∈ x.1.queueOf id →
        event ∈ y.1.queueOf id ∨ l.Takes id event :=
      fun _ _ _ hstep hin => queued_step hstep hin
    exact Path.keeps hqueued hpath hevent

end

end Pair

end DualBoy.Lockstep
