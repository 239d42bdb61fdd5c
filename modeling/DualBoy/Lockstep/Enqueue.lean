import Mathlib.Data.List.Nodup
import DualBoy.Lib.HalfRange
import DualBoy.Lockstep.Run
import DualBoy.Lockstep.Table

/-!
# Stable sorted insertion

`_enqueueEvent` on any coordinator, whoever is seated and whatever the queues hold. The loop over the
places serves each target on its own, `Enqueued.step`; a player that takes the event has it behind
every event that is no later, as long as the timestamps lie in a window of half their range,
`offered_sorted`. Together they are **`enqueueEvent_inserts`**. That no player sits in two places is
what `_reconfigPlayers` sees to, `seated_reconfigPlayers`.
-/

namespace DualBoy.Lockstep

open DualBoy.Lib

namespace Pair

section

variable [Mgba]

/-! ## Places -/

/-- The key of the player in a place. -/
def seat (s : Pair) (i : Nat) : Nat := s.coordinator.attachedPlayers.getD i 0

/-- An attached place that the mask names. -/
def Targeted (s : Pair) (targets : BitVec 32) (i : Nat) : Prop :=
  i < s.coordinator.nAttached ∧ targets &&& target i ≠ 0

/-- No player sits in two attached places. -/
def Seated (s : Pair) : Prop :=
  ∀ i j, i < s.coordinator.nAttached → j < s.coordinator.nAttached →
    (s.lookup (s.seat i)).isSome → s.seat i = s.seat j → i = j

/-! ## Who sits where -/

/-- No key stands in two places of the list; places that hold 0 are empty. -/
def Apart (seats : List Nat) : Prop :=
  ∀ (i j v : Nat), v ≠ 0 → seats[i]? = some v → seats[j]? = some v → i = j

omit [Mgba] in
theorem apart_replicate (n : Nat) : Apart (List.replicate n 0) := by
  intro i j v hv hi
  have hzero := List.eq_of_mem_replicate (List.mem_of_getElem? hi)
  exact absurd hzero hv

omit [Mgba] in
/-- Emptying places leaves the others apart. -/
theorem Apart.map {seats : List Nat} (h : Apart seats) {f : Nat → Nat}
    (hf : ∀ v, f v = v ∨ f v = 0) : Apart (seats.map f) := by
  intro i j v hv hi hj
  rw [List.getElem?_map, Option.map_eq_some_iff] at hi hj
  obtain ⟨a, ha, hav⟩ := hi
  obtain ⟨b, hb, hbv⟩ := hj
  have hcome {u : Nat} (hu : f u = v) : u = v := by
    rcases hf u with hsame | hzero
    · exact hsame.symm.trans hu
    · exact absurd (hu.symm.trans hzero) hv
  rw [hcome hav] at ha
  rw [hcome hbv] at hb
  exact h i j v hv ha hb

omit [Mgba] in
theorem Apart.set {seats : List Nat} (h : Apart seats) {k pid : Nat} (hpid : pid ∉ seats) :
    Apart (seats.set k pid) := by
  intro i j v hv hi hj
  rw [List.getElem?_set] at hi hj
  have hnew {m : Nat} (hm : seats[m]? = some v) : pid ≠ v := by
    rintro rfl
    exact hpid (List.mem_of_getElem? hm)
  by_cases hik : k = i
  · by_cases hjk : k = j
    · omega
    · rw [if_pos hik] at hi
      rw [if_neg hjk] at hj
      split at hi
      · exact absurd (Option.some.inj hi) (hnew hj)
      · cases hi
  · rw [if_neg hik] at hi
    by_cases hjk : k = j
    · rw [if_pos hjk] at hj
      split at hj
      · exact absurd (Option.some.inj hj) (hnew hi)
      · cases hj
    · rw [if_neg hjk] at hj
      exact h i j v hv hi hj

/-- Players seated apart sit in no two places. -/
theorem seated_of_apart {s : Pair} (h : Apart s.coordinator.attachedPlayers)
    (hzero : s.lookup 0 = none) : s.Seated := by
  intro i j hi hj hsome hsame
  have hne : s.seat i ≠ 0 := by
    intro heq
    rw [heq, hzero] at hsome
    cases hsome
  have hfind {k : Nat} (hk : s.seat k ≠ 0) :
      s.coordinator.attachedPlayers[k]? = some (s.seat k) := by
    unfold seat at hk ⊢
    rw [List.getD_eq_getElem?_getD] at hk ⊢
    cases hget : s.coordinator.attachedPlayers[k]? with
    | none =>
      rw [hget] at hk
      exact absurd rfl hk
    | some v => rfl
  exact h i j _ hne (hfind hne) (hsame ▸ hfind (hsame ▸ hne))

/-- The assignment of the places, one player after the other. -/
theorem apart_assign {order : List Nat} (horder : order.Nodup) (k : Nat) {s : Pair}
    (hapart : Apart s.coordinator.attachedPlayers) (hzero : s.lookup 0 = none)
    (hfresh : ∀ pid ∈ order, pid ∉ s.coordinator.attachedPlayers) :
    let s' := (order.zipIdx k).foldl (fun s (e : Nat × Nat) =>
      let s := s.modifyCoordinator fun c => { c with attachedPlayers := c.attachedPlayers.set e.2 e.1 }
      s.modifyPlayer e.1 fun p => { p with playerId := e.2 }) s
    Apart s'.coordinator.attachedPlayers ∧ s'.lookup 0 = none := by
  induction order generalizing k s with
  | nil => exact ⟨hapart, hzero⟩
  | cons pid order ih =>
    obtain ⟨hpid, horder⟩ := List.nodup_cons.mp horder
    rw [List.zipIdx_cons, List.foldl_cons]
    refine ih horder (k + 1) (hapart.set (hfresh pid List.mem_cons_self)) ?_ ?_
    · rw [lookup_modifyPlayer]
      have hsame : (s.modifyCoordinator fun c =>
          { c with attachedPlayers := c.attachedPlayers.set k pid }).lookup 0 = none := hzero
      split
      · rw [hsame]
        rfl
      · exact hsame
    · intro other hother hmem
      rcases List.mem_or_eq_of_mem_set hmem with hmem | rfl
      · exact hfresh other (List.mem_cons_of_mem _ hother) hmem
      · exact hpid hother

omit [Mgba] in
theorem map_fst_filterMap_sublist {α β : Type} {f : Nat × α → Option (Nat × β)}
    (hf : ∀ e r, f e = some r → r.1 = e.1) {l : List (Nat × α)} :
    ((l.filterMap f).map Prod.fst).Sublist (l.map Prod.fst) := by
  induction l with
  | nil => exact List.Sublist.slnil
  | cons e l ih =>
    rw [List.filterMap_cons, List.map_cons]
    cases hfe : f e with
    | none => exact ih.cons _
    | some r =>
      rw [List.map_cons, hf e r hfe]
      exact ih.cons_cons _

/-- The order of the places: the players by what each asked for. -/
theorem assignedOrder_eq (s : Pair) : ∃ requests : List (Nat × Nat),
    (requests.map Prod.fst).Sublist (s.coordinator.players.map Prod.fst) ∧
    s.assignedOrder =
      (List.range maxGbas).flatMap fun j => (requests.filter fun r => r.2 = j).map Prod.fst := by
  refine ⟨_, ((List.take_sublist _ _).map _).trans (map_fst_filterMap_sublist ?_), rfl⟩
  intro e r hr
  dsimp only at hr
  split at hr
  · cases hr
  · exact (congrArg Prod.fst (Option.some.inj hr)).symm

/-- No player is given two places. -/
theorem nodup_assignedOrder {s : Pair} (hkeys : (s.coordinator.players.map Prod.fst).Nodup) :
    s.assignedOrder.Nodup := by
  obtain ⟨requests, hsublist, horder⟩ := s.assignedOrder_eq
  have hdistinct : (requests.map Prod.fst).Nodup := hkeys.sublist hsublist
  rw [horder, List.nodup_flatMap]
  refine ⟨fun j _ => hdistinct.sublist (List.filter_sublist.map _), ?_⟩
  refine List.nodup_range.imp fun {j j'} hne pid hj hj' => ?_
  obtain ⟨r, hr, rfl⟩ := List.mem_map.mp hj
  obtain ⟨r', hr', hsame⟩ := List.mem_map.mp hj'
  rw [List.mem_filter] at hr hr'
  obtain rfl := List.inj_on_of_nodup_map hdistinct hr'.1 hr.1 hsame
  exact hne ((decide_eq_true_eq.mp hr.2).symm.trans (decide_eq_true_eq.mp hr'.2))

theorem mem_assignedOrder {s : Pair} {pid : Nat} (h : pid ∈ s.assignedOrder) :
    pid ∈ s.coordinator.players.map Prod.fst := by
  obtain ⟨requests, hsublist, horder⟩ := s.assignedOrder_eq
  rw [horder] at h
  obtain ⟨j, -, hj⟩ := List.mem_flatMap.mp h
  obtain ⟨r, hr, rfl⟩ := List.mem_map.mp hj
  exact hsublist.subset (List.mem_map_of_mem (List.mem_of_mem_filter hr))

/-- A key in the table is not 0. -/
theorem key_ne_zero {s : Pair} (hzero : s.lookup 0 = none) {pid : Nat}
    (h : pid ∈ s.coordinator.players.map Prod.fst) : pid ≠ 0 := by
  rintro rfl
  obtain ⟨e, he, hkey⟩ := List.mem_map.mp h
  have hne := List.lookup_eq_none_iff.mp hzero e he
  rw [hkey] at hne
  cases hne

/-- The end of `_reconfigPlayers`: places of absent players are emptied, and the others counted. -/
theorem seated_counted {s : Pair}
    (h : Apart s.coordinator.attachedPlayers ∧ s.lookup 0 = none) :
    let attached := s.coordinator.attachedPlayers.map fun pid =>
      if (s.lookup pid).isSome then pid else 0
    (s.modifyCoordinator fun c =>
      { c with
        attachedPlayers := attached
        nAttached := (attached.filter (· ≠ 0)).length }).Seated := by
  refine seated_of_apart (h.1.map fun pid => ?_) h.2
  split
  · exact Or.inl rfl
  · exact Or.inr rfl

/-- **`_reconfigPlayers` seats no player twice**, whatever the table: its keys are distinct, and none
of them is 0. -/
theorem seated_reconfigPlayers {s : Pair} (hkeys : (s.coordinator.players.map Prod.fst).Nodup)
    (hzero : s.lookup 0 = none) : s.reconfigPlayers.Seated := by
  have hempty : Apart (List.replicate maxGbas 0) := apart_replicate maxGbas
  have hfresh {pid : Nat} (hpid : pid ∈ s.coordinator.players.map Prod.fst) :
      pid ∉ List.replicate maxGbas 0 :=
    fun hmem => key_ne_zero hzero hpid (List.eq_of_mem_replicate hmem)
  unfold reconfigPlayers
  refine seated_counted ?_
  split
  · exact ⟨hempty, hzero⟩
  · rename_i p0 player hplayers
    have hplayers : s.coordinator.players = [(p0, player)] := hplayers
    have hp0 : p0 ∉ List.replicate maxGbas 0 := hfresh (by rw [hplayers]; exact List.mem_cons_self)
    have hnone : (s.modifyPlayer p0 fun p => { p with playerId := 0 }).lookup 0 = none := by
      rw [lookup_modifyPlayer, hzero]
      split
      · rfl
      · rfl
    dsimp only
    split
    · exact ⟨hempty.set hp0, hnone⟩
    · exact ⟨hempty.set hp0, hnone⟩
  · exact apart_assign (nodup_assignedOrder hkeys) 0 hempty hzero
      fun pid hpid => hfresh (mem_assignedOrder hpid)

/-! ## One target -/

/-- A player with one more event in its queue. -/
def withEvent (player : Player) (event : QueuedEvent) (freeList : List (Fin maxLockstepEvents)) :
    Player :=
  { player with
    freeList
    queue := insertBefore (precedes event) event player.queue
    queueDepth := player.queueDepth + 1
    maxQueueDepth := max player.maxQueueDepth (player.queueDepth + 1) }

/-- What becomes of a player the event is offered to: without a free slot it stays as it is. -/
inductive Offered (event : Event) (player : Player) : Player → Prop
  | full (h : player.freeList = []) : Offered event player player
  | taken {slot : Fin maxLockstepEvents} {freeList : List (Fin maxLockstepEvents)}
      (h : player.freeList = slot :: freeList) (serial : Nat) :
      Offered event player (withEvent player { event with slot, serial } freeList)

@[simp] theorem coordinator_rescheduleForQueueHead (s : Pair) (id : Nat) :
    (s.rescheduleForQueueHead id).coordinator = s.coordinator := by
  unfold rescheduleForQueueHead
  split
  · rfl
  dsimp only
  split
  · rfl
  split
  · split
    · rfl
    · exact coordinator_modifyGba _ _ _
  · rfl

/-- Only the machine of the player is rescheduled. -/
theorem drivers_rescheduleForQueueHead (s : Pair) {id : Nat} {player : Player}
    (hplayer : s.lookup id = some player) {j : Fin 2} (hj : player.driver ≠ j) :
    (s.rescheduleForQueueHead id).drivers j = s.drivers j := by
  unfold rescheduleForQueueHead
  rw [hplayer]
  dsimp only
  split
  · rfl
  split
  · split
    · rfl
    · exact drivers_modifyGba_of_ne s hj _
  · rfl

variable {event : Event} {r : Pair × Bool} {i : Nat}

theorem enqueueAt_of_absent (h : r.1.lookup (r.1.seat i) = none) :
    enqueueAt event r i = (r.1, false) := by
  unfold enqueueAt
  dsimp only
  rw [show r.1.lookup (r.1.coordinator.attachedPlayers.getD i 0) = none from h]

theorem enqueueAt_of_full {player : Player} (h : r.1.lookup (r.1.seat i) = some player)
    (hfull : player.freeList = []) :
    enqueueAt event r i =
      (r.1.modifyCoordinator fun c => { c with droppedEvents := c.droppedEvents + 1 }, false) := by
  unfold enqueueAt
  dsimp only
  rw [show r.1.lookup (r.1.coordinator.attachedPlayers.getD i 0) = some player from h]
  dsimp only
  rw [hfull]

theorem enqueueAt_of_free {player : Player} {slot : Fin maxLockstepEvents}
    {freeList : List (Fin maxLockstepEvents)} (h : r.1.lookup (r.1.seat i) = some player)
    (hfree : player.freeList = slot :: freeList) :
    ∃ s : Pair, enqueueAt event r i = (s.rescheduleForQueueHead (r.1.seat i), r.2) ∧
      s.coordinator.attachedPlayers = r.1.coordinator.attachedPlayers ∧
      s.drivers = r.1.drivers ∧
      ∀ id, s.lookup id = if id = r.1.seat i then
        some (withEvent player { event with slot, serial := r.1.ghost.published + 1 } freeList)
        else r.1.lookup id := by
  unfold enqueueAt
  dsimp only
  rw [show r.1.lookup (r.1.coordinator.attachedPlayers.getD i 0) = some player from h]
  dsimp only
  rw [hfree]
  dsimp only
  refine ⟨_, rfl, ?_, ?_, ?_⟩
  · split
    · rfl
    · rfl
  · split
    · rfl
    · rfl
  · intro id
    let newEvent : QueuedEvent := { event with slot, serial := r.1.ghost.published + 1 }
    let f : Player → Player := fun p =>
      { p with
        freeList
        queue := insertBefore (precedes newEvent) newEvent p.queue
        queueDepth := player.queueDepth + 1
        maxQueueDepth := max p.maxQueueDepth (player.queueDepth + 1) }
    have hf : f player = withEvent player newEvent freeList := rfl
    have hwritten : (r.1.modifyPlayer (r.1.seat i) f).lookup id =
        if id = r.1.seat i then some (withEvent player newEvent freeList) else r.1.lookup id := by
      rw [lookup_modifyPlayer]
      by_cases hid : id = r.1.seat i
      · rw [if_pos hid, if_pos hid, hid, h, Option.map_some, hf]
      · rw [if_neg hid, if_neg hid]
    rw [← hwritten]
    split
    · rfl
    · rfl

/-- **What one turn of `_enqueueEvent`'s loop does**: to the player in the place, and to nothing
else. -/
structure Served (event : Event) (i : Nat) (r r' : Pair × Bool) : Prop where
  seats : r'.1.coordinator.attachedPlayers = r.1.coordinator.attachedPlayers
  player : ∀ p, r.1.lookup (r.1.seat i) = some p →
    ∃ p', r'.1.lookup (r.1.seat i) = some p' ∧ Offered event p p'
  others : ∀ id, (r.1.lookup (r.1.seat i)).isNone ∨ id ≠ r.1.seat i → r'.1.lookup id = r.1.lookup id
  result : r'.2 = true ↔
    r.2 = true ∧ ∃ p, r.1.lookup (r.1.seat i) = some p ∧ p.freeList ≠ []
  machines : ∀ j, (∀ p, r.1.lookup (r.1.seat i) = some p → p.driver ≠ j) →
    r'.1.drivers j = r.1.drivers j

theorem served_enqueueAt (event : Event) (i : Nat) (r : Pair × Bool) :
    Served event i r (enqueueAt event r i) := by
  cases hlookup : r.1.lookup (r.1.seat i) with
  | none =>
    rw [enqueueAt_of_absent hlookup]
    refine ⟨rfl, ?_, fun _ _ => rfl, ?_, fun _ _ => rfl⟩
    · intro p hp
      rw [hlookup] at hp
      cases hp
    · rw [hlookup]
      simp
  | some player =>
    cases hfree : player.freeList with
    | nil =>
      rw [enqueueAt_of_full hlookup hfree]
      refine ⟨rfl, ?_, fun _ _ => rfl, ?_, fun _ _ => rfl⟩
      · intro p hp
        obtain rfl := Option.some.inj (hlookup.symm.trans hp)
        exact ⟨player, hlookup, .full hfree⟩
      · rw [hlookup]
        simp [hfree]
    | cons slot freeList =>
      obtain ⟨s, hs, hseats, hdrivers, hplayers⟩ := enqueueAt_of_free hlookup hfree
      rw [hs]
      have hlookups (id : Nat) :
          (s.rescheduleForQueueHead (r.1.seat i)).lookup id = s.lookup id :=
        lookup_congr (by rw [coordinator_rescheduleForQueueHead]) id
      refine ⟨?_, ?_, ?_, ?_, ?_⟩
      · rw [coordinator_rescheduleForQueueHead, hseats]
      · intro p hp
        obtain rfl := Option.some.inj (hlookup.symm.trans hp)
        rw [hlookups, hplayers, if_pos rfl]
        exact ⟨_, rfl, .taken hfree _⟩
      · rintro id (hnone | hne)
        · rw [hlookup] at hnone
          cases hnone
        · rw [hlookups, hplayers, if_neg hne]
      · rw [hlookup]
        simp [hfree]
      · intro j hj
        have hplayer := hplayers (r.1.seat i)
        rw [if_pos rfl] at hplayer
        rw [drivers_rescheduleForQueueHead s hplayer (hj player hlookup), hdrivers]

/-! ## All targets -/

/-- The loop of `_enqueueEvent` behind its first `n` places. -/
structure Enqueued (s : Pair) (event : Event) (targets : BitVec 32) (n : Nat) (r : Pair × Bool) :
    Prop where
  seats : r.1.coordinator.attachedPlayers = s.coordinator.attachedPlayers
  players : ∀ i p, i < n → targets &&& target i ≠ 0 → s.lookup (s.seat i) = some p →
    ∃ p', r.1.lookup (s.seat i) = some p' ∧ Offered event p p'
  others : ∀ id, (∀ i, i < n → targets &&& target i ≠ 0 → s.seat i ≠ id) →
    r.1.lookup id = s.lookup id
  absent : ∀ id, s.lookup id = none → r.1.lookup id = none
  result : r.2 = true ↔ ∀ i, i < n → targets &&& target i ≠ 0 →
    ∃ p, s.lookup (s.seat i) = some p ∧ p.freeList ≠ []
  machines : ∀ j, (∀ i p, i < n → targets &&& target i ≠ 0 → s.lookup (s.seat i) = some p →
    p.driver ≠ j) → r.1.drivers j = s.drivers j

theorem enqueued_start (s : Pair) (event : Event) (targets : BitVec 32) :
    Enqueued s event targets 0 (s, true) where
  seats := rfl
  players := fun i _ hi => absurd hi (Nat.not_lt_zero i)
  others := fun _ _ => rfl
  absent := fun _ hid => hid
  result := ⟨fun _ i hi => absurd hi (Nat.not_lt_zero i), fun _ => rfl⟩
  machines := fun _ _ => rfl

variable {s : Pair} {targets : BitVec 32} {n : Nat}

/-- The player in the next place is as it was: it sits in no place before. -/
theorem Enqueued.current (h : Enqueued s event targets n r) (hseated : s.Seated)
    (hn : n < s.coordinator.nAttached) : r.1.lookup (s.seat n) = s.lookup (s.seat n) := by
  cases hlookup : s.lookup (s.seat n) with
  | none => exact h.absent _ hlookup
  | some player =>
    rw [← hlookup]
    refine h.others _ fun i hi _ hseat => ?_
    have hsome : (s.lookup (s.seat i)).isSome := by
      rw [hseat, hlookup]
      rfl
    have := hseated i n (Nat.lt_trans hi hn) hn hsome hseat
    omega

/-- A place the mask does not name is passed over. -/
theorem Enqueued.skip (h : Enqueued s event targets n r) (hn : targets &&& target n = 0) :
    Enqueued s event targets (n + 1) r := by
  have hback {i : Nat} (hi : i < n + 1) (htarget : targets &&& target i ≠ 0) : i < n := by
    rcases Nat.lt_succ_iff_lt_or_eq.mp hi with hless | rfl
    · exact hless
    · exact absurd hn htarget
  refine ⟨h.seats, ?_, ?_, h.absent, ?_, ?_⟩
  · exact fun i p hi htarget => h.players i p (hback hi htarget) htarget
  · exact fun id hid => h.others id fun i hi => hid i (Nat.lt_succ_of_lt hi)
  · rw [h.result]
    constructor
    · exact fun hall i hi htarget => hall i (hback hi htarget) htarget
    · exact fun hall i hi => hall i (Nat.lt_succ_of_lt hi)
  · exact fun j hj => h.machines j fun i p hi => hj i p (Nat.lt_succ_of_lt hi)

/-- **One more target.** -/
theorem Enqueued.step (h : Enqueued s event targets n r) (hseated : s.Seated)
    (hn : n < s.coordinator.nAttached) (htarget : targets &&& target n ≠ 0) {r' : Pair × Bool}
    (hserved : Served event n r r') : Enqueued s event targets (n + 1) r' := by
  have hseat : r.1.seat n = s.seat n := by
    unfold seat
    rw [h.seats]
  have hcurrent := h.current hseated hn
  obtain ⟨hseats, hplayer, hothers, hresult, hmachines⟩ := hserved
  rw [hseat, hcurrent] at hplayer hothers hresult hmachines
  refine ⟨hseats.trans h.seats, ?_, ?_, ?_, ?_, ?_⟩
  · intro i p hi hi' hp
    rcases Nat.lt_succ_iff_lt_or_eq.mp hi with hless | rfl
    · obtain ⟨p', hp', hoffered⟩ := h.players i p hless hi' hp
      refine ⟨p', ?_, hoffered⟩
      have hne : s.seat i ≠ s.seat n := by
        intro hsame
        have := hseated i n (Nat.lt_trans hless hn) hn (Option.isSome_of_eq_some hp) hsame
        omega
      rw [hothers _ (Or.inr hne), hp']
    · exact hplayer p hp
  · intro id hid
    rw [hothers id (Or.inr (hid n (Nat.lt_succ_self n) htarget).symm)]
    exact h.others id fun i hi => hid i (Nat.lt_succ_of_lt hi)
  · intro id hid
    rw [hothers id ?_]
    · exact h.absent id hid
    · by_cases hsame : id = s.seat n
      · rw [← hsame, hid]
        exact Or.inl rfl
      · exact Or.inr hsame
  · rw [hresult, h.result]
    constructor
    · rintro ⟨hall, hlast⟩ i hi hi'
      rcases Nat.lt_succ_iff_lt_or_eq.mp hi with hless | rfl
      · exact hall i hless hi'
      · exact hlast
    · intro hall
      exact ⟨fun i hi => hall i (Nat.lt_succ_of_lt hi), hall n (Nat.lt_succ_self n) htarget⟩
  · intro j hj
    rw [hmachines j (fun p hp => hj n p (Nat.lt_succ_self n) htarget hp)]
    exact h.machines j fun i p hi => hj i p (Nat.lt_succ_of_lt hi)

/-- **Every target is served on its own.** -/
theorem enqueued_enqueueEvent (hseated : s.Seated) (event : Event) (targets : BitVec 32) :
    Enqueued s event targets s.coordinator.nAttached (s.enqueueEvent event targets) := by
  have hprefix : ∀ n, n ≤ s.coordinator.nAttached →
      Enqueued s event targets n ((List.range n).foldl (fun r (i : Nat) =>
        if targets &&& target i = 0 then r else enqueueAt event r i) (s, true)) := by
    intro n
    induction n with
    | zero => exact fun _ => enqueued_start s event targets
    | succ n ih =>
      intro hn
      rw [List.range_succ, List.foldl_append, List.foldl_cons, List.foldl_nil]
      split
      · exact (ih (Nat.le_of_succ_le hn)).skip ‹_›
      · exact (ih (Nat.le_of_succ_le hn)).step hseated hn ‹_› (served_enqueueAt _ _ _)
  exact hprefix _ (Nat.le_refl _)

/-! ## Order -/

/-- A queue in the order of its timestamps, each event against the next. -/
def Ordered (queue : List QueuedEvent) : Prop :=
  queue.IsChain fun a b => NoLater a.timestamp b.timestamp

/-- The timestamps of a queue and of an event lie in a window of fewer than 2^31 cycles. -/
def InWindow (event : Event) (queue : List QueuedEvent) : Prop :=
  ∃ base : Cycle, WindowFrom base (event.timestamp :: queue.map fun queued => queued.timestamp)

/-- **Where a player has taken the event**: behind every event that is no later, those of the same
timestamp among them, and before every later one; the others stand as they stood. -/
structure Inserted (event : Event) (player player' : Player) : Prop where
  order : ∃ pre post newEvent, player.queue = pre ++ post ∧
    player'.queue = pre ++ newEvent :: post ∧ newEvent.toEvent = event ∧
    some newEvent.slot = player.freeList.head? ∧
    (∀ queued ∈ pre, NoLater queued.timestamp event.timestamp) ∧
    (∀ queued ∈ post, ¬NoLater queued.timestamp event.timestamp)
  sorted : player'.queue.Pairwise fun a b => NoLater a.timestamp b.timestamp
  rest : player' =
    { player with
      queue := player'.queue
      freeList := player.freeList.tail
      queueDepth := player.queueDepth + 1
      maxQueueDepth := max player.maxQueueDepth (player.queueDepth + 1) }

omit [Mgba] in
/-- `_enqueueEvent` looks for the first event that is later. -/
theorem precedes_iff {newEvent queued : QueuedEvent} :
    precedes newEvent queued = true ↔ ¬NoLater queued.timestamp newEvent.timestamp := by
  unfold precedes NoLater
  rw [cycleDelta_eq, decide_eq_true_eq]
  omega

omit [Mgba] in
theorem ordered_pairwise {queue : List QueuedEvent} {base : Cycle} (h : Ordered queue)
    (hwindow : ∀ queued ∈ queue, (queued.timestamp - base).toNat < 2 ^ 31) :
    queue.Pairwise fun a b => (a.timestamp - base).toNat ≤ (b.timestamp - base).toNat := by
  let after (a b : QueuedEvent) : Prop := (a.timestamp - base).toNat ≤ (b.timestamp - base).toNat
  have htrans : Trans after after after := ⟨fun hab hbc => Nat.le_trans hab hbc⟩
  have hchain : queue.IsChain after :=
    h.imp_of_mem_imp fun a b ha hb hab => (noLater_iff (hwindow a ha) (hwindow b hb)).mp hab
  exact hchain.pairwise

omit [Mgba] in
/-- **A player in order that takes the event is in order**, the event where it belongs. -/
theorem offered_sorted {player player' : Player} (h : Offered event player player')
    (hfree : player.freeList ≠ []) (hordered : Ordered player.queue)
    (hwindow : InWindow event player.queue) : Inserted event player player' := by
  obtain ⟨base, hwindow⟩ := hwindow
  have hevent : (event.timestamp - base).toNat < 2 ^ 31 := hwindow _ List.mem_cons_self
  have hqueue : ∀ queued ∈ player.queue, (queued.timestamp - base).toNat < 2 ^ 31 :=
    fun queued hqueued => hwindow _ (List.mem_cons_of_mem _ (List.mem_map_of_mem hqueued))
  cases h with
  | full hfull => exact absurd hfull hfree
  | @taken slot freeList hslot serial =>
    let newEvent : QueuedEvent := { event with slot, serial }
    let key (queued : QueuedEvent) : Nat := (queued.timestamp - base).toNat
    have hstop : ∀ queued ∈ player.queue,
        precedes newEvent queued = true ↔ key newEvent < key queued := by
      intro queued hqueued
      rw [precedes_iff, noLater_iff (hqueue queued hqueued) hevent, Nat.not_le]
    obtain ⟨pre, post, hsplit, hinsert, hpre, hpost, hsorted⟩ :=
      insertBefore_sorted key hstop (ordered_pairwise hordered hqueue)
    have hmem : ∀ queued ∈ insertBefore (precedes newEvent) newEvent player.queue,
        (queued.timestamp - base).toNat < 2 ^ 31 := by
      intro queued hqueued
      rcases mem_insertBefore.mp hqueued with rfl | hqueued
      · exact hevent
      · exact hqueue queued hqueued
    refine ⟨⟨pre, post, newEvent, hsplit, hinsert, rfl, ?_, ?_, ?_⟩, ?_, ?_⟩
    · rw [hslot]
      rfl
    · intro queued hqueued
      have hin : queued ∈ player.queue := hsplit ▸ List.mem_append_left _ hqueued
      exact (noLater_iff (hqueue queued hin) hevent).mpr (hpre queued hqueued)
    · intro queued hqueued
      have hin : queued ∈ player.queue := hsplit ▸ List.mem_append_right _ hqueued
      rw [noLater_iff (hqueue queued hin) hevent]
      exact Nat.not_le.mpr (hpost queued hqueued)
    · refine hsorted.imp_of_mem fun ha hb hab => ?_
      exact (noLater_iff (hmem _ ha) (hmem _ hb)).mpr hab
    · unfold withEvent
      rw [hslot]
      rfl

/-- **Stable sorted insertion.** A target with a free slot, its queue in order and in one window with
the event, has the event inserted behind all that are no later. A target without a free slot stays as
it is. Players and machines that are no target's stay as they are. The result says whether every
target took the event. -/
theorem enqueueEvent_inserts (hseated : s.Seated) (event : Event) (targets : BitVec 32) :
    let r := s.enqueueEvent event targets
    (∀ i player, s.Targeted targets i → s.lookup (s.seat i) = some player →
      player.freeList ≠ [] → Ordered player.queue → InWindow event player.queue →
      ∃ player', r.1.lookup (s.seat i) = some player' ∧ Inserted event player player') ∧
    (∀ i player, s.Targeted targets i → s.lookup (s.seat i) = some player →
      player.freeList = [] → r.1.lookup (s.seat i) = some player ∧ r.2 = false) ∧
    (∀ id, (∀ i, s.Targeted targets i → s.seat i ≠ id) → r.1.lookup id = s.lookup id) ∧
    (∀ j, (∀ i player, s.Targeted targets i → s.lookup (s.seat i) = some player →
      player.driver ≠ j) → r.1.drivers j = s.drivers j) ∧
    (r.2 = true ↔ ∀ i, s.Targeted targets i →
      ∃ player, s.lookup (s.seat i) = some player ∧ player.freeList ≠ []) := by
  have h := enqueued_enqueueEvent hseated event targets
  refine ⟨?_, ?_, ?_, ?_, ?_⟩
  · intro i player htarget hplayer hfree hordered hwindow
    obtain ⟨player', hplayer', hoffered⟩ := h.players i player htarget.1 htarget.2 hplayer
    exact ⟨player', hplayer', offered_sorted hoffered hfree hordered hwindow⟩
  · intro i player htarget hplayer hfull
    obtain ⟨player', hplayer', hoffered⟩ := h.players i player htarget.1 htarget.2 hplayer
    constructor
    · cases hoffered with
      | full => exact hplayer'
      | taken hfree serial =>
        rw [hfull] at hfree
        cases hfree
    · by_contra hresult
      obtain ⟨p, hp, hfree⟩ := h.result.mp ((Bool.not_eq_false _).mp hresult) i htarget.1 htarget.2
      obtain rfl := Option.some.inj (hplayer.symm.trans hp)
      exact hfree hfull
  · exact fun id hid => h.others id fun i hi htarget => hid i ⟨hi, htarget⟩
  · exact fun j hj => h.machines j fun i player hi htarget => hj i player ⟨hi, htarget⟩
  · rw [h.result]
    constructor
    · exact fun hall i htarget => hall i htarget.1 htarget.2
    · exact fun hall i hi htarget => hall i ⟨hi, htarget⟩

end

section Plain

attribute [local instance] plainMgba

/-- A hard synchronisation at the timestamp of the `ATTACH` that player 0 still has. -/
theorem enqueueEvent_inserts_tie :
    let s := attachLink (plainGba .normal8 0 0) (plainGba .normal8 0 0)
    let event : Event := { type := .hardSync, playerId := 0, timestamp := 0 }
    let r := s.enqueueEvent event targetAll
    ∃ player player', s.lookup 1 = some player ∧ r.1.lookup 1 = some player' ∧
      Inserted event player player' ∧ player.queue.map (fun queued => queued.type) = [.attach] ∧
      player'.queue.map (fun queued => queued.type) = [.attach, .hardSync] := by
  intro s event r
  have hseated : s.Seated := by
    intro i j hi hj _ hsame
    have hn : s.coordinator.nAttached = 2 := rfl
    have hne : s.seat 0 ≠ s.seat 1 := by decide
    obtain rfl | rfl : i = 0 ∨ i = 1 := by omega
    · obtain rfl | rfl : j = 0 ∨ j = 1 := by omega
      · rfl
      · exact absurd hsame hne
    · obtain rfl | rfl : j = 0 ∨ j = 1 := by omega
      · exact absurd hsame.symm hne
      · rfl
  obtain ⟨player, hplayer⟩ : ∃ player, s.lookup 1 = some player := ⟨_, rfl⟩
  have hqueue : (s.lookup 1).map (fun p => p.queue) = some
      [{ type := .attach
         playerId := 1
         timestamp := 0
         slot := ⟨0, by decide⟩
         serial := 1 }] := rfl
  have hfree : (s.lookup 1).any (fun p => p.freeList ≠ []) = true := rfl
  have htypes : (r.1.lookup 1).map (fun p => p.queue.map fun queued => queued.type) =
      some [.attach, .hardSync] := by
    decide +kernel
  rw [hplayer] at hqueue hfree
  have hqueue := Option.some.inj hqueue
  dsimp only at hqueue
  have hordered : Ordered player.queue := by
    rw [hqueue]
    exact List.isChain_singleton _
  have hwindow : InWindow event player.queue := by
    refine ⟨0, ?_⟩
    rw [hqueue]
    intro time htime
    simp only [List.map_cons, List.map_nil, List.mem_cons, List.not_mem_nil, or_false] at htime
    rcases htime with rfl | rfl
    · decide
    · decide
  obtain ⟨player', hplayer', hinserted⟩ := (enqueueEvent_inserts hseated event targetAll).1 0 player
    ⟨by decide, by decide⟩ hplayer (decide_eq_true_eq.mp hfree) hordered hwindow
  have hplayer' : r.1.lookup 1 = some player' := hplayer'
  rw [hplayer'] at htypes
  refine ⟨player, player', hplayer, hplayer', hinserted, ?_, Option.some.inj htypes⟩
  rw [hqueue]
  rfl

end Plain

end Pair

end DualBoy.Lockstep
