import DualBoy.Lockstep.Slots

/-!
# Slot accounting

`SlotsInv` is the invariant of the labels of `SlotStep`: each slot of each player is in the queue, on
the free list or in the hand, once, and `queueDepth` counts the queue and the hand. It needs to know
who is in the table: the drivers' players under their own ids and no others (`Roster`), which an id that
is fresh keeps (`freshId_fresh`).

* `SlotsInv.step`: a label keeps it.
* `connects_linkStep`: a step of a link, from a state with a `Roster`, is a path of labels.
-/

namespace DualBoy.Lockstep

open DualBoy.Lib

namespace Pair

/-! ## Fresh ids -/

/-- The id after this one. -/
def idAfter (id : Nat) : Nat := (if id = 2 ^ 32 - 1 then 0 else id) + 1

theorem idAfter_ne (id : Nat) : idAfter id ≠ id := by
  unfold idAfter
  split
  · omega
  · omega

theorem freshId_succ (players : List (Nat × Player)) (tries nextId : Nat) :
    freshId players (tries + 1) nextId =
      if (players.lookup (idAfter nextId)).isSome then freshId players tries (idAfter nextId)
      else idAfter nextId := rfl

/-- With at most one other player in the table the second try for an id cannot fail. -/
theorem freshId_fresh {players : List (Nat × Player)} (h : players.length ≤ 1) (nextId : Nat) :
    players.lookup (freshId players (players.length + 1) nextId) = none ∧
      freshId players (players.length + 1) nextId ≠ 0 := by
  match players, h with
  | [], _ => exact ⟨rfl, Nat.succ_ne_zero _⟩
  | [(key, player)], _ =>
    have hlookup {id : Nat} (hid : id ≠ key) :
        ([(key, player)] : List (Nat × Player)).lookup id = none := by
      rw [List.lookup_cons, beq_false_of_ne hid, List.lookup_nil]
    change _ = none ∧ freshId _ (1 + 1) nextId ≠ 0
    rw [List.length_singleton, freshId_succ]
    by_cases hkey : idAfter nextId = key
    · have hsome : (([(key, player)] : List (Nat × Player)).lookup (idAfter nextId)).isSome := by
        rw [hkey, List.lookup_cons_self]
        rfl
      have hsecond : freshId [(key, player)] (0 + 1) (idAfter nextId) = idAfter (idAfter nextId) := by
        rw [freshId_succ]
        split
        · rfl
        · rfl
      rw [if_pos hsome, hsecond]
      exact ⟨hlookup (hkey ▸ idAfter_ne _), Nat.succ_ne_zero _⟩
    · have hnone := hlookup hkey
      rw [if_neg (by rw [hnone]; exact Bool.false_ne_true)]
      exact ⟨hnone, Nat.succ_ne_zero _⟩

section

variable [Mgba]

/-! ## The table -/

theorem isSome_lookup_iff {s : Pair} {id : Nat} :
    (s.lookup id).isSome ↔ id ∈ s.coordinator.players.map Prod.fst := by
  rw [← not_iff_not, Option.not_isSome_iff_eq_none, lookup, List.lookup_eq_none_iff, List.mem_map]
  constructor
  · rintro hnone ⟨e, he, rfl⟩
    have := hnone e he
    simp at this
  · intro hnot e he
    exact bne_iff_ne.mpr fun heq => hnot ⟨e, he, heq.symm⟩

/-- Every player is there once, under the id of its driver, which is not 0. -/
structure Roster (s : Pair) : Prop where
  keys : (s.coordinator.players.map Prod.fst).Nodup
  zero : s.lookup 0 = none
  owned : ∀ e ∈ s.coordinator.players, (s.drivers e.2.driver).lockstepId = e.1

/-- The table and the drivers are as they were, but for what the players hold. -/
structure SameRoster (s s' : Pair) : Prop where
  players : s'.coordinator.players.map (fun e => (e.1, e.2.driver)) =
    s.coordinator.players.map fun e => (e.1, e.2.driver)
  lockstepId : ∀ i, (s'.drivers i).lockstepId = (s.drivers i).lockstepId

theorem SameRoster.keys {s s' : Pair} (h : SameRoster s s') :
    s'.coordinator.players.map Prod.fst = s.coordinator.players.map Prod.fst := by
  have := congrArg (List.map Prod.fst) h.players
  rwa [List.map_map, List.map_map] at this

theorem SameRoster.isSome {s s' : Pair} (h : SameRoster s s') (id : Nat) :
    (s'.lookup id).isSome ↔ (s.lookup id).isSome := by
  rw [isSome_lookup_iff, isSome_lookup_iff, h.keys]

theorem SameRoster.isNone {s s' : Pair} (h : SameRoster s s') {id : Nat}
    (hnone : s.lookup id = none) : s'.lookup id = none := by
  rw [← Option.not_isSome_iff_eq_none] at hnone ⊢
  rwa [h.isSome]

theorem Roster.congr {s s' : Pair} (h : Roster s) (hsame : SameRoster s s') : Roster s' where
  keys := hsame.keys ▸ h.keys
  zero := hsame.isNone h.zero
  owned := fun e he => by
    have hmem : (e.1, e.2.driver) ∈ s.coordinator.players.map fun e => (e.1, e.2.driver) :=
      hsame.players ▸ List.mem_map_of_mem he
    obtain ⟨e', he', heq⟩ := List.mem_map.mp hmem
    obtain ⟨hkey, hdriver⟩ := Prod.mk.inj heq
    rw [hsame.lockstepId, ← hdriver, ← hkey]
    exact h.owned e' he'

theorem SameTable.roster {s s' : Pair} (h : SameTable s s') : SameRoster s s' :=
  ⟨h.players, h.lockstepId⟩

theorem Seated.congr {s s' : Pair} (h : s.Seated) (hsame : SameTable s s') : s'.Seated := by
  intro i j hi hj hsome heq
  have hseat (k : Nat) : s'.seat k = s.seat k := by
    unfold seat
    rw [hsame.attachedPlayers]
  rw [hsame.nAttached] at hi hj
  rw [hseat, hsame.roster.isSome] at hsome
  rw [hseat, hseat] at heq
  exact h i j hi hj hsome heq

/-! ### Places -/

/-- What `_reconfigPlayers` leaves alone. -/
structure SamePlayers (s s' : Pair) : Prop extends SameRoster s s' where
  slots : ∀ id, (s'.lookup id).map Player.slots = (s.lookup id).map Player.slots
  droppedEvents : s'.coordinator.droppedEvents = s.coordinator.droppedEvents

theorem SamePlayers.trans {s s' s'' : Pair} (h : SamePlayers s s') (h' : SamePlayers s' s'') :
    SamePlayers s s'' where
  players := h'.players.trans h.players
  lockstepId := fun i => (h'.lockstepId i).trans (h.lockstepId i)
  slots := fun id => (h'.slots id).trans (h.slots id)
  droppedEvents := h'.droppedEvents.trans h.droppedEvents

theorem SameSlots.samePlayers {s s' : Pair} (h : SameSlots s s') : SamePlayers s s' :=
  ⟨h.toSameTable.roster, h.slots, h.droppedEvents⟩

theorem samePlayers_modifyCoordinator (s : Pair) {f : Coordinator → Coordinator}
    (hf : ∀ c, (f c).players = c.players ∧ (f c).droppedEvents = c.droppedEvents) :
    SamePlayers s (s.modifyCoordinator f) := by
  obtain ⟨hplayers, hdropped⟩ := hf s.coordinator
  refine ⟨⟨congrArg (List.map _) hplayers, fun i => ?_⟩, fun id => ?_, hdropped⟩
  · match i with
    | 0 => rfl
    | 1 => rfl
  · exact congrArg (fun players => (players.lookup id).map Player.slots) hplayers

theorem samePlayers_renumber (s : Pair) (id : Nat) (playerId : Int) :
    SamePlayers s (s.modifyPlayer id fun p => { p with playerId }) :=
  (sameSlots_modifyPlayer s id (f := fun p => { p with playerId }) fun _ => rfl).samePlayers

theorem samePlayers_reconfigPlayers (s : Pair) : SamePlayers s s.reconfigPlayers := by
  have hassign (order : List (Nat × Nat)) (t : Pair) :
      SamePlayers t (order.foldl (fun s (e : Nat × Nat) =>
        let s := s.modifyCoordinator fun c => { c with attachedPlayers := c.attachedPlayers.set e.2 e.1 }
        s.modifyPlayer e.1 fun p => { p with playerId := e.2 }) t) := by
    induction order generalizing t with
    | nil => exact (SameSlots.refl t).samePlayers
    | cons e order ih =>
      refine .trans ?_ (ih _)
      refine .trans ?_ (samePlayers_renumber _ _ _)
      exact samePlayers_modifyCoordinator t fun _ => ⟨rfl, rfl⟩
  have hempty : SamePlayers s (s.modifyCoordinator fun c =>
      { c with attachedPlayers := List.replicate maxGbas 0 }) :=
    samePlayers_modifyCoordinator s fun _ => ⟨rfl, rfl⟩
  unfold reconfigPlayers
  refine .trans ?_ (samePlayers_modifyCoordinator _ fun _ => ⟨rfl, rfl⟩)
  refine hempty.trans ?_
  split
  · exact (SameSlots.refl _).samePlayers
  · dsimp only
    split
    · refine .trans ?_ (samePlayers_renumber _ _ _)
      exact samePlayers_modifyCoordinator _ fun _ => ⟨rfl, rfl⟩
    · refine .trans ?_ (samePlayers_modifyCoordinator _ fun _ => ⟨rfl, rfl⟩)
      refine .trans ?_ (samePlayers_renumber _ _ _)
      exact samePlayers_modifyCoordinator _ fun _ => ⟨rfl, rfl⟩
  · exact hassign _ _

/-- **A table in order is put in its places**: nobody sits twice. -/
theorem roster_reconfigPlayers {s : Pair} (h : Roster s) :
    Roster s.reconfigPlayers ∧ s.reconfigPlayers.Seated :=
  ⟨h.congr (samePlayers_reconfigPlayers s).toSameRoster, seated_reconfigPlayers h.keys h.zero⟩

/-! ### A player leaves -/

omit [Mgba] in
theorem lookup_filter (players : List (Nat × Player)) (id id' : Nat) :
    (players.filter fun e => e.1 ≠ id).lookup id' =
      if id' = id then none else players.lookup id' := by
  induction players with
  | nil => simp
  | cons e players ih =>
    obtain ⟨key, player⟩ := e
    by_cases hkey : key = id
    · rw [List.filter_cons_of_neg (by simp [hkey]), ih, List.lookup_cons]
      by_cases hid : id' = id
      · rw [if_pos hid, if_pos hid]
      · rw [if_neg hid, if_neg hid, beq_false_of_ne (hkey ▸ hid)]
    · rw [List.filter_cons_of_pos (by simp [hkey]), List.lookup_cons, List.lookup_cons, ih]
      by_cases hid : id' = key
      · simp [hid, hkey]
      · rw [beq_false_of_ne hid]

theorem lookup_tableRemove (s : Pair) (player : Player) (id : Nat) :
    (s.tableRemove player).lookup id =
      if id = (s.drivers player.driver).lockstepId then none else s.lookup id :=
  lookup_filter _ _ _

theorem roster_tableRemove {s : Pair} (h : Roster s) (player : Player) :
    Roster (s.tableRemove player) where
  keys := h.keys.sublist (List.filter_sublist.map _)
  zero := by
    rw [lookup_tableRemove, h.zero]
    split
    · rfl
    · rfl
  owned := fun e he => by
    obtain ⟨hmem, -⟩ := List.mem_filter.mp he
    have howned := h.owned e hmem
    generalize e.2.driver = i at howned ⊢
    match i, howned with
    | 0, howned => exact howned
    | 1, howned => exact howned

/-! ### A player joins -/

/-- The player that joins. -/
def newPlayer (s : Pair) (i : Fin 2) : Player where
  driver := i
  playerId := -1
  mode := (s.drivers i).gba.mode
  otherModes := List.replicate maxGbas .normal8
  asleep := false
  cycleOffset := 0
  queue := []
  dataReceived := false
  queueDepth := 0
  maxQueueDepth := 0
  freeList := List.finRange maxLockstepEvents

/-- Its id. -/
def newId (s : Pair) : Nat :=
  freshId s.coordinator.players (s.coordinator.players.length + 1) s.coordinator.nextId

/-- The player in the table, before the places are given anew. -/
def entered (s : Pair) (i : Fin 2) : Pair :=
  (s.modifyCoordinator fun c =>
    { c with nextId := s.newId, players := c.players ++ [(s.newId, s.newPlayer i)] }).modifyDriver i
      fun d => { d with lockstepId := s.newId }

theorem joinPlayer_eq (s : Pair) (i : Fin 2) :
    s.joinPlayer i =
      let t := (s.entered i).reconfigPlayers
      t.modifyPlayer s.newId fun p =>
        { p with cycleOffset := cycleDelta (t.drivers i).gba.now t.coordinator.cycle } := rfl

theorem sameSlots_joinPlayer (s : Pair) (i : Fin 2) :
    SameSlots (s.entered i).reconfigPlayers (s.joinPlayer i) := by
  rw [joinPlayer_eq]
  exact sameSlots_modifyPlayer _ _ fun _ => rfl

theorem drivers_entered (s : Pair) (i j : Fin 2) :
    ((s.entered i).drivers j).lockstepId = if j = i then s.newId else (s.drivers j).lockstepId := by
  match i, j with
  | 0, 0 => rfl
  | 0, 1 => rfl
  | 1, 0 => rfl
  | 1, 1 => rfl

theorem lookup_entered (s : Pair) (i : Fin 2) (id : Nat) :
    (s.entered i).lookup id =
      (s.lookup id).or (if id = s.newId then some (s.newPlayer i) else none) := by
  have hplayers : (s.entered i).coordinator.players =
      s.coordinator.players ++ [(s.newId, s.newPlayer i)] := by
    match i with
    | 0 => rfl
    | 1 => rfl
  unfold lookup
  rw [hplayers, List.lookup_append, List.lookup_cons, List.lookup_nil]
  by_cases hid : id = s.newId
  · rw [if_pos hid, beq_iff_eq.mpr hid]
  · rw [if_neg hid, beq_false_of_ne hid]

/-- A driver without an id owns no player. -/
theorem Roster.driver_ne {s : Pair} (h : Roster s) {i : Fin 2} (hid : (s.drivers i).lockstepId = 0)
    {e : Nat × Player} (he : e ∈ s.coordinator.players) : e.2.driver ≠ i := by
  rintro rfl
  have hkey := (h.owned e he).symm.trans hid
  exact key_ne_zero h.zero (List.mem_map_of_mem he) hkey

/-- Besides a driver without an id there is one at most. -/
theorem Roster.length_le {s : Pair} (h : Roster s) {i : Fin 2} (hid : (s.drivers i).lockstepId = 0) :
    s.coordinator.players.length ≤ 1 := by
  have hne := fun e => h.driver_ne hid (e := e)
  have howned := h.owned
  have hkeys := h.keys
  generalize s.coordinator.players = players at hne howned hkeys
  match players with
  | [] => exact Nat.zero_le 1
  | [_] => exact Nat.le_refl 1
  | e :: e' :: _ =>
    have hdriver : e.2.driver = e'.2.driver := by
      have h1 := hne e List.mem_cons_self
      have h2 := hne e' (List.mem_cons_of_mem _ List.mem_cons_self)
      omega
    have hkey : e.1 = e'.1 := by
      rw [← howned e List.mem_cons_self, hdriver]
      exact howned e' (List.mem_cons_of_mem _ List.mem_cons_self)
    rw [List.map_cons, List.map_cons, hkey] at hkeys
    exact absurd List.mem_cons_self (List.nodup_cons.mp hkeys).1

theorem players_entered (s : Pair) (i : Fin 2) :
    (s.entered i).coordinator.players = s.coordinator.players ++ [(s.newId, s.newPlayer i)] := by
  match i with
  | 0 => rfl
  | 1 => rfl

/-- The new id is nobody's. -/
theorem Roster.lookup_newId {s : Pair} (h : Roster s) {i : Fin 2} (hid : (s.drivers i).lockstepId = 0) :
    s.lookup s.newId = none ∧ s.newId ≠ 0 :=
  freshId_fresh (h.length_le hid) s.coordinator.nextId

theorem roster_entered {s : Pair} (h : Roster s) {i : Fin 2} (hid : (s.drivers i).lockstepId = 0) :
    Roster (s.entered i) := by
  obtain ⟨hfresh, hne⟩ := h.lookup_newId hid
  constructor
  · rw [players_entered, List.map_append, List.map_singleton, List.nodup_append]
    refine ⟨h.keys, List.nodup_singleton _, fun key hkey key' hkey' => ?_⟩
    rw [List.mem_singleton.mp hkey']
    rintro rfl
    rw [← isSome_lookup_iff, hfresh] at hkey
    cases hkey
  · rw [lookup_entered, h.zero, if_neg (Ne.symm hne)]
    rfl
  · intro e he
    rw [players_entered, List.mem_append, List.mem_singleton] at he
    rw [drivers_entered]
    rcases he with he | rfl
    · rw [if_neg (h.driver_ne hid he)]
      exact h.owned e he
    · exact if_pos rfl

/-! ## The invariant -/

/-- The slot in hand, if it is the player's. -/
def inHand (hand : Hand) (id : Nat) : List (Fin maxLockstepEvents) :=
  match hand with
  | none => []
  | some (id', event) => if id' = id then [event.slot] else []

/-- **Every slot of the buffer is in hand, queued or free**, once, and the depth counts those that are
not free. -/
structure Accounted (hand : List (Fin maxLockstepEvents)) (p : Slots) : Prop where
  slots : (hand ++ p.queue.map (fun event => event.slot) ++ p.freeList).Perm
    (List.finRange maxLockstepEvents)
  depth : p.queueDepth = hand.length + p.queue.length

structure SlotsInv (x : Pair × Hand) : Prop where
  roster : Roster x.1
  seated : x.1.Seated
  accounted : ∀ id player, x.1.lookup id = some player → Accounted (inHand x.2 id) player.slots
  there : ∀ id event, x.2 = some (id, event) → (x.1.lookup id).isSome

theorem accounted_of_slots {s s' : Pair} {hand : Hand}
    (h : ∀ id, (s'.lookup id).map Player.slots = (s.lookup id).map Player.slots)
    (hinv : ∀ id player, s.lookup id = some player → Accounted (inHand hand id) player.slots) :
    ∀ id player, s'.lookup id = some player → Accounted (inHand hand id) player.slots := by
  intro id player hplayer
  have hslots := h id
  rw [hplayer, Option.map_some, eq_comm, Option.map_eq_some_iff] at hslots
  obtain ⟨player', hplayer', heq⟩ := hslots
  rw [← heq]
  exact hinv id player' hplayer'

theorem SlotsInv.quiet {s s' : Pair} {hand : Hand} (h : SlotsInv (s, hand)) (hsame : SameSlots s s') :
    SlotsInv (s', hand) where
  roster := h.roster.congr hsame.toSameTable.roster
  seated := h.seated.congr hsame.toSameTable
  accounted := accounted_of_slots hsame.slots h.accounted
  there := fun id event hhand => (hsame.toSameTable.roster.isSome id).mpr (h.there id event hhand)

/-- **One player's slots are written.** -/
theorem SlotsInv.write {s : Pair} {hand hand' : Hand} {id : Nat} {f : Player → Player}
    (h : SlotsInv (s, hand)) (hdriver : ∀ p, (f p).driver = p.driver)
    (hplayer : ∀ p, s.lookup id = some p → Accounted (inHand hand' id) (f p).slots)
    (hothers : ∀ id', id' ≠ id → inHand hand' id' = inHand hand id')
    (hthere : ∀ id' event, hand' = some (id', event) → (s.lookup id').isSome) :
    SlotsInv (s.modifyPlayer id f, hand') := by
  have htable := sameTable_modifyPlayer s id hdriver
  refine ⟨h.roster.congr htable.roster, h.seated.congr htable, ?_, ?_⟩
  · intro id' player hfound
    rw [lookup_modifyPlayer] at hfound
    split at hfound
    · rename_i hid
      obtain ⟨p, hp, rfl⟩ := Option.map_eq_some_iff.mp hfound
      rw [hid] at hp ⊢
      exact hplayer p hp
    · rename_i hid
      rw [hothers id' hid]
      exact h.accounted id' player hfound
  · exact fun id' event hhand => (htable.roster.isSome id').mpr (hthere id' event hhand)

/-! ### One case for each step -/

/-- A player that takes an event is written, and nothing else that counts. -/
theorem enqueueAt_takes {event : Event} {r : Pair × Bool} {i : Nat} {player : Player}
    {slot : Fin maxLockstepEvents} {freeList : List (Fin maxLockstepEvents)}
    (h : r.1.lookup (r.1.seat i) = some player) (hfree : player.freeList = slot :: freeList) :
    let newEvent : QueuedEvent := { event with slot, serial := r.1.ghost.published + 1 }
    SameSlots (r.1.modifyPlayer (r.1.seat i) fun p => { p with
      freeList
      queue := insertBefore (precedes newEvent) newEvent p.queue
      queueDepth := player.queueDepth + 1
      maxQueueDepth := max p.maxQueueDepth (player.queueDepth + 1) }) (enqueueAt event r i).1 := by
  intro newEvent
  unfold enqueueAt
  dsimp only
  rw [show r.1.lookup (r.1.coordinator.attachedPlayers.getD i 0) = some player from h]
  dsimp only
  rw [hfree]
  refine .trans ?_ (sameSlots_rescheduleForQueueHead _ _)
  refine .trans (sameSlots_ghost _ { r.1.ghost with published := r.1.ghost.published + 1 }) ?_
  refine sameSlots_ite ?_ (.refl _)
  exact sameSlots_modifyCoordinator _ fun _ => ⟨rfl, rfl, rfl, rfl⟩

theorem SlotsInv.offer {r : Pair × Bool} {hand : Hand} (h : SlotsInv (r.1, hand)) (event : Event)
    (i : Nat) : SlotsInv ((enqueueAt event r i).1, hand) := by
  cases hlookup : r.1.lookup (r.1.seat i) with
  | none =>
    rw [enqueueAt_of_absent hlookup]
    exact h
  | some player =>
    cases hfree : player.freeList with
    | nil =>
      rw [enqueueAt_of_full hlookup hfree]
      refine ⟨⟨h.roster.keys, h.roster.zero, ?_⟩, h.seated, h.accounted, h.there⟩
      exact h.roster.owned
    | cons slot freeList =>
      refine SlotsInv.quiet ?_ (enqueueAt_takes hlookup hfree)
      refine h.write (fun _ => rfl) (fun p hp => ?_) (fun _ _ => rfl) h.there
      obtain rfl := Option.some.inj (hlookup.symm.trans hp)
      obtain ⟨hslots, hdepth⟩ := h.accounted _ _ hlookup
      constructor
      · refine .trans ?_ hslots
        change (_ ++ (insertBefore _ _ player.queue).map _ ++ freeList).Perm
          (_ ++ player.queue.map _ ++ player.freeList)
        rw [hfree]
        refine .trans ?_ List.perm_middle.symm
        exact (((insertBefore_perm _ _ _).map _).append_left _).trans List.perm_middle |>.append_right _
      · change player.queueDepth + 1 = _ + (insertBefore _ _ player.queue).length
        change player.queueDepth = _ + player.queue.length at hdepth
        rw [length_insertBefore, hdepth, Nat.add_assoc]

theorem SlotsInv.unlink {s : Pair} (h : SlotsInv (s, none)) {id : Nat} {event : QueuedEvent}
    {rest : List QueuedEvent} (hdue : s.HeadDue id event rest) :
    SlotsInv (s.unlinkEvent id rest, some (id, event)) := by
  obtain ⟨player, hplayer, hqueue, -⟩ := hdue
  refine h.write (fun _ => rfl) (fun p hp => ?_) (fun id' hne => ?_) ?_
  · obtain rfl := Option.some.inj (hplayer.symm.trans hp)
    obtain ⟨hslots, hdepth⟩ := h.accounted _ _ hplayer
    have hhand : inHand (some (id, event)) id = [event.slot] := if_pos rfl
    rw [hhand]
    change ([] ++ player.queue.map _ ++ player.freeList).Perm _ at hslots
    change player.queueDepth = 0 + player.queue.length at hdepth
    rw [hqueue] at hslots hdepth
    refine ⟨hslots, ?_⟩
    change player.queueDepth = 1 + rest.length
    rw [List.length_cons] at hdepth
    omega
  · exact if_neg (Ne.symm hne)
  · intro id' event' hsome
    obtain ⟨rfl, -⟩ := Prod.mk.inj (Option.some.inj hsome)
    exact Option.isSome_of_eq_some hplayer

theorem SlotsInv.recycle {s : Pair} {id : Nat} {event : QueuedEvent}
    (h : SlotsInv (s, some (id, event))) : SlotsInv (s.recycleEvent id event, none) := by
  refine h.write (fun _ => rfl) (fun p hp => ?_) (fun id' hne => ?_) nofun
  · obtain ⟨hslots, hdepth⟩ := h.accounted _ _ hp
    have hhand : inHand (some (id, event)) id = [event.slot] := if_pos rfl
    dsimp only at hslots hdepth
    rw [hhand] at hslots hdepth
    constructor
    · exact List.perm_middle.trans hslots
    · change p.queueDepth - 1 = 0 + p.queue.length
      change p.queueDepth = 1 + p.queue.length at hdepth
      omega
  · exact (if_neg (Ne.symm hne)).symm

omit [Mgba] in
theorem slots_loadedQueue (data : List Byte) : (loadedQueue data).map (fun event => event.slot) =
    (List.finRange maxLockstepEvents).take (loadedCount data) := by
  unfold loadedQueue
  rw [List.map_map]
  exact List.map_id _

theorem SlotsInv.replace {s : Pair} (h : SlotsInv (s, none)) (id : Nat) (data : List Byte) :
    SlotsInv (s.modifyPlayer id (loadedSlots data), none) := by
  refine h.write (fun _ => rfl) (fun p _ => ?_) (fun _ _ => rfl) nofun
  have hslots := slots_loadedQueue data
  constructor
  · change ([] ++ (loadedQueue data).map _ ++ (List.finRange maxLockstepEvents).drop _).Perm _
    rw [hslots, List.nil_append, List.take_append_drop]
  · change loadedCount data = 0 + (loadedQueue data).length
    have hlength := congrArg List.length hslots
    rw [List.length_map, List.length_take, List.length_finRange] at hlength
    have hcount : loadedCount data ≤ maxLockstepEvents := Nat.min_le_right _ _
    omega

theorem lockstepId_joinPlayer (s : Pair) (i : Fin 2) :
    ((s.joinPlayer i).drivers i).lockstepId = s.newId := by
  rw [(sameSlots_joinPlayer s i).lockstepId, (samePlayers_reconfigPlayers _).lockstepId,
    drivers_entered, if_pos rfl]

theorem accounted_newPlayer (s : Pair) (i : Fin 2) : Accounted [] (s.newPlayer i).slots :=
  ⟨List.Perm.refl _, rfl⟩

theorem SlotsInv.join {s : Pair} (h : SlotsInv (s, none)) {i : Fin 2}
    (hid : (s.drivers i).lockstepId = 0) : SlotsInv (s.joinPlayer i, none) := by
  refine SlotsInv.quiet ?_ (sameSlots_joinPlayer s i)
  obtain ⟨hroster, hseated⟩ := roster_reconfigPlayers (roster_entered h.roster hid)
  refine ⟨hroster, hseated, ?_, nofun⟩
  refine accounted_of_slots (samePlayers_reconfigPlayers _).slots fun id player hplayer => ?_
  rw [lookup_entered] at hplayer
  cases hold : s.lookup id with
  | some player' =>
    rw [hold, Option.some_or] at hplayer
    obtain rfl := Option.some.inj hplayer
    exact h.accounted id _ hold
  | none =>
    rw [hold, Option.none_or] at hplayer
    split at hplayer
    · obtain rfl := Option.some.inj hplayer
      exact accounted_newPlayer s i
    · cases hplayer

theorem SlotsInv.remove {s : Pair} (h : SlotsInv (s, none)) (player : Player) :
    SlotsInv ((s.tableRemove player).reconfigPlayers, none) := by
  obtain ⟨hroster, hseated⟩ := roster_reconfigPlayers (roster_tableRemove h.roster player)
  refine ⟨hroster, hseated, ?_, nofun⟩
  refine accounted_of_slots (samePlayers_reconfigPlayers _).slots fun id player' hplayer' => ?_
  rw [lookup_tableRemove] at hplayer'
  split at hplayer'
  · cases hplayer'
  · exact h.accounted id player' hplayer'

theorem SlotsInv.leave {s : Pair} (h : SlotsInv (s, none)) {i : Fin 2}
    (hid : s.lookup (s.drivers i).lockstepId = none) :
    SlotsInv (s.modifyDriver i fun d => { d with lockstepId := 0 }, none) := by
  have hcoordinator : (s.modifyDriver i fun d => { d with lockstepId := 0 }).coordinator =
      s.coordinator := by
    match i with
    | 0 => rfl
    | 1 => rfl
  have hlookup (id : Nat) := lookup_congr (congrArg Coordinator.players hcoordinator) id
  refine ⟨⟨?_, ?_, ?_⟩, ?_, ?_, nofun⟩
  · rw [hcoordinator]
    exact h.roster.keys
  · rw [hlookup]
    exact h.roster.zero
  · intro e he
    rw [hcoordinator] at he
    have hkey := h.roster.owned e he
    have hne : e.2.driver ≠ i := by
      rintro rfl
      rw [hkey, ← Option.not_isSome_iff_eq_none, isSome_lookup_iff] at hid
      exact hid (List.mem_map_of_mem he)
    rw [← hkey]
    generalize e.2.driver = j at hne
    match i, j with
    | 0, 0 => exact absurd rfl hne
    | 0, 1 => rfl
    | 1, 0 => rfl
    | 1, 1 => exact absurd rfl hne
  · intro j k hj hk hsome hseat
    unfold seat at hsome hseat
    rw [hcoordinator] at hj hk hsome hseat
    rw [hlookup] at hsome
    exact h.seated j k hj hk hsome hseat
  · intro id player hplayer
    rw [hlookup] at hplayer
    exact h.accounted id player hplayer

/-- **Every step keeps the account.** -/
theorem SlotsInv.step {x y : Pair × Hand} {l : SlotLabel} (h : SlotsInv x) (hstep : SlotStep x l y) :
    SlotsInv y := by
  cases hstep with
  | quiet hand hsame => exact h.quiet hsame
  | offer r hand event i => exact h.offer event i
  | unlink hdue => exact h.unlink hdue
  | recycle s id event => exact h.recycle
  | replace s id data => exact h.replace id data
  | join hid => exact h.join hid
  | remove s player => exact h.remove player
  | leave hid => exact h.leave hid

/-! ## The rest of the operations -/

theorem sameTable_enqueueAt (event : Event) (r : Pair × Bool) (i : Nat) :
    SameTable r.1 (enqueueAt event r i).1 := by
  cases hlookup : r.1.lookup (r.1.seat i) with
  | none =>
    rw [enqueueAt_of_absent hlookup]
    exact .refl _
  | some player =>
    cases hfree : player.freeList with
    | nil =>
      rw [enqueueAt_of_full hlookup hfree]
      refine ⟨rfl, fun j => ?_, rfl, rfl⟩
      match j with
      | 0 => rfl
      | 1 => rfl
    | cons slot freeList =>
      refine .trans ?_ (enqueueAt_takes hlookup hfree).toSameTable
      exact sameTable_modifyPlayer _ _ fun _ => rfl

theorem sameTable_enqueueEvent (s : Pair) (event : Event) (targets : BitVec 32) :
    SameTable s (s.enqueueEvent event targets).1 := by
  have hall (places : List Nat) (r : Pair × Bool) : SameTable r.1
      (places.foldl (fun r (i : Nat) =>
        if targets &&& target i = 0 then r else enqueueAt event r i) r).1 := by
    induction places generalizing r with
    | nil => exact .refl _
    | cons i places ih =>
      refine .trans ?_ (ih _)
      dsimp only
      split
      · exact .refl _
      · exact sameTable_enqueueAt event r i
  exact hall _ (s, true)

theorem lookup_removePlayer (s : Pair) (player : Player) :
    (s.removePlayer player).lookup (s.drivers player.driver).lockstepId = none := by
  have htold := sameTable_enqueueEvent s
    { type := .detach, playerId := player.playerId, timestamp := s.lockstepTime player }
    (targetAll &&& ~~~target player.playerId)
  unfold removePlayer
  dsimp only
  refine (sameSlots_playerWake _ _).toSameTable.roster.isNone ?_
  refine (samePlayers_reconfigPlayers _).toSameRoster.isNone ?_
  rw [lookup_tableRemove]
  refine if_pos ?_
  rw [← htold.lockstepId]
  generalize player.driver = i
  match i with
  | 0 => rfl
  | 1 => rfl

theorem lockstepId_removePlayer (s : Pair) (player : Player) (i : Fin 2) :
    ((s.removePlayer player).drivers i).lockstepId = (s.drivers i).lockstepId := by
  have htold := sameTable_enqueueEvent s
    { type := .detach, playerId := player.playerId, timestamp := s.lockstepTime player }
    (targetAll &&& ~~~target player.playerId)
  unfold removePlayer
  dsimp only
  rw [(sameSlots_playerWake _ _).lockstepId, (samePlayers_reconfigPlayers _).lockstepId,
    ← htold.lockstepId]
  match i with
  | 0 => rfl
  | 1 => rfl

/-- A player that is found belongs to the driver with its id. -/
theorem Roster.lockstepId_driver {s : Pair} (h : Roster s) {id : Nat} {player : Player}
    (hplayer : s.lookup id = some player) : (s.drivers player.driver).lockstepId = id := by
  obtain ⟨before, after, hplayers, -⟩ := List.lookup_eq_some_iff.mp hplayer
  refine h.owned (id, player) ?_
  rw [hplayers]
  exact List.mem_append_right _ List.mem_cons_self

theorem connects_driverDeinit {s : Pair} (h : Roster s) (i : Fin 2) :
    Connects SlotStep (s, none) (s.driverDeinit i, none) := by
  have hgone : (s.coordinatorDetach i).lookup ((s.coordinatorDetach i).drivers i).lockstepId =
      none := by
    unfold coordinatorDetach
    split
    · assumption
    · rename_i player hplayer
      rw [lockstepId_removePlayer, ← h.lockstepId_driver hplayer]
      exact lookup_removePlayer s player
  have hgba := sameSlots_modifyGba (s.coordinatorDetach i) i fun g => g.deschedule .lockstep
  unfold driverDeinit
  refine .trans ?_ (.single (.leave ?_))
  · exact connects_then (connects_coordinatorDetach s i) hgba
  · rw [hgba.lockstepId]
    exact hgba.toSameTable.roster.isNone hgone

end

section

variable [MgbaTimer]

theorem sameSlots_loadSleep (s : Pair) (id : Nat) (player : Player) (asleep : Bool) :
    SameSlots s (s.loadSleep id player asleep) := by
  unfold loadSleep
  refine .trans ?_ (sameSlots_modifyPlayer _ _ fun _ => rfl)
  refine sameSlots_ite (sameSlots_lockstepSleep s _) (sameSlots_ite ?_ (.refl s))
  exact sameSlots_modifyDriver s _ fun _ => rfl

/-- **A load replaces one player's slots** and leaves the others'. -/
theorem connects_driverLoadState (s : Pair) (i : Fin 2) (attached : Bool) (data : List Byte) :
    Connects SlotStep (s, none) ((s.driverLoadState i attached data).1, none) := by
  unfold driverLoadState
  split
  · exact .refl _
  split
  · exact .refl _
  dsimp only
  split
  · exact .refl _
  rename_i player hlookup
  split
  · exact .refl _
  refine connects_then ?_ (sameSlots_modifyGba _ _ _)
  refine connects_then ?_ (sameSlots_ite (sameSlots_modifyCoordinator _ fun _ => ⟨rfl, rfl, rfl, rfl⟩)
    (.refl _))
  refine connects_then ?_ (sameSlots_rescheduleForQueueHead _ _)
  refine connects_then ?_ (sameSlots_modifyCoordinator _ fun _ => ⟨rfl, rfl, rfl, rfl⟩)
  refine .trans ?_ (.single (.replace _ _ data))
  refine connects_then ?_ (sameSlots_loadSleep _ _ _ _)
  refine connects_then ?_ (sameSlots_ite (sameSlots_modifyGba _ _ _) (.refl _))
  refine connects_then ?_ (sameSlots_modifyGba _ _ _)
  exact connects_quiet (sameSlots_modifyPlayer s _ fun _ => rfl)

theorem connects_linkStep {s : Pair} (h : Roster s) (a : LinkStep) :
    Connects SlotStep (s, none) (s.linkStep a, none) := by
  cases a with
  | act a => exact connects_act s a
  | reset i calloc => exact connects_driverReset s i calloc
  | deinit i => exact connects_driverDeinit h i
  | detach i => exact connects_coordinatorDetach s i
  | load i attached data => exact connects_driverLoadState s i attached data
  | enqueue event targets => exact connects_enqueueEvent s event targets

end

end Pair

end DualBoy.Lockstep
