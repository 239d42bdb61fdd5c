import DualBoy.Lockstep.LinkState

/-!
# Reading a saved link

What `ValidateState` and `LoadState` find in a state `SaveState` stored. Every field is where the
saver put it, and what the saver left alone is zero.

* `load32_savedState`, `get_savedFlags_of_apart`: the words and the flags.
* `loadedEvent_savedState`: the events, in the order of the queue.
-/

namespace DualBoy.Lockstep

open DualBoy.Lib

/-! ## Words -/

@[simp] theorem length_store32 (value : BitVec 32) : (store32 value).length = 4 := length_leBytes _ _

@[simp] theorem length_store16 (value : BitVec 16) : (store16 value).length = 2 := length_leBytes _ _

theorem load32_of_fieldAt {data : List Byte} {offset : Nat} {value : BitVec 32}
    (h : fieldAt data offset 4 = store32 value) : load32 data offset = value :=
  leWord_of_slice (by decide) h

theorem load16_of_fieldAt {data : List Byte} {offset : Nat} {value : BitVec 16}
    (h : fieldAt data offset 2 = store16 value) : load16 data offset = value :=
  leWord_of_slice (by decide) h

/-! ## Modes and types -/

/-- The loader reads a mode as the saver stored it. -/
@[simp] theorem modeIntToEnum_modeEnumToInt (mode : Mode) :
    modeIntToEnum (modeEnumToInt mode) = mode := by
  cases mode <;> decide

theorem serializedModeValid_modeEnumToInt (mode : Mode) :
    serializedModeValid (modeEnumToInt mode) = true := by
  cases mode <;> decide

theorem fits_modeEnumToInt (mode : Mode) : Fits 3 (modeEnumToInt mode) := by
  cases mode <;> decide

theorem fits_bit (flag : Bool) : Fits 1 (bit flag) := by
  cases flag <;> decide

theorem bit_ne_zero (flag : Bool) : decide (bit flag ≠ 0) = flag := by
  cases flag <;> decide

theorem modeOfCode_code (mode : Mode) : modeOfCode mode.code = some mode := by
  cases mode <;> decide

theorem fits_code (type : EventType) : Fits 3 type.code := by
  cases type <;> (simp only [EventType.code]; decide)

/-- The loader reads an event's type as the saver stored it. -/
theorem eventTypeOf_code {type : EventType} {operand : BitVec 32}
    (h : ∀ stored ∈ type.operand, operand = stored) : eventTypeOf type.code operand = type := by
  cases type with
  | modeSet mode =>
    rw [h mode.code rfl]
    change EventType.modeSet ((modeOfCode mode.code).getD .none) = _
    rw [modeOfCode_code]
    rfl
  | transferStart finishCycle =>
    rw [h finishCycle rfl]
    rfl
  | attach => rfl
  | detach => rfl
  | hardSync => rfl

namespace Pair

/-! ## Layout -/

/-- The fields of an event stay within its entry. -/
theorem spaced_eventFields (index : Nat) (event : Event) :
    Spaced (eventOffset index) (eventOffset (index + 1)) (eventFields index event) := by
  have hnext : eventOffset (index + 1) = eventOffset index + 0x30 := by
    unfold eventOffset
    omega
  unfold eventFields
  rw [hnext]
  cases event.type.operand with
  | none => simp [Spaced]
  | some operand => simp [Spaced]

theorem spaced_queueFields (index : Nat) (events : List QueuedEvent) :
    Spaced (eventOffset index) (eventOffset (index + events.length)) (queueFields index events) := by
  induction events generalizing index with
  | nil => exact Nat.le_refl _
  | cons event events ih =>
    have hrest := ih (index + 1)
    rw [show index + 1 + events.length = index + (event :: events).length by
      rw [List.length_cons]; omega] at hrest
    exact (spaced_eventFields index event.toEvent).append hrest

theorem spaced_coordinatorFields (c : CoordinatorState) :
    Spaced coordinatorOffset driverStateSize (coordinatorFields c) := by
  have hrange : List.range 4 = [0, 1, 2, 3] := rfl
  simp [coordinatorFields, hrange, Spaced, coordinatorOffset, driverStateSize]

variable [MgbaTimer]

/-- **The fields of a saved state lie apart.** -/
theorem spaced_savedFields (s : Pair) (i : Fin 2) (player : Player) :
    Spaced 0 driverStateSize (s.savedFields i player) := by
  have hqueue := spaced_queueFields 0 (player.queue.take maxLockstepEvents)
  have hlength : (player.queue.take maxLockstepEvents).length ≤ maxLockstepEvents :=
    List.length_take_le _ _
  have hend : eventOffset (0 + (player.queue.take maxLockstepEvents).length) ≤ coordinatorOffset := by
    unfold eventOffset coordinatorOffset maxLockstepEvents at *
    omega
  unfold savedFields
  rw [List.append_assoc]
  refine (show Spaced 0 (eventOffset 0) _ from ?_).append (hqueue.append ?_)
  · simp [Spaced, headerFields, eventOffset]
  · split
    · exact (spaced_coordinatorFields _).of_le hend
    · exact Nat.le_trans hend (by decide)

@[simp] theorem length_savedState (s : Pair) (i : Fin 2) (player : Player) :
    (s.savedState i player).length = driverStateSize := by
  unfold savedState
  rw [length_writeFields (spaced_savedFields s i player) (by simp), List.length_replicate]

/-- A word is read back where it was stored. -/
theorem load32_savedState {s : Pair} {i : Fin 2} {player : Player} {offset : Nat}
    {value : BitVec 32} (h : (offset, store32 value) ∈ s.savedFields i player) :
    load32 (s.savedState i player) offset = value :=
  load32_of_fieldAt (fieldAt_writeFields_of_mem (spaced_savedFields s i player) (by simp) h)

theorem load16_savedState {s : Pair} {i : Fin 2} {player : Player} {offset : Nat}
    {value : BitVec 16} (h : (offset, store16 value) ∈ s.savedFields i player) :
    load16 (s.savedState i player) offset = value :=
  load16_of_fieldAt (fieldAt_writeFields_of_mem (spaced_savedFields s i player) (by simp) h)

/-- What the saver leaves alone is zero. -/
theorem allZero_savedState {s : Pair} {i : Fin 2} {player : Player} {offset size : Nat}
    (h : ∀ field ∈ s.savedFields i player, Outside offset size field) :
    allZero (s.savedState i player) offset size = true := by
  unfold allZero savedState
  rw [fieldAt_writeFields_of_outside (spaced_savedFields s i player) (by simp) h]
  simp [fieldAt]

/-! ## Flags -/

open SerializedFlags

/-- A flag's field lies in the word, and its value fits it. -/
def Stored (field : BitField × BitVec 32) : Prop :=
  field.1.start + field.1.size ≤ 32 ∧ Fits field.1.size field.2

omit [MgbaTimer] in
theorem stored_count (events : List QueuedEvent) :
    Stored (numEvents, BitVec.ofNat 32 (events.take maxLockstepEvents).length) := by
  have hstored : ∀ n : Fin 9, Stored (numEvents, BitVec.ofNat 32 n) := by
    unfold Stored
    decide
  have hlength : (events.take maxLockstepEvents).length ≤ maxLockstepEvents := List.length_take_le _ _
  exact hstored ⟨_, Nat.lt_succ_of_le hlength⟩

omit [MgbaTimer] in
theorem stored_mode {f : BitField} (h : f.start + f.size ≤ 32 ∧ f.size = 3) (mode : Mode) :
    Stored (f, modeEnumToInt mode) :=
  ⟨h.1, h.2 ▸ fits_modeEnumToInt mode⟩

omit [MgbaTimer] in
theorem stored_bit {f : BitField} (h : f.start + f.size ≤ 32 ∧ f.size = 1) (flag : Bool) :
    Stored (f, bit flag) :=
  ⟨h.1, h.2 ▸ fits_bit flag⟩

theorem stored_playerFlags (s : Pair) (i : Fin 2) (player : Player) :
    ∀ field ∈ s.playerFlags i player, Stored field := by
  simp only [playerFlags, List.forall_mem_cons, List.not_mem_nil, false_implies, implies_true,
    and_true]
  exact ⟨stored_bit (by decide) _, stored_bit (by decide) _, stored_mode (by decide) _,
    stored_bit (by decide) _, stored_mode (by decide) _, stored_mode (by decide) _,
    stored_mode (by decide) _, stored_mode (by decide) _, stored_count player.queue⟩

omit [MgbaTimer] in
theorem stored_coordinatorFlags (c : CoordinatorState) :
    ∀ field ∈ coordinatorFlags c, Stored field := by
  simp only [coordinatorFlags, List.forall_mem_cons, List.not_mem_nil, false_implies, implies_true,
    and_true]
  exact ⟨stored_mode (by decide) _, stored_bit (by decide) _, stored_bit (by decide) _⟩

theorem flags_apart (s : Pair) (i : Fin 2) (player : Player) (c : CoordinatorState) :
    (s.playerFlags i player ++ coordinatorFlags c).Pairwise fun g g' => g'.1.Apart g.1 := by
  simp [playerFlags, coordinatorFlags, BitField.Apart, asleep, dataReceived, driverMode,
    eventScheduled, player0Mode, player1Mode, player2Mode, player3Mode, numEvents, transferMode,
    transferActive, syncArmed]

/-- **A flag of the player reads as it was saved.** -/
theorem get_playerFlag {s : Pair} {i : Fin 2} {player : Player} {field : BitField × BitVec 32}
    (h : field ∈ s.playerFlags i player) : field.1.get (s.savedFlags i player) = field.2 := by
  have hstored := stored_playerFlags s i player field h
  have happart := flags_apart s i player s.coordinator.toCoordinatorState
  refine get_packFrom_of_mem hstored.1 hstored.2 0#32 ?_ (List.mem_append_left _ h)
  split
  · exact happart
  · rw [List.append_nil]
    exact (List.pairwise_append.mp happart).1

/-- A flag of the coordinator reads as player 0 saved it. -/
theorem get_coordinatorFlag {s : Pair} {i : Fin 2} {player : Player}
    {field : BitField × BitVec 32} (hid : player.playerId = 0)
    (h : field ∈ coordinatorFlags s.coordinator.toCoordinatorState) :
    field.1.get (s.savedFlags i player) = field.2 := by
  have hstored := stored_coordinatorFlags _ field h
  unfold savedFlags
  rw [if_pos hid]
  exact get_packFrom_of_mem hstored.1 hstored.2 0#32 (flags_apart s i player _)
    (List.mem_append_right _ h)

/-- The bits no flag of the player uses are clear, up to the coordinator's. -/
theorem get_savedFlags_of_apart {s : Pair} {i : Fin 2} {player : Player} {f : BitField}
    (hsize : f.start + f.size ≤ 32) (hplayer : ∀ field ∈ s.playerFlags i player, f.Apart field.1)
    (hcoordinator : player.playerId = 0 →
      ∀ field ∈ coordinatorFlags s.coordinator.toCoordinatorState, f.Apart field.1) :
    f.get (s.savedFlags i player) = 0#32 := by
  unfold savedFlags
  rw [get_packFrom_of_apart hsize]
  · exact getBits_zero _ _
  · intro field hmem
    rcases List.mem_append.mp hmem with hmem | hmem
    · exact hplayer field hmem
    · split at hmem
      · exact hcoordinator ‹_› field hmem
      · cases hmem

/-! ## Events -/

omit [MgbaTimer] in
theorem mem_queueFields {events : List QueuedEvent} {k : Nat} {event : QueuedEvent} (index : Nat)
    (h : events[k]? = some event) {field : Nat × List Byte}
    (hf : field ∈ eventFields (index + k) event.toEvent) : field ∈ queueFields index events := by
  induction events generalizing index k with
  | nil => simp at h
  | cons first events ih =>
    cases k with
    | zero =>
      obtain rfl := Option.some.inj h
      exact List.mem_append_left _ hf
    | succ k =>
      refine List.mem_append_right _ (ih (index + 1) h ?_)
      rwa [Nat.add_right_comm, Nat.add_assoc]

omit [MgbaTimer] in
theorem exists_of_mem_queueFields {events : List QueuedEvent} {index : Nat}
    {field : Nat × List Byte} (h : field ∈ queueFields index events) :
    ∃ (k : Nat) (event : QueuedEvent), events[k]? = some event ∧
      field ∈ eventFields (index + k) event.toEvent := by
  induction events generalizing index with
  | nil => cases h
  | cons first events ih =>
    rcases List.mem_append.mp h with h | h
    · exact ⟨0, first, rfl, h⟩
    · obtain ⟨k, event, hk, hf⟩ := ih h
      refine ⟨k + 1, event, hk, ?_⟩
      rwa [Nat.add_right_comm, Nat.add_assoc] at hf

variable {s : Pair} {i : Fin 2} {player : Player}

/-- Where a saved field comes from. -/
theorem cases_savedFields {field : Nat × List Byte} (h : field ∈ s.savedFields i player) :
    field ∈ s.headerFields i player ∨
      (∃ (k : Nat) (event : QueuedEvent), (player.queue.take maxLockstepEvents)[k]? = some event ∧
        field ∈ eventFields k event.toEvent) ∨
      player.playerId = 0 ∧ field ∈ coordinatorFields s.coordinator.toCoordinatorState := by
  rcases List.mem_append.mp h with h | h
  · rcases List.mem_append.mp h with h | h
    · exact Or.inl h
    · obtain ⟨k, event, hk, hf⟩ := exists_of_mem_queueFields h
      rw [Nat.zero_add] at hf
      exact Or.inr (Or.inl ⟨k, event, hk, hf⟩)
  · split at h
    · exact Or.inr (Or.inr ⟨‹_›, h⟩)
    · cases h

theorem headerFields_bound {field : Nat × List Byte} (h : field ∈ s.headerFields i player) :
    field.1 + field.2.length ≤ eventOffset 0 := by
  have hspaced : Spaced 0 (eventOffset 0) (s.headerFields i player) := by
    simp [Spaced, headerFields, eventOffset]
  exact (hspaced.bounds h).2

omit [MgbaTimer] in
theorem lt_of_queued {k : Nat} {event : QueuedEvent}
    (h : (player.queue.take maxLockstepEvents)[k]? = some event) : k < maxLockstepEvents := by
  obtain ⟨hk, -⟩ := List.getElem?_eq_some_iff.mp h
  exact Nat.lt_of_lt_of_le hk (List.length_take_le _ _)

theorem mem_savedFields_event {k : Nat} {event : QueuedEvent}
    (h : (player.queue.take maxLockstepEvents)[k]? = some event) {field : Nat × List Byte}
    (hf : field ∈ eventFields k event.toEvent) : field ∈ s.savedFields i player := by
  refine List.mem_append_left _ (List.mem_append_right _ (mem_queueFields 0 h ?_))
  rwa [Nat.zero_add]

/-- Part of an event's entry that its own fields leave alone is zero. -/
theorem allZero_event {k : Nat} {event : QueuedEvent}
    (h : (player.queue.take maxLockstepEvents)[k]? = some event) {offset size : Nat}
    (hsize : offset + size ≤ 0x30)
    (hown : ∀ field ∈ eventFields k event.toEvent, Outside (eventOffset k + offset) size field) :
    allZero (s.savedState i player) (eventOffset k + offset) size = true := by
  have hk := lt_of_queued h
  refine allZero_savedState fun field hmem => ?_
  rcases cases_savedFields hmem with hmem | ⟨j, other, hj, hmem⟩ | ⟨-, hmem⟩
  · have hbound := headerFields_bound hmem
    refine Or.inl (Nat.le_trans hbound ?_)
    unfold eventOffset
    omega
  · have hbounds := (spaced_eventFields j other.toEvent).bounds hmem
    unfold eventOffset at hbounds ⊢
    rcases Nat.lt_trichotomy j k with hlt | rfl | hgt
    · exact Or.inl (by omega)
    · obtain rfl := Option.some.inj (h.symm.trans hj)
      exact hown field hmem
    · exact Or.inr (by omega)
  · have hbounds := (spaced_coordinatorFields _).bounds hmem
    unfold eventOffset coordinatorOffset maxLockstepEvents at *
    exact Or.inr (by omega)

/-- A saved event's type, player and timestamp are read back. -/
theorem load32_event {k : Nat} {event : QueuedEvent}
    (h : (player.queue.take maxLockstepEvents)[k]? = some event) :
    load32 (s.savedState i player) (eventOffset k) = event.timestamp ∧
      load32 (s.savedState i player) (eventOffset k + 4) = BitVec.ofInt 32 event.playerId ∧
      load32 (s.savedState i player) (eventOffset k + 8) = eventTypeField.set 0 event.type.code ∧
      ∀ operand ∈ event.type.operand,
        load32 (s.savedState i player) (eventOffset k + 0x20) = operand := by
  refine ⟨?_, ?_, ?_, fun operand hoperand => ?_⟩
  · exact load32_savedState (mem_savedFields_event h (by simp [eventFields]))
  · exact load32_savedState (mem_savedFields_event h (by simp [eventFields]))
  · exact load32_savedState (mem_savedFields_event h (by simp [eventFields]))
  · rw [Option.mem_def] at hoperand
    exact load32_savedState (mem_savedFields_event h (by simp [eventFields, hoperand]))

omit [MgbaTimer] in
theorem get_eventTypeField (type : EventType) :
    eventTypeField.get (eventTypeField.set 0 type.code) = type.code :=
  getBits_setBits_same 0 (by decide) (fits_code type)

/-- **The loader reads the events that were saved.** -/
theorem loadedEvent_savedState {k : Nat} {event : QueuedEvent}
    (h : (player.queue.take maxLockstepEvents)[k]? = some event)
    (hid : (BitVec.ofInt 32 event.playerId).toInt = event.playerId) :
    loadedEvent (s.savedState i player) k = event.toEvent := by
  obtain ⟨htime, hplayer, htype, hoperand⟩ := load32_event (s := s) (i := i) h
  have htypeOf : eventTypeOf event.type.code (load32 (s.savedState i player) (eventOffset k + 0x20)) =
      event.type := eventTypeOf_code hoperand
  unfold loadedEvent
  rw [htime, hplayer, htype, get_eventTypeField, hid, htypeOf]

/-! ## Validation -/

/-- The player an event names is one its type allows, with `n` players attached. -/
def EventSound (n : Nat) (event : Event) : Prop :=
  match event.type with
  | .hardSync => event.playerId = 0
  | .transferStart _ => event.playerId = 0
  | _ => 0 ≤ event.playerId ∧ event.playerId < n

omit [MgbaTimer] in
theorem toInt_ofInt_playerId {n : Nat} {event : Event} (hn : n ≤ maxGbas) (h : EventSound n event) :
    (BitVec.ofInt 32 event.playerId).toInt = event.playerId := by
  have hbound : 0 ≤ event.playerId ∧ event.playerId < 4 := by
    unfold EventSound at h
    unfold maxGbas at hn
    split at h <;> omega
  rw [BitVec.toInt_ofInt]
  unfold Int.bmod
  dsimp only
  split <;> omega

omit [MgbaTimer] in
/-- The reserved words of an entry, and its union when the type leaves it unused. -/
theorem outside_eventFields {index offset size : Nat} {event : Event} (hlow : 0xc ≤ offset)
    (hunion : event.type.operand = none ∨ offset + size ≤ 0x20 ∨ 0x24 ≤ offset) :
    ∀ field ∈ eventFields index event, Outside (eventOffset index + offset) size field := by
  intro field hmem
  unfold Outside
  rcases List.mem_append.mp hmem with hmem | hmem
  · simp only [List.mem_cons, List.not_mem_nil, or_false] at hmem
    rcases hmem with rfl | rfl | rfl <;> rw [length_store32] <;> omega
  · obtain ⟨operand, hoperand, rfl⟩ := List.mem_map.mp hmem
    rcases hunion with hnone | hunion
    · rw [hnone] at hoperand
      cases hoperand
    · rw [length_store32]
      omega

/-- A saved event passes the checks. -/
theorem eventValid_savedState {t : Pair} {k : Nat} {event : QueuedEvent}
    (h : (player.queue.take maxLockstepEvents)[k]? = some event)
    (hn : t.coordinator.nAttached ≤ maxGbas)
    (hsound : EventSound t.coordinator.nAttached event.toEvent) :
    t.eventValid (s.savedState i player) k = true := by
  obtain ⟨-, hplayer, htype, hoperand⟩ := load32_event (s := s) (i := i) h
  have hreserved : allZero (s.savedState i player) (eventOffset k + 0xc) 20 = true :=
    allZero_event h (by decide) (outside_eventFields (by decide) (by omega))
  have hpadding : allZero (s.savedState i player) (eventOffset k + 0x24) 12 = true :=
    allZero_event h (by decide) (outside_eventFields (by decide) (by omega))
  have hunion (hnone : event.type.operand = none) :
      allZero (s.savedState i player) (eventOffset k + 0x20) 4 = true :=
    allZero_event h (by decide) (outside_eventFields (by decide) (Or.inl hnone))
  have hid := toInt_ofInt_playerId hn hsound
  unfold eventValid
  unfold EventSound at hsound
  simp only [hreserved, hpadding, htype, hplayer, hid, get_eventTypeField]
  obtain ⟨⟨type, playerId, timestamp⟩, slot, serial⟩ := event
  cases type with
  | attach =>
    simp only at hsound
    simp [EventType.code, eventTypeField, BitField.set, setBits, lowMask, hunion rfl, hsound]
  | detach =>
    simp only at hsound
    simp [EventType.code, eventTypeField, BitField.set, setBits, lowMask, hunion rfl, hsound]
  | hardSync =>
    simp only at hsound
    simp [EventType.code, eventTypeField, BitField.set, setBits, lowMask, hunion rfl, hsound]
  | modeSet mode =>
    have hmode : eventModeValid mode.code = true := by
      unfold eventModeValid
      rw [modeOfCode_code]
      rfl
    simp only at hsound
    simp [EventType.code, eventTypeField, BitField.set, setBits, lowMask, hoperand mode.code rfl,
      hmode, hsound]
  | transferStart finishCycle =>
    simp only at hsound
    simp [EventType.code, eventTypeField, BitField.set, setBits, lowMask, hsound]

/-! ### The header -/

theorem load32_flags : load32 (s.savedState i player) 4 = s.savedFlags i player :=
  load32_savedState (List.mem_append_left _ (List.mem_append_left _ (by simp [headerFields])))

theorem load32_header {offset : Nat} {value : BitVec 32}
    (h : (offset, store32 value) ∈ s.headerFields i player) :
    load32 (s.savedState i player) offset = value :=
  load32_savedState (List.mem_append_left _ (List.mem_append_left _ h))

/-- A reserved part of the header is zero. -/
theorem allZero_header {offset size : Nat} (hbound : offset + size ≤ eventOffset 0)
    (hown : ∀ field ∈ s.headerFields i player, Outside offset size field) :
    allZero (s.savedState i player) offset size = true := by
  refine allZero_savedState fun field hmem => ?_
  rcases cases_savedFields hmem with hmem | ⟨k, event, -, hmem⟩ | ⟨-, hmem⟩
  · exact hown field hmem
  · have hbounds := (spaced_eventFields k event.toEvent).bounds hmem
    unfold eventOffset at hbounds hbound
    exact Or.inr (by omega)
  · have hbounds := (spaced_coordinatorFields _).bounds hmem
    unfold eventOffset at hbound
    unfold coordinatorOffset at hbounds
    exact Or.inr (by omega)

theorem get_player {f : BitField} {bits : BitVec 32} (h : (f, bits) ∈ s.playerFlags i player) :
    f.get (load32 (s.savedState i player) 4) = bits := by
  rw [load32_flags]
  exact get_playerFlag h

theorem numEvents_savedState : (numEvents.get (load32 (s.savedState i player) 4)).toNat =
    (player.queue.take maxLockstepEvents).length := by
  have hlength : (player.queue.take maxLockstepEvents).length ≤ maxLockstepEvents :=
    List.length_take_le _ _
  have hget : numEvents.get (load32 (s.savedState i player) 4) =
      BitVec.ofNat 32 (player.queue.take maxLockstepEvents).length :=
    get_player (by simp [playerFlags])
  unfold maxLockstepEvents at hlength hget ⊢
  rw [hget, BitVec.toNat_ofNat]
  omega

theorem mem_driverMode : (driverMode, modeEnumToInt player.mode) ∈ s.playerFlags i player := by
  simp [playerFlags]

/-- The flags hold what the player knows of each player. -/
theorem mem_otherMode (f : BitField) (k : Nat)
    (h : (f, k) ∈ [(player0Mode, 0), (player1Mode, 1), (player2Mode, 2), (player3Mode, 3)]) :
    (f, modeEnumToInt (player.otherModes.getD k .none)) ∈ s.playerFlags i player := by
  simp only [List.mem_cons, Prod.mk.injEq, List.not_mem_nil, or_false] at h
  rcases h with ⟨rfl, rfl⟩ | ⟨rfl, rfl⟩ | ⟨rfl, rfl⟩ | ⟨rfl, rfl⟩ <;> simp [playerFlags]

/-- A mode among the flags passes the check. -/
theorem modeFlag_valid {f : BitField} {mode : Mode}
    (h : (f, modeEnumToInt mode) ∈ s.playerFlags i player) :
    serializedModeValid (f.get (load32 (s.savedState i player) 4)) = true := by
  rw [get_player h]
  exact serializedModeValid_modeEnumToInt mode

/-- The reserved bits of the flags are clear. -/
theorem reservedFlags_savedState :
    load32 (s.savedState i player) 4 &&& 0x0c000000#32 = 0#32 := by
  have hget : (⟨26, 2⟩ : BitField).get (s.savedFlags i player) = 0#32 :=
    get_savedFlags_of_apart (by decide) (by simp [playerFlags, BitField.Apart, asleep, dataReceived,
      driverMode, eventScheduled, player0Mode, player1Mode, player2Mode, player3Mode, numEvents])
      fun _ => by simp [coordinatorFlags, BitField.Apart, transferMode, transferActive, syncArmed]
  rw [load32_flags]
  exact (and_mask_eq_zero_iff (s.savedFlags i player) (by decide)).mpr hget

/-- The header of a saved state passes the checks. -/
theorem headerValid_savedState {p : Player} (hid : p.playerId = player.playerId) :
    headerValid (s.savedState i player) p = true := by
  have hversion : load32 (s.savedState i player) 0 = driverStateVersion :=
    load32_header (by simp [headerFields])
  have hplayer : load32 (s.savedState i player) 0x30 = BitVec.ofInt 32 p.playerId := by
    rw [hid]
    exact load32_header (by simp [headerFields])
  have hzero (offset size : Nat) (h : (offset, size) ∈ [(8, 8), (0x14, 28), (0x38, 8)]) :
      allZero (s.savedState i player) offset size = true := by
    simp only [List.mem_cons, Prod.mk.injEq, List.not_mem_nil, or_false] at h
    rcases h with ⟨rfl, rfl⟩ | ⟨rfl, rfl⟩ | ⟨rfl, rfl⟩ <;>
      exact allZero_header (by decide) (by simp [headerFields, Outside])
  have hcount : (numEvents.get (load32 (s.savedState i player) 4)).toNat ≤ maxLockstepEvents := by
    rw [numEvents_savedState]
    exact List.length_take_le _ _
  unfold headerValid
  simp only [Bool.and_eq_true, decide_eq_true_eq, and_assoc]
  exact ⟨hversion, hzero 8 8 (by simp), hzero 0x14 28 (by simp), hzero 0x38 8 (by simp), hplayer,
    reservedFlags_savedState, modeFlag_valid mem_driverMode,
    modeFlag_valid (mem_otherMode player0Mode 0 (by simp)),
    modeFlag_valid (mem_otherMode player1Mode 1 (by simp)),
    modeFlag_valid (mem_otherMode player2Mode 2 (by simp)),
    modeFlag_valid (mem_otherMode player3Mode 3 (by simp)), hcount⟩

/-! ### The coordinator -/

/-- Player 0's state holds the coordinator's fields. -/
theorem mem_savedFields_coordinator (hid : player.playerId = 0) {field : Nat × List Byte}
    (h : field ∈ coordinatorFields s.coordinator.toCoordinatorState) :
    field ∈ s.savedFields i player := by
  refine List.mem_append_right _ ?_
  rw [if_pos hid]
  exact h

theorem get_coordinator (hid : player.playerId = 0) {f : BitField} {bits : BitVec 32}
    (h : (f, bits) ∈ coordinatorFlags s.coordinator.toCoordinatorState) :
    f.get (load32 (s.savedState i player) 4) = bits := by
  rw [load32_flags]
  exact get_coordinatorFlag hid h

/-- The state of another player leaves the coordinator's flags clear. -/
theorem secondaryFlags_savedState (hid : player.playerId ≠ 0) :
    load32 (s.savedState i player) 4 &&& 0xf2000000#32 = 0#32 := by
  have hclear (f : BitField) (h : f = ⟨25, 1⟩ ∨ f = ⟨28, 4⟩) :
      f.get (s.savedFlags i player) = 0#32 := by
    refine get_savedFlags_of_apart ?_ ?_ fun hzero => absurd hzero hid
    · rcases h with rfl | rfl <;> decide
    · rcases h with rfl | rfl <;>
        simp [playerFlags, BitField.Apart, asleep, dataReceived, driverMode, eventScheduled,
          player0Mode, player1Mode, player2Mode, player3Mode, numEvents]
  have hmask : (0xf2000000#32 : BitVec 32) = (lowMask 32 1 <<< 25) ||| (lowMask 32 4 <<< 28) := by
    decide
  have hsync := (and_mask_eq_zero_iff (s.savedFlags i player) (by decide)).mpr (hclear _ (Or.inl rfl))
  have htransfer := (and_mask_eq_zero_iff (s.savedFlags i player) (by decide)).mpr
    (hclear _ (Or.inr rfl))
  rw [load32_flags, hmask, BitVec.and_or_distrib_left, hsync, htransfer, BitVec.or_zero]

/-- Only the coordinator's fields reach into its part of the state. -/
theorem savedFields_bound {field : Nat × List Byte} (h : field ∈ s.savedFields i player) :
    field.1 + field.2.length ≤ coordinatorOffset ∨
      player.playerId = 0 ∧ field ∈ coordinatorFields s.coordinator.toCoordinatorState := by
  rcases cases_savedFields h with h | ⟨k, event, hk, h⟩ | h
  · exact Or.inl (Nat.le_trans (headerFields_bound h) (by decide))
  · have hbounds := (spaced_eventFields k event.toEvent).bounds h
    have hlt := lt_of_queued hk
    unfold eventOffset at hbounds
    unfold maxLockstepEvents at hlt
    unfold coordinatorOffset
    exact Or.inl (by omega)
  · exact Or.inr h

omit [MgbaTimer] in
/-- The coordinator's reserved words. -/
theorem coordinatorFields_outside (c : CoordinatorState) :
    ∀ field ∈ coordinatorFields c, Outside (coordinatorOffset + 0xc) 12 field := by
  have hrange : List.range 4 = [0, 1, 2, 3] := rfl
  simp [coordinatorFields, hrange, Outside, coordinatorOffset]

/-- The coordinator's part of a saved state passes the checks. -/
theorem coordinatorValid_savedState {t : Pair} {p : Player} (hid : p.playerId = player.playerId)
    (hwaiting : player.playerId = 0 →
      s.coordinator.waiting &&& ~~~((1#32 <<< t.coordinator.nAttached) - 1) = 0#32 ∧
        s.coordinator.waiting &&& 1#32 = 0#32) :
    t.coordinatorValid (s.savedState i player) p = true := by
  unfold coordinatorValid
  rw [hid]
  by_cases hzero : player.playerId = 0
  · obtain ⟨hmask, hprimary⟩ := hwaiting hzero
    have hwait : load32 (s.savedState i player) (coordinatorOffset + 4) = s.coordinator.waiting :=
      load32_savedState (mem_savedFields_coordinator hzero (by simp [coordinatorFields]))
    have hmode : transferMode.get (load32 (s.savedState i player) 4) =
        modeEnumToInt s.coordinator.transferMode :=
      get_coordinator hzero (by simp [coordinatorFlags])
    have hreserved : allZero (s.savedState i player) (coordinatorOffset + 0xc) 12 = true := by
      refine allZero_savedState fun field hmem => ?_
      rcases savedFields_bound hmem with hbound | ⟨-, hmem⟩
      · exact Or.inl (Nat.le_trans hbound (by decide))
      · exact coordinatorFields_outside _ field hmem
    rw [if_pos hzero]
    simp only [hmode, serializedModeValid_modeEnumToInt, hreserved, hwait, hmask, hprimary,
      decide_true, Bool.and_self]
  · have hreserved : allZero (s.savedState i player) coordinatorOffset 0x30 = true := by
      refine allZero_savedState fun field hmem => ?_
      rcases savedFields_bound hmem with hbound | ⟨hid, -⟩
      · exact Or.inl hbound
      · exact absurd hid hzero
    rw [if_neg hzero]
    simp only [secondaryFlags_savedState hzero, hreserved, decide_true, Bool.and_self]

/-! ### The whole state -/

/-- **A saved state is accepted** by the driver of a player with the same id. -/
theorem validateState_savedState {t : Pair} {j : Fin 2} {p : Player}
    (hlookup : t.lookup (t.drivers j).lockstepId = some p) (hid : p.playerId = player.playerId)
    (hlockstep : (t.drivers j).lockstepId ≠ 0) (hpositive : 1 ≤ t.coordinator.nAttached)
    (hbound : t.coordinator.nAttached ≤ maxGbas)
    (hplayer : 0 ≤ player.playerId ∧ player.playerId < t.coordinator.nAttached)
    (hsound : ∀ event ∈ player.queue, EventSound t.coordinator.nAttached event.toEvent)
    (hwaiting : player.playerId = 0 →
      s.coordinator.waiting &&& ~~~((1#32 <<< t.coordinator.nAttached) - 1) = 0#32 ∧
        s.coordinator.waiting &&& 1#32 = 0#32) :
    t.validateState j true (s.savedState i player) = true := by
  have hevents : (List.range (player.queue.take maxLockstepEvents).length).all
      (t.eventValid (s.savedState i player)) = true := by
    rw [List.all_eq_true]
    intro k hk
    have hget := List.getElem?_eq_getElem (List.mem_range.mp hk)
    exact eventValid_savedState hget hbound
      (hsound _ (List.mem_of_mem_take (List.mem_of_getElem? hget)))
  unfold validateState
  rw [if_neg (by simp [hlockstep]), if_neg (by omega)]
  simp only [hlookup]
  rw [if_neg (by omega), numEvents_savedState, headerValid_savedState hid, hevents,
    coordinatorValid_savedState hid hwaiting]
  rfl

/-! ## What the loader takes over -/

theorem loadedCount_savedState : loadedCount (s.savedState i player) =
    (player.queue.take maxLockstepEvents).length := by
  unfold loadedCount
  rw [numEvents_savedState]
  exact Nat.min_eq_left (List.length_take_le _ _)

/-- **The loaded queue holds the events that were saved, in their order.** -/
theorem loadedQueue_savedState {n : Nat} (hn : n ≤ maxGbas)
    (hsound : ∀ event ∈ player.queue, EventSound n event.toEvent) :
    (loadedQueue (s.savedState i player)).map QueuedEvent.toEvent =
      (player.queue.take maxLockstepEvents).map QueuedEvent.toEvent := by
  have hlength : (player.queue.take maxLockstepEvents).length ≤ maxLockstepEvents :=
    List.length_take_le _ _
  refine List.ext_getElem? fun k => ?_
  unfold loadedQueue
  rw [loadedCount_savedState, List.map_map, List.getElem?_map, List.getElem?_map, List.getElem?_take]
  by_cases hk : k < (player.queue.take maxLockstepEvents).length
  · have hget := List.getElem?_eq_getElem hk
    have hslot : (List.finRange maxLockstepEvents)[k]? = some ⟨k, by omega⟩ := by
      rw [List.getElem?_eq_getElem (by rw [List.length_finRange]; omega), List.getElem_finRange]
      rfl
    have hmem := List.mem_of_mem_take (List.mem_of_getElem? hget)
    rw [if_pos hk, hslot, hget]
    exact congrArg some (loadedEvent_savedState hget (toInt_ofInt_playerId hn (hsound _ hmem)))
  · rw [if_neg hk, List.getElem?_eq_none (by omega)]
    rfl

omit [MgbaTimer] in
/-- Four words, one by one. -/
theorem map_getD_range {α : Type} {words : List α} (default : α) (h : words.length = 4) :
    (List.range 4).map (fun k => words.getD k default) = words := by
  match words, h with
  | [_, _, _, _], _ => rfl

/-- The coordinator's fields are read as player 0 saved them. -/
theorem loadedCoordinator_savedState (c : CoordinatorState) (hid : player.playerId = 0)
    (hmulti : s.coordinator.multiData.length = 4) (hnormal : s.coordinator.normalData.length = 4) :
    loadedCoordinator (s.savedState i player) c =
      { c with
        cycle := s.coordinator.cycle
        waiting := s.coordinator.waiting
        nextHardSync := s.coordinator.nextHardSync
        multiData := s.coordinator.multiData
        normalData := s.coordinator.normalData
        transferMode := s.coordinator.transferMode
        transferActive := s.coordinator.transferActive
        syncArmed := s.coordinator.syncArmed } := by
  have hword {offset : Nat} {value : BitVec 32}
      (h : (offset, store32 value) ∈ coordinatorFields s.coordinator.toCoordinatorState) :
      load32 (s.savedState i player) offset = value :=
    load32_savedState (mem_savedFields_coordinator hid h)
  have hcycle : load32 (s.savedState i player) coordinatorOffset = s.coordinator.cycle :=
    hword (by simp [coordinatorFields])
  have hwait : load32 (s.savedState i player) (coordinatorOffset + 4) = s.coordinator.waiting :=
    hword (by simp [coordinatorFields])
  have hsync : load32 (s.savedState i player) (coordinatorOffset + 8) = s.coordinator.nextHardSync :=
    hword (by simp [coordinatorFields])
  have hmultiData : (List.range 4).map (fun k =>
      load16 (s.savedState i player) (coordinatorOffset + 0x18 + 2 * k)) = s.coordinator.multiData := by
    refine (List.map_congr_left fun k hk => ?_).trans (map_getD_range 0 hmulti)
    refine load16_savedState (mem_savedFields_coordinator hid ?_)
    exact List.mem_append_left _ (List.mem_append_right _ (List.mem_map.mpr ⟨k, hk, rfl⟩))
  have hnormalData : (List.range 4).map (fun k =>
      load32 (s.savedState i player) (coordinatorOffset + 0x20 + 4 * k)) =
        s.coordinator.normalData := by
    refine (List.map_congr_left fun k hk => ?_).trans (map_getD_range 0 hnormal)
    exact hword (List.mem_append_right _ (List.mem_map.mpr ⟨k, hk, rfl⟩))
  have hmode : transferMode.get (load32 (s.savedState i player) 4) =
      modeEnumToInt s.coordinator.transferMode := get_coordinator hid (by simp [coordinatorFlags])
  have hactive : transferActive.get (load32 (s.savedState i player) 4) =
      bit s.coordinator.transferActive := get_coordinator hid (by simp [coordinatorFlags])
  have harmed : syncArmed.get (load32 (s.savedState i player) 4) = bit s.coordinator.syncArmed :=
    get_coordinator hid (by simp [coordinatorFlags])
  unfold loadedCoordinator
  simp only [hcycle, hwait, hsync, hmultiData, hnormalData, hmode, hactive, harmed, bit_ne_zero,
    modeIntToEnum_modeEnumToInt]

end Pair

end DualBoy.Lockstep
