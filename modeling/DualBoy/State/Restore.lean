import DualBoy.Lib.Attempts
import DualBoy.State.Session

/-!
# Restoring a state

`dualboy_state_unserialize_ex`: a container that passes every check is applied component by
component over a snapshot of the pair; when a component fails, the snapshot is put back, and either
way the battery memory keeps what it had before the call.

**`unserializeEx_cases`** says what there is to know of the order: a restore either is rejected with
nothing called, or goes through `applyState` with everything before it passed.
-/

namespace DualBoy.State

open DualBoy.Lib

variable {M L : Type}

/-! ## Mutating calls -/

/-- A mutating engine call. -/
inductive Call where
  | setLink (enabled : Bool)
  | unserializeMachine (machine : Fin 2) (bytes : List Byte)
  | unserializeLink (bytes : List Byte)
  deriving DecidableEq, Repr

/-- The calls that bring a pair to these contents, in order. -/
def Contents.calls (c : Contents) : List Call :=
  [.setLink c.linkEnabled, .unserializeMachine 0 (c.machine 0), .unserializeMachine 1 (c.machine 1),
    .unserializeLink c.link]

/-- Makes a call, with the error text a failure leaves. -/
def Ready.perform (r : Ready M L) (call : Call) (pair : Pair M L) : Pair M L × Option String :=
  match call with
  | .setLink enabled => r.setLink pair enabled
  | .unserializeMachine machine bytes =>
    let (pair, ok) := r.unserializeMachine pair machine bytes
    (pair, if ok then none else some s!"failed to restore machine {machine.val + 1}")
  | .unserializeLink bytes =>
    let (pair, ok) := r.unserializeLink pair bytes
    (pair, if ok then none else some "failed to restore link state")

/-! ## Snapshot and battery -/

/-- The allocations a restore makes. -/
inductive Allocation where
  | machine (i : Fin 2)
  | link
  | battery (i : Fin 2) (kind : MemoryKind)

/-- The turn of `snapshot_state`'s loop for machine `i`. -/
def snapshotMachine (malloc : Allocation → Bool) (r : Ready M L) (i : Fin 2) :
    Except String (List Byte) :=
  if r.machineStateCapacity i = 0 then .error "engine reported an empty machine state"
  else if malloc (.machine i) then
    match r.serializeMachine r.pair i (r.machineStateCapacity i) with
    | some bytes =>
      if bytes.length ≤ r.machineStateCapacity i then .ok bytes
      else .error s!"failed to snapshot machine {i.val + 1}"
    | none => .error s!"failed to snapshot machine {i.val + 1}"
  else .error s!"failed to snapshot machine {i.val + 1}"

/-- The rest of `snapshot_state`. -/
def snapshotLink (malloc : Allocation → Bool) (r : Ready M L) : Except String (List Byte) :=
  if 0 < r.linkStateCapacity ∧ malloc .link = false then
    .error "out of memory while snapshotting link state"
  else
    match r.serializeLink r.pair r.linkStateCapacity with
    | some bytes =>
      if bytes.length ≤ r.linkStateCapacity then .ok bytes else .error "failed to snapshot link state"
    | none => .error "failed to snapshot link state"

/-- `snapshot_state`; a snapshot goes with the link setting in force. -/
def snapshotState (malloc : Allocation → Bool) (r : Ready M L) : Except String Contents := do
  let machine0 ← snapshotMachine malloc r 0
  let machine1 ← snapshotMachine malloc r 1
  let link ← snapshotLink malloc r
  let machine := fun i : Fin 2 => if i = 0 then machine0 else machine1
  return { linkEnabled := r.linkEnabled, machine, link }

/-- The regions `copy_battery` copies. -/
def batterySlots : List (Fin 2 × MemoryKind) :=
  [(0, .saveRam), (0, .rtc), (1, .saveRam), (1, .rtc)]

/-- The loops of `copy_battery`: the copies made, each with its destination, and the error that ended
them early. -/
def copyBattery (malloc : Allocation → Bool) (r : Ready M L)
    (info : Fin 2 → MemoryKind → Option (Option Nat × Nat)) :
    List (Fin 2 × MemoryKind) → List (Nat × List Byte) × Option String
  | [] => ([], none)
  | (i, kind) :: slots =>
    match info i kind with
    | none => copyBattery malloc r info slots
    | some (_, 0) => copyBattery malloc r info slots
    | some (none, _ + 1) =>
      ([], some s!"engine exposed null battery memory for machine {i.val + 1}")
    | some (some address, size + 1) =>
      if malloc (.battery i kind) then
        let (copies, error) := copyBattery malloc r info slots
        ((address, r.pair.memory.read address (size + 1)) :: copies, error)
      else ([], some "out of memory while protecting battery state")

/-- `copy_battery`; without `memory_info` there is nothing to copy. -/
def battery (malloc : Allocation → Bool) (r : Ready M L) : List (Nat × List Byte) × Option String :=
  match r.memoryInfo with
  | none => ([], none)
  | some info => copyBattery malloc r (info r.pair) batterySlots

/-- `restore_and_free_battery`. -/
def Pair.restoreBattery (p : Pair M L) (copies : List (Nat × List Byte)) : Pair M L :=
  { p with memory := p.memory.writeAll copies }

/-! ## The restore -/

/-- `enum dualboy_state_restore_result`. -/
inductive RestoreResult where
  | ok
  | rejected
  | fatal
  deriving DecidableEq, Repr

/-- What a restore returns and leaves behind, and the mutating calls it made with their outcomes. -/
structure Restored (M L : Type) where
  result : RestoreResult
  error : Option String
  session : Session M L
  calls : List (Call × Option String)

/-- A rejection before any mutating call. -/
def Restored.reject (s : Session M L) (error : String) : Restored M L where
  result := .rejected
  error := some error
  session := s
  calls := []

/-- The part of `dualboy_state_unserialize_ex` after the snapshot and the copies of the battery. -/
def applyState (s : Session M L) (r : Ready M L) (contents snapshot : Contents)
    (copies : List (Nat × List Byte)) : Restored M L :=
  let (pair, applied) := untilFailure r.perform contents.calls r.pair
  match firstError applied with
  | none =>
    { result := .ok
      error := none
      session :=
        { s with
          pair := some (pair.restoreBattery copies)
          linkEnabled := contents.linkEnabled }
      calls := applied }
  | some error =>
    -- `rollback_state` makes every call, whichever of them fail
    let (pair, undone) := attemptAll r.perform snapshot.calls pair
    let session : Session M L :=
      { s with
        pair := some (pair.restoreBattery copies)
        linkEnabled := snapshot.linkEnabled }
    if (firstError undone).isSome then
      { result := .fatal
        error := some "savestate restore failed and engine rollback was incomplete"
        session
        calls := applied ++ undone }
    else
      { result := .rejected
        error := some error
        session
        calls := applied ++ undone }

/-- `dualboy_state_unserialize_ex`; `data` is `none` for a null pointer. -/
def unserializeEx (malloc : Allocation → Bool) (s : Session M L) (data : Option (List Byte)) :
    Restored M L :=
  match stateOpsValid s, data with
  | some r, some bytes =>
    if bytes.length < headerSize then
      .reject s "savestate is absent, truncated, or no game is loaded"
    else
      match validate r bytes with
      | .error error => .reject s error
      | .ok contents =>
        match snapshotState malloc r with
        | .error error => .reject s error
        | .ok snapshot =>
          match battery malloc r with
          | (copies, some error) =>
            .reject { s with pair := some (r.pair.restoreBattery copies) } error
          | (copies, none) => applyState s r contents snapshot copies
  | _, _ => .reject s "savestate is absent, truncated, or no game is loaded"

/-! ## What a restore goes through -/

/-- A container that passed every check, with the snapshot and the copies made before it is applied. -/
structure Admitted (malloc : Allocation → Bool) (s : Session M L) (data : Option (List Byte))
    (r : Ready M L) (bytes : List Byte) (snapshot : Contents) (copies : List (Nat × List Byte)) :
    Prop where
  ready : stateOpsValid s = some r
  given : data = some bytes
  header : headerSize ≤ bytes.length
  accepted : Accepted r bytes
  snapshot : snapshotState malloc r = .ok snapshot
  copies : battery malloc r = (copies, none)

theorem snapshotMachine_eq_ok {malloc : Allocation → Bool} {r : Ready M L} {i : Fin 2}
    {bytes : List Byte} (h : snapshotMachine malloc r i = .ok bytes) :
    r.serializeMachine r.pair i (r.machineStateCapacity i) = some bytes := by
  unfold snapshotMachine at h
  split at h
  · exact absurd h (by simp)
  split at h
  · split at h
    · rename_i hserialize
      split at h
      · exact hserialize.trans (congrArg some (Except.ok.inj h))
      · exact absurd h (by simp)
    · exact absurd h (by simp)
  · exact absurd h (by simp)

theorem snapshotLink_eq_ok {malloc : Allocation → Bool} {r : Ready M L} {bytes : List Byte}
    (h : snapshotLink malloc r = .ok bytes) :
    r.serializeLink r.pair r.linkStateCapacity = some bytes := by
  unfold snapshotLink at h
  split at h
  · exact absurd h (by simp)
  split at h
  · rename_i hserialize
    split at h
    · exact hserialize.trans (congrArg some (Except.ok.inj h))
    · exact absurd h (by simp)
  · exact absurd h (by simp)

/-- A snapshot holds what the engine serialized, and the link setting in force. -/
theorem snapshotState_eq_ok {malloc : Allocation → Bool} {r : Ready M L} {snapshot : Contents}
    (h : snapshotState malloc r = .ok snapshot) :
    snapshot.linkEnabled = r.linkEnabled ∧
      (∀ i, r.serializeMachine r.pair i (r.machineStateCapacity i) = some (snapshot.machine i)) ∧
      r.serializeLink r.pair r.linkStateCapacity = some snapshot.link := by
  unfold snapshotState at h
  obtain ⟨machine0, h0, h⟩ := bind_eq_ok.mp h
  obtain ⟨machine1, h1, h⟩ := bind_eq_ok.mp h
  obtain ⟨link, hlink, h⟩ := bind_eq_ok.mp h
  obtain rfl := Except.ok.inj h
  refine ⟨rfl, fun i => ?_, snapshotLink_eq_ok hlink⟩
  match i with
  | 0 => exact snapshotMachine_eq_ok h0
  | 1 => exact snapshotMachine_eq_ok h1

theorem copied_copyBattery (malloc : Allocation → Bool) (r : Ready M L)
    (info : Fin 2 → MemoryKind → Option (Option Nat × Nat)) :
    ∀ slots, r.pair.memory.Copied (copyBattery malloc r info slots).1
  | [] => by simp [copyBattery, Memory.Copied]
  | (i, kind) :: slots => by
    have ih := copied_copyBattery malloc r info slots
    unfold copyBattery
    split
    · exact ih
    · exact ih
    · simp [Memory.Copied]
    split
    · intro copy hcopy
      rcases List.mem_cons.mp hcopy with rfl | hcopy
      · simp
      · exact ih copy hcopy
    · simp [Memory.Copied]

theorem copied_battery (malloc : Allocation → Bool) (r : Ready M L) :
    r.pair.memory.Copied (battery malloc r).1 := by
  unfold battery
  split
  · simp [Memory.Copied]
  · exact copied_copyBattery malloc r _ _

/-- When the copies are complete, each slot with memory has one. -/
theorem copyBattery_covers {malloc : Allocation → Bool} {r : Ready M L}
    {info : Fin 2 → MemoryKind → Option (Option Nat × Nat)} {i : Fin 2} {kind : MemoryKind}
    {address size : Nat} (hinfo : info i kind = some (some address, size)) (hsize : size ≠ 0) :
    ∀ {slots}, (i, kind) ∈ slots → (copyBattery malloc r info slots).2 = none →
      (address, r.pair.memory.read address size) ∈ (copyBattery malloc r info slots).1
  | [], hmem, _ => by simp at hmem
  | (i', kind') :: slots, hmem, hnone => by
    by_cases hhead : (i, kind) = (i', kind')
    · obtain ⟨rfl, rfl⟩ := Prod.ext_iff.mp hhead
      obtain ⟨size, rfl⟩ := Nat.exists_eq_succ_of_ne_zero hsize
      revert hnone
      unfold copyBattery
      rw [hinfo]
      dsimp only
      split
      · intro _
        exact List.mem_cons_self
      · simp
    · have hmem' : (i, kind) ∈ slots := (List.mem_cons.mp hmem).resolve_left hhead
      revert hnone
      unfold copyBattery
      split
      · exact copyBattery_covers hinfo hsize hmem'
      · exact copyBattery_covers hinfo hsize hmem'
      · simp
      split
      · exact fun hnone => List.mem_cons_of_mem _ (copyBattery_covers hinfo hsize hmem' hnone)
      · simp

/-- **A restore is either applied after every check, or rejected with nothing done.** -/
theorem unserializeEx_cases (malloc : Allocation → Bool) (s : Session M L)
    (data : Option (List Byte)) :
    (∃ r bytes snapshot copies, Admitted malloc s data r bytes snapshot copies ∧
      unserializeEx malloc s data = applyState s r (contentsOf bytes) snapshot copies) ∨
    ((¬∃ r bytes snapshot copies, Admitted malloc s data r bytes snapshot copies) ∧
      ∃ error, unserializeEx malloc s data = .reject s error) := by
  unfold unserializeEx
  split
  · rename_i r bytes hr
    split
    · rename_i hshort
      refine Or.inr ⟨?_, _, rfl⟩
      rintro ⟨r', bytes', snapshot, copies, h⟩
      obtain rfl := Option.some.inj h.given
      exact absurd h.header (by omega)
    rename_i hheader
    split
    · rename_i error hvalidate
      refine Or.inr ⟨?_, _, rfl⟩
      rintro ⟨r', bytes', snapshot, copies, h⟩
      obtain rfl := Option.some.inj (hr.symm.trans h.ready)
      obtain rfl := Option.some.inj h.given
      have hok := validate_eq_ok.mpr ⟨h.accepted, rfl⟩
      rw [hvalidate] at hok
      exact absurd hok (by simp)
    rename_i contents hvalidate
    obtain ⟨haccepted, rfl⟩ := validate_eq_ok.mp hvalidate
    split
    · rename_i error hsnapshot
      refine Or.inr ⟨?_, _, rfl⟩
      rintro ⟨r', bytes', snapshot, copies, h⟩
      obtain rfl := Option.some.inj (hr.symm.trans h.ready)
      have hok := h.snapshot
      rw [hsnapshot] at hok
      exact absurd hok (by simp)
    rename_i snapshot hsnapshot
    split
    · rename_i copies error hbattery
      refine Or.inr ⟨?_, error, ?_⟩
      · rintro ⟨r', bytes', snapshot, copies', h⟩
        obtain rfl := Option.some.inj (hr.symm.trans h.ready)
        have hok := h.copies
        rw [hbattery] at hok
        exact absurd (Prod.ext_iff.mp hok).2 (by simp)
      · have hcopied := copied_battery malloc r
        rw [hbattery] at hcopied
        unfold Pair.restoreBattery
        rw [Memory.writeAll_self hcopied, ← (stateOpsValid_eq_some hr).1]
    · rename_i copies hbattery
      exact Or.inl ⟨r, bytes, snapshot, copies,
        ⟨hr, rfl, Nat.not_lt.mp hheader, haccepted, hsnapshot, hbattery⟩, rfl⟩
  · rename_i hnone
    refine Or.inr ⟨?_, _, rfl⟩
    rintro ⟨r, bytes, snapshot, copies, h⟩
    exact hnone r bytes h.ready h.given

end DualBoy.State
