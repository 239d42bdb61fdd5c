import DualBoy.Lib.Attempts
import DualBoy.Saves.Paths
import DualBoy.Saves.Tracking

/-!
# The save manager

The manager of `save_manager.c` over a pair of machines and a file store: who owns which region, and
the flush and its timer. A region of live memory is its bytes. What comes from outside in a flush,
the outcome of each atomic write and of the allocations, is a `Disk`; every write it tries is kept in
a log beside the state, with the file it was to replace.
-/

namespace DualBoy.Saves

open DualBoy.Lib

/-! ## The engine -/

/-- What the save manager sees of a loaded engine. An operation that is `none` is a null pointer. -/
structure Engine where
  family : EngineFamily
  loaded : Bool
  /-- What `engine_memory` finds; `none` when it returns false. -/
  memory : Fin 2 → MemoryKind → Option (List Byte)
  /-- `none` when the call fails, `some none` while the extent is unknown. -/
  persistentMemoryExtent : Option (Fin 2 → MemoryKind → Option (Option Nat))
  memoryDirty : Option (Fin 2 → Bool)
  clearMemoryDirty : Bool

/-- `persistent_extent`; without the operation the extent is the capacity. -/
def Engine.persistentExtent (e : Engine) (i : Fin 2) (kind : MemoryKind) (capacity : Nat) :
    Except String (Option Nat) :=
  match e.persistentMemoryExtent with
  | none => .ok (some capacity)
  | some report =>
    match report i kind with
    | none => .error s!"engine could not report machine {i.val + 1} save extent {kind.code}"
    | some none => .ok none
    | some (some size) =>
      if capacity < size then
        .error s!"engine save extent exceeds machine {i.val + 1} region capacity"
      else .ok (some size)

theorem Engine.persistentExtent_congr {e e' : Engine}
    (h : e'.persistentMemoryExtent = e.persistentMemoryExtent) :
    e'.persistentExtent = e.persistentExtent := by
  funext i kind capacity
  unfold Engine.persistentExtent
  rw [h]

theorem Engine.persistentExtent_le {e : Engine} {i : Fin 2} {kind : MemoryKind}
    {capacity extent : Nat} (h : e.persistentExtent i kind capacity = .ok (some extent)) :
    extent ≤ capacity := by
  unfold Engine.persistentExtent at h
  split at h
  · exact Nat.le_of_eq (Option.some.inj (Except.ok.inj h)).symm
  split at h
  · exact absurd h (by simp)
  · exact absurd h (by simp)
  split at h
  · exact absurd h (by simp)
  · rename_i hle
    obtain rfl := Option.some.inj (Except.ok.inj h)
    exact Nat.not_lt.mp hle

/-- The extent `load_sram` asks for before it imports. -/
def Engine.importExtent (e : Engine) (i : Fin 2) (size : Nat) : Except String (Option Nat) :=
  match e.persistentMemoryExtent with
  | none => .ok (some size)
  | some report =>
    match report i .saveRam with
    | none => .error "engine could not report GBA save extent"
    | some none => .ok none
    | some (some extent) =>
      if size < extent then .error "engine GBA save extent exceeds its stable capacity"
      else .ok (some extent)

/-- `memory_dirty`, if the engine has it. -/
def Engine.dirty (e : Engine) (i : Fin 2) : Bool :=
  match e.memoryDirty with
  | none => false
  | some dirty => dirty i

/-- `clear_memory_dirty`, if the engine has it. -/
def Engine.clearDirty (e : Engine) (i : Fin 2) : Engine :=
  if e.clearMemoryDirty then
    { e with memoryDirty := e.memoryDirty.map fun dirty j => if j = i then false else dirty j }
  else e

/-- The engine with other bytes in one region. -/
def Engine.setMemory (e : Engine) (i : Fin 2) (kind : MemoryKind) (bytes : List Byte) : Engine :=
  { e with memory := fun j k => if j = i ∧ k = kind then some bytes else e.memory j k }

/-! ## The manager -/

/-- `struct dualboy_save_manager`, less its lock descriptors. -/
structure Manager where
  paths : SavePaths
  coreManaged : Fin 2 → MemoryKind → Bool
  tracked : Fin 2 → MemoryKind → Tracking
  framesSinceFlush : BitVec 64
  writeOwner : Bool
  initialized : Bool

/-- `DUALBOY_SAVE_FLUSH_INTERVAL_FRAMES`. -/
def flushIntervalFrames : BitVec 64 := 300

/-- A write a flush tried: the reported extent, the file it found, the bytes, and how it ended. -/
structure Attempt where
  machine : Fin 2
  kind : MemoryKind
  extent : Nat
  before : FileState
  bytes : List Byte
  result : PersistenceResult

/-- Everything a flush works on, with the log of its writes, the last one first. -/
structure World where
  manager : Manager
  engine : Engine
  files : Files Path
  log : List Attempt

/-- The outcomes of what a flush asks of the system. -/
structure Disk where
  writeFileAtomic : Path → PersistenceResult
  malloc : Bool

/-- `enum dualboy_load_kind`. -/
inductive LoadKind where
  | normal
  | subsystem
  | playlist
  deriving DecidableEq, Repr

/-- `choose_ownership`. -/
def chooseOwnership (family : EngineFamily) (loadKind : LoadKind) (contentPathMissing : Fin 2 → Bool)
    (paths : SavePaths) (i : Fin 2) (kind : MemoryKind) : Bool :=
  let managed : Bool :=
    kind = .saveRam ∨ (kind = .rtc ∧ family ≠ .melonds) ∨ (kind = .firmware ∧ family = .melonds)
  if family ≠ .sameboy ∨ loadKind = .playlist then managed
  else if i = 0 ∧ contentPathMissing 0 = false then false
  else if i = 1 ∧ loadKind = .subsystem ∧ paths.secondUsesCollisionSuffix = false ∧
      contentPathMissing 1 = false then false
  else managed

namespace World

def setTracked (w : World) (i : Fin 2) (kind : MemoryKind) (t : Tracking) : World :=
  { w with
    manager :=
      { w.manager with
        tracked := fun j k => if j = i ∧ k = kind then t else w.manager.tracked j k } }

/-- The write of a flush, and the assignments that follow it. -/
def writeRegion (w : World) (disk : Disk) (i : Fin 2) (kind : MemoryKind) (data : List Byte)
    (extent : Nat) : World × Option String :=
  let t := w.manager.tracked i kind
  let path := w.manager.paths.path i kind
  let size := t.flushSize extent
  let result := disk.writeFileAtomic path
  let attempt : Attempt :=
    { machine := i, kind, extent, before := w.files path, bytes := data.take size, result }
  let w := { w with log := attempt :: w.log }
  if result = .ok then
    let (t, kept) := (t.recordWrite data size).replaceBaseline disk.malloc data
    let w := { w.setTracked i kind t with files := w.files.put path (data.take size) }
    (w, if kept then none
      else some "save was written but its tracking baseline could not be updated")
  else (w, some s!"could not write save {String.ofList path}: {PersistenceResult.message result}")

/-- The body of the loops of a flush. -/
def flushRegion (disk : Disk) (i : Fin 2) (kind : MemoryKind) (w : World) : World × Option String :=
  if w.manager.coreManaged i kind = false then (w, none)
  else
    match w.engine.memory i kind with
    | none => (w, some s!"engine lost machine {i.val + 1} save region {kind.code}")
    | some [] => (w, none)
    | some (byte :: bytes) =>
      let data := byte :: bytes
      match w.engine.persistentExtent i kind data.length with
      | .error error => (w, some error)
      | .ok none => (w, none)
      | .ok (some extent) =>
        let t := (w.manager.tracked i kind).learnExtent data extent (w.engine.dirty i)
        let w := w.setTracked i kind t
        if t.NeedsWrite data extent then w.writeRegion disk i kind data extent else (w, none)

/-- What the loops of a flush do, one after the other. -/
inductive Turn where
  | region (i : Fin 2) (kind : MemoryKind)
  | clearDirty (i : Fin 2)
  deriving DecidableEq

def turns : List Turn :=
  [.region 0 .saveRam, .region 0 .rtc, .region 0 .firmware, .clearDirty 0,
    .region 1 .saveRam, .region 1 .rtc, .region 1 .firmware, .clearDirty 1]

def flushTurn (disk : Disk) : Turn → World → World × Option String
  | .region i kind, w => w.flushRegion disk i kind
  | .clearDirty i, w => ({ w with engine := w.engine.clearDirty i }, none)

/-- `dualboy_save_manager_flush`: the error, if it returns false. -/
def flush (disk : Disk) (w : World) : World × Option String :=
  if w.manager.initialized = false ∨ w.manager.writeOwner = false ∨ w.engine.loaded = false then
    (w, none)
  else
    let (w, done) := untilFailure (flushTurn disk) turns w
    match firstError done with
    | some error => (w, some error)
    | none => ({ w with manager := { w.manager with framesSinceFlush := 0 } }, none)

/-- `dualboy_save_manager_tick`. -/
def tick (disk : Disk) (w : World) : World × Option String :=
  if w.manager.initialized = false then (w, none)
  else
    let w := { w with
      manager := { w.manager with framesSinceFlush := w.manager.framesSinceFlush + 1 } }
    if w.manager.framesSinceFlush < flushIntervalFrames then (w, none) else w.flush disk

end World

end DualBoy.Saves
