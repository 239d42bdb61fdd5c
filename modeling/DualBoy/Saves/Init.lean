import DualBoy.Saves.Manager

/-!
# Loading the regions

`dualboy_save_manager_init`: the paths, the ownership of the session, and the loading of every
core-managed region from its canonical file or, for a GBA cartridge that has none, from a legacy
`.sav`, whose import is the only thing here that writes. A `Loading` is the state of the loop over
the regions; it keeps the atomic writes made, in order.
-/

namespace DualBoy.Saves

open DualBoy.Lib

/-- How taking the locks ends, `acquire_write_ownership`. -/
inductive Ownership where
  | acquired
  | busy
  | error (message : String)

/-- The allocations of an initialization. -/
inductive InitAllocation where
  | temporary (i : Fin 2) (kind : MemoryKind)
  | baseline (i : Fin 2) (kind : MemoryKind)

/-- What an initialization is given besides the engine and the files, and how what it asks of the
system ends. -/
structure Setup where
  saveDirectory : Path
  contentPath : Fin 2 → Option Path
  loadKind : LoadKind
  contentPathMissing : Fin 2 → Bool
  locks : Ownership
  writeFileAtomic : Path → PersistenceResult
  malloc : InitAllocation → Bool
  /-- `validate_persistent_memory`, with the error of a refusal; `none` for a null pointer. -/
  validatePersistentMemory : Option (Fin 2 → List Byte → Option String)

/-- The state of the loop over the regions. -/
structure Loading where
  engine : Engine
  files : Files Path
  tracked : Fin 2 → MemoryKind → Tracking
  writes : List (Path × List Byte)

/-! ## Reading -/

/-- `dualboy_read_file_filled`, less the filling: the bytes of a regular file that fits. -/
def readFileFilled (files : Files Path) (path : Path) (capacity : Nat) :
    Except PersistenceResult (List Byte) :=
  if path = [] then .error .invalidArgument
  else if pathCapacity ≤ path.length then .error .pathTooLong
  else
    match files path with
    | .missing => .error .notFound
    | .unusable => .error .ioError
    | .regular bytes => if capacity < bytes.length then .error .tooLarge else .ok bytes

/-- `enum dualboy_sav_import_choice`. -/
inductive SavImportChoice where
  | noSource
  | keepCanonical
  | copyLegacy
  deriving DecidableEq

/-- `dualboy_choose_sav_import`. -/
def chooseSavImport (files : Files Path) (canonicalSrm legacySav : Path) :
    Except PersistenceResult SavImportChoice :=
  if canonicalSrm = [] ∨ legacySav = [] then .error .invalidArgument
  else if pathCapacity ≤ canonicalSrm.length ∨ pathCapacity ≤ legacySav.length then
    .error .pathTooLong
  else
    match files canonicalSrm with
    | .unusable => .error .ioError
    | .regular _ => .ok .keepCanonical
    | .missing =>
      match files legacySav with
      | .unusable => .error .ioError
      | .regular _ => .ok .copyLegacy
      | .missing => .ok .noSource

/-- `is_supported_gba_battery_size`. -/
def isSupportedGbaBatterySize (size : Nat) : Bool :=
  size ∈ [512, 8 * 1024, 32 * 1024, 64 * 1024, 128 * 1024]

/-- The SaveRAM size of a legacy file that ends in a 16-byte RTC record. -/
def splitSize (extent : Option Nat) (legacySize rtcSize : Nat) : Option Nat :=
  if rtcSize = 16 then
    match extent with
    | some extent => if legacySize = extent + rtcSize then some extent else none
    | none =>
      if rtcSize ≤ legacySize ∧ isSupportedGbaBatterySize (legacySize - rtcSize) = true then
        some (legacySize - rtcSize)
      else none
  else none

/-- What a legacy file is taken for, in a SaveRAM region of `size` bytes beside an RTC region of
`rtcSize`: the battery, and the RTC record if it has one. -/
def importLegacy (extent : Option Nat) (size rtcSize : Nat) (legacy : List Byte) :
    Option (List Byte × Option (List Byte)) :=
  match splitSize extent legacy.length rtcSize with
  | some battery => some (legacy.take battery, some (legacy.drop battery))
  | none => if size < legacy.length then none else some (legacy, none)

namespace Loading

def setMemory (l : Loading) (i : Fin 2) (kind : MemoryKind) (bytes : List Byte) : Loading :=
  { l with engine := l.engine.setMemory i kind bytes }

/-- `dualboy_write_file_atomic`. -/
def write (s : Setup) (l : Loading) (path : Path) (bytes : List Byte) :
    Loading × PersistenceResult :=
  match s.writeFileAtomic path with
  | .ok => ({ l with files := l.files.put path bytes, writes := l.writes ++ [(path, bytes)] }, .ok)
  | result => (l, result)

/-- `read_region`; the number is the size loaded. -/
def readRegion (s : Setup) (l : Loading) (i : Fin 2) (kind : MemoryKind) (path : Path)
    (capacity : Nat) (fill : Byte) (missingIsOk : Bool) : Loading × Except String Nat :=
  if s.malloc (.temporary i kind) = false then
    (l, .error s!"out of memory while reading {String.ofList path}")
  else
    match readFileFilled l.files path capacity with
    | .ok bytes => (l.setMemory i kind (pad capacity fill bytes), .ok bytes.length)
    | .error result =>
      if missingIsOk = true ∧ result = .notFound then (l, .ok 0)
      else (l, .error s!"could not read save {String.ofList path}: {PersistenceResult.message result}")

/-- `DUALBOY_NDS_FIRMWARE_SIZE`. -/
def ndsFirmwareSize : Nat := 128 * 1024

/-- `load_nds_firmware`. -/
def loadNdsFirmware (s : Setup) (l : Loading) (i : Fin 2) (path : Path) (capacity : Nat) :
    Loading × Except String Nat :=
  let exactly := "NDS firmware must be exactly 128 KiB (131072 bytes); "
  if s.malloc (.temporary i .firmware) = false then
    (l, .error s!"out of memory while reading {String.ofList path}")
  else
    match readFileFilled l.files path capacity with
    | .error .notFound => (l, .ok 0)
    | .error .tooLarge => (l, .error (exactly ++ s!"file is larger: {String.ofList path}"))
    | .error result =>
      (l, .error s!"could not read NDS firmware {String.ofList path}: {PersistenceResult.message result}")
    | .ok bytes =>
      if bytes.length ≠ ndsFirmwareSize then
        (l, .error (exactly ++ s!"found {bytes.length} bytes at {String.ofList path}"))
      else
        match s.validatePersistentMemory.bind fun validate => validate i bytes with
        | some error => (l, .error error)
        | none => (l.setMemory i .firmware (pad capacity 0 bytes), .ok bytes.length)

/-- The end of `load_sram`'s import, once the legacy file is read and understood. -/
def importRegion (s : Setup) (owner : Bool) (paths : SavePaths) (l : Loading) (i : Fin 2)
    (legacy : Path) (size : Nat) (battery : List Byte) (rtc : Option (List Byte)) :
    Loading × Except String Nat :=
  let l := match rtc with
    | some rtc => l.setMemory i .rtc rtc
    | none => l
  let l := l.setMemory i .saveRam (pad size 0xff battery)
  if owner = false then (l, .ok battery.length)
  else
    let failed (result : PersistenceResult) : Except String Nat :=
      .error s!"loaded {String.ofList legacy} but could not copy it to canonical paths: {PersistenceResult.message result}"
    let (l, result) := match rtc with
      | some rtc => l.write s (paths.rtc i) rtc
      | none => (l, .ok)
    if result = .ok then
      let (l, result) := l.write s (paths.sram i) battery
      (l, if result = .ok then .ok battery.length else failed result)
    else (l, failed result)

/-- `load_sram`. -/
def loadSram (s : Setup) (owner : Bool) (paths : SavePaths) (l : Loading) (i : Fin 2) (size : Nat) :
    Loading × Except String Nat :=
  let canonical := paths.sram i
  if l.engine.family ≠ .mgba then l.readRegion s i .saveRam canonical size 0xff true
  else
    match legacySavPath canonical pathCapacity with
    | .error result =>
      (l, .error s!"could not derive legacy GBA save path: {PersistenceResult.message result}")
    | .ok legacy =>
      match chooseSavImport l.files canonical legacy with
      | .error result =>
        (l, .error s!"could not inspect GBA save paths: {PersistenceResult.message result}")
      | .ok .noSource => (l, .ok 0)
      | .ok .keepCanonical => l.readRegion s i .saveRam canonical size 0xff false
      | .ok .copyLegacy =>
        if sizeMax - 16 < size then (l, .error "GBA save capacity is too large")
        else if s.malloc (.temporary i .saveRam) = false then
          (l, .error s!"out of memory while importing {String.ofList legacy}")
        else
          match readFileFilled l.files legacy (size + 16) with
          | .error result =>
            (l, .error s!"could not read save {String.ofList legacy}: {PersistenceResult.message result}")
          | .ok bytes =>
            match l.engine.importExtent i size with
            | .error error => (l, .error error)
            | .ok extent =>
              match importLegacy extent size ((l.engine.memory i .rtc).getD []).length bytes with
              | none =>
                (l, .error s!"legacy GBA save {String.ofList legacy} has an unsupported size")
              | some (battery, rtc) => l.importRegion s owner paths i legacy size battery rtc

/-- The tracking of a region just loaded. -/
def track (s : Setup) (l : Loading) (i : Fin 2) (kind : MemoryKind) (loadedSize : Nat) :
    Loading × Option String :=
  let data := (l.engine.memory i kind).getD []
  let t : Tracking :=
    { Tracking.zero with
      loadedSize
      size := loadedSize
      hash := memoryHash data loadedSize
      valid := true }
  match l.engine.persistentExtent i kind data.length with
  | .error error => (l, some error)
  | .ok extent =>
    let t := match extent with
      | some extent => t.initializeExtent data extent
      | none => t
    let (t, kept) := t.replaceBaseline (s.malloc (.baseline i kind)) data
    ({ l with tracked := fun j k => if j = i ∧ k = kind then t else l.tracked j k },
      if kept then none
      else some s!"out of memory while tracking machine {i.val + 1} save baseline")

/-- The reading of a region with memory. -/
def readKind (s : Setup) (owner : Bool) (paths : SavePaths) (l : Loading) (i : Fin 2)
    (capacity : Nat) : MemoryKind → Loading × Except String Nat
  | .saveRam => l.loadSram s owner paths i capacity
  | .firmware => l.loadNdsFirmware s i (paths.firmware i) capacity
  | .rtc => l.readRegion s i .rtc (paths.rtc i) capacity 0 true

/-- The body of the loops of `dualboy_save_manager_init`. -/
def loadRegion (s : Setup) (owner : Bool) (paths : SavePaths) (managed : Fin 2 → MemoryKind → Bool)
    (slot : Fin 2 × MemoryKind) (l : Loading) : Loading × Option String :=
  let (i, kind) := slot
  if managed i kind = false then (l, none)
  else
    match l.engine.memory i kind with
    | none => (l, some s!"engine did not expose machine {i.val + 1} save region {kind.code}")
    | some data =>
      if kind = .firmware ∧ data.length ≠ ndsFirmwareSize then
        (l, some (s!"engine exposed {data.length} bytes of NDS firmware for machine {i.val + 1}; " ++
          "expected exactly 128 KiB (131072 bytes)"))
      else if data.length = 0 then (l, none)
      else
        match l.readKind s owner paths i data.length kind with
        | (l, .error error) => (l, some error)
        | (l, .ok loadedSize) => l.track s i kind loadedSize

/-- The regions in the order of the loops. -/
def slots : List (Fin 2 × MemoryKind) :=
  [(0, .saveRam), (0, .rtc), (0, .firmware), (1, .saveRam), (1, .rtc), (1, .firmware)]

end Loading

/-! ## Initialization -/

/-- What an initialization leaves behind; `writes` are its atomic writes, in order. -/
structure Initialized where
  engine : Engine
  files : Files Path
  writes : List (Path × List Byte)
  manager : Except String Manager

/-- Whether the session gets to write: without a core-managed region there is nothing to lock. -/
def Setup.writeOwner (s : Setup) (managed : Fin 2 → MemoryKind → Bool) : Except String Bool :=
  if ∀ slot ∈ Loading.slots, managed slot.1 slot.2 = false then .ok true
  else
    match s.locks with
    | .acquired => .ok true
    | .busy => .ok false
    | .error message => .error message

/-- The paths of the session, once the arguments are checked. -/
def Setup.paths (s : Setup) (e : Engine) : Except String SavePaths :=
  match s.contentPath 0, s.contentPath 1 with
  | some first, some second =>
    if e.loaded = false ∨ s.saveDirectory = [] then .error "invalid save manager configuration"
    else
      match buildSavePaths s.saveDirectory first second (e.family = .melonds) with
      | .error result => .error s!"could not derive save paths: {PersistenceResult.message result}"
      | .ok paths => .ok paths
  | _, _ => .error "invalid save manager configuration"

/-- The regions the manager looks after. -/
def Setup.managed (s : Setup) (e : Engine) (paths : SavePaths) : Fin 2 → MemoryKind → Bool :=
  chooseOwnership e.family s.loadKind s.contentPathMissing paths

/-- The loop over the regions. -/
def Setup.load (s : Setup) (owner : Bool) (paths : SavePaths) (e : Engine) (files : Files Path) :
    Loading × List ((Fin 2 × MemoryKind) × Option String) :=
  untilFailure (Loading.loadRegion s owner paths (s.managed e paths)) Loading.slots
    { engine := e, files, tracked := fun _ _ => Tracking.zero, writes := [] }

/-- `dualboy_save_manager_init`, up to its last call: what the engine makes of its memory in
`persistent_memory_loaded` is the first step of the guest. -/
def init (s : Setup) (e : Engine) (files : Files Path) : Initialized :=
  match s.paths e with
  | .error error => { engine := e, files, writes := [], manager := .error error }
  | .ok paths =>
    match s.writeOwner (s.managed e paths) with
    | .error error => { engine := e, files, writes := [], manager := .error error }
    | .ok owner =>
      let (l, done) := s.load owner paths e files
      { engine := l.engine
        files := l.files
        writes := l.writes
        manager :=
          match firstError done with
          | some error => .error error
          | none =>
            .ok
              { paths
                coreManaged := s.managed e paths
                tracked := l.tracked
                framesSinceFlush := 0
                writeOwner := owner
                initialized := true } }

end DualBoy.Saves
