import DualBoy.Saves.Import
import Mathlib.Data.Char
import Mathlib.Data.List.Lex
import Mathlib.Data.List.Sort

/-!
# Write ownership

The lock files of the save paths, over any number of sessions in any number of processes. A session
takes its locks one at a time, in the order of their names, without waiting; what it holds is an
open file description, which here is the session with the place the lock has in its order.
-/

namespace DualBoy.Saves

open DualBoy.Lib

/-! ## Lock order -/

/-- The paths `acquire_write_ownership` collects, each once. -/
def collectPaths (paths : List Path) : List Path :=
  paths.foldl (fun collected path => if path ∈ collected then collected else collected ++ [path]) []

/-- The core-managed paths in the order of the loops. -/
def Manager.managedPaths (m : Manager) : List Path :=
  (Loading.slots.filter fun slot => m.coreManaged slot.1 slot.2).map fun slot =>
    m.paths.path slot.1 slot.2

/-- The paths a session locks, in order. `strcmp` goes by bytes, and UTF-8 keeps the order of the
characters. -/
def Manager.lockOrder (m : Manager) : List Path :=
  (collectPaths m.managedPaths).insertionSort (· ≤ ·)

/-- The file that is locked for a path. -/
def lockFile (path : Path) : Path :=
  path ++ ".dualboy.lock".toList

theorem lockFile_inj {path path' : Path} (h : lockFile path = lockFile path') : path = path' :=
  List.append_cancel_right h

/-! ## Sessions -/

/-- `enum write_ownership_result`. -/
inductive WriteOwnershipResult where
  | acquired
  | busy
  | error
  deriving DecidableEq, Repr

/-- How a system call ends. What `flock` finds locked is not an outcome but a fact. -/
inductive LockOutcome where
  | proceeds
  | interrupted
  | fails
  deriving DecidableEq, Repr

/-- Where the loop of `release_write_ownership` is with a lock; `held` when unlocking it failed. -/
inductive ReleasePoint where
  | unlock
  | close (held : Bool)
  deriving DecidableEq, Repr

/-- What follows `release_write_ownership`: its caller returns, or the manager is gone. -/
inductive AfterRelease where
  | refused (result : WriteOwnershipResult)
  | leave
  deriving DecidableEq, Repr

/-- Where a session is. -/
inductive LockPhase where
  /-- about to open a lock file -/
  | opening (index : Nat)
  /-- about to call `flock` -/
  | locking (index : Nat)
  /-- about to close the file it did not lock -/
  | closing (result : WriteOwnershipResult)
  | releasing (index : Nat) (point : ReleasePoint) (next : AfterRelease)
  /-- out of `acquire_write_ownership` -/
  | returned (result : WriteOwnershipResult)
  /-- initialized -/
  | live
  deriving DecidableEq, Repr

/-- A session with its save manager; `writeLockFds` has the places of the locks. -/
structure Session where
  phase : LockPhase
  setup : Setup
  engine : Engine
  manager : Manager
  writeLockFds : List Nat

/-- A manager that has not loaded anything. -/
def Manager.fresh (paths : SavePaths) (coreManaged : Fin 2 → MemoryKind → Bool)
    (writeOwner : Bool) : Manager where
  paths := paths
  coreManaged := coreManaged
  tracked := fun _ _ => Tracking.zero
  framesSinceFlush := 0
  writeOwner := writeOwner
  initialized := false

/-- All the sessions there are, the files, and who has which lock. -/
structure Hosts (P : Type) where
  files : Files Path
  holder : Path → Option (P × Nat)
  session : P → Option Session

/-- What happens next. -/
inductive HostAction (P : Type) where
  /-- `dualboy_save_manager_init`, up to its first system call -/
  | begin (p : P) (setup : Setup) (engine : Engine)
  /-- the next system call on a lock -/
  | lock (p : P) (outcome : LockOutcome)
  /-- the rest of `dualboy_save_manager_init` -/
  | load (p : P)
  | guest (p : P) (engine : Engine)
  | flush (p : P) (disk : Disk)
  | deinit (p : P)
  /-- the process ends -/
  | exit (p : P)

namespace Session

/-- `manager->write_owner`. -/
def writeOwner (x : Session) : Bool :=
  x.manager.writeOwner

def lockOrder (x : Session) : List Path :=
  x.manager.lockOrder

/-- The file of a lock. -/
def lockFileAt (x : Session) (index : Nat) : Option Path :=
  x.lockOrder[index]?.map lockFile

def withWriteOwner (x : Session) (writeOwner : Bool) : Session :=
  { x with manager := { x.manager with writeOwner } }

/-- The start of an initialization; without a core-managed region there is nothing to lock. -/
def start (setup : Setup) (engine : Engine) (paths : SavePaths) : Session :=
  let managed := setup.managed engine paths
  let unmanaged : Bool := ∀ slot ∈ Loading.slots, managed slot.1 slot.2 = false
  { phase := if unmanaged then .returned .acquired else .opening 0
    setup
    engine
    manager := Manager.fresh paths managed unmanaged
    writeLockFds := [] }

/-- The start of `release_write_ownership`. -/
def release (x : Session) (next : AfterRelease) : Session :=
  { x with phase := .releasing 0 .unlock next }

end Session

namespace Hosts

variable {P : Type} [DecidableEq P]

def put (h : Hosts P) (p : P) (x : Session) : Hosts P :=
  { h with session := fun q => if q = p then some x else h.session q }

/-- The session and its manager are gone. -/
def drop (h : Hosts P) (p : P) : Hosts P :=
  { h with session := fun q => if q = p then none else h.session q }

def setHolder (h : Hosts P) (file : Path) (holder : Option (P × Nat)) : Hosts P :=
  { h with holder := fun f => if f = file then holder else h.holder f }

/-- A description lets go of a file, if it has it. -/
def unlock (h : Hosts P) (p : P) (index : Nat) (file : Path) : Hosts P :=
  if h.holder file = some (p, index) then h.setHolder file none else h

/-- The next system call of a session on a lock. -/
def lockStep (h : Hosts P) (p : P) (x : Session) (outcome : LockOutcome) : Hosts P :=
  match x.phase with
  | .opening index =>
    match x.lockOrder[index]? with
    | none => h.put p { x.withWriteOwner true with phase := .returned .acquired }
    | some path =>
      if pathCapacity ≤ (lockFile path).length then h.put p (x.release (.refused .error))
      else if outcome = .proceeds then h.put p { x with phase := .locking index }
      else h.put p (x.release (.refused .error))
  | .locking index =>
    match x.lockFileAt index, outcome with
    | none, _ => h
    | some _, .interrupted => h
    | some _, .fails => h.put p { x with phase := .closing .error }
    | some file, .proceeds =>
      if h.holder file = none then
        (h.setHolder file (some (p, index))).put p
          { x with phase := .opening (index + 1), writeLockFds := x.writeLockFds ++ [index] }
      else h.put p { x with phase := .closing .busy }
  | .closing result => h.put p (x.release (.refused result))
  | .releasing index .unlock next =>
    match x.writeLockFds[index]? with
    | none =>
      match next with
      | .leave => h.drop p
      | .refused result =>
        h.put p { x.withWriteOwner false with phase := .returned result, writeLockFds := [] }
    | some fd =>
      match x.lockFileAt fd, outcome with
      | some file, .proceeds =>
        (h.unlock p fd file).put p { x with phase := .releasing index (.close false) next }
      | _, _ => h.put p { x with phase := .releasing index (.close true) next }
  | .releasing index (.close _) next =>
    match (x.writeLockFds[index]?).bind x.lockFileAt, x.writeLockFds[index]? with
    | some file, some fd =>
      (h.unlock p fd file).put p { x with phase := .releasing (index + 1) .unlock next }
    | _, _ => h.put p { x with phase := .releasing (index + 1) .unlock next }
  | .returned _ | .live => h

/-- The rest of an initialization, once `acquire_write_ownership` has returned. -/
def load (h : Hosts P) (p : P) (x : Session) (result : WriteOwnershipResult) : Hosts P :=
  if result = .error then h.put p (x.release .leave)
  else
    let locks : Ownership := if result = .acquired then .acquired else .busy
    let loaded := init (x.setup.under locks) x.engine h.files
    let h := { h with files := loaded.files }
    let x := { x with engine := loaded.engine }
    match loaded.manager with
    | .ok manager => h.put p { x with phase := .live, manager }
    | .error _ => h.put p (x.release .leave)

def flush (h : Hosts P) (p : P) (x : Session) (disk : Disk) : Hosts P :=
  let w := (World.flush disk ⟨x.manager, x.engine, h.files, []⟩).1
  { h with files := w.files }.put p { x with engine := w.engine, manager := w.manager }

/-- The end of a process closes what it has open. -/
def exit (h : Hosts P) (p : P) : Hosts P :=
  { h.drop p with
    holder := fun file => if (h.holder file).map Prod.fst = some p then none else h.holder file }

/-- One step; what a session has not come to does nothing. -/
def step (h : Hosts P) : HostAction P → Hosts P
  | .begin p setup engine =>
    match h.session p, setup.paths engine with
    | none, .ok paths => h.put p (.start setup engine paths)
    | _, _ => h
  | .lock p outcome =>
    match h.session p with
    | some x => h.lockStep p x outcome
    | none => h
  | .load p =>
    match h.session p with
    | some x =>
      match x.phase with
      | .returned result => h.load p x result
      | _ => h
    | none => h
  | .guest p engine =>
    match h.session p with
    | some x => if x.phase = .live then h.put p { x with engine } else h
    | none => h
  | .flush p disk =>
    match h.session p with
    | some x => if x.phase = .live then h.flush p x disk else h
    | none => h
  | .deinit p =>
    match h.session p with
    | some x => if x.phase = .live then h.put p (x.release .leave) else h
    | none => h
  | .exit p => h.exit p

/-- No session yet. -/
def start (files : Files Path) : Hosts P :=
  ⟨files, fun _ => none, fun _ => none⟩

end Hosts

end DualBoy.Saves
