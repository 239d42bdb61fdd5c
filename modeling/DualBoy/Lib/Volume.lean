import DualBoy.Lib.FileStore

/-!
# Volumes

A file store with what a crash may make of it. Each path has a current version and the older ones
that an operation on its directory may be lost back to. Bytes of a regular file survive a crash
only when they have been synced; a lost directory operation brings back the version before it. So
a rename is atomic: afterwards the path has what it had, or what it was given.
-/

namespace DualBoy.Lib

/-- What a path had at some time, and whether a crash can still change its bytes. -/
structure Version where
  state : FileState
  synced : Bool
  deriving DecidableEq, Repr

/-- What a crash may make of a version: bytes that were not synced can be any. -/
def Version.Leaves (v : Version) (left : FileState) : Prop :=
  left = v.state ∨ v.synced = false ∧ ∃ bytes, left = .regular bytes

/-- The current versions, and the older ones, latest first. -/
structure Volume (P : Type) where
  now : P → Version
  older : P → List Version

namespace Volume

variable {P : Type}

/-- A volume with nothing to lose. -/
def settled (files : Files P) : Volume P where
  now := fun p => ⟨files p, true⟩
  older := fun _ => []

/-- What the running system sees. -/
def files (d : Volume P) : Files P := fun p => (d.now p).state

/-- The versions a crash may leave at a path. -/
def versions (d : Volume P) (p : P) : List Version :=
  d.now p :: d.older p

/-- A store a crash may leave. -/
def Crash (d : Volume P) (left : Files P) : Prop :=
  ∀ p, ∃ v ∈ d.versions p, v.Leaves (left p)

/-- Synced versions survive as they are. -/
theorem Crash.of_synced (allowed : FileState → Prop) {d : Volume P} {left : Files P}
    (h : d.Crash left) {p : P}
    (hall : ∀ v ∈ d.versions p, v.synced = true ∧ allowed v.state) : allowed (left p) := by
  obtain ⟨v, hv, hleaves⟩ := h p
  obtain ⟨hsynced, hallowed⟩ := hall v hv
  rcases hleaves with hleft | ⟨hlost, -⟩
  · rw [hleft]
    exact hallowed
  · rw [hsynced] at hlost
    cases hlost

variable [DecidableEq P]

/-- Gives a path another version, by an operation on its directory. -/
def enter (d : Volume P) (path : P) (v : Version) : Volume P where
  now := fun p => if p = path then v else d.now p
  older := fun p => if p = path then d.now p :: d.older p else d.older p

/-- A new, empty file. -/
def create (d : Volume P) (path : P) : Volume P :=
  d.enter path ⟨.regular [], false⟩

/-- Replaces the bytes of the file at a path, where it is. -/
def overwrite (d : Volume P) (path : P) (bytes : List Byte) : Volume P :=
  { d with now := fun p => if p = path then ⟨.regular bytes, false⟩ else d.now p }

/-- `fsync` of the file at a path. -/
def sync (d : Volume P) (path : P) : Volume P :=
  { d with now := fun p => if p = path then ⟨(d.now p).state, true⟩ else d.now p }

def unlink (d : Volume P) (path : P) : Volume P :=
  d.enter path ⟨.missing, true⟩

/-- `rename`: the second path gets what the first has, and the first nothing. -/
def rename (d : Volume P) (source target : P) : Volume P :=
  (d.enter target (d.now source)).unlink source

/-! ## What operations do to a path -/

@[simp] theorem enter_self (d : Volume P) (path : P) (v : Version) :
    (d.enter path v).now path = v := if_pos rfl

@[simp] theorem versions_enter_self (d : Volume P) (path : P) (v : Version) :
    (d.enter path v).versions path = v :: d.versions path := by
  simp [versions, enter]

theorem versions_enter_of_ne {path p : P} (h : p ≠ path) (d : Volume P) (v : Version) :
    (d.enter path v).versions p = d.versions p := by
  simp [versions, enter, h]

@[simp] theorem overwrite_self (d : Volume P) (path : P) (bytes : List Byte) :
    (d.overwrite path bytes).now path = ⟨.regular bytes, false⟩ := if_pos rfl

theorem versions_overwrite_of_ne {path p : P} (h : p ≠ path) (d : Volume P) (bytes : List Byte) :
    (d.overwrite path bytes).versions p = d.versions p := by
  simp [versions, overwrite, h]

@[simp] theorem sync_self (d : Volume P) (path : P) :
    (d.sync path).now path = ⟨(d.now path).state, true⟩ := if_pos rfl

theorem versions_sync_of_ne {path p : P} (h : p ≠ path) (d : Volume P) :
    (d.sync path).versions p = d.versions p := by
  simp [versions, sync, h]

theorem versions_unlink_of_ne {path p : P} (h : p ≠ path) (d : Volume P) :
    (d.unlink path).versions p = d.versions p :=
  versions_enter_of_ne h d _

@[simp] theorem unlink_self (d : Volume P) (path : P) :
    (d.unlink path).now path = ⟨.missing, true⟩ := enter_self _ _ _

theorem versions_rename_target {source target : P} (h : target ≠ source) (d : Volume P) :
    (d.rename source target).versions target = d.now source :: d.versions target := by
  rw [rename, versions_unlink_of_ne h, versions_enter_self]

@[simp] theorem rename_source (d : Volume P) (source target : P) :
    (d.rename source target).now source = ⟨.missing, true⟩ := unlink_self _ _

theorem versions_rename_of_ne {source target p : P} (hs : p ≠ source) (ht : p ≠ target)
    (d : Volume P) : (d.rename source target).versions p = d.versions p := by
  rw [rename, versions_unlink_of_ne hs, versions_enter_of_ne ht]

end Volume

end DualBoy.Lib
