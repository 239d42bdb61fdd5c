import Mathlib.Algebra.Order.Ring.Int
import Mathlib.Data.List.Basic

/-!
# What the frontend names of an engine

The enumerations of `engine.h`, with the values the saved-state header stores.
-/

namespace DualBoy

/-- `DUALBOY_MACHINE_COUNT` is not zero: 0 and 1 are machines. -/
instance machineCount_neZero : NeZero 2 := ⟨by decide⟩

/-- `enum dualboy_platform`. -/
inductive Platform where
  | invalid
  | gb
  | gbc
  | gba
  | nds
  deriving DecidableEq, Repr

def Platform.code : Platform → BitVec 32
  | .invalid => 0
  | .gb => 1
  | .gbc => 2
  | .gba => 3
  | .nds => 4

/-- `enum dualboy_engine_family`. -/
inductive EngineFamily where
  | none
  | sameboy
  | mgba
  | melonds
  deriving DecidableEq, Repr

def EngineFamily.code : EngineFamily → BitVec 32
  | .none => 0
  | .sameboy => 1
  | .mgba => 2
  | .melonds => 3

/-- `enum dualboy_memory_kind`. -/
inductive MemoryKind where
  | saveRam
  | rtc
  | firmware
  deriving DecidableEq, Repr

def MemoryKind.code : MemoryKind → Nat
  | .saveRam => 0
  | .rtc => 1
  | .firmware => 2

/-- The byte a short file of this kind is padded with. -/
def MemoryKind.fill : MemoryKind → BitVec 8
  | .saveRam => 0xff
  | _ => 0

/-- `SIZE_MAX`. -/
def sizeMax : Nat := 2 ^ 64 - 1

end DualBoy
