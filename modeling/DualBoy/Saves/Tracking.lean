import DualBoy.Lib.Bytes
import DualBoy.Lib.FileStore

/-!
# What the save manager knows of one region

`struct dualboy_save_region_tracking` and the functions on it: the hash, the baseline, the decision
taken when a region's extent becomes known, and the part of a flush that says whether the region is
written and how much of it.
-/

namespace DualBoy.Saves

open DualBoy.Lib

/-- `memory_hash` of the first `size` bytes: 64-bit FNV-1a. -/
def memoryHash (data : List Byte) (size : Nat) : BitVec 64 :=
  (data.take size).foldl (fun hash byte => (hash ^^^ byte.setWidth 64) * 1099511628211)
    14695981039346656037

/-- `struct dualboy_save_region_tracking`. The baseline is a null pointer exactly when it is empty. -/
structure Tracking where
  baseline : List Byte
  hash : BitVec 64
  size : Nat
  loadedSize : Nat
  preservedSize : Nat
  extentKnown : Bool
  valid : Bool
  deriving DecidableEq

namespace Tracking

/-- What `memset` leaves. -/
def zero : Tracking where
  baseline := []
  hash := 0
  size := 0
  loadedSize := 0
  preservedSize := 0
  extentKnown := false
  valid := false

/-- `replace_baseline`: a baseline of the same size is overwritten, another one is allocated. -/
def replaceBaseline (t : Tracking) (malloc : Bool) (data : List Byte) : Tracking × Bool :=
  if data.length = t.baseline.length then ({ t with baseline := data }, true)
  else if data.length ≠ 0 ∧ malloc = false then (t, false)
  else ({ t with baseline := data }, true)

end Tracking

/-- `bytes_are_fill`. -/
def bytesAreFill (data : List Byte) (first last : Nat) (fill : Byte) : Bool :=
  ((data.take last).drop first).all fun byte => byte = fill

namespace Tracking

/-- `initialize_extent_tracking`. -/
def initializeExtent (t : Tracking) (data : List Byte) (extent : Nat) : Tracking :=
  let t :=
    if extent = 0 ∧ t.loadedSize ≠ 0 then { t with preservedSize := t.loadedSize }
    else if extent < t.loadedSize ∧ bytesAreFill data extent t.loadedSize 0xff = false then
      { t with preservedSize := t.loadedSize }
    else t
  let trackedSize := max extent t.preservedSize
  let t :=
    if t.loadedSize ≤ trackedSize then
      { t with size := trackedSize, hash := memoryHash data trackedSize }
    else t
  { t with extentKnown := true, valid := true }

/-- The comparison with the baseline a flush makes when it learns the extent. -/
def changedFromBaseline (t : Tracking) (data : List Byte) (extent : Nat) : Prop :=
  t.baseline ≠ [] ∧
    (max extent t.preservedSize ≤ t.baseline.length →
      data.take (max extent t.preservedSize) ≠ t.baseline.take (max extent t.preservedSize))

instance (t : Tracking) (data : List Byte) (extent : Nat) :
    Decidable (t.changedFromBaseline data extent) :=
  inferInstanceAs (Decidable (_ ∧ (_ → _)))

/-- The `if (!tracking->extent_known)` block of a flush. -/
def learnExtent (t : Tracking) (data : List Byte) (extent : Nat) (dirty : Bool) : Tracking :=
  if t.extentKnown then t
  else
    let t := t.initializeExtent data extent
    if dirty = true ∨ t.changedFromBaseline data extent then { t with valid := false } else t

/-- Growth by a promoted extent alone waits for a byte that differs from the baseline. -/
def Deferred (t : Tracking) (data : List Byte) (extent : Nat) : Prop :=
  t.valid = true ∧ t.size < extent ∧ t.baseline ≠ [] ∧ extent ≤ t.baseline.length ∧
    data.take extent = t.baseline.take extent

/-- The bytes are those tracked, by their number and hash. -/
def Unchanged (t : Tracking) (data : List Byte) (extent : Nat) : Prop :=
  t.valid = true ∧ t.size = extent ∧ t.hash = memoryHash data extent

instance (t : Tracking) (data : List Byte) (extent : Nat) : Decidable (t.Deferred data extent) :=
  inferInstanceAs (Decidable (_ ∧ _))

instance (t : Tracking) (data : List Byte) (extent : Nat) : Decidable (t.Unchanged data extent) :=
  inferInstanceAs (Decidable (_ ∧ _))

/-- The number of bytes a flush would write. -/
def flushSize (t : Tracking) (extent : Nat) : Nat :=
  max extent t.preservedSize

/-- A flush has the region's bytes to write. -/
def NeedsWrite (t : Tracking) (data : List Byte) (extent : Nat) : Prop :=
  ¬t.Deferred data (t.flushSize extent) ∧ ¬t.Unchanged data (t.flushSize extent)

instance (t : Tracking) (data : List Byte) (extent : Nat) : Decidable (t.NeedsWrite data extent) :=
  inferInstanceAs (Decidable (¬_ ∧ ¬_))

/-- The assignments after a write of `size` bytes. -/
def recordWrite (t : Tracking) (data : List Byte) (size : Nat) : Tracking :=
  { t with hash := memoryHash data size, size, loadedSize := size, valid := true }

/-! ## What the extent settles -/

theorem bytesAreFill_iff {data : List Byte} {first last : Nat} {fill : Byte}
    (h : last ≤ data.length) :
    bytesAreFill data first last fill = true ↔
      ∀ i, first ≤ i → i < last → data[i]? = some fill := by
  unfold bytesAreFill
  rw [List.all_eq_true]
  constructor
  · intro hall i hlow hhigh
    have hi : i < data.length := Nat.lt_of_lt_of_le hhigh h
    have hmem : data[i] ∈ (data.take last).drop first := by
      rw [List.mem_iff_getElem?]
      refine ⟨i - first, ?_⟩
      rw [List.getElem?_drop, List.getElem?_take, if_pos (by omega),
        show first + (i - first) = i by omega, List.getElem?_eq_getElem]
    rw [List.getElem?_eq_getElem hi]
    exact congrArg some (of_decide_eq_true (hall _ hmem))
  · intro hall byte hmem
    obtain ⟨i, hi⟩ := List.mem_iff_getElem?.mp hmem
    rw [List.getElem?_drop, List.getElem?_take] at hi
    split at hi
    · rename_i hlt
      rw [hall _ (by omega) hlt] at hi
      exact decide_eq_true (Option.some.inj hi).symm
    · exact absurd hi (by simp)

/-- **What becomes known with the extent.** Either everything loaded is tracked, within the extent or
as a preserved tail, and hashed anew; or the loaded bytes past the extent are all `0xff`, and their
old length and hash stay so that a flush shrinks the file. -/
theorem initializeExtent_cases {t : Tracking} (hpreserved : t.preservedSize = 0)
    (data : List Byte) (extent : Nat) :
    let t' := t.initializeExtent data extent
    (t'.preservedSize ≤ t.loadedSize ∧ t.loadedSize ≤ t'.flushSize extent ∧
      t'.size = t'.flushSize extent ∧ t'.hash = memoryHash data (t'.flushSize extent)) ∨
    (t'.preservedSize = 0 ∧ 0 < extent ∧ extent < t.loadedSize ∧
      bytesAreFill data extent t.loadedSize 0xff = true ∧ t'.size = t.size ∧ t'.hash = t.hash) := by
  unfold initializeExtent flushSize
  dsimp only
  by_cases hzero : extent = 0 ∧ t.loadedSize ≠ 0
  · left
    simp only [if_pos hzero]
    rw [if_pos (Nat.le_max_right _ _)]
    exact ⟨Nat.le_refl _, Nat.le_max_right _ _, rfl, rfl⟩
  · by_cases htail : extent < t.loadedSize ∧ bytesAreFill data extent t.loadedSize 0xff = false
    · left
      simp only [if_neg hzero, if_pos htail]
      rw [if_pos (Nat.le_max_right _ _)]
      exact ⟨Nat.le_refl _, Nat.le_max_right _ _, rfl, rfl⟩
    · simp only [if_neg hzero, if_neg htail]
      by_cases hloaded : t.loadedSize ≤ max extent t.preservedSize
      · left
        rw [if_pos hloaded]
        exact ⟨by simp [hpreserved], hloaded, rfl, rfl⟩
      · right
        rw [if_neg hloaded]
        have hfill : bytesAreFill data extent t.loadedSize 0xff = true := by
          by_contra hne
          exact htail ⟨by omega, by simpa using hne⟩
        exact ⟨hpreserved, by omega, by omega, hfill, rfl, rfl⟩

section initializeExtent

variable (t : Tracking) (data : List Byte) (extent : Nat)

@[simp] theorem initializeExtent_extentKnown : (t.initializeExtent data extent).extentKnown = true :=
  rfl

@[simp] theorem initializeExtent_valid : (t.initializeExtent data extent).valid = true := rfl

@[simp] theorem initializeExtent_baseline :
    (t.initializeExtent data extent).baseline = t.baseline := by
  unfold initializeExtent
  dsimp only
  split <;> split <;> (try split) <;> rfl

@[simp] theorem initializeExtent_loadedSize :
    (t.initializeExtent data extent).loadedSize = t.loadedSize := by
  unfold initializeExtent
  dsimp only
  split <;> split <;> (try split) <;> rfl

end initializeExtent

theorem learnExtent_of_known {t : Tracking} (h : t.extentKnown = true) (data : List Byte)
    (extent : Nat) (dirty : Bool) : t.learnExtent data extent dirty = t := if_pos h

theorem learnExtent_of_unknown {t : Tracking} (h : t.extentKnown = false) (data : List Byte)
    (extent : Nat) (dirty : Bool) :
    t.learnExtent data extent dirty =
      { t.initializeExtent data extent with
        valid := !decide (dirty = true ∨
          (t.initializeExtent data extent).changedFromBaseline data extent) } := by
  unfold learnExtent
  rw [h, if_neg Bool.false_ne_true]
  dsimp only
  split
  · rename_i hchanged
    rw [decide_eq_true hchanged]
    rfl
  · rename_i hchanged
    rw [decide_eq_false hchanged]
    rfl

section learnExtent

variable (t : Tracking) (data : List Byte) (extent : Nat) (dirty : Bool)

@[simp] theorem learnExtent_extentKnown :
    (t.learnExtent data extent dirty).extentKnown = true := by
  cases h : t.extentKnown with
  | true => rw [learnExtent_of_known h, h]
  | false => rw [learnExtent_of_unknown h, initializeExtent_extentKnown]

@[simp] theorem learnExtent_loadedSize :
    (t.learnExtent data extent dirty).loadedSize = t.loadedSize := by
  cases h : t.extentKnown with
  | true => rw [learnExtent_of_known h]
  | false => rw [learnExtent_of_unknown h, initializeExtent_loadedSize]

@[simp] theorem learnExtent_baseline :
    (t.learnExtent data extent dirty).baseline = t.baseline := by
  cases h : t.extentKnown with
  | true => rw [learnExtent_of_known h]
  | false => rw [learnExtent_of_unknown h, initializeExtent_baseline]

end learnExtent

/-- A flush that learns the extent and leaves the tracking valid has found the bytes unchanged. -/
theorem unchanged_of_learnExtent {t : Tracking} (h : t.extentKnown = false) {data : List Byte}
    {extent : Nat} {dirty : Bool} (hvalid : (t.learnExtent data extent dirty).valid = true) :
    data.take ((t.learnExtent data extent dirty).flushSize extent) =
      t.baseline.take ((t.learnExtent data extent dirty).flushSize extent) ∨ t.baseline = [] := by
  rw [learnExtent_of_unknown h] at hvalid ⊢
  simp only [changedFromBaseline, initializeExtent_baseline, Bool.not_eq_true', decide_eq_false_iff_not,
    not_or, not_and, Classical.not_imp, Decidable.not_not] at hvalid
  by_cases hempty : t.baseline = []
  · exact Or.inr hempty
  · exact Or.inl (hvalid.2 hempty).2

/-- What was just written needs no write. -/
theorem not_needsWrite_recordWrite {t : Tracking} (h : t.extentKnown = true) (data : List Byte)
    (extent : Nat) (baseline : List Byte) (dirty : Bool) :
    let t' : Tracking := { t.recordWrite data (t.flushSize extent) with baseline }
    ¬(t'.learnExtent data extent dirty).NeedsWrite data extent := by
  intro t' hneeds
  have hknown : t'.extentKnown = true := h
  rw [learnExtent_of_known hknown] at hneeds
  exact hneeds.2 ⟨rfl, rfl, rfl⟩

/-- Replacing the baseline changes nothing else. -/
theorem replaceBaseline_eq (t : Tracking) (malloc : Bool) (data : List Byte) :
    ∃ baseline, (t.replaceBaseline malloc data).1 = { t with baseline } := by
  unfold replaceBaseline
  split
  · exact ⟨data, rfl⟩
  split
  · exact ⟨t.baseline, rfl⟩
  · exact ⟨data, rfl⟩

/-- A baseline of the same size is always replaced. -/
theorem replaceBaseline_of_length {t : Tracking} {data : List Byte}
    (h : data.length = t.baseline.length) (malloc : Bool) :
    t.replaceBaseline malloc data = ({ t with baseline := data }, true) := if_pos h

end Tracking

end DualBoy.Saves
