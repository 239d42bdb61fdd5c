import Mathlib.Data.List.DropRight
import Mathlib.Logic.Function.Basic

/-!
# Rings that overwrite

Slots in a ring, the place of the oldest value in use and how many there are. A push into a full
ring takes the slot of the oldest. Against the list of its values, a ring of `n` slots keeps the
last `n` of what is pushed (**`contents_push`**), and skipping the oldest drops them from the list
(**`contents_skip`**).
-/

namespace DualBoy.Lib

universe u

structure RingBuffer (α : Type u) where
  slots : Nat → α
  first : Nat
  count : Nat

theorem rtake_sublist {α : Type u} (n : Nat) (l : List α) : (l.rtake n).Sublist l :=
  List.drop_sublist _ _

namespace RingBuffer

variable {α : Type u} {capacity : Nat} {r : RingBuffer α}

/-- The slot of the `i`-th oldest value. -/
def slot (capacity : Nat) (r : RingBuffer α) (i : Nat) : Nat := (r.first + i) % capacity

/-- The values in use, the oldest first. -/
def contents (capacity : Nat) (r : RingBuffer α) : List α :=
  (List.range r.count).map fun i => r.slots (r.slot capacity i)

structure Bounded (capacity : Nat) (r : RingBuffer α) : Prop where
  first_lt : r.first < capacity
  count_le : r.count ≤ capacity

/-- Gives up the `n` oldest values. -/
def skip (capacity : Nat) (r : RingBuffer α) (n : Nat) : RingBuffer α :=
  { r with first := (r.first + n) % capacity, count := r.count - n }

/-- Fills the slot behind the newest value. -/
def add (capacity : Nat) (r : RingBuffer α) (value : α) : RingBuffer α :=
  { r with slots := Function.update r.slots (r.slot capacity r.count) value, count := r.count + 1 }

/-- Adds a value, in place of the oldest when the ring is full. -/
def push (capacity : Nat) (r : RingBuffer α) (value : α) : RingBuffer α :=
  if r.count = capacity then (r.skip capacity 1).add capacity value else r.add capacity value

@[simp] theorem length_contents (capacity : Nat) (r : RingBuffer α) :
    (r.contents capacity).length = r.count := by
  unfold contents
  rw [List.length_map, List.length_range]

theorem getElem?_contents (capacity : Nat) (r : RingBuffer α) {i : Nat} (hi : i < r.count) :
    (r.contents capacity)[i]? = some (r.slots (r.slot capacity i)) := by
  unfold contents
  rw [List.getElem?_map, List.getElem?_range hi]
  rfl

/-- Fewer steps than there are slots never come back to the same slot. -/
theorem slot_ne {i j : Nat} (hij : i < j) (hj : j < capacity) :
    r.slot capacity i ≠ r.slot capacity j := by
  intro hsame
  have hdvd : capacity ∣ (r.first + j) - (r.first + i) :=
    Nat.dvd_of_mod_eq_zero (Nat.sub_mod_eq_zero_of_mod_eq hsame.symm)
  have hle := Nat.le_of_dvd (by omega) hdvd
  omega

theorem slot_skip (r : RingBuffer α) (n i : Nat) :
    (r.skip capacity n).slot capacity i = r.slot capacity (n + i) := by
  show ((r.first + n) % capacity + i) % capacity = (r.first + (n + i)) % capacity
  rw [Nat.mod_add_mod, Nat.add_assoc]

/-- **Skipping drops the oldest values.** -/
theorem contents_skip (r : RingBuffer α) (n : Nat) :
    (r.skip capacity n).contents capacity = (r.contents capacity).drop n := by
  refine List.ext_getElem? fun i => ?_
  rw [List.getElem?_drop]
  by_cases hi : i < r.count - n
  · rw [getElem?_contents capacity _ hi, getElem?_contents capacity r (by omega), slot_skip]
    rfl
  · rw [List.getElem?_eq_none (by rw [length_contents]; exact not_lt.mp hi),
      List.getElem?_eq_none (by rw [length_contents]; omega)]

theorem contents_add (hroom : r.count < capacity) (value : α) :
    (r.add capacity value).contents capacity = r.contents capacity ++ [value] := by
  show (List.range (r.count + 1)).map _ = _
  rw [List.range_succ, List.map_append, List.map_singleton]
  congr 1
  · refine List.map_congr_left fun i hi => ?_
    exact Function.update_of_ne (slot_ne (List.mem_range.mp hi) hroom) _ _
  · exact congrArg (fun last => [last]) (Function.update_self _ _ _)

/-- **A push keeps the last values.** -/
theorem contents_push (h : r.Bounded capacity) (value : α) :
    (r.push capacity value).contents capacity =
      (r.contents capacity ++ [value]).rtake capacity := by
  have hpositive : 0 < capacity := Nat.zero_lt_of_lt h.first_lt
  unfold push List.rtake
  rw [List.length_append, length_contents, List.length_singleton]
  by_cases hfull : r.count = capacity
  · have hroom : (r.skip capacity 1).count < capacity := by
      show r.count - 1 < capacity
      omega
    rw [if_pos hfull, contents_add hroom, contents_skip, hfull, Nat.add_sub_cancel_left,
      List.drop_append_of_le_length (by rw [length_contents]; omega)]
  · have hroom : r.count < capacity := lt_of_le_of_ne h.count_le hfull
    rw [if_neg hfull, contents_add hroom, Nat.sub_eq_zero_of_le hroom, List.drop_zero]

theorem Bounded.skip (h : r.Bounded capacity) (n : Nat) : (r.skip capacity n).Bounded capacity := by
  constructor
  · exact Nat.mod_lt _ (Nat.zero_lt_of_lt h.first_lt)
  · exact Nat.le_trans (Nat.sub_le _ _) h.count_le

theorem Bounded.push (h : r.Bounded capacity) (value : α) :
    (r.push capacity value).Bounded capacity := by
  have hpositive : 0 < capacity := Nat.zero_lt_of_lt h.first_lt
  unfold RingBuffer.push
  by_cases hfull : r.count = capacity
  · rw [if_pos hfull]
    refine ⟨(h.skip 1).first_lt, ?_⟩
    show r.count - 1 + 1 ≤ capacity
    omega
  · rw [if_neg hfull]
    refine ⟨h.first_lt, ?_⟩
    show r.count + 1 ≤ capacity
    have hle := h.count_le
    omega

end RingBuffer

end DualBoy.Lib
