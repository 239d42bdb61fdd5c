import DualBoy.Lib.Memory

/-!
# Byte strings of a fixed capacity

A file shorter than the block it is loaded into is padded with a fill byte. The lemmas are about one
index at a time: what a padded string holds there, and when two strings agree from an index on or up
to one.
-/

namespace DualBoy.Lib

/-- `bytes` filled up to `capacity`. -/
def pad (capacity : Nat) (fill : Byte) (bytes : List Byte) : List Byte :=
  bytes ++ List.replicate (capacity - bytes.length) fill

/-- The two strings are the same from index `m` on. -/
def AgreeFrom (m : Nat) (l l' : List Byte) : Prop :=
  ∀ i, m ≤ i → l[i]? = l'[i]?

/-- Every byte of the string from index `m` on is `fill`. -/
def FillFrom (m : Nat) (fill : Byte) (l : List Byte) : Prop :=
  ∀ i, m ≤ i → i < l.length → l[i]? = some fill

theorem length_pad {capacity : Nat} {fill : Byte} {bytes : List Byte} (h : bytes.length ≤ capacity) :
    (pad capacity fill bytes).length = capacity := by
  unfold pad
  rw [List.length_append, List.length_replicate]
  omega

theorem getElem?_pad_left {capacity i : Nat} {fill : Byte} {bytes : List Byte}
    (h : i < bytes.length) : (pad capacity fill bytes)[i]? = bytes[i]? := by
  unfold pad
  rw [List.getElem?_append_left h]

theorem getElem?_pad_right {capacity i : Nat} {fill : Byte} {bytes : List Byte}
    (h : bytes.length ≤ i) (hi : i < capacity) : (pad capacity fill bytes)[i]? = some fill := by
  unfold pad
  rw [List.getElem?_append_right h, List.getElem?_replicate, if_pos (by omega)]

/-- A string padded to its own length is the string. -/
theorem pad_length (fill : Byte) (bytes : List Byte) : pad bytes.length fill bytes = bytes := by
  simp [pad]

theorem take_pad {capacity n : Nat} {fill : Byte} {bytes : List Byte} (h : n ≤ bytes.length) :
    (pad capacity fill bytes).take n = bytes.take n := by
  unfold pad
  rw [List.take_append_of_le_length h]

/-- **A string that ends in fill is its beginning, padded.** -/
theorem pad_take {m : Nat} {fill : Byte} {l : List Byte} (h : FillFrom m fill l) :
    pad l.length fill (l.take m) = l := by
  refine List.ext_getElem? fun i => ?_
  have hlen : (l.take m).length = min m l.length := List.length_take
  by_cases hi : i < (l.take m).length
  · rw [getElem?_pad_left hi, List.getElem?_take, if_pos (by omega)]
  · by_cases hl : i < l.length
    · rw [getElem?_pad_right (by omega) hl, h i (by omega) hl]
    · have hpad : (pad l.length fill (l.take m)).length = l.length := length_pad (by omega)
      rw [List.getElem?_eq_none (by omega), List.getElem?_eq_none (by omega)]

theorem AgreeFrom.refl (m : Nat) (l : List Byte) : AgreeFrom m l l := fun _ _ => rfl

theorem AgreeFrom.symm {m : Nat} {l l' : List Byte} (h : AgreeFrom m l l') : AgreeFrom m l' l :=
  fun i hi => (h i hi).symm

theorem AgreeFrom.trans {m : Nat} {l l' l'' : List Byte} (h : AgreeFrom m l l')
    (h' : AgreeFrom m l' l'') : AgreeFrom m l l'' := fun i hi => (h i hi).trans (h' i hi)

theorem AgreeFrom.mono {m n : Nat} {l l' : List Byte} (h : AgreeFrom m l l') (hmn : m ≤ n) :
    AgreeFrom n l l' := fun i hi => h i (by omega)

theorem FillFrom.mono {m n : Nat} {fill : Byte} {l : List Byte} (h : FillFrom m fill l)
    (hmn : m ≤ n) : FillFrom n fill l := fun i hi => h i (by omega)

end DualBoy.Lib
