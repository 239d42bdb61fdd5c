import DualBoy.Lib.Memory

/-!
# Little-endian words

A word as its bytes, the lowest first, and the word that bytes at an offset of a string make up. The
two are inverse to each other: **`leWord_of_slice`** and **`leBytes_leWord`**.
-/

namespace DualBoy.Lib

variable {w : Nat}

/-- The `n` lowest bytes of a word. -/
def leBytes (n : Nat) (value : BitVec w) : List Byte :=
  (List.range n).map fun index => (value >>> (index * 8)).setWidth 8

/-- The word of `n` bytes at an offset. -/
def leWord (w n : Nat) (bytes : List Byte) (offset : Nat) : BitVec w :=
  (List.range n).foldl
    (fun value index => value ||| (bytes.getD (offset + index) 0).setWidth w <<< (index * 8)) 0

@[simp] theorem length_leBytes (n : Nat) (value : BitVec w) : (leBytes n value).length = n := by
  unfold leBytes
  rw [List.length_map, List.length_range]

theorem getD_leBytes {n k : Nat} (value : BitVec w) (hk : k < n) :
    (leBytes n value).getD k 0 = (value >>> (k * 8)).setWidth 8 := by
  rw [List.getD_eq_getElem?_getD, leBytes, List.getElem?_map, List.getElem?_range hk]
  rfl

/-- A byte of a slice is one of the string. -/
theorem getD_slice (bytes : List Byte) (offset : Nat) {k n : Nat} (hk : k < n) :
    ((bytes.drop offset).take n).getD k 0 = bytes.getD (offset + k) 0 := by
  rw [List.getD_eq_getElem?_getD, List.getD_eq_getElem?_getD, List.getElem?_take, if_pos hk,
    List.getElem?_drop]

/-- A bit of a word is a bit of one of its bytes. -/
theorem getLsbD_leWord (n : Nat) (bytes : List Byte) (offset : Nat) {i : Nat} (hi : i < w) :
    (leWord w n bytes offset).getLsbD i =
      (decide (i / 8 < n) && (bytes.getD (offset + i / 8) 0).getLsbD (i % 8)) := by
  unfold leWord
  induction n with
  | zero => simp
  | succ n ih =>
    rw [List.range_succ, List.foldl_append, List.foldl_cons, List.foldl_nil, BitVec.getLsbD_or, ih,
      BitVec.getLsbD_shiftLeft, BitVec.getLsbD_setWidth]
    rcases Nat.lt_trichotomy (i / 8) n with hlt | rfl | hgt
    · rw [decide_eq_true hlt, decide_eq_true (show i / 8 < n + 1 by omega),
        decide_eq_true (show i < n * 8 by omega)]
      simp
    · have hbit : i - i / 8 * 8 = i % 8 := by omega
      rw [hbit, decide_eq_false (Nat.lt_irrefl _), decide_eq_true (Nat.lt_succ_self _),
        decide_eq_false (show ¬i < i / 8 * 8 by omega), decide_eq_true hi,
        decide_eq_true (show i % 8 < w by omega)]
      simp
    · have hbeyond : (bytes.getD (offset + n) 0).getLsbD (i - n * 8) = false :=
        BitVec.getLsbD_of_ge _ _ (by omega)
      rw [decide_eq_false (show ¬i / 8 < n by omega),
        decide_eq_false (show ¬i / 8 < n + 1 by omega), hbeyond]
      simp

/-- **The bytes of a word make it up.** -/
theorem leWord_of_slice {n : Nat} (hw : w ≤ n * 8) {bytes : List Byte} {offset : Nat}
    {value : BitVec w} (h : (bytes.drop offset).take n = leBytes n value) :
    leWord w n bytes offset = value := by
  refine BitVec.eq_of_getLsbD_eq fun i hi => ?_
  have hk : i / 8 < n := by omega
  have hbyte : bytes.getD (offset + i / 8) 0 = (value >>> (i / 8 * 8)).setWidth 8 := by
    rw [← getD_leBytes value hk, ← h, getD_slice bytes offset hk]
  have hbit : i / 8 * 8 + i % 8 = i := by omega
  rw [getLsbD_leWord n bytes offset hi, decide_eq_true hk, Bool.true_and, hbyte,
    BitVec.getLsbD_setWidth, BitVec.getLsbD_ushiftRight, hbit, decide_eq_true (by omega),
    Bool.true_and]

/-- **A word's bytes are those it was made of.** -/
theorem leBytes_leWord {n : Nat} (hw : n * 8 ≤ w) {bytes : List Byte} {offset : Nat}
    (hlength : offset + n ≤ bytes.length) :
    leBytes n (leWord w n bytes offset) = (bytes.drop offset).take n := by
  refine List.ext_getElem? fun k => ?_
  by_cases hk : k < n
  · rw [leBytes, List.getElem?_map, List.getElem?_range hk, Option.map_some, List.getElem?_take,
      if_pos hk, List.getElem?_drop, List.getElem?_eq_getElem (by omega), Option.some.injEq]
    refine BitVec.eq_of_getLsbD_eq fun i hi => ?_
    have hrow : (k * 8 + i) / 8 = k := by omega
    have hcolumn : (k * 8 + i) % 8 = i := by omega
    rw [BitVec.getLsbD_setWidth, BitVec.getLsbD_ushiftRight,
      getLsbD_leWord n bytes offset (by omega), hrow, hcolumn, decide_eq_true hi,
      decide_eq_true hk, Bool.true_and, Bool.true_and, List.getD_eq_getElem?_getD,
      List.getElem?_eq_getElem (by omega), Option.getD_some]
  · rw [List.getElem?_eq_none (by rw [length_leBytes]; omega),
      List.getElem?_eq_none (by rw [List.length_take]; omega)]

end DualBoy.Lib
