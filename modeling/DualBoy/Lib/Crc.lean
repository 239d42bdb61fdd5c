import Mathlib.Algebra.Order.Ring.Int
import Mathlib.Data.List.Basic

/-!
# Cyclic redundancy checks

A reflected checksum of any width, fed bit by bit: the remainder takes a bit at its low end and
shifts, and the polynomial goes in wherever a one falls out.

* `shift_injective`: where the polynomial's highest bit is set, no two remainders shift to the same.
* `remainder_eq_shifts`: no more bits than the remainder is wide can be taken at once, and shifted
  through together.
* **`remainder_burst`**: streams that differ within one window of that width have different
  remainders.
-/

namespace DualBoy.Lib.Crc

variable {w : Nat} (poly : BitVec w)

/-- A remainder, shifted by one bit. -/
def shift (crc : BitVec w) : BitVec w :=
  if crc.getLsbD 0 then (crc >>> 1) ^^^ poly else crc >>> 1

/-- A remainder, shifted by `n` bits. -/
def shifts : Nat → BitVec w → BitVec w
  | 0, crc => crc
  | n + 1, crc => shifts n (shift poly crc)

/-- The word of a bit. -/
def bitWord (w : Nat) (bit : Bool) : BitVec w := (BitVec.ofBool bit).setWidth w

/-- The word of some bits, the first of them lowest. -/
def bitsWord (w : Nat) (bits : List Bool) : BitVec w := (BitVec.ofBoolListLE bits).setWidth w

/-- A remainder that has taken one bit. -/
def feed (crc : BitVec w) (bit : Bool) : BitVec w := shift poly (crc ^^^ bitWord w bit)

/-- The remainder of a stream of bits. -/
def remainder (crc : BitVec w) (bits : List Bool) : BitVec w := bits.foldl (feed poly) crc

/-! ## Words of bits -/

theorem getLsbD_bitWord (bit : Bool) (i : Nat) :
    (bitWord w bit).getLsbD i = (decide (i < w) && decide (i = 0) && bit) := by
  unfold bitWord
  rw [BitVec.getLsbD_setWidth, BitVec.getLsbD_ofBool]
  cases bit <;> simp

theorem getLsbD_bitsWord (bits : List Bool) (i : Nat) :
    (bitsWord w bits).getLsbD i = (decide (i < w) && bits.getD i false) := by
  unfold bitsWord
  rw [BitVec.getLsbD_setWidth, BitVec.getLsbD_ofBoolListLE]

theorem bitsWord_nil : bitsWord w [] = 0#w := by
  refine BitVec.eq_of_getLsbD_eq fun i hi => ?_
  rw [getLsbD_bitsWord, BitVec.getLsbD_zero]
  simp

/-- The first bit, and above it the others. -/
theorem bitsWord_cons (bit : Bool) (bits : List Bool) :
    bitsWord w (bit :: bits) = bitWord w bit ^^^ bitsWord w bits <<< 1 := by
  refine BitVec.eq_of_getLsbD_eq fun i hi => ?_
  rw [BitVec.getLsbD_xor, BitVec.getLsbD_shiftLeft, getLsbD_bitWord, getLsbD_bitsWord,
    getLsbD_bitsWord]
  cases i with
  | zero => simp
  | succ i =>
    have hi' : i < w := by omega
    simp [hi, hi']

/-- Bits that fit the word are all in it. -/
theorem bitsWord_injective {bits bits' : List Bool} (hlength : bits.length = bits'.length)
    (hfits : bits.length ≤ w) (h : bitsWord w bits = bitsWord w bits') : bits = bits' := by
  refine List.ext_getElem hlength fun i hi hi' => ?_
  have hbit := congrArg (fun word : BitVec w => word.getLsbD i) h
  rw [getLsbD_bitsWord, getLsbD_bitsWord, List.getD_eq_getElem?_getD, List.getD_eq_getElem?_getD,
    List.getElem?_eq_getElem hi, List.getElem?_eq_getElem hi'] at hbit
  have hw : i < w := by omega
  simpa [hw] using hbit

/-! ## The shift -/

theorem shift_xor (a b : BitVec w) : shift poly (a ^^^ b) = shift poly a ^^^ shift poly b := by
  unfold shift
  rw [BitVec.getLsbD_xor, BitVec.ushiftRight_xor_distrib]
  have hself : poly ^^^ poly = 0 := BitVec.xor_self
  cases a.getLsbD 0 <;> cases b.getLsbD 0 <;> simp only [Bool.xor_false, Bool.xor_true, Bool.not_true,
    Bool.not_false, Bool.false_eq_true, if_true, if_false]
  · exact BitVec.xor_assoc _ _ _
  · rw [BitVec.xor_assoc, BitVec.xor_assoc, BitVec.xor_comm poly]
  · rw [BitVec.xor_assoc, ← BitVec.xor_assoc poly, BitVec.xor_comm poly, BitVec.xor_assoc (b >>> 1),
      hself]
    simp

/-- A word whose highest bit is free comes back when it is shifted down. -/
theorem shift_shiftLeft {word : BitVec w} (h : word.getLsbD (w - 1) = false) :
    shift poly (word <<< 1) = word := by
  have hlow : (word <<< 1).getLsbD 0 = false := by simp
  unfold shift
  rw [hlow, if_neg Bool.false_ne_true]
  refine BitVec.eq_of_getLsbD_eq fun i hi => ?_
  rw [BitVec.getLsbD_ushiftRight, BitVec.getLsbD_shiftLeft]
  by_cases hlast : 1 + i < w
  · have hi' : 1 + i - 1 = i := by omega
    simp [hlast, hi']
  · obtain rfl : i = w - 1 := by omega
    rw [h]
    simp [hlast]

/-- The bit that falls out is the highest of what remains. -/
theorem getLsbD_shift_last (htop : poly.getLsbD (w - 1) = true) (crc : BitVec w) :
    (shift poly crc).getLsbD (w - 1) = crc.getLsbD 0 := by
  have hshifted : (crc >>> 1).getLsbD (w - 1) = false := by
    rw [BitVec.getLsbD_ushiftRight]
    exact BitVec.getLsbD_of_ge _ _ (by omega)
  unfold shift
  cases hlow : crc.getLsbD 0 with
  | false => rw [if_neg Bool.false_ne_true, hshifted]
  | true => rw [if_pos rfl, BitVec.getLsbD_xor, hshifted, htop]; rfl

/-- **No two remainders shift to the same.** -/
theorem shift_injective (htop : poly.getLsbD (w - 1) = true) {a b : BitVec w}
    (h : shift poly a = shift poly b) : a = b := by
  have hlow : a.getLsbD 0 = b.getLsbD 0 := by
    rw [← getLsbD_shift_last poly htop, h, getLsbD_shift_last poly htop]
  have hhigh : a >>> 1 = b >>> 1 := by
    unfold shift at h
    rw [hlow] at h
    split at h
    · exact (BitVec.xor_left_inj _).mp h
    · exact h
  refine BitVec.eq_of_getLsbD_eq fun i hi => ?_
  cases i with
  | zero => exact hlow
  | succ i =>
    have hbit := congrArg (fun word : BitVec w => word.getLsbD i) hhigh
    rwa [BitVec.getLsbD_ushiftRight, BitVec.getLsbD_ushiftRight, Nat.add_comm] at hbit

theorem shifts_injective (htop : poly.getLsbD (w - 1) = true) (n : Nat) {a b : BitVec w}
    (h : shifts poly n a = shifts poly n b) : a = b := by
  induction n generalizing a b with
  | zero => exact h
  | succ n ih => exact shift_injective poly htop (ih h)

/-! ## Remainders -/

theorem remainder_append (crc : BitVec w) (bits bits' : List Bool) :
    remainder poly crc (bits ++ bits') = remainder poly (remainder poly crc bits) bits' :=
  List.foldl_append

/-- **Bits that fit the remainder can be taken together.** -/
theorem remainder_eq_shifts (crc : BitVec w) {bits : List Bool} (h : bits.length ≤ w) :
    remainder poly crc bits = shifts poly bits.length (crc ^^^ bitsWord w bits) := by
  induction bits generalizing crc with
  | nil => rw [bitsWord_nil, BitVec.xor_zero]; rfl
  | cons bit bits ih =>
    rw [List.length_cons] at h
    have hfree : (bitsWord w bits).getLsbD (w - 1) = false := by
      rw [getLsbD_bitsWord, List.getD_eq_getElem?_getD, List.getElem?_eq_none (by omega)]
      simp
    have htaken : shift poly (crc ^^^ bitsWord w (bit :: bits)) =
        feed poly crc bit ^^^ bitsWord w bits := by
      rw [bitsWord_cons, ← BitVec.xor_assoc, shift_xor, shift_shiftLeft poly hfree]
      rfl
    have hrest : remainder poly (feed poly crc bit) bits =
        shifts poly bits.length (feed poly crc bit ^^^ bitsWord w bits) := ih _ (by omega)
    rw [← htaken] at hrest
    exact hrest

theorem feed_injective (htop : poly.getLsbD (w - 1) = true) (bit : Bool) {a b : BitVec w}
    (h : feed poly a bit = feed poly b bit) : a = b :=
  (BitVec.xor_left_inj _).mp (shift_injective poly htop h)

/-- What two streams have in common at their end does not bring their remainders together. -/
theorem remainder_injective (htop : poly.getLsbD (w - 1) = true) (bits : List Bool) {a b : BitVec w}
    (h : remainder poly a bits = remainder poly b bits) : a = b := by
  induction bits generalizing a b with
  | nil => exact h
  | cons bit bits ih => exact feed_injective poly htop bit (ih h)

/-- Streams that fit the remainder have different remainders. -/
theorem remainder_word_injective (htop : poly.getLsbD (w - 1) = true) {crc : BitVec w}
    {bits bits' : List Bool} (hlength : bits.length = bits'.length) (hfits : bits.length ≤ w)
    (h : remainder poly crc bits = remainder poly crc bits') : bits = bits' := by
  rw [remainder_eq_shifts poly crc hfits, remainder_eq_shifts poly crc (hlength ▸ hfits),
    ← hlength] at h
  have hwords := shifts_injective poly htop _ h
  exact bitsWord_injective hlength hfits ((BitVec.xor_right_inj _).mp hwords)

/-- **Streams that differ, and only within a window the width of the remainder, have different
remainders.** -/
theorem remainder_burst (htop : poly.getLsbD (w - 1) = true) (crc : BitVec w)
    {bits bits' : List Bool} (hlength : bits.length = bits'.length) (hne : bits ≠ bits') (start : Nat)
    (hwindow : ∀ i : Nat, bits[i]? ≠ bits'[i]? → start ≤ i ∧ i < start + w) :
    remainder poly crc bits ≠ remainder poly crc bits' := by
  intro h
  have hfront : bits.take start = bits'.take start := by
    refine List.ext_getElem? fun i => ?_
    rw [List.getElem?_take, List.getElem?_take]
    split
    · by_contra hdiffers
      have := hwindow i hdiffers
      omega
    · rfl
  have hback : (bits.drop start).drop w = (bits'.drop start).drop w := by
    refine List.ext_getElem? fun i => ?_
    rw [List.drop_drop, List.drop_drop, List.getElem?_drop, List.getElem?_drop]
    by_contra hdiffers
    have := hwindow _ hdiffers
    omega
  -- the window alone tells the streams apart
  have hsplit (stream : List Bool) :
      stream.take start ++ ((stream.drop start).take w ++ (stream.drop start).drop w) = stream := by
    rw [List.take_append_drop, List.take_append_drop]
  rw [← hsplit bits, ← hsplit bits', hfront, hback, remainder_append, remainder_append,
    remainder_append, remainder_append] at h
  have hinside := remainder_injective poly htop _ h
  have hmiddle : (bits.drop start).take w = (bits'.drop start).take w := by
    refine remainder_word_injective poly htop ?_ (List.length_take_le _ _) hinside
    rw [List.length_take, List.length_take, List.length_drop, List.length_drop, hlength]
  refine hne ?_
  rw [← hsplit bits, ← hsplit bits', hfront, hmiddle, hback]

end DualBoy.Lib.Crc
