import Mathlib.Algebra.Order.Ring.Int
import Mathlib.Data.List.Basic

/-!
# Bit fields of a word

A field is `size` bits of a word from `start` on. Setting a field changes its own bits alone: it
reads as it was set, `getBits_setBits_same`, and a field apart from it reads as before,
`getBits_setBits_apart`. So every field of a word packed from fields that are apart reads as it was
set, **`get_packFrom_of_mem`**.
-/

namespace DualBoy.Lib

variable {w : Nat}

/-! ## Definitions -/

/-- The `size` lowest bits. -/
def lowMask (w size : Nat) : BitVec w := BitVec.ofNat w (2 ^ size - 1)

/-- A field as a number. -/
def getBits (word : BitVec w) (start size : Nat) : BitVec w :=
  (word >>> start) &&& lowMask w size

/-- The word with a field replaced. -/
def setBits (word : BitVec w) (start size : Nat) (bits : BitVec w) : BitVec w :=
  (word &&& ~~~(lowMask w size <<< start)) ||| ((bits &&& lowMask w size) <<< start)

/-- The value fits a field of that size. -/
def Fits (size : Nat) (bits : BitVec w) : Prop := bits &&& lowMask w size = bits

instance (size : Nat) (bits : BitVec w) : Decidable (Fits size bits) :=
  inferInstanceAs (Decidable (_ = _))

/-! ## One bit at a time -/

theorem getLsbD_lowMask {size i : Nat} (hi : i < w) :
    (lowMask w size).getLsbD i = decide (i < size) := by
  rw [lowMask, BitVec.getLsbD_ofNat, Nat.testBit_two_pow_sub_one, decide_eq_true hi, Bool.true_and]

theorem getLsbD_getBits (word : BitVec w) (start size : Nat) {i : Nat} (hi : i < w) :
    (getBits word start size).getLsbD i = (word.getLsbD (start + i) && decide (i < size)) := by
  rw [getBits, BitVec.getLsbD_and, BitVec.getLsbD_ushiftRight, getLsbD_lowMask hi]

theorem getLsbD_setBits (word : BitVec w) (start size : Nat) (bits : BitVec w) {i : Nat}
    (hi : i < w) :
    (setBits word start size bits).getLsbD i =
      if start ≤ i ∧ i < start + size then bits.getLsbD (i - start) else word.getLsbD i := by
  rw [setBits, BitVec.getLsbD_or, BitVec.getLsbD_and, BitVec.getLsbD_not, BitVec.getLsbD_shiftLeft,
    BitVec.getLsbD_shiftLeft, BitVec.getLsbD_and, decide_eq_true hi, Bool.true_and, Bool.true_and]
  by_cases hlow : i < start
  · rw [decide_eq_true hlow, if_neg (by omega)]
    simp
  · rw [decide_eq_false hlow, getLsbD_lowMask (by omega)]
    by_cases hhigh : i - start < size
    · rw [decide_eq_true hhigh, if_pos (by omega)]
      simp
    · rw [decide_eq_false hhigh, if_neg (by omega)]
      simp

/-! ## Fields -/

/-- **A field reads as it was set.** -/
theorem getBits_setBits_same (word : BitVec w) {start size : Nat} {bits : BitVec w}
    (hsize : start + size ≤ w) (hbits : Fits size bits) :
    getBits (setBits word start size bits) start size = bits := by
  have hmask : getBits (setBits word start size bits) start size = bits &&& lowMask w size := by
    refine BitVec.eq_of_getLsbD_eq fun i hi => ?_
    rw [getLsbD_getBits _ _ _ hi, BitVec.getLsbD_and, getLsbD_lowMask hi]
    by_cases hin : i < size
    · rw [getLsbD_setBits _ _ _ _ (by omega), if_pos (by omega), Nat.add_sub_cancel_left]
    · rw [decide_eq_false hin, Bool.and_false, Bool.and_false]
  exact hmask.trans hbits

/-- **A field apart from the one set reads as before.** -/
theorem getBits_setBits_apart (word : BitVec w) {start size start' size' : Nat} (bits : BitVec w)
    (hsize : start + size ≤ w) (hapart : start + size ≤ start' ∨ start' + size' ≤ start) :
    getBits (setBits word start' size' bits) start size = getBits word start size := by
  refine BitVec.eq_of_getLsbD_eq fun i hi => ?_
  rw [getLsbD_getBits _ _ _ hi, getLsbD_getBits _ _ _ hi]
  by_cases hin : i < size
  · rw [getLsbD_setBits _ _ _ _ (by omega), if_neg (by omega)]
  · rw [decide_eq_false hin, Bool.and_false, Bool.and_false]

/-- The bits of a field are clear when it reads zero. -/
theorem and_mask_eq_zero_iff (word : BitVec w) {start size : Nat} (hsize : start + size ≤ w) :
    word &&& (lowMask w size <<< start) = 0#w ↔ getBits word start size = 0#w := by
  constructor
  · intro h
    refine BitVec.eq_of_getLsbD_eq fun i hi => ?_
    rw [getLsbD_getBits _ _ _ hi, BitVec.getLsbD_zero]
    by_cases hin : i < size
    · have hbit := congrArg (fun v => v.getLsbD (start + i)) h
      simp only [BitVec.getLsbD_and, BitVec.getLsbD_shiftLeft, BitVec.getLsbD_zero] at hbit
      rw [Nat.add_sub_cancel_left, getLsbD_lowMask hi, decide_eq_true hin,
        decide_eq_true (show start + i < w by omega),
        decide_eq_false (show ¬start + i < start by omega)] at hbit
      rw [decide_eq_true hin]
      simpa using hbit
    · rw [decide_eq_false hin, Bool.and_false]
  · intro h
    refine BitVec.eq_of_getLsbD_eq fun i hi => ?_
    rw [BitVec.getLsbD_and, BitVec.getLsbD_shiftLeft, BitVec.getLsbD_zero, decide_eq_true hi]
    by_cases hlow : i < start
    · rw [decide_eq_true hlow]
      simp
    · have hbit := congrArg (fun v => v.getLsbD (i - start)) h
      simp only [BitVec.getLsbD_zero] at hbit
      rw [getLsbD_getBits _ _ _ (by omega), show start + (i - start) = i by omega] at hbit
      rw [getLsbD_lowMask (by omega), decide_eq_false hlow]
      simpa using hbit

/-- The fields of a word that is clear are clear. -/
@[simp] theorem getBits_zero (start size : Nat) : getBits 0#w start size = 0#w := by
  refine BitVec.eq_of_getLsbD_eq fun i hi => ?_
  rw [getLsbD_getBits _ _ _ hi, BitVec.getLsbD_zero, BitVec.getLsbD_zero, Bool.false_and]

/-! ## Packed words -/

/-- Where a field lies. -/
structure BitField where
  start : Nat
  size : Nat
  deriving DecidableEq, Repr

namespace BitField

def get (f : BitField) (word : BitVec w) : BitVec w := getBits word f.start f.size

def set (f : BitField) (word bits : BitVec w) : BitVec w := setBits word f.start f.size bits

/-- The two fields share no bit. -/
def Apart (f g : BitField) : Prop := f.start + f.size ≤ g.start ∨ g.start + g.size ≤ f.start

instance (f g : BitField) : Decidable (Apart f g) := inferInstanceAs (Decidable (_ ∨ _))

end BitField

/-- A word whose fields are set one after the other. -/
def packFrom (word : BitVec w) (fields : List (BitField × BitVec w)) : BitVec w :=
  fields.foldl (fun word field => field.1.set word field.2) word

theorem get_packFrom_of_apart {f : BitField} (hsize : f.start + f.size ≤ w) (word : BitVec w)
    {fields : List (BitField × BitVec w)} (h : ∀ field ∈ fields, f.Apart field.1) :
    f.get (packFrom word fields) = f.get word := by
  induction fields generalizing word with
  | nil => rfl
  | cons field fields ih =>
    have hrest := ih (field.1.set word field.2) fun other hmem => h other (List.mem_cons_of_mem _ hmem)
    exact hrest.trans (getBits_setBits_apart word field.2 hsize (h field List.mem_cons_self))

/-- **Every field of a packed word reads as it was set.** -/
theorem get_packFrom_of_mem {f : BitField} {bits : BitVec w} (hsize : f.start + f.size ≤ w)
    (hbits : Fits f.size bits) (word : BitVec w) {fields : List (BitField × BitVec w)}
    (happart : fields.Pairwise fun g g' => g'.1.Apart g.1) (hmem : (f, bits) ∈ fields) :
    f.get (packFrom word fields) = bits := by
  induction fields generalizing word with
  | nil => cases hmem
  | cons field fields ih =>
    obtain ⟨hfirst, hrest⟩ := List.pairwise_cons.mp happart
    rcases List.mem_cons.mp hmem with rfl | hmem
    · have hkeep := get_packFrom_of_apart hsize (f.set word bits) fun other hother =>
        (hfirst other hother).symm
      exact hkeep.trans (getBits_setBits_same word hsize hbits)
    · exact ih _ hrest hmem

end DualBoy.Lib
