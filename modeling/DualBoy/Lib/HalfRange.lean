import Mathlib.Algebra.Order.Ring.Int
import Mathlib.Data.List.Chain

/-!
# Wrapping timestamps

Timestamps that wrap are compared by the sign of their difference. That is no order of all of them,
but inside a window of half their range it is the order of how far they are from its start,
**`noLater_iff`**.
-/

namespace DualBoy.Lib

variable {w : Nat}

/-- `a` is no later than `b`: the sign of their difference. -/
def NoLater (a b : BitVec w) : Prop := 0 ≤ (b - a).toInt

/-- The times lie in a window of half the range, from `base` on. -/
def WindowFrom (base : BitVec (w + 1)) (times : List (BitVec (w + 1))) : Prop :=
  ∀ time ∈ times, (time - base).toNat < 2 ^ w

/-- A difference that is small as a number is not negative, and its opposite is. -/
theorem nonneg_iff_toNat_lt (a : BitVec (w + 1)) : 0 ≤ a.toInt ↔ a.toNat < 2 ^ w := by
  have hlt : a.toNat < 2 ^ (w + 1) := a.isLt
  rw [Nat.pow_succ] at hlt
  rw [BitVec.toInt_eq_toNat_cond, Nat.pow_succ]
  split <;> omega

/-- A difference can be taken from any base. -/
theorem sub_sub_base (a b base : BitVec w) : (b - base) - (a - base) = b - a := by
  have hsum : (b - base) - (a - base) + a = b :=
    calc
      (b - base) - (a - base) + a = (b - base) - (a - base) + ((a - base) + base) := by
        rw [BitVec.sub_add_cancel]
      _ = b := by rw [← BitVec.add_assoc, BitVec.sub_add_cancel, BitVec.sub_add_cancel]
  calc
    (b - base) - (a - base) = (b - base) - (a - base) + a - a := by rw [BitVec.add_sub_cancel]
    _ = b - a := by rw [hsum]

/-- **Within a window of half the range, no later means no farther from its start.** -/
theorem noLater_iff {a b base : BitVec (w + 1)} (ha : (a - base).toNat < 2 ^ w)
    (hb : (b - base).toNat < 2 ^ w) : NoLater a b ↔ (a - base).toNat ≤ (b - base).toNat := by
  unfold NoLater
  rw [nonneg_iff_toNat_lt, ← sub_sub_base a b base, BitVec.toNat_sub]
  generalize (a - base).toNat = x at ha ⊢
  generalize (b - base).toNat = y at hb ⊢
  rw [Nat.pow_succ]
  by_cases hxy : x ≤ y
  · have hwrap : 2 ^ w * 2 - x + y = 2 ^ w * 2 + (y - x) := by omega
    rw [hwrap, Nat.add_mod_left, Nat.mod_eq_of_lt (by omega)]
    omega
  · rw [Nat.mod_eq_of_lt (by omega)]
    omega

end DualBoy.Lib
