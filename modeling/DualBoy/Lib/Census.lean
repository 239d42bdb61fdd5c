import Mathlib.Algebra.BigOperators.Fin
import Mathlib.Algebra.Order.BigOperators.Group.Finset

/-!
# Counting the parties of a system

Finitely many parties, each at a point of its own. `census p` is how many of them are at a point with
`p`, and `census_update` what a move of one of them makes of it.
-/

namespace DualBoy.Lib

universe u v

variable {ι : Type u} [Fintype ι] {P : Type v}

/-- How many parties are at a point with `p`. -/
def census (p : P → Bool) (points : ι → P) : Nat := ∑ i, (p (points i)).toNat

theorem census_pos {p : P → Bool} {points : ι → P} :
    0 < census p points ↔ ∃ i, p (points i) = true := by
  unfold census
  constructor
  · intro hpos
    obtain ⟨i, -, hi⟩ := Finset.exists_ne_zero_of_sum_ne_zero (Nat.ne_of_gt hpos)
    refine ⟨i, ?_⟩
    cases hp : p (points i) with
    | true => rfl
    | false => exact absurd (by rw [hp]; rfl) hi
  · rintro ⟨i, hi⟩
    have hle : (p (points i)).toNat ≤ ∑ i, (p (points i)).toNat :=
      Finset.single_le_sum (f := fun i => (p (points i)).toNat) (fun _ _ => Nat.zero_le _)
        (Finset.mem_univ i)
    rw [hi] at hle
    exact hle

/-- One party moves. -/
theorem census_update [DecidableEq ι] (p : P → Bool) (points : ι → P) (i : ι) (y : P) :
    census p (Function.update points i y) + (p (points i)).toNat =
      census p points + (p y).toNat := by
  have hold : census p points =
      (p (points i)).toNat + ∑ j ∈ Finset.univ.erase i, (p (points j)).toNat :=
    (Finset.add_sum_erase _ _ (Finset.mem_univ i)).symm
  have hnew : census p (Function.update points i y) =
      (p y).toNat + ∑ j ∈ Finset.univ.erase i, (p (points j)).toNat := by
    unfold census
    rw [← Finset.add_sum_erase _ _ (Finset.mem_univ i), Function.update_self]
    congr 1
    refine Finset.sum_congr rfl fun j hj => ?_
    rw [Function.update_of_ne (Finset.ne_of_mem_erase hj)]
  omega

end DualBoy.Lib
