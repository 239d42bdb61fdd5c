import DualBoy.Lib.Memory

/-!
# Rows of a memory

A loop that fills consecutive rows of a memory, one row a turn, and leaves the rest of it alone.
**`forRows_apply`** says what the memory holds behind the loop, from what one turn does.
-/

namespace DualBoy.Lib

/-- `for (row = 0; row < count; ++row)`. -/
def forRows (count : Nat) (body : Nat → Memory → Memory) (m : Memory) : Memory :=
  (List.range count).foldl (fun m row => body row m) m

@[simp] theorem forRows_zero (body : Nat → Memory → Memory) (m : Memory) :
    forRows 0 body m = m := rfl

theorem forRows_succ (count : Nat) (body : Nat → Memory → Memory) (m : Memory) :
    forRows (count + 1) body m = body count (forRows count body m) := by
  unfold forRows
  rw [List.range_succ, List.foldl_append, List.foldl_cons, List.foldl_nil]

/-- The turn fills the row at `address` with `data` and nothing else. -/
def FillsRow (turn : Memory → Memory) (address size : Nat) (data : Nat → Byte) : Prop :=
  ∀ m a, turn m a = if address ≤ a ∧ a < address + size then data (a - address) else m a

/-- Copying a block fills a row. -/
theorem fillsRow_write (source : Memory) (address offset size : Nat) :
    FillsRow (fun m => m.write address (source.read offset size)) address size
      (fun i => source (offset + i)) := by
  intro m a
  dsimp only [Memory.write]
  rw [Memory.length_read]
  split
  · rw [Memory.getD_read _ (by omega)]
  · rfl

/-- Two turns that fill adjacent parts fill the row they make up. -/
theorem FillsRow.append {turn turn' : Memory → Memory} {address size size' : Nat}
    {data data' : Nat → Byte} (h : FillsRow turn address size data)
    (h' : FillsRow turn' (address + size) size' data') :
    FillsRow (fun m => turn' (turn m)) address (size + size')
      (fun i => if i < size then data i else data' (i - size)) := by
  intro m a
  dsimp only
  rw [h' (turn m) a, h m a]
  by_cases hfirst : address ≤ a ∧ a < address + size
  · rw [if_neg (by omega), if_pos hfirst, if_pos (by omega), if_pos (by omega)]
  · by_cases hsecond : address + size ≤ a ∧ a < address + size + size'
    · rw [if_pos hsecond, if_pos (by omega), if_neg (by omega)]
      congr 1
      omega
    · rw [if_neg hsecond, if_neg hfirst, if_neg (by omega)]

/-- **What a loop over rows leaves**: its rows, one after the other, and outside them what was
there. -/
theorem forRows_apply {body : Nat → Memory → Memory} {base size : Nat} (data : Nat → Nat → Byte)
    {count : Nat} (hbody : ∀ row < count, FillsRow (body row) (base + row * size) size (data row))
    (m : Memory) (a : Nat) :
    forRows count body m a =
      if base ≤ a ∧ a < base + count * size then data ((a - base) / size) ((a - base) % size)
      else m a := by
  induction count with
  | zero =>
    rw [forRows_zero, if_neg (by omega)]
  | succ count ih =>
    rw [forRows_succ, hbody count (by omega), ih fun row hrow => hbody row (by omega)]
    have hsucc : (count + 1) * size = count * size + size := Nat.succ_mul count size
    by_cases hlast : base + count * size ≤ a ∧ a < base + count * size + size
    · have hrow : a - base = size * count + (a - (base + count * size)) := by
        rw [Nat.mul_comm size count]
        omega
      have hpos : 0 < size := by omega
      rw [if_pos hlast, if_pos (by omega), hrow, Nat.mul_add_div hpos, Nat.mul_add_mod,
        Nat.div_eq_of_lt (by omega), Nat.mod_eq_of_lt (by omega), Nat.add_zero]
    · rw [if_neg hlast]
      by_cases hbefore : base ≤ a ∧ a < base + count * size
      · rw [if_pos hbefore, if_pos (by omega)]
      · rw [if_neg hbefore, if_neg (by omega)]

end DualBoy.Lib
