import Mathlib.Algebra.Order.Ring.Int
import Mathlib.Data.List.Basic

/-!
# Flat memory

Bytes, a memory that has one at every address, and blocks of it. A set of copies taken from one
memory and written back over another makes the two agree on every block a copy was taken of,
whatever order they are written in and however the blocks overlap.
-/

namespace DualBoy.Lib

abbrev Byte := BitVec 8

abbrev Memory := Nat → Byte

namespace Memory

/-- The `size` bytes from `address` on. -/
def read (m : Memory) (address size : Nat) : List Byte :=
  (List.range size).map fun i => m (address + i)

/-- The memory with `bytes` from `address` on. -/
def write (m : Memory) (address : Nat) (bytes : List Byte) : Memory := fun a =>
  if address ≤ a ∧ a < address + bytes.length then bytes.getD (a - address) 0 else m a

@[simp] theorem length_read (m : Memory) (address size : Nat) :
    (m.read address size).length = size := by
  simp [read]

theorem getD_read (m : Memory) {address size i : Nat} (h : i < size) :
    (m.read address size).getD i 0 = m (address + i) := by
  simp [read, h]

/-- Equal memories on a block read equal. -/
theorem read_congr {m m' : Memory} {address size : Nat}
    (h : ∀ a, address ≤ a → a < address + size → m a = m' a) :
    m.read address size = m'.read address size := by
  refine List.map_congr_left fun i hi => ?_
  rw [List.mem_range] at hi
  exact h _ (by omega) (by omega)

/-- A block that has these bytes reads as they are. -/
theorem read_eq_of_getD {m : Memory} {address size : Nat} {bytes : List Byte}
    (hlength : bytes.length = size) (h : ∀ k < size, m (address + k) = bytes.getD k 0) :
    m.read address size = bytes := by
  refine List.ext_getElem ((length_read m address size).trans hlength.symm) fun k hk hk' => ?_
  rw [length_read] at hk
  have hbyte := h k hk
  rw [List.getD_eq_getElem?_getD, List.getElem?_eq_getElem hk', Option.getD_some] at hbyte
  simp only [read, List.getElem_map, List.getElem_range, hbyte]

/-- Writing back what another memory has in a block. -/
theorem write_read (m m' : Memory) (address size a : Nat) :
    m.write address (m'.read address size) a =
      if address ≤ a ∧ a < address + size then m' a else m a := by
  unfold write
  rw [length_read]
  split
  · rename_i h
    rw [getD_read _ (by omega)]
    congr 1
    omega
  · rfl

/-- Writes these copies, each an address and bytes, in order. -/
def writeAll (copies : List (Nat × List Byte)) (m : Memory) : Memory :=
  copies.foldl (fun m copy => m.write copy.1 copy.2) m

/-- A loop whose turns write copies writes them all. -/
theorem writeAll_flatMap {ι : Type} (copies : ι → List (Nat × List Byte)) (turns : List ι)
    (m : Memory) :
    writeAll (turns.flatMap copies) m = turns.foldl (fun m i => writeAll (copies i) m) m := by
  induction turns generalizing m with
  | nil => rfl
  | cons i turns ih =>
    rw [List.flatMap_cons, List.foldl_cons, ← ih]
    exact List.foldl_append

/-- Every copy is what `m` has there. -/
def Copied (m : Memory) (copies : List (Nat × List Byte)) : Prop :=
  ∀ copy ∈ copies, copy.2 = m.read copy.1 copy.2.length

/-- An address that is right stays right. -/
theorem writeAll_keeps {m m' : Memory} {a : Nat} :
    ∀ {copies : List (Nat × List Byte)}, Copied m copies → m' a = m a →
      writeAll copies m' a = m a
  | [], _, h => h
  | (address, bytes) :: copies, hc, h => by
    have hbytes : bytes = m.read address bytes.length := hc _ List.mem_cons_self
    change writeAll copies (m'.write address bytes) a = m a
    refine writeAll_keeps (fun copy hcopy => hc copy (List.mem_cons_of_mem _ hcopy)) ?_
    rw [hbytes, write_read]
    split
    · rfl
    · exact h

/-- **Copies put back what they were taken from.** -/
theorem writeAll_restores {m : Memory} {a : Nat} :
    ∀ {copies : List (Nat × List Byte)} {m' : Memory}, Copied m copies →
      (∃ copy ∈ copies, copy.1 ≤ a ∧ a < copy.1 + copy.2.length) → writeAll copies m' a = m a
  | [], _, _, h => by simp at h
  | (address, bytes) :: copies, m', hc, ⟨copy, hcopy, ha⟩ => by
    have hrest : Copied m copies := fun copy hcopy => hc copy (List.mem_cons_of_mem _ hcopy)
    change writeAll copies (m'.write address bytes) a = m a
    rcases List.mem_cons.mp hcopy with rfl | hcopy
    · refine writeAll_keeps hrest ?_
      have hbytes : bytes = m.read address bytes.length := hc _ List.mem_cons_self
      rw [hbytes, write_read, if_pos ha]
    · exact writeAll_restores hrest ⟨copy, hcopy, ha⟩

/-- Copies of a memory change nothing in it. -/
theorem writeAll_self {m : Memory} {copies : List (Nat × List Byte)} (hc : Copied m copies) :
    writeAll copies m = m :=
  funext fun _ => writeAll_keeps hc rfl

end Memory

end DualBoy.Lib
