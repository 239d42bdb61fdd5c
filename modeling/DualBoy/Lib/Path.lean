import Mathlib.Algebra.Order.Ring.Int
import Mathlib.Data.List.Basic

/-!
# Paths of labelled steps

`Path step s ls t` says that steps with the labels `ls` lead from `s` to `t`. What every step keeps a
path keeps, `Path.invariant`; what only some steps may end is ended by one of them, `Path.keeps`; and
a counter that each step raises or leaves, as its label says, is raised by so many, `Path.total`.
-/

namespace DualBoy.Lib

universe u v

variable {S : Type u} {L : Type v} {step : S → L → S → Prop}

/-- Steps under their labels, one after the other. -/
inductive Path (step : S → L → S → Prop) : S → List L → S → Prop
  | nil (s : S) : Path step s [] s
  | cons {s t u : S} {l : L} {ls : List L} (h : step s l t) (rest : Path step t ls u) :
      Path step s (l :: ls) u

theorem Path.single {s t : S} {l : L} (h : step s l t) : Path step s [l] t :=
  .cons h (.nil t)

theorem Path.append {s t u : S} {ls ls' : List L} (h : Path step s ls t) (h' : Path step t ls' u) :
    Path step s (ls ++ ls') u := by
  induction h with
  | nil s => exact h'
  | cons hstep rest ih => exact .cons hstep (ih h')

/-- Some path leads from the one state to the other. -/
def Connects (step : S → L → S → Prop) (s t : S) : Prop :=
  ∃ ls, Path step s ls t

theorem Connects.refl (s : S) : Connects step s s := ⟨[], .nil s⟩

theorem Connects.single {s t : S} {l : L} (h : step s l t) : Connects step s t := ⟨[l], .single h⟩

theorem Connects.trans {s t u : S} (h : Connects step s t) (h' : Connects step t u) : Connects step s u := by
  obtain ⟨ls, h⟩ := h
  obtain ⟨ls', h'⟩ := h'
  exact ⟨ls ++ ls', h.append h'⟩

/-- **What every step keeps, a path keeps.** -/
theorem Path.invariant {inv : S → Prop} (hstep : ∀ s l t, step s l t → inv s → inv t) {s t : S}
    {ls : List L} (h : Path step s ls t) (hs : inv s) : inv t := by
  induction h with
  | nil s => exact hs
  | cons hone rest ih => exact ih (hstep _ _ _ hone hs)

/-- What every step from a state with the invariant says of its label holds of every label of a path
from there. -/
theorem Path.labels {inv : S → Prop} {p : L → Prop} (hstep : ∀ s l t, step s l t → inv s → inv t)
    (hlabel : ∀ s l t, step s l t → inv s → p l) {s t : S} {ls : List L} (h : Path step s ls t)
    (hs : inv s) : ∀ l ∈ ls, p l := by
  induction h with
  | nil s => exact fun l hl => absurd hl List.not_mem_nil
  | cons hone rest ih =>
    intro l hl
    rcases List.mem_cons.mp hl with rfl | hl
    · exact hlabel _ _ _ hone hs
    · exact ih (hstep _ _ _ hone hs) l hl

/-- **What only some steps end** holds at the end of a path, or one of them is on it. -/
theorem Path.keeps {p : S → Prop} {ends : L → Prop}
    (hstep : ∀ s l t, step s l t → p s → p t ∨ ends l) {s t : S} {ls : List L}
    (h : Path step s ls t) (hs : p s) : p t ∨ ∃ l ∈ ls, ends l := by
  induction h with
  | nil s => exact Or.inl hs
  | cons hone rest ih =>
    rcases hstep _ _ _ hone hs with hkept | hends
    · rcases ih hkept with hkept | ⟨l, hl, hends⟩
      · exact Or.inl hkept
      · exact Or.inr ⟨l, List.mem_cons_of_mem _ hl, hends⟩
    · exact Or.inr ⟨_, List.mem_cons_self, hends⟩

/-- **A counter goes up by the steps that raise it**, in numbers that may wrap. -/
theorem Path.total {M : Type*} [AddMonoidWithOne M] {count : S → M} {raises : L → Bool}
    (hstep : ∀ s l t, step s l t → count t = if raises l then count s + 1 else count s) {s t : S}
    {ls : List L} (h : Path step s ls t) : count t = count s + (ls.countP raises : M) := by
  induction h with
  | nil s => rw [List.countP_nil, Nat.cast_zero, add_zero]
  | cons hone rest ih =>
    rw [ih, hstep _ _ _ hone, List.countP_cons]
    split
    · rw [add_assoc, ← Nat.cast_one, ← Nat.cast_add, Nat.add_comm]
    · rfl

/-- **Two systems that go together**: what stands for a state before a step has a successor that
stands for the state behind it. -/
theorem Path.simulates {T : Type u} {rel : S → T → Prop} {next : T → L → T} {inv : S → Prop}
    (hinv : ∀ s l t, step s l t → inv s → inv t)
    (hstep : ∀ s l t x, step s l t → inv s → rel s x → rel t (next x l)) {s t : S} {ls : List L}
    (h : Path step s ls t) {x : T} (hs : inv s) (hrel : rel s x) : rel t (ls.foldl next x) := by
  induction h generalizing x with
  | nil s => exact hrel
  | cons hone rest ih => exact ih (hinv _ _ _ hone hs) (hstep _ _ _ _ hone hs hrel)

end DualBoy.Lib
