import Mathlib.Algebra.Order.Ring.Int
import Mathlib.Data.List.Basic

/-!
# Insertion before the first element that stops it

`insertBefore stop a l` walks `l` and puts `a` in front of the first element satisfying `stop`.
With `stop b := key a < key b` it is stable sorted insertion, **`insertBefore_sorted`**; the rest
does not need `stop` to come from an order.
-/

namespace DualBoy.Lib

variable {α : Type}

/-- `a` in front of the first element of the list that satisfies `stop`, at the end if none does. -/
def insertBefore (stop : α → Bool) (a : α) : List α → List α
  | [] => [a]
  | b :: l => if stop b then a :: b :: l else b :: insertBefore stop a l

/-- The list is cut in two and `a` stands at the cut: nothing before it stops it. -/
theorem insertBefore_split (stop : α → Bool) (a : α) :
    ∀ l : List α, ∃ pre post, l = pre ++ post ∧ insertBefore stop a l = pre ++ a :: post ∧
      (∀ b ∈ pre, stop b = false) ∧ ∀ b, post.head? = some b → stop b = true
  | [] => ⟨[], [], rfl, rfl, by simp, by simp⟩
  | b :: l => by
    unfold insertBefore
    by_cases hb : stop b = true
    · exact ⟨[], b :: l, rfl, by simp [hb], by simp, by simpa using hb⟩
    · obtain ⟨pre, post, h1, h2, h3, h4⟩ := insertBefore_split stop a l
      refine ⟨b :: pre, post, by rw [h1]; rfl, by simp [hb, h2], ?_, h4⟩
      simpa [hb] using h3

theorem mem_insertBefore {stop : α → Bool} {a b : α} {l : List α} :
    b ∈ insertBefore stop a l ↔ b = a ∨ b ∈ l := by
  obtain ⟨pre, post, h1, h2, -, -⟩ := insertBefore_split stop a l
  rw [h2, h1]
  simp only [List.mem_append, List.mem_cons]
  tauto

theorem insertBefore_perm (stop : α → Bool) (a : α) (l : List α) :
    (insertBefore stop a l).Perm (a :: l) := by
  obtain ⟨pre, post, h1, h2, -, -⟩ := insertBefore_split stop a l
  rw [h2, h1]
  exact List.perm_middle

theorem insertBefore_ne_nil (stop : α → Bool) (a : α) (l : List α) : insertBefore stop a l ≠ [] :=
  List.ne_nil_of_mem (mem_insertBefore.mpr (Or.inl rfl))

theorem length_insertBefore (stop : α → Bool) (a : α) (l : List α) :
    (insertBefore stop a l).length = l.length + 1 := by
  obtain ⟨pre, post, h1, h2, -, -⟩ := insertBefore_split stop a l
  rw [h2, h1]
  simp only [List.length_append, List.length_cons]
  omega

/-- An element that does not stop the new one stays at the front. -/
theorem insertBefore_cons_of_not {stop : α → Bool} {b : α} (h : stop b = false) (a : α)
    (l : List α) : insertBefore stop a (b :: l) = b :: insertBefore stop a l := by
  simp [insertBefore, h]

/-- **Insertion before the first later element is stable.** In a list sorted by a key, `a` comes behind
all that are no later and before all that are later; and the list stays sorted. -/
theorem insertBefore_sorted {κ : Type} [LinearOrder κ] (key : α → κ) {stop : α → Bool} {a : α}
    {l : List α} (hstop : ∀ b ∈ l, stop b = true ↔ key a < key b)
    (hl : l.Pairwise fun b c => key b ≤ key c) :
    ∃ pre post, l = pre ++ post ∧ insertBefore stop a l = pre ++ a :: post ∧
      (∀ b ∈ pre, key b ≤ key a) ∧ (∀ b ∈ post, key a < key b) ∧
      (insertBefore stop a l).Pairwise fun b c => key b ≤ key c := by
  obtain ⟨pre, post, rfl, hinsert, hpre, hpost⟩ := insertBefore_split stop a l
  obtain ⟨hfront, hback, hacross⟩ := List.pairwise_append.mp hl
  have hbefore : ∀ b ∈ pre, key b ≤ key a := by
    intro b hb
    refine not_lt.mp fun hlater => ?_
    rw [← hstop b (List.mem_append_left _ hb), hpre b hb] at hlater
    cases hlater
  have hafter : ∀ b ∈ post, key a < key b := by
    cases post with
    | nil => exact fun b hb => absurd hb (List.not_mem_nil)
    | cons first post =>
      have hfirst : key a < key first :=
        (hstop first (List.mem_append_right _ List.mem_cons_self)).mp (hpost first rfl)
      intro b hb
      rcases List.mem_cons.mp hb with rfl | hb
      · exact hfirst
      · exact lt_of_lt_of_le hfirst (List.rel_of_pairwise_cons hback hb)
  refine ⟨pre, post, rfl, hinsert, hbefore, hafter, ?_⟩
  rw [hinsert]
  refine List.pairwise_append.mpr ⟨hfront, List.pairwise_cons.mpr ⟨?_, hback⟩, ?_⟩
  · exact fun b hb => le_of_lt (hafter b hb)
  · intro b hb c hc
    rcases List.mem_cons.mp hc with rfl | hc
    · exact hbefore b hb
    · exact hacross b hb c hc

/-- Insertion goes by what the map keeps of `stop`. -/
theorem map_insertBefore {β : Type} {stop : α → Bool} {stop' : β → Bool} {f : α → β}
    (h : ∀ b, stop' (f b) = stop b) (a : α) (l : List α) :
    (insertBefore stop a l).map f = insertBefore stop' (f a) (l.map f) := by
  induction l with
  | nil => rfl
  | cons b l ih =>
    unfold insertBefore
    rw [List.map_cons]
    dsimp only
    rw [h]
    split
    · rfl
    · rw [List.map_cons, ih]

end DualBoy.Lib
