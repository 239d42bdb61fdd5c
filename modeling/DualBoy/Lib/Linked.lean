import Mathlib.Algebra.Order.Ring.Int
import Mathlib.Data.List.FinRange
import Mathlib.Logic.Function.Basic

/-!
# Linked lists in an array of cells

A list is a head and the cells its `next` links lead through, `Linked`. Which cells these are is
determined, and none comes twice: a list that ends has no cycle, `Linked.nodup`. A write to the link of
a cell is seen by no list the cell is not in, so lists without common cells are changed one at a time.

A `Place` is what a pointer to a link points to: the head of the list, or the `next` of a cell.
-/

namespace DualBoy.Lib

variable {α : Type}

/-- The links lead from the head through these cells, and end. -/
def Linked (next : α → Option α) : Option α → List α → Prop
  | head, [] => head = none
  | head, a :: l => head = some a ∧ Linked next (next a) l

@[simp] theorem linked_nil {next : α → Option α} {head : Option α} :
    Linked next head [] ↔ head = none := Iff.rfl

@[simp] theorem linked_cons {next : α → Option α} {head : Option α} {a : α} {l : List α} :
    Linked next head (a :: l) ↔ head = some a ∧ Linked next (next a) l := Iff.rfl

/-- The links lead through one list only. -/
theorem Linked.unique {next : α → Option α} {head : Option α} {l l' : List α}
    (h : Linked next head l) (h' : Linked next head l') : l = l' := by
  induction l generalizing head l' with
  | nil =>
    rw [linked_nil.mp h] at h'
    cases l' with
    | nil => rfl
    | cons a l' => cases h'.1
  | cons a l ih =>
    obtain ⟨rfl, hrest⟩ := h
    cases l' with
    | nil => cases h'
    | cons a' l' =>
      obtain ⟨heq, hrest'⟩ := h'
      obtain rfl := Option.some.inj heq
      rw [ih hrest hrest']

theorem Linked.head_eq {next : α → Option α} {head : Option α} {l : List α} (h : Linked next head l) :
    head = l.head? := by
  cases l with
  | nil => exact h
  | cons a l => exact h.1

/-- The list from one of its cells on. -/
theorem Linked.suffix {next : α → Option α} {head : Option α} {l l' : List α}
    (h : Linked next head (l ++ l')) : Linked next l'.head? l' := by
  induction l generalizing head with
  | nil =>
    have hhead := h.head_eq
    rwa [hhead] at h
  | cons a l ih => exact ih h.2

/-- **A list that ends has no cycle.** -/
theorem Linked.nodup {next : α → Option α} {head : Option α} {l : List α} (h : Linked next head l) :
    l.Nodup := by
  induction l generalizing head with
  | nil => exact List.nodup_nil
  | cons a l ih =>
    obtain ⟨-, hrest⟩ := h
    refine List.nodup_cons.mpr ⟨fun hmem => ?_, ih hrest⟩
    -- from the second occurrence on there would be less to come than from the first
    obtain ⟨before, after, rfl⟩ := List.append_of_mem hmem
    have hsame := congrArg List.length (hrest.unique hrest.suffix.2)
    rw [List.length_append, List.length_cons] at hsame
    omega

variable [DecidableEq α]

/-- A cell outside the list may be written. -/
theorem Linked.update {next : α → Option α} {head : Option α} {l : List α} {a : α}
    (h : Linked next head l) (ha : a ∉ l) (link : Option α) :
    Linked (Function.update next a link) head l := by
  induction l generalizing head with
  | nil => exact h
  | cons b l ih =>
    obtain ⟨hhead, hrest⟩ := h
    have hne : b ≠ a := by
      rintro rfl
      exact ha List.mem_cons_self
    refine ⟨hhead, ?_⟩
    rw [Function.update_of_ne hne]
    exact ih hrest fun hmem => ha (List.mem_cons_of_mem _ hmem)

/-! ## Pointers to links -/

/-- What the pointer points to: the head of the list, or a cell's link. -/
inductive Place (α : Type) where
  | head
  | next (a : α)

/-- The place behind the cells. -/
def placeAfter (pre : List α) : Place α :=
  match pre.getLast? with
  | none => .head
  | some a => .next a

/-- The head and the links, with the link at the place written. -/
def setLink (place : Place α) (link : Option α) (r : Option α × (α → Option α)) :
    Option α × (α → Option α) :=
  match place with
  | .head => (link, r.2)
  | .next a => (r.1, Function.update r.2 a link)

omit [DecidableEq α] in
theorem mem_of_placeAfter {pre : List α} {a : α} (h : placeAfter pre = .next a) : a ∈ pre := by
  unfold placeAfter at h
  cases hget : pre.getLast? with
  | none =>
    rw [hget] at h
    cases h
  | some b =>
    rw [hget] at h
    obtain rfl := Place.next.inj h
    exact List.mem_of_getLast? hget

omit [DecidableEq α] in
theorem placeAfter_concat (pre : List α) (a : α) : placeAfter (pre ++ [a]) = .next a := by
  unfold placeAfter
  rw [List.getLast?_concat]

/-- A list without the cells in front of the place is not changed. -/
theorem Linked.setLink {next : α → Option α} {head head' : Option α} {l pre : List α}
    (h : Linked next head l) (hapart : ∀ a ∈ pre, a ∉ l) (link : Option α) :
    Linked (setLink (placeAfter pre) link (head', next)).2 head l := by
  cases hplace : placeAfter pre with
  | head => exact h
  | next a => exact h.update (hapart a (mem_of_placeAfter hplace)) link

/-- **A write behind the first cells of a list** gives them another rest. -/
theorem linked_setLink {next : α → Option α} {head link : Option α} {pre post rest : List α}
    (h : Linked next head (pre ++ post)) (hrest : Linked next link rest)
    (hapart : ∀ a ∈ pre, a ∉ rest) :
    Linked (setLink (placeAfter pre) link (head, next)).2 (setLink (placeAfter pre) link (head, next)).1
      (pre ++ rest) := by
  induction pre generalizing head with
  | nil => exact hrest
  | cons a pre ih =>
    obtain ⟨rfl, hnext⟩ := h
    cases pre with
    | nil =>
      refine ⟨rfl, ?_⟩
      change Linked (Function.update next a link) (Function.update next a link a) rest
      rw [Function.update_self]
      exact hrest.update (hapart a List.mem_cons_self) link
    | cons b pre =>
      have hplace : placeAfter (a :: b :: pre) = placeAfter (b :: pre) := by
        unfold placeAfter
        rw [List.getLast?_cons_cons]
      obtain ⟨c, hc⟩ : ∃ c, placeAfter (b :: pre) = .next c := by
        unfold placeAfter
        rw [List.getLast?_cons]
        exact ⟨_, rfl⟩
      have hmem := mem_of_placeAfter hc
      have hne : c ≠ a := by
        rintro rfl
        have hnodup : (c :: ((b :: pre) ++ post)).Nodup := Linked.nodup ⟨rfl, hnext⟩
        exact (List.nodup_cons.mp hnodup).1 (List.mem_append_left _ hmem)
      have htail := ih hnext fun x hx => hapart x (List.mem_cons_of_mem _ hx)
      rw [hplace]
      rw [hc] at htail ⊢
      refine ⟨rfl, ?_⟩
      change Linked (Function.update next c link) (Function.update next c link a) ((b :: pre) ++ rest)
      rw [Function.update_of_ne hne.symm]
      exact htail

/-- A null link ends the list where it is put. -/
theorem linked_setLink_none {next : α → Option α} {head : Option α} {pre post : List α}
    (h : Linked next head (pre ++ post)) :
    Linked (setLink (placeAfter pre) none (head, next)).2 (setLink (placeAfter pre) none (head, next)).1
      pre := by
  have hcut := linked_setLink h (show Linked next none [] from rfl) fun _ _ => List.not_mem_nil
  rw [List.append_nil] at hcut
  exact hcut

end DualBoy.Lib
