import Mathlib.Algebra.Order.Ring.Int
import Mathlib.Data.List.Basic

/-!
# Trails

A walk up and down a tree, from a place whose surroundings are unknown: moves that stay, go up, or
enter a named child. Where it ends is a trail, a number of climbs and then the names entered and not
left again. `Returns` are the walks that come back to where they began without leaving it upwards,
`Descends` those that never go above it.

* `walk_of_returns`, `walk_of_descends`: what such walks do to any trail.
* `descends_or_climbs`: every walk either descends or first returns and then goes up.
* **`first_name_iff`**: which name a trail begins with, by the moves alone.
-/

namespace DualBoy.Lib

universe u

variable {α : Type u}

/-- One move of a walk. -/
inductive Move (α : Type u) where
  | stay
  | up
  | enter (name : α)
  deriving DecidableEq, Repr

/-- Where a walk has come to: up, and then down by the names, the last one first. -/
structure Trail (α : Type u) where
  climbs : Nat
  names : List α
  deriving DecidableEq, Repr

namespace Trail

/-- The trail of a walk that goes nowhere. -/
def start : Trail α := ⟨0, []⟩

def move (t : Trail α) : Move α → Trail α
  | .stay => t
  | .enter name => { t with names := name :: t.names }
  | .up =>
    match t.names with
    | [] => { t with climbs := t.climbs + 1 }
    | _ :: names => { t with names }

def walk (t : Trail α) (moves : List (Move α)) : Trail α :=
  moves.foldl move t

@[simp] theorem walk_nil (t : Trail α) : t.walk [] = t := rfl

@[simp] theorem walk_cons (t : Trail α) (m : Move α) (moves : List (Move α)) :
    t.walk (m :: moves) = (t.move m).walk moves := rfl

theorem walk_append (t : Trail α) (moves moves' : List (Move α)) :
    t.walk (moves ++ moves') = (t.walk moves).walk moves' :=
  List.foldl_append

end Trail

/-- The walk comes back, and leaves by no way but one it entered by. -/
inductive Returns : List (Move α) → Prop
  | nil : Returns []
  | stay {moves : List (Move α)} : Returns moves → Returns (.stay :: moves)
  | leave {name : α} {inner moves : List (Move α)} :
      Returns inner → Returns moves → Returns (.enter name :: inner ++ .up :: moves)

/-- The walk never goes above where it began. -/
inductive Descends : List (Move α) → Prop
  | nil : Descends []
  | stay {moves : List (Move α)} : Descends moves → Descends (.stay :: moves)
  | enter {name : α} {moves : List (Move α)} : Descends moves → Descends (.enter name :: moves)
  | leave {name : α} {inner moves : List (Move α)} :
      Returns inner → Descends moves → Descends (.enter name :: inner ++ .up :: moves)

open Trail

theorem walk_of_returns {moves : List (Move α)} (h : Returns moves) (t : Trail α) :
    t.walk moves = t := by
  induction h generalizing t with
  | nil => rfl
  | stay _ ih => exact ih t
  | leave _ _ ihInner ihMoves =>
    rw [List.cons_append, walk_cons, walk_append, ihInner, walk_cons, ihMoves]
    rfl

theorem walk_of_descends {moves : List (Move α)} (h : Descends moves) (t : Trail α) :
    ∃ names, t.walk moves = { t with names := names ++ t.names } := by
  induction h generalizing t with
  | nil => exact ⟨[], rfl⟩
  | stay _ ih => exact ih t
  | @enter name moves _ ih =>
    obtain ⟨names, hwalk⟩ := ih (t.move (.enter name))
    refine ⟨names ++ [name], ?_⟩
    rw [walk_cons, hwalk, List.append_assoc]
    rfl
  | @leave name inner moves hinner _ ih =>
    obtain ⟨names, hwalk⟩ := ih t
    refine ⟨names, ?_⟩
    rw [List.cons_append, walk_cons, walk_append, walk_of_returns hinner, walk_cons, ← hwalk]
    rfl

/-- **A walk descends, or it returns and goes up.** -/
theorem descends_or_climbs : ∀ moves : List (Move α), Descends moves ∨
    ∃ inner rest, moves = inner ++ .up :: rest ∧ Returns inner
  | [] => Or.inl .nil
  | .stay :: moves => by
    rcases descends_or_climbs moves with h | ⟨inner, rest, rfl, h⟩
    · exact Or.inl h.stay
    · exact Or.inr ⟨.stay :: inner, rest, rfl, h.stay⟩
  | .up :: moves => Or.inr ⟨[], moves, rfl, .nil⟩
  | .enter name :: moves => by
    rcases descends_or_climbs moves with h | ⟨inner, rest, hmoves, h⟩
    · exact Or.inl h.enter
    · have hshorter : rest.length < moves.length + 1 := by
        rw [hmoves, List.length_append, List.length_cons]
        omega
      rcases descends_or_climbs rest with h' | ⟨inner', rest', hrest, h'⟩
      · rw [hmoves]
        exact Or.inl (.leave h h')
      · refine Or.inr ⟨.enter name :: inner ++ .up :: inner', rest', ?_, .leave h h'⟩
        rw [hmoves, hrest]
        simp
termination_by moves => moves.length

/-- A trail that has climbed keeps its climbs. -/
theorem climbs_le_walk (t : Trail α) (moves : List (Move α)) :
    t.climbs ≤ (t.walk moves).climbs := by
  induction moves generalizing t with
  | nil => exact Nat.le_refl _
  | cons m moves ih =>
    refine Nat.le_trans ?_ (ih (t.move m))
    unfold move
    split
    · exact Nat.le_refl _
    · exact Nat.le_refl _
    · split
      · exact Nat.le_succ _
      · exact Nat.le_refl _

/-- The walk enters the name for good, before any other: what comes before it returns, and what
comes after never leaves it. -/
def EntersFirst (name : α) (moves : List (Move α)) : Prop :=
  ∃ before after, moves = before ++ .enter name :: after ∧ Returns before ∧ Descends after

theorem entersFirst_of_walk {name : α} : ∀ moves : List (Move α),
    (start.walk moves).climbs = 0 → (start.walk moves).names.getLast? = some name →
      EntersFirst name moves
  | [], _, hname => nomatch hname
  | .stay :: moves, hclimbs, hname => by
    obtain ⟨before, after, hmoves, hbefore, hafter⟩ := entersFirst_of_walk moves hclimbs hname
    exact ⟨.stay :: before, after, by rw [hmoves, List.cons_append], hbefore.stay, hafter⟩
  | .up :: moves, hclimbs, _ => by
    have hle := climbs_le_walk (start.move (.up : Move α)) moves
    rw [walk_cons] at hclimbs
    rw [hclimbs] at hle
    cases hle
  | .enter name' :: moves, hclimbs, hname => by
    rcases descends_or_climbs moves with hmoves | ⟨inner, rest, hmoves, hinner⟩
    · obtain ⟨names, hwalk⟩ := walk_of_descends hmoves (start.move (.enter name'))
      rw [walk_cons, hwalk] at hname
      have hlast : (names ++ [name']).getLast? = some name := hname
      rw [List.getLast?_append_of_ne_nil _ (List.cons_ne_nil _ _), List.getLast?_singleton,
        Option.some.injEq] at hlast
      exact ⟨[], moves, by rw [hlast, List.nil_append], .nil, hmoves⟩
    · have hshorter : rest.length < moves.length + 1 := by
        rw [hmoves, List.length_append, List.length_cons]
        omega
      rw [hmoves, walk_cons, walk_append, walk_of_returns hinner, walk_cons] at hclimbs hname
      obtain ⟨before, after, hrest, hbefore, hafter⟩ := entersFirst_of_walk rest hclimbs hname
      refine ⟨.enter name' :: inner ++ .up :: before, after, ?_, .leave hinner hbefore, hafter⟩
      rw [hmoves, hrest]
      simp
termination_by moves => moves.length

/-- **The name a trail begins with**, by the moves alone. -/
theorem first_name_iff {name : α} (moves : List (Move α)) :
    ((start.walk moves).climbs = 0 ∧ (start.walk moves).names.getLast? = some name) ↔
      EntersFirst name moves := by
  constructor
  · rintro ⟨hclimbs, hname⟩
    exact entersFirst_of_walk moves hclimbs hname
  · rintro ⟨before, after, rfl, hbefore, hafter⟩
    obtain ⟨names, hwalk⟩ := walk_of_descends hafter (start.move (.enter name))
    rw [walk_append, walk_of_returns hbefore, walk_cons, hwalk]
    refine ⟨rfl, ?_⟩
    show (names ++ [name]).getLast? = some name
    rw [List.getLast?_append_of_ne_nil _ (List.cons_ne_nil _ _), List.getLast?_singleton]

end DualBoy.Lib
