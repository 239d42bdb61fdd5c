import DualBoy.Lib.Memory

/-!
# Files by path

What a path names, over any type of paths, and the effect of replacing files whole. A crash between
or inside atomic replacements leaves the store as some first part of them did.
-/

namespace DualBoy.Lib

/-- What a path names: nothing, a regular file, or something that is not one. -/
inductive FileState where
  | missing
  | regular (bytes : List Byte)
  | unusable
  deriving DecidableEq, Repr

abbrev Files (P : Type) := P → FileState

namespace Files

variable {P : Type} [DecidableEq P]

/-- The store with another state at a path. -/
def set (files : Files P) (path : P) (state : FileState) : Files P := fun p =>
  if p = path then state else files p

/-- The store with a regular file of these bytes at a path. -/
def put (files : Files P) (path : P) (bytes : List Byte) : Files P := fun p =>
  if p = path then .regular bytes else files p

/-- The store after these replacements. -/
def puts (files : Files P) (writes : List (P × List Byte)) : Files P :=
  writes.foldl (fun files write => files.put write.1 write.2) files

/-- A store a crash may leave while these replacements are made: each of them is whole or has not
happened. -/
def Interrupted (files : Files P) (writes : List (P × List Byte)) (left : Files P) : Prop :=
  ∃ n, left = files.puts (writes.take n)

@[simp] theorem set_self (files : Files P) (path : P) (state : FileState) :
    files.set path state path = state := if_pos rfl

theorem set_of_ne {path p : P} (h : p ≠ path) (files : Files P) (state : FileState) :
    files.set path state p = files p := if_neg h

@[simp] theorem set_same (files : Files P) (path : P) : files.set path (files path) = files := by
  funext p
  by_cases h : p = path
  · rw [h, set_self]
  · exact set_of_ne h _ _

@[simp] theorem put_self (files : Files P) (path : P) (bytes : List Byte) :
    files.put path bytes path = .regular bytes := if_pos rfl

theorem put_of_ne {path p : P} (h : p ≠ path) (files : Files P) (bytes : List Byte) :
    files.put path bytes p = files p := if_neg h

@[simp] theorem puts_nil (files : Files P) : files.puts [] = files := rfl

theorem puts_append (files : Files P) (writes writes' : List (P × List Byte)) :
    files.puts (writes ++ writes') = (files.puts writes).puts writes' := List.foldl_append

/-- A path none of the replacements is about keeps what it has. -/
theorem puts_of_not_mem {p : P} : ∀ {writes : List (P × List Byte)} (files : Files P),
    p ∉ writes.map Prod.fst → files.puts writes p = files p
  | [], _, _ => rfl
  | write :: writes, files, h => by
    rw [List.map_cons, List.mem_cons, not_or] at h
    exact (puts_of_not_mem _ h.2).trans (put_of_ne h.1 _ _)

/-- Replacing hides what was there. -/
theorem puts_congr {p : P} : ∀ {writes : List (P × List Byte)} {files files' : Files P},
    (p ∉ writes.map Prod.fst → files' p = files p) → files'.puts writes p = files.puts writes p
  | [], _, _, h => h (by simp)
  | write :: writes, files, files', h => by
    have hrest : p ∉ writes.map Prod.fst →
        files'.put write.1 write.2 p = files.put write.1 write.2 p := by
      intro hrest
      by_cases hp : p = write.1
      · rw [hp, put_self, put_self]
      · rw [put_of_ne hp, put_of_ne hp]
        refine h fun hmem => ?_
        rw [List.map_cons, List.mem_cons] at hmem
        exact hmem.elim hp hrest
    change (files'.put write.1 write.2).puts writes p = (files.put write.1 write.2).puts writes p
    exact puts_congr hrest

end Files

end DualBoy.Lib
