import Mathlib.Algebra.Order.Ring.Int
import Mathlib.Data.List.Basic

/-!
# Runs of a deterministic transition system

A system is a step function `S → A → S`. `run` takes a list of actions, `Along p` says that `p` holds
of every state and action the run passes through, and the two invariant rules carry a property of
the first state to the last. `Sometime p` says that some step satisfies `p`, and `run_comes_to`
that a run of actions which lower a measure ends. `owed_run_comes_to` is the rule for threads that
take turns, of which one is to move.
-/

namespace DualBoy.Lib

universe u v w

variable {S : Type u} {A : Type v} {step : S → A → S}

/-- The state after these actions. -/
def run (step : S → A → S) (s : S) (as : List A) : S :=
  as.foldl step s

/-- Each step of the run, from the state it is taken in, satisfies `p`. -/
def Along (step : S → A → S) (p : S → A → Prop) : S → List A → Prop
  | _, [] => True
  | s, a :: as => p s a ∧ Along step p (step s a) as

instance Along.decidable {p : S → A → Prop} [∀ s a, Decidable (p s a)] :
    (s : S) → (as : List A) → Decidable (Along step p s as)
  | _, [] => isTrue trivial
  | s, a :: as =>
    letI : Decidable (Along step p (step s a) as) := Along.decidable (step s a) as
    inferInstanceAs (Decidable (p s a ∧ Along step p (step s a) as))

theorem run_append (s : S) (as bs : List A) :
    run step s (as ++ bs) = run step (run step s as) bs :=
  List.foldl_append

/-- Some step of the run, from the state it is taken in, satisfies `p`. -/
def Sometime (step : S → A → S) (p : S → A → Prop) : S → List A → Prop
  | _, [] => False
  | s, a :: as => p s a ∨ Sometime step p (step s a) as

/-- A flag that is down at first, and that the steps with `p` raise for good, is up when there was
such a step. -/
theorem sometime_iff {p : S → A → Prop} {flag : S → Prop}
    (hstep : ∀ s a, flag (step s a) ↔ flag s ∨ p s a) :
    ∀ (as : List A) {s : S}, flag (run step s as) ↔ flag s ∨ Sometime step p s as
  | [], s => by simp [run, Sometime]
  | a :: as, s => by
    change flag (run step (step s a) as) ↔ flag s ∨ p s a ∨ Sometime step p (step s a) as
    rw [sometime_iff hstep as, hstep, or_assoc]

/-- A property every step preserves holds at the end of every run. -/
theorem run_invariant {inv : S → Prop} (hstep : ∀ s a, inv s → inv (step s a)) :
    ∀ (as : List A) {s : S}, inv s → inv (run step s as)
  | [], _, h => h
  | a :: as, s, h => run_invariant hstep as (hstep s a h)

/-- Two systems whose steps keep a relation between their states keep it over a run. -/
theorem run_simulates {T : Type*} {step' : T → A → T} {rel : S → T → Prop}
    (hstep : ∀ s t a, rel s t → rel (step s a) (step' t a)) :
    ∀ (as : List A) {s : S} {t : T}, rel s t → rel (run step s as) (run step' t as)
  | [], _, _, h => h
  | a :: as, s, t, h => run_simulates hstep as (hstep s t a h)

/-- The first steps of an endless sequence of actions. -/
def firstOf (as : Nat → A) (n : Nat) : List A :=
  (List.range n).map as

theorem firstOf_succ (as : Nat → A) (n : Nat) :
    firstOf as (n + 1) = as 0 :: firstOf (fun i => as (i + 1)) n := by
  unfold firstOf
  rw [List.range_succ_eq_map, List.map_cons, List.map_map]
  rfl

theorem firstOf_add (as : Nat → A) (m n : Nat) :
    firstOf as (m + n) = firstOf as m ++ firstOf (fun i => as (m + i)) n := by
  unfold firstOf
  rw [List.range_add, List.map_append, List.map_map]
  rfl

/-- **A run comes to its goal** when all its actions from some time on are ones that bring it
nearer. -/
theorem run_comes_to {goal inv : S → Prop} (measure : S → Nat) {p : A → Prop}
    (hkeeps : ∀ s a, inv s → inv (step s a))
    (hnearer : ∀ s a, inv s → p a → ¬ goal s → measure (step s a) < measure s) {as : Nat → A}
    {m : Nat} (has : ∀ n, m ≤ n → p (as n)) {s : S} (hinv : inv s) :
    ∃ n, goal (run step s (firstOf as n)) := by
  have hall (bound : Nat) : ∀ (as : Nat → A) (s : S), (∀ n, p (as n)) → inv s →
      measure s ≤ bound → ∃ n, goal (run step s (firstOf as n)) := by
    induction bound with
    | zero =>
      intro as s hp hinv hle
      refine ⟨0, ?_⟩
      by_contra hnot
      have := hnearer s (as 0) hinv (hp 0) hnot
      omega
    | succ bound ih =>
      intro as s hp hinv hle
      by_cases hgoal : goal s
      · exact ⟨0, hgoal⟩
      · have hlt := hnearer s (as 0) hinv (hp 0) hgoal
        obtain ⟨n, hn⟩ := ih (fun i => as (i + 1)) (step s (as 0)) (fun i => hp (i + 1))
          (hkeeps s (as 0) hinv) (by omega)
        refine ⟨n + 1, ?_⟩
        rw [firstOf_succ]
        exact hn
  obtain ⟨n, hn⟩ := hall _ (fun i => as (m + i)) (run step s (firstOf as m))
    (fun i => has _ (Nat.le_add_right m i)) (run_invariant hkeeps _ hinv) (Nat.le_refl _)
  refine ⟨m + n, ?_⟩
  rw [firstOf_add, run_append]
  exact hn

theorem run_firstOf_succ (as : Nat → A) (n : Nat) (s : S) :
    run step s (firstOf as (n + 1)) =
      run step (step s (as 0)) (firstOf (fun i => as (i + 1)) n) := by
  rw [firstOf_succ]
  rfl

theorem run_firstOf_last (as : Nat → A) (n : Nat) (s : S) :
    run step s (firstOf as (n + 1)) = step (run step s (firstOf as n)) (as n) := by
  rw [firstOf_add, run_append]
  rfl

/-- What never grows, and shrinks again and again until the goal, comes to the goal. -/
theorem comes_to_of_measure {goal : Nat → Prop} (measure : Nat → Nat)
    (hle : ∀ n, measure (n + 1) ≤ measure n)
    (hless : ∀ m, ∃ n, m ≤ n ∧ (goal n ∨ measure (n + 1) < measure n)) (m : Nat) :
    ∃ n, m ≤ n ∧ goal n := by
  have hdown (m n : Nat) : measure (m + n) ≤ measure m := by
    induction n with
    | zero => exact Nat.le_refl _
    | succ n ih => exact Nat.le_trans (hle (m + n)) ih
  induction hbound : measure m using Nat.strongRecOn generalizing m with
  | ind bound ih =>
    obtain ⟨n, hmn, hgoal | hlt⟩ := hless m
    · exact ⟨n, hmn, hgoal⟩
    · have hless' := hdown m (n - m)
      rw [show m + (n - m) = n by omega] at hless'
      obtain ⟨k, hnk, hgoal⟩ := ih (measure (n + 1)) (by omega) (n + 1) rfl
      exact ⟨k, by omega, hgoal⟩

/-- Before the first action that changes a state, it is as it was. -/
theorem run_unchanged {s : S} (n : Nat) {as : Nat → A} (h : step s (as n) ≠ s) :
    ∃ m, run step s (firstOf as m) = s ∧ step s (as m) ≠ s := by
  induction n generalizing as with
  | zero => exact ⟨0, rfl, h⟩
  | succ n ih =>
    by_cases hfirst : step s (as 0) = s
    · obtain ⟨m, hrun, hm⟩ := @ih (fun i => as (i + 1)) h
      refine ⟨m + 1, ?_, hm⟩
      rw [run_firstOf_succ, hfirst]
      exact hrun
    · exact ⟨0, rfl, hfirst⟩

section

variable {T : Type v} {M : Type w} [LT M] {goal inv : S → Prop} (measure : S → M) (owes : S → T → Prop)
  (turn : T → A → Prop)

/-- The turn of a thread that is to move lowers the measure, whoever acts before it. -/
theorem owed_run_moves
    (hstep : ∀ s a t, inv s → ¬ goal s → owes s t → inv (step s a) ∧ (measure (step s a) < measure s ∨
      measure (step s a) = measure s ∧ owes (step s a) t ∧ ¬ turn t a))
    (n : Nat) {as : Nat → A} {s : S} {t : T} (hinv : inv s) (howes : owes s t)
    (hturn : turn t (as n)) :
    ∃ m, goal (run step s (firstOf as m)) ∨
      inv (run step s (firstOf as m)) ∧ measure (run step s (firstOf as m)) < measure s := by
  induction n generalizing s as with
  | zero =>
    by_cases hgoal : goal s
    · exact ⟨0, Or.inl hgoal⟩
    obtain ⟨hinv', hless | ⟨-, -, hnot⟩⟩ := hstep s (as 0) t hinv hgoal howes
    · exact ⟨1, Or.inr ⟨hinv', hless⟩⟩
    · exact absurd hturn hnot
  | succ n ih =>
    by_cases hgoal : goal s
    · exact ⟨0, Or.inl hgoal⟩
    obtain ⟨hinv', hless | ⟨heq, howes', -⟩⟩ := hstep s (as 0) t hinv hgoal howes
    · exact ⟨1, Or.inr ⟨hinv', hless⟩⟩
    · obtain ⟨m, hm⟩ := @ih (fun i => as (i + 1)) _ hinv' howes' hturn
      refine ⟨m + 1, ?_⟩
      rw [run_firstOf_succ, ← heq]
      exact hm

/-- **A fair run comes to its goal**, when before it some thread is to move: its turn lowers the
measure, and what others do leaves the measure as it is and the thread to move, or lowers it too. -/
theorem owed_run_comes_to [WellFoundedLT M]
    (hstep : ∀ s a t, inv s → ¬ goal s → owes s t → inv (step s a) ∧ (measure (step s a) < measure s ∨
      measure (step s a) = measure s ∧ owes (step s a) t ∧ ¬ turn t a))
    (howes : ∀ s, inv s → ¬ goal s → ∃ t, owes s t)
    {as : Nat → A} (hfair : ∀ t m, ∃ n, m ≤ n ∧ turn t (as n)) {s : S} (hinv : inv s) :
    ∃ n, goal (run step s (firstOf as n)) := by
  induction hlength : measure s using WellFoundedLT.induction generalizing s as with
  | ind length ih =>
    by_cases hgoal : goal s
    · exact ⟨0, hgoal⟩
    obtain ⟨t, ht⟩ := howes s hinv hgoal
    obtain ⟨k, -, hk⟩ := hfair t 0
    obtain ⟨m, hgoal' | ⟨hinv', hless⟩⟩ := owed_run_moves measure owes turn hstep k hinv ht hk
    · exact ⟨m, hgoal'⟩
    have hfair' : ∀ t i, ∃ n, i ≤ n ∧ turn t (as (m + n)) := by
      intro t i
      obtain ⟨n, hle, hn⟩ := hfair t (m + i)
      refine ⟨n - m, by omega, ?_⟩
      rwa [show m + (n - m) = n by omega]
    obtain ⟨n, hn⟩ := ih _ (hlength ▸ hless) hfair' hinv' rfl
    refine ⟨m + n, ?_⟩
    rw [firstOf_add, run_append]
    exact hn

end

/-- **A fair run comes to its goal**, when every action changes nothing or lowers the measure, and
before the goal some thread's turn changes something. -/
theorem fair_run_comes_to {T : Type v} {goal inv : S → Prop} (measure : S → Nat)
    (turn : T → A → Prop)
    (hstep : ∀ s a, inv s → step s a = s ∨ inv (step s a) ∧ measure (step s a) < measure s)
    (hgoes : ∀ s, inv s → ¬ goal s → ∃ t, ∀ a, turn t a → step s a ≠ s) {as : Nat → A}
    (hfair : ∀ t m, ∃ n, m ≤ n ∧ turn t (as n)) {s : S} (hinv : inv s) :
    ∃ n, goal (run step s (firstOf as n)) := by
  induction hlength : measure s using Nat.strongRecOn generalizing s as with
  | ind length ih =>
    by_cases hgoal : goal s
    · exact ⟨0, hgoal⟩
    obtain ⟨t, ht⟩ := hgoes s hinv hgoal
    obtain ⟨k, -, hk⟩ := hfair t 0
    obtain ⟨m, hrun, hm⟩ := run_unchanged k (ht _ hk)
    obtain ⟨hinv', hless⟩ := (hstep s (as m) hinv).resolve_left hm
    have hfair' : ∀ t i, ∃ n, i ≤ n ∧ turn t (as (m + (n + 1))) := by
      intro t i
      obtain ⟨n, hle, hn⟩ := hfair t (m + (i + 1))
      refine ⟨n - (m + 1), by omega, ?_⟩
      rwa [show m + (n - (m + 1) + 1) = n by omega]
    obtain ⟨n, hn⟩ := ih _ (by rw [← hlength]; exact hless) hfair' hinv' rfl
    refine ⟨m + (n + 1), ?_⟩
    rw [firstOf_add, run_append, hrun, run_firstOf_succ]
    exact hn

theorem Along.append {p : S → A → Prop} :
    ∀ {as bs : List A} {s : S}, Along step p s as → Along step p (run step s as) bs →
      Along step p s (as ++ bs)
  | [], _, _, _, h => h
  | _ :: _, _, _, ⟨ha, has⟩, h => ⟨ha, has.append h⟩

/-- A condition on the steps of a run holds along every beginning of it. -/
theorem Along.left {p : S → A → Prop} :
    ∀ {as bs : List A} {s : S}, Along step p s (as ++ bs) → Along step p s as
  | [], _, _, _ => trivial
  | _ :: _, _, _, ⟨ha, h⟩ => ⟨ha, h.left⟩

/-- Weaker conditions hold along the same runs. -/
theorem Along.imp {p q : S → A → Prop} (h : ∀ s a, p s a → q s a) :
    ∀ {as : List A} {s : S}, Along step p s as → Along step q s as
  | [], _, _ => trivial
  | _ :: _, _, ⟨ha, has⟩ => ⟨h _ _ ha, has.imp h⟩

/-- A property preserved by the steps that satisfy `p` holds at the end of every run along `p`. -/
theorem Along.invariant {p : S → A → Prop} {inv : S → Prop}
    (hstep : ∀ s a, inv s → p s a → inv (step s a)) :
    ∀ {as : List A} {s : S}, Along step p s as → inv s → inv (run step s as)
  | [], _, _, h => h
  | a :: _, s, ⟨ha, has⟩, h => has.invariant hstep (hstep s a h ha)

/-- A condition that the invariant implies holds along every run that keeps the invariant. -/
theorem Along.of_invariant {p q : S → A → Prop} {inv : S → Prop}
    (hstep : ∀ s a, inv s → p s a → inv (step s a)) (hq : ∀ s a, inv s → p s a → q s a) :
    ∀ {as : List A} {s : S}, Along step p s as → inv s → Along step q s as
  | [], _, _, _ => trivial
  | a :: _, s, ⟨ha, has⟩, h => ⟨hq s a h ha, has.of_invariant hstep hq (hstep s a h ha)⟩

end DualBoy.Lib
