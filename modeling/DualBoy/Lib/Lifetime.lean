import Mathlib.Algebra.Order.Ring.Int
import Mathlib.Data.Finset.Insert
import Mathlib.Data.List.Basic
import Mathlib.Logic.Function.Basic

/-!
# Lifetimes of resources

A log of what happened to resources: each is acquired, used and released. In a proper log a resource
is acquired once, used only while it lives and released at most once, and nothing happens to it
afterwards. A `Ledger` says who holds the resources that live: each of them one holder.

* `Proper.count_acquire`, `Proper.count_release`: how often each is acquired and released.
* `Proper.nothing_after`: nothing happens to a resource once it is released.
* **`Ledger.acquire`**, **`Ledger.use`**, **`Ledger.release`**: what a holder may do.
* `Books`: the same with resources that are numbered as they are acquired.
* `InHand`: the same for the set of the resources that live.
-/

namespace DualBoy.Lib

universe u v

inductive LifeEvent (R : Type u) where
  | acquire (r : R)
  | use (r : R)
  | release (r : R)
  deriving DecidableEq

namespace LifeEvent

variable {R : Type u}

def resource : LifeEvent R → R
  | acquire r | use r | release r => r

end LifeEvent

inductive Life where
  | unborn
  | live
  | dead
  deriving DecidableEq

section Lifetime

open LifeEvent

variable {R : Type u} [DecidableEq R] {log : List (LifeEvent R)} {r : R}

/-- What an event makes of the life of a resource. -/
def lifeAfter (r : R) (life : Life) (e : LifeEvent R) : Life :=
  if e.resource = r then
    match e with
    | acquire _ => .live
    | use _ => life
    | release _ => .dead
  else life

/-- The life of a resource behind a log. -/
def life (log : List (LifeEvent R)) (r : R) : Life := log.foldl (lifeAfter r) .unborn

/-- What may happen to a resource. -/
def Legal : LifeEvent R → Life → Prop
  | acquire _, life => life = .unborn
  | use _, life => life = .live
  | release _, life => life = .live

/-- Every event may happen when it does. -/
inductive Proper : List (LifeEvent R) → Prop
  | nil : Proper []
  | snoc {log : List (LifeEvent R)} {e : LifeEvent R} (h : Proper log)
      (legal : Legal e (life log e.resource)) : Proper (log ++ [e])

theorem life_snoc (log : List (LifeEvent R)) (e : LifeEvent R) (r : R) :
    life (log ++ [e]) r = lifeAfter r (life log r) e := by
  unfold life
  rw [List.foldl_append, List.foldl_cons, List.foldl_nil]

theorem life_snoc_of_ne (log : List (LifeEvent R)) {e : LifeEvent R} (h : e.resource ≠ r) :
    life (log ++ [e]) r = life log r := by
  rw [life_snoc]
  exact if_neg h

theorem life_snoc_acquire (log : List (LifeEvent R)) (r : R) :
    life (log ++ [acquire r]) r = .live := by
  rw [life_snoc]
  exact if_pos rfl

theorem life_snoc_use (log : List (LifeEvent R)) (r r' : R) :
    life (log ++ [use r]) r' = life log r' := by
  rw [life_snoc]
  unfold lifeAfter
  split <;> rfl

theorem life_snoc_release (log : List (LifeEvent R)) (r : R) :
    life (log ++ [release r]) r = .dead := by
  rw [life_snoc]
  exact if_pos rfl

/-- Each resource is acquired once, if at all. -/
theorem Proper.count_acquire (h : Proper log) (r : R) :
    log.count (acquire r) = if life log r = .unborn then 0 else 1 := by
  induction h with
  | nil => rfl
  | @snoc log e _ legal ih =>
    rw [List.count_append, ih]
    by_cases hr : e.resource = r
    · cases e with
      | acquire r' =>
        obtain rfl : r' = r := hr
        have hunborn : life log r' = .unborn := legal
        rw [life_snoc_acquire, hunborn, if_pos rfl, if_neg (by decide), List.count_singleton_self]
      | use r' =>
        have hne : ¬(use r' == acquire r) = true := by simp
        rw [life_snoc_use, List.count_singleton, if_neg hne, Nat.add_zero]
      | release r' =>
        obtain rfl : r' = r := hr
        have hlive : life log r' = .live := legal
        rw [life_snoc_release, hlive, List.count_singleton, if_neg (by simp)]
        rfl
    · have hne : ¬(e == acquire r) = true := by
        rw [beq_iff_eq]
        rintro rfl
        exact hr rfl
      rw [life_snoc_of_ne log hr, List.count_singleton, if_neg hne, Nat.add_zero]

/-- Each resource is released once if it is dead, and else not at all. -/
theorem Proper.count_release (h : Proper log) (r : R) :
    log.count (release r) = if life log r = .dead then 1 else 0 := by
  induction h with
  | nil => rfl
  | @snoc log e _ legal ih =>
    rw [List.count_append, ih]
    by_cases hr : e.resource = r
    · cases e with
      | acquire r' =>
        obtain rfl : r' = r := hr
        have hunborn : life log r' = .unborn := legal
        rw [life_snoc_acquire, hunborn, List.count_singleton, if_neg (by simp)]
        rfl
      | use r' =>
        have hne : ¬(use r' == release r) = true := by simp
        rw [life_snoc_use, List.count_singleton, if_neg hne, Nat.add_zero]
      | release r' =>
        obtain rfl : r' = r := hr
        have hlive : life log r' = .live := legal
        rw [life_snoc_release, hlive, List.count_singleton_self]
        rfl
    · have hne : ¬(e == release r) = true := by
        rw [beq_iff_eq]
        rintro rfl
        exact hr rfl
      rw [life_snoc_of_ne log hr, List.count_singleton, if_neg hne, Nat.add_zero]

/-- **Nothing happens to a resource once it is released.** -/
theorem Proper.nothing_after (h : Proper log) (r : R) (front back : List (LifeEvent R))
    (hlog : log = front ++ release r :: back) : life log r = .dead ∧
      ∀ e ∈ back, e.resource ≠ r := by
  induction h generalizing back with
  | nil => exact absurd hlog.symm (by simp)
  | @snoc log e _ legal ih =>
    rcases List.eq_nil_or_concat back with rfl | ⟨back', e', rfl⟩
    · obtain ⟨rfl, heq⟩ := List.append_inj' hlog rfl
      obtain rfl := List.head_eq_of_cons_eq heq
      exact ⟨life_snoc_release log r, fun _ hmem => nomatch hmem⟩
    · rw [List.concat_eq_append, ← List.cons_append, ← List.append_assoc] at hlog
      obtain ⟨hfront, heq⟩ := List.append_inj' hlog rfl
      obtain rfl := List.head_eq_of_cons_eq heq
      obtain ⟨hdead, hback⟩ := ih back' hfront
      have hne : e.resource ≠ r := by
        rintro rfl
        rw [hdead] at legal
        cases e <;> cases legal
      refine ⟨(life_snoc_of_ne log hne).trans hdead, fun e' hmem => ?_⟩
      rw [List.concat_eq_append] at hmem
      rcases List.mem_append.mp hmem with hmem | hmem
      · exact hback e' hmem
      · rw [List.mem_singleton.mp hmem]
        exact hne

/-- What anything happened to has been born. -/
theorem Proper.born (h : Proper log) {e : LifeEvent R} (hmem : e ∈ log) :
    life log e.resource ≠ .unborn := by
  induction h with
  | nil => cases hmem
  | @snoc log e' _ legal ih =>
    by_cases hr : e'.resource = e.resource
    · rw [life_snoc]
      unfold lifeAfter
      rw [if_pos hr]
      rw [hr] at legal
      cases e' with
      | acquire r => exact fun hlife => Life.noConfusion hlife
      | use r =>
        have hlive : life log e.resource = .live := legal
        exact fun hlife => Life.noConfusion (hlive.symm.trans hlife)
      | release r => exact fun hlife => Life.noConfusion hlife
    · rw [life_snoc_of_ne log hr]
      rcases List.mem_append.mp hmem with hmem | hmem
      · exact ih hmem
      · rw [List.mem_singleton.mp hmem] at hr
        exact absurd rfl hr

/-- A resource that is released has been acquired. -/
theorem Proper.acquired (h : Proper log) {r : R} (hmem : release r ∈ log) : acquire r ∈ log := by
  have hcount := h.count_release r
  have hpositive := List.count_pos_iff.mpr hmem
  have hdead : life log r = .dead := by
    by_contra hne
    rw [if_neg hne] at hcount
    omega
  have hone := h.count_acquire r
  rw [hdead, if_neg (by decide)] at hone
  exact List.count_pos_iff.mp (by omega)

end Lifetime

/-! ## Holders -/

/-- Each resource that lives has one holder, and the others none. -/
structure Ledger {R : Type u} [DecidableEq R] {ι : Type v} (holder : ι → Option R)
    (log : List (LifeEvent R)) : Prop where
  proper : Proper log
  live_iff : ∀ r, life log r = .live ↔ ∃ i, holder i = some r
  unique : ∀ r i j, holder i = some r → holder j = some r → i = j

namespace Ledger

variable {R : Type u} [DecidableEq R] {ι : Type v} [DecidableEq ι] {holder : ι → Option R}
  {log : List (LifeEvent R)} {r : R} {i : ι}

/-- A fresh resource goes to a holder that has none. -/
theorem acquire (h : Ledger holder log) (hfree : holder i = none) (hfresh : life log r = .unborn) :
    Ledger (Function.update holder i (some r)) (log ++ [.acquire r]) := by
  have hnobody (j : ι) : holder j ≠ some r := by
    intro hj
    have hlive := (h.live_iff r).mpr ⟨j, hj⟩
    exact absurd (hfresh.symm.trans hlive) (by decide)
  refine ⟨h.proper.snoc hfresh, fun r' => ?_, fun r' j k hj hk => ?_⟩
  · by_cases hr : r = r'
    · subst hr
      exact iff_of_true (life_snoc_acquire log r) ⟨i, Function.update_self _ _ _⟩
    · rw [life_snoc_of_ne log (show (LifeEvent.acquire r).resource ≠ r' from hr), h.live_iff]
      constructor
      · rintro ⟨j, hj⟩
        have hji : j ≠ i := by
          rintro rfl
          exact absurd (hfree.symm.trans hj) nofun
        exact ⟨j, (Function.update_of_ne hji _ _).trans hj⟩
      · rintro ⟨j, hj⟩
        by_cases hji : j = i
        · rw [hji, Function.update_self] at hj
          exact absurd (Option.some.inj hj) hr
        · exact ⟨j, (Function.update_of_ne hji _ _).symm.trans hj⟩
  · by_cases hji : j = i
    · by_cases hki : k = i
      · rw [hji, hki]
      · rw [hji, Function.update_self] at hj
        rw [Function.update_of_ne hki, ← Option.some.inj hj] at hk
        exact absurd hk (hnobody k)
    · rw [Function.update_of_ne hji] at hj
      by_cases hki : k = i
      · rw [hki, Function.update_self] at hk
        rw [← Option.some.inj hk] at hj
        exact absurd hj (hnobody j)
      · rw [Function.update_of_ne hki] at hk
        exact h.unique r' j k hj hk

omit [DecidableEq ι] in
/-- A holder uses what it has. -/
theorem use (h : Ledger holder log) (hheld : holder i = some r) :
    Ledger holder (log ++ [.use r]) := by
  refine ⟨h.proper.snoc ((h.live_iff r).mpr ⟨i, hheld⟩), fun r' => ?_, h.unique⟩
  rw [life_snoc_use]
  exact h.live_iff r'

/-- A holder releases what it has. -/
theorem release (h : Ledger holder log) (hheld : holder i = some r) :
    Ledger (Function.update holder i none) (log ++ [.release r]) := by
  refine ⟨h.proper.snoc ((h.live_iff r).mpr ⟨i, hheld⟩), fun r' => ?_, fun r' j k hj hk => ?_⟩
  · by_cases hr : r = r'
    · subst hr
      refine iff_of_false (by rw [life_snoc_release]; decide) ?_
      rintro ⟨j, hj⟩
      by_cases hji : j = i
      · rw [hji, Function.update_self] at hj
        cases hj
      · rw [Function.update_of_ne hji] at hj
        exact hji (h.unique r j i hj hheld)
    · rw [life_snoc_of_ne log (show (LifeEvent.release r).resource ≠ r' from hr), h.live_iff]
      constructor
      · rintro ⟨j, hj⟩
        have hji : j ≠ i := by
          rintro rfl
          exact hr (Option.some.inj (hheld.symm.trans hj))
        exact ⟨j, (Function.update_of_ne hji _ _).trans hj⟩
      · rintro ⟨j, hj⟩
        by_cases hji : j = i
        · rw [hji, Function.update_self] at hj
          cases hj
        · exact ⟨j, (Function.update_of_ne hji _ _).symm.trans hj⟩
  · have hne (l : ι) (hl : Function.update holder i none l = some r') : l ≠ i := by
      rintro rfl
      rw [Function.update_self] at hl
      cases hl
    have hji := hne j hj
    have hki := hne k hk
    rw [Function.update_of_ne hji] at hj
    rw [Function.update_of_ne hki] at hk
    exact h.unique r' j k hj hk

omit [DecidableEq ι] in
/-- What was acquired is released once, or it is held and not released. -/
theorem count_release (h : Ledger holder log) (hmem : LifeEvent.acquire r ∈ log) :
    ((∃ i, holder i = some r) ∧ log.count (.release r) = 0) ∨
      (¬(∃ i, holder i = some r) ∧ log.count (.release r) = 1) := by
  have hborn : life log r ≠ .unborn := h.proper.born hmem
  rw [h.proper.count_release]
  by_cases hheld : ∃ i, holder i = some r
  · left
    rw [(h.live_iff r).mpr hheld]
    exact ⟨hheld, rfl⟩
  · right
    refine ⟨hheld, if_pos ?_⟩
    cases hlife : life log r with
    | unborn => exact absurd hlife hborn
    | live => exact absurd ((h.live_iff r).mp hlife) hheld
    | dead => rfl

/-- A holder gives up what it has, if anything. -/
theorem giveUp (h : Ledger holder log) (i : ι) :
    Ledger (Function.update holder i none) (log ++ (holder i).toList.map .release) := by
  cases hheld : holder i with
  | none =>
    have hsame : Function.update holder i none = holder := by
      rw [← hheld, Function.update_eq_self]
    rw [hsame]
    simpa using h
  | some r => exact h.release hheld

end Ledger

/-! ## Handles -/

/-- The books of resources that are numbered as they are acquired: a ledger, in which the numbers from
`next` on have not been given out. -/
structure Books {ι : Type v} (holder : ι → Option Nat) (log : List (LifeEvent Nat)) (next : Nat) :
    Prop where
  ledger : Ledger holder log
  fresh : ∀ r, next ≤ r → life log r = .unborn

namespace Books

variable {ι : Type v} [DecidableEq ι] {holder : ι → Option Nat} {log : List (LifeEvent Nat)}
  {next r : Nat} {i : ι}

omit [DecidableEq ι] in
theorem start : Books (fun _ : ι => none) [] 0 := by
  refine ⟨⟨.nil, fun r => iff_of_false Life.noConfusion ?_, ?_⟩, fun _ _ => rfl⟩
  · rintro ⟨i, hi⟩
    cases hi
  · intro r i j hi
    cases hi

/-- The next resource goes to a holder that has none. -/
theorem acquire (h : Books holder log next) (hfree : holder i = none) :
    Books (Function.update holder i (some next)) (log ++ [.acquire next]) (next + 1) := by
  refine ⟨h.ledger.acquire hfree (h.fresh next (Nat.le_refl _)), fun r hr => ?_⟩
  have hne : (LifeEvent.acquire next).resource ≠ r := by
    show next ≠ r
    omega
  exact (life_snoc_of_ne log hne).trans (h.fresh r (by omega))

omit [DecidableEq ι] in
theorem use (h : Books holder log next) (hheld : holder i = some r) :
    Books holder (log ++ [.use r]) next := by
  refine ⟨h.ledger.use hheld, fun r' hr' => ?_⟩
  rw [life_snoc_use]
  exact h.fresh r' hr'

omit [DecidableEq ι] in
/-- Holders use what they have, one thing after another. -/
theorem uses (h : Books holder log next) {rs : List Nat} (hheld : ∀ r ∈ rs, ∃ i, holder i = some r) :
    Books holder (log ++ rs.map .use) next := by
  induction rs generalizing log with
  | nil => simpa using h
  | cons r rs ih =>
    obtain ⟨i, hi⟩ := hheld r List.mem_cons_self
    have hrest := ih (h.use hi) fun r' hr' => hheld r' (List.mem_cons_of_mem _ hr')
    rwa [List.append_assoc] at hrest

theorem release (h : Books holder log next) (hheld : holder i = some r) :
    Books (Function.update holder i none) (log ++ [.release r]) next := by
  refine ⟨h.ledger.release hheld, fun r' hr' => ?_⟩
  have hlive : life log r = .live := (h.ledger.live_iff r).mpr ⟨i, hheld⟩
  have hne : (LifeEvent.release r).resource ≠ r' := by
    rintro rfl
    exact Life.noConfusion (hlive.symm.trans (h.fresh r hr'))
  exact (life_snoc_of_ne log hne).trans (h.fresh r' hr')

theorem giveUp (h : Books holder log next) (i : ι) :
    Books (Function.update holder i none) (log ++ (holder i).toList.map .release) next := by
  cases hheld : holder i with
  | none =>
    have hsame : Function.update holder i none = holder := by
      rw [← hheld, Function.update_eq_self]
    rw [hsame]
    simpa using h
  | some r => exact h.release hheld

omit [DecidableEq ι] in
/-- When nobody holds anything, all that was acquired has been released, once. -/
theorem count_release (h : Books (fun _ : ι => none) log next)
    (hmem : LifeEvent.acquire r ∈ log) : log.count (.release r) = 1 := by
  rcases h.ledger.count_release hmem with ⟨⟨i, hi⟩, -⟩ | ⟨-, hone⟩
  · cases hi
  · exact hone

end Books

/-! ## Sets of handles -/

/-- Each handle of a set holds itself. -/
def selfHeld (live : Finset Nat) (r : Nat) : Option Nat := if r ∈ live then some r else none

theorem selfHeld_of_mem {live : Finset Nat} {r : Nat} (hmem : r ∈ live) :
    selfHeld live r = some r :=
  if_pos hmem

theorem update_selfHeld_some (live : Finset Nat) (r : Nat) :
    Function.update (selfHeld live) r (some r) = selfHeld (insert r live) := by
  funext r'
  by_cases hsame : r' = r
  · subst hsame
    rw [Function.update_self, selfHeld_of_mem (Finset.mem_insert_self r' live)]
  · rw [Function.update_of_ne hsame]
    simp only [selfHeld, Finset.mem_insert, hsame, false_or]

theorem update_selfHeld_none {live : Finset Nat} {r : Nat} (hnot : r ∉ live) :
    Function.update (selfHeld (insert r live)) r none = selfHeld live := by
  funext r'
  by_cases hsame : r' = r
  · subst hsame
    rw [Function.update_self]
    exact (if_neg hnot).symm
  · rw [Function.update_of_ne hsame]
    simp only [selfHeld, Finset.mem_insert, hsame, false_or]

/-- The handles that live are those of a set. -/
def InHand (live : Finset Nat) (log : List (LifeEvent Nat)) (next : Nat) : Prop :=
  Books (selfHeld live) log next

namespace InHand

variable {live : Finset Nat} {log : List (LifeEvent Nat)} {next r : Nat}

theorem start : InHand ∅ [] 0 := Books.start

theorem next_notMem (h : InHand live log next) : next ∉ live := by
  intro hmem
  have hlive := (h.ledger.live_iff next).mpr ⟨next, selfHeld_of_mem hmem⟩
  exact Life.noConfusion (hlive.symm.trans (h.fresh next (Nat.le_refl _)))

theorem acquire (h : InHand live log next) :
    InHand (insert next live) (log ++ [.acquire next]) (next + 1) := by
  have hbooks := Books.acquire h (i := next) (if_neg h.next_notMem)
  rwa [update_selfHeld_some] at hbooks

theorem use (h : InHand live log next) (hmem : r ∈ live) : InHand live (log ++ [.use r]) next :=
  Books.use h (selfHeld_of_mem hmem)

theorem release (h : InHand (insert r live) log next) (hnot : r ∉ live) :
    InHand live (log ++ [.release r]) next := by
  have hbooks := Books.release h (selfHeld_of_mem (Finset.mem_insert_self r live))
  rwa [update_selfHeld_none hnot] at hbooks

/-- When nothing is in hand, all that was acquired was acquired once, and released once. -/
theorem counts (h : InHand ∅ log next) (hmem : LifeEvent.acquire r ∈ log) :
    log.count (.acquire r) = 1 ∧ log.count (.release r) = 1 := by
  refine ⟨?_, Books.count_release h hmem⟩
  rw [h.ledger.proper.count_acquire]
  exact if_neg (h.ledger.proper.born hmem)

end InHand

end DualBoy.Lib
