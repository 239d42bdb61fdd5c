import Mathlib.Algebra.Order.Ring.Int
import Mathlib.Data.List.Basic

/-!
# Sequences of calls that can fail

A call changes a state and says whether it failed, with an error. A sequence of calls is made either
until one fails or to its end whatever fails; both keep the list of calls made with their outcomes.
The rules say what the list looks like, and what holds after a sequence in which every call
succeeded: each call's own effect, if no other call of the sequence undoes it.
-/

namespace DualBoy.Lib

universe u v w

variable {S : Type u} {C : Type v} {E : Type w} (perform : C → S → S × Option E)

/-- The calls in order, up to and including the first that fails. -/
def untilFailure : List C → S → S × List (C × Option E)
  | [], s => (s, [])
  | c :: cs, s =>
    match perform c s with
    | (s, some e) => (s, [(c, some e)])
    | (s, none) =>
      let (s, done) := untilFailure cs s
      (s, (c, none) :: done)

/-- All the calls in order. -/
def attemptAll : List C → S → S × List (C × Option E)
  | [], s => (s, [])
  | c :: cs, s =>
    let (s, outcome) := perform c s
    let (s, done) := attemptAll cs s
    (s, (c, outcome) :: done)

/-- The error of the first call that failed. -/
def firstError (done : List (C × Option E)) : Option E :=
  done.findSome? Prod.snd

/-- What is done of `cs` when one of them fails: those before it succeeded. -/
def FailedIn (cs : List C) (done : List (C × Option E)) : Prop :=
  ∃ before c after e, cs = before ++ c :: after ∧
    done = before.map (fun c => (c, none)) ++ [(c, some e)]

theorem firstError_eq_none {done : List (C × Option E)} :
    firstError done = none ↔ ∀ call ∈ done, call.2 = none := by
  simp [firstError, List.findSome?_eq_none_iff]

theorem firstError_cons {call : C × Option E} {done : List (C × Option E)} :
    firstError (call :: done) = none ↔ call.2 = none ∧ firstError done = none := by
  simp [firstError_eq_none]

theorem FailedIn.firstError {cs : List C} {done : List (C × Option E)} (h : FailedIn cs done) :
    ∃ e, firstError done = some e := by
  obtain ⟨before, c, after, e, -, rfl⟩ := h
  cases he : Lib.firstError (before.map (fun c => (c, (none : Option E))) ++ [(c, some e)]) with
  | some e => exact ⟨e, rfl⟩
  | none =>
    have := firstError_eq_none.mp he (c, some e) (by simp)
    simp at this

/-- Either every call succeeded, or the sequence ended with one that failed. -/
theorem untilFailure_done : ∀ (cs : List C) (s : S),
    (untilFailure perform cs s).2 = cs.map (fun c => (c, none)) ∨
      FailedIn cs (untilFailure perform cs s).2
  | [], _ => Or.inl rfl
  | c :: cs, s => by
    unfold untilFailure
    cases hc : perform c s with
    | mk s' outcome =>
      cases outcome with
      | some e => exact Or.inr ⟨[], c, cs, e, rfl, rfl⟩
      | none =>
        rcases untilFailure_done cs s' with h | ⟨before, c', after, e, rfl, h⟩
        · exact Or.inl (by simp [h])
        · exact Or.inr ⟨c :: before, c', after, e, rfl, by simp [h]⟩

theorem map_fst_attemptAll : ∀ (cs : List C) (s : S),
    (attemptAll perform cs s).2.map Prod.fst = cs
  | [], _ => rfl
  | c :: cs, s => congrArg (c :: ·) (map_fst_attemptAll cs (perform c s).1)

variable {perform}

/-- What one call keeps, and one of the calls establishes, holds once all have succeeded. -/
theorem attemptAll_keeps {p : S → Prop} :
    ∀ {cs : List C} {s : S}, (∀ c ∈ cs, ∀ s s', perform c s = (s', none) → p s → p s') →
      firstError (attemptAll perform cs s).2 = none → p s → p (attemptAll perform cs s).1
  | [], _, _, _, h => h
  | c :: cs, s, hkeep, hnone, h => by
    obtain ⟨hc, hrest⟩ := firstError_cons.mp hnone
    change p (attemptAll perform cs (perform c s).1).1
    refine attemptAll_keeps (fun c' hc' => hkeep c' (List.mem_cons_of_mem _ hc')) hrest ?_
    exact hkeep c List.mem_cons_self s _ (Prod.ext_iff.mpr ⟨rfl, hc⟩) h

/-- **What a call establishes and every call keeps holds once all have succeeded.** -/
theorem attemptAll_establishes {p : S → Prop} {c : C} :
    ∀ {cs : List C} {s : S}, c ∈ cs → (∀ s s', perform c s = (s', none) → p s') →
      (∀ c ∈ cs, ∀ s s', perform c s = (s', none) → p s → p s') →
      firstError (attemptAll perform cs s).2 = none → p (attemptAll perform cs s).1
  | [], _, hmem, _, _, _ => by simp at hmem
  | d :: cs, s, hmem, hpost, hkeep, hnone => by
    have hkeep' : ∀ c ∈ cs, ∀ s s', perform c s = (s', none) → p s → p s' :=
      fun c' hc' => hkeep c' (List.mem_cons_of_mem _ hc')
    obtain ⟨hd, hrest⟩ := firstError_cons.mp hnone
    change p (attemptAll perform cs (perform d s).1).1
    rcases List.mem_cons.mp hmem with rfl | hmem
    · exact attemptAll_keeps hkeep' hrest (hpost s _ (Prod.ext_iff.mpr ⟨rfl, hd⟩))
    · exact attemptAll_establishes hmem hpost hkeep' hrest

/-! ## What a sequence has done -/

/-- The calls, one after the other, lead from `s` to `s'` and every one of them succeeds. -/
inductive Performed (perform : C → S → S × Option E) : List C → S → S → Prop
  | nil (s : S) : Performed perform [] s s
  | cons {c : C} {cs : List C} {s s₁ s' : S} (hc : perform c s = (s₁, none))
      (hcs : Performed perform cs s₁ s') : Performed perform (c :: cs) s s'

variable (perform) in
/-- **A sequence either performs every call, or performs those before the first that fails.** -/
theorem untilFailure_cases : ∀ (cs : List C) (s : S),
    (firstError (untilFailure perform cs s).2 = none ∧
      Performed perform cs s (untilFailure perform cs s).1) ∨
    ∃ before c after s₁ e, cs = before ++ c :: after ∧ Performed perform before s s₁ ∧
      perform c s₁ = ((untilFailure perform cs s).1, some e) ∧
      firstError (untilFailure perform cs s).2 = some e
  | [], s => Or.inl ⟨rfl, .nil s⟩
  | c :: cs, s => by
    unfold untilFailure
    cases hc : perform c s with
    | mk s₁ outcome =>
      cases outcome with
      | some e => exact Or.inr ⟨[], c, cs, s, e, rfl, .nil s, hc, rfl⟩
      | none =>
        rcases untilFailure_cases cs s₁ with ⟨hnone, hdone⟩ |
          ⟨before, c', after, s₂, e, rfl, hdone, hfailed, herror⟩
        · exact Or.inl ⟨firstError_cons.mpr ⟨rfl, hnone⟩, .cons hc hdone⟩
        · refine Or.inr ⟨c :: before, c', after, s₂, e, rfl, .cons hc hdone, hfailed, ?_⟩
          exact herror

theorem Performed.append {before after : List C} {s s₁ s' : S} (h : Performed perform before s s₁)
    (h' : Performed perform after s₁ s') : Performed perform (before ++ after) s s' := by
  induction h with
  | nil s => exact h'
  | cons hc _ ih => exact .cons hc (ih h')

/-- After calls that succeed, a sequence goes on as it would have begun. -/
theorem untilFailure_append {before : List C} {s s₁ : S} (h : Performed perform before s s₁)
    (after : List C) :
    (untilFailure perform (before ++ after) s).1 = (untilFailure perform after s₁).1 ∧
      firstError (untilFailure perform (before ++ after) s).2 =
        firstError (untilFailure perform after s₁).2 := by
  induction h with
  | nil s => exact ⟨rfl, rfl⟩
  | cons hc _ ih =>
    rw [List.cons_append, untilFailure.eq_def perform (_ :: _)]
    dsimp only
    rw [hc]
    exact ih

/-- **The invariant rule**: what holds with all the calls ahead, and every call hands on to the calls
after it, holds with the rest ahead. -/
theorem Performed.invariant {cs : List C} {s s' : S} (h : Performed perform cs s s')
    (inv : List C → S → Prop) (rest : List C)
    (hstep : ∀ c cs s s', inv (c :: cs) s → perform c s = (s', none) → inv cs s')
    (hs : inv (cs ++ rest) s) : inv rest s' := by
  induction h with
  | nil s => exact hs
  | cons hc _ ih => exact ih (hstep _ _ _ _ hs hc)

/-- Calls that cannot fail under an invariant are all performed. -/
theorem performed_of_invariant (inv : List C → S → Prop) (rest : List C) :
    ∀ {cs : List C} {s : S}, (∀ c ∈ cs, ∀ cs s, inv (c :: cs) s →
        ∃ s', perform c s = (s', none) ∧ inv cs s') →
      inv (cs ++ rest) s → ∃ s', Performed perform cs s s'
  | [], s, _, _ => ⟨s, .nil s⟩
  | c :: cs, s, hstep, hs => by
    obtain ⟨s₁, hc, hs₁⟩ := hstep c List.mem_cons_self (cs ++ rest) s hs
    obtain ⟨s', hs'⟩ := performed_of_invariant inv rest
      (fun c' hc' => hstep c' (List.mem_cons_of_mem _ hc')) hs₁
    exact ⟨s', .cons hc hs'⟩

/-- What every call keeps, failed or not, a sequence keeps. -/
theorem untilFailure_keeps {p : S → Prop} : ∀ {cs : List C} {s : S},
    (∀ c ∈ cs, ∀ s, p s → p (perform c s).1) → p s → p (untilFailure perform cs s).1
  | [], _, _, h => h
  | c :: cs, s, hkeep, h => by
    have hc := hkeep c List.mem_cons_self s h
    unfold untilFailure
    cases hresult : perform c s with
    | mk s₁ outcome =>
      rw [hresult] at hc
      cases outcome with
      | some e => exact hc
      | none => exact untilFailure_keeps (fun d hd => hkeep d (List.mem_cons_of_mem _ hd)) hc

/-- What every call keeps, failed or not, a sequence of all the calls keeps. -/
theorem attemptAll_always {p : S → Prop} : ∀ {cs : List C} {s : S},
    (∀ c ∈ cs, ∀ s, p s → p (perform c s).1) → p s → p (attemptAll perform cs s).1
  | [], _, _, h => h
  | c :: cs, s, hkeep, h => by
    change p (attemptAll perform cs (perform c s).1).1
    refine attemptAll_always (fun d hd => hkeep d (List.mem_cons_of_mem _ hd)) ?_
    exact hkeep c List.mem_cons_self s h

/-- What every call that was made keeps, failed or not. -/
theorem untilFailure_made {p : S → Prop} : ∀ {cs : List C} {s : S},
    (∀ c ∈ (untilFailure perform cs s).2.map Prod.fst, ∀ s, p s → p (perform c s).1) →
      p s → p (untilFailure perform cs s).1
  | [], _, _, h => h
  | c :: cs, s, hkeep, h => by
    unfold untilFailure at hkeep ⊢
    cases hresult : perform c s with
    | mk s₁ outcome =>
      rw [hresult] at hkeep
      have hc : p s₁ := by
        have hc := hkeep c (by cases outcome <;> exact List.mem_cons_self) s h
        rwa [hresult] at hc
      cases outcome with
      | some e => exact hc
      | none => exact untilFailure_made (fun d hd => hkeep d (List.mem_cons_of_mem _ hd)) hc

/-- **What a call establishes and every call keeps holds if the call succeeded**, whatever became of
those behind it. -/
theorem untilFailure_succeeded {p : S → Prop} {c : C} : ∀ {cs : List C} {s : S},
    (c, none) ∈ (untilFailure perform cs s).2 → (∀ s s', perform c s = (s', none) → p s') →
      (∀ d ∈ cs, ∀ s, p s → p (perform d s).1) → p (untilFailure perform cs s).1
  | [], _, hmem, _, _ => absurd hmem (List.not_mem_nil)
  | d :: cs, s, hmem, hpost, hkeep => by
    have hkeep' : ∀ d' ∈ cs, ∀ s, p s → p (perform d' s).1 :=
      fun d' hd' => hkeep d' (List.mem_cons_of_mem _ hd')
    unfold untilFailure at hmem ⊢
    cases hresult : perform d s with
    | mk s₁ outcome =>
      rw [hresult] at hmem
      cases outcome with
      | some e =>
        have hnone := congrArg Prod.snd (List.mem_singleton.mp hmem)
        cases hnone
      | none =>
        rcases List.mem_cons.mp hmem with heq | hrest
        · obtain rfl : c = d := congrArg Prod.fst heq
          exact untilFailure_keeps hkeep' (hpost s s₁ hresult)
        · exact untilFailure_succeeded hrest hpost hkeep'

/-- What the first call establishes, failed or not, and every other call keeps. -/
theorem untilFailure_establishes {p : S → Prop} {c : C} {cs : List C} {s : S}
    (hc : p (perform c s).1) (hkeep : ∀ d ∈ cs, ∀ s, p s → p (perform d s).1) :
    p (untilFailure perform (c :: cs) s).1 := by
  unfold untilFailure
  cases hresult : perform c s with
  | mk s₁ outcome =>
    rw [hresult] at hc
    cases outcome with
    | some e => exact hc
    | none => exact untilFailure_keeps hkeep hc

/-- What holds at first, and of every call's result where it holds before, holds at the end. Before a
call those that precede it are performed. -/
theorem untilFailure_reached {p : S → Prop} : ∀ {cs : List C} {s : S},
    (∀ before c after s₁, cs = before ++ c :: after → Performed perform before s s₁ → p s₁ →
      p (perform c s₁).1) → p s → p (untilFailure perform cs s).1
  | [], _, _, h => h
  | c :: cs, s, hstep, h => by
    have hc := hstep [] c cs s rfl (.nil s) h
    unfold untilFailure
    cases hresult : perform c s with
    | mk s₁ outcome =>
      rw [hresult] at hc
      cases outcome with
      | some e => exact hc
      | none =>
        refine untilFailure_reached (fun before d after s₂ hcs hdone hs => ?_) hc
        exact hstep (c :: before) d after s₂ (congrArg (c :: ·) hcs) (.cons hresult hdone) hs

/-- **The invariant rule for calls that may fail**: what holds with all the calls ahead, and a call that
succeeds hands on to the calls after it, holds with none ahead, unless a call failed and left what a
failure leaves. -/
theorem untilFailure_rest (inv : List C → S → Prop) {failed : S → Prop}
    (hstep : ∀ c cs s, inv (c :: cs) s →
      ((perform c s).2 = none ∧ inv cs (perform c s).1) ∨
        ((perform c s).2 ≠ none ∧ failed (perform c s).1)) :
    ∀ {cs : List C} {s : S}, inv cs s →
      (firstError (untilFailure perform cs s).2 = none ∧ inv [] (untilFailure perform cs s).1) ∨
        (firstError (untilFailure perform cs s).2 ≠ none ∧ failed (untilFailure perform cs s).1)
  | [], _, h => Or.inl ⟨rfl, h⟩
  | c :: cs, s, h => by
    have hc := hstep c cs s h
    unfold untilFailure
    cases hresult : perform c s with
    | mk s₁ outcome =>
      rw [hresult] at hc
      cases outcome with
      | some e =>
        obtain ⟨hnone, -⟩ | ⟨-, hfailed⟩ := hc
        · cases hnone
        · exact Or.inr ⟨Option.some_ne_none e, hfailed⟩
      | none =>
        obtain ⟨-, hrest⟩ | ⟨hsome, -⟩ := hc
        · rcases untilFailure_rest inv hstep hrest with ⟨hnone, hend⟩ | ⟨hsome, hfailed⟩
          · exact Or.inl ⟨firstError_cons.mpr ⟨rfl, hnone⟩, hend⟩
          · exact Or.inr ⟨fun hnone => hsome (firstError_cons.mp hnone).2, hfailed⟩
        · exact absurd rfl hsome

/-- **Two sequences of the same calls** end in related states if every call either succeeds on both
sides or fails on both. -/
theorem untilFailure_both {T : Type u} {perform' : C → T → T × Option E}
    (rel : List C → S → T → Prop) (final : S → T → Prop) (hnil : ∀ s t, rel [] s t → final s t)
    (hstep : ∀ c cs s t, rel (c :: cs) s t →
      (∃ s' t', perform c s = (s', none) ∧ perform' c t = (t', none) ∧ rel cs s' t') ∨
        ∃ s' t' e e', perform c s = (s', some e) ∧ perform' c t = (t', some e') ∧ final s' t') :
    ∀ {cs : List C} {s : S} {t : T}, rel cs s t →
      final (untilFailure perform cs s).1 (untilFailure perform' cs t).1
  | [], _, _, h => hnil _ _ h
  | c :: cs, s, t, h => by
    unfold untilFailure
    rcases hstep c cs s t h with ⟨s', t', hs, ht, hrel⟩ | ⟨s', t', e, e', hs, ht, hfinal⟩
    · rw [hs, ht]
      exact untilFailure_both rel final hnil hstep hrel
    · rw [hs, ht]
      exact hfinal

/-- **The simulation rule**: what holds of two states, and the same call made on both hands on, holds
after two sequences of the same calls that succeed. -/
theorem Performed.both {T : Type u} {perform' : C → T → T × Option E} {cs : List C} {s s' : S}
    {t t' : T} (h : Performed perform cs s s') (h' : Performed perform' cs t t')
    (rel : List C → S → T → Prop) (rest : List C)
    (hstep : ∀ c cs s s' t t', rel (c :: cs) s t → perform c s = (s', none) →
      perform' c t = (t', none) → rel cs s' t')
    (hs : rel (cs ++ rest) s t) : rel rest s' t' := by
  induction h generalizing t with
  | nil s =>
    cases h' with
    | nil t => exact hs
  | cons hc _ ih =>
    cases h' with
    | cons hc' hcs' => exact ih hcs' (hstep _ _ _ _ _ _ hs hc hc')

/-- The same where the calls on one state succeed because they do on the other. -/
theorem Performed.follow {T : Type u} {perform' : C → T → T × Option E} {cs : List C} {s s' : S}
    {t : T} (h : Performed perform cs s s') (rel : List C → S → T → Prop) (rest : List C)
    (hstep : ∀ c cs s s' t, rel (c :: cs) s t → perform c s = (s', none) →
      ∃ t', perform' c t = (t', none) ∧ rel cs s' t')
    (hs : rel (cs ++ rest) s t) : ∃ t', Performed perform' cs t t' ∧ rel rest s' t' := by
  induction h generalizing t with
  | nil s => exact ⟨t, .nil t, hs⟩
  | cons hc _ ih =>
    obtain ⟨t₁, hc', hrel⟩ := hstep _ _ _ _ _ hs hc
    obtain ⟨t', hcs', hrel'⟩ := ih hrel
    exact ⟨t', .cons hc' hcs', hrel'⟩

/-! ## Results -/

/-- A computation succeeds when its first part does and the rest does on what that yields. -/
theorem bind_eq_ok {α β : Type u} {x : Except E α} {f : α → Except E β} {b : β} :
    (x >>= f) = .ok b ↔ ∃ a, x = .ok a ∧ f a = .ok b := by
  cases x with
  | error e => simp [bind, Except.bind]
  | ok a => simp [bind, Except.bind]

end DualBoy.Lib
