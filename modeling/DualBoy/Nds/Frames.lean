import DualBoy.Nds.Standing

/-!
# Frames, deadlines and shutdown

* `frame_barrier`: `RunFrame` waits for both workers, each of them executes every frame once, no
  call takes effect meanwhile, a deadline retires the pair for good, and a shutdown ends.
-/

namespace DualBoy.Nds

open DualBoy.Lib

namespace Pair

variable {s s' : Pair} {w : Fin 2} {x : Worker}

/-! ## After a deadline -/

/-- The pair takes no more frames and calls. -/
def Retired (s : Pair) : Prop :=
  s.frameState = .deadlineExceeded ∨ s.frameState = .poisoned ∨ s.frameState = .shuttingDown

/-- No frame is dispatched, and nothing a call could change is changed. -/
structure Unchanged (s s' : Pair) : Prop where
  dispatched : s'.dispatched = s.dispatched
  input : s'.input = s.input
  resets : s'.resets = s.resets
  renderer : s'.videoRenderer = s.videoRenderer

theorem Unchanged.trans {s₁ s₂ s₃ : Pair} (h : Unchanged s₁ s₂) (h' : Unchanged s₂ s₃) :
    Unchanged s₁ s₃ :=
  ⟨h'.dispatched.trans h.dispatched, h'.input.trans h.input, h'.resets.trans h.resets,
    h'.renderer.trans h.renderer⟩

/-- A frame state other than `Idle` turns calls away. -/
theorem call_of_not_idle (h : s.frameState ≠ .idle) (c : Call) : s.call c = s :=
  if_pos h

theorem Retired.not_idle (h : s.Retired) : s.frameState ≠ .idle := by
  rcases h with h | h | h <;> rw [h] <;> nofun

/-- `RunFrame` of a retired pair fails at once. -/
theorem Retired.runFrame (h : s.Retired) (loaded : Bool) :
    ∃ error, s.runFrame loaded = s.return_ (.error error) := by
  unfold Pair.runFrame
  split_ifs with hloaded hpoisoned hbusy
  · exact ⟨_, rfl⟩
  · exact ⟨_, rfl⟩
  · exact ⟨_, rfl⟩
  · exact absurd (not_not.mp hbusy) h.not_idle

theorem Retired.goOn (hinv : s.Inv) (h : s.Retired) (hs : s.goOn = some s') :
    s'.Retired ∧ Unchanged s s' := by
  have hstate := hinv.state
  unfold Pair.goOn at hs
  cases hm : s.main with
  | awake =>
    rw [hm] at hstate
    rcases h with h | h | h <;> rw [h] at hstate <;> cases hstate
  | lateAwake =>
    rw [hm] at hs
    obtain rfl := Option.some.inj hs
    unfold awaitLate
    split
    · exact ⟨Or.inr (Or.inl rfl), rfl, rfl, rfl, rfl⟩
    · exact ⟨h, rfl, rfl, rfl, rfl⟩
  | notifying | unlinking | shutdownStart | shutdownState =>
    rw [hm] at hs
    obtain rfl := Option.some.inj hs
    exact ⟨h, rfl, rfl, rfl, rfl⟩
  | joining =>
    rw [hm] at hs
    dsimp only at hs
    split_ifs at hs
    obtain rfl := Option.some.inj hs
    exact ⟨h, rfl, rfl, rfl, rfl⟩
  | idle | validating | rendering | asleep | lateAsleep | finished =>
    rw [hm] at hs
    cases hs

/-- What a worker's step leaves alone. -/
theorem goOnWorker_keeps (hs : s.goOnWorker w = some s') :
    s'.frameState = s.frameState ∧ Unchanged s s' := by
  unfold Pair.goOnWorker at hs
  split at hs
  · obtain rfl := Option.some.inj hs
    unfold Pair.observe
    split_ifs <;> exact ⟨rfl, rfl, rfl, rfl, rfl⟩
  · obtain rfl := Option.some.inj hs
    unfold Pair.observeHold
    split_ifs <;> exact ⟨rfl, rfl, rfl, rfl, rfl⟩
  · obtain rfl := Option.some.inj hs
    exact ⟨rfl, rfl, rfl, rfl, rfl⟩
  · obtain rfl := Option.some.inj hs
    exact ⟨rfl, rfl, rfl, rfl, rfl⟩
  · obtain rfl := Option.some.inj hs
    unfold Pair.notifyDone
    split <;> exact ⟨rfl, rfl, rfl, rfl, rfl⟩
  · cases hs

/-- **A retired pair stays so**, and nothing is done with it. -/
theorem Retired.act (hinv : s.Inv) (h : s.Retired) {a : Action} (hs : s.act a = some s') :
    s'.Retired ∧ Unchanged s s' := by
  have hstate := hinv.state
  unfold Pair.act at hs
  cases a with
  | call c =>
    dsimp only at hs
    split_ifs at hs
    rw [call_of_not_idle h.not_idle] at hs
    obtain rfl := Option.some.inj hs
    exact ⟨h, rfl, rfl, rfl, rfl⟩
  | setLink enabled =>
    dsimp only at hs
    split_ifs at hs
    obtain rfl := Option.some.inj hs
    unfold Pair.setLink
    split <;> exact ⟨h, rfl, rfl, rfl, rfl⟩
  | runFrame loaded =>
    dsimp only at hs
    split_ifs at hs
    obtain ⟨error, herror⟩ := h.runFrame loaded
    rw [herror] at hs
    obtain rfl := Option.some.inj hs
    exact ⟨h, rfl, rfl, rfl, rfl⟩
  | validate changed =>
    dsimp only at hs
    split_ifs at hs with hm
    rw [hm] at hstate
    exact absurd hstate h.not_idle
  | endOpenGLFrame success expired =>
    dsimp only at hs
    split_ifs at hs with hm
    rw [hm] at hstate
    rcases h with h | h | h <;> rw [h] at hstate <;> cases hstate
  | expire =>
    dsimp only at hs
    split_ifs at hs with hm
    rw [hm] at hstate
    rcases h with h | h | h <;> rw [h] at hstate <;> cases hstate
  | shutdown =>
    dsimp only at hs
    split_ifs at hs
    obtain rfl := Option.some.inj hs
    unfold Pair.shutdown
    dsimp only
    split <;> rename_i hshut
    · exact ⟨Or.inr (Or.inr rfl), rfl, rfl, rfl, rfl⟩
    · exact ⟨h, rfl, rfl, rfl, rfl⟩
  | goOn t =>
    cases t with
    | main => exact h.goOn hinv hs
    | worker w =>
      obtain ⟨hsame, hunchanged⟩ := goOnWorker_keeps hs
      refine ⟨?_, hunchanged⟩
      unfold Retired
      rw [hsame]
      exact h
  | finish w success =>
    dsimp only at hs
    split at hs <;> cases hs
    exact ⟨h, rfl, rfl, rfl, rfl⟩
  | wake t =>
    cases t with
    | main =>
      have hwakes : s.notifyDone.Retired ∧ Unchanged s s.notifyDone := by
        unfold Pair.notifyDone
        split <;> exact ⟨h, rfl, rfl, rfl, rfl⟩
      dsimp only at hs
      split at hs <;> cases hs
      · exact hwakes
      · exact hwakes
    | worker w =>
      dsimp only at hs
      split at hs <;> cases hs
      · exact ⟨h, rfl, rfl, rfl, rfl⟩
      · exact ⟨h, rfl, rfl, rfl, rfl⟩
  | holdNextFrame w | releaseFrameHold w | notifyState =>
    dsimp only at hs
    split_ifs at hs
    obtain rfl := Option.some.inj hs
    exact ⟨h, rfl, rfl, rfl, rfl⟩

/-- A later state of a retired pair. -/
structure Since (s t : Pair) : Prop where
  inv : t.Inv
  retired : t.Retired
  unchanged : Unchanged s t

theorem Since.step {t : Pair} (h : Since s t) (a : Action) : Since s (t.step a) := by
  have hinv := h.inv.step a
  unfold Pair.step at hinv ⊢
  cases ha : t.act a with
  | none => exact h
  | some t' =>
    rw [ha] at hinv
    obtain ⟨hretired, hunchanged⟩ := h.retired.act h.inv ha
    exact ⟨hinv, hretired, h.unchanged.trans hunchanged⟩

/-- Of a retired pair every later state is retired, with the same frames, inputs, resets and
renderer. -/
theorem Retired.run (hinv : s.Inv) (h : s.Retired) (actions : List Action) :
    Since s (run Pair.step s actions) := by
  have hkeeps : ∀ (actions : List Action) {t : Pair}, Since s t →
      Since s (Lib.run Pair.step t actions) :=
    run_invariant fun _ a ht => Since.step ht a
  exact hkeeps actions ⟨hinv, h, rfl, rfl, rfl, rfl⟩

/-! ## Shutdown -/

/-- Nobody sleeps on `start_cv` any more. -/
def Woken (s : Pair) : Prop :=
  s.main ≠ .shutdownStart → ∀ w, (s.worker w).point ≠ .asleep

/-- A pair that is being shut down, in a state it comes to. -/
structure Closing (s : Pair) : Prop where
  inv : s.Inv
  phase : s.main.phase = .closing
  woken : s.Woken

theorem Closing.ended (h : s.Closing) (w : Fin 2) : (s.worker w).Ended s.dispatched := by
  have hworkers := h.inv.workers
  rw [h.phase] at hworkers
  exact hworkers w

theorem Closing.shuttingDown (h : s.Closing) : s.frameState = .shuttingDown :=
  h.inv.shuttingDown_iff.mpr h.phase

/-- How many steps a worker that has no frame to do is from its end. -/
def toExit (w : Worker) : Nat :=
  (match w.point with
    | .awake => 1
    | .asleep | .notifying => 2
    | _ => 0) +
  if w.holdNextFrame ∨ w.frameHeld then 1 else 0

/-- How many steps are left of a shutdown. -/
def toGo (s : Pair) : Nat :=
  (match s.main with
    | .shutdownStart => 3
    | .shutdownState => 2
    | .joining => 1
    | _ => 0) + toExit (s.worker 0) + toExit (s.worker 1)

theorem toGo_withWorker_lt (h : toExit x < toExit (s.worker w)) :
    (s.withWorker w x).toGo < s.toGo := by
  match w with
  | 0 => simp only [toGo, withWorker]; simpa using h
  | 1 => simp only [toGo, withWorker]; simpa using h

theorem Woken.withWorker (h : s.Woken) (hx : x.point ≠ .asleep) : (s.withWorker w x).Woken := by
  intro hmain v
  simp only [Pair.withWorker]
  split
  · exact hx
  · exact h hmain v

/-- A worker moves on in a shutdown. -/
theorem Closing.of_worker (h : s.Closing) (hinv : (s.withWorker w x).Inv)
    (hx : x.point ≠ .asleep) (hless : toExit x < toExit (s.worker w)) :
    (s.withWorker w x).Closing ∧ (s.withWorker w x).toGo < s.toGo :=
  ⟨⟨hinv, h.phase, h.woken.withWorker hx⟩, toGo_withWorker_lt hless⟩

theorem toExit_notifiedStart (v : Worker) : toExit v.notifiedStart ≤ toExit v := by
  unfold Worker.notifiedStart
  split
  · rename_i hasleep
    simp [toExit, hasleep]
  · exact Nat.le_refl _

theorem notifiedStart_point (v : Worker) : v.notifiedStart.point ≠ .asleep := by
  unfold Worker.notifiedStart
  split
  · nofun
  · assumption

/-- Of the workers that have ended none is held. -/
theorem Closing.notifyState_eq (h : s.Closing) : s.notifyState = s := by
  have hsame (w : Fin 2) : (s.worker w).notifiedState = s.worker w := by
    unfold Worker.notifiedState
    split
    · rename_i hheld
      exact not_ended (h.ended w) (by rw [hheld]; exact id) (by rw [hheld]; nofun)
    · rfl
  unfold notifyState
  simp only [hsame]

/-- **Every step of a shutdown brings it nearer to its end.** -/
theorem Closing.act (h : s.Closing) {a : Action} (hs : s.act a = some s') :
    s'.Closing ∧ s'.toGo < s.toGo := by
  have hinv := h.inv.act hs
  have hphase := h.phase
  have hshut := h.shuttingDown
  unfold Pair.act at hs
  cases a with
  | call c | setLink enabled | runFrame loaded | validate changed
  | endOpenGLFrame success expired | expire | shutdown =>
    dsimp only at hs
    split_ifs at hs with hm
    rw [hm] at hphase
    cases hphase
  | goOn t =>
    cases t with
    | main =>
      dsimp only at hs
      unfold Pair.goOn at hs
      cases hm : s.main with
      | shutdownStart =>
        rw [hm] at hs
        obtain rfl := Option.some.inj hs
        refine ⟨⟨hinv, rfl, fun _ w => notifiedStart_point _⟩, ?_⟩
        have h0 := toExit_notifiedStart (s.worker 0)
        have h1 := toExit_notifiedStart (s.worker 1)
        simp only [toGo, notifyStart, withMain, hm]
        omega
      | shutdownState =>
        rw [hm, h.notifyState_eq] at hs
        obtain rfl := Option.some.inj hs
        refine ⟨⟨hinv, rfl, fun _ => h.woken (by rw [hm]; nofun)⟩, ?_⟩
        simp only [toGo, withMain, hm]
        omega
      | joining =>
        rw [hm] at hs
        dsimp only at hs
        split_ifs at hs
        obtain rfl := Option.some.inj hs
        refine ⟨⟨hinv, rfl, fun _ => h.woken (by rw [hm]; nofun)⟩, ?_⟩
        simp only [toGo, withMain, hm]
        omega
      | finished =>
        rw [hm] at hs
        cases hs
      | idle | validating | rendering | notifying | awake | asleep | lateAwake | lateAsleep
      | unlinking =>
        rw [hm] at hphase
        cases hphase
    | worker w =>
      have hended := h.ended w
      have hnotify : s.notifyDone = s := by
        unfold Pair.notifyDone
        split
        · rename_i hm
          rw [hm] at hphase
          cases hphase
        · rename_i hm
          rw [hm] at hphase
          cases hphase
        · rfl
      dsimp only at hs
      unfold Pair.goOnWorker at hs
      cases hp : (s.worker w).point with
      | awake =>
        rw [hp] at hs
        obtain rfl := Option.some.inj hs
        unfold Pair.observe at hinv ⊢
        rw [if_pos hshut] at hinv ⊢
        exact h.of_worker hinv nofun (by simp [toExit, hp])
      | notifying =>
        rw [hp, hnotify] at hs
        obtain rfl := Option.some.inj hs
        exact h.of_worker hinv nofun (by simp [toExit, hp])
      | heldAwake | starting | completing =>
        exact not_ended hended (by rw [hp]; exact id) (by rw [hp]; nofun)
      | asleep | heldAsleep | executing | exited =>
        rw [hp] at hs
        cases hs
  | finish w success =>
    dsimp only at hs
    split at hs
    · rename_i hp
      exact not_ended (h.ended w) (by rw [hp]; exact id) (by rw [hp]; nofun)
    · cases hs
  | wake t =>
    cases t with
    | main =>
      dsimp only at hs
      split at hs <;> rename_i hm
      · rw [hm] at hphase
        cases hphase
      · rw [hm] at hphase
        cases hphase
      · cases hs
    | worker w =>
      dsimp only at hs
      split at hs <;> rename_i hp
      · obtain rfl := Option.some.inj hs
        exact h.of_worker hinv nofun (by simp [toExit, hp])
      · exact not_ended (h.ended w) (by rw [hp]; exact id) (by rw [hp]; nofun)
      · cases hs
  | holdNextFrame w =>
    dsimp only at hs
    split_ifs at hs with hidle
    rw [hshut] at hidle
    exact nomatch hidle.1
  | releaseFrameHold w =>
    dsimp only at hs
    split_ifs at hs with hflags
    obtain rfl := Option.some.inj hs
    refine ⟨⟨hinv, hphase, fun hmain v => ?_⟩, toGo_withWorker_lt ?_⟩
    · have hv := h.woken hmain
      simp only [Pair.withWorker]
      split
      · exact hv w
      · exact hv v
    · simp only [toExit]
      rw [if_pos hflags, if_neg (by simp)]
      omega
  | notifyState =>
    dsimp only at hs
    split_ifs at hs with hheld
    rcases hheld with hp | hp
    · exact not_ended (h.ended 0) (by rw [hp]; exact id) (by rw [hp]; nofun)
    · exact not_ended (h.ended 1) (by rw [hp]; exact id) (by rw [hp]; nofun)

/-- Both workers have left `WorkerMain`, and have been joined. -/
def Closed (s : Pair) : Prop :=
  (∀ w, (s.worker w).point = .exited) ∧ s.main = .finished

/-- **A shutdown is not stuck**: until its end some thread can go on. -/
theorem Closing.goes_on (h : s.Closing) (hnot : ¬ s.Closed) :
    ∃ t, (s.act (.goOn t)).isSome = true := by
  have hphase := h.phase
  by_cases hexited : ∀ w, (s.worker w).point = .exited
  · refine ⟨.main, ?_⟩
    simp only [Pair.act, Pair.goOn]
    cases hm : s.main with
    | shutdownStart | shutdownState => rfl
    | joining => simp [hexited]
    | finished => exact absurd ⟨hexited, hm⟩ hnot
    | idle | validating | rendering | notifying | awake | asleep | lateAwake | lateAsleep
    | unlinking =>
      rw [hm] at hphase
      cases hphase
  · obtain ⟨w, hw⟩ := not_forall.mp hexited
    have hrests := (h.ended w).point.resolve_right hw
    by_cases hmain : s.main = .shutdownStart
    · refine ⟨.main, ?_⟩
      simp [Pair.act, Pair.goOn, hmain]
    · have hwoken := h.woken hmain w
      refine ⟨.worker w, ?_⟩
      simp only [Pair.act, Pair.goOnWorker]
      cases hp : (s.worker w).point with
      | awake | notifying => rfl
      | asleep => exact absurd hp hwoken
      | heldAwake | heldAsleep | starting | executing | completing | exited =>
        rw [hp] at hrests
        exact hrests.elim

/-- **A shutdown comes to its end** under every schedule that gives each thread its turn. -/
theorem Closing.closes (h : s.Closing) {actions : Nat → Action}
    (hfair : ∀ t m, ∃ n, m ≤ n ∧ actions n = .goOn t) :
    ∃ n, (run Pair.step s (firstOf actions n)).Closed := by
  refine fair_run_comes_to toGo (fun t a => a = .goOn t) (fun s a h => ?_) (fun s h hnot => ?_) hfair h
  · unfold Pair.step
    cases hs : s.act a with
    | none => exact Or.inl rfl
    | some s' => exact Or.inr (h.act hs)
  · obtain ⟨t, ht⟩ := h.goes_on hnot
    obtain ⟨s', hs⟩ := Option.isSome_iff_exists.mp ht
    refine ⟨t, fun a ha hsame => ?_⟩
    have hless := (h.act hs).2
    rw [ha, Pair.step, hs] at hsame
    rw [show s' = s from hsame] at hless
    exact Nat.lt_irrefl _ hless

/-! ## The barrier -/

theorem inv_run (renderer : VideoRenderer) (link : Bool) (input : Fin 2 → MachineInput)
    (actions : List Action) : (run Pair.step (start renderer link input) actions).Inv := by
  have hkeeps : ∀ (actions : List Action) {s : Pair}, s.Inv → (run Pair.step s actions).Inv :=
    run_invariant fun _ a h => Inv.step h a
  exact hkeeps actions (inv_start renderer link input)

/-- Outside a frame of theirs both workers have completed the last, and each frame once. -/
theorem Inv.completed (h : s.Inv) (hphase : s.main.phase ≠ .frame) (w : Fin 2) :
    (s.worker w).Ended s.dispatched := by
  have hworkers := h.workers
  cases hp : s.main.phase with
  | between =>
    rw [hp] at hworkers
    cases hworkers w with
    | done rests observed calls => exact ⟨Or.inl rests, calls⟩
  | frame => exact absurd hp hphase
  | closing =>
    rw [hp] at hworkers
    exact hworkers w

/-- A worker has executed every frame up to the last or the one before it, once each. -/
theorem Inv.calls (h : s.Inv) (w : Fin 2) :
    ∃ k, k ≤ s.dispatched ∧ s.dispatched ≤ k + 1 ∧ (s.worker w).calls = List.range' 1 k := by
  by_cases hphase : s.main.phase = .frame
  · have hworkers := h.workers
    rw [hphase] at hworkers
    obtain ⟨n, hn, -⟩ := hworkers
    have hstands := hn w
    generalize n w = counted at hstands
    cases hstands with
    | done rests observed calls => exact ⟨_, Nat.le_refl _, Nat.le_succ _, calls⟩
    | owes before next rests observed calls => exact ⟨before, by omega, by omega, calls⟩
    | holds before next holds observed calls => exact ⟨before, by omega, by omega, calls⟩
    | works works observed calls => exact ⟨_, Nat.le_refl _, Nat.le_succ _, calls⟩
  · exact ⟨_, Nat.le_refl _, Nat.le_succ _, (h.completed hphase w).calls⟩

/-- In a frame the pair is not idle. -/
theorem Inv.busy (h : s.Inv) (hrests : ¬ (s.worker w).point.Rests)
    (hexited : (s.worker w).point ≠ .exited) : s.frameState ≠ .idle := by
  have hphase : s.main.phase = .frame := by
    by_contra hnot
    exact not_ended (h.completed hnot w) hrests hexited
  have hstate := h.state
  cases hm : s.main with
  | notifying | awake | asleep | lateAwake | lateAsleep =>
    rw [hm] at hstate
    rw [hstate]
    nofun
  | idle | validating | rendering | unlinking | shutdownStart | shutdownState | joining
  | finished =>
    rw [hm] at hphase
    cases hphase

theorem closing_shutdown (h : s.Inv) (hidle : s.main = .idle) : (s.step .shutdown).Closing := by
  have hinv := h.step .shutdown
  have hmain : (s.step .shutdown).main = .shutdownStart := by
    simp only [Pair.step, Pair.act, hidle, if_true, Option.getD_some, Pair.shutdown]
    split <;> rfl
  exact ⟨hinv, by rw [hmain]; rfl, fun hnot => absurd hmain hnot⟩

/-- The state a deadline leaves that passes in the wait. -/
theorem expire_late (hasleep : s.main = .asleep) (hcount : s.completedWorkers ≠ 2) :
    (s.step .expire).frameState = .deadlineExceeded := by
  simp only [Pair.step, Pair.act, hasleep, if_true, Option.getD_some, Pair.expire]
  rw [if_neg hcount]
  unfold awaitLate
  rw [if_neg (by exact hcount)]
  rfl

/-- **The frame barrier**, in every state that any interleaving comes to: outside a frame both
workers have completed the last; each executes every frame once; a call changes nothing while a
worker has a frame; after a deadline the pair is poisoned for good, fails every frame and changes
no more; and a shutdown ends, with both workers gone. -/
theorem frame_barrier (renderer : VideoRenderer) (link : Bool) (input : Fin 2 → MachineInput)
    (actions : List Action) :
    let s := run Pair.step (start renderer link input) actions
    (s.main.phase ≠ .frame → ∀ w, (s.worker w).Ended s.dispatched) ∧
      (∀ w, ∃ k, k ≤ s.dispatched ∧ s.dispatched ≤ k + 1 ∧
        (s.worker w).calls = List.range' 1 k) ∧
      ((∃ w, ¬ (s.worker w).point.Rests ∧ (s.worker w).point ≠ .exited) →
        ∀ c, s.call c = s) ∧
      (s.main = .asleep → s.completedWorkers ≠ 2 →
        (s.step .expire).frameState = .deadlineExceeded) ∧
      (s.frameState = .deadlineExceeded ∨ s.frameState = .poisoned → ∀ later,
        let t := run Pair.step s later
        (t.main = .idle → t.frameState = .poisoned) ∧ Unchanged s t ∧
          (∀ c, t.call c = t) ∧
          ∀ loaded, ∃ error, t.runFrame loaded = t.return_ (.error error)) ∧
      (s.main = .idle → ∀ schedule : Nat → Action,
        (∀ t m, ∃ n, m ≤ n ∧ schedule n = .goOn t) →
          ∃ n, (run Pair.step (s.step .shutdown) (firstOf schedule n)).Closed) := by
  have hinv := inv_run renderer link input actions
  refine ⟨fun hphase => hinv.completed hphase, hinv.calls, ?_, expire_late, ?_, ?_⟩
  · rintro ⟨w, hrests, hexited⟩ c
    exact call_of_not_idle (hinv.busy hrests hexited) c
  · intro hexpired later
    have hretired : (run Pair.step (start renderer link input) actions).Retired :=
      hexpired.imp_right Or.inl
    have hsince := hretired.run hinv later
    refine ⟨fun hidle => ?_, hsince.unchanged, call_of_not_idle hsince.retired.not_idle,
      hsince.retired.runFrame⟩
    have hstate := hsince.inv.state
    rw [hidle] at hstate
    exact hstate.resolve_left hsince.retired.not_idle
  · exact fun hidle schedule hfair => (closing_shutdown hinv hidle).closes hfair

/-- Worker 0 in its first frame, and a reset. -/
theorem frame_barrier_reset :
    let s := run Pair.step (start .software false fun _ => ⟨0, false, 0, 0⟩)
      [.runFrame true, .validate none, .goOn .main, .goOn (.worker 0), .goOn (.worker 0)]
    (s.worker 0).calls = [1] ∧ s.call (.reset 2) = s :=
  ⟨by decide, (frame_barrier .software false (fun _ => ⟨0, false, 0, 0⟩) _).2.2.1
    ⟨0, by decide, by decide⟩ (.reset 2)⟩

end Pair

end DualBoy.Nds
