import DualBoy.Nds.Barrier

/-!
# Where the workers stand

After so many dispatches a worker has completed the last frame, owes it, holds it or works on it.
The count of completed workers agrees with that, at every step of every thread.

**`Pair.Inv.step`**: the invariant of the barrier.
-/

namespace DualBoy.Nds

open DualBoy.Lib

/-! ## Where a worker stands -/

/-- At the top of the loop. -/
def WorkerPoint.Rests : WorkerPoint → Prop
  | .awake | .asleep | .notifying => True
  | _ => False

instance (p : WorkerPoint) : Decidable p.Rests := by
  unfold WorkerPoint.Rests
  split <;> infer_instance

/-- With a frame it has not begun. -/
def WorkerPoint.Holds : WorkerPoint → Prop
  | .heldAwake | .heldAsleep | .starting => True
  | _ => False

/-- With a frame it has begun. -/
def WorkerPoint.Works : WorkerPoint → Prop
  | .executing _ | .completing _ => True
  | _ => False

/-- Where a worker stands after `frames` dispatches, with the number it adds to the count of those
that have completed the last. -/
inductive Worker.Stands (w : Worker) (frames : Nat) : Nat → Prop where
  | done (rests : w.point.Rests) (observed : w.observedGeneration = frames % 2 ^ 64)
      (calls : w.calls = List.range' 1 frames) : Worker.Stands w frames 1
  | owes (before : Nat) (next : frames = before + 1) (rests : w.point.Rests)
      (observed : w.observedGeneration = before % 2 ^ 64)
      (calls : w.calls = List.range' 1 before) : Worker.Stands w frames 0
  | holds (before : Nat) (next : frames = before + 1) (holds : w.point.Holds)
      (observed : w.observedGeneration = frames % 2 ^ 64)
      (calls : w.calls = List.range' 1 before) : Worker.Stands w frames 0
  | works (works : w.point.Works) (observed : w.observedGeneration = frames % 2 ^ 64)
      (calls : w.calls = List.range' 1 frames) : Worker.Stands w frames 0

/-- The worker has finished every frame, and may have exited. -/
structure Worker.Ended (w : Worker) (frames : Nat) : Prop where
  point : w.point.Rests ∨ w.point = .exited
  calls : w.calls = List.range' 1 frames

variable {w w' : Worker} {frames n : Nat}

theorem Worker.Stands.le_one (h : w.Stands frames n) : n ≤ 1 := by
  cases h <;> omega

/-- What the status is about: the kind of point, the generation and the calls. -/
theorem Worker.Stands.congr (h : w.Stands frames n)
    (hrests : w.point.Rests → w'.point.Rests) (hholds : w.point.Holds → w'.point.Holds)
    (hworks : w.point.Works → w'.point.Works)
    (hobserved : w'.observedGeneration = w.observedGeneration) (hcalls : w'.calls = w.calls) :
    w'.Stands frames n := by
  cases h with
  | done rests observed calls =>
    exact .done (hrests rests) (hobserved.trans observed) (hcalls.trans calls)
  | owes before next rests observed calls =>
    exact .owes before next (hrests rests) (hobserved.trans observed) (hcalls.trans calls)
  | holds before next holds observed calls =>
    exact .holds before next (hholds holds) (hobserved.trans observed) (hcalls.trans calls)
  | works works observed calls =>
    exact .works (hworks works) (hobserved.trans observed) (hcalls.trans calls)

theorem Worker.Stands.notifiedStart (h : w.Stands frames n) :
    w.notifiedStart.Stands frames n := by
  unfold Worker.notifiedStart
  split
  · rename_i hasleep
    refine h.congr ?_ ?_ ?_ rfl rfl <;> rw [hasleep]
    · exact id
    · exact False.elim
    · exact False.elim
  · exact h

theorem Worker.Stands.notifiedState (h : w.Stands frames n) :
    w.notifiedState.Stands frames n := by
  unfold Worker.notifiedState
  split
  · rename_i hasleep
    refine h.congr ?_ ?_ ?_ rfl rfl <;> rw [hasleep]
    · exact False.elim
    · exact id
    · exact False.elim
  · exact h

theorem Worker.Ended.notifiedStart (h : w.Ended frames) : w.notifiedStart.Ended frames := by
  unfold Worker.notifiedStart
  split
  · exact ⟨Or.inl trivial, h.calls⟩
  · exact h

theorem Worker.Ended.notifiedState (h : w.Ended frames) : w.notifiedState.Ended frames := by
  unfold Worker.notifiedState
  split
  · rename_i hheld
    rcases h.point with hrests | hexited
    · rw [hheld] at hrests
      exact hrests.elim
    · rw [hheld] at hexited
      cases hexited
  · exact h

/-! ## The invariant -/

/-- What the calling thread is at, as far as the workers go. -/
inductive Phase where
  | between
  | frame
  | closing
  deriving DecidableEq, Repr

def MainPoint.phase : MainPoint → Phase
  | .idle | .validating | .rendering | .unlinking => .between
  | .notifying | .awake | .asleep | .lateAwake | .lateAsleep => .frame
  | .shutdownStart | .shutdownState | .joining | .finished => .closing

/-- The frame states the calling thread leaves where it is. -/
def MainPoint.Allows : MainPoint → FrameState → Prop
  | .idle, state => state = .idle ∨ state = .poisoned
  | .validating, state => state = .idle
  | .rendering, state | .notifying, state | .awake, state | .asleep, state => state = .running
  | .lateAwake, state | .lateAsleep, state => state = .deadlineExceeded
  | .unlinking, state => state = .poisoned
  | .shutdownStart, state | .shutdownState, state | .joining, state | .finished, state =>
    state = .shuttingDown

namespace Pair

/-- Between frames both workers have finished the last; in one the count says how many have. -/
def Counted (s : Pair) : Phase → Prop
  | .between => ∀ w, (s.worker w).Stands s.dispatched 1
  | .frame => ∃ n : Fin 2 → Nat, (∀ w, (s.worker w).Stands s.dispatched (n w)) ∧
      s.completedWorkers = n 0 + n 1
  | .closing => ∀ w, (s.worker w).Ended s.dispatched

/-- **The invariant of the barrier.** -/
structure Inv (s : Pair) : Prop where
  state : s.main.Allows s.frameState
  generation : s.frameState ≠ .shuttingDown → s.generation = s.dispatched % 2 ^ 64
  workers : s.Counted s.main.phase

variable {s s' : Pair}

theorem inv_start (renderer : VideoRenderer) (link : Bool) (input : Fin 2 → MachineInput) :
    (start renderer link input).Inv where
  state := Or.inl rfl
  generation := fun _ => rfl
  workers := fun _ => .done trivial rfl rfl

/-- Only a pair that is being shut down says so. -/
theorem Inv.shuttingDown_iff (h : s.Inv) :
    s.frameState = .shuttingDown ↔ s.main.phase = .closing := by
  have hstate := h.state
  cases hm : s.main <;> rw [hm] at hstate <;>
    simp only [MainPoint.Allows] at hstate <;> simp [MainPoint.phase]
  · rcases hstate with hstate | hstate <;> simp [hstate]
  all_goals simp [hstate]

/-- Steps that leave workers, counters and phase alone. -/
theorem Inv.of_main (h : s.Inv) (hstate : s'.main.Allows s'.frameState)
    (hshut : s'.frameState ≠ .shuttingDown → s.frameState ≠ .shuttingDown)
    (hgeneration : s'.generation = s.generation) (hdispatched : s'.dispatched = s.dispatched)
    (hcompleted : s'.completedWorkers = s.completedWorkers) (hworker : s'.worker = s.worker)
    (hphase : s'.main.phase = s.main.phase) : s'.Inv where
  state := hstate
  generation := fun hnot => by rw [hgeneration, hdispatched, h.generation (hshut hnot)]
  workers := by
    have hworkers := h.workers
    rw [hphase]
    unfold Counted at hworkers ⊢
    rw [hworker, hdispatched, hcompleted]
    exact hworkers

/-- A frame is over when the count says that both workers have completed it. -/
theorem Counted.between_of_two (h : s.Counted .frame) (htwo : s.completedWorkers = 2) :
    s.Counted .between := by
  obtain ⟨n, hn, hcount⟩ := h
  have h0 := (hn 0).le_one
  have h1 := (hn 1).le_one
  intro w
  have hone : n w = 1 := by
    match w with
    | 0 => omega
    | 1 => omega
  rw [← hone]
  exact hn w

/-- Notifications change no standing. -/
theorem Counted.notified {phase : Phase} {f : Worker → Worker}
    (hf : ∀ w frames n, Worker.Stands w frames n → (f w).Stands frames n)
    (hended : ∀ w frames, Worker.Ended w frames → (f w).Ended frames) (h : s.Counted phase) :
    Counted { s with worker := fun w => f (s.worker w) } phase := by
  cases phase with
  | between => exact fun w => hf _ _ _ (h w)
  | frame =>
    obtain ⟨n, hn, hcount⟩ := h
    exact ⟨n, fun w => hf _ _ _ (hn w), hcount⟩
  | closing => exact fun w => hended _ _ (h w)

/-! ## Steps of the calling thread -/

/-- What a call leaves alone. -/
structure SameThreads (s s' : Pair) : Prop where
  generation : s'.generation = s.generation
  dispatched : s'.dispatched = s.dispatched
  completed : s'.completedWorkers = s.completedWorkers
  worker : s'.worker = s.worker
  main : s'.main = s.main
  state : s'.frameState = s.frameState ∨ s'.frameState = .poisoned

theorem sameThreads_reset (s : Pair) (done : Nat) : SameThreads s (s.reset done) := by
  unfold reset
  split
  · exact ⟨rfl, rfl, rfl, rfl, rfl, Or.inl rfl⟩
  · dsimp only
    split
    · exact ⟨rfl, rfl, rfl, rfl, rfl, Or.inr rfl⟩
    · exact ⟨rfl, rfl, rfl, rfl, rfl, Or.inl rfl⟩

theorem sameThreads_setVideoRenderer (s : Pair) (renderer : VideoRenderer)
    (transition : Transition) : SameThreads s (s.setVideoRenderer renderer transition) := by
  have hsame : SameThreads s s := ⟨rfl, rfl, rfl, rfl, rfl, Or.inl rfl⟩
  have hpoisoned : SameThreads s s.poisonRendererPair := ⟨rfl, rfl, rfl, rfl, rfl, Or.inr rfl⟩
  have hrenderer (r : VideoRenderer) : SameThreads s { s with videoRenderer := r } :=
    ⟨rfl, rfl, rfl, rfl, rfl, Or.inl rfl⟩
  unfold setVideoRenderer
  split
  · exact hsame
  · cases renderer <;> cases transition <;> dsimp only
    · exact hrenderer _
    · exact hrenderer _
    · exact hpoisoned
    · split
      · exact hsame
      · exact hrenderer _
    · exact hsame
    · split
      · exact hsame
      · exact hpoisoned

theorem sameThreads_call (s : Pair) (c : Call) : SameThreads s (s.call c) := by
  have hinput (machine : Fin 2) (input : MachineInput) :
      SameThreads s (s.setInput machine input) := ⟨rfl, rfl, rfl, rfl, rfl, Or.inl rfl⟩
  unfold call
  split
  · exact ⟨rfl, rfl, rfl, rfl, rfl, Or.inl rfl⟩
  · cases c with
    | reset done => exact s.sameThreads_reset done
    | setLegacyInput machine buttons => exact hinput _ _
    | setMachineInput machine input => exact hinput _ _
    | setVideoRenderer renderer transition => exact s.sameThreads_setVideoRenderer renderer transition

theorem sameThreads_setLink (s : Pair) (enabled : Bool) : SameThreads s (s.setLink enabled) := by
  unfold setLink
  split <;> exact ⟨rfl, rfl, rfl, rfl, rfl, Or.inl rfl⟩

theorem Inv.of_sameThreads (h : s.Inv) (hidle : s.main = .idle) (hsame : SameThreads s s') :
    s'.Inv := by
  have hstate := h.state
  rw [hidle] at hstate
  refine h.of_main ?_ (fun _ hshut => ?_) hsame.generation hsame.dispatched hsame.completed
    hsame.worker (by rw [hsame.main])
  · rw [hsame.main, hidle]
    rcases hsame.state with hs | hs
    · rw [hs]
      exact hstate
    · exact Or.inr hs
  · rcases hstate with hs | hs <;> rw [hs] at hshut <;> cases hshut

/-- Returning, with the pair idle or poisoned. -/
theorem Inv.return_ (h : s.Inv) (hphase : s.main.phase = .between)
    (hstate : s.frameState = .idle ∨ s.frameState = .poisoned) (result : Except FrameError Unit) :
    (s.return_ result).Inv :=
  h.of_main hstate id rfl rfl rfl rfl hphase.symm

theorem Inv.runFrame (h : s.Inv) (hidle : s.main = .idle) (loaded : Bool) :
    (s.runFrame loaded).Inv := by
  have hphase : s.main.phase = .between := by rw [hidle]; rfl
  have hstate := h.state
  rw [hidle] at hstate
  unfold Pair.runFrame
  split_ifs with hloaded hpoisoned hbusy
  · exact h.return_ hphase hstate _
  · exact h.return_ hphase hstate _
  · exact h.return_ hphase hstate _
  · rw [not_not] at hbusy
    exact h.of_main hbusy id rfl rfl rfl rfl hphase.symm

/-- A frame that is given to the workers is one that each of them has still to do. -/
theorem Inv.dispatch (h : s.Inv) (hvalidating : s.main = .validating) : s.dispatch.Inv := by
  have hstate := h.state
  have hworkers := h.workers
  rw [hvalidating] at hstate hworkers
  have hgeneration := h.generation (by rw [show s.frameState = .idle from hstate]; nofun)
  refine ⟨rfl, fun _ => ?_, fun _ => 0, fun w => ?_, rfl⟩
  · simp only [Pair.dispatch]
    rw [hgeneration]
    omega
  · cases hworkers w with
    | done rests observed calls =>
      exact .owes s.dispatched rfl rests observed calls

theorem Inv.validate (h : s.Inv) (hvalidating : s.main = .validating) (changed : Option (Fin 2)) :
    (s.validate changed).Inv := by
  have hphase : s.main.phase = .between := by rw [hvalidating]; rfl
  have hstate : s.frameState = .idle := by
    have hstate := h.state
    rw [hvalidating] at hstate
    exact hstate
  unfold Pair.validate
  split
  · exact h.return_ hphase (Or.inl hstate) _
  · exact h.dispatch hvalidating
  · split
    · exact h.return_ hphase (Or.inl hstate) _
    · exact h.of_main rfl (fun _ => by rw [hstate]; nofun) rfl rfl rfl rfl hphase.symm

theorem Inv.endOpenGLFrame (h : s.Inv) (hrendering : s.main = .rendering)
    (success expired : Bool) : (s.endOpenGLFrame success expired).Inv := by
  have hstate := h.state
  rw [hrendering] at hstate
  refine h.of_main ?_ (fun _ => ?_) rfl rfl rfl rfl (by rw [hrendering]; rfl)
  · cases success <;> cases expired <;> simp [Pair.endOpenGLFrame, Pair.return_, MainPoint.Allows]
  · rw [show s.frameState = .running from hstate]
    nofun

theorem Inv.await (h : s.Inv) (hframe : s.main.phase = .frame)
    (hrunning : s.frameState = .running) : s.await.Inv := by
  have hworkers := h.workers
  rw [hframe] at hworkers
  have hgeneration := h.generation (by rw [hrunning]; nofun)
  unfold Pair.await
  split
  · rename_i htwo
    refine ⟨Or.inl rfl, fun _ => hgeneration, ?_⟩
    exact (hworkers.between_of_two htwo).notified (fun _ _ _ h => h.notifiedState)
      fun _ _ h => h.notifiedState
  · exact h.of_main hrunning id rfl rfl rfl rfl hframe.symm

theorem Inv.awaitLate (h : s.Inv) (hframe : s.main.phase = .frame)
    (hlate : s.frameState = .deadlineExceeded) : s.awaitLate.Inv := by
  have hworkers := h.workers
  rw [hframe] at hworkers
  have hgeneration := h.generation (by rw [hlate]; nofun)
  unfold Pair.awaitLate
  split
  · rename_i htwo
    refine ⟨rfl, fun _ => hgeneration, ?_⟩
    exact (hworkers.between_of_two htwo).notified (fun _ _ _ h => h.notifiedState)
      fun _ _ h => h.notifiedState
  · exact h.of_main hlate id rfl rfl rfl rfl hframe.symm

/-- `notify_all` of either kind, by whichever thread. -/
theorem Inv.notifyStart (h : s.Inv) : s.notifyStart.Inv :=
  ⟨h.state, h.generation,
    h.workers.notified (fun _ _ _ h => h.notifiedStart) fun _ _ h => h.notifiedStart⟩

theorem Inv.notifyState (h : s.Inv) : s.notifyState.Inv :=
  ⟨h.state, h.generation,
    h.workers.notified (fun _ _ _ h => h.notifiedState) fun _ _ h => h.notifiedState⟩

theorem Inv.expire (h : s.Inv) (hasleep : s.main = .asleep) : s.expire.Inv := by
  have hframe : s.main.phase = .frame := by rw [hasleep]; rfl
  have hrunning : s.frameState = .running := by
    have hstate := h.state
    rw [hasleep] at hstate
    exact hstate
  unfold Pair.expire
  split
  · exact h.await hframe hrunning
  · rename_i hnot
    have hlate := (h.notifyState).workers
    unfold Pair.awaitLate
    rw [if_neg (by exact hnot)]
    rw [show s.notifyState.main = .asleep from hasleep] at hlate
    exact ⟨rfl, fun _ => h.generation (by rw [hrunning]; nofun), hlate⟩

theorem Inv.shutdown (h : s.Inv) (hidle : s.main = .idle) : s.shutdown.Inv := by
  have hstate := h.state
  have hworkers := h.workers
  rw [hidle] at hstate hworkers
  have hnot : s.frameState ≠ .shuttingDown := by
    rcases hstate with hs | hs <;> rw [hs] <;> nofun
  unfold Pair.shutdown
  dsimp only
  rw [if_pos (by exact hnot)]
  refine ⟨rfl, fun hne => absurd rfl hne, fun w => ?_⟩
  cases hworkers w with
  | done rests observed calls => exact ⟨Or.inl rests, calls⟩

theorem Inv.goOn (h : s.Inv) (hs : s.goOn = some s') : s'.Inv := by
  have hstate := h.state
  unfold Pair.goOn at hs
  cases hm : s.main with
  | notifying =>
    rw [hm] at hs hstate
    obtain rfl := Option.some.inj hs
    exact h.notifyStart.of_main hstate id rfl rfl rfl rfl (by rw [show s.notifyStart.main = _ from hm]; rfl)
  | awake =>
    rw [hm] at hs hstate
    obtain rfl := Option.some.inj hs
    exact h.await (by rw [hm]; rfl) hstate
  | lateAwake =>
    rw [hm] at hs hstate
    obtain rfl := Option.some.inj hs
    exact h.awaitLate (by rw [hm]; rfl) hstate
  | unlinking =>
    rw [hm] at hs hstate
    obtain rfl := Option.some.inj hs
    exact h.of_main (Or.inr hstate) id rfl rfl rfl rfl (by rw [hm]; rfl)
  | shutdownStart =>
    rw [hm] at hs hstate
    obtain rfl := Option.some.inj hs
    exact h.notifyStart.of_main hstate id rfl rfl rfl rfl (by rw [show s.notifyStart.main = _ from hm]; rfl)
  | shutdownState =>
    rw [hm] at hs hstate
    obtain rfl := Option.some.inj hs
    exact h.notifyState.of_main hstate id rfl rfl rfl rfl (by rw [show s.notifyState.main = _ from hm]; rfl)
  | joining =>
    rw [hm] at hs hstate
    dsimp only at hs
    split_ifs at hs
    obtain rfl := Option.some.inj hs
    exact h.of_main hstate id rfl rfl rfl rfl (by rw [hm]; rfl)
  | idle | validating | rendering | asleep | lateAsleep | finished =>
    rw [hm] at hs
    cases hs

/-! ## Steps of the workers -/

variable {w : Fin 2} {x : Worker}

/-- A worker moves, and the count with it. -/
theorem Counted.move {phase : Phase} (more : Nat) (h : s.Counted phase)
    (hbetween : phase = .between → (s.worker w).Stands s.dispatched 1 →
      x.Stands s.dispatched 1)
    (hframe : phase = .frame → ∀ n, (s.worker w).Stands s.dispatched n →
      x.Stands s.dispatched (n + more))
    (hended : phase = .closing → (s.worker w).Ended s.dispatched → x.Ended s.dispatched) :
    Counted ({ s with completedWorkers := s.completedWorkers + more }.withWorker w x) phase := by
  cases phase with
  | between =>
    intro v
    simp only [withWorker]
    split
    · exact hbetween rfl (h w)
    · exact h v
  | frame =>
    obtain ⟨n, hn, hcount⟩ := h
    refine ⟨fun v => if v = w then n w + more else n v, fun v => ?_, ?_⟩
    · simp only [withWorker]
      split
      · exact hframe rfl _ (hn w)
      · exact hn v
    · simp only [withWorker, hcount]
      match w with
      | 0 => simp; omega
      | 1 => simp; omega
  | closing =>
    intro v
    simp only [withWorker]
    split
    · exact hended rfl (h w)
    · exact h v

/-- A worker moves without a change of its standing. -/
theorem Inv.of_worker (h : s.Inv)
    (hstands : s.frameState ≠ .shuttingDown → ∀ n, (s.worker w).Stands s.dispatched n →
      x.Stands s.dispatched n)
    (hended : s.frameState = .shuttingDown → (s.worker w).Ended s.dispatched →
      x.Ended s.dispatched) : (s.withWorker w x).Inv := by
  have hclosing := h.shuttingDown_iff
  refine ⟨h.state, h.generation, h.workers.move 0 (fun hphase => ?_) (fun hphase => ?_)
    fun hphase => ?_⟩
  · exact hstands (fun hshut => by rw [hclosing.mp hshut] at hphase; cases hphase) 1
  · exact hstands fun hshut => by rw [hclosing.mp hshut] at hphase; cases hphase
  · exact hended (hclosing.mpr hphase)

/-- A worker that finds a new generation owes a frame, and takes it. -/
theorem takes {v : Worker} {frames n : Nat} (h : v.Stands frames n)
    (hnew : v.observedGeneration < frames % 2 ^ 64) (hholds : x.point.Holds)
    (hobserved : x.observedGeneration = frames % 2 ^ 64) (hcalls : x.calls = v.calls) :
    x.Stands frames n := by
  cases h with
  | done rests observed calls => omega
  | owes before next rests observed calls =>
    exact .holds before next hholds hobserved (hcalls.trans calls)
  | holds before next holds observed calls => omega
  | works works observed calls => omega

theorem Inv.observe (h : s.Inv) (hawake : (s.worker w).point = .awake) : (s.observe w).Inv := by
  unfold Pair.observe
  split_ifs with hshut hnew hhold
  · exact h.of_worker (fun hnot => absurd hshut hnot) fun _ hended =>
      ⟨Or.inr rfl, hended.calls⟩
  · have hsame : s.notifyState.worker w = s.worker w := by
      simp only [Pair.notifyState, Worker.notifiedState]
      rw [if_neg (by rw [hawake]; nofun)]
    have hgeneration := h.generation hshut
    refine h.notifyState.of_worker (fun _ n hstands => ?_) fun hshut' => absurd hshut' hshut
    rw [hsame] at hstands
    exact takes hstands (Nat.lt_of_lt_of_eq hnew hgeneration) trivial hgeneration rfl
  · have hgeneration := h.generation hshut
    refine h.of_worker (fun _ n hstands => ?_) fun hshut' => absurd hshut' hshut
    exact takes hstands (Nat.lt_of_lt_of_eq hnew hgeneration) trivial hgeneration rfl
  · refine h.of_worker (fun _ n hstands => ?_) fun hshut' => absurd hshut' hshut
    exact hstands.congr (fun _ => trivial) (fun hholds => by rw [hawake] at hholds; exact hholds)
      (fun hworks => by rw [hawake] at hworks; exact hworks) rfl rfl

/-- A worker with a frame has not ended. -/
theorem not_ended {v : Worker} {frames : Nat} {p : Prop} (h : v.Ended frames)
    (hrests : ¬ v.point.Rests) (hexited : v.point ≠ .exited) : p :=
  absurd h.point (not_or.mpr ⟨hrests, hexited⟩)

theorem Inv.observeHold (h : s.Inv) (hheld : (s.worker w).point = .heldAwake) :
    (s.observeHold w).Inv := by
  have hneutral (point : WorkerPoint) (hholds : point.Holds) (n : Nat)
      (hstands : (s.worker w).Stands s.dispatched n) :
      Worker.Stands { s.worker w with point } s.dispatched n :=
    hstands.congr (fun hrests => by rw [hheld] at hrests; exact hrests.elim) (fun _ => hholds)
      (fun hworks => by rw [hheld] at hworks; exact hworks.elim) rfl rfl
  have hended (x : Worker) (h : (s.worker w).Ended s.dispatched) : x.Ended s.dispatched :=
    not_ended h (by rw [hheld]; exact id) (by rw [hheld]; nofun)
  unfold Pair.observeHold
  split_ifs with hshut hheld'
  · exact h.of_worker (fun hnot => absurd hshut hnot) fun _ => hended _
  · exact h.of_worker (fun _ => hneutral _ trivial) fun _ => hended _
  · exact h.of_worker (fun _ => hneutral _ trivial) fun _ => hended _

/-- **The worker calls `ExecuteMachine`** for a frame it has not done. -/
theorem Inv.execute (h : s.Inv) (hstarting : (s.worker w).point = .starting) (aborted : Bool) :
    (s.withWorker w
      { s.worker w with
        point := .executing aborted
        calls := (s.worker w).calls ++ [s.dispatched] }).Inv := by
  refine h.of_worker (fun _ n hstands => ?_) fun _ hended =>
    not_ended hended (by rw [hstarting]; exact id) (by rw [hstarting]; nofun)
  cases hstands with
  | done rests observed calls => rw [hstarting] at rests; exact rests.elim
  | owes before next rests observed calls => rw [hstarting] at rests; exact rests.elim
  | works works observed calls => rw [hstarting] at works; exact works.elim
  | holds before next holds observed calls =>
    refine .works trivial observed ?_
    dsimp only
    rw [calls, next, List.range'_concat]
    simp [Nat.add_comm]

/-- **The worker reports**, and the count has it. -/
theorem Inv.complete (h : s.Inv) {success : Bool}
    (hcompleting : (s.worker w).point = .completing success) :
    ({ s with completedWorkers := s.completedWorkers + 1 }.withWorker w
      { s.worker w with point := .notifying, success }).Inv := by
  have hdone {n : Nat} (hstands : (s.worker w).Stands s.dispatched n) :
      n = 0 ∧ Worker.Stands { s.worker w with point := .notifying, success } s.dispatched 1 := by
    cases hstands with
    | done rests observed calls => rw [hcompleting] at rests; exact rests.elim
    | owes before next rests observed calls => rw [hcompleting] at rests; exact rests.elim
    | holds before next holds observed calls => rw [hcompleting] at holds; exact holds.elim
    | works works observed calls => exact ⟨rfl, .done trivial observed calls⟩
  refine ⟨h.state, h.generation, h.workers.move 1 (fun _ hstands => ?_) (fun _ n hstands => ?_)
    fun _ hended => ?_⟩
  · exact absurd (hdone hstands).1 (by decide)
  · obtain ⟨rfl, hnow⟩ := hdone hstands
    exact hnow
  · exact not_ended hended (by rw [hcompleting]; exact id) (by rw [hcompleting]; nofun)

theorem Inv.notifyDone (h : s.Inv) : s.notifyDone.Inv := by
  have hstate := h.state
  unfold Pair.notifyDone
  split
  · rename_i hasleep
    rw [hasleep] at hstate
    exact h.of_main hstate id rfl rfl rfl rfl (by rw [hasleep]; rfl)
  · rename_i hasleep
    rw [hasleep] at hstate
    exact h.of_main hstate id rfl rfl rfl rfl (by rw [hasleep]; rfl)
  · exact h

/-- Moves within one kind of point. -/
theorem Inv.withPoint (h : s.Inv) {point : WorkerPoint}
    (hrests : (s.worker w).point.Rests → point.Rests)
    (hholds : (s.worker w).point.Holds → point.Holds)
    (hworks : (s.worker w).point.Works → point.Works) (hexited : (s.worker w).point ≠ .exited) :
    (s.withPoint w point).Inv :=
  h.of_worker (fun _ _ hstands => hstands.congr hrests hholds hworks rfl rfl) fun _ hended =>
    ⟨Or.inl (hrests (hended.point.resolve_right hexited)), hended.calls⟩

theorem Inv.goOnWorker (h : s.Inv) (hs : s.goOnWorker w = some s') : s'.Inv := by
  unfold Pair.goOnWorker at hs
  cases hp : (s.worker w).point with
  | awake =>
    rw [hp] at hs
    obtain rfl := Option.some.inj hs
    exact h.observe hp
  | heldAwake =>
    rw [hp] at hs
    obtain rfl := Option.some.inj hs
    exact h.observeHold hp
  | starting =>
    rw [hp] at hs
    obtain rfl := Option.some.inj hs
    exact h.execute hp _
  | completing success =>
    rw [hp] at hs
    obtain rfl := Option.some.inj hs
    exact h.complete hp
  | notifying =>
    rw [hp] at hs
    obtain rfl := Option.some.inj hs
    have hsame : s.notifyDone.worker = s.worker := by
      unfold Pair.notifyDone
      split <;> rfl
    refine h.notifyDone.withPoint ?_ ?_ ?_ ?_ <;> rw [hsame, hp]
    · exact id
    · exact False.elim
    · exact False.elim
    · nofun
  | asleep | heldAsleep | executing | exited =>
    rw [hp] at hs
    cases hs

/-- The flags of a held frame are not what a standing is about. -/
theorem Inv.withFlags (h : s.Inv) (holdNextFrame frameHeld : Bool) :
    (s.withWorker w { s.worker w with holdNextFrame, frameHeld }).Inv :=
  h.of_worker (fun _ _ hstands => hstands.congr id id id rfl rfl) fun _ hended =>
    ⟨hended.point, hended.calls⟩

/-- **A step of any thread keeps the invariant.** -/
theorem Inv.act (h : s.Inv) {a : Action} (hs : s.act a = some s') : s'.Inv := by
  unfold Pair.act at hs
  cases a with
  | call c =>
    dsimp only at hs
    split_ifs at hs with hidle
    obtain rfl := Option.some.inj hs
    exact h.of_sameThreads hidle (s.sameThreads_call c)
  | setLink enabled =>
    dsimp only at hs
    split_ifs at hs with hidle
    obtain rfl := Option.some.inj hs
    exact h.of_sameThreads hidle (s.sameThreads_setLink enabled)
  | runFrame loaded =>
    dsimp only at hs
    split_ifs at hs with hidle
    obtain rfl := Option.some.inj hs
    exact h.runFrame hidle loaded
  | validate changed =>
    dsimp only at hs
    split_ifs at hs with hvalidating
    obtain rfl := Option.some.inj hs
    exact h.validate hvalidating changed
  | endOpenGLFrame success expired =>
    dsimp only at hs
    split_ifs at hs with hrendering
    obtain rfl := Option.some.inj hs
    exact h.endOpenGLFrame hrendering success expired
  | expire =>
    dsimp only at hs
    split_ifs at hs with hasleep
    obtain rfl := Option.some.inj hs
    exact h.expire hasleep
  | shutdown =>
    dsimp only at hs
    split_ifs at hs with hidle
    obtain rfl := Option.some.inj hs
    exact h.shutdown hidle
  | goOn t =>
    cases t with
    | main => exact h.goOn hs
    | worker w => exact h.goOnWorker hs
  | finish w success =>
    dsimp only at hs
    split at hs
    · rename_i aborted hp
      obtain rfl := Option.some.inj hs
      refine h.withPoint ?_ ?_ ?_ ?_ <;> rw [hp]
      · exact False.elim
      · exact False.elim
      · exact id
      · nofun
    · cases hs
  | wake t =>
    cases t with
    | main =>
      dsimp only at hs
      split at hs
      · obtain rfl := Option.some.inj hs
        exact h.notifyDone
      · obtain rfl := Option.some.inj hs
        exact h.notifyDone
      · cases hs
    | worker w =>
      dsimp only at hs
      split at hs
      · rename_i hp
        obtain rfl := Option.some.inj hs
        refine h.withPoint ?_ ?_ ?_ ?_ <;> rw [hp]
        · exact id
        · exact False.elim
        · exact False.elim
        · nofun
      · rename_i hp
        obtain rfl := Option.some.inj hs
        refine h.withPoint ?_ ?_ ?_ ?_ <;> rw [hp]
        · exact False.elim
        · exact id
        · exact False.elim
        · nofun
      · cases hs
  | holdNextFrame w =>
    dsimp only at hs
    split_ifs at hs
    obtain rfl := Option.some.inj hs
    exact h.withFlags true (s.worker w).frameHeld
  | releaseFrameHold w =>
    dsimp only at hs
    split_ifs at hs
    obtain rfl := Option.some.inj hs
    exact h.withFlags false false
  | notifyState =>
    dsimp only at hs
    split_ifs at hs
    obtain rfl := Option.some.inj hs
    exact h.notifyState

theorem Inv.step (h : s.Inv) (a : Action) : (s.step a).Inv := by
  unfold Pair.step
  cases hs : s.act a with
  | none => exact h
  | some s' => exact h.act hs

end Pair

end DualBoy.Nds
