import DualBoy.Lib.Run
import DualBoy.Nds.EglWorker

/-!
# The service of an OpenGL context

The worker's steps, whole runs of the two threads, and what the calls guarantee in them.

* **`Inv.goOnWorker`**, **`Inv.step`**: what one step keeps.
* **`resources_released`**: no handle is used after its release, released twice or left behind.
* **`requests_answered`**: requests are served in their order, with their contexts current, and each
  caller gets what became of its own.
* **`calls_return`**: every call returns when both threads keep going on.
-/

namespace DualBoy.Nds.Egl

open DualBoy.Lib

section

variable {s t : State} {v w : Worker}

/-! ## Steps of the worker -/

/-- A point in the service of a request. -/
def WorkerPoint.Busy : WorkerPoint → Prop
  | .selecting _ | .running _ | .releasing _ _ | .completing _ => True
  | _ => False

theorem Worker.Resting.not_busy (h : w.Resting) : ¬w.point.Busy := by
  rcases h.point with hpoint | hpoint <;> rw [hpoint] <;> exact id

theorem Worker.Starting.not_busy (h : w.Starting) : ¬w.point.Busy := by
  rcases h.point with ⟨hpoint, -⟩ | hpoint <;> rw [hpoint] <;> exact id

theorem Worker.Failed.not_busy (h : w.Failed) : ¬w.point.Busy := by
  rw [h.point]
  exact id

theorem Worker.Stopping.not_busy (h : w.Stopping) : ¬w.point.Busy := by
  rcases h.point with ⟨hpoint | hpoint, -⟩ | ⟨hpoint, -⟩ <;> rw [hpoint] <;> exact id

theorem Phase.atWork {b : Bool} {main : MainPoint} (h : Phase b main (some w)) (hbusy : w.point.Busy) :
    b = true ∧ (main = .taskAwake ∨ main = .taskAsleep) ∧ w.Serving := by
  cases h with
  | serving hmain h => exact ⟨rfl, hmain, h⟩
  | starting _ h => exact absurd hbusy h.not_busy
  | started h => exact absurd hbusy h.not_busy
  | failed _ h => exact absurd hbusy h.not_busy
  | resting h => exact absurd hbusy h.not_busy
  | served h => exact absurd hbusy h.not_busy
  | joining h => exact absurd hbusy h.not_busy

theorem Phase.atCreation {b : Bool} {main : MainPoint} (h : Phase b main (some w))
    (hpoint : w.point = .creating ∨ w.point = .reporting) :
    b = false ∧ (main = .startupAwake ∨ main = .startupAsleep) ∧ w.Starting := by
  have hrests (hw : w.Resting) : False := by
    rcases hw.point with h | h <;> rw [h] at hpoint <;> simp at hpoint
  cases h with
  | starting hmain h => exact ⟨rfl, hmain, h⟩
  | started h => exact absurd h hrests
  | failed _ h =>
    rw [h.point] at hpoint
    simp at hpoint
  | resting h => exact absurd h hrests
  | served h => exact absurd h hrests
  | serving _ h =>
    rcases h.point with h | h | h | ⟨_, h⟩ | ⟨_, h⟩ <;> rw [h] at hpoint <;> simp at hpoint
  | joining h =>
    rcases h.point with ⟨h | h, -⟩ | ⟨h, -⟩ <;> rw [h] at hpoint <;> simp at hpoint

theorem Phase.atFinish {b : Bool} {main : MainPoint} (h : Phase b main (some w))
    (hpoint : w.point = .finishing) : b = false ∧ main = .joining ∧ w.Stopping := by
  have hrests (hw : w.Resting) : False := by
    rcases hw.point with h | h <;> rw [h] at hpoint <;> cases hpoint
  cases h with
  | joining h => exact ⟨rfl, rfl, h⟩
  | starting _ h =>
    rcases h.point with ⟨h, -⟩ | h <;> rw [h] at hpoint <;> cases hpoint
  | started h => exact absurd h hrests
  | failed _ h =>
    rw [h.point] at hpoint
    cases hpoint
  | resting h => exact absurd h hrests
  | served h => exact absurd h hrests
  | serving _ h =>
    rcases h.point with h | h | h | ⟨_, h⟩ | ⟨_, h⟩ <;> rw [h] at hpoint <;> cases hpoint

theorem Worker.Resting.observe (h : w.Resting) : w.observe = { w with point := .asleep } := by
  unfold Worker.observe
  rw [h.stopping, h.taskPending]
  rfl

theorem Worker.Serving.observe (h : w.Serving) : w.observe = { w with point := .selecting w.request } := by
  unfold Worker.observe
  rw [h.stopping, h.taskPending]
  rfl

theorem Worker.Stopping.observe (h : w.Stopping) : w.observe = { w with point := .finishing } := by
  unfold Worker.observe
  rw [h.stopping]
  rfl

theorem Worker.Resting.asleep (h : w.Resting) : Worker.Resting { w with point := .asleep } :=
  ⟨⟨h.startupComplete, h.startupSuccess, h.complete, h.egl⟩, h.taskPending, h.stopping, Or.inr rfl⟩

/-- The worker's look leads from a phase to a phase. -/
theorem Phase.observe {b : Bool} {main : MainPoint} (h : Phase b main (some w))
    (hpoint : w.point = .awake) : Phase b main (some w.observe) := by
  cases h with
  | starting _ hw => rcases hw.point with ⟨heq, -⟩ | heq <;> cases hpoint.symm.trans heq
  | failed _ hw => cases hpoint.symm.trans hw.point
  | started hw =>
    rw [hw.observe]
    exact .started hw.asleep
  | resting hw =>
    rw [hw.observe]
    exact .resting hw.asleep
  | served hw hcomplete =>
    rw [hw.observe]
    exact .served hw.asleep hcomplete
  | serving hmain hw =>
    rw [hw.observe]
    exact .serving hmain ⟨⟨hw.startupComplete, hw.startupSuccess, hw.complete, hw.egl⟩, hw.taskPending,
      hw.taskComplete, hw.stopping, hw.task, Or.inr (Or.inl rfl)⟩
  | joining hw =>
    rw [hw.observe]
    have hegl : w.egl.isSome = true := by
      rcases hw.point with ⟨-, hegl⟩ | ⟨hexited, -⟩
      · exact hegl
      · cases hpoint.symm.trans hexited
    exact .joining ⟨hw.stopping, hw.taskPending, hw.complete, Or.inl ⟨Or.inr rfl, hegl⟩⟩

/-- A look changes where the worker is, and nothing else. -/
theorem Worker.observe_eq (w : Worker) : ∃ point, w.observe = { w with point } ∧
    (∀ request, point ≠ .running request) ∧ ∀ success, point ≠ .completing success := by
  unfold Worker.observe
  split
  · exact ⟨_, rfl, by simp, by simp⟩
  · split
    · exact ⟨_, rfl, by simp, by simp⟩
    · exact ⟨_, rfl, by simp, by simp⟩

theorem Worker.unserved_eq (h : ∀ success, w.point ≠ .completing success) :
    w.unserved = if w.taskPending then [w.request] else [] := by
  unfold Worker.unserved
  split
  · rename_i success heq
    exact absurd heq (h success)
  · rfl

theorem Worker.unserved_congr {point : WorkerPoint} (h : ∀ success, w.point ≠ .completing success)
    (hpoint : ∀ success, point ≠ .completing success) :
    Worker.unserved { w with point } = w.unserved := by
  rw [Worker.unserved_eq h]
  exact Worker.unserved_eq hpoint

/-- **The worker wakes** and looks at what it has to do. -/
theorem Inv.observe (h : Inv s) (hworker : s.worker = some w) (hpoint : w.point = .awake) :
    Inv ((s.logged w.signal).put w.observe) := by
  have hphase := h.phase
  rw [hworker] at hphase
  have hnext := hphase.observe hpoint
  have hbooks := (h.worker_books hworker).signal
  have hcurrent := h.current_of_rest hworker (Or.inl hpoint)
  obtain ⟨point, heq, hrunning, hcompleting⟩ := w.observe_eq
  have hnot : ∀ success, w.point ≠ .completing success := by simp [hpoint]
  rw [heq] at hnext ⊢
  refine Inv.of_worker rfl hbooks hnext ?_ (fun request hp => absurd hp (hrunning request))
    (fun hegl hreleased => Or.inl (hcurrent hegl hreleased)) (fun success hp => absurd hp (hcompleting success))
    (h.answered w hworker)
  rw [Worker.unserved_congr hnot hcompleting]
  exact h.worker_requests hworker

theorem wakeMain_startup (hmain : s.main = .startupAwake ∨ s.main = .startupAsleep) :
    s.wakeMain = { s with main := .startupAwake } := by
  unfold State.wakeMain
  rcases hmain with hmain | hmain
  · rw [hmain]
    exact congrArg (fun main => { s with main }) hmain
  · rw [hmain]

theorem wakeMain_task (hmain : s.main = .taskAwake ∨ s.main = .taskAsleep) :
    s.wakeMain = { s with main := .taskAwake } := by
  unfold State.wakeMain
  rcases hmain with hmain | hmain
  · rw [hmain]
    exact congrArg (fun main => { s with main }) hmain
  · rw [hmain]

/-- **The worker creates** its implementation. -/
theorem Inv.create_implementation (h : Inv s) (hworker : s.worker = some w)
    (hpoint : w.point = .creating) (a : Answers) (ht : s.goOnWorker w a = some t) : Inv t := by
  have hphase := h.phase
  rw [hworker] at hphase
  obtain ⟨himplementation, hmain, hw⟩ := hphase.atCreation (Or.inl hpoint)
  have hegl : w.egl = none := by
    rcases hw.point with ⟨-, hegl⟩ | heq
    · exact hegl
    · cases hpoint.symm.trans heq
  have hbooks := h.worker_books hworker
  unfold Worker.Books at hbooks
  rw [hegl] at hbooks
  have hsettled := createImplementation_books hbooks a
  unfold State.goOnWorker at ht
  rw [hpoint] at ht
  obtain rfl := Option.some.inj ht
  have hrequests := h.worker_requests hworker
  rw [Worker.unserved_eq_nil hw.taskPending] at hrequests
  have hnext (egl : Option Implementation) (current : Option (Fin 2)) (startupError : Option EglError)
      (hcomplete : ∀ i, egl = some i → i.Complete) : Phase s.implementation s.main
        (some { w with egl, current, startupError, point := .reporting }) := by
    rw [himplementation]
    exact .starting hmain ⟨hw.startupComplete, hw.taskPending, hw.stopping, hcomplete, Or.inr rfl⟩
  have hunserved (egl : Option Implementation) (current : Option (Fin 2))
      (startupError : Option EglError) : s.given = s.served.map Served.request ++
        Worker.unserved { w with egl, current, startupError, point := .reporting } :=
    hrequests.trans (congrArg _ (Eq.symm (Worker.unserved_eq_nil hw.taskPending)))
  have hanswered := h.answered w hworker
  cases hresult : (createImplementation a s.log s.next).result with
  | ok i =>
    obtain ⟨hheld, hcomplete, hcurrent⟩ := hsettled.ok i hresult
    refine Inv.of_worker rfl ?_ (hnext _ _ _ fun j hj => ?_) (hunserved _ _ _)
      (fun _ hp => (by cases hp)) (fun _ _ => Or.inl hcurrent) (fun _ hp => (by cases hp)) hanswered
    · exact hheld.books.use (i := Sum.inl Own.worker) rfl
    · obtain rfl := Option.some.inj hj
      exact hcomplete
  | error error =>
    have hnothing := hsettled.error error hresult
    refine Inv.of_worker rfl ?_ (hnext _ _ _ fun j hj => ?_) (hunserved _ _ _)
      (fun _ hp => (by cases hp)) (fun hegl => (by cases hegl)) (fun _ hp => (by cases hp)) hanswered
    · exact hnothing.use (i := Sum.inl Own.worker) rfl
    · cases hj

theorem Worker.reportStartup_of_none (h : w.egl = none) : w.reportStartup =
    { w with startupSuccess := false, startupComplete := true, point := .exited } := by
  unfold Worker.reportStartup
  rw [h]
  rfl

theorem Worker.Starting.reportStartup (h : w.Starting) (hegl : w.egl.isSome = true) :
    w.reportStartup = { w with startupSuccess := true, startupComplete := true, point := .asleep } := by
  unfold Worker.reportStartup Worker.observe
  rw [hegl, if_neg (by simp [Option.isSome_iff_ne_none.mp hegl]), h.stopping, h.taskPending]
  rfl

theorem Worker.Serving.reportTask (h : w.Serving) (success : Bool) : w.reportTask success =
    { w with taskSuccess := success, taskPending := false, taskComplete := true, point := .asleep } := by
  unfold Worker.reportTask Worker.observe
  rw [h.stopping]
  rfl

/-- **The worker reports** its startup, and rests if it has an implementation. -/
theorem Inv.report (h : Inv s) (hworker : s.worker = some w) (hpoint : w.point = .reporting)
    {a : Answers} (ht : s.goOnWorker w a = some t) : Inv t := by
  have hphase := h.phase
  rw [hworker] at hphase
  obtain ⟨himplementation, hmain, hw⟩ := hphase.atCreation (Or.inr hpoint)
  have hbooks := (h.worker_books hworker).signal
  have hrequests := h.worker_requests hworker
  rw [Worker.unserved_eq_nil hw.taskPending] at hrequests
  unfold State.goOnWorker at ht
  rw [hpoint] at ht
  obtain rfl := Option.some.inj ht
  rw [wakeMain_startup (s := s.logged w.signal) hmain]
  by_cases hegl : w.egl = none
  · rw [Worker.reportStartup_of_none hegl]
    refine Inv.of_worker rfl hbooks ?_ ?_ (fun _ hp => (by cases hp))
      (fun hsome => absurd hegl (Option.isSome_iff_ne_none.mp hsome)) (fun _ hp => (by cases hp))
      fun hawake => (by cases hawake)
    · change Phase s.implementation .startupAwake _
      rw [himplementation]
      exact .failed (Or.inl rfl) ⟨rfl, rfl, hegl, hw.taskPending, rfl⟩
    · exact hrequests.trans (congrArg _ (Eq.symm (Worker.unserved_eq_nil hw.taskPending)))
  · have hsome : w.egl.isSome = true := Option.isSome_iff_ne_none.mpr hegl
    rw [hw.reportStartup hsome]
    refine Inv.of_worker rfl hbooks ?_ ?_ (fun _ hp => (by cases hp))
      (fun _ hreleased => ?_) (fun _ hp => (by cases hp)) fun hawake => (by cases hawake)
    · change Phase s.implementation .startupAwake _
      rw [himplementation]
      exact .started ⟨⟨rfl, rfl, hw.complete, hsome⟩, hw.taskPending, hw.stopping, Or.inr rfl⟩
    · exact hrequests.trans (congrArg _ (Eq.symm (Worker.unserved_eq_nil hw.taskPending)))
    · have hcurrent := h.released w hworker hsome hreleased
      rw [hpoint] at hcurrent
      exact Or.inl (hcurrent.resolve_right (by simp))

theorem Implementation.Complete.congr {i j : Implementation} (h : i.Complete)
    (hpiece : j.piece = i.piece) (hdisplay : j.display = i.display)
    (hfunctions : j.functions = i.functions) (hcode : j.code = i.code) : j.Complete := by
  refine ⟨fun slot => ?_, fun slot => ?_, hdisplay.trans h.display, fun entry => ?_,
    fun library hlibrary => ?_⟩
  · exact (congrArg Option.isSome (congrFun hpiece (.surface slot))).trans (h.surface slot)
  · exact (congrArg Option.isSome (congrFun hpiece (.context slot))).trans (h.context slot)
  · rw [hfunctions]
    exact h.loaded entry
  · exact (congrFun hpiece .library).trans (h.code library (hcode ▸ hlibrary))

/-- The worker's side holds what its books say. -/
theorem Inv.held (h : Inv s) (hworker : s.worker = some w) {i : Implementation} (hegl : w.egl = some i)
    (hcomplete : i.Complete) : Held w.own (s.side w i) := by
  have hbooks := h.worker_books hworker
  unfold Worker.Books at hbooks
  rw [hegl] at hbooks
  exact ⟨hbooks, fun _ _ => ⟨hcomplete.display, hcomplete.loaded _⟩,
    fun _ _ => ⟨hcomplete.display, hcomplete.loaded _⟩, hcomplete.code⟩

theorem Inv.atWork (h : Inv s) (hworker : s.worker = some w) (hbusy : w.point.Busy) :
    s.implementation = true ∧ (s.main = .taskAwake ∨ s.main = .taskAsleep) ∧ w.Serving := by
  have hphase := h.phase
  rw [hworker] at hphase
  exact hphase.atWork hbusy

/-- The worker serves the request it was given. -/
theorem Worker.Serving.request_eq (h : w.Serving) {request : Request}
    (hpoint : w.point = .selecting request ∨ w.point = .running request ∨
      ∃ outcome, w.point = .releasing request outcome) : request = w.request := by
  rcases h.point with heq | heq | heq | ⟨_, heq⟩ | ⟨_, heq⟩ <;> rw [heq] at hpoint
  · simp at hpoint
  · exact Eq.symm (by simpa using hpoint)
  · exact Eq.symm (by simpa using hpoint)
  · exact Eq.symm (by simpa using hpoint)
  · simp at hpoint

/-- What is unserved at a request's service. -/
theorem Inv.requests_of_pending (h : Inv s) (hworker : s.worker = some w) (hpending : w.taskPending = true)
    (hpoint : ∀ success, w.point ≠ .completing success) :
    s.given = s.served.map Served.request ++ [w.request] := by
  have hrequests := h.worker_requests hworker
  rwa [Worker.unserved_eq hpoint, if_pos hpending] at hrequests

theorem Worker.unserved_eq_request (hpending : w.taskPending = true)
    (hpoint : ∀ success, w.point ≠ .completing success) : w.unserved = [w.request] := by
  rw [Worker.unserved_eq hpoint, if_pos hpending]

/-- A worker serves its request further. -/
theorem Worker.Serving.goOn (h : w.Serving) {i : Implementation} (hcomplete : i.Complete)
    (current : Option (Fin 2)) {point : WorkerPoint}
    (hpoint : point = .running w.request ∨ (∃ outcome, point = .releasing w.request outcome) ∨
      ∃ success, point = .completing success) :
    Worker.Serving { w with egl := some i, current, point } := by
  refine ⟨⟨h.startupComplete, h.startupSuccess, fun j hj => ?_, rfl⟩, h.taskPending, h.taskComplete,
    h.stopping, h.task, Or.inr (Or.inr ?_)⟩
  · exact Option.some.inj hj ▸ hcomplete
  · exact hpoint

/-- **The worker selects** the context of its request, or goes on without. -/
theorem Inv.select (h : Inv s) (hworker : s.worker = some w) {request : Request}
    (hpoint : w.point = .selecting request) {a : Answers} (ht : s.goOnWorker w a = some t) :
    Inv t := by
  obtain ⟨himplementation, hmain, hw⟩ := h.atWork hworker (by rw [hpoint]; exact trivial)
  obtain rfl : request = w.request := hw.request_eq (by simp [hpoint])
  have hrequests := h.requests_of_pending hworker hw.taskPending (by simp [hpoint])
  unfold State.goOnWorker at ht
  rw [hpoint] at ht
  obtain ⟨i, hi, rfl⟩ := Option.map_eq_some_iff.mp ht
  have hmoved := (h.held hworker hi (hw.complete i hi)).makeSlotCurrent w.request.slot
    (a.select w.request.slot)
  have hcomplete := (hw.complete i hi).congr hmoved.piece hmoved.display hmoved.functions
    hmoved.code
  dsimp only
  split
  · rename_i hselected
    refine Inv.of_worker rfl hmoved.held.books ?_ ?_ (fun request hp => ?_)
      (fun _ _ => Or.inr (Or.inl ⟨w.request, rfl⟩)) (fun _ hp => (by cases hp)) fun hawake hdone => ?_
    · change Phase s.implementation s.main _
      rw [himplementation]
      exact .serving hmain (hw.goOn hcomplete _ (Or.inl rfl))
    · exact hrequests.trans (congrArg _ (Eq.symm (Worker.unserved_eq_request hw.taskPending (by simp))))
    · obtain rfl := WorkerPoint.running.inj hp
      exact current_makeSlotCurrent hselected.1
    · cases hw.taskComplete.symm.trans hdone
  · refine Inv.of_worker rfl hmoved.held.books ?_ ?_ (fun _ hp => (by cases hp))
      (fun _ _ => Or.inr (Or.inr ⟨w.request, none, rfl⟩)) (fun _ hp => (by cases hp))
      fun hawake hdone => ?_
    · change Phase s.implementation s.main _
      rw [himplementation]
      exact .serving hmain (hw.goOn hcomplete _ (Or.inr (Or.inl ⟨none, rfl⟩)))
    · exact hrequests.trans (congrArg _ (Eq.symm (Worker.unserved_eq_request hw.taskPending (by simp))))
    · cases hw.taskComplete.symm.trans hdone

/-- **The worker has run** the task of its request. -/
theorem Inv.run (h : Inv s) (hworker : s.worker = some w) {request : Request}
    (hpoint : w.point = .running request) {a : Answers} (ht : s.goOnWorker w a = some t) : Inv t := by
  obtain ⟨himplementation, hmain, hw⟩ := h.atWork hworker (by rw [hpoint]; exact trivial)
  obtain rfl : request = w.request := hw.request_eq (by simp [hpoint])
  have hrequests := h.requests_of_pending hworker hw.taskPending (by simp [hpoint])
  obtain ⟨i, hi⟩ := Option.isSome_iff_exists.mp hw.egl
  have hserving : Worker.Serving { w with
      egl := some i, current := w.current, point := .releasing w.request (some a.task) } :=
    hw.goOn (hw.complete i hi) w.current (Or.inr (Or.inl ⟨some a.task, rfl⟩))
  rw [← hi] at hserving
  have hbooks := h.worker_books hworker
  unfold State.goOnWorker at ht
  rw [hpoint] at ht
  obtain rfl := Option.some.inj ht
  refine Inv.of_worker rfl hbooks ?_ ?_ (fun _ hp => (by cases hp))
    (fun _ _ => Or.inr (Or.inr ⟨w.request, some a.task, rfl⟩)) (fun _ hp => (by cases hp))
    fun hawake hdone => ?_
  · change Phase s.implementation s.main _
    rw [himplementation]
    exact .serving hmain hserving
  · exact hrequests.trans (congrArg _ (Eq.symm (Worker.unserved_eq_request hw.taskPending (by simp))))
  · cases hw.taskComplete.symm.trans hdone

/-- **The worker leaves no context current**, and its request is served. -/
theorem Inv.release (h : Inv s) (hworker : s.worker = some w) {request : Request}
    {outcome : Option Bool} (hpoint : w.point = .releasing request outcome) {a : Answers}
    (ht : s.goOnWorker w a = some t) : Inv t := by
  obtain ⟨himplementation, hmain, hw⟩ := h.atWork hworker (by rw [hpoint]; exact trivial)
  obtain rfl : request = w.request := hw.request_eq (by simp [hpoint])
  have hrequests := h.requests_of_pending hworker hw.taskPending (by simp [hpoint])
  unfold State.goOnWorker at ht
  rw [hpoint] at ht
  obtain ⟨i, hi, rfl⟩ := Option.map_eq_some_iff.mp ht
  have hmoved := (h.held hworker hi (hw.complete i hi)).releaseCurrent (a.unbind w.request.slot)
  have hcomplete := (hw.complete i hi).congr hmoved.piece hmoved.display hmoved.functions
    hmoved.code
  dsimp only
  refine Inv.of_worker rfl hmoved.held.books ?_ ?_ (fun _ hp => (by cases hp))
    (fun _ hreleased => Or.inl ?_) (fun success hp => ?_) fun hawake hdone => ?_
  · change Phase s.implementation s.main _
    rw [himplementation]
    exact .serving hmain (hw.goOn hcomplete _ (Or.inr (Or.inr ⟨_, rfl⟩)))
  · change s.given = _
    rw [hrequests, List.map_append]
    exact (List.append_nil _).symm
  · have hfree := hreleased _ List.getLast?_concat
    exact current_releaseCurrent (of_decide_eq_true hfree)
  · exact ⟨_, List.getLast?_concat, WorkerPoint.completing.inj hp⟩
  · cases hw.taskComplete.symm.trans hdone

/-- **The worker reports** a task, and rests. -/
theorem Inv.complete (h : Inv s) (hworker : s.worker = some w) {success : Bool}
    (hpoint : w.point = .completing success) {a : Answers} (ht : s.goOnWorker w a = some t) : Inv t := by
  obtain ⟨himplementation, hmain, hw⟩ := h.atWork hworker (by rw [hpoint]; exact trivial)
  have hbooks := (h.worker_books hworker).signal
  have hrequests := h.worker_requests hworker
  have hserved : w.unserved = [] := by
    unfold Worker.unserved
    rw [hpoint]
  rw [hserved] at hrequests
  have hlast := h.completing w success hworker hpoint
  have hcurrent := h.released w hworker hw.egl
  rw [hpoint] at hcurrent
  have hrests : Worker.Resting
      { w with taskSuccess := success, taskPending := false, taskComplete := true, point := .asleep } :=
    ⟨⟨hw.startupComplete, hw.startupSuccess, hw.complete, hw.egl⟩, rfl, hw.stopping, Or.inr rfl⟩
  unfold State.goOnWorker at ht
  rw [hpoint] at ht
  obtain rfl := Option.some.inj ht
  rw [wakeMain_task (s := s.logged w.signal) hmain, hw.reportTask]
  refine Inv.of_worker rfl hbooks ?_ (hrequests.trans (congrArg _ (Eq.symm rfl)))
    (fun _ hp => (by cases hp)) (fun _ hreleased => ?_) (fun _ hp => (by cases hp)) fun _ _ => hlast
  · change Phase s.implementation .taskAwake _
    rw [himplementation]
    exact .served hrests rfl
  · exact Or.inl ((hcurrent hreleased).resolve_right (by simp))

/-- **The worker releases** its implementation, and exits. -/
theorem Inv.finish (h : Inv s) (hworker : s.worker = some w) (hpoint : w.point = .finishing)
    {a : Answers} (ht : s.goOnWorker w a = some t) : Inv t := by
  have hphase := h.phase
  rw [hworker] at hphase
  obtain ⟨himplementation, hmain, hw⟩ := hphase.atFinish hpoint
  have hrequests := h.worker_requests hworker
  rw [Worker.unserved_eq_nil hw.taskPending] at hrequests
  unfold State.goOnWorker at ht
  rw [hpoint] at ht
  obtain ⟨i, hi, rfl⟩ := Option.map_eq_some_iff.mp ht
  have hbooks := releaseImplementation_books (h.held hworker hi (hw.complete i hi)) a
  refine Inv.of_worker rfl (hbooks.use (i := Sum.inl Own.worker) rfl) ?_ ?_ (fun _ hp => (by cases hp))
    (fun hegl => (by cases hegl)) (fun _ hp => (by cases hp)) fun hawake => ?_
  · change Phase s.implementation s.main _
    rw [himplementation, hmain]
    exact .joining ⟨hw.stopping, hw.taskPending, fun _ hegl => (by cases hegl), Or.inr ⟨rfl, rfl⟩⟩
  · exact hrequests.trans (congrArg _ (Eq.symm (Worker.unserved_eq_nil hw.taskPending)))
  · cases hmain.symm.trans hawake

/-! ## Runs -/

/-- **The worker** goes on, when it can. -/
theorem Inv.goOnWorker (h : Inv s) (hworker : s.worker = some w) {a : Answers}
    (ht : s.goOnWorker w a = some t) : Inv t := by
  cases hpoint : w.point with
  | creating => exact h.create_implementation hworker hpoint a ht
  | reporting => exact h.report hworker hpoint ht
  | awake =>
    unfold State.goOnWorker at ht
    rw [hpoint] at ht
    obtain rfl := Option.some.inj ht
    exact h.observe hworker hpoint
  | asleep =>
    unfold State.goOnWorker at ht
    rw [hpoint] at ht
    cases ht
  | selecting request => exact h.select hworker hpoint ht
  | running request => exact h.run hworker hpoint ht
  | releasing request outcome => exact h.release hworker hpoint ht
  | completing success => exact h.complete hworker hpoint ht
  | finishing => exact h.finish hworker hpoint ht
  | exited =>
    unfold State.goOnWorker at ht
    rw [hpoint] at ht
    cases ht

/-- A sleeper has not got what it waits for, whatever wakes it. -/
theorem Phase.wake_main {b : Bool} {main : MainPoint} {o : Option Worker} (h : Phase b main o) :
    (main = .startupAsleep → Phase b .startupAwake o) ∧
      (main = .taskAsleep → Phase b .taskAwake o ∧ ∀ w, o = some w → w.taskComplete = false) := by
  cases h with
  | starting hmain h =>
    refine ⟨fun _ => .starting (Or.inl rfl) h, fun hasleep => ?_⟩
    rw [hasleep] at hmain
    simp at hmain
  | serving hmain h =>
    refine ⟨fun hasleep => ?_, fun _ => ⟨.serving (Or.inl rfl) h, fun w hw => ?_⟩⟩
    · rw [hasleep] at hmain
      simp at hmain
    · obtain rfl := Option.some.inj hw
      exact h.taskComplete
  | failed hmain => rcases hmain with rfl | rfl <;> exact ⟨fun heq => (by cases heq), fun heq => (by cases heq)⟩
  | nobody | started | resting | served | joining =>
    exact ⟨fun heq => (by cases heq), fun heq => (by cases heq)⟩

theorem Inv.wake_main (h : Inv s) (hmain : s.main = .startupAsleep ∨ s.main = .taskAsleep) :
    Inv s.wakeMain := by
  obtain ⟨hstartup, htask⟩ := h.phase.wake_main
  rcases hmain with hmain | hmain
  · rw [wakeMain_startup (Or.inr hmain)]
    exact ⟨h.books, hstartup hmain, h.requests, h.running, h.released, h.completing,
      fun _ _ hawake => (by cases hawake)⟩
  · rw [wakeMain_task (Or.inr hmain)]
    refine ⟨h.books, (htask hmain).1, h.requests, h.running, h.released, h.completing,
      fun w hw _ hdone => ?_⟩
    cases ((htask hmain).2 w hw).symm.trans hdone

theorem Worker.Resting.awake (h : w.Resting) : Worker.Resting { w with point := .awake } :=
  ⟨⟨h.startupComplete, h.startupSuccess, h.complete, h.egl⟩, h.taskPending, h.stopping, Or.inl rfl⟩

/-- Only a worker at rest is asleep. -/
theorem Phase.wake_worker {b : Bool} {main : MainPoint} (h : Phase b main (some w))
    (hpoint : w.point = .asleep) :
    w.Resting ∧ Phase b main (some { w with point := .awake }) := by
  cases h with
  | started h => exact ⟨h, .started h.awake⟩
  | resting h => exact ⟨h, .resting h.awake⟩
  | served h hcomplete => exact ⟨h, .served h.awake hcomplete⟩
  | starting _ h => rcases h.point with ⟨heq, -⟩ | heq <;> cases hpoint.symm.trans heq
  | failed _ h => cases hpoint.symm.trans h.point
  | serving _ h =>
    rcases h.point with heq | heq | heq | ⟨_, heq⟩ | ⟨_, heq⟩ <;> cases hpoint.symm.trans heq
  | joining h => rcases h.point with ⟨heq | heq, -⟩ | ⟨heq, -⟩ <;> cases hpoint.symm.trans heq

theorem Inv.wake_worker (h : Inv s) (hworker : s.worker = some w) (hpoint : w.point = .asleep) :
    Inv (s.put w.woken) := by
  have hphase := h.phase
  rw [hworker] at hphase
  obtain ⟨hrests, hnext⟩ := hphase.wake_worker hpoint
  have hrequests := h.worker_requests hworker
  rw [Worker.unserved_eq_nil hrests.taskPending] at hrequests
  have hbooks := h.worker_books hworker
  have hcurrent := h.current_of_rest hworker hrests.point
  rw [Worker.woken_eq (Or.inr hpoint)]
  refine Inv.of_worker rfl hbooks hnext
    (hrequests.trans (congrArg _ (Eq.symm (Worker.unserved_eq_nil hrests.taskPending))))
    (fun _ hp => (by cases hp)) (fun hegl hreleased => Or.inl (hcurrent hegl hreleased))
    (fun _ hp => (by cases hp)) (h.answered w hworker)

/-- **One step** keeps the books. -/
theorem Inv.step (h : Inv s) (a : State.Action) : Inv (s.step a) := by
  unfold State.step
  cases hact : s.act a with
  | none => exact h
  | some t =>
    change Inv t
    unfold State.act at hact
    cases a with
    | call c =>
      obtain ⟨hmain, ht⟩ := Option.ite_none_right_eq_some.mp hact
      obtain rfl := Option.some.inj ht
      cases c with
      | create memory mutex condition thread => exact h.create hmain memory mutex condition thread
      | execute slot task => exact h.execute hmain slot task
      | destroy => exact h.destroy hmain
    | goOn thread a =>
      cases thread with
      | main =>
        obtain ⟨w, hworker, ht⟩ := Option.bind_eq_some_iff.mp hact
        exact h.goOn hworker ht
      | worker =>
        obtain ⟨w, hworker, ht⟩ := Option.bind_eq_some_iff.mp hact
        exact h.goOnWorker hworker ht
    | wake thread =>
      cases thread with
      | main =>
        obtain ⟨hmain, ht⟩ := Option.ite_none_right_eq_some.mp hact
        obtain rfl := Option.some.inj ht
        exact h.wake_main hmain
      | worker =>
        obtain ⟨w, hworker, ht⟩ := Option.bind_eq_some_iff.mp hact
        obtain ⟨hpoint, ht⟩ := Option.ite_none_right_eq_some.mp ht
        obtain rfl := Option.some.inj ht
        exact h.wake_worker hworker hpoint

theorem inv_start : Inv start :=
  Inv.nobody Books.start rfl rfl rfl rfl

theorem inv_run (as : List State.Action) : Inv (run State.step start as) :=
  run_invariant (fun _ a h => h.step a) as inv_start

/-! ## What the calls guarantee -/

/-- **Nothing is used after its release**, released twice or left behind: in every run each handle is
acquired, used and released in this order, and when no context is left, each has been released once. -/
theorem resources_released (as : List State.Action) :
    Proper (run State.step start as).log ∧
      ((run State.step start as).main = .idle → (run State.step start as).implementation = false →
        (run State.step start as).worker = none ∧
          ∀ r, .acquire r ∈ (run State.step start as).log →
            (run State.step start as).log.count (.release r) = 1) := by
  have h := inv_run as
  refine ⟨h.books.ledger.proper, fun hmain himplementation => ?_⟩
  have hphase := h.phase
  rw [hmain, himplementation] at hphase
  obtain ⟨hbooks, -⟩ := h.nobody_books hphase.empty
  exact ⟨hphase.empty, fun r hr => hbooks.count_release hr⟩

/-- What a caller of `dualboy_egl_context_execute` can rely on. -/
structure Answered (s : State) : Prop where
  /-- Requests are served in their order, each once. -/
  order : s.served.map Served.request <+: s.given
  /-- None is open when no call is. -/
  all : s.main = .idle → s.served.map Served.request = s.given
  /-- A task runs with its context current, while its caller waits. -/
  running : ∀ w request, s.worker = some w → w.point = .running request →
    w.current = some request.slot ∧ (s.main = .taskAwake ∨ s.main = .taskAsleep)
  /-- The caller gets what became of its own request. -/
  returned : s.main = .taskAwake → ∀ a, (s.step (.goOn .main a)).main = .idle →
    ∃ x, s.served.getLast? = some x ∧ s.given.getLast? = some x.request ∧
      (s.step (.goOn .main a)).returned = x.success
  /-- A request that passes the first checks is accepted. -/
  accepted : s.main = .idle → ∀ slot task, (s.execute slot task).error ≠ some .unavailable
  /-- Between calls no context is current, unless it could not be released after the last. -/
  free : s.main = .idle → ∀ w, s.worker = some w →
    (∀ x, s.served.getLast? = some x → x.released = true) → w.current = none

/-- A worker has nothing to serve while no call is open. -/
theorem Inv.all_served (h : Inv s) (hmain : s.main = .idle) :
    s.served.map Served.request = s.given := by
  have hphase := h.phase
  rw [hmain] at hphase
  cases himplementation : s.implementation with
  | false =>
    rw [himplementation] at hphase
    exact (h.nobody_books hphase.empty).2.symm
  | true =>
    rw [himplementation] at hphase
    obtain ⟨w, hworker, hrests⟩ := hphase.rests
    have hrequests := h.worker_requests hworker
    rw [Worker.unserved_eq_nil hrests.taskPending, List.append_nil] at hrequests
    exact hrequests.symm

theorem Phase.at_worker {b : Bool} {o : Option Worker} (h : Phase b .taskAwake o) :
    ∃ w, o = some w := by
  cases h with
  | starting | failed | serving | served => exact ⟨_, rfl⟩

/-- The calling thread returns from `dualboy_egl_context_execute` when its request has been served. -/
theorem Inv.returned (h : Inv s) (hmain : s.main = .taskAwake) {a : Answers}
    (hidle : (s.step (.goOn .main a)).main = .idle) :
    ∃ x, s.served.getLast? = some x ∧ s.given.getLast? = some x.request ∧
      (s.step (.goOn .main a)).returned = x.success := by
  have hphase := h.phase
  rw [hmain] at hphase
  obtain ⟨w, hworker⟩ := hphase.at_worker
  rw [hworker] at hphase
  obtain ⟨-, hw⟩ := hphase.atTask
  have hstep : s.step (.goOn .main a) = (s.goOn w).getD s := by
    simp only [State.step, State.act, hworker, Option.bind_some]
  rw [hstep] at hidle ⊢
  unfold State.goOn at hidle ⊢
  rw [hmain] at hidle ⊢
  dsimp only at hidle ⊢
  split at hidle
  · rename_i hcomplete
    obtain ⟨x, hlast, hx⟩ := h.answered w hworker hmain hcomplete
    refine ⟨x, hlast, ?_, ?_⟩
    · rcases hw with hw | ⟨hw, -⟩
      · cases hw.taskComplete.symm.trans hcomplete
      · have hrequests := h.worker_requests hworker
        rw [Worker.unserved_eq_nil hw.taskPending, List.append_nil] at hrequests
        rw [hrequests, List.getLast?_map, hlast]
        rfl
    · rw [if_pos hcomplete]
      exact hx.symm
  · cases hidle

theorem Inv.accepted (h : Inv s) (hmain : s.main = .idle) (slot : Nat) (task : Option Nat) :
    (s.execute slot task).error ≠ some .unavailable := by
  unfold State.execute
  split
  · rename_i w task himplementation hworker
    split
    · have hphase := h.phase
      rw [hmain, himplementation] at hphase
      obtain ⟨w', hw', hrests⟩ := hphase.rests
      obtain rfl : w' = w := Option.some.inj (hw'.symm.trans hworker)
      rw [if_neg (by simp [hrests.startupSuccess, hrests.stopping, hrests.taskPending])]
      simp
    · simp [State.fail]
  · simp [State.fail]

/-- **Every request is answered** as its caller expects, in every run. -/
theorem requests_answered (as : List State.Action) : Answered (run State.step start as) := by
  have h := inv_run as
  generalize run State.step start as = s at h
  refine ⟨?_, fun hmain => h.all_served hmain, fun w request hworker hpoint => ⟨?_, ?_⟩,
    fun hmain a hidle => h.returned hmain hidle, fun hmain slot task => h.accepted hmain slot task,
    fun hmain w hworker hreleased => ?_⟩
  · rw [h.requests]
    exact List.prefix_append _ _
  · exact h.running w request hworker hpoint
  · exact (h.atWork hworker (by rw [hpoint]; exact trivial)).2.1
  · have hphase := h.phase
    rw [hmain] at hphase
    cases himplementation : s.implementation with
    | false =>
      rw [himplementation] at hphase
      cases hphase.empty.symm.trans hworker
    | true =>
      rw [himplementation] at hphase
      obtain ⟨w', hw', hrests⟩ := hphase.rests
      obtain rfl : w' = w := Option.some.inj (hw'.symm.trans hworker)
      exact h.current_of_rest hworker hrests.point hrests.egl hreleased

/-! ## Every call returns -/

/-- The steps of the worker to the end of a task, and of its thread. -/
def WorkerPoint.taskLeft : WorkerPoint → Nat
  | .selecting _ => 5
  | .running _ => 4
  | .releasing _ _ => 3
  | .completing _ => 2
  | _ => 6

def WorkerPoint.stopLeft : WorkerPoint → Nat
  | .exited => 1
  | .finishing => 2
  | _ => 3

/-- The steps a call has to go, at most. -/
def MainPoint.toGo (w : Worker) : MainPoint → Nat
  | .idle => 0
  | .startupAwake | .startupAsleep =>
    if w.startupComplete then 2 else if w.point = .creating then 4 else 3
  | .startupJoining => 1
  | .taskAwake | .taskAsleep => if w.taskComplete then 1 else w.point.taskLeft
  | .joining => w.point.stopLeft

/-- The thread that is to move. -/
def MainPoint.owner (w : Worker) : MainPoint → State.Thread
  | .startupAwake | .startupAsleep => if w.startupComplete then .main else .worker
  | .taskAwake | .taskAsleep => if w.taskComplete then .main else .worker
  | .joining => if w.point = .exited then .main else .worker
  | .idle | .startupJoining => .main

def State.toGo (s : State) : Nat := s.worker.elim 0 fun w => s.main.toGo w

def State.owner (s : State) : Thread := s.worker.elim .main fun w => s.main.owner w

/-- A thread goes on. -/
def State.turn (t : Thread) : Action → Prop
  | .goOn t' _ => t' = t
  | _ => False

/-- An action that lowers what there is to go, or leaves it and the thread that is to move. -/
def State.Advances (s : State) (a : Action) : Prop :=
  (s.step a).toGo < s.toGo ∨
    (s.step a).toGo = s.toGo ∧ (s.step a).owner = s.owner ∧ ¬ turn s.owner a

theorem State.Advances.of_none {a : State.Action} (hact : s.act a = none) (hturn : ¬ State.turn s.owner a) :
    s.Advances a := by
  have hstep : s.step a = s := by
    unfold State.step
    rw [hact]
    rfl
  refine Or.inr ⟨?_, ?_, hturn⟩ <;> rw [hstep]

theorem State.step_eq {a : State.Action} (hact : s.act a = some t) : s.step a = t := by
  unfold State.step
  rw [hact]
  rfl

theorem State.Advances.call (hmain : s.main ≠ .idle) (c : State.Call) : s.Advances (.call c) :=
  .of_none (if_neg hmain) id

/-- A sleeper that wakes brings its call no further, and no other call back. -/
theorem State.Advances.wake (t : State.Thread) : s.Advances (.wake t) := by
  cases hact : s.act (.wake t) with
  | none => exact .of_none hact id
  | some s' =>
    have hstep := State.step_eq hact
    unfold State.act at hact
    cases t with
    | main =>
      obtain ⟨hmain, hs'⟩ := Option.ite_none_right_eq_some.mp hact
      obtain rfl := Option.some.inj hs'
      refine Or.inr ⟨?_, ?_, id⟩
      · rw [hstep]
        rcases hmain with hmain | hmain
        · rw [wakeMain_startup (Or.inr hmain)]
          unfold State.toGo
          rw [hmain]
          rfl
        · rw [wakeMain_task (Or.inr hmain)]
          unfold State.toGo
          rw [hmain]
          rfl
      · rw [hstep]
        rcases hmain with hmain | hmain
        · rw [wakeMain_startup (Or.inr hmain)]
          unfold State.owner
          rw [hmain]
          rfl
        · rw [wakeMain_task (Or.inr hmain)]
          unfold State.owner
          rw [hmain]
          rfl
    | worker =>
      obtain ⟨w, hworker, ht⟩ := Option.bind_eq_some_iff.mp hact
      obtain ⟨hpoint, ht⟩ := Option.ite_none_right_eq_some.mp ht
      obtain rfl := Option.some.inj ht
      rw [Worker.woken_eq (Or.inr hpoint)] at hstep
      refine Or.inr ⟨?_, ?_, id⟩
      · rw [hstep]
        unfold State.toGo
        rw [hworker]
        cases hm : s.main <;>
          simp [State.put, MainPoint.toGo, WorkerPoint.taskLeft, WorkerPoint.stopLeft, hpoint, hm]
      · rw [hstep]
        unfold State.owner
        rw [hworker]
        cases hm : s.main <;> simp [State.put, MainPoint.owner, hpoint, hm]

theorem Phase.has_worker {b : Bool} {main : MainPoint} {o : Option Worker} (h : Phase b main o)
    (hmain : main ≠ .idle) : ∃ w, o = some w := by
  cases h with
  | nobody => exact absurd rfl hmain
  | starting | started | failed | resting | serving | served | joining => exact ⟨_, rfl⟩

/-- Whoever sleeps in a call waits for the worker. -/
theorem Phase.owner_of_asleep {b : Bool} {main : MainPoint} (h : Phase b main (some w))
    (hmain : main = .startupAsleep ∨ main = .taskAsleep) : main.owner w = .worker := by
  cases h with
  | starting hstartup h =>
    rcases hstartup with rfl | rfl <;> exact if_neg (by simp [h.startupComplete])
  | serving htask h => rcases htask with rfl | rfl <;> exact if_neg (by simp [h.taskComplete])
  | failed hstartup => rcases hstartup with rfl | rfl <;> simp at hmain
  | started | resting | served | joining => simp at hmain

theorem State.toGo_eq (hworker : s.worker = some w) : s.toGo = s.main.toGo w := by
  unfold State.toGo
  rw [hworker]
  rfl

theorem State.owner_eq (hworker : s.worker = some w) : s.owner = s.main.owner w := by
  unfold State.owner
  rw [hworker]
  rfl

theorem State.Advances.lower {a : State.Action} (hworker : s.worker = some w)
    (hact : s.act a = some t) (h : t.toGo < s.main.toGo w) : s.Advances a := by
  refine Or.inl ?_
  rw [State.step_eq hact, State.toGo_eq hworker]
  exact h

theorem State.Advances.stay {a : State.Action} (hworker : s.worker = some w) (hact : s.act a = some t)
    (hgo : t.toGo = s.main.toGo w) (howner : t.owner = s.main.owner w)
    (hturn : ¬ State.turn (s.main.owner w) a) : s.Advances a := by
  refine Or.inr ⟨?_, ?_, ?_⟩
  · rw [State.step_eq hact, State.toGo_eq hworker]
    exact hgo
  · rw [State.step_eq hact, State.owner_eq hworker]
    exact howner
  · rw [State.owner_eq hworker]
    exact hturn

/-- The calling thread's turn. -/
theorem Inv.advances_main (h : Inv s) (hmain : s.main ≠ .idle) (a : Answers) :
    s.Advances (.goOn .main a) := by
  have hphase := h.phase
  obtain ⟨w, hworker⟩ := hphase.has_worker hmain
  rw [hworker] at hphase
  have hact : s.act (.goOn .main a) = s.goOn w := by
    simp only [State.act, hworker, Option.bind_some]
  have howner := State.owner_eq hworker
  unfold State.goOn at hact
  cases hm : s.main with
  | idle => exact absurd hm hmain
  | startupAwake =>
    rw [hm] at hact
    dsimp only at hact
    split at hact
    · rename_i hcomplete
      split at hact
      · refine .lower hworker hact ?_
        simp [State.toGo, State.logged, hworker, MainPoint.toGo, hm, hcomplete]
      · refine .lower hworker hact ?_
        simp [State.toGo, State.logged, hworker, MainPoint.toGo, hm, hcomplete]
    · rename_i hcomplete
      refine .stay hworker hact ?_ ?_ ?_
      · simp [State.toGo, State.logged, hworker, MainPoint.toGo, hm]
      · simp [State.owner, State.logged, hworker, MainPoint.owner, hm]
      · simp [State.turn, MainPoint.owner, hm, hcomplete]
  | startupAsleep =>
    rw [hm] at hact hphase howner
    refine .of_none hact ?_
    rw [howner, hphase.owner_of_asleep (Or.inl rfl)]
    simp [State.turn]
  | startupJoining =>
    rw [hm] at hact hphase
    dsimp only at hact
    rw [if_pos hphase.atStartupJoin.2.point] at hact
    refine .lower hworker hact ?_
    simp [State.toGo, State.dispose, State.freeWorker, State.fail, MainPoint.toGo, hm]
  | taskAwake =>
    rw [hm] at hact
    dsimp only at hact
    split at hact
    · rename_i hcomplete
      refine .lower hworker hact ?_
      simp [State.toGo, State.put, MainPoint.toGo, hm, hcomplete]
    · rename_i hcomplete
      refine .stay hworker hact ?_ ?_ ?_
      · simp [State.toGo, State.logged, hworker, MainPoint.toGo, hm]
      · simp [State.owner, State.logged, hworker, MainPoint.owner, hm]
      · simp [State.turn, MainPoint.owner, hm, hcomplete]
  | taskAsleep =>
    rw [hm] at hact hphase howner
    refine .of_none hact ?_
    rw [howner, hphase.owner_of_asleep (Or.inr rfl)]
    simp [State.turn]
  | joining =>
    rw [hm] at hact howner
    dsimp only at hact
    split at hact
    · rename_i hexited
      refine .lower hworker hact ?_
      simp [State.toGo, State.dispose, State.freeWorker, MainPoint.toGo, WorkerPoint.stopLeft, hm, hexited]
    · rename_i hexited
      refine .of_none hact ?_
      rw [howner]
      simp [State.turn, MainPoint.owner, hexited]

theorem Worker.Resting.owner (h : w.Resting) {main : MainPoint}
    (hmain : main = .startupAwake ∨ main = .taskAwake ∧ w.taskComplete = true) :
    main.owner w = .main := by
  rcases hmain with rfl | ⟨rfl, hcomplete⟩
  · exact if_pos h.startupComplete
  · exact if_pos hcomplete

/-- A worker that sleeps or has exited is not to move. -/
theorem Phase.owner_of_still {b : Bool} {main : MainPoint} (h : Phase b main (some w))
    (hpoint : w.point = .asleep ∨ w.point = .exited) : main.owner w = .main := by
  cases h with
  | starting _ h =>
    rcases h.point with ⟨heq, -⟩ | heq <;> rw [heq] at hpoint <;> simp at hpoint
  | started h => exact h.owner (Or.inl rfl)
  | failed hmain h =>
    rcases hmain with rfl | rfl
    · exact if_pos h.startupComplete
    · rfl
  | resting h => rfl
  | serving _ h =>
    rcases h.point with heq | heq | heq | ⟨_, heq⟩ | ⟨_, heq⟩ <;> rw [heq] at hpoint <;>
      simp at hpoint
  | served h hcomplete => exact h.owner (Or.inr ⟨rfl, hcomplete⟩)
  | joining h =>
    rcases h.point with ⟨heq | heq, -⟩ | ⟨heq, -⟩
    · rw [heq] at hpoint
      simp at hpoint
    · rw [heq] at hpoint
      simp at hpoint
    · exact if_pos heq

theorem Worker.reportStartup_complete (w : Worker) : w.reportStartup.startupComplete = true := by
  unfold Worker.reportStartup
  dsimp only
  split
  · rfl
  · obtain ⟨point, heq, -⟩ := Worker.observe_eq
      { w with startupSuccess := w.egl.isSome, startupComplete := true }
    rw [heq]

/-- A look brings the call further, or leaves the worker at rest. -/
theorem Phase.observe_toGo {b : Bool} {main : MainPoint} (h : Phase b main (some w))
    (hmain : main ≠ .idle) (hpoint : w.point = .awake) :
    main.toGo w.observe < main.toGo w ∨
      main.toGo w.observe = main.toGo w ∧ main.owner w.observe = main.owner w ∧
        main.owner w = .main := by
  cases h with
  | starting _ hw => rcases hw.point with ⟨heq, -⟩ | heq <;> cases hpoint.symm.trans heq
  | failed _ hw => cases hpoint.symm.trans hw.point
  | resting => exact absurd rfl hmain
  | started hw =>
    rw [hw.observe]
    refine Or.inr ⟨?_, ?_, hw.owner (Or.inl rfl)⟩
    · simp [MainPoint.toGo, hw.startupComplete]
    · simp [MainPoint.owner]
  | served hw hcomplete =>
    rw [hw.observe]
    refine Or.inr ⟨?_, ?_, hw.owner (Or.inr ⟨rfl, hcomplete⟩)⟩
    · simp [MainPoint.toGo, hcomplete]
    · simp [MainPoint.owner]
  | serving htask hw =>
    rw [hw.observe]
    left
    rcases htask with rfl | rfl <;>
      simp [MainPoint.toGo, WorkerPoint.taskLeft, hw.taskComplete, hpoint]
  | joining hw =>
    rw [hw.observe]
    left
    simp [MainPoint.toGo, WorkerPoint.stopLeft, hpoint]

theorem Worker.Serving.toGo (h : w.Serving) {main : MainPoint}
    (hmain : main = .taskAwake ∨ main = .taskAsleep) (hv : v.taskComplete = false)
    (hless : v.point.taskLeft < w.point.taskLeft) : main.toGo v < main.toGo w := by
  rcases hmain with rfl | rfl
  · simpa [MainPoint.toGo, hv, h.taskComplete] using hless
  · simpa [MainPoint.toGo, hv, h.taskComplete] using hless

/-- The worker's turn. -/
theorem Inv.advances_worker (h : Inv s) (hmain : s.main ≠ .idle) (a : Answers) :
    s.Advances (.goOn .worker a) := by
  have hphase := h.phase
  obtain ⟨w, hworker⟩ := hphase.has_worker hmain
  rw [hworker] at hphase
  have hact : s.act (.goOn .worker a) = s.goOnWorker w a := by
    simp only [State.act, hworker, Option.bind_some]
  have howner := State.owner_eq hworker
  unfold State.goOnWorker at hact
  cases hp : w.point with
  | creating =>
    rw [hp] at hact
    obtain ⟨-, hstartup, hw⟩ := hphase.atCreation (Or.inl hp)
    refine .lower hworker hact ?_
    rcases hstartup with hm | hm <;> simp [State.toGo, MainPoint.toGo, hm, hw.startupComplete, hp]
  | reporting =>
    rw [hp] at hact
    obtain ⟨-, hstartup, hw⟩ := hphase.atCreation (Or.inr hp)
    refine .lower hworker hact ?_
    rw [wakeMain_startup (s := s.logged w.signal) hstartup]
    rcases hstartup with hm | hm <;>
      simp [State.toGo, State.put, MainPoint.toGo, hm, hw.startupComplete, hp, w.reportStartup_complete]
  | awake =>
    rw [hp] at hact
    rcases hphase.observe_toGo hmain hp with hless | ⟨heq, hsame, hmine⟩
    · exact .lower hworker hact hless
    · refine .stay hworker hact heq hsame ?_
      rw [hmine]
      simp [State.turn]
  | asleep =>
    rw [hp] at hact
    refine .of_none hact ?_
    rw [howner, hphase.owner_of_still (Or.inl hp)]
    simp [State.turn]
  | selecting request =>
    rw [hp] at hact
    obtain ⟨-, htask, hw⟩ := h.atWork hworker (by rw [hp]; exact trivial)
    obtain ⟨i, hi⟩ := Option.isSome_iff_exists.mp hw.egl
    rw [hi] at hact
    refine .lower hworker hact (hw.toGo htask hw.taskComplete ?_)
    rw [hp]
    dsimp only
    split
    · exact Nat.lt_succ_self 4
    · exact Nat.lt_of_lt_of_le (Nat.lt_succ_self 3) (Nat.le_succ 4)
  | running request =>
    rw [hp] at hact
    obtain ⟨-, htask, hw⟩ := h.atWork hworker (by rw [hp]; exact trivial)
    refine .lower hworker hact (hw.toGo htask hw.taskComplete ?_)
    rw [hp]
    exact Nat.lt_succ_self 3
  | releasing request outcome =>
    rw [hp] at hact
    obtain ⟨-, htask, hw⟩ := h.atWork hworker (by rw [hp]; exact trivial)
    obtain ⟨i, hi⟩ := Option.isSome_iff_exists.mp hw.egl
    rw [hi] at hact
    refine .lower hworker hact (hw.toGo htask hw.taskComplete ?_)
    rw [hp]
    exact Nat.lt_succ_self 2
  | completing success =>
    rw [hp] at hact
    obtain ⟨-, htask, hw⟩ := h.atWork hworker (by rw [hp]; exact trivial)
    refine .lower hworker hact ?_
    rw [wakeMain_task (s := s.logged w.signal) htask, hw.reportTask]
    rcases htask with hm | hm <;>
      simp [State.toGo, State.put, MainPoint.toGo, WorkerPoint.taskLeft, hm, hw.taskComplete, hp]
  | finishing =>
    rw [hp] at hact
    obtain ⟨-, hm, hw⟩ := hphase.atFinish hp
    obtain ⟨i, hi⟩ : ∃ i, w.egl = some i := by
      rcases hw.point with ⟨-, hegl⟩ | ⟨hexited, -⟩
      · exact Option.isSome_iff_exists.mp hegl
      · cases hp.symm.trans hexited
    rw [hi] at hact
    refine .lower hworker hact ?_
    simp [State.toGo, MainPoint.toGo, WorkerPoint.stopLeft, hm, hp]
  | exited =>
    rw [hp] at hact
    refine .of_none hact ?_
    rw [howner, hphase.owner_of_still (Or.inr hp)]
    simp [State.turn]

/-- Whoever moves in a call brings it further, or leaves the turn where it was. -/
theorem Inv.advances (h : Inv s) (hmain : s.main ≠ .idle) (a : State.Action) : s.Advances a := by
  cases a with
  | call c => exact .call hmain c
  | goOn t a =>
    cases t with
    | main => exact h.advances_main hmain a
    | worker => exact h.advances_worker hmain a
  | wake t => exact .wake t

/-- **Every call returns**: from any state a run comes to, when both threads keep going on. -/
theorem calls_return (as : List State.Action) {next : Nat → State.Action}
    (hfair : ∀ t m, ∃ n, m ≤ n ∧ State.turn t (next n)) :
    ∃ n, (run State.step (run State.step start as) (firstOf next n)).main = .idle := by
  have hstep : ∀ s a t, Inv s → ¬ (fun s : State => s.main = .idle) s →
      (fun (s : State) t => s.owner = t) s t → Inv (s.step a) ∧ ((s.step a).toGo < s.toGo ∨
        (s.step a).toGo = s.toGo ∧ (s.step a).owner = t ∧ ¬ State.turn t a) := by
    rintro s a t h hmain rfl
    exact ⟨h.step a, h.advances hmain a⟩
  exact owed_run_comes_to State.toGo _ State.turn hstep (fun s _ _ => ⟨s.owner, rfl⟩) hfair (inv_run as)

/-- A driver that does all that it is asked to. -/
def Answers.good : Answers where
  memory := true
  dlopen _ := true
  symbol _ := true
  coreDisplay := some true
  extensionDisplay := none
  initializeDisplay := true
  bindApi := true
  config := some 1
  fallbackConfig := none
  surface _ := true
  context _ := true
  select _ := true
  unbind _ := true
  gladLoad _ := true
  version32 _ := true
  dispatch _ := (1, 2, 3)
  task := true
  lastUnbind := true
  releaseThread := true

theorem create_returns :
    ∃ n, (run State.step (run State.step start [.call (.create true true true true)])
      (firstOf (fun n => .goOn (if n % 2 = 0 then .main else .worker) .good) n)).main = .idle := by
  refine calls_return [.call (.create true true true true)] fun t m => ?_
  cases t with
  | main => exact ⟨2 * m, by omega, if_pos (by omega)⟩
  | worker => exact ⟨2 * m + 1, by omega, if_neg (by omega)⟩

end

end DualBoy.Nds.Egl
