import DualBoy.Nds.EglContext

/-!
# The worker of an OpenGL context

`egl_context.c`: the thread that calls `dualboy_egl_context_create`, `_execute` and `_destroy`, and the
worker that owns the contexts, by their critical sections. Both sleep on one condition variable, which
is always signalled under the mutex; a sleeper may also wake for nothing.

* `State.step`: a call, a thread that goes on, or a wakeup.
* `Phase`: where the two threads may be together.
* `Inv`: the phase, the books of what is held, and what became of the requests.
* **`Inv.create`**, **`Inv.execute`**, **`Inv.destroy`**, **`Inv.goOn`**: the calling thread keeps it.
-/

namespace DualBoy.Nds.Egl

open DualBoy.Lib

/-! ## States -/

/-- A task with its context, by a number, and the slot it is for. -/
structure Request where
  task : Option Nat
  slot : Fin 2
  deriving DecidableEq, Repr

/-- What became of a request: what its task returned, if its context could be selected, and whether
the context was released. -/
structure Served where
  request : Request
  outcome : Option Bool
  released : Bool
  deriving DecidableEq, Repr

/-- The worker's `success`. -/
def Served.success (x : Served) : Bool := x.outcome = some true && x.released

/-- Where the worker is in `egl_worker_main`. -/
inductive WorkerPoint where
  /-- in `create_implementation` -/
  | creating
  /-- about to lock, to report the startup -/
  | reporting
  /-- out of `pthread_cond_wait` and in it -/
  | awake
  | asleep
  /-- about to call `make_slot_current`, the task, and `release_current` -/
  | selecting (request : Request)
  | running (request : Request)
  | releasing (request : Request) (outcome : Option Bool)
  /-- about to lock, to report the task -/
  | completing (success : Bool)
  /-- about to call `release_implementation` -/
  | finishing
  | exited
  deriving DecidableEq, Repr

/-- `struct dualboy_egl_worker`, with its thread: what its handles are, and what is current on it. -/
structure Worker where
  address : Nat
  mutex : Option Nat
  condition : Option Nat
  thread : Option Nat
  egl : Option Implementation
  current : Option (Fin 2)
  request : Request
  startupError : Option EglError
  threadStarted : Bool
  startupComplete : Bool
  startupSuccess : Bool
  taskPending : Bool
  taskComplete : Bool
  taskSuccess : Bool
  stopping : Bool
  point : WorkerPoint

/-- What `calloc` leaves of it. -/
def Worker.empty (address : Nat) : Worker where
  address := address
  mutex := none
  condition := none
  thread := none
  egl := none
  current := none
  request := ⟨none, 0⟩
  startupError := none
  threadStarted := false
  startupComplete := false
  startupSuccess := false
  taskPending := false
  taskComplete := false
  taskSuccess := false
  stopping := false
  point := .creating

/-- Where the calling thread is. -/
inductive MainPoint where
  /-- in no call -/
  | idle
  /-- in `dualboy_egl_context_create`: out of `pthread_cond_wait`, in it, and before `pthread_join` -/
  | startupAwake
  | startupAsleep
  | startupJoining
  /-- in `dualboy_egl_context_execute`: out of `pthread_cond_wait` and in it -/
  | taskAwake
  | taskAsleep
  /-- in `dualboy_egl_context_destroy`, before `pthread_join` -/
  | joining
  deriving DecidableEq, Repr

/-- A context with its threads. `implementation` says whether the context's pointer is set. -/
structure State where
  implementation : Bool
  worker : Option Worker
  main : MainPoint
  /-- What the last call returned, and what it left in the error buffer. -/
  returned : Bool
  error : Option EglError
  log : List (LifeEvent Nat)
  next : Nat
  /-- The requests that were accepted, and what became of them. Nothing reads them. -/
  given : List Request
  served : List Served

def start : State where
  implementation := false
  worker := none
  main := .idle
  returned := false
  error := none
  log := []
  next := 0
  given := []
  served := []

namespace Worker

/-- What a thread uses in a critical section, and with the condition variable in it. -/
def lock (w : Worker) : List (LifeEvent Nat) := .use w.address :: w.mutex.toList.map .use

def signal (w : Worker) : List (LifeEvent Nat) := w.lock ++ w.condition.toList.map .use

/-- `pthread_cond_broadcast`, for the worker. -/
def woken (w : Worker) : Worker := if w.point = .asleep then { w with point := .awake } else w

/-- The worker looks at what it has to do, with the mutex locked. -/
def observe (w : Worker) : Worker :=
  if w.stopping then { w with point := .finishing }
  else if w.taskPending then { w with point := .selecting w.request }
  else { w with point := .asleep }

/-- The worker reports its startup, and goes on if it has an implementation. -/
def reportStartup (w : Worker) : Worker :=
  let w := { w with startupSuccess := w.egl.isSome, startupComplete := true }
  if w.egl.isNone then { w with point := .exited } else w.observe

/-- The worker reports a task, and goes on. -/
def reportTask (w : Worker) (success : Bool) : Worker :=
  { w with taskSuccess := success, taskPending := false, taskComplete := true }.observe

end Worker

namespace State

/-! ## The calls -/

def logged (s : State) (events : List (LifeEvent Nat)) : State := { s with log := s.log ++ events }

def put (s : State) (w : Worker) : State := { s with worker := some w }

def fail (s : State) (error : EglError) : State :=
  { s with main := .idle, returned := false, error := some error }

/-- `pthread_cond_broadcast`, for the calling thread. -/
def wakeMain (s : State) : State :=
  match s.main with
  | .startupAsleep => { s with main := .startupAwake }
  | .taskAsleep => { s with main := .taskAwake }
  | _ => s

/-- The thread is joined, the condition variable and the mutex are destroyed, and the block is freed. -/
def joinThread (s : State) (w : Worker) : State :=
  (s.logged (w.thread.toList.map .release)).put { w with thread := none }

def destroyCondition (s : State) (w : Worker) : State :=
  (s.logged (w.condition.toList.map .release)).put { w with condition := none }

def destroyMutex (s : State) (w : Worker) : State :=
  (s.logged (w.mutex.toList.map .release)).put { w with mutex := none }

def freeWorker (s : State) (w : Worker) : State :=
  { s.logged [.release w.address] with worker := none }

/-- The end of a worker, from its join on. -/
def dispose (s : State) (w : Worker) : State :=
  let s := s.joinThread w
  let s := s.destroyCondition { w with thread := none }
  let s := s.destroyMutex { w with thread := none, condition := none }
  s.freeWorker { w with thread := none, condition := none, mutex := none }

/-- The worker has been given a new handle. -/
def acquired (s : State) (w : Worker) : State :=
  { s with worker := some w, log := s.log ++ [.acquire s.next], next := s.next + 1 }

/-- `dualboy_egl_context_create` up to its wait, given whether there is memory for the worker, and
whether its mutex, its condition variable and its thread can be made. -/
def create (s : State) (memory mutex condition thread : Bool) : State :=
  if s.implementation then s.fail .lifecycle
  else if ¬memory then s.fail .noWorker
  else
    let w := Worker.empty s.next
    let s := s.acquired w
    if ¬mutex then (s.freeWorker w).fail .noMutex
    else
      let v := { w with mutex := some s.next }
      let s := s.acquired v
      if ¬condition then ((s.destroyMutex v).freeWorker w).fail .noCondition
      else
        let u := { v with condition := some s.next }
        let s := s.acquired u
        if ¬thread then (((s.destroyCondition u).destroyMutex v).freeWorker w).fail .noThread
        else
          { s.acquired { u with thread := some s.next, threadStarted := true } with
            main := .startupAwake
            error := none }

/-- `dualboy_egl_context_execute` up to its wait. -/
def execute (s : State) (slot : Nat) (task : Option Nat) : State :=
  match s.implementation, s.worker, task with
  | true, some w, some task =>
    if h : slot < 2 then
      if ¬w.startupSuccess ∨ w.stopping ∨ w.taskPending then (s.logged w.lock).fail .unavailable
      else
        let request : Request := ⟨some task, ⟨slot, h⟩⟩
        { s.logged w.signal with
          worker := some { w with request, taskComplete := false, taskPending := true }.woken
          main := .taskAsleep
          error := none
          given := s.given ++ [request] }
    else s.fail .notReady
  | _, _, _ => s.fail .notReady

/-- `dualboy_egl_context_destroy` up to its join. -/
def destroy (s : State) : State :=
  match s.implementation, s.worker with
  | true, some w =>
    { s.logged w.signal with
      implementation := false
      worker := some { w with stopping := true }.woken
      main := .joining }
  | _, _ => { s with implementation := false }

/-- The calling thread goes on with its call. -/
def goOn (s : State) (w : Worker) : Option State :=
  match s.main with
  | .startupAwake =>
    if w.startupComplete then
      if w.startupSuccess then
        some { s.logged w.lock with implementation := true, main := .idle, returned := true }
      else some { s.logged w.lock with main := .startupJoining }
    else some { s.logged w.signal with main := .startupAsleep }
  | .startupJoining =>
    if w.point = .exited then some ((s.dispose w).fail (w.startupError.getD .startup)) else none
  | .taskAwake =>
    if w.taskComplete then
      some { (s.logged w.lock).put { w with request := { w.request with task := none } } with
        main := .idle
        returned := w.taskSuccess }
    else some { s.logged w.signal with main := .taskAsleep }
  | .joining => if w.point = .exited then some { s.dispose w with main := .idle } else none
  | _ => none

/-! ## The worker -/

/-- The worker at its EGL work. -/
def side (s : State) (w : Worker) (i : Implementation) : Side := ⟨i, w.current, s.log, s.next⟩

/-- What a step of the EGL work leaves behind. -/
def settle (s : State) (w : Worker) (r : Side × Option EglError) (point : WorkerPoint) : State :=
  { s with
    worker := some { w with egl := some r.1.implementation, current := r.1.current, point }
    log := r.1.log
    next := r.1.next
    error := r.2.or s.error }

/-- The worker goes on. -/
def goOnWorker (s : State) (w : Worker) (a : Answers) : Option State :=
  match w.point with
  | .creating =>
    let r := createImplementation a s.log s.next
    some { s with
      worker := some { w with
        egl := r.result.toOption
        current := r.current
        startupError := match r.result with
          | .ok _ => none
          | .error error => some error
        point := .reporting }
      log := r.log ++ [.use w.address]
      next := r.next }
  | .reporting => some ((s.logged w.signal).wakeMain.put w.reportStartup)
  | .awake => some ((s.logged w.signal).put w.observe)
  | .selecting request =>
    w.egl.map fun i =>
      let r := (s.side w i).makeSlotCurrent request.slot (a.select request.slot)
      s.settle w r
        (if r.2 = none ∧ request.task ≠ none then .running request else .releasing request none)
  | .running request =>
    some { s.put { w with point := .releasing request (some a.task) } with
      error := if a.task then s.error else some .task }
  | .releasing request outcome =>
    w.egl.map fun i =>
      let r := (s.side w i).releaseCurrent (a.unbind request.slot)
      let x : Served := ⟨request, outcome, r.2 = none⟩
      { s.settle w r (.completing x.success) with served := s.served ++ [x] }
  | .completing success => some ((s.logged w.signal).wakeMain.put (w.reportTask success))
  | .finishing =>
    w.egl.map fun i =>
      let t := (s.side w i).releaseResources a
      { s with
        worker := some { w with egl := none, current := t.current, point := .exited }
        log := (s.side w i).releaseImplementation a ++ [.use w.address]
        next := t.next }
  | .asleep | .exited => none

/-! ## Steps -/

inductive Thread where
  | main
  | worker
  deriving DecidableEq, Repr

inductive Call where
  | create (memory mutex condition thread : Bool)
  | execute (slot : Nat) (task : Option Nat)
  | destroy
  deriving DecidableEq, Repr

/-- What happens next. -/
inductive Action where
  | call (c : Call)
  | goOn (t : Thread) (a : Answers)
  /-- a sleeper wakes without a notification -/
  | wake (t : Thread)

def call (s : State) : Call → State
  | .create memory mutex condition thread => s.create memory mutex condition thread
  | .execute slot task => s.execute slot task
  | .destroy => s.destroy

/-- The step an action makes, when the thread it is of has come to it. -/
def act (s : State) : Action → Option State
  | .call c => if s.main = .idle then some (s.call c) else none
  | .goOn .main _ => s.worker.bind s.goOn
  | .goOn .worker a => s.worker.bind fun w => s.goOnWorker w a
  | .wake .main => if s.main = .startupAsleep ∨ s.main = .taskAsleep then some s.wakeMain else none
  | .wake .worker =>
    s.worker.bind fun w => if w.point = .asleep then some (s.put w.woken) else none

/-- One step; what no thread has come to does nothing. -/
def step (s : State) (a : Action) : State := (s.act a).getD s

end State

/-! ## The phases of a call -/

namespace Worker

/-- The worker is up, and has an implementation to serve requests with. -/
structure Up (w : Worker) : Prop where
  startupComplete : w.startupComplete = true
  startupSuccess : w.startupSuccess = true
  complete : ∀ i, w.egl = some i → i.Complete
  egl : w.egl.isSome = true

/-- The worker is creating its implementation, or has created it and not reported. -/
structure Starting (w : Worker) : Prop where
  startupComplete : w.startupComplete = false
  taskPending : w.taskPending = false
  stopping : w.stopping = false
  complete : ∀ i, w.egl = some i → i.Complete
  point : w.point = .creating ∧ w.egl = none ∨ w.point = .reporting

/-- The worker has no implementation, and says so. -/
structure Failed (w : Worker) : Prop where
  startupComplete : w.startupComplete = true
  startupSuccess : w.startupSuccess = false
  egl : w.egl = none
  taskPending : w.taskPending = false
  point : w.point = .exited

structure Resting (w : Worker) : Prop extends Up w where
  taskPending : w.taskPending = false
  stopping : w.stopping = false
  point : w.point = .awake ∨ w.point = .asleep

/-- The worker has a request, and its turn. -/
structure Serving (w : Worker) : Prop extends Up w where
  taskPending : w.taskPending = true
  taskComplete : w.taskComplete = false
  stopping : w.stopping = false
  task : w.request.task ≠ none
  point : w.point = .awake ∨ w.point = .selecting w.request ∨ w.point = .running w.request ∨
    (∃ outcome, w.point = .releasing w.request outcome) ∨ ∃ success, w.point = .completing success

/-- The worker has been told to stop. -/
structure Stopping (w : Worker) : Prop where
  stopping : w.stopping = true
  taskPending : w.taskPending = false
  complete : ∀ i, w.egl = some i → i.Complete
  point : (w.point = .awake ∨ w.point = .finishing) ∧ w.egl.isSome = true ∨
    w.point = .exited ∧ w.egl = none

/-- The requests the worker has accepted and not served. -/
def unserved (w : Worker) : List Request :=
  match w.point with
  | .completing _ => []
  | _ => if w.taskPending then [w.request] else []

end Worker

/-- Where the calling thread and the worker may be together. A sleeper has something to wait for. -/
inductive Phase : Bool → MainPoint → Option Worker → Prop
  | nobody : Phase false .idle none
  | starting {main : MainPoint} {w : Worker} (hmain : main = .startupAwake ∨ main = .startupAsleep)
      (h : w.Starting) : Phase false main (some w)
  | started {w : Worker} (h : w.Resting) : Phase false .startupAwake (some w)
  | failed {main : MainPoint} {w : Worker} (hmain : main = .startupAwake ∨ main = .startupJoining)
      (h : w.Failed) : Phase false main (some w)
  | resting {w : Worker} (h : w.Resting) : Phase true .idle (some w)
  | serving {main : MainPoint} {w : Worker} (hmain : main = .taskAwake ∨ main = .taskAsleep)
      (h : w.Serving) : Phase true main (some w)
  | served {w : Worker} (h : w.Resting) (hcomplete : w.taskComplete = true) :
      Phase true .taskAwake (some w)
  | joining {w : Worker} (h : w.Stopping) : Phase false .joining (some w)

/-! ## The books -/

/-- What the calling thread made of a worker. -/
inductive Own where
  | worker
  | mutex
  | condition
  | thread
  deriving DecidableEq, Repr

def Worker.own (w : Worker) : Own → Option Nat
  | .worker => some w.address
  | .mutex => w.mutex
  | .condition => w.condition
  | .thread => w.thread

/-- The pieces of an implementation, if there is one. -/
def pieces : Option Implementation → Piece → Option Nat
  | none => fun _ => none
  | some i => i.piece

/-- Who holds what: the worker's handles and those of its implementation. -/
def State.holder (s : State) : Own ⊕ Piece → Option Nat :=
  s.worker.elim (fun _ => none) fun w => Sum.elim w.own (pieces w.egl)

/-- What holds in every state. -/
structure Inv (s : State) : Prop where
  books : Books s.holder s.log s.next
  phase : Phase s.implementation s.main s.worker
  requests : s.given = s.served.map Served.request ++ s.worker.elim [] Worker.unserved
  /-- A task runs with its own context current. -/
  running : ∀ w request, s.worker = some w → w.point = .running request →
    w.current = some request.slot
  /-- No context is current between requests, unless the last one could not be released. -/
  released : ∀ w, s.worker = some w → w.egl.isSome = true → (∀ x, s.served.getLast? = some x → x.released = true) →
    w.current = none ∨ (∃ request, w.point = .running request) ∨
      ∃ request outcome, w.point = .releasing request outcome
  completing : ∀ w success, s.worker = some w → w.point = .completing success →
    ∃ x, s.served.getLast? = some x ∧ x.success = success
  answered : ∀ w, s.worker = some w → s.main = .taskAwake → w.taskComplete = true →
    ∃ x, s.served.getLast? = some x ∧ x.success = w.taskSuccess

/-! ### Handles -/

section

variable {s t : State} {v w : Worker} {log : List (LifeEvent Nat)} {next : Nat}

/-- A worker's handles, as the books have them. -/
abbrev Worker.Books (w : Worker) (log : List (LifeEvent Nat)) (next : Nat) : Prop :=
  Lib.Books (Sum.elim w.own (pieces w.egl)) log next

theorem Worker.Books.acquire (h : w.Books log next) {o : Own} (hfree : w.own o = none)
    (hown : v.own = Function.update w.own o (some next)) (hegl : v.egl = w.egl) :
    v.Books (log ++ [.acquire next]) (next + 1) := by
  unfold Worker.Books
  rw [hown, hegl, ← Sum.update_elim_inl]
  exact Lib.Books.acquire h hfree

theorem Worker.Books.giveUp (h : w.Books log next) (o : Own)
    (hown : v.own = Function.update w.own o none) (hegl : v.egl = w.egl) :
    v.Books (log ++ (w.own o).toList.map .release) next := by
  unfold Worker.Books
  rw [hown, hegl, ← Sum.update_elim_inl]
  exact Lib.Books.giveUp h (Sum.inl o)

theorem Worker.Books.use (h : w.Books log next) (o : Own) :
    w.Books (log ++ (w.own o).toList.map .use) next := by
  cases hheld : w.own o with
  | none => simpa using h
  | some handle => exact Lib.Books.use h (i := Sum.inl o) hheld

theorem Worker.Books.lock (h : w.Books log next) : w.Books (log ++ w.lock) next := by
  have hlocked := (h.use .worker).use .mutex
  rw [List.append_assoc] at hlocked
  exact hlocked

theorem Worker.Books.signal (h : w.Books log next) : w.Books (log ++ w.signal) next := by
  have hsignalled := h.lock.use .condition
  rw [List.append_assoc] at hsignalled
  exact hsignalled

theorem Worker.own_mutex (w : Worker) (mutex : Option Nat) :
    { w with mutex }.own = Function.update w.own .mutex mutex := by
  funext o
  cases o <;> rfl

theorem Worker.own_condition (w : Worker) (condition : Option Nat) :
    { w with condition }.own = Function.update w.own .condition condition := by
  funext o
  cases o <;> rfl

theorem Worker.own_thread (w : Worker) (thread : Option Nat) (threadStarted : Bool) :
    { w with thread, threadStarted }.own = Function.update w.own .thread thread := by
  funext o
  cases o <;> rfl

/-- A block is freed last. -/
theorem Worker.Books.free (h : w.Books log next) (hmutex : w.mutex = none)
    (hcondition : w.condition = none) (hthread : w.thread = none) (hegl : w.egl = none) :
    Lib.Books (fun _ : Own ⊕ Piece => none) (log ++ [.release w.address]) next := by
  have hfreed := Lib.Books.release h (i := Sum.inl Own.worker) rfl
  have hnothing : Function.update (Sum.elim w.own (pieces w.egl)) (Sum.inl Own.worker) none =
      fun _ => none := by
    rw [Sum.update_elim_inl, hegl]
    funext o
    cases o with
    | inl o =>
      cases o with
      | worker => rfl
      | mutex => exact hmutex
      | condition => exact hcondition
      | thread => exact hthread
    | inr piece => rfl
  rw [hnothing] at hfreed
  exact hfreed

theorem Worker.Books.empty (h : Lib.Books (fun _ : Own ⊕ Piece => none) log next) :
    (Worker.empty next).Books (log ++ [.acquire next]) (next + 1) := by
  have hmade := h.acquire (i := Sum.inl Own.worker) rfl
  have hheld : Function.update (fun _ : Own ⊕ Piece => none) (Sum.inl Own.worker) (some next) =
      Sum.elim (Worker.empty next).own (pieces (Worker.empty next).egl) := by
    funext o
    rcases o with o | piece
    · cases o <;> rfl
    · rfl
  rw [hheld] at hmade
  exact hmade

/-- **The end of a worker** that has exited. -/
theorem Worker.Books.dispose (h : w.Books s.log s.next) (hegl : w.egl = none) :
    Lib.Books (fun _ : Own ⊕ Piece => none) (s.dispose w).log (s.dispose w).next := by
  have hjoined := h.giveUp .thread (w.own_thread none w.threadStarted) rfl
  have hcondition := hjoined.giveUp .condition (Worker.own_condition _ none) rfl
  have hmutex := hcondition.giveUp .mutex (Worker.own_mutex _ none) rfl
  exact hmutex.free rfl rfl rfl hegl

/-! ### Steps of the calling thread -/

theorem Phase.empty {o : Option Worker} (h : Phase false .idle o) : o = none := by
  cases h with
  | nobody => rfl
  | starting hmain | failed hmain => simp at hmain

theorem Phase.rests {o : Option Worker} (h : Phase true .idle o) :
    ∃ w, o = some w ∧ w.Resting := by
  cases h with
  | resting h => exact ⟨_, rfl, h⟩
  | serving hmain => simp at hmain

/-- A context without a worker. -/
theorem Inv.nobody (hbooks : Lib.Books (fun _ : Own ⊕ Piece => none) s.log s.next)
    (himplementation : s.implementation = false) (hworker : s.worker = none) (hmain : s.main = .idle)
    (hrequests : s.given = s.served.map Served.request) : Inv s := by
  refine ⟨?_, ?_, ?_, fun w _ hw => ?_, fun w hw => ?_, fun w _ hw => ?_, fun w hw => ?_⟩
  · unfold State.holder
    rw [hworker]
    exact hbooks
  · rw [himplementation, hworker, hmain]
    exact .nobody
  · rw [hworker, hrequests]
    exact (List.append_nil _).symm
  all_goals
    rw [hworker] at hw
    cases hw

/-- A context with a worker. -/
theorem Inv.of_worker (hworker : s.worker = some w) (hbooks : w.Books s.log s.next)
    (hphase : Phase s.implementation s.main (some w))
    (hrequests : s.given = s.served.map Served.request ++ w.unserved)
    (hrunning : ∀ request, w.point = .running request → w.current = some request.slot)
    (hreleased : w.egl.isSome = true → (∀ x, s.served.getLast? = some x → x.released = true) →
      w.current = none ∨ (∃ request, w.point = .running request) ∨
        ∃ request outcome, w.point = .releasing request outcome)
    (hcompleting : ∀ success, w.point = .completing success →
      ∃ x, s.served.getLast? = some x ∧ x.success = success)
    (hanswered : s.main = .taskAwake → w.taskComplete = true →
      ∃ x, s.served.getLast? = some x ∧ x.success = w.taskSuccess) : Inv s := by
  have hsame {v : Worker} (hv : s.worker = some v) : v = w :=
    Option.some.inj (hv.symm.trans hworker)
  refine ⟨?_, hworker ▸ hphase, ?_, fun v request hv => ?_, fun v hv => ?_, fun v success hv => ?_,
    fun v hv => ?_⟩
  · unfold State.holder
    rw [hworker]
    exact hbooks
  · rw [hworker]
    exact hrequests
  · rw [hsame hv]
    exact hrunning request
  · rw [hsame hv]
    exact hreleased
  · rw [hsame hv]
    exact hcompleting success
  · rw [hsame hv]
    exact hanswered

theorem Inv.worker_books (h : Inv s) (hworker : s.worker = some w) : w.Books s.log s.next := by
  have hbooks := h.books
  unfold State.holder at hbooks
  rw [hworker] at hbooks
  exact hbooks

theorem Inv.worker_requests (h : Inv s) (hworker : s.worker = some w) :
    s.given = s.served.map Served.request ++ w.unserved := by
  have hrequests := h.requests
  rw [hworker] at hrequests
  exact hrequests

theorem Inv.nobody_books (h : Inv s) (hworker : s.worker = none) :
    Lib.Books (fun _ : Own ⊕ Piece => none) s.log s.next ∧
      s.given = s.served.map Served.request := by
  have hbooks := h.books
  have hrequests := h.requests
  unfold State.holder at hbooks
  rw [hworker] at hbooks hrequests
  exact ⟨hbooks, hrequests.trans (List.append_nil _)⟩

/-- A call that fails at once changes nothing. -/
theorem Inv.fail (h : Inv s) (hmain : s.main = .idle) (error : EglError) : Inv (s.fail error) := by
  refine ⟨h.books, ?_, h.requests, h.running, h.released, h.completing, fun _ _ hidle => ?_⟩
  · have hphase := h.phase
    rw [hmain] at hphase
    exact hphase
  · cases hidle

/-- **A creation** up to its wait either starts a worker or leaves nothing behind. -/
theorem Inv.create (h : Inv s) (hmain : s.main = .idle) (memory mutex condition thread : Bool) :
    Inv (s.create memory mutex condition thread) := by
  unfold State.create
  split
  · exact h.fail hmain _
  rename_i himplementation
  have himplementation : s.implementation = false := Bool.eq_false_iff.mpr himplementation
  have hphase := h.phase
  rw [hmain, himplementation] at hphase
  obtain ⟨hbooks, hrequests⟩ := h.nobody_books hphase.empty
  split
  · exact h.fail hmain _
  dsimp only
  have hworker := Worker.Books.empty hbooks
  split
  · exact Inv.nobody (hworker.free rfl rfl rfl rfl) himplementation rfl rfl hrequests
  have hmutex := hworker.acquire (o := .mutex) rfl (Worker.own_mutex _ _) rfl
  split
  · have hdestroyed := hmutex.giveUp .mutex (Worker.own_mutex _ none) rfl
    exact Inv.nobody (hdestroyed.free rfl rfl rfl rfl) himplementation rfl rfl hrequests
  have hcondition := hmutex.acquire (o := .condition) rfl (Worker.own_condition _ _) rfl
  split
  · have hdestroyed := (hcondition.giveUp .condition (Worker.own_condition _ none) rfl).giveUp .mutex
      (Worker.own_mutex _ none) rfl
    exact Inv.nobody (hdestroyed.free rfl rfl rfl rfl) himplementation rfl rfl hrequests
  have hthread := hcondition.acquire (o := .thread) rfl (Worker.own_thread _ _ true) rfl
  refine Inv.of_worker rfl hthread ?_ (hrequests.trans (List.append_nil _).symm)
    (fun _ hpoint => (by cases hpoint)) (fun hegl => (by cases hegl)) (fun _ hpoint => (by cases hpoint))
    fun hmain _ => (by cases hmain)
  change Phase s.implementation .startupAwake _
  rw [himplementation]
  exact .starting (Or.inl rfl) ⟨rfl, rfl, rfl, fun _ hegl => (by cases hegl), Or.inl ⟨rfl, rfl⟩⟩

theorem Worker.woken_eq (h : w.point = .awake ∨ w.point = .asleep) :
    w.woken = { w with point := .awake } := by
  unfold Worker.woken
  split
  · rfl
  · rename_i hawake
    rw [← h.resolve_right hawake]

theorem Worker.unserved_eq_nil (h : w.taskPending = false) : w.unserved = [] := by
  unfold Worker.unserved
  split
  · rfl
  · rw [h]
    rfl

/-- No context is current on a worker that rests. -/
theorem Inv.current_of_rest (h : Inv s) (hworker : s.worker = some w)
    (hpoint : w.point = .awake ∨ w.point = .asleep) (hegl : w.egl.isSome = true)
    (hreleased : ∀ x, s.served.getLast? = some x → x.released = true) : w.current = none := by
  rcases h.released w hworker hegl hreleased with hnone | ⟨request, hrunning⟩ | ⟨request, outcome, hafter⟩
  · exact hnone
  · rw [hrunning] at hpoint
    simp at hpoint
  · rw [hafter] at hpoint
    simp at hpoint

/-- **A request** is accepted whenever there is a worker, and never lost. -/
theorem Inv.execute (h : Inv s) (hmain : s.main = .idle) (slot : Nat) (task : Option Nat) :
    Inv (s.execute slot task) := by
  unfold State.execute
  split
  · rename_i w task himplementation hworker
    split
    · rename_i hslot
      have hphase := h.phase
      rw [hmain, himplementation] at hphase
      obtain ⟨w', hw', hrests⟩ := hphase.rests
      obtain rfl : w' = w := Option.some.inj (hw'.symm.trans hworker)
      rw [if_neg (by simp [hrests.startupSuccess, hrests.stopping, hrests.taskPending])]
      dsimp only
      have hpoint : Worker.point { w' with
          request := ⟨some task, ⟨slot, hslot⟩⟩, taskComplete := false, taskPending := true } = .awake ∨
        w'.point = .asleep := hrests.point
      rw [Worker.woken_eq hpoint]
      have hrequests := h.worker_requests hworker
      rw [Worker.unserved_eq_nil hrests.taskPending, List.append_nil] at hrequests
      have hbooks := (h.worker_books hworker).signal
      have hcurrent := h.current_of_rest hworker hrests.point
      refine Inv.of_worker rfl hbooks ?_ ?_ (fun _ hpoint => (by cases hpoint))
        (fun hegl hreleased => Or.inl (hcurrent hegl hreleased))
        (fun _ hpoint => (by cases hpoint)) fun hawake _ => (by cases hawake)
      · change Phase s.implementation .taskAsleep _
        rw [himplementation]
        refine .serving (Or.inr rfl) ⟨⟨hrests.startupComplete, hrests.startupSuccess, hrests.complete,
          hrests.egl⟩, rfl, rfl, hrests.stopping, Option.some_ne_none _, Or.inl rfl⟩
      · change s.given ++ _ = _
        rw [hrequests]
        rfl
    · exact h.fail hmain _
  · exact h.fail hmain _

/-- **A stop** finds the worker at rest. -/
theorem Inv.destroy (h : Inv s) (hmain : s.main = .idle) : Inv s.destroy := by
  have hphase := h.phase
  rw [hmain] at hphase
  unfold State.destroy
  split
  · rename_i w himplementation hworker
    rw [himplementation] at hphase
    obtain ⟨w', hw', hrests⟩ := hphase.rests
    obtain rfl : w' = w := Option.some.inj (hw'.symm.trans hworker)
    have hpoint : Worker.point { w' with stopping := true } = .awake ∨ w'.point = .asleep := hrests.point
    rw [Worker.woken_eq hpoint]
    have hrequests := h.worker_requests hworker
    rw [Worker.unserved_eq_nil hrests.taskPending] at hrequests
    have hbooks := (h.worker_books hworker).signal
    have hcurrent := h.current_of_rest hworker hrests.point
    refine Inv.of_worker rfl hbooks ?_ ?_ (fun _ hpoint => (by cases hpoint))
      (fun hegl hreleased => Or.inl (hcurrent hegl hreleased))
      (fun _ hpoint => (by cases hpoint)) fun hawake _ => (by cases hawake)
    · exact .joining ⟨rfl, hrests.taskPending, hrests.complete, Or.inl ⟨Or.inl rfl, hrests.egl⟩⟩
    · refine hrequests.trans (congrArg _ (Eq.symm ?_))
      exact Worker.unserved_eq_nil hrests.taskPending
  · rename_i hnobody
    cases himplementation : s.implementation with
    | false =>
      rw [himplementation] at hphase
      have hworker := hphase.empty
      obtain ⟨hbooks, hrequests⟩ := h.nobody_books hworker
      exact Inv.nobody hbooks rfl hworker hmain hrequests
    | true =>
      rw [himplementation] at hphase
      obtain ⟨w, hworker, -⟩ := hphase.rests
      exact absurd hworker (hnobody w himplementation)

theorem Phase.atStartup {b : Bool} (h : Phase b .startupAwake (some w)) :
    b = false ∧ (w.Starting ∨ w.Resting ∨ w.Failed) := by
  cases h with
  | starting _ h => exact ⟨rfl, Or.inl h⟩
  | started h => exact ⟨rfl, Or.inr (Or.inl h)⟩
  | failed _ h => exact ⟨rfl, Or.inr (Or.inr h)⟩
  | serving hmain => simp at hmain

theorem Phase.atStartupJoin {b : Bool} (h : Phase b .startupJoining (some w)) :
    b = false ∧ w.Failed := by
  cases h with
  | failed _ h => exact ⟨rfl, h⟩
  | starting hmain | serving hmain => simp at hmain

theorem Phase.atTask {b : Bool} (h : Phase b .taskAwake (some w)) :
    b = true ∧ (w.Serving ∨ w.Resting ∧ w.taskComplete = true) := by
  cases h with
  | serving _ h => exact ⟨rfl, Or.inl h⟩
  | served h hcomplete => exact ⟨rfl, Or.inr ⟨h, hcomplete⟩⟩
  | starting hmain | failed hmain => simp at hmain

theorem Phase.atStop {b : Bool} (h : Phase b .joining (some w)) : b = false ∧ w.Stopping := by
  cases h with
  | joining h => exact ⟨rfl, h⟩
  | starting hmain | failed hmain | serving hmain => simp at hmain

/-- The calling thread looks at the worker's flags, and goes where they say. -/
theorem Inv.look (h : Inv s) (hworker : s.worker = some w) {log : List (LifeEvent Nat)}
    {main : MainPoint} {implementation returned : Bool} (hbooks : w.Books log s.next)
    (hphase : Phase implementation main (some w)) (hmain : main ≠ .taskAwake) :
    Inv { s with log, implementation, main, returned } :=
  Inv.of_worker hworker hbooks hphase (h.worker_requests hworker)
    (fun request => h.running w request hworker) (h.released w hworker)
    (fun success => h.completing w success hworker) fun heq => absurd heq hmain

/-- **The calling thread** goes on, when it can. -/
theorem Inv.goOn (h : Inv s) (hworker : s.worker = some w) (ht : s.goOn w = some t) : Inv t := by
  have hphase := h.phase
  rw [hworker] at hphase
  have hbooks := h.worker_books hworker
  have hrequests := h.worker_requests hworker
  unfold State.goOn at ht
  split at ht
  · rename_i hmain
    rw [hmain] at hphase
    obtain ⟨himplementation, hw⟩ := hphase.atStartup
    split at ht
    · rename_i hcomplete
      split at ht
      · rename_i hsuccess
        obtain rfl := Option.some.inj ht
        refine h.look hworker hbooks.lock (.resting ?_) (by simp)
        rcases hw with hw | hw | hw
        · cases hw.startupComplete.symm.trans hcomplete
        · exact hw
        · cases hw.startupSuccess.symm.trans hsuccess
      · rename_i hfailure
        obtain rfl := Option.some.inj ht
        refine h.look hworker hbooks.lock (himplementation ▸ .failed (Or.inr rfl) ?_) (by simp)
        rcases hw with hw | hw | hw
        · cases hw.startupComplete.symm.trans hcomplete
        · exact absurd hw.startupSuccess hfailure
        · exact hw
    · rename_i hcomplete
      obtain rfl := Option.some.inj ht
      refine h.look hworker hbooks.signal (himplementation ▸ .starting (Or.inr rfl) ?_) (by simp)
      rcases hw with hw | hw | hw
      · exact hw
      · exact absurd hw.startupComplete hcomplete
      · exact absurd hw.startupComplete hcomplete
  · rename_i hmain
    rw [hmain] at hphase
    obtain ⟨himplementation, hw⟩ := hphase.atStartupJoin
    split at ht
    · obtain rfl := Option.some.inj ht
      rw [Worker.unserved_eq_nil hw.taskPending, List.append_nil] at hrequests
      exact Inv.nobody (hbooks.dispose hw.egl) himplementation rfl rfl hrequests
    · cases ht
  · rename_i hmain
    rw [hmain] at hphase
    obtain ⟨himplementation, hw⟩ := hphase.atTask
    split at ht
    · rename_i hcomplete
      obtain rfl := Option.some.inj ht
      rcases hw with hw | ⟨hw, -⟩
      · cases hw.taskComplete.symm.trans hcomplete
      · rw [Worker.unserved_eq_nil hw.taskPending] at hrequests
        refine Inv.of_worker rfl hbooks.lock (himplementation ▸ .resting ⟨⟨hw.startupComplete,
          hw.startupSuccess, hw.complete, hw.egl⟩, hw.taskPending, hw.stopping, hw.point⟩) ?_
          (fun request => h.running w request hworker) (h.released w hworker)
          (fun success => h.completing w success hworker) fun heq => (by cases heq)
        exact hrequests.trans (congrArg _ (Eq.symm (Worker.unserved_eq_nil hw.taskPending)))
    · rename_i hcomplete
      obtain rfl := Option.some.inj ht
      refine h.look hworker hbooks.signal (himplementation ▸ .serving (Or.inr rfl) ?_) (by simp)
      rcases hw with hw | ⟨-, hdone⟩
      · exact hw
      · exact absurd hdone hcomplete
  · rename_i hmain
    rw [hmain] at hphase
    obtain ⟨himplementation, hw⟩ := hphase.atStop
    split at ht
    · rename_i hexited
      obtain rfl := Option.some.inj ht
      rw [Worker.unserved_eq_nil hw.taskPending, List.append_nil] at hrequests
      refine Inv.nobody (hbooks.dispose ?_) himplementation rfl rfl hrequests
      rcases hw.point with ⟨hpoint, -⟩ | ⟨-, hegl⟩
      · rw [hexited] at hpoint
        simp at hpoint
      · exact hegl
    · cases ht
  · cases ht

end

end DualBoy.Nds.Egl
