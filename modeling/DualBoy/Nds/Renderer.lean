import DualBoy.Lib.Attempts
import DualBoy.Nds.Barrier

/-!
# The renderers of the NDS pair

What `MelonDSPair` keeps about its link and its renderers, with the renderer each machine really has,
and the calls that change them. A call that needs an OpenGL context is given what the context
reports.

* `Exclusive`: the pair is not linked while it, or one of its machines, renders with OpenGL.
* `Sound`: also, a pair that reports software has two machines that render in software. Every call
  keeps it: `Sound.setLink`, **`Sound.setVideoRenderer`**, `Sound.runFrame`, `Sound.reset`.
* `setVideoRenderer_eq_none`: a change that succeeds ends with the renderer that was asked for.
* **`SeenBy.setVideoRenderer`**: the barrier's coarser `SetVideoRenderer` is this one.
-/

namespace DualBoy.Nds

open DualBoy.Lib

/-! ## The source -/

/-- The renderers and the link of `MelonDSPair`; `machine` is what the machine renders with, of a
machine that is still there. -/
structure Renderers where
  frameState : FrameState
  abortRequested : Bool
  linkEnabled : Bool
  videoRenderer : VideoRenderer
  machine : Fin 2 → Option VideoRenderer

/-- How a task given to an EGL context ends. A failed one may have changed the renderer. -/
inductive Execution where
  | done
  | failed (changed : Bool)
  deriving DecidableEq, Repr

/-- What the OpenGL contexts report in a renderer change: their creation, `ReportGLContextWorkerTask`,
the tasks of the machines and those that put a machine back. -/
structure EglOutcomes where
  create : Bool
  report : Bool
  task : Fin 2 → Execution
  restore : Fin 2 → Execution

/-- Why a call is refused. -/
inductive RendererError where
  /-- Local Link cannot be enabled while OpenGL rendering is active -/
  | openGLActive
  /-- cannot change Nintendo DS renderer during a frame -/
  | duringFrame
  /-- OpenGL rendering requires Local Link to be disabled -/
  | linkEnabled
  /-- what the EGL context says -/
  | context
  /-- machine is not loaded -/
  | notLoaded (machine : Fin 2)
  /-- what the task says -/
  | task (machine : Fin 2)
  /-- OpenGL activation failed and the Nintendo DS pair could not be restored safely -/
  | activationRetired
  /-- OpenGL teardown failed and the Nintendo DS pair was retired -/
  | teardownRetired
  deriving DecidableEq, Repr

/-- How a frame goes, if it is run. -/
inductive FrameOutcome where
  | completed
  | saveExtentChanged (machine : Fin 2)
  | machineFailed (machine : Fin 2)
  | deadlineExceeded
  deriving DecidableEq, Repr

namespace Renderers

/-- `CreatePair` and both `LoadRom`. -/
def create : Renderers where
  frameState := .idle
  abortRequested := false
  linkEnabled := false
  videoRenderer := .software
  machine := fun _ => some .software

def withMachine (s : Renderers) (m : Fin 2) (renderer : Option VideoRenderer) : Renderers :=
  { s with machine := fun m' => if m' = m then renderer else s.machine m' }

/-- `SetLink`. -/
def setLink (s : Renderers) (enabled : Bool) : Renderers × Option RendererError :=
  if enabled = true ∧ s.videoRenderer = .opengl then (s, some .openGLActive)
  else ({ s with linkEnabled := enabled }, none)

/-- `RunRendererWorkerTask` on the machine's context. -/
def runRendererTask (renderer : VideoRenderer) (e : Fin 2 → Execution) (m : Fin 2) (s : Renderers) :
    Renderers × Option RendererError :=
  if s.machine m = none then (s, some (.notLoaded m))
  else if renderer = .opengl ∧ s.linkEnabled = true then (s, some .linkEnabled)
  else
    match e m with
    | .done => (s.withMachine m (some renderer), none)
    | .failed true => (s.withMachine m (some renderer), some (.task m))
    | .failed false => (s, some (.task m))

/-- `RestoreSoftwareOrTerminalize`: a machine that cannot be put back is destroyed. -/
def restoreSoftwareOrTerminalize (e : Fin 2 → Execution) (m : Fin 2) (s : Renderers) :
    Renderers × Option RendererError :=
  match s.runRendererTask .software e m with
  | (s, none) => (s, none)
  | (s, some error) => (s.withMachine m none, some error)

/-- `PoisonRendererPair`. -/
def poisonRendererPair (s : Renderers) : Renderers :=
  { s with frameState := .poisoned, abortRequested := true, videoRenderer := .opengl }

/-- `SetVideoRenderer`, to OpenGL. -/
def activate (s : Renderers) (o : EglOutcomes) : Renderers × Option RendererError :=
  if s.linkEnabled then (s, some .linkEnabled)
  else if o.create = false ∨ o.report = false then (s, some .context)
  else
    let (s, done) := untilFailure (runRendererTask .opengl o.task) [0, 1] s
    match firstError done with
    | none => ({ s with videoRenderer := .opengl }, none)
    | some error =>
      let (s, restored) :=
        attemptAll (restoreSoftwareOrTerminalize o.restore) (done.map Prod.fst) s
      if firstError restored = none then (s, some error)
      else (s.poisonRendererPair, some .activationRetired)

/-- `SetVideoRenderer`, to software. The machines behind one that failed are put back all the same. -/
def teardown (s : Renderers) (o : EglOutcomes) : Renderers × Option RendererError :=
  let (s, done) := untilFailure (runRendererTask .software o.task) [0, 1] s
  let left := [0, 1].filter fun m => (m, none) ∉ done
  let (s, restored) := attemptAll (restoreSoftwareOrTerminalize o.restore) left s
  if firstError restored = none then ({ s with videoRenderer := .software }, none)
  else (s.poisonRendererPair, some .teardownRetired)

/-- `SetVideoRenderer`. -/
def setVideoRenderer (s : Renderers) (renderer : VideoRenderer) (o : EglOutcomes) :
    Renderers × Option RendererError :=
  if s.frameState ≠ .idle then (s, some .duringFrame)
  else if renderer = s.videoRenderer then (s, none)
  else
    match renderer with
    | .opengl => s.activate o
    | .software => s.teardown o

/-- `RunFrame`. -/
def runFrame (s : Renderers) (o : FrameOutcome) : Renderers × Except FrameError Unit :=
  if s.machine 0 = none ∨ s.machine 1 = none then (s, .error .notLoaded)
  else if s.frameState = .poisoned then (s, .error .unavailable)
  else if s.frameState ≠ .idle then (s, .error .alreadyRunning)
  else
    match o, s.videoRenderer with
    | .saveExtentChanged m, _ => (s, .error (.saveExtentChanged m))
    | o, .opengl =>
      if s.linkEnabled then (s, .error .linkWithOpenGL)
      else
        match o with
        | .deadlineExceeded =>
          ({ s with frameState := .poisoned, abortRequested := true }, .error .openGLTimedOut)
        | .machineFailed _ =>
          ({ s with frameState := .poisoned, abortRequested := true }, .error .openGLFailed)
        | _ => ({ s with abortRequested := false }, .ok ())
    | .completed, .software => ({ s with abortRequested := false }, .ok ())
    | .machineFailed m, .software => ({ s with abortRequested := false }, .error (.machineFailed m))
    | .deadlineExceeded, .software =>
      (({ s with frameState := .poisoned, abortRequested := true }.setLink false).1,
        .error .timedOut)

/-- `Reset`; `succeeds` is what the OpenGL context of a machine says. -/
def reset (s : Renderers) (succeeds : Fin 2 → Bool) : Renderers :=
  if s.frameState ≠ .idle then s
  else
    match s.videoRenderer with
    | .software => s
    | .opengl =>
      if succeeds 0 && succeeds 1 then s
      else { s with abortRequested := true, frameState := .poisoned }

/-! ## What holds of a pair -/

/-- The pair, or one of its machines, renders with OpenGL. -/
def RendersOpenGL (s : Renderers) : Prop :=
  s.videoRenderer = .opengl ∨ ∃ m, s.machine m = some .opengl

/-- The pair is not linked while it renders with OpenGL. -/
def Exclusive (s : Renderers) : Prop :=
  ¬(s.linkEnabled = true ∧ s.RendersOpenGL)

/-- A linked pair has its renderers in software, and so do the machines of a pair that reports
software. -/
structure Sound (s : Renderers) : Prop where
  software : s.linkEnabled = true → s.videoRenderer = .software
  machines : s.videoRenderer = .software → ∀ m, s.machine m = some .software

theorem Sound.exclusive {s : Renderers} (h : s.Sound) : s.Exclusive := by
  rintro ⟨hlink, hrenderer | ⟨m, hm⟩⟩
  · rw [h.software hlink] at hrenderer
    cases hrenderer
  · rw [h.machines (h.software hlink) m] at hm
    cases hm

theorem Sound.unlinked {s : Renderers} (h : s.Sound) (hrenderer : s.videoRenderer = .opengl) :
    s.linkEnabled = false := by
  cases hlink : s.linkEnabled with
  | false => rfl
  | true =>
    rw [h.software hlink] at hrenderer
    cases hrenderer

theorem sound_create : create.Sound := ⟨fun _ => rfl, fun _ _ => rfl⟩

/-! ## The link -/

section
variable {s : Renderers}

theorem setLink_eq_none {enabled : Bool} (h : (s.setLink enabled).2 = none) :
    (s.setLink enabled).1 = { s with linkEnabled := enabled } := by
  unfold setLink at h ⊢
  split at h
  · cases h
  · rename_i hallowed
    rw [if_neg hallowed]

theorem setLink_eq_some {enabled : Bool} {error : RendererError}
    (h : (s.setLink enabled).2 = some error) : (s.setLink enabled).1 = s := by
  unfold setLink at h ⊢
  split at h
  · rename_i hrefused
    rw [if_pos hrefused]
  · cases h

@[simp]
theorem setLink_videoRenderer (enabled : Bool) :
    (s.setLink enabled).1.videoRenderer = s.videoRenderer := by
  unfold setLink
  split <;> rfl

/-- The link can always be disabled, and enabled unless the pair renders with OpenGL. -/
theorem setLink_allowed {enabled : Bool} :
    (s.setLink enabled).2 = none ↔ (enabled = true → s.videoRenderer = .software) := by
  unfold setLink
  split
  · rename_i hrefused
    simp [hrefused.1, hrefused.2]
  · rename_i hallowed
    refine iff_of_true rfl fun henabled => ?_
    cases hrenderer : s.videoRenderer with
    | software => rfl
    | opengl => exact absurd ⟨henabled, hrenderer⟩ hallowed

theorem Sound.setLink (h : s.Sound) (enabled : Bool) : (s.setLink enabled).1.Sound := by
  cases hresult : (s.setLink enabled).2 with
  | some error =>
    rw [setLink_eq_some hresult]
    exact h
  | none =>
    have hallowed := setLink_allowed.mp hresult
    rw [setLink_eq_none hresult]
    exact ⟨hallowed, h.machines⟩

/-! ## The tasks of the machines -/

/-- Nothing but the machines' renderers is different. -/
def OnlyMachines (s s' : Renderers) : Prop :=
  s' = { s with machine := s'.machine }

theorem OnlyMachines.linkEnabled {s' : Renderers} (h : s.OnlyMachines s') :
    s'.linkEnabled = s.linkEnabled := by
  rw [h]

theorem runRendererTask_onlyMachines (renderer : VideoRenderer) (e : Fin 2 → Execution) (m : Fin 2)
    {s' : Renderers} (h : s.OnlyMachines s') :
    s.OnlyMachines (s'.runRendererTask renderer e m).1 := by
  unfold runRendererTask
  split
  · exact h
  split
  · exact h
  rw [h]
  cases e m with
  | done => rfl
  | failed changed => cases changed <;> rfl

theorem restore_onlyMachines (e : Fin 2 → Execution) (m : Fin 2) {s' : Renderers}
    (h : s.OnlyMachines s') : s.OnlyMachines (s'.restoreSoftwareOrTerminalize e m).1 := by
  have htask := runRendererTask_onlyMachines .software e m h
  unfold restoreSoftwareOrTerminalize
  split
  · rename_i heq
    rwa [heq] at htask
  · rename_i s₁ error heq
    rw [heq] at htask
    have hs₁ : s₁ = { s with machine := s₁.machine } := htask
    rw [hs₁]
    rfl

theorem runRendererTask_eq_none {renderer : VideoRenderer} {e : Fin 2 → Execution} {m : Fin 2}
    {s' : Renderers} (h : s.runRendererTask renderer e m = (s', none)) :
    s'.machine m = some renderer := by
  unfold runRendererTask at h
  split at h
  · cases h
  split at h
  · cases h
  split at h
  · obtain ⟨rfl, -⟩ := Prod.mk.inj h
    simp [withMachine]
  · cases h
  · cases h

/-- A machine in software stays there when a machine is put into software. -/
theorem runRendererTask_keeps (e : Fin 2 → Execution) (m : Fin 2) {m' : Fin 2}
    (h : s.machine m' = some .software) :
    (s.runRendererTask .software e m).1.machine m' = some .software := by
  have hput : (s.withMachine m (some .software)).machine m' = some .software := by
    by_cases hm : m' = m <;> simp [withMachine, hm, h]
  unfold runRendererTask
  split
  · exact h
  split
  · exact h
  split
  · exact hput
  · exact hput
  · exact h

/-- A task leaves the other machine alone. -/
theorem runRendererTask_other (renderer : VideoRenderer) (e : Fin 2 → Execution) {m m' : Fin 2}
    (hm : m' ≠ m) : (s.runRendererTask renderer e m).1.machine m' = s.machine m' := by
  unfold runRendererTask
  split
  · rfl
  split
  · rfl
  split <;> simp [withMachine, hm]

theorem restore_eq_none {e : Fin 2 → Execution} {m : Fin 2} {s' : Renderers}
    (h : s.restoreSoftwareOrTerminalize e m = (s', none)) :
    s.runRendererTask .software e m = (s', none) := by
  unfold restoreSoftwareOrTerminalize at h
  split at h
  · rename_i heq
    rwa [heq]
  · cases h

/-- Once the machines of `ms` have been put back, they are in software, with those that were. -/
theorem restored_software {e : Fin 2 → Execution} {ms : List (Fin 2)}
    (hnone : firstError (attemptAll (restoreSoftwareOrTerminalize e) ms s).2 = none)
    (h : ∀ m, m ∉ ms → s.machine m = some .software) (m : Fin 2) :
    (attemptAll (restoreSoftwareOrTerminalize e) ms s).1.machine m = some .software := by
  have hkeep (m' : Fin 2) (_ : m' ∈ ms) (s₁ s' : Renderers)
      (hs : s₁.restoreSoftwareOrTerminalize e m' = (s', none))
      (hm : s₁.machine m = some .software) : s'.machine m = some .software := by
    have hkept := runRendererTask_keeps e m' hm
    rwa [restore_eq_none hs] at hkept
  by_cases hmem : m ∈ ms
  · exact attemptAll_establishes (p := fun s => s.machine m = some .software) hmem
      (fun s₁ s' hs => runRendererTask_eq_none (restore_eq_none hs)) hkeep hnone
  · exact attemptAll_keeps (p := fun s => s.machine m = some .software) hkeep hnone (h m hmem)

/-! ## A renderer change -/

theorem onlyMachines_untilFailure (renderer : VideoRenderer) (e : Fin 2 → Execution)
    (ms : List (Fin 2)) : s.OnlyMachines (untilFailure (runRendererTask renderer e) ms s).1 :=
  untilFailure_keeps (p := s.OnlyMachines)
    (fun m _ _ h => runRendererTask_onlyMachines renderer e m h) rfl

theorem onlyMachines_attemptAll (e : Fin 2 → Execution) (ms : List (Fin 2)) {s' : Renderers}
    (h : s.OnlyMachines s') :
    s.OnlyMachines (attemptAll (restoreSoftwareOrTerminalize e) ms s').1 :=
  attemptAll_always (p := s.OnlyMachines) (fun m _ _ h => restore_onlyMachines e m h) h

theorem activate_linkEnabled (o : EglOutcomes) :
    (s.activate o).1.linkEnabled = s.linkEnabled := by
  have hloop := onlyMachines_untilFailure (s := s) .opengl o.task [0, 1]
  have hback := onlyMachines_attemptAll o.restore
    ((untilFailure (runRendererTask .opengl o.task) [0, 1] s).2.map Prod.fst) hloop
  unfold activate
  split
  · rfl
  split
  · rfl
  dsimp only
  split
  · exact hloop.linkEnabled
  split
  · exact hback.linkEnabled
  · exact hback.linkEnabled

/-- An activation that fails leaves the pair as sound as it was, or retires it. -/
theorem Sound.activate (h : s.Sound) (hrenderer : s.videoRenderer = .software) (o : EglOutcomes) :
    (s.activate o).1.Sound := by
  cases hlink : s.linkEnabled with
  | true =>
    unfold Renderers.activate
    rw [if_pos hlink]
    exact h
  | false =>
    refine ⟨fun henabled => ?_, fun hsoftware => ?_⟩
    · rw [activate_linkEnabled, hlink] at henabled
      cases henabled
    · have hloop := onlyMachines_untilFailure (s := s) .opengl o.task [0, 1]
      unfold Renderers.activate at hsoftware ⊢
      rw [if_neg (by simp [hlink])] at hsoftware ⊢
      by_cases hcontext : o.create = false ∨ o.report = false
      · rw [if_pos hcontext]
        exact h.machines hrenderer
      rw [if_neg hcontext] at hsoftware ⊢
      dsimp only at hsoftware ⊢
      split at hsoftware
      · cases hsoftware
      split at hsoftware
      · rename_i error herror hback
        rw [if_pos hback]
        intro m
        refine restored_software hback (fun m' hm' => ?_) m
        refine untilFailure_made (p := fun s : Renderers => s.machine m' = some .software) ?_
          (h.machines hrenderer m')
        intro c hc s₁ hs₁
        have hne : m' ≠ c := by
          rintro rfl
          exact hm' hc
        rw [runRendererTask_other .opengl o.task hne]
        exact hs₁
      · cases hsoftware

theorem mem_machines (m : Fin 2) : m ∈ [(0 : Fin 2), 1] := by
  have hm : m = 0 ∨ m = 1 := by omega
  rcases hm with rfl | rfl
  · exact List.mem_cons_self
  · exact List.mem_cons_of_mem _ List.mem_cons_self

theorem teardown_linkEnabled (o : EglOutcomes) :
    (s.teardown o).1.linkEnabled = s.linkEnabled := by
  have hloop := onlyMachines_untilFailure (s := s) .software o.task [0, 1]
  have hback := onlyMachines_attemptAll o.restore ([0, 1].filter fun m =>
    (m, none) ∉ (untilFailure (runRendererTask .software o.task) [0, 1] s).2) hloop
  unfold teardown
  dsimp only
  split
  · exact hback.linkEnabled
  · exact hback.linkEnabled

theorem Sound.teardown (h : s.Sound) (hrenderer : s.videoRenderer = .opengl) (o : EglOutcomes) :
    (s.teardown o).1.Sound := by
  refine ⟨fun henabled => ?_, fun hsoftware => ?_⟩
  · rw [teardown_linkEnabled, h.unlinked hrenderer] at henabled
    cases henabled
  · unfold Renderers.teardown at hsoftware ⊢
    dsimp only at hsoftware ⊢
    split at hsoftware
    · rename_i hback
      rw [if_pos hback]
      intro m
      refine restored_software hback (fun m' hm' => ?_) m
      have hdone : (m', none) ∈ (untilFailure (runRendererTask .software o.task) [0, 1] s).2 := by
        by_contra hnot
        exact hm' (List.mem_filter.mpr ⟨mem_machines m', by simpa using hnot⟩)
      exact untilFailure_succeeded (p := fun s => s.machine m' = some .software) hdone
        (fun _ _ hs => runRendererTask_eq_none hs)
        (fun c _ _ hs => runRendererTask_keeps o.task c hs)
    · cases hsoftware

@[simp]
theorem setVideoRenderer_linkEnabled (renderer : VideoRenderer) (o : EglOutcomes) :
    (s.setVideoRenderer renderer o).1.linkEnabled = s.linkEnabled := by
  unfold setVideoRenderer
  split
  · rfl
  split
  · rfl
  cases renderer with
  | opengl => exact activate_linkEnabled o
  | software => exact teardown_linkEnabled o

/-- **Every renderer change keeps a pair sound**, whatever the OpenGL contexts report. -/
theorem Sound.setVideoRenderer (h : s.Sound) (renderer : VideoRenderer) (o : EglOutcomes) :
    (s.setVideoRenderer renderer o).1.Sound := by
  unfold Renderers.setVideoRenderer
  split
  · exact h
  split
  · exact h
  rename_i hother
  cases hrenderer : s.videoRenderer with
  | software =>
    cases renderer with
    | opengl => exact h.activate hrenderer o
    | software => exact absurd hrenderer.symm hother
  | opengl =>
    cases renderer with
    | opengl => exact absurd hrenderer.symm hother
    | software => exact h.teardown hrenderer o

/-- A change that succeeds ends with the renderer that was asked for. -/
theorem setVideoRenderer_eq_none {renderer : VideoRenderer} {o : EglOutcomes}
    (h : (s.setVideoRenderer renderer o).2 = none) :
    (s.setVideoRenderer renderer o).1.videoRenderer = renderer := by
  unfold setVideoRenderer at h ⊢
  split at h
  · cases h
  rename_i hidle
  rw [if_neg hidle]
  split at h
  · rename_i hsame
    rw [if_pos hsame]
    exact hsame.symm
  rename_i hother
  rw [if_neg hother]
  cases renderer with
  | opengl =>
    dsimp only at h ⊢
    unfold activate at h ⊢
    split at h
    · cases h
    rename_i hlink
    rw [if_neg hlink]
    split at h
    · cases h
    rename_i hcontext
    rw [if_neg hcontext]
    dsimp only at h ⊢
    split at h
    · rfl
    · split at h <;> cases h
  | software =>
    dsimp only at h ⊢
    unfold teardown at h ⊢
    dsimp only at h ⊢
    split at h
    · rename_i hback
      rw [if_pos hback]
    · cases h

/-! ## Frames and resets -/

@[simp]
theorem runFrame_videoRenderer (o : FrameOutcome) :
    (s.runFrame o).1.videoRenderer = s.videoRenderer := by
  unfold runFrame
  repeat' split
  all_goals rfl

theorem Sound.runFrame (h : s.Sound) (o : FrameOutcome) : (s.runFrame o).1.Sound := by
  have hpoisoned : Sound { s with frameState := .poisoned, abortRequested := true } :=
    ⟨h.software, h.machines⟩
  have hran : Sound { s with abortRequested := false } := ⟨h.software, h.machines⟩
  unfold Renderers.runFrame
  repeat' split
  all_goals first | exact h | exact hpoisoned | exact hran | exact hpoisoned.setLink false

@[simp]
theorem reset_videoRenderer (succeeds : Fin 2 → Bool) :
    (s.reset succeeds).videoRenderer = s.videoRenderer := by
  unfold reset
  repeat' split
  all_goals rfl

theorem Sound.reset (h : s.Sound) (succeeds : Fin 2 → Bool) : (s.reset succeeds).Sound := by
  unfold Renderers.reset
  repeat' split
  all_goals exact ⟨h.software, h.machines⟩

/-! ## The barrier's view -/

/-- What the frame barrier sees of the pair. -/
structure SeenBy (s : Renderers) (p : Pair) : Prop where
  frameState : p.frameState = s.frameState
  abortRequested : p.abortRequested = s.abortRequested
  linkEnabled : p.linkEnabled = s.linkEnabled
  videoRenderer : p.videoRenderer = s.videoRenderer

theorem SeenBy.onlyMachines {s' : Renderers} {p : Pair} (h : s.SeenBy p) (hs : s.OnlyMachines s') :
    s'.SeenBy p := by
  rw [hs]
  exact ⟨h.frameState, h.abortRequested, h.linkEnabled, h.videoRenderer⟩

theorem SeenBy.setLink {p : Pair} (h : s.SeenBy p) (enabled : Bool) :
    (s.setLink enabled).1.SeenBy (p.setLink enabled) := by
  unfold Renderers.setLink Pair.setLink
  rw [← h.videoRenderer]
  split
  · exact h
  · exact ⟨h.frameState, h.abortRequested, rfl, rfl⟩

/-- **The barrier's renderer change** is this one, with a transition that the contexts decide. -/
theorem SeenBy.setVideoRenderer {p : Pair} (h : s.SeenBy p) (renderer : VideoRenderer)
    (o : EglOutcomes) : ∃ transition, (s.setVideoRenderer renderer o).1.SeenBy
      (p.call (.setVideoRenderer renderer transition)) := by
  unfold Renderers.setVideoRenderer Pair.call Pair.setVideoRenderer
  rw [← h.frameState, ← h.videoRenderer]
  by_cases hidle : p.frameState ≠ .idle
  · rw [if_pos hidle]
    exact ⟨.undone, by rw [if_pos hidle]; exact h⟩
  simp only [if_neg hidle]
  by_cases hsame : renderer = p.videoRenderer
  · rw [if_pos hsame]
    exact ⟨.undone, by rw [if_pos hsame]; exact h⟩
  simp only [if_neg hsame]
  cases renderer with
  | opengl =>
    dsimp only
    unfold activate
    rw [← h.linkEnabled]
    by_cases hlink : p.linkEnabled = true
    · rw [if_pos hlink]
      exact ⟨.undone, h⟩
    simp only [if_neg hlink]
    have hloop := onlyMachines_untilFailure (s := s) .opengl o.task [0, 1]
    have hback := onlyMachines_attemptAll o.restore
      ((untilFailure (runRendererTask .opengl o.task) [0, 1] s).2.map Prod.fst) hloop
    split
    · exact ⟨.undone, h⟩
    split
    · refine ⟨.done, ?_⟩
      have hseen := h.onlyMachines hloop
      exact ⟨hseen.frameState, hseen.abortRequested, hseen.linkEnabled, rfl⟩
    split
    · exact ⟨.undone, h.onlyMachines hback⟩
    · exact ⟨.retired, rfl, rfl, (h.onlyMachines hback).linkEnabled, rfl⟩
  | software =>
    dsimp only
    unfold teardown
    have hloop := onlyMachines_untilFailure (s := s) .software o.task [0, 1]
    have hback := onlyMachines_attemptAll o.restore ([0, 1].filter fun m =>
      (m, none) ∉ (untilFailure (runRendererTask .software o.task) [0, 1] s).2) hloop
    have hseen := h.onlyMachines hback
    dsimp only
    split
    · exact ⟨.done, hseen.frameState, hseen.abortRequested, hseen.linkEnabled, rfl⟩
    · exact ⟨.retired, rfl, rfl, hseen.linkEnabled, rfl⟩

end

end Renderers

end DualBoy.Nds
