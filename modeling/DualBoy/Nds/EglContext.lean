import DualBoy.Engine
import DualBoy.Lib.Attempts
import DualBoy.Lib.Lifetime
import Mathlib.Data.List.Infix
import Mathlib.Data.Sum.Basic

/-!
# What an offscreen OpenGL context owns

`create_implementation` and `release_implementation` of `egl_context.c`: a library, a surface and a
context for each machine, and the block that keeps them. A creation is its checks in the order of the
source (`setups`), each of which may acquire something or fail; a failed one releases the
implementation as far as it got. EGL, the dynamic loader and the allocator are what they answer. The
log has every read and write of the block, every call into the library and every handle passed to it.

* `Building.perform`: one check of a creation.
* **`createImplementation_books`**: whatever is answered, a creation ends with a complete
  implementation whose contexts are not current, or with nothing that it acquired still held.
* **`releaseImplementation_books`**: what an implementation holds is released, each once.
-/

namespace DualBoy.Nds.Egl

open DualBoy.Lib

/-! ## The source -/

/-- The functions loaded from libEGL, in the order of the source. -/
inductive Entry where
  | initializeDisplay
  | bindApi
  | chooseConfig
  | createPbufferSurface
  | destroySurface
  | createContext
  | destroyContext
  | makeCurrent
  | getError
  | getProcAddress
  | releaseThread
  deriving DecidableEq, Repr

def entries : List Entry :=
  [.initializeDisplay, .bindApi, .chooseConfig, .createPbufferSurface, .destroySurface, .createContext,
    .destroyContext, .makeCurrent, .getError, .getProcAddress, .releaseThread]

/-- What the error buffer says. -/
inductive EglError where
  /-- invalid EGL context lifecycle -/
  | lifecycle
  /-- could not allocate EGL worker state -/
  | noWorker
  /-- could not initialize EGL worker mutex -/
  | noMutex
  /-- could not initialize EGL worker condition -/
  | noCondition
  /-- could not start the EGL worker thread -/
  | noThread
  /-- could not allocate EGL context state -/
  | noState
  /-- OpenGL renderer requires the libEGL.so.1 runtime -/
  | noLibrary
  /-- libEGL is missing the function -/
  | missing (entry : Entry)
  /-- EGL surfaceless platform is unavailable -/
  | noPlatform
  /-- EGL cannot bind desktop OpenGL -/
  | noDesktopGL
  /-- EGL has no OpenGL pbuffer configuration -/
  | noConfig
  /-- could not create EGL pbuffer -/
  | noSurface (slot : Fin 2)
  /-- could not create OpenGL 3.2 context -/
  | noContext (slot : Fin 2)
  /-- invalid offscreen OpenGL context slot -/
  | invalidSlot
  /-- could not select offscreen OpenGL context -/
  | notSelected (slot : Fin 2)
  /-- invalid offscreen OpenGL context release -/
  | invalidRelease
  /-- could not release offscreen OpenGL context -/
  | notReleased
  /-- offscreen context does not provide OpenGL 3.2 -/
  | tooOld (slot : Fin 2)
  /-- offscreen OpenGL contexts use incompatible dispatch tables -/
  | dispatchTables
  /-- offscreen EGL initialization failed -/
  | startup
  /-- offscreen OpenGL worker is not ready -/
  | notReady
  /-- offscreen OpenGL worker is unavailable -/
  | unavailable
  /-- what the task says -/
  | task
  deriving DecidableEq, Repr

/-- What the system answers to the calls of one step. -/
structure Answers where
  /-- `calloc` -/
  memory : Bool
  /-- `dlopen`, of `libEGL.so.1` and of `libEGL.so` -/
  dlopen : Fin 2 → Bool
  symbol : Entry → Bool
  /-- `eglGetPlatformDisplay`: `none` if it is missing -/
  coreDisplay : Option Bool
  /-- `eglGetPlatformDisplayEXT` -/
  extensionDisplay : Option Bool
  initializeDisplay : Bool
  bindApi : Bool
  /-- The count of configurations, `none` for a failed call. -/
  config : Option Int
  fallbackConfig : Option Int
  surface : Fin 2 → Bool
  context : Fin 2 → Bool
  /-- `eglMakeCurrent` of a slot's context -/
  select : Fin 2 → Bool
  /-- `eglMakeCurrent` of no context, after a slot's use -/
  unbind : Fin 2 → Bool
  gladLoad : Fin 2 → Bool
  version32 : Fin 2 → Bool
  /-- Where the driver puts `glGetString`, `glGenBuffers` and `glBindFramebuffer`. -/
  dispatch : Fin 2 → Nat × Nat × Nat
  /-- What the task returns. -/
  task : Bool
  /-- `eglMakeCurrent` of no context, and `eglReleaseThread`, at the end -/
  lastUnbind : Bool
  releaseThread : Bool

/-- `struct dualboy_egl_implementation`: the functions are those loaded so far, and `code` is the
library they point into; handles are numbers. -/
structure Implementation where
  address : Nat
  library : Option Nat
  display : Bool
  config : Bool
  surfaces : Fin 2 → Option Nat
  contexts : Fin 2 → Option Nat
  functions : List Entry
  code : Option Nat
  currentSlot : Option (Fin 2)
  firstDispatch : Option (Nat × Nat × Nat)

/-- What `calloc` leaves of it. -/
def Implementation.empty (address : Nat) : Implementation where
  address := address
  library := none
  display := false
  config := false
  surfaces _ := none
  contexts _ := none
  functions := []
  code := none
  currentSlot := none
  firstDispatch := none

/-- What a call through the block uses. -/
def Implementation.call (i : Implementation) : List Nat := i.address :: i.code.toList

/-- The worker's thread at its EGL work: the implementation, the context that is current on the
thread, and what happened to handles so far. -/
structure Side where
  implementation : Implementation
  current : Option (Fin 2)
  log : List (LifeEvent Nat)
  next : Nat

namespace Side

/-- These are read, written, called or passed on. -/
def uses (s : Side) (handles : List Nat) : Side := { s with log := s.log ++ handles.map .use }

/-- Something is released, and then taken out of the block. -/
def giveUp (s : Side) (handle : Nat) (i : Implementation) : Side :=
  { s with
    log := s.log ++ [.release handle] ++ [.use s.implementation.address]
    implementation := i }

/-- `get_surfaceless_display`. -/
def surfacelessDisplay (a : Answers) : Bool :=
  a.coreDisplay = some true ∨ a.extensionDisplay = some true

/-- `make_slot_current`. -/
def makeSlotCurrent (s : Side) (slot : Fin 2) (answer : Bool) : Side × Option EglError :=
  match s.implementation.contexts slot, s.implementation.surfaces slot with
  | some context, some surface =>
    let s := s.uses (s.implementation.call ++ [surface, context])
    if answer then
      ({ s with
          current := some slot
          implementation := { s.implementation with currentSlot := some slot } }, none)
    else (s, some (.notSelected slot))
  | _, _ => (s.uses [s.implementation.address], some .invalidSlot)

/-- `release_current`. -/
def releaseCurrent (s : Side) (answer : Bool) : Side × Option EglError :=
  if ¬s.implementation.display ∨ .makeCurrent ∉ s.implementation.functions then
    (s.uses [s.implementation.address], some .invalidRelease)
  else
    let s := s.uses s.implementation.call
    if answer then
      ({ s with
          current := none
          implementation := { s.implementation with currentSlot := none } }, none)
    else (s, some .notReleased)

/-- The context of a slot is destroyed, if there is one. -/
def destroyContext (s : Side) (slot : Fin 2) : Side :=
  match s.implementation.contexts slot with
  | some context =>
    if s.implementation.display ∧ .destroyContext ∈ s.implementation.functions then
      (s.uses s.implementation.call).giveUp context
        { s.implementation with
          contexts := Function.update s.implementation.contexts slot none }
    else s.uses [s.implementation.address]
  | none => s.uses [s.implementation.address]

def destroySurface (s : Side) (slot : Fin 2) : Side :=
  match s.implementation.surfaces slot with
  | some surface =>
    if s.implementation.display ∧ .destroySurface ∈ s.implementation.functions then
      (s.uses s.implementation.call).giveUp surface
        { s.implementation with
          surfaces := Function.update s.implementation.surfaces slot none }
    else s.uses [s.implementation.address]
  | none => s.uses [s.implementation.address]

/-- `dlclose`. The functions still point into the library. -/
def closeLibrary (s : Side) : Side :=
  match s.implementation.library with
  | some library =>
    (s.uses [s.implementation.address]).giveUp library { s.implementation with library := none }
  | none => s.uses [s.implementation.address]

/-- The first lines of `release_implementation`. -/
def dropCurrent (s : Side) (a : Answers) : Side :=
  if s.implementation.display ∧ .makeCurrent ∈ s.implementation.functions then
    { s.uses s.implementation.call with
      current := if a.lastUnbind then none else s.current
      implementation := { s.implementation with currentSlot := none } }
  else s.uses [s.implementation.address]

def releaseThread (s : Side) (a : Answers) : Side :=
  if .releaseThread ∈ s.implementation.functions then
    { s.uses s.implementation.call with current := if a.releaseThread then none else s.current }
  else s.uses [s.implementation.address]

/-- `release_implementation` up to its `free`. -/
def releaseResources (s : Side) (a : Answers) : Side :=
  let s := s.dropCurrent a
  let s := (s.destroyContext 0).destroySurface 0
  let s := (s.destroyContext 1).destroySurface 1
  (s.releaseThread a).closeLibrary

/-- `release_implementation`: the log after it. -/
def releaseImplementation (s : Side) (a : Answers) : List (LifeEvent Nat) :=
  (s.releaseResources a).log ++ [.release s.implementation.address]

/-- The checks of `create_implementation`. -/
inductive Setup where
  | openLibrary
  | load (entry : Entry)
  | display
  | initializeDisplay
  | bindApi
  | chooseConfig
  | surface (slot : Fin 2)
  | context (slot : Fin 2)
  | select (slot : Fin 2)
  | loadGL (slot : Fin 2)
  | compare (slot : Fin 2)
  | unbind (slot : Fin 2)
  deriving DecidableEq, Repr

/-- What a check uses of the block and the library; `select` and `unbind` use what their functions
do. -/
def Setup.uses (i : Implementation) : Setup → List Nat
  | .openLibrary => [i.address]
  | .load _ => i.address :: i.library.toList
  | .display => i.call ++ i.library.toList
  | .initializeDisplay | .bindApi | .chooseConfig | .surface _ | .context _ | .loadGL _ => i.call
  | .select _ | .compare _ | .unbind _ => []

def slotSetups (slot : Fin 2) : List Setup :=
  [.surface slot, .context slot, .select slot, .loadGL slot, .compare slot, .unbind slot]

def setups : List Setup :=
  [.openLibrary] ++ entries.map .load ++ [.display, .initializeDisplay, .bindApi, .chooseConfig] ++
    slotSetups 0 ++ slotSetups 1

/-- What a check comes to, with what it acquires. -/
def attempt (a : Answers) (c : Setup) (s : Side) : Side × Option EglError :=
  let i := s.implementation
  let check (ok : Bool) (i : Implementation) (error : EglError) : Side × Option EglError :=
    if ok then ({ s with implementation := i }, none) else (s, some error)
  let acquire (ok : Bool) (i : Implementation) (error : EglError) : Side × Option EglError :=
    if ok then
      ({ s with implementation := i, log := s.log ++ [.acquire s.next], next := s.next + 1 }, none)
    else (s, some error)
  match c with
  | .openLibrary =>
    acquire (a.dlopen 0 || a.dlopen 1) { i with library := some s.next } .noLibrary
  | .load entry =>
    check (a.symbol entry) { i with functions := i.functions ++ [entry], code := i.library }
      (.missing entry)
  | .display => check (surfacelessDisplay a) { i with display := true } .noPlatform
  | .initializeDisplay => check a.initializeDisplay i .noPlatform
  | .bindApi => check a.bindApi i .noDesktopGL
  | .chooseConfig =>
    check (a.config = some 1 ∨ a.fallbackConfig = some 1) { i with config := true } .noConfig
  | .surface slot =>
    acquire (a.surface slot) { i with surfaces := Function.update i.surfaces slot (some s.next) }
      (.noSurface slot)
  | .context slot =>
    acquire (a.context slot) { i with contexts := Function.update i.contexts slot (some s.next) }
      (.noContext slot)
  | .select slot => s.makeSlotCurrent slot (a.select slot)
  | .loadGL slot => check (a.gladLoad slot && a.version32 slot) i (.tooOld slot)
  | .compare slot =>
    if slot = 0 then check true { i with firstDispatch := some (a.dispatch slot) } .dispatchTables
    else check (i.firstDispatch = some (a.dispatch slot)) i .dispatchTables
  | .unbind slot => s.releaseCurrent (a.unbind slot)

/-- One check, on what it uses. -/
def perform (a : Answers) (c : Setup) (s : Side) : Side × Option EglError :=
  attempt a c (s.uses (c.uses s.implementation))

end Side

/-- What `create_implementation` returns, with the context that is current on the thread, the log and
the next number. -/
structure Creation where
  result : Except EglError Implementation
  current : Option (Fin 2)
  log : List (LifeEvent Nat)
  next : Nat

/-- `create_implementation`. -/
def createImplementation (a : Answers) (log : List (LifeEvent Nat)) (next : Nat) : Creation :=
  if ¬a.memory then ⟨.error .noState, none, log, next⟩
  else
    let r := untilFailure (Side.perform a) Side.setups
      ⟨.empty next, none, log ++ [.acquire next], next + 1⟩
    match firstError r.2 with
    | none => ⟨.ok r.1.implementation, r.1.current, r.1.log, r.1.next⟩
    | some error =>
      let s := r.1.releaseResources a
      ⟨.error error, s.current, r.1.releaseImplementation a, s.next⟩

/-! ## Who holds what -/

/-- What an implementation may hold. -/
inductive Piece where
  | implementation
  | library
  | surface (slot : Fin 2)
  | context (slot : Fin 2)
  deriving DecidableEq, Repr

def Implementation.piece (i : Implementation) : Piece → Option Nat
  | .implementation => some i.address
  | .library => i.library
  | .surface slot => i.surfaces slot
  | .context slot => i.contexts slot

namespace Implementation

variable (i : Implementation)

theorem piece_library (library : Option Nat) :
    { i with library }.piece = Function.update i.piece .library library := by
  funext piece
  cases piece with
  | library => exact (Function.update_self Piece.library library i.piece).symm
  | implementation | surface slot | context slot =>
    rw [Function.update_of_ne (by simp)]
    rfl

theorem piece_surface (slot : Fin 2) (surface : Option Nat) :
    { i with surfaces := Function.update i.surfaces slot surface }.piece =
      Function.update i.piece (.surface slot) surface := by
  funext piece
  cases piece with
  | surface slot' =>
    by_cases h : slot' = slot
    · subst h
      rw [Function.update_self]
      exact Function.update_self slot' surface i.surfaces
    · rw [Function.update_of_ne (by simp [h])]
      exact Function.update_of_ne h surface i.surfaces
  | implementation | library | context slot' =>
    rw [Function.update_of_ne (by simp)]
    rfl

theorem piece_context (slot : Fin 2) (context : Option Nat) :
    { i with contexts := Function.update i.contexts slot context }.piece =
      Function.update i.piece (.context slot) context := by
  funext piece
  cases piece with
  | context slot' =>
    by_cases h : slot' = slot
    · subst h
      rw [Function.update_self]
      exact Function.update_self slot' context i.contexts
    · rw [Function.update_of_ne (by simp [h])]
      exact Function.update_of_ne h context i.contexts
  | implementation | library | surface slot' =>
    rw [Function.update_of_ne (by simp)]
    rfl

end Implementation

section

variable {ι : Type} {own : ι → Option Nat} {s : Side}

/-- The books are kept of an implementation, whose surfaces and contexts can be destroyed. -/
structure Held (own : ι → Option Nat) (s : Side) : Prop where
  books : Books (Sum.elim own s.implementation.piece) s.log s.next
  surfaces : ∀ slot, (s.implementation.surfaces slot).isSome →
    s.implementation.display = true ∧ .destroySurface ∈ s.implementation.functions
  contexts : ∀ slot, (s.implementation.contexts slot).isSome →
    s.implementation.display = true ∧ .destroyContext ∈ s.implementation.functions
  /-- The library that is called is open. -/
  code : ∀ library, s.implementation.code = some library → s.implementation.library = some library

/-! ## Uses -/

/-- What is held may be used. -/
theorem Held.uses (h : Held own s) {handles : List Nat}
    (hheld : ∀ r ∈ handles, ∃ piece, s.implementation.piece piece = some r) :
    Held own (s.uses handles) :=
  { h with
    books := h.books.uses fun r hr => by
      obtain ⟨piece, hpiece⟩ := hheld r hr
      exact ⟨Sum.inr piece, hpiece⟩ }

theorem Held.piece_of_call (h : Held own s) {r : Nat} (hr : r ∈ s.implementation.call) :
    ∃ piece, s.implementation.piece piece = some r := by
  rcases List.mem_cons.mp hr with rfl | hr
  · exact ⟨.implementation, rfl⟩
  · exact ⟨.library, h.code r (Option.mem_toList.mp hr)⟩

/-- The block is there to be read. -/
theorem Held.touched (h : Held own s) : Held own (s.uses [s.implementation.address]) :=
  h.uses fun _ hr => ⟨.implementation, congrArg some (List.mem_singleton.mp hr).symm⟩

/-- The library is there to be called. -/
theorem Held.called (h : Held own s) : Held own (s.uses s.implementation.call) :=
  h.uses fun _ => h.piece_of_call

/-- The same holdings with other records. -/
theorem Held.congr (h : Held own s) {t : Side} (hlog : t.log = s.log) (hnext : t.next = s.next)
    (hpiece : t.implementation.piece = s.implementation.piece)
    (hdisplay : s.implementation.display = true → t.implementation.display = true)
    (hfunctions : s.implementation.functions ⊆ t.implementation.functions)
    (hcode : ∀ library, t.implementation.code = some library →
      t.implementation.library = some library) : Held own t := by
  refine ⟨?_, fun slot hslot => ?_, fun slot hslot => ?_, hcode⟩
  · rw [hlog, hnext, hpiece]
    exact h.books
  · have hsame := congrFun hpiece (.surface slot)
    change t.implementation.surfaces slot = s.implementation.surfaces slot at hsame
    rw [hsame] at hslot
    obtain ⟨hshown, hloaded⟩ := h.surfaces slot hslot
    exact ⟨hdisplay hshown, hfunctions hloaded⟩
  · have hsame := congrFun hpiece (.context slot)
    change t.implementation.contexts slot = s.implementation.contexts slot at hsame
    rw [hsame] at hslot
    obtain ⟨hshown, hloaded⟩ := h.contexts slot hslot
    exact ⟨hdisplay hshown, hfunctions hloaded⟩

theorem piece_currentSlot (i : Implementation) (slot : Option (Fin 2)) :
    { i with currentSlot := slot }.piece = i.piece := by
  funext piece
  cases piece <;> rfl

/-! ## A selection -/

/-- A selection or a release of a context: the implementation holds what it held. -/
structure Moved (own : ι → Option Nat) (s t : Side) : Prop where
  held : Held own t
  piece : t.implementation.piece = s.implementation.piece
  display : t.implementation.display = s.implementation.display
  functions : t.implementation.functions = s.implementation.functions
  code : t.implementation.code = s.implementation.code

theorem Held.makeSlotCurrent (h : Held own s) (slot : Fin 2) (answer : Bool) :
    Moved own s (s.makeSlotCurrent slot answer).1 := by
  unfold Side.makeSlotCurrent
  split
  · rename_i context surface hcontext hsurface
    have hused : Held own (s.uses (s.implementation.call ++ [surface, context])) := by
      refine h.uses fun r hr => ?_
      simp only [List.mem_append, List.mem_cons, List.not_mem_nil, or_false] at hr
      rcases hr with hr | rfl | rfl
      · exact h.piece_of_call hr
      · exact ⟨.surface slot, hsurface⟩
      · exact ⟨.context slot, hcontext⟩
    dsimp only
    cases answer with
    | true =>
      rw [if_pos rfl]
      exact ⟨hused.congr rfl rfl (piece_currentSlot _ _) id (List.Subset.refl _) h.code,
        piece_currentSlot _ _, rfl, rfl, rfl⟩
    | false => exact ⟨hused, rfl, rfl, rfl, rfl⟩
  · exact ⟨h.touched, rfl, rfl, rfl, rfl⟩

theorem current_makeSlotCurrent {slot : Fin 2} {answer : Bool}
    (h : (s.makeSlotCurrent slot answer).2 = none) :
    (s.makeSlotCurrent slot answer).1.current = some slot := by
  unfold Side.makeSlotCurrent at h ⊢
  split at h
  · cases answer with
    | true => rfl
    | false => cases h
  · cases h

theorem Held.releaseCurrent (h : Held own s) (answer : Bool) :
    Moved own s (s.releaseCurrent answer).1 := by
  unfold Side.releaseCurrent
  split
  · exact ⟨h.touched, rfl, rfl, rfl, rfl⟩
  · dsimp only
    split
    · exact ⟨h.called.congr rfl rfl (piece_currentSlot _ _) id (List.Subset.refl _) h.code,
        piece_currentSlot _ _, rfl, rfl, rfl⟩
    · exact ⟨h.called, rfl, rfl, rfl, rfl⟩

theorem current_releaseCurrent {answer : Bool} (h : (s.releaseCurrent answer).2 = none) :
    (s.releaseCurrent answer).1.current = none := by
  unfold Side.releaseCurrent at h ⊢
  split at h
  · cases h
  · rename_i hready
    split at h
    · rename_i hanswer
      rw [if_neg hready, if_pos hanswer]
    · cases h

/-! ## A release -/

/-- Nothing that was not held is, and the block is the same. -/
structure Less (s t : Side) : Prop where
  address : t.implementation.address = s.implementation.address
  gone : ∀ piece, s.implementation.piece piece = none → t.implementation.piece piece = none

theorem Less.trans {s t u : Side} (h : Less s t) (h' : Less t u) : Less s u :=
  ⟨h'.address.trans h.address, fun piece hpiece => h'.gone piece (h.gone piece hpiece)⟩

theorem less_uses (s : Side) (handles : List Nat) : Less s (s.uses handles) :=
  ⟨rfl, fun _ hpiece => hpiece⟩

theorem less_giveUp (piece : Piece) {i : Implementation} (handle : Nat)
    (hne : piece ≠ .implementation)
    (hi : i.piece = Function.update s.implementation.piece piece none) :
    Less s (s.giveUp handle i) := by
  refine ⟨?_, fun piece' hpiece => ?_⟩
  · have haddress := congrFun hi .implementation
    rw [Function.update_of_ne hne.symm] at haddress
    exact Option.some.inj haddress
  · change i.piece piece' = none
    rw [hi]
    by_cases hsame : piece' = piece
    · rw [hsame, Function.update_self]
    · rw [Function.update_of_ne hsame]
      exact hpiece

theorem less_destroyContext (s : Side) (slot : Fin 2) : Less s (s.destroyContext slot) := by
  unfold Side.destroyContext
  split
  · split
    · exact (less_uses s _).trans
        (less_giveUp (.context slot) _ nofun (Implementation.piece_context _ slot none))
    · exact less_uses s _
  · exact less_uses s _

theorem less_destroySurface (s : Side) (slot : Fin 2) : Less s (s.destroySurface slot) := by
  unfold Side.destroySurface
  split
  · split
    · exact (less_uses s _).trans
        (less_giveUp (.surface slot) _ nofun (Implementation.piece_surface _ slot none))
    · exact less_uses s _
  · exact less_uses s _

theorem less_closeLibrary (s : Side) : Less s s.closeLibrary := by
  unfold Side.closeLibrary
  split
  · exact (less_uses s _).trans
      (less_giveUp .library _ nofun (Implementation.piece_library _ none))
  · exact less_uses s _

theorem Held.dropCurrent (h : Held own s) (a : Answers) :
    Held own (s.dropCurrent a) ∧ Less s (s.dropCurrent a) := by
  unfold Side.dropCurrent
  split
  · refine ⟨h.called.congr rfl rfl (piece_currentSlot _ _) id (List.Subset.refl _) h.code, rfl,
      fun piece hgone => ?_⟩
    dsimp only
    rw [piece_currentSlot]
    exact hgone
  · exact ⟨h.touched, less_uses s _⟩

theorem Held.releaseThread (h : Held own s) (a : Answers) :
    Held own (s.releaseThread a) ∧ Less s (s.releaseThread a) := by
  unfold Side.releaseThread
  split
  · exact ⟨h.called.congr rfl rfl rfl id (List.Subset.refl _) h.code, rfl, fun _ hgone => hgone⟩
  · exact ⟨h.touched, less_uses s _⟩

theorem isSome_of_update_none {held : Fin 2 → Option Nat} {slot slot' : Fin 2}
    (h : (Function.update held slot none slot').isSome) : (held slot').isSome := by
  by_cases hsame : slot' = slot
  · subst hsame
    rw [Function.update_self] at h
    cases h
  · rwa [Function.update_of_ne hsame] at h

section Release

variable [DecidableEq ι]

/-- A piece other than the block is given up. -/
theorem Held.giveUp (h : Held own s) (piece : Piece) {handle : Nat} {i : Implementation}
    (hpiece : s.implementation.piece piece = some handle) (hne : piece ≠ .implementation)
    (hi : i.piece = Function.update s.implementation.piece piece none) :
    Books (Sum.elim own i.piece) (s.giveUp handle i).log s.next := by
  have hreleased := h.books.release (i := Sum.inr piece) hpiece
  rw [Sum.update_elim_inr, ← hi] at hreleased
  refine hreleased.use (i := Sum.inr Piece.implementation) ?_
  change i.piece .implementation = _
  rw [hi, Function.update_of_ne hne.symm]
  rfl

theorem Held.destroyContext (h : Held own s) (slot : Fin 2) :
    Held own (s.destroyContext slot) ∧
      (s.destroyContext slot).implementation.contexts slot = none := by
  unfold Side.destroyContext
  split
  · rename_i context hcontext
    split
    · refine ⟨⟨?_, h.surfaces, fun slot' hslot' => ?_, h.code⟩, Function.update_self _ _ _⟩
      · exact h.called.giveUp (.context slot) hcontext nofun
          (Implementation.piece_context _ slot none)
      · exact h.contexts slot' (isSome_of_update_none hslot')
    · rename_i hcannot
      exact absurd (h.contexts slot (by rw [hcontext]; rfl)) hcannot
  · rename_i hnone
    exact ⟨h.touched, hnone⟩

theorem Held.destroySurface (h : Held own s) (slot : Fin 2) :
    Held own (s.destroySurface slot) ∧
      (s.destroySurface slot).implementation.surfaces slot = none := by
  unfold Side.destroySurface
  split
  · rename_i surface hsurface
    split
    · refine ⟨⟨?_, fun slot' hslot' => ?_, h.contexts, h.code⟩, Function.update_self _ _ _⟩
      · exact h.called.giveUp (.surface slot) hsurface nofun
          (Implementation.piece_surface _ slot none)
      · exact h.surfaces slot' (isSome_of_update_none hslot')
    · rename_i hcannot
      exact absurd (h.surfaces slot (by rw [hsurface]; rfl)) hcannot
  · rename_i hnone
    exact ⟨h.touched, hnone⟩

/-- With its library closed an implementation is not called any more. -/
theorem Held.closeLibrary (h : Held own s) :
    Books (Sum.elim own s.closeLibrary.implementation.piece) s.closeLibrary.log
        s.closeLibrary.next ∧
      s.closeLibrary.implementation.library = none := by
  unfold Side.closeLibrary
  split
  · rename_i library hlibrary
    exact ⟨h.touched.giveUp .library hlibrary nofun (Implementation.piece_library _ none),
      rfl⟩
  · rename_i hnone
    exact ⟨h.touched.books, hnone⟩

/-- What is left of an implementation when its surfaces, contexts and library are gone. -/
theorem Held.releaseResources (h : Held own s) (a : Answers) :
    Books (Sum.elim own (s.releaseResources a).implementation.piece) (s.releaseResources a).log
        (s.releaseResources a).next ∧
      (s.releaseResources a).implementation.address = s.implementation.address ∧
      ∀ piece, piece ≠ .implementation → (s.releaseResources a).implementation.piece piece = none := by
  obtain ⟨hdropped, hdrop⟩ := h.dropCurrent a
  obtain ⟨hheld0, hcontext0⟩ := hdropped.destroyContext 0
  obtain ⟨hheld1, hsurface0⟩ := hheld0.destroySurface 0
  obtain ⟨hheld2, hcontext1⟩ := hheld1.destroyContext 1
  obtain ⟨hheld3, hsurface1⟩ := hheld2.destroySurface 1
  obtain ⟨hheld4, hthread⟩ := hheld3.releaseThread a
  obtain ⟨hclosed, hlibrary⟩ := hheld4.closeLibrary
  have hend := hthread.trans (less_closeLibrary _)
  have hafter1 := (less_destroySurface _ 1).trans hend
  have hafterSurface0 := (less_destroyContext _ 1).trans hafter1
  have hafter0 := (less_destroySurface _ 0).trans hafterSurface0
  refine ⟨hclosed, (hdrop.trans ((less_destroyContext _ 0).trans hafter0)).address, ?_⟩
  intro piece hpiece
  cases piece with
  | implementation => exact absurd rfl hpiece
  | library => exact hlibrary
  | surface slot =>
    match slot with
    | 0 => exact hafterSurface0.gone (.surface 0) hsurface0
    | 1 => exact hend.gone (.surface 1) hsurface1
  | context slot =>
    match slot with
    | 0 => exact hafter0.gone (.context 0) hcontext0
    | 1 => exact hafter1.gone (.context 1) hcontext1

/-- **A release gives back all that an implementation holds.** -/
theorem releaseImplementation_books (h : Held own s) (a : Answers) :
    Books (Sum.elim own fun _ : Piece => none) (s.releaseImplementation a)
      (s.releaseResources a).next := by
  obtain ⟨hbooks, haddress, hgone⟩ := h.releaseResources a
  have hfreed := hbooks.release (i := Sum.inr Piece.implementation) rfl
  rw [Sum.update_elim_inr, haddress] at hfreed
  have hnothing : Function.update (s.releaseResources a).implementation.piece .implementation none =
      fun _ => none := by
    funext piece
    by_cases hpiece : piece = .implementation
    · rw [hpiece, Function.update_self]
    · rw [Function.update_of_ne hpiece]
      exact hgone piece hpiece
  rw [hnothing] at hfreed
  exact hfreed

end Release

/-! ## A creation -/

open Side

theorem nodup_setups : setups.Nodup := by decide

/-- What a surface and a context are destroyed with is there before they are. -/
theorem before_pieces : ∀ rest ∈ setups.tails, ∀ slot : Fin 2,
    (rest.head? = some (.surface slot) ∨ rest.head? = some (.context slot)) →
      .display ∉ rest ∧ .load .destroySurface ∉ rest ∧ .load .destroyContext ∉ rest := by
  decide

theorem unbind_after_select : ∀ rest ∈ setups.tails, ∀ slot : Fin 2,
    rest.head? = some (.select slot) → .unbind slot ∈ rest := by
  decide

/-- An implementation being created, with the checks that are to come. -/
structure Building (own : ι → Option Nat) (rest : List Setup) (s : Side) : Prop where
  held : Held own s
  tail : rest <:+ setups
  library : .openLibrary ∈ rest → s.implementation.library = none
  surface : ∀ slot, (s.implementation.surfaces slot).isSome ↔ .surface slot ∉ rest
  context : ∀ slot, (s.implementation.contexts slot).isSome ↔ .context slot ∉ rest
  display : .display ∉ rest → s.implementation.display = true
  loaded : ∀ entry, .load entry ∉ rest → entry ∈ s.implementation.functions
  current : ∀ slot, s.current = some slot → .unbind slot ∈ rest

variable {c : Setup} {cs : List Setup} {t : Side}

theorem Building.notMem (h : Building own (c :: cs) s) : c ∉ cs :=
  (List.nodup_cons.mp (nodup_setups.sublist h.tail.sublist)).1

/-- One check is done, and the others are to come. -/
theorem Building.next (h : Building own (c :: cs) s) (hheld : Held own t)
    (hlibrary : c = .openLibrary ∨ t.implementation.library = s.implementation.library)
    (hsurface : ∀ slot, if c = .surface slot then (t.implementation.surfaces slot).isSome = true
      else t.implementation.surfaces slot = s.implementation.surfaces slot)
    (hcontext : ∀ slot, if c = .context slot then (t.implementation.contexts slot).isSome = true
      else t.implementation.contexts slot = s.implementation.contexts slot)
    (hdisplay : c = .display ∨ s.implementation.display = true → t.implementation.display = true)
    (hloaded : ∀ entry, c = .load entry ∨ entry ∈ s.implementation.functions →
      entry ∈ t.implementation.functions)
    (hcurrent : ∀ slot, t.current = some slot → .unbind slot ∈ cs) : Building own cs t := by
  have hnot := h.notMem
  have hahead {d : Setup} (hne : d ≠ c) : d ∉ c :: cs ↔ d ∉ cs := by
    rw [List.mem_cons, not_or]
    exact and_iff_right hne
  refine ⟨hheld, (List.suffix_cons c cs).trans h.tail, fun hmem => ?_, fun slot => ?_, fun slot => ?_,
    fun hmem => hdisplay ?_, fun entry hmem => hloaded entry ?_, hcurrent⟩
  · rcases hlibrary with rfl | hlibrary
    · exact absurd hmem hnot
    · rw [hlibrary]
      exact h.library (List.mem_cons_of_mem _ hmem)
  · have hslot := hsurface slot
    split at hslot
    · rename_i hc
      rw [hc] at hnot
      exact iff_of_true hslot hnot
    · rename_i hc
      rw [hslot, h.surface, hahead (Ne.symm hc)]
  · have hslot := hcontext slot
    split at hslot
    · rename_i hc
      rw [hc] at hnot
      exact iff_of_true hslot hnot
    · rename_i hc
      rw [hslot, h.context, hahead (Ne.symm hc)]
  · by_cases hc : c = .display
    · exact Or.inl hc
    · exact Or.inr (h.display ((hahead (Ne.symm hc)).mpr hmem))
  · by_cases hc : c = .load entry
    · exact Or.inl hc
    · exact Or.inr (h.loaded entry ((hahead (Ne.symm hc)).mpr hmem))

/-- What a check leaves behind, whether it succeeds or not. -/
def Checked (own : ι → Option Nat) (cs : List Setup) (r : Side × Option EglError) : Prop :=
  (r.2 = none ∧ Building own cs r.1) ∨ (r.2 ≠ none ∧ Held own r.1)

theorem Held.checked (h : Held own s) {ok : Bool} {error : EglError}
    (ht : ok = true → Building own cs t) :
    Checked own cs (if ok = true then (t, none) else (s, some error)) := by
  cases ok with
  | true => exact Or.inl ⟨rfl, ht rfl⟩
  | false => exact Or.inr ⟨Option.some_ne_none error, h⟩

/-- What is held is used, and nothing else changes. -/
theorem Building.uses {rest : List Setup} (h : Building own rest s) {handles : List Nat}
    (hheld : ∀ r ∈ handles, ∃ piece, s.implementation.piece piece = some r) :
    Building own rest (s.uses handles) :=
  { h with held := h.held.uses hheld }

/-- What a check uses is held. -/
theorem Held.piece_of_setup (h : Held own s) (c : Setup) {r : Nat}
    (hr : r ∈ c.uses s.implementation) : ∃ piece, s.implementation.piece piece = some r := by
  have hlibrary (hr : r ∈ s.implementation.library.toList) :
      ∃ piece, s.implementation.piece piece = some r := ⟨.library, Option.mem_toList.mp hr⟩
  cases c with
  | openLibrary => exact ⟨.implementation, congrArg some (List.mem_singleton.mp hr).symm⟩
  | load entry =>
    rcases List.mem_cons.mp hr with rfl | hr
    · exact ⟨.implementation, rfl⟩
    · exact hlibrary hr
  | display => exact (List.mem_append.mp hr).elim h.piece_of_call hlibrary
  | initializeDisplay | bindApi | chooseConfig | surface slot | context slot | loadGL slot =>
    exact h.piece_of_call hr
  | select slot | compare slot | unbind slot => cases hr

/-- A check that looks at something, and may note it, acquires nothing. -/
theorem Building.noted (h : Building own (c :: cs) s) {i : Implementation}
    (hlibrary : i.library = s.implementation.library)
    (hpiece : i.piece = s.implementation.piece)
    (hc : ∀ slot, c ≠ .surface slot ∧ c ≠ .context slot ∧ c ≠ .unbind slot)
    (hdisplay : c = .display ∨ s.implementation.display = true → i.display = true)
    (hloaded : ∀ entry, c = .load entry ∨ entry ∈ s.implementation.functions →
      entry ∈ i.functions)
    (hcode : ∀ library, i.code = some library → i.library = some library) :
    Building own cs { s with implementation := i } := by
  refine h.next (h.held.congr rfl rfl hpiece (fun hshown => hdisplay (Or.inr hshown))
    (fun entry hentry => hloaded entry (Or.inr hentry)) hcode) (Or.inr hlibrary) (fun slot => ?_)
    (fun slot => ?_) hdisplay hloaded fun slot hslot => ?_
  · rw [if_neg (hc slot).1]
    exact congrFun hpiece (.surface slot)
  · rw [if_neg (hc slot).2.1]
    exact congrFun hpiece (.context slot)
  · exact (List.mem_cons.mp (h.current slot hslot)).resolve_left (Ne.symm (hc slot).2.2)

theorem Building.moved (h : Building own (c :: cs) s) (hmoved : Moved own s t)
    (hc : ∀ slot, c ≠ .surface slot ∧ c ≠ .context slot)
    (hother : c ≠ .openLibrary ∧ c ≠ .display ∧ ∀ entry, c ≠ .load entry)
    (hcurrent : ∀ slot, t.current = some slot → .unbind slot ∈ cs) : Building own cs t := by
  refine h.next hmoved.held (Or.inr (congrFun hmoved.piece .library)) (fun slot => ?_) (fun slot => ?_)
    (fun hshown => ?_) (fun entry hentry => ?_) hcurrent
  · rw [if_neg (hc slot).1]
    exact congrFun hmoved.piece (.surface slot)
  · rw [if_neg (hc slot).2]
    exact congrFun hmoved.piece (.context slot)
  · rw [hmoved.display]
    exact hshown.resolve_left hother.2.1
  · rw [hmoved.functions]
    exact hentry.resolve_left (hother.2.2 entry)

/-- An implementation that `create_implementation` hands out. -/
structure Implementation.Complete (i : Implementation) : Prop where
  surface : ∀ slot, (i.surfaces slot).isSome
  context : ∀ slot, (i.contexts slot).isSome
  display : i.display = true
  loaded : ∀ entry, entry ∈ i.functions
  code : ∀ library, i.code = some library → i.library = some library

/-- With no check to come the implementation is complete. -/
theorem Building.complete (h : Building own [] s) : s.implementation.Complete ∧ s.current = none := by
  refine ⟨⟨fun slot => (h.surface slot).mpr List.not_mem_nil,
    fun slot => (h.context slot).mpr List.not_mem_nil, h.display List.not_mem_nil,
    fun entry => h.loaded entry List.not_mem_nil, h.held.code⟩, ?_⟩
  cases hcurrent : s.current with
  | none => rfl
  | some slot => exact absurd (h.current slot hcurrent) List.not_mem_nil

variable [DecidableEq ι]

theorem Building.openLibrary (h : Building own (.openLibrary :: cs) s) :
    Building own cs { s with
      implementation := { s.implementation with library := some s.next }
      log := s.log ++ [.acquire s.next]
      next := s.next + 1 } := by
  have hnone := h.library List.mem_cons_self
  have hcode (library : Nat) (hlibrary : s.implementation.code = some library) :
      some s.next = some library := by
    cases hnone.symm.trans (h.held.code library hlibrary)
  refine h.next ⟨?_, h.held.surfaces, h.held.contexts, hcode⟩ (Or.inl rfl) (fun _ => rfl) (fun _ => rfl)
    (fun hshown => hshown.resolve_left (by simp)) (fun entry hentry => hentry.resolve_left (by simp))
    fun slot hslot => ?_
  · dsimp only
    rw [Implementation.piece_library, ← Sum.update_elim_inr]
    exact h.held.books.acquire hnone
  · exact (List.mem_cons.mp (h.current slot hslot)).resolve_left (by simp)

theorem Building.createSurface {slot : Fin 2} (h : Building own (.surface slot :: cs) s) :
    Building own cs { s with
      implementation := { s.implementation with
        surfaces := Function.update s.implementation.surfaces slot (some s.next) }
      log := s.log ++ [.acquire s.next]
      next := s.next + 1 } := by
  have hnone : s.implementation.surfaces slot = none := by
    rw [← Option.not_isSome_iff_eq_none, h.surface slot]
    exact fun hnot => hnot List.mem_cons_self
  obtain ⟨hdisplay, hloaded, -⟩ :=
    before_pieces _ ((List.mem_tails _ _).mpr h.tail) slot (Or.inl rfl)
  refine h.next
    ⟨?_, fun slot' _ => ⟨h.display hdisplay, h.loaded _ hloaded⟩, h.held.contexts, h.held.code⟩
    (Or.inr rfl) (fun slot' => ?_) (fun slot' => ?_) (fun hshown => hshown.resolve_left (by simp))
    (fun entry hentry => hentry.resolve_left (by simp)) fun slot' hslot => ?_
  · dsimp only
    rw [Implementation.piece_surface, ← Sum.update_elim_inr]
    exact h.held.books.acquire hnone
  · dsimp only
    split
    · rename_i heq
      rw [← Setup.surface.inj heq, Function.update_self]
      rfl
    · rename_i hne
      exact Function.update_of_ne (fun heq => hne (congrArg _ heq.symm)) _ _
  · rw [if_neg (by simp)]
  · exact (List.mem_cons.mp (h.current slot' hslot)).resolve_left (by simp)

theorem Building.createContext {slot : Fin 2} (h : Building own (.context slot :: cs) s) :
    Building own cs { s with
      implementation := { s.implementation with
        contexts := Function.update s.implementation.contexts slot (some s.next) }
      log := s.log ++ [.acquire s.next]
      next := s.next + 1 } := by
  have hnone : s.implementation.contexts slot = none := by
    rw [← Option.not_isSome_iff_eq_none, h.context slot]
    exact fun hnot => hnot List.mem_cons_self
  obtain ⟨hdisplay, -, hloaded⟩ :=
    before_pieces _ ((List.mem_tails _ _).mpr h.tail) slot (Or.inr rfl)
  refine h.next
    ⟨?_, h.held.surfaces, fun slot' _ => ⟨h.display hdisplay, h.loaded _ hloaded⟩, h.held.code⟩
    (Or.inr rfl) (fun slot' => ?_) (fun slot' => ?_) (fun hshown => hshown.resolve_left (by simp))
    (fun entry hentry => hentry.resolve_left (by simp)) fun slot' hslot => ?_
  · dsimp only
    rw [Implementation.piece_context, ← Sum.update_elim_inr]
    exact h.held.books.acquire hnone
  · rw [if_neg (by simp)]
  · dsimp only
    split
    · rename_i heq
      rw [← Setup.context.inj heq, Function.update_self]
      rfl
    · rename_i hne
      exact Function.update_of_ne (fun heq => hne (congrArg _ heq.symm)) _ _
  · exact (List.mem_cons.mp (h.current slot' hslot)).resolve_left (by simp)

/-- What a check comes to, with what it uses at hand. -/
theorem Building.attempt (h : Building own (c :: cs) s) (a : Answers) :
    Checked own cs (attempt a c s) := by
  have hlook {ok : Bool} {error : EglError}
      (hc : ∀ slot, c ≠ .surface slot ∧ c ≠ .context slot ∧ c ≠ .unbind slot)
      (hother : c ≠ .display ∧ ∀ entry, c ≠ .load entry) :
      Checked own cs (if ok = true then (s, none) else (s, some error)) :=
    h.held.checked fun _ => h.noted rfl rfl hc (fun hshown => hshown.resolve_left hother.1)
      (fun entry hentry => hentry.resolve_left (hother.2 entry)) h.held.code
  cases c with
  | openLibrary => exact h.held.checked fun _ => h.openLibrary
  | load entry =>
    refine h.held.checked fun _ => h.noted rfl rfl (by simp) (fun hshown => ?_)
      (fun entry' hentry => ?_) fun _ => id
    · exact hshown.resolve_left (by simp)
    · rcases hentry with hentry | hentry
      · rw [Setup.load.inj hentry]
        exact List.mem_append_right _ List.mem_cons_self
      · exact List.mem_append_left _ hentry
  | display =>
    refine h.held.checked fun _ => h.noted rfl rfl (by simp) (fun _ => rfl) (fun entry hentry => ?_)
      h.held.code
    exact hentry.resolve_left (by simp)
  | initializeDisplay => exact hlook (by simp) (by simp)
  | bindApi => exact hlook (by simp) (by simp)
  | chooseConfig =>
    refine h.held.checked fun _ => h.noted rfl rfl (by simp) (fun hshown => ?_)
      (fun entry hentry => ?_) h.held.code
    · exact hshown.resolve_left (by simp)
    · exact hentry.resolve_left (by simp)
  | surface slot => exact h.held.checked fun _ => h.createSurface
  | context slot => exact h.held.checked fun _ => h.createContext
  | select slot =>
    have hmoved := h.held.makeSlotCurrent slot (a.select slot)
    by_cases hnone : (s.makeSlotCurrent slot (a.select slot)).2 = none
    · refine Or.inl ⟨hnone, h.moved hmoved (by simp) (by simp) fun slot' hslot' => ?_⟩
      obtain rfl : slot = slot' :=
        Option.some.inj ((current_makeSlotCurrent hnone).symm.trans hslot')
      have hunbind := unbind_after_select _ ((List.mem_tails _ _).mpr h.tail) slot rfl
      exact (List.mem_cons.mp hunbind).resolve_left (by simp)
    · exact Or.inr ⟨hnone, hmoved.held⟩
  | loadGL slot => exact hlook (by simp) (by simp)
  | compare slot =>
    unfold Side.attempt
    dsimp only
    split
    · refine h.held.checked fun _ => h.noted rfl ?_ (by simp) (fun hshown => ?_)
        (fun entry hentry => ?_) h.held.code
      · funext piece
        cases piece <;> rfl
      · exact hshown.resolve_left (by simp)
      · exact hentry.resolve_left (by simp)
    · exact hlook (by simp) (by simp)
  | unbind slot =>
    have hmoved := h.held.releaseCurrent (a.unbind slot)
    by_cases hnone : (s.releaseCurrent (a.unbind slot)).2 = none
    · refine Or.inl ⟨hnone, h.moved hmoved (by simp) (by simp) fun slot' hslot' => ?_⟩
      cases (current_releaseCurrent hnone).symm.trans hslot'
    · exact Or.inr ⟨hnone, hmoved.held⟩

/-- **One check of a creation.** -/
theorem Building.perform (h : Building own (c :: cs) s) (a : Answers) :
    Checked own cs (perform a c s) :=
  Building.attempt (h.uses fun _ => h.held.piece_of_setup c) a

/-- A creation ends with a complete implementation and no context current, or holds nothing of what it
acquired. -/
structure Settled (own : ι → Option Nat) (r : Creation) : Prop where
  ok : ∀ i, r.result = .ok i → Held own ⟨i, r.current, r.log, r.next⟩ ∧ i.Complete ∧ r.current = none
  error : ∀ error, r.result = .error error → Books (Sum.elim own fun _ : Piece => none) r.log r.next

theorem building_empty {log : List (LifeEvent Nat)} {next : Nat}
    (h : Books (Sum.elim own fun _ : Piece => none) log next) :
    Building own setups ⟨.empty next, none, log ++ [.acquire next], next + 1⟩ := by
  have hpiece : (Implementation.empty next).piece =
      Function.update (fun _ => none) .implementation (some next) := by
    funext piece
    cases piece <;> rfl
  have hheld : Held own ⟨.empty next, none, log ++ [.acquire next], next + 1⟩ := by
    refine ⟨?_, fun _ hslot => (by cases hslot), fun _ hslot => (by cases hslot),
      fun _ hcode => (by cases hcode)⟩
    dsimp only
    rw [hpiece, ← Sum.update_elim_inr]
    exact h.acquire rfl
  refine ⟨hheld, List.suffix_refl _, fun _ => rfl, fun slot => ?_, fun slot => ?_, fun hnot => ?_,
    fun entry hnot => ?_, fun slot hslot => (by cases hslot)⟩
  · exact iff_of_false (by simp [Implementation.empty]) (not_not.mpr (by revert slot; decide))
  · exact iff_of_false (by simp [Implementation.empty]) (not_not.mpr (by revert slot; decide))
  · exact absurd (by decide) hnot
  · exact absurd (by cases entry <;> decide) hnot

/-- **What a creation leaves behind**, whatever is answered. -/
theorem createImplementation_books {log : List (LifeEvent Nat)} {next : Nat}
    (h : Books (Sum.elim own fun _ : Piece => none) log next) (a : Answers) :
    Settled own (createImplementation a log next) := by
  have hstep : ∀ c cs s, Building own (c :: cs) s →
      ((perform a c s).2 = none ∧ Building own cs (perform a c s).1) ∨
        ((perform a c s).2 ≠ none ∧ Held own (perform a c s).1) :=
    fun _ _ _ hs => hs.perform a
  have hend := untilFailure_rest (Building own) hstep (building_empty h)
  unfold createImplementation
  split
  · exact ⟨fun _ hok => (by cases hok), fun _ _ => h⟩
  dsimp only
  rcases hend with ⟨hnone, hdone⟩ | ⟨hsome, hheld⟩
  · rw [hnone]
    obtain ⟨hcomplete, hcurrent⟩ := hdone.complete
    refine ⟨fun i hok => ?_, fun _ herror => (by cases herror)⟩
    obtain rfl := Except.ok.inj hok
    exact ⟨hdone.held, hcomplete, hcurrent⟩
  · obtain ⟨error, herror⟩ := Option.ne_none_iff_exists'.mp hsome
    rw [herror]
    exact ⟨fun _ hok => (by cases hok), fun _ _ => releaseImplementation_books hheld a⟩

end

end DualBoy.Nds.Egl
