import DualBoy.Engine
import DualBoy.Lib.Run
import DualBoy.Libretro.Options
import DualBoy.Nds.Renderer

/-!
# The core's entry points

`libretro_core.c` as far as it decides about the link and the NDS renderer: loads, option updates,
frames, resets and restores of saved states. What comes from outside, the content, the frontend's
answers, the engines other than the NDS pair and the OpenGL contexts, is given to each entry point.
-/

namespace DualBoy.Libretro

open DualBoy.Frontend DualBoy.Nds

/-- `dualboy_engine_family_for_platform`. -/
def engineFamilyForPlatform : Platform → EngineFamily
  | .gb | .gbc => .sameboy
  | .gba => .mgba
  | .nds => .melonds
  | .invalid => .none

/-! ## The session -/

/-- `struct dualboy_session`, when loaded: the platform of the first cartridge, and the NDS pair, if
it is one. -/
structure Session where
  platform : Platform
  linkEnabled : Bool
  renderers : Option Renderers
  renderers_iff : renderers.isSome = true ↔ engineFamilyForPlatform platform = .melonds

namespace Session

/-- The pair is changed. -/
def mapRenderers (s : Session) (f : Renderers → Renderers) : Session :=
  { s with
    renderers := s.renderers.map f
    renderers_iff := by rw [Option.isSome_map]; exact s.renderers_iff }

/-- `create_pair` and `load_rom` for both machines. -/
def create (platform : Platform) : Session where
  platform := platform
  linkEnabled := false
  renderers := if engineFamilyForPlatform platform = .melonds then some .create else none
  renderers_iff := by split <;> simp_all

/-- The engine's `set_link`; any engine may refuse. -/
def engineSetLink (s : Session) (enabled refused : Bool) : Session × Bool :=
  if refused then (s, false)
  else
    (s.mapRenderers fun pair => (pair.setLink enabled).1,
      s.renderers.all fun pair => (pair.setLink enabled).2.isNone)

/-- `dualboy_session_set_link`. -/
def setLink (s : Session) (enabled refused : Bool) : Session × Bool :=
  match s.engineSetLink enabled refused with
  | (s, true) => ({ s with linkEnabled := enabled }, true)
  | (s, false) => (s, false)

end Session

/-! ## The core -/

/-- A call of the engine that can fail. -/
inductive EngineCall where
  | setLink (enabled : Bool)
  | setVideoRenderer (renderer : VideoRenderer)
  deriving DecidableEq, Repr

/-- What an entry point does that others can see. -/
inductive Event where
  /-- with the engine's answer and the NDS pair after it -/
  | engine (call : EngineCall) (succeeded : Bool) (pair : Option Renderers)
  /-- `RETRO_ENVIRONMENT_SET_VARIABLE`, whose answer is not looked at -/
  | setVariable (key value : String)
  | resetTouchCursor (machine : Fin 2)
  /-- `RETRO_ENVIRONMENT_SHUTDOWN` -/
  | shutdown

/-- `struct dualboy_libretro_context`, with what the running entry point has done. -/
structure Core where
  options : Options
  frontendLinkValue : Bool
  frontendLinkKnown : Bool
  pendingLinkValue : Bool
  linkRequestPending : Bool
  linkFailureLogged : Bool
  loadedNdsRenderer : VideoRenderer
  session : Option Session
  events : List Event

/-- How the calls of `update_options` end, by where they are made. -/
structure UpdateOutcomes where
  /-- the link is disabled for OpenGL, or enabled again after the fallback -/
  refuseDisable : Bool
  refuseRestore : Bool
  /-- the link is set as requested, or as requested earlier -/
  refuseLink : Bool
  refusePending : Bool
  /-- OpenGL is activated, deactivated, activated again -/
  activation : EglOutcomes
  teardown : EglOutcomes
  rollback : EglOutcomes
  /-- a session is discarded -/
  discard : EglOutcomes

/-- How the steps of a load end. -/
structure LoadOutcomes where
  unload : EglOutcomes
  /-- `set_pixel_format` and `query_directories` -/
  environment : Bool
  /-- the pair is created, with both cartridges, linked, and says how large its states are -/
  pair : Bool
  refuseLink : Bool
  capacities : Bool
  /-- `dualboy_save_manager_init` -/
  saves : Bool
  activation : EglOutcomes
  discard : EglOutcomes

/-- `enum dualboy_state_restore_result`, with the link of a state that was restored. -/
inductive RestoreOutcome where
  | ok (linkEnabled : Bool)
  | rejected
  | fatal
  deriving DecidableEq, Repr

namespace Core

/-- `core` as `retro_init` clears it. -/
def cleared : Core where
  options := .defaults
  frontendLinkValue := false
  frontendLinkKnown := false
  pendingLinkValue := false
  linkRequestPending := false
  linkFailureLogged := false
  loadedNdsRenderer := .software
  session := none
  events := []

def event (c : Core) (e : Event) : Core :=
  { c with events := c.events ++ [e] }

/-- `force_core_option`. -/
def forceCoreOption (c : Core) (key value : String) : Core :=
  c.event (.setVariable key value)

/-- `video_renderer`, of the engine that has one. -/
def engineRenderer (c : Core) : Option VideoRenderer := do
  let s ← c.session
  let pair ← s.renderers
  pure pair.videoRenderer

/-- `nds_session_loaded`. -/
def ndsSessionLoaded (c : Core) : Bool :=
  c.session.any fun s => s.platform = .nds

/-! ## Renderers -/

/-- `dualboy_session_set_link`, on the core's session. -/
def sessionSetLink (c : Core) (enabled refused : Bool) : Core × Bool :=
  match c.session with
  | none => (c, false)
  | some s =>
    let (s, succeeded) := s.setLink enabled refused
    ({ c with session := some s }.event (.engine (.setLink enabled) succeeded s.renderers),
      succeeded)

/-- `set_loaded_renderer`. -/
def setLoadedRenderer (c : Core) (renderer : VideoRenderer) (o : EglOutcomes) : Core × Bool :=
  match c.session with
  | none => (c, true)
  | some s =>
    match s.renderers with
    | none => (c, true)
    | some pair =>
      let succeeded := (pair.setVideoRenderer renderer o).2.isNone
      let s := s.mapRenderers fun pair => (pair.setVideoRenderer renderer o).1
      ({ c with session := some s }.event
        (.engine (.setVideoRenderer renderer) succeeded s.renderers), succeeded)

/-- `force_software_renderer`. -/
def forceSoftwareRenderer (c : Core) : Core :=
  { c with
    loadedNdsRenderer := .software
    options.ndsRenderer := .software }.forceCoreOption optionNdsRenderer "software"

/-- `activate_loaded_gl_renderer`. -/
def activateLoadedGlRenderer (c : Core) (o : EglOutcomes) : Core × Bool :=
  if c.engineRenderer = none ∨ c.options.ndsRenderer ≠ .opengl then (c, true)
  else
    match c.setLoadedRenderer .opengl o with
    | (c, true) => ({ c with loadedNdsRenderer := .opengl }, true)
    | (c, false) =>
      if c.engineRenderer ≠ some .software then ({ c with loadedNdsRenderer := .opengl }, false)
      else (c.forceSoftwareRenderer, true)

/-- `deactivate_loaded_gl_renderer`. -/
def deactivateLoadedGlRenderer (c : Core) (o : EglOutcomes) : Core × Bool :=
  if c.engineRenderer = some .opengl then
    match c.setLoadedRenderer .software o with
    | (c, true) => ({ c with loadedNdsRenderer := .software }, true)
    | (c, false) =>
      if c.engineRenderer ≠ some .software then ({ c with loadedNdsRenderer := .opengl }, false)
      else ({ c with loadedNdsRenderer := .software }, true)
  else ({ c with loadedNdsRenderer := .software }, true)

/-- `unload_current`. -/
def unloadCurrent (c : Core) (o : EglOutcomes) : Core :=
  let c := (c.deactivateLoadedGlRenderer o).1
  { c with session := none, loadedNdsRenderer := .software }

/-- `discard_current`. -/
def discardCurrent (c : Core) (o : EglOutcomes) : Core :=
  let c := (c.deactivateLoadedGlRenderer o).1
  { c with session := none }

/-! ## Loads -/

/-- `read_initial_options`. -/
def readInitialOptions (c : Core) (environment : Environment) : Core :=
  let options :=
    if c.frontendLinkKnown then { c.options with linkEnabled := c.frontendLinkValue }
    else c.options
  let options := optionsRead environment options
  { c with
    options := options
    frontendLinkValue := options.linkEnabled
    frontendLinkKnown := true
    linkRequestPending := false
    linkFailureLogged := false }

/-- `dualboy_session_load`. -/
def sessionLoad (c : Core) (platform : Platform) (o : LoadOutcomes) : Core × Bool :=
  let c := { c with session := none }
  if o.pair = false then (c, false)
  else
    let enabled := c.options.linkEnabled
    let (s, succeeded) := (Session.create platform).engineSetLink enabled o.refuseLink
    let c := c.event (.engine (.setLink enabled) succeeded s.renderers)
    if succeeded = false ∨ o.capacities = false then (c, false)
    else ({ c with session := some { s with linkEnabled := enabled } }, true)

/-- Local Link gives way to OpenGL before an NDS pair is created. -/
def giveWayToOpenGL (c : Core) (family : EngineFamily) : Core :=
  let c := { c with loadedNdsRenderer := .software }
  if family = .melonds ∧ c.options.ndsRenderer = .opengl ∧ c.options.linkEnabled = true then
    { c with
      options.linkEnabled := false
      frontendLinkValue := false
      frontendLinkKnown := true }.forceCoreOption optionLink "disabled"
  else c

/-- `load_detected_pair`, of cartridges of this platform. -/
def loadDetectedPair (c : Core) (platform : Platform) (o : LoadOutcomes) : Core × Bool :=
  let family := engineFamilyForPlatform platform
  if family = .none then (c, false)
  else
    let c := c.giveWayToOpenGL family
    if o.environment = false then (c, false)
    else
      match c.sessionLoad platform o with
      | (c, false) => (c, false)
      | (c, true) =>
        if o.saves = false then ({ c with session := none }, false)
        else if family = .melonds ∧ c.options.ndsRenderer = .opengl then
          match c.activateLoadedGlRenderer o.activation with
          | (c, true) => (c, true)
          | (c, false) => (c.discardCurrent o.discard, false)
        else (c, true)

/-- `retro_load_game` and `retro_load_game_special`; `content` is the platform of two cartridges that
were found and go together. -/
def loadGame (c : Core) (environment : Environment) (content : Option Platform) (o : LoadOutcomes) :
    Core :=
  let c := (c.unloadCurrent o.unload).readInitialOptions environment
  match content with
  | none => c
  | some platform => (c.loadDetectedPair platform o).1

/-! ## Option updates -/

/-- `reflect_link_option`. -/
def reflectLinkOption (c : Core) (enabled : Bool) : Core :=
  let frontendChange := !c.frontendLinkKnown || c.frontendLinkValue != enabled
  let c :=
    { c with
      options.linkEnabled := enabled
      frontendLinkValue := enabled
      frontendLinkKnown := true }
  if frontendChange then
    c.forceCoreOption optionLink (if enabled then "enabled" else "disabled")
  else c

/-- `reflect_renderer_option`. -/
def reflectRendererOption (c : Core) (renderer : VideoRenderer) : Core :=
  { c with options.ndsRenderer := renderer }.forceCoreOption optionNdsRenderer
    (if renderer = VideoRenderer.opengl then "opengl" else "software")

/-- `retire_failed_renderer_session`. -/
def retireFailedRendererSession (c : Core) (o : EglOutcomes) : Core :=
  (c.discardCurrent o).event .shutdown

/-- What an option update asks for. -/
structure Request where
  link : Bool
  renderer : VideoRenderer
  frontendLinkChanged : Bool

/-- The options as the frontend has them, with the link as it had it, where it says nothing. -/
def candidateOptions (c : Core) (environment : Environment) : Options :=
  optionsRead environment
    (if c.frontendLinkKnown then { c.options with linkEnabled := c.frontendLinkValue }
    else c.options)

def frontendLinkChanged (c : Core) (candidate : Options) : Bool :=
  !c.frontendLinkKnown || candidate.linkEnabled != c.frontendLinkValue

/-- One of Local Link and OpenGL gives way, if an NDS session is asked for both. -/
def settleRequest (c : Core) (candidate : Options) : Core × Bool × VideoRenderer :=
  if c.ndsSessionLoaded ∧ candidate.linkEnabled = true ∧ candidate.ndsRenderer = .opengl then
    if c.frontendLinkChanged candidate ∧ candidate.ndsRenderer = c.options.ndsRenderer then
      (c.forceCoreOption optionNdsRenderer "software", true, .software)
    else (c.forceCoreOption optionLink "disabled", false, .opengl)
  else (c, candidate.linkEnabled, candidate.ndsRenderer)

/-- The start of `update_options`. The link and the renderer stay as they are. -/
def readUpdate (c : Core) (environment : Environment) : Core × Request :=
  let candidate := c.candidateOptions environment
  let frontendLinkChanged := c.frontendLinkChanged candidate
  let moved := [0, 1].filter fun machine =>
    candidate.controllerPorts machine ≠ c.options.controllerPorts machine
  let (c, link, renderer) := c.settleRequest candidate
  ({ c with
      frontendLinkValue := link
      frontendLinkKnown := true
      options :=
        { candidate with
          linkEnabled := c.options.linkEnabled
          ndsRenderer := c.options.ndsRenderer }
      events := c.events ++ moved.map .resetTouchCursor },
    { link, renderer, frontendLinkChanged })

/-- What `update_options` does once OpenGL could not be activated. -/
def fallBack (c : Core) (restoreLink : Bool) (o : UpdateOutcomes) : Core :=
  let c := c.reflectRendererOption .software
  if restoreLink then
    match c.sessionSetLink true o.refuseRestore with
    | (c, true) => c.reflectLinkOption true
    | (c, false) => c.reflectLinkOption false
  else c.reflectLinkOption false

/-- The link is disabled for OpenGL, if it is enabled. -/
def disableLink (c : Core) (o : UpdateOutcomes) : Core × Bool :=
  if c.options.linkEnabled then c.sessionSetLink false o.refuseDisable else (c, true)

/-- OpenGL is activated, unless it is active. -/
def selectOpenGL (c : Core) (o : UpdateOutcomes) : Core × Bool :=
  let c := { c with options.linkEnabled := false, options.ndsRenderer := .opengl }
  if c.loadedNdsRenderer ≠ .opengl then c.activateLoadedGlRenderer o.activation else (c, true)

/-- `update_options`, of an NDS session that is asked for OpenGL. -/
def updateToOpenGL (c : Core) (o : UpdateOutcomes) : Core :=
  let restoreLinkOnFailure := c.options.linkEnabled
  match c.disableLink o with
  | (c, false) => (c.reflectLinkOption true).reflectRendererOption .software
  | (c, true) =>
    match c.selectOpenGL o with
    | (c, false) => c.retireFailedRendererSession o.discard
    | (c, true) =>
      if c.loadedNdsRenderer = .opengl then
        { c with options.ndsRenderer := .opengl }.reflectLinkOption false
      else c.fallBack restoreLinkOnFailure o

/-- OpenGL is deactivated, if it is active. -/
def selectSoftware (c : Core) (o : UpdateOutcomes) : Core × Bool :=
  if c.loadedNdsRenderer = .opengl then c.deactivateLoadedGlRenderer o.teardown else (c, true)

/-- The link is set as requested, unless it is so. -/
def requestLink (c : Core) (requestedLink : Bool) (o : UpdateOutcomes) : Core × Bool :=
  let c := { c with options.ndsRenderer := .software }
  if requestedLink ≠ c.options.linkEnabled then c.sessionSetLink requestedLink o.refuseLink
  else (c, true)

/-- OpenGL comes back for a link that could not be enabled. -/
def restoreRenderer (c : Core) (rollbackToGl requestedLink : Bool) (o : UpdateOutcomes) :
    Core × Bool :=
  if rollbackToGl && requestedLink then
    let c := { c with options.ndsRenderer := .opengl }
    match c.activateLoadedGlRenderer o.rollback with
    | (c, false) => (c.retireFailedRendererSession o.discard, false)
    | (c, true) => (c.reflectRendererOption c.loadedNdsRenderer, true)
  else (c.reflectRendererOption .software, true)

/-- `update_options`, of an NDS session that is asked for software. -/
def updateToSoftware (c : Core) (requestedLink : Bool) (o : UpdateOutcomes) : Core :=
  let rollbackToGl : Bool := c.loadedNdsRenderer = .opengl
  match c.selectSoftware o with
  | (c, false) =>
    ((c.reflectLinkOption false).reflectRendererOption .opengl).retireFailedRendererSession o.discard
  | (c, true) =>
    match c.requestLink requestedLink o with
    | (c, false) =>
      match c.restoreRenderer rollbackToGl requestedLink o with
      | (c, false) => c
      | (c, true) => c.reflectLinkOption (c.session.any Session.linkEnabled)
    | (c, true) =>
      { c with
        options.linkEnabled := requestedLink
        options.ndsRenderer := .software
        frontendLinkValue := requestedLink
        frontendLinkKnown := true }

/-- `update_options`, of a session that is not NDS: the renderer is for the next load, and a link that
the frontend changed becomes a request. -/
def rememberRequest (c : Core) (request : Request) : Core :=
  let c := { c with options.ndsRenderer := request.renderer }
  if request.frontendLinkChanged then
    { c with
      pendingLinkValue := request.link
      linkRequestPending := true
      linkFailureLogged := false }
  else c

/-- The end of `update_options`: a link request that waits is tried. -/
def tryPendingLink (c : Core) (o : UpdateOutcomes) : Core :=
  if c.linkRequestPending = false then c
  else if c.session.isNone then
    { c with options.linkEnabled := c.pendingLinkValue, linkRequestPending := false }
  else
    match c.sessionSetLink c.pendingLinkValue o.refusePending with
    | (c, true) =>
      { c with
        options.linkEnabled := c.pendingLinkValue
        linkRequestPending := false
        linkFailureLogged := false }
    | (c, false) => { c with linkFailureLogged := true }

/-- `update_options`; `report` are the frontend's values, if it says that they changed. -/
def updateOptions (c : Core) (report : Option Environment) (o : UpdateOutcomes) : Core :=
  match report with
  | none => c.tryPendingLink o
  | some environment =>
    let (c, request) := c.readUpdate environment
    if c.ndsSessionLoaded then
      let c := { c with linkRequestPending := false, linkFailureLogged := false }
      match request.renderer with
      | .opengl => c.updateToOpenGL o
      | .software => c.updateToSoftware request.link o
    else (c.rememberRequest request).tryPendingLink o

/-! ## Frames, resets and restores -/

def mapSession (c : Core) (f : Session → Session) : Core :=
  { c with session := c.session.map f }

/-- `retro_run`. -/
def run (c : Core) (report : Option Environment) (o : UpdateOutcomes) (frame : FrameOutcome) :
    Core :=
  if c.session.isNone then c
  else (c.updateOptions report o).mapSession fun s =>
    s.mapRenderers fun pair => (pair.runFrame frame).1

/-- `retro_reset`. -/
def reset (c : Core) (succeeds : Fin 2 → Bool) : Core :=
  c.mapSession fun s => s.mapRenderers fun pair => pair.reset succeeds

/-- `retro_unserialize`. The NDS pair has no operations for states, so that it rejects all. -/
def unserialize (c : Core) (outcome : RestoreOutcome) (discard : EglOutcomes) : Core :=
  match c.session with
  | none => c
  | some s =>
    match outcome, s.renderers with
    | .rejected, _ | _, some _ => c
    | .fatal, none => (c.discardCurrent discard).event .shutdown
    | .ok linkEnabled, none =>
      { c with
        session := some { s with linkEnabled := linkEnabled }
        options.linkEnabled := linkEnabled
        linkRequestPending := false
        linkFailureLogged := false }

end Core

/-- An entry point the frontend calls. -/
inductive Action where
  | loadGame (environment : Environment) (content : Option Platform) (o : LoadOutcomes)
  | unloadGame (o : EglOutcomes)
  | run (report : Option Environment) (o : UpdateOutcomes) (frame : FrameOutcome)
  | reset (succeeds : Fin 2 → Bool)
  | unserialize (outcome : RestoreOutcome) (discard : EglOutcomes)

namespace Core

/-- An entry point begins. -/
def enter (c : Core) : Core :=
  { c with events := [] }

def act (c : Core) : Action → Core
  | .loadGame environment content o => c.enter.loadGame environment content o
  | .unloadGame o => c.enter.unloadCurrent o
  | .run report o frame => c.enter.run report o frame
  | .reset succeeds => c.enter.reset succeeds
  | .unserialize outcome discard => c.enter.unserialize outcome discard

/-- `retro_init`. -/
def init (environment : Environment) : Core :=
  cleared.readInitialOptions environment

end Core

end DualBoy.Libretro
