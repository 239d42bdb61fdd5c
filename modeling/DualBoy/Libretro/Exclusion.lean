import DualBoy.Libretro.Core

/-!
# Local Link excludes OpenGL

* `SoundPairs`: the pair of the session, and the pair after every call of the engine, never render
  with OpenGL while they are linked.
* `SoundPairs.updateOptions`: `update_options` keeps it, one lemma for each of its parts.
* **`SoundPairs.act`**: so does every entry point.
-/

namespace DualBoy.Libretro

open DualBoy.Lib DualBoy.Frontend DualBoy.Nds

/-! ## No pair is linked and renders with OpenGL -/

/-- The pair after an engine's call is sound. -/
def Event.Sound : Event → Prop
  | .engine _ _ (some pair) => pair.Sound
  | _ => True

/-- The pair of a session is sound. -/
def Session.Sound (s : Session) : Prop :=
  ∀ pair, s.renderers = some pair → pair.Sound

theorem Session.Sound.mapRenderers {s : Session} (h : s.Sound) {f : Renderers → Renderers}
    (hf : ∀ pair : Renderers, pair.Sound → (f pair).Sound) : (s.mapRenderers f).Sound := by
  intro pair hpair
  obtain ⟨pair, hold, rfl⟩ := Option.map_eq_some_iff.mp hpair
  exact hf pair (h pair hold)

theorem Session.sound_create (platform : Platform) : (create platform).Sound := by
  intro pair hpair
  unfold create at hpair
  dsimp only at hpair
  split at hpair
  · obtain rfl := Option.some.inj hpair
    exact Renderers.sound_create
  · cases hpair

theorem Session.Sound.engineSetLink {s : Session} (h : s.Sound) (enabled refused : Bool) :
    (s.engineSetLink enabled refused).1.Sound := by
  unfold Session.engineSetLink
  split
  · exact h
  · exact h.mapRenderers fun pair hpair => hpair.setLink enabled

theorem Session.Sound.setLink {s : Session} (h : s.Sound) (enabled refused : Bool) :
    (s.setLink enabled refused).1.Sound := by
  have hengine := h.engineSetLink enabled refused
  unfold Session.setLink
  split
  · rename_i heq
    rw [heq] at hengine
    exact hengine
  · rename_i heq
    rw [heq] at hengine
    exact hengine

theorem Session.Sound.event {s : Session} (h : s.Sound) (call : EngineCall) (succeeded : Bool) :
    (Event.engine call succeeded s.renderers).Sound := by
  cases hpair : s.renderers with
  | none => exact trivial
  | some pair => exact h pair hpair

namespace Core

/-- The pair of the session is sound, and so it was after every call of this entry point. -/
structure SoundPairs (c : Core) : Prop where
  session : ∀ s, c.session = some s → s.Sound
  events : ∀ e ∈ c.events, e.Sound

section
variable {c : Core}

theorem SoundPairs.event (h : c.SoundPairs) {e : Event} (he : e.Sound) : (c.event e).SoundPairs where
  session := h.session
  events := by
    intro e' he'
    rcases List.mem_append.mp he' with hold | hnew
    · exact h.events e' hold
    · rw [List.mem_singleton.mp hnew]
      exact he


theorem SoundPairs.sessionSetLink (h : c.SoundPairs) (enabled refused : Bool) :
    (c.sessionSetLink enabled refused).1.SoundPairs := by
  unfold Core.sessionSetLink
  split
  · exact h
  · rename_i s hs
    have hsound := (h.session s hs).setLink enabled refused
    have hbefore : SoundPairs { c with session := some (s.setLink enabled refused).1 } :=
      ⟨fun s' hs' => Option.some.inj hs' ▸ hsound, h.events⟩
    exact hbefore.event (hsound.event _ _)

theorem SoundPairs.setLoadedRenderer (h : c.SoundPairs) (renderer : VideoRenderer)
    (o : EglOutcomes) : (c.setLoadedRenderer renderer o).1.SoundPairs := by
  unfold Core.setLoadedRenderer
  split
  · exact h
  rename_i s hs
  split
  · exact h
  · have hsound : (s.mapRenderers fun pair => (pair.setVideoRenderer renderer o).1).Sound :=
      (h.session s hs).mapRenderers fun pair hpair => hpair.setVideoRenderer renderer o
    have hbefore : SoundPairs { c with
        session := some (s.mapRenderers fun pair => (pair.setVideoRenderer renderer o).1) } :=
      ⟨fun s' hs' => Option.some.inj hs' ▸ hsound, h.events⟩
    exact hbefore.event (hsound.event _ _)

/-- What is neither the session nor an event does not matter. -/
theorem SoundPairs.congr (h : c.SoundPairs) {c' : Core} (hsession : c'.session = c.session)
    (hevents : c'.events = c.events) : c'.SoundPairs where
  session := by
    rw [hsession]
    exact h.session
  events := by
    rw [hevents]
    exact h.events

/-- The frontend may be told of an option. -/
theorem SoundPairs.told (h : c.SoundPairs) {c' : Core} {key value : String}
    (hsession : c'.session = c.session) (hevents : c'.events = c.events ++ [.setVariable key value]) :
    c'.SoundPairs where
  session := by
    rw [hsession]
    exact h.session
  events := by
    rw [hevents]
    exact (h.event (e := .setVariable key value) trivial).events

/-- The session may end. -/
theorem SoundPairs.unloaded (h : c.SoundPairs) {c' : Core} (hsession : c'.session = none)
    (hevents : c'.events = c.events) : c'.SoundPairs where
  session := by simp [hsession]
  events := by
    rw [hevents]
    exact h.events

theorem SoundPairs.activate (h : c.SoundPairs) (o : EglOutcomes) :
    (c.activateLoadedGlRenderer o).1.SoundPairs := by
  have hset := h.setLoadedRenderer .opengl o
  unfold Core.activateLoadedGlRenderer
  split
  · exact h
  split
  · rename_i heq
    rw [heq] at hset
    exact hset.congr rfl rfl
  · rename_i heq
    rw [heq] at hset
    split
    · exact hset.congr rfl rfl
    · exact hset.told rfl rfl

theorem SoundPairs.deactivate (h : c.SoundPairs) (o : EglOutcomes) :
    (c.deactivateLoadedGlRenderer o).1.SoundPairs := by
  have hset := h.setLoadedRenderer .software o
  unfold Core.deactivateLoadedGlRenderer
  split
  · split
    · rename_i heq
      rw [heq] at hset
      exact hset.congr rfl rfl
    · rename_i heq
      rw [heq] at hset
      split
      · exact hset.congr rfl rfl
      · exact hset.congr rfl rfl
  · exact h.congr rfl rfl

theorem SoundPairs.unloadCurrent (h : c.SoundPairs) (o : EglOutcomes) :
    (c.unloadCurrent o).SoundPairs :=
  (h.deactivate o).unloaded rfl rfl

theorem SoundPairs.discardCurrent (h : c.SoundPairs) (o : EglOutcomes) :
    (c.discardCurrent o).SoundPairs :=
  (h.deactivate o).unloaded rfl rfl

theorem SoundPairs.retire (h : c.SoundPairs) (o : EglOutcomes) :
    (c.retireFailedRendererSession o).SoundPairs :=
  (h.discardCurrent o).event trivial

theorem SoundPairs.reflectLink (h : c.SoundPairs) (enabled : Bool) :
    (c.reflectLinkOption enabled).SoundPairs := by
  unfold Core.reflectLinkOption
  dsimp only
  split
  · exact h.told rfl rfl
  · exact h.congr rfl rfl

theorem SoundPairs.reflectRenderer (h : c.SoundPairs) (renderer : VideoRenderer) :
    (c.reflectRendererOption renderer).SoundPairs :=
  h.told rfl rfl

/-- Whoever gives way, nothing but the frontend is told. -/
theorem settleRequest_told (candidate : Options) :
    ∃ told, (∀ e ∈ told, e.Sound) ∧
      (c.settleRequest candidate).1 = { c with events := c.events ++ told } := by
  unfold settleRequest
  split
  · split
    · exact ⟨[.setVariable optionNdsRenderer "software"], fun e he =>
        List.mem_singleton.mp he ▸ trivial, rfl⟩
    · exact ⟨[.setVariable optionLink "disabled"], fun e he =>
        List.mem_singleton.mp he ▸ trivial, rfl⟩
  · exact ⟨[], nofun, by rw [List.append_nil]⟩

theorem SoundPairs.readUpdate (h : c.SoundPairs) (environment : Environment) :
    (c.readUpdate environment).1.SoundPairs := by
  obtain ⟨told, htold, hsettled⟩ := settleRequest_told (c := c) (c.candidateOptions environment)
  unfold Core.readUpdate
  dsimp only
  rw [hsettled]
  refine ⟨h.session, fun e he => ?_⟩
  rcases List.mem_append.mp he with he | he
  · rcases List.mem_append.mp he with he | he
    · exact h.events e he
    · exact htold e he
  · obtain ⟨m, -, rfl⟩ := List.mem_map.mp he
    exact trivial

theorem SoundPairs.fallBack (h : c.SoundPairs) (restoreLink : Bool) (o : UpdateOutcomes) :
    (c.fallBack restoreLink o).SoundPairs := by
  have hreflected := h.reflectRenderer .software
  have hset := hreflected.sessionSetLink true o.refuseRestore
  unfold Core.fallBack
  dsimp only
  split
  · split
    · rename_i heq
      rw [heq] at hset
      exact hset.reflectLink true
    · rename_i heq
      rw [heq] at hset
      exact hset.reflectLink false
  · exact hreflected.reflectLink false

theorem SoundPairs.disableLink (h : c.SoundPairs) (o : UpdateOutcomes) :
    (c.disableLink o).1.SoundPairs := by
  unfold Core.disableLink
  split
  · exact h.sessionSetLink false o.refuseDisable
  · exact h

theorem SoundPairs.selectOpenGL (h : c.SoundPairs) (o : UpdateOutcomes) :
    (c.selectOpenGL o).1.SoundPairs := by
  unfold Core.selectOpenGL
  dsimp only
  split
  · refine SoundPairs.activate ?_ o.activation
    exact h.congr rfl rfl
  · exact h.congr rfl rfl

theorem SoundPairs.updateToOpenGL (h : c.SoundPairs) (o : UpdateOutcomes) :
    (c.updateToOpenGL o).SoundPairs := by
  have hdisabled := h.disableLink o
  unfold Core.updateToOpenGL
  dsimp only
  split
  · rename_i heq
    rw [heq] at hdisabled
    exact (hdisabled.reflectLink true).reflectRenderer .software
  rename_i heq
  rw [heq] at hdisabled
  have hselected := hdisabled.selectOpenGL o
  split
  · rename_i heq
    rw [heq] at hselected
    exact hselected.retire o.discard
  rename_i heq
  rw [heq] at hselected
  split
  · refine SoundPairs.reflectLink ?_ false
    exact hselected.congr rfl rfl
  · exact hselected.fallBack _ o

theorem SoundPairs.selectSoftware (h : c.SoundPairs) (o : UpdateOutcomes) :
    (c.selectSoftware o).1.SoundPairs := by
  unfold Core.selectSoftware
  split
  · exact h.deactivate o.teardown
  · exact h

theorem SoundPairs.requestLink (h : c.SoundPairs) (requestedLink : Bool) (o : UpdateOutcomes) :
    (c.requestLink requestedLink o).1.SoundPairs := by
  unfold Core.requestLink
  dsimp only
  split
  · refine SoundPairs.sessionSetLink ?_ requestedLink o.refuseLink
    exact h.congr rfl rfl
  · exact h.congr rfl rfl

theorem SoundPairs.restoreRenderer (h : c.SoundPairs) (rollbackToGl requestedLink : Bool)
    (o : UpdateOutcomes) : (c.restoreRenderer rollbackToGl requestedLink o).1.SoundPairs := by
  have hactivated := SoundPairs.activate (c := { c with options.ndsRenderer := .opengl })
    (h.congr rfl rfl) o.rollback
  unfold Core.restoreRenderer
  split
  · dsimp only
    split
    · rename_i heq
      rw [heq] at hactivated
      exact hactivated.retire o.discard
    · rename_i heq
      rw [heq] at hactivated
      exact hactivated.reflectRenderer _
  · exact h.reflectRenderer .software

theorem SoundPairs.updateToSoftware (h : c.SoundPairs) (requestedLink : Bool)
    (o : UpdateOutcomes) : (c.updateToSoftware requestedLink o).SoundPairs := by
  have hselected := h.selectSoftware o
  unfold Core.updateToSoftware
  dsimp only
  split
  · rename_i heq
    rw [heq] at hselected
    exact ((hselected.reflectLink false).reflectRenderer .opengl).retire o.discard
  rename_i heq
  rw [heq] at hselected
  have hrequested := hselected.requestLink requestedLink o
  split
  · rename_i c' heq
    rw [heq] at hrequested
    have hrestored := hrequested.restoreRenderer (decide (c.loadedNdsRenderer = .opengl))
      requestedLink o
    split
    · rename_i heq
      rw [heq] at hrestored
      exact hrestored
    · rename_i heq
      rw [heq] at hrestored
      exact hrestored.reflectLink _
  · rename_i heq
    rw [heq] at hrequested
    exact hrequested.congr rfl rfl

theorem SoundPairs.tryPendingLink (h : c.SoundPairs) (o : UpdateOutcomes) :
    (c.tryPendingLink o).SoundPairs := by
  have hset := h.sessionSetLink c.pendingLinkValue o.refusePending
  unfold Core.tryPendingLink
  split
  · exact h
  split
  · exact h.congr rfl rfl
  split
  · rename_i heq
    rw [heq] at hset
    exact hset.congr rfl rfl
  · rename_i heq
    rw [heq] at hset
    exact hset.congr rfl rfl

theorem SoundPairs.rememberRequest (h : c.SoundPairs) (request : Request) :
    (c.rememberRequest request).SoundPairs := by
  unfold Core.rememberRequest
  dsimp only
  split <;> exact h.congr rfl rfl

theorem SoundPairs.updateOptions (h : c.SoundPairs) (report : Option Environment)
    (o : UpdateOutcomes) : (c.updateOptions report o).SoundPairs := by
  cases report with
  | none => exact h.tryPendingLink o
  | some environment =>
    have hread := h.readUpdate environment
    unfold Core.updateOptions
    dsimp only
    split
    · split
      · refine SoundPairs.updateToOpenGL ?_ o
        exact hread.congr rfl rfl
      · refine SoundPairs.updateToSoftware ?_ _ o
        exact hread.congr rfl rfl
    · exact (hread.rememberRequest _).tryPendingLink o

theorem SoundPairs.mapPair (h : c.SoundPairs) {f : Renderers → Renderers}
    (hf : ∀ pair : Renderers, pair.Sound → (f pair).Sound) :
    (c.mapSession fun s => s.mapRenderers f).SoundPairs where
  session := by
    intro s hs
    obtain ⟨s, hold, rfl⟩ := Option.map_eq_some_iff.mp hs
    exact (h.session s hold).mapRenderers hf
  events := h.events

theorem SoundPairs.sessionLoad (h : c.SoundPairs) (platform : Platform) (o : LoadOutcomes) :
    (c.sessionLoad platform o).1.SoundPairs := by
  have hsound := (Session.sound_create platform).engineSetLink c.options.linkEnabled o.refuseLink
  have hunloaded : SoundPairs { c with session := none } := h.unloaded rfl rfl
  have hlinked := hunloaded.event (hsound.event (.setLink c.options.linkEnabled)
    ((Session.create platform).engineSetLink c.options.linkEnabled o.refuseLink).2)
  unfold Core.sessionLoad
  dsimp only
  split
  · exact hunloaded
  split
  · exact hlinked
  · refine ⟨fun s hs => ?_, hlinked.events⟩
    obtain rfl := Option.some.inj hs
    exact hsound

theorem SoundPairs.giveWayToOpenGL (h : c.SoundPairs) (family : EngineFamily) :
    (c.giveWayToOpenGL family).SoundPairs := by
  unfold Core.giveWayToOpenGL
  dsimp only
  split
  · exact h.told rfl rfl
  · exact h.congr rfl rfl

theorem SoundPairs.loadDetectedPair (h : c.SoundPairs) (platform : Platform) (o : LoadOutcomes) :
    (c.loadDetectedPair platform o).1.SoundPairs := by
  have hway := h.giveWayToOpenGL (engineFamilyForPlatform platform)
  have hloaded := hway.sessionLoad platform o
  unfold Core.loadDetectedPair
  dsimp only
  split
  · exact h
  split
  · exact hway
  split
  · rename_i heq
    rw [heq] at hloaded
    exact hloaded
  rename_i heq
  rw [heq] at hloaded
  have hactivated := hloaded.activate o.activation
  split
  · exact hloaded.unloaded rfl rfl
  split
  · split
    · rename_i heq
      rw [heq] at hactivated
      exact hactivated
    · rename_i heq
      rw [heq] at hactivated
      exact hactivated.discardCurrent o.discard
  · exact hloaded

/-- **Every entry point keeps the pairs sound**, whatever it is given. -/
theorem SoundPairs.act (h : c.SoundPairs) (a : Action) : (c.act a).SoundPairs := by
  have henter : c.enter.SoundPairs := ⟨h.session, nofun⟩
  cases a with
  | loadGame environment content o =>
    have hread : ((c.enter.unloadCurrent o.unload).readInitialOptions environment).SoundPairs :=
      (henter.unloadCurrent o.unload).congr rfl rfl
    cases content with
    | none => exact hread
    | some platform => exact hread.loadDetectedPair platform o
  | unloadGame o => exact henter.unloadCurrent o
  | run report o frame =>
    change (c.enter.run report o frame).SoundPairs
    unfold Core.run
    split
    · exact henter
    · exact (henter.updateOptions report o).mapPair fun pair hpair => hpair.runFrame frame
  | reset succeeds => exact henter.mapPair fun pair hpair => hpair.reset succeeds
  | unserialize outcome discard =>
    change (c.enter.unserialize outcome discard).SoundPairs
    unfold Core.unserialize
    split
    · exact henter
    rename_i s hs
    split
    · exact henter
    · exact henter
    · exact (henter.discardCurrent discard).event trivial
    · rename_i hpair
      refine ⟨fun s' hs' => ?_, henter.events⟩
      obtain rfl := Option.some.inj hs'
      intro pair hsome
      rw [hpair] at hsome
      cases hsome

end

end Core

end DualBoy.Libretro
