import DualBoy.Libretro.Exclusion

/-!
# The copies of the link and of the renderer

An NDS session's link is kept by the frontend, by the options and by the session, its renderer by the
options, by `loaded_nds_renderer` and by the pair. `Agrees` says that the copies are equal, and
`Agrees.act` that they are so after every entry point.

The proof follows `update_options`: `Unlinked` holds from where the link is off until OpenGL is active
or has fallen back, `InSoftware` from where OpenGL is off until the link is as requested or has been
rolled back. `Holds.sessionSetLink`, `Holds.setLoadedRenderer`, `Unlinked.activate` and
`Holds.deactivate` say what its calls do.

**`link_excludes_opengl`** is the result of this module and of the one before it.
-/

namespace DualBoy.Libretro

open DualBoy.Lib DualBoy.Frontend DualBoy.Nds

theorem engineFamilyForPlatform_eq_melonds {platform : Platform} :
    engineFamilyForPlatform platform = .melonds ↔ platform = .nds := by
  cases platform <;> simp [engineFamilyForPlatform]

/-! ## The calls, of an NDS session -/

theorem Session.setLink_pair {s s' : Session} {pair : Renderers} (hpair : s.renderers = some pair)
    {enabled refused succeeded : Bool} (heq : s.setLink enabled refused = (s', succeeded)) :
    ∃ pair', s'.renderers = some pair' ∧
      s'.linkEnabled = (if succeeded then enabled else s.linkEnabled) ∧
      pair'.videoRenderer = pair.videoRenderer ∧
      (succeeded = true → enabled = true → pair.videoRenderer = .software) := by
  unfold Session.setLink Session.engineSetLink at heq
  have hmapped : (s.mapRenderers fun pair => (pair.setLink enabled).1).renderers =
      some (pair.setLink enabled).1 := by
    simp [Session.mapRenderers, hpair]
  have hanswer : (s.renderers.all fun pair => (pair.setLink enabled).2.isNone) =
      (pair.setLink enabled).2.isNone := by
    rw [hpair]
    rfl
  cases refused with
  | true =>
    obtain ⟨rfl, rfl⟩ := Prod.mk.inj heq
    exact ⟨pair, hpair, rfl, rfl, fun htrue => absurd htrue Bool.false_ne_true⟩
  | false =>
    rw [if_neg Bool.false_ne_true, hanswer] at heq
    cases hresult : (pair.setLink enabled).2 with
    | some error =>
      rw [hresult] at heq
      obtain ⟨rfl, rfl⟩ := Prod.mk.inj heq
      exact ⟨_, hmapped, rfl, Renderers.setLink_videoRenderer enabled,
        fun htrue => absurd htrue Bool.false_ne_true⟩
    | none =>
      rw [hresult] at heq
      obtain ⟨rfl, rfl⟩ := Prod.mk.inj heq
      exact ⟨_, hmapped, rfl, Renderers.setLink_videoRenderer enabled,
        fun _ henabled => Renderers.setLink_allowed.mp hresult henabled⟩

namespace Core

/-- The core has a session, and the session an NDS pair. -/
structure Holds (c : Core) (s : Session) (pair : Renderers) : Prop where
  session : c.session = some s
  renderers : s.renderers = some pair

section
variable {c c' : Core} {s : Session} {pair : Renderers}

theorem Holds.ndsSessionLoaded (h : c.Holds s pair) : c.ndsSessionLoaded = true := by
  have hplatform : s.platform = .nds :=
    engineFamilyForPlatform_eq_melonds.mp (s.renderers_iff.mp (by rw [h.renderers]; rfl))
  unfold Core.ndsSessionLoaded
  rw [h.session]
  simp [hplatform]

theorem exists_holds (h : c.ndsSessionLoaded = true) : ∃ s pair, c.Holds s pair := by
  unfold Core.ndsSessionLoaded at h
  cases hs : c.session with
  | none => simp [hs] at h
  | some s =>
    have hplatform : s.platform = .nds := by simpa [hs] using h
    have hsome := s.renderers_iff.mpr (engineFamilyForPlatform_eq_melonds.mpr hplatform)
    obtain ⟨pair, hpair⟩ := Option.isSome_iff_exists.mp hsome
    exact ⟨s, pair, hs, hpair⟩

theorem Holds.engineRenderer (h : c.Holds s pair) : c.engineRenderer = some pair.videoRenderer := by
  unfold Core.engineRenderer
  rw [h.session]
  simp [h.renderers]

/-- **`dualboy_session_set_link`** sets the session's link, or leaves it; the pair's renderer is not
concerned. -/
theorem Holds.sessionSetLink (h : c.Holds s pair) {enabled refused succeeded : Bool}
    (heq : c.sessionSetLink enabled refused = (c', succeeded)) :
    ∃ s' pair', c' = { c with
        session := some s'
        events := c.events ++ [.engine (.setLink enabled) succeeded (some pair')] } ∧
      s'.renderers = some pair' ∧ s'.linkEnabled = (if succeeded then enabled else s.linkEnabled) ∧
      pair'.videoRenderer = pair.videoRenderer ∧
      (succeeded = true → enabled = true → pair.videoRenderer = .software) := by
  unfold Core.sessionSetLink at heq
  rw [h.session] at heq
  dsimp only at heq
  cases hset : s.setLink enabled refused with
  | mk s' answer =>
    rw [hset] at heq
    obtain ⟨rfl, rfl⟩ := Prod.mk.inj heq
    obtain ⟨pair', hpair', hlink, hrenderer, hallowed⟩ := Session.setLink_pair h.renderers hset
    exact ⟨s', pair', by rw [← hpair']; rfl, hpair', hlink, hrenderer, hallowed⟩

/-- **`set_loaded_renderer`** ends with the renderer that was asked for, if it succeeds; the
session's link is not concerned. -/
theorem Holds.setLoadedRenderer (h : c.Holds s pair) {renderer : VideoRenderer} {o : EglOutcomes}
    {succeeded : Bool} (heq : c.setLoadedRenderer renderer o = (c', succeeded)) :
    ∃ s' pair', c' = { c with
        session := some s'
        events := c.events ++ [.engine (.setVideoRenderer renderer) succeeded (some pair')] } ∧
      s'.renderers = some pair' ∧ s'.linkEnabled = s.linkEnabled ∧
      (succeeded = true → pair'.videoRenderer = renderer) := by
  unfold Core.setLoadedRenderer at heq
  rw [h.session] at heq
  dsimp only at heq
  have hmapped : (s.mapRenderers fun pair => (pair.setVideoRenderer renderer o).1).renderers =
      some (pair.setVideoRenderer renderer o).1 := by
    simp [Session.mapRenderers, h.renderers]
  rw [h.renderers] at heq
  dsimp only at heq
  obtain ⟨rfl, rfl⟩ := Prod.mk.inj heq
  refine ⟨_, _, by simp only [event]; rw [hmapped], hmapped, rfl, fun hnone => ?_⟩
  exact Renderers.setVideoRenderer_eq_none (Option.isNone_iff_eq_none.mp hnone)

/-! ## The renderer, while the link is off -/

/-- What the core keeps of the link is the same. -/
structure SameLink (c c' : Core) : Prop where
  options : c'.options.linkEnabled = c.options.linkEnabled
  frontend : c'.frontendLinkValue = c.frontendLinkValue
  known : c'.frontendLinkKnown = c.frontendLinkKnown
  pending : c'.linkRequestPending = c.linkRequestPending

/-- The link of the NDS session is off, and its pair renders as `loaded_nds_renderer` says. -/
structure Unlinked (c : Core) (s : Session) (pair : Renderers) : Prop extends c.Holds s pair where
  unlinked : s.linkEnabled = false
  loaded : c.loadedNdsRenderer = pair.videoRenderer

/-- **An activation that leaves the pair usable** ends in OpenGL or has fallen back to software. -/
theorem Unlinked.activate (h : c.Unlinked s pair) (hrenderer : c.options.ndsRenderer = .opengl)
    {o : EglOutcomes} (heq : c.activateLoadedGlRenderer o = (c', true)) :
    ∃ s' pair', c'.Unlinked s' pair' ∧ c'.options.ndsRenderer = c'.loadedNdsRenderer ∧
      c.SameLink c' := by
  unfold Core.activateLoadedGlRenderer at heq
  rw [if_neg (by simp [h.toHolds.engineRenderer, hrenderer])] at heq
  split at heq
  · rename_i c₁ hset
    obtain ⟨s', pair', rfl, hpair', hlink, hdone⟩ := h.toHolds.setLoadedRenderer hset
    obtain ⟨rfl, -⟩ := Prod.mk.inj heq
    exact ⟨s', pair', ⟨⟨rfl, hpair'⟩, hlink.trans h.unlinked, (hdone rfl).symm⟩, hrenderer,
      ⟨rfl, rfl, rfl, rfl⟩⟩
  · rename_i c₁ hset
    obtain ⟨s', pair', hc₁, hpair', hlink, -⟩ := h.toHolds.setLoadedRenderer hset
    have hholds : c₁.Holds s' pair' := ⟨by rw [hc₁], hpair'⟩
    split at heq
    · cases heq
    · rename_i hback
      obtain ⟨rfl, -⟩ := Prod.mk.inj heq
      rw [hholds.engineRenderer, not_not] at hback
      refine ⟨s', pair', ⟨⟨hholds.session, hpair'⟩, hlink.trans h.unlinked, ?_⟩, rfl, ?_⟩
      · exact (Option.some.inj hback).symm
      · rw [hc₁]
        exact ⟨rfl, rfl, rfl, rfl⟩

/-- The pair renders in software, and `loaded_nds_renderer` says so. -/
structure InSoftware (c : Core) (s : Session) (pair : Renderers) : Prop extends c.Holds s pair where
  renderer : pair.videoRenderer = .software
  loaded : c.loadedNdsRenderer = .software

/-- **A deactivation that leaves the pair usable** ends in software. -/
theorem Holds.deactivate (h : c.Holds s pair) {o : EglOutcomes}
    (heq : c.deactivateLoadedGlRenderer o = (c', true)) :
    ∃ s' pair', c'.InSoftware s' pair' ∧ s'.linkEnabled = s.linkEnabled ∧ c.SameLink c' := by
  unfold Core.deactivateLoadedGlRenderer at heq
  rw [h.engineRenderer] at heq
  split at heq
  · split at heq
    · rename_i c₁ hset
      obtain ⟨s', pair', rfl, hpair', hlink, hdone⟩ := h.setLoadedRenderer hset
      obtain ⟨rfl, -⟩ := Prod.mk.inj heq
      exact ⟨s', pair', ⟨⟨rfl, hpair'⟩, hdone rfl, rfl⟩, hlink, ⟨rfl, rfl, rfl, rfl⟩⟩
    · rename_i c₁ hset
      obtain ⟨s', pair', hc₁, hpair', hlink, -⟩ := h.setLoadedRenderer hset
      have hholds : c₁.Holds s' pair' := ⟨by rw [hc₁], hpair'⟩
      split at heq
      · cases heq
      · rename_i hback
        obtain ⟨rfl, -⟩ := Prod.mk.inj heq
        rw [hholds.engineRenderer, not_not] at hback
        refine ⟨s', pair', ⟨⟨hholds.session, hpair'⟩, Option.some.inj hback, rfl⟩, hlink, ?_⟩
        rw [hc₁]
        exact ⟨rfl, rfl, rfl, rfl⟩
  · rename_i hrenderer
    obtain ⟨rfl, -⟩ := Prod.mk.inj heq
    refine ⟨s, pair, ⟨⟨h.session, h.renderers⟩, ?_, rfl⟩, rfl, ⟨rfl, rfl, rfl, rfl⟩⟩
    cases hpair : pair.videoRenderer with
    | software => rfl
    | opengl => exact absurd (congrArg some hpair) hrenderer

/-! ## An NDS session whose copies agree -/

/-- **The copies of an NDS session's link and renderer are equal**, but for the frontend's, and no link
request waits. -/
structure NdsReady (c : Core) (s : Session) (pair : Renderers) : Prop extends c.Holds s pair where
  settled : c.linkRequestPending = false
  known : c.frontendLinkKnown = true
  link : c.options.linkEnabled = s.linkEnabled
  options : c.options.ndsRenderer = c.loadedNdsRenderer
  loaded : c.loadedNdsRenderer = pair.videoRenderer
  software : s.linkEnabled = true → pair.videoRenderer = .software

/-- The frontend's copy is equal too. -/
structure NdsAgrees (c : Core) (s : Session) (pair : Renderers) : Prop extends c.NdsReady s pair where
  frontend : c.frontendLinkValue = c.options.linkEnabled

/-- The copies agree, or the session was given up. -/
def NdsSettled (c : Core) : Prop :=
  c.session = none ∨ ∃ s pair, c.NdsAgrees s pair

/-- The renderers agree, and the link may be made known. -/
structure Rendered (c : Core) (s : Session) (pair : Renderers) : Prop extends c.Holds s pair where
  settled : c.linkRequestPending = false
  options : c.options.ndsRenderer = c.loadedNdsRenderer
  loaded : c.loadedNdsRenderer = pair.videoRenderer
  software : s.linkEnabled = true → pair.videoRenderer = .software

theorem Rendered.reflectLink (h : c.Rendered s pair) {enabled : Bool}
    (henabled : s.linkEnabled = enabled) : (c.reflectLinkOption enabled).NdsAgrees s pair := by
  unfold Core.reflectLinkOption
  dsimp only
  split
  · exact ⟨⟨⟨h.session, h.renderers⟩, h.settled, rfl, henabled.symm, h.options, h.loaded,
      h.software⟩, rfl⟩
  · exact ⟨⟨⟨h.session, h.renderers⟩, h.settled, rfl, henabled.symm, h.options, h.loaded,
      h.software⟩, rfl⟩

/-- The link of a pair that renders in software may be set, with success or without. -/
theorem Rendered.sessionSetLink (h : c.Rendered s pair) (hsoftware : pair.videoRenderer = .software)
    {enabled refused succeeded : Bool} (heq : c.sessionSetLink enabled refused = (c', succeeded)) :
    ∃ s' pair', c'.Rendered s' pair' ∧ pair'.videoRenderer = .software ∧
      s'.linkEnabled = (if succeeded then enabled else s.linkEnabled) ∧ c.SameLink c' := by
  obtain ⟨s', pair', rfl, hpair', hlink, hrenderer, -⟩ := h.toHolds.sessionSetLink heq
  have hsoftware' := hrenderer.trans hsoftware
  exact ⟨s', pair', ⟨⟨rfl, hpair'⟩, h.settled, h.options, h.loaded.trans hrenderer.symm,
    fun _ => hsoftware'⟩, hsoftware', hlink, ⟨rfl, rfl, rfl, rfl⟩⟩

theorem NdsReady.rendered (h : c.NdsReady s pair) : c.Rendered s pair :=
  ⟨h.toHolds, h.settled, h.options, h.loaded, h.software⟩

theorem reflectLinkOption_session (enabled : Bool) :
    (c.reflectLinkOption enabled).session = c.session := by
  unfold reflectLinkOption
  dsimp only
  split <;> rfl

/-! ### An update that asks for OpenGL -/

theorem NdsReady.disableLink (h : c.NdsReady s pair) {o : UpdateOutcomes}
    (heq : c.disableLink o = (c', true)) :
    ∃ s' pair', c'.Unlinked s' pair' ∧ c'.linkRequestPending = false := by
  unfold Core.disableLink at heq
  split at heq
  · obtain ⟨s', pair', rfl, hpair', hlink, hrenderer, -⟩ := h.toHolds.sessionSetLink heq
    exact ⟨s', pair', ⟨⟨rfl, hpair'⟩, hlink, h.loaded.trans hrenderer.symm⟩, h.settled⟩
  · rename_i hlink
    obtain ⟨rfl, -⟩ := Prod.mk.inj heq
    exact ⟨s, pair, ⟨h.toHolds, h.link.symm.trans (eq_false_of_ne_true hlink), h.loaded⟩,
      h.settled⟩

/-- The link could not be disabled: it stays on, with the software renderers it has. -/
theorem NdsReady.disableLink_failed (h : c.NdsReady s pair) {o : UpdateOutcomes}
    (heq : c.disableLink o = (c', false)) :
    ((c'.reflectLinkOption true).reflectRendererOption .software).NdsSettled := by
  unfold Core.disableLink at heq
  split at heq
  · rename_i hlink
    have hon : s.linkEnabled = true := h.link.symm.trans hlink
    obtain ⟨s', pair', hrendered, hsoftware, hlink', -⟩ :=
      h.rendered.sessionSetLink (h.software hon) heq
    have hagrees := hrendered.reflectLink (hlink'.trans hon)
    refine Or.inr ⟨s', pair', ⟨⟨⟨hagrees.session, hagrees.renderers⟩, hagrees.settled,
      hagrees.known, hagrees.link, ?_, hagrees.loaded, hagrees.software⟩, hagrees.frontend⟩⟩
    exact hsoftware.symm.trans hagrees.loaded.symm
  · cases heq

theorem Unlinked.selectOpenGL (h : c.Unlinked s pair) {o : UpdateOutcomes}
    (heq : c.selectOpenGL o = (c', true)) :
    ∃ s' pair', c'.Unlinked s' pair' ∧ c'.linkRequestPending = c.linkRequestPending := by
  unfold Core.selectOpenGL at heq
  dsimp only at heq
  split at heq
  · have hbefore : Unlinked
        { c with options.linkEnabled := false, options.ndsRenderer := .opengl } s pair :=
      ⟨⟨h.session, h.renderers⟩, h.unlinked, h.loaded⟩
    obtain ⟨s', pair', hunlinked, -, hsame⟩ := hbefore.activate rfl heq
    exact ⟨s', pair', hunlinked, hsame.pending⟩
  · obtain ⟨rfl, -⟩ := Prod.mk.inj heq
    exact ⟨s, pair, ⟨⟨h.session, h.renderers⟩, h.unlinked, h.loaded⟩, rfl⟩

/-- **The fallback to software** ends with the link as it was, or off. -/
theorem Unlinked.fallBack (h : c.Unlinked s pair) (hsettled : c.linkRequestPending = false)
    (hloaded : c.loadedNdsRenderer = .software) (restoreLink : Bool) (o : UpdateOutcomes) :
    (c.fallBack restoreLink o).NdsSettled := by
  have hsoftware : pair.videoRenderer = .software := h.loaded.symm.trans hloaded
  have hrendered : (c.reflectRendererOption .software).Rendered s pair :=
    ⟨⟨h.session, h.renderers⟩, hsettled, hloaded.symm, h.loaded, fun _ => hsoftware⟩
  unfold Core.fallBack
  dsimp only
  split
  · split
    · rename_i heq
      obtain ⟨s', pair', hset, -, hlink, -⟩ := hrendered.sessionSetLink hsoftware heq
      exact Or.inr ⟨s', pair', hset.reflectLink hlink⟩
    · rename_i heq
      obtain ⟨s', pair', hset, -, hlink, -⟩ := hrendered.sessionSetLink hsoftware heq
      exact Or.inr ⟨s', pair', hset.reflectLink (hlink.trans h.unlinked)⟩
  · exact Or.inr ⟨s, pair, hrendered.reflectLink h.unlinked⟩

theorem NdsReady.updateToOpenGL (h : c.NdsReady s pair) (o : UpdateOutcomes) :
    (c.updateToOpenGL o).NdsSettled := by
  unfold Core.updateToOpenGL
  dsimp only
  split
  · rename_i heq
    exact h.disableLink_failed heq
  rename_i heq
  obtain ⟨s₁, pair₁, hunlinked, hsettled⟩ := h.disableLink heq
  split
  · exact Or.inl rfl
  rename_i c₂ heq
  obtain ⟨s₂, pair₂, hselected, hpending⟩ := hunlinked.selectOpenGL heq
  have hsettled := hpending.trans hsettled
  split
  · rename_i hopengl
    have hrendered : Rendered { c₂ with options.ndsRenderer := .opengl } s₂ pair₂ :=
      ⟨⟨hselected.session, hselected.renderers⟩, hsettled, hopengl.symm, hselected.loaded,
        fun hlink => absurd (hselected.unlinked.symm.trans hlink) Bool.false_ne_true⟩
    exact Or.inr ⟨s₂, pair₂, hrendered.reflectLink hselected.unlinked⟩
  · rename_i hother
    refine hselected.fallBack hsettled ?_ _ o
    cases hloaded : c₂.loadedNdsRenderer with
    | software => rfl
    | opengl => exact absurd hloaded hother

/-! ### An update that asks for software -/

theorem NdsReady.selectSoftware (h : c.NdsReady s pair) {o : UpdateOutcomes}
    (heq : c.selectSoftware o = (c', true)) :
    ∃ s' pair', c'.InSoftware s' pair' ∧ s'.linkEnabled = s.linkEnabled ∧ c.SameLink c' := by
  unfold Core.selectSoftware at heq
  split at heq
  · exact h.toHolds.deactivate heq
  · rename_i hother
    obtain ⟨rfl, -⟩ := Prod.mk.inj heq
    have hloaded : c.loadedNdsRenderer = .software := by
      cases hrenderer : c.loadedNdsRenderer with
      | software => rfl
      | opengl => exact absurd hrenderer hother
    exact ⟨s, pair, ⟨h.toHolds, h.loaded.symm.trans hloaded, hloaded⟩, rfl, ⟨rfl, rfl, rfl, rfl⟩⟩

/-- **The link is as requested, or as it was.** -/
theorem InSoftware.requestLink (h : c.InSoftware s pair) (hsettled : c.linkRequestPending = false)
    (hlink : c.options.linkEnabled = s.linkEnabled) {requestedLink succeeded : Bool}
    {o : UpdateOutcomes} (heq : c.requestLink requestedLink o = (c', succeeded)) :
    ∃ s' pair', c'.Rendered s' pair' ∧ pair'.videoRenderer = .software ∧
      (succeeded = true → s'.linkEnabled = requestedLink) ∧
      (succeeded = false → s'.linkEnabled = !requestedLink) := by
  have hrendered : Rendered { c with options.ndsRenderer := .software } s pair :=
    ⟨⟨h.session, h.renderers⟩, hsettled, h.loaded.symm, h.loaded.trans h.renderer.symm,
      fun _ => h.renderer⟩
  unfold Core.requestLink at heq
  dsimp only at heq
  split at heq
  · rename_i hother
    obtain ⟨s', pair', hset, hsoftware, hlink', -⟩ := hrendered.sessionSetLink h.renderer heq
    refine ⟨s', pair', hset, hsoftware, ?_, ?_⟩
    · rintro rfl
      exact hlink'
    · rintro rfl
      rw [hlink] at hother
      exact hlink'.trans (Bool.eq_not.mpr hother.symm)
  · rename_i hsame
    obtain ⟨rfl, rfl⟩ := Prod.mk.inj heq
    exact ⟨s, pair, hrendered, h.renderer, fun _ => (hlink.symm.trans (not_not.mp hsame).symm), nofun⟩

/-- **The rollback** ends in OpenGL with the link off, or in software, or gives the session up. -/
theorem Rendered.restoreRenderer (h : c.Rendered s pair) (hsoftware : pair.videoRenderer = .software)
    (rollbackToGl : Bool) {requestedLink : Bool} (hlink : s.linkEnabled = !requestedLink)
    {usable : Bool} {o : UpdateOutcomes}
    (heq : c.restoreRenderer rollbackToGl requestedLink o = (c', usable)) :
    (usable = false → c'.session = none) ∧
      (usable = true → ∃ s' pair', c'.Rendered s' pair') := by
  unfold Core.restoreRenderer at heq
  split at heq
  · rename_i hrollback
    obtain ⟨-, rfl⟩ := Bool.and_eq_true_iff.mp hrollback
    dsimp only at heq
    split at heq
    · obtain ⟨rfl, rfl⟩ := Prod.mk.inj heq
      exact ⟨fun _ => rfl, nofun⟩
    · rename_i hactivated
      obtain ⟨rfl, rfl⟩ := Prod.mk.inj heq
      have hunlinked : Unlinked { c with options.ndsRenderer := .opengl } s pair :=
        ⟨⟨h.session, h.renderers⟩, hlink, h.loaded⟩
      obtain ⟨s', pair', hended, hoptions, hsame⟩ := hunlinked.activate rfl hactivated
      refine ⟨nofun, fun _ => ⟨s', pair', ⟨hended.session, hended.renderers⟩, ?_, rfl,
        hended.loaded, ?_⟩⟩
      · exact hsame.pending.trans h.settled
      · intro hon
        exact absurd (hended.unlinked.symm.trans hon) Bool.false_ne_true
  · obtain ⟨rfl, rfl⟩ := Prod.mk.inj heq
    exact ⟨nofun, fun _ => ⟨s, pair, ⟨h.session, h.renderers⟩, h.settled,
      hsoftware.symm.trans h.loaded.symm, h.loaded, h.software⟩⟩

theorem NdsReady.updateToSoftware (h : c.NdsReady s pair) (requestedLink : Bool)
    (o : UpdateOutcomes) : (c.updateToSoftware requestedLink o).NdsSettled := by
  unfold Core.updateToSoftware
  dsimp only
  split
  · exact Or.inl rfl
  rename_i heq
  obtain ⟨s₁, pair₁, hin, hlink, hsame⟩ := h.selectSoftware heq
  have hlink₁ := hsame.options.trans (h.link.trans hlink.symm)
  split
  · rename_i heq
    obtain ⟨s₂, pair₂, hrendered, hsoftware, -, hlink₂⟩ :=
      hin.requestLink (hsame.pending.trans h.settled) hlink₁ heq
    split
    · rename_i heq
      exact Or.inl ((hrendered.restoreRenderer hsoftware _ (hlink₂ rfl) heq).1 rfl)
    · rename_i heq
      obtain ⟨s₃, pair₃, hrestored⟩ := (hrendered.restoreRenderer hsoftware _ (hlink₂ rfl) heq).2 rfl
      refine Or.inr ⟨s₃, pair₃, hrestored.reflectLink ?_⟩
      rw [hrestored.session]
      rfl
  · rename_i heq
    obtain ⟨s₂, pair₂, hrendered, hsoftware, hlink₂, -⟩ :=
      hin.requestLink (hsame.pending.trans h.settled) hlink₁ heq
    exact Or.inr ⟨s₂, pair₂, ⟨⟨⟨hrendered.session, hrendered.renderers⟩, hrendered.settled, rfl,
      (hlink₂ rfl).symm, hsoftware.symm.trans hrendered.loaded.symm, hrendered.loaded,
      hrendered.software⟩, rfl⟩⟩

/-! ## Option updates -/

/-- What `update_options` reads changes the frontend's value and the options that are neither the link
nor the renderer. -/
structure ReadOnly (c c' : Core) : Prop where
  session : c'.session = c.session
  link : c'.options.linkEnabled = c.options.linkEnabled
  options : c'.options.ndsRenderer = c.options.ndsRenderer
  loaded : c'.loadedNdsRenderer = c.loadedNdsRenderer
  pending : c'.linkRequestPending = c.linkRequestPending
  known : c'.frontendLinkKnown = true

theorem readUpdate_readOnly (c : Core) (environment : Environment) :
    c.ReadOnly (c.readUpdate environment).1 := by
  obtain ⟨told, -, hsettled⟩ := settleRequest_told (c := c) (c.candidateOptions environment)
  unfold readUpdate
  dsimp only
  rw [hsettled]
  exact ⟨rfl, rfl, rfl, rfl, rfl, rfl⟩

/-- **Between two entry points the copies of the link and of the renderer are equal.** -/
structure Agrees (c : Core) : Prop where
  link : ∀ s, c.session = some s → c.options.linkEnabled = s.linkEnabled
  nds : ∀ s pair, c.Holds s pair → c.NdsAgrees s pair

theorem NdsSettled.agrees (h : c.NdsSettled) : c.Agrees := by
  rcases h with hnone | ⟨s, pair, hagrees⟩
  · refine ⟨fun s hs => ?_, fun s pair hholds => ?_⟩
    · rw [hnone] at hs
      cases hs
    · have hs := hholds.session
      rw [hnone] at hs
      cases hs
  · refine ⟨fun s' hs' => ?_, fun s' pair' hholds => ?_⟩
    · obtain rfl := Option.some.inj (hagrees.session.symm.trans hs')
      exact hagrees.link
    · obtain rfl := Option.some.inj (hagrees.session.symm.trans hholds.session)
      obtain rfl := Option.some.inj (hagrees.renderers.symm.trans hholds.renderers)
      exact hagrees

/-- A session without an NDS pair: only its link has to agree. -/
theorem agrees_of_link (hlink : ∀ s, c.session = some s → c.options.linkEnabled = s.linkEnabled)
    (hother : c.ndsSessionLoaded = false) : c.Agrees :=
  ⟨hlink, fun _ _ hholds => absurd (hother.symm.trans hholds.ndsSessionLoaded) Bool.false_ne_true⟩

/-- The session's link, whatever its engine. -/
theorem sessionSetLink_link {enabled refused succeeded : Bool}
    (heq : c.sessionSetLink enabled refused = (c', succeeded)) (hs : c.session = some s) :
    ∃ s', c'.session = some s' ∧ s'.platform = s.platform ∧
      s'.linkEnabled = (if succeeded then enabled else s.linkEnabled) ∧
      c'.options = c.options ∧ c'.pendingLinkValue = c.pendingLinkValue := by
  unfold Core.sessionSetLink at heq
  rw [hs] at heq
  dsimp only at heq
  obtain ⟨rfl, rfl⟩ := Prod.mk.inj heq
  refine ⟨_, rfl, ?_, ?_, rfl, rfl⟩
  all_goals
    unfold Session.setLink Session.engineSetLink
    cases refused with
    | true => rfl
    | false =>
      rw [if_neg Bool.false_ne_true]
      cases s.renderers.all fun pair => (pair.setLink enabled).2.isNone <;> rfl

theorem ndsSessionLoaded_congr {s' : Session} (hs : c.session = some s) (hs' : c'.session = some s')
    (hplatform : s'.platform = s.platform) : c'.ndsSessionLoaded = c.ndsSessionLoaded := by
  unfold Core.ndsSessionLoaded
  rw [hs, hs']
  simp [hplatform]

@[simp]
theorem tryPendingLink_ndsSessionLoaded (o : UpdateOutcomes) :
    (c.tryPendingLink o).ndsSessionLoaded = c.ndsSessionLoaded := by
  unfold tryPendingLink
  split
  · rfl
  split
  · rfl
  rename_i hsome
  obtain ⟨s, hs⟩ := Option.ne_none_iff_exists'.mp (mt Option.isNone_iff_eq_none.mpr hsome)
  split
  all_goals
    rename_i heq
    obtain ⟨s', hs', hplatform, -, -⟩ := sessionSetLink_link heq hs
    exact ndsSessionLoaded_congr hs hs' hplatform

/-- A session that is not NDS has the link that the options have, whether its link request waits or
not. -/
theorem tryPendingLink_agrees
    (hlink : ∀ s, c.session = some s → c.options.linkEnabled = s.linkEnabled)
    (hother : c.ndsSessionLoaded = false) (o : UpdateOutcomes) : (c.tryPendingLink o).Agrees := by
  refine agrees_of_link ?_ ((tryPendingLink_ndsSessionLoaded o).trans hother)
  unfold tryPendingLink
  split
  · exact hlink
  split
  · rename_i hnone
    rw [Option.isNone_iff_eq_none] at hnone
    intro s hs
    rw [hnone] at hs
    cases hs
  rename_i hsome
  obtain ⟨s, hs⟩ := Option.ne_none_iff_exists'.mp (mt Option.isNone_iff_eq_none.mpr hsome)
  split
  · rename_i heq
    obtain ⟨s', hs', -, hset, -, hvalue⟩ := sessionSetLink_link heq hs
    intro s'' hs''
    obtain rfl := Option.some.inj (hs'.symm.trans hs'')
    exact hvalue.trans hset.symm
  · rename_i heq
    obtain ⟨s', hs', -, hset, hoptions, -⟩ := sessionSetLink_link heq hs
    intro s'' hs''
    obtain rfl := Option.some.inj (hs'.symm.trans hs'')
    exact (congrArg Options.linkEnabled hoptions).trans ((hlink s hs).trans hset.symm)

/-- What an NDS session's update starts from, once the frontend's values are read. -/
theorem Agrees.ready (h : c.Agrees) (environment : Environment)
    (hnds : (c.readUpdate environment).1.ndsSessionLoaded = true) :
    ∃ s pair, NdsReady { (c.readUpdate environment).1 with
      linkRequestPending := false, linkFailureLogged := false } s pair := by
  have hread := readUpdate_readOnly c environment
  obtain ⟨s, pair, hholds⟩ := exists_holds hnds
  have hagrees := h.nds s pair ⟨hread.session ▸ hholds.session, hholds.renderers⟩
  exact ⟨s, pair, ⟨hholds.session, hholds.renderers⟩, rfl, hread.known,
    hread.link.trans hagrees.link, hread.options.trans (hagrees.options.trans hread.loaded.symm),
    hread.loaded.trans hagrees.loaded, hagrees.software⟩

/-- A request that is remembered for later. -/
theorem rememberRequest_eq (c : Core) (request : Request) :
    let c' := c.rememberRequest request
    c'.session = c.session ∧ c'.options.linkEnabled = c.options.linkEnabled ∧
      c'.frontendLinkValue = c.frontendLinkValue ∧ c'.frontendLinkKnown = c.frontendLinkKnown := by
  unfold rememberRequest
  dsimp only
  split <;> exact ⟨rfl, rfl, rfl, rfl⟩

theorem rememberRequest_ndsSessionLoaded (request : Request) :
    (c.rememberRequest request).ndsSessionLoaded = c.ndsSessionLoaded := by
  unfold Core.ndsSessionLoaded
  rw [(rememberRequest_eq c request).1]

/-- **Every option update keeps the copies equal**, at each of its exits. -/
theorem Agrees.updateOptions (h : c.Agrees) (report : Option Environment) (o : UpdateOutcomes) :
    (c.updateOptions report o).Agrees := by
  cases report with
  | none =>
    cases hnds : c.ndsSessionLoaded with
    | false => exact tryPendingLink_agrees h.link hnds o
    | true =>
      obtain ⟨s, pair, hholds⟩ := exists_holds hnds
      change (c.tryPendingLink o).Agrees
      unfold tryPendingLink
      rw [if_pos (h.nds s pair hholds).settled]
      exact h
  | some environment =>
    have hread := readUpdate_readOnly c environment
    have hlink : ∀ s, (c.readUpdate environment).1.session = some s →
        (c.readUpdate environment).1.options.linkEnabled = s.linkEnabled := by
      intro s hs
      exact hread.link.trans (h.link s (hread.session ▸ hs))
    unfold Core.updateOptions
    dsimp only
    split
    · rename_i hnds
      obtain ⟨s, pair, hready⟩ := h.ready environment hnds
      split
      · exact (hready.updateToOpenGL o).agrees
      · exact (hready.updateToSoftware _ o).agrees
    · rename_i hnds
      obtain ⟨hsession, hkept, -, -⟩ := rememberRequest_eq (c.readUpdate environment).1
        (c.readUpdate environment).2
      refine tryPendingLink_agrees (fun s hs => ?_) ?_ o
      · exact hkept.trans (hlink s (hsession.symm.trans hs))
      · exact (rememberRequest_ndsSessionLoaded _).trans (eq_false_of_ne_true hnds)

/-! ## The other entry points -/

theorem Agrees.unloaded (hsession : c.session = none) : c.Agrees :=
  NdsSettled.agrees (Or.inl hsession)

/-- What a frame or a reset does to the pair leaves the copies equal. -/
theorem Agrees.mapPair (h : c.Agrees) {f : Renderers → Renderers}
    (hf : ∀ pair : Renderers, (f pair).videoRenderer = pair.videoRenderer) :
    (c.mapSession fun s => s.mapRenderers f).Agrees where
  link := by
    intro s hs
    obtain ⟨s, hold, rfl⟩ := Option.map_eq_some_iff.mp hs
    exact h.link s hold
  nds := by
    intro s pair hholds
    obtain ⟨s, hold, rfl⟩ := Option.map_eq_some_iff.mp hholds.session
    obtain ⟨pair, hpair, rfl⟩ := Option.map_eq_some_iff.mp hholds.renderers
    have hagrees := h.nds s pair ⟨hold, hpair⟩
    exact ⟨⟨⟨hholds.session, hholds.renderers⟩, hagrees.settled, hagrees.known, hagrees.link,
      hagrees.options, hagrees.loaded.trans (hf pair).symm,
      fun hon => (hf pair).trans (hagrees.software hon)⟩, hagrees.frontend⟩

/-- A session that was loaded has the link of the options, and an NDS pair that renders in
software. -/
theorem sessionLoad_eq {platform : Platform} {o : LoadOutcomes} {c' : Core}
    (heq : c.sessionLoad platform o = (c', true)) :
    ∃ s, c'.session = some s ∧ s.linkEnabled = c.options.linkEnabled ∧ s.platform = platform ∧
      (∀ pair, s.renderers = some pair → pair.videoRenderer = .software) ∧ c.SameLink c' ∧
      c'.options = c.options ∧ c'.loadedNdsRenderer = c.loadedNdsRenderer := by
  unfold Core.sessionLoad at heq
  dsimp only at heq
  split at heq
  · cases heq
  split at heq
  · cases heq
  rename_i hset
  obtain ⟨rfl, -⟩ := Prod.mk.inj heq
  have hplatform : ((Session.create platform).engineSetLink c.options.linkEnabled
      o.refuseLink).1.platform = platform := by
    unfold Session.engineSetLink
    split <;> rfl
  refine ⟨_, rfl, rfl, hplatform, fun pair hpair => ?_, ⟨rfl, rfl, rfl, rfl⟩, rfl, rfl⟩
  have hcreated (pair : Renderers) (hpair : (Session.create platform).renderers = some pair) :
      pair.videoRenderer = .software := by
    unfold Session.create at hpair
    dsimp only at hpair
    split at hpair
    · obtain rfl := Option.some.inj hpair
      rfl
    · cases hpair
  unfold Session.engineSetLink at hpair
  split at hpair
  · exact hcreated pair hpair
  · obtain ⟨old, hold, rfl⟩ := Option.map_eq_some_iff.mp hpair
    exact (Renderers.setLink_videoRenderer _).trans (hcreated old hold)

/-- After Local Link has given way, an NDS session is not to be loaded with both. -/
theorem giveWayToOpenGL_eq (c : Core) (family : EngineFamily) (hknown : c.frontendLinkKnown = true)
    (hfrontend : c.frontendLinkValue = c.options.linkEnabled) :
    let c' := c.giveWayToOpenGL family
    c'.frontendLinkKnown = true ∧ c'.frontendLinkValue = c'.options.linkEnabled ∧
      c'.linkRequestPending = c.linkRequestPending ∧ c'.loadedNdsRenderer = .software ∧
      (family = .melonds → c'.options.ndsRenderer = .opengl → c'.options.linkEnabled = false) := by
  unfold Core.giveWayToOpenGL
  dsimp only
  split
  · exact ⟨rfl, rfl, rfl, rfl, fun _ _ => rfl⟩
  · rename_i hallowed
    refine ⟨hknown, hfrontend, rfl, rfl, fun hfamily hopengl => ?_⟩
    exact eq_false_of_ne_true fun hlink => hallowed ⟨hfamily, hopengl, hlink⟩

/-- **A load** ends with equal copies, or without a session. -/
theorem loadDetectedPair_agrees (hnone : c.session = none) (hknown : c.frontendLinkKnown = true)
    (hfrontend : c.frontendLinkValue = c.options.linkEnabled)
    (hsettled : c.linkRequestPending = false) (platform : Platform) (o : LoadOutcomes) :
    (c.loadDetectedPair platform o).1.Agrees := by
  obtain ⟨hknown, hfrontend, hpending, hloaded, hway⟩ :=
    giveWayToOpenGL_eq c (engineFamilyForPlatform platform) hknown hfrontend
  unfold Core.loadDetectedPair
  dsimp only
  split
  · exact Agrees.unloaded hnone
  split
  · refine Agrees.unloaded ?_
    unfold giveWayToOpenGL
    dsimp only
    split <;> exact hnone
  split
  · rename_i c₁ heq
    refine Agrees.unloaded ?_
    unfold sessionLoad at heq
    dsimp only at heq
    split at heq
    · obtain ⟨rfl, -⟩ := Prod.mk.inj heq
      rfl
    split at heq
    · obtain ⟨rfl, -⟩ := Prod.mk.inj heq
      rfl
    · cases heq
  rename_i c₁ heq
  obtain ⟨s, hs, hlink, hplatform, hsoftware, hsame, hoptions, hrenderer⟩ := sessionLoad_eq heq
  have hlink₁ : c₁.options.linkEnabled = s.linkEnabled := hsame.options.trans hlink.symm
  have hsettled₁ := hsame.pending.trans (hpending.trans hsettled)
  have hfrontend₁ := hsame.frontend.trans (hfrontend.trans hsame.options.symm)
  split
  · exact Agrees.unloaded rfl
  split
  · rename_i hopengl
    obtain ⟨hfamily, hopengl⟩ := hopengl
    split
    · rename_i c₂ heq
      have hnds : c₁.ndsSessionLoaded = true := by
        unfold Core.ndsSessionLoaded
        rw [hs]
        simp [hplatform, engineFamilyForPlatform_eq_melonds.mp hfamily]
      obtain ⟨s', pair, hholds⟩ := exists_holds hnds
      obtain rfl := Option.some.inj (hs.symm.trans hholds.session)
      have hoff : s.linkEnabled = false := hlink.trans
        (hway hfamily ((congrArg Options.ndsRenderer hoptions).symm.trans hopengl))
      have hunlinked : c₁.Unlinked s pair :=
        ⟨hholds, hoff, (hrenderer.trans hloaded).trans (hsoftware pair hholds.renderers).symm⟩
      obtain ⟨s₂, pair₂, hended, hoptions₂, hsame₂⟩ := hunlinked.activate hopengl heq
      refine NdsSettled.agrees (Or.inr ⟨s₂, pair₂, ⟨⟨hended.toHolds, ?_, ?_, ?_, hoptions₂,
        hended.loaded, ?_⟩, ?_⟩⟩)
      · exact hsame₂.pending.trans hsettled₁
      · exact hsame₂.known.trans (hsame.known.trans hknown)
      · exact hsame₂.options.trans ((hlink₁.trans hoff).trans hended.unlinked.symm)
      · exact fun hon => absurd (hended.unlinked.symm.trans hon) Bool.false_ne_true
      · exact hsame₂.frontend.trans (hfrontend₁.trans hsame₂.options.symm)
    · exact Agrees.unloaded rfl
  · rename_i hother
    refine ⟨fun s' hs' => ?_, fun s' pair hholds => ?_⟩
    · obtain rfl := Option.some.inj (hs.symm.trans hs')
      exact hlink₁
    · obtain rfl := Option.some.inj (hs.symm.trans hholds.session)
      have hfamily : engineFamilyForPlatform platform = .melonds := by
        rw [← hplatform]
        exact s.renderers_iff.mp (by rw [hholds.renderers]; rfl)
      have hloaded₁ := hrenderer.trans hloaded
      have hpair := hsoftware pair hholds.renderers
      have hchosen : c₁.options.ndsRenderer = .software := by
        cases hchoice : c₁.options.ndsRenderer with
        | software => rfl
        | opengl => exact absurd ⟨hfamily, hchoice⟩ hother
      exact ⟨⟨hholds, hsettled₁, hsame.known.trans hknown, hlink₁, hchosen.trans hloaded₁.symm,
        hloaded₁.trans hpair.symm, fun _ => hpair⟩, hfrontend₁⟩

theorem Agrees.enter (h : c.Agrees) : c.enter.Agrees where
  link := h.link
  nds := by
    intro s pair hholds
    have hagrees := h.nds s pair ⟨hholds.session, hholds.renderers⟩
    exact ⟨⟨⟨hholds.session, hholds.renderers⟩, hagrees.settled, hagrees.known, hagrees.link,
      hagrees.options, hagrees.loaded, hagrees.software⟩, hagrees.frontend⟩

/-- **Every entry point keeps the copies equal**, whatever it is given. -/
theorem Agrees.act (h : c.Agrees) (a : Action) : (c.act a).Agrees := by
  have henter := h.enter
  cases a with
  | loadGame environment content o =>
    cases content with
    | none => exact Agrees.unloaded rfl
    | some platform => exact loadDetectedPair_agrees rfl rfl rfl rfl platform o
  | unloadGame o => exact Agrees.unloaded rfl
  | run report o frame =>
    change (c.enter.run report o frame).Agrees
    unfold Core.run
    split
    · exact henter
    · exact (henter.updateOptions report o).mapPair fun pair =>
        Renderers.runFrame_videoRenderer frame
  | reset succeeds => exact henter.mapPair fun pair => Renderers.reset_videoRenderer succeeds
  | unserialize outcome discard =>
    change (c.enter.unserialize outcome discard).Agrees
    unfold Core.unserialize
    split
    · exact henter
    rename_i s hs
    split
    · exact henter
    · exact henter
    · exact Agrees.unloaded rfl
    · rename_i hpair
      refine ⟨fun s' hs' => ?_, fun s' pair hholds => ?_⟩
      · obtain rfl := Option.some.inj hs'
        rfl
      · obtain rfl := Option.some.inj hholds.session
        have hsome := hholds.renderers
        rw [hpair] at hsome
        cases hsome

end

/-! ## Every run -/

/-- The core after these calls of the frontend. -/
def after (environment : Environment) (actions : List Action) : Core :=
  Lib.run act (init environment) actions

theorem agrees_after (environment : Environment) (actions : List Action) :
    (after environment actions).Agrees :=
  run_invariant (fun _ a h => h.act a) actions (Agrees.unloaded rfl)

theorem soundPairs_after (environment : Environment) (actions : List Action) :
    (after environment actions).SoundPairs :=
  run_invariant (fun _ a h => h.act a) actions ⟨nofun, nofun⟩

/-- The NDS pairs there are: the session's, and the pair as it was after each call of its engine. -/
def pairs (c : Core) : List Renderers :=
  (c.session.bind Session.renderers).toList ++
    c.events.filterMap fun
      | .engine _ _ pair => pair
      | _ => none

theorem SoundPairs.exclusive {c : Core} (h : c.SoundPairs) : ∀ pair ∈ c.pairs, pair.Exclusive := by
  intro pair hpair
  rcases List.mem_append.mp hpair with hnow | hthen
  · obtain ⟨s, hs, hpair⟩ := Option.bind_eq_some_iff.mp (Option.mem_toList.mp hnow)
    exact (h.session s hs pair hpair).exclusive
  · obtain ⟨e, he, hpair⟩ := List.mem_filterMap.mp hthen
    have hsound := h.events e he
    cases e with
    | engine call succeeded pair' =>
      obtain rfl : pair' = some pair := hpair
      exact Renderers.Sound.exclusive hsound
    | setVariable key value => cases hpair
    | resetTouchCursor machine => cases hpair
    | shutdown => cases hpair

/-- **Local Link excludes OpenGL, and the options say what is the case.** After any calls of the
frontend no NDS pair is or was linked while it renders with OpenGL. After an option update then,
whatever it reports and however the calls of the engine end, a session that is still loaded has the
link that the options have; and if it is an NDS session, its pair has the renderer that the options
and `loaded_nds_renderer` have. -/
theorem link_excludes_opengl (environment : Environment) (actions : List Action)
    (report : Option Environment) (o : UpdateOutcomes) :
    let c := after environment actions
    let c' := c.enter.updateOptions report o
    (∀ pair ∈ c.pairs, pair.Exclusive) ∧ (∀ pair ∈ c'.pairs, pair.Exclusive) ∧
      ∀ s, c'.session = some s → c'.options.linkEnabled = s.linkEnabled ∧
        (s.platform = .nds → ∃ pair, s.renderers = some pair ∧
          c'.options.ndsRenderer = c'.loadedNdsRenderer ∧
          c'.loadedNdsRenderer = pair.videoRenderer) := by
  have hsound := soundPairs_after environment actions
  have hentered : (after environment actions).enter.SoundPairs := ⟨hsound.session, nofun⟩
  have hagrees := ((agrees_after environment actions).enter).updateOptions report o
  refine ⟨hsound.exclusive, (hentered.updateOptions report o).exclusive, fun s hs => ?_⟩
  refine ⟨hagrees.link s hs, fun hnds => ?_⟩
  have hsome := s.renderers_iff.mpr (engineFamilyForPlatform_eq_melonds.mpr hnds)
  obtain ⟨pair, hpair⟩ := Option.isSome_iff_exists.mp hsome
  have hcopies := hagrees.nds s pair ⟨hs, hpair⟩
  exact ⟨pair, hpair, hcopies.options, hcopies.loaded⟩

end Core

end DualBoy.Libretro
