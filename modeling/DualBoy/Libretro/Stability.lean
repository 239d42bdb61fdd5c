import DualBoy.Libretro.Agreement

/-!
# Option updates that report the same values again

`update_options` compares the frontend's values with values it has itself overwritten after settling
a conflict between Local Link and OpenGL. A frontend that does not take those values over keeps
reporting both; then each update sees the one that gave way as just selected, and lets the other give
way.

* `Agrees.updateOptions_chose`: where every call of the engine succeeds, an update of an NDS session ends with the
  link and the renderer that `settleRequest` chose.
* `Remembers`: what is left of an update's values in the core until the next one.
* **`updates_stable_iff`**: the second of two updates with the same values changes nothing exactly
  when they do not ask an NDS session for both.
-/

namespace DualBoy.Libretro

open DualBoy.Lib DualBoy.Frontend DualBoy.Nds

/-- A call of the engine succeeded. -/
def Event.succeeded : Event → Bool
  | .engine _ succeeded _ => succeeded
  | _ => true

/-- No option is updated, nothing is loaded and nothing unloaded. -/
def Action.quiet : Action → Bool
  | .run none _ _ | .reset _ | .unserialize _ _ => true
  | _ => false

namespace Core

/-- Every call of the engine in this entry point succeeded. -/
def Succeeded (c : Core) : Prop :=
  ∀ e ∈ c.events, e.succeeded = true

instance (c : Core) : Decidable c.Succeeded :=
  inferInstanceAs (Decidable (∀ e ∈ c.events, e.succeeded = true))

/-- The link that is in effect and, of an NDS session, the link and the renderer of the pair. -/
def effective (c : Core) : Option (Bool × Option (Bool × VideoRenderer)) :=
  c.session.map fun s =>
    (s.linkEnabled, s.renderers.map fun pair => (pair.linkEnabled, pair.videoRenderer))

/-- The values ask an NDS session for Local Link and for OpenGL. -/
def AsksForBoth (c : Core) (environment : Environment) : Prop :=
  c.ndsSessionLoaded = true ∧ environment optionLink = some "enabled" ∧
    environment optionNdsRenderer = some "opengl"

section
variable {c c' : Core} {s : Session} {pair : Renderers}

/-! ## Calls that succeed -/

theorem Succeeded.of_events {more : List Event} (h : c'.Succeeded)
    (hevents : c'.events = c.events ++ more) : c.Succeeded :=
  fun e he => h e (by rw [hevents]; exact List.mem_append_left _ he)

theorem Succeeded.of_event {e : Event} (h : (c.event e).Succeeded) :
    c.Succeeded ∧ e.succeeded = true :=
  ⟨h.of_events rfl, h e (List.mem_append_right _ List.mem_cons_self)⟩

theorem Succeeded.of_reflectLink {enabled : Bool} (h : (c.reflectLinkOption enabled).Succeeded) :
    c.Succeeded := by
  unfold reflectLinkOption at h
  dsimp only at h
  split at h
  · exact h.of_events rfl
  · exact h

theorem Succeeded.of_reflectRenderer (renderer : VideoRenderer)
    (h : (c.reflectRendererOption renderer).Succeeded) : c.Succeeded :=
  h.of_events rfl

theorem Succeeded.of_sessionSetLink {enabled refused succeeded : Bool} (h : c'.Succeeded)
    (heq : c.sessionSetLink enabled refused = (c', succeeded)) :
    c.Succeeded ∧ (c.session.isSome = true → succeeded = true) := by
  unfold sessionSetLink at heq
  split at heq
  · rename_i hnone
    obtain ⟨rfl, -⟩ := Prod.mk.inj heq
    exact ⟨h, fun hsome => by simp [hnone] at hsome⟩
  · obtain ⟨rfl, rfl⟩ := Prod.mk.inj heq
    have hcall := Succeeded.of_event h
    exact ⟨hcall.1, fun _ => hcall.2⟩

/-- The session's calls of `set_link` do not fail where all calls succeed. -/
theorem Holds.sessionSetLink_succeeded (h : c.Holds s pair) {enabled refused : Bool}
    (heq : c.sessionSetLink enabled refused = (c', false)) (hok : c'.Succeeded) : False := by
  have hsome : c.session.isSome = true := by
    rw [h.session]
    rfl
  exact Bool.false_ne_true ((hok.of_sessionSetLink heq).2 hsome)

theorem Succeeded.of_setLoadedRenderer {renderer : VideoRenderer} {o : EglOutcomes}
    {succeeded : Bool} (h : c'.Succeeded)
    (heq : c.setLoadedRenderer renderer o = (c', succeeded)) : c.Succeeded ∧ succeeded = true := by
  unfold setLoadedRenderer at heq
  split at heq
  · obtain ⟨rfl, rfl⟩ := Prod.mk.inj heq
    exact ⟨h, rfl⟩
  split at heq
  · obtain ⟨rfl, rfl⟩ := Prod.mk.inj heq
    exact ⟨h, rfl⟩
  · obtain ⟨rfl, rfl⟩ := Prod.mk.inj heq
    exact Succeeded.of_event h

/-- **An activation in which every call succeeds** ends in OpenGL. -/
theorem Succeeded.of_activate {o : EglOutcomes} (h : (c.activateLoadedGlRenderer o).1.Succeeded) :
    c.Succeeded ∧ (c.engineRenderer ≠ none → c.options.ndsRenderer = .opengl →
      (c.activateLoadedGlRenderer o).1.loadedNdsRenderer = .opengl) := by
  unfold activateLoadedGlRenderer at h ⊢
  split at h
  · rename_i hother
    refine ⟨h, fun hsome hopengl => ?_⟩
    rcases hother with hnone | hsoftware
    · exact absurd hnone hsome
    · exact absurd hopengl hsoftware
  rename_i hactive
  rw [if_neg hactive]
  cases hset : c.setLoadedRenderer .opengl o with
  | mk c₁ succeeded =>
    rw [hset] at h
    cases succeeded with
    | true =>
      have hc₁ : c₁.Succeeded := h
      exact ⟨(hc₁.of_setLoadedRenderer hset).1, fun _ _ => rfl⟩
    | false =>
      have hc₁ : c₁.Succeeded := by
        dsimp only at h
        split at h
        · exact h
        · exact h.of_events rfl
      exact absurd (hc₁.of_setLoadedRenderer hset).2 Bool.false_ne_true

/-! ## What an NDS update chooses -/

theorem reflectLinkOption_frontend (enabled : Bool) :
    (c.reflectLinkOption enabled).frontendLinkValue = enabled := by
  unfold reflectLinkOption
  dsimp only
  split <;> rfl

theorem reflectLinkOption_renderer (enabled : Bool) :
    (c.reflectLinkOption enabled).options.ndsRenderer = c.options.ndsRenderer := by
  unfold reflectLinkOption
  dsimp only
  split <;> rfl

/-- The frontend's value of the link and the renderer option, while there is a session. -/
def Chose (c : Core) (link : Bool) (renderer : VideoRenderer) : Prop :=
  c.session = none ∨ (c.frontendLinkValue = link ∧ c.options.ndsRenderer = renderer)

theorem NdsReady.updateToOpenGL_chose (h : c.NdsReady s pair) {o : UpdateOutcomes}
    (hok : (c.updateToOpenGL o).Succeeded) : (c.updateToOpenGL o).Chose false .opengl := by
  unfold Core.updateToOpenGL at hok ⊢
  dsimp only at hok ⊢
  split at hok
  · rename_i heq
    unfold Core.disableLink at heq
    split at heq
    · exact absurd (Succeeded.of_reflectLink (Succeeded.of_reflectRenderer _ hok))
        (h.toHolds.sessionSetLink_succeeded heq)
    · cases heq
  rename_i c₁ heq
  obtain ⟨s₁, pair₁, hunlinked, -⟩ := h.disableLink heq
  split at hok
  · exact Or.inl rfl
  rename_i c₂ hselect
  split at hok
  · rename_i hopengl
    rw [if_pos hopengl]
    exact Or.inr ⟨reflectLinkOption_frontend false, reflectLinkOption_renderer false⟩
  · rename_i hother
    have hc₂ : c₂.Succeeded := by
      unfold Core.fallBack at hok
      dsimp only at hok
      split at hok
      · split at hok
        all_goals
          rename_i hset
          have hc₃ := Succeeded.of_reflectLink hok
          exact Succeeded.of_reflectRenderer .software (hc₃.of_sessionSetLink hset).1
      · exact Succeeded.of_reflectRenderer _ (Succeeded.of_reflectLink hok)
    unfold Core.selectOpenGL at hselect
    dsimp only at hselect
    split at hselect
    · refine absurd ?_ hother
      have hactivated := Succeeded.of_activate
        (c := { c₁ with options.linkEnabled := false, options.ndsRenderer := .opengl })
        (o := o.activation) (by rwa [hselect])
      have hsome : c₁.engineRenderer ≠ none := by
        rw [hunlinked.toHolds.engineRenderer]
        nofun
      have hloaded := hactivated.2 hsome rfl
      rwa [hselect] at hloaded
    · rename_i hopengl
      obtain ⟨rfl, -⟩ := Prod.mk.inj hselect
      exact absurd (not_not.mp hopengl) hother

theorem NdsReady.updateToSoftware_chose (h : c.NdsReady s pair) {requestedLink : Bool}
    {o : UpdateOutcomes} (hok : (c.updateToSoftware requestedLink o).Succeeded) :
    (c.updateToSoftware requestedLink o).Chose requestedLink .software := by
  unfold Core.updateToSoftware at hok ⊢
  dsimp only at hok ⊢
  split at hok
  · exact Or.inl rfl
  rename_i c₁ heq
  obtain ⟨s₁, pair₁, hin, -, -⟩ := h.selectSoftware heq
  split at hok
  · rename_i c₂ hset
    have hfalse : ¬c₂.Succeeded := by
      intro hc₂
      unfold Core.requestLink at hset
      dsimp only at hset
      split at hset
      · exact Holds.sessionSetLink_succeeded
          (c := { c₁ with options.ndsRenderer := .software }) ⟨hin.session, hin.renderers⟩ hset hc₂
      · cases hset
    split at hok
    · rename_i hrestore
      unfold Core.restoreRenderer at hrestore
      split at hrestore
      · dsimp only at hrestore
        split at hrestore
        · obtain ⟨rfl, -⟩ := Prod.mk.inj hrestore
          exact Or.inl rfl
        · cases hrestore
      · cases hrestore
    · rename_i hrestore
      refine absurd ?_ hfalse
      have hc₃ := Succeeded.of_reflectLink hok
      unfold Core.restoreRenderer at hrestore
      split at hrestore
      · dsimp only at hrestore
        split at hrestore
        · cases hrestore
        · rename_i hactivate
          obtain ⟨rfl, -⟩ := Prod.mk.inj hrestore
          exact (Succeeded.of_activate (c := { c₂ with options.ndsRenderer := .opengl })
            (o := o.rollback) (by rw [hactivate]; exact Succeeded.of_reflectRenderer _ hc₃)).1
      · obtain ⟨rfl, -⟩ := Prod.mk.inj hrestore
        exact Succeeded.of_reflectRenderer _ hc₃
  · exact Or.inr ⟨rfl, rfl⟩

/-! ## What the core remembers of an update -/

theorem candidateOptions_linkEnabled (hknown : c.frontendLinkKnown = true)
    (environment : Environment) : (c.candidateOptions environment).linkEnabled =
      (linkOption environment).getD c.frontendLinkValue := by
  unfold candidateOptions
  rw [if_pos hknown, optionsRead_linkEnabled]

theorem candidateOptions_ndsRenderer (environment : Environment) :
    (c.candidateOptions environment).ndsRenderer =
      (rendererOption environment).getD c.options.ndsRenderer := by
  unfold candidateOptions
  rw [optionsRead_ndsRenderer]
  split <;> rfl

/-- The link and the renderer an update asks for, once a conflict is settled. -/
def chosen (c : Core) (environment : Environment) : Bool × VideoRenderer :=
  (c.settleRequest (c.candidateOptions environment)).2

/-- What an NDS session with this link and renderer chooses, asked for these. -/
def settle (link : Option Bool) (renderer : Option VideoRenderer) (had : Bool × VideoRenderer) :
    Bool × VideoRenderer :=
  if link.getD had.1 = true ∧ renderer.getD had.2 = .opengl then
    if had.1 = false ∧ had.2 = .opengl then (true, .software) else (false, .opengl)
  else (link.getD had.1, renderer.getD had.2)

/-- **What was chosen is chosen again**, unless both are asked for. -/
theorem settle_again {link : Option Bool} {renderer : Option VideoRenderer}
    (had : Bool × VideoRenderer) (hhad : had.1 = true → had.2 = .software)
    (hnot : ¬(link = some true ∧ renderer = some .opengl)) :
    link.getD (settle link renderer had).1 = (settle link renderer had).1 ∧
      renderer.getD (settle link renderer had).2 = (settle link renderer had).2 := by
  obtain ⟨hadLink, hadRenderer⟩ := had
  cases renderer with
  | none =>
    cases link with
    | none => cases hadLink <;> cases hadRenderer <;> simp_all [settle]
    | some link => cases link <;> cases hadLink <;> cases hadRenderer <;> simp_all [settle]
  | some renderer =>
    cases link with
    | none => cases renderer <;> cases hadLink <;> cases hadRenderer <;> simp_all [settle]
    | some link => cases link <;> cases renderer <;> simp_all [settle]

/-- Of two that are asked for again and again, each choice takes the one the last left out. -/
theorem settle_both (had : Bool × VideoRenderer) :
    (settle (some true) (some .opengl) had).1 = true ↔ had = (false, .opengl) := by
  obtain ⟨hadLink, hadRenderer⟩ := had
  cases hadLink <;> cases hadRenderer <;> simp [settle]

theorem settle_both_renderer {had : Bool × VideoRenderer} :
    (settle (some true) (some .opengl) had).1 = true ↔
      (settle (some true) (some .opengl) had).2 = .software := by
  obtain ⟨hadLink, hadRenderer⟩ := had
  cases hadLink <;> cases hadRenderer <;> simp [settle]

theorem chosen_eq (hnds : c.ndsSessionLoaded = true) (hknown : c.frontendLinkKnown = true)
    (environment : Environment) : c.chosen environment =
      settle (linkOption environment) (rendererOption environment)
        (c.frontendLinkValue, c.options.ndsRenderer) := by
  unfold chosen settleRequest frontendLinkChanged settle
  rw [candidateOptions_linkEnabled hknown, candidateOptions_ndsRenderer, hnds, hknown]
  dsimp only
  by_cases hboth : (linkOption environment).getD c.frontendLinkValue = true ∧
      (rendererOption environment).getD c.options.ndsRenderer = .opengl
  · rw [if_pos ⟨rfl, hboth⟩, if_pos hboth, hboth.1, hboth.2]
    cases c.frontendLinkValue <;> cases c.options.ndsRenderer <;> rfl
  · rw [if_neg fun h => hboth h.2, if_neg hboth]

/-- **The values of an update are still known**: the core would now choose what it has, unless it is
asked for both. -/
structure Remembers (c : Core) (environment : Environment) : Prop where
  known : c.frontendLinkKnown = true
  settled : c.linkRequestPending = false
  both : c.AsksForBoth environment →
    (c.frontendLinkValue = true ↔ c.options.ndsRenderer = .software)
  link : ¬c.AsksForBoth environment →
    (linkOption environment).getD c.frontendLinkValue = c.frontendLinkValue
  renderer : ¬c.AsksForBoth environment → c.ndsSessionLoaded = true →
    (rendererOption environment).getD c.options.ndsRenderer = c.options.ndsRenderer

theorem asksForBoth_iff {environment : Environment} : c.AsksForBoth environment ↔
    c.ndsSessionLoaded = true ∧ linkOption environment = some true ∧
      rendererOption environment = some .opengl := by
  rw [linkOption_eq_true, rendererOption_eq_opengl]
  exact Iff.rfl

/-- A linked NDS session is not asked for OpenGL by what it has. -/
theorem NdsAgrees.exclusive (h : c.NdsAgrees s pair) (hlink : c.frontendLinkValue = true) :
    c.options.ndsRenderer = .software :=
  (h.options.trans h.loaded).trans (h.software ((h.frontend.trans h.link).symm.trans hlink))

/-- What an NDS session chose is remembered. -/
theorem NdsAgrees.remembers (h : c.NdsAgrees s pair) {s' : Session} {pair' : Renderers}
    (h' : c'.NdsReady s' pair') {environment : Environment}
    (hfrontend : c'.frontendLinkValue = (c.chosen environment).1)
    (hrenderer : c'.options.ndsRenderer = (c.chosen environment).2) :
    c'.Remembers environment := by
  rw [chosen_eq h.toHolds.ndsSessionLoaded h.known environment] at hfrontend hrenderer
  have hagain (hnot : ¬c'.AsksForBoth environment) := settle_again
    (c.frontendLinkValue, c.options.ndsRenderer) h.exclusive
    fun hboth => hnot (asksForBoth_iff.mpr ⟨h'.toHolds.ndsSessionLoaded, hboth⟩)
  refine ⟨h'.known, h'.settled, fun hboth => ?_, fun hnot => ?_, fun hnot _ => ?_⟩
  · obtain ⟨-, hlink, hopengl⟩ := asksForBoth_iff.mp hboth
    rw [hfrontend, hrenderer, hlink, hopengl]
    exact settle_both_renderer
  · rw [hfrontend]
    exact (hagain hnot).1
  · rw [hrenderer]
    exact (hagain hnot).2

/-! ## The first update -/

/-- **An NDS update in which every call succeeds** ends with what it chose, if the session goes on. -/
theorem Agrees.updateOptions_chose (h : c.Agrees) (hnds : c.ndsSessionLoaded = true)
    {environment : Environment} {o : UpdateOutcomes}
    (hok : (c.updateOptions (some environment) o).Succeeded) :
    (c.updateOptions (some environment) o).session = none ∨
      ∃ s pair, (c.updateOptions (some environment) o).NdsAgrees s pair ∧
        (c.updateOptions (some environment) o).frontendLinkValue = (c.chosen environment).1 ∧
        (c.updateOptions (some environment) o).options.ndsRenderer = (c.chosen environment).2 := by
  have hread : (c.readUpdate environment).1.ndsSessionLoaded = true := by
    unfold ndsSessionLoaded
    rw [(readUpdate_readOnly c environment).session]
    exact hnds
  obtain ⟨s, pair, hready⟩ := h.ready environment hread
  obtain ⟨s₀, pair₀, hholds⟩ := exists_holds hnds
  have hagrees := h.nds s₀ pair₀ hholds
  unfold Core.updateOptions at hok ⊢
  dsimp only at hok ⊢
  rw [if_pos hread] at hok ⊢
  have hchosen : (c.readUpdate environment).2.link = (c.chosen environment).1 := rfl
  have hrenderer : (c.readUpdate environment).2.renderer = (c.chosen environment).2 := rfl
  rw [hchosen, hrenderer] at hok ⊢
  cases hchoice : (c.chosen environment).2 with
  | opengl =>
    rw [hchoice] at hok
    dsimp only at hok ⊢
    have hoff : (c.chosen environment).1 = false := by
      rw [chosen_eq hnds hagrees.known environment] at hchoice ⊢
      unfold settle at hchoice ⊢
      split at hchoice
      · rename_i hboth
        rw [if_pos hboth]
        split at hchoice
        · cases hchoice
        · rename_i hnot
          rw [if_neg hnot]
      · rename_i hboth
        rw [if_neg hboth]
        exact eq_false_of_ne_true fun hlink => hboth ⟨hlink, hchoice⟩
    rcases hready.updateToOpenGL o with hnone | ⟨s', pair', hended⟩
    · exact Or.inl hnone
    · rcases hready.updateToOpenGL_chose hok with hnone | ⟨hfrontend, hopengl⟩
      · exact Or.inl hnone
      · exact Or.inr ⟨s', pair', hended, hfrontend.trans hoff.symm, hopengl⟩
  | software =>
    rw [hchoice] at hok
    dsimp only at hok ⊢
    rcases hready.updateToSoftware (c.chosen environment).1 o with hnone | ⟨s', pair', hended⟩
    · exact Or.inl hnone
    · rcases hready.updateToSoftware_chose hok with hnone | ⟨hfrontend, hsoftware⟩
      · exact Or.inl hnone
      · exact Or.inr ⟨s', pair', hended, hfrontend, hsoftware⟩

/-- A link request that waits is granted where every call succeeds. -/
theorem Succeeded.of_tryPendingLink {o : UpdateOutcomes} (h : (c.tryPendingLink o).Succeeded) :
    (c.tryPendingLink o).linkRequestPending = false ∧
      (c.tryPendingLink o).frontendLinkValue = c.frontendLinkValue ∧
      (c.tryPendingLink o).frontendLinkKnown = c.frontendLinkKnown := by
  unfold tryPendingLink at h ⊢
  split at h
  · rename_i hsettled
    rw [if_pos hsettled]
    exact ⟨hsettled, rfl, rfl⟩
  rename_i hwaiting
  rw [if_neg hwaiting]
  split at h
  · rename_i hnone
    rw [if_pos hnone]
    exact ⟨rfl, rfl, rfl⟩
  rename_i hsome
  rw [if_neg hsome]
  cases hset : c.sessionSetLink c.pendingLinkValue o.refusePending with
  | mk c₁ succeeded =>
    have hkept : c₁.frontendLinkValue = c.frontendLinkValue ∧
        c₁.frontendLinkKnown = c.frontendLinkKnown := by
      unfold sessionSetLink at hset
      split at hset <;> obtain ⟨rfl, -⟩ := Prod.mk.inj hset <;> exact ⟨rfl, rfl⟩
    rw [hset] at h
    cases succeeded with
    | true => exact ⟨rfl, hkept⟩
    | false =>
      have hc₁ : c₁.Succeeded := h
      have htrue := (hc₁.of_sessionSetLink hset).2 (by
        rw [Option.isSome_iff_ne_none]
        exact fun hnone => hsome (Option.isNone_iff_eq_none.mpr hnone))
      exact absurd htrue Bool.false_ne_true

/-- **After an update its values are remembered.** -/
theorem Agrees.remembers (h : c.Agrees) {environment : Environment} {o : UpdateOutcomes}
    (hok : (c.updateOptions (some environment) o).Succeeded) :
    (c.updateOptions (some environment) o).session = none ∨
      (c.updateOptions (some environment) o).Remembers environment := by
  cases hnds : c.ndsSessionLoaded with
  | true =>
    obtain ⟨s₀, pair₀, hholds⟩ := exists_holds hnds
    rcases h.updateOptions_chose hnds hok with hnone | ⟨s, pair, hended, hfrontend, hrenderer⟩
    · exact Or.inl hnone
    · exact Or.inr ((h.nds s₀ pair₀ hholds).remembers hended.toNdsReady hfrontend hrenderer)
  | false =>
    have hread : (c.readUpdate environment).1.ndsSessionLoaded = false := by
      unfold ndsSessionLoaded
      rw [(readUpdate_readOnly c environment).session]
      exact hnds
    have hlink : (linkOption environment).getD (c.readUpdate environment).1.frontendLinkValue =
        (c.readUpdate environment).1.frontendLinkValue := by
      have hvalue : (c.readUpdate environment).1.frontendLinkValue =
          (c.candidateOptions environment).linkEnabled := by
        change (c.settleRequest (c.candidateOptions environment)).2.1 = _
        unfold settleRequest
        rw [if_neg (by simp [hnds])]
      rw [hvalue]
      unfold candidateOptions
      rw [optionsRead_linkEnabled]
      cases linkOption environment <;> rfl
    obtain ⟨-, -, hfrontend, hknown⟩ := rememberRequest_eq (c.readUpdate environment).1
      (c.readUpdate environment).2
    unfold Core.updateOptions at hok ⊢
    dsimp only at hok ⊢
    rw [if_neg (by simp [hread])] at hok ⊢
    obtain ⟨hsettled, hfrontend', hknown'⟩ := Succeeded.of_tryPendingLink hok
    have hother := (tryPendingLink_ndsSessionLoaded o).trans
      ((rememberRequest_ndsSessionLoaded (c.readUpdate environment).2).trans hread)
    refine Or.inr ⟨hknown'.trans (hknown.trans (readUpdate_readOnly c environment).known), hsettled,
      fun hboth => ?_, fun _ => ?_, fun _ hnds' => ?_⟩
    · exact absurd (hother.symm.trans hboth.1) Bool.false_ne_true
    · rw [hfrontend', hfrontend]
      exact hlink
    · exact absurd (hother.symm.trans hnds') Bool.false_ne_true

/-! ## Until the next update -/

theorem mapSession_ndsSessionLoaded (f : Renderers → Renderers) :
    (c.mapSession fun s => s.mapRenderers f).ndsSessionLoaded = c.ndsSessionLoaded := by
  unfold ndsSessionLoaded mapSession
  cases c.session <;> rfl

/-- Only these fields matter. -/
theorem Remembers.congr {environment : Environment} (h : c.Remembers environment)
    (hknown : c'.frontendLinkKnown = c.frontendLinkKnown)
    (hsettled : c'.linkRequestPending = false)
    (hfrontend : c'.frontendLinkValue = c.frontendLinkValue)
    (hoptions : c'.options.ndsRenderer = c.options.ndsRenderer)
    (hnds : c'.ndsSessionLoaded = c.ndsSessionLoaded) : c'.Remembers environment := by
  have hboth : c'.AsksForBoth environment ↔ c.AsksForBoth environment := by
    unfold AsksForBoth
    rw [hnds]
  refine ⟨hknown.trans h.known, hsettled, fun hasks => ?_, fun hnot => ?_, fun hnot hloaded => ?_⟩
  · rw [hfrontend, hoptions]
    exact h.both (hboth.mp hasks)
  · rw [hfrontend]
    exact h.link (mt hboth.mpr hnot)
  · rw [hoptions]
    exact h.renderer (mt hboth.mpr hnot) (hnds.symm.trans hloaded)

/-- **Between two updates the values of the first are remembered**, or the session is gone. -/
theorem Remembers.act {environment : Environment}
    (h : c.session = none ∨ c.Remembers environment) {a : Action} (hquiet : a.quiet = true) :
    (c.act a).session = none ∨ (c.act a).Remembers environment := by
  cases a with
  | loadGame environment content o => cases hquiet
  | unloadGame o => cases hquiet
  | run report o frame =>
    cases report with
    | some environment => cases hquiet
    | none =>
      change (c.enter.run none o frame).session = none ∨ (c.enter.run none o frame).Remembers _
      unfold Core.run
      by_cases hnone : c.enter.session.isNone = true
      · rw [if_pos hnone]
        exact Or.inl (Option.isNone_iff_eq_none.mp hnone)
      · rw [if_neg hnone]
        rcases h with hunloaded | h
        · exact absurd (Option.isNone_iff_eq_none.mpr hunloaded) hnone
        · have hsame : c.enter.updateOptions none o = c.enter := if_pos h.settled
          rw [hsame]
          exact Or.inr (h.congr rfl h.settled rfl rfl (mapSession_ndsSessionLoaded _))
  | reset succeeds =>
    rcases h with hunloaded | h
    · refine Or.inl ?_
      change c.session.map _ = none
      rw [hunloaded]
      rfl
    · exact Or.inr (h.congr rfl h.settled rfl rfl (mapSession_ndsSessionLoaded _))
  | unserialize outcome discard =>
    change (c.enter.unserialize outcome discard).session = none ∨
      (c.enter.unserialize outcome discard).Remembers _
    unfold Core.unserialize
    split
    · rename_i hunloaded
      exact Or.inl hunloaded
    rename_i s hs
    have hkept : c.Remembers environment := by
      rcases h with hunloaded | h
      · cases hunloaded.symm.trans hs
      · exact h
    have henter : c.enter.Remembers environment := hkept.congr rfl hkept.settled rfl rfl rfl
    split
    · exact Or.inr henter
    · exact Or.inr henter
    · exact Or.inl rfl
    · refine Or.inr (hkept.congr rfl rfl rfl rfl ?_)
      exact ndsSessionLoaded_congr (c := c) hs rfl rfl

/-! ## The second update -/

theorem Remembers.values {first second : Environment} (h : c.Remembers first)
    (hlink : second optionLink = first optionLink)
    (hrenderer : second optionNdsRenderer = first optionNdsRenderer) : c.Remembers second := by
  have hlinkOption : linkOption second = linkOption first := by
    unfold linkOption
    rw [hlink]
  have hrendererOption : rendererOption second = rendererOption first := by
    unfold rendererOption
    rw [hrenderer]
  have hboth : c.AsksForBoth second ↔ c.AsksForBoth first := by
    rw [asksForBoth_iff, asksForBoth_iff, hlinkOption, hrendererOption]
  refine ⟨h.known, h.settled, fun hasks => h.both (hboth.mp hasks), fun hnot => ?_,
    fun hnot hnds => ?_⟩
  · rw [hlinkOption]
    exact h.link (mt hboth.mpr hnot)
  · rw [hrendererOption]
    exact h.renderer (mt hboth.mpr hnot) hnds

/-- An NDS session that is asked for what it has is left alone. -/
theorem NdsReady.update_same (h : c.NdsReady s pair) (o : UpdateOutcomes) :
    (c.options.ndsRenderer = .opengl → (c.updateToOpenGL o).session = c.session) ∧
      (c.options.ndsRenderer = .software →
        (c.updateToSoftware c.options.linkEnabled o).session = c.session) := by
  refine ⟨fun hopengl => ?_, fun hsoftware => ?_⟩
  · have hloaded : c.loadedNdsRenderer = .opengl := h.options.symm.trans hopengl
    have hoff : c.options.linkEnabled = false := by
      refine eq_false_of_ne_true fun hlink => ?_
      have hsoftware := h.loaded.trans (h.software (h.link.symm.trans hlink))
      rw [hloaded] at hsoftware
      cases hsoftware
    have hdisabled : c.disableLink o = (c, true) := if_neg (by simp [hoff])
    have hselected : c.selectOpenGL o =
        ({ c with options.linkEnabled := false, options.ndsRenderer := .opengl }, true) :=
      if_neg (by simp [hloaded])
    unfold Core.updateToOpenGL
    rw [hdisabled]
    dsimp only
    rw [hselected]
    dsimp only
    rw [if_pos hloaded, reflectLinkOption_session]
  · have hloaded : c.loadedNdsRenderer = .software := h.options.symm.trans hsoftware
    have hselected : c.selectSoftware o = (c, true) := if_neg (by simp [hloaded])
    have hrequested : c.requestLink c.options.linkEnabled o =
        ({ c with options.ndsRenderer := .software }, true) := if_neg (by simp)
    unfold Core.updateToSoftware
    rw [hselected]
    dsimp only
    rw [hrequested]

/-- **An update with values that are remembered leaves the session alone**, unless it asks for both. -/
theorem Remembers.updateOptions_session {environment : Environment} (h : c.Remembers environment)
    (hagrees : c.Agrees) (hnot : ¬c.AsksForBoth environment) (o : UpdateOutcomes) :
    (c.updateOptions (some environment) o).session = c.session := by
  have hread := readUpdate_readOnly c environment
  cases hnds : c.ndsSessionLoaded with
  | true =>
    have hreadNds : (c.readUpdate environment).1.ndsSessionLoaded = true := by
      unfold ndsSessionLoaded
      rw [hread.session]
      exact hnds
    obtain ⟨s, pair, hready⟩ := hagrees.ready environment hreadNds
    obtain ⟨s₀, pair₀, hholds⟩ := exists_holds hnds
    have hcopies := hagrees.nds s₀ pair₀ hholds
    have hchosen : c.chosen environment = (c.frontendLinkValue, c.options.ndsRenderer) := by
      rw [chosen_eq hnds h.known environment]
      unfold settle
      dsimp only
      rw [h.link hnot, h.renderer hnot hnds, if_neg]
      rintro ⟨hlink, hopengl⟩
      rw [hcopies.exclusive hlink] at hopengl
      cases hopengl
    have hlink : (c.readUpdate environment).2.link = c.options.linkEnabled :=
      (congrArg Prod.fst hchosen).trans hcopies.frontend
    have hrenderer : (c.readUpdate environment).2.renderer = c.options.ndsRenderer :=
      congrArg Prod.snd hchosen
    obtain ⟨hopengl, hsoftware⟩ := hready.update_same o
    unfold Core.updateOptions
    dsimp only
    rw [if_pos hreadNds, hrenderer, hlink, ← hread.link]
    cases hchoice : c.options.ndsRenderer with
    | opengl => exact (hopengl (hread.options.trans hchoice)).trans hread.session
    | software => exact (hsoftware (hread.options.trans hchoice)).trans hread.session
  | false =>
    have hreadNds : (c.readUpdate environment).1.ndsSessionLoaded = false := by
      unfold ndsSessionLoaded
      rw [hread.session]
      exact hnds
    have hunchanged : (c.readUpdate environment).2.frontendLinkChanged = false := by
      change c.frontendLinkChanged (c.candidateOptions environment) = false
      unfold frontendLinkChanged
      rw [candidateOptions_linkEnabled h.known, h.link hnot, h.known]
      simp
    unfold Core.updateOptions
    dsimp only
    rw [if_neg (by simp [hreadNds])]
    unfold Core.rememberRequest
    dsimp only
    rw [if_neg (by simp [hunchanged])]
    unfold tryPendingLink
    rw [if_pos (hread.pending.trans h.settled)]
    exact hread.session

/-- **Asked for both again, an NDS session changes over.** -/
theorem Remembers.changes_over {environment : Environment} (h : c.Remembers environment)
    (hagrees : c.Agrees) (hboth : c.AsksForBoth environment) {o : UpdateOutcomes}
    (hok : (c.updateOptions (some environment) o).Succeeded) :
    (c.updateOptions (some environment) o).effective ≠ c.effective := by
  obtain ⟨s, pair, hholds⟩ := exists_holds hboth.1
  have hcopies := hagrees.nds s pair hholds
  intro heffective
  have hbefore : c.effective =
      some (c.frontendLinkValue, some (pair.linkEnabled, pair.videoRenderer)) := by
    unfold effective
    rw [hholds.session, hcopies.frontend, hcopies.link]
    simp [hholds.renderers]
  rw [hbefore] at heffective
  rcases hagrees.updateOptions_chose hboth.1 hok with hnone | ⟨s', pair', hended, hfrontend, -⟩
  · unfold effective at heffective
    rw [hnone] at heffective
    cases heffective
  · have hafter : s'.linkEnabled = c.frontendLinkValue := by
      unfold effective at heffective
      rw [hended.session] at heffective
      exact congrArg Prod.fst (Option.some.inj heffective)
    have hsame : (c.chosen environment).1 = c.frontendLinkValue :=
      hfrontend.symm.trans ((hended.frontend.trans hended.link).trans hafter)
    obtain ⟨-, hlink, hopengl⟩ := asksForBoth_iff.mp hboth
    rw [chosen_eq hboth.1 h.known environment, hlink, hopengl] at hsame
    have hchange := settle_both (c.frontendLinkValue, c.options.ndsRenderer)
    rw [hsame, Prod.mk.injEq] at hchange
    cases hvalue : c.frontendLinkValue with
    | true => exact Bool.false_ne_true ((hchange.mp hvalue).1.symm.trans hvalue)
    | false =>
      have hopengl : c.options.ndsRenderer = .opengl := by
        cases hchoice : c.options.ndsRenderer with
        | opengl => rfl
        | software => exact absurd ((h.both hboth).mpr hchoice) (by simp [hvalue])
      exact Bool.false_ne_true (hvalue.symm.trans (hchange.mpr ⟨hvalue, hopengl⟩))

/-- Without a session there is nothing to change. -/
theorem updateOptions_unloaded (h : c.session = none) (environment : Environment)
    (o : UpdateOutcomes) : (c.updateOptions (some environment) o).session = none := by
  have hread : (c.readUpdate environment).1.session = none :=
    (readUpdate_readOnly c environment).session.trans h
  have hremembered : ((c.readUpdate environment).1.rememberRequest
      (c.readUpdate environment).2).session = none := (rememberRequest_eq _ _).1.trans hread
  have hnds : (c.readUpdate environment).1.ndsSessionLoaded = false := by
    unfold ndsSessionLoaded
    rw [hread]
    rfl
  unfold Core.updateOptions
  dsimp only
  rw [if_neg (by simp [hnds])]
  unfold tryPendingLink
  split
  · exact hremembered
  split
  · exact hremembered
  · rename_i hsome
    exact absurd (Option.isNone_iff_eq_none.mpr hremembered) hsome

/-- **A frame in which the options were updated** leaves their values remembered. -/
theorem Agrees.run_remembers (h : c.Agrees) {environment : Environment} {o : UpdateOutcomes}
    {frame : FrameOutcome} (hok : (c.run (some environment) o frame).Succeeded) :
    (c.run (some environment) o frame).session = none ∨
      (c.run (some environment) o frame).Remembers environment := by
  unfold Core.run at hok ⊢
  split at hok
  · rename_i hnone
    rw [if_pos hnone]
    exact Or.inl (Option.isNone_iff_eq_none.mp hnone)
  · rename_i hsome
    rw [if_neg hsome]
    rcases h.remembers hok with hnone | hremembers
    · refine Or.inl ?_
      unfold mapSession
      rw [hnone]
      rfl
    · exact Or.inr (hremembers.congr rfl hremembers.settled rfl rfl (mapSession_ndsSessionLoaded _))

end

/-! ## Every run -/

theorem remembers_run {environment : Environment} : ∀ (between : List Action) {c : Core},
    (∀ a ∈ between, a.quiet = true) → (c.session = none ∨ c.Remembers environment) →
      (Lib.run act c between).session = none ∨ (Lib.run act c between).Remembers environment
  | [], _, _, h => h
  | a :: between, _, hquiet, h =>
    remembers_run between (fun b hb => hquiet b (List.mem_cons_of_mem _ hb))
      (Remembers.act h (hquiet a List.mem_cons_self))

/-- **Two option updates with the same link and renderer values**, with anything but a load, an unload
or another update between them, and every call of the engine in both a success: the second leaves the
session's link and the renderer alone exactly when an NDS session is not asked for Local Link and
OpenGL together. -/
theorem updates_stable_iff (environment : Environment) (before : List Action)
    (first second : Environment) (o o' : UpdateOutcomes) (frame : FrameOutcome)
    (between : List Action) (hquiet : ∀ a ∈ between, a.quiet = true)
    (hlink : second optionLink = first optionLink)
    (hrenderer : second optionNdsRenderer = first optionNdsRenderer)
    (hfirst : ((after environment before).act (.run (some first) o frame)).Succeeded)
    (hsecond : (((after environment
      (before ++ .run (some first) o frame :: between)).enter.updateOptions (some second) o')).Succeeded) :
    let c := after environment (before ++ .run (some first) o frame :: between)
    (c.enter.updateOptions (some second) o').effective = c.effective ↔
      ¬(c.ndsSessionLoaded = true ∧ second optionLink = some "enabled" ∧
        second optionNdsRenderer = some "opengl") := by
  have hbefore := (agrees_after environment before).enter
  have hremembered : (after environment (before ++ .run (some first) o frame :: between)).session =
      none ∨ (after environment (before ++ .run (some first) o frame :: between)).Remembers first := by
    unfold after
    rw [run_append]
    exact remembers_run between hquiet (hbefore.run_remembers hfirst)
  have hagrees := (agrees_after environment (before ++ .run (some first) o frame :: between)).enter
  dsimp only
  rcases hremembered with hnone | hremembers
  · refine iff_of_true ?_ fun hboth => ?_
    · unfold effective
      rw [updateOptions_unloaded (c := enter _) hnone second o', hnone]
    · have hloaded := hboth.1
      unfold ndsSessionLoaded at hloaded
      rw [hnone] at hloaded
      cases hloaded
  · have hentered := hremembers.values hlink hrenderer
    have hentered : (enter _).Remembers second := hentered.congr rfl hentered.settled rfl rfl rfl
    refine ⟨fun heffective hboth => ?_, fun hnot => ?_⟩
    · exact hentered.changes_over hagrees hboth hsecond heffective
    · unfold effective
      rw [hentered.updateOptions_session hagrees hnot o']
      rfl

/-! ## A frontend that keeps its values -/

/-- OpenGL contexts that do what they are asked. -/
def contexts : EglOutcomes where
  create := true
  report := true
  task := fun _ => .done
  restore := fun _ => .done

/-- An update in which every call succeeds. -/
def granted : UpdateOutcomes where
  refuseDisable := false
  refuseRestore := false
  refuseLink := false
  refusePending := false
  activation := contexts
  teardown := contexts
  rollback := contexts
  discard := contexts

/-- A load in which every step succeeds. -/
def loaded : LoadOutcomes where
  unload := contexts
  environment := true
  pair := true
  refuseLink := false
  capacities := true
  saves := true
  activation := contexts
  discard := contexts

/-- A frontend with these two values. -/
def values (link renderer : String) : Environment := fun key =>
  if key = optionLink then some link
  else if key = optionNdsRenderer then some renderer
  else none

/-- An NDS session that is loaded with the link on. -/
def linkedNds : List Action :=
  [.loadGame (values "enabled" "software") (some .nds) loaded]

/-- OpenGL is selected, and the frontend has turned Local Link off, as it was told. -/
theorem opengl_stays : (((after (values "enabled" "software")
    (linkedNds ++ [.run (some (values "disabled" "opengl")) granted .completed])).enter.updateOptions
      (some (values "disabled" "opengl")) granted)).effective =
    (after (values "enabled" "software")
      (linkedNds ++ [.run (some (values "disabled" "opengl")) granted .completed])).effective :=
  (updates_stable_iff (values "enabled" "software") linkedNds (values "disabled" "opengl")
    (values "disabled" "opengl") granted granted .completed [] (by decide) rfl rfl (by decide)
    (by decide)).mpr (by decide)

/-- **OpenGL is selected, and the frontend goes on reporting that Local Link is enabled**: the session
is unlinked in OpenGL after the first update, linked in software after the second. -/
theorem opengl_does_not_stay :
    let first := after (values "enabled" "software")
      (linkedNds ++ [.run (some (values "enabled" "opengl")) granted .completed])
    let second := first.enter.updateOptions (some (values "enabled" "opengl")) granted
    first.Succeeded ∧ second.Succeeded ∧ first.effective = some (false, some (false, .opengl)) ∧
      second.effective = some (true, some (true, .software)) := by
  decide

end Core

end DualBoy.Libretro
