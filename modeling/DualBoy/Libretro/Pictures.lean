import DualBoy.Libretro.Fastforward

/-!
# Geometry and pictures

The frontend is told the size of a picture before it is given one of that size, and every picture is
the last complete frame with the touch cursors on it, also after a frame that failed. `Shown` is the
invariant of a run; most steps of the core are `Quiet`: they announce and show nothing.

* `Knows.publishGeometry`, `Shown.publishVideo`: the two calls that matter.
* `pixel_composed`: the composite has the pixels of the frames it was composed of.
* `shown_enter`: one call of the frontend.
* **`pictures_published`**.
-/

namespace DualBoy.Libretro

open DualBoy.Lib DualBoy.Frontend

namespace Context

variable {P : Type}

/-! ## What the frontend knows -/

/-- The geometry among the frontend's calls. -/
def geometryOf : FrontendCall → Option Geometry
  | .setGeometry geometry => some geometry
  | _ => none

/-- The geometry the frontend was told last. -/
def announced (calls : List FrontendCall) : Option Geometry :=
  (calls.filterMap geometryOf).getLast?

/-- The size of a picture. -/
def sizeOf (picture : VideoFrame) : Geometry := ⟨picture.width, picture.height⟩

/-- **Every picture has the size that was announced before it.** -/
def Fitted (calls : List FrontendCall) : Prop :=
  ∀ before picture after, calls = before ++ .video picture :: after →
    announced before = some (sizeOf picture)

/-- A call that announces and shows nothing. -/
def Plain (call : FrontendCall) : Prop :=
  geometryOf call = none ∧ ∀ picture, call ≠ .video picture

theorem announced_append (calls : List FrontendCall) {new : List FrontendCall}
    (h : ∀ call ∈ new, geometryOf call = none) : announced (calls ++ new) = announced calls := by
  have hnone : new.filterMap geometryOf = [] := List.filterMap_eq_nil_iff.mpr h
  unfold announced
  rw [List.filterMap_append, hnone, List.append_nil]

theorem announced_setGeometry (calls : List FrontendCall) (geometry : Geometry) :
    announced (calls ++ [.setGeometry geometry]) = some geometry := by
  unfold announced
  rw [List.filterMap_append]
  exact List.getLast?_concat ..

/-- One more call. -/
theorem Fitted.concat {calls : List FrontendCall} {call : FrontendCall} (h : Fitted calls)
    (hcall : ∀ picture, call = .video picture → announced calls = some (sizeOf picture)) :
    Fitted (calls ++ [call]) := by
  intro before picture after heq
  rcases List.eq_nil_or_concat after with rfl | ⟨rest, last, rfl⟩
  · obtain ⟨rfl, hlast⟩ := List.append_inj' heq rfl
    exact hcall picture (List.singleton_inj.mp hlast)
  · rw [List.concat_eq_append, ← List.cons_append, ← List.append_assoc] at heq
    exact h before picture rest (List.append_inj' heq rfl).1

theorem Fitted.append {calls new : List FrontendCall} (h : Fitted calls)
    (hnew : ∀ call ∈ new, Plain call) : Fitted (calls ++ new) := by
  induction new generalizing calls with
  | nil => rwa [List.append_nil]
  | cons call new ih =>
    have hcall := hnew call List.mem_cons_self
    have hconcat : Fitted (calls ++ [call]) :=
      h.concat fun picture hpicture => absurd hpicture (hcall.2 picture)
    have hrest := ih hconcat fun call' hmem => hnew call' (List.mem_cons_of_mem _ hmem)
    rwa [List.append_assoc] at hrest

/-! ## The composite -/

/-- The composite is what the last complete frame was composed to, or none. -/
def Composed (s : LoadedPair P) : Prop :=
  match s.complete with
  | none => s.composite.pixels = none
  | some (frames, display) => s.display = display ∧ Frontend.Fits frames ∧ ∃ output,
      composeFrame output maxCompositePixels frames display = some (s.compositePixels, s.composite)

/-- What the frontend knows: nothing it was shown was unannounced, and the core remembers the last
geometry it announced, as long as it goes by it. -/
structure Knows (c : Context P) : Prop where
  fitted : Fitted c.calls
  valid : c.geometryValid = true → announced c.calls = some c.lastGeometry

/-- What holds between the frontend's calls. -/
structure Shown (c : Context P) : Prop extends Knows c where
  composed : ∀ s, c.session = some s → Composed s
  told : ∀ s, c.session = some s → s.complete.isSome = true →
    announced c.calls = some (sizeOf s.composite)

variable {c c' : Context P} {ops : EngineOps P}

/-- A step that announces and shows nothing, and leaves the session's composite alone. -/
structure Quiet (c c' : Context P) : Prop where
  calls : ∃ new, c'.calls = c.calls ++ new ∧ ∀ call ∈ new, Plain call
  valid : c'.geometryValid = true → c.geometryValid = true ∧ c'.lastGeometry = c.lastGeometry
  session : ∀ s', c'.session = some s' → ∃ s, c.session = some s ∧
    s'.composite = s.composite ∧ s'.compositePixels = s.compositePixels ∧
    s'.display = s.display ∧ s'.complete = s.complete

theorem Quiet.refl (c : Context P) : Quiet c c :=
  ⟨⟨[], (List.append_nil _).symm, fun _ h => absurd h List.not_mem_nil⟩, fun h => ⟨h, rfl⟩,
    fun s' h => ⟨s', h, rfl, rfl, rfl, rfl⟩⟩

theorem Quiet.trans {c'' : Context P} (h : Quiet c c') (h' : Quiet c' c'') : Quiet c c'' := by
  obtain ⟨new, hcalls, hplain⟩ := h.calls
  obtain ⟨new', hcalls', hplain'⟩ := h'.calls
  refine ⟨⟨new ++ new', by rw [hcalls', hcalls, List.append_assoc], fun call hmem => ?_⟩,
    fun hvalid => ?_, fun s'' hs'' => ?_⟩
  · rcases List.mem_append.mp hmem with hmem | hmem
    · exact hplain call hmem
    · exact hplain' call hmem
  · obtain ⟨hvalid', hlast'⟩ := h'.valid hvalid
    obtain ⟨hvalid, hlast⟩ := h.valid hvalid'
    exact ⟨hvalid, hlast'.trans hlast⟩
  · obtain ⟨s', hs', hcomposite', hpixels', hdisplay', hcomplete'⟩ := h'.session s'' hs''
    obtain ⟨s, hs, hcomposite, hpixels, hdisplay, hcomplete⟩ := h.session s' hs'
    exact ⟨s, hs, hcomposite'.trans hcomposite, hpixels'.trans hpixels, hdisplay'.trans hdisplay,
      hcomplete'.trans hcomplete⟩

theorem Quiet.announced (h : Quiet c c') : announced c'.calls = announced c.calls := by
  obtain ⟨new, hcalls, hplain⟩ := h.calls
  rw [hcalls]
  exact announced_append c.calls fun call hmem => (hplain call hmem).1

theorem Knows.quiet (h : Knows c) (hquiet : Quiet c c') : Knows c' := by
  obtain ⟨new, hcalls, hplain⟩ := hquiet.calls
  constructor
  · rw [hcalls]
    exact h.fitted.append hplain
  · intro hvalid
    obtain ⟨hvalid, hlast⟩ := hquiet.valid hvalid
    rw [hquiet.announced, hlast]
    exact h.valid hvalid

theorem Shown.quiet (h : Shown c) (hquiet : Quiet c c') : Shown c' := by
  refine ⟨h.toKnows.quiet hquiet, fun s' hs' => ?_, fun s' hs' hcomplete' => ?_⟩
  · obtain ⟨s, hs, hcomposite, hpixels, hdisplay, hcomplete⟩ := hquiet.session s' hs'
    have hcomposed := h.composed s hs
    unfold Composed at hcomposed ⊢
    rw [hcomposite, hpixels, hdisplay, hcomplete]
    exact hcomposed
  · obtain ⟨s, hs, hcomposite, -, -, hcomplete⟩ := hquiet.session s' hs'
    rw [hquiet.announced, hcomposite]
    exact h.told s hs (hcomplete ▸ hcomplete')

/-! ## Quiet steps -/

theorem quiet_setFastforwardInhibition (c : Context P) (inhibit : Bool) :
    Quiet c (c.setFastforwardInhibition inhibit) := by
  unfold setFastforwardInhibition
  split
  · exact .refl c
  · split
    · exact .refl c
    · refine ⟨⟨[.fastforwardOverride inhibit], rfl, fun call hmem => ?_⟩, fun h => ⟨h, rfl⟩,
        fun s' h => ⟨s', h, rfl, rfl, rfl, rfl⟩⟩
      obtain rfl := List.mem_singleton.mp hmem
      exact ⟨rfl, fun _ h => by cases h⟩

theorem quiet_synchronizeFastforwardPolicy (c : Context P) :
    Quiet c (c.synchronizeFastforwardPolicy ops) := by
  unfold synchronizeFastforwardPolicy
  dsimp only
  split
  · exact quiet_setFastforwardInhibition c _
  · exact .refl c

theorem quiet_unloadCurrent (c : Context P) : Quiet c c.unloadCurrent := by
  obtain ⟨hcalls, -, -⟩ := quiet_setFastforwardInhibition c false
  exact ⟨hcalls, fun h => absurd h Bool.false_ne_true, fun s' h => by cases h⟩

theorem quiet_mapPair (c : Context P) (f : P → P) : Quiet c (c.mapPair f) := by
  refine ⟨(Quiet.refl c).calls, fun h => ⟨h, rfl⟩, fun s' h => ?_⟩
  obtain ⟨s, hs, rfl⟩ := Option.map_eq_some_iff.mp h
  exact ⟨s, hs, rfl, rfl, rfl, rfl⟩

/-- A plain call. -/
theorem quiet_call (c : Context P) {call : FrontendCall} (h : Plain call) : Quiet c (c.call call) := by
  refine ⟨⟨[call], rfl, fun call' hmem => ?_⟩, fun h => ⟨h, rfl⟩,
    fun s' h => ⟨s', h, rfl, rfl, rfl, rfl⟩⟩
  obtain rfl := List.mem_singleton.mp hmem
  exact h

theorem plain_shutdown : Plain .shutdown := ⟨rfl, fun _ h => by cases h⟩

theorem plain_frameFailure (message : String) : Plain (.frameFailure message) :=
  ⟨rfl, fun _ h => by cases h⟩

theorem plain_audio (frames : List Sameboy.StereoFrame) : Plain (.audio frames) :=
  ⟨rfl, fun _ h => by cases h⟩

theorem quiet_reportFailure (c : Context P) (message : String) :
    Quiet c (c.reportFailure message) := by
  unfold reportFailure
  split
  · have hset : Quiet c { c with frameFailureLogged := true, lastFrameFailure := message } :=
      ⟨(Quiet.refl c).calls, fun h => ⟨h, rfl⟩, (Quiet.refl c).session⟩
    exact hset.trans (quiet_call _ (plain_frameFailure message))
  · exact .refl c

theorem quiet_updateOptions (c : Context P) (update : OptionsUpdate P) :
    Quiet c (c.updateOptions update) := by
  have hpair := quiet_mapPair c update.pair
  have hset : Quiet c { c.mapPair update.pair with
      options := update.options
      touchCursors := fun machine =>
        if update.options.controllerPorts machine ≠ c.options.controllerPorts machine then
          touchCursorReset
        else c.touchCursors machine } := ⟨hpair.calls, hpair.valid, hpair.session⟩
  unfold updateOptions
  dsimp only
  split
  · exact (hset.trans (quiet_unloadCurrent _)).trans (quiet_call _ plain_shutdown)
  · exact hset

/-- Draining changes the engine's pair and hands out sound. -/
theorem quiet_drainAudio {s : LoadedPair P} (hsession : c.session = some s) :
    Quiet c (c.drainAudio ops s) := by
  refine ⟨⟨_, rfl, fun call hmem => ?_⟩, fun h => ⟨h, rfl⟩, fun s' h => ?_⟩
  · split at hmem
    · obtain ⟨frames, -, rfl⟩ := List.mem_map.mp hmem
      exact plain_audio frames
    · exact absurd hmem List.not_mem_nil
  · obtain rfl := Option.some.inj h
    exact ⟨s, hsession, rfl, rfl, rfl, rfl⟩

/-! ## The two calls that matter -/

variable {s : LoadedPair P}

/-- The geometry is announced, now or before. -/
theorem Knows.publishGeometry (h : Knows c) (geometry : Geometry) :
    Knows (c.publishGeometry geometry) ∧
      announced (c.publishGeometry geometry).calls = some geometry := by
  unfold Context.publishGeometry
  split
  · rename_i hsame
    refine ⟨h, ?_⟩
    rw [h.valid hsame.1, hsame.2]
  · have hannounced := announced_setGeometry c.calls geometry
    have hfitted : Fitted (c.calls ++ [.setGeometry geometry]) :=
      h.fitted.concat fun picture hpicture => by cases hpicture
    exact ⟨⟨hfitted, fun _ => hannounced⟩, hannounced⟩

/-- A complete frame is shown once its size is announced. -/
theorem Knows.shown (h : Knows c) (hsession : c.session = some s) (hcomposed : Composed s)
    (htold : announced c.calls = some (sizeOf s.composite)) : Shown c := by
  refine ⟨h, fun s' hs' => ?_, fun s' hs' _ => ?_⟩
  · obtain rfl := Option.some.inj (hsession.symm.trans hs')
    exact hcomposed
  · obtain rfl := Option.some.inj (hsession.symm.trans hs')
    exact htold

/-- A composite that can be published is one of a complete frame. -/
theorem Composed.complete (h : Composed s) (hpixels : s.composite.pixels.isSome = true) :
    ∃ frames display, s.complete = some (frames, display) := by
  unfold Composed at h
  cases hcomplete : s.complete with
  | none =>
    rw [hcomplete] at h
    rw [h] at hpixels
    cases hpixels
  | some complete => exact ⟨complete.1, complete.2, rfl⟩

/-- What a picture is made of can be published. -/
theorem publishable_of_publishVideo {p : Presentation} {buffer : Memory} {picture : VideoFrame}
    (h : (p.publishVideo buffer).2 = some picture) : p.publishable = true := by
  rw [← p.publishVideo_isSome buffer, h]
  rfl

/-- What `publishVideo` does: it shows one picture, or none. -/
theorem publishVideo_calls (c : Context P) (s : LoadedPair P) (assigned : Fin 2 → Bool) :
    (c.publishVideo ops s assigned).calls = c.calls ++
      (((c.presentation ops s assigned).publishVideo c.presentationBuffer).2.map .video).toList := by
  unfold publishVideo
  dsimp only
  split
  · rename_i hnone
    rw [hnone]
    exact (List.append_nil _).symm
  · rename_i picture hpicture
    rw [hpicture]
    rfl

theorem Shown.publishVideo (h : Shown c) (hsession : c.session = some s) (assigned : Fin 2 → Bool) :
    Shown (c.publishVideo ops s assigned) := by
  unfold Context.publishVideo
  dsimp only
  split
  · exact ⟨⟨h.fitted, h.valid⟩, h.composed, h.told⟩
  · rename_i picture hpicture
    obtain ⟨hwidth, hheight, -⟩ := Presentation.publishVideo_pixel hpicture
    have hpublishable := publishable_of_publishVideo hpicture
    obtain ⟨⟨pixels, hpixels⟩, -⟩ := Presentation.publishable_iff.mp hpublishable
    have hcomplete : s.complete.isSome = true := by
      obtain ⟨frames, display, hcomplete⟩ := (h.composed s hsession).complete
        (Option.isSome_iff_exists.mpr ⟨pixels, hpixels⟩)
      rw [hcomplete]
      rfl
    have hsize : announced c.calls = some (sizeOf picture) := by
      rw [h.told s hsession hcomplete]
      unfold sizeOf
      rw [hwidth, hheight]
      rfl
    have hannounced : announced (c.calls ++ [.video picture]) = announced c.calls :=
      announced_append c.calls fun call hmem => by
        obtain rfl := List.mem_singleton.mp hmem
        rfl
    have hfitted : Fitted (c.calls ++ [.video picture]) := h.fitted.concat fun picture' heq => by
      obtain rfl := FrontendCall.video.inj heq
      exact hsize
    exact ⟨⟨hfitted, fun hvalid => hannounced.trans (h.valid hvalid)⟩, h.composed,
      fun s' hs' hcomplete' => hannounced.trans (h.told s' hs' hcomplete')⟩

/-! ## A frame of the machines -/

/-- The engine's frames, if it has both. -/
theorem videoFrames_eq_some {pair : P} {frames : Fin 2 → VideoFrame}
    (h : LoadedPair.videoFrames ops pair = some frames) (machine : Fin 2) :
    ops.videoFrame pair machine = some (frames machine) := by
  unfold LoadedPair.videoFrames at h
  simp only [Option.bind_eq_bind, Option.bind_eq_some_iff, Option.some.injEq] at h
  obtain ⟨first, hfirst, second, hsecond, rfl⟩ := h
  have hmachine : machine = 0 ∨ machine = 1 := by omega
  rcases hmachine with rfl | rfl
  · exact hfirst
  · exact hsecond

variable {inputs : Fin 2 → Nds.MachineInput} {display : CompositorConfig} {s' : LoadedPair P}

/-- A frame that fails changes the engine's pair. -/
theorem run_failed {message : String} (h : s.run ops inputs display = (s', some message)) :
    s' = { s with pair := s'.pair } := by
  unfold LoadedPair.run at h
  dsimp only at h
  split at h
  · obtain ⟨rfl, -⟩ := Prod.mk.inj h
    rfl
  · split at h
    · obtain ⟨rfl, -⟩ := Prod.mk.inj h
      rfl
    · split at h
      · obtain ⟨rfl, -⟩ := Prod.mk.inj h
        rfl
      · cases (Prod.mk.inj h).2

/-- A complete frame is composed of the two frames the engine has then. -/
theorem run_complete (h : s.run ops inputs display = (s', none)) :
    ∃ frames output, s'.complete = some (frames, display) ∧ s'.display = display ∧
      s'.nds = s.nds ∧
      (∀ machine, ops.videoFrame s'.pair machine = some (frames machine)) ∧
      composeFrame output maxCompositePixels frames display =
        some (s'.compositePixels, s'.composite) := by
  unfold LoadedPair.run at h
  dsimp only at h
  split at h
  · cases (Prod.mk.inj h).2
  · split at h
    · cases (Prod.mk.inj h).2
    · rename_i frames hframes
      split at h
      · cases (Prod.mk.inj h).2
      · rename_i output composite hcompose
        obtain ⟨rfl, -⟩ := Prod.mk.inj h
        exact ⟨frames, s.compositePixels, rfl, rfl, rfl, videoFrames_eq_some hframes, hcompose⟩

/-- The frames of an engine are of a size that two of them together have as `unsigned` values. -/
def Small (ops : EngineOps P) : Prop :=
  ∀ pair machine frame, ops.videoFrame pair machine = some frame →
    frame.width < 2 ^ 31 ∧ frame.height < 2 ^ 31

theorem Small.fits (h : Small ops) {pair : P} {frames : Fin 2 → VideoFrame}
    (hframes : ∀ machine, ops.videoFrame pair machine = some (frames machine)) : Frontend.Fits frames := by
  have hfirst := h pair 0 (frames 0) (hframes 0)
  have hsecond := h pair 1 (frames 1) (hframes 1)
  unfold Frontend.Fits unsignedRange
  omega

theorem composed_complete (hsmall : Small ops) (h : s.run ops inputs display = (s', none)) :
    Composed s' := by
  obtain ⟨frames, output, hcomplete, hdisplay, -, hframes, hcompose⟩ := run_complete h
  unfold Composed
  rw [hcomplete]
  exact ⟨hdisplay, hsmall.fits hframes, output, hcompose⟩

/-! ## The picture -/

/-- **The composite has the pixels of the frames it was composed of.** -/
theorem pixel_composed {frames : Fin 2 → VideoFrame} {output : Memory} (hfits : Frontend.Fits frames)
    (hcompose : composeFrame output maxCompositePixels frames display =
      some (s.compositePixels, s.composite)) :
    compositorGeometry frames display = some (sizeOf s.composite) ∧
      ∀ x y machine machineX machineY,
        mapPoint frames display x y = some (machine, machineX, machineY) →
          x < s.composite.width ∧ y < s.composite.height ∧
            (s.composite.width ≤ maxCompositeWidth → s.composite.height ≤ maxCompositeHeight →
              s.composite.pixel x y = (frameOf frames machine).pixel machineX machineY) := by
  unfold composeFrame at hcompose
  rw [Option.bind_eq_bind, Option.bind_eq_some_iff] at hcompose
  obtain ⟨geometry, hgeometry, hcompose⟩ := hcompose
  rw [Option.ite_none_left_eq_some, Option.some.injEq, Prod.mk.injEq] at hcompose
  obtain ⟨-, -, hcomposite⟩ := hcompose
  rw [← hcomposite]
  refine ⟨hgeometry, fun x y machine machineX machineY hmap => ?_⟩
  have hshows := (mapPoint_eq_some hfits hgeometry).mp hmap
  obtain ⟨hx, hy⟩ := hshows.inside hfits hgeometry
  refine ⟨hx, hy, fun hwidth hheight => ?_⟩
  have hword := composeRows_word hfits hgeometry output hshows
  rw [Nat.add_mul, Nat.mul_assoc] at hword
  exact (Presentation.pixel_of_memory hwidth hheight hx hy _).trans hword

/-- **A picture is the last complete frame, with the touch cursors on it**: `p` is what it was drawn
from, and the engine's frames that a cursor is projected with are those of the complete frame or, if
the present one failed, those the engine is left with. -/
def Pictured (ops : EngineOps P) (c : Context P) (assigned : Fin 2 → Bool) (picture : VideoFrame) :
    Prop :=
  ∃ s frames display, ∃ p : Presentation,
    c.session = some s ∧ s.complete = some (frames, display) ∧
    p.ndsSessionLoaded = s.nds ∧ p.composite = s.composite ∧ p.display = display ∧
    p.touchCursors = c.touchCursors ∧ p.pointerAssigned = assigned ∧
    (p.videoFrame = ops.videoFrame s.pair ∨
      ∀ machine, p.videoFrame machine = some (frames machine)) ∧
    compositorGeometry frames display = some (sizeOf picture) ∧
    ∀ x y machine machineX machineY,
      mapPoint frames display x y = some (machine, machineX, machineY) →
        picture.pixel x y =
          (p.mark x y).elim ((frameOf frames machine).pixel machineX machineY) (leBytes wordSize)

/-- What a composite is shown as. -/
theorem Composed.pictured {p : Presentation} {buffer : Memory} {picture : VideoFrame}
    (h : Composed s) (hcomposite : p.composite = s.composite)
    (hpicture : (p.publishVideo buffer).2 = some picture) :
    ∃ frames display, s.complete = some (frames, display) ∧ s.display = display ∧
      compositorGeometry frames display = some (sizeOf picture) ∧
      ∀ x y machine machineX machineY,
        mapPoint frames display x y = some (machine, machineX, machineY) →
          picture.pixel x y =
            (p.mark x y).elim ((frameOf frames machine).pixel machineX machineY)
              (leBytes wordSize) := by
  obtain ⟨hwidth, hheight, hpixel⟩ := Presentation.publishVideo_pixel hpicture
  obtain ⟨⟨pixels, hpixels⟩, -, -, hmaxWidth, hmaxHeight, -⟩ :=
    Presentation.publishable_iff.mp (publishable_of_publishVideo hpicture)
  rw [hcomposite] at hwidth hheight hpixel hpixels hmaxWidth hmaxHeight
  obtain ⟨frames, display, hcomplete⟩ :=
    h.complete (Option.isSome_iff_exists.mpr ⟨pixels, hpixels⟩)
  unfold Composed at h
  rw [hcomplete] at h
  obtain ⟨hdisplay, hfits, output, hcompose⟩ := h
  obtain ⟨hgeometry, hshown⟩ := pixel_composed hfits hcompose
  have hsize : sizeOf picture = sizeOf s.composite := by
    unfold sizeOf
    rw [hwidth, hheight]
  refine ⟨frames, display, hcomplete, hdisplay, hsize ▸ hgeometry, ?_⟩
  intro x y machine machineX machineY hmap
  obtain ⟨hx, hy, hword⟩ := hshown x y machine machineX machineY hmap
  rw [hpixel x hx y hy, hword hmaxWidth hmaxHeight]

/-! ## What a step shows -/

/-- The pictures of a step satisfy `p`. -/
def ShowsOnly (p : VideoFrame → Prop) (c c' : Context P) : Prop :=
  ∃ new, c'.calls = c.calls ++ new ∧ ∀ picture, .video picture ∈ new → p picture

theorem Quiet.showsOnly (h : Quiet c c') (p : VideoFrame → Prop) : ShowsOnly p c c' := by
  obtain ⟨new, hcalls, hplain⟩ := h.calls
  exact ⟨new, hcalls, fun picture hmem => absurd rfl ((hplain _ hmem).2 picture)⟩

theorem ShowsOnly.trans {p : VideoFrame → Prop} {c'' : Context P} (h : ShowsOnly p c c')
    (h' : ShowsOnly p c' c'') : ShowsOnly p c c'' := by
  obtain ⟨new, hcalls, hnew⟩ := h
  obtain ⟨new', hcalls', hnew'⟩ := h'
  refine ⟨new ++ new', by rw [hcalls', hcalls, List.append_assoc], fun picture hmem => ?_⟩
  rcases List.mem_append.mp hmem with hmem | hmem
  · exact hnew picture hmem
  · exact hnew' picture hmem

theorem showsOnly_publishGeometry (p : VideoFrame → Prop) (c : Context P) (geometry : Geometry) :
    ShowsOnly p c (c.publishGeometry geometry) := by
  unfold publishGeometry
  split
  · exact (Quiet.refl c).showsOnly p
  · refine ⟨[.setGeometry geometry], rfl, fun picture hmem => ?_⟩
    cases List.mem_singleton.mp hmem

theorem showsOnly_publishVideo {p : VideoFrame → Prop} {assigned : Fin 2 → Bool}
    (h : ∀ picture, ((c.presentation ops s assigned).publishVideo c.presentationBuffer).2 =
      some picture → p picture) : ShowsOnly p c (c.publishVideo ops s assigned) := by
  refine ⟨_, publishVideo_calls c s assigned, fun picture hmem => h picture ?_⟩
  rw [Option.mem_toList, Option.map_eq_some_iff] at hmem
  obtain ⟨picture', hpicture, heq⟩ := hmem
  obtain rfl := FrontendCall.video.inj heq
  exact hpicture

/-! ### The cursors stay -/

@[simp] theorem touchCursors_setFastforwardInhibition (c : Context P) (inhibit : Bool) :
    (c.setFastforwardInhibition inhibit).touchCursors = c.touchCursors := by
  unfold setFastforwardInhibition
  split
  · rfl
  · split
    · rfl
    · rfl

@[simp] theorem touchCursors_synchronizeFastforwardPolicy (c : Context P) :
    (c.synchronizeFastforwardPolicy ops).touchCursors = c.touchCursors := by
  unfold synchronizeFastforwardPolicy
  dsimp only
  split
  · exact touchCursors_setFastforwardInhibition c _
  · rfl

@[simp] theorem touchCursors_publishGeometry (c : Context P) (geometry : Geometry) :
    (c.publishGeometry geometry).touchCursors = c.touchCursors := by
  unfold publishGeometry
  split
  · rfl
  · rfl

@[simp] theorem touchCursors_publishVideo (c : Context P) (s : LoadedPair P)
    (assigned : Fin 2 → Bool) : (c.publishVideo ops s assigned).touchCursors = c.touchCursors := by
  unfold publishVideo
  dsimp only
  split
  · rfl
  · rfl

/-! ### The ends of a frame -/

/-- A picture of `s`, in a context that is left with `s` or with `s` drained. -/
theorem Composed.pictured_in {d : Context P} {assigned : Fin 2 → Bool} {picture : VideoFrame}
    (h : Composed s) (hsession : d.session = some s') (hdrained : s' = { s with pair := s'.pair })
    (hcursors : d.touchCursors = c.touchCursors)
    (hframes : s'.pair = s.pair ∨ ∀ frames display, s.complete = some (frames, display) →
      ∀ machine, ops.videoFrame s.pair machine = some (frames machine))
    (hpicture : ((c.presentation ops s assigned).publishVideo c.presentationBuffer).2 =
      some picture) : Pictured ops d assigned picture := by
  obtain ⟨frames, display, hcomplete, hdisplay, hgeometry, hpixel⟩ := h.pictured rfl hpicture
  have hnds : s'.nds = s.nds := by rw [hdrained]
  have hcomposite : s'.composite = s.composite := by rw [hdrained]
  have hcomplete' : s'.complete = some (frames, display) := by rw [hdrained]; exact hcomplete
  refine ⟨s', frames, display, c.presentation ops s assigned, hsession, hcomplete', hnds.symm,
    hcomposite.symm, hdisplay, hcursors.symm, rfl, ?_, hgeometry, hpixel⟩
  rcases hframes with hpair | hframes
  · rw [hpair]
    exact Or.inl rfl
  · exact Or.inr (hframes frames display hcomplete)

theorem shown_failedFrame (h : Shown c) (hsession : c.session = some s)
    (hfailed : s' = { s with pair := s'.pair }) (message : String) (assigned : Fin 2 → Bool) :
    let d := c.failedFrame ops s' message assigned
    Shown d ∧ ShowsOnly (Pictured ops d assigned) c d := by
  intro d
  let e : Context P := { c with session := some s' }
  have hset : Quiet c e := by
    refine ⟨(Quiet.refl c).calls, fun h => ⟨h, rfl⟩, fun s'' h => ?_⟩
    obtain rfl := Option.some.inj h
    exact ⟨s, hsession, by rw [hfailed], by rw [hfailed], by rw [hfailed], by rw [hfailed]⟩
  have hreport := hset.trans (quiet_reportFailure e message)
  have hshown := h.quiet hreport
  have hsession' : (e.reportFailure message).session = some s' := session_reportFailure e message
  have hd : d = ((e.reportFailure message).publishVideo ops s' assigned).synchronizeFastforwardPolicy
    ops := rfl
  have hquiet : Quiet ((e.reportFailure message).publishVideo ops s' assigned) d :=
    quiet_synchronizeFastforwardPolicy _
  refine ⟨(hshown.publishVideo hsession' assigned).quiet hquiet, ?_⟩
  refine ((hreport.showsOnly _).trans (showsOnly_publishVideo fun picture hpicture => ?_)).trans
    (hquiet.showsOnly _)
  refine (hshown.composed s' hsession').pictured_in ?_ rfl ?_ (Or.inl rfl) hpicture
  · rw [hd, session_synchronizeFastforwardPolicy, session_publishVideo, hsession']
  · rw [hd, touchCursors_synchronizeFastforwardPolicy, touchCursors_publishVideo]

theorem shown_completeFrame (hsmall : Small ops) (h : Shown c) {inputs : Fin 2 → Nds.MachineInput}
    (hrun : s.run ops inputs display = (s', none)) (assigned : Fin 2 → Bool) :
    let d := c.completeFrame ops s' assigned
    Shown d ∧ ShowsOnly (Pictured ops d assigned) c d := by
  intro d
  let e : Context P :=
    { c with session := some s', frameFailureLogged := false, lastFrameFailure := "" }
  let f := (e.synchronizeFastforwardPolicy ops).publishGeometry (sizeOf s'.composite)
  have hcomposed : Composed s' := composed_complete hsmall hrun
  have hset : Knows e := ⟨h.fitted, h.valid⟩
  have hpolicy : Quiet e (e.synchronizeFastforwardPolicy ops) := quiet_synchronizeFastforwardPolicy e
  obtain ⟨hknows, htold⟩ := (hset.quiet hpolicy).publishGeometry (sizeOf s'.composite)
  have hsession : f.session = some s' :=
    (session_publishGeometry _ _).trans (session_synchronizeFastforwardPolicy e)
  have hshown : Shown f := hknows.shown hsession hcomposed htold
  have hsession' : (f.publishVideo ops s' assigned).session = some s' :=
    (session_publishVideo f s' assigned).trans hsession
  have hdrain : Quiet (f.publishVideo ops s' assigned) d := quiet_drainAudio hsession'
  refine ⟨(hshown.publishVideo hsession assigned).quiet hdrain, ?_⟩
  have hbefore : ShowsOnly (Pictured ops d assigned) c e := (Quiet.refl e).showsOnly _
  refine (((hbefore.trans (hpolicy.showsOnly _)).trans (showsOnly_publishGeometry _ _ _)).trans
    (showsOnly_publishVideo fun picture hpicture => ?_)).trans (hdrain.showsOnly _)
  have hleft : d.session =
      some { s' with pair := (drainLoop ops audioDrainLimit s'.pair).1 } := rfl
  refine hcomposed.pictured_in hleft rfl ?_ (Or.inr ?_) hpicture
  · exact touchCursors_publishVideo f s' assigned
  · intro frames display' hcomplete
    obtain ⟨frames', output, hcomplete', -, -, hframes, -⟩ := run_complete hrun
    obtain ⟨rfl, -⟩ := Prod.mk.inj (Option.some.inj (hcomplete.symm.trans hcomplete'))
    exact hframes

/-! ## One call of the frontend -/

/-- The machines that a contact of the pointer is given in a frame. -/
def pointerAssigned (ops : EngineOps P) (c : Context P) (update : OptionsUpdate P)
    (i : InputState) : Fin 2 → Bool :=
  let c := c.updateOptions update
  match c.session with
  | none => fun _ => false
  | some s =>
    ((c.synchronizeFastforwardPolicy ops).readInputs ops s i c.currentDisplay).2.assigned

/-- What a call of the frontend shows: nothing, or the picture of a frame. -/
def ShowsFrame (ops : EngineOps P) (c c' : Context P) (entry : Entry P) : Prop :=
  ShowsOnly (fun picture => ∃ update i, entry = .run update i ∧
    Pictured ops c' (pointerAssigned ops c update i) picture) c c'

/-- `retro_run`. -/
theorem shown_retroRun (hsmall : Small ops) (h : Shown c) (update : OptionsUpdate P)
    (i : InputState) :
    let d := c.retroRun ops update i
    Shown d ∧ ShowsOnly (Pictured ops d (pointerAssigned ops c update i)) c d := by
  unfold retroRun
  split
  · exact ⟨h, (Quiet.refl c).showsOnly _⟩
  have hupdate := quiet_updateOptions c update
  unfold pointerAssigned
  dsimp only
  cases hsession : (c.updateOptions update).session with
  | none => exact ⟨h.quiet hupdate, hupdate.showsOnly _⟩
  | some s =>
    dsimp only
    let e := ((c.updateOptions update).synchronizeFastforwardPolicy ops).readInputs ops s i
      (c.updateOptions update).currentDisplay
    have hinputs : Quiet (c.updateOptions update) e.1 := by
      have hpolicy : Quiet (c.updateOptions update)
          ((c.updateOptions update).synchronizeFastforwardPolicy ops) :=
        quiet_synchronizeFastforwardPolicy _
      exact ⟨hpolicy.calls, hpolicy.valid, hpolicy.session⟩
    have hbefore := hupdate.trans hinputs
    have hshown : Shown e.1 := h.quiet hbefore
    have hsession' : e.1.session = some s :=
      (session_synchronizeFastforwardPolicy (c.updateOptions update)).trans hsession
    unfold runLoaded
    dsimp only
    split
    · rename_i s' message hrun
      have hfailed := run_failed hrun
      refine ⟨?_, (hbefore.showsOnly _).trans ?_⟩
      · exact (shown_failedFrame hshown hsession' hfailed message e.2.assigned).1
      · exact (shown_failedFrame hshown hsession' hfailed message e.2.assigned).2
    · rename_i s' hrun
      obtain ⟨hafter, hshows⟩ := shown_completeFrame hsmall hshown hrun e.2.assigned
      exact ⟨hafter, (hbefore.showsOnly _).trans hshows⟩

/-- A context without a session. -/
theorem Knows.shown_unloaded (h : Knows c) (hsession : c.session = none) : Shown c := by
  refine ⟨h, fun s hs => ?_, fun s hs _ => ?_⟩
  · rw [hsession] at hs
    cases hs
  · rw [hsession] at hs
    cases hs

/-- `retro_load_game`: the pair that is loaded has no picture yet. -/
theorem shown_loadGame (h : Shown c) (options : Options) (loaded : Option (P × Bool)) :
    Shown (c.loadGame options loaded) ∧
      ∀ p, ShowsOnly p c (c.loadGame options loaded) := by
  have hunload := quiet_unloadCurrent c
  have hfitted : Fitted c.unloadCurrent.calls := (h.quiet hunload).fitted
  unfold loadGame
  rw [unloadCurrent_ensureInitialized]
  split
  · have hquiet : Quiet c
        { c.unloadCurrent with
          initialized := true
          options := options
          portDevices := c.ensureInitialized.portDevices } :=
      ⟨hunload.calls, hunload.valid, hunload.session⟩
    exact ⟨h.quiet hquiet, hquiet.showsOnly⟩
  · refine ⟨⟨⟨hfitted, fun hvalid => absurd hvalid Bool.false_ne_true⟩, fun s hs => ?_,
      fun s hs hcomplete => ?_⟩, fun p => ?_⟩
    · obtain rfl := Option.some.inj hs
      rfl
    · obtain rfl := Option.some.inj hs
      exact absurd hcomplete Bool.false_ne_true
    · obtain ⟨new, hcalls, hplain⟩ := hunload.calls
      exact ⟨new, hcalls, fun picture hmem => absurd rfl ((hplain _ hmem).2 picture)⟩

/-- A context that starts anew shows nothing. -/
theorem quiet_zeroed (c : Context P) : Quiet c (.zeroed c.unloadCurrent.calls) :=
  ⟨(quiet_unloadCurrent c).calls, fun h => absurd h Bool.false_ne_true, fun s h => by cases h⟩

theorem quiet_initial (c : Context P) (options : Options) :
    Quiet c (.initial options c.unloadCurrent.calls) :=
  ⟨(quiet_zeroed c).calls, (quiet_zeroed c).valid, (quiet_zeroed c).session⟩

theorem quiet_setControllerPortDevice (c : Context P) (port device : Nat) :
    Quiet c (c.setControllerPortDevice port device) := by
  have hrefl := Quiet.refl c
  unfold setControllerPortDevice
  dsimp only
  split
  · exact hrefl
  · exact ⟨hrefl.calls, hrefl.valid, hrefl.session⟩

theorem quiet_retroReset (c : Context P) : Quiet c (c.retroReset ops) := by
  have hpair := quiet_mapPair c ops.reset
  have hreset : Quiet c (c.resetTouchCursors.mapPair ops.reset) :=
    ⟨hpair.calls, hpair.valid, hpair.session⟩
  exact hreset.trans (quiet_synchronizeFastforwardPolicy _)

theorem quiet_retroUnserialize (c : Context P) (pair : P → P) (outcome : RestoreOutcome) :
    Quiet c (c.retroUnserialize ops pair outcome) := by
  have hpair := quiet_mapPair c pair
  unfold retroUnserialize
  split
  · exact .refl c
  · exact hpair
  · exact (hpair.trans (quiet_unloadCurrent _)).trans (quiet_call _ plain_shutdown)
  · rename_i s linkEnabled hsession
    have hset : Quiet c
        { c.mapPair pair with options.linkEnabled := linkEnabled, geometryValid := false } :=
      ⟨hpair.calls, fun h => absurd h Bool.false_ne_true, hpair.session⟩
    exact hset.trans (quiet_synchronizeFastforwardPolicy _)

/-- **One call of the frontend.** -/
theorem shown_enter (hsmall : Small ops) (h : Shown c) (entry : Entry P) :
    Shown (c.enter ops entry) ∧ ShowsFrame ops c (c.enter ops entry) entry := by
  have hquiet (hq : Quiet c (c.enter ops entry)) :
      Shown (c.enter ops entry) ∧ ShowsFrame ops c (c.enter ops entry) entry :=
    ⟨h.quiet hq, hq.showsOnly _⟩
  cases entry with
  | init options => exact hquiet (quiet_initial c options)
  | deinit => exact hquiet (quiet_zeroed c)
  | loadGame options loaded =>
    obtain ⟨hshown, hshows⟩ := shown_loadGame h options loaded
    exact ⟨hshown, hshows _⟩
  | unloadGame => exact hquiet (quiet_unloadCurrent c)
  | setControllerPortDevice port device => exact hquiet (quiet_setControllerPortDevice c port device)
  | run update i =>
    obtain ⟨hshown, new, hcalls, hnew⟩ := shown_retroRun hsmall h update i
    exact ⟨hshown, new, hcalls, fun picture hmem => ⟨update, i, rfl, hnew picture hmem⟩⟩
  | reset => exact hquiet (quiet_retroReset c)
  | unserialize pair outcome => exact hquiet (quiet_retroUnserialize c pair outcome)

/-- **The pictures of every run** of the frontend's calls: each has the size the frontend was told
last before it, and only a frame shows one, which is the last complete frame of the session with the
touch cursors on it. -/
theorem pictures_published (hsmall : Small ops) (options : Options) (entries : List (Entry P)) :
    let c := run (Context.enter ops) (.initial options []) entries
    Fitted c.calls ∧ ∀ entry, ShowsFrame ops c (c.enter ops entry) entry := by
  intro c
  have hfitted : Fitted ([] : List FrontendCall) := fun before picture after heq =>
    absurd heq (by simp)
  have hstart : Shown (.initial options [] : Context P) :=
    Knows.shown_unloaded ⟨hfitted, fun h => absurd h Bool.false_ne_true⟩ rfl
  have hkeeps : ∀ (c : Context P) entry, Shown c → Shown (c.enter ops entry) :=
    fun _ entry h => (shown_enter hsmall h entry).1
  have hshown : Shown c := run_invariant hkeeps entries hstart
  exact ⟨hshown.fitted, fun entry => (shown_enter hsmall hshown entry).2⟩

theorem pictures_published_toggled :
    let c := run (Context.enter toggledEngine) (.initial .defaults [])
      [.loadGame .defaults (some (false, false)), .run keptOptions idleInput]
    Fitted c.calls ∧ announced c.calls = some ⟨4, 1⟩ := by
  have hsmall : Small toggledEngine := by
    rintro pair machine frame hframe
    obtain rfl := Option.some.inj hframe
    have hsides : 2 < 2 ^ 31 ∧ 1 < 2 ^ 31 := by decide
    exact hsides
  have hpictures := pictures_published hsmall .defaults
    [.loadGame .defaults (some (false, false)), .run keptOptions idleInput]
  exact ⟨hpictures.1, rfl⟩

end Context

end DualBoy.Libretro
