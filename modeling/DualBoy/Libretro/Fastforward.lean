import DualBoy.Libretro.RetroRun

/-!
# Fast-forward and local wireless

While a machine is registered for local wireless the frontend must not run fast. The core asks for it
by an override and takes it back; what it has asked for stands until it does.

* `told_setFastforwardInhibition`, `inhibits_setFastforwardInhibition`: one request.
* `policy_enter`: one call of the frontend.
* **`fastforward_policy`**.
-/

namespace DualBoy.Libretro

open DualBoy.Lib

namespace Context

variable {P : Type}

/-! ## What has been asked for -/

/-- The override among the frontend's calls. -/
def override : FrontendCall → Option Bool
  | .fastforwardOverride inhibit => some inhibit
  | _ => none

/-- What the frontend has been asked for, in order. -/
def overrides (calls : List FrontendCall) : List Bool := calls.filterMap override

/-- The core knows that it inhibits fast-forward. -/
def inhibits (c : Context P) : Bool := c.fastforwardOverrideKnown && c.fastforwardInhibited

/-- `n` overrides, in turn: inhibit first, then allow. -/
def turns (n : Nat) : List Bool := (List.range n).map fun k => decide (k % 2 = 0)

theorem turns_succ (n : Nat) : turns (n + 1) = turns n ++ [decide (n % 2 = 0)] := by
  unfold turns
  rw [List.range_succ, List.map_append]
  rfl

/-- **The frontend has been told in turn**, and the last it was told is what the core knows. -/
def Told (c : Context P) : Prop :=
  ∃ n, overrides c.calls = turns n ∧ (c.inhibits = true ↔ n % 2 = 1)

/-- A context knows and has asked for the same as another. -/
structure SameOverride (c c' : Context P) : Prop where
  inhibits : c'.inhibits = c.inhibits
  overrides : Context.overrides c'.calls = Context.overrides c.calls

variable {c c' c'' : Context P} {ops : EngineOps P}

theorem SameOverride.refl (c : Context P) : SameOverride c c := ⟨rfl, rfl⟩

theorem SameOverride.trans (h : SameOverride c c') (h' : SameOverride c' c'') :
    SameOverride c c'' :=
  ⟨h'.inhibits.trans h.inhibits, h'.overrides.trans h.overrides⟩

theorem SameOverride.told (h : SameOverride c c') (hc : Told c) : Told c' := by
  obtain ⟨n, hturns, hinhibits⟩ := hc
  exact ⟨n, h.overrides.trans hturns, by rw [h.inhibits]; exact hinhibits⟩

theorem overrides_append (calls calls' : List FrontendCall) :
    overrides (calls ++ calls') = overrides calls ++ overrides calls' := List.filterMap_append

/-- A call of another kind. -/
theorem sameOverride_call {call : FrontendCall} (hinhibits : c'.inhibits = c.inhibits)
    (hcalls : c'.calls = c.calls ++ [call]) (h : override call = none) : SameOverride c c' := by
  refine ⟨hinhibits, ?_⟩
  rw [hcalls, overrides_append]
  simp [overrides, h]

/-! ## One request -/

theorem inhibits_setFastforwardInhibition (c : Context P) (inhibit : Bool) :
    (c.setFastforwardInhibition inhibit).inhibits = inhibit := by
  unfold setFastforwardInhibition inhibits
  split
  · rename_i h
    rw [h.1, h.2]
    rfl
  · split
    · rename_i h
      rw [h.1, h.2]
      rfl
    · rfl

theorem told_setFastforwardInhibition (h : Told c) (inhibit : Bool) :
    Told (c.setFastforwardInhibition inhibit) := by
  obtain ⟨n, hturns, hinhibits⟩ := h
  have hafter := inhibits_setFastforwardInhibition c inhibit
  unfold setFastforwardInhibition at hafter ⊢
  split
  · exact ⟨n, hturns, hinhibits⟩
  rename_i hunknown
  split
  · exact ⟨n, hturns, hinhibits⟩
  rename_i hknown
  rw [if_neg hunknown, if_neg hknown] at hafter
  -- the core asks for the other of the two
  have hother : c.inhibits = !inhibit := by
    unfold inhibits
    cases hk : c.fastforwardOverrideKnown <;> cases hi : c.fastforwardInhibited <;>
      cases inhibit <;> simp_all
  have hturn : decide (n % 2 = 0) = inhibit := by
    rw [hother] at hinhibits
    cases inhibit
    · have : n % 2 = 1 := hinhibits.mp rfl
      exact decide_eq_false (by omega)
    · have : ¬n % 2 = 1 := fun hodd => Bool.false_ne_true (hinhibits.mpr hodd)
      exact decide_eq_true (by omega)
  refine ⟨n + 1, ?_, ?_⟩
  · change overrides (c.calls ++ [.fastforwardOverride inhibit]) = turns (n + 1)
    rw [overrides_append, hturns, turns_succ, hturn]
    rfl
  · rw [hafter, ← hturn, decide_eq_true_iff]
    omega

/-- The policy is in force. -/
theorem inhibits_synchronizeFastforwardPolicy (c : Context P) :
    (c.synchronizeFastforwardPolicy ops).inhibits = c.transportRequiresRealtime ops := by
  unfold synchronizeFastforwardPolicy
  dsimp only
  split
  · exact inhibits_setFastforwardInhibition c _
  · rename_i h
    rw [not_or] at h
    obtain ⟨htransport, hstands⟩ := h
    rw [Bool.not_eq_true] at htransport
    rw [htransport]
    unfold inhibits
    rwa [← Bool.not_eq_true, Bool.and_eq_true]

theorem told_synchronizeFastforwardPolicy (h : Told c) :
    Told (c.synchronizeFastforwardPolicy ops) := by
  unfold synchronizeFastforwardPolicy
  dsimp only
  split
  · exact told_setFastforwardInhibition h _
  · exact h

@[simp] theorem session_setFastforwardInhibition (c : Context P) (inhibit : Bool) :
    (c.setFastforwardInhibition inhibit).session = c.session := by
  unfold setFastforwardInhibition
  split
  · rfl
  · split
    · rfl
    · rfl

@[simp] theorem session_synchronizeFastforwardPolicy (c : Context P) :
    (c.synchronizeFastforwardPolicy ops).session = c.session := by
  unfold synchronizeFastforwardPolicy
  dsimp only
  split
  · exact session_setFastforwardInhibition c _
  · rfl

/-! ## One call of the frontend -/

/-- What holds between the frontend's calls. -/
structure Policy (c : Context P) : Prop where
  told : Told c
  loaded : c.inhibits = true → c.session.isSome = true

theorem Policy.unloadCurrent (h : Policy c) : Policy c.unloadCurrent := by
  have hsame : SameOverride (c.setFastforwardInhibition false) c.unloadCurrent := ⟨rfl, rfl⟩
  refine ⟨hsame.told (told_setFastforwardInhibition h.told false), fun hinhibits => ?_⟩
  rw [hsame.inhibits, inhibits_setFastforwardInhibition] at hinhibits
  cases hinhibits

/-- A pair that is unloaded inhibits nothing. -/
theorem inhibits_unloadCurrent (c : Context P) : c.unloadCurrent.inhibits = false :=
  inhibits_setFastforwardInhibition c false

theorem Policy.of_same (h : Policy c) (hsame : SameOverride c c')
    (hsession : c'.session.isSome = c.session.isSome) : Policy c' := by
  refine ⟨hsame.told h.told, fun hinhibits => ?_⟩
  rw [hsession]
  exact h.loaded (by rwa [hsame.inhibits] at hinhibits)

theorem Policy.synchronize (h : Told c) : Policy (c.synchronizeFastforwardPolicy ops) := by
  refine ⟨told_synchronizeFastforwardPolicy h, fun hinhibits => ?_⟩
  rw [inhibits_synchronizeFastforwardPolicy] at hinhibits
  rw [session_synchronizeFastforwardPolicy]
  unfold transportRequiresRealtime at hinhibits
  cases hsession : c.session with
  | none =>
    rw [hsession] at hinhibits
    cases hinhibits
  | some s => rfl

/-- The policy is in force for the session that is left. -/
def InForce (ops : EngineOps P) (c : Context P) : Prop :=
  c.inhibits = c.transportRequiresRealtime ops

theorem inForce_synchronize (c : Context P) : InForce ops (c.synchronizeFastforwardPolicy ops) := by
  unfold InForce
  rw [inhibits_synchronizeFastforwardPolicy]
  unfold transportRequiresRealtime
  rw [session_synchronizeFastforwardPolicy]

/-- Without a session there is nothing to inhibit. -/
theorem Policy.inForce (h : Policy c) (hsession : c.session = none) : InForce ops c := by
  have hinhibits : c.inhibits = false := by
    rw [← Bool.not_eq_true]
    intro hinhibits
    have hloaded := h.loaded hinhibits
    rw [hsession] at hloaded
    cases hloaded
  unfold InForce transportRequiresRealtime
  rw [hsession, hinhibits]
  rfl

/-! ### What publishes asks for nothing -/

theorem sameOverride_publishGeometry (c : Context P) (geometry : Frontend.Geometry) :
    SameOverride c (c.publishGeometry geometry) := by
  unfold publishGeometry
  split
  · exact .refl c
  · have hcall : override (.setGeometry geometry) = none := rfl
    exact sameOverride_call rfl rfl hcall

@[simp] theorem session_publishGeometry (c : Context P) (geometry : Frontend.Geometry) :
    (c.publishGeometry geometry).session = c.session := by
  unfold publishGeometry
  split
  · rfl
  · rfl

theorem sameOverride_publishVideo (c : Context P) (s : LoadedPair P) (assigned : Fin 2 → Bool) :
    SameOverride c (c.publishVideo ops s assigned) := by
  unfold publishVideo
  dsimp only
  split
  · exact ⟨rfl, rfl⟩
  · rename_i picture hpicture
    have hcall : override (.video picture) = none := rfl
    exact sameOverride_call rfl rfl hcall

@[simp] theorem session_publishVideo (c : Context P) (s : LoadedPair P) (assigned : Fin 2 → Bool) :
    (c.publishVideo ops s assigned).session = c.session := by
  unfold publishVideo
  dsimp only
  split
  · rfl
  · rfl

theorem sameOverride_reportFailure (c : Context P) (message : String) :
    SameOverride c (c.reportFailure message) := by
  unfold reportFailure
  split
  · have hcall : override (.frameFailure message) = none := rfl
    exact sameOverride_call rfl rfl hcall
  · exact .refl c

@[simp] theorem session_reportFailure (c : Context P) (message : String) :
    (c.reportFailure message).session = c.session := by
  unfold reportFailure
  split
  · rfl
  · rfl

theorem sameOverride_drainAudio (c : Context P) (s : LoadedPair P) :
    SameOverride c (c.drainAudio ops s) := by
  refine ⟨rfl, ?_⟩
  unfold drainAudio
  dsimp only
  rw [overrides_append]
  split
  · have hnone : overrides ((drainLoop ops audioDrainLimit s.pair).2.map .audio) = [] := by
      unfold overrides
      rw [List.filterMap_map]
      exact List.filterMap_eq_nil_iff.mpr fun _ _ => rfl
    rw [hnone, List.append_nil]
  · exact List.append_nil _

/-- Draining leaves the transport as it is, if one read does. -/
theorem linkTransportActive_drainLoop
    (hread : ∀ pair n, ops.linkTransportActive (ops.readAudio pair n).1 =
      ops.linkTransportActive pair) (left : Nat) (pair : P) :
    ops.linkTransportActive (drainLoop ops left pair).1 = ops.linkTransportActive pair := by
  induction left generalizing pair with
  | zero => rfl
  | succ left ih =>
    have hfirst := hread pair audioBufferFrames
    unfold drainLoop
    dsimp only
    split
    · exact hfirst
    · split
      · exact hfirst
      · exact (ih _).trans hfirst

/-! ### Entry points -/

variable {s : LoadedPair P}

theorem policy_failedFrame (h : Told c) (message : String) (assigned : Fin 2 → Bool) :
    Policy (c.failedFrame ops s message assigned) ∧
      InForce ops (c.failedFrame ops s message assigned) := by
  have hset : SameOverride c { c with session := some s } := ⟨rfl, rfl⟩
  have hreport := sameOverride_reportFailure { c with session := some s } message
  have hvideo : SameOverride ({ c with session := some s }.reportFailure message)
      (({ c with session := some s }.reportFailure message).publishVideo ops s assigned) :=
    sameOverride_publishVideo _ s assigned
  exact ⟨Policy.synchronize (((hset.trans hreport).trans hvideo).told h), inForce_synchronize _⟩

theorem policy_completeFrame
    (hread : ∀ pair n, ops.linkTransportActive (ops.readAudio pair n).1 =
      ops.linkTransportActive pair) (h : Told c) (assigned : Fin 2 → Bool) :
    Policy (c.completeFrame ops s assigned) ∧ InForce ops (c.completeFrame ops s assigned) := by
  let e : Context P :=
    { c with session := some s, frameFailureLogged := false, lastFrameFailure := "" }
  have hset : SameOverride c e := ⟨rfl, rfl⟩
  have hpolicy : Policy (e.synchronizeFastforwardPolicy ops) :=
    Policy.synchronize (hset.told h)
  have hforce : (e.synchronizeFastforwardPolicy ops).inhibits = ops.linkTransportActive s.pair :=
    inhibits_synchronizeFastforwardPolicy e
  have hgeometry := sameOverride_publishGeometry (e.synchronizeFastforwardPolicy ops)
    { width := s.composite.width, height := s.composite.height }
  have hvideo (d : Context P) : SameOverride d (d.publishVideo ops s assigned) :=
    sameOverride_publishVideo d s assigned
  have hdrain (d : Context P) : SameOverride d (d.drainAudio ops s) := sameOverride_drainAudio d s
  have haudio := (hgeometry.trans (hvideo _)).trans (hdrain _)
  refine ⟨hpolicy.of_same haudio ?_, ?_⟩
  · rw [session_synchronizeFastforwardPolicy]
    rfl
  · refine haudio.inhibits.trans (hforce.trans ?_)
    exact (linkTransportActive_drainLoop hread audioDrainLimit s.pair).symm

/-- `retro_run`. -/
theorem policy_retroRun
    (hread : ∀ pair n, ops.linkTransportActive (ops.readAudio pair n).1 =
      ops.linkTransportActive pair) (h : Policy c) (update : OptionsUpdate P) (i : InputState) :
    Policy (c.retroRun ops update i) ∧ InForce ops (c.retroRun ops update i) := by
  unfold retroRun
  split
  · rename_i hsession
    exact ⟨h, h.inForce hsession⟩
  rename_i s₀ hsession
  have hupdate : Policy (c.updateOptions update) := by
    have hset : SameOverride c { c.mapPair update.pair with
      options := update.options
      touchCursors := fun machine =>
        if update.options.controllerPorts machine ≠ c.options.controllerPorts machine then
          Frontend.touchCursorReset
        else c.touchCursors machine } := ⟨rfl, rfl⟩
    have hset' := h.of_same hset (Option.isSome_map)
    unfold updateOptions
    dsimp only
    split
    · have hshutdown : override .shutdown = none := rfl
      exact hset'.unloadCurrent.of_same (sameOverride_call rfl rfl hshutdown) rfl
    · exact hset'
  dsimp only
  split
  · rename_i hnone
    exact ⟨hupdate, hupdate.inForce hnone⟩
  · rename_i s hsome
    have htold : Told ((c.updateOptions update).synchronizeFastforwardPolicy ops) :=
      told_synchronizeFastforwardPolicy hupdate.told
    have hinputs (e : Context P) (display : Frontend.CompositorConfig) :
        SameOverride e (e.readInputs ops s i display).1 := ⟨rfl, rfl⟩
    unfold runLoaded
    dsimp only
    split
    · exact policy_failedFrame ((hinputs _ _).told htold) _ _
    · exact policy_completeFrame hread ((hinputs _ _).told htold) _

/-- A context that starts anew knows of no override, and none stands. -/
theorem Policy.zeroed (h : Policy c) : Policy (Context.zeroed c.unloadCurrent.calls : Context P) := by
  have hsame : SameOverride c.unloadCurrent (Context.zeroed c.unloadCurrent.calls) :=
    ⟨(inhibits_unloadCurrent c).symm, rfl⟩
  exact ⟨hsame.told h.unloadCurrent.told, fun hinhibits => absurd hinhibits Bool.false_ne_true⟩

theorem Policy.initial (h : Policy c) (options : Options) :
    Policy (Context.initial options c.unloadCurrent.calls : Context P) :=
  h.zeroed.of_same ⟨rfl, rfl⟩ rfl

/-- `retro_unserialize`. -/
theorem policy_retroUnserialize (h : Policy c) (pair : P → P) (outcome : RestoreOutcome) :
    Policy (c.retroUnserialize ops pair outcome) ∧
      (outcome ≠ .rejected → InForce ops (c.retroUnserialize ops pair outcome)) := by
  have hpair : Policy (c.mapPair pair) := h.of_same ⟨rfl, rfl⟩ Option.isSome_map
  unfold retroUnserialize
  split
  · rename_i hsession
    exact ⟨h, fun _ => h.inForce hsession⟩
  · exact ⟨hpair, fun hne => absurd rfl hne⟩
  · have hshutdown : override .shutdown = none := rfl
    have hunloaded : Policy ((c.mapPair pair).unloadCurrent.call .shutdown) :=
      hpair.unloadCurrent.of_same (sameOverride_call rfl rfl hshutdown) rfl
    exact ⟨hunloaded, fun _ => hunloaded.inForce rfl⟩
  · rename_i s linkEnabled hsession
    have hset : SameOverride (c.mapPair pair)
        { c.mapPair pair with options.linkEnabled := linkEnabled, geometryValid := false } :=
      ⟨rfl, rfl⟩
    exact ⟨Policy.synchronize (hset.told hpair.told), fun _ => inForce_synchronize _⟩

/-- **One call of the frontend.** -/
theorem policy_enter
    (hread : ∀ pair n, ops.linkTransportActive (ops.readAudio pair n).1 =
      ops.linkTransportActive pair) (h : Policy c) (entry : Entry P) :
    Policy (c.enter ops entry) := by
  cases entry with
  | init options => exact h.initial options
  | deinit => exact h.zeroed
  | loadGame options loaded =>
    change Policy (c.loadGame options loaded)
    have hquiet (e : Context P) (he : SameOverride c.unloadCurrent e) : Policy e := by
      refine ⟨he.told h.unloadCurrent.told, fun hinhibits => ?_⟩
      rw [he.inhibits, inhibits_unloadCurrent] at hinhibits
      cases hinhibits
    unfold loadGame
    rw [unloadCurrent_ensureInitialized]
    split
    · exact hquiet _ ⟨rfl, rfl⟩
    · exact hquiet _ ⟨rfl, rfl⟩
  | unloadGame => exact h.unloadCurrent
  | setControllerPortDevice port device =>
    change Policy (c.setControllerPortDevice port device)
    unfold setControllerPortDevice
    dsimp only
    split
    · exact h
    · exact h.of_same ⟨rfl, rfl⟩ rfl
  | run update i => exact (policy_retroRun hread h update i).1
  | reset =>
    have hset : SameOverride c (c.resetTouchCursors.mapPair ops.reset) := ⟨rfl, rfl⟩
    exact Policy.synchronize (hset.told h.told)
  | unserialize pair outcome => exact (policy_retroUnserialize h pair outcome).1

/-- The entry points behind which the policy is in force: those that run, reset, restore or unload
the machines. A game that has just been loaded waits for its first frame. -/
def Settles : Entry P → Prop
  | .loadGame _ _ | .setControllerPortDevice _ _ | .unserialize _ .rejected => False
  | _ => True

theorem inForce_enter
    (hread : ∀ pair n, ops.linkTransportActive (ops.readAudio pair n).1 =
      ops.linkTransportActive pair) (h : Policy c) {entry : Entry P} (hentry : Settles entry) :
    InForce ops (c.enter ops entry) := by
  have hafter := policy_enter hread h entry
  cases entry with
  | init options => exact hafter.inForce rfl
  | deinit => exact hafter.inForce rfl
  | loadGame options loaded => cases hentry
  | unloadGame => exact hafter.inForce rfl
  | setControllerPortDevice port device => cases hentry
  | run update i => exact (policy_retroRun hread h update i).2
  | reset => exact inForce_synchronize _
  | unserialize pair outcome =>
    refine (policy_retroUnserialize h pair outcome).2 ?_
    rintro rfl
    exact hentry

/-- **The fast-forward policy, over every run** of the frontend's calls: it is told to inhibit and to
allow in turn, and the last it was told is what the core knows; nothing is inhibited without a
session; and behind each call that runs, resets, restores or unloads the machines fast-forward is
inhibited exactly when the session's transport is active. -/
theorem fastforward_policy
    (hread : ∀ pair n, ops.linkTransportActive (ops.readAudio pair n).1 =
      ops.linkTransportActive pair) (options : Options) (entries : List (Entry P)) :
    let c := run (Context.enter ops) (.initial options []) entries
    (∃ n, overrides c.calls = (List.range n).map (fun k => decide (k % 2 = 0)) ∧
        (c.inhibits = true ↔ n % 2 = 1)) ∧
      (c.inhibits = true → c.session.isSome = true) ∧
      ∀ entry, Settles entry →
        (c.enter ops entry).inhibits = (c.enter ops entry).transportRequiresRealtime ops := by
  intro c
  have hstart : Policy (.initial options [] : Context P) :=
    ⟨⟨0, rfl, by simp [inhibits, Context.initial, Context.zeroed]⟩,
      fun h => absurd h Bool.false_ne_true⟩
  have hkeeps : ∀ (c : Context P) entry, Policy c → Policy (c.enter ops entry) :=
    fun _ entry h => policy_enter hread h entry
  have hpolicy : Policy c := run_invariant hkeeps entries hstart
  exact ⟨hpolicy.told, hpolicy.loaded, fun entry hentry => inForce_enter hread hpolicy hentry⟩

/-- A transport that each frame puts on or off, two small frames, and no sound. -/
def toggledEngine : EngineOps Bool where
  setMachineInput active _ _ := active
  runFrame active := (!active, none)
  videoFrame _ machine := some (Frontend.sampleFrames machine)
  readAudio active _ := (active, 0, fun _ => (0, 0))
  linkTransportActive active := active
  reset _ := false

/-- No button, no stick and no contact. -/
def idleInput : InputState where
  bitmasks := true
  mask := fun _ => 0
  button := fun _ _ => 0
  analogX := fun _ => 0
  analogY := fun _ => 0
  contact := fun _ => ⟨0, 0, 0⟩
  nowUsec := none

/-- The default options as they are. -/
def keptOptions : OptionsUpdate Bool where
  options := .defaults
  pair := id
  retired := false

theorem fastforward_policy_toggled :
    let c := run (Context.enter toggledEngine) (.initial .defaults [])
      [.loadGame .defaults (some (false, false))]
    (c.enter toggledEngine (.run keptOptions idleInput)).inhibits = true := by
  have hread (pair : Bool) (n : Nat) : toggledEngine.linkTransportActive
      (toggledEngine.readAudio pair n).1 = toggledEngine.linkTransportActive pair := rfl
  obtain ⟨-, -, hforce⟩ := fastforward_policy hread .defaults
    [.loadGame .defaults (some (false, false))]
  have htransport := hforce (.run keptOptions idleInput) trivial
  intro c
  rw [htransport]
  rfl

end Context

end DualBoy.Libretro
