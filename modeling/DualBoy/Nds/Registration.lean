import DualBoy.Nds.Barrier

/-!
# The registration of the NDS machines with the wireless medium

`SetLink`, `SetVideoRenderer`, `MPBegin` and `MPEnd`, by their accesses to the flags they share, with
`mp_control_mutex`. A machine's calls are its own thread's, and `MPEnd` also what `Reset` makes for it
between two frames; either way one at a time.

* `Fits`: what a machine's flags are while the calling thread is somewhere in `SetLink`.
* **`registration_protocol`**.
-/

namespace DualBoy.Nds

open DualBoy.Lib

/-! ## States -/

/-- A call of `local_mp`. -/
inductive LocalMpCall where
  | begins
  | ends
  deriving DecidableEq, Repr

/-- The next access of a machine's call, if it is in one: of `MPBegin`, of `MPEnd`, or the unlocking
that ends both. -/
inductive MachinePoint where
  | idle
  | beginLock
  | beginAbort
  | beginRequest
  | beginLink
  | beginRegistered
  | beginCall
  | beginStore
  | endRequest
  | endLock
  | endExchange
  | endCall
  | unlock
  deriving DecidableEq, Repr

/-- The machine's call holds the mutex. -/
def MachinePoint.inside : MachinePoint → Bool
  | .idle | .beginLock | .endRequest | .endLock => false
  | _ => true

/-- The next access of the calling thread, if it is in `SetLink` or in `SetVideoRenderer`. In the loop
over the machines, `requested` and `registered` load a flag, `begins` and `ends` call `local_mp`, and
`store` and `clear` store to `mp_registered`. -/
inductive ControlPoint where
  | idle
  | lock (enabled : Bool)
  | renderer (enabled : Bool)
  | link (enabled : Bool)
  | requested (enabled : Bool) (m : Fin 2)
  | registered (enabled : Bool) (m : Fin 2) (requested : Bool)
  | begins (m : Fin 2)
  | store (m : Fin 2)
  | clear (m : Fin 2)
  | ends (m : Fin 2)
  | unlock
  /-- `SetVideoRenderer` loads `link_enabled`. -/
  | rendererLink
  /-- `SetVideoRenderer` stores how it ended. -/
  | rendererStore
  deriving DecidableEq, Repr

/-- The calling thread holds the mutex. -/
def ControlPoint.inside : ControlPoint → Bool
  | .idle | .lock _ | .rendererLink | .rendererStore => false
  | _ => true

/-- What `MachineContext` has about the medium, with the calls made for the machine. -/
structure Machine where
  requested : Bool
  registered : Bool
  calls : List LocalMpCall
  point : MachinePoint

/-- Whose call holds the mutex. -/
inductive MutexHolder where
  | main
  | machine (m : Fin 2)
  deriving DecidableEq, Repr

/-- What `MelonDSPair` has about the medium. -/
structure Medium where
  mutex : Option MutexHolder
  linkEnabled : Bool
  videoRenderer : VideoRenderer
  abortRequested : Bool
  control : ControlPoint
  machine : Fin 2 → Machine

namespace Medium

/-- A pair that was just created. -/
def start : Medium where
  mutex := none
  linkEnabled := false
  videoRenderer := .software
  abortRequested := false
  control := .idle
  machine := fun _ => { requested := false, registered := false, calls := [], point := .idle }

def withMachine (s : Medium) (m : Fin 2) (machine : Machine) : Medium :=
  { s with machine := fun m' => if m' = m then machine else s.machine m' }

/-! ## The calling thread -/

/-- The loop of `SetLink` goes to the next machine. -/
def nextMachine (enabled : Bool) (m : Fin 2) : ControlPoint :=
  if m = 0 then .requested enabled 1 else .unlock

/-- The next access of the calling thread; `renderer` is what `SetVideoRenderer` comes to. -/
def goOn (s : Medium) (renderer : VideoRenderer) : Medium :=
  match s.control with
  | .idle => s
  | .lock enabled =>
    if s.mutex = none then { s with mutex := some .main, control := .renderer enabled } else s
  | .renderer enabled =>
    if enabled ∧ s.videoRenderer = .opengl then { s with control := .unlock }
    else { s with control := .link enabled }
  | .link enabled => { s with linkEnabled := enabled, control := .requested enabled 0 }
  | .requested enabled m => { s with control := .registered enabled m (s.machine m).requested }
  | .registered enabled m requested =>
    if enabled ∧ requested ∧ (s.machine m).registered = false then { s with control := .begins m }
    else if enabled = false ∧ (s.machine m).registered then { s with control := .clear m }
    else { s with control := nextMachine enabled m }
  | .begins m =>
    { s.withMachine m { s.machine m with calls := (s.machine m).calls ++ [.begins] } with
      control := .store m }
  | .store m =>
    { s.withMachine m { s.machine m with registered := true } with control := nextMachine true m }
  | .clear m =>
    { s.withMachine m { s.machine m with registered := false } with control := .ends m }
  | .ends m =>
    { s.withMachine m { s.machine m with calls := (s.machine m).calls ++ [.ends] } with
      control := nextMachine false m }
  | .unlock => { s with mutex := none, control := .idle }
  | .rendererLink =>
    { s with control := if s.linkEnabled then .idle else .rendererStore }
  | .rendererStore => { s with videoRenderer := renderer, control := .idle }

/-! ## The machines -/

/-- The next access of a machine's call. -/
def goOnMachine (s : Medium) (m : Fin 2) : Medium :=
  let x := s.machine m
  match x.point with
  | .idle => s
  | .beginLock =>
    if s.mutex = none then
      { s.withMachine m { x with point := .beginAbort } with mutex := some (.machine m) }
    else s
  | .beginAbort =>
    s.withMachine m { x with point := if s.abortRequested then .unlock else .beginRequest }
  | .beginRequest => s.withMachine m { x with requested := true, point := .beginLink }
  | .beginLink =>
    s.withMachine m { x with point := if s.linkEnabled then .beginRegistered else .unlock }
  | .beginRegistered =>
    s.withMachine m { x with point := if x.registered then .unlock else .beginCall }
  | .beginCall => s.withMachine m { x with calls := x.calls ++ [.begins], point := .beginStore }
  | .beginStore => s.withMachine m { x with registered := true, point := .unlock }
  | .endRequest => s.withMachine m { x with requested := false, point := .endLock }
  | .endLock =>
    if s.mutex = none then
      { s.withMachine m { x with point := .endExchange } with mutex := some (.machine m) }
    else s
  | .endExchange =>
    s.withMachine m
      { x with registered := false, point := if x.registered then .endCall else .unlock }
  | .endCall => s.withMachine m { x with calls := x.calls ++ [.ends], point := .unlock }
  | .unlock => { s.withMachine m { x with point := .idle } with mutex := none }

/-! ## Steps -/

/-- What happens next. -/
inductive MediumAction where
  | setLink (enabled : Bool)
  | setVideoRenderer (renderer : VideoRenderer)
  | mpBegin (m : Fin 2)
  | mpEnd (m : Fin 2)
  /-- Some thread stores to `abort_requested`. -/
  | abort (requested : Bool)
  | goOn (renderer : VideoRenderer)
  | goOnMachine (m : Fin 2)
  deriving DecidableEq, Repr

/-- One step; a call that its thread cannot make yet does nothing. -/
def step (s : Medium) : MediumAction → Medium
  | .setLink enabled => if s.control = .idle then { s with control := .lock enabled } else s
  | .setVideoRenderer renderer =>
    if s.control = .idle ∧ renderer ≠ s.videoRenderer then
      { s with control := if renderer = .opengl then .rendererLink else .rendererStore }
    else s
  | .mpBegin m =>
    if (s.machine m).point = .idle then s.withMachine m { s.machine m with point := .beginLock }
    else s
  | .mpEnd m =>
    if (s.machine m).point = .idle then s.withMachine m { s.machine m with point := .endRequest }
    else s
  | .abort requested => { s with abortRequested := requested }
  | .goOn renderer => s.goOn renderer
  | .goOnMachine m => s.goOnMachine m

/-! ## What the flags are -/

/-- `Begin` and `End` in turn, `Begin` first. -/
def Alternates (calls : List LocalMpCall) : Prop :=
  ∀ i (h : i < calls.length), calls.get ⟨i, h⟩ = if i % 2 = 0 then .begins else .ends

/-- The last call was a `Begin`. -/
def Open (calls : List LocalMpCall) : Prop :=
  calls.length % 2 = 1

/-- The flag agrees with the calls. -/
def Told (x : Machine) : Prop :=
  Open x.calls ↔ x.registered = true

/-- What a machine's flags are at each point of its calls, while the calling thread is not in the loop
of `SetLink`. -/
def Alone (link : Bool) (x : Machine) : Prop :=
  Alternates x.calls ∧
    match x.point with
    | .idle | .beginLock | .beginAbort | .beginRequest | .endRequest | .unlock =>
      Told x ∧ x.registered = (x.requested && link)
    | .beginLink => Told x ∧ x.requested = true ∧ (x.registered = true → link = true)
    | .beginRegistered => Told x ∧ x.requested = true ∧ link = true
    | .beginCall => ¬Open x.calls ∧ x.registered = false ∧ x.requested = true ∧ link = true
    | .beginStore => Open x.calls ∧ x.registered = false ∧ x.requested = true ∧ link = true
    | .endLock | .endExchange =>
      Told x ∧ x.requested = false ∧ (x.registered = true → link = true)
    | .endCall => Open x.calls ∧ x.registered = false ∧ x.requested = false

/-- A machine that asks for the medium, or did when its flag was loaded. -/
def Asking (x : Machine) : Prop :=
  if x.point = .endLock then x.requested = false else x.requested = true

/-- What a machine's flags are while the loop of `SetLink` is at it. -/
def Current (link : Bool) (x : Machine) : ControlPoint → Prop
  | .requested _ _ => ∃ old, Alone old x
  | .registered _ _ requested =>
    (∃ old, Alone old x) ∧ if requested then Asking x else x.requested = false
  | .begins _ => Alternates x.calls ∧ ¬Open x.calls ∧ x.registered = false ∧ Asking x ∧ link = true
  | .store _ => Alternates x.calls ∧ Open x.calls ∧ x.registered = false ∧ Asking x ∧ link = true
  | .clear _ => (∃ old, Alone old x) ∧ x.registered = true ∧ link = false
  | .ends _ => Alternates x.calls ∧ Open x.calls ∧ x.registered = false ∧ link = false ∧
    (x.point = .endLock → x.requested = false)
  | _ => Alone link x

/-- The machine the loop of `SetLink` is at. -/
def loopMachine : ControlPoint → Option (Fin 2)
  | .requested _ m | .registered _ m _ | .begins m | .store m | .clear m | .ends m => some m
  | _ => none

/-- What a machine's flags are, with the calling thread where it is: the machines before the one of
the loop fit the new link, those behind it an old one. -/
def Fits (control : ControlPoint) (link : Bool) (m : Fin 2) (x : Machine) : Prop :=
  match loopMachine control with
  | none => Alone link x
  | some m' => if m < m' then Alone link x else if m = m' then Current link x control
    else ∃ old, Alone old x

/-- The link, as the calling thread has set or found it. -/
def linkAt : ControlPoint → Option Bool
  | .requested enabled _ | .registered enabled _ _ => some enabled
  | .begins _ | .store _ => some true
  | .clear _ | .ends _ | .rendererStore => some false
  | _ => none

/-- What holds in every state. -/
structure Inv (s : Medium) : Prop where
  main_holds : s.mutex = some .main ↔ s.control.inside = true
  machine_holds : ∀ m, s.mutex = some (.machine m) ↔ (s.machine m).point.inside = true
  fits : ∀ m, Fits s.control s.linkEnabled m (s.machine m)
  /-- The two are never on together. -/
  apart : s.videoRenderer = .opengl → s.linkEnabled = false
  allowed : s.control = .link true → s.videoRenderer = .software
  link_eq : ∀ enabled, linkAt s.control = some enabled → s.linkEnabled = enabled

/-! ## Calls in turn -/

theorem open_append (calls : List LocalMpCall) (c : LocalMpCall) :
    Open (calls ++ [c]) ↔ ¬Open calls := by
  unfold Open
  rw [List.length_append, List.length_singleton]
  omega

theorem Alternates.append {calls : List LocalMpCall} (h : Alternates calls) {c : LocalMpCall}
    (hc : c = if calls.length % 2 = 0 then .begins else .ends) : Alternates (calls ++ [c]) := by
  intro i hi
  rw [List.length_append, List.length_singleton] at hi
  by_cases hlast : i = calls.length
  · subst hlast
    simpa using hc
  · have hlt : i < calls.length := by omega
    have hget := h i hlt
    simp only [List.get_eq_getElem] at hget ⊢
    rw [List.getElem_append_left hlt]
    exact hget

theorem Alternates.begins {calls : List LocalMpCall} (h : Alternates calls) (hopen : ¬Open calls) :
    Alternates (calls ++ [.begins]) := by
  refine h.append ?_
  unfold Open at hopen
  rw [if_pos (by omega)]

theorem Alternates.ends {calls : List LocalMpCall} (h : Alternates calls) (hopen : Open calls) :
    Alternates (calls ++ [.ends]) := by
  refine h.append ?_
  unfold Open at hopen
  rw [if_neg (by omega)]

/-- The calls are open when the last one was a `Begin`. -/
theorem Alternates.open_iff {calls : List LocalMpCall} (h : Alternates calls) :
    Open calls ↔ calls.getLast? = some .begins := by
  rcases List.eq_nil_or_concat calls with rfl | ⟨front, c, rfl⟩
  · exact iff_of_false (by simp [Open]) (by simp)
  · rw [List.concat_eq_append] at h ⊢
    have hc := h front.length (by simp)
    simp only [List.get_eq_getElem, List.getElem_concat_length] at hc
    rw [List.getLast?_concat, hc, open_append]
    unfold Open
    by_cases heven : front.length % 2 = 0
    · rw [if_pos heven]
      exact iff_of_true (by omega) rfl
    · rw [if_neg heven]
      exact iff_of_false (by omega) (by simp)

/-! ## The machines -/

variable {s : Medium} {m : Fin 2}

/-- A machine's call leaves the calling thread and the other machine alone. -/
theorem Inv.withMachine (h : Inv s) {x : Machine} {mutex : Option MutexHolder}
    (hx : Fits s.control s.linkEnabled m x)
    (hmutex : mutex = some (.machine m) ↔ x.point.inside = true)
    (hothers : ∀ t, t ≠ .machine m → (mutex = some t ↔ s.mutex = some t)) :
    Inv { s.withMachine m x with mutex := mutex } where
  main_holds := (hothers .main nofun).trans h.main_holds
  machine_holds m' := by
    by_cases hm : m' = m
    · subst hm
      simpa [Medium.withMachine] using hmutex
    · have hne : MutexHolder.machine m' ≠ .machine m := fun heq => hm (MutexHolder.machine.inj heq)
      simpa [Medium.withMachine, hm] using (hothers _ hne).trans (h.machine_holds m')
  fits m' := by
    by_cases hm : m' = m
    · subst hm
      simpa [Medium.withMachine] using hx
    · simpa [Medium.withMachine, hm] using h.fits m'
  apart := h.apart
  allowed := h.allowed
  link_eq := h.link_eq

theorem fits_iff_alone {control : ControlPoint} (hout : loopMachine control = none) (link : Bool)
    (m : Fin 2) (x : Machine) : Fits control link m x ↔ Alone link x := by
  unfold Fits
  rw [hout]

theorem inside_of_loopMachine {control : ControlPoint} {m : Fin 2}
    (h : loopMachine control = some m) : control.inside = true := by
  cases control <;> first | rfl | cases h

theorem Inv.alone (h : Inv s) (hmutex : s.mutex ≠ some .main) (m : Fin 2) :
    loopMachine s.control = none ∧ Alone s.linkEnabled (s.machine m) := by
  have hout : loopMachine s.control = none := by
    cases hloop : loopMachine s.control with
    | none => rfl
    | some m' => exact absurd (h.main_holds.mpr (inside_of_loopMachine hloop)) hmutex
  exact ⟨hout, (fits_iff_alone hout _ _ _).mp (h.fits m)⟩

/-- A machine takes the mutex. -/
theorem Inv.acquire (h : Inv s) (hfree : s.mutex = none) {x : Machine}
    (hx : Alone s.linkEnabled (s.machine m) → Alone s.linkEnabled x) (hin : x.point.inside = true) :
    Inv { s.withMachine m x with mutex := some (.machine m) } := by
  obtain ⟨hout, halone⟩ := h.alone (by rw [hfree]; simp) m
  refine h.withMachine ((fits_iff_alone hout _ _ _).mpr (hx halone)) (iff_of_true rfl hin) ?_
  intro t ht
  rw [hfree]
  simp [ht.symm]

/-- A machine goes on with the mutex. -/
theorem Inv.keep (h : Inv s) {x : Machine} (hheld : (s.machine m).point.inside = true)
    (hx : Alone s.linkEnabled (s.machine m) → Alone s.linkEnabled x) (hin : x.point.inside = true) :
    Inv (s.withMachine m x) := by
  have hmutex := (h.machine_holds m).mpr hheld
  obtain ⟨hout, halone⟩ := h.alone (by rw [hmutex]; simp) m
  exact h.withMachine ((fits_iff_alone hout _ _ _).mpr (hx halone)) (iff_of_true hmutex hin)
    fun _ _ => Iff.rfl

/-- A machine lets go of the mutex. -/
theorem Inv.release (h : Inv s) {x : Machine} (hheld : (s.machine m).point.inside = true)
    (hx : Alone s.linkEnabled (s.machine m) → Alone s.linkEnabled x) (hout : x.point.inside = false) :
    Inv { s.withMachine m x with mutex := none } := by
  have hmutex := (h.machine_holds m).mpr hheld
  obtain ⟨hcontrol, halone⟩ := h.alone (by rw [hmutex]; simp) m
  refine h.withMachine ((fits_iff_alone hcontrol _ _ _).mpr (hx halone)) (by simp [hout]) ?_
  intro t ht
  rw [hmutex]
  simp [ht.symm]

/-- A machine's access outside the mutex. -/
theorem Inv.outside (h : Inv s) {x : Machine} (hbefore : (s.machine m).point.inside = false)
    (hx : Fits s.control s.linkEnabled m (s.machine m) → Fits s.control s.linkEnabled m x)
    (hafter : x.point.inside = false) : Inv (s.withMachine m x) := by
  have hholds := h.machine_holds m
  rw [hbefore, ← hafter] at hholds
  exact h.withMachine (hx (h.fits m)) hholds fun _ _ => Iff.rfl

/-- A machine's call begins or takes back its request, whatever it stands with. -/
theorem fits_outside {control : ControlPoint} {link : Bool} {x x' : Machine}
    (halone : ∀ old, Alone old x → Alone old x') (hasking : Asking x → Asking x')
    (hrequested : x.requested = false → x'.requested = false)
    (hcalls : x'.calls = x.calls) (hregistered : x'.registered = x.registered)
    (hending : x'.point = .endLock → x'.requested = false) (h : Fits control link m x) :
    Fits control link m x' := by
  unfold Fits at h ⊢
  split
  · rename_i hloop
    rw [hloop] at h
    exact halone link h
  · rename_i m' hloop
    rw [hloop] at h
    dsimp only at h
    have hold (hx : ∃ old, Alone old x) : ∃ old, Alone old x' := by
      obtain ⟨old, hx⟩ := hx
      exact ⟨old, halone old hx⟩
    split_ifs at h ⊢ with hbefore hat
    · exact halone link h
    · cases control with
      | requested enabled m => exact hold h
      | registered enabled m requested =>
        refine ⟨hold h.1, ?_⟩
        cases requested with
        | true => exact hasking h.2
        | false => exact hrequested h.2
      | begins m | store m =>
        unfold Current at h ⊢
        rw [hcalls, hregistered]
        exact ⟨h.1, h.2.1, h.2.2.1, hasking h.2.2.2.1, h.2.2.2.2⟩
      | clear m =>
        unfold Current at h ⊢
        rw [hregistered]
        exact ⟨hold h.1, h.2⟩
      | ends m =>
        unfold Current at h ⊢
        rw [hcalls, hregistered]
        exact ⟨h.1, h.2.1, h.2.2.1, h.2.2.2.1, hending⟩
      | _ => cases hloop
    · exact hold h

/-- **A machine's call keeps the invariant.** -/
theorem Inv.goOnMachine (h : Inv s) (m : Fin 2) : Inv (s.goOnMachine m) := by
  unfold Medium.goOnMachine
  dsimp only
  cases hpoint : (s.machine m).point with
  | idle => exact h
  | beginLock | endLock =>
    dsimp only
    by_cases hfree : s.mutex = none
    · rw [if_pos hfree]
      refine h.acquire hfree (fun halone => ?_) rfl
      simp only [Alone, hpoint] at halone
      exact halone
    · rw [if_neg hfree]
      exact h
  | endRequest =>
    refine h.outside (by rw [hpoint]; rfl) ?_ rfl
    refine fits_outside ?_ (fun _ => by simp [Asking]) (fun _ => rfl) rfl rfl fun _ => rfl
    intro old halone
    simp only [Alone, hpoint] at halone ⊢
    obtain ⟨halternates, htold, hregistered⟩ := halone
    refine ⟨halternates, htold, trivial, fun hon => ?_⟩
    rw [hregistered, Bool.and_eq_true] at hon
    exact hon.2
  | unlock =>
    refine h.release (by rw [hpoint]; rfl) (fun halone => ?_) rfl
    simp only [Alone, hpoint] at halone
    exact halone
  | beginAbort =>
    refine h.keep (by rw [hpoint]; rfl) (fun halone => ?_) (by cases s.abortRequested <;> rfl)
    simp only [Alone, hpoint] at halone
    cases s.abortRequested with
    | true => exact halone
    | false => exact halone
  | beginRequest =>
    refine h.keep (by rw [hpoint]; rfl) (fun halone => ?_) rfl
    simp only [Alone, hpoint] at halone
    obtain ⟨halternates, htold, hregistered⟩ := halone
    refine ⟨halternates, htold, rfl, fun hon => ?_⟩
    rw [show (s.machine m).registered = true from hon] at hregistered
    exact (Bool.and_eq_true_iff.mp hregistered.symm).2
  | beginLink =>
    refine h.keep (by rw [hpoint]; rfl) (fun halone => ?_) (by cases s.linkEnabled <;> rfl)
    simp only [Alone, hpoint] at halone
    obtain ⟨halternates, htold, hrequested, hlink⟩ := halone
    cases hlinked : s.linkEnabled with
    | true => exact ⟨halternates, htold, hrequested, rfl⟩
    | false =>
      rw [hlinked] at hlink
      refine ⟨halternates, htold, ?_⟩
      rw [Bool.and_false]
      exact eq_false_of_ne_true fun hon => Bool.false_ne_true (hlink hon)
  | beginRegistered =>
    refine h.keep (by rw [hpoint]; rfl) (fun halone => ?_)
      (by cases (s.machine m).registered <;> rfl)
    simp only [Alone, hpoint] at halone
    obtain ⟨halternates, htold, hrequested, hlink⟩ := halone
    by_cases hregistered : (s.machine m).registered = true
    · rw [if_pos hregistered]
      refine ⟨halternates, htold, ?_⟩
      rw [show (s.machine m).requested = true from hrequested, hlink]
      exact hregistered
    · rw [if_neg hregistered]
      exact ⟨halternates, mt htold.mp hregistered, eq_false_of_ne_true hregistered, hrequested,
        hlink⟩
  | beginCall =>
    refine h.keep (by rw [hpoint]; rfl) (fun halone => ?_) rfl
    simp only [Alone, hpoint] at halone
    obtain ⟨halternates, hclosed, hrest⟩ := halone
    exact ⟨halternates.begins hclosed, (open_append _ _).mpr hclosed, hrest⟩
  | beginStore =>
    refine h.keep (by rw [hpoint]; rfl) (fun halone => ?_) rfl
    simp only [Alone, hpoint] at halone
    obtain ⟨halternates, hopen, -, hrequested, hlink⟩ := halone
    refine ⟨halternates, iff_of_true hopen rfl, ?_⟩
    rw [show (s.machine m).requested = true from hrequested, hlink]
    rfl
  | endExchange =>
    refine h.keep (by rw [hpoint]; rfl) (fun halone => ?_)
      (by cases (s.machine m).registered <;> rfl)
    simp only [Alone, hpoint] at halone
    obtain ⟨halternates, htold, hrequested, -⟩ := halone
    by_cases hregistered : (s.machine m).registered = true
    · rw [if_pos hregistered]
      exact ⟨halternates, htold.mpr hregistered, rfl, hrequested⟩
    · rw [if_neg hregistered]
      refine ⟨halternates, htold.trans (iff_of_false hregistered nofun), ?_⟩
      rw [show (s.machine m).requested = false from hrequested]
      rfl
  | endCall =>
    refine h.keep (by rw [hpoint]; rfl) (fun halone => ?_) rfl
    simp only [Alone, hpoint] at halone
    obtain ⟨halternates, hopen, hregistered, hrequested⟩ := halone
    refine ⟨halternates.ends hopen, ?_, ?_⟩
    · refine iff_of_false ((open_append _ _).not.mpr (not_not.mpr hopen)) ?_
      rw [show (s.machine m).registered = false from hregistered]
      exact Bool.false_ne_true
    · rw [show (s.machine m).registered = false from hregistered,
        show (s.machine m).requested = false from hrequested]
      rfl

/-! ## The calling thread -/

/-- While the calling thread has the mutex, no machine is inside. -/
theorem Inv.outsiders (h : Inv s) (hin : s.control.inside = true) (m : Fin 2) :
    (s.machine m).point.inside = false := by
  cases hpoint : (s.machine m).point.inside with
  | false => rfl
  | true =>
    have hmutex := (h.machine_holds m).mpr hpoint
    rw [h.main_holds.mpr hin] at hmutex
    cases hmutex

/-- The calling thread's access that no machine sees, outside the loop. -/
theorem Inv.aside (h : Inv s) {control : ControlPoint} {mutex : Option MutexHolder}
    (hbefore : loopMachine s.control = none) (hafter : loopMachine control = none)
    (hmain : mutex = some .main ↔ control.inside = true)
    (hothers : ∀ m, mutex = some (.machine m) ↔ s.mutex = some (.machine m))
    (hallowed : control = .link true → s.videoRenderer = .software)
    (hlink : control = .rendererStore → s.linkEnabled = false) :
    Inv { s with mutex := mutex, control := control } where
  main_holds := hmain
  machine_holds m := (hothers m).trans (h.machine_holds m)
  fits m := (fits_iff_alone hafter _ _ _).mpr ((fits_iff_alone hbefore _ _ _).mp (h.fits m))
  apart := h.apart
  allowed := hallowed
  link_eq enabled hcontrol := by
    cases control <;> simp_all [linkAt, loopMachine]

/-- Behind a machine of the loop, the machines up to it fit the new link. -/
theorem fits_nextMachine {enabled link : Bool} {m m' : Fin 2} {x : Machine} :
    Fits (nextMachine enabled m) link m' x ↔ if m' ≤ m then Alone link x else ∃ old, Alone old x := by
  have hm : m = 0 ∨ m = 1 := by omega
  have hm' : m' = 0 ∨ m' = 1 := by omega
  rcases hm with rfl | rfl
  · rcases hm' with rfl | rfl
    · exact Iff.rfl
    · exact Iff.rfl
  · rw [if_pos (by omega)]
    exact Iff.rfl

theorem withMachine_self (s : Medium) (m : Fin 2) : s.withMachine m (s.machine m) = s := by
  obtain ⟨mutex, link, renderer, abort, control, machine⟩ := s
  have hsame : (fun m' => if m' = m then machine m else machine m') = machine := by
    funext m'
    split
    · rename_i heq
      rw [heq]
    · rfl
  simp only [Medium.withMachine, hsame]

theorem inside_nextMachine (enabled : Bool) (m : Fin 2) :
    (nextMachine enabled m).inside = true := by
  unfold nextMachine
  split <;> rfl

theorem linkAt_nextMachine {enabled enabled' : Bool} {m : Fin 2}
    (h : linkAt (nextMachine enabled m) = some enabled') : enabled = enabled' := by
  unfold nextMachine at h
  split at h
  · exact Option.some.inj h
  · cases h

theorem nextMachine_ne_link (enabled : Bool) (m : Fin 2) : nextMachine enabled m ≠ .link true := by
  unfold nextMachine
  split <;> simp

theorem Inv.current (h : Inv s) (hat : loopMachine s.control = some m) :
    (s.machine m).point.inside = false ∧ Current s.linkEnabled (s.machine m) s.control := by
  refine ⟨h.outsiders (inside_of_loopMachine hat) m, ?_⟩
  have hf := h.fits m
  unfold Fits at hf
  rw [hat] at hf
  simpa using hf

/-- **An access of the loop** concerns the machine the loop is at: those before it keep the new link,
those behind it the old one. -/
theorem Inv.loop (h : Inv s) (hat : loopMachine s.control = some m) {control : ControlPoint}
    {x : Machine} (hpoint : x.point = (s.machine m).point) (hin : control.inside = true)
    (hx : Fits control s.linkEnabled m x)
    (hbefore : ∀ m' x', m' < m → Alone s.linkEnabled x' → Fits control s.linkEnabled m' x')
    (hbehind : ∀ m' x', m < m' → (∃ old, Alone old x') → Fits control s.linkEnabled m' x')
    (hne : control ≠ .link true)
    (hlink : ∀ enabled, linkAt control = some enabled → s.linkEnabled = enabled) :
    Inv { s.withMachine m x with control := control } where
  main_holds := iff_of_true (h.main_holds.mpr (inside_of_loopMachine hat)) hin
  machine_holds m' := by
    by_cases hm : m' = m
    · subst hm
      simpa [Medium.withMachine, hpoint] using h.machine_holds m'
    · simpa [Medium.withMachine, hm] using h.machine_holds m'
  fits m' := by
    by_cases hm : m' = m
    · subst hm
      simpa [Medium.withMachine] using hx
    · have hf := h.fits m'
      unfold Fits at hf
      rw [hat] at hf
      dsimp only at hf
      rw [if_neg hm] at hf
      simp only [Medium.withMachine, if_neg hm]
      by_cases hlt : m' < m
      · rw [if_pos hlt] at hf
        exact hbefore m' _ hlt hf
      · rw [if_neg hlt] at hf
        exact hbehind m' _ (by omega) hf
  apart := h.apart
  allowed hc := absurd hc hne
  link_eq := hlink

/-- The loop stays at its machine. -/
theorem Inv.stay (h : Inv s) (hat : loopMachine s.control = some m) {control : ControlPoint}
    {x : Machine} (hat' : loopMachine control = some m) (hpoint : x.point = (s.machine m).point)
    (hx : Current s.linkEnabled x control)
    (hlink : ∀ enabled, linkAt control = some enabled → s.linkEnabled = enabled) :
    Inv { s.withMachine m x with control := control } := by
  have hfits (m' : Fin 2) (x' : Machine) : Fits control s.linkEnabled m' x' ↔
      if m' < m then Alone s.linkEnabled x' else
        if m' = m then Current s.linkEnabled x' control else ∃ old, Alone old x' := by
    unfold Fits
    rw [hat']
  refine h.loop hat hpoint (inside_of_loopMachine hat') ?_ ?_ ?_ ?_ hlink
  · rw [hfits, if_neg (by omega), if_pos rfl]
    exact hx
  · intro m' x' hlt halone
    rw [hfits, if_pos hlt]
    exact halone
  · intro m' x' hlt hold
    rw [hfits, if_neg (by omega), if_neg (by omega)]
    exact hold
  · rintro rfl
    cases hat'

/-- The loop goes on behind its machine. -/
theorem Inv.next (h : Inv s) (hat : loopMachine s.control = some m) {enabled : Bool} {x : Machine}
    (hpoint : x.point = (s.machine m).point) (hx : Alone s.linkEnabled x)
    (henabled : s.linkEnabled = enabled) :
    Inv { s.withMachine m x with control := nextMachine enabled m } := by
  refine h.loop hat hpoint (inside_nextMachine enabled m) ?_ ?_ ?_ (nextMachine_ne_link enabled m)
    fun enabled' hlink => henabled.trans (linkAt_nextMachine hlink)
  · rw [fits_nextMachine, if_pos (by omega)]
    exact hx
  · intro m' x' hlt halone
    rw [fits_nextMachine, if_pos (by omega)]
    exact halone
  · intro m' x' hlt hold
    rw [fits_nextMachine, if_neg (by omega)]
    exact hold

/-- The loop reads a machine and stays at it. -/
theorem Inv.stay_reading (h : Inv s) (hat : loopMachine s.control = some m)
    {control : ControlPoint} (hat' : loopMachine control = some m)
    (hx : Current s.linkEnabled (s.machine m) control)
    (hlink : ∀ enabled, linkAt control = some enabled → s.linkEnabled = enabled) :
    Inv { s with control := control } := by
  have hstay := h.stay hat hat' rfl hx hlink
  rwa [withMachine_self] at hstay

/-- The loop reads a machine and goes on behind it. -/
theorem Inv.next_reading (h : Inv s) (hat : loopMachine s.control = some m) {enabled : Bool}
    (hx : Alone s.linkEnabled (s.machine m)) (henabled : s.linkEnabled = enabled) :
    Inv { s with control := nextMachine enabled m } := by
  have hnext := h.next hat rfl hx henabled
  rwa [withMachine_self] at hnext

/-- The flag of a machine that is not inside agrees with its calls. -/
theorem Alone.told {old : Bool} {x : Machine} (h : Alone old x) (hout : x.point.inside = false) :
    Alternates x.calls ∧ Told x := by
  obtain ⟨halternates, hrest⟩ := h
  refine ⟨halternates, ?_⟩
  cases hpoint : x.point <;> rw [hpoint] at hout hrest <;> first | exact hrest.1 | cases hout

/-- A machine outside is registered only when it asks, unless it is about to end. -/
theorem Alone.requested {old : Bool} {x : Machine} (h : Alone old x)
    (hout : x.point.inside = false) (hpoint : x.point ≠ .endLock) (hon : x.registered = true) :
    x.requested = true := by
  obtain ⟨-, hrest⟩ := h
  have hregistered : x.registered = (x.requested && old) := by
    cases hp : x.point <;> rw [hp] at hout hrest hpoint <;>
      first | exact hrest.2 | exact absurd rfl hpoint | cases hout
  rw [hon] at hregistered
  exact (Bool.and_eq_true_iff.mp hregistered.symm).1

/-- A machine outside is registered only with the link. -/
theorem Alone.linked {link : Bool} {x : Machine} (h : Alone link x)
    (hout : x.point.inside = false) (hon : x.registered = true) : link = true := by
  obtain ⟨-, hrest⟩ := h
  by_cases hpoint : x.point = .endLock
  · rw [hpoint] at hrest
    exact hrest.2.2 hon
  · have hregistered : x.registered = (x.requested && link) := by
      cases hp : x.point <;> rw [hp] at hout hrest hpoint <;>
        first | exact hrest.2 | exact absurd rfl hpoint | cases hout
    rw [hon] at hregistered
    exact (Bool.and_eq_true_iff.mp hregistered.symm).2

/-- A machine outside asks for the medium when its flag says so. -/
theorem Alone.asking {old : Bool} {x : Machine} (h : Alone old x) (hrequested : x.requested = true) :
    Asking x := by
  unfold Asking
  split
  · rename_i hpoint
    obtain ⟨-, hrest⟩ := h
    rw [hpoint] at hrest
    exact absurd (hrest.2.1.symm.trans hrequested) Bool.false_ne_true
  · exact hrequested

/-- A machine outside fits the link when its flag does. -/
theorem alone_of_outside {link : Bool} {x : Machine} (hout : x.point.inside = false)
    (halternates : Alternates x.calls) (htold : Told x)
    (hregistered : if x.point = .endLock then x.requested = false ∧ (x.registered = true → link = true)
      else x.registered = (x.requested && link)) : Alone link x := by
  refine ⟨halternates, ?_⟩
  cases hpoint : x.point <;> rw [hpoint] at hout hregistered <;>
    first | exact ⟨htold, hregistered⟩ | cases hout

/-- **`SetLink` and `SetVideoRenderer` keep the invariant.** -/
theorem Inv.goOn (h : Inv s) (renderer : VideoRenderer) : Inv (s.goOn renderer) := by
  have hlinkAt := h.link_eq
  unfold Medium.goOn
  cases hcontrol : s.control with
  | idle => exact h
  | lock enabled =>
    dsimp only
    by_cases hfree : s.mutex = none
    · rw [if_pos hfree]
      exact h.aside (by rw [hcontrol]; rfl) rfl (by simp [ControlPoint.inside])
        (by simp [hfree]) (by simp) (by simp)
    · rw [if_neg hfree]
      exact h
  | renderer enabled =>
    have hmutex : s.mutex = some .main := h.main_holds.mpr (by rw [hcontrol]; rfl)
    dsimp only
    by_cases hrefused : enabled = true ∧ s.videoRenderer = .opengl
    · rw [if_pos hrefused]
      exact h.aside (by rw [hcontrol]; rfl) rfl (by simp [hmutex, ControlPoint.inside])
        (fun _ => Iff.rfl) (by simp) (by simp)
    · rw [if_neg hrefused]
      refine h.aside (by rw [hcontrol]; rfl) rfl (by simp [hmutex, ControlPoint.inside])
        (fun _ => Iff.rfl) ?_ (by simp)
      intro hlink
      cases hrenderer : s.videoRenderer with
      | software => rfl
      | opengl => exact absurd ⟨ControlPoint.link.inj hlink, hrenderer⟩ hrefused
  | link enabled =>
    have halone (m : Fin 2) : Alone s.linkEnabled (s.machine m) := by
      have hf := h.fits m
      rw [hcontrol] at hf
      exact hf
    exact
      { main_holds := iff_of_true (h.main_holds.mpr (by rw [hcontrol]; rfl)) rfl
        machine_holds := h.machine_holds
        fits := by
          intro m
          have hm : m = 0 ∨ m = 1 := by omega
          rcases hm with rfl | rfl
          · exact ⟨_, halone 0⟩
          · exact ⟨_, halone 1⟩
        apart := by
          intro hopengl
          cases enabled with
          | false => rfl
          | true => exact absurd (hopengl.symm.trans (h.allowed hcontrol)) (by decide)
        allowed := nofun
        link_eq := fun enabled' heq => Option.some.inj heq }
  | requested enabled m =>
    rw [hcontrol] at hlinkAt
    have hat : loopMachine s.control = some m := by rw [hcontrol]; rfl
    obtain ⟨hout, hcurrent⟩ := h.current hat
    rw [hcontrol] at hcurrent
    obtain ⟨old, halone⟩ := hcurrent
    refine h.stay_reading hat rfl ⟨⟨old, halone⟩, ?_⟩ hlinkAt
    by_cases hrequested : (s.machine m).requested = true
    · rw [if_pos hrequested]
      exact halone.asking hrequested
    · rw [if_neg hrequested]
      exact eq_false_of_ne_true hrequested
  | registered enabled m requested =>
    have hlink := hlinkAt enabled (by rw [hcontrol]; rfl)
    have hat : loopMachine s.control = some m := by rw [hcontrol]; rfl
    obtain ⟨hout, hcurrent⟩ := h.current hat
    rw [hcontrol] at hcurrent
    obtain ⟨⟨old, halone⟩, hrequested⟩ := hcurrent
    obtain ⟨halternates, htold⟩ := halone.told hout
    dsimp only
    by_cases hbegins : enabled = true ∧ requested = true ∧ (s.machine m).registered = false
    · obtain ⟨henabled, hasked, hoff⟩ := hbegins
      rw [if_pos ⟨henabled, hasked, hoff⟩]
      rw [if_pos hasked] at hrequested
      have hclosed : ¬Open (s.machine m).calls := by
        intro hopen
        exact Bool.false_ne_true (hoff.symm.trans (htold.mp hopen))
      exact h.stay_reading hat rfl
        ⟨halternates, hclosed, hoff, hrequested, hlink.trans henabled⟩
        fun enabled' heq => (hlink.trans henabled).trans (Option.some.inj heq)
    rw [if_neg hbegins]
    by_cases hclear : enabled = false ∧ (s.machine m).registered = true
    · rw [if_pos hclear]
      exact h.stay_reading hat rfl ⟨⟨old, halone⟩, hclear.2, hlink.trans hclear.1⟩
        fun enabled' heq => (hlink.trans hclear.1).trans (Option.some.inj heq)
    · rw [if_neg hclear]
      -- the flag is right already
      refine h.next_reading hat ?_ hlink
      refine alone_of_outside hout halternates htold ?_
      rw [not_and] at hclear
      cases enabled with
      | false =>
        have hoff : (s.machine m).registered = false := eq_false_of_ne_true (hclear rfl)
        rw [hoff, hlink, Bool.and_false]
        split
        · rename_i hpoint
          have hrest := halone.2
          rw [hpoint] at hrest
          exact ⟨hrest.2.1, nofun⟩
        · rfl
      | true =>
        rw [hlink, Bool.and_true]
        split
        · rename_i hpoint
          have hrest := halone.2
          rw [hpoint] at hrest
          exact ⟨hrest.2.1, fun _ => rfl⟩
        · rename_i hpoint
          by_cases hon : (s.machine m).registered = true
          · rw [hon, halone.requested hout hpoint hon]
          · have hoff := eq_false_of_ne_true hon
            have hnot : requested = false :=
              eq_false_of_ne_true fun hasked => hbegins ⟨rfl, hasked, hoff⟩
            rw [hnot] at hrequested
            rw [hoff]
            exact hrequested.symm
  | begins m =>
    rw [hcontrol] at hlinkAt
    have hat : loopMachine s.control = some m := by rw [hcontrol]; rfl
    obtain ⟨hout, hcurrent⟩ := h.current hat
    rw [hcontrol] at hcurrent
    obtain ⟨halternates, hclosed, hoff, hasking, hlink⟩ := hcurrent
    exact h.stay hat rfl rfl
      ⟨halternates.begins hclosed, (open_append _ _).mpr hclosed, hoff, hasking, hlink⟩ hlinkAt
  | store m =>
    have hat : loopMachine s.control = some m := by rw [hcontrol]; rfl
    obtain ⟨hout, hcurrent⟩ := h.current hat
    rw [hcontrol] at hcurrent
    obtain ⟨halternates, hopen, hoff, hasking, hlink⟩ := hcurrent
    refine h.next hat rfl ?_ hlink
    refine alone_of_outside hout halternates (iff_of_true hopen rfl) ?_
    unfold Asking at hasking
    dsimp only
    split
    · rename_i hpoint
      rw [if_pos hpoint] at hasking
      exact ⟨hasking, fun _ => hlink⟩
    · rename_i hpoint
      rw [if_neg hpoint] at hasking
      rw [hasking, hlink]
      rfl
  | clear m =>
    rw [hcontrol] at hlinkAt
    have hat : loopMachine s.control = some m := by rw [hcontrol]; rfl
    obtain ⟨hout, hcurrent⟩ := h.current hat
    rw [hcontrol] at hcurrent
    obtain ⟨⟨old, halone⟩, hon, hlink⟩ := hcurrent
    obtain ⟨halternates, htold⟩ := halone.told hout
    refine h.stay hat rfl rfl ⟨halternates, htold.mpr hon, rfl, hlink, fun hpoint => ?_⟩ hlinkAt
    have hrest := halone.2
    rw [show (s.machine m).point = .endLock from hpoint] at hrest
    exact hrest.2.1
  | ends m =>
    have hat : loopMachine s.control = some m := by rw [hcontrol]; rfl
    obtain ⟨hout, hcurrent⟩ := h.current hat
    rw [hcontrol] at hcurrent
    obtain ⟨halternates, hopen, hoff, hlink, hending⟩ := hcurrent
    refine h.next hat rfl ?_ hlink
    refine alone_of_outside hout (halternates.ends hopen) (iff_of_false ?_ ?_) ?_
    · exact (open_append _ _).not.mpr (not_not.mpr hopen)
    · rw [hoff]
      exact Bool.false_ne_true
    · dsimp only
      rw [hoff, hlink, Bool.and_false]
      split
      · rename_i hpoint
        exact ⟨hending hpoint, nofun⟩
      · rfl
  | unlock =>
    have hmutex : s.mutex = some .main := h.main_holds.mpr (by rw [hcontrol]; rfl)
    exact h.aside (by rw [hcontrol]; rfl) rfl (by simp [ControlPoint.inside]) (by simp [hmutex])
      (by simp) (by simp)
  | rendererLink =>
    have hmutex : s.mutex ≠ some .main := by
      rw [Ne, h.main_holds, hcontrol]
      simp [ControlPoint.inside]
    dsimp only
    by_cases hlinked : s.linkEnabled = true
    · rw [if_pos hlinked]
      exact h.aside (by rw [hcontrol]; rfl) rfl (iff_of_false hmutex nofun) (fun _ => Iff.rfl)
        nofun nofun
    · rw [if_neg hlinked]
      exact h.aside (by rw [hcontrol]; rfl) rfl (iff_of_false hmutex nofun) (fun _ => Iff.rfl)
        nofun (fun _ => eq_false_of_ne_true hlinked)
  | rendererStore =>
    have hmutex : s.mutex ≠ some .main := by
      rw [Ne, h.main_holds, hcontrol]
      simp [ControlPoint.inside]
    have hlinked := hlinkAt false (by rw [hcontrol]; rfl)
    have hidle : Inv { s with control := .idle } :=
      h.aside (by rw [hcontrol]; rfl) rfl (iff_of_false hmutex nofun) (fun _ => Iff.rfl) nofun nofun
    exact { hidle with apart := fun _ => hlinked, allowed := nofun }

/-! ## Every run -/

/-- A call of the calling thread begins. -/
theorem Inv.enter (h : Inv s) (hidle : s.control = .idle) {control : ControlPoint}
    (hin : control.inside = false) (hrenderer : control = .rendererStore → s.linkEnabled = false) :
    Inv { s with control := control } := by
  have hmutex : s.mutex ≠ some .main := by
    rw [Ne, h.main_holds, hidle]
    simp [ControlPoint.inside]
  have hloop : loopMachine control = none := by
    cases hloop : loopMachine control with
    | none => rfl
    | some m => exact absurd (hin.symm.trans (inside_of_loopMachine hloop)) Bool.false_ne_true
  refine h.aside (by rw [hidle]; rfl) hloop (iff_of_false hmutex ?_) (fun _ => Iff.rfl) ?_ hrenderer
  · rw [hin]
    exact Bool.false_ne_true
  · rintro rfl
    cases hin

theorem inv_start : Inv start where
  main_holds := iff_of_false nofun nofun
  machine_holds _ := iff_of_false nofun nofun
  fits m := by
    refine (fits_iff_alone rfl _ _ _).mpr ⟨?_, ?_, rfl⟩
    · exact fun i hi => absurd hi (Nat.not_lt_zero i)
    · exact iff_of_false nofun nofun
  apart := fun _ => rfl
  allowed := nofun
  link_eq := nofun

/-- **Every step keeps the invariant.** -/
theorem Inv.step (h : Inv s) (a : MediumAction) : Inv (s.step a) := by
  cases a with
  | setLink enabled =>
    unfold Medium.step
    dsimp only
    by_cases hidle : s.control = .idle
    · rw [if_pos hidle]
      exact h.enter hidle rfl nofun
    · rw [if_neg hidle]
      exact h
  | setVideoRenderer renderer =>
    unfold Medium.step
    dsimp only
    by_cases hidle : s.control = .idle ∧ renderer ≠ s.videoRenderer
    · rw [if_pos hidle]
      cases renderer with
      | opengl => exact h.enter hidle.1 rfl nofun
      | software =>
        refine h.enter hidle.1 rfl fun _ => h.apart ?_
        cases hrenderer : s.videoRenderer with
        | opengl => rfl
        | software => exact absurd hrenderer.symm hidle.2
    · rw [if_neg hidle]
      exact h
  | mpBegin m =>
    unfold Medium.step
    dsimp only
    by_cases hidle : (s.machine m).point = .idle
    · rw [if_pos hidle]
      refine h.outside (by rw [hidle]; rfl) ?_ rfl
      refine fits_outside ?_ ?_ id rfl rfl nofun
      · intro old halone
        simp only [Alone, hidle] at halone
        exact halone
      · unfold Asking
        rw [if_neg (by rw [hidle]; nofun), if_neg nofun]
        exact id
    · rw [if_neg hidle]
      exact h
  | mpEnd m =>
    unfold Medium.step
    dsimp only
    by_cases hidle : (s.machine m).point = .idle
    · rw [if_pos hidle]
      refine h.outside (by rw [hidle]; rfl) ?_ rfl
      refine fits_outside ?_ ?_ id rfl rfl nofun
      · intro old halone
        simp only [Alone, hidle] at halone
        exact halone
      · unfold Asking
        rw [if_neg (by rw [hidle]; nofun), if_neg nofun]
        exact id
    · rw [if_neg hidle]
      exact h
  | abort requested => exact { h with }
  | goOn renderer => exact h.goOn renderer
  | goOnMachine m => exact h.goOnMachine m

/-- No call is in progress. -/
def Quiet (s : Medium) : Prop :=
  s.control = .idle ∧ ∀ m, (s.machine m).point = .idle

theorem Fits.alternates {control : ControlPoint} {link : Bool} {x : Machine}
    (h : Fits control link m x) : Alternates x.calls := by
  unfold Fits at h
  split at h
  · exact h.1
  · rename_i m' hloop
    split_ifs at h
    · exact h.1
    · cases control with
      | requested enabled m =>
        obtain ⟨old, halone⟩ := h
        exact halone.1
      | registered enabled m requested | clear m =>
        obtain ⟨⟨old, halone⟩, -⟩ := h
        exact halone.1
      | begins m | store m | ends m => exact h.1
      | _ => cases hloop
    · obtain ⟨old, halone⟩ := h
      exact halone.1

/-- **The registration protocol.** However the calls interleave, `Begin` and `End` of a machine
alternate; whenever the mutex is free, a machine is registered exactly if `Begin` was the last of the
two, and only with the link and without OpenGL; and when no call is in progress it is registered
exactly if it asked for the medium and the link is on. -/
theorem registration_protocol (as : List MediumAction) :
    let s := run step start as
    (∀ m, Alternates (s.machine m).calls) ∧
      (s.mutex = none → ∀ m,
        ((s.machine m).registered = true ↔ (s.machine m).calls.getLast? = some .begins) ∧
          ((s.machine m).registered = true → s.linkEnabled = true) ∧
          (s.videoRenderer = .opengl → (s.machine m).registered = false)) ∧
      (s.Quiet → ∀ m,
        (s.machine m).registered = ((s.machine m).requested && s.linkEnabled)) := by
  intro s
  have h : Inv s := run_invariant (fun _ a h => h.step a) as inv_start
  refine ⟨fun m => (h.fits m).alternates, fun hfree m => ?_, fun hquiet m => ?_⟩
  · obtain ⟨-, halone⟩ := h.alone (by rw [hfree]; simp) m
    have hout : (s.machine m).point.inside = false := by
      cases hpoint : (s.machine m).point.inside with
      | false => rfl
      | true => exact absurd ((h.machine_holds m).mpr hpoint) (by rw [hfree]; simp)
    obtain ⟨halternates, htold⟩ := halone.told hout
    refine ⟨?_, halone.linked hout, fun hopengl => ?_⟩
    · rw [← halternates.open_iff]
      exact htold.symm
    · cases hregistered : (s.machine m).registered with
      | false => rfl
      | true =>
        have hlink := halone.linked hout hregistered
        exact absurd ((h.apart hopengl).symm.trans hlink) (by decide)
  · obtain ⟨-, hrest⟩ := (fits_iff_alone (by rw [hquiet.1]; rfl) _ _ _).mp (h.fits m)
    rw [hquiet.2 m] at hrest
    exact hrest.2

/-- The link is turned on, and the first machine joins the medium. -/
def joining : List MediumAction :=
  .setLink true :: List.replicate 8 (.goOn .software) ++
    .mpBegin 0 :: List.replicate 8 (.goOnMachine 0)

/-- Then it is registered, and its only call is a `Begin`. -/
theorem registration_protocol_joining :
    let s := run step start joining
    s.Quiet ∧ (s.machine 0).calls = [.begins] ∧ (s.machine 0).registered = true := by
  intro s
  have hquiet : s.Quiet := ⟨rfl, by decide⟩
  refine ⟨hquiet, rfl, ?_⟩
  rw [(registration_protocol joining).2.2 hquiet 0]
  rfl

end Medium

end DualBoy.Nds
