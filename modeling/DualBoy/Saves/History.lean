import DualBoy.Lib.Run
import DualBoy.Saves.Loaded

/-!
# Histories of a save manager

A history starts where an initialization ends: the guest runs, the frontend flushes and ticks. The
invariants of one region (`Region.Sound`, `Region.Durable`, `Region.Idle`) hold of what an
initialization loads and are carried through every step.

* `Loaded.sound`, `Loaded.durable`, `Loaded.idle`: what an initialization loads has them.
* **`Keeps.step`**: what a guest step and a flush keep, a history keeps.
-/

namespace DualBoy.Saves

open DualBoy.Lib

/-! ## What an initialization establishes -/

namespace Region

variable {fill : Byte} {fresh : List Byte} {r : Region}

/-- What the tracking of a region just loaded says, whether its extent is known or not. -/
structure Tracked (data : List Byte) (n : Nat) (report : Option Nat) (t : Tracking) : Prop where
  baseline : t.baseline = data
  loadedSize : t.loadedSize = n
  valid : t.valid = true
  hash : t.hash = memoryHash data t.size
  preserved : t.preservedSize ≤ n
  unknown : t.extentKnown = false → t.preservedSize = 0 ∧ t.size = n
  known : t.extentKnown = true → ∃ extent, report = some extent ∧
    (t.size ≤ t.flushSize extent ∨ t.size = t.loadedSize) ∧
    (t.flushSize extent < n → t.preservedSize = 0 ∧ bytesAreFill data extent n 0xff = true)

theorem tracked_loadedTracking (data : List Byte) (n : Nat) (report : Option Nat) :
    Tracked data n report (Loading.loadedTracking data n report) := by
  unfold Loading.loadedTracking
  cases report with
  | none =>
    exact
      { baseline := rfl
        loadedSize := rfl
        valid := rfl
        hash := rfl
        preserved := Nat.zero_le _
        unknown := fun _ => ⟨rfl, rfl⟩
        known := fun h => absurd h (by simp [Tracking.zero]) }
  | some extent =>
    dsimp only
    generalize ht : ({ Tracking.zero with
      loadedSize := n, size := n, hash := memoryHash data n, valid := true } : Tracking) = t
    have hpreserved : t.preservedSize = 0 := by rw [← ht]; rfl
    have hloaded : t.loadedSize = n := by rw [← ht]
    have hsize : t.size = n := by rw [← ht]
    have hhash : t.hash = memoryHash data n := by rw [← ht]
    have hcases := Tracking.initializeExtent_cases hpreserved data extent
    exact
      { baseline := rfl
        loadedSize := (Tracking.initializeExtent_loadedSize _ _ _).trans hloaded
        valid := rfl
        hash := by
          change (t.initializeExtent data extent).hash =
            memoryHash data (t.initializeExtent data extent).size
          rcases hcases with ⟨-, -, hsize', hhash'⟩ | ⟨-, -, -, -, hsize', hhash'⟩
          · rw [hhash', hsize']
          · rw [hhash', hsize', hhash, hsize]
        preserved := by
          change (t.initializeExtent data extent).preservedSize ≤ n
          rcases hcases with ⟨hle, -, -, -⟩ | ⟨hzero, -, -, -, -, -⟩
          · omega
          · omega
        unknown := fun h => absurd h (by simp)
        known := by
          intro _
          refine ⟨extent, rfl, ?_, ?_⟩
          · rcases hcases with ⟨-, -, hsize', -⟩ | ⟨-, -, -, -, hsize', -⟩
            · exact Or.inl (Nat.le_of_eq hsize')
            · right
              exact hsize'.trans (hsize.trans
                (hloaded.symm.trans (Tracking.initializeExtent_loadedSize _ _ _).symm))
          · intro hlt
            rcases hcases with ⟨-, hle, -, -⟩ | ⟨hzero, -, -, hfill, -, -⟩
            · rw [hloaded] at hle
              exact absurd hlt (Nat.not_lt.mpr hle)
            · rw [hloaded] at hfill
              exact ⟨hzero, hfill⟩ }

/-- The size, the tracking and the bytes of a region just loaded. -/
theorem Loaded.tracked (h : r.Loaded fill fresh) :
    ∃ n, Tracked r.data n r.report r.tracking ∧ n ≤ r.data.length ∧
      (r.file = .missing ∧ n = 0 ∧ r.data = fresh ∨
        ∃ bytes, r.file = .regular bytes ∧ bytes.length = n ∧ r.data = pad r.data.length fill bytes) := by
  cases h with
  | fresh hfile hdata htracking =>
    refine ⟨0, ?_, Nat.zero_le _, Or.inl ⟨hfile, rfl, hdata⟩⟩
    rw [htracking]
    exact tracked_loadedTracking _ _ _
  | @file bytes hfile hfits hdata htracking =>
    refine ⟨bytes.length, ?_, hfits, Or.inr ⟨bytes, hfile, rfl, hdata⟩⟩
    rw [htracking]
    exact tracked_loadedTracking _ _ _

theorem Loaded.sound (h : r.Loaded fill fresh) (first : Nat)
    (hbounded : ∀ extent, r.report = some extent → extent ≤ r.data.length) : r.Sound first := by
  obtain ⟨n, ht, hfits, hfile⟩ := h.tracked
  exact
    { file := by
        rw [ht.loadedSize]
        rcases hfile with ⟨hmissing, hn, -⟩ | ⟨bytes, hregular, hn, -⟩
        · exact Or.inl ⟨hmissing, hn⟩
        · exact Or.inr ⟨bytes, hregular, hn⟩
      fits := by
        rw [ht.loadedSize]
        exact hfits
      preserved := by
        rw [ht.loadedSize]
        exact ht.preserved
      bounded := hbounded
      agree := by
        intro bytes hregular i _ hi
        rcases hfile with ⟨hmissing, -, -⟩ | ⟨bytes', hregular', hn, hdata⟩
        · exact absurd (hmissing.symm.trans hregular) (by simp)
        · obtain rfl := FileState.regular.inj (hregular.symm.trans hregular')
          rw [hdata, getElem?_pad_left hi]
      unknown := by
        intro hunknown
        rw [ht.loadedSize]
        exact ⟨(ht.unknown hunknown).1, ht.valid, (ht.unknown hunknown).2⟩
      known := by
        intro hknown
        obtain ⟨extent, hreport, -, htail⟩ := ht.known hknown
        refine ⟨extent, hreport, fun hlt => ?_⟩
        rw [ht.loadedSize] at hlt ⊢
        obtain ⟨hzero, hfill⟩ := htail hlt
        exact ⟨hzero, (Tracking.bytesAreFill_iff hfits).mp hfill⟩ }

theorem Loaded.reload_eq (h : r.Loaded fill fresh) : r.reload fill fresh = r.data := by
  obtain ⟨n, -, -, ⟨hmissing, -, hdata⟩ | ⟨bytes, hregular, -, hdata⟩⟩ := h.tracked
  · unfold reload
    rw [hmissing, hdata]
  · unfold reload
    rw [hregular]
    exact hdata.symm

/-- A region just loaded is durable if what it held before was blank, or its extent is always the
whole of it. -/
theorem Loaded.durable (h : r.Loaded fill fresh) (first : Nat) {full : Prop}
    (hbounded : ∀ extent, r.report = some extent → extent ≤ r.data.length)
    (hlength : fresh.length = r.data.length) (hblank : (∀ byte ∈ fresh, byte = fill) ∨ full)
    (hfull : full → ∀ extent, r.report = some extent → extent = r.data.length) :
    r.Durable first fill fresh full := by
  obtain ⟨n, ht, hfits, hfile⟩ := h.tracked
  exact
    { h.sound first hbounded with
      fresh_length := hlength
      baseline := ht.baseline.trans h.reload_eq.symm
      hash := fun _ => by
        rw [h.reload_eq]
        exact ht.hash
      whole := hfull
      blank := by
        intro hnot i _ hlow hhigh
        rw [ht.loadedSize] at hlow
        rcases hfile with ⟨-, -, hdata⟩ | ⟨bytes, -, hn, hdata⟩
        · have hall := hblank.resolve_right hnot
          rw [List.getElem?_eq_getElem hhigh]
          exact congrArg some (hall _ (hdata ▸ List.getElem_mem hhigh))
        · rw [hdata]
          exact getElem?_pad_right (by omega) hhigh }

theorem Loaded.idle (h : r.Loaded fill fresh)
    (hbounded : ∀ extent, r.report = some extent → extent ≤ r.data.length) (hne : r.data ≠ []) :
    r.Idle := by
  obtain ⟨n, ht, hfits, hfile⟩ := h.tracked
  exact
    { h.sound 0 hbounded with
      nonempty := hne
      valid := ht.valid
      baseline := ht.baseline
      hash := ht.hash
      isPrefix := by
        intro bytes hregular
        rcases hfile with ⟨hmissing, -, -⟩ | ⟨bytes', hregular', hn, hdata⟩
        · exact absurd (hmissing.symm.trans hregular) (by simp)
        · obtain rfl := FileState.regular.inj (hregular.symm.trans hregular')
          rw [hdata, take_pad (Nat.le_refl _), List.take_length]
      size := by
        intro extent hknown hreport
        obtain ⟨extent', hreport', hsize, -⟩ := ht.known hknown
        obtain rfl := Option.some.inj (hreport.symm.trans hreport')
        exact hsize }

end Region

/-! ## Steps of a session -/

/-- What happens to a session: the guest runs and leaves the engine in another state, or the frontend
flushes or ticks. -/
inductive Event where
  | guest (engine : Engine)
  | flush (disk : Disk)
  | tick (disk : Disk)

/-- A world with the extents reported so far. -/
structure Chronicle where
  world : World
  known : Fin 2 → MemoryKind → Option Nat

namespace Chronicle

/-- The reports of an engine; one that fails or does not know leaves what was known. -/
def heard (c : Chronicle) (e : Engine) (i : Fin 2) (kind : MemoryKind) : Option Nat :=
  (e.report i kind).or (c.known i kind)

def step (c : Chronicle) : Event → Chronicle
  | .guest e => { world := { c.world with engine := e }, known := c.heard e }
  | .flush disk => { c with world := (c.world.flush disk).1 }
  | .tick disk => { c with world := (c.world.tick disk).1 }

/-- A session that begins. -/
def begin (w : World) : Chronicle where
  world := w
  known := w.engine.report

/-- A region as it stands. -/
def region (c : Chronicle) (i : Fin 2) (kind : MemoryKind) : Region :=
  c.world.region c.known i kind

/-- What the guest does to one region: its size stays, its extent becomes known at `first` or above
and does not decrease, and the bytes past it are left alone. -/
structure GuestRuns (i : Fin 2) (kind : MemoryKind) (first : Nat) (c : Chronicle) (e : Engine) :
    Prop where
  size : ((e.memory i kind).getD []).length = (c.world.data i kind).length
  grows : Region.Grows first (c.known i kind) (c.heard e i kind)
  frame : AgreeFrom (Region.bound first (c.heard e i kind)) ((e.memory i kind).getD [])
    (c.world.data i kind)

/-- The event makes a flush. -/
def Flushes (c : Chronicle) : Event → Prop
  | .guest _ => False
  | .flush _ => True
  | .tick _ => c.world.manager.initialized = true ∧
      flushIntervalFrames ≤ c.world.manager.framesSinceFlush + 1

/-- A condition on what the guest does. -/
def OnGuest (p : Chronicle → Engine → Prop) (c : Chronicle) : Event → Prop
  | .guest e => p c e
  | .flush _ => True
  | .tick _ => True

/-- An invariant of the regions together with what it says of every write tried. -/
structure Keeps (P : Fin 2 → MemoryKind → Region → Prop) (Q : Attempt → Prop) (c : Chronicle) :
    Prop where
  distinct : c.world.manager.Distinct
  current : ∀ i kind extent, c.world.Due i kind extent → c.known i kind = some extent
  region : ∀ i kind, c.world.manager.coreManaged i kind = true → P i kind (c.region i kind)
  log : ∀ a ∈ c.world.log, Q a

variable {i : Fin 2} {kind : MemoryKind} {first : Nat} {c : Chronicle} {e : Engine} {disk : Disk}
  {P : Fin 2 → MemoryKind → Region → Prop} {Q : Attempt → Prop}

theorem GuestRuns.runs (h : GuestRuns i kind first c e)
    (hbounded : ∀ extent, c.known i kind = some extent → extent ≤ (c.world.data i kind).length) :
    Region.Runs first (c.region i kind) ((c.step (.guest e)).region i kind) where
  length := h.size
  grows := h.grows
  bounded := by
    intro extent hknown
    change c.heard e i kind = some extent at hknown
    change extent ≤ ((e.memory i kind).getD []).length
    unfold heard at hknown
    cases hreport : e.report i kind with
    | none =>
      rw [hreport] at hknown
      rw [h.size]
      exact hbounded extent hknown
    | some extent' =>
      rw [hreport] at hknown
      obtain rfl := Option.some.inj hknown
      unfold Engine.report at hreport
      split at hreport
      · rename_i hextent
        rw [hreport] at hextent
        exact Engine.persistentExtent_le hextent
      · exact absurd hreport (by simp)
  frame := h.frame
  file := rfl
  tracking := rfl

/-- The guest touches neither the manager nor the files. -/
theorem Keeps.guest (h : Keeps P Q c) (e : Engine)
    (hruns : ∀ i kind, c.world.manager.coreManaged i kind = true → P i kind (c.region i kind) →
      P i kind ((c.step (.guest e)).region i kind)) : Keeps P Q (c.step (.guest e)) where
  distinct := h.distinct
  current := by
    intro i kind extent hdue
    have hreports : e.persistentExtent i kind ((e.memory i kind).getD []).length = .ok (some extent) :=
      hdue.reports
    have hreport : e.report i kind = some extent := by
      unfold Engine.report
      rw [hreports]
    change (e.report i kind).or _ = _
    rw [hreport]
    rfl
  region := fun i kind hmanaged => hruns i kind hmanaged (h.region i kind hmanaged)
  log := h.log

/-- A flush keeps an invariant that the turn of each region keeps. -/
theorem Keeps.flush (h : Keeps P Q c) (disk : Disk)
    (hturn : ∀ i kind extent, c.world.Due i kind extent → P i kind (c.region i kind) →
      P i kind (c.world.turned c.known disk i kind extent))
    (hattempt : ∀ i kind extent, c.world.Due i kind extent → P i kind (c.region i kind) →
      c.world.Writes i kind extent → Q (c.world.attempt disk i kind extent)) :
    Keeps P Q (c.step (.flush disk)) := by
  have hflushed := World.flushed_flush c.known h.distinct disk
  obtain ⟨tracked, frames, hmanager⟩ := hflushed.manager
  obtain ⟨new, hlog, hnew⟩ := hflushed.log
  have hmanaged : (c.world.flush disk).1.manager.coreManaged = c.world.manager.coreManaged := by
    rw [hmanager]
  exact
    { distinct := by
        change (c.world.flush disk).1.manager.Distinct
        rw [hmanager]
        exact h.distinct
      current := fun i kind extent hdue =>
        h.current i kind extent ((World.due_congr hmanaged hflushed.memory hflushed.extents).mp hdue)
      region := by
        intro i kind hi
        have hi' : c.world.manager.coreManaged i kind = true := hmanaged ▸ hi
        change P i kind ((c.world.flush disk).1.region c.known i kind)
        rcases hflushed.region i kind hi' with hsame | ⟨extent, hdue, hturned⟩
        · rw [hsame]
          exact h.region i kind hi'
        · rw [hturned]
          exact hturn i kind extent hdue (h.region i kind hi')
      log := by
        intro a ha
        change a ∈ (c.world.flush disk).1.log at ha
        rw [hlog, List.mem_append] at ha
        rcases ha with ha | ha
        · obtain ⟨i, kind, extent, hdue, hwrites, rfl⟩ := hnew a ha
          exact hattempt i kind extent hdue (h.region i kind hdue.managed) hwrites
        · exact h.log a ha }

/-- A tick only counts, or it counts and flushes. -/
theorem step_tick (c : Chronicle) (disk : Disk) :
    (¬c.Flushes (.tick disk) ∧ ∃ frames, c.step (.tick disk) =
      { c with world := { c.world with
        manager := { c.world.manager with framesSinceFlush := frames } } }) ∨
    c.Flushes (.tick disk) ∧ ∃ frames, c.step (.tick disk) =
      Chronicle.step { c with world := { c.world with
        manager := { c.world.manager with framesSinceFlush := frames } } } (.flush disk) := by
  have hstep : c.step (.tick disk) = { c with world := (c.world.tick disk).1 } := rfl
  rw [hstep]
  unfold World.tick
  by_cases hinitialized : c.world.manager.initialized = false
  · rw [if_pos hinitialized]
    refine Or.inl ⟨fun h => ?_, c.world.manager.framesSinceFlush, rfl⟩
    exact absurd (hinitialized.symm.trans h.1) (by simp)
  · rw [if_neg hinitialized]
    dsimp only
    by_cases hearly : c.world.manager.framesSinceFlush + 1 < flushIntervalFrames
    · rw [if_pos hearly]
      exact Or.inl ⟨fun h => absurd hearly (BitVec.not_lt.mpr h.2), _, rfl⟩
    · rw [if_neg hearly]
      exact Or.inr ⟨⟨by simpa using hinitialized, BitVec.not_lt.mp hearly⟩, _, rfl⟩

/-- **One step of a history.** -/
theorem Keeps.step (h : Keeps P Q c) (a : Event)
    (hruns : ∀ e, a = .guest e → ∀ i kind, c.world.manager.coreManaged i kind = true →
      P i kind (c.region i kind) → P i kind ((c.step (.guest e)).region i kind))
    (hturn : c.Flushes a → ∀ disk i kind extent, c.world.Due i kind extent →
      P i kind (c.region i kind) → P i kind (c.world.turned c.known disk i kind extent))
    (hattempt : c.Flushes a → ∀ disk i kind extent, c.world.Due i kind extent →
      P i kind (c.region i kind) → c.world.Writes i kind extent →
      Q (c.world.attempt disk i kind extent)) : Keeps P Q (c.step a) := by
  cases a with
  | guest e => exact h.guest e (hruns e rfl)
  | flush disk => exact h.flush disk (hturn trivial disk) (hattempt trivial disk)
  | tick disk =>
    -- the frame counter is none of the regions' business
    have hcount (frames : BitVec 64) : Keeps P Q
        { c with world := { c.world with
          manager := { c.world.manager with framesSinceFlush := frames } } } :=
      ⟨h.distinct, fun i kind extent hdue => h.current i kind extent ⟨hdue.1, hdue.2, hdue.3⟩,
        h.region, h.log⟩
    rcases step_tick c disk with ⟨-, frames, hstep⟩ | ⟨hflushes, frames, hstep⟩
    · rw [hstep]
      exact hcount frames
    · rw [hstep]
      refine (hcount frames).flush disk ?_ ?_
      · intro i kind extent hdue hP
        exact hturn hflushes disk i kind extent ⟨hdue.1, hdue.2, hdue.3⟩ hP
      · intro i kind extent hdue hP hwrites
        exact hattempt hflushes disk i kind extent ⟨hdue.1, hdue.2, hdue.3⟩ hP hwrites

end Chronicle

end DualBoy.Saves
