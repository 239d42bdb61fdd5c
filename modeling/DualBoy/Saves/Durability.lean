import DualBoy.Saves.History

/-!
# What flushes guarantee

The three guarantees of a session that owns its files, over every history of it.

* `flush_discards_nothing`: no write of a flush drops a byte other than `0xff`, and none changes a
  byte past the extent.
* `idle_region_only_shrinks`: a region nobody writes to is written once at most, to cut off a blank
  tail.
* `flush_is_durable`: after a flush that returns true, a reload gives the live bytes.
-/

namespace DualBoy.Saves

open DualBoy.Lib

variable {s : Setup} {e : Engine} {files : Files Path} {m : Manager} {w : World} {i : Fin 2}
  {kind : MemoryKind} {events : List Event}

/-- A session that begins with these files. -/
def Initialized.begin (r : Initialized) (m : Manager) : Chronicle :=
  .begin (r.world m)

/-- Extents reported by a region that begins are at most its size. -/
theorem Chronicle.begin_bounded {extent : Nat}
    (hreport : ((Chronicle.begin w).region i kind).report = some extent) :
    extent ≤ ((Chronicle.begin w).region i kind).data.length := by
  change w.engine.report i kind = some extent at hreport
  unfold Engine.report at hreport
  split at hreport
  · rename_i hextent
    rw [hreport] at hextent
    exact Engine.persistentExtent_le hextent
  · exact absurd hreport (by simp)

theorem Begun.keeps {P : Fin 2 → MemoryKind → Region → Prop} {Q : Attempt → Prop} (h : Begun e w)
    (hlog : w.log = [])
    (hP : ∀ i kind, w.manager.coreManaged i kind = true → P i kind ((Chronicle.begin w).region i kind)) :
    Chronicle.Keeps P Q (Chronicle.begin w) where
  distinct := h.distinct
  current := by
    intro i kind extent hdue
    change w.engine.report i kind = some extent
    unfold Engine.report
    rw [show w.engine.persistentExtent i kind ((w.engine.memory i kind).getD []).length = _ from
      hdue.reports]
  region := hP
  log := by
    intro a ha
    change a ∈ w.log at ha
    rw [hlog] at ha
    exact absurd ha (by simp)

/-- Every history changes files only by the writes it logs. -/
theorem Chronicle.logged_run (events : List Event) {c : Chronicle} (h : c.world.Logged files) :
    (run Chronicle.step c events).world.Logged files := by
  have hstep (c : Chronicle) (a : Event) (hlogged : c.world.Logged files) :
      (c.step a).world.Logged files := by
    cases a with
    | guest e => exact hlogged
    | flush disk => exact hlogged.flush disk
    | tick disk =>
      rcases Chronicle.step_tick c disk with ⟨-, frames, hstep⟩ | ⟨-, frames, hstep⟩
      · rw [hstep]
        exact hlogged
      · rw [hstep]
        exact World.Logged.flush (w := { c.world with
          manager := { c.world.manager with framesSinceFlush := frames } }) hlogged disk
  exact run_invariant hstep events h

/-! ## Nothing is discarded -/

/-- A write keeps every byte of the file it replaces that it cannot classify: past its end that file
had only `0xff`, and past the extent it has the same bytes. -/
def Attempt.Preserves (a : Attempt) : Prop :=
  ∀ bytes, a.before = .regular bytes →
    (∀ i, a.bytes.length ≤ i → i < bytes.length → bytes[i]? = some 0xff) ∧
      ∀ i, a.extent ≤ i → i < a.bytes.length → i < bytes.length → a.bytes[i]? = bytes[i]?

/-- The write of a sound region preserves what it replaces. -/
theorem Chronicle.attempt_preserves {c : Chronicle} {extent first : Nat}
    (hcurrent : c.known i kind = some extent) (hsound : (c.region i kind).Sound first) (disk : Disk) :
    (c.world.attempt disk i kind extent).Preserves := by
  intro bytes hbefore
  have hlength : (c.world.attempt disk i kind extent).bytes.length =
      (c.world.learned i kind extent).flushSize extent :=
    List.length_take_of_le (hsound.learned hcurrent (c.world.engine.dirty i)).size_le
  obtain ⟨hdrops, hkeeps⟩ := hsound.write hcurrent (c.world.engine.dirty i) hbefore
  rw [hlength]
  exact ⟨hdrops, hkeeps⟩

/-- **A flush never discards data it cannot classify.** -/
theorem flush_discards_nothing (hinit : (init s e files).manager = .ok m)
    (howner : m.writeOwner = true) (first : Fin 2 → MemoryKind → Nat)
    (hrun : Along Chronicle.step (Chronicle.OnGuest fun c e' => ∀ i kind,
      c.world.manager.coreManaged i kind = true → Chronicle.GuestRuns i kind (first i kind) c e')
      ((init s e files).begin m) events) :
    let c := run Chronicle.step ((init s e files).begin m) events
    (∀ a ∈ c.world.log, a.Preserves) ∧ c.world.Logged (init s e files).files := by
  have hbegun := loaded_of_init hinit howner
  refine ⟨?_, Chronicle.logged_run events rfl⟩
  have hkeeps : Chronicle.Keeps
      (fun i kind r => r.data = [] ∨ r.Sound (first i kind)) Attempt.Preserves
      (run Chronicle.step ((init s e files).begin m) events) := by
    refine hrun.invariant ?_ ?_
    · intro c a hkeeps hguest
      refine hkeeps.step a ?_ ?_ ?_
      · rintro e' rfl i kind hmanaged (hempty | hsound)
        · left
          have hsize := (hguest i kind hmanaged).size
          rw [show c.world.data i kind = [] from hempty] at hsize
          exact List.length_eq_zero_iff.mp hsize
        · have hbounded : ∀ extent, c.known i kind = some extent →
              extent ≤ (c.world.data i kind).length := hsound.bounded
          exact Or.inr (hsound.runs ((hguest i kind hmanaged).runs hbounded))
      · intro _ disk i kind extent hdue hsound
        have hsound := hsound.resolve_left hdue.nonempty
        exact Or.inr (hsound.turn (hkeeps.current i kind extent hdue) _ _ _)
      · intro _ disk i kind extent hdue hsound _
        have hsound := hsound.resolve_left hdue.nonempty
        exact Chronicle.attempt_preserves (hkeeps.current i kind extent hdue) hsound disk
    · refine hbegun.keeps rfl fun i kind hmanaged => ?_
      by_cases hempty : ((init s e files).world m).data i kind = []
      · exact Or.inl hempty
      · exact Or.inr ((hbegun.region i kind hmanaged hempty).1.sound _ fun _ => Chronicle.begin_bounded)
  exact hkeeps.log

/-! ## Regions nobody writes to -/

/-- A write only cuts a tail of `0xff` off the file, down to the extent. -/
def Attempt.Shrinks (a : Attempt) : Prop :=
  ∃ bytes, a.before = .regular bytes ∧ a.extent < bytes.length ∧
    (∀ i, a.extent ≤ i → i < bytes.length → bytes[i]? = some 0xff) ∧ a.bytes = bytes.take a.extent

/-- What the guest does to a region it leaves alone: its extent may become known and grow. -/
structure Chronicle.LeavesAlone (i : Fin 2) (kind : MemoryKind) (c : Chronicle) (e : Engine) :
    Prop where
  bytes : (e.memory i kind).getD [] = c.world.data i kind
  grows : Region.Grows 0 (c.known i kind) (c.heard e i kind)

theorem Chronicle.LeavesAlone.guestRuns {c : Chronicle} (h : c.LeavesAlone i kind e) :
    Chronicle.GuestRuns i kind 0 c e where
  size := congrArg List.length h.bytes
  grows := h.grows
  frame := by
    rw [h.bytes]
    exact AgreeFrom.refl _ _

theorem idle_history (hinit : (init s e files).manager = .ok m) (howner : m.writeOwner = true)
    (i : Fin 2) (kind : MemoryKind)
    (hrun : Along Chronicle.step (fun c a => c.world.engine.dirty i = false ∧
      c.OnGuest (Chronicle.LeavesAlone i kind) a) ((init s e files).begin m) events) :
    Chronicle.Keeps (fun j kind' r => j = i → kind' = kind → r.data = [] ∨ r.Idle)
      (fun a => a.machine = i → a.kind = kind → a.Shrinks)
      (run Chronicle.step ((init s e files).begin m) events) := by
  have hbegun := loaded_of_init hinit howner
  refine hrun.invariant ?_ ?_
  · rintro c a hkeeps ⟨hdirty, hguest⟩
    refine hkeeps.step a ?_ ?_ ?_
    · rintro e' rfl j kind' hmanaged hidle rfl rfl
      have halone : c.LeavesAlone j kind' e' := hguest
      rcases hidle rfl rfl with hempty | hidle
      · exact Or.inl (halone.bytes.trans hempty)
      · have hbounded : ∀ extent, c.known j kind' = some extent →
            extent ≤ (c.world.data j kind').length := hidle.bounded
        exact Or.inr (hidle.runs (halone.guestRuns.runs hbounded) halone.bytes)
    · rintro - disk j kind' extent hdue hidle rfl rfl
      have hidle := (hidle rfl rfl).resolve_left hdue.nonempty
      right
      unfold World.turned
      rw [hdirty]
      exact hidle.turn (hkeeps.current j kind' extent hdue) _ _
    · intro _ disk j kind' extent hdue hidle hwrites hj hkind
      obtain rfl : j = i := hj
      obtain rfl : kind' = kind := hkind
      have hidle := (hidle rfl rfl).resolve_left hdue.nonempty
      unfold World.Writes World.learned at hwrites
      rw [hdirty] at hwrites
      obtain ⟨bytes, hfile, hlt, hblank, hbytes⟩ :=
        hidle.write (hkeeps.current j kind' extent hdue) hwrites
      refine ⟨bytes, hfile, hlt, hblank, ?_⟩
      unfold World.attempt World.learned
      rw [hdirty]
      exact hbytes
  · refine hbegun.keeps rfl ?_
    rintro j kind' hmanaged rfl rfl
    by_cases hempty : ((init s e files).world m).data j kind' = []
    · exact Or.inl hempty
    · exact Or.inr ((hbegun.region j kind' hmanaged hempty).1.idle
        (fun _ => Chronicle.begin_bounded) hempty)

/-- A manager keeps its paths, its regions and its ownership. -/
theorem Chronicle.manager_run (events : List Event) (c : Chronicle)
    (hdistinct : c.world.manager.Distinct) :
    let c' := run Chronicle.step c events
    c'.world.manager.Distinct ∧ c'.world.manager.initialized = c.world.manager.initialized ∧
      c'.world.manager.writeOwner = c.world.manager.writeOwner := by
  have hflush (w : World) (hw : w.manager.Distinct) (disk : Disk) :
      (w.flush disk).1.manager.Distinct ∧
        (w.flush disk).1.manager.initialized = w.manager.initialized ∧
        (w.flush disk).1.manager.writeOwner = w.manager.writeOwner := by
    obtain ⟨tracked, frames, hmanager⟩ :=
      (World.flushed_flush (fun _ _ => none) hw disk).manager
    rw [hmanager]
    exact ⟨hw, rfl, rfl⟩
  have hstep (c' : Chronicle) (a : Event)
      (h : c'.world.manager.Distinct ∧ c'.world.manager.initialized = c.world.manager.initialized ∧
        c'.world.manager.writeOwner = c.world.manager.writeOwner) :
      (c'.step a).world.manager.Distinct ∧
        (c'.step a).world.manager.initialized = c.world.manager.initialized ∧
        (c'.step a).world.manager.writeOwner = c.world.manager.writeOwner := by
    obtain ⟨hd, hi, ho⟩ := h
    cases a with
    | guest e => exact ⟨hd, hi, ho⟩
    | flush disk =>
      obtain ⟨hd', hi', ho'⟩ := hflush c'.world hd disk
      exact ⟨hd', hi'.trans hi, ho'.trans ho⟩
    | tick disk =>
      rcases Chronicle.step_tick c' disk with ⟨-, frames, hstep⟩ | ⟨-, frames, hstep⟩
      · rw [hstep]
        exact ⟨hd, hi, ho⟩
      · rw [hstep]
        obtain ⟨hd', hi', ho'⟩ := hflush { c'.world with
          manager := { c'.world.manager with framesSinceFlush := frames } } hd disk
        exact ⟨hd', hi'.trans hi, ho'.trans ho⟩
  exact run_invariant hstep events ⟨hdistinct, rfl, rfl⟩

/-- **No guest write, no disk write.** -/
theorem idle_region_only_shrinks (hinit : (init s e files).manager = .ok m)
    (howner : m.writeOwner = true) (i : Fin 2) (kind : MemoryKind) :
    (∀ events, Along Chronicle.step (fun c a => c.world.engine.dirty i = false ∧
        c.OnGuest (Chronicle.LeavesAlone i kind) a) ((init s e files).begin m) events →
      let c := run Chronicle.step ((init s e files).begin m) events
      (∀ a ∈ c.world.log, a.machine = i → a.kind = kind → a.Shrinks) ∧
        c.world.Logged (init s e files).files) ∧
    ∀ events disk disk' e',
      let c := run Chronicle.step ((init s e files).begin m) events
      c.world.engine.loaded = true → (c.world.flush disk).2 = none →
      e'.memory = c.world.engine.memory →
      e'.persistentMemoryExtent = c.world.engine.persistentMemoryExtent →
      (World.flush disk' { (c.world.flush disk).1 with engine := e' }).1.log =
        (c.world.flush disk).1.log := by
  have hbegun := loaded_of_init hinit howner
  refine ⟨fun events hrun => ⟨(idle_history hinit howner i kind hrun).log,
    Chronicle.logged_run events rfl⟩, ?_⟩
  intro events disk disk' e' c hloaded hnone hmemory hextents
  obtain ⟨hdistinct, hinitialized, howner'⟩ :=
    Chronicle.manager_run events ((init s e files).begin m) hbegun.distinct
  have hactive : c.world.Active :=
    ⟨hinitialized.trans hbegun.active.initialized, howner'.trans hbegun.active.writeOwner, hloaded⟩
  exact World.flush_again hdistinct hactive hnone hmemory hextents

/-! ## What a reload gives -/

/-- The flush that comes next does not shorten the file of the region, if the region is padded with
another byte than `0xff` and its extent is not always the whole of it. -/
def Chronicle.KeepsLength (i : Fin 2) (kind : MemoryKind) (full : Prop) (c : Chronicle) : Prop :=
  kind.fill = 0xff ∨ full ∨ ∀ extent, c.world.Due i kind extent →
    (c.world.manager.tracked i kind).loadedSize ≤ (c.world.learned i kind extent).flushSize extent

/-- What the guest does to a region whose extent, if `full`, is always the whole of it. -/
structure Chronicle.GuestGrows (i : Fin 2) (kind : MemoryKind) (first : Nat) (full : Prop)
    (c : Chronicle) (e : Engine) : Prop extends Chronicle.GuestRuns i kind first c e where
  whole : full → ∀ extent, c.heard e i kind = some extent →
    extent = ((e.memory i kind).getD []).length

/-- A region as an initialization would load it from its canonical file; `fresh` is what the engine
has before. -/
def World.reloaded (w : World) (fresh : List Byte) (i : Fin 2) (kind : MemoryKind) : List Byte :=
  match w.files (w.manager.paths.path i kind) with
  | .regular bytes => pad (w.data i kind).length kind.fill bytes
  | _ => fresh

theorem durable_history (hinit : (init s e files).manager = .ok m) (howner : m.writeOwner = true)
    {first : Nat} {full : Prop}
    (hblank : (∀ byte ∈ (e.memory i kind).getD [], byte = kind.fill) ∨ full)
    (hfull : full → ∀ extent, (init s e files).engine.report i kind = some extent →
      extent = ((e.memory i kind).getD []).length)
    (hrun : Along Chronicle.step (fun c a =>
      c.OnGuest (Chronicle.GuestGrows i kind first full) a ∧
        (c.Flushes a → c.KeepsLength i kind full)) ((init s e files).begin m) events) :
    Chronicle.Keeps
      (fun j kind' r => j = i → kind' = kind → r.data = [] ∨
        r.Durable first kind.fill ((e.memory i kind).getD []) full)
      (fun _ => True) (run Chronicle.step ((init s e files).begin m) events) := by
  have hbegun := loaded_of_init hinit howner
  refine hrun.invariant ?_ ?_
  · rintro c a hkeeps ⟨hguest, hkeep⟩
    refine hkeeps.step a ?_ ?_ fun _ _ _ _ _ _ _ _ => trivial
    · rintro e' rfl j kind' hmanaged hdurable rfl rfl
      have hgrows : c.GuestGrows j kind' first full e' := hguest
      rcases hdurable rfl rfl with hempty | hdurable
      · left
        have hsize := hgrows.size
        rw [show c.world.data j kind' = [] from hempty] at hsize
        exact List.length_eq_zero_iff.mp hsize
      · have hbounded : ∀ extent, c.known j kind' = some extent →
            extent ≤ (c.world.data j kind').length := hdurable.bounded
        exact Or.inr (hdurable.runs (hgrows.runs hbounded) hgrows.whole)
    · rintro hflushes disk j kind' extent hdue hdurable rfl rfl
      have hdurable := (hdurable rfl rfl).resolve_left hdue.nonempty
      refine Or.inr (hdurable.turn (hkeeps.current j kind' extent hdue) _ _ _ ?_)
      exact (hkeep hflushes).imp_right fun h => h.imp_right fun h => h extent hdue
  · refine hbegun.keeps rfl ?_
    rintro j kind' hmanaged rfl rfl
    by_cases hempty : ((init s e files).world m).data j kind' = []
    · exact Or.inl hempty
    · refine Or.inr ((hbegun.region j kind' hmanaged hempty).1.durable first
        (fun _ => Chronicle.begin_bounded) (hbegun.length j kind').symm hblank ?_)
      intro hyes extent hreport
      exact (hfull hyes extent hreport).trans (hbegun.length j kind').symm

/-- **Save durability.** After a flush that returns true, a reload of a region whose extent is known
gives its live bytes up to the extent and the preserved tail, unless two different contents have one
hash; and a write that failed is tried again by the next flush. -/
theorem flush_is_durable (hinit : (init s e files).manager = .ok m) (howner : m.writeOwner = true)
    (i : Fin 2) (kind : MemoryKind) :
    (∀ (first : Nat) (full : Prop) (events : List Event) (disk : Disk) (extent : Nat),
      ((∀ byte ∈ (e.memory i kind).getD [], byte = kind.fill) ∨ full) →
      (full → ∀ extent, (init s e files).engine.report i kind = some extent →
        extent = ((e.memory i kind).getD []).length) →
      Along Chronicle.step (fun c a =>
        c.OnGuest (Chronicle.GuestGrows i kind first full) a ∧
          (c.Flushes a → c.KeepsLength i kind full)) ((init s e files).begin m) events →
      let c := run Chronicle.step ((init s e files).begin m) events
      let fresh := (e.memory i kind).getD []
      let w := (c.world.flush disk).1
      c.world.engine.loaded = true → c.KeepsLength i kind full → (c.world.flush disk).2 = none →
      c.world.Due i kind extent →
      (∀ n, memoryHash (c.world.reloaded fresh i kind) n = memoryHash (c.world.data i kind) n →
        (c.world.reloaded fresh i kind).take n = (c.world.data i kind).take n) →
      (w.reloaded fresh i kind).take ((w.manager.tracked i kind).flushSize extent) =
        (w.data i kind).take ((w.manager.tracked i kind).flushSize extent)) ∧
    ∀ (events : List Event) (disk disk' : Disk) (new : List Attempt) (a : Attempt) (e' : Engine),
      let c := run Chronicle.step ((init s e files).begin m) events
      (c.world.flush disk).1.log = new ++ c.world.log → a ∈ new → a.result ≠ .ok →
      e'.memory = c.world.engine.memory →
      e'.persistentMemoryExtent = c.world.engine.persistentMemoryExtent → e'.loaded = true →
      let w' := { (c.world.flush disk).1 with engine := e' }
      ∃ new' a', (w'.flush disk').1.log = new' ++ w'.log ∧ a' ∈ new' ∧ a'.machine = a.machine ∧
        a'.kind = a.kind := by
  have hbegun := loaded_of_init hinit howner
  refine ⟨?_, ?_⟩
  · intro first full events disk extent hblank hfull hrun c fresh w hloaded hkeep hnone hdue hhash
    obtain ⟨hdistinct, hinitialized, howner'⟩ :=
      Chronicle.manager_run events ((init s e files).begin m) hbegun.distinct
    have hactive : c.world.Active :=
      ⟨hinitialized.trans hbegun.active.initialized, howner'.trans hbegun.active.writeOwner, hloaded⟩
    have hkeeps := durable_history hinit howner hblank hfull hrun
    have hdurable := (hkeeps.region i kind hdue.managed rfl rfl).resolve_left hdue.nonempty
    obtain ⟨hturned, hok⟩ := World.flush_done c.known hdistinct hactive hnone hdue
    have hreload := hdurable.reload_turn (hkeeps.current i kind extent hdue)
      (c.world.engine.dirty i) (disk.writeFileAtomic (c.world.manager.paths.path i kind)) disk.malloc
      (hkeep.imp_right fun h => h.imp_right fun h => h extent hdue) hok hhash
    have hdata : w.data i kind = c.world.data i kind :=
      World.data_congr (World.flushed_flush c.known hdistinct disk).memory ▸ rfl
    have hregion : w.region c.known i kind = c.world.turned c.known disk i kind extent := hturned
    rw [hdata]
    change ((w.region c.known i kind).reload kind.fill fresh).take
      ((w.region c.known i kind).tracking.flushSize extent) =
        (c.world.data i kind).take ((w.region c.known i kind).tracking.flushSize extent)
    rw [hregion]
    exact hreload
  · intro events disk disk' new a e' c hlog ha hfailed hmemory hextents hloaded
    obtain ⟨hdistinct, -, -⟩ :=
      Chronicle.manager_run events ((init s e files).begin m) hbegun.distinct
    exact World.flush_tries_again hdistinct disk disk' hlog ha hfailed hmemory hextents hloaded

/-! ## A session to look at -/

section Sample

instance (l l' : List Byte) (n : Nat) : Decidable (AgreeFrom n l l') :=
  decidable_of_iff (l.drop n = l'.drop n) (by
    rw [List.ext_getElem?_iff]
    simp only [List.getElem?_drop]
    constructor
    · intro h i hi
      have hat := h (i - n)
      rwa [Nat.add_sub_cancel' hi] at hat
    · exact fun h i => h (n + i) (Nat.le_add_right n i))

instance (first : Nat) : (report report' : Option Nat) → Decidable (Region.Grows first report report')
  | none, none => isTrue trivial
  | none, some extent => inferInstanceAs (Decidable (first ≤ extent))
  | some extent, some extent' => inferInstanceAs (Decidable (extent ≤ extent'))
  | some _, none => isFalse id

instance (c : Chronicle) (first : Nat) : Decidable (Chronicle.GuestRuns i kind first c e) :=
  decidable_of_iff (_ ∧ _ ∧ _) ⟨fun h => ⟨h.1, h.2.1, h.2.2⟩, fun h => ⟨h.1, h.2, h.3⟩⟩

instance (c : Chronicle) : Decidable (c.LeavesAlone i kind e) :=
  decidable_of_iff (_ ∧ _) ⟨fun h => ⟨h.1, h.2⟩, fun h => ⟨h.1, h.2⟩⟩

instance (p : Chronicle → Engine → Prop) [∀ c e, Decidable (p c e)] (c : Chronicle) :
    (a : Event) → Decidable (c.OnGuest p a)
  | .guest e => inferInstanceAs (Decidable (p c e))
  | .flush _ => isTrue trivial
  | .tick _ => isTrue trivial

/-- Two GBA cartridges whose only memory is one region of the first. -/
def sampleEngine (kind : MemoryKind) (data : List Byte) (extent : Option Nat) : Engine where
  family := .mgba
  loaded := true
  memory := fun i k => if i = 0 ∧ k = kind then some data else some []
  persistentMemoryExtent := some fun i k => some (if i = 0 ∧ k = kind then extent else some 0)
  memoryDirty := none
  clearMemoryDirty := false

def sampleSetup : Setup where
  saveDirectory := "/s".toList
  contentPath := fun i => some (if i = 0 then "a.gba" else "b.gba").toList
  loadKind := .normal
  contentPathMissing := fun _ => false
  locks := .acquired
  writeFileAtomic := fun _ => .ok
  malloc := fun _ => true
  validatePersistentMemory := none

def sampleFiles (path : String) (bytes : List Byte) : Files Path := fun p =>
  if p = path.toList then .regular bytes else .missing

def sampleDisk : Disk where
  writeFileAtomic := fun _ => .ok
  malloc := true

/-- An RTC of four bytes whose file has two, while one is reported. -/
def rtcInit : Initialized :=
  init sampleSetup (sampleEngine .rtc [0, 0, 0, 0] (some 1)) (sampleFiles "/s/a.rtc" [1, 0xff])

/-- A flush, and then the second byte is reported too. -/
def rtcEvents : List Event :=
  [.flush sampleDisk, .guest (sampleEngine .rtc [1, 0xff, 0, 0] (some 2))]

/-- What holds of a result that is computed holds of what it is. -/
theorem of_computed {r : Initialized} {p : Manager → Prop} [DecidablePred p]
    (hcomputed : (match r.manager with
      | .ok m => decide (p m)
      | .error _ => false) = true) : ∃ m, r.manager = .ok m ∧ p m := by
  cases h : r.manager with
  | error error =>
    rw [h] at hcomputed
    exact absurd hcomputed (by simp)
  | ok m =>
    rw [h] at hcomputed
    exact ⟨m, rfl, of_decide_eq_true hcomputed⟩

instance decidableReports (extent : Nat) : (report : Except String (Option Nat)) →
    Decidable (report = .ok (some extent))
  | .ok (some extent') => decidable_of_iff (extent' = extent) (by simp)
  | .ok none => isFalse (by simp)
  | .error _ => isFalse (by simp)

instance (extent : Nat) : Decidable (w.Due i kind extent) :=
  decidable_of_iff (_ ∧ _ ∧ _) ⟨fun h => ⟨h.1, h.2.1, h.2.2⟩, fun h => ⟨h.1, h.2, h.3⟩⟩

/-- The session after these events. -/
def Initialized.after (r : Initialized) (m : Manager) (events : List Event) : Chronicle :=
  run Chronicle.step (r.begin m) events

/-- Contents of one size are told apart by their hashes if their beginnings are. -/
theorem hashes_separate {l l' : List Byte} {k : Nat} (hl : l.length = k) (hl' : l'.length = k)
    (h : ∀ n < k + 1, memoryHash l n = memoryHash l' n → l.take n = l'.take n) (n : Nat)
    (hsame : memoryHash l n = memoryHash l' n) : l.take n = l'.take n := by
  by_cases hn : n < k + 1
  · exact h n hn hsame
  · have hall (l : List Byte) (hl : l.length = k) : l.take n = l.take k := by
      rw [List.take_of_length_le (by omega), List.take_of_length_le (by omega)]
    unfold memoryHash at hsame h
    rw [hall l hl, hall l' hl'] at hsame ⊢
    exact h k (by omega) hsame

/-- **A flush can trim a byte of a zero-filled region that a later flush takes for saved.** -/
theorem rtc_tail_is_lost : ∃ m, rtcInit.manager = .ok m ∧ m.writeOwner = true ∧
    (∀ byte ∈ ((sampleEngine .rtc [0, 0, 0, 0] (some 1)).memory 0 .rtc).getD [], byte = 0) ∧
    Along Chronicle.step (Chronicle.OnGuest (Chronicle.GuestRuns 0 .rtc 1)) (rtcInit.begin m)
      rtcEvents ∧
    let c := rtcInit.after m rtcEvents
    let w := (c.world.flush sampleDisk).1
    c.world.engine.loaded = true ∧ (c.world.flush sampleDisk).2 = none ∧ c.world.Due 0 .rtc 2 ∧
      (∀ n, memoryHash (c.world.reloaded [0, 0, 0, 0] 0 .rtc) n = memoryHash (c.world.data 0 .rtc) n →
        (c.world.reloaded [0, 0, 0, 0] 0 .rtc).take n = (c.world.data 0 .rtc).take n) ∧
      (w.reloaded [0, 0, 0, 0] 0 .rtc).take ((w.manager.tracked 0 .rtc).flushSize 2) ≠
        (w.data 0 .rtc).take ((w.manager.tracked 0 .rtc).flushSize 2) := by
  obtain ⟨m, hm, howner, hrun, hlive, hreload, hloaded, hnone, hdue, hsize, hsaved, hdata⟩ :
      ∃ m, rtcInit.manager = .ok m ∧ m.writeOwner = true ∧
        Along Chronicle.step (Chronicle.OnGuest (Chronicle.GuestRuns 0 .rtc 1)) (rtcInit.begin m)
          rtcEvents ∧
        (rtcInit.after m rtcEvents).world.data 0 .rtc = [1, 0xff, 0, 0] ∧
        (rtcInit.after m rtcEvents).world.reloaded [0, 0, 0, 0] 0 .rtc = [1, 0, 0, 0] ∧
        (rtcInit.after m rtcEvents).world.engine.loaded = true ∧
        ((rtcInit.after m rtcEvents).world.flush sampleDisk).2 = none ∧
        (rtcInit.after m rtcEvents).world.Due 0 .rtc 2 ∧
        (((rtcInit.after m rtcEvents).world.flush sampleDisk).1.manager.tracked 0 .rtc).flushSize 2 =
          2 ∧
        ((rtcInit.after m rtcEvents).world.flush sampleDisk).1.reloaded [0, 0, 0, 0] 0 .rtc =
          [1, 0, 0, 0] ∧
        ((rtcInit.after m rtcEvents).world.flush sampleDisk).1.data 0 .rtc = [1, 0xff, 0, 0] :=
    of_computed (by decide +kernel)
  refine ⟨m, hm, howner, by decide, hrun, hloaded, hnone, hdue, ?_, ?_⟩
  · rw [hlive, hreload]
    exact hashes_separate (k := 4) rfl rfl (by decide +kernel)
  · rw [hsize, hsaved, hdata]
    decide

instance (p : MemoryKind → Prop) [DecidablePred p] : Decidable (∀ kind, p kind) :=
  decidable_of_iff (p .saveRam ∧ p .rtc ∧ p .firmware)
    ⟨fun h kind => match kind with
      | .saveRam => h.1
      | .rtc => h.2.1
      | .firmware => h.2.2, fun h => ⟨h _, h _, h _⟩⟩

/-- SaveRAM of four bytes whose file has one, while two are reported. -/
def ramInit : Initialized :=
  init sampleSetup (sampleEngine .saveRam [0xff, 0xff, 0xff, 0xff] (some 2))
    (sampleFiles "/s/a.srm" [1])

/-- The guest writes a byte, a flush, and then another byte. -/
def ramEvents : List Event :=
  [.guest (sampleEngine .saveRam [7, 0xff, 0xff, 0xff] (some 2)), .flush sampleDisk,
    .guest (sampleEngine .saveRam [7, 8, 0xff, 0xff] (some 2))]

theorem ram_flush_is_durable : ∃ m, ramInit.manager = .ok m ∧
    let c := ramInit.after m ramEvents
    let w := (c.world.flush sampleDisk).1
    (w.reloaded [0xff, 0xff, 0xff, 0xff] 0 .saveRam).take
        ((w.manager.tracked 0 .saveRam).flushSize 2) =
      (w.data 0 .saveRam).take ((w.manager.tracked 0 .saveRam).flushSize 2) := by
  obtain ⟨m, hm, howner, hrun, hlive, hreload, hloaded, hnone, hdue⟩ :
      ∃ m, ramInit.manager = .ok m ∧ m.writeOwner = true ∧
        Along Chronicle.step (Chronicle.OnGuest (Chronicle.GuestRuns 0 .saveRam 0)) (ramInit.begin m)
          ramEvents ∧
        (ramInit.after m ramEvents).world.data 0 .saveRam = [7, 8, 0xff, 0xff] ∧
        (ramInit.after m ramEvents).world.reloaded [0xff, 0xff, 0xff, 0xff] 0 .saveRam =
          [7, 0xff, 0xff, 0xff] ∧
        (ramInit.after m ramEvents).world.engine.loaded = true ∧
        ((ramInit.after m ramEvents).world.flush sampleDisk).2 = none ∧
        (ramInit.after m ramEvents).world.Due 0 .saveRam 2 := of_computed (by decide +kernel)
  have hgrows : Along Chronicle.step (fun c a =>
      c.OnGuest (Chronicle.GuestGrows 0 .saveRam 0 False) a ∧
        (c.Flushes a → c.KeepsLength 0 .saveRam False)) (ramInit.begin m) ramEvents := by
    refine hrun.imp fun c a hguest => ?_
    refine ⟨?_, fun _ => Or.inl rfl⟩
    cases a with
    | guest e => exact ⟨hguest, fun h => h.elim⟩
    | flush disk => trivial
    | tick disk => trivial
  have hhash (n : Nat) (hsame : memoryHash
      ((ramInit.after m ramEvents).world.reloaded [0xff, 0xff, 0xff, 0xff] 0 .saveRam) n =
        memoryHash ((ramInit.after m ramEvents).world.data 0 .saveRam) n) :
      ((ramInit.after m ramEvents).world.reloaded [0xff, 0xff, 0xff, 0xff] 0 .saveRam).take n =
        ((ramInit.after m ramEvents).world.data 0 .saveRam).take n := by
    rw [hlive, hreload] at hsame ⊢
    exact hashes_separate (k := 4) rfl rfl (by decide +kernel) n hsame
  exact ⟨m, hm, (flush_is_durable hm howner 0 .saveRam).1 0 False ramEvents sampleDisk 2
    (Or.inl (by decide)) (fun h => h.elim) hgrows hloaded (Or.inl rfl) hnone hdue hhash⟩

theorem ram_flush_discards_nothing : ∃ m, ramInit.manager = .ok m ∧
    let c := ramInit.after m ramEvents
    (∀ a ∈ c.world.log, a.Preserves) ∧ c.world.Logged ramInit.files := by
  obtain ⟨m, hm, howner, hrun⟩ :
      ∃ m, ramInit.manager = .ok m ∧ m.writeOwner = true ∧
        Along Chronicle.step (Chronicle.OnGuest fun c e => ∀ i kind,
          c.world.manager.coreManaged i kind = true → Chronicle.GuestRuns i kind 0 c e)
          (ramInit.begin m) ramEvents := of_computed (by decide +kernel)
  exact ⟨m, hm, flush_discards_nothing hm howner (fun _ _ => 0) hrun⟩

/-- SaveRAM of four bytes whose file fills it with a blank tail, while one is reported. -/
def idleInit : Initialized :=
  init sampleSetup (sampleEngine .saveRam [0, 0, 0, 0] (some 1))
    (sampleFiles "/s/a.srm" [1, 0xff, 0xff, 0xff])

/-- A flush, another byte reported, and another flush. -/
def idleEvents : List Event :=
  [.flush sampleDisk, .guest (sampleEngine .saveRam [1, 0xff, 0xff, 0xff] (some 2)),
    .flush sampleDisk]

theorem idle_ram_only_shrinks : ∃ m, idleInit.manager = .ok m ∧
    let c := idleInit.after m idleEvents
    ((∀ a ∈ c.world.log, a.machine = 0 → a.kind = .saveRam → a.Shrinks) ∧
      c.world.Logged idleInit.files) ∧ c.world.log ≠ [] := by
  obtain ⟨m, hm, howner, hrun, hlog⟩ :
      ∃ m, idleInit.manager = .ok m ∧ m.writeOwner = true ∧
        Along Chronicle.step (fun c a => c.world.engine.dirty 0 = false ∧
          c.OnGuest (Chronicle.LeavesAlone 0 .saveRam) a) (idleInit.begin m) idleEvents ∧
        ¬(idleInit.after m idleEvents).world.log.isEmpty := of_computed (by decide +kernel)
  refine ⟨m, hm, (idle_region_only_shrinks hm howner 0 .saveRam).1 idleEvents hrun, ?_⟩
  simpa using hlog

end Sample

end DualBoy.Saves
