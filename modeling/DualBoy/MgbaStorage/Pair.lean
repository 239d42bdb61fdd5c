import DualBoy.Engine
import DualBoy.Lib.Run
import DualBoy.MgbaStorage.Battery

/-!
# The batteries of an mGBA pair, over runs

The calls of the engine that touch a battery, in any order: link changes and resets, frames (which
begin with an import of the regions), machine-state loads of any bytes, the frontend's looks at the
regions and its writes to them. Between two callbacks of a frame a core does anything.

* `Inv`: what holds of each machine; a machine whose battery could not be put back is marked.
* `Grows`: what no call takes back, whatever mGBA does.
* **`battery_kept`**, **`import_kept`**: a state load, and the import of the regions, leave what the
  frontend is shown.
* **`nothing_taken_back`**: a shown record, the dirt and the mark stay, and a marked pair runs no
  more.
-/

namespace DualBoy.MgbaStorage

open DualBoy.Lib

/-! ## The source -/

/-- The storage of `struct mgba_pair`, once both ROMs are loaded. -/
structure Pair (C : Type) where
  machine : Fin 2 → Machine C
  linkConfigured : Bool
  linkEnabled : Bool

/-- What happens in a frame: a core goes on, or mGBA calls back. -/
inductive CoreEvent (X : Type) where
  | advance (i : Fin 2) (x : X)
  | savedataUpdated (i : Fin 2)
  | crashed (i : Fin 2)

/-- The calls. -/
inductive Call (X : Type) where
  /-- `attached`: the link driver can be attached -/
  | setLink (enabled attached : Bool)
  | reset
  /-- `completes`: no machine crashes and the scheduler comes to an end -/
  | runFrame (events : List (CoreEvent X)) (completes : Bool)
  | unserializeMachine (i : Fin 2) (bytes : List Byte) (alloc : Bool × Bool)
  | memoryInfo (i : Fin 2)
  | clearMemoryDirty (i : Fin 2)
  /-- the frontend writes to a region it was given -/
  | write (i : Fin 2) (kind : MemoryKind) (offset : Nat) (data : List Byte)

variable {C X : Type}

namespace Machine

/-- `mgba_load_rom`. -/
def loaded (core : C) : Machine C where
  core
  resetOnce := false
  memoryImported := false
  memoryDirty := false
  persistentRestoreFailed := false
  crashed := false
  saveSize := maxSaveSize
  rtcSize := 0
  saveData := blank maxSaveSize
  rtcData := blank rtcRecordSize

/-- One turn of `reset_cores`. -/
def resetCore (ops : StorageOps C X) (m : Machine C) : Machine C :=
  ({ m with crashed := false, core := ops.reset m.core, resetOnce := true } : Machine
    C).updateMemoryLayout ops

/-- The end of a complete frame. -/
def endFrame (m : Machine C) : Machine C :=
  if m.rtcSize ≠ 0 then { m with memoryDirty := true } else m

def write (m : Machine C) (kind : MemoryKind) (offset : Nat) (data : List Byte) : Machine C :=
  match kind with
  | .saveRam =>
    if offset + data.length ≤ m.saveData.length then
      { m with saveData := writeAt m.saveData offset data }
    else m
  | .rtc =>
    if offset + data.length ≤ m.rtcData.length then
      { m with rtcData := writeAt m.rtcData offset data }
    else m
  | .firmware => m

end Machine

namespace Pair

variable (ops : StorageOps C X) (p : Pair C)

def created (cores : Fin 2 → C) : Pair C where
  machine i := .loaded (cores i)
  linkConfigured := false
  linkEnabled := false

def update (p : Pair C) (i : Fin 2) (m : Machine C) : Pair C :=
  { p with machine := Function.update p.machine i m }

/-- `reset_cores`. -/
def resetCores : Pair C := { p with machine := fun i => (p.machine i).resetCore ops }

/-- `import_pair_storage`: the second machine has its turn when the first succeeds. -/
def importPairStorage : Pair C × Bool :=
  match (p.machine 0).importMachineStorage ops with
  | (m, false) => (p.update 0 m, false)
  | (m, true) =>
    let p := p.update 0 m
    match (p.machine 1).importMachineStorage ops with
    | (m, imported) => (p.update 1 m, imported)

/-- `mgba_set_link`, as far as it touches the storage. -/
def setLink (enabled attached : Bool) : Pair C :=
  if p.linkConfigured = true ∧ p.linkEnabled = enabled then p
  else if enabled = true ∧ attached = false then p
  else { (p.resetCores ops) with linkEnabled := enabled, linkConfigured := true }

/-- `mgba_reset`. -/
def reset : Pair C :=
  if p.linkConfigured = false then p
  else
    match p.importPairStorage ops with
    | (p, false) => p
    | (p, true) => p.resetCores ops

def event (p : Pair C) : CoreEvent X → Pair C
  | .advance i x => p.update i { p.machine i with core := ops.advance (p.machine i).core x }
  | .savedataUpdated i => p.update i ((p.machine i).savedataUpdated ops)
  | .crashed i => p.update i { p.machine i with crashed := true }

/-- A machine of the pair is marked. -/
def marked : Bool :=
  (p.machine 0).persistentRestoreFailed || (p.machine 1).persistentRestoreFailed

/-- `mgba_run_frame`. -/
def runFrame (events : List (CoreEvent X)) (completes : Bool) : Pair C × Bool :=
  if p.linkConfigured = false ∨ p.marked = true then (p, false)
  else
    match p.importPairStorage ops with
    | (p, false) => (p, false)
    | (p, true) =>
      let p := events.foldl (event ops) p
      if completes then ({ p with machine := fun i => (p.machine i).endFrame }, true)
      else (p, false)

def step (p : Pair C) : Call X → Pair C
  | .setLink enabled attached => p.setLink ops enabled attached
  | .reset => p.reset ops
  | .runFrame events completes => (p.runFrame ops events completes).1
  | .unserializeMachine i bytes alloc =>
    p.update i ((p.machine i).unserializeMachine ops bytes alloc).1
  | .memoryInfo i => p.update i ((p.machine i).exposed ops)
  | .clearMemoryDirty i => p.update i { p.machine i with memoryDirty := false }
  | .write i kind offset data => p.update i ((p.machine i).write kind offset data)

end Pair

/-! ## What is not taken back -/

namespace Machine

variable {ops : StorageOps C X} {m m' m'' : Machine C}

/-- A record that was shown, the dirt and the mark stay. -/
structure Grows (m m' : Machine C) : Prop where
  rtcSize : m.rtcSize = rtcRecordSize → m'.rtcSize = rtcRecordSize
  dirty : m.memoryDirty = true → m'.memoryDirty = true
  marked : m.persistentRestoreFailed = true → m'.persistentRestoreFailed = true

theorem Grows.refl (m : Machine C) : Grows m m := ⟨id, id, id⟩

theorem Grows.trans (h : Grows m m') (h' : Grows m' m'') : Grows m m'' :=
  ⟨h'.rtcSize ∘ h.rtcSize, h'.dirty ∘ h.dirty, h'.marked ∘ h.marked⟩

theorem grows_updateMemoryLayout (ops : StorageOps C X) (m : Machine C) :
    Grows m (m.updateMemoryLayout ops) := by
  unfold updateMemoryLayout
  split
  · exact ⟨fun _ => rfl, id, id⟩
  · exact .refl m

theorem grows_readRtcRecord (ops : StorageOps C X) (m : Machine C) :
    Grows m (m.readRtcRecord ops) := by
  unfold readRtcRecord
  split
  · exact .refl m
  · split
    · exact .refl m
    · exact ⟨id, id, id⟩

theorem grows_copySavedata (ops : StorageOps C X) (m : Machine C) :
    Grows m (m.copySavedata ops) := by
  unfold copySavedata
  split
  · split
    · exact ⟨id, id, id⟩
    · exact .refl m
  · exact .refl m

theorem grows_sync (ops : StorageOps C X) (m : Machine C) (flush : Bool) :
    Grows m (m.syncMachineStorage ops flush) := by
  have hlaid : Grows m ((m.copySavedata ops).updateMemoryLayout ops) :=
    (grows_copySavedata ops m).trans (grows_updateMemoryLayout ops _)
  unfold syncMachineStorage
  split
  · exact .refl m
  · dsimp only
    split
    · exact hlaid
    · split
      · have hflush : Grows ((m.copySavedata ops).updateMemoryLayout ops)
            (((m.copySavedata ops).updateMemoryLayout ops).flushRtc ops) := ⟨id, id, id⟩
        exact (hlaid.trans hflush).trans (grows_readRtcRecord ops _)
      · exact hlaid.trans (grows_readRtcRecord ops _)

theorem grows_importRtcRecord (ops : StorageOps C X) (m : Machine C) :
    Grows m (m.importRtcRecord ops).1 := by
  have hflush : Grows m (m.flushRtc ops) := ⟨id, id, id⟩
  unfold importRtcRecord
  split
  · exact .refl m
  · dsimp only
    split
    · exact hflush.trans (grows_readRtcRecord ops _)
    · split
      · exact ⟨id, id, id⟩
      · rename_i core hwrite
        have hread : Grows m ({ m.flushRtc ops with core := ops.rtcRead core } : Machine C) :=
          ⟨id, id, id⟩
        exact hread.trans (grows_readRtcRecord ops _)

theorem grows_finishImport (ops : StorageOps C X) (m : Machine C) (restored : Bool) :
    Grows m (m.finishImport ops restored).1 := by
  have hrecord := grows_importRtcRecord ops m
  unfold finishImport
  split
  · exact .refl m
  · split
    · rename_i n hn
      rwa [hn] at hrecord
    · rename_i n hn
      rw [hn] at hrecord
      exact ⟨hrecord.rtcSize, hrecord.dirty, hrecord.marked⟩

theorem grows_importMachineStorage (ops : StorageOps C X) (m : Machine C) :
    Grows m (m.importMachineStorage ops).1 := by
  have hlaid := grows_updateMemoryLayout ops m
  unfold importMachineStorage
  split
  · exact .refl m
  dsimp only
  split
  · refine Grows.trans ?_ (grows_finishImport ops _ _)
    exact ⟨hlaid.rtcSize, hlaid.dirty, hlaid.marked⟩
  · exact hlaid.trans (grows_finishImport ops _ true)

/-- A restore puts the size of the record and the dirt back that the snapshot has. -/
theorem grows_restorePersistentStorage {core : C} {snapshot : PersistentSnapshot}
    (hsize : snapshot.rtcSize = m.rtcSize) (hdirty : snapshot.memoryDirty = m.memoryDirty) :
    Grows m (restorePersistentStorage ops { m with core } snapshot).1 := by
  rw [restorePersistentStorage_eq]
  refine Grows.trans ?_ (grows_sync ops _ false)
  refine ⟨fun h => ?_, fun h => ?_, id⟩
  · change snapshot.rtcSize = rtcRecordSize
    rw [hsize, h]
  · change snapshot.memoryDirty = true
    rw [hdirty, h]

theorem liveSnapshot_frame {alloc : Bool} {snapshot : PersistentSnapshot}
    (h : m.liveSnapshot ops alloc = some snapshot) :
    snapshot.rtcSize = m.rtcSize ∧ snapshot.memoryDirty = m.memoryDirty := by
  unfold liveSnapshot at h
  simp only [Option.ite_none_left_eq_some] at h
  obtain ⟨-, -, -, h⟩ := h
  obtain rfl := Option.some.inj h
  exact ⟨rfl, rfl⟩

theorem grows_finishLoad (ops : StorageOps C X) (m : Machine C) (loaded restored : Bool)
    (source : Nat × BitVec 64) : Grows m (m.finishLoad ops loaded restored source).1 := by
  have hmark : Grows m { m with persistentRestoreFailed := true } := ⟨id, id, fun _ => rfl⟩
  cases restored with
  | false =>
    unfold finishLoad
    rw [if_pos (Or.inr rfl)]
    exact hmark
  | true =>
    cases loaded with
    | false => exact .refl m
    | true =>
      refine Grows.trans ?_ (grows_updateMemoryLayout ops _)
      exact ⟨id, id, id⟩

theorem grows_unserializeMachine (ops : StorageOps C X) (m : Machine C) (bytes : List Byte)
    (alloc : Bool × Bool) : Grows m (m.unserializeMachine ops bytes alloc).1 := by
  have hload (n : Machine C) {snapshot : PersistentSnapshot} (hn : Grows m n)
      (hsize : snapshot.rtcSize = n.rtcSize) (hdirty : snapshot.memoryDirty = n.memoryDirty)
      (core : C) (loaded : Bool) (source : Nat × BitVec 64) :
      Grows m ((restorePersistentStorage ops { n with core } snapshot).1.finishLoad ops loaded
        (restorePersistentStorage ops { n with core } snapshot).2 source).1 :=
    (hn.trans (grows_restorePersistentStorage hsize hdirty)).trans (grows_finishLoad ops _ _ _ _)
  unfold unserializeMachine
  split
  · exact .refl m
  unfold snapshotPersistentStorage
  by_cases himported : m.memoryImported = true
  · rw [if_pos himported]
    have hsync := grows_sync ops m true
    dsimp only
    cases hlive : (m.syncMachineStorage ops true).liveSnapshot ops alloc.1 with
    | none => exact hsync
    | some snapshot =>
      obtain ⟨hsize, hdirty⟩ := liveSnapshot_frame hlive
      dsimp only
      split
      · exact hsync
      · exact hload _ hsync hsize hdirty _ _ _
  · rw [if_neg himported]
    dsimp only
    split
    · exact .refl m
    · exact hload m (.refl m) rfl rfl _ _ _

/-- A marked machine takes no state. -/
theorem unserializeMachine_marked (h : m.persistentRestoreFailed = true) (bytes : List Byte)
    (alloc : Bool × Bool) : m.unserializeMachine ops bytes alloc = (m, false) := by
  refine if_pos ?_
  unfold stateAccepted
  rw [h]
  rfl

/-! ## What holds of each machine -/

variable {view : C → Device} {chip : SavedataType → Nat}

/-- The regions have their sizes, and there is room for the record behind an imported battery,
unless it could not be put back. -/
def Inv (view : C → Device) (m : Machine C) : Prop :=
  m.Sized ∧ (m.persistentRestoreFailed = true ∨ m.Roomy view)

theorem sized_updateMemoryLayout (ops : StorageOps C X) (h : m.Sized) :
    (m.updateMemoryLayout ops).Sized := by
  unfold updateMemoryLayout
  split
  · exact ⟨h.saveSize, h.saveData, Or.inr rfl, h.rtcData⟩
  · exact h

theorem sized_readRtcRecord (ops : StorageOps C X) (h : m.Sized) : (m.readRtcRecord ops).Sized := by
  unfold readRtcRecord
  split
  · exact h
  · split
    · exact h
    · refine ⟨h.saveSize, h.saveData, h.rtcSize, ?_⟩
      dsimp only
      split
      · assumption
      · exact List.length_replicate

theorem importRtcRecord_imported (ops : StorageOps C X) (m : Machine C) :
    (m.importRtcRecord ops).1.memoryImported = m.memoryImported := by
  have hread (n : Machine C) : (n.readRtcRecord ops).memoryImported = n.memoryImported := by
    unfold readRtcRecord
    split
    · rfl
    · split
      · rfl
      · rfl
  unfold importRtcRecord
  split
  · rfl
  · dsimp only
    split
    · exact hread _
    · split
      · rfl
      · exact hread _

theorem sized_importRtcRecord (ops : StorageOps C X) (h : m.Sized) :
    (m.importRtcRecord ops).1.Sized := by
  have hcore (core : C) : Sized { m with core } := ⟨h.saveSize, h.saveData, h.rtcSize, h.rtcData⟩
  unfold importRtcRecord
  split
  · exact h
  · dsimp only
    split
    · exact sized_readRtcRecord ops (hcore _)
    · split
      · exact hcore _
      · exact sized_readRtcRecord ops (hcore _)

/-- An import that fails has not happened, and leaves the regions their sizes. -/
theorem finishImport_false {restored : Bool} (h : m.Sized)
    (himport : m.finishImport ops restored = (m', false)) :
    m'.Sized ∧ m'.memoryImported = m.memoryImported := by
  unfold finishImport at himport
  split at himport
  · obtain ⟨rfl, -⟩ := Prod.mk.inj himport
    exact ⟨h, rfl⟩
  · split at himport
    · rename_i n hn
      obtain ⟨rfl, -⟩ := Prod.mk.inj himport
      have hsized := sized_importRtcRecord ops h
      have himported := importRtcRecord_imported ops m
      rw [hn] at hsized himported
      exact ⟨hsized, himported⟩
    · cases (Prod.mk.inj himport).2

theorem importMachineStorage_false (h : m.Sized)
    (himport : m.importMachineStorage ops = (m', false)) :
    m'.Sized ∧ m'.memoryImported = false := by
  have hlaid := sized_updateMemoryLayout ops h
  have hlaid' : (m.updateMemoryLayout ops).memoryImported = m.memoryImported := by
    unfold updateMemoryLayout
    split
    · rfl
    · rfl
  have hcore (core : C) : Sized { m.updateMemoryLayout ops with core } :=
    ⟨hlaid.saveSize, hlaid.saveData, hlaid.rtcSize, hlaid.rtcData⟩
  unfold importMachineStorage at himport
  split at himport
  · cases (Prod.mk.inj himport).2
  rename_i hnot
  rw [Bool.not_eq_true] at hnot
  dsimp only at himport
  split at himport
  · obtain ⟨hsized, himported⟩ := finishImport_false (hcore _) himport
    exact ⟨hsized, himported.trans (hlaid'.trans hnot)⟩
  · obtain ⟨hsized, himported⟩ := finishImport_false hlaid himport
    exact ⟨hsized, himported.trans (hlaid'.trans hnot)⟩

theorem inv_importMachineStorage (h : Refines ops view chip) (hinv : m.Inv view) :
    (m.importMachineStorage ops).1.Inv view := by
  cases himported : m.memoryImported with
  | true =>
    have hsame : m.importMachineStorage ops = (m, true) := if_pos himported
    rw [hsame]
    exact hinv
  | false =>
    generalize himport : m.importMachineStorage ops = result
    obtain ⟨m', imported⟩ := result
    cases imported with
    | false =>
      obtain ⟨hsized, hnot⟩ := importMachineStorage_false hinv.1 himport
      refine ⟨hsized, Or.inr fun himported' => ?_⟩
      rw [hnot] at himported'
      cases himported'
    | true =>
      obtain ⟨hsized, hroomy, -⟩ := importMachineStorage_holds h hinv.1 himported himport
      exact ⟨hsized, Or.inr hroomy⟩

theorem inv_sync (h : Refines ops view chip) (flush : Bool) (hinv : m.Inv view) :
    (m.syncMachineStorage ops flush).Inv view := by
  refine ⟨sized_sync h hinv.1 flush, hinv.2.imp (grows_sync ops m flush).marked fun hroomy => ?_⟩
  cases flush with
  | true => exact (holds_exposed h hinv.1 hroomy).1
  | false =>
    cases himported : m.memoryImported with
    | false =>
      rw [syncMachineStorage_unimported himported]
      exact hroomy
    | true =>
      have hcore : (m.syncMachineStorage ops false).core = m.core := by
        rw [syncMachineStorage_eq h hinv.1 himported]
        exact if_neg fun hflush => Bool.noConfusion hflush.2
      intro _
      rw [hcore]
      exact hroomy himported

/-- Another core keeps the invariant when its device resolves the old one. -/
theorem inv_core {core : C} (hresolves : (view m.core).Resolves (view core)) (hinv : m.Inv view) :
    Inv view { m with core } := by
  obtain ⟨hsized, hroomy⟩ := hinv
  refine ⟨⟨hsized.saveSize, hsized.saveData, hsized.rtcSize, hsized.rtcData⟩,
    hroomy.imp id fun hroomy himported hauto => ?_⟩
  obtain ⟨hauto', hgrows⟩ := hresolves hauto
  exact (hroomy himported hauto').trans hgrows

theorem inv_resetCore (h : Refines ops view chip) (hinv : m.Inv view) :
    (m.resetCore ops).Inv view := by
  obtain ⟨hsized, hroomy⟩ := inv_core (h.reset m.core) hinv
  have hreset : Sized { m with crashed := false, core := ops.reset m.core, resetOnce := true } :=
    ⟨hsized.saveSize, hsized.saveData, hsized.rtcSize, hsized.rtcData⟩
  refine ⟨sized_updateMemoryLayout ops hreset, ?_⟩
  unfold resetCore
  rw [updateMemoryLayout_eq h]
  exact hroomy

theorem inv_endFrame (hinv : m.Inv view) : m.endFrame.Inv view := by
  obtain ⟨hsized, hroomy⟩ := hinv
  unfold endFrame
  split
  · exact ⟨⟨hsized.saveSize, hsized.saveData, hsized.rtcSize, hsized.rtcData⟩, hroomy⟩
  · exact ⟨hsized, hroomy⟩

theorem inv_write (kind : MemoryKind) (offset : Nat) (data : List Byte) (hinv : m.Inv view) :
    (m.write kind offset data).Inv view := by
  obtain ⟨hsized, hroomy⟩ := hinv
  cases kind with
  | saveRam =>
    unfold write
    dsimp only
    split
    · rename_i hfits
      exact ⟨⟨hsized.saveSize, (length_writeAt hfits).trans hsized.saveData, hsized.rtcSize,
        hsized.rtcData⟩, hroomy⟩
    · exact ⟨hsized, hroomy⟩
  | rtc =>
    unfold write
    dsimp only
    split
    · rename_i hfits
      exact ⟨⟨hsized.saveSize, hsized.saveData, hsized.rtcSize,
        (length_writeAt hfits).trans hsized.rtcData⟩, hroomy⟩
    · exact ⟨hsized, hroomy⟩
  | firmware => exact ⟨hsized, hroomy⟩

/-- **A machine-state load keeps the battery of a machine with the invariant**, and the invariant. -/
theorem inv_unserializeMachine (h : Refines ops view chip) (bytes : List Byte) (alloc : Bool × Bool)
    (hinv : m.Inv view) :
    (m.unserializeMachine ops bytes alloc).1.Inv view ∧
      ((m.unserializeMachine ops bytes alloc).1.persistentRestoreFailed = true ∨
        Keeps ops m (m.unserializeMachine ops bytes alloc).1) := by
  obtain ⟨hsized, hmarked | hroomy⟩ := hinv
  · rw [unserializeMachine_marked hmarked]
    exact ⟨⟨hsized, Or.inl hmarked⟩, Or.inl hmarked⟩
  · obtain ⟨hsized', hkeeps⟩ := unserializeMachine_keeps h hsized hroomy bytes alloc
    exact ⟨⟨hsized', hkeeps.imp id And.left⟩, hkeeps.imp id And.right⟩

theorem inv_loaded (view : C → Device) (core : C) : (loaded core).Inv view :=
  ⟨⟨rfl, List.length_replicate, Or.inl rfl, List.length_replicate⟩, Or.inr fun himported => by
    cases himported⟩

/-! ## One call -/

/-- Every operation on a machine keeps a relation to the machine before it. -/
structure Local (ops : StorageOps C X) (r : Machine C → Machine C → Prop) : Prop where
  refl : ∀ m, r m m
  trans : ∀ {m m' m''}, r m m' → r m' m'' → r m m''
  reset : ∀ m, r m (m.resetCore ops)
  importStorage : ∀ m, r m (m.importMachineStorage ops).1
  advance : ∀ m x, r m { m with core := ops.advance m.core x }
  updated : ∀ m, r m (m.savedataUpdated ops)
  crashed : ∀ m, r m { m with crashed := true }
  endFrame : ∀ m, r m m.endFrame
  unserialize : ∀ m bytes alloc, r m (m.unserializeMachine ops bytes alloc).1
  exposed : ∀ m, r m (m.exposed ops)
  write : ∀ m kind offset data, r m (m.write kind offset data)

end Machine

namespace Pair

variable {ops : StorageOps C X} {view : C → Device} {chip : SavedataType → Nat} {p p' : Pair C}

theorem update_same (p : Pair C) (i : Fin 2) (m : Machine C) : (p.update i m).machine i = m :=
  Function.update_self ..

theorem update_ne (p : Pair C) {i j : Fin 2} (m : Machine C) (h : j ≠ i) :
    (p.update i m).machine j = p.machine j :=
  Function.update_of_ne h ..

variable {r : Machine C → Machine C → Prop}

theorem update_local (hr : Machine.Local ops r) {i : Fin 2} {m : Machine C}
    (h : r (p.machine i) m) (j : Fin 2) : r (p.machine j) ((p.update i m).machine j) := by
  by_cases hj : j = i
  · subst hj
    rw [update_same]
    exact h
  · rw [update_ne p m hj]
    exact hr.refl _

/-- Both machines are imported, or the call stops at the one that fails. -/
theorem importPairStorage_local (hr : Machine.Local ops r) (p : Pair C) (j : Fin 2) :
    r (p.machine j) ((p.importPairStorage ops).1.machine j) := by
  unfold importPairStorage
  generalize himport : (p.machine 0).importMachineStorage ops = first
  have hfirst := hr.importStorage (p.machine 0)
  rw [himport] at hfirst
  obtain ⟨m, imported⟩ := first
  cases imported with
  | false => exact update_local hr hfirst j
  | true => exact hr.trans (update_local hr hfirst j) (update_local hr (hr.importStorage _) j)

theorem event_local (hr : Machine.Local ops r) (p : Pair C) (e : CoreEvent X) (j : Fin 2) :
    r (p.machine j) ((p.event ops e).machine j) := by
  cases e with
  | advance i x => exact update_local hr (hr.advance _ x) j
  | savedataUpdated i => exact update_local hr (hr.updated _) j
  | crashed i => exact update_local hr (hr.crashed _) j

theorem events_local (hr : Machine.Local ops r) (events : List (CoreEvent X)) (p : Pair C)
    (j : Fin 2) : r (p.machine j) ((events.foldl (event ops) p).machine j) := by
  induction events generalizing p with
  | nil => exact hr.refl _
  | cons e events ih => exact hr.trans (event_local hr p e j) (ih (p.event ops e))

theorem runFrame_local (hr : Machine.Local ops r) (p : Pair C) (events : List (CoreEvent X))
    (completes : Bool) (j : Fin 2) :
    r (p.machine j) ((p.runFrame ops events completes).1.machine j) := by
  have himport := importPairStorage_local hr p j
  unfold runFrame
  split
  · exact hr.refl _
  split
  · rename_i q hq
    rwa [hq] at himport
  · rename_i q hq
    rw [hq] at himport
    have hevents := hr.trans himport (events_local hr events q j)
    dsimp only
    split
    · exact hr.trans hevents (hr.endFrame _)
    · exact hevents

/-- **One call** does to a machine what its operations do, but for the frontend's word that the dirt
is written. -/
theorem step_local (hr : Machine.Local ops r) (p : Pair C) {call : Call X} {j : Fin 2}
    (hcall : call ≠ .clearMemoryDirty j) : r (p.machine j) ((p.step ops call).machine j) := by
  cases call with
  | setLink enabled attached =>
    change r _ ((p.setLink ops enabled attached).machine j)
    unfold setLink
    split
    · exact hr.refl _
    · split
      · exact hr.refl _
      · exact hr.reset _
  | reset =>
    have himport := importPairStorage_local hr p j
    change r _ ((p.reset ops).machine j)
    unfold reset
    split
    · exact hr.refl _
    · split
      · rename_i q hq
        rwa [hq] at himport
      · rename_i q hq
        rw [hq] at himport
        exact hr.trans himport (hr.reset _)
  | runFrame events completes => exact runFrame_local hr p events completes j
  | unserializeMachine i bytes alloc => exact update_local hr (hr.unserialize _ bytes alloc) j
  | memoryInfo i => exact update_local hr (hr.exposed _) j
  | clearMemoryDirty i =>
    have hji : j ≠ i := fun h => hcall (h ▸ rfl)
    change r _ ((p.update i _).machine j)
    rw [update_ne p _ hji]
    exact hr.refl _
  | write i kind offset data => exact update_local hr (hr.write _ kind offset data) j

/-! ## Runs -/

theorem local_grows (ops : StorageOps C X) : Machine.Local ops Machine.Grows where
  refl := Machine.Grows.refl
  trans := Machine.Grows.trans
  reset m := by
    have hcore : Machine.Grows m
        { m with crashed := false, core := ops.reset m.core, resetOnce := true } := ⟨id, id, id⟩
    exact hcore.trans (Machine.grows_updateMemoryLayout ops _)
  importStorage := Machine.grows_importMachineStorage ops
  advance _ _ := ⟨id, id, id⟩
  updated m := by
    have hdirty : Machine.Grows m { m with memoryDirty := true } := ⟨id, fun _ => rfl, id⟩
    exact hdirty.trans (Machine.grows_sync ops _ false)
  crashed _ := ⟨id, id, id⟩
  endFrame m := by
    unfold Machine.endFrame
    split
    · exact ⟨id, fun _ => rfl, id⟩
    · exact .refl m
  unserialize := Machine.grows_unserializeMachine ops
  exposed m := Machine.grows_sync ops m true
  write m kind offset data := by
    cases kind with
    | firmware => exact .refl m
    | saveRam =>
      unfold Machine.write
      dsimp only
      split
      · exact ⟨id, id, id⟩
      · exact .refl m
    | rtc =>
      unfold Machine.write
      dsimp only
      split
      · exact ⟨id, id, id⟩
      · exact .refl m

theorem local_inv (h : Refines ops view chip) :
    Machine.Local ops fun m m' => m.Inv view → m'.Inv view where
  refl _ := id
  trans h₁ h₂ := h₂ ∘ h₁
  reset _ := Machine.inv_resetCore h
  importStorage _ := Machine.inv_importMachineStorage h
  advance m x := Machine.inv_core (h.advance m.core x)
  updated m hinv := by
    have hdirty : Machine.Inv view { m with memoryDirty := true } :=
      ⟨⟨hinv.1.saveSize, hinv.1.saveData, hinv.1.rtcSize, hinv.1.rtcData⟩, hinv.2⟩
    exact Machine.inv_sync h false hdirty
  crashed _ hinv := ⟨⟨hinv.1.saveSize, hinv.1.saveData, hinv.1.rtcSize, hinv.1.rtcData⟩, hinv.2⟩
  endFrame _ := Machine.inv_endFrame
  unserialize _ bytes alloc hinv := (Machine.inv_unserializeMachine h bytes alloc hinv).1
  exposed _ := Machine.inv_sync h true
  write _ kind offset data := Machine.inv_write kind offset data

/-- **The invariant of every run.** -/
theorem inv_run (h : Refines ops view chip) (cores : Fin 2 → C) (calls : List (Call X)) (i : Fin 2) :
    ((run (step ops) (created cores) calls).machine i).Inv view := by
  have hstep (p : Pair C) (call : Call X) (hinv : ∀ j, (p.machine j).Inv view) (j : Fin 2) :
      ((p.step ops call).machine j).Inv view := by
    by_cases hcall : call = .clearMemoryDirty j
    · subst hcall
      change Machine.Inv view ((p.update j _).machine j)
      rw [update_same]
      obtain ⟨hsized, hroomy⟩ := hinv j
      exact ⟨⟨hsized.saveSize, hsized.saveData, hsized.rtcSize, hsized.rtcData⟩, hroomy⟩
    · exact step_local (local_inv h) p hcall (hinv j)
  have hcreated (j : Fin 2) : ((created cores).machine j).Inv view :=
    Machine.inv_loaded view (cores j)
  exact run_invariant hstep calls hcreated i

/-- **A machine-state load keeps the battery** after any run, whatever bytes it is given and
whatever mGBA makes of them: the frontend is shown the same region, record and dirt, or the machine
is marked. The other machine is left alone. -/
theorem battery_kept (h : Refines ops view chip) (cores : Fin 2 → C) (calls : List (Call X))
    (i : Fin 2) (bytes : List Byte) (alloc : Bool × Bool) :
    let p := run (step ops) (created cores) calls
    let p' := p.step ops (.unserializeMachine i bytes alloc)
    ((p'.machine i).persistentRestoreFailed = true ∨
        Machine.Keeps ops (p.machine i) (p'.machine i)) ∧
      ∀ j, j ≠ i → p'.machine j = p.machine j := by
  intro p p'
  have hinv : (p.machine i).Inv view := inv_run h cores calls i
  have hloaded : p'.machine i = ((p.machine i).unserializeMachine ops bytes alloc).1 :=
    update_same p i _
  refine ⟨?_, fun j hj => update_ne p _ hj⟩
  rw [hloaded]
  exact (Machine.inv_unserializeMachine h bytes alloc hinv).2

/-- Two cartridges of 32 KiB with a clock that stands still. -/
def cartridges (_ : Fin 2) : Cartridge where
  device :=
    { type := .sram, bytes := blank 0x8000, file := true, clock := true, record := none,
      live := List.replicate rtcRecordSize 1, dirty := (0, 0) }
  live := List.length_replicate
  sized _ := List.length_replicate

/-- A battery is filled, imported and written to; then a state comes that erases it. -/
theorem battery_kept_erased :
    let p := run (step Cartridge.ops) (created cartridges)
      [.setLink false true, .write 0 .saveRam 0 [1, 2, 3], .runFrame [.advance 0 (3, 4)] true]
    let p' := p.step Cartridge.ops
      (.unserializeMachine 0 (Machine.stateHeader 1 (0, 0) ++ [0xaa]) (true, true))
    ((p'.machine 0).persistentRestoreFailed = true ∨
        Machine.Keeps Cartridge.ops (p.machine 0) (p'.machine 0)) ∧
      ∀ j, j ≠ 0 → p'.machine j = p.machine j :=
  battery_kept Cartridge.refines cartridges
    [.setLink false true, .write 0 .saveRam 0 [1, 2, 3], .runFrame [.advance 0 (3, 4)] true] 0
    (Machine.stateHeader 1 (0, 0) ++ [0xaa]) (true, true)

/-- An import of the pair has imported each machine. -/
theorem importPairStorage_true (himport : p.importPairStorage ops = (p', true)) (i : Fin 2) :
    (p.machine i).importMachineStorage ops = (p'.machine i, true) := by
  unfold importPairStorage at himport
  split at himport
  · cases (Prod.mk.inj himport).2
  rename_i m hfirst
  dsimp only at himport
  rw [update_ne p m (show (1 : Fin 2) ≠ 0 by decide)] at himport
  obtain ⟨rfl, hsecond⟩ := Prod.mk.inj himport
  obtain rfl | rfl : i = 0 ∨ i = 1 := by omega
  · rw [update_ne _ _ (show (0 : Fin 2) ≠ 1 by decide), update_same]
    exact hfirst
  · rw [update_same]
    exact Prod.ext rfl hsecond

/-- **An import takes over what the frontend has filled in**, after any run: a machine that had not
been imported shows the same region and, when a record was shown and is not blank, that record; the
others stay as they are. -/
theorem import_kept (h : Refines ops view chip) (cores : Fin 2 → C) (calls : List (Call X))
    (himport : (run (step ops) (created cores) calls).importPairStorage ops = (p', true))
    (i : Fin 2) :
    let m := (run (step ops) (created cores) calls).machine i
    let m' := p'.machine i
    (m.memoryImported = true → m' = m) ∧
      (m.memoryImported = false → (m'.exposed ops).saveData = m.saveData ∧
        (m.rtcSize ≠ 0 → m.rtcData ≠ blank rtcRecordSize →
          (m'.exposed ops).rtcSize = rtcRecordSize ∧ (m'.exposed ops).rtcData = m.rtcData)) := by
  intro m m'
  have hone : m.importMachineStorage ops = (m', true) := importPairStorage_true himport i
  have hsized : m.Sized := (inv_run h cores calls i).1
  constructor
  · intro himported
    have hsame : m.importMachineStorage ops = (m, true) := if_pos himported
    exact (Prod.mk.inj (hone.symm.trans hsame)).1
  · intro himported
    obtain ⟨hsized', -, hholds⟩ := Machine.importMachineStorage_holds h hsized himported hone
    obtain ⟨hregion, hrecord⟩ := hholds.exposed h hsized'
    refine ⟨hregion, fun hshown hfilled => hrecord m.rtcData ?_⟩
    unfold Machine.filledRecord Machine.shownRecord
    rw [if_neg hfilled, if_neg hshown]

/-- A cartridge takes any region. -/
theorem importMachineStorage_cartridge {m : Machine Cartridge} (h : m.Sized) :
    (m.importMachineStorage Cartridge.ops).2 = true := by
  have hrecord (n : Machine Cartridge) : (n.importRtcRecord Cartridge.ops).2 = true := by
    unfold Machine.importRtcRecord
    split
    · rfl
    · dsimp only
      split
      · rfl
      · rfl
  have hfinish (n : Machine Cartridge) : (n.finishImport Cartridge.ops true).2 = true := by
    have hn := hrecord n
    unfold Machine.finishImport
    rw [if_neg (show ¬true = false by decide)]
    split
    · rename_i q hq
      rwa [hq] at hn
    · rfl
  have hrestored (c : Cartridge) (data : List Byte) (hdata : data.length = maxSaveSize) :
      (c.restore data).2 = true := by
    unfold Cartridge.restore
    split
    · rfl
    · rename_i hauto
      have hchip : chipSize c.device.type ≤ maxSaveSize := by
        rw [maxSaveSize_eq]
        cases c.device.type <;> decide
      rw [dif_pos (by rw [c.sized hauto, hdata]; exact hchip)]
  have hlaid : (m.updateMemoryLayout Cartridge.ops).Sized :=
    Machine.sized_updateMemoryLayout Cartridge.ops h
  unfold Machine.importMachineStorage
  split
  · rfl
  · dsimp only
    split
    · have hdata : ((m.updateMemoryLayout Cartridge.ops).saveData.take
          (m.updateMemoryLayout Cartridge.ops).saveSize).length = maxSaveSize := by
        rw [List.length_take, hlaid.saveSize, hlaid.saveData, Nat.min_self]
      have htrue := hrestored (m.updateMemoryLayout Cartridge.ops).core _ hdata
      change (Machine.finishImport _ _ (Cartridge.restore _ _).2).2 = true
      rw [htrue]
      exact hfinish _
    · exact hfinish _

/-- What the frontend has filled in before the first frame is taken over. -/
theorem import_kept_written :
    let p := run (step Cartridge.ops) (created cartridges)
      [.setLink false true, .write 0 .saveRam 0 [1, 2, 3], .write 0 .rtc 0 [5]]
    ∃ p', p.importPairStorage Cartridge.ops = (p', true) ∧
      ((p.machine 0).memoryImported = true → p'.machine 0 = p.machine 0) ∧
      ((p.machine 0).memoryImported = false →
        ((p'.machine 0).exposed Cartridge.ops).saveData = (p.machine 0).saveData ∧
          ((p.machine 0).rtcSize ≠ 0 → (p.machine 0).rtcData ≠ blank rtcRecordSize →
            ((p'.machine 0).exposed Cartridge.ops).rtcSize = rtcRecordSize ∧
              ((p'.machine 0).exposed Cartridge.ops).rtcData = (p.machine 0).rtcData)) := by
  intro p
  have hsized (i : Fin 2) : (p.machine i).Sized := (inv_run Cartridge.refines cartridges _ i).1
  have hfirst := importMachineStorage_cartridge (hsized 0)
  have himport : (p.importPairStorage Cartridge.ops).2 = true := by
    unfold importPairStorage
    split
    · rename_i m hm
      rwa [hm] at hfirst
    · rename_i m hm
      dsimp only
      rw [update_ne p m (show (1 : Fin 2) ≠ 0 by decide)]
      exact importMachineStorage_cartridge (hsized 1)
  have hwhole : p.importPairStorage Cartridge.ops = ((p.importPairStorage Cartridge.ops).1, true) :=
    Prod.ext rfl himport
  exact ⟨_, hwhole, import_kept Cartridge.refines cartridges
    [.setLink false true, .write 0 .saveRam 0 [1, 2, 3], .write 0 .rtc 0 [5]] hwhole 0⟩

/-- The dirt stays until the frontend says that it is written. -/
theorem dirty_run (ops : StorageOps C X) (i : Fin 2) :
    ∀ (calls : List (Call X)) {p : Pair C}, .clearMemoryDirty i ∉ calls →
      (p.machine i).memoryDirty = true → ((run (step ops) p calls).machine i).memoryDirty = true
  | [], _, _, h => h
  | call :: calls, p, hclear, h => by
    rw [List.mem_cons, not_or] at hclear
    have hstep := step_local (local_grows ops) p (Ne.symm hclear.1)
    exact dirty_run ops i calls hclear.2 (hstep.dirty h)

/-- The size of the record and the mark stay for good. -/
theorem step_stays (ops : StorageOps C X) (p : Pair C) (call : Call X) (i : Fin 2) :
    ((p.machine i).rtcSize = rtcRecordSize →
        ((p.step ops call).machine i).rtcSize = rtcRecordSize) ∧
      ((p.machine i).persistentRestoreFailed = true →
        ((p.step ops call).machine i).persistentRestoreFailed = true) := by
  by_cases hcall : call = .clearMemoryDirty i
  · subst hcall
    change (_ → ((p.update i _).machine i).rtcSize = _) ∧
      (_ → ((p.update i _).machine i).persistentRestoreFailed = _)
    rw [update_same]
    exact ⟨id, id⟩
  · have hgrows := step_local (local_grows ops) p hcall
    exact ⟨hgrows.rtcSize, hgrows.marked⟩

/-- A marked pair runs no frame. -/
theorem runFrame_marked {i : Fin 2} (h : (p.machine i).persistentRestoreFailed = true)
    (events : List (CoreEvent X)) (completes : Bool) :
    p.runFrame ops events completes = (p, false) := by
  refine if_pos (Or.inr ?_)
  unfold marked
  obtain rfl | rfl : i = 0 ∨ i = 1 := by omega
  · rw [h, Bool.true_or]
  · rw [h, Bool.or_true]

/-- **Nothing is taken back**, whatever mGBA does: a record that was shown stays, the dirt stays
until the frontend says that it is written, and a machine whose battery could not be put back is
marked for good. From then on no frame runs and the machine takes no state. -/
theorem nothing_taken_back (ops : StorageOps C X) (p : Pair C) (calls : List (Call X)) (i : Fin 2) :
    let p' := run (step ops) p calls
    ((p.machine i).rtcSize = rtcRecordSize → (p'.machine i).rtcSize = rtcRecordSize) ∧
      (.clearMemoryDirty i ∉ calls →
        (p.machine i).memoryDirty = true → (p'.machine i).memoryDirty = true) ∧
      ((p.machine i).persistentRestoreFailed = true →
        (p'.machine i).persistentRestoreFailed = true ∧
          (∀ events completes, p'.runFrame ops events completes = (p', false)) ∧
          ∀ bytes alloc,
            (p'.machine i).unserializeMachine ops bytes alloc = (p'.machine i, false)) := by
  intro p'
  refine ⟨?_, dirty_run ops i calls, fun hmarked => ?_⟩
  · have hstep (q : Pair C) (call : Call X) (h : (q.machine i).rtcSize = rtcRecordSize) :=
      (step_stays ops q call i).1 h
    exact run_invariant hstep calls
  · have hstep (q : Pair C) (call : Call X) (h : (q.machine i).persistentRestoreFailed = true) :=
      (step_stays ops q call i).2 h
    have hmarked' : (p'.machine i).persistentRestoreFailed = true :=
      run_invariant hstep calls hmarked
    exact ⟨hmarked', runFrame_marked hmarked', Machine.unserializeMachine_marked hmarked'⟩

end Pair

end DualBoy.MgbaStorage
