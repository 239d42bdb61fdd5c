import DualBoy.MgbaStorage.Device

/-!
# A state load keeps the battery

`mgba_unserialize_machine` lets mGBA load a raw state, which brings its own save type, bytes and
clock, and puts the live battery back behind it. Either that fails and the machine is marked, or
the frontend finds the region and the record as they would have been without the load.

* `syncMachineStorage_eq`: what `sync_machine_storage` comes to.
* `Holds`: the device holds what the frontend has been shown; `Holds.exposed` says that it is shown
  the same again.
* `restoreSavedata_agrees`, `restoreRtcRecord_holds`: the two halves of a restore.
* **`unserializeMachine_keeps`**.
-/

namespace DualBoy.MgbaStorage

open DualBoy.Lib

variable {C X : Type} {ops : StorageOps C X} {view : C → Device} {chip : SavedataType → Nat}
  {m m' : Machine C}

namespace Machine

/-! ## The copy -/

/-- What a machine always keeps of its regions. -/
structure Sized (m : Machine C) : Prop where
  saveSize : m.saveSize = maxSaveSize
  saveData : m.saveData.length = maxSaveSize
  rtcSize : m.rtcSize = 0 ∨ m.rtcSize = rtcRecordSize
  rtcData : m.rtcData.length = rtcRecordSize

theorem copySavedata_eq (h : Refines ops view chip) (m : Machine C) :
    m.copySavedata ops = { m with saveData := mirrored m.saveData (view m.core).bytes } := by
  unfold copySavedata mirrored
  rw [h.clone]
  by_cases hnil : (view m.core).bytes = []
  · rw [if_pos hnil, if_neg (fun hcopied => hcopied.1 hnil)]
  · have hlength : (view m.core).bytes.length ≠ 0 := fun h0 => hnil (List.length_eq_zero_iff.mp h0)
    rw [if_neg hnil]
    dsimp only
    by_cases hfits : (view m.core).bytes.length ≤ maxSaveSize
    · rw [if_pos ⟨hlength, hfits⟩, if_pos ⟨hnil, hfits⟩]
    · rw [if_neg (fun hcopied => hfits hcopied.2), if_neg (fun hcopied => hfits hcopied.2)]

theorem recordOffset_eq (h : Refines ops view chip) (m : Machine C) :
    m.recordOffset ops = (view m.core).recordOffset := by
  unfold recordOffset Device.recordOffset
  rw [h.size]

theorem readRtcRecord_eq (h : Refines ops view chip) (hsize : m.rtcSize = rtcRecordSize) :
    m.readRtcRecord ops = { m with rtcData := (view m.core).readRecord m.rtcData } := by
  unfold readRtcRecord Device.readRecord
  rw [h.file, recordOffset_eq h]
  cases hfile : (view m.core).file with
  | false => rw [if_pos (Or.inl rfl), if_pos rfl]
  | true =>
    rw [if_neg (by simp [hsize]), h.record _ hfile, if_neg (by simp)]
    cases (view m.core).record with
    | none => rfl
    | some record => rfl

/-- The size of the RTC region behind a look at the hardware. -/
def layoutSize (d : Device) (m : Machine C) : Nat := if d.clock then rtcRecordSize else m.rtcSize

theorem updateMemoryLayout_eq (h : Refines ops view chip) (m : Machine C) :
    m.updateMemoryLayout ops = { m with rtcSize := layoutSize (view m.core) m } := by
  unfold updateMemoryLayout layoutSize
  rw [h.clock]
  split
  · rfl
  · rfl

/-- The core behind a look at the storage. -/
def syncedCore (ops : StorageOps C X) (m : Machine C) (size : Nat) (flush : Bool) : C :=
  if size ≠ 0 ∧ flush = true then ops.rtcWrite m.core else m.core

/-- **What `sync_machine_storage` comes to.** -/
theorem syncMachineStorage_eq (h : Refines ops view chip) (hsized : m.Sized)
    (himported : m.memoryImported = true) (flush : Bool) :
    let size := layoutSize (view m.core) m
    let core := syncedCore ops m size flush
    m.syncMachineStorage ops flush =
      { m with
        core
        saveData := mirrored m.saveData (view m.core).bytes
        rtcSize := size
        rtcData := if size = 0 then m.rtcData else (view core).readRecord m.rtcData } := by
  intro size core
  have hsize : size ≠ 0 → size = rtcRecordSize := by
    have hcases : size = rtcRecordSize ∨ size = m.rtcSize := by
      by_cases hclock : (view m.core).clock = true
      · exact Or.inl (if_pos hclock)
      · exact Or.inr (if_neg hclock)
    rcases hcases with hsize | hsize
    · exact fun _ => hsize
    · intro hne
      rw [hsize] at hne ⊢
      exact hsized.rtcSize.resolve_left hne
  have hlayout : (m.copySavedata ops).updateMemoryLayout ops =
      { m with saveData := mirrored m.saveData (view m.core).bytes, rtcSize := size } := by
    rw [updateMemoryLayout_eq h, copySavedata_eq h]
    rfl
  unfold syncMachineStorage
  rw [if_neg (by rw [himported]; exact Bool.noConfusion), hlayout]
  dsimp only
  by_cases hzero : size = 0
  · have hcore : core = m.core := if_neg fun hflush => hflush.1 hzero
    rw [if_pos hzero, if_pos hzero, hcore]
  · rw [if_neg hzero, if_neg hzero]
    cases flush with
    | false =>
      have hcore : core = m.core := if_neg fun hflush => Bool.noConfusion hflush.2
      rw [if_neg Bool.false_ne_true, readRtcRecord_eq h (hsize hzero), hcore]
    | true =>
      have hcore : core = ops.rtcWrite m.core := if_pos ⟨hzero, rfl⟩
      rw [if_pos rfl, readRtcRecord_eq h (hsize hzero), hcore]
      rfl

/-- A machine whose storage was not imported is left alone. -/
theorem syncMachineStorage_unimported (himported : m.memoryImported = false) (flush : Bool) :
    m.syncMachineStorage ops flush = m := if_pos himported

/-! ## What the frontend is shown -/

/-- The record, when there is one to be shown. -/
def shownRecord (m : Machine C) : Option (List Byte) :=
  if m.rtcSize = 0 then none else some m.rtcData

/-- A record can be put behind the bytes of an imported device. -/
def Roomy (view : C → Device) (m : Machine C) : Prop :=
  m.memoryImported = true → (view m.core).Roomy

/-- The device holds what the frontend has been shown: a region and, if so, a record. -/
structure Holds (view : C → Device) (m : Machine C) (region : List Byte)
    (record : Option (List Byte)) : Prop where
  saveData : m.saveData = region
  agrees : m.memoryImported = true → Agrees region (view m.core).bytes
  shown : ∀ r, record = some r → m.rtcSize = rtcRecordSize ∧ m.rtcData = r ∧
    (m.memoryImported = true → (view m.core).flush.readRecord r = r)

theorem view_syncedCore (h : Refines ops view chip) (m : Machine C) (size : Nat) :
    view (syncedCore ops m size true) = if size = 0 then view m.core else (view m.core).flush := by
  unfold syncedCore
  by_cases hzero : size = 0
  · rw [if_neg (fun hflush => hflush.1 hzero), if_pos hzero]
  · rw [if_pos ⟨hzero, rfl⟩, if_neg hzero, h.rtcWrite]

theorem layoutSize_cases (hsized : m.Sized) (d : Device) :
    layoutSize d m = 0 ∨ layoutSize d m = rtcRecordSize := by
  unfold layoutSize
  split
  · exact Or.inr rfl
  · exact hsized.rtcSize

/-- A size that was shown stays. -/
theorem layoutSize_eq (d : Device) (h : m.rtcSize = rtcRecordSize) :
    layoutSize d m = rtcRecordSize := by
  unfold layoutSize
  split
  · rfl
  · exact h

theorem sized_sync (h : Refines ops view chip) (hsized : m.Sized) (flush : Bool) :
    (m.syncMachineStorage ops flush).Sized := by
  cases himported : m.memoryImported with
  | false =>
    rw [syncMachineStorage_unimported himported]
    exact hsized
  | true =>
    rw [syncMachineStorage_eq h hsized himported]
    refine ⟨hsized.saveSize, length_mirrored hsized.saveData _, layoutSize_cases hsized _, ?_⟩
    dsimp only
    split
    · exact hsized.rtcData
    · exact (Device.length_readRecord _ hsized.rtcData)

/-- **What the frontend is shown is what the device holds.** -/
theorem holds_exposed (h : Refines ops view chip) (hsized : m.Sized) (hroomy : m.Roomy view) :
    (m.exposed ops).Roomy view ∧
      Holds view (m.exposed ops) (m.exposed ops).saveData (m.exposed ops).shownRecord := by
  have hsized' : (m.exposed ops).Sized := sized_sync h hsized true
  have hshown (r : List Byte) (hr : (m.exposed ops).shownRecord = some r) :
      (m.exposed ops).rtcSize = rtcRecordSize ∧ (m.exposed ops).rtcData = r := by
    unfold shownRecord at hr
    split at hr
    · cases hr
    · rename_i hne
      exact ⟨hsized'.rtcSize.resolve_left hne, Option.some.inj hr⟩
  cases himported : m.memoryImported with
  | false =>
    have hexposed : m.exposed ops = m := syncMachineStorage_unimported himported true
    have hnot : ¬(m.exposed ops).memoryImported = true := by
      rw [hexposed, himported]
      exact Bool.false_ne_true
    exact ⟨fun hi => absurd hi hnot, rfl, fun hi => absurd hi hnot,
      fun r hr => ⟨(hshown r hr).1, (hshown r hr).2, fun hi => absurd hi hnot⟩⟩
  | true =>
    have hexposed := syncMachineStorage_eq h hsized himported true
    have hagrees := agrees_mirrored m.saveData (view m.core).bytes
    obtain ⟨hflushed, hroom⟩ := hagrees.flush (hroomy himported) (h.live m.core)
    have hcore : view (m.exposed ops).core = if layoutSize (view m.core) m = 0 then view m.core
        else (view m.core).flush := by
      unfold exposed
      rw [hexposed]
      exact view_syncedCore h m _
    have hregion : (m.exposed ops).saveData = mirrored m.saveData (view m.core).bytes := by
      unfold exposed
      rw [hexposed]
    refine ⟨fun _ => ?_, rfl, fun _ => ?_, fun r hr => ?_⟩
    · rw [hcore]
      split
      · exact hroomy himported
      · exact hroom
    · rw [hcore, hregion]
      split
      · exact hagrees
      · exact hflushed
    · obtain ⟨hsize, hdata⟩ := hshown r hr
      have hlayout : layoutSize (view m.core) m ≠ 0 := by
        have hsize' : (m.exposed ops).rtcSize = layoutSize (view m.core) m := by
          unfold exposed
          rw [hexposed]
        rw [← hsize', hsize]
        decide
      have hread : r = (view m.core).flush.readRecord m.rtcData := by
        rw [← hdata]
        unfold exposed
        rw [hexposed]
        dsimp only
        rw [if_neg hlayout, view_syncedCore h, if_neg hlayout]
      refine ⟨hsize, hdata, fun _ => ?_⟩
      rw [hcore, if_neg hlayout, hread,
        Device.readRecord_congr (Device.flush_file _) (Device.flush_flush_record _),
        Device.readRecord_readRecord]

/-- **What a device holds is shown again.** -/
theorem Holds.exposed {region : List Byte} {record : Option (List Byte)}
    (hholds : Holds view m region record) (h : Refines ops view chip) (hsized : m.Sized) :
    (m.exposed ops).saveData = region ∧ ∀ r, record = some r →
      (m.exposed ops).rtcSize = rtcRecordSize ∧ (m.exposed ops).rtcData = r := by
  unfold Machine.exposed
  cases himported : m.memoryImported with
  | false =>
    rw [syncMachineStorage_unimported himported]
    exact ⟨hholds.saveData, fun r hr => ⟨(hholds.shown r hr).1, (hholds.shown r hr).2.1⟩⟩
  | true =>
    rw [syncMachineStorage_eq h hsized himported]
    dsimp only
    constructor
    · rw [hholds.saveData, mirrored_eq (hholds.agrees himported)]
    · intro r hr
      obtain ⟨hsize, hdata, hread⟩ := hholds.shown r hr
      have hlayout := layoutSize_eq (view m.core) hsize
      have hne : layoutSize (view m.core) m ≠ 0 := by
        rw [hlayout]
        decide
      refine ⟨hlayout, ?_⟩
      rw [if_neg hne, view_syncedCore h, if_neg hne, hdata]
      exact hread himported

/-! ## The snapshot -/

/-- The snapshot of an imported device. -/
def snapshotOf (d : Device) (m : Machine C) : PersistentSnapshot where
  type := d.type
  saveData := if d.bytes = [] then none else some d.bytes
  saveSize := d.bytes.length
  stableSaveData := some m.saveData
  stableSaveSize := maxSaveSize
  rtcSize := m.rtcSize
  rtcData := if m.rtcSize ≠ 0 then m.rtcData else List.replicate rtcRecordSize 0
  memoryDirty := m.memoryDirty
  savedataDirty := d.dirty
  liveCaptured := true

theorem maxSaveSize_pos : 0 < maxSaveSize := by
  rw [maxSaveSize_eq]
  decide

theorem liveSnapshot_eq_some (h : Refines ops view chip) (hsized : m.Sized) {alloc : Bool}
    {snapshot : PersistentSnapshot} (hsnapshot : m.liveSnapshot ops alloc = some snapshot) :
    snapshot = snapshotOf (view m.core) m := by
  have hne : m.saveSize ≠ 0 := by
    rw [hsized.saveSize]
    exact Nat.pos_iff_ne_zero.mp maxSaveSize_pos
  have hstable : m.saveData.take m.saveSize = m.saveData := by
    rw [hsized.saveSize, ← hsized.saveData, List.take_length]
  unfold liveSnapshot at hsnapshot
  rw [h.clone] at hsnapshot
  simp only [Option.ite_none_left_eq_some] at hsnapshot
  obtain ⟨-, -, -, hsnapshot⟩ := hsnapshot
  rw [← Option.some.inj hsnapshot, if_pos hne, hstable, hsized.saveSize]
  unfold shallowSnapshot snapshotOf
  rw [h.type, h.dirty]

theorem mergeSavedataType_autodetect {current restored : SavedataType} :
    mergeSavedataType current restored = .autodetect ↔
      current = .autodetect ∧ restored = .autodetect := by
  cases current <;> cases restored <;> decide

/-- The bytes a restore finds are the front of the region, or, as long as no type is detected, those
of the device. -/
theorem restoredBytes_eq_some {d : Device} (hsized : m.Sized) (hagrees : Agrees m.saveData d.bytes)
    {selected : SavedataType} {size : Nat} {bytes : List Byte}
    (hbytes : restoredBytes (snapshotOf d m) selected size = some bytes) :
    (selected = .autodetect → bytes = d.bytes) ∧
      (selected ≠ .autodetect → bytes.length = size ∧ bytes <+: m.saveData) := by
  have hwhole : (snapshotOf d m).saveData.getD [] = d.bytes := by
    unfold snapshotOf
    dsimp only
    by_cases hnil : d.bytes = []
    · rw [if_pos hnil, hnil]
      rfl
    · rw [if_neg hnil]
      rfl
  unfold restoredBytes at hbytes
  rw [hwhole] at hbytes
  constructor
  · intro hauto
    rw [if_neg (fun hlive => hlive.2 hauto)] at hbytes
    exact (Option.some.inj hbytes).symm
  · intro htyped
    rw [if_pos ⟨rfl, htyped⟩] at hbytes
    split at hbytes
    · cases hbytes
    rename_i hfits
    split at hbytes
    · split at hbytes
      · cases hbytes
      · obtain rfl := Option.some.inj hbytes
        refine ⟨?_, List.take_prefix _ _⟩
        change (m.saveData.take size).length = size
        rw [List.length_take, hsized.saveData]
        omega
    · rename_i hsame
      obtain rfl := Option.some.inj hbytes
      have hlength : d.bytes.length = size := (not_not.mp hsame).symm
      exact ⟨hlength, hagrees.resolve_left (by omega)⟩

/-! ## The restore -/

/-- **The bytes are put back**: of a device of a known type those the frontend was shown, whatever
its type was before and whatever the state has made of it. -/
theorem restoreSavedata_agrees (h : Refines ops view chip) (hsized : m.Sized)
    (hagrees : Agrees m.saveData (view m.core).bytes) (hroomy : (view m.core).Roomy)
    {core forced : C} {selected : SavedataType}
    (hload : (view m.core).type = .autodetect → (view core).type = .autodetect →
      (view core).bytes.length = (view m.core).bytes.length)
    (hselected : selected = mergeSavedataType (view m.core).type (view core).type)
    (hforced : forced = ops.forceType core selected)
    (hrestored : restoreSavedata ops { m with core := forced } (snapshotOf (view m.core) m) selected =
      (m', true)) :
    m' = { m with core := m'.core } ∧ Agrees m.saveData (view m'.core).bytes ∧
      (view m'.core).Roomy := by
  have htype : (view forced).type = selected := hforced ▸ h.forceType core selected
  -- a device whose type is not detected is the one before the load, and its file has its size
  have hfile : selected = .autodetect →
      (view forced).bytes.length = (view m.core).bytes.length ∧
        maxSaveSize ≤ (view m.core).bytes.length := by
    intro hauto
    obtain ⟨hbefore, hafter⟩ := mergeSavedataType_autodetect.mp (hselected ▸ hauto)
    have hsame : forced = core := by
      rw [hforced, hauto, ← hafter]
      exact h.forceType_same core
    rw [hsame]
    exact ⟨hload hbefore hafter, hroomy hbefore⟩
  unfold restoreSavedata at hrestored
  dsimp only at hrestored
  split at hrestored
  · cases (Prod.mk.inj hrestored).2
  rename_i bytes hbytes
  rw [h.size] at hbytes
  obtain ⟨hauto, htyped⟩ := restoredBytes_eq_some hsized hagrees hbytes
  split at hrestored
  · obtain ⟨rfl, hok⟩ := Prod.mk.inj hrestored
    refine ⟨rfl, ?_⟩
    have hcall : ops.savedataRestore forced bytes =
        ((ops.savedataRestore forced bytes).1, true) := Prod.ext rfl hok
    obtain ⟨-, htype', hbytes'⟩ := h.savedataRestore _ _ _ hcall
    dsimp only
    unfold Device.restored at hbytes'
    by_cases hdetected : selected = .autodetect
    · obtain ⟨hlength, hroom⟩ := hfile hdetected
      have hback : (view (ops.savedataRestore forced bytes).1).bytes = (view m.core).bytes := by
        rw [hbytes', if_pos (htype.trans hdetected), hauto hdetected]
        unfold writeAt
        rw [List.take_zero, List.nil_append, Nat.zero_add, ← hlength, List.drop_length,
          List.append_nil]
      rw [hback]
      refine ⟨hagrees, fun _ => ?_⟩
      rw [hback]
      exact hroom
    · obtain ⟨hlength, hfront⟩ := htyped hdetected
      have hback : (view (ops.savedataRestore forced bytes).1).bytes = bytes := by
        rw [hbytes', if_neg (by rwa [htype]), ← hlength, List.take_length]
      rw [hback]
      exact ⟨Or.inr hfront, fun hauto' => absurd (htype'.symm.trans hauto') (by rwa [htype])⟩
  · rename_i hempty
    obtain ⟨rfl, -⟩ := Prod.mk.inj hrestored
    have hnil : bytes.length = 0 := by
      by_contra hne
      exact hempty ⟨rfl, hne⟩
    have hdetected : selected ≠ .autodetect := by
      intro hdetected
      have hroom := (hfile hdetected).2
      have hpos := maxSaveSize_pos
      rw [hauto hdetected] at hnil
      omega
    have hblank : (view forced).bytes = [] :=
      List.length_eq_zero_iff.mp ((htyped hdetected).1.symm.trans hnil)
    refine ⟨rfl, ?_, fun hauto' => absurd (htype.symm.trans hauto') hdetected⟩
    rw [hblank]
    exact Or.inr List.nil_prefix

/-- A record that is written behind the bytes of a device, and the clock that is set by it. -/
theorem rtcRead_fileWrite (h : Refines ops view chip) {region record : List Byte} {core : C}
    (hagrees : Agrees region (view m.core).bytes) (hroomy : (view m.core).Roomy)
    (hfile : (view m.core).file = true) (hrecord : record.length = rtcRecordSize)
    (hwrite : ops.fileWrite m.core (m.recordOffset ops) record = (core, true)) :
    Agrees region (view (ops.rtcRead core)).bytes ∧ (view (ops.rtcRead core)).Roomy ∧
      ∀ old, (view (ops.rtcRead core)).readRecord old = record ∧
        (view (ops.rtcRead core)).flush.readRecord old = record := by
  rw [recordOffset_eq h] at hwrite
  have hput := h.fileWrite _ _ _ hfile hrecord hwrite
  have hfile' : (view core).file = true := by
    rw [hput]
    exact hfile
  let d : Device := { (view m.core).putRecord record with live := record }
  have hset : view (ops.rtcRead core) = d := by
    rw [h.rtcRead core hfile', hput]
    unfold Device.readClock
    simp only [Device.putRecord_record, if_pos hrecord]
    rfl
  have hfile'' : d.file = true := hfile
  have hrecord' : d.record = some record := rfl
  have hlive : d.live = record := rfl
  obtain ⟨hagrees', hroomy'⟩ := hagrees.putRecord hroomy hrecord
  rw [hset]
  refine ⟨hagrees', hroomy', fun old => ⟨?_, ?_⟩⟩
  · exact Device.readRecord_of_record hfile'' hrecord' hrecord old
  · exact Device.flush_readRecord_of_record hfile'' hrecord' hlive hrecord old

/-- **The record is put back**, and the clock is set by it. -/
theorem restoreRtcRecord_holds (h : Refines ops view chip) {region : List Byte}
    (hagrees : Agrees region (view m.core).bytes) (hroomy : (view m.core).Roomy)
    {snapshot : PersistentSnapshot} (hlive : snapshot.liveCaptured = true)
    (hdata : snapshot.rtcData.length = rtcRecordSize)
    (hrestored : m.restoreRtcRecord ops snapshot = (m', true)) :
    m' = { m with core := m'.core } ∧ Agrees region (view m'.core).bytes ∧ (view m'.core).Roomy ∧
      (snapshot.rtcSize ≠ 0 → ∀ old, (view m'.core).readRecord old = snapshot.rtcData ∧
        (view m'.core).flush.readRecord old = snapshot.rtcData) := by
  unfold restoreRtcRecord at hrestored
  split at hrestored
  · rename_i hshown
    split at hrestored
    · cases (Prod.mk.inj hrestored).2
    rename_i hthere
    rw [h.file, h.clock, not_or, Bool.not_eq_false, Bool.not_eq_false] at hthere
    dsimp only at hrestored
    split at hrestored
    · cases (Prod.mk.inj hrestored).2
    rename_i core hwrite
    obtain ⟨rfl, -⟩ := Prod.mk.inj hrestored
    have hflushed : view (m.flushRtc ops).core = (view m.core).flush := h.rtcWrite m.core
    obtain ⟨hagrees', hroomy'⟩ := hagrees.flush hroomy (h.live m.core)
    rw [← hflushed] at hagrees' hroomy'
    have hfile : (view (m.flushRtc ops).core).file = true := by
      rw [hflushed, Device.flush_file, hthere.1]
    obtain ⟨hagrees'', hroomy'', hread⟩ := rtcRead_fileWrite h hagrees' hroomy' hfile hdata hwrite
    exact ⟨rfl, hagrees'', hroomy'', fun _ => hread⟩
  · rename_i hnone
    obtain ⟨rfl, -⟩ := Prod.mk.inj hrestored
    exact ⟨rfl, hagrees, hroomy, fun hne => absurd ⟨hlive, hne⟩ hnone⟩

/-- The two halves of a restore change the core alone. -/
theorem restoreSavedata_core (ops : StorageOps C X) (m : Machine C) (snapshot : PersistentSnapshot)
    (selected : SavedataType) :
    ∃ core, (m.restoreSavedata ops snapshot selected).1 = { m with core } := by
  unfold restoreSavedata
  split
  · exact ⟨m.core, rfl⟩
  · split
    · exact ⟨_, rfl⟩
    · exact ⟨m.core, rfl⟩

theorem restoreRtcRecord_core (ops : StorageOps C X) (m : Machine C)
    (snapshot : PersistentSnapshot) :
    ∃ core, (m.restoreRtcRecord ops snapshot).1 = { m with core } := by
  unfold restoreRtcRecord
  split
  · split
    · exact ⟨m.core, rfl⟩
    · dsimp only
      split
      · exact ⟨_, rfl⟩
      · exact ⟨_, rfl⟩
  · exact ⟨m.core, rfl⟩

/-- The machine behind both halves, before it is looked at again. -/
def putBack (ops : StorageOps C X) (m : Machine C) (snapshot : PersistentSnapshot) (core : C) :
    Machine C :=
  { m with
    rtcSize := snapshot.rtcSize
    memoryDirty := snapshot.memoryDirty
    core := ops.setDirty core snapshot.savedataDirty }

/-- What a restore comes to: both halves, one after the other. -/
theorem restorePersistentStorage_eq (ops : StorageOps C X) (m : Machine C)
    (snapshot : PersistentSnapshot) :
    let selected := mergeSavedataType snapshot.type (ops.savedataType m.core)
    let first := restoreSavedata ops { m with core := ops.forceType m.core selected } snapshot selected
    let second := first.1.restoreRtcRecord ops snapshot
    m.restorePersistentStorage ops snapshot =
      ((m.putBack ops snapshot second.1.core).syncMachineStorage ops false, first.2 && second.2) := by
  intro selected first second
  obtain ⟨core₁, hfirst⟩ := restoreSavedata_core ops
    { m with core := ops.forceType m.core selected } snapshot selected
  obtain ⟨core₂, hsecond⟩ := restoreRtcRecord_core ops first.1 snapshot
  have hput : { second.1 with
      rtcSize := snapshot.rtcSize
      memoryDirty := snapshot.memoryDirty
      core := ops.setDirty second.1.core snapshot.savedataDirty } =
        m.putBack ops snapshot second.1.core := by
    have hsecond' : second.1 = { m with core := core₂ } := by
      rw [show second.1 = { first.1 with core := core₂ } from hsecond,
        show first.1 = { m with core := core₁ } from hfirst]
    rw [hsecond']
    rfl
  unfold restorePersistentStorage
  dsimp only
  rw [← hput]

theorem sized_putBack (hsized : m.Sized) (snapshot : PersistentSnapshot)
    (hsize : snapshot.rtcSize = m.rtcSize) (core : C) : (m.putBack ops snapshot core).Sized := by
  refine ⟨hsized.saveSize, hsized.saveData, ?_, hsized.rtcData⟩
  change snapshot.rtcSize = 0 ∨ snapshot.rtcSize = rtcRecordSize
  rw [hsize]
  exact hsized.rtcSize

/-- **A restore that succeeds** leaves the device with what the frontend has been shown. -/
theorem restorePersistentStorage_holds (h : Refines ops view chip) (hsized : m.Sized)
    (himported : m.memoryImported = true) (hroomy : m.Roomy view)
    (hholds : Holds view m m.saveData m.shownRecord) {core : C}
    (hload : (view m.core).type = .autodetect → (view core).type = .autodetect →
      (view core).bytes.length = (view m.core).bytes.length)
    (hrestored : restorePersistentStorage ops { m with core } (snapshotOf (view m.core) m) =
      (m', true)) :
    m'.Roomy view ∧ Holds view m' m.saveData m.shownRecord ∧ m'.memoryDirty = m.memoryDirty ∧
      (view m'.core).dirty = (view m.core).dirty := by
  have hdata : (snapshotOf (view m.core) m).rtcData.length = rtcRecordSize := by
    unfold snapshotOf
    dsimp only
    split
    · exact hsized.rtcData
    · exact List.length_replicate
  rw [restorePersistentStorage_eq] at hrestored
  obtain ⟨hm', hok⟩ := Prod.mk.inj hrestored
  rw [Bool.and_eq_true] at hok
  obtain ⟨hok₁, hok₂⟩ := hok
  generalize hfirst : restoreSavedata ops _ (snapshotOf (view m.core) m) _ = first
    at hm' hok₁ hok₂
  generalize hsecond : first.1.restoreRtcRecord ops (snapshotOf (view m.core) m) = second
    at hm' hok₂
  obtain ⟨firstMachine, firstOk⟩ := first
  obtain ⟨secondMachine, secondOk⟩ := second
  dsimp only at hok₁ hok₂ hm' hsecond
  subst hok₁ hok₂
  rw [h.type] at hfirst
  obtain ⟨-, hagrees₁, hroomy₁⟩ := restoreSavedata_agrees h hsized (hholds.agrees himported)
    (hroomy himported) hload rfl rfl hfirst
  obtain ⟨-, hagrees₂, hroomy₂, hrecord⟩ :=
    restoreRtcRecord_holds h hagrees₁ hroomy₁ rfl hdata hsecond
  set b := putBack ops { m with core } (snapshotOf (view m.core) m) secondMachine.core with hb
  have hview : view b.core = { view secondMachine.core with dirty := (view m.core).dirty } :=
    h.setDirty _ _
  have hsized' : b.Sized := sized_putBack ⟨hsized.saveSize, hsized.saveData, hsized.rtcSize,
    hsized.rtcData⟩ _ rfl _
  rw [syncMachineStorage_eq h hsized' himported] at hm'
  have hsynced (size : Nat) : syncedCore ops b size false = b.core :=
    if_neg fun hflush => Bool.noConfusion hflush.2
  rw [hsynced] at hm'
  subst hm'
  refine ⟨fun _ => ?_, ⟨?_, fun _ => ?_, fun r hr => ?_⟩, rfl, ?_⟩
  · rw [hview]
    exact hroomy₂
  · dsimp only
    rw [hview]
    exact mirrored_eq hagrees₂
  · rw [hview]
    exact hagrees₂
  · have hsize : m.rtcSize ≠ 0 := by
      intro hzero
      unfold shownRecord at hr
      rw [if_pos hzero] at hr
      cases hr
    have hr' : (snapshotOf (view m.core) m).rtcData = r := by
      unfold shownRecord at hr
      rw [if_neg hsize] at hr
      unfold snapshotOf
      dsimp only
      rw [if_pos hsize]
      exact Option.some.inj hr
    have hlayout : layoutSize (view b.core) b = rtcRecordSize :=
      layoutSize_eq _ (hsized.rtcSize.resolve_left hsize)
    refine ⟨hlayout, ?_, fun _ => ?_⟩
    · dsimp only
      rw [hlayout, if_neg (by decide), hview, ← hr']
      exact (hrecord hsize _).1
    · have hflush : (view b.core).flush.readRecord r =
          (view secondMachine.core).flush.readRecord r := by
        refine Device.flush_readRecord_congr ?_ ?_ ?_ ?_ r
        · rw [hview]
        · rw [hview]
        · rw [hview]
        · rw [hview]
      dsimp only
      rw [hflush, (hrecord hsize r).2, hr']
  · dsimp only
    rw [hview]

/-- A device that is not imported has nothing put back but its dirt. -/
theorem restorePersistentStorage_unimported (h : Refines ops view chip)
    (himported : m.memoryImported = false) (core : C) :
    ∃ core', restorePersistentStorage ops { m with core } (m.shallowSnapshot ops) =
        ({ m with core := core' }, true) ∧ (view core').dirty = (view m.core).dirty := by
  have hlive : (m.shallowSnapshot ops).liveCaptured ≠ true := Bool.false_ne_true
  have hfirst (n : Machine C) (selected : SavedataType) :
      n.restoreSavedata ops (m.shallowSnapshot ops) selected = (n, true) := by
    unfold restoreSavedata restoredBytes
    rw [if_neg (fun hlive' => hlive hlive'.1)]
    exact if_neg fun hlive' => hlive hlive'.1
  have hsecond (n : Machine C) : n.restoreRtcRecord ops (m.shallowSnapshot ops) = (n, true) :=
    if_neg fun hlive' => hlive hlive'.1
  rw [restorePersistentStorage_eq]
  dsimp only
  rw [hfirst, hsecond]
  have hput (core' : C) : (putBack ops { m with core } (m.shallowSnapshot ops)
      core').syncMachineStorage ops false =
        { m with core := ops.setDirty core' (m.shallowSnapshot ops).savedataDirty } := by
    rw [syncMachineStorage_unimported (show (putBack ops { m with core } (m.shallowSnapshot ops)
      core').memoryImported = false from himported)]
    rfl
  rw [hput]
  refine ⟨_, rfl, ?_⟩
  rw [h.setDirty]
  exact h.dirty m.core

/-! ## A load -/

/-- **The battery is kept**: the frontend is shown the same region, the same record if it was shown
one, and the same dirt. -/
structure Keeps (ops : StorageOps C X) (m m' : Machine C) : Prop where
  saveData : (m'.exposed ops).saveData = (m.exposed ops).saveData
  record : (m.exposed ops).rtcSize ≠ 0 → (m'.exposed ops).rtcSize = (m.exposed ops).rtcSize ∧
    (m'.exposed ops).rtcData = (m.exposed ops).rtcData
  dirty : m'.isMemoryDirty ops = m.isMemoryDirty ops

theorem Keeps.refl (ops : StorageOps C X) (m : Machine C) : Keeps ops m m :=
  ⟨rfl, fun _ => ⟨rfl, rfl⟩, rfl⟩

/-- A look at the storage leaves these alone. -/
theorem exposed_frame (h : Refines ops view chip) (hsized : m.Sized) :
    (m.exposed ops).memoryDirty = m.memoryDirty ∧
      (view (m.exposed ops).core).dirty = (view m.core).dirty ∧
      (m.exposed ops).memoryImported = m.memoryImported := by
  unfold exposed
  cases himported : m.memoryImported with
  | false =>
    rw [syncMachineStorage_unimported himported]
    exact ⟨rfl, rfl, himported⟩
  | true =>
    rw [syncMachineStorage_eq h hsized himported]
    refine ⟨rfl, ?_, himported⟩
    dsimp only
    rw [view_syncedCore h]
    split
    · rfl
    · exact Device.flush_dirty _

/-- A machine that holds what another one shows keeps its battery. -/
theorem Holds.keeps (h : Refines ops view chip) (hsized : m.Sized) (hsized' : m'.Sized)
    (hholds : Holds view m' (m.exposed ops).saveData (m.exposed ops).shownRecord)
    (hdirty : m'.memoryDirty = m.memoryDirty)
    (hdirty' : (view m'.core).dirty = (view m.core).dirty) : Keeps ops m m' := by
  obtain ⟨hregion, hrecord⟩ := hholds.exposed h hsized'
  have hexposed : (m.exposed ops).Sized := sized_sync h hsized true
  refine ⟨hregion, fun hshown => ?_, ?_⟩
  · obtain ⟨hsize, hdata⟩ := hrecord _ (if_neg hshown)
    exact ⟨hsize.trans (hexposed.rtcSize.resolve_left hshown).symm, hdata⟩
  · unfold isMemoryDirty
    rw [h.dirty, h.dirty, hdirty, hdirty']

/-- The end of a load leaves the battery alone. -/
theorem finishLoad_holds (h : Refines ops view chip) (hsized : m.Sized) (hroomy : m.Roomy view)
    {region : List Byte} {record : Option (List Byte)} (hholds : Holds view m region record)
    (loaded : Bool) (source : Nat × BitVec 64) :
    let m' := (m.finishLoad ops loaded true source).1
    m'.Sized ∧ m'.Roomy view ∧ Holds view m' region record ∧ m'.memoryDirty = m.memoryDirty ∧
      (view m'.core).dirty = (view m.core).dirty := by
  cases loaded with
  | false => exact ⟨hsized, hroomy, hholds, rfl, rfl⟩
  | true =>
    let n : Machine C :=
      { m with core := ops.setRtcSource m.core source, crashed := false, resetOnce := true }
    have hn : (m.finishLoad ops true true source).1 =
        { n with rtcSize := layoutSize (view n.core) n } := updateMemoryLayout_eq h n
    have hview : view n.core = view m.core := h.setRtcSource m.core source
    intro m'
    have hm' : m' = { n with rtcSize := layoutSize (view n.core) n } := hn
    have hlayout : layoutSize (view n.core) n = 0 ∨ layoutSize (view n.core) n = rtcRecordSize :=
      layoutSize_cases ⟨hsized.saveSize, hsized.saveData, hsized.rtcSize, hsized.rtcData⟩ _
    rw [hm']
    refine ⟨⟨hsized.saveSize, hsized.saveData, hlayout, hsized.rtcData⟩, fun himported => ?_,
      ⟨hholds.saveData, fun himported => ?_, fun r hr => ?_⟩, rfl, ?_⟩
    · dsimp only
      rw [hview]
      exact hroomy himported
    · dsimp only
      rw [hview]
      exact hholds.agrees himported
    · obtain ⟨hsize, hdata, hread⟩ := hholds.shown r hr
      refine ⟨layoutSize_eq _ hsize, hdata, fun himported => ?_⟩
      dsimp only
      rw [hview]
      exact hread himported
    · dsimp only
      rw [hview]

/-- **A machine-state load keeps the battery**, whatever it loads and however it ends, or else marks
the machine. -/
theorem unserializeMachine_keeps (h : Refines ops view chip) (hsized : m.Sized)
    (hroomy : m.Roomy view) (bytes : List Byte) (alloc : Bool × Bool) :
    let m' := (m.unserializeMachine ops bytes alloc).1
    m'.Sized ∧ (m'.persistentRestoreFailed = true ∨ m'.Roomy view ∧ Keeps ops m m') := by
  obtain ⟨hroomy', hholds⟩ := holds_exposed h hsized hroomy
  obtain ⟨hdirty, hdirty', himported'⟩ := exposed_frame h hsized
  have hsized' : (m.exposed ops).Sized := sized_sync h hsized true
  have hlooked : (m.exposed ops).Sized ∧ ((m.exposed ops).persistentRestoreFailed = true ∨
      (m.exposed ops).Roomy view ∧ Keeps ops m (m.exposed ops)) :=
    ⟨hsized', Or.inr ⟨hroomy', hholds.keeps h hsized hsized' hdirty hdirty'⟩⟩
  have hfinish {n : Machine C} (hn : n.Sized) (restored loaded : Bool) (source : Nat × BitVec 64)
      (hrestored : restored = true → n.Roomy view ∧
        Holds view n (m.exposed ops).saveData (m.exposed ops).shownRecord ∧
        n.memoryDirty = m.memoryDirty ∧ (view n.core).dirty = (view m.core).dirty) :
      (n.finishLoad ops loaded restored source).1.Sized ∧
        ((n.finishLoad ops loaded restored source).1.persistentRestoreFailed = true ∨
          (n.finishLoad ops loaded restored source).1.Roomy view ∧
            Keeps ops m (n.finishLoad ops loaded restored source).1) := by
    cases restored with
    | false =>
      have hmarked : (n.finishLoad ops loaded false source).1 =
          { n with persistentRestoreFailed := true } := by
        unfold finishLoad
        rw [if_pos (Or.inr rfl)]
        rfl
      rw [hmarked]
      exact ⟨⟨hn.saveSize, hn.saveData, hn.rtcSize, hn.rtcData⟩, Or.inl rfl⟩
    | true =>
      obtain ⟨hroom, hheld, hmd, hd⟩ := hrestored rfl
      obtain ⟨hs, hr, hh, hmd', hd'⟩ := finishLoad_holds h hn hroom hheld loaded source
      exact ⟨hs, Or.inr ⟨hr, hh.keeps h hsized hs (hmd'.trans hmd) (hd'.trans hd)⟩⟩
  unfold unserializeMachine
  split
  · exact ⟨hsized, Or.inr ⟨hroomy, Keeps.refl ops m⟩⟩
  cases himported : m.memoryImported with
  | false =>
    have hsnapshot : m.snapshotPersistentStorage ops alloc.1 = (m, some (m.shallowSnapshot ops)) :=
      if_neg (by rw [himported]; exact Bool.false_ne_true)
    have hexposed : m.exposed ops = m := syncMachineStorage_unimported himported true
    rw [hsnapshot]
    dsimp only
    split
    · exact ⟨hsized, Or.inr ⟨hroomy, Keeps.refl ops m⟩⟩
    obtain ⟨core', hrestored, hd⟩ := restorePersistentStorage_unimported h himported
      (ops.loadState m.core (bytes.drop machineStateHeaderSize)).1
    rw [hrestored]
    rw [hexposed] at hholds hfinish
    have hnot (himp : m.memoryImported = true) : False := by
      rw [himported] at himp
      cases himp
    have hn : Sized { m with core := core' } :=
      ⟨hsized.saveSize, hsized.saveData, hsized.rtcSize, hsized.rtcData⟩
    refine hfinish hn true _ _ fun _ => ⟨fun himp => (hnot himp).elim,
      ⟨rfl, fun himp => (hnot himp).elim, fun r hr => ?_⟩, rfl, hd⟩
    obtain ⟨hsize, hdata, -⟩ := hholds.shown r hr
    exact ⟨hsize, hdata, fun himp => (hnot himp).elim⟩
  | true =>
    have hsnapshot : m.snapshotPersistentStorage ops alloc.1 =
        (m.exposed ops, (m.exposed ops).liveSnapshot ops alloc.1) := if_pos himported
    rw [hsnapshot]
    cases hlive : (m.exposed ops).liveSnapshot ops alloc.1 with
    | none => exact hlooked
    | some snapshot =>
      obtain rfl := liveSnapshot_eq_some h hsized' hlive
      dsimp only
      split
      · exact hlooked
      generalize hrestore : restorePersistentStorage ops _ _ = result
      obtain ⟨n, restored⟩ := result
      have hn : n.Sized := by
        rw [restorePersistentStorage_eq] at hrestore
        rw [← (Prod.mk.inj hrestore).1]
        refine sized_sync h (sized_putBack ?_ _ rfl _) false
        exact ⟨hsized'.saveSize, hsized'.saveData, hsized'.rtcSize, hsized'.rtcData⟩
      refine hfinish hn restored _ _ fun hok => ?_
      subst hok
      obtain ⟨hroom, hheld, hmd, hd⟩ := restorePersistentStorage_holds h hsized'
        (himported'.trans himported) hroomy' hholds (h.loadState _ _) hrestore
      exact ⟨hroom, hheld, hmd.trans hdirty, hd.trans hdirty'⟩

/-! ## The import -/

/-- A record the frontend has filled in, when there is one to be shown. -/
def filledRecord (m : Machine C) : Option (List Byte) :=
  if m.rtcData = blank rtcRecordSize then none else m.shownRecord

/-- The RTC part of an import. -/
theorem importRtcRecord_holds (h : Refines ops view chip) (hsized : m.Sized)
    (hagrees : Agrees m.saveData (view m.core).bytes) (hroomy : (view m.core).Roomy)
    (himport : m.importRtcRecord ops = (m', true)) :
    m'.saveData = m.saveData ∧ m'.saveSize = m.saveSize ∧ m'.rtcSize = m.rtcSize ∧
      m'.rtcData.length = rtcRecordSize ∧ Agrees m.saveData (view m'.core).bytes ∧
      (view m'.core).Roomy ∧ (m.rtcSize ≠ 0 → m.rtcData ≠ blank rtcRecordSize →
        m'.rtcData = m.rtcData ∧ (view m'.core).flush.readRecord m.rtcData = m.rtcData) := by
  unfold importRtcRecord at himport
  split at himport
  · rename_i hnone
    obtain ⟨rfl, -⟩ := Prod.mk.inj himport
    refine ⟨rfl, rfl, rfl, hsized.rtcData, hagrees, hroomy, fun hsize _ => ⟨rfl, ?_⟩⟩
    have hfile : (view m.core).flush.file = false := by
      rw [Device.flush_file, ← h.file]
      exact hnone.resolve_left hsize
    exact if_pos hfile
  rename_i hthere
  rw [not_or, Bool.not_eq_false, h.file] at hthere
  obtain ⟨hsize, hfile⟩ := hthere
  have hsize' : m.rtcSize = rtcRecordSize := hsized.rtcSize.resolve_left hsize
  have hflushed : view (m.flushRtc ops).core = (view m.core).flush := h.rtcWrite m.core
  obtain ⟨hagrees₁, hroomy₁⟩ := hagrees.flush hroomy (h.live m.core)
  rw [← hflushed] at hagrees₁ hroomy₁
  dsimp only at himport
  split at himport
  · rename_i hblank
    obtain ⟨rfl, -⟩ := Prod.mk.inj himport
    rw [readRtcRecord_eq h (show (m.flushRtc ops).rtcSize = rtcRecordSize from hsize')]
    exact ⟨rfl, rfl, rfl, Device.length_readRecord _ hsized.rtcData, hagrees₁, hroomy₁,
      fun _ hne => absurd hblank hne⟩
  · split at himport
    · cases (Prod.mk.inj himport).2
    rename_i core hwrite
    obtain ⟨hm', -⟩ := Prod.mk.inj himport
    have hfile' : (view (m.flushRtc ops).core).file = true := by
      rw [hflushed, Device.flush_file, hfile]
    obtain ⟨hagrees₂, hroomy₂, hread⟩ :=
      rtcRead_fileWrite h hagrees₁ hroomy₁ hfile' hsized.rtcData hwrite
    let n : Machine C := { m with core := ops.rtcRead core }
    have hset : n.readRtcRecord ops = n := by
      rw [readRtcRecord_eq h (show n.rtcSize = rtcRecordSize from hsize'), (hread _).1]
    obtain rfl : m' = n := hm'.symm.trans hset
    exact ⟨rfl, rfl, rfl, hsized.rtcData, hagrees₂, hroomy₂, fun _ _ => ⟨rfl, (hread _).2⟩⟩

/-- **An import loses nothing**: the device holds the region the frontend has filled, and the record
unless that is blank. -/
theorem importMachineStorage_holds (h : Refines ops view chip) (hsized : m.Sized)
    (himported : m.memoryImported = false) (himport : m.importMachineStorage ops = (m', true)) :
    m'.Sized ∧ m'.Roomy view ∧ Holds view m' m.saveData m.filledRecord := by
  have hne : m.saveSize ≠ 0 := by
    rw [hsized.saveSize]
    exact Nat.pos_iff_ne_zero.mp maxSaveSize_pos
  have hwhole : m.saveData.take m.saveSize = m.saveData := by
    rw [hsized.saveSize, ← hsized.saveData, List.take_length]
  unfold importMachineStorage at himport
  rw [if_neg (by rw [himported]; exact Bool.false_ne_true), updateMemoryLayout_eq h m] at himport
  dsimp only at himport
  rw [if_pos hne, hwhole] at himport
  unfold finishImport at himport
  split at himport
  · cases (Prod.mk.inj himport).2
  rename_i hrestored
  rw [Bool.not_eq_false] at hrestored
  obtain ⟨-, htype, hbytes⟩ := h.savedataRestore m.core m.saveData
    (ops.savedataRestore m.core m.saveData).1 (Prod.ext rfl hrestored)
  set core := (ops.savedataRestore m.core m.saveData).1 with hcore
  have hbacked : Agrees m.saveData (view core).bytes ∧ (view core).Roomy := by
    unfold Device.restored at hbytes
    by_cases hauto : (view m.core).type = .autodetect
    · rw [if_pos hauto] at hbytes
      have hlength : maxSaveSize ≤ (view core).bytes.length := by
        rw [hbytes, ← hsized.saveData]
        unfold writeAt
        rw [List.take_zero, List.nil_append, List.length_append]
        omega
      refine ⟨?_, fun _ => hlength⟩
      by_cases hlarge : (view m.core).bytes.length ≤ maxSaveSize
      · have hsame : (view core).bytes = m.saveData := by
          rw [hbytes]
          unfold writeAt
          rw [List.take_zero, List.nil_append, Nat.zero_add, hsized.saveData,
            List.drop_eq_nil_of_le hlarge, List.append_nil]
        exact Or.inr (hsame ▸ List.prefix_rfl)
      · left
        rw [hbytes]
        unfold writeAt
        rw [List.take_zero, List.nil_append, List.length_append, List.length_drop, Nat.zero_add,
          hsized.saveData]
        omega
    · rw [if_neg hauto] at hbytes
      refine ⟨Or.inr (hbytes ▸ List.take_prefix _ _), fun hauto' => ?_⟩
      exact absurd (htype.symm.trans hauto') hauto
  set n : Machine C := { m with core := core, rtcSize := layoutSize (view m.core) m } with hn
  have hnSized : n.Sized :=
    ⟨hsized.saveSize, hsized.saveData, layoutSize_cases hsized _, hsized.rtcData⟩
  split at himport
  · cases (Prod.mk.inj himport).2
  rename_i n' hrecord
  obtain ⟨rfl, -⟩ := Prod.mk.inj himport
  obtain ⟨hdata, hdataSize, hrtc, hrtcData, hagrees, hroomy, hfilled⟩ :=
    importRtcRecord_holds (m := n) h hnSized hbacked.1 hbacked.2 hrecord
  refine ⟨⟨hdataSize.trans hsized.saveSize, ?_, ?_, hrtcData⟩, fun _ => hroomy,
    ⟨hdata, fun _ => hagrees, fun r hr => ?_⟩⟩
  · change n'.saveData.length = maxSaveSize
    rw [hdata]
    exact hsized.saveData
  · change n'.rtcSize = 0 ∨ n'.rtcSize = rtcRecordSize
    rw [hrtc]
    exact hnSized.rtcSize
  · unfold filledRecord at hr
    split at hr
    · cases hr
    rename_i hblank
    unfold shownRecord at hr
    split at hr
    · cases hr
    rename_i hsize
    obtain rfl := Option.some.inj hr
    have hlayout : n.rtcSize = rtcRecordSize :=
      layoutSize_eq _ (hsized.rtcSize.resolve_left hsize)
    obtain ⟨hsame, hread⟩ := hfilled (by rw [hlayout]; decide) hblank
    exact ⟨hrtc.trans hlayout, hsame, fun _ => hread⟩

end Machine

end DualBoy.MgbaStorage
