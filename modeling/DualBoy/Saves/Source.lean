import DualBoy.Saves.Init

/-!
# Where a region's bytes come from

The loading of a region in two halves: what it finds, which depends on the files and on what the
engine reports but not on the ownership of the session, and what it then does.

* `readKind_applied`: the reading of a region is its source, applied.
* `Loading.Loads`, `loadRegion_eq_none`: the loading of a region that does not fail, as one step.
-/

namespace DualBoy.Saves

open DualBoy.Lib

/-- Nothing, the canonical file, or a legacy file taken for a battery and perhaps an RTC record. -/
inductive Source where
  | nothing
  | file (bytes : List Byte)
  | legacy (path : Path) (battery : List Byte) (rtc : Option (List Byte))

/-! ## What is found -/

/-- The source of a region read from a file, `none` when the reading fails. -/
def Setup.regionSource (s : Setup) (files : Files Path) (i : Fin 2) (kind : MemoryKind) (path : Path)
    (capacity : Nat) (missingIsOk : Bool) : Option Source :=
  if s.malloc (.temporary i kind) = false then none
  else
    match readFileFilled files path capacity with
    | .ok bytes => some (.file bytes)
    | .error result => if missingIsOk = true ∧ result = .notFound then some .nothing else none

/-- The source of NDS firmware. -/
def Setup.firmwareSource (s : Setup) (files : Files Path) (i : Fin 2) (path : Path)
    (capacity : Nat) : Option Source :=
  if s.malloc (.temporary i .firmware) = false then none
  else
    match readFileFilled files path capacity with
    | .error result => if result = .notFound then some .nothing else none
    | .ok bytes =>
      if bytes.length ≠ Loading.ndsFirmwareSize then none
      else if (s.validatePersistentMemory.bind fun validate => validate i bytes).isSome then none
      else some (.file bytes)

/-- What the import of a legacy file finds. -/
def Setup.legacySource (s : Setup) (e : Engine) (files : Files Path) (i : Fin 2) (legacy : Path)
    (size : Nat) : Option Source :=
  if sizeMax - 16 < size then none
  else if s.malloc (.temporary i .saveRam) = false then none
  else
    match readFileFilled files legacy (size + 16), e.importExtent i size with
    | .ok bytes, .ok extent =>
      (importLegacy extent size ((e.memory i .rtc).getD []).length bytes).map fun found =>
        .legacy legacy found.1 found.2
    | _, _ => none

/-- The source of SaveRAM. -/
def Setup.sramSource (s : Setup) (e : Engine) (paths : SavePaths) (files : Files Path) (i : Fin 2)
    (size : Nat) : Option Source :=
  if e.family ≠ .mgba then s.regionSource files i .saveRam (paths.sram i) size true
  else
    match legacySavPath (paths.sram i) pathCapacity with
    | .error _ => none
    | .ok legacy =>
      match chooseSavImport files (paths.sram i) legacy with
      | .error _ => none
      | .ok .noSource => some .nothing
      | .ok .keepCanonical => s.regionSource files i .saveRam (paths.sram i) size false
      | .ok .copyLegacy => s.legacySource e files i legacy size

/-- The source of a region. -/
def Setup.source (s : Setup) (e : Engine) (paths : SavePaths) (files : Files Path) (i : Fin 2)
    (capacity : Nat) : MemoryKind → Option Source
  | .saveRam => s.sramSource e paths files i capacity
  | .firmware => s.firmwareSource files i (paths.firmware i) capacity
  | .rtc => s.regionSource files i .rtc (paths.rtc i) capacity true

/-- What a source says of the files. -/
inductive Found (e : Engine) (paths : SavePaths) (files : Files Path) (i : Fin 2) (capacity : Nat) :
    MemoryKind → Source → Prop
  | nothing {kind : MemoryKind} (hfile : files (paths.path i kind) = .missing) :
      Found e paths files i capacity kind .nothing
  | file {kind : MemoryKind} {bytes : List Byte}
      (hfile : files (paths.path i kind) = .regular bytes) (hfits : bytes.length ≤ capacity) :
      Found e paths files i capacity kind (.file bytes)
  | legacy {legacy : Path} {bytes battery : List Byte} {rtc : Option (List Byte)}
      (hfamily : e.family = .mgba) (hfile : files (paths.sram i) = .missing)
      (hpath : legacySavPath (paths.sram i) pathCapacity = .ok legacy)
      (hlegacy : files legacy = .regular bytes) (hfits : battery.length ≤ capacity)
      (hrtc : ∀ record, rtc = some record → record.length = ((e.memory i .rtc).getD []).length) :
      Found e paths files i capacity .saveRam (.legacy legacy battery rtc)

theorem readFileFilled_eq_ok {files : Files Path} {path : Path} {capacity : Nat} {bytes : List Byte}
    (h : readFileFilled files path capacity = .ok bytes) :
    files path = .regular bytes ∧ bytes.length ≤ capacity := by
  unfold readFileFilled at h
  split at h
  · exact absurd h (by simp)
  split at h
  · exact absurd h (by simp)
  split at h
  · exact absurd h (by simp)
  · exact absurd h (by simp)
  · rename_i bytes' hfile
    split at h
    · exact absurd h (by simp)
    · rename_i hfits
      obtain rfl := Except.ok.inj h
      exact ⟨hfile, Nat.not_lt.mp hfits⟩

theorem readFileFilled_eq_notFound {files : Files Path} {path : Path} {capacity : Nat}
    (h : readFileFilled files path capacity = .error .notFound) : files path = .missing := by
  unfold readFileFilled at h
  split at h
  · exact absurd h (by simp)
  split at h
  · exact absurd h (by simp)
  split at h
  · assumption
  · exact absurd h (by simp)
  · split at h <;> exact absurd h (by simp)

theorem chooseSavImport_eq_ok {files : Files Path} {canonical legacy : Path} {choice : SavImportChoice}
    (h : chooseSavImport files canonical legacy = .ok choice) :
    (choice = .keepCanonical ∧ ∃ bytes, files canonical = .regular bytes) ∨
      files canonical = .missing ∧ (choice = .noSource ∧ files legacy = .missing ∨
        choice = .copyLegacy ∧ ∃ bytes, files legacy = .regular bytes) := by
  unfold chooseSavImport at h
  split at h
  · exact absurd h (by simp)
  split at h
  · exact absurd h (by simp)
  cases hcanonical : files canonical with
  | unusable =>
    rw [hcanonical] at h
    exact absurd h (by simp)
  | regular bytes =>
    rw [hcanonical] at h
    exact Or.inl ⟨(Except.ok.inj h).symm, bytes, rfl⟩
  | missing =>
    rw [hcanonical] at h
    refine Or.inr ⟨rfl, ?_⟩
    cases hlegacy : files legacy with
    | unusable =>
      rw [hlegacy] at h
      exact absurd h (by simp)
    | regular bytes =>
      rw [hlegacy] at h
      exact Or.inr ⟨(Except.ok.inj h).symm, bytes, rfl⟩
    | missing =>
      rw [hlegacy] at h
      exact Or.inl ⟨(Except.ok.inj h).symm, rfl⟩

/-- **What is taken from a legacy file is a beginning of it, and the rest, a record of 16 bytes, if
it is split.** -/
theorem importLegacy_eq_some {extent : Option Nat} {size rtcSize : Nat} {bytes battery : List Byte}
    {rtc : Option (List Byte)} (hextent : ∀ n, extent = some n → n ≤ size)
    (hbytes : bytes.length ≤ size + 16)
    (h : importLegacy extent size rtcSize bytes = some (battery, rtc)) :
    battery.length ≤ size ∧ bytes = battery ++ rtc.getD [] ∧
      ∀ record, rtc = some record → record.length = rtcSize ∧ rtcSize = 16 := by
  unfold importLegacy at h
  cases hsplit : splitSize extent bytes.length rtcSize with
  | none =>
    rw [hsplit] at h
    dsimp only at h
    split at h
    · exact absurd h (by simp)
    · rename_i hfits
      obtain ⟨rfl, rfl⟩ := Prod.mk.inj (Option.some.inj h)
      exact ⟨Nat.not_lt.mp hfits, by simp, by simp⟩
  | some n =>
    rw [hsplit] at h
    obtain ⟨rfl, rfl⟩ := Prod.mk.inj (Option.some.inj h)
    unfold splitSize at hsplit
    split at hsplit
    · rename_i hrtc
      have hsum : bytes.length = n + rtcSize ∧ n ≤ size := by
        cases extent with
        | none =>
          dsimp only at hsplit
          split at hsplit
          · rename_i hle
            obtain rfl := Option.some.inj hsplit
            omega
          · exact absurd hsplit (by simp)
        | some known =>
          dsimp only at hsplit
          split at hsplit
          · rename_i hlength
            obtain rfl := Option.some.inj hsplit
            exact ⟨hlength, hextent _ rfl⟩
          · exact absurd hsplit (by simp)
      refine ⟨?_, ?_, ?_⟩
      · rw [List.length_take]
        omega
      · exact (List.take_append_drop n bytes).symm
      · rintro record hrecord
        obtain rfl := Option.some.inj hrecord
        rw [List.length_drop]
        omega
    · exact absurd hsplit (by simp)

theorem importExtent_le {e : Engine} {i : Fin 2} {size n : Nat}
    (h : e.importExtent i size = .ok (some n)) : n ≤ size := by
  unfold Engine.importExtent at h
  split at h
  · obtain rfl := Option.some.inj (Except.ok.inj h)
    exact Nat.le_refl _
  split at h
  · exact absurd h (by simp)
  · exact absurd h (by simp)
  split at h
  · exact absurd h (by simp)
  · rename_i hle
    obtain rfl := Option.some.inj (Except.ok.inj h)
    exact Nat.not_lt.mp hle

section Found

variable {s : Setup} {e : Engine} {paths : SavePaths} {files : Files Path} {i : Fin 2}
  {kind : MemoryKind} {capacity : Nat} {src : Source}

theorem found_of_regionSource {missingIsOk : Bool}
    (h : s.regionSource files i kind (paths.path i kind) capacity missingIsOk = some src) :
    Found e paths files i capacity kind src := by
  unfold Setup.regionSource at h
  split at h
  · exact absurd h (by simp)
  cases hread : readFileFilled files (paths.path i kind) capacity with
  | ok bytes =>
    rw [hread] at h
    obtain rfl := Option.some.inj h
    obtain ⟨hfile, hfits⟩ := readFileFilled_eq_ok hread
    exact .file hfile hfits
  | error result =>
    rw [hread] at h
    dsimp only at h
    split at h
    · rename_i hmissing
      obtain rfl := Option.some.inj h
      rw [hmissing.2] at hread
      exact .nothing (readFileFilled_eq_notFound hread)
    · exact absurd h (by simp)

theorem found_of_firmwareSource
    (h : s.firmwareSource files i (paths.firmware i) capacity = some src) :
    Found e paths files i capacity .firmware src := by
  unfold Setup.firmwareSource at h
  split at h
  · exact absurd h (by simp)
  cases hread : readFileFilled files (paths.firmware i) capacity with
  | error result =>
    rw [hread] at h
    dsimp only at h
    split at h
    · rename_i hmissing
      obtain rfl := Option.some.inj h
      rw [hmissing] at hread
      exact .nothing (readFileFilled_eq_notFound hread)
    · exact absurd h (by simp)
  | ok bytes =>
    rw [hread] at h
    dsimp only at h
    split at h
    · exact absurd h (by simp)
    split at h
    · exact absurd h (by simp)
    · obtain rfl := Option.some.inj h
      obtain ⟨hfile, hfits⟩ := readFileFilled_eq_ok hread
      exact .file hfile hfits

theorem found_of_legacySource {legacy : Path} (hfamily : e.family = .mgba)
    (hfile : files (paths.sram i) = .missing)
    (hpath : legacySavPath (paths.sram i) pathCapacity = .ok legacy)
    (h : s.legacySource e files i legacy capacity = some src) :
    Found e paths files i capacity .saveRam src := by
  unfold Setup.legacySource at h
  split at h
  · exact absurd h (by simp)
  split at h
  · exact absurd h (by simp)
  split at h
  · rename_i bytes extent hread hextent
    obtain ⟨hlegacy, hbytes⟩ := readFileFilled_eq_ok hread
    obtain ⟨⟨battery, rtc⟩, hfound, rfl⟩ := Option.map_eq_some_iff.mp h
    obtain ⟨hfits, -, hrecord⟩ := importLegacy_eq_some
      (fun n hn => importExtent_le (hn ▸ hextent)) hbytes hfound
    exact .legacy hfamily hfile hpath hlegacy hfits fun record hrtc => (hrecord record hrtc).1
  · exact absurd h (by simp)

/-- **What a source says of the files.** -/
theorem found_of_source (h : s.source e paths files i capacity kind = some src) :
    Found e paths files i capacity kind src := by
  cases kind with
  | rtc => exact found_of_regionSource h
  | firmware => exact found_of_firmwareSource h
  | saveRam =>
    have hregion {missingIsOk : Bool} (h : s.regionSource files i .saveRam
        (paths.path i .saveRam) capacity missingIsOk = some src) :
        Found e paths files i capacity .saveRam src := found_of_regionSource h
    change s.sramSource e paths files i capacity = some src at h
    unfold Setup.sramSource at h
    by_cases hfamily : e.family ≠ .mgba
    · rw [if_pos hfamily] at h
      exact hregion h
    · rw [if_neg hfamily] at h
      split at h
      · exact absurd h (by simp)
      rename_i legacy hpath
      split at h
      · exact absurd h (by simp)
      · rename_i hchoice
        obtain rfl := Option.some.inj h
        rcases chooseSavImport_eq_ok hchoice with ⟨hne, -⟩ | ⟨hfile, -⟩
        · exact absurd hne (by simp)
        · exact .nothing hfile
      · exact hregion h
      · rename_i hchoice
        rcases chooseSavImport_eq_ok hchoice with ⟨hne, -⟩ | ⟨hfile, -⟩
        · exact absurd hne (by simp)
        · exact found_of_legacySource (not_not.mp hfamily) hfile hpath h

end Found

/-! ## What is done -/

namespace Source

/-- The number of bytes loaded. -/
def loadedSize : Source → Nat
  | .nothing => 0
  | .file bytes => bytes.length
  | .legacy _ battery _ => battery.length

/-- The engine once the bytes are in live memory. -/
def engine (e : Engine) (i : Fin 2) (kind : MemoryKind) (capacity : Nat) : Source → Engine
  | .nothing => e
  | .file bytes => e.setMemory i kind (pad capacity kind.fill bytes)
  | .legacy _ battery rtc =>
    (match rtc with
      | some rtc => e.setMemory i .rtc rtc
      | none => e).setMemory i .saveRam (pad capacity 0xff battery)

/-- The writes of an import: the RTC record first. -/
def writes (paths : SavePaths) (i : Fin 2) : Source → List (Path × List Byte)
  | .legacy _ battery rtc =>
    match rtc with
    | some rtc => [(paths.rtc i, rtc), (paths.sram i, battery)]
    | none => [(paths.sram i, battery)]
  | _ => []

end Source

namespace Loading

/-- The writes a session makes of a source: only an owner writes. -/
def sourceWrites (owner : Bool) (paths : SavePaths) (i : Fin 2) (src : Source) :
    List (Path × List Byte) :=
  if owner then src.writes paths i else []

/-- The state once a source is applied without a failure. -/
def loaded (l : Loading) (owner : Bool) (paths : SavePaths) (i : Fin 2) (kind : MemoryKind)
    (capacity : Nat) (src : Source) : Loading where
  engine := src.engine l.engine i kind capacity
  files := l.files.puts (sourceWrites owner paths i src)
  tracked := l.tracked
  writes := l.writes ++ sourceWrites owner paths i src

/-- What is done with a source. -/
def apply (s : Setup) (owner : Bool) (paths : SavePaths) (l : Loading) (i : Fin 2)
    (kind : MemoryKind) (capacity : Nat) : Source → Loading × Except String Nat
  | .nothing => (l, .ok 0)
  | .file bytes => (l.setMemory i kind (pad capacity kind.fill bytes), .ok bytes.length)
  | .legacy path battery rtc => l.importRegion s owner paths i path capacity battery rtc

/-- The reading of a region found this source and applied it, or failed and changed nothing. -/
def Applied (s : Setup) (owner : Bool) (paths : SavePaths) (l : Loading) (i : Fin 2)
    (kind : MemoryKind) (capacity : Nat) (found : Option Source)
    (result : Loading × Except String Nat) : Prop :=
  match found with
  | some src => result = l.apply s owner paths i kind capacity src
  | none => ∃ error, result = (l, .error error)

variable {s : Setup} {owner : Bool} {paths : SavePaths} {l l' : Loading} {i : Fin 2}
  {kind : MemoryKind} {capacity n : Nat} {src : Source} {path : Path} {bytes : List Byte}

theorem readRegion_applied (s : Setup) (owner : Bool) (paths : SavePaths) (l : Loading) (i : Fin 2)
    (kind : MemoryKind) (path : Path) (capacity : Nat) (missingIsOk : Bool) :
    l.Applied s owner paths i kind capacity
      (s.regionSource l.files i kind path capacity missingIsOk)
      (l.readRegion s i kind path capacity kind.fill missingIsOk) := by
  unfold readRegion Setup.regionSource
  by_cases hmalloc : s.malloc (.temporary i kind) = false
  · rw [if_pos hmalloc, if_pos hmalloc]
    exact ⟨_, rfl⟩
  · rw [if_neg hmalloc, if_neg hmalloc]
    cases readFileFilled l.files path capacity with
    | ok bytes => rfl
    | error result =>
      dsimp only
      by_cases hmissing : missingIsOk = true ∧ result = .notFound
      · rw [if_pos hmissing, if_pos hmissing]
        rfl
      · rw [if_neg hmissing, if_neg hmissing]
        exact ⟨_, rfl⟩

theorem loadNdsFirmware_applied (s : Setup) (owner : Bool) (paths : SavePaths) (l : Loading)
    (i : Fin 2) (path : Path) (capacity : Nat) :
    l.Applied s owner paths i .firmware capacity (s.firmwareSource l.files i path capacity)
      (l.loadNdsFirmware s i path capacity) := by
  unfold loadNdsFirmware Setup.firmwareSource
  by_cases hmalloc : s.malloc (.temporary i .firmware) = false
  · rw [if_pos hmalloc]
    dsimp only
    rw [if_pos hmalloc]
    exact ⟨_, rfl⟩
  · rw [if_neg hmalloc]
    dsimp only
    rw [if_neg hmalloc]
    cases readFileFilled l.files path capacity with
    | error result => cases result <;> first | exact rfl | exact ⟨_, rfl⟩
    | ok bytes =>
      dsimp only
      by_cases hlength : bytes.length ≠ ndsFirmwareSize
      · rw [if_pos hlength, if_pos hlength]
        exact ⟨_, rfl⟩
      · rw [if_neg hlength, if_neg hlength]
        cases s.validatePersistentMemory.bind fun validate => validate i bytes with
        | some error => exact ⟨_, rfl⟩
        | none => rfl

theorem loadSram_applied (s : Setup) (owner : Bool) (paths : SavePaths) (l : Loading) (i : Fin 2)
    (size : Nat) :
    l.Applied s owner paths i .saveRam size (s.sramSource l.engine paths l.files i size)
      (l.loadSram s owner paths i size) := by
  unfold loadSram Setup.sramSource
  dsimp only
  by_cases hfamily : l.engine.family ≠ .mgba
  · rw [if_pos hfamily, if_pos hfamily]
    exact readRegion_applied s owner paths l i .saveRam _ size true
  · rw [if_neg hfamily, if_neg hfamily]
    cases legacySavPath (paths.sram i) pathCapacity with
    | error result => exact ⟨_, rfl⟩
    | ok legacy =>
      dsimp only
      cases chooseSavImport l.files (paths.sram i) legacy with
      | error result => exact ⟨_, rfl⟩
      | ok choice =>
        cases choice with
        | noSource => exact rfl
        | keepCanonical => exact readRegion_applied s owner paths l i .saveRam _ size false
        | copyLegacy =>
          dsimp only
          unfold Setup.legacySource
          by_cases hlarge : sizeMax - 16 < size
          · rw [if_pos hlarge, if_pos hlarge]
            exact ⟨_, rfl⟩
          · rw [if_neg hlarge, if_neg hlarge]
            by_cases hmalloc : s.malloc (.temporary i .saveRam) = false
            · rw [if_pos hmalloc, if_pos hmalloc]
              exact ⟨_, rfl⟩
            · rw [if_neg hmalloc, if_neg hmalloc]
              cases readFileFilled l.files legacy (size + 16) with
              | error result => exact ⟨_, rfl⟩
              | ok bytes =>
                dsimp only
                cases l.engine.importExtent i size with
                | error error => exact ⟨_, rfl⟩
                | ok extent =>
                  dsimp only
                  cases importLegacy extent size ((l.engine.memory i .rtc).getD []).length bytes with
                  | none => exact ⟨_, rfl⟩
                  | some found => exact rfl

/-- **The reading of a region is its source, applied.** -/
theorem readKind_applied (s : Setup) (owner : Bool) (paths : SavePaths) (l : Loading) (i : Fin 2)
    (capacity : Nat) (kind : MemoryKind) :
    l.Applied s owner paths i kind capacity (s.source l.engine paths l.files i capacity kind)
      (l.readKind s owner paths i capacity kind) := by
  cases kind with
  | saveRam => exact loadSram_applied s owner paths l i capacity
  | rtc => exact readRegion_applied s owner paths l i .rtc _ capacity true
  | firmware => exact loadNdsFirmware_applied s owner paths l i _ capacity

theorem write_of_ok (hok : s.writeFileAtomic path = .ok) (l : Loading) (bytes : List Byte) :
    l.write s path bytes =
      ({ l with files := l.files.put path bytes, writes := l.writes ++ [(path, bytes)] }, .ok) := by
  unfold write
  rw [hok]

theorem write_of_not_ok (hno : s.writeFileAtomic path ≠ .ok) (l : Loading) (bytes : List Byte) :
    l.write s path bytes = (l, s.writeFileAtomic path) := by
  unfold write
  split
  · rename_i hok
    exact absurd hok hno
  · rfl

theorem importRegion_eq_ok (path : Path) (battery : List Byte) (rtc : Option (List Byte)) :
    l.importRegion s owner paths i path capacity battery rtc = (l', .ok n) ↔
      (∀ write ∈ sourceWrites owner paths i (.legacy path battery rtc),
        s.writeFileAtomic write.1 = .ok) ∧
      l' = l.loaded owner paths i kind capacity (.legacy path battery rtc) ∧ n = battery.length := by
  unfold importRegion loaded sourceWrites Source.engine Source.writes setMemory
  cases owner with
  | false => cases rtc <;> simp [eq_comm]
  | true =>
    cases rtc with
    | none =>
      by_cases hsram : s.writeFileAtomic (paths.sram i) = .ok
      · simp [write_of_ok hsram, hsram, eq_comm, Files.puts]
      · simp [write_of_not_ok hsram, hsram]
    | some rtc =>
      by_cases hrtc : s.writeFileAtomic (paths.rtc i) = .ok
      · by_cases hsram : s.writeFileAtomic (paths.sram i) = .ok
        · simp [write_of_ok hrtc, write_of_ok hsram, hrtc, hsram, eq_comm, Files.puts]
        · simp [write_of_ok hrtc, write_of_not_ok hsram, hsram]
      · simp [write_of_not_ok hrtc, hrtc]

/-- **A source is applied without a failure exactly when its writes succeed.** -/
theorem apply_eq_ok :
    l.apply s owner paths i kind capacity src = (l', .ok n) ↔
      (∀ write ∈ sourceWrites owner paths i src, s.writeFileAtomic write.1 = .ok) ∧
        l' = l.loaded owner paths i kind capacity src ∧ n = src.loadedSize := by
  cases src with
  | nothing =>
    simp [apply, loaded, sourceWrites, Source.writes, Source.engine, Source.loadedSize, eq_comm]
    exact fun _ => eq_comm
  | file bytes =>
    simp [apply, loaded, sourceWrites, Source.writes, Source.engine, Source.loadedSize, setMemory,
      eq_comm]
  | legacy path battery rtc => exact importRegion_eq_ok path battery rtc

/-! ## One region -/

/-- The tracking of a region just loaded. -/
def loadedTracking (data : List Byte) (loadedSize : Nat) (report : Option Nat) : Tracking :=
  let t : Tracking :=
    { Tracking.zero with
      loadedSize
      size := loadedSize
      hash := memoryHash data loadedSize
      valid := true }
  let t := match report with
    | some extent => t.initializeExtent data extent
    | none => t
  { t with baseline := data }

def setTracked (l : Loading) (i : Fin 2) (kind : MemoryKind) (t : Tracking) : Loading :=
  { l with tracked := fun j k => if j = i ∧ k = kind then t else l.tracked j k }

/-- The live bytes of a region. -/
def data (l : Loading) (i : Fin 2) (kind : MemoryKind) : List Byte :=
  (l.engine.memory i kind).getD []

/-- Tracking a region without a baseline succeeds if there is memory for one. -/
theorem track_baseline (hne : l.data i kind ≠ []) {t : Tracking} (hempty : t.baseline = []) :
    let tracked := t.replaceBaseline (s.malloc (.baseline i kind)) (l.data i kind)
    (l.setTracked i kind tracked.1,
        if tracked.2 then none
        else some s!"out of memory while tracking machine {i.val + 1} save baseline") = (l', none) ↔
      s.malloc (.baseline i kind) = true ∧
        l' = l.setTracked i kind { t with baseline := l.data i kind } := by
  have hlength : (l.data i kind).length ≠ 0 := fun h => hne (List.length_eq_zero_iff.mp h)
  unfold Tracking.replaceBaseline
  rw [hempty, List.length_nil, if_neg hlength]
  by_cases hmalloc : s.malloc (.baseline i kind) = false
  · rw [if_pos ⟨hlength, hmalloc⟩]
    simp [hmalloc]
  · rw [if_neg fun h => hmalloc h.2]
    simp [hmalloc, eq_comm]

theorem track_eq_none (hne : l.data i kind ≠ []) :
    l.track s i kind n = (l', none) ↔
      s.malloc (.baseline i kind) = true ∧
        ∃ report, l.engine.persistentExtent i kind (l.data i kind).length = .ok report ∧
          l' = l.setTracked i kind (loadedTracking (l.data i kind) n report) := by
  have hunfold (report : Option Nat)
      (hreport : l.engine.persistentExtent i kind (l.data i kind).length = .ok report) :
      l.track s i kind n = (l', none) ↔ s.malloc (.baseline i kind) = true ∧
        l' = l.setTracked i kind (loadedTracking (l.data i kind) n report) := by
    unfold track
    unfold data at hreport hne
    dsimp only
    rw [hreport]
    cases report with
    | none => exact track_baseline hne rfl
    | some extent => exact track_baseline hne (Tracking.initializeExtent_baseline _ _ _)
  cases hreport : l.engine.persistentExtent i kind (l.data i kind).length with
  | error error =>
    have herror : l.track s i kind n = (l, some error) := by
      unfold track
      unfold data at hreport
      dsimp only
      rw [hreport]
    simp [herror]
  | ok report => simp [hunfold report hreport]

/-- **The loading of a region that does not fail**: the region is none of the manager's or empty, or
its source is found, applied and tracked. -/
inductive Loads (s : Setup) (owner : Bool) (paths : SavePaths)
    (managed : Fin 2 → MemoryKind → Bool) (i : Fin 2) (kind : MemoryKind) (l : Loading) :
    Loading → Prop
  | skip
      (h : managed i kind = false ∨ kind ≠ .firmware ∧ l.engine.memory i kind = some []) :
      Loads s owner paths managed i kind l l
  | load {data : List Byte} {src : Source} {report : Option Nat} (hmanaged : managed i kind = true)
      (hmemory : l.engine.memory i kind = some data) (hne : data ≠ [])
      (hfirmware : kind = .firmware → data.length = ndsFirmwareSize)
      (hsource : s.source l.engine paths l.files i data.length kind = some src)
      (hwrites : ∀ write ∈ sourceWrites owner paths i src, s.writeFileAtomic write.1 = .ok)
      (hmalloc : s.malloc (.baseline i kind) = true)
      (hreport : l.engine.persistentExtent i kind data.length = .ok report) :
      Loads s owner paths managed i kind l
        ((l.loaded owner paths i kind data.length src).setTracked i kind
          (loadedTracking ((l.loaded owner paths i kind data.length src).data i kind)
            src.loadedSize report))

theorem engine_setMemory_same (e : Engine) (i : Fin 2) (kind : MemoryKind) (bytes : List Byte) :
    (e.setMemory i kind bytes).memory i kind = some bytes := if_pos ⟨rfl, rfl⟩

theorem engine_setMemory_of_ne {e : Engine} {i j : Fin 2} {kind kind' : MemoryKind}
    (h : ¬(j = i ∧ kind' = kind)) (bytes : List Byte) :
    (e.setMemory i kind bytes).memory j kind' = e.memory j kind' := if_neg h

theorem persistentMemoryExtent_engine (e : Engine) (i : Fin 2) (kind : MemoryKind) (capacity : Nat)
    (src : Source) :
    (src.engine e i kind capacity).persistentMemoryExtent = e.persistentMemoryExtent := by
  cases src with
  | nothing => rfl
  | file bytes => rfl
  | legacy path battery rtc => cases rtc <;> rfl

theorem data_loaded_nothing (owner : Bool) (paths : SavePaths)
    (hmemory : l.engine.memory i kind = some bytes) :
    (l.loaded owner paths i kind capacity .nothing).data i kind = bytes := by
  unfold Loading.data
  change (l.engine.memory i kind).getD [] = bytes
  rw [hmemory]
  rfl

theorem data_loaded_file (owner : Bool) (paths : SavePaths) (bytes : List Byte) :
    (l.loaded owner paths i kind capacity (.file bytes)).data i kind = pad capacity kind.fill bytes := by
  unfold Loading.data
  change ((l.engine.setMemory i kind (pad capacity kind.fill bytes)).memory i kind).getD [] = _
  rw [engine_setMemory_same]
  rfl

theorem data_loaded_legacy (owner : Bool) (paths : SavePaths) (path : Path) (battery : List Byte)
    (rtc : Option (List Byte)) :
    (l.loaded owner paths i kind capacity (.legacy path battery rtc)).data i .saveRam =
      pad capacity 0xff battery := by
  unfold Loading.data
  change ((Engine.setMemory _ i .saveRam (pad capacity 0xff battery)).memory i .saveRam).getD [] = _
  rw [engine_setMemory_same]
  rfl

/-- Loading a region keeps its size. -/
theorem length_data_loaded (owner : Bool) (hmemory : l.engine.memory i kind = some bytes)
    (hfound : Found l.engine paths l.files i bytes.length kind src) :
    ((l.loaded owner paths i kind bytes.length src).data i kind).length = bytes.length := by
  cases hfound with
  | nothing _ => rw [data_loaded_nothing owner paths hmemory]
  | file _ hfits => rw [data_loaded_file, length_pad hfits]
  | legacy _ _ _ _ hfits _ => rw [data_loaded_legacy, length_pad hfits]

/-- **The loading of a region that does not fail, as one step.** -/
theorem loadRegion_eq_none {managed : Fin 2 → MemoryKind → Bool} :
    loadRegion s owner paths managed (i, kind) l = (l', none) ↔
      Loads s owner paths managed i kind l l' := by
  unfold loadRegion
  dsimp only
  by_cases hmanaged : managed i kind = false
  · rw [if_pos hmanaged]
    constructor
    · intro h
      obtain ⟨rfl, -⟩ := Prod.mk.inj h
      exact .skip (Or.inl hmanaged)
    · intro h
      cases h with
      | skip _ => rfl
      | load hyes => exact absurd (hmanaged.symm.trans hyes) (by simp)
  · rw [if_neg hmanaged]
    have hyes : managed i kind = true := by simpa using hmanaged
    cases hmemory : l.engine.memory i kind with
    | none =>
      constructor
      · intro h
        exact absurd h (by simp)
      · intro h
        cases h with
        | skip h => exact absurd h (by simp [hyes, hmemory])
        | load _ hmemory' => exact absurd (hmemory.symm.trans hmemory') (by simp)
    | some data =>
      have hskip (h : managed i kind = false ∨
          kind ≠ .firmware ∧ l.engine.memory i kind = some []) : kind ≠ .firmware ∧ data = [] := by
        rcases h with hno | ⟨hkind, hempty⟩
        · exact absurd hno hmanaged
        · exact ⟨hkind, Option.some.inj (hmemory.symm.trans hempty)⟩
      dsimp only
      by_cases hfirmware : kind = .firmware ∧ data.length ≠ ndsFirmwareSize
      · rw [if_pos hfirmware]
        constructor
        · intro h
          exact absurd h (by simp)
        · intro h
          cases h with
          | skip h => exact absurd hfirmware.1 (hskip h).1
          | load _ hmemory' _ hsize =>
            obtain rfl := Option.some.inj (hmemory.symm.trans hmemory')
            exact absurd (hsize hfirmware.1) hfirmware.2
      · rw [if_neg hfirmware]
        by_cases hempty : data.length = 0
        · rw [if_pos hempty]
          obtain rfl := List.length_eq_zero_iff.mp hempty
          constructor
          · intro h
            obtain ⟨rfl, -⟩ := Prod.mk.inj h
            refine .skip (Or.inr ⟨fun hkind => hfirmware ⟨hkind, by simp [ndsFirmwareSize]⟩, hmemory⟩)
          · intro h
            cases h with
            | skip _ => rfl
            | load _ hmemory' hne =>
              exact absurd (Option.some.inj (hmemory.symm.trans hmemory')).symm hne
        · rw [if_neg hempty]
          have hne : data ≠ [] := fun h => hempty (List.length_eq_zero_iff.mpr h)
          have happlied := readKind_applied s owner paths l i data.length kind
          constructor
          · intro h
            cases hsource : s.source l.engine paths l.files i data.length kind with
            | none =>
              rw [hsource] at happlied
              obtain ⟨error, herror⟩ := happlied
              rw [herror] at h
              exact absurd h (by simp)
            | some src =>
              rw [hsource] at happlied
              have hread : l.readKind s owner paths i data.length kind =
                  l.apply s owner paths i kind data.length src := happlied
              rw [hread] at h
              cases hresult : l.apply s owner paths i kind data.length src with
              | mk l₁ outcome =>
                rw [hresult] at h
                cases outcome with
                | error error => exact absurd h (by simp)
                | ok n =>
                  obtain ⟨hwrites, rfl, rfl⟩ := apply_eq_ok.mp hresult
                  have hlength := length_data_loaded owner hmemory (found_of_source hsource)
                  have hne' : (l.loaded owner paths i kind data.length src).data i kind ≠ [] := by
                    intro hnil
                    rw [hnil] at hlength
                    exact hempty hlength.symm
                  obtain ⟨hmalloc, report, hreport, rfl⟩ := (track_eq_none hne').mp h
                  rw [hlength] at hreport
                  have hextent := Engine.persistentExtent_congr
                    (persistentMemoryExtent_engine l.engine i kind data.length src)
                  change (src.engine l.engine i kind data.length).persistentExtent i kind _ = _ at hreport
                  rw [hextent] at hreport
                  exact .load hyes hmemory hne (fun hkind => by simpa [hkind] using hfirmware) hsource
                    hwrites hmalloc hreport
          · intro h
            cases h with
            | skip h => exact absurd (hskip h).2 hne
            | @load _ src report _ hmemory' _ _ hsource hwrites hmalloc hreport =>
              obtain rfl := Option.some.inj (hmemory.symm.trans hmemory')
              rw [hsource] at happlied
              have hread : l.readKind s owner paths i data.length kind =
                  l.apply s owner paths i kind data.length src := happlied
              rw [hread, apply_eq_ok.mpr ⟨hwrites, rfl, rfl⟩]
              have hlength := length_data_loaded owner hmemory (found_of_source hsource)
              have hne' : (l.loaded owner paths i kind data.length src).data i kind ≠ [] := by
                intro hnil
                rw [hnil] at hlength
                exact hempty hlength.symm
              refine (track_eq_none hne').mpr ⟨hmalloc, report, ?_, rfl⟩
              rw [hlength]
              have hextent := Engine.persistentExtent_congr
                (persistentMemoryExtent_engine l.engine i kind data.length src)
              change (src.engine l.engine i kind data.length).persistentExtent i kind _ = _
              rw [hextent]
              exact hreport

end Loading

end DualBoy.Saves
