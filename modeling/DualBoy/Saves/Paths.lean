import DualBoy.Engine
import DualBoy.Lib.Attempts

/-!
# Save paths

The path functions of `persistence.c`: the stem of a content path, the canonical names in the save
directory, and the legacy `.sav` candidate of a canonical name. A path is the list of its characters
before the terminating zero.

**`SavePaths.Layout.path_injective`** and **`SavePaths.Layout.legacy_ne_path`**: the paths of one
session never coincide, for any save directory and any two content paths.
-/

namespace DualBoy.Saves

open DualBoy.Lib

abbrev Path := List Char

/-- `DUALBOY_PATH_CAPACITY`, the terminating zero included. -/
def pathCapacity : Nat := 4096

/-- `enum dualboy_persistence_result`. -/
inductive PersistenceResult where
  | ok
  | invalidArgument
  | pathTooLong
  | notFound
  | tooLarge
  | ioError
  deriving DecidableEq, Repr

/-- `dualboy_persistence_result_message`. -/
def PersistenceResult.message : PersistenceResult → String
  | .ok => "success"
  | .invalidArgument => "invalid persistence path or argument"
  | .pathTooLong => "persistence path exceeds DualBoy's path limit"
  | .notFound => "persistence file does not exist"
  | .tooLarge => "persistence file is larger than its destination memory"
  | .ioError => "persistence file I/O failed"

/-! ## Names -/

/-- `is_separator`. -/
def isSeparator (character : Char) : Bool :=
  character = '/' || character = '\\'

/-- `is_safe_component`. -/
def isSafeComponent (component : Path) : Bool :=
  component ≠ [] && component ≠ ['.'] && component ≠ ['.', '.'] &&
    component.all fun character => !isSeparator character

/-- What follows the last separator. -/
def basename : Path → Path
  | [] => []
  | c :: cs => if cs.any isSeparator then basename cs else if isSeparator c then cs else c :: cs

/-- The basename before its last dot; a dot in first place is not an extension's. -/
def stemOf : Path → Path
  | [] => []
  | c :: cs =>
    match cs.reverse.dropWhile (· ≠ '.') with
    | [] => c :: cs
    | _ :: stem => c :: stem.reverse

/-- `dualboy_content_stem`. -/
def contentStem (contentPath : Path) (capacity : Nat) : Except PersistenceResult Path :=
  if contentPath = [] ∨ capacity = 0 then .error .invalidArgument
  else if isSafeComponent (basename contentPath) = false then .error .invalidArgument
  else
    let stem := stemOf (basename contentPath)
    if stem.length = 0 ∨ capacity ≤ stem.length then .error .pathTooLong
    else if isSafeComponent stem = false then .error .invalidArgument
    else .ok stem

/-- The directory without its trailing separators; the first character stays. -/
def trimDirectory : Path → Path
  | [] => []
  | c :: cs => c :: (cs.reverse.dropWhile isSeparator).reverse

/-- The directory as the names below it begin: trimmed, and closed by a separator. -/
def directoryPrefix (saveDirectory : Path) : Path :=
  let directory := trimDirectory saveDirectory
  if (directory.getLast?.map isSeparator).getD false then directory else directory ++ ['/']

/-- `dualboy_join_save_path`. -/
def joinSavePath (saveDirectory stem suffix : Path) (capacity : Nat) :
    Except PersistenceResult Path :=
  if saveDirectory = [] ∨ isSafeComponent stem = false ∨ isSafeComponent suffix = false ∨
      suffix.head? ≠ some '.' ∨ capacity = 0 then .error .invalidArgument
  else
    let directory := trimDirectory saveDirectory
    if sizeMax - stem.length < directory.length ∨
        sizeMax - suffix.length - 2 < directory.length + stem.length then .error .pathTooLong
    else
      let required := (directoryPrefix saveDirectory).length + stem.length + suffix.length + 1
      if capacity < required ∨ pathCapacity < required then .error .pathTooLong
      else .ok (directoryPrefix saveDirectory ++ stem ++ suffix)

/-- `struct dualboy_save_paths`. -/
structure SavePaths where
  sram : Fin 2 → Path
  rtc : Fin 2 → Path
  firmware : Fin 2 → Path
  secondUsesCollisionSuffix : Bool

/-- The paths `build_one_set` writes. -/
structure PathSet where
  sram : Path
  rtc : Path
  firmware : Path

def SavePaths.of (set0 set1 : PathSet) (collision : Bool) : SavePaths where
  sram := fun i => if i = 0 then set0.sram else set1.sram
  rtc := fun i => if i = 0 then set0.rtc else set1.rtc
  firmware := fun i => if i = 0 then set0.firmware else set1.firmware
  secondUsesCollisionSuffix := collision

/-- `build_one_set`. -/
def buildOneSet (saveDirectory stem sramSuffix rtcSuffix firmwareSuffix : Path)
    (includeFirmware : Bool) : Except PersistenceResult PathSet := do
  let sram ← joinSavePath saveDirectory stem sramSuffix pathCapacity
  let rtc ← joinSavePath saveDirectory stem rtcSuffix pathCapacity
  if includeFirmware then
    let firmware ← joinSavePath saveDirectory stem firmwareSuffix pathCapacity
    return { sram, rtc, firmware }
  else return { sram, rtc, firmware := [] }

/-- `dualboy_build_save_paths`. -/
def buildSavePaths (saveDirectory firstContentPath secondContentPath : Path)
    (includeFirmware : Bool) : Except PersistenceResult SavePaths := do
  let stem0 ← contentStem firstContentPath pathCapacity
  let stem1 ← contentStem secondContentPath pathCapacity
  let set0 ← buildOneSet saveDirectory stem0 ".srm".toList ".rtc".toList ".firmware.bin".toList
    includeFirmware
  let secondUnsuffixed ← joinSavePath saveDirectory stem1 ".srm".toList pathCapacity
  let collision : Bool := set0.sram = secondUnsuffixed
  let set1 ← buildOneSet saveDirectory stem1 (if collision then ".srm.2" else ".srm").toList
    (if collision then ".rtc.2" else ".rtc").toList
    (if collision then ".firmware.bin.2" else ".firmware.bin").toList includeFirmware
  return SavePaths.of set0 set1 collision

/-- The end of `dualboy_legacy_sav_path`, once the suffixes are chosen. -/
def replaceSuffix (canonicalSrm oldSuffix newSuffix : Path) (capacity : Nat) :
    Except PersistenceResult Path :=
  let output := canonicalSrm.take (canonicalSrm.length - oldSuffix.length) ++ newSuffix
  if capacity < output.length + 1 ∨ pathCapacity < output.length + 1 then .error .pathTooLong
  else .ok output

/-- `dualboy_legacy_sav_path`. -/
def legacySavPath (canonicalSrm : Path) (capacity : Nat) : Except PersistenceResult Path :=
  if canonicalSrm = [] ∨ capacity = 0 then .error .invalidArgument
  else if ".srm.2".toList <:+ canonicalSrm then
    replaceSuffix canonicalSrm ".srm.2".toList ".sav.2".toList capacity
  else if ".srm".toList <:+ canonicalSrm then
    replaceSuffix canonicalSrm ".srm".toList ".sav".toList capacity
  else .error .invalidArgument

/-- `region_path`. -/
def SavePaths.path (paths : SavePaths) (i : Fin 2) : MemoryKind → Path
  | .saveRam => paths.sram i
  | .rtc => paths.rtc i
  | .firmware => paths.firmware i

/-! ## Distinct paths -/

/-- The suffixes of canonical names and of legacy candidates. -/
def suffixes : List Path :=
  [".srm", ".rtc", ".firmware.bin", ".srm.2", ".rtc.2", ".firmware.bin.2", ".sav", ".sav.2"].map
    String.toList

/-- No suffix ends another. -/
theorem suffixes_free : ∀ s ∈ suffixes, ∀ s' ∈ suffixes, s <:+ s' → s = s' := by
  decide

/-- A name determines its suffix, and so what stands before it. -/
theorem append_suffix_inj {a b s s' : Path} (hs : s ∈ suffixes) (hs' : s' ∈ suffixes)
    (h : a ++ s = b ++ s') : a = b ∧ s = s' := by
  have hsuffix : s = s' := by
    rcases List.suffix_or_suffix_of_suffix (List.suffix_append a s)
      (h ▸ List.suffix_append b s') with hfree | hfree
    · exact suffixes_free s hs s' hs' hfree
    · exact (suffixes_free s' hs' s hs hfree).symm
  subst hsuffix
  exact ⟨List.append_cancel_right h, rfl⟩

/-- The suffix of a region's canonical name, for the machine that got the collision suffix or not. -/
def regionSuffix (collided : Bool) : MemoryKind → Path
  | .saveRam => (if collided then ".srm.2" else ".srm").toList
  | .rtc => (if collided then ".rtc.2" else ".rtc").toList
  | .firmware => (if collided then ".firmware.bin.2" else ".firmware.bin").toList

/-- The suffix of the legacy candidate. -/
def legacySuffix (collided : Bool) : Path :=
  (if collided then ".sav.2" else ".sav").toList

theorem regionSuffix_mem (collided : Bool) (kind : MemoryKind) :
    regionSuffix collided kind ∈ suffixes := by
  cases collided <;> cases kind <;> decide

theorem legacySuffix_mem (collided : Bool) : legacySuffix collided ∈ suffixes := by
  cases collided <;> decide

theorem regionSuffix_inj {c c' : Bool} {k k' : MemoryKind}
    (h : regionSuffix c k = regionSuffix c' k') : c = c' ∧ k = k' := by
  revert h
  cases c <;> cases c' <;> cases k <;> cases k' <;> decide

theorem regionSuffix_ne_legacySuffix (c c' : Bool) (k : MemoryKind) :
    regionSuffix c k ≠ legacySuffix c' := by
  cases c <;> cases c' <;> cases k <;> decide

theorem joinSavePath_eq_ok {saveDirectory stem suffix path : Path} {capacity : Nat}
    (h : joinSavePath saveDirectory stem suffix capacity = .ok path) :
    path = directoryPrefix saveDirectory ++ stem ++ suffix ∧ path.length < pathCapacity := by
  unfold joinSavePath at h
  split at h
  · exact absurd h (by simp)
  dsimp only at h
  split at h
  · exact absurd h (by simp)
  split at h
  · exact absurd h (by simp)
  rename_i hrequired
  obtain rfl := Except.ok.inj h
  refine ⟨rfl, ?_⟩
  simp only [List.length_append]
  omega

theorem joinSavePath_directory {saveDirectory stem suffix path : Path} {capacity : Nat}
    (h : joinSavePath saveDirectory stem suffix capacity = .ok path) : saveDirectory ≠ [] := by
  rintro rfl
  unfold joinSavePath at h
  rw [if_pos (Or.inl rfl)] at h
  exact absurd h (by simp)

theorem buildOneSet_eq_ok (collided : Bool) {saveDirectory stem : Path} {includeFirmware : Bool}
    {set : PathSet}
    (h : buildOneSet saveDirectory stem (regionSuffix collided .saveRam)
      (regionSuffix collided .rtc) (regionSuffix collided .firmware) includeFirmware = .ok set) :
    (set.sram = directoryPrefix saveDirectory ++ stem ++ regionSuffix collided .saveRam ∧
      set.sram.length < pathCapacity) ∧
    (set.rtc = directoryPrefix saveDirectory ++ stem ++ regionSuffix collided .rtc ∧
      set.rtc.length < pathCapacity) ∧
    (includeFirmware = true →
      set.firmware = directoryPrefix saveDirectory ++ stem ++ regionSuffix collided .firmware ∧
        set.firmware.length < pathCapacity) := by
  unfold buildOneSet at h
  obtain ⟨sram, hs, h⟩ := bind_eq_ok.mp h
  obtain ⟨rtc, hr, h⟩ := bind_eq_ok.mp h
  split at h
  · obtain ⟨firmware, hf, h⟩ := bind_eq_ok.mp h
    obtain rfl := Except.ok.inj h
    exact ⟨joinSavePath_eq_ok hs, joinSavePath_eq_ok hr, fun _ => joinSavePath_eq_ok hf⟩
  · rename_i hno
    obtain rfl := Except.ok.inj h
    exact ⟨joinSavePath_eq_ok hs, joinSavePath_eq_ok hr, fun hf => absurd hf hno⟩

/-- What the paths of a session are: one directory prefix, a stem for each machine, and suffixes that
tell the machines apart when the stems do not. -/
structure SavePaths.Layout (paths : SavePaths) (includeFirmware : Bool) (directory : Path)
    (stem : Fin 2 → Path) : Prop where
  path : ∀ i kind, (kind = .firmware → includeFirmware = true) →
    paths.path i kind = directory ++ stem i ++
      regionSuffix (i = 1 && paths.secondUsesCollisionSuffix) kind
  length : ∀ i kind, (kind = .firmware → includeFirmware = true) →
    (paths.path i kind).length < pathCapacity
  collision : paths.secondUsesCollisionSuffix = true ↔ stem 0 = stem 1

/-- The stem of each machine's content path lays the session's paths out. -/
theorem buildSavePaths_layout {saveDirectory first second : Path} {includeFirmware : Bool}
    {paths : SavePaths} (h : buildSavePaths saveDirectory first second includeFirmware = .ok paths) :
    saveDirectory ≠ [] ∧ ∃ stem : Fin 2 → Path,
      contentStem first pathCapacity = .ok (stem 0) ∧
      contentStem second pathCapacity = .ok (stem 1) ∧
      paths.Layout includeFirmware (directoryPrefix saveDirectory) stem := by
  unfold buildSavePaths at h
  obtain ⟨stem0, hc0, h⟩ := bind_eq_ok.mp h
  obtain ⟨stem1, hc1, h⟩ := bind_eq_ok.mp h
  obtain ⟨set0, h0, h⟩ := bind_eq_ok.mp h
  obtain ⟨unsuffixed, hu, h⟩ := bind_eq_ok.mp h
  obtain ⟨set1, h1, h⟩ := bind_eq_ok.mp h
  obtain rfl := Except.ok.inj h
  obtain ⟨hs0, hr0, hf0⟩ := buildOneSet_eq_ok false h0
  obtain ⟨hs1, hr1, hf1⟩ := buildOneSet_eq_ok (decide (set0.sram = unsuffixed)) h1
  have hcollision : set0.sram = unsuffixed ↔ stem0 = stem1 := by
    rw [hs0.1, (joinSavePath_eq_ok hu).1, List.append_assoc, List.append_assoc]
    constructor
    · exact fun heq => (append_suffix_inj (by decide) (by decide) (List.append_cancel_left heq)).1
    · rintro rfl
      rfl
  have hboth (i : Fin 2) (kind : MemoryKind) (hf : kind = .firmware → includeFirmware = true) :
      (SavePaths.of set0 set1 (set0.sram = unsuffixed)).path i kind =
        directoryPrefix saveDirectory ++ (if i = 0 then stem0 else stem1) ++
          regionSuffix (i = 1 && decide (set0.sram = unsuffixed)) kind ∧
      ((SavePaths.of set0 set1 (set0.sram = unsuffixed)).path i kind).length < pathCapacity := by
    match i, kind with
    | 0, .saveRam => exact hs0
    | 0, .rtc => exact hr0
    | 0, .firmware => exact hf0 (hf rfl)
    | 1, .saveRam => exact hs1
    | 1, .rtc => exact hr1
    | 1, .firmware => exact hf1 (hf rfl)
  exact ⟨joinSavePath_directory hu, fun i => if i = 0 then stem0 else stem1, hc0, hc1,
    fun i kind hf => (hboth i kind hf).1, fun i kind hf => (hboth i kind hf).2,
    decide_eq_true_iff.trans hcollision⟩

theorem buildSavePaths_eq_ok {saveDirectory first second : Path} {includeFirmware : Bool}
    {paths : SavePaths} (h : buildSavePaths saveDirectory first second includeFirmware = .ok paths) :
    ∃ stem, paths.Layout includeFirmware (directoryPrefix saveDirectory) stem := by
  obtain ⟨-, stem, -, -, hl⟩ := buildSavePaths_layout h
  exact ⟨stem, hl⟩

namespace SavePaths

variable {paths : SavePaths} {includeFirmware : Bool} {directory : Path} {stem : Fin 2 → Path}

/-- Equal names of one session have equal stems and suffixes. -/
theorem Layout.names_inj {i j : Fin 2} {s s' : Path} (hs : s ∈ suffixes) (hs' : s' ∈ suffixes)
    (h : directory ++ stem i ++ s = directory ++ stem j ++ s') : stem i = stem j ∧ s = s' := by
  rw [List.append_assoc, List.append_assoc] at h
  exact append_suffix_inj hs hs' (List.append_cancel_left h)

/-- Machines with the same stem are told apart by the collision suffix. -/
theorem Layout.machine_eq (hl : paths.Layout includeFirmware directory stem) {i j : Fin 2}
    (hstem : stem i = stem j)
    (hsuffix : (decide (i = 1) && paths.secondUsesCollisionSuffix) =
      (decide (j = 1) && paths.secondUsesCollisionSuffix)) : i = j := by
  by_contra hne
  have hcollision : paths.secondUsesCollisionSuffix = true := by
    refine hl.collision.mpr ?_
    match i, j with
    | 0, 1 => exact hstem
    | 1, 0 => exact hstem.symm
    | 0, 0 => exact absurd rfl hne
    | 1, 1 => exact absurd rfl hne
  rw [hcollision, Bool.and_true, Bool.and_true, decide_eq_decide] at hsuffix
  omega

/-- **The canonical paths of a session are distinct.** -/
theorem Layout.path_injective (hl : paths.Layout includeFirmware directory stem) {i j : Fin 2}
    {kind kind' : MemoryKind} (hf : kind = .firmware → includeFirmware = true)
    (hf' : kind' = .firmware → includeFirmware = true)
    (h : paths.path i kind = paths.path j kind') : i = j ∧ kind = kind' := by
  rw [hl.path i kind hf, hl.path j kind' hf'] at h
  obtain ⟨hstem, hsuffix⟩ := Layout.names_inj (regionSuffix_mem _ _) (regionSuffix_mem _ _) h
  obtain ⟨hcollided, hkind⟩ := regionSuffix_inj hsuffix
  exact ⟨hl.machine_eq hstem hcollided, hkind⟩

/-- A suffix can be exchanged for one of the same length. -/
theorem replaceSuffix_eq {before oldSuffix newSuffix : Path}
    (hlength : (before ++ oldSuffix).length < pathCapacity)
    (hsame : oldSuffix.length = newSuffix.length) :
    replaceSuffix (before ++ oldSuffix) oldSuffix newSuffix pathCapacity =
      .ok (before ++ newSuffix) := by
  unfold replaceSuffix
  rw [List.length_append, Nat.add_sub_cancel, List.take_left]
  rw [List.length_append, hsame, ← List.length_append] at hlength
  exact if_neg (by omega)

/-- The legacy candidate of a machine: its SaveRAM path with the other suffix. -/
theorem Layout.legacySavPath_eq (hl : paths.Layout includeFirmware directory stem) (i : Fin 2) :
    legacySavPath (paths.sram i) pathCapacity =
      .ok (directory ++ stem i ++ legacySuffix (i = 1 && paths.secondUsesCollisionSuffix)) := by
  have hpath : paths.sram i = _ := hl.path i .saveRam (by simp)
  have hlength : (paths.sram i).length < pathCapacity := hl.length i .saveRam (by simp)
  generalize (decide (i = 1) && paths.secondUsesCollisionSuffix) = collided at hpath ⊢
  rw [hpath] at hlength ⊢
  unfold legacySavPath
  cases collided with
  | false =>
    have hno : ¬".srm.2".toList <:+ directory ++ stem i ++ regionSuffix false .saveRam := by
      rintro ⟨a, ha⟩
      have hne := (append_suffix_inj (by decide) (by decide) ha).2
      exact absurd hne (by decide)
    have hsuffix : ".srm".toList <:+ directory ++ stem i ++ regionSuffix false .saveRam :=
      List.suffix_append _ _
    rw [if_neg (by simp [regionSuffix, pathCapacity]), if_neg hno, if_pos hsuffix]
    exact replaceSuffix_eq hlength (by decide)
  | true =>
    have hsuffix : ".srm.2".toList <:+ directory ++ stem i ++ regionSuffix true .saveRam :=
      List.suffix_append _ _
    rw [if_neg (by simp [regionSuffix, pathCapacity]), if_pos hsuffix]
    exact replaceSuffix_eq hlength (by decide)

/-- **No legacy candidate is a canonical path.** -/
theorem Layout.legacy_ne_path (hl : paths.Layout includeFirmware directory stem) (i j : Fin 2)
    {kind : MemoryKind} (hf : kind = .firmware → includeFirmware = true) :
    directory ++ stem i ++ legacySuffix (i = 1 && paths.secondUsesCollisionSuffix) ≠
      paths.path j kind := by
  rw [hl.path j kind hf]
  intro h
  obtain ⟨-, hsuffix⟩ := Layout.names_inj (legacySuffix_mem _) (regionSuffix_mem _ _) h
  exact regionSuffix_ne_legacySuffix _ _ _ hsuffix.symm

end SavePaths

end DualBoy.Saves
