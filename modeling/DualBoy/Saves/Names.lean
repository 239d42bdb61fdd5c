import DualBoy.Saves.Ownership
import Mathlib.Data.List.DropRight

/-!
# The names of a session

Every file name of a session in one place: the canonical paths, their lock files and the legacy
candidates. A content path's stem may itself end like any of them, so the names are told apart by
their suffixes alone.

* `append_suffix_ne_lockFile`: no canonical or legacy name is a lock file's.
* `directoryPrefix_eq`: the directory part, as the save directory without its trailing separators.
* `contentStem_safe`, `isSafeComponent_append`: a stem with a suffix is one component.
* **`SavePaths.save_paths_never_collide`**.
-/

namespace DualBoy.Saves

open DualBoy.Lib

/-! ## Lock files -/

/-- A lock file's suffix neither ends a name's suffix nor ends in one. -/
theorem suffixes_free_of_lock : ∀ s ∈ suffixes,
    ¬s <:+ ".dualboy.lock".toList ∧ ¬".dualboy.lock".toList <:+ s := by
  decide

/-- No name is the lock file of a path, whatever the path. -/
theorem append_suffix_ne_lockFile {a s : Path} (hs : s ∈ suffixes) (path : Path) :
    a ++ s ≠ lockFile path := by
  intro h
  obtain ⟨hshort, hlong⟩ := suffixes_free_of_lock s hs
  have hlock : ".dualboy.lock".toList <:+ a ++ s := h ▸ List.suffix_append path _
  rcases List.suffix_or_suffix_of_suffix (List.suffix_append a s) hlock with hends | hends
  · exact hshort hends
  · exact hlong hends

/-! ## The directory -/

/-- The separator before a name: a slash, or the separator a directory of nothing else begins
with. -/
def nameSeparator (saveDirectory : Path) : Char :=
  if saveDirectory.rdropWhile isSeparator = [] then saveDirectory.head?.getD '/' else '/'

theorem rdropWhile_cons {p : Char → Bool} (c : Char) (cs : Path) :
    (c :: cs).rdropWhile p =
      if cs.rdropWhile p = [] ∧ p c = true then [] else c :: cs.rdropWhile p := by
  induction cs using List.reverseRecOn with
  | nil => by_cases hc : p c <;> simp [hc]
  | append_singleton cs x ih =>
    rw [← List.cons_append, List.rdropWhile_concat, List.rdropWhile_concat]
    by_cases hx : p x
    · rw [if_pos hx, if_pos hx, ih]
    · rw [if_neg hx, if_neg hx, if_neg (by simp), List.cons_append]

theorem trimDirectory_cons (c : Char) (cs : Path) :
    trimDirectory (c :: cs) = c :: cs.rdropWhile isSeparator := rfl

/-- **The directory of the names**: the save directory without its trailing separators, and one
separator. -/
theorem directoryPrefix_eq {saveDirectory : Path} (hne : saveDirectory ≠ []) :
    directoryPrefix saveDirectory =
      saveDirectory.rdropWhile isSeparator ++ [nameSeparator saveDirectory] := by
  match saveDirectory with
  | [] => exact absurd rfl hne
  | c :: cs =>
    unfold directoryPrefix nameSeparator
    rw [trimDirectory_cons, rdropWhile_cons]
    dsimp only
    by_cases htrimmed : cs.rdropWhile isSeparator = []
    · by_cases hc : isSeparator c = true
      · simp [htrimmed, hc]
      · simp [htrimmed, hc]
    · have hlast := List.rdropWhile_last_not isSeparator cs htrimmed
      have hends : (c :: cs.rdropWhile isSeparator).getLast? =
          some ((cs.rdropWhile isSeparator).getLast htrimmed) := by
        rw [List.getLast?_cons, List.getLast?_eq_getLast_of_ne_nil htrimmed, Option.getD_some]
      rw [hends, Option.map_some, Option.getD_some, if_neg hlast,
        if_neg (fun h : _ ∧ _ => htrimmed h.1), if_neg (List.cons_ne_nil _ _)]

theorem isSeparator_nameSeparator {saveDirectory : Path} (hne : saveDirectory ≠ []) :
    isSeparator (nameSeparator saveDirectory) = true := by
  unfold nameSeparator
  split
  · rename_i htrimmed
    match saveDirectory with
    | [] => exact absurd rfl hne
    | c :: cs => exact List.rdropWhile_eq_nil_iff.mp htrimmed c List.mem_cons_self
  · rfl

/-! ## The name -/

theorem isSafeComponent_iff {component : Path} :
    isSafeComponent component = true ↔ component ≠ [] ∧ component ≠ ['.'] ∧
      component ≠ ['.', '.'] ∧ ∀ c ∈ component, isSeparator c = false := by
  simp [isSafeComponent, and_assoc]

theorem contentStem_safe {contentPath stem : Path} {capacity : Nat}
    (h : contentStem contentPath capacity = .ok stem) : isSafeComponent stem = true := by
  unfold contentStem at h
  split at h
  · exact absurd h (by simp)
  split at h
  · exact absurd h (by simp)
  dsimp only at h
  split at h
  · exact absurd h (by simp)
  split at h
  · exact absurd h (by simp)
  rename_i hsafe
  obtain rfl := Except.ok.inj h
  exact Bool.not_eq_false _ |>.mp hsafe

theorem suffixes_components : ∀ s ∈ suffixes,
    2 < s.length ∧ s.all (fun c => !isSeparator c) = true := by
  decide

/-- A stem with a suffix is one component. -/
theorem isSafeComponent_append {stem s : Path} (hstem : isSafeComponent stem = true)
    (hs : s ∈ suffixes) : isSafeComponent (stem ++ s) = true := by
  obtain ⟨hlength, hsuffix⟩ := suffixes_components s hs
  obtain ⟨-, -, -, hclean⟩ := isSafeComponent_iff.mp hstem
  have hlong : 2 < (stem ++ s).length := by
    rw [List.length_append]
    omega
  refine isSafeComponent_iff.mpr ⟨?_, ?_, ?_, ?_⟩
  · rintro h
    rw [h] at hlong
    exact absurd hlong (by decide)
  · intro h
    rw [h] at hlong
    exact absurd hlong (by decide)
  · intro h
    rw [h] at hlong
    exact absurd hlong (by decide)
  · intro c hc
    rcases List.mem_append.mp hc with hc | hc
    · exact hclean c hc
    · exact Bool.not_eq_true' _ |>.mp (List.all_eq_true.mp hsuffix c hc)

/-! ## Legacy candidates -/

/-- A larger buffer does not change the candidate. -/
theorem legacySavPath_capacity {canonicalSrm output : Path} {capacity : Nat}
    (h : legacySavPath canonicalSrm capacity = .ok output) :
    legacySavPath canonicalSrm pathCapacity = .ok output := by
  have hreplace (oldSuffix newSuffix : Path)
      (hr : replaceSuffix canonicalSrm oldSuffix newSuffix capacity = .ok output) :
      replaceSuffix canonicalSrm oldSuffix newSuffix pathCapacity = .ok output := by
    unfold replaceSuffix at hr ⊢
    dsimp only at hr ⊢
    split at hr
    · exact absurd hr (by simp)
    · rename_i hfits
      rw [if_neg fun h => hfits (Or.inr (h.elim id id))]
      exact hr
  unfold legacySavPath at h ⊢
  by_cases hempty : canonicalSrm = [] ∨ capacity = 0
  · rw [if_pos hempty] at h
    exact absurd h (by simp)
  · rw [if_neg hempty] at h
    rw [if_neg fun h' => hempty (h'.imp_right fun h0 => absurd h0 (by decide))]
    by_cases hsecond : ".srm.2".toList <:+ canonicalSrm
    · rw [if_pos hsecond] at h ⊢
      exact hreplace _ _ h
    · rw [if_neg hsecond] at h ⊢
      by_cases hfirst : ".srm".toList <:+ canonicalSrm
      · rw [if_pos hfirst] at h ⊢
        exact hreplace _ _ h
      · rw [if_neg hfirst] at h
        exact absurd h (by simp)

namespace SavePaths

variable {paths : SavePaths} {includeFirmware : Bool} {directory : Path} {stem : Fin 2 → Path}

theorem legacySuffix_inj {c c' : Bool} (h : legacySuffix c = legacySuffix c') : c = c' := by
  revert h
  cases c <;> cases c' <;> decide

/-- **The legacy candidates of the machines differ.** -/
theorem Layout.legacy_injective (hl : paths.Layout includeFirmware directory stem) {i j : Fin 2}
    (h : directory ++ stem i ++ legacySuffix (i = 1 && paths.secondUsesCollisionSuffix) =
      directory ++ stem j ++ legacySuffix (j = 1 && paths.secondUsesCollisionSuffix)) : i = j := by
  obtain ⟨hstem, hsuffix⟩ := Layout.names_inj (legacySuffix_mem _) (legacySuffix_mem _) h
  exact hl.machine_eq hstem (legacySuffix_inj hsuffix)

/-! ## A session -/

/-- **Save paths never collide**, with each other, with a lock file or with a legacy candidate, and
each names one component in the save directory. -/
theorem save_paths_never_collide {saveDirectory first second : Path} {includeFirmware : Bool}
    {paths : SavePaths} (h : buildSavePaths saveDirectory first second includeFirmware = .ok paths) :
    (∀ i j kind kind', (kind = .firmware → includeFirmware = true) →
      (kind' = .firmware → includeFirmware = true) →
      (paths.path i kind = paths.path j kind' → i = j ∧ kind = kind') ∧
      (lockFile (paths.path i kind) = lockFile (paths.path j kind') → i = j ∧ kind = kind')) ∧
    (∀ i kind, (kind = .firmware → includeFirmware = true) →
      ∀ path, paths.path i kind ≠ lockFile path) ∧
    (∃ legacy : Fin 2 → Path, legacy 0 ≠ legacy 1 ∧ ∀ i,
      legacySavPath (paths.sram i) pathCapacity = .ok (legacy i) ∧
      (∀ capacity output, legacySavPath (paths.sram i) capacity = .ok output →
        output = legacy i) ∧
      (∀ path, legacy i ≠ lockFile path) ∧
      ∀ j kind, (kind = .firmware → includeFirmware = true) → legacy i ≠ paths.path j kind) ∧
    isSeparator (nameSeparator saveDirectory) = true ∧
    ∀ i kind, (kind = .firmware → includeFirmware = true) →
      ∃ name, isSafeComponent name = true ∧
        paths.path i kind =
          saveDirectory.rdropWhile isSeparator ++ nameSeparator saveDirectory :: name := by
  obtain ⟨hdirectory, stem, hstem0, hstem1, hl⟩ := buildSavePaths_layout h
  have hsafe (i : Fin 2) : isSafeComponent (stem i) = true := by
    match i with
    | 0 => exact contentStem_safe hstem0
    | 1 => exact contentStem_safe hstem1
  refine ⟨?_, ?_, ?_, isSeparator_nameSeparator hdirectory, ?_⟩
  · intro i j kind kind' hf hf'
    exact ⟨hl.path_injective hf hf', fun hlock => hl.path_injective hf hf' (lockFile_inj hlock)⟩
  · intro i kind hf path
    rw [hl.path i kind hf]
    exact append_suffix_ne_lockFile (regionSuffix_mem _ _) path
  · refine ⟨fun i => directoryPrefix saveDirectory ++ stem i ++
      legacySuffix (i = 1 && paths.secondUsesCollisionSuffix), ?_, fun i => ⟨?_, ?_, ?_, ?_⟩⟩
    · intro heq
      exact absurd (hl.legacy_injective heq) (by decide)
    · exact hl.legacySavPath_eq i
    · intro capacity output hlegacy
      have hfull := legacySavPath_capacity hlegacy
      rw [hl.legacySavPath_eq i] at hfull
      exact (Except.ok.inj hfull).symm
    · exact append_suffix_ne_lockFile (legacySuffix_mem _)
    · intro j kind hf
      exact hl.legacy_ne_path i j hf
  · intro i kind hf
    refine ⟨stem i ++ regionSuffix (i = 1 && paths.secondUsesCollisionSuffix) kind,
      isSafeComponent_append (hsafe i) (regionSuffix_mem _ _), ?_⟩
    rw [hl.path i kind hf, directoryPrefix_eq hdirectory]
    simp only [List.append_assoc, List.cons_append, List.nil_append]

/-- Two content files whose stems are the same and end as the names do, the second by a backslash
path. -/
theorem same_stems_never_collide :
    ∃ paths, buildSavePaths "//".toList "a/x.srm.gba".toList "b\\x.srm.gbc".toList true = .ok paths ∧
      paths.path 0 .saveRam = "/x.srm.srm".toList ∧
      paths.path 1 .saveRam = "/x.srm.srm.2".toList ∧
      ∀ path, paths.path 1 .firmware ≠ lockFile path := by
  have hbuilt : buildSavePaths "//".toList "a/x.srm.gba".toList "b\\x.srm.gbc".toList true =
      .ok (SavePaths.of
        ⟨"/x.srm.srm".toList, "/x.srm.rtc".toList, "/x.srm.firmware.bin".toList⟩
        ⟨"/x.srm.srm.2".toList, "/x.srm.rtc.2".toList, "/x.srm.firmware.bin.2".toList⟩ true) := rfl
  exact ⟨_, hbuilt, rfl, rfl, (save_paths_never_collide hbuilt).2.1 1 .firmware fun _ => rfl⟩

end SavePaths

end DualBoy.Saves
