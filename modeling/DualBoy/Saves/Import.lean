import DualBoy.Saves.Durability
import Mathlib.Data.List.TakeWhile

/-!
# Legacy imports

The import of a `.sav` writes up to two canonical files. Here: which files an initialization can
change, whatever becomes of it, and how an owner's compares with a reader's.

* `Loading.Standing`: a machine that is still ahead is as it was.
* `Loading.twin_load`: a session that owns its files and one that may only read them end with the
  same memory.
* `canonicalWins_iff`: an existing canonical file wins, unless an import overwrites the `.rtc`.
-/

namespace DualBoy.Saves

open DualBoy.Lib

/-- The same session, with another end of taking the locks. -/
def Setup.under (s : Setup) (locks : Ownership) : Setup :=
  { s with locks }

namespace Loading

variable {s s' : Setup} {owner firmware : Bool} {paths : SavePaths} {directory : Path}
  {stem : Fin 2 → Path} {managed : Fin 2 → MemoryKind → Bool} {e e' : Engine}
  {files files' : Files Path} {rest : List (Fin 2 × MemoryKind)} {l l' : Loading} {i j : Fin 2}
  {kind kind' : MemoryKind} {src : Source} {capacity : Nat}

/-! ## Where the loop stands -/

/-- The regions of a machine are next to each other, SaveRAM first. -/
theorem slots_grouped {slot : Fin 2 × MemoryKind} {rest : List (Fin 2 × MemoryKind)}
    (h : slot :: rest ∈ slots.tails) : (slot.1, .saveRam) ∉ rest := by
  simp only [slots, List.tails, List.mem_cons, List.cons.injEq, List.not_mem_nil, or_false,
    reduceCtorEq] at h
  rcases h with ⟨rfl, rfl⟩ | ⟨rfl, rfl⟩ | ⟨rfl, rfl⟩ | ⟨rfl, rfl⟩ | ⟨rfl, rfl⟩ | ⟨rfl, rfl⟩
  all_goals decide

theorem slots_rtc_behind {slot : Fin 2 × MemoryKind} {rest : List (Fin 2 × MemoryKind)}
    (h : slot :: rest ∈ slots.tails) (hkind : slot.2 ≠ .saveRam) : (slot.1, .rtc) ∉ rest := by
  simp only [slots, List.tails, List.mem_cons, List.cons.injEq, List.not_mem_nil, or_false,
    reduceCtorEq] at h
  rcases h with ⟨rfl, rfl⟩ | ⟨rfl, rfl⟩ | ⟨rfl, rfl⟩ | ⟨rfl, rfl⟩ | ⟨rfl, rfl⟩ | ⟨rfl, rfl⟩
  all_goals first | exact absurd rfl hkind | decide

/-- A legacy file is a GBA cartridge's, both of whose regions are core-managed. -/
theorem managed_of_mgba (hfamily : e.family = .mgba) (i : Fin 2) {kind : MemoryKind}
    (hkind : kind ≠ .firmware) : s.managed e paths i kind = true := by
  unfold Setup.managed chooseOwnership
  cases kind with
  | firmware => exact absurd rfl hkind
  | saveRam | rtc => simp [hfamily]

/-- The files a source writes are SaveRAM's and the RTC's of its machine. -/
theorem writes_canonical (hfound : Found e paths files i capacity kind src) {path : Path}
    (hmem : path ∈ (src.writes paths i).map Prod.fst) :
    kind = .saveRam ∧ ∃ kind', kind' ≠ .firmware ∧ path = paths.path i kind' := by
  cases hfound with
  | nothing _ => exact absurd hmem (by simp [Source.writes])
  | file _ _ => exact absurd hmem (by simp [Source.writes])
  | @legacy legacy bytes battery rtc _ _ _ _ _ _ =>
    refine ⟨rfl, ?_⟩
    cases rtc with
    | none =>
      rw [Source.writes, List.map_cons, List.map_nil, List.mem_singleton] at hmem
      exact ⟨.saveRam, by simp, hmem⟩
    | some record =>
      simp only [Source.writes, List.map_cons, List.map_nil, List.mem_cons, List.not_mem_nil,
        or_false] at hmem
      rcases hmem with hmem | hmem
      · exact ⟨.rtc, by simp, hmem⟩
      · exact ⟨.saveRam, by simp, hmem⟩

theorem memory_engine_of_ne (hne : j ≠ i) (e : Engine) (kind' : MemoryKind) (src : Source) :
    (src.engine e i kind capacity).memory j kind' = e.memory j kind' := by
  have hset (e : Engine) (k : MemoryKind) (bytes : List Byte) :
      (e.setMemory i k bytes).memory j kind' = e.memory j kind' :=
    engine_setMemory_of_ne (fun h => hne h.1) bytes
  cases src with
  | nothing => rfl
  | file bytes => exact hset _ _ _
  | legacy path battery rtc =>
    cases rtc with
    | none => exact hset _ _ _
    | some record => exact (hset _ _ _).trans (hset _ _ _)

/-- Where the loop stands with `rest` ahead: only memory has changed in the engine, and a machine it
has not come to is as it was. -/
structure Standing (paths : SavePaths) (e : Engine) (files : Files Path)
    (rest : List (Fin 2 × MemoryKind)) (l : Loading) : Prop where
  ahead : rest ∈ slots.tails
  engine : l.engine = { e with memory := l.engine.memory }
  memory : ∀ i kind, (i, .saveRam) ∈ rest → l.engine.memory i kind = e.memory i kind
  canonical : ∀ i kind, (i, .saveRam) ∈ rest → kind ≠ .firmware →
    l.files (paths.path i kind) = files (paths.path i kind)
  others : ∀ p, (∀ i kind, kind ≠ .firmware → p ≠ paths.path i kind) → l.files p = files p

theorem Standing.start (paths : SavePaths) (e : Engine) (files : Files Path) :
    Standing paths e files slots (start e files) where
  ahead := by simp [slots, List.tails]
  engine := rfl
  memory := fun _ _ _ => rfl
  canonical := fun _ _ _ _ => rfl
  others := fun _ _ => rfl

theorem Standing.step (hl : paths.Layout firmware directory stem)
    (h : Standing paths e files ((i, kind) :: rest) l)
    (hloads : Loads s owner paths managed i kind l l') : Standing paths e files rest l' := by
  obtain ⟨hahead, hnotin, -⟩ := slots_ahead h.ahead
  have hgrouped := slots_grouped h.ahead
  have hmachine {j : Fin 2} (hj : (j, .saveRam) ∈ rest) : j ≠ i := by
    rintro rfl
    exact hgrouped hj
  cases hloads with
  | skip _ =>
    exact
      { h with
        ahead := hahead
        memory := fun j kind' hj => h.memory j kind' (List.mem_cons_of_mem _ hj)
        canonical := fun j kind' hj => h.canonical j kind' (List.mem_cons_of_mem _ hj) }
  | @load data src report _ _ _ _ hsource _ _ _ =>
    have hfound := found_of_source hsource
    have hfile {p : Path} (hp : ∀ kind', kind' ≠ .firmware → p ≠ paths.path i kind') :
        (l.loaded owner paths i kind data.length src).files p = l.files p := by
      refine files_loaded_of_ne fun hmem => ?_
      obtain ⟨-, kind', hkind', hpath⟩ := writes_canonical hfound hmem
      exact hp kind' hkind' hpath
    exact
      { ahead := hahead
        engine := (engine_eq l.engine i kind data.length src).trans (congrArg
          (fun e' => { e' with memory := (src.engine l.engine i kind data.length).memory }) h.engine)
        memory := fun j kind' hj =>
          (memory_engine_of_ne (hmachine hj) l.engine kind' src).trans
            (h.memory j kind' (List.mem_cons_of_mem _ hj))
        canonical := fun j kind' hj hkind' => by
          refine (hfile fun kind'' hkind'' heq => ?_).trans
            (h.canonical j kind' (List.mem_cons_of_mem _ hj) hkind')
          exact hmachine hj (hl.path_injective (fun hf => absurd hf hkind')
            (fun hf => absurd hf hkind'') heq).1
        others := fun p hp => (hfile fun kind' hkind' => hp i kind' hkind').trans (h.others p hp) }

/-- **Where the loop stands** once the regions before `rest` are loaded. -/
theorem standing_of_performed (hl : paths.Layout firmware directory stem)
    {before : List (Fin 2 × MemoryKind)} (hslots : slots = before ++ rest)
    (hdone : Performed (loadRegion s owner paths managed) before (start e files) l) :
    Standing paths e files rest l := by
  refine hdone.invariant (Standing paths e files) rest ?_ (hslots ▸ Standing.start paths e files)
  rintro ⟨i, kind⟩ rest l l' h hload
  exact h.step hl (loadRegion_eq_none.mp hload)

/-! ## Equal sources -/

theorem readFileFilled_congr {path : Path} (h : files' path = files path) (capacity : Nat) :
    readFileFilled files' path capacity = readFileFilled files path capacity := by
  unfold readFileFilled
  rw [h]

theorem regionSource_congr {path : Path} (h : files' path = files path) (missingIsOk : Bool) :
    s.regionSource files' i kind path capacity missingIsOk =
      s.regionSource files i kind path capacity missingIsOk := by
  unfold Setup.regionSource
  rw [readFileFilled_congr h]

theorem firmwareSource_congr {path : Path} (h : files' path = files path) :
    s.firmwareSource files' i path capacity = s.firmwareSource files i path capacity := by
  unfold Setup.firmwareSource
  rw [readFileFilled_congr h]

/-- What the source of SaveRAM depends on. -/
theorem sramSource_congr (hfamily : e'.family = e.family)
    (hextents : e'.persistentMemoryExtent = e.persistentMemoryExtent)
    (hrtc : ((e'.memory i .rtc).getD []).length = ((e.memory i .rtc).getD []).length)
    (hcanonical : files' (paths.sram i) = files (paths.sram i))
    (hlegacy : ∀ legacy, legacySavPath (paths.sram i) pathCapacity = .ok legacy →
      files' legacy = files legacy) :
    s.sramSource e' paths files' i capacity = s.sramSource e paths files i capacity := by
  unfold Setup.sramSource
  rw [hfamily, regionSource_congr hcanonical]
  split
  · rfl
  cases hpath : legacySavPath (paths.sram i) pathCapacity with
  | error result => rfl
  | ok legacy =>
    have hfile := hlegacy legacy hpath
    have hchoice : chooseSavImport files' (paths.sram i) legacy =
        chooseSavImport files (paths.sram i) legacy := by
      unfold chooseSavImport
      rw [hcanonical, hfile]
    have hextent : e'.importExtent i capacity = e.importExtent i capacity := by
      unfold Engine.importExtent
      rw [hextents]
    have himport : s.legacySource e' files' i legacy capacity =
        s.legacySource e files i legacy capacity := by
      unfold Setup.legacySource
      rw [readFileFilled_congr hfile, hextent, hrtc]
    dsimp only
    rw [hchoice, regionSource_congr hcanonical, himport]

/-- The legacy candidate of a machine is none of the files an initialization writes. -/
theorem legacy_apart (hl : paths.Layout firmware directory stem) {legacy : Path}
    (hpath : legacySavPath (paths.sram i) pathCapacity = .ok legacy) (j : Fin 2)
    (hkind : kind ≠ .firmware) : legacy ≠ paths.path j kind := by
  rw [hl.legacySavPath_eq i] at hpath
  rw [← Except.ok.inj hpath]
  exact hl.legacy_ne_path i j fun hf => absurd hf hkind

/-- A machine the loop has not come to has the source it has at first. -/
theorem Standing.source (hl : paths.Layout firmware directory stem)
    (h : Standing paths e files rest l) (hi : (i, .saveRam) ∈ rest) :
    s.source l.engine paths l.files i capacity .saveRam =
      s.source e paths files i capacity .saveRam :=
  sramSource_congr (by rw [h.engine]) (by rw [h.engine])
    (by rw [h.memory i .rtc hi]) (h.canonical i .saveRam hi (by simp)) fun _ hpath =>
      h.others _ fun j _ hkind => legacy_apart hl hpath j hkind

/-! ## Writes -/

/-- The writes that happen: those before the first that fails. -/
def performed (s : Setup) (writes : List (Path × List Byte)) : List (Path × List Byte) :=
  writes.takeWhile fun write => s.writeFileAtomic write.1 = .ok

/-- Applying a source writes files and nothing else. -/
theorem apply_writes (s : Setup) (owner : Bool) (paths : SavePaths) (l : Loading) (i : Fin 2)
    (kind : MemoryKind) (capacity : Nat) (src : Source) :
    (l.apply s owner paths i kind capacity src).1.files =
        l.files.puts (performed s (sourceWrites owner paths i src)) ∧
      (l.apply s owner paths i kind capacity src).1.writes =
        l.writes ++ performed s (sourceWrites owner paths i src) := by
  cases src with
  | nothing => cases owner <;> simp [apply, sourceWrites, Source.writes, performed]
  | file bytes => cases owner <;> simp [apply, sourceWrites, Source.writes, performed, setMemory]
  | legacy path battery rtc =>
    unfold apply importRegion sourceWrites Source.writes performed setMemory
    cases owner with
    | false => cases rtc <;> simp
    | true =>
      cases rtc with
      | none =>
        by_cases hsram : s.writeFileAtomic (paths.sram i) = .ok
        · simp [write_of_ok hsram, hsram, Files.puts]
        · simp [write_of_not_ok hsram, hsram]
      | some rtc =>
        by_cases hrtc : s.writeFileAtomic (paths.rtc i) = .ok
        · by_cases hsram : s.writeFileAtomic (paths.sram i) = .ok
          · simp [write_of_ok hrtc, write_of_ok hsram, hrtc, hsram, Files.puts]
          · simp [write_of_ok hrtc, write_of_not_ok hsram, hrtc, hsram, Files.puts]
        · simp [write_of_not_ok hrtc, hrtc]

/-- A region whose source is found writes what the source has it write. -/
theorem loadRegion_files_of_source {data : List Byte} (hmanaged : managed i kind = true)
    (hmemory : l.engine.memory i kind = some data) (hne : data ≠ [])
    (hfirmware : kind = .firmware → data.length = ndsFirmwareSize)
    (hsource : s.source l.engine paths l.files i data.length kind = some src) :
    (loadRegion s owner paths managed (i, kind) l).1.files =
      l.files.puts (performed s (sourceWrites owner paths i src)) := by
  have htrack (l : Loading) (n : Nat) : (l.track s i kind n).1.files = l.files := by
    unfold track
    dsimp only
    split <;> rfl
  have happlied := readKind_applied s owner paths l i data.length kind
  rw [hsource] at happlied
  have hread : l.readKind s owner paths i data.length kind =
      l.apply s owner paths i kind data.length src := happlied
  have hlength : data.length ≠ 0 := fun h => hne (List.length_eq_zero_iff.mp h)
  unfold loadRegion
  dsimp only
  rw [if_neg (by simp [hmanaged]), hmemory]
  dsimp only
  rw [if_neg fun h => h.2 (hfirmware h.1), if_neg hlength, hread,
    ← (apply_writes s owner paths l i kind data.length src).1]
  cases l.apply s owner paths i kind data.length src with
  | mk l₁ outcome =>
    cases outcome with
    | error error => rfl
    | ok n => exact htrack l₁ n

/-- **The files a region's loading changes**, whether it fails or not: those its source has it
write. -/
theorem loadRegion_files (s : Setup) (owner : Bool) (paths : SavePaths)
    (managed : Fin 2 → MemoryKind → Bool) (i : Fin 2) (kind : MemoryKind) (l : Loading) :
    (loadRegion s owner paths managed (i, kind) l).1.files = l.files ∨
      ∃ data src, managed i kind = true ∧ l.engine.memory i kind = some data ∧ data ≠ [] ∧
        s.source l.engine paths l.files i data.length kind = some src ∧
        (loadRegion s owner paths managed (i, kind) l).1.files =
          l.files.puts (performed s (sourceWrites owner paths i src)) := by
  by_cases hmanaged : managed i kind = false
  · left
    unfold loadRegion
    dsimp only
    rw [if_pos hmanaged]
  cases hmemory : l.engine.memory i kind with
  | none =>
    left
    unfold loadRegion
    dsimp only
    rw [if_neg hmanaged, hmemory]
  | some data =>
    by_cases hfirmware : kind = .firmware ∧ data.length ≠ ndsFirmwareSize
    · left
      unfold loadRegion
      dsimp only
      rw [if_neg hmanaged, hmemory]
      dsimp only
      rw [if_pos hfirmware]
    by_cases hempty : data.length = 0
    · left
      unfold loadRegion
      dsimp only
      rw [if_neg hmanaged, hmemory]
      dsimp only
      rw [if_neg hfirmware, if_pos hempty]
    cases hsource : s.source l.engine paths l.files i data.length kind with
    | none =>
      have happlied := readKind_applied s owner paths l i data.length kind
      rw [hsource] at happlied
      obtain ⟨error, herror⟩ := happlied
      left
      unfold loadRegion
      dsimp only
      rw [if_neg hmanaged, hmemory]
      dsimp only
      rw [if_neg hfirmware, if_neg hempty, herror]
    | some src =>
      have hne : data ≠ [] := fun h => hempty (List.length_eq_zero_iff.mpr h)
      refine Or.inr ⟨data, src, by simpa using hmanaged, rfl, hne, hsource, ?_⟩
      exact loadRegion_files_of_source (by simpa using hmanaged) hmemory hne
        (fun hkind => by simpa [hkind] using hfirmware) hsource

theorem mem_performed {writes : List (Path × List Byte)} {p : Path}
    (h : p ∈ (performed s writes).map Prod.fst) : p ∈ writes.map Prod.fst := by
  obtain ⟨write, hwrite, rfl⟩ := List.mem_map.mp h
  exact List.mem_map_of_mem ((List.takeWhile_prefix _).subset hwrite)

theorem mem_sourceWrites {p : Path} (h : p ∈ (sourceWrites owner paths i src).map Prod.fst) :
    p ∈ (src.writes paths i).map Prod.fst := by
  cases owner with
  | false => exact absurd h (by simp [sourceWrites])
  | true => exact h

/-- The files a region's loading leaves alone, whether it fails or not. -/
theorem loadRegion_file_of_ne {p : Path}
    (hp : kind = .saveRam → ∀ kind', kind' ≠ .firmware → p ≠ paths.path i kind') :
    (loadRegion s owner paths managed (i, kind) l).1.files p = l.files p := by
  rcases loadRegion_files s owner paths managed i kind l with hsame |
    ⟨data, src, -, -, -, hsource, hfiles⟩
  · rw [hsame]
  · rw [hfiles]
    refine Files.puts_of_not_mem _ fun hmem => ?_
    obtain ⟨rfl, kind', hkind', hpath⟩ :=
      writes_canonical (found_of_source hsource) (mem_sourceWrites (mem_performed hmem))
    exact hp rfl kind' hkind' hpath

/-- A reader writes no file. -/
theorem loadRegion_reader : (loadRegion s false paths managed (i, kind) l).1.files = l.files := by
  rcases loadRegion_files s false paths managed i kind l with hsame | ⟨_, _, -, -, -, -, hfiles⟩
  · exact hsame
  · exact hfiles

/-- The slots before one of them. -/
theorem before_eq_takeWhile {before : List (Fin 2 × MemoryKind)} {slot : Fin 2 × MemoryKind}
    (h : slots = before ++ slot :: rest) : before = slots.takeWhile (· ≠ slot) := by
  have hnotin : slot ∉ before := by
    have hnodup : slots.Nodup := by decide
    rw [h] at hnodup
    exact fun hmem => (List.nodup_append.mp hnodup).2.2 slot hmem slot List.mem_cons_self rfl
  rw [h, List.takeWhile_append_of_pos, List.takeWhile_cons_of_neg, List.append_nil]
  · simp
  · intro slot' hslot'
    simpa using fun heq : slot' = slot => hnotin (heq ▸ hslot')

end Loading

/-! ## Overwriting -/

/-- The loop over the regions comes to this one: those before it load. -/
def Setup.Reaches (s : Setup) (e : Engine) (paths : SavePaths) (files : Files Path)
    (slot : Fin 2 × MemoryKind) : Prop :=
  ∃ l, Performed (Loading.loadRegion s true paths (s.managed e paths))
    (Loading.slots.takeWhile (· ≠ slot)) (Loading.start e files) l

/-- A session that owns its files comes to machine `i`, takes an RTC record from its legacy file, and
writes it in the place of another `.rtc`. -/
def Setup.Overwrites (s : Setup) (e : Engine) (files : Files Path) (i : Fin 2) : Prop :=
  ∃ paths data legacy battery record, s.paths e = .ok paths ∧
    s.Reaches e paths files (i, .saveRam) ∧ e.memory i .saveRam = some data ∧ data ≠ [] ∧
    s.source e paths files i data.length .saveRam = some (.legacy legacy battery (some record)) ∧
    s.writeFileAtomic (paths.rtc i) = .ok ∧
    files (paths.rtc i) ≠ .missing ∧ files (paths.rtc i) ≠ .regular record

namespace Loading

variable {s s' : Setup} {owner firmware : Bool} {paths : SavePaths} {directory : Path}
  {stem : Fin 2 → Path} {managed : Fin 2 → MemoryKind → Bool} {e e' : Engine}
  {files files' : Files Path} {rest before : List (Fin 2 × MemoryKind)} {l l' : Loading}
  {i j : Fin 2} {kind kind' : MemoryKind} {src : Source} {capacity : Nat} {bytes : List Byte}

theorem reaches_of_performed
    (hslots : slots = before ++ (i, kind) :: rest)
    (hdone : Performed (loadRegion s true paths (s.managed e paths)) before (start e files) l) :
    s.Reaches e paths files (i, kind) :=
  ⟨l, before_eq_takeWhile hslots ▸ hdone⟩

/-- The RTC record of an import, where an `.rtc` is. -/
theorem record_eq (hl : paths.Layout firmware directory stem) (hpaths : s.paths e = .ok paths)
    (hno : ¬s.Overwrites e files i) (hslots : slots = before ++ (i, .saveRam) :: rest)
    (hdone : Performed (loadRegion s true paths (s.managed e paths)) before (start e files) l)
    {data : List Byte} (hmemory : l.engine.memory i .saveRam = some data) (hne : data ≠ [])
    {legacy : Path} {battery record : List Byte}
    (hsource : s.source l.engine paths l.files i data.length .saveRam =
      some (.legacy legacy battery (some record)))
    (hwrite : s.writeFileAtomic (paths.rtc i) = .ok) :
    files (paths.rtc i) = .missing ∨ files (paths.rtc i) = .regular record := by
  have hstanding := standing_of_performed hl hslots hdone
  by_contra hother
  rw [not_or] at hother
  refine hno ⟨paths, data, legacy, battery, record, hpaths, reaches_of_performed hslots hdone, ?_,
    hne, ?_, hwrite, hother⟩
  · exact (hstanding.memory i .saveRam List.mem_cons_self).symm.trans hmemory
  · exact (hstanding.source hl List.mem_cons_self).symm.trans hsource

/-- **One region keeps the canonical files there are**, unless it overwrites an `.rtc`. -/
theorem kept_step (hl : paths.Layout firmware directory stem) (hpaths : s.paths e = .ok paths)
    (hno : ¬s.Overwrites e files i) (hslots : slots = before ++ (i, kind) :: rest)
    (hdone : Performed (loadRegion s true paths (s.managed e paths)) before (start e files) l)
    (hkind' : kind' ≠ .firmware) (hexists : files (paths.path j kind') ≠ .missing)
    (hkept : l.files (paths.path j kind') = files (paths.path j kind')) :
    (loadRegion s true paths (s.managed e paths) (i, kind) l).1.files (paths.path j kind') =
      files (paths.path j kind') := by
  by_cases hself : kind = .saveRam ∧ j = i
  · obtain ⟨rfl, rfl⟩ := hself
    have hstanding := standing_of_performed hl hslots hdone
    rcases loadRegion_files s true paths (s.managed e paths) j .saveRam l with hsame |
      ⟨data, src, -, hmemory, hne, hsource, hfiles⟩
    · rw [hsame]
      exact hkept
    · rw [hfiles]
      cases hfound : found_of_source hsource with
      | nothing _ => exact hkept
      | file _ _ => exact hkept
      | @legacy legacy bytes battery rtc _ hfile _ _ _ _ =>
        have hsram : files (paths.sram j) = .missing :=
          (hstanding.canonical j .saveRam List.mem_cons_self (by simp)).symm.trans hfile
        have hrtc : kind' = .rtc := by
          cases kind' with
          | saveRam => exact absurd hsram hexists
          | rtc => rfl
          | firmware => exact absurd rfl hkind'
        subst hrtc
        have hne : paths.path j .rtc ≠ paths.sram j := fun heq => by
          have heq' : paths.path j .rtc = paths.path j .saveRam := heq
          exact absurd (hl.path_injective (by simp) (by simp) heq').2 (by simp)
        cases rtc with
        | none =>
          refine (Files.puts_of_not_mem _ fun hmem => ?_).trans hkept
          have hmem' := mem_performed hmem
          exact hne (by simpa [sourceWrites, Source.writes] using hmem')
        | some record =>
          by_cases hwrite : s.writeFileAtomic (paths.rtc j) = .ok
          · have hrecord := (record_eq hl hpaths hno hslots hdone hmemory ‹data ≠ []› hsource
              hwrite).resolve_left hexists
            have hwrites : performed s (sourceWrites true paths j
                (.legacy legacy battery (some record))) =
                (paths.rtc j, record) :: performed s [(paths.sram j, battery)] := by
              simp [performed, sourceWrites, Source.writes, hwrite]
            rw [hwrites]
            change ((l.files.put (paths.rtc j) record).puts (performed s [(paths.sram j, battery)]))
              (paths.path j .rtc) = _
            refine (Files.puts_of_not_mem _ fun hmem => ?_).trans ?_
            · exact hne (by simpa using mem_performed hmem)
            · exact (Files.put_self _ _ _).trans hrecord.symm
          · have hwrites : performed s (sourceWrites true paths j
                (.legacy legacy battery (some record))) = [] := by
              simp [performed, sourceWrites, Source.writes, hwrite]
            rw [hwrites]
            exact hkept
  · refine (loadRegion_file_of_ne fun hram kind'' hkind'' heq => hself ⟨hram, ?_⟩).trans hkept
    exact (hl.path_injective (fun hf => absurd hf hkind') (fun hf => absurd hf hkind'') heq).1

/-- **A loop that overwrites nothing keeps the canonical files there are.** -/
theorem load_kept (hl : paths.Layout firmware directory stem) (hpaths : s.paths e = .ok paths)
    (hno : ∀ i, ¬s.Overwrites e files i) (hkind' : kind' ≠ .firmware)
    (hexists : files (paths.path j kind') ≠ .missing) :
    (untilFailure (loadRegion s true paths (s.managed e paths)) slots
      (start e files)).1.files (paths.path j kind') = files (paths.path j kind') := by
  refine untilFailure_reached (p := fun l : Loading =>
    l.files (paths.path j kind') = files (paths.path j kind')) ?_ rfl
  rintro before ⟨i, kind⟩ rest l hslots hdone hkept
  exact kept_step hl hpaths (hno i) hslots hdone hkind' hexists hkept

/-- After SaveRAM of machine `i` none of its SaveRAM is ahead. -/
theorem slots_split : ∀ i : Fin 2,
    slots = slots.takeWhile (· ≠ (i, .saveRam)) ++
        (i, .saveRam) :: (slots.dropWhile (· ≠ (i, .saveRam))).tail ∧
      ∀ slot ∈ (slots.dropWhile (· ≠ (i, .saveRam))).tail, slot.2 = .saveRam → slot.1 ≠ i := by
  decide

/-- **A loop that overwrites an `.rtc` leaves the record there.** -/
theorem load_overwritten (h : s.Overwrites e files i) : ∃ paths, s.paths e = .ok paths ∧
    files (paths.rtc i) ≠ .missing ∧
    (untilFailure (loadRegion s true paths (s.managed e paths)) slots
      (start e files)).1.files (paths.rtc i) ≠ files (paths.rtc i) := by
  obtain ⟨paths, data, legacy, battery, record, hpaths, ⟨l, hdone⟩, hmemory, hne, hsource, hwrite,
    hexists, hother⟩ := h
  obtain ⟨-, stem, hl⟩ := paths_layout hpaths
  obtain ⟨hslots, hafter⟩ := slots_split i
  have hstanding := standing_of_performed hl hslots hdone
  have hmemory' := (hstanding.memory i .saveRam List.mem_cons_self).trans hmemory
  have hsource' := (hstanding.source hl List.mem_cons_self).trans hsource
  have hfamily : e.family = .mgba := by
    cases found_of_source hsource with
    | legacy hfamily => exact hfamily
  have hfirst : (loadRegion s true paths (s.managed e paths) (i, .saveRam) l).1.files =
      l.files.puts (performed s (sourceWrites true paths i (.legacy legacy battery (some record)))) :=
    loadRegion_files_of_source (managed_of_mgba hfamily i (by simp)) hmemory' hne (by simp) hsource'
  have hwrites : performed s (sourceWrites true paths i (.legacy legacy battery (some record))) =
      (paths.rtc i, record) :: performed s [(paths.sram i, battery)] := by
    simp [performed, sourceWrites, Source.writes, hwrite]
  have hrecord : (untilFailure (loadRegion s true paths (s.managed e paths)) slots
      (start e files)).1.files (paths.rtc i) = .regular record := by
    have hrest := (untilFailure_append hdone
      ((i, .saveRam) :: (slots.dropWhile (· ≠ (i, .saveRam))).tail)).1
    rw [← hslots] at hrest
    rw [hrest]
    refine untilFailure_establishes (p := fun l : Loading =>
      l.files (paths.rtc i) = .regular record) ?_ ?_
    · rw [hfirst, hwrites]
      change ((l.files.put (paths.rtc i) record).puts (performed s [(paths.sram i, battery)]))
        (paths.rtc i) = _
      refine (Files.puts_of_not_mem _ fun hmem => ?_).trans (Files.put_self _ _ _)
      have heq : paths.rtc i = paths.sram i := by simpa using mem_performed hmem
      have heq' : paths.path i .rtc = paths.path i .saveRam := heq
      exact absurd (hl.path_injective (by simp) (by simp) heq').2 (by simp)
    · rintro ⟨j, kind⟩ hmem l hl'
      refine (loadRegion_file_of_ne fun hram kind' hkind' heq => hafter _ hmem hram ?_).trans hl'
      have heq' : paths.path i .rtc = paths.path j kind' := heq
      exact (hl.path_injective (by simp) (fun hf => absurd hf hkind') heq').1.symm
  exact ⟨paths, hpaths, hexists, fun hsame => hother (hsame.symm.trans hrecord)⟩

/-! ## Owner and reader -/

theorem track_engine (l : Loading) (i : Fin 2) (kind : MemoryKind) (n : Nat) :
    (l.track s i kind n).1.engine = l.engine := by
  unfold track
  dsimp only
  split <;> rfl

/-- Whether a region can be tracked depends on the engine alone. -/
theorem track_congr (hengine : l'.engine = l.engine) (hne : l.data i kind ≠ []) (n n' : Nat) :
    (l'.track s i kind n').2 = none ↔ (l.track s i kind n).2 = none := by
  have hdata : l'.data i kind = l.data i kind := by
    unfold Loading.data
    rw [hengine]
  have hiff (l : Loading) (hne : l.data i kind ≠ []) (n : Nat) :
      (l.track s i kind n).2 = none ↔ s.malloc (.baseline i kind) = true ∧
        ∃ report, l.engine.persistentExtent i kind (l.data i kind).length = .ok report := by
    constructor
    · intro h
      obtain ⟨hmalloc, report, hreport, -⟩ :=
        (track_eq_none hne).mp (Prod.ext_iff.mpr ⟨rfl, h⟩ : l.track s i kind n = (_, none))
      exact ⟨hmalloc, report, hreport⟩
    · rintro ⟨hmalloc, report, hreport⟩
      exact congrArg Prod.snd ((track_eq_none hne).mpr ⟨hmalloc, report, hreport, rfl⟩)
  rw [hiff l' (hdata ▸ hne), hiff l hne, hdata, hengine]

/-- **Two loadings of one region from sources of the same effect** end alike. -/
theorem loadRegion_both (owner owner' : Bool) {src' : Source} {data : List Byte}
    (hengine : l'.engine = l.engine) (hmanaged : managed i kind = true)
    (hmemory : l.engine.memory i kind = some data) (hne : data ≠ [])
    (hfirmware : kind = .firmware → data.length = ndsFirmwareSize)
    (hsource : s.source l.engine paths l.files i data.length kind = some src)
    (hsource' : s.source l'.engine paths l'.files i data.length kind = some src')
    (hwrites : ∀ path, s.writeFileAtomic path = .ok)
    (heffect : src'.engine l.engine i kind data.length = src.engine l.engine i kind data.length) :
    (loadRegion s owner' paths managed (i, kind) l').1.engine =
        (loadRegion s owner paths managed (i, kind) l).1.engine ∧
      (loadRegion s owner paths managed (i, kind) l).1.engine =
        src.engine l.engine i kind data.length ∧
      ((loadRegion s owner' paths managed (i, kind) l').2 = none ↔
        (loadRegion s owner paths managed (i, kind) l).2 = none) := by
  have hload {owner : Bool} {l : Loading} {src : Source}
      (hmemory : l.engine.memory i kind = some data)
      (hsource : s.source l.engine paths l.files i data.length kind = some src) :
      loadRegion s owner paths managed (i, kind) l =
        (l.loaded owner paths i kind data.length src).track s i kind src.loadedSize := by
    have happlied := readKind_applied s owner paths l i data.length kind
    rw [hsource] at happlied
    have hread : l.readKind s owner paths i data.length kind =
        (l.loaded owner paths i kind data.length src, .ok src.loadedSize) :=
      Eq.trans happlied (apply_eq_ok.mpr ⟨fun write _ => hwrites write.1, rfl, rfl⟩)
    unfold loadRegion
    dsimp only
    rw [if_neg (by simp [hmanaged]), hmemory]
    dsimp only
    rw [if_neg fun h => h.2 (hfirmware h.1),
      if_neg fun h => hne (List.length_eq_zero_iff.mp h), hread]
  have heffect' : (l'.loaded owner' paths i kind data.length src').engine =
      (l.loaded owner paths i kind data.length src).engine := by
    change src'.engine l'.engine i kind data.length = src.engine l.engine i kind data.length
    rw [hengine, heffect]
  have hdata : (l.loaded owner paths i kind data.length src).data i kind ≠ [] := by
    intro hnil
    have hlength := length_data_loaded owner hmemory (found_of_source hsource)
    rw [hnil] at hlength
    exact hne (List.length_eq_zero_iff.mp hlength.symm)
  rw [hload hmemory hsource, hload (hengine ▸ hmemory) hsource', track_engine, track_engine]
  exact ⟨heffect', rfl, track_congr heffect' hdata _ _⟩

/-- The loading of a region has the same end in two states whose sources have the same effect, and
where no source is found. -/
theorem loadRegion_twin (owner owner' : Bool) (hengine : l'.engine = l.engine)
    (hwrites : ∀ path, s.writeFileAtomic path = .ok)
    (hsources : ∀ data, managed i kind = true → l.engine.memory i kind = some data → data ≠ [] →
      s.source l.engine paths l.files i data.length kind = none ∧
          s.source l'.engine paths l'.files i data.length kind = none ∨
        ∃ src src', s.source l.engine paths l.files i data.length kind = some src ∧
          s.source l'.engine paths l'.files i data.length kind = some src' ∧
          src'.engine l.engine i kind data.length = src.engine l.engine i kind data.length) :
    (loadRegion s owner' paths managed (i, kind) l').1.engine =
        (loadRegion s owner paths managed (i, kind) l).1.engine ∧
      ((loadRegion s owner' paths managed (i, kind) l').2 = none ↔
        (loadRegion s owner paths managed (i, kind) l).2 = none) := by
  by_cases hmanaged : managed i kind = false
  · unfold loadRegion
    dsimp only
    rw [if_pos hmanaged, if_pos hmanaged]
    exact ⟨hengine, Iff.rfl⟩
  have hyes : managed i kind = true := by simpa using hmanaged
  cases hmemory : l.engine.memory i kind with
  | none =>
    unfold loadRegion
    dsimp only
    rw [if_neg hmanaged, if_neg hmanaged, hengine, hmemory]
    exact ⟨hengine, Iff.rfl⟩
  | some data =>
    by_cases hfirmware : kind = .firmware ∧ data.length ≠ ndsFirmwareSize
    · unfold loadRegion
      dsimp only
      rw [if_neg hmanaged, if_neg hmanaged, hengine, hmemory]
      dsimp only
      rw [if_pos hfirmware, if_pos hfirmware]
      exact ⟨hengine, Iff.rfl⟩
    by_cases hempty : data.length = 0
    · unfold loadRegion
      dsimp only
      rw [if_neg hmanaged, if_neg hmanaged, hengine, hmemory]
      dsimp only
      rw [if_neg hfirmware, if_neg hfirmware, if_pos hempty, if_pos hempty]
      exact ⟨hengine, Iff.rfl⟩
    have hne : data ≠ [] := fun h => hempty (List.length_eq_zero_iff.mpr h)
    rcases hsources data hyes hmemory hne with ⟨hnone, hnone'⟩ | ⟨src, src', hsome, hsome', heffect⟩
    · have happlied := readKind_applied s owner paths l i data.length kind
      have happlied' := readKind_applied s owner' paths l' i data.length kind
      rw [hnone] at happlied
      rw [hnone'] at happlied'
      obtain ⟨error, herror⟩ := happlied
      obtain ⟨error', herror'⟩ := happlied'
      unfold loadRegion
      dsimp only
      rw [if_neg hmanaged, if_neg hmanaged, hengine, hmemory]
      dsimp only
      rw [if_neg hfirmware, if_neg hfirmware, if_neg hempty, if_neg hempty, herror, herror']
      exact ⟨hengine, by simp⟩
    · obtain ⟨hsame, -, hiff⟩ := loadRegion_both owner owner' hengine hyes
        hmemory hne (fun hkind => by simpa [hkind] using hfirmware) hsome hsome' hwrites heffect
      exact ⟨hsame, hiff⟩

/-- Where an owner and a reader stand: one engine, and an RTC still to be loaded either has the file
it had, or the record that was imported where none was. -/
structure Twin (s : Setup) (paths : SavePaths) (e : Engine) (files : Files Path)
    (rest : List (Fin 2 × MemoryKind)) (l l' : Loading) : Prop where
  reached : ∃ before, slots = before ++ rest ∧
    Performed (loadRegion s true paths (s.managed e paths)) before (start e files) l
  engine : l'.engine = l.engine
  reader : l'.files = files
  rtc : ∀ i, (i, .rtc) ∈ rest → l.files (paths.rtc i) = files (paths.rtc i) ∨
    files (paths.rtc i) = .missing ∧
      ∃ record, l.files (paths.rtc i) = .regular record ∧ l.engine.memory i .rtc = some record

theorem Twin.start (s : Setup) (paths : SavePaths) (e : Engine) (files : Files Path) :
    Twin s paths e files slots (start e files) (start e files) where
  reached := ⟨[], rfl, .nil _⟩
  engine := rfl
  reader := rfl
  rtc := fun _ _ => Or.inl rfl

/-- A memory of its own size set to what it has. -/
theorem setMemory_self (h : e.memory i kind = some bytes) : e.setMemory i kind bytes = e := by
  unfold Engine.setMemory
  congr 1
  funext j kind'
  split
  · rename_i heq
    rw [heq.1, heq.2, h]
  · rfl

/-- A canonical file can be read: its path is neither empty nor too long. -/
theorem readFileFilled_canonical (hl : paths.Layout firmware directory stem)
    (hkind : kind ≠ .firmware) (hfile : files (paths.path i kind) = .regular bytes)
    (hfits : bytes.length ≤ capacity) :
    readFileFilled files (paths.path i kind) capacity = .ok bytes := by
  have hlength := hl.length i kind fun hf => absurd hf hkind
  have hpath := hl.path i kind fun hf => absurd hf hkind
  unfold readFileFilled
  rw [if_neg, if_neg (by omega), hfile]
  · dsimp only
    rw [if_neg (by omega)]
  · intro hnil
    rw [hnil] at hpath
    have hsuffix := congrArg List.length hpath
    cases kind <;> simp [regionSuffix] at hsuffix
    · split at hsuffix <;> simp at hsuffix
    · split at hsuffix <;> simp at hsuffix
    · exact absurd rfl hkind

/-- Owner and reader find sources of the same effect. -/
theorem Twin.sources (hl : paths.Layout firmware directory stem)
    (hnamed : s.managed e paths i kind = true → kind = .firmware → firmware = true)
    (h : Twin s paths e files ((i, kind) :: rest) l l') {data : List Byte}
    (hmanaged : s.managed e paths i kind = true) (hmemory : l.engine.memory i kind = some data) :
    s.source l.engine paths l.files i data.length kind = none ∧
        s.source l'.engine paths l'.files i data.length kind = none ∨
      ∃ src src', s.source l.engine paths l.files i data.length kind = some src ∧
        s.source l'.engine paths l'.files i data.length kind = some src' ∧
        src'.engine l.engine i kind data.length = src.engine l.engine i kind data.length := by
  obtain ⟨before, hslots, hdone⟩ := h.reached
  have hstanding := standing_of_performed hl hslots hdone
  have hsame (hequal : s.source l'.engine paths l'.files i data.length kind =
      s.source l.engine paths l.files i data.length kind) :
      s.source l.engine paths l.files i data.length kind = none ∧
          s.source l'.engine paths l'.files i data.length kind = none ∨
        ∃ src src', s.source l.engine paths l.files i data.length kind = some src ∧
          s.source l'.engine paths l'.files i data.length kind = some src' ∧
          src'.engine l.engine i kind data.length = src.engine l.engine i kind data.length := by
    rw [hequal]
    cases s.source l.engine paths l.files i data.length kind with
    | none => exact Or.inl ⟨rfl, rfl⟩
    | some src => exact Or.inr ⟨src, src, rfl, rfl, rfl⟩
  cases kind with
  | saveRam =>
    refine hsame (Eq.trans ?_ (hstanding.source hl List.mem_cons_self).symm)
    rw [h.engine, h.reader]
    exact sramSource_congr (by rw [hstanding.engine]) (by rw [hstanding.engine])
      (by rw [hstanding.memory i .rtc List.mem_cons_self]) rfl fun _ _ => rfl
  | firmware =>
    refine hsame (firmwareSource_congr ?_)
    rw [h.reader]
    refine (hstanding.others _ fun j kind' hkind' heq => ?_).symm
    have heq' : paths.path i .firmware = paths.path j kind' := heq
    exact hkind' (hl.path_injective (hnamed hmanaged) (fun hf => absurd hf hkind') heq').2.symm
  | rtc =>
    rcases h.rtc i List.mem_cons_self with hfile | ⟨hmissing, record, hrecord, hlive⟩
    · exact hsame (regionSource_congr (by rw [h.reader, hfile]) true)
    · obtain rfl := Option.some.inj (hmemory.symm.trans hlive)
      by_cases hmalloc : s.malloc (.temporary i .rtc) = false
      · refine hsame ?_
        change s.regionSource _ i .rtc _ _ true = s.regionSource _ i .rtc _ _ true
        unfold Setup.regionSource
        rw [if_pos hmalloc, if_pos hmalloc]
      · refine Or.inr ⟨.file data, .nothing, ?_, ?_, ?_⟩
        · change s.regionSource l.files i .rtc (paths.path i .rtc) data.length true = _
          unfold Setup.regionSource
          rw [if_neg hmalloc, readFileFilled_canonical hl (by simp) hrecord (Nat.le_refl _)]
        · change s.regionSource l'.files i .rtc (paths.path i .rtc) data.length true = _
          have hread : readFileFilled l'.files (paths.path i .rtc) data.length = .error .notFound := by
            have hregular : readFileFilled l.files (paths.path i .rtc) data.length = .ok data :=
              readFileFilled_canonical hl (by simp) hrecord (Nat.le_refl _)
            unfold readFileFilled at hregular ⊢
            split at hregular
            · exact absurd hregular (by simp)
            rename_i hnonempty
            split at hregular
            · exact absurd hregular (by simp)
            rename_i hshort
            rw [if_neg hnonempty, if_neg hshort, h.reader, show files (paths.path i .rtc) = _ from
              hmissing]
          unfold Setup.regionSource
          rw [if_neg hmalloc, hread]
          simp
        · change l.engine = l.engine.setMemory i .rtc (pad data.length MemoryKind.rtc.fill data)
          rw [pad_length, setMemory_self hmemory]

/-- What a region's loading does to the RTCs still to be loaded. -/
theorem Twin.rtc_step (hl : paths.Layout firmware directory stem) (hpaths : s.paths e = .ok paths)
    (hno : ¬s.Overwrites e files i) (hwrites : ∀ path, s.writeFileAtomic path = .ok)
    (h : Twin s paths e files ((i, kind) :: rest) l l') {l₁ : Loading}
    (hloads : Loads s true paths (s.managed e paths) i kind l l₁) (hj : (j, .rtc) ∈ rest) :
    l₁.files (paths.rtc j) = files (paths.rtc j) ∨ files (paths.rtc j) = .missing ∧
      ∃ record, l₁.files (paths.rtc j) = .regular record ∧ l₁.engine.memory j .rtc = some record := by
  obtain ⟨before, hslots, hdone⟩ := h.reached
  have hstanding := standing_of_performed hl hslots hdone
  have hbefore := h.rtc j (List.mem_cons_of_mem _ hj)
  cases hloads with
  | skip _ => exact hbefore
  | @load data src report _ hmemory hne _ hsource _ _ _ =>
    have hfound := found_of_source hsource
    by_cases hself : j = i
    · subst hself
      have hkind : kind = .saveRam := by
        by_contra hkind
        exact slots_rtc_behind hstanding.ahead hkind hj
      subst hkind
      have hfile : l.files (paths.rtc j) = files (paths.rtc j) :=
        hstanding.canonical j .rtc List.mem_cons_self (by simp)
      cases hsrc : hfound with
      | nothing _ => exact Or.inl hfile
      | file _ _ => exact Or.inl hfile
      | @legacy legacy bytes battery rtc _ _ _ _ _ _ =>
        cases rtc with
        | none =>
          have hsame : (l.loaded true paths j .saveRam data.length
              (.legacy legacy battery none)).files (paths.rtc j) = l.files (paths.rtc j) :=
            files_loaded_of_ne fun hmem => ?_
          · exact Or.inl (hsame.trans hfile)
          have heq : paths.rtc j = paths.sram j := by simpa [Source.writes] using hmem
          have heq' : paths.path j .rtc = paths.path j .saveRam := heq
          exact absurd (hl.path_injective (by simp) (by simp) heq').2 (by simp)
        | some record =>
          have hrecord := (files_loaded_legacy (l := l) (i := j) hl .saveRam data.length legacy battery
            (some record)).2 record rfl
          rcases record_eq hl hpaths hno hslots hdone hmemory hne hsource (hwrites _) with
            hmissing | hsame
          · refine Or.inr ⟨hmissing, record, hrecord, ?_⟩
            exact (engine_setMemory_of_ne (by simp) _).trans (engine_setMemory_same _ _ _ _)
          · exact Or.inl (hrecord.trans hsame.symm)
    · have hfile : (l.loaded true paths i kind data.length src).files (paths.rtc j) =
          l.files (paths.rtc j) := by
        refine files_loaded_of_ne fun hmem => ?_
        obtain ⟨-, kind', hkind', hpath⟩ := writes_canonical hfound hmem
        have hpath' : paths.path j .rtc = paths.path i kind' := hpath
        exact hself (hl.path_injective (by simp) (fun hf => absurd hf hkind') hpath').1
      have hmemory' : (src.engine l.engine i kind data.length).memory j .rtc =
          l.engine.memory j .rtc := memory_engine_of_ne hself l.engine .rtc src
      change (l.loaded true paths i kind data.length src).files (paths.rtc j) = _ ∨ _ ∧
        ∃ record, (l.loaded true paths i kind data.length src).files (paths.rtc j) = _ ∧
          (src.engine l.engine i kind data.length).memory j .rtc = _
      rw [hfile, hmemory']
      exact hbefore

/-- **Owner and reader end with one engine**, if every write succeeds and none overwrites. -/
theorem twin_load (hl : paths.Layout firmware directory stem) (hpaths : s.paths e = .ok paths)
    (hnamed : ∀ i kind, s.managed e paths i kind = true → kind = .firmware → firmware = true)
    (hno : ∀ i, ¬s.Overwrites e files i) (hwrites : ∀ path, s.writeFileAtomic path = .ok) :
    (untilFailure (loadRegion s false paths (s.managed e paths)) slots (start e files)).1.engine =
      (untilFailure (loadRegion s true paths (s.managed e paths)) slots (start e files)).1.engine := by
  refine untilFailure_both (Twin s paths e files) (fun l l' : Loading => l'.engine = l.engine)
    (fun _ _ h => h.engine) ?_
    (Twin.start s paths e files)
  rintro ⟨i, kind⟩ rest l l' h
  obtain ⟨hengine, hiff⟩ := loadRegion_twin true false h.engine hwrites
    fun data hmanaged hmemory _ => h.sources hl (hnamed i kind) hmanaged hmemory
  cases hresult : loadRegion s true paths (s.managed e paths) (i, kind) l with
  | mk l₁ outcome =>
    cases hresult' : loadRegion s false paths (s.managed e paths) (i, kind) l' with
    | mk l₁' outcome' =>
      rw [hresult, hresult'] at hengine hiff
      have hreader : l₁'.files = files := by
        have hfiles : (loadRegion s false paths (s.managed e paths) (i, kind) l').1.files =
            l'.files := loadRegion_reader
        rw [hresult'] at hfiles
        exact hfiles.trans h.reader
      cases outcome with
      | some error =>
        cases outcome' with
        | some error' => exact Or.inr ⟨l₁, l₁', error, error', rfl, rfl, hengine⟩
        | none => exact absurd (hiff.mp rfl) (by simp)
      | none =>
        obtain rfl : outcome' = none := hiff.mpr rfl
        obtain ⟨before, hslots, hdone⟩ := h.reached
        refine Or.inl ⟨l₁, l₁', rfl, rfl, ?_⟩
        exact
          { reached := ⟨before ++ [(i, kind)], by simpa using hslots,
              hdone.append (.cons hresult (.nil l₁))⟩
            engine := hengine
            reader := hreader
            rtc := fun j hj => h.rtc_step hl hpaths (hno i) hwrites
              (loadRegion_eq_none.mp hresult) hj }

end Loading

/-! ## An existing canonical file -/

/-- An existing canonical file wins: an initialization changes neither it nor a legacy file, and with
every write successful it leaves an owner and a reader the same SaveRAM and RTC. -/
structure CanonicalWins (s : Setup) (e : Engine) (files : Files Path) : Prop where
  canonical : ∀ locks paths i kind, s.paths e = .ok paths → kind ≠ .firmware →
    files (paths.path i kind) ≠ .missing →
    (init (s.under locks) e files).files (paths.path i kind) = files (paths.path i kind)
  legacy : ∀ locks paths i legacy, s.paths e = .ok paths →
    legacySavPath (paths.sram i) pathCapacity = .ok legacy →
    (init (s.under locks) e files).files legacy = files legacy
  memory : (∀ path, s.writeFileAtomic path = .ok) → ∀ i kind, kind ≠ .firmware →
    (init (s.under .busy) e files).engine.memory i kind =
      (init (s.under .acquired) e files).engine.memory i kind

section init

variable {s : Setup} {e : Engine} {files : Files Path} {paths : SavePaths}

/-- An initialization is its loop, once the locks are taken or found busy. -/
theorem init_of_owner {owner : Bool} (hpaths : s.paths e = .ok paths)
    (howner : s.writeOwner (s.managed e paths) = .ok owner) :
    let l := (untilFailure (Loading.loadRegion s owner paths (s.managed e paths)) Loading.slots
      (Loading.start e files)).1
    (init s e files).files = l.files ∧ (init s e files).engine = l.engine := by
  unfold init
  rw [hpaths]
  dsimp only
  rw [howner]
  exact ⟨rfl, rfl⟩

/-- What the loop keeps for owners and for readers, an initialization keeps. -/
theorem init_keeps {p : Files Path → Prop} (hpaths : s.paths e = .ok paths)
    (hload : ∀ owner, p (untilFailure (Loading.loadRegion s owner paths (s.managed e paths))
      Loading.slots (Loading.start e files)).1.files)
    (hfiles : p files) : p (init s e files).files := by
  cases howner : s.writeOwner (s.managed e paths) with
  | error error =>
    unfold init
    rw [hpaths]
    dsimp only
    rw [howner]
    exact hfiles
  | ok owner =>
    rw [(init_of_owner hpaths howner).1]
    exact hload owner

theorem writeOwner_acquired (s : Setup) (managed : Fin 2 → MemoryKind → Bool) :
    (s.under .acquired).writeOwner managed = .ok true := by
  unfold Setup.writeOwner
  split <;> rfl

/-- With the locks busy a session is a reader, unless it has nothing to lock. -/
theorem writeOwner_busy (s : Setup) (managed : Fin 2 → MemoryKind → Bool) :
    ∃ owner, (s.under .busy).writeOwner managed = .ok owner := by
  unfold Setup.writeOwner
  split <;> exact ⟨_, rfl⟩

/-- **An existing canonical file wins**, exactly when no import overwrites an `.rtc`. -/
theorem canonicalWins_iff (s : Setup) (e : Engine) (files : Files Path) :
    CanonicalWins s e files ↔ ∀ i, ¬s.Overwrites e files i := by
  constructor
  · intro h i hover
    obtain ⟨paths, hpaths, hexists, hother⟩ := Loading.load_overwritten hover
    have hkept := h.canonical .acquired paths i .rtc hpaths (by simp) hexists
    rw [(init_of_owner (s := s.under .acquired) hpaths (writeOwner_acquired s _)).1] at hkept
    exact hother hkept
  · intro hno
    refine ⟨?_, ?_, ?_⟩
    · intro locks paths i kind hpaths hkind hexists
      obtain ⟨-, stem, hl⟩ := paths_layout hpaths
      refine init_keeps (s := s.under locks) (p := fun left =>
        left (paths.path i kind) = files (paths.path i kind)) hpaths (fun owner => ?_) rfl
      cases owner with
      | true => exact Loading.load_kept hl hpaths hno hkind hexists
      | false =>
        refine untilFailure_keeps (p := fun l : Loading =>
          l.files (paths.path i kind) = files (paths.path i kind)) ?_ rfl
        intro slot _ l h
        exact (congrFun Loading.loadRegion_reader _).trans h
    · intro locks paths i legacy hpaths hlegacy
      obtain ⟨-, stem, hl⟩ := paths_layout hpaths
      refine init_keeps (s := s.under locks) (p := fun left => left legacy = files legacy) hpaths
        (fun owner => ?_) rfl
      refine untilFailure_keeps (p := fun l : Loading => l.files legacy = files legacy) ?_ rfl
      intro slot _ l h
      exact (Loading.loadRegion_file_of_ne fun _ kind' hkind' =>
        Loading.legacy_apart hl hlegacy slot.1 hkind').trans h
    · intro hwrites i kind _
      cases hpaths : s.paths e with
      | error error =>
        have hsame (locks : Ownership) : (init (s.under locks) e files).engine = e := by
          unfold init
          rw [show (s.under locks).paths e = _ from hpaths]
        rw [hsame, hsame]
      | ok paths =>
        obtain ⟨-, stem, hl⟩ := paths_layout hpaths
        obtain ⟨owner, howner⟩ := writeOwner_busy s (s.managed e paths)
        rw [(init_of_owner (s := s.under .busy) hpaths howner).2,
          (init_of_owner (s := s.under .acquired) hpaths (writeOwner_acquired s _)).2]
        cases owner with
        | true => rfl
        | false =>
          exact congrArg (fun engine : Engine => engine.memory i kind)
            (Loading.twin_load hl hpaths (fun _ _ => managed_firmware) hno hwrites)

end init

/-- A GBA cartridge with four bytes of SaveRAM, one of them reported, and an RTC. -/
def clockEngine : Engine where
  family := .mgba
  loaded := true
  memory := fun i kind => some <|
    if i = 0 then
      match kind with
      | .saveRam => [0xff, 0xff, 0xff, 0xff]
      | .rtc => List.replicate 16 0
      | .firmware => []
    else []
  persistentMemoryExtent := some fun i _ => some (some (if i = 0 then 1 else 0))
  memoryDirty := none
  clearMemoryDirty := false

/-- One byte of battery with an RTC record in a legacy file, no `.srm`, and an `.rtc` of one byte. -/
def clockFiles : Files Path := fun p =>
  if p = "/s/a.sav".toList then .regular (7 :: List.replicate 16 2)
  else if p = "/s/a.rtc".toList then .regular [1]
  else .missing

/-- **The import of a `.sav` replaces an `.rtc` that was there.** -/
theorem rtc_is_overwritten : ¬CanonicalWins sampleSetup clockEngine clockFiles := by
  intro h
  obtain ⟨paths, hpaths, hrtc⟩ : ∃ paths, sampleSetup.paths clockEngine = .ok paths ∧
      paths.rtc 0 = "/s/a.rtc".toList := by
    cases hpaths : sampleSetup.paths clockEngine with
    | error error =>
      have hsome : (sampleSetup.paths clockEngine).toOption.isSome = true := by decide +kernel
      rw [hpaths] at hsome
      exact absurd hsome (by simp [Except.toOption])
    | ok paths =>
      have hpath : (sampleSetup.paths clockEngine).toOption.map (fun paths => paths.rtc 0) =
        some "/s/a.rtc".toList := by decide +kernel
      rw [hpaths] at hpath
      exact ⟨paths, rfl, Option.some.inj hpath⟩
  have hkept := h.canonical .acquired paths 0 .rtc hpaths (by decide)
  change clockFiles (paths.rtc 0) ≠ .missing → (init _ clockEngine clockFiles).files (paths.rtc 0) =
    clockFiles (paths.rtc 0) at hkept
  rw [hrtc] at hkept
  have hkept' := hkept (by decide)
  have hwritten : (init (sampleSetup.under .acquired) clockEngine clockFiles).files
      "/s/a.rtc".toList = .regular (List.replicate 16 2) := by decide +kernel
  rw [hwritten] at hkept'
  exact absurd hkept' (by decide)

end DualBoy.Saves
