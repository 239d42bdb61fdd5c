import DualBoy.Saves.Flush
import DualBoy.Saves.Source

/-!
# What an initialization leaves in a region

**`loaded_of_init`**: after an initialization of a session that owns its files, each core-managed
region holds the bytes of its canonical file, padded, or without a file the bytes the engine had; and
its tracking speaks of them. This includes the regions a legacy file was imported into, since their
canonical files were written first.
-/

namespace DualBoy.Saves

open DualBoy.Lib

/-- The extent the engine reports; `none` also when the report fails. -/
def Engine.report (e : Engine) (i : Fin 2) (kind : MemoryKind) : Option Nat :=
  match e.persistentExtent i kind ((e.memory i kind).getD []).length with
  | .ok report => report
  | .error _ => none

/-- A region just loaded, from its canonical file or without one. -/
inductive Region.Loaded (fill : Byte) (fresh : List Byte) (r : Region) : Prop
  | fresh (hfile : r.file = .missing) (hdata : r.data = fresh)
      (htracking : r.tracking = Loading.loadedTracking r.data 0 r.report)
  | file {bytes : List Byte} (hfile : r.file = .regular bytes) (hfits : bytes.length ≤ r.data.length)
      (hdata : r.data = pad r.data.length fill bytes)
      (htracking : r.tracking = Loading.loadedTracking r.data bytes.length r.report)

namespace Loading

/-- A region of the state, with the extent reported for it. -/
def region (paths : SavePaths) (l : Loading) (i : Fin 2) (kind : MemoryKind) : Region where
  data := l.data i kind
  report := l.engine.report i kind
  file := l.files (paths.path i kind)
  tracking := l.tracked i kind

/-- The state before the loop over the regions. -/
def start (e : Engine) (files : Files Path) : Loading where
  engine := e
  files := files
  tracked := fun _ _ => Tracking.zero
  writes := []

/-- No region is loaded twice, and SaveRAM is loaded before the RTC of its machine. -/
theorem slots_ahead {slot : Fin 2 × MemoryKind} {rest : List (Fin 2 × MemoryKind)}
    (h : slot :: rest ∈ slots.tails) :
    rest ∈ slots.tails ∧ slot ∉ rest ∧ (slot.2 = .saveRam → (slot.1, .rtc) ∈ rest) := by
  simp only [slots, List.tails, List.mem_cons, List.cons.injEq, List.not_mem_nil, or_false,
    reduceCtorEq] at h
  rcases h with ⟨rfl, rfl⟩ | ⟨rfl, rfl⟩ | ⟨rfl, rfl⟩ | ⟨rfl, rfl⟩ | ⟨rfl, rfl⟩ | ⟨rfl, rfl⟩
  all_goals exact ⟨by decide, by decide, by decide⟩

theorem slot_mem_slots : ∀ (i : Fin 2) (kind : MemoryKind), (i, kind) ∈ slots
  | i, .saveRam => by revert i; decide
  | i, .rtc => by revert i; decide
  | i, .firmware => by revert i; decide

/-- Where the loop stands with `rest` ahead, in a session that owns its files: the regions behind are
loaded, and a region ahead is as the engine had it unless its file has just been imported. -/
structure Underway (paths : SavePaths) (managed : Fin 2 → MemoryKind → Bool) (e : Engine)
    (rest : List (Fin 2 × MemoryKind)) (l : Loading) : Prop where
  ahead : rest ∈ slots.tails
  family : l.engine.family = e.family
  loaded : l.engine.loaded = e.loaded
  extents : l.engine.persistentMemoryExtent = e.persistentMemoryExtent
  memoryDirty : l.engine.memoryDirty = e.memoryDirty
  clearMemoryDirty : l.engine.clearMemoryDirty = e.clearMemoryDirty
  length : ∀ i kind, (l.data i kind).length = ((e.memory i kind).getD []).length
  waiting : ∀ i kind, managed i kind = true → (i, kind) ∈ rest →
    l.data i kind = (e.memory i kind).getD [] ∨
      ∃ record, l.files (paths.path i kind) = .regular record
  done : ∀ i kind, managed i kind = true → l.data i kind ≠ [] → (i, kind) ∉ rest →
    (l.region paths i kind).Loaded kind.fill ((e.memory i kind).getD []) ∧
      ∃ report, l.engine.persistentExtent i kind (l.data i kind).length = .ok report

section Underway

variable {s : Setup} {owner firmware : Bool} {paths : SavePaths} {directory : Path}
  {stem : Fin 2 → Path} {managed : Fin 2 → MemoryKind → Bool} {e : Engine}
  {rest : List (Fin 2 × MemoryKind)} {l l' : Loading} {i j : Fin 2} {kind kind' : MemoryKind}
  {src : Source} {capacity : Nat}

theorem Underway.start (paths : SavePaths) (managed : Fin 2 → MemoryKind → Bool) (e : Engine)
    (files : Files Path) : Underway paths managed e slots (start e files) where
  ahead := by simp [slots, List.tails]
  family := rfl
  loaded := rfl
  extents := rfl
  memoryDirty := rfl
  clearMemoryDirty := rfl
  length := fun _ _ => rfl
  waiting := fun _ _ _ _ => Or.inl rfl
  done := fun i kind _ _ hnot => absurd (slot_mem_slots i kind) hnot

/-- The memory a source leaves alone: all but its region, and the RTC of an import. -/
theorem data_loaded_of_ne (hne : ¬(j = i ∧ kind' = kind))
    (hfound : Found l.engine paths l.files i capacity kind src)
    (hrtc : ∀ path battery record, src = .legacy path battery (some record) →
      ¬(j = i ∧ kind' = .rtc)) :
    (l.loaded owner paths i kind capacity src).data j kind' = l.data j kind' := by
  unfold Loading.data Loading.loaded
  dsimp only
  cases hfound with
  | nothing _ => rfl
  | file _ _ => exact congrArg (Option.getD · []) (engine_setMemory_of_ne hne _)
  | @legacy path bytes battery rtc _ _ _ _ _ _ =>
    refine congrArg (Option.getD · []) ((engine_setMemory_of_ne hne _).trans ?_)
    cases rtc with
    | none => rfl
    | some record => exact engine_setMemory_of_ne (hrtc _ _ _ rfl) _

/-- The files a source leaves alone. -/
theorem files_loaded_of_ne {path : Path}
    (hne : path ∉ (src.writes paths i).map Prod.fst) :
    (l.loaded owner paths i kind capacity src).files path = l.files path := by
  unfold loaded sourceWrites
  cases owner with
  | false => rfl
  | true => exact Files.puts_of_not_mem _ hne

/-- The writes of a source go to the region's own path, and for an import to the RTC's. -/
theorem mem_writes (hfound : Found l.engine paths l.files i capacity kind src) {path : Path}
    (hmem : path ∈ (src.writes paths i).map Prod.fst) :
    path = paths.path i kind ∨
      ∃ legacy battery record, src = .legacy legacy battery (some record) ∧ path = paths.rtc i := by
  cases hfound with
  | nothing _ => exact absurd hmem (by simp [Source.writes])
  | file _ _ => exact absurd hmem (by simp [Source.writes])
  | @legacy legacy bytes battery rtc _ _ _ _ _ _ =>
    cases rtc with
    | none =>
      rw [Source.writes, List.map_cons, List.map_nil, List.mem_singleton] at hmem
      exact Or.inl hmem
    | some record =>
      simp only [Source.writes, List.map_cons, List.map_nil, List.mem_cons, List.not_mem_nil,
        or_false] at hmem
      rcases hmem with hmem | hmem
      · exact Or.inr ⟨_, _, _, rfl, hmem⟩
      · exact Or.inl hmem

/-- Files of regions that are neither the source's nor the RTC of its import stay. -/
theorem file_loaded_of_ne (hl : paths.Layout firmware directory stem)
    (hkind : kind = .firmware → firmware = true) (hkind' : kind' = .firmware → firmware = true)
    (hne : ¬(j = i ∧ kind' = kind)) (hfound : Found l.engine paths l.files i capacity kind src)
    (hrtc : ∀ path battery record, src = .legacy path battery (some record) →
      ¬(j = i ∧ kind' = .rtc)) :
    (l.loaded owner paths i kind capacity src).files (paths.path j kind') =
      l.files (paths.path j kind') := by
  refine files_loaded_of_ne fun hmem => ?_
  rcases mem_writes hfound hmem with hpath | ⟨legacy, battery, record, hsrc, hpath⟩
  · exact hne (hl.path_injective hkind' hkind hpath)
  · have hpath' : paths.path j kind' = paths.path i .rtc := hpath
    exact hrtc _ _ _ hsrc (hl.path_injective hkind' (by simp) hpath')

/-- The canonical files of an owner once a legacy file is imported. -/
theorem files_loaded_legacy (hl : paths.Layout firmware directory stem) (kind : MemoryKind)
    (capacity : Nat) (legacy : Path) (battery : List Byte) (rtc : Option (List Byte)) :
    let l' := l.loaded true paths i kind capacity (.legacy legacy battery rtc)
    l'.files (paths.sram i) = .regular battery ∧
      ∀ record, rtc = some record → l'.files (paths.rtc i) = .regular record := by
  have hne : paths.rtc i ≠ paths.sram i := by
    intro hpath
    have hpath' : paths.path i .rtc = paths.path i .saveRam := hpath
    exact absurd (hl.path_injective (by simp) (by simp) hpath').2 (by simp)
  cases rtc with
  | none => exact ⟨Files.put_self _ _ _, by simp⟩
  | some record =>
    refine ⟨Files.put_self _ _ _, ?_⟩
    rintro _ hrecord
    obtain rfl := Option.some.inj hrecord
    exact (Files.put_of_ne hne _ _).trans (Files.put_self _ _ _)

theorem report_congr {e e' : Engine} (hextents : e'.persistentMemoryExtent = e.persistentMemoryExtent)
    (hdata : (e'.memory i kind).getD [] = (e.memory i kind).getD []) :
    e'.report i kind = e.report i kind := by
  unfold Engine.report
  rw [hdata, Engine.persistentExtent_congr hextents]

/-- The loaded region itself. -/
theorem loaded_region (hl : paths.Layout firmware directory stem) {data : List Byte}
    {report : Option Nat} (hmemory : l.engine.memory i kind = some data)
    (hfresh : l.files (paths.path i kind) = .missing → data = (e.memory i kind).getD [])
    (hfound : Found l.engine paths l.files i data.length kind src)
    (hreport : l.engine.persistentExtent i kind data.length = .ok report) :
    let l₁ := l.loaded true paths i kind data.length src
    let l' := l₁.setTracked i kind (loadedTracking (l₁.data i kind) src.loadedSize report)
    (l'.region paths i kind).Loaded kind.fill ((e.memory i kind).getD []) ∧
      l'.engine.persistentExtent i kind (l'.data i kind).length = .ok report := by
  intro l₁ l'
  have hlength : (l'.data i kind).length = data.length := length_data_loaded true hmemory hfound
  have hextent : l'.engine.persistentExtent i kind (l'.data i kind).length = .ok report := by
    have hextents : l'.engine.persistentMemoryExtent = l.engine.persistentMemoryExtent :=
      persistentMemoryExtent_engine l.engine i kind data.length src
    rw [hlength, Engine.persistentExtent_congr hextents]
    exact hreport
  have hreport' : l'.engine.report i kind = report := by
    unfold Engine.report
    rw [show (l'.engine.memory i kind).getD [] = l'.data i kind from rfl, hextent]
  have htracked : l'.tracked i kind =
      loadedTracking (l'.data i kind) src.loadedSize (l'.engine.report i kind) := by
    rw [hreport']
    exact if_pos ⟨rfl, rfl⟩
  refine ⟨?_, hextent⟩
  cases hfound with
  | nothing hfile =>
    have hdata : l'.data i kind = data := by
      change (l.engine.memory i kind).getD [] = data
      rw [hmemory]
      rfl
    exact .fresh hfile (hdata.trans (hfresh hfile)) htracked
  | file hfile hfits =>
    have hdata : l₁.data i kind = _ := data_loaded_file true paths _
    refine .file hfile ?_ ?_ htracked
    · exact hlength ▸ hfits
    · change l'.data i kind = pad (l'.data i kind).length kind.fill _
      rw [hlength]
      exact hdata
  | @legacy legacy bytes battery rtc _ _ _ _ hfits _ =>
    have hdata : l₁.data i .saveRam = _ := data_loaded_legacy true paths legacy battery rtc
    refine .file (files_loaded_legacy hl .saveRam data.length legacy battery rtc).1 ?_ ?_ htracked
    · exact hlength ▸ hfits
    · change l'.data i .saveRam = pad (l'.data i .saveRam).length 0xff _
      rw [hlength]
      exact hdata

theorem engine_eq (e : Engine) (i : Fin 2) (kind : MemoryKind) (capacity : Nat) (src : Source) :
    src.engine e i kind capacity = { e with memory := (src.engine e i kind capacity).memory } := by
  cases src with
  | nothing => rfl
  | file bytes => rfl
  | legacy path battery rtc => cases rtc <;> rfl

/-- The RTC bytes an import leaves. -/
theorem data_loaded_rtc (path : Path) (battery record : List Byte) :
    (l.loaded owner paths i kind capacity (.legacy path battery (some record))).data i .rtc =
      record := by
  have hne : ¬((i : Fin 2) = i ∧ MemoryKind.rtc = .saveRam) := by simp
  unfold Loading.data
  change (((l.engine.setMemory i .rtc record).setMemory i .saveRam _).memory i .rtc).getD [] = record
  rw [engine_setMemory_of_ne hne, engine_setMemory_same]
  rfl

/-- Loading a region keeps the size of every region. -/
theorem length_loaded (owner : Bool) {data : List Byte} (hmemory : l.engine.memory i kind = some data)
    (hfound : Found l.engine paths l.files i data.length kind src) (j : Fin 2)
    (kind' : MemoryKind) :
    ((l.loaded owner paths i kind data.length src).data j kind').length =
      (l.data j kind').length := by
  have hdata : l.data i kind = data := by
    unfold Loading.data
    rw [hmemory]
    rfl
  by_cases hself : j = i ∧ kind' = kind
  · obtain ⟨rfl, rfl⟩ := hself
    rw [length_data_loaded owner hmemory hfound, hdata]
  · by_cases hrtc : ∃ path battery record, src = .legacy path battery (some record) ∧
        j = i ∧ kind' = .rtc
    · obtain ⟨path, battery, record, rfl, rfl, rfl⟩ := hrtc
      cases hfound with
      | legacy _ _ _ _ _ hrecord =>
        rw [data_loaded_rtc]
        exact hrecord record rfl
    · rw [data_loaded_of_ne hself hfound]
      intro path battery record hsrc heq
      exact hrtc ⟨path, battery, record, hsrc, heq⟩

/-- **Loading one region.** -/
theorem Underway.step (hl : paths.Layout firmware directory stem)
    (hnamed : ∀ i kind, managed i kind = true → kind = .firmware → firmware = true)
    (h : Underway paths managed e ((i, kind) :: rest) l)
    (hloads : Loads s true paths managed i kind l l') : Underway paths managed e rest l' := by
  obtain ⟨hahead, hnotin, hrtcahead⟩ := slots_ahead h.ahead
  cases hloads with
  | skip hskip =>
    have hdata (hmanaged : managed i kind = true) : l.data i kind = [] := by
      rcases hskip with hno | ⟨-, hempty⟩
      · exact absurd (hno.symm.trans hmanaged) (by simp)
      · unfold Loading.data
        rw [hempty]
        rfl
    exact
      { h with
        ahead := hahead
        waiting := fun j kind' hj hin => h.waiting j kind' hj (List.mem_cons_of_mem _ hin)
        done := by
          intro j kind' hj hne hnot
          refine h.done j kind' hj hne ?_
          rw [List.mem_cons, not_or]
          refine ⟨fun heq => ?_, hnot⟩
          obtain ⟨rfl, rfl⟩ := Prod.mk.inj heq
          exact hne (hdata hj) }
  | @load data src report hmanaged hmemory hne hfirmware hsource hwrites hmalloc hreport =>
    have hfound := found_of_source hsource
    have hdata : l.data i kind = data := by
      unfold Loading.data
      rw [hmemory]
      rfl
    -- an import touches the RTC of its machine, which is still ahead
    have hrtc {j : Fin 2} {kind' : MemoryKind} (hnot : (j, kind') ∉ rest) :
        ∀ path battery record, src = .legacy path battery (some record) →
          ¬(j = i ∧ kind' = .rtc) := by
      rintro path battery record hsrc ⟨rfl, rfl⟩
      subst hsrc
      cases hfound with
      | legacy => exact hnot (hrtcahead rfl)
    have hsame {j : Fin 2} {kind' : MemoryKind} (hneq : ¬(j = i ∧ kind' = kind))
        (hrtc : ∀ path battery record, src = .legacy path battery (some record) →
          ¬(j = i ∧ kind' = .rtc)) :
        (l.loaded true paths i kind data.length src).data j kind' = l.data j kind' :=
      data_loaded_of_ne hneq hfound hrtc
    have hextents : (src.engine l.engine i kind data.length).persistentMemoryExtent =
        l.engine.persistentMemoryExtent := persistentMemoryExtent_engine _ _ _ _ _
    obtain ⟨hloaded, hextent⟩ := loaded_region (e := e) hl hmemory (fun hmissing => by
      rcases h.waiting i kind hmanaged List.mem_cons_self with hfresh | ⟨record, hrecord⟩
      · exact hdata.symm.trans hfresh
      · exact absurd (hmissing.symm.trans hrecord) (by simp)) hfound hreport
    have hother {j : Fin 2} {kind' : MemoryKind} (hj : managed j kind' = true)
        (hneq : ¬(j = i ∧ kind' = kind))
        (hrtc : ∀ path battery record, src = .legacy path battery (some record) →
          ¬(j = i ∧ kind' = .rtc)) :
        (l.loaded true paths i kind data.length src).files (paths.path j kind') =
          l.files (paths.path j kind') :=
      file_loaded_of_ne hl (hnamed i kind hmanaged) (hnamed j kind' hj) hneq hfound hrtc
    have hengine := engine_eq l.engine i kind data.length src
    exact
      { ahead := hahead
        family := (congrArg Engine.family hengine).trans h.family
        loaded := (congrArg Engine.loaded hengine).trans h.loaded
        extents := hextents.trans h.extents
        memoryDirty := (congrArg Engine.memoryDirty hengine).trans h.memoryDirty
        clearMemoryDirty := (congrArg Engine.clearMemoryDirty hengine).trans h.clearMemoryDirty
        length := fun j kind' => (length_loaded true hmemory hfound j kind').trans (h.length j kind')
        waiting := by
          intro j kind' hj hin
          have hneq : ¬(j = i ∧ kind' = kind) := by
            rintro ⟨rfl, rfl⟩
            exact hnotin hin
          by_cases himport : ∃ path battery record, src = .legacy path battery (some record) ∧
              j = i ∧ kind' = .rtc
          · obtain ⟨path, battery, record, rfl, rfl, rfl⟩ := himport
            have hfiles := files_loaded_legacy (l := l) (i := j) hl kind data.length path battery
              (some record)
            exact Or.inr ⟨record, hfiles.2 record rfl⟩
          · have hno : ∀ path battery record, src = .legacy path battery (some record) →
                ¬(j = i ∧ kind' = .rtc) := fun path battery record hsrc heq =>
              himport ⟨path, battery, record, hsrc, heq⟩
            change (l.loaded true paths i kind data.length src).data j kind' = _ ∨
              ∃ record, (l.loaded true paths i kind data.length src).files (paths.path j kind') = _
            rw [hsame hneq hno, hother hj hneq hno]
            exact h.waiting j kind' hj (List.mem_cons_of_mem _ hin)
        done := by
          intro j kind' hj hne' hnot
          by_cases hself : j = i ∧ kind' = kind
          · obtain ⟨rfl, rfl⟩ := hself
            exact ⟨hloaded, report, hextent⟩
          · have hdata' : ((l.loaded true paths i kind data.length src).setTracked i kind
                (loadedTracking ((l.loaded true paths i kind data.length src).data i kind)
                  src.loadedSize report)).data j kind' = l.data j kind' := hsame hself (hrtc hnot)
            have hbefore := h.done j kind' hj (hdata' ▸ hne') (by
              rw [List.mem_cons, not_or]
              exact ⟨fun heq => hself (Prod.mk.inj heq), hnot⟩)
            obtain ⟨hregion, report', hreports⟩ := hbefore
            refine ⟨?_, report', ?_⟩
            · have hsameregion : ((l.loaded true paths i kind data.length src).setTracked i kind
                  (loadedTracking ((l.loaded true paths i kind data.length src).data i kind)
                    src.loadedSize report)).region paths j kind' = l.region paths j kind' := by
                unfold region
                congr 1
                · exact report_congr hextents hdata'
                · exact hother hj hself (hrtc hnot)
                · exact if_neg hself
              rw [hsameregion]
              exact hregion
            · rw [hdata']
              have hextents' := Engine.persistentExtent_congr hextents
              change (src.engine l.engine i kind data.length).persistentExtent j kind' _ = _
              rw [hextents']
              exact hreports }

end Underway

end Loading

/-! ## A whole initialization -/

section init

variable {s : Setup} {e : Engine} {files : Files Path} {m : Manager} {paths : SavePaths}

/-- Firmware is core-managed for one family only, whose sessions have paths for it. -/
theorem managed_firmware {i : Fin 2} {kind : MemoryKind} (h : s.managed e paths i kind = true)
    (hkind : kind = .firmware) : decide (e.family = .melonds) = true := by
  subst hkind
  refine decide_eq_true ?_
  by_contra hfamily
  unfold Setup.managed chooseOwnership at h
  split at h
  · simp [hfamily] at h
  split at h
  · simp at h
  split at h
  · simp at h
  · simp [hfamily] at h

theorem paths_layout (h : s.paths e = .ok paths) :
    e.loaded = true ∧ ∃ stem, paths.Layout (e.family = .melonds) (directoryPrefix s.saveDirectory)
      stem := by
  unfold Setup.paths at h
  split at h
  · split at h
    · exact absurd h (by simp)
    rename_i hvalid
    split at h
    · exact absurd h (by simp)
    · rename_i hbuild
      obtain rfl := Except.ok.inj h
      refine ⟨?_, buildSavePaths_eq_ok hbuild⟩
      by_contra hno
      exact hvalid (Or.inl (by simpa using hno))
  · exact absurd h (by simp)

/-- A successful initialization is a loop in which no region failed. -/
theorem init_eq_ok (h : (init s e files).manager = .ok m) :
    ∃ paths owner l, s.paths e = .ok paths ∧ s.writeOwner (s.managed e paths) = .ok owner ∧
      Performed (Loading.loadRegion s owner paths (s.managed e paths)) Loading.slots
        (Loading.start e files) l ∧
      init s e files =
        { engine := l.engine, files := l.files, writes := l.writes, manager := .ok m } ∧
      m =
        { paths
          coreManaged := s.managed e paths
          tracked := l.tracked
          framesSinceFlush := 0
          writeOwner := owner
          initialized := true } := by
  unfold init at h ⊢
  cases hpaths : s.paths e with
  | error error =>
    rw [hpaths] at h
    exact absurd h (by simp)
  | ok paths =>
    rw [hpaths] at h
    dsimp only at h ⊢
    cases howner : s.writeOwner (s.managed e paths) with
    | error error =>
      rw [howner] at h
      exact absurd h (by simp)
    | ok owner =>
      rw [howner] at h
      dsimp only at h ⊢
      rcases untilFailure_cases (Loading.loadRegion s owner paths (s.managed e paths)) Loading.slots
        (Loading.start e files) with ⟨hnone, hdone⟩ | ⟨_, _, _, _, error, -, -, -, herror⟩
      · have hnone' : firstError (s.load owner paths e files).2 = none := hnone
        rw [hnone'] at h ⊢
        exact ⟨paths, owner, _, rfl, howner, hdone, by rw [Except.ok.inj h]; rfl,
          (Except.ok.inj h).symm⟩
      · have herror' : firstError (s.load owner paths e files).2 = some error := herror
        rw [herror'] at h
        exact absurd h (by simp)

/-- The world after an initialization. -/
def Initialized.world (r : Initialized) (m : Manager) : World where
  manager := m
  engine := r.engine
  files := r.files
  log := []

/-- What an initialization leaves to a session that owns its files. -/
structure Begun (e : Engine) (w : World) : Prop where
  active : w.Active
  distinct : w.manager.Distinct
  length : ∀ i kind, (w.data i kind).length = ((e.memory i kind).getD []).length
  memoryDirty : w.engine.memoryDirty = e.memoryDirty
  region : ∀ i kind, w.manager.coreManaged i kind = true → w.data i kind ≠ [] →
    (w.region w.engine.report i kind).Loaded kind.fill ((e.memory i kind).getD []) ∧
      ∃ report, w.engine.persistentExtent i kind (w.data i kind).length = .ok report

/-- **What an initialization leaves**: each core-managed region holds what its canonical file says. -/
theorem loaded_of_init (h : (init s e files).manager = .ok m) (howner : m.writeOwner = true) :
    Begun e ((init s e files).world m) := by
  obtain ⟨paths, owner, l, hpaths, -, hdone, hinit, hm⟩ := init_eq_ok h
  obtain rfl : owner = true := by
    rw [hm] at howner
    exact howner
  obtain ⟨hloaded, stem, hl⟩ := paths_layout hpaths
  have hunderway : Loading.Underway paths (s.managed e paths) e [] l := by
    refine hdone.invariant (fun rest l => Loading.Underway paths (s.managed e paths) e rest l) []
      ?_ ?_
    · rintro ⟨i, kind⟩ rest l l' hunderway hload
      exact hunderway.step hl (fun _ _ => managed_firmware) (Loading.loadRegion_eq_none.mp hload)
    · rw [List.append_nil]
      exact Loading.Underway.start _ _ _ _
  rw [hinit]
  subst hm
  exact
    { active := ⟨rfl, rfl, hunderway.loaded.trans hloaded⟩
      distinct := fun i kind j kind' hi hj hpath =>
        hl.path_injective (managed_firmware hi) (managed_firmware hj) hpath
      length := hunderway.length
      memoryDirty := hunderway.memoryDirty
      region := fun i kind hmanaged hne => hunderway.done i kind hmanaged hne (by simp) }

end init

end DualBoy.Saves
