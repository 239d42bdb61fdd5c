import DualBoy.Saves.Import

/-!
# Imports that are cut short

An import writes the RTC record first and SaveRAM last, and it is SaveRAM's file that tells a later
initialization whether there is anything to import. `Cut` is what may be left of the files when the
writes stop somewhere; `Loading.Resumed` compares the loop that begins anew on them with the one
that was not cut.

* `import_is_crash_safe`: an import that is cut and begun anew ends as it would have.
-/

namespace DualBoy.Saves

open DualBoy.Lib

/-- The files left in the middle of an import, between those before it and those after: SaveRAM's is
there only when the RTC's is. -/
structure Cut (paths : SavePaths) (before after left : Files Path) : Prop where
  between : ∀ p, left p = before p ∨ left p = after p
  order : ∀ i, left (paths.sram i) ≠ .missing → left (paths.rtc i) = after (paths.rtc i)

namespace Loading

variable {s : Setup} {owner firmware : Bool} {paths : SavePaths} {directory : Path}
  {stem : Fin 2 → Path} {managed : Fin 2 → MemoryKind → Bool} {e e' : Engine}
  {files files' left : Files Path} {rest before : List (Fin 2 × MemoryKind)} {l l' l₁ lf : Loading}
  {i j : Fin 2} {kind kind' : MemoryKind} {src : Source} {capacity : Nat}
  {writes : List (Path × List Byte)} {legacy : Path} {battery record : List Byte}

/-! ## What is left -/

/-- Nothing canonical is there yet. -/
def Unwritten (paths : SavePaths) (files : Files Path) : Prop :=
  ∀ i kind, kind ≠ .firmware → files (paths.path i kind) = .missing

theorem sram_ne_rtc (hl : paths.Layout firmware directory stem) (i j : Fin 2) :
    paths.sram i ≠ paths.rtc j := fun heq => by
  have heq' : paths.path i .saveRam = paths.path j .rtc := heq
  exact absurd (hl.path_injective (by simp) (by simp) heq').2 (by simp)

/-- Stores cut in the middle of some writes, and of the writes of one more source. -/
theorem cut_append (hl : paths.Layout firmware directory stem) (hfresh : Unwritten paths files)
    (hcut : ∀ n, Cut paths files (files.puts writes) (files.puts (writes.take n)))
    (hahead : ∀ kind, kind ≠ .firmware → files.puts writes (paths.path i kind) = .missing)
    (hfound : Found e paths files' i capacity kind src) (n : Nat) :
    Cut paths files (files.puts (writes ++ src.writes paths i))
      (files.puts ((writes ++ src.writes paths i).take n)) := by
  have hsram : files.puts writes (paths.sram i) = .missing := hahead .saveRam (by simp)
  have hkeys {p : Path} (hp : p ∈ (src.writes paths i).map Prod.fst) :
      files p = .missing ∧ files.puts writes p = .missing := by
    obtain ⟨-, kind', hkind', rfl⟩ := writes_canonical hfound hp
    exact ⟨hfresh i kind' hkind', hahead kind' hkind'⟩
  rw [List.take_append, Files.puts_append, Files.puts_append]
  by_cases hn : n ≤ writes.length
  · rw [Nat.sub_eq_zero_of_le hn, List.take_zero, Files.puts_nil]
    refine ⟨fun p => ?_, fun j hj => ?_⟩
    · by_cases hp : p ∈ (src.writes paths i).map Prod.fst
      · obtain ⟨hfiles, hwritten⟩ := hkeys hp
        rcases (hcut n).between p with hsame | hsame
        · exact Or.inl hsame
        · exact Or.inl (hsame.trans (hwritten.trans hfiles.symm))
      · rw [Files.puts_of_not_mem _ hp]
        exact (hcut n).between p
    · refine ((hcut n).order j hj).trans (Files.puts_of_not_mem _ fun hp => ?_).symm
      obtain ⟨-, kind', hkind', hpath⟩ := writes_canonical hfound hp
      have hpath' : paths.path j .rtc = paths.path i kind' := hpath
      obtain ⟨rfl, -⟩ := hl.path_injective (by simp) (fun hf => absurd hf hkind') hpath'
      rcases (hcut n).between (paths.sram j) with hsame | hsame
      · exact hj (hsame.trans (hfresh j .saveRam (by simp)))
      · exact hj (hsame.trans hsram)
  · rw [List.take_of_length_le (by omega)]
    obtain ⟨m, hm⟩ : ∃ m, n - writes.length = m + 1 := ⟨n - writes.length - 1, by omega⟩
    rw [hm]
    cases hfound with
    | nothing _ => exact ⟨fun p => Or.inr rfl, fun _ _ => rfl⟩
    | file _ _ => exact ⟨fun p => Or.inr rfl, fun _ _ => rfl⟩
    | @legacy legacy bytes battery rtc _ _ _ _ _ _ =>
      cases rtc with
      | none =>
        have hall : ([(paths.sram i, battery)] : List (Path × List Byte)).take (m + 1) =
            [(paths.sram i, battery)] := List.take_of_length_le (by simp)
        rw [Source.writes, hall]
        exact ⟨fun p => Or.inr rfl, fun _ _ => rfl⟩
      | some record =>
        rw [Source.writes]
        cases m with
        | succ m =>
          rw [List.take_of_length_le (by simp)]
          exact ⟨fun p => Or.inr rfl, fun _ _ => rfl⟩
        | zero =>
          -- the record is there, and SaveRAM's file is not
          change Cut paths files
            (((files.puts writes).put (paths.rtc i) record).put (paths.sram i) battery)
            ((files.puts writes).put (paths.rtc i) record)
          refine ⟨fun p => ?_, fun j hj => ?_⟩
          · by_cases hp : p = paths.sram i
            · rw [hp, Files.put_of_ne (sram_ne_rtc hl i i), hsram]
              exact Or.inl (hfresh i .saveRam (by simp)).symm
            · rw [Files.put_of_ne hp]
              exact Or.inr rfl
          · rw [Files.put_of_ne fun heq => sram_ne_rtc hl i j heq.symm]

/-- The files of a loop under way are those its writes give, and a cut anywhere leaves a store
between them and the first. -/
structure Writing (paths : SavePaths) (e : Engine) (files : Files Path)
    (rest : List (Fin 2 × MemoryKind)) (l : Loading) : Prop where
  standing : Standing paths e files rest l
  written : l.files = files.puts l.writes
  cut : ∀ n, Cut paths files l.files (files.puts (l.writes.take n))

theorem Writing.step (hl : paths.Layout firmware directory stem) (hfresh : Unwritten paths files)
    (h : Writing paths e files ((i, kind) :: rest) l)
    (hloads : Loads s true paths managed i kind l l') : Writing paths e files rest l' := by
  have hstanding := h.standing.step hl hloads
  cases hloads with
  | skip _ => exact ⟨hstanding, h.written, h.cut⟩
  | @load data src report _ _ _ _ hsource _ _ _ =>
    have hfound := found_of_source hsource
    have hfiles : l.files.puts (src.writes paths i) = files.puts (l.writes ++ src.writes paths i) := by
      rw [Files.puts_append, ← h.written]
    have hcut (n : Nat) : Cut paths files (files.puts (l.writes ++ src.writes paths i))
        (files.puts ((l.writes ++ src.writes paths i).take n)) := by
      by_cases hkind : kind = .saveRam
      · subst hkind
        refine cut_append hl hfresh (fun n => h.written ▸ h.cut n) (fun kind' hkind' => ?_) hfound n
        rw [← h.written, h.standing.canonical i kind' List.mem_cons_self hkind']
        exact hfresh i kind' hkind'
      · have hnil : src.writes paths i = [] := by
          rw [← List.map_eq_nil_iff]
          exact List.eq_nil_iff_forall_not_mem.mpr fun p hp =>
            hkind (writes_canonical hfound hp).1
        rw [hnil, List.append_nil]
        exact h.written ▸ h.cut n
    refine ⟨hstanding, hfiles, fun n => ?_⟩
    change Cut paths files (l.files.puts (src.writes paths i))
      (files.puts ((l.writes ++ src.writes paths i).take n))
    rw [hfiles]
    exact hcut n

theorem writing_of_performed (hl : paths.Layout firmware directory stem)
    (hfresh : Unwritten paths files)
    (hdone : Performed (loadRegion s true paths managed) slots (start e files) l) :
    Writing paths e files [] l := by
  refine hdone.invariant (Writing paths e files) [] ?_ ?_
  · rintro ⟨i, kind⟩ rest l l' h hload
    exact h.step hl hfresh (loadRegion_eq_none.mp hload)
  · rw [List.append_nil]
    exact ⟨Standing.start _ _ _, rfl, fun n => by
      change Cut paths files files (files.puts (([] : List (Path × List Byte)).take n))
      rw [List.take_nil]
      exact ⟨fun _ => Or.inl rfl, fun _ _ => rfl⟩⟩

/-- The files of a machine the loop has passed are final. -/
theorem settled_of_performed (hl : paths.Layout firmware directory stem)
    (hdone : Performed (loadRegion s owner paths managed) rest l lf)
    (hi : (i, .saveRam) ∉ rest) (hkind : kind ≠ .firmware) :
    lf.files (paths.path i kind) = l.files (paths.path i kind) := by
  have hend := hdone.invariant (fun rest l' => (i, .saveRam) ∉ rest ∧
    l'.files (paths.path i kind) = l.files (paths.path i kind)) [] ?_ ?_
  · exact hend.2
  · rintro ⟨j, kind'⟩ rest l₁ l₂ ⟨hnotin, hsame⟩ hload
    have hfile : (loadRegion s owner paths managed (j, kind') l₁).1.files (paths.path i kind) =
        l₁.files (paths.path i kind) := by
      refine loadRegion_file_of_ne fun hram kind'' hkind'' heq => hnotin ?_
      obtain ⟨rfl, -⟩ := hl.path_injective (fun hf => absurd hf hkind)
        (fun hf => absurd hf hkind'') heq
      rw [hram]
      exact List.mem_cons_self
    rw [hload] at hfile
    exact ⟨fun hmem => hnotin (List.mem_cons_of_mem _ hmem), hfile.trans hsame⟩
  · rw [List.append_nil]
    exact ⟨hi, rfl⟩

/-! ## Beginning anew -/

/-- A record is taken of an RTC of 16 bytes. -/
theorem legacy_record (h : s.source e paths files i capacity kind =
    some (.legacy legacy battery (some record))) : record.length = 16 := by
  cases kind with
  | rtc =>
    change s.regionSource files i .rtc (paths.rtc i) capacity true = _ at h
    unfold Setup.regionSource at h
    split at h
    · exact absurd h (by simp)
    split at h
    · exact absurd h (by simp)
    · split at h <;> exact absurd h (by simp)
  | firmware =>
    change s.firmwareSource files i (paths.firmware i) capacity = _ at h
    unfold Setup.firmwareSource at h
    split at h
    · exact absurd h (by simp)
    split at h
    · split at h <;> exact absurd h (by simp)
    · split at h
      · exact absurd h (by simp)
      · split at h <;> exact absurd h (by simp)
  | saveRam =>
    change s.sramSource e paths files i capacity = _ at h
    have hregion {path : Path} {missingIsOk : Bool} (h : s.regionSource files i .saveRam path capacity
        missingIsOk = some (.legacy legacy battery (some record))) : record.length = 16 := by
      unfold Setup.regionSource at h
      split at h
      · exact absurd h (by simp)
      split at h
      · exact absurd h (by simp)
      · split at h <;> exact absurd h (by simp)
    unfold Setup.sramSource at h
    split at h
    · exact hregion h
    split at h
    · exact absurd h (by simp)
    split at h
    · exact absurd h (by simp)
    · exact absurd h (by simp)
    · exact hregion h
    · unfold Setup.legacySource at h
      split at h
      · exact absurd h (by simp)
      split at h
      · exact absurd h (by simp)
      split at h
      · rename_i bytes extent hread hextent
        obtain ⟨⟨battery', rtc⟩, hfound, heq⟩ := Option.map_eq_some_iff.mp h
        obtain ⟨-, -, hrecord⟩ := importLegacy_eq_some (fun n hn => importExtent_le (hn ▸ hextent))
          (readFileFilled_eq_ok hread).2 hfound
        injection heq with _ _ hrtc
        obtain ⟨hlength, hsixteen⟩ := hrecord record hrtc
        exact hlength.trans hsixteen
      · exact absurd h (by simp)

/-- The engine a source leaves has, in each region, what it had or what the source has there. -/
theorem memory_engine_cases (i j : Fin 2) (kind kind' : MemoryKind) (capacity : Nat) (src : Source) :
    (∀ e, (src.engine e i kind capacity).memory j kind' = e.memory j kind') ∨
      ∃ bytes, ∀ e, (src.engine e i kind capacity).memory j kind' = some bytes := by
  have hset (e : Engine) (k : MemoryKind) (bytes : List Byte) :
      (e.setMemory i k bytes).memory j kind' =
        if j = i ∧ kind' = k then some bytes else e.memory j kind' := rfl
  cases src with
  | nothing => exact Or.inl fun _ => rfl
  | file bytes =>
    by_cases hself : j = i ∧ kind' = kind
    · exact Or.inr ⟨_, fun e => (hset e _ _).trans (if_pos hself)⟩
    · exact Or.inl fun e => (hset e _ _).trans (if_neg hself)
  | legacy path battery rtc =>
    by_cases hself : j = i ∧ kind' = .saveRam
    · exact Or.inr ⟨_, fun e => (hset _ _ _).trans (if_pos hself)⟩
    · cases rtc with
      | none => exact Or.inl fun e => (hset e _ _).trans (if_neg hself)
      | some record =>
        by_cases hrtc : j = i ∧ kind' = .rtc
        · exact Or.inr ⟨record, fun e => ((hset _ _ _).trans (if_neg hself)).trans
            ((hset e _ _).trans (if_pos hrtc))⟩
        · exact Or.inl fun e => ((hset _ _ _).trans (if_neg hself)).trans
            ((hset e _ _).trans (if_neg hrtc))

/-- The RTC of machine `i` is still to be loaded from the record an import left, and the loop that
does not import it again has not heard of it. -/
structure Unheard (paths : SavePaths) (managed : Fin 2 → MemoryKind → Bool) (i : Fin 2)
    (rest : List (Fin 2 × MemoryKind)) (l l' : Loading) : Prop where
  ahead : (i, .rtc) ∈ rest
  managed : managed i .rtc = true
  record : ∃ record fresh, record ≠ [] ∧ fresh.length = record.length ∧
    l.engine.memory i .rtc = some record ∧ l'.engine.memory i .rtc = some fresh ∧
    l.files (paths.rtc i) = .regular record

/-- Where the loop that was not cut and the one that begins anew stand. -/
structure Resumed (paths : SavePaths) (managed : Fin 2 → MemoryKind → Bool) (e : Engine)
    (files left : Files Path) (rest : List (Fin 2 × MemoryKind)) (l l' : Loading) : Prop where
  here : Standing paths e files rest l
  there : Standing paths e left rest l'
  memory : ∀ i kind, l'.engine.memory i kind = l.engine.memory i kind ∨
    kind = .rtc ∧ Unheard paths managed i rest l l'
  same : ∀ p, (∀ i kind, (i, .saveRam) ∈ rest → kind ≠ .firmware → p ≠ paths.path i kind) →
    l'.files p = l.files p

theorem Loads.file_of_ne (hloads : Loads s owner paths managed i kind l l') {p : Path}
    (hp : kind = .saveRam → ∀ kind', kind' ≠ .firmware → p ≠ paths.path i kind') :
    l'.files p = l.files p := by
  have hfile : (loadRegion s owner paths managed (i, kind) l).1.files p = l.files p :=
    loadRegion_file_of_ne hp
  rwa [loadRegion_eq_none.mpr hloads] at hfile

/-- The memories after one source is applied on both sides. -/
theorem Resumed.memory_step (h : Resumed paths managed e files left ((i, kind) :: rest) l l')
    {l₂ : Loading} (hi : ∀ kind', l'.engine.memory i kind' = l.engine.memory i kind')
    (hengine : l₁.engine = src.engine l.engine i kind capacity)
    (hengine' : l₂.engine = src.engine l'.engine i kind capacity)
    (hfiles : ∀ j, j ≠ i → l₁.files (paths.rtc j) = l.files (paths.rtc j)) (j : Fin 2)
    (kind' : MemoryKind) : l₂.engine.memory j kind' = l₁.engine.memory j kind' ∨
      kind' = .rtc ∧ Unheard paths managed j rest l₁ l₂ := by
  rw [hengine, hengine']
  rcases memory_engine_cases i j kind kind' capacity src with hkeep | ⟨bytes, hset⟩
  · by_cases hj : j = i
    · subst hj
      rw [hkeep, hkeep]
      exact Or.inl (hi kind')
    · rcases h.memory j kind' with hsame | ⟨rfl, hunheard⟩
      · rw [hkeep, hkeep]
        exact Or.inl hsame
      · obtain ⟨record, fresh, hne, hlength, hrecord, hfresh, hfile⟩ := hunheard.record
        refine Or.inr ⟨rfl, ?_, hunheard.managed, record, fresh, hne, hlength, ?_, ?_, ?_⟩
        · exact (List.mem_cons.mp hunheard.ahead).resolve_left fun heq => hj (Prod.mk.inj heq).1
        · rw [hengine, hkeep]
          exact hrecord
        · rw [hengine', hkeep]
          exact hfresh
        · exact (hfiles j hj).trans hfile
  · rw [hset, hset]
    exact Or.inl rfl

/-- **A region that is not SaveRAM**, loaded on both sides. -/
theorem Resumed.step_other (hl : paths.Layout firmware directory stem)
    (hnamed : ∀ i kind, managed i kind = true → kind = .firmware → firmware = true)
    (h : Resumed paths managed e files left ((i, kind) :: rest) l l') (hkind : kind ≠ .saveRam)
    (hloads : Loads s true paths managed i kind l l₁) :
    ∃ l₂, Loads s true paths managed i kind l' l₂ ∧
      Resumed paths managed e files left rest l₁ l₂ := by
  have hfiles (l l₁ : Loading) (hloads : Loads s true paths managed i kind l l₁) (p : Path) :
      l₁.files p = l.files p := hloads.file_of_ne fun hram => absurd hram hkind
  have hsame {l₂ : Loading} (hloads' : Loads s true paths managed i kind l' l₂) :
      ∀ p, (∀ i kind, (i, .saveRam) ∈ rest → kind ≠ .firmware → p ≠ paths.path i kind) →
        l₂.files p = l₁.files p := by
    intro p hp
    rw [hfiles l' l₂ hloads', hfiles l l₁ hloads]
    refine h.same p fun j kind' hj => hp j kind' ?_
    exact (List.mem_cons.mp hj).resolve_left fun heq => hkind (Prod.mk.inj heq).2.symm
  -- the region's own file is the same on both sides
  have hfile (hmanaged : managed i kind = true) :
      l'.files (paths.path i kind) = l.files (paths.path i kind) := by
    refine h.same _ fun j kind' hj hkind' heq => ?_
    obtain ⟨rfl, -⟩ := hl.path_injective (hnamed i kind hmanaged) (fun hf => absurd hf hkind') heq
    rcases List.mem_cons.mp hj with heq' | hrest
    · exact hkind (Prod.mk.inj heq').2.symm
    · exact slots_grouped h.here.ahead hrest
  cases hcase : hloads with
  | skip hskip =>
    have hnone : ¬Unheard paths managed i ((i, kind) :: rest) l l' ∨ kind ≠ .rtc := by
      by_cases hrtc : kind = .rtc
      · subst hrtc
        refine Or.inl fun hunheard => ?_
        obtain ⟨record, -, hne, -, hrecord, -, -⟩ := hunheard.record
        rcases hskip with hno | ⟨-, hempty⟩
        · exact absurd (hno.symm.trans hunheard.managed) (by simp)
        · exact hne (Option.some.inj (hrecord.symm.trans hempty))
      · exact Or.inr hrtc
    have hskip' : managed i kind = false ∨ kind ≠ .firmware ∧ l'.engine.memory i kind = some [] := by
      refine hskip.imp_right fun ⟨hfirmware, hempty⟩ => ⟨hfirmware, ?_⟩
      rcases h.memory i kind with heq | ⟨hrtc, hunheard⟩
      · exact heq.trans hempty
      · exact absurd hunheard (hnone.resolve_right fun hno => hno hrtc)
    have hloads' : Loads s true paths managed i kind l' l' := .skip hskip'
    refine ⟨l', hloads', h.here.step hl hloads, h.there.step hl hloads', ?_, hsame hloads'⟩
    intro j kind'
    refine (h.memory j kind').imp_right fun ⟨hrtc, hunheard⟩ => ⟨hrtc, ?_⟩
    refine { hunheard with ahead := (List.mem_cons.mp hunheard.ahead).resolve_left fun heq => ?_ }
    obtain ⟨rfl, rfl⟩ := Prod.mk.inj heq
    exact hnone.elim (fun hno => hno hunheard) fun hno => hno rfl
  | @load data src report hmanaged hmemory hne hfirmware hsource hwrites hmalloc hreport =>
    have hextent : l'.engine.persistentExtent = l.engine.persistentExtent :=
      Engine.persistentExtent_congr (by rw [h.here.engine, h.there.engine])
    by_cases hunheard : kind = .rtc ∧ Unheard paths managed i ((i, kind) :: rest) l l'
    · obtain ⟨rfl, hunheard⟩ := hunheard
      obtain ⟨record, fresh, hnonempty, hlength, hrecord, hfresh, hrtc⟩ := hunheard.record
      obtain rfl := Option.some.inj (hmemory.symm.trans hrecord)
      have hregion (l : Loading) (n : Nat) (hn : data.length ≤ n)
          (hfile : l.files (paths.path i .rtc) = .regular data) :
          s.source l.engine paths l.files i n .rtc =
            if s.malloc (.temporary i .rtc) = false then none else some (.file data) := by
        change s.regionSource l.files i .rtc (paths.path i .rtc) n true = _
        unfold Setup.regionSource
        rw [readFileFilled_canonical hl (by simp) hfile hn]
      have hsome := (hregion l data.length (Nat.le_refl _) hrtc).symm.trans hsource
      split at hsome
      · exact absurd hsome (by simp)
      rename_i htemporary
      obtain rfl := Option.some.inj hsome
      have hsource' : s.source l'.engine paths l'.files i fresh.length .rtc = some (.file data) := by
        rw [hregion l' fresh.length (by omega) ((hfile hmanaged).trans hrtc), if_neg htemporary]
      have hloads' : Loads s true paths managed i .rtc l' _ := Loads.load hmanaged hfresh
        (fun hnil => hnonempty (List.length_eq_zero_iff.mp (by rw [← hlength, hnil]; rfl)))
        (fun hf => absurd hf (by simp)) hsource' hwrites hmalloc (by rw [hextent, hlength]; exact hreport)
      refine ⟨_, hloads', h.here.step hl hloads, h.there.step hl hloads', ?_, hsame hloads'⟩
      intro j kind'
      change (l'.engine.setMemory i .rtc (pad fresh.length MemoryKind.rtc.fill data)).memory j kind' =
        (l.engine.setMemory i .rtc (pad data.length MemoryKind.rtc.fill data)).memory j kind' ∨ _
      by_cases hself : j = i ∧ kind' = .rtc
      · obtain ⟨rfl, rfl⟩ := hself
        rw [engine_setMemory_same, engine_setMemory_same, hlength]
        exact Or.inl rfl
      · rw [engine_setMemory_of_ne hself, engine_setMemory_of_ne hself]
        refine (h.memory j kind').imp_right fun ⟨hkind', hun⟩ => ⟨hkind', ?_⟩
        have hj : j ≠ i := fun heq => hself ⟨heq, hkind'⟩
        obtain ⟨record', fresh', hne', hlength', hrecord', hfresh', hrtc'⟩ := hun.record
        refine ⟨(List.mem_cons.mp hun.ahead).resolve_left fun heq => hj (Prod.mk.inj heq).1,
          hun.managed, record', fresh', hne', hlength', ?_, ?_, (hfiles l _ hloads _).trans hrtc'⟩
        · exact (engine_setMemory_of_ne (fun heq => hj heq.1) _).trans hrecord'
        · exact (engine_setMemory_of_ne (fun heq => hj heq.1) _).trans hfresh'
    · have hi (kind' : MemoryKind) : l'.engine.memory i kind' = l.engine.memory i kind' := by
        refine (h.memory i kind').resolve_right fun ⟨hrtc, hun⟩ => ?_
        subst hrtc
        by_cases hself : kind = .rtc
        · exact hunheard ⟨hself, hun⟩
        · refine slots_rtc_behind h.here.ahead hkind ?_
          exact (List.mem_cons.mp hun.ahead).resolve_left fun heq => hself (Prod.mk.inj heq).2.symm
      have hsource' : s.source l'.engine paths l'.files i data.length kind = some src := by
        rw [← hsource]
        cases kind with
        | saveRam => exact absurd rfl hkind
        | rtc => exact regionSource_congr (hfile hmanaged) true
        | firmware => exact firmwareSource_congr (hfile hmanaged)
      have hloads' := Loads.load hmanaged ((hi kind).trans hmemory) hne hfirmware hsource' hwrites
        hmalloc (by rw [hextent]; exact hreport)
      refine ⟨_, hloads', h.here.step hl hloads, h.there.step hl hloads', ?_, hsame hloads'⟩
      exact h.memory_step hi rfl rfl fun j _ => hfiles l _ hloads _

/-- With the canonical file there, what would have been imported is read from it. -/
theorem sramSource_of_canonical {bytes : List Byte} {rtc : Option (List Byte)}
    (hl : paths.Layout firmware directory stem)
    (h : s.sramSource e paths files i capacity = some (.legacy legacy battery rtc))
    (hfile : files' (paths.sram i) = .regular bytes) (hfits : bytes.length ≤ capacity) :
    s.sramSource e paths files' i capacity = some (.file bytes) := by
  have hregion {files : Files Path} {path : Path} {missingIsOk : Bool}
      (h : s.regionSource files i .saveRam path capacity missingIsOk =
        some (.legacy legacy battery rtc)) : False := by
    unfold Setup.regionSource at h
    split at h
    · exact absurd h (by simp)
    split at h
    · exact absurd h (by simp)
    · split at h <;> exact absurd h (by simp)
  have hread : readFileFilled files' (paths.sram i) capacity = .ok bytes :=
    readFileFilled_canonical hl (show MemoryKind.saveRam ≠ .firmware by simp) hfile hfits
  unfold Setup.sramSource at h ⊢
  split at h
  · exact (hregion h).elim
  rename_i hfamily
  rw [if_neg hfamily]
  split at h
  · exact absurd h (by simp)
  rename_i path hpath
  split at h
  · exact absurd h (by simp)
  · exact absurd h (by simp)
  · exact (hregion h).elim
  · rename_i hchoice
    have hkeep : chooseSavImport files' (paths.sram i) path = .ok .keepCanonical := by
      unfold chooseSavImport at hchoice ⊢
      split at hchoice
      · exact absurd hchoice (by simp)
      rename_i hnonempty
      split at hchoice
      · exact absurd hchoice (by simp)
      rename_i hshort
      rw [if_neg hnonempty, if_neg hshort, hfile]
    have hmalloc : s.malloc (.temporary i .saveRam) ≠ false := by
      unfold Setup.legacySource at h
      split at h
      · exact absurd h (by simp)
      split at h
      · exact absurd h (by simp)
      · assumption
    rw [hkeep]
    dsimp only
    unfold Setup.regionSource
    rw [if_neg hmalloc, hread]

/-- **SaveRAM**, imported on one side, and on the other imported again or read from its file. -/
theorem Resumed.step_saveRam (hl : paths.Layout firmware directory stem)
    (hfresh : Unwritten paths files) (hcut : Cut paths files lf.files left)
    (hother : ∀ p, (∀ i kind, kind ≠ .firmware → p ≠ paths.path i kind) → left p = files p)
    (hboth : e.family = .mgba → ∀ i, managed i .rtc = true)
    (h : Resumed paths managed e files left ((i, .saveRam) :: rest) l l')
    (hloads : Loads s true paths managed i .saveRam l l₁)
    (hremaining : Performed (loadRegion s true paths managed) rest l₁ lf) :
    ∃ l₂, Loads s true paths managed i .saveRam l' l₂ ∧
      Resumed paths managed e files left rest l₁ l₂ := by
  have hi (kind : MemoryKind) : l'.engine.memory i kind = l.engine.memory i kind :=
    (h.there.memory i kind List.mem_cons_self).trans (h.here.memory i kind List.mem_cons_self).symm
  have hbefore (kind : MemoryKind) (hkind : kind ≠ .firmware) :
      l.files (paths.path i kind) = .missing :=
    (h.here.canonical i kind List.mem_cons_self hkind).trans (hfresh i kind hkind)
  have hleft (kind : MemoryKind) (hkind : kind ≠ .firmware) :
      l'.files (paths.path i kind) = left (paths.path i kind) :=
    h.there.canonical i kind List.mem_cons_self hkind
  have hsettled (kind : MemoryKind) (hkind : kind ≠ .firmware) :
      lf.files (paths.path i kind) = l₁.files (paths.path i kind) :=
    settled_of_performed hl hremaining (slots_grouped h.here.ahead) hkind
  have hbetween (kind : MemoryKind) (hkind : kind ≠ .firmware) :
      l'.files (paths.path i kind) = .missing ∨
        l'.files (paths.path i kind) = l₁.files (paths.path i kind) := by
    rw [hleft kind hkind, ← hsettled kind hkind, ← hfresh i kind hkind]
    exact hcut.between _
  have hothers (p : Path) (hp : ∀ i kind, (i, .saveRam) ∈ rest → kind ≠ .firmware →
      p ≠ paths.path i kind) (hself : ∀ kind, kind ≠ .firmware → p ≠ paths.path i kind) :
      l'.files p = l.files p := by
    refine h.same p fun j kind hj => ?_
    rcases List.mem_cons.mp hj with heq | hrest
    · obtain ⟨rfl, -⟩ := Prod.mk.inj heq
      exact hself kind
    · exact hp j kind hrest
  have hmachine (j : Fin 2) (hj : j ≠ i) : l₁.files (paths.rtc j) = l.files (paths.rtc j) := by
    refine hloads.file_of_ne fun _ kind hkind heq => hj ?_
    have heq' : paths.path j .rtc = paths.path i kind := heq
    exact (hl.path_injective (by simp) (fun hf => absurd hf hkind) heq').1
  have hstep := h.here.step hl hloads
  cases hcase : hloads with
  | skip hskip =>
    have hloads' : Loads s true paths managed i .saveRam l' l' :=
      .skip (hskip.imp_right fun hempty => ⟨hempty.1, (hi _).trans hempty.2⟩)
    refine ⟨l', hloads', hstep, h.there.step hl hloads', fun j kind' => ?_, fun p hp => ?_⟩
    · refine (h.memory j kind').imp_right (And.imp_right fun hunheard => ?_)
      have hahead : (j, .rtc) ∈ rest :=
        (List.mem_cons.mp hunheard.ahead).resolve_left fun heq => by simpa using (Prod.mk.inj heq).2
      exact { hunheard with ahead := hahead }
    · by_cases hself : ∀ kind, kind ≠ .firmware → p ≠ paths.path i kind
      · exact hothers p hp hself
      · push Not at hself
        obtain ⟨kind, hkind, rfl⟩ := hself
        exact (hbetween kind hkind).elim (fun hno => hno.trans (hbefore kind hkind).symm) id
  | @load data src report hmanaged hmemory hne hfirmware hsource hwrites hmalloc hreport =>
    have hextent : l'.engine.persistentExtent = l.engine.persistentExtent :=
      Engine.persistentExtent_congr (by rw [h.here.engine, h.there.engine])
    have hfirst := (h.here.source hl List.mem_cons_self).symm.trans hsource
    have hagain : s.source l'.engine paths l'.files i data.length .saveRam =
        s.source e paths left i data.length .saveRam := h.there.source hl List.mem_cons_self
    by_cases hmissing : left (paths.sram i) = .missing
    · -- nothing of this machine's SaveRAM is left: it is imported again
      have hsource' : s.source l'.engine paths l'.files i data.length .saveRam = some src := by
        refine hagain.trans (Eq.trans ?_ hfirst)
        refine sramSource_congr rfl rfl rfl ?_ fun _ hpath => ?_
        · exact hmissing.trans (hfresh i .saveRam (by simp)).symm
        · exact hother _ fun j kind hkind => legacy_apart hl hpath j hkind
      have hloads' : Loads s true paths managed i .saveRam l' _ := Loads.load hmanaged
        ((hi _).trans hmemory) hne hfirmware hsource' hwrites hmalloc (by rw [hextent]; exact hreport)
      refine ⟨_, hloads', hstep, h.there.step hl hloads', h.memory_step hi rfl rfl hmachine,
        fun p hp => ?_⟩
      refine Files.puts_congr fun hkeys => ?_
      by_cases hself : ∀ kind, kind ≠ .firmware → p ≠ paths.path i kind
      · exact hothers p hp hself
      · push Not at hself
        obtain ⟨kind, hkind, rfl⟩ := hself
        have hunchanged : (l.loaded true paths i .saveRam data.length src).files (paths.path i kind) =
            l.files (paths.path i kind) := files_loaded_of_ne hkeys
        exact (hbetween kind hkind).elim (fun hno => hno.trans (hbefore kind hkind).symm)
          fun hyes => hyes.trans hunchanged
    · -- SaveRAM's file is left, and so the RTC's is
      have hsram : left (paths.sram i) = lf.files (paths.sram i) := by
        rcases hcut.between (paths.sram i) with hno | hyes
        · exact absurd (hno.trans (hfresh i .saveRam (by simp))) hmissing
        · exact hyes
      have hrtc : left (paths.rtc i) = lf.files (paths.rtc i) := hcut.order i hmissing
      have hsramhere : l.files (paths.sram i) = .missing := hbefore .saveRam (by simp)
      cases hfound : found_of_source hsource with
      | nothing _ =>
        exact absurd (hsram.trans ((hsettled .saveRam (by simp)).trans hsramhere)) hmissing
      | file hfile _ => exact absurd (hsramhere.symm.trans hfile) (by simp)
      | @legacy legacy bytes battery rtc hfamily _ _ _ hfits hrecord =>
        have hwritten := files_loaded_legacy (l := l) (i := i) hl .saveRam data.length legacy battery rtc
        have hsource' : s.source l'.engine paths l'.files i data.length .saveRam =
            some (.file battery) := by
          refine hagain.trans (sramSource_of_canonical hl hfirst ?_ hfits)
          exact hsram.trans ((hsettled .saveRam (by simp)).trans hwritten.1)
        have hloads' : Loads s true paths managed i .saveRam l' _ := Loads.load hmanaged
          ((hi _).trans hmemory) hne hfirmware hsource' (fun write hwrite => absurd hwrite List.not_mem_nil)
          hmalloc
          (by rw [hextent]; exact hreport)
        refine ⟨_, hloads', hstep, h.there.step hl hloads', fun j kind => ?_, fun p hp => ?_⟩
        · change (l'.engine.setMemory i .saveRam (pad data.length MemoryKind.saveRam.fill battery)).memory
            j kind = ((Source.legacy legacy battery rtc).engine l.engine i .saveRam data.length).memory
              j kind ∨ _
          by_cases hself : j = i ∧ kind = .saveRam
          · obtain ⟨rfl, rfl⟩ := hself
            unfold Source.engine
            rw [engine_setMemory_same, engine_setMemory_same]
            exact Or.inl rfl
          by_cases hj : j = i
          · subst hj
            unfold Source.engine
            rw [engine_setMemory_of_ne hself, engine_setMemory_of_ne hself]
            cases rtc with
            | none => exact Or.inl (hi kind)
            | some record =>
              by_cases hkind : kind = .rtc
              · subst hkind
                have hsixteen : record.length = 16 := legacy_record hsource
                have hlength : ((l'.engine.memory j .rtc).getD []).length = record.length := by
                  rw [hi]
                  exact (hrecord record rfl).symm
                cases hlive : l'.engine.memory j .rtc with
                | none =>
                  rw [hlive] at hlength
                  exact absurd (hlength.trans hsixteen) (by simp)
                | some fresh =>
                  rw [hlive] at hlength
                  refine Or.inr ⟨rfl, (slots_ahead h.here.ahead).2.2 rfl, hboth ?_ j, record, fresh, ?_,
                    hlength, ?_, ?_, hwritten.2 record rfl⟩
                  · rw [← hfamily, h.here.engine]
                  · rintro rfl
                    exact absurd hsixteen (by simp)
                  · exact (engine_setMemory_of_ne (by simp) _).trans (engine_setMemory_same _ _ _ _)
                  · exact (engine_setMemory_of_ne (by simp) _).trans hlive
              · exact Or.inl ((hi kind).trans
                  (engine_setMemory_of_ne (fun heq => hkind heq.2) record).symm)
          · have hkeep (e : Engine) (bytes : List Byte) (k : MemoryKind) :
                (e.setMemory i k bytes).memory j kind = e.memory j kind :=
              engine_setMemory_of_ne (fun heq => hj heq.1) bytes
            have hkeeplegacy : ((Source.legacy legacy battery rtc).engine l.engine i .saveRam
                data.length).memory j kind = l.engine.memory j kind := by
              unfold Source.engine
              cases rtc with
              | none => exact hkeep _ _ _
              | some record => exact (hkeep _ _ _).trans (hkeep _ _ _)
            rw [hkeep, hkeeplegacy]
            rcases h.memory j kind with hsame | hun
            · exact Or.inl hsame
            obtain ⟨rfl, hunheard⟩ := hun
            refine Or.inr ⟨rfl, ?_⟩
            obtain ⟨record', fresh', hne', hlength', hrecord', hfresh', hfile'⟩ := hunheard.record
            refine ⟨(List.mem_cons.mp hunheard.ahead).resolve_left fun heq => hj (Prod.mk.inj heq).1,
              hunheard.managed, record', fresh', hne', hlength', ?_, ?_, ?_⟩
            · exact hkeeplegacy.trans hrecord'
            · exact (hkeep _ _ _).trans hfresh'
            · exact (hmachine j hj).trans hfile'
        · change l'.files p = _
          by_cases hself : ∀ kind, kind ≠ .firmware → p ≠ paths.path i kind
          · exact (hothers p hp hself).trans (hloads.file_of_ne fun _ => hself).symm
          · push Not at hself
            obtain ⟨kind, hkind, rfl⟩ := hself
            rw [hleft kind hkind, ← hsettled kind hkind]
            cases kind with
            | saveRam => exact hsram
            | rtc => exact hrtc
            | firmware => exact absurd rfl hkind

/-- **The loop begun anew** on what a cut left succeeds, and ends with the same memory and files. -/
theorem load_resumed (hl : paths.Layout firmware directory stem)
    (hnamed : ∀ i kind, managed i kind = true → kind = .firmware → firmware = true)
    (hboth : e.family = .mgba → ∀ i, managed i .rtc = true) (hfresh : Unwritten paths files)
    (hdone : Performed (loadRegion s true paths managed) slots (start e files) lf)
    (hcut : Cut paths files lf.files left) :
    ∃ l', Performed (loadRegion s true paths managed) slots (start e left) l' ∧
      (∀ i kind, l'.engine.memory i kind = lf.engine.memory i kind) ∧ l'.files = lf.files := by
  have hend := writing_of_performed hl hfresh hdone
  have hother (p : Path) (hp : ∀ i kind, kind ≠ .firmware → p ≠ paths.path i kind) :
      left p = files p :=
    (hcut.between p).elim id fun hyes => hyes.trans (hend.standing.others p hp)
  have hstart : Resumed paths managed e files left slots (start e files) (start e left) :=
    { here := Standing.start _ _ _
      there := Standing.start _ _ _
      memory := fun _ _ => Or.inl rfl
      same := fun p hp => hother p fun i kind hkind => hp i kind (slot_mem_slots i .saveRam) hkind }
  have hfollow : ∃ l', Performed (loadRegion s true paths managed) slots (start e left) l' ∧
      (Performed (loadRegion s true paths managed) [] lf lf ∧
        Resumed paths managed e files left [] lf l') := by
    refine hdone.follow (fun rest l l' => Performed (loadRegion s true paths managed) rest l lf ∧
      Resumed paths managed e files left rest l l') [] ?_ ?_
    · rintro ⟨i, kind⟩ rest l l₁ l' ⟨hremaining, h⟩ hload
      have hrest : Performed (loadRegion s true paths managed) rest l₁ lf := by
        cases hremaining with
        | cons hload' hrest =>
          rw [hload] at hload'
          obtain ⟨rfl, -⟩ := Prod.mk.inj hload'
          exact hrest
      have hloads := loadRegion_eq_none.mp hload
      have hstep : ∃ l₂, Loads s true paths managed i kind l' l₂ ∧
          Resumed paths managed e files left rest l₁ l₂ := by
        by_cases hkind : kind = .saveRam
        · subst hkind
          exact h.step_saveRam hl hfresh hcut hother hboth hloads hrest
        · exact h.step_other hl hnamed hkind hloads
      obtain ⟨l₂, hloads', h'⟩ := hstep
      exact ⟨l₂, loadRegion_eq_none.mpr hloads', hrest, h'⟩
    · rw [List.append_nil]
      exact ⟨hdone, hstart⟩
  obtain ⟨l', hdone', -, hresumed⟩ := hfollow
  refine ⟨l', hdone', fun i kind => ?_, funext fun p => hresumed.same p (by simp)⟩
  refine (hresumed.memory i kind).resolve_right fun ⟨_, hunheard⟩ => ?_
  exact absurd hunheard.ahead (by simp)

end Loading

/-! ## A whole initialization -/

section init

variable {s : Setup} {e : Engine} {files left : Files Path} {m : Manager}

/-- An initialization whose loop performs every call. -/
theorem init_of_performed {paths : SavePaths} {owner : Bool} {l : Loading}
    (hpaths : s.paths e = .ok paths) (howner : s.writeOwner (s.managed e paths) = .ok owner)
    (hdone : Performed (Loading.loadRegion s owner paths (s.managed e paths)) Loading.slots
      (Loading.start e files) l) :
    (init s e files).engine = l.engine ∧ (init s e files).files = l.files ∧
      ∃ m, (init s e files).manager = .ok m ∧ m.writeOwner = owner := by
  obtain ⟨hload, herror⟩ := untilFailure_append hdone []
  rw [List.append_nil] at hload herror
  have hload' : (s.load owner paths e files).1 = l := hload
  have herror' : firstError (s.load owner paths e files).2 = none := herror
  unfold init
  rw [hpaths]
  dsimp only
  rw [howner]
  dsimp only
  rw [hload', herror']
  exact ⟨rfl, rfl, _, rfl, rfl⟩

/-- **Imports are crash-safe and repeatable.** Without a canonical `.srm` or `.rtc`, let a session
that owns its files be cut anywhere in its writes. Another initialization on what is left succeeds,
and ends with the SaveRAM, the RTC and the files of one that was not cut; and so does one more, after
an import that was not cut. -/
theorem import_is_crash_safe (hinit : (init s e files).manager = .ok m)
    (howner : m.writeOwner = true)
    (hfresh : ∀ i kind, kind ≠ .firmware → files (m.paths.path i kind) = .missing) :
    (∀ left, files.Interrupted (init s e files).writes left →
      (∃ m', (init s e left).manager = .ok m' ∧ m'.writeOwner = true) ∧
      (∀ i kind, (init s e left).engine.memory i kind = (init s e files).engine.memory i kind) ∧
      (init s e left).files = (init s e files).files) ∧
    let again := init s e (init s e files).files
    (∃ m', again.manager = .ok m' ∧ m'.writeOwner = true) ∧
      (∀ i kind, again.engine.memory i kind = (init s e files).engine.memory i kind) ∧
      again.files = (init s e files).files := by
  obtain ⟨paths, owner, lf, hpaths, howner', hdone, hresult, hm⟩ := init_eq_ok hinit
  obtain rfl : owner = true := by
    rw [hm] at howner
    exact howner
  obtain ⟨-, stem, hl⟩ := paths_layout hpaths
  have hunwritten : Loading.Unwritten paths files := by
    rw [hm] at hfresh
    exact hfresh
  have hwriting := Loading.writing_of_performed hl hunwritten hdone
  have hagain (left : Files Path) (hcut : Cut paths files lf.files left) :
      (∃ m', (init s e left).manager = .ok m' ∧ m'.writeOwner = true) ∧
      (∀ i kind, (init s e left).engine.memory i kind = (init s e files).engine.memory i kind) ∧
      (init s e left).files = (init s e files).files := by
    obtain ⟨l', hdone', hmemory, hfiles⟩ := Loading.load_resumed hl (fun _ _ => managed_firmware)
      (fun hfamily i => Loading.managed_of_mgba hfamily i (by simp)) hunwritten hdone hcut
    obtain ⟨hengine', hfiles', hmanager'⟩ := init_of_performed hpaths howner' hdone'
    rw [hengine', hfiles', hresult]
    exact ⟨hmanager', hmemory, hfiles⟩
  refine ⟨fun left hleft => hagain left ?_, hagain _ ?_⟩
  · obtain ⟨n, rfl⟩ := hleft
    rw [hresult]
    exact hwriting.cut n
  · rw [hresult]
    exact ⟨fun _ => Or.inr rfl, fun _ _ => rfl⟩

end init

/-- A legacy file that is split, and no canonical file. -/
def legacyFiles : Files Path := fun p =>
  if p = "/s/a.sav".toList then .regular (7 :: List.replicate 16 2) else .missing

theorem split_import_is_crash_safe : (init sampleSetup clockEngine legacyFiles).writes.length = 2 ∧
    ∀ left, legacyFiles.Interrupted (init sampleSetup clockEngine legacyFiles).writes left →
      (init sampleSetup clockEngine left).files =
        (init sampleSetup clockEngine legacyFiles).files := by
  obtain ⟨m, hm, howner, hfresh⟩ : ∃ m, (init sampleSetup clockEngine legacyFiles).manager = .ok m ∧
      m.writeOwner = true ∧
      ∀ i kind, kind ≠ .firmware → legacyFiles (m.paths.path i kind) = .missing :=
    of_computed (by decide +kernel)
  refine ⟨by decide +kernel, fun left hleft => ?_⟩
  exact ((import_is_crash_safe hm howner hfresh).1 left hleft).2.2

end DualBoy.Saves
