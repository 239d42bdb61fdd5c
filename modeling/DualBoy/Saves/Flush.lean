import DualBoy.Saves.Manager
import DualBoy.Saves.Region

/-!
# A flush, region by region

What a flush does to each core-managed region, whether it returns true or stops at an error:
nothing, or the region's turn (`Region.turn`), which is the region's own affair as long as the paths
of the session are distinct.

* `flush_cases`: a flush of a manager that owns its files has performed all the turns, or those
  before the first that failed.
* `Flushed`: what is left of that for every region.
-/

namespace DualBoy.Saves

open DualBoy.Lib

/-- No two core-managed regions have one path. -/
def Manager.Distinct (m : Manager) : Prop :=
  ∀ i kind j kind', m.coreManaged i kind = true → m.coreManaged j kind' = true →
    m.paths.path i kind = m.paths.path j kind' → i = j ∧ kind = kind'

namespace World

/-- The live bytes of a region. -/
def data (w : World) (i : Fin 2) (kind : MemoryKind) : List Byte :=
  (w.engine.memory i kind).getD []

/-- A region of the world, with what is known of its extent. -/
def region (known : Fin 2 → MemoryKind → Option Nat) (w : World) (i : Fin 2) (kind : MemoryKind) :
    Region where
  data := w.data i kind
  report := known i kind
  file := w.files (w.manager.paths.path i kind)
  tracking := w.manager.tracked i kind

/-- A flush has something to decide about the region: it is core-managed, not empty, and the engine
reports its extent. -/
structure Due (w : World) (i : Fin 2) (kind : MemoryKind) (extent : Nat) : Prop where
  managed : w.manager.coreManaged i kind = true
  nonempty : w.data i kind ≠ []
  reports : w.engine.persistentExtent i kind (w.data i kind).length = .ok (some extent)

/-- What a flush asks of the engine about the region does not fail. -/
def Passes (w : World) (i : Fin 2) (kind : MemoryKind) : Prop :=
  w.manager.coreManaged i kind = false ∨ ∃ data, w.engine.memory i kind = some data ∧
    (data = [] ∨ ∃ report, w.engine.persistentExtent i kind data.length = .ok report)

/-- The tracking a flush decides by. -/
def learned (w : World) (i : Fin 2) (kind : MemoryKind) (extent : Nat) : Tracking :=
  (w.manager.tracked i kind).learnExtent (w.data i kind) extent (w.engine.dirty i)

/-- The flush writes the region. -/
def Writes (w : World) (i : Fin 2) (kind : MemoryKind) (extent : Nat) : Prop :=
  (w.learned i kind extent).NeedsWrite (w.data i kind) extent

instance (w : World) (i : Fin 2) (kind : MemoryKind) (extent : Nat) :
    Decidable (w.Writes i kind extent) :=
  inferInstanceAs (Decidable (Tracking.NeedsWrite _ _ _))

/-- The write of the region. -/
def attempt (w : World) (disk : Disk) (i : Fin 2) (kind : MemoryKind) (extent : Nat) : Attempt where
  machine := i
  kind := kind
  extent := extent
  before := w.files (w.manager.paths.path i kind)
  bytes := (w.data i kind).take ((w.learned i kind extent).flushSize extent)
  result := disk.writeFileAtomic (w.manager.paths.path i kind)

/-- The region after its turn. -/
def turned (known : Fin 2 → MemoryKind → Option Nat) (w : World) (disk : Disk) (i : Fin 2)
    (kind : MemoryKind) (extent : Nat) : Region :=
  (w.region known i kind).turn extent (w.engine.dirty i)
    (disk.writeFileAtomic (w.manager.paths.path i kind)) disk.malloc

/-- The world with another file and tracking for one region. -/
def setRegion (w : World) (i : Fin 2) (kind : MemoryKind) (r : Region) : World :=
  { w.setTracked i kind r.tracking with
    files := w.files.set (w.manager.paths.path i kind) r.file }

variable {known : Fin 2 → MemoryKind → Option Nat} {w w' : World} {disk : Disk} {i j : Fin 2}
  {kind kind' : MemoryKind} {extent : Nat}

/-! ## One region -/

theorem setTracked_setTracked (w : World) (i : Fin 2) (kind : MemoryKind) (t t' : Tracking) :
    (w.setTracked i kind t).setTracked i kind t' = w.setTracked i kind t' := by
  have htracked : (fun j k => if j = i ∧ k = kind then t'
      else if j = i ∧ k = kind then t else w.manager.tracked j k) =
      fun j k => if j = i ∧ k = kind then t' else w.manager.tracked j k := by
    funext j k
    by_cases h : j = i ∧ k = kind
    · rw [if_pos h, if_pos h]
    · rw [if_neg h, if_neg h, if_neg h]
  unfold setTracked
  dsimp only
  rw [htracked]

theorem setTracked_tracked (w : World) (i : Fin 2) (kind : MemoryKind) (t : Tracking) :
    (w.setTracked i kind t).manager.tracked i kind = t := if_pos ⟨rfl, rfl⟩

theorem region_setRegion (w : World) (i : Fin 2) (kind : MemoryKind) {r : Region}
    (hdata : r.data = w.data i kind) (hreport : r.report = known i kind) :
    (w.setRegion i kind r).region known i kind = r := by
  obtain ⟨data, report, file, tracking⟩ := r
  obtain rfl : data = w.data i kind := hdata
  obtain rfl : report = known i kind := hreport
  unfold region
  congr 1
  · exact Files.set_self _ _ _
  · exact setTracked_tracked _ _ _ _

theorem Due.extent_eq {extent' : Nat} (h : w.Due i kind extent) (h' : w.Due i kind extent') :
    extent = extent' :=
  Option.some.inj (Except.ok.inj (h.reports.symm.trans h'.reports))

/-- A region's turn leaves the other regions alone. -/
theorem region_setRegion_of_ne (hdistinct : w.manager.Distinct)
    (hi : w.manager.coreManaged i kind = true) (hj : w.manager.coreManaged j kind' = true)
    (hne : ¬(j = i ∧ kind' = kind)) (r : Region) :
    (w.setRegion i kind r).region known j kind' = w.region known j kind' := by
  unfold region
  congr 1
  · exact Files.set_of_ne (fun hpath => hne (hdistinct _ _ _ _ hj hi hpath)) _ _
  · exact if_neg hne

theorem turned_data (w : World) (disk : Disk) (i : Fin 2) (kind : MemoryKind) (extent : Nat) :
    (w.turned known disk i kind extent).data = w.data i kind := by
  unfold turned Region.turn
  dsimp only
  split <;> rfl

theorem turned_report (w : World) (disk : Disk) (i : Fin 2) (kind : MemoryKind) (extent : Nat) :
    (w.turned known disk i kind extent).report = known i kind := by
  unfold turned Region.turn
  dsimp only
  split <;> rfl

theorem memory_of_data_ne (h : w.data i kind ≠ []) :
    ∃ byte bytes, w.engine.memory i kind = some (byte :: bytes) ∧ w.data i kind = byte :: bytes := by
  unfold data at h ⊢
  cases hmemory : w.engine.memory i kind with
  | none =>
    rw [hmemory] at h
    exact absurd rfl h
  | some bytes =>
    cases bytes with
    | nil =>
      rw [hmemory] at h
      exact absurd rfl h
    | cons byte bytes => exact ⟨byte, bytes, rfl, rfl⟩

/-- **A region's turn.** -/
theorem flushRegion_of_due (known : Fin 2 → MemoryKind → Option Nat) (disk : Disk)
    (h : w.Due i kind extent) :
    (w.flushRegion disk i kind).1 =
      { w.setRegion i kind (w.turned known disk i kind extent) with
        log := if w.Writes i kind extent then w.attempt disk i kind extent :: w.log else w.log } := by
  obtain ⟨byte, bytes, hmemory, hdata⟩ := memory_of_data_ne h.nonempty
  have hreports := h.reports
  unfold flushRegion
  rw [if_neg (by simp [h.managed]), hmemory]
  dsimp only
  rw [← hdata, hreports]
  dsimp only
  change (if w.Writes i kind extent then
      (w.setTracked i kind (w.learned i kind extent)).writeRegion disk i kind (w.data i kind) extent
    else (w.setTracked i kind (w.learned i kind extent), none)).1 = _
  by_cases hwrites : w.Writes i kind extent
  · rw [if_pos hwrites, if_pos hwrites]
    unfold writeRegion
    rw [setTracked_tracked]
    by_cases hok : disk.writeFileAtomic (w.manager.paths.path i kind) = .ok
    · have hturn : w.turned known disk i kind extent =
          { w.region known i kind with
            file := .regular (w.attempt disk i kind extent).bytes
            tracking := (((w.learned i kind extent).recordWrite (w.data i kind)
              ((w.learned i kind extent).flushSize extent)).replaceBaseline disk.malloc
                (w.data i kind)).1 } := if_pos ⟨hwrites, hok⟩
      rw [hturn]
      dsimp only [setTracked]
      rw [if_pos hok]
      unfold setRegion
      rw [← setTracked_setTracked w i kind (w.learned i kind extent)]
      rfl
    · have hturn : w.turned known disk i kind extent =
          { w.region known i kind with tracking := w.learned i kind extent } :=
        if_neg fun h => hok h.2
      rw [hturn]
      dsimp only [setTracked]
      rw [if_neg hok]
      unfold setRegion
      dsimp only [region]
      rw [Files.set_same]
      rfl
  · have hturn : w.turned known disk i kind extent =
        { w.region known i kind with tracking := w.learned i kind extent } :=
      if_neg fun h => hwrites h.1
    rw [if_neg hwrites, if_neg hwrites, hturn]
    unfold setRegion
    dsimp only [region]
    rw [Files.set_same]
    rfl

/-- A turn that does not fail has written what it had to write; one without a write does not fail. -/
theorem flushRegion_outcome (h : w.Due i kind extent) :
    ((w.flushRegion disk i kind).2 = none → w.Writes i kind extent →
      disk.writeFileAtomic (w.manager.paths.path i kind) = .ok) ∧
    (¬w.Writes i kind extent → (w.flushRegion disk i kind).2 = none) := by
  obtain ⟨byte, bytes, hmemory, hdata⟩ := memory_of_data_ne h.nonempty
  have hreports := h.reports
  unfold flushRegion
  rw [if_neg (by simp [h.managed]), hmemory]
  dsimp only
  rw [← hdata, hreports]
  change ((if w.Writes i kind extent then
      (w.setTracked i kind (w.learned i kind extent)).writeRegion disk i kind (w.data i kind) extent
    else (w.setTracked i kind (w.learned i kind extent), none)).2 = none → _) ∧
    (_ → (if w.Writes i kind extent then
      (w.setTracked i kind (w.learned i kind extent)).writeRegion disk i kind (w.data i kind) extent
    else (w.setTracked i kind (w.learned i kind extent), none)).2 = none)
  by_cases hwrites : w.Writes i kind extent
  · rw [if_pos hwrites]
    refine ⟨fun hnone _ => ?_, fun hno => absurd hwrites hno⟩
    by_contra hfailed
    unfold writeRegion at hnone
    dsimp only [setTracked] at hnone
    rw [if_neg hfailed] at hnone
    exact absurd hnone (by simp)
  · rw [if_neg hwrites]
    exact ⟨fun _ hyes => absurd hyes hwrites, fun _ => rfl⟩

/-- Without anything to decide a turn changes nothing. -/
theorem flushRegion_of_not_due (h : ∀ extent, ¬w.Due i kind extent) :
    (w.flushRegion disk i kind).1 = w := by
  unfold flushRegion
  by_cases hmanaged : w.manager.coreManaged i kind = false
  · rw [if_pos hmanaged]
  · rw [if_neg hmanaged]
    have hdata : w.data i kind = (w.engine.memory i kind).getD [] := rfl
    cases hmemory : w.engine.memory i kind with
    | none => rfl
    | some bytes =>
      rw [hmemory] at hdata
      cases bytes with
      | nil => rfl
      | cons byte bytes =>
        dsimp only
        cases hreports : w.engine.persistentExtent i kind (byte :: bytes).length with
        | error error => rfl
        | ok report =>
          cases report with
          | none => rfl
          | some extent =>
            refine absurd ⟨by simpa using hmanaged, ?_, ?_⟩ (h extent)
            · rw [hdata]
              simp
            · rw [hdata]
              exact hreports

theorem passes_of_outcome (h : (w.flushRegion disk i kind).2 = none) : w.Passes i kind := by
  unfold flushRegion at h
  by_cases hmanaged : w.manager.coreManaged i kind = false
  · exact Or.inl hmanaged
  · rw [if_neg hmanaged] at h
    cases hmemory : w.engine.memory i kind with
    | none =>
      rw [hmemory] at h
      exact absurd h (by simp)
    | some data =>
      refine Or.inr ⟨data, hmemory, ?_⟩
      cases data with
      | nil => exact Or.inl rfl
      | cons byte bytes =>
        rw [hmemory] at h
        dsimp only at h
        cases hreports : w.engine.persistentExtent i kind (byte :: bytes).length with
        | error error =>
          rw [hreports] at h
          exact absurd h (by simp)
        | ok report => exact Or.inr ⟨report, rfl⟩

theorem outcome_of_passes (disk : Disk) (h : w.Passes i kind)
    (hno : ∀ extent, w.Due i kind extent → ¬w.Writes i kind extent) :
    (w.flushRegion disk i kind).2 = none := by
  by_cases hdue : ∃ extent, w.Due i kind extent
  · obtain ⟨extent, hdue⟩ := hdue
    exact (flushRegion_outcome hdue).2 (hno extent hdue)
  · unfold flushRegion
    by_cases hmanaged : w.manager.coreManaged i kind = false
    · rw [if_pos hmanaged]
    · rw [if_neg hmanaged]
      obtain ⟨data, hmemory, hdata⟩ := h.resolve_left hmanaged
      rw [hmemory]
      cases data with
      | nil => rfl
      | cons byte bytes =>
        obtain ⟨report, hreports⟩ := hdata.resolve_left (by simp)
        dsimp only
        rw [hreports]
        cases report with
        | none => rfl
        | some extent =>
          have hlive : w.data i kind = byte :: bytes := by
            unfold data
            rw [hmemory]
            rfl
          refine absurd ⟨extent, by simpa using hmanaged, ?_, ?_⟩ hdue
          · rw [hlive]
            simp
          · rw [hlive]
            exact hreports

theorem data_congr (h : w'.engine.memory = w.engine.memory) : w'.data = w.data := by
  funext i kind
  unfold data
  rw [h]

/-- What is due depends on the ownership, the memory and the reports only. -/
theorem due_congr (hmanaged : w'.manager.coreManaged = w.manager.coreManaged)
    (hmemory : w'.engine.memory = w.engine.memory)
    (hextents : w'.engine.persistentMemoryExtent = w.engine.persistentMemoryExtent) :
    w'.Due i kind extent ↔ w.Due i kind extent := by
  have hdata := data_congr hmemory
  have hextent := Engine.persistentExtent_congr hextents
  constructor
  · intro hdue
    have hreports := hdue.reports
    rw [hdata, hextent] at hreports
    exact ⟨hmanaged ▸ hdue.managed, hdata ▸ hdue.nonempty, hreports⟩
  · intro hdue
    have hreports := hdue.reports
    rw [← hdata, ← hextent] at hreports
    exact ⟨hmanaged ▸ hdue.managed, hdata ▸ hdue.nonempty, hreports⟩

theorem passes_congr (hmanaged : w'.manager.coreManaged = w.manager.coreManaged)
    (hmemory : w'.engine.memory = w.engine.memory)
    (hextents : w'.engine.persistentMemoryExtent = w.engine.persistentMemoryExtent)
    (h : w.Passes i kind) : w'.Passes i kind := by
  unfold Passes at h ⊢
  rw [hmanaged, hmemory, Engine.persistentExtent_congr hextents]
  exact h

/-! ## A whole flush -/

/-- No turn is made twice, and a machine's dirty flag stays until its regions had their turns. -/
theorem turns_ahead {c : Turn} {rest : List Turn} (h : c :: rest ∈ turns.tails) :
    rest ∈ turns.tails ∧ c ∉ rest ∧ ∀ i kind, c = .region i kind → .clearDirty i ∈ rest := by
  simp only [turns, List.tails, List.mem_cons, List.cons.injEq, List.not_mem_nil, or_false,
    reduceCtorEq] at h
  rcases h with ⟨rfl, rfl⟩ | ⟨rfl, rfl⟩ | ⟨rfl, rfl⟩ | ⟨rfl, rfl⟩ | ⟨rfl, rfl⟩ | ⟨rfl, rfl⟩ |
    ⟨rfl, rfl⟩ | ⟨rfl, rfl⟩
  all_goals
    refine ⟨by decide, by decide, fun i kind hc => ?_⟩
    cases hc
    try decide

theorem region_mem_turns : ∀ i kind, Turn.region i kind ∈ turns
  | i, .saveRam => by revert i; decide
  | i, .rtc => by revert i; decide
  | i, .firmware => by revert i; decide

/-- Where a flush stands with the turns `rest` still ahead: the regions that had their turn are
turned, without a failure unless it is the turn that `failed`, and nothing else is touched. -/
structure Flushing (known : Fin 2 → MemoryKind → Option Nat) (disk : Disk) (w : World)
    (rest : List Turn) (failed : Option Turn) (w' : World) : Prop where
  ahead : rest ∈ turns.tails
  manager : w'.manager = { w.manager with tracked := w'.manager.tracked }
  memory : w'.engine.memory = w.engine.memory
  extents : w'.engine.persistentMemoryExtent = w.engine.persistentMemoryExtent
  loaded : w'.engine.loaded = w.engine.loaded
  dirty : ∀ i, .clearDirty i ∈ rest → w'.engine.dirty i = w.engine.dirty i
  waiting : ∀ i kind, w.manager.coreManaged i kind = true → .region i kind ∈ rest →
    w'.region known i kind = w.region known i kind
  idle : ∀ i kind, w.manager.coreManaged i kind = true → (∀ extent, ¬w.Due i kind extent) →
    w'.region known i kind = w.region known i kind
  turned : ∀ i kind extent, w.Due i kind extent → .region i kind ∉ rest →
    w'.region known i kind = w.turned known disk i kind extent ∧
      (failed ≠ some (.region i kind) → w.Writes i kind extent →
        disk.writeFileAtomic (w.manager.paths.path i kind) = .ok)
  passes : ∀ i kind, .region i kind ∉ rest → failed ≠ some (.region i kind) → w.Passes i kind
  log : ∃ new, w'.log = new ++ w.log ∧ ∀ a, a ∈ new ↔ ∃ i kind extent, .region i kind ∉ rest ∧
    w.Due i kind extent ∧ w.Writes i kind extent ∧ a = w.attempt disk i kind extent

theorem Flushing.start (known : Fin 2 → MemoryKind → Option Nat) (disk : Disk) (w : World) :
    Flushing known disk w turns none w where
  ahead := by simp [turns, List.tails]
  manager := rfl
  memory := rfl
  extents := rfl
  loaded := rfl
  dirty := fun _ _ => rfl
  waiting := fun _ _ _ _ => rfl
  idle := fun _ _ _ _ => rfl
  turned := fun i kind _ _ hnot => absurd (region_mem_turns i kind) hnot
  passes := fun i kind hnot => absurd (region_mem_turns i kind) hnot
  log := ⟨[], rfl, by simp [region_mem_turns]⟩

section Flushing

variable {rest : List Turn} {failed : Option Turn} {w₁ w₂ : World} {c : Turn} {outcome : Option String}

theorem Flushing.data_eq (h : Flushing known disk w rest failed w₁) : w₁.data = w.data :=
  data_congr h.memory

theorem Flushing.path_eq (h : Flushing known disk w rest failed w₁) :
    w₁.manager.paths = w.manager.paths := by
  rw [h.manager]

theorem Flushing.managed_eq (h : Flushing known disk w rest failed w₁) :
    w₁.manager.coreManaged = w.manager.coreManaged := by
  rw [h.manager]

theorem Flushing.due_iff (h : Flushing known disk w rest failed w₁) :
    w₁.Due i kind extent ↔ w.Due i kind extent :=
  due_congr h.managed_eq h.memory h.extents

/-- When its turn comes, a region is as the flush found it. -/
theorem Flushing.same (h : Flushing known disk w (.region i kind :: rest) failed w₁)
    (hmanaged : w.manager.coreManaged i kind = true) (extent : Nat) :
    w₁.turned known disk i kind extent = w.turned known disk i kind extent ∧
      (w₁.Writes i kind extent ↔ w.Writes i kind extent) ∧
      w₁.attempt disk i kind extent = w.attempt disk i kind extent := by
  have hregion := h.waiting i kind hmanaged List.mem_cons_self
  have hdirty := h.dirty i (List.mem_cons_of_mem _ ((turns_ahead h.ahead).2.2 i kind rfl))
  have htracked : w₁.manager.tracked i kind = w.manager.tracked i kind :=
    congrArg Region.tracking hregion
  have hfile : w₁.files (w₁.manager.paths.path i kind) = w.files (w.manager.paths.path i kind) :=
    congrArg Region.file hregion
  have hlearned : w₁.learned i kind extent = w.learned i kind extent := by
    unfold learned
    rw [htracked, h.data_eq, hdirty]
  refine ⟨?_, ?_, ?_⟩
  · unfold World.turned
    rw [hregion, hdirty, h.path_eq]
  · unfold Writes
    rw [hlearned, h.data_eq]
  · unfold attempt
    rw [hlearned, h.data_eq, hfile, h.path_eq]

theorem Flushing.clearDirty (h : Flushing known disk w (.clearDirty i :: rest) none w₁) :
    Flushing known disk w rest failed { w₁ with engine := w₁.engine.clearDirty i } := by
  obtain ⟨hahead, hnotin, -⟩ := turns_ahead h.ahead
  have hmemory : (w₁.engine.clearDirty i).memory = w₁.engine.memory := by
    unfold Engine.clearDirty
    split <;> rfl
  have hregion (j : Fin 2) (kind : MemoryKind) :
      ({ w₁ with engine := w₁.engine.clearDirty i } : World).region known j kind =
        w₁.region known j kind := by
    unfold region data
    rw [hmemory]
  exact
    { ahead := hahead
      manager := h.manager
      memory := hmemory.trans h.memory
      extents := by
        rw [← h.extents]
        unfold Engine.clearDirty
        split <;> rfl
      loaded := by
        rw [← h.loaded]
        unfold Engine.clearDirty
        split <;> rfl
      dirty := by
        intro j hj
        rw [← h.dirty j (List.mem_cons_of_mem _ hj)]
        have hne : j ≠ i := by
          rintro rfl
          exact hnotin hj
        unfold Engine.clearDirty
        split
        · unfold Engine.dirty
          cases w₁.engine.memoryDirty with
          | none => rfl
          | some dirty => exact if_neg hne
        · rfl
      waiting := fun j kind hj hin => by
        rw [hregion]
        exact h.waiting j kind hj (List.mem_cons_of_mem _ hin)
      idle := fun j kind hj hno => by
        rw [hregion]
        exact h.idle j kind hj hno
      turned := fun j kind extent hdue hnot => by
        rw [hregion]
        obtain ⟨hturned, hok⟩ := h.turned j kind extent hdue (by simpa using hnot)
        exact ⟨hturned, fun _ => hok (by simp)⟩
      passes := fun j kind hnot _ => h.passes j kind (by simpa using hnot) (by simp)
      log := by
        obtain ⟨new, hlog, hnew⟩ := h.log
        refine ⟨new, hlog, fun a => (hnew a).trans ?_⟩
        simp only [List.mem_cons, reduceCtorEq, false_or] }

theorem Flushing.region (hdistinct : w.manager.Distinct)
    (h : Flushing known disk w (.region i kind :: rest) none w₁) (failed : Option Turn)
    (hfailed : failed ≠ some (.region i kind) → (w₁.flushRegion disk i kind).2 = none) :
    Flushing known disk w rest failed (w₁.flushRegion disk i kind).1 := by
  obtain ⟨hahead, hnotin, -⟩ := turns_ahead h.ahead
  have hdistinct₁ : w₁.manager.Distinct := by
    unfold Manager.Distinct
    rw [h.path_eq, h.managed_eq]
    exact hdistinct
  have hpasses (j : Fin 2) (kind' : MemoryKind) (hnot : Turn.region j kind' ∉ rest)
      (hsuccess : failed ≠ some (.region j kind')) : w.Passes j kind' := by
    by_cases heq : Turn.region j kind' = .region i kind
    · have hpass := passes_of_outcome (hfailed (heq ▸ hsuccess))
      obtain ⟨rfl, rfl⟩ := Turn.region.inj heq
      exact passes_congr h.managed_eq.symm h.memory.symm h.extents.symm hpass
    · exact h.passes j kind' (by simp [heq, hnot]) (by simp)
  obtain ⟨new, hlog, hnew⟩ := h.log
  by_cases hno : ∀ extent, ¬w₁.Due i kind extent
  · rw [flushRegion_of_not_due hno]
    exact
      { h with
        passes := hpasses
        log := by
          refine ⟨new, hlog, fun a => (hnew a).trans ?_⟩
          constructor
          · rintro ⟨j, kind', extent, hnot, hattempt⟩
            exact ⟨j, kind', extent, fun hin => hnot (List.mem_cons_of_mem _ hin), hattempt⟩
          · rintro ⟨j, kind', extent, hnot, hdue, hattempt⟩
            refine ⟨j, kind', extent, ?_, hdue, hattempt⟩
            rw [List.mem_cons, not_or]
            refine ⟨fun heq => ?_, hnot⟩
            obtain ⟨rfl, rfl⟩ := Turn.region.inj heq
            exact hno extent (h.due_iff.mpr hdue)
        ahead := hahead
        dirty := fun j hj => h.dirty j (List.mem_cons_of_mem _ hj)
        waiting := fun j kind' hj hin => h.waiting j kind' hj (List.mem_cons_of_mem _ hin)
        turned := by
          intro j kind' extent hdue hnot
          have hne : Turn.region j kind' ≠ .region i kind := by
            intro heq
            obtain ⟨rfl, rfl⟩ := Turn.region.inj heq
            exact hno extent (h.due_iff.mpr hdue)
          obtain ⟨hturned, hok⟩ := h.turned j kind' extent hdue (by simp [hne, hnot])
          exact ⟨hturned, fun _ => hok (by simp)⟩ }
  · obtain ⟨extent, hdue₁⟩ := not_forall_not.mp hno
    have hdue := h.due_iff.mp hdue₁
    obtain ⟨hturned, hwrites, hattempt⟩ := h.same hdue.managed extent
    have hworld := flushRegion_of_due known disk hdue₁
    have hmanaged₁ := hdue₁.managed
    have hself : (w₁.flushRegion disk i kind).1.region known i kind =
        w.turned known disk i kind extent := by
      rw [hworld, ← hturned]
      exact region_setRegion w₁ i kind (turned_data _ _ _ _ _) (turned_report _ _ _ _ _)
    have hother (j : Fin 2) (kind' : MemoryKind) (hj : w.manager.coreManaged j kind' = true)
        (hne : ¬(j = i ∧ kind' = kind)) :
        (w₁.flushRegion disk i kind).1.region known j kind' = w₁.region known j kind' := by
      rw [hworld]
      exact region_setRegion_of_ne hdistinct₁ hmanaged₁ (by rw [h.managed_eq]; exact hj) hne _
    exact
      { ahead := hahead
        manager := by
          rw [hworld, show w.manager = { w.manager with tracked := w.manager.tracked } from rfl]
          dsimp only [setRegion, setTracked]
          rw [h.manager]
        memory := by
          rw [hworld]
          exact h.memory
        extents := by
          rw [hworld]
          exact h.extents
        loaded := by
          rw [hworld]
          exact h.loaded
        dirty := fun j hj => by
          rw [hworld]
          exact h.dirty j (List.mem_cons_of_mem _ hj)
        waiting := by
          intro j kind' hj hin
          rw [hother j kind' hj (by rintro ⟨rfl, rfl⟩; exact hnotin hin)]
          exact h.waiting j kind' hj (List.mem_cons_of_mem _ hin)
        idle := by
          intro j kind' hj hnodue
          rw [hother j kind' hj (by rintro ⟨rfl, rfl⟩; exact hnodue extent hdue)]
          exact h.idle j kind' hj hnodue
        turned := by
          intro j kind' extent' hdue' hnot
          by_cases heq : j = i ∧ kind' = kind
          · obtain ⟨rfl, rfl⟩ := heq
            obtain rfl := hdue.extent_eq hdue'
            refine ⟨hself, fun hsuccess hw => ?_⟩
            rw [← h.path_eq]
            exact (flushRegion_outcome hdue₁).1 (hfailed hsuccess) (hwrites.mpr hw)
          · have hne : Turn.region j kind' ≠ .region i kind := fun h => heq (Turn.region.inj h)
            rw [hother j kind' hdue'.managed heq]
            obtain ⟨hturned', hok⟩ := h.turned j kind' extent' hdue' (by simp [hne, hnot])
            exact ⟨hturned', fun _ => hok (by simp)⟩
        passes := hpasses
        log := by
          rw [hworld]
          by_cases hw : w₁.Writes i kind extent
          · refine ⟨w.attempt disk i kind extent :: new, by simp [hw, hlog, hattempt], fun a => ?_⟩
            rw [List.mem_cons, hnew a]
            constructor
            · rintro (rfl | ⟨j, kind', extent', hnot, hattempt'⟩)
              · exact ⟨i, kind, extent, hnotin, hdue, hwrites.mp hw, rfl⟩
              · exact ⟨j, kind', extent', fun hin => hnot (List.mem_cons_of_mem _ hin), hattempt'⟩
            · rintro ⟨j, kind', extent', hnot, hdue', hattempt'⟩
              by_cases heq : Turn.region j kind' = .region i kind
              · obtain ⟨rfl, rfl⟩ := Turn.region.inj heq
                obtain rfl := hdue.extent_eq hdue'
                exact Or.inl hattempt'.2
              · exact Or.inr ⟨j, kind', extent', by simp [heq, hnot], hdue', hattempt'⟩
          · refine ⟨new, by simp [hw, hlog], fun a => (hnew a).trans ?_⟩
            constructor
            · rintro ⟨j, kind', extent', hnot, hattempt'⟩
              exact ⟨j, kind', extent', fun hin => hnot (List.mem_cons_of_mem _ hin), hattempt'⟩
            · rintro ⟨j, kind', extent', hnot, hdue', hw', hattempt'⟩
              refine ⟨j, kind', extent', ?_, hdue', hw', hattempt'⟩
              rw [List.mem_cons, not_or]
              refine ⟨fun heq => ?_, hnot⟩
              obtain ⟨rfl, rfl⟩ := Turn.region.inj heq
              obtain rfl := hdue.extent_eq hdue'
              exact hw (hwrites.mpr hw') }

/-- **One turn of a flush.** -/
theorem Flushing.turn (hdistinct : w.manager.Distinct)
    (h : Flushing known disk w (c :: rest) none w₁) (hc : flushTurn disk c w₁ = (w₂, outcome))
    (failed : Option Turn) (hfailed : failed ≠ some c → outcome = none) : Flushing known disk w rest failed w₂ := by
  cases c with
  | region i kind =>
    have hpair : w₁.flushRegion disk i kind = (w₂, outcome) := hc
    have hstep := h.region hdistinct failed (by rw [hpair]; exact hfailed)
    rw [hpair] at hstep
    exact hstep
  | clearDirty i =>
    obtain ⟨rfl, rfl⟩ := Prod.mk.inj hc
    exact h.clearDirty

/-- After turns that all succeeded, the others are ahead. -/
theorem Flushing.of_performed (known : Fin 2 → MemoryKind → Option Nat)
    (hdistinct : w.manager.Distinct) {before after : List Turn}
    (h : Performed (flushTurn disk) before w w₁) (hturns : turns = before ++ after) :
    Flushing known disk w after none w₁ := by
  refine h.invariant (fun rest w' => Flushing known disk w rest none w') after ?_ ?_
  · intro c rest w' w'' hflushing hc
    exact hflushing.turn hdistinct hc none fun _ => rfl
  · rw [← hturns]
    exact Flushing.start known disk w

end Flushing

/-- The manager flushes: it is initialized and owns its files, and a session is loaded. -/
structure Active (w : World) : Prop where
  initialized : w.manager.initialized = true
  writeOwner : w.manager.writeOwner = true
  loaded : w.engine.loaded = true

theorem flush_of_not_active (h : ¬w.Active) (disk : Disk) : w.flush disk = (w, none) := by
  unfold flush
  refine if_pos ?_
  by_contra hno
  simp only [not_or, Bool.not_eq_false] at hno
  exact h ⟨hno.1, hno.2.1, hno.2.2⟩

/-- **A flush performs all the turns, or those before the first that fails.** The turns that are
known to succeed are not the ones to fail. -/
theorem flush_cases (hactive : w.Active) (disk : Disk) {before rest : List Turn} {w₁ : World}
    (hturns : turns = before ++ rest) (hbefore : Performed (flushTurn disk) before w w₁) :
    (∃ w₂, w.flush disk = ({ w₂ with manager := { w₂.manager with framesSinceFlush := 0 } }, none) ∧
      Performed (flushTurn disk) turns w w₂) ∨
    ∃ mid c after w₂ e, rest = mid ++ c :: after ∧ Performed (flushTurn disk) (before ++ mid) w w₂ ∧
      flushTurn disk c w₂ = ((w.flush disk).1, some e) ∧ (w.flush disk).2 = some e := by
  have hrefused : ¬(w.manager.initialized = false ∨ w.manager.writeOwner = false ∨
      w.engine.loaded = false) := by
    simp [hactive.initialized, hactive.writeOwner, hactive.loaded]
  obtain ⟨hstate, houtcome⟩ := untilFailure_append hbefore rest
  rw [← hturns] at hstate houtcome
  have hflush : w.flush disk = _ := if_neg hrefused
  dsimp only at hflush
  rw [hstate, houtcome] at hflush
  rcases untilFailure_cases (flushTurn disk) rest w₁ with ⟨hnone, hdone⟩ |
    ⟨mid, c, after, w₂, e, hrest, hdone, hc, herror⟩
  · rw [hnone] at hflush
    refine Or.inl ⟨_, hflush, ?_⟩
    rw [hturns]
    exact hbefore.append hdone
  · rw [herror] at hflush
    refine Or.inr ⟨mid, c, after, w₂, e, hrest, hbefore.append hdone, ?_, ?_⟩
    · rw [hflush]
      exact hc
    · rw [hflush]

/-- What a flush leaves, failed or not. -/
structure Flushed (known : Fin 2 → MemoryKind → Option Nat) (disk : Disk) (w w' : World) : Prop where
  manager : ∃ tracked frames,
    w'.manager = { w.manager with tracked := tracked, framesSinceFlush := frames }
  memory : w'.engine.memory = w.engine.memory
  extents : w'.engine.persistentMemoryExtent = w.engine.persistentMemoryExtent
  loaded : w'.engine.loaded = w.engine.loaded
  region : ∀ i kind, w.manager.coreManaged i kind = true →
    w'.region known i kind = w.region known i kind ∨
      ∃ extent, w.Due i kind extent ∧ w'.region known i kind = w.turned known disk i kind extent
  log : ∃ new, w'.log = new ++ w.log ∧ ∀ a ∈ new, ∃ i kind extent, w.Due i kind extent ∧
    w.Writes i kind extent ∧ a = w.attempt disk i kind extent

theorem Flushing.flushed {rest : List Turn} {failed : Option Turn}
    (h : Flushing known disk w rest failed w') : Flushed known disk w w' where
  manager := ⟨_, _, h.manager⟩
  memory := h.memory
  extents := h.extents
  loaded := h.loaded
  region := by
    intro i kind hmanaged
    by_cases hno : ∀ extent, ¬w.Due i kind extent
    · exact Or.inl (h.idle i kind hmanaged hno)
    · obtain ⟨extent, hdue⟩ := not_forall_not.mp hno
      by_cases hin : Turn.region i kind ∈ rest
      · exact Or.inl (h.waiting i kind hmanaged hin)
      · exact Or.inr ⟨extent, hdue, (h.turned i kind extent hdue hin).1⟩
  log := by
    obtain ⟨new, hlog, hnew⟩ := h.log
    refine ⟨new, hlog, fun a ha => ?_⟩
    obtain ⟨i, kind, extent, -, hattempt⟩ := (hnew a).mp ha
    exact ⟨i, kind, extent, hattempt⟩

/-- The frame counter is none of the regions' business. -/
theorem Flushed.setFrames (h : Flushed known disk w w') (frames : BitVec 64) :
    Flushed known disk w
      { w' with manager := { w'.manager with framesSinceFlush := frames } } where
  manager := by
    obtain ⟨tracked, _, hmanager⟩ := h.manager
    exact ⟨tracked, frames, by rw [hmanager]⟩
  memory := h.memory
  extents := h.extents
  loaded := h.loaded
  region := h.region
  log := h.log

/-- **Whatever becomes of a flush, every region is as it was or had its turn.** -/
theorem flushed_flush (known : Fin 2 → MemoryKind → Option Nat) (hdistinct : w.manager.Distinct)
    (disk : Disk) :
    Flushed known disk w (w.flush disk).1 := by
  by_cases hactive : w.Active
  · rcases flush_cases hactive disk (List.nil_append turns).symm (.nil w) with ⟨w₁, hflush, hdone⟩ |
      ⟨before, c, after, w₁, e, hturns, hdone, hc, -⟩
    · rw [hflush]
      exact (Flushing.of_performed known hdistinct hdone
        (List.append_nil _).symm).flushed.setFrames 0
    · have hflushing := Flushing.of_performed known hdistinct hdone hturns
      exact (hflushing.turn hdistinct hc (some c) fun h => absurd rfl h).flushed
  · rw [flush_of_not_active hactive disk]
    exact ⟨⟨_, _, rfl⟩, rfl, rfl, rfl, fun _ _ _ => Or.inl rfl, ⟨[], rfl, by simp⟩⟩

/-- **After a flush that returns true, every due region had its turn, and was written if it had to
be.** -/
theorem flush_done (known : Fin 2 → MemoryKind → Option Nat) (hdistinct : w.manager.Distinct)
    (hactive : w.Active)
    (hnone : (w.flush disk).2 = none) (hdue : w.Due i kind extent) :
    (w.flush disk).1.region known i kind = w.turned known disk i kind extent ∧
      (w.Writes i kind extent → disk.writeFileAtomic (w.manager.paths.path i kind) = .ok) := by
  rcases flush_cases hactive disk (List.nil_append turns).symm (.nil w) with ⟨w₁, hflush, hdone⟩ |
    ⟨_, _, _, _, e, -, -, -, herror⟩
  · have hflushing := Flushing.of_performed known hdistinct hdone (List.append_nil _).symm
    obtain ⟨hturned, hok⟩ := hflushing.turned i kind extent hdue (by simp)
    rw [hflush]
    exact ⟨hturned, hok (by simp)⟩
  · rw [herror] at hnone
    exact absurd hnone (by simp)

/-! ## The log -/

/-- The writes of a log that succeeded, in order. -/
def written (paths : SavePaths) (log : List Attempt) : List (Path × List Byte) :=
  (log.reverse.filter fun a => a.result = .ok).map fun a => (paths.path a.machine a.kind, a.bytes)

/-- The files are what the logged writes made of `files`. -/
def Logged (files : Files Path) (w : World) : Prop :=
  w.files = files.puts (written w.manager.paths w.log)

theorem Logged.flushTurn {files : Files Path} (h : w.Logged files) (disk : Disk) (c : Turn) :
    (flushTurn disk c w).1.Logged files := by
  cases c with
  | clearDirty i => exact h
  | region i kind =>
    change (w.flushRegion disk i kind).1.Logged files
    by_cases hno : ∀ extent, ¬w.Due i kind extent
    · rw [flushRegion_of_not_due hno]
      exact h
    · obtain ⟨extent, hdue⟩ := not_forall_not.mp hno
      rw [flushRegion_of_due (fun _ _ => none) disk hdue]
      unfold Logged at h ⊢
      change w.files.set (w.manager.paths.path i kind) _ =
        files.puts (written w.manager.paths _)
      by_cases hwrites : w.Writes i kind extent
      · rw [if_pos hwrites]
        unfold written at h ⊢
        rw [List.reverse_cons, List.filter_append, List.map_append, Files.puts_append, ← h]
        by_cases hok : disk.writeFileAtomic (w.manager.paths.path i kind) = .ok
        · have hfile : (w.turned (fun _ _ => none) disk i kind extent).file =
              .regular (w.attempt disk i kind extent).bytes :=
            congrArg Region.file (if_pos ⟨hwrites, hok⟩)
          have hfilter : [w.attempt disk i kind extent].filter (fun a => a.result = .ok) =
              [w.attempt disk i kind extent] := List.filter_cons_of_pos (decide_eq_true hok)
          rw [hfile, hfilter]
          rfl
        · have hfile : (w.turned (fun _ _ => none) disk i kind extent).file =
              w.files (w.manager.paths.path i kind) :=
            congrArg Region.file (if_neg fun h => hok h.2)
          have hfilter : [w.attempt disk i kind extent].filter (fun a => a.result = .ok) = [] :=
            List.filter_cons_of_neg fun h => hok (of_decide_eq_true h)
          rw [hfile, hfilter, Files.set_same]
          rfl
      · have hfile : (w.turned (fun _ _ => none) disk i kind extent).file =
            w.files (w.manager.paths.path i kind) :=
          congrArg Region.file (if_neg fun h => hwrites h.1)
        rw [if_neg hwrites, hfile, Files.set_same]
        exact h

/-- **A flush changes no file but by the writes it logs.** -/
theorem Logged.flush {files : Files Path} (h : w.Logged files) (disk : Disk) :
    (w.flush disk).1.Logged files := by
  have hturns {before : List Turn} {w₁ : World}
      (hdone : Performed (World.flushTurn disk) before w w₁) : w₁.Logged files := by
    refine hdone.invariant (fun _ w' => w'.Logged files) [] ?_ h
    intro c rest w' w'' hlogged hc
    have hturn := hlogged.flushTurn disk c
    rw [hc] at hturn
    exact hturn
  by_cases hactive : w.Active
  · rcases flush_cases hactive disk (List.nil_append turns).symm (.nil w) with ⟨w₁, hflush, hdone⟩ |
      ⟨before, c, after, w₁, e, hturns', hdone, hc, -⟩
    · have hall := hturns hdone
      rw [hflush]
      exact hall
    · have hturn := (hturns hdone).flushTurn disk c
      rw [hc] at hturn
      exact hturn
  · rw [flush_of_not_active hactive disk]
    exact h

/-! ## Flushes that follow one another -/

/-- A region that had its turn in a flush is written by another one, made on the same bytes, exactly
when the first had to write it and could not. -/
theorem writes_again (hregion : w'.region known i kind = w.turned known disk i kind extent)
    (hdata : w'.data = w.data) :
    (w.Writes i kind extent → disk.writeFileAtomic (w.manager.paths.path i kind) ≠ .ok →
      w'.Writes i kind extent) ∧
    ((w.Writes i kind extent → disk.writeFileAtomic (w.manager.paths.path i kind) = .ok) →
      ¬w'.Writes i kind extent) := by
  have htracked : w'.manager.tracked i kind = (w.turned known disk i kind extent).tracking :=
    congrArg Region.tracking hregion
  have hlive : (w.turned known disk i kind extent).data = w.data i kind := turned_data _ _ _ _ _
  have hwrites : w'.Writes i kind extent ↔
      ((w.turned known disk i kind extent).tracking.learnExtent
        (w.turned known disk i kind extent).data extent (w'.engine.dirty i)).NeedsWrite
          (w.turned known disk i kind extent).data extent := by
    unfold Writes learned
    rw [htracked, hlive, hdata]
  rw [hwrites]
  exact ⟨fun hneeds hfailed => Region.needsWrite_again (w.region known i kind) extent _ _ _ hneeds
    hfailed, fun hdone => Region.not_needsWrite_again (w.region known i kind) extent _ _ _ _ hdone⟩

/-- **What was just flushed is not flushed again.** -/
theorem flush_again (hdistinct : w.manager.Distinct) (hactive : w.Active) {disk' : Disk}
    (hnone : (w.flush disk).2 = none) {e : Engine} (hmemory : e.memory = w.engine.memory)
    (hextents : e.persistentMemoryExtent = w.engine.persistentMemoryExtent) :
    (World.flush disk' { (w.flush disk).1 with engine := e }).1.log = (w.flush disk).1.log := by
  let known : Fin 2 → MemoryKind → Option Nat := fun _ _ => none
  obtain ⟨tracked, frames, hmanager⟩ := (flushed_flush known hdistinct disk).manager
  generalize hw' : ({ (w.flush disk).1 with engine := e } : World) = w'
  have hmanager' : w'.manager =
      { w.manager with tracked := tracked, framesSinceFlush := frames } := by
    rw [← hw']
    exact hmanager
  have hmanaged : w'.manager.coreManaged = w.manager.coreManaged := by rw [hmanager']
  have hmemory' : w'.engine.memory = w.engine.memory := by rw [← hw']; exact hmemory
  have hextents' : w'.engine.persistentMemoryExtent = w.engine.persistentMemoryExtent := by
    rw [← hw']
    exact hextents
  have hdistinct' : w'.manager.Distinct := by
    rw [hmanager']
    exact hdistinct
  have hlog' : w'.log = (w.flush disk).1.log := by rw [← hw']
  obtain ⟨new, hlog, hnew⟩ := (flushed_flush known hdistinct' disk').log
  have hnil : new = [] := by
    refine List.eq_nil_iff_forall_not_mem.mpr fun a ha => ?_
    obtain ⟨i, kind, extent, hdue', hwrites, -⟩ := hnew a ha
    have hdue := (due_congr hmanaged hmemory' hextents').mp hdue'
    obtain ⟨hturned, hok⟩ := flush_done known hdistinct hactive hnone hdue
    have hdata : w'.data = w.data := data_congr hmemory'
    have hregion : w'.region known i kind = w.turned known disk i kind extent := by
      rw [← hturned]
      unfold region
      rw [hdata, ← data_congr (flushed_flush known hdistinct disk).memory, ← hw']
    exact (writes_again hregion hdata).2 hok hwrites
  rw [hlog, hnil, hlog']
  rfl

/-- **A write that failed is tried again.** The flush after one that tried in vain to write a region
tries to write that region again, whatever else becomes of it and whatever the dirty flags say. -/
theorem flush_tries_again (hdistinct : w.manager.Distinct) (disk disk' : Disk)
    {new : List Attempt} {a : Attempt} (hlog : (w.flush disk).1.log = new ++ w.log) (ha : a ∈ new)
    (hfailed : a.result ≠ .ok) {e : Engine} (hmemory : e.memory = w.engine.memory)
    (hextents : e.persistentMemoryExtent = w.engine.persistentMemoryExtent)
    (hloaded : e.loaded = true) :
    let w' := { (w.flush disk).1 with engine := e }
    ∃ new' a', (w'.flush disk').1.log = new' ++ w'.log ∧ a' ∈ new' ∧ a'.machine = a.machine ∧
      a'.kind = a.kind := by
  intro w'
  have hactive : w.Active := by
    by_contra hno
    rw [flush_of_not_active hno disk] at hlog
    have hnil : new = [] := by simpa using hlog.symm
    exact absurd ha (by simp [hnil])
  let known : Fin 2 → MemoryKind → Option Nat := fun _ _ => none
  rcases flush_cases hactive disk (List.nil_append turns).symm (.nil w) with ⟨w₁, hflush, hdone⟩ |
    ⟨before, c, after, w₁, error, hturns, hdone, hc, -⟩
  · -- a flush without an error has written all it tried to
    have hflushing := Flushing.of_performed known hdistinct hdone (List.append_nil _).symm
    obtain ⟨new₁, hlog₁, hnew₁⟩ := hflushing.log
    rw [hflush] at hlog
    obtain rfl := List.append_cancel_right (hlog₁.symm.trans hlog)
    obtain ⟨i, kind, extent, hnot, hdue, hw, rfl⟩ := (hnew₁ a).mp ha
    exact absurd ((hflushing.turned i kind extent hdue hnot).2 (by simp) hw) hfailed
  · rw [List.nil_append] at hdone
    have hbefore := Flushing.of_performed known hdistinct hdone hturns
    have hstopped := hbefore.turn hdistinct hc (some c) fun h => absurd rfl h
    obtain ⟨new₁, hlog₁, hnew₁⟩ := hstopped.log
    obtain rfl := List.append_cancel_right (hlog₁.symm.trans hlog)
    obtain ⟨i, kind, extent, hnot, hdue, hw, rfl⟩ := (hnew₁ a).mp ha
    obtain ⟨hturned, hok⟩ := hstopped.turned i kind extent hdue hnot
    obtain rfl : c = .region i kind := by
      by_contra hne
      exact hfailed (hok (fun h => hne (Option.some.inj h)) hw)
    obtain ⟨-, hnotin, -⟩ := turns_ahead hbefore.ahead
    have hdata' : w'.data = w.data := data_congr hmemory
    have hmanaged' : w'.manager.coreManaged = w.manager.coreManaged := hstopped.managed_eq
    have hdue' : w'.Due i kind extent := (due_congr hmanaged' hmemory hextents).mpr hdue
    have hregion' : w'.region known i kind = w.turned known disk i kind extent := by
      rw [← hturned]
      unfold region
      rw [hdata', ← hstopped.data_eq]
    have hwrites' : w'.Writes i kind extent := (writes_again hregion' hdata').1 hw hfailed
    have hactive' : w'.Active := by
      refine ⟨?_, ?_, hloaded⟩
      · exact (congrArg Manager.initialized hstopped.manager).trans hactive.initialized
      · exact (congrArg Manager.writeOwner hstopped.manager).trans hactive.writeOwner
    have hdistinct' : w'.manager.Distinct := by
      unfold Manager.Distinct
      rw [show w'.manager.coreManaged = _ from hstopped.managed_eq,
        show w'.manager.paths = _ from hstopped.path_eq]
      exact hdistinct
    -- the turns before it have nothing to write, and nothing they ask for fails
    obtain ⟨w₂, hdone'⟩ : ∃ w₂, Performed (flushTurn disk') before w' w₂ := by
      refine performed_of_invariant (fun rest s => Flushing known disk' w' rest none s)
        (.region i kind :: after) ?_ (hturns ▸ Flushing.start known disk' w')
      intro d hd rest s hs
      cases d with
      | clearDirty j => exact ⟨_, rfl, hs.turn hdistinct' rfl none fun _ => rfl⟩
      | region j kind' =>
        have hahead : Turn.region j kind' ∉ Turn.region i kind :: after := by
          have hnodup : turns.Nodup := by decide
          rw [hturns, List.nodup_append] at hnodup
          exact fun hin => hnodup.2.2 _ hd _ hin rfl
        rw [List.mem_cons, not_or] at hahead
        have hpasses : s.Passes j kind' :=
          passes_congr (hs.managed_eq.trans hmanaged') (hs.memory.trans hmemory)
            (hs.extents.trans hextents) (hstopped.passes j kind' hahead.2
              fun h => hahead.1 (Option.some.inj h).symm)
        have hno : ∀ extent', s.Due j kind' extent' → ¬s.Writes j kind' extent' := by
          intro extent' hdue₁
          have hdue₂ := hs.due_iff.mp hdue₁
          have hdue₃ := (due_congr hmanaged' hmemory hextents).mp hdue₂
          obtain ⟨hturned', hok'⟩ := hstopped.turned j kind' extent' hdue₃ hahead.2
          have hregion₃ : w'.region known j kind' = w.turned known disk j kind' extent' := by
            rw [← hturned']
            unfold region
            rw [hdata', ← hstopped.data_eq]
          rw [(hs.same hdue₂.managed extent').2.1]
          exact (writes_again hregion₃ hdata').2
            (hok' fun h => hahead.1 (Option.some.inj h).symm)
        have hnone := outcome_of_passes disk' hpasses hno
        have hc' : flushTurn disk' (.region j kind') s =
            ((s.flushRegion disk' j kind').1, none) := Prod.ext_iff.mpr ⟨rfl, hnone⟩
        exact ⟨_, hc', hs.turn hdistinct' hc' none fun _ => rfl⟩
    have hresult {rest : List Turn} {failed : Option Turn} {w'' : World}
        (h : Flushing known disk' w' rest failed w'') (hin : .region i kind ∉ rest) :
        ∃ new' a', w''.log = new' ++ w'.log ∧ a' ∈ new' ∧
          a'.machine = (w.attempt disk i kind extent).machine ∧
          a'.kind = (w.attempt disk i kind extent).kind := by
      obtain ⟨new', hlog', hnew'⟩ := h.log
      exact ⟨new', w'.attempt disk' i kind extent, hlog',
        (hnew' _).mpr ⟨i, kind, extent, hin, hdue', hwrites', rfl⟩, rfl, rfl⟩
    rcases flush_cases hactive' disk' hturns hdone' with ⟨w₃, hflush', hdone₃⟩ |
      ⟨mid, d, after', w₃, error', hrest, hdone₃, hd, -⟩
    · rw [hflush']
      have hflushing := Flushing.of_performed known hdistinct' hdone₃ (List.append_nil _).symm
      have hlast := hresult hflushing List.not_mem_nil
      exact hlast
    · have hturns' : turns = (before ++ mid) ++ d :: after' := by
        rw [hturns, hrest, List.append_assoc]
      have hstopped' := (Flushing.of_performed known hdistinct' hdone₃ hturns').turn
        hdistinct' hd (some d) fun h => absurd rfl h
      refine hresult hstopped' ?_
      cases mid with
      | nil =>
        obtain ⟨-, rfl⟩ := List.cons.inj hrest
        exact hnotin
      | cons m mid =>
        obtain ⟨-, rfl⟩ := List.cons.inj hrest
        exact fun hin => hnotin (by simp [hin])

end World

end DualBoy.Saves
