import DualBoy.Saves.Paths
import DualBoy.Saves.Tracking

/-!
# One region over a history

A region of live memory together with its canonical file, the extent its engine reports and what the
manager tracks of it. In a history the guest changes bytes below the extent, the extent becomes known
and grows, and flushes give the region their turns. `Sound` is what holds throughout of the file and
the tail of the region, `Durable` adds that the tracking speaks of what a reload would give, `Idle`
that the bytes never changed.
-/

namespace DualBoy.Saves

open DualBoy.Lib

/-- A region with its file. `report` is `none` while the extent is unknown. -/
structure Region where
  data : List Byte
  report : Option Nat
  file : FileState
  tracking : Tracking

namespace Region

/-- The region after its turn in a flush, if its extent is known: `result` is how a write would end. -/
def turn (r : Region) (extent : Nat) (dirty : Bool) (result : PersistenceResult) (malloc : Bool) :
    Region :=
  let t := r.tracking.learnExtent r.data extent dirty
  if t.NeedsWrite r.data extent ∧ result = .ok then
    { r with
      file := .regular (r.data.take (t.flushSize extent))
      tracking := ((t.recordWrite r.data (t.flushSize extent)).replaceBaseline malloc r.data).1 }
  else { r with tracking := t }

/-- The index from which on the guest leaves the region alone: the extent, or `first`, below which it
stays until the extent is known. -/
def bound (first : Nat) : Option Nat → Nat
  | none => first
  | some extent => extent

/-- The extent becomes known at `first` or above, and does not decrease. -/
def Grows (first : Nat) : Option Nat → Option Nat → Prop
  | none, none => True
  | none, some extent => first ≤ extent
  | some extent, some extent' => extent ≤ extent'
  | some _, none => False

theorem Grows.bound_le {first : Nat} {report report' : Option Nat} (h : Grows first report report') :
    bound first report ≤ bound first report' := by
  cases report <;> cases report' <;> simp_all [Grows, bound]

/-- The guest runs: it writes below the bound, and the extent may become known or grow. -/
structure Runs (first : Nat) (r r' : Region) : Prop where
  length : r'.data.length = r.data.length
  grows : Grows first r.report r'.report
  bounded : ∀ extent, r'.report = some extent → extent ≤ r'.data.length
  frame : AgreeFrom (bound first r'.report) r'.data r.data
  file : r'.file = r.file
  tracking : r'.tracking = r.tracking

/-! ## The file and the tail -/

/-- What holds throughout a history, whatever the writes do. -/
structure Sound (first : Nat) (r : Region) : Prop where
  /-- The length of the file is the one last loaded or written. -/
  file : (r.file = .missing ∧ r.tracking.loadedSize = 0) ∨
    ∃ bytes, r.file = .regular bytes ∧ bytes.length = r.tracking.loadedSize
  fits : r.tracking.loadedSize ≤ r.data.length
  preserved : r.tracking.preservedSize ≤ r.tracking.loadedSize
  bounded : ∀ extent, r.report = some extent → extent ≤ r.data.length
  /-- Past the bound the file is the live memory. -/
  agree : ∀ bytes, r.file = .regular bytes →
    ∀ i, bound first r.report ≤ i → i < bytes.length → bytes[i]? = r.data[i]?
  unknown : r.tracking.extentKnown = false → r.tracking.preservedSize = 0 ∧
    r.tracking.valid = true ∧ r.tracking.size = r.tracking.loadedSize
  /-- What a flush would cut off is blank. -/
  known : r.tracking.extentKnown = true → ∃ extent, r.report = some extent ∧
    (r.tracking.flushSize extent < r.tracking.loadedSize → r.tracking.preservedSize = 0 ∧
      ∀ i, extent ≤ i → i < r.tracking.loadedSize → r.data[i]? = some 0xff)

theorem Sound.runs {first : Nat} {r r' : Region} (h : r.Sound first) (hr : Runs first r r') :
    r'.Sound first where
  file := by
    rw [hr.file, hr.tracking]
    exact h.file
  fits := by
    rw [hr.tracking, hr.length]
    exact h.fits
  preserved := by
    rw [hr.tracking]
    exact h.preserved
  bounded := hr.bounded
  agree := by
    intro bytes hfile i hlow hhigh
    rw [hr.file] at hfile
    rw [hr.frame i hlow]
    exact h.agree bytes hfile i (Nat.le_trans hr.grows.bound_le hlow) hhigh
  unknown := by
    rw [hr.tracking]
    exact h.unknown
  known := by
    rw [hr.tracking]
    intro hknown
    obtain ⟨extent, hreport, htail⟩ := h.known hknown
    have hgrows := hr.grows
    rw [hreport] at hgrows
    cases hreport' : r'.report with
    | none =>
      rw [hreport'] at hgrows
      exact hgrows.elim
    | some extent' =>
      rw [hreport'] at hgrows
      have hle : extent ≤ extent' := hgrows
      refine ⟨extent', rfl, fun hlt => ?_⟩
      have hlt' : r.tracking.flushSize extent < r.tracking.loadedSize := by
        unfold Tracking.flushSize at hlt ⊢
        omega
      obtain ⟨hpreserved, hblank⟩ := htail hlt'
      refine ⟨hpreserved, fun i hlow hhigh => ?_⟩
      have hframe := hr.frame
      rw [hreport'] at hframe
      rw [hframe i hlow]
      exact hblank i (by omega) hhigh

/-- The tracking `t` of a region says what is at the end of it, for a known extent. -/
structure Learned (r : Region) (extent : Nat) (t : Tracking) : Prop where
  extentKnown : t.extentKnown = true
  loadedSize : t.loadedSize = r.tracking.loadedSize
  preserved : t.preservedSize ≤ r.tracking.loadedSize
  size_le : t.flushSize extent ≤ r.data.length
  tail : t.flushSize extent < r.tracking.loadedSize → t.preservedSize = 0 ∧
    ∀ i, extent ≤ i → i < r.tracking.loadedSize → r.data[i]? = some 0xff

theorem Sound.learned {first extent : Nat} {r : Region} (h : r.Sound first)
    (hreport : r.report = some extent) (dirty : Bool) :
    r.Learned extent (r.tracking.learnExtent r.data extent dirty) := by
  have hbounded := h.bounded extent hreport
  have hfits := h.fits
  have hsize (t : Tracking) (hpreserved : t.preservedSize ≤ r.tracking.loadedSize) :
      t.flushSize extent ≤ r.data.length := by
    unfold Tracking.flushSize
    omega
  cases hknown : r.tracking.extentKnown with
  | true =>
    rw [Tracking.learnExtent_of_known hknown]
    obtain ⟨extent', hreport', htail⟩ := h.known hknown
    obtain rfl : extent = extent' := Option.some.inj (hreport.symm.trans hreport')
    exact ⟨hknown, rfl, h.preserved, hsize _ h.preserved, htail⟩
  | false =>
    rw [Tracking.learnExtent_of_unknown hknown]
    rcases Tracking.initializeExtent_cases (h.unknown hknown).1 r.data extent with
      ⟨hpreserved, hloaded, -, -⟩ | ⟨hpreserved, -, -, hfill, -, -⟩
    · exact ⟨rfl, Tracking.initializeExtent_loadedSize _ _ _, hpreserved, hsize _ hpreserved,
        fun hlt => absurd hlt (Nat.not_lt.mpr hloaded)⟩
    · have hpreserved' : (r.tracking.initializeExtent r.data extent).preservedSize ≤
          r.tracking.loadedSize := by omega
      exact ⟨rfl, Tracking.initializeExtent_loadedSize _ _ _, hpreserved', hsize _ hpreserved',
        fun _ => ⟨hpreserved, (Tracking.bytesAreFill_iff h.fits).mp hfill⟩⟩

/-- The region with what was learned. -/
theorem Sound.relearn {first extent : Nat} {r : Region} {t : Tracking} (h : r.Sound first)
    (hreport : r.report = some extent) (ht : r.Learned extent t) :
    Sound first { r with tracking := t } where
  file := by
    rw [ht.loadedSize]
    exact h.file
  fits := by
    rw [ht.loadedSize]
    exact h.fits
  preserved := by
    rw [ht.loadedSize]
    exact ht.preserved
  bounded := h.bounded
  agree := h.agree
  unknown := fun hunknown => absurd (ht.extentKnown.symm.trans hunknown) (by simp)
  known := fun _ => by
    rw [ht.loadedSize]
    exact ⟨extent, hreport, ht.tail⟩

/-- The region once its bytes are written. -/
theorem Sound.written {first extent : Nat} {r : Region} {t : Tracking} (h : r.Sound first)
    (hreport : r.report = some extent) (ht : r.Learned extent t) (baseline : List Byte) :
    Sound first
      { r with
        file := .regular (r.data.take (t.flushSize extent))
        tracking := { t.recordWrite r.data (t.flushSize extent) with baseline } } where
  file := Or.inr ⟨_, rfl, List.length_take_of_le ht.size_le⟩
  fits := ht.size_le
  preserved := Nat.le_max_right _ _
  bounded := h.bounded
  agree := by
    intro bytes hfile i _ hhigh
    obtain rfl := FileState.regular.inj hfile
    rw [List.length_take_of_le ht.size_le] at hhigh
    rw [List.getElem?_take, if_pos hhigh]
  unknown := fun hunknown => absurd (ht.extentKnown.symm.trans hunknown) (by simp)
  known := fun _ => ⟨extent, hreport, fun hlt => absurd hlt (Nat.lt_irrefl _)⟩

/-- **A turn of a flush keeps the region sound.** -/
theorem Sound.turn {first extent : Nat} {r : Region} (h : r.Sound first)
    (hreport : r.report = some extent) (dirty : Bool) (result : PersistenceResult) (malloc : Bool) :
    (r.turn extent dirty result malloc).Sound first := by
  have ht := h.learned hreport dirty
  unfold Region.turn
  dsimp only
  split
  · obtain ⟨baseline, hbaseline⟩ := Tracking.replaceBaseline_eq
      ((r.tracking.learnExtent r.data extent dirty).recordWrite r.data
        ((r.tracking.learnExtent r.data extent dirty).flushSize extent)) malloc r.data
    rw [hbaseline]
    exact h.written hreport ht baseline
  · exact h.relearn hreport ht

/-- **A write of a flush discards only blank bytes, and changes none past the extent.** -/
theorem Sound.write {first extent : Nat} {r : Region} (h : r.Sound first)
    (hreport : r.report = some extent) (dirty : Bool) {bytes : List Byte}
    (hfile : r.file = .regular bytes) :
    let size := (r.tracking.learnExtent r.data extent dirty).flushSize extent
    (∀ i, size ≤ i → i < bytes.length → bytes[i]? = some 0xff) ∧
      ∀ i, extent ≤ i → i < size → i < bytes.length → (r.data.take size)[i]? = bytes[i]? := by
  have htail := (h.learned hreport dirty).tail
  have hagree := h.agree bytes hfile
  rw [hreport] at hagree
  have hlength : bytes.length = r.tracking.loadedSize := by
    rcases h.file with ⟨hmissing, -⟩ | ⟨bytes', hregular, hlength⟩
    · exact absurd (hmissing.symm.trans hfile) (by simp)
    · rw [hregular] at hfile
      rw [← FileState.regular.inj hfile, hlength]
  have hextent : extent ≤ (r.tracking.learnExtent r.data extent dirty).flushSize extent :=
    Nat.le_max_left _ _
  refine ⟨fun i hlow hhigh => ?_, fun i hlow hsize hhigh => ?_⟩
  · rw [hagree i (Nat.le_trans hextent hlow) hhigh]
    exact (htail (by omega)).2 i (Nat.le_trans hextent hlow) (by omega)
  · rw [List.getElem?_take, if_pos hsize, hagree i hlow hhigh]

/-! ## What a reload gives -/

/-- The region as an initialization would load it: the file padded with `fill`, or `fresh`, what the
engine has before loading, without one. -/
def reload (fill : Byte) (fresh : List Byte) (r : Region) : List Byte :=
  match r.file with
  | .regular bytes => pad r.data.length fill bytes
  | _ => fresh

/-- The tracking speaks of the reloaded bytes, and past everything written the region is `fill`; or
else its extent is always the whole of it. -/
structure Durable (first : Nat) (fill : Byte) (fresh : List Byte) (full : Prop) (r : Region) : Prop
    extends Sound first r where
  fresh_length : fresh.length = r.data.length
  baseline : r.tracking.baseline = r.reload fill fresh
  hash : r.tracking.valid = true →
    r.tracking.hash = memoryHash (r.reload fill fresh) r.tracking.size
  whole : full → ∀ extent, r.report = some extent → extent = r.data.length
  blank : ¬full → ∀ i, bound first r.report ≤ i → r.tracking.loadedSize ≤ i → i < r.data.length →
    r.data[i]? = some fill

section Durable

variable {first : Nat} {fill : Byte} {fresh : List Byte} {full : Prop} {r r' : Region}

theorem Durable.runs (h : r.Durable first fill fresh full) (hr : Runs first r r')
    (hfull : full → ∀ extent, r'.report = some extent → extent = r'.data.length) :
    r'.Durable first fill fresh full := by
  have hreload : r'.reload fill fresh = r.reload fill fresh := by
    unfold reload
    rw [hr.file, hr.length]
  exact
    { h.toSound.runs hr with
      fresh_length := h.fresh_length.trans hr.length.symm
      baseline := by
        rw [hreload, hr.tracking]
        exact h.baseline
      hash := by
        rw [hreload, hr.tracking]
        exact h.hash
      whole := hfull
      blank := fun hnot i hlow hloaded hhigh => by
        rw [hr.tracking] at hloaded
        rw [hr.length] at hhigh
        rw [hr.frame i hlow]
        exact h.blank hnot i (Nat.le_trans hr.grows.bound_le hlow) hloaded hhigh }

theorem Durable.length_reload (h : r.Durable first fill fresh full) :
    (r.reload fill fresh).length = r.data.length := by
  unfold reload
  rcases h.file with ⟨hmissing, -⟩ | ⟨bytes, hregular, hlength⟩
  · rw [hmissing]
    exact h.fresh_length
  · rw [hregular]
    exact length_pad (by rw [hlength]; exact h.fits)

/-- Hashes of equal beginnings are equal. -/
theorem memoryHash_congr {l l' : List Byte} {n : Nat} (h : l.take n = l'.take n) :
    memoryHash l n = memoryHash l' n := by
  unfold memoryHash
  rw [h]

theorem Durable.relearn (h : r.Durable first fill fresh full) {extent : Nat}
    (hreport : r.report = some extent) (dirty : Bool) :
    Durable first fill fresh full
      { r with tracking := r.tracking.learnExtent r.data extent dirty } :=
  { h.toSound.relearn hreport (h.learned hreport dirty) with
    fresh_length := h.fresh_length
    baseline := (Tracking.learnExtent_baseline _ _ _ _).trans h.baseline
    hash := fun hvalid => by
      change (r.tracking.learnExtent r.data extent dirty).hash =
        memoryHash (r.reload fill fresh) (r.tracking.learnExtent r.data extent dirty).size
      cases hknown : r.tracking.extentKnown with
      | true =>
        rw [Tracking.learnExtent_of_known hknown] at hvalid ⊢
        exact h.hash hvalid
      | false =>
        have hsame := Tracking.unchanged_of_learnExtent hknown hvalid
        rw [h.baseline] at hsame
        rw [Tracking.learnExtent_of_unknown hknown] at hsame ⊢
        rcases Tracking.initializeExtent_cases (h.unknown hknown).1 r.data extent with
          ⟨-, -, hsize', hhash⟩ | ⟨-, -, -, -, hsize', hhash⟩
        · change (r.tracking.initializeExtent r.data extent).hash =
            memoryHash (r.reload fill fresh) (r.tracking.initializeExtent r.data extent).size
          rw [hhash, hsize']
          rcases hsame with hsame | hempty
          · exact memoryHash_congr hsame
          · have hdata : r.data = [] := by
              rw [← List.length_eq_zero_iff, ← h.length_reload, hempty]
              rfl
            rw [hempty, hdata]
        · change (r.tracking.initializeExtent r.data extent).hash =
            memoryHash (r.reload fill fresh) (r.tracking.initializeExtent r.data extent).size
          rw [hhash, hsize']
          exact h.hash (h.unknown hknown).2.1
    whole := h.whole
    blank := by
      rw [Tracking.learnExtent_loadedSize]
      exact h.blank }

/-- What a write leaves out is fill, unless it shortens the file of a region whose fill is not the
blank byte. -/
theorem Durable.fillFrom (h : r.Durable first fill fresh full) {extent : Nat} {t : Tracking}
    (hreport : r.report = some extent) (ht : r.Learned extent t)
    (htrim : fill = 0xff ∨ full ∨ r.tracking.loadedSize ≤ t.flushSize extent) :
    FillFrom (t.flushSize extent) fill r.data := by
  intro i hlow hhigh
  have hextent : extent ≤ t.flushSize extent := Nat.le_max_left _ _
  by_cases hfull : full
  · have := h.whole hfull extent hreport
    omega
  · by_cases hloaded : r.tracking.loadedSize ≤ i
    · refine h.blank hfull i ?_ hloaded hhigh
      rw [hreport]
      exact Nat.le_trans hextent hlow
    · rcases htrim with rfl | hyes | hle
      · exact (ht.tail (by omega)).2 i (by omega) (by omega)
      · exact absurd hyes hfull
      · omega

theorem Durable.written (h : r.Durable first fill fresh full) {extent : Nat} {t : Tracking}
    (hreport : r.report = some extent) (ht : r.Learned extent t)
    (htrim : fill = 0xff ∨ full ∨ r.tracking.loadedSize ≤ t.flushSize extent) :
    Durable first fill fresh full
      { r with
        file := .regular (r.data.take (t.flushSize extent))
        tracking := { t.recordWrite r.data (t.flushSize extent) with baseline := r.data } } := by
  have hfill := h.fillFrom hreport ht htrim
  have hreload : pad r.data.length fill (r.data.take (t.flushSize extent)) = r.data := pad_take hfill
  exact
    { h.toSound.written hreport ht r.data with
      fresh_length := h.fresh_length
      baseline := hreload.symm
      hash := fun _ => congrArg (memoryHash · (t.flushSize extent)) hreload.symm
      whole := h.whole
      blank := fun _ i _ hlow hhigh => hfill i hlow hhigh }

/-- The baseline of a durable region is replaced without an allocation. -/
theorem Durable.replaceBaseline (h : r.Durable first fill fresh full) {t : Tracking}
    (ht : t.baseline = r.tracking.baseline) (malloc : Bool) :
    t.replaceBaseline malloc r.data = ({ t with baseline := r.data }, true) := by
  refine Tracking.replaceBaseline_of_length ?_ malloc
  rw [ht, h.baseline, h.length_reload]

/-- **A turn of a flush keeps the region durable.** -/
theorem Durable.turn (h : r.Durable first fill fresh full) {extent : Nat}
    (hreport : r.report = some extent) (dirty : Bool) (result : PersistenceResult) (malloc : Bool)
    (htrim : fill = 0xff ∨ full ∨
      r.tracking.loadedSize ≤ (r.tracking.learnExtent r.data extent dirty).flushSize extent) :
    (r.turn extent dirty result malloc).Durable first fill fresh full := by
  unfold Region.turn
  dsimp only
  split
  · have hbaseline := h.replaceBaseline
      (t := (r.tracking.learnExtent r.data extent dirty).recordWrite r.data
        ((r.tracking.learnExtent r.data extent dirty).flushSize extent))
      (Tracking.learnExtent_baseline _ _ _ _) malloc
    rw [hbaseline]
    exact h.written hreport (h.learned hreport dirty) htrim
  · exact h.relearn hreport dirty

/-- **After a turn that did not fail, a reload gives the live bytes** up to the flushed size, unless
two different contents have the same hash. -/
theorem Durable.reload_turn (h : r.Durable first fill fresh full) {extent : Nat}
    (hreport : r.report = some extent) (dirty : Bool) (result : PersistenceResult) (malloc : Bool)
    (htrim : fill = 0xff ∨ full ∨
      r.tracking.loadedSize ≤ (r.tracking.learnExtent r.data extent dirty).flushSize extent)
    (hdone : (r.tracking.learnExtent r.data extent dirty).NeedsWrite r.data extent → result = .ok)
    (hhash : ∀ n, memoryHash (r.reload fill fresh) n = memoryHash r.data n →
      (r.reload fill fresh).take n = r.data.take n) :
    ((r.turn extent dirty result malloc).reload fill fresh).take
        ((r.turn extent dirty result malloc).tracking.flushSize extent) =
      r.data.take ((r.turn extent dirty result malloc).tracking.flushSize extent) := by
  unfold Region.turn
  dsimp only
  split
  · have hfill := h.fillFrom hreport (h.learned hreport dirty) htrim
    have hreload := pad_take hfill
    exact congrArg (List.take _) hreload
  · rename_i hno
    have hskip : ¬(r.tracking.learnExtent r.data extent dirty).NeedsWrite r.data extent :=
      fun hneeds => hno ⟨hneeds, hdone hneeds⟩
    have hlearned := h.relearn hreport dirty
    unfold Tracking.NeedsWrite at hskip
    rw [Decidable.not_and_iff_not_or_not, Decidable.not_not, Decidable.not_not] at hskip
    rcases hskip with ⟨-, -, -, -, htake⟩ | ⟨hvalid, hsize, hsame⟩
    · rw [show Tracking.baseline _ = _ from hlearned.baseline] at htake
      exact htake.symm
    · have hreload := hlearned.hash hvalid
      refine hhash _ ?_
      rw [← hsame, ← hsize]
      exact hreload.symm

end Durable

/-! ## Turns that follow one another -/

/-- A write that failed is tried again. -/
theorem needsWrite_again (r : Region) (extent : Nat) (dirty dirty' : Bool)
    {result : PersistenceResult} (malloc : Bool)
    (hneeds : (r.tracking.learnExtent r.data extent dirty).NeedsWrite r.data extent)
    (hfailed : result ≠ .ok) :
    let r' := r.turn extent dirty result malloc
    (r'.tracking.learnExtent r'.data extent dirty').NeedsWrite r'.data extent := by
  unfold Region.turn
  dsimp only
  rw [if_neg fun h => hfailed h.2]
  dsimp only
  rw [Tracking.learnExtent_of_known (Tracking.learnExtent_extentKnown _ _ _ _)]
  exact hneeds

/-- A turn that did not fail leaves nothing for the next to write. -/
theorem not_needsWrite_again (r : Region) (extent : Nat) (dirty dirty' : Bool)
    (result : PersistenceResult) (malloc : Bool)
    (hdone : (r.tracking.learnExtent r.data extent dirty).NeedsWrite r.data extent → result = .ok) :
    let r' := r.turn extent dirty result malloc
    ¬(r'.tracking.learnExtent r'.data extent dirty').NeedsWrite r'.data extent := by
  unfold Region.turn
  dsimp only
  split
  · obtain ⟨baseline, hbaseline⟩ := Tracking.replaceBaseline_eq
      ((r.tracking.learnExtent r.data extent dirty).recordWrite r.data
        ((r.tracking.learnExtent r.data extent dirty).flushSize extent)) malloc r.data
    rw [hbaseline]
    exact Tracking.not_needsWrite_recordWrite (Tracking.learnExtent_extentKnown _ _ _ _) _ _ _ _
  · rename_i hno
    dsimp only
    rw [Tracking.learnExtent_of_known (Tracking.learnExtent_extentKnown _ _ _ _)]
    exact fun hneeds => hno ⟨hneeds, hdone hneeds⟩

/-! ## Regions nobody writes to -/

/-- The tracking speaks of the live bytes, and the file is a beginning of them. -/
structure Idle (r : Region) : Prop extends Sound 0 r where
  nonempty : r.data ≠ []
  valid : r.tracking.valid = true
  baseline : r.tracking.baseline = r.data
  hash : r.tracking.hash = memoryHash r.data r.tracking.size
  isPrefix : ∀ bytes, r.file = .regular bytes → bytes = r.data.take bytes.length
  size : ∀ extent, r.tracking.extentKnown = true → r.report = some extent →
    r.tracking.size ≤ r.tracking.flushSize extent ∨ r.tracking.size = r.tracking.loadedSize

theorem Idle.runs {r r' : Region} (h : r.Idle) (hr : Runs 0 r r') (hdata : r'.data = r.data) :
    r'.Idle :=
  { h.toSound.runs hr with
    nonempty := by
      rw [hdata]
      exact h.nonempty
    valid := by
      rw [hr.tracking]
      exact h.valid
    baseline := by
      rw [hr.tracking, hdata]
      exact h.baseline
    hash := by
      rw [hr.tracking, hdata]
      exact h.hash
    isPrefix := by
      rw [hr.file, hdata]
      exact h.isPrefix
    size := by
      rw [hr.tracking]
      intro extent' hknown hreport'
      obtain ⟨extent, hreport, -⟩ := h.known hknown
      have hgrows := hr.grows
      rw [hreport, hreport'] at hgrows
      have hle : extent ≤ extent' := hgrows
      refine (h.size extent hknown hreport).imp_left fun hsize => ?_
      unfold Tracking.flushSize at hsize ⊢
      omega }

/-- What an idle region's tracking says once the extent is learned. -/
theorem Idle.relearn {r : Region} (h : r.Idle) {extent : Nat} (hreport : r.report = some extent) :
    Idle { r with tracking := r.tracking.learnExtent r.data extent false } := by
  have hsound := h.toSound.relearn hreport (h.learned hreport false)
  cases hknown : r.tracking.extentKnown with
  | true =>
    rw [Tracking.learnExtent_of_known hknown]
    exact h
  | false =>
    have hsame : ¬(r.tracking.initializeExtent r.data extent).changedFromBaseline r.data extent := by
      unfold Tracking.changedFromBaseline
      rw [Tracking.initializeExtent_baseline, h.baseline]
      rintro ⟨-, hchanged⟩
      have hle := (h.learned hreport false).size_le
      rw [Tracking.learnExtent_of_unknown hknown] at hle
      exact hchanged hle rfl
    rw [Tracking.learnExtent_of_unknown hknown] at hsound ⊢
    rw [decide_eq_false (by simp [hsame])] at hsound ⊢
    have hcases := Tracking.initializeExtent_cases (h.unknown hknown).1 r.data extent
    exact
      { hsound with
        nonempty := h.nonempty
        valid := rfl
        baseline := (Tracking.initializeExtent_baseline _ _ _).trans h.baseline
        hash := by
          change (r.tracking.initializeExtent r.data extent).hash =
            memoryHash r.data (r.tracking.initializeExtent r.data extent).size
          rcases hcases with ⟨-, -, hsize, hhash⟩ | ⟨-, -, -, -, hsize, hhash⟩
          · rw [hhash, hsize]
          · rw [hhash, hsize]
            exact h.hash
        isPrefix := h.isPrefix
        size := by
          rintro extent' - hreport'
          obtain rfl := Option.some.inj (hreport.symm.trans hreport')
          rcases hcases with ⟨-, -, hsize, -⟩ | ⟨-, -, -, -, hsize, -⟩
          · exact Or.inl (Nat.le_of_eq hsize)
          · right
            exact hsize.trans ((h.unknown hknown).2.2.trans
              (Tracking.initializeExtent_loadedSize _ _ _).symm) }

/-- **The only write to an idle region cuts a blank end off its file**, down to the extent. -/
theorem Idle.write {r : Region} (h : r.Idle) {extent : Nat} (hreport : r.report = some extent)
    (hneeds : (r.tracking.learnExtent r.data extent false).NeedsWrite r.data extent) :
    ∃ bytes, r.file = .regular bytes ∧ extent < bytes.length ∧
      (∀ i, extent ≤ i → i < bytes.length → bytes[i]? = some 0xff) ∧
      r.data.take ((r.tracking.learnExtent r.data extent false).flushSize extent) =
        bytes.take extent := by
  have hidle := h.relearn hreport
  have hle := (h.learned hreport false).size_le
  have htail := (h.learned hreport false).tail
  have hloaded := (h.learned hreport false).loadedSize
  have hsize := hidle.size extent (Tracking.learnExtent_extentKnown _ _ _ _) hreport
  obtain ⟨hdeferred, hunchanged⟩ := hneeds
  dsimp only at hsize
  have hnotlt : ¬(r.tracking.learnExtent r.data extent false).size <
      (r.tracking.learnExtent r.data extent false).flushSize extent := by
    intro hlt
    have hbaseline : (r.tracking.learnExtent r.data extent false).baseline = r.data :=
      hidle.baseline
    refine hdeferred ⟨hidle.valid, hlt, ?_, ?_, ?_⟩
    · rw [hbaseline]
      exact h.nonempty
    · rw [hbaseline]
      exact hle
    · rw [hbaseline]
  have hne : (r.tracking.learnExtent r.data extent false).size ≠
      (r.tracking.learnExtent r.data extent false).flushSize extent := by
    intro heq
    refine hunchanged ⟨hidle.valid, heq, ?_⟩
    rw [← heq]
    exact hidle.hash
  have hlt : (r.tracking.learnExtent r.data extent false).flushSize extent <
      r.tracking.loadedSize := by omega
  obtain ⟨hpreserved, hblank⟩ := htail hlt
  have hflush : (r.tracking.learnExtent r.data extent false).flushSize extent = extent := by
    unfold Tracking.flushSize
    omega
  rcases h.file with ⟨-, hzero⟩ | ⟨bytes, hfile, hlength⟩
  · omega
  · have hprefix := h.isPrefix bytes hfile
    have hagree := h.agree bytes hfile
    rw [hreport] at hagree
    refine ⟨bytes, hfile, by omega, fun i hlow hhigh => ?_, ?_⟩
    · rw [hagree i hlow hhigh]
      exact hblank i hlow (by omega)
    · rw [hflush, hprefix, List.take_take, Nat.min_eq_left (by omega)]

/-- **A turn of a flush keeps the region idle.** -/
theorem Idle.turn {r : Region} (h : r.Idle) {extent : Nat} (hreport : r.report = some extent)
    (result : PersistenceResult) (malloc : Bool) : (r.turn extent false result malloc).Idle := by
  have hidle := h.relearn hreport
  have hlearned := h.learned hreport false
  unfold Region.turn
  dsimp only
  split
  · have hbaseline := Tracking.replaceBaseline_of_length
      (t := (r.tracking.learnExtent r.data extent false).recordWrite r.data
        ((r.tracking.learnExtent r.data extent false).flushSize extent))
      (congrArg List.length hidle.baseline).symm malloc
    rw [hbaseline]
    exact
      { h.toSound.written hreport hlearned r.data with
        nonempty := h.nonempty
        valid := rfl
        baseline := rfl
        hash := rfl
        isPrefix := by
          intro bytes hfile
          obtain rfl := FileState.regular.inj hfile
          rw [List.length_take_of_le hlearned.size_le]
        size := fun _ _ _ => Or.inr rfl }
  · exact hidle

end Region

end DualBoy.Saves
