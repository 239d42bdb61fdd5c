import DualBoy.Lib.Volume
import DualBoy.Lib.Run
import DualBoy.Saves.Paths

/-!
# Atomic replacement

`dualboy_write_file_atomic` by its system calls: one step for each, whose outcome the system chooses.
Bytes that were not synced, and directory operations, may be lost in a crash.

* `atomic_write`: the target has its old content or all of the new one, whatever the outcomes and
  wherever a crash comes; success is the rename's; a failure leaves the target and takes the
  temporary file away; and finitely many interruptions do not keep the function from returning.
-/

namespace DualBoy.Saves

open DualBoy.Lib

/-! ## Arguments -/

/-- The `data` and `size` arguments: a null pointer with any size, or a block of that size. -/
inductive Block where
  | null (size : Nat)
  | block (bytes : List Byte)
  deriving DecidableEq, Repr

/-- What is to be written. -/
def Block.contents : Block → List Byte
  | .null _ => []
  | .block bytes => bytes

/-- `data == NULL && size != 0`. -/
def Block.invalid : Block → Bool
  | .null size => size ≠ 0
  | .block _ => false

/-- The part of a path before its last slash, that slash included. -/
def directoryPart (path : Path) : Path :=
  (path.reverse.dropWhile (· ≠ '/')).reverse

/-- The part of a path after its last slash. -/
def namePart (path : Path) : Path :=
  (path.reverse.takeWhile (· ≠ '/')).reverse

/-- `valid_target_path`. -/
def validTargetPath (path : Path) : Bool :=
  path.getLast? ≠ some '/' && namePart path ≠ [] && namePart path ≠ ['.'] &&
    namePart path ≠ ['.', '.']

/-- The template of `mkstemp` without the six characters it replaces. -/
def temporaryName : Path :=
  ".dualboy-save-".toList

/-- `sizeof(temporary_name)`, with the terminating zero. -/
def temporaryNameSize : Nat :=
  temporaryName.length + 6 + 1

/-- The checks before the first system call: the path, or the result that is returned at once. -/
def checkArguments (path : Option Path) (data : Block) : Except PersistenceResult Path :=
  match path with
  | none => .error .invalidArgument
  | some path =>
    if path = [] ∨ data.invalid = true then .error .invalidArgument
    else if pathCapacity ≤ path.length then .error .pathTooLong
    else if validTargetPath path = false then .error .invalidArgument
    else if sizeMax - temporaryNameSize < (directoryPart path).length ∨
        pathCapacity < (directoryPart path).length + temporaryNameSize then .error .pathTooLong
    else .ok path

/-- The checks do not change the path. -/
theorem checkArguments_eq_ok {path : Option Path} {data : Block} {checked : Path}
    (h : checkArguments path data = .ok checked) : path = some checked := by
  unfold checkArguments at h
  cases path with
  | none => cases h
  | some path =>
    dsimp only at h
    split_ifs at h
    exact congrArg some (Except.ok.inj h)

/-- What the checks return is an error. -/
theorem checkArguments_ne_ok (path : Option Path) (data : Block) :
    checkArguments path data ≠ .error .ok := by
  unfold checkArguments
  cases path with
  | none => simp
  | some path =>
    dsimp only
    split_ifs <;> simp

/-! ## System calls -/

/-- How a system call ends. Only `write` can be short; what a call cannot do counts as failing. -/
inductive Outcome where
  | succeeds
  | short (count : Nat)
  | interrupted
  | fails
  deriving DecidableEq, Repr

/-- The system call the function has come to. -/
inductive Stage where
  | malloc
  | mkstemp
  | write (offset : Nat)
  | fsync
  | close
  | rename
  /-- `sync_parent_directory_best_effort` -/
  | openParent
  | fsyncParent
  /-- after `cleanup:`, with the descriptor open or not -/
  | cleanupClose
  | cleanupUnlink
  | returned (result : PersistenceResult)
  deriving DecidableEq, Repr

/-- What a call of the function writes, where to, and by way of which name. -/
structure Replacement where
  path : Path
  data : List Byte
  /-- The six characters `mkstemp` finds. -/
  unique : Path

namespace Replacement

/-- `SSIZE_MAX`. -/
def ssizeMax : Nat := 2 ^ 63 - 1

/-- The name of the temporary file. -/
def temporary (r : Replacement) : Path :=
  directoryPart r.path ++ temporaryName ++ r.unique

/-- A call under way. -/
structure State where
  volume : Volume Path
  stage : Stage

/-- The loop's condition. -/
def loop (r : Replacement) (offset : Nat) : Stage :=
  if offset < r.data.length then .write offset else .fsync

/-- What `write` reports for the rest of the data from `offset`. -/
def amount (r : Replacement) (offset : Nat) : Outcome → Option Nat
  | .succeeds => some (min (r.data.length - offset) ssizeMax)
  | .short count => some (min count (min (r.data.length - offset) ssizeMax))
  | .interrupted | .fails => none

/-- One system call. -/
def step (r : Replacement) (s : State) (outcome : Outcome) : State :=
  match s.stage with
  | .malloc =>
    if outcome = .succeeds then { s with stage := .mkstemp }
    else { s with stage := .returned .ioError }
  | .mkstemp =>
    if outcome = .succeeds then
      { volume := s.volume.create r.temporary, stage := r.loop 0 }
    else { s with stage := .returned .ioError }
  | .write offset =>
    if outcome = .interrupted then s
    else
      match r.amount offset outcome with
      | none | some 0 => { s with stage := .cleanupClose }
      | some amount =>
        { volume := s.volume.overwrite r.temporary (r.data.take (offset + amount))
          stage := r.loop (offset + amount) }
  | .fsync =>
    if outcome = .interrupted then s
    else if outcome = .succeeds then
      { volume := s.volume.sync r.temporary, stage := .close }
    else { s with stage := .cleanupClose }
  | .close =>
    if outcome = .succeeds then { s with stage := .rename }
    else { s with stage := .cleanupUnlink }
  | .rename =>
    if outcome = .succeeds then
      { volume := s.volume.rename r.temporary r.path, stage := .openParent }
    else { s with stage := .cleanupUnlink }
  | .openParent =>
    if outcome = .succeeds then { s with stage := .fsyncParent }
    else { s with stage := .returned .ok }
  | .fsyncParent =>
    if outcome = .interrupted then s
    else { s with stage := .returned .ok }
  | .cleanupClose => { s with stage := .cleanupUnlink }
  | .cleanupUnlink =>
    if outcome = .succeeds then
      { volume := s.volume.unlink r.temporary, stage := .returned .ioError }
    else { s with stage := .returned .ioError }
  | .returned _ => s

/-! ## What holds at each system call -/

/-- `mkstemp` finds a name that nothing has, and that is not the target's. -/
structure Fresh (r : Replacement) (files : Files Path) : Prop where
  missing : files r.temporary = .missing
  apart : r.temporary ≠ r.path

def start (files : Files Path) : State :=
  ⟨.settled files, .malloc⟩

/-- The target has what it had. -/
def Untouched (r : Replacement) (files : Files Path) (volume : Volume Path) : Prop :=
  volume.versions r.path = [⟨files r.path, true⟩]

/-- The target has the new data, and may yet lose it to what it had. -/
def Replaced (r : Replacement) (files : Files Path) (volume : Volume Path) : Prop :=
  volume.versions r.path = [⟨.regular r.data, true⟩, ⟨files r.path, true⟩] ∧
    (volume.now r.temporary).state = .missing

/-- What holds where a system call comes next; with `unlinks`, when `unlink` does not fail. -/
def At (r : Replacement) (files : Files Path) (unlinks : Prop) (volume : Volume Path) :
    Stage → Prop
  | .malloc | .mkstemp => volume = .settled files
  | .write offset => offset < r.data.length ∧ r.Untouched files volume ∧
      (volume.now r.temporary).state = .regular (r.data.take offset)
  | .fsync => r.Untouched files volume ∧ (volume.now r.temporary).state = .regular r.data
  | .close | .rename => r.Untouched files volume ∧
      volume.now r.temporary = ⟨.regular r.data, true⟩
  | .openParent | .fsyncParent | .returned .ok => r.Replaced files volume
  | .cleanupClose | .cleanupUnlink => r.Untouched files volume
  | .returned _ => r.Untouched files volume ∧
      (unlinks → (volume.now r.temporary).state = .missing)

/-- A state a call comes to: the files it is not about are as they were. -/
structure Valid (r : Replacement) (files : Files Path) (unlinks : Prop) (s : State) : Prop where
  others : ∀ p, p ≠ r.path → p ≠ r.temporary → s.volume.versions p = [⟨files p, true⟩]
  at_stage : r.At files unlinks s.volume s.stage

variable {r : Replacement} {files : Files Path} {unlinks : Prop} {s : State}

theorem valid_start (r : Replacement) (files : Files Path) (unlinks : Prop) :
    r.Valid files unlinks (start files) :=
  ⟨fun _ _ _ => rfl, rfl⟩

/-- Leaving the loop and going on in it agree about the temporary file. -/
theorem at_loop {volume : Volume Path} {offset : Nat} (hold : r.Untouched files volume)
    (htemporary : (volume.now r.temporary).state = .regular (r.data.take offset)) :
    r.At files unlinks volume (r.loop offset) := by
  unfold loop
  split
  · rename_i hlt
    exact ⟨hlt, hold, htemporary⟩
  · rename_i hge
    rw [List.take_of_length_le (by omega)] at htemporary
    exact ⟨hold, htemporary⟩

/-- **A system call keeps what holds.** -/
theorem Valid.step (hfresh : r.Fresh files) (h : r.Valid files unlinks s) {outcome : Outcome}
    (hunlinks : s.stage = .cleanupUnlink → unlinks → outcome = .succeeds) :
    r.Valid files unlinks (r.step s outcome) := by
  obtain ⟨hothers, hstage⟩ := h
  have hpath := hfresh.apart.symm
  unfold Replacement.step
  cases hs : s.stage with
  | malloc =>
    rw [hs] at hstage
    dsimp only
    split
    · exact ⟨hothers, hstage⟩
    · refine ⟨hothers, ?_⟩
      dsimp only
      rw [show s.volume = _ from hstage]
      exact ⟨rfl, fun _ => hfresh.missing⟩
  | mkstemp =>
    rw [hs] at hstage
    dsimp only
    have hsettled : s.volume = .settled files := hstage
    split
    · refine ⟨fun p hp ht => ?_, at_loop ?_ ?_⟩
      · exact (Volume.versions_enter_of_ne ht _ _).trans (hothers p hp ht)
      · unfold Untouched
        rw [hsettled]
        exact Volume.versions_enter_of_ne hpath _ _
      · simp [Volume.create]
    · refine ⟨hothers, ?_⟩
      dsimp only
      rw [hsettled]
      exact ⟨rfl, fun _ => hfresh.missing⟩
  | write offset =>
    rw [hs] at hstage
    obtain ⟨hlt, hold, htemporary⟩ := hstage
    dsimp only
    split
    · exact ⟨hothers, by rw [hs]; exact ⟨hlt, hold, htemporary⟩⟩
    · split
      · exact ⟨hothers, hold⟩
      · exact ⟨hothers, hold⟩
      · rename_i amount _ _
        refine ⟨fun p hp ht => ?_, at_loop ?_ ?_⟩
        · exact (Volume.versions_overwrite_of_ne ht _ _).trans (hothers p hp ht)
        · exact (Volume.versions_overwrite_of_ne hpath _ _).trans hold
        · simp
  | fsync =>
    rw [hs] at hstage
    obtain ⟨hold, htemporary⟩ := hstage
    dsimp only
    split
    · exact ⟨hothers, by rw [hs]; exact ⟨hold, htemporary⟩⟩
    · split
      · refine ⟨fun p hp ht => ?_, ?_, ?_⟩
        · exact (Volume.versions_sync_of_ne ht _).trans (hothers p hp ht)
        · exact (Volume.versions_sync_of_ne hpath _).trans hold
        · rw [Volume.sync_self, htemporary]
      · exact ⟨hothers, hold⟩
  | close =>
    rw [hs] at hstage
    dsimp only
    split
    · exact ⟨hothers, hstage⟩
    · exact ⟨hothers, hstage.1⟩
  | rename =>
    rw [hs] at hstage
    obtain ⟨hold, htemporary⟩ := hstage
    dsimp only
    split
    · refine ⟨fun p hp ht => ?_, ?_, ?_⟩
      · exact (Volume.versions_rename_of_ne ht hp _).trans (hothers p hp ht)
      · rw [Volume.versions_rename_target hpath, htemporary, hold]
      · rw [Volume.rename_source]
    · exact ⟨hothers, hold⟩
  | openParent =>
    rw [hs] at hstage
    dsimp only
    split
    · exact ⟨hothers, hstage⟩
    · exact ⟨hothers, hstage⟩
  | fsyncParent =>
    rw [hs] at hstage
    dsimp only
    split
    · exact ⟨hothers, by rw [hs]; exact hstage⟩
    · exact ⟨hothers, hstage⟩
  | cleanupClose =>
    rw [hs] at hstage
    exact ⟨hothers, hstage⟩
  | cleanupUnlink =>
    rw [hs] at hstage
    dsimp only
    split
    · refine ⟨fun p hp ht => ?_, ?_, fun _ => ?_⟩
      · exact (Volume.versions_unlink_of_ne ht _).trans (hothers p hp ht)
      · exact (Volume.versions_unlink_of_ne hpath _).trans hstage
      · rw [Volume.unlink_self]
    · rename_i hfails
      exact ⟨hothers, hstage, fun h => absurd (hunlinks hs h) hfails⟩
  | returned result => exact ⟨hothers, hstage⟩

/-- The versions of the target are its old content and, maybe, the new one whole. -/
theorem Valid.target (h : r.Valid files unlinks s) : ∀ v ∈ s.volume.versions r.path,
    v.synced = true ∧ (v.state = files r.path ∨ v.state = .regular r.data) := by
  have hcases : r.Untouched files s.volume ∨ r.Replaced files s.volume := by
    have hstage := h.at_stage
    cases hs : s.stage with
    | malloc | mkstemp =>
      rw [hs] at hstage
      refine Or.inl ?_
      rw [show s.volume = _ from hstage]
      rfl
    | write offset => rw [hs] at hstage; exact Or.inl hstage.2.1
    | fsync | close | rename => rw [hs] at hstage; exact Or.inl hstage.1
    | openParent | fsyncParent => rw [hs] at hstage; exact Or.inr hstage
    | cleanupClose | cleanupUnlink => rw [hs] at hstage; exact Or.inl hstage
    | returned result =>
      rw [hs] at hstage
      cases result with
      | ok => exact Or.inr hstage
      | invalidArgument | pathTooLong | notFound | tooLarge | ioError => exact Or.inl hstage.1
  intro v hv
  rcases hcases with hold | ⟨hnew, -⟩
  · rw [show s.volume.versions r.path = _ from hold, List.mem_singleton] at hv
    rw [hv]
    exact ⟨rfl, Or.inl rfl⟩
  · rw [hnew, List.mem_cons, List.mem_singleton] at hv
    rcases hv with rfl | rfl
    · exact ⟨rfl, Or.inr rfl⟩
    · exact ⟨rfl, Or.inl rfl⟩

/-- After the rename, as far as the result is success. -/
def Published (s : State) : Prop :=
  s.stage = .openParent ∨ s.stage = .fsyncParent ∨ s.stage = .returned .ok

/-- The step is the rename, and it succeeds. -/
def Renames (s : State) (outcome : Outcome) : Prop :=
  s.stage = .rename ∧ outcome = .succeeds

/-- **Only the rename leads to success.** -/
theorem published_step (s : State) (outcome : Outcome) :
    Published (r.step s outcome) ↔ Published s ∨ Renames s outcome := by
  unfold Published Renames step loop
  cases hs : s.stage <;> dsimp only <;> repeat' split
  all_goals simp_all

/-- How many more uninterrupted system calls there can be. -/
def remaining (r : Replacement) (s : State) : Nat :=
  match s.stage with
  | .malloc => r.data.length + 12
  | .mkstemp => r.data.length + 11
  | .write offset => r.data.length - offset + 10
  | .fsync => 9
  | .close => 8
  | .rename => 7
  | .openParent => 6
  | .fsyncParent => 5
  | .cleanupClose => 4
  | .cleanupUnlink => 3
  | .returned _ => 0

/-- The function has returned. -/
def Returned (s : State) : Prop :=
  ∃ result, s.stage = .returned result

/-- A `write` that is not interrupted and does not fail takes some of the rest. -/
theorem amount_le {offset amount : Nat} {outcome : Outcome}
    (h : r.amount offset outcome = some amount) : amount ≤ r.data.length - offset := by
  cases outcome with
  | succeeds => obtain rfl := Option.some.inj h; exact Nat.min_le_left _ _
  | short count => obtain rfl := Option.some.inj h; omega
  | interrupted | fails => cases h

theorem remaining_loop (r : Replacement) (volume : Volume Path) (offset : Nat) :
    r.remaining ⟨volume, r.loop offset⟩ ≤ r.data.length - offset + 10 := by
  unfold remaining loop
  dsimp only
  by_cases hlt : offset < r.data.length
  · exact Nat.le_of_eq (by rw [if_pos hlt])
  · rw [if_neg hlt]
    dsimp only
    omega

/-- **A system call that is not interrupted brings the function nearer to its return.** -/
theorem remaining_step (hvalid : r.Valid files unlinks s) {outcome : Outcome}
    (hnot : outcome ≠ .interrupted) (hgoing : ¬ Returned s) :
    r.remaining (r.step s outcome) < r.remaining s := by
  obtain ⟨-, hstage⟩ := hvalid
  unfold step
  cases hs : s.stage with
  | mkstemp =>
    dsimp only
    split
    · have hloop := r.remaining_loop (s.volume.create r.temporary) 0
      simp only [remaining, hs] at hloop ⊢
      omega
    · simp only [remaining, hs]
      omega
  | write offset =>
    rw [hs] at hstage
    obtain ⟨hlt, -, -⟩ := hstage
    dsimp only
    rw [if_neg hnot]
    split
    · simp only [remaining, hs]
      omega
    · simp only [remaining, hs]
      omega
    · rename_i amount hzero hamount
      have hle := amount_le hamount
      have hne : amount ≠ 0 := fun h => hzero (by rw [h])
      have hloop := r.remaining_loop
        (s.volume.overwrite r.temporary (r.data.take (offset + amount))) (offset + amount)
      refine Nat.lt_of_le_of_lt hloop ?_
      simp only [remaining, hs]
      omega
  | fsync =>
    dsimp only
    rw [if_neg hnot]
    split_ifs <;> simp only [remaining, hs] <;> omega
  | fsyncParent =>
    dsimp only
    rw [if_neg hnot]
    simp only [remaining, hs]
    omega
  | malloc | close | rename | openParent | cleanupUnlink =>
    dsimp only
    split_ifs <;> simp only [remaining, hs] <;> omega
  | cleanupClose =>
    simp only [remaining, hs]
    omega
  | returned result => exact absurd ⟨result, hs⟩ hgoing

/-! ## Whole calls -/

/-- `unlink`, where the function comes to it, takes the temporary file away. -/
def UnlinkSucceeds (s : State) (outcome : Outcome) : Prop :=
  s.stage = .cleanupUnlink → outcome = .succeeds

variable {outcomes : List Outcome}

theorem valid_run (hfresh : r.Fresh files) (outcomes : List Outcome) :
    r.Valid files False (run r.step (start files) outcomes) :=
  run_invariant (fun _ _ h => h.step hfresh fun _ hfalse => hfalse.elim) outcomes
    (valid_start r files False)

theorem valid_along (hfresh : r.Fresh files)
    (halong : Along r.step UnlinkSucceeds (start files) outcomes) :
    r.Valid files True (run r.step (start files) outcomes) :=
  halong.invariant (fun _ _ h hunlink => h.step hfresh fun hstage _ => hunlink hstage)
    (valid_start r files True)

theorem Valid.others_eq (h : r.Valid files unlinks s) {p : Path} (hp : p ≠ r.path)
    (ht : p ≠ r.temporary) : s.volume.files p = files p :=
  congrArg Version.state (List.cons.inj (h.others p hp ht)).1

/-- After success the files are those with the target replaced. -/
theorem Valid.files_ok (hfresh : r.Fresh files) (h : r.Valid files unlinks s)
    (hreturned : s.stage = .returned .ok) : s.volume.files = files.put r.path r.data := by
  obtain ⟨hnew, htemporary⟩ : r.Replaced files s.volume := by
    have hstage := h.at_stage
    rw [hreturned] at hstage
    exact hstage
  funext p
  by_cases hp : p = r.path
  · subst hp
    rw [Files.put_self]
    exact congrArg Version.state (List.cons.inj hnew).1
  · rw [Files.put_of_ne hp]
    by_cases ht : p = r.temporary
    · subst ht
      exact htemporary.trans hfresh.missing.symm
    · exact h.others_eq hp ht

/-- After a failure the target is as it was. -/
theorem Valid.target_of_failed (h : r.Valid files unlinks s) {result : PersistenceResult}
    (hreturned : s.stage = .returned result) (hfailed : result ≠ .ok) :
    s.volume.files r.path = files r.path ∧
      (unlinks → (s.volume.now r.temporary).state = .missing) := by
  have hstage := h.at_stage
  rw [hreturned] at hstage
  cases result with
  | ok => exact absurd rfl hfailed
  | invalidArgument | pathTooLong | notFound | tooLarge | ioError =>
    exact ⟨congrArg Version.state (List.cons.inj hstage.1).1, hstage.2⟩

/-- After a failure, with the temporary file gone, the files are as they were. -/
theorem files_of_failed (hfresh : r.Fresh files)
    (halong : Along r.step UnlinkSucceeds (start files) outcomes) {result : PersistenceResult}
    (hreturned : (run r.step (start files) outcomes).stage = .returned result)
    (hfailed : result ≠ .ok) : (run r.step (start files) outcomes).volume.files = files := by
  have hvalid := valid_along hfresh halong
  obtain ⟨htarget, hgone⟩ := hvalid.target_of_failed hreturned hfailed
  funext p
  by_cases hp : p = r.path
  · rw [hp]
    exact htarget
  · by_cases ht : p = r.temporary
    · rw [ht]
      exact (hgone trivial).trans hfresh.missing.symm
    · exact hvalid.others_eq hp ht

/-- Success is the rename's. -/
theorem returned_ok_iff {result : PersistenceResult}
    (hreturned : (run r.step (start files) outcomes).stage = .returned result) :
    result = .ok ↔ Sometime r.step Renames (start files) outcomes := by
  have hflag : Published (run r.step (start files) outcomes) ↔
      Published (start files) ∨ Sometime r.step Renames (start files) outcomes :=
    sometime_iff published_step outcomes
  have hstart : ¬ Published (start files) := by simp [Published, start]
  have hresult : Published (run r.step (start files) outcomes) ↔ result = .ok := by
    simp [Published, hreturned]
  rw [← hresult, hflag]
  exact ⟨fun h => h.resolve_left hstart, Or.inr⟩

end Replacement

/-- The start of `dualboy_write_file_atomic`: what it replaces, or what it returns at once. -/
def writeFileAtomic (path : Option Path) (data : Block) (unique : Path) :
    Except PersistenceResult Replacement :=
  (checkArguments path data).map fun path => ⟨path, data.contents, unique⟩

open Replacement in
/-- **The write is atomic.** For accepted arguments and whatever the system calls return, the target
has its old content or the whole of the new one, also after a crash; the result is success exactly
when the rename succeeded, and the target is then replaced; any other result leaves it, and leaves
no temporary file that `unlink` can take away. Finitely many interruptions do not keep the
function from returning. -/
theorem atomic_write {path : Option Path} {data : Block} {unique : Path} {r : Replacement}
    {files : Files Path} (hr : writeFileAtomic path data unique = .ok r)
    (hfresh : r.Fresh files) :
    (path = some r.path ∧ r.data = data.contents) ∧
      (∀ outcomes : List Outcome,
        let s := run r.step (start files) outcomes
        (s.volume.files r.path = files r.path ∨ s.volume.files r.path = .regular r.data) ∧
        (∀ left, s.volume.Crash left →
          left r.path = files r.path ∨ left r.path = .regular r.data) ∧
        ∀ result, s.stage = .returned result →
          (result = .ok ↔ Sometime r.step Renames (start files) outcomes) ∧
          (result = .ok → s.volume.files = files.put r.path r.data) ∧
          (result ≠ .ok → s.volume.files r.path = files r.path) ∧
          (result ≠ .ok → Along r.step UnlinkSucceeds (start files) outcomes →
            s.volume.files = files)) ∧
      ∀ (outcomes : Nat → Outcome) (m : Nat), (∀ n, m ≤ n → outcomes n ≠ .interrupted) →
        ∃ n, Returned (run r.step (start files) (firstOf outcomes n)) := by
  refine ⟨?_, fun outcomes => ?_, fun outcomes m hcalm => ?_⟩
  · unfold writeFileAtomic at hr
    cases hchecked : checkArguments path data with
    | error result =>
      rw [hchecked] at hr
      cases hr
    | ok path' =>
      rw [hchecked] at hr
      obtain rfl := Except.ok.inj hr
      exact ⟨checkArguments_eq_ok hchecked, rfl⟩
  · have hvalid := valid_run hfresh outcomes
    refine ⟨?_, fun left hcrash => ?_, fun result hreturned => ⟨?_, ?_, ?_, ?_⟩⟩
    · exact (hvalid.target _ List.mem_cons_self).2
    · exact Volume.Crash.of_synced (fun state => state = files r.path ∨ state = .regular r.data)
        hcrash hvalid.target
    · exact returned_ok_iff hreturned
    · rintro rfl
      exact hvalid.files_ok hfresh hreturned
    · exact fun hfailed => (hvalid.target_of_failed hreturned hfailed).1
    · exact fun hfailed halong => files_of_failed hfresh halong hreturned hfailed
  · exact run_comes_to (p := fun outcome => outcome ≠ .interrupted) r.remaining
      (fun s _ h => h.step hfresh fun _ hfalse => hfalse.elim)
      (fun s _ hvalid hnot hgoing => remaining_step hvalid hnot hgoing) hcalm
      (valid_start r files False)

/-- Three bytes for a path that has nothing yet. -/
def sampleReplacement : Replacement :=
  ⟨"/s/a.srm".toList, [1, 2, 3], "Xu8k2a".toList⟩

open Replacement in
/-- They are there after a crash all together or not at all. -/
theorem atomic_write_sample :
    sampleReplacement.Fresh (fun _ => .missing) ∧
      ∀ (outcomes : List Outcome) (left : Files Path),
        (run sampleReplacement.step (start fun _ => .missing) outcomes).volume.Crash left →
          left sampleReplacement.path = .missing ∨
            left sampleReplacement.path = .regular [1, 2, 3] := by
  have hr : writeFileAtomic (some "/s/a.srm".toList) (.block [1, 2, 3]) "Xu8k2a".toList =
    .ok sampleReplacement := rfl
  have hfresh : sampleReplacement.Fresh fun _ => .missing := ⟨rfl, by decide⟩
  refine ⟨hfresh, fun outcomes left hcrash => ?_⟩
  exact ((atomic_write hr hfresh).2.1 outcomes).2.1 left hcrash

/-! ## Save files -/

/-- Every suffix of a save has its dot among the last six characters. -/
theorem dot_of_suffix : ∀ s ∈ suffixes, ∃ k < 6, s.reverse[k]? = some '.' := by
  decide

/-- The names that `mkstemp` makes are those of no save: it puts six characters of its own at the
end, and no dot among them. -/
theorem Replacement.temporary_ne {r : Replacement} {suffix : Path} (hsuffix : suffix ∈ suffixes)
    (hpath : suffix <:+ r.path) (hlength : r.unique.length = 6) (hdot : '.' ∉ r.unique) :
    r.temporary ≠ r.path := by
  intro heq
  obtain ⟨k, hk, hchar⟩ := dot_of_suffix suffix hsuffix
  obtain ⟨before, hbefore⟩ := hpath
  have hend : r.path.reverse[k]? = some '.' := by
    rw [← hbefore, List.reverse_append, List.getElem?_append_left
      (List.getElem?_eq_some_iff.mp hchar).1, hchar]
  rw [← heq, temporary, List.reverse_append, List.getElem?_append_left
    (by rw [List.length_reverse]; omega)] at hend
  exact hdot (List.mem_reverse.mp (List.mem_of_getElem? hend))

/-- So a name that nothing has is fresh for every canonical file of a session. -/
theorem SavePaths.Layout.fresh {paths : SavePaths} {includeFirmware : Bool} {directory : Path}
    {stem : Fin 2 → Path} (hl : paths.Layout includeFirmware directory stem) {i : Fin 2}
    {kind : MemoryKind} (hf : kind = .firmware → includeFirmware = true) {r : Replacement}
    {files : Files Path} (hpath : r.path = paths.path i kind) (hlength : r.unique.length = 6)
    (hdot : '.' ∉ r.unique) (hmissing : files r.temporary = .missing) : r.Fresh files :=
  ⟨hmissing, r.temporary_ne (regionSuffix_mem _ _)
    (by rw [hpath, hl.path i kind hf]; exact List.suffix_append _ _) hlength hdot⟩

end DualBoy.Saves
