import DualBoy.Lib.Memory
import DualBoy.Saves.Init

/-!
# Reading a whole file

`dualboy_read_file_filled`, call by call: how `open`, `fstat`, `malloc`, every `read` and `close` end
is given, so a file may change between any two of them. A read that was interrupted is made again,
and the function has not returned as long as the outcomes given run out.

* `readLoop_spec`: what the loop reads is what its reads delivered.
* `readFileFilledCalls_returns`: enough reads that are not interrupted make it return.
* `readFileFilledCalls_file`: a file that stays as it is, in whatever pieces, is what
  `readFileFilled` finds.
* **`filled_read_iff`**.
-/

namespace DualBoy.Saves

open DualBoy.Lib

/-! ## The source -/

/-- How `open` ends. -/
inductive OpenOutcome where
  | opened
  /-- `ENOENT` or `ENOTDIR` -/
  | absent
  | failed
  deriving DecidableEq, Repr

/-- What `fstat` reports. -/
structure FileStatus where
  regular : Bool
  size : Int
  deriving DecidableEq, Repr

/-- How a `read` ends: with bytes, of which it delivers no more than it was asked for and, at the end
of the file, none; interrupted; or failed. -/
inductive ReadOutcome where
  | data (bytes : List Byte)
  | interrupted
  | failed
  deriving DecidableEq, Repr

/-- How the calls end. -/
structure ReadCalls where
  opened : OpenOutcome
  status : Option FileStatus
  malloc : Bool
  reads : List ReadOutcome
  closed : Bool

/-- `SSIZE_MAX`. -/
def ssizeMax : Nat := 2 ^ 63 - 1

/-- What a read at an offset asks for. -/
def readRequest (expectedSize offset : Nat) : Nat :=
  if ssizeMax < expectedSize - offset then ssizeMax else expectedSize - offset

/-- The loop, with what was read so far: the bytes if it comes to its end, and the outcomes left. -/
def readLoop (expectedSize : Nat) : List Byte → List ReadOutcome →
    Option (Option (List Byte) × List ReadOutcome)
  | done, [] => if done.length < expectedSize then none else some (some done, [])
  | done, outcome :: reads =>
    if done.length < expectedSize then
      match outcome with
      | .interrupted => readLoop expectedSize done reads
      | .failed => some (none, reads)
      | .data bytes =>
        let amount := bytes.take (readRequest expectedSize done.length)
        if amount = [] then some (none, reads) else readLoop expectedSize (done ++ amount) reads
    else some (some done, outcome :: reads)

/-- The last read, of one byte. -/
def readProbe : List ReadOutcome → Option ReadOutcome
  | [] => none
  | .interrupted :: reads => readProbe reads
  | .failed :: _ => some .failed
  | .data bytes :: _ => some (.data (bytes.take 1))

/-- What the function leaves: its result, the buffer and `*file_size`. -/
structure FilledRead where
  result : PersistenceResult
  buffer : Memory
  fileSize : Nat

/-- `fill_buffer`. -/
def fillBuffer (buffer : Memory) (capacity : Nat) (fill : Byte) : Memory :=
  buffer.write 0 (List.replicate capacity fill)

/-- `dualboy_read_file_filled`, behind the opening of the file. -/
def readOpened (calls : ReadCalls) (buffer : Memory) (capacity : Nat) : Option FilledRead :=
  match calls.status with
  | none => some ⟨.ioError, buffer, 0⟩
  | some status =>
    if status.regular = false ∨ status.size < 0 then some ⟨.ioError, buffer, 0⟩
    else if capacity < status.size.toNat then some ⟨.tooLarge, buffer, 0⟩
    else if calls.malloc = false then some ⟨.ioError, buffer, 0⟩
    else
      match readLoop status.size.toNat [] calls.reads with
      | none => none
      | some (none, _) => some ⟨.ioError, buffer, 0⟩
      | some (some bytes, reads) =>
        match readProbe reads with
        | none => none
        | some (.data []) =>
          if calls.closed = false then some ⟨.ioError, buffer, 0⟩
          else some ⟨.ok, buffer.write 0 bytes, status.size.toNat⟩
        | some (.data _) => some ⟨.tooLarge, buffer, 0⟩
        | some _ => some ⟨.ioError, buffer, 0⟩

/-- `dualboy_read_file_filled`; `none` as long as it has not returned. -/
def readFileFilledCalls (calls : ReadCalls) (path : Path) (buffer : Memory) (capacity : Nat)
    (fill : Byte) : Option FilledRead :=
  if path = [] then some ⟨.invalidArgument, buffer, 0⟩
  else
    let buffer := fillBuffer buffer capacity fill
    if pathCapacity ≤ path.length then some ⟨.pathTooLong, buffer, 0⟩
    else
      match calls.opened with
      | .absent => some ⟨.notFound, buffer, 0⟩
      | .failed => some ⟨.ioError, buffer, 0⟩
      | .opened => readOpened calls buffer capacity

/-! ## The contract -/

/-- What reads of a file of this size have delivered from an offset on: the bytes of each, cut to
what it was asked for, and nothing of those that were interrupted. -/
inductive Delivered (expectedSize : Nat) : Nat → List ReadOutcome → List Byte → Prop
  | nil (offset : Nat) : Delivered expectedSize offset [] []
  | interrupted {offset : Nat} {reads : List ReadOutcome} {bytes : List Byte}
      (h : Delivered expectedSize offset reads bytes) :
      Delivered expectedSize offset (.interrupted :: reads) bytes
  | data {offset : Nat} {piece : List Byte} {reads : List ReadOutcome} {bytes : List Byte}
      (hsome : piece.take (readRequest expectedSize offset) ≠ [])
      (h : Delivered expectedSize
        (offset + (piece.take (readRequest expectedSize offset)).length) reads bytes) :
      Delivered expectedSize offset (.data piece :: reads)
        (piece.take (readRequest expectedSize offset) ++ bytes)

/-- Behind these reads the file is at its end. -/
def AtEnd (reads : List ReadOutcome) : Prop :=
  ∃ interruptions rest, reads = List.replicate interruptions .interrupted ++ .data [] :: rest

/-- The contract of the header: the file's bytes, as they were read up to its end, and the fill byte
behind them; or, on any error, the fill byte everywhere and no size. -/
def FilledRead.Honours (r : FilledRead) (calls : ReadCalls) (capacity : Nat) (fill : Byte) : Prop :=
  (r.result = .ok → ∃ reads rest bytes,
    calls.reads = reads ++ rest ∧ Delivered bytes.length 0 reads bytes ∧ AtEnd rest ∧
    r.fileSize = bytes.length ∧ bytes.length ≤ capacity ∧
    r.buffer.read 0 capacity = bytes ++ List.replicate (capacity - bytes.length) fill) ∧
  (r.result ≠ .ok → r.buffer.read 0 capacity = List.replicate capacity fill ∧ r.fileSize = 0)

/-! ## The loop -/

theorem readRequest_le (expectedSize offset : Nat) :
    readRequest expectedSize offset ≤ expectedSize - offset := by
  unfold readRequest
  split <;> omega

/-- **What the loop reads is what its reads delivered.** -/
theorem readLoop_spec {expectedSize : Nat} {done bytes : List Byte} {reads rest : List ReadOutcome}
    (hdone : done.length ≤ expectedSize)
    (h : readLoop expectedSize done reads = some (some bytes, rest)) :
    ∃ used tail, reads = used ++ rest ∧ Delivered expectedSize done.length used tail ∧
      bytes = done ++ tail ∧ bytes.length = expectedSize := by
  fun_induction readLoop expectedSize done reads with
  | case1 done hless => cases h
  | case2 done hless =>
    obtain ⟨hbytes, rfl⟩ := Prod.mk.inj (Option.some.inj h)
    obtain rfl := Option.some.inj hbytes
    exact ⟨[], [], rfl, .nil _, (List.append_nil _).symm, by omega⟩
  | case3 done reads hless ih =>
    obtain ⟨used, tail, rfl, hdelivered, hrest⟩ := ih hdone h
    exact ⟨.interrupted :: used, tail, rfl, hdelivered.interrupted, hrest⟩
  | case4 done reads hless =>
    cases h
  | case5 done reads hless piece amount hnone =>
    cases h
  | case6 done reads hless piece amount hsome ih =>
    have hamount : amount.length ≤ expectedSize - done.length :=
      Nat.le_trans (List.length_take_le _ _) (readRequest_le _ _)
    obtain ⟨used, tail, rfl, hdelivered, rfl, hlength⟩ :=
      ih (by rw [List.length_append]; omega) h
    rw [List.length_append] at hdelivered
    refine ⟨.data piece :: used, amount ++ tail, rfl, .data hsome hdelivered, ?_, hlength⟩
    rw [List.append_assoc]
  | case7 done outcome reads hless =>
    obtain ⟨hbytes, rfl⟩ := Prod.mk.inj (Option.some.inj h)
    obtain rfl := Option.some.inj hbytes
    exact ⟨[], [], rfl, .nil _, (List.append_nil _).symm, by omega⟩

theorem readProbe_end {reads : List ReadOutcome} (h : readProbe reads = some (.data [])) :
    AtEnd reads := by
  fun_induction readProbe reads with
  | case1 => cases h
  | case2 reads ih =>
    obtain ⟨interruptions, rest, rfl⟩ := ih h
    exact ⟨interruptions + 1, rest, rfl⟩
  | case3 => cases h
  | case4 piece rest =>
    have hpiece := ReadOutcome.data.inj (Option.some.inj h)
    rcases List.take_eq_nil_iff.mp hpiece with hone | rfl
    · cases hone
    · exact ⟨0, rest, rfl⟩

/-- A file read in pieces, none of them empty, is read to its end. -/
theorem readLoop_pieces {expectedSize : Nat} (hmax : expectedSize ≤ ssizeMax)
    {pieces : List (List Byte)} (hsome : ∀ piece ∈ pieces, piece ≠ []) {done : List Byte}
    (hwhole : (done ++ pieces.flatten).length = expectedSize) (rest : List ReadOutcome) :
    readLoop expectedSize done (pieces.map ReadOutcome.data ++ rest) =
      some (some (done ++ pieces.flatten), rest) := by
  induction pieces generalizing done with
  | nil =>
    rw [List.flatten_nil, List.append_nil] at hwhole ⊢
    rw [List.map_nil, List.nil_append]
    have hend : ¬done.length < expectedSize := by omega
    cases rest with
    | nil => simp only [readLoop, hend, if_false]
    | cons outcome rest => simp only [readLoop, hend, if_false]
  | cons piece pieces ih =>
    have hpiece : piece ≠ [] := hsome piece List.mem_cons_self
    have hpos : 0 < piece.length := List.length_pos_of_ne_nil hpiece
    rw [List.flatten_cons, ← List.append_assoc] at hwhole ⊢
    have hsize := hwhole
    rw [List.length_append, List.length_append] at hsize
    have hrequest : piece.take (readRequest expectedSize done.length) = piece := by
      refine List.take_of_length_le ?_
      unfold readRequest
      split <;> omega
    have hless : done.length < expectedSize := by omega
    rw [List.map_cons, List.cons_append, readLoop.eq_def]
    simp only [hless, hrequest, hpiece, if_true, if_false]
    exact ih (fun piece hmem => hsome piece (List.mem_cons_of_mem _ hmem)) hwhole

/-- The reads that were not interrupted. -/
def completed (reads : List ReadOutcome) : Nat :=
  reads.countP fun outcome => decide (outcome ≠ .interrupted)

@[simp] theorem completed_interrupted (reads : List ReadOutcome) :
    completed (.interrupted :: reads) = completed reads := by
  simp [completed]

@[simp] theorem completed_failed (reads : List ReadOutcome) :
    completed (.failed :: reads) = completed reads + 1 := by
  simp [completed]

@[simp] theorem completed_data (bytes : List Byte) (reads : List ReadOutcome) :
    completed (.data bytes :: reads) = completed reads + 1 := by
  simp [completed]

/-- Each completed read ends the loop or brings it on. -/
theorem readLoop_returns {expectedSize : Nat} {done : List Byte} {reads : List ReadOutcome}
    (h : expectedSize - done.length < completed reads) :
    ∃ bytes rest, readLoop expectedSize done reads = some (bytes, rest) ∧
      (bytes ≠ none → 0 < completed rest) := by
  fun_induction readLoop expectedSize done reads with
  | case1 done hless => exact absurd h (Nat.not_lt_zero _)
  | case2 done hless => exact absurd h (Nat.not_lt_zero _)
  | case3 done reads hless ih => exact ih h
  | case4 done reads hless => exact ⟨none, reads, rfl, fun hne => absurd rfl hne⟩
  | case5 done reads hless piece amount hnone => exact ⟨none, reads, rfl, fun hne => absurd rfl hne⟩
  | case6 done reads hless piece amount hsome ih =>
    have hpos : 0 < amount.length := List.length_pos_of_ne_nil hsome
    rw [completed_data] at h
    refine ih ?_
    rw [List.length_append]
    omega
  | case7 done outcome reads hless => exact ⟨some done, outcome :: reads, rfl, fun _ => by omega⟩

theorem readProbe_returns {reads : List ReadOutcome} (h : 0 < completed reads) :
    ∃ outcome, readProbe reads = some outcome := by
  fun_induction readProbe reads with
  | case1 => exact absurd h (Nat.lt_irrefl 0)
  | case2 reads ih => exact ih h
  | case3 => exact ⟨.failed, rfl⟩
  | case4 bytes => exact ⟨.data (bytes.take 1), rfl⟩

/-! ## The buffer -/

theorem fillBuffer_read (buffer : Memory) (capacity : Nat) (fill : Byte) :
    (fillBuffer buffer capacity fill).read 0 capacity = List.replicate capacity fill := by
  refine Memory.read_eq_of_getD (List.length_replicate) fun k hk => ?_
  unfold fillBuffer Memory.write
  rw [List.length_replicate, if_pos (by omega), Nat.zero_add, Nat.sub_zero]

/-- Bytes at the front of a filled buffer. -/
theorem fillBuffer_write_read (buffer : Memory) {capacity : Nat} (fill : Byte) {bytes : List Byte}
    (h : bytes.length ≤ capacity) :
    ((fillBuffer buffer capacity fill).write 0 bytes).read 0 capacity =
      bytes ++ List.replicate (capacity - bytes.length) fill := by
  have hlength : (bytes ++ List.replicate (capacity - bytes.length) fill).length = capacity := by
    rw [List.length_append, List.length_replicate]
    omega
  refine Memory.read_eq_of_getD hlength fun k hk => ?_
  unfold fillBuffer Memory.write
  rw [Nat.zero_add, Nat.sub_zero, List.length_replicate]
  simp only [List.getD_eq_getElem?_getD]
  by_cases hbytes : k < bytes.length
  · rw [if_pos (by omega), List.getElem?_append_left hbytes]
  · rw [if_neg (by omega), if_pos (by omega), List.getElem?_append_right (by omega),
      List.getElem?_replicate, List.getElem?_replicate, if_pos hk, if_pos (by omega)]

/-! ## The contract, kept and broken -/

variable {calls : ReadCalls} {buffer : Memory} {capacity : Nat} {fill : Byte} {r : FilledRead}

/-- An error, behind the filling of the buffer. -/
theorem honours_error {result : PersistenceResult} (hresult : result ≠ .ok) :
    (⟨result, fillBuffer buffer capacity fill, 0⟩ : FilledRead).Honours calls capacity fill :=
  ⟨fun h => absurd h hresult, fun _ => ⟨fillBuffer_read buffer capacity fill, rfl⟩⟩

/-- **Behind the filling every exit keeps the contract.** -/
theorem readOpened_honours (h : readOpened calls (fillBuffer buffer capacity fill) capacity = some r) :
    r.Honours calls capacity fill := by
  have herror {result : PersistenceResult}
      (h : some (⟨result, fillBuffer buffer capacity fill, 0⟩ : FilledRead) = some r)
      (hresult : result ≠ .ok) : r.Honours calls capacity fill := by
    obtain rfl := Option.some.inj h
    exact honours_error hresult
  unfold readOpened at h
  cases hstatus : calls.status with
  | none =>
    rw [hstatus] at h
    exact herror h (by decide)
  | some status =>
    rw [hstatus] at h
    dsimp only at h
    split at h
    · exact herror h (by decide)
    split at h
    · exact herror h (by decide)
    rename_i hfits
    split at h
    · exact herror h (by decide)
    cases hloop : readLoop status.size.toNat [] calls.reads with
    | none =>
      rw [hloop] at h
      cases h
    | some ended =>
      rw [hloop] at h
      obtain ⟨_ | bytes, reads⟩ := ended
      · exact herror h (by decide)
      obtain ⟨used, tail, hreads, hdelivered, hbytes, hlength⟩ := readLoop_spec (Nat.zero_le _) hloop
      obtain rfl : bytes = tail := hbytes
      dsimp only at h
      split at h
      · cases h
      · rename_i hprobe
        split at h
        · exact herror h (by decide)
        obtain rfl := Option.some.inj h
        refine ⟨fun _ => ⟨used, reads, bytes, hreads, hlength ▸ hdelivered, readProbe_end hprobe,
          hlength.symm, by omega, ?_⟩, fun hne => absurd rfl hne⟩
        exact fillBuffer_write_read buffer fill (by omega)
      · exact herror h (by decide)
      · exact herror h (by decide)

/-- **The contract of `dualboy_read_file_filled` holds just where the path is not empty**, or the
buffer already is what it would be filled with: an empty path is refused before the buffer is
filled. -/
theorem filled_read_iff {path : Path}
    (h : readFileFilledCalls calls path buffer capacity fill = some r) :
    r.Honours calls capacity fill ↔
      path ≠ [] ∨ buffer.read 0 capacity = List.replicate capacity fill := by
  unfold readFileFilledCalls at h
  by_cases hpath : path = []
  · rw [if_pos hpath] at h
    obtain rfl := Option.some.inj h
    constructor
    · intro hhonours
      exact Or.inr (hhonours.2 nofun).1
    · rintro (hne | hfilled)
      · exact absurd hpath hne
      · exact ⟨nofun, fun _ => ⟨hfilled, rfl⟩⟩
  · rw [if_neg hpath] at h
    refine iff_of_true ?_ (Or.inl hpath)
    dsimp only at h
    split at h
    · obtain rfl := Option.some.inj h
      exact honours_error nofun
    · split at h
      · obtain rfl := Option.some.inj h
        exact honours_error nofun
      · obtain rfl := Option.some.inj h
        exact honours_error nofun
      · exact readOpened_honours h

/-- A file of two bytes that has grown by one, read in two pieces with an interruption between. -/
theorem filled_read_iff_grown :
    ∃ r, readFileFilledCalls
        ⟨.opened, some ⟨true, 2⟩, true, [.data [1], .interrupted, .data [2, 9], .data [3]], true⟩
        ['a'] (fun _ => 0) 4 0xa5 = some r ∧
      (r.Honours
          ⟨.opened, some ⟨true, 2⟩, true, [.data [1], .interrupted, .data [2, 9], .data [3]], true⟩
          4 0xa5 ↔
        (['a'] : Path) ≠ [] ∨
          Memory.read (fun _ => 0) 0 4 = List.replicate 4 (0xa5 : Byte)) :=
  ⟨_, rfl, filled_read_iff rfl⟩

/-- An empty path is refused with the buffer as it was. -/
theorem filled_read_empty_path :
    ∃ calls r, readFileFilledCalls calls [] (fun _ => 0) 1 0xa5 = some r ∧
      r.result = .invalidArgument ∧ ¬r.Honours calls 1 0xa5 := by
  refine ⟨⟨.absent, none, false, [], false⟩, ⟨.invalidArgument, fun _ => 0, 0⟩, rfl, rfl, ?_⟩
  intro h
  exact absurd (h.2 nofun).1 (by decide)

/-! ## Returning, and a file that stays as it is -/

/-- **With more completed reads than the capacity the function returns.** -/
theorem readFileFilledCalls_returns (path : Path)
    (h : capacity < completed calls.reads) :
    ∃ r, readFileFilledCalls calls path buffer capacity fill = some r := by
  unfold readFileFilledCalls
  split
  · exact ⟨_, rfl⟩
  dsimp only
  split
  · exact ⟨_, rfl⟩
  split
  · exact ⟨_, rfl⟩
  · exact ⟨_, rfl⟩
  unfold readOpened
  split
  · exact ⟨_, rfl⟩
  rename_i status hstatus
  split
  · exact ⟨_, rfl⟩
  split
  · exact ⟨_, rfl⟩
  rename_i hfits
  split
  · exact ⟨_, rfl⟩
  have henough : status.size.toNat - ([] : List Byte).length < completed calls.reads := by
    rw [List.length_nil]
    omega
  obtain ⟨bytes, rest, hloop, hrest⟩ := readLoop_returns henough
  rw [hloop]
  cases bytes with
  | none => exact ⟨_, rfl⟩
  | some bytes =>
    obtain ⟨outcome, hprobe⟩ := readProbe_returns (hrest nofun)
    dsimp only
    rw [hprobe]
    split
    · cases ‹some outcome = none›
    · split
      · exact ⟨_, rfl⟩
      · exact ⟨_, rfl⟩
    · exact ⟨_, rfl⟩
    · exact ⟨_, rfl⟩

/-- **A file that stays as it is, read in whatever pieces, is what `readFileFilled` finds.** -/
theorem readFileFilledCalls_file {files : Files Path} {path : Path} {bytes : List Byte}
    (h : readFileFilled files path capacity = .ok bytes) (hmax : bytes.length ≤ ssizeMax)
    {pieces : List (List Byte)} (hsome : ∀ piece ∈ pieces, piece ≠ [])
    (hpieces : pieces.flatten = bytes) :
    ∃ r, readFileFilledCalls
        ⟨.opened, some ⟨true, bytes.length⟩, true, pieces.map ReadOutcome.data ++ [.data []], true⟩
        path buffer capacity fill = some r ∧
      r.result = .ok ∧ r.buffer.read 0 capacity = pad capacity fill bytes := by
  unfold readFileFilled at h
  split at h
  · cases h
  rename_i hpath
  split at h
  · cases h
  rename_i hshort
  have hfits : bytes.length ≤ capacity := by
    split at h
    · cases h
    · cases h
    · split at h
      · cases h
      · obtain rfl := Except.ok.inj h
        omega
  have hwhole : ([] ++ pieces.flatten).length = bytes.length := by rw [List.nil_append, hpieces]
  have hloop := readLoop_pieces hmax hsome hwhole [ReadOutcome.data []]
  rw [List.nil_append, hpieces] at hloop
  refine ⟨⟨.ok, (fillBuffer buffer capacity fill).write 0 bytes, bytes.length⟩, ?_, rfl,
    fillBuffer_write_read buffer fill hfits⟩
  unfold readFileFilledCalls readOpened
  have hnonneg : ¬((bytes.length : Int) < 0) := by omega
  simp only [hpath, hshort, hnonneg, hloop, readProbe, Int.toNat_natCast, if_false]
  rw [if_neg (by simp), if_neg (by omega)]
  rfl

end DualBoy.Saves
