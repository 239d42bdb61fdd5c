import DualBoy.Lib.Memory

/-!
# Playlists

Reading a playlist (`playlist.c`): which paths are local, how a path is normalized, how an entry is
resolved against the playlist's directory, and the scanner over the lines. A path is the list of its
bytes before the terminating zero.

`normalizePath` takes two blocks of memory; `memory` says whether it gets them.
-/

namespace DualBoy.Frontend

open DualBoy.Lib

/-! ## Constants -/

/-- `DUALBOY_PLAYLIST_ENTRY_COUNT`. -/
def playlistEntryCount : Nat := 2

/-- `DUALBOY_PLAYLIST_PATH_CAPACITY`, the terminating zero included. -/
def playlistPathCapacity : Nat := 4096

/-- `DUALBOY_PLAYLIST_FILE_LIMIT`. -/
def playlistFileLimit : Nat := 64 * 1024

/-- `enum dualboy_playlist_result`. -/
inductive PlaylistResult where
  | ok
  | invalidArgument
  | ioError
  | tooLarge
  | wrongEntryCount
  | unsafePath
  | pathTooLong
  deriving DecidableEq, Repr

/-- `dualboy_playlist_result_message`. -/
def PlaylistResult.message : PlaylistResult → String
  | .ok => "success"
  | .invalidArgument => "playlist contains invalid data or has no filename"
  | .ioError => "playlist could not be read"
  | .tooLarge => "playlist exceeds the 64 KiB size limit"
  | .wrongEntryCount => "playlist must contain exactly two ROM paths"
  | .unsafePath => "playlist contains a URL, network path, or root traversal"
  | .pathTooLong => "playlist path exceeds DualBoy's path limit"

/-- A path, by byte. -/
abbrev PathBytes := List Byte

/-- The bytes of a text. -/
def bytesOf (text : String) : PathBytes :=
  text.toList.map fun c => .ofNat 8 c.toNat

def slash : Byte := 0x2f
def backslash : Byte := 0x5c
def colon : Byte := 0x3a
def dot : Byte := 0x2e
def newline : Byte := 0x0a
def carriageReturn : Byte := 0x0d
def hash : Byte := 0x23

/-- `"."`. -/
def here : PathBytes := [dot]

/-- `".."`. -/
def parent : PathBytes := [dot, dot]

/-! ## Local paths -/

/-- `is_space`. -/
def isSpace (character : Byte) : Bool :=
  character = 0x20 || character = 0x09 || character = 0x0b || character = 0x0c

/-- `starts_network_path`. -/
def startsNetworkPath : PathBytes → Bool
  | c :: c' :: _ => c = slash && c' = slash || c = backslash && c' = backslash
  | _ => false

def isLetter (character : Byte) : Bool :=
  0x41 ≤ character && character ≤ 0x5a || 0x61 ≤ character && character ≤ 0x7a

/-- A character of a scheme behind its first. -/
def isSchemeCharacter (character : Byte) : Bool :=
  isLetter character || 0x30 ≤ character && character ≤ 0x39 ||
    character = 0x2b || character = 0x2d || character = dot

/-- The loop of `starts_uri_scheme`. -/
def schemeEnds : PathBytes → Bool
  | [] => false
  | c :: cs =>
    if c = colon then true
    else if c = slash ∨ c = backslash then false
    else if isSchemeCharacter c = false then false
    else schemeEnds cs

/-- `starts_uri_scheme`. -/
def startsUriScheme : PathBytes → Bool
  | [] => false
  | c :: cs => isLetter c && schemeEnds cs

/-- `validate_local_path`. -/
def validateLocalPath (path : PathBytes) : PlaylistResult :=
  if path = [] then .invalidArgument
  else if playlistPathCapacity ≤ path.length then .pathTooLong
  else if startsNetworkPath path ∨ path.head? = some backslash ∨ startsUriScheme path then
    .unsafePath
  else .ok

/-! ## Normalization -/

/-- What the loop of `normalize_path` has: the output up to its length, and `restore_lengths` with
`is_parent`, the last component's first. -/
structure Normalizing where
  output : PathBytes
  components : List (Nat × Bool)
  deriving DecidableEq, Repr

/-- `append_component`, and the parent flag its caller stores. -/
def appendComponent (capacity : Nat) (s : Normalizing) (component : PathBytes) (isParent : Bool) :
    Except PlaylistResult Normalizing :=
  let needsSeparator : Bool := s.output ≠ [] && s.output.getLast? ≠ some slash
  let required := s.output.length + component.length + 1 + (if needsSeparator then 1 else 0)
  if capacity < required then .error .pathTooLong
  else
    .ok { output := s.output ++ (if needsSeparator then [slash] else []) ++ component
          components := (s.output.length, isParent) :: s.components }

/-- One turn of the loop of `normalize_path`, for the component it found. -/
def normalizeComponent (capacity : Nat) (absolute : Bool) (s : Normalizing)
    (component : PathBytes) : Except PlaylistResult Normalizing :=
  if component = [] ∨ component = here then .ok s
  else
    match decide (component = parent), s.components with
    | true, (restoreLength, false) :: components =>
      .ok { output := s.output.take restoreLength, components }
    | isParent, _ =>
      if isParent && absolute then .error .unsafePath
      else appendComponent capacity s component isParent

/-- The loop of `normalize_path`, over the rest of its input. -/
def normalizeLoop (capacity : Nat) (absolute : Bool) (s : Normalizing) (rest : PathBytes) :
    Except PlaylistResult Normalizing :=
  match rest with
  | [] => .ok s
  | c :: cs =>
    let start := (c :: cs).dropWhile (· = slash)
    match normalizeComponent capacity absolute s (start.takeWhile (· ≠ slash)) with
    | .error result => .error result
    | .ok s => normalizeLoop capacity absolute s (start.dropWhile (· ≠ slash))
termination_by rest.length
decreasing_by
  have hskip := (List.dropWhile_suffix (l := c :: cs) (· = slash)).length_le
  by_cases hc : c = slash
  · have hdrop : (c :: cs).dropWhile (· = slash) = cs.dropWhile (· = slash) := by simp [hc]
    have hle := (List.dropWhile_suffix (l := cs) (· = slash)).length_le
    have hle' := (List.dropWhile_suffix (l := (c :: cs).dropWhile (· = slash)) (· ≠ slash)).length_le
    rw [hdrop] at hle' ⊢
    simp only [List.length_cons]
    omega
  · have hdrop : (c :: cs).dropWhile (· = slash) = c :: cs := by simp [hc]
    have htake : (c :: cs).dropWhile (· ≠ slash) = cs.dropWhile (· ≠ slash) := by simp [hc]
    have hle := (List.dropWhile_suffix (l := cs) (· ≠ slash)).length_le
    rw [hdrop, htake]
    simp only [List.length_cons]
    omega

/-- `normalize_path`. -/
def normalizePath (memory : Bool) (input : PathBytes) (capacity : Nat) :
    Except PlaylistResult PathBytes :=
  let absolute : Bool := input.head? = some slash
  if memory = false then .error .ioError
  else if absolute = true ∧ capacity < 2 then .error .pathTooLong
  else
    match normalizeLoop capacity absolute ⟨if absolute then [slash] else [], []⟩ input with
    | .error result => .error result
    | .ok s =>
      if s.output = [] then if capacity < 2 then .error .pathTooLong else .ok here
      else .ok s.output

/-! ## Entries -/

/-- What stands before the last slash, if there is one. -/
def beforeLastSlash (path : PathBytes) : Option PathBytes :=
  match path.reverse.dropWhile (· ≠ slash) with
  | [] => none
  | _ :: before => some before.reverse

/-- What follows the last slash. -/
def lastComponent (path : PathBytes) : PathBytes :=
  (path.reverse.takeWhile (· ≠ slash)).reverse

/-- `playlist_directory`. -/
def playlistDirectory (memory : Bool) (playlistPath : PathBytes) (capacity : Nat) :
    Except PlaylistResult PathBytes :=
  if validateLocalPath playlistPath ≠ .ok then .error (validateLocalPath playlistPath)
  else if playlistPath.getLast? = some slash then .error .invalidArgument
  else
    match normalizePath memory playlistPath playlistPathCapacity with
    | .error result => .error result
    | .ok normalized =>
      if normalized = [slash] ∨ normalized = here ∨ normalized = parent ∨
          normalized.getLast? = some slash then .error .invalidArgument
      else
        match beforeLastSlash normalized with
        | none => if capacity < 2 then .error .pathTooLong else .ok here
        | some [] => if capacity < 2 then .error .pathTooLong else .ok [slash]
        | some directory =>
          if capacity ≤ directory.length then .error .pathTooLong else .ok directory

/-- What `resolve_entry` normalizes, if it comes so far. -/
def joinEntry (directory entry : PathBytes) : Except PlaylistResult PathBytes :=
  if entry.head? = some slash ∨ directory = here then .ok entry
  else if playlistPathCapacity < directory.length + entry.length + 2 then .error .pathTooLong
  else if directory = [] ∨ directory.getLast? ≠ some slash then .ok (directory ++ slash :: entry)
  else .ok (directory ++ entry)

/-- `resolve_entry`. -/
def resolveEntry (memory : Bool) (directory entry : PathBytes) :
    Except PlaylistResult PathBytes :=
  if entry = [] then .error .invalidArgument
  else if playlistPathCapacity ≤ entry.length then .error .pathTooLong
  else if validateLocalPath entry ≠ .ok then .error (validateLocalPath entry)
  else if entry.getLast? = some slash then .error .invalidArgument
  else if lastComponent entry = here ∨ lastComponent entry = parent then .error .invalidArgument
  else
    match joinEntry directory entry with
    | .error result => .error result
    | .ok joined => normalizePath memory joined playlistPathCapacity

/-! ## The scanner -/

/-- The loop to the end of a line; `none` when it meets a zero byte. -/
def scanLine : List Byte → Option (List Byte × List Byte)
  | [] => some ([], [])
  | c :: cs =>
    if c = newline ∨ c = carriageReturn then some ([], c :: cs)
    else if c = 0 then none
    else (scanLine cs).map fun scanned => (c :: scanned.1, scanned.2)

/-- What follows the end of a line: a carriage return takes a newline with it. -/
def skipTerminator : List Byte → List Byte
  | c :: c' :: cs => if c = carriageReturn ∧ c' = newline then cs else c' :: cs
  | _ => []

/-- The loops that take the space off both ends of a line. -/
def trimLine (line : List Byte) : List Byte :=
  ((line.dropWhile isSpace).reverse.dropWhile isSpace).reverse

theorem scanLine_length : ∀ {data line rest : List Byte}, scanLine data = some (line, rest) →
    data.length = line.length + rest.length
  | [], _, _, h => by
    obtain ⟨rfl, rfl⟩ := Prod.mk.inj (Option.some.inj h)
    rfl
  | c :: cs, line, rest, h => by
    unfold scanLine at h
    split at h
    · obtain ⟨rfl, rfl⟩ := Prod.mk.inj (Option.some.inj h)
      simp
    split at h
    · cases h
    obtain ⟨⟨line', rest'⟩, hscanned, heq⟩ := Option.map_eq_some_iff.mp h
    obtain ⟨rfl, rfl⟩ := Prod.mk.inj heq
    have ih := scanLine_length hscanned
    simp only [List.length_cons]
    omega

theorem skipTerminator_length (data : List Byte) :
    (skipTerminator data).length ≤ data.length - 1 := by
  unfold skipTerminator
  split
  · split
    · simp only [List.length_cons]
      omega
    · simp only [List.length_cons]
      omega
  · exact Nat.zero_le _

/-- The scanner comes forward with every line. -/
theorem scanLine_progress {c : Byte} {cs line rest : List Byte}
    (h : scanLine (c :: cs) = some (line, rest)) :
    (skipTerminator rest).length < (c :: cs).length := by
  have hlength := scanLine_length h
  have hskip := skipTerminator_length rest
  simp only [List.length_cons] at hlength ⊢
  omega

/-- The loop of `dualboy_playlist_parse`, over the rest of the data; `entries` are the ones it has. -/
def parseLoop (memory : Nat → Bool) (directory : PathBytes) (entries : List PathBytes)
    (data : List Byte) : Except PlaylistResult (List PathBytes) :=
  match data with
  | [] => if entries.length ≠ playlistEntryCount then .error .wrongEntryCount else .ok entries
  | c :: cs =>
    match h : scanLine (c :: cs) with
    | none => .error .invalidArgument
    | some (line, rest) =>
      let entry := trimLine line
      if entry = [] ∨ entry.head? = some hash then
        parseLoop memory directory entries (skipTerminator rest)
      else if playlistEntryCount ≤ entries.length then .error .wrongEntryCount
      else
        match resolveEntry (memory (entries.length + 1)) directory entry with
        | .error result => .error result
        | .ok resolved =>
          parseLoop memory directory (entries ++ [resolved]) (skipTerminator rest)
termination_by data.length
decreasing_by
  · exact scanLine_progress h
  · exact scanLine_progress h

/-- Removes one byte-order mark. -/
def skipByteOrderMark : List Byte → List Byte
  | c :: c' :: c'' :: cs => if c = 0xef ∧ c' = 0xbb ∧ c'' = 0xbf then cs else c :: c' :: c'' :: cs
  | data => data

/-- What `dualboy_playlist_parse` finds. Its first block of memory is the directory's, and the next
ones the entries'. -/
def parseEntries (memory : Nat → Bool) (playlistPath : PathBytes) (data : List Byte) :
    Except PlaylistResult (List PathBytes) :=
  match playlistDirectory (memory 0) playlistPath playlistPathCapacity with
  | .error result => .error result
  | .ok directory =>
    if playlistFileLimit < data.length then .error .tooLarge
    else parseLoop memory directory [] (skipByteOrderMark data)

/-- `dualboy_playlist_parse`: its result, and the playlist it leaves. -/
def playlistParse (memory : Nat → Bool) (playlistPath : PathBytes) (data : List Byte)
    (playlist : List PathBytes) : PlaylistResult × List PathBytes :=
  match parseEntries memory playlistPath data with
  | .error result => (result, playlist)
  | .ok candidate => (.ok, candidate)

/-! ## Failures -/

theorem normalizeComponent_ne_ok (capacity : Nat) (absolute : Bool) (s : Normalizing)
    (component : PathBytes) : normalizeComponent capacity absolute s component ≠ .error .ok := by
  have happend (isParent : Bool) :
      appendComponent capacity s component isParent ≠ .error .ok := by
    unfold appendComponent
    dsimp only
    by_cases hlong : capacity < s.output.length + component.length + 1 +
        if (s.output ≠ [] && s.output.getLast? ≠ some slash : Bool) then 1 else 0
    · rw [if_pos hlong]
      simp
    · rw [if_neg hlong]
      simp
  unfold normalizeComponent
  split
  · simp
  split
  · simp
  split
  · simp
  · exact happend _

theorem normalizeLoop_ne_ok (capacity : Nat) (absolute : Bool) (s : Normalizing)
    (rest : PathBytes) : normalizeLoop capacity absolute s rest ≠ .error .ok := by
  fun_induction normalizeLoop capacity absolute s rest with
  | case1 s => simp
  | case2 s c cs start result hfailed =>
    intro h
    obtain rfl := Except.error.inj h
    exact normalizeComponent_ne_ok _ _ _ _ hfailed
  | case3 s c cs start s' hcomponent ih => exact ih

theorem normalizePath_ne_ok (memory : Bool) (input : PathBytes) (capacity : Nat) :
    normalizePath memory input capacity ≠ .error .ok := by
  unfold normalizePath
  dsimp only
  split
  · simp
  split
  · simp
  split
  · rename_i result hfailed
    intro h
    obtain rfl := Except.error.inj h
    exact normalizeLoop_ne_ok _ _ _ _ hfailed
  · split
    · split <;> simp
    · simp

theorem playlistDirectory_ne_ok (memory : Bool) (playlistPath : PathBytes) (capacity : Nat) :
    playlistDirectory memory playlistPath capacity ≠ .error .ok := by
  unfold playlistDirectory
  split
  · rename_i hinvalid
    exact fun h => hinvalid (Except.error.inj h)
  split
  · simp
  split
  · rename_i result hfailed
    intro h
    obtain rfl := Except.error.inj h
    exact normalizePath_ne_ok _ _ _ hfailed
  split
  · simp
  split
  · split <;> simp
  · split <;> simp
  · split <;> simp

theorem resolveEntry_ne_ok (memory : Bool) (directory entry : PathBytes) :
    resolveEntry memory directory entry ≠ .error .ok := by
  unfold resolveEntry
  split
  · simp
  split
  · simp
  split
  · rename_i hinvalid
    exact fun h => hinvalid (Except.error.inj h)
  split
  · simp
  split
  · simp
  split
  · rename_i result hfailed
    intro h
    obtain rfl := Except.error.inj h
    unfold joinEntry at hfailed
    split_ifs at hfailed
    cases hfailed
  · exact normalizePath_ne_ok _ _ _

/-- **No failure is reported as a success.** -/
theorem parseEntries_ne_ok (memory : Nat → Bool) (playlistPath : PathBytes) (data : List Byte) :
    parseEntries memory playlistPath data ≠ .error .ok := by
  have hloop (directory : PathBytes) (entries : List PathBytes) (data : List Byte) :
      parseLoop memory directory entries data ≠ .error .ok := by
    fun_induction parseLoop memory directory entries data with
    | case1 | case2 | case3 | case5 => simp
    | case4 entries c cs line rest hscanned entry hskipped ih => exact ih
    | case6 entries c cs line rest hscanned entry hnamed hroom result hfailed =>
      intro h
      obtain rfl := Except.error.inj h
      exact resolveEntry_ne_ok _ _ _ hfailed
    | case7 entries c cs line rest hscanned entry hnamed hroom resolved hok ih => exact ih
  unfold parseEntries
  split
  · rename_i result hfailed
    intro h
    obtain rfl := Except.error.inj h
    exact playlistDirectory_ne_ok _ _ _ hfailed
  · split
    · simp
    · exact hloop _ _ _

end DualBoy.Frontend
