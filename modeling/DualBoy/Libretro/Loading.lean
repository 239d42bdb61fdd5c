import DualBoy.Frontend.Grammar
import DualBoy.Lib.Lifetime
import DualBoy.Lib.Run
import DualBoy.Libretro.Cartridges
import DualBoy.Saves.FilledRead

/-!
# Loading content

`retro_load_game` and `retro_load_game_special` up to the point where an engine is asked for a pair:
a playlist and the files it names are read, or the content is in memory already. What the system
answers is given. A handle is the number it was given out under and stays where the code keeps it,
so a handle that was given back could still be used.

* `playlistReadLoop_eq_some`: what the reads of a playlist come to.
* `parsePlaylistFile_eq_ok`, `readRomFile_eq_ok`: when a file is read, and what for.
* **`load_launches`**: a load comes to a pair exactly when the content, or the playlist and the files
  it names, provide it.
* **`loads_release`**: every descriptor, file and buffer of every load is used only while it lives,
  and released once.
-/

namespace DualBoy.Libretro.Loading

open DualBoy.Lib DualBoy.Frontend
open DualBoy.Saves (ReadOutcome)

/-! ## The desk -/

/-- All that happened to what loads acquired, and the next handle. -/
structure Desk where
  log : List (LifeEvent Nat)
  next : Nat

namespace Desk

def start : Desk := ⟨[], 0⟩

/-- What is acquired is `t.next`. -/
def acquire (t : Desk) : Desk := ⟨t.log ++ [.acquire t.next], t.next + 1⟩

def use (t : Desk) (handle : Nat) : Desk := { t with log := t.log ++ [.use handle] }

def release (t : Desk) (handle : Nat) : Desk := { t with log := t.log ++ [.release handle] }

/-- `free`, which leaves a null pointer alone. -/
def free (t : Desk) : Option Nat → Desk
  | none => t
  | some handle => t.release handle

end Desk

/-! ## Files -/

/-- What `dualboy_playlist_parse_file` is answered. Behind the reads given is the end of the file. -/
structure PlaylistFileCalls where
  malloc : Bool
  opened : Bool
  /-- `fcntl` and `fstat` succeed, and it is a regular file -/
  regular : Bool
  reads : List ReadOutcome
  closed : Bool
  /-- the allocations of the parser -/
  memory : Nat → Bool

/-- The loop of the reads, with what was read so far. -/
def playlistReadLoop : List Byte → List ReadOutcome → Option (List Byte)
  | done, [] => some done
  | done, outcome :: reads =>
    if playlistFileLimit < done.length then some done
    else
      match outcome with
      | .interrupted => playlistReadLoop done reads
      | .failed => none
      | .data bytes =>
        let amount := bytes.take (playlistFileLimit + 1 - done.length)
        if amount = [] then some done else playlistReadLoop (done ++ amount) reads

/-- `dualboy_playlist_parse_file`. The reads of the loop are one use. -/
def parsePlaylistFile (path : PathBytes) (calls : PlaylistFileCalls) (t : Desk) :
    Desk × Except PlaylistResult (List PathBytes) :=
  if validateLocalPath path ≠ .ok then (t, .error (validateLocalPath path))
  else if calls.malloc = false then (t, .error .ioError)
  else
    let data := t.next
    let t := t.acquire
    if calls.opened = false then (t.release data, .error .ioError)
    else
      let descriptor := t.next
      let t := t.acquire.use descriptor
      if calls.regular = false then ((t.release descriptor).release data, .error .ioError)
      else
        let t := (t.use descriptor).use data
        match playlistReadLoop [] calls.reads with
        | none => ((t.release descriptor).release data, .error .ioError)
        | some bytes =>
          let t := t.release descriptor
          if calls.closed = false then (t.release data, .error .ioError)
          else if playlistFileLimit < bytes.length then (t.release data, .error .tooLarge)
          else
            let t := (t.use data).release data
            match playlistParse calls.memory path bytes [] with
            | (.ok, entries) => (t, .ok entries)
            | (result, _) => (t, .error result)

/-- What `read_rom_file` is answered. -/
structure RomFileCalls where
  opened : Bool
  /-- `none` when a seek or `ftell` fails -/
  length : Option Nat
  malloc : Bool
  /-- what `fread` has, of which it delivers no more than it was asked for -/
  content : List Byte
  closed : Bool

inductive RomFileError where
  | invalidPath
  | cannotOpen
  | unknownSize
  | emptyOrTooLarge
  | outOfMemory
  | cannotRead
  | cannotClose
  deriving DecidableEq

/-- What `read_rom_file` returns: the buffer, and what is in it. -/
structure RomFile where
  buffer : Nat
  data : List Byte

/-- `read_rom_file`. -/
def readRomFile (path : PathBytes) (calls : RomFileCalls) (t : Desk) :
    Desk × Except RomFileError RomFile :=
  if path = [] then (t, .error .invalidPath)
  else if calls.opened = false then (t, .error .cannotOpen)
  else
    let file := t.next
    let t := t.acquire.use file
    match calls.length with
    | none => (t.release file, .error .unknownSize)
    | some size =>
      if size = 0 ∨ romFileLimit < size then (t.release file, .error .emptyOrTooLarge)
      else if calls.malloc = false then (t.release file, .error .outOfMemory)
      else
        let bytes := t.next
        let t := (t.acquire.use file).use bytes
        if (calls.content.take size).length ≠ size then
          ((t.release bytes).release file, .error .cannotRead)
        else
          let t := t.release file
          if calls.closed = false then (t.release bytes, .error .cannotClose)
          else (t, .ok ⟨bytes, calls.content.take size⟩)

/-- Reads come to the end of the file with these bytes. -/
inductive Delivers : List ReadOutcome → List Byte → Prop
  | nothing : Delivers [] []
  | ended (reads : List ReadOutcome) : Delivers (.data [] :: reads) []
  | interrupted {reads : List ReadOutcome} {rest : List Byte} (h : Delivers reads rest) :
      Delivers (.interrupted :: reads) rest
  | data {reads : List ReadOutcome} {bytes rest : List Byte} (hbytes : bytes ≠ [])
      (h : Delivers reads rest) : Delivers (.data bytes :: reads) (bytes ++ rest)

/-- **What the reads come to**, as long as the playlist is not too long. -/
theorem playlistReadLoop_eq_some {done data : List Byte} {reads : List ReadOutcome}
    (hshort : data.length ≤ playlistFileLimit) :
    playlistReadLoop done reads = some data ↔ ∃ rest, Delivers reads rest ∧ data = done ++ rest := by
  fun_induction playlistReadLoop done reads with
  | case1 done =>
    constructor
    · intro h
      exact ⟨[], .nothing, by rw [List.append_nil]; exact (Option.some.inj h).symm⟩
    · rintro ⟨rest, hrest, rfl⟩
      cases hrest
      rw [List.append_nil]
  | case2 done outcome reads hfull =>
    refine iff_of_false (fun h => ?_) ?_
    · obtain rfl := Option.some.inj h
      omega
    · rintro ⟨rest, -, rfl⟩
      rw [List.length_append] at hshort
      omega
  | case3 done reads hroom ih =>
    rw [ih]
    constructor
    · rintro ⟨rest, hrest, hdata⟩
      exact ⟨rest, .interrupted hrest, hdata⟩
    · rintro ⟨rest, hrest, hdata⟩
      cases hrest with
      | interrupted h => exact ⟨rest, h, hdata⟩
  | case4 done reads hroom =>
    refine iff_of_false (by simp) ?_
    rintro ⟨rest, hrest, -⟩
    cases hrest
  | case5 done reads hroom bytes amount hnone =>
    have hbytes : bytes = [] := by
      rcases List.take_eq_nil_iff.mp hnone with hzero | hnil
      · omega
      · exact hnil
    subst hbytes
    constructor
    · intro h
      exact ⟨[], .ended reads, by rw [List.append_nil]; exact (Option.some.inj h).symm⟩
    · rintro ⟨rest, hrest, rfl⟩
      cases hrest with
      | ended => rw [List.append_nil]
      | data hbytes => exact absurd rfl hbytes
  | case6 done reads hroom bytes amount hsome ih =>
    have hbytes : bytes ≠ [] := by
      rintro rfl
      exact hsome List.take_nil
    rw [ih]
    by_cases hfits : bytes.length ≤ playlistFileLimit + 1 - done.length
    · have hamount : amount = bytes := List.take_of_length_le hfits
      rw [hamount]
      constructor
      · rintro ⟨rest, hrest, rfl⟩
        exact ⟨bytes ++ rest, .data hbytes hrest, List.append_assoc _ _ _⟩
      · rintro ⟨rest, hrest, rfl⟩
        cases hrest with
        | ended => exact absurd rfl hbytes
        | data _ h => exact ⟨_, h, (List.append_assoc _ _ _).symm⟩
    · -- a read that fills the buffer makes the playlist too long, whatever follows
      have hamount : amount.length = playlistFileLimit + 1 - done.length :=
        List.length_take_of_le (Nat.le_of_not_le hfits)
      refine iff_of_false ?_ ?_
      · rintro ⟨rest, -, rfl⟩
        rw [List.length_append, List.length_append] at hshort
        omega
      · rintro ⟨rest, hrest, rfl⟩
        cases hrest with
        | ended => exact absurd rfl hbytes
        | data _ h =>
          rw [List.length_append, List.length_append] at hshort
          omega

/-- The answers for which a playlist is read and accepted. -/
structure PlaylistFileCalls.Provide (calls : PlaylistFileCalls) (path : PathBytes)
    (entries : List PathBytes) : Prop where
  isLocal : validateLocalPath path = .ok
  malloc : calls.malloc = true
  opened : calls.opened = true
  regular : calls.regular = true
  closed : calls.closed = true
  accepted : ∃ data, Delivers calls.reads data ∧ data.length ≤ playlistFileLimit ∧
    parseEntries calls.memory path data = .ok entries

/-- The answers for which a file is read. -/
structure RomFileCalls.Provide (calls : RomFileCalls) (path : PathBytes) (data : List Byte) :
    Prop where
  named : path ≠ []
  opened : calls.opened = true
  length : calls.length = some data.length
  nonempty : data ≠ []
  fits : data.length ≤ romFileLimit
  malloc : calls.malloc = true
  content : data <+: calls.content
  closed : calls.closed = true

theorem parsePlaylistFile_eq_ok {path : PathBytes} {calls : PlaylistFileCalls} {t : Desk}
    {entries : List PathBytes} :
    (parsePlaylistFile path calls t).2 = .ok entries ↔ calls.Provide path entries := by
  unfold parsePlaylistFile
  dsimp only
  constructor
  · intro h
    split at h
    · cases h
    rename_i hlocal
    split at h
    · cases h
    rename_i hmalloc
    split at h
    · cases h
    rename_i hopened
    split at h
    · cases h
    rename_i hregular
    split at h
    · cases h
    rename_i data hread
    split at h
    · cases h
    rename_i hclosed
    split at h
    · cases h
    rename_i hshort
    split at h
    · rename_i parsed hparsed
      obtain rfl := Except.ok.inj h
      have hlength := Nat.not_lt.mp hshort
      obtain ⟨rest, hrest, hdata⟩ := (playlistReadLoop_eq_some hlength).mp hread
      rw [List.nil_append] at hdata
      subst hdata
      exact
        { isLocal := not_not.mp hlocal
          malloc := eq_true_of_ne_false hmalloc
          opened := eq_true_of_ne_false hopened
          regular := eq_true_of_ne_false hregular
          closed := eq_true_of_ne_false hclosed
          accepted := ⟨data, hrest, hlength, playlistParse_eq_ok.mp hparsed⟩ }
    · cases h
  · intro h
    obtain ⟨data, hdata, hlength, hparsed⟩ := h.accepted
    have hread := (playlistReadLoop_eq_some hlength).mpr ⟨data, hdata, (List.nil_append data).symm⟩
    rw [if_neg (not_not.mpr h.isLocal), if_neg (by simp [h.malloc]), if_neg (by simp [h.opened]),
      if_neg (by simp [h.regular]), hread]
    dsimp only
    rw [if_neg (by simp [h.closed]), if_neg (Nat.not_lt.mpr hlength),
      playlistParse_eq_ok.mpr hparsed]

theorem readRomFile_eq_ok {path : PathBytes} {calls : RomFileCalls} {t : Desk} {data : List Byte} :
    (∃ buffer, (readRomFile path calls t).2 = .ok ⟨buffer, data⟩) ↔ calls.Provide path data := by
  unfold readRomFile
  dsimp only
  constructor
  · rintro ⟨buffer, h⟩
    split at h
    · cases h
    rename_i hnamed
    split at h
    · cases h
    rename_i hopened
    split at h
    · cases h
    rename_i size hsize
    split at h
    · cases h
    rename_i hfits
    split at h
    · cases h
    rename_i hmalloc
    split at h
    · cases h
    rename_i hwhole
    split at h
    · cases h
    rename_i hclosed
    obtain ⟨hpositive, hle⟩ := not_or.mp hfits
    have hlength : (calls.content.take size).length = size := not_not.mp hwhole
    obtain rfl := (RomFile.mk.inj (Except.ok.inj h)).2
    exact
      { named := hnamed
        opened := eq_true_of_ne_false hopened
        length := by rw [hlength, hsize]
        nonempty := List.ne_nil_of_length_pos (by omega)
        fits := by omega
        malloc := eq_true_of_ne_false hmalloc
        content := List.take_prefix size calls.content
        closed := eq_true_of_ne_false hclosed }
  · intro h
    have hpositive := List.length_pos_iff.mpr h.nonempty
    have hwhole : calls.content.take data.length = data := (List.prefix_iff_eq_take.mp h.content).symm
    rw [if_neg h.named, if_neg (by simp [h.opened]), h.length]
    dsimp only
    rw [if_neg (not_or.mpr ⟨by omega, Nat.not_lt.mpr h.fits⟩), if_neg (by simp [h.malloc]),
      if_neg (by rw [hwhole]; exact not_not.mpr rfl), if_neg (by simp [h.closed]), hwhole]
    exact ⟨_, rfl⟩

/-! ## Playlists -/

/-- The cleanup of `load_playlist`. -/
def cleanup (t : Desk) (bytes : Fin 2 → Option Nat) : Desk := (t.free (bytes 0)).free (bytes 1)

/-- `load_playlist`. -/
def loadPlaylist (path : PathBytes) (playlist : PlaylistFileCalls) (files : Fin 2 → RomFileCalls)
    (t : Desk) : Desk × Option Launch :=
  match parsePlaylistFile path playlist t with
  | (t, .error _) => (t, none)
  | (t, .ok entries) =>
    match readRomFile (entries.getD 0 []) (files 0) t with
    | (t, .error _) => (cleanup t ![none, none], none)
    | (t, .ok file0) =>
      match readRomFile (entries.getD 1 []) (files 1) t with
      | (t, .error _) => (cleanup t ![some file0.buffer, none], none)
      | (t, .ok file1) =>
        let t := (t.use file0.buffer).use file1.buffer
        let roms := ![⟨file0.data, entries.getD 0 []⟩, ⟨file1.data, entries.getD 1 []⟩]
        (cleanup t ![some file0.buffer, some file1.buffer],
          (loadDetectedPair roms .playlist).toOption)

/-! ## The calls -/

/-- What follows the last separator, of either kind. -/
def basename (path : PathBytes) : PathBytes :=
  (path.reverse.takeWhile fun c => c ≠ slash ∧ c ≠ backslash).reverse

def toLower (c : Byte) : Byte := if 0x41 ≤ c ∧ c ≤ 0x5a then c + 0x20 else c

/-- `path_has_extension`. -/
def pathHasExtension (path extension : PathBytes) : Bool :=
  let name := basename path
  dot ∈ name &&
    ((name.reverse.takeWhile (· ≠ dot)).reverse.map toLower = extension.map toLower : Bool)

/-- `DUALBOY_SUBSYSTEM_ID`. -/
def subsystemId : Nat := 0x44554232

/-- A call of the frontend, and what the system answers in it. -/
inductive LoadCall where
  /-- `retro_load_game` -/
  | loadGame (game : Option Content) (playlist : PlaylistFileCalls) (files : Fin 2 → RomFileCalls)
  /-- `retro_load_game_special` -/
  | loadGameSpecial (gameType : Nat) (info : Option (List Content))

/-- `retro_load_game`. -/
def retroLoadGame (game : Option Content) (playlist : PlaylistFileCalls)
    (files : Fin 2 → RomFileCalls) (t : Desk) : Desk × Option Launch :=
  match game with
  | none => (t, none)
  | some game =>
    if pathHasExtension game.path (bytesOf "m3u") then loadPlaylist game.path playlist files t
    else if game.data = [] then (t, none)
    else (t, (loadDetectedPair (fun _ => game) .normal).toOption)

/-- `retro_load_game_special`. -/
def retroLoadGameSpecial (gameType : Nat) (info : Option (List Content)) : Option Launch :=
  if gameType ≠ subsystemId then none
  else
    match info with
    | some [first, second] =>
      if first.data = [] ∨ second.data = [] then none
      else
        (loadDetectedPair ![first, second] .subsystem).toOption
    | _ => none

def LoadCall.enter (call : LoadCall) (t : Desk) : Desk × Option Launch :=
  match call with
  | .loadGame game playlist files => retroLoadGame game playlist files t
  | .loadGameSpecial gameType info => (t, retroLoadGameSpecial gameType info)

/-- A call and the desk it leaves. -/
def LoadCall.step (t : Desk) (call : LoadCall) : Desk := (call.enter t).1

/-! ## What a load comes to -/

theorem toOption_eq_some {roms : Fin 2 → Content} {loadKind : LoadKind} {launch : Launch} :
    (loadDetectedPair roms loadKind).toOption = some launch ↔ Pairs roms loadKind launch := by
  rw [← loadDetectedPair_eq_ok]
  cases loadDetectedPair roms loadKind with
  | error e => exact iff_of_false (by simp [Except.toOption]) (by simp)
  | ok found => simp [Except.toOption]

theorem contents_eq (data : Fin 2 → List Byte) (entries : Fin 2 → PathBytes) :
    (![⟨data 0, entries 0⟩, ⟨data 1, entries 1⟩] : Fin 2 → Content) =
      fun machine => ⟨data machine, entries machine⟩ :=
  funext (Fin.forall_fin_two.mpr ⟨rfl, rfl⟩)

theorem loadPlaylist_eq_some {path : PathBytes} {playlist : PlaylistFileCalls}
    {files : Fin 2 → RomFileCalls} {t : Desk} {launch : Launch} :
    (loadPlaylist path playlist files t).2 = some launch ↔
      ∃ (entries : Fin 2 → PathBytes) (data : Fin 2 → List Byte),
        playlist.Provide path [entries 0, entries 1] ∧
        (∀ machine, (files machine).Provide (entries machine) (data machine)) ∧
        Pairs (fun machine => ⟨data machine, entries machine⟩) .playlist launch := by
  unfold loadPlaylist
  constructor
  · intro h
    split at h
    · cases h
    rename_i t₁ entries hplaylist
    split at h
    · cases h
    rename_i t₂ file0 hfile0
    split at h
    · cases h
    rename_i t₃ file1 hfile1
    have hprovide := parsePlaylistFile_eq_ok.mp (congrArg Prod.snd hplaylist)
    obtain ⟨_, _, _, hparsed⟩ := hprovide.accepted
    obtain ⟨_, _, _, _, _, _, entry0, entry1, _, rfl, _⟩ := (parseEntries_eq_ok _ _ _ _).mp hparsed
    refine ⟨![entry0, entry1], ![file0.data, file1.data], hprovide,
      Fin.forall_fin_two.mpr ⟨readRomFile_eq_ok.mp ⟨_, congrArg Prod.snd hfile0⟩,
        readRomFile_eq_ok.mp ⟨_, congrArg Prod.snd hfile1⟩⟩, ?_⟩
    have hpair := toOption_eq_some.mp h
    rwa [← contents_eq ![file0.data, file1.data] ![entry0, entry1]]
  · rintro ⟨entries, data, hplaylist, hfiles, hpair⟩
    obtain ⟨t₁, hparsed⟩ : ∃ t₁, parsePlaylistFile path playlist t =
        (t₁, .ok [entries 0, entries 1]) := ⟨_, Prod.ext rfl (parsePlaylistFile_eq_ok.mpr hplaylist)⟩
    obtain ⟨buffer0, hfile0⟩ := readRomFile_eq_ok (t := t₁).mpr (hfiles 0)
    obtain ⟨t₂, hread0⟩ : ∃ t₂, readRomFile ([entries 0, entries 1].getD 0 []) (files 0) t₁ =
        (t₂, .ok ⟨buffer0, data 0⟩) := ⟨_, Prod.ext rfl hfile0⟩
    obtain ⟨buffer1, hfile1⟩ := readRomFile_eq_ok (t := t₂).mpr (hfiles 1)
    obtain ⟨t₃, hread1⟩ : ∃ t₃, readRomFile ([entries 0, entries 1].getD 1 []) (files 1) t₂ =
        (t₃, .ok ⟨buffer1, data 1⟩) := ⟨_, Prod.ext rfl hfile1⟩
    rw [hparsed]
    dsimp only
    rw [hread0]
    dsimp only
    rw [hread1]
    change (loadDetectedPair ![⟨data 0, entries 0⟩, ⟨data 1, entries 1⟩] .playlist).toOption = _
    rwa [contents_eq, toOption_eq_some]

/-- What a call is given, or reads, for a pair. -/
inductive Provides : LoadCall → Launch → Prop
  | game {game : Content} {playlist : PlaylistFileCalls} {files : Fin 2 → RomFileCalls}
      {launch : Launch} (hgame : pathHasExtension game.path (bytesOf "m3u") = false)
      (hdata : game.data ≠ []) (hpair : Pairs (fun _ => game) .normal launch) :
      Provides (.loadGame (some game) playlist files) launch
  | playlist {game : Content} {playlist : PlaylistFileCalls} {files : Fin 2 → RomFileCalls}
      {launch : Launch} (hgame : pathHasExtension game.path (bytesOf "m3u") = true)
      (entries : Fin 2 → PathBytes) (data : Fin 2 → List Byte)
      (hplaylist : playlist.Provide game.path [entries 0, entries 1])
      (hfiles : ∀ machine, (files machine).Provide (entries machine) (data machine))
      (hpair : Pairs (fun machine => ⟨data machine, entries machine⟩) .playlist launch) :
      Provides (.loadGame (some game) playlist files) launch
  | special {roms : Fin 2 → Content} {launch : Launch} (hdata : ∀ machine, (roms machine).data ≠ [])
      (hpair : Pairs roms .subsystem launch) :
      Provides (.loadGameSpecial subsystemId (some [roms 0, roms 1])) launch

/-- **A load comes to a pair** exactly when the content, or the playlist and the files it names,
provide it. -/
theorem load_launches {call : LoadCall} {t : Desk} {launch : Launch} :
    (call.enter t).2 = some launch ↔ Provides call launch := by
  cases call with
  | loadGame game playlist files =>
    cases game with
    | none => exact iff_of_false (by simp [LoadCall.enter, retroLoadGame]) fun h => by cases h
    | some game =>
      unfold LoadCall.enter retroLoadGame
      dsimp only
      cases hlist : pathHasExtension game.path (bytesOf "m3u") with
      | true =>
        rw [if_pos rfl, loadPlaylist_eq_some]
        constructor
        · rintro ⟨entries, data, hplaylist, hfiles, hpair⟩
          exact .playlist hlist entries data hplaylist hfiles hpair
        · intro h
          cases h with
          | game hgame => rw [hlist] at hgame; cases hgame
          | playlist _ entries data hplaylist hfiles hpair =>
            exact ⟨entries, data, hplaylist, hfiles, hpair⟩
      | false =>
        rw [if_neg Bool.false_ne_true]
        by_cases hdata : game.data = []
        · rw [if_pos hdata]
          refine iff_of_false (by simp) fun h => ?_
          cases h with
          | game _ hne => exact hne hdata
          | playlist hgame => rw [hlist] at hgame; cases hgame
        · rw [if_neg hdata, toOption_eq_some]
          refine ⟨.game hlist hdata, fun h => ?_⟩
          cases h with
          | game _ _ hpair => exact hpair
          | playlist hgame => rw [hlist] at hgame; cases hgame
  | loadGameSpecial gameType info =>
    change retroLoadGameSpecial gameType info = some launch ↔ _
    constructor
    · intro h
      unfold retroLoadGameSpecial at h
      split at h
      · cases h
      rename_i htype
      obtain rfl := not_not.mp htype
      split at h
      · rename_i first second
        split at h
        · cases h
        rename_i hdata
        have hgiven : ∀ machine, (![first, second] machine).data ≠ [] :=
          Fin.forall_fin_two.mpr (not_or.mp hdata)
        exact .special hgiven (toOption_eq_some.mp h)
      · cases h
    · intro h
      cases h with
      | @special roms _ hdata hpair =>
        have hroms : ![roms 0, roms 1] = roms := funext (Fin.forall_fin_two.mpr ⟨rfl, rfl⟩)
        unfold retroLoadGameSpecial
        rw [if_neg (not_not.mpr rfl)]
        dsimp only
        rw [if_neg (not_or.mpr ⟨hdata 0, hdata 1⟩), hroms, toOption_eq_some]
        exact hpair

/-! ## What a load leaves behind -/

/-- The handles that live. -/
def Holds (t : Desk) (live : Finset Nat) : Prop := InHand live t.log t.next

variable {t : Desk} {live : Finset Nat}

/-- A playlist is read and nothing is left of it. -/
theorem holds_parsePlaylistFile (h : Holds t live) (path : PathBytes) (calls : PlaylistFileCalls) :
    Holds (parsePlaylistFile path calls t).1 live := by
  have hdata := h.acquire
  have hboth := hdata.acquire.use (Finset.mem_insert_self _ _)
  have hread := (hboth.use (Finset.mem_insert_self _ _)).use
    (Finset.mem_insert_of_mem (Finset.mem_insert_self t.next live))
  unfold parsePlaylistFile
  dsimp only
  split
  · exact h
  split
  · exact h
  split
  · exact hdata.release h.next_notMem
  split
  · exact (hboth.release hdata.next_notMem).release h.next_notMem
  split
  · exact (hread.release hdata.next_notMem).release h.next_notMem
  have hclosed := hread.release hdata.next_notMem
  split
  · exact hclosed.release h.next_notMem
  split
  · exact hclosed.release h.next_notMem
  have hfreed := (hclosed.use (Finset.mem_insert_self _ _)).release h.next_notMem
  split <;> exact hfreed

/-- What the reader of a file leaves behind: the buffer, if it returns one. -/
def Leaves (live : Finset Nat) : Desk × Except RomFileError RomFile → Prop
  | (t, .error _) => Holds t live
  | (t, .ok file) => file.buffer ∉ live ∧ Holds t (insert file.buffer live)

theorem holds_readRomFile (h : Holds t live) (path : PathBytes) (calls : RomFileCalls) :
    Leaves live (readRomFile path calls t) := by
  have hfile := h.acquire.use (Finset.mem_insert_self t.next live)
  have hboth := (hfile.acquire.use (Finset.mem_insert_of_mem (Finset.mem_insert_self t.next live))).use
    (Finset.mem_insert_self _ _)
  unfold readRomFile
  dsimp only
  split
  · exact h
  split
  · exact h
  split
  · exact hfile.release h.next_notMem
  split
  · exact hfile.release h.next_notMem
  split
  · exact hfile.release h.next_notMem
  split
  · exact (hboth.release hfile.next_notMem).release h.next_notMem
  have hbytes := hfile.next_notMem
  rw [Finset.insert_comm] at hboth
  have hclosed := hboth.release (r := t.next) fun hmem =>
    (Finset.mem_insert.mp hmem).elim (Nat.succ_ne_self t.next).symm h.next_notMem
  split
  · exact hclosed.release fun hmem => hbytes (Finset.mem_insert_of_mem hmem)
  · exact ⟨fun hmem => hbytes (Finset.mem_insert_of_mem hmem), hclosed⟩

theorem holds_loadPlaylist (h : Holds t live) (path : PathBytes) (playlist : PlaylistFileCalls)
    (files : Fin 2 → RomFileCalls) : Holds (loadPlaylist path playlist files t).1 live := by
  have hplaylist := holds_parsePlaylistFile h path playlist
  unfold loadPlaylist
  split
  · rename_i heq
    rw [heq] at hplaylist
    exact hplaylist
  rename_i t₁ entries heq
  rw [heq] at hplaylist
  have hfile0 := holds_readRomFile hplaylist (entries.getD 0 []) (files 0)
  split
  · rename_i heq0
    rw [heq0] at hfile0
    exact hfile0
  rename_i t₂ file0 heq0
  rw [heq0] at hfile0
  obtain ⟨hfresh0, hholds0⟩ := hfile0
  have hfile1 := holds_readRomFile hholds0 (entries.getD 1 []) (files 1)
  split
  · rename_i heq1
    rw [heq1] at hfile1
    exact hfile1.release hfresh0
  rename_i t₃ file1 heq1
  rw [heq1] at hfile1
  obtain ⟨hfresh1, hholds1⟩ := hfile1
  have hused := (hholds1.use (Finset.mem_insert_of_mem (Finset.mem_insert_self _ _))).use
    (Finset.mem_insert_self _ _)
  rw [Finset.insert_comm] at hused
  have hother : file0.buffer ∉ insert file1.buffer live := by
    rw [Finset.mem_insert]
    rintro (hsame | hmem)
    · exact hfresh1 (hsame ▸ Finset.mem_insert_self _ _)
    · exact hfresh0 hmem
  exact (hused.release hother).release fun hmem => hfresh1 (Finset.mem_insert_of_mem hmem)

theorem holds_step (h : Holds t live) (call : LoadCall) : Holds (LoadCall.step t call) live := by
  unfold LoadCall.step LoadCall.enter
  cases call with
  | loadGame game playlist files =>
    dsimp only
    unfold retroLoadGame
    split
    · exact h
    split
    · exact holds_loadPlaylist h _ playlist files
    split <;> exact h
  | loadGameSpecial gameType info => exact h

/-- **What loads acquire they release**: a handle is acquired once, used only while it lives, and
released once by the end of the load. -/
theorem loads_release (calls : List LoadCall) :
    Proper (run LoadCall.step Desk.start calls).log ∧
      ∀ handle, LifeEvent.acquire handle ∈ (run LoadCall.step Desk.start calls).log →
        (run LoadCall.step Desk.start calls).log.count (.acquire handle) = 1 ∧
        (run LoadCall.step Desk.start calls).log.count (.release handle) = 1 := by
  have hstart : Holds Desk.start ∅ := InHand.start
  have hstep (t : Desk) (call : LoadCall) (h : Holds t ∅) : Holds (LoadCall.step t call) ∅ :=
    holds_step h call
  have hend : Holds (run LoadCall.step Desk.start calls) ∅ := run_invariant hstep calls hstart
  exact ⟨hend.ledger.proper, fun _ hmem => hend.counts hmem⟩

end DualBoy.Libretro.Loading
