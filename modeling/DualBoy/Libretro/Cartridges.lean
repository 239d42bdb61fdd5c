import DualBoy.Frontend.Content
import DualBoy.Frontend.Playlist
import DualBoy.Lib.Attempts
import DualBoy.Libretro.Core
import Mathlib.Data.Fin.VecNotation

/-!
# A pair of cartridges

`load_detected_pair` up to the point where an engine is asked for the pair: both contents are
detected, each gets the path its saves are named after, and one engine has to run both.

* `fallbackContentPath_eq`: the buffer for the name of a content is large enough.
* `identityPath_eq_ok`: what the saves of a cartridge are named after.
* **`loadDetectedPair_eq_ok`**: what makes a pair.
-/

namespace DualBoy.Libretro.Loading

open DualBoy.Lib DualBoy.Frontend

/-! ## The source -/

/-- `DUALBOY_ROM_FILE_LIMIT`. -/
def romFileLimit : Nat := 512 * 1024 * 1024

/-- `struct dualboy_rom`, before it is detected. A missing path is an empty one. -/
structure Content where
  data : List Byte
  path : PathBytes
  deriving DecidableEq

/-- `struct dualboy_rom`, when an engine gets it. -/
@[ext]
structure Cartridge extends Content where
  platform : Platform

/-- `enum dualboy_load_kind`. -/
inductive LoadKind where
  | normal
  | subsystem
  | playlist
  deriving DecidableEq

/-- What `dualboy_session_load` is called with, and the two flags set behind it. -/
@[ext]
structure Launch where
  roms : Fin 2 → Cartridge
  contentPathMissing : Fin 2 → Bool
  family : EngineFamily
  loadKind : LoadKind

inductive PairError where
  | exceedsLimit (machine : Fin 2)
  | rejected (machine : Fin 2) (error : DetectionError)
  | pathless (machine : Fin 2)
  | mixed (first second : Platform)
  deriving DecidableEq

/-- `content_identity`. -/
def contentIdentity (data : List Byte) : BitVec 64 :=
  data.foldl (fun hash b => (hash ^^^ b.setWidth 64) * 1099511628211) 14695981039346656037

def hexDigit (digit : Nat) : Byte :=
  if digit < 10 then .ofNat 8 (0x30 + digit) else .ofNat 8 (0x57 + digit)

/-- `%016llx`. -/
def hexWord (value : BitVec 64) : List Byte :=
  (List.range 16).map fun k => hexDigit (value.toNat / 16 ^ (15 - k) % 16)

def platformExtension : Platform → PathBytes
  | .nds => bytesOf "nds"
  | .gba => bytesOf "gba"
  | .gbc => bytesOf "gbc"
  | _ => bytesOf "gb"

/-- What a content without a path is called. -/
def contentName (platform : Platform) (data : List Byte) : PathBytes :=
  bytesOf "dualboy-" ++ hexWord (contentIdentity data) ++ [dot] ++ platformExtension platform

/-- `fallback_content_path`. -/
def fallbackContentPath (capacity : Nat) (platform : Platform) (data : List Byte) :
    Option PathBytes :=
  if (contentName platform data).length < capacity then some (contentName platform data) else none

/-- The platform of a cartridge, if it is one. -/
def detectedPlatform (machine : Fin 2) (data : List Byte) : Except PairError Platform :=
  if romFileLimit < data.length then .error (.exceedsLimit machine)
  else
    match detectContent data with
    | some ⟨platform, .ok, _⟩ => .ok platform
    | some ⟨_, error, _⟩ => .error (.rejected machine error)
    | none => .error (.rejected machine .empty)

/-- The path of a cartridge behind the look at the other one. -/
def sharedPath (rom other : Content) : PathBytes :=
  if rom.path = [] ∧ rom.data = other.data then other.path else rom.path

/-- The path a cartridge's saves are named after. -/
def identityPath (machine : Fin 2) (platform : Platform) (rom other : Content) :
    Except PairError PathBytes :=
  if sharedPath rom other = [] then
    match fallbackContentPath 64 platform rom.data with
    | some path => .ok path
    | none => .error (.pathless machine)
  else .ok (sharedPath rom other)

/-- `load_detected_pair`, up to the choice of the engine. -/
def loadDetectedPair (roms : Fin 2 → Content) (loadKind : LoadKind) : Except PairError Launch := do
  let first ← detectedPlatform 0 (roms 0).data
  let second ← detectedPlatform 1 (roms 1).data
  let path0 ← identityPath 0 first (roms 0) (roms 1)
  let path1 ← identityPath 1 second (roms 1) (roms 0)
  if engineFamilyForPlatform first = .none ∨
      engineFamilyForPlatform first ≠ engineFamilyForPlatform second then
    .error (.mixed first second)
  else
    .ok
      { roms := ![⟨⟨(roms 0).data, path0⟩, first⟩, ⟨⟨(roms 1).data, path1⟩, second⟩]
        contentPathMissing := fun machine => (roms machine).path = []
        family := engineFamilyForPlatform first
        loadKind }

/-! ## What makes a pair -/

/-- An image is a cartridge of this platform. -/
def Detects (data : List Byte) (platform : Platform) : Prop :=
  ∃ message, detectContent data = some ⟨platform, .ok, message⟩

theorem detectedPlatform_eq_ok {machine : Fin 2} {data : List Byte} {platform : Platform} :
    detectedPlatform machine data = .ok platform ↔
      data.length ≤ romFileLimit ∧ Detects data platform := by
  unfold detectedPlatform Detects
  by_cases hlimit : romFileLimit < data.length
  · rw [if_pos hlimit]
    exact iff_of_false (by simp) fun h => absurd h.1 (Nat.not_le.mpr hlimit)
  · rw [if_neg hlimit, and_iff_right (Nat.not_lt.mp hlimit)]
    rcases detectContent data with _ | ⟨found, error, message⟩
    · simp
    · cases error <;> simp

/-- What a cartridge's saves are named after: its own path, that of the same cartridge in the other
machine, or what is in it. -/
inductive NamedAfter (platform : Platform) (rom other : Content) : PathBytes → Prop
  | own (hpath : rom.path ≠ []) : NamedAfter platform rom other rom.path
  | shared (hpath : rom.path = []) (hsame : rom.data = other.data) (hother : other.path ≠ []) :
      NamedAfter platform rom other other.path
  | content (hpath : rom.path = []) (halone : rom.data = other.data → other.path = []) :
      NamedAfter platform rom other (contentName platform rom.data)

/-- The buffer for the name of a content is large enough. -/
theorem fallbackContentPath_eq (platform : Platform) (data : List Byte) :
    fallbackContentPath 64 platform data = some (contentName platform data) := by
  have hextension : (platformExtension platform).length ≤ 3 := by cases platform <;> decide
  have hhash : (hexWord (contentIdentity data)).length = 16 := by simp [hexWord]
  have hstem : (bytesOf "dualboy-").length = 8 := by decide
  refine if_pos ?_
  unfold contentName
  rw [List.length_append, List.length_append, List.length_append, hhash, hstem,
    List.length_singleton]
  omega

theorem namedAfter_iff {platform : Platform} {rom other : Content} {path : PathBytes} :
    NamedAfter platform rom other path ↔
      path = if sharedPath rom other = [] then contentName platform rom.data
        else sharedPath rom other := by
  unfold sharedPath
  by_cases hpath : rom.path = []
  · by_cases hsame : rom.data = other.data
    · rw [if_pos (And.intro hpath hsame)]
      by_cases hother : other.path = []
      · rw [if_pos hother]
        refine ⟨fun h => ?_, fun h => h ▸ .content hpath fun _ => hother⟩
        cases h with
        | own h => exact absurd hpath h
        | shared _ _ h => exact absurd hother h
        | content => rfl
      · rw [if_neg hother]
        refine ⟨fun h => ?_, fun h => h ▸ .shared hpath hsame hother⟩
        cases h with
        | own h => exact absurd hpath h
        | shared => rfl
        | content _ h => exact absurd (h hsame) hother
    · rw [if_neg fun h : _ ∧ _ => hsame h.2, if_pos hpath]
      refine ⟨fun h => ?_, fun h => h ▸ .content hpath fun h => absurd h hsame⟩
      cases h with
      | own h => exact absurd hpath h
      | shared _ h => exact absurd h hsame
      | content => rfl
  · rw [if_neg fun h : _ ∧ _ => hpath h.1, if_neg hpath]
    refine ⟨fun h => ?_, fun h => h ▸ .own hpath⟩
    cases h with
    | own => rfl
    | shared h => exact absurd h hpath
    | content h => exact absurd h hpath

/-- No cartridge stays without a path. -/
theorem identityPath_eq_ok {machine : Fin 2} {platform : Platform} {rom other : Content}
    {path : PathBytes} :
    identityPath machine platform rom other = .ok path ↔ NamedAfter platform rom other path := by
  unfold identityPath
  rw [namedAfter_iff, fallbackContentPath_eq, eq_comm (a := path)]
  by_cases hnone : sharedPath rom other = []
  · rw [if_pos hnone, if_pos hnone]
    exact ⟨Except.ok.inj, congrArg Except.ok⟩
  · rw [if_neg hnone, if_neg hnone]
    exact ⟨Except.ok.inj, congrArg Except.ok⟩

/-- Two contents make a pair: both are cartridges, of one family that has an engine, and each has
what its saves are named after. -/
structure Pairs (roms : Fin 2 → Content) (loadKind : LoadKind) (launch : Launch) : Prop where
  fits : ∀ machine, (roms machine).data.length ≤ romFileLimit
  detected : ∀ machine, Detects (roms machine).data (launch.roms machine).platform
  data : ∀ machine, (launch.roms machine).data = (roms machine).data
  named : ∀ machine, NamedAfter (launch.roms machine).platform (roms machine)
    (roms (1 - machine)) (launch.roms machine).path
  missing : ∀ machine, launch.contentPathMissing machine = ((roms machine).path = [] : Bool)
  family : ∀ machine, engineFamilyForPlatform (launch.roms machine).platform = launch.family
  supported : launch.family ≠ .none
  kind : launch.loadKind = loadKind

/-- **What makes a pair.** -/
theorem loadDetectedPair_eq_ok {roms : Fin 2 → Content} {loadKind : LoadKind} {launch : Launch} :
    loadDetectedPair roms loadKind = .ok launch ↔ Pairs roms loadKind launch := by
  unfold loadDetectedPair
  simp only [bind_eq_ok, detectedPlatform_eq_ok, identityPath_eq_ok]
  constructor
  · rintro ⟨first, ⟨hfits0, hfirst⟩, second, ⟨hfits1, hsecond⟩, path0, hpath0, path1, hpath1, hok⟩
    split at hok
    · cases hok
    · rename_i hfamily
      obtain ⟨hsupported, hsame⟩ := not_or.mp hfamily
      obtain rfl := Except.ok.inj hok
      exact
        { fits := Fin.forall_fin_two.mpr ⟨hfits0, hfits1⟩
          detected := Fin.forall_fin_two.mpr ⟨hfirst, hsecond⟩
          data := Fin.forall_fin_two.mpr ⟨rfl, rfl⟩
          named := Fin.forall_fin_two.mpr ⟨hpath0, hpath1⟩
          missing := fun _ => rfl
          family := Fin.forall_fin_two.mpr ⟨rfl, (not_not.mp hsame).symm⟩
          supported := hsupported
          kind := rfl }
  · intro h
    refine ⟨_, ⟨h.fits 0, h.detected 0⟩, _, ⟨h.fits 1, h.detected 1⟩, _, h.named 0, _, h.named 1, ?_⟩
    rw [h.family 0, h.family 1, if_neg (by simp [h.supported])]
    refine congrArg Except.ok (Launch.ext (funext ?_) (funext fun machine => ?_) rfl h.kind.symm)
    · exact Fin.forall_fin_two.mpr
        ⟨Cartridge.ext (h.data 0).symm rfl rfl, Cartridge.ext (h.data 1).symm rfl rfl⟩
    · exact (h.missing machine).symm

end DualBoy.Libretro.Loading
