import DualBoy.Sameboy.Pair
import Mathlib.Logic.Function.Iterate

/-!
# The saved link

The link state of a SameBoy pair (`sameboy_serialize_link`, `sameboy_unserialize_link`): thirty-two
bytes with the serial and infrared outputs, the link flag, and how far one machine is ahead of the
other. The decoder takes a bounded skew only, and the scheduler keeps the skew within that bound.

* `unserializeLink_eq_true`: the accepted strings are the blobs of bounded link states.
* `skewBounded_runFrame`: a frame keeps the skew bounded, on every exit.
* **`link_codec`**.
-/

namespace DualBoy.Sameboy

open DualBoy.Lib

variable {Core : Type}

/-! ## The codec -/

/-- `put_u16_le`. -/
def putU16Le (value : BitVec 16) : List Byte := leBytes 2 value

/-- `get_u16_le`. -/
def getU16Le (bytes : List Byte) (offset : Nat) : BitVec 16 := leWord 16 2 bytes offset

/-- `put_u64_le`. -/
def putU64Le (value : BitVec 64) : List Byte := leBytes 8 value

/-- `get_u64_le`. -/
def getU64Le (bytes : List Byte) (offset : Nat) : BitVec 64 := leWord 64 8 bytes offset

/-- A flag as a byte. -/
def flagByte (flag : Bool) : Byte := if flag then 1 else 0

/-- `sameboy_serialize_link`: the bytes it writes. -/
def serializeLink (pair : Pair Core) (capacity : Nat) : Option (List Byte) :=
  if capacity < linkStateSize then none
  else
    some (writeFields (List.replicate linkStateSize 0)
      [(0, [0x44]), (1, [0x42]), (2, [0x53]), (3, [0x4c]),
        (4, putU16Le linkStateVersion), (6, putU16Le (BitVec.ofNat 16 linkStateSize)),
        (8, [if pair.linkEnabled then linkFlagEnabled else 0]),
        (9, [flagByte (pair.serialOutput 0)]), (10, [flagByte (pair.serialOutput 1)]),
        (11, [flagByte (pair.infraredOutput 0)]), (12, [flagByte (pair.infraredOutput 1)]),
        (16, putU64Le (BitVec.ofInt 64 pair.tickSkew))])

/-- `decode_serialized_skew`. -/
def decodeSerializedSkew (encoded : BitVec 64) : Option Int :=
  if encoded.toNat ≤ maxSerializedSkew then some encoded.toNat
  else if 2 ^ 64 - 1 - maxSerializedSkew + 1 ≤ encoded.toNat then
    some (-((~~~encoded + 1).toNat : Int))
  else none

/-- `sameboy_unserialize_link`. -/
def unserializeLink (gb : Gb Core) (pair : Pair Core) (data : List Byte) : Bool × Pair Core :=
  let bytes := fun index => data.getD index 0
  if data.length ≠ linkStateSize ∨ bytes 0 ≠ 0x44 ∨ bytes 1 ≠ 0x42 ∨ bytes 2 ≠ 0x53 ∨
      bytes 3 ≠ 0x4c ∨ getU16Le data 4 ≠ linkStateVersion ∨
      getU16Le data 6 ≠ BitVec.ofNat 16 linkStateSize ∨ bytes 8 &&& ~~~linkFlagEnabled ≠ 0 ∨
      1 < bytes 9 ∨ 1 < bytes 10 ∨ 1 < bytes 11 ∨ 1 < bytes 12 ∨
      bytes 13 ≠ 0 ∨ bytes 14 ≠ 0 ∨ bytes 15 ≠ 0 then (false, pair)
  else if ∃ index < linkStateSize, 24 ≤ index ∧ bytes index ≠ 0 then (false, pair)
  else
    match decodeSerializedSkew (getU64Le data 16) with
    | none => (false, pair)
    | some skew =>
      let enabled : Bool := bytes 8 &&& linkFlagEnabled ≠ 0
      if enabled && !pair.isReady then (false, pair)
      else
        (true, { pair with
          tickSkew := skew
          serialOutput := fun i => if i = 0 then bytes 9 ≠ 0 else bytes 10 ≠ 0
          infraredOutput := fun i => if i = 0 then bytes 11 ≠ 0 else bytes 12 ≠ 0
          linkEnabled := enabled }.applyLinkCallbacks gb)

/-! ## Link states -/

/-- What the link saves of a pair. -/
structure LinkState where
  tickSkew : Int
  serialOutput : Fin 2 → Bool
  infraredOutput : Fin 2 → Bool
  linkEnabled : Bool

def Pair.linkState (pair : Pair Core) : LinkState where
  tickSkew := pair.tickSkew
  serialOutput := pair.serialOutput
  infraredOutput := pair.infraredOutput
  linkEnabled := pair.linkEnabled

def Pair.withLinkState (pair : Pair Core) (s : LinkState) : Pair Core :=
  { pair with
    tickSkew := s.tickSkew
    serialOutput := s.serialOutput
    infraredOutput := s.infraredOutput
    linkEnabled := s.linkEnabled }

/-- The skew is one the decoder takes. -/
def SkewBounded (skew : Int) : Prop := skew.natAbs ≤ maxSerializedSkew

instance (skew : Int) : Decidable (SkewBounded skew) :=
  inferInstanceAs (Decidable (skew.natAbs ≤ maxSerializedSkew))

/-- The sixteen bytes before the skew. -/
def LinkState.front (s : LinkState) : List Byte :=
  [0x44, 0x42, 0x53, 0x4c, 1, 0, 32, 0, flagByte s.linkEnabled, flagByte (s.serialOutput 0),
    flagByte (s.serialOutput 1), flagByte (s.infraredOutput 0), flagByte (s.infraredOutput 1),
    0, 0, 0]

/-- The bytes of a link state. -/
def LinkState.blob (s : LinkState) : List Byte :=
  s.front ++ putU64Le (BitVec.ofInt 64 s.tickSkew) ++ List.replicate 8 0

theorem LinkState.length_blob (s : LinkState) : s.blob.length = linkStateSize := rfl

/-- What is written is the blob of the pair's link state. -/
theorem serializeLink_eq (pair : Pair Core) {capacity : Nat} (h : linkStateSize ≤ capacity) :
    serializeLink pair capacity = some pair.linkState.blob := by
  unfold serializeLink
  rw [if_neg (by omega)]
  rfl

/-- The decoder reads two's complement, within the bound. -/
theorem decodeSerializedSkew_eq (encoded : BitVec 64) :
    decodeSerializedSkew encoded =
      if SkewBounded encoded.toInt then some encoded.toInt else none := by
  have hlt : encoded.toNat < 2 ^ 64 := encoded.isLt
  have hint := BitVec.toInt_eq_toNat_cond encoded
  have hneg : (~~~encoded + 1).toNat = (2 ^ 64 - encoded.toNat) % 2 ^ 64 := by
    rw [← BitVec.toNat_neg, BitVec.neg_eq_not_add]
    rfl
  have hbounded (skew : Int) : SkewBounded skew ↔ skew.natAbs ≤ 1048576 := Iff.rfl
  unfold decodeSerializedSkew maxSerializedSkew
  by_cases hlow : encoded.toNat ≤ 1048576
  · rw [if_pos (by omega)] at hint
    rw [if_pos hlow, hint, if_pos ((hbounded _).mpr (by omega))]
  · rw [if_neg hlow]
    by_cases hhigh : 2 ^ 64 - 1 - 1048576 + 1 ≤ encoded.toNat
    · rw [if_neg (by omega)] at hint
      rw [Nat.mod_eq_of_lt (by omega)] at hneg
      rw [if_pos hhigh, hneg, hint, if_pos ((hbounded _).mpr (by omega)), Option.some.injEq]
      omega
    · have hout : ¬SkewBounded encoded.toInt := by
        rw [hbounded, hint]
        split <;> omega
      rw [if_neg hhigh, if_neg hout]

theorem decodeSerializedSkew_ofInt {skew : Int} (h : SkewBounded skew) :
    decodeSerializedSkew (BitVec.ofInt 64 skew) = some skew := by
  have hint : (BitVec.ofInt 64 skew).toInt = skew := by
    unfold SkewBounded maxSerializedSkew at h
    exact BitVec.toInt_ofInt_eq_self (by decide) (by omega) (by omega)
  rw [decodeSerializedSkew_eq, hint, if_pos h]

theorem decodeSerializedSkew_eq_some {encoded : BitVec 64} {skew : Int}
    (h : decodeSerializedSkew encoded = some skew) :
    SkewBounded skew ∧ BitVec.ofInt 64 skew = encoded := by
  rw [decodeSerializedSkew_eq] at h
  split at h
  · rename_i hbounded
    obtain rfl := Option.some.inj h
    exact ⟨hbounded, BitVec.ofInt_toInt⟩
  · exact absurd h (by simp)

/-! ## Accepted strings -/

theorem byte_of_flag : ∀ b : Byte, b &&& ~~~linkFlagEnabled = 0 →
    b = flagByte (decide (b &&& linkFlagEnabled ≠ 0)) := by
  decide

theorem byte_of_le_one : ∀ b : Byte, ¬1 < b → b = flagByte (decide (b ≠ 0)) := by
  decide

theorem flagByte_checks : ∀ flag : Bool, flagByte flag &&& ~~~linkFlagEnabled = 0 ∧
    ¬1 < flagByte flag ∧ decide (flagByte flag ≠ 0) = flag ∧
      decide (flagByte flag &&& linkFlagEnabled ≠ 0) = flag := by
  decide

/-- The fields of a blob, where the decoder looks for them. -/
theorem LinkState.fields_blob (s : LinkState) :
    getU64Le s.blob 16 = BitVec.ofInt 64 s.tickSkew ∧
      getU16Le s.blob 4 = linkStateVersion ∧ getU16Le s.blob 6 = BitVec.ofNat 16 linkStateSize ∧
      ∀ index < linkStateSize, ¬(24 ≤ index ∧ s.blob.getD index 0 ≠ 0) := by
  refine ⟨leWord_of_slice (by decide) rfl, leWord_of_slice (by decide) rfl,
    leWord_of_slice (by decide) rfl, ?_⟩
  rintro index hlt ⟨hge, hne⟩
  have hindex : index = 24 ∨ index = 25 ∨ index = 26 ∨ index = 27 ∨ index = 28 ∨ index = 29 ∨
      index = 30 ∨ index = 31 := by
    unfold linkStateSize at hlt
    omega
  rcases hindex with rfl | rfl | rfl | rfl | rfl | rfl | rfl | rfl <;> exact hne rfl

/-- **A blob is accepted** where the link may be enabled, and gives its state. -/
theorem unserializeLink_blob (gb : Gb Core) (pair : Pair Core) {s : LinkState}
    (hskew : SkewBounded s.tickSkew) (hready : s.linkEnabled = true → pair.isReady = true) :
    unserializeLink gb pair s.blob = (true, (pair.withLinkState s).applyLinkCallbacks gb) := by
  obtain ⟨hencoded, hversion, hsize, hzero⟩ := s.fields_blob
  obtain ⟨hflag, -, -, henabled⟩ := flagByte_checks s.linkEnabled
  obtain ⟨-, hserial0, hserial0', -⟩ := flagByte_checks (s.serialOutput 0)
  obtain ⟨-, hserial1, hserial1', -⟩ := flagByte_checks (s.serialOutput 1)
  obtain ⟨-, hinfrared0, hinfrared0', -⟩ := flagByte_checks (s.infraredOutput 0)
  obtain ⟨-, hinfrared1, hinfrared1', -⟩ := flagByte_checks (s.infraredOutput 1)
  have hchecks : ¬(s.blob.length ≠ linkStateSize ∨ s.blob.getD 0 0 ≠ 0x44 ∨
      s.blob.getD 1 0 ≠ 0x42 ∨ s.blob.getD 2 0 ≠ 0x53 ∨ s.blob.getD 3 0 ≠ 0x4c ∨
      getU16Le s.blob 4 ≠ linkStateVersion ∨
      getU16Le s.blob 6 ≠ BitVec.ofNat 16 linkStateSize ∨
      s.blob.getD 8 0 &&& ~~~linkFlagEnabled ≠ 0 ∨
      1 < s.blob.getD 9 0 ∨ 1 < s.blob.getD 10 0 ∨ 1 < s.blob.getD 11 0 ∨ 1 < s.blob.getD 12 0 ∨
      s.blob.getD 13 0 ≠ 0 ∨ s.blob.getD 14 0 ≠ 0 ∨ s.blob.getD 15 0 ≠ 0) := by
    simp only [not_or, not_not]
    exact ⟨rfl, rfl, rfl, rfl, rfl, hversion, hsize, hflag, hserial0, hserial1, hinfrared0,
      hinfrared1, rfl, rfl, rfl⟩
  have hrest : ¬∃ index < linkStateSize, 24 ≤ index ∧ s.blob.getD index 0 ≠ 0 :=
    fun ⟨index, hlt, hne⟩ => hzero index hlt hne
  have hblocked : ¬(s.linkEnabled && !pair.isReady) = true := by
    cases henabled : s.linkEnabled with
    | false => simp
    | true => simp [hready henabled]
  have hserial : (fun i : Fin 2 => if i = 0 then decide (s.blob.getD 9 0 ≠ 0)
      else decide (s.blob.getD 10 0 ≠ 0)) = s.serialOutput := by
    funext i
    match i with
    | 0 => exact hserial0'
    | 1 => exact hserial1'
  have hinfrared : (fun i : Fin 2 => if i = 0 then decide (s.blob.getD 11 0 ≠ 0)
      else decide (s.blob.getD 12 0 ≠ 0)) = s.infraredOutput := by
    funext i
    match i with
    | 0 => exact hinfrared0'
    | 1 => exact hinfrared1'
  have hlink : decide (s.blob.getD 8 0 &&& linkFlagEnabled ≠ 0) = s.linkEnabled := henabled
  unfold unserializeLink
  dsimp only
  rw [if_neg hchecks, if_neg hrest, hencoded, decodeSerializedSkew_ofInt hskew]
  dsimp only
  simp only [hserial, hinfrared, hlink]
  rw [if_neg hblocked]
  rfl

/-- A string that has a blob's bytes. -/
theorem LinkState.eq_blob {data : List Byte} {s : LinkState} (hlength : data.length = linkStateSize)
    (hfront : ∀ k < 16, data.getD k 0 = s.front.getD k 0)
    (hskew : (data.drop 16).take 8 = putU64Le (BitVec.ofInt 64 s.tickSkew))
    (hrest : ∀ k < linkStateSize, 24 ≤ k → data.getD k 0 = 0) : data = s.blob := by
  have hbytes {k : Nat} (hk : k < data.length) : data.getD k 0 = data[k] := by
    rw [List.getD_eq_getElem?_getD, List.getElem?_eq_getElem hk, Option.getD_some]
  refine List.ext_getElem (hlength.trans s.length_blob.symm) fun k hk hk' => ?_
  have hblob : s.blob.getD k 0 = s.blob[k] := by
    rw [List.getD_eq_getElem?_getD, List.getElem?_eq_getElem hk', Option.getD_some]
  rw [← hbytes hk, ← hblob]
  unfold linkStateSize at hlength
  by_cases hlow : k < 16
  · rw [hfront k hlow, blob, List.append_assoc, List.getD_eq_getElem?_getD,
      List.getD_eq_getElem?_getD, List.getElem?_append_left hlow]
  · by_cases hmiddle : k < 24
    · have hindex : 16 + (k - 16) = k := by omega
      have hsame : s.blob.getD (16 + (k - 16)) 0 = data.getD (16 + (k - 16)) 0 := by
        rw [← getD_slice s.blob 16 (show k - 16 < 8 by omega),
          ← getD_slice data 16 (show k - 16 < 8 by omega), hskew]
        rfl
      rw [← hindex, hsame]
    · have hzero := (s.fields_blob).2.2.2 k (by unfold linkStateSize; omega)
      rw [hrest k (by unfold linkStateSize; omega) (by omega)]
      by_contra hne
      exact hzero ⟨by omega, fun h => hne h.symm⟩

/-- **An accepted string is the blob of a bounded state.** -/
theorem blob_of_accepted {gb : Gb Core} {pair : Pair Core} {data : List Byte}
    (h : (unserializeLink gb pair data).1 = true) :
    ∃ s : LinkState, SkewBounded s.tickSkew ∧ (s.linkEnabled = true → pair.isReady = true) ∧
      data = s.blob := by
  unfold unserializeLink at h
  dsimp only at h
  split at h
  · exact absurd h (by simp)
  rename_i hchecks
  split at h
  · exact absurd h (by simp)
  rename_i hzero
  split at h
  · exact absurd h (by simp)
  rename_i skew hdecoded
  split at h
  · exact absurd h (by simp)
  rename_i hready
  obtain ⟨hbounded, hencoded⟩ := decodeSerializedSkew_eq_some hdecoded
  simp only [not_or, not_not] at hchecks
  obtain ⟨hlength, h0, h1, h2, h3, hversion, hsize, h8, h9, h10, h11, h12, h13, h14, h15⟩ := hchecks
  have hbytes (k n : Nat) (hkn : k + n ≤ 32) :
      leBytes n (leWord (n * 8) n data k) = (data.drop k).take n :=
    leBytes_leWord (Nat.le_refl _) (by rw [hlength]; exact hkn)
  have hversionBytes : (data.drop 4).take 2 = [1, 0] := by
    rw [← hbytes 4 2 (by decide)]
    exact congrArg (leBytes 2) hversion
  have hsizeBytes : (data.drop 6).take 2 = [32, 0] := by
    rw [← hbytes 6 2 (by decide)]
    exact congrArg (leBytes 2) hsize
  have h4 : data.getD 4 0 = 1 := by rw [← getD_slice data 4 (show 0 < 2 by decide), hversionBytes]; rfl
  have h5 : data.getD 5 0 = 0 := by rw [← getD_slice data 4 (show 1 < 2 by decide), hversionBytes]; rfl
  have h6 : data.getD 6 0 = 32 := by rw [← getD_slice data 6 (show 0 < 2 by decide), hsizeBytes]; rfl
  have h7 : data.getD 7 0 = 0 := by rw [← getD_slice data 6 (show 1 < 2 by decide), hsizeBytes]; rfl
  refine ⟨⟨skew, fun i => if i = 0 then decide (data.getD 9 0 ≠ 0) else decide (data.getD 10 0 ≠ 0),
    fun i => if i = 0 then decide (data.getD 11 0 ≠ 0) else decide (data.getD 12 0 ≠ 0),
    decide (data.getD 8 0 &&& linkFlagEnabled ≠ 0)⟩, hbounded, ?_, ?_⟩
  · intro henabled
    by_contra hno
    refine hready ?_
    rw [Bool.not_eq_true] at hno
    rw [Bool.and_eq_true, Bool.not_eq_true', hno]
    exact ⟨henabled, rfl⟩
  · refine LinkState.eq_blob hlength ?_ ?_ ?_
    · intro k hk
      match k, hk with
      | 0, _ => exact h0
      | 1, _ => exact h1
      | 2, _ => exact h2
      | 3, _ => exact h3
      | 4, _ => exact h4
      | 5, _ => exact h5
      | 6, _ => exact h6
      | 7, _ => exact h7
      | 8, _ => exact byte_of_flag _ h8
      | 9, _ => exact byte_of_le_one _ h9
      | 10, _ => exact byte_of_le_one _ h10
      | 11, _ => exact byte_of_le_one _ h11
      | 12, _ => exact byte_of_le_one _ h12
      | 13, _ => exact h13
      | 14, _ => exact h14
      | 15, _ => exact h15
      | k + 16, hk => omega
    · rw [hencoded]
      exact (hbytes 16 8 (by decide)).symm
    · intro k hk hlow
      by_contra hne
      exact hzero ⟨k, hk, hlow, hne⟩

/-! ## What the calls keep -/

/-- The call leaves the schedule, the link flag and the loaded machines as they are. -/
structure Kept (pair pair' : Pair Core) : Prop where
  tickSkew : pair'.tickSkew = pair.tickSkew
  linkEnabled : pair'.linkEnabled = pair.linkEnabled
  loaded : ∀ i, (pair'.machine i).loaded = (pair.machine i).loaded

theorem Kept.refl (pair : Pair Core) : Kept pair pair := ⟨rfl, rfl, fun _ => rfl⟩

theorem Kept.trans {p p' p'' : Pair Core} (h : Kept p p') (h' : Kept p' p'') : Kept p p'' :=
  ⟨h'.tickSkew.trans h.tickSkew, h'.linkEnabled.trans h.linkEnabled,
    fun i => (h'.loaded i).trans (h.loaded i)⟩

theorem Kept.isReady {p p' : Pair Core} (h : Kept p p') : p'.isReady = p.isReady := by
  unfold Pair.isReady
  rw [h.loaded 0, h.loaded 1]

theorem kept_setMachine (pair : Pair Core) {index : Fin 2} {machine : Machine Core}
    (h : machine.loaded = (pair.machine index).loaded) : Kept pair (pair.setMachine index machine) := by
  refine ⟨rfl, rfl, fun i => ?_⟩
  unfold Pair.setMachine
  dsimp only
  split
  · rename_i heq
    rw [heq, h]
  · rfl

theorem applyLinkCallback_keeps (gb : Gb Core) (pair : Pair Core) (index : Fin 2) :
    Kept pair (pair.applyLinkCallback gb index) ∧
      (pair.applyLinkCallback gb index).linkState = pair.linkState := by
  unfold Pair.applyLinkCallback
  dsimp only
  split
  · split
    · exact ⟨kept_setMachine pair rfl, rfl⟩
    · exact ⟨kept_setMachine pair rfl, rfl⟩
  · exact ⟨Kept.refl pair, rfl⟩

/-- Installing the callbacks changes nothing the link saves. -/
theorem applyLinkCallbacks_keeps (gb : Gb Core) (pair : Pair Core) :
    Kept pair (pair.applyLinkCallbacks gb) ∧
      (pair.applyLinkCallbacks gb).linkState = pair.linkState := by
  obtain ⟨h0, hs0⟩ := applyLinkCallback_keeps gb pair 0
  obtain ⟨h1, hs1⟩ := applyLinkCallback_keeps gb (pair.applyLinkCallback gb 0) 1
  exact ⟨h0.trans h1, hs1.trans hs0⟩

theorem kept_callback (index : Fin 2) (pair : Pair Core) (callback : Callback) :
    Kept pair (pair.callback index callback) := by
  cases callback with
  | vblank => exact kept_setMachine pair rfl
  | serialStart output =>
    unfold Pair.callback
    dsimp only
    split
    · exact ⟨rfl, rfl, fun _ => rfl⟩
    · exact Kept.refl pair
  | infraredOutput output =>
    unfold Pair.callback
    dsimp only
    split
    · exact ⟨rfl, rfl, fun _ => rfl⟩
    · exact Kept.refl pair

theorem kept_afterRun (pair : Pair Core) (index : Fin 2) (r : GbRun Core) :
    Kept pair (pair.afterRun index r) := by
  have hcallbacks (callbacks : List Callback) (pair : Pair Core) :
      Kept pair (callbacks.foldl (Pair.callback index) pair) := by
    induction callbacks generalizing pair with
    | nil => exact Kept.refl pair
    | cons callback callbacks ih => exact (kept_callback index pair callback).trans (ih _)
  obtain ⟨hskew, hlink, hloaded⟩ := hcallbacks r.callbacks pair
  exact ⟨hskew, hlink, hloaded⟩

/-! ## The scheduler -/

/-- The machine that runs is the one that is not ahead, so a call takes the skew past zero at most
by what it runs. -/
theorem skewBounded_turn {skew : Int} {elapsed : Nat} (h : SkewBounded skew)
    (hbound : elapsed ≤ maxSerializedSkew) :
    SkewBounded (if (if 0 ≤ skew then (0 : Fin 2) else 1) = 0 then skew - elapsed
      else skew + elapsed) := by
  unfold SkewBounded at h ⊢
  by_cases hskew : 0 ≤ skew
  · rw [if_pos hskew, if_pos rfl]
    omega
  · rw [if_neg hskew, if_neg (by decide)]
    omega

section Scheduler

variable {gb : Gb Core} (hrun : ∀ index pair, (gb.run index pair).elapsed ≤ maxSerializedSkew)

include hrun

/-- The loop keeps the skew bounded, whichever way it is left. -/
theorem skewBounded_runLoop (pair : Pair Core) (machineTicks : Fin 2 → Nat) (calls : Nat)
    (h : SkewBounded pair.tickSkew) :
    SkewBounded (runLoop gb pair machineTicks calls).2.tickSkew ∧
      (runLoop gb pair machineTicks calls).2.linkEnabled = pair.linkEnabled ∧
      ∀ i, ((runLoop gb pair machineTicks calls).2.machine i).loaded = (pair.machine i).loaded := by
  fun_induction runLoop gb pair machineTicks calls with
  | case1 pair machineTicks calls hdone => exact ⟨h, rfl, fun _ => rfl⟩
  | case2 pair machineTicks calls hgoing index r pair' hstuck =>
    have hkept : Kept pair pair' := kept_afterRun pair index r
    exact ⟨hkept.tickSkew ▸ h, hkept.linkEnabled, hkept.loaded⟩
  | case3 pair machineTicks calls hgoing index r pair' hmoved machineTicks' pair'' hexpired =>
    have hkept : Kept pair pair' := kept_afterRun pair index r
    have hturn : SkewBounded (if index = 0 then pair'.tickSkew - r.elapsed
        else pair'.tickSkew + r.elapsed) := by
      rw [hkept.tickSkew]
      exact skewBounded_turn h (hrun index pair)
    exact ⟨hturn, hkept.linkEnabled, hkept.loaded⟩
  | case4 pair machineTicks calls hgoing index r pair' hmoved machineTicks' pair'' hgoes ih =>
    have hkept : Kept pair pair' := kept_afterRun pair index r
    have hturn : SkewBounded (if index = 0 then pair'.tickSkew - r.elapsed
        else pair'.tickSkew + r.elapsed) := by
      rw [hkept.tickSkew]
      exact skewBounded_turn h (hrun index pair)
    obtain ⟨hbounded, hlink, hloaded⟩ := ih hturn
    exact ⟨hbounded, hlink.trans hkept.linkEnabled, fun i => (hloaded i).trans (hkept.loaded i)⟩

/-- **A frame keeps the skew bounded**, on every exit. -/
theorem skewBounded_runFrame (pair : Pair Core) (h : SkewBounded pair.tickSkew) :
    SkewBounded (runFrame gb pair).2.tickSkew ∧
      (runFrame gb pair).2.linkEnabled = pair.linkEnabled ∧
      ∀ i, ((runFrame gb pair).2.machine i).loaded = (pair.machine i).loaded := by
  unfold runFrame
  split
  · exact ⟨h, rfl, fun _ => rfl⟩
  · exact skewBounded_runLoop hrun _ _ _ h

end Scheduler

/-! ## Runs -/

/-- The calls of the frontend. `touch` is every call that only reaches the cores. -/
inductive Action (Core : Type) where
  | loadRom (index : Fin 2) (platform : Platform) (rom : List Byte)
  | setLink (enabled : Bool)
  | reset
  | runFrame
  | unserializeMachine (index : Fin 2) (data : List Byte)
  | unserializeLink (data : List Byte)
  | touch (change : Fin 2 → Core → Core)

def step (gb : Gb Core) (pair : Pair Core) : Action Core → Pair Core
  | .loadRom index platform rom => (loadRom gb pair index platform rom).2
  | .setLink enabled => (setLink gb pair enabled).2
  | .reset => reset gb pair
  | .runFrame => (runFrame gb pair).2
  | .unserializeMachine index data => (unserializeMachine gb pair index data).2
  | .unserializeLink data => (unserializeLink gb pair data).2
  | .touch change =>
    { pair with
      machine := fun i => { pair.machine i with core := (pair.machine i).core.map (change i) } }

/-- The skew is bounded, and only a pair with both machines is linked. -/
structure Pair.Linkable (pair : Pair Core) : Prop where
  bounded : SkewBounded pair.tickSkew
  ready : pair.linkEnabled = true → pair.isReady = true

theorem Pair.Linkable.of_kept {pair pair' : Pair Core} (h : pair.Linkable) (hkept : Kept pair pair') :
    pair'.Linkable := by
  refine ⟨hkept.tickSkew ▸ h.bounded, fun hlink => ?_⟩
  rw [hkept.isReady]
  exact h.ready (hkept.linkEnabled ▸ hlink)

theorem linkable_loadRom (gb : Gb Core) {pair : Pair Core} (h : pair.Linkable) (index : Fin 2)
    (platform : Platform) (rom : List Byte) : (loadRom gb pair index platform rom).2.Linkable := by
  unfold loadRom
  dsimp only
  split
  · exact h
  split
  · exact h
  split
  · exact h
  rename_i hfresh
  have hunloaded : false = (pair.machine index).loaded := by
    rw [not_or, Bool.not_eq_true] at hfresh
    exact hfresh.1.symm
  split
  · exact h
  split
  · exact h.of_kept (kept_setMachine pair hunloaded)
  · refine ⟨h.bounded, fun hlink => ?_⟩
    -- a linked pair has both machines, so none of them is loaded now
    have hready : pair.isReady = true := h.ready hlink
    unfold Pair.isReady at hready
    rw [Bool.and_eq_true] at hready
    match index with
    | 0 => rw [hready.1] at hunloaded; cases hunloaded
    | 1 => rw [hready.2] at hunloaded; cases hunloaded

theorem linkable_setLink (gb : Gb Core) {pair : Pair Core} (h : pair.Linkable) (enabled : Bool) :
    (setLink gb pair enabled).2.Linkable := by
  unfold setLink
  split
  · exact h
  rename_i hready
  refine Pair.Linkable.of_kept ?_ (applyLinkCallbacks_keeps gb _).1
  have hlinkable (pair' : Pair Core) (hskew : pair'.tickSkew = pair.tickSkew)
      (hloaded : pair'.isReady = pair.isReady) :
      Pair.Linkable { pair' with linkEnabled := enabled } := by
    refine ⟨hskew ▸ h.bounded, fun henabled => ?_⟩
    have henabled' : enabled = true := henabled
    rw [henabled', Bool.true_and, Bool.not_eq_true', Bool.not_eq_false] at hready
    exact hloaded.trans hready
  split
  · exact hlinkable _ rfl rfl
  · exact hlinkable _ rfl rfl

theorem kept_resetMachine (gb : Gb Core) (pair : Pair Core) (index : Fin 2) :
    Kept pair (resetMachine gb pair index) := by
  unfold resetMachine
  dsimp only
  split
  · refine ⟨rfl, rfl, fun i => (kept_setMachine pair ?_).loaded i⟩
    rfl
  · exact ⟨rfl, rfl, fun _ => rfl⟩

theorem linkable_reset (gb : Gb Core) {pair : Pair Core} (h : pair.Linkable) :
    (reset gb pair).Linkable := by
  unfold reset
  refine Pair.Linkable.of_kept ?_ (applyLinkCallbacks_keeps gb _).1
  have hkept := ((applyLinkCallbacks_keeps gb pair).1.trans (kept_resetMachine gb _ 0)).trans
    (kept_resetMachine gb _ 1)
  refine ⟨?_, fun hlink => (h.of_kept hkept).ready hlink⟩
  show SkewBounded 0
  decide

theorem linkable_unserializeMachine (gb : Gb Core) {pair : Pair Core} (h : pair.Linkable)
    (index : Fin 2) (data : List Byte) : (unserializeMachine gb pair index data).2.Linkable := by
  unfold unserializeMachine
  dsimp only
  split
  · split
    · exact h
    · split
      · exact h.of_kept (kept_setMachine pair rfl)
      · refine h.of_kept (Kept.trans ?_ (applyLinkCallbacks_keeps gb _).1)
        exact kept_setMachine pair rfl
  · exact h

/-- **A rejected string leaves the pair alone.** -/
theorem unserializeLink_eq_false {gb : Gb Core} {pair : Pair Core} {data : List Byte}
    (h : (unserializeLink gb pair data).1 = false) : (unserializeLink gb pair data).2 = pair := by
  unfold unserializeLink at h ⊢
  dsimp only at h ⊢
  split at h
  · rename_i hchecks
    rw [if_pos hchecks]
  · rename_i hchecks
    rw [if_neg hchecks]
    split at h
    · rename_i hrest
      rw [if_pos hrest]
    · rename_i hrest
      rw [if_neg hrest]
      split at h
      · rfl
      · split at h
        · rename_i hready
          rw [if_pos hready]
        · exact absurd h (by simp)

/-- Accepting a string gives the pair the state it is the blob of. -/
theorem unserializeLink_eq_true {gb : Gb Core} {pair : Pair Core} {data : List Byte}
    (h : (unserializeLink gb pair data).1 = true) :
    ∃ s : LinkState, SkewBounded s.tickSkew ∧ (s.linkEnabled = true → pair.isReady = true) ∧
      data = s.blob ∧
      (unserializeLink gb pair data).2 = (pair.withLinkState s).applyLinkCallbacks gb := by
  obtain ⟨s, hskew, hready, rfl⟩ := blob_of_accepted h
  exact ⟨s, hskew, hready, rfl, by rw [unserializeLink_blob gb pair hskew hready]⟩

theorem linkable_unserializeLink (gb : Gb Core) {pair : Pair Core} (h : pair.Linkable)
    (data : List Byte) : (unserializeLink gb pair data).2.Linkable := by
  cases haccepted : (unserializeLink gb pair data).1 with
  | false =>
    rw [unserializeLink_eq_false haccepted]
    exact h
  | true =>
    obtain ⟨s, hskew, hready, -, hpair⟩ := unserializeLink_eq_true haccepted
    rw [hpair]
    refine Pair.Linkable.of_kept ?_ (applyLinkCallbacks_keeps gb _).1
    exact ⟨hskew, hready⟩

section Runs

variable {gb : Gb Core} (hrun : ∀ index pair, (gb.run index pair).elapsed ≤ maxSerializedSkew)

include hrun

theorem linkable_step {pair : Pair Core} (h : pair.Linkable) (action : Action Core) :
    (step gb pair action).Linkable := by
  cases action with
  | loadRom index platform rom => exact linkable_loadRom gb h index platform rom
  | setLink enabled => exact linkable_setLink gb h enabled
  | reset => exact linkable_reset gb h
  | runFrame =>
    obtain ⟨hskew, hlink, hloaded⟩ := skewBounded_runFrame hrun pair h.bounded
    refine ⟨hskew, fun henabled => ?_⟩
    have hready := h.ready (hlink ▸ henabled)
    unfold Pair.isReady at hready ⊢
    rw [← hloaded 0, ← hloaded 1] at hready
    exact hready
  | unserializeMachine index data => exact linkable_unserializeMachine gb h index data
  | unserializeLink data => exact linkable_unserializeLink gb h data
  | touch change => exact h.of_kept ⟨rfl, rfl, fun _ => rfl⟩

/-- A pair that the frontend can have is linkable. -/
theorem linkable_run (actions : List (Action Core)) :
    (run (step gb) createPair actions).Linkable := by
  have hstep (pair : Pair Core) (action : Action Core) (h : pair.Linkable) :
      (step gb pair action).Linkable := linkable_step hrun h action
  have hcreated : Pair.Linkable (createPair : Pair Core) := by
    refine ⟨?_, fun h => ?_⟩
    · show SkewBounded 0
      decide
    · cases h
  exact run_invariant hstep actions hcreated

/-- **The saved link of a SameBoy pair.** A frame keeps the skew bounded, and so does a saved link;
what a pair saves is accepted and gives back what was saved; an accepted string is saved again as
it is; a rejected one changes nothing. -/
theorem link_codec :
    (∀ (n : Nat) (pair : Pair Core), SkewBounded pair.tickSkew →
      SkewBounded ((fun pair => (runFrame gb pair).2)^[n] pair).tickSkew) ∧
    (∀ (pair : Pair Core) data, SkewBounded pair.tickSkew →
      SkewBounded (unserializeLink gb pair data).2.tickSkew) ∧
    (∀ (actions : List (Action Core)) (capacity : Nat), linkStateSize ≤ capacity →
      ∃ data, serializeLink (run (step gb) createPair actions) capacity = some data ∧
        data.length = linkStateSize ∧
        (unserializeLink gb (run (step gb) createPair actions) data).1 = true ∧
        ∀ pair : Pair Core,
          ((run (step gb) createPair actions).linkEnabled = true → pair.isReady = true) →
            (unserializeLink gb pair data).1 = true ∧
            (unserializeLink gb pair data).2.linkState =
              (run (step gb) createPair actions).linkState) ∧
    (∀ (pair : Pair Core) data, (unserializeLink gb pair data).1 = true →
      ∀ capacity, linkStateSize ≤ capacity →
        serializeLink (unserializeLink gb pair data).2 capacity = some data) ∧
    ∀ (pair : Pair Core) data, (unserializeLink gb pair data).1 = false →
      (unserializeLink gb pair data).2 = pair := by
  refine ⟨?_, ?_, ?_, ?_, fun pair data h => unserializeLink_eq_false h⟩
  · intro n pair h
    induction n with
    | zero => exact h
    | succ n ih =>
      rw [Function.iterate_succ_apply']
      exact (skewBounded_runFrame hrun _ ih).1
  · intro pair data h
    cases haccepted : (unserializeLink gb pair data).1 with
    | false =>
      rw [unserializeLink_eq_false haccepted]
      exact h
    | true =>
      obtain ⟨s, hskew, -, -, hpair⟩ := unserializeLink_eq_true haccepted
      rw [hpair, (applyLinkCallbacks_keeps gb _).1.tickSkew]
      exact hskew
  · intro actions capacity hcapacity
    obtain ⟨hskew, hready⟩ := linkable_run hrun actions
    set saved := run (step gb) createPair actions
    have hload (pair : Pair Core) (h : saved.linkEnabled = true → pair.isReady = true) :
        unserializeLink gb pair saved.linkState.blob =
          (true, (pair.withLinkState saved.linkState).applyLinkCallbacks gb) :=
      unserializeLink_blob gb pair hskew h
    refine ⟨saved.linkState.blob, serializeLink_eq saved hcapacity, saved.linkState.length_blob, ?_,
      fun pair h => ?_⟩
    · rw [hload saved hready]
    · rw [hload pair h]
      exact ⟨rfl, (applyLinkCallbacks_keeps gb _).2⟩
  · intro pair data h capacity hcapacity
    obtain ⟨s, -, -, rfl, hpair⟩ := unserializeLink_eq_true h
    rw [hpair, serializeLink_eq _ hcapacity, (applyLinkCallbacks_keeps gb _).2]
    rfl

end Runs

/-- Cores that end a frame after four ticks. -/
def sampleGb : Gb Unit where
  load := fun _ _ => some ()
  screenFits := fun _ => true
  reset := id
  setInfraredInput := fun core _ => core
  stateFits := fun _ _ => true
  loadState := fun core _ => (core, true)
  run := fun _ _ => { elapsed := 4, callbacks := [.vblank], core := fun _ => some () }

/-- A linked pair after a frame loads what it saves. -/
theorem sample_link_codec :
    ∃ data, serializeLink (run (step sampleGb) createPair
        [.loadRom 0 .gb (List.replicate 0x150 0), .loadRom 1 .gbc (List.replicate 0x150 0),
          .setLink true, .runFrame]) 32 = some data ∧ data.length = 32 := by
  have hrun : ∀ index pair, (sampleGb.run index pair).elapsed ≤ maxSerializedSkew := by
    intro index pair
    show 4 ≤ maxSerializedSkew
    decide
  obtain ⟨data, hdata, hlength, -⟩ := (link_codec hrun).2.2.1
    [.loadRom 0 .gb (List.replicate 0x150 0), .loadRom 1 .gbc (List.replicate 0x150 0),
      .setLink true, .runFrame] 32 (Nat.le_refl _)
  exact ⟨data, hdata, hlength⟩

end DualBoy.Sameboy
