import DualBoy.State.Restore

/-!
# Restoring is atomic and leaves the battery alone

Headlines:
* **`restore_is_atomic`**: nothing is called before the checks and the snapshot have passed; a
  rejected restore leaves the pair as it was; it is fatal exactly when a step of the rollback failed
  as well; one that succeeds has handed the engine the container's contents in order.
* **`restore_keeps_battery`**: whatever the outcome, and whatever the engine writes there, the SaveRAM
  and RTC regions hold the bytes they held before.

The engine is arbitrary. The first theorem asks of it that a call which puts back what was there
does so when it succeeds (`Restores`), the second that its regions stay where they are (`Stable`).
-/

namespace DualBoy.State

open DualBoy.Lib

variable {M L : Type}

/-! ## Putting back a snapshot -/

/-- Given what the engine serialized from the pair, or the link setting in force, a call that succeeds
restores its component and touches no other. Nothing is asked of a call that is given anything else,
or that fails. -/
structure Ready.Restores (r : Ready M L) : Prop where
  machine : ∀ i bytes, r.serializeMachine r.pair i (r.machineStateCapacity i) = some bytes →
    ∀ q q', r.unserializeMachine q i bytes = (q', true) →
      q'.machine i = r.pair.machine i ∧ (∀ j, j ≠ i → q'.machine j = q.machine j) ∧
        q'.link = q.link ∧ q'.linked = q.linked
  link : ∀ bytes, r.serializeLink r.pair r.linkStateCapacity = some bytes →
    ∀ q q', r.unserializeLink q bytes = (q', true) →
      q'.link = r.pair.link ∧ q'.machine = q.machine ∧ q'.linked = q.linked
  setLink : ∀ q q', r.setLink q r.linkEnabled = (q', none) →
    q'.linked = r.linkEnabled ∧ q'.machine = q.machine ∧ q'.link = q.link

def Session.Restores (s : Session M L) : Prop :=
  ∀ r, stateOpsValid s = some r → r.Restores

/-- What a successful call of the rollback does. -/
theorem Ready.Restores.perform {r : Ready M L} (hr : r.Restores) {malloc : Allocation → Bool}
    {snapshot : Contents} (hs : snapshotState malloc r = .ok snapshot) {call : Call}
    (hcall : call ∈ snapshot.calls) {q q' : Pair M L} (h : r.perform call q = (q', none)) :
    (call = .setLink snapshot.linkEnabled ∧ q'.linked = r.linkEnabled ∧ q'.machine = q.machine ∧
      q'.link = q.link) ∨
    (∃ i, call = .unserializeMachine i (snapshot.machine i) ∧ q'.machine i = r.pair.machine i ∧
      (∀ j, j ≠ i → q'.machine j = q.machine j) ∧ q'.link = q.link ∧ q'.linked = q.linked) ∨
    (call = .unserializeLink snapshot.link ∧ q'.link = r.pair.link ∧ q'.machine = q.machine ∧
      q'.linked = q.linked) := by
  obtain ⟨hflag, hmachine, hlink⟩ := snapshotState_eq_ok hs
  have hof (i : Fin 2) (h : r.perform (.unserializeMachine i (snapshot.machine i)) q = (q', none)) :
      r.unserializeMachine q i (snapshot.machine i) = (q', true) := by
    simpa [Ready.perform, Prod.ext_iff] using h
  simp only [Contents.calls, List.mem_cons, List.not_mem_nil, or_false] at hcall
  rcases hcall with rfl | rfl | rfl | rfl
  · refine Or.inl ⟨rfl, hr.setLink q q' ?_⟩
    rw [← hflag]
    exact h
  · exact Or.inr (Or.inl ⟨0, rfl, hr.machine 0 _ (hmachine 0) q q' (hof 0 h)⟩)
  · exact Or.inr (Or.inl ⟨1, rfl, hr.machine 1 _ (hmachine 1) q q' (hof 1 h)⟩)
  · refine Or.inr (Or.inr ⟨rfl, hr.link _ hlink q q' ?_⟩)
    simpa [Ready.perform, Prod.ext_iff] using h

/-- **A rollback in which every call succeeds restores every component.** -/
theorem Ready.Restores.rollback {r : Ready M L} (hr : r.Restores) {malloc : Allocation → Bool}
    {snapshot : Contents} (hs : snapshotState malloc r = .ok snapshot) (q : Pair M L)
    (h : firstError (attemptAll r.perform snapshot.calls q).2 = none) :
    let q' := (attemptAll r.perform snapshot.calls q).1
    q'.machine = r.pair.machine ∧ q'.link = r.pair.link ∧ q'.linked = r.linkEnabled := by
  refine ⟨funext fun i => ?_, ?_, ?_⟩
  · have hmem : .unserializeMachine i (snapshot.machine i) ∈ snapshot.calls := by
      match i with
      | 0 => simp [Contents.calls]
      | 1 => simp [Contents.calls]
    refine attemptAll_establishes (p := fun q => q.machine i = r.pair.machine i) hmem ?_ ?_ h
    · intro q q' h
      rcases hr.perform hs hmem h with ⟨hc, -⟩ | ⟨j, hc, hj, -⟩ | ⟨hc, -⟩
      · simp at hc
      · obtain ⟨rfl, -⟩ := Call.unserializeMachine.inj hc
        exact hj
      · simp at hc
    · intro call hcall q q' h hq
      rcases hr.perform hs hcall h with ⟨-, -, hm, -⟩ | ⟨j, -, hj, hm, -⟩ | ⟨-, -, hm, -⟩
      · rw [hm, hq]
      · by_cases hij : i = j
        · rw [hij, hj]
        · rw [hm i hij, hq]
      · rw [hm, hq]
  · have hmem : .unserializeLink snapshot.link ∈ snapshot.calls := by simp [Contents.calls]
    refine attemptAll_establishes (p := fun q => q.link = r.pair.link) hmem ?_ ?_ h
    · intro q q' h
      rcases hr.perform hs hmem h with ⟨hc, -⟩ | ⟨j, hc, -⟩ | ⟨-, hl, -⟩
      · simp at hc
      · simp at hc
      · exact hl
    · intro call hcall q q' h hq
      rcases hr.perform hs hcall h with ⟨-, -, -, hl⟩ | ⟨j, -, -, -, hl, -⟩ | ⟨-, hl, -⟩
      · rw [hl, hq]
      · rw [hl, hq]
      · exact hl
  · have hmem : .setLink snapshot.linkEnabled ∈ snapshot.calls := by simp [Contents.calls]
    refine attemptAll_establishes (p := fun q => q.linked = r.linkEnabled) hmem ?_ ?_ h
    · intro q q' h
      rcases hr.perform hs hmem h with ⟨-, hl, -⟩ | ⟨j, hc, -⟩ | ⟨hc, -⟩
      · exact hl
      · simp at hc
      · simp at hc
    · intro call hcall q q' h hq
      rcases hr.perform hs hcall h with ⟨-, hl, -⟩ | ⟨j, -, -, -, -, hl⟩ | ⟨-, -, -, hl⟩
      · exact hl
      · rw [hl, hq]
      · rw [hl, hq]

/-! ## Outcomes -/

/-- The two sessions agree on the machines, the link and its setting; and on the engine's own link
flag, if that was the session's setting. -/
structure Session.SameState (s s' : Session M L) : Prop where
  machine : s'.pair.map Pair.machine = s.pair.map Pair.machine
  link : s'.pair.map Pair.link = s.pair.map Pair.link
  linkEnabled : s'.linkEnabled = s.linkEnabled
  linked : s.pair.map Pair.linked = some s.linkEnabled →
    s'.pair.map Pair.linked = s.pair.map Pair.linked

/-- The container passes every check of the session. -/
def Session.Accepts (s : Session M L) (data : Option (List Byte)) : Prop :=
  ∃ r bytes, stateOpsValid s = some r ∧ data = some bytes ∧ headerSize ≤ bytes.length ∧
    Accepted r bytes

/-- The snapshot of the session succeeds. -/
def Session.Snapshots (s : Session M L) (malloc : Allocation → Bool) : Prop :=
  ∃ r snapshot, stateOpsValid s = some r ∧ snapshotState malloc r = .ok snapshot

/-- The calls are an application of the container that failed, followed by a whole rollback with a
failure. -/
def Session.RollbackFailed (s : Session M L) (malloc : Allocation → Bool)
    (data : Option (List Byte)) (calls : List (Call × Option String)) : Prop :=
  ∃ r bytes snapshot copies applied undone, Admitted malloc s data r bytes snapshot copies ∧
    calls = applied ++ undone ∧ FailedIn (contentsOf bytes).calls applied ∧
    undone.map Prod.fst = snapshot.calls ∧ ∃ call ∈ undone, call.2 ≠ none

section Apply

variable (s : Session M L) (r : Ready M L) (contents snapshot : Contents)
  (copies : List (Nat × List Byte))

/-- Either every component was applied, or the application failed and the whole rollback was made;
the result says which, and whether the rollback failed. -/
theorem applyState_cases :
    let out := applyState s r contents snapshot copies
    (out.result = .ok ∧ out.calls = contents.calls.map (fun c => (c, none)) ∧
      out.session.linkEnabled = contents.linkEnabled) ∨
    ∃ applied q, FailedIn contents.calls applied ∧
      out.calls = applied ++ (attemptAll r.perform snapshot.calls q).2 ∧
      out.session =
        { s with
          pair := some ((attemptAll r.perform snapshot.calls q).1.restoreBattery copies)
          linkEnabled := snapshot.linkEnabled } ∧
      out.result =
        if (firstError (attemptAll r.perform snapshot.calls q).2).isSome then .fatal
        else .rejected := by
  unfold applyState
  dsimp only
  rcases untilFailure_done r.perform contents.calls r.pair with hall | hfailed
  · left
    have hnone : firstError (untilFailure r.perform contents.calls r.pair).2 = none := by
      rw [hall, firstError_eq_none]
      simp
    rw [hnone]
    exact ⟨rfl, hall, rfl⟩
  · right
    obtain ⟨error, herror⟩ := hfailed.firstError
    rw [herror]
    refine ⟨_, (untilFailure r.perform contents.calls r.pair).1, hfailed, ?_⟩
    dsimp only
    split
    · exact ⟨rfl, rfl, rfl⟩
    · exact ⟨rfl, rfl, rfl⟩

end Apply

/-- **State restore is atomic.** -/
theorem restore_is_atomic (malloc : Allocation → Bool) (s : Session M L)
    (data : Option (List Byte)) (hs : s.Restores) :
    let out := unserializeEx malloc s data
    (¬s.Accepts data ∨ ¬s.Snapshots malloc → out.calls = []) ∧
    (out.result = .rejected → s.SameState out.session) ∧
    (out.result = .fatal ↔ s.RollbackFailed malloc data out.calls) ∧
    (out.result = .ok → ∃ bytes, data = some bytes ∧
      out.calls = (contentsOf bytes).calls.map (fun call => (call, none)) ∧
      out.session.linkEnabled = (contentsOf bytes).linkEnabled) := by
  rcases unserializeEx_cases malloc s data with
    ⟨r, bytes, snapshot, copies, h, heq⟩ | ⟨hnone, error, heq⟩
  · dsimp only
    rw [heq]
    obtain ⟨hpair, hflag, -⟩ := stateOpsValid_eq_some h.ready
    have hlen {applied undone applied' undone' : List (Call × Option String)}
        (hcat : applied ++ undone = applied' ++ undone') (hundone : undone.map Prod.fst =
          undone'.map Prod.fst) : undone = undone' :=
      List.append_inj_right' hcat (by simpa using congrArg List.length hundone)
    refine ⟨?_, ?_⟩
    · rintro (hno | hno)
      · exact absurd ⟨r, bytes, h.ready, h.given, h.header, h.accepted⟩ hno
      · exact absurd ⟨r, snapshot, h.ready, h.snapshot⟩ hno
    rcases applyState_cases s r (contentsOf bytes) snapshot copies with
      ⟨hok, hcalls, hlinked⟩ | ⟨applied, q, hfailed, hcalls, hsession, hresult⟩
    · refine ⟨fun hr => ?_, ⟨fun hf => ?_, ?_⟩, fun _ => ⟨bytes, h.given, hcalls, hlinked⟩⟩
      · rw [hok] at hr
        exact absurd hr (by decide)
      · rw [hok] at hf
        exact absurd hf (by decide)
      · -- a call that failed is none of the calls of a whole application
        rintro ⟨r', bytes', snapshot', copies', applied, undone, -, happ, hfail, -, -⟩
        obtain ⟨before, c, after, e, -, rfl⟩ := hfail
        rw [hcalls] at happ
        have hmem : (c, some e) ∈ (contentsOf bytes).calls.map
            fun c => (c, (none : Option String)) := by
          rw [happ]
          simp
        simp at hmem
    · refine ⟨fun hr => ?_, ⟨fun hf => ?_, ?_⟩, fun hr => ?_⟩
      · have hnone : firstError (attemptAll r.perform snapshot.calls q).2 = none := by
          rw [hresult] at hr
          split at hr
          · exact absurd hr (by decide)
          · rename_i hsome
            simpa using hsome
        obtain ⟨hm, hl, hlinked⟩ := (hs r h.ready).rollback h.snapshot q hnone
        have hsnapshot := (snapshotState_eq_ok h.snapshot).1
        rw [hsession]
        refine ⟨?_, ?_, hsnapshot.trans hflag.symm, fun hforce => ?_⟩
        · rw [hpair]
          exact congrArg some hm
        · rw [hpair]
          exact congrArg some hl
        · rw [hforce]
          exact congrArg some (hlinked.trans hflag.symm)
      · rw [hresult] at hf
        split at hf
        · rename_i hsome
          refine ⟨r, bytes, snapshot, copies, applied, _, h, hcalls, hfailed,
            map_fst_attemptAll _ _ _, ?_⟩
          by_contra hno
          push Not at hno
          rw [firstError_eq_none.mpr hno] at hsome
          exact absurd hsome (by simp)
        · exact absurd hf (by decide)
      · rintro ⟨r', bytes', snapshot', copies', applied', undone, h', happ, -, hfst, call, hcall,
          hne⟩
        obtain rfl := Option.some.inj (h.ready.symm.trans h'.ready)
        obtain rfl := Except.ok.inj (h.snapshot.symm.trans h'.snapshot)
        rw [hcalls] at happ
        obtain rfl := hlen happ ((map_fst_attemptAll _ _ _).trans hfst.symm)
        rw [hresult, if_pos]
        cases hf : firstError (attemptAll r.perform snapshot.calls q).2 with
        | some e => rfl
        | none => exact absurd (firstError_eq_none.mp hf call hcall) hne
      · rw [hresult] at hr
        split at hr
        · exact absurd hr (by decide)
        · exact absurd hr (by decide)
  · dsimp only
    rw [heq]
    refine ⟨fun _ => rfl, fun _ => ⟨rfl, rfl, rfl, fun _ => rfl⟩, ⟨fun hf => ?_, ?_⟩, fun hr => ?_⟩
    · exact absurd hf (by simp [Restored.reject])
    · rintro ⟨r, bytes, snapshot, copies, -, -, h, -⟩
      exact absurd ⟨r, bytes, snapshot, copies, h⟩ hnone
    · exact absurd hr (by simp [Restored.reject])

/-! ## The battery -/

/-- The block of memory the engine exposes for a region. -/
def Session.region (s : Session M L) (i : Fin 2) (kind : MemoryKind) : Option (Nat × Nat) := do
  let pair ← s.pair
  let engine ← s.engine
  let info ← engine.memoryInfo
  let (data, size) ← info pair i kind
  let address ← data
  some (address, size)

/-- The bytes of a region. -/
def Session.battery (s : Session M L) (i : Fin 2) (kind : MemoryKind) : Option (List Byte) := do
  let pair ← s.pair
  let (address, size) ← s.region i kind
  some (pair.memory.read address size)

/-- The engine's regions stay where they are. -/
def Session.Stable (s : Session M L) : Prop :=
  ∀ engine, s.engine = some engine → ∀ info, engine.memoryInfo = some info → ∀ p q, info p = info q

/-- Whichever way it ends, the copies of the battery are written over what the engine left. -/
theorem session_applyState (s : Session M L) (r : Ready M L) (contents snapshot : Contents)
    (copies : List (Nat × List Byte)) :
    ∃ (q : Pair M L) (linkEnabled : Bool), (applyState s r contents snapshot copies).session =
      { s with pair := some (q.restoreBattery copies), linkEnabled } := by
  unfold applyState
  dsimp only
  split
  · exact ⟨_, _, rfl⟩
  · split
    · exact ⟨_, _, rfl⟩
    · exact ⟨_, _, rfl⟩

theorem mem_batterySlots (i : Fin 2) {kind : MemoryKind} (h : kind ≠ .firmware) :
    (i, kind) ∈ batterySlots := by
  cases kind with
  | firmware => exact absurd rfl h
  | saveRam => exact (by decide : ∀ i : Fin 2, (i, MemoryKind.saveRam) ∈ batterySlots) i
  | rtc => exact (by decide : ∀ i : Fin 2, (i, MemoryKind.rtc) ∈ batterySlots) i

/-- Every exposed region of a battery kind has a copy. -/
theorem Admitted.covers {malloc : Allocation → Bool} {s : Session M L} {data : Option (List Byte)}
    {r : Ready M L} {bytes : List Byte} {snapshot : Contents} {copies : List (Nat × List Byte)}
    (h : Admitted malloc s data r bytes snapshot copies) {i : Fin 2} {kind : MemoryKind}
    (hkind : kind ≠ .firmware) {address size : Nat} (hregion : s.region i kind = some (address, size))
    (hsize : size ≠ 0) : (address, r.pair.memory.read address size) ∈ copies := by
  obtain ⟨hpair, -, engine, hengine, hinfo⟩ := stateOpsValid_eq_some h.ready
  have hbattery := h.copies
  unfold State.battery at hbattery
  simp only [Session.region, hpair, hengine, hinfo, Option.bind_eq_bind, Option.bind_some,
    Option.bind_eq_some_iff, Option.some.injEq, Prod.mk.injEq] at hregion
  obtain ⟨info, hsome, ⟨data, n⟩, hat, a, hdata, rfl, rfl⟩ := hregion
  obtain rfl : data = some a := hdata
  rw [hsome] at hbattery
  dsimp only at hbattery
  have hmem := copyBattery_covers hat hsize (mem_batterySlots i hkind)
    (congrArg Prod.snd hbattery)
  rwa [hbattery] at hmem

/-- **State loading never changes a battery region**, whatever it returns. -/
theorem restore_keeps_battery (malloc : Allocation → Bool) (s : Session M L)
    (data : Option (List Byte)) (hs : s.Stable) (i : Fin 2) (kind : MemoryKind)
    (hkind : kind ≠ .firmware) :
    (unserializeEx malloc s data).session.battery i kind = s.battery i kind := by
  rcases unserializeEx_cases malloc s data with
    ⟨r, bytes, snapshot, copies, h, heq⟩ | ⟨-, error, heq⟩
  · obtain ⟨hpair, -, engine, hengine, -⟩ := stateOpsValid_eq_some h.ready
    obtain ⟨q, linkEnabled, hsession⟩ := session_applyState s r (contentsOf bytes) snapshot copies
    rw [heq, hsession]
    have hregion : Session.region { s with pair := some (q.restoreBattery copies), linkEnabled } i
        kind = s.region i kind := by
      simp only [Session.region, hpair, hengine, Option.bind_eq_bind, Option.bind_some]
      cases hinfo : engine.memoryInfo with
      | none => rfl
      | some info => rw [Option.bind_some, Option.bind_some, hs engine hengine info hinfo _ r.pair]
    unfold Session.battery
    rw [hregion, hpair]
    cases hat : s.region i kind with
    | none => rfl
    | some region =>
      obtain ⟨address, size⟩ := region
      refine congrArg some (Memory.read_congr fun a hlow hhigh => ?_)
      have hcopied := copied_battery malloc r
      rw [h.copies] at hcopied
      refine Memory.writeAll_restores hcopied ⟨_, h.covers hkind hat (by omega), hlow, ?_⟩
      simpa using hhigh
  · rw [heq]
    rfl

/-! ## An engine of three bytes

Each machine and the link is one byte. Loading a component also writes its byte all over the memory,
and fails afterwards if the byte is `0xff`. -/

def byteEngine : EngineOps Byte Byte where
  family := .mgba
  setLink p enabled := ({ p with linked := enabled }, none)
  memoryInfo := some fun _ i kind =>
    match kind with
    | .saveRam => some (some (16 * i.val), 4)
    | .rtc => some (none, 0)
    | .firmware => none
  machineStateSize := some fun _ _ => 1
  serializeMachine := some fun p i _ => some [p.machine i]
  unserializeMachine := some fun p i bytes =>
    let b := bytes.headD 0
    ({ p with machine := fun j => if j = i then b else p.machine j, memory := fun _ => b }, b ≠ 0xff)
  linkStateSize := some fun _ => 1
  serializeLink := some fun p _ => some [p.link]
  unserializeLink := some fun p bytes =>
    let b := bytes.headD 0
    ({ p with link := b, memory := fun _ => b }, b ≠ 0xff)

def byteSession : Session Byte Byte where
  engine := some byteEngine
  pair := some
    { machine := fun i => if i = 0 then 1 else 2
      link := 3
      linked := true
      memory := fun a => BitVec.ofNat 8 (a + 32) }
  roms := fun _ => { platform := .gba, data := [0x2e, 0xea] }
  machineStateCapacity := fun _ => 1
  linkStateCapacity := 1
  linkEnabled := true
  loaded := true

/-- A container whose second machine does not load. -/
def byteContainer : Option (List Byte) :=
  (stateOpsValid byteSession).map fun r =>
    r.container
      { linkEnabled := false, machine := fun i => if i = 0 then [7] else [0xff], link := [9] }

theorem byteSession_restores : byteSession.Restores := by
  intro r hr
  obtain rfl := Option.some.inj (show stateOpsValid byteSession = _ from hr)
  refine ⟨?_, ?_, ?_⟩
  · rintro i bytes hbytes q q' h
    obtain rfl := Option.some.inj hbytes
    obtain ⟨rfl, -⟩ := Prod.ext_iff.mp h
    exact ⟨if_pos rfl, fun j hj => if_neg hj, rfl, rfl⟩
  · rintro bytes hbytes q q' h
    obtain rfl := Option.some.inj hbytes
    obtain ⟨rfl, -⟩ := Prod.ext_iff.mp h
    exact ⟨rfl, rfl, rfl⟩
  · rintro q q' h
    obtain ⟨rfl, -⟩ := Prod.ext_iff.mp h
    exact ⟨rfl, rfl, rfl⟩

/-- Machine 1 fails after both machines have changed, and the session is as it was. -/
theorem restore_is_atomic_bytes :
    let out := unserializeEx (fun _ => true) byteSession byteContainer
    out.result = .rejected ∧ out.calls.map (fun call => (call.1, call.2.isSome)) =
        [(.setLink false, false), (.unserializeMachine 0 [7], false),
          (.unserializeMachine 1 [0xff], true), (.setLink true, false),
          (.unserializeMachine 0 [1], false), (.unserializeMachine 1 [2], false),
          (.unserializeLink [3], false)] ∧ byteSession.SameState out.session := by
  have hrejected : (unserializeEx (fun _ => true) byteSession byteContainer).result = .rejected := by
    decide +kernel
  exact ⟨hrejected, by decide +kernel,
    (restore_is_atomic _ _ byteContainer byteSession_restores).2.1 hrejected⟩

/-- The bytes the engine wrote over the SaveRAM are gone. -/
theorem restore_keeps_battery_bytes :
    (unserializeEx (fun _ => true) byteSession byteContainer).session.battery 0 .saveRam =
      some [32, 33, 34, 35] := by
  have hstable : byteSession.Stable := by
    rintro engine hengine info hinfo p q
    obtain rfl := Option.some.inj hengine
    obtain rfl := Option.some.inj hinfo
    rfl
  rw [restore_keeps_battery _ _ _ hstable 0 .saveRam (by decide)]
  decide

end DualBoy.State
