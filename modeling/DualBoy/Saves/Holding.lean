import DualBoy.Saves.Ownership

/-!
# Who holds which lock

**`Hosts.Inv.step`**: whatever the sessions do next, a lock file is locked by exactly the session
that counts it among its locks.
-/

namespace DualBoy.Saves

open DualBoy.Lib

/-! ## Who holds what -/

namespace Session

/-- The locks of which a session has the description open and locked. -/
def Holds (x : Session) (k : Nat) : Prop :=
  k < x.writeLockFds.length ∧
    match x.phase with
    | .releasing index .unlock _ => index ≤ k
    | .releasing index (.close held) _ => index < k ∨ index = k ∧ held = true
    | _ => True

/-- What is so of the ownership where a session is. -/
def PhaseOk (x : Session) : Prop :=
  match x.phase with
  | .opening index => x.writeLockFds.length = index ∧ x.writeOwner = false
  | .locking index =>
    x.writeLockFds.length = index ∧ index < x.lockOrder.length ∧ x.writeOwner = false
  | .closing result => result ≠ .acquired ∧ x.writeOwner = false
  | .releasing _ _ (.refused result) => result ≠ .acquired ∧ x.writeOwner = false
  | .releasing _ _ .leave => True
  | .returned .acquired => x.writeLockFds.length = x.lockOrder.length ∧ x.writeOwner = true
  | .returned _ => x.writeLockFds = [] ∧ x.writeOwner = false
  | .live =>
    x.writeLockFds.length = x.lockOrder.length ∧ x.writeOwner = true ∨
      x.writeLockFds = [] ∧ x.writeOwner = false

/-- The manager is the one its initialization set up. -/
def Prepared (x : Session) : Prop :=
  x.setup.paths x.engine = .ok x.manager.paths ∧
    x.manager.coreManaged = x.setup.managed x.engine x.manager.paths

/-- The states a session comes to. -/
structure Valid (x : Session) : Prop where
  fds : x.writeLockFds = List.range x.writeLockFds.length
  length : x.writeLockFds.length ≤ x.lockOrder.length
  phase : x.PhaseOk
  prepared : x.phase ≠ .live → (∀ index point, x.phase ≠ .releasing index point .leave) →
    x.Prepared

variable {x x' : Session}

theorem Valid.fd (h : x.Valid) {k fd : Nat} (hfd : x.writeLockFds[k]? = some fd) :
    fd = k ∧ k < x.writeLockFds.length := by
  have hk := (List.getElem?_eq_some_iff.mp hfd).1
  rw [h.fds, List.getElem?_range hk] at hfd
  exact ⟨(Option.some.inj hfd).symm, hk⟩

end Session

namespace Hosts

variable {P : Type}

/-- **The invariant**: a file is locked by exactly the session that holds it. -/
structure Inv (h : Hosts P) : Prop where
  valid : ∀ p x, h.session p = some x → x.Valid
  holder : ∀ p k file, h.holder file = some (p, k) ↔
    ∃ x, h.session p = some x ∧ x.Holds k ∧ x.lockFileAt k = some file

theorem inv_start (files : Files Path) : (start files : Hosts P).Inv where
  valid := fun _ _ hx => nomatch hx
  holder := fun _ _ _ => by simp [start]

variable {h h' : Hosts P} {p q : P} {x x' : Session}

theorem Inv.holder_iff (hinv : h.Inv) (hx : h.session p = some x) (k : Nat) (file : Path) :
    h.holder file = some (p, k) ↔ x.Holds k ∧ x.lockFileAt k = some file := by
  rw [hinv.holder p k file, hx]
  simp only [Option.some.injEq, exists_eq_left']

variable [DecidableEq P]

/-- A step of one session, and what it does to its locks. -/
theorem Inv.update (hinv : h.Inv) (hvalid : x'.Valid) (hsession : h'.session = h.session)
    (hself : ∀ k file, h'.holder file = some (p, k) ↔ x'.Holds k ∧ x'.lockFileAt k = some file)
    (hother : ∀ q, q ≠ p → ∀ k file,
      h'.holder file = some (q, k) ↔ h.holder file = some (q, k)) : (h'.put p x').Inv where
  valid := by
    intro q y hy
    simp only [put, hsession] at hy
    split at hy
    · obtain rfl := Option.some.inj hy
      exact hvalid
    · exact hinv.valid q y hy
  holder := by
    intro q k file
    by_cases hq : q = p
    · subst hq
      simp only [put, if_true, Option.some.injEq, exists_eq_left']
      exact hself k file
    · simp only [put, if_neg hq, hsession]
      rw [hother q hq k file]
      exact hinv.holder q k file

/-- A step that leaves the locks alone. -/
theorem Inv.keep (hinv : h.Inv) (hx : h.session p = some x) (hvalid : x'.Valid)
    (hsession : h'.session = h.session) (hholder : h'.holder = h.holder)
    (hholds : ∀ k, x'.Holds k ↔ x.Holds k) (horder : x'.lockOrder = x.lockOrder) :
    (h'.put p x').Inv := by
  refine hinv.update hvalid hsession (fun k file => ?_) fun _ _ _ _ => by rw [hholder]
  rw [hholder, hinv.holder_iff hx, hholds k]
  simp only [Session.lockFileAt, horder]

/-- A session that holds nothing goes. -/
theorem Inv.drop (hinv : h.Inv) (hx : h.session p = some x) (hholds : ∀ k, ¬ x.Holds k) :
    (h.drop p).Inv where
  valid := by
    intro q y hy
    simp only [Hosts.drop] at hy
    split at hy
    · cases hy
    · exact hinv.valid q y hy
  holder := by
    intro q k file
    by_cases hq : q = p
    · subst hq
      have hnot := hinv.holder_iff hx k file
      simp only [Hosts.drop, if_true]
      rw [hnot]
      simp [hholds k]
    · simp only [Hosts.drop, if_neg hq]
      exact hinv.holder q k file

/-- What `unlock` leaves locked. -/
theorem holder_unlock {k j : Nat} {file f : Path} :
    (h.unlock p k file).holder f = some (q, j) ↔
      h.holder f = some (q, j) ∧ ¬ (f = file ∧ q = p ∧ j = k) := by
  unfold unlock
  split
  · rename_i hheld
    simp only [setHolder]
    by_cases hf : f = file
    · subst hf
      rw [if_pos rfl, hheld]
      simp only [reduceCtorEq, Option.some.injEq, Prod.mk.injEq, true_and, false_iff, not_and]
      rintro ⟨rfl, rfl⟩ hnot
      exact hnot rfl rfl
    · rw [if_neg hf]
      simp [hf]
  · rename_i hnot
    refine ⟨fun hh => ⟨hh, ?_⟩, And.left⟩
    rintro ⟨rfl, rfl, rfl⟩
    exact hnot hh

theorem session_unlock (k : Nat) (file : Path) : (h.unlock p k file).session = h.session := by
  unfold unlock
  split <;> rfl

/-- A session lets go of the lock it was about to release. -/
theorem Inv.letGo (hinv : h.Inv) (hx : h.session p = some x) (hvalid : x'.Valid) {k : Nat}
    {file : Path} (hfile : x.lockFileAt k = some file) (horder : x'.lockOrder = x.lockOrder)
    (hholds : ∀ j, x'.Holds j ↔ x.Holds j ∧ j ≠ k) : ((h.unlock p k file).put p x').Inv := by
  refine hinv.update hvalid (session_unlock k file) (fun j f => ?_) fun q hq j f => ?_
  · rw [holder_unlock, hinv.holder_iff hx, hholds j]
    have hsame : x'.lockFileAt j = x.lockFileAt j := by
      simp only [Session.lockFileAt, horder]
    rw [hsame]
    constructor
    · rintro ⟨⟨hj, hf⟩, hnot⟩
      refine ⟨⟨hj, ?_⟩, hf⟩
      rintro rfl
      exact hnot ⟨Option.some.inj (hf.symm.trans hfile), rfl, rfl⟩
    · rintro ⟨⟨hj, hne⟩, hf⟩
      exact ⟨⟨hj, hf⟩, fun hsame => hne hsame.2.2⟩
  · rw [holder_unlock]
    simp [hq]

/-- A session gets a lock nobody has. -/
theorem Inv.getLock (hinv : h.Inv) (hx : h.session p = some x) (hvalid : x'.Valid) {k : Nat}
    {file : Path} (hfree : h.holder file = none) (hfile : x.lockFileAt k = some file)
    (horder : x'.lockOrder = x.lockOrder) (hholds : ∀ j, x'.Holds j ↔ x.Holds j ∨ j = k)
    (hnot : ¬ x.Holds k) : ((h.setHolder file (some (p, k))).put p x').Inv := by
  refine hinv.update hvalid rfl (fun j f => ?_) fun q hq j f => ?_
  · have hsame : x'.lockFileAt j = x.lockFileAt j := by
      simp only [Session.lockFileAt, horder]
    rw [hholds j, hsame]
    have hj := hinv.holder_iff hx j f
    simp only [setHolder]
    by_cases hf : f = file
    · subst hf
      rw [hfree] at hj
      rw [if_pos rfl]
      simp only [reduceCtorEq, false_iff, not_and] at hj
      constructor
      · intro heq
        obtain rfl : k = j := (Prod.mk.inj (Option.some.inj heq)).2
        exact ⟨Or.inr rfl, hfile⟩
      · rintro ⟨hheld | rfl, hf⟩
        · exact absurd hf (hj hheld)
        · rfl
    · rw [if_neg hf, hj]
      refine and_congr_left fun hat => ⟨Or.inl, fun hor => hor.resolve_right ?_⟩
      rintro rfl
      exact hf (Option.some.inj (hat.symm.trans hfile))
  · simp only [setHolder]
    split
    · rename_i hf
      rw [hf, hfree]
      simp [Ne.symm hq]
    · rfl

/-! ## Steps -/

theorem Inv.lockStep (hinv : h.Inv) (hx : h.session p = some x) (outcome : LockOutcome) :
    (h.lockStep p x outcome).Inv := by
  have hvalid := hinv.valid p x hx
  obtain ⟨hfds, hlength, hphase, hprepared⟩ := id hvalid
  unfold Hosts.lockStep
  cases hp : x.phase with
  | opening index =>
    simp only [Session.PhaseOk, hp] at hphase
    obtain ⟨hindex, howner⟩ := hphase
    have hprepared' := hprepared (by rw [hp]; nofun) (by rw [hp]; nofun)
    have hrefused : (h.put p (x.release (.refused .error))).Inv := by
      refine hinv.keep hx ⟨hfds, hlength, ⟨nofun, howner⟩, fun _ _ => hprepared'⟩ rfl rfl
        (fun k => ?_) rfl
      simp [Session.Holds, Session.release, hp]
    dsimp only
    cases hpath : x.lockOrder[index]? with
    | none =>
      have hall := List.getElem?_eq_none_iff.mp hpath
      have hfull : x.writeLockFds.length = x.lockOrder.length := by omega
      refine hinv.keep hx ⟨hfds, hlength, ⟨hfull, rfl⟩, fun _ _ => hprepared'⟩ rfl rfl
        (fun k => ?_) rfl
      simp [Session.Holds, Session.withWriteOwner, hp]
    | some path =>
      dsimp only
      have hlt := (List.getElem?_eq_some_iff.mp hpath).1
      split_ifs
      · exact hrefused
      · refine hinv.keep hx ⟨hfds, hlength, ⟨hindex, hlt, howner⟩, fun _ _ => hprepared'⟩ rfl rfl
          (fun k => ?_) rfl
        simp [Session.Holds, hp]
      · exact hrefused
  | locking index =>
    simp only [Session.PhaseOk, hp] at hphase
    obtain ⟨hindex, hlt, howner⟩ := hphase
    have hprepared' := hprepared (by rw [hp]; nofun) (by rw [hp]; nofun)
    have hclosing (result : WriteOwnershipResult) (hresult : result ≠ .acquired) :
        (h.put p { x with phase := .closing result }).Inv := by
      refine hinv.keep hx ⟨hfds, hlength, ⟨hresult, howner⟩, fun _ _ => hprepared'⟩ rfl rfl
        (fun k => ?_) rfl
      simp [Session.Holds, hp]
    dsimp only
    split
    · exact hinv
    · exact hinv
    · exact hclosing .error nofun
    · rename_i file hfile
      split
      · rename_i hfree
        have hmore : (x.writeLockFds ++ [index]).length = index + 1 := by
          rw [List.length_append, List.length_singleton, hindex]
        have hvalid' : Session.Valid
            { x with
              phase := .opening (index + 1)
              writeLockFds := x.writeLockFds ++ [index] } := by
          refine ⟨?_, ?_, ⟨hmore, howner⟩, fun _ _ => hprepared'⟩
          · dsimp only
            rw [hmore, List.range_succ, ← hindex, ← hfds]
          · dsimp only
            rw [hmore]
            exact hlt
        refine hinv.getLock hx hvalid' hfree hfile rfl (fun j => ?_) ?_
        · simp only [Session.Holds, hp, List.length_append, List.length_singleton, and_true]
          omega
        · simp only [Session.Holds, hp, hindex, and_true]
          omega
      · exact hclosing .busy nofun
  | closing result =>
    simp only [Session.PhaseOk, hp] at hphase
    have hprepared' := hprepared (by rw [hp]; nofun) (by rw [hp]; nofun)
    refine hinv.keep hx ⟨hfds, hlength, hphase, fun _ _ => hprepared'⟩ rfl rfl (fun k => ?_) rfl
    simp [Session.Holds, Session.release, hp]
  | releasing index point next =>
    have hreleasing (index' : Nat) (point' : ReleasePoint) :
        Session.Valid { x with phase := .releasing index' point' next } := by
      refine ⟨hfds, hlength, ?_, fun _ hleave => ?_⟩
      · cases next with
        | leave => trivial
        | refused result =>
          simp only [Session.PhaseOk, hp] at hphase
          exact hphase
      · refine hprepared (by rw [hp]; nofun) fun index'' point'' hsame => ?_
        rw [hp] at hsame
        cases hsame
        exact hleave index' point' rfl
    cases point with
    | unlock =>
      dsimp only
      cases hfd : x.writeLockFds[index]? with
      | none =>
        have hdone := List.getElem?_eq_none_iff.mp hfd
        have hnone (k : Nat) : ¬ x.Holds k := by
          simp only [Session.Holds, hp]
          omega
        cases next with
        | leave => exact hinv.drop hx hnone
        | refused result =>
          simp only [Session.PhaseOk, hp] at hphase
          have hprepared' := hprepared (by rw [hp]; nofun) (by rw [hp]; nofun)
          refine hinv.keep hx ⟨rfl, Nat.zero_le _, ?_, fun _ _ => hprepared'⟩ rfl rfl
            (fun k => ?_) rfl
          · cases result with
            | acquired => exact absurd rfl hphase.1
            | busy | error => exact ⟨rfl, rfl⟩
          · exact iff_of_false (fun hheld => Nat.not_lt_zero _ hheld.1) (hnone k)
      | some fd =>
        obtain ⟨rfl, hlt⟩ := hvalid.fd hfd
        dsimp only
        split
        · rename_i file hfile
          refine hinv.letGo hx (hreleasing _ _) hfile rfl fun j => ?_
          simp only [Session.Holds, hp, Bool.false_eq_true, and_false, or_false]
          omega
        · refine hinv.keep hx (hreleasing _ _) rfl rfl (fun k => ?_) rfl
          simp only [Session.Holds, hp, and_true]
          omega
    | close held =>
      dsimp only
      cases hfd : x.writeLockFds[index]? with
      | none =>
        have hdone := List.getElem?_eq_none_iff.mp hfd
        refine hinv.keep hx (hreleasing _ _) rfl rfl (fun k => ?_) rfl
        simp only [Session.Holds, hp]
        omega
      | some fd =>
        obtain ⟨rfl, hlt⟩ := hvalid.fd hfd
        obtain ⟨path, hpath⟩ : ∃ path, x.lockOrder[fd]? = some path :=
          ⟨_, List.getElem?_eq_getElem (by omega)⟩
        have hfile : x.lockFileAt fd = some (lockFile path) := by
          rw [Session.lockFileAt, hpath]
          rfl
        rw [Option.bind_some, hfile]
        dsimp only
        refine hinv.letGo hx (hreleasing _ _) hfile rfl fun j => ?_
        simp only [Session.Holds, hp]
        omega
  | returned result => exact hinv
  | live => exact hinv

end Hosts

/-! ## The rest of an initialization, and flushes -/

/-- An initialization that found its saves locked writes nothing. -/
theorem init_busy_files (s : Setup) (e : Engine) (files : Files Path) :
    (init (s.under .busy) e files).files = files := by
  have hkept (owner : Bool) (paths : SavePaths)
      (hmanaged : owner = true → ∀ i kind, s.managed e paths i kind = false) :
      ((s.under .busy).load owner paths e files).1.files = files := by
    refine untilFailure_keeps (p := fun l : Loading => l.files = files) (fun slot _ l hl => ?_) rfl
    rcases Loading.loadRegion_files (s.under .busy) owner paths _ slot.1 slot.2 l with
      hsame | ⟨data, src, hslot, -, -, -, hwrites⟩
    · exact hsame.trans hl
    · cases owner with
      | true =>
        have hfalse : s.managed e paths slot.1 slot.2 = true := hslot
        rw [hmanaged rfl] at hfalse
        cases hfalse
      | false =>
        refine hwrites.trans ?_
        rw [hl]
        rfl
  unfold init
  dsimp only
  split
  · rfl
  · rename_i paths hpaths
    split
    · rfl
    · rename_i owner howner
      refine hkept owner paths fun htrue i kind => ?_
      subst htrue
      unfold Setup.writeOwner at howner
      split at howner
      · rename_i hnone
        exact hnone (i, kind) (Loading.slot_mem_slots i kind)
      · cases howner

/-- What a flush leaves of the manager. -/
def Manager.Same (m m' : Manager) : Prop :=
  m'.paths = m.paths ∧ m'.coreManaged = m.coreManaged ∧ m'.writeOwner = m.writeOwner

theorem flush_same (disk : Disk) (w : World) : w.manager.Same (w.flush disk).1.manager := by
  have hregion (v : World) (i : Fin 2) (kind : MemoryKind) :
      v.manager.Same (v.flushRegion disk i kind).1.manager := by
    unfold World.flushRegion
    split
    · exact ⟨rfl, rfl, rfl⟩
    · split
      · exact ⟨rfl, rfl, rfl⟩
      · exact ⟨rfl, rfl, rfl⟩
      · dsimp only
        split
        · exact ⟨rfl, rfl, rfl⟩
        · exact ⟨rfl, rfl, rfl⟩
        · split
          · unfold World.writeRegion
            dsimp only
            split <;> exact ⟨rfl, rfl, rfl⟩
          · exact ⟨rfl, rfl, rfl⟩
  have hturns : w.manager.Same (untilFailure (World.flushTurn disk) World.turns w).1.manager := by
    refine untilFailure_keeps (p := fun v : World => w.manager.Same v.manager) (fun turn _ v hv => ?_)
      ⟨rfl, rfl, rfl⟩
    cases turn with
    | region i kind =>
      obtain ⟨hpaths, hmanaged, howner⟩ := hregion v i kind
      exact ⟨hpaths.trans hv.1, hmanaged.trans hv.2.1, howner.trans hv.2.2⟩
    | clearDirty i => exact hv
  unfold World.flush
  split
  · exact ⟨rfl, rfl, rfl⟩
  · dsimp only
    split
    · exact hturns
    · exact hturns

/-- A session without a core-managed region has nothing to lock. -/
theorem Manager.lockOrder_eq_nil {m : Manager}
    (h : ∀ slot ∈ Loading.slots, m.coreManaged slot.1 slot.2 = false) : m.lockOrder = [] := by
  have hnone : (Loading.slots.filter fun slot => m.coreManaged slot.1 slot.2) = [] :=
    List.filter_eq_nil_iff.mpr fun slot hslot => by simp [h slot hslot]
  unfold Manager.lockOrder Manager.managedPaths
  rw [hnone]
  rfl

theorem Manager.lockOrder_congr {m m' : Manager} (hpaths : m'.paths = m.paths)
    (hmanaged : m'.coreManaged = m.coreManaged) : m'.lockOrder = m.lockOrder := by
  unfold Manager.lockOrder Manager.managedPaths
  rw [hpaths, hmanaged]

theorem init_manager {s : Setup} {e : Engine} {files : Files Path} {m : Manager}
    (h : (init s e files).manager = .ok m) : s.paths e = .ok m.paths ∧
      m.coreManaged = s.managed e m.paths ∧ s.writeOwner m.coreManaged = .ok m.writeOwner := by
  obtain ⟨paths, owner, l, hpaths, howner, -, -, rfl⟩ := init_eq_ok h
  exact ⟨hpaths, rfl, howner⟩

namespace Hosts

variable {P : Type} [DecidableEq P] {h h' : Hosts P} {p q : P} {x x' : Session}

/-- A session that begins to release its locks still has them. -/
theorem Inv.leave (hinv : h.Inv) (hx : h.session p = some x)
    (hphase : ∀ index point next, x.phase ≠ .releasing index point next) (e : Engine)
    (files : Files Path) :
    (Hosts.put { h with files } p ({ x with engine := e }.release .leave)).Inv := by
  have hvalid := hinv.valid p x hx
  refine hinv.keep hx ⟨hvalid.fds, hvalid.length, trivial, fun _ hnot => absurd rfl (hnot _ _)⟩
    rfl rfl (fun k => ?_) rfl
  simp only [Session.Holds, Session.release, Nat.zero_le, and_true]
  split
  · rename_i hp
    exact absurd hp (hphase _ _ _)
  · rename_i hp
    exact absurd hp (hphase _ _ _)
  · simp

theorem Inv.load (hinv : h.Inv) (hx : h.session p = some x) {result : WriteOwnershipResult}
    (hphase : x.phase = .returned result) : (h.load p x result).Inv := by
  obtain ⟨hfds, hlength, hok, hprepared⟩ := hinv.valid p x hx
  obtain ⟨hpaths, hmanaged⟩ := hprepared (by rw [hphase]; nofun) (by rw [hphase]; nofun)
  have hnot (index : Nat) (point : ReleasePoint) (next : AfterRelease) :
      x.phase ≠ .releasing index point next := by
    rw [hphase]
    nofun
  unfold Hosts.load
  split
  · exact hinv.leave hx hnot x.engine h.files
  · rename_i herror
    dsimp only
    split
    · rename_i m hm
      obtain ⟨hpaths', hmanaged', howner⟩ := init_manager hm
      have hsame : m.paths = x.manager.paths :=
        (Except.ok.inj (hpaths.symm.trans hpaths')).symm
      have hregions : m.coreManaged = x.manager.coreManaged := by
        rw [hmanaged', hmanaged, hsame]
        rfl
      have horder : m.lockOrder = x.lockOrder := Manager.lockOrder_congr hsame hregions
      have hlive : m.writeOwner = true ∧ x.writeLockFds.length = m.lockOrder.length ∨
          x.writeLockFds = [] ∧ m.writeOwner = false := by
        unfold Setup.writeOwner at howner
        split at howner
        · rename_i hnone
          have hempty := Manager.lockOrder_eq_nil hnone
          refine Or.inl ⟨(Except.ok.inj howner).symm, ?_⟩
          rw [← horder, hempty, List.length_nil] at hlength
          rw [hempty, List.length_nil]
          omega
        · cases result with
          | acquired =>
            simp only [Session.PhaseOk, hphase] at hok
            refine Or.inl ⟨(Except.ok.inj howner).symm, ?_⟩
            rw [horder]
            exact hok.1
          | busy =>
            simp only [Session.PhaseOk, hphase] at hok
            exact Or.inr ⟨hok.1, (Except.ok.inj howner).symm⟩
          | error => exact absurd rfl herror
      refine hinv.keep hx ⟨hfds, ?_, hlive.imp_left And.symm, fun hnot => absurd rfl hnot⟩ rfl rfl
        (fun k => ?_) horder
      · exact hlength.trans (Nat.le_of_eq (congrArg List.length horder.symm))
      · simp [Session.Holds, hphase]
    · exact hinv.leave hx hnot _ _

theorem Inv.flush (hinv : h.Inv) (hx : h.session p = some x) (hphase : x.phase = .live)
    (disk : Disk) : (h.flush p x disk).Inv := by
  obtain ⟨hfds, hlength, hok, hprepared⟩ := hinv.valid p x hx
  obtain ⟨hpaths, hmanaged, howner⟩ := flush_same disk ⟨x.manager, x.engine, h.files, []⟩
  have horder := Manager.lockOrder_congr hpaths hmanaged
  unfold Hosts.flush
  refine hinv.keep hx ⟨hfds, ?_, ?_, fun hnot => absurd hphase hnot⟩ rfl rfl (fun k => ?_) horder
  · exact hlength.trans (Nat.le_of_eq (congrArg List.length horder.symm))
  · simp only [Session.PhaseOk, hphase] at hok ⊢
    simp only [Session.writeOwner, Session.lockOrder] at hok ⊢
    rw [howner, horder]
    exact hok
  · simp [Session.Holds, hphase]

/-- The end of a process frees what it held. -/
theorem Inv.exit (hinv : h.Inv) (p : P) : (h.exit p).Inv where
  valid := by
    intro q y hy
    simp only [Hosts.exit, Hosts.drop] at hy
    split at hy
    · cases hy
    · exact hinv.valid q y hy
  holder := by
    intro q k file
    have hq := hinv.holder q k file
    simp only [Hosts.exit, Hosts.drop]
    by_cases hqp : q = p
    · subst hqp
      simp only [if_true, reduceCtorEq, false_and, exists_false, iff_false]
      split
      · nofun
      · rename_i hnot
        intro heq
        rw [heq] at hnot
        exact hnot rfl
    · rw [if_neg hqp, ← hq]
      split
      · rename_i hheld
        refine iff_of_false nofun fun heq => ?_
        rw [heq] at hheld
        exact hqp (Option.some.inj hheld)
      · rfl

/-- **A step of any session keeps the invariant.** -/
theorem Inv.step (hinv : h.Inv) (a : HostAction P) : (h.step a).Inv := by
  unfold Hosts.step
  cases a with
  | begin p setup engine =>
    dsimp only
    split
    · rename_i paths hnone hpaths
      refine hinv.update ?_ rfl (fun k file => ?_) fun _ _ _ _ => Iff.rfl
      · unfold Session.start
        dsimp only
        split
        · rename_i hunmanaged
          refine ⟨rfl, Nat.zero_le _, ⟨?_, hunmanaged⟩, fun _ _ => ⟨hpaths, rfl⟩⟩
          have hnone : ∀ slot ∈ Loading.slots,
            setup.managed engine paths slot.1 slot.2 = false := of_decide_eq_true hunmanaged
          exact (congrArg List.length (Manager.lockOrder_eq_nil hnone)).symm
        · rename_i hmanaged
          refine ⟨rfl, Nat.zero_le _, ⟨rfl, ?_⟩, fun _ _ => ⟨hpaths, rfl⟩⟩
          exact Bool.eq_false_iff.mpr hmanaged
      · have hnot := hinv.holder p k file
        rw [hnot, hnone]
        simp [Session.Holds, Session.start]
    · exact hinv
  | lock p outcome =>
    dsimp only
    split
    · rename_i x hx
      exact hinv.lockStep hx outcome
    · exact hinv
  | load p =>
    dsimp only
    split
    · rename_i x hx
      split
      · rename_i result hphase
        exact hinv.load hx hphase
      · exact hinv
    · exact hinv
  | guest p engine =>
    dsimp only
    split
    · rename_i x hx
      split
      · rename_i hphase
        have hvalid := hinv.valid p x hx
        exact hinv.keep hx ⟨hvalid.fds, hvalid.length, hvalid.phase,
          fun hnot => absurd hphase hnot⟩ rfl rfl (fun _ => Iff.rfl) rfl
      · exact hinv
    · exact hinv
  | flush p disk =>
    dsimp only
    split
    · rename_i x hx
      split
      · rename_i hphase
        exact hinv.flush hx hphase disk
      · exact hinv
    · exact hinv
  | deinit p =>
    dsimp only
    split
    · rename_i x hx
      split
      · rename_i hphase
        exact hinv.leave hx (by rw [hphase]; nofun) x.engine h.files
      · exact hinv
    · exact hinv
  | exit p => exact hinv.exit p

end Hosts

end DualBoy.Saves
