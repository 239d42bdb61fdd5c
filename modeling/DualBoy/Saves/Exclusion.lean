import DualBoy.Saves.Holding

/-!
# Exclusive ownership

* `Hosts.Inv.owners_disjoint`: no two sessions own one save path.
* `Hosts.Inv.refused`: a session that was refused holds nothing.
* `Hosts.Inv.reader_writes_nothing`: a session that does not own its saves writes none.
-/

namespace DualBoy.Saves

open DualBoy.Lib

/-! ## The order of the locks -/

theorem mem_collectPaths {paths : List Path} {path : Path} :
    path ∈ collectPaths paths ↔ path ∈ paths := by
  have hall (collected : List Path) : path ∈ paths.foldl
      (fun collected path => if path ∈ collected then collected else collected ++ [path]) collected ↔
        path ∈ collected ∨ path ∈ paths := by
    induction paths generalizing collected with
    | nil => simp
    | cons first paths ih =>
      rw [List.foldl_cons, ih]
      split
      · rename_i hmem
        rw [List.mem_cons]
        constructor
        · exact fun h => h.imp_right Or.inr
        · rintro (h | rfl | h)
          · exact Or.inl h
          · exact Or.inl hmem
          · exact Or.inr h
      · simp [or_assoc]
  exact (hall []).trans (by simp)

theorem nodup_collectPaths (paths : List Path) : (collectPaths paths).Nodup := by
  have hall (collected : List Path) (h : collected.Nodup) : (paths.foldl
      (fun collected path => if path ∈ collected then collected else collected ++ [path])
        collected).Nodup := by
    induction paths generalizing collected with
    | nil => exact h
    | cons first paths ih =>
      rw [List.foldl_cons]
      split
      · exact ih _ h
      · rename_i hnot
        refine ih _ ?_
        rw [List.nodup_append]
        refine ⟨h, by simp, fun a ha b hb => ?_⟩
        rw [List.mem_singleton] at hb
        rintro rfl
        exact hnot (hb ▸ ha)
  exact hall [] List.nodup_nil

/-- A session locks the paths of its core-managed regions. -/
theorem Manager.mem_lockOrder {m : Manager} {path : Path} :
    path ∈ m.lockOrder ↔ ∃ i kind, m.coreManaged i kind = true ∧ path = m.paths.path i kind := by
  unfold Manager.lockOrder
  rw [List.mem_insertionSort, mem_collectPaths, Manager.managedPaths, List.mem_map]
  constructor
  · rintro ⟨slot, hslot, rfl⟩
    exact ⟨slot.1, slot.2, (List.mem_filter.mp hslot).2, rfl⟩
  · rintro ⟨i, kind, hmanaged, rfl⟩
    exact ⟨(i, kind), List.mem_filter.mpr ⟨Loading.slot_mem_slots i kind, hmanaged⟩, rfl⟩

/-- **The locks are taken in ascending order**, each once. -/
theorem Manager.lockOrder_sorted (m : Manager) : m.lockOrder.Pairwise (· < ·) := by
  have hsorted : m.lockOrder.Pairwise (· ≤ ·) := List.pairwise_insertionSort _ _
  have hnodup : m.lockOrder.Nodup :=
    (List.perm_insertionSort _ _).nodup_iff.mpr (nodup_collectPaths _)
  exact hsorted.imp₂ (fun _ _ => lt_of_le_of_ne) hnodup

/-! ## Owners -/

namespace Session

/-- A session whose manager owns its saves: its initialization is over, or is loading them. -/
def Owns (x : Session) : Prop :=
  x.writeOwner = true ∧ (x.phase = .live ∨ x.phase = .returned .acquired)

/-- The core-managed save paths of a session. -/
def Manages (x : Session) (path : Path) : Prop :=
  ∃ i kind, x.manager.coreManaged i kind = true ∧ path = x.manager.paths.path i kind

variable {x y : Session}

theorem lockFileAt_of_mem {path : Path} (h : path ∈ x.lockOrder) :
    ∃ k, k < x.lockOrder.length ∧ x.lockFileAt k = some (lockFile path) := by
  obtain ⟨k, hk, rfl⟩ := List.getElem_of_mem h
  refine ⟨k, hk, ?_⟩
  rw [lockFileAt, List.getElem?_eq_getElem hk]
  rfl

theorem lockFileAt_eq {k : Nat} {file : Path} (h : x.lockFileAt k = some file) :
    ∃ path, x.lockOrder[k]? = some path ∧ lockFile path = file :=
  Option.map_eq_some_iff.mp h

/-- Two places of the order that lock the same file are one. -/
theorem lockFileAt_inj {k m : Nat} {file : Path} (hk : x.lockFileAt k = some file)
    (hm : x.lockFileAt m = some file) : k = m := by
  obtain ⟨path, hpath, rfl⟩ := lockFileAt_eq hk
  obtain ⟨path', hpath', hsame⟩ := lockFileAt_eq hm
  obtain rfl := lockFile_inj hsame
  have hnodup : x.lockOrder.Nodup := (Manager.lockOrder_sorted x.manager).imp ne_of_lt
  exact (List.getElem?_inj (List.getElem?_eq_some_iff.mp hpath).1 hnodup).mp
    (hpath.trans hpath'.symm)

/-- Of two files, the one a session locks later has the greater name. -/
theorem path_lt {k m : Nat} {path path' : Path} (hlt : k < m) (hk : x.lockOrder[k]? = some path)
    (hm : x.lockOrder[m]? = some path') : path < path' := by
  obtain ⟨hk', rfl⟩ := List.getElem?_eq_some_iff.mp hk
  obtain ⟨hm', rfl⟩ := List.getElem?_eq_some_iff.mp hm
  exact List.pairwise_iff_getElem.mp (Manager.lockOrder_sorted x.manager) k m hk' hm' hlt

/-- An owner has all of its locks. -/
theorem Owns.holds (howns : x.Owns) (hvalid : x.Valid) {k : Nat} (hk : k < x.lockOrder.length) :
    x.Holds k := by
  obtain ⟨howner, hphase⟩ := howns
  have hok := hvalid.phase
  rcases hphase with hp | hp
  · simp only [PhaseOk, hp, howner, and_true, Bool.true_eq_false, and_false, or_false] at hok
    simp only [Holds, hp, and_true]
    omega
  · simp only [PhaseOk, hp] at hok
    simp only [Holds, hp, and_true]
    omega

end Session

namespace Hosts

variable {P : Type} {h h' : Hosts P} {p q : P} {x y : Session}

/-- **Every core-managed path of an owner is locked by it.** -/
theorem Inv.owner_holds (hinv : h.Inv) (hx : h.session p = some x) (howns : x.Owns) {path : Path}
    (hpath : x.Manages path) : ∃ k, h.holder (lockFile path) = some (p, k) := by
  obtain ⟨k, hk, hfile⟩ := Session.lockFileAt_of_mem (Manager.mem_lockOrder.mpr hpath)
  exact ⟨k, (hinv.holder_iff hx k _).mpr ⟨howns.holds (hinv.valid p x hx) hk, hfile⟩⟩

/-- **Two owners share no path.** -/
theorem Inv.owners_disjoint (hinv : h.Inv) (hpq : p ≠ q) (hx : h.session p = some x)
    (hy : h.session q = some y) (hown : x.Owns) (hown' : y.Owns) (path : Path)
    (hpath : x.Manages path) : ¬ y.Manages path := by
  intro hpath'
  obtain ⟨k, hk⟩ := hinv.owner_holds hx hown hpath
  obtain ⟨m, hm⟩ := hinv.owner_holds hy hown' hpath'
  rw [hk] at hm
  exact hpq (Prod.mk.inj (Option.some.inj hm)).1

/-- **A session that was refused has nothing.** -/
theorem Inv.refused (hinv : h.Inv) (hx : h.session p = some x) {result : WriteOwnershipResult}
    (hphase : x.phase = .returned result) (hresult : result ≠ .acquired) :
    x.writeLockFds = [] ∧ x.writeOwner = false ∧ ∀ file k, h.holder file ≠ some (p, k) := by
  have hok := (hinv.valid p x hx).phase
  have hnone : x.writeLockFds = [] ∧ x.writeOwner = false := by
    cases result with
    | acquired => exact absurd rfl hresult
    | busy | error =>
      simp only [Session.PhaseOk, hphase] at hok
      exact hok
  refine ⟨hnone.1, hnone.2, fun file k hheld => ?_⟩
  have hlt := ((hinv.holder_iff hx k file).mp hheld).1.1
  rw [hnone.1] at hlt
  exact Nat.not_lt_zero _ hlt

end Hosts

/-! ## Writes -/

/-- The session an action is one of. -/
def HostAction.actor {P : Type} : HostAction P → P
  | .begin p _ _ | .lock p _ | .load p | .guest p _ | .flush p _ | .deinit p | .exit p => p

namespace Hosts

variable {P : Type} {h : Hosts P} {p q : P} {x y : Session}

@[simp] theorem setHolder_files (file : Path) (holder : Option (P × Nat)) :
    (h.setHolder file holder).files = h.files := rfl

variable [DecidableEq P]

@[simp] theorem put_files (p : P) (x : Session) : (h.put p x).files = h.files := rfl

@[simp] theorem drop_files (p : P) : (h.drop p).files = h.files := rfl

@[simp] theorem unlock_files (p : P) (k : Nat) (file : Path) :
    (h.unlock p k file).files = h.files := by
  unfold unlock
  split <;> rfl

theorem lockStep_files (h : Hosts P) (p : P) (x : Session) (outcome : LockOutcome) :
    (h.lockStep p x outcome).files = h.files := by
  unfold lockStep
  repeat' split
  all_goals simp

/-- **A session that does not own its saves writes none of them.** -/
theorem Inv.reader_writes_nothing (hinv : h.Inv) {a : HostAction P}
    (hx : h.session a.actor = some x) (howner : x.writeOwner = false) :
    (h.step a).files = h.files := by
  unfold Hosts.step
  cases a with
  | begin p setup engine =>
    dsimp only
    split <;> rfl
  | lock p outcome =>
    dsimp only
    split
    · exact lockStep_files h p _ outcome
    · rfl
  | load p =>
    simp only [HostAction.actor] at hx
    simp only [hx]
    split
    · rename_i result hphase
      unfold Hosts.load
      cases result with
      | acquired =>
        have hok := (hinv.valid p x hx).phase
        simp only [Session.PhaseOk, hphase, howner, Bool.false_eq_true, and_false] at hok
      | busy =>
        rw [if_neg (by decide)]
        dsimp only
        split <;> exact init_busy_files x.setup x.engine h.files
      | error => rfl
    · rfl
  | guest p engine =>
    dsimp only
    repeat' split
    all_goals rfl
  | flush p disk =>
    simp only [HostAction.actor] at hx
    simp only [hx]
    split
    · unfold Hosts.flush
      rw [World.flush_of_not_active (fun hactive => ?_) disk]
      · rfl
      · exact Bool.false_ne_true (howner.symm.trans hactive.writeOwner)
    · rfl
  | deinit p =>
    dsimp only
    repeat' split
    all_goals rfl
  | exit p => rfl

end Hosts

end DualBoy.Saves
