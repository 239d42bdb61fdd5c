import DualBoy.Lib.Run
import DualBoy.Saves.Exclusion

/-!
# Competing for the locks

Two sessions take their locks at the same time, and no other session has one. A session that was
refused gives way to the other, which locks nothing any more that the first still holds: both take
their locks in the order of the names.

* `ownership_is_exclusive`: no two sessions own one save path, a session that was refused holds
  nothing, a session that does not own its saves writes none, and of two that compete alone one
  wins.
-/

namespace DualBoy.Saves

open DualBoy.Lib

/-! ## How far a session has come -/

/-- How far the acquisition of a session has come. -/
inductive Progress where
  | taking (index : Nat)
  | ended (result : WriteOwnershipResult)
  | past
  deriving DecidableEq, Repr

def LockPhase.progress : LockPhase → Progress
  | .opening index | .locking index => .taking index
  | .closing result | .releasing _ _ (.refused result) | .returned result => .ended result
  | .releasing _ _ .leave | .live => .past

namespace Session

/-- A bound on the system calls of an acquisition. -/
def stepsLeft (x : Session) : Nat :=
  match x.phase with
  | .opening index => 2 * (x.lockOrder.length - index) + 3 * x.lockOrder.length + 3
  | .locking index => 2 * (x.lockOrder.length - index) + 3 * x.lockOrder.length + 2
  | .closing _ => 3 * x.lockOrder.length + 2
  | .releasing index .unlock _ => 3 * (x.writeLockFds.length - index) + 1
  | .releasing index (.close _) _ => 3 * (x.writeLockFds.length - (index + 1)) + 2
  | .returned _ | .live => 0

/-- The next system call of an acquisition is an error: the name of the lock file is too long, the
file does not open, or `flock` fails otherwise than by an interruption. -/
inductive MeetsError (x : Session) (outcome : LockOutcome) : Prop where
  | tooLong (index : Nat) (path : Path) (hx : x.phase = .opening index)
      (hpath : x.lockOrder[index]? = some path) (hlong : pathCapacity ≤ (lockFile path).length)
  | opens (index : Nat) (hx : x.phase = .opening index) (hlt : index < x.lockOrder.length)
      (houtcome : outcome ≠ .proceeds)
  | locks (index : Nat) (hx : x.phase = .locking index) (houtcome : outcome = .fails)

/-- What one step does to the acquisition of a session. -/
inductive Advance {P : Type} (h : Hosts P) (outcome : LockOutcome) (x x' : Session) : Prop where
  | stays (hprogress : x'.phase.progress = x.phase.progress) (hholds : ∀ k, x'.Holds k → x.Holds k)
  | takes (index : Nat) (hx : x.phase.progress = .taking index)
      (hx' : x'.phase.progress = .taking (index + 1))
  | wins (index : Nat) (hx : x.phase.progress = .taking index)
      (hx' : x'.phase.progress = .ended .acquired)
  | fails (index : Nat) (hx : x.phase.progress = .taking index)
      (hx' : x'.phase.progress = .ended .error) (herror : x.MeetsError outcome)
  | finds (index : Nat) (file : Path) (r : P) (k : Nat) (hx : x.phase.progress = .taking index)
      (hx' : x'.phase.progress = .ended .busy) (hfile : x.lockFileAt index = some file)
      (hheld : h.holder file = some (r, k)) (hholds : ∀ k, x'.Holds k → x.Holds k)

/-- The step brings the session nearer to the end of its acquisition, if the call took place. -/
structure Nearer (outcome : LockOutcome) (x x' : Session) : Prop where
  order : x'.lockOrder = x.lockOrder
  le : x'.stepsLeft ≤ x.stepsLeft
  lt : outcome ≠ .interrupted → (∀ result, x.phase ≠ .returned result) →
    x'.stepsLeft < x.stepsLeft
  returned : ∀ result, x.phase = .returned result → x'.phase = .returned result

variable {x x' y : Session}

theorem Nearer.refl (outcome : LockOutcome) (x : Session)
    (h : outcome = .interrupted ∨ ∃ result, x.phase = .returned result) :
    Nearer outcome x x where
  order := rfl
  le := Nat.le_refl _
  lt := by
    intro hnot hphase
    rcases h with h | ⟨result, h⟩
    · exact absurd h hnot
    · exact absurd h (hphase result)
  returned := fun _ h => h

theorem Nearer.of_lt {outcome : LockOutcome} (horder : x'.lockOrder = x.lockOrder)
    (hlt : x'.stepsLeft < x.stepsLeft) (hphase : ∀ result, x.phase ≠ .returned result) :
    Nearer outcome x x' where
  order := horder
  le := Nat.le_of_lt hlt
  lt := fun _ _ => hlt
  returned := fun result h => absurd h (hphase result)

theorem Nearer.weaken {outcome : LockOutcome} (h : Nearer outcome x x') :
    Nearer .interrupted x x' where
  order := h.order
  le := h.le
  lt := fun hnot => absurd rfl hnot
  returned := h.returned

/-- The locks a session has are those before the one it takes. -/
theorem Valid.holds_lt (hvalid : x.Valid) {index k : Nat}
    (hprogress : x.phase.progress = .taking index) (hheld : x.Holds k) : k < index := by
  have hok := hvalid.phase
  have hlt := hheld.1
  cases hp : x.phase with
  | opening index' =>
    simp only [PhaseOk, hp] at hok
    simp only [hp, LockPhase.progress, Progress.taking.injEq] at hprogress
    omega
  | locking index' =>
    simp only [PhaseOk, hp] at hok
    simp only [hp, LockPhase.progress, Progress.taking.injEq] at hprogress
    omega
  | closing result => simp [hp, LockPhase.progress] at hprogress
  | releasing index' point next => cases next <;> simp [hp, LockPhase.progress] at hprogress
  | returned result => simp [hp, LockPhase.progress] at hprogress
  | live => simp [hp, LockPhase.progress] at hprogress

end Session

namespace Hosts

variable {P : Type} [DecidableEq P] {h h' : Hosts P} {p q : P} {x x' y y' : Session}

theorem put_self (hx : h.session p = some x) : (h.put p x).session = h.session := by
  funext q
  simp only [put]
  split
  · rename_i hq
    rw [hq, hx]
  · rfl

theorem put_session (hsession : h'.session = h.session) (p : P) (x : Session) :
    (h'.put p x).session = (h.put p x).session := by
  simp only [put, hsession]

/-- **One system call of an acquisition**, while it goes on. -/
theorem Inv.lockStep_advance (hinv : h.Inv) (hx : h.session p = some x)
    (hprogress : x.phase.progress ≠ .past) (outcome : LockOutcome) :
    ∃ x', (h.lockStep p x outcome).session = (h.put p x').session ∧ Session.Advance h outcome x x' ∧
      Session.Nearer outcome x x' := by
  have hvalid := hinv.valid p x hx
  have hlength := hvalid.length
  have hok := hvalid.phase
  unfold Hosts.lockStep
  cases hp : x.phase with
  | opening index =>
    have hreturned : ∀ result, x.phase ≠ .returned result := by
      intro result hresult
      cases hp.symm.trans hresult
    have hindex : x.phase.progress = .taking index := by rw [hp]; rfl
    simp only [Session.PhaseOk, hp] at hok
    have hrefused : Session.Nearer outcome x (x.release (.refused .error)) := by
      refine .of_lt rfl ?_ hreturned
      simp only [Session.stepsLeft, hp, Session.release, Session.lockOrder] at hlength ⊢
      omega
    dsimp only
    cases hpath : x.lockOrder[index]? with
    | none =>
      refine ⟨_, rfl, .wins index hindex rfl, .of_lt rfl ?_ hreturned⟩
      simp [Session.stepsLeft, hp]
    | some path =>
      dsimp only
      have hlt := (List.getElem?_eq_some_iff.mp hpath).1
      split_ifs with hlong houtcome
      · exact ⟨_, rfl, .fails index hindex rfl (.tooLong index path hp hpath hlong), hrefused⟩
      · refine ⟨_, rfl, .stays hindex.symm fun k hheld => ?_, .of_lt rfl ?_ hreturned⟩
        · simp only [Session.Holds, hp] at hheld ⊢
          exact hheld
        · simp only [Session.stepsLeft, hp, Session.lockOrder]
          omega
      · exact ⟨_, rfl, .fails index hindex rfl (.opens index hp hlt houtcome), hrefused⟩
  | locking index =>
    have hreturned : ∀ result, x.phase ≠ .returned result := by
      intro result hresult
      cases hp.symm.trans hresult
    have hindex : x.phase.progress = .taking index := by rw [hp]; rfl
    simp only [Session.PhaseOk, hp] at hok
    have hlt : index < x.lockOrder.length := hok.2.1
    have hclosing (result : WriteOwnershipResult) :
        Session.Nearer outcome x { x with phase := .closing result } := by
      refine .of_lt rfl ?_ hreturned
      simp only [Session.stepsLeft, hp, Session.lockOrder] at hlt ⊢
      omega
    dsimp only
    split
    · rename_i hnone
      rw [Session.lockFileAt, List.getElem?_eq_getElem hlt] at hnone
      cases hnone
    · exact ⟨x, (put_self hx).symm, .stays rfl fun _ => id, .refl _ x (Or.inl rfl)⟩
    · exact ⟨_, rfl, .fails index hindex rfl (.locks index hp rfl), hclosing .error⟩
    · rename_i file hfile
      split
      · refine ⟨_, rfl, .takes index hindex rfl, .of_lt rfl ?_ hreturned⟩
        simp only [Session.stepsLeft, hp, Session.lockOrder] at hlt ⊢
        omega
      · rename_i hheld
        obtain ⟨⟨r, k⟩, hrk⟩ := Option.ne_none_iff_exists'.mp hheld
        refine ⟨_, rfl, .finds index file r k hindex rfl hfile hrk fun k hheld => ?_,
          hclosing .busy⟩
        simp only [Session.Holds, hp] at hheld ⊢
        exact hheld
  | closing result =>
    refine ⟨_, rfl, .stays (by rw [hp]; rfl) fun k hheld => ?_,
      .of_lt rfl ?_ fun result hresult => ?_⟩
    · simp only [Session.Holds, hp, Session.release] at hheld ⊢
      exact ⟨hheld.1, trivial⟩
    · simp only [Session.stepsLeft, hp, Session.release, Session.lockOrder] at hlength ⊢
      omega
    · cases hp.symm.trans hresult
  | releasing index point next =>
    have hreturned : ∀ result, x.phase ≠ .returned result := by
      intro result hresult
      cases hp.symm.trans hresult
    cases next with
    | leave => exact absurd (by rw [hp]; rfl) hprogress
    | refused result =>
      have hended : x.phase.progress = .ended result := by rw [hp]; rfl
      cases point with
      | unlock =>
        dsimp only
        cases hfd : x.writeLockFds[index]? with
        | none =>
          refine ⟨_, rfl, .stays hended.symm fun k hheld => ?_, .of_lt rfl ?_ hreturned⟩
          · exact absurd hheld.1 (Nat.not_lt_zero _)
          · simp [Session.stepsLeft, hp]
        | some fd =>
          have hlt := (List.getElem?_eq_some_iff.mp hfd).1
          dsimp only
          split
          · refine ⟨_, put_session (session_unlock _ _) p _, .stays hended.symm fun k hheld => ?_,
              .of_lt rfl ?_ hreturned⟩
            · simp only [Session.Holds, hp] at hheld ⊢
              omega
            · simp only [Session.stepsLeft, hp]
              omega
          · refine ⟨_, rfl, .stays hended.symm fun k hheld => ?_, .of_lt rfl ?_ hreturned⟩
            · simp only [Session.Holds, hp] at hheld ⊢
              omega
            · simp only [Session.stepsLeft, hp]
              omega
      | close held =>
        dsimp only
        have hnext : Session.Advance h outcome x
            { x with phase := .releasing (index + 1) .unlock (.refused result) } := by
          refine .stays hended.symm fun k hheld => ?_
          simp only [Session.Holds, hp] at hheld ⊢
          omega
        have hnearer : Session.Nearer outcome x
            { x with phase := .releasing (index + 1) .unlock (.refused result) } := by
          refine .of_lt rfl ?_ hreturned
          simp only [Session.stepsLeft, hp]
          omega
        split
        · exact ⟨_, put_session (session_unlock _ _) p _, hnext, hnearer⟩
        · exact ⟨_, rfl, hnext, hnearer⟩
  | returned result =>
    exact ⟨x, (put_self hx).symm, .stays rfl fun _ => id, .refl _ x (Or.inr ⟨result, hp⟩)⟩
  | live => exact absurd (by rw [hp]; rfl) hprogress

end Hosts

/-! ## Two sessions -/

/-- A session that found a lock busy gives way: the other has ended otherwise, or takes no lock any
more that the first still has. -/
def Session.GivesWay (x y : Session) : Prop :=
  x.phase.progress = .ended .busy →
    y.phase.progress = .ended .error ∨ y.phase.progress = .ended .acquired ∨
      ∃ index, y.phase.progress = .taking index ∧ ∀ k file, x.Holds k → x.lockFileAt k = some file →
        ∀ m, index ≤ m → y.lockFileAt m ≠ some file

namespace Hosts

variable {P : Type} {h h' : Hosts P} {p q : P} {x x' y y' : Session}

/-- The two sessions, which nobody else disturbs. -/
structure Rivals (h : Hosts P) (p q : P) (x y : Session) : Prop where
  ne : p ≠ q
  session : h.session p = some x
  session' : h.session q = some y
  progress : x.phase.progress ≠ .past
  progress' : y.phase.progress ≠ .past
  alone : ∀ file r k, h.holder file = some (r, k) → r = p ∨ r = q
  givesWay : x.GivesWay y
  givesWay' : y.GivesWay x

theorem Rivals.symm (hr : h.Rivals p q x y) : h.Rivals q p y x where
  ne := hr.ne.symm
  session := hr.session'
  session' := hr.session
  progress := hr.progress'
  progress' := hr.progress
  alone := fun file r k hheld => (hr.alone file r k hheld).symm
  givesWay := hr.givesWay'
  givesWay' := hr.givesWay

/-- A session that still takes locks found one busy: then its rival has it, and goes on. -/
theorem Rivals.givesWay_of_finds (hinv : h.Inv) (hr : h.Rivals p q x y)
    (horder : x'.lockOrder = x.lockOrder) {index k : Nat} {file : Path} {r : P}
    (hprogress : x.phase.progress = .taking index) (hfile : x.lockFileAt index = some file)
    (hheld : h.holder file = some (r, k)) (hholds : ∀ k, x'.Holds k → x.Holds k) :
    x'.GivesWay y ∧ y.phase.progress ≠ .ended .busy := by
  have hvalid := hinv.valid p x hr.session
  have hvalid' := hinv.valid q y hr.session'
  have hq : r = q := by
    refine (hr.alone file r k hheld).resolve_left ?_
    rintro rfl
    obtain ⟨hk, hsame⟩ := (hinv.holder_iff hr.session k file).mp hheld
    have hlt := hvalid.holds_lt hprogress hk
    have := Session.lockFileAt_inj hsame hfile
    omega
  subst hq
  obtain ⟨hk, hsame⟩ := (hinv.holder_iff hr.session' k file).mp hheld
  have hbusy : y.phase.progress ≠ .ended .busy := by
    intro hy
    rcases hr.givesWay' hy with herror | hacquired | ⟨index', hx, hfree⟩
    · exact nomatch hprogress.symm.trans herror
    · exact nomatch hprogress.symm.trans hacquired
    · obtain rfl := Progress.taking.inj (hprogress.symm.trans hx)
      exact hfree k file hk hsame index (Nat.le_refl _) hfile
  refine ⟨fun _ => ?_, hbusy⟩
  cases hy : y.phase.progress with
  | taking index' =>
    refine Or.inr (Or.inr ⟨index', rfl, fun k' file' hk' hfile' m hm hfile'' => ?_⟩)
    have hfile₁ : x.lockFileAt k' = some file' := by
      rw [← hfile']
      simp only [Session.lockFileAt, horder]
    obtain ⟨path₁, hpath₁, rfl⟩ := Session.lockFileAt_eq hfile₁
    obtain ⟨path₂, hpath₂, rfl⟩ := Session.lockFileAt_eq hfile
    obtain ⟨path₃, hpath₃, heq₃⟩ := Session.lockFileAt_eq hsame
    obtain ⟨path₄, hpath₄, heq₄⟩ := Session.lockFileAt_eq hfile''
    obtain rfl := lockFile_inj heq₃
    obtain rfl := lockFile_inj heq₄
    -- what the first has comes before the lock it waits for, which comes before what is left
    have hbefore := Session.path_lt (hvalid.holds_lt hprogress (hholds k' hk')) hpath₁ hpath₂
    have hafter := Session.path_lt (Nat.lt_of_lt_of_le (hvalid'.holds_lt hy hk) hm) hpath₃ hpath₄
    exact lt_irrefl _ (hbefore.trans hafter)
  | ended result =>
    cases result with
    | acquired => exact Or.inr (Or.inl rfl)
    | busy => exact absurd hy hbusy
    | error => exact Or.inl rfl
  | past => exact absurd hy hr.progress'

/-- The rivals remain so when one of them goes on. -/
theorem Rivals.advance {outcome : LockOutcome} (hinv : h.Inv) (hr : h.Rivals p q x y)
    (hadvance : Session.Advance h outcome x x') (horder : x'.lockOrder = x.lockOrder) :
    x'.GivesWay y ∧ y.GivesWay x' := by
  have hat (k : Nat) : x'.lockFileAt k = x.lockFileAt k := by
    simp only [Session.lockFileAt, horder]
  cases hadvance with
  | stays hprogress hholds =>
    constructor
    · intro hx'
      rcases hr.givesWay (hprogress ▸ hx') with herror | hacquired | ⟨index, hy, hfree⟩
      · exact Or.inl herror
      · exact Or.inr (Or.inl hacquired)
      · refine Or.inr (Or.inr ⟨index, hy, fun k file hk hfile => ?_⟩)
        exact hfree k file (hholds k hk) (hat k ▸ hfile)
    · intro hy
      rw [hprogress]
      simp only [hat]
      exact hr.givesWay' hy
  | takes index hx hx' =>
    constructor
    · intro hbusy
      cases hx'.symm.trans hbusy
    · intro hy
      rcases hr.givesWay' hy with herror | hacquired | ⟨index', hx₁, hfree⟩
      · cases hx.symm.trans herror
      · cases hx.symm.trans hacquired
      · obtain rfl := Progress.taking.inj (hx.symm.trans hx₁)
        refine Or.inr (Or.inr ⟨index + 1, hx', fun k file hk hfile m hm => ?_⟩)
        rw [hat]
        exact hfree k file hk hfile m (by omega)
  | wins index hx hx' =>
    constructor
    · intro hbusy
      cases hx'.symm.trans hbusy
    · exact fun _ => Or.inr (Or.inl hx')
  | fails index hx hx' herror =>
    constructor
    · intro hbusy
      cases hx'.symm.trans hbusy
    · exact fun _ => Or.inl hx'
  | finds index file r k hx hx' hfile hheld hholds =>
    obtain ⟨hgives, hbusy⟩ := hr.givesWay_of_finds hinv horder hx hfile hheld hholds
    exact ⟨hgives, fun hy => absurd hy hbusy⟩

theorem Session.Advance.progress_ne {h : Hosts P} {outcome : LockOutcome}
    (hadvance : Session.Advance h outcome x x') (hprogress : x.phase.progress ≠ .past) :
    x'.phase.progress ≠ .past := by
  cases hadvance with
  | stays hsame hholds => rwa [hsame]
  | takes index hx hx' => rw [hx']; nofun
  | wins index hx hx' => rw [hx']; nofun
  | fails index hx hx' herror => rw [hx']; nofun
  | finds index file r k hx hx' hfile hheld hholds => rw [hx']; nofun

variable [DecidableEq P]

/-- A system call of one rival. -/
theorem Rivals.lockStep (hinv : h.Inv) (hr : h.Rivals p q x y) (outcome : LockOutcome)
    (halone : ∀ file r k, (h.lockStep p x outcome).holder file = some (r, k) → r = p ∨ r = q) :
    ∃ x', (h.lockStep p x outcome).Rivals p q x' y ∧ Session.Nearer outcome x x' := by
  obtain ⟨x', hsession, hadvance, hnearer⟩ := hinv.lockStep_advance hr.session hr.progress outcome
  obtain ⟨hgives, hgives'⟩ := hr.advance hinv hadvance hnearer.order
  have hprogress := Session.Advance.progress_ne hadvance hr.progress
  refine ⟨x', ⟨hr.ne, ?_, ?_, hprogress, hr.progress', halone, hgives, hgives'⟩, hnearer⟩
  · rw [hsession]
    exact if_pos rfl
  · rw [hsession]
    exact (if_neg hr.ne.symm).trans hr.session'

/-- A step of another session leaves a session as it is. -/
theorem step_session {a : HostAction P} (hp : a.actor ≠ p) :
    (h.step a).session p = h.session p := by
  have hput (h' : Hosts P) (x : Session) (hsession : h'.session = h.session) :
      (h'.put a.actor x).session p = h.session p := by
    simp only [put, hsession, if_neg hp.symm]
  have hdrop : (h.drop a.actor).session p = h.session p := by
    simp only [drop, if_neg hp.symm]
  unfold step
  cases a with
  | begin p' setup engine =>
    dsimp only
    split
    · exact hput h _ rfl
    · rfl
  | lock p' outcome =>
    dsimp only
    split
    · unfold Hosts.lockStep
      repeat' split
      all_goals first
        | rfl
        | exact hput h _ rfl
        | exact hput _ _ (session_unlock _ _)
        | exact hput _ _ rfl
        | exact hdrop
    · rfl
  | load p' =>
    dsimp only
    split
    · split
      · unfold load
        dsimp only
        repeat' split
        all_goals exact hput _ _ rfl
      · rfl
    · rfl
  | guest p' engine =>
    dsimp only
    repeat' split
    all_goals first
      | rfl
      | exact hput h _ rfl
  | flush p' disk =>
    dsimp only
    repeat' split
    all_goals first
      | rfl
      | exact hput _ _ rfl
  | deinit p' =>
    dsimp only
    repeat' split
    all_goals first
      | rfl
      | exact hput h _ rfl
  | exit p' => exact hdrop

/-- A step while the rivals compete: each comes nearer to its end, or stays where it is. -/
theorem Rivals.step (hinv : h.Inv) (hr : h.Rivals p q x y) {a : HostAction P}
    (hlocks : a.actor = p ∨ a.actor = q → ∃ outcome, a = .lock a.actor outcome)
    (halone : ∀ file r k, (h.step a).holder file = some (r, k) → r = p ∨ r = q) :
    ∃ x' y', (h.step a).Rivals p q x' y' ∧
      Session.Nearer .interrupted x x' ∧ Session.Nearer .interrupted y y' ∧
      (∀ outcome, a = .lock p outcome → Session.Nearer outcome x x') ∧
      (∀ outcome, a = .lock q outcome → Session.Nearer outcome y y') := by
  by_cases hp : a.actor = p
  · obtain ⟨outcome, ha⟩ := hlocks (Or.inl hp)
    rw [hp] at ha
    subst ha
    have hstep : h.step (.lock p outcome) = h.lockStep p x outcome := by
      simp only [Hosts.step, hr.session]
    rw [hstep] at halone ⊢
    obtain ⟨x', hr', hnearer⟩ := hr.lockStep hinv outcome halone
    refine ⟨x', y, hr', hnearer.weaken, .refl _ y (Or.inl rfl), ?_, ?_⟩
    · rintro _ ⟨⟩
      exact hnearer
    · rintro _ ⟨⟩
      exact absurd rfl hr.ne
  · by_cases hq : a.actor = q
    · obtain ⟨outcome, ha⟩ := hlocks (Or.inr hq)
      rw [hq] at ha
      subst ha
      have hstep : h.step (.lock q outcome) = h.lockStep q y outcome := by
        simp only [Hosts.step, hr.session']
      rw [hstep] at halone ⊢
      obtain ⟨y', hr', hnearer⟩ := hr.symm.lockStep hinv outcome
        fun file r k hheld => (halone file r k hheld).symm
      refine ⟨x, y', hr'.symm, .refl _ x (Or.inl rfl), hnearer.weaken, ?_, ?_⟩
      · rintro _ ⟨⟩
        exact absurd rfl hr.ne
      · rintro _ ⟨⟩
        exact hnearer
    · refine ⟨x, y, ⟨hr.ne, ?_, ?_, hr.progress, hr.progress', halone, hr.givesWay, hr.givesWay'⟩,
        .refl _ x (Or.inl rfl), .refl _ y (Or.inl rfl), ?_, ?_⟩
      · rw [step_session hp, hr.session]
      · rw [step_session hq, hr.session']
      · rintro _ rfl
        exact absurd rfl hp
      · rintro _ rfl
        exact absurd rfl hq

/-! ## The contest -/

/-- Two sessions begin to take their locks, go on with their system calls as the schedule has it,
and nobody else gets a lock; whatever else the schedule has is by others. -/
structure Contest (h : Hosts P) (p q : P) (schedule : Nat → HostAction P) : Prop where
  ne : p ≠ q
  begins : ∃ x, h.session p = some x ∧ x.phase = .opening 0
  begins' : ∃ y, h.session q = some y ∧ y.phase = .opening 0
  locks : ∀ n, (schedule n).actor = p ∨ (schedule n).actor = q →
    ∃ outcome, schedule n = .lock (schedule n).actor outcome
  alone : ∀ n file r k,
    (run Hosts.step h (firstOf schedule n)).holder file = some (r, k) → r = p ∨ r = q
  fair : ∀ m, ∃ n outcome, m ≤ n ∧ outcome ≠ .interrupted ∧ schedule n = .lock p outcome
  fair' : ∀ m, ∃ n outcome, m ≤ n ∧ outcome ≠ .interrupted ∧ schedule n = .lock q outcome

/-- No system call of the acquisition meets an error: the names of the lock files are not too long,
each of them opens, and `flock` finds its file free or locked, or is interrupted. -/
structure Undisturbed (h : Hosts P) (p : P) (schedule : Nat → HostAction P) : Prop where
  fits : ∀ x, h.session p = some x → ∀ path ∈ x.lockOrder, (lockFile path).length < pathCapacity
  opens : ∀ n outcome x index, schedule n = .lock p outcome →
    (run Hosts.step h (firstOf schedule n)).session p = some x → x.phase = .opening index →
      index < x.lockOrder.length → outcome = .proceeds
  locks : ∀ n outcome x index, schedule n = .lock p outcome →
    (run Hosts.step h (firstOf schedule n)).session p = some x → x.phase = .locking index →
      outcome ≠ .fails

variable {schedule : Nat → HostAction P}

theorem Contest.symm (hc : h.Contest p q schedule) : h.Contest q p schedule where
  ne := hc.ne.symm
  begins := hc.begins'
  begins' := hc.begins
  locks := fun n hactor => hc.locks n hactor.symm
  alone := fun n file r k hheld => (hc.alone n file r k hheld).symm
  fair := hc.fair'
  fair' := hc.fair

theorem Contest.rivals (hinv : h.Inv) (hc : h.Contest p q schedule) (n : Nat) :
    ∃ x y, (run Hosts.step h (firstOf schedule n)).Rivals p q x y := by
  induction n with
  | zero =>
    obtain ⟨x, hx, hphase⟩ := hc.begins
    obtain ⟨y, hy, hphase'⟩ := hc.begins'
    refine ⟨x, y, hc.ne, hx, hy, ?_, ?_, hc.alone 0, ?_, ?_⟩
    · rw [hphase]
      nofun
    · rw [hphase']
      nofun
    · intro hbusy
      rw [hphase] at hbusy
      cases hbusy
    · intro hbusy
      rw [hphase'] at hbusy
      cases hbusy
  | succ n ih =>
    obtain ⟨x, y, hr⟩ := ih
    have halone := hc.alone (n + 1)
    rw [run_firstOf_last] at halone ⊢
    obtain ⟨x', y', hr', -⟩ := hr.step (run_invariant (fun _ a hi => hi.step a) _ hinv)
      (hc.locks n) halone
    exact ⟨x', y', hr'⟩

/-- The bound for a session that may not be there. -/
def stepsLeft (h : Hosts P) (p : P) : Nat :=
  match h.session p with
  | some x => x.stepsLeft
  | none => 0

/-- A session is out of `acquire_write_ownership`. -/
def Returned (h : Hosts P) (p : P) : Prop :=
  ∃ x result, h.session p = some x ∧ x.phase = .returned result

/-- What a step of the schedule does to one of the two. -/
theorem Contest.goes_on (hinv : h.Inv) (hc : h.Contest p q schedule) (n : Nat) :
    ∃ x x', (run Hosts.step h (firstOf schedule n)).session p = some x ∧
      (run Hosts.step h (firstOf schedule (n + 1))).session p = some x' ∧
      Session.Nearer .interrupted x x' ∧
      ∀ outcome, schedule n = .lock p outcome → Session.Nearer outcome x x' := by
  obtain ⟨x, y, hr⟩ := hc.rivals hinv n
  have halone := hc.alone (n + 1)
  rw [run_firstOf_last] at halone ⊢
  obtain ⟨x', y', hr', hnearer, -, hnearer', -⟩ :=
    hr.step (run_invariant (fun _ a hi => hi.step a) _ hinv) (hc.locks n) halone
  exact ⟨x, x', hr.session, hr'.session, hnearer, hnearer'⟩

/-- **Every acquisition ends.** -/
theorem Contest.returns (hinv : h.Inv) (hc : h.Contest p q schedule) (m : Nat) :
    ∃ n, m ≤ n ∧ (run Hosts.step h (firstOf schedule n)).Returned p := by
  refine comes_to_of_measure (fun n => (run Hosts.step h (firstOf schedule n)).stepsLeft p)
    (fun n => ?_) (fun m => ?_) m
  · obtain ⟨x, x', hx, hx', hnearer, -⟩ := hc.goes_on hinv n
    simp only [stepsLeft, hx, hx']
    exact hnearer.le
  · obtain ⟨n, outcome, hmn, houtcome, hschedule⟩ := hc.fair m
    obtain ⟨x, x', hx, hx', -, hnearer⟩ := hc.goes_on hinv n
    refine ⟨n, hmn, ?_⟩
    by_cases hreturned : ∃ result, x.phase = .returned result
    · obtain ⟨result, hresult⟩ := hreturned
      exact Or.inl ⟨x, result, hx, hresult⟩
    · refine Or.inr ?_
      simp only [stepsLeft, hx, hx']
      exact (hnearer outcome hschedule).lt houtcome fun result hresult =>
        hreturned ⟨result, hresult⟩

theorem Contest.stays_returned (hinv : h.Inv) (hc : h.Contest p q schedule) {m n : Nat}
    (hmn : m ≤ n) (hm : (run Hosts.step h (firstOf schedule m)).Returned p) :
    (run Hosts.step h (firstOf schedule n)).Returned p := by
  induction n, hmn using Nat.le_induction with
  | base => exact hm
  | succ n hmn ih =>
    obtain ⟨x, result, hx, hresult⟩ := ih
    obtain ⟨x₁, x', hx₁, hx', hnearer, -⟩ := hc.goes_on hinv n
    obtain rfl := Option.some.inj (hx.symm.trans hx₁)
    exact ⟨x', result, hx', hnearer.returned result hresult⟩

/-- An acquisition whose system calls meet no error does not end with one. -/
theorem Contest.no_error (hinv : h.Inv) (hc : h.Contest p q schedule)
    (hu : h.Undisturbed p schedule) (n : Nat) :
    ∃ x, (run Hosts.step h (firstOf schedule n)).session p = some x ∧
      x.phase.progress ≠ .ended .error ∧
      ∀ path ∈ x.lockOrder, (lockFile path).length < pathCapacity := by
  induction n with
  | zero =>
    obtain ⟨x, hx, hphase⟩ := hc.begins
    refine ⟨x, hx, ?_, hu.fits x hx⟩
    rw [hphase]
    intro herror
    cases herror
  | succ n ih =>
    obtain ⟨x, hx, hnot, hfits⟩ := ih
    rw [run_firstOf_last]
    by_cases hp : (schedule n).actor = p
    · obtain ⟨outcome, ha⟩ := hc.locks n (Or.inl hp)
      rw [hp] at ha
      obtain ⟨x₁, y₁, hr⟩ := hc.rivals hinv n
      obtain rfl := Option.some.inj (hx.symm.trans hr.session)
      obtain ⟨x', hsession, hadvance, hnearer⟩ :=
        (run_invariant (fun _ a hi => hi.step a) _ hinv).lockStep_advance hx hr.progress outcome
      refine ⟨x', ?_, ?_, hnearer.order ▸ hfits⟩
      · rw [ha]
        simp only [Hosts.step, hx, hsession, put, if_true]
      · cases hadvance with
        | stays hprogress hholds => rwa [hprogress]
        | takes index hx₁ hx' =>
          rw [hx']
          intro herror
          cases herror
        | wins index hx₁ hx' =>
          rw [hx']
          intro herror
          cases herror
        | fails index hx₁ hx' herror =>
          cases herror with
          | tooLong index path hphase hpath hlong =>
            exact absurd (hfits path (List.mem_of_getElem? hpath)) (Nat.not_lt.mpr hlong)
          | opens index hphase hlt houtcome =>
            exact absurd (hu.opens n outcome x index ha hx hphase hlt) houtcome
          | locks index hphase houtcome =>
            exact absurd houtcome (hu.locks n outcome x index ha hx hphase)
        | finds index file r k hx₁ hx' hfile hheld hholds =>
          rw [hx']
          intro herror
          cases herror
    · exact ⟨x, (step_session hp).trans hx, hnot, hfits⟩

theorem Contest.not_error (hinv : h.Inv) (hc : h.Contest p q schedule)
    (hu : h.Undisturbed p schedule) {n : Nat} {result : WriteOwnershipResult}
    (hx : (run Hosts.step h (firstOf schedule n)).session p = some x)
    (hresult : x.phase = .returned result) : result ≠ .error := by
  obtain ⟨x₁, hx₁, hnot, -⟩ := hc.no_error hinv hu n
  obtain rfl := Option.some.inj (hx.symm.trans hx₁)
  rintro rfl
  rw [hresult] at hnot
  exact hnot rfl

/-- **One of them wins**: both come to a result, and unless one had an error, one has acquired. -/
theorem Contest.decided (hinv : h.Inv) (hc : h.Contest p q schedule) :
    ∃ n x y result result', (run Hosts.step h (firstOf schedule n)).session p = some x ∧
      (run Hosts.step h (firstOf schedule n)).session q = some y ∧
      x.phase = .returned result ∧ y.phase = .returned result' ∧
      (result ≠ .error → result' ≠ .error → result = .acquired ∨ result' = .acquired) ∧
      (h.Undisturbed p schedule → h.Undisturbed q schedule →
        result = .acquired ∨ result' = .acquired) := by
  obtain ⟨m, -, hm⟩ := hc.returns hinv 0
  obtain ⟨n, hmn, hn⟩ := hc.symm.returns hinv m
  obtain ⟨x, result, hx, hresult⟩ := hc.stays_returned hinv hmn hm
  obtain ⟨y, result', hy, hresult'⟩ := hn
  suffices hone : result ≠ .error → result' ≠ .error →
      result = .acquired ∨ result' = .acquired from
    ⟨n, x, y, result, result', hx, hy, hresult, hresult', hone, fun hu hu' =>
      hone (hc.not_error hinv hu hx hresult) (hc.symm.not_error hinv hu' hy hresult')⟩
  intro hnot hnot'
  obtain ⟨x₁, y₁, hr⟩ := hc.rivals hinv n
  obtain rfl := Option.some.inj (hx.symm.trans hr.session)
  obtain rfl := Option.some.inj (hy.symm.trans hr.session')
  have hgives := hr.givesWay
  unfold Session.GivesWay at hgives
  rw [hresult, hresult'] at hgives
  simp only [LockPhase.progress, Progress.ended.injEq, reduceCtorEq, false_and, exists_false,
    or_false] at hgives
  cases result with
  | acquired => exact Or.inl rfl
  | busy => exact Or.inr ((hgives rfl).resolve_left hnot')
  | error => exact absurd rfl hnot

end Hosts

/-- Two sessions with the same two cartridges. -/
def contestants : Hosts Bool :=
  run Hosts.step (Hosts.start fun _ => .missing)
    [.begin false sampleSetup clockEngine, .begin true sampleSetup clockEngine]

/-- They take turns. -/
def takingTurns (n : Nat) : HostAction Bool :=
  .lock (decide (n % 2 = 1)) .proceeds

/-- What each of them begins with. -/
theorem contestants_session : ∃ x, (∀ p, contestants.session p = some x) ∧ x.phase = .opening 0 ∧
    ∀ path ∈ x.lockOrder, (lockFile path).length < pathCapacity := by
  have hcomputed : (sampleSetup.paths clockEngine).toOption.map (fun paths =>
      let x := Session.start sampleSetup clockEngine paths
      decide (x.phase = .opening 0 ∧
        ∀ path ∈ x.lockOrder, (lockFile path).length < pathCapacity)) = some true := by
    decide +kernel
  obtain ⟨paths, hpaths, hx⟩ := Option.map_eq_some_iff.mp hcomputed
  refine ⟨Session.start sampleSetup clockEngine paths, fun p => ?_, of_decide_eq_true hx⟩
  cases hok : sampleSetup.paths clockEngine with
  | error error =>
    rw [hok] at hpaths
    cases hpaths
  | ok paths' =>
    rw [hok] at hpaths
    obtain rfl := Option.some.inj hpaths
    cases p <;> simp [contestants, run, Hosts.step, Hosts.start, Hosts.put, hok]

/-- The contest of the two, in which no system call meets an error. -/
theorem contestants_contest (p : Bool) : contestants.Contest p (!p) takingTurns ∧
    contestants.Undisturbed p takingTurns := by
  obtain ⟨x, hx, hphase, hfits⟩ := contestants_session
  have hturn (r : Bool) (m : Nat) :
      ∃ n outcome, m ≤ n ∧ outcome ≠ .interrupted ∧ takingTurns n = .lock r outcome := by
    refine ⟨2 * m + r.toNat, .proceeds, by omega, nofun, ?_⟩
    cases r <;> simp [takingTurns]
  refine ⟨⟨by simp, ⟨x, hx p, hphase⟩, ⟨x, hx !p, hphase⟩, fun n _ => ⟨.proceeds, rfl⟩, ?_,
    hturn p, hturn !p⟩, ⟨?_, ?_, ?_⟩⟩
  · intro n file r k hheld
    cases p <;> cases r <;> simp
  · intro x' hx' path hpath
    obtain rfl := Option.some.inj ((hx p).symm.trans hx')
    exact hfits path hpath
  · rintro n outcome x' index ⟨⟩ hx' hopening hlt
    rfl
  · rintro n outcome x' index ⟨⟩ hx' hlocking
    nofun

/-- **Ownership is exclusive.** Whatever any number of sessions do, in any order: two owners share
no core-managed path; an acquisition has all its locks or none, and then the session does not own
its saves; what does not own its saves writes no file; and of two sessions that compete while
nobody else has a lock and no system call of theirs meets an error, one acquires. -/
theorem ownership_is_exclusive {P : Type} [DecidableEq P] (files : Files Path)
    (actions : List (HostAction P)) :
    let h := run Hosts.step (Hosts.start files) actions
    (∀ p q x y, p ≠ q → h.session p = some x → h.session q = some y → x.Owns → y.Owns →
      ∀ path, x.Manages path → ¬ y.Manages path) ∧
    (∀ p x, h.session p = some x → x.Owns →
      ∀ path, x.Manages path → ∃ k, h.holder (lockFile path) = some (p, k)) ∧
    (∀ p x result, h.session p = some x → x.phase = .returned result → result ≠ .acquired →
      x.writeLockFds = [] ∧ x.writeOwner = false ∧ ∀ file k, h.holder file ≠ some (p, k)) ∧
    (∀ (a : HostAction P) x, h.session a.actor = some x → x.writeOwner = false →
      (h.step a).files = h.files) ∧
    (∀ p q schedule, h.Contest p q schedule →
      ∃ n x y result result', (run Hosts.step h (firstOf schedule n)).session p = some x ∧
        (run Hosts.step h (firstOf schedule n)).session q = some y ∧
        x.phase = .returned result ∧ y.phase = .returned result' ∧
        (result ≠ .error → result' ≠ .error → result = .acquired ∨ result' = .acquired) ∧
        (h.Undisturbed p schedule → h.Undisturbed q schedule →
          result = .acquired ∨ result' = .acquired)) := by
  intro h
  have hinv : h.Inv := run_invariant (fun _ a hi => hi.step a) actions (Hosts.inv_start files)
  refine ⟨?_, ?_, ?_, ?_, ?_⟩
  · intro p q x y hpq hx hy hown hown'
    exact hinv.owners_disjoint hpq hx hy hown hown'
  · intro p x hx hown path
    exact hinv.owner_holds hx hown
  · intro p x result hx
    exact hinv.refused hx
  · intro a x hx
    exact hinv.reader_writes_nothing hx
  · intro p q schedule hc
    exact hc.decided hinv

/-- One of the two acquires its locks. -/
theorem ownership_is_exclusive_contestants :
    ∃ n x y result result',
      (run Hosts.step contestants (firstOf takingTurns n)).session false = some x ∧
      (run Hosts.step contestants (firstOf takingTurns n)).session true = some y ∧
      x.phase = .returned result ∧ y.phase = .returned result' ∧
      (result = .acquired ∨ result' = .acquired) := by
  obtain ⟨hc, hu⟩ := contestants_contest false
  obtain ⟨-, hu'⟩ := contestants_contest true
  obtain ⟨-, -, -, -, hdecided⟩ := ownership_is_exclusive (fun _ => .missing)
    [.begin false sampleSetup clockEngine, .begin true sampleSetup clockEngine]
  obtain ⟨n, x, y, result, result', hx, hy, hresult, hresult', -, hone⟩ :=
    hdecided false true takingTurns hc
  exact ⟨n, x, y, result, result', hx, hy, hresult, hresult', hone hu hu'⟩

end DualBoy.Saves
