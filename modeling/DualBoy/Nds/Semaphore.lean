import DualBoy.Lib.Census
import DualBoy.Lib.Run
import Mathlib.Data.List.FinRange
import Mathlib.Data.Prod.Lex

/-!
# The semaphores of the NDS platform

`Semaphore_Reset`, `Semaphore_Wait`, `Semaphore_TryWait` and `Semaphore_Post` of `nds_platform.cpp`,
called by any number of threads, by their critical sections. A sleeper may wake for nothing or, with a
timeout, because its time is over; a post notifies the sleepers after it has unlocked the mutex.

* `Lawful`: a log in which every wait ends as the permits of the moment let it.
* `State.Inv`: the count is what the log makes of the permits, and a permit that a sleeper could have
  is on its way to one.
* **`permits_kept`**: no wait is let through without a permit, and no wakeup is lost.
* **`sleepers_served`**: nobody sleeps beside a permit for ever.
-/

namespace DualBoy.Nds.Semaphore

open DualBoy.Lib

/-! ## The source -/

/-- `std::numeric_limits<std::uint64_t>::max()` -/
def maxCount : Nat := 2 ^ 64 - 1

/-- Where a thread is in the calls of a semaphore. -/
inductive Point where
  | away
  /-- in `changed.wait`, or in `changed.wait_for` -/
  | asleep (timed : Bool)
  /-- out of it, and about to lock the mutex -/
  | woken (timed : Bool)
  | expired
  /-- unlocked in `Semaphore_Post`, before `notify_one` or `notify_all` -/
  | notifying (all : Bool)
  deriving DecidableEq, Repr

/-- What a call does to the permits, in its critical section. -/
inductive Event (n : Nat) where
  | post (t : Fin n) (amount : Nat)
  /-- a wait is over, with a permit -/
  | take (t : Fin n)
  /-- a wait with a timeout is over, without -/
  | refuse (t : Fin n)
  | reset (t : Fin n)
  deriving DecidableEq, Repr

/-- `Semaphore`, with the threads that call it. Nothing reads the log. -/
structure State (n : Nat) where
  count : Nat
  points : Fin n → Point
  log : List (Event n)

inductive Call where
  | reset
  | wait
  | tryWait (timeoutMs : Int)
  | post (count : Int)
  deriving DecidableEq, Repr

inductive Action (n : Nat) where
  | call (t : Fin n) (c : Call)
  /-- A thread goes on. `notify_one` wakes the sleeper of this number, of those there are. -/
  | goOn (t : Fin n) (pick : Nat)
  | wake (t : Fin n)
  | expire (t : Fin n)

/-- `Semaphore_Create` -/
def create (n : Nat) : State n where
  count := 0
  points _ := .away
  log := []

def Point.isAsleep : Point → Bool
  | .asleep _ => true
  | _ => false

/-- A notification, for a thread. -/
def Point.notified : Point → Point
  | .asleep timed => .woken timed
  | p => p

namespace State

variable {n : Nat}

def moved (s : State n) (t : Fin n) (p : Point) : State n :=
  { s with points := Function.update s.points t p }

/-- `--sema->count`, and the end of the wait. -/
def take (s : State n) (t : Fin n) : State n :=
  { s.moved t .away with count := s.count - 1, log := s.log ++ [.take t] }

def refuse (s : State n) (t : Fin n) : State n :=
  { s.moved t .away with log := s.log ++ [.refuse t] }

/-- The predicate of a wait, with the mutex locked: what happens if there is no permit. -/
def look (s : State n) (t : Fin n) (otherwise : State n) : State n :=
  if s.count ≠ 0 then s.take t else otherwise

/-- `Semaphore_Post` up to its notification, for a positive count. -/
def post (s : State n) (t : Fin n) (count : Int) : State n :=
  let amount := count.toNat
  { s.moved t (.notifying (count ≠ 1)) with
    count := if maxCount - s.count < amount then maxCount else s.count + amount
    log := s.log ++ [.post t amount] }

/-- The threads that sleep. -/
def sleepers (s : State n) : List (Fin n) :=
  (List.finRange n).filter fun t => (s.points t).isAsleep

/-- `notify_one` -/
def notifyOne (s : State n) (pick : Nat) : State n :=
  match s.sleepers[pick % s.sleepers.length]? with
  | some t => s.moved t (s.points t).notified
  | none => s

/-- `notify_all` -/
def notifyAll (s : State n) : State n :=
  { s with points := fun t => (s.points t).notified }

def call (s : State n) (t : Fin n) : Call → State n
  | .reset => { s with count := 0, log := s.log ++ [.reset t] }
  | .wait => s.look t (s.moved t (.asleep false))
  | .tryWait timeoutMs =>
    s.look t (if timeoutMs ≤ 0 then s.refuse t else s.moved t (.asleep true))
  | .post count => if count ≤ 0 then s else s.post t count

/-- A thread goes on, if it can. -/
def goOn (s : State n) (t : Fin n) (pick : Nat) : State n :=
  match s.points t with
  | .woken timed => s.look t (s.moved t (.asleep timed))
  | .expired => s.look t (s.refuse t)
  | .notifying false => (s.moved t .away).notifyOne pick
  | .notifying true => (s.moved t .away).notifyAll
  | .away | .asleep _ => s

/-- One step; what no thread has come to does nothing. -/
def step (s : State n) : Action n → State n
  | .call t c => if s.points t = .away then s.call t c else s
  | .goOn t pick => s.goOn t pick
  | .wake t => s.moved t (s.points t).notified
  | .expire t =>
    if s.points t = .asleep true ∨ s.points t = .woken true then s.moved t .expired else s

end State

/-! ## Permits -/

/-- The permits after an event. -/
def permitsAfter {n : Nat} (permits : Nat) : Event n → Nat
  | .post _ amount => min (permits + amount) maxCount
  | .take _ => permits - 1
  | .refuse _ => permits
  | .reset _ => 0

/-- The permits behind a log. -/
def permits {n : Nat} (log : List (Event n)) : Nat := log.foldl permitsAfter 0

/-- Whether a wait may end so: with a permit that is there, or without one when there is none. -/
def Allowed {n : Nat} (permits : Nat) : Event n → Prop
  | .take _ => 0 < permits
  | .refuse _ => permits = 0
  | .post _ _ | .reset _ => True

/-- A log in which every wait ends as it may. -/
inductive Lawful {n : Nat} : List (Event n) → Prop
  | nil : Lawful []
  | snoc {log : List (Event n)} {e : Event n} (h : Lawful log) (allowed : Allowed (permits log) e) :
      Lawful (log ++ [e])

theorem permits_snoc {n : Nat} (log : List (Event n)) (e : Event n) :
    permits (log ++ [e]) = permitsAfter (permits log) e := by
  unfold permits
  rw [List.foldl_append, List.foldl_cons, List.foldl_nil]

/-! ## Wakeups -/

/-- A thread that is about to look at the permits again. -/
def Point.isAwake : Point → Bool
  | .woken _ | .expired => true
  | _ => false

def Point.notifiesOne : Point → Bool
  | .notifying all => !all
  | _ => false

def Point.notifiesAll : Point → Bool
  | .notifying all => all
  | _ => false

namespace State

variable {n : Nat} (s : State n)

/-- How many threads sleep, are about to look, and are about to notify one or all. -/
def asleep : Nat := census Point.isAsleep s.points

def awake : Nat := census Point.isAwake s.points

def notifyingOne : Nat := census Point.notifiesOne s.points

def notifyingAll : Nat := census Point.notifiesAll s.points

/-- A permit that a sleeper could have is on its way to one. -/
def Awaited : Prop := 0 < s.asleep → 0 < s.notifyingAll ∨ s.count ≤ s.awake + s.notifyingOne

/-- What holds in every state. -/
structure Inv : Prop where
  permits : s.count = permits s.log
  bounded : s.count ≤ maxCount
  lawful : Lawful s.log
  awaited : s.Awaited

end State

section

variable {n : Nat} {s : State n} {t : Fin n}

/-- What a move of one thread makes of the counts. -/
structure State.Counted (s t' : State n) (old new : Point) : Prop where
  asleep : t'.asleep + old.isAsleep.toNat = s.asleep + new.isAsleep.toNat
  awake : t'.awake + old.isAwake.toNat = s.awake + new.isAwake.toNat
  notifyingOne : t'.notifyingOne + old.notifiesOne.toNat = s.notifyingOne + new.notifiesOne.toNat
  notifyingAll : t'.notifyingAll + old.notifiesAll.toNat = s.notifyingAll + new.notifiesAll.toNat

theorem State.counted {r : State n} {p : Point} (h : r.points = Function.update s.points t p) :
    s.Counted r (s.points t) p := by
  constructor
  · simpa only [State.asleep, h] using census_update Point.isAsleep s.points t p
  · simpa only [State.awake, h] using census_update Point.isAwake s.points t p
  · simpa only [State.notifyingOne, h] using census_update Point.notifiesOne s.points t p
  · simpa only [State.notifyingAll, h] using census_update Point.notifiesAll s.points t p

/-- A thread at no point of sleep and with no notification to make. -/
def Point.Free (p : Point) : Prop := p.isAsleep = false ∧ p.notifiesOne = false ∧ p.notifiesAll = false

/-- **A permit is taken** by a thread that has seen it. -/
theorem State.Inv.take (h : s.Inv) (hcount : s.count ≠ 0) (hfree : (s.points t).Free) :
    (s.take t).Inv := by
  have hpermits : (s.take t).count = DualBoy.Nds.Semaphore.permits (s.take t).log := by
    change s.count - 1 = DualBoy.Nds.Semaphore.permits (s.log ++ [.take t])
    rw [permits_snoc, ← h.permits]
    rfl
  refine ⟨hpermits, Nat.le_trans (Nat.sub_le s.count 1) h.bounded, h.lawful.snoc ?_, fun hasleep => ?_⟩
  · rw [← h.permits]
    exact Nat.pos_of_ne_zero hcount
  · obtain ⟨hsleeps, hawake, hone, hall⟩ := s.counted (r := s.take t) rfl
    obtain ⟨hfree, hfreeOne, hfreeAll⟩ := hfree
    rw [hfree] at hsleeps
    rw [hfreeOne] at hone
    rw [hfreeAll] at hall
    change _ + 0 = s.asleep + 0 at hsleeps
    change _ = s.awake + 0 at hawake
    change _ + 0 = s.notifyingOne + 0 at hone
    change _ + 0 = s.notifyingAll + 0 at hall
    have hwoken := (s.points t).isAwake.toNat_le
    have hbefore := h.awaited (by omega)
    have hless : (s.take t).count = s.count - 1 := rfl
    omega

/-- A thread that has seen no permit may do what it likes. -/
theorem State.Inv.empty (h : s.Inv) (hcount : s.count = 0) (p : Point) : (s.moved t p).Inv := by
  refine ⟨h.permits, h.bounded, h.lawful, fun _ => Or.inr ?_⟩
  have hsame : (s.moved t p).count = s.count := rfl
  omega

theorem State.Inv.refuse (h : s.Inv) (hcount : s.count = 0) : (s.refuse t).Inv := by
  have hpermits : (s.refuse t).count = DualBoy.Nds.Semaphore.permits (s.refuse t).log := by
    change s.count = DualBoy.Nds.Semaphore.permits (s.log ++ [.refuse t])
    rw [permits_snoc, ← h.permits]
    rfl
  refine ⟨hpermits, h.bounded, h.lawful.snoc ?_, fun _ => Or.inr ?_⟩
  · rw [← h.permits]
    exact hcount
  · have hsame : (s.refuse t).count = s.count := rfl
    omega

/-- **A look at the permits**: whoever sees one takes it. -/
theorem State.Inv.look (h : s.Inv) (hfree : (s.points t).Free) {otherwise : State n}
    (ho : s.count = 0 → otherwise.Inv) : (s.look t otherwise).Inv := by
  unfold State.look
  split
  · rename_i hcount
    exact h.take hcount hfree
  · rename_i hcount
    exact ho (not_not.mp hcount)

theorem State.Inv.reset (h : s.Inv) : (s.call t .reset).Inv := by
  refine ⟨?_, Nat.zero_le _, h.lawful.snoc trivial, fun _ => Or.inr (Nat.zero_le _)⟩
  change 0 = DualBoy.Nds.Semaphore.permits (s.log ++ [.reset t])
  rw [permits_snoc]
  rfl

/-- **A post** has a notification on its way before it has a permit that it does not. -/
theorem State.Inv.post (h : s.Inv) (hpoint : s.points t = .away) {count : Int} (hcount : 0 < count) :
    (s.post t count).Inv := by
  have hbounded := h.bounded
  have hnew : (s.post t count).count = min (s.count + count.toNat) maxCount := by
    change (if maxCount - s.count < count.toNat then maxCount else s.count + count.toNat) = _
    split <;> omega
  have hpermits : (s.post t count).count = DualBoy.Nds.Semaphore.permits (s.post t count).log := by
    rw [hnew]
    change _ = DualBoy.Nds.Semaphore.permits (s.log ++ [.post t count.toNat])
    rw [permits_snoc, ← h.permits]
    rfl
  refine ⟨hpermits, ?_, h.lawful.snoc trivial, fun hasleep => ?_⟩
  · rw [hnew]
    exact Nat.min_le_right _ _
  · obtain ⟨hsleeps, hawake, hone, hall⟩ := s.counted (r := s.post t count) rfl
    rw [hpoint] at hsleeps hawake hone hall
    simp only [Point.isAsleep, Point.isAwake, Point.notifiesOne, Point.notifiesAll,
      Bool.toNat_false] at hsleeps hawake hone hall
    have hbefore := h.awaited (by omega)
    by_cases hsingle : count = 1
    · subst hsingle
      simp only [decide_not, decide_true, Bool.not_true, Bool.not_false, Bool.toNat_true,
        Bool.toNat_false] at hone hall
      have hone' : (1 : Int).toNat = 1 := rfl
      omega
    · simp only [decide_not, hsingle, decide_false, Bool.not_true, Bool.not_false, Bool.toNat_true,
        Bool.toNat_false] at hone hall
      omega

/-- A sleeper that wakes will look at the permits again. -/
theorem State.Inv.wakes (h : s.Inv) {timed : Bool} (hpoint : s.points t = .asleep timed) {p : Point}
    (hp : p.isAwake = true) : (s.moved t p).Inv := by
  refine ⟨h.permits, h.bounded, h.lawful, fun hasleep => ?_⟩
  have hcounted := s.counted (r := s.moved t p) rfl
  rw [hpoint] at hcounted
  have hsame : (s.moved t p).count = s.count := rfl
  have hp' : p.isAsleep = false ∧ p.notifiesOne = false ∧ p.notifiesAll = false := by
    cases p with
    | woken | expired => exact ⟨rfl, rfl, rfl⟩
    | away | asleep | notifying => cases hp
  obtain ⟨hsleeps, hawake, hone, hall⟩ := hcounted
  rw [hp'.1] at hsleeps
  rw [hp] at hawake
  rw [hp'.2.1] at hone
  rw [hp'.2.2] at hall
  change _ + 1 = s.asleep + 0 at hsleeps
  change _ + 0 = s.awake + 1 at hawake
  change _ + 0 = s.notifyingOne + 0 at hone
  change _ + 0 = s.notifyingAll + 0 at hall
  have hbefore := h.awaited (by omega)
  omega

/-- The time of a thread that has been notified is over. -/
theorem State.Inv.expires (h : s.Inv) (hpoint : s.points t = .woken true) :
    (s.moved t .expired).Inv := by
  refine ⟨h.permits, h.bounded, h.lawful, fun hasleep => ?_⟩
  have hcounted := s.counted (r := s.moved t .expired) rfl
  rw [hpoint] at hcounted
  obtain ⟨hsleeps, hawake, hone, hall⟩ := hcounted
  change _ + 0 = s.asleep + 0 at hsleeps
  change _ + 1 = s.awake + 1 at hawake
  change _ + 0 = s.notifyingOne + 0 at hone
  change _ + 0 = s.notifyingAll + 0 at hall
  have hsame : (s.moved t .expired).count = s.count := rfl
  have hbefore := h.awaited (by omega)
  omega

theorem State.Inv.wake (h : s.Inv) : (s.moved t (s.points t).notified).Inv := by
  cases hpoint : s.points t with
  | asleep timed => exact h.wakes hpoint rfl
  | away | woken | expired | notifying =>
    have hsame : s.moved t (s.points t) = s := by
      unfold State.moved
      rw [Function.update_eq_self]
    rw [hpoint] at hsame
    rw [Point.notified, hsame]
    · exact h
    all_goals simp

/-- A sleeper that `notify_one` picks sleeps, and it picks one if there is one. -/
theorem State.sleepers_pick (s : State n) (pick : Nat) :
    (∃ u timed, s.sleepers[pick % s.sleepers.length]? = some u ∧ s.points u = .asleep timed) ∨
      s.sleepers[pick % s.sleepers.length]? = none ∧ s.asleep = 0 := by
  cases hpick : s.sleepers[pick % s.sleepers.length]? with
  | some u =>
    have hasleep := (List.mem_filter.mp (List.mem_of_getElem? hpick)).2
    cases hpoint : s.points u with
    | asleep timed => exact Or.inl ⟨u, timed, rfl, hpoint⟩
    | away | woken | expired | notifying =>
      rw [hpoint] at hasleep
      cases hasleep
  | none =>
    refine Or.inr ⟨rfl, Nat.eq_zero_of_not_pos fun hpos => ?_⟩
    obtain ⟨u, hu⟩ := census_pos.mp hpos
    have hmem : u ∈ s.sleepers := List.mem_filter.mpr ⟨List.mem_finRange u, hu⟩
    have hlength : 0 < s.sleepers.length := List.length_pos_of_mem hmem
    have hge := List.getElem?_eq_none_iff.mp hpick
    have hlt := Nat.mod_lt pick hlength
    omega

/-- **`notify_one`** is made up for by a sleeper that wakes. -/
theorem State.Inv.notifyOne (h : s.Inv) (hpoint : s.points t = .notifying false) (pick : Nat) :
    ((s.moved t .away).notifyOne pick).Inv := by
  have hcounted := s.counted (r := s.moved t .away) rfl
  rw [hpoint] at hcounted
  obtain ⟨hsleeps, hawake, hone, hall⟩ := hcounted
  change _ + 0 = s.asleep + 0 at hsleeps
  change _ + 0 = s.awake + 0 at hawake
  change _ + 1 = s.notifyingOne + 0 at hone
  change _ + 0 = s.notifyingAll + 0 at hall
  unfold State.notifyOne
  rcases (s.moved t .away).sleepers_pick pick with ⟨u, timed, hpick, hu⟩ | ⟨hpick, hnone⟩
  · rw [hpick]
    dsimp only
    rw [hu]
    refine ⟨h.permits, h.bounded, h.lawful, fun hasleep => ?_⟩
    have hwakes := State.counted (s := s.moved t .away)
      (r := (s.moved t .away).moved u (Point.notified (.asleep timed))) (t := u) rfl
    rw [hu] at hwakes
    obtain ⟨hsleeps', hawake', hone', hall'⟩ := hwakes
    change _ + 1 = (s.moved t .away).asleep + 0 at hsleeps'
    change _ + 0 = (s.moved t .away).awake + 1 at hawake'
    change _ + 0 = (s.moved t .away).notifyingOne + 0 at hone'
    change _ + 0 = (s.moved t .away).notifyingAll + 0 at hall'
    have hsame : ((s.moved t .away).moved u (Point.notified (.asleep timed))).count = s.count := rfl
    have hbefore := h.awaited (by omega)
    omega
  · rw [hpick]
    dsimp only
    exact ⟨h.permits, h.bounded, h.lawful, fun hasleep => absurd hasleep (by omega)⟩

/-- **`notify_all`** leaves nobody asleep. -/
theorem State.notifyAll_asleep (s : State n) : s.notifyAll.asleep = 0 := by
  refine Nat.eq_zero_of_not_pos fun hpos => ?_
  obtain ⟨u, hu⟩ := census_pos.mp hpos
  change (s.points u).notified.isAsleep = true at hu
  cases hpoint : s.points u <;> rw [hpoint] at hu <;> cases hu

theorem State.Inv.notifyAll (h : s.Inv) (t : Fin n) : (s.moved t .away).notifyAll.Inv := by
  refine ⟨h.permits, h.bounded, h.lawful, fun hasleep => ?_⟩
  rw [State.notifyAll_asleep] at hasleep
  cases hasleep

/-! ## Runs -/

theorem State.Inv.goOn (h : s.Inv) (t : Fin n) (pick : Nat) : (s.goOn t pick).Inv := by
  unfold State.goOn
  cases hpoint : s.points t with
  | away | asleep => exact h
  | woken timed =>
    exact h.look (by rw [hpoint]; exact ⟨rfl, rfl, rfl⟩) fun hcount => h.empty hcount _
  | expired => exact h.look (by rw [hpoint]; exact ⟨rfl, rfl, rfl⟩) h.refuse
  | notifying all =>
    cases all with
    | false => exact h.notifyOne hpoint pick
    | true => exact h.notifyAll t

theorem State.Inv.call (h : s.Inv) (hpoint : s.points t = .away) (c : Call) : (s.call t c).Inv := by
  have hfree : (s.points t).Free := by
    rw [hpoint]
    exact ⟨rfl, rfl, rfl⟩
  cases c with
  | reset => exact h.reset
  | wait => exact h.look hfree fun hcount => h.empty hcount _
  | tryWait timeoutMs =>
    refine h.look hfree fun hcount => ?_
    split
    · exact h.refuse hcount
    · exact h.empty hcount _
  | post count =>
    change (if count ≤ 0 then s else s.post t count).Inv
    split
    · exact h
    · exact h.post hpoint (by omega)

/-- **One step** loses no wakeup. -/
theorem State.Inv.step (h : s.Inv) (a : Action n) : (s.step a).Inv := by
  cases a with
  | call t c =>
    change (if s.points t = .away then s.call t c else s).Inv
    split
    · rename_i hpoint
      exact h.call hpoint c
    · exact h
  | goOn t pick => exact h.goOn t pick
  | wake t => exact h.wake
  | expire t =>
    change (if s.points t = .asleep true ∨ s.points t = .woken true then s.moved t .expired else s).Inv
    split
    · rename_i hpoint
      rcases hpoint with hpoint | hpoint
      · exact h.wakes hpoint rfl
      · exact h.expires hpoint
    · exact h

theorem inv_create (n : Nat) : (create n).Inv := by
  refine ⟨rfl, Nat.zero_le _, .nil, fun _ => Or.inr (Nat.zero_le _)⟩

theorem inv_run (as : List (Action n)) : (run State.step (create n) as).Inv :=
  run_invariant (fun _ a h => h.step a) as (inv_create n)

/-- The waits that ended with a permit, and the permits that were posted. -/
def taken (log : List (Event n)) : Nat :=
  log.countP fun
    | .take _ => true
    | _ => false

def posted (log : List (Event n)) : Nat :=
  (log.map fun
    | .post _ amount => amount
    | _ => 0).sum

theorem Lawful.taken_le {log : List (Event n)} (h : Lawful log) : taken log + permits log ≤ posted log := by
  induction h with
  | nil => exact Nat.le_refl 0
  | @snoc log e _ allowed ih =>
    rw [permits_snoc]
    unfold taken posted at *
    rw [List.countP_append, List.map_append, List.sum_append]
    cases e with
    | post t amount =>
      simp only [permitsAfter, List.countP_singleton, List.map_singleton, List.sum_singleton]
      simp only [Bool.false_eq_true, if_false]
      omega
    | take t =>
      change 0 < permits log at allowed
      simp only [permitsAfter, List.countP_singleton, List.map_singleton, List.sum_singleton]
      simp only [if_true]
      omega
    | refuse t | reset t =>
      simp only [permitsAfter, List.countP_singleton, List.map_singleton, List.sum_singleton]
      simp only [Bool.false_eq_true, if_false]
      omega

/-- **No permit is given twice and no wakeup is lost**, in every run. -/
theorem permits_kept (as : List (Action n)) :
    let s := run State.step (create n) as
    Lawful s.log ∧ s.count = permits s.log ∧ s.count ≤ maxCount ∧ taken s.log + s.count ≤ posted s.log ∧
      (0 < s.asleep → 0 < s.notifyingAll ∨ s.count ≤ s.awake + s.notifyingOne) := by
  intro s
  have h : s.Inv := inv_run as
  refine ⟨h.lawful, h.permits, h.bounded, ?_, h.awaited⟩
  rw [h.permits]
  exact h.lawful.taken_le

/-! ## Nobody sleeps beside a permit for ever -/

def Point.notifies : Point → Bool
  | .notifying _ => true
  | _ => false

def State.notifying (s : State n) : Nat := census Point.notifies s.points

/-- What there is to go until nobody sleeps beside a permit: the sleepers first, and then, when nobody
is about to notify them, the permits. -/
def State.left (s : State n) : Nat ×ₗ Nat :=
  toLex (s.asleep, if 0 < s.notifying then 0 else s.count + 1)

/-- The threads that bring this on: who is about to notify, or else who is about to look. -/
def State.Owes (s : State n) (t : Fin n) : Prop :=
  if 0 < s.notifying then (s.points t).notifies = true else (s.points t).isAwake = true

/-- A thread goes on. -/
def State.turn (t : Fin n) : Action n → Prop
  | .goOn u _ => u = t
  | _ => False

theorem State.left_of_asleep {s' : State n} (h : s'.asleep < s.asleep) : s'.left < s.left :=
  Prod.Lex.toLex_lt_toLex.mpr (Or.inl h)

theorem State.left_of_count {s' : State n} (hasleep : s'.asleep = s.asleep) (hnone : s.notifying = 0)
    (h : 0 < s'.notifying ∨ s'.count < s.count) : s'.left < s.left := by
  refine Prod.Lex.toLex_lt_toLex.mpr (Or.inr ⟨hasleep, ?_⟩)
  change (if 0 < s'.notifying then 0 else s'.count + 1) < if 0 < s.notifying then 0 else s.count + 1
  rw [hnone]
  split
  · exact Nat.succ_pos _
  · change s'.count + 1 < s.count + 1
    omega

/-- A sleeper beside a permit has someone who brings it on. -/
theorem State.Inv.owes (h : s.Inv) (hasleep : 0 < s.asleep) (hcount : 0 < s.count) :
    ∃ t, s.Owes t := by
  unfold State.Owes
  by_cases hnotifying : 0 < s.notifying
  · obtain ⟨t, ht⟩ := census_pos.mp hnotifying
    exact ⟨t, (if_pos hnotifying).mpr ht⟩
  · have hnone {p : Point → Bool} (hp : ∀ q, p q = true → q.notifies = true) :
        census p s.points = 0 := by
      refine Nat.eq_zero_of_not_pos fun hpos => hnotifying ?_
      obtain ⟨t, ht⟩ := census_pos.mp hpos
      exact census_pos.mpr ⟨t, hp _ ht⟩
    have hone : s.notifyingOne = 0 := hnone fun q hq => by cases q <;> first | rfl | cases hq
    have hall : s.notifyingAll = 0 := hnone fun q hq => by cases q <;> first | rfl | cases hq
    have hawake : 0 < s.awake := by
      have hbefore := h.awaited hasleep
      omega
    obtain ⟨t, ht⟩ := census_pos.mp hawake
    exact ⟨t, (if_neg hnotifying).mpr ht⟩

/-- An action that lowers what there is to go, or leaves it and does not take the turn of `t`. -/
def State.Advances (s : State n) (t : Fin n) (a : Action n) (s' : State n) : Prop :=
  s'.left < s.left ∨ s'.left = s.left ∧ s'.Owes t ∧ ¬ State.turn t a

/-- A point of neither sleep nor notification. -/
def Point.Quiet (p : Point) : Prop := p.isAsleep = false ∧ p.notifies = false

/-- What a move between such points leaves as it is. -/
theorem State.quiet_move {r : State n} {u : Fin n} {p : Point}
    (h : r.points = Function.update s.points u p) (hold : (s.points u).Quiet) (hnew : p.Quiet) :
    r.asleep = s.asleep ∧ r.notifying = s.notifying := by
  have hasleep := census_update Point.isAsleep s.points u p
  have hnotifying := census_update Point.notifies s.points u p
  rw [hold.1, hnew.1, ← h] at hasleep
  rw [hold.2, hnew.2, ← h] at hnotifying
  exact ⟨hasleep, hnotifying⟩

theorem State.left_eq {s' : State n} (hasleep : s'.asleep = s.asleep)
    (hnotifying : s'.notifying = s.notifying) (hcount : s'.count = s.count ∨ 0 < s.notifying) :
    s'.left = s.left := by
  unfold State.left
  rw [hasleep, hnotifying]
  rcases hcount with hcount | hpos
  · rw [hcount]
  · rw [if_pos hpos, if_pos hpos]

/-- A thread that owes a notification is not the one that moves between such points. -/
theorem State.Owes.of_quiet {s' : State n} {u : Fin n} {p : Point} (howes : s.Owes t)
    (hnotifying : 0 < s.notifying) (h : s'.points = Function.update s.points u p)
    (hold : (s.points u).notifies = false) (hsame : 0 < s'.notifying) : s'.Owes t ∧ u ≠ t := by
  have ht : (s.points t).notifies = true := (if_pos hnotifying).mp howes
  have hne : u ≠ t := by
    rintro rfl
    cases hold.symm.trans ht
  refine ⟨(if_pos hsame).mpr ?_, hne⟩
  rw [h, Function.update_of_ne hne.symm]
  exact ht

/-- Fewer permits, and nobody else asleep or about to notify. -/
theorem State.Advances.of_fewer {s' : State n} {u : Fin n} {p : Point} {a : Action n}
    (howes : s.Owes t) (h : s'.points = Function.update s.points u p) (hold : (s.points u).Quiet)
    (hnew : p.Quiet) (hcount : s'.count < s.count) (hturn : u ≠ t → ¬ State.turn t a) :
    s.Advances t a s' := by
  obtain ⟨hasleep, hsame⟩ := State.quiet_move h hold hnew
  by_cases hnotifying : 0 < s.notifying
  · obtain ⟨howes', hne⟩ := howes.of_quiet hnotifying h hold.2 (by omega)
    exact Or.inr ⟨State.left_eq hasleep hsame (Or.inr hnotifying), howes', hturn hne⟩
  · exact Or.inl (State.left_of_count hasleep (by omega) (Or.inr hcount))

theorem State.Advances.of_same {a : Action n} (howes : s.Owes t) (hturn : ¬ State.turn t a) :
    s.Advances t a s :=
  Or.inr ⟨rfl, howes, hturn⟩

/-- A post either begins the notifications or changes nothing about them. -/
theorem State.Advances.post {u : Fin n} {count : Int} {a : Action n} (howes : s.Owes t)
    (hpoint : s.points u = .away) (hturn : ¬ State.turn t a) : s.Advances t a (s.post u count) := by
  have hpoints : (s.post u count).points = Function.update s.points u (.notifying (count ≠ 1)) := rfl
  have hasleep := census_update Point.isAsleep s.points u (.notifying (count ≠ 1))
  have hmore := census_update Point.notifies s.points u (.notifying (count ≠ 1))
  rw [hpoint, ← hpoints] at hasleep hmore
  change (s.post u count).asleep + 0 = s.asleep + 0 at hasleep
  change (s.post u count).notifying + 0 = s.notifying + 1 at hmore
  by_cases hnotifying : 0 < s.notifying
  · obtain ⟨howes', -⟩ := howes.of_quiet hnotifying hpoints (by rw [hpoint]; rfl) (by omega)
    refine Or.inr ⟨?_, howes', hturn⟩
    unfold State.left
    rw [if_pos hnotifying, if_pos (by omega : 0 < (s.post u count).notifying)]
    exact congrArg (fun k => toLex (k, 0)) hasleep
  · exact Or.inl (State.left_of_count hasleep (by omega) (Or.inl (by omega)))

/-- Who owes something can go on. -/
theorem State.Owes.point (h : s.Owes t) : (s.points t).notifies = true ∨ (s.points t).isAwake = true := by
  unfold State.Owes at h
  split at h
  · exact Or.inl h
  · exact Or.inr h

theorem State.look_of_permit {otherwise : State n} (hcount : 0 < s.count) :
    s.look t otherwise = s.take t :=
  if_pos (Nat.ne_of_gt hcount)

/-- A thread that stops sleeping. -/
theorem State.asleep_lt {p : Point} (hpoint : (s.points t).isAsleep = true) (hp : p.isAsleep = false) :
    (s.moved t p).asleep < s.asleep := by
  have hcounted := census_update Point.isAsleep s.points t p
  rw [hpoint, hp] at hcounted
  change (s.moved t p).asleep + 1 = s.asleep + 0 at hcounted
  omega

theorem State.advances_call (howes : s.Owes t) (hcount : 0 < s.count) (u : Fin n) (c : Call) :
    s.Advances t (.call u c) (s.step (.call u c)) := by
  change s.Advances t (.call u c) (if s.points u = .away then s.call u c else s)
  split
  · rename_i hpoint
    have hquiet : (s.points u).Quiet := by
      rw [hpoint]
      exact ⟨rfl, rfl⟩
    have htakes : s.Advances t (.call u c) (s.take u) :=
      .of_fewer howes rfl hquiet ⟨rfl, rfl⟩ (Nat.sub_lt hcount Nat.one_pos) fun _ => id
    cases c with
    | reset =>
      exact .of_fewer howes (Function.update_eq_self u s.points).symm hquiet hquiet hcount fun _ => id
    | wait =>
      change s.Advances t (.call u .wait) (s.look u _)
      rw [State.look_of_permit hcount]
      exact htakes
    | tryWait timeoutMs =>
      change s.Advances t (.call u (.tryWait timeoutMs)) (s.look u _)
      rw [State.look_of_permit hcount]
      exact htakes
    | post count =>
      change s.Advances t (.call u (.post count)) (if count ≤ 0 then s else s.post u count)
      split
      · exact .of_same howes id
      · exact .post howes hpoint id
  · exact .of_same howes id

theorem State.advances_goOn (howes : s.Owes t) (hcount : 0 < s.count) (hasleep : 0 < s.asleep)
    (u : Fin n) (pick : Nat) : s.Advances t (.goOn u pick) (s.goOn u pick) := by
  have hstill (hpoint : (s.points u).notifies = false ∧ (s.points u).isAwake = false) :
      s.Advances t (.goOn u pick) s := by
    refine .of_same howes fun hturn => ?_
    obtain rfl : u = t := hturn
    rcases howes.point with h | h
    · cases hpoint.1.symm.trans h
    · cases hpoint.2.symm.trans h
  have htakes (hquiet : (s.points u).Quiet) : s.Advances t (.goOn u pick) (s.take u) :=
    .of_fewer howes rfl hquiet ⟨rfl, rfl⟩ (Nat.sub_lt hcount Nat.one_pos) id
  unfold State.goOn
  cases hpoint : s.points u with
  | away | asleep => exact hstill (by rw [hpoint]; exact ⟨rfl, rfl⟩)
  | woken | expired =>
    dsimp only
    rw [State.look_of_permit hcount]
    exact htakes (by rw [hpoint]; exact ⟨rfl, rfl⟩)
  | notifying all =>
    have hleaves := census_update Point.isAsleep s.points u .away
    rw [hpoint] at hleaves
    change (s.moved u .away).asleep + 0 = s.asleep + 0 at hleaves
    cases all with
    | true =>
      refine Or.inl (State.left_of_asleep ?_)
      rw [State.notifyAll_asleep]
      exact hasleep
    | false =>
      refine Or.inl (State.left_of_asleep ?_)
      dsimp only
      unfold State.notifyOne
      rcases (s.moved u .away).sleepers_pick pick with ⟨v, timed, hpick, hv⟩ | ⟨-, hnone⟩
      · rw [hpick]
        dsimp only
        have hless := State.asleep_lt (s := s.moved u .away) (t := v)
          (p := ((s.moved u .away).points v).notified) (by rw [hv]; rfl) (by rw [hv]; rfl)
        omega
      · omega

/-- Whatever happens next brings a sleeper beside a permit closer to its end. -/
theorem State.advances (howes : s.Owes t) (hcount : 0 < s.count) (hasleep : 0 < s.asleep)
    (a : Action n) : s.Advances t a (s.step a) := by
  cases a with
  | call u c => exact State.advances_call howes hcount u c
  | goOn u pick => exact State.advances_goOn howes hcount hasleep u pick
  | wake u =>
    change s.Advances t (.wake u) (s.moved u (s.points u).notified)
    cases hpoint : s.points u with
    | asleep timed => exact Or.inl (State.left_of_asleep (State.asleep_lt (by rw [hpoint]; rfl) rfl))
    | away | woken | expired | notifying =>
      have hsame : s.moved u (s.points u) = s := by
        unfold State.moved
        rw [Function.update_eq_self]
      rw [hpoint] at hsame
      change s.Advances t (.wake u) (s.moved u _)
      rw [Point.notified, hsame]
      · exact .of_same howes id
      all_goals simp
  | expire u =>
    change s.Advances t (.expire u)
      (if s.points u = .asleep true ∨ s.points u = .woken true then s.moved u .expired else s)
    split
    · rename_i hpoint
      rcases hpoint with hpoint | hpoint
      · exact Or.inl (State.left_of_asleep (State.asleep_lt (by rw [hpoint]; rfl) rfl))
      · have hquiet : (s.points u).Quiet := by
          rw [hpoint]
          exact ⟨rfl, rfl⟩
        obtain ⟨hsame, hnotify⟩ := State.quiet_move (r := s.moved u .expired) (p := .expired) rfl hquiet
          ⟨rfl, rfl⟩
        refine Or.inr ⟨State.left_eq hsame hnotify (Or.inl rfl), ?_, id⟩
        by_cases hnotifying : 0 < s.notifying
        · exact (howes.of_quiet hnotifying rfl hquiet.2 (hnotify ▸ hnotifying)).1
        · have ht : (s.points t).isAwake = true := (if_neg hnotifying).mp howes
          refine (if_neg (by omega)).mpr ?_
          by_cases hsame : t = u
          · subst hsame
            change (Function.update s.points t .expired t).isAwake = true
            rw [Function.update_self]
            rfl
          · change (Function.update s.points u .expired t).isAwake = true
            rw [Function.update_of_ne hsame]
            exact ht
    · exact .of_same howes id

/-- **Nobody sleeps beside a permit for ever**: when every thread goes on again and again, there is
again and again a moment with no permit or no sleeper. -/
theorem sleepers_served (as : List (Action n)) {next : Nat → Action n}
    (hfair : ∀ t m, ∃ k, m ≤ k ∧ State.turn t (next k)) :
    ∃ k, (run State.step (run State.step (create n) as) (firstOf next k)).count = 0 ∨
      (run State.step (run State.step (create n) as) (firstOf next k)).asleep = 0 := by
  have hstep : ∀ s a t, State.Inv s → ¬ (fun s : State n => s.count = 0 ∨ s.asleep = 0) s → s.Owes t →
      (s.step a).Inv ∧ s.Advances t a (s.step a) := by
    intro s a t h hgoal howes
    rw [not_or] at hgoal
    exact ⟨h.step a, State.advances howes (by omega) (by omega) a⟩
  have howes : ∀ s : State n, s.Inv → ¬ (fun s : State n => s.count = 0 ∨ s.asleep = 0) s →
      ∃ t, s.Owes t := by
    intro s h hgoal
    rw [not_or] at hgoal
    exact h.owes (by omega) (by omega)
  exact owed_run_comes_to State.left State.Owes State.turn hstep howes hfair (inv_run as)

theorem waiter_served :
    ∃ k, (run State.step (run State.step (create 3) [.call 0 .wait, .call 1 (.post 1)])
        (firstOf (fun k => .goOn (Fin.ofNat 3 k) k) k)).count = 0 ∨
      (run State.step (run State.step (create 3) [.call 0 .wait, .call 1 (.post 1)])
        (firstOf (fun k => .goOn (Fin.ofNat 3 k) k) k)).asleep = 0 := by
  refine sleepers_served [.call 0 .wait, .call 1 (.post 1)] fun t m => ?_
  refine ⟨3 * m + t, by omega, Fin.ext ?_⟩
  change (3 * m + t.val) % 3 = t.val
  omega

end

end DualBoy.Nds.Semaphore
