import DualBoy.Engine
import DualBoy.Lib.Attempts
import DualBoy.Lib.Lifetime
import DualBoy.Lib.Run

/-!
# The lifecycle of a session

`session.c`: loads, unloads, resets and link changes, and what they own. Blocks come from the
allocator and pairs from an engine's `create_pair`; two logs keep what happened to them. A session
holds its blocks in five places and its pair with the engine that made it, and what it holds is all
that lives.

* `Sound.allocate`, `Sound.freeBlock`, `Sound.callEngine`: each operation keeps the books.
* `building_step`: one step of a load.
* `resting_step`: one call.
* **`session_lifecycle`**.
-/

namespace DualBoy.Frontend.Lifecycle

open DualBoy.Lib

/-! ## The source -/

/-- `struct dualboy_engine_ops`, as far as a session looks at it: which functions it has, all six
for saved states being one. -/
structure EngineOps where
  id : Nat
  name : Option String
  createPair : Bool
  loadRom : Bool
  destroyPair : Bool
  setLink : Bool
  reset : Bool
  stateFunctions : Bool
  deriving DecidableEq, Repr

/-- An address: of the caller's, or of a block of the session's. -/
inductive Pointer where
  | caller (address : Nat)
  | block (block : Nat)
  deriving DecidableEq, Repr

/-- `struct dualboy_rom`, as a caller has it. -/
structure Rom where
  platform : Platform
  size : Nat
  data : Option Pointer
  path : Option String
  deriving DecidableEq, Repr

/-- `struct dualboy_owned_rom`. -/
structure OwnedRom where
  platform : Platform
  size : Nat
  data : Option Pointer
  path : Option Nat
  ownedData : Option Nat
  ownedPath : Option Nat
  deriving DecidableEq, Repr

/-- What `memset` leaves of it. -/
def OwnedRom.empty : OwnedRom := ⟨.invalid, 0, none, none, none, none⟩

/-- `enum dualboy_load_kind`. -/
inductive LoadKind where
  | normal
  | subsystem
  | playlist
  deriving DecidableEq, Repr

/-- `struct dualboy_session`, without the display and the composite frame. -/
structure Session where
  engine : Option EngineOps
  pair : Option Nat
  roms : Fin 2 → OwnedRom
  compositePixels : Option Nat
  machineStateCapacity : Fin 2 → Nat
  linkStateCapacity : Nat
  loadKind : LoadKind
  contentPathMissing : Fin 2 → Bool
  linkEnabled : Bool
  loaded : Bool

def Session.setRom (s : Session) (machine : Fin 2) (rom : OwnedRom) : Session :=
  { s with roms := Function.update s.roms machine rom }

/-- A session, and all that happened to blocks and pairs. -/
structure World where
  session : Session
  blocks : List (LifeEvent Nat)
  pairs : List (LifeEvent (EngineOps × Nat))
  nextBlock : Nat
  nextPair : Nat

namespace World

/-- `malloc`, given whether there is memory. -/
def allocate (w : World) (memory : Bool) : World × Option Nat :=
  if memory then
    ({ w with blocks := w.blocks ++ [.acquire w.nextBlock], nextBlock := w.nextBlock + 1 },
      some w.nextBlock)
  else (w, none)

/-- `free`. -/
def free (w : World) (block : Option Nat) : World :=
  { w with blocks := w.blocks ++ block.toList.map .release }

def setSession (w : World) (session : Session) : World := { w with session := session }

def setRom (w : World) (machine : Fin 2) (rom : OwnedRom) : World :=
  w.setSession (w.session.setRom machine rom)

/-- A function of the session's engine is called with its pair. -/
def callEngine (w : World) : World :=
  match w.session.engine, w.session.pair with
  | some engine, some pair => { w with pairs := w.pairs ++ [.use (engine, pair)] }
  | _, _ => w

end World

/-- The first part of `own_rom`: the path. -/
def copyPath (machine : Fin 2) (source : Rom) (memory : Bool) (w : World) :
    World × Option String :=
  if source.path = none then (w, none)
  else
    match w.allocate memory with
    | (w, none) => (w, some "out of memory while copying content path")
    | (w, some path) =>
      (w.setRom machine
        { w.session.roms machine with ownedPath := some path, path := some path }, none)

/-- Whether `own_rom` takes the data of another ROM. -/
def SharesWith (source : Rom) (shareWith : Option OwnedRom) : Prop :=
  ∃ other ∈ shareWith, other.size = source.size ∧ other.platform = source.platform ∧
    other.data ≠ none ∧ source.data = other.data

instance (source : Rom) (shareWith : Option OwnedRom) : Decidable (SharesWith source shareWith) :=
  match shareWith with
  | none => isFalse fun ⟨_, h, _⟩ => nomatch h
  | some other =>
    decidable_of_iff (other.size = source.size ∧ other.platform = source.platform ∧
      other.data ≠ none ∧ source.data = other.data)
      ⟨fun h => ⟨other, rfl, h⟩, fun ⟨_, h, hrest⟩ => Option.some.inj h ▸ hrest⟩

/-- The last part of `own_rom`: the data. -/
def copyData (machine : Fin 2) (source : Rom) (shareWith : Option OwnedRom) (memory : Bool)
    (w : World) : World × Option String :=
  if SharesWith source shareWith then
    (w.setRom machine { w.session.roms machine with data := source.data }, none)
  else
    match w.allocate memory with
    | (w, none) =>
      ((w.free (w.session.roms machine).ownedPath).setRom machine OwnedRom.empty,
        some "out of memory while copying cartridge content")
    | (w, some data) =>
      (w.setRom machine
        { w.session.roms machine with ownedData := some data, data := some (.block data) }, none)

/-- `own_rom`. -/
def ownRom (machine : Fin 2) (source : Rom) (shareWith : Option OwnedRom)
    (pathMemory dataMemory : Bool) (w : World) : World × Option String :=
  if source.data = none ∨ source.size = 0 then (w, some "cannot own empty cartridge content")
  else
    let w := w.setRom machine
      { OwnedRom.empty with platform := source.platform, size := source.size }
    match copyPath machine source pathMemory w with
    | (w, some error) => (w, some error)
    | (w, none) => copyData machine source shareWith dataMemory w

/-- One machine's part of `dualboy_session_unload`. -/
def unloadRom (machine : Fin 2) (w : World) : World :=
  ((w.free (w.session.roms machine).ownedData).free (w.session.roms machine).ownedPath).setRom
    machine OwnedRom.empty

/-- Its first part. -/
def unloadPair (w : World) : World :=
  let w :=
    match w.session.engine, w.session.pair with
    | some engine, some pair =>
      if engine.destroyPair then
        { w with pairs := w.pairs ++ [LifeEvent.release (engine, pair)] }
      else w
    | _, _ => w
  w.setSession { w.session with pair := none, engine := none }

/-- `dualboy_session_unload`. -/
def sessionUnload (w : World) : World :=
  let w := unloadRom 1 (unloadRom 0 (unloadPair w))
  let w := w.free w.session.compositePixels
  w.setSession
    { w.session with
      compositePixels := none, machineStateCapacity := fun _ => 0, linkStateCapacity := 0
      loaded := false, linkEnabled := false, loadKind := .normal }

/-- The arguments of a load, and what the allocator and the engine answer in it: a text where the
engine fails. -/
structure LoadRequest where
  engine : EngineOps
  roms : Fin 2 → Rom
  loadKind : LoadKind
  linkEnabled : Bool
  compositeMemory : Bool
  pathMemory : Fin 2 → Bool
  dataMemory : Fin 2 → Bool
  pairCreated : Bool
  pairSet : Bool
  pairError : String
  romError : Fin 2 → Option String
  linkError : Option String
  machineStateSize : Fin 2 → Nat
  linkStateSize : Nat

/-- The calls of `dualboy_session_load`. -/
inductive LoadStep where
  | composite
  | own (machine : Fin 2)
  | createPair
  | loadRom (machine : Fin 2)
  | setLink
  | capacities
  deriving DecidableEq, Repr

def loadSteps : List LoadStep :=
  [.composite, .own 0, .own 1, .createPair, .loadRom 0, .loadRom 1, .setLink, .capacities]

def engineName (engine : EngineOps) : String := engine.name.getD "engine"

/-- The loop of `cache_state_capacities`, for one machine. -/
def cacheCapacity (r : LoadRequest) (machine : Fin 2) (w : World) : World × Option String :=
  let w := w.callEngine
  let w := w.setSession
    { w.session with
      machineStateCapacity :=
        Function.update w.session.machineStateCapacity machine (r.machineStateSize machine) }
  if r.machineStateSize machine = 0 then
    (w, some (engineName r.engine ++ " reported no savestate capacity for machine " ++
      toString (machine.val + 1)))
  else (w, none)

/-- `cache_state_capacities`. -/
def cacheStateCapacities (r : LoadRequest) (w : World) : World × Option String :=
  let w := w.setSession
    { w.session with
      machineStateCapacity := fun _ => 0, contentPathMissing := fun _ => false
      linkStateCapacity := 0 }
  if r.engine.stateFunctions = false then (w, none)
  else
    match cacheCapacity r 0 w with
    | (w, some error) => (w, some error)
    | (w, none) =>
      match cacheCapacity r 1 w with
      | (w, some error) => (w, some error)
      | (w, none) =>
        let w := w.callEngine
        (w.setSession { w.session with linkStateCapacity := r.linkStateSize }, none)

/-- One call of a load, with its text when it fails. -/
def performLoad (r : LoadRequest) : LoadStep → World → World × Option String
  | .composite, w =>
    let (w, block) := w.allocate r.compositeMemory
    (w.setSession { w.session with compositePixels := block },
      if block = none then some "unable to allocate composite framebuffer" else none)
  | .own machine, w =>
    if machine = 1 ∧ (r.roms 1).data = (r.roms 0).data ∧ (r.roms 1).size = (r.roms 0).size ∧
        (r.roms 1).platform = (r.roms 0).platform then
      ownRom 1 { r.roms 1 with data := (w.session.roms 0).data } (some (w.session.roms 0))
        (r.pathMemory 1) (r.dataMemory 1) w
    else
      ownRom machine (r.roms machine) none (r.pathMemory machine) (r.dataMemory machine) w
  | .createPair, w =>
    let w :=
      if r.pairSet then
        { w with
          session := { w.session with pair := some w.nextPair }
          pairs := w.pairs ++ [.acquire (r.engine, w.nextPair)], nextPair := w.nextPair + 1 }
      else w
    if r.pairCreated = false ∨ w.session.pair = none then
      (w, some (if r.pairError = "" then engineName r.engine ++ " failed to create an engine pair"
        else r.pairError))
    else (w, none)
  | .loadRom machine, w => (w.callEngine, r.romError machine)
  | .setLink, w => if r.engine.setLink then (w.callEngine, r.linkError) else (w, none)
  | .capacities, w => cacheStateCapacities r w

/-- The test of the arguments. -/
def validArguments (engine : EngineOps) : Bool :=
  engine.createPair && engine.loadRom && engine.destroyPair

/-- `dualboy_session_load`. -/
def sessionLoad (r : LoadRequest) (w : World) : World × Option String :=
  if validArguments r.engine = false then (w, some "invalid engine/session load arguments")
  else
    let w := sessionUnload w
    let w := w.setSession { w.session with engine := some r.engine, loadKind := r.loadKind }
    let (w, done) := untilFailure (performLoad r) loadSteps w
    match firstError done with
    | some error => (sessionUnload w, some error)
    | none =>
      (w.setSession { w.session with linkEnabled := r.linkEnabled, loaded := true }, none)

/-- `dualboy_session_reset`. -/
def sessionReset (w : World) : World :=
  match w.session.engine with
  | some engine => if w.session.loaded && engine.reset then w.callEngine else w
  | none => w

/-- `dualboy_session_set_link`, given the engine's answer. -/
def sessionSetLink (enabled : Bool) (linkError : Option String) (w : World) :
    World × Option String :=
  match w.session.engine with
  | none => (w, some "no active session supports link changes")
  | some engine =>
    if w.session.loaded = false ∨ engine.setLink = false then
      (w, some "no active session supports link changes")
    else
      let w := w.callEngine
      match linkError with
      | some error => (w, some error)
      | none => (w.setSession { w.session with linkEnabled := enabled }, none)

/-! ## Calls -/

inductive SessionCall where
  | load (request : LoadRequest)
  | unload
  | reset
  | setLink (enabled : Bool) (linkError : Option String)

def sessionStep (w : World) : SessionCall → World
  | .load request => (sessionLoad request w).1
  | .unload => sessionUnload w
  | .reset => sessionReset w
  | .setLink enabled linkError => (sessionSetLink enabled linkError w).1

/-- `dualboy_session_init`. -/
def initialSession : Session :=
  ⟨none, none, fun _ => OwnedRom.empty, none, fun _ => 0, 0, .normal, fun _ => false, false, false⟩

def initialWorld : World := ⟨initialSession, [], [], 0, 0⟩

/-- What is left of a session that is fully unloaded. -/
structure Unloaded (s : Session) : Prop where
  pair : s.pair = none
  engine : s.engine = none
  roms : ∀ machine, s.roms machine = OwnedRom.empty
  compositePixels : s.compositePixels = none
  machineStateCapacity : ∀ machine, s.machineStateCapacity machine = 0
  linkStateCapacity : s.linkStateCapacity = 0
  loadKind : s.loadKind = .normal
  linkEnabled : s.linkEnabled = false
  loaded : s.loaded = false

/-! ## What a session holds -/

/-- The places for blocks. -/
inductive Slot where
  | composite
  | data (machine : Fin 2)
  | path (machine : Fin 2)
  deriving DecidableEq, Repr

def Session.blockOf (s : Session) : Slot → Option Nat
  | .composite => s.compositePixels
  | .data machine => (s.roms machine).ownedData
  | .path machine => (s.roms machine).ownedPath

/-- The pair, with the engine it is of. -/
def Session.pairOf (s : Session) : Unit → Option (EngineOps × Nat) := fun _ =>
  match s.engine, s.pair with
  | some engine, some pair => some (engine, pair)
  | _, _ => none

/-- What lives is what the session holds, and what comes next is new. -/
structure Sound (w : World) : Prop where
  blocks : Ledger w.session.blockOf w.blocks
  pairs : Ledger w.session.pairOf w.pairs
  blockFresh : ∀ b, w.nextBlock ≤ b → life w.blocks b = .unborn
  pairFresh : ∀ engine p, w.nextPair ≤ p → life w.pairs (engine, p) = .unborn
  owner : ∀ engine engine' p, life w.pairs (engine, p) ≠ .unborn →
    life w.pairs (engine', p) ≠ .unborn → engine = engine'
  engine : w.session.engine = none → w.session.pair = none
  destroys : ∀ engine, w.session.engine = some engine → engine.destroyPair = true

section Holding

variable {w : World}

/-- Only what a session holds and what the logs say counts. -/
theorem Sound.congr (h : Sound w) {session : Session}
    (hblocks : session.blockOf = w.session.blockOf) (hengine : session.engine = w.session.engine)
    (hpair : session.pair = w.session.pair) : Sound (w.setSession session) := by
  have hpairOf : session.pairOf = w.session.pairOf := by
    unfold Session.pairOf
    rw [hengine, hpair]
  refine ⟨hblocks ▸ h.blocks, hpairOf ▸ h.pairs, h.blockFresh, h.pairFresh, h.owner, ?_, ?_⟩
  · intro hnone
    exact hpair.trans (h.engine (hengine.symm.trans hnone))
  · intro engine hsome
    exact h.destroys engine (hengine.symm.trans hsome)

/-- **A new block goes to a place that has none.** -/
theorem Sound.allocate (h : Sound w) {session : Session} {slot : Slot}
    (hfree : w.session.blockOf slot = none)
    (hblocks : session.blockOf = Function.update w.session.blockOf slot (some w.nextBlock))
    (hengine : session.engine = w.session.engine) (hpair : session.pair = w.session.pair) :
    Sound ((w.allocate true).1.setSession session) := by
  have hpairOf : session.pairOf = w.session.pairOf := by
    unfold Session.pairOf
    rw [hengine, hpair]
  refine ⟨?_, hpairOf ▸ h.pairs, ?_, h.pairFresh, h.owner, ?_, ?_⟩
  · show Ledger session.blockOf (w.blocks ++ [.acquire w.nextBlock])
    rw [hblocks]
    exact h.blocks.acquire hfree (h.blockFresh w.nextBlock (Nat.le_refl _))
  · intro b hb
    have hb : w.nextBlock + 1 ≤ b := hb
    have hne : (LifeEvent.acquire w.nextBlock).resource ≠ b := by
      show w.nextBlock ≠ b
      omega
    exact (life_snoc_of_ne w.blocks hne).trans (h.blockFresh b (by omega))
  · intro hnone
    exact hpair.trans (h.engine (hengine.symm.trans hnone))
  · intro engine hsome
    exact h.destroys engine (hengine.symm.trans hsome)

/-- **A block goes back with its place.** -/
theorem Sound.freeBlock (h : Sound w) {session : Session} (slot : Slot)
    (hblocks : session.blockOf = Function.update w.session.blockOf slot none)
    (hengine : session.engine = w.session.engine) (hpair : session.pair = w.session.pair) :
    Sound ((w.free (w.session.blockOf slot)).setSession session) := by
  have hpairOf : session.pairOf = w.session.pairOf := by
    unfold Session.pairOf
    rw [hengine, hpair]
  refine ⟨?_, hpairOf ▸ h.pairs, ?_, h.pairFresh, h.owner, ?_, ?_⟩
  · show Ledger session.blockOf _
    rw [hblocks]
    exact h.blocks.giveUp slot
  · intro b hb
    have hunborn := h.blockFresh b hb
    show life (w.blocks ++ _) b = .unborn
    cases hheld : w.session.blockOf slot with
    | none => simpa using hunborn
    | some held =>
      have hlive := (h.blocks.live_iff held).mpr ⟨slot, hheld⟩
      have hne : (LifeEvent.release held).resource ≠ b := by
        rintro rfl
        exact absurd (hunborn.symm.trans hlive) (by decide)
      exact (life_snoc_of_ne w.blocks hne).trans hunborn
  · intro hnone
    exact hpair.trans (h.engine (hengine.symm.trans hnone))
  · intro engine hsome
    exact h.destroys engine (hengine.symm.trans hsome)

/-- **The engine is called with a pair that lives.** -/
theorem Sound.callEngine (h : Sound w) : Sound w.callEngine := by
  unfold World.callEngine
  split
  · rename_i engine pair hengine hpair
    have hheld : w.session.pairOf () = some (engine, pair) := by
      unfold Session.pairOf
      rw [hengine, hpair]
    refine ⟨h.blocks, h.pairs.use hheld, h.blockFresh, ?_, ?_, h.engine, h.destroys⟩
    · intro engine' p hp
      show life (w.pairs ++ _) _ = _
      rw [life_snoc_use]
      exact h.pairFresh engine' p hp
    · intro engine₁ engine₂ p
      show life (w.pairs ++ _) _ ≠ _ → life (w.pairs ++ _) _ ≠ _ → _
      rw [life_snoc_use, life_snoc_use]
      exact h.owner engine₁ engine₂ p
  · exact h

theorem session_callEngine (w : World) : w.callEngine.session = w.session := by
  unfold World.callEngine
  split <;> rfl

theorem roms_setRom (s : Session) (machine : Fin 2) (rom : OwnedRom) :
    (s.setRom machine rom).roms machine = rom := Function.update_self _ _ _

theorem setRom_setRom (s : Session) (machine : Fin 2) (rom rom' : OwnedRom) :
    (s.setRom machine rom).setRom machine rom' = s.setRom machine rom' := by
  unfold Session.setRom
  rw [Function.update_idem]

theorem data_ne_path (machine machine' : Fin 2) : Slot.data machine ≠ Slot.path machine' := nofun

theorem blockOf_setRom (s : Session) (machine : Fin 2) (rom : OwnedRom) :
    (s.setRom machine rom).blockOf =
      Function.update (Function.update s.blockOf (.data machine) rom.ownedData) (.path machine)
        rom.ownedPath := by
  funext slot
  cases slot with
  | composite => rfl
  | data machine' =>
    rw [Function.update_of_ne (data_ne_path machine' machine)]
    by_cases hm : machine' = machine
    · subst hm
      rw [Function.update_self]
      exact congrArg OwnedRom.ownedData (Function.update_self _ _ _)
    · rw [Function.update_of_ne (fun heq => hm (Slot.data.inj heq))]
      exact congrArg OwnedRom.ownedData (Function.update_of_ne hm _ _)
  | path machine' =>
    by_cases hm : machine' = machine
    · subst hm
      rw [Function.update_self]
      exact congrArg OwnedRom.ownedPath (Function.update_self _ _ _)
    · rw [Function.update_of_ne (fun heq => hm (Slot.path.inj heq)),
        Function.update_of_ne (data_ne_path machine machine').symm]
      exact congrArg OwnedRom.ownedPath (Function.update_of_ne hm _ _)

/-- A change of the data's block only. -/
theorem blockOf_setData (s : Session) {machine : Fin 2} {rom : OwnedRom}
    (hpath : rom.ownedPath = (s.roms machine).ownedPath) :
    (s.setRom machine rom).blockOf =
      Function.update s.blockOf (.data machine) rom.ownedData := by
  have hsame : rom.ownedPath =
      Function.update s.blockOf (.data machine) rom.ownedData (.path machine) := by
    rw [Function.update_of_ne (data_ne_path machine machine).symm, hpath]
    rfl
  rw [blockOf_setRom, hsame, Function.update_eq_self]

/-- A change of the path's block only. -/
theorem blockOf_setPath (s : Session) {machine : Fin 2} {rom : OwnedRom}
    (hdata : rom.ownedData = (s.roms machine).ownedData) :
    (s.setRom machine rom).blockOf =
      Function.update s.blockOf (.path machine) rom.ownedPath := by
  have hsame : rom.ownedData = s.blockOf (.data machine) := hdata
  rw [blockOf_setRom, hsame, Function.update_eq_self]

/-! ## Unloading -/

theorem Sound.unloadRom (h : Sound w) (machine : Fin 2) : Sound (unloadRom machine w) := by
  -- the data goes first, then the path with the rest
  let half : OwnedRom := { w.session.roms machine with ownedData := none }
  have hhalf : OwnedRom.empty.ownedData = ((w.session.setRom machine half).roms machine).ownedData := by
    rw [roms_setRom]
    rfl
  have hdata : Sound ((w.free (w.session.blockOf (.data machine))).setSession
      (w.session.setRom machine half)) :=
    h.freeBlock (.data machine) (blockOf_setData w.session rfl) rfl rfl
  have hpath := hdata.freeBlock (.path machine)
    (blockOf_setPath (w.session.setRom machine half) hhalf) rfl rfl
  have hheld : (w.session.setRom machine half).blockOf (.path machine) =
      (w.session.roms machine).ownedPath := by
    show ((w.session.setRom machine half).roms machine).ownedPath = _
    rw [roms_setRom]
  have hsession : ((w.free (w.session.blockOf (.data machine))).setSession
      (w.session.setRom machine half)).session = w.session.setRom machine half := rfl
  rw [setRom_setRom, hsession, hheld] at hpath
  exact hpath

theorem Sound.unloadPair (h : Sound w) : Sound (unloadPair w) := by
  unfold Lifecycle.unloadPair
  dsimp only
  cases hpair : w.session.pair with
  | none =>
    have hsame : (match w.session.engine, (none : Option Nat) with
      | some engine, some pair =>
        if engine.destroyPair then
          { w with pairs := w.pairs ++ [LifeEvent.release (engine, pair)] }
        else w
      | _, _ => w) = w := by
      split
      · rename_i hnone
        cases hnone
      · rfl
    rw [hsame]
    have hheld : w.session.pairOf = fun _ => none := by
      funext _
      unfold Session.pairOf
      rw [hpair]
      split
      · rename_i hnone
        cases hnone
      · rfl
    have hnone : Session.pairOf { w.session with pair := none, engine := none } = fun _ => none := rfl
    refine ⟨h.blocks, ?_, h.blockFresh, h.pairFresh, h.owner, fun _ => rfl, nofun⟩
    rw [← hheld] at hnone
    exact hnone ▸ h.pairs
  | some pair =>
    cases hengine : w.session.engine with
    | none => exact absurd ((h.engine hengine).symm.trans hpair) nofun
    | some engine =>
      dsimp only
      rw [if_pos (h.destroys engine hengine)]
      have hheld : w.session.pairOf () = some (engine, pair) := by
        unfold Session.pairOf
        rw [hengine, hpair]
      have hreleased := h.pairs.release hheld
      have hnone : Function.update w.session.pairOf () none = fun _ => none := by
        funext _
        exact Function.update_self _ _ _
      rw [hnone] at hreleased
      have hlive := (h.pairs.live_iff (engine, pair)).mpr ⟨(), hheld⟩
      have hlife (r : EngineOps × Nat) :
          life (w.pairs ++ [.release (engine, pair)]) r ≠ .unborn ↔ life w.pairs r ≠ .unborn := by
        by_cases hr : (engine, pair) = r
        · subst hr
          rw [life_snoc_release, hlive]
          decide
        · rw [life_snoc_of_ne w.pairs (show (LifeEvent.release (engine, pair)).resource ≠ r from hr)]
      refine ⟨h.blocks, hreleased, h.blockFresh, ?_, ?_, fun _ => rfl, nofun⟩
      · intro engine' p hp
        exact not_not.mp fun hne => (hlife _).mp hne (h.pairFresh engine' p hp)
      · intro engine₁ engine₂ p h₁ h₂
        exact h.owner engine₁ engine₂ p ((hlife _).mp h₁) ((hlife _).mp h₂)

theorem blockOf_setComposite {s s' : Session} (hroms : s'.roms = s.roms) :
    s'.blockOf = Function.update s.blockOf .composite s'.compositePixels := by
  funext slot
  cases slot with
  | composite => rw [Function.update_self]; rfl
  | data machine =>
    rw [Function.update_of_ne (fun h => Slot.noConfusion h)]
    exact congrArg (fun roms => (roms machine).ownedData) hroms
  | path machine =>
    rw [Function.update_of_ne (fun h => Slot.noConfusion h)]
    exact congrArg (fun roms => (roms machine).ownedPath) hroms

theorem roms_unloadRom (machine : Fin 2) (w : World) :
    (Lifecycle.unloadRom machine w).session.roms =
      Function.update w.session.roms machine OwnedRom.empty := rfl

/-- **An unload keeps the books**, and leaves nothing. -/
theorem Sound.unload (h : Sound w) :
    Sound (sessionUnload w) ∧ Unloaded (sessionUnload w).session := by
  have hroms := (h.unloadPair.unloadRom 0).unloadRom 1
  constructor
  · exact hroms.freeBlock .composite (blockOf_setComposite rfl) rfl rfl
  · refine ⟨rfl, rfl, fun machine => ?_, rfl, fun _ => rfl, rfl, rfl, rfl, rfl⟩
    show (Lifecycle.unloadRom 1 (Lifecycle.unloadRom 0 (Lifecycle.unloadPair w))).session.roms
      machine = _
    rw [roms_unloadRom, roms_unloadRom]
    by_cases hone : machine = 1
    · rw [hone, Function.update_self]
    · have hzero : machine = 0 := by omega
      rw [Function.update_of_ne hone, hzero, Function.update_self]

end Holding

/-! ## Loading -/

section Loading

variable {w : World} {machine : Fin 2}

/-- A pointer is to a block that a session holds. -/
def HeldBy (s : Session) (pointer : Option Pointer) : Prop :=
  ∃ b slot, pointer = some (.block b) ∧ s.blockOf slot = some b

/-- Only one ROM of the session changes, and nothing it holds is given up. -/
structure OnlyRom (machine : Fin 2) (s s' : Session) : Prop where
  engine : s'.engine = s.engine
  pair : s'.pair = s.pair
  compositePixels : s'.compositePixels = s.compositePixels
  others : ∀ other, other ≠ machine → s'.roms other = s.roms other
  held : ∀ slot b, s.blockOf slot = some b → s'.blockOf slot = some b

theorem OnlyRom.refl (machine : Fin 2) (s : Session) : OnlyRom machine s s :=
  ⟨rfl, rfl, rfl, fun _ _ => rfl, fun _ _ hb => hb⟩

theorem OnlyRom.trans {s s' s'' : Session} (h : OnlyRom machine s s')
    (h' : OnlyRom machine s' s'') : OnlyRom machine s s'' :=
  ⟨h'.engine.trans h.engine, h'.pair.trans h.pair, h'.compositePixels.trans h.compositePixels,
    fun other hother => (h'.others other hother).trans (h.others other hother),
    fun slot b hb => h'.held slot b (h.held slot b hb)⟩

/-- A ROM is replaced by one that keeps its blocks, or adds some. -/
theorem onlyRom_setRom (s : Session) {rom : OwnedRom}
    (hdata : (s.roms machine).ownedData = none ∨ rom.ownedData = (s.roms machine).ownedData)
    (hpath : (s.roms machine).ownedPath = none ∨ rom.ownedPath = (s.roms machine).ownedPath) :
    OnlyRom machine s (s.setRom machine rom) := by
  refine ⟨rfl, rfl, rfl, fun other hother => Function.update_of_ne hother _ _, ?_⟩
  intro slot b hb
  rw [blockOf_setRom]
  by_cases hslot : slot = .path machine
  · subst hslot
    rcases hpath with hnone | hsame
    · exact absurd (hnone.symm.trans hb) nofun
    · rw [Function.update_self, hsame]
      exact hb
  · rw [Function.update_of_ne hslot]
    by_cases hslot : slot = .data machine
    · subst hslot
      rcases hdata with hnone | hsame
      · exact absurd (hnone.symm.trans hb) nofun
      · rw [Function.update_self, hsame]
        exact hb
    · rw [Function.update_of_ne hslot]
      exact hb

theorem OnlyRom.heldBy {s s' : Session} (h : OnlyRom machine s s') {pointer : Option Pointer}
    (hheld : HeldBy s pointer) : HeldBy s' pointer := by
  obtain ⟨b, slot, hpointer, hslot⟩ := hheld
  exact ⟨b, slot, hpointer, h.held slot b hslot⟩

theorem copyPath_spec (h : Sound w) (hfree : (w.session.roms machine).ownedPath = none)
    (source : Rom) (memory : Bool) :
    let result := copyPath machine source memory w
    Sound result.1 ∧ OnlyRom machine w.session result.1.session ∧
      (result.1.session.roms machine).ownedData = (w.session.roms machine).ownedData := by
  unfold copyPath
  by_cases hpath : source.path = none
  · rw [if_pos hpath]
    exact ⟨h, OnlyRom.refl machine w.session, rfl⟩
  rw [if_neg hpath]
  cases memory with
  | false => exact ⟨h, OnlyRom.refl machine w.session, rfl⟩
  | true =>
    generalize hrom : ({ w.session.roms machine with
      ownedPath := some w.nextBlock, path := some w.nextBlock } : OwnedRom) = rom
    have hdata : rom.ownedData = (w.session.roms machine).ownedData := by
      rw [← hrom]
    have hblocks : (w.session.setRom machine rom).blockOf =
        Function.update w.session.blockOf (.path machine) (some w.nextBlock) := by
      rw [blockOf_setPath w.session hdata, ← hrom]
    have hslot : w.session.blockOf (.path machine) = none := hfree
    have hsound : Sound ((w.allocate true).1.setSession (w.session.setRom machine rom)) :=
      h.allocate hslot hblocks rfl rfl
    have honly := onlyRom_setRom w.session (Or.inr hdata) (Or.inl hfree)
    rw [← hrom] at hsound honly
    refine ⟨hsound, honly, ?_⟩
    show ((w.session.setRom machine _).roms machine).ownedData = _
    rw [roms_setRom]

theorem copyData_spec (h : Sound w) (hfree : (w.session.roms machine).ownedData = none)
    (source : Rom) (shareWith : Option OwnedRom) (memory : Bool)
    (hshare : SharesWith source shareWith → HeldBy w.session source.data) :
    let result := copyData machine source shareWith memory w
    Sound result.1 ∧ (result.2 = none → OnlyRom machine w.session result.1.session ∧
      HeldBy result.1.session (result.1.session.roms machine).data) := by
  unfold copyData
  by_cases hshares : SharesWith source shareWith
  · rw [if_pos hshares]
    generalize hrom : ({ w.session.roms machine with data := source.data } : OwnedRom) = rom
    have hdata : rom.ownedData = (w.session.roms machine).ownedData := by
      rw [← hrom]
    have hpath : rom.ownedPath = (w.session.roms machine).ownedPath := by
      rw [← hrom]
    have hblocks : (w.session.setRom machine rom).blockOf = w.session.blockOf := by
      rw [blockOf_setPath w.session hdata, hpath]
      exact Function.update_eq_self _ _
    have honly := onlyRom_setRom w.session (Or.inr hdata) (Or.inr hpath)
    refine ⟨h.congr hblocks rfl rfl, fun _ => ⟨honly, ?_⟩⟩
    show HeldBy _ ((w.session.setRom machine rom).roms machine).data
    have hromData : rom.data = source.data := by
      rw [← hrom]
    rw [roms_setRom, hromData]
    exact honly.heldBy (hshare hshares)
  rw [if_neg hshares]
  cases memory with
  | false =>
    refine ⟨?_, nofun⟩
    have hdata : OwnedRom.empty.ownedData = (w.session.roms machine).ownedData := hfree.symm
    exact h.freeBlock (.path machine) (blockOf_setPath w.session hdata) rfl rfl
  | true =>
    generalize hrom : ({ w.session.roms machine with
      ownedData := some w.nextBlock, data := some (.block w.nextBlock) } : OwnedRom) = rom
    have hpath : rom.ownedPath = (w.session.roms machine).ownedPath := by
      rw [← hrom]
    have hblocks : (w.session.setRom machine rom).blockOf =
        Function.update w.session.blockOf (.data machine) (some w.nextBlock) := by
      rw [blockOf_setData w.session hpath, ← hrom]
    have hslot : w.session.blockOf (.data machine) = none := hfree
    have hsound : Sound ((w.allocate true).1.setSession (w.session.setRom machine rom)) :=
      h.allocate hslot hblocks rfl rfl
    have honly := onlyRom_setRom w.session (Or.inl hfree) (Or.inr hpath)
    have hheld : HeldBy (w.session.setRom machine rom)
        ((w.session.setRom machine rom).roms machine).data := by
      refine ⟨w.nextBlock, .data machine, ?_, ?_⟩
      · rw [roms_setRom, ← hrom]
      · rw [hblocks, Function.update_self]
    rw [← hrom] at hsound honly hheld
    exact ⟨hsound, fun _ => ⟨honly, hheld⟩⟩

theorem ownRom_spec (h : Sound w) (hdata : (w.session.roms machine).ownedData = none)
    (hpath : (w.session.roms machine).ownedPath = none) (source : Rom)
    (shareWith : Option OwnedRom) (pathMemory dataMemory : Bool)
    (hshare : SharesWith source shareWith → HeldBy w.session source.data) :
    let result := ownRom machine source shareWith pathMemory dataMemory w
    Sound result.1 ∧ (result.2 = none → OnlyRom machine w.session result.1.session ∧
      HeldBy result.1.session (result.1.session.roms machine).data) := by
  unfold ownRom
  by_cases hempty : source.data = none ∨ source.size = 0
  · rw [if_pos hempty]
    exact ⟨h, nofun⟩
  rw [if_neg hempty]
  generalize hrom : ({ OwnedRom.empty with
    platform := source.platform, size := source.size } : OwnedRom) = rom
  have hnoData : rom.ownedData = none := by
    rw [← hrom]
    rfl
  have hnoPath : rom.ownedPath = none := by
    rw [← hrom]
    rfl
  have hblocks : (w.session.setRom machine rom).blockOf = w.session.blockOf := by
    rw [blockOf_setPath w.session (hnoData.trans hdata.symm), hnoPath, ← hpath]
    exact Function.update_eq_self _ _
  have hstart : Sound (w.setRom machine rom) := h.congr hblocks rfl rfl
  have honly : OnlyRom machine w.session (w.session.setRom machine rom) :=
    onlyRom_setRom w.session (Or.inl hdata) (Or.inl hpath)
  have hromPath : ((w.setRom machine rom).session.roms machine).ownedPath = none := by
    show ((w.session.setRom machine rom).roms machine).ownedPath = none
    rw [roms_setRom, hnoPath]
  have hromData : ((w.setRom machine rom).session.roms machine).ownedData = none := by
    show ((w.session.setRom machine rom).roms machine).ownedData = none
    rw [roms_setRom, hnoData]
  obtain ⟨hcopied, honly', hkeeps⟩ := copyPath_spec hstart hromPath source pathMemory
  dsimp only
  cases hresult : copyPath machine source pathMemory (w.setRom machine rom) with
  | mk w' error =>
    rw [hresult] at hcopied honly' hkeeps
    cases error with
    | some error => exact ⟨hcopied, nofun⟩
    | none =>
      have hboth := honly.trans honly'
      obtain ⟨hsound, hdone⟩ := copyData_spec hcopied (hkeeps.trans hromData) source shareWith
        dataMemory fun hshares => hboth.heldBy (hshare hshares)
      refine ⟨hsound, fun hnone => ?_⟩
      obtain ⟨honly'', hheld⟩ := hdone hnone
      exact ⟨hboth.trans honly'', hheld⟩

/-- A session under way, with these steps ahead: what they will fill is empty, and what was filled
is held. -/
structure Building (r : LoadRequest) (rest : List LoadStep) (w : World) : Prop where
  sound : Sound w
  engine : w.session.engine = some r.engine
  nodup : rest.Nodup
  composite : .composite ∈ rest → w.session.compositePixels = none
  rom : ∀ machine, .own machine ∈ rest →
    (w.session.roms machine).ownedData = none ∧ (w.session.roms machine).ownedPath = none
  held : ∀ machine, (w.session.roms machine).data ≠ none →
    HeldBy w.session (w.session.roms machine).data
  owned : ∀ machine, .own machine ∉ rest → (w.session.roms machine).data ≠ none
  pair : .createPair ∈ rest → w.session.pair = none
  paired : .createPair ∉ rest → w.session.pair ≠ none

variable {r : LoadRequest} {rest : List LoadStep} {step : LoadStep}

/-- The engine is called, or figures are kept: what the session holds stays. -/
structure Aside (w w' : World) : Prop where
  sound : Sound w → Sound w'
  roms : w'.session.roms = w.session.roms
  compositePixels : w'.session.compositePixels = w.session.compositePixels
  engine : w'.session.engine = w.session.engine
  pair : w'.session.pair = w.session.pair

theorem Aside.trans {w' w'' : World} (h : Aside w w') (h' : Aside w' w'') : Aside w w'' :=
  ⟨fun hsound => h'.sound (h.sound hsound), h'.roms.trans h.roms,
    h'.compositePixels.trans h.compositePixels, h'.engine.trans h.engine, h'.pair.trans h.pair⟩

theorem Aside.blockOf {w' : World} (h : Aside w w') :
    w'.session.blockOf = w.session.blockOf := by
  funext slot
  cases slot with
  | composite => exact h.compositePixels
  | data machine => exact congrArg (fun roms => (roms machine).ownedData) h.roms
  | path machine => exact congrArg (fun roms => (roms machine).ownedPath) h.roms

theorem aside_refl (w : World) : Aside w w := ⟨id, rfl, rfl, rfl, rfl⟩

theorem aside_callEngine (w : World) : Aside w w.callEngine := by
  have hsession := session_callEngine w
  exact ⟨Sound.callEngine, by rw [hsession], by rw [hsession], by rw [hsession], by rw [hsession]⟩

/-- Figures of a session. -/
theorem aside_setSession (w : World) {session : Session} (hroms : session.roms = w.session.roms)
    (hcomposite : session.compositePixels = w.session.compositePixels)
    (hengine : session.engine = w.session.engine) (hpair : session.pair = w.session.pair) :
    Aside w (w.setSession session) := by
  refine ⟨fun hsound => hsound.congr ?_ hengine hpair, hroms, hcomposite, hengine, hpair⟩
  funext slot
  cases slot with
  | composite => exact hcomposite
  | data machine => exact congrArg (fun roms => (roms machine).ownedData) hroms
  | path machine => exact congrArg (fun roms => (roms machine).ownedPath) hroms

theorem aside_cacheCapacity (r : LoadRequest) (machine : Fin 2) (w : World) :
    Aside w (cacheCapacity r machine w).1 := by
  have hfigures : Aside w.callEngine (w.callEngine.setSession { w.callEngine.session with
      machineStateCapacity := Function.update w.callEngine.session.machineStateCapacity machine
        (r.machineStateSize machine) }) := aside_setSession w.callEngine rfl rfl rfl rfl
  have hboth := (aside_callEngine w).trans hfigures
  unfold cacheCapacity
  dsimp only
  split
  · exact hboth
  · exact hboth

theorem aside_cacheStateCapacities (r : LoadRequest) (w : World) :
    Aside w (cacheStateCapacities r w).1 := by
  unfold cacheStateCapacities
  dsimp only
  generalize hzero : w.setSession _ = w₀
  have hstart : Aside w w₀ := by
    rw [← hzero]
    exact aside_setSession w rfl rfl rfl rfl
  split
  · exact hstart
  have hfirst := hstart.trans (aside_cacheCapacity r 0 w₀)
  cases hresult : cacheCapacity r 0 w₀ with
  | mk w₁ error =>
    rw [hresult] at hfirst
    cases error with
    | some error => exact hfirst
    | none =>
      have hsecond := hfirst.trans (aside_cacheCapacity r 1 w₁)
      dsimp only
      cases hresult' : cacheCapacity r 1 w₁ with
      | mk w₂ error =>
        rw [hresult'] at hsecond
        cases error with
        | some error => exact hsecond
        | none =>
          exact (hsecond.trans (aside_callEngine w₂)).trans (aside_setSession _ rfl rfl rfl rfl)

/-- A step that leaves what the session holds. -/
theorem Building.aside {w' : World} (h : Building r (step :: rest) w) (haside : Aside w w')
    (hstep : step ≠ .createPair) (hown : ∀ machine, step ≠ .own machine) :
    Building r rest w' := by
  refine ⟨haside.sound h.sound, haside.engine.trans h.engine, (List.nodup_cons.mp h.nodup).2, ?_, ?_,
    ?_, ?_, ?_, ?_⟩
  · exact fun hmem => haside.compositePixels.trans (h.composite (List.mem_cons_of_mem _ hmem))
  · intro machine hmem
    rw [haside.roms]
    exact h.rom machine (List.mem_cons_of_mem _ hmem)
  · intro machine hdata
    rw [haside.roms] at hdata ⊢
    obtain ⟨b, slot, hpointer, hslot⟩ := h.held machine hdata
    exact ⟨b, slot, hpointer, (congrFun haside.blockOf slot).trans hslot⟩
  · intro machine hmem
    rw [haside.roms]
    exact h.owned machine (List.not_mem_cons_of_ne_of_not_mem (hown machine).symm hmem)
  · exact fun hmem => haside.pair.trans (h.pair (List.mem_cons_of_mem _ hmem))
  · intro hmem
    rw [haside.pair]
    exact h.paired (List.not_mem_cons_of_ne_of_not_mem hstep.symm hmem)

theorem building_composite (h : Building r (.composite :: rest) w) :
    let result := performLoad r .composite w
    (result.2 = none → Building r rest result.1) ∧ Sound result.1 := by
  have hfree : w.session.blockOf .composite = none := h.composite List.mem_cons_self
  unfold performLoad
  cases r.compositeMemory with
  | false =>
    have hupdate : Function.update w.session.blockOf .composite none = w.session.blockOf :=
      Function.update_eq_self_iff.mpr hfree.symm
    have hblocks : Session.blockOf { w.session with compositePixels := none } =
        Function.update w.session.blockOf .composite none := blockOf_setComposite rfl
    exact ⟨nofun, h.sound.congr (hblocks.trans hupdate) rfl rfl⟩
  | true =>
    have hblocks : Session.blockOf { w.session with compositePixels := some w.nextBlock } =
        Function.update w.session.blockOf .composite (some w.nextBlock) := blockOf_setComposite rfl
    have hsound := h.sound.allocate hfree hblocks rfl rfl
    refine ⟨fun _ => ⟨hsound, h.engine, (List.nodup_cons.mp h.nodup).2, ?_, ?_, ?_, ?_, ?_, ?_⟩,
      hsound⟩
    · exact fun hmem => absurd hmem (List.nodup_cons.mp h.nodup).1
    · exact fun machine hmem => h.rom machine (List.mem_cons_of_mem _ hmem)
    · intro machine hdata
      obtain ⟨b, slot, hpointer, hslot⟩ := h.held machine hdata
      refine ⟨b, slot, hpointer, (congrFun hblocks slot).trans ?_⟩
      rw [Function.update_of_ne, hslot]
      rintro rfl
      exact absurd (hfree.symm.trans hslot) nofun
    · intro machine hmem
      exact h.owned machine (List.not_mem_cons_of_ne_of_not_mem nofun hmem)
    · exact fun hmem => h.pair (List.mem_cons_of_mem _ hmem)
    · exact fun hmem => h.paired (List.not_mem_cons_of_ne_of_not_mem nofun hmem)

theorem building_own (h : Building r (.own machine :: rest) w) :
    let result := performLoad r (.own machine) w
    (result.2 = none → Building r rest result.1) ∧ Sound result.1 := by
  obtain ⟨hdata, hpath⟩ := h.rom machine List.mem_cons_self
  have hboth : let result := performLoad r (.own machine) w
      Sound result.1 ∧ (result.2 = none → OnlyRom machine w.session result.1.session ∧
        HeldBy result.1.session (result.1.session.roms machine).data) := by
    unfold performLoad
    dsimp only
    split
    · rename_i hsame
      obtain rfl := hsame.1
      -- the second machine takes what the first one has
      refine ownRom_spec h.sound hdata hpath _ _ _ _ ?_
      rintro ⟨other, hother, -, -, hsome, -⟩
      obtain rfl := Option.some.inj hother
      exact h.held 0 hsome
    · refine ownRom_spec h.sound hdata hpath _ _ _ _ ?_
      rintro ⟨other, hother, -⟩
      cases hother
  obtain ⟨hsound, hdone⟩ := hboth
  refine ⟨fun hnone => ?_, hsound⟩
  obtain ⟨honly, hheld⟩ := hdone hnone
  have hnotIn := (List.nodup_cons.mp h.nodup).1
  refine ⟨hsound, honly.engine.trans h.engine, (List.nodup_cons.mp h.nodup).2, ?_, ?_, ?_, ?_, ?_, ?_⟩
  · exact fun hmem => honly.compositePixels.trans (h.composite (List.mem_cons_of_mem _ hmem))
  · intro other hmem
    have hother : other ≠ machine := by
      rintro rfl
      exact hnotIn hmem
    rw [honly.others other hother]
    exact h.rom other (List.mem_cons_of_mem _ hmem)
  · intro other hsome
    by_cases hother : other = machine
    · rw [hother]
      exact hheld
    · rw [honly.others other hother] at hsome ⊢
      exact honly.heldBy (h.held other hsome)
  · intro other hmem
    by_cases hother : other = machine
    · obtain ⟨b, slot, hpointer, -⟩ := hheld
      rw [hother, hpointer]
      exact Option.some_ne_none _
    · rw [honly.others other hother]
      refine h.owned other (List.not_mem_cons_of_ne_of_not_mem ?_ hmem)
      exact fun heq => hother (LoadStep.own.inj heq)
  · exact fun hmem => honly.pair.trans (h.pair (List.mem_cons_of_mem _ hmem))
  · intro hmem
    rw [honly.pair]
    exact h.paired (List.not_mem_cons_of_ne_of_not_mem nofun hmem)

/-- A pair that `create_pair` made is the session's, whether it succeeded or not. -/
theorem building_createPair (h : Building r (.createPair :: rest) w) :
    let result := performLoad r .createPair w
    (result.2 = none → Building r rest result.1) ∧ Sound result.1 := by
  have hnone := h.pair List.mem_cons_self
  have hnotIn := (List.nodup_cons.mp h.nodup).1
  unfold performLoad
  dsimp only
  cases r.pairSet with
  | false =>
    simp only [Bool.false_eq_true, if_false]
    rw [if_pos (Or.inr hnone)]
    exact ⟨nofun, h.sound⟩
  | true =>
    simp only [if_true]
    have hheld : w.session.pairOf () = none := by
      unfold Session.pairOf
      rw [h.engine, hnone]
    have hfresh := h.sound.pairFresh r.engine w.nextPair (Nat.le_refl _)
    have hpairOf : Session.pairOf { w.session with pair := some w.nextPair } =
        Function.update w.session.pairOf () (some (r.engine, w.nextPair)) := by
      funext _
      rw [Function.update_self]
      unfold Session.pairOf
      dsimp only
      rw [h.engine]
    have hlife (engine : EngineOps) (p : Nat) (hp : p ≠ w.nextPair) :
        life (w.pairs ++ [.acquire (r.engine, w.nextPair)]) (engine, p) =
          life w.pairs (engine, p) :=
      life_snoc_of_ne w.pairs fun heq => hp (congrArg Prod.snd heq).symm
    have howner (engine : EngineOps)
        (hborn : life (w.pairs ++ [.acquire (r.engine, w.nextPair)]) (engine, w.nextPair) ≠
          .unborn) : engine = r.engine := by
      by_contra hne
      rw [life_snoc_of_ne w.pairs fun heq => hne (congrArg Prod.fst heq).symm] at hborn
      exact hborn (h.sound.pairFresh engine w.nextPair (Nat.le_refl _))
    have hsound : Sound
        { w with
          session := { w.session with pair := some w.nextPair }
          pairs := w.pairs ++ [.acquire (r.engine, w.nextPair)], nextPair := w.nextPair + 1 } := by
      refine ⟨h.sound.blocks, ?_, h.sound.blockFresh, ?_, ?_, ?_, h.sound.destroys⟩
      · show Ledger (Session.pairOf { w.session with pair := some w.nextPair }) _
        rw [hpairOf]
        exact h.sound.pairs.acquire hheld hfresh
      · intro engine p hp
        have hp : w.nextPair + 1 ≤ p := hp
        exact (hlife engine p (by omega)).trans (h.sound.pairFresh engine p (by omega))
      · intro engine engine' p hborn hborn'
        by_cases hp : p = w.nextPair
        · subst hp
          rw [howner engine hborn, howner engine' hborn']
        · exact h.sound.owner engine engine' p (hlife engine p hp ▸ hborn)
            (hlife engine' p hp ▸ hborn')
      · intro hengine
        exact absurd (h.engine.symm.trans hengine) (Option.some_ne_none _)
    split
    · exact ⟨nofun, hsound⟩
    · refine ⟨fun _ => ⟨hsound, h.engine, (List.nodup_cons.mp h.nodup).2, ?_, ?_, ?_, ?_, ?_, ?_⟩,
        hsound⟩
      · exact fun hmem => h.composite (List.mem_cons_of_mem _ hmem)
      · exact fun machine hmem => h.rom machine (List.mem_cons_of_mem _ hmem)
      · exact h.held
      · intro machine hmem
        exact h.owned machine (List.not_mem_cons_of_ne_of_not_mem nofun hmem)
      · exact fun hmem => absurd hmem hnotIn
      · exact fun _ => Option.some_ne_none _

/-- **One step of a load** keeps the books, and what it fills is held if it succeeds. -/
theorem building_step (h : Building r (step :: rest) w) :
    let result := performLoad r step w
    (result.2 = none → Building r rest result.1) ∧ Sound result.1 := by
  have hcalled := aside_callEngine w
  cases step with
  | composite => exact building_composite h
  | own machine => exact building_own h
  | createPair => exact building_createPair h
  | loadRom machine =>
    exact ⟨fun _ => h.aside hcalled nofun nofun, hcalled.sound h.sound⟩
  | setLink =>
    unfold performLoad
    dsimp only
    split
    · exact ⟨fun _ => h.aside hcalled nofun nofun, hcalled.sound h.sound⟩
    · exact ⟨fun _ => h.aside (aside_refl w) nofun nofun, h.sound⟩
  | capacities =>
    have hfigures := aside_cacheStateCapacities r w
    exact ⟨fun _ => h.aside hfigures nofun nofun, hfigures.sound h.sound⟩

/-- A load that fails leaves sound books, and one that succeeds everything held. -/
theorem building_untilFailure (steps : List LoadStep) (h : Building r steps w) :
    let result := untilFailure (performLoad r) steps w
    (firstError result.2 = none → Building r [] result.1) ∧ Sound result.1 := by
  rcases untilFailure_cases (performLoad r) steps w with ⟨hnone, hdone⟩ |
      ⟨before, step, after, w₁, error, rfl, hdone, hfailed, herror⟩
  · have hbuilt := hdone.invariant (Building r) [] (fun step rest w₁ w₂ hbuilding hperformed => by
      have hnext := (building_step hbuilding).1
      rw [hperformed] at hnext
      exact hnext rfl) ((List.append_nil steps).symm ▸ h)
    exact ⟨fun _ => hbuilt, hbuilt.sound⟩
  · have hbuilt := hdone.invariant (Building r) (step :: after)
      (fun step rest w₁ w₂ hbuilding hperformed => by
        have hnext := (building_step hbuilding).1
        rw [hperformed] at hnext
        exact hnext rfl) h
    have hsound := (building_step hbuilt).2
    rw [hfailed] at hsound
    exact ⟨fun hnone => absurd (herror.symm.trans hnone) nofun, hsound⟩

end Loading

/-! ## Calls -/

section Calls

variable {w : World}

/-- Between two calls a session is unloaded, or it has all that a loaded one needs. -/
structure Resting (w : World) : Prop where
  sound : Sound w
  unloaded : w.session.loaded = false → Unloaded w.session
  paired : w.session.loaded = true → w.session.pair ≠ none
  held : w.session.loaded = true → ∀ machine, HeldBy w.session (w.session.roms machine).data

theorem Unloaded.blockOf {s : Session} (h : Unloaded s) (slot : Slot) : s.blockOf slot = none := by
  cases slot with
  | composite => exact h.compositePixels
  | data machine => exact congrArg OwnedRom.ownedData (h.roms machine)
  | path machine => exact congrArg OwnedRom.ownedPath (h.roms machine)

theorem Unloaded.resting (h : Unloaded w.session) (hsound : Sound w) : Resting w :=
  ⟨hsound, fun _ => h, fun hloaded => absurd (h.loaded.symm.trans hloaded) Bool.false_ne_true,
    fun hloaded => absurd (h.loaded.symm.trans hloaded) Bool.false_ne_true⟩

/-- An engine is chosen for an unloaded session. -/
theorem Unloaded.building (h : Unloaded w.session) (hsound : Sound w) (r : LoadRequest)
    (hvalid : validArguments r.engine = true) :
    Building r loadSteps (w.setSession
      { w.session with engine := some r.engine, loadKind := r.loadKind }) := by
  have hpairOf : Session.pairOf { w.session with engine := some r.engine, loadKind := r.loadKind } =
      w.session.pairOf := by
    unfold Session.pairOf
    rw [h.engine, h.pair]
  have hdestroys : r.engine.destroyPair = true := by
    unfold validArguments at hvalid
    exact (Bool.and_eq_true_iff.mp hvalid).2
  have hsound' : Sound (w.setSession
      { w.session with engine := some r.engine, loadKind := r.loadKind }) := by
    refine ⟨hsound.blocks, hpairOf ▸ hsound.pairs, hsound.blockFresh, hsound.pairFresh, hsound.owner,
      nofun, fun engine hengine => ?_⟩
    obtain rfl := Option.some.inj hengine
    exact hdestroys
  refine ⟨hsound', rfl, by decide, fun _ => h.compositePixels, fun machine _ => ?_,
    fun machine hdata => ?_, fun machine hmem => ?_, fun _ => h.pair, fun hmem => ?_⟩
  · exact ⟨h.blockOf (.data machine), h.blockOf (.path machine)⟩
  · exact absurd (congrArg OwnedRom.data (h.roms machine)) hdata
  · refine absurd ?_ hmem
    match machine with
    | 0 => decide
    | 1 => decide
  · exact absurd (by decide) hmem

/-- **A load leaves a session loaded or fully unloaded.** -/
theorem resting_load (h : Resting w) (r : LoadRequest) :
    Resting (sessionLoad r w).1 ∧ (validArguments r.engine = true → (sessionLoad r w).2 ≠ none →
      Unloaded (sessionLoad r w).1.session) := by
  unfold sessionLoad
  by_cases hinvalid : validArguments r.engine = false
  · rw [if_pos hinvalid]
    exact ⟨h, fun hvalid => absurd (hinvalid.symm.trans hvalid) Bool.false_ne_true⟩
  rw [if_neg hinvalid]
  obtain ⟨hsound, hunloaded⟩ := h.sound.unload
  have hstart := hunloaded.building hsound r ((Bool.not_eq_false _).mp hinvalid)
  obtain ⟨hbuilt, hsound'⟩ := building_untilFailure loadSteps hstart
  dsimp only
  cases hresult : untilFailure (performLoad r) loadSteps ((sessionUnload w).setSession
      { (sessionUnload w).session with engine := some r.engine, loadKind := r.loadKind }) with
  | mk w' done =>
    rw [hresult] at hbuilt hsound'
    dsimp only
    cases herror : firstError done with
    | some error =>
      obtain ⟨hsound'', hunloaded'⟩ := Sound.unload hsound'
      exact ⟨hunloaded'.resting hsound'', fun _ _ => hunloaded'⟩
    | none =>
      have hbuilding := hbuilt herror
      have haside : Aside w' (w'.setSession
          { w'.session with linkEnabled := r.linkEnabled, loaded := true }) :=
        aside_setSession w' rfl rfl rfl rfl
      refine ⟨⟨haside.sound hbuilding.sound, nofun, fun _ => hbuilding.paired nofun,
        fun _ machine => ?_⟩, fun _ hne => absurd rfl hne⟩
      obtain ⟨b, slot, hpointer, hslot⟩ := hbuilding.held machine (hbuilding.owned machine nofun)
      exact ⟨b, slot, hpointer, (congrFun haside.blockOf slot).trans hslot⟩

/-- Calls of the engine, and figures, leave a session as it is held. -/
theorem Resting.aside {w' : World} (h : Resting w) (haside : Aside w w')
    (hloaded : w'.session.loaded = w.session.loaded)
    (hunloaded : Unloaded w.session → Unloaded w'.session) : Resting w' := by
  refine ⟨haside.sound h.sound, ?_, ?_, ?_⟩
  · exact fun hfalse => hunloaded (h.unloaded (hloaded.symm.trans hfalse))
  · intro htrue
    rw [haside.pair]
    exact h.paired (hloaded.symm.trans htrue)
  · intro htrue machine
    rw [haside.roms]
    obtain ⟨b, slot, hpointer, hslot⟩ := h.held (hloaded.symm.trans htrue) machine
    exact ⟨b, slot, hpointer, (congrFun haside.blockOf slot).trans hslot⟩

theorem resting_reset (h : Resting w) : Resting (sessionReset w) := by
  have hcalled : Resting w.callEngine := by
    refine h.aside (aside_callEngine w) (by rw [session_callEngine]) ?_
    rw [session_callEngine]
    exact id
  unfold sessionReset
  split
  · split
    · exact hcalled
    · exact h
  · exact h

/-- A link change that fails leaves the session as it was. -/
theorem resting_setLink (h : Resting w) (enabled : Bool) (linkError : Option String) :
    Resting (sessionSetLink enabled linkError w).1 ∧
      ((sessionSetLink enabled linkError w).2 ≠ none →
        (sessionSetLink enabled linkError w).1.session.linkEnabled = w.session.linkEnabled) := by
  have hsession := session_callEngine w
  have hcalled : Resting w.callEngine := by
    refine h.aside (aside_callEngine w) (by rw [hsession]) ?_
    rw [hsession]
    exact id
  unfold sessionSetLink
  split
  · exact ⟨h, fun _ => rfl⟩
  · rename_i engine hengine
    split
    · exact ⟨h, fun _ => rfl⟩
    · rename_i hactive
      have hloaded : w.callEngine.session.loaded = true := by
        rw [hsession]
        exact (Bool.not_eq_false _).mp fun hfalse => hactive (Or.inl hfalse)
      dsimp only
      cases linkError with
      | some error => exact ⟨hcalled, fun _ => by rw [hsession]⟩
      | none =>
        refine ⟨hcalled.aside (aside_setSession _ rfl rfl rfl rfl) rfl fun hunloaded => ?_,
          fun hne => absurd rfl hne⟩
        exact absurd (hunloaded.loaded.symm.trans hloaded) Bool.false_ne_true

/-- **One call keeps the books.** -/
theorem resting_step (w : World) (call : SessionCall) (h : Resting w) :
    Resting (sessionStep w call) := by
  cases call with
  | load request => exact (resting_load h request).1
  | unload =>
    obtain ⟨hsound, hunloaded⟩ := h.sound.unload
    exact hunloaded.resting hsound
  | reset => exact resting_reset h
  | setLink enabled linkError => exact (resting_setLink h enabled linkError).1

theorem resting_initialWorld : Resting initialWorld := by
  have hunloaded : Unloaded initialWorld.session :=
    ⟨rfl, rfl, fun _ => rfl, rfl, fun _ => rfl, rfl, rfl, rfl, rfl⟩
  refine hunloaded.resting ⟨⟨.nil, fun b => iff_of_false nofun ?_, ?_⟩,
    ⟨.nil, fun r => iff_of_false nofun ?_, ?_⟩, fun _ _ => rfl, fun _ _ _ => rfl,
    fun _ _ _ h => absurd rfl h, fun _ => rfl, nofun⟩
  · rintro ⟨slot, hslot⟩
    exact absurd ((hunloaded.blockOf slot).symm.trans hslot) nofun
  · intro b slot slot' hslot
    exact absurd ((hunloaded.blockOf slot).symm.trans hslot) nofun
  · rintro ⟨i, hi⟩
    cases hi
  · intro r i j hi
    cases hi

theorem pairOf_eq_some {s : Session} {engine : EngineOps} {p : Nat} :
    (∃ i, s.pairOf i = some (engine, p)) ↔ s.engine = some engine ∧ s.pair = some p := by
  unfold Session.pairOf
  constructor
  · rintro ⟨-, h⟩
    split at h
    · rename_i engine' p' hengine hpair
      obtain ⟨rfl, rfl⟩ := Prod.mk.inj (Option.some.inj h)
      exact ⟨hengine, hpair⟩
    · cases h
  · rintro ⟨hengine, hpair⟩
    refine ⟨(), ?_⟩
    rw [hengine, hpair]

/-- **The lifecycle of a session**, behind any calls: a pair that an engine made is the session's or
was destroyed once, by that engine, and nothing happened to it afterwards; a block is held or was
freed once; a loaded session holds the data of both its machines; and then an unload, or a load that
fails, leaves nothing, and a link change that fails leaves the link as it was. -/
theorem session_lifecycle (calls : List SessionCall) :
    let w := run sessionStep initialWorld calls
    (∀ engine p, .acquire (engine, p) ∈ w.pairs →
      ((w.session.engine = some engine ∧ w.session.pair = some p) ∧
          w.pairs.count (.release (engine, p)) = 0 ∨
        ¬(w.session.engine = some engine ∧ w.session.pair = some p) ∧
          w.pairs.count (.release (engine, p)) = 1) ∧
      ∀ engine', .release (engine', p) ∈ w.pairs → engine' = engine) ∧
    (∀ front engine p back, w.pairs = front ++ .release (engine, p) :: back →
      ∀ e ∈ back, e.resource.2 ≠ p) ∧
    Proper w.pairs ∧ Proper w.blocks ∧
    (∀ b, .acquire b ∈ w.blocks →
      (∃ slot, w.session.blockOf slot = some b) ∧ w.blocks.count (.release b) = 0 ∨
        ¬(∃ slot, w.session.blockOf slot = some b) ∧ w.blocks.count (.release b) = 1) ∧
    (w.session.loaded = true → ∀ machine, HeldBy w.session (w.session.roms machine).data) ∧
    (w.session.loaded = false → Unloaded w.session) ∧
    Unloaded (sessionUnload w).session ∧
    (∀ request, validArguments request.engine = true → (sessionLoad request w).2 ≠ none →
      Unloaded (sessionLoad request w).1.session) ∧
    ∀ enabled linkError, (sessionSetLink enabled linkError w).2 ≠ none →
      (sessionSetLink enabled linkError w).1.session.linkEnabled = w.session.linkEnabled := by
  intro w
  have h : Resting w := run_invariant resting_step calls resting_initialWorld
  have hproper := h.sound.pairs.proper
  refine ⟨fun engine p hmem => ⟨?_, fun engine' hreleased => ?_⟩, ?_, hproper,
    h.sound.blocks.proper, fun b hmem => h.sound.blocks.count_release hmem, h.held, h.unloaded,
    h.sound.unload.2, fun request => (resting_load h request).2,
    fun enabled linkError => (resting_setLink h enabled linkError).2⟩
  · rw [← pairOf_eq_some]
    exact h.sound.pairs.count_release hmem
  · exact h.sound.owner engine' engine p (hproper.born hreleased) (hproper.born hmem)
  · rintro front engine p back hlog e hback rfl
    have hreleased : LifeEvent.release (engine, e.resource.2) ∈ w.pairs := by
      rw [hlog]
      exact List.mem_append_right _ List.mem_cons_self
    have hlater : e ∈ w.pairs := by
      rw [hlog]
      exact List.mem_append_right _ (List.mem_cons_of_mem _ hback)
    have hengine : e.resource.1 = engine :=
      h.sound.owner e.resource.1 engine e.resource.2 (hproper.born hlater) (hproper.born hreleased)
    refine (hproper.nothing_after (engine, e.resource.2) front back hlog).2 e hback ?_
    rw [← hengine]

end Calls

end DualBoy.Frontend.Lifecycle
