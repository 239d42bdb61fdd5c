import DualBoy.Engine

/-!
# The machines the lockstep scheduler drives

The emulated clock (`_cycleDelta` and its neighbours in `mgba_lockstep.c`), the SIO modes, and the
part of one GBA the lockstep driver reads and writes. What the driver takes from mGBA itself
(`mTiming`, the SIO bit fields, `GBASIOTransferCycles`) is not part of the repository: it is the
class `Mgba`, whose fields are the operations the driver calls and what it relies on.
-/

namespace DualBoy.Lockstep

/-! ## Clock arithmetic

Timestamps are `int32_t` counters that wrap. They are kept as bit patterns; an order between two of
them is read off the sign of their modular difference. -/

/-- An emulated time or a delay, `int32_t`. -/
abbrev Cycle := BitVec 32

def int32Max : Cycle := 0x7fffffff#32

def int32Min : Cycle := 0x80000000#32

/-- `LOCKSTEP_INTERVAL`. -/
def lockstepInterval : Cycle := 4096#32

/-- `UNLOCKED_INTERVAL`. -/
def unlockedInterval : Cycle := 4096#32

/-- `HARD_SYNC_INTERVAL`. -/
def hardSyncInterval : Cycle := 0x80000#32

/-- `_cycleFromBits`. -/
def cycleFromBits (value : BitVec 32) : Cycle :=
  if value.toNat ≤ int32Max.toNat then value
  else (-1#32) - (0xffffffff#32 - value)

/-- `_cycleDelta`. -/
def cycleDelta (later earlier : Cycle) : Cycle :=
  cycleFromBits (later - earlier)

/-- `_cycleAdd`. -/
def cycleAdd (cycle offset : Cycle) : Cycle :=
  cycleFromBits (cycle + offset)

/-- `_delayAddSaturated`: the sum in 64 bits, clamped to `int32_t`. -/
def delayAddSaturated (delay adjustment : Cycle) : Cycle :=
  let result := delay.toInt + adjustment.toInt
  if int32Max.toInt < result then int32Max
  else if result < int32Min.toInt then int32Min
  else BitVec.ofInt 32 result

/-- `_delayAfterLateness`. -/
def delayAfterLateness (delay : Cycle) (cyclesLate : BitVec 32) : Cycle :=
  if delay.toInt ≤ 0 ∨ delay.toNat ≤ cyclesLate.toNat then 0#32
  else delay - cyclesLate

/-- `_sanitizeDelay`: a delay that is not positive becomes one cycle. -/
def sanitizeDelay (delay : Cycle) : Cycle :=
  if 0 < delay.toInt then delay else 1#32

/-- The signed reading of the bits is the bits. -/
@[simp] theorem cycleFromBits_eq (value : BitVec 32) : cycleFromBits value = value := by
  unfold cycleFromBits
  split
  · rfl
  · bv_omega

theorem cycleDelta_eq (later earlier : Cycle) : cycleDelta later earlier = later - earlier :=
  cycleFromBits_eq _

/-! ## SIO modes -/

/-- `enum GBASIOMode`; `none` is the `-1` the driver stores for a player it knows nothing of. -/
inductive Mode where
  | none
  | normal8
  | normal32
  | multi
  | uart
  | gpio
  | joybus
  deriving DecidableEq, Repr

/-! ## mGBA -/

/-- The two timing events of a machine: the driver's `event` and the SIO's `completeEvent`. -/
inductive TimingEvent where
  | lockstep
  | complete
  deriving DecidableEq, Repr

/-- The operations of mGBA the driver calls. Scheduling and descheduling an event do not move a
machine's clock. -/
class Mgba where
  /-- A machine's `struct mTiming` with the events queued on it. -/
  Timing : Type
  /-- `mTimingCurrentTime`. -/
  currentTime : Timing → Cycle
  /-- `mTimingIsScheduled`. -/
  isScheduled : Timing → TimingEvent → Bool
  /-- The event's `when` field. -/
  eventWhen : Timing → TimingEvent → Cycle
  /-- `mTimingSchedule`. -/
  schedule : Timing → TimingEvent → Cycle → Timing
  /-- `mTimingDeschedule`. -/
  deschedule : Timing → TimingEvent → Timing
  currentTime_schedule : ∀ t e d, currentTime (schedule t e d) = currentTime t
  currentTime_deschedule : ∀ t e, currentTime (deschedule t e) = currentTime t
  /-- `GBASIOTransferCycles`. -/
  transferCycles : Mode → BitVec 16 → Int → Cycle
  /-- `GBASIOMultiplayerSetReady`. -/
  multiplayerSetReady : BitVec 16 → Bool → BitVec 16
  /-- `GBASIOMultiplayerClearSlave`. -/
  multiplayerClearSlave : BitVec 16 → BitVec 16
  /-- `GBASIOMultiplayerSetId`. -/
  multiplayerSetId : BitVec 16 → Int → BitVec 16
  /-- `GBASIOMultiplayerSetSlave`. -/
  multiplayerSetSlave : BitVec 16 → Bool → BitVec 16
  /-- `GBASIORegisterRCNTSetSd`. -/
  rcntSetSd : BitVec 16 → Bool → BitVec 16

attribute [simp] Mgba.currentTime_schedule Mgba.currentTime_deschedule

/-- What the driver sees of one GBA. -/
structure Gba [Mgba] where
  timing : Mgba.Timing
  /-- `sio->mode`. -/
  mode : Mode
  siocnt : BitVec 16
  rcnt : BitVec 16
  /-- `memory.io[GBA_REG(SIOMLT_SEND)]`. -/
  siomltSend : BitVec 16
  /-- `memory.io[GBA_REG(SIODATA8)]`. -/
  siodata8 : BitVec 16
  /-- `memory.io[GBA_REG(SIODATA32_LO)]`. -/
  siodata32Lo : BitVec 16
  /-- `memory.io[GBA_REG(SIODATA32_HI)]`. -/
  siodata32Hi : BitVec 16
  /-- `cpu->nextEvent`. -/
  cpuNextEvent : Cycle
  earlyExit : Bool

section Gba

variable [Mgba]

/-- `mTimingCurrentTime(&gba->timing)`. -/
def Gba.now (g : Gba) : Cycle :=
  Mgba.currentTime g.timing

/-- `mTimingSchedule` on this machine. -/
def Gba.schedule (g : Gba) (e : TimingEvent) (delay : Cycle) : Gba :=
  { g with timing := Mgba.schedule g.timing e delay }

/-- `mTimingDeschedule` on this machine. -/
def Gba.deschedule (g : Gba) (e : TimingEvent) : Gba :=
  { g with timing := Mgba.deschedule g.timing e }

/-- The two assignments that make the machine yield: `cpu->nextEvent = 0; earlyExit = true`. -/
def Gba.yield (g : Gba) : Gba :=
  { g with cpuNextEvent := 0, earlyExit := true }

@[simp] theorem Gba.now_schedule (g : Gba) (e : TimingEvent) (d : Cycle) :
    (g.schedule e d).now = g.now := Mgba.currentTime_schedule _ _ _

@[simp] theorem Gba.now_deschedule (g : Gba) (e : TimingEvent) : (g.deschedule e).now = g.now :=
  Mgba.currentTime_deschedule _ _

@[simp] theorem Gba.now_yield (g : Gba) : g.yield.now = g.now := rfl

/-- The register `_setData` reads in a mode, as it stores it. -/
def Gba.sioWord (g : Gba) : Mode → Option (BitVec 32)
  | .multi => some (g.siomltSend.setWidth 32)
  | .normal8 => some (g.siodata8.setWidth 32)
  | .normal32 => some (g.siodata32Lo.setWidth 32 ||| (g.siodata32Hi.setWidth 32 <<< 16))
  | _ => none

end Gba

/-! ## A plain machine

A timing that is nothing but its clock and the two events, with mGBA's bit fields and transfer
times; what is said of every machine can be tried on it. -/

structure PlainTiming where
  now : Cycle
  /-- When the lockstep event is due, if it is scheduled. -/
  lockstep : Option Cycle
  /-- When the transfer completes, if that is scheduled. -/
  complete : Option Cycle
  deriving DecidableEq, Repr

namespace PlainTiming

def event (t : PlainTiming) : TimingEvent → Option Cycle
  | .lockstep => t.lockstep
  | .complete => t.complete

def setEvent (t : PlainTiming) (e : TimingEvent) (due : Option Cycle) : PlainTiming :=
  match e with
  | .lockstep => { t with lockstep := due }
  | .complete => { t with complete := due }

end PlainTiming

/-- `value` with the bits of `mask` set or cleared. -/
def assignBits (value mask : BitVec 16) (set : Bool) : BitVec 16 :=
  if set then value ||| mask else value &&& ~~~mask

/-- The cycles of a transfer with one other machine connected. -/
def plainTransferCycles (mode : Mode) (siocnt : BitVec 16) : Cycle :=
  match mode with
  | .multi => [63427#32, 16241#32, 10998#32, 5755#32].getD (siocnt &&& 3#16).toNat 0#32
  | .normal8 => if siocnt &&& 1#16 = 0 then 512#32 else 64#32
  | .normal32 => if siocnt &&& 1#16 = 0 then 2048#32 else 256#32
  | _ => 0#32

@[reducible] def plainMgba : Mgba where
  Timing := PlainTiming
  currentTime t := t.now
  isScheduled t e := (t.event e).isSome
  eventWhen t e := (t.event e).getD 0
  schedule t e delay := t.setEvent e (some (t.now + delay))
  deschedule t e := t.setEvent e none
  currentTime_schedule t e d := by cases e <;> rfl
  currentTime_deschedule t e := by cases e <;> rfl
  transferCycles mode siocnt _ := plainTransferCycles mode siocnt
  multiplayerSetReady siocnt ready := assignBits siocnt 8#16 ready
  multiplayerClearSlave siocnt := assignBits siocnt 4#16 false
  multiplayerSetId siocnt id := (siocnt &&& ~~~0x30#16) ||| (BitVec.ofInt 16 id <<< 4)
  multiplayerSetSlave siocnt slave := assignBits siocnt 4#16 slave
  rcntSetSd rcnt sd := assignBits rcnt 2#16 sd

/-- A plain machine in a mode at a time, with a word to send. -/
def plainGba (mode : Mode) (now : Cycle) (siomltSend : BitVec 16) : @Gba plainMgba :=
  letI := plainMgba
  { timing := { now, lockstep := none, complete := none }
    mode
    siocnt := 0
    rcnt := 0
    siomltSend
    siodata8 := 0
    siodata32Lo := 0
    siodata32Hi := 0
    cpuNextEvent := 0
    earlyExit := false }

end DualBoy.Lockstep
