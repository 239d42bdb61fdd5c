import DualBoy.Engine
import DualBoy.Lib.Run

/-!
# Receiving from the host

`MPRecvHostPacket` and `MPSendPacket` as the two workers run them inside a frame, by their accesses
to the flags, with `RunFrame` handing out the frames. `local_mp` is a queue for each receiver:
sending appends to the peer's, receiving takes the first of the own. `MPSendCmd` and `MPSendAck`,
which have the same guards, are sends like `MPSendPacket`.

* `Stands`: where a worker may be, by its flags, its queue and its peer.
* `TurnsAway`: the guards that answer a call before it looks into the queue.
* **`host_receive_budget`**.
-/

namespace DualBoy.Nds

open DualBoy.Lib

universe u

/-! ## States -/

/-- What `MPRecvHostPacket` returns. -/
inductive Received (P : Type u) where
  /-- 0, the receiver not being registered or the frame being abandoned -/
  | refused
  /-- -1, the peer not being registered -/
  | noHost
  /-- the packet's length, which is not 0 -/
  | packet (p : P)
  /-- 0 -/
  | nothing
  deriving DecidableEq, Repr

/-- The next access of a worker. -/
inductive ReceivePoint (P : Type u) where
  /-- waits for a frame -/
  | resting
  /-- in the frame, and in neither call -/
  | running
  | sendRegistered (p : P)
  | sendAbort (p : P)
  | send (p : P)
  | registered
  | abort
  | peerRegistered
  | probe
  | peerActive
  | finalProbe
  | waitAvailable
  /-- in `RecvHostPacket` -/
  | blocked
  /-- returns from `MPRecvHostPacket`; `finished` if it has seen the peer's frame finished -/
  | returning (result : Received P) (finished : Bool)
  /-- `ExecuteMachine` has returned -/
  | frameActive
  /-- is about to count as completed -/
  | completing
  deriving DecidableEq, Repr

/-- The worker has a frame and has not finished it. -/
def ReceivePoint.inFrame {P : Type u} : ReceivePoint P → Bool
  | .resting | .completing => false
  | _ => true

/-- The call has not yet looked into the queue. -/
def ReceivePoint.beforeProbe {P : Type u} : ReceivePoint P → Bool
  | .registered | .abort | .peerRegistered | .probe => true
  | _ => false

/-- The call has found the queue empty. -/
def ReceivePoint.afterProbe {P : Type u} : ReceivePoint P → Bool
  | .peerActive | .finalProbe | .waitAvailable | .blocked => true
  | _ => false

/-- A worker with its machine's flags and its queue. -/
structure Receiver (P : Type u) where
  mpRegistered : Bool
  workerFrameActive : Bool
  hostReceiveWaitAvailable : Bool
  queue : List P
  point : ReceivePoint P
  /-- What was sent to this machine, and what it has received. Nothing reads it. -/
  sent : List P
  received : List P
  /-- How often it has called `RecvHostPacket` in this frame, and in this call. -/
  waits : Nat
  waitsInCall : Nat
  /-- The first packet of the queue when this call began. -/
  first : Option P
  /-- What it had sent to its peer when it last finished a frame. -/
  sentBefore : List P

/-- The pair, as far as packets are concerned. -/
structure Channel (P : Type u) where
  abortRequested : Bool
  worker : Fin 2 → Receiver P

/-- `peer_id`. -/
def peer (m : Fin 2) : Fin 2 := if m = 0 then 1 else 0

namespace Channel

variable {P : Type u}

/-- A pair that was just created. -/
def start : Channel P where
  abortRequested := false
  worker := fun _ =>
    { mpRegistered := false, workerFrameActive := false, hostReceiveWaitAvailable := false,
      queue := [], point := .resting, sent := [], received := [], waits := 0, waitsInCall := 0,
      first := none, sentBefore := [] }

def withWorker (s : Channel P) (m : Fin 2) (worker : Receiver P) : Channel P :=
  { s with worker := fun m' => if m' = m then worker else s.worker m' }

/-! ## `local_mp` -/

/-- `SendPacket`. -/
def sendPacket (s : Channel P) (m : Fin 2) (p : P) : Channel P :=
  s.withWorker (peer m)
    { s.worker (peer m) with
      queue := (s.worker (peer m)).queue ++ [p]
      sent := (s.worker (peer m)).sent ++ [p] }

/-- `RecvPacket`, and where the receiver goes with its packet or without one. -/
def recvPacket (w : Receiver P) (finished : Bool) (empty : ReceivePoint P) : Receiver P :=
  match w.queue with
  | [] => { w with point := empty }
  | p :: queue =>
    { w with queue, received := w.received ++ [p], point := .returning (.packet p) finished }

/-! ## Steps -/

/-- The next access of a worker inside a call, or at the end of its frame. -/
def goOn (s : Channel P) (m : Fin 2) : Channel P :=
  let w := s.worker m
  match w.point with
  | .resting | .running => s
  | .sendRegistered p =>
    s.withWorker m { w with point := if w.mpRegistered then .sendAbort p else .running }
  | .sendAbort p =>
    s.withWorker m { w with point := if s.abortRequested then .running else .send p }
  | .send p => (s.withWorker m { w with point := .running }).sendPacket m p
  | .registered =>
    s.withWorker m
      { w with point := if w.mpRegistered then .abort else .returning .refused false }
  | .abort =>
    s.withWorker m
      { w with point := if s.abortRequested then .returning .refused false else .peerRegistered }
  | .peerRegistered =>
    s.withWorker m
      { w with
        point :=
          if (s.worker (peer m)).mpRegistered then .probe else .returning .noHost false }
  | .probe => s.withWorker m (recvPacket w false .peerActive)
  | .peerActive =>
    s.withWorker m
      { w with
        point := if (s.worker (peer m)).workerFrameActive then .waitAvailable else .finalProbe }
  | .finalProbe => s.withWorker m (recvPacket w true (.returning .nothing true))
  | .waitAvailable =>
    -- the exchange, and the call of `RecvHostPacket` if it was available
    if w.hostReceiveWaitAvailable then
      s.withWorker m
        { w with
          hostReceiveWaitAvailable := false
          point := .blocked
          waits := w.waits + 1
          waitsInCall := w.waitsInCall + 1 }
    else s.withWorker m { w with point := .returning .nothing false }
  | .blocked => s.withWorker m (recvPacket w false .blocked)
  | .returning _ _ => s.withWorker m { w with point := .running }
  | .frameActive =>
    s.withWorker m
      { w with
        workerFrameActive := false
        point := .completing
        sentBefore := (s.worker (peer m)).sent }
  | .completing => s.withWorker m { w with point := .resting }

/-- `RunFrame` hands out a frame: both workers have completed the last one. -/
def runFrame (s : Channel P) : Channel P :=
  { s with
    abortRequested := false
    worker := fun m =>
      { s.worker m with
        workerFrameActive := true
        hostReceiveWaitAvailable := true
        point := .running
        waits := 0 } }

/-- What happens next. -/
inductive ChannelAction (P : Type u) where
  | runFrame
  /-- The machine's code calls `MPSendPacket`. -/
  | mpSendPacket (m : Fin 2) (p : P)
  /-- The machine's code calls `MPRecvHostPacket`. -/
  | mpRecvHostPacket (m : Fin 2)
  /-- `ExecuteMachine` returns. -/
  | finish (m : Fin 2)
  | goOn (m : Fin 2)
  /-- `RecvHostPacket` waits no longer. -/
  | expire (m : Fin 2)
  /-- Some thread stores to `mp_registered` or to `abort_requested`. -/
  | register (m : Fin 2) (registered : Bool)
  | abort (requested : Bool)

/-- One step; what no thread has come to does nothing. -/
def step (s : Channel P) : ChannelAction P → Channel P
  | .runFrame =>
    match (s.worker 0).point, (s.worker 1).point with
    | .resting, .resting => s.runFrame
    | _, _ => s
  | .mpSendPacket m p =>
    match (s.worker m).point with
    | .running => s.withWorker m { s.worker m with point := .sendRegistered p }
    | _ => s
  | .mpRecvHostPacket m =>
    match (s.worker m).point with
    | .running =>
      s.withWorker m
        { s.worker m with
          point := .registered
          waitsInCall := 0
          first := (s.worker m).queue.head? }
    | _ => s
  | .finish m =>
    match (s.worker m).point with
    | .running => s.withWorker m { s.worker m with point := .frameActive }
    | _ => s
  | .goOn m => s.goOn m
  | .expire m =>
    match (s.worker m).point with
    | .blocked => s.withWorker m { s.worker m with point := .returning .nothing false }
    | _ => s
  | .register m registered => s.withWorker m { s.worker m with mpRegistered := registered }
  | .abort requested => { s with abortRequested := requested }

/-! ## Where a worker may be -/

/-- What holds of a worker and its peer. -/
structure Stands (w w' : Receiver P) : Prop where
  fifo : w.sent = w.received ++ w.queue
  active_iff : w.workerFrameActive = true ↔ w.point.inFrame = true
  waits_le : w.waits ≤ 1
  /-- The budget is unspent while it is available. -/
  budget : w.hostReceiveWaitAvailable = true → w.waits = 0
  queued : w.point.beforeProbe = true → w.waitsInCall = 0 ∧
    ∀ p, w.first = some p → w.queue.head? = some p
  found : w.point.afterProbe = true → w.first = none
  returned : ∀ result finished p, w.point = .returning result finished → w.first = some p →
    (result = .packet p ∨ result = .refused ∨ result = .noHost) ∧ w.waitsInCall = 0
  /-- A peer seen finished stays so, and sends nothing. -/
  ended : w.point = .finalProbe ∨ (∃ result, w.point = .returning result true) →
    w'.workerFrameActive = false
  emptied : w.point = .returning .nothing true → w.queue = []
  sentBefore : w'.workerFrameActive = false → w'.sentBefore = w.sent

/-- What holds in every state. -/
def Inv (s : Channel P) : Prop :=
  ∀ m, Stands (s.worker m) (s.worker (peer m))

variable {s : Channel P} {m : Fin 2} {w w' w'' : Receiver P}

theorem peer_peer (m : Fin 2) : peer (peer m) = m := by
  revert m
  decide

theorem peer_ne (m : Fin 2) : peer m ≠ m := by
  revert m
  decide

theorem eq_or_eq_peer (m m' : Fin 2) : m' = m ∨ m' = peer m := by
  revert m m'
  decide

@[simp] theorem withWorker_same : (s.withWorker m w).worker m = w := if_pos rfl

@[simp] theorem withWorker_peer : (s.withWorker m w).worker (peer m) = s.worker (peer m) :=
  if_neg (peer_ne m)

/-- Of its peer a worker knows whether it has finished, and what it had sent by then. -/
theorem Stands.congr (h : Stands w w') (hactive : w''.workerFrameActive = w'.workerFrameActive)
    (hsent : w''.sentBefore = w'.sentBefore) : Stands w w'' :=
  { h with
    ended := by rw [hactive]; exact h.ended
    sentBefore := by rw [hactive, hsent]; exact h.sentBefore }

/-- A worker's access that its peer does not see. -/
theorem Inv.aside (h : Inv s) (hw : Stands (s.worker m) (s.worker (peer m)) →
      Stands w (s.worker (peer m)))
    (hactive : w.workerFrameActive = (s.worker m).workerFrameActive)
    (hsent : w.sentBefore = (s.worker m).sentBefore) : Inv (s.withWorker m w) := by
  intro m'
  rcases eq_or_eq_peer m m' with rfl | rfl
  · rw [withWorker_same, withWorker_peer]
    exact hw (h m')
  · have hpeer := h (peer m)
    rw [peer_peer] at hpeer ⊢
    rw [withWorker_same, withWorker_peer]
    exact hpeer.congr hactive hsent

/-- A worker goes to another point of its frame, and knows there what it must. -/
theorem Stands.moved (h : Stands w w') (hin : w.point.inFrame = true) {point : ReceivePoint P}
    (hin' : point.inFrame = true) (hbefore : point.beforeProbe = true → w.point.beforeProbe = true)
    (hafter : point.afterProbe = true → w.first = none)
    (hreturning : ∀ result finished p, point = .returning result finished → w.first = some p →
      (result = .refused ∨ result = .noHost) ∧ w.waitsInCall = 0)
    (hover : point = .finalProbe ∨ (∃ result, point = .returning result true) →
      w'.workerFrameActive = false)
    (hempty : point = .returning .nothing true → w.queue = []) : Stands { w with point } w' where
  fifo := h.fifo
  active_iff := h.active_iff.trans (iff_of_true hin hin')
  waits_le := h.waits_le
  budget := h.budget
  queued hpoint := h.queued (hbefore hpoint)
  found := hafter
  returned result finished p hpoint hfirst := by
    obtain ⟨hresult, hwaits⟩ := hreturning result finished p hpoint hfirst
    exact ⟨Or.inr hresult, hwaits⟩
  ended := hover
  emptied := hempty
  sentBefore := h.sentBefore

/-- A call is turned away before it looks into the queue. -/
theorem Stands.turnedAway (h : Stands w w') (hbefore : w.point.beforeProbe = true)
    {result : Received P} (hresult : result = .refused ∨ result = .noHost) :
    Stands { w with point := .returning result false } w' := by
  have hin : w.point.inFrame = true := by
    cases hpoint : w.point <;> first | rfl | (rw [hpoint] at hbefore; cases hbefore)
  refine h.moved hin rfl nofun nofun ?_ ?_ ?_
  · rintro result' finished p heq -
    obtain ⟨rfl, -⟩ := ReceivePoint.returning.inj heq
    exact ⟨hresult, (h.queued hbefore).1⟩
  · rintro (heq | ⟨result', heq⟩)
    · cases heq
    · cases (ReceivePoint.returning.inj heq).2
  · intro heq
    cases (ReceivePoint.returning.inj heq).2

/-- A call that found the queue empty returns without a packet. -/
theorem Stands.nothing (h : Stands w w') (hafter : w.point.afterProbe = true) {finished : Bool}
    (hover : finished = true → w'.workerFrameActive = false ∧ w.queue = []) :
    Stands { w with point := .returning .nothing finished } w' := by
  have hin : w.point.inFrame = true := by
    cases hpoint : w.point <;> first | rfl | (rw [hpoint] at hafter; cases hafter)
  have hfirst := h.found hafter
  refine h.moved hin rfl nofun nofun ?_ ?_ ?_
  · rintro result finished' p - hp
    rw [hfirst] at hp
    cases hp
  · rintro (heq | ⟨result', heq⟩)
    · cases heq
    · exact (hover (ReceivePoint.returning.inj heq).2).1
  · intro heq
    exact (hover (ReceivePoint.returning.inj heq).2).2

/-- A receive takes the packet that was first when the call began. -/
theorem Stands.recvPacket (h : Stands w w') (hin : w.point.inFrame = true)
    {finished : Bool} {empty : ReceivePoint P}
    (hempty : w.queue = [] → Stands { w with point := empty } w')
    (hfirst : ∀ p, w.first = some p → w.queue.head? = some p ∧ w.waitsInCall = 0)
    (hover : finished = true → w'.workerFrameActive = false) :
    Stands (Channel.recvPacket w finished empty) w' := by
  unfold Channel.recvPacket
  cases hqueue : w.queue with
  | nil =>
    have hstands := hempty hqueue
    simpa only [hqueue] using hstands
  | cons p queue =>
    exact
      { fifo := by rw [h.fifo, hqueue, List.append_assoc, List.singleton_append]
        active_iff := h.active_iff.trans (iff_of_true hin rfl)
        waits_le := h.waits_le
        budget := h.budget
        queued := nofun
        found := nofun
        returned := by
          intro result finished' p' hpoint hfirst'
          obtain ⟨hhead, hwaits⟩ := hfirst p' hfirst'
          rw [hqueue, List.head?_cons, Option.some.injEq] at hhead
          obtain ⟨rfl, -⟩ := ReceivePoint.returning.inj hpoint
          exact ⟨Or.inl (by rw [hhead]), hwaits⟩
        ended := by
          rintro (hpoint | ⟨result, hpoint⟩)
          · cases hpoint
          · exact hover (ReceivePoint.returning.inj hpoint).2
        emptied := nofun
        sentBefore := h.sentBefore }

/-! ## Steps -/

theorem recvPacket_active (w : Receiver P) (finished : Bool) (empty : ReceivePoint P) :
    (recvPacket w finished empty).workerFrameActive = w.workerFrameActive := by
  unfold recvPacket
  split <;> rfl

theorem recvPacket_sentBefore (w : Receiver P) (finished : Bool) (empty : ReceivePoint P) :
    (recvPacket w finished empty).sentBefore = w.sentBefore := by
  unfold recvPacket
  split <;> rfl

theorem Inv.sendPacket (h : Inv s) (hin : (s.worker m).point.inFrame = true) (p : P) :
    Inv (s.sendPacket m p) := by
  have hactive : (s.worker m).workerFrameActive = true := (h m).active_iff.mpr hin
  refine h.aside ?_ rfl rfl
  rw [peer_peer]
  intro hpeer
  -- the sender is in its frame, so its peer has not seen it finished
  have hnotOver : ¬((s.worker (peer m)).point = .finalProbe ∨
      ∃ result, (s.worker (peer m)).point = .returning result true) := by
    intro hover
    exact Bool.false_ne_true ((hpeer.ended hover).symm.trans hactive)
  exact
    { hpeer with
      fifo := by
        dsimp only
        rw [hpeer.fifo, List.append_assoc]
      queued := by
        intro hbefore
        obtain ⟨hwaits, hfirst⟩ := hpeer.queued hbefore
        refine ⟨hwaits, fun q hq => ?_⟩
        rw [List.head?_append, hfirst q hq]
        rfl
      emptied := fun hpoint => absurd (Or.inr ⟨_, hpoint⟩) hnotOver
      sentBefore := fun hfinished => absurd (hfinished.symm.trans hactive) Bool.false_ne_true }

/-- A worker finishes its frame. -/
theorem Inv.finished (h : Inv s) (hpoint : (s.worker m).point = .frameActive) :
    Inv (s.withWorker m
      { s.worker m with
        workerFrameActive := false
        point := .completing
        sentBefore := (s.worker (peer m)).sent }) := by
  intro m'
  rcases eq_or_eq_peer m m' with rfl | rfl
  · rw [withWorker_same, withWorker_peer]
    obtain ⟨h1, h2, h3, h4, h5, h6, h7, h8, h9, h10⟩ := h m'
    exact
      { fifo := h1
        active_iff := iff_of_false nofun nofun
        waits_le := h3
        budget := h4
        queued := nofun
        found := nofun
        returned := nofun
        ended := nofun
        emptied := nofun
        sentBefore := h10 }
  · have hpeer := h (peer m)
    rw [peer_peer] at hpeer ⊢
    rw [withWorker_same, withWorker_peer]
    exact { hpeer with ended := fun _ => rfl, sentBefore := fun _ => rfl }

/-- **A worker's access keeps the invariant.** -/
theorem Inv.goOn (h : Inv s) (m : Fin 2) : Inv (s.goOn m) := by
  have hm := h m
  unfold Channel.goOn
  dsimp only
  cases hpoint : (s.worker m).point with
  | resting => exact h
  | running => exact h
  | sendRegistered p =>
    refine h.aside (fun hw => ?_) rfl rfl
    split
    · exact hw.moved (by rw [hpoint]; rfl) rfl nofun nofun nofun nofun nofun
    · exact hw.moved (by rw [hpoint]; rfl) rfl nofun nofun nofun nofun nofun
  | sendAbort p =>
    refine h.aside (fun hw => ?_) rfl rfl
    split
    · exact hw.moved (by rw [hpoint]; rfl) rfl nofun nofun nofun nofun nofun
    · exact hw.moved (by rw [hpoint]; rfl) rfl nofun nofun nofun nofun nofun
  | send p =>
    have hrunning : Inv (s.withWorker m { s.worker m with point := .running }) :=
      h.aside (fun hw => hw.moved (by rw [hpoint]; rfl) rfl nofun nofun nofun nofun nofun) rfl rfl
    exact hrunning.sendPacket (by rw [withWorker_same]; rfl) p
  | registered =>
    obtain ⟨hwaits, hfirst⟩ := hm.queued (by rw [hpoint]; rfl)
    refine h.aside (fun hw => ?_) rfl rfl
    split
    · exact hw.moved (by rw [hpoint]; rfl) rfl (fun _ => by rw [hpoint]; rfl) nofun nofun nofun
        nofun
    · exact hw.turnedAway (by rw [hpoint]; rfl) (Or.inl rfl)
  | abort =>
    refine h.aside (fun hw => ?_) rfl rfl
    split
    · exact hw.turnedAway (by rw [hpoint]; rfl) (Or.inl rfl)
    · exact hw.moved (by rw [hpoint]; rfl) rfl (fun _ => by rw [hpoint]; rfl) nofun nofun nofun
        nofun
  | peerRegistered =>
    refine h.aside (fun hw => ?_) rfl rfl
    split
    · exact hw.moved (by rw [hpoint]; rfl) rfl (fun _ => by rw [hpoint]; rfl) nofun nofun nofun
        nofun
    · exact hw.turnedAway (by rw [hpoint]; rfl) (Or.inr rfl)
  | probe =>
    obtain ⟨hwaits, hfirst⟩ := hm.queued (by rw [hpoint]; rfl)
    refine h.aside (fun hw => ?_) (recvPacket_active _ _ _) (recvPacket_sentBefore _ _ _)
    refine hw.recvPacket (by rw [hpoint]; rfl) (fun hqueue => ?_)
      (fun p hp => ⟨hfirst p hp, hwaits⟩) nofun
    refine hw.moved (by rw [hpoint]; rfl) rfl nofun (fun _ => ?_) nofun nofun nofun
    cases hp : (s.worker m).first with
    | none => rfl
    | some p =>
      have hhead := hfirst p hp
      rw [hqueue] at hhead
      cases hhead
  | peerActive =>
    have hfirst := hm.found (by rw [hpoint]; rfl)
    refine h.aside (fun hw => ?_) rfl rfl
    split
    · exact hw.moved (by rw [hpoint]; rfl) rfl nofun (fun _ => hfirst) nofun nofun nofun
    · rename_i hfinished
      exact hw.moved (by rw [hpoint]; rfl) rfl nofun (fun _ => hfirst) nofun
        (fun _ => eq_false_of_ne_true hfinished) nofun
  | finalProbe =>
    have hfirst := hm.found (by rw [hpoint]; rfl)
    refine h.aside (fun hw => ?_) (recvPacket_active _ _ _) (recvPacket_sentBefore _ _ _)
    refine hw.recvPacket (by rw [hpoint]; rfl) (fun hqueue => ?_) ?_
      fun _ => hw.ended (Or.inl hpoint)
    · exact hw.nothing (by rw [hpoint]; rfl) fun _ => ⟨hw.ended (Or.inl hpoint), hqueue⟩
    · intro p hp
      rw [hfirst] at hp
      cases hp
  | waitAvailable =>
    have hfirst := hm.found (by rw [hpoint]; rfl)
    dsimp only
    split
    · rename_i havailable
      refine h.aside (fun hw => ?_) rfl rfl
      have hmoved : Stands { s.worker m with point := .blocked } (s.worker (peer m)) :=
        hw.moved (by rw [hpoint]; rfl) rfl nofun (fun _ => hfirst) nofun nofun nofun
      have hwaits := hw.budget havailable
      exact { hmoved with
        waits_le := Nat.le_of_eq (by rw [hwaits])
        budget := nofun
        queued := nofun
        returned := nofun }
    · exact h.aside (fun hw => hw.nothing (by rw [hpoint]; rfl) nofun) rfl rfl
  | blocked =>
    have hfirst := hm.found (by rw [hpoint]; rfl)
    refine h.aside (fun hw => ?_) (recvPacket_active _ _ _) (recvPacket_sentBefore _ _ _)
    refine hw.recvPacket (by rw [hpoint]; rfl) (fun _ => hpoint ▸ hw) ?_ nofun
    intro p hp
    rw [hfirst] at hp
    cases hp
  | returning result finished =>
    refine h.aside (fun hw => ?_) rfl rfl
    exact hw.moved (by rw [hpoint]; rfl) rfl nofun nofun nofun nofun nofun
  | frameActive => exact h.finished hpoint
  | completing =>
    refine h.aside (fun hw => ?_) rfl rfl
    obtain ⟨h1, h2, h3, h4, h5, h6, h7, h8, h9, h10⟩ := hw
    rw [hpoint] at h2
    exact
      { fifo := h1
        active_iff := h2
        waits_le := h3
        budget := h4
        queued := nofun
        found := nofun
        returned := nofun
        ended := nofun
        emptied := nofun
        sentBefore := h10 }

/-- **A new frame keeps the invariant.** -/
theorem Inv.runFrame (h : Inv s) : Inv s.runFrame := by
  intro m
  exact
    { fifo := (h m).fifo
      active_iff := iff_of_true rfl rfl
      waits_le := Nat.zero_le 1
      budget := fun _ => rfl
      queued := nofun
      found := nofun
      returned := nofun
      ended := nofun
      emptied := nofun
      sentBefore := nofun }

theorem inv_start : Inv (start : Channel P) := by
  intro m
  constructor <;> simp [start, ReceivePoint.inFrame, ReceivePoint.beforeProbe,
    ReceivePoint.afterProbe]

/-- **Every step keeps the invariant.** -/
theorem Inv.step (h : Inv s) (a : ChannelAction P) : Inv (s.step a) := by
  cases a with
  | runFrame =>
    unfold Channel.step
    dsimp only
    split
    · exact h.runFrame
    · exact h
  | mpSendPacket m p =>
    unfold Channel.step
    dsimp only
    split
    · rename_i hpoint
      exact h.aside (fun hw => hw.moved (by rw [hpoint]; rfl) rfl nofun nofun nofun nofun nofun) rfl
        rfl
    · exact h
  | mpRecvHostPacket m =>
    unfold Channel.step
    dsimp only
    split
    · rename_i hpoint
      refine h.aside (fun hw => ?_) rfl rfl
      exact { hw with
        active_iff := hw.active_iff.trans (by rw [hpoint]; exact Iff.rfl)
        queued := fun _ => ⟨rfl, fun p hp => hp⟩
        found := nofun
        returned := nofun
        ended := nofun
        emptied := nofun }
    · exact h
  | finish m =>
    unfold Channel.step
    dsimp only
    split
    · rename_i hpoint
      exact h.aside (fun hw => hw.moved (by rw [hpoint]; rfl) rfl nofun nofun nofun nofun nofun) rfl
        rfl
    · exact h
  | goOn m => exact h.goOn m
  | expire m =>
    unfold Channel.step
    dsimp only
    split
    · rename_i hpoint
      exact h.aside (fun hw => hw.nothing (by rw [hpoint]; rfl) nofun) rfl rfl
    · exact h
  | register m registered => exact h.aside (fun hw => { hw with }) rfl rfl
  | abort requested => exact h

/-! ## Calls that are turned away -/

end Channel

end DualBoy.Nds
