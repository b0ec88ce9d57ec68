/-
  MultiProcessServer.Jt1078Service.Jt1078Service
  ──────────────────────────────────────────────
  `Jt1078Service`, the process `jt1078_server`: a server for the cars and a
  server for the subscribers, twice, for realtime video and for history.

  Packets go from a car session to the forward server of the same half, and a
  forward server whose channel is deserted has the cars of its half dropped.
-/
import MultiProcessServer.ForwardServer.Notices
import MultiProcessServer.Jt1078Server.Jt1078Server

namespace MultiProcessServer

open Forward Jt1078

/-! ## §1. The service. -/

/-- A call of `ForwardServer::Publish`. -/
structure Publication where
  isRealtime : Bool
  deviceId : UInt64
  pkt : Jt1078.Packet
  deriving DecidableEq

/-- `class Jt1078Service`, with the calls of `Publish` so far.  The realtime
servers stand at `true`, the history servers at `false`. -/
structure Jt1078Service where
  jt1078Server : Bool → Jt1078Server
  forwardServer : Bool → ForwardServer
  published : List Publication

namespace Jt1078Service

def new (garbage : UInt8) : Jt1078Service where
  jt1078Server _ := .new
  forwardServer isRealtime := .new isRealtime garbage
  published := []

variable (s : Jt1078Service)

def notify1078Packet (deviceId : UInt64) (pkt : Jt1078.Packet) (bRealtime : Bool) :
    Jt1078Service :=
  { s with
    forwardServer :=
      Function.update s.forwardServer bRealtime ((s.forwardServer bRealtime).publish deviceId pkt)
    published := s.published ++ [⟨bRealtime, deviceId, pkt⟩] }

def notifyNoSubscriber (strDeviceId : List UInt8) (bRealtime : Bool) : Jt1078Service :=
  { s with
    jt1078Server :=
      Function.update s.jt1078Server bRealtime
        ((s.jt1078Server bRealtime).disconnectCar strDeviceId) }

/-- A call of a forward server.  `SendCommandTo808` goes to Redis. -/
def call : ServiceCall → Jt1078Service
  | .sendCommandTo808 _ _ _ => s
  | .notifyNoSubscriber strDeviceId isRealtime => s.notifyNoSubscriber strDeviceId isRealtime

/-- A callback of a forward server.  The calls it makes on the service do not
come back to it, so they are made when it is done. -/
def onForward (isRealtime : Bool) (e : ForwardServer.Event) : Jt1078Service :=
  let f := s.forwardServer isRealtime
  let f' := f.step e
  (f'.service.drop f.service.length).foldl call
    { s with forwardServer := Function.update s.forwardServer isRealtime f' }

/-- A callback of a car server that only concerns its sessions. -/
def onCar (isRealtime : Bool) (server : Jt1078Server) : Jt1078Service :=
  { s with jt1078Server := Function.update s.jt1078Server isRealtime server }

/-- `Jt1078Server::OnPacketCompleted`. -/
def onCarPacket (isRealtime : Bool) (sessionId : UInt64) (pkt : Jt1078.Packet) : Jt1078Service :=
  match (s.jt1078Server isRealtime).onPacketCompleted sessionId pkt with
  | none => s
  | some (deviceId, server) => (s.onCar isRealtime server).notify1078Packet deviceId pkt isRealtime

/-! ## §2. Its runs. -/

/-- What happens to the service: to its cars, and to its subscribers. -/
inductive Event
  | carConnection (isRealtime : Bool) (sessionId : UInt64) (init : Bool)
  | carPacket (isRealtime : Bool) (sessionId : UInt64) (pkt : Jt1078.Packet)
  | carError (isRealtime : Bool) (sessionId : UInt64)
  | subscriberConnection (isRealtime : Bool) (sessionId : UInt64) (socket : List SockResult)
      (init : Bool)
  | subscriberPacket (isRealtime : Bool) (sessionId : UInt64) (packet : Ipc.Packet)
  | subscriberError (isRealtime : Bool) (sessionId : UInt64)

def step : Event → Jt1078Service
  | .carConnection isRealtime sessionId init =>
      s.onCar isRealtime ((s.jt1078Server isRealtime).onNewConnection sessionId init)
  | .carPacket isRealtime sessionId pkt => s.onCarPacket isRealtime sessionId pkt
  | .carError isRealtime sessionId =>
      s.onCar isRealtime ((s.jt1078Server isRealtime).onPacketError sessionId)
  | .subscriberConnection isRealtime sessionId socket init =>
      s.onForward isRealtime (.newConnection sessionId socket init)
  | .subscriberPacket isRealtime sessionId packet =>
      s.onForward isRealtime (.packetCompleted sessionId packet)
  | .subscriberError isRealtime sessionId => s.onForward isRealtime (.packetError sessionId)

/-- The session of a car, while it is connected. -/
def car (isRealtime : Bool) (sessionId : UInt64) : Option CarSession :=
  (s.jt1078Server isRealtime).manager.mapCar[sessionId]?

variable {s} {b isRealtime : Bool} {x sessionId : UInt64}

/-! ## §3. What a callback does to the cars. -/

/-- The identity the text of an id is read back as: the id itself, unless it
takes more than 14 digits. -/
def spelledId (f : ForwardServer) (d : UInt64) : UInt64 :=
  generateDeviceId (generateDeviceIdStrByDeviceId f.garbage d)

theorem car_notifyNoSubscriber {strDeviceId : List UInt8} {c : CarSession} :
    (s.notifyNoSubscriber strDeviceId isRealtime).car b x = some c
      ↔ s.car b x = some c
        ∧ ¬(b = isRealtime ∧ c.deviceId = generateDeviceId strDeviceId) := by
  unfold car notifyNoSubscriber
  by_cases hb : b = isRealtime
  · subst hb
    simp only [Function.update_self, true_and]
    exact CarManager.getElem?_delCarByDeviceId
  · simp [hb]

/-- The calls of some notices drop the cars with the ids of the closings. -/
theorem car_foldl_call {f : ForwardServer} {c : CarSession} (notices : List Notice) :
    ∀ s : Jt1078Service, ((notices.flatMap f.calls).foldl call s).car b x = some c
      ↔ s.car b x = some c
        ∧ ¬(b = f.isRealtime ∧ ∃ d, .close d ∈ notices ∧ c.deviceId = spelledId f d) := by
  induction notices with
  | nil => simp
  | cons notice notices ih =>
      intro s
      rw [List.flatMap_cons, List.foldl_append, ih]
      cases notice with
      | create deviceId notifyOpen =>
          have hcalls : (f.calls (.create deviceId notifyOpen)).foldl call s = s := by
            cases notifyOpen <;> rfl
          simp [hcalls]
      | close deviceId =>
          have hcalls : (f.calls (.close deviceId)).foldl call s
              = s.notifyNoSubscriber (generateDeviceIdStrByDeviceId f.garbage deviceId)
                  f.isRealtime := rfl
          rw [hcalls, car_notifyNoSubscriber, and_assoc, ← not_or, ← and_or_left]
          simp only [List.mem_cons, Notice.close.injEq, or_and_right, exists_or,
            exists_eq_left, spelledId]

/-- The calls change nothing else. -/
theorem foldl_call_frame (calls : List ServiceCall) :
    ∀ s : Jt1078Service, (calls.foldl call s).forwardServer = s.forwardServer
      ∧ (calls.foldl call s).published = s.published := by
  induction calls with
  | nil => exact fun s => ⟨rfl, rfl⟩
  | cons c calls ih =>
      intro s
      rw [List.foldl_cons, (ih _).1, (ih _).2]
      cases c with
      | sendCommandTo808 strDeviceId bConnect isRealtime => exact ⟨rfl, rfl⟩
      | notifyNoSubscriber strDeviceId isRealtime => exact ⟨rfl, rfl⟩

/-- **A callback of a forward server** drops the cars of its half with the ids
of the channels it closes. -/
theorem car_onForward {c : CarSession} (hkeyed : (s.forwardServer isRealtime).Keyed)
    (hrealtime : (s.forwardServer isRealtime).isRealtime = isRealtime) (e : ForwardServer.Event) :
    (s.onForward isRealtime e).car b x = some c
      ↔ s.car b x = some c
        ∧ ¬(b = isRealtime ∧ ∃ d, .close d ∈ (s.forwardServer isRealtime).notices e
          ∧ c.deviceId = spelledId (s.forwardServer isRealtime) d) := by
  simp only [onForward, ForwardServer.service_step hkeyed, List.drop_left]
  rw [car_foldl_call, hrealtime]
  rfl

theorem onForward_frame (isRealtime : Bool) (e : ForwardServer.Event) :
    (s.onForward isRealtime e).forwardServer
        = Function.update s.forwardServer isRealtime ((s.forwardServer isRealtime).step e)
      ∧ (s.onForward isRealtime e).published = s.published :=
  foldl_call_frame _ _

theorem car_onCar {server : Jt1078Server} :
    (s.onCar isRealtime server).car b x
      = if b = isRealtime then server.manager.mapCar[x]? else s.car b x := by
  unfold car onCar
  by_cases hb : b = isRealtime
  · subst hb
    simp
  · simp [hb]

/-! ## §4. What holds in every state. -/

/-- Channels lie under their ids, each forward server knows its half, and the
sessions are named by what they received. -/
structure Sound (s : Jt1078Service) : Prop where
  keyed : ∀ b, (s.forwardServer b).Keyed
  isRealtime : ∀ b, (s.forwardServer b).isRealtime = b
  named : ∀ b x c, s.car b x = some c → c.Named

theorem sound_new (garbage : UInt8) : (new garbage).Sound where
  keyed b := ForwardServer.keyed_new b garbage
  isRealtime _ := rfl
  named b x c h := by simp [car, new, Jt1078Server.new] at h

/-- Running a forward server. -/
theorem Sound.forward_update (h : s.Sound) (isRealtime : Bool)
    (e : ForwardServer.Event) (b : Bool) :
    (Function.update s.forwardServer isRealtime ((s.forwardServer isRealtime).step e) b).Keyed
      ∧ (Function.update s.forwardServer isRealtime
          ((s.forwardServer isRealtime).step e) b).isRealtime = b := by
  by_cases hb : b = isRealtime
  · subst hb
    rw [Function.update_self, (ForwardServer.constants_step (h.keyed b) e).1]
    exact ⟨ForwardServer.keyed_step (h.keyed b) e, h.isRealtime b⟩
  · rw [Function.update_of_ne hb]
    exact ⟨h.keyed b, h.isRealtime b⟩

theorem Sound.onForward (h : s.Sound) (isRealtime : Bool) (e : ForwardServer.Event) :
    (s.onForward isRealtime e).Sound := by
  have hframe := (s.onForward_frame isRealtime e).1
  refine ⟨?_, ?_, ?_⟩
  · intro b
    rw [hframe]
    exact (h.forward_update isRealtime e b).1
  · intro b
    rw [hframe]
    exact (h.forward_update isRealtime e b).2
  · intro b x c hc
    rw [car_onForward (h.keyed isRealtime) (h.isRealtime isRealtime)] at hc
    exact h.named b x c hc.1

/-- Changing the cars of one half. -/
theorem Sound.onCar (h : s.Sound) {server : Jt1078Server}
    (hnamed : ∀ (x : UInt64) (c : CarSession), server.manager.mapCar[x]? = some c → c.Named) :
    (s.onCar isRealtime server).Sound := by
  refine ⟨h.keyed, h.isRealtime, ?_⟩
  intro b x c hc
  rw [car_onCar] at hc
  split at hc
  · exact hnamed x c hc
  · exact h.named b x c hc

/-- Publishing a packet. -/
theorem Sound.notify1078Packet (h : s.Sound) (deviceId : UInt64) (pkt : Jt1078.Packet) :
    (s.notify1078Packet deviceId pkt isRealtime).Sound := by
  have hforward := h.forward_update isRealtime (.publish deviceId pkt)
  exact ⟨fun b => (hforward b).1, fun b => (hforward b).2, h.named⟩

/-- A session is added, or written back, under its id. -/
theorem Sound.named_addCar (h : s.Sound) {car : CarSession} (hcar : car.Named) :
    ∀ (x : UInt64) (c : CarSession),
      ((s.jt1078Server isRealtime).manager.addCar sessionId car).mapCar[x]? = some c →
        c.Named := by
  intro x c hc
  unfold CarManager.addCar at hc
  rw [Std.TreeMap.getElem?_insert] at hc
  split at hc
  · rw [← Option.some.inj hc]
    exact hcar
  · exact h.named isRealtime x c hc

/-- **One event.** -/
theorem Sound.step (h : s.Sound) (e : Event) : (s.step e).Sound := by
  cases e with
  | subscriberConnection isRealtime sessionId socket init => exact h.onForward isRealtime _
  | subscriberPacket isRealtime sessionId packet => exact h.onForward isRealtime _
  | subscriberError isRealtime sessionId => exact h.onForward isRealtime _
  | carConnection isRealtime sessionId init =>
      apply h.onCar
      cases init with
      | false => exact fun x c hc => h.named isRealtime x c hc
      | true => exact h.named_addCar CarSession.named_new
  | carError isRealtime sessionId =>
      apply h.onCar
      intro x c hc
      rw [Jt1078Server.onPacketError, CarManager.delCar, Std.TreeMap.getElem?_erase] at hc
      split at hc
      · exact absurd hc.symm (Option.some_ne_none c)
      · exact h.named isRealtime x c hc
  | carPacket isRealtime sessionId pkt =>
      simp only [Jt1078Service.step, onCarPacket, Jt1078Server.onPacketCompleted]
      cases hcar : (s.jt1078Server isRealtime).manager.mapCar[sessionId]? with
      | none => exact h
      | some c =>
          -- the session is named before its packet is published
          have hnamed := (h.named isRealtime sessionId c hcar).complete pkt
          exact (h.onCar (h.named_addCar hnamed)).notify1078Packet _ pkt

theorem sound_run (garbage : UInt8) (events : List Event) :
    (Runs.run Jt1078Service.step (new garbage) events).Sound :=
  Runs.run_invariant (P := fun _ _ => True) (fun _ e h _ => h.step e) (sound_new garbage)
    (Runs.along_of_forall (fun _ _ => trivial) events _)

end Jt1078Service

end MultiProcessServer
