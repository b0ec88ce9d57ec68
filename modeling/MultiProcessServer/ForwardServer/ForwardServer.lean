/-
  MultiProcessServer.ForwardServer.ForwardServer
  ──────────────────────────────────────────────
  `forward::ForwardServer`: the half of `jt1078_server` that hands the packets
  of the cars to `pc_server` and `web_server`.

  Main result:

    `forward_refines_subscriptions` :
        whatever the subscribers and their sockets do, the server is the
        publish/subscribe machine of `Lib.PubSub`.
-/
import MultiProcessServer.ForwardServer.Publisher
import MultiProcessServer.Jt1078Util
import MultiProcessServer.Lib.PubSub

namespace MultiProcessServer.Forward

/-! ## §1. The server. -/

/-- The calls of `Jt1078Service` the server makes. -/
inductive ServiceCall
  | sendCommandTo808 (strDeviceId : List UInt8) (bConnect isRealtime : Bool)
  | notifyNoSubscriber (strDeviceId : List UInt8) (isRealtime : Bool)
  deriving DecidableEq, Repr

/-- `class ForwardServer`, with the sessions there are, the calls made on
`m_service` and the calls of `SendMsg` so far.  `garbage` is the byte
`generateDeviceIdStrByDeviceId` does not initialise. -/
structure ForwardServer extends Publisher where
  isRealtime : Bool
  mapSubscriber : Std.TreeSet UInt64
  sessions : Sessions
  service : List ServiceCall
  delivered : List (UInt64 × Message)
  garbage : UInt8

namespace ForwardServer

def new (isRealtime : Bool) (garbage : UInt8) : ForwardServer where
  mapChannel := ∅
  isRealtime := isRealtime
  mapSubscriber := ∅
  sessions _ := .new []
  service := []
  delivered := []
  garbage := garbage

variable (f : ForwardServer)

def notifyOpenCarTerminal (deviceId : UInt64) : List ServiceCall :=
  let strDeviceId := generateDeviceIdStrByDeviceId f.garbage deviceId
  [.sendCommandTo808 strDeviceId true f.isRealtime]

def notifyCloseCarTerminal (deviceId : UInt64) : List ServiceCall :=
  let strDeviceId := generateDeviceIdStrByDeviceId f.garbage deviceId
  [.sendCommandTo808 strDeviceId false f.isRealtime,
    .notifyNoSubscriber strDeviceId f.isRealtime]

/-- The body of the loop below at `iter->first`: whether `++iter`, and the
calls on the service. -/
def releaseIfEmpty (service : List ServiceCall) (channelId : UInt64) : Bool × List ServiceCall :=
  match f.mapChannel[channelId]? with
  | some channel =>
      if channel.empty then (false, service ++ f.notifyCloseCarTerminal channel.getChannelId)
      else (true, service)
  | none => (true, service)

def releaseChannelIfEmptySubscriber : ForwardServer :=
  let (mapChannel, service) :=
    Container.treeMap.sweep f.releaseIfEmpty f.mapChannel f.service
  { f with mapChannel := mapChannel, service := service }

/-- `OnNewConnection`; `init` is what `Subscriber::Init` returns. -/
def onNewConnection (sessionId : UInt64) (socket : List SockResult) (init : Bool) :
    ForwardServer :=
  if !init then f
  else
    { f with
      sessions := Function.update f.sessions sessionId (.new socket)
      mapSubscriber := f.mapSubscriber.insert sessionId }

def isFromWebServer (packet : Ipc.Packet) : Bool :=
  packet.header.pktType &&& Ipc.IPC_PKT_FROM_MASK == Ipc.IPC_PKT_FROM_WEB_SERVER

def processPacketSubscriber (sessionId : UInt64) (packet : Ipc.Packet) : ForwardServer :=
  let deviceId := generateDeviceIdByBuffer packet.data
  let f :=
    if !f.exists' deviceId then
      let f := { f with toPublisher := f.createChannel deviceId }
      if !isFromWebServer packet then
        { f with service := f.service ++ f.notifyOpenCarTerminal deviceId }
      else f
    else f
  { f with toPublisher := f.addSubscriber deviceId sessionId }

def processPacketUnSubscriber (sessionId : UInt64) (packet : Ipc.Packet) : ForwardServer :=
  let deviceId := generateDeviceIdByBuffer packet.data
  { f with toPublisher := f.delSubscriber deviceId sessionId }.releaseChannelIfEmptySubscriber

def onPacketCompleted (sessionId : UInt64) (packet : Ipc.Packet) : ForwardServer :=
  if packet.type = Ipc.IPC_PKT_TYPE_HEARTBEAT then f
  else if packet.type = Ipc.IPC_PKT_TYPE_SUBSCRIBE_DEVICE_ID then
    f.processPacketSubscriber sessionId packet
  else if packet.type = Ipc.IPC_PKT_TYPE_UNSUBSCRIBE_DEVICE_ID then
    f.processPacketUnSubscriber sessionId packet
  else f

def onPacketError (sessionId : UInt64) : ForwardServer :=
  let f := { f with mapSubscriber := f.mapSubscriber.erase sessionId }
  { f with toPublisher := f.delSubscriberAll sessionId }.releaseChannelIfEmptySubscriber

/-- `ForwardServer::Publish`. -/
def publish (deviceId : UInt64) (pkt : Jt1078.Packet) : ForwardServer :=
  let message : Message := ⟨deviceId, pkt⟩
  let (publisher, sessions, sent) := f.toPublisher.publish deviceId message f.sessions
  { f with
    toPublisher := publisher
    sessions := sessions
    delivered := f.delivered ++ sent.map fun sessionId => (sessionId, message) }

/-! ## §2. Its runs. -/

/-- What happens to a server. -/
inductive Event
  | newConnection (sessionId : UInt64) (socket : List SockResult) (init : Bool)
  | packetCompleted (sessionId : UInt64) (packet : Ipc.Packet)
  | packetError (sessionId : UInt64)
  | publish (deviceId : UInt64) (pkt : Jt1078.Packet)

def step : Event → ForwardServer
  | .newConnection sessionId socket init => f.onNewConnection sessionId socket init
  | .packetCompleted sessionId packet => f.onPacketCompleted sessionId packet
  | .packetError sessionId => f.onPacketError sessionId
  | .publish deviceId pkt => f.publish deviceId pkt

/-- What an event asks of a publish/subscribe server. -/
def Event.request : Event → PubSub.Request UInt64 UInt64 Message Subscriber
  | .newConnection sessionId socket init =>
      if init then .connect sessionId (.new socket) else .reject sessionId
  | .packetCompleted sessionId packet =>
      if packet.type = Ipc.IPC_PKT_TYPE_SUBSCRIBE_DEVICE_ID then
        .subscribe sessionId (generateDeviceIdByBuffer packet.data)
      else if packet.type = Ipc.IPC_PKT_TYPE_UNSUBSCRIBE_DEVICE_ID then
        .unsubscribe sessionId (generateDeviceIdByBuffer packet.data)
      else .idle sessionId
  | .packetError sessionId => .leave sessionId
  | .publish deviceId pkt => .publish deviceId ⟨deviceId, pkt⟩

/-- Session ids are not given out twice, and packets and errors come from
sessions that are connected and have not erred. -/
def Admissible (events : List Event) : Prop :=
  Runs.Along (fun r e => r.next e.request.contact) (fun r e => r.admits e.request.contact)
    Roster.empty events

instance (events : List Event) : Decidable (Admissible events) :=
  inferInstanceAs (Decidable (Runs.Along _ _ _ _))

/-- The publish/subscribe machine over `Subscriber`s. -/
abbrev Spec := PubSub.State UInt64 UInt64 Subscriber

namespace Spec

/-- Nobody connected, nothing subscribed. -/
def init : Spec where
  roster := .empty
  session _ := .new []
  sub _ _ := False

noncomputable def step (a : Spec) (e : Event) : Spec :=
  PubSub.State.step Subscriber.isCanWrite (fun m s => (s.sendMsg m).2) a e.request

end Spec

/-! ## §3. The server is that machine. -/

/-- The maps and sessions of the server stand for the state of the machine. -/
structure Refines (f : ForwardServer) (a : Spec) : Prop where
  sessions : f.sessions = a.session
  subscribed : ∀ s d, f.Subscribed s d ↔ a.sub s d
  registered : ∀ s, s ∈ f.mapSubscriber ↔ s ∈ a.roster.live

variable {f} {a : Spec} {s d : UInt64}

/-- The channels released have no subscribers. -/
theorem subscribed_releaseChannel :
    f.releaseChannelIfEmptySubscriber.Subscribed s d ↔ f.Subscribed s d := by
  simp only [releaseChannelIfEmptySubscriber, Container.sweep_eq, Publisher.Subscribed]
  generalize hdropped : (Container.visit f.releaseIfEmpty
    (Container.treeMap.keys f.mapChannel) f.service).1 = dropped
  by_cases hd : d ∈ dropped
  · -- `d` was released: its channel was empty
    have hgone : (dropped.foldl Container.treeMap.erase f.mapChannel)[d]? = none := by
      refine Std.TreeMap.getElem?_eq_none fun h => ?_
      rw [← Container.mem_keys_treeMap, Container.mem_keys_foldl_erase] at h
      exact h.1 hd
    obtain ⟨calls, hbody⟩ := Container.of_mem_visit (hdropped ▸ hd)
    unfold releaseIfEmpty at hbody
    simp only [hgone]
    split at hbody
    next channel hchannel =>
        split at hbody
        next hempty =>
            simp only [hchannel]
            simp [Std.TreeSet.isEmpty_iff_forall_not_mem.mp hempty]
        next => cases hbody
    next => cases hbody
  · rw [Container.getElem?_foldl_erase dropped f.mapChannel d hd]

theorem subscribed_processPacketSubscriber {sessionId : UInt64} {packet : Ipc.Packet} :
    (f.processPacketSubscriber sessionId packet).Subscribed s d
      ↔ (s = sessionId ∧ d = generateDeviceIdByBuffer packet.data) ∨ f.Subscribed s d := by
  simp only [processPacketSubscriber]
  cases hexists : f.exists' (generateDeviceIdByBuffer packet.data) with
  | true =>
      simp only [Bool.not_true, Bool.false_eq_true, if_false]
      exact Publisher.subscribed_addSubscriber hexists
  | false =>
      have hnew : (f.createChannel (generateDeviceIdByBuffer packet.data)).exists'
          (generateDeviceIdByBuffer packet.data) = true := Std.TreeMap.contains_insert_self
      rw [← Publisher.subscribed_createChannel hexists,
        ← Publisher.subscribed_addSubscriber hnew]
      simp only [Bool.not_false, if_true]
      split <;> rfl

/-- What a packet leaves alone. -/
theorem processPacketSubscriber_frame (sessionId : UInt64) (packet : Ipc.Packet) :
    (f.processPacketSubscriber sessionId packet).sessions = f.sessions
      ∧ (f.processPacketSubscriber sessionId packet).mapSubscriber = f.mapSubscriber := by
  rw [processPacketSubscriber]
  split
  · split <;> exact ⟨rfl, rfl⟩
  · exact ⟨rfl, rfl⟩

theorem Refines.newConnection (h : Refines f a) (sessionId : UInt64)
    (socket : List SockResult) (init : Bool) :
    Refines (f.step (.newConnection sessionId socket init))
      (a.step (.newConnection sessionId socket init)) := by
  cases init with
  | false => exact ⟨h.sessions, h.subscribed, h.registered⟩
  | true =>
      refine ⟨congrArg (Function.update · sessionId _) h.sessions, h.subscribed, ?_⟩
      intro s
      show s ∈ f.mapSubscriber.insert sessionId ↔ s ∈ (a.roster.next (.opens sessionId)).live
      rw [Roster.mem_live_opens, Std.TreeSet.mem_insert, Std.LawfulEqOrd.compare_eq_iff_eq,
        @eq_comm _ sessionId, h.registered]

theorem Refines.packetCompleted (h : Refines f a) (sessionId : UInt64) (packet : Ipc.Packet) :
    Refines (f.step (.packetCompleted sessionId packet))
      (a.step (.packetCompleted sessionId packet)) := by
  simp only [ForwardServer.step, onPacketCompleted, Spec.step, Event.request]
  by_cases hsubscribe : packet.type = Ipc.IPC_PKT_TYPE_SUBSCRIBE_DEVICE_ID
  · have hheartbeat : packet.type ≠ Ipc.IPC_PKT_TYPE_HEARTBEAT := by rw [hsubscribe]; decide
    rw [if_neg hheartbeat, if_pos hsubscribe, if_pos hsubscribe]
    obtain ⟨hsessions, hmap⟩ := @processPacketSubscriber_frame f sessionId packet
    refine ⟨hsessions.trans h.sessions, ?_, fun s => hmap ▸ h.registered s⟩
    intro s d
    rw [subscribed_processPacketSubscriber, h.subscribed]
    rfl
  · by_cases hunsubscribe : packet.type = Ipc.IPC_PKT_TYPE_UNSUBSCRIBE_DEVICE_ID
    · have hheartbeat : packet.type ≠ Ipc.IPC_PKT_TYPE_HEARTBEAT := by
        rw [hunsubscribe]; decide
      rw [if_neg hheartbeat, if_neg hsubscribe, if_pos hunsubscribe, if_neg hsubscribe,
        if_pos hunsubscribe]
      refine ⟨h.sessions, ?_, h.registered⟩
      intro s d
      rw [processPacketUnSubscriber, subscribed_releaseChannel,
        Publisher.subscribed_delSubscriber, h.subscribed]
      rfl
    · -- heartbeats and unknown packets
      rw [if_neg hsubscribe, if_neg hunsubscribe, if_neg hsubscribe, if_neg hunsubscribe, ite_self]
      exact ⟨h.sessions, h.subscribed, h.registered⟩

theorem Refines.packetError (h : Refines f a) (sessionId : UInt64) :
    Refines (f.step (.packetError sessionId)) (a.step (.packetError sessionId)) := by
  refine ⟨h.sessions, ?_, ?_⟩
  · intro s d
    show (f.onPacketError sessionId).Subscribed s d ↔ _
    rw [onPacketError, subscribed_releaseChannel, Publisher.subscribed_delSubscriberAll,
      h.subscribed]
    rfl
  · intro s
    show s ∈ f.mapSubscriber.erase sessionId ↔ s ∈ (a.roster.next (.closes sessionId)).live
    rw [Roster.mem_live_closes, Std.TreeSet.mem_erase, ne_eq, ne_eq,
      Std.LawfulEqOrd.compare_eq_iff_eq, @eq_comm _ sessionId, h.registered, and_comm]

theorem Refines.publish (h : Refines f a) (deviceId : UInt64) (pkt : Jt1078.Packet) :
    Refines (f.step (.publish deviceId pkt)) (a.step (.publish deviceId pkt)) := by
  have hsessions : ∀ s, (f.step (.publish deviceId pkt)).sessions s
      = (a.step (.publish deviceId pkt)).session s := by
    intro s
    classical
    show (f.toPublisher.publish deviceId ⟨deviceId, pkt⟩ f.sessions).2.1 s
      = a.offerAll Subscriber.isCanWrite (fun m s => (s.sendMsg m).2) deviceId ⟨deviceId, pkt⟩ s
    rw [Publisher.publish_sessions, PubSub.State.offerAll, h.sessions]
    exact if_congr (h.subscribed s deviceId) rfl rfl
  refine ⟨funext hsessions, ?_, h.registered⟩
  intro s d
  show (f.toPublisher.publish deviceId ⟨deviceId, pkt⟩ f.sessions).1.Subscribed s d
    ↔ a.sub s d ∧ (d = deviceId →
        ((a.step (.publish deviceId pkt)).session s).isCanWrite = true)
  rw [Publisher.subscribed_publish, h.subscribed, ← hsessions]
  rfl

/-- **One event.** -/
theorem Refines.step (h : Refines f a) (e : Event) : Refines (f.step e) (a.step e) := by
  cases e with
  | newConnection sessionId socket init => exact h.newConnection sessionId socket init
  | packetCompleted sessionId packet => exact h.packetCompleted sessionId packet
  | packetError sessionId => exact h.packetError sessionId
  | publish deviceId pkt => exact h.publish deviceId pkt

/-- The sessions of the machine are made by the contacts alone. -/
theorem admits_of_admissible {events : List Event} (h : Admissible events) :
    Runs.Along Spec.step (fun a e => a.admits e.request) Spec.init events := by
  have hstep : ∀ (a : Spec) r (e : Event), a.roster = r → r.admits e.request.contact →
      (a.step e).roster = r.next e.request.contact := by
    intro a r e hr _
    unfold Spec.step
    rw [PubSub.State.roster_step, hr]
  have himp : ∀ (a : Spec) r (e : Event), a.roster = r → r.admits e.request.contact →
      a.admits e.request := by
    intro a r e hr hadmits
    unfold PubSub.State.admits
    rw [hr]
    exact hadmits
  exact Runs.Along.transfer hstep himp rfl h

/-- **ForwardServer refines a plain subscription relation.**  After any run
its channel maps are the relation `sub` of the publish/subscribe machine, every
session in a channel is in `m_mapSubscriber`, every session has been sent what
the machine sent it, and a packet published next on a device is handed once to
each of the device's subscribers that can be written to, and to nobody else. -/
theorem forward_refines_subscriptions (isRealtime : Bool) (garbage : UInt8)
    (events : List Event) (h : Admissible events) :
    let f := Runs.run ForwardServer.step (.new isRealtime garbage) events
    let a := Runs.run Spec.step Spec.init events
    (∀ s d, f.Subscribed s d ↔ a.sub s d)
      ∧ (∀ s d, f.Subscribed s d → s ∈ f.mapSubscriber)
      ∧ f.sessions = a.session
      ∧ ∀ deviceId pkt, ∃ sent : List UInt64,
          (f.step (.publish deviceId pkt)).delivered
              = f.delivered ++ sent.map (fun s => (s, ⟨deviceId, pkt⟩))
            ∧ sent.Nodup
            ∧ ∀ s, s ∈ sent ↔ a.receives Subscriber.isCanWrite deviceId s := by
  intro f a
  have hadmits := admits_of_admissible h
  have hinit : Refines (.new isRealtime garbage) Spec.init :=
    ⟨rfl, fun s d => by simp [new, Publisher.Subscribed, Spec.init],
      fun s => by simp [new, Spec.init]⟩
  -- simulation: one step of the server is one request of the machine
  have hrefines : Refines f a :=
    Runs.run_simulation (fun _ _ e href _ => href.step e) hinit hadmits
  -- the machine alone keeps its subscribers among its members
  have hkeep : ∀ (a : Spec) (e : Event), a.Registered → a.admits e.request →
      (a.step e).Registered := fun a e => PubSub.State.registered_step a e.request
  have hregistered : a.Registered :=
    Runs.run_invariant hkeep (fun _ _ hsub => False.elim hsub) hadmits
  refine ⟨hrefines.subscribed, ?_, hrefines.sessions, ?_⟩
  · intro s d hsub
    exact (hrefines.registered s).mpr (hregistered s d ((hrefines.subscribed s d).mp hsub))
  · intro deviceId pkt
    obtain ⟨hnodup, hmem⟩ :=
      @Publisher.publish_sent f.toPublisher deviceId ⟨deviceId, pkt⟩ f.sessions
    refine ⟨(f.toPublisher.publish deviceId ⟨deviceId, pkt⟩ f.sessions).2.2, rfl, hnodup, ?_⟩
    intro s
    rw [hmem, hrefines.subscribed, hrefines.sessions]
    rfl

/-- Two sessions, of which the second errs after subscribing. -/
theorem forward_refines_subscriptions_two_sessions :
    let one : Ipc.Packet := ⟨⟨16, 1, 0, Ipc.IPC_PKT_TYPE_SUBSCRIBE_DEVICE_ID⟩, [49], rfl⟩
    let f := Runs.run ForwardServer.step (.new true 0)
      [.newConnection 7 [] true, .newConnection 8 [] true, .packetCompleted 7 one,
        .packetCompleted 8 one, .packetError 8]
    ∀ s d, f.Subscribed s d → s ∈ f.mapSubscriber :=
  (forward_refines_subscriptions true 0
    [.newConnection 7 [] true, .newConnection 8 [] true,
      .packetCompleted 7 ⟨⟨16, 1, 0, Ipc.IPC_PKT_TYPE_SUBSCRIBE_DEVICE_ID⟩, [49], rfl⟩,
      .packetCompleted 8 ⟨⟨16, 1, 0, Ipc.IPC_PKT_TYPE_SUBSCRIBE_DEVICE_ID⟩, [49], rfl⟩,
      .packetError 8] (by decide)).2.1

end ForwardServer

end MultiProcessServer.Forward
