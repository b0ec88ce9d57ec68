/-
  MultiProcessServer.PcServer.ViewerStreams
  ─────────────────────────────────────────
  `PcServer` as a publish/subscribe server: a viewer's request takes back the
  device it watched and subscribes to the new one, and what comes from
  `jt1078_server` is published.

  Main result:

    `pc_server_refines_subscriptions` :
        whatever the viewers, their sockets and the upstream do, the server is
        the machine of `Lib.PubSub`, and the socket of each viewer carries the
        frames that machine owes it.
-/
import MultiProcessServer.Core.OutgoingStream
import MultiProcessServer.Lib.Inbox
import MultiProcessServer.PcServer.Watching

namespace MultiProcessServer.PcServer

/-! ## §1. The machine. -/

/-- The publish/subscribe machine over the sockets of the viewers. -/
abbrev Spec := PubSub.State UInt64 UInt64 TcpSession

/-- What `SendPacket` does to the socket. -/
def sendFrame (packet : Ipc.Packet) (tcp : TcpSession) : TcpSession :=
  (tcp.transmit packet.bytes).2

namespace Spec

/-- Nobody connected, nothing watched. -/
def init : Spec where
  roster := .empty
  session _ := .init []
  sub _ _ := False

noncomputable abbrev step : Spec → PubSub.Request UInt64 UInt64 Ipc.Packet TcpSession → Spec :=
  PubSub.State.step TcpSession.isCanWrite sendFrame

end Spec

/-- What an event asks of a publish/subscribe server. -/
def requests (p : PcServer) :
    Event → List (PubSub.Request UInt64 UInt64 Ipc.Packet TcpSession)
  | .newConnection pc socket init => if init then [.connect pc (.init socket)] else [.reject pc]
  | .packetCompleted pc packet =>
      if p.isConnected then
        match asks packet with
        | none => [.idle pc]
        | some strDeviceId =>
            -- the device watched so far is left first, also for itself
            .unsubscribe pc (generateDeviceId (p.getDeviceId pc))
              :: if strDeviceId.isEmpty then []
                else [.subscribe pc (generateDeviceId strDeviceId)]
      else [.idle pc]
  | .packetError pc => [.leave pc]
  | .clientMessage packet behind =>
      if packet.type = Ipc.IPC_PKT_TYPE_JT1078_PACKET then
        [.publish (loadU64 (packet.data ++ behind)) packet]
      else []
  | _ => []

/-- What a run asks of it. -/
def requestsOf : PcServer → List Event →
    List (PubSub.Request UInt64 UInt64 Ipc.Packet TcpSession)
  | _, [] => []
  | p, e :: es => p.requests e ++ requestsOf (p.step e) es

/-- The packet of a call of `SendPacket`, if it was for the session. -/
def callFor (s : UInt64) (call : UInt64 × UInt64 × Ipc.Packet) : Option Ipc.Packet :=
  if call.1 = s then some call.2.2 else none

/-- The calls of `SendPacket` that were for a session. -/
def sentTo (p : PcServer) (s : UInt64) : List Ipc.Packet := p.delivered.filterMap (callFor s)

/-- The channels and sockets of the server stand for the state of the machine. -/
structure Refines (p : PcServer) (a : Spec) : Prop where
  subscribed : ∀ s d, p.Subscribed s d ↔ a.sub s d
  sockets : ∀ s, (p.sessions s).tcp = a.session s
  roster : a.roster = p.roster

variable {p q : PcServer} {a : Spec} {pc s d : UInt64}

/-! ## §2. One event. -/

/-- Requests leave the sockets alone. -/
theorem tcp_onPacketCompleted (packet : Ipc.Packet) :
    ((p.onPacketCompleted pc packet).sessions s).tcp = (p.sessions s).tcp := by
  have hupdate : ∀ f : PcSession → PcSession, (∀ c : PcSession, (f c).tcp = c.tcp) →
      ((p.updatePc pc f).sessions s).tcp = (p.sessions s).tcp := by
    intro f hf
    show (Function.update p.sessions pc (f (p.sessions pc)) s).tcp = _
    rw [Function.update_apply]
    split
    next heq => rw [hf, heq]
    next => rfl
  refine onPacketCompleted_rule (P := fun q => (q.sessions s).tcp = (p.sessions s).tcp) packet
    rfl (fun _ strDeviceId => ?_) fun _ => ?_
  · rw [sessions_subscribeDeviceId]
    exact hupdate _ fun _ => rfl
  · rw [unSubscribeDeviceId_frame.1]
    exact hupdate _ fun _ => rfl

/-- Offering a packet to a viewer is offering its frame to the socket. -/
theorem tcp_offered (packet : Ipc.Packet) (c : PcSession) :
    (Container.offered PcSession.isCanWrite (fun pc => (pc.sendPacket packet).2) c).tcp
      = Container.offered TcpSession.isCanWrite (sendFrame packet) c.tcp := by
  unfold Container.offered
  by_cases hcan : c.isCanWrite = true
  · have hcan' : c.tcp.isCanWrite = true := hcan
    rw [if_pos hcan, if_pos hcan']
    show (c.sendPacket packet).2.tcp = _
    rw [PcSession.sendPacket_eq packet hcan]
    rfl
  · have hcan' : ¬c.tcp.isCanWrite = true := hcan
    rw [if_neg hcan, if_neg hcan']

theorem Refines.quiet (h : Refines p a) (hq : Quiet p q) : Refines q a where
  subscribed s d := hq.subscribed.trans (h.subscribed s d)
  sockets s := by
    rw [hq.sessions]
    exact h.sockets s
  roster := h.roster.trans hq.roster.symm

/-- A packet of a viewer. -/
theorem Refines.packetCompleted (h : Refines p a) (hp : p.Inv) (packet : Ipc.Packet) :
    Refines (p.step (.packetCompleted pc packet))
      (Runs.run Spec.step a (p.requests (.packetCompleted pc packet))) := by
  have htcp : ∀ s, ((p.step (.packetCompleted pc packet)).sessions s).tcp = a.session s :=
    fun s => (tcp_onPacketCompleted packet).trans (h.sockets s)
  cases hup : p.isConnected with
  | false =>
      have hsame : p.step (.packetCompleted pc packet) = p := by
        rw [step_packetCompleted hp.watching]
        exact onPacketCompleted_of_not_connected hup packet
      rw [requests, hup, hsame]
      exact ⟨h.subscribed, h.sockets, h.roster⟩
  | true =>
      cases hasks : asks packet with
      | none =>
          have hsame : p.step (.packetCompleted pc packet) = p := by
            rw [step_packetCompleted hp.watching]
            exact onPacketCompleted_of_asks_none hasks
          rw [requests, hup, if_pos rfl, hasks, hsame]
          exact ⟨h.subscribed, h.sockets, h.roster⟩
      | some strDeviceId =>
          have hq := @granted_onPacketCompleted p pc hp.watching hup packet strDeviceId hasks
          rw [← step_packetCompleted hp.watching] at hq
          rw [requests, hup, if_pos rfl, hasks]
          -- who is left in a channel of the session after it left the one it names
          have hleft : ∀ s d, ¬(s = pc ∧ d = generateDeviceId (p.getDeviceId pc)) ∧ a.sub s d
              ↔ s ≠ pc ∧ p.Subscribed s d := by
            intro s d
            rw [← h.subscribed]
            refine and_congr_left fun hsub => ?_
            constructor
            · intro hnot heq
              subst heq
              exact hnot ⟨rfl, (hp.watching s d hsub).2.symm⟩
            · exact fun hne hboth => hne hboth.1
          by_cases hnil : strDeviceId = []
          · subst hnil
            refine ⟨?_, htcp, h.roster.trans hq.roster.symm⟩
            intro s d
            rw [hq.subscribed]
            refine Iff.trans ?_ (hleft s d).symm
            by_cases hs : s = pc
            · rw [if_pos hs]
              exact iff_of_false (fun hfalse => hfalse.1 rfl) fun hne => hne.1 hs
            · rw [if_neg hs, and_iff_right hs]
          · have hempty : strDeviceId.isEmpty = false := by simpa using hnil
            simp only [hempty, Bool.false_eq_true, if_false]
            refine ⟨?_, htcp, h.roster.trans hq.roster.symm⟩
            intro s d
            rw [hq.subscribed]
            show _ ↔ (s = pc ∧ d = generateDeviceId strDeviceId)
              ∨ ¬(s = pc ∧ d = generateDeviceId (p.getDeviceId pc)) ∧ a.sub s d
            rw [hleft]
            by_cases hs : s = pc
            · rw [if_pos hs]
              constructor
              · exact fun hd => Or.inl ⟨hs, hd.2.symm⟩
              · intro hd
                rcases hd with hd | hd
                · exact ⟨hnil, hd.2.symm⟩
                · exact absurd hs hd.1
            · rw [if_neg hs]
              exact ⟨fun hsub => Or.inr ⟨hs, hsub⟩,
                fun hd => hd.elim (fun heq => absurd heq.1 hs) And.right⟩

/-- A packet of the upstream. -/
theorem Refines.clientMessage (h : Refines p a) (packet : Ipc.Packet) (behind : List UInt8) :
    Refines (p.step (.clientMessage packet behind))
      (Runs.run Spec.step a (p.requests (.clientMessage packet behind))) := by
  have hstep : p.step (.clientMessage packet behind)
      = { p.onClientMessage packet behind with roster := p.roster } := rfl
  rw [hstep, requests, onClientMessage]
  by_cases htype : packet.type = Ipc.IPC_PKT_TYPE_JT1078_PACKET
  · rw [if_pos htype, if_pos htype]
    generalize loadU64 (packet.data ++ behind) = deviceId
    have hsockets : ∀ s, ((p.pcPublisher.publish deviceId packet p.sessions).2.1 s).tcp
        = a.offerAll TcpSession.isCanWrite sendFrame deviceId packet s := by
      intro s
      classical
      rw [PcPublisher.publish_sessions, PubSub.State.offerAll, ← h.sockets]
      by_cases hsub : p.pcPublisher.Subscribed s deviceId
      · rw [if_pos hsub, if_pos ((h.subscribed s deviceId).mp hsub)]
        exact tcp_offered packet (p.sessions s)
      · rw [if_neg hsub, if_neg fun hs => hsub ((h.subscribed s deviceId).mpr hs)]
    refine ⟨?_, hsockets, h.roster⟩
    intro s d
    show (p.pcPublisher.publish deviceId packet p.sessions).1.Subscribed s d
      ↔ a.sub s d ∧ (d = deviceId →
        (a.offerAll TcpSession.isCanWrite sendFrame deviceId packet s).isCanWrite = true)
    rw [PcPublisher.subscribed_publish, ← hsockets]
    exact and_congr_left' (h.subscribed s d)
  · rw [if_neg htype, if_neg htype]
    exact ⟨h.subscribed, h.sockets, h.roster⟩

/-- **One event** of the server is some requests of the machine. -/
theorem Refines.step (h : Refines p a) (hp : p.Inv) (e : Event) :
    Refines (p.step e) (Runs.run Spec.step a (p.requests e)) := by
  cases e with
  | newConnection pc socket init =>
      cases init with
      | false => exact ⟨h.subscribed, h.sockets, congrArg (·.next (.rejected pc)) h.roster⟩
      | true =>
          refine ⟨h.subscribed, ?_, congrArg (·.next (.opens pc)) h.roster⟩
          intro s
          show (Function.update p.sessions pc (.new socket) s).tcp
            = Function.update a.session pc (.init socket) s
          rw [Function.update_apply, Function.update_apply]
          split
          next => rfl
          next => exact h.sockets s
  | packetCompleted pc packet => exact h.packetCompleted hp packet
  | packetError pc =>
      refine ⟨?_, ?_, congrArg (·.next (.closes pc)) h.roster⟩
      · intro s d
        show (p.unSubscribeDeviceId pc).Subscribed s d ↔ s ≠ pc ∧ a.sub s d
        rw [subscribed_unSubscribeDeviceId hp.watching, h.subscribed]
      · intro s
        show ((p.unSubscribeDeviceId pc).sessions s).tcp = a.session s
        rw [unSubscribeDeviceId_frame.1, ← h.sockets]
        show (Function.update p.sessions pc _ s).tcp = _
        rw [Function.update_apply]
        split
        next heq => rw [heq]; rfl
        next => rfl
  | clientMessage packet behind => exact h.clientMessage packet behind
  | clientConnect _ | clientCleared | clientError | connectTimer _ | heartbeatTimer =>
      exact h.quiet (quiet_step rfl)

/-! ## §3. The log of a viewer. -/

/-- Events that publish nothing send the viewers nothing. -/
theorem inbox_of_no_publish {rs : List (PubSub.Request UInt64 UInt64 Ipc.Packet TcpSession)}
    (hrs : PubSub.messages rs = []) (a : Spec) :
    a.inbox TcpSession.isCanWrite sendFrame s rs = [] :=
  List.sublist_nil.mp (hrs ▸ PubSub.State.inbox_sublist s rs a)

theorem messages_packetCompleted (packet : Ipc.Packet) :
    PubSub.messages (p.requests (.packetCompleted pc packet)) = [] := by
  rw [requests]
  split
  · split
    · rfl
    next strDeviceId _ => cases strDeviceId <;> rfl
  · rfl

/-- A message of the upstream. -/
def Event.isMessage : Event → Bool
  | .clientMessage _ _ => true
  | _ => false

/-- Nothing else is sent to a viewer. -/
theorem delivered_step_other (hp : p.Inv) {e : Event} (he : e.isMessage = false) :
    (p.step e).delivered = p.delivered := by
  cases e with
  | newConnection pc socket init => cases init <;> rfl
  | packetError pc => exact unSubscribeDeviceId_frame.2.2.2.1
  | packetCompleted pc packet =>
      rw [step_packetCompleted hp.watching]
      rcases onPacketCompleted_cases (p := p) pc packet with heq | ⟨strDeviceId, hup, hasks⟩
      · rw [heq]
      · exact (granted_onPacketCompleted hp.watching hup hasks).delivered
  | clientConnect _ | clientCleared | clientError | connectTimer _ | heartbeatTimer =>
      exact (quiet_step rfl).delivered
  | clientMessage packet behind => cases he

/-- A message of another type is not sent either. -/
theorem delivered_clientMessage_of_ne {packet : Ipc.Packet} (behind : List UInt8)
    (htype : packet.type ≠ Ipc.IPC_PKT_TYPE_JT1078_PACKET) :
    (p.step (.clientMessage packet behind)).delivered = p.delivered := by
  show (p.onClientMessage packet behind).delivered = _
  rw [onClientMessage, if_neg htype]

/-- One of the right type goes to the viewers in its channel, once each. -/
theorem delivered_clientMessage {packet : Ipc.Packet} (behind : List UInt8)
    (htype : packet.type = Ipc.IPC_PKT_TYPE_JT1078_PACKET) :
    let deviceId := loadU64 (packet.data ++ behind)
    ∃ calls : List UInt64, calls.Nodup
      ∧ (∀ s, s ∈ calls ↔ p.Subscribed s deviceId ∧ (p.sessions s).isCanWrite = true)
      ∧ (p.step (.clientMessage packet behind)).delivered
        = p.delivered ++ calls.map fun pc => (pc, deviceId, packet) := by
  intro deviceId
  obtain ⟨hnodup, hmem⟩ := @PcPublisher.publish_sent p.pcPublisher deviceId packet p.sessions
  refine ⟨_, hnodup, hmem, ?_⟩
  show (p.onClientMessage packet behind).delivered = _
  rw [onClientMessage, if_pos htype]
  rfl

/-- **One event** sends a viewer what the machine sends it. -/
theorem sentTo_step (h : Refines p a) (hp : p.Inv) (e : Event) :
    (p.step e).sentTo s
      = p.sentTo s ++ a.inbox TcpSession.isCanWrite sendFrame s (p.requests e) := by
  have hsame : (p.step e).delivered = p.delivered → PubSub.messages (p.requests e) = [] →
      (p.step e).sentTo s
        = p.sentTo s ++ a.inbox TcpSession.isCanWrite sendFrame s (p.requests e) := by
    intro hdelivered hnothing
    rw [inbox_of_no_publish hnothing, List.append_nil, sentTo, sentTo, hdelivered]
  cases e with
  | newConnection pc socket init => cases init <;> exact hsame rfl rfl
  | packetError pc => exact hsame (delivered_step_other hp rfl) rfl
  | packetCompleted pc packet =>
      exact hsame (delivered_step_other hp rfl) (messages_packetCompleted packet)
  | clientConnect _ | clientCleared | clientError | connectTimer _ | heartbeatTimer =>
      exact hsame (delivered_step_other hp rfl) rfl
  | clientMessage packet behind =>
      by_cases htype : packet.type = Ipc.IPC_PKT_TYPE_JT1078_PACKET
      · have hrequests : p.requests (.clientMessage packet behind)
            = [.publish (loadU64 (packet.data ++ behind)) packet] := if_pos htype
        obtain ⟨calls, hnodup, hmem, hdelivered⟩ := delivered_clientMessage (p := p) behind htype
        rw [hrequests, sentTo, hdelivered]
        have hiff : s ∈ calls ↔ a.receives TcpSession.isCanWrite
            (loadU64 (packet.data ++ behind)) s := by
          rw [hmem, PubSub.State.receives, ← h.sockets, ← h.subscribed]
          rfl
        rw [List.filterMap_append, PubSub.filterMap_once hnodup fun _ => rfl,
          PubSub.State.inbox, PubSub.State.inbox, List.append_nil]
        apply congrArg
        classical
        exact if_congr hiff rfl rfl
      · have hrequests : p.requests (.clientMessage packet behind) = [] := if_neg htype
        exact hsame (delivered_clientMessage_of_ne behind htype) (by rw [hrequests]; rfl)

/-! ## §4. Whole runs. -/

/-- The requests are those the machine's sessions can make. -/
theorem admits_requests (h : Refines p a) {e : Event} (he : p.Enabled e) :
    Runs.Along Spec.step PubSub.State.admits a (p.requests e) := by
  have hroster : ∀ c, p.roster.admits c → a.roster.admits c := by
    intro c hc
    rw [h.roster]
    exact hc
  cases e with
  | newConnection pc socket init => cases init <;> exact ⟨hroster _ he.1, trivial⟩
  | packetError pc => exact ⟨hroster (.closes pc) he.1, trivial⟩
  | packetCompleted pc packet =>
      have hspeaks : a.roster.admits (.speaks pc) := hroster (.speaks pc) he.1
      rw [requests]
      split
      · split
        · exact ⟨hspeaks, trivial⟩
        next strDeviceId _ =>
          cases strDeviceId with
          | nil => exact ⟨hspeaks, trivial⟩
          | cons x xs => exact ⟨hspeaks, hspeaks, trivial⟩
      · exact ⟨hspeaks, trivial⟩
  | clientMessage packet behind =>
      rw [requests]
      split
      · exact ⟨trivial, trivial⟩
      · trivial
  | clientConnect _ | clientCleared | clientError | connectTimer _ | heartbeatTimer => trivial

/-- **The simulation**, over a run from any state the two are related in. -/
theorem refines_run (events : List Event) : ∀ {p : PcServer} {a : Spec}, Refines p a → p.Inv →
    Runs.Along step Enabled p events →
    Refines (Runs.run step p events) (Runs.run Spec.step a (p.requestsOf events))
      ∧ Runs.Along Spec.step PubSub.State.admits a (p.requestsOf events)
      ∧ ∀ s, (Runs.run step p events).sentTo s
          = p.sentTo s ++ a.inbox TcpSession.isCanWrite sendFrame s (p.requestsOf events) := by
  induction events with
  | nil => exact fun h _ _ => ⟨h, trivial, fun s => (List.append_nil _).symm⟩
  | cons e es ih =>
      intro p a h hp hes
      obtain ⟨hrefines, hadmits, hsent⟩ := ih (h.step hp e) (hp.step e hes.1) hes.2
      rw [requestsOf, Runs.run_append]
      refine ⟨hrefines, Runs.along_append.mpr ⟨admits_requests h hes.1, hadmits⟩, ?_⟩
      intro s
      rw [Runs.run_cons, hsent, sentTo_step h hp, PubSub.State.inbox_append, List.append_assoc]

/-- Sockets are new when their sessions are. -/
theorem connect_mem_requestsOf {endpoint : TcpSession} (events : List Event) :
    ∀ {p : PcServer}, .connect s endpoint ∈ p.requestsOf events →
      ∃ socket, endpoint = .init socket := by
  induction events with
  | nil => exact fun h => absurd h List.not_mem_nil
  | cons e es ih =>
      intro p h
      rcases List.mem_append.mp h with h | h
      · cases e with
        | newConnection pc socket init =>
            cases init with
            | false => simp [requests] at h
            | true =>
                simp only [requests, if_true, List.mem_singleton,
                  PubSub.Request.connect.injEq] at h
                exact ⟨socket, h.2⟩
        | packetCompleted pc packet =>
            rw [requests] at h
            split at h
            · split at h
              · simp at h
              next strDeviceId _ => cases strDeviceId <;> simp at h
            · simp at h
        | clientMessage packet behind =>
            rw [requests] at h
            split at h <;> simp at h
        | packetError pc => simp [requests] at h
        | clientConnect _ | clientCleared | clientError | connectTimer _ | heartbeatTimer =>
            simp [requests] at h
      · exact ih h

/-- **`pc_server` is a publish/subscribe server**, with what comes from
`jt1078_server` for the messages.  After any run: a session is in a channel
exactly when the machine has it subscribed; `SendPacket` was called on each
session with the packets that came while it watched their device and could be
written to, each once and in the order they came; and its socket carries their
frames. -/
theorem pc_server_refines_subscriptions (garbage : UInt8) (result : Option ConnectResult)
    (events : List Event) (h : Runs.Along step Enabled (init garbage result).2 events) :
    let p := Runs.run step (init garbage result).2 events
    let requests := (init garbage result).2.requestsOf events
    let a := Runs.run Spec.step Spec.init requests
    (∀ s d, p.Subscribed s d ↔ a.sub s d)
      ∧ ∀ s, let inbox := Spec.init.inbox TcpSession.isCanWrite sendFrame s requests
        p.sentTo s = inbox
          ∧ inbox.Sublist (PubSub.messages requests)
          ∧ (p.sessions s).tcp.Carries (inbox.map Ipc.Packet.bytes) := by
  intro p requests a
  have hquiet : Quiet (new garbage) (init garbage result).2 := by
    have hnew : Quiet (new garbage) { new garbage with heartbeatTimer := true } :=
      ⟨rfl, rfl, rfl, rfl, rfl, rfl⟩
    exact hnew.trans (quiet_asyncConnectServer result)
  have hnew : Refines (new garbage) Spec.init :=
    ⟨fun s d => by simp [new, Subscribed, PcPublisher.Subscribed, Spec.init], fun _ => rfl, rfl⟩
  obtain ⟨hrefines, hadmits, hsent⟩ :=
    refines_run events (hnew.quiet hquiet) (inv_init garbage result) h
  refine ⟨hrefines.subscribed, fun s => ⟨?_, PubSub.State.inbox_sublist s requests _, ?_⟩⟩
  · rw [hsent, sentTo, hquiet.delivered]
    rfl
  · rw [hrefines.sockets]
    refine PubSub.State.inbox_rule
      (I := fun (tcp : TcpSession) packets => tcp.Carries (packets.map Ipc.Packet.bytes)) ?_
      requests ?_ Spec.init (fun _ => []) (fun _ _ hsub => False.elim hsub)
      Roster.grounded_empty (fun _ _ => rfl) (fun _ => TcpSession.carries_init []) hadmits s
    · intro tcp packets packet htcp hcan
      rw [List.map_append]
      exact htcp.transmit hcan packet.bytes
    · intro k endpoint hmem
      obtain ⟨socket, rfl⟩ := connect_mem_requestsOf events hmem
      exact TcpSession.carries_init socket

/-- A viewer asks, and two packets come, one of them for its device. -/
theorem pc_server_refines_subscriptions_of_two :
    let asks : Ipc.Packet := ⟨⟨16, 1, 0, Ipc.IPC_PKT_TYPE_SUBSCRIBE_DEVICE_ID⟩, [49], rfl⟩
    let video (deviceId : UInt8) : Ipc.Packet :=
      ⟨⟨16, 9, 0, Ipc.IPC_PKT_TYPE_JT1078_PACKET⟩, [deviceId, 0, 0, 0, 0, 0, 0, 0, 5], rfl⟩
    let events := [.newConnection 7 [] true, .packetCompleted 7 asks, .clientMessage (video 1) [],
      .clientMessage (video 2) []]
    let p := Runs.run step (init 0 (some .connected)).2 events
    p.sentTo 7 = [video 1]
      ∧ (p.Subscribed 7 1 ↔ (Runs.run Spec.step Spec.init
          ((init 0 (some .connected)).2.requestsOf events)).sub 7 1) :=
  ⟨by decide, (pc_server_refines_subscriptions 0 (some .connected)
    [.newConnection 7 [] true,
      .packetCompleted 7 ⟨⟨16, 1, 0, Ipc.IPC_PKT_TYPE_SUBSCRIBE_DEVICE_ID⟩, [49], rfl⟩,
      .clientMessage
        ⟨⟨16, 9, 0, Ipc.IPC_PKT_TYPE_JT1078_PACKET⟩, [1, 0, 0, 0, 0, 0, 0, 0, 5], rfl⟩ [],
      .clientMessage
        ⟨⟨16, 9, 0, Ipc.IPC_PKT_TYPE_JT1078_PACKET⟩, [2, 0, 0, 0, 0, 0, 0, 0, 5], rfl⟩ []]
    (by decide)).1 7 1⟩

/-! ## §5. What a viewer is shown. -/

/-- The device and the packet of a call of `SendPacket`, if it was for the
viewer. -/
def shownFor (v : UInt64) (call : UInt64 × UInt64 × Ipc.Packet) : Option (UInt64 × Ipc.Packet) :=
  if call.1 = v then some call.2 else none

/-- What the viewer was shown: packets, and the devices they were taken for. -/
def shown (p : PcServer) (v : UInt64) : List (UInt64 × Ipc.Packet) :=
  p.delivered.filterMap (shownFor v)

theorem shown_step_other (hp : p.Inv) {e : Event} (he : e.isMessage = false) (v : UInt64) :
    (p.step e).shown v = p.shown v := by
  rw [shown, shown, delivered_step_other hp he]

/-- **A message** is shown at most once, and is shown to those who watch its
device and can be written to. -/
theorem shown_clientMessage (packet : Ipc.Packet) (behind : List UInt8) (v : UInt64) :
    let call := (loadU64 (packet.data ++ behind), packet)
    ∃ now, (p.step (.clientMessage packet behind)).shown v = p.shown v ++ now
      ∧ now.Sublist [call]
      ∧ (packet.type = Ipc.IPC_PKT_TYPE_JT1078_PACKET → p.Subscribed v call.1 →
          (p.sessions v).isCanWrite = true → now = [call]) := by
  intro call
  by_cases htype : packet.type = Ipc.IPC_PKT_TYPE_JT1078_PACKET
  · obtain ⟨calls, hnodup, hmem, hdelivered⟩ := delivered_clientMessage (p := p) behind htype
    refine ⟨if v ∈ calls then [call] else [], ?_, ?_, ?_⟩
    · rw [shown, hdelivered, List.filterMap_append, PubSub.filterMap_once hnodup fun _ => rfl]
      rfl
    · split
      · exact List.Sublist.refl _
      · exact List.nil_sublist _
    · exact fun _ hsub hcan => if_pos ((hmem v).mpr ⟨hsub, hcan⟩)
  · refine ⟨[], ?_, List.nil_sublist _, fun hsame => absurd hsame htype⟩
    rw [shown, delivered_clientMessage_of_ne behind htype, List.append_nil]
    rfl

end MultiProcessServer.PcServer
