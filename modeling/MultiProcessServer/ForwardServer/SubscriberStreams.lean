/-
  MultiProcessServer.ForwardServer.SubscriberStreams
  ──────────────────────────────────────────────────
  What `ForwardServer` puts on the sockets of its subscribers, over whole runs.

  Main result:

    `each_subscriber_is_sent_its_inbox` :
        every socket carries the frames of the messages published while its
        session was subscribed and could be written to, numbered from 0.
-/
import MultiProcessServer.Core.OutgoingStream
import MultiProcessServer.ForwardServer.ForwardServer
import MultiProcessServer.Lib.Inbox

namespace MultiProcessServer.Forward

/-! ## §1. One subscriber. -/

namespace Subscriber

/-- The sequence id of the last of these messages, sent after `last`. -/
def lastSeqId (last : UInt32) (messages : List Message) : UInt32 :=
  messages.foldl (fun seqId _ => Ipc.nextPktSeqId seqId) last

theorem packets_concat (messages : List Message) (m : Message) (last : UInt32) :
    packets last (messages ++ [m])
      = packets last messages ++ [m.ipcPacket (Ipc.nextPktSeqId (lastSeqId last messages))] := by
  induction messages generalizing last with
  | nil => rfl
  | cons x xs ih => rw [List.cons_append, packets, ih]; rfl

theorem written_sendMsg (s : Subscriber) (m : Message) :
    s.tcp.written <+: (s.sendMsg m).2.tcp.written := by
  rw [(sendMsg_eq m).1]
  exact s.tcp.written_transmit _

/-- The subscriber was sent these messages. -/
structure Sent (s : Subscriber) (messages : List Message) : Prop where
  carries : s.tcp.Carries ((packets Ipc.INVALID_PKT_SEQ_ID messages).map Ipc.Packet.bytes)
  last : s.uLastIpcPktSeqId = lastSeqId Ipc.INVALID_PKT_SEQ_ID messages

theorem sent_new (socket : List SockResult) : (new socket).Sent [] where
  carries := TcpSession.carries_init socket
  last := rfl

/-- **`SendMsg`** puts one more frame on the socket. -/
theorem Sent.sendMsg {s : Subscriber} {messages : List Message} (h : s.Sent messages)
    (m : Message) (hcan : s.isCanWrite = true) : (s.sendMsg m).2.Sent (messages ++ [m]) := by
  rw [(sendMsg_eq m).1, h.last]
  constructor
  · rw [packets_concat, List.map_append]
    exact h.carries.transmit hcan _
  · show Ipc.nextPktSeqId _ = lastSeqId _ (messages ++ [m])
    simp [lastSeqId]

end Subscriber

namespace ForwardServer

/-! ## §2. The log of a session. -/

/-- The message of a call of `SendMsg`, if it is for the session. -/
def callFor (s : UInt64) (call : UInt64 × Message) : Option Message :=
  if call.1 = s then some call.2 else none

/-- The calls of `SendMsg` that were for a session. -/
def sentTo (f : ForwardServer) (s : UInt64) : List Message := f.delivered.filterMap (callFor s)

/-- The messages the machine owes a session after a run. -/
noncomputable def Spec.inbox (s : UInt64) (events : List Event) : List Message :=
  PubSub.State.inbox Subscriber.isCanWrite (fun m s => (s.sendMsg m).2) s Spec.init
    (events.map Event.request)

/-- What a run publishes. -/
def published (events : List Event) : List Message :=
  PubSub.messages (events.map Event.request)

variable {f : ForwardServer} {a : Spec} {s : UInt64}

/-- **One event**: a session is sent what the machine sends it. -/
theorem sentTo_step (h : Refines f a) (e : Event) :
    (f.step e).sentTo s
      = f.sentTo s ++ a.sends Subscriber.isCanWrite s e.request := by
  have hsame : (f.step e).delivered = f.delivered →
      (f.step e).sentTo s = f.sentTo s ++ [] := by
    intro hdelivered
    rw [List.append_nil, sentTo, sentTo, hdelivered]
  cases e with
  | newConnection sessionId socket init =>
      cases init with
      | false => exact hsame rfl
      | true => exact hsame rfl
  | packetError sessionId => exact hsame rfl
  | packetCompleted sessionId packet =>
      have hnone : a.sends Subscriber.isCanWrite s (Event.packetCompleted sessionId packet).request
          = [] := by
        rw [Event.request]
        split
        · rfl
        · split <;> rfl
      rw [hnone]
      apply hsame
      show (f.onPacketCompleted sessionId packet).delivered = f.delivered
      unfold onPacketCompleted processPacketSubscriber processPacketUnSubscriber
      split
      · rfl
      · split
        · dsimp only
          split
          · split <;> rfl
          · rfl
        · split <;> rfl
  | publish deviceId pkt =>
      obtain ⟨hnodup, hmem⟩ :=
        @Publisher.publish_sent f.toPublisher deviceId ⟨deviceId, pkt⟩ f.sessions
      have hiff : s ∈ (f.toPublisher.publish deviceId ⟨deviceId, pkt⟩ f.sessions).2.2
          ↔ a.receives Subscriber.isCanWrite deviceId s := by
        rw [hmem, h.subscribed, h.sessions]
        rfl
      have hdelivered : (f.step (.publish deviceId pkt)).delivered
          = f.delivered ++ (f.toPublisher.publish deviceId ⟨deviceId, pkt⟩ f.sessions).2.2.map
              fun sessionId => (sessionId, ⟨deviceId, pkt⟩) := rfl
      rw [sentTo, hdelivered, List.filterMap_append, PubSub.filterMap_once hnodup fun _ => rfl]
      apply congrArg
      classical
      exact if_congr hiff rfl rfl

/-! ## §3. Whole runs. -/

theorem sentTo_run (events : List Event) : ∀ (f : ForwardServer) (a : Spec), Refines f a →
    (Runs.run ForwardServer.step f events).sentTo s
      = f.sentTo s ++ PubSub.State.inbox Subscriber.isCanWrite (fun m s => (s.sendMsg m).2) s a
          (events.map Event.request) := by
  induction events with
  | nil => exact fun f a _ => (List.append_nil _).symm
  | cons e es ih =>
      intro f a h
      rw [Runs.run_cons, ih _ _ (h.step e), sentTo_step h, List.append_assoc]
      rfl

/-- The run of the machine as one of its requests. -/
theorem spec_run_eq (events : List Event) (a : Spec) :
    Runs.run Spec.step a events
      = Runs.run (PubSub.State.step Subscriber.isCanWrite fun m s => (s.sendMsg m).2) a
          (events.map Event.request) := by
  rw [Runs.run, Runs.run, List.foldl_map]
  rfl

theorem admits_requests {events : List Event} : ∀ {a : Spec},
    Runs.Along Spec.step (fun a e => a.admits e.request) a events →
    Runs.Along (PubSub.State.step Subscriber.isCanWrite fun m s => (s.sendMsg m).2)
      PubSub.State.admits a (events.map Event.request) := by
  induction events with
  | nil => exact fun _ => trivial
  | cons e es ih => exact fun h => ⟨h.1, ih h.2⟩

theorem refines_run {isRealtime : Bool} {garbage : UInt8} {events : List Event}
    (h : Admissible events) :
    Refines (Runs.run ForwardServer.step (.new isRealtime garbage) events)
      (Runs.run Spec.step Spec.init events) := by
  have hinit : Refines (.new isRealtime garbage) Spec.init :=
    ⟨rfl, fun s d => by simp [new, Publisher.Subscribed, Spec.init],
      fun s => by simp [new, Spec.init]⟩
  exact Runs.run_simulation (fun _ _ e href _ => href.step e) hinit (admits_of_admissible h)

/-- Only `OnNewConnection` makes a session, with a new socket. -/
theorem sent_of_connect {e : Event} {k : UInt64} {endpoint : Subscriber}
    (he : e.request = .connect k endpoint) : endpoint.Sent [] := by
  cases e with
  | newConnection sessionId socket init =>
      cases init with
      | false => cases he
      | true =>
          cases he
          exact Subscriber.sent_new socket
  | packetCompleted sessionId packet =>
      rw [Event.request] at he
      split at he
      · cases he
      · split at he <;> cases he
  | packetError sessionId => cases he
  | publish deviceId pkt => cases he

/-- **Every socket carries what its session is owed.**  After any run, for
every session: `SendMsg` was called on it with the messages published while it
was subscribed and could be written to, in the order they were published; the
bytes on its socket are a beginning of their frames, whose sequence ids count
from 0; and as long as it can be written to, nothing of them is missing but
what is pending. -/
theorem each_subscriber_is_sent_its_inbox (isRealtime : Bool) (garbage : UInt8)
    (events : List Event) (h : Admissible events) (s : UInt64) :
    let f := Runs.run ForwardServer.step (.new isRealtime garbage) events
    let inbox := Spec.inbox s events
    f.sentTo s = inbox
      ∧ inbox.Sublist (published events)
      ∧ (f.sessions s).tcp.Carries
          ((Subscriber.packets Ipc.INVALID_PKT_SEQ_ID inbox).map Ipc.Packet.bytes) := by
  intro f inbox
  have hrefines : Refines f (Runs.run Spec.step Spec.init events) := refines_run h
  refine ⟨?_, PubSub.State.inbox_sublist _ _ _, ?_⟩
  · have hinit : Refines (.new isRealtime garbage) Spec.init := @refines_run _ _ [] trivial
    exact sentTo_run events _ _ hinit
  · -- the rule of inboxes, for `Sent`
    have hsent : ((Runs.run Spec.step Spec.init events).session s).Sent inbox := by
      rw [spec_run_eq]
      refine PubSub.State.inbox_rule (fun b ms m hb hcan => hb.sendMsg m hcan)
        (events.map Event.request) ?_ Spec.init (fun _ => []) (fun _ _ hsub => False.elim hsub)
        Roster.grounded_empty (fun _ _ => rfl) (fun _ => Subscriber.sent_new [])
        (admits_requests (admits_of_admissible h)) s
      intro k endpoint hmem
      obtain ⟨e, -, he⟩ := List.mem_map.mp hmem
      exact sent_of_connect he
    rw [hrefines.sessions]
    exact hsent.carries

/-- A session that asks between two publications is sent the second. -/
theorem each_subscriber_is_sent_its_inbox_of_two :
    let pkt (byte : UInt8) : Jt1078.Packet :=
      ⟨{ Jt1078.Header.cleared with wdBodyLen := 1 }, [byte], rfl⟩
    let subscribe : Ipc.Packet := ⟨⟨16, 1, 0, Ipc.IPC_PKT_TYPE_SUBSCRIBE_DEVICE_ID⟩, [49], rfl⟩
    let events := [.newConnection 3 [] true, .publish 1 (pkt 5), .packetCompleted 3 subscribe,
      .publish 1 (pkt 6)]
    let f := Runs.run ForwardServer.step (.new true 0) events
    f.sentTo 3 = [⟨1, pkt 6⟩] ∧ f.sentTo 3 = Spec.inbox 3 events :=
  ⟨by decide, (each_subscriber_is_sent_its_inbox true 0
    [.newConnection 3 [] true,
      .publish 1 ⟨{ Jt1078.Header.cleared with wdBodyLen := 1 }, [5], rfl⟩,
      .packetCompleted 3 ⟨⟨16, 1, 0, Ipc.IPC_PKT_TYPE_SUBSCRIBE_DEVICE_ID⟩, [49], rfl⟩,
      .publish 1 ⟨{ Jt1078.Header.cleared with wdBodyLen := 1 }, [6], rfl⟩]
    (by decide) 3).1⟩

/-! ## §4. One event, for servers that are part of something. -/

/-- What holds of a server in every state; `r` is what is known of its
sessions. -/
structure Serving (f : ForwardServer) (r : Roster UInt64) : Prop where
  refines : ∃ a : Spec, Refines f a ∧ a.roster = r ∧ a.Registered
  grounded : r.Grounded
  sent : ∀ s, (f.sessions s).Sent (f.sentTo s)
  unused : ∀ s, s ∉ r.used → f.sentTo s = []

variable {r : Roster UInt64} {d : UInt64} {e : Event}

theorem serving_new (isRealtime : Bool) (garbage : UInt8) :
    (new isRealtime garbage).Serving .empty where
  refines := ⟨Spec.init, @refines_run _ _ [] trivial, rfl, fun _ _ hsub => False.elim hsub⟩
  grounded := Roster.grounded_empty
  sent _ := Subscriber.sent_new []
  unused _ _ := rfl

theorem Serving.step (h : f.Serving r) (he : r.admits e.request.contact) :
    (f.step e).Serving (r.next e.request.contact) := by
  obtain ⟨a, hrefines, rfl, hregistered⟩ := h.refines
  have hadmits : a.admits e.request := he
  refine ⟨⟨a.step e, hrefines.step e, PubSub.State.roster_step a e.request,
    a.registered_step e.request hregistered hadmits⟩, h.grounded.next _, ?_, ?_⟩
  · intro s
    have hsent := PubSub.State.inbox_rule (I := Subscriber.Sent)
      (fun b ms m hb hcan => hb.sendMsg m hcan) [e.request]
      (fun k endpoint hmem => sent_of_connect (List.mem_singleton.mp hmem).symm) a f.sentTo
      hregistered h.grounded h.unused (fun s => hrefines.sessions ▸ h.sent s) ⟨hadmits, trivial⟩ s
    rw [PubSub.State.inbox, PubSub.State.inbox, List.append_nil, ← sentTo_step hrefines] at hsent
    rw [(hrefines.step e).sessions]
    exact hsent
  · intro s hs
    have hs' : s ∉ a.roster.used := fun hused => hs (Roster.mem_used_next _ hused)
    rw [sentTo_step hrefines, h.unused s hs',
      PubSub.State.sends_of_not_used hregistered h.grounded hs']
    rfl

theorem Serving.live_of_subscribed (h : f.Serving r) (hsub : f.Subscribed s d) : s ∈ r.live := by
  obtain ⟨a, hrefines, rfl, hregistered⟩ := h.refines
  exact hregistered s d ((hrefines.subscribed s d).mp hsub)

/-- Events of others take nothing from a session that can still be written to,
and give it nothing. -/
theorem Serving.subscribed_step_other (h : f.Serving r)
    (hspeaks : e.request.contact ≠ .speaks s) (hcloses : e.request.contact ≠ .closes s) :
    ((f.step e).Subscribed s d → f.Subscribed s d)
      ∧ (f.Subscribed s d → ((f.step e).sessions s).isCanWrite = true →
          (f.step e).Subscribed s d) := by
  obtain ⟨a, hrefines, -⟩ := h.refines
  rw [(hrefines.step e).subscribed, (hrefines.step e).sessions, hrefines.subscribed]
  exact PubSub.State.sub_step_other hspeaks hcloses

/-- The message is one of the device. -/
def isFor (d : UInt64) (m : Message) : Bool := m.deviceId == d

/-- **What a session is sent** is part of what is published, and all of it that
is for a device it is subscribed to, while it can be written to. -/
theorem Serving.sentTo_step (h : f.Serving r) (e : Event) (s : UInt64) :
    ∃ now, (f.step e).sentTo s = f.sentTo s ++ now ∧ now.Sublist (published [e])
      ∧ ∀ d, f.Subscribed s d → (f.sessions s).isCanWrite = true →
          now.filter (isFor d) = (published [e]).filter (isFor d) := by
  obtain ⟨a, hrefines, -⟩ := h.refines
  have hpublished : published [e] = e.request.message := List.append_nil _
  rw [hpublished]
  refine ⟨_, ForwardServer.sentTo_step hrefines e, PubSub.State.sends_sublist _ _ _, ?_⟩
  intro d hsub hcan
  cases e with
  | newConnection sessionId socket init => cases init <;> rfl
  | packetError sessionId => rfl
  | packetCompleted sessionId packet =>
      rw [Event.request]
      split
      · rfl
      · split <;> rfl
  | publish deviceId pkt =>
      by_cases hd : deviceId = d
      · subst hd
        have hreceives : a.receives Subscriber.isCanWrite deviceId s :=
          ⟨(hrefines.subscribed s deviceId).mp hsub, hrefines.sessions ▸ hcan⟩
        exact congrArg _ (PubSub.State.sends_of_receives hreceives)
      · -- a message of another device is none of its own
        have hother : ∀ ms : List Message, ms.Sublist [⟨deviceId, pkt⟩] →
            ms.filter (isFor d) = [] := by
          intro ms hms
          rw [List.filter_eq_nil_iff]
          intro m hm
          rw [List.mem_singleton.mp (hms.subset hm), isFor, beq_iff_eq]
          exact hd
        rw [hother _ (PubSub.State.sends_sublist _ _ _)]
        exact (hother _ (List.Sublist.refl _)).symm

/-- The bytes on a socket stay there. -/
theorem Serving.written_step (h : f.Serving r) (hopens : e.request.contact ≠ .opens s) :
    (f.sessions s).tcp.written <+: ((f.step e).sessions s).tcp.written := by
  obtain ⟨a, hrefines, -⟩ := h.refines
  have hconnect : ∀ endpoint, e.request ≠ .connect s endpoint := by
    intro endpoint heq
    rw [heq] at hopens
    exact hopens rfl
  rw [(hrefines.step e).sessions, hrefines.sessions]
  show _ <+: ((PubSub.State.step _ _ a e.request).session s).tcp.written
  rw [PubSub.State.session_step a e.request s hconnect]
  generalize a.sends Subscriber.isCanWrite s e.request = now
  generalize a.session s = subscriber
  induction now generalizing subscriber with
  | nil => exact List.prefix_refl _
  | cons m now ih => exact (subscriber.written_sendMsg m).trans (ih _)

/-- A socket that was given up stays so. -/
theorem Serving.isCanWrite_of_step (h : f.Serving r) (hopens : e.request.contact ≠ .opens s)
    (hcan : ((f.step e).sessions s).isCanWrite = true) : (f.sessions s).isCanWrite = true := by
  obtain ⟨a, hrefines, -⟩ := h.refines
  rw [(hrefines.step e).sessions] at hcan
  rw [hrefines.sessions]
  exact PubSub.State.canWrite_of_step hopens hcan

end ForwardServer

end MultiProcessServer.Forward
