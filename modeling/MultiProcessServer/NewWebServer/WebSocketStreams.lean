/-
  MultiProcessServer.NewWebServer.WebSocketStreams
  ────────────────────────────────────────────────
  What `CarWebServer` sends over its WebSockets, over whole runs.

  The topics refine the publish/subscribe machine with handles as sessions:
  opening a handle at `/live/` and a device subscribes it, closing it ends
  that, and every packet of video the upstream client completes is published.

  Main result:

    `each_handle_is_sent_its_inbox` :
        `SendToHdl` is called for a handle with exactly the data that came for
        its device while it was open, each once and in order.
-/
import MultiProcessServer.Lib.Inbox
import MultiProcessServer.NewWebServer.CarWebServer
import MultiProcessServer.PayloadReads

namespace MultiProcessServer

open Runs

namespace CarWebSocketServer

/-! ## §1. The topics and the machine. -/

/-- The publish/subscribe machine; handles are always written to. -/
abbrev Spec := PubSub.State ConnectionHdl UInt64 Unit

/-- A request of a handle. -/
abbrev Asked := PubSub.Request ConnectionHdl UInt64 (List UInt8) Unit

def always : Unit → Bool := fun _ => true

def keep : List UInt8 → Unit → Unit := fun _ handle => handle

/-- No handle has been opened. -/
def Spec.init : Spec where
  roster := .empty
  session _ := ()
  sub _ _ := False

noncomputable def Spec.step (spec : Spec) (r : Asked) : Spec := PubSub.State.step always keep spec r

/-- The device of a uri that is served. -/
def subject : Option (List UInt8) → Option UInt64
  | none => none
  | some uri =>
      if uri.take strLive.length = strLive ∧ (uri.drop strLive.length).length = 14 then
        some (generateDeviceId (uri.drop strLive.length))
      else none

/-- What an event asks of the machine. -/
def Event.requests : Event → List Asked
  | .onOpen hdl uri =>
      match subject uri with
      | none => [.reject hdl]
      | some deviceId => [.connect hdl (), .subscribe hdl deviceId]
  | .onClose hdl => [.leave hdl]
  | .updateData deviceId data => [.publish deviceId data]

/-- The data of a call of `SendToHdl`, if it is for the handle. -/
def Call.dataFor (hdl : ConnectionHdl) : Call → Option (List UInt8)
  | .sendToHdl x data => if x = hdl then some data else none
  | _ => none

/-- The topics stand for the subscriptions. -/
def Refines (s : CarWebSocketServer) (spec : Spec) : Prop :=
  ∀ hdl d, s.topicManager.Subscribed hdl d ↔ spec.sub hdl d

variable {s : CarWebSocketServer} {spec : Spec} {hdl x : ConnectionHdl} {d : UInt64}
  {uri : Option (List UInt8)}

theorem refines_new (garbage : UInt8) : (new garbage).Refines .init := by
  intro hdl d
  refine iff_of_false ?_ not_false
  simp [new, CarTopicManager.Subscribed]

/-- A uri that is served opens a subscription. -/
theorem onOpen_of_subject (s : CarWebSocketServer) (hdl : ConnectionHdl)
    (h : subject uri = some d) :
    ∃ strDeviceId, generateDeviceId strDeviceId = d
      ∧ s.onOpen hdl uri = s.addHdlAndSubscribeCarDeviceId hdl strDeviceId := by
  cases uri with
  | none => cases h
  | some uri =>
      simp only [subject] at h
      split at h
      next hlive =>
          refine ⟨uri.drop strLive.length, Option.some.inj h, ?_⟩
          simp only [onOpen]
          rw [if_pos hlive.1]
          exact if_neg (not_not_intro hlive.2)
      next => cases h

/-- A uri that is not is closed. -/
theorem onOpen_of_no_subject (s : CarWebSocketServer) (hdl : ConnectionHdl)
    (h : subject uri = none) :
    (s.onOpen hdl uri).1 = s ∧ ∀ x, (s.onOpen hdl uri).2.filterMap (Call.dataFor x) = [] := by
  cases uri with
  | none => exact ⟨rfl, fun _ => rfl⟩
  | some uri =>
      simp only [subject, ite_eq_right_iff, reduceCtorEq, imp_false, not_and] at h
      simp only [onOpen]
      by_cases hlive : uri.take strLive.length = strLive
      · rw [if_pos hlive, if_pos (h hlive)]
        exact ⟨rfl, fun _ => rfl⟩
      · rw [if_neg hlive]
        exact ⟨rfl, fun _ => rfl⟩

/-- Subscribing joins the topic of the device, -/
theorem subscribed_addHdl (strDeviceId : List UInt8) :
    (s.addHdlAndSubscribeCarDeviceId hdl strDeviceId).1.topicManager.Subscribed x d
      ↔ (x = hdl ∧ d = generateDeviceId strDeviceId) ∨ s.topicManager.Subscribed x d := by
  obtain ⟨topic, m, htopic, heq⟩ := s.addHdl_cases hdl strDeviceId
  rw [heq]
  exact CarTopicManager.subscribed_join htopic

/-- and sends nothing. -/
theorem dataFor_addHdl (strDeviceId : List UInt8) :
    (s.addHdlAndSubscribeCarDeviceId hdl strDeviceId).2.filterMap (Call.dataFor x) = [] := by
  obtain ⟨topic, m, htopic, heq⟩ := s.addHdl_cases hdl strDeviceId
  rw [heq]
  dsimp only
  split
  · rfl
  · rfl

/-- **`UpdateData`** sends the data to the handles of the topic, once each. -/
theorem dataFor_updateData (data : List UInt8) :
    (s.updateData d data).filterMap (Call.dataFor hdl)
      = if s.topicManager.Subscribed hdl d then [data] else [] := by
  unfold updateData CarTopicManager.getTopic
  cases htopic : s.topicManager.topics[d]? with
  | none =>
      have hnobody : ¬s.topicManager.Subscribed hdl d := by
        simp [CarTopicManager.Subscribed, htopic]
      rw [if_neg hnobody]
      rfl
  | some topic =>
      have hnodup : topic.hdls.toList.Nodup :=
        topic.hdls.distinct_toList.imp fun hne heq =>
          hne (Std.LawfulEqOrd.compare_eq_iff_eq.mpr heq)
      have hcall : ∀ x, Call.dataFor hdl (.sendToHdl x data)
          = if x = hdl then some data else none := fun _ => rfl
      show ((topic.publish data).map _).filterMap _ = _
      rw [CarTopic.publish, List.map_map]
      refine (PubSub.filterMap_once hnodup hcall).trans (if_congr ?_ rfl rfl)
      rw [CarTopicManager.subscribed_of_getElem htopic, Std.TreeSet.mem_toList]

/-- **One event**: the topics go on standing for the subscriptions, and each
handle is sent what the machine sends it. -/
theorem Refines.step (h : s.Refines spec) (e : Event) :
    (s.step e).Refines (run Spec.step spec e.requests)
      ∧ ∀ hdl, (s.calls e).filterMap (Call.dataFor hdl)
        = spec.inbox always keep hdl e.requests := by
  cases e with
  | onOpen hdl uri =>
      show (s.onOpen hdl uri).1.Refines _ ∧ ∀ x, (s.onOpen hdl uri).2.filterMap _ = _
      simp only [Event.requests]
      cases hsubject : subject uri with
      | none =>
          obtain ⟨hsame, hnothing⟩ := onOpen_of_no_subject s hdl hsubject
          rw [hsame]
          exact ⟨h, hnothing⟩
      | some deviceId =>
          obtain ⟨strDeviceId, rfl, heq⟩ := onOpen_of_subject s hdl hsubject
          rw [heq]
          refine ⟨fun x d => (subscribed_addHdl strDeviceId).trans ?_,
            fun x => dataFor_addHdl strDeviceId⟩
          rw [h]
          rfl
  | onClose hdl =>
      refine ⟨fun x d => subscribed_removeHdl.trans ?_, fun x => ?_⟩
      · rw [h]
        rfl
      · show ((s.emptied hdl).map _).filterMap _ = []
        rw [List.filterMap_map]
        exact List.filterMap_eq_nil_iff.mpr fun _ _ => rfl
  | updateData deviceId data =>
      refine ⟨fun x d => ?_, fun x => ?_⟩
      · show s.topicManager.Subscribed x d ↔ spec.sub x d ∧ (d = deviceId → true = true)
        rw [h]
        simp
      · refine (dataFor_updateData data).trans ?_
        show _ = spec.sends always x (.publish deviceId data) ++ []
        rw [List.append_nil, PubSub.State.sends]
        classical
        refine if_congr ?_ rfl rfl
        rw [h]
        exact (and_iff_left rfl).symm

/-- **A whole run.** -/
theorem Refines.run_events (events : List Event) : ∀ {s : CarWebSocketServer} {spec : Spec},
    s.Refines spec →
    (run CarWebSocketServer.step s events).Refines
        (run Spec.step spec (events.flatMap Event.requests))
      ∧ ∀ hdl, (emitted CarWebSocketServer.step calls s events).filterMap (Call.dataFor hdl)
        = spec.inbox always keep hdl (events.flatMap Event.requests) := by
  induction events with
  | nil => exact fun h => ⟨h, fun _ => rfl⟩
  | cons e es ih =>
      intro s spec h
      obtain ⟨hnext, hsent⟩ := h.step e
      obtain ⟨hrun, hrest⟩ := ih hnext
      rw [List.flatMap_cons, run_append]
      refine ⟨hrun, fun hdl => ?_⟩
      rw [emitted, List.filterMap_append, hsent, hrest, PubSub.State.inbox_append]
      rfl

end CarWebSocketServer

/-! ## §2. What the upstream client brings. -/

namespace CarWebServer

open CarWebSocketServer (Spec always keep)

variable (a : StringAlloc) (s : CarWebServer)

/-- `m_func_notify`, which `ConnectServer` binds to `HandlerJt1078Data`: the
`UpdateData` for a packet. -/
def update (packet : Ipc.Packet) : List CarWebSocketServer.Event :=
  match CarTcpClient.processIpcPacketCompleted true packet with
  | .ok (some notice) =>
      [.updateData notice.deviceId ((packet.data.drop notice.start).take notice.length.toNat)]
  | _ => []

/-- The packets the event completes. -/
def upstream : Event → List Ipc.Packet
  | .tcp e => (s.tcpClient.completed a e).map Prod.fst
  | .websocket _ _ => []

/-- What an event is for the WebSockets. -/
def websocketEvents : Event → List CarWebSocketServer.Event
  | .websocket e _ => [e]
  | .tcp e => ((s.tcpClient.completed a e).map Prod.fst).flatMap update

/-- Data comes from the client alone, and no packet is too short for its id. -/
def Reads : Event → Prop
  | .websocket (.updateData _ _) _ => False
  | .websocket _ _ => True
  | .tcp e => ∀ packet ∈ s.tcpClient.completed a e,
      Memory.Defined (CarTcpClient.processIpcPacketCompleted true packet.1)

instance : (e : Event) → Decidable (s.Reads a e)
  | .websocket (.updateData _ _) _ => .isFalse id
  | .websocket (.onOpen _ _) _ | .websocket (.onClose _) _ => .isTrue trivial
  | .tcp e => inferInstanceAs (Decidable (∀ packet ∈ s.tcpClient.completed a e, _))

/-- What is behind the ids of the packets of video. -/
def dataOf (packets : List Ipc.Packet) : List (List UInt8) :=
  PubSub.messages ((packets.flatMap update).flatMap CarWebSocketServer.Event.requests)

variable {a s}

theorem mem_update {packet : Ipc.Packet} {e : CarWebSocketServer.Event} (he : e ∈ update packet) :
    ∃ deviceId data, e = .updateData deviceId data := by
  unfold update at he
  split at he
  next notice => exact ⟨_, _, List.mem_singleton.mp he⟩
  next => cases he

/-- Data changes nothing. -/
theorem run_updates {es : List CarWebSocketServer.Event}
    (hes : ∀ e ∈ es, ∃ deviceId data, e = .updateData deviceId data) :
    ∀ w : CarWebSocketServer, run CarWebSocketServer.step w es = w := by
  induction es with
  | nil => exact fun _ => rfl
  | cons e es ih =>
      intro w
      obtain ⟨deviceId, data, rfl⟩ := hes e List.mem_cons_self
      exact ih (fun e' he' => hes e' (List.mem_cons_of_mem _ he')) w

/-- **What an event does to the WebSockets.** -/
theorem websocketServer_step (e : Event) :
    (s.step a e).websocketServer
      = run CarWebSocketServer.step s.websocketServer (s.websocketEvents a e) := by
  cases e with
  | websocket e outcomes => rfl
  | tcp e =>
      refine (run_updates (fun e' he' => ?_) _).symm
      obtain ⟨packet, -, hpacket⟩ := List.mem_flatMap.mp he'
      exact mem_update hpacket

/-- Handles publish nothing. -/
theorem messages_websocketEvents {e : Event} (he : s.Reads a e) :
    PubSub.messages ((s.websocketEvents a e).flatMap CarWebSocketServer.Event.requests)
      = dataOf (s.upstream a e) := by
  cases e with
  | tcp e => rfl
  | websocket e outcomes =>
      cases e with
      | updateData deviceId data => cases he
      | onClose hdl => rfl
      | onOpen hdl uri =>
          show PubSub.messages ((CarWebSocketServer.Event.requests (.onOpen hdl uri)) ++ []) = []
          simp only [CarWebSocketServer.Event.requests]
          cases CarWebSocketServer.subject uri <;> rfl

theorem dataOf_append (ps qs : List Ipc.Packet) : dataOf (ps ++ qs) = dataOf ps ++ dataOf qs := by
  unfold dataOf PubSub.messages
  rw [List.flatMap_append, List.flatMap_append, List.flatMap_append]

theorem messages_flatten {events : List Event} : ∀ {s : CarWebServer},
    Along (step a) (fun s e => s.Reads a e) s events →
    PubSub.messages ((flatten (step a) (websocketEvents a) s events).flatMap
        CarWebSocketServer.Event.requests)
      = dataOf (emitted (step a) (upstream a) s events) := by
  induction events with
  | nil => exact fun _ => rfl
  | cons e es ih =>
      intro s h
      rw [flatten, emitted, dataOf_append, ← ih h.2, ← messages_websocketEvents h.1,
        List.flatMap_append, PubSub.messages, List.flatMap_append]

/-! ## §3. Main result. -/

/-- **Each handle is sent its inbox.**  After any run of the server in which the
upstream client completes no packet of video that is too short for its id, the
topics stand for the subscriptions of the machine; for each handle `SendToHdl`
was called with exactly what the machine sends it, and that is part of what was
behind the ids of the packets of video the upstream client completed, each once
and in that order. -/
theorem each_handle_is_sent_its_inbox (a : StringAlloc) (garbage : UInt8) (last : UInt32)
    (events : List Event)
    (h : Along (step a) (fun s e => s.Enabled e ∧ s.Reads a e) (new a garbage last) events) :
    let s := run (step a) (new a garbage last) events
    let es := flatten (step a) (websocketEvents a) (new a garbage last) events
    let requests := es.flatMap CarWebSocketServer.Event.requests
    s.websocketServer = run CarWebSocketServer.step (.new garbage) es
      ∧ (∀ hdl d, s.websocketServer.topicManager.Subscribed hdl d
          ↔ (run Spec.step .init requests).sub hdl d)
      ∧ ∀ hdl,
        (emitted CarWebSocketServer.step CarWebSocketServer.calls (.new garbage) es).filterMap
            (CarWebSocketServer.Call.dataFor hdl) = Spec.init.inbox always keep hdl requests
          ∧ (Spec.init.inbox always keep hdl requests).Sublist
            (dataOf (emitted (step a) (upstream a) (new a garbage last) events)) := by
  intro s es requests
  have hreads := h.imp fun _ _ he => he.2
  obtain ⟨hserver, -⟩ := run_flatten (Q := fun _ _ => True) (I := fun _ : CarWebServer => True)
    (f := CarWebServer.websocketServer) (fun _ _ _ _ => trivial)
    (fun s e _ _ => ⟨websocketServer_step e, along_of_forall (fun _ _ => trivial) _ _⟩)
    trivial hreads
  obtain ⟨hrefines, hsent⟩ := (CarWebSocketServer.refines_new garbage).run_events es
  have hrun : s.websocketServer = run CarWebSocketServer.step (.new garbage) es := hserver
  refine ⟨hrun, hrun ▸ hrefines, fun hdl => ⟨hsent hdl, ?_⟩⟩
  rw [← messages_flatten hreads]
  exact PubSub.State.inbox_sublist hdl requests _

/-- A handle is opened, the client connects, and a packet of its channel fills the
buffer. -/
def live : List Event :=
  .websocket (.onOpen 1 (some (CarWebSocketServer.strLive ++ List.replicate 14 49))) []
    :: .tcp (.connectDone true)
    :: CarTcpClient.blockPacket.bytes.map fun b => .tcp (.receive b)

theorem each_handle_is_sent_its_inbox_of_one :
    let s := run (step .libstdcxx) (new .libstdcxx 0 0) live
    let es := flatten (step .libstdcxx) (websocketEvents .libstdcxx) (new .libstdcxx 0 0) live
    let requests := es.flatMap CarWebSocketServer.Event.requests
    (emitted CarWebSocketServer.step CarWebSocketServer.calls (.new 0) es).filterMap
        (CarWebSocketServer.Call.dataFor 1) = [List.replicate 1000 0]
      ∧ s.websocketServer = run CarWebSocketServer.step (.new 0) es
      ∧ (∀ hdl d, s.websocketServer.topicManager.Subscribed hdl d
          ↔ (run Spec.step .init requests).sub hdl d)
      ∧ ∀ hdl,
        (emitted CarWebSocketServer.step CarWebSocketServer.calls (.new 0) es).filterMap
            (CarWebSocketServer.Call.dataFor hdl) = Spec.init.inbox always keep hdl requests
          ∧ (Spec.init.inbox always keep hdl requests).Sublist
            (dataOf (emitted (step .libstdcxx) (upstream .libstdcxx) (new .libstdcxx 0 0)
              live)) :=
  ⟨by decide +kernel, each_handle_is_sent_its_inbox .libstdcxx 0 0 live (by decide +kernel)⟩

end CarWebServer

end MultiProcessServer
