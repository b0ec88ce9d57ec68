/-
  MultiProcessServer.Reconnection
  ───────────────────────────────
  `PcServer` and `WebServer` keep their connection to `jt1078_server` up with
  the same loop: `AsyncConnectServer`, `OnClientConnect`, `OnClientError` and
  `OnConnectTimer`, spread over the callbacks.

    `reconnection_never_stalls_iff` :
        either server is always connected, connecting or waiting for
        `m_connect_timer`, exactly when no `AsyncConnectServer` that the timer
        calls answers false, and no connection that is made is closed again for
        want of a read event;
    `stalled_for_good` :
        and a server that is not is never connected again;
    `same_loop` :
        it is the loop whose sockets `Jt1078Client.Descriptors` counts.
-/
import MultiProcessServer.Jt1078Client.Descriptors
import MultiProcessServer.PcServer.PcServer
import MultiProcessServer.WebServer.WebServer

namespace MultiProcessServer

open Reconnect (Link Answer)

/-! ## §1. The client as a link. -/

namespace Jt1078Client

def link (client : Option Jt1078Client) : Link :=
  match client with
  | none => .down
  | some c => if c.bConnected then .up else if c.connecting then .trying else .down

variable {client : Option Jt1078Client}

theorem link_eq_up : link client = .up ↔ (client.any fun c => c.isConnected) = true := by
  cases client with
  | none => simp [link]
  | some c =>
      unfold link isConnected
      cases hup : c.bConnected with
      | true => simp [hup]
      | false => cases hconnecting : c.connecting <;> simp [hup, hconnecting]

theorem link_eq_trying : link client = .trying ↔ (client.any fun c => c.connecting) = true := by
  cases client with
  | none => simp [link]
  | some c =>
      unfold link
      cases hconnecting : c.connecting with
      | true => simp [(c.pending hconnecting).1, hconnecting]
      | false => cases hup : c.bConnected <;> simp [hconnecting, hup]

theorem link_eq_down :
    link client = .down ↔ ¬((client.any fun c => c.isConnected) = true
      ∨ (client.any fun c => c.connecting) = true) := by
  rw [← link_eq_up, ← link_eq_trying]
  cases link client <;> simp

end Jt1078Client

/-- What `AsyncConnectServer` makes of a result: without a server in the
configuration it answers false, too, and a connection that is closed again is
none. -/
def ConnectResult.answer : Option ConnectResult → Answer
  | none => .failed
  | some .failed => .failed
  | some .pending => .pending
  | some .connected => .connected
  | some .cleared => .failed
  | some .refused => .refused

/-! ## §2. `PcServer`. -/

namespace PcServer

/-- What of the server belongs to the loop. -/
def view (p : PcServer) : Reconnect.State := ⟨Jt1078Client.link p.client, p.connectTimer⟩

def Event.mark : Event → Reconnect.Event
  | .clientConnect bOk => .ended bOk
  | .clientCleared => .cut
  | .clientError => .lost
  | .connectTimer result => .attempt (ConnectResult.answer result)
  | _ => .other

/-- `m_client && m_client->IsConnected()`, an attempt that is pending, or the
armed timer. -/
def Reconnecting (p : PcServer) : Prop :=
  p.isConnected = true ∨ (p.client.any fun c => c.connecting) = true ∨ p.connectTimer = true

variable {p : PcServer} {pc : UInt64}

theorem isConnected_eq : p.isConnected = p.client.any fun c => c.isConnected := by
  unfold isConnected
  cases p.client <;> rfl

theorem reconnecting_iff : p.Reconnecting ↔ ¬p.view.Stalled := by
  unfold Reconnecting Reconnect.State.Stalled view
  rw [isConnected_eq, Jt1078Client.link_eq_down, ← or_assoc, not_and_or, not_not, Bool.not_eq_false]

/-- Requests written on the client, and everything about viewers, leave the
loop alone. -/
theorem view_clientSendPacket (mask : UInt32) (data : List UInt8) :
    (p.clientSendPacket mask data).view = p.view := by
  unfold clientSendPacket
  split
  next => rfl
  next c hc =>
      unfold view
      rw [hc]
      rfl

theorem view_clientIsConnected : p.clientIsConnected.2.view = p.view := by
  unfold clientIsConnected
  split <;> rfl

theorem view_tryUnsubscriber (strNewDeviceId : List UInt8) :
    (p.tryUnsubscriberOldDeviceId pc strNewDeviceId).view = p.view := by
  unfold tryUnsubscriberOldDeviceId
  dsimp only
  split
  · split
    · rw [view_clientSendPacket, view_clientIsConnected]
      rfl
    · rw [view_clientIsConnected]
      rfl
  · rfl

theorem view_subscribeDeviceId (strDeviceId : List UInt8) :
    (p.subscribeDeviceId pc strDeviceId).view = p.view := by
  have htry : ((p.tryUnsubscriberOldDeviceId pc strDeviceId).updatePc pc
      (·.setDeviceId strDeviceId)).view = p.view := view_tryUnsubscriber strDeviceId
  unfold subscribeDeviceId
  dsimp only
  split
  · split
    · rw [view_clientSendPacket]
      exact htry
    · exact htry
  · exact htry

theorem view_unSubscribeDeviceId : (p.unSubscribeDeviceId pc).view = p.view := by
  unfold unSubscribeDeviceId
  dsimp only
  split
  · split
    · split
      · exact (view_clientSendPacket _ _).trans view_clientIsConnected
      · exact view_clientIsConnected
    · rfl
  · rfl

theorem view_onPacketCompleted (packet : Ipc.Packet) :
    (p.onPacketCompleted pc packet).view = p.view := by
  unfold onPacketCompleted
  split
  · rfl
  · split
    · exact view_subscribeDeviceId packet.data
    · split
      · exact view_unSubscribeDeviceId
      · rfl

theorem view_onClientConnect_true : (p.onClientConnect true).view = p.view := by
  have hfold : ∀ (ids : List UInt64) (q : PcServer), (ids.foldl (fun p deviceId =>
      p.clientSendPacket (Ipc.IPC_PKT_TYPE_SUBSCRIBE_DEVICE_ID ||| Ipc.IPC_PKT_FROM_PC_SERVER)
        (generateDeviceIdStrByDeviceId p.garbage deviceId)) q).view = q.view := by
    intro ids
    induction ids with
    | nil => exact fun q => rfl
    | cons deviceId ids ih =>
        exact fun q => (ih _).trans (view_clientSendPacket _ _)
  exact hfold _ p

theorem view_asyncConnectServer (result : Option ConnectResult) :
    ({ p with connectTimer := false }.asyncConnectServer result).2.view
      = p.view.step (.attempt (ConnectResult.answer result)) := by
  cases result with
  | none => rfl
  | some result =>
      cases result with
      | failed => rfl
      | pending => rfl
      | connected => exact view_onClientConnect_true
      | cleared => exact view_onClientConnect_true
      | refused => rfl

theorem view_onHeartbeatTimer :
    (onHeartbeatTimer { p with heartbeatTimer := false }).view = p.view := by
  unfold onHeartbeatTimer
  dsimp only
  split
  · exact view_clientSendPacket _ _
  · rfl

/-- **Every callback of `PcServer` is an event of the loop.** -/
theorem view_step (e : Event) (he : p.Enabled e) : (p.step e).view = p.view.step e.mark := by
  cases e with
  | newConnection pc socket init => cases init <;> rfl
  | packetCompleted pc packet => exact view_onPacketCompleted packet
  | packetError pc => exact view_unSubscribeDeviceId
  | clientMessage packet behind =>
      show (p.onClientMessage packet behind).view = p.view
      unfold onClientMessage
      split <;> rfl
  | clientConnect bOk =>
      cases hc : p.client with
      | none => simp [Enabled, raises, hc] at he
      | some c =>
          show (p.handle (.clientConnect bOk)).view = _
          unfold handle
          rw [hc]
          cases bOk with
          | false => rfl
          | true => exact view_onClientConnect_true
  | clientCleared =>
      cases hc : p.client with
      | none => simp [Enabled, raises, hc] at he
      | some c =>
          show (p.handle .clientCleared).view = _
          unfold handle
          rw [hc]
          exact view_onClientConnect_true
  | clientError =>
      show p.onClientError.view = _
      unfold onClientError
      dsimp only
      split <;> rfl
  | connectTimer result => exact view_asyncConnectServer result
  | heartbeatTimer => exact view_onHeartbeatTimer

/-- What can come to the server can come to the loop. -/
theorem enabled_view {e : Event} (he : p.Enabled e) : p.view.Enabled e.mark := by
  obtain ⟨-, hraises⟩ := he
  cases e with
  | newConnection pc socket init => trivial
  | packetCompleted pc packet => trivial
  | packetError pc => trivial
  | clientMessage packet behind => trivial
  | heartbeatTimer => trivial
  | clientConnect bOk => exact Jt1078Client.link_eq_trying.mpr hraises
  | clientCleared => exact Jt1078Client.link_eq_trying.mpr hraises
  | clientError =>
      have hup : p.isConnected = true := hraises
      rw [isConnected_eq] at hup
      exact Jt1078Client.link_eq_up.mpr hup
  | connectTimer result => exact hraises

end PcServer

/-! ## §3. `WebServer`. -/

namespace WebServer

/-- What of the server belongs to the loop. -/
def view (w : WebServer) : Reconnect.State := ⟨Jt1078Client.link w.jt1078Client, w.connectTimer⟩

def Event.mark : Event → Reconnect.Event
  | .clientConnect bOk => .ended bOk
  | .clientCleared => .cut
  | .clientError => .lost
  | .connectTimer result => .attempt (ConnectResult.answer result)
  | _ => .other

/-- `m_jt1078_client && m_jt1078_client->IsConnected()`, an attempt that is
pending, or the armed timer. -/
def Reconnecting (w : WebServer) : Prop :=
  w.isConnected = true ∨ (w.jt1078Client.any fun c => c.connecting) = true
    ∨ w.connectTimer = true

variable {w : WebServer}

theorem isConnected_eq : w.isConnected = w.jt1078Client.any fun c => c.isConnected := by
  unfold isConnected
  cases w.jt1078Client <;> rfl

theorem reconnecting_iff : w.Reconnecting ↔ ¬w.view.Stalled := by
  unfold Reconnecting Reconnect.State.Stalled view
  rw [isConnected_eq, Jt1078Client.link_eq_down, ← or_assoc, not_and_or, not_not, Bool.not_eq_false]

theorem view_sendPacketIfConnected (mask : UInt32) (data : List UInt8) :
    (w.sendPacketIfConnected mask data).view = w.view := by
  unfold sendPacketIfConnected
  split
  next => rfl
  next c hc =>
      split
      · unfold view
        rw [hc]
        rfl
      · rfl

theorem view_notifyStart (strDeviceId : List UInt8) :
    (w.notifyStart strDeviceId).view = w.view := by
  unfold notifyStart
  dsimp only
  split
  · rfl
  · exact view_sendPacketIfConnected _ _

theorem view_notifyStop (strDeviceId : List UInt8) : (w.notifyStop strDeviceId).view = w.view :=
  view_sendPacketIfConnected _ _

theorem view_webOnPlay (strDeviceId : Option (List UInt8)) :
    (w.webOnPlay strDeviceId).2.view = w.view := by
  cases strDeviceId with
  | none => rfl
  | some strDeviceId =>
      simp only [webOnPlay]
      split
      · rfl
      · exact view_notifyStart strDeviceId

theorem view_sessionStop (strStream strClientId : List UInt8) :
    (w.sessionStop strStream strClientId).view = w.view := by
  unfold sessionStop
  dsimp only
  split
  · exact view_notifyStop strStream
  · rfl

theorem view_sessionPlay (strStream strClientId : List UInt8) :
    (w.sessionPlay strStream strClientId).view = w.view := by
  unfold sessionPlay
  dsimp only
  split
  · exact view_notifyStart strStream
  · rfl

theorem view_srsOnSession (fields : Option SrsCallback) :
    (w.srsOnSession fields).2.view = w.view := by
  cases fields with
  | none => rfl
  | some j =>
      simp only [srsOnSession]
      split
      · rfl
      · split
        · rfl
        · split
          · rfl
          · split
            · exact view_sessionStop j.strStream j.strClientId
            · exact view_sessionPlay j.strStream j.strClientId

/-- **Every callback of `WebServer` is an event of the loop.** -/
theorem view_step (e : Event) (he : w.Enabled e) : (w.step e).view = w.view.step e.mark := by
  cases e with
  | webOnPlay strDeviceId => exact view_webOnPlay strDeviceId
  | srsOnSession fields => exact view_srsOnSession fields
  | clientMessage packet behind =>
      show (w.onClientMessage packet behind).view = w.view
      unfold onClientMessage
      split <;> rfl
  | clientConnect bOk =>
      cases hc : w.jt1078Client with
      | none => simp [Enabled, hc] at he
      | some c =>
          unfold step
          rw [hc]
          cases bOk with
          | false => rfl
          | true => rfl
  | clientCleared =>
      cases hc : w.jt1078Client with
      | none => simp [Enabled, hc] at he
      | some c =>
          unfold step
          rw [hc]
          rfl
  | clientError => rfl
  | connectTimer result =>
      cases result with
      | none => rfl
      | some result => cases result <;> rfl
  | heartbeatTimer => exact @view_sendPacketIfConnected { w with heartbeatTimer := false } _ _

/-- What can come to the server can come to the loop. -/
theorem enabled_view {e : Event} (he : w.Enabled e) : w.view.Enabled e.mark := by
  cases e with
  | webOnPlay strDeviceId => trivial
  | srsOnSession fields => trivial
  | clientMessage packet behind => trivial
  | heartbeatTimer => trivial
  | clientConnect bOk => exact Jt1078Client.link_eq_trying.mpr he
  | clientCleared => exact Jt1078Client.link_eq_trying.mpr he
  | clientError =>
      have hup : w.isConnected = true := he
      rw [isConnected_eq] at hup
      exact Jt1078Client.link_eq_up.mpr hup
  | connectTimer result => exact he

end WebServer

/-! ## §4. Every run. -/

/-- An attempt that no handler hears of: `AsyncConnectServer` answers false, or
the connection is closed again as soon as it is made. -/
def ConnectResult.Silent (result : Option ConnectResult) : Prop :=
  result = none ∨ result = some .failed ∨ result = some .cleared

/-- The timer's attempt ends silently, or the pending one does. -/
def PcServer.Event.EndsSilently (e : PcServer.Event) : Prop :=
  e = .clientCleared ∨ ∃ result, e = .connectTimer result ∧ ConnectResult.Silent result

/-- The timer's attempt ends silently, or the pending one does. -/
def WebServer.Event.EndsSilently (e : WebServer.Event) : Prop :=
  e = .clientCleared ∨ ∃ result, e = .connectTimer result ∧ ConnectResult.Silent result

theorem ConnectResult.answer_eq_failed_iff {result : Option ConnectResult} :
    ConnectResult.answer result = .failed ↔ ConnectResult.Silent result := by
  cases result with
  | none => simp [answer, Silent]
  | some result => cases result <;> simp [answer, Silent]

theorem PcServer.Event.silent_mark {e : PcServer.Event} : e.mark.Silent ↔ e.EndsSilently := by
  cases e with
  | connectTimer result =>
      simp [mark, EndsSilently, Reconnect.Event.Silent, ConnectResult.answer_eq_failed_iff]
  | newConnection _ _ _ | packetCompleted _ _ | packetError _ | clientConnect _ | clientCleared
  | clientMessage _ _ | clientError | heartbeatTimer =>
      simp [mark, EndsSilently, Reconnect.Event.Silent]

theorem WebServer.Event.silent_mark {e : WebServer.Event} : e.mark.Silent ↔ e.EndsSilently := by
  cases e with
  | connectTimer result =>
      simp [mark, EndsSilently, Reconnect.Event.Silent, ConnectResult.answer_eq_failed_iff]
  | webOnPlay _ | srsOnSession _ | clientConnect _ | clientCleared | clientMessage _ _
  | clientError | heartbeatTimer => simp [mark, EndsSilently, Reconnect.Event.Silent]

/-- `Init` makes the first attempt. -/
theorem PcServer.view_init (garbage : UInt8) (result : Option ConnectResult) :
    (init garbage result).2.view
      = (⟨.down, true⟩ : Reconnect.State).step (.attempt (ConnectResult.answer result)) :=
  @view_asyncConnectServer { new garbage with connectTimer := true, heartbeatTimer := true } result

theorem WebServer.view_init (result : Option ConnectResult) :
    (init result).2.view
      = (⟨.down, true⟩ : Reconnect.State).step (.attempt (ConnectResult.answer result)) := by
  cases result with
  | none => rfl
  | some result => cases result <;> rfl

/-- After it the timer is armed only if there is nothing else. -/
theorem oneAtATime_attempt (answer : Answer) :
    ((⟨.down, true⟩ : Reconnect.State).step (.attempt answer)).OneAtATime :=
  Reconnect.State.OneAtATime.step (fun _ => rfl) rfl

/-- A successful `Init` of either server leaves the loop under way, exactly if
its connection was not closed again. -/
theorem PcServer.reconnecting_init_iff {garbage : UInt8} {result : Option ConnectResult}
    (h : (init garbage result).1 = true) :
    (init garbage result).2.Reconnecting ↔ result ≠ some .cleared := by
  cases result with
  | none => cases h
  | some result =>
      cases result with
      | failed => cases h
      | pending => exact iff_of_true (Or.inr (Or.inl rfl)) (by decide)
      | connected => exact iff_of_true (Or.inl rfl) (by decide)
      | cleared =>
          refine iff_of_false ?_ (fun hne => hne rfl)
          rw [reconnecting_iff, not_not]
          exact ⟨rfl, rfl⟩
      | refused => exact iff_of_true (Or.inr (Or.inr rfl)) (by decide)

theorem WebServer.reconnecting_init_iff {result : Option ConnectResult}
    (h : (init result).1 = true) : (init result).2.Reconnecting ↔ result ≠ some .cleared := by
  cases result with
  | none => cases h
  | some result =>
      cases result with
      | failed => cases h
      | pending => exact iff_of_true (Or.inr (Or.inl rfl)) (by decide)
      | connected => exact iff_of_true (Or.inl rfl) (by decide)
      | cleared =>
          refine iff_of_false ?_ (fun hne => hne rfl)
          rw [reconnecting_iff, not_not]
          exact ⟨rfl, rfl⟩
      | refused => exact iff_of_true (Or.inr (Or.inr rfl)) (by decide)

/-- **Reconnection never stalls, as long as no attempt ends silently.**  After a
successful `Init`, `PcServer` and `WebServer` are connected, have an attempt
pending or have `m_connect_timer` armed in every state of a run, exactly when
the connection of `Init` is not closed again for want of a read event, no
reconnect timer of the run meets an `AsyncConnectServer` that answers false, and
no later connection is closed again that way. -/
theorem reconnection_never_stalls_iff (garbage : UInt8) (pcResult webResult : Option ConnectResult)
    (pcEvents : List PcServer.Event) (webEvents : List WebServer.Event)
    (hpc : (PcServer.init garbage pcResult).1 = true) (hweb : (WebServer.init webResult).1 = true)
    (hpcRun : Runs.Along PcServer.step PcServer.Enabled (PcServer.init garbage pcResult).2 pcEvents)
    (hwebRun : Runs.Along WebServer.step WebServer.Enabled (WebServer.init webResult).2 webEvents) :
    ((∀ pre, pre <+: pcEvents →
        (Runs.run PcServer.step (PcServer.init garbage pcResult).2 pre).Reconnecting)
      ↔ pcResult ≠ some .cleared ∧ ∀ e ∈ pcEvents, ¬e.EndsSilently)
    ∧ ((∀ pre, pre <+: webEvents →
        (Runs.run WebServer.step (WebServer.init webResult).2 pre).Reconnecting)
      ↔ webResult ≠ some .cleared ∧ ∀ e ∈ webEvents, ¬e.EndsSilently) := by
  constructor
  · have hone : (PcServer.init garbage pcResult).2.view.OneAtATime := by
      rw [PcServer.view_init]
      exact oneAtATime_attempt _
    simp only [← PcServer.reconnecting_init_iff hpc, PcServer.reconnecting_iff,
      ← PcServer.Event.silent_mark]
    rw [← Runs.along_iff_forall]
    exact Reconnect.never_stalls_iff PcServer.view PcServer.Event.mark
      (fun p e he => PcServer.view_step e he) (fun p e he => PcServer.enabled_view he) hone hpcRun
  · have hone : (WebServer.init webResult).2.view.OneAtATime := by
      rw [WebServer.view_init]
      exact oneAtATime_attempt _
    simp only [← WebServer.reconnecting_init_iff hweb, WebServer.reconnecting_iff,
      ← WebServer.Event.silent_mark]
    rw [← Runs.along_iff_forall]
    exact Reconnect.never_stalls_iff WebServer.view WebServer.Event.mark
      (fun w e he => WebServer.view_step e he) (fun w e he => WebServer.enabled_view he) hone
      hwebRun

/-- The upstream goes away and comes back, once refused on the way. -/
theorem reconnection_never_stalls_after_outage :
    (∀ pre, pre <+: [PcServer.Event.clientError, .connectTimer (some .refused),
        .connectTimer (some .pending), .clientConnect true] →
      (Runs.run PcServer.step (PcServer.init 0 (some .connected)).2 pre).Reconnecting)
    ∧ ∀ pre, pre <+: [WebServer.Event.clientError, .connectTimer (some .refused),
        .connectTimer (some .pending), .clientConnect true] →
      (Runs.run WebServer.step (WebServer.init (some .connected)).2 pre).Reconnecting := by
  obtain ⟨hpc, hweb⟩ := reconnection_never_stalls_iff 0 (some .connected) (some .connected)
    [.clientError, .connectTimer (some .refused), .connectTimer (some .pending),
      .clientConnect true]
    [.clientError, .connectTimer (some .refused), .connectTimer (some .pending),
      .clientConnect true] rfl rfl (by decide) (by decide)
  constructor
  · apply hpc.mpr
    simp [PcServer.Event.EndsSilently, ConnectResult.Silent]
  · apply hweb.mpr
    simp [WebServer.Event.EndsSilently, ConnectResult.Silent]

/-- The upstream goes away, and the next attempt finds no socket, or no memory
for its read event once it is connected: neither server will ever try again. -/
theorem reconnection_stalls_on_failed_attempt :
    (∀ result ∈ [ConnectResult.failed, .cleared],
      Runs.Along PcServer.step PcServer.Enabled (PcServer.init 0 (some .connected)).2
          [.clientError, .connectTimer (some result)]
        ∧ ¬(Runs.run PcServer.step (PcServer.init 0 (some .connected)).2
          [.clientError, .connectTimer (some result)]).Reconnecting)
    ∧ ∀ result ∈ [ConnectResult.failed, .cleared],
      Runs.Along WebServer.step WebServer.Enabled (WebServer.init (some .connected)).2
          [.clientError, .connectTimer (some result)]
        ∧ ¬(Runs.run WebServer.step (WebServer.init (some .connected)).2
          [.clientError, .connectTimer (some result)]).Reconnecting := by
  simp only [PcServer.reconnecting_iff, WebServer.reconnecting_iff, not_not]
  refine ⟨fun result hresult => ?_, fun result hresult => ?_⟩
  · rcases List.mem_pair.mp hresult with rfl | rfl
    · exact ⟨by decide, rfl, rfl⟩
    · exact ⟨by decide, rfl, rfl⟩
  · rcases List.mem_pair.mp hresult with rfl | rfl
    · exact ⟨by decide, rfl, rfl⟩
    · exact ⟨by decide, rfl, rfl⟩

/-- **A server that stalls stalls for good**: whatever its viewers, its HTTP
requests and its other timers do, it is never connected again. -/
theorem stalled_for_good :
    (∀ (p : PcServer) (events : List PcServer.Event), ¬p.Reconnecting →
      Runs.Along PcServer.step PcServer.Enabled p events →
      ¬(Runs.run PcServer.step p events).Reconnecting)
    ∧ ∀ (w : WebServer) (events : List WebServer.Event), ¬w.Reconnecting →
      Runs.Along WebServer.step WebServer.Enabled w events →
      ¬(Runs.run WebServer.step w events).Reconnecting := by
  constructor
  · intro p events hp hes
    rw [PcServer.reconnecting_iff, not_not] at hp ⊢
    exact Reconnect.stays_stalled PcServer.view PcServer.Event.mark
      (fun p e he => PcServer.view_step e he) (fun p e he => PcServer.enabled_view he) hp hes
  · intro w events hw hes
    rw [WebServer.reconnecting_iff, not_not] at hw ⊢
    exact Reconnect.stays_stalled WebServer.view WebServer.Event.mark
      (fun w e he => WebServer.view_step e he) (fun w e he => WebServer.enabled_view he) hw hes

/-! ## §5. The loop and its sockets. -/

/-- **The loop is the one of either server.**  A run of a server and a run of
`UpstreamLoop` that start alike and meet the same outcomes are, as loops, in
the same state. -/
theorem same_loop (u : UpstreamLoop) (outcomes : List UpstreamLoop.Event)
    (hu : Runs.Along UpstreamLoop.step UpstreamLoop.Enabled u outcomes) :
    (∀ (p : PcServer) (events : List PcServer.Event),
      Runs.Along PcServer.step PcServer.Enabled p events → p.view = u.view →
      ((events.map PcServer.Event.mark).filter fun e => e != .other)
        = ((outcomes.map UpstreamLoop.Event.mark).filter fun e => e != .other) →
      (Runs.run PcServer.step p events).view = (Runs.run UpstreamLoop.step u outcomes).view)
    ∧ ∀ (w : WebServer) (events : List WebServer.Event),
      Runs.Along WebServer.step WebServer.Enabled w events → w.view = u.view →
      ((events.map WebServer.Event.mark).filter fun e => e != .other)
        = ((outcomes.map UpstreamLoop.Event.mark).filter fun e => e != .other) →
      (Runs.run WebServer.step w events).view = (Runs.run UpstreamLoop.step u outcomes).view := by
  have hloop := Reconnect.view_run_filter UpstreamLoop.view UpstreamLoop.Event.mark
    (fun u e he => UpstreamLoop.view_step e he) hu
  constructor
  · intro p events hes hstart hsame
    rw [hloop, Reconnect.view_run_filter PcServer.view PcServer.Event.mark
      (fun p e he => PcServer.view_step e he) hes, hstart, hsame]
  · intro w events hes hstart hsame
    rw [hloop, Reconnect.view_run_filter WebServer.view WebServer.Event.mark
      (fun w e he => WebServer.view_step e he) hes, hstart, hsame]

end MultiProcessServer
