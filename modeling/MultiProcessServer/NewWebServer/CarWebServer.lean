/-
  MultiProcessServer.NewWebServer.CarWebServer
  ────────────────────────────────────────────
  `CarWebServer`: what its WebSockets want is what it asks `jt1078_server` for.

  Main result:

    `upstream_in_step` :
        the requests on the connection replay to the topics there are, in every
        quiet state of the runs in which each connection starts out that way and
        asio finds the bytes of the requests when it writes them.

  A topic is announced once, when it is created; nothing is asked for again on
  a new connection.
-/
import MultiProcessServer.NewWebServer.CarTcpClient
import MultiProcessServer.NewWebServer.CarWebSocketServer

namespace MultiProcessServer

open Runs

/-! ## §1. `class CarWebServer`. -/

/-- The server after `Listen` and `ConnectServer`. -/
structure CarWebServer where
  websocketServer : CarWebSocketServer
  tcpClient : CarTcpClient

namespace CarTcpClient

variable (c : CarTcpClient)

/-- `CarWebServer::HandlerWsConnSubscribe`. -/
def handlerWsConnSubscribe (strDeviceId : List UInt8) (bSubscribe : Bool)
    (outcome : WriteOutcome) : CarTcpClient :=
  if bSubscribe then c.sendSubscribeRequest strDeviceId outcome
  else c.sendUnSubscribeRequest strDeviceId outcome

/-- It is called for every notification, in order; the writes of the packets
have these outcomes, and succeed where the list ends. -/
def notify : CarTcpClient → List CarWebSocketServer.Call → List WriteOutcome → CarTcpClient
  | c, [], _ => c
  | c, .notifySubscribe strDeviceId bSubscribe :: calls, outcomes =>
      notify
        (c.handlerWsConnSubscribe strDeviceId bSubscribe (outcomes.headD ⟨true, true, true⟩))
        calls outcomes.tail
  | c, _ :: calls, outcomes => notify c calls outcomes

end CarTcpClient

namespace CarWebServer

def new (a : StringAlloc) (garbage : UInt8) (last : UInt32) : CarWebServer where
  websocketServer := .new garbage
  tcpClient := .new a last

/-- What happens to the server: on its WebSockets, with the outcomes of the
writes this leads to, or on its connection. -/
inductive Event
  | websocket (e : CarWebSocketServer.Event) (outcomes : List WriteOutcome)
  | tcp (e : CarTcpClient.Event)
  deriving DecidableEq, Repr

variable (s : CarWebServer)

/-- One event.  (`HandlerJt1078Data` goes through `UpdateData`, which changes
nothing.) -/
def step (a : StringAlloc) (s : CarWebServer) : Event → CarWebServer
  | .websocket e outcomes =>
      { websocketServer := s.websocketServer.step e
        tcpClient := s.tcpClient.notify (s.websocketServer.calls e) outcomes }
  | .tcp e => { s with tcpClient := s.tcpClient.step a e }

def Enabled (s : CarWebServer) : Event → Prop
  | .websocket _ _ => True
  | .tcp e => s.tcpClient.Enabled e

instance : ∀ e, Decidable (s.Enabled e)
  | .websocket _ _ => inferInstanceAs (Decidable True)
  | .tcp e => inferInstanceAs (Decidable (s.tcpClient.Enabled e))

/-- The device strings are hexadecimal. -/
def Event.Spelled : Event → Prop
  | .websocket e _ => e.Spelled
  | .tcp _ => True

/-- The connection is there, and no handler is still to be called. -/
def Quiet : Prop := s.tcpClient.socket = .connected ∧ s.tcpClient.errors = .none

/-- Replaying these requests gives the topics that have a subscriber. -/
def Matches (requests : List Request) : Prop :=
  ∀ d, Request.requested requests d = true
    ↔ ∃ hdl, s.websocketServer.topicManager.Subscribed hdl d

/-- The requests on the connection are those that were sent, and match the
topics, if the server is quiet. -/
def InStep : Prop := s.Quiet → s.tcpClient.garbled = false ∧ s.Matches s.tcpClient.sent

/-- If the event is that the connection is made, then the requests that waited
for it are found in memory, and match the topics. -/
def StartsInStep (e : Event) : Prop :=
  e = .tcp (.connectDone true) → s.tcpClient.garbled = false ∧ s.Matches s.tcpClient.held

/-- Requests on the connection are found in memory when they are written. -/
def SendsIntact (s : CarWebServer) : Event → Prop
  | .websocket _ outcomes => s.tcpClient.socket = .connected → ∀ o ∈ outcomes, o.intact = true
  | .tcp _ => True

/-! ## §2. Requests follow notifications. -/

end CarWebServer

namespace CarTcpClient

variable {c : CarTcpClient} {d : UInt64}

theorem type_request (mask : UInt32) (data : List UInt8) :
    (⟨c.header mask data.length, data⟩ : Request).type = mask &&& Ipc.IPC_PKT_TYPE_MASK := rfl

theorem requested_handlerWsConnSubscribe (hup : c.socket = .connected) (strDeviceId : List UInt8)
    (bSubscribe : Bool) (outcome : WriteOutcome) :
    let c' := c.handlerWsConnSubscribe strDeviceId bSubscribe outcome
    c'.socket = .connected ∧ c.errors.write ≤ c'.errors.write
      ∧ (c'.errors.write = c.errors.write → Request.requested c'.sent d
          = if generateDeviceId strDeviceId = d then bSubscribe
            else Request.requested c.sent d) := by
  intro c'
  cases bSubscribe with
  | true =>
      obtain ⟨hstill, hle, hsent⟩ := sendPacket_connected hup
        Ipc.IPC_PKT_TYPE_SUBSCRIBE_DEVICE_ID strDeviceId outcome
      refine ⟨hstill, hle, fun hall => ?_⟩
      show Request.requested (c.sendPacket _ _ _).sent d = _
      rw [hsent hall, Request.requested_concat, Bool.eq_iff_iff, Request.replay_subscribe
        (by rw [type_request]; decide)]
      show d = generateDeviceId strDeviceId ∨ _ ↔ _
      by_cases hd : generateDeviceId strDeviceId = d
      · simp [hd]
      · simp [hd, Ne.symm hd]
  | false =>
      obtain ⟨hstill, hle, hsent⟩ := sendPacket_connected hup
        Ipc.IPC_PKT_TYPE_UNSUBSCRIBE_DEVICE_ID strDeviceId outcome
      refine ⟨hstill, hle, fun hall => ?_⟩
      show Request.requested (c.sendPacket _ _ _).sent d = _
      rw [hsent hall, Request.requested_concat, Bool.eq_iff_iff, Request.replay_unsubscribe
        (by rw [type_request]; decide)]
      show d ≠ generateDeviceId strDeviceId ∧ _ ↔ _
      by_cases hd : generateDeviceId strDeviceId = d
      · simp [hd]
      · simp [hd, Ne.symm hd]

theorem notify_eq (calls : List CarWebSocketServer.Call) :
    ∀ (c : CarTcpClient) (outcomes : List WriteOutcome),
      ∃ errors last held sent garbled, c.notify calls outcomes
        = { c with
            errors := errors, uLastSendIpcPktSeqId := last, held := held, sent := sent
            garbled := garbled } := by
  induction calls with
  | nil =>
      exact fun c _ => ⟨c.errors, c.uLastSendIpcPktSeqId, c.held, c.sent, c.garbled, rfl⟩
  | cons call calls ih =>
      intro c outcomes
      cases call with
      | notifySubscribe strDeviceId bSubscribe =>
          unfold notify handlerWsConnSubscribe sendSubscribeRequest sendUnSubscribeRequest
          generalize outcomes.headD ⟨true, true, true⟩ = outcome
          rw [← apply_ite (fun mask => c.sendPacket mask strDeviceId outcome)]
          obtain ⟨errors, last, held, sent, garbled, heq⟩ := c.sendPacket_eq
            (if bSubscribe = true then Ipc.IPC_PKT_TYPE_SUBSCRIBE_DEVICE_ID
              else Ipc.IPC_PKT_TYPE_UNSUBSCRIBE_DEVICE_ID) strDeviceId outcome
          rw [heq]
          exact ih _ outcomes.tail
      | closeConnectionHdl hdl reason => exact ih c outcomes
      | sendToHdl hdl data => exact ih c outcomes

theorem notify_socket (c : CarTcpClient) (calls : List CarWebSocketServer.Call)
    (outcomes : List WriteOutcome) : (c.notify calls outcomes).socket = c.socket := by
  obtain ⟨errors, last, held, sent, garbled, heq⟩ := notify_eq calls c outcomes
  rw [heq]

/-- Requests whose bytes asio finds garble nothing. -/
theorem garbled_notify (calls : List CarWebSocketServer.Call) :
    ∀ (c : CarTcpClient) {outcomes : List WriteOutcome}, (∀ o ∈ outcomes, o.intact = true) →
      (c.notify calls outcomes).garbled = c.garbled := by
  induction calls with
  | nil => exact fun _ _ _ => rfl
  | cons call calls ih =>
      intro c outcomes hintact
      cases call with
      | notifySubscribe strDeviceId bSubscribe =>
          have hfirst : (outcomes.headD ⟨true, true, true⟩).intact = true := by
            cases outcomes with
            | nil => rfl
            | cons o outcomes => exact hintact o List.mem_cons_self
          have hrest := ih (c.handlerWsConnSubscribe strDeviceId bSubscribe
            (outcomes.headD ⟨true, true, true⟩)) fun o ho => hintact o (List.mem_of_mem_tail ho)
          refine Eq.trans hrest ?_
          unfold handlerWsConnSubscribe sendSubscribeRequest sendUnSubscribeRequest
          split
          next => exact garbled_sendPacket c _ _ hfirst
          next => exact garbled_sendPacket c _ _ hfirst
      | closeConnectionHdl hdl reason => exact ih c hintact
      | sendToHdl hdl data => exact ih c hintact

/-- **The requests of one event** switch a car on the connection as its
notifications do, if they all get out. -/
theorem requested_notify (calls : List CarWebSocketServer.Call) :
    ∀ {c : CarTcpClient} (outcomes : List WriteOutcome), c.socket = .connected →
      let c' := c.notify calls outcomes
      c'.socket = .connected ∧ c.errors.write ≤ c'.errors.write
        ∧ (c'.errors.write = c.errors.write → Request.requested c'.sent d
            = level (Request.requested c.sent d) (CarWebSocketServer.marks d calls)) := by
  induction calls with
  | nil => exact fun _ hup => ⟨hup, Nat.le_refl _, fun _ => rfl⟩
  | cons call calls ih =>
      intro c outcomes hup
      cases call with
      | notifySubscribe strDeviceId bSubscribe =>
          obtain ⟨hup', hle, hfirst⟩ := requested_handlerWsConnSubscribe (d := d) hup strDeviceId
            bSubscribe (outcomes.headD ⟨true, true, true⟩)
          obtain ⟨hup'', hle', hrest⟩ := ih outcomes.tail hup'
          refine ⟨hup'', Nat.le_trans hle hle', fun hall => ?_⟩
          -- no write failed on the way
          have hall' : (c.notify (.notifySubscribe strDeviceId bSubscribe :: calls)
              outcomes).errors.write = c.errors.write := hall
          unfold notify at hall' ⊢
          rw [hrest (by omega), hfirst (by omega)]
          by_cases hd : generateDeviceId strDeviceId = d
          · simp [CarWebSocketServer.marks, CarWebSocketServer.Call.mark, hd]
          · simp [CarWebSocketServer.marks, CarWebSocketServer.Call.mark, hd]
      | closeConnectionHdl hdl reason => exact ih outcomes hup
      | sendToHdl hdl data => exact ih outcomes hup

end CarTcpClient

namespace CarWebServer

variable {s : CarWebServer} {a : StringAlloc}

/-! ## §3. Runs. -/

/-- What a run keeps: topics are attended, and a connection on which no write
failed is in step. -/
structure Following (s : CarWebServer) : Prop where
  attended : s.websocketServer.Attended
  intact : s.tcpClient.socket = .connected → s.tcpClient.garbled = false
  follows : s.tcpClient.socket = .connected → s.tcpClient.errors.write = 0 →
    ∀ d, Request.requested s.tcpClient.sent d = s.websocketServer.topicManager.existsTopic d

theorem matches_iff (h : s.websocketServer.Attended) {requests : List Request} :
    s.Matches requests ↔ ∀ d, Request.requested requests d
      = s.websocketServer.topicManager.existsTopic d := by
  refine forall_congr' fun d => ?_
  rw [← h.attended d, ← Bool.eq_iff_iff]

theorem Following.inStep (h : s.Following) : s.InStep := by
  intro hquiet
  refine ⟨h.intact hquiet.1, (matches_iff h.attended).mpr (h.follows hquiet.1 ?_)⟩
  rw [hquiet.2]
  rfl

theorem following_new (garbage : UInt8) (last : UInt32) : (new a garbage last).Following where
  attended := CarWebSocketServer.attended_new garbage
  intact hup := by cases hup
  follows hup := by cases hup

/-- **One event.** -/
theorem following_step (h : s.Following) {e : Event} (hspelled : e.Spelled)
    (hstarts : s.StartsInStep e) (hintact : s.SendsIntact e) : (step a s e).Following := by
  cases e with
  | websocket e outcomes =>
      obtain ⟨hattended, hturns⟩ := CarWebSocketServer.attended_step h.attended hspelled
      have hframe := s.tcpClient.notify_socket (s.websocketServer.calls e) outcomes
      refine ⟨hattended, fun hup => ?_, fun hup hnone d => ?_⟩
      · have hwas : s.tcpClient.socket = .connected := hframe.symm.trans hup
        exact (CarTcpClient.garbled_notify _ s.tcpClient (hintact hwas)).trans (h.intact hwas)
      · have hwas : s.tcpClient.socket = .connected := hframe.symm.trans hup
        obtain ⟨-, hle, hrequested⟩ := CarTcpClient.requested_notify (d := d)
          (s.websocketServer.calls e) outcomes hwas
        have hnone' : (s.tcpClient.notify (s.websocketServer.calls e) outcomes).errors.write = 0 :=
          hnone
        have hbefore : s.tcpClient.errors.write = 0 := by omega
        show Request.requested (s.tcpClient.notify (s.websocketServer.calls e) outcomes).sent d = _
        rw [hrequested (hnone'.trans hbefore.symm), h.follows hwas hbefore d]
        exact (hturns d).2.symm
  | tcp e =>
      refine ⟨h.attended, fun hup => ?_, fun hup hnone d => ?_⟩
      · show (s.tcpClient.step a e).garbled = false
        obtain ⟨rfl, -, hgarbled, -⟩ | ⟨hwas, -, hgarbled, -⟩ := CarTcpClient.step_connected hup
        · rw [hgarbled]
          exact (hstarts rfl).1
        · rw [hgarbled]
          exact h.intact hwas
      · show Request.requested (s.tcpClient.step a e).sent d = _
        obtain ⟨rfl, hsent, -, -⟩ | ⟨hwas, hsent, -, hwrite⟩ := CarTcpClient.step_connected hup
        · rw [hsent]
          exact (matches_iff h.attended).mp (hstarts rfl).2 d
        · rw [hsent]
          exact h.follows hwas (hwrite.symm.trans hnone) d

/-- **When upstream subscriptions match the topics.**  In a run of opens and
closes (device strings of hexadecimal digits) and of connects, errors,
handlers and reconnects: if every connection, when it is made, has been given
requests that match the topics there are, and asio finds the bytes of all its
requests when it writes them, then the server is in step in every state.
Conversely, a run in step throughout makes every connection that way, those
apart that are made while handlers of earlier ones are still to be called. -/
theorem upstream_in_step (a : StringAlloc) (garbage : UInt8) (last : UInt32)
    (events : List Event) (hspelled : ∀ e ∈ events, e.Spelled) :
    let start := new a garbage last
    (Along (step a) (fun s e => s.StartsInStep e ∧ s.SendsIntact e) start events →
        ∀ pre, pre <+: events → (run (step a) start pre).InStep)
      ∧ ((∀ pre, pre <+: events → (run (step a) start pre).InStep) →
        Along (step a) (fun s e => s.tcpClient.errors = .none → s.StartsInStep e) start
          events) := by
  intro start
  constructor
  · intro hstarts pre hpre
    have hall : Along (step a) (fun s e => (s.StartsInStep e ∧ s.SendsIntact e) ∧ e.Spelled)
        start events := hstarts.and_forall hspelled
    have hfollowing : (run (step a) start pre).Following :=
      run_invariant (I := Following)
        (fun s e hs he => following_step hs he.2 he.1.1 he.1.2)
        (following_new garbage last) (hall.of_prefix hpre)
    exact hfollowing.inStep
  · intro hinStep
    refine along_iff_forall_prefix.mpr fun pre e hpre hnone heq => ?_
    subst heq
    -- the state in which the connection has just been made
    have hquiet : (run (step a) start (pre ++ [.tcp (.connectDone true)])).Quiet := by
      rw [run_append]
      exact ⟨rfl, hnone⟩
    have hmatches := hinStep _ hpre hquiet
    rw [run_append] at hmatches
    exact hmatches

/-- A handle comes while the server is connected, another one for the same car;
both leave. -/
theorem upstream_in_step_one_car :
    let uri : List UInt8 := CarWebSocketServer.strLive ++ List.replicate 14 49
    let events : List Event := [.tcp (.connectDone true), .websocket (.onOpen 1 (some uri)) [],
      .websocket (.onOpen 2 (some uri)) [], .websocket (.onClose 1) [],
      .websocket (.onClose 2) []]
    ∀ pre, pre <+: events → (run (step .libstdcxx) (new .libstdcxx 0 0) pre).InStep := by
  intro uri events
  have hspelled : ∀ e ∈ events, e.Spelled := by
    simp only [events, List.forall_mem_cons, List.not_mem_nil, false_imp_iff, implies_true,
      and_true]
    exact ⟨trivial, CarWebSocketServer.spelled_live 1 (List.all_eq_true.mp rfl),
      CarWebSocketServer.spelled_live 2 (List.all_eq_true.mp rfl), trivial, trivial⟩
  refine (upstream_in_step .libstdcxx 0 0 events hspelled).1
    ⟨⟨fun _ => ⟨rfl, ?_⟩, trivial⟩, ?_⟩
  · -- nobody watches, and nothing was asked for
    refine (matches_iff (CarWebSocketServer.attended_new 0)).mpr fun d => ?_
    simp [new, CarWebSocketServer.new, CarTopicManager.existsTopic, CarTcpClient.new,
      CarTcpClient.connect]
  · simp [Along, StartsInStep, SendsIntact]

/-- A handle comes, the peer closes the connection, the client connects again:
the topic is there, and nothing was requested. -/
theorem upstream_not_in_step_after_reconnect :
    let uri : List UInt8 := CarWebSocketServer.strLive ++ List.replicate 14 49
    let events : List Event := [.tcp (.connectDone true), .websocket (.onOpen 1 (some uri)) [],
      .tcp .peerClosed, .tcp .timer, .tcp (.connectDone true)]
    Along (step .libstdcxx) Enabled (new .libstdcxx 0 0) events
      ∧ ¬(run (step .libstdcxx) (new .libstdcxx 0 0) events).InStep := by
  intro uri events
  refine ⟨by decide +kernel, fun hinStep => ?_⟩
  have hquiet : (run (step .libstdcxx) (new .libstdcxx 0 0) events).Quiet := by
    refine ⟨?_, ?_⟩ <;> decide +kernel
  have hmatches := (hinStep hquiet).2 0x11111111111111
  have hnone : Request.requested (run (step .libstdcxx) (new .libstdcxx 0 0)
      events).tcpClient.sent 0x11111111111111 = false := by decide +kernel
  rw [hnone] at hmatches
  exact Bool.false_ne_true (hmatches.mpr ⟨1, by decide +kernel⟩)

end CarWebServer

end MultiProcessServer
