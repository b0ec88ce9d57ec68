/-
  MultiProcessServer.Network.WebNetwork
  ─────────────────────────────────────
  `web_server` and `jt1078_server`, joined by the connection `m_jt1078_client`
  has, a `Uplink`, so that requests arrive whole and in order.

  The main thread of `web_server` hands a received packet to the worker with
  `PushBack`, and waits there while the queue is full; so the packets of one
  read are handed on one by one (`inbox`), with whatever the worker does in
  between.
-/
import MultiProcessServer.Network.Stream
import MultiProcessServer.WebServer.Resubscription
import MultiProcessServer.WebServer.RtmpStreams
import MultiProcessServer.WebServer.ViewingPeriods

namespace MultiProcessServer

open Forward

/-! ## §1. What `web_server` sends. -/

namespace WebServer

/-- The event gives the client up, or its socket is closed in it. -/
def Event.dropsClient : Event → Bool
  | .clientConnect bOk => !bOk
  | .clientCleared => true
  | .clientError => true
  | .connectTimer _ => true
  | _ => false

/-- The event is a message of the client. -/
def Event.isMessage : Event → Bool
  | .clientMessage _ _ => true
  | _ => false

theorem received_of_not_message {e : Event} (h : e.isMessage = false) : e.received = [] := by
  cases e with
  | clientMessage packet behind => cases h
  | _ => rfl

variable {w v : WebServer}

theorem sent_congr (h : v.jt1078Client = w.jt1078Client) : v.sent = w.sent := by
  rw [sent, sent, h]

theorem sent_sendPacketIfConnected (h : v.jt1078Client = w.jt1078Client) (mask : UInt32)
    (data : List UInt8) : w.sent <+: (v.sendPacketIfConnected mask data).sent := by
  rw [← sent_congr h]
  unfold sendPacketIfConnected
  cases hc : v.jt1078Client with
  | none =>
      dsimp only
      exact List.prefix_refl _
  | some c =>
      dsimp only
      split
      next =>
          show v.sent <+: (c.sendPacket mask data).sent
          rw [sent, hc]
          unfold Jt1078Client.sendPacket
          dsimp only
          split
          · exact List.prefix_append _ _
          · exact List.prefix_refl _
      next => exact List.prefix_refl _

theorem sent_notifyStart (h : v.jt1078Client = w.jt1078Client) (str : List UInt8) :
    w.sent <+: (v.notifyStart str).sent := by
  unfold notifyStart
  dsimp only
  split
  next => exact ⟨[], (List.append_nil _).trans (sent_congr h).symm⟩
  next =>
      exact @sent_sendPacketIfConnected w
        { v with deviceIdMgr := v.deviceIdMgr.insert (generateDeviceId str) } h _ str

theorem sent_notifyStop (h : v.jt1078Client = w.jt1078Client) (str : List UInt8) :
    w.sent <+: (v.notifyStop str).sent :=
  @sent_sendPacketIfConnected w
    { v with deviceIdMgr := v.deviceIdMgr.remove (generateDeviceId str) } h _ str

theorem sent_sessionStop (w : WebServer) (strStream strClientId : List UInt8) :
    w.sent <+: (w.sessionStop strStream strClientId).sent := by
  unfold sessionStop
  dsimp only
  split
  · exact @sent_notifyStop w { w with sessionStat :=
      ((w.sessionStat.delClientId strStream strClientId).emptyClientId strStream).2 } rfl strStream
  · exact List.prefix_refl _

theorem sent_sessionPlay (w : WebServer) (strStream strClientId : List UInt8) :
    w.sent <+: (w.sessionPlay strStream strClientId).sent := by
  unfold sessionPlay
  dsimp only
  split
  · exact @sent_notifyStart w { w with
      sessionStat := (w.sessionStat.emptyClientId strStream).2 } rfl strStream
  · exact List.prefix_refl _

/-- **Unless the client is given up, requests are only added.** -/
theorem sent_prefix_step (w : WebServer) {e : Event} (he : e.dropsClient = false) :
    w.sent <+: (w.step e).sent := by
  cases e with
  | webOnPlay str =>
      cases str with
      | none => exact List.prefix_refl _
      | some str =>
          simp only [step, webOnPlay]
          split
          · exact List.prefix_refl _
          · exact sent_notifyStart rfl str
  | srsOnSession fields =>
      cases fields with
      | none => exact List.prefix_refl _
      | some j =>
          simp only [step]
          obtain ⟨-, -, heq⟩ | ⟨-, -, heq⟩ | ⟨-, heq⟩ := w.srsOnSession_cases j
          · rw [heq]
            exact sent_sessionStop w j.strStream j.strClientId
          · rw [heq]
            exact sent_sessionPlay w j.strStream j.strClientId
          · exact ⟨[], (List.append_nil _).trans (congrArg WebServer.sent heq).symm⟩
  | clientConnect bOk =>
      cases bOk with
      | false => cases he
      | true =>
          have hsent : (w.step (.clientConnect true)).sent = w.sent := by
            show WebServer.sent { w with
              jt1078Client := w.jt1078Client.map fun c : Jt1078Client => c.onConnected true } = _
            unfold sent
            cases w.jt1078Client <;> rfl
          exact ⟨[], (List.append_nil _).trans hsent.symm⟩
  | clientMessage packet behind =>
      have hsame : (w.onClientMessage packet behind).jt1078Client = w.jt1078Client := by
        unfold onClientMessage
        split <;> rfl
      exact ⟨[], (List.append_nil _).trans (sent_congr hsame).symm⟩
  | clientCleared => cases he
  | clientError => cases he
  | connectTimer result => cases he
  | heartbeatTimer =>
      exact @sent_sendPacketIfConnected w { w with heartbeatTimer := false } rfl _ []

end WebServer

/-! ## §2. The two ends. -/

/-- The two processes and the connection between them. -/
structure WebNetwork extends Uplink where
  push : PushThreads
  /-- The packets of the last read that `OnClientMessage` has not had. -/
  inbox : List Ipc.Packet
  /-- `OnMessage` reports an error behind them. -/
  broken : Bool

namespace WebNetwork

-- `half` says which forward server `web_server` is configured to connect to
variable (half : Bool) (a : StringAlloc) (n : WebNetwork)

/-- The main thread's `WebServer`. -/
def web : WebServer := n.push.work.threads.web

/-- The main thread does not wait in `PushBack`. -/
def idle : Bool := n.web.rtmpThread.isEmpty

/-- An event of the main thread. -/
def webStep (e : WebServer.Event) : WebNetwork :=
  let n := { n with push := n.push.step (.web e) }
  if e.dropsClient then { n with toUplink := n.toUplink.reset a } else n

/-- `OnClientMessage` gets the next packet; `behind` is the memory behind its
payload. -/
def messageStep (behind : List UInt8) : WebNetwork :=
  match n.inbox with
  | [] => n
  | packet :: rest => { n.webStep a (.clientMessage packet behind) with inbox := rest }

/-- `HandleReadEvent` of the client, up to where `OnMessage` hands on the packets. -/
def readStep (size : Nat) : WebNetwork :=
  let (packets, error, link) := n.toUplink.readStep half a size
  { n with toUplink := link, inbox := packets.map Prod.fst, broken := error.isSome }

inductive Event
  /-- An event of the main thread, but for the messages of its client. -/
  | web (e : WebServer.Event)
  /-- `OnClientMessage` gets the next packet of the last read. -/
  | message (behind : List UInt8)
  /-- The error `OnMessage` reports. -/
  | broken
  /-- The main thread gets through `PushBack`, or the worker does something. -/
  | thread (e : PushThreads.Event)
  /-- An event at the other end of the connection. -/
  | link (e : Uplink.Event)
  /-- The client reads. -/
  | read (size : Nat)

def step : Event → WebNetwork
  | .web e => n.webStep a e
  | .message behind => n.messageStep a behind
  | .broken => { n.webStep a .clientError with broken := false }
  | .thread e => { n with push := n.push.step e }
  | .link e => { n with toUplink := n.toUplink.step half e }
  | .read size => n.readStep half a size

/-- The start: `web_server` after `Init`, and a new `jt1078_server`. -/
def init (garbage : UInt8) (rtmpUrlPrefix : List UInt8) (result : Option ConnectResult) :
    WebNetwork where
  toUplink := .init a garbage
  push := .init rtmpUrlPrefix result
  inbox := []
  broken := false

/-- The client has a connection, or waits for one. -/
def hasConnection : Bool :=
  n.web.jt1078Client.any fun c => c.bConnected || c.connecting

/-- The last read was handed on. -/
def done : Bool := n.idle && n.inbox.isEmpty && !n.broken

/-- The event is one of the main thread, but for getting through `PushBack`. -/
def ofMain : PushThreads.Event → Bool
  | .web _ => true
  | _ => false

/-- The event can come now. -/
def Enabled : Event → Prop
  | .web e => n.done = true ∧ n.web.Enabled e ∧ e.isMessage = false
  | .message _ => n.idle = true ∧ n.inbox ≠ []
  | .broken => n.idle = true ∧ n.inbox = [] ∧ n.broken = true
  | .thread e => ofMain e = false
  | .link e => n.toUplink.Enabled half n.web.sent n.hasConnection e
  | .read size =>
      n.done = true ∧ n.web.isConnected = true ∧ size ≤ Buffer.MAX_SIZE_ONCE_READ

instance : (e : Event) → Decidable (n.Enabled half e)
  | .web _ | .broken | .read _ => inferInstanceAs (Decidable (_ ∧ _ ∧ _))
  | .message _ => inferInstanceAs (Decidable (_ ∧ _))
  | .thread _ => inferInstanceAs (Decidable (_ = _))
  | .link e => inferInstanceAs (Decidable (n.toUplink.Enabled half n.web.sent n.hasConnection e))

/-- The event at the other end, if it is one. -/
def Event.atLink : Event → Option Uplink.Event
  | .link e => some e
  | _ => none

variable {half a n}

/-! ## §3. The invariant. -/

theorem idle_of_done (h : n.done = true) : n.idle = true := by
  simp only [done, Bool.and_eq_true] at h
  exact h.1.1

theorem inbox_of_done (h : n.done = true) : n.inbox = [] := by
  simp only [done, Bool.and_eq_true, List.isEmpty_iff] at h
  exact h.1.2

/-- The main thread's event, unless it waits in `PushBack`. -/
theorem web_step_of_idle (hidle : n.idle = true) (e : WebServer.Event) :
    (n.push.step (.web e)).work.threads.web = n.web.step e
      ∧ (n.push.step (.web e)).received = n.push.received ++ e.received := by
  have hnone : n.push.work.threads.web.rtmpThread = [] := List.isEmpty_iff.mp hidle
  obtain ⟨hthreads, -⟩ := WorkThread.onMain_eq (f := fun w => w.step e) hnone
  refine ⟨?_, ?_⟩
  · show (n.push.work.onMain _).threads.web = _
    rw [hthreads]
    rfl
  · show n.push.received
      ++ (if n.push.work.threads.web.rtmpThread.isEmpty then e.received else []) = _
    rw [hnone]
    rfl

/-- Elsewhere nothing happens to `WebServer` but to what it has to post. -/
theorem thread_step {p : PushThreads} (h : p.Inv) {e : PushThreads.Event} (he : ofMain e = false) :
    (∃ tasks, (p.step e).work.threads.web = { p.work.threads.web with rtmpThread := tasks })
      ∧ (p.step e).received = p.received := by
  cases e with
  | web e => cases he
  | stop =>
      refine ⟨?_, rfl⟩
      show ∃ tasks, p.work.stop.threads.web = { p.work.threads.web with rtmpThread := tasks }
      unfold WorkThread.stop WebThreads.onMain
      split
      next hempty => exact ⟨_, rfl⟩
      next => exact ⟨_, rfl⟩
  | pushBack =>
      obtain ⟨queue, rest, heq, -⟩ := WorkThread.pushBack_eq h.work
      refine ⟨⟨rest, ?_⟩, rfl⟩
      show p.work.threads.pushBack.web = _
      rw [heq]
  | popFront =>
      refine ⟨⟨p.work.threads.web.rtmpThread, ?_⟩, rfl⟩
      show p.work.threads.popFront.web = _
      unfold WebThreads.popFront
      split
      next =>
          split
          next => rfl
          next => split <;> rfl
      next => rfl
  | handlerTask outcome =>
      show (∃ tasks, (p.handlerTask outcome).work.threads.web
          = { p.work.threads.web with rtmpThread := tasks })
        ∧ (p.handlerTask outcome).received = p.received
      unfold PushThreads.handlerTask
      split
      next => exact ⟨⟨_, rfl⟩, rfl⟩
      next task htask =>
          refine ⟨⟨p.work.threads.web.rtmpThread, ?_⟩, rfl⟩
          show (p.work.threads.handlerTask _).web = _
          unfold WebThreads.handlerTask
          rw [htask]

theorem client_thread_step {p : PushThreads} (h : p.Inv) {e : PushThreads.Event}
    (he : ofMain e = false) :
    (p.step e).work.threads.web.jt1078Client = p.work.threads.web.jt1078Client := by
  obtain ⟨⟨tasks, hweb⟩, -⟩ := thread_step h he
  rw [hweb]

/-- What holds of the two processes and their connection. -/
structure Linked (half : Bool) (n : WebNetwork) : Prop where
  inv : n.push.Inv
  link : n.toUplink.Linked half n.web.sent

theorem linked_init (half : Bool) (a : StringAlloc) (garbage : UInt8)
    (rtmpUrlPrefix : List UInt8) (result : Option ConnectResult) :
    (init a garbage rtmpUrlPrefix result).Linked half :=
  ⟨PushThreads.inv_init rtmpUrlPrefix result, Uplink.linked_init half a garbage _⟩

theorem Linked.webStep (h : n.Linked half) (hidle : n.idle = true) (e : WebServer.Event) :
    (n.webStep a e).Linked half := by
  obtain ⟨hweb, -⟩ := web_step_of_idle hidle e
  have hinv := h.inv.step (.web e)
  unfold WebNetwork.webStep
  cases hdrops : e.dropsClient with
  | true => exact ⟨hinv, h.link.reset _⟩
  | false =>
      refine ⟨hinv, ?_⟩
      show n.toUplink.Linked half (n.push.step (.web e)).work.threads.web.sent
      rw [hweb]
      exact h.link.more (WebServer.sent_prefix_step _ hdrops)

/-- **Every event keeps the two in step.** -/
theorem Linked.step (h : n.Linked half) (e : Event) (he : n.Enabled half e) :
    (n.step half a e).Linked half := by
  cases e with
  | web e =>
      exact h.webStep (idle_of_done he.1) e
  | message behind =>
      show (n.messageStep a behind).Linked half
      unfold messageStep
      split
      next => exact h
      next packet rest hinbox =>
          have hnext := h.webStep (a := a) he.1 (.clientMessage packet behind)
          exact ⟨hnext.inv, hnext.link⟩
  | broken =>
      have hnext := h.webStep (a := a) he.1 .clientError
      exact ⟨hnext.inv, hnext.link⟩
  | thread e =>
      refine ⟨h.inv.step e, ?_⟩
      show n.toUplink.Linked half (n.push.step e).work.threads.web.sent
      rw [WebServer.sent_congr (client_thread_step h.inv he)]
      exact h.link
  | link e => exact ⟨h.inv, h.link.step he⟩
  | read size => exact ⟨h.inv, h.link.readStep a size⟩

/-! ## §4. The stream. -/

def Event.fits (e : Event) : Bool := e.atLink.all Uplink.Event.fits

/-- What holds of the packets that came: they were handed on, or will be. -/
structure Streaming (half : Bool) (n : WebNetwork) : Prop where
  link : n.toUplink.Streaming half
  received : n.received = n.push.received.map Prod.fst ++ n.inbox
  sound : n.broken = false

theorem streaming_init (half : Bool) (a : StringAlloc) (garbage : UInt8)
    (rtmpUrlPrefix : List UInt8) (result : Option ConnectResult) :
    (init a garbage rtmpUrlPrefix result).Streaming half :=
  ⟨Uplink.streaming_init half a garbage, rfl, rfl⟩

/-- What a read does, on such a stream. -/
theorem readStep_of_streaming (a : StringAlloc) {sent : List Request}
    (hs : n.toUplink.Streaming half) (h : n.toUplink.Linked half sent) {size : Nat}
    (hsize : size ≤ Buffer.MAX_SIZE_ONCE_READ) :
    ∃ d, n.step half a (.read size)
        = { n with
          toUplink := n.toUplink.handed (n.chunk half size) (n.completed half size).frames d
          inbox := (n.completed half size).frames.map Prod.fst
          broken := false }
      ∧ d.Rep (n.completed half size).rest := by
  obtain ⟨-, d, hanswer, hrep⟩ := Uplink.readStep_of_streaming a hs h hsize
  refine ⟨d, ?_, hrep⟩
  show n.readStep half a size = _
  unfold readStep
  simp only [hanswer]
  rfl

/-- **Every event keeps the stream.** -/
theorem Streaming.step (hs : n.Streaming half) (h : n.Linked half) (e : Event)
    (he : n.Enabled half e) (hfits : e.fits = true) : (n.step half a e).Streaming half := by
  cases e with
  | web e =>
      obtain ⟨-, hreceived⟩ := web_step_of_idle (idle_of_done he.1) e
      rw [WebServer.received_of_not_message he.2.2, List.append_nil] at hreceived
      have hsame : n.received = (n.push.step (.web e)).received.map Prod.fst ++ n.inbox := by
        rw [hreceived]
        exact hs.received
      show (n.webStep a e).Streaming half
      unfold WebNetwork.webStep
      cases hdrops : e.dropsClient with
      | true => exact ⟨hs.link.reset h.link, hsame, hs.sound⟩
      | false => exact ⟨hs.link, hsame, hs.sound⟩
  | message behind =>
      show (n.messageStep a behind).Streaming half
      unfold messageStep
      split
      next => exact hs
      next packet rest hinbox =>
          obtain ⟨-, hreceived⟩ := web_step_of_idle he.1 (.clientMessage packet behind)
          refine ⟨hs.link, ?_, hs.sound⟩
          show n.received
            = (n.push.step (.web (.clientMessage packet behind))).received.map Prod.fst ++ rest
          rw [hreceived, hs.received, hinbox, List.map_append, List.append_assoc]
          rfl
  | broken => exact absurd (hs.sound.symm.trans he.2.2) Bool.false_ne_true
  | thread e =>
      refine ⟨hs.link, ?_, hs.sound⟩
      show n.received = (n.push.step e).received.map Prod.fst ++ n.inbox
      rw [(thread_step h.inv he).2]
      exact hs.received
  | link e =>
      refine ⟨hs.link.step h.link he hfits, ?_, hs.sound⟩
      show (n.toUplink.step half e).received = _
      rw [Uplink.received_step]
      exact hs.received
  | read size =>
      obtain ⟨d, hstep, hrep⟩ := readStep_of_streaming a hs.link h.link he.2.2
      rw [hstep]
      refine ⟨hs.link.read h.link he.2.2 hrep, ?_, rfl⟩
      show n.received ++ _ = n.push.received.map Prod.fst ++ _
      rw [hs.received, inbox_of_done he.1, List.append_nil]

/-- After every run. -/
theorem streaming_run (half : Bool) (a : StringAlloc) (garbage : UInt8)
    (rtmpUrlPrefix : List UInt8) (result : Option ConnectResult) {events : List Event}
    (h : Runs.Along (WebNetwork.step half a) (fun n e => n.Enabled half e ∧ e.fits = true)
      (init a garbage rtmpUrlPrefix result) events) :
    let n := Runs.run (WebNetwork.step half a) (init a garbage rtmpUrlPrefix result) events
    n.Linked half ∧ n.Streaming half :=
  Runs.run_invariant (I := fun n => n.Linked half ∧ n.Streaming half)
    (fun _ e hn he => ⟨hn.1.step e he.1, hn.2.step hn.1 e he.1 he.2⟩)
    ⟨linked_init half a garbage rtmpUrlPrefix result,
      streaming_init half a garbage rtmpUrlPrefix result⟩ h

end WebNetwork

end MultiProcessServer
