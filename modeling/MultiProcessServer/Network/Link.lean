/-
  MultiProcessServer.Network.Link
  ───────────────────────────────
  A `Jt1078Client` connected to a forward server of `jt1078_server`.

  The connection is TCP: what one end writes the other end reads, in order, as
  far as the connection lasts.  Towards the client it carries the bytes on the
  socket of the session, cut anywhere; towards `jt1078_server` it carries the
  requests, one after the other and each of them whole: `writev` is taken to
  take all that `Jt1078Client::SendPacket` gives it (`Jt1078Client.RequestStream`
  is about its other answers).  A connection may be accepted late, die at either
  end alone, and be followed by another one while the session of the old one is
  still there.

  Who the client belongs to is left open, and so is when it reads, asks, and
  gives the connection up.  Whatever it does, the session is subscribed to what
  the requests that have arrived ask for (`Linked`).
-/
import MultiProcessServer.Jt1078Service.Halves
import MultiProcessServer.PcServer.Requests
import MultiProcessServer.ReceiveLoops

namespace MultiProcessServer

open Forward

/-- `jt1078_server`, and the connection of one client of its. -/
structure Uplink where
  service : Jt1078Service
  /-- What is known of the sessions of `jt1078_server`'s subscribers. -/
  roster : Roster UInt64
  /-- The session of the connection the client has, once it was accepted. -/
  session : Option UInt64
  /-- How many requests of this connection have arrived. -/
  arrived : Nat
  /-- `m_ipc_decoder`, and how many bytes it was given. -/
  decoder : Ipc.Decoder
  read : Nat
  /-- The packets handed to `OnClientMessage`, of all connections so far. -/
  received : List Ipc.Packet

namespace Uplink

-- `half` says which forward server the client is configured to connect to
variable (half : Bool) (a : StringAlloc) (l : Uplink)

/-! ## §1. The connection. -/

/-- No connection, and a new `jt1078_server`. -/
def init (garbage : UInt8) : Uplink where
  service := .new garbage
  roster := .empty
  session := none
  arrived := 0
  decoder := .new a
  read := 0
  received := []

/-- The forward server the client is connected to. -/
def forward : ForwardServer := l.service.forwardServer half

/-- The bytes on the connection towards the client. -/
def wire : List UInt8 :=
  match l.session with
  | none => []
  | some s => ((l.forward half).sessions s).tcp.written

/-- The client is given up, and its socket closed. -/
def reset : Uplink := { l with session := none, arrived := 0, decoder := .new a, read := 0 }

/-- An event of `jt1078_server`. -/
def serviceStep (e : Jt1078Service.Event) : Uplink :=
  { l with service := l.service.step e, roster := l.roster.next (e.contact half) }

/-- `jt1078_server` accepts the connection. -/
def acceptStep (sessionId : UInt64) (socket : List SockResult) : Uplink :=
  { l.serviceStep half (.subscriberConnection half sessionId socket true) with
    session := some sessionId }

/-- The next request arrives; it is this packet. -/
def requestStep (packet : Ipc.Packet) : Uplink :=
  match l.session with
  | none => l
  | some s =>
      { l.serviceStep half (.subscriberPacket half s packet) with arrived := l.arrived + 1 }

/-- The event is one of the connection's own requests. -/
def ofSession : Jt1078Service.Event → Bool
  | .subscriberPacket isRealtime sessionId _ => isRealtime == half && l.session == some sessionId
  | _ => false

/-- What happens at the other end of the connection. -/
inductive Event
  /-- An event of `jt1078_server`, but for the requests of the connection. -/
  | service (e : Jt1078Service.Event)
  /-- `jt1078_server` accepts the connection. -/
  | accept (sessionId : UInt64) (socket : List SockResult)
  /-- The next request arrives; it is this packet. -/
  | request (packet : Ipc.Packet)

def step : Event → Uplink
  | .service e => l.serviceStep half e
  | .accept sessionId socket => l.acceptStep half sessionId socket
  | .request packet => l.requestStep half packet

/-- The event can come now, of a client that has made these requests, and has a
connection or waits for one. -/
def Enabled (sent : List Request) (hasConnection : Bool) : Event → Prop
  | .service e => l.roster.admits (e.contact half) ∧ l.ofSession half e = false
  | .accept sessionId _ =>
      l.roster.admits (.opens sessionId) ∧ l.session = none ∧ hasConnection = true
  | .request packet =>
      l.session.any (fun s => decide (s ∈ l.roster.live)) = true
        ∧ sent[l.arrived]? = some (Request.ofPacket packet)

instance (sent : List Request) (hasConnection : Bool) :
    (e : Event) → Decidable (l.Enabled half sent hasConnection e)
  | .service _ | .request _ => inferInstanceAs (Decidable (_ ∧ _))
  | .accept _ _ => inferInstanceAs (Decidable (_ ∧ _ ∧ _))

/-- The bytes a read of at most `size` gets. -/
def chunk (size : Nat) : List UInt8 := ((l.wire half).drop l.read).take size

/-- After `OnMessage` handed on some packets. -/
def handed (chunk : List UInt8) (packets : List (Ipc.Packet × UInt8)) (decoder : Ipc.Decoder) :
    Uplink :=
  { l with
    decoder := decoder
    read := l.read + chunk.length
    received := l.received ++ packets.map Prod.fst }

/-- `TcpSession::HandleReadEvent` of the client, for at most `size` bytes:
`OnMessage`, its packets and its error. -/
def readStep (size : Nat) : List (Ipc.Packet × UInt8) × Option TcpErrorType × Uplink :=
  let chunk := l.chunk half size
  let (packets, error, decoder) := Jt1078Client.onMessage a l.decoder chunk
  (packets, error, l.handed chunk packets decoder)

variable {half a l} {s d : UInt64}

theorem received_requestStep (packet : Ipc.Packet) :
    (l.requestStep half packet).received = l.received := by
  unfold requestStep
  cases l.session <;> rfl

theorem service_requestStep (l : Uplink) (half : Bool) (packet : Ipc.Packet) :
    (l.requestStep half packet).service = l.service
      ∨ ∃ s, (l.requestStep half packet).service
        = l.service.step (.subscriberPacket half s packet) := by
  unfold requestStep
  cases l.session with
  | none => exact Or.inl rfl
  | some s => exact Or.inr ⟨s, rfl⟩

theorem requestStep_of_session (hs : l.session = some s) (packet : Ipc.Packet) :
    l.requestStep half packet
      = { l.serviceStep half (.subscriberPacket half s packet) with arrived := l.arrived + 1 } := by
  unfold requestStep
  rw [hs]

/-- A request speaks for its session. -/
theorem contact_request (half : Bool) (s : UInt64) (packet : Ipc.Packet) :
    (Jt1078Service.Event.subscriberPacket half s packet).contact half = .speaks s := if_pos rfl

theorem not_opens_request (x : UInt64) (packet : Ipc.Packet) :
    (Jt1078Service.Event.subscriberPacket half s packet).contact half ≠ .opens x := by
  rw [contact_request]
  intro hopens
  cases hopens

/-- What an event of `jt1078_server` is for the forward server. -/
theorem forward_serviceStep (l : Uplink) (half : Bool) (e : Jt1078Service.Event) :
    ((l.serviceStep half e).forward half = l.forward half ∧ e.contact half = .silent)
      ∨ ∃ e', (l.serviceStep half e).forward half = (l.forward half).step e'
        ∧ e'.request.contact = e.contact half
        ∧ l.service.forwardEvents half e = [e'] := by
  have hforward : (l.serviceStep half e).forward half
      = Runs.run ForwardServer.step (l.forward half) (l.service.forwardEvents half e) :=
    l.service.forwardServer_step_eq e half
  rw [hforward]
  rcases l.service.forwardEvents_cases e half with ⟨hnil, hsilent⟩ | ⟨e', hone, hcontact⟩
  · rw [hnil]
    exact Or.inl ⟨rfl, hsilent⟩
  · rw [hone]
    exact Or.inr ⟨e', rfl, hcontact, rfl⟩

/-- The forward server keeps its invariant. -/
theorem serving_serviceStep (h : (l.forward half).Serving l.roster) {e : Jt1078Service.Event}
    (he : l.roster.admits (e.contact half)) :
    ((l.serviceStep half e).forward half).Serving (l.serviceStep half e).roster := by
  show ((l.serviceStep half e).forward half).Serving (l.roster.next (e.contact half))
  rcases forward_serviceStep l half e with ⟨hsame, hsilent⟩ | ⟨e', hstep, hcontact, -⟩
  · rw [hsame, hsilent]
    exact h
  · rw [hstep, ← hcontact]
    exact h.step (hcontact ▸ he)

/-- **A request** does to the subscriptions of its session what `replay` says. -/
theorem subscribed_packet {f : ForwardServer} {r : Roster UInt64} (h : f.Serving r)
    (packet : Ipc.Packet) {subscribed : Bool} (hsub : f.Subscribed s d ↔ subscribed = true) :
    (f.step (.packetCompleted s packet)).Subscribed s d
      ↔ Request.replay d subscribed (Request.ofPacket packet) = true := by
  obtain ⟨a, hrefines, -⟩ := h.refines
  rw [(hrefines.step _).subscribed]
  exact Request.sub_step_packet a s d packet subscribed ((hrefines.subscribed s d).symm.trans hsub)

/-- Replaying keeps what was subscribed more often subscribed. -/
theorem replay_mono {r : Request} {x y : Bool} (hxy : x = true → y = true)
    (h : Request.replay d x r = true) : Request.replay d y r = true := by
  cases x with
  | true => rwa [hxy rfl]
  | false =>
      cases y with
      | false => exact h
      | true =>
          unfold Request.replay at h ⊢
          split
          · rfl
          next hs =>
            rw [if_neg hs] at h
            split
            next hu => simp [hu] at h
            next => rfl

/-! ## §2. What is asked for. -/

/-- What holds of the session and the requests, which the client has made. -/
structure Linked (half : Bool) (l : Uplink) (sent : List Request) : Prop where
  serving : (l.forward half).Serving l.roster
  unaccepted : l.session = none → l.arrived = 0
  arrived_le : l.arrived ≤ sent.length
  accepted : ∀ s, l.session = some s → s ∈ l.roster.used
  /-- What is subscribed was asked for. -/
  asked : ∀ s d, l.session = some s → (l.forward half).Subscribed s d →
    Request.requested (sent.take l.arrived) d = true
  /-- What was asked for is subscribed, on a connection that is not dead. -/
  served : ∀ s d, l.session = some s → s ∈ l.roster.live →
    ((l.forward half).sessions s).isCanWrite = true →
    Request.requested (sent.take l.arrived) d = true → (l.forward half).Subscribed s d

variable {sent : List Request}

theorem linked_init (half : Bool) (a : StringAlloc) (garbage : UInt8) (sent : List Request) :
    (init a garbage).Linked half sent where
  serving := ForwardServer.serving_new half garbage
  unaccepted _ := rfl
  arrived_le := Nat.zero_le _
  accepted s hs := absurd hs.symm (Option.some_ne_none s)
  asked s _ hs := absurd hs.symm (Option.some_ne_none s)
  served s _ hs := absurd hs.symm (Option.some_ne_none s)

/-- A connection that is given up. -/
theorem Linked.reset (h : l.Linked half sent) (later : List Request) :
    (l.reset a).Linked half later where
  serving := h.serving
  unaccepted _ := rfl
  arrived_le := Nat.zero_le _
  accepted s hs := absurd hs.symm (Option.some_ne_none s)
  asked s _ hs := absurd hs.symm (Option.some_ne_none s)
  served s _ hs := absurd hs.symm (Option.some_ne_none s)

/-- What is admitted does not open the session of the connection again. -/
theorem Linked.not_opens (h : l.Linked half sent) {e : Jt1078Service.Event}
    (he : l.roster.admits (e.contact half)) {s : UInt64} (hs : l.session = some s) :
    e.contact half ≠ .opens s := by
  intro hopens
  rw [hopens] at he
  exact he (h.accepted s hs)

/-- The client makes requests, which are behind those that have arrived. -/
theorem Linked.more (h : l.Linked half sent) {later : List Request} (hsent : sent <+: later) :
    l.Linked half later := by
  have htake : later.take l.arrived = sent.take l.arrived := by
    obtain ⟨rest, hrest⟩ := hsent
    rw [← hrest, List.take_append_of_le_length h.arrived_le]
  refine ⟨h.serving, h.unaccepted, h.arrived_le.trans hsent.length_le, h.accepted, ?_, ?_⟩
  · intro s d hs hsub
    rw [htake]
    exact h.asked s d hs hsub
  · intro s d hs hlive hcan hrequested
    apply h.served s d hs hlive hcan
    rwa [← htake]

/-- A socket that is not dead was not dead before. -/
theorem Linked.isCanWrite_of_serviceStep (h : l.Linked half sent) {e : Jt1078Service.Event}
    (hopens : e.contact half ≠ .opens s)
    (hcan : (((l.serviceStep half e).forward half).sessions s).isCanWrite = true) :
    ((l.forward half).sessions s).isCanWrite = true := by
  rcases forward_serviceStep l half e with ⟨hsame, -⟩ | ⟨e', hstep, hcontact, -⟩
  · rwa [hsame] at hcan
  · rw [hstep] at hcan
    exact h.serving.isCanWrite_of_step (hcontact ▸ hopens) hcan

theorem not_speaks {e : Jt1078Service.Event} (hs : l.session = some s)
    (hother : l.ofSession half e = false) : e.contact half ≠ .speaks s := by
  intro hspeaks
  obtain ⟨packet, rfl⟩ := Jt1078Service.eq_of_contact_speaks hspeaks
  simp [ofSession, hs] at hother

/-- An event of `jt1078_server` that is no request of the connection. -/
theorem Linked.serviceStep (h : l.Linked half sent) {e : Jt1078Service.Event}
    (he : l.roster.admits (e.contact half)) (hother : l.ofSession half e = false) :
    (l.serviceStep half e).Linked half sent := by
  have hserving := serving_serviceStep h.serving he
  refine ⟨hserving, h.unaccepted, h.arrived_le,
    fun s hs => Roster.mem_used_next _ (h.accepted s hs), ?_, ?_⟩
  · intro s d hs hsub
    apply h.asked s d hs
    rcases forward_serviceStep l half e with ⟨hsame, -⟩ | ⟨e', hstep, hcontact, -⟩
    · rwa [hsame] at hsub
    · rw [hstep] at hsub
      by_cases hcloses : e'.request.contact = .closes s
      · -- the session erred: it is subscribed to nothing
        have hlive := hserving.live_of_subscribed (hstep ▸ hsub)
        have hroster : (l.serviceStep half e).roster = l.roster.next (.closes s) := by
          rw [← hcloses, hcontact]
          rfl
        rw [hroster] at hlive
        exact absurd rfl (Roster.mem_live_closes.mp hlive).2
      · refine (h.serving.subscribed_step_other ?_ hcloses).1 hsub
        rw [hcontact]
        exact not_speaks hs hother
  · intro s d hs hlive hcan hrequested
    have hlive' : s ∈ (l.roster.next (e.contact half)).live := hlive
    rcases forward_serviceStep l half e with ⟨hsame, hsilent⟩ | ⟨e', hstep, hcontact, -⟩
    · rw [hsame] at hcan ⊢
      rw [hsilent] at hlive'
      exact h.served s d hs hlive' hcan hrequested
    · rw [hstep] at hcan ⊢
      rw [← hcontact] at hlive' he
      have hopens : e'.request.contact ≠ .opens s := by
        intro hopens
        rw [hopens] at he
        exact he (h.accepted s hs)
      have hcloses : e'.request.contact ≠ .closes s := by
        intro hcloses
        rw [hcloses] at hlive'
        exact (Roster.mem_live_closes.mp hlive').2 rfl
      have hspeaks : e'.request.contact ≠ .speaks s := hcontact ▸ not_speaks hs hother
      refine (h.serving.subscribed_step_other hspeaks hcloses).2 ?_ hcan
      refine h.served s d hs ?_ (h.serving.isCanWrite_of_step hopens hcan) hrequested
      exact Roster.live_of_next hopens hlive'

/-- `jt1078_server` accepts the connection. -/
theorem Linked.accept (h : l.Linked half sent) {sessionId : UInt64} (socket : List SockResult)
    (hopens : l.roster.admits (.opens sessionId)) (hnone : l.session = none) :
    (l.acceptStep half sessionId socket).Linked half sent := by
  have hcontact : (Jt1078Service.Event.subscriberConnection half sessionId socket true).contact half
      = .opens sessionId := if_pos rfl
  have hforward : (l.serviceStep half (.subscriberConnection half sessionId socket true)).forward
      half = (l.forward half).step (.newConnection sessionId socket true) := by
    refine (l.service.forwardServer_step_eq _ half).trans ?_
    rw [show l.service.forwardEvents half (.subscriberConnection half sessionId socket true)
      = [.newConnection sessionId socket true] from if_pos rfl]
    rfl
  have hserving := serving_serviceStep h.serving
    (e := .subscriberConnection half sessionId socket true) (hcontact ▸ hopens)
  refine ⟨hserving, fun hs => absurd hs (Option.some_ne_none _), h.arrived_le, ?_, ?_, ?_⟩
  · intro s hs
    obtain rfl := Option.some.inj hs
    show sessionId ∈ (l.roster.next (Jt1078Service.Event.contact half _)).used
    rw [hcontact]
    exact List.mem_cons_self
  · -- the id was never used: nothing is subscribed for it
    intro s d hs hsub
    obtain rfl := Option.some.inj hs
    have hbefore : (l.forward half).Subscribed sessionId d := by
      have hsub' : ((l.forward half).step (.newConnection sessionId socket true)).Subscribed
          sessionId d := hforward ▸ hsub
      exact (h.serving.subscribed_step_other (fun hc => by cases hc) (fun hc => by cases hc)).1
        hsub'
    exact absurd (h.serving.grounded _ (h.serving.live_of_subscribed hbefore)) hopens
  · intro s d hs _ _ hrequested
    have hzero : l.arrived = 0 := h.unaccepted hnone
    have hnothing : Request.requested (sent.take l.arrived) d = false := by
      rw [hzero]
      rfl
    exact absurd (hnothing.symm.trans hrequested) Bool.false_ne_true

/-- The next request arrives. -/
theorem Linked.request (h : l.Linked half sent) {packet : Ipc.Packet}
    (hlive : l.session.any (fun s => decide (s ∈ l.roster.live)) = true)
    (hnext : sent[l.arrived]? = some (Request.ofPacket packet)) :
    (l.requestStep half packet).Linked half sent := by
  cases hsession : l.session with
  | none => simp [hsession] at hlive
  | some s =>
      have hlive' : s ∈ l.roster.live := by simpa [hsession] using hlive
      have hcontact := contact_request half s packet
      have hforward : (l.serviceStep half (.subscriberPacket half s packet)).forward half
          = (l.forward half).step (.packetCompleted s packet) := by
        refine (l.service.forwardServer_step_eq _ half).trans ?_
        rw [show l.service.forwardEvents half (.subscriberPacket half s packet)
          = [.packetCompleted s packet] from if_pos rfl]
        rfl
      have hrequested : ∀ d, Request.requested (sent.take (l.arrived + 1)) d
          = Request.replay d (Request.requested (sent.take l.arrived) d)
              (Request.ofPacket packet) := by
        intro d
        rw [List.take_add_one, hnext, Option.toList_some, Request.requested_concat]
      have hlt : l.arrived < sent.length := (List.getElem?_eq_some_iff.mp hnext).1
      rw [requestStep_of_session hsession]
      refine ⟨serving_serviceStep h.serving (hcontact ▸ hlive'), ?_, hlt, ?_, ?_, ?_⟩
      · intro hnone
        exact absurd (hsession.symm.trans hnone) (Option.some_ne_none s)
      · exact fun x hx => Roster.mem_used_next _ (h.accepted x hx)
      · intro x d hx hsub
        obtain rfl : s = x := Option.some.inj (hsession.symm.trans hx)
        show Request.requested (sent.take (l.arrived + 1)) d = true
        rw [hrequested]
        classical
        have hsub' : ((l.forward half).step (.packetCompleted s packet)).Subscribed s d :=
          hforward ▸ hsub
        rw [subscribed_packet h.serving packet (@decide_eq_true_iff
          ((l.forward half).Subscribed s d) _).symm] at hsub'
        refine replay_mono (fun hbefore => ?_) hsub'
        exact h.asked s d hsession (of_decide_eq_true hbefore)
      · intro x d hx _ hcan hasked
        obtain rfl : s = x := Option.some.inj (hsession.symm.trans hx)
        have hasked' : Request.requested (sent.take (l.arrived + 1)) d = true := hasked
        have hcan' : ((l.forward half).sessions s).isCanWrite = true := by
          have hafter : (((l.forward half).step (.packetCompleted s packet)).sessions
              s).isCanWrite = true := hforward ▸ hcan
          refine h.serving.isCanWrite_of_step (fun hopens => ?_) hafter
          have hspeaks : (ForwardServer.Event.packetCompleted s packet).request.contact
              = .speaks s := by
            rw [ForwardServer.Event.request]
            split
            · rfl
            · split <;> rfl
          exact absurd (hspeaks.symm.trans hopens) (fun hc => by cases hc)
        show ((l.serviceStep half _).forward half).Subscribed s d
        rw [hforward, subscribed_packet h.serving packet
          ⟨h.asked s d hsession, h.served s d hsession hlive' hcan'⟩, ← hrequested]
        exact hasked'

/-- **Whatever happens at the other end.** -/
theorem Linked.step (h : l.Linked half sent) {hasConnection : Bool} {e : Event}
    (he : l.Enabled half sent hasConnection e) : (l.step half e).Linked half sent := by
  cases e with
  | service e => exact h.serviceStep he.1 he.2
  | accept sessionId socket => exact h.accept socket he.1 he.2.1
  | request packet => exact h.request he.1 he.2

/-- The client reads. -/
theorem Linked.handed (h : l.Linked half sent) (chunk : List UInt8)
    (packets : List (Ipc.Packet × UInt8)) (decoder : Ipc.Decoder) :
    (l.handed chunk packets decoder).Linked half sent :=
  ⟨h.serving, h.unaccepted, h.arrived_le, h.accepted, h.asked, h.served⟩

theorem Linked.readStep (h : l.Linked half sent) (a : StringAlloc) (size : Nat) :
    (l.readStep half a size).2.2.Linked half sent := h.handed _ _ _

end Uplink

end MultiProcessServer
