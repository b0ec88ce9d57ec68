/-
  MultiProcessServer.Network.Way
  ──────────────────────────────
  What is on the way to the client of a connection.

  A message the session was sent, and the client has not handed on, waits in the
  pending list, is on the socket or in the buffer of the client's decoder.
  Wherever it is, it is on the way.

  As long as the client keeps the connection (`Keeps`), and with a session whose
  socket is not dead (`Alive`), what is published for a device that was asked for
  is on the way (`Linked.balances_step`), and a read hands on what leaves it
  (`ledger_read`).
-/
import MultiProcessServer.Lib.Ledger
import MultiProcessServer.Network.Stream

namespace MultiProcessServer.Uplink

open Forward StreamParser

variable {half : Bool} {l l' : Uplink} {s d : UInt64} {sent : List Request}

/-! ## §1. What is on the way. -/

/-- The messages the session was sent, and the client has not handed on. -/
def onTheWay (half : Bool) (l : Uplink) : List Message :=
  (l.owed half).drop (l.handedOn half).length

/-- The payloads of the messages of a device. -/
def payloadsOf (d : UInt64) (messages : List Message) : List (List UInt8) :=
  (messages.filter (ForwardServer.isFor d)).map Message.payload

theorem payloadsOf_append (d : UInt64) (ms ls : List Message) :
    payloadsOf d (ms ++ ls) = payloadsOf d ms ++ payloadsOf d ls := by
  rw [payloadsOf, List.filter_append, List.map_append]
  rfl

theorem eq_map_of_begins {α β : Type*} {f : α → β} {x y : List β} {l : List α}
    (h : x ++ y <+: l.map f) : y = ((l.drop x.length).take y.length).map f := by
  have hboth := List.prefix_iff_eq_take.mp h
  have hfirst := List.prefix_iff_eq_take.mp ((List.prefix_append x y).trans h)
  rw [List.length_append, List.take_add, ← hfirst] at hboth
  rw [List.map_take, List.map_drop]
  exact List.append_cancel_left hboth

/-- What a read completes leaves the way. -/
theorem onTheWay_read (hs : l.Streaming half) (h : l.Linked half sent) {size : Nat}
    (hsize : size ≤ Buffer.MAX_SIZE_ONCE_READ) (decoder : Ipc.Decoder) :
    ∃ arrived, l.onTheWay half = arrived
        ++ (l.handed (l.chunk half size) (l.completed half size).frames decoder).onTheWay half
      ∧ ((l.completed half size).frames.map Prod.fst).map Ipc.Packet.data
        = arrived.map Message.payload := by
  obtain ⟨hparse, -⟩ := readStep_of_streaming .libstdcxx hs h hsize
  have hnow : (l.handed (l.chunk half size) (l.completed half size).frames decoder).handedOn half
      = l.handedOn half ++ (l.completed half size).frames.map Prod.fst := by
    show (Ipc.grammar.parse ((l.wire half).take (l.read + (l.chunk half size).length))).frames.map
      Prod.fst = _
    rw [hparse, List.map_append]
    rfl
  have howed : (l.handed (l.chunk half size) (l.completed half size).frames decoder).owed half
      = l.owed half := rfl
  have hbegins := data_begins h hs
    (List.take_prefix (l.read + (l.chunk half size).length) (l.wire half))
  rw [hparse, List.map_append, List.map_append] at hbegins
  have harrived := eq_map_of_begins hbegins
  rw [List.length_map, List.length_map] at harrived
  -- of the messages, as many are handed on as the read completes
  refine ⟨_, ?_, harrived⟩
  rw [onTheWay, onTheWay, howed, hnow]
  simp only [handedOn, List.length_append, List.length_map]
  rw [← List.drop_drop, List.take_append_drop]

theorem length_handedOn_le (h : l.Linked half sent) (hs : l.Streaming half) :
    (l.handedOn half).length ≤ (l.owed half).length := by
  have hle := (data_handedOn h hs).length_le
  rwa [List.length_map, List.length_map] at hle

/-- When the socket has taken everything, and everything was read, nothing is on
the way. -/
theorem onTheWay_eq_nil (hs : l.Streaming half) (h : l.Linked half sent)
    (hsession : l.session = some s)
    (hcan : ((l.forward half).sessions s).isCanWrite = true)
    (hpending : ((l.forward half).sessions s).tcp.pendingBufferList = [])
    (hread : (l.wire half).length ≤ l.read) : l.onTheWay half = [] := by
  have howed : l.owed half = (l.forward half).sentTo s := by rw [owed, hsession]
  have hwhole : l.wire half = (packetsOf (l.owed half)).flatMap Ipc.Packet.bytes := by
    have hall := (h.serving.sent s).carries.whole hcan
    rw [hpending, List.flatten_nil, List.append_nil, ← List.flatMap_def] at hall
    rw [wire, hsession, howed]
    exact hall
  have hvalid : ∀ p ∈ packetsOf (l.owed half), p.Valid := by
    obtain ⟨past, before, after, -, hpublished, -, hafter⟩ := hs.history
    refine fun p hp => (packets_small (fun m hm => ?_) _ p hp).1
    refine hs.fits m ?_
    rw [hpublished]
    exact List.mem_append_right before (hafter.subset hm)
  have hlength : (l.handedOn half).length = (l.owed half).length := by
    rw [handedOn, taken, List.take_of_length_le hread, hwhole, parse_packets hvalid,
      List.length_map, List.length_map, ← List.length_map Ipc.Packet.data, packetsOf,
      map_data_packets, List.length_map]
  rw [onTheWay, hlength, List.drop_length]

/-! ## §2. A connection that is kept. -/

/-- The socket of the session is not dead. -/
structure Alive (half : Bool) (l : Uplink) (s : UInt64) : Prop where
  live : s ∈ l.roster.live
  upstream : ((l.forward half).sessions s).isCanWrite = true

/-- The other end is as it was. -/
structure SameEnd (l l' : Uplink) : Prop where
  service : l'.service = l.service
  roster : l'.roster = l.roster
  session : l'.session = l.session
  arrived : l'.arrived = l.arrived

/-- The client keeps the connection: it has read at most, or something happened
at the other end. -/
def Keeps (half : Bool) (sent : List Request) (hasConnection : Bool) (l l' : Uplink) : Prop :=
  l.SameEnd l' ∨ ∃ e, l.Enabled half sent hasConnection e ∧ l' = l.step half e

theorem SameEnd.refl (l : Uplink) : l.SameEnd l := ⟨rfl, rfl, rfl, rfl⟩

/-- Of a connection with a session, what happens at the other end is an event of
`jt1078_server` that opens no session of it. -/
theorem Linked.step_eq (h : l.Linked half sent) (hsession : l.session = some s)
    {hasConnection : Bool} {e : Event} (he : l.Enabled half sent hasConnection e) :
    ∃ e' arrived, e'.contact half ≠ .opens s ∧ l.arrived ≤ arrived
      ∧ l.step half e = { l.serviceStep half e' with arrived := arrived } := by
  cases e with
  | service e => exact ⟨e, l.arrived, h.not_opens he.1 hsession, Nat.le_refl _, rfl⟩
  | accept sessionId socket => exact absurd (hsession.symm.trans he.2.1) (Option.some_ne_none s)
  | request packet =>
      exact ⟨.subscriberPacket half s packet, l.arrived + 1, not_opens_request s packet,
        Nat.le_succ _, requestStep_of_session hsession packet⟩

/-- **What is kept**: the session, and the requests that have arrived.  A socket
that is not dead was not dead before. -/
theorem Linked.keeps (h : l.Linked half sent) (hsession : l.session = some s)
    {hasConnection : Bool} (hkeeps : l.Keeps half sent hasConnection l') :
    l'.session = some s ∧ l.arrived ≤ l'.arrived ∧ (l'.Alive half s → l.Alive half s) := by
  rcases hkeeps with hsame | ⟨e, he, rfl⟩
  · refine ⟨hsame.session.trans hsession, hsame.arrived.ge, fun halive => ?_⟩
    have hforward : l'.forward half = l.forward half :=
      congrArg (Jt1078Service.forwardServer · half) hsame.service
    exact ⟨hsame.roster ▸ halive.live, hforward ▸ halive.upstream⟩
  · obtain ⟨e', arrived, hopens, harrived, hstep⟩ := h.step_eq hsession he
    rw [hstep]
    exact ⟨hsession, harrived, fun halive => ⟨Roster.live_of_next hopens halive.live,
      h.isCanWrite_of_serviceStep hopens halive.upstream⟩⟩

/-! ## §3. The ledger of a device. -/

/-- What is published in the half, and of a device what is on the way. -/
def ledger (half : Bool) (d : UInt64) : Ledger Uplink Message Message where
  posted l := l.service.publishedOn half
  has l := (l.onTheWay half).filter (ForwardServer.isFor d)
  worth messages := messages.filter (ForwardServer.isFor d)
  worth_append := List.filter_append

/-- **What is published is on the way**, of a device the session is subscribed
to. -/
theorem balances_serviceStep (h : l.Linked half sent) (hs : l.Streaming half)
    (hsession : l.session = some s) {e : Jt1078Service.Event} (hopens : e.contact half ≠ .opens s)
    (hsub : (l.forward half).Subscribed s d)
    (hcan : ((l.forward half).sessions s).isCanWrite = true) :
    (ledger half d).Balances l (l.serviceStep half e) := by
  obtain ⟨now, hnow, -, hall⟩ := owed_serviceStep h e
  have hopens' : ∀ x, l.session = some x → e.contact half ≠ .opens x := by
    intro x hx
    obtain rfl := Option.some.inj (hsession.symm.trans hx)
    exact hopens
  have honTheWay : (l.serviceStep half e).onTheWay half = l.onTheWay half ++ now := by
    rw [onTheWay, onTheWay, hnow, handedOn, taken_serviceStep hs h hopens',
      ← handedOn, List.drop_append_of_le_length (length_handedOn_le h hs)]
  refine ⟨_, l.service.publishedOn_step e half, ?_⟩
  show ((l.serviceStep half e).onTheWay half).filter _ = (l.onTheWay half).filter _ ++ _
  rw [honTheWay, List.filter_append, hall s d hsession hsub hcan]
  rfl

/-- **Whatever happens at the other end**, if the device was asked for. -/
theorem Linked.balances_step (h : l.Linked half sent) (hs : l.Streaming half)
    (hsession : l.session = some s) (halive : l.Alive half s)
    (hwanted : Request.requested (sent.take l.arrived) d = true) {hasConnection : Bool}
    {e : Event} (he : l.Enabled half sent hasConnection e) :
    (ledger half d).Balances l (l.step half e) := by
  have hsub : (l.forward half).Subscribed s d :=
    h.served s d hsession halive.live halive.upstream hwanted
  obtain ⟨e', arrived, hopens, -, hstep⟩ := h.step_eq hsession he
  rw [hstep]
  exact balances_serviceStep h hs hsession hopens hsub halive.upstream

/-- **What a read completes leaves the way**, of every device. -/
theorem ledger_read (h : l.Linked half sent) (hs : l.Streaming half) {size : Nat}
    (hsize : size ≤ Buffer.MAX_SIZE_ONCE_READ) (decoder : Ipc.Decoder) :
    ∃ arrived : List Message, (∀ d, (ledger half d).has l
        = arrived.filter (ForwardServer.isFor d) ++ (ledger half d).has
          (l.handed (l.chunk half size) (l.completed half size).frames decoder))
      ∧ ((l.completed half size).frames.map Prod.fst).map Ipc.Packet.data
        = arrived.map Message.payload := by
  obtain ⟨arrived, hway, hdata⟩ := onTheWay_read hs h hsize decoder
  refine ⟨arrived, fun d => ?_, hdata⟩
  show (l.onTheWay half).filter _ = _
  rw [hway, List.filter_append]
  rfl

end MultiProcessServer.Uplink
