/-
  MultiProcessServer.Jt1078Client.Jt1078Client
  ────────────────────────────────────────────
  `TcpClient` and `Jt1078Client`: the connection of `pc_server` and
  `web_server` to `jt1078_server`, and what `jt1078_server` makes of the
  requests sent on it.

    `sub_iff_requested` : replaying the requests of one connection is what
                          `ForwardServer` does with them.

  Requests sent on a live connection are taken to be delivered whole
  (`RequestStream` says when they are).
-/
import MultiProcessServer.Core.IpcPacket
import MultiProcessServer.ForwardServer.ForwardServer

namespace MultiProcessServer

/-! ## §1. The client. -/

/-- A frame written by `SendPacket`. -/
structure Request where
  header : Ipc.Header
  data : List UInt8
  deriving DecidableEq, Repr

/-- The frame on the wire: the header, then the payload. -/
def Request.bytes (r : Request) : List UInt8 := r.header.bytes ++ r.data

/-- `class Jt1078Client`: `connecting` says whether `m_ev_write` still waits
for the connection, `sent` what was written on it. -/
structure Jt1078Client where
  bConnected : Bool
  connecting : Bool
  uLastSendIpcPktSeqId : UInt32
  sent : List Request
  /-- Nothing is sent before the connection is there. -/
  pending : connecting = true → bConnected = false ∧ sent = []
  deriving DecidableEq, Repr

/-- What `sock::SocketConnect` answers (`failed` also stands for an
`event_new` that fails), and `cleared` for a connection that is there at once
but whose read event cannot be made. -/
inductive ConnectResult
  | failed
  | pending
  | connected
  | cleared
  | refused
  deriving DecidableEq, Repr

namespace Jt1078Client

def new : Jt1078Client where
  bConnected := false
  connecting := false
  uLastSendIpcPktSeqId := Ipc.INVALID_PKT_SEQ_ID
  sent := []
  pending _ := ⟨rfl, rfl⟩

variable (c : Jt1078Client)

def isConnected : Bool := c.bConnected

/-- The fields `SendPacket` sets after `Clear`; `m_uHeadLength` stays. -/
def header (mask : UInt32) (len : Nat) : Ipc.Header :=
  { Ipc.Header.cleared with
    pktType := mask
    dataLength := UInt32.ofNat len
    pktSeqId := Ipc.nextPktSeqId c.uLastSendIpcPktSeqId }

/-- `SendPacket`.  Without a connection `m_fd` is no socket and nothing is
written. -/
def sendPacket (mask : UInt32) (data : List UInt8) : Jt1078Client :=
  { c with
    uLastSendIpcPktSeqId := Ipc.nextPktSeqId c.uLastSendIpcPktSeqId
    sent := if c.bConnected then c.sent ++ [⟨c.header mask data.length, data⟩] else c.sent
    pending := by
      intro h
      obtain ⟨hdown, hsent⟩ := c.pending h
      simp [hdown, hsent] }

/-- `OnConnected`, up to the call of the owner's handler. -/
def onConnected (bOk : Bool) : Jt1078Client :=
  { c with bConnected := bOk, connecting := false, pending := fun h => by cases h }

/-- `OnConnected(fd, true)`, up to the call of the owner's handler, when
`InitReadEvent` fails: `Clear` closes the socket, and the handler is told that
the client is connected. -/
def onCleared : Jt1078Client :=
  { c with bConnected := false, connecting := false, pending := fun h => by cases h }

/-- A new client whose `AsyncConnect` waits for the connection. -/
def waiting : Jt1078Client := { new with connecting := true, pending := fun _ => ⟨rfl, rfl⟩ }

/-- `AsyncConnect` of a new client: its answer, the client, and the argument
of the owner's connect handler when that is called before `AsyncConnect`
returns. -/
def asyncConnect : ConnectResult → Bool × Jt1078Client × Option Bool
  | .failed => (false, new, none)
  | .pending => (true, waiting, none)
  | .connected => (true, new.onConnected true, some true)
  | .cleared => (true, new.onCleared, some true)
  | .refused => (true, new.onConnected false, some false)

end Jt1078Client

/-! ## §2. Replaying requests. -/

namespace Request

/-- `m_uPktType & IPC_PKT_TYPE_MASK`. -/
def type (r : Request) : UInt32 := r.header.pktType &&& Ipc.IPC_PKT_TYPE_MASK

/-- Whether `deviceId` is subscribed after one more request. -/
def replay (deviceId : UInt64) (subscribed : Bool) (r : Request) : Bool :=
  if r.type = Ipc.IPC_PKT_TYPE_SUBSCRIBE_DEVICE_ID then
    subscribed || generateDeviceIdByBuffer r.data == deviceId
  else if r.type = Ipc.IPC_PKT_TYPE_UNSUBSCRIBE_DEVICE_ID then
    subscribed && generateDeviceIdByBuffer r.data != deviceId
  else subscribed

/-- Whether `deviceId` is subscribed after these requests, from nothing. -/
def requested (sent : List Request) (deviceId : UInt64) : Bool :=
  sent.foldl (replay deviceId) false

@[simp] theorem requested_nil (deviceId : UInt64) : requested [] deviceId = false := rfl

theorem requested_concat (sent : List Request) (r : Request) (deviceId : UInt64) :
    requested (sent ++ [r]) deviceId = replay deviceId (requested sent deviceId) r := by
  simp [requested]

section OneRequest

variable {deviceId : UInt64} {subscribed : Bool} {r : Request}

theorem replay_subscribe (hr : r.type = Ipc.IPC_PKT_TYPE_SUBSCRIBE_DEVICE_ID) :
    replay deviceId subscribed r = true
      ↔ deviceId = generateDeviceIdByBuffer r.data ∨ subscribed = true := by
  unfold replay
  rw [if_pos hr, Bool.or_eq_true, beq_iff_eq, @eq_comm _ deviceId, or_comm]

theorem replay_unsubscribe (hr : r.type = Ipc.IPC_PKT_TYPE_UNSUBSCRIBE_DEVICE_ID) :
    replay deviceId subscribed r = true
      ↔ deviceId ≠ generateDeviceIdByBuffer r.data ∧ subscribed = true := by
  have hne : r.type ≠ Ipc.IPC_PKT_TYPE_SUBSCRIBE_DEVICE_ID := by rw [hr]; decide
  unfold replay
  rw [if_neg hne, if_pos hr, Bool.and_eq_true, bne_iff_ne, @ne_comm _ deviceId, and_comm]

theorem replay_other (hs : r.type ≠ Ipc.IPC_PKT_TYPE_SUBSCRIBE_DEVICE_ID)
    (hu : r.type ≠ Ipc.IPC_PKT_TYPE_UNSUBSCRIBE_DEVICE_ID) :
    replay deviceId subscribed r = subscribed := by
  unfold replay
  rw [if_neg hs, if_neg hu]

end OneRequest

end Request

/-! ## §3. Sending requests. -/

namespace Jt1078Client

variable {c : Jt1078Client} {deviceId : UInt64} {mask : UInt32}

/-- A packet sent on a live connection is replayed. -/
theorem requested_sendPacket (hup : c.isConnected = true) (mask : UInt32) (data : List UInt8) :
    Request.requested (c.sendPacket mask data).sent deviceId
      = Request.replay deviceId (Request.requested c.sent deviceId)
          ⟨c.header mask data.length, data⟩ := by
  have hsent : (c.sendPacket mask data).sent
      = c.sent ++ [⟨c.header mask data.length, data⟩] := if_pos hup
  rw [hsent, Request.requested_concat]

theorem requested_send_subscribe (hup : c.isConnected = true)
    (hmask : mask &&& Ipc.IPC_PKT_TYPE_MASK = Ipc.IPC_PKT_TYPE_SUBSCRIBE_DEVICE_ID)
    (data : List UInt8) :
    Request.requested (c.sendPacket mask data).sent deviceId = true
      ↔ deviceId = generateDeviceId data ∨ Request.requested c.sent deviceId = true := by
  rw [requested_sendPacket hup]
  exact Request.replay_subscribe hmask

theorem requested_send_unsubscribe (hup : c.isConnected = true)
    (hmask : mask &&& Ipc.IPC_PKT_TYPE_MASK = Ipc.IPC_PKT_TYPE_UNSUBSCRIBE_DEVICE_ID)
    (data : List UInt8) :
    Request.requested (c.sendPacket mask data).sent deviceId = true
      ↔ deviceId ≠ generateDeviceId data ∧ Request.requested c.sent deviceId = true := by
  rw [requested_sendPacket hup]
  exact Request.replay_unsubscribe hmask

theorem requested_send_heartbeat (hup : c.isConnected = true)
    (hmask : mask &&& Ipc.IPC_PKT_TYPE_MASK = Ipc.IPC_PKT_TYPE_HEARTBEAT) (data : List UInt8) :
    Request.requested (c.sendPacket mask data).sent deviceId
      = Request.requested c.sent deviceId := by
  have htype : (⟨c.header mask data.length, data⟩ : Request).type = Ipc.IPC_PKT_TYPE_HEARTBEAT :=
    hmask
  rw [requested_sendPacket hup]
  exact Request.replay_other (by rw [htype]; decide) (by rw [htype]; decide)

end Jt1078Client

/-! ## §4. `ForwardServer` replays them. -/

namespace Request

/-- The frame as the packet `ForwardServer` decodes. -/
def ofPacket (packet : Ipc.Packet) : Request := ⟨packet.header, packet.data⟩

open Forward Forward.ForwardServer in
theorem sub_step_packet (a : Spec) (s d : UInt64) (packet : Ipc.Packet) (subscribed : Bool)
    (h : a.sub s d ↔ subscribed = true) :
    (a.step (.packetCompleted s packet)).sub s d
      ↔ replay d subscribed (ofPacket packet) = true := by
  unfold Spec.step
  rw [Event.request]
  by_cases hs : packet.type = Ipc.IPC_PKT_TYPE_SUBSCRIBE_DEVICE_ID
  · rw [if_pos hs, @replay_subscribe _ _ (ofPacket packet) hs, ← h]
    show (s = s ∧ d = _) ∨ a.sub s d ↔ _
    rw [and_iff_right rfl, ofPacket]
  · rw [if_neg hs]
    by_cases hu : packet.type = Ipc.IPC_PKT_TYPE_UNSUBSCRIBE_DEVICE_ID
    · rw [if_pos hu, @replay_unsubscribe _ _ (ofPacket packet) hu, ← h]
      show ¬(s = s ∧ d = _) ∧ a.sub s d ↔ _
      rw [and_iff_right rfl, ofPacket]
    · rw [if_neg hu, @replay_other _ _ (ofPacket packet) hs hu]
      exact h

/-- **`ForwardServer` replays requests**: after the packets of a session that
was subscribed to nothing, it is subscribed to what they request. -/
theorem sub_iff_requested (a : Forward.ForwardServer.Spec) (s d : UInt64) (h : ¬a.sub s d)
    (packets : List Ipc.Packet) :
    (Runs.run Forward.ForwardServer.Spec.step a
        (packets.map (Forward.ForwardServer.Event.packetCompleted s))).sub s d
      ↔ requested (packets.map ofPacket) d = true := by
  have hrun : ∀ (packets : List Ipc.Packet) (a : Forward.ForwardServer.Spec) (subscribed : Bool),
      (a.sub s d ↔ subscribed = true) →
      ((Runs.run Forward.ForwardServer.Spec.step a
          (packets.map (Forward.ForwardServer.Event.packetCompleted s))).sub s d
        ↔ (packets.map ofPacket).foldl (replay d) subscribed = true) := by
    intro packets
    induction packets with
    | nil => exact fun a subscribed h => h
    | cons packet packets ih =>
        exact fun a subscribed h => ih _ _ (sub_step_packet a s d packet subscribed h)
  exact hrun packets a false (by simp [h])

end Request

end MultiProcessServer
