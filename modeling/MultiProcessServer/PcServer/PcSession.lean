/-
  MultiProcessServer.PcServer.PcSession
  ─────────────────────────────────────
  `PcSession`: the connection of one viewer to `pc_server`, with the device
  it watches.  `SendPacket` is written independently of
  `Subscriber::SendMsg`, with a `bool` for an answer.
-/
import MultiProcessServer.Core.IpcPacket
import MultiProcessServer.Core.TcpSession

namespace MultiProcessServer

/-- `class PcSession`: its session and `m_strDeviceId`. -/
structure PcSession where
  tcp : TcpSession
  strDeviceId : List UInt8
  deriving DecidableEq, Repr

namespace PcSession

/-- A session after `Init`, watching nothing. -/
def new (socket : List SockResult) : PcSession where
  tcp := .init socket
  strDeviceId := []

variable (s : PcSession)

def isCanWrite : Bool := s.tcp.isCanWrite

def getDeviceId : List UInt8 := s.strDeviceId

def setDeviceId (strDeviceId : List UInt8) : PcSession := { s with strDeviceId := strDeviceId }

def clearDeviceId : PcSession := { s with strDeviceId := [] }

/-- `SendPacket` from the point where nothing is pending.  `packet` is the
frame in memory: `sizeof(ipc::packet_t) + m_uDataLength` bytes. -/
def sendPacketNow (packet : List UInt8) : Bool × PcSession :=
  match s.tcp.sendBuffer packet with
  | (.written ret, tcp) =>
      if ret < packet.length then
        (true, { s with tcp := tcp.pushBackPendingBuffer (packet.drop ret) })
      else (true, { s with tcp := tcp })
  | (_, tcp) =>
      -- the source looks at the session here, not at `nerrno`
      if tcp.isCanWrite then (true, { s with tcp := tcp.pushBackPendingBuffer packet })
      else (false, { s with tcp := tcp })

/-- `SendPacket`. -/
def sendPacket (packet : Ipc.Packet) : Bool × PcSession :=
  if !s.tcp.emptyPendingBuffer then
    match s.tcp.sendPendingBuffer with
    | (false, tcp) =>
        if !tcp.isCanWrite then (false, { s with tcp := tcp })
        else (true, { s with tcp := tcp.pushBackPendingBuffer packet.bytes })
    | (true, tcp) => { s with tcp := tcp }.sendPacketNow packet.bytes
  else s.sendPacketNow packet.bytes

/-- Packets sent one after the other while `IsCanWrite()` holds, with the
values the calls returned. -/
def sendAll : PcSession → List Ipc.Packet → List Bool × PcSession
  | s, [] => ([], s)
  | s, packet :: packets =>
      if s.isCanWrite then
        let (ok, s) := s.sendPacket packet
        let (oks, s) := sendAll s packets
        (ok :: oks, s)
      else ([], s)

variable {s}

theorem sendPacketNow_eq (frame : List UInt8) (hcan : s.tcp.bFdCanWrite = true) :
    s.sendPacketNow frame
      = ((s.tcp.transmitNow frame).1, { s with tcp := (s.tcp.transmitNow frame).2 }) := by
  unfold sendPacketNow TcpSession.transmitNow
  generalize hsend : s.tcp.sendBuffer frame = answer
  obtain ⟨r, tcp⟩ := answer
  obtain ⟨-, -, hr⟩ := TcpSession.sendBuffer_spec hsend
  cases r with
  | written n =>
      dsimp only
      split <;> rfl
  | eagain =>
      -- `EAGAIN` leaves the session writable
      have hcan' : tcp.isCanWrite = true := hr.2.trans hcan
      simp only [hcan', if_true]
  | error =>
      have hcan' : tcp.isCanWrite = false := hr.2
      simp only [hcan', Bool.false_eq_true, if_false]

/-- **`PcSession::SendPacket` transmits the packet.** -/
theorem sendPacket_eq (packet : Ipc.Packet) (hcan : s.tcp.bFdCanWrite = true) :
    s.sendPacket packet
      = ((s.tcp.transmit packet.bytes).1,
          { s with tcp := (s.tcp.transmit packet.bytes).2 }) := by
  unfold sendPacket
  rw [TcpSession.transmit]
  cases hempty : s.tcp.emptyPendingBuffer with
  | true => exact sendPacketNow_eq packet.bytes hcan
  | false =>
      have hflush := (TcpSession.flush_spec s.tcp.pendingBufferList s.tcp).2.2
      generalize hsend : s.tcp.sendPendingBuffer = answer
      obtain ⟨ok, tcp⟩ := answer
      injection hsend with hok htcp
      rw [htcp] at hok hflush
      cases ok with
      | true =>
          have hcan' : tcp.bFdCanWrite = true :=
            (hflush (List.isEmpty_iff.mp hok)).trans hcan
          exact @sendPacketNow_eq { s with tcp := tcp } packet.bytes hcan'
      | false =>
          cases hcan' : tcp.isCanWrite with
          | true => simp [hcan']
          | false => simp [hcan']

/-- **A run of `SendPacket` is a run of `transmit`** on the packets. -/
theorem sendAll_eq (packets : List Ipc.Packet) (s : PcSession) :
    (s.sendAll packets).1 = (s.tcp.transmitAll (packets.map Ipc.Packet.bytes)).1
      ∧ (s.sendAll packets).2.tcp
        = (s.tcp.transmitAll (packets.map Ipc.Packet.bytes)).2 := by
  induction packets generalizing s with
  | nil => exact ⟨rfl, rfl⟩
  | cons p ps ih =>
      unfold sendAll
      rw [List.map_cons, TcpSession.transmitAll, isCanWrite]
      split
      next hcan =>
          rw [sendPacket_eq p hcan]
          obtain ⟨hoks, htcp⟩ := ih { s with tcp := (s.tcp.transmit p.bytes).2 }
          exact ⟨congrArg _ hoks, htcp⟩
      next => exact ⟨rfl, rfl⟩

end PcSession

end MultiProcessServer
