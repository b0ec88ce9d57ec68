/-
  MultiProcessServer.ForwardServer.Subscriber
  ───────────────────────────────────────────
  `forward::Subscriber` and `forward::Message`: a JT1078 packet is framed as
  an IPC packet (header, device id, JT1078 header as it lies in memory, body)
  and sent on the subscriber's session.
-/
import MultiProcessServer.Core.IpcPacket
import MultiProcessServer.Core.TcpSession
import MultiProcessServer.Jt1078Server.Jt1078Header

namespace MultiProcessServer.Forward

open Endian

/-- `class Message`. -/
structure Message where
  deviceId : UInt64
  pkt : Jt1078.Packet
  deriving DecidableEq

/-- `class Subscriber`: its session and `m_uLastIpcPktSeqId`. -/
structure Subscriber where
  tcp : TcpSession
  uLastIpcPktSeqId : UInt32
  deriving DecidableEq, Repr

/-! ## §1. The frame of a message. -/

/-- `sizeof(device_id_t)`. -/
def sizeofDeviceId : Nat := 8

namespace Message

variable (m : Message)

/-- The `ipc::packet_t` that `InitIovecByPkt` fills. -/
def ipcHeader (seqId : UInt32) : Ipc.Header where
  headLength := UInt32.ofNat Ipc.sizeofPacket
  dataLength :=
    UInt32.ofNat (sizeofDeviceId + Jt1078.Header.sizeofHeader + m.pkt.header.wdBodyLen.toNat)
  pktSeqId := seqId
  pktType := Ipc.IPC_PKT_TYPE_JT1078_PACKET ||| Ipc.IPC_PKT_FROM_JT1078_SERVER

/-- The payload behind it. -/
def payload : List UInt8 :=
  leBytes sizeofDeviceId m.deviceId.toNat ++ (m.pkt.header.memory ++ m.pkt.body)

theorem length_payload :
    m.payload.length
      = sizeofDeviceId + Jt1078.Header.sizeofHeader + m.pkt.header.wdBodyLen.toNat := by
  simp [payload, m.pkt.length_body, Nat.add_assoc]

/-- The message as the packet a receiver should get. -/
def ipcPacket (seqId : UInt32) : Ipc.Packet where
  header := m.ipcHeader seqId
  data := m.payload
  length_data := by
    have hlt := m.pkt.header.wdBodyLen.toNat_lt
    rw [length_payload, ipcHeader, UInt32.toNat_ofNat_of_lt']
    show _ < 2 ^ 32
    simp only [sizeofDeviceId, Jt1078.Header.sizeofHeader]
    omega

/-- The four `iovec`s of `InitIovecByPkt`. -/
def iov (seqId : UInt32) : List (List UInt8) :=
  [(m.ipcHeader seqId).bytes, leBytes sizeofDeviceId m.deviceId.toNat,
    m.pkt.header.memory, m.pkt.body]

theorem flatten_iov (seqId : UInt32) : (m.iov seqId).flatten = (m.ipcPacket seqId).bytes := by
  simp [iov, ipcPacket, Ipc.Packet.bytes, payload]

end Message

/-! ## §2. Sending. -/

namespace Subscriber

/-- A subscriber whose session was just initialised. -/
def new (socket : List SockResult) : Subscriber where
  tcp := .init socket
  uLastIpcPktSeqId := Ipc.INVALID_PKT_SEQ_ID

variable (s : Subscriber)

def isCanWrite : Bool := s.tcp.isCanWrite

/-- `GetIpcPktSeqId`. -/
def getIpcPktSeqId : UInt32 × Subscriber :=
  let seqId := Ipc.nextPktSeqId s.uLastIpcPktSeqId
  (seqId, { s with uLastIpcPktSeqId := seqId })

/-- `SendMsg` from the point where the list of pending fragments is empty. -/
def sendMsgNow (sendBuffer : List UInt8) : Int × Subscriber :=
  match s.tcp.sendBuffer sendBuffer with
  | (.error, tcp) => (-1, { s with tcp := tcp })
  | (.eagain, tcp) => (0, { s with tcp := tcp.pushBackPendingBuffer sendBuffer })
  | (.written ret, tcp) =>
      if ret < sendBuffer.length then
        (ret, { s with tcp := tcp.pushBackPendingBuffer (sendBuffer.drop ret) })
      else (sendBuffer.length, { s with tcp := tcp })

/-- `SendMsg`. -/
def sendMsg (message : Message) : Int × Subscriber :=
  let (seqId, s) := s.getIpcPktSeqId
  let sendBuffer := (message.iov seqId).flatten
  if !s.tcp.emptyPendingBuffer then
    match s.tcp.sendPendingBuffer with
    | (false, tcp) =>
        if tcp.isCanWrite then
          (sendBuffer.length, { s with tcp := tcp.pushBackPendingBuffer sendBuffer })
        else (-1, { s with tcp := tcp })
    | (true, tcp) => { s with tcp := tcp }.sendMsgNow sendBuffer
  else s.sendMsgNow sendBuffer

/-- Messages sent one after the other while `IsCanWrite()` holds, with the
values the calls returned. -/
def sendAll : Subscriber → List Message → List Int × Subscriber
  | s, [] => ([], s)
  | s, message :: messages =>
      if s.isCanWrite then
        let (ret, s) := s.sendMsg message
        let (rets, s) := sendAll s messages
        (ret :: rets, s)
      else ([], s)

/-- The packets of messages sent after the sequence id `last`. -/
def packets : UInt32 → List Message → List Ipc.Packet
  | _, [] => []
  | last, m :: ms => m.ipcPacket (Ipc.nextPktSeqId last) :: packets (Ipc.nextPktSeqId last) ms

variable {s}

theorem sendMsgNow_eq (sendBuffer : List UInt8) :
    (s.sendMsgNow sendBuffer).2 = { s with tcp := (s.tcp.transmitNow sendBuffer).2 }
      ∧ decide (0 ≤ (s.sendMsgNow sendBuffer).1) = (s.tcp.transmitNow sendBuffer).1 := by
  unfold sendMsgNow TcpSession.transmitNow
  generalize s.tcp.sendBuffer sendBuffer = answer
  obtain ⟨r, tcp⟩ := answer
  cases r with
  | error => exact ⟨rfl, by simp⟩
  | eagain => exact ⟨rfl, by simp⟩
  | written n =>
      dsimp only
      split
      · exact ⟨rfl, decide_eq_true (Int.natCast_nonneg n)⟩
      · exact ⟨rfl, decide_eq_true (Int.natCast_nonneg _)⟩

/-- **`Subscriber::SendMsg` transmits the message's frame**, and returns a
negative number exactly when the frame was refused. -/
theorem sendMsg_eq (message : Message) :
    (s.sendMsg message).2
        = { tcp := (s.tcp.transmit
              (message.ipcPacket (Ipc.nextPktSeqId s.uLastIpcPktSeqId)).bytes).2
            uLastIpcPktSeqId := Ipc.nextPktSeqId s.uLastIpcPktSeqId }
      ∧ decide (0 ≤ (s.sendMsg message).1) = (s.tcp.transmit
          (message.ipcPacket (Ipc.nextPktSeqId s.uLastIpcPktSeqId)).bytes).1 := by
  simp only [sendMsg, getIpcPktSeqId, Message.flatten_iov]
  generalize (message.ipcPacket (Ipc.nextPktSeqId s.uLastIpcPktSeqId)).bytes = frame
  unfold TcpSession.transmit
  cases hempty : s.tcp.emptyPendingBuffer with
  | true => exact sendMsgNow_eq frame
  | false =>
      generalize s.tcp.sendPendingBuffer = answer
      obtain ⟨ok, tcp⟩ := answer
      cases ok with
      | true => exact sendMsgNow_eq frame
      | false =>
          cases hcan : tcp.isCanWrite with
          | true =>
              refine ⟨by simp [hcan], ?_⟩
              simp only [Bool.not_false, hcan, if_true, Bool.false_eq_true, if_false]
              exact decide_eq_true (Int.natCast_nonneg _)
          | false => exact ⟨by simp [hcan], by simp [hcan]⟩

/-- **A run of `SendMsg` is a run of `transmit`** on the messages' frames. -/
theorem sendAll_eq (messages : List Message) (s : Subscriber) :
    ((s.sendAll messages).1.map fun ret => decide (0 ≤ ret))
        = (s.tcp.transmitAll ((packets s.uLastIpcPktSeqId messages).map Ipc.Packet.bytes)).1
      ∧ (s.sendAll messages).2.tcp
        = (s.tcp.transmitAll
            ((packets s.uLastIpcPktSeqId messages).map Ipc.Packet.bytes)).2 := by
  induction messages generalizing s with
  | nil => exact ⟨rfl, rfl⟩
  | cons m ms ih =>
      obtain ⟨hs, hret⟩ := @sendMsg_eq s m
      unfold sendAll
      rw [packets, List.map_cons, TcpSession.transmitAll, isCanWrite]
      split
      · obtain ⟨hrets, htcp⟩ := ih (s.sendMsg m).2
        rw [hs] at hrets htcp
        simp only [List.map_cons, hret, hs]
        exact ⟨by rw [hrets], htcp⟩
      · exact ⟨rfl, rfl⟩

end Subscriber

end MultiProcessServer.Forward
