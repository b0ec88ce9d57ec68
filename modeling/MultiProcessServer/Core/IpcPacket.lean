/-
  MultiProcessServer.Core.IpcPacket
  ─────────────────────────────────
  `core/ipc_packet/IpcPacket.h` and `IpcPktType.h`: the header every packet
  between the servers starts with, its memory layout (`#pragma pack(1)`,
  little endian, sent as it lies in memory), and the packet types.
-/
import MultiProcessServer.Core.Buffer

namespace MultiProcessServer.Ipc

open Endian

/-! ## §1. Packet types. -/

def IPC_PKT_INVALID_PACKET : UInt32 := 0

def IPC_PKT_TYPE_MASK : UInt32 := 0x000000ff
def IPC_PKT_TYPE_HEARTBEAT : UInt32 := 0x00000001
def IPC_PKT_TYPE_SUBSCRIBE_DEVICE_ID : UInt32 := 0x00000002
def IPC_PKT_TYPE_UNSUBSCRIBE_DEVICE_ID : UInt32 := 0x00000003
def IPC_PKT_TYPE_JT1078_PACKET : UInt32 := 0x00000004

def IPC_PKT_FROM_MASK : UInt32 := 0x000f0000
def IPC_PKT_FROM_JT1078_SERVER : UInt32 := 0x00010000
def IPC_PKT_FROM_WEB_SERVER : UInt32 := 0x00020000
def IPC_PKT_FROM_PC_SERVER : UInt32 := 0x00030000

def IPC_PKT_OTHER_MASK : UInt32 := 0xff000000
def IPC_PKT_OTHER_THREAD_STOP : UInt32 := 0x01000000

def INVALID_PKT_SEQ_ID : UInt32 := 0xffffffff

/-- `GetIpcPktSeqId` and `GetNewSendIpcPktSeqId`: the id after `last`. -/
def nextPktSeqId (last : UInt32) : UInt32 :=
  if last = INVALID_PKT_SEQ_ID then 0 else last + 1

/-! ## §2. The header and its memory. -/

/-- `sizeof(ipc::packet_t)`; the flexible array `m_data[0]` takes no room. -/
def sizeofPacket : Nat := 16

/-- The fixed part of `ipc::packet_t`. -/
structure Header where
  headLength : UInt32
  dataLength : UInt32
  pktSeqId : UInt32
  pktType : UInt32
  deriving DecidableEq, Repr

/-- `packet_t::Clear`. -/
def Header.cleared : Header where
  headLength := UInt32.ofNat sizeofPacket
  dataLength := 0
  pktSeqId := INVALID_PKT_SEQ_ID
  pktType := IPC_PKT_INVALID_PACKET

/-- The header read through a cast of the memory's address. -/
def Header.load (mem : List UInt8) : Header where
  headLength := loadU32 mem
  dataLength := loadU32 (mem.drop 4)
  pktSeqId := loadU32 (mem.drop 8)
  pktType := loadU32 (mem.drop 12)

/-- The header as it lies in memory. -/
def Header.bytes (h : Header) : List UInt8 :=
  leBytes 4 h.headLength.toNat ++ (leBytes 4 h.dataLength.toNat
    ++ (leBytes 4 h.pktSeqId.toNat ++ leBytes 4 h.pktType.toNat))

@[simp] theorem Header.length_bytes (h : Header) : h.bytes.length = sizeofPacket := by
  simp [Header.bytes, sizeofPacket]

theorem leBytes_loadU32 {mem : List UInt8} (h : 4 ≤ mem.length) :
    leBytes 4 (loadU32 mem).toNat = mem.take 4 := by
  have hlen : (mem.take 4).length = 4 := by simp [h]
  have hlt : ofLE (mem.take 4) < 2 ^ 32 := by simpa [hlen] using ofLE_lt (mem.take 4)
  rw [loadU32, loadBytes_eq_take h, UInt32.toNat_ofNat_of_lt' hlt,
    leBytes_ofLE_of_length hlen]

/-- Loading a stored header gives it back, whatever follows it. -/
theorem Header.load_bytes (h : Header) (t : List UInt8) : Header.load (h.bytes ++ t) = h := by
  obtain ⟨hl, dl, sq, ty⟩ := h
  have drop4 (v : UInt32) (t : List UInt8) : (leBytes 4 v.toNat ++ t).drop 4 = t :=
    List.drop_left' (length_leBytes 4 _)
  simp only [Header.load, Header.bytes, List.append_assoc, loadU32_leBytes, drop4,
    show (8 : Nat) = 4 + 4 from rfl, show (12 : Nat) = 4 + 4 + 4 from rfl,
    ← List.drop_drop]

/-- Storing a loaded header gives the sixteen bytes back. -/
theorem Header.bytes_load {mem : List UInt8} (h : sizeofPacket ≤ mem.length) :
    (Header.load mem).bytes = mem.take sizeofPacket := by
  simp only [sizeofPacket] at h ⊢
  simp only [Header.load, Header.bytes, leBytes_loadU32 (show 4 ≤ mem.length by omega),
    leBytes_loadU32 (show 4 ≤ (mem.drop 4).length by simp; omega),
    leBytes_loadU32 (show 4 ≤ (mem.drop 8).length by simp; omega),
    leBytes_loadU32 (show 4 ≤ (mem.drop 12).length by simp; omega)]
  rw [show (16 : Nat) = 4 + (4 + (4 + 4)) from rfl, List.take_add, List.take_add,
    List.take_add, List.drop_drop, List.drop_drop]

/-! ## §3. Packets. -/

/-- A packet handed to a handler: `m_data` holds exactly `m_uDataLength`
bytes (the decoder puts a NUL behind them). -/
structure Packet where
  header : Header
  data : List UInt8
  length_data : data.length = header.dataLength.toNat
  deriving DecidableEq, Repr

namespace Packet

/-- The packet on the wire. -/
def bytes (p : Packet) : List UInt8 := p.header.bytes ++ p.data

theorem length_bytes (p : Packet) :
    p.bytes.length = sizeofPacket + p.header.dataLength.toNat := by
  simp [bytes, p.length_data]

@[ext]
theorem ext' {p q : Packet} (hh : p.header = q.header) (hd : p.data = q.data) : p = q := by
  cases p
  cases q
  simp_all

/-- `packet.m_uPktType & IPC_PKT_TYPE_MASK`. -/
def type (p : Packet) : UInt32 := p.header.pktType &&& IPC_PKT_TYPE_MASK

end Packet

/-- `sizeof(ipc::packet_move_t)`. -/
def sizeofPacketMove : Nat := 24

/-- `ipc::packet_move_t`, with the `m_uDataLength` bytes `m_data` points to, and
what is found behind them when the packet is read. -/
structure PacketMove where
  header : Header
  data : List UInt8
  behind : List UInt8
  deriving DecidableEq, Repr

/-- What lies in memory from `m_data` on. -/
def PacketMove.memory (p : PacketMove) : List UInt8 := p.data ++ p.behind

/-- `CopyFrom` of a `packet_t`.  Without data `m_data` is not set, and may point
to anything. -/
def PacketMove.copyFrom (other : Packet) (behind : List UInt8) : PacketMove where
  header := { other.header with headLength := UInt32.ofNat sizeofPacketMove }
  data := other.data
  behind := behind

end MultiProcessServer.Ipc
