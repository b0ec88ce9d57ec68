/-
  MultiProcessServer.NewWebServer.CarTcpClient
  ────────────────────────────────────────────
  `TcpConnection`, `TcpClient`, `AsioTimer` and `CarTcpClient`: the connection
  of `new_web_server` to `jt1078_server`, as asio drives it.

  An operation of asio is under way until its handler is called.  `Close` ends
  what is under way with an error; the handlers are called later, at any time
  and in any order (`Completions` counts them).
-/
import MultiProcessServer.ReceiveLoops
import MultiProcessServer.Jt1078Client.Jt1078Client

namespace MultiProcessServer

/-! ## §1. The client. -/

/-- `m_socket`.  A socket whose connect failed is open, and good for nothing
until it is closed and connected again; it counts as closed. -/
inductive AsioSocket
  | closed
  | connecting
  | connected
  deriving DecidableEq, Repr

/-- Handlers still to be called with an error, of writes, reads and connects. -/
structure Completions where
  write : Nat
  read : Nat
  connect : Nat
  deriving DecidableEq, Repr

def Completions.none : Completions := ⟨0, 0, 0⟩

/-- Whether the two `AsyncWrite`s of a packet write all their bytes (if not,
their handlers are called with an error), and whether these are the packet's
still: asio is given pointers to a local of `SendPacket` and to a string of its
caller, and reads there when it writes. -/
structure WriteOutcome where
  header : Bool
  payload : Bool
  intact : Bool
  deriving DecidableEq, Repr

/-- `class CarTcpClient`.  `reading` says whether an `async_read` is under way
and `readBuffer` what it has put into `m_readBuffer`; `held` are the packets
given to asio while it connects, `sent` those that are on the connection;
`garbled` says that for one of them asio does not find the bytes any more. -/
structure CarTcpClient where
  socket : AsioSocket
  reading : Bool
  readBuffer : List UInt8
  errors : Completions
  isWaitting : Bool
  uLastSendIpcPktSeqId : UInt32
  ipcDecoder : Ipc.Decoder
  held : List Request
  sent : List Request
  garbled : Bool

namespace CarTcpClient

/-- The size of `m_readBuffer`. -/
def readBufferSize : Nat := 1024

variable (c : CarTcpClient)

/-- `AsioTimer::StartTimer`. -/
def startTimer : CarTcpClient := if c.isWaitting then c else { c with isWaitting := true }

/-- `TcpConnection::Close`. -/
def close : CarTcpClient :=
  match c.socket with
  | .closed => c
  | .connecting =>
      -- the connect, and the two writes of every packet that waited for it
      { c with
        socket := .closed
        errors := { c.errors with
          connect := c.errors.connect + 1
          write := c.errors.write + 2 * c.held.length }
        held := []
        garbled := false }
  | .connected =>
      { c with
        socket := .closed
        errors := { c.errors with read := c.errors.read + if c.reading then 1 else 0 }
        reading := false
        readBuffer := []
        sent := []
        garbled := false }

/-- `TcpClient::Connect`, of a closed socket. -/
def connect : CarTcpClient := { c with socket := .connecting }

/-- `TcpClient::ReConnect`. -/
def reConnect : CarTcpClient := c.close.connect

/-- The constructor: it connects.  `m_uLastSendIpcPktSeqId` is not initialised
(`last`). -/
def new (a : StringAlloc) (last : UInt32) : CarTcpClient :=
  connect
    { socket := .closed
      reading := false
      readBuffer := []
      errors := .none
      isWaitting := false
      uLastSendIpcPktSeqId := last
      ipcDecoder := .new a
      held := []
      sent := []
      garbled := false }

def asyncRead : CarTcpClient := { c with reading := true, readBuffer := [] }

/-- `HandlerReadError` and `HandlerWriteError`, which do the same. -/
def handlerError : CarTcpClient := c.close.startTimer

def handlerConnect (ok : Bool) : CarTcpClient := if ok then c.asyncRead else c.startTimer

/-- `AsyncWrite`: whether its bytes get out is asio's to say, on a closed
socket they do not. -/
def asyncWrite (ok : Bool) : CarTcpClient :=
  if ok = true ∧ c.socket ≠ .closed then c
  else { c with errors := { c.errors with write := c.errors.write + 1 } }

/-- The fields `SendPacket` sets; the others are as the constructor leaves
them. -/
def header (mask : UInt32) (len : Nat) : Ipc.Header :=
  { Ipc.Header.cleared with
    pktType := mask
    dataLength := UInt32.ofNat len
    pktSeqId := Ipc.nextPktSeqId c.uLastSendIpcPktSeqId }

/-- Where a packet goes whose operations write all their bytes. -/
def accept (request : Request) (intact : Bool) : CarTcpClient :=
  match c.socket with
  | .closed => c
  | .connecting => { c with held := c.held ++ [request], garbled := c.garbled || !intact }
  | .connected => { c with sent := c.sent ++ [request], garbled := c.garbled || !intact }

/-- `SendPacket`. -/
def sendPacket (mask : UInt32) (data : List UInt8) (outcome : WriteOutcome) : CarTcpClient :=
  let request : Request := ⟨c.header mask data.length, data⟩
  let c := { c with uLastSendIpcPktSeqId := Ipc.nextPktSeqId c.uLastSendIpcPktSeqId }
  let c := (c.asyncWrite outcome.header).asyncWrite outcome.payload
  if outcome.header && outcome.payload then c.accept request outcome.intact else c

def sendSubscribeRequest (strDeviceId : List UInt8) (outcome : WriteOutcome) : CarTcpClient :=
  c.sendPacket Ipc.IPC_PKT_TYPE_SUBSCRIBE_DEVICE_ID strDeviceId outcome

def sendUnSubscribeRequest (strDeviceId : List UInt8) (outcome : WriteOutcome) : CarTcpClient :=
  c.sendPacket Ipc.IPC_PKT_TYPE_UNSUBSCRIBE_DEVICE_ID strDeviceId outcome

/-! ## §2. What asio does. -/

/-- The `async_connect` under way succeeds or fails; a handler is called that
had an error coming; the peer closes the connection; a byte arrives; the timer
expires. -/
inductive Event
  | connectDone (ok : Bool)
  | connectFailed
  | readFailed
  | writeFailed
  | peerClosed
  | receive (b : UInt8)
  | timer
  deriving DecidableEq, Repr

/-- The byte that arrives, if one does. -/
def Event.bytes : Event → List UInt8
  | .receive b => [b]
  | _ => []

/-- When each of them is possible. -/
def Enabled : Event → Prop
  | .connectDone _ => c.socket = .connecting
  | .connectFailed => 0 < c.errors.connect
  | .readFailed => 0 < c.errors.read
  | .writeFailed => 0 < c.errors.write
  | .peerClosed => c.socket = .connected
  | .receive _ => c.socket = .connected
  | .timer => c.isWaitting = true

instance : ∀ e, Decidable (c.Enabled e)
  | .connectDone _ => inferInstanceAs (Decidable (c.socket = .connecting))
  | .connectFailed => inferInstanceAs (Decidable (0 < c.errors.connect))
  | .readFailed => inferInstanceAs (Decidable (0 < c.errors.read))
  | .writeFailed => inferInstanceAs (Decidable (0 < c.errors.write))
  | .peerClosed => inferInstanceAs (Decidable (c.socket = .connected))
  | .receive _ => inferInstanceAs (Decidable (c.socket = .connected))
  | .timer => inferInstanceAs (Decidable (c.isWaitting = true))

/-- A byte for the `async_read` under way.  Its handler is called when
`m_readBuffer` is full; it hands the packets to `ProcessIpcPacketCompleted`
and reads on. -/
def receiveByte (a : StringAlloc) (b : UInt8) : CarTcpClient × List (Ipc.Packet × UInt8) :=
  let data := c.readBuffer ++ [b]
  if data.length < readBufferSize then ({ c with readBuffer := data }, [])
  else
    let (packets, _, ipcDecoder) := handlerReadBuffer a c.ipcDecoder data
    ({ c with ipcDecoder := ipcDecoder }.asyncRead, packets)

/-- One event, and the packets it hands to `ProcessIpcPacketCompleted`. -/
def handle (a : StringAlloc) : Event → CarTcpClient × List (Ipc.Packet × UInt8)
  | .connectDone true =>
      ({ c with socket := .connected, sent := c.held, held := [] }.handlerConnect true, [])
  | .connectDone false =>
      ({ c with
          socket := .closed
          errors := { c.errors with write := c.errors.write + 2 * c.held.length }
          held := []
          garbled := false }.handlerConnect false, [])
  | .connectFailed =>
      ({ c with errors := { c.errors with connect := c.errors.connect - 1 } }.handlerConnect
        false, [])
  | .readFailed =>
      ({ c with errors := { c.errors with read := c.errors.read - 1 } }.handlerError, [])
  | .writeFailed =>
      ({ c with errors := { c.errors with write := c.errors.write - 1 } }.handlerError, [])
  | .peerClosed => ({ c with reading := false }.handlerError, [])
  | .receive b => c.receiveByte a b
  | .timer =>
      -- `m_is_waitting` is reset after the function was called
      ({ c.reConnect with isWaitting := false }, [])

def step (a : StringAlloc) (e : Event) : CarTcpClient := (c.handle a e).1

/-- What `ProcessIpcPacketCompleted` is called with. -/
def completed (a : StringAlloc) (e : Event) : List (Ipc.Packet × UInt8) := (c.handle a e).2

/-! ## §3. What sending leaves alone, and what it puts on the connection. -/

variable {c}

theorem asyncWrite_eq (c : CarTcpClient) (ok : Bool) :
    ∃ errors, c.asyncWrite ok = { c with errors := errors } := by
  unfold asyncWrite
  split
  next => exact ⟨c.errors, rfl⟩
  next => exact ⟨_, rfl⟩

/-- `SendPacket` has nothing to do with what is read. -/
theorem sendPacket_eq (c : CarTcpClient) (mask : UInt32) (data : List UInt8)
    (outcome : WriteOutcome) :
    ∃ errors last held sent garbled, c.sendPacket mask data outcome
      = { c with
          errors := errors, uLastSendIpcPktSeqId := last, held := held, sent := sent
          garbled := garbled } := by
  unfold sendPacket
  dsimp only
  obtain ⟨errors, heq⟩ := asyncWrite_eq
    { c with uLastSendIpcPktSeqId := Ipc.nextPktSeqId c.uLastSendIpcPktSeqId } outcome.header
  rw [heq]
  obtain ⟨errors', heq'⟩ := asyncWrite_eq
    { c with
      uLastSendIpcPktSeqId := Ipc.nextPktSeqId c.uLastSendIpcPktSeqId
      errors := errors } outcome.payload
  rw [heq']
  split
  next =>
      unfold accept
      cases c.socket with
      | closed => exact ⟨_, _, c.held, c.sent, c.garbled, rfl⟩
      | connecting => exact ⟨_, _, _, c.sent, _, rfl⟩
      | connected => exact ⟨_, _, c.held, _, _, rfl⟩
  next => exact ⟨_, _, c.held, c.sent, c.garbled, rfl⟩

/-- A packet whose bytes asio finds garbles nothing. -/
theorem garbled_sendPacket (c : CarTcpClient) (mask : UInt32) (data : List UInt8)
    {outcome : WriteOutcome} (hintact : outcome.intact = true) :
    (c.sendPacket mask data outcome).garbled = c.garbled := by
  unfold sendPacket
  dsimp only
  obtain ⟨errors, heq⟩ := asyncWrite_eq
    { c with uLastSendIpcPktSeqId := Ipc.nextPktSeqId c.uLastSendIpcPktSeqId } outcome.header
  rw [heq]
  obtain ⟨errors', heq'⟩ := asyncWrite_eq
    { c with
      uLastSendIpcPktSeqId := Ipc.nextPktSeqId c.uLastSendIpcPktSeqId
      errors := errors } outcome.payload
  rw [heq', hintact]
  unfold accept
  split
  next => cases c.socket <;> simp
  next => rfl

/-- **What `SendPacket` does** to a connected client: the packet is on the
connection, or the handler of a write is to be called with an error. -/
theorem sendPacket_connected (hup : c.socket = .connected) (mask : UInt32) (data : List UInt8)
    (outcome : WriteOutcome) :
    (c.sendPacket mask data outcome).socket = .connected
      ∧ c.errors.write ≤ (c.sendPacket mask data outcome).errors.write
      ∧ ((c.sendPacket mask data outcome).errors.write = c.errors.write →
          (c.sendPacket mask data outcome).sent
            = c.sent ++ [⟨c.header mask data.length, data⟩]) := by
  obtain ⟨header, payload⟩ := outcome
  cases header with
  | true =>
      cases payload with
      | true => simp [sendPacket, asyncWrite, accept, hup]
      | false => simp [sendPacket, asyncWrite, hup]
  | false =>
      cases payload with
      | true => simp [sendPacket, asyncWrite, hup]
      | false =>
          simp only [sendPacket, asyncWrite, Bool.false_eq_true, false_and, if_false,
            Bool.and_self]
          exact ⟨hup, by omega, fun h => by omega⟩

/-! ## §4. Which events keep a connection. -/

theorem startTimer_eq (c : CarTcpClient) :
    c.startTimer = { c with isWaitting := true } := by
  unfold startTimer
  split
  next h =>
      cases c
      cases h
      rfl
  next => rfl

theorem socket_close (c : CarTcpClient) : c.close.socket = .closed := by
  unfold close
  split
  next h => exact h
  next => rfl
  next => rfl

theorem socket_handlerError (c : CarTcpClient) : c.handlerError.socket = .closed := by
  rw [handlerError, startTimer_eq]
  exact c.socket_close

theorem receiveByte_eq (c : CarTcpClient) (a : StringAlloc) (b : UInt8) :
    ∃ reading readBuffer ipcDecoder, (c.receiveByte a b).1
      = { c with reading := reading, readBuffer := readBuffer, ipcDecoder := ipcDecoder } := by
  unfold receiveByte
  dsimp only
  split
  next => exact ⟨c.reading, _, c.ipcDecoder, rfl⟩
  next => exact ⟨true, [], _, rfl⟩

/-- **A client connected after an event** has just connected, or was connected
before; then nothing was sent meanwhile. -/
theorem step_connected {a : StringAlloc} {e : Event} (hup : (c.step a e).socket = .connected) :
    (e = .connectDone true ∧ (c.step a e).sent = c.held ∧ (c.step a e).garbled = c.garbled
        ∧ (c.step a e).errors = c.errors)
      ∨ c.socket = .connected ∧ (c.step a e).sent = c.sent ∧ (c.step a e).garbled = c.garbled
        ∧ (c.step a e).errors.write = c.errors.write := by
  cases e with
  | connectDone ok =>
      cases ok with
      | true => exact Or.inl ⟨rfl, rfl, rfl, rfl⟩
      | false =>
          simp only [step, handle, handlerConnect, Bool.false_eq_true, if_false,
            startTimer_eq] at hup
          cases hup
  | connectFailed =>
      right
      simp only [step, handle, handlerConnect, Bool.false_eq_true, if_false,
        startTimer_eq] at hup ⊢
      exact ⟨hup, trivial, trivial, trivial⟩
  | readFailed => exact absurd ((socket_handlerError _).symm.trans hup) (by decide)
  | writeFailed => exact absurd ((socket_handlerError _).symm.trans hup) (by decide)
  | peerClosed => exact absurd ((socket_handlerError _).symm.trans hup) (by decide)
  | receive b =>
      right
      obtain ⟨reading, readBuffer, ipcDecoder, heq⟩ := c.receiveByte_eq a b
      simp only [step, handle, heq] at hup ⊢
      exact ⟨hup, trivial, trivial, trivial⟩
  | timer => cases hup

theorem close_eq (c : CarTcpClient) : ∃ errors held sent garbled reading readBuffer, c.close
    = { c with
        socket := .closed, errors := errors, held := held, sent := sent, garbled := garbled
        reading := reading, readBuffer := readBuffer } := by
  unfold close
  cases hsocket : c.socket with
  | closed =>
      refine ⟨c.errors, c.held, c.sent, c.garbled, c.reading, c.readBuffer, ?_⟩
      cases c
      cases hsocket
      rfl
  | connecting => exact ⟨_, _, c.sent, _, c.reading, c.readBuffer, rfl⟩
  | connected => exact ⟨_, c.held, _, _, _, _, rfl⟩

theorem decoder_handlerError (c : CarTcpClient) : c.handlerError.ipcDecoder = c.ipcDecoder := by
  obtain ⟨errors, held, sent, garbled, reading, readBuffer, heq⟩ := c.close_eq
  rw [handlerError, startTimer_eq, heq]

/-- **Only a byte that arrives is decoded**, and the decoder is never reset. -/
theorem step_reading {a : StringAlloc} {e : Event} (he : ∀ b, e ≠ .receive b) :
    (c.step a e).ipcDecoder = c.ipcDecoder ∧ c.completed a e = []
      ∧ ((c.step a e).socket = .connected → e = .connectDone true ∧ (c.step a e).readBuffer = []
        ∨ c.socket = .connected ∧ (c.step a e).readBuffer = c.readBuffer) := by
  cases e with
  | connectDone ok =>
      cases ok with
      | true => exact ⟨rfl, rfl, fun _ => Or.inl ⟨rfl, rfl⟩⟩
      | false =>
          simp only [step, completed, handle, handlerConnect, Bool.false_eq_true, if_false,
            startTimer_eq]
          exact ⟨trivial, trivial, fun hup => by cases hup⟩
  | connectFailed =>
      simp only [step, completed, handle, handlerConnect, Bool.false_eq_true, if_false,
        startTimer_eq]
      exact ⟨trivial, trivial, fun hup => Or.inr ⟨hup, trivial⟩⟩
  | readFailed =>
      refine ⟨decoder_handlerError _, rfl, fun hup => ?_⟩
      exact absurd ((socket_handlerError _).symm.trans hup) (by decide)
  | writeFailed =>
      refine ⟨decoder_handlerError _, rfl, fun hup => ?_⟩
      exact absurd ((socket_handlerError _).symm.trans hup) (by decide)
  | peerClosed =>
      refine ⟨decoder_handlerError _, rfl, fun hup => ?_⟩
      exact absurd ((socket_handlerError _).symm.trans hup) (by decide)
  | receive b => exact absurd rfl (he b)
  | timer =>
      obtain ⟨errors, held, sent, garbled, reading, readBuffer, heq⟩ := c.close_eq
      refine ⟨?_, rfl, fun hup => by cases hup⟩
      simp only [step, handle, reConnect, connect, heq]

/-- A packet of channel 11111111111111 that fills `m_readBuffer`. -/
def blockPacket : Ipc.Packet where
  header := { Ipc.Header.cleared with
    headLength := UInt32.ofNat Ipc.sizeofPacket
    dataLength := 1008
    pktType := Ipc.IPC_PKT_TYPE_JT1078_PACKET }
  data := List.replicate 7 17 ++ List.replicate 1001 0
  length_data := by decide +kernel

end CarTcpClient

end MultiProcessServer
