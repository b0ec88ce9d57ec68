/-
  MultiProcessServer.Jt1078Client.RequestStream
  ─────────────────────────────────────────────
  What `Jt1078Client::SendPacket` puts on the socket.

  Main result:

    `requests_framed_iff` :
        the bytes on the socket are a beginning of the frames in call order
        exactly when nothing is taken of a frame behind one that was not taken
        whole.

  `SendPacket` writes header and payload with one `writev` and forgets what was
  not taken.  `Subscriber::SendMsg` and `PcSession::SendPacket` keep it.
-/
import MultiProcessServer.Core.TcpSession
import MultiProcessServer.Jt1078Client.Jt1078Client
import MultiProcessServer.Lib.Writers

namespace MultiProcessServer

/-! ## §1. Frames and bytes. -/

/-- How many bytes were taken. -/
def SendResult.taken : SendResult → Nat
  | .written n => n
  | .eagain | .error => 0

/-- A connected client, its socket, and which call each byte on the socket is
from. -/
structure RequestStream where
  client : Jt1078Client
  tcp : TcpSession
  writers : Writers UInt8

namespace RequestStream

/-- A client that has just connected; its socket will answer like this. -/
def start (client : Jt1078Client) (socket : List SockResult) : RequestStream :=
  ⟨client, .init socket, .new⟩

variable (s : RequestStream)

/-- The frame `SendPacket` makes. -/
def frame (mask : UInt32) (data : List UInt8) : Request := ⟨s.client.header mask data.length, data⟩

/-- `SendPacket`: what it returns, and the client.  (A `writev` of two pieces
takes a beginning of the one followed by the other.) -/
def sendPacket (mask : UInt32) (data : List UInt8) : SendResult × RequestStream :=
  let frame := (s.frame mask data).bytes
  let (ret, tcp) := s.tcp.sendBuffer frame
  (ret,
    { client := s.client.sendPacket mask data
      tcp := tcp
      writers := s.writers.post frame ret.taken })

/-- A call of `SendPacket`. -/
structure Call where
  mask : UInt32
  data : List UInt8
  deriving DecidableEq, Repr

def step (s : RequestStream) (call : Call) : RequestStream := (s.sendPacket call.mask call.data).2

/-- The bytes on the socket are a beginning of the frames in call order, and
each of them is there for the call it is from. -/
structure Framed (s : RequestStream) : Prop where
  begins : s.tcp.written <+: s.client.sent.flatMap Request.bytes
  inOrder : s.writers.InOrder

/-- The next answer of the socket takes nothing, or all frames before were
taken whole. -/
def Answered (s : RequestStream) (call : Call) : Prop :=
  (TcpSession.sendLoop (s.frame call.mask call.data).bytes.length s.tcp.socket).1.taken = 0
    ∨ s.writers.Whole

instance (call : Call) : Decidable (s.Answered call) := inferInstanceAs (Decidable (_ ∨ _))

/-! ## §2. One call. -/

/-- The record is one of the socket and of the calls. -/
structure Recorded (s : RequestStream) : Prop where
  up : s.client.isConnected = true
  ops : s.writers.ops = s.client.sent.map Request.bytes
  wire : s.writers.wire.map Prod.snd = s.tcp.written

variable {s}

theorem Recorded.begins (h : s.Recorded) (hinOrder : s.writers.InOrder) : s.Framed := by
  refine ⟨?_, hinOrder⟩
  have hpre := hinOrder.wire_prefix
  rw [h.wire, h.ops] at hpre
  exact hpre

/-- With every frame taken whole, what was sent is what is on the socket. -/
theorem Recorded.written_of_whole (h : s.Recorded) (hinOrder : s.writers.InOrder)
    (hwhole : s.writers.Whole) : s.tcp.written = s.client.sent.flatMap Request.bytes := by
  rw [← h.wire, hinOrder.wire_of_whole hwhole, h.ops]
  rfl

theorem length_bytes_pos (r : Request) : 0 < r.bytes.length := by
  unfold Request.bytes
  rw [List.length_append, Ipc.Header.length_bytes]
  exact Nat.add_pos_left (by decide) _

/-- What `SendBuffer` takes is a beginning of the frame. -/
theorem written_sendBuffer (tcp : TcpSession) (buffer : List UInt8) :
    (tcp.sendBuffer buffer).1 = (TcpSession.sendLoop buffer.length tcp.socket).1
      ∧ (tcp.sendBuffer buffer).2.written
        = tcp.written ++ buffer.take (tcp.sendBuffer buffer).1.taken := by
  unfold TcpSession.sendBuffer
  split
  next n socket heq => exact ⟨(congrArg Prod.fst heq).symm, rfl⟩
  next socket heq => exact ⟨(congrArg Prod.fst heq).symm, by simp [SendResult.taken]⟩
  next socket heq => exact ⟨(congrArg Prod.fst heq).symm, by simp [SendResult.taken]⟩

theorem recorded_step (h : s.Recorded) (hinOrder : s.writers.InOrder) (call : Call) :
    (s.step call).Recorded := by
  obtain ⟨-, hwritten⟩ := written_sendBuffer s.tcp (s.frame call.mask call.data).bytes
  refine ⟨h.up, ?_, ?_⟩
  · show s.writers.ops ++ [(s.frame call.mask call.data).bytes]
      = (s.client.sendPacket call.mask call.data).sent.map Request.bytes
    have hsent : (s.client.sendPacket call.mask call.data).sent
        = s.client.sent ++ [s.frame call.mask call.data] := if_pos h.up
    rw [hsent, List.map_append, h.ops]
    rfl
  · show (s.writers.post _ _).wire.map Prod.snd = (s.tcp.sendBuffer _).2.written
    rw [Writers.wire_post hinOrder, List.map_append, h.wire, hwritten, List.map_map]
    exact congrArg _ (List.map_id _)

/-- **One call** keeps the stream framed exactly if it is answered that way. -/
theorem framed_step_iff (h : s.Recorded) (hframed : s.Framed) (call : Call) :
    (s.step call).Framed ↔ s.Answered call := by
  obtain ⟨hanswer, -⟩ := written_sendBuffer s.tcp (s.frame call.mask call.data).bytes
  have hiff : (s.step call).writers.InOrder ↔ s.Answered call := by
    show (s.writers.post (s.frame call.mask call.data).bytes
      (s.tcp.sendBuffer (s.frame call.mask call.data).bytes).1.taken).InOrder ↔ _
    rw [Writers.inOrder_post_iff hframed.inOrder, hanswer, List.take_eq_nil_iff]
    have hne : (s.frame call.mask call.data).bytes ≠ [] :=
      List.ne_nil_of_length_pos (length_bytes_pos _)
    rw [or_iff_left hne]
    rfl
  rw [← hiff]
  exact ⟨Framed.inOrder, (recorded_step h hframed.inOrder call).begins⟩

/-! ## §3. Whole connections. -/

/-- **When the request stream consists of whole frames.**  On a connection, for
any calls of `SendPacket` and any answers of `writev`: the bytes written are at
every moment a beginning of the frames in call order, each where it belongs,
exactly when from the first answer that does not take a frame whole no later
one takes a byte. -/
theorem requests_framed_iff (client : Jt1078Client) (hup : client.isConnected = true)
    (hsent : client.sent = []) (socket : List SockResult) (calls : List Call) :
    (∀ pre, pre <+: calls → (Runs.run step (start client socket) pre).Framed)
      ↔ Runs.Along step Answered (start client socket) calls := by
  have hrecorded : (start client socket).Recorded := by
    refine ⟨hup, ?_, rfl⟩
    show [] = client.sent.map Request.bytes
    rw [hsent, List.map_nil]
  have hframed := hrecorded.begins Writers.inOrder_new
  exact Runs.always_iff_along Framed (P := fun _ _ => True)
    (J := fun s => s.Recorded ∧ s.Framed)
    (fun s call hs _ hC => ⟨recorded_step hs.1 hs.2.inOrder call,
      (framed_step_iff hs.1 hs.2 call).mpr hC⟩)
    (fun s call hs _ => framed_step_iff hs.1 hs.2 call) ⟨hrecorded, hframed⟩ hframed
    (Runs.along_of_forall (fun _ _ => trivial) calls _)

/-- Two requests go out whole, one in part, and one not at all. -/
theorem framed_short_at_the_end :
    let client := Jt1078Client.new.onConnected true
    let socket : List SockResult := [.wrote 30, .eintr, .wrote 30, .wrote 5, .eagain]
    let call (mask : UInt32) : Call := ⟨mask, List.replicate 14 49⟩
    ∀ pre, pre <+: [call 2, call 3, call 2, call 3] →
      (Runs.run step (start client socket) pre).Framed := by
  intro client socket call
  exact (requests_framed_iff client rfl rfl socket _).mpr (by decide +kernel)

/-- Ten bytes of a request are taken, and then the next request whole. -/
theorem not_framed_after_short :
    let client := Jt1078Client.new.onConnected true
    let socket : List SockResult := [.wrote 10, .wrote 30]
    let call : Call := ⟨2, List.replicate 14 49⟩
    let s := Runs.run step (start client socket) [call, call]
    s.tcp.written.length = 40 ∧ ¬s.tcp.written <+: s.client.sent.flatMap Request.bytes := by
  decide +kernel

end RequestStream

end MultiProcessServer
