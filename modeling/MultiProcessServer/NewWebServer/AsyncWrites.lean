/-
  MultiProcessServer.NewWebServer.AsyncWrites
  ───────────────────────────────────────────
  What the `AsyncWrite`s of `CarTcpClient::SendPacket` put on the wire.

  Main result:

    `async_framed_iff` :
        the bytes on the wire are a beginning of the frames in call order
        exactly when no operation writes before all earlier ones are done, and
        each finds the bytes of its packet when it writes.

  Header and payload of a packet are two operations of asio, and any number of
  them may be under way; each writes its buffer bit by bit.  asio keeps no copy
  of a buffer: what it writes it reads then, where `SendPacket` told it to.
-/
import MultiProcessServer.Lib.Writers
import MultiProcessServer.NewWebServer.CarTcpClient

namespace MultiProcessServer

/-- A connected client, its write operations, and the bytes on the wire.  The
writers say which byte of which packet's header or payload each of them stands
for. -/
structure AsyncWrites where
  client : CarTcpClient
  writers : Writers UInt8
  wire : List UInt8

namespace AsyncWrites

/-- `SendPacket` is called, or the `k`-th operation of asio writes up to `n`
bytes more of its buffer, where `memory` is found then: the header is a local of
`SendPacket` and the payload the caller's, and both may be gone. -/
inductive Event
  | sendPacket (mask : UInt32) (data : List UInt8)
  | write (k n : Nat) (memory : List UInt8)
  deriving DecidableEq, Repr

variable (s : AsyncWrites)

/-- The bytes of its packet that the `k`-th operation should write next. -/
def due (k n : Nat) : List UInt8 := (s.writers.remaining k).take n

/-- One event.  No operation fails. -/
def step (s : AsyncWrites) : Event → AsyncWrites
  | .sendPacket mask data =>
      { s with
        client := s.client.sendPacket mask data ⟨true, true, true⟩
        writers := (s.writers.step (.start (s.client.header mask data.length).bytes)).step
          (.start data) }
  | .write k n memory =>
      { s with
        writers := s.writers.step (.write k n)
        wire := s.wire ++ loadBytes (s.due k n).length memory }

/-- The bytes on the wire are a beginning of the frames in call order, and each
of them is there for the operation it is from. -/
structure Framed (s : AsyncWrites) : Prop where
  begins : s.wire <+: s.client.sent.flatMap Request.bytes
  inOrder : s.writers.InOrder

/-- Who writes something is the oldest operation that is not done, and finds the
bytes of its packet. -/
def Intact (s : AsyncWrites) : Event → Prop
  | .sendPacket _ _ => True
  | .write k n memory =>
      s.writers.Oldest (.write k n) ∧ loadBytes (s.due k n).length memory = s.due k n

instance : ∀ e, Decidable (s.Intact e)
  | .sendPacket _ _ => inferInstanceAs (Decidable True)
  | .write k n memory => inferInstanceAs (Decidable (s.writers.Oldest (.write k n)
      ∧ loadBytes (s.due k n).length memory = s.due k n))

/-- The operations are those of the packets sent. -/
structure Recorded (s : AsyncWrites) : Prop where
  up : s.client.socket = .connected
  ops : s.writers.ops.flatten = s.client.sent.flatMap Request.bytes

/-- Every byte on the wire is the one it stands for. -/
def Own (s : AsyncWrites) : Prop := s.wire = s.writers.wire.map Prod.snd

variable {s}

theorem Recorded.begins (h : s.Recorded) (hown : s.Own) (hinOrder : s.writers.InOrder) :
    s.Framed := by
  refine ⟨?_, hinOrder⟩
  rw [← h.ops, hown]
  exact hinOrder.wire_prefix

theorem recorded_step (h : s.Recorded) (e : Event) : (s.step e).Recorded := by
  cases e with
  | write k n memory => exact ⟨h.up, h.ops⟩
  | sendPacket mask data =>
      have hsent : s.client.sendPacket mask data ⟨true, true, true⟩
          = { s.client with
              uLastSendIpcPktSeqId := Ipc.nextPktSeqId s.client.uLastSendIpcPktSeqId
              sent := s.client.sent ++ [⟨s.client.header mask data.length, data⟩] } := by
        simp [CarTcpClient.sendPacket, CarTcpClient.asyncWrite, CarTcpClient.accept, h.up]
      refine ⟨?_, ?_⟩
      · show (s.client.sendPacket mask data ⟨true, true, true⟩).socket = .connected
        rw [hsent]
        exact h.up
      · show ((s.writers.ops ++ [_]) ++ [_]).flatten
          = (s.client.sendPacket mask data ⟨true, true, true⟩).sent.flatMap Request.bytes
        rw [hsent, List.append_assoc, List.flatten_append, h.ops, List.flatMap_append]
        simp [Request.bytes]

theorem map_snd_write (k n : Nat) :
    (s.writers.step (.write k n)).wire.map Prod.snd
      = s.writers.wire.map Prod.snd ++ s.due k n := by
  show (s.writers.wire ++ (s.due k n).map fun x => (k, x)).map Prod.snd = _
  rw [List.map_append, List.map_map]
  congr 1
  exact List.map_id _

theorem own_step (h : s.Own) {e : Event} (he : s.Intact e) : (s.step e).Own := by
  cases e with
  | sendPacket mask data => exact h
  | write k n memory =>
      show s.wire ++ loadBytes _ _ = (s.writers.step (.write k n)).wire.map Prod.snd
      rw [map_snd_write, he.2, h]

theorem inOrder_step_iff (h : s.writers.InOrder) (k n : Nat) (memory : List UInt8) :
    (s.step (.write k n memory)).writers.InOrder ↔ s.writers.Oldest (.write k n) :=
  Writers.inOrder_step_iff h (.write k n)

/-- **One event** keeps the stream framed exactly if it is the oldest
operation's, and that finds its packet. -/
theorem framed_step_iff (h : s.Recorded) (hown : s.Own) (hframed : s.Framed) (e : Event) :
    (s.step e).Framed ↔ s.Intact e := by
  cases e with
  | sendPacket mask data =>
      refine iff_of_true ?_ trivial
      have hheader := (Writers.inOrder_step_iff hframed.inOrder
        (.start (s.client.header mask data.length).bytes)).mpr trivial
      exact (recorded_step h _).begins hown
        ((Writers.inOrder_step_iff hheader (.start data)).mpr trivial)
  | write k n memory =>
      constructor
      · intro hstep
        refine ⟨(inOrder_step_iff hframed.inOrder k n memory).mp hstep.inOrder, ?_⟩
        -- what is on the wire and what belongs there begin the same frames
        have hwire : s.writers.wire.map Prod.snd ++ s.due k n
            <+: s.client.sent.flatMap Request.bytes := by
          rw [← map_snd_write, ← h.ops]
          exact hstep.inOrder.wire_prefix
        have hbegins : s.writers.wire.map Prod.snd
            ++ loadBytes (s.due k n).length memory
            <+: s.client.sent.flatMap Request.bytes := by
          rw [← hown]
          exact hstep.begins
        have hlength : (s.writers.wire.map Prod.snd ++ loadBytes (s.due k n).length memory).length
            = (s.writers.wire.map Prod.snd ++ s.due k n).length := by
          rw [List.length_append, length_loadBytes, List.length_append]
        have hsame := (List.prefix_of_prefix_length_le hbegins hwire
          (Nat.le_of_eq hlength)).eq_of_length hlength
        exact List.append_cancel_left hsame
      · exact fun he => (recorded_step h _).begins (own_step hown he)
          ((inOrder_step_iff hframed.inOrder k n memory).mpr he.1)

/-- **When request frames are not interleaved.**  On a connection, for any calls
of `SendPacket` and any schedule of the partial writes of the operations they
start, whatever is in memory when they write: the bytes on the wire are at every
moment a beginning of the frames in call order, each where it belongs, exactly
when every partial write is that of the oldest operation that is not done, and
finds the bytes of its packet. -/
theorem async_framed_iff (client : CarTcpClient) (hup : client.socket = .connected)
    (hsent : client.sent = []) (events : List Event) :
    (∀ pre, pre <+: events → (Runs.run step ⟨client, .new, []⟩ pre).Framed)
      ↔ Runs.Along step Intact ⟨client, .new, []⟩ events := by
  have hrecorded : (⟨client, .new, []⟩ : AsyncWrites).Recorded := by
    refine ⟨hup, ?_⟩
    show [] = client.sent.flatMap Request.bytes
    rw [hsent, List.flatMap_nil]
  have hown : (⟨client, .new, []⟩ : AsyncWrites).Own := rfl
  have hframed := hrecorded.begins hown Writers.inOrder_new
  refine Runs.always_iff_along Framed (P := fun _ _ => True)
    (J := fun s => s.Recorded ∧ s.Own ∧ s.Framed) ?_
    (fun s e hs _ => framed_step_iff hs.1 hs.2.1 hs.2.2 e) ⟨hrecorded, hown, hframed⟩ hframed
    (Runs.along_of_forall (fun _ _ => trivial) events _)
  intro s e hs _ he
  exact ⟨recorded_step hs.1 e, own_step hs.2.1 he,
    (framed_step_iff hs.1 hs.2.1 hs.2.2 e).mpr he⟩

/-- A client on a connection on which nothing was sent. -/
def connected : CarTcpClient := (CarTcpClient.new .libstdcxx 0).step .libstdcxx (.connectDone true)

/-- Two packets, whose operations take turns only when one is done, and whose
buffers are still there. -/
theorem framed_two_packets :
    let device : List UInt8 := List.replicate 14 49
    let header := (connected.header 2 14).bytes
    let header' := ((connected.sendPacket 2 device ⟨true, true, true⟩).header 3 14).bytes
    let events : List Event := [.sendPacket 2 device, .write 0 10 header, .sendPacket 3 device,
      .write 0 10 (header.drop 10), .write 1 14 device, .write 2 16 header', .write 3 3 device]
    ∀ pre, pre <+: events → (Runs.run step ⟨connected, .new, []⟩ pre).Framed := by
  intro device header header' events
  exact (async_framed_iff connected rfl rfl events).mpr (by decide +kernel)

/-- The payload is written while the header is not done; and the header, when
its frame is gone. -/
theorem not_framed_interleaved :
    let device : List UInt8 := List.replicate 14 49
    let header := (connected.header 2 14).bytes
    let s := Runs.run step ⟨connected, .new, []⟩ [.sendPacket 2 device, .write 0 10 header,
      .write 1 14 device, .write 0 6 (header.drop 10)]
    let s' := Runs.run step ⟨connected, .new, []⟩ [.sendPacket 2 device,
      .write 0 16 (List.replicate 16 0xCC)]
    ¬s.wire <+: s.client.sent.flatMap Request.bytes
      ∧ ¬s'.wire <+: s'.client.sent.flatMap Request.bytes := by
  decide +kernel

end AsyncWrites

end MultiProcessServer
