/-
  MultiProcessServer.MessageIntegrity
  ───────────────────────────────────
  **NO FRAME IS LOST, DUPLICATED, REORDERED OR CUT.**

  The two senders of the program, `Subscriber::SendMsg` and
  `PcSession::SendPacket`, against every behaviour of the socket.
-/
import MultiProcessServer.ForwardServer.Subscriber
import MultiProcessServer.PcServer.PcSession

namespace MultiProcessServer

/-- What the stream of a session looks like after the calls whose `answers`
(taken or refused) are given were made to send `frames` on a socket with
this script: `used` is the part of the script consumed so far. -/
def IntactStream (script : List SockResult) (frames : List (List UInt8))
    (answers : List Bool) (tcp : TcpSession) : Prop :=
  ∃ used, script = used ++ tcp.socket
    ∧ (SockResult.hardError ∉ used →
        tcp.isCanWrite = true ∧ answers = List.replicate frames.length true
          ∧ tcp.written ++ tcp.pendingBufferList.flatten = frames.flatten)
    ∧ (SockResult.hardError ∈ used →
        tcp.isCanWrite = false
          ∧ ∃ k, k < frames.length ∧ answers = List.replicate k true ++ [false]
            ∧ tcp.written <+: (frames.take k).flatten)

/-- A session fresh from `Init` that transmits frame after frame. -/
theorem intactStream_transmitAll (script : List SockResult) (frames : List (List UInt8)) :
    IntactStream script frames ((TcpSession.init script).transmitAll frames).1
      ((TcpSession.init script).transmitAll frames).2 := by
  obtain ⟨k, ⟨used, hscript, hcan⟩, htotal, hall, hpart⟩ :=
    TcpSession.transmitAll_spec frames (TcpSession.init script) rfl
  refine ⟨used, hscript, ?_, ?_⟩
  · intro hno
    have hwrite := hcan.mpr ⟨rfl, hno⟩
    obtain ⟨hk, hanswers⟩ := hall hwrite
    refine ⟨hwrite, by rw [hanswers, hk], ?_⟩
    rw [hk, List.take_length] at htotal
    exact htotal
  · intro hyes
    have hwrite : ((TcpSession.init script).transmitAll frames).2.bFdCanWrite = false := by
      cases hb : ((TcpSession.init script).transmitAll frames).2.bFdCanWrite with
      | false => rfl
      | true => exact absurd hyes (hcan.mp hb).2
    obtain ⟨hk, hanswers⟩ := hpart hwrite
    refine ⟨hwrite, k, hk, hanswers, ?_⟩
    have hbegins : ((TcpSession.init script).transmitAll frames).2.written
        <+: ((TcpSession.init script).transmitAll frames).2.total := List.prefix_append _ _
    rw [htotal] at hbegins
    exact hbegins

/-- The stream of a subscriber. -/
theorem Forward.Subscriber.intactStream (script : List SockResult)
    (messages : List Forward.Message) :
    IntactStream script
      ((Forward.Subscriber.packets Ipc.INVALID_PKT_SEQ_ID messages).map Ipc.Packet.bytes)
      (((Forward.Subscriber.new script).sendAll messages).1.map fun ret => decide (0 ≤ ret))
      ((Forward.Subscriber.new script).sendAll messages).2.tcp := by
  obtain ⟨hanswers, htcp⟩ :=
    Forward.Subscriber.sendAll_eq messages (Forward.Subscriber.new script)
  rw [hanswers, htcp]
  exact intactStream_transmitAll script _

/-- The stream of a pc. -/
theorem PcSession.intactStream (script : List SockResult) (packets : List Ipc.Packet) :
    IntactStream script (packets.map Ipc.Packet.bytes)
      ((PcSession.new script).sendAll packets).1
      ((PcSession.new script).sendAll packets).2.tcp := by
  obtain ⟨hanswers, htcp⟩ := PcSession.sendAll_eq packets (PcSession.new script)
  rw [hanswers, htcp]
  exact intactStream_transmitAll script _

/-- **Outgoing byte streams keep message integrity**, for both senders. -/
theorem message_integrity (script : List SockResult) :
    (∀ messages : List Forward.Message,
      IntactStream script
        ((Forward.Subscriber.packets Ipc.INVALID_PKT_SEQ_ID messages).map Ipc.Packet.bytes)
        (((Forward.Subscriber.new script).sendAll messages).1.map fun ret => decide (0 ≤ ret))
        ((Forward.Subscriber.new script).sendAll messages).2.tcp)
    ∧ ∀ packets : List Ipc.Packet,
      IntactStream script (packets.map Ipc.Packet.bytes)
        ((PcSession.new script).sendAll packets).1
        ((PcSession.new script).sendAll packets).2.tcp :=
  ⟨Forward.Subscriber.intactStream script, PcSession.intactStream script⟩

end MultiProcessServer
