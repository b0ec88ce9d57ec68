/-
  MultiProcessServer.EndToEnd
  ───────────────────────────
  **VIDEO FROM `jt1078_server` TO A CLIENT'S MESSAGE CALLBACK.**

  `Subscriber::SendMsg` frames packets, the pending list and the socket cut
  them anywhere, the client's `ipc::decoder_t` puts them together again and
  `RtmpThread::HandlerTask` splits their payload.
-/
import MultiProcessServer.Core.IpcPktDecoder
import MultiProcessServer.MessageIntegrity
import MultiProcessServer.WebServer.RtmpThread

namespace MultiProcessServer

open StreamParser Ipc Forward

/-! ## §1. What is written. -/

/-- Whatever happened on the socket, it took a prefix of the frames. -/
theorem IntactStream.written_begins {script : List SockResult} {frames : List (List UInt8)}
    {answers : List Bool} {tcp : TcpSession} (h : IntactStream script frames answers tcp) :
    tcp.written <+: frames.flatten := by
  obtain ⟨used, -, hno, hyes⟩ := h
  by_cases hmem : SockResult.hardError ∈ used
  · obtain ⟨-, k, -, -, hbegins⟩ := hyes hmem
    refine hbegins.trans ⟨(frames.drop k).flatten, ?_⟩
    rw [← List.flatten_append, List.take_append_drop]
  · obtain ⟨-, -, htotal⟩ := hno hmem
    exact ⟨_, htotal⟩

/-! ## §2. What is received. -/

/-- The frames of messages are small enough for the client's decoder. -/
theorem packets_small {messages : List Message}
    (hlen : ∀ m ∈ messages, m.pkt.header.wdBodyLen.toNat ≤ 950) (last : UInt32) :
    ∀ p ∈ Subscriber.packets last messages,
      p.Valid ∧ ∀ t, SmallHead (p.bytes ++ t) := by
  induction messages generalizing last with
  | nil => simp [Subscriber.packets]
  | cons m ms ih =>
      intro p hp
      rcases List.mem_cons.mp hp with rfl | hp
      · refine ⟨rfl, smallHead_bytes ?_⟩
        have hm := hlen m List.mem_cons_self
        simp only [Message.ipcPacket, Message.ipcHeader, sizeofDeviceId,
          Jt1078.Header.sizeofHeader]
        rw [UInt32.toNat_ofNat_of_lt' (show _ < 2 ^ 32 by omega)]
        omega
      · exact ih (fun m hm => hlen m (List.mem_cons_of_mem _ hm)) _ p hp

theorem map_data_packets (messages : List Message) (last : UInt32) :
    (Subscriber.packets last messages).map Packet.data = messages.map Message.payload := by
  induction messages generalizing last with
  | nil => rfl
  | cons m ms ih => rw [Subscriber.packets, List.map_cons, List.map_cons, ih]; rfl

/-- **The decoder on any prefix of a stream of small packets** delivers the
first of them and asks for more, however the prefix was cut. -/
theorem receive_prefix (a : StringAlloc) {packets : List Packet}
    (hpackets : ∀ p ∈ packets, p.Valid ∧ ∀ t, SmallHead (p.bytes ++ t))
    {chunks : List (List UInt8)} (hbegins : chunks.flatten <+: packets.flatMap Packet.bytes)
    (hchunks : ∀ c ∈ chunks, c.length ≤ Buffer.MAX_SIZE_ONCE_READ) :
    ∃ n, ∀ R ∈ [Decoder.receiver a, (Decoder.receiver a).ignorePush],
      ∃ d, R.run (Decoder.new a) chunks
        = ((packets.take n).map (·, 0), .kNeedMoreData, d) := by
  obtain ⟨hinvalid, halways, hframes⟩ := parse_prefix_small hpackets hbegins
  refine ⟨(grammar.parse chunks.flatten).frames.length, ?_⟩
  intro R hR
  obtain ⟨d, hrun⟩ := Decoder.run_new a halways hchunks R hR
  refine ⟨d, ?_⟩
  rw [hrun, hinvalid, if_neg (by simp), List.map_take, ← List.prefix_iff_eq_take.mp hframes]

/-! ## §3. End to end. -/

/-- **End-to-end forwarding.**  However the socket behaves while messages
are sent, and however the bytes written so far are cut on their way, the
client is handed the first of the messages' packets, in order and once
each; its decoder never reports an error, and each payload splits into the
message's device id, header and body, whatever is behind it in memory. -/
theorem end_to_end_forwarding (a : StringAlloc) (script : List SockResult)
    (messages : List Message)
    (hlen : ∀ m ∈ messages, m.pkt.header.wdBodyLen.toNat ≤ 950)
    (chunks : List (List UInt8))
    (hchunks : chunks.flatten
      = ((Subscriber.new script).sendAll messages).2.tcp.written)
    (hsize : ∀ c ∈ chunks, c.length ≤ Buffer.MAX_SIZE_ONCE_READ) :
    ∃ delivered : List Packet,
      delivered <+: Subscriber.packets INVALID_PKT_SEQ_ID messages
      ∧ (∀ behind, (delivered.map fun p => RtmpThread.splitJt1078 (p.data ++ behind))
          <+: (messages.map fun m => (m.deviceId, m.pkt)))
      ∧ ∀ R ∈ [Decoder.receiver a, (Decoder.receiver a).ignorePush],
          ∃ d, R.run (Decoder.new a) chunks = (delivered.map (·, 0), .kNeedMoreData, d) := by
  have hwritten := (Subscriber.intactStream script messages).written_begins
  rw [← hchunks, ← List.flatMap_def] at hwritten
  obtain ⟨n, hrun⟩ := receive_prefix a (packets_small hlen _) hwritten hsize
  refine ⟨(Subscriber.packets INVALID_PKT_SEQ_ID messages).take n, List.take_prefix _ _,
    fun behind => ?_, hrun⟩
  have hsplit : ((Subscriber.packets INVALID_PKT_SEQ_ID messages).map
      fun p => RtmpThread.splitJt1078 (p.data ++ behind))
      = messages.map fun m => (m.deviceId, m.pkt) := by
    rw [show (fun p : Packet => RtmpThread.splitJt1078 (p.data ++ behind))
        = (fun data => RtmpThread.splitJt1078 (data ++ behind)) ∘ Packet.data from rfl,
      ← List.map_map, map_data_packets, List.map_map]
    exact List.map_congr_left fun m _ => RtmpThread.splitJt1078_payload m behind
  rw [List.map_take, hsplit]
  exact List.take_prefix _ _

/-- An audio packet with a body of two bytes. -/
def audioMessage : Message where
  deviceId := 0x13912345678901
  pkt :=
    { header :=
        { Jt1078.Header.cleared with
          dwFramHeadMark := Jt1078.JT_1078_HEAD_MARK
          dataType4 := Jt1078.DATA_TYPE_AUDIO
          wdBodyLen := 2 }
      body := [7, 9]
      length_body := rfl }

/-- Three of them, of which the socket takes two and a half, and the client gets
the first and a bit. -/
theorem end_to_end_forwarding_audio :
    let messages := [audioMessage, audioMessage, audioMessage]
    let script : List SockResult := [.eintr, .wrote 20, .eagain, .wrote 100, .wrote 100]
    let written := ((Subscriber.new script).sendAll messages).2.tcp.written
    let chunks := [written.take 5, (written.drop 5).take 60, written.drop 65]
    1 ≤ ((grammar.parse chunks.flatten).frames).length
      ∧ ∃ delivered : List Packet,
        delivered <+: Subscriber.packets INVALID_PKT_SEQ_ID messages
        ∧ (∀ behind, (delivered.map fun p => RtmpThread.splitJt1078 (p.data ++ behind))
            <+: (messages.map fun m => (m.deviceId, m.pkt)))
        ∧ ∀ R ∈ [Decoder.receiver .libstdcxx, (Decoder.receiver .libstdcxx).ignorePush],
            ∃ d, R.run (Decoder.new .libstdcxx) chunks
              = (delivered.map (·, 0), .kNeedMoreData, d) := by
  intro messages script written chunks
  exact ⟨by decide +kernel, end_to_end_forwarding .libstdcxx script messages (by decide) chunks
    (by decide +kernel) (by decide +kernel)⟩

end MultiProcessServer
