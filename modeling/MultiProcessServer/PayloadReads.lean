/-
  MultiProcessServer.PayloadReads
  ───────────────────────────────
  The payload of a JT1078 packet, as the three servers read it that receive it:
  `PcServer::OnClientMessage`, `CarTcpClient::ProcessIpcPacketCompleted`, and
  `RtmpThread::HandlerTask` with `RtmpClient::ProcessJt1078Packet`.

  Main result:

    `reads_inside_iff` :
        they read nothing outside of it exactly when it is long enough for what
        it says is in it.

  None of them looks at `m_uDataLength` before it reads.
-/
import MultiProcessServer.ForwardServer.Subscriber
import MultiProcessServer.Lib.Memory
import MultiProcessServer.NewWebServer.CarTcpClient
import MultiProcessServer.PcServer.PcServer
import MultiProcessServer.WebServer.StreamFailures

namespace MultiProcessServer

open Endian
open Forward (sizeofDeviceId)
open Jt1078 ( DATA_TYPE_AUDIO)
open Memory (Block Defined Fault)

/-! ## §1. The id of the channel. -/

/-- `*(device_id_t *)m_data`. -/
def loadDeviceId {n : Nat} (payload : Block UInt8 n) : Except Fault UInt64 := do
  let bytes ← payload.load 0 sizeofDeviceId
  pure (loadU64 bytes)

namespace PcServer

/-- `OnClientMessage`, of a payload with nothing behind it. -/
def onClientMessageWithin (p : PcServer) (packet : Ipc.Packet) : Except Fault PcServer :=
  if packet.type = Ipc.IPC_PKT_TYPE_JT1078_PACKET then do
    let deviceId ← loadDeviceId (.of packet.data)
    pure (p.publish deviceId packet)
  else pure p

end PcServer

namespace CarTcpClient

/-- What `m_func_notify` is called with: the channel, and `length` bytes from
`start` on in `m_data`. -/
structure Notice where
  deviceId : UInt64
  start : Nat
  length : UInt64
  deriving DecidableEq, Repr

/-- `packet.m_uDataLength - sizeof(device_id_t)`. -/
def noticeLength (packet : Ipc.Packet) : UInt64 :=
  packet.header.dataLength.toUInt64 - UInt64.ofNat sizeofDeviceId

/-- `ProcessIpcPacketCompleted`; `funcNotify` says whether there is an
`m_func_notify`. -/
def processIpcPacketCompleted (funcNotify : Bool) (packet : Ipc.Packet) :
    Except Fault (Option Notice) :=
  if packet.type = Ipc.IPC_PKT_TYPE_JT1078_PACKET then
    if funcNotify then do
      let deviceId ← loadDeviceId (.of packet.data)
      pure (some ⟨deviceId, sizeofDeviceId, noticeLength packet⟩)
    else pure none
  else pure none

end CarTcpClient

/-! ## §2. The header and the body. -/

namespace RtmpClientState

variable {n : Nat} (payload : Block UInt8 n) (packet : Jt1078.Packet)

/-- `len` bytes of `*packet.m_header`, which begins behind the id. -/
def accessHeader (offset len : Nat) : Except Fault Unit :=
  payload.access (sizeofDeviceId + offset) len

/-- `append(packet.m_body, packet.m_header->WdBodyLen)`. -/
def accessBody : Except Fault Unit := do
  accessHeader payload 28 2
  payload.access (sizeofDeviceId + Jt1078.Header.sizeofHeader) packet.header.wdBodyLen.toNat

/-- What the branch of the video reads: the body, and if that completes a frame,
`Bt8timeStamp`. -/
def accessVideo : Except Fault Unit := do
  accessBody payload packet
  if bComplated packet then accessHeader payload 16 8 else pure ()

/-- The branch of the audio: the body, `PT7`, and `Bt8timeStamp`. -/
def accessAudio : Except Fault Unit := do
  accessBody payload packet
  accessHeader payload 5 1
  if audioType packet.header.pt7 ≠ .eUnSupport ∧ bComplated packet = true then
    accessHeader payload 16 8
  else pure ()

/-- What `ProcessJt1078Packet` reads behind `TryToInitRtmpStream`: the byte of
`DataType4` and `SubpackageHandleMark4`, and what its branch reads. -/
def accessPacket : Except Fault Unit := do
  accessHeader payload 15 1
  if packet.header.isVideo then accessVideo payload packet
  else if packet.header.dataType4 = DATA_TYPE_AUDIO then accessAudio payload packet
  else pure ()

/-- `ProcessJt1078Packet`, of the packet whose header and body are there. -/
def processJt1078PacketWithin (s : RtmpClientState) (outcome : StreamOutcome) :
    Except Fault (Int × RtmpClientState) := do
  -- without a stream the packet is not looked at
  (if 0 ≤ (s.tryToInitRtmpStream outcome).1 then accessPacket payload packet else pure ())
  pure (s.processJt1078Packet packet outcome)

end RtmpClientState

namespace RtmpThread

/-- `HandlerTask` of a task that is a JT1078 packet with nothing behind its
payload; `clients` are the streams behind the entries of `m_rtmp_mgr`. -/
def handlerJt1078Within (t : RtmpThread) (clients : UInt64 → RtmpClientState)
    (outcome : StreamOutcome) (task : Ipc.PacketMove) :
    Except Fault (RtmpThread × (UInt64 → RtmpClientState)) := do
  let payload := Block.of task.data
  -- the header and the body are pointers, and not looked at without a client
  let deviceId ← loadDeviceId payload
  match t.rtmpMgr.getRtmpClient deviceId with
  | none => pure (t, clients)
  | some _client => do
      let (ret, client) ← (clients deviceId).processJt1078PacketWithin payload
        (splitJt1078 task.data).2 outcome
      pure (if ret < 0 then { t with rtmpMgr := t.rtmpMgr.releaseRtmpClient deviceId } else t,
        Function.update clients deviceId client)

end RtmpThread

/-! ## §3. What there must be. -/

theorem loadDeviceId_ok {data : List UInt8} (h : sizeofDeviceId ≤ data.length)
    (behind : List UInt8) : loadDeviceId (.of data) = .ok (loadU64 (data ++ behind)) := by
  unfold loadDeviceId
  rw [Block.load_ok (by rwa [Nat.zero_add]), Memory.ok_bind]
  have hloaded : loadBytes sizeofDeviceId (data.take sizeofDeviceId)
      = loadBytes sizeofDeviceId (data ++ behind) := by
    rw [loadBytes_append_of_le behind h, loadBytes_eq_take h]
    exact (loadBytes_eq_take (by rw [List.length_take, Nat.min_eq_left h])).trans
      (by rw [List.take_take, Nat.min_self])
  show Except.ok (UInt64.ofNat (ofLE (loadBytes sizeofDeviceId (data.take sizeofDeviceId)))) = _
  rw [hloaded]
  rfl

theorem defined_loadDeviceId_iff {data : List UInt8} :
    Defined (loadDeviceId (.of data)) ↔ sizeofDeviceId ≤ data.length := by
  constructor
  · intro h
    obtain ⟨bytes, hload, -⟩ := Memory.defined_bind_iff.mp h
    have hle := Block.defined_load_iff.mp ⟨bytes, hload⟩
    rwa [Nat.zero_add] at hle
  · exact fun h => ⟨_, loadDeviceId_ok h []⟩

namespace RtmpClientState

variable {n : Nat} {payload : Block UInt8 n} {packet : Jt1078.Packet}

/-- The end of the body. -/
def bodyEnd (packet : Jt1078.Packet) : Nat :=
  sizeofDeviceId + Jt1078.Header.sizeofHeader + packet.header.wdBodyLen.toNat

theorem defined_accessHeader_iff {offset len : Nat} :
    Defined (accessHeader payload offset len) ↔ sizeofDeviceId + offset + len ≤ n :=
  Block.defined_access_iff

theorem defined_accessBody_iff : Defined (accessBody payload packet) ↔ bodyEnd packet ≤ n := by
  -- `WdBodyLen` is the end of the header, so it is there if the body is
  unfold accessBody
  rw [Memory.defined_then_iff, defined_accessHeader_iff, Block.defined_access_iff]
  unfold bodyEnd Jt1078.Header.sizeofHeader
  omega

/-- The fields of the header lie in front of the body. -/
theorem defined_accessHeader_of_body (h : bodyEnd packet ≤ n) {offset len : Nat}
    (hfield : offset + len ≤ Jt1078.Header.sizeofHeader) :
    Defined (accessHeader payload offset len) := by
  rw [defined_accessHeader_iff]
  unfold bodyEnd at h
  omega

theorem defined_accessVideo_iff : Defined (accessVideo payload packet) ↔ bodyEnd packet ≤ n := by
  unfold accessVideo
  rw [Memory.defined_then_iff, defined_accessBody_iff, Memory.defined_ite_iff]
  exact and_iff_left_of_imp fun h _ => defined_accessHeader_of_body h (by decide)

theorem defined_accessAudio_iff : Defined (accessAudio payload packet) ↔ bodyEnd packet ≤ n := by
  unfold accessAudio
  rw [Memory.defined_then_iff, Memory.defined_then_iff, defined_accessBody_iff,
    Memory.defined_ite_iff]
  exact and_iff_left_of_imp fun h => ⟨defined_accessHeader_of_body h (by decide),
    fun _ => defined_accessHeader_of_body h (by decide)⟩

/-- The payload holds the byte with the type of the data, and if that is video
or audio, the whole body. -/
def Holds (n : Nat) (packet : Jt1078.Packet) : Prop :=
  sizeofDeviceId + 16 ≤ n
    ∧ (packet.header.isVideo ∨ packet.header.dataType4 = DATA_TYPE_AUDIO → bodyEnd packet ≤ n)

instance (n : Nat) (packet : Jt1078.Packet) : Decidable (Holds n packet) :=
  inferInstanceAs (Decidable (_ ∧ _))

theorem defined_accessPacket_iff : Defined (accessPacket payload packet) ↔ Holds n packet := by
  unfold accessPacket Holds
  rw [Memory.defined_then_iff, defined_accessHeader_iff]
  refine and_congr_right fun _ => ?_
  split
  next hvideo =>
      rw [defined_accessVideo_iff]
      exact (imp_iff_right (Or.inl hvideo)).symm
  next hvideo =>
      rw [Memory.defined_ite_iff, defined_accessAudio_iff]
      simp only [hvideo, false_or]

theorem defined_processJt1078PacketWithin_iff {s : RtmpClientState} {outcome : StreamOutcome} :
    Defined (s.processJt1078PacketWithin payload packet outcome)
      ↔ (s.Ready outcome → Holds n packet) := by
  unfold processJt1078PacketWithin
  rw [Memory.defined_then_iff, Memory.defined_ite_iff, defined_accessPacket_iff,
    tryToInit_iff_ready]
  exact and_iff_left (Memory.defined_ok _)

end RtmpClientState

/-- What a JT1078 packet must hold: an id, and if the worker has a client for it
whose stream is there, what this looks at. -/
def Ipc.Packet.Fits (packet : Ipc.Packet) (t : RtmpThread) (clients : UInt64 → RtmpClientState)
    (outcome : StreamOutcome) : Prop :=
  let (deviceId, jt1078) := RtmpThread.splitJt1078 packet.data
  sizeofDeviceId ≤ packet.data.length
    ∧ (t.rtmpMgr.Streams deviceId → (clients deviceId).Ready outcome →
      RtmpClientState.Holds packet.data.length jt1078)

instance (packet : Ipc.Packet) (t : RtmpThread) (clients : UInt64 → RtmpClientState)
    (outcome : StreamOutcome) : Decidable (packet.Fits t clients outcome) :=
  inferInstanceAs (Decidable (_ ∧ (_ → _ → _)))

variable {t : RtmpThread} {clients : UInt64 → RtmpClientState} {outcome : StreamOutcome}
  {packet : Ipc.Packet}

/-! ### Each server. -/

theorem PcServer.defined_onClientMessageWithin_iff {p : PcServer}
    (htype : packet.type = Ipc.IPC_PKT_TYPE_JT1078_PACKET) :
    Defined (p.onClientMessageWithin packet) ↔ sizeofDeviceId ≤ packet.data.length := by
  unfold onClientMessageWithin
  rw [if_pos htype, Memory.defined_bind_pure_iff,
    defined_loadDeviceId_iff]

/-- If nothing outside is read, what lies there does not matter. -/
theorem PcServer.onClientMessageWithin_ok {p p' : PcServer}
    (h : p.onClientMessageWithin packet = .ok p') (behind : List UInt8) :
    p.onClientMessage packet behind = p' := by
  unfold onClientMessageWithin at h
  unfold onClientMessage
  split at h
  next htype =>
      obtain ⟨deviceId, hload, hpublish⟩ := Memory.bind_eq_ok_iff.mp h
      have hle := defined_loadDeviceId_iff.mp ⟨deviceId, hload⟩
      rw [loadDeviceId_ok hle behind] at hload
      rw [if_pos htype, Except.ok.inj hload]
      exact Except.ok.inj hpublish
  next htype =>
      rw [if_neg htype]
      exact Except.ok.inj h

theorem CarTcpClient.defined_processIpcPacketCompleted_iff {funcNotify : Bool}
    (htype : packet.type = Ipc.IPC_PKT_TYPE_JT1078_PACKET) :
    Defined (processIpcPacketCompleted funcNotify packet)
      ↔ (funcNotify = true → sizeofDeviceId ≤ packet.data.length) := by
  unfold processIpcPacketCompleted
  rw [if_pos htype, Memory.defined_ite_iff,
    Memory.defined_bind_pure_iff, defined_loadDeviceId_iff]

theorem CarTcpClient.noticeLength_iff :
    sizeofDeviceId + (noticeLength packet).toNat = packet.data.length
      ↔ sizeofDeviceId ≤ packet.data.length := by
  -- the difference of a short length is taken modulo `2 ^ 64`
  have hlength := packet.length_data
  have hlt := packet.header.dataLength.toNat_lt
  unfold noticeLength sizeofDeviceId
  rw [UInt64.toNat_sub, UInt32.toNat_toUInt64, ← hlength,
    show (UInt64.ofNat 8).toNat = 8 from rfl]
  omega

theorem RtmpThread.defined_handlerJt1078Within_iff (behind : List UInt8) :
    Defined (t.handlerJt1078Within clients outcome (.copyFrom packet behind))
      ↔ packet.Fits t clients outcome := by
  unfold handlerJt1078Within Ipc.Packet.Fits
  dsimp only [Ipc.PacketMove.copyFrom, splitJt1078]
  by_cases hle : sizeofDeviceId ≤ packet.data.length
  · rw [and_iff_right hle, loadDeviceId_ok hle [], List.append_nil, Memory.ok_bind]
    cases hclient : t.rtmpMgr.getRtmpClient (loadU64 packet.data) with
    | none =>
        -- nobody watches the channel, and the id was all that was read
        refine iff_of_true (Memory.defined_ok _) fun hstreams => ?_
        have hsome := RtmpMgr.getRtmpClient_isSome.mpr hstreams
        rw [hclient] at hsome
        cases hsome
    | some client =>
        have hstreams := RtmpMgr.getRtmpClient_isSome.mp (Option.isSome_iff_exists.mpr ⟨_, hclient⟩)
        dsimp only
        rw [Memory.defined_bind_pure_iff,
          RtmpClientState.defined_processJt1078PacketWithin_iff, imp_iff_right hstreams]
  · refine iff_of_false (fun h => ?_) fun h => hle h.1
    obtain ⟨deviceId, hload, -⟩ := Memory.defined_bind_iff.mp h
    exact hle (defined_loadDeviceId_iff.mp ⟨deviceId, hload⟩)

/-- Then the worker does what `HandlerTask` does with the answer of the stream. -/
theorem RtmpThread.handlerJt1078Within_ok {task : Ipc.PacketMove} {t' : RtmpThread}
    {clients' : UInt64 → RtmpClientState}
    (htype : taskType task = Ipc.IPC_PKT_TYPE_JT1078_PACKET)
    (h : t.handlerJt1078Within clients outcome task = .ok (t', clients')) :
    let (deviceId, jt1078) := splitJt1078 task.data
    t' = t.handlerTask ((clients deviceId).processJt1078Packet jt1078 outcome).1 task := by
  obtain ⟨deviceId, hload, hrest⟩ := Memory.bind_eq_ok_iff.mp h
  have hle := defined_loadDeviceId_iff.mp ⟨deviceId, hload⟩
  have hdevice : loadU64 task.memory = loadU64 task.data := by
    have hsame := (loadDeviceId_ok hle task.behind).symm.trans (loadDeviceId_ok hle [])
    rw [List.append_nil] at hsame
    exact Except.ok.inj hsame
  rw [loadDeviceId_ok hle [], List.append_nil] at hload
  obtain rfl := Except.ok.inj hload
  show t' = t.handlerTask ((clients (loadU64 task.data)).processJt1078Packet _ outcome).1 task
  rw [handlerTask_of_jt1078 htype]
  dsimp only [splitJt1078]
  rw [hdevice]
  cases hclient : t.rtmpMgr.getRtmpClient (loadU64 task.data) with
  | none =>
      rw [hclient] at hrest
      exact (Prod.ext_iff.mp (Except.ok.inj hrest)).1.symm
  | some client =>
      rw [hclient] at hrest
      obtain ⟨result, hprocess, hdone⟩ := Memory.bind_eq_ok_iff.mp hrest
      obtain ⟨-, -, hresult⟩ := Memory.bind_eq_ok_iff.mp hprocess
      obtain rfl := Except.ok.inj hresult
      exact (Prod.ext_iff.mp (Except.ok.inj hdone)).1.symm

/-! ## §4. All of them. -/

/-- The three servers read only what is in the payload, and the length that is
passed on does not wrap. -/
structure ReadsInside (p : PcServer) (funcNotify : Bool) (t : RtmpThread)
    (clients : UInt64 → RtmpClientState) (outcome : StreamOutcome) (packet : Ipc.Packet) :
    Prop where
  pcServer : Defined (p.onClientMessageWithin packet)
  carTcpClient : Defined (CarTcpClient.processIpcPacketCompleted funcNotify packet)
  rtmpThread : ∀ behind, Defined (t.handlerJt1078Within clients outcome (.copyFrom packet behind))
  notWrapped : funcNotify = true →
    sizeofDeviceId + (CarTcpClient.noticeLength packet).toNat = packet.data.length

/-- **When nothing outside of the payload is read.**  For every JT1078 packet,
whatever its length and its bytes, and in every state of the servers: all
accesses are inside exactly when the payload has the eight bytes of an id, and,
if the worker has a client for it whose stream is there, goes up to the byte
with the type of the data, and for video and audio up to the end of a body of
`WdBodyLen` bytes. -/
theorem reads_inside_iff (p : PcServer) (funcNotify : Bool) (t : RtmpThread)
    (clients : UInt64 → RtmpClientState) (outcome : StreamOutcome) (packet : Ipc.Packet)
    (htype : packet.type = Ipc.IPC_PKT_TYPE_JT1078_PACKET) :
    ReadsInside p funcNotify t clients outcome packet ↔ packet.Fits t clients outcome := by
  constructor
  · exact fun h => (RtmpThread.defined_handlerJt1078Within_iff []).mp (h.rtmpThread [])
  · intro h
    exact ⟨(PcServer.defined_onClientMessageWithin_iff htype).mpr h.1,
      (CarTcpClient.defined_processIpcPacketCompleted_iff htype).mpr fun _ => h.1,
      fun behind => (RtmpThread.defined_handlerJt1078Within_iff behind).mpr h,
      fun _ => CarTcpClient.noticeLength_iff.mpr h.1⟩

/-- **What `ForwardServer` sends** is long enough. -/
theorem fits_ipcPacket (m : Forward.Message) (seqId : UInt32) (t : RtmpThread)
    (clients : UInt64 → RtmpClientState) (outcome : StreamOutcome) :
    (m.ipcPacket seqId).Fits t clients outcome := by
  have hlength : (m.ipcPacket seqId).data.length = RtmpClientState.bodyEnd m.pkt :=
    m.length_payload
  unfold Ipc.Packet.Fits
  rw [hlength, show (m.ipcPacket seqId).data = m.payload from rfl, ← List.append_nil m.payload,
    RtmpThread.splitJt1078_payload]
  refine ⟨?_, fun _ _ => ⟨?_, fun _ => Nat.le_refl _⟩⟩
  · unfold RtmpClientState.bodyEnd
    omega
  · unfold RtmpClientState.bodyEnd Jt1078.Header.sizeofHeader
    omega

/-- A worker that has a client for channel 1. -/
def watching : RtmpThread where
  rtmpMgr := RtmpMgr.createRtmpClient ⟨∅⟩ 1 [114]
  rtmpUrlPrefix := [114]

/-- Its stream, not yet there. -/
def silent (deviceId : UInt64) : RtmpClientState :=
  .new ⟨deviceId, [114]⟩ (Vector.replicate CCodec.outBufLen 0)

/-- A frame of video of one byte, as `ForwardServer` sends it. -/
theorem reads_inside_one_byte :
    let m : Forward.Message := ⟨1, RtmpClientState.oneByte Jt1078.RCV_ATOMIC_PACKAGE 7⟩
    ReadsInside (.new 0) true watching silent RtmpClientState.allWell (m.ipcPacket 0) := by
  intro m
  exact (reads_inside_iff _ _ _ _ _ _ (by decide)).mpr (fits_ipcPacket m 0 _ _ _)

/-- A JT1078 packet with this payload. -/
def jt1078Packet (data : List UInt8) (h : data.length < 2 ^ 32) : Ipc.Packet where
  header := { Ipc.Header.cleared with
    pktType := Ipc.IPC_PKT_TYPE_JT1078_PACKET
    dataLength := UInt32.ofNat data.length }
  data := data
  length_data := (UInt32.toNat_ofNat_of_lt' h).symm

/-- A packet without a payload, and one of an id and a header that speaks of
1000 bytes of video: the decoder delivers both, and both are read beyond their
end. -/
theorem not_reads_inside_short :
    let empty := jt1078Packet [] (by decide)
    let bodyless := jt1078Packet
      (leBytes sizeofDeviceId 1 ++ { Jt1078.Header.cleared with wdBodyLen := 1000 }.memory)
      (by decide)
    (∀ packet ∈ [empty, bodyless],
      (∃ d, (Ipc.Decoder.receiver .libstdcxx).run (.new .libstdcxx) [packet.bytes]
          = ([(packet, 0)], .kNeedMoreData, d))
        ∧ ¬ReadsInside (.new 0) true watching silent RtmpClientState.allWell packet)
      ∧ CarTcpClient.noticeLength empty = 18446744073709551608 := by
  intro empty bodyless
  refine ⟨fun packet hpacket => ?_, by decide⟩
  have hgood : packet.Valid ∧ packet.header.dataLength.toNat ≤ 1008
      ∧ ¬packet.Fits watching silent RtmpClientState.allWell := by
    rcases List.mem_pair.mp hpacket with rfl | rfl <;> decide +kernel
  refine ⟨Ipc.Decoder.run_bytes .libstdcxx hgood.1 hgood.2.1 _ List.mem_cons_self, ?_⟩
  exact fun h => hgood.2.2 ((RtmpThread.defined_handlerJt1078Within_iff []).mp (h.rtmpThread []))

end MultiProcessServer
