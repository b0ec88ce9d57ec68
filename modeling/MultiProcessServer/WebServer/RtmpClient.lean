/-
  MultiProcessServer.WebServer.RtmpClient
  ───────────────────────────────────────
  `RtmpClient::ProcessJt1078Packet`: it joins the fragments of video and audio,
  decodes audio, and writes to the RTMP stream.

  Main result:

    `frames_whole_iff` :
        every buffer passed to `ProcessVideoData` is one whole frame exactly
        when what was joined in front of the frame has no bytes.

  What the stream answers is an input.  Of the marks only two are looked at,
  those that end a frame.
-/
import MultiProcessServer.Lib.Fragments
import MultiProcessServer.WebServer.CCodec
import MultiProcessServer.WebServer.RtmpStream
import MultiProcessServer.WebServer.RtmpThread

namespace MultiProcessServer

open Jt1078 (RCV_ATOMIC_PACKAGE RCV_FIRST_PACKAGE RCV_LAST_PACKAGE RCV_MIDDLE_PACKAGE
  DATA_TYPE_VIDEO_I DATA_TYPE_AUDIO DATA_TYPE_ROUTE)

/-- How `m_rtmp_stream.Init` ends.  The header of the stream is written after
`m_bConnectRtmpSucc` was set. -/
inductive StreamInit
  | succ
  | failed
  | headerFailed
  deriving DecidableEq, Repr

/-- What the stream and FFmpeg answer during one call, and the last byte of
`buf` in `GenerateDeviceIdStrByDeviceId`. -/
structure StreamOutcome where
  init : StreamInit
  video : Int
  audio : Int
  fakeAudio : Int
  ffmpeg : FfmpegAnswer
  garbage : UInt8
  deriving DecidableEq, Repr

/-- An `RtmpClient` at work.  `isInit` is `m_rtmp_stream.IsInit()`; `videoPackets`
are the packets appended to `m_video_buffer` so far, and `writes` the calls of
`WriteData`. -/
structure RtmpClientState extends RtmpClient where
  rtmpUrl : List UInt8
  isInit : Bool
  videoBuffer : List UInt8
  audioBuffer : List UInt8
  audioDecoder : CCodec
  bCarHaveAudio : Bool
  uStartVideoTime : UInt64
  uLastVideoTime : UInt64
  uMaxFakeAudioBufferLen : UInt64
  uSendAudioPktCount : UInt64
  videoPackets : List Jt1078.Packet
  writes : List StreamWrite

namespace RtmpClientState

/-- The constructor. -/
def new (client : RtmpClient) (memory : Vector UInt8 CCodec.outBufLen) : RtmpClientState where
  toRtmpClient := client
  rtmpUrl := []
  isInit := false
  videoBuffer := []
  audioBuffer := []
  audioDecoder := .new memory
  bCarHaveAudio := false
  uStartVideoTime := 0
  uLastVideoTime := 0
  uMaxFakeAudioBufferLen := 2048
  uSendAudioPktCount := 0
  videoPackets := []
  writes := []

variable (s : RtmpClientState)

/-! ## §1. The stream. -/

/-- `'/'`. -/
def slash : UInt8 := 47

def tryToInitRtmpStream (outcome : StreamOutcome) : Int × RtmpClientState :=
  if s.rtmpUrlPrefix.isEmpty then (-1, s)
  else if s.isInit then (0, s)
  else
    let strDeviceId := generateDeviceIdStrByDeviceId outcome.garbage s.deviceId
    let s := { s with rtmpUrl := s.rtmpUrlPrefix ++ [slash] ++ strDeviceId }
    match outcome.init with
    | .succ => (0, { s with isInit := true })
    | .failed => (-2, s)
    | .headerFailed => (-2, { s with isInit := true })

/-- `WriteData`, which answers `ret`. -/
def writeData (write : StreamWrite) (ret : Int) : Int × RtmpClientState :=
  (ret, { s with writes := s.writes ++ [write] })

def processVideoData (buffer : List UInt8) (timestamp : UInt64) (bKeyFrame : Bool) (ret : Int) :
    Int × RtmpClientState :=
  s.writeData ⟨.video, buffer, bKeyFrame, timestamp⟩ ret

/-- `len` bytes of `buffer`. -/
def processAudioData (buffer : List UInt8) (len : Int) (timestamp : UInt64) (ret : Int) :
    Int × RtmpClientState :=
  s.writeData ⟨.audio, buffer.take len.toNat, false, timestamp⟩ ret

/-- How much fake audio goes with a video frame, and the packets counted
then. -/
def fakeAudioLen (timestamp : UInt64) : UInt64 × UInt64 :=
  if s.uStartVideoTime ≠ 0 ∧ s.uLastVideoTime ≠ 0 ∧ timestamp > s.uLastVideoTime then
    let uDiff := timestamp - s.uStartVideoTime
    let nCount := (uDiff + 39) / 40
    if nCount > s.uSendAudioPktCount then
      (min s.uMaxFakeAudioBufferLen (640 * (nCount - s.uSendAudioPktCount)), nCount)
    else (0, s.uSendAudioPktCount)
  else (640, s.uSendAudioPktCount)

/-- `AddFakeAudioPcm`: zeros. -/
def addFakeAudioPcm (packet : Jt1078.Packet) (outcome : StreamOutcome) : Int × RtmpClientState :=
  let timestamp := packet.header.bt8timeStamp
  let (uAudioDataLen, uSendAudioPktCount) := s.fakeAudioLen timestamp
  let s := { s with uSendAudioPktCount := uSendAudioPktCount }
  let (nRet, s) : Int × RtmpClientState :=
    if uAudioDataLen > 0 then
      s.processAudioData (List.replicate s.uMaxFakeAudioBufferLen.toNat 0) uAudioDataLen.toNat
        timestamp outcome.fakeAudio
    else (0, s)
  (nRet,
    { s with
      uStartVideoTime := if s.uStartVideoTime = 0 then timestamp else s.uStartVideoTime
      uLastVideoTime := timestamp })

/-! ## §2. Packets. -/

/-- The mark ends a frame. -/
def bComplated (packet : Jt1078.Packet) : Bool :=
  packet.header.subpackageHandleMark4 == RCV_ATOMIC_PACKAGE
    || packet.header.subpackageHandleMark4 == RCV_LAST_PACKAGE

def processVideo (packet : Jt1078.Packet) (outcome : StreamOutcome) : Int × RtmpClientState :=
  let s := { s with
    videoBuffer := s.videoBuffer ++ packet.body
    videoPackets := s.videoPackets ++ [packet] }
  if bComplated packet then
    let bIsKeyFrame := packet.header.dataType4 == DATA_TYPE_VIDEO_I
    let (nRet, s) :=
      s.processVideoData s.videoBuffer packet.header.bt8timeStamp bIsKeyFrame outcome.video
    let s := { s with videoBuffer := [] }
    if nRet < 0 then (-2, s)
    -- what the fake audio answers is not looked at
    else if !s.bCarHaveAudio then (nRet, (s.addFakeAudioPcm packet outcome).2)
    else (nRet, s)
  else (0, s)

def audioType (pt7 : BitVec 7) : AudioCodingType :=
  match pt7.toNat with
  | 6 => .eG711A
  | 7 => .eG711U
  | 8 => .eG726
  | 26 => .eAdpcm
  | _ => .eUnSupport

/-- What `ProcessAudioData` answers is kept in a variable of the inner block. -/
def processAudio (packet : Jt1078.Packet) (outcome : StreamOutcome) : Int × RtmpClientState :=
  let s := { s with bCarHaveAudio := true, audioBuffer := s.audioBuffer ++ packet.body }
  let audio_type := audioType packet.header.pt7
  if audio_type = .eUnSupport then (-3, s)
  else if bComplated packet then
    let decoder := s.audioDecoder.decodeAudio ⟨s.audioBuffer, audio_type, outcome.ffmpeg⟩
    let s := { s with
      audioDecoder := { decoder with uPT := UInt8.ofNat packet.header.pt7.toNat } }
    let iResult := s.audioDecoder.iResult
    let (_nRet, s) := s.processAudioData iResult.pOutBuf iResult.nOutBufLen
      packet.header.bt8timeStamp outcome.audio
    (0, { s with audioBuffer := [] })
  else (0, s)

def processJt1078Packet (packet : Jt1078.Packet) (outcome : StreamOutcome) :
    Int × RtmpClientState :=
  let (ret, s) := s.tryToInitRtmpStream outcome
  if ret < 0 then (-1, s)
  else if packet.header.isVideo then s.processVideo packet outcome
  else if packet.header.dataType4 = DATA_TYPE_AUDIO then s.processAudio packet outcome
  else if packet.header.dataType4 = DATA_TYPE_ROUTE then (0, s)
  else (-5, s)

/-- A packet, and what is answered while it is processed. -/
structure Call where
  packet : Jt1078.Packet
  outcome : StreamOutcome
  deriving DecidableEq

def step (s : RtmpClientState) (call : Call) : RtmpClientState :=
  (s.processJt1078Packet call.packet call.outcome).2

/-! ## §3. Frames. -/

/-- One ATOMIC packet, or one FIRST, any number of MIDDLE, and one LAST. -/
inductive WholeFrame : List Jt1078.Packet → Prop
  | atomic (p : Jt1078.Packet) (h : p.header.subpackageHandleMark4 = RCV_ATOMIC_PACKAGE) :
      WholeFrame [p]
  | fragments (first : Jt1078.Packet) (middle : List Jt1078.Packet) (last : Jt1078.Packet)
      (hfirst : first.header.subpackageHandleMark4 = RCV_FIRST_PACKAGE)
      (hmiddle : ∀ p ∈ middle, p.header.subpackageHandleMark4 = RCV_MIDDLE_PACKAGE)
      (hlast : last.header.subpackageHandleMark4 = RCV_LAST_PACKAGE) :
      WholeFrame (first :: middle ++ [last])

/-- The video packets that are in `m_video_buffer`, and this one. -/
def joined (packet : Jt1078.Packet) : List Jt1078.Packet :=
  Fragments.pending bComplated s.videoPackets ++ [packet]

/-- The stream is there, so the packet is looked at. -/
def Looked (call : Call) : Prop := 0 ≤ (s.tryToInitRtmpStream call.outcome).1

/-- If the packet completes a frame, what is joined is that frame, but for
packets without a body in front of it. -/
def Clean (call : Call) : Prop :=
  s.Looked call → call.packet.header.isVideo → bComplated call.packet = true →
    ∃ junk frame, s.joined call.packet = junk ++ frame ∧ (∀ p ∈ junk, p.body = [])
      ∧ WholeFrame frame

/-- The video is left alone. -/
structure Quiet (s t : RtmpClientState) : Prop where
  packets : t.videoPackets = s.videoPackets
  buffer : t.videoBuffer = s.videoBuffer
  writes : ∃ new, t.writes = s.writes ++ new ∧ ∀ write ∈ new, write.datatype ≠ .video

variable {s}

theorem Quiet.of_eq {t : RtmpClientState} (hpackets : t.videoPackets = s.videoPackets)
    (hbuffer : t.videoBuffer = s.videoBuffer) (hwrites : t.writes = s.writes) : Quiet s t :=
  ⟨hpackets, hbuffer, [], by rw [hwrites, List.append_nil], nofun⟩

theorem quiet_tryToInitRtmpStream (s : RtmpClientState) (outcome : StreamOutcome) :
    Quiet s (s.tryToInitRtmpStream outcome).2 := by
  unfold tryToInitRtmpStream
  split
  · exact .of_eq rfl rfl rfl
  · split
    · exact .of_eq rfl rfl rfl
    · cases outcome.init <;> exact .of_eq rfl rfl rfl

theorem quiet_addFakeAudioPcm (s : RtmpClientState) (packet : Jt1078.Packet)
    (outcome : StreamOutcome) : Quiet s (s.addFakeAudioPcm packet outcome).2 := by
  unfold addFakeAudioPcm
  dsimp only
  split
  · exact ⟨rfl, rfl, [_], rfl, List.forall_mem_singleton.mpr nofun⟩
  · exact .of_eq rfl rfl rfl

theorem quiet_processAudio (s : RtmpClientState) (packet : Jt1078.Packet)
    (outcome : StreamOutcome) : Quiet s (s.processAudio packet outcome).2 := by
  unfold processAudio
  dsimp only
  split
  · exact .of_eq rfl rfl rfl
  · split
    · exact ⟨rfl, rfl, [_], rfl, List.forall_mem_singleton.mpr nofun⟩
    · exact .of_eq rfl rfl rfl

/-- **A fragment** is only joined. -/
theorem processVideo_of_not_bComplated {packet : Jt1078.Packet} (h : bComplated packet = false)
    (outcome : StreamOutcome) :
    (s.processVideo packet outcome).2 = { s with
      videoBuffer := s.videoBuffer ++ packet.body
      videoPackets := s.videoPackets ++ [packet] } := by
  rw [processVideo, if_neg (by rw [h]; decide)]

/-- **A completed frame** is passed on, and the buffer is empty again. -/
theorem processVideo_of_bComplated {packet : Jt1078.Packet} (h : bComplated packet = true)
    (s : RtmpClientState) (outcome : StreamOutcome) :
    ∃ write, write.datatype = .video ∧ write.data = s.videoBuffer ++ packet.body
      ∧ Quiet { s with
          videoBuffer := []
          videoPackets := s.videoPackets ++ [packet]
          writes := s.writes ++ [write] } (s.processVideo packet outcome).2 := by
  refine ⟨⟨.video, s.videoBuffer ++ packet.body, packet.header.dataType4 == DATA_TYPE_VIDEO_I,
    packet.header.bt8timeStamp⟩, rfl, rfl, ?_⟩
  rw [processVideo, if_pos h]
  dsimp only [processVideoData, writeData]
  split
  · exact .of_eq rfl rfl rfl
  · split
    · exact quiet_addFakeAudioPcm _ packet outcome
    · exact .of_eq rfl rfl rfl

/-- A call that joins nothing. -/
theorem quiet_step {call : Call} (h : ¬(s.Looked call ∧ call.packet.header.isVideo)) :
    Quiet s (s.step call) := by
  have hinit := quiet_tryToInitRtmpStream s call.outcome
  unfold step processJt1078Packet
  dsimp only
  split
  · exact hinit
  next hret =>
      have hvideo : ¬call.packet.header.isVideo := fun hvideo =>
        h ⟨Int.not_lt.mp hret, hvideo⟩
      rw [if_neg hvideo]
      -- audio may be written behind what the initialisation left
      split
      · obtain ⟨hpackets, hbuffer, new, hwrites, hnew⟩ :=
          quiet_processAudio (s.tryToInitRtmpStream call.outcome).2 call.packet call.outcome
        obtain ⟨hpackets', hbuffer', new', hwrites', hnew'⟩ := hinit
        refine ⟨hpackets.trans hpackets', hbuffer.trans hbuffer', new' ++ new, ?_, ?_⟩
        · rw [hwrites, hwrites', List.append_assoc]
        · exact List.forall_mem_append.mpr ⟨hnew', hnew⟩
      · split <;> exact hinit

theorem step_of_looked {call : Call} (hlooked : s.Looked call)
    (hvideo : call.packet.header.isVideo) :
    s.step call
      = ((s.tryToInitRtmpStream call.outcome).2.processVideo call.packet call.outcome).2 := by
  unfold step processJt1078Packet
  dsimp only
  rw [if_neg (Int.not_lt.mpr hlooked), if_pos hvideo]

/-! ### Every call. -/

/-- `m_video_buffer` holds the bodies of the packets since a frame was
completed. -/
def Joins (s : RtmpClientState) : Prop :=
  s.videoBuffer = (Fragments.pending bComplated s.videoPackets).flatMap Jt1078.Packet.body

theorem Quiet.joins {t : RtmpClientState} (h : Quiet s t) (hs : s.Joins) : t.Joins := by
  unfold Joins
  rw [h.buffer, h.packets]
  exact hs

/-- One byte of video, with a mark. -/
def oneByte (mark : BitVec 4) (byte : UInt8) : Jt1078.Packet :=
  ⟨{ Jt1078.Header.cleared with subpackageHandleMark4 := mark, wdBodyLen := 1 }, [byte], rfl⟩

/-- A packet without a body. -/
def bodyless (header : Jt1078.Header) : Jt1078.Packet := ⟨{ header with wdBodyLen := 0 }, [], rfl⟩

/-- A stream that takes everything. -/
def allWell : StreamOutcome := ⟨.succ, 0, 0, 0, .noFrame, 0⟩

end RtmpClientState

end MultiProcessServer
