/-
  MultiProcessServer.WebServer.StreamFailures
  ───────────────────────────────────────────
  What `RtmpClient::ProcessJt1078Packet` answers when something failed, and
  whether `RtmpThread` releases the client then.

  Main result:

    `reported_iff_heard` :
        every failure is reported exactly when no completed audio frame fails
        to be written.

  The answer to that write is kept in a second `nRet`, inside the branch.
-/
import MultiProcessServer.WebServer.RtmpClient

namespace MultiProcessServer

open Jt1078 (DATA_TYPE_ROUTE DATA_TYPE_AUDIO DATA_TYPE_VIDEO_I RCV_ATOMIC_PACKAGE)

namespace RtmpClientState

variable (s : RtmpClientState) (call : Call)

/-- What the call returns. -/
def ret : Int := (s.processJt1078Packet call.packet call.outcome).1

/-! ## §1. What can fail. -/

/-- The five ways to fail.  Once the stream is there, a packet is video, audio,
of a route, or of no type that is known. -/
inductive Fails : Prop
  | init (h : ¬s.Looked call)
  | video (hlooked : s.Looked call) (hvideo : call.packet.header.isVideo)
      (hends : bComplated call.packet = true) (hwrite : call.outcome.video < 0)
  | audioType (hlooked : s.Looked call) (haudio : call.packet.header.dataType4 = DATA_TYPE_AUDIO)
      (htype : audioType call.packet.header.pt7 = .eUnSupport)
  | audio (hlooked : s.Looked call) (haudio : call.packet.header.dataType4 = DATA_TYPE_AUDIO)
      (htype : audioType call.packet.header.pt7 ≠ .eUnSupport)
      (hends : bComplated call.packet = true) (hwrite : call.outcome.audio < 0)
  | dataType (hlooked : s.Looked call) (hvideo : ¬call.packet.header.isVideo)
      (haudio : call.packet.header.dataType4 ≠ DATA_TYPE_AUDIO)
      (hroute : call.packet.header.dataType4 ≠ DATA_TYPE_ROUTE)

/-- The failure is in the answer, nothing else is, and the worker releases the
client exactly then. -/
structure Reported : Prop where
  negative : s.Fails call → s.ret call < 0
  zero : ¬s.Fails call → s.ret call = 0
  released : ∀ (t : RtmpThread) (task : Ipc.PacketMove),
    RtmpThread.taskType task = Ipc.IPC_PKT_TYPE_JT1078_PACKET →
    RtmpThread.splitJt1078 task.memory = (s.deviceId, call.packet) →
    t.rtmpMgr.Streams s.deviceId →
      (¬(t.handlerTask (s.ret call) task).rtmpMgr.Streams s.deviceId ↔ s.Fails call)

/-- There is a stream, or there will be one at once. -/
def Ready (outcome : StreamOutcome) : Prop :=
  s.rtmpUrlPrefix.isEmpty = false ∧ (s.isInit = true ∨ outcome.init = .succ)

instance (outcome : StreamOutcome) : Decidable (s.Ready outcome) :=
  inferInstanceAs (Decidable (_ ∧ _))

/-- No completed audio frame fails to be written. -/
def Heard : Prop :=
  s.Ready call.outcome → call.packet.header.dataType4 = DATA_TYPE_AUDIO →
    audioType call.packet.header.pt7 ≠ .eUnSupport → bComplated call.packet = true →
      0 ≤ call.outcome.audio

/-- A value `WriteData` can answer. -/
def Answers (ret : Int) : Prop :=
  ∃ (stream : CRtmpStream) (write : StreamWrite) (answer : EncoderAnswer),
    (stream.writeData write answer).1 = ret

/-! ## §2. What is answered. -/

variable {s call}

/-- The state that is returned has no part in the answer. -/
theorem tryToInit_ret (s : RtmpClientState) (outcome : StreamOutcome) :
    (s.tryToInitRtmpStream outcome).1
      = if s.rtmpUrlPrefix.isEmpty then -1
        else if s.isInit ∨ outcome.init = .succ then 0
        else -2 := by
  unfold tryToInitRtmpStream
  split
  · rfl
  -- the url is put together again on every attempt, and not answered
  · split
    next hinit => exact (if_pos (Or.inl hinit)).symm
    next hinit =>
        dsimp only
        split
        next hsucc => exact (if_pos (Or.inr hsucc)).symm
        next hfailed => exact (if_neg (by simp [hinit, hfailed])).symm
        next hfailed => exact (if_neg (by simp [hinit, hfailed])).symm

theorem tryToInit_iff_ready (s : RtmpClientState) (outcome : StreamOutcome) :
    0 ≤ (s.tryToInitRtmpStream outcome).1 ↔ s.Ready outcome := by
  unfold Ready
  rw [tryToInit_ret, Bool.eq_false_iff]
  split
  next hempty => exact iff_of_false (by decide) fun h => h.1 hempty
  next hempty =>
      rw [and_iff_right hempty]
      split
      next hready => exact iff_of_true (Int.le_refl 0) hready
      next hready => exact iff_of_false (by decide) hready

theorem processVideo_ret (s : RtmpClientState) (packet : Jt1078.Packet) (outcome : StreamOutcome) :
    (s.processVideo packet outcome).1
      = if bComplated packet then if outcome.video < 0 then -2 else outcome.video else 0 := by
  unfold processVideo
  cases bComplated packet with
  | false => rfl
  | true =>
      dsimp only [processVideoData, writeData]
      rw [if_pos rfl, if_pos rfl]
      split
      · rfl
      · split <;> rfl

/-- The answer of the write is lost. -/
theorem processAudio_ret (s : RtmpClientState) (packet : Jt1078.Packet) (outcome : StreamOutcome) :
    (s.processAudio packet outcome).1
      = if audioType packet.header.pt7 = .eUnSupport then -3 else 0 := by
  unfold processAudio
  dsimp only
  split
  · rfl
  · split <;> rfl

theorem not_isVideo_of_audio {header : Jt1078.Header} (h : header.dataType4 = DATA_TYPE_AUDIO) :
    ¬header.isVideo := by
  unfold Jt1078.Header.isVideo
  rw [h]
  decide

theorem ret_of_not_looked (h : ¬s.Looked call) : s.ret call = -1 := by
  unfold ret processJt1078Packet
  dsimp only
  rw [if_pos (Int.not_le.mp h)]

theorem ret_of_looked (h : s.Looked call) :
    s.ret call
      = if call.packet.header.isVideo then
          if bComplated call.packet then
            if call.outcome.video < 0 then -2 else call.outcome.video
          else 0
        else if call.packet.header.dataType4 = DATA_TYPE_AUDIO then
          if audioType call.packet.header.pt7 = .eUnSupport then -3 else 0
        else if call.packet.header.dataType4 = DATA_TYPE_ROUTE then 0
        else -5 := by
  unfold ret processJt1078Packet
  dsimp only
  rw [if_neg (Int.not_lt.mpr h)]
  split
  · exact processVideo_ret _ _ _
  · split
    · exact processAudio_ret _ _ _
    · split <;> rfl

/-- **A failure** is answered, if it is not that of an audio frame. -/
theorem ret_neg (hfails : s.Fails call) (hheard : s.Heard call) : s.ret call < 0 := by
  cases hfails with
  | init h =>
      rw [ret_of_not_looked h]
      decide
  | video hlooked hvideo hends hwrite =>
      rw [ret_of_looked hlooked, if_pos hvideo, if_pos hends, if_pos hwrite]
      decide
  | audioType hlooked haudio htype =>
      rw [ret_of_looked hlooked, if_neg (not_isVideo_of_audio haudio), if_pos haudio, if_pos htype]
      decide
  | audio hlooked haudio htype hends hwrite =>
      -- the one that is lost
      have hready := (tryToInit_iff_ready s call.outcome).mp hlooked
      exact absurd hwrite (Int.not_lt.mpr (hheard hready haudio htype hends))
  | dataType hlooked hvideo haudio hroute =>
      rw [ret_of_looked hlooked, if_neg hvideo, if_neg haudio, if_neg hroute]
      decide

/-- Without one, the answer is 0 or that of the video. -/
theorem ret_eq_zero (hanswers : Answers call.outcome.video) (hfails : ¬s.Fails call) :
    s.ret call = 0 := by
  have hlooked : s.Looked call := by
    by_contra h
    exact hfails (.init h)
  rw [ret_of_looked hlooked]
  by_cases hvideo : call.packet.header.isVideo
  · rw [if_pos hvideo]
    split
    next hends =>
        have hwrite : ¬call.outcome.video < 0 := fun h => hfails (.video hlooked hvideo hends h)
        -- the answer of the stream is passed on, and it is one of two
        rw [if_neg hwrite]
        refine (CRtmpStream.exists_writeData_iff.mp hanswers).resolve_right fun h => ?_
        exact hwrite (by rw [h]; decide)
    next => rfl
  · rw [if_neg hvideo]
    by_cases haudio : call.packet.header.dataType4 = DATA_TYPE_AUDIO
    · rw [if_pos haudio, if_neg fun h => hfails (.audioType hlooked haudio h)]
    · rw [if_neg haudio, if_pos]
      by_contra hroute
      exact hfails (.dataType hlooked hvideo haudio hroute)

/-- **The failure of an audio frame** is answered with 0. -/
theorem ret_of_not_heard (h : ¬s.Heard call) : s.Fails call ∧ s.ret call = 0 := by
  unfold Heard at h
  simp only [Classical.not_imp] at h
  obtain ⟨hready, haudio, htype, hends, hwrite⟩ := h
  have hlooked : s.Looked call := (tryToInit_iff_ready s call.outcome).mpr hready
  refine ⟨.audio hlooked haudio htype hends (Int.not_le.mp hwrite), ?_⟩
  rw [ret_of_looked hlooked, if_neg (not_isVideo_of_audio haudio), if_pos haudio, if_neg htype]

/-- The worker releases the client if the answer is negative. -/
theorem released_iff {t : RtmpThread} {task : Ipc.PacketMove} {deviceId : UInt64}
    {packet : Jt1078.Packet}
    (htype : RtmpThread.taskType task = Ipc.IPC_PKT_TYPE_JT1078_PACKET)
    (hsplit : RtmpThread.splitJt1078 task.memory = (deviceId, packet))
    (hstreams : t.rtmpMgr.Streams deviceId) (ret : Int) :
    ¬(t.handlerTask ret task).rtmpMgr.Streams deviceId ↔ ret < 0 := by
  obtain ⟨client, hclient⟩ :=
    Option.isSome_iff_exists.mp (RtmpMgr.getRtmpClient_isSome.mpr hstreams)
  rw [RtmpThread.handlerTask_of_jt1078 htype, hsplit, hclient]
  dsimp only
  split
  next hret =>
      refine iff_of_true (fun h => ?_) hret
      exact (RtmpMgr.streams_releaseRtmpClient.mp h).1 rfl
  next hret => exact iff_of_false (not_not_intro hstreams) hret

/-- **One call** reports what failed exactly if no audio frame is lost. -/
theorem reported_iff_heard_step (hanswers : Answers call.outcome.video) :
    s.Reported call ↔ s.Heard call := by
  constructor
  · intro hreported
    by_contra hheard
    obtain ⟨hfails, hret⟩ := ret_of_not_heard hheard
    exact absurd hret (Int.ne_of_lt (hreported.negative hfails))
  · intro hheard
    -- the worker looks at nothing but the answer
    refine ⟨fun hfails => ret_neg hfails hheard, ret_eq_zero hanswers, ?_⟩
    intro t task htype hsplit hstreams
    rw [released_iff htype hsplit hstreams]
    constructor
    · intro hret
      by_contra hfails
      exact absurd (ret_eq_zero hanswers hfails) (Int.ne_of_lt hret)
    · exact fun hfails => ret_neg hfails hheard

/-! ## §3. Every run. -/

/-- **When failures are reported.**  For every sequence of packets, and whatever
the stream answers: each call returns a negative value if the initialisation
fails, a completed video or audio frame fails to be written, or the type of the
audio or of the data is unknown, and 0 otherwise, and the worker releases the
client exactly then — as long as no completed audio frame fails to be written,
and no longer. -/
theorem reported_iff_heard (client : RtmpClient) (memory : Vector UInt8 CCodec.outBufLen)
    (calls : List Call) (hanswers : ∀ call ∈ calls, Answers call.outcome.video) :
    Runs.Along step Reported (new client memory) calls
      ↔ Runs.Along step Heard (new client memory) calls :=
  Runs.along_iff_along (R := fun _ call => Answers call.outcome.video) (J := fun _ => True)
    (fun _ _ _ hanswers => reported_iff_heard_step hanswers) (fun _ _ _ _ _ => trivial) trivial
    (Runs.along_iff_forall.mpr hanswers)

/-- A frame of one packet, and what its write is answered. -/
def oneFrame (dataType : BitVec 4) (write : Int) : Call where
  packet := bodyless { Jt1078.Header.cleared with
    dataType4 := dataType
    pt7 := 6
    subpackageHandleMark4 := RCV_ATOMIC_PACKAGE }
  outcome := { allWell with video := write, audio := write }

/-- Sound that is written, and a picture that is not. -/
theorem reported_video_failed :
    Runs.Along step Reported (new ⟨1, [114]⟩ (Vector.replicate CCodec.outBufLen 0))
      [oneFrame DATA_TYPE_AUDIO 0, oneFrame DATA_TYPE_VIDEO_I (-1)] := by
  refine (reported_iff_heard _ _ _ ?_).mpr ⟨fun _ _ _ _ => by decide, ?_, trivial⟩
  · exact List.forall_mem_cons.mpr ⟨CRtmpStream.exists_writeData_iff.mpr (Or.inl rfl),
      List.forall_mem_singleton.mpr (CRtmpStream.exists_writeData_iff.mpr (Or.inr rfl))⟩
  · exact fun _ haudio => absurd haudio (by decide)

/-- A sound that is not written: the call fails, and answers 0. -/
theorem not_reported_audio_failed :
    let call := oneFrame DATA_TYPE_AUDIO (-1)
    let start := new ⟨1, [114]⟩ (Vector.replicate CCodec.outBufLen 0)
    start.Fails call ∧ start.ret call = 0 ∧ ¬Runs.Along step Reported start [call] := by
  intro call start
  have hlost : ¬start.Heard call := fun hheard =>
    absurd (hheard (by decide +kernel) rfl (by decide) (by decide)) (by decide)
  obtain ⟨hfails, hret⟩ := ret_of_not_heard hlost
  refine ⟨hfails, hret, fun hreported => ?_⟩
  exact absurd hret (Int.ne_of_lt (hreported.1.negative hfails))

end RtmpClientState

end MultiProcessServer
