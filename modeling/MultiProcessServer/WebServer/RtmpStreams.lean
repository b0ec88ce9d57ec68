/-
  MultiProcessServer.WebServer.RtmpStreams
  ────────────────────────────────────────
  **WHAT THE WORKER OF `web_server` PUSHES**, with every client at work.

  The worker keeps a client for each channel it was told to start.  A task
  reaches the client of one channel at most, and a client whose stream fails is
  released with all it has joined.

  Main result:

    `streams_carry_their_video` :
        every client has written the video that was received for its channel
        since the task that made it, cut where a packet completed a frame, and
        holds the rest.
-/
import MultiProcessServer.WebServer.StreamFailures
import MultiProcessServer.WebServer.WorkThread

namespace MultiProcessServer

open Jt1078 (DATA_TYPE_VIDEO_I)

/-! ## §1. The video of one client. -/

namespace RtmpClientState

variable {s : RtmpClientState}

/-- The call of `WriteData` for a frame; its last packet completed it. -/
def frameWrite (frame : List Jt1078.Packet) : Option StreamWrite :=
  frame.getLast?.map fun last =>
    ⟨.video, frame.flatMap Jt1078.Packet.body, last.header.dataType4 == DATA_TYPE_VIDEO_I,
      last.header.bt8timeStamp⟩

/-- The frames the video packets are joined to. -/
def framesOf (packets : List Jt1078.Packet) : List StreamWrite :=
  (Fragments.frames bComplated packets).filterMap frameWrite

def videoWrites (s : RtmpClientState) : List StreamWrite :=
  s.writes.filter fun write => write.datatype == .video

/-- Its video packets are written, frame by frame, or joined. -/
structure Pushes (s : RtmpClientState) : Prop where
  writes : s.videoWrites = framesOf s.videoPackets
  joins : s.Joins

theorem pushes_new (client : RtmpClient) (memory : Vector UInt8 CCodec.outBufLen) :
    (new client memory).Pushes := ⟨rfl, rfl⟩

theorem Quiet.pushes {t : RtmpClientState} (h : Quiet s t) (hs : s.Pushes) : t.Pushes := by
  refine ⟨?_, h.joins hs.joins⟩
  obtain ⟨new, hwrites, hnew⟩ := h.writes
  have hnone : new.filter (fun write => write.datatype == .video) = [] := by
    rw [List.filter_eq_nil_iff]
    intro write hwrite
    rw [beq_iff_eq]
    exact hnew write hwrite
  rw [videoWrites, hwrites, List.filter_append, hnone, List.append_nil, h.packets]
  exact hs.writes

theorem framesOf_concat_of_bComplated {packets : List Jt1078.Packet} {packet : Jt1078.Packet}
    (h : bComplated packet = true) :
    framesOf (packets ++ [packet]) = framesOf packets
      ++ [⟨.video, (Fragments.pending bComplated packets ++ [packet]).flatMap Jt1078.Packet.body,
        packet.header.dataType4 == DATA_TYPE_VIDEO_I, packet.header.bt8timeStamp⟩] := by
  rw [framesOf, Fragments.frames_concat_of_ends h, List.filterMap_append,
    List.filterMap_cons, frameWrite, List.getLast?_concat]
  rfl

theorem framesOf_concat_of_not_bComplated {packets : List Jt1078.Packet} {packet : Jt1078.Packet}
    (h : bComplated packet = false) : framesOf (packets ++ [packet]) = framesOf packets := by
  rw [framesOf, Fragments.frames_concat_of_not_ends h]
  rfl

/-- **A video packet** is joined, and completes a frame or does not. -/
theorem Pushes.processVideo (hs : s.Pushes) (packet : Jt1078.Packet) (outcome : StreamOutcome) :
    (s.processVideo packet outcome).2.Pushes := by
  have hjoins : s.videoBuffer
      = (Fragments.pending bComplated s.videoPackets).flatMap Jt1078.Packet.body := hs.joins
  cases hends : bComplated packet with
  | false =>
      rw [processVideo_of_not_bComplated hends]
      refine ⟨?_, ?_⟩
      · show s.videoWrites = framesOf (s.videoPackets ++ [packet])
        rw [framesOf_concat_of_not_bComplated hends, hs.writes]
      · show s.videoBuffer ++ packet.body = _
        rw [Fragments.pending_concat_of_not_ends hends, List.flatMap_append,
          List.flatMap_singleton, hjoins]
  | true =>
      -- the frame is written and the buffer cleared, whatever comes after
      have hwritten : Pushes { s with
          videoBuffer := []
          videoPackets := s.videoPackets ++ [packet]
          writes := s.writes ++ [⟨.video, s.videoBuffer ++ packet.body,
            packet.header.dataType4 == DATA_TYPE_VIDEO_I, packet.header.bt8timeStamp⟩] } := by
        refine ⟨?_, ?_⟩
        · show (s.writes ++ [_]).filter _ = framesOf (s.videoPackets ++ [packet])
          rw [List.filter_append, framesOf_concat_of_bComplated hends, ← hs.writes,
            List.flatMap_append, List.flatMap_singleton, ← hjoins]
          rfl
        · show [] = _
          rw [Fragments.pending_concat_of_ends hends]
          rfl
      rw [RtmpClientState.processVideo, if_pos hends]
      dsimp only [processVideoData, writeData]
      split
      next => exact hwritten
      next =>
          split
          next => exact (quiet_addFakeAudioPcm _ packet outcome).pushes hwritten
          next => exact hwritten

/-- **Every packet** keeps it, whatever the stream answers. -/
theorem Pushes.step (hs : s.Pushes) (call : Call) : (s.step call).Pushes := by
  by_cases htaken : s.Looked call ∧ call.packet.header.isVideo
  · rw [step_of_looked htaken.1 htaken.2]
    exact ((quiet_tryToInitRtmpStream s call.outcome).pushes hs).processVideo call.packet
      call.outcome
  · exact (quiet_step htaken).pushes hs

/-- A packet that does not fail is not passed over. -/
theorem videoPackets_step {call : Call} (h : ¬s.ret call < 0) :
    (s.step call).videoPackets
      = s.videoPackets ++ if call.packet.header.isVideo then [call.packet] else [] := by
  have hlooked : s.Looked call := by
    by_contra hlooked
    rw [ret_of_not_looked hlooked] at h
    exact h (by decide)
  have hinit := quiet_tryToInitRtmpStream s call.outcome
  by_cases hvideo : call.packet.header.isVideo
  · rw [if_pos hvideo, step_of_looked hlooked hvideo]
    cases hends : bComplated call.packet with
    | false =>
        rw [processVideo_of_not_bComplated hends, ← hinit.packets]
    | true =>
        obtain ⟨write, -, -, hquiet⟩ := processVideo_of_bComplated hends
          (s.tryToInitRtmpStream call.outcome).2 call.outcome
        rw [hquiet.packets, ← hinit.packets]
  · rw [if_neg hvideo, List.append_nil]
    exact (quiet_step fun htaken => hvideo htaken.2).packets

/-- The frames that are written have all the bodies. -/
theorem flatMap_filterMap_frameWrite (frames : List (List Jt1078.Packet))
    (hne : ∀ frame ∈ frames, frame ≠ []) :
    (frames.filterMap frameWrite).flatMap StreamWrite.data
      = frames.flatten.flatMap Jt1078.Packet.body := by
  induction frames with
  | nil => rfl
  | cons frame frames ih =>
      rcases List.eq_nil_or_concat frame with rfl | ⟨init, last, rfl⟩
      · exact absurd rfl (hne [] List.mem_cons_self)
      · have hlast : frameWrite (init ++ [last])
            = some ⟨.video, (init ++ [last]).flatMap Jt1078.Packet.body,
              last.header.dataType4 == DATA_TYPE_VIDEO_I, last.header.bt8timeStamp⟩ := by
          rw [frameWrite, List.getLast?_concat]
          rfl
        rw [List.concat_eq_append, List.flatten_cons, List.flatMap_append,
          ← ih fun other hother => hne other (List.mem_cons_of_mem _ hother),
          List.filterMap_cons, hlast]
        rfl

/-- **No byte of the video is lost**: what was written and what is joined are
the bodies of the packets. -/
theorem Pushes.bytes (hs : s.Pushes) :
    s.videoWrites.flatMap StreamWrite.data ++ s.videoBuffer
      = s.videoPackets.flatMap Jt1078.Packet.body := by
  have hjoins : s.videoBuffer
      = (Fragments.pending bComplated s.videoPackets).flatMap Jt1078.Packet.body := hs.joins
  rw [hs.writes, framesOf, flatMap_filterMap_frameWrite _ fun _ => Fragments.ne_nil_of_mem_frames,
    hjoins, ← List.flatMap_append, Fragments.flatten_frames]

end RtmpClientState

/-! ## §2. The worker, with its clients at work. -/

/-- `class RtmpThread`, its clients in `RtmpMgr` at work. -/
structure RtmpWorker where
  mapClient : Std.TreeMap UInt64 RtmpClientState
  rtmpUrlPrefix : List UInt8

namespace RtmpWorker

/-- What is found while a task is handled: the memory of a new client's decoder,
and what the stream answers. -/
structure Outcome where
  memory : Vector UInt8 CCodec.outBufLen
  stream : StreamOutcome

variable (w : RtmpWorker)

def getRtmpClient (deviceId : UInt64) : Option RtmpClientState := w.mapClient[deviceId]?

def createRtmpClient (memory : Vector UInt8 CCodec.outBufLen) (deviceId : UInt64) : RtmpWorker :=
  if w.mapClient.contains deviceId then w
  else { w with
    mapClient := w.mapClient.insert deviceId (.new ⟨deviceId, w.rtmpUrlPrefix⟩ memory) }

def releaseRtmpClient (deviceId : UInt64) : RtmpWorker :=
  { w with mapClient := w.mapClient.erase deviceId }

/-- `HandlerTask`. -/
def handlerTask (outcome : Outcome) (task : Ipc.PacketMove) : RtmpWorker :=
  if RtmpThread.taskType task = Ipc.IPC_PKT_TYPE_SUBSCRIBE_DEVICE_ID then
    w.createRtmpClient outcome.memory (generateDeviceIdByBuffer task.data)
  else if RtmpThread.taskType task = Ipc.IPC_PKT_TYPE_UNSUBSCRIBE_DEVICE_ID then
    w.releaseRtmpClient (generateDeviceIdByBuffer task.data)
  else if RtmpThread.taskType task = Ipc.IPC_PKT_TYPE_JT1078_PACKET then
    let (deviceId, packet) := RtmpThread.splitJt1078 task.memory
    match w.getRtmpClient deviceId with
    | none => w
    | some client =>
        let (ret, client) := client.processJt1078Packet packet outcome.stream
        let w := { w with mapClient := w.mapClient.insert deviceId client }
        if ret < 0 then w.releaseRtmpClient deviceId else w
  else w

/-- What `ProcessJt1078Packet` answers, if it is called. -/
def ret (outcome : Outcome) (task : Ipc.PacketMove) : Int :=
  let (deviceId, packet) := RtmpThread.splitJt1078 task.memory
  match w.getRtmpClient deviceId with
  | none => 0
  | some client => (client.processJt1078Packet packet outcome.stream).1

/-- What a task is for the client of a channel. -/
inductive Order
  | start
  | stop
  | packet (packet : Jt1078.Packet)
  | other
  deriving DecidableEq

def orderFor (d : UInt64) (task : Ipc.PacketMove) : Order :=
  if RtmpThread.taskType task = Ipc.IPC_PKT_TYPE_SUBSCRIBE_DEVICE_ID then
    if generateDeviceIdByBuffer task.data = d then .start else .other
  else if RtmpThread.taskType task = Ipc.IPC_PKT_TYPE_UNSUBSCRIBE_DEVICE_ID then
    if generateDeviceIdByBuffer task.data = d then .stop else .other
  else if RtmpThread.taskType task = Ipc.IPC_PKT_TYPE_JT1078_PACKET then
    let (deviceId, packet) := RtmpThread.splitJt1078 task.memory
    if deviceId = d then .packet packet else .other
  else .other

/-- What becomes of the client of a channel. -/
def obey (client : RtmpClient) (outcome : Outcome) :
    Option RtmpClientState → Order → Option RtmpClientState
  | none, .start => some (.new client outcome.memory)
  | some c, .start => some c
  | _, .stop => none
  | none, .packet _ => none
  | some c, .packet packet =>
      let (ret, c) := c.processJt1078Packet packet outcome.stream
      if ret < 0 then none else some c
  | c, .other => c

variable {w} {d deviceId : UInt64} {outcome : Outcome} {task : Ipc.PacketMove}

/-! ### A task reaches the client of one channel. -/

theorem getRtmpClient_insert (c : RtmpClientState) :
    { w with mapClient := w.mapClient.insert deviceId c }.getRtmpClient d
      = if deviceId = d then some c else w.getRtmpClient d := by
  unfold getRtmpClient
  rw [Std.TreeMap.getElem?_insert]
  simp only [Std.LawfulEqOrd.compare_eq_iff_eq]

theorem getRtmpClient_releaseRtmpClient :
    (w.releaseRtmpClient deviceId).getRtmpClient d
      = if deviceId = d then none else w.getRtmpClient d := by
  unfold getRtmpClient releaseRtmpClient
  rw [Std.TreeMap.getElem?_erase]
  simp only [Std.LawfulEqOrd.compare_eq_iff_eq]

theorem getRtmpClient_createRtmpClient (memory : Vector UInt8 CCodec.outBufLen) :
    (w.createRtmpClient memory deviceId).getRtmpClient d
      = if deviceId = d then
          some ((w.getRtmpClient d).getD (.new ⟨d, w.rtmpUrlPrefix⟩ memory))
        else w.getRtmpClient d := by
  unfold createRtmpClient
  cases hclient : w.mapClient[deviceId]? with
  | some c =>
      have hcontains : w.mapClient.contains deviceId = true := by
        rw [Std.TreeMap.contains_eq_isSome_getElem?, hclient]
        rfl
      rw [if_pos hcontains]
      split
      next heq =>
          subst heq
          unfold getRtmpClient
          rw [hclient]
          rfl
      next => rfl
  | none =>
      have hcontains : ¬w.mapClient.contains deviceId = true := by
        rw [Std.TreeMap.contains_eq_isSome_getElem?, hclient]
        decide
      rw [if_neg hcontains, getRtmpClient_insert]
      split
      next heq =>
          subst heq
          unfold getRtmpClient
          rw [hclient]
          rfl
      next => rfl

/-- **The streams are separate**: the client of a channel becomes what the task
is for it, and for no other. -/
theorem getRtmpClient_handlerTask (w : RtmpWorker) (outcome : Outcome) (task : Ipc.PacketMove)
    (d : UInt64) :
    (w.handlerTask outcome task).getRtmpClient d
      = obey ⟨d, w.rtmpUrlPrefix⟩ outcome (w.getRtmpClient d) (orderFor d task) := by
  unfold handlerTask orderFor
  split
  next =>
      rw [getRtmpClient_createRtmpClient]
      split
      next => cases w.getRtmpClient d <;> rfl
      next => cases w.getRtmpClient d <;> rfl
  next =>
      split
      next =>
          rw [getRtmpClient_releaseRtmpClient]
          split
          next => cases w.getRtmpClient d <;> rfl
          next => cases w.getRtmpClient d <;> rfl
      next =>
          split
          next =>
              dsimp only
              by_cases hd : (RtmpThread.splitJt1078 task.memory).1 = d
              · rw [if_pos hd, hd]
                cases hclient : w.getRtmpClient d with
                | none => exact hclient
                | some c =>
                    dsimp only [obey]
                    split
                    next =>
                        rw [getRtmpClient_releaseRtmpClient, if_pos rfl]
                    next =>
                        rw [getRtmpClient_insert, if_pos rfl]
              · rw [if_neg hd]
                have hother : obey ⟨d, w.rtmpUrlPrefix⟩ outcome (w.getRtmpClient d) .other
                    = w.getRtmpClient d := by
                  cases w.getRtmpClient d <;> rfl
                rw [hother]
                cases hclient : w.getRtmpClient (RtmpThread.splitJt1078 task.memory).1 with
                | none => rfl
                | some c =>
                    dsimp only
                    split
                    next =>
                        rw [getRtmpClient_releaseRtmpClient, if_neg hd, getRtmpClient_insert,
                          if_neg hd]
                    next => rw [getRtmpClient_insert, if_neg hd]
          next => cases w.getRtmpClient d <;> rfl

/-- There are clients for the same channels. -/
def Agrees (w : RtmpWorker) (t : RtmpThread) : Prop :=
  ∀ d, t.rtmpMgr.Streams d ↔ (w.getRtmpClient d).isSome = true

theorem ret_of_client {c : RtmpClientState}
    (hc : w.getRtmpClient (RtmpThread.splitJt1078 task.memory).1 = some c) (outcome : Outcome) :
    w.ret outcome task
      = (c.processJt1078Packet (RtmpThread.splitJt1078 task.memory).2 outcome.stream).1 := by
  unfold ret
  dsimp only
  rw [hc]

theorem isSome_obey_packet (client : RtmpClient) (c : Option RtmpClientState)
    (packet : Jt1078.Packet) :
    (obey client outcome c (.packet packet)).isSome = true
      ↔ ∃ c₀, c = some c₀ ∧ ¬(c₀.processJt1078Packet packet outcome.stream).1 < 0 := by
  cases c with
  | none => exact iff_of_false nofun (by rintro ⟨_, h, -⟩; cases h)
  | some c =>
      dsimp only [obey]
      split
      next hret =>
          refine iff_of_false nofun ?_
          rintro ⟨c₀, heq, hnot⟩
          cases heq
          exact hnot hret
      next hret => exact iff_of_true rfl ⟨c, rfl, hret⟩

/-- A JT1078 packet. -/
theorem Agrees.packet {t : RtmpThread} (h : w.Agrees t) (outcome : Outcome)
    (htype : RtmpThread.taskType task = Ipc.IPC_PKT_TYPE_JT1078_PACKET) :
    (w.handlerTask outcome task).Agrees (t.handlerTask (w.ret outcome task) task) := by
  intro d
  have horder : orderFor d task = if (RtmpThread.splitJt1078 task.memory).1 = d then
      .packet (RtmpThread.splitJt1078 task.memory).2 else .other := by
    unfold orderFor
    rw [htype, if_neg (by decide), if_neg (by decide), if_pos rfl]
  rw [getRtmpClient_handlerTask, horder]
  by_cases heq : (RtmpThread.splitJt1078 task.memory).1 = d
  · rw [if_pos heq, isSome_obey_packet]
    rcases t.streams_handlerTask_packet (w.ret outcome task) htype with
      ⟨hfails, hs⟩ | ⟨hnot, hs⟩
    · -- the stream fails, and its client is released on both sides
      rw [hs d]
      refine iff_of_false (fun hd => hd.1 heq.symm) ?_
      rintro ⟨c, hc, hret⟩
      rw [← heq] at hc
      rw [← ret_of_client hc] at hret
      exact hret hfails.2.2
    · rw [hs d, h d]
      constructor
      · intro hsome
        obtain ⟨c, hc⟩ := Option.isSome_iff_exists.mp hsome
        refine ⟨c, hc, fun hret => hnot ⟨htype, ?_, ?_⟩⟩
        · rw [heq, h d, hc]
          rfl
        · rw [← heq] at hc
          rwa [ret_of_client hc]
      · rintro ⟨c, hc, -⟩
        rw [hc]
        rfl
  · have hother : obey ⟨d, w.rtmpUrlPrefix⟩ outcome (w.getRtmpClient d) .other
        = w.getRtmpClient d := by
      cases w.getRtmpClient d <;> rfl
    rw [if_neg heq, hother]
    rcases t.streams_handlerTask_packet (w.ret outcome task) htype with
      ⟨-, hs⟩ | ⟨-, hs⟩
    · exact (hs d).trans ((and_iff_right fun hne => heq hne.symm).trans (h d))
    · exact (hs d).trans (h d)

/-- **The clients come and go as in `RtmpThread`**, given what the call of
`ProcessJt1078Packet` answers. -/
theorem Agrees.handlerTask {t : RtmpThread} (h : w.Agrees t) (outcome : Outcome)
    (task : Ipc.PacketMove) :
    (w.handlerTask outcome task).Agrees (t.handlerTask (w.ret outcome task) task) := by
  by_cases htype : RtmpThread.taskType task = Ipc.IPC_PKT_TYPE_JT1078_PACKET
  · exact h.packet outcome htype
  · intro d
    have hd := h d
    rw [getRtmpClient_handlerTask]
    unfold RtmpThread.handlerTask orderFor
    split
    next =>
        rw [RtmpMgr.streams_createRtmpClient, hd, @eq_comm _ d]
        split
        next heq => cases w.getRtmpClient d <;> simp [obey, heq]
        next hne => cases w.getRtmpClient d <;> simp [obey, hne]
    next =>
        split
        next =>
            rw [RtmpMgr.streams_releaseRtmpClient, hd, ne_eq, @eq_comm _ d]
            split
            next heq => cases w.getRtmpClient d <;> simp [obey, heq]
            next hne => cases w.getRtmpClient d <;> simp [obey, hne]
        next =>
            refine hd.trans ?_
            cases w.getRtmpClient d <;> rfl

/-! ## §3. The life of a client. -/

/-- The packet of video a task has for a channel. -/
def videoFor (d : UInt64) (task : Ipc.PacketMove) : Option Jt1078.Packet :=
  match orderFor d task with
  | .packet packet => if packet.header.isVideo then some packet else none
  | _ => none

/-- **A client that stays** gets the video of the task. -/
theorem obey_stays {client : RtmpClient} {c c' : RtmpClientState}
    (h : obey client outcome (some c) (orderFor d task) = some c') :
    orderFor d task ≠ .stop ∧ c'.videoPackets = c.videoPackets ++ (videoFor d task).toList
      ∧ (c.Pushes → c'.Pushes) := by
  unfold videoFor
  cases horder : orderFor d task with
  | start | other =>
      rw [horder] at h
      cases h
      exact ⟨nofun, (List.append_nil _).symm, id⟩
  | stop =>
      rw [horder] at h
      cases h
  | packet packet =>
      rw [horder] at h
      dsimp only [obey] at h
      split at h
      next => cases h
      next hret =>
          cases h
          have hvideo : (c.step ⟨packet, outcome.stream⟩).videoPackets
              = c.videoPackets ++ if packet.header.isVideo then [packet] else [] :=
            RtmpClientState.videoPackets_step hret
          refine ⟨nofun, hvideo.trans (congrArg _ ?_), fun hc => hc.step ⟨packet, outcome.stream⟩⟩
          dsimp only
          split <;> rfl

/-- Of the tasks, `start` made the client, and it had the video since. -/
structure Since (d : UInt64) (tasks : List Ipc.PacketMove) (c : RtmpClientState) : Prop where
  pushes : c.Pushes
  split : ∃ before start since, tasks = before ++ start :: since ∧ orderFor d start = .start
    ∧ (∀ task ∈ since, orderFor d task ≠ .stop)
    ∧ c.videoPackets = since.filterMap (videoFor d)

/-- Every client has such a life. -/
def Lives (w : RtmpWorker) (tasks : List Ipc.PacketMove) : Prop :=
  ∀ d c, w.getRtmpClient d = some c → Since d tasks c

/-- **One task** is the start of a client's life, or a part of it. -/
theorem Lives.handlerTask {tasks : List Ipc.PacketMove} (h : w.Lives tasks) (outcome : Outcome)
    (task : Ipc.PacketMove) : (w.handlerTask outcome task).Lives (tasks ++ [task]) := by
  intro d c hc
  rw [getRtmpClient_handlerTask] at hc
  cases hclient : w.getRtmpClient d with
  | none =>
      rw [hclient] at hc
      cases horder : orderFor d task with
      | start =>
          rw [horder] at hc
          cases hc
          exact ⟨RtmpClientState.pushes_new _ _, tasks, task, [], rfl, horder,
            fun _ hmem => absurd hmem List.not_mem_nil, rfl⟩
      | stop | packet packet | other =>
          rw [horder] at hc
          cases hc
  | some c₀ =>
      rw [hclient] at hc
      obtain ⟨hstop, hvideo, hpushes⟩ := obey_stays hc
      have hbefore := h d c₀ hclient
      obtain ⟨before, start, since, rfl, hstart, hsince, hpackets⟩ := hbefore.split
      refine ⟨hpushes hbefore.pushes, before, start, since ++ [task], ?_, hstart, ?_, ?_⟩
      · rw [List.append_assoc, List.cons_append]
      · exact List.forall_mem_append.mpr ⟨hsince, List.forall_mem_singleton.mpr hstop⟩
      · rw [hvideo, hpackets, List.filterMap_append, List.filterMap_cons, List.filterMap_nil]
        cases videoFor d task <;> rfl

end RtmpWorker

/-! ## §4. What the main thread posts. -/

/-- The task is a JT1078 packet. -/
def RtmpThread.isJt1078 (task : Ipc.PacketMove) : Bool :=
  taskType task == Ipc.IPC_PKT_TYPE_JT1078_PACKET

namespace WebServer

/-- The packet the event is the arrival of, and what is found behind it. -/
def Event.received : Event → List (Ipc.Packet × List UInt8)
  | .clientMessage packet behind => [(packet, behind)]
  | _ => []

/-- Received packets, as they are posted. -/
def forwarded (packets : List (Ipc.Packet × List UInt8)) : List Ipc.PacketMove :=
  (packets.filter fun p => p.1.type == Ipc.IPC_PKT_TYPE_JT1078_PACKET).map fun p =>
    .copyFrom p.1 p.2

/-- Between `w` and `v` no JT1078 packet was posted. -/
def PostsNoPacket (w v : WebServer) : Prop :=
  ∃ tasks, v.rtmpThread = w.rtmpThread ++ tasks ∧ tasks.filter RtmpThread.isJt1078 = []

variable {w v : WebServer}

theorem postsNoPacket_of_same (h : v.rtmpThread = w.rtmpThread) : PostsNoPacket w v :=
  ⟨[], by rw [h, List.append_nil], rfl⟩

theorem PostsNoPacket.congr {w' v' : WebServer} (h : PostsNoPacket w v)
    (hw : w'.rtmpThread = w.rtmpThread) (hv : v'.rtmpThread = v.rtmpThread) :
    PostsNoPacket w' v' := by
  unfold PostsNoPacket
  rw [hw, hv]
  exact h

theorem filter_initIpcMovePacket {uPktType : UInt32}
    (h : (uPktType &&& Ipc.IPC_PKT_TYPE_MASK == Ipc.IPC_PKT_TYPE_JT1078_PACKET) = false)
    (data : List UInt8) :
    [initIpcMovePacket uPktType data].filter RtmpThread.isJt1078 = [] := by
  rw [List.filter_cons, show RtmpThread.isJt1078 (initIpcMovePacket uPktType data) = false from h]
  rfl

theorem postsNoPacket_notifyStart (str : List UInt8) : PostsNoPacket w (w.notifyStart str) := by
  unfold notifyStart
  dsimp only
  split
  next => exact postsNoPacket_of_same rfl
  next =>
      exact ⟨[_], congrArg (· ++ _) (rtmpThread_sendPacketIfConnected _ _),
        filter_initIpcMovePacket (by decide) str⟩

theorem postsNoPacket_notifyStop (str : List UInt8) : PostsNoPacket w (w.notifyStop str) :=
  ⟨[_], congrArg (· ++ _) (rtmpThread_sendPacketIfConnected _ _),
    filter_initIpcMovePacket (by decide) str⟩

theorem postsNoPacket_sessionStop (strStream strClientId : List UInt8) :
    PostsNoPacket w (w.sessionStop strStream strClientId) := by
  unfold sessionStop
  dsimp only
  split
  · have hstop := @postsNoPacket_notifyStop { w with sessionStat :=
        ((w.sessionStat.delClientId strStream strClientId).emptyClientId strStream).2 } strStream
    exact hstop.congr rfl rfl
  · exact postsNoPacket_of_same rfl

theorem postsNoPacket_sessionPlay (strStream strClientId : List UInt8) :
    PostsNoPacket w (w.sessionPlay strStream strClientId) := by
  unfold sessionPlay
  dsimp only
  split
  · have hstart := @postsNoPacket_notifyStart
      { w with sessionStat := (w.sessionStat.emptyClientId strStream).2 } strStream
    exact hstart.congr rfl rfl
  · exact postsNoPacket_of_same rfl

theorem PostsNoPacket.posts (h : PostsNoPacket w v) :
    ∃ tasks, v.rtmpThread = w.rtmpThread ++ tasks
      ∧ tasks.filter RtmpThread.isJt1078 = forwarded [] := h

/-- **Every event posts what it receives**, and its own requests. -/
theorem posts_step (w : WebServer) (e : Event) :
    ∃ tasks, (w.step e).rtmpThread = w.rtmpThread ++ tasks
      ∧ tasks.filter RtmpThread.isJt1078 = forwarded e.received := by
  cases e with
  | webOnPlay str =>
      cases str with
      | none => exact (postsNoPacket_of_same rfl).posts
      | some str =>
          simp only [step, webOnPlay]
          split
          · exact (postsNoPacket_of_same rfl).posts
          · exact (postsNoPacket_notifyStart str).posts
  | srsOnSession fields =>
      cases fields with
      | none => exact (postsNoPacket_of_same rfl).posts
      | some j =>
          simp only [step]
          obtain ⟨-, -, heq⟩ | ⟨-, -, heq⟩ | ⟨-, heq⟩ := w.srsOnSession_cases j
          · rw [heq]
            exact (postsNoPacket_sessionStop j.strStream j.strClientId).posts
          · rw [heq]
            exact (postsNoPacket_sessionPlay j.strStream j.strClientId).posts
          · rw [heq]
            exact (postsNoPacket_of_same rfl).posts
  | clientConnect bOk => cases bOk <;> exact (postsNoPacket_of_same rfl).posts
  | clientCleared => exact (postsNoPacket_of_same rfl).posts
  | clientMessage packet behind =>
      refine ⟨_, WorkThread.rtmpThread_onClientMessage w packet behind, ?_⟩
      -- the type of the packet is the type of the task
      have htask : RtmpThread.isJt1078 (.copyFrom packet behind)
          = (packet.type == Ipc.IPC_PKT_TYPE_JT1078_PACKET) := rfl
      rw [Event.received, forwarded, List.filter_cons]
      split
      next htype => simp [htask, htype]
      next htype => simp [htype]
  | clientError => exact (postsNoPacket_of_same rfl).posts
  | connectTimer result =>
      exact (postsNoPacket_of_same (WorkThread.rtmpThread_asyncConnectServer _ _)).posts
  | heartbeatTimer => exact (postsNoPacket_of_same (rtmpThread_sendPacketIfConnected _ _)).posts

theorem forwarded_append (packets later : List (Ipc.Packet × List UInt8)) :
    forwarded (packets ++ later) = forwarded packets ++ forwarded later := by
  rw [forwarded, List.filter_append, List.map_append]
  rfl

end WebServer

/-! ## §5. Both threads. -/

/-- The two threads of `web_server`; `received` are the packets handed to
`OnClientMessage`, each with what `HandlerTask` finds behind it. -/
structure PushThreads where
  work : WorkThread
  worker : RtmpWorker
  received : List (Ipc.Packet × List UInt8)

namespace PushThreads

open RtmpWorker (Outcome)

def init (rtmpUrlPrefix : List UInt8) (result : Option ConnectResult) : PushThreads where
  work := .init rtmpUrlPrefix result
  worker := ⟨∅, rtmpUrlPrefix⟩
  received := []

inductive Event
  /-- An event of the main thread, which waits in `PushBack` or takes it. -/
  | web (e : WebServer.Event)
  /-- The main thread calls `Stop`. -/
  | stop
  | pushBack
  | popFront
  /-- The worker handles the task it took. -/
  | handlerTask (outcome : Outcome)

variable (s : PushThreads)

def web (e : WebServer.Event) : PushThreads :=
  { s with
    work := s.work.step (.threads (.web e))
    received := s.received ++ if s.work.threads.web.rtmpThread.isEmpty then e.received else [] }

def handlerTask (outcome : Outcome) : PushThreads :=
  match s.work.threads.task with
  | none => s
  | some task => { s with
      work := s.work.step (.threads (.handlerTask (s.worker.ret outcome task.val)))
      worker := s.worker.handlerTask outcome task.val }

def step : Event → PushThreads
  | .web e => s.web e
  | .stop => { s with work := s.work.stop }
  | .pushBack => { s with work := s.work.step (.threads .pushBack) }
  | .popFront => { s with work := s.work.step (.threads .popFront) }
  | .handlerTask outcome => s.handlerTask outcome

/-- All tasks that were posted, the ones from `Stop` on behind the others. -/
def tasks : List Ipc.PacketMove := s.work.posted ++ s.work.later

/-- The tasks that were not handled, the one the worker left on in front. -/
def waiting : List Ipc.PacketMove := s.work.leftOn.toList ++ s.work.pending

/-- What holds of the threads. -/
structure Inv (s : PushThreads) : Prop where
  work : s.work.Inv
  agrees : s.worker.Agrees s.work.threads.worker
  lives : s.worker.Lives s.work.handled
  posts : s.tasks.filter RtmpThread.isJt1078 = WebServer.forwarded s.received

variable {s}

theorem inv_init (rtmpUrlPrefix : List UInt8) (result : Option ConnectResult) :
    (init rtmpUrlPrefix result).Inv where
  work := WorkThread.inv_init rtmpUrlPrefix result
  agrees := fun d => by
    refine iff_of_false ?_ ?_
    · exact Std.TreeMap.not_mem_emptyc
    · rw [RtmpWorker.getRtmpClient]
      show ¬((∅ : Std.TreeMap UInt64 RtmpClientState)[d]?).isSome = true
      rw [Std.TreeMap.getElem?_emptyc]
      decide
  lives := fun d c hc => by
    have hnone : (∅ : Std.TreeMap UInt64 RtmpClientState)[d]? = some c := hc
    rw [Std.TreeMap.getElem?_emptyc] at hnone
    cases hnone
  posts := rfl

theorem worker_popFront (t : WebThreads) : t.popFront.worker = t.worker := by
  unfold WebThreads.popFront
  split
  next =>
      split
      next => rfl
      next => split <;> rfl
  next => rfl

/-- The worker's half is what the event leaves alone. -/
theorem Inv.of_main {work : WorkThread} {received : List (Ipc.Packet × List UInt8)}
    (h : s.Inv)
    (hwork : work.Inv) (hworker : work.threads.worker = s.work.threads.worker)
    (hhandled : work.handled = s.work.handled)
    (hposts : (work.posted ++ work.later).filter RtmpThread.isJt1078
      = WebServer.forwarded received) :
    Inv { s with work := work, received := received } := by
  refine ⟨hwork, ?_, ?_, hposts⟩
  · show s.worker.Agrees work.threads.worker
    rw [hworker]
    exact h.agrees
  · show s.worker.Lives work.handled
    rw [hhandled]
    exact h.lives

theorem Inv.web (h : s.Inv) (e : WebServer.Event) : (s.web e).Inv := by
  have hwork := h.work.step (.threads (.web e))
  unfold PushThreads.web
  by_cases hidle : s.work.threads.web.rtmpThread = []
  · obtain ⟨hthreads, hhandled, -, hposted, hlater⟩ :=
      WorkThread.onMain_eq (f := fun w => w.step e) hidle
    rw [if_pos (List.isEmpty_iff.mpr hidle)]
    refine h.of_main hwork ?_ hhandled ?_
    · show (s.work.onMain _).threads.worker = _
      rw [hthreads]
    · show ((s.work.onMain _).posted ++ (s.work.onMain _).later).filter _ = _
      obtain ⟨tasks, htasks, hfilter⟩ := WebServer.posts_step s.work.threads.web e
      rw [hidle, List.nil_append] at htasks
      have hsplit : (s.work.onMain fun w => w.step e).posted
          ++ (s.work.onMain fun w => w.step e).later = s.tasks ++ tasks := by
        rw [hposted, hlater, htasks, PushThreads.tasks]
        split
        next hnone => rw [hnone, List.append_nil, List.append_nil]
        next => rw [List.append_assoc]
      rw [hsplit, List.filter_append, h.posts, hfilter, WebServer.forwarded_append]
  · have hsame : s.work.step (.threads (.web e)) = s.work := by
      show s.work.onMain _ = s.work
      unfold WorkThread.onMain
      rw [if_neg fun hempty => hidle (List.isEmpty_iff.mp hempty)]
    rw [hsame, if_neg (fun hempty => hidle (List.isEmpty_iff.mp hempty)), List.append_nil]
    exact h

theorem Inv.stop (h : s.Inv) : Inv { s with work := s.work.stop } := by
  have hwork := h.work.stop
  refine h.of_main hwork ?_ ?_ ?_
  · unfold WorkThread.stop WebThreads.onMain
    split
    next => rfl
    next => rfl
  · unfold WorkThread.stop
    split <;> rfl
  · -- the terminate task is no packet
    unfold WorkThread.stop
    split
    next =>
        show (s.work.posted ++ (s.work.later ++ [_])).filter _ = _
        rw [← List.append_assoc, List.filter_append]
        exact (List.append_nil _).trans h.posts
    next => exact h.posts

theorem Inv.handlerTask (h : s.Inv) (outcome : Outcome) : (s.handlerTask outcome).Inv := by
  unfold PushThreads.handlerTask
  cases htask : s.work.threads.task with
  | none => exact h
  | some task =>
      have hstep : s.work.step (.threads (.handlerTask (s.worker.ret outcome task.val)))
          = { s.work with
            threads := { s.work.threads with
              worker := s.work.threads.worker.handlerTask (s.worker.ret outcome task.val) task.val
              task := none }
            handled := s.work.handled ++ [task.val] } := by
        show s.work.handlerTask _ = _
        unfold WorkThread.handlerTask WebThreads.handlerTask
        rw [htask]
        rfl
      have hwork := h.work.step (.threads (.handlerTask (s.worker.ret outcome task.val)))
      dsimp only
      rw [hstep] at hwork ⊢
      exact ⟨hwork, h.agrees.handlerTask outcome task.val, h.lives.handlerTask outcome task.val,
        h.posts⟩

/-- **Every event keeps it.** -/
theorem Inv.step (h : s.Inv) (e : Event) : (s.step e).Inv := by
  cases e with
  | web e => exact h.web e
  | stop => exact h.stop
  | pushBack =>
      obtain ⟨queue, rest, heq, -⟩ := WorkThread.pushBack_eq h.work
      refine h.of_main (h.work.step (.threads .pushBack)) ?_ rfl h.posts
      show s.work.threads.pushBack.worker = _
      rw [heq]
  | popFront =>
      refine h.of_main (h.work.step (.threads .popFront)) ?_ rfl h.posts
      exact worker_popFront s.work.threads
  | handlerTask outcome => exact h.handlerTask outcome

end PushThreads

end MultiProcessServer
