/-
  MultiProcessServer.WebServer.RtmpFollows
  ────────────────────────────────────────
  **THE STREAMS OF THE WORKER AND THE CHANNELS OF THE MAIN THREAD.**

  `NotifyStart` and `NotifyStop` change `DeviceIdMgr` and post the change; the
  worker makes it in `RtmpMgr`.  A stream that fails is dropped by the worker
  alone, and `NotifyStart` posts nothing for a channel that is in use, so a
  failure that no posted change follows is never made up for.

    `follows_step_iff`                : what each step does to the agreement,
    `streams_follow_devices`          : the runs in which it holds throughout,
    `lost_until_stopped`              : what a failure leaves behind.
-/
import MultiProcessServer.Lib.Replica
import MultiProcessServer.WebServer.RtmpThread
import MultiProcessServer.WebServer.Viewers

namespace MultiProcessServer

open Replica (Edit Follows)

/-! ## §1. What a task changes. -/

namespace RtmpThread

/-- The change of the streams a task stands for.  A task that ends the thread
is not handled. -/
def edit (task : Ipc.PacketMove) : Edit UInt64 :=
  if isTerminateTask task then .other
  else if taskType task = Ipc.IPC_PKT_TYPE_SUBSCRIBE_DEVICE_ID then
    .add (generateDeviceIdByBuffer task.data)
  else if taskType task = Ipc.IPC_PKT_TYPE_UNSUBSCRIBE_DEVICE_ID then
    .del (generateDeviceIdByBuffer task.data)
  else .other

variable {t : RtmpThread} {ret : Int} {task : Ipc.PacketMove} {d : UInt64}

/-- The task makes `ProcessJt1078Packet` fail on the stream of its channel. -/
def Fails (t : RtmpThread) (ret : Int) (task : Ipc.PacketMove) : Prop :=
  taskType task = Ipc.IPC_PKT_TYPE_JT1078_PACKET
    ∧ t.rtmpMgr.Streams (splitJt1078 task.memory).1 ∧ ret < 0

instance : Decidable (t.Fails ret task) := inferInstanceAs (Decidable (_ ∧ _ ∧ _))

theorem not_fails_of_type (htype : taskType task ≠ Ipc.IPC_PKT_TYPE_JT1078_PACKET) :
    ¬t.Fails ret task := by
  intro hfails
  exact htype hfails.1

/-- A JT1078 packet changes nothing, unless its stream fails. -/
theorem streams_handlerTask_packet (t : RtmpThread) (ret : Int)
    (htype : taskType task = Ipc.IPC_PKT_TYPE_JT1078_PACKET) :
    (t.Fails ret task
        ∧ ∀ d, (t.handlerTask ret task).rtmpMgr.Streams d
            ↔ d ≠ (splitJt1078 task.memory).1 ∧ t.rtmpMgr.Streams d)
      ∨ ¬t.Fails ret task
        ∧ ∀ d, (t.handlerTask ret task).rtmpMgr.Streams d ↔ t.rtmpMgr.Streams d := by
  rw [handlerTask_of_jt1078 htype]
  cases hclient : t.rtmpMgr.getRtmpClient (splitJt1078 task.memory).1 with
  | none =>
      -- nobody watches the channel, so the packet is dropped
      refine Or.inr ⟨?_, fun d => Iff.rfl⟩
      intro hfails
      have hin := RtmpMgr.getRtmpClient_isSome.mpr hfails.2.1
      rw [hclient] at hin
      exact Bool.false_ne_true hin
  | some client =>
      have hin : t.rtmpMgr.Streams (splitJt1078 task.memory).1 := by
        rw [← RtmpMgr.getRtmpClient_isSome, hclient]
        rfl
      by_cases hret : ret < 0
      · -- the stream is released, and nobody else is told
        refine Or.inl ⟨⟨htype, hin, hret⟩, ?_⟩
        intro d
        dsimp only
        rw [if_pos hret]
        exact RtmpMgr.streams_releaseRtmpClient
      · refine Or.inr ⟨fun hfails => hret hfails.2.2, ?_⟩
        intro d
        dsimp only
        rw [if_neg hret]

/-- The change of a task that does not end the thread. -/
theorem edit_of_goes (hterminate : isTerminateTask task = false) :
    edit task = if taskType task = Ipc.IPC_PKT_TYPE_SUBSCRIBE_DEVICE_ID then
        .add (generateDeviceIdByBuffer task.data)
      else if taskType task = Ipc.IPC_PKT_TYPE_UNSUBSCRIBE_DEVICE_ID then
        .del (generateDeviceIdByBuffer task.data)
      else .other := by
  unfold edit
  rw [hterminate, if_neg Bool.false_ne_true]

/-- **What handling a task does to the streams**: the change it stands for, or
the loss of a stream that failed. -/
theorem streams_handlerTask (t : RtmpThread) (ret : Int)
    (hterminate : isTerminateTask task = false) :
    (t.Fails ret task ∧ edit task = .other
        ∧ ∀ d, (t.handlerTask ret task).rtmpMgr.Streams d
            ↔ d ≠ (splitJt1078 task.memory).1 ∧ t.rtmpMgr.Streams d)
      ∨ ¬t.Fails ret task
        ∧ ∀ d, (t.handlerTask ret task).rtmpMgr.Streams d
            ↔ (edit task).apply d (t.rtmpMgr.Streams d) := by
  rw [edit_of_goes hterminate]
  by_cases hsub : taskType task = Ipc.IPC_PKT_TYPE_SUBSCRIBE_DEVICE_ID
  · refine Or.inr ⟨not_fails_of_type (by rw [hsub]; decide), ?_⟩
    intro d
    unfold handlerTask
    rw [if_pos hsub, if_pos hsub]
    exact RtmpMgr.streams_createRtmpClient
  · rw [if_neg hsub]
    by_cases hunsub : taskType task = Ipc.IPC_PKT_TYPE_UNSUBSCRIBE_DEVICE_ID
    · refine Or.inr ⟨not_fails_of_type (by rw [hunsub]; decide), ?_⟩
      intro d
      unfold handlerTask
      rw [if_neg hsub, if_pos hunsub, if_pos hunsub]
      exact RtmpMgr.streams_releaseRtmpClient
    · rw [if_neg hunsub]
      by_cases htype : taskType task = Ipc.IPC_PKT_TYPE_JT1078_PACKET
      · rcases t.streams_handlerTask_packet ret htype with ⟨hfails, hstreams⟩ | hfine
        · exact Or.inl ⟨hfails, rfl, hstreams⟩
        · exact Or.inr hfine
      · -- any other task is skipped
        refine Or.inr ⟨not_fails_of_type htype, ?_⟩
        intro d
        unfold handlerTask
        rw [if_neg hsub, if_neg hunsub, if_neg htype]
        exact Iff.rfl

end RtmpThread

/-! ## §2. What the main thread posts. -/

namespace WebServer

variable {w v : WebServer} {d : UInt64} {e : Event}

/-- What is posted on the way from `w` to `v` is what happens to the channels,
and a channel is started only if it is not in use. -/
def Steers (w v : WebServer) : Prop :=
  ∃ posted, v.rtmpThread = w.rtmpThread ++ posted ∧ posted.length ≤ 1
    ∧ (∀ d, v.deviceIdMgr.Holds d
        ↔ Replica.replay d (w.deviceIdMgr.Holds d) (posted.map RtmpThread.edit))
    ∧ ∀ d, Edit.add d ∈ posted.map RtmpThread.edit → ¬w.deviceIdMgr.Holds d

theorem steers_of_same (hset : v.deviceIdMgr = w.deviceIdMgr)
    (hpost : v.rtmpThread = w.rtmpThread) : Steers w v := by
  refine ⟨[], ?_, Nat.zero_le 1, ?_, ?_⟩
  · rw [hpost, List.append_nil]
  · rw [hset]
    exact fun d => Iff.rfl
  · exact fun d hd => absurd hd List.not_mem_nil

/-- The sessions of the handler do not matter. -/
theorem Steers.congr {w' v' : WebServer} (h : Steers w v)
    (hw : w'.deviceIdMgr = w.deviceIdMgr ∧ w'.rtmpThread = w.rtmpThread)
    (hv : v'.deviceIdMgr = v.deviceIdMgr ∧ v'.rtmpThread = v.rtmpThread) : Steers w' v' := by
  unfold Steers
  rw [hw.1, hw.2, hv.1, hv.2]
  exact h

theorem rtmpThread_sendPacketIfConnected (mask : UInt32) (data : List UInt8) :
    (w.sendPacketIfConnected mask data).rtmpThread = w.rtmpThread := by
  unfold sendPacketIfConnected
  split
  · rfl
  · split <;> rfl

theorem edit_subscribe (str : List UInt8) :
    RtmpThread.edit (initIpcMovePacket
      (Ipc.IPC_PKT_TYPE_SUBSCRIBE_DEVICE_ID ||| Ipc.IPC_PKT_FROM_WEB_SERVER) str)
      = .add (generateDeviceId str) := by
  have hmask : ((Ipc.IPC_PKT_TYPE_SUBSCRIBE_DEVICE_ID ||| Ipc.IPC_PKT_FROM_WEB_SERVER)
      &&& Ipc.IPC_PKT_TYPE_MASK) = Ipc.IPC_PKT_TYPE_SUBSCRIBE_DEVICE_ID := by decide
  have hgoes : (((Ipc.IPC_PKT_TYPE_SUBSCRIBE_DEVICE_ID ||| Ipc.IPC_PKT_FROM_WEB_SERVER)
      &&& Ipc.IPC_PKT_OTHER_MASK) == Ipc.IPC_PKT_OTHER_THREAD_STOP) = false := by decide
  simp only [RtmpThread.edit, RtmpThread.isTerminateTask, RtmpThread.taskType, initIpcMovePacket,
    hmask, hgoes, Bool.false_eq_true, if_false, if_true]
  rfl

theorem edit_unsubscribe (str : List UInt8) :
    RtmpThread.edit (initIpcMovePacket
      (Ipc.IPC_PKT_TYPE_UNSUBSCRIBE_DEVICE_ID ||| Ipc.IPC_PKT_FROM_WEB_SERVER) str)
      = .del (generateDeviceId str) := by
  have hmask : ((Ipc.IPC_PKT_TYPE_UNSUBSCRIBE_DEVICE_ID ||| Ipc.IPC_PKT_FROM_WEB_SERVER)
      &&& Ipc.IPC_PKT_TYPE_MASK) = Ipc.IPC_PKT_TYPE_UNSUBSCRIBE_DEVICE_ID := by decide
  have hgoes : (((Ipc.IPC_PKT_TYPE_UNSUBSCRIBE_DEVICE_ID ||| Ipc.IPC_PKT_FROM_WEB_SERVER)
      &&& Ipc.IPC_PKT_OTHER_MASK) == Ipc.IPC_PKT_OTHER_THREAD_STOP) = false := by decide
  have hne : Ipc.IPC_PKT_TYPE_UNSUBSCRIBE_DEVICE_ID ≠ Ipc.IPC_PKT_TYPE_SUBSCRIBE_DEVICE_ID := by
    decide
  simp only [RtmpThread.edit, RtmpThread.isTerminateTask, RtmpThread.taskType, initIpcMovePacket,
    hmask, hgoes, hne, Bool.false_eq_true, if_false, if_true]
  rfl

theorem steers_notifyStart (str : List UInt8) : Steers w (w.notifyStart str) := by
  have heffect := (@notifyStart_effect w str).2
  unfold notifyStart at heffect ⊢
  dsimp only at heffect ⊢
  split
  next => exact steers_of_same rfl rfl
  next hexists =>
      rw [if_neg hexists] at heffect
      refine ⟨[initIpcMovePacket
        (Ipc.IPC_PKT_TYPE_SUBSCRIBE_DEVICE_ID ||| Ipc.IPC_PKT_FROM_WEB_SERVER) str],
        ?_, Nat.le_refl 1, ?_, ?_⟩
      · exact congrArg (· ++ _) (rtmpThread_sendPacketIfConnected _ _)
      · intro d
        rw [List.map_singleton, edit_subscribe]
        exact heffect d
      · intro d hd hheld
        rw [List.map_singleton, edit_subscribe, List.mem_singleton] at hd
        cases hd
        exact hexists (DeviceIdMgr.existsDeviceId_iff.mpr hheld)

theorem steers_notifyStop (str : List UInt8) : Steers w (w.notifyStop str) := by
  refine ⟨[initIpcMovePacket
    (Ipc.IPC_PKT_TYPE_UNSUBSCRIBE_DEVICE_ID ||| Ipc.IPC_PKT_FROM_WEB_SERVER) str],
    ?_, Nat.le_refl 1, ?_, ?_⟩
  · exact congrArg (· ++ _) (rtmpThread_sendPacketIfConnected _ _)
  · intro d
    rw [List.map_singleton, edit_unsubscribe]
    exact (@notifyStop_effect w str).2 d
  · intro d hd
    rw [List.map_singleton, edit_unsubscribe, List.mem_singleton] at hd
    cases hd

theorem steers_onClientMessage (packet : Ipc.Packet) (behind : List UInt8) :
    Steers w (w.onClientMessage packet behind) := by
  unfold onClientMessage
  split
  next htype =>
      -- a JT1078 packet stands for no change, whatever the other bits of its type say
      have hedit : RtmpThread.edit (.copyFrom packet behind) = .other := by
        have htask : RtmpThread.taskType (.copyFrom packet behind)
            = Ipc.IPC_PKT_TYPE_JT1078_PACKET := htype
        unfold RtmpThread.edit
        split
        · rfl
        · rw [htask, if_neg (by decide), if_neg (by decide)]
      refine ⟨[.copyFrom packet behind], rfl, Nat.le_refl 1, ?_, ?_⟩
      · intro d
        rw [List.map_singleton, hedit]
        exact Iff.rfl
      · intro d hd
        rw [List.map_singleton, hedit, List.mem_singleton] at hd
        cases hd
  next => exact steers_of_same rfl rfl

theorem steers_sessionStop (strStream strClientId : List UInt8) :
    Steers w (w.sessionStop strStream strClientId) := by
  unfold sessionStop
  dsimp only
  split
  · have hstop := @steers_notifyStop { w with sessionStat :=
        ((w.sessionStat.delClientId strStream strClientId).emptyClientId strStream).2 } strStream
    exact hstop.congr ⟨rfl, rfl⟩ ⟨rfl, rfl⟩
  · exact steers_of_same rfl rfl

theorem steers_sessionPlay (strStream strClientId : List UInt8) :
    Steers w (w.sessionPlay strStream strClientId) := by
  unfold sessionPlay
  dsimp only
  split
  · have hstart := @steers_notifyStart
      { w with sessionStat := (w.sessionStat.emptyClientId strStream).2 } strStream
    exact hstart.congr ⟨rfl, rfl⟩ ⟨rfl, rfl⟩
  · exact steers_of_same rfl rfl

theorem steers_asyncConnectServer (result : Option ConnectResult) :
    Steers w (w.asyncConnectServer result).2 := by
  cases result with
  | none => exact steers_of_same rfl rfl
  | some result => cases result <;> exact steers_of_same rfl rfl

/-- **Every event of the main thread posts what it does to the channels.** -/
theorem steers_step (e : Event) : Steers w (w.step e) := by
  cases e with
  | webOnPlay str =>
      cases str with
      | none => exact steers_of_same rfl rfl
      | some str =>
          simp only [step, webOnPlay]
          split
          · exact steers_of_same rfl rfl
          · exact steers_notifyStart str
  | srsOnSession fields =>
      cases fields with
      | none => exact steers_of_same rfl rfl
      | some j =>
          simp only [step]
          obtain ⟨-, -, heq⟩ | ⟨-, -, heq⟩ | ⟨-, heq⟩ := w.srsOnSession_cases j
          · rw [heq]
            exact steers_sessionStop j.strStream j.strClientId
          · rw [heq]
            exact steers_sessionPlay j.strStream j.strClientId
          · rw [heq]
            exact steers_of_same rfl rfl
  | clientConnect bOk => cases bOk <;> exact steers_of_same rfl rfl
  | clientCleared => exact steers_of_same rfl rfl
  | clientMessage packet behind => exact steers_onClientMessage packet behind
  | clientError => exact steers_of_same rfl rfl
  | connectTimer result =>
      exact (@steers_asyncConnectServer { w with connectTimer := false } result).congr
        ⟨rfl, rfl⟩ ⟨rfl, rfl⟩
  | heartbeatTimer =>
      exact steers_of_same (sendPacketIfConnected_frame _ _).2
        (rtmpThread_sendPacketIfConnected _ _)

end WebServer

/-! ## §3. The two threads. -/

/-- `web_server` with its worker.  `web.rtmpThread` is what the main thread has
still to put into the queue: `PushBack` waits for the lock and for room. -/
structure WebThreads where
  web : WebServer
  queue : SafeQueue Ipc.PacketMove
  worker : RtmpThread
  /-- The task the worker has taken and not handled yet. -/
  task : Option { task : Ipc.PacketMove // RtmpThread.isTerminateTask task = false }
  /-- The worker has not left its loop. -/
  running : Bool

namespace WebThreads

def init (rtmpUrlPrefix : List UInt8) (result : Option ConnectResult) : WebThreads where
  web := (WebServer.init result).2
  queue := .new
  worker := ⟨⟨∅⟩, rtmpUrlPrefix⟩
  task := none
  running := true

inductive Event
  /-- A request, or an event of the connection to `jt1078_server`. -/
  | web (e : WebServer.Event)
  /-- `NotifyStart` and `NotifyStop`, called with any text. -/
  | notifyStart (strDeviceId : List UInt8)
  | notifyStop (strDeviceId : List UInt8)
  /-- The main thread gets through `PushBack`. -/
  | pushBack
  /-- The worker gets through `PopFront`. -/
  | popFront
  /-- The worker handles the task it took; `ret` is what `ProcessJt1078Packet` answers. -/
  | handlerTask (ret : Int)

variable (s : WebThreads)

/-- The main thread runs `f`, unless it is still waiting in `PushBack`. -/
def onMain (f : WebServer → WebServer) : WebThreads :=
  if s.web.rtmpThread.isEmpty then { s with web := f s.web } else s

def pushBack : WebThreads :=
  match s.web.rtmpThread with
  | [] => s
  | task :: rest =>
      if h : s.queue.queue.length < s.queue.maxSize then
        { s with web := { s.web with rtmpThread := rest }, queue := s.queue.pushBack task h }
      else s

def popFront : WebThreads :=
  if s.running && s.task.isNone then
    match s.queue.popFront with
    | none => s
    | some (task, queue) =>
        if h : RtmpThread.isTerminateTask task = false then
          { s with queue := queue, task := some ⟨task, h⟩ }
        else { s with queue := queue, running := false }
  else s

def handlerTask (ret : Int) : WebThreads :=
  match s.task with
  | none => s
  | some task => { s with worker := s.worker.handlerTask ret task.val, task := none }

def step (e : Event) : WebThreads :=
  match e with
  | .web e => s.onMain (·.step e)
  | .notifyStart strDeviceId => s.onMain (·.notifyStart strDeviceId)
  | .notifyStop strDeviceId => s.onMain (·.notifyStop strDeviceId)
  | .pushBack => s.pushBack
  | .popFront => s.popFront
  | .handlerTask ret => s.handlerTask ret

/-- No task is queued or being handled, and the main thread is in no call. -/
def Quiescent (s : WebThreads) : Prop :=
  s.task = none ∧ s.queue.queue = [] ∧ s.web.rtmpThread = []

/-! ## §4. One step. -/

/-- The changes behind the task being handled. -/
def behind (s : WebThreads) : List (Edit UInt64) :=
  (s.queue.queue ++ s.web.rtmpThread).map RtmpThread.edit

/-- All changes that are posted and not made. -/
def edits (s : WebThreads) : List (Edit UInt64) :=
  s.task.toList.map (fun task => RtmpThread.edit task.val) ++ s.behind

/-- The streams will be the channels in use when what is posted is handled. -/
def Follows (s : WebThreads) : Prop :=
  Replica.Follows s.web.deviceIdMgr.Holds s.edits s.worker.rtmpMgr.Streams

/-- The channel is in use, and will have no stream when what is posted is handled. -/
def Lost (s : WebThreads) (d : UInt64) : Prop :=
  Replica.Lost s.web.deviceIdMgr.Holds s.edits s.worker.rtmpMgr.Streams d

/-- Handling the task makes `ProcessJt1078Packet` fail only for a channel about
which something is still queued. -/
def HarmlessTask (s : WebThreads) (ret : Int) :
    Option { task : Ipc.PacketMove // RtmpThread.isTerminateTask task = false } → Prop
  | none => True
  | some task => s.worker.Fails ret task.val →
      Replica.Settles (RtmpThread.splitJt1078 task.val.memory).1 s.behind

def Harmless (s : WebThreads) : Event → Prop
  | .handlerTask ret => s.HarmlessTask ret s.task
  | _ => True

instance (ret : Int) : ∀ task, Decidable (s.HarmlessTask ret task)
  | none => .isTrue trivial
  | some _ => inferInstanceAs (Decidable (_ → _))

instance : ∀ e : Event, Decidable (s.Harmless e)
  | .handlerTask ret => inferInstanceAs (Decidable (s.HarmlessTask ret s.task))
  | .web _ => .isTrue trivial
  | .notifyStart _ => .isTrue trivial
  | .notifyStop _ => .isTrue trivial
  | .pushBack => .isTrue trivial
  | .popFront => .isTrue trivial

variable {s} {d : UInt64}

/-- The main thread's part of a step. -/
theorem onMain_cases {f : WebServer → WebServer} (hf : ∀ w, WebServer.Steers w (f w)) :
    ∃ posted : List Ipc.PacketMove,
      (s.onMain f).edits = s.edits ++ posted.map RtmpThread.edit
      ∧ posted.length ≤ 1
      ∧ (s.onMain f).worker = s.worker
      ∧ (∀ d, (s.onMain f).web.deviceIdMgr.Holds d
          ↔ Replica.replay d (s.web.deviceIdMgr.Holds d) (posted.map RtmpThread.edit))
      ∧ ∀ d, Edit.add d ∈ posted.map RtmpThread.edit → ¬s.web.deviceIdMgr.Holds d := by
  unfold onMain
  split
  next =>
      obtain ⟨posted, hpost, hlen, hset, hnew⟩ := hf s.web
      refine ⟨posted, ?_, hlen, rfl, hset, hnew⟩
      unfold edits behind
      dsimp only
      rw [hpost]
      simp only [List.map_append, List.append_assoc]
  next =>
      refine ⟨[], (List.append_nil _).symm, Nat.zero_le 1, rfl, fun d => Iff.rfl, ?_⟩
      exact fun d hd => absurd hd List.not_mem_nil

/-- `t` differs from `s` in where the tasks are, not in what they will do. -/
structure Moved (s t : WebThreads) : Prop where
  edits : ∀ k p, Replica.replay k p t.edits ↔ Replica.replay k p s.edits
  worker : t.worker = s.worker
  deviceIdMgr : t.web.deviceIdMgr = s.web.deviceIdMgr

theorem Moved.refl (s : WebThreads) : Moved s s := ⟨fun _ _ => Iff.rfl, rfl, rfl⟩

theorem Moved.follows {t : WebThreads} (hmoved : Moved s t) (h : s.Follows) : t.Follows := by
  intro k
  rw [hmoved.edits, hmoved.worker, hmoved.deviceIdMgr]
  exact h k

theorem Moved.lost {t : WebThreads} (hmoved : Moved s t) (h : s.Lost d) : t.Lost d := by
  unfold Lost Replica.Lost
  rw [hmoved.edits, hmoved.worker, hmoved.deviceIdMgr]
  exact h

theorem moved_pushBack : Moved s s.pushBack := by
  unfold pushBack
  split
  next => exact Moved.refl s
  next task rest htasks =>
      split
      next =>
          -- the task goes from one end of the posted changes to the other's
          have hsame : (s.queue.queue ++ [task]) ++ rest = s.queue.queue ++ s.web.rtmpThread := by
            rw [htasks, List.append_assoc, List.singleton_append]
          refine ⟨?_, rfl, rfl⟩
          intro k p
          show Replica.replay k p (_ ++ ((s.queue.queue ++ [task]) ++ rest).map RtmpThread.edit) ↔ _
          rw [hsame]
          exact Iff.rfl
      next => exact Moved.refl s

/-- A task that ends the thread is taken, too; it stands for nothing. -/
theorem moved_popFront : Moved s s.popFront := by
  unfold popFront
  split
  next hrunning =>
      have htask : s.task = none := by
        rw [Bool.and_eq_true, Option.isNone_iff_eq_none] at hrunning
        exact hrunning.2
      cases hpop : s.queue.popFront with
      | none => exact Moved.refl s
      | some taken =>
          obtain ⟨task, queue⟩ := taken
          have hqueue := SafeQueue.popFront_eq_some hpop
          dsimp only
          split
          next hgoes =>
              refine ⟨?_, rfl, rfl⟩
              intro k p
              simp [WebThreads.edits, behind, htask, hqueue]
          next hgoes =>
              refine ⟨?_, rfl, rfl⟩
              intro k p
              have hother : RtmpThread.edit task = .other := by
                unfold RtmpThread.edit
                rw [if_pos (by simpa using hgoes)]
              simp [WebThreads.edits, behind, htask, hqueue, hother, Edit.apply]
  next => exact Moved.refl s

/-- What the main thread does to the agreement and to a lost channel: nothing,
as long as the channel stays in use. -/
theorem follows_onMain {f : WebServer → WebServer} (hf : ∀ w, WebServer.Steers w (f w))
    (h : s.Follows) : (s.onMain f).Follows := by
  obtain ⟨posted, hedits, -, hworker, hset, -⟩ := s.onMain_cases hf
  unfold Follows
  rw [hedits, hworker]
  exact h.post hset

theorem lost_onMain {f : WebServer → WebServer} (hf : ∀ w, WebServer.Steers w (f w))
    (h : s.Lost d) (hstays : (s.onMain f).web.deviceIdMgr.Holds d) : (s.onMain f).Lost d := by
  obtain ⟨posted, hedits, hlen, hworker, hset, hnew⟩ := s.onMain_cases hf
  -- the one task that may be posted neither starts the channel nor stops it
  have hsettles : ¬Replica.Settles d (posted.map RtmpThread.edit) := by
    intro hsettles
    obtain ⟨e, he, hkey⟩ := hsettles
    have hone : posted.map RtmpThread.edit = [e] := by
      cases posted with
      | nil => cases he
      | cons task rest =>
          cases rest with
          | nil =>
              rw [List.map_singleton, List.mem_singleton] at he
              rw [List.map_singleton, he]
          | cons _ _ => exact absurd hlen (by simp)
    cases e with
    | add x =>
        cases hkey
        exact hnew d he h.1
    | del x =>
        cases hkey
        have hgone := (hset d).mp hstays
        rw [hone] at hgone
        exact hgone.1 rfl
    | other => cases hkey
  unfold Lost
  rw [hedits, hworker]
  exact h.post hsettles (hset d)

/-- The worker finishes its task. -/
theorem handlerTask_edits {task : { task // RtmpThread.isTerminateTask task = false }}
    (htask : s.task = some task) (ret : Int) :
    s.edits = RtmpThread.edit task.val :: s.behind
      ∧ s.handlerTask ret
          = { s with worker := s.worker.handlerTask ret task.val, task := none } := by
  unfold edits handlerTask
  rw [htask]
  exact ⟨rfl, rfl⟩

theorem handlerTask_none (htask : s.task = none) (ret : Int) : s.handlerTask ret = s := by
  unfold handlerTask
  rw [htask]

theorem follows_handlerTask_iff (h : s.Follows) (ret : Int) :
    (s.handlerTask ret).Follows ↔ s.HarmlessTask ret s.task := by
  cases htask : s.task with
  | none =>
      rw [handlerTask_none htask]
      exact iff_of_true h trivial
  | some task =>
      obtain ⟨hedits, hstep⟩ := s.handlerTask_edits htask ret
      unfold Follows at h ⊢
      rw [hedits] at h
      rw [hstep]
      show Replica.Follows s.web.deviceIdMgr.Holds s.behind _ ↔ _
      rcases s.worker.streams_handlerTask ret task.property with
        ⟨hfails, hother, hstreams⟩ | ⟨hfine, hstreams⟩
      · rw [hother] at h
        have hbehind : Replica.Follows s.web.deviceIdMgr.Holds s.behind
            s.worker.rtmpMgr.Streams := h.handle fun k => Iff.rfl
        apply (Replica.follows_lose_iff hbehind hstreams).trans
        exact ⟨fun hsettles _ => hsettles hfails.2.1, fun hharmless _ => hharmless hfails⟩
      · exact iff_of_true (h.handle hstreams) fun hfails => absurd hfails hfine

theorem lost_handlerTask (h : s.Lost d) (ret : Int) : (s.handlerTask ret).Lost d := by
  cases htask : s.task with
  | none =>
      rw [handlerTask_none htask]
      exact h
  | some task =>
      obtain ⟨hedits, hstep⟩ := s.handlerTask_edits htask ret
      unfold Lost at h ⊢
      rw [hedits] at h
      rw [hstep]
      show Replica.Lost s.web.deviceIdMgr.Holds s.behind _ d
      rcases s.worker.streams_handlerTask ret task.property with
        ⟨-, hother, hstreams⟩ | ⟨-, hstreams⟩
      · rw [hother] at h
        have hbehind : Replica.Lost s.web.deviceIdMgr.Holds s.behind
            s.worker.rtmpMgr.Streams d := h.handle Iff.rfl
        exact hbehind.lose fun hin => ((hstreams d).mp hin).2
      · exact h.handle (hstreams d)

/-- **What each step does to the agreement.** -/
theorem follows_step_iff (h : s.Follows) (e : Event) : (s.step e).Follows ↔ s.Harmless e := by
  cases e with
  | web e =>
      exact iff_of_true (s.follows_onMain (fun _ => WebServer.steers_step e) h) trivial
  | notifyStart str =>
      exact iff_of_true (s.follows_onMain (fun _ => WebServer.steers_notifyStart str) h) trivial
  | notifyStop str =>
      exact iff_of_true (s.follows_onMain (fun _ => WebServer.steers_notifyStop str) h) trivial
  | pushBack => exact iff_of_true (moved_pushBack.follows h) trivial
  | popFront => exact iff_of_true (moved_popFront.follows h) trivial
  | handlerTask ret => exact s.follows_handlerTask_iff h ret

/-- **A lost channel stays lost** while it is in use. -/
theorem lost_step (h : s.Lost d) (e : Event) (hstays : (s.step e).web.deviceIdMgr.Holds d) :
    (s.step e).Lost d := by
  cases e with
  | web e => exact s.lost_onMain (fun _ => WebServer.steers_step e) h hstays
  | notifyStart str => exact s.lost_onMain (fun _ => WebServer.steers_notifyStart str) h hstays
  | notifyStop str => exact s.lost_onMain (fun _ => WebServer.steers_notifyStop str) h hstays
  | pushBack => exact moved_pushBack.lost h
  | popFront => exact moved_popFront.lost h
  | handlerTask ret => exact s.lost_handlerTask h ret

/-! ## §5. Every run. -/

theorem follows_init (rtmpUrlPrefix : List UInt8) (result : Option ConnectResult) :
    (init rtmpUrlPrefix result).Follows := by
  have hposted : (init rtmpUrlPrefix result).web.rtmpThread = [] := by
    cases result with
    | none => rfl
    | some result => cases result <;> rfl
  have hset : (init rtmpUrlPrefix result).web.deviceIdMgr = ⟨∅⟩ :=
    (WebServer.asyncConnectServer_frame result).2
  have hedits : (init rtmpUrlPrefix result).edits = [] := by
    unfold edits behind
    rw [hposted]
    rfl
  intro k
  rw [hedits, hset]
  exact iff_of_false Std.TreeMap.not_mem_emptyc Std.TreeSet.not_mem_emptyc

/-- With nothing queued and nothing being handled no change is left. -/
theorem Quiescent.edits (hquiet : s.Quiescent) : s.edits = [] := by
  obtain ⟨htask, hqueue, hposted⟩ := hquiet
  unfold WebThreads.edits behind
  rw [htask, hqueue, hposted]
  rfl

/-- With nothing posted, following is agreeing. -/
theorem Follows.agree (h : s.Follows) (hquiet : s.Quiescent) :
    s.worker.rtmpMgr.Streams d ↔ s.web.deviceIdMgr.Holds d := by
  unfold Follows at h
  rw [hquiet.edits] at h
  exact Replica.follows_nil.mp h d

/-- A failure that does harm loses its channel. -/
theorem lost_of_harm (h : s.Follows) {ret : Int} (he : ¬s.HarmlessTask ret s.task) :
    ∃ d, (s.handlerTask ret).Lost d := by
  cases htask : s.task with
  | none =>
      rw [htask] at he
      exact absurd trivial he
  | some task =>
      rw [htask] at he
      obtain ⟨hfails, hsettles⟩ := Classical.not_imp.mp he
      obtain ⟨hedits, hstep⟩ := s.handlerTask_edits htask ret
      refine ⟨(RtmpThread.splitJt1078 task.val.memory).1, ?_⟩
      unfold Follows at h
      rw [hedits] at h
      rw [hstep]
      show Replica.Lost s.web.deviceIdMgr.Holds s.behind _ _
      rcases s.worker.streams_handlerTask ret task.property with
        ⟨-, hother, hstreams⟩ | ⟨hfine, -⟩
      · rw [hother] at h
        have hbehind : Replica.Follows s.web.deviceIdMgr.Holds s.behind
            s.worker.rtmpMgr.Streams := h.handle fun k => Iff.rfl
        exact Replica.lost_of_lose hbehind hfails.2.1
          (fun hout => ((hstreams _).mp hout).1 rfl) hsettles
      · exact absurd hfails hfine

/-- **When the streams are the channels in use.**  In every interleaving of
requests, calls, packets and the worker's steps in which `ProcessJt1078Packet`
fails only for channels about which a task is queued behind the packet, the two
sets are the same in every state with nothing queued and nothing being
handled. -/
theorem streams_follow_devices (rtmpUrlPrefix : List UInt8) (result : Option ConnectResult)
    (events : List Event)
    (h : Runs.Along step Harmless (init rtmpUrlPrefix result) events) :
    ∀ pre, pre <+: events →
      let s := Runs.run step (init rtmpUrlPrefix result) pre
      s.Quiescent → ∀ d, s.worker.rtmpMgr.Streams d ↔ s.web.deviceIdMgr.Holds d := by
  intro pre hpre s hquiet d
  have halways := (Runs.always_iff_along (P := fun _ _ => True) (J := Follows)
    Follows (fun s e hs _ => (follows_step_iff hs e).mpr) (fun s e hs _ => follows_step_iff hs e)
    (follows_init rtmpUrlPrefix result) (follows_init rtmpUrlPrefix result)
    (Runs.along_of_forall (fun _ _ => trivial) events _)).mpr h
  exact (halways pre hpre).agree hquiet

/-- **A failure of any other kind is not made up for.**  The channel has no
stream in any state with nothing queued and nothing being handled, whoever
starts watching it, until it is stopped. -/
theorem lost_until_stopped (hbefore : s.Follows) {e : Event} (he : ¬s.Harmless e) :
    ∃ d, ∀ events,
      Runs.Along step (fun s e => (s.step e).web.deviceIdMgr.Holds d) (s.step e) events →
      let after := Runs.run step (s.step e) events
      after.Quiescent →
        after.web.deviceIdMgr.Holds d ∧ ¬after.worker.rtmpMgr.Streams d := by
  have hlose : ∃ d, (s.step e).Lost d := by
    cases e with
    | handlerTask ret => exact lost_of_harm hbefore he
    | web | notifyStart | notifyStop | pushBack | popFront => exact absurd trivial he
  obtain ⟨d, hlost⟩ := hlose
  refine ⟨d, ?_⟩
  intro events hstays after hquiet
  have hafter : after.Lost d :=
    Runs.run_invariant (I := fun s => s.Lost d) (fun s e hs hstay => lost_step hs e hstay)
      hlost hstays
  unfold Lost at hafter
  rw [hquiet.edits] at hafter
  exact hafter

/-- A viewer comes, the stream of the channel fails once, another viewer comes. -/
theorem streams_fall_behind :
    let device : List UInt8 := WebServer.ascii "06495940943803"
    let play (clientId : String) : Event := .web (.srsOnSession (some
      ⟨WebServer.ascii "on_play", device, WebServer.ascii clientId, WebServer.ascii "live"⟩))
    let pkt : Jt1078.Packet := ⟨{ Jt1078.Header.cleared with dataType4 := 5 }, [], rfl⟩
    let message : Forward.Message := ⟨generateDeviceId device, pkt⟩
    let s := Runs.run step (init [] (some .connected))
      [play "1", .pushBack, .popFront, .handlerTask 0,
        .web (.clientMessage (message.ipcPacket 0) []), .pushBack, .popFront, .handlerTask (-5),
        play "2"]
    s.Quiescent
      ∧ ¬∀ d, s.worker.rtmpMgr.Streams d ↔ s.web.deviceIdMgr.Holds d := by
  intro device play pkt message s
  refine ⟨⟨by decide, by decide, by decide⟩, ?_⟩
  intro hagree
  have hstreams := (hagree 0x06495940943803).mpr (by decide)
  exact absurd hstreams (by decide)

/-- A stream that fails when its channel is being stopped. -/
theorem streams_follow_devices_stopped :
    let device : List UInt8 := WebServer.ascii "06495940943803"
    let pkt : Jt1078.Packet := ⟨{ Jt1078.Header.cleared with dataType4 := 5 }, [], rfl⟩
    let message : Forward.Message := ⟨generateDeviceId device, pkt⟩
    let events : List Event :=
      [.notifyStart device, .pushBack, .popFront, .handlerTask 0,
        .web (.clientMessage (message.ipcPacket 0) []), .pushBack, .popFront, .notifyStop device,
        .handlerTask (-5), .pushBack, .popFront, .handlerTask 0]
    ∀ pre, pre <+: events →
      let s := Runs.run step (init [] (some .connected)) pre
      s.Quiescent → ∀ d, s.worker.rtmpMgr.Streams d ↔ s.web.deviceIdMgr.Holds d := by
  intro device pkt message events
  exact streams_follow_devices [] (some .connected) events (by decide)

end WebThreads

end MultiProcessServer
