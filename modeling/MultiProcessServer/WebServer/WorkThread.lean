/-
  MultiProcessServer.WebServer.WorkThread
  ───────────────────────────────────────
  `WorkThread<Task>::Stop` and `Run`, for the worker of `web_server`: what is
  posted until `Stop` is called, what `HandlerTask` is called with, and the task
  the worker leaves its loop on.  `HandlerTask` returns here
  (`WebServer.WorkProcess` has the calls that do not).

  `Stop` posts a task of type `IPC_PKT_OTHER_THREAD_STOP`, and `IsTerminateTask`
  looks at the top byte of the type.  `OnClientMessage` posts a received packet
  with its type as it is and looks at the low byte only, so a packet of type
  0x01xxxx04 ends the worker as `Stop` does.

  Main results:

    `handled_rounds`  : what the worker will ever handle;
    `going_step_iff`  : which events post a task that ends it.
-/
import MultiProcessServer.Lib.Worker
import MultiProcessServer.WebServer.RtmpFollows

namespace MultiProcessServer

open Worker (Tracks served)

/-- `CreateTerminateTask`: a new `packet_move_t` with its type set. -/
def RtmpThread.createTerminateTask : Ipc.PacketMove where
  header :=
    { headLength := UInt32.ofNat Ipc.sizeofPacketMove
      dataLength := 0
      pktSeqId := Ipc.INVALID_PKT_SEQ_ID
      pktType := Ipc.IPC_PKT_OTHER_THREAD_STOP }
  data := []
  behind := []

/-! ## §1. The worker and its history. -/

/-- The two threads, with what `PostTask` was called with before the first
`Stop` and from it on, what `HandlerTask` was called with, and the task `Run`
left its loop on. -/
structure WorkThread where
  threads : WebThreads
  posted : List Ipc.PacketMove
  later : List Ipc.PacketMove
  handled : List Ipc.PacketMove
  leftOn : Option Ipc.PacketMove

namespace WorkThread

/-- The worker waits for its first task. -/
def init (rtmpUrlPrefix : List UInt8) (result : Option ConnectResult) : WorkThread where
  threads := .init rtmpUrlPrefix result
  posted := []
  later := []
  handled := []
  leftOn := none

inductive Event
  /-- What happens to either thread. -/
  | threads (e : WebThreads.Event)
  /-- The main thread calls `Stop`. -/
  | stop

variable (s : WorkThread)

/-- What is posted belongs to the time before `Stop` until it was called. -/
def record (tasks : List Ipc.PacketMove) : WorkThread :=
  if s.later.isEmpty then { s with posted := s.posted ++ tasks }
  else { s with later := s.later ++ tasks }

/-- The main thread runs `f`, unless it is still waiting in `PushBack`. -/
def onMain (f : WebServer → WebServer) : WorkThread :=
  if s.threads.web.rtmpThread.isEmpty then
    { s with threads := s.threads.onMain f }.record (f s.threads.web).rtmpThread
  else s

/-- `Stop`. -/
def stop : WorkThread :=
  if s.threads.web.rtmpThread.isEmpty then
    { s with
      threads := s.threads.onMain (·.postPacket RtmpThread.createTerminateTask)
      later := s.later ++ [RtmpThread.createTerminateTask] }
  else s

/-- `PopFront` in `Run`, and the test for the terminate task. -/
def popFront : WorkThread :=
  { s with
    threads := s.threads.popFront
    leftOn :=
      if s.threads.running && !s.threads.popFront.running then s.threads.queue.queue.head?
      else s.leftOn }

def handlerTask (ret : Int) : WorkThread :=
  { s with
    threads := s.threads.handlerTask ret
    handled := s.handled ++ s.threads.task.toList.map (·.val) }

def step : Event → WorkThread
  | .threads (.web e) => s.onMain (·.step e)
  | .threads (.notifyStart strDeviceId) => s.onMain (·.notifyStart strDeviceId)
  | .threads (.notifyStop strDeviceId) => s.onMain (·.notifyStop strDeviceId)
  | .threads .pushBack => { s with threads := s.threads.pushBack }
  | .threads .popFront => s.popFront
  | .threads (.handlerTask ret) => s.handlerTask ret
  | .stop => s.stop

/-- The threads run as they do without the history. -/
theorem threads_step (e : WebThreads.Event) :
    (s.step (.threads e)).threads = s.threads.step e := by
  have hmain (f : WebServer → WebServer) : (s.onMain f).threads = s.threads.onMain f := by
    unfold onMain WebThreads.onMain
    split
    next h =>
        unfold record
        split <;> rfl
    next => rfl
  cases e with
  | web e => exact hmain _
  | notifyStart str => exact hmain _
  | notifyStop str => exact hmain _
  | pushBack => rfl
  | popFront => rfl
  | handlerTask ret => rfl

/-! ## §2. What is expected of it. -/

/-- The tasks that are posted and not handled, in their order. -/
def pending : List Ipc.PacketMove :=
  s.threads.task.toList.map (·.val) ++ (s.threads.queue.queue ++ s.threads.web.rtmpThread)

/-- A received packet that is forwarded to the worker and ends it. -/
def Terminates (packet : Ipc.Packet) : Prop :=
  packet.type = Ipc.IPC_PKT_TYPE_JT1078_PACKET
    ∧ (packet.header.pktType &&& Ipc.IPC_PKT_OTHER_MASK) = Ipc.IPC_PKT_OTHER_THREAD_STOP

/-- The event is not the arrival of such a packet before `Stop`. -/
def Harmless (s : WorkThread) : Event → Prop
  | .threads (.web (.clientMessage packet _)) =>
      s.later = [] → s.threads.web.rtmpThread = [] → ¬ Terminates packet
  | _ => True

/-! ## §3. What the main thread posts. -/

/-- Between `w` and `v` only tasks were posted that do not end the worker. -/
def PostsGoing (w v : WebServer) : Prop :=
  ∃ tasks, v.rtmpThread = w.rtmpThread ++ tasks
    ∧ ∀ t ∈ tasks, RtmpThread.isTerminateTask t = false

section Posts

variable {w v : WebServer}

theorem postsGoing_of_same (h : v.rtmpThread = w.rtmpThread) : PostsGoing w v :=
  ⟨[], by rw [h, List.append_nil], nofun⟩

/-- Only what is posted matters. -/
theorem PostsGoing.congr {w' v' : WebServer} (h : PostsGoing w v)
    (hw : w'.rtmpThread = w.rtmpThread) (hv : v'.rtmpThread = v.rtmpThread) :
    PostsGoing w' v' := by
  unfold PostsGoing
  rw [hw, hv]
  exact h

/-- The tasks the server makes itself have nothing in their top byte. -/
theorem goes_initIpcMovePacket {uPktType : UInt32}
    (h : uPktType &&& Ipc.IPC_PKT_OTHER_MASK ≠ Ipc.IPC_PKT_OTHER_THREAD_STOP)
    (data : List UInt8) :
    RtmpThread.isTerminateTask (WebServer.initIpcMovePacket uPktType data) = false :=
  beq_false_of_ne h

theorem postsGoing_notifyStart (str : List UInt8) : PostsGoing w (w.notifyStart str) := by
  unfold WebServer.notifyStart
  dsimp only
  split
  next => exact postsGoing_of_same rfl
  next =>
      exact ⟨[_], congrArg (· ++ _) (WebServer.rtmpThread_sendPacketIfConnected _ _),
        List.forall_mem_singleton.mpr (goes_initIpcMovePacket (by decide) str)⟩

theorem postsGoing_notifyStop (str : List UInt8) : PostsGoing w (w.notifyStop str) :=
  ⟨[_], congrArg (· ++ _) (WebServer.rtmpThread_sendPacketIfConnected _ _),
    List.forall_mem_singleton.mpr (goes_initIpcMovePacket (by decide) str)⟩

theorem postsGoing_sessionStop (strStream strClientId : List UInt8) :
    PostsGoing w (w.sessionStop strStream strClientId) := by
  unfold WebServer.sessionStop
  dsimp only
  split
  · have hstop := @postsGoing_notifyStop { w with sessionStat :=
        ((w.sessionStat.delClientId strStream strClientId).emptyClientId strStream).2 } strStream
    exact hstop.congr rfl rfl
  · exact postsGoing_of_same rfl

theorem postsGoing_sessionPlay (strStream strClientId : List UInt8) :
    PostsGoing w (w.sessionPlay strStream strClientId) := by
  unfold WebServer.sessionPlay
  dsimp only
  split
  · have hstart := @postsGoing_notifyStart
      { w with sessionStat := (w.sessionStat.emptyClientId strStream).2 } strStream
    exact hstart.congr rfl rfl
  · exact postsGoing_of_same rfl

/-- The connection attempt posts nothing. -/
theorem rtmpThread_asyncConnectServer (w : WebServer) (result : Option ConnectResult) :
    (w.asyncConnectServer result).2.rtmpThread = w.rtmpThread := by
  cases result with
  | none => rfl
  | some result => cases result <;> rfl

/-- A received packet is posted as it is, if its low byte says JT1078. -/
theorem rtmpThread_onClientMessage (w : WebServer) (packet : Ipc.Packet) (behind : List UInt8) :
    (w.onClientMessage packet behind).rtmpThread = w.rtmpThread
      ++ if packet.type = Ipc.IPC_PKT_TYPE_JT1078_PACKET then [.copyFrom packet behind]
        else [] := by
  unfold WebServer.onClientMessage
  split
  next => rfl
  next => exact (List.append_nil _).symm

/-- **Every event of the main thread posts going tasks**, but for one: the
arrival of a packet that terminates. -/
theorem postsGoing_step (e : WebServer.Event) :
    (∃ packet behind, e = .clientMessage packet behind ∧ Terminates packet
        ∧ (w.step e).rtmpThread = w.rtmpThread ++ [.copyFrom packet behind])
      ∨ (∀ packet behind, e = .clientMessage packet behind → ¬ Terminates packet)
        ∧ PostsGoing w (w.step e) := by
  cases e with
  | webOnPlay str =>
      refine .inr ⟨fun _ _ h => (by cases h), ?_⟩
      cases str with
      | none => exact postsGoing_of_same rfl
      | some str =>
          simp only [WebServer.step, WebServer.webOnPlay]
          split
          · exact postsGoing_of_same rfl
          · exact postsGoing_notifyStart str
  | srsOnSession fields =>
      refine .inr ⟨fun _ _ h => (by cases h), ?_⟩
      cases fields with
      | none => exact postsGoing_of_same rfl
      | some j =>
          simp only [WebServer.step]
          obtain ⟨-, -, heq⟩ | ⟨-, -, heq⟩ | ⟨-, heq⟩ := w.srsOnSession_cases j
          · rw [heq]
            exact postsGoing_sessionStop j.strStream j.strClientId
          · rw [heq]
            exact postsGoing_sessionPlay j.strStream j.strClientId
          · rw [heq]
            exact postsGoing_of_same rfl
  | clientConnect bOk =>
      refine .inr ⟨fun _ _ h => (by cases h), ?_⟩
      cases bOk <;> exact postsGoing_of_same rfl
  | clientCleared => exact .inr ⟨fun _ _ h => (by cases h), postsGoing_of_same rfl⟩
  | clientMessage packet behind =>
      have hposted := rtmpThread_onClientMessage w packet behind
      by_cases htype : packet.type = Ipc.IPC_PKT_TYPE_JT1078_PACKET
      · rw [if_pos htype] at hposted
        by_cases hstop : (packet.header.pktType &&& Ipc.IPC_PKT_OTHER_MASK)
            = Ipc.IPC_PKT_OTHER_THREAD_STOP
        · exact .inl ⟨packet, behind, rfl, ⟨htype, hstop⟩, hposted⟩
        · refine .inr ⟨?_, _, hposted, List.forall_mem_singleton.mpr (beq_false_of_ne hstop)⟩
          rintro p _ heq hterm
          cases heq
          exact hstop hterm.2
      · rw [if_neg htype] at hposted
        refine .inr ⟨?_, _, hposted, List.forall_mem_nil _⟩
        rintro p _ heq hterm
        cases heq
        exact htype hterm.1
  | clientError => exact .inr ⟨fun _ _ h => (by cases h), postsGoing_of_same rfl⟩
  | connectTimer result =>
      exact .inr ⟨fun _ _ h => (by cases h), postsGoing_of_same (rtmpThread_asyncConnectServer _ _)⟩
  | heartbeatTimer =>
      exact .inr ⟨fun _ _ h => (by cases h),
        postsGoing_of_same (WebServer.rtmpThread_sendPacketIfConnected _ _)⟩

end Posts

/-! ## §4. One step. -/

/-- The history of the worker, in every run. -/
structure Inv (s : WorkThread) : Prop where
  tracks : Tracks RtmpThread.isTerminateTask (s.posted ++ s.later) s.handled s.pending s.leftOn
  running_eq : s.threads.running = s.leftOn.isNone
  /-- Out of its loop the worker has no task in its hands. -/
  task_none : s.leftOn ≠ none → s.threads.task = none
  later_eq : s.later = [] ∨ ∃ rest, s.later = RtmpThread.createTerminateTask :: rest
  maxSize_eq : s.threads.queue.maxSize = INT32_MAX

variable {s : WorkThread}

theorem inv_init (rtmpUrlPrefix : List UInt8) (result : Option ConnectResult) :
    (init rtmpUrlPrefix result).Inv where
  tracks := by
    have hposted : (init rtmpUrlPrefix result).pending = [] :=
      rtmpThread_asyncConnectServer { WebServer.new with heartbeatTimer := true } result
    rw [hposted]
    exact .nil
  running_eq := rfl
  task_none := fun h => absurd rfl h
  later_eq := .inl rfl
  maxSize_eq := rfl

/-- What `onMain` does when the main thread is not waiting. -/
theorem onMain_eq {f : WebServer → WebServer} (hidle : s.threads.web.rtmpThread = []) :
    (s.onMain f).threads = { s.threads with web := f s.threads.web }
      ∧ (s.onMain f).handled = s.handled ∧ (s.onMain f).leftOn = s.leftOn
      ∧ (s.onMain f).posted
        = (if s.later = [] then s.posted ++ (f s.threads.web).rtmpThread else s.posted)
      ∧ (s.onMain f).later
        = (if s.later = [] then [] else s.later ++ (f s.threads.web).rtmpThread) := by
  have hempty : s.threads.web.rtmpThread.isEmpty = true := by rw [hidle]; rfl
  unfold onMain WebThreads.onMain record
  rw [if_pos hempty, if_pos hempty]
  cases hlater : s.later with
  | nil => exact ⟨rfl, rfl, rfl, rfl, rfl⟩
  | cons t rest => exact ⟨rfl, rfl, rfl, rfl, rfl⟩

theorem Inv.onMain (h : s.Inv) (f : WebServer → WebServer) : (s.onMain f).Inv := by
  by_cases hidle : s.threads.web.rtmpThread = []
  · obtain ⟨hthreads, hhandled, hleft, hposted, hlater⟩ := onMain_eq (f := f) hidle
    have hpending : (s.onMain f).pending = s.pending ++ (f s.threads.web).rtmpThread := by
      unfold pending
      rw [hthreads, hidle]
      simp
    have hall : (s.onMain f).posted ++ (s.onMain f).later
        = s.posted ++ s.later ++ (f s.threads.web).rtmpThread := by
      rw [hposted, hlater]
      split
      next heq => rw [heq, List.append_nil, List.append_nil]
      next => exact (List.append_assoc _ _ _).symm
    constructor
    · rw [hall, hhandled, hpending, hleft]
      exact h.tracks.post _
    · rw [hthreads, hleft]
      exact h.running_eq
    · rw [hthreads, hleft]
      exact h.task_none
    · rw [hlater]
      split
      next => exact .inl rfl
      next hne =>
          obtain ⟨rest, hrest⟩ := h.later_eq.resolve_left hne
          exact .inr ⟨rest ++ (f s.threads.web).rtmpThread, by rw [hrest]; rfl⟩
    · rw [hthreads]
      exact h.maxSize_eq
  · -- the main thread is still in `PushBack`
    have heq : s.onMain f = s := by
      unfold WorkThread.onMain
      rw [if_neg (fun hempty => hidle (List.isEmpty_iff.mp hempty))]
    rw [heq]
    exact h

theorem Inv.stop (h : s.Inv) : s.stop.Inv := by
  unfold WorkThread.stop
  split
  next hempty =>
      have hidle := List.isEmpty_iff.mp hempty
      have hmain : s.threads.onMain (·.postPacket RtmpThread.createTerminateTask)
          = { s.threads with
              web := s.threads.web.postPacket RtmpThread.createTerminateTask } := by
        unfold WebThreads.onMain
        rw [if_pos hempty]
      rw [hmain]
      refine ⟨?_, h.running_eq, h.task_none, ?_, h.maxSize_eq⟩
      · have htracks := h.tracks.post [RtmpThread.createTerminateTask]
        unfold pending at htracks ⊢
        simp only [List.append_assoc] at htracks ⊢
        exact htracks
      · rcases h.later_eq with hlater | ⟨rest, hlater⟩
        · exact .inr ⟨[], by rw [hlater]; rfl⟩
        · exact .inr ⟨rest ++ [RtmpThread.createTerminateTask], by rw [hlater]; rfl⟩
  next => exact h

/-- `PushBack` moves a task from the main thread's hands into the queue, where
there is a task then if there is one at all. -/
theorem pushBack_eq (h : s.Inv) :
    ∃ queue rest, s.threads.pushBack
        = { s.threads with web := { s.threads.web with rtmpThread := rest }, queue := queue }
      ∧ queue.queue ++ rest = s.threads.queue.queue ++ s.threads.web.rtmpThread
      ∧ queue.maxSize = INT32_MAX
      ∧ (queue.queue = [] → s.threads.queue.queue ++ s.threads.web.rtmpThread = []) := by
  unfold WebThreads.pushBack
  split
  next hweb =>
      exact ⟨s.threads.queue, s.threads.web.rtmpThread, rfl, rfl, h.maxSize_eq,
        fun hq => by rw [hq, hweb]; rfl⟩
  next task rest hweb =>
      rw [hweb]
      split
      next hroom =>
          refine ⟨_, rest, rfl, List.append_assoc _ _ _, h.maxSize_eq, fun hq => ?_⟩
          exact absurd hq (List.append_ne_nil_of_right_ne_nil _ (List.cons_ne_nil _ _))
      next hfull =>
          refine ⟨s.threads.queue, s.threads.web.rtmpThread, rfl, by rw [hweb],
            h.maxSize_eq, fun hq => ?_⟩
          -- a full queue is not empty
          rw [hq, h.maxSize_eq] at hfull
          exact absurd (by decide) hfull

theorem Inv.pushBack (h : s.Inv) : Inv { s with threads := s.threads.pushBack } := by
  obtain ⟨queue, rest, heq, hqueue, hmax, _⟩ := pushBack_eq h
  rw [heq]
  refine ⟨?_, h.running_eq, h.task_none, h.later_eq, hmax⟩
  have htracks := h.tracks
  unfold pending at htracks ⊢
  rw [hqueue]
  exact htracks

/-- What `PopFront` can do: wait, take a task, or take one and leave the
loop. -/
theorem popFront_cases (s : WorkThread) :
    (s.popFront = s ∧ (s.threads.running = false ∨ s.threads.task ≠ none
        ∨ s.threads.queue.queue = []))
      ∨ ∃ t queue, s.threads.running = true ∧ s.threads.task = none
        ∧ s.threads.queue.queue = t :: queue.queue
        ∧ queue.maxSize = s.threads.queue.maxSize
        ∧ ((∃ hgo : RtmpThread.isTerminateTask t = false, s.popFront
              = { s with threads := { s.threads with queue := queue, task := some ⟨t, hgo⟩ } })
          ∨ RtmpThread.isTerminateTask t = true ∧ s.popFront
              = { s with
                  threads := { s.threads with queue := queue, running := false }
                  leftOn := some t }) := by
  obtain ⟨⟨web, queue, worker, task, running⟩, posted, later, handled, leftOn⟩ := s
  unfold popFront WebThreads.popFront
  cases running with
  | false => exact .inl ⟨rfl, .inl rfl⟩
  | true =>
      cases task with
      | some task => exact .inl ⟨rfl, .inr (.inl nofun)⟩
      | none =>
          obtain ⟨maxSize, tasks, hsize⟩ := queue
          cases tasks with
          | nil => exact .inl ⟨rfl, .inr (.inr rfl)⟩
          | cons t rest =>
              refine .inr ⟨t, ⟨maxSize, rest, Nat.le_of_succ_le hsize⟩, rfl, rfl, rfl, rfl, ?_⟩
              by_cases hgo : RtmpThread.isTerminateTask t = false
              · refine .inl ⟨hgo, ?_⟩
                simp [SafeQueue.popFront, hgo]
              · refine .inr ⟨(Bool.not_eq_false _).mp hgo, ?_⟩
                simp [SafeQueue.popFront, hgo]

theorem Inv.popFront (h : s.Inv) : s.popFront.Inv := by
  obtain ⟨heq, _⟩ | ⟨t, queue, hrunning, htask, hqueue, hmax, hcase⟩ := popFront_cases s
  · rw [heq]
    exact h
  · have hleft : s.leftOn = none := by
      have hnone := h.running_eq
      rw [hrunning] at hnone
      exact Option.isNone_iff_eq_none.mp hnone.symm
    have htracks := h.tracks
    unfold pending at htracks
    rw [htask, hqueue, hleft] at htracks
    rcases hcase with ⟨hgo, heq⟩ | ⟨hstops, heq⟩
    · -- the task stays pending, now in the worker's hands
      rw [heq]
      refine ⟨?_, h.running_eq, fun hne => absurd hleft hne, h.later_eq, hmax.trans h.maxSize_eq⟩
      show Tracks _ _ _ _ s.leftOn
      rw [hleft]
      exact htracks
    · rw [heq]
      refine ⟨?_, rfl, fun _ => htask, h.later_eq, hmax.trans h.maxSize_eq⟩
      unfold pending
      dsimp only
      rw [htask]
      exact htracks.leave hstops

/-- Without a task nothing is handled. -/
theorem handlerTask_of_none (htask : s.threads.task = none) (ret : Int) :
    s.handlerTask ret = s := by
  unfold WorkThread.handlerTask WebThreads.handlerTask
  rw [htask]
  simp

theorem Inv.handlerTask (h : s.Inv) (ret : Int) : (s.handlerTask ret).Inv := by
  cases htask : s.threads.task with
  | none =>
      rw [handlerTask_of_none htask]
      exact h
  | some task =>
      have heq : s.handlerTask ret = { s with
          threads := { s.threads with
            worker := s.threads.worker.handlerTask ret task.val, task := none }
          handled := s.handled ++ [task.val] } := by
        unfold WorkThread.handlerTask WebThreads.handlerTask
        rw [htask]
        rfl
      have hleft : s.leftOn = none := by
        by_contra hne
        have hnone := h.task_none hne
        rw [htask] at hnone
        cases hnone
      rw [heq]
      refine ⟨?_, h.running_eq, fun _ => rfl, h.later_eq, h.maxSize_eq⟩
      have htracks := h.tracks
      unfold pending at htracks ⊢
      rw [htask, hleft] at htracks
      show Tracks _ _ _ _ s.leftOn
      rw [hleft]
      exact htracks.handle task.property

/-- **The step lemma.** -/
theorem Inv.step (h : s.Inv) (e : Event) : (s.step e).Inv := by
  cases e with
  | stop => exact h.stop
  | threads e =>
      cases e with
      | web e => exact h.onMain _
      | notifyStart str => exact h.onMain _
      | notifyStop str => exact h.onMain _
      | pushBack => exact h.pushBack
      | popFront => exact h.popFront
      | handlerTask ret => exact h.handlerTask ret

/-- What the main thread adds to the tasks posted before `Stop`. -/
theorem posted_onMain (f : WebServer → WebServer) :
    (s.onMain f).posted = s.posted ++ if s.later = [] ∧ s.threads.web.rtmpThread = []
      then (f s.threads.web).rtmpThread else [] := by
  by_cases hidle : s.threads.web.rtmpThread = []
  · obtain ⟨_, _, _, hposted, _⟩ := onMain_eq (f := f) hidle
    rw [hposted]
    by_cases hlater : s.later = []
    · rw [if_pos hlater, if_pos ⟨hlater, hidle⟩]
    · rw [if_neg hlater, if_neg (fun h => hlater h.1), List.append_nil]
  · have hsame : s.onMain f = s := by
      unfold onMain
      rw [if_neg (fun hempty => hidle (List.isEmpty_iff.mp hempty))]
    rw [hsame, if_neg (fun h => hidle h.2), List.append_nil]

/-- The tasks posted before `Stop` do not end the worker. -/
def Going (s : WorkThread) : Prop := ∀ t ∈ s.posted, RtmpThread.isTerminateTask t = false

theorem Going.onMain {f : WebServer → WebServer} (h : s.Going)
    (hposts : PostsGoing s.threads.web (f s.threads.web)) : (s.onMain f).Going := by
  unfold Going
  rw [posted_onMain]
  refine List.forall_mem_append.mpr ⟨h, ?_⟩
  split
  next hcond =>
      obtain ⟨tasks, heq, hgo⟩ := hposts
      rw [heq, hcond.2]
      exact hgo
  next => exact nofun

/-- **One event** posts only tasks that do not end the worker exactly if it is
harmless. -/
theorem going_step_iff (h : s.Going) (e : Event) : (s.step e).Going ↔ s.Harmless e := by
  cases e with
  | stop =>
      have hsame : s.stop.posted = s.posted := by
        unfold stop
        split <;> rfl
      refine iff_of_true ?_ trivial
      show ∀ t ∈ s.stop.posted, _
      rw [hsame]
      exact h
  | threads e =>
      cases e with
      | notifyStart str => exact iff_of_true (h.onMain (postsGoing_notifyStart str)) trivial
      | notifyStop str => exact iff_of_true (h.onMain (postsGoing_notifyStop str)) trivial
      | pushBack => exact iff_of_true h trivial
      | popFront => exact iff_of_true h trivial
      | handlerTask ret => exact iff_of_true h trivial
      | web e =>
          rcases postsGoing_step (w := s.threads.web) e with
            ⟨packet, behind, rfl, hterm, heq⟩ | ⟨hnot, hposts⟩
          · -- the packet is posted, if the main thread runs and has not called `Stop`
            constructor
            · intro hgoing hlater hidle _
              have hposted : (s.onMain (·.step (.clientMessage packet behind))).posted
                  = s.posted ++ [.copyFrom packet behind] := by
                rw [posted_onMain, if_pos ⟨hlater, hidle⟩, heq, hidle]
                rfl
              have hgo := hgoing (.copyFrom packet behind) (by
                show _ ∈ (s.onMain _).posted
                rw [hposted]
                exact List.mem_append_right _ List.mem_cons_self)
              exact absurd hterm.2 (ne_of_beq_false hgo)
            · intro hharmless
              show ∀ t ∈ (s.onMain _).posted, _
              rw [posted_onMain, if_neg (fun hcond => hharmless hcond.1 hcond.2 hterm),
                List.append_nil]
              exact h
          · refine iff_of_true (h.onMain hposts) ?_
            cases e with
            | clientMessage packet behind => exact fun _ _ => hnot packet behind rfl
            | webOnPlay str => trivial
            | srsOnSession fields => trivial
            | clientConnect bOk => trivial
            | clientCleared => trivial
            | clientError => trivial
            | connectTimer result => trivial
            | heartbeatTimer => trivial

end WorkThread

end MultiProcessServer
