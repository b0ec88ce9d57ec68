/-
  MultiProcessServer.WebServer.RtmpThread
  ───────────────────────────────────────
  The worker of `web_server`: the queue it takes tasks from (`SafeQueue`), the
  streams it keeps (`RtmpMgr`), and what it does with a task
  (`RtmpThread::HandlerTask`).

  What `RtmpClient::ProcessJt1078Packet` answers is an input.
-/
import MultiProcessServer.ForwardServer.Subscriber
import MultiProcessServer.Jt1078Util

namespace MultiProcessServer

namespace RtmpThread

open Endian

/-! ## §1. The payload of a JT1078 packet. -/

/-- The pointers `HandlerTask` takes into the memory from `m_data` on: the
device id, the header eight bytes on, and `WdBodyLen` bytes behind the header.
It does not look at `m_uDataLength`. -/
def splitJt1078 (memory : List UInt8) : UInt64 × Jt1078.Packet :=
  let header := Jt1078.Header.load (memory.drop Forward.sizeofDeviceId)
  let body := memory.drop (Forward.sizeofDeviceId + Jt1078.Header.sizeofHeader)
  (loadU64 memory, ⟨header, loadBytes header.wdBodyLen.toNat body, length_loadBytes _ _⟩)

/-- **Splitting the payload of a message gives its device id, header and
body back**, whatever is behind it. -/
theorem splitJt1078_payload (m : Forward.Message) (behind : List UInt8) :
    splitJt1078 (m.payload ++ behind) = (m.deviceId, m.pkt) := by
  have hid : (leBytes Forward.sizeofDeviceId m.deviceId.toNat).length
      = Forward.sizeofDeviceId := length_leBytes _ _
  have hheader : Jt1078.Header.load ((m.payload ++ behind).drop Forward.sizeofDeviceId)
      = m.pkt.header := by
    rw [Forward.Message.payload, List.append_assoc, List.drop_left' hid, List.append_assoc,
      Jt1078.Header.load_memory]
  refine Prod.ext ?_ (Jt1078.Packet.ext' hheader ?_)
  · show loadU64 (m.payload ++ behind) = m.deviceId
    rw [Forward.Message.payload, List.append_assoc]
    exact loadU64_leBytes m.deviceId _
  · show loadBytes _ _ = _
    rw [hheader, Forward.Message.payload, List.append_assoc, ← List.drop_drop,
      List.drop_left' hid, List.append_assoc, List.drop_left' (Jt1078.Header.length_memory _)]
    exact loadBytes_append behind m.pkt.length_body

end RtmpThread

/-! ## §2. The queue. -/

/-- The `m_max_size` a `SafeQueue` gets by default, `INT32_MAX`. -/
def INT32_MAX : Nat := 2147483647

/-- `SafeQueue<Task>`, the oldest task first. -/
structure SafeQueue (Task : Type) where
  maxSize : Nat
  queue : List Task
  size_le : queue.length ≤ maxSize

namespace SafeQueue

variable {Task : Type}

def new : SafeQueue Task where
  maxSize := INT32_MAX
  queue := []
  size_le := Nat.zero_le _

/-- What `PushBack` does once there is room. -/
def pushBack (q : SafeQueue Task) (task : Task) (h : q.queue.length < q.maxSize) :
    SafeQueue Task where
  maxSize := q.maxSize
  queue := q.queue ++ [task]
  size_le := by
    rw [List.length_append]
    exact h

/-- `PopFront`; without a task it waits. -/
def popFront (q : SafeQueue Task) : Option (Task × SafeQueue Task) :=
  match hq : q.queue with
  | [] => none
  | task :: rest => some (task, ⟨q.maxSize, rest, by
      have hsize := q.size_le
      rw [hq, List.length_cons] at hsize
      exact Nat.le_of_succ_le hsize⟩)

theorem popFront_eq_some {q : SafeQueue Task} {task : Task} {rest : SafeQueue Task}
    (h : q.popFront = some (task, rest)) : q.queue = task :: rest.queue := by
  unfold popFront at h
  split at h
  next => cases h
  next task' rest' hq =>
      cases h
      exact hq

end SafeQueue

/-! ## §3. The streams. -/

/-- `class RtmpClient`: what it is made with. -/
structure RtmpClient where
  deviceId : UInt64
  rtmpUrlPrefix : List UInt8
  deriving DecidableEq, Repr

/-- `class RtmpMgr`. -/
structure RtmpMgr where
  mapClient : Std.TreeMap UInt64 RtmpClient

namespace RtmpMgr

variable (mgr : RtmpMgr)

def getRtmpClient (deviceId : UInt64) : Option RtmpClient := mgr.mapClient[deviceId]?

def createRtmpClient (deviceId : UInt64) (rtmpUrlPrefix : List UInt8) : RtmpMgr :=
  if mgr.mapClient.contains deviceId then mgr
  else ⟨mgr.mapClient.insert deviceId ⟨deviceId, rtmpUrlPrefix⟩⟩

def releaseRtmpClient (deviceId : UInt64) : RtmpMgr := ⟨mgr.mapClient.erase deviceId⟩

/-- There is a client for the channel. -/
def Streams (mgr : RtmpMgr) (deviceId : UInt64) : Prop := deviceId ∈ mgr.mapClient

instance (deviceId : UInt64) : Decidable (mgr.Streams deviceId) :=
  inferInstanceAs (Decidable (deviceId ∈ mgr.mapClient))

variable {mgr} {deviceId d : UInt64} {rtmpUrlPrefix : List UInt8}

theorem getRtmpClient_isSome : (mgr.getRtmpClient d).isSome = true ↔ mgr.Streams d :=
  Std.TreeMap.mem_iff_isSome_getElem?.symm

theorem streams_createRtmpClient :
    (mgr.createRtmpClient deviceId rtmpUrlPrefix).Streams d ↔ d = deviceId ∨ mgr.Streams d := by
  unfold createRtmpClient
  split
  next hcontains =>
      have hin : mgr.Streams deviceId := Std.TreeMap.mem_iff_contains.mpr hcontains
      constructor
      · exact Or.inr
      · intro h
        rcases h with rfl | h
        · exact hin
        · exact h
  next =>
      unfold Streams
      rw [Std.TreeMap.mem_insert, Std.LawfulEqOrd.compare_eq_iff_eq, @eq_comm _ deviceId]

theorem streams_releaseRtmpClient :
    (mgr.releaseRtmpClient deviceId).Streams d ↔ d ≠ deviceId ∧ mgr.Streams d := by
  unfold releaseRtmpClient Streams
  rw [Std.TreeMap.mem_erase, ne_eq, Std.LawfulEqOrd.compare_eq_iff_eq, @eq_comm _ deviceId]

end RtmpMgr

/-! ## §4. The worker. -/

/-- `class RtmpThread`, without the queue. -/
structure RtmpThread where
  rtmpMgr : RtmpMgr
  rtmpUrlPrefix : List UInt8

namespace RtmpThread

/-- `task->m_uPktType & IPC_PKT_TYPE_MASK`. -/
def taskType (task : Ipc.PacketMove) : UInt32 := task.header.pktType &&& Ipc.IPC_PKT_TYPE_MASK

def isTerminateTask (task : Ipc.PacketMove) : Bool :=
  (task.header.pktType &&& Ipc.IPC_PKT_OTHER_MASK) == Ipc.IPC_PKT_OTHER_THREAD_STOP

/-- `HandlerTask`; `ret` is what `ProcessJt1078Packet` answers if it is called. -/
def handlerTask (t : RtmpThread) (ret : Int) (task : Ipc.PacketMove) : RtmpThread :=
  if taskType task = Ipc.IPC_PKT_TYPE_SUBSCRIBE_DEVICE_ID then
    { t with rtmpMgr :=
        t.rtmpMgr.createRtmpClient (generateDeviceIdByBuffer task.data) t.rtmpUrlPrefix }
  else if taskType task = Ipc.IPC_PKT_TYPE_UNSUBSCRIBE_DEVICE_ID then
    { t with rtmpMgr := t.rtmpMgr.releaseRtmpClient (generateDeviceIdByBuffer task.data) }
  else if taskType task = Ipc.IPC_PKT_TYPE_JT1078_PACKET then
    let (deviceId, _packet) := splitJt1078 task.memory
    match t.rtmpMgr.getRtmpClient deviceId with
    | none => t
    | some _client =>
        if ret < 0 then { t with rtmpMgr := t.rtmpMgr.releaseRtmpClient deviceId } else t
  else t

/-- What becomes of a JT1078 packet: a client whose stream fails is released. -/
theorem handlerTask_of_jt1078 {t : RtmpThread} {ret : Int} {task : Ipc.PacketMove}
    (htype : taskType task = Ipc.IPC_PKT_TYPE_JT1078_PACKET) :
    t.handlerTask ret task
      = match t.rtmpMgr.getRtmpClient (splitJt1078 task.memory).1 with
        | none => t
        | some _client =>
            if ret < 0 then
              { t with rtmpMgr := t.rtmpMgr.releaseRtmpClient (splitJt1078 task.memory).1 }
            else t := by
  unfold handlerTask
  rw [htype, if_neg (by decide), if_neg (by decide), if_pos rfl]

end RtmpThread

end MultiProcessServer
