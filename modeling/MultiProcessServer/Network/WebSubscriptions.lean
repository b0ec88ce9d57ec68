/-
  MultiProcessServer.Network.WebSubscriptions
  ───────────────────────────────────────────
  **THE THREE SETS AGREE**: the subscriptions of the session `jt1078_server` has
  of `web_server`, the channels in `DeviceIdMgr`, and the streams of the worker.

  The first set follows the second through the requests, the third through the
  tasks, each with what is in flight.  Two things put them apart: a connection
  that is made while channels are in use, and a stream that fails for good.

  Main result:

    `devices_agree` :
        in every run without these, the three sets are the same whenever nothing
        is in flight.
-/
import MultiProcessServer.Network.WebVideo

namespace MultiProcessServer

/-! ## §1. The threads. -/

namespace PushThreads

variable {s : PushThreads}

theorem steers_stop (w : WebServer) :
    WebServer.Steers w (w.postPacket RtmpThread.createTerminateTask) := by
  refine ⟨[RtmpThread.createTerminateTask], rfl, Nat.le_refl 1, fun d => Iff.rfl, ?_⟩
  intro d hd
  cases List.mem_singleton.mp hd

/-- Handling the task makes a stream fail only for a channel about which something
is still queued. -/
def HarmlessTask (s : PushThreads) (outcome : RtmpWorker.Outcome) :
    Option { task : Ipc.PacketMove // RtmpThread.isTerminateTask task = false } → Prop
  | none => True
  | some task => s.work.threads.HarmlessTask (s.worker.ret outcome task.val) (some task)

instance (outcome : RtmpWorker.Outcome) : ∀ task, Decidable (s.HarmlessTask outcome task)
  | none => .isTrue trivial
  | some task => inferInstanceAs (Decidable (s.work.threads.HarmlessTask _ (some task)))

/-- The event makes no stream fail for good. -/
def Harmless (s : PushThreads) : Event → Prop
  | .handlerTask outcome => s.HarmlessTask outcome s.work.threads.task
  | _ => True

instance : ∀ e : Event, Decidable (s.Harmless e)
  | .handlerTask outcome =>
      inferInstanceAs (Decidable (s.HarmlessTask outcome s.work.threads.task))
  | .web _ | .stop | .pushBack | .popFront => .isTrue trivial

/-- **The streams follow the channels in use.** -/
theorem follows_step (hfollows : s.work.threads.Follows) {e : Event} (he : s.Harmless e) :
    (s.step e).work.threads.Follows := by
  cases e with
  | web e =>
      show (s.work.step (.threads (.web e))).threads.Follows
      rw [WorkThread.threads_step]
      exact (WebThreads.follows_step_iff hfollows (.web e)).mpr trivial
  | stop =>
      show s.work.stop.threads.Follows
      -- `Stop` posts the terminate task, which no channel is about
      have hstop : s.work.stop.threads
          = s.work.threads.onMain (·.postPacket RtmpThread.createTerminateTask) := by
        unfold WorkThread.stop WebThreads.onMain
        split <;> rfl
      rw [hstop]
      exact WebThreads.follows_onMain steers_stop hfollows
  | pushBack => exact (WebThreads.follows_step_iff hfollows .pushBack).mpr trivial
  | popFront => exact (WebThreads.follows_step_iff hfollows .popFront).mpr trivial
  | handlerTask outcome =>
      show (s.handlerTask outcome).work.threads.Follows
      unfold PushThreads.handlerTask
      split
      next => exact hfollows
      next task htask =>
          refine (WebThreads.follows_step_iff hfollows (.handlerTask _)).mpr ?_
          have hharmless : s.HarmlessTask outcome s.work.threads.task := he
          show s.work.threads.HarmlessTask _ s.work.threads.task
          rw [htask] at hharmless ⊢
          exact hharmless

/-- With nothing posted, the clients are there for the channels in use. -/
theorem Inv.agree (h : s.Inv) (hfollows : s.work.threads.Follows)
    (hquiet : s.work.threads.Quiescent) (d : UInt64) :
    s.work.threads.web.deviceIdMgr.Holds d ↔ (s.worker.getRtmpClient d).isSome = true :=
  (hfollows.agree hquiet).symm.trans (h.agrees d)

end PushThreads

/-! ## §2. The network. -/

theorem WebServer.up_eq (w : WebServer) (d : UInt64) :
    w.up d = Request.requested w.sent d := by
  unfold WebServer.up WebServer.sent
  cases w.jt1078Client <;> rfl

namespace WebNetwork

variable {half : Bool} {a : StringAlloc} {n : WebNetwork} {s d : UInt64}

/-- The event neither makes a connection while channels are in use nor makes a
stream fail for good. -/
def Harmless (n : WebNetwork) : Event → Prop
  | .web e => e.connects = true → ∀ d, ¬n.web.deviceIdMgr.Holds d
  | .thread e => n.push.Harmless e
  | _ => True

/-- What the three sets do. -/
structure Agreed (half : Bool) (n : WebNetwork) : Prop where
  linked : n.Linked half
  matched : n.web.Matched
  follows : n.push.work.threads.Follows

theorem agreed_init (half : Bool) (a : StringAlloc) (garbage : UInt8)
    (rtmpUrlPrefix : List UInt8) (result : Option ConnectResult) :
    (init a garbage rtmpUrlPrefix result).Agreed half where
  linked := linked_init half a garbage rtmpUrlPrefix result
  matched := (@WebServer.matched_asyncConnectServer { WebServer.new with heartbeatTimer := true }
    result).mpr fun _ _ hd => Std.TreeSet.not_mem_emptyc hd
  follows := WebThreads.follows_init rtmpUrlPrefix result

theorem web_webStep (a : StringAlloc) (hidle : n.idle = true) (e : WebServer.Event) :
    (n.webStep a e).web = n.web.step e := by
  have hweb := (web_step_of_idle hidle e).1
  unfold WebNetwork.webStep
  cases e.dropsClient <;> exact hweb

theorem push_webStep (a : StringAlloc) (n : WebNetwork) (e : WebServer.Event) :
    (n.webStep a e).push = n.push.step (.web e) := by
  unfold WebNetwork.webStep
  cases e.dropsClient <;> rfl

/-- **Every harmless event keeps them.** -/
theorem Agreed.step (h : n.Agreed half) {e : Event} (he : n.Enabled half e)
    (hharmless : n.Harmless e) : (n.step half a e).Agreed half := by
  refine ⟨h.linked.step e he, ?_, ?_⟩
  · cases e with
    | web e =>
        show (n.webStep a e).web.Matched
        rw [web_webStep a (idle_of_done he.1)]
        exact (WebServer.matched_step h.matched he.2.1).mpr hharmless
    | message behind =>
        show (n.messageStep a behind).web.Matched
        unfold messageStep
        split
        next => exact h.matched
        next packet rest hinbox =>
            show (n.webStep a (.clientMessage packet behind)).web.Matched
            rw [web_webStep a he.1]
            exact WebServer.matched_onClientMessage h.matched packet behind
    | broken =>
        show (n.webStep a .clientError).web.Matched
        rw [web_webStep a he.1]
        -- the connection is gone, and its requests with it
        exact WebServer.matched_of_not_connected rfl
    | thread e =>
        -- the worker's side changes neither the requests nor `DeviceIdMgr`
        obtain ⟨⟨tasks, hweb⟩, -⟩ := thread_step h.linked.inv he
        show (n.push.step e).work.threads.web.Matched
        rw [hweb]
        exact h.matched.congr rfl rfl
    | link | read => exact h.matched
  · cases e with
    | web e =>
        show (n.webStep a e).push.work.threads.Follows
        rw [push_webStep]
        exact PushThreads.follows_step h.follows trivial
    | message behind =>
        show (n.messageStep a behind).push.work.threads.Follows
        unfold messageStep
        split
        next => exact h.follows
        next packet rest hinbox =>
            show (n.webStep a (.clientMessage packet behind)).push.work.threads.Follows
            rw [push_webStep]
            exact PushThreads.follows_step h.follows trivial
    | broken =>
        show (n.webStep a .clientError).push.work.threads.Follows
        rw [push_webStep]
        exact PushThreads.follows_step h.follows trivial
    | thread e => exact PushThreads.follows_step h.follows hharmless
    | link | read => exact h.follows

/-! ## §3. Main result. -/

/-- The client is connected, its requests have arrived at a session that is live
and not dead, and the threads have nothing to do. -/
structure Settled (half : Bool) (n : WebNetwork) (s : UInt64) : Prop where
  session : n.session = some s
  live : s ∈ n.roster.live
  upstream : ((n.forward half).sessions s).isCanWrite = true
  connected : n.web.isConnected = true
  arrived : n.web.sent.length ≤ n.arrived
  quiet : n.push.work.threads.Quiescent

/-- **The three sets agree.**  In every run of the two processes, with both
threads of `web_server` in any order: if a connection is only ever made while no
channel is in use, and a stream only fails when a task about its channel is
queued behind the packet, then in every settled state the session is subscribed
to a channel exactly if `DeviceIdMgr` has it, and exactly if the worker has a
stream for it. -/
theorem devices_agree (half : Bool) (a : StringAlloc) (garbage : UInt8)
    (rtmpUrlPrefix : List UInt8) (result : Option ConnectResult) (events : List Event)
    (h : Runs.Along (WebNetwork.step half a) (WebNetwork.Enabled half)
      (init a garbage rtmpUrlPrefix result) events)
    (hharmless : Runs.Along (WebNetwork.step half a) Harmless
      (init a garbage rtmpUrlPrefix result) events) :
    let n := Runs.run (WebNetwork.step half a) (init a garbage rtmpUrlPrefix result) events
    ∀ s, n.Settled half s → ∀ d,
      ((n.forward half).Subscribed s d ↔ n.web.deviceIdMgr.Holds d)
        ∧ ((n.forward half).Subscribed s d ↔ (n.push.worker.getRtmpClient d).isSome = true) := by
  intro n s hsettled d
  have hagreed : n.Agreed half :=
    Runs.run_invariant (I := Agreed half) (fun _ e hn he => hn.step he.1 he.2)
      (agreed_init half a garbage rtmpUrlPrefix result) (h.and hharmless)
  have hlink := hagreed.linked.link
  -- from the session to the requests, to the set, to the streams
  have hrequested : (n.forward half).Subscribed s d ↔ Request.requested n.web.sent d = true := by
    rw [← List.take_of_length_le hsettled.arrived]
    exact ⟨hlink.asked s d hsettled.session,
      hlink.served s d hsettled.session hsettled.live hsettled.upstream⟩
  have hholds : (n.forward half).Subscribed s d ↔ n.web.deviceIdMgr.Holds d := by
    rw [hrequested, ← WebServer.up_eq]
    exact hagreed.matched hsettled.connected d
  exact ⟨hholds, hholds.trans (hagreed.linked.inv.agree hagreed.follows hsettled.quiet d)⟩

/-- The channel a page asked for. -/
theorem devices_agree_on_one :
    let n := Runs.run (WebNetwork.step true .libstdcxx)
      (init .libstdcxx 0 [114] (some .connected)) asking
    n.web.deviceIdMgr.Holds 1 ∧ ∀ d,
      ((n.forward true).Subscribed 100 d ↔ n.web.deviceIdMgr.Holds d)
        ∧ ((n.forward true).Subscribed 100 d ↔ (n.push.worker.getRtmpClient d).isSome = true) := by
  have hharmless : Runs.Along (WebNetwork.step true .libstdcxx) Harmless
      (init .libstdcxx 0 [114] (some .connected)) asking :=
    ⟨fun hconnects => absurd hconnects Bool.false_ne_true, trivial, trivial, by
      unfold Harmless
      decide, trivial, trivial, trivial⟩
  have hagree := devices_agree true .libstdcxx 0 [114] (some .connected) asking (by decide)
    hharmless
  exact ⟨by decide, hagree 100 ⟨by decide, by decide, by decide, by decide, by decide,
    rfl, rfl, rfl⟩⟩

end WebNetwork

end MultiProcessServer
