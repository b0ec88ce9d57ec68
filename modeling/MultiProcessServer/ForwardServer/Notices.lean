/-
  MultiProcessServer.ForwardServer.Notices
  ────────────────────────────────────────
  The history of a server's channels, and what it tells the cars.

  Main result:

    `notices_balanced` :
        for every device the creations and the closings of its channel take
        turns, whatever the subscribers do.

  A notice is what `ProcessPacket_Subscriber` and the release loop do to one
  channel; the server does not record them, so they stand beside the model,
  and `service_step` says that its calls are theirs.
-/
import MultiProcessServer.ForwardServer.Channels
import MultiProcessServer.Lib.Alternation

namespace MultiProcessServer.Forward

open Runs

/-! ## §1. Notices. -/

/-- What befalls a channel: `CreateChannel`, with or without a call of
`NotifyOpenCarTerminal`; or `NotifyCloseCarTerminal` and its release. -/
inductive Notice
  | create (deviceId : UInt64) (notifyOpen : Bool)
  | close (deviceId : UInt64)
  deriving DecidableEq, Repr

namespace Notice

/-- Whether the notice switches the channel of the device on or off. -/
def mark (d : UInt64) : Notice → Option Bool
  | .create deviceId _ => if deviceId = d then some true else none
  | .close deviceId => if deviceId = d then some false else none

/-- A history as the marks of one device. -/
abbrev marks (d : UInt64) (history : List Notice) : List Bool := history.filterMap (mark d)

theorem close_mem_iff {d : UInt64} {history : List Notice} :
    .close d ∈ history ↔ false ∈ marks d history := by
  constructor
  · intro h
    exact List.mem_filterMap.mpr ⟨.close d, h, if_pos rfl⟩
  · intro h
    obtain ⟨notice, hnotice, hmark⟩ := List.mem_filterMap.mp h
    cases notice with
    | create deviceId notifyOpen => simp [mark] at hmark
    | close deviceId =>
        have hid : deviceId = d := by simpa [mark] using hmark
        rw [← hid]
        exact hnotice

end Notice

namespace ForwardServer

variable (f : ForwardServer)

/-- The calls on the service a notice stands for. -/
def calls : Notice → List ServiceCall
  | .create deviceId notifyOpen => if notifyOpen then f.notifyOpenCarTerminal deviceId else []
  | .close deviceId => f.notifyCloseCarTerminal deviceId

/-- The notices of an event. -/
def notices : Event → List Notice
  | .packetCompleted sessionId packet =>
      let deviceId := generateDeviceIdByBuffer packet.data
      if packet.type = Ipc.IPC_PKT_TYPE_SUBSCRIBE_DEVICE_ID then
        if !f.exists' deviceId then [.create deviceId (!isFromWebServer packet)] else []
      else if packet.type = Ipc.IPC_PKT_TYPE_UNSUBSCRIBE_DEVICE_ID then
        (f.delSubscriber deviceId sessionId).deserted.map .close
      else []
  | .packetError sessionId => (f.delSubscriberAll sessionId).deserted.map .close
  | _ => []

variable {f} {d : UInt64}

/-! ## §2. The notices are what an event does. -/

theorem flatMap_calls_close (ds : List UInt64) :
    (ds.map Notice.close).flatMap f.calls = ds.flatMap f.notifyCloseCarTerminal := by
  rw [List.flatMap_map]
  rfl

/-- **Every call on the service is a notice's.** -/
theorem service_step (hkeyed : f.Keyed) (e : Event) :
    (f.step e).service = f.service ++ (f.notices e).flatMap f.calls := by
  cases e with
  | newConnection sessionId socket init =>
      cases init with
      | false => exact (List.append_nil _).symm
      | true => exact (List.append_nil _).symm
  | packetError sessionId =>
      show (f.onPacketError sessionId).service = _
      rw [onPacketError, releaseChannel_eq (hkeyed.delSubscriberAll sessionId), notices,
        flatMap_calls_close]
      rfl
  | publish deviceId pkt => exact (List.append_nil _).symm
  | packetCompleted sessionId packet =>
      show (f.onPacketCompleted sessionId packet).service = _
      obtain ⟨htype, h⟩ | ⟨hne, htype, h⟩ | ⟨hne, hne', h⟩ :=
        f.onPacketCompleted_cases sessionId packet
      · rw [h]
        simp only [notices, htype, if_true, processPacketSubscriber]
        cases f.exists' (generateDeviceIdByBuffer packet.data) with
        | true => exact (List.append_nil _).symm
        | false =>
            cases hweb : isFromWebServer packet with
            | true => simp [calls]
            | false => simp [calls, notifyOpenCarTerminal]
      · rw [h]
        simp only [notices, if_neg hne, if_pos htype, flatMap_calls_close]
        rw [processPacketUnSubscriber, releaseChannel_eq (hkeyed.delSubscriber _ sessionId)]
        rfl
      · rw [h]
        simp only [notices, if_neg hne, if_neg hne', List.flatMap_nil, List.append_nil]

/-- What no event changes. -/
theorem constants_step (hkeyed : f.Keyed) (e : Event) :
    (f.step e).isRealtime = f.isRealtime ∧ (f.step e).garbage = f.garbage := by
  cases e with
  | newConnection sessionId socket init =>
      cases init with
      | false => exact ⟨rfl, rfl⟩
      | true => exact ⟨rfl, rfl⟩
  | packetError sessionId =>
      show (f.onPacketError sessionId).isRealtime = _ ∧ (f.onPacketError sessionId).garbage = _
      rw [onPacketError, releaseChannel_eq (hkeyed.delSubscriberAll sessionId)]
      exact ⟨rfl, rfl⟩
  | publish deviceId pkt => exact ⟨rfl, rfl⟩
  | packetCompleted sessionId packet =>
      show (f.onPacketCompleted sessionId packet).isRealtime = _
        ∧ (f.onPacketCompleted sessionId packet).garbage = _
      obtain ⟨-, h⟩ | ⟨-, -, h⟩ | ⟨-, -, h⟩ := f.onPacketCompleted_cases sessionId packet
      · rw [h, processPacketSubscriber]
        split
        · split <;> exact ⟨rfl, rfl⟩
        · exact ⟨rfl, rfl⟩
      · rw [h, processPacketUnSubscriber, releaseChannel_eq (hkeyed.delSubscriber _ sessionId)]
        exact ⟨rfl, rfl⟩
      · rw [h]
        exact ⟨rfl, rfl⟩

/-- So the calls of a notice stay the same. -/
theorem calls_step (hkeyed : f.Keyed) (e : Event) : (f.step e).calls = f.calls := by
  obtain ⟨hrealtime, hgarbage⟩ := constants_step hkeyed e
  funext notice
  cases notice with
  | create deviceId notifyOpen =>
      simp only [calls, notifyOpenCarTerminal, hrealtime, hgarbage]
  | close deviceId => simp only [calls, notifyCloseCarTerminal, hrealtime, hgarbage]

/-! ## §3. Creations and closings take turns. -/

/-- The marks a release leaves on a channel. -/
theorem marks_close {ds : List UInt64} (hnodup : ds.Nodup) :
    Notice.marks d (ds.map .close) = if d ∈ ds then [false] else [] := by
  unfold Notice.marks
  rw [List.filterMap_map]
  exact filterMap_mark_of_nodup hnodup d false

theorem nodup_deserted : f.deserted.Nodup :=
  (Container.nodup_of_ordered Std.TreeMap.ordered_keys).filter _

/-- The release loop closes channels that are there, once each, and the
channels it does not close stay. -/
theorem exists'_release_marks (hkeyed : f.Keyed) :
    Alternates (f.exists' d) (Notice.marks d (f.deserted.map .close))
      ∧ f.releaseChannelIfEmptySubscriber.exists' d
        = level (f.exists' d) (Notice.marks d (f.deserted.map .close)) := by
  rw [marks_close nodup_deserted]
  by_cases hd : d ∈ f.deserted
  · obtain ⟨hexists, hnobody⟩ := Publisher.mem_deserted.mp hd
    have hgone : f.releaseChannelIfEmptySubscriber.exists' d = false := by
      rw [Bool.eq_false_iff, ne_eq, exists'_releaseChannel hkeyed]
      exact fun h => h.2.elim hnobody
    simp [hd, hexists, hgone]
  · have hstays : f.releaseChannelIfEmptySubscriber.exists' d = f.exists' d := by
      rw [Publisher.mem_deserted, not_and, not_forall_not] at hd
      rw [Bool.eq_iff_iff, exists'_releaseChannel hkeyed]
      exact ⟨And.left, fun h => ⟨h, hd h⟩⟩
    simp [hd, hstays]

/-- **One event.**  Its notices about a device switch the channel of the
device in turn, and leave it as the event does. -/
theorem exists'_step (hkeyed : f.Keyed) (e : Event) :
    Alternates (f.exists' d) (Notice.marks d (f.notices e))
      ∧ (f.step e).exists' d = level (f.exists' d) (Notice.marks d (f.notices e)) := by
  cases e with
  | newConnection sessionId socket init =>
      cases init with
      | false => exact ⟨alternates_nil _, rfl⟩
      | true => exact ⟨alternates_nil _, rfl⟩
  | publish deviceId pkt => exact ⟨alternates_nil _, Publisher.exists'_publish⟩
  | packetError sessionId =>
      have h := @exists'_release_marks { f with
        mapSubscriber := f.mapSubscriber.erase sessionId
        toPublisher := f.delSubscriberAll sessionId } d (hkeyed.delSubscriberAll sessionId)
      rw [Publisher.exists'_delSubscriberAll] at h
      exact h
  | packetCompleted sessionId packet =>
      show _ ∧ (f.onPacketCompleted sessionId packet).exists' d = _
      obtain ⟨htype, h⟩ | ⟨hne, htype, h⟩ | ⟨hne, hne', h⟩ :=
        f.onPacketCompleted_cases sessionId packet
      · rw [h, exists'_processPacketSubscriber]
        simp only [notices, if_pos htype]
        cases hexists : f.exists' (generateDeviceIdByBuffer packet.data) with
        | true =>
            -- the channel is there already
            by_cases hd : d = generateDeviceIdByBuffer packet.data
            · simp [hd, hexists]
            · simp [hd]
        | false =>
            by_cases hd : d = generateDeviceIdByBuffer packet.data
            · simp [hd, hexists, Notice.mark]
            · simp [hd, Ne.symm hd, Notice.mark]
      · rw [h]
        simp only [notices, if_neg hne, if_pos htype]
        have hrelease := @exists'_release_marks { f with
          toPublisher := f.delSubscriber (generateDeviceIdByBuffer packet.data) sessionId } d
          (hkeyed.delSubscriber _ sessionId)
        rw [Publisher.exists'_delSubscriber] at hrelease
        exact hrelease
      · rw [h]
        simp [notices, if_neg hne, if_neg hne']

/-- A SUBSCRIBE packet for the device, from `web_server` or not. -/
def Event.subscribes (d : UInt64) (fromWebServer : Bool) : Event → Prop
  | .packetCompleted _ packet =>
      packet.type = Ipc.IPC_PKT_TYPE_SUBSCRIBE_DEVICE_ID
        ∧ generateDeviceIdByBuffer packet.data = d ∧ isFromWebServer packet = fromWebServer
  | _ => False

/-- A creation is the work of a SUBSCRIBE for a channel that is not there. -/
theorem create_mem_notices (e : Event) (notifyOpen : Bool) :
    .create d notifyOpen ∈ f.notices e
      ↔ f.exists' d = false ∧ e.subscribes d (!notifyOpen) := by
  cases e with
  | newConnection sessionId socket init => simp [notices, Event.subscribes]
  | packetError sessionId => simp [notices, Event.subscribes]
  | publish deviceId pkt => simp [notices, Event.subscribes]
  | packetCompleted sessionId packet =>
      simp only [notices, Event.subscribes]
      by_cases htype : packet.type = Ipc.IPC_PKT_TYPE_SUBSCRIBE_DEVICE_ID
      · rw [if_pos htype]
        cases hexists : f.exists' (generateDeviceIdByBuffer packet.data) with
        | true =>
            refine iff_of_false (by simp) fun h => ?_
            obtain ⟨hnone, -, heq, -⟩ := h
            rw [← heq, hexists] at hnone
            exact Bool.noConfusion hnone
        | false =>
            simp only [Bool.not_false, if_true, List.mem_singleton, Notice.create.injEq]
            constructor
            · intro h
              obtain ⟨rfl, rfl⟩ := h
              exact ⟨hexists, htype, rfl, (Bool.not_not _).symm⟩
            · intro h
              obtain ⟨-, -, heq, hweb⟩ := h
              exact ⟨heq.symm, by rw [hweb, Bool.not_not]⟩
      · rw [if_neg htype]
        refine iff_of_false ?_ fun h => htype h.2.1
        split <;> simp

/-- An event has at most one notice about a device. -/
theorem length_marks_notices (e : Event) : (Notice.marks d (f.notices e)).length ≤ 1 := by
  have hclosed : ∀ g : ForwardServer, (Notice.marks d (g.deserted.map .close)).length ≤ 1 := by
    intro g
    rw [marks_close nodup_deserted]
    split
    · exact Nat.le_refl 1
    · exact Nat.zero_le 1
  cases e with
  | newConnection sessionId socket init => exact Nat.zero_le 1
  | publish deviceId pkt => exact Nat.zero_le 1
  | packetError sessionId =>
      exact hclosed { f with toPublisher := f.delSubscriberAll sessionId }
  | packetCompleted sessionId packet =>
      simp only [notices]
      split
      · split
        · exact List.length_filterMap_le _ _
        · exact Nat.zero_le 1
      · split
        · exact hclosed { f with
            toPublisher := f.delSubscriber (generateDeviceIdByBuffer packet.data) sessionId }
        · exact Nat.zero_le 1

/-- A closing is the end of a channel. -/
theorem close_mem_notices (hkeyed : f.Keyed) (e : Event) :
    .close d ∈ f.notices e ↔ f.exists' d = true ∧ (f.step e).exists' d = false := by
  obtain ⟨halternates, hexists⟩ := @exists'_step f d hkeyed e
  rw [Notice.close_mem_iff, hexists]
  exact halternates.off_iff (length_marks_notices e)

/-! ## §4. Whole runs. -/

/-- **Open and close notifications are balanced.**  Over any run, for any
device: the calls on the service are those of the notices, in order; the
creations and closings of the device's channel take turns, a creation first,
and the channel is there exactly when the last of them is a creation; between
two calls of `NotifyOpenCarTerminal` for it there is a close; the next event
creates the channel exactly when it is a SUBSCRIBE that finds none, with
`NotifyOpenCarTerminal` exactly when that is not from `web_server`; and it
closes the channel exactly when the channel was there and is no more. -/
theorem notices_balanced (isRealtime : Bool) (garbage : UInt8) (events : List Event)
    (d : UInt64) :
    let start := new isRealtime garbage
    let f := run step start events
    let history := emitted step notices start events
    f.service = history.flatMap start.calls
      ∧ Alternates false (Notice.marks d history)
      ∧ f.exists' d = level false (Notice.marks d history)
      ∧ (∀ a b c, history = a ++ .create d true :: (b ++ .create d true :: c) → .close d ∈ b)
      ∧ (∀ e notifyOpen, .create d notifyOpen ∈ f.notices e
          ↔ f.exists' d = false ∧ e.subscribes d (!notifyOpen))
      ∧ ∀ e, .close d ∈ f.notices e
          ↔ f.exists' d = true ∧ (f.step e).exists' d = false := by
  intro start f history
  have hstart : start.Keyed := keyed_new isRealtime garbage
  have halong : Along step (fun _ _ => True) start events :=
    along_of_forall (fun _ _ => trivial) events start
  have hkeep : ∀ (g : ForwardServer) (e : Event), g.Keyed → True → (g.step e).Keyed :=
    fun g e h _ => keyed_step h e
  -- the calls of a notice are the same in every state of the run
  have hservice : f.service = start.service ++ history.flatMap start.calls := by
    refine log_eq_emitted (J := fun g => g.Keyed ∧ g.calls = start.calls) service notices
      start.calls (fun g e h _ => ?_) (fun g e h _ => ?_) ⟨hstart, rfl⟩ halong
    · exact ⟨keyed_step h.1 e, (calls_step h.1 e).trans h.2⟩
    · rw [service_step h.1 e, h.2]
  obtain ⟨halternates, hexists⟩ :=
    alternates_emitted (fun g => g.exists' d) (fun g e => Notice.marks d (g.notices e)) hkeep
      (fun g e h _ => exists'_step h e) hstart halong
  have hnew : start.exists' d = false := by simp [start, new, Publisher.exists']
  rw [hnew, ← filterMap_emitted] at halternates hexists
  refine ⟨hservice, halternates, hexists, ?_, create_mem_notices,
    close_mem_notices (run_invariant hkeep hstart halong)⟩
  intro a b c hhistory
  have hmarks : Notice.marks d history
      = Notice.marks d a ++ true :: (Notice.marks d b ++ true :: Notice.marks d c) := by
    simp [hhistory, Notice.mark]
  have hturns : Alternates false (Notice.marks d history) := halternates
  rw [hmarks] at hturns
  exact Notice.close_mem_iff.mpr hturns.off_between

end ForwardServer

end MultiProcessServer.Forward
