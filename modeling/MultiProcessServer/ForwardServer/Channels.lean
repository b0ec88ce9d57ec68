/-
  MultiProcessServer.ForwardServer.Channels
  ─────────────────────────────────────────
  When a channel is there, and whether anybody listens to it.

  Main result:

    `attended_iff_publishes_reach` :
        no channel is left without a subscriber in a run exactly when every
        `Publish` to a channel reaches a subscriber that survives it.

  `ProcessPacket_UnSubscriber` and `OnPacketError` release the channels they
  empty; `Publish` erases the subscribers it cannot write to and does not.
-/
import MultiProcessServer.ForwardServer.ForwardServer

namespace MultiProcessServer.Forward

namespace Publisher

/-! ## §1. Which channels there are. -/

variable {p : Publisher} {d : UInt64}

/-- Every channel lies under its own id. -/
def Keyed (p : Publisher) : Prop :=
  ∀ (d : UInt64) (channel : Channel), p.mapChannel[d]? = some channel → channel.channelId = d

theorem exists'_eq : p.exists' d = (p.mapChannel[d]?).isSome :=
  Std.TreeMap.contains_eq_isSome_getElem?

/-- Writing a channel under its id. -/
theorem Keyed.insert (h : p.Keyed) {channelId : UInt64} {channel : Channel}
    (hid : channel.channelId = channelId) :
    ({ p with mapChannel := p.mapChannel.insert channelId channel } : Publisher).Keyed := by
  intro d c hc
  rw [Std.TreeMap.getElem?_insert] at hc
  split at hc
  next heq =>
      rw [Std.LawfulEqOrd.compare_eq_iff_eq] at heq
      rw [← heq, ← hid]
      exact congrArg Channel.channelId (Option.some.inj hc).symm
  next => exact h d c hc

theorem exists'_insert {channelId : UInt64} {channel : Channel} :
    ({ p with mapChannel := p.mapChannel.insert channelId channel } : Publisher).exists' d
      = (decide (d = channelId) || p.exists' d) := by
  simp only [exists', Std.TreeMap.contains_insert]
  congr 1
  rw [Bool.eq_iff_iff, beq_iff_eq, Std.LawfulEqOrd.compare_eq_iff_eq, decide_eq_true_iff, eq_comm]

/-- Rewriting a channel that is there. -/
theorem exists'_rewrite {channelId : UInt64} {old channel : Channel}
    (hold : p.mapChannel[channelId]? = some old) :
    ({ p with mapChannel := p.mapChannel.insert channelId channel } : Publisher).exists' d
      = p.exists' d := by
  rw [exists'_insert]
  by_cases h : d = channelId
  · subst h
    simp [exists'_eq, hold]
  · simp [h]

theorem Keyed.createChannel (h : p.Keyed) (channelId : UInt64) :
    (p.createChannel channelId).Keyed := h.insert rfl

theorem Keyed.addSubscriber (h : p.Keyed) (channelId sessionId : UInt64) :
    (p.addSubscriber channelId sessionId).Keyed := by
  unfold Publisher.addSubscriber
  split
  next => exact h
  next channel hchannel => exact h.insert (h channelId channel hchannel)

theorem Keyed.delSubscriber (h : p.Keyed) (channelId sessionId : UInt64) :
    (p.delSubscriber channelId sessionId).Keyed := by
  unfold Publisher.delSubscriber
  split
  next => exact h
  next channel hchannel => exact h.insert (h channelId channel hchannel)

theorem Keyed.delSubscriberAll (h : p.Keyed) (sessionId : UInt64) :
    (p.delSubscriberAll sessionId).Keyed := by
  intro d c hc
  rw [Publisher.delSubscriberAll, Std.TreeMap.getElem?_map, Option.map_eq_some_iff] at hc
  obtain ⟨channel, hchannel, hc⟩ := hc
  rw [← hc]
  exact h d channel hchannel

theorem Keyed.publish (h : p.Keyed) (channelId : UInt64) (message : Message)
    (sessions : Sessions) : (p.publish channelId message sessions).1.Keyed := by
  unfold Publisher.publish
  split
  next => exact h
  next channel hchannel => exact h.insert (h channelId channel hchannel)

theorem exists'_createChannel {channelId : UInt64} :
    (p.createChannel channelId).exists' d = (decide (d = channelId) || p.exists' d) :=
  exists'_insert

theorem exists'_addSubscriber {channelId sessionId : UInt64} :
    (p.addSubscriber channelId sessionId).exists' d = p.exists' d := by
  unfold addSubscriber
  split
  next => rfl
  next channel hchannel => exact exists'_rewrite hchannel

theorem exists'_delSubscriber {channelId sessionId : UInt64} :
    (p.delSubscriber channelId sessionId).exists' d = p.exists' d := by
  unfold delSubscriber
  split
  next => rfl
  next channel hchannel => exact exists'_rewrite hchannel

theorem exists'_delSubscriberAll {sessionId : UInt64} :
    (p.delSubscriberAll sessionId).exists' d = p.exists' d := by
  rw [exists'_eq, exists'_eq, delSubscriberAll, Std.TreeMap.getElem?_map, Option.isSome_map]

theorem exists'_publish {channelId : UInt64} {message : Message} {sessions : Sessions} :
    (p.publish channelId message sessions).1.exists' d = p.exists' d := by
  unfold publish
  split
  next => rfl
  next channel hchannel => exact exists'_rewrite hchannel

/-- A channel is empty when nobody subscribes to it. -/
theorem empty_iff {channel : Channel} (h : p.mapChannel[d]? = some channel) :
    channel.empty = true ↔ ∀ s, ¬p.Subscribed s d := by
  simp only [subscribed_of_getElem h]
  exact Std.TreeSet.isEmpty_iff_forall_not_mem

/-- The channels that have lost their last subscriber, in the order of the map. -/
def deserted (p : Publisher) : List UInt64 :=
  p.mapChannel.keys.filter fun d => (p.mapChannel[d]?).any Channel.empty

theorem mem_deserted : d ∈ p.deserted ↔ p.exists' d = true ∧ ∀ s, ¬p.Subscribed s d := by
  rw [deserted, List.mem_filter, Std.TreeMap.mem_keys, ← Std.TreeMap.contains_iff_mem]
  refine and_congr_right fun hexists => ?_
  obtain ⟨channel, hchannel⟩ := exists'_iff.mp hexists
  rw [hchannel, Option.any_some, empty_iff hchannel]

end Publisher

namespace ForwardServer

variable {f : ForwardServer} {s d : UInt64}

/-! ## §2. The release loop. -/

/-- The loop over any of the channels.  `releaseIfEmpty` reads the map the
loop starts from, so each channel is judged on its own. -/
theorem visit_releaseIfEmpty (hkeyed : f.Keyed) (ks : List UInt64) (service : List ServiceCall) :
    Container.visit f.releaseIfEmpty ks service
      = (ks.filter fun d => (f.mapChannel[d]?).any Channel.empty,
          service ++ (ks.filter fun d => (f.mapChannel[d]?).any Channel.empty).flatMap
            f.notifyCloseCarTerminal) := by
  induction ks generalizing service with
  | nil => simp [Container.visit]
  | cons k ks ih =>
      unfold Container.visit
      cases hk : f.mapChannel[k]? with
      | none =>
          have hbody : f.releaseIfEmpty service k = (true, service) := by
            simp [releaseIfEmpty, hk]
          simp [hbody, ih, hk]
      | some channel =>
          cases hempty : channel.empty with
          | false =>
              have hbody : f.releaseIfEmpty service k = (true, service) := by
                simp [releaseIfEmpty, hk, hempty]
              simp [hbody, ih, hk, hempty]
          | true =>
              have hid : channel.getChannelId = k := hkeyed k channel hk
              have hbody : f.releaseIfEmpty service k
                  = (false, service ++ f.notifyCloseCarTerminal k) := by
                simp [releaseIfEmpty, hk, hempty, hid]
              simp [hbody, ih, hk, hempty]

/-- **`ReleaseChannelIfEmptySubscriber`** erases the deserted channels and
reports each of them. -/
theorem releaseChannel_eq (hkeyed : f.Keyed) :
    f.releaseChannelIfEmptySubscriber
      = { f with
          mapChannel := f.deserted.foldl Container.treeMap.erase f.mapChannel
          service := f.service ++ f.deserted.flatMap f.notifyCloseCarTerminal } := by
  unfold releaseChannelIfEmptySubscriber
  rw [Container.sweep_eq, visit_releaseIfEmpty hkeyed]
  rfl

theorem getElem?_foldl_erase_of_mem {ds : List UInt64} {m : Std.TreeMap UInt64 Channel}
    (h : d ∈ ds) : (ds.foldl Container.treeMap.erase m)[d]? = none := by
  refine Std.TreeMap.getElem?_eq_none fun hmem => ?_
  rw [← Container.mem_keys_treeMap, Container.mem_keys_foldl_erase] at hmem
  exact hmem.1 h

/-- After the loop exactly the channels with subscribers are there. -/
theorem exists'_releaseChannel (hkeyed : f.Keyed) :
    f.releaseChannelIfEmptySubscriber.exists' d = true
      ↔ f.exists' d = true ∧ ∃ s, f.Subscribed s d := by
  rw [releaseChannel_eq hkeyed, Publisher.exists'_eq]
  by_cases hd : d ∈ f.deserted
  · have hnone := Publisher.mem_deserted.mp hd
    rw [getElem?_foldl_erase_of_mem hd]
    exact iff_of_false Bool.false_ne_true fun h => h.2.elim hnone.2
  · rw [Container.getElem?_foldl_erase _ _ _ hd, ← Publisher.exists'_eq]
    rw [Publisher.mem_deserted, not_and, not_forall_not] at hd
    exact ⟨fun h => ⟨h, hd h⟩, And.left⟩

theorem keyed_releaseChannel (hkeyed : f.Keyed) :
    f.releaseChannelIfEmptySubscriber.Keyed := by
  rw [releaseChannel_eq hkeyed]
  intro d channel hchannel
  by_cases hd : d ∈ f.deserted
  · rw [getElem?_foldl_erase_of_mem hd] at hchannel
    exact absurd hchannel.symm (Option.some_ne_none channel)
  · rw [Container.getElem?_foldl_erase _ _ _ hd] at hchannel
    exact hkeyed d channel hchannel

/-! ## §3. One event. -/

theorem exists'_processPacketSubscriber {sessionId : UInt64} {packet : Ipc.Packet} :
    (f.processPacketSubscriber sessionId packet).exists' d
      = (decide (d = generateDeviceIdByBuffer packet.data) || f.exists' d) := by
  simp only [processPacketSubscriber]
  cases hexists : f.exists' (generateDeviceIdByBuffer packet.data) with
  | true =>
      simp only [Bool.not_true, Bool.false_eq_true, if_false, Publisher.exists'_addSubscriber]
      by_cases hd : d = generateDeviceIdByBuffer packet.data
      · simp [hd, hexists]
      · simp [hd]
  | false =>
      simp only [Bool.not_false, if_true, Publisher.exists'_addSubscriber]
      rw [← Publisher.exists'_createChannel]
      split <;> rfl

theorem keyed_processPacketSubscriber (hkeyed : f.Keyed) (sessionId : UInt64)
    (packet : Ipc.Packet) : (f.processPacketSubscriber sessionId packet).Keyed := by
  rw [processPacketSubscriber]
  apply Publisher.Keyed.addSubscriber
  split
  · split <;> exact hkeyed.createChannel _
  · exact hkeyed

/-- The type of a packet decides which handler sees it. -/
theorem onPacketCompleted_cases (sessionId : UInt64) (packet : Ipc.Packet) :
    (packet.type = Ipc.IPC_PKT_TYPE_SUBSCRIBE_DEVICE_ID
        ∧ f.onPacketCompleted sessionId packet = f.processPacketSubscriber sessionId packet)
      ∨ (packet.type ≠ Ipc.IPC_PKT_TYPE_SUBSCRIBE_DEVICE_ID
        ∧ packet.type = Ipc.IPC_PKT_TYPE_UNSUBSCRIBE_DEVICE_ID
        ∧ f.onPacketCompleted sessionId packet = f.processPacketUnSubscriber sessionId packet)
      ∨ (packet.type ≠ Ipc.IPC_PKT_TYPE_SUBSCRIBE_DEVICE_ID
        ∧ packet.type ≠ Ipc.IPC_PKT_TYPE_UNSUBSCRIBE_DEVICE_ID
        ∧ f.onPacketCompleted sessionId packet = f) := by
  unfold onPacketCompleted
  by_cases hsubscribe : packet.type = Ipc.IPC_PKT_TYPE_SUBSCRIBE_DEVICE_ID
  · have hheartbeat : packet.type ≠ Ipc.IPC_PKT_TYPE_HEARTBEAT := by rw [hsubscribe]; decide
    exact Or.inl ⟨hsubscribe, by rw [if_neg hheartbeat, if_pos hsubscribe]⟩
  · by_cases hunsubscribe : packet.type = Ipc.IPC_PKT_TYPE_UNSUBSCRIBE_DEVICE_ID
    · have hheartbeat : packet.type ≠ Ipc.IPC_PKT_TYPE_HEARTBEAT := by
        rw [hunsubscribe]; decide
      exact Or.inr (Or.inl ⟨hsubscribe, hunsubscribe,
        by rw [if_neg hheartbeat, if_neg hsubscribe, if_pos hunsubscribe]⟩)
    · exact Or.inr (Or.inr ⟨hsubscribe, hunsubscribe,
        by rw [if_neg hsubscribe, if_neg hunsubscribe, ite_self]⟩)

theorem keyed_processPacketUnSubscriber (hkeyed : f.Keyed) (sessionId : UInt64)
    (packet : Ipc.Packet) : (f.processPacketUnSubscriber sessionId packet).Keyed :=
  keyed_releaseChannel (hkeyed.delSubscriber _ _)

theorem keyed_onPacketError (hkeyed : f.Keyed) (sessionId : UInt64) :
    (f.onPacketError sessionId).Keyed :=
  keyed_releaseChannel (hkeyed.delSubscriberAll _)

theorem keyed_onNewConnection (hkeyed : f.Keyed) (sessionId : UInt64) (socket : List SockResult)
    (init : Bool) : (f.onNewConnection sessionId socket init).Keyed := by
  cases init with
  | false => exact hkeyed
  | true => exact hkeyed

/-- **Channels lie under their ids**, whatever happens. -/
theorem keyed_step (hkeyed : f.Keyed) (e : Event) : (f.step e).Keyed := by
  cases e with
  | newConnection sessionId socket init =>
      exact keyed_onNewConnection hkeyed sessionId socket init
  | packetError sessionId => exact keyed_onPacketError hkeyed sessionId
  | publish deviceId pkt => exact hkeyed.publish deviceId ⟨deviceId, pkt⟩ f.sessions
  | packetCompleted sessionId packet =>
      show (f.onPacketCompleted sessionId packet).Keyed
      obtain ⟨-, h⟩ | ⟨-, -, h⟩ | ⟨-, -, h⟩ := f.onPacketCompleted_cases sessionId packet
      · rw [h]
        exact keyed_processPacketSubscriber hkeyed sessionId packet
      · rw [h]
        exact keyed_processPacketUnSubscriber hkeyed sessionId packet
      · rw [h]
        exact hkeyed

theorem keyed_new (isRealtime : Bool) (garbage : UInt8) : (new isRealtime garbage).Keyed := by
  intro d channel hchannel
  simp [new] at hchannel

/-! ## §4. Nobody keeps an empty channel, except `Publish`. -/

/-- Every channel has a subscriber. -/
def Attended (f : ForwardServer) : Prop := ∀ d, f.exists' d = true → ∃ s, f.Subscribed s d

/-- A `Publish` to a channel that is there finds a subscriber that can be
written to, and can still be after its `SendMsg`. -/
def Reaches (f : ForwardServer) : Event → Prop
  | .publish deviceId pkt =>
      f.exists' deviceId = true → ∃ s, f.Subscribed s deviceId
        ∧ (f.sessions s).isCanWrite = true
        ∧ ((f.sessions s).sendMsg ⟨deviceId, pkt⟩).2.isCanWrite = true
  | _ => True

/-- The release loop leaves no empty channel. -/
theorem attended_releaseChannel (hkeyed : f.Keyed) :
    f.releaseChannelIfEmptySubscriber.Attended := by
  intro d hd
  obtain ⟨-, s, hs⟩ := (exists'_releaseChannel hkeyed).mp hd
  exact ⟨s, subscribed_releaseChannel.mpr hs⟩

theorem attended_processPacketSubscriber (h : f.Attended) (sessionId : UInt64)
    (packet : Ipc.Packet) : (f.processPacketSubscriber sessionId packet).Attended := by
  intro d hd
  rw [exists'_processPacketSubscriber, Bool.or_eq_true, decide_eq_true_iff] at hd
  rcases hd with hd | hd
  · exact ⟨sessionId, subscribed_processPacketSubscriber.mpr (Or.inl ⟨rfl, hd⟩)⟩
  · obtain ⟨s, hs⟩ := h d hd
    exact ⟨s, subscribed_processPacketSubscriber.mpr (Or.inr hs)⟩

/-- Being offered a message leaves a subscriber writable if it was, and the
send did not break its session. -/
theorem isCanWrite_offered (message : Message) (b : Subscriber) :
    (Container.offered Subscriber.isCanWrite (fun s => (s.sendMsg message).2) b).isCanWrite = true
      ↔ b.isCanWrite = true ∧ (b.sendMsg message).2.isCanWrite = true := by
  unfold Container.offered
  cases hcan : b.isCanWrite with
  | false => simp [hcan]
  | true => simp

/-- Only the channel published to can lose its subscribers. -/
theorem attended_publish_iff (h : f.Attended) (deviceId : UInt64) (pkt : Jt1078.Packet) :
    (f.publish deviceId pkt).Attended ↔ f.Reaches (.publish deviceId pkt) := by
  have hexists : ∀ d, (f.publish deviceId pkt).exists' d = f.exists' d := fun d =>
    Publisher.exists'_publish
  have hsub : ∀ s d, (f.publish deviceId pkt).Subscribed s d ↔ f.Subscribed s d
      ∧ (d = deviceId → ((f.sessions s).isCanWrite = true
          ∧ ((f.sessions s).sendMsg ⟨deviceId, pkt⟩).2.isCanWrite = true)) := by
    classical
    intro s d
    refine Publisher.subscribed_publish.trans (and_congr_right fun hs => ?_)
    refine forall_congr' fun hd => ?_
    rw [Publisher.publish_sessions, if_pos (hd ▸ hs), isCanWrite_offered]
  constructor
  · intro hattended hd
    obtain ⟨s, hs⟩ := hattended deviceId ((hexists deviceId).trans hd)
    obtain ⟨hs, hsurvives⟩ := (hsub s deviceId).mp hs
    exact ⟨s, hs, hsurvives rfl⟩
  · intro hreaches d hd
    rw [hexists] at hd
    by_cases heq : d = deviceId
    · obtain ⟨s, hs, hsurvives⟩ := hreaches (heq ▸ hd)
      exact ⟨s, (hsub s d).mpr ⟨heq ▸ hs, fun _ => hsurvives⟩⟩
    · obtain ⟨s, hs⟩ := h d hd
      exact ⟨s, (hsub s d).mpr ⟨hs, fun h => absurd h heq⟩⟩

/-- One event leaves every channel attended exactly when it is no `Publish`
that loses the last subscriber. -/
theorem attended_step_iff (hkeyed : f.Keyed) (h : f.Attended) (e : Event) :
    (f.step e).Attended ↔ f.Reaches e := by
  cases e with
  | newConnection sessionId socket init =>
      refine iff_of_true ?_ trivial
      show (f.onNewConnection sessionId socket init).Attended
      cases init with
      | false => exact h
      | true => exact h
  | packetError sessionId =>
      exact iff_of_true (attended_releaseChannel (hkeyed.delSubscriberAll sessionId)) trivial
  | publish deviceId pkt => exact attended_publish_iff h deviceId pkt
  | packetCompleted sessionId packet =>
      refine iff_of_true ?_ trivial
      show (f.onPacketCompleted sessionId packet).Attended
      obtain ⟨-, heq⟩ | ⟨-, -, heq⟩ | ⟨-, -, heq⟩ := f.onPacketCompleted_cases sessionId packet
      · rw [heq]
        exact attended_processPacketSubscriber h sessionId packet
      · rw [heq]
        exact attended_releaseChannel (hkeyed.delSubscriber _ sessionId)
      · rw [heq]
        exact h

/-- **No channel is kept without a subscriber, as long as `Publish` reaches
somebody.**  In every state of a run each channel has a subscriber exactly when
no `Publish` of the run finds only subscribers it cannot write to, or breaks
the last one it can. -/
theorem attended_iff_publishes_reach (isRealtime : Bool) (garbage : UInt8)
    (events : List Event) :
    (∀ pre, pre <+: events → (Runs.run step (new isRealtime garbage) pre).Attended)
      ↔ Runs.Along step Reaches (new isRealtime garbage) events := by
  have hkeep : ∀ (f : ForwardServer) (e : Event), f.Keyed ∧ f.Attended → True → f.Reaches e →
      (f.step e).Keyed ∧ (f.step e).Attended := fun f e h _ hreaches =>
    ⟨keyed_step h.1 e, (attended_step_iff h.1 h.2 e).mpr hreaches⟩
  have hiff : ∀ (f : ForwardServer) (e : Event), f.Keyed ∧ f.Attended → True →
      ((f.step e).Attended ↔ f.Reaches e) := fun f e h _ => attended_step_iff h.1 h.2 e
  have hattended : (new isRealtime garbage).Attended := by
    intro d hd
    simp [new, Publisher.exists'] at hd
  exact Runs.always_iff_along Attended hkeep hiff ⟨keyed_new isRealtime garbage, hattended⟩
    hattended (Runs.along_of_forall (fun _ _ => trivial) events _)

/-- The only subscriber of channel 1 meets a hard write error: the channel
stays, with nobody in it. -/
theorem attended_fails_on_write_error :
    let subscribe : Ipc.Packet := ⟨⟨16, 1, 0, Ipc.IPC_PKT_TYPE_SUBSCRIBE_DEVICE_ID⟩, [49], rfl⟩
    let pkt : Jt1078.Packet :=
      ⟨{ Jt1078.Header.cleared with bt1LogicChannelNumber := 1 }, [], rfl⟩
    let f := Runs.run step (new true 0)
      [.newConnection 7 [.hardError] true, .packetCompleted 7 subscribe, .publish 1 pkt]
    ¬f.Attended := by
  intro subscribe pkt f h
  have hdeserted : 1 ∈ f.deserted := by decide
  obtain ⟨hexists, hnobody⟩ := Publisher.mem_deserted.mp hdeserted
  obtain ⟨s, hs⟩ := h 1 hexists
  exact hnobody s hs

end ForwardServer

end MultiProcessServer.Forward
