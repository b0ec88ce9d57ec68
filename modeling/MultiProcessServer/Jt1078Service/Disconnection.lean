/-
  MultiProcessServer.Jt1078Service.Disconnection
  ──────────────────────────────────────────────
  Whose cars a subscriber's request disconnects.

  Main result:

    `spares_iff_safe` :
        a request of a subscriber, or its error, drops only cars that have
        sent a packet of a channel that loses its last subscriber by it,
        exactly when no channel it releases is mistaken for another car's.

  Between the forward server and the cars an id is text, cut to 14 digits,
  and the value 0 also stands for a car that has sent nothing.
-/
import MultiProcessServer.Jt1078Service.Jt1078Service

namespace MultiProcessServer

open Forward Jt1078

namespace Forward.ForwardServer

/-! ## §1. Which channels a subscriber's event releases. -/

/-- The subscriptions an event of a subscriber takes back. -/
def Event.drops : Event → UInt64 → UInt64 → Prop
  | .packetCompleted sessionId packet, s, d =>
      packet.type = Ipc.IPC_PKT_TYPE_UNSUBSCRIBE_DEVICE_ID ∧ s = sessionId
        ∧ d = generateDeviceIdByBuffer packet.data
  | .packetError sessionId, s, _ => s = sessionId
  | _, _, _ => False

/-- The events that run the release loop. -/
def Event.sweeps : Event → Prop
  | .packetCompleted _ packet => packet.type = Ipc.IPC_PKT_TYPE_UNSUBSCRIBE_DEVICE_ID
  | .packetError _ => True
  | _ => False

/-- What a subscriber can do once it is connected: send a packet, or err. -/
def Event.OfSubscriber : Event → Prop
  | .packetCompleted _ _ => True
  | .packetError _ => True
  | _ => False

variable {f : ForwardServer} {s d : UInt64}

/-- The event takes back every subscription to the channel there may be, and
runs the loop. -/
def Releases (f : ForwardServer) (e : Event) (d : UInt64) : Prop :=
  e.sweeps ∧ f.exists' d = true ∧ ∀ s, f.Subscribed s d → e.drops s d

/-- The channel has subscribers before the event, and none after it. -/
def Loses (f : ForwardServer) (e : Event) (d : UInt64) : Prop :=
  (∃ s, f.Subscribed s d) ∧ ∀ s, ¬(f.step e).Subscribed s d

theorem exists'_of_subscribed (h : f.Subscribed s d) : f.exists' d = true := by
  obtain ⟨channel, hchannel, -⟩ := h
  exact Publisher.exists'_iff.mpr ⟨channel, hchannel⟩

/-- Events of subscribers take back what they drop; only a SUBSCRIBE adds. -/
theorem subscribed_sweep (e : Event) (he : e.sweeps) :
    (f.step e).Subscribed s d ↔ f.Subscribed s d ∧ ¬e.drops s d := by
  cases e with
  | newConnection sessionId socket init => exact False.elim he
  | publish deviceId pkt => exact False.elim he
  | packetError sessionId =>
      show (f.onPacketError sessionId).Subscribed s d ↔ f.Subscribed s d ∧ ¬s = sessionId
      rw [onPacketError, subscribed_releaseChannel, and_comm]
      exact Publisher.subscribed_delSubscriberAll
  | packetCompleted sessionId packet =>
      have htype : packet.type = Ipc.IPC_PKT_TYPE_UNSUBSCRIBE_DEVICE_ID := he
      show (f.onPacketCompleted sessionId packet).Subscribed s d ↔ _
      obtain ⟨hsubscribe, -⟩ | ⟨-, -, h⟩ | ⟨-, hother, -⟩ :=
        f.onPacketCompleted_cases sessionId packet
      · rw [htype] at hsubscribe
        exact absurd hsubscribe (by decide)
      · rw [h, processPacketUnSubscriber, subscribed_releaseChannel, and_comm]
        simp only [Event.drops, htype, true_and]
        exact Publisher.subscribed_delSubscriber
      · exact absurd htype hother

/-- **What an event closes** is what it leaves without subscribers. -/
theorem close_mem_notices_iff (e : Event) :
    .close d ∈ f.notices e ↔ f.Releases e d := by
  have hclosed : ∀ p : Publisher, .close d ∈ p.deserted.map Notice.close
      ↔ p.exists' d = true ∧ ∀ s, ¬p.Subscribed s d := by
    intro p
    simp [Publisher.mem_deserted]
  cases e with
  | newConnection sessionId socket init => simp [notices, Releases, Event.sweeps]
  | publish deviceId pkt => simp [notices, Releases, Event.sweeps]
  | packetError sessionId =>
      simp only [notices, Releases, Event.sweeps, Event.drops, true_and, hclosed,
        Publisher.exists'_delSubscriberAll, Publisher.subscribed_delSubscriberAll, not_and,
        ne_eq, not_imp_not]
  | packetCompleted sessionId packet =>
      simp only [notices, Releases, Event.sweeps, Event.drops]
      by_cases hsubscribe : packet.type = Ipc.IPC_PKT_TYPE_SUBSCRIBE_DEVICE_ID
      · -- a SUBSCRIBE closes nothing
        rw [if_pos hsubscribe]
        refine iff_of_false (by split <;> simp) fun h => ?_
        rw [hsubscribe] at h
        exact absurd h.1 (by decide)
      · rw [if_neg hsubscribe]
        by_cases htype : packet.type = Ipc.IPC_PKT_TYPE_UNSUBSCRIBE_DEVICE_ID
        · rw [if_pos htype, hclosed]
          simp only [htype, true_and, Publisher.exists'_delSubscriber,
            Publisher.subscribed_delSubscriber]
          exact and_congr_right fun _ => forall_congr' fun x => by rw [not_and', not_not]
        · rw [if_neg htype]
          exact iff_of_false List.not_mem_nil fun h => htype h.1

/-- A channel loses its last subscriber when it has one and is released. -/
theorem loses_iff (e : Event) (he : e.OfSubscriber) :
    f.Loses e d ↔ (∃ s, f.Subscribed s d) ∧ f.Releases e d := by
  refine and_congr_right fun hsub => ?_
  obtain ⟨s₀, hs₀⟩ := hsub
  by_cases hsweeps : e.sweeps
  · simp only [subscribed_sweep e hsweeps, Releases, hsweeps, exists'_of_subscribed hs₀,
      true_and, not_and, not_not]
  · -- only a SUBSCRIBE or an ignored packet is left: nobody is lost
    refine iff_of_false (fun h => ?_) fun h => hsweeps h.1
    cases e with
    | newConnection sessionId socket init => exact False.elim he
    | publish deviceId pkt => exact False.elim he
    | packetError sessionId => exact hsweeps trivial
    | packetCompleted sessionId packet =>
        have hkept : (f.onPacketCompleted sessionId packet).Subscribed s₀ d := by
          obtain ⟨-, h⟩ | ⟨-, htype, -⟩ | ⟨-, -, h⟩ := f.onPacketCompleted_cases sessionId packet
          · rw [h, subscribed_processPacketSubscriber]
            exact Or.inr hs₀
          · exact absurd htype hsweeps
          · rw [h]
            exact hs₀
        exact h s₀ hkept

end Forward.ForwardServer

namespace Jt1078Service

variable {s : Jt1078Service} {isRealtime : Bool} {e : ForwardServer.Event}

/-! ## §2. Only that device's cars. -/

/-- Every car stays, except those of the same half that have sent a packet of
a channel that loses its last subscriber by the event. -/
def Spares (s : Jt1078Service) (isRealtime : Bool) (e : ForwardServer.Event) : Prop :=
  ∀ b x c, s.car b x = some c →
    (s.onForward isRealtime e).car b x = some c
      ∨ b = isRealtime
        ∧ ∃ pkt ∈ c.received, (s.forwardServer isRealtime).Loses e pkt.deviceId

/-- What can go wrong does not. -/
structure Safe (s : Jt1078Service) (isRealtime : Bool) (e : ForwardServer.Event) : Prop where
  /-- When channel 0 is released, no car has sent nothing. -/
  unidentified : (s.forwardServer isRealtime).Releases e 0 →
    (∃ x, (s.forwardServer isRealtime).Subscribed x 0) →
    ∀ x c, s.car isRealtime x = some c → c.received ≠ []
  /-- When a channel is released whose id does not fit its text, or which had
  no subscribers before, no car has the id the text spells, unless the car
  has sent a packet of a channel that does lose its last subscriber. -/
  spelled : ∀ d, (s.forwardServer isRealtime).Releases e d →
    (2 ^ 56 ≤ d.toNat ∨ ∀ x, ¬(s.forwardServer isRealtime).Subscribed x d) →
    ∀ x c, s.car isRealtime x = some c → c.deviceId = spelledId (s.forwardServer isRealtime) d →
      ∃ pkt ∈ c.received, (∃ x, (s.forwardServer isRealtime).Subscribed x pkt.deviceId)
        ∧ (s.forwardServer isRealtime).Releases e pkt.deviceId

theorem spelledId_of_lt {f : ForwardServer} {d : UInt64} (hlt : d.toNat < 2 ^ 56) :
    spelledId f d = d := generateDeviceId_generateDeviceIdStr f.garbage hlt

/-- A car that has sent nothing has no identity. -/
theorem deviceId_of_received_nil {c : CarSession} (h : c.Named) (hnil : c.received = []) :
    c.deviceId = INVALID_DEVICE_ID := by
  rw [h.deviceId, hnil]
  rfl

theorem Safe.spares (hsound : s.Sound) (he : e.OfSubscriber) (h : s.Safe isRealtime e) :
    s.Spares isRealtime e := by
  intro b x c hc
  rw [car_onForward (hsound.keyed isRealtime) (hsound.isRealtime isRealtime)]
  refine or_iff_not_imp_left.mpr fun hgone => ?_
  obtain ⟨hb, d, hclose, hid⟩ := not_not.mp fun hstays => hgone ⟨hc, hstays⟩
  subst hb
  refine ⟨rfl, ?_⟩
  simp only [ForwardServer.loses_iff e he]
  rw [ForwardServer.close_mem_notices_iff] at hclose
  by_cases hplain : d.toNat < 2 ^ 56 ∧ ∃ x, (s.forwardServer b).Subscribed x d
  · -- the text spells `d` itself, and `d` loses its last subscriber
    obtain ⟨hlt, hsub⟩ := hplain
    rw [spelledId_of_lt hlt] at hid
    by_cases hnil : c.received = []
    · have hzero : d = 0 := hid.symm.trans (deviceId_of_received_nil (hsound.named b x c hc) hnil)
      subst hzero
      exact absurd hnil (h.unidentified hclose hsub x c hc)
    · obtain ⟨pkt, hpkt, hpktId⟩ := (hsound.named b x c hc).exists_received hnil
      rw [hid] at hpktId
      exact ⟨pkt, hpkt, hpktId ▸ hsub, hpktId ▸ hclose⟩
  · rw [not_and_or, not_lt, not_exists] at hplain
    exact h.spelled d hclose hplain x c hc hid

theorem Spares.safe (hsound : s.Sound) (he : e.OfSubscriber) (h : s.Spares isRealtime e) :
    s.Safe isRealtime e := by
  -- a car with the id a released channel spells does not stay
  have hgone : ∀ d x c, (s.forwardServer isRealtime).Releases e d →
      s.car isRealtime x = some c → c.deviceId = spelledId (s.forwardServer isRealtime) d →
      ∃ pkt ∈ c.received, (s.forwardServer isRealtime).Loses e pkt.deviceId := by
    intro d x c hreleases hc hid
    rcases h isRealtime x c hc with hstays | ⟨-, hlost⟩
    · rw [car_onForward (hsound.keyed isRealtime) (hsound.isRealtime isRealtime)] at hstays
      refine absurd ⟨rfl, d, ?_, hid⟩ hstays.2
      exact (ForwardServer.close_mem_notices_iff e).mpr hreleases
    · exact hlost
  constructor
  · intro hreleases _ x c hc hnil
    have hid : c.deviceId = spelledId (s.forwardServer isRealtime) 0 := by
      rw [spelledId_of_lt (by decide)]
      exact deviceId_of_received_nil (hsound.named isRealtime x c hc) hnil
    obtain ⟨pkt, hpkt, -⟩ := hgone 0 x c hreleases hc hid
    simp [hnil] at hpkt
  · intro d hreleases _ x c hc hid
    simp only [← ForwardServer.loses_iff e he]
    exact hgone d x c hreleases hc hid

/-- **A subscriber's request disconnects only that device's cars, as long as
no id is mistaken.**  In every state the service can reach, and for every
packet or error of a subscriber of either half: only cars that have sent a
packet of a channel that loses its last subscriber are dropped, exactly when
the event is `Safe` there. -/
theorem spares_iff_safe (garbage : UInt8) (events : List Event) (isRealtime : Bool)
    (e : ForwardServer.Event) (he : e.OfSubscriber) :
    let s := Runs.run step (new garbage) events
    s.Spares isRealtime e ↔ s.Safe isRealtime e := by
  intro s
  have hsound : s.Sound := sound_run garbage events
  exact ⟨fun h => h.safe hsound he, fun h => h.spares hsound he⟩

/-- A car connects and has sent nothing yet; a subscriber takes back a
subscription whose payload denotes 0, and the car is gone. -/
theorem spares_fails_on_device_zero :
    let subscribe : Ipc.Packet := ⟨⟨16, 1, 0, Ipc.IPC_PKT_TYPE_SUBSCRIBE_DEVICE_ID⟩, [48], rfl⟩
    let unsubscribe : Ipc.Packet :=
      ⟨⟨16, 1, 1, Ipc.IPC_PKT_TYPE_UNSUBSCRIBE_DEVICE_ID⟩, [48], rfl⟩
    let s := Runs.run step (new 0)
      [.subscriberConnection true 7 [] true, .subscriberPacket true 7 subscribe,
        .carConnection true 3 true]
    ¬s.Spares true (.packetCompleted 7 unsubscribe) := by
  intro subscribe unsubscribe s h
  have hcar : s.car true 3 = some .new := by decide
  have hgone : (s.onForward true (.packetCompleted 7 unsubscribe)).car true 3 = none := by decide
  rcases h true 3 .new hcar with hstays | ⟨-, pkt, hpkt, -⟩
  · rw [hgone] at hstays
    exact absurd hstays.symm (Option.some_ne_none _)
  · exact absurd hpkt List.not_mem_nil

/-- Two subscribers of one device, of which one errs: nobody's car is dropped. -/
theorem spares_iff_safe_two_subscribers :
    let subscribe : Ipc.Packet := ⟨⟨16, 1, 0, Ipc.IPC_PKT_TYPE_SUBSCRIBE_DEVICE_ID⟩, [49], rfl⟩
    let s := Runs.run step (new 0)
      [.subscriberConnection true 7 [] true, .subscriberConnection true 8 [] true,
        .subscriberPacket true 7 subscribe, .subscriberPacket true 8 subscribe,
        .carConnection true 3 true]
    s.Spares true (.packetError 8) ↔ s.Safe true (.packetError 8) :=
  spares_iff_safe 0
    [.subscriberConnection true 7 [] true, .subscriberConnection true 8 [] true,
      .subscriberPacket true 7 ⟨⟨16, 1, 0, Ipc.IPC_PKT_TYPE_SUBSCRIBE_DEVICE_ID⟩, [49], rfl⟩,
      .subscriberPacket true 8 ⟨⟨16, 1, 0, Ipc.IPC_PKT_TYPE_SUBSCRIBE_DEVICE_ID⟩, [49], rfl⟩,
      .carConnection true 3 true]
    true (.packetError 8) trivial

end Jt1078Service

end MultiProcessServer
