/-
  MultiProcessServer.PcServer.Watching
  ────────────────────────────────────
  **A VIEWER WATCHES AT MOST ONE DEVICE, THE ONE IT NAMES.**

  `Inv` is what every handler of `PcServer` keeps.  Membership lives in the
  channels, identity in the string of the session; the invariant ties them
  through the number the string denotes, which is what `DelSubscriber` is
  given, so that strings which differ but denote one device do no harm.
-/
import MultiProcessServer.PcServer.Effects

namespace MultiProcessServer.PcServer

variable {p q : PcServer} {pc s d : UInt64}

/-! ## §1. The invariant. -/

structure Inv (p : PcServer) : Prop where
  /-- `PcManager` holds the sessions there are. -/
  managed : ∀ s, s ∈ p.pcManager ↔ s ∈ p.roster.live
  grounded : p.roster.Grounded
  /-- Sessions in channels are in `PcManager`. -/
  registered : ∀ s d, p.Subscribed s d → s ∈ p.pcManager
  watching : p.Watching

theorem inv_new (garbage : UInt8) : (new garbage).Inv where
  managed s := by simp [new]
  grounded := Roster.grounded_empty
  registered s d h := by simp [new, Subscribed, PcPublisher.Subscribed] at h
  watching s d h := by simp [new, Subscribed, PcPublisher.Subscribed] at h

theorem Inv.quiet (h : p.Inv) (hq : Quiet p q) : q.Inv where
  managed s := by rw [hq.pcManager, hq.roster]; exact h.managed s
  grounded := hq.roster ▸ h.grounded
  registered s d hsub := hq.pcManager ▸ h.registered s d (hq.subscribed.mp hsub)
  watching s d hsub := by
    unfold Names
    rw [hq.getDeviceId]
    exact h.watching s d (hq.subscribed.mp hsub)

theorem inv_init (garbage : UInt8) (result : Option ConnectResult) :
    (init garbage result).2.Inv := by
  have hnew : Inv { new garbage with heartbeatTimer := true } :=
    (inv_new garbage).quiet ⟨rfl, rfl, rfl, rfl, rfl, rfl⟩
  exact hnew.quiet (quiet_asyncConnectServer result)

/-! ## §2. One event. -/

theorem Granted.watching {strDeviceId : List UInt8} (h : p.Watching)
    (hq : Granted p pc strDeviceId q) : q.Watching := by
  intro s d hsub
  unfold Names
  rw [hq.getDeviceId]
  rw [hq.subscribed] at hsub
  split at hsub
  next heq => rwa [if_pos heq]
  next hne =>
      rw [if_neg hne]
      exact h s d hsub

theorem Granted.registered {strDeviceId : List UInt8}
    (h : ∀ s d, p.Subscribed s d → s ∈ p.pcManager) (hpc : pc ∈ p.pcManager)
    (hq : Granted p pc strDeviceId q) : ∀ s d, q.Subscribed s d → s ∈ p.pcManager := by
  intro s d hsub
  rw [hq.subscribed] at hsub
  split at hsub
  next heq => exact heq ▸ hpc
  next => exact h s d hsub

/-- A new session is in no channel: its id is new. -/
theorem Inv.newConnection (h : p.Inv) (socket : List SockResult) (init : Bool)
    (hadmits : p.Enabled (.newConnection pc socket init)) :
    (p.step (.newConnection pc socket init)).Inv := by
  cases init with
  | false => exact ⟨h.managed, h.grounded.next (.rejected pc), h.registered, h.watching⟩
  | true =>
      -- a handle never opened before is in no channel
      have hfresh : ∀ d, ¬p.Subscribed pc d := fun d hsub =>
        hadmits.1 (h.grounded pc ((h.managed pc).mp (h.registered pc d hsub)))
      refine ⟨?_, h.grounded.next (.opens pc), ?_, ?_⟩
      · intro s
        show s ∈ p.pcManager.insert pc ↔ s ∈ (p.roster.next (.opens pc)).live
        rw [Roster.mem_live_opens, Std.TreeSet.mem_insert, Std.LawfulEqOrd.compare_eq_iff_eq,
          @eq_comm _ pc, h.managed]
      · intro s d hsub
        exact Std.TreeSet.mem_insert.mpr (Or.inr (h.registered s d hsub))
      · intro s d hsub
        have hne : s ≠ pc := by
          intro heq
          subst heq
          exact hfresh d hsub
        have hsame : (p.step (.newConnection pc socket true)).getDeviceId s = p.getDeviceId s :=
          congrArg PcSession.getDeviceId (Function.update_of_ne hne _ _)
        unfold Names
        rw [hsame]
        exact h.watching s d hsub

theorem Inv.packetCompleted (h : p.Inv) (packet : Ipc.Packet)
    (hadmits : p.Enabled (.packetCompleted pc packet)) :
    (p.step (.packetCompleted pc packet)).Inv := by
  rw [step_packetCompleted h.watching]
  -- without the upstream the packet is not looked at
  rcases onPacketCompleted_cases (p := p) pc packet with heq | ⟨strDeviceId, hup, hasks⟩
  · rwa [heq]
  · have hq := @granted_onPacketCompleted p pc h.watching hup packet strDeviceId hasks
    have hpc : pc ∈ p.pcManager := (h.managed pc).mpr hadmits.1
    refine ⟨?_, hq.roster ▸ h.grounded, ?_, hq.watching h.watching⟩
    · intro s
      rw [hq.pcManager, hq.roster]
      exact h.managed s
    · intro s d hsub
      rw [hq.pcManager]
      exact hq.registered h.registered hpc s d hsub

theorem Inv.packetError (h : p.Inv) : (p.step (.packetError pc)).Inv := by
  have hq := @granted_unSubscribeDeviceId p pc h.watching
  refine ⟨?_, h.grounded.next (.closes pc), ?_,
    fun s d hsub => hq.watching h.watching s d hsub⟩
  · intro s
    show s ∈ (p.unSubscribeDeviceId pc).pcManager.erase pc
      ↔ s ∈ (p.roster.next (.closes pc)).live
    rw [hq.pcManager, Roster.mem_live_closes, Std.TreeSet.mem_erase, ne_eq, ne_eq,
      Std.LawfulEqOrd.compare_eq_iff_eq, @eq_comm _ pc, h.managed, and_comm]
  · intro s d hsub
    show s ∈ (p.unSubscribeDeviceId pc).pcManager.erase pc
    have hsub' := (subscribed_unSubscribeDeviceId h.watching).mp hsub
    rw [hq.pcManager, Std.TreeSet.mem_erase, ne_eq, Std.LawfulEqOrd.compare_eq_iff_eq]
    exact ⟨Ne.symm hsub'.1, h.registered s d hsub'.2⟩

/-- `Publish` takes members out of channels and leaves the device strings. -/
theorem Inv.clientMessage (h : p.Inv) (packet : Ipc.Packet) (behind : List UInt8) :
    (p.step (.clientMessage packet behind)).Inv := by
  have hsame : (p.step (.clientMessage packet behind)).roster = p.roster := rfl
  show Inv { p.onClientMessage packet behind with roster := p.roster }
  unfold onClientMessage
  split
  · generalize loadU64 (packet.data ++ behind) = deviceId
    refine ⟨h.managed, h.grounded, ?_, ?_⟩
    · intro s d hsub
      exact h.registered s d (PcPublisher.subscribed_publish.mp hsub).1
    · intro s d hsub
      have hname : ((p.pcPublisher.publish deviceId packet p.sessions).2.1 s).getDeviceId
          = p.getDeviceId s := PcPublisher.getDeviceId_publish
      show ((p.pcPublisher.publish deviceId packet p.sessions).2.1 s).getDeviceId ≠ []
        ∧ generateDeviceId
          ((p.pcPublisher.publish deviceId packet p.sessions).2.1 s).getDeviceId = d
      rw [hname]
      exact h.watching s d (PcPublisher.subscribed_publish.mp hsub).1
  · exact h

/-- **Every handler keeps the invariant.** -/
theorem Inv.step (h : p.Inv) (e : Event) (he : p.Enabled e) : (p.step e).Inv := by
  cases e with
  | newConnection pc socket init => exact h.newConnection socket init he
  | packetCompleted pc packet => exact h.packetCompleted packet he
  | packetError pc => exact h.packetError
  | clientMessage packet behind => exact h.clientMessage packet behind
  | clientConnect _ | clientCleared | clientError | connectTimer _ | heartbeatTimer =>
      exact h.quiet (quiet_step rfl)

/-! ## §3. Joining, leaving and being sent to. -/

/-- The event is a request of the session for the device. -/
def Event.AsksFor (e : Event) (s d : UInt64) : Prop :=
  ∃ packet strDeviceId, e = .packetCompleted s packet ∧ asks packet = some strDeviceId
    ∧ strDeviceId ≠ [] ∧ generateDeviceId strDeviceId = d

/-- The event takes the session away from the device: its error, or a request
for another device or for none that the server listens to. -/
def Leaves (p : PcServer) (e : Event) (s d : UInt64) : Prop :=
  e = .packetError s
    ∨ ∃ packet strDeviceId, e = .packetCompleted s packet ∧ p.isConnected = true
        ∧ asks packet = some strDeviceId
        ∧ ¬(strDeviceId ≠ [] ∧ generateDeviceId strDeviceId = d)

/-- A session only joins a channel it asked for. -/
theorem subscribed_step (h : p.Watching) (e : Event) (hsub : (p.step e).Subscribed s d) :
    p.Subscribed s d ∨ e.AsksFor s d := by
  cases e with
  | newConnection pc socket init => cases init <;> exact Or.inl hsub
  | packetCompleted pc packet =>
      rw [step_packetCompleted h] at hsub
      rcases onPacketCompleted_cases (p := p) pc packet with heq | ⟨strDeviceId, hup, hasks⟩
      · exact Or.inl (by rwa [heq] at hsub)
      · rw [(granted_onPacketCompleted h hup hasks).subscribed] at hsub
        split at hsub
        next heq => exact Or.inr ⟨packet, strDeviceId, by rw [heq], hasks, hsub⟩
        next => exact Or.inl hsub
  | packetError pc => exact Or.inl ((subscribed_unSubscribeDeviceId h).mp hsub).2
  | clientMessage packet behind =>
      have hsub' : (p.onClientMessage packet behind).Subscribed s d := hsub
      unfold onClientMessage at hsub'
      split at hsub'
      · exact Or.inl (PcPublisher.subscribed_publish.mp hsub').1
      · exact Or.inl hsub'
  | clientConnect _ | clientCleared | clientError | connectTimer _ | heartbeatTimer =>
      exact Or.inl ((quiet_step rfl).subscribed.mp hsub)

theorem not_subscribed_of_leaves (h : p.Watching) {e : Event} (hleaves : p.Leaves e s d) :
    ¬(p.step e).Subscribed s d := by
  rcases hleaves with rfl | ⟨packet, strDeviceId, rfl, hup, hasks, hother⟩
  · exact fun hsub => ((subscribed_unSubscribeDeviceId h).mp hsub).1 rfl
  · rw [step_packetCompleted h, (granted_onPacketCompleted h hup hasks).subscribed, if_pos rfl]
    exact hother

/-- `SendPacket` is only called on sessions in the channel of the packet. -/
theorem delivered_step (h : p.Watching) (e : Event) :
    ∃ sent, (p.step e).delivered = p.delivered ++ sent
      ∧ ∀ x ∈ sent, p.Subscribed x.1 x.2.1 := by
  have hsame : ∀ {q : PcServer}, q.delivered = p.delivered →
      ∃ sent, q.delivered = p.delivered ++ sent ∧ ∀ x ∈ sent, p.Subscribed x.1 x.2.1 :=
    fun hq => ⟨[], by rw [hq, List.append_nil], fun x hx => absurd hx List.not_mem_nil⟩
  cases e with
  | newConnection pc socket init => cases init <;> exact hsame rfl
  | packetCompleted pc packet =>
      rw [step_packetCompleted h]
      rcases onPacketCompleted_cases (p := p) pc packet with heq | ⟨strDeviceId, hup, hasks⟩
      · exact hsame (by rw [heq])
      · exact hsame (granted_onPacketCompleted h hup hasks).delivered
  | packetError pc => exact hsame (granted_unSubscribeDeviceId h).delivered
  | clientMessage packet behind =>
      show ∃ sent, (p.onClientMessage packet behind).delivered = p.delivered ++ sent ∧ _
      unfold onClientMessage
      split
      · refine ⟨_, rfl, ?_⟩
        intro x hx
        obtain ⟨pc, hpc, rfl⟩ := List.mem_map.mp hx
        exact PcPublisher.subscribed_of_mem_sent hpc
      · exact hsame rfl
  | clientConnect _ | clientCleared | clientError | connectTimer _ | heartbeatTimer =>
      exact hsame (quiet_step rfl).delivered

/-- A session that is not in a channel and does not ask for it is sent none of
its packets. -/
theorem delivered_run (events : List Event) (h : p.Inv)
    (hrun : Runs.Along step Enabled p events) (hnot : ¬p.Subscribed s d)
    (hasks : ∀ e ∈ events, ¬e.AsksFor s d) :
    ∃ sent, (Runs.run step p events).delivered = p.delivered ++ sent
      ∧ ∀ x ∈ sent, ¬(x.1 = s ∧ x.2.1 = d) := by
  induction events generalizing p with
  | nil => exact ⟨[], by simp, fun x hx => absurd hx List.not_mem_nil⟩
  | cons e es ih =>
      have hnot' : ¬(p.step e).Subscribed s d := fun hsub =>
        (subscribed_step h.watching e hsub).elim hnot (hasks e List.mem_cons_self)
      obtain ⟨now, hnow, hmem⟩ := delivered_step h.watching e
      obtain ⟨later, hlater, hmem'⟩ := ih (h.step e hrun.1) hrun.2 hnot'
        fun e he => hasks e (List.mem_cons_of_mem _ he)
      refine ⟨now ++ later, by rw [Runs.run_cons, hlater, hnow, List.append_assoc], ?_⟩
      intro x hx
      rcases List.mem_append.mp hx with hx | hx
      · intro hsame
        obtain ⟨rfl, rfl⟩ := hsame
        exact hnot (hmem x hx)
      · exact hmem' x hx

/-! ## §4. Every reachable state. -/

/-- **Every viewer watches at most one channel, the one it names.**  In every
state of every run, a session in a channel is in that channel only, is in
`PcManager`, and its string denotes the channel's device; and once a session
has left a device, no packet of the device published later reaches it unless
it asks for the device again. -/
theorem viewer_watches_the_device_it_names (garbage : UInt8) (result : Option ConnectResult)
    (events : List Event)
    (h : Runs.Along step Enabled (init garbage result).2 events) :
    let p := Runs.run step (init garbage result).2 events
    (∀ s d d', p.Subscribed s d → p.Subscribed s d' → d = d')
      ∧ (∀ s d, p.Subscribed s d →
          s ∈ p.pcManager ∧ p.getDeviceId s ≠ [] ∧ generateDeviceId (p.getDeviceId s) = d)
      ∧ ∀ (e : Event) (later : List Event) (s d : UInt64),
          Runs.Along step Enabled p (e :: later) → p.Leaves e s d →
          (∀ f ∈ later, ¬f.AsksFor s d) →
          ∃ sent, (Runs.run step (p.step e) later).delivered = (p.step e).delivered ++ sent
            ∧ ∀ x ∈ sent, ¬(x.1 = s ∧ x.2.1 = d) := by
  intro p
  have hinv : p.Inv := Runs.run_invariant (fun _ e hp => hp.step e) (inv_init garbage result) h
  refine ⟨?_, ?_, ?_⟩
  · intro s d d' hd hd'
    rw [← (hinv.watching s d hd).2, (hinv.watching s d' hd').2]
  · intro s d hd
    exact ⟨hinv.registered s d hd, hinv.watching s d hd⟩
  · intro e later s d hrun hleaves hasks
    exact delivered_run later (hinv.step e hrun.1) hrun.2
      (not_subscribed_of_leaves hinv.watching hleaves) hasks

/-- A viewer changes from device 1 to device 2. -/
theorem viewer_watches_the_device_it_names_after_switch :
    let one : Ipc.Packet := ⟨⟨16, 1, 0, Ipc.IPC_PKT_TYPE_SUBSCRIBE_DEVICE_ID⟩, [49], rfl⟩
    let two : Ipc.Packet := ⟨⟨16, 1, 1, Ipc.IPC_PKT_TYPE_SUBSCRIBE_DEVICE_ID⟩, [50], rfl⟩
    let p := Runs.run step (init 0 (some .connected)).2
      [.newConnection 7 [] true, .packetCompleted 7 one, .packetCompleted 7 two]
    ∀ s d d', p.Subscribed s d → p.Subscribed s d' → d = d' :=
  (viewer_watches_the_device_it_names 0 (some .connected)
    [.newConnection 7 [] true,
      .packetCompleted 7 ⟨⟨16, 1, 0, Ipc.IPC_PKT_TYPE_SUBSCRIBE_DEVICE_ID⟩, [49], rfl⟩,
      .packetCompleted 7 ⟨⟨16, 1, 1, Ipc.IPC_PKT_TYPE_SUBSCRIBE_DEVICE_ID⟩, [50], rfl⟩]
    (by decide)).1

end MultiProcessServer.PcServer
