/-
  MultiProcessServer.PcServer.Effects
  ───────────────────────────────────
  What each handler of `PcServer` does, said once: to who watches what
  (`Subscribed`), to the device each session names (`getDeviceId`), and to the
  client.  `Quiet` handlers do nothing the viewers could notice.
-/
import MultiProcessServer.PcServer.PcServer

namespace MultiProcessServer.PcServer

/-! ## §1. Quiet steps. -/

/-- Everything but the client, the timers and `nullDeref` is the same. -/
structure Quiet (p q : PcServer) : Prop where
  pcPublisher : q.pcPublisher = p.pcPublisher
  sessions : q.sessions = p.sessions
  pcManager : q.pcManager = p.pcManager
  roster : q.roster = p.roster
  delivered : q.delivered = p.delivered
  garbage : q.garbage = p.garbage

variable {p q r : PcServer}

theorem Quiet.refl (p : PcServer) : Quiet p p := ⟨rfl, rfl, rfl, rfl, rfl, rfl⟩

theorem Quiet.trans (h : Quiet p q) (h' : Quiet q r) : Quiet p r :=
  ⟨h'.pcPublisher.trans h.pcPublisher, h'.sessions.trans h.sessions,
    h'.pcManager.trans h.pcManager, h'.roster.trans h.roster,
    h'.delivered.trans h.delivered, h'.garbage.trans h.garbage⟩

theorem quiet_clientIsConnected : Quiet p p.clientIsConnected.2 := by
  unfold clientIsConnected
  split <;> exact ⟨rfl, rfl, rfl, rfl, rfl, rfl⟩

theorem quiet_clientSendPacket (mask : UInt32) (data : List UInt8) :
    Quiet p (p.clientSendPacket mask data) := by
  unfold clientSendPacket
  split <;> exact ⟨rfl, rfl, rfl, rfl, rfl, rfl⟩

theorem quiet_onClientConnect (bOk : Bool) : Quiet p (p.onClientConnect bOk) := by
  unfold onClientConnect
  split
  · exact ⟨rfl, rfl, rfl, rfl, rfl, rfl⟩
  · generalize p.pcPublisher.getAllDeviceId true = result
    induction result generalizing p with
    | nil => exact Quiet.refl p
    | cons deviceId result ih => exact (quiet_clientSendPacket _ _).trans ih

theorem quiet_onClientError : Quiet p p.onClientError := by
  unfold onClientError
  split <;> exact ⟨rfl, rfl, rfl, rfl, rfl, rfl⟩

theorem quiet_asyncConnectServer (result : Option ConnectResult) :
    Quiet p (p.asyncConnectServer result).2 := by
  have hclient : ∀ client, Quiet p { p with client := client } := fun _ =>
    ⟨rfl, rfl, rfl, rfl, rfl, rfl⟩
  cases result with
  | none => exact hclient none
  | some result =>
      cases result with
      | failed => exact hclient _
      | pending => exact hclient _
      | connected => exact (hclient _).trans (quiet_onClientConnect true)
      | cleared => exact (hclient _).trans (quiet_onClientConnect true)
      | refused => exact (hclient _).trans (quiet_onClientConnect false)

theorem quiet_onHeartbeatTimer : Quiet p p.onHeartbeatTimer := by
  unfold onHeartbeatTimer
  split
  · obtain ⟨hpub, hsessions, hmanager, hroster, hdelivered, hgarbage⟩ :=
      @quiet_clientSendPacket p (Ipc.IPC_PKT_TYPE_HEARTBEAT ||| Ipc.IPC_PKT_FROM_PC_SERVER) []
    exact ⟨hpub, hsessions, hmanager, hroster, hdelivered, hgarbage⟩
  · exact ⟨rfl, rfl, rfl, rfl, rfl, rfl⟩

/-! ## §2. Who watches what. -/

/-- The session is in the channel of the device. -/
def Subscribed (p : PcServer) (pc deviceId : UInt64) : Prop := p.pcPublisher.Subscribed pc deviceId

/-- The device a session names: that of its string, unless it is empty. -/
def Names (p : PcServer) (pc deviceId : UInt64) : Prop :=
  p.getDeviceId pc ≠ [] ∧ generateDeviceId (p.getDeviceId pc) = deviceId

variable {pc s d : UInt64}

theorem Quiet.subscribed (h : Quiet p q) : q.Subscribed s d ↔ p.Subscribed s d := by
  rw [Subscribed, h.pcPublisher, Subscribed]

theorem Quiet.getDeviceId (h : Quiet p q) : q.getDeviceId s = p.getDeviceId s := by
  rw [PcServer.getDeviceId, h.sessions, PcServer.getDeviceId]

/-- `updatePc` touches one session. -/
theorem getDeviceId_updatePc (f : PcSession → PcSession) :
    (p.updatePc pc f).getDeviceId s
      = if s = pc then (f (p.sessions pc)).getDeviceId else p.getDeviceId s := by
  show (Function.update p.sessions pc (f (p.sessions pc)) s).getDeviceId = _
  rw [Function.update_apply]
  split <;> rfl

/-- What a session keeps when its device string changes. -/
theorem isCanWrite_updatePc (f : PcSession → PcSession)
    (hf : ∀ pc : PcSession, (f pc).isCanWrite = pc.isCanWrite) :
    ((p.updatePc pc f).sessions s).isCanWrite = (p.sessions s).isCanWrite := by
  show (Function.update p.sessions pc (f (p.sessions pc)) s).isCanWrite = _
  rw [Function.update_apply]
  split
  next h => rw [hf, h]
  next => rfl

/-! ## §3. Requests. -/

/-- The session leaves one channel. -/
def without (p : PcServer) (pc deviceId : UInt64) : PcServer :=
  { p with pcPublisher := p.pcPublisher.delSubscriber deviceId pc }

/-- Whether a request for `strNewDeviceId` makes the session leave a device. -/
def Switches (p : PcServer) (pc : UInt64) (strNewDeviceId : List UInt8) : Prop :=
  p.getDeviceId pc ≠ [] ∧ p.getDeviceId pc ≠ strNewDeviceId

theorem tryUnsubscriber_of_switches {strNewDeviceId : List UInt8}
    (h : p.Switches pc strNewDeviceId) :
    Quiet (p.without pc (generateDeviceId (p.getDeviceId pc)))
      (p.tryUnsubscriberOldDeviceId pc strNewDeviceId) := by
  have hif : (!(p.getDeviceId pc).isEmpty && p.getDeviceId pc != strNewDeviceId) = true := by
    simpa [Switches] using h
  simp only [tryUnsubscriberOldDeviceId, hif, if_true]
  split
  · exact quiet_clientIsConnected.trans (quiet_clientSendPacket _ _)
  · exact quiet_clientIsConnected

theorem tryUnsubscriber_of_not_switches {strNewDeviceId : List UInt8}
    (h : ¬p.Switches pc strNewDeviceId) :
    p.tryUnsubscriberOldDeviceId pc strNewDeviceId = p := by
  have hif : (!(p.getDeviceId pc).isEmpty && p.getDeviceId pc != strNewDeviceId) = false := by
    simpa [Switches] using h
  simp only [tryUnsubscriberOldDeviceId, hif, Bool.false_eq_true, if_false]

/-- `TryUnsubscriberOldDeviceId` changes channels only. -/
theorem tryUnsubscriber_frame (strNewDeviceId : List UInt8) :
    let q := p.tryUnsubscriberOldDeviceId pc strNewDeviceId
    q.sessions = p.sessions ∧ q.pcManager = p.pcManager ∧ q.roster = p.roster
      ∧ q.delivered = p.delivered ∧ q.garbage = p.garbage := by
  by_cases h : p.Switches pc strNewDeviceId
  · have hq := tryUnsubscriber_of_switches h
    exact ⟨hq.sessions, hq.pcManager, hq.roster, hq.delivered, hq.garbage⟩
  · rw [tryUnsubscriber_of_not_switches h]
    exact ⟨rfl, rfl, rfl, rfl, rfl⟩

/-- The session joins a channel. -/
def within (p : PcServer) (pc deviceId : UInt64) : PcServer :=
  { p with pcPublisher := p.pcPublisher.addSubscriber deviceId pc }

theorem subscribeDeviceId_of_ne_nil {strDeviceId : List UInt8} (h : strDeviceId ≠ []) :
    Quiet (((p.tryUnsubscriberOldDeviceId pc strDeviceId).updatePc pc
        (·.setDeviceId strDeviceId)).within pc (generateDeviceId strDeviceId))
      (p.subscribeDeviceId pc strDeviceId) := by
  have hif : (!strDeviceId.isEmpty) = true := by simpa using h
  simp only [subscribeDeviceId, hif, if_true]
  split
  · exact quiet_clientSendPacket _ _
  · exact Quiet.refl _

theorem subscribeDeviceId_nil :
    p.subscribeDeviceId pc []
      = (p.tryUnsubscriberOldDeviceId pc []).updatePc pc (·.setDeviceId []) := rfl

theorem unSubscribeDeviceId_of_ne_nil (h : p.getDeviceId pc ≠ []) :
    Quiet ((p.without pc (generateDeviceId (p.getDeviceId pc))).updatePc pc (·.clearDeviceId))
      (p.unSubscribeDeviceId pc) := by
  have hif : (!(p.getDeviceId pc).isEmpty) = true := by simpa using h
  have hupdate : ∀ {q : PcServer}, Quiet (p.without pc (generateDeviceId (p.getDeviceId pc))) q →
      Quiet ((p.without pc (generateDeviceId (p.getDeviceId pc))).updatePc pc (·.clearDeviceId))
        (q.updatePc pc (·.clearDeviceId)) := fun hq =>
    ⟨hq.pcPublisher, by simp only [updatePc, hq.sessions], hq.pcManager, hq.roster, hq.delivered,
      hq.garbage⟩
  simp only [unSubscribeDeviceId, hif, if_true]
  split
  · split
    · exact hupdate (quiet_clientIsConnected.trans (quiet_clientSendPacket _ _))
    · exact hupdate quiet_clientIsConnected
  · exact hupdate (Quiet.refl _)

theorem unSubscribeDeviceId_of_nil (h : p.getDeviceId pc = []) :
    p.unSubscribeDeviceId pc = p.updatePc pc (·.clearDeviceId) := by
  simp only [unSubscribeDeviceId, h, List.isEmpty_nil, Bool.not_true, Bool.false_eq_true, if_false]

/-- A session that is in a channel names the channel's device. -/
def Watching (p : PcServer) : Prop := ∀ s d, p.Subscribed s d → p.Names s d

section Watching

variable (h : p.Watching) {strDeviceId : List UInt8}
include h

theorem subscribed_tryUnsubscriber :
    (p.tryUnsubscriberOldDeviceId pc strDeviceId).Subscribed s d
      ↔ p.Subscribed s d ∧ ¬(s = pc ∧ p.Switches pc strDeviceId) := by
  by_cases hsw : p.Switches pc strDeviceId
  · rw [(tryUnsubscriber_of_switches hsw).subscribed, Subscribed, without,
      PcPublisher.subscribed_delSubscriber, and_comm, ← Subscribed]
    refine and_congr_right fun hsub => ?_
    -- the channel left is the one the session names
    constructor
    · intro hnot hleft
      obtain ⟨rfl, -⟩ := hleft
      exact hnot ⟨rfl, (h s d hsub).2.symm⟩
    · intro hnot hleft
      obtain ⟨rfl, -⟩ := hleft
      exact hnot ⟨rfl, hsw⟩
  · rw [tryUnsubscriber_of_not_switches hsw]
    simp [hsw]

/-- After `SubscribeDeviceId` the session is in the channel it asked for and
in no other. -/
theorem subscribed_subscribeDeviceId :
    (p.subscribeDeviceId pc strDeviceId).Subscribed s d
      ↔ if s = pc then strDeviceId ≠ [] ∧ generateDeviceId strDeviceId = d
        else p.Subscribed s d := by
  -- what is left of the session's own channels before it joins
  have hown : ∀ d, p.Subscribed pc d ∧ ¬(pc = pc ∧ p.Switches pc strDeviceId) →
      strDeviceId ≠ [] ∧ generateDeviceId strDeviceId = d := fun d ⟨hsub, hnot⟩ => by
    obtain ⟨hne, hd⟩ := h pc d hsub
    have hsame : p.getDeviceId pc = strDeviceId :=
      by_contra fun hdiff => hnot ⟨rfl, hne, hdiff⟩
    rw [← hsame]
    exact ⟨hne, hd⟩
  by_cases hnil : strDeviceId = []
  · subst hnil
    rw [subscribeDeviceId_nil]
    apply (subscribed_tryUnsubscriber h).trans
    split
    next heq =>
        subst heq
        exact ⟨hown d, fun hfalse => absurd rfl hfalse.1⟩
    next hne => simp [hne]
  · rw [(subscribeDeviceId_of_ne_nil hnil).subscribed, Subscribed, within,
      PcPublisher.subscribed_addSubscriber]
    apply (or_congr_right (subscribed_tryUnsubscriber h)).trans
    split
    next heq =>
        subst heq
        constructor
        · intro hor
          rcases hor with ⟨-, rfl⟩ | hsub
          · exact ⟨hnil, rfl⟩
          · exact hown d hsub
        · exact fun hd => Or.inl ⟨rfl, hd.2.symm⟩
    next hne => simp [hne]

/-- After `UnSubscribeDeviceId` the session is in no channel. -/
theorem subscribed_unSubscribeDeviceId :
    (p.unSubscribeDeviceId pc).Subscribed s d ↔ s ≠ pc ∧ p.Subscribed s d := by
  by_cases hnil : p.getDeviceId pc = []
  · rw [unSubscribeDeviceId_of_nil hnil]
    refine ⟨fun hsub => ⟨?_, hsub⟩, And.right⟩
    intro heq
    subst heq
    exact (h s d hsub).1 hnil
  · rw [(unSubscribeDeviceId_of_ne_nil hnil).subscribed, Subscribed, updatePc, without,
      PcPublisher.subscribed_delSubscriber, ← Subscribed]
    -- a watching session has no other channel than the one it names
    refine and_congr_left fun hsub => ?_
    constructor
    · intro hnot heq
      subst heq
      exact hnot ⟨rfl, (h s d hsub).2.symm⟩
    · exact fun hne heq => hne heq.1

end Watching

/-- What `q` is when the session `pc` was given the device of `strDeviceId`, or
none when that is empty, and nothing else changed for the viewers. -/
structure Granted (p : PcServer) (pc : UInt64) (strDeviceId : List UInt8) (q : PcServer) :
    Prop where
  subscribed : ∀ s d, q.Subscribed s d
    ↔ if s = pc then strDeviceId ≠ [] ∧ generateDeviceId strDeviceId = d else p.Subscribed s d
  getDeviceId : ∀ s, q.getDeviceId s = if s = pc then strDeviceId else p.getDeviceId s
  isCanWrite : ∀ s, (q.sessions s).isCanWrite = (p.sessions s).isCanWrite
  pcManager : q.pcManager = p.pcManager
  roster : q.roster = p.roster
  delivered : q.delivered = p.delivered
  garbage : q.garbage = p.garbage

theorem sessions_subscribeDeviceId (strDeviceId : List UInt8) :
    (p.subscribeDeviceId pc strDeviceId).sessions
      = (p.updatePc pc (·.setDeviceId strDeviceId)).sessions := by
  obtain ⟨hsessions, -⟩ := @tryUnsubscriber_frame p pc strDeviceId
  by_cases hnil : strDeviceId = []
  · subst hnil
    rw [subscribeDeviceId_nil, updatePc, updatePc, hsessions]
  · rw [(subscribeDeviceId_of_ne_nil hnil).sessions, within, updatePc, updatePc, hsessions]

/-- Everything but channels and device strings stands. -/
theorem subscribeDeviceId_frame (strDeviceId : List UInt8) :
    (p.subscribeDeviceId pc strDeviceId).pcManager = p.pcManager
      ∧ (p.subscribeDeviceId pc strDeviceId).roster = p.roster
      ∧ (p.subscribeDeviceId pc strDeviceId).delivered = p.delivered
      ∧ (p.subscribeDeviceId pc strDeviceId).garbage = p.garbage := by
  obtain ⟨-, hframe⟩ := @tryUnsubscriber_frame p pc strDeviceId
  by_cases hnil : strDeviceId = []
  · subst hnil
    exact hframe
  · have hq := @subscribeDeviceId_of_ne_nil p pc _ hnil
    exact ⟨hq.pcManager.trans hframe.1, hq.roster.trans hframe.2.1,
      hq.delivered.trans hframe.2.2.1, hq.garbage.trans hframe.2.2.2⟩

theorem granted_subscribeDeviceId (h : p.Watching) (strDeviceId : List UInt8) :
    Granted p pc strDeviceId (p.subscribeDeviceId pc strDeviceId) := by
  have hframe := @subscribeDeviceId_frame p pc strDeviceId
  refine ⟨fun s d => subscribed_subscribeDeviceId h, ?_, ?_,
    hframe.1, hframe.2.1, hframe.2.2.1, hframe.2.2.2⟩
  · intro s
    unfold PcServer.getDeviceId
    rw [sessions_subscribeDeviceId]
    exact getDeviceId_updatePc _
  · intro s
    rw [sessions_subscribeDeviceId]
    exact isCanWrite_updatePc _ fun _ => rfl

theorem unSubscribeDeviceId_frame :
    (p.unSubscribeDeviceId pc).sessions = (p.updatePc pc (·.clearDeviceId)).sessions
      ∧ (p.unSubscribeDeviceId pc).pcManager = p.pcManager
      ∧ (p.unSubscribeDeviceId pc).roster = p.roster
      ∧ (p.unSubscribeDeviceId pc).delivered = p.delivered
      ∧ (p.unSubscribeDeviceId pc).garbage = p.garbage := by
  by_cases hnil : p.getDeviceId pc = []
  · rw [unSubscribeDeviceId_of_nil hnil]
    exact ⟨rfl, rfl, rfl, rfl, rfl⟩
  · have hq := unSubscribeDeviceId_of_ne_nil hnil
    exact ⟨hq.sessions, hq.pcManager, hq.roster, hq.delivered, hq.garbage⟩

theorem granted_unSubscribeDeviceId (h : p.Watching) :
    Granted p pc [] (p.unSubscribeDeviceId pc) := by
  have hsubscribed : ∀ s d, (p.unSubscribeDeviceId pc).Subscribed s d
      ↔ if s = pc then ([] : List UInt8) ≠ [] ∧ generateDeviceId [] = d
        else p.Subscribed s d := by
    intro s d
    rw [subscribed_unSubscribeDeviceId h]
    split <;> simp_all
  obtain ⟨hsessions, hmanager, hroster, hdelivered, hgarbage⟩ := @unSubscribeDeviceId_frame p pc
  refine ⟨hsubscribed, ?_, ?_, hmanager, hroster, hdelivered, hgarbage⟩
  · intro s
    unfold PcServer.getDeviceId
    rw [hsessions]
    exact getDeviceId_updatePc _
  · intro s
    rw [hsessions]
    exact isCanWrite_updatePc _ fun _ => rfl

/-- The device string a packet of a viewer asks for; `[]` is none. -/
def asks (packet : Ipc.Packet) : Option (List UInt8) :=
  if packet.type = Ipc.IPC_PKT_TYPE_SUBSCRIBE_DEVICE_ID then some packet.data
  else if packet.type = Ipc.IPC_PKT_TYPE_UNSUBSCRIBE_DEVICE_ID then some []
  else none

theorem onPacketCompleted_of_not_connected (hup : p.isConnected = false) (packet : Ipc.Packet) :
    p.onPacketCompleted pc packet = p := by
  unfold onPacketCompleted
  rw [hup, if_pos (by rfl)]

theorem onPacketCompleted_of_asks_none {packet : Ipc.Packet} (hasks : asks packet = none) :
    p.onPacketCompleted pc packet = p := by
  unfold asks at hasks
  split at hasks
  next => cases hasks
  next hs =>
      split at hasks
      next => cases hasks
      next hu => rw [onPacketCompleted, if_neg hs, if_neg hu, ite_self]

/-- A request that reaches a connected server is handled by one of two
functions. -/
theorem onPacketCompleted_of_asks (hup : p.isConnected = true) {packet : Ipc.Packet}
    {strDeviceId : List UInt8} (hasks : asks packet = some strDeviceId) :
    p.onPacketCompleted pc packet = p.subscribeDeviceId pc strDeviceId
      ∨ strDeviceId = [] ∧ p.onPacketCompleted pc packet = p.unSubscribeDeviceId pc := by
  have hguard : (!p.isConnected) ≠ true := by simp [hup]
  unfold asks at hasks
  unfold onPacketCompleted
  rw [if_neg hguard]
  split at hasks
  next hs =>
      cases hasks
      rw [if_pos hs]
      exact Or.inl rfl
  next hs =>
      rw [if_neg hs]
      split at hasks
      next hu =>
          cases hasks
          rw [if_pos hu]
          exact Or.inr ⟨rfl, rfl⟩
      next => cases hasks

/-- A packet of a viewer changes nothing, unless the server is connected and it
asks for something. -/
theorem onPacketCompleted_cases (pc : UInt64) (packet : Ipc.Packet) :
    p.onPacketCompleted pc packet = p
      ∨ ∃ strDeviceId, p.isConnected = true ∧ asks packet = some strDeviceId := by
  cases hup : p.isConnected with
  | false => exact .inl (onPacketCompleted_of_not_connected hup packet)
  | true =>
      cases hasks : asks packet with
      | none => exact .inl (onPacketCompleted_of_asks_none hasks)
      | some strDeviceId => exact .inr ⟨strDeviceId, rfl, rfl⟩

/-- What holds before a packet of a viewer, and after either request on a
connected server, holds after the packet. -/
theorem onPacketCompleted_rule {P : PcServer → Prop} {pc : UInt64} (packet : Ipc.Packet)
    (hsame : P p)
    (hsubscribe : p.isConnected = true → ∀ strDeviceId, P (p.subscribeDeviceId pc strDeviceId))
    (hunsubscribe : p.isConnected = true → P (p.unSubscribeDeviceId pc)) :
    P (p.onPacketCompleted pc packet) := by
  rcases onPacketCompleted_cases (p := p) pc packet with heq | ⟨strDeviceId, hup, hasks⟩
  · rw [heq]
    exact hsame
  · rcases @onPacketCompleted_of_asks p pc hup packet strDeviceId hasks with heq | ⟨-, heq⟩
    · rw [heq]
      exact hsubscribe hup strDeviceId
    · rw [heq]
      exact hunsubscribe hup

/-- **A request that reaches a connected server is granted.** -/
theorem granted_onPacketCompleted (h : p.Watching) (hup : p.isConnected = true)
    {packet : Ipc.Packet} {strDeviceId : List UInt8} (hasks : asks packet = some strDeviceId) :
    Granted p pc strDeviceId (p.onPacketCompleted pc packet) := by
  rcases @onPacketCompleted_of_asks p pc hup packet strDeviceId hasks with heq | ⟨rfl, heq⟩
  · rw [heq]
    exact granted_subscribeDeviceId h strDeviceId
  · rw [heq]
    exact granted_unSubscribeDeviceId h

/-- Handlers leave the roster to `step`. -/
theorem step_eq_handle {e : Event} (h : (p.handle e).roster = p.roster.next e.contact) :
    p.step e = p.handle e := by
  unfold step
  rw [← h]

theorem step_packetCompleted (h : p.Watching) (packet : Ipc.Packet) :
    p.step (.packetCompleted pc packet) = p.onPacketCompleted pc packet := by
  refine step_eq_handle (show (p.onPacketCompleted pc packet).roster = p.roster from ?_)
  rcases onPacketCompleted_cases (p := p) pc packet with heq | ⟨strDeviceId, hup, hasks⟩
  · rw [heq]
  · exact (granted_onPacketCompleted h hup hasks).roster

/-- The callbacks of the client and the timers that publish nothing. -/
def Event.quiet : Event → Bool
  | .clientConnect _ | .clientCleared | .clientError | .connectTimer _ | .heartbeatTimer => true
  | _ => false

theorem quiet_step {e : Event} (he : e.quiet = true) : Quiet p (p.step e) := by
  have hown : ∀ client connectTimer heartbeatTimer,
      Quiet p { p with client, connectTimer, heartbeatTimer } := fun _ _ _ =>
    ⟨rfl, rfl, rfl, rfl, rfl, rfl⟩
  have hq : Quiet p (p.handle e) ∧ e.contact = .silent := by
    cases e with
    | clientConnect bOk =>
        exact ⟨(hown _ p.connectTimer p.heartbeatTimer).trans (quiet_onClientConnect bOk), rfl⟩
    | clientCleared =>
        exact ⟨(hown _ p.connectTimer p.heartbeatTimer).trans (quiet_onClientConnect true), rfl⟩
    | clientError => exact ⟨quiet_onClientError, rfl⟩
    | connectTimer result =>
        exact ⟨(hown p.client false p.heartbeatTimer).trans (quiet_asyncConnectServer result), rfl⟩
    | heartbeatTimer =>
        exact ⟨(hown p.client p.connectTimer false).trans quiet_onHeartbeatTimer, rfl⟩
    | newConnection _ _ _ | packetCompleted _ _ | packetError _ | clientMessage _ _ => cases he
  rw [step_eq_handle (by rw [hq.1.roster, hq.2]; rfl)]
  exact hq.1

end MultiProcessServer.PcServer
