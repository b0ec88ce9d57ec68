/-
  MultiProcessServer.PcServer.Requests
  ────────────────────────────────────
  Which packets `PcServer` sends on its connection, and why.

  `requests_step` says it once: the client after an event is the client before
  with some calls of `SendPacket`, and each call has one of four reasons.
-/
import MultiProcessServer.PcServer.Upstream

namespace MultiProcessServer

namespace Jt1078Client

/-! ## §1. Calls of `SendPacket`. -/

/-- One call after the other. -/
def sendAll (calls : List (UInt32 × List UInt8)) (c : Jt1078Client) : Jt1078Client :=
  calls.foldl (fun c call => c.sendPacket call.1 call.2) c

theorem sendAll_append (calls later : List (UInt32 × List UInt8)) (c : Jt1078Client) :
    c.sendAll (calls ++ later) = (c.sendAll calls).sendAll later := List.foldl_append

/-- What a call puts on a live connection. -/
def IsFrame (call : UInt32 × List UInt8) (r : Request) : Prop :=
  r.header.pktType = call.1 ∧ r.data = call.2
    ∧ r.header.dataLength = UInt32.ofNat call.2.length

/-- **On a live connection calls put frames behind those that are there.** -/
theorem sent_sendAll (calls : List (UInt32 × List UInt8)) : ∀ c : Jt1078Client,
    c.isConnected = true →
    ∃ frames, (c.sendAll calls).sent = c.sent ++ frames
      ∧ ∀ r ∈ frames, ∃ call ∈ calls, IsFrame call r := by
  induction calls with
  | nil =>
      exact fun c _ => ⟨[], (List.append_nil _).symm, fun r hr => absurd hr List.not_mem_nil⟩
  | cons call calls ih =>
      intro c hup
      obtain ⟨frames, hsent, hframes⟩ := ih (c.sendPacket call.1 call.2) hup
      have hfirst : (c.sendPacket call.1 call.2).sent
          = c.sent ++ [⟨c.header call.1 call.2.length, call.2⟩] := if_pos hup
      rw [hfirst, List.append_assoc] at hsent
      refine ⟨_, hsent, ?_⟩
      intro r hr
      rcases List.mem_append.mp hr with hr | hr
      · obtain rfl := List.mem_singleton.mp hr
        exact ⟨call, List.mem_cons_self, rfl, rfl, rfl⟩
      · obtain ⟨later, hlater, hframe⟩ := hframes r hr
        exact ⟨later, List.mem_cons_of_mem call hlater, hframe⟩

theorem sent_sendAll_of_not_connected (calls : List (UInt32 × List UInt8)) :
    ∀ c : Jt1078Client, c.isConnected = false → (c.sendAll calls).sent = c.sent := by
  induction calls with
  | nil => exact fun _ _ => rfl
  | cons call calls ih =>
      intro c hdown
      have hfirst : (c.sendPacket call.1 call.2).sent = c.sent :=
        if_neg fun hup => Bool.false_ne_true (hdown.symm.trans hup)
      exact (ih (c.sendPacket call.1 call.2) hdown).trans hfirst

/-- Calls only add to what was sent. -/
theorem sent_prefix_sendAll (calls : List (UInt32 × List UInt8)) (c : Jt1078Client) :
    c.sent <+: (c.sendAll calls).sent := by
  cases hup : c.isConnected with
  | false =>
      exact ⟨[], (List.append_nil _).trans (sent_sendAll_of_not_connected calls c hup).symm⟩
  | true =>
      obtain ⟨frames, hsent, -⟩ := sent_sendAll calls c hup
      exact ⟨frames, hsent.symm⟩

end Jt1078Client

namespace PcServer

/-- The requests made on the connection `m_client` has. -/
def sent (p : PcServer) : List Request :=
  match p.client with
  | none => []
  | some c => c.sent

variable {p q r : PcServer} {pc : UInt64} {J : UInt32 → List UInt8 → Prop}

/-- `q` has the client of `p`, on which calls were made that `J` describes. -/
def Calls (J : UInt32 → List UInt8 → Prop) (p q : PcServer) : Prop :=
  ∃ calls, q.client = p.client.map (Jt1078Client.sendAll calls) ∧ ∀ c ∈ calls, J c.1 c.2

theorem Calls.of_client_eq (h : q.client = p.client) : Calls J p q := by
  refine ⟨[], h.trans ?_, fun c hc => absurd hc List.not_mem_nil⟩
  cases p.client <;> rfl

theorem Calls.trans (h : Calls J p q) (h' : Calls J q r) : Calls J p r := by
  obtain ⟨calls, hq, hcalls⟩ := h
  obtain ⟨later, hr, hlater⟩ := h'
  refine ⟨calls ++ later, ?_, ?_⟩
  · rw [hr, hq, Option.map_map]
    congr 1
    funext c
    exact (Jt1078Client.sendAll_append calls later c).symm
  · intro c hc
    rcases List.mem_append.mp hc with hc | hc
    · exact hcalls c hc
    · exact hlater c hc

theorem calls_clientSendPacket {mask : UInt32} {data : List UInt8} (h : J mask data) :
    Calls J p (p.clientSendPacket mask data) := by
  refine ⟨[(mask, data)], ?_, ?_⟩
  · unfold clientSendPacket
    cases hc : p.client with
    | none => rfl
    | some c => rfl
  · intro c hc
    obtain rfl := List.mem_singleton.mp hc
    exact h

theorem client_clientIsConnected : p.clientIsConnected.2.client = p.client := by
  unfold clientIsConnected
  cases hc : p.client with
  | none => rfl
  | some c => exact hc

/-- A connected client is asked. -/
theorem calls_if_connected {mask : UInt32} {data : List UInt8} (h : J mask data) :
    Calls J p (if p.clientIsConnected.1 then p.clientIsConnected.2.clientSendPacket mask data
      else p.clientIsConnected.2) := by
  split
  · exact (Calls.of_client_eq client_clientIsConnected).trans (calls_clientSendPacket h)
  · exact Calls.of_client_eq client_clientIsConnected

/-! ## §2. The handlers. -/

open Ipc (IPC_PKT_TYPE_SUBSCRIBE_DEVICE_ID IPC_PKT_TYPE_UNSUBSCRIBE_DEVICE_ID
  IPC_PKT_FROM_PC_SERVER IPC_PKT_TYPE_HEARTBEAT)

theorem calls_tryUnsubscriber (strNewDeviceId : List UInt8)
    (hleaves : p.getDeviceId pc ≠ [] → p.Alone pc (generateDeviceId (p.getDeviceId pc)) →
      J (IPC_PKT_TYPE_UNSUBSCRIBE_DEVICE_ID ||| IPC_PKT_FROM_PC_SERVER) (p.getDeviceId pc)) :
    Calls J p (p.tryUnsubscriberOldDeviceId pc strNewDeviceId) := by
  by_cases hsw : p.Switches pc strNewDeviceId
  · have hif : (!(p.getDeviceId pc).isEmpty && p.getDeviceId pc != strNewDeviceId) = true := by
      simpa [Switches] using hsw
    have hwithout : Calls J p (p.without pc (generateDeviceId (p.getDeviceId pc))) :=
      Calls.of_client_eq rfl
    refine hwithout.trans ?_
    unfold without
    simp only [tryUnsubscriberOldDeviceId, hif, if_true]
    split
    next hsend =>
        have hpublisher : ∀ q : PcServer, q.clientIsConnected.2.pcPublisher = q.pcPublisher :=
          fun q => quiet_clientIsConnected.pcPublisher
        rw [Bool.and_eq_true, hpublisher, isEmptySubscriber_without] at hsend
        exact (Calls.of_client_eq client_clientIsConnected).trans
          (calls_clientSendPacket (hleaves hsw.1 hsend.2))
    next => exact Calls.of_client_eq client_clientIsConnected
  · rw [tryUnsubscriber_of_not_switches hsw]
    exact Calls.of_client_eq rfl

theorem calls_subscribeDeviceId (strDeviceId : List UInt8)
    (hleaves : p.getDeviceId pc ≠ [] → p.Alone pc (generateDeviceId (p.getDeviceId pc)) →
      J (IPC_PKT_TYPE_UNSUBSCRIBE_DEVICE_ID ||| IPC_PKT_FROM_PC_SERVER) (p.getDeviceId pc))
    (hjoins : J (IPC_PKT_TYPE_SUBSCRIBE_DEVICE_ID ||| IPC_PKT_FROM_PC_SERVER) strDeviceId) :
    Calls J p (p.subscribeDeviceId pc strDeviceId) := by
  have htry := calls_tryUnsubscriber (J := J) strDeviceId hleaves
  by_cases hnil : strDeviceId = []
  · subst hnil
    rw [subscribeDeviceId_nil]
    exact htry.trans (Calls.of_client_eq rfl)
  · have hif : (!strDeviceId.isEmpty) = true := by simpa using hnil
    simp only [subscribeDeviceId, hif, if_true]
    split
    · refine htry.trans (Calls.trans (Calls.of_client_eq ?_) (calls_clientSendPacket hjoins))
      rfl
    · exact htry.trans (Calls.of_client_eq rfl)

theorem calls_unSubscribeDeviceId
    (hleaves : p.getDeviceId pc ≠ [] → p.Alone pc (generateDeviceId (p.getDeviceId pc)) →
      J (IPC_PKT_TYPE_UNSUBSCRIBE_DEVICE_ID ||| IPC_PKT_FROM_PC_SERVER) (p.getDeviceId pc)) :
    Calls J p (p.unSubscribeDeviceId pc) := by
  by_cases hnil : p.getDeviceId pc = []
  · rw [unSubscribeDeviceId_of_nil hnil]
    exact Calls.of_client_eq rfl
  · have hif : (!(p.getDeviceId pc).isEmpty) = true := by simpa using hnil
    simp only [unSubscribeDeviceId, hif, if_true]
    split
    next hempty =>
        rw [isEmptySubscriber_without] at hempty
        have hwithout : Calls J p (p.without pc (generateDeviceId (p.getDeviceId pc))) :=
          Calls.of_client_eq rfl
        refine (hwithout.trans (calls_if_connected (hleaves hnil hempty))).trans
          (Calls.of_client_eq ?_)
        unfold without updatePc
        rfl
    next => exact Calls.of_client_eq rfl

theorem calls_onClientConnect
    (hJ : ∀ deviceId, J (IPC_PKT_TYPE_SUBSCRIBE_DEVICE_ID ||| IPC_PKT_FROM_PC_SERVER)
      (generateDeviceIdStrByDeviceId p.garbage deviceId)) :
    Calls J p (p.onClientConnect true) := by
  have hloop : ∀ (result : List UInt64) (q : PcServer), q.garbage = p.garbage →
      Calls J q (result.foldl (fun p deviceId =>
        p.clientSendPacket (IPC_PKT_TYPE_SUBSCRIBE_DEVICE_ID ||| IPC_PKT_FROM_PC_SERVER)
          (generateDeviceIdStrByDeviceId p.garbage deviceId)) q) := by
    intro result
    induction result with
    | nil => exact fun q _ => Calls.of_client_eq rfl
    | cons deviceId result ih =>
        intro q hq
        have hfirst : Calls J q
            (q.clientSendPacket (IPC_PKT_TYPE_SUBSCRIBE_DEVICE_ID ||| IPC_PKT_FROM_PC_SERVER)
              (generateDeviceIdStrByDeviceId q.garbage deviceId)) :=
          calls_clientSendPacket (hq ▸ hJ deviceId)
        exact hfirst.trans (ih _ ((quiet_clientSendPacket _ _).garbage.trans hq))
  exact hloop _ p rfl

/-! ## §3. Events. -/

/-- The events in which `PcServer` gives up `m_client`, or its socket is
closed. -/
def Event.dropsClient : Event → Bool
  | .clientConnect bOk => !bOk
  | .clientCleared => true
  | .clientError => true
  | .connectTimer _ => true
  | _ => false

/-- The event is a request of the session, or its error. -/
def Event.ofSession (pc : UInt64) : Event → Prop
  | .packetCompleted s _ => s = pc
  | .packetError s => s = pc
  | _ => False

/-- Why a packet is sent in an event. -/
inductive Reason (p : PcServer) (e : Event) : UInt32 → List UInt8 → Prop
  /-- A session that was alone with the device it names leaves it. -/
  | leaves (pc : UInt64) (he : e.ofSession pc) (hnames : p.getDeviceId pc ≠ [])
      (halone : p.Alone pc (generateDeviceId (p.getDeviceId pc))) :
      Reason p e (IPC_PKT_TYPE_UNSUBSCRIBE_DEVICE_ID ||| IPC_PKT_FROM_PC_SERVER)
        (p.getDeviceId pc)
  /-- A session asks for a device. -/
  | asks (pc : UInt64) (packet : Ipc.Packet) (he : e = .packetCompleted pc packet)
      (strDeviceId : List UInt8) (hasks : PcServer.asks packet = some strDeviceId) :
      Reason p e (IPC_PKT_TYPE_SUBSCRIBE_DEVICE_ID ||| IPC_PKT_FROM_PC_SERVER) strDeviceId
  /-- The connection is there again. -/
  | connects (he : e = .clientConnect true) (deviceId : UInt64) :
      Reason p e (IPC_PKT_TYPE_SUBSCRIBE_DEVICE_ID ||| IPC_PKT_FROM_PC_SERVER)
        (generateDeviceIdStrByDeviceId p.garbage deviceId)
  | heartbeat (he : e = .heartbeatTimer) :
      Reason p e (IPC_PKT_TYPE_HEARTBEAT ||| IPC_PKT_FROM_PC_SERVER) []

/-- The client as the handler of the event finds it. -/
def Event.clientBefore (e : Event) (client : Option Jt1078Client) : Option Jt1078Client :=
  match e with
  | .clientConnect bOk => client.map fun c : Jt1078Client => c.onConnected bOk
  | _ => client

theorem sent_clientBefore (p : PcServer) (e : Event) :
    ({ p with client := e.clientBefore p.client } : PcServer).sent = p.sent := by
  unfold sent Event.clientBefore
  cases e with
  | clientConnect bOk => cases p.client <;> rfl
  | _ => rfl

/-- **What an event sends.**  Unless it gives up the client, the client after it
is the client before it with some calls, and each has its reason. -/
theorem requests_step (h : p.Inv) {e : Event} (he : e.dropsClient = false) :
    Calls (Reason p e) { p with client := e.clientBefore p.client } (p.step e) := by
  cases e with
  | newConnection pc socket init => cases init <;> exact Calls.of_client_eq rfl
  | clientMessage packet behind =>
      refine Calls.of_client_eq ?_
      show (p.onClientMessage packet behind).client = p.client
      unfold onClientMessage
      split <;> rfl
  | clientCleared => cases he
  | clientError => cases he
  | connectTimer result => cases he
  | packetError pc =>
      have hcalls : Calls (Reason p (.packetError pc)) p (p.unSubscribeDeviceId pc) :=
        calls_unSubscribeDeviceId fun hnames halone => .leaves pc rfl hnames halone
      exact hcalls.trans (Calls.of_client_eq rfl)
  | packetCompleted pc packet =>
      rw [step_packetCompleted h.watching]
      have hleaves : p.getDeviceId pc ≠ [] →
          p.Alone pc (generateDeviceId (p.getDeviceId pc)) →
          Reason p (.packetCompleted pc packet)
            (IPC_PKT_TYPE_UNSUBSCRIBE_DEVICE_ID ||| IPC_PKT_FROM_PC_SERVER) (p.getDeviceId pc) :=
        fun hnames halone => .leaves pc rfl hnames halone
      show Calls _ p _
      rcases onPacketCompleted_cases (p := p) pc packet with heq | ⟨strDeviceId, hup, hasks⟩
      · rw [heq]
        exact Calls.of_client_eq rfl
      · rcases @onPacketCompleted_of_asks p pc hup packet strDeviceId hasks with heq | ⟨-, heq⟩
        · rw [heq]
          exact calls_subscribeDeviceId strDeviceId hleaves
            (.asks pc packet rfl strDeviceId hasks)
        · rw [heq]
          exact calls_unSubscribeDeviceId hleaves
  | clientConnect bOk =>
      cases bOk with
      | false => cases he
      | true =>
          refine Calls.trans (calls_onClientConnect fun deviceId => ?_) (Calls.of_client_eq rfl)
          exact .connects rfl deviceId
  | heartbeatTimer =>
      show Calls _ p { ({ p with heartbeatTimer := false } : PcServer).onHeartbeatTimer with
        roster := _ }
      unfold onHeartbeatTimer
      split
      · refine Calls.trans (q := { p with heartbeatTimer := false }) (Calls.of_client_eq rfl) ?_
        exact (calls_clientSendPacket (.heartbeat rfl)).trans (Calls.of_client_eq rfl)
      · exact Calls.of_client_eq rfl

end PcServer

/-! ## §4. Lengths. -/

/-- The payload is as long as the header says. -/
def Request.Sized (r : Request) : Prop := r.data.length = r.header.dataLength.toNat

/-- The packet the receiver makes of the frame. -/
def Request.packet (r : Request) (h : r.Sized) : Ipc.Packet := ⟨r.header, r.data, h⟩

theorem Jt1078Client.IsFrame.sized {call : UInt32 × List UInt8} {r : Request}
    (h : IsFrame call r) (hlt : call.2.length < 2 ^ 32) : r.Sized := by
  obtain ⟨-, hdata, hlength⟩ := h
  unfold Request.Sized
  rw [hdata, hlength, UInt32.toNat_ofNat_of_lt' hlt]

namespace PcServer

variable {p q : PcServer} {pc : UInt64}

/-- Device strings come out of packets, and requests are made of them. -/
structure Sized (p : PcServer) : Prop where
  named : ∀ s, (p.getDeviceId s).length < 2 ^ 32
  requests : ∀ r ∈ p.sent, r.Sized

/-- What is sent in few bytes is sized. -/
theorem Calls.sized {J : UInt32 → List UInt8 → Prop} (h : Calls J p q)
    (hJ : ∀ mask data, J mask data → data.length < 2 ^ 32) (hp : ∀ r ∈ p.sent, r.Sized) :
    ∀ r ∈ q.sent, r.Sized := by
  obtain ⟨calls, hclient, hcalls⟩ := h
  intro r hr
  unfold sent at hp hr
  rw [hclient] at hr
  cases hc : p.client with
  | none => simp [hc] at hr
  | some c =>
      rw [hc] at hp hr
      simp only [Option.map_some] at hp hr
      cases hup : c.isConnected with
      | false =>
          rw [Jt1078Client.sent_sendAll_of_not_connected calls c hup] at hr
          exact hp r hr
      | true =>
          obtain ⟨frames, hsent, hframes⟩ := Jt1078Client.sent_sendAll calls c hup
          rw [hsent] at hr
          rcases List.mem_append.mp hr with hr | hr
          · exact hp r hr
          · obtain ⟨call, hcall, hframe⟩ := hframes r hr
            exact hframe.sized (hJ _ _ (hcalls call hcall))

theorem length_asks_lt {packet : Ipc.Packet} {strDeviceId : List UInt8}
    (h : asks packet = some strDeviceId) : strDeviceId.length < 2 ^ 32 := by
  unfold asks at h
  split at h
  · cases h
    rw [packet.length_data]
    exact packet.header.dataLength.toNat_lt
  · split at h
    · cases h
      decide
    · cases h

theorem length_generateDeviceIdStr_lt (garbage : UInt8) (deviceId : UInt64) :
    (generateDeviceIdStrByDeviceId garbage deviceId).length < 2 ^ 32 := by
  simp only [generateDeviceIdStrByDeviceId, List.length_take, List.length_append, List.length_cons,
    List.length_nil]
  omega

/-- Every reason is for few bytes. -/
theorem Reason.length_lt (h : p.Sized) {e : Event} {mask : UInt32} {data : List UInt8}
    (hreason : Reason p e mask data) : data.length < 2 ^ 32 := by
  cases hreason with
  | leaves pc he hnames halone => exact h.named pc
  | asks pc packet he strDeviceId hasks => exact length_asks_lt hasks
  | connects he deviceId => exact length_generateDeviceIdStr_lt _ _
  | heartbeat he => decide

theorem named_step (h : p.Sized) (hp : p.Inv) (e : Event) (s : UInt64) :
    ((p.step e).getDeviceId s).length < 2 ^ 32 := by
  cases e with
  | newConnection pc socket init =>
      cases init with
      | false => exact h.named s
      | true =>
          show (Function.update p.sessions pc (.new socket) s).getDeviceId.length < 2 ^ 32
          rw [Function.update_apply]
          split
          · show ([] : List UInt8).length < 2 ^ 32
            decide
          · exact h.named s
  | packetCompleted pc packet =>
      rw [step_packetCompleted hp.watching]
      rcases onPacketCompleted_cases (p := p) pc packet with heq | ⟨strDeviceId, hup, hasks⟩
      · rw [heq]
        exact h.named s
      · rw [(granted_onPacketCompleted hp.watching hup hasks).getDeviceId]
        split
        · exact length_asks_lt hasks
        · exact h.named s
  | packetError pc =>
      show ((p.unSubscribeDeviceId pc).getDeviceId s).length < 2 ^ 32
      rw [(granted_unSubscribeDeviceId hp.watching).getDeviceId]
      split
      · decide
      · exact h.named s
  | clientMessage packet behind =>
      show ((p.onClientMessage packet behind).getDeviceId s).length < 2 ^ 32
      unfold onClientMessage
      split
      · have hname : (p.publish (loadU64 (packet.data ++ behind)) packet).getDeviceId s
            = p.getDeviceId s := PcPublisher.getDeviceId_publish
        rw [hname]
        exact h.named s
      · exact h.named s
  | clientConnect _ | clientCleared | clientError | connectTimer _ | heartbeatTimer =>
      rw [(quiet_step rfl).getDeviceId]
      exact h.named s

/-- `OnClientConnect(true)` adds short requests. -/
theorem sized_onClientConnect {p : PcServer} (h : ∀ r ∈ p.sent, r.Sized) :
    ∀ r ∈ (p.onClientConnect true).sent, r.Sized := by
  have hcalls := @calls_onClientConnect p (fun _ data => data.length < 2 ^ 32)
    fun _ => length_generateDeviceIdStr_lt _ _
  exact hcalls.sized (fun _ _ h => h) h

theorem sized_asyncConnectServer (p : PcServer) (result : Option ConnectResult) :
    ∀ r ∈ (p.asyncConnectServer result).2.sent, r.Sized := by
  cases result with
  | none => exact fun r hr => absurd hr List.not_mem_nil
  | some result =>
      cases result with
      | failed => exact fun r hr => absurd hr List.not_mem_nil
      | pending => exact fun r hr => absurd hr List.not_mem_nil
      | refused => exact fun r hr => absurd hr List.not_mem_nil
      | connected => exact sized_onClientConnect fun r hr => absurd hr List.not_mem_nil
      | cleared => exact sized_onClientConnect fun r hr => absurd hr List.not_mem_nil

/-- **Every event.** -/
theorem Sized.step (h : p.Sized) (hp : p.Inv) (e : Event) : (p.step e).Sized := by
  refine ⟨named_step h hp e, ?_⟩
  cases hdrops : e.dropsClient with
  | false =>
      refine (requests_step hp hdrops).sized (fun _ _ hreason => hreason.length_lt h) ?_
      intro r hr
      exact h.requests r (sent_clientBefore p e ▸ hr)
  | true =>
      cases e with
      | clientConnect bOk =>
          cases bOk with
          | true => cases hdrops
          | false => exact fun r hr => absurd hr List.not_mem_nil
      | clientCleared =>
          have hkept : ({ p with client := p.client.map Jt1078Client.onCleared } : PcServer).sent
              = p.sent := by
            unfold sent
            cases p.client <;> rfl
          exact sized_onClientConnect (hkept ▸ h.requests)
      | clientError => exact fun r hr => absurd hr List.not_mem_nil
      | connectTimer result => exact sized_asyncConnectServer _ result
      | newConnection _ _ _ | packetCompleted _ _ | packetError _ | clientMessage _ _
      | heartbeatTimer => cases hdrops

theorem sized_init (garbage : UInt8) (result : Option ConnectResult) :
    (init garbage result).2.Sized where
  named s := by
    have hq := @quiet_asyncConnectServer { new garbage with heartbeatTimer := true } result
    show ((asyncConnectServer _ result).2.getDeviceId s).length < 2 ^ 32
    rw [hq.getDeviceId]
    show ([] : List UInt8).length < 2 ^ 32
    decide
  requests := sized_asyncConnectServer _ result

/-- What `Init` leaves is in step with the viewers, who are none. -/
theorem synced_init (garbage : UInt8) (result : Option ConnectResult) :
    (init garbage result).2.Synced := by
  have hnew : Inv { new garbage with heartbeatTimer := true } :=
    (inv_new garbage).quiet ⟨rfl, rfl, rfl, rfl, rfl, rfl⟩
  refine synced_asyncConnectServer hnew (fun s d hsub => ?_) result
  simp [new, Subscribed, PcPublisher.Subscribed] at hsub

/-! ## §5. A device that stays watched. -/

variable {v d : UInt64} {e : Event}

/-- What another session does leaves a viewer in its channel, unless its socket
dies. -/
theorem subscribed_step_stays (h : p.Inv) (hother : ¬e.ofSession v) (hsub : p.Subscribed v d)
    (hcan : ((p.step e).sessions v).isCanWrite = true) : (p.step e).Subscribed v d := by
  cases e with
  | newConnection pc socket init => cases init <;> exact hsub
  | packetCompleted pc packet =>
      have hne : v ≠ pc := fun heq => hother heq.symm
      rw [step_packetCompleted h.watching]
      rcases onPacketCompleted_cases (p := p) pc packet with heq | ⟨strDeviceId, hup, hasks⟩
      · rwa [heq]
      · rw [(granted_onPacketCompleted h.watching hup hasks).subscribed, if_neg hne]
        exact hsub
  | packetError pc =>
      have hne : v ≠ pc := fun heq => hother heq.symm
      exact (subscribed_unSubscribeDeviceId h.watching).mpr ⟨hne, hsub⟩
  | clientMessage packet behind =>
      have hcan' : ((p.onClientMessage packet behind).sessions v).isCanWrite = true := hcan
      show (p.onClientMessage packet behind).Subscribed v d
      unfold onClientMessage at hcan' ⊢
      split at hcan'
      · rw [if_pos ‹_›]
        exact PcPublisher.subscribed_publish.mpr ⟨hsub, fun _ => hcan'⟩
      · rwa [if_neg ‹_›]
  | clientConnect _ | clientCleared | clientError | connectTimer _ | heartbeatTimer =>
      exact (quiet_step rfl).subscribed.mpr hsub

theorem isCanWrite_of_clientMessage (packet : Ipc.Packet) (behind : List UInt8)
    (hcan : ((p.step (.clientMessage packet behind)).sessions v).isCanWrite = true) :
    (p.sessions v).isCanWrite = true := by
  have hcan' : ((p.onClientMessage packet behind).sessions v).isCanWrite = true := hcan
  unfold onClientMessage at hcan'
  split at hcan'
  · exact PcPublisher.isCanWrite_of_publish hcan'
  · exact hcan'

/-- A socket that died stays dead. -/
theorem isCanWrite_of_step (h : p.Inv) (he : p.Enabled e) (hused : v ∈ p.roster.used)
    (hcan : ((p.step e).sessions v).isCanWrite = true) : (p.sessions v).isCanWrite = true := by
  cases e with
  | newConnection pc socket init =>
      cases init with
      | false => exact hcan
      | true =>
          have hne : v ≠ pc := fun heq => he.1 (heq ▸ hused)
          have hsame : (p.step (.newConnection pc socket true)).sessions v = p.sessions v :=
            Function.update_of_ne hne _ _
          rwa [hsame] at hcan
  | packetCompleted pc packet =>
      rw [step_packetCompleted h.watching] at hcan
      rcases onPacketCompleted_cases (p := p) pc packet with heq | ⟨strDeviceId, hup, hasks⟩
      · rwa [heq] at hcan
      · rwa [(granted_onPacketCompleted h.watching hup hasks).isCanWrite] at hcan
  | packetError pc =>
      have hsame := (@granted_unSubscribeDeviceId p pc h.watching).isCanWrite v
      exact hsame.symm.trans hcan
  | clientMessage packet behind => exact isCanWrite_of_clientMessage packet behind hcan
  | clientConnect _ | clientCleared | clientError | connectTimer _ | heartbeatTimer =>
      rwa [(quiet_step rfl).sessions] at hcan

theorem isCanWrite_of_run (events : List Event) : ∀ {p : PcServer}, p.Inv →
    Runs.Along step Enabled p events → v ∈ p.roster.used →
    ((Runs.run step p events).sessions v).isCanWrite = true →
    (p.sessions v).isCanWrite = true := by
  induction events with
  | nil => exact fun _ _ _ hcan => hcan
  | cons e es ih =>
      intro p hinv hrun hused hcan
      exact isCanWrite_of_step hinv hrun.1 hused
        (ih (hinv.step e hrun.1) hrun.2 (Roster.mem_used_next _ hused) hcan)

/-- While a viewer that others leave alone watches a device, no request takes
its subscription back. -/
theorem sent_step (h : p.Inv) (he : e.dropsClient = false) (hsub : p.Subscribed v d)
    (hother : ¬e.ofSession v) :
    ∃ frames, (p.step e).sent = p.sent ++ frames
      ∧ ∀ r ∈ frames, Request.replay d true r = true := by
  have hkeeps : ∀ mask data, Reason p e mask data → ∀ r, Jt1078Client.IsFrame (mask, data) r →
      Request.replay d true r = true := by
    intro mask data hreason r hframe
    obtain ⟨hmask, hdata, -⟩ := hframe
    have htype : r.type = mask &&& Ipc.IPC_PKT_TYPE_MASK := by rw [Request.type, hmask]
    cases hreason with
    | asks pc packet _ _ _ => exact (Request.replay_subscribe (htype.trans rfl)).mpr (Or.inr rfl)
    | connects _ deviceId => exact (Request.replay_subscribe (htype.trans rfl)).mpr (Or.inr rfl)
    | heartbeat _ =>
        have hother : r.type = Ipc.IPC_PKT_TYPE_HEARTBEAT := htype
        exact Request.replay_other (by rw [hother]; decide) (by rw [hother]; decide)
    | leaves pc hpc hnames halone =>
        -- the device somebody leaves alone is not the viewer's
        have hne : generateDeviceId (p.getDeviceId pc) ≠ d := by
          intro heq
          exact hother (halone v (heq ▸ hsub) ▸ hpc)
        refine (Request.replay_unsubscribe ?_).mpr ⟨?_, rfl⟩
        · rw [htype]
          rfl
        · rw [hdata]
          exact hne.symm
  obtain ⟨calls, hclient, hcalls⟩ := requests_step h he
  rw [← sent_clientBefore p e]
  unfold sent
  rw [hclient]
  cases e.clientBefore p.client with
  | none => exact ⟨[], rfl, fun r hr => absurd hr List.not_mem_nil⟩
  | some c =>
      cases hup : c.isConnected with
      | false =>
          refine ⟨[], ?_, fun r hr => absurd hr List.not_mem_nil⟩
          exact (Jt1078Client.sent_sendAll_of_not_connected calls c hup).trans
            (List.append_nil _).symm
      | true =>
          obtain ⟨frames, hsent, hframes⟩ := Jt1078Client.sent_sendAll calls c hup
          refine ⟨frames, hsent, fun r hr => ?_⟩
          obtain ⟨call, hcall, hframe⟩ := hframes r hr
          exact hkeeps call.1 call.2 (hcalls call hcall) r hframe

end PcServer

end MultiProcessServer
