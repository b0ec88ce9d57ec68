/-
  MultiProcessServer.PcServer.NullClient
  ──────────────────────────────────────
  **WHEN `PcServer` USES A CLIENT IT DOES NOT HAVE.**

  `OnPacketCompleted` and `OnHeartbeatTimer` test `m_client` first, and the
  client's own callbacks have one.  `OnPacketError` does not test: it reaches
  `m_client->IsConnected()` in `UnSubscribeDeviceId` when the session that
  failed was the last one in its channel.

    `nullDeref_step`                : the events that do it,
    `no_null_client_iff_no_orphan`  : the runs without one.
-/
import MultiProcessServer.PcServer.Upstream

namespace MultiProcessServer.PcServer

variable {p q : PcServer} {pc : UInt64}

/-! ## §1. Handlers that have a client. -/

/-- If `p` has a client, so has `q`, and it was found on the way. -/
def Served (p q : PcServer) : Prop :=
  p.client.isSome = true → q.client.isSome = true ∧ q.nullDeref = p.nullDeref

theorem Served.refl (p : PcServer) : Served p p := fun h => ⟨h, rfl⟩

theorem Served.trans {r : PcServer} (h : Served p q) (h' : Served q r) : Served p r := by
  intro hc
  obtain ⟨hq, hnull⟩ := h hc
  obtain ⟨hr, hnull'⟩ := h' hq
  exact ⟨hr, hnull'.trans hnull⟩

theorem served_clientIsConnected : Served p p.clientIsConnected.2 := by
  intro hc
  unfold clientIsConnected
  split
  next hnone => simp [hnone] at hc
  next => exact ⟨hc, rfl⟩

theorem served_clientSendPacket (mask : UInt32) (data : List UInt8) :
    Served p (p.clientSendPacket mask data) := by
  intro hc
  unfold clientSendPacket
  split
  next hnone => simp [hnone] at hc
  next => exact ⟨rfl, rfl⟩

theorem served_tryUnsubscriber (strNewDeviceId : List UInt8) :
    Served p (p.tryUnsubscriberOldDeviceId pc strNewDeviceId) := by
  unfold tryUnsubscriberOldDeviceId
  dsimp only
  split
  · have hleft : Served p (p.without pc (generateDeviceId (p.getDeviceId pc))) := Served.refl p
    split
    · exact hleft.trans (served_clientIsConnected.trans (served_clientSendPacket _ _))
    · exact hleft.trans served_clientIsConnected
  · exact Served.refl p

theorem served_subscribeDeviceId (strDeviceId : List UInt8) :
    Served p (p.subscribeDeviceId pc strDeviceId) := by
  have hjoin : Served p (((p.tryUnsubscriberOldDeviceId pc strDeviceId).updatePc pc
      (·.setDeviceId strDeviceId)).within pc (generateDeviceId strDeviceId)) :=
    served_tryUnsubscriber strDeviceId
  unfold subscribeDeviceId
  dsimp only
  split
  · split
    · exact hjoin.trans (served_clientSendPacket _ _)
    · exact hjoin
  · exact served_tryUnsubscriber strDeviceId

theorem served_unSubscribeDeviceId : Served p (p.unSubscribeDeviceId pc) := by
  have hupdate : ∀ {q : PcServer}, Served p q → Served p (q.updatePc pc (·.clearDeviceId)) :=
    fun hq => hq
  have hleft : Served p (p.without pc (generateDeviceId (p.getDeviceId pc))) := Served.refl p
  unfold unSubscribeDeviceId
  dsimp only
  split
  · split
    · split
      · exact hupdate (hleft.trans (served_clientIsConnected.trans (served_clientSendPacket _ _)))
      · exact hupdate (hleft.trans served_clientIsConnected)
    · exact hupdate hleft
  · exact hupdate (Served.refl p)

theorem nullDeref_onClientConnect (bOk : Bool) (hc : p.client.isSome = true) :
    (p.onClientConnect bOk).nullDeref = p.nullDeref := by
  cases bOk with
  | false => rfl
  | true =>
      have hloop : ∀ (result : List UInt64) (q : PcServer), Served q (result.foldl
          (fun p deviceId => p.clientSendPacket
            (Ipc.IPC_PKT_TYPE_SUBSCRIBE_DEVICE_ID ||| Ipc.IPC_PKT_FROM_PC_SERVER)
            (generateDeviceIdStrByDeviceId p.garbage deviceId)) q) := by
        intro result
        induction result with
        | nil => exact Served.refl
        | cons deviceId result ih =>
            exact fun q => (served_clientSendPacket _ _).trans (ih _)
      exact (hloop (p.pcPublisher.getAllDeviceId true) p hc).2

/-- A connection attempt makes the client that it uses. -/
theorem nullDeref_asyncConnectServer (result : Option ConnectResult) :
    (p.asyncConnectServer result).2.nullDeref = p.nullDeref := by
  cases result with
  | none => rfl
  | some result =>
      cases result with
      | failed => rfl
      | pending => rfl
      | connected =>
          exact @nullDeref_onClientConnect
            { p with client := some (Jt1078Client.new.onConnected true) } true rfl
      | cleared =>
          exact @nullDeref_onClientConnect
            { p with client := some Jt1078Client.new.onCleared } true rfl
      | refused => rfl

/-! ## §2. The handler that has none. -/

/-- The session is the last one in the channel of its device while there is no
client. -/
def Orphaned (p : PcServer) (pc : UInt64) : Prop :=
  p.client = none ∧ p.getDeviceId pc ≠ []
    ∧ p.Alone pc (generateDeviceId (p.getDeviceId pc))

/-- **`UnSubscribeDeviceId` looks at the client when the channel is empty**,
whether there is one or not. -/
theorem nullDeref_unSubscribeDeviceId :
    (p.unSubscribeDeviceId pc).nullDeref = true ↔ p.nullDeref = true ∨ p.Orphaned pc := by
  cases hc : p.client with
  | some c =>
      have hnot : ¬p.Orphaned pc := fun ⟨hnone, _⟩ => by cases hc.symm.trans hnone
      have hserved := @served_unSubscribeDeviceId p pc (by rw [hc]; rfl)
      rw [hserved.2, or_iff_left hnot]
  | none =>
      by_cases hnil : p.getDeviceId pc = []
      · rw [unSubscribeDeviceId_of_nil hnil]
        exact (or_iff_left fun horphan => horphan.2.1 hnil).symm
      · have hif : (!(p.getDeviceId pc).isEmpty) = true := by simpa using hnil
        simp only [unSubscribeDeviceId, hif, if_true]
        split
        next hempty =>
            rw [isEmptySubscriber_without] at hempty
            refine iff_of_true ?_ (Or.inr ⟨hc, hnil, hempty⟩)
            simp [clientIsConnected, updatePc, hc]
        next hempty =>
            rw [isEmptySubscriber_without] at hempty
            exact (or_iff_left fun horphan => hempty horphan.2.2).symm

/-! ## §3. Every event. -/

/-- A viewer's connection fails while its device has no other viewer and there
is no client. -/
def Orphans (p : PcServer) (e : Event) : Prop := ∃ pc, e = .packetError pc ∧ p.Orphaned pc

theorem not_orphans {e : Event} (h : ∀ pc, e ≠ .packetError pc) : ¬p.Orphans e :=
  fun ⟨pc, heq, _⟩ => h pc heq

/-- The client that raises an event is there. -/
theorem client_of_isConnected (hup : p.isConnected = true) : p.client.isSome = true := by
  unfold isConnected at hup
  split at hup
  next => cases hup
  next hc => rw [hc]; rfl

/-- A request finds a client or is dropped. -/
theorem nullDeref_onPacketCompleted (packet : Ipc.Packet) :
    (p.onPacketCompleted pc packet).nullDeref = p.nullDeref := by
  apply onPacketCompleted_rule (P := fun q => q.nullDeref = p.nullDeref) packet rfl
  · intro hup strDeviceId
    exact (served_subscribeDeviceId strDeviceId (client_of_isConnected hup)).2
  · intro hup
    exact (served_unSubscribeDeviceId (client_of_isConnected hup)).2

theorem nullDeref_onHeartbeatTimer : p.onHeartbeatTimer.nullDeref = p.nullDeref := by
  unfold onHeartbeatTimer
  split
  next hup => exact (served_clientSendPacket _ _ (client_of_isConnected hup)).2
  next => rfl

theorem nullDeref_onClientMessage (packet : Ipc.Packet) (behind : List UInt8) :
    (p.onClientMessage packet behind).nullDeref = p.nullDeref := by
  unfold onClientMessage
  split <;> rfl

/-- **The events that use a client that is not there.** -/
theorem nullDeref_step (e : Event) (he : p.Enabled e) :
    (p.step e).nullDeref = true ↔ p.nullDeref = true ∨ p.Orphans e := by
  -- only a leaving session finds the client missing
  have hkept : (p.handle e).nullDeref = p.nullDeref → (∀ pc, e ≠ .packetError pc) →
      ((p.step e).nullDeref = true ↔ p.nullDeref = true ∨ p.Orphans e) := by
    intro hsame hother
    rw [or_iff_left (not_orphans hother), ← hsame, step]
  cases e with
  | newConnection pc socket init =>
      refine hkept ?_ fun _ => Event.noConfusion
      cases init <;> rfl
  | packetCompleted pc packet =>
      exact hkept (nullDeref_onPacketCompleted packet) fun _ => Event.noConfusion
  | packetError pc =>
      refine nullDeref_unSubscribeDeviceId.trans (or_congr_right ⟨fun h => ⟨pc, rfl, h⟩, ?_⟩)
      intro horphans
      obtain ⟨_, heq, horphan⟩ := horphans
      cases heq
      exact horphan
  | clientConnect bOk =>
      refine hkept ?_ fun _ => Event.noConfusion
      cases hc : p.client with
      | none => simp [Enabled, raises, hc] at he
      | some c =>
          unfold handle
          rw [hc]
          exact @nullDeref_onClientConnect { p with client := some (c.onConnected bOk) } bOk rfl
  | clientCleared =>
      refine hkept ?_ fun _ => Event.noConfusion
      cases hc : p.client with
      | none => simp [Enabled, raises, hc] at he
      | some c =>
          unfold handle
          rw [hc]
          exact @nullDeref_onClientConnect { p with client := some c.onCleared } true rfl
  | clientMessage packet behind =>
      exact hkept (nullDeref_onClientMessage packet behind) fun _ => Event.noConfusion
  | clientError =>
      refine hkept ?_ fun _ => Event.noConfusion
      have hclient := client_of_isConnected he.2
      show p.onClientError.nullDeref = p.nullDeref
      unfold onClientError
      rw [if_neg (by simpa using Option.isSome_iff_ne_none.mp hclient)]
      rfl
  | connectTimer result =>
      refine hkept ?_ fun _ => Event.noConfusion
      exact @nullDeref_asyncConnectServer { p with connectTimer := false } result
  | heartbeatTimer =>
      refine hkept ?_ fun _ => Event.noConfusion
      exact @nullDeref_onHeartbeatTimer { p with heartbeatTimer := false }

/-! ## §4. Every run. -/

/-- **Runs without a null client.**  No handler has called a method through a
null `m_client` in any state of a run exactly when no viewer failed as the
last one of its device while there was no client. -/
theorem no_null_client_iff_no_orphan (garbage : UInt8) (result : Option ConnectResult)
    (events : List Event) (h : Runs.Along step Enabled (init garbage result).2 events) :
    (∀ pre, pre <+: events →
        (Runs.run step (init garbage result).2 pre).nullDeref = false)
      ↔ Runs.Along step (fun p e => ¬p.Orphans e) (init garbage result).2 events := by
  have hinit : (init garbage result).2.nullDeref = false := nullDeref_asyncConnectServer result
  have hiff : ∀ (p : PcServer) (e : Event), p.nullDeref = false → p.Enabled e →
      ((p.step e).nullDeref = false ↔ ¬p.Orphans e) := by
    intro p e hp he
    rw [← Bool.not_eq_true, nullDeref_step e he, hp]
    simp
  exact Runs.always_iff_along (fun p => p.nullDeref = false)
    (fun p e hp he => (hiff p e hp he).mpr) hiff hinit hinit h

/-- A viewer fails while the upstream is connected. -/
theorem no_null_client_while_connected :
    let one : Ipc.Packet := ⟨⟨16, 1, 0, Ipc.IPC_PKT_TYPE_SUBSCRIBE_DEVICE_ID⟩, [49], rfl⟩
    let events : List Event := [.newConnection 7 [] true, .packetCompleted 7 one, .packetError 7]
    ∀ pre, pre <+: events → (Runs.run step (init 0 (some .connected)).2 pre).nullDeref = false := by
  intro one events
  apply (no_null_client_iff_no_orphan 0 (some .connected) events (by decide)).mpr
  refine ⟨not_orphans fun _ => Event.noConfusion, not_orphans fun _ => Event.noConfusion, ?_,
    trivial⟩
  intro horphans
  obtain ⟨pc, -, hnone, -⟩ := horphans
  exact absurd hnone (by decide)

/-- A viewer alone with its device fails between the loss of the upstream and
the reconnect timer. -/
theorem no_null_client_fails_on_orphan :
    let one : Ipc.Packet := ⟨⟨16, 1, 0, Ipc.IPC_PKT_TYPE_SUBSCRIBE_DEVICE_ID⟩, [49], rfl⟩
    let events : List Event :=
      [.newConnection 7 [] true, .packetCompleted 7 one, .clientError, .packetError 7]
    Runs.Along step Enabled (init 0 (some .connected)).2 events
      ∧ (Runs.run step (init 0 (some .connected)).2 events).nullDeref = true := by
  decide

end MultiProcessServer.PcServer
