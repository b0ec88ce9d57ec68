/-
  MultiProcessServer.WebServer.Resubscription
  ───────────────────────────────────────────
  **WHAT `jt1078_server` THINKS `web_server` WANTS.**

  A request changes the set of channels and, on a live connection, tells
  `jt1078_server`, so the two agree as long as the connection lasts.  A new
  connection starts with nothing subscribed and `OnClientConnect` sends
  nothing, so the two agree on it only if the set is empty.

    `matched_step`                 : what each event does to the agreement,
    `matched_iff_connects_empty`   : the runs in which it holds throughout.
-/
import MultiProcessServer.WebServer.WebServer

namespace MultiProcessServer.WebServer

open Ipc (IPC_PKT_TYPE_SUBSCRIBE_DEVICE_ID IPC_PKT_TYPE_UNSUBSCRIBE_DEVICE_ID
  IPC_PKT_FROM_WEB_SERVER IPC_PKT_TYPE_HEARTBEAT)

variable {w : WebServer} {d : UInt64}

/-! ## §1. The requests of the current connection. -/

/-- The device is subscribed by the packets sent on the current connection. -/
def up (w : WebServer) (deviceId : UInt64) : Bool :=
  match w.jt1078Client with
  | none => false
  | some c => Request.requested c.sent deviceId

/-- On a live connection, the channels in use are the ones subscribed. -/
def Matched (w : WebServer) : Prop :=
  w.isConnected = true → ∀ d, w.up d = true ↔ w.deviceIdMgr.Holds d

theorem matched_of_not_connected (hup : w.isConnected = false) : w.Matched :=
  fun h => absurd (hup.symm.trans h) Bool.false_ne_true

/-- Only the client and the set of channels matter. -/
theorem Matched.congr {v : WebServer} (h : w.Matched) (hclient : v.jt1078Client = w.jt1078Client)
    (hset : v.deviceIdMgr = w.deviceIdMgr) : v.Matched := by
  intro hup d
  unfold isConnected at hup
  rw [hclient] at hup
  unfold up
  rw [hclient, hset]
  exact h hup d

theorem sendPacketIfConnected_of_connected (hup : w.isConnected = true) :
    ∃ c, w.jt1078Client = some c ∧ c.isConnected = true
      ∧ ∀ mask data, w.sendPacketIfConnected mask data
          = { w with jt1078Client := some (c.sendPacket mask data) } := by
  cases hc : w.jt1078Client with
  | none => simp [isConnected, hc] at hup
  | some c =>
      have hcup : c.isConnected = true := by rwa [isConnected, hc] at hup
      exact ⟨c, rfl, hcup, fun _ _ => by simp only [sendPacketIfConnected, hc, if_pos hcup]⟩

theorem sendPacketIfConnected_of_not_connected (hup : w.isConnected = false) (mask : UInt32)
    (data : List UInt8) : w.sendPacketIfConnected mask data = w := by
  unfold isConnected at hup
  unfold sendPacketIfConnected
  split
  next => rfl
  next c hc =>
      have hcdown : c.isConnected = false := by rwa [hc] at hup
      exact if_neg (by rw [hcdown]; exact Bool.false_ne_true)

/-- **A request keeps the two in agreement**, when it does to the set what its
packet does to the subscriptions. -/
theorem matched_sendPacketIfConnected {v : WebServer} (h : w.Matched)
    (hclient : v.jt1078Client = w.jt1078Client) {mask : UInt32} {data : List UInt8}
    (hsend : ∀ c : Jt1078Client, c.isConnected = true → ∀ d,
      (Request.requested c.sent d = true ↔ w.deviceIdMgr.Holds d) →
      (Request.requested (c.sendPacket mask data).sent d = true ↔ v.deviceIdMgr.Holds d)) :
    (v.sendPacketIfConnected mask data).Matched := by
  cases hup : v.isConnected with
  | false =>
      rw [sendPacketIfConnected_of_not_connected hup]
      exact matched_of_not_connected hup
  | true =>
      obtain ⟨c, hc, hcup, heq⟩ := sendPacketIfConnected_of_connected hup
      rw [heq]
      intro _ d
      apply hsend c hcup d
      have hw : w.jt1078Client = some c := hclient.symm.trans hc
      have hmatched := h (by rw [isConnected, hw]; exact hcup) d
      rwa [up, hw] at hmatched

/-! ## §2. Starting and stopping a channel. -/

theorem matched_notifyStart (h : w.Matched) (strDeviceId : List UInt8) :
    (w.notifyStart strDeviceId).Matched := by
  unfold notifyStart
  dsimp only
  split
  · exact h
  · have hsent : (sendPacketIfConnected
        { w with deviceIdMgr := w.deviceIdMgr.insert (generateDeviceId strDeviceId) }
        (IPC_PKT_TYPE_SUBSCRIBE_DEVICE_ID ||| IPC_PKT_FROM_WEB_SERVER) strDeviceId).Matched := by
      refine matched_sendPacketIfConnected h ?_ fun c hcup d hbefore => ?_
      · rfl
      · rw [Jt1078Client.requested_send_subscribe hcup (by decide), hbefore]
        exact DeviceIdMgr.holds_insert.symm
    exact hsent.congr rfl rfl

theorem matched_notifyStop (h : w.Matched) (strDeviceId : List UInt8) :
    (w.notifyStop strDeviceId).Matched := by
  have hsent : (sendPacketIfConnected
      { w with deviceIdMgr := w.deviceIdMgr.remove (generateDeviceId strDeviceId) }
      (IPC_PKT_TYPE_UNSUBSCRIBE_DEVICE_ID ||| IPC_PKT_FROM_WEB_SERVER) strDeviceId).Matched := by
    refine matched_sendPacketIfConnected h ?_ fun c hcup d hbefore => ?_
    · rfl
    · rw [Jt1078Client.requested_send_unsubscribe hcup (by decide), hbefore]
      exact DeviceIdMgr.holds_remove.symm
  exact hsent.congr rfl rfl

theorem matched_sessionStop (h : w.Matched) (strStream strClientId : List UInt8) :
    (w.sessionStop strStream strClientId).Matched := by
  have hstat : ∀ stat, ({ w with sessionStat := stat } : WebServer).Matched := fun _ => h
  unfold sessionStop
  dsimp only
  split
  · have hstop := matched_notifyStop (hstat
      ((w.sessionStat.delClientId strStream strClientId).emptyClientId strStream).2) strStream
    exact hstop.congr rfl rfl
  · exact hstat _

theorem matched_sessionPlay (h : w.Matched) (strStream strClientId : List UInt8) :
    (w.sessionPlay strStream strClientId).Matched := by
  have hstat : ∀ stat, ({ w with sessionStat := stat } : WebServer).Matched := fun _ => h
  unfold sessionPlay
  dsimp only
  split
  · have hstart := matched_notifyStart (hstat (w.sessionStat.emptyClientId strStream).2) strStream
    exact hstart.congr rfl rfl
  · exact hstat _

/-- HTTP requests keep the agreement. -/
theorem matched_webOnPlay (h : w.Matched) (strDeviceId : Option (List UInt8)) :
    (w.webOnPlay strDeviceId).2.Matched := by
  cases strDeviceId with
  | none => exact h
  | some strDeviceId =>
      simp only [webOnPlay]
      split
      · exact h
      · exact matched_notifyStart h strDeviceId

theorem matched_srsOnSession (h : w.Matched) (fields : Option SrsCallback) :
    (w.srsOnSession fields).2.Matched := by
  cases fields with
  | none => exact h
  | some j =>
      simp only [srsOnSession]
      split
      · exact h
      · split
        · exact h
        · split
          · exact h
          · split
            · exact matched_sessionStop h j.strStream j.strClientId
            · exact matched_sessionPlay h j.strStream j.strClientId

/-! ## §3. The callbacks of the client and the timers. -/

theorem matched_onClientMessage (h : w.Matched) (packet : Ipc.Packet) (behind : List UInt8) :
    (w.onClientMessage packet behind).Matched := by
  unfold onClientMessage
  split
  · exact h.congr rfl rfl
  · exact h

theorem matched_onHeartbeatTimer (h : w.Matched) : w.onHeartbeatTimer.Matched := by
  have hsent : (w.sendPacketIfConnected (IPC_PKT_TYPE_HEARTBEAT ||| IPC_PKT_FROM_WEB_SERVER)
      []).Matched :=
    matched_sendPacketIfConnected h rfl fun c hcup d hbefore => by
      rw [Jt1078Client.requested_send_heartbeat hcup (by decide)]
      exact hbefore
  exact hsent.congr rfl rfl

/-- A new connection agrees with the set only if the set is empty. -/
theorem matched_of_fresh {c : Jt1078Client} (hc : w.jt1078Client = some c)
    (hup : c.isConnected = true) (hsent : c.sent = []) :
    w.Matched ↔ ∀ d, ¬w.deviceIdMgr.Holds d := by
  have hconnected : w.isConnected = true := by rwa [isConnected, hc]
  have hdown : ∀ d, ¬w.up d = true := by
    intro d
    unfold up
    rw [hc]
    simp [hsent]
  exact ⟨fun h d hd => hdown d ((h hconnected d).mpr hd),
    fun h _ d => iff_of_false (hdown d) (h d)⟩

/-- The event is the success of a connection attempt. -/
def Event.connects : Event → Bool
  | .clientConnect bOk => bOk
  | .connectTimer result => result == some .connected
  | _ => false

/-- A connection that is closed again is none. -/
theorem isConnected_clientCleared : (w.step .clientCleared).isConnected = false := by
  show ({ w with
    jt1078Client := w.jt1078Client.map Jt1078Client.onCleared } : WebServer).isConnected = false
  unfold isConnected
  cases w.jt1078Client <;> rfl

theorem matched_asyncConnectServer (result : Option ConnectResult) :
    (w.asyncConnectServer result).2.Matched
      ↔ (result = some .connected → ∀ d, ¬w.deviceIdMgr.Holds d) := by
  cases result with
  | none => exact iff_of_true (matched_of_not_connected rfl) fun hresult => by cases hresult
  | some result =>
      cases result with
      | failed | pending | cleared | refused =>
          exact iff_of_true (matched_of_not_connected rfl) fun hresult => by cases hresult
      | connected =>
          have hfresh : (w.asyncConnectServer (some .connected)).2.Matched
              ↔ ∀ d, ¬w.deviceIdMgr.Holds d := matched_of_fresh rfl rfl rfl
          exact hfresh.trans ⟨fun h _ => h, fun h => h rfl⟩

/-- **What each event does to the agreement**: a connection breaks it unless the
set is empty, everything else keeps it. -/
theorem matched_step (h : w.Matched) {e : Event} (he : w.Enabled e) :
    (w.step e).Matched ↔ (e.connects = true → ∀ d, ¬w.deviceIdMgr.Holds d) := by
  -- an event that is no successful connection keeps what holds
  have hkept : e.connects = false → (w.step e).Matched →
      ((w.step e).Matched ↔ (e.connects = true → ∀ d, ¬w.deviceIdMgr.Holds d)) :=
    fun hconnects hmatched => iff_of_true hmatched fun htrue =>
      absurd (hconnects.symm.trans htrue) Bool.false_ne_true
  cases e with
  | webOnPlay strDeviceId => exact hkept rfl (matched_webOnPlay h strDeviceId)
  | srsOnSession fields => exact hkept rfl (matched_srsOnSession h fields)
  | clientMessage packet behind => exact hkept rfl (matched_onClientMessage h packet behind)
  | clientError => exact hkept rfl (matched_of_not_connected rfl)
  | clientCleared => exact hkept rfl (matched_of_not_connected isConnected_clientCleared)
  | heartbeatTimer =>
      have hidle : ({ w with heartbeatTimer := false } : WebServer).Matched := h.congr rfl rfl
      exact hkept rfl (matched_onHeartbeatTimer hidle)
  | connectTimer result =>
      unfold Event.connects
      rw [beq_iff_eq]
      exact @matched_asyncConnectServer { w with connectTimer := false } result
  | clientConnect bOk =>
      cases bOk with
      | false => exact hkept rfl (matched_of_not_connected rfl)
      | true =>
          cases hc : w.jt1078Client with
          | none => simp [Enabled, hc] at he
          | some c =>
              have hconnecting : c.connecting = true := by simpa [Enabled, hc] using he
              have hclient : (w.step (.clientConnect true)).jt1078Client
                  = some (c.onConnected true) := by
                show w.jt1078Client.map _ = _
                rw [hc]
                rfl
              -- a fresh connection carries no subscription, so there must be no device
              apply (matched_of_fresh hclient rfl (c.pending hconnecting).2).trans
              exact ⟨fun h _ => h, fun h => h rfl⟩

/-! ## §4. Every run. -/

/-- **When the subscriptions are the channels in use.**  In every state of a run
in which the client is connected, the devices subscribed on the current
connection are the ones in `DeviceIdMgr`, exactly when that set is empty at
every success of a connection attempt. -/
theorem matched_iff_connects_empty (result : Option ConnectResult) (events : List Event)
    (h : Runs.Along step Enabled (init result).2 events) :
    (∀ pre, pre <+: events → (Runs.run step (init result).2 pre).Matched)
      ↔ Runs.Along step (fun w e => e.connects = true → ∀ d, ¬w.deviceIdMgr.Holds d)
          (init result).2 events := by
  have hempty : ∀ d, ¬(new.deviceIdMgr).Holds d := fun d hd => Std.TreeSet.not_mem_emptyc hd
  have hinit : (init result).2.Matched :=
    (@matched_asyncConnectServer { new with heartbeatTimer := true } result).mpr fun _ => hempty
  exact Runs.always_iff_along Matched (fun w e hw he => (matched_step hw he).mpr)
    (fun w e hw he => matched_step hw he) hinit hinit h

/-- A channel started on a live connection. -/
theorem matched_while_connected :
    let device : List UInt8 := ascii "06495940943803"
    let events : List Event := [.clientConnect true, .webOnPlay (some device)]
    ∀ pre, pre <+: events → (Runs.run step (init (some .pending)).2 pre).Matched := by
  intro device events
  refine (matched_iff_connects_empty (some .pending) events (by decide)).mpr
    ⟨fun _ d hd => Std.TreeSet.not_mem_emptyc hd, fun hfalse => absurd hfalse Bool.false_ne_true,
      trivial⟩

/-- A channel started before the first connection is there. -/
theorem matched_fails_on_early_request :
    let device : List UInt8 := ascii "06495940943803"
    let events : List Event := [.webOnPlay (some device), .clientConnect true]
    Runs.Along step Enabled (init (some .pending)).2 events
      ∧ ¬(Runs.run step (init (some .pending)).2 events).Matched := by
  intro device events
  refine ⟨by decide, ?_⟩
  intro hmatched
  have hup := (hmatched (by decide) 0x06495940943803).mpr (by decide)
  exact absurd hup (by decide)

end MultiProcessServer.WebServer
