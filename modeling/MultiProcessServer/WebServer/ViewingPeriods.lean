/-
  MultiProcessServer.WebServer.ViewingPeriods
  ───────────────────────────────────────────
  The SUBSCRIBE and UNSUBSCRIBE packets of a channel, over a whole connection.

  Main result:

    `subscribes_in_turn_iff` :
        while the connection stands they take turns, exactly when every
        `on_stop` is about a channel in use.

  `SessionStop` calls `NotifyStop` whenever the stream has no client left, and
  does not ask whether it had one before.
-/
import MultiProcessServer.WebServer.Viewers
import MultiProcessServer.Lib.Alternation

namespace MultiProcessServer

open Runs

/-! ## §1. Packets as marks. -/

namespace Request

/-- Whether the packet subscribes the channel or takes it back. -/
def mark (d : UInt64) (r : Request) : Option Bool :=
  if r.type = Ipc.IPC_PKT_TYPE_SUBSCRIBE_DEVICE_ID then
    if d = generateDeviceIdByBuffer r.data then some true else none
  else if r.type = Ipc.IPC_PKT_TYPE_UNSUBSCRIBE_DEVICE_ID then
    if d = generateDeviceIdByBuffer r.data then some false else none
  else none

/-- Packets as the marks of one channel. -/
abbrev marks (d : UInt64) (requests : List Request) : List Bool := requests.filterMap (mark d)

variable {d : UInt64} {r : Request}

theorem marks_one : marks d [r] = (mark d r).toList := by
  cases hmark : mark d r with
  | none => rw [marks, List.filterMap_cons_none hmark, List.filterMap_nil, Option.toList_none]
  | some m => rw [marks, List.filterMap_cons_some hmark, List.filterMap_nil, Option.toList_some]

theorem marks_subscribe (h : r.type = Ipc.IPC_PKT_TYPE_SUBSCRIBE_DEVICE_ID) :
    marks d [r] = if d = generateDeviceIdByBuffer r.data then [true] else [] := by
  rw [marks_one, mark, if_pos h]
  split <;> rfl

theorem marks_unsubscribe (h : r.type = Ipc.IPC_PKT_TYPE_UNSUBSCRIBE_DEVICE_ID) :
    marks d [r] = if d = generateDeviceIdByBuffer r.data then [false] else [] := by
  have hne : ¬r.type = Ipc.IPC_PKT_TYPE_SUBSCRIBE_DEVICE_ID := by
    rw [h]
    decide
  rw [marks_one, mark, if_neg hne, if_pos h]
  split <;> rfl

theorem marks_heartbeat (h : r.type = Ipc.IPC_PKT_TYPE_HEARTBEAT) : marks d [r] = [] := by
  have hs : ¬r.type = Ipc.IPC_PKT_TYPE_SUBSCRIBE_DEVICE_ID := by
    rw [h]
    decide
  have hu : ¬r.type = Ipc.IPC_PKT_TYPE_UNSUBSCRIBE_DEVICE_ID := by
    rw [h]
    decide
  rw [marks_one, mark, if_neg hs, if_neg hu]
  rfl

end Request

namespace WebServer

variable {w : WebServer} {s c : List UInt8} {d : UInt64}

/-! ## §2. What an event sends. -/

/-- What was sent on the connection there is. -/
def sent (w : WebServer) : List Request :=
  match w.jt1078Client with
  | none => []
  | some c => c.sent

/-- The channel is in `DeviceIdMgr`. -/
def inUse (w : WebServer) (d : UInt64) : Bool := w.deviceIdMgr.existsDeviceId d

theorem inUse_iff : w.inUse d = true ↔ w.deviceIdMgr.Holds d := DeviceIdMgr.existsDeviceId_iff

/-- An event that is not about the connection. -/
def Event.Local : Event → Prop
  | .webOnPlay _ | .srsOnSession _ | .clientMessage _ _ | .heartbeatTimer => True
  | .clientConnect _ | .clientCleared | .clientError | .connectTimer _ => False

/-- `w'` comes from `w` by sending these packets. -/
structure Sends (w w' : WebServer) (requests : List Request) : Prop where
  connected : w'.isConnected = true
  sent : w'.sent = w.sent ++ requests

/-- One packet on a live connection. -/
theorem sends_sendPacketIfConnected (hup : w.isConnected = true) (mask : UInt32)
    (data : List UInt8) :
    ∃ r : Request, r.type = mask &&& Ipc.IPC_PKT_TYPE_MASK ∧ r.data = data
      ∧ w.Sends (w.sendPacketIfConnected mask data) [r] := by
  unfold isConnected at hup
  cases hc : w.jt1078Client with
  | none =>
      rw [hc] at hup
      exact absurd hup Bool.false_ne_true
  | some c =>
      rw [hc] at hup
      have hup' : c.bConnected = true := hup
      refine ⟨⟨c.header mask data.length, data⟩, rfl, rfl, ?_, ?_⟩
      · simp [sendPacketIfConnected, isConnected, Jt1078Client.isConnected,
          Jt1078Client.sendPacket, hc, hup']
      · simp [sendPacketIfConnected, sent, Jt1078Client.isConnected, Jt1078Client.sendPacket,
          hc, hup']

theorem Sends.refl (hup : w.isConnected = true) : w.Sends w [] :=
  ⟨hup, (List.append_nil _).symm⟩

/-- `NotifyStart` subscribes a channel that is not in use. -/
theorem sends_notifyStart (hup : w.isConnected = true) (s : List UInt8) :
    ∃ requests, w.Sends (w.notifyStart s) requests ∧ ∀ d, Request.marks d requests
      = if d = generateDeviceId s ∧ w.inUse d = false then [true] else [] := by
  unfold notifyStart
  dsimp only
  split
  next hexists =>
      refine ⟨[], .refl hup, fun d => ?_⟩
      rw [if_neg]
      · rfl
      · rintro ⟨rfl, hfree⟩
        exact Bool.noConfusion (hexists.symm.trans hfree)
  next hexists =>
      obtain ⟨r, htype, hdata, hsends⟩ := @sends_sendPacketIfConnected
        { w with deviceIdMgr := w.deviceIdMgr.insert (generateDeviceId s) } hup
        (Ipc.IPC_PKT_TYPE_SUBSCRIBE_DEVICE_ID ||| Ipc.IPC_PKT_FROM_WEB_SERVER) s
      refine ⟨[r], ⟨hsends.connected, hsends.sent⟩, fun d => ?_⟩
      have hmarks : Request.marks d [r] = if d = generateDeviceId s then [true] else [] := by
        rw [Request.marks_subscribe htype, hdata]
        rfl
      rw [hmarks]
      by_cases hd : d = generateDeviceId s
      · have hfree : w.inUse d = false := by
          rw [hd]
          exact Bool.not_eq_true _ ▸ hexists
        rw [if_pos hd, if_pos ⟨hd, hfree⟩]
      · rw [if_neg hd, if_neg fun h => hd h.1]

/-- `NotifyStop` takes the channel back, in use or not. -/
theorem sends_notifyStop (hup : w.isConnected = true) (s : List UInt8) :
    ∃ requests, w.Sends (w.notifyStop s) requests ∧ ∀ d, Request.marks d requests
      = if d = generateDeviceId s then [false] else [] := by
  obtain ⟨r, htype, hdata, hsends⟩ := @sends_sendPacketIfConnected
    { w with deviceIdMgr := w.deviceIdMgr.remove (generateDeviceId s) } hup
    (Ipc.IPC_PKT_TYPE_UNSUBSCRIBE_DEVICE_ID ||| Ipc.IPC_PKT_FROM_WEB_SERVER) s
  refine ⟨[r], ⟨hsends.connected, hsends.sent⟩, fun d => ?_⟩
  rw [Request.marks_unsubscribe htype, hdata]
  rfl

/-! ## §3. Taking turns. -/

/-- The packets switch each channel in turn, and `DeviceIdMgr` with it. -/
structure Turns (w w' : WebServer) (requests : List Request) : Prop extends
    Sends w w' requests where
  alternates : ∀ d, Alternates (w.inUse d) (Request.marks d requests)
  level : ∀ d, w'.inUse d = level (w.inUse d) (Request.marks d requests)

/-- Packets about nothing. -/
theorem Sends.turns {w' : WebServer} {requests : List Request} (h : w.Sends w' requests)
    (hmarks : ∀ d, Request.marks d requests = []) (hmgr : w'.deviceIdMgr = w.deviceIdMgr) :
    w.Turns w' requests where
  toSends := h
  alternates d := by
    rw [hmarks]
    exact alternates_nil _
  level d := by
    rw [hmarks, level_nil, inUse, hmgr, inUse]

theorem turns_notifyStart (hup : w.isConnected = true) (s : List UInt8) :
    ∃ requests, w.Turns (w.notifyStart s) requests := by
  obtain ⟨requests, hsends, hmarks⟩ := sends_notifyStart hup s
  obtain ⟨-, hholds⟩ := @notifyStart_effect w s
  have hafter : ∀ d, (w.notifyStart s).inUse d = true ↔ d = generateDeviceId s ∨ w.inUse d = true :=
    fun d => by rw [inUse_iff, inUse_iff, hholds]
  refine ⟨requests, hsends, fun d => ?_, fun d => ?_⟩
  · rw [hmarks]
    split
    next h => simp [h.2]
    next => exact alternates_nil _
  · rw [hmarks, Bool.eq_iff_iff, hafter]
    split
    next h => simp [h.1]
    next h =>
      rw [level_nil, or_iff_right_iff_imp]
      intro hd
      exact Bool.not_eq_false _ ▸ fun hfree => h ⟨hd, hfree⟩

/-- Taking back a channel in use. -/
theorem turns_notifyStop (hup : w.isConnected = true)
    (hused : w.inUse (generateDeviceId s) = true) :
    ∃ requests, w.Turns (w.notifyStop s) requests := by
  obtain ⟨requests, hsends, hmarks⟩ := sends_notifyStop hup s
  obtain ⟨-, hholds⟩ := @notifyStop_effect w s
  have hafter : ∀ d, (w.notifyStop s).inUse d = true ↔ d ≠ generateDeviceId s ∧ w.inUse d = true :=
    fun d => by rw [inUse_iff, inUse_iff, hholds]
  refine ⟨requests, hsends, fun d => ?_, fun d => ?_⟩
  · rw [hmarks]
    split
    next h => simp [h, hused]
    next => exact alternates_nil _
  · rw [hmarks, Bool.eq_iff_iff, hafter]
    split
    next h => simp [h]
    next h => rw [level_nil, and_iff_right h]

theorem turns_sessionPlay (hup : w.isConnected = true) (s c : List UInt8) :
    ∃ requests, w.Turns (w.sessionPlay s c) requests := by
  unfold sessionPlay
  dsimp only
  split
  next =>
      obtain ⟨requests, hturns⟩ :=
        @turns_notifyStart { w with sessionStat := (w.sessionStat.emptyClientId s).2 } hup s
      exact ⟨requests, ⟨hturns.connected, hturns.sent⟩, hturns.alternates, hturns.level⟩
  next =>
      have hsends : w.Sends { w with sessionStat :=
          (w.sessionStat.emptyClientId s).2.addClientId s c } [] :=
        ⟨hup, (Sends.refl hup).sent⟩
      exact ⟨[], hsends.turns (fun _ => rfl) rfl⟩

/-- `SessionStop` tells the channel's end when nobody but `c` views it. -/
theorem sends_sessionStop (hup : w.isConnected = true)
    (hlast : ∀ y, w.sessionStat.Views s y → y = c) :
    ∃ requests, w.Sends (w.sessionStop s c) requests ∧ ∀ d, Request.marks d requests
      = if d = generateDeviceId s then [false] else [] := by
  unfold sessionStop
  dsimp only
  rw [if_pos (HttpSessionStat.emptyClientId_delClientId.mpr hlast)]
  obtain ⟨requests, hsends, hmarks⟩ := @sends_notifyStop
    { w with sessionStat := ((w.sessionStat.delClientId s c).emptyClientId s).2 } hup s
  exact ⟨requests, ⟨hsends.connected, hsends.sent⟩, hmarks⟩

theorem turns_sessionStop (hup : w.isConnected = true)
    (hused : w.inUse (generateDeviceId s) = true) (c : List UInt8) :
    ∃ requests, w.Turns (w.sessionStop s c) requests := by
  unfold sessionStop
  dsimp only
  split
  next =>
      obtain ⟨requests, hturns⟩ := @turns_notifyStop
        { w with sessionStat := ((w.sessionStat.delClientId s c).emptyClientId s).2 } s hup hused
      exact ⟨requests, ⟨hturns.connected, hturns.sent⟩, hturns.alternates, hturns.level⟩
  next =>
      have hsends : w.Sends { w with sessionStat :=
          ((w.sessionStat.delClientId s c).emptyClientId s).2 } [] :=
        ⟨hup, (Sends.refl hup).sent⟩
      exact ⟨[], hsends.turns (fun _ => rfl) rfl⟩

/-! ## §4. Every run. -/

/-- A valid `on_stop` is about a channel in use. -/
def StopsInUse (w : WebServer) : Event → Prop
  | .srsOnSession (some j) =>
      j.Valid → j.strAction = ascii "on_stop" → w.inUse (generateDeviceId j.strStream) = true
  | _ => True

instance (j : SrsCallback) : Decidable j.Valid := inferInstanceAs (Decidable (_ ∧ _ ∧ _))

instance (w : WebServer) : ∀ e : Event, Decidable (w.StopsInUse e)
  | .srsOnSession (some j) =>
      inferInstanceAs (Decidable (j.Valid → j.strAction = ascii "on_stop" → _ = true))
  | .srsOnSession none | .webOnPlay _ | .clientConnect _ | .clientCleared | .clientMessage _ _
  | .clientError | .connectTimer _ | .heartbeatTimer => .isTrue trivial

/-- **One event**, if it stops no channel that is not in use. -/
theorem turns_step (hup : w.isConnected = true) {e : Event} (he : e.Local)
    (hstops : w.StopsInUse e) : ∃ requests, w.Turns (w.step e) requests := by
  have hnothing : w.Turns w [] := (Sends.refl hup).turns (fun _ => rfl) rfl
  cases e with
  | webOnPlay str =>
      cases str with
      | none => exact ⟨[], hnothing⟩
      | some str =>
          simp only [step, webOnPlay]
          cases checkDeviceIdStrFmt str with
          | true => exact turns_notifyStart hup str
          | false => exact ⟨[], hnothing⟩
  | srsOnSession fields =>
      cases fields with
      | none => exact ⟨[], hnothing⟩
      | some j =>
          obtain ⟨hvalid, haction, heq⟩ | ⟨-, -, heq⟩ | ⟨-, heq⟩ := w.srsOnSession_cases j
          · rw [step, heq]
            exact turns_sessionStop hup (hstops hvalid haction) j.strClientId
          · rw [step, heq]
            exact turns_sessionPlay hup j.strStream j.strClientId
          · rw [step, heq]
            exact ⟨[], hnothing⟩
  | clientMessage packet behind =>
      simp only [step, onClientMessage]
      split
      · exact ⟨[], ⟨hnothing.connected, hnothing.sent⟩, hnothing.alternates, hnothing.level⟩
      · exact ⟨[], hnothing⟩
  | heartbeatTimer =>
      obtain ⟨r, htype, -, hsends⟩ := @sends_sendPacketIfConnected
        { w with heartbeatTimer := false } hup
        (Ipc.IPC_PKT_TYPE_HEARTBEAT ||| Ipc.IPC_PKT_FROM_WEB_SERVER) []
      have hsends' : w.Sends (w.step .heartbeatTimer) [r] := ⟨hsends.connected, hsends.sent⟩
      exact ⟨[r], hsends'.turns (fun d => Request.marks_heartbeat htype)
        (sendPacketIfConnected_frame _ _).2⟩
  | clientConnect _ | clientCleared | clientError | connectTimer _ => exact he.elim

/-- **The other events**: an `on_stop` of a channel that is not in use takes it
back all the same, for nobody views its stream. -/
theorem sends_step_of_not_stopsInUse (h : w.Booked) (hup : w.isConnected = true) {e : Event}
    (hstops : ¬w.StopsInUse e) :
    ∃ requests, w.Sends (w.step e) requests
      ∧ ∃ d, ¬Alternates (w.inUse d) (Request.marks d requests) := by
  have hcase : ∃ j : SrsCallback, e = .srsOnSession (some j) ∧ j.Valid
      ∧ j.strAction = ascii "on_stop" ∧ w.inUse (generateDeviceId j.strStream) = false := by
    cases e with
    | srsOnSession fields =>
        cases fields with
        | none => exact absurd trivial hstops
        | some j =>
            obtain ⟨hvalid, hstops⟩ := Classical.not_imp.mp hstops
            obtain ⟨haction, hfree⟩ := Classical.not_imp.mp hstops
            exact ⟨j, rfl, hvalid, haction, Bool.not_eq_true _ ▸ hfree⟩
    | webOnPlay _ | clientConnect _ | clientCleared | clientMessage _ _ | clientError
    | connectTimer _ | heartbeatTimer => exact absurd trivial hstops
  obtain ⟨j, rfl, hvalid, haction, hfree⟩ := hcase
  have hnobody : ∀ y, w.sessionStat.Views j.strStream y → y = j.strClientId := by
    intro y hy
    have hheld := h.held j.strStream (HttpSessionStat.present_of_views hy)
    exact Bool.noConfusion ((inUse_iff.mpr hheld).symm.trans hfree)
  obtain ⟨requests, hsends, hmarks⟩ := sends_sessionStop hup hnobody
  obtain ⟨-, -, heq⟩ | ⟨-, hplay, -⟩ | ⟨hnot, -⟩ := w.srsOnSession_cases j
  · refine ⟨requests, by rw [step, heq]; exact hsends, generateDeviceId j.strStream, ?_⟩
    rw [hmarks, if_pos rfl, hfree]
    decide
  · exact absurd (haction.symm.trans hplay) (by decide)
  · exact absurd hvalid hnot

/-- The packets an event sends. -/
def requests (w : WebServer) (e : Event) : List Request := (w.step e).sent.drop w.sent.length

theorem Sends.requests_eq {e : Event} {rs : List Request} (h : w.Sends (w.step e) rs) :
    w.requests e = rs := by
  unfold requests
  rw [h.sent, List.drop_left]

/-- A connected server whose table is in order. -/
def Serving (w : WebServer) : Prop := w.Booked ∧ w.isConnected = true

theorem Serving.step_cases (h : w.Serving) {e : Event} (he : e.Local) :
    w.Sends (w.step e) (w.requests e)
      ∧ (w.StopsInUse e → w.Turns (w.step e) (w.requests e))
      ∧ ((∀ d, Alternates (w.inUse d) (Request.marks d (w.requests e))) → w.StopsInUse e) := by
  by_cases hstops : w.StopsInUse e
  · obtain ⟨rs, hturns⟩ := turns_step h.2 he hstops
    rw [hturns.requests_eq]
    exact ⟨hturns.toSends, fun _ => hturns, fun _ => hstops⟩
  · obtain ⟨rs, hsends, d, hbad⟩ := sends_step_of_not_stopsInUse h.1 h.2 hstops
    rw [hsends.requests_eq]
    exact ⟨hsends, fun hin => absurd hin hstops, fun hall => absurd (hall d) hbad⟩

theorem Serving.step (h : w.Serving) {e : Event} (he : e.Local) : (w.step e).Serving :=
  ⟨booked_step h.1 e, (h.step_cases he).1.connected⟩

/-- **When the packets take turns.**  From any state in which the server is
connected and no channel is in use, through any requests, messages and
heartbeats: the SUBSCRIBE and UNSUBSCRIBE packets of every channel alternate,
SUBSCRIBE first, exactly when each valid `on_stop` finds its channel in use. -/
theorem subscribes_in_turn_iff (result : Option ConnectResult) (before events : List Event)
    (hup : (Runs.run step (init result).2 before).isConnected = true)
    (hidle : ∀ d, (Runs.run step (init result).2 before).inUse d = false)
    (hlocal : ∀ e ∈ events, e.Local) :
    let w := Runs.run step (init result).2 before
    ∃ requests : List Request,
      (Runs.run step w events).sent = w.sent ++ requests
      ∧ ((∀ d, Alternates false (Request.marks d requests))
          ↔ Runs.Along step StopsInUse w events) := by
  intro w
  have hbooked : w.Booked :=
    Runs.run_invariant (I := Booked) (fun v e (hv : v.Booked) _ => booked_step hv e)
      (booked_init result) (Runs.along_of_forall (fun _ _ => trivial) before _)
  have hserving : w.Serving := ⟨hbooked, hup⟩
  have hkeep : ∀ (v : WebServer) (e : Event), v.Serving → e.Local → (v.step e).Serving :=
    fun v e hv he => hv.step he
  have halong : Runs.Along step (fun _ e => e.Local) w events := along_iff_forall.mpr hlocal
  refine ⟨emitted step requests w events, ?_, ?_⟩
  · have hlog := log_eq_emitted sent requests (fun r => [r]) hkeep
      (fun v e hv he => by rw [(hv.step_cases he).1.sent, List.flatMap_singleton']) hserving halong
    rw [hlog, List.flatMap_singleton']
  · have hiff := alternates_emitted_iff inUse (fun d v e => Request.marks d (v.requests e)) hkeep
      (fun v e hv he hC d => ⟨((hv.step_cases he).2.1 hC).alternates d,
        ((hv.step_cases he).2.1 hC).level d⟩)
      (fun v e hv he hall => (hv.step_cases he).2.2 hall) hserving halong
    rw [← hiff]
    refine forall_congr' fun d => ?_
    rw [hidle d, Request.marks, filterMap_emitted]

/-- A callback about one stream. -/
def viewing (strAction strClientId : String) : Event :=
  .srsOnSession (some ⟨ascii strAction, ascii "06495940943803", ascii strClientId, ascii "live"⟩)

/-- Two viewers come, one comes again, both go. -/
theorem subscribes_in_turn_two_viewers :
    let w := Runs.run step (init (some .connected)).2 []
    let events := [viewing "on_play" "1", viewing "on_play" "2", viewing "on_play" "1",
      viewing "on_stop" "1", viewing "on_stop" "2"]
    ∃ requests : List Request,
      (Runs.run step w events).sent = w.sent ++ requests
      ∧ ∀ d, Alternates false (Request.marks d requests) := by
  intro w events
  have hidle : ∀ d, w.inUse d = false := by
    intro d
    show (∅ : Std.TreeSet UInt64).contains d = false
    exact Std.TreeSet.contains_emptyc
  have hlocal : ∀ e ∈ events, e.Local := by
    simp [events, viewing, Event.Local]
  obtain ⟨requests, hsent, hiff⟩ :=
    subscribes_in_turn_iff (some .connected) [] events rfl hidle hlocal
  exact ⟨requests, hsent, hiff.mpr (by decide +kernel)⟩

/-- An `on_stop` of a client that was never there: the first packet of the
channel is an UNSUBSCRIBE. -/
theorem subscribes_in_turn_fails_on_unknown_client :
    let w := Runs.run step (init (some .connected)).2 [viewing "on_stop" "1"]
    w.isConnected = true
      ∧ ¬Alternates false (Request.marks 0x06495940943803 w.sent) := by
  decide +kernel

end WebServer

end MultiProcessServer
