/-
  MultiProcessServer.WebServer.Viewers
  ────────────────────────────────────
  The viewers of each stream (`HttpSessionStat`, keyed by text) and the
  channels in use (`DeviceIdMgr`, keyed by number) tell the same story.

    `viewers_and_devices_agree` :
        a stream in the table has a viewer and its channel is in use; a
        channel in use has a viewer, or was started by `/web_on_play` and not
        stopped since.
-/
import MultiProcessServer.WebServer.WebServer
import Mathlib.Data.List.Induction

namespace MultiProcessServer

/-! ## §1. The table of viewers. -/

namespace HttpSessionStat

/-- The stream is in the map. -/
def Present (stat : HttpSessionStat) (strSession : List UInt8) : Prop :=
  strSession ∈ stat.mapClients

/-- The client is among the viewers of the stream. -/
def Views (stat : HttpSessionStat) (strSession strClientId : List UInt8) : Prop :=
  ∃ set, stat.mapClients[strSession]? = some set ∧ strClientId ∈ set

variable {stat : HttpSessionStat} {s x c y : List UInt8}

theorem present_of_views (h : stat.Views s c) : stat.Present s := by
  obtain ⟨set, hset, -⟩ := h
  exact Std.TreeMap.mem_iff_isSome_getElem?.mpr (Option.isSome_of_eq_some hset)

/-- The set a lookup finds, or makes. -/
theorem mem_clients : c ∈ (stat.clients s).1 ↔ stat.Views s c := by
  unfold clients Views
  rw [Std.TreeMap.getD_eq_getD_getElem?]
  cases stat.mapClients[s]? with
  | none => simp
  | some set => simp

/-- Writing the set of one stream. -/
theorem views_insert (set : Std.TreeSet (List UInt8)) :
    (⟨stat.mapClients.insert s set⟩ : HttpSessionStat).Views x y
      ↔ if x = s then y ∈ set else stat.Views x y := by
  unfold Views
  simp only [Std.TreeMap.getElem?_insert, Std.LawfulEqOrd.compare_eq_iff_eq]
  by_cases h : x = s
  · simp [h]
  · simp [h, Ne.symm h]

theorem present_insert (set : Std.TreeSet (List UInt8)) :
    (⟨stat.mapClients.insert s set⟩ : HttpSessionStat).Present x ↔ x = s ∨ stat.Present x := by
  unfold Present
  rw [Std.TreeMap.mem_insert, Std.LawfulEqOrd.compare_eq_iff_eq, @eq_comm _ s]

/-- Looking a stream up puts it into the map, and changes no viewer. -/
theorem views_clients : (stat.clients s).2.Views x y ↔ stat.Views x y := by
  unfold clients
  rw [views_insert]
  split
  next h =>
      rw [h, ← mem_clients]
      rfl
  next => rfl

theorem present_clients : (stat.clients s).2.Present x ↔ x = s ∨ stat.Present x :=
  present_insert _

/-- Writing back the set that was looked up. -/
theorem views_write (set : Std.TreeSet (List UInt8)) :
    (⟨(stat.clients s).2.mapClients.insert s set⟩ : HttpSessionStat).Views x y
      ↔ if x = s then y ∈ set else stat.Views x y := by
  refine (@views_insert (stat.clients s).2 s x y set).trans ?_
  rw [views_clients]

theorem present_write (set : Std.TreeSet (List UInt8)) :
    (⟨(stat.clients s).2.mapClients.insert s set⟩ : HttpSessionStat).Present x
      ↔ x = s ∨ stat.Present x := by
  refine (@present_insert (stat.clients s).2 s x set).trans ?_
  rw [present_clients, ← or_assoc, or_self]

theorem emptyClientId_iff : (stat.emptyClientId s).1 = true ↔ ∀ c, ¬stat.Views s c := by
  have hsize : (stat.emptyClientId s).1 = (stat.clients s).1.isEmpty :=
    Std.TreeSet.isEmpty_eq_size_eq_zero.symm
  rw [hsize, Std.TreeSet.isEmpty_iff_forall_not_mem]
  exact forall_congr' fun c => not_congr mem_clients

theorem views_addClientId : (stat.addClientId s c).Views x y ↔ x = s ∧ y = c ∨ stat.Views x y := by
  have hmem : ∀ z, z ∈ (stat.clients s).1.insert c ↔ z = c ∨ stat.Views s z := by
    intro z
    rw [Std.TreeSet.mem_insert, Std.LawfulEqOrd.compare_eq_iff_eq, @eq_comm _ c, mem_clients]
  refine (views_write ((stat.clients s).1.insert c)).trans ?_
  rw [hmem]
  split
  next h =>
      rw [h]
      simp
  next h => simp [h]

theorem present_addClientId : (stat.addClientId s c).Present x ↔ x = s ∨ stat.Present x :=
  present_write ((stat.clients s).1.insert c)

theorem views_delClientId :
    (stat.delClientId s c).Views x y ↔ ¬(x = s ∧ y = c) ∧ stat.Views x y := by
  have hmem : ∀ z, z ∈ (stat.clients s).1.erase c ↔ z ≠ c ∧ stat.Views s z := by
    intro z
    rw [Std.TreeSet.mem_erase, ne_eq, Std.LawfulEqOrd.compare_eq_iff_eq, @eq_comm _ c, mem_clients]
  refine (views_write ((stat.clients s).1.erase c)).trans ?_
  rw [hmem]
  split
  next h =>
      rw [h]
      simp
  next h => simp [h]

/-- The stream is left without viewers when `c` was the only one. -/
theorem emptyClientId_delClientId :
    ((stat.delClientId s c).emptyClientId s).1 = true ↔ ∀ y, stat.Views s y → y = c := by
  rw [emptyClientId_iff]
  refine forall_congr' fun y => ?_
  rw [views_delClientId, not_and']
  simp

theorem present_delClientId : (stat.delClientId s c).Present x ↔ x = s ∨ stat.Present x :=
  present_write ((stat.clients s).1.erase c)

theorem present_releaseStream : (stat.releaseStream s).Present x ↔ x ≠ s ∧ stat.Present x := by
  unfold releaseStream Present
  rw [Std.TreeMap.mem_erase, ne_eq, Std.LawfulEqOrd.compare_eq_iff_eq, @eq_comm _ s]

theorem views_releaseStream : (stat.releaseStream s).Views x y ↔ x ≠ s ∧ stat.Views x y := by
  unfold releaseStream Views
  simp only [Std.TreeMap.getElem?_erase, Std.LawfulEqOrd.compare_eq_iff_eq]
  by_cases h : x = s
  · simp [h]
  · simp [h, Ne.symm h]

end HttpSessionStat

namespace DeviceIdMgr

theorem existsDeviceId_iff {m : DeviceIdMgr} {d : UInt64} :
    m.existsDeviceId d = true ↔ m.Holds d := Std.TreeSet.contains_iff_mem

end DeviceIdMgr

namespace WebServer

variable {w : WebServer} {s c x y : List UInt8} {d : UInt64}

/-! ## §2. Requests. -/

theorem sendPacketIfConnected_frame (mask : UInt32) (data : List UInt8) :
    (w.sendPacketIfConnected mask data).sessionStat = w.sessionStat
      ∧ (w.sendPacketIfConnected mask data).deviceIdMgr = w.deviceIdMgr := by
  unfold sendPacketIfConnected
  split
  · exact ⟨rfl, rfl⟩
  · split <;> exact ⟨rfl, rfl⟩

theorem notifyStart_effect :
    (w.notifyStart s).sessionStat = w.sessionStat
      ∧ ∀ d, (w.notifyStart s).deviceIdMgr.Holds d
          ↔ d = generateDeviceId s ∨ w.deviceIdMgr.Holds d := by
  unfold notifyStart
  dsimp only
  split
  next hexists =>
      refine ⟨rfl, fun d => ⟨Or.inr, ?_⟩⟩
      intro h
      rcases h with rfl | h
      · exact DeviceIdMgr.existsDeviceId_iff.mp hexists
      · exact h
  next =>
      refine ⟨(sendPacketIfConnected_frame _ _).1, ?_⟩
      intro d
      show (sendPacketIfConnected _ _ _).deviceIdMgr.Holds d ↔ _
      rw [(sendPacketIfConnected_frame _ _).2]
      exact DeviceIdMgr.holds_insert

theorem notifyStop_effect :
    (w.notifyStop s).sessionStat = w.sessionStat
      ∧ ∀ d, (w.notifyStop s).deviceIdMgr.Holds d
          ↔ d ≠ generateDeviceId s ∧ w.deviceIdMgr.Holds d := by
  refine ⟨(sendPacketIfConnected_frame _ _).1, ?_⟩
  intro d
  show (sendPacketIfConnected _ _ _).deviceIdMgr.Holds d ↔ _
  rw [(sendPacketIfConnected_frame _ _).2]
  exact DeviceIdMgr.holds_remove

/-- **`SessionPlay`** adds a viewer, and puts the channel in use if it is the
first. -/
theorem sessionPlay_effect :
    (∀ x y, (w.sessionPlay s c).sessionStat.Views x y
        ↔ x = s ∧ y = c ∨ w.sessionStat.Views x y)
      ∧ (∀ x, (w.sessionPlay s c).sessionStat.Present x ↔ x = s ∨ w.sessionStat.Present x)
      ∧ ∀ d, (w.sessionPlay s c).deviceIdMgr.Holds d
          ↔ (d = generateDeviceId s ∧ ∀ y, ¬w.sessionStat.Views s y) ∨ w.deviceIdMgr.Holds d := by
  have hviews : ∀ x y, ((w.sessionStat.emptyClientId s).2.addClientId s c).Views x y
      ↔ x = s ∧ y = c ∨ w.sessionStat.Views x y := fun x y =>
    HttpSessionStat.views_addClientId.trans (or_congr_right HttpSessionStat.views_clients)
  have hpresent : ∀ x, ((w.sessionStat.emptyClientId s).2.addClientId s c).Present x
      ↔ x = s ∨ w.sessionStat.Present x := by
    intro x
    refine HttpSessionStat.present_addClientId.trans ?_
    show x = s ∨ (w.sessionStat.clients s).2.Present x ↔ _
    rw [HttpSessionStat.present_clients, ← or_assoc, or_self]
  unfold sessionPlay
  dsimp only
  split
  next hempty =>
      have hstart := @notifyStart_effect
        { w with sessionStat := (w.sessionStat.emptyClientId s).2 } s
      rw [hstart.1]
      refine ⟨hviews, hpresent, fun d => (hstart.2 d).trans ?_⟩
      rw [and_iff_left (HttpSessionStat.emptyClientId_iff.mp hempty)]
  next hempty =>
      refine ⟨hviews, hpresent, ?_⟩
      intro d
      rw [HttpSessionStat.emptyClientId_iff] at hempty
      exact ⟨Or.inr, fun h => h.resolve_left fun hleft => hempty hleft.2⟩

/-- **`SessionStop`** removes a viewer, and with the last of them the stream
and the channel. -/
theorem sessionStop_effect :
    (∀ x y, (w.sessionStop s c).sessionStat.Views x y
        ↔ ¬(x = s ∧ y = c) ∧ w.sessionStat.Views x y)
      ∧ (∀ x, (w.sessionStop s c).sessionStat.Present x →
          w.sessionStat.Present x ∧ x ≠ s ∨ x = s ∧ ∃ y, y ≠ c ∧ w.sessionStat.Views s y)
      ∧ ∀ d, (w.sessionStop s c).deviceIdMgr.Holds d
          ↔ w.deviceIdMgr.Holds d
            ∧ ¬(d = generateDeviceId s ∧ ∀ y, w.sessionStat.Views s y → y = c) := by
  have hviews : ∀ x y, ((w.sessionStat.delClientId s c).emptyClientId s).2.Views x y
      ↔ ¬(x = s ∧ y = c) ∧ w.sessionStat.Views x y := fun x y =>
    HttpSessionStat.views_clients.trans HttpSessionStat.views_delClientId
  have hpresent : ∀ x, ((w.sessionStat.delClientId s c).emptyClientId s).2.Present x
      ↔ x = s ∨ w.sessionStat.Present x := by
    intro x
    show ((w.sessionStat.delClientId s c).clients s).2.Present x ↔ _
    rw [HttpSessionStat.present_clients, HttpSessionStat.present_delClientId, ← or_assoc, or_self]
  have hgone : ((w.sessionStat.delClientId s c).emptyClientId s).1 = true
      ↔ ∀ y, w.sessionStat.Views s y → y = c := HttpSessionStat.emptyClientId_delClientId
  unfold sessionStop
  dsimp only
  split
  next hempty =>
      have hlast := hgone.mp hempty
      have hstop := @notifyStop_effect
        { w with sessionStat := ((w.sessionStat.delClientId s c).emptyClientId s).2 } s
      rw [hstop.1]
      refine ⟨?_, ?_, fun d => (hstop.2 d).trans ?_⟩
      · intro x y
        rw [HttpSessionStat.views_releaseStream, hviews]
        refine ⟨And.right, fun h => ⟨?_, h⟩⟩
        intro hxs
        subst hxs
        exact h.1 ⟨rfl, hlast y h.2⟩
      · intro x hx
        obtain ⟨hne, hx⟩ := HttpSessionStat.present_releaseStream.mp hx
        exact Or.inl ⟨((hpresent x).mp hx).resolve_left hne, hne⟩
      · rw [and_iff_left hlast, and_comm]
  next hempty =>
      rw [hgone] at hempty
      refine ⟨hviews, ?_, fun d => (and_iff_left fun h => hempty h.2).symm⟩
      intro x hx
      by_cases hxs : x = s
      · refine Or.inr ⟨hxs, ?_⟩
        obtain ⟨y, hy⟩ := not_forall.mp hempty
        obtain ⟨hview, hne⟩ := Classical.not_imp.mp hy
        exact ⟨y, hne, hview⟩
      · exact Or.inl ⟨((hpresent x).mp hx).resolve_left hxs, hxs⟩

/-! ## §3. Events. -/

/-- A callback the checks of the handler let through. -/
def SrsCallback.Valid (j : SrsCallback) : Prop :=
  checkDeviceIdStrFmt j.strStream = true
    ∧ (j.strAction = ascii "on_stop" ∨ j.strAction = ascii "on_play")
    ∧ (j.strApp = ascii "live" ∨ j.strApp = ascii "replay")

/-- A callback that does not pass is answered with an error, and changes
nothing. -/
theorem srsOnSession_of_not_valid {j : SrsCallback} (hvalid : ¬j.Valid) :
    w.srsOnSession (some j) = (.badRequest, w) ∨ w.srsOnSession (some j) = (srsError, w) := by
  simp only [srsOnSession]
  split
  · exact Or.inl rfl
  next hfirst =>
    split
    · exact Or.inr rfl
    next hfmt =>
      split
      · exact Or.inr rfl
      next hlast =>
        -- every check passed, so the callback is valid after all
        refine absurd ⟨?_, ?_, ?_⟩ hvalid
        · simpa using hfmt
        · by_contra hnone
          obtain ⟨hstop, hplay⟩ := not_or.mp hnone
          exact hfirst (by simp [hstop, hplay])
        · by_contra hnone
          obtain ⟨hlive, hreplay⟩ := not_or.mp hnone
          exact hlast (by simp [hlive, hreplay])

theorem srsOnSession_cases (j : SrsCallback) :
    (j.Valid ∧ j.strAction = ascii "on_stop"
        ∧ (w.srsOnSession (some j)).2 = w.sessionStop j.strStream j.strClientId)
      ∨ (j.Valid ∧ j.strAction = ascii "on_play"
        ∧ (w.srsOnSession (some j)).2 = w.sessionPlay j.strStream j.strClientId)
      ∨ (¬j.Valid ∧ (w.srsOnSession (some j)).2 = w) := by
  have hne : ascii "on_play" ≠ ascii "on_stop" := by decide
  have hstream : checkDeviceIdStrFmt j.strStream = true → j.strStream.isEmpty = false := by
    intro hfmt
    cases hs : j.strStream with
    | nil =>
        rw [hs] at hfmt
        exact absurd hfmt (by decide)
    | cons => rfl
  have happ : j.strApp = ascii "live" ∨ j.strApp = ascii "replay" → j.strApp.isEmpty = false := by
    intro h
    rcases h with h | h <;> rw [h] <;> rfl
  by_cases hvalid : j.Valid
  · obtain ⟨hfmt, haction, hlive⟩ := hvalid
    have hfirst : (j.strStream.isEmpty
        || (j.strAction != ascii "on_stop" && j.strAction != ascii "on_play")
        || j.strApp.isEmpty) = false := by
      rw [hstream hfmt, happ hlive]
      rcases haction with h | h <;> simp [h]
    have hlast : (j.strApp != ascii "live" && j.strApp != ascii "replay") = false := by
      rcases hlive with h | h <;> simp [h]
    simp only [srsOnSession, hfirst, hfmt, hlast, Bool.not_true, Bool.false_eq_true, if_false]
    rcases haction with h | h
    · exact Or.inl ⟨⟨hfmt, Or.inl h, hlive⟩, h, by simp [h]⟩
    · exact Or.inr (Or.inl ⟨⟨hfmt, Or.inr h, hlive⟩, h, by simp [h, hne]⟩)
  · refine Or.inr (Or.inr ⟨hvalid, ?_⟩)
    rcases w.srsOnSession_of_not_valid hvalid with h | h <;> rw [h]

theorem asyncConnectServer_frame (result : Option ConnectResult) :
    (w.asyncConnectServer result).2.sessionStat = w.sessionStat
      ∧ (w.asyncConnectServer result).2.deviceIdMgr = w.deviceIdMgr := by
  cases result with
  | none => exact ⟨rfl, rfl⟩
  | some result => cases result <;> exact ⟨rfl, rfl⟩

/-- **What an event does to the viewers and the channels.** -/
theorem step_cases (e : Event) :
    (∃ str, e = .webOnPlay (some str) ∧ checkDeviceIdStrFmt str = true
        ∧ w.step e = w.notifyStart str)
      ∨ (∃ j : SrsCallback, e = .srsOnSession (some j) ∧ j.Valid ∧ j.strAction = ascii "on_stop"
        ∧ w.step e = w.sessionStop j.strStream j.strClientId)
      ∨ (∃ j : SrsCallback, e = .srsOnSession (some j) ∧ j.Valid ∧ j.strAction = ascii "on_play"
        ∧ w.step e = w.sessionPlay j.strStream j.strClientId)
      ∨ ((∀ j : SrsCallback, e = .srsOnSession (some j) → ¬j.Valid)
        ∧ (w.step e).sessionStat = w.sessionStat ∧ (w.step e).deviceIdMgr = w.deviceIdMgr) := by
  cases e with
  | webOnPlay str =>
      cases str with
      | none => exact Or.inr (Or.inr (Or.inr ⟨nofun, rfl, rfl⟩))
      | some str =>
          simp only [step, webOnPlay]
          cases hfmt : checkDeviceIdStrFmt str with
          | true => exact Or.inl ⟨str, rfl, hfmt, rfl⟩
          | false => exact Or.inr (Or.inr (Or.inr ⟨nofun, rfl, rfl⟩))
  | srsOnSession fields =>
      cases fields with
      | none => exact Or.inr (Or.inr (Or.inr ⟨nofun, rfl, rfl⟩))
      | some j =>
          obtain ⟨hvalid, haction, heq⟩ | ⟨hvalid, haction, heq⟩ | ⟨hvalid, heq⟩ :=
            w.srsOnSession_cases j
          · exact Or.inr (Or.inl ⟨j, rfl, hvalid, haction, heq⟩)
          · exact Or.inr (Or.inr (Or.inl ⟨j, rfl, hvalid, haction, heq⟩))
          · refine Or.inr (Or.inr (Or.inr ⟨?_, congrArg _ heq, congrArg _ heq⟩))
            intro j' hj'
            cases hj'
            exact hvalid
  | clientConnect bOk =>
      cases bOk <;> exact Or.inr (Or.inr (Or.inr ⟨nofun, rfl, rfl⟩))
  | clientCleared => exact Or.inr (Or.inr (Or.inr ⟨nofun, rfl, rfl⟩))
  | clientMessage packet behind =>
      simp only [step, onClientMessage]
      split <;> exact Or.inr (Or.inr (Or.inr ⟨nofun, rfl, rfl⟩))
  | clientError => exact Or.inr (Or.inr (Or.inr ⟨nofun, rfl, rfl⟩))
  | connectTimer result =>
      exact Or.inr (Or.inr (Or.inr ⟨nofun, asyncConnectServer_frame result⟩))
  | heartbeatTimer =>
      exact Or.inr (Or.inr (Or.inr ⟨nofun, sendPacketIfConnected_frame _ _⟩))

/-! ## §4. Streams and their channels. -/

/-- A stream in the table has a viewer, is spelled as the checks require, and
its channel is in use. -/
structure Booked (w : WebServer) : Prop where
  viewed : ∀ s, w.sessionStat.Present s → ∃ c, w.sessionStat.Views s c
  spelled : ∀ s, w.sessionStat.Present s → checkDeviceIdStrFmt s = true
  held : ∀ s, w.sessionStat.Present s → w.deviceIdMgr.Holds (generateDeviceId s)

/-- Starting a channel keeps the table. -/
theorem booked_notifyStart (h : w.Booked) (s : List UInt8) : (w.notifyStart s).Booked := by
  obtain ⟨hstat, hholds⟩ := @notifyStart_effect w s
  constructor
  · rw [hstat]
    exact h.viewed
  · rw [hstat]
    exact h.spelled
  · intro x hx
    rw [hstat] at hx
    exact (hholds _).mpr (Or.inr (h.held x hx))

theorem booked_sessionPlay (h : w.Booked) (hfmt : checkDeviceIdStrFmt s = true)
    (c : List UInt8) : (w.sessionPlay s c).Booked := by
  obtain ⟨hviews, hpresent, hholds⟩ := @sessionPlay_effect w s c
  constructor
  · intro x hx
    rcases (hpresent x).mp hx with rfl | hx
    · exact ⟨c, (hviews x c).mpr (Or.inl ⟨rfl, rfl⟩)⟩
    · obtain ⟨y, hy⟩ := h.viewed x hx
      exact ⟨y, (hviews x y).mpr (Or.inr hy)⟩
  · intro x hx
    rcases (hpresent x).mp hx with rfl | hx
    · exact hfmt
    · exact h.spelled x hx
  · intro x hx
    apply (hholds _).mpr
    rcases (hpresent x).mp hx with rfl | hx
    · by_cases hempty : ∀ y, ¬w.sessionStat.Views x y
      · exact Or.inl ⟨rfl, hempty⟩
      · -- a stream that is viewed already is in the table, so its channel is in use
        obtain ⟨y, hy⟩ := not_forall_not.mp hempty
        exact Or.inr (h.held x (HttpSessionStat.present_of_views hy))
    · exact Or.inr (h.held x hx)

theorem booked_sessionStop (h : w.Booked) (hfmt : checkDeviceIdStrFmt s = true)
    (c : List UInt8) : (w.sessionStop s c).Booked := by
  obtain ⟨hviews, hpresent, hholds⟩ := @sessionStop_effect w s c
  constructor
  · intro x hx
    rcases hpresent x hx with ⟨hx, hne⟩ | ⟨rfl, y, hyc, hy⟩
    · obtain ⟨y, hy⟩ := h.viewed x hx
      exact ⟨y, (hviews x y).mpr ⟨fun heq => hne heq.1, hy⟩⟩
    · exact ⟨y, (hviews x y).mpr ⟨fun heq => hyc heq.2, hy⟩⟩
  · intro x hx
    rcases hpresent x hx with ⟨hx, -⟩ | ⟨rfl, -⟩
    · exact h.spelled x hx
    · exact hfmt
  · intro x hx
    apply (hholds _).mpr
    rcases hpresent x hx with ⟨hx, hne⟩ | ⟨rfl, y, hyc, hy⟩
    · -- another stream has another number, because both are fourteen digits
      refine ⟨h.held x hx, ?_⟩
      intro hlast
      exact hne (generateDeviceId_inj (h.spelled x hx) hfmt hlast.1)
    · refine ⟨h.held x (HttpSessionStat.present_of_views hy), ?_⟩
      intro hlast
      exact hyc (hlast.2 y hy)

/-- **Every event keeps the table.** -/
theorem booked_step (h : w.Booked) (e : Event) : (w.step e).Booked := by
  obtain ⟨str, -, -, heq⟩ | ⟨j, -, hvalid, -, heq⟩ | ⟨j, -, hvalid, -, heq⟩
    | ⟨-, hstat, hmgr⟩ := w.step_cases e
  · rw [heq]
    exact booked_notifyStart h str
  · rw [heq]
    exact booked_sessionStop h hvalid.1 j.strClientId
  · rw [heq]
    exact booked_sessionPlay h hvalid.1 j.strClientId
  · constructor
    · rw [hstat]
      exact h.viewed
    · rw [hstat]
      exact h.spelled
    · rw [hstat, hmgr]
      exact h.held

theorem booked_init (result : Option ConnectResult) : (init result).2.Booked := by
  have hnone : ∀ s, ¬(init result).2.sessionStat.Present s := by
    intro s hs
    unfold init at hs
    rw [(asyncConnectServer_frame result).1] at hs
    exact Std.TreeMap.not_mem_emptyc hs
  exact ⟨fun s hs => absurd hs (hnone s), fun s hs => absurd hs (hnone s),
    fun s hs => absurd hs (hnone s)⟩

/-! ## §5. Channels without a viewer. -/

/-- The event is a valid `on_stop` of the channel `d` after which nobody views
its stream. -/
def EndsViewing (w : WebServer) (e : Event) (d : UInt64) : Prop :=
  ∃ j : SrsCallback, e = .srsOnSession (some j) ∧ j.Valid ∧ j.strAction = ascii "on_stop"
    ∧ generateDeviceId j.strStream = d ∧ ∀ c, ¬(w.step e).sessionStat.Views j.strStream c

/-- A `/web_on_play` request put the channel into the set, and no `on_stop` has
left its stream without viewers since. -/
def InsertedByWeb (w : WebServer) (events : List Event) (d : UInt64) : Prop :=
  ∃ pre strDeviceId post, events = pre ++ .webOnPlay (some strDeviceId) :: post
    ∧ checkDeviceIdStrFmt strDeviceId = true ∧ generateDeviceId strDeviceId = d
    ∧ ¬(Runs.run step w pre).deviceIdMgr.Holds d
    ∧ ∀ mid e rest, post = mid ++ e :: rest →
        ¬EndsViewing (Runs.run step w (pre ++ .webOnPlay (some strDeviceId) :: mid)) e d

/-- An event that leaves the channel in use ends no viewing of it: had nobody
been left, `SessionStop` would have removed the channel. -/
theorem not_endsViewing {e : Event} (hheld : (w.step e).deviceIdMgr.Holds d) :
    ¬EndsViewing w e d := by
  rintro ⟨j, rfl, hvalid, haction, rfl, hgone⟩
  obtain ⟨-, -, heq⟩ | ⟨-, hplay, -⟩ | ⟨hnot, -⟩ := w.srsOnSession_cases j
  · have hstep : w.step (.srsOnSession (some j)) = w.sessionStop j.strStream j.strClientId := heq
    rw [hstep] at hheld hgone
    obtain ⟨hviews, -, hholds⟩ := @sessionStop_effect w j.strStream j.strClientId
    refine ((hholds _).mp hheld).2 ⟨rfl, ?_⟩
    intro y hy
    by_contra hne
    exact hgone y ((hviews j.strStream y).mpr ⟨fun hboth => hne hboth.2, hy⟩)
  · exact absurd (haction.symm.trans hplay) (by decide)
  · exact hnot hvalid

/-- A stop that leaves the channel in use leaves its stream a viewer. -/
theorem viewed_sessionStop (hview : w.sessionStat.Views x y)
    (hheld : (w.sessionStop s c).deviceIdMgr.Holds (generateDeviceId x)) :
    ∃ z, (w.sessionStop s c).sessionStat.Views x z := by
  obtain ⟨hviews, -, hholds⟩ := @sessionStop_effect w s c
  by_cases hx : x = s
  · subst hx
    have hkept := ((hholds _).mp hheld).2
    have hother : ∃ z, z ≠ c ∧ w.sessionStat.Views x z := by
      by_contra hnone
      refine hkept ⟨rfl, ?_⟩
      intro z hz
      by_contra hne
      exact hnone ⟨z, hne, hz⟩
    obtain ⟨z, hne, hz⟩ := hother
    exact ⟨z, (hviews x z).mpr ⟨fun hboth => hne hboth.2, hz⟩⟩
  · exact ⟨y, (hviews x y).mpr ⟨fun hboth => hx hboth.1, hview⟩⟩

/-- An event that ends no viewing of the channel leaves it as it was. -/
theorem InsertedByWeb.snoc {events : List Event} {e : Event} (h : InsertedByWeb w events d)
    (he : ¬EndsViewing (Runs.run step w events) e d) : InsertedByWeb w (events ++ [e]) d := by
  obtain ⟨pre, strDeviceId, post, rfl, hfmt, hid, hnew, hsince⟩ := h
  refine ⟨pre, strDeviceId, post ++ [e], ?_, hfmt, hid, hnew, ?_⟩
  · rw [List.append_assoc, List.cons_append]
  · intro mid e' rest hsplit
    rcases List.eq_nil_or_concat rest with rfl | ⟨rest', last, rfl⟩
    · obtain ⟨rfl, hlast⟩ := List.append_inj' hsplit rfl
      cases hlast
      exact he
    · rw [List.concat_eq_append, ← List.cons_append, ← List.append_assoc] at hsplit
      exact hsince mid e' rest' (List.append_inj' hsplit rfl).1

/-- Why a channel is in use. -/
def Explained (w₀ : WebServer) (events : List Event) : Prop :=
  ∀ d, (Runs.run step w₀ events).deviceIdMgr.Holds d →
    (∃ s c, generateDeviceId s = d ∧ (Runs.run step w₀ events).sessionStat.Views s c)
      ∨ InsertedByWeb w₀ events d

/-- **Every event keeps the explanations.** -/
theorem explained_snoc {w₀ : WebServer} {events : List Event} (h : Explained w₀ events)
    (e : Event) : Explained w₀ (events ++ [e]) := by
  intro d hd
  have hrun : Runs.run step w₀ (events ++ [e]) = (Runs.run step w₀ events).step e := by
    simp [Runs.run]
  rw [hrun] at hd ⊢
  have hends : ¬EndsViewing (Runs.run step w₀ events) e d := not_endsViewing hd
  obtain ⟨str, rfl, hfmt, heq⟩ | ⟨j, -, -, -, heq⟩ | ⟨j, -, -, -, heq⟩ | ⟨-, hstat, hmgr⟩ :=
    (Runs.run step w₀ events).step_cases e
  · rw [heq] at hd ⊢
    obtain ⟨hstat, hholds⟩ := @notifyStart_effect (Runs.run step w₀ events) str
    rw [hstat]
    by_cases hbefore : (Runs.run step w₀ events).deviceIdMgr.Holds d
    · exact (h d hbefore).imp_right fun hinserted => hinserted.snoc hends
    · -- the request is what put the channel into the set
      have hid : generateDeviceId str = d :=
        (((hholds d).mp hd).resolve_right hbefore).symm
      exact Or.inr ⟨events, str, [], rfl, hfmt, hid, hbefore, by simp⟩
  · rw [heq] at hd ⊢
    obtain ⟨-, -, hholds⟩ :=
      @sessionStop_effect (Runs.run step w₀ events) j.strStream j.strClientId
    rcases h d ((hholds d).mp hd).1 with ⟨x, y, rfl, hview⟩ | hinserted
    · obtain ⟨z, hz⟩ := viewed_sessionStop hview hd
      exact Or.inl ⟨x, z, rfl, hz⟩
    · exact Or.inr (hinserted.snoc hends)
  · rw [heq] at hd ⊢
    obtain ⟨hviews, -, hholds⟩ :=
      @sessionPlay_effect (Runs.run step w₀ events) j.strStream j.strClientId
    rcases (hholds d).mp hd with ⟨hid, -⟩ | hbefore
    · exact Or.inl ⟨j.strStream, j.strClientId, hid.symm, (hviews _ _).mpr (Or.inl ⟨rfl, rfl⟩)⟩
    · rcases h d hbefore with ⟨x, y, hid', hview⟩ | hinserted
      · exact Or.inl ⟨x, y, hid', (hviews x y).mpr (Or.inr hview)⟩
      · exact Or.inr (hinserted.snoc hends)
  · rw [hmgr] at hd
    rw [hstat]
    exact (h d hd).imp_right fun hinserted => hinserted.snoc hends

theorem explained_run (result : Option ConnectResult) (events : List Event) :
    Explained (init result).2 events := by
  induction events using List.reverseRecOn with
  | nil =>
      intro d hd
      have hempty : ¬(init result).2.deviceIdMgr.Holds d := by
        intro hheld
        unfold init at hheld
        rw [(asyncConnectServer_frame result).2] at hheld
        exact Std.TreeSet.not_mem_emptyc hheld
      exact absurd hd hempty
  | append_singleton events e ih => exact explained_snoc ih e

/-- **The viewers and the channels agree**, after any requests and anything the
connection to `jt1078_server` does in between. -/
theorem viewers_and_devices_agree (result : Option ConnectResult) (events : List Event) :
    let w := Runs.run step (init result).2 events
    (∀ s, w.sessionStat.Present s →
        (∃ c, w.sessionStat.Views s c) ∧ w.deviceIdMgr.Holds (generateDeviceId s))
      ∧ ∀ d, w.deviceIdMgr.Holds d →
          (∃ s c, generateDeviceId s = d ∧ w.sessionStat.Views s c)
            ∨ InsertedByWeb (init result).2 events d := by
  intro w
  have hbooked : w.Booked :=
    Runs.run_invariant (I := Booked) (fun v e (hv : v.Booked) _ => booked_step hv e)
      (booked_init result) (Runs.along_of_forall (fun _ _ => trivial) events _)
  exact ⟨fun s hs => ⟨hbooked.viewed s hs, hbooked.held s hs⟩, explained_run result events⟩

end WebServer

end MultiProcessServer
