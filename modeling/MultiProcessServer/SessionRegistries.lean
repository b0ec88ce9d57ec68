/-
  MultiProcessServer.SessionRegistries
  ────────────────────────────────────
  What the servers key on the id of a session: the cars of `CarManager`, the
  subscribers of `ForwardServer` and the sessions of `PcManager`.  All sessions
  of a process take their ids from one counter.

  Main result: `sessionIdsUnique_iff`.
-/
import MultiProcessServer.Core.SessionIds
import MultiProcessServer.Lib.Registry
import MultiProcessServer.Jt1078Service.Jt1078Service
import MultiProcessServer.PcServer.Effects

namespace MultiProcessServer

open Forward Jt1078

/-! ## §1. The cars and the subscribers. -/

namespace Jt1078Service

variable {s : Jt1078Service} {b : Bool} {x : UInt64}

/-- The id of the session an event constructs, kept or not. -/
def Event.created : Event → Option UInt64
  | .carConnection _ sessionId _ => some sessionId
  | .subscriberConnection _ sessionId _ _ => some sessionId
  | _ => none

/-- The id `AddCar` is called with for a new car. -/
def Event.addsCar (b : Bool) : Event → Option UInt64
  | .carConnection isRealtime sessionId init =>
      if isRealtime = b ∧ init = true then some sessionId else none
  | _ => none

/-- The id `ForwardServer::OnNewConnection` files a subscriber under. -/
def Event.addsSubscriber (b : Bool) : Event → Option UInt64
  | .subscriberConnection isRealtime sessionId _ init =>
      if isRealtime = b ∧ init = true then some sessionId else none
  | _ => none

/-- Calls of a forward server bring no car. -/
theorem car_of_foldl_call {c : CarSession} (calls : List ServiceCall) :
    ∀ {s : Jt1078Service}, (calls.foldl call s).car b x = some c → s.car b x = some c := by
  induction calls with
  | nil => exact id
  | cons serviceCall calls ih =>
      intro s h
      have h := ih h
      cases serviceCall with
      | sendCommandTo808 strDeviceId bConnect isRealtime => exact h
      | notifyNoSubscriber strDeviceId isRealtime => exact (car_notifyNoSubscriber.mp h).1

theorem car_of_onForward {isRealtime : Bool} {e : ForwardServer.Event} {c : CarSession}
    (h : (s.onForward isRealtime e).car b x = some c) : s.car b x = some c := by
  unfold onForward at h
  have h := car_of_foldl_call _ h
  exact h

/-- Adding under an id. -/
theorem of_getElem?_addCar {m : CarManager} {sessionId : UInt64} {car c : CarSession}
    (h : (m.addCar sessionId car).mapCar[x]? = some c) : sessionId = x ∨ m.mapCar[x]? = some c := by
  rw [CarManager.addCar, Std.TreeMap.getElem?_insert] at h
  split at h
  next heq => exact .inl (Std.LawfulEqOrd.compare_eq_iff_eq.mp heq)
  next => exact .inr h

/-- **A car comes from `AddCar`.** -/
theorem car_of_step {e : Event} {c : CarSession} (h : (s.step e).car b x = some c) :
    (∃ c, s.car b x = some c) ∨ e.addsCar b = some x := by
  cases e with
  | carConnection isRealtime sessionId init =>
      have h : (s.onCar isRealtime _).car b x = some c := h
      rw [car_onCar] at h
      split at h
      next hb =>
        subst hb
        cases init with
        | false => exact .inl ⟨c, h⟩
        | true =>
            rcases of_getElem?_addCar h with rfl | h
            · exact .inr (if_pos ⟨rfl, rfl⟩)
            · exact .inl ⟨c, h⟩
      next => exact .inl ⟨c, h⟩
  | carPacket isRealtime sessionId pkt =>
      simp only [step, onCarPacket, Jt1078Server.onPacketCompleted] at h
      cases hcar : (s.jt1078Server isRealtime).manager.mapCar[sessionId]? with
      | none =>
          rw [hcar] at h
          exact .inl ⟨c, h⟩
      | some car =>
          rw [hcar] at h
          have h : (s.onCar isRealtime _).car b x = some c := h
          rw [car_onCar] at h
          split at h
          next hb =>
            subst hb
            -- the car is filed again under the id it was found by
            rcases of_getElem?_addCar h with rfl | h
            · exact .inl ⟨car, hcar⟩
            · exact .inl ⟨c, h⟩
          next => exact .inl ⟨c, h⟩
  | carError isRealtime sessionId =>
      have h : (s.onCar isRealtime _).car b x = some c := h
      rw [car_onCar] at h
      split at h
      next hb =>
        subst hb
        rw [Jt1078Server.onPacketError, CarManager.delCar, Std.TreeMap.getElem?_erase] at h
        split at h
        · cases h
        · exact .inl ⟨c, h⟩
      next => exact .inl ⟨c, h⟩
  | subscriberConnection isRealtime sessionId socket init => exact .inl ⟨c, car_of_onForward h⟩
  | subscriberPacket isRealtime sessionId packet => exact .inl ⟨c, car_of_onForward h⟩
  | subscriberError isRealtime sessionId => exact .inl ⟨c, car_of_onForward h⟩

/-- A subscriber comes from `OnNewConnection`. -/
theorem mapSubscriber_of_forwardStep {f : ForwardServer} {e : ForwardServer.Event}
    (h : x ∈ (f.step e).mapSubscriber) :
    x ∈ f.mapSubscriber ∨ ∃ socket, e = .newConnection x socket true := by
  cases e with
  | newConnection sessionId socket init =>
      cases init with
      | false => exact .inl h
      | true =>
          have h : x ∈ f.mapSubscriber.insert sessionId := h
          rw [Std.TreeSet.mem_insert, Std.LawfulEqOrd.compare_eq_iff_eq] at h
          rcases h with rfl | h
          · exact .inr ⟨socket, rfl⟩
          · exact .inl h
  | packetCompleted sessionId packet =>
      simp only [ForwardServer.step, ForwardServer.onPacketCompleted] at h
      split at h
      · exact .inl h
      · split at h
        · rw [(ForwardServer.processPacketSubscriber_frame sessionId packet).2] at h
          exact .inl h
        · split at h
          · exact .inl h
          · exact .inl h
  | packetError sessionId =>
      have h : x ∈ f.mapSubscriber.erase sessionId := h
      exact .inl (Std.TreeSet.mem_of_mem_erase h)
  | publish deviceId pkt => exact .inl h

/-- What a callback of a forward server leaves in the maps of both. -/
theorem mapSubscriber_onForward {isRealtime : Bool} {e : ForwardServer.Event}
    (h : x ∈ ((s.onForward isRealtime e).forwardServer b).mapSubscriber) :
    x ∈ (s.forwardServer b).mapSubscriber
      ∨ isRealtime = b ∧ ∃ socket, e = .newConnection x socket true := by
  rw [(s.onForward_frame isRealtime e).1] at h
  by_cases hb : b = isRealtime
  · subst hb
    rw [Function.update_self] at h
    exact (mapSubscriber_of_forwardStep h).imp_right fun h => ⟨rfl, h⟩
  · rw [Function.update_of_ne hb] at h
    exact .inl h

/-- **A subscriber comes from a new connection.** -/
theorem mapSubscriber_of_step {e : Event} (h : x ∈ ((s.step e).forwardServer b).mapSubscriber) :
    x ∈ (s.forwardServer b).mapSubscriber ∨ e.addsSubscriber b = some x := by
  cases e with
  | carConnection isRealtime sessionId init => exact .inl h
  | carError isRealtime sessionId => exact .inl h
  | carPacket isRealtime sessionId pkt =>
      simp only [step, onCarPacket, Jt1078Server.onPacketCompleted] at h
      cases hcar : (s.jt1078Server isRealtime).manager.mapCar[sessionId]? with
      | none =>
          rw [hcar] at h
          exact .inl h
      | some car =>
          rw [hcar] at h
          -- publishing leaves the map of subscribers alone
          have h : x ∈ (Function.update s.forwardServer isRealtime
              ((s.forwardServer isRealtime).step
                (.publish (car.complete pkt).deviceId pkt)) b).mapSubscriber := h
          by_cases hb : b = isRealtime
          · subst hb
            rw [Function.update_self] at h
            exact .inl h
          · rw [Function.update_of_ne hb] at h
            exact .inl h
  | subscriberConnection isRealtime sessionId socket init =>
      refine (mapSubscriber_onForward h).imp_right ?_
      rintro ⟨rfl, socket', heq⟩
      cases heq
      exact if_pos ⟨rfl, rfl⟩
  | subscriberPacket isRealtime sessionId packet =>
      refine (mapSubscriber_onForward h).imp_right ?_
      rintro ⟨-, socket', heq⟩
      cases heq
  | subscriberError isRealtime sessionId =>
      refine (mapSubscriber_onForward h).imp_right ?_
      rintro ⟨-, socket', heq⟩
      cases heq

/-- `m_mapCar` of one of the two car servers. -/
def cars (b : Bool) : Registry Jt1078Service Event UInt64 where
  step := step
  files := Event.addsCar b
  Holds s x := ∃ c, s.car b x = some c
  holds_step := fun ⟨_, h⟩ => car_of_step h

/-- `m_mapSubscriber` of one of the two forward servers. -/
def subscribers (b : Bool) : Registry Jt1078Service Event UInt64 where
  step := step
  files := Event.addsSubscriber b
  Holds s x := x ∈ (s.forwardServer b).mapSubscriber
  holds_step := mapSubscriber_of_step

theorem created_of_addsCar (e : Event) (x : UInt64) (h : e.addsCar b = some x) :
    e.created = some x := by
  cases e with
  | carConnection isRealtime sessionId init =>
      have h : (if isRealtime = b ∧ init = true then some sessionId else none) = some x := h
      split at h
      · exact h
      · cases h
  | _ => cases h

theorem created_of_addsSubscriber (e : Event) (x : UInt64) (h : e.addsSubscriber b = some x) :
    e.created = some x := by
  cases e with
  | subscriberConnection isRealtime sessionId socket init =>
      have h : (if isRealtime = b ∧ init = true then some sessionId else none) = some x := h
      split at h
      · exact h
      · cases h
  | _ => cases h

end Jt1078Service

/-! ## §2. The sessions of the viewers. -/

namespace PcServer

variable {p : PcServer} {x : UInt64}

def Event.created : Event → Option UInt64
  | .newConnection pc _ _ => some pc
  | _ => none

/-- The id `AddPc` is called with. -/
def Event.addsPc : Event → Option UInt64
  | .newConnection pc _ init => if init then some pc else none
  | _ => none

theorem pcManager_onPacketCompleted (pc : UInt64) (packet : Ipc.Packet) :
    (p.onPacketCompleted pc packet).pcManager = p.pcManager := by
  apply onPacketCompleted_rule (P := fun q => q.pcManager = p.pcManager) packet rfl
  · intro _ strDeviceId
    exact (subscribeDeviceId_frame strDeviceId).1
  · intro _
    exact unSubscribeDeviceId_frame.2.1

/-- **A session of `PcManager` comes from `AddPc`.** -/
theorem pcManager_of_step {e : Event} (h : x ∈ (p.step e).pcManager) :
    x ∈ p.pcManager ∨ e.addsPc = some x := by
  have hquiet : e.quiet = true → (p.step e).pcManager = p.pcManager :=
    fun he => (quiet_step he).pcManager
  cases e with
  | newConnection pc socket init =>
      cases init with
      | false => exact .inl h
      | true =>
          have h : x ∈ p.pcManager.insert pc := h
          rw [Std.TreeSet.mem_insert, Std.LawfulEqOrd.compare_eq_iff_eq] at h
          rcases h with rfl | h
          · exact .inr rfl
          · exact .inl h
  | packetCompleted pc packet =>
      have h : x ∈ (p.onPacketCompleted pc packet).pcManager := h
      rw [pcManager_onPacketCompleted] at h
      exact .inl h
  | packetError pc =>
      have h : x ∈ (p.unSubscribeDeviceId pc).pcManager.erase pc := h
      rw [unSubscribeDeviceId_frame.2.1] at h
      exact .inl (Std.TreeSet.mem_of_mem_erase h)
  | clientMessage packet behind =>
      have h : x ∈ (p.onClientMessage packet behind).pcManager := h
      unfold onClientMessage at h
      split at h
      · exact .inl h
      · exact .inl h
  | clientConnect bOk => exact .inl ((hquiet rfl) ▸ h)
  | clientCleared => exact .inl ((hquiet rfl) ▸ h)
  | clientError => exact .inl ((hquiet rfl) ▸ h)
  | connectTimer result => exact .inl ((hquiet rfl) ▸ h)
  | heartbeatTimer => exact .inl ((hquiet rfl) ▸ h)

/-- `m_mapPc`. -/
def pcs : Registry PcServer Event UInt64 where
  step := step
  files := Event.addsPc
  Holds p x := x ∈ p.pcManager
  holds_step := pcManager_of_step

theorem created_of_addsPc (e : Event) (x : UInt64) (h : e.addsPc = some x) :
    e.created = some x := by
  cases e with
  | newConnection pc socket init =>
      cases init with
      | false => cases h
      | true => exact h
  | _ => cases h

/-- Nobody is connected when the program starts. -/
theorem pcManager_init (garbage : UInt8) (result : Option ConnectResult) :
    (init garbage result).2.pcManager = ∅ := by
  rw [init, (quiet_asyncConnectServer result).pcManager]
  rfl

end PcServer

/-! ## §3. Unique ids. -/

open TcpSession (sessionIds creations Creation)

/-- What is expected of the ids of the sessions created at those times: they
are pairwise distinct, and no registry of a process that creates these sessions
overwrites one of its entries. -/
structure SessionIdsUnique (count : UInt64) (times : List Int64) : Prop where
  distinct : (sessionIds count times).Nodup
  addCar : ∀ (garbage : UInt8) (events : List Jt1078Service.Event) (b : Bool),
    (events.filterMap Jt1078Service.Event.created).Sublist (sessionIds count times) →
      (Jt1078Service.cars b).NeverOverwrites (.new garbage) events
  onNewConnection : ∀ (garbage : UInt8) (events : List Jt1078Service.Event) (b : Bool),
    (events.filterMap Jt1078Service.Event.created).Sublist (sessionIds count times) →
      (Jt1078Service.subscribers b).NeverOverwrites (.new garbage) events
  addPc : ∀ (garbage : UInt8) (result : Option ConnectResult) (events : List PcServer.Event),
    (events.filterMap PcServer.Event.created).Sublist (sessionIds count times) →
      PcServer.pcs.NeverOverwrites (PcServer.init garbage result).2 events

/-- Distinct ids are all it takes. -/
theorem sessionIdsUnique_of_nodup {count : UInt64} {times : List Int64}
    (hdistinct : (sessionIds count times).Nodup) : SessionIdsUnique count times where
  distinct := hdistinct
  addCar garbage events b hevents := by
    refine Registry.neverOverwrites_of_created Jt1078Service.created_of_addsCar
      (hdistinct.sublist hevents) ?_
    rintro x ⟨c, hc⟩
    have hc : (∅ : Std.TreeMap UInt64 CarSession)[x]? = some c := hc
    rw [Std.TreeMap.getElem?_emptyc] at hc
    cases hc
  onNewConnection garbage events b hevents :=
    Registry.neverOverwrites_of_created Jt1078Service.created_of_addsSubscriber
      (hdistinct.sublist hevents) fun _ => Std.TreeSet.not_mem_emptyc
  addPc garbage result events hevents := by
    refine Registry.neverOverwrites_of_created PcServer.created_of_addsPc
      (hdistinct.sublist hevents) fun x hx => ?_
    have hx : x ∈ (PcServer.init garbage result).2.pcManager := hx
    rw [PcServer.pcManager_init] at hx
    exact Std.TreeSet.not_mem_emptyc hx

/-- **Session ids are unique**, under a clock that does not go back and with
fewer than a million sessions a second, exactly if no two of them are created
where the count, or the clock, has wrapped. -/
theorem sessionIdsUnique_iff (count : UInt64) (times : List Int64)
    (hclock : times.Pairwise (· ≤ ·)) (hrate : ∀ t, times.count t < 1000000) :
    SessionIdsUnique count times
      ↔ (creations count times).Pairwise fun x y => ¬ x.Collides y := by
  rw [← TcpSession.sessionIds_nodup_iff count times hclock hrate]
  exact ⟨fun h => h.distinct, sessionIdsUnique_of_nodup⟩

/-- Three sessions in two seconds. -/
theorem sessionIdsUnique_three :
    List.Pairwise (· ≤ ·) [(1700000000 : Int64), 1700000000, 1700000001]
      ∧ (∀ t, [(1700000000 : Int64), 1700000000, 1700000001].count t < 1000000)
      ∧ (SessionIdsUnique 7 [1700000000, 1700000000, 1700000001]
        ↔ (creations 7 [1700000000, 1700000000, 1700000001]).Pairwise fun x y =>
          ¬ x.Collides y) := by
  have hclock : List.Pairwise (· ≤ ·) [(1700000000 : Int64), 1700000000, 1700000001] := by decide
  have hrate : ∀ t, [(1700000000 : Int64), 1700000000, 1700000001].count t < 1000000 :=
    fun t => lt_of_le_of_lt List.count_le_length (by decide)
  exact ⟨hclock, hrate, sessionIdsUnique_iff 7 _ hclock hrate⟩

/-- One session as the count is at `INT_MAX`, and 967296 in the second after. -/
def wrapTimes : List Int64 := 1700000000 :: List.replicate 967296 1700000001

theorem pairwise_wrapTimes : wrapTimes.Pairwise (· ≤ ·) := by
  refine List.pairwise_cons.mpr ⟨fun t ht => ?_, ?_⟩
  · rw [List.eq_of_mem_replicate ht]
    decide
  · exact List.pairwise_replicate.mpr (.inr (by decide))

theorem count_wrapTimes (t : Int64) : wrapTimes.count t < 1000000 := by
  refine lt_of_le_of_lt List.count_le_length ?_
  rw [wrapTimes, List.length_cons, List.length_replicate]
  decide

theorem getElem?_wrapTimes : wrapTimes[967296]? = some 1700000001 := by
  rw [wrapTimes, List.getElem?_cons_succ, List.getElem?_replicate_of_lt (by decide)]

/-- The first and the last of them get one id. -/
theorem not_sessionIdsUnique_wrapTimes : wrapTimes.Pairwise (· ≤ ·)
    ∧ (∀ t, wrapTimes.count t < 1000000) ∧ ¬ SessionIdsUnique 2147483646 wrapTimes := by
  have hcollides : Creation.Collides ⟨2147483646 + UInt64.ofNat (0 + 1), 1700000000⟩
      ⟨2147483646 + UInt64.ofNat (967296 + 1), 1700000001⟩ :=
    .inl ⟨.inl (by decide), by decide, by decide⟩
  refine ⟨pairwise_wrapTimes, count_wrapTimes, fun h => ?_⟩
  exact TcpSession.not_nodup_of_collides (by decide) List.getElem?_cons_zero getElem?_wrapTimes
    pairwise_wrapTimes count_wrapTimes hcollides h.distinct

end MultiProcessServer
