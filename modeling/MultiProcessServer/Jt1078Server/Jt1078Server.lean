/-
  MultiProcessServer.Jt1078Server.Jt1078Server
  ────────────────────────────────────────────
  `CarSession`, `CarManager` and `Jt1078Server`: the connections of the cars.

  A connection takes the identity of its packets once, and `DisconnectCar`
  drops every connection with the identity it is given.  A connection that
  has sent nothing yet has identity `INVALID_DEVICE_ID`.
-/
import MultiProcessServer.Jt1078Util
import MultiProcessServer.Lib.Sweep

namespace MultiProcessServer.Jt1078

/-- `GenerateDeviceId` of the identity a packet carries in its header. -/
def Packet.deviceId (pkt : Packet) : UInt64 :=
  generateDeviceIdBySim pkt.header.bcdSimCardNumber pkt.header.bt1LogicChannelNumber

/-! ## §1. `class CarSession`. -/

/-- The identity of a session, and the packets completed on it so far. -/
structure CarSession where
  strDeviceId : List UInt8
  deviceId : UInt64
  received : List Packet
  deriving DecidableEq

namespace CarSession

def new : CarSession where
  strDeviceId := []
  deviceId := INVALID_DEVICE_ID
  received := []

variable (car : CarSession)

def updateDeviceIdIfEmpty (simCardNumber : SimCardNumber) (logicChannelNumber : UInt8) :
    CarSession :=
  if car.deviceId = INVALID_DEVICE_ID ∨ car.strDeviceId = [] then
    let strDeviceId := generateDeviceIdStr simCardNumber logicChannelNumber
    { car with strDeviceId := strDeviceId, deviceId := generateDeviceId strDeviceId }
  else car

/-- The part of `Jt1078Server::OnPacketCompleted` that concerns the session. -/
def complete (pkt : Packet) : CarSession :=
  { car.updateDeviceIdIfEmpty pkt.header.bcdSimCardNumber pkt.header.bt1LogicChannelNumber with
    received := car.received ++ [pkt] }

/-- The identity a sequence of packets gives a session: the first that is not
`INVALID_DEVICE_ID`. -/
def firstDeviceId : List Packet → UInt64
  | [] => INVALID_DEVICE_ID
  | pkt :: packets =>
      if pkt.deviceId = INVALID_DEVICE_ID then firstDeviceId packets else pkt.deviceId

/-- A session is named by the packets it received. -/
structure Named (car : CarSession) : Prop where
  deviceId : car.deviceId = firstDeviceId car.received
  strDeviceId : car.strDeviceId = [] ↔ car.received = []

theorem named_new : new.Named := ⟨rfl, iff_of_true rfl rfl⟩

theorem firstDeviceId_concat (packets : List Packet) (pkt : Packet) :
    firstDeviceId (packets ++ [pkt])
      = if firstDeviceId packets = INVALID_DEVICE_ID then pkt.deviceId
        else firstDeviceId packets := by
  induction packets with
  | nil => by_cases h : pkt.deviceId = INVALID_DEVICE_ID <;> simp [firstDeviceId, h]
  | cons p ps ih =>
      rw [List.cons_append, firstDeviceId, firstDeviceId]
      by_cases hp : p.deviceId = INVALID_DEVICE_ID
      · rw [if_pos hp, if_pos hp, ih]
      · rw [if_neg hp, if_neg hp, if_neg hp]

/-- It is the identity of one of them. -/
theorem exists_firstDeviceId {packets : List Packet} (h : packets ≠ []) :
    ∃ pkt ∈ packets, pkt.deviceId = firstDeviceId packets := by
  induction packets with
  | nil => exact absurd rfl h
  | cons p ps ih =>
      unfold firstDeviceId
      by_cases hp : p.deviceId = INVALID_DEVICE_ID
      · rw [if_pos hp]
        by_cases hps : ps = []
        · exact ⟨p, List.mem_cons_self, by rw [hps, hp]; rfl⟩
        · obtain ⟨pkt, hpkt, hid⟩ := ih hps
          exact ⟨pkt, List.mem_cons_of_mem p hpkt, hid⟩
      · rw [if_neg hp]
        exact ⟨p, List.mem_cons_self, rfl⟩

variable {car}

/-- **One packet.**  The session keeps an identity it has, and takes the
packet's if it has none. -/
theorem Named.complete (h : car.Named) (pkt : Packet) : (car.complete pkt).Named := by
  have hstr : car.strDeviceId = [] → car.deviceId = INVALID_DEVICE_ID := by
    intro hnil
    rw [h.deviceId, h.strDeviceId.mp hnil]
    rfl
  unfold CarSession.complete updateDeviceIdIfEmpty
  by_cases hnone : car.deviceId = INVALID_DEVICE_ID
  · -- no identity so far: the packet's
    rw [if_pos (Or.inl hnone)]
    refine ⟨?_, by simp [generateDeviceIdStr_ne_nil]⟩
    rw [firstDeviceId_concat, if_pos (h.deviceId ▸ hnone)]
    rfl
  · have hother : ¬(car.deviceId = INVALID_DEVICE_ID ∨ car.strDeviceId = []) := by
      rintro (hid | hnil)
      · exact hnone hid
      · exact hnone (hstr hnil)
    rw [if_neg hother]
    refine ⟨?_, by simp [mt hstr hnone]⟩
    rw [firstDeviceId_concat, if_neg (h.deviceId ▸ hnone)]
    exact h.deviceId

/-- A session that has received something has the identity of a packet it
received. -/
theorem Named.exists_received (h : car.Named) (hreceived : car.received ≠ []) :
    ∃ pkt ∈ car.received, pkt.deviceId = car.deviceId := by
  rw [h.deviceId]
  exact exists_firstDeviceId hreceived

end CarSession

/-! ## §2. `class CarManager`. -/

structure CarManager where
  mapCar : Std.TreeMap UInt64 CarSession

namespace CarManager

variable (m : CarManager)

def addCar (sessionId : UInt64) (car : CarSession) : CarManager :=
  { m with mapCar := m.mapCar.insert sessionId car }

def delCar (sessionId : UInt64) : CarManager :=
  { m with mapCar := m.mapCar.erase sessionId }

/-- The body of the loop below: whether `++iter`. -/
def hasOtherDeviceId (deviceId : UInt64) (sessionId : UInt64) : Bool :=
  match m.mapCar[sessionId]? with
  | some car => car.deviceId != deviceId
  | none => true

def delCarByDeviceId (deviceId : UInt64) : CarManager :=
  { m with
    mapCar := (Container.treeMap.sweep (fun (_ : Unit) k => (m.hasOtherDeviceId deviceId k, ()))
      m.mapCar ()).1 }

variable {m}

/-- The loop drops the sessions with that identity, and no others. -/
theorem getElem?_delCarByDeviceId {deviceId sessionId : UInt64} {car : CarSession} :
    (m.delCarByDeviceId deviceId).mapCar[sessionId]? = some car
      ↔ m.mapCar[sessionId]? = some car ∧ car.deviceId ≠ deviceId := by
  have hvisit : ∀ ks : List UInt64,
      (Container.visit (fun (_ : Unit) k => (m.hasOtherDeviceId deviceId k, ())) ks ()).1
        = ks.filter fun k => !m.hasOtherDeviceId deviceId k := by
    intro ks
    induction ks with
    | nil => rfl
    | cons k ks ih =>
        unfold Container.visit
        cases hk : m.hasOtherDeviceId deviceId k with
        | true => simpa [hk] using ih
        | false => simpa [hk] using ih
  simp only [delCarByDeviceId, Container.sweep_eq, hvisit]
  by_cases hdropped : m.hasOtherDeviceId deviceId sessionId = true
  · -- the session stays
    rw [Container.getElem?_foldl_erase _ _ _ (by simp [hdropped])]
    refine ⟨fun h => ⟨h, ?_⟩, And.left⟩
    simpa [hasOtherDeviceId, h] using hdropped
  · refine iff_of_false (fun h => ?_) (fun h => hdropped ?_)
    · have hmem := Std.TreeMap.mem_iff_isSome_getElem?.mpr (Option.isSome_of_eq_some h)
      rw [← Container.mem_keys_treeMap, Container.mem_keys_foldl_erase] at hmem
      refine hmem.1 (List.mem_filter.mpr ⟨hmem.2, ?_⟩)
      simpa using hdropped
    · simpa [hasOtherDeviceId, h.1] using h.2

end CarManager

/-! ## §3. `class Jt1078Server`. -/

structure Jt1078Server where
  manager : CarManager

namespace Jt1078Server

def new : Jt1078Server where
  manager := ⟨∅⟩

variable (s : Jt1078Server)

def disconnectCar (strDeviceId : List UInt8) : Jt1078Server :=
  { s with manager := s.manager.delCarByDeviceId (generateDeviceId strDeviceId) }

/-- `OnNewConnection`; `init` is what `CarSession::Init` returns. -/
def onNewConnection (sessionId : UInt64) (init : Bool) : Jt1078Server :=
  if !init then s else { s with manager := s.manager.addCar sessionId .new }

def onPacketError (sessionId : UInt64) : Jt1078Server :=
  { s with manager := s.manager.delCar sessionId }

/-- `OnPacketCompleted`, with the identity it calls `Notify1078Packet` with;
nothing if there is no such session. -/
def onPacketCompleted (sessionId : UInt64) (pkt : Packet) : Option (UInt64 × Jt1078Server) :=
  (s.manager.mapCar[sessionId]?).map fun car =>
    ((car.complete pkt).deviceId,
      { s with manager := s.manager.addCar sessionId (car.complete pkt) })

end Jt1078Server

end MultiProcessServer.Jt1078
