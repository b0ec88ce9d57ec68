/-
  MultiProcessServer.PcServer.PcPublisher
  ───────────────────────────────────────
  `PcPublisher`: which viewers of `pc_server` watch which device.  Unlike
  `forward::Publisher` it makes channels on demand and never removes one, so
  an empty channel is the same as none.
-/
import MultiProcessServer.PcServer.PcSession
import MultiProcessServer.Lib.Sweep

namespace MultiProcessServer

/-- What the `PcSessionPtr`s point to; a pointer is the id of its session. -/
abbrev PcSessions := UInt64 → PcSession

/-- `class PcPublisher`. -/
structure PcPublisher where
  channels : Std.TreeMap UInt64 (Std.TreeSet UInt64)

namespace PcPublisher

variable (p : PcPublisher)

/-! ## §1. Its operations. -/

/-- `Publish`: the publisher and the sessions after it, and the ids of the
sessions whose `SendPacket` was called, in order. -/
def publish (deviceId : UInt64) (packet : Ipc.Packet) (sessions : PcSessions) :
    PcPublisher × PcSessions × List UInt64 :=
  match p.channels[deviceId]? with
  | none => (p, sessions, [])
  | some channel =>
      let (channel, sessions, sent) :=
        Container.treeSet.broadcast PcSession.isCanWrite (fun pc => (pc.sendPacket packet).2)
          channel sessions
      ({ p with channels := p.channels.insert deviceId channel }, sessions, sent)

def addSubscriber (deviceId sessionId : UInt64) : PcPublisher :=
  let channel := (p.channels[deviceId]?).getD ∅
  { p with channels := p.channels.insert deviceId (channel.insert sessionId) }

/-- `DelSubscriber(device_id, pc)`. -/
def delSubscriber (deviceId sessionId : UInt64) : PcPublisher :=
  match p.channels[deviceId]? with
  | none => p
  | some channel => { p with channels := p.channels.insert deviceId (channel.erase sessionId) }

def sizeSubscriber (deviceId : UInt64) : Nat :=
  match p.channels[deviceId]? with
  | none => 0
  | some channel => channel.size

def isEmptySubscriber (deviceId : UInt64) : Bool := p.sizeSubscriber deviceId == 0

def getAllDeviceId (bFilterEmptySubscriber : Bool) : List UInt64 :=
  p.channels.toList.filterMap fun (deviceId, channel) =>
    if bFilterEmptySubscriber then if channel.isEmpty then none else some deviceId
    else some deviceId

/-! ## §2. Who watches what. -/

/-- The session is in the channel of the device. -/
def Subscribed (sessionId deviceId : UInt64) : Prop :=
  ∃ channel, p.channels[deviceId]? = some channel ∧ sessionId ∈ channel

variable {p} {s d : UInt64}

theorem subscribed_of_getElem {channel : Std.TreeSet UInt64} (h : p.channels[d]? = some channel) :
    p.Subscribed s d ↔ s ∈ channel := by
  simp [Subscribed, h]

theorem not_subscribed_of_none (h : p.channels[d]? = none) : ¬p.Subscribed s d := by
  simp [Subscribed, h]

theorem subscribed_insert (deviceId : UInt64) (channel : Std.TreeSet UInt64) :
    ({ p with channels := p.channels.insert deviceId channel } : PcPublisher).Subscribed s d
      ↔ if d = deviceId then s ∈ channel else p.Subscribed s d := by
  simp only [Subscribed, Std.TreeMap.getElem?_insert, Std.LawfulEqOrd.compare_eq_iff_eq]
  by_cases h : d = deviceId
  · simp [h]
  · simp [h, Ne.symm h]

theorem subscribed_addSubscriber {deviceId sessionId : UInt64} :
    (p.addSubscriber deviceId sessionId).Subscribed s d
      ↔ (s = sessionId ∧ d = deviceId) ∨ p.Subscribed s d := by
  unfold addSubscriber
  rw [subscribed_insert]
  split
  next heq =>
      subst heq
      rw [Std.TreeSet.mem_insert, Std.LawfulEqOrd.compare_eq_iff_eq, @eq_comm _ sessionId,
        and_iff_left rfl]
      cases h : p.channels[d]? with
      | none => simp [not_subscribed_of_none h]
      | some channel => simp [subscribed_of_getElem h]
  next hne => simp [hne]

theorem subscribed_delSubscriber {deviceId sessionId : UInt64} :
    (p.delSubscriber deviceId sessionId).Subscribed s d
      ↔ ¬(s = sessionId ∧ d = deviceId) ∧ p.Subscribed s d := by
  unfold delSubscriber
  split
  next hnone =>
      refine ⟨fun hsub => ⟨?_, hsub⟩, And.right⟩
      intro hleft
      obtain ⟨-, rfl⟩ := hleft
      exact not_subscribed_of_none hnone hsub
  next channel hchannel =>
      rw [subscribed_insert]
      split
      next heq =>
          subst heq
          rw [Std.TreeSet.mem_erase, ne_eq, Std.LawfulEqOrd.compare_eq_iff_eq,
            @eq_comm _ sessionId, and_iff_left rfl, subscribed_of_getElem hchannel]
      next hne => simp [hne]

/-- `IsEmptySubscriber`: nobody watches the device. -/
theorem isEmptySubscriber_iff : p.isEmptySubscriber d = true ↔ ∀ s, ¬p.Subscribed s d := by
  unfold isEmptySubscriber
  rw [sizeSubscriber]
  split
  next hnone => simp [not_subscribed_of_none hnone]
  next channel hchannel =>
      simp only [subscribed_of_getElem hchannel, ← Std.TreeSet.isEmpty_iff_forall_not_mem,
        Std.TreeSet.isEmpty_eq_size_eq_zero]

/-- A channel with a subscriber that is not of size one holds another. -/
theorem exists_other_of_sizeSubscriber_ne_one (hsize : p.sizeSubscriber d ≠ 1)
    (hs : p.Subscribed s d) : ∃ t, t ≠ s ∧ p.Subscribed t d := by
  obtain ⟨channel, hchannel, hs⟩ := hs
  simp only [sizeSubscriber, hchannel, ← Std.TreeSet.length_toList] at hsize
  simp only [subscribed_of_getElem hchannel, ← Std.TreeSet.mem_toList] at hs ⊢
  have hnodup : channel.toList.Nodup :=
    Container.nodup_of_ordered (Container.treeSet.ordered channel)
  generalize channel.toList = members at hs hsize hnodup
  cases members with
  | nil => exact absurd hs List.not_mem_nil
  | cons x xs =>
      cases xs with
      | nil => exact absurd rfl hsize
      | cons y ys =>
          -- two members: one of them is not `s`
          have hxy : x ≠ y := fun heq => (List.nodup_cons.mp hnodup).1 (heq ▸ List.mem_cons_self)
          by_cases hx : x = s
          · exact ⟨y, fun hy => hxy (hx.trans hy.symm), by simp⟩
          · exact ⟨x, hx, by simp⟩

/-- `GetAllDeviceId(true)`: the devices somebody watches. -/
theorem mem_getAllDeviceId : d ∈ p.getAllDeviceId true ↔ ∃ s, p.Subscribed s d := by
  simp only [getAllDeviceId, List.mem_filterMap, Prod.exists, if_true,
    Std.TreeMap.mem_toList_iff_getElem?_eq_some, Subscribed]
  constructor
  · intro hlisted
    obtain ⟨deviceId, channel, hchannel, hd⟩ := hlisted
    split at hd
    next => cases hd
    next hne =>
        cases hd
        rw [Bool.not_eq_true, Std.TreeSet.isEmpty_eq_false_iff_exists_mem] at hne
        obtain ⟨s, hs⟩ := hne
        exact ⟨s, channel, hchannel, hs⟩
  · intro hwatched
    obtain ⟨s, channel, hchannel, hs⟩ := hwatched
    have hne : channel.isEmpty = false := Std.TreeSet.isEmpty_eq_false_iff_exists_mem.mpr ⟨s, hs⟩
    exact ⟨d, channel, hchannel, by simp [hne]⟩

/-! ## §3. Publishing. -/

section Publish

variable {deviceId : UInt64} {packet : Ipc.Packet} {sessions : PcSessions}

/-- `SendPacket` leaves the device the session names. -/
theorem getDeviceId_offered (pc : PcSession) :
    (Container.offered PcSession.isCanWrite (fun pc => (pc.sendPacket packet).2) pc).getDeviceId
      = pc.getDeviceId := by
  rw [Container.offered]
  split
  next hcan => rw [PcSession.sendPacket_eq packet hcan]; rfl
  next => rfl

theorem publish_sessions [Decidable (p.Subscribed s deviceId)] :
    (p.publish deviceId packet sessions).2.1 s
      = if p.Subscribed s deviceId
        then Container.offered PcSession.isCanWrite (fun pc => (pc.sendPacket packet).2)
          (sessions s)
        else sessions s := by
  unfold publish
  split
  next hnone => rw [if_neg (not_subscribed_of_none hnone)]
  next channel hchannel =>
      simp only [Container.broadcast_heap, Container.mem_keys_treeSet,
        subscribed_of_getElem hchannel]

theorem getDeviceId_publish :
    ((p.publish deviceId packet sessions).2.1 s).getDeviceId = (sessions s).getDeviceId := by
  classical
  rw [publish_sessions]
  split
  · exact getDeviceId_offered (sessions s)
  · rfl

/-- A socket that is given up stays so. -/
theorem isCanWrite_of_publish
    (hcan : ((p.publish deviceId packet sessions).2.1 s).isCanWrite = true) :
    (sessions s).isCanWrite = true := by
  classical
  rw [publish_sessions] at hcan
  split at hcan
  · unfold Container.offered at hcan
    split at hcan
    next hbefore => exact hbefore
    next => exact hcan
  · exact hcan

theorem subscribed_publish :
    (p.publish deviceId packet sessions).1.Subscribed s d
      ↔ p.Subscribed s d ∧ (d = deviceId →
          ((p.publish deviceId packet sessions).2.1 s).isCanWrite = true) := by
  unfold publish
  split
  next hnone =>
      refine ⟨fun hsub => ⟨hsub, ?_⟩, And.left⟩
      intro heq
      subst heq
      exact absurd hsub (not_subscribed_of_none hnone)
  next channel hchannel =>
      simp only [subscribed_insert]
      split
      next heq =>
          subst heq
          simp only [← Container.mem_keys_treeSet, Container.mem_broadcast,
            subscribed_of_getElem hchannel, forall_const]
      next hne => simp [hne]

/-- **`Publish` calls `SendPacket` on the writable subscribers of the device,
once on each.** -/
theorem publish_sent :
    (p.publish deviceId packet sessions).2.2.Nodup
      ∧ ∀ s, s ∈ (p.publish deviceId packet sessions).2.2
          ↔ p.Subscribed s deviceId ∧ (sessions s).isCanWrite = true := by
  unfold publish
  split
  next hnone => simp [not_subscribed_of_none hnone]
  next channel hchannel =>
      simp only [Container.broadcast_reached, List.mem_filter, Container.mem_keys_treeSet,
        subscribed_of_getElem hchannel, implies_true, and_true]
      exact (Container.nodup_of_ordered (Container.treeSet.ordered _)).filter _

/-- Only subscribers of the device are sent to. -/
theorem subscribed_of_mem_sent (hs : s ∈ (p.publish deviceId packet sessions).2.2) :
    p.Subscribed s deviceId := by
  unfold publish at hs
  split at hs
  next => exact absurd hs List.not_mem_nil
  next channel hchannel =>
      rw [Container.broadcast_reached, List.mem_filter, Container.mem_keys_treeSet] at hs
      exact (subscribed_of_getElem hchannel).mpr hs.1

end Publish

end PcPublisher

end MultiProcessServer
