/-
  MultiProcessServer.Jt1078Service.Publication
  ────────────────────────────────────────────
  On which channel the packets of a car are published.

  Main result:

    `published_on_first_identity` :
        every packet goes to the channel that the first valid identity on its
        connection names, whatever the packet itself says.
-/
import MultiProcessServer.Jt1078Service.Jt1078Service
import Mathlib.Data.List.Induction

namespace MultiProcessServer

open Forward Jt1078

namespace Jt1078Service

variable {s : Jt1078Service}

/-- **One event.**  Only a packet of a connected car is published, on the
identity its session has by then. -/
theorem published_step (hsound : s.Sound) (e : Event) :
    (s.step e).published = s.published
      ∨ ∃ isRealtime sessionId pkt c, e = .carPacket isRealtime sessionId pkt
        ∧ s.car isRealtime sessionId = some c
        ∧ (s.step e).published = s.published
            ++ [⟨isRealtime, CarSession.firstDeviceId (c.received ++ [pkt]), pkt⟩] := by
  cases e with
  | carConnection isRealtime sessionId init => exact Or.inl rfl
  | carError isRealtime sessionId => exact Or.inl rfl
  | subscriberConnection isRealtime sessionId socket init =>
      exact Or.inl (s.onForward_frame isRealtime _).2
  | subscriberPacket isRealtime sessionId packet =>
      exact Or.inl (s.onForward_frame isRealtime _).2
  | subscriberError isRealtime sessionId => exact Or.inl (s.onForward_frame isRealtime _).2
  | carPacket isRealtime sessionId pkt =>
      simp only [step, onCarPacket, Jt1078Server.onPacketCompleted]
      cases hc : (s.jt1078Server isRealtime).manager.mapCar[sessionId]? with
      | none => exact Or.inl rfl
      | some c =>
          refine Or.inr ⟨isRealtime, sessionId, pkt, c, rfl, hc, ?_⟩
          have hnamed := (hsound.named isRealtime sessionId c hc).complete pkt
          show s.published ++ [⟨isRealtime, (c.complete pkt).deviceId, pkt⟩] = _
          rw [hnamed.deviceId]
          rfl

/-- **A packet is published on the first identity of its connection.**  In any
interleaving of any connections, each packet published to a channel was
completed on a connection whose packets up to then name that channel: it is
the first identity among them that is not `INVALID_DEVICE_ID`.  Where the
packets of the connection agree, that is the packet's own. -/
theorem published_on_first_identity (garbage : UInt8) (events : List Event) :
    ∀ p ∈ (Runs.run step (new garbage) events).published,
      ∃ pre sessionId c,
        pre ++ [.carPacket p.isRealtime sessionId p.pkt] <+: events
          ∧ (Runs.run step (new garbage) pre).car p.isRealtime sessionId = some c
          ∧ p.deviceId = CarSession.firstDeviceId (c.received ++ [p.pkt])
          ∧ ((∀ q ∈ c.received, q.deviceId = p.pkt.deviceId) → p.deviceId = p.pkt.deviceId) := by
  induction events using List.reverseRecOn with
  | nil => exact fun p hp => absurd hp List.not_mem_nil
  | append_singleton events e ih =>
      intro p hp
      have hrun : Runs.run step (new garbage) (events ++ [e])
          = (Runs.run step (new garbage) events).step e := by simp [Runs.run]
      rw [hrun] at hp
      rcases published_step (sound_run garbage events) e with hsame | hnew
      · rw [hsame] at hp
        obtain ⟨pre, sessionId, c, hpre, hrest⟩ := ih p hp
        exact ⟨pre, sessionId, c, hpre.trans (List.prefix_append events [e]), hrest⟩
      · obtain ⟨isRealtime, sessionId, pkt, c, rfl, hc, hpublished⟩ := hnew
        rw [hpublished, List.mem_append, List.mem_singleton] at hp
        rcases hp with hp | rfl
        · obtain ⟨pre, sessionId, c, hpre, hrest⟩ := ih p hp
          exact ⟨pre, sessionId, c, hpre.trans (List.prefix_append events _), hrest⟩
        · refine ⟨events, sessionId, c, List.prefix_refl _, hc, rfl, ?_⟩
          intro hagree
          obtain ⟨q, hq, hid⟩ :=
            @CarSession.exists_firstDeviceId (c.received ++ [pkt]) (by simp)
          rw [← hid]
          rcases List.mem_append.mp hq with hq | hq
          · exact hagree q hq
          · rw [List.mem_singleton.mp hq]

/-- The packet of a connection that sent another one of the same channel. -/
theorem published_on_first_identity_again :
    let one : Jt1078.Packet :=
      ⟨{ Jt1078.Header.cleared with bt1LogicChannelNumber := 1 }, [], rfl⟩
    let events : List Event :=
      [.carConnection true 3 true, .carPacket true 3 one, .carPacket true 3 one]
    ∃ pre sessionId c,
      pre ++ [.carPacket true sessionId one] <+: events
        ∧ (Runs.run step (new 0) pre).car true sessionId = some c
        ∧ (1 : UInt64) = CarSession.firstDeviceId (c.received ++ [one])
        ∧ ((∀ q ∈ c.received, q.deviceId = one.deviceId) → (1 : UInt64) = one.deviceId) := by
  intro one events
  exact published_on_first_identity 0 events ⟨true, 1, one⟩ (by decide)

/-- A connection that sends a packet of channel 1 and then one of channel 2:
the second is published on channel 1. -/
theorem published_on_another_channel :
    let one : Jt1078.Packet :=
      ⟨{ Jt1078.Header.cleared with bt1LogicChannelNumber := 1 }, [], rfl⟩
    let two : Jt1078.Packet :=
      ⟨{ Jt1078.Header.cleared with bt1LogicChannelNumber := 2 }, [], rfl⟩
    let s := Runs.run step (new 0)
      [.carConnection true 3 true, .carPacket true 3 one, .carPacket true 3 two]
    ¬∀ p ∈ s.published, p.pkt.deviceId = p.deviceId := by
  intro one two s h
  have hmem : (⟨true, 1, two⟩ : Publication) ∈ s.published := by decide
  have hid := h ⟨true, 1, two⟩ hmem
  exact absurd hid (by decide)

end Jt1078Service

end MultiProcessServer
