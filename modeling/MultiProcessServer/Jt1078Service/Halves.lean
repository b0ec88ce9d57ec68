/-
  MultiProcessServer.Jt1078Service.Halves
  ───────────────────────────────────────
  The two halves of `jt1078_server`: what an event is for the forward server of
  its half, and that the other half does not notice.

  Main result:

    `halves_are_separate` :
        each half runs as if the events of the other had not been.
-/
import MultiProcessServer.ForwardServer.SubscriberStreams
import MultiProcessServer.Jt1078Service.Jt1078Service

namespace MultiProcessServer

open Forward Jt1078

namespace Jt1078Service

/-! ## §1. What an event is for its half. -/

/-- The half the event happens in. -/
def Event.half : Event → Bool
  | .carConnection isRealtime _ _ => isRealtime
  | .carPacket isRealtime _ _ => isRealtime
  | .carError isRealtime _ => isRealtime
  | .subscriberConnection isRealtime _ _ _ => isRealtime
  | .subscriberPacket isRealtime _ _ => isRealtime
  | .subscriberError isRealtime _ => isRealtime

/-- What the event makes its forward server do; a packet of a session that is
not there is not published. -/
def forwardEvent (s : Jt1078Service) : Event → Option ForwardServer.Event
  | .carPacket isRealtime sessionId pkt =>
      ((s.jt1078Server isRealtime).onPacketCompleted sessionId pkt).map fun (deviceId, _) =>
        .publish deviceId pkt
  | .subscriberConnection _ sessionId socket init => some (.newConnection sessionId socket init)
  | .subscriberPacket _ sessionId packet => some (.packetCompleted sessionId packet)
  | .subscriberError _ sessionId => some (.packetError sessionId)
  | .carConnection _ _ _ => none
  | .carError _ _ => none

variable {s t : Jt1078Service} {b : Bool}

theorem forwardServer_step (s : Jt1078Service) (e : Event) :
    (s.step e).forwardServer
      = match s.forwardEvent e with
        | none => s.forwardServer
        | some e' =>
            Function.update s.forwardServer e.half ((s.forwardServer e.half).step e') := by
  cases e with
  | carConnection isRealtime sessionId init => rfl
  | carError isRealtime sessionId => rfl
  | subscriberConnection isRealtime sessionId socket init => exact (s.onForward_frame _ _).1
  | subscriberPacket isRealtime sessionId packet => exact (s.onForward_frame _ _).1
  | subscriberError isRealtime sessionId => exact (s.onForward_frame _ _).1
  | carPacket isRealtime sessionId pkt =>
      simp only [step, onCarPacket, forwardEvent]
      cases (s.jt1078Server isRealtime).onPacketCompleted sessionId pkt with
      | none => rfl
      | some answer => rfl

/-! ## §2. The calls of a forward server stay in its half. -/

/-- A call as its own half sees it. -/
def serve (server : Jt1078Server) : ServiceCall → Jt1078Server
  | .sendCommandTo808 _ _ _ => server
  | .notifyNoSubscriber strDeviceId _ => server.disconnectCar strDeviceId

/-- The call is for the half. -/
def CallsHalf (b : Bool) : ServiceCall → Prop
  | .sendCommandTo808 _ _ isRealtime => isRealtime = b
  | .notifyNoSubscriber _ isRealtime => isRealtime = b

/-- Every call a forward server makes is for its half. -/
theorem callsHalf_calls {f : ForwardServer} (notice : Notice) :
    ∀ c ∈ f.calls notice, CallsHalf f.isRealtime c := by
  intro c hc
  cases notice with
  | create deviceId notifyOpen =>
      cases notifyOpen with
      | false => exact absurd hc List.not_mem_nil
      | true =>
          obtain rfl := List.mem_singleton.mp hc
          rfl
  | close deviceId =>
      simp only [ForwardServer.calls, ForwardServer.notifyCloseCarTerminal, List.mem_cons,
        List.not_mem_nil, or_false] at hc
      rcases hc with rfl | rfl <;> rfl

/-- Calls for one half serve that half, and leave the other. -/
theorem jt1078Server_foldl_call {calls : List ServiceCall} (hcalls : ∀ c ∈ calls, CallsHalf b c) :
    ∀ s : Jt1078Service, (calls.foldl call s).jt1078Server
      = Function.update s.jt1078Server b (calls.foldl serve (s.jt1078Server b)) := by
  induction calls with
  | nil => exact fun s => (Function.update_eq_self b s.jt1078Server).symm
  | cons c calls ih =>
      intro s
      have hc := hcalls c List.mem_cons_self
      rw [List.foldl_cons, ih fun c hc => hcalls c (List.mem_cons_of_mem _ hc), List.foldl_cons]
      cases c with
      | sendCommandTo808 strDeviceId bConnect isRealtime => rfl
      | notifyNoSubscriber strDeviceId isRealtime =>
          obtain rfl : isRealtime = b := hc
          simp [call, notifyNoSubscriber, serve]

/-- What a callback of a forward server does to the cars of its half. -/
theorem jt1078Server_onForward (hsound : s.Sound) (b : Bool) (e : ForwardServer.Event) :
    (s.onForward b e).jt1078Server
      = Function.update s.jt1078Server b
          ((((s.forwardServer b).notices e).flatMap (s.forwardServer b).calls).foldl serve
            (s.jt1078Server b)) := by
  have hcalls : ∀ c ∈ ((s.forwardServer b).notices e).flatMap (s.forwardServer b).calls,
      CallsHalf b c := by
    intro c hc
    obtain ⟨notice, -, hc⟩ := List.mem_flatMap.mp hc
    have hhalf := callsHalf_calls notice c hc
    rwa [hsound.isRealtime b] at hhalf
  simp only [onForward, ForwardServer.service_step (hsound.keyed b), List.drop_left]
  exact jt1078Server_foldl_call hcalls _

/-! ## §3. One half does not notice the other. -/

/-- The two services are the same in one half. -/
structure SameHalf (b : Bool) (s t : Jt1078Service) : Prop where
  jt1078Server : s.jt1078Server b = t.jt1078Server b
  forwardServer : s.forwardServer b = t.forwardServer b
  published : (s.published.filter fun p => p.isRealtime = b)
    = t.published.filter fun p => p.isRealtime = b

theorem SameHalf.onForward (h : SameHalf b s t) (hs : s.Sound) (ht : t.Sound)
    (e : ForwardServer.Event) : SameHalf b (s.onForward b e) (t.onForward b e) where
  jt1078Server := by
    rw [jt1078Server_onForward hs, jt1078Server_onForward ht, h.jt1078Server, h.forwardServer]
    simp
  forwardServer := by
    rw [(s.onForward_frame b e).1, (t.onForward_frame b e).1, h.forwardServer]
    simp
  published := by
    rw [(s.onForward_frame b e).2, (t.onForward_frame b e).2]
    exact h.published

theorem SameHalf.onCar (h : SameHalf b s t) {server server' : Jt1078Server}
    (hserver : server = server') : SameHalf b (s.onCar b server) (t.onCar b server') where
  jt1078Server := by simp [Jt1078Service.onCar, hserver]
  forwardServer := h.forwardServer
  published := h.published

theorem SameHalf.notify1078Packet (h : SameHalf b s t) (deviceId : UInt64) (pkt : Jt1078.Packet) :
    SameHalf b (s.notify1078Packet deviceId pkt b) (t.notify1078Packet deviceId pkt b) where
  jt1078Server := h.jt1078Server
  forwardServer := by simp [Jt1078Service.notify1078Packet, h.forwardServer]
  published := by
    simp only [Jt1078Service.notify1078Packet, List.filter_append, h.published]

/-- **An event of the half** does the same to both. -/
theorem SameHalf.step (h : SameHalf b s t) (hs : s.Sound) (ht : t.Sound) (e : Event)
    (he : e.half = b) : SameHalf b (s.step e) (t.step e) := by
  subst he
  cases e with
  | carConnection isRealtime sessionId init =>
      have hserver : s.jt1078Server isRealtime = t.jt1078Server isRealtime := h.jt1078Server
      exact h.onCar (by rw [hserver])
  | carError isRealtime sessionId =>
      have hserver : s.jt1078Server isRealtime = t.jt1078Server isRealtime := h.jt1078Server
      exact h.onCar (by rw [hserver])
  | subscriberConnection isRealtime sessionId socket init => exact h.onForward hs ht _
  | subscriberPacket isRealtime sessionId packet => exact h.onForward hs ht _
  | subscriberError isRealtime sessionId => exact h.onForward hs ht _
  | carPacket isRealtime sessionId pkt =>
      simp only [Event.half] at h
      simp only [Jt1078Service.step, onCarPacket, Event.half, h.jt1078Server]
      cases (t.jt1078Server isRealtime).onPacketCompleted sessionId pkt with
      | none => exact h
      | some answer => exact (h.onCar rfl).notify1078Packet _ _

/-- **An event of the other half** does nothing. -/
theorem sameHalf_step_of_ne (hs : s.Sound) (e : Event) (he : b ≠ e.half) :
    SameHalf b (s.step e) s := by
  have hforward : ∀ (isRealtime : Bool) (e : ForwardServer.Event), b ≠ isRealtime →
      SameHalf b (s.onForward isRealtime e) s := by
    intro isRealtime e hne
    refine ⟨?_, ?_, by rw [(s.onForward_frame isRealtime e).2]⟩
    · rw [jt1078Server_onForward hs, Function.update_of_ne hne]
    · rw [(s.onForward_frame isRealtime e).1, Function.update_of_ne hne]
  have hcar : ∀ (isRealtime : Bool) (server : Jt1078Server), b ≠ isRealtime →
      SameHalf b (s.onCar isRealtime server) s := by
    intro isRealtime server hne
    exact ⟨Function.update_of_ne hne _ _, rfl, rfl⟩
  cases e with
  | carConnection isRealtime sessionId init => exact hcar isRealtime _ he
  | carError isRealtime sessionId => exact hcar isRealtime _ he
  | subscriberConnection isRealtime sessionId socket init => exact hforward isRealtime _ he
  | subscriberPacket isRealtime sessionId packet => exact hforward isRealtime _ he
  | subscriberError isRealtime sessionId => exact hforward isRealtime _ he
  | carPacket isRealtime sessionId pkt =>
      simp only [step, onCarPacket]
      cases (s.jt1078Server isRealtime).onPacketCompleted sessionId pkt with
      | none => exact ⟨rfl, rfl, rfl⟩
      | some answer =>
          have hne : isRealtime ≠ b := Ne.symm he
          refine ⟨(hcar isRealtime _ he).jt1078Server, Function.update_of_ne he _ _, ?_⟩
          simp [notify1078Packet, onCar, hne]

/-- **The realtime half and the history half are separate.**  After any run,
the cars, the channels, the sessions and the publications of a half are what
they are after the events of that half alone. -/
theorem halves_are_separate (garbage : UInt8) (events : List Event) (b : Bool) :
    SameHalf b (Runs.run step (new garbage) events)
      (Runs.run step (new garbage) (events.filter fun e => e.half = b)) := by
  rw [← Runs.run_filter]
  have hstep : ∀ (s t : Jt1078Service) (e : Event),
      s.Sound ∧ t.Sound ∧ SameHalf b s t → True →
      (s.step e).Sound ∧ (if decide (e.half = b) then t.step e else t).Sound
        ∧ SameHalf b (s.step e) (if decide (e.half = b) then t.step e else t) := by
    intro s t e hst _
    obtain ⟨hs, ht, hsame⟩ := hst
    by_cases he : e.half = b
    · simp only [he, decide_true, if_true]
      exact ⟨hs.step e, ht.step e, hsame.step hs ht e he⟩
    · simp only [he, decide_false, Bool.false_eq_true, if_false]
      have hquiet := sameHalf_step_of_ne hs e (Ne.symm he)
      exact ⟨hs.step e, ht, hquiet.jt1078Server.trans hsame.jt1078Server,
        hquiet.forwardServer.trans hsame.forwardServer, hquiet.published.trans hsame.published⟩
  have hrun := Runs.run_simulation (P := fun _ _ => True) hstep
    ⟨sound_new garbage, sound_new garbage, rfl, rfl, rfl⟩
    (Runs.along_of_forall (fun _ _ => trivial) events _)
  exact hrun.2.2

/-! ## §4. The run of a forward server. -/

/-- What an event says about the sessions of the subscribers of a half. -/
def Event.contact (b : Bool) : Event → Contact UInt64
  | .subscriberConnection isRealtime sessionId _ init =>
      if isRealtime = b then if init then .opens sessionId else .rejected sessionId else .silent
  | .subscriberPacket isRealtime sessionId _ =>
      if isRealtime = b then .speaks sessionId else .silent
  | .subscriberError isRealtime sessionId => if isRealtime = b then .closes sessionId else .silent
  | _ => .silent

/-- Only a packet of a subscriber makes its session speak. -/
theorem eq_of_contact_speaks {e : Event} {x : UInt64} (h : e.contact b = .speaks x) :
    ∃ packet, e = .subscriberPacket b x packet := by
  cases e with
  | carConnection isRealtime sessionId init => cases h
  | carPacket isRealtime sessionId pkt => cases h
  | carError isRealtime sessionId => cases h
  | subscriberConnection isRealtime sessionId socket init =>
      by_cases hhalf : isRealtime = b <;> cases init <;> simp [Event.contact, hhalf] at h
  | subscriberError isRealtime sessionId =>
      by_cases hhalf : isRealtime = b <;> simp [Event.contact, hhalf] at h
  | subscriberPacket isRealtime sessionId packet =>
      by_cases hhalf : isRealtime = b
      · simp only [Event.contact, hhalf, if_true, Contact.speaks.injEq] at h
        exact ⟨packet, by rw [hhalf, h]⟩
      · simp [Event.contact, hhalf] at h

/-- What the event makes the forward server of a half do. -/
def forwardEvents (b : Bool) (s : Jt1078Service) (e : Event) : List ForwardServer.Event :=
  if e.half = b then (s.forwardEvent e).toList else []

theorem forwardServer_step_eq (s : Jt1078Service) (e : Event) (b : Bool) :
    (s.step e).forwardServer b
      = Runs.run ForwardServer.step (s.forwardServer b) (s.forwardEvents b e) := by
  rw [forwardServer_step, forwardEvents]
  by_cases he : e.half = b
  · subst he
    rw [if_pos rfl]
    cases s.forwardEvent e with
    | none => rfl
    | some e' => exact Function.update_self _ _ _
  · rw [if_neg he]
    cases s.forwardEvent e with
    | none => rfl
    | some e' => exact Function.update_of_ne (Ne.symm he) _ _

/-- An event is at most one event of the forward server, which hears of a
session what the event says. -/
theorem forwardEvents_cases (s : Jt1078Service) (e : Event) (b : Bool) :
    (s.forwardEvents b e = [] ∧ e.contact b = .silent)
      ∨ ∃ e', s.forwardEvents b e = [e'] ∧ e'.request.contact = e.contact b := by
  by_cases he : e.half = b
  · subst he
    have hone : s.forwardEvents e.half e = (s.forwardEvent e).toList := if_pos rfl
    rw [hone]
    cases e with
    | carConnection isRealtime sessionId init => exact Or.inl ⟨rfl, rfl⟩
    | carError isRealtime sessionId => exact Or.inl ⟨rfl, rfl⟩
    | carPacket isRealtime sessionId pkt =>
        rw [forwardEvent]
        cases (s.jt1078Server isRealtime).onPacketCompleted sessionId pkt with
        | none => exact Or.inl ⟨rfl, rfl⟩
        | some answer => exact Or.inr ⟨.publish answer.1 pkt, rfl, rfl⟩
    | subscriberConnection isRealtime sessionId socket init =>
        refine Or.inr ⟨.newConnection sessionId socket init, rfl, ?_⟩
        cases init <;> simp [Event.contact, Event.half, ForwardServer.Event.request,
          PubSub.Request.contact]
    | subscriberPacket isRealtime sessionId packet =>
        refine Or.inr ⟨.packetCompleted sessionId packet, rfl, ?_⟩
        have hspeaks : (Event.subscriberPacket isRealtime sessionId packet).contact isRealtime
            = .speaks sessionId := if_pos rfl
        show _ = (Event.subscriberPacket isRealtime sessionId packet).contact isRealtime
        rw [hspeaks, ForwardServer.Event.request]
        split
        · rfl
        · split <;> rfl
    | subscriberError isRealtime sessionId =>
        refine Or.inr ⟨.packetError sessionId, rfl, ?_⟩
        exact (if_pos rfl).symm
  · refine Or.inl ⟨if_neg he, ?_⟩
    cases e <;> first | rfl | exact if_neg he

/-- What was published in a half. -/
def publishedOn (s : Jt1078Service) (b : Bool) : List Message :=
  (s.published.filter (·.isRealtime == b)).map fun p => ⟨p.deviceId, p.pkt⟩

/-- An event publishes in a half what it makes its forward server publish. -/
theorem publishedOn_step (s : Jt1078Service) (e : Event) (b : Bool) :
    (s.step e).publishedOn b
      = s.publishedOn b ++ ForwardServer.published (s.forwardEvents b e) := by
  have hnothing : ∀ {t : Jt1078Service}, t.published = s.published →
      ForwardServer.published (s.forwardEvents b e) = [] →
      t.publishedOn b = s.publishedOn b ++ ForwardServer.published (s.forwardEvents b e) := by
    intro t ht hnone
    rw [hnone, List.append_nil, publishedOn, publishedOn, ht]
  have hsilent : ∀ e' : ForwardServer.Event, s.forwardEvent e = some e' →
      e'.request.message = [] → ForwardServer.published (s.forwardEvents b e) = [] := by
    intro e' he' hmessage
    rw [forwardEvents, he']
    split
    · exact (List.append_nil _).trans hmessage
    · rfl
  cases e with
  | carConnection isRealtime sessionId init =>
      exact hnothing rfl (by rw [forwardEvents]; split <;> rfl)
  | carError isRealtime sessionId => exact hnothing rfl (by rw [forwardEvents]; split <;> rfl)
  | subscriberConnection isRealtime sessionId socket init =>
      refine hnothing (s.onForward_frame isRealtime _).2 (hsilent _ rfl ?_)
      cases init <;> rfl
  | subscriberPacket isRealtime sessionId packet =>
      refine hnothing (s.onForward_frame isRealtime _).2 (hsilent _ rfl ?_)
      rw [ForwardServer.Event.request]
      split
      · rfl
      · split <;> rfl
  | subscriberError isRealtime sessionId =>
      exact hnothing (s.onForward_frame isRealtime _).2 (hsilent _ rfl rfl)
  | carPacket isRealtime sessionId pkt =>
      rw [forwardEvents, forwardEvent]
      simp only [step, onCarPacket]
      cases hanswer : (s.jt1078Server isRealtime).onPacketCompleted sessionId pkt with
      | none =>
          have hnone : ForwardServer.published
              (if (Event.carPacket isRealtime sessionId pkt).half = b then [] else []) = [] := by
            rw [ite_self]
            rfl
          exact (List.append_nil _).symm.trans (congrArg (s.publishedOn b ++ ·) hnone.symm)
      | some answer =>
          show List.map _ (List.filter _ (s.published ++ [⟨isRealtime, answer.1, pkt⟩])) = _
          rw [List.filter_append, List.map_append]
          apply congrArg
          by_cases hb : isRealtime = b
          · subst hb
            rw [Event.half, if_pos rfl]
            simp [ForwardServer.published, PubSub.messages, ForwardServer.Event.request,
              PubSub.Request.message]
          · rw [Event.half, if_neg hb]
            simp [hb, ForwardServer.published]

/-- A body as long as `Jt1078Decoder` lets it be. -/
def Event.fits : Event → Bool
  | .carPacket _ _ pkt => decide (pkt.header.wdBodyLen.toNat ≤ 950)
  | _ => true

/-- What the event publishes is as long. -/
theorem Event.length_published {e : Event} (he : e.fits = true) {m : Message}
    (hm : m ∈ ForwardServer.published (s.forwardEvents b e)) :
    m.pkt.header.wdBodyLen.toNat ≤ 950 := by
  unfold forwardEvents at hm
  split at hm
  · cases e with
    | carConnection isRealtime sessionId init => cases hm
    | carError isRealtime sessionId => cases hm
    | subscriberConnection isRealtime sessionId socket init => cases init <;> cases hm
    | subscriberError isRealtime sessionId => cases hm
    | subscriberPacket isRealtime sessionId packet =>
        have hnone : ForwardServer.published [.packetCompleted sessionId packet] = [] := by
          unfold ForwardServer.published
          rw [List.map_singleton, ForwardServer.Event.request]
          split
          · rfl
          · split <;> rfl
        rw [forwardEvent, Option.toList_some, hnone] at hm
        cases hm
    | carPacket isRealtime sessionId pkt =>
        rw [forwardEvent] at hm
        cases hanswer : (s.jt1078Server isRealtime).onPacketCompleted sessionId pkt with
        | none =>
            rw [hanswer] at hm
            cases hm
        | some answer =>
            rw [hanswer] at hm
            obtain rfl : m = ⟨answer.1, pkt⟩ := List.mem_singleton.mp hm
            exact of_decide_eq_true he
  · cases hm

end Jt1078Service

end MultiProcessServer
