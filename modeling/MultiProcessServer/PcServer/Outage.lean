/-
  MultiProcessServer.PcServer.Outage
  ──────────────────────────────────
  **WHAT BECOMES OF REQUESTS MADE DURING AN OUTAGE.**

  `Ledger` writes down, beside the server, the device each viewer asked for
  last, and the device it asked for last while the upstream was connected.
  The channels follow the second of the two; the viewers mean the first.

    `Kept.step`                   : the channels are what was heard,
    `honoured_iff_nothing_missed` : the runs in which that is what was meant.
-/
import MultiProcessServer.PcServer.Upstream

namespace MultiProcessServer.PcServer

variable {p : PcServer} {pc s d : UInt64}

/-! ## §1. Up and down. -/

/-- The event is the success of a connection attempt. -/
def Event.connects : Event → Bool
  | .clientConnect bOk => bOk
  | .connectTimer result => result == some .connected
  | _ => false

theorem isConnected_of_connects {e : Event} (he : p.Enabled e) (hconnects : e.connects = true) :
    (p.step e).isConnected = true := by
  cases e with
  | clientConnect bOk =>
      cases hconnects
      cases hc : p.client with
      | none => simp [Enabled, raises, hc] at he
      | some c =>
          show (p.handle (.clientConnect true)).isConnected = true
          unfold handle
          rw [hc]
          exact @isConnected_onClientConnect { p with client := some (c.onConnected true) }
  | connectTimer result =>
      unfold Event.connects at hconnects
      rw [beq_iff_eq] at hconnects
      subst hconnects
      exact @isConnected_onClientConnect { p with
        connectTimer := false
        client := some (Jt1078Client.new.onConnected true) }
  | newConnection _ _ _ | packetCompleted _ _ | packetError _ | clientCleared | clientMessage _ _
  | clientError | heartbeatTimer => cases hconnects

theorem isConnected_onPacketCompleted (packet : Ipc.Packet) :
    (p.onPacketCompleted pc packet).isConnected = p.isConnected := by
  apply onPacketCompleted_rule (P := fun q => q.isConnected = p.isConnected) packet rfl
  · intro hup strDeviceId
    exact (up_subscribeDeviceId hup strDeviceId).1.trans hup.symm
  · intro _
    exact up_unSubscribeDeviceId.1

/-- Only a connection attempt connects. -/
theorem isConnected_step {e : Event} (hup : (p.step e).isConnected = true) :
    e.connects = true ∨ p.isConnected = true := by
  cases e with
  | newConnection pc socket init =>
      apply Or.inr
      cases init <;> exact hup
  | packetCompleted pc packet =>
      exact Or.inr ((isConnected_onPacketCompleted packet).symm.trans hup)
  | packetError pc => exact Or.inr (up_unSubscribeDeviceId.1.symm.trans hup)
  | clientConnect bOk =>
      cases bOk with
      | false => cases hup
      | true => exact Or.inl rfl
  | clientCleared => exact absurd (isConnected_clientCleared.symm.trans hup) Bool.false_ne_true
  | clientMessage packet behind =>
      apply Or.inr
      have hup' : (p.onClientMessage packet behind).isConnected = true := hup
      unfold onClientMessage at hup'
      split at hup' <;> exact hup'
  | clientError => cases hup
  | connectTimer result =>
      cases result with
      | none => cases hup
      | some result =>
          cases result with
          | connected => exact Or.inl rfl
          | failed | pending | refused => cases hup
          | cleared =>
              have hdown := @isConnected_onClientConnect
                { p with connectTimer := false, client := some Jt1078Client.new.onCleared }
              exact absurd (hdown.symm.trans hup) Bool.false_ne_true
  | heartbeatTimer =>
      have hup' : (onHeartbeatTimer { p with heartbeatTimer := false }).isConnected = true := hup
      unfold onHeartbeatTimer at hup'
      split at hup'
      next hbefore => exact Or.inr hbefore
      next => exact Or.inr hup'

/-! ## §2. Requests and what they ask for. -/

/-- The device a request is for; the empty string asks for none. -/
def device (strDeviceId : List UInt8) : Option UInt64 :=
  if strDeviceId = [] then none else some (generateDeviceId strDeviceId)

theorem device_eq_some {strDeviceId : List UInt8} :
    device strDeviceId = some d ↔ strDeviceId ≠ [] ∧ generateDeviceId strDeviceId = d := by
  unfold device
  split
  next hnil => exact iff_of_false (Option.some_ne_none d).symm fun h => h.1 hnil
  next hne => rw [Option.some.injEq, and_iff_right hne]

/-- The request of the session that the event carries. -/
def Event.request : Event → UInt64 → Option (List UInt8)
  | .packetCompleted pc packet, s => if pc = s then asks packet else none
  | _, _ => none

/-- The request that the server listens to. -/
def hears (p : PcServer) (e : Event) (s : UInt64) : Option (List UInt8) :=
  if p.isConnected then e.request s else none

theorem hears_of_not_connected (hup : p.isConnected = false) (e : Event) : p.hears e s = none := by
  unfold hears
  rw [hup, if_neg Bool.false_ne_true]

theorem hears_of_connected (hup : p.isConnected = true) (e : Event) :
    p.hears e s = e.request s := by
  unfold hears
  rw [if_pos hup]

theorem hears_of_request_none {e : Event} (hrequest : e.request s = none) :
    p.hears e s = none := by
  unfold hears
  rw [hrequest, ite_self]

/-- The device asked for after a request, if there is one. -/
def noted (request : Option (List UInt8)) (before : Option UInt64) : Option UInt64 :=
  match request with
  | none => before
  | some strDeviceId => device strDeviceId

/-- The session is in the channel of this device and in no other. -/
def Watches (p : PcServer) (s : UInt64) (asked : Option UInt64) : Prop :=
  ∀ d, p.Subscribed s d ↔ asked = some d

theorem Watches.eq {asked asked' : Option UInt64} (h : p.Watches s asked)
    (h' : p.Watches s asked') : asked = asked' :=
  Option.ext fun d => (h d).symm.trans (h' d)

/-- The viewer is there and its socket can be written to. -/
def Reachable (p : PcServer) (s : UInt64) : Prop :=
  s ∈ p.roster.live ∧ (p.sessions s).isCanWrite = true

/-- The viewer could be reached before the event, and watches afterwards what
it watched, unless the server heard it ask for something else. -/
def Heeds (p : PcServer) (e : Event) (s : UInt64) : Prop :=
  p.Reachable s
    ∧ ∀ asked, p.Watches s asked → (p.step e).Watches s (noted (p.hears e s) asked)

/-- An event that brings no request and leaves the viewer in its channels. -/
theorem heeds_of_same {e : Event} (hbefore : p.Reachable s) (hrequest : e.request s = none)
    (hsame : ∀ d, (p.step e).Subscribed s d ↔ p.Subscribed s d) : p.Heeds e s := by
  refine ⟨hbefore, ?_⟩
  intro asked hasked d
  rw [hears_of_request_none hrequest]
  exact (hsame d).trans (hasked d)

theorem heeds_of_quiet {e : Event} (hquiet : e.quiet = true) (hrequest : e.request s = none)
    (hs : (p.step e).Reachable s) : p.Heeds e s := by
  obtain ⟨hlive, hcan⟩ := hs
  have hq := @quiet_step p e hquiet
  rw [hq.roster] at hlive
  rw [hq.sessions] at hcan
  exact heeds_of_same ⟨hlive, hcan⟩ hrequest fun _ => hq.subscribed

/-- A request: whoever sends it moves to the channel it names, if the server
listens, and nobody else moves. -/
theorem heeds_packetCompleted (h : p.Inv) {pc : UInt64} {packet : Ipc.Packet}
    (hs : (p.step (.packetCompleted pc packet)).Reachable s) :
    p.Heeds (.packetCompleted pc packet) s := by
  obtain ⟨hlive, hcan⟩ := hs
  have hstep := @step_packetCompleted p pc h.watching packet
  rw [hstep] at hlive hcan
  cases hup : p.isConnected with
  | false =>
      rw [onPacketCompleted_of_not_connected hup] at hlive hcan
      refine ⟨⟨hlive, hcan⟩, ?_⟩
      intro asked hasked
      rw [hears_of_not_connected hup, hstep, onPacketCompleted_of_not_connected hup]
      exact hasked
  | true =>
      cases hasks : asks packet with
      | none =>
          rw [onPacketCompleted_of_asks_none hasks] at hlive hcan
          apply heeds_of_same ⟨hlive, hcan⟩
          · rw [Event.request, hasks, ite_self]
          · intro d
            rw [hstep, onPacketCompleted_of_asks_none hasks]
      | some strDeviceId =>
          have hq := @granted_onPacketCompleted p pc h.watching hup packet strDeviceId hasks
          rw [hq.roster] at hlive
          rw [hq.isCanWrite] at hcan
          by_cases hpcs : pc = s
          · -- the viewer itself asks
            refine ⟨⟨hlive, hcan⟩, ?_⟩
            intro asked _ d
            rw [hstep, hq.subscribed, if_pos hpcs.symm, hears_of_connected hup, Event.request,
              if_pos hpcs, hasks]
            exact device_eq_some.symm
          · refine heeds_of_same ⟨hlive, hcan⟩ (if_neg hpcs) ?_
            intro d
            rw [hstep, hq.subscribed, if_neg (Ne.symm hpcs)]

/-- The end of a session takes nobody else out of a channel. -/
theorem heeds_packetError (h : p.Inv) {pc : UInt64}
    (hs : (p.step (.packetError pc)).Reachable s) : p.Heeds (.packetError pc) s := by
  obtain ⟨hlive, hcan⟩ := hs
  have hq := @granted_unSubscribeDeviceId p pc h.watching
  obtain ⟨hbefore, hne⟩ := Roster.mem_live_closes.mp hlive
  refine heeds_of_same ⟨hbefore, (hq.isCanWrite s).symm.trans hcan⟩ rfl ?_
  intro d
  refine (hq.subscribed s d).trans ?_
  rw [if_neg hne]

/-- A packet from upstream: a viewer that can still be written to stays in its
channel. -/
theorem heeds_clientMessage {packet : Ipc.Packet} {behind : List UInt8}
    (hs : (p.step (.clientMessage packet behind)).Reachable s) :
    p.Heeds (.clientMessage packet behind) s := by
  obtain ⟨hlive, hcan⟩ := hs
  have hcan' : ((p.onClientMessage packet behind).sessions s).isCanWrite = true := hcan
  have hsub : ∀ d, (p.step (.clientMessage packet behind)).Subscribed s d
      ↔ (p.onClientMessage packet behind).Subscribed s d := fun _ => Iff.rfl
  unfold onClientMessage at hcan' hsub
  split at hcan'
  next htype =>
      refine heeds_of_same ⟨hlive, PcPublisher.isCanWrite_of_publish hcan'⟩ rfl ?_
      intro d
      rw [hsub, if_pos htype]
      exact PcPublisher.subscribed_publish.trans (and_iff_left fun _ => hcan')
  next htype =>
      refine heeds_of_same ⟨hlive, hcan'⟩ rfl ?_
      intro d
      rw [hsub, if_neg htype]

/-- **What an event does to a viewer that can be reached afterwards**: it is
new and watches nothing, or it watches what it watched, unless the server heard
it ask for something else. -/
theorem step_reachable (h : p.Inv) {e : Event} (he : p.Enabled e)
    (hs : (p.step e).Reachable s) :
    (s ∉ p.roster.used ∧ e.request s = none ∧ (p.step e).Watches s none) ∨ p.Heeds e s := by
  cases e with
  | newConnection pc socket init =>
      obtain ⟨hlive, hcan⟩ := hs
      cases init with
      | false => exact Or.inr (heeds_of_same ⟨hlive, hcan⟩ rfl fun _ => Iff.rfl)
      | true =>
          by_cases hspc : s = pc
          · -- the id is new, so it is in no channel
            subst hspc
            refine Or.inl ⟨he.1, rfl, ?_⟩
            intro d
            refine iff_of_false ?_ (Option.some_ne_none d).symm
            intro hsub
            exact he.1 (h.grounded s ((h.managed s).mp (h.registered s d hsub)))
          · have hsame : (p.step (.newConnection pc socket true)).sessions s = p.sessions s :=
              Function.update_of_ne hspc _ _
            rw [hsame] at hcan
            have hbefore := (Roster.mem_live_opens.mp hlive).resolve_left hspc
            exact Or.inr (heeds_of_same ⟨hbefore, hcan⟩ rfl fun _ => Iff.rfl)
  | packetCompleted pc packet => exact Or.inr (heeds_packetCompleted h hs)
  | packetError pc => exact Or.inr (heeds_packetError h hs)
  | clientMessage packet behind => exact Or.inr (heeds_clientMessage hs)
  | clientConnect _ | clientCleared | clientError | connectTimer _ | heartbeatTimer =>
      exact Or.inr (heeds_of_quiet rfl rfl hs)

/-! ## §3. The ledger. -/

/-- The server, the device each viewer asked for last, and the device it asked
for last while the upstream was connected. -/
structure Ledger where
  server : PcServer
  latest : UInt64 → Option UInt64
  heard : UInt64 → Option UInt64

namespace Ledger

variable {l : Ledger} {e : Event}

def init (garbage : UInt8) (result : Option ConnectResult) : Ledger where
  server := (PcServer.init garbage result).2
  latest _ := none
  heard _ := none

def step (l : Ledger) (e : Event) : Ledger where
  server := l.server.step e
  latest s := noted (e.request s) (l.latest s)
  heard s := noted (l.server.hears e s) (l.heard s)

/-- The event can come now. -/
def Enabled (l : Ledger) (e : Event) : Prop := l.server.Enabled e

instance : Decidable (l.Enabled e) := inferInstanceAs (Decidable (l.server.Enabled e))

/-- While the upstream is connected, every viewer that can be reached watches
the device it asked for last, or none when it asked for none. -/
def Honoured (l : Ledger) : Prop :=
  l.server.isConnected = true → ∀ s, l.server.Reachable s → l.server.Watches s (l.latest s)

/-- Every viewer that can be reached asked last, during the outage, for what it
had asked for before it. -/
def NothingMissed (l : Ledger) : Prop := ∀ s, l.server.Reachable s → l.latest s = l.heard s

/-- Every viewer that can be reached watches what the server heard it ask for. -/
def Kept (l : Ledger) : Prop := ∀ s, l.server.Reachable s → l.server.Watches s (l.heard s)

/-- What holds of the ledger in a run in which nothing is missed. -/
structure Inv (l : Ledger) : Prop where
  server : l.server.Inv
  fresh : ∀ s, s ∉ l.server.roster.used → l.latest s = none ∧ l.heard s = none
  kept : l.Kept
  caught : l.server.isConnected = true → l.NothingMissed

theorem inv_init (garbage : UInt8) (result : Option ConnectResult) : (init garbage result).Inv where
  server := PcServer.inv_init garbage result
  fresh _ _ := ⟨rfl, rfl⟩
  kept s hs := by
    have hroster : (PcServer.init garbage result).2.roster = .empty :=
      (quiet_asyncConnectServer result).roster
    have hlive : s ∈ (PcServer.init garbage result).2.roster.live := hs.1
    rw [hroster] at hlive
    exact absurd hlive (Roster.not_mem_live_empty s)
  caught _ _ _ := rfl

/-- The channels follow what is heard, a request at a time. -/
theorem Inv.kept_step (h : l.Inv) (he : l.Enabled e) : (l.step e).Kept := by
  intro s hs
  rcases step_reachable h.server he hs with ⟨hfresh, hrequest, hnone⟩ | ⟨hbefore, hnoted⟩
  · show (l.server.step e).Watches s (noted (l.server.hears e s) (l.heard s))
    rw [hears_of_request_none hrequest, (h.fresh s hfresh).2]
    exact hnone
  · exact hnoted (l.heard s) (h.kept s hbefore)

theorem Inv.fresh_step (h : l.Inv) (he : l.Enabled e) :
    ∀ s, s ∉ (l.step e).server.roster.used →
      (l.step e).latest s = none ∧ (l.step e).heard s = none := by
  intro s hs
  have hbefore : s ∉ l.server.roster.used := fun hused => hs (Roster.mem_used_next e.contact hused)
  have hrequest : e.request s = none := by
    cases e with
    | packetCompleted pc packet =>
        -- a session that speaks is there
        apply if_neg
        intro heq
        subst heq
        exact hbefore (h.server.grounded pc he.1)
    | newConnection _ _ _ | packetError _ | clientMessage _ _ | clientConnect _ | clientCleared
    | clientError | connectTimer _ | heartbeatTimer => rfl
  show noted (e.request s) (l.latest s) = none ∧ noted (l.server.hears e s) (l.heard s) = none
  rw [hears_of_request_none hrequest, hrequest]
  exact h.fresh s hbefore

theorem nothingMissed_step_of_connects (hconnects : e.connects = true) :
    (l.step e).NothingMissed ↔ l.NothingMissed := by
  have hquiet : e.quiet = true ∧ ∀ s, e.request s = none := by
    cases e with
    | clientConnect _ | connectTimer _ => exact ⟨rfl, fun _ => rfl⟩
    | newConnection _ _ _ | packetCompleted _ _ | packetError _ | clientCleared
    | clientMessage _ _ | clientError | heartbeatTimer => cases hconnects
  have hq := @quiet_step l.server e hquiet.1
  refine forall_congr' fun s => ?_
  show ((l.server.step e).Reachable s → noted (e.request s) (l.latest s)
    = noted (l.server.hears e s) (l.heard s)) ↔ _
  unfold Reachable
  rw [hq.roster, hq.sessions, hears_of_request_none (hquiet.2 s), hquiet.2 s]
  exact Iff.rfl

/-- **Requests are missed between two connections and nowhere else.** -/
theorem Inv.caught_step (h : l.Inv) (he : l.Enabled e) :
    ((l.step e).server.isConnected = true → (l.step e).NothingMissed)
      ↔ (e.connects = true → l.NothingMissed) := by
  cases hconnects : e.connects with
  | true =>
      have hup : (l.step e).server.isConnected = true := isConnected_of_connects he hconnects
      rw [nothingMissed_step_of_connects hconnects]
      exact ⟨fun hmissed _ => hmissed hup, fun hmissed _ => hmissed rfl⟩
  | false =>
      refine iff_of_true (fun hup' s hs => ?_) fun hfalse => by cases hfalse
      have hup : l.server.isConnected = true :=
        (isConnected_step hup').resolve_left (by simp [hconnects])
      show noted (e.request s) (l.latest s) = noted (l.server.hears e s) (l.heard s)
      rw [hears_of_connected hup]
      rcases step_reachable h.server he hs with ⟨hfresh, -, -⟩ | ⟨hbefore, -⟩
      · obtain ⟨hlatest, hheard⟩ := h.fresh s hfresh
        rw [hlatest, hheard]
      · rw [h.caught hup s hbefore]

theorem Inv.step (h : l.Inv) (he : l.Enabled e) (hmissed : e.connects = true → l.NothingMissed) :
    (l.step e).Inv where
  server := h.server.step e he
  fresh := h.fresh_step he
  kept := h.kept_step he
  caught := (h.caught_step he).mpr hmissed

/-- When the channels are what was heard, they are what was asked for exactly
when nothing was missed. -/
theorem Kept.honoured_iff (h : l.Kept) :
    l.Honoured ↔ (l.server.isConnected = true → l.NothingMissed) := by
  constructor
  · exact fun hhonoured hup s hs => (hhonoured hup s hs).eq (h s hs)
  · intro hmissed hup s hs
    rw [hmissed hup s hs]
    exact h s hs

/-! ## §4. Every run. -/

/-- The ledger's server runs like the server. -/
theorem server_run (l : Ledger) (events : List Event) :
    (Runs.run step l events).server = Runs.run PcServer.step l.server events := by
  induction events generalizing l with
  | nil => rfl
  | cons e es ih => exact ih (l.step e)

/-- **When requests made during an outage are honoured.**  In a run every
viewer that can be reached watches, whenever the upstream is connected, the
device it asked for last, exactly when at every connection every such viewer's
last request is for what it asked for before the outage. -/
theorem honoured_iff_nothing_missed (garbage : UInt8) (result : Option ConnectResult)
    (events : List Event) (h : Runs.Along step Enabled (init garbage result) events) :
    (∀ pre, pre <+: events → (Runs.run step (init garbage result) pre).Honoured)
      ↔ Runs.Along step (fun l e => e.connects = true → l.NothingMissed)
          (init garbage result) events := by
  have hinit := inv_init garbage result
  have hiff : ∀ (l : Ledger) (e : Event), l.Inv → l.Enabled e →
      ((l.step e).Honoured ↔ (e.connects = true → l.NothingMissed)) := fun l e hl he =>
    (hl.kept_step he).honoured_iff.trans (hl.caught_step he)
  exact Runs.always_iff_along Honoured (fun l e hl he => hl.step he) hiff hinit
    (hinit.kept.honoured_iff.mpr hinit.caught) h

/-- A viewer subscribes, and the upstream fails and comes back. -/
theorem honoured_after_reconnect :
    let one : Ipc.Packet := ⟨⟨16, 1, 0, Ipc.IPC_PKT_TYPE_SUBSCRIBE_DEVICE_ID⟩, [49], rfl⟩
    let events : List Event := [.newConnection 7 [] true, .packetCompleted 7 one, .clientError,
      .connectTimer (some .pending), .clientConnect true]
    ∀ pre, pre <+: events → (Runs.run step (init 0 (some .connected)) pre).Honoured := by
  intro one events
  have hidle : ∀ {l : Ledger} {e : Event}, e.connects = false → e.connects = true →
      l.NothingMissed := fun hfalse htrue => absurd (hfalse.symm.trans htrue) Bool.false_ne_true
  refine (honoured_iff_nothing_missed 0 (some .connected) events (by decide)).mpr
    ⟨hidle rfl, hidle rfl, hidle rfl, hidle rfl, fun _ s hs => ?_, trivial⟩
  obtain rfl : s = 7 := List.mem_singleton.mp hs.1
  decide

/-- A viewer subscribes between the loss of the upstream and its return. -/
theorem honoured_fails_on_request_while_down :
    let one : Ipc.Packet := ⟨⟨16, 1, 0, Ipc.IPC_PKT_TYPE_SUBSCRIBE_DEVICE_ID⟩, [49], rfl⟩
    let events : List Event := [.newConnection 7 [] true, .clientError, .packetCompleted 7 one,
      .connectTimer (some .pending), .clientConnect true]
    Runs.Along step Enabled (init 0 (some .connected)) events
      ∧ ¬(Runs.run step (init 0 (some .connected)) events).Honoured := by
  intro one events
  refine ⟨by decide, ?_⟩
  intro hhonoured
  have hsub : (Runs.run step (init 0 (some .connected)) events).server.Subscribed 7 1 :=
    (hhonoured (by decide) 7 ⟨by decide, by decide⟩ 1).mpr (by decide)
  -- but its session names no device
  have hinv : (Runs.run PcServer.step (PcServer.init 0 (some .connected)).2 events).Inv :=
    Runs.run_invariant (fun _ e hp => hp.step e) (PcServer.inv_init 0 (some .connected))
      (by decide)
  rw [server_run] at hsub
  exact (hinv.watching 7 1 hsub).1 (by decide)

end Ledger

end MultiProcessServer.PcServer
