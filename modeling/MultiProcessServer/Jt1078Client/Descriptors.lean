/-
  MultiProcessServer.Jt1078Client.Descriptors
  ───────────────────────────────────────────
  Who closes the socket of a connection attempt: `sock::SocketConnect`,
  `TcpClient::AsyncConnect`, the write callback, or `TcpSession::Clear` when
  the `Jt1078Client` is destroyed.

    `descriptors_closed_iff` :
        every socket of the reconnect loop is closed exactly once, and at most
        one is open at a time, exactly when no attempt is refused at once and
        none times out.

  The loop is the one of `PcServer` and of `WebServer` (`view_step`).
-/
import MultiProcessServer.Lib.Handles
import MultiProcessServer.Lib.Reconnect

namespace MultiProcessServer

open Reconnect (Link Answer)

/-! ## §1. `sock::SocketConnect`. -/

/-- What the system answers to `socket`, `fcntl` and `connect`. -/
inductive SystemAnswer
  | noSocket
  | error
  | inProgress
  | connected
  | refused
  deriving DecidableEq, Repr

/-- What `SocketConnect` returns: -1, 0, 1 and 2. -/
inductive SocketConnect
  | failed
  | pending
  | connected
  | refused
  deriving DecidableEq, Repr

/-- `SocketConnect` of a descriptor that is not made yet: what it returns, the
descriptor, and the sockets after it. -/
def socketConnect (answer : SystemAnswer) (sockets : Handles) :
    SocketConnect × Nat × Handles :=
  let (fd, made) := sockets.acquire
  match answer with
  | .noSocket => (.failed, fd, sockets)
  | .error => (.failed, fd, made.release fd)
  | .inProgress => (.pending, fd, made)
  | .connected => (.connected, fd, made)
  | .refused => (.refused, fd, made)

/-! ## §2. `class TcpClient`. -/

/-- The descriptors a client knows of: that which `m_ev_write` still waits for,
and `m_fd`. -/
structure TcpClient where
  evWrite : Option Nat
  fd : Option Nat
  bConnected : Bool
  deriving DecidableEq, Repr

namespace TcpClient

def new : TcpClient where
  evWrite := none
  fd := none
  bConnected := false

variable (c : TcpClient)

/-- `TcpClient::Clear`, which ends in `TcpSession::Clear`. -/
def clear (sockets : Handles) : TcpClient × Handles :=
  match c.fd with
  | none => (new, sockets)
  | some fd => (new, sockets.release fd)

/-- `TcpSession::InitReadEvent`; `event` says whether `event_new` succeeds. -/
def initReadEvent (fd : Nat) (event : Bool) (sockets : Handles) : TcpClient × Handles :=
  let c := { c with fd := some fd }
  if event then (c, sockets) else c.clear sockets

/-- `Jt1078Client::OnConnected` up to the call of the owner's handler. -/
def onConnected (fd : Nat) (bOk event : Bool) (sockets : Handles) : TcpClient × Handles :=
  let c := { c with evWrite := none, bConnected := bOk }
  if bOk then c.initReadEvent fd event sockets else (c, sockets)

end TcpClient

/-! ## §3. The loop. -/

/-- The outcome of an attempt made by `AsyncConnectServer`; `event` says
whether the `event_new` that follows succeeds. -/
structure Attempt where
  answer : SystemAnswer
  event : Bool
  deriving DecidableEq, Repr

/-- What the write event of a pending attempt brings. -/
inductive WriteEvent
  | timeout
  | error
  | ok (event : Bool)
  deriving DecidableEq, Repr

/-- The members of `PcServer` and `WebServer` that keep the connection up, and
the sockets made for it. -/
structure UpstreamLoop where
  client : Option TcpClient
  connectTimer : Bool
  sockets : Handles
  deriving DecidableEq, Repr

namespace UpstreamLoop

def new : UpstreamLoop where
  client := none
  connectTimer := false
  sockets := .none

variable (u : UpstreamLoop)

/-- `m_client.reset()`: the client is destroyed. -/
def resetClient : UpstreamLoop :=
  match u.client with
  | none => u
  | some c => { u with client := none, sockets := (c.clear u.sockets).2 }

def startConnectTimer : UpstreamLoop := { u with connectTimer := true }

def onClientConnect (bOk : Bool) : UpstreamLoop :=
  if !bOk then u.resetClient.startConnectTimer else u

def onClientError : UpstreamLoop := u.resetClient.startConnectTimer

/-- `Jt1078Client::OnConnected` of the server's client. -/
def onConnected (c : TcpClient) (fd : Nat) (bOk event : Bool) : UpstreamLoop :=
  let (c, sockets) := c.onConnected fd bOk event u.sockets
  { u with client := some c, sockets := sockets }.onClientConnect bOk

/-- `TcpClient::AsyncConnect` of the server's client. -/
def asyncConnect (c : TcpClient) (attempt : Attempt) : Bool × UpstreamLoop :=
  let (ret, fd, sockets) := socketConnect attempt.answer u.sockets
  let u := { u with sockets := sockets }
  match ret with
  | .failed => (false, u)
  | .pending =>
      if !attempt.event then (false, { u with sockets := u.sockets.release fd })
      else (true, { u with client := some { c with evWrite := some fd } })
  | .connected => (true, u.onConnected c fd true attempt.event)
  | .refused => (true, u.onConnected c fd false attempt.event)

/-- `AsyncConnectServer`; without an attempt the configuration names no server. -/
def asyncConnectServer (attempt : Option Attempt) : Bool × UpstreamLoop :=
  let u := u.resetClient
  match attempt with
  | none => (false, u)
  | some attempt => { u with client := some .new }.asyncConnect .new attempt

/-- `TcpClient::tcp_session_write_cb` on the descriptor waited for. -/
def writeCallback (c : TcpClient) (fd : Nat) : WriteEvent → UpstreamLoop
  | .timeout => u.onConnected c fd false false
  | .error => { u with sockets := u.sockets.release fd }.onConnected c fd false false
  | .ok event => u.onConnected { c with bConnected := true } fd true event

/-- What happens to the loop. -/
inductive Event
  | connectTimer (attempt : Option Attempt)
  | writeEvent (answer : WriteEvent)
  | clientError
  deriving DecidableEq, Repr

def step : Event → UpstreamLoop
  | .connectTimer attempt => ({ u with connectTimer := false }.asyncConnectServer attempt).2
  | .writeEvent answer =>
      match u.client with
      | none => u
      | some c =>
          match c.evWrite with
          | none => u
          | some fd => u.writeCallback c fd answer
  | .clientError => u.onClientError

/-- The descriptor the client waits for or reads from. -/
def owned : Option Nat :=
  match u.client with
  | none => none
  | some c => c.evWrite.or c.fd

/-- The event can come now: the timer is armed, the attempt pending, or the
read event of the connection there. -/
def Enabled : Event → Prop
  | .connectTimer _ => u.connectTimer = true
  | .writeEvent _ => (u.client.any fun c => c.evWrite.isSome) = true
  | .clientError => (u.client.any fun c => c.fd.isSome) = true

instance : ∀ e : Event, Decidable (u.Enabled e)
  | .connectTimer _ => inferInstanceAs (Decidable (u.connectTimer = true))
  | .writeEvent _ => inferInstanceAs (Decidable ((u.client.any fun c => c.evWrite.isSome) = true))
  | .clientError => inferInstanceAs (Decidable ((u.client.any fun c => c.fd.isSome) = true))

/-- `Init` makes the first attempt. -/
def init (attempt : Option Attempt) : Bool × UpstreamLoop := new.asyncConnectServer attempt

variable {u} {e : Event}

/-! ## §4. The books. -/

/-- Every socket that is not the client's was closed exactly once, and at most
one is open. -/
def Closed (u : UpstreamLoop) : Prop :=
  (∀ fd, fd < u.sockets.created → u.owned ≠ some fd → u.sockets.released.count fd = 1)
    ∧ ∀ fd fd', fd < u.sockets.created → fd' < u.sockets.created →
      fd ∉ u.sockets.released → fd' ∉ u.sockets.released → fd = fd'

/-- What holds while nothing has leaked: the books are right, a client waits or
reads, and the timer is armed only without a client. -/
structure Tidy (u : UpstreamLoop) : Prop where
  balanced : u.sockets.Balanced fun fd => u.owned = some fd
  waits : ∀ c, u.client = some c → c.evWrite = none ∨ c.fd = none
  idle : u.connectTimer = true → u.client = none

theorem Tidy.closed (h : u.Tidy) : u.Closed := by
  refine ⟨h.balanced.gone, ?_⟩
  intro fd fd' hfd hfd' hopen hopen'
  have hown := h.balanced.owned_of_open hfd hopen
  rw [h.balanced.owned_of_open hfd' hopen'] at hown
  exact (Option.some.inj hown).symm

/-- An attempt that is refused at once, or times out. -/
def Event.leaks : Event → Prop
  | .connectTimer (some attempt) => attempt.answer = .refused
  | .writeEvent answer => answer = .timeout
  | _ => False

/-- Nothing is owned before an attempt. -/
theorem Tidy.balanced_of_none (h : u.Tidy) (hnone : u.client = none) :
    u.sockets.Balanced fun _ => False := by
  refine h.balanced.congr fun fd => ?_
  unfold owned
  rw [hnone]
  simp

/-- A socket that was made and closed again. -/
theorem balanced_acquire_release {l : Handles} (h : l.Balanced fun _ => False) :
    (l.acquire.2.release l.created).Balanced fun _ => False :=
  (h.acquire.release (Or.inr rfl)).congr fun fd => by simp

/-- A state without a client. -/
theorem tidy_of_none {timer : Bool} {l : Handles} (hl : l.Balanced fun _ => False) :
    (⟨none, timer, l⟩ : UpstreamLoop).Tidy where
  balanced := hl.congr fun fd => by simp [owned]
  waits c hc := (Option.some_ne_none c hc.symm).elim
  idle _ := rfl

/-- A state with a client that has no socket. -/
theorem tidy_of_free {up : Bool} {l : Handles} (hl : l.Balanced fun _ => False) :
    (⟨some ⟨none, none, up⟩, false, l⟩ : UpstreamLoop).Tidy where
  balanced := hl.congr fun fd => by simp [owned]
  waits c hc := by
    cases hc
    exact Or.inl rfl
  idle htimer := by cases htimer

/-- A state with a client that waits for `fd`, or reads from it. -/
theorem tidy_of_owner {c : TcpClient} {fd : Nat} {l : Handles} (hl : l.Balanced fun x => x = fd)
    (hwaits : c.evWrite = none ∨ c.fd = none) (howned : c.evWrite.or c.fd = some fd) :
    (⟨some c, false, l⟩ : UpstreamLoop).Tidy where
  balanced := hl.congr fun x => by simp [owned, howned, eq_comm]
  waits c' hc := by
    cases hc
    exact hwaits
  idle htimer := by cases htimer

/-- The timer is not armed while there is a client. -/
theorem Tidy.timer_eq (h : u.Tidy) {c : TcpClient} (hc : u.client = some c) :
    u.connectTimer = false := by
  cases htimer : u.connectTimer with
  | false => rfl
  | true => exact (Option.some_ne_none c (hc.symm.trans (h.idle htimer))).elim

/-- **While an attempt is pending**, its socket is all the client has, -/
theorem Tidy.pending (h : u.Tidy) {answer : WriteEvent} (he : u.Enabled (.writeEvent answer)) :
    ∃ fd up, u.client = some ⟨some fd, none, up⟩ ∧ u.connectTimer = false
      ∧ u.sockets.Balanced fun x => x = fd := by
  obtain ⟨⟨evWrite, cfd, up⟩, hc, hsome⟩ := (Option.any_eq_true _ u.client).mp he
  obtain ⟨fd, hfd⟩ := Option.isSome_iff_exists.mp hsome
  obtain rfl : evWrite = some fd := hfd
  obtain rfl : cfd = none := (h.waits _ hc).resolve_left (Option.some_ne_none fd)
  refine ⟨fd, up, hc, h.timer_eq hc, h.balanced.congr fun x => ?_⟩
  unfold owned
  rw [hc]
  simp [eq_comm]

/-- and so it is while a connection is up. -/
theorem Tidy.reading (h : u.Tidy) (he : u.Enabled .clientError) :
    ∃ fd up, u.client = some ⟨none, some fd, up⟩
      ∧ u.sockets.Balanced fun x => x = fd := by
  obtain ⟨⟨evWrite, cfd, up⟩, hc, hsome⟩ := (Option.any_eq_true _ u.client).mp he
  obtain ⟨fd, hfd⟩ := Option.isSome_iff_exists.mp hsome
  obtain rfl : cfd = some fd := hfd
  obtain rfl : evWrite = none := (h.waits _ hc).resolve_right (Option.some_ne_none fd)
  refine ⟨fd, up, hc, h.balanced.congr fun x => ?_⟩
  unfold owned
  rw [hc]
  simp [eq_comm]

/-- The only socket is closed. -/
theorem balanced_release {l : Handles} {fd : Nat} (h : l.Balanced fun x => x = fd) :
    (l.release fd).Balanced fun _ => False :=
  (h.release rfl).congr fun x => by simp

/-- **Attempts.** -/
theorem Tidy.connectTimer (h : u.Tidy) (he : u.connectTimer = true) (attempt : Option Attempt)
    (hleak : ¬(Event.connectTimer attempt).leaks) : (u.step (.connectTimer attempt)).Tidy := by
  have hbalanced := h.balanced_of_none (h.idle he)
  have hopened : u.sockets.acquire.2.Balanced fun fd => fd = u.sockets.created :=
    hbalanced.acquire.congr fun fd => by simp
  obtain ⟨client, timer, sockets⟩ := u
  obtain rfl : client = none := h.idle he
  cases attempt with
  | none => exact tidy_of_none hbalanced
  | some attempt =>
      obtain ⟨answer, event⟩ := attempt
      cases answer with
      | noSocket => exact tidy_of_free hbalanced
      | error => exact tidy_of_free (balanced_acquire_release hbalanced)
      | inProgress =>
          cases event with
          | false => exact tidy_of_free (balanced_acquire_release hbalanced)
          | true => exact tidy_of_owner hopened (Or.inr rfl) rfl
      | connected =>
          cases event with
          | false => exact tidy_of_free (balanced_acquire_release hbalanced)
          | true => exact tidy_of_owner hopened (Or.inl rfl) rfl
      | refused => exact absurd rfl hleak

/-- **The end of a pending attempt.**  The write callback closes the socket
itself or hands it to `m_fd`. -/
theorem Tidy.writeEvent (h : u.Tidy) (answer : WriteEvent)
    (he : u.Enabled (.writeEvent answer)) (hleak : answer ≠ .timeout) :
    (u.step (.writeEvent answer)).Tidy := by
  obtain ⟨fd, up, hclient, htimer, hbalanced⟩ := h.pending he
  obtain ⟨client, timer, sockets⟩ := u
  obtain rfl : client = some ⟨some fd, none, up⟩ := hclient
  obtain rfl : timer = false := htimer
  cases answer with
  | timeout => exact absurd rfl hleak
  | error => exact tidy_of_none (balanced_release hbalanced)
  | ok event =>
      cases event with
      | false => exact tidy_of_free (balanced_release hbalanced)
      | true => exact tidy_of_owner hbalanced (Or.inl rfl) rfl

/-- **The end of a connection.**  Destroying the client closes `m_fd`. -/
theorem Tidy.clientError (h : u.Tidy) (he : u.Enabled .clientError) :
    (u.step .clientError).Tidy := by
  obtain ⟨fd, up, hclient, hbalanced⟩ := h.reading he
  obtain ⟨client, timer, sockets⟩ := u
  obtain rfl : client = some ⟨none, some fd, up⟩ := hclient
  exact tidy_of_none (balanced_release hbalanced)

/-- **One event that does not leak.** -/
theorem Tidy.step (h : u.Tidy) (he : u.Enabled e) (hleak : ¬e.leaks) : (u.step e).Tidy := by
  cases e with
  | connectTimer attempt => exact h.connectTimer he attempt hleak
  | writeEvent answer => exact h.writeEvent answer he hleak
  | clientError => exact h.clientError he

/-- **One event that does**: its socket has no owner and is still open. -/
theorem Tidy.not_closed (h : u.Tidy) (he : u.Enabled e) (hleak : e.leaks) :
    ¬(u.step e).Closed := by
  intro hclosed
  suffices hlost : ∃ fd, fd < (u.step e).sockets.created ∧ (u.step e).owned ≠ some fd
      ∧ (u.step e).sockets.released.count fd ≠ 1 by
    obtain ⟨fd, hfd, hnot, hcount⟩ := hlost
    exact hcount (hclosed.1 fd hfd hnot)
  cases e with
  | clientError => exact hleak.elim
  | connectTimer attempt =>
      cases attempt with
      | none => exact hleak.elim
      | some attempt =>
          have hbalanced := h.balanced_of_none (h.idle he)
          obtain ⟨client, timer, sockets⟩ := u
          obtain rfl : client = none := h.idle he
          obtain ⟨answer, event⟩ := attempt
          obtain rfl : answer = .refused := hleak
          exact hbalanced.acquire.forgotten (Or.inr rfl) (Option.some_ne_none _).symm
  | writeEvent answer =>
      obtain rfl : answer = .timeout := hleak
      obtain ⟨fd, up, hclient, -, hbalanced⟩ := h.pending he
      obtain ⟨client, timer, sockets⟩ := u
      obtain rfl : client = some ⟨some fd, none, up⟩ := hclient
      exact hbalanced.forgotten rfl (Option.some_ne_none fd).symm

/-! ## §5. Every run. -/

/-- The loop before `Init`, as if the timer were about to fire. -/
def armed : UpstreamLoop := { new with connectTimer := true }

theorem tidy_armed : armed.Tidy := tidy_of_none Handles.balanced_none

/-- **Every descriptor is closed exactly once, as long as no attempt is
refused at once or times out.**  In every state of a run of the reconnect loop
each socket made by `SocketConnect` that is not the present client's was closed
exactly once, and at most one is open, exactly when neither the attempt of
`Init` nor a later one is refused at once, and no pending one times out. -/
theorem descriptors_closed_iff (attempt : Option Attempt) (events : List Event)
    (h : Runs.Along step Enabled (init attempt).2 events) :
    (∀ pre, pre <+: events → (Runs.run step (init attempt).2 pre).Closed)
      ↔ ∀ e ∈ Event.connectTimer attempt :: events, ¬e.leaks := by
  have hiff : ∀ (u : UpstreamLoop) (e : Event), u.Tidy → u.Enabled e →
      ((u.step e).Closed ↔ ¬e.leaks) := fun u e hu he =>
    ⟨fun hclosed hleak => hu.not_closed he hleak hclosed, fun hleak => (hu.step he hleak).closed⟩
  -- `Init` is the first event of a longer run
  have hlonger : Runs.Along step Enabled armed (.connectTimer attempt :: events) := ⟨rfl, h⟩
  rw [← @Runs.along_iff_forall _ _ step _ _ armed,
    ← Runs.always_iff_along Closed (fun u e hu he hleak => hu.step he hleak) hiff tidy_armed
      tidy_armed.closed hlonger]
  constructor
  · intro hinit pre hpre
    rcases List.prefix_cons_iff.mp hpre with rfl | ⟨rest, rfl, hbegins⟩
    · exact tidy_armed.closed
    · exact hinit rest hbegins
  · intro harmed pre hpre
    exact harmed (.connectTimer attempt :: pre) (List.cons_prefix_cons.mpr ⟨rfl, hpre⟩)

/-- A connection that is lost, an attempt that fails later, and one that
succeeds. -/
theorem descriptors_closed_after_outage :
    let up : Option Attempt := some ⟨.connected, true⟩
    let pending : Option Attempt := some ⟨.inProgress, true⟩
    ∀ pre, pre <+: [Event.clientError, .connectTimer pending, .writeEvent .error,
        .connectTimer pending, .writeEvent (.ok true)] →
      (Runs.run step (init up).2 pre).Closed := by
  intro up pending
  apply (descriptors_closed_iff up _ (by decide)).mpr
  simp [Event.leaks, up, pending]

/-- Two attempts time out: two sockets are open, and no client knows them. -/
theorem descriptors_leak_on_timeout :
    let pending : Option Attempt := some ⟨.inProgress, true⟩
    let events : List Event :=
      [.writeEvent .timeout, .connectTimer pending, .writeEvent .timeout]
    Runs.Along step Enabled (init pending).2 events
      ∧ ¬(Runs.run step (init pending).2 events).Closed := by
  intro pending events
  refine ⟨by decide, ?_⟩
  intro hclosed
  have hcount := hclosed.1 0 (by decide) (by decide)
  exact absurd hcount (by decide)

/-! ## §6. The loop without its sockets. -/

/-- What `AsyncConnectServer` answers to an attempt.  A connection whose read
event cannot be made is closed, and nobody is told. -/
def Attempt.asks : Option Attempt → Answer
  | none => .failed
  | some ⟨.noSocket, _⟩ => .failed
  | some ⟨.error, _⟩ => .failed
  | some ⟨.inProgress, event⟩ => if event then .pending else .failed
  | some ⟨.connected, event⟩ => if event then .connected else .failed
  | some ⟨.refused, _⟩ => .refused

def view (u : UpstreamLoop) : Reconnect.State where
  link :=
    match u.client with
    | none => .down
    | some c => if c.evWrite.isSome then .trying else if c.fd.isSome then .up else .down
  timer := u.connectTimer

def Event.mark : Event → Reconnect.Event
  | .connectTimer attempt => .attempt (Attempt.asks attempt)
  | .writeEvent answer =>
      match answer with
      | .timeout => .ended false
      | .error => .ended false
      | .ok event => if event then .ended true else .cut
  | .clientError => .lost

/-- **Every event of the loop is one of `Reconnect`'s.** -/
theorem view_step (e : Event) (he : u.Enabled e) : (u.step e).view = u.view.step e.mark := by
  obtain ⟨client, timer, sockets⟩ := u
  cases e with
  | clientError => cases client <;> rfl
  | connectTimer attempt =>
      cases attempt with
      | none => cases client <;> rfl
      | some attempt =>
          obtain ⟨answer, event⟩ := attempt
          cases answer <;> cases event <;> cases client <;> rfl
  | writeEvent answer =>
      obtain ⟨c, rfl, hsome⟩ := (Option.any_eq_true _ client).mp he
      obtain ⟨fd, hfd⟩ := Option.isSome_iff_exists.mp hsome
      obtain ⟨evWrite, cfd, up⟩ := c
      obtain rfl : evWrite = some fd := hfd
      cases answer with
      | timeout => cases cfd <;> rfl
      | error => cases cfd <;> rfl
      | ok event =>
          cases event with
          | false => rfl
          | true => rfl

end UpstreamLoop

end MultiProcessServer
