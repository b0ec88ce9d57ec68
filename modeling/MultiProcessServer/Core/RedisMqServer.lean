/-
  MultiProcessServer.Core.RedisMqServer
  ─────────────────────────────────────
  `CRedisMqServer`, its `CRedisClient` and the reconnect timer.

  Main result:

    `safe_iff` :
        every command is issued on a live context, and no context but
        `m_ctx` is alive, exactly when the timer never expires during a
        connection attempt and no `RpushList` is called between a lost
        connection and the next expiry.

  hiredis owns the contexts.  It frees one right after its connect callback has
  reported failure, and right after its disconnect callback; `m_ctx` is not
  told.
-/
import MultiProcessServer.Lib.Runs

namespace MultiProcessServer

/-- The life of a `redisAsyncContext`.  One that `AsyncConnect` could not attach
gets no callbacks. -/
inductive AsyncContext
  | pending
  | unattached
  | connected
  | freed
  deriving DecidableEq, Repr

inductive RedisFetchCmdType
  | redisCmdAuth
  | redisCmdSelect
  | redisCmdRpushList
  deriving DecidableEq, Repr

/-- A `redisAsyncCommand` that was called, and whether the context it was given
was there. -/
structure RedisCommand where
  type : RedisFetchCmdType
  ctx : Option Nat
  live : Bool
  deriving DecidableEq, Repr

/-- `armed`: libevent has the event pending. -/
structure TimerEventWatcher where
  bWaitTimer : Bool
  armed : Bool
  deriving DecidableEq, Repr

namespace TimerEventWatcher

def new : TimerEventWatcher := ⟨false, false⟩

/-- `EventWatcher::Init`: it adds the event, and leaves `m_bWaitTimer` alone. -/
def init (w : TimerEventWatcher) : TimerEventWatcher := { w with armed := true }

def startTimer (w : TimerEventWatcher) : TimerEventWatcher :=
  if w.bWaitTimer then w else { w with bWaitTimer := true }.init

/-- `OnTimer`, up to the handler. -/
def onTimer (_ : TimerEventWatcher) : TimerEventWatcher := ⟨false, false⟩

end TimerEventWatcher

/-- The server with its client, and the contexts hiredis made for it, in order.
`ctx` is none when there is no client. -/
structure CRedisMqServer where
  passport : String
  ctx : Option Nat
  bConnected : Bool
  timer : TimerEventWatcher
  contexts : List AsyncContext
  commands : List RedisCommand
  deriving DecidableEq, Repr

namespace CRedisMqServer

variable (s : CRedisMqServer)

/-- The context is there. -/
def Alive (id : Nat) : Prop := id < s.contexts.length ∧ s.contexts[id]? ≠ some .freed

instance (id : Nat) : Decidable (s.Alive id) := inferInstanceAs (Decidable (_ ∧ _))

/-- What `m_ctx` points to is there. -/
def CtxAlive : Prop := ∃ id ∈ s.ctx, s.Alive id

instance : Decidable s.CtxAlive :=
  decidable_of_iff ((s.ctx.any fun id => decide (s.Alive id)) = true) <| by
    simp [CtxAlive, Option.any_eq_true]

/-! ## §1. hiredis. -/

/-- `redisAsyncConnectWithOptions`, and whether the event loop took the
context. -/
def redisAsyncConnect (attached : Bool) : Nat × CRedisMqServer :=
  (s.contexts.length,
    { s with contexts := s.contexts ++ [if attached then .pending else .unattached] })

def redisAsyncFree (id : Nat) : CRedisMqServer := { s with contexts := s.contexts.set id .freed }

def redisAsyncCommand (type : RedisFetchCmdType) : CRedisMqServer :=
  { s with commands := s.commands ++ [⟨type, s.ctx, decide s.CtxAlive⟩] }

/-! ## §2. The client. -/

/-- `CRedisClient::AsyncConnect`: it takes the new context for `m_ctx`, whatever
`m_ctx` was. -/
def asyncConnect (attached : Bool) : CRedisMqServer :=
  let (ctx, s) := s.redisAsyncConnect attached
  { s with ctx := some ctx }

/-- `Auth`, which sends nothing without a passport. -/
def auth : CRedisMqServer :=
  if s.passport.isEmpty then s else s.redisAsyncCommand .redisCmdAuth

def select : CRedisMqServer := s.redisAsyncCommand .redisCmdSelect

/-- `RpushList`, of the server and of the client. -/
def rpushList : CRedisMqServer := s.redisAsyncCommand .redisCmdRpushList

def setConnected (flag : Bool) : CRedisMqServer := { s with bConnected := flag }

/-! ## §3. The server. -/

def startTimer : CRedisMqServer := { s with timer := s.timer.startTimer }

def onConnect (bOk : Bool) : CRedisMqServer :=
  let s := s.setConnected bOk
  if bOk then if !s.passport.isEmpty then s.auth else s.select else s.startTimer

def onDisconnect (bOk : Bool) : CRedisMqServer :=
  let s := s.setConnected false
  if bOk then s.setConnected false else s.startTimer

/-- `OnAuth`, for a reply that is an error or not. -/
def onAuth (error : Bool) : CRedisMqServer := if error then s.setConnected false else s.select

def onSelect (error : Bool) : CRedisMqServer := if error then s.setConnected false else s

def onReconnectTimer (attached : Bool) : CRedisMqServer :=
  if s.bConnected then s else s.asyncConnect attached

/-- `Destory`, as `Init` calls it: the destructor of a client that is not
connected frees its context. -/
def destory : CRedisMqServer :=
  let s := match s.ctx with
    | some id => s.redisAsyncFree id
    | none => s
  { s with ctx := none, passport := "" }

/-- `Init`.  It arms the timer, without marking it as waited for. -/
def init (passport : String) (attached : Bool) : CRedisMqServer :=
  let s : CRedisMqServer := ⟨passport, none, false, .new, [], []⟩
  let s := s.asyncConnect attached
  if attached then { s with timer := s.timer.init } else s.destory

/-- What happens to a server. -/
inductive Event
  | connectResult (id : Nat) (ok : Bool)
  | disconnect (id : Nat) (ok : Bool)
  | authReply (id : Nat) (error : Bool)
  | selectReply (id : Nat) (error : Bool)
  | timer (attached : Bool)
  | rpushList
  deriving DecidableEq, Repr

/-- One event: a callback of hiredis and what hiredis does after it, the timer,
or a call. -/
def step : CRedisMqServer → Event → CRedisMqServer
  | s, .connectResult id true =>
      { s with contexts := s.contexts.set id .connected }.onConnect true
  | s, .connectResult id false => (s.onConnect false).redisAsyncFree id
  | s, .disconnect id ok => (s.onDisconnect ok).redisAsyncFree id
  | s, .authReply _ error => s.onAuth error
  | s, .selectReply _ error => s.onSelect error
  | s, .timer attached => { s with timer := s.timer.onTimer }.onReconnectTimer attached
  | s, .rpushList => s.rpushList

/-- What can happen: a context gives one connect result, and disconnects or
answers when it is connected; only an armed timer expires; there is a client to
call. -/
def Enabled : Event → Prop
  | .connectResult id _ => s.contexts[id]? = some .pending
  | .disconnect id _ => s.contexts[id]? = some .connected
  | .authReply id _ => s.contexts[id]? = some .connected
  | .selectReply id _ => s.contexts[id]? = some .connected
  | .timer _ => s.timer.armed = true
  | .rpushList => s.ctx ≠ none

instance : ∀ e, Decidable (s.Enabled e)
  | .connectResult _ _ => inferInstanceAs (Decidable (_ = _))
  | .disconnect _ _ => inferInstanceAs (Decidable (_ = _))
  | .authReply _ _ => inferInstanceAs (Decidable (_ = _))
  | .selectReply _ _ => inferInstanceAs (Decidable (_ = _))
  | .timer _ => inferInstanceAs (Decidable (_ = _))
  | .rpushList => inferInstanceAs (Decidable (_ ≠ _))

/-! ## §4. The one live context. -/

/-- Every command went to a context that was there, and what is there is
`m_ctx`. -/
structure Safe (s : CRedisMqServer) : Prop where
  commands : ∀ command ∈ s.commands, command.live = true
  single : ∀ id, s.Alive id → s.ctx = some id

/-- What an event needs of the context of `m_ctx`: a timer that connects again
needs it gone, and `RpushList` needs it there. -/
def Needs : Event → Prop
  | .timer _ => s.bConnected = true ∨ ¬s.CtxAlive
  | .rpushList => s.CtxAlive
  | _ => True

/-- `m_ctx` was made by hiredis. -/
def Known : Prop := ∀ id ∈ s.ctx, id < s.contexts.length

variable {s}

/-- Contexts are alive as they were. -/
theorem Safe.congr {t : CRedisMqServer} (h : s.Safe) (halive : ∀ id, t.Alive id → s.Alive id)
    (hctx : t.ctx = s.ctx) (hcommands : t.commands = s.commands) : t.Safe where
  commands := hcommands ▸ h.commands
  single id hid := by rw [hctx]; exact h.single id (halive id hid)

/-- A context hiredis has something to report about is `m_ctx`. -/
theorem Safe.ctx_eq (h : s.Safe) {id : Nat} {st : AsyncContext} (hid : s.contexts[id]? = some st)
    (hst : st ≠ .freed) : s.ctx = some id ∧ s.Alive id := by
  have halive : s.Alive id := by
    refine ⟨(List.getElem?_eq_some_iff.mp hid).1, ?_⟩
    rw [hid]
    exact fun heq => hst (Option.some.inj heq)
  exact ⟨h.single id halive, halive⟩

theorem alive_set_iff {id x : Nat} {st : AsyncContext} (hst : st ≠ .freed) (hid : s.Alive id) :
    Alive { s with contexts := s.contexts.set id st } x ↔ s.Alive x := by
  unfold Alive
  rw [List.length_set]
  by_cases hx : id = x
  · subst hx
    simp [List.getElem?_set_self hid.1, hid.2, hst]
  · rw [List.getElem?_set_ne hx]

theorem alive_redisAsyncFree {id x : Nat} (h : (s.redisAsyncFree id).Alive x) :
    s.Alive x ∧ x ≠ id := by
  obtain ⟨hlt, hfreed⟩ := h
  rw [redisAsyncFree, List.length_set] at hlt
  by_cases hx : id = x
  · subst hx
    exact absurd (List.getElem?_set_self hlt) hfreed
  · rw [redisAsyncFree, List.getElem?_set_ne hx] at hfreed
    exact ⟨⟨hlt, hfreed⟩, Ne.symm hx⟩

/-- The new context of `asyncConnect` is there, and so is every older one that
was. -/
theorem alive_asyncConnect_iff {attached : Bool} {x : Nat} :
    (s.asyncConnect attached).Alive x ↔ s.Alive x ∨ x = s.contexts.length := by
  show x < (s.contexts ++ [_]).length ∧ (s.contexts ++ [_])[x]? ≠ some .freed ↔ _
  rw [List.length_append, List.length_singleton]
  rcases Nat.lt_trichotomy x s.contexts.length with hlt | rfl | hgt
  · rw [List.getElem?_append_left hlt, Alive, or_iff_left (Nat.ne_of_lt hlt)]
    exact and_congr_left fun _ => iff_of_true (by omega) hlt
  · refine iff_of_true ⟨by omega, ?_⟩ (Or.inr rfl)
    rw [List.getElem?_concat_length]
    cases attached <;> decide
  · refine iff_of_false (fun h => by omega) ?_
    rintro (halive | heq)
    · exact absurd halive.1 (by omega)
    · omega

/-! ### One event. -/

/-- **A command** is safe exactly if `m_ctx` is there. -/
theorem safe_redisAsyncCommand_iff (h : s.Safe) (type : RedisFetchCmdType) :
    (s.redisAsyncCommand type).Safe ↔ s.CtxAlive := by
  constructor
  · intro hsafe
    have hlive := hsafe.commands ⟨type, s.ctx, decide s.CtxAlive⟩
      (List.mem_append_right _ List.mem_cons_self)
    exact of_decide_eq_true hlive
  · intro halive
    refine ⟨fun command hmem => ?_, h.single⟩
    rcases List.mem_append.mp hmem with hmem | hmem
    · exact h.commands command hmem
    · rw [List.mem_singleton.mp hmem]
      exact decide_eq_true halive

/-- **Connecting** is safe exactly if the context before is gone. -/
theorem safe_asyncConnect_iff (h : s.Safe) (hknown : s.Known) (attached : Bool) :
    (s.asyncConnect attached).Safe ↔ ¬s.CtxAlive := by
  constructor
  · rintro hsafe ⟨id, hctx, halive⟩
    -- the old context is alive beside the new one
    have hold := hsafe.single id (alive_asyncConnect_iff.mpr (Or.inl halive))
    have hnew : s.contexts.length = id := Option.some.inj hold
    have hlt := hknown id hctx
    omega
  · intro hgone
    refine ⟨h.commands, fun id hid => ?_⟩
    rcases alive_asyncConnect_iff.mp hid with halive | rfl
    · exact absurd ⟨id, h.single id halive, halive⟩ hgone
    · rfl

theorem onConnect_true (s : CRedisMqServer) : s.onConnect true
    = (s.setConnected true).redisAsyncCommand
        (if s.passport.isEmpty then .redisCmdSelect else .redisCmdAuth) := by
  show (if !s.passport.isEmpty then (s.setConnected true).auth
    else (s.setConnected true).select) = _
  cases hempty : s.passport.isEmpty with
  | true => rfl
  | false =>
      show (s.setConnected true).auth = _
      rw [auth, if_neg (by show ¬s.passport.isEmpty = true; rw [hempty]; decide)]
      rfl

/-- A context that is freed, whatever the server did about it. -/
theorem safe_freed {t : CRedisMqServer} (h : s.Safe) {id : Nat}
    (hcontexts : t.contexts = s.contexts) (hctx : t.ctx = s.ctx)
    (hcommands : t.commands = s.commands) : (t.redisAsyncFree id).Safe := by
  refine h.congr (fun x hx => ?_) hctx hcommands
  have halive := (alive_redisAsyncFree hx).1
  rwa [Alive, hcontexts] at halive

/-- **One event** keeps the server safe exactly if it has the context it needs. -/
theorem safe_step_iff (h : s.Safe) (hknown : s.Known) (e : Event) (he : s.Enabled e) :
    (s.step e).Safe ↔ s.Needs e := by
  cases e with
  | connectResult id ok =>
      refine iff_of_true ?_ trivial
      cases ok with
      | false => exact safe_freed h rfl rfl rfl
      | true =>
          -- the context that connected is `m_ctx`, so the command goes to it
          obtain ⟨hctx, halive⟩ := h.ctx_eq he (by decide)
          have halive_iff : ∀ x, Alive { s with contexts := s.contexts.set id .connected } x
              ↔ s.Alive x := fun x => alive_set_iff (by decide) halive
          show (onConnect { s with contexts := s.contexts.set id .connected } true).Safe
          rw [onConnect_true]
          have hup : Safe (setConnected { s with contexts := s.contexts.set id .connected } true) :=
            h.congr (fun x => (halive_iff x).mp) rfl rfl
          exact (safe_redisAsyncCommand_iff hup _).mpr ⟨id, hctx, (halive_iff id).mpr halive⟩
  | disconnect id ok =>
      refine iff_of_true ?_ trivial
      cases ok <;> exact safe_freed h rfl rfl rfl
  | authReply id error =>
      refine iff_of_true ?_ trivial
      cases error with
      | true => exact h.congr (fun _ hx => hx) rfl rfl
      | false =>
          obtain ⟨hctx, halive⟩ := h.ctx_eq he (by decide)
          exact (safe_redisAsyncCommand_iff h _).mpr ⟨id, hctx, halive⟩
  | selectReply id error =>
      refine iff_of_true ?_ trivial
      cases error with
      | true => exact h.congr (fun _ hx => hx) rfl rfl
      | false => exact h
  | timer attached =>
      -- a connected client is left alone; otherwise the timer connects again
      show (onReconnectTimer { s with timer := s.timer.onTimer } attached).Safe
        ↔ s.bConnected = true ∨ ¬s.CtxAlive
      have hrest : Safe { s with timer := s.timer.onTimer } :=
        h.congr (fun _ hx => hx) rfl rfl
      unfold onReconnectTimer
      by_cases hup : s.bConnected = true
      · rw [if_pos hup]
        exact iff_of_true hrest (Or.inl hup)
      · rw [if_neg hup, safe_asyncConnect_iff hrest hknown attached]
        exact (or_iff_right hup).symm
  | rpushList => exact safe_redisAsyncCommand_iff h _

theorem known_step (hknown : s.Known) (e : Event) : (s.step e).Known := by
  -- only a new connection changes `m_ctx` or the number of contexts
  have hkeep : ∀ t : CRedisMqServer, t.contexts.length = s.contexts.length → t.ctx = s.ctx →
      t.Known := by
    intro t hlength hctx id hid
    rw [hlength]
    exact hknown id (hctx ▸ hid)
  cases e with
  | connectResult id ok =>
      cases ok with
      | false => exact hkeep _ (List.length_set ..) rfl
      | true =>
          show (onConnect { s with contexts := s.contexts.set id .connected } true).Known
          rw [onConnect_true]
          exact hkeep _ (List.length_set ..) rfl
  | disconnect id ok => cases ok <;> exact hkeep _ (List.length_set ..) rfl
  | authReply id error => cases error <;> exact hkeep _ rfl rfl
  | selectReply id error => cases error <;> exact hkeep _ rfl rfl
  | timer attached =>
      show (onReconnectTimer { s with timer := s.timer.onTimer } attached).Known
      unfold onReconnectTimer
      by_cases hup : s.bConnected = true
      · rw [if_pos hup]
        exact hkeep _ rfl rfl
      · rw [if_neg hup]
        intro id hid
        have hnew : s.contexts.length = id := Option.some.inj hid
        show id < (s.contexts ++ [_]).length
        rw [List.length_append, List.length_singleton]
        omega
  | rpushList => exact hkeep _ rfl rfl

/-- A context that was freed is not that of `m_ctx` any more. -/
theorem not_ctxAlive_freed {id : Nat} (hctx : s.ctx = some id) :
    ¬(s.redisAsyncFree id).CtxAlive := by
  rintro ⟨x, hx, halive⟩
  have hid : id = x := Option.some.inj (hctx.symm.trans hx)
  exact (alive_redisAsyncFree halive).2 hid.symm

end CRedisMqServer

/-! ## §5. Whole runs. -/

/-- A server, and whether its last connection failed or ended and the timer has
not expired since. -/
structure WatchedRedis where
  server : CRedisMqServer
  lost : Bool
  deriving DecidableEq, Repr

namespace WatchedRedis

open CRedisMqServer

/-- After `Init`.  If that failed, the only connection is over. -/
def init (passport : String) (attached : Bool) : WatchedRedis where
  server := .init passport attached
  lost := !attached

variable (w : WatchedRedis)

def step (w : WatchedRedis) (e : Event) : WatchedRedis where
  server := w.server.step e
  lost := match e with
    | .connectResult _ ok => w.lost || !ok
    | .disconnect _ _ => true
    | .timer _ => false
    | _ => w.lost

/-- The timer expires when the client is connected, or its last connection is
lost; and `RpushList` is not called while that is lost. -/
def Timely : Event → Prop
  | .timer _ => w.server.bConnected = true ∨ w.lost = true
  | .rpushList => w.lost = false
  | _ => True

instance : ∀ e, Decidable (w.Timely e)
  | .connectResult _ _ => inferInstanceAs (Decidable True)
  | .disconnect _ _ => inferInstanceAs (Decidable True)
  | .authReply _ _ => inferInstanceAs (Decidable True)
  | .selectReply _ _ => inferInstanceAs (Decidable True)
  | .timer _ => inferInstanceAs (Decidable (_ ∨ _))
  | .rpushList => inferInstanceAs (Decidable (_ = _))

/-- The server is safe, and its context is there as long as the last connection
is not lost. -/
structure Kept (w : WatchedRedis) : Prop where
  safe : w.server.Safe
  known : w.server.Known
  alive : w.server.CtxAlive ↔ w.lost = false
  up : w.server.bConnected = true → w.lost = false

variable {w}

theorem Kept.timely_iff (h : w.Kept) (e : Event) : w.server.Needs e ↔ w.Timely e := by
  cases e with
  | timer attached =>
      show _ ∨ ¬w.server.CtxAlive ↔ _ ∨ w.lost = true
      rw [h.alive, Bool.not_eq_false]
  | rpushList => exact h.alive
  | connectResult _ _ | disconnect _ _ | authReply _ _ | selectReply _ _ => exact Iff.rfl

/-- What is left when the last connection is over. -/
theorem Kept.of_lost (hsafe : w.server.Safe) (hknown : w.server.Known)
    (hgone : ¬w.server.CtxAlive) (hlost : w.lost = true) (hdown : w.server.bConnected = false) :
    w.Kept where
  safe := hsafe
  known := hknown
  alive := iff_of_false hgone (ne_of_eq_of_ne hlost (by decide))
  up hup := absurd (hdown.symm.trans hup) (by decide)

/-- **One event** that is timely keeps all of it. -/
theorem kept_step (h : w.Kept) {e : Event} (he : w.server.Enabled e) (htimely : w.Timely e) :
    (w.step e).Kept := by
  have hsafe := (safe_step_iff h.safe h.known e he).mpr ((h.timely_iff e).mpr htimely)
  have hknown := known_step h.known e
  cases e with
  | connectResult id ok =>
      -- the context is that of `m_ctx`, so the last connection is this one
      obtain ⟨hctx, halive⟩ := h.safe.ctx_eq he (by decide)
      cases ok with
      | true =>
          have hlost : (w.lost || false) = false := by
            rw [Bool.or_false]
            exact h.alive.mp ⟨id, hctx, halive⟩
          have hnow : (w.server.step (.connectResult id true)).CtxAlive := by
            show (onConnect { w.server with contexts := w.server.contexts.set id .connected }
              true).CtxAlive
            rw [onConnect_true]
            exact ⟨id, hctx, (alive_set_iff (by decide) halive).mpr halive⟩
          exact ⟨hsafe, hknown, iff_of_true hnow hlost, fun _ => hlost⟩
      | false =>
          exact .of_lost hsafe hknown (not_ctxAlive_freed (s := w.server.onConnect false) hctx)
            (Bool.or_true w.lost) rfl
  | disconnect id ok =>
      obtain ⟨hctx, -⟩ := h.safe.ctx_eq he (by decide)
      cases ok with
      | true =>
          exact .of_lost hsafe hknown (not_ctxAlive_freed (s := w.server.onDisconnect true) hctx)
            rfl rfl
      | false =>
          exact .of_lost hsafe hknown (not_ctxAlive_freed (s := w.server.onDisconnect false) hctx)
            rfl rfl
  | authReply id error =>
      cases error with
      | true => exact ⟨hsafe, hknown, h.alive, fun hup => nomatch hup⟩
      | false => exact ⟨hsafe, hknown, h.alive, h.up⟩
  | selectReply id error =>
      cases error with
      | true => exact ⟨hsafe, hknown, h.alive, fun hup => nomatch hup⟩
      | false => exact ⟨hsafe, hknown, h.alive, h.up⟩
  | timer attached =>
      -- it leaves a context that is there, the old one or a new one
      have hnow : (w.server.step (.timer attached)).CtxAlive := by
        show (onReconnectTimer { w.server with timer := w.server.timer.onTimer }
          attached).CtxAlive
        unfold onReconnectTimer
        by_cases hup : w.server.bConnected = true
        · rw [if_pos hup]
          exact h.alive.mpr (h.up hup)
        · rw [if_neg hup]
          exact ⟨_, rfl, alive_asyncConnect_iff.mpr (Or.inr rfl)⟩
      exact ⟨hsafe, hknown, iff_of_true hnow rfl, fun _ => rfl⟩
  | rpushList => exact ⟨hsafe, hknown, h.alive, h.up⟩

theorem init_kept (passport : String) (attached : Bool) : (init passport attached).Kept := by
  have hnone : Safe ⟨passport, none, false, .new, [], []⟩ :=
    ⟨fun _ hmem => absurd hmem List.not_mem_nil, fun id hid => absurd hid.1 (Nat.not_lt_zero id)⟩
  cases attached with
  | true =>
      have hfirst := (safe_asyncConnect_iff (s := ⟨passport, none, false, .new, [], []⟩) hnone
        (fun _ h => nomatch h) true).mpr fun halive => nomatch halive.choose_spec.1
      have hnow : (CRedisMqServer.init passport true).CtxAlive :=
        ⟨0, rfl, alive_asyncConnect_iff.mpr (Or.inr rfl)⟩
      refine ⟨hfirst.congr (fun _ hx => hx) rfl rfl, fun id hid => ?_, iff_of_true hnow rfl,
        fun _ => rfl⟩
      have hid : 0 = id := Option.some.inj hid
      subst hid
      exact Nat.zero_lt_one
  | false =>
      -- the only context is freed again
      refine .of_lost ⟨hnone.commands, fun id hid => ?_⟩ (fun _ h => nomatch h)
        (fun halive => nomatch halive.choose_spec.1) rfl rfl
      have hlt : id < 1 := hid.1
      obtain rfl : id = 0 := by omega
      exact absurd rfl hid.2

/-- Watching changes nothing. -/
theorem run_server (events : List Event) :
    ∀ w : WatchedRedis,
      (Runs.run step w events).server = Runs.run CRedisMqServer.step w.server events := by
  induction events with
  | nil => exact fun _ => rfl
  | cons e es ih => exact fun w => ih (w.step e)

/-- **When redis commands go to the one live context.**  From `Init` on, in
every order of connect results, disconnects, replies, timer expiries and calls
of `RpushList`: at every moment every command was issued on a context that was
not freed, and the one context that is not freed is `m_ctx`, exactly when the
timer expires only while the client is connected or after its last connection
is lost, and `RpushList` is not called between that loss and the next expiry. -/
theorem safe_iff (passport : String) (attached : Bool) (events : List Event)
    (henabled : Runs.Along CRedisMqServer.step Enabled (.init passport attached) events) :
    (∀ pre, pre <+: events →
        (Runs.run CRedisMqServer.step (.init passport attached) pre).Safe)
      ↔ Runs.Along step Timely (init passport attached) events := by
  have hinit := init_kept passport attached
  -- what the server allows, the watched one does
  have hwatched : Runs.Along step (fun w e => w.server.Enabled e) (init passport attached) events :=
    Runs.Along.transfer (R := fun w s => w.server = s)
      (fun _ _ e hws _ => congrArg (CRedisMqServer.step · e) hws)
      (fun _ _ _ hws he => hws ▸ he) rfl henabled
  rw [← Runs.always_iff_along (fun w : WatchedRedis => w.server.Safe) (J := Kept)
    (fun _ _ hw he hC => kept_step hw he hC)
    (fun _ e hw he => (safe_step_iff hw.safe hw.known e he).trans (hw.timely_iff e))
    hinit hinit.safe hwatched]
  exact forall_congr' fun pre => imp_congr_right fun _ => by rw [run_server]; rfl

/-- A connection that comes up, is lost, and is made again by the timer. -/
theorem safe_reconnect :
    let events : List Event := [.connectResult 0 true, .authReply 0 false, .timer true,
      .rpushList, .disconnect 0 false, .timer true, .connectResult 1 true, .rpushList]
    ∀ pre, pre <+: events →
      (Runs.run CRedisMqServer.step (.init "secret" true) pre).Safe := by
  intro events
  exact (safe_iff "secret" true events (by decide +kernel)).mpr (by decide +kernel)

/-- Subscribing right after a failed connect, and the timer of `Init` during a
connect that takes longer than its second. -/
theorem not_safe_after_failure :
    let run := Runs.run CRedisMqServer.step (.init "" true)
    let refused : List Event := [.connectResult 0 false, .rpushList]
    let slow : List Event := [.timer true]
    Runs.Along CRedisMqServer.step Enabled (.init "" true) refused
      ∧ ¬(∀ command ∈ (run refused).commands, command.live = true)
      ∧ Runs.Along CRedisMqServer.step Enabled (.init "" true) slow
      ∧ (run slow).Alive 0
      ∧ (run slow).Alive 1 := by
  decide +kernel

end WatchedRedis

end MultiProcessServer
