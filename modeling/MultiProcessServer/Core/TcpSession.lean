/-
  MultiProcessServer.Core.TcpSession
  ──────────────────────────────────
  The sending half of `core/tcp/TcpSession`: `SendBuffer`, the list of
  pending fragments and `SendPendingBuffer`.

  What the socket will answer is a script (`List SockResult`), and the bytes
  it has taken are recorded (`written`), so a statement about every script
  is a statement about every behaviour of the network.

  Main result: `transmitAll_spec`, the byte stream of a session that sends
  one frame after the other.  Both senders of the program are shown to be
  `transmit` in the modules that model them.
-/
import Mathlib.Tactic.Common
import Mathlib.Data.List.Basic

namespace MultiProcessServer

/-! ## §1. Sockets. -/

/-- One answer of `send`: so many bytes taken (at most as many as offered),
or `-1` with one of three kinds of `errno`. -/
inductive SockResult where
  | wrote (n : Nat)
  | eintr
  /-- `EAGAIN` or `EWOULDBLOCK`. -/
  | eagain
  | hardError
  deriving DecidableEq, Repr

/-- What `SendBuffer` returns: the bytes written, or `-1` with `nerrno`. -/
inductive SendResult where
  | written (n : Nat)
  | eagain
  | error
  deriving DecidableEq, Repr

/-- The fields of `TcpSession` its sending half uses, the script of its
socket and the bytes the socket has taken. -/
structure TcpSession where
  socket : List SockResult
  written : List UInt8
  bFdCanWrite : Bool
  pendingBufferList : List (List UInt8)
  deriving DecidableEq, Repr

namespace TcpSession

/-- A session after a successful `Init`. -/
def init (socket : List SockResult) : TcpSession where
  socket := socket
  written := []
  bFdCanWrite := true
  pendingBufferList := []

variable (s : TcpSession)

def isCanWrite : Bool := s.bFdCanWrite

def emptyPendingBuffer : Bool := s.pendingBufferList.isEmpty

def pushBackPendingBuffer (buffer : List UInt8) : TcpSession :=
  { s with pendingBufferList := s.pendingBufferList ++ [buffer] }

/-! ## §2. Sending. -/

/-- The `do … while (nwritten < 0 && nerrno == EINTR)` loop of `SendBuffer`
for a buffer of `len` bytes.  A script that has ended goes on with
`EAGAIN`. -/
def sendLoop (len : Nat) : List SockResult → SendResult × List SockResult
  | [] => (.eagain, [])
  | .eintr :: script => sendLoop len script
  | .wrote n :: script => (.written (min n len), script)
  | .eagain :: script => (.eagain, script)
  | .hardError :: script => (.error, script)

/-- `SendBuffer(buffer, len, nerrno)`. -/
def sendBuffer (buffer : List UInt8) : SendResult × TcpSession :=
  match sendLoop buffer.length s.socket with
  | (.written n, socket) =>
      (.written n, { s with socket := socket, written := s.written ++ buffer.take n })
  | (.eagain, socket) => (.eagain, { s with socket := socket })
  | (.error, socket) => (.error, { s with socket := socket, bFdCanWrite := false })

/-- The loop of `SendPendingBuffer` over the fragments still queued. -/
def flush : List (List UInt8) → TcpSession → TcpSession
  | [], s => { s with pendingBufferList := [] }
  | str :: rest, s =>
      match s.sendBuffer str with
      | (.written n, s') =>
          if n < str.length then { s' with pendingBufferList := str.drop n :: rest }
          else flush rest s'
      | (_, s') => { s' with pendingBufferList := str :: rest }

/-- `SendPendingBuffer`. -/
def sendPendingBuffer : Bool × TcpSession :=
  let s' := flush s.pendingBufferList s
  (s'.emptyPendingBuffer, s')

/-- Sending a frame when nothing is pending: what does not go out is
queued. -/
def transmitNow (frame : List UInt8) : Bool × TcpSession :=
  match s.sendBuffer frame with
  | (.written n, s') =>
      if n < frame.length then (true, s'.pushBackPendingBuffer (frame.drop n)) else (true, s')
  | (.eagain, s') => (true, s'.pushBackPendingBuffer frame)
  | (.error, s') => (false, s')

/-- What `Subscriber::SendMsg` and `PcSession::SendPacket` have in common:
pending fragments go first; the answer says whether the frame was taken. -/
def transmit (frame : List UInt8) : Bool × TcpSession :=
  if s.emptyPendingBuffer then s.transmitNow frame
  else
    match s.sendPendingBuffer with
    | (true, s') => s'.transmitNow frame
    | (false, s') =>
        if s'.isCanWrite then (true, s'.pushBackPendingBuffer frame) else (false, s')

/-- One frame after the other, as long as `IsCanWrite()` holds, with the
answers of the calls that were made. -/
def transmitAll : TcpSession → List (List UInt8) → List Bool × TcpSession
  | s, [] => ([], s)
  | s, frame :: frames =>
      if s.isCanWrite then
        let (ok, s) := s.transmit frame
        let (oks, s) := transmitAll s frames
        (ok :: oks, s)
      else ([], s)

/-! ## §3. What one send can do. -/

/-- The bytes a session has committed itself to: those written and those
pending. -/
def total : List UInt8 := s.written ++ s.pendingBufferList.flatten

variable {s} {s' s'' : TcpSession}

/-- `s'` is a later state of `s`: part of the script was consumed, and the
session is writable exactly as long as no hard error was among it. -/
def After (s s' : TcpSession) : Prop :=
  ∃ used, s.socket = used ++ s'.socket
    ∧ (s'.bFdCanWrite = true ↔ s.bFdCanWrite = true ∧ SockResult.hardError ∉ used)

theorem After.refl (s : TcpSession) : After s s := ⟨[], rfl, by simp⟩

theorem After.trans (h : After s s') (h' : After s' s'') : After s s'' := by
  obtain ⟨used, hsock, hcan⟩ := h
  obtain ⟨used', hsock', hcan'⟩ := h'
  refine ⟨used ++ used', by rw [hsock, hsock', List.append_assoc], ?_⟩
  rw [hcan', hcan, List.mem_append, not_or, and_assoc]

/-- Changing only the queue. -/
theorem After.queue (h : After s s') (pending : List (List UInt8)) :
    After s { s' with pendingBufferList := pending } := h

/-- What the loop consumes: interruptions and then the answer. -/
theorem sendLoop_spec (len : Nat) (script : List SockResult) :
    ∃ used, script = used ++ (sendLoop len script).2
      ∧ (SockResult.hardError ∈ used ↔ (sendLoop len script).1 = .error)
      ∧ ∀ n, (sendLoop len script).1 = .written n → n ≤ len := by
  -- interruptions are consumed; any other answer ends the loop
  induction script with
  | nil => exact ⟨[], by simp [sendLoop]⟩
  | cons r script ih =>
      cases r with
      | eintr =>
          obtain ⟨used, hscript, herror, hle⟩ := ih
          refine ⟨.eintr :: used, ?_, ?_, hle⟩
          · unfold sendLoop
            rw [List.cons_append, ← hscript]
          · simpa [sendLoop] using herror
      | wrote n =>
          refine ⟨[.wrote n], rfl, by simp [sendLoop], ?_⟩
          intro m hm
          simp only [sendLoop, SendResult.written.injEq] at hm
          omega
      | eagain => exact ⟨[.eagain], rfl, by simp [sendLoop], by simp [sendLoop]⟩
      | hardError => exact ⟨[.hardError], rfl, by simp [sendLoop], by simp [sendLoop]⟩

/-- **`SendBuffer`**: a prefix of the buffer goes out, the queue is left
alone, and exactly a hard error makes the session unwritable. -/
theorem sendBuffer_spec {buffer : List UInt8} {r : SendResult}
    (h : s.sendBuffer buffer = (r, s')) :
    After s s' ∧ s'.pendingBufferList = s.pendingBufferList
      ∧ match r with
        | .written n => n ≤ buffer.length ∧ s'.written = s.written ++ buffer.take n
            ∧ s'.bFdCanWrite = s.bFdCanWrite
        | .eagain => s'.written = s.written ∧ s'.bFdCanWrite = s.bFdCanWrite
        | .error => s'.written = s.written ∧ s'.bFdCanWrite = false := by
  obtain ⟨used, hscript, herror, hle⟩ := sendLoop_spec buffer.length s.socket
  unfold sendBuffer at h
  split at h
  next n socket heq =>
      injection h with hr hs
      subst hr hs
      rw [heq] at hscript herror hle
      refine ⟨⟨used, hscript, ?_⟩, rfl, hle n rfl, rfl, rfl⟩
      simp [herror]
  next socket heq =>
      injection h with hr hs
      subst hr hs
      rw [heq] at hscript herror
      refine ⟨⟨used, hscript, ?_⟩, rfl, rfl, rfl⟩
      simp [herror]
  next socket heq =>
      injection h with hr hs
      subst hr hs
      rw [heq] at hscript herror
      refine ⟨⟨used, hscript, ?_⟩, rfl, rfl, rfl⟩
      simp [herror]

/-- The flush moves bytes from the queue to the socket, in order; it empties
the queue only if no error stopped it. -/
theorem flush_spec (pending : List (List UInt8)) (s : TcpSession) :
    After s (flush pending s)
      ∧ (flush pending s).total = s.written ++ pending.flatten
      ∧ ((flush pending s).pendingBufferList = [] →
          (flush pending s).bFdCanWrite = s.bFdCanWrite) := by
  -- over the fragments: each is written whole before the next is tried
  induction pending generalizing s with
  | nil => exact ⟨After.queue (.refl s) [], rfl, fun _ => rfl⟩
  | cons str rest ih =>
      unfold flush
      split
      next n s₁ hsend =>
          obtain ⟨hafter, -, hle, hwritten, hcan⟩ := sendBuffer_spec hsend
          split
          next hlt =>
              refine ⟨hafter.queue _, ?_, by simp⟩
              simp only [total, hwritten, List.flatten_cons, List.append_assoc]
              rw [← List.append_assoc (str.take n), List.take_append_drop]
          next hge =>
              obtain ⟨hafter', htotal, hcan'⟩ := ih s₁
              refine ⟨hafter.trans hafter', ?_, fun hnil => (hcan' hnil).trans hcan⟩
              rw [htotal, hwritten, List.take_of_length_le (Nat.le_of_not_lt hge),
                List.flatten_cons, List.append_assoc]
      next r s₁ hne hsend =>
          obtain ⟨hafter, -, hr⟩ := sendBuffer_spec hsend
          refine ⟨hafter.queue _, ?_, by simp⟩
          have hwritten : s₁.written = s.written := by
            cases r with
            | written n => exact absurd rfl (hne n)
            | eagain => exact hr.1
            | error => exact hr.1
          simp only [total, hwritten]

/-- Queueing a frame behind everything already committed. -/
theorem total_pushBack (frame : List UInt8) :
    (s.pushBackPendingBuffer frame).total = s.total ++ frame := by
  simp [total, pushBackPendingBuffer]

theorem transmitNow_spec {frame : List UInt8} {ok : Bool}
    (hempty : s.pendingBufferList = []) (hcan : s.bFdCanWrite = true)
    (h : s.transmitNow frame = (ok, s')) :
    After s s' ∧ s'.bFdCanWrite = ok
      ∧ s'.total = if ok then s.total ++ frame else s.total := by
  unfold transmitNow at h
  -- the answer of the one `send`: some bytes, later, or an error
  split at h
  next n s₁ hsend =>
      obtain ⟨hafter, hpending, hle, hwritten, hcan'⟩ := sendBuffer_spec hsend
      split at h
      next hlt =>
          injection h with hok hs
          subst hok hs
          refine ⟨hafter.queue _, hcan'.trans hcan, ?_⟩
          rw [total_pushBack]
          simp [total, hwritten, hpending, hempty]
      next hge =>
          injection h with hok hs
          subst hok hs
          refine ⟨hafter, hcan'.trans hcan, ?_⟩
          simp [total, hwritten, hpending, hempty,
            List.take_of_length_le (Nat.le_of_not_lt hge)]
  next s₁ hsend =>
      obtain ⟨hafter, hpending, hwritten, hcan'⟩ := sendBuffer_spec hsend
      injection h with hok hs
      subst hok hs
      refine ⟨hafter.queue _, hcan'.trans hcan, ?_⟩
      rw [total_pushBack]
      simp [total, hwritten, hpending]
  next s₁ hsend =>
      obtain ⟨hafter, hpending, hwritten, hcan'⟩ := sendBuffer_spec hsend
      injection h with hok hs
      subst hok hs
      exact ⟨hafter, hcan', by simp [total, hwritten, hpending]⟩

/-- **One frame**: taken whole behind everything committed before, or
refused without a byte of it, and refused exactly when the session stopped
being writable. -/
theorem transmit_spec {frame : List UInt8} {ok : Bool} (hcan : s.bFdCanWrite = true)
    (h : s.transmit frame = (ok, s')) :
    After s s' ∧ s'.bFdCanWrite = ok
      ∧ s'.total = if ok then s.total ++ frame else s.total := by
  unfold transmit at h
  split at h
  next hempty =>
      exact transmitNow_spec (List.isEmpty_iff.mp hempty) hcan h
  next hne =>
      obtain ⟨hafter, htotal, hflush⟩ := flush_spec s.pendingBufferList s
      -- what is pending goes first; the frame follows only if all of it went out
      have htotal' : (flush s.pendingBufferList s).total = s.total := htotal
      simp only [sendPendingBuffer] at h
      split at h
      next s₁ heq =>
          injection heq with hempty hs
          subst hs
          have hpending := List.isEmpty_iff.mp hempty
          obtain ⟨hafter', hok, htot⟩ :=
            transmitNow_spec hpending ((hflush hpending).trans hcan) h
          exact ⟨hafter.trans hafter', hok, by rw [htot, htotal']⟩
      next s₁ heq =>
          injection heq with hempty hs
          subst hs
          split at h
          next hcan₁ =>
              injection h with hok hs
              subst hok hs
              refine ⟨hafter.queue _, hcan₁, ?_⟩
              rw [total_pushBack, htotal']
              rfl
          next hcan₁ =>
              injection h with hok hs
              subst hok hs
              refine ⟨hafter, by simpa [isCanWrite] using hcan₁, ?_⟩
              rw [htotal']
              rfl

/-- **The byte stream of a session.**  The first `k` frames are exactly what
is written or pending.  While the session is writable these are all frames;
otherwise the next one met the hard error, was refused, and was the last
one tried. -/
theorem transmitAll_spec (frames : List (List UInt8)) (s : TcpSession)
    (hcan : s.bFdCanWrite = true) :
    ∃ k, After s (s.transmitAll frames).2
      ∧ (s.transmitAll frames).2.total = s.total ++ (frames.take k).flatten
      ∧ ((s.transmitAll frames).2.bFdCanWrite = true →
          k = frames.length ∧ (s.transmitAll frames).1 = List.replicate k true)
      ∧ ((s.transmitAll frames).2.bFdCanWrite = false →
          k < frames.length
            ∧ (s.transmitAll frames).1 = List.replicate k true ++ [false]) := by
  -- over the frames: `k` counts those taken before the first refusal
  induction frames generalizing s with
  | nil => exact ⟨0, .refl s, by simp [transmitAll], fun _ => ⟨rfl, rfl⟩, by
      simp [transmitAll, hcan]⟩
  | cons frame frames ih =>
      generalize htr : s.transmit frame = answer
      obtain ⟨ok, s₁⟩ := answer
      obtain ⟨hafter, hok, htotal⟩ := transmit_spec hcan htr
      have hrun : s.transmitAll (frame :: frames)
          = (ok :: (s₁.transmitAll frames).1, (s₁.transmitAll frames).2) := by
        rw [transmitAll, isCanWrite, if_pos hcan, htr]
      rw [hrun]
      cases ok with
      | true =>
          obtain ⟨k, hafter', htot, hall, hpart⟩ := ih s₁ hok
          refine ⟨k + 1, hafter.trans hafter', ?_, ?_, ?_⟩
          · rw [htot, htotal, if_pos rfl, List.take_succ_cons, List.flatten_cons,
              List.append_assoc]
          · intro h
            obtain ⟨hk, hanswers⟩ := hall h
            exact ⟨by rw [hk, List.length_cons], by rw [hanswers, List.replicate_succ]⟩
          · intro h
            obtain ⟨hk, hanswers⟩ := hpart h
            refine ⟨Nat.succ_lt_succ hk, ?_⟩
            rw [hanswers, List.replicate_succ, List.cons_append]
      | false =>
          -- no further call is made on an unwritable session
          have hstop : s₁.transmitAll frames = ([], s₁) := by
            cases frames with
            | nil => rfl
            | cons f fs => rw [transmitAll, isCanWrite, hok, if_neg (by simp)]
          rw [hstop]
          refine ⟨0, hafter, ?_, ?_, fun _ => ⟨Nat.succ_pos _, rfl⟩⟩
          · rw [htotal]
            simp
          · intro h
            rw [hok] at h
            exact absurd h (by simp)

end TcpSession

end MultiProcessServer
