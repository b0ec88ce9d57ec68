/-
  MultiProcessServer.Core.OutgoingStream
  ──────────────────────────────────────
  What stands on the socket of a session that was sent frames, one call after
  the other, as long as it could be written to.
-/
import MultiProcessServer.Core.TcpSession

namespace MultiProcessServer.TcpSession

/-! ## §1. What is written stays. -/

theorem written_sendBuffer (s : TcpSession) (buffer : List UInt8) :
    s.written <+: (s.sendBuffer buffer).2.written := by
  unfold sendBuffer
  split
  · exact List.prefix_append _ _
  · exact List.prefix_refl _
  · exact List.prefix_refl _

theorem written_flush (pending : List (List UInt8)) : ∀ s : TcpSession,
    s.written <+: (flush pending s).written := by
  induction pending with
  | nil => exact fun s => List.prefix_refl s.written
  | cons str rest ih =>
      intro s
      have hsent := s.written_sendBuffer str
      unfold flush
      split
      next n s' hsend =>
        rw [hsend] at hsent
        split
        · exact hsent
        · exact hsent.trans (ih s')
      next s' _ hsend =>
        rw [hsend] at hsent
        exact hsent

theorem written_transmitNow (s : TcpSession) (frame : List UInt8) :
    s.written <+: (s.transmitNow frame).2.written := by
  have hsent := s.written_sendBuffer frame
  unfold transmitNow
  split
  next n s' hsend =>
    rw [hsend] at hsent
    split <;> exact hsent
  next s' hsend =>
    rw [hsend] at hsent
    exact hsent
  next s' hsend =>
    rw [hsend] at hsent
    exact hsent

/-- **A send adds to what is written.** -/
theorem written_transmit (s : TcpSession) (frame : List UInt8) :
    s.written <+: (s.transmit frame).2.written := by
  have hflushed := written_flush s.pendingBufferList s
  unfold transmit
  split
  · exact s.written_transmitNow frame
  · simp only [sendPendingBuffer]
    split
    next s' hempty =>
      obtain ⟨-, rfl⟩ := Prod.mk.inj hempty
      exact hflushed.trans (written_transmitNow _ frame)
    next s' hpending =>
      obtain ⟨-, rfl⟩ := Prod.mk.inj hpending
      split <;> exact hflushed

/-! ## §2. What it is. -/

/-- What is written is a beginning of the frames; as long as the session can be
written to, what is written and what is pending are the frames. -/
structure Carries (s : TcpSession) (frames : List (List UInt8)) : Prop where
  begins : s.written <+: frames.flatten
  whole : s.isCanWrite = true → s.written ++ s.pendingBufferList.flatten = frames.flatten

variable {s : TcpSession} {frames : List (List UInt8)}

/-- A session fresh from `Init` carries nothing. -/
theorem carries_init (socket : List SockResult) : (init socket).Carries [] where
  begins := List.prefix_refl _
  whole _ := rfl

/-- **One more frame.** -/
theorem Carries.transmit (h : s.Carries frames) (hcan : s.isCanWrite = true)
    (frame : List UInt8) : (s.transmit frame).2.Carries (frames ++ [frame]) := by
  generalize htransmit : s.transmit frame = answer
  obtain ⟨ok, t⟩ := answer
  obtain ⟨-, hok, htotal⟩ := transmit_spec hcan htransmit
  have hbefore : s.total = frames.flatten := h.whole hcan
  have hbegins : t.written <+: t.total := List.prefix_append _ _
  have hafter : (frames ++ [frame]).flatten = frames.flatten ++ frame := by simp
  rw [hbefore] at htotal
  cases ok with
  | true =>
      rw [if_pos rfl, ← hafter] at htotal
      exact ⟨htotal ▸ hbegins, fun _ => htotal⟩
  | false =>
      -- the frame was refused: the session is given up
      rw [if_neg Bool.false_ne_true] at htotal
      refine ⟨?_, fun hcan' => absurd (hok.symm.trans hcan') Bool.false_ne_true⟩
      rw [hafter]
      exact (htotal ▸ hbegins).trans (List.prefix_append _ _)

end MultiProcessServer.TcpSession
