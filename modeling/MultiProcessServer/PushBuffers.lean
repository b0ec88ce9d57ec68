/-
  MultiProcessServer.PushBuffers
  ──────────────────────────────
  `PushBuffer` of the two stream decoders, `ipc::decoder_t` and
  `jt1078::decoder_t`, from every state of the buffer in which
  `m_read_index <= size <= capacity`: whichever of the four branches runs, the
  input is appended to the unread bytes or the decoder stays as it is.

  Nothing is assumed about the capacities the allocator chooses beyond the laws
  of `StringAlloc`, and nothing about how much of the stored data was consumed.

  Main result: `pushBuffer_appends_or_rejects`.
-/
import MultiProcessServer.Core.IpcPktDecoder
import MultiProcessServer.Jt1078Server.Jt1078Decoder

namespace MultiProcessServer

/-! ## §1. The buffer. -/

namespace Buffer

/-- `m_read_index <= m_buffer.size() <= m_buffer.capacity()`. -/
structure Sound (b : Buffer) : Prop where
  readIndex_le : b.readIndex ≤ b.buffer.length
  length_le : b.buffer.length ≤ b.capacity

variable {a : StringAlloc} {b : Buffer}

theorem new_sound : (new a).Sound := ⟨Nat.zero_le _, Nat.zero_le _⟩

theorem Sound.autoRemove (h : b.Sound) : b.autoRemove.Sound := by
  refine ⟨Nat.zero_le _, ?_⟩
  have hle := h.length_le
  simp only [Buffer.autoRemove, List.length_drop]
  omega

theorem Sound.reserve (h : b.Sound) (n : Nat) : (b.reserve a n).Sound :=
  ⟨h.readIndex_le, Nat.le_trans h.length_le (a.reserve_grows _ _)⟩

theorem Sound.append (h : b.Sound) (data : List UInt8) : (b.append a data).Sound := by
  constructor
  · show b.readIndex ≤ (b.buffer ++ data).length
    rw [List.length_append]
    exact Nat.le_add_right_of_le h.readIndex_le
  · show (b.buffer ++ data).length ≤ a.append b.capacity (b.buffer.length + data.length)
    rw [List.length_append]
    exact a.le_append _ _

/-- What an accepted `PushBuffer` does to the buffer. -/
theorem pushBuffer_of_fits (h : b.Sound) {data : List UInt8}
    (hfit : data.length + b.readableBytes ≤ MAX_BUFFER_SIZE) :
    ∃ b', b.pushBuffer a data = some b' ∧ b'.Sound
      ∧ b'.getBuffer = b.getBuffer ++ data :=
  pushBuffer_rule Sound.readIndex_le Sound.autoRemove (fun n h => h.reserve n)
    (fun data h => h.append data) h hfit

end Buffer

/-! ## §2. What a call may change. -/

/-- The part of a decoder `PushBuffer` is about: its buffer, and the read
status and `m_howmuch`, which belong to the parser. -/
structure PushView (σ : Type) where
  buffer : Buffer
  readStatus : σ
  howmuch : Nat

def Ipc.Decoder.pushView (d : Ipc.Decoder) : PushView Ipc.ReadStatus :=
  ⟨d.buffer, d.readStatus, d.howmuch⟩

def Jt1078.Decoder.pushView (d : Jt1078.Decoder) : PushView Jt1078.ReadStatus :=
  ⟨d.buffer, d.readStatus, d.howmuch⟩

/-- The outcome of `PushBuffer(data)` on a decoder: `full` and `accepted` say
which of the two codes was returned. -/
structure AppendsOrRejects {σ : Type} (data : List UInt8) (full accepted : Prop)
    (before after : PushView σ) : Prop where
  /-- `kBufferFull` exactly for what would exceed `MAX_BUFFER_SIZE`. -/
  full_iff : full ↔ Buffer.MAX_BUFFER_SIZE < before.buffer.readableBytes + data.length
  accepted_iff : accepted ↔ ¬ full
  rejects : full → after = before
  appends : accepted → after.buffer.getBuffer = before.buffer.getBuffer ++ data
  readStatus_eq : after.readStatus = before.readStatus
  howmuch_eq : after.howmuch = before.howmuch
  /-- The next call finds the buffer in such a state again. -/
  sound : after.buffer.Sound

/-- The two copies of the function are this one: the decoder takes over the
buffer it gets from `Buffer.pushBuffer`, or returns `kBufferFull`. -/
theorem AppendsOrRejects.of_pushBuffer {σ : Type} {a : StringAlloc} {data : List UInt8}
    {full accepted : Prop} {before after : PushView σ} (h : before.buffer.Sound)
    (hnone : before.buffer.pushBuffer a data = none →
      full ∧ ¬ accepted ∧ after = before)
    (hsome : ∀ b', before.buffer.pushBuffer a data = some b' →
      ¬ full ∧ accepted ∧ after = { before with buffer := b' }) :
    AppendsOrRejects data full accepted before after := by
  by_cases hfit : data.length + before.buffer.readableBytes ≤ Buffer.MAX_BUFFER_SIZE
  · obtain ⟨b', heq, hsound, hunread⟩ := Buffer.pushBuffer_of_fits (a := a) h hfit
    obtain ⟨hfull, hacc, hafter⟩ := hsome b' heq
    subst hafter
    refine ⟨⟨fun hf => absurd hf hfull, fun hlt => ?_⟩, ⟨fun _ => hfull, fun _ => hacc⟩,
      fun hf => absurd hf hfull, fun _ => hunread, rfl, rfl, hsound⟩
    rw [Nat.add_comm] at hlt
    exact absurd hlt (Nat.not_lt.mpr hfit)
  · have hlt := Nat.lt_of_not_le hfit
    obtain ⟨hfull, hacc, hafter⟩ := hnone ((Buffer.pushBuffer_eq_none_iff data).mpr hlt)
    subst hafter
    rw [Nat.add_comm] at hlt
    exact ⟨⟨fun _ => hlt, fun _ => hfull⟩, ⟨fun ha => absurd ha hacc, fun hf => absurd hfull hf⟩,
      fun _ => rfl, fun ha => absurd ha hacc, rfl, rfl, h⟩

/-! ## §3. The two decoders. -/

/-- What a call on the packets' decoder leaves of it, and the same for the
cars' decoder below. -/
theorem Ipc.Decoder.pushBuffer_view (a : StringAlloc) (d : Ipc.Decoder) (data : List UInt8)
    (h : d.buffer.Sound) :
    AppendsOrRejects data ((d.pushBuffer a data).1 = .kBufferFull)
      ((d.pushBuffer a data).1 = .kNoError) d.pushView (d.pushBuffer a data).2.pushView := by
  refine .of_pushBuffer (a := a) h ?_ ?_
  · intro hnone
    have heq : d.pushBuffer a data = (.kBufferFull, d) := by
      rw [pushBuffer, show d.buffer.pushBuffer a data = none from hnone]
    rw [heq]
    exact ⟨rfl, fun h => (by cases h), rfl⟩
  · intro b' hsome
    have heq : d.pushBuffer a data = (.kNoError, { d with buffer := b' }) := by
      rw [pushBuffer, show d.buffer.pushBuffer a data = some b' from hsome]
    rw [heq]
    exact ⟨fun h => (by cases h), rfl, rfl⟩

theorem Jt1078.Decoder.pushBuffer_view (a : StringAlloc) (d : Jt1078.Decoder)
    (data : List UInt8) (h : d.buffer.Sound) :
    AppendsOrRejects data ((d.pushBuffer a data).1 = .kBufferFull)
      ((d.pushBuffer a data).1 = .kNoError) d.pushView (d.pushBuffer a data).2.pushView := by
  refine .of_pushBuffer (a := a) h ?_ ?_
  · intro hnone
    have heq : d.pushBuffer a data = (.kBufferFull, d) := by
      rw [pushBuffer, show d.buffer.pushBuffer a data = none from hnone]
    rw [heq]
    exact ⟨rfl, fun h => (by cases h), rfl⟩
  · intro b' hsome
    have heq : d.pushBuffer a data = (.kNoError, { d with buffer := b' }) := by
      rw [pushBuffer, show d.buffer.pushBuffer a data = some b' from hsome]
    rw [heq]
    exact ⟨fun h => (by cases h), rfl, rfl⟩

/-- **`PushBuffer` appends or rejects, nothing else**, in both decoders: from
every sound state of the buffer and for every input, `kBufferFull` is returned
exactly when the unread bytes and the input exceed `MAX_BUFFER_SIZE`, and then
the decoder is as it was; otherwise `kNoError` is, and the unread bytes are the
old ones followed by the input. -/
theorem pushBuffer_appends_or_rejects (a : StringAlloc) (data : List UInt8) :
    (∀ d : Ipc.Decoder, d.buffer.Sound →
      AppendsOrRejects data ((d.pushBuffer a data).1 = .kBufferFull)
        ((d.pushBuffer a data).1 = .kNoError) d.pushView (d.pushBuffer a data).2.pushView)
    ∧ (∀ d : Jt1078.Decoder, d.buffer.Sound →
      AppendsOrRejects data ((d.pushBuffer a data).1 = .kBufferFull)
        ((d.pushBuffer a data).1 = .kNoError) d.pushView (d.pushBuffer a data).2.pushView) :=
  ⟨fun d h => d.pushBuffer_view a data h, fun d h => d.pushBuffer_view a data h⟩

/-- Two of three stored bytes consumed and no room left: the second branch
compacts. -/
def consumedBuffer : Buffer where
  buffer := [1, 2, 3]
  capacity := 3
  readIndex := 2

theorem consumedBuffer_sound : consumedBuffer.Sound := ⟨by decide, by decide⟩

theorem pushBuffer_appends_consumed :
    (({ Ipc.Decoder.new .libstdcxx with buffer := consumedBuffer }.pushBuffer .libstdcxx
        [8, 9]).2.buffer.getBuffer = [3, 8, 9])
    ∧ (({ Jt1078.Decoder.new .libstdcxx with buffer := consumedBuffer }.pushBuffer .libstdcxx
        [8, 9]).2.buffer.getBuffer = [3, 8, 9]) :=
  ⟨((pushBuffer_appends_or_rejects .libstdcxx [8, 9]).1
      { Ipc.Decoder.new .libstdcxx with buffer := consumedBuffer } consumedBuffer_sound).appends
      (by decide),
    ((pushBuffer_appends_or_rejects .libstdcxx [8, 9]).2
      { Jt1078.Decoder.new .libstdcxx with buffer := consumedBuffer }
      consumedBuffer_sound).appends (by decide)⟩

end MultiProcessServer
