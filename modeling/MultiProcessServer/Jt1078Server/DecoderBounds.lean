/-
  MultiProcessServer.Jt1078Server.DecoderBounds
  ─────────────────────────────────────────────
  What a car can make its decoder keep: the unread bytes, the read cursor and
  `m_body`, for every stream and every way it is cut into reads of at most
  `MAX_SIZE_ONCE_READ` bytes, malformed headers included.

  A stage of the parser consumes what it has checked is there, and the body is
  awaited only after its length was found to be `JT1078_MAX_LENGTH` at most.
  `CarSession` is dropped at the first error it reports.

  Main result: `car_decoder_bounded`.
-/
import MultiProcessServer.Jt1078Server.Jt1078Stream

namespace MultiProcessServer.Jt1078

open StreamParser

namespace Decoder

variable {a : StringAlloc} {d : Decoder}

/-! ## §1. What a stage consumes. -/

/-- From `d` to `d'` bytes were read that were there, and nothing else of the
parser has moved. -/
structure Consumed (d d' : Decoder) : Prop where
  buffer_eq : ∃ k, k ≤ d.buffer.readableBytes ∧ d'.buffer = d.buffer.skip k
  body_eq : d'.body = d.body
  howmuch_eq : d'.howmuch = d.howmuch
  readStatus_eq : d'.readStatus = d.readStatus

theorem Consumed.refl (d : Decoder) : Consumed d d :=
  ⟨⟨0, Nat.zero_le _, rfl⟩, rfl, rfl, rfl⟩

theorem Consumed.of_skip {k : Nat} (hk : k ≤ d.buffer.readableBytes) (header : Header) :
    Consumed d { d with buffer := d.buffer.skip k, header := header } :=
  ⟨⟨k, hk, rfl⟩, rfl, rfl, rfl⟩

theorem Consumed.trans {d₁ d₂ : Decoder} (h₁ : Consumed d d₁) (h₂ : Consumed d₁ d₂) :
    Consumed d d₂ := by
  obtain ⟨k₁, hk₁, hb₁⟩ := h₁.buffer_eq
  obtain ⟨k₂, hk₂, hb₂⟩ := h₂.buffer_eq
  refine ⟨⟨k₁ + k₂, ?_, ?_⟩, h₂.body_eq.trans h₁.body_eq, h₂.howmuch_eq.trans h₁.howmuch_eq,
    h₂.readStatus_eq.trans h₁.readStatus_eq⟩
  · rw [hb₁, Buffer.readableBytes_skip] at hk₂
    omega
  · rw [hb₂, hb₁, Buffer.skip_skip]

theorem Consumed.wf {d' : Decoder} (h : Consumed d d') (hwf : d.buffer.WF) : d'.buffer.WF := by
  obtain ⟨k, hk, hb⟩ := h.buffer_eq
  rw [hb]
  exact hwf.skip hk

/-- **The first header stage**, whichever field makes it give up. -/
theorem parseHeaderStep1_consumed (hwf : d.buffer.WF)
    (hmuch : d.howmuch = READ_SIZE_FOR_HEADER_FIRST) :
    Consumed d d.parseHeaderStep1.2
      ∧ (d.parseHeaderStep1.1 = .kNeedMoreData → d.buffer.readableBytes < 16) := by
  unfold parseHeaderStep1
  split
  next hlt =>
      rw [hmuch] at hlt
      exact ⟨.refl d, fun _ => hlt⟩
  next hle =>
      rw [hmuch, READ_SIZE_FOR_HEADER_FIRST] at hle
      obtain ⟨r0, r1, r2, r3, r4, r5, r6⟩ := reads_step1 hwf (Nat.not_lt.mp hle)
      simp only [r0, r1, r2, r3, r4, r5, r6]
      -- the eight checks, and the end
      iterate 8
        split
        · exact ⟨.of_skip (by omega) _, fun h => by cases h⟩
      exact ⟨.of_skip (by omega) _, fun h => by cases h⟩

theorem parseBodyLen_consumed (hwf : d.buffer.WF) (hlen : 2 ≤ d.buffer.readableBytes) :
    Consumed d d.parseBodyLen.2 ∧ d.parseBodyLen.1 ≠ .kNeedMoreData
      ∧ (d.parseBodyLen.1 = .kNoError →
        d.parseBodyLen.2.header.wdBodyLen.toNat ≤ 950) := by
  unfold parseBodyLen
  rw [Buffer.readInt16_eq hwf hlen]
  dsimp only
  split
  next => exact ⟨.of_skip hlen _, fun h => (by cases h), fun h => (by cases h)⟩
  next hle => exact ⟨.of_skip hlen _, fun h => (by cases h), fun _ => UInt16.not_lt.mp hle⟩

/-- **The second header stage** consumes nothing before all of it is there, and
lets no body through that is too long. -/
theorem parseHeaderStep2_consumed (hwf : d.buffer.WF)
    (hmuch : d.howmuch = READ_MIN_SIZE_FOR_HEADER_SECOND) :
    Consumed d d.parseHeaderStep2.2
      ∧ (d.parseHeaderStep2.1 = .kNeedMoreData → d.buffer.readableBytes < 14
        ∧ d.parseHeaderStep2.2 = d)
      ∧ (d.parseHeaderStep2.1 = .kNoError →
        d.parseHeaderStep2.2.header.wdBodyLen.toNat ≤ 950) := by
  have hread (k : Nat) : (d.buffer.skip k).readableBytes = d.buffer.readableBytes - k :=
    Buffer.readableBytes_skip k
  unfold parseHeaderStep2
  split
  next hlt =>
      rw [hmuch, READ_MIN_SIZE_FOR_HEADER_SECOND] at hlt
      exact ⟨.refl d, fun _ => ⟨by omega, rfl⟩, fun h => by cases h⟩
  next hmin =>
      rw [hmuch, READ_MIN_SIZE_FOR_HEADER_SECOND] at hmin
      split
      next =>
          -- video: a time stamp and two intervals
          split
          next hlt => exact ⟨.refl d, fun _ => ⟨hlt, rfl⟩, fun h => by cases h⟩
          next hle =>
              rw [READ_VIDEO_SIZE_FOR_HEADER_SECOND] at hle
              obtain ⟨r0, r1, r2⟩ := reads_video hwf (by omega)
              simp only [r0, r1, r2]
              have hfront := Consumed.of_skip (d := d) (k := 12) (by omega)
              obtain ⟨hconsumed, hmore, hmax⟩ := parseBodyLen_consumed
                (d := { d with buffer := d.buffer.skip 12, header := { d.header with
                  bt8timeStamp := netU64 d.buffer.getBuffer
                  wdLastIFrameInterval := netU16 (d.buffer.getBuffer.drop 8)
                  wdLastFrameInterval := netU16 (d.buffer.getBuffer.drop 10) } })
                (hwf.skip (by omega))
                (by show 2 ≤ (d.buffer.skip 12).readableBytes; rw [hread]; omega)
              exact ⟨(hfront _).trans hconsumed, fun h => absurd h hmore, hmax⟩
      next =>
          split
          next =>
              -- audio: a time stamp
              split
              next hlt =>
                  rw [READ_AUDIO_SIZE_FOR_HEADER_SECOND] at hlt
                  exact ⟨.refl d, fun _ => ⟨by omega, rfl⟩, fun h => by cases h⟩
              next hle =>
                  rw [READ_AUDIO_SIZE_FOR_HEADER_SECOND] at hle
                  have r0 := Buffer.readInt64_eq hwf (by omega)
                  simp only [r0]
                  have hfront := Consumed.of_skip (d := d) (k := 8) (by omega)
                  obtain ⟨hconsumed, hmore, hmax⟩ := parseBodyLen_consumed
                    (d := { d with buffer := d.buffer.skip 8, header := { d.header with
                      bt8timeStamp := netU64 d.buffer.getBuffer } })
                    (hwf.skip (by omega))
                    (by show 2 ≤ (d.buffer.skip 8).readableBytes; rw [hread]; omega)
                  exact ⟨(hfront _).trans hconsumed, fun h => absurd h hmore, hmax⟩
          next =>
              split
              next =>
                  obtain ⟨hconsumed, hmore, hmax⟩ :=
                    parseBodyLen_consumed (d := d) hwf (by omega)
                  exact ⟨hconsumed, fun h => absurd h hmore, hmax⟩
              next => exact ⟨.refl d, fun h => (by cases h), fun h => (by cases h)⟩

/-! ## §2. The invariant. -/

/-- The most a `m_body` is written: the longest body and a NUL. -/
def bodyLimit : Nat := 951

/-- No assertion of the buffer has failed, its cursor is in the buffer, and
`m_body`, of which `body` is what was ever written, was written up to index 950
at most. -/
structure Safe (d : Decoder) : Prop where
  wf : d.buffer.WF
  body_le : d.body.length ≤ bodyLimit

/-- How much is awaited in each state. -/
def Awaits (d : Decoder) : Prop :=
  match d.readStatus with
  | .kReadHeaderStep1 => d.howmuch = READ_SIZE_FOR_HEADER_FIRST
  | .kReadHeaderStep2 => d.howmuch = READ_MIN_SIZE_FOR_HEADER_SECOND
  | .kReadBody => d.howmuch ≤ 950

structure Bounded (d : Decoder) : Prop where
  safe : d.Safe
  awaits : d.Awaits

/-- What every outcome of `Decode` leaves. -/
def Left (answer : ErrorType × Decoder) : Prop :=
  answer.2.Bounded
    ∧ (answer.1 = .kNeedMoreData → answer.2.buffer.readableBytes < 950)

theorem bounded_new : (new a).Bounded :=
  ⟨⟨Buffer.new_wf.reserve _, show 1 ≤ 951 by decide⟩, rfl⟩

theorem Consumed.safe {d' : Decoder} (h : Consumed d d') (hd : d.Safe) : d'.Safe := by
  refine ⟨h.wf hd.wf, ?_⟩
  rw [h.body_eq]
  exact hd.body_le

/-- What is left of the state a stage started from. -/
theorem Consumed.awaits {d' : Decoder} (h : Consumed d d') (hd : d.Awaits) : d'.Awaits := by
  unfold Awaits at hd ⊢
  rw [h.readStatus_eq, h.howmuch_eq]
  exact hd

/-- **The body** is written as far as the length that was checked, and its NUL
behind it. -/
theorem left_decodeBody (h : d.Bounded) (hstatus : d.readStatus = .kReadBody) :
    Left d.decodeBody := by
  have hmuch : d.howmuch ≤ 950 := by
    have hawaits := h.awaits
    rwa [Awaits, hstatus] at hawaits
  unfold decodeBody parseBody
  by_cases hlt : d.buffer.readableBytes < d.howmuch
  · rw [if_pos hlt]
    exact ⟨h, fun _ => by show d.buffer.readableBytes < 950; omega⟩
  · rw [if_neg hlt]
    have hle := Nat.not_lt.mp hlt
    rw [Buffer.readBuffer_eq h.safe.wf hle]
    refine ⟨⟨⟨h.safe.wf.skip hle, ?_⟩, rfl⟩, fun h => by cases h⟩
    have hbody := h.safe.body_le
    -- what an earlier, longer body left behind stays in `m_body`
    show (loadBytes d.howmuch d.buffer.getBuffer ++ 0 :: d.body.drop (d.howmuch + 1)).length
      ≤ bodyLimit
    rw [List.length_append, length_loadBytes, List.length_cons, List.length_drop]
    unfold bodyLimit at hbody ⊢
    omega

theorem left_decodeStep2 (h : d.Bounded) (hstatus : d.readStatus = .kReadHeaderStep2) :
    Left d.decodeStep2 := by
  have hmuch : d.howmuch = READ_MIN_SIZE_FOR_HEADER_SECOND := by
    have hawaits := h.awaits
    rwa [Awaits, hstatus] at hawaits
  obtain ⟨hconsumed, hmore, hmax⟩ := parseHeaderStep2_consumed h.safe.wf hmuch
  have hd' : d.parseHeaderStep2.2.Bounded :=
    ⟨hconsumed.safe h.safe, hconsumed.awaits h.awaits⟩
  unfold decodeStep2
  generalize d.parseHeaderStep2 = answer at *
  obtain ⟨error, d'⟩ := answer
  cases error with
  | kNoError => exact left_decodeBody ⟨⟨hd'.safe.wf, hd'.safe.body_le⟩, hmax rfl⟩ rfl
  | kNeedMoreData =>
      obtain ⟨hlt, hsame⟩ := hmore rfl
      refine ⟨hd', fun _ => ?_⟩
      show d'.buffer.readableBytes < 950
      rw [show d' = d from hsame]
      omega
  | kBufferFull => exact ⟨hd', fun h => by cases h⟩
  | kInvalidHeader => exact ⟨hd', fun h => by cases h⟩
  | kBodyLengthInvalid => exact ⟨hd', fun h => by cases h⟩

/-- `Clear` writes the first byte of `m_body`. -/
theorem Bounded.clearPacket (h : d.Bounded) : d.clearPacket.Bounded := by
  refine ⟨⟨h.safe.wf, ?_⟩, h.awaits⟩
  have hbody := h.safe.body_le
  show (0 :: d.body.drop 1).length ≤ bodyLimit
  rw [List.length_cons, List.length_drop]
  unfold bodyLimit at hbody ⊢
  omega

theorem left_decodeStep1 (h : d.Bounded) (hstatus : d.readStatus = .kReadHeaderStep1) :
    Left d.decodeStep1 := by
  have hclear := h.clearPacket
  have hmuch : d.clearPacket.howmuch = READ_SIZE_FOR_HEADER_FIRST := by
    have hawaits := h.awaits
    rwa [Awaits, hstatus] at hawaits
  obtain ⟨hconsumed, hmore⟩ := parseHeaderStep1_consumed hclear.safe.wf hmuch
  have hd' : d.clearPacket.parseHeaderStep1.2.Bounded :=
    ⟨hconsumed.safe hclear.safe, hconsumed.awaits hclear.awaits⟩
  obtain ⟨k, _, hbuffer⟩ := hconsumed.buffer_eq
  unfold decodeStep1
  generalize d.clearPacket.parseHeaderStep1 = answer at *
  obtain ⟨error, d'⟩ := answer
  cases error with
  | kNoError => exact left_decodeStep2 ⟨⟨hd'.safe.wf, hd'.safe.body_le⟩, rfl⟩ rfl
  | kNeedMoreData =>
      have hlt := hmore rfl
      refine ⟨hd', fun _ => ?_⟩
      show d'.buffer.readableBytes < 950
      rw [hbuffer, Buffer.readableBytes_skip]
      omega
  | kBufferFull => exact ⟨hd', fun h => by cases h⟩
  | kInvalidHeader => exact ⟨hd', fun h => by cases h⟩
  | kBodyLengthInvalid => exact ⟨hd', fun h => by cases h⟩

/-- **The step lemma of `Decode`.** -/
theorem left_decode (h : d.Bounded) : Left d.decode := by
  unfold decode
  cases hstatus : d.readStatus with
  | kReadHeaderStep1 => exact left_decodeStep1 h hstatus
  | kReadHeaderStep2 => exact left_decodeStep2 h hstatus
  | kReadBody => exact left_decodeBody h hstatus

/-- **The step lemma of `PushBuffer`**, full or not. -/
theorem Bounded.pushBuffer (h : d.Bounded) (chunk : List UInt8) :
    (d.pushBuffer a chunk).2.Bounded := by
  unfold Decoder.pushBuffer
  by_cases hfit : chunk.length + d.buffer.readableBytes ≤ Buffer.MAX_BUFFER_SIZE
  · obtain ⟨b, hb, hwf, _⟩ := Buffer.pushBuffer_spec (a := a) h.safe.wf hfit
    rw [hb]
    exact ⟨⟨hwf, h.safe.body_le⟩, h.awaits⟩
  · rw [(Buffer.pushBuffer_eq_none_iff chunk).mpr (Nat.lt_of_not_le hfit)]
    exact h

/-- With less than a body unread there is room for every read. -/
theorem pushBuffer_not_full (hunread : d.buffer.readableBytes < 950) {chunk : List UInt8}
    (hchunk : chunk.length ≤ Buffer.MAX_SIZE_ONCE_READ) :
    (d.pushBuffer a chunk).1 ≠ .kBufferFull := by
  unfold Decoder.pushBuffer
  cases hb : d.buffer.pushBuffer a chunk with
  | none =>
      have hlt := (Buffer.pushBuffer_eq_none_iff chunk).mp hb
      unfold Buffer.MAX_SIZE_ONCE_READ at hchunk
      unfold Buffer.MAX_BUFFER_SIZE at hlt
      omega
  | some b => exact fun h => by cases h

/-! ## §3. A connection. -/

/-- `CarSession::ParseBuffer`: the packets, and the error it ends with. -/
def parseBuffer (a : StringAlloc) (d : Decoder) (chunk : List UInt8) :
    List Packet × ErrorType × Decoder := (receiver a).receive d chunk

/-- The decoder of a connection that has reported no error on `chunks`; at the
first error `Jt1078Server` drops the session. -/
def live (a : StringAlloc) : List (List UInt8) → Decoder → Option Decoder
  | [], d => some d
  | chunk :: chunks, d =>
      match parseBuffer a d chunk with
      | (_, .kNeedMoreData, d') => live a chunks d'
      | _ => none

/-- The states of the decoder while `ParseBuffer` works on a chunk: behind
`PushBuffer`, and behind each of its `Decode` calls, of which there may be any
number. -/
inductive During (a : StringAlloc) (d : Decoder) (chunk : List UInt8) : Decoder → Prop
  | pushed : During a d chunk (d.pushBuffer a chunk).2
  | decoded {d' : Decoder} (h : During a d chunk d') : During a d chunk d'.decode.2

theorem Bounded.during {chunk : List UInt8} {d' : Decoder} (h : d.Bounded)
    (hduring : During a d chunk d') : d'.Bounded := by
  induction hduring with
  | pushed => exact h.pushBuffer chunk
  | decoded _ ih => exact (left_decode ih).1

/-- The loop of `ParseBuffer`, by the number of packets it completes. -/
theorem left_drain (n : Nat) : ∀ {d : Decoder}, d.size ≤ n → d.Bounded →
    Left ((receiver a).drain d).2 := by
  induction n with
  | zero =>
      intro d hsize h
      have hleft := left_decode h
      have hne : d.decode.1 ≠ .kNoError := by
        intro heq
        have hlt := size_lt (show d.decode = (.kNoError, d.decode.2) from Prod.ext heq rfl)
        omega
      rw [Receiver.drain_of_ne (show (receiver a).decode d = (d.decode.1, d.decode.2) from rfl) hne]
      exact hleft
  | succ n ih =>
      intro d hsize h
      have hleft := left_decode h
      by_cases heq : d.decode.1 = .kNoError
      · have hlt := size_lt (show d.decode = (.kNoError, d.decode.2) from Prod.ext heq rfl)
        rw [Receiver.drain_of_noError
          (show (receiver a).decode d = (ErrorType.kNoError, d.decode.2) from Prod.ext heq rfl)]
        exact ih (by omega) hleft.1
      · rw [Receiver.drain_of_ne
          (show (receiver a).decode d = (d.decode.1, d.decode.2) from rfl) heq]
        exact hleft

/-- **One `OnMessage`.** -/
theorem left_parseBuffer (h : d.Bounded) (chunk : List UInt8) :
    Left (parseBuffer a d chunk).2 := by
  have hpush := h.pushBuffer (a := a) chunk
  unfold parseBuffer Receiver.receive
  show Left (match d.pushBuffer a chunk with
    | (e, s') => if e = ErrorType.kNoError then (receiver a).drain s' else ([], e, s')).2
  unfold Decoder.pushBuffer at hpush ⊢
  generalize d.buffer.pushBuffer a chunk = pushed at hpush ⊢
  cases pushed with
  | none => exact ⟨hpush, fun h => by cases h⟩
  | some b => exact left_drain _ (Nat.le_refl _) hpush

/-- **The run lemma.** -/
theorem bounded_live (chunks : List (List UInt8)) : ∀ {d d' : Decoder}, d.Bounded →
    d.buffer.readableBytes < 950 → live a chunks d = some d' →
      d'.Bounded ∧ d'.buffer.readableBytes < 950 := by
  induction chunks with
  | nil =>
      intro d d' h hunread hlive
      cases hlive
      exact ⟨h, hunread⟩
  | cons chunk chunks ih =>
      intro d d' h _ hlive
      have hleft := left_parseBuffer (a := a) h chunk
      unfold live at hlive
      split at hlive
      next packets d₁ heq =>
          rw [heq] at hleft
          exact ih hleft.1 (hleft.2 rfl) hlive
      next => cases hlive

/-- **The car decoder's buffers are bounded and its reads in range.**  For every
stream, cut in any way into reads, of which all so far were taken without an
error: fewer than 950 bytes are unread, and on the next read, of at most
`MAX_SIZE_ONCE_READ` bytes, `PushBuffer` does not return `kBufferFull`, no
assertion fails, the cursor stays in the buffer, and `m_body` is written up to
index 950 at most, whatever the read contains. -/
theorem car_decoder_bounded (a : StringAlloc) (chunks : List (List UInt8)) (d : Decoder)
    (hlive : live a chunks (new a) = some d) :
    d.buffer.readableBytes < 950
    ∧ ∀ chunk : List UInt8, chunk.length ≤ Buffer.MAX_SIZE_ONCE_READ →
      (d.pushBuffer a chunk).1 ≠ .kBufferFull
        ∧ ∀ d', During a d chunk d' → d'.Safe := by
  obtain ⟨h, hunread⟩ := bounded_live chunks bounded_new (by show 0 < 950; decide) hlive
  exact ⟨hunread, fun chunk hchunk =>
    ⟨pushBuffer_not_full hunread hchunk, fun _ hduring => (h.during hduring).safe⟩⟩

/-- The first two bytes of a header are taken without an error. -/
theorem live_two_bytes :
    live .libstdcxx [[0x30, 0x31]] (new .libstdcxx)
      = some ((new .libstdcxx).pushBuffer .libstdcxx [0x30, 0x31]).2.decode.2 := by
  have hdrain : (receiver .libstdcxx).drain ((new .libstdcxx).pushBuffer .libstdcxx
      [0x30, 0x31]).2 = ([], ErrorType.kNeedMoreData,
        ((new .libstdcxx).pushBuffer .libstdcxx [0x30, 0x31]).2.decode.2) :=
    Receiver.drain_of_ne (Prod.ext (by decide) rfl) (by decide)
  have hparse : parseBuffer .libstdcxx (new .libstdcxx) [0x30, 0x31]
      = ([], ErrorType.kNeedMoreData,
        ((new .libstdcxx).pushBuffer .libstdcxx [0x30, 0x31]).2.decode.2) := hdrain
  rw [live, hparse]
  rfl

/-- After them, with the third byte to come. -/
theorem car_decoder_bounded_two_bytes :
    let d := ((new .libstdcxx).pushBuffer .libstdcxx [0x30, 0x31]).2.decode.2
    d.buffer.readableBytes < 950 ∧ (d.pushBuffer .libstdcxx [0x63]).1 ≠ .kBufferFull
      ∧ (d.pushBuffer .libstdcxx [0x63]).2.decode.2.Safe := by
  obtain ⟨hunread, hnext⟩ := car_decoder_bounded .libstdcxx [[0x30, 0x31]] _ live_two_bytes
  obtain ⟨hfull, hsafe⟩ := hnext [0x63] (by decide)
  exact ⟨hunread, hfull, hsafe _ (.decoded .pushed)⟩

end Decoder

end MultiProcessServer.Jt1078
