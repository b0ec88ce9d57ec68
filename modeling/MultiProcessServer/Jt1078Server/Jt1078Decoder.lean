/-
  MultiProcessServer.Jt1078Server.Jt1078Decoder
  ─────────────────────────────────────────────
  `jt1078::decoder_t`: the three-state decoder of the cars' streams,
  following `Jt1078Decoder.cpp` function by function, as a `Receiver`.
-/
import MultiProcessServer.Lib.StreamParser
import MultiProcessServer.Jt1078Server.Jt1078Header

namespace MultiProcessServer.Jt1078

open Endian StreamParser

/-! ## §1. The decoder's state. -/

inductive ReadStatus where
  | kReadHeaderStep1
  | kReadHeaderStep2
  | kReadBody
  deriving DecidableEq, Repr

inductive ErrorType where
  | kNoError
  | kNeedMoreData
  | kBufferFull
  | kInvalidHeader
  | kBodyLengthInvalid
  deriving DecidableEq, Repr

def READ_SIZE_FOR_HEADER_FIRST : Nat := 16
def READ_MIN_SIZE_FOR_HEADER_SECOND : Nat := 2
def READ_VIDEO_SIZE_FOR_HEADER_SECOND : Nat := 14
def READ_AUDIO_SIZE_FOR_HEADER_SECOND : Nat := 10

/-- `class decoder_t`; `header` and `body` are the memory `m_packet` points
to, the body as far as it was written. -/
structure Decoder where
  buffer : Buffer
  header : Header
  body : List UInt8
  howmuch : Nat
  readStatus : ReadStatus
  deriving DecidableEq

namespace Decoder

variable (a : StringAlloc)

/-- `decoder_t::decoder_t`. -/
def new : Decoder where
  buffer := (Buffer.new a).reserve a (Buffer.MAX_BUFFER_SIZE / 4)
  header := .cleared
  body := [0]
  howmuch := READ_SIZE_FOR_HEADER_FIRST
  readStatus := .kReadHeaderStep1

/-! ## §2. The operations. -/

/-- `PushBuffer`. -/
def pushBuffer (d : Decoder) (data : List UInt8) : ErrorType × Decoder :=
  match d.buffer.pushBuffer a data with
  | none => (.kBufferFull, d)
  | some buffer => (.kNoError, { d with buffer := buffer })

/-- `IsSupportCodingType`. -/
def isSupportCodingType (uCodingType : Nat) : Bool :=
  match uCodingType with
  | 6 => true
  | 7 => true
  | 8 => true
  | 26 => true
  | 91 => true
  | 98 => true
  | _ => false

/-- Assigning a byte to a bit-field of width `w`. -/
def bits (w : Nat) (value : UInt8) : BitVec w := value.toBitVec.setWidth w

/-- `ParseHeaderStep1`: field by field, giving up at the first bad one. -/
def parseHeaderStep1 (d : Decoder) : ErrorType × Decoder :=
  if d.buffer.readableBytes < d.howmuch then (.kNeedMoreData, d)
  else
    let (value, buffer) := d.buffer.readInt32
    let header := { d.header with dwFramHeadMark := value }
    if header.dwFramHeadMark ≠ JT_1078_HEAD_MARK then
      (.kInvalidHeader, { d with buffer := buffer, header := header })
    else
      let (uInt8, buffer) := buffer.readInt8
      let header := { header with v2 := bits 2 (uInt8 >>> 6 &&& 0x3) }
      if header.v2 ≠ 2 then
        (.kInvalidHeader, { d with buffer := buffer, header := header })
      else
        let header := { header with p1 := bits 1 (uInt8 >>> 5 &&& 0x1) }
        if header.p1 ≠ 0 then
          (.kInvalidHeader, { d with buffer := buffer, header := header })
        else
          let header := { header with x1 := bits 1 (uInt8 >>> 4 &&& 0x1) }
          if header.x1 ≠ 0 then
            (.kInvalidHeader, { d with buffer := buffer, header := header })
          else
            let header := { header with cc4 := bits 4 (uInt8 &&& 0xF) }
            if header.cc4 ≠ 1 then
              (.kInvalidHeader, { d with buffer := buffer, header := header })
            else
              let (uInt8, buffer) := buffer.readInt8
              let header :=
                { header with
                  m1 := bits 1 (uInt8 >>> 7 &&& 0x1)
                  pt7 := bits 7 (uInt8 &&& 0x7F) }
              if ¬isSupportCodingType header.pt7.toNat then
                (.kInvalidHeader, { d with buffer := buffer, header := header })
              else
                let (sequence, buffer) := buffer.readInt16
                let (sim, buffer) := buffer.readBuffer 6
                let (channel, buffer) := buffer.readInt8
                let (uInt8, buffer) := buffer.readInt8
                let header :=
                  { header with
                    wdPackageSequence := sequence
                    bcdSimCardNumber := .load sim
                    bt1LogicChannelNumber := channel
                    dataType4 := bits 4 (uInt8 >>> 4 &&& 0x0F) }
                if header.dataType4 ≠ DATA_TYPE_VIDEO_I
                    ∧ header.dataType4 ≠ DATA_TYPE_VIDEO_P
                    ∧ header.dataType4 ≠ DATA_TYPE_VIDEO_B
                    ∧ header.dataType4 ≠ DATA_TYPE_AUDIO
                    ∧ header.dataType4 ≠ DATA_TYPE_ROUTE then
                  (.kInvalidHeader, { d with buffer := buffer, header := header })
                else
                  let header :=
                    { header with subpackageHandleMark4 := bits 4 (uInt8 &&& 0x0F) }
                  if header.subpackageHandleMark4 ≠ RCV_ATOMIC_PACKAGE
                      ∧ header.subpackageHandleMark4 ≠ RCV_FIRST_PACKAGE
                      ∧ header.subpackageHandleMark4 ≠ RCV_LAST_PACKAGE
                      ∧ header.subpackageHandleMark4 ≠ RCV_MIDDLE_PACKAGE then
                    (.kInvalidHeader, { d with buffer := buffer, header := header })
                  else
                    (.kNoError, { d with buffer := buffer, header := header })

/-- The end of `ParseHeaderStep2`: the body length and its bound. -/
def parseBodyLen (d : Decoder) : ErrorType × Decoder :=
  let (length, buffer) := d.buffer.readInt16
  let d := { d with buffer := buffer, header := { d.header with wdBodyLen := length } }
  if d.header.wdBodyLen > JT1078_MAX_LENGTH then (.kInvalidHeader, d) else (.kNoError, d)

/-- `ParseHeaderStep2`: nothing is consumed before the whole type-dependent
rest of the header is there. -/
def parseHeaderStep2 (d : Decoder) : ErrorType × Decoder :=
  if d.buffer.readableBytes < d.howmuch then (.kNeedMoreData, d)
  else if d.header.dataType4 = DATA_TYPE_VIDEO_I ∨ d.header.dataType4 = DATA_TYPE_VIDEO_P
      ∨ d.header.dataType4 = DATA_TYPE_VIDEO_B then
    if d.buffer.readableBytes < READ_VIDEO_SIZE_FOR_HEADER_SECOND then (.kNeedMoreData, d)
    else
      let (timeStamp, buffer) := d.buffer.readInt64
      let (lastIFrame, buffer) := buffer.readInt16
      let (lastFrame, buffer) := buffer.readInt16
      parseBodyLen
        { d with
          buffer := buffer
          header :=
            { d.header with
              bt8timeStamp := timeStamp
              wdLastIFrameInterval := lastIFrame
              wdLastFrameInterval := lastFrame } }
  else if d.header.dataType4 = DATA_TYPE_AUDIO then
    if d.buffer.readableBytes < READ_AUDIO_SIZE_FOR_HEADER_SECOND then (.kNeedMoreData, d)
    else
      let (timeStamp, buffer) := d.buffer.readInt64
      parseBodyLen
        { d with buffer := buffer, header := { d.header with bt8timeStamp := timeStamp } }
  else if d.header.dataType4 = DATA_TYPE_ROUTE then
    parseBodyLen d
  else
    (.kInvalidHeader, d)

/-- `ParseBody`: the body and a NUL, over what `m_body` held before. -/
def parseBody (d : Decoder) : ErrorType × Decoder :=
  if d.buffer.readableBytes < d.howmuch then (.kNeedMoreData, d)
  else
    let (body, buffer) := d.buffer.readBuffer d.howmuch
    (.kNoError,
      { d with buffer := buffer, body := body ++ 0 :: d.body.drop (d.howmuch + 1) })

/-- The loop of `Decode` in state `kReadBody`, which ends it. -/
def decodeBody (d : Decoder) : ErrorType × Decoder :=
  match d.parseBody with
  | (.kNoError, d') =>
      (.kNoError,
        { d' with readStatus := .kReadHeaderStep1, howmuch := READ_SIZE_FOR_HEADER_FIRST })
  | (error, d') => (error, d')

/-- The loop of `Decode` from state `kReadHeaderStep2` on. -/
def decodeStep2 (d : Decoder) : ErrorType × Decoder :=
  match d.parseHeaderStep2 with
  | (.kNoError, d') =>
      { d' with readStatus := .kReadBody, howmuch := d'.header.wdBodyLen.toNat }.decodeBody
  | (error, d') => (error, d')

/-- `m_packet.Clear()`. -/
def clearPacket (d : Decoder) : Decoder :=
  { d with header := .cleared, body := 0 :: d.body.drop 1 }

/-- The loop of `Decode` from state `kReadHeaderStep1` on. -/
def decodeStep1 (d : Decoder) : ErrorType × Decoder :=
  match d.clearPacket.parseHeaderStep1 with
  | (.kNoError, d') =>
      { d' with
        readStatus := .kReadHeaderStep2
        howmuch := READ_MIN_SIZE_FOR_HEADER_SECOND }.decodeStep2
  | (error, d') => (error, d')

/-- `Decode`. -/
def decode (d : Decoder) : ErrorType × Decoder :=
  match d.readStatus with
  | .kReadHeaderStep1 => d.decodeStep1
  | .kReadHeaderStep2 => d.decodeStep2
  | .kReadBody => d.decodeBody

/-- What a handler sees of `GetPacket()`. -/
def getPacket (d : Decoder) : Packet where
  header := d.header
  body := loadBytes d.header.wdBodyLen.toNat d.body
  length_body := length_loadBytes _ _

/-- `Decode` can succeed at most this often before more data is pushed. -/
def size (d : Decoder) : Nat :=
  2 * d.buffer.readableBytes
    + if d.readStatus = .kReadHeaderStep1 ∧ d.howmuch = READ_SIZE_FOR_HEADER_FIRST then 0
      else 1

/-- A check that was passed. -/
theorem passed {c : Prop} [Decidable c] (error : ErrorType) {d d' : Decoder}
    {rest : ErrorType × Decoder} (herror : error ≠ .kNoError)
    (h : (if c then (error, d) else rest) = (.kNoError, d')) : rest = (.kNoError, d') := by
  split at h
  · injection h with heq _
    exact absurd heq herror
  · exact h

theorem parseHeaderStep1_eq_noError {d d' : Decoder}
    (h : d.parseHeaderStep1 = (.kNoError, d')) :
    d.howmuch ≤ d.buffer.readableBytes
      ∧ d'.buffer.readableBytes = d.buffer.readableBytes - 16 := by
  unfold parseHeaderStep1 at h
  split at h
  · simp at h
  next hlen =>
    refine ⟨Nat.le_of_not_lt hlen, ?_⟩
    -- eight checks, and what is read between them
    dsimp only at h
    iterate 8 replace h := passed .kInvalidHeader nofun h
    injection h with _ h
    subst h
    simp only [Buffer.readableBytes_readInt8, Buffer.readableBytes_readInt16,
      Buffer.readableBytes_readInt32, Buffer.readableBytes_readBuffer]
    omega

theorem parseBodyLen_eq_noError {d d' : Decoder} (h : d.parseBodyLen = (.kNoError, d')) :
    d'.buffer.readableBytes ≤ d.buffer.readableBytes := by
  unfold parseBodyLen at h
  dsimp only at h
  replace h := passed .kInvalidHeader nofun h
  injection h with _ h
  subst h
  simp only [Buffer.readableBytes_readInt16]
  omega

theorem parseHeaderStep2_eq_noError {d d' : Decoder}
    (h : d.parseHeaderStep2 = (.kNoError, d')) :
    d'.buffer.readableBytes ≤ d.buffer.readableBytes := by
  unfold parseHeaderStep2 at h
  replace h := passed .kNeedMoreData nofun h
  split at h
  · -- video: a time stamp and two intervals come before the body length
    replace h := passed .kNeedMoreData nofun h
    have hle := parseBodyLen_eq_noError h
    simp only [Buffer.readableBytes_readInteger] at hle
    omega
  · split at h
    · -- audio: a time stamp
      replace h := passed .kNeedMoreData nofun h
      have hle := parseBodyLen_eq_noError h
      simp only [Buffer.readableBytes_readInteger] at hle
      omega
    · split at h
      · exact parseBodyLen_eq_noError h
      · simp at h

theorem size_of_decodeBody {d d' : Decoder} (h : d.decodeBody = (.kNoError, d')) :
    d'.size ≤ 2 * d.buffer.readableBytes := by
  unfold decodeBody parseBody at h
  by_cases hlt : d.buffer.readableBytes < d.howmuch
  · simp [hlt] at h
  · simp only [hlt, if_false, Prod.mk.injEq, true_and] at h
    subst h
    unfold size
    rw [if_pos ⟨rfl, rfl⟩, Buffer.readableBytes_readBuffer]
    omega

theorem size_of_decodeStep2 {d d' : Decoder} (h : d.decodeStep2 = (.kNoError, d')) :
    d'.size ≤ 2 * d.buffer.readableBytes := by
  unfold decodeStep2 at h
  generalize hp : d.parseHeaderStep2 = res at h
  obtain ⟨e, d₁⟩ := res
  cases e with
  | kNoError =>
      have hle := parseHeaderStep2_eq_noError hp
      have hsize := size_of_decodeBody h
      dsimp only at hsize
      omega
  | kNeedMoreData => simp at h
  | kBufferFull => simp at h
  | kInvalidHeader => simp at h
  | kBodyLengthInvalid => simp at h

/-- **Each successful `Decode` makes progress**, from any state. -/
theorem size_lt {d d' : Decoder} (h : d.decode = (.kNoError, d')) : d'.size < d.size := by
  unfold decode at h
  cases hst : d.readStatus with
  | kReadHeaderStep1 =>
      simp only [hst] at h
      unfold decodeStep1 at h
      generalize hp : d.clearPacket.parseHeaderStep1 = res at h
      obtain ⟨e, d₁⟩ := res
      cases e with
      | kNoError =>
          obtain ⟨hle, hread⟩ := parseHeaderStep1_eq_noError hp
          have hsize := size_of_decodeStep2 h
          dsimp only [clearPacket] at hle hread hsize
          by_cases hmuch : d.howmuch = READ_SIZE_FOR_HEADER_FIRST
          · have hd : d.size = 2 * d.buffer.readableBytes + 0 := by
              unfold size
              rw [if_pos ⟨hst, hmuch⟩]
            simp only [READ_SIZE_FOR_HEADER_FIRST] at hmuch
            omega
          · have hd : d.size = 2 * d.buffer.readableBytes + 1 := by
              unfold size
              rw [if_neg (fun hand => hmuch hand.2)]
            omega
      | kNeedMoreData => simp at h
      | kBufferFull => simp at h
      | kInvalidHeader => simp at h
      | kBodyLengthInvalid => simp at h
  | kReadHeaderStep2 =>
      simp only [hst] at h
      have hsize := size_of_decodeStep2 h
      have hd : d.size = 2 * d.buffer.readableBytes + 1 := by
        rw [size, if_neg (by simp [hst])]
      omega
  | kReadBody =>
      simp only [hst] at h
      have hsize := size_of_decodeBody h
      have hd : d.size = 2 * d.buffer.readableBytes + 1 := by
        rw [size, if_neg (by simp [hst])]
      omega

/-- The decoder as a receiver: `PushBuffer` a chunk, then `Decode` until it
no longer returns `kNoError`, as `CarSession::OnMessage` has it. -/
def receiver (a : StringAlloc) : Receiver UInt8 Packet ErrorType Decoder where
  push := pushBuffer a
  decode := decode
  packet := getPacket
  noError := .kNoError
  needMore := .kNeedMoreData
  size := size
  size_lt := size_lt

end Decoder

end MultiProcessServer.Jt1078
