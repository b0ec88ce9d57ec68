/-
  MultiProcessServer.Core.IpcPktDecoder
  ─────────────────────────────────────
  `ipc::decoder_t`: the two-state stream decoder of every connection between
  the servers.  §1–§2 follow `IpcPktDecoder.cpp` function by function; §3 is
  the reference format as a `Grammar`; §4 relates a decoder state to the
  bytes it stands for and proves that the decoder implements the grammar;
  §5 is the whole-stream theorem.
-/
import MultiProcessServer.Lib.StreamParser
import MultiProcessServer.Core.IpcPacket

namespace MultiProcessServer.Ipc

open Endian StreamParser

/-! ## §1. The decoder's state. -/

inductive ReadStatus where
  | kReadHeader
  | kReadBody
  deriving DecidableEq, Repr

inductive ErrorType where
  | kNoError
  | kNeedMoreData
  | kBufferFull
  | kInvalidHeader
  deriving DecidableEq, Repr

/-- `m_packet_buffer`, a `std::string` used as raw storage for one packet:
the header at its start and the memory behind it as far as it was written.
`block` numbers the storage blocks the string has had. -/
structure PacketBuffer where
  capacity : Nat
  block : Nat
  header : Header
  data : List UInt8
  deriving DecidableEq, Repr

/-- `m_packet_buffer.reserve(n)`.  Growing moves the (empty) string to a new
block, where nothing behind the header has been written yet. -/
def PacketBuffer.reserve (a : StringAlloc) (p : PacketBuffer) (n : Nat) : PacketBuffer :=
  let capacity := a.reserve p.capacity n
  if capacity = p.capacity then p
  else { p with capacity := capacity, block := p.block + 1, data := [] }

/-- `class decoder_t`. -/
structure Decoder where
  buffer : Buffer
  packetBuffer : PacketBuffer
  howmuch : Nat
  readStatus : ReadStatus
  deriving DecidableEq, Repr

namespace Decoder

variable (a : StringAlloc)

/-- `decoder_t::decoder_t`. -/
def new : Decoder where
  buffer := (Buffer.new a).reserve a (Buffer.MAX_BUFFER_SIZE / 4)
  packetBuffer :=
    { capacity := a.reserve a.initial 1024, block := 0, header := .cleared, data := [] }
  howmuch := sizeofPacket
  readStatus := .kReadHeader

/-! ## §2. The operations. -/

/-- `PushBuffer`. -/
def pushBuffer (d : Decoder) (data : List UInt8) : ErrorType × Decoder :=
  match d.buffer.pushBuffer a data with
  | none => (.kBufferFull, d)
  | some buffer => (.kNoError, { d with buffer := buffer })

/-- `ParseHeader`. -/
def parseHeader (d : Decoder) : ErrorType × Decoder :=
  if d.buffer.readableBytes < d.howmuch then
    (.kNeedMoreData, d)
  else
    let packet := Header.load d.buffer.getBuffer
    if packet.headLength ≠ UInt32.ofNat sizeofPacket then
      (.kInvalidHeader, d)
    else
      let packetBuffer :=
        if packet.dataLength.toNat > d.packetBuffer.capacity then
          d.packetBuffer.reserve a
            (min packet.dataLength.toNat (d.packetBuffer.capacity * 2))
        else d.packetBuffer
      (.kNoError,
        { d with
          packetBuffer := { packetBuffer with header := packet }
          buffer := d.buffer.skip d.howmuch })

/-- `ParseBody`: the body and a NUL, over what the storage held before. -/
def parseBody (d : Decoder) : ErrorType × Decoder :=
  if d.buffer.readableBytes < d.howmuch then
    (.kNeedMoreData, d)
  else
    let body := loadBytes d.howmuch d.buffer.getBuffer
    (.kNoError,
      { d with
        packetBuffer :=
          { d.packetBuffer with
            data := body ++ 0 :: d.packetBuffer.data.drop (d.howmuch + 1) }
        buffer := d.buffer.skip d.howmuch })

/-- The second `if` of `Decode`. -/
def decodeBody (d : Decoder) : ErrorType × Decoder :=
  match d.parseBody with
  | (.kNoError, d') =>
      (.kNoError, { d' with readStatus := .kReadHeader, howmuch := sizeofPacket })
  | (error, d') => (error, d')

/-- `_GetPacket().Clear()`. -/
def clearPacket (d : Decoder) : Decoder :=
  { d with packetBuffer := { d.packetBuffer with header := .cleared } }

/-- `Decode`.  The body length is read through the reference `packet` taken
before `ParseHeader`: after a reallocation that is a read of the released
block. -/
def decode (d : Decoder) : ErrorType × Decoder :=
  match d.readStatus with
  | .kReadHeader =>
      match d.clearPacket.parseHeader a with
      | (.kNoError, d') =>
          let dataLength :=
            if d'.packetBuffer.block = d.packetBuffer.block then
              d'.packetBuffer.header.dataLength
            else a.released d.packetBuffer.block
          { d' with readStatus := .kReadBody, howmuch := dataLength.toNat }.decodeBody
      | (error, d') => (error, d')
  | .kReadBody => d.decodeBody

/-- What a handler sees of `GetPacket()`: header, the `m_uDataLength` bytes
of `m_data`, and the byte behind them. -/
def getPacket (d : Decoder) : Packet × UInt8 :=
  let n := d.packetBuffer.header.dataLength.toNat
  (⟨d.packetBuffer.header, loadBytes n d.packetBuffer.data, length_loadBytes _ _⟩,
    (loadBytes 1 (d.packetBuffer.data.drop n)).headD 0)

/-- `Decode` can succeed at most this often before more data is pushed. -/
def size (d : Decoder) : Nat :=
  2 * d.buffer.readableBytes
    + if d.readStatus = .kReadHeader ∧ d.howmuch = sizeofPacket then 0 else 1

variable {a}

theorem decodeBody_eq_noError {d d' : Decoder} (h : d.decodeBody = (.kNoError, d')) :
    d.howmuch ≤ d.buffer.readableBytes
      ∧ d'.readStatus = .kReadHeader ∧ d'.howmuch = sizeofPacket
      ∧ d'.buffer.readableBytes = d.buffer.readableBytes - d.howmuch := by
  unfold decodeBody parseBody at h
  by_cases hlt : d.buffer.readableBytes < d.howmuch
  · simp [hlt] at h
  · simp only [hlt, if_false, Prod.mk.injEq, true_and] at h
    subst h
    exact ⟨Nat.le_of_not_lt hlt, rfl, rfl, Buffer.readableBytes_skip _⟩

theorem parseHeader_eq_noError {d d' : Decoder} (h : d.parseHeader a = (.kNoError, d')) :
    d.howmuch ≤ d.buffer.readableBytes
      ∧ d'.buffer.readableBytes = d.buffer.readableBytes - d.howmuch := by
  unfold parseHeader at h
  by_cases hlt : d.buffer.readableBytes < d.howmuch
  · simp [hlt] at h
  · simp only [hlt, if_false] at h
    split at h
    · simp at h
    · simp only [Prod.mk.injEq, true_and] at h
      subst h
      exact ⟨Nat.le_of_not_lt hlt, Buffer.readableBytes_skip _⟩

/-- After a complete body the decoder waits for a header again. -/
theorem size_of_decodeBody {d d' : Decoder} (h : d.decodeBody = (.kNoError, d')) :
    d'.size = 2 * (d.buffer.readableBytes - d.howmuch)
      ∧ d.howmuch ≤ d.buffer.readableBytes := by
  obtain ⟨hle, hst, hmuch, hread⟩ := decodeBody_eq_noError h
  refine ⟨?_, hle⟩
  unfold size
  rw [hst, hmuch, hread, if_pos ⟨rfl, rfl⟩, Nat.add_zero]

/-- **Each successful `Decode` makes progress**, from any state. -/
theorem size_lt {d d' : Decoder} (h : d.decode a = (.kNoError, d')) : d'.size < d.size := by
  unfold decode at h
  cases hst : d.readStatus with
  | kReadHeader =>
      simp only [hst] at h
      generalize hp : parseHeader a _ = res at h
      obtain ⟨e, d₁⟩ := res
      cases e with
      | kNoError =>
          -- a header was consumed: sixteen bytes, or the stage was off
          obtain ⟨hle, hread⟩ := parseHeader_eq_noError hp
          obtain ⟨hsize, hle'⟩ := size_of_decodeBody h
          dsimp only [clearPacket] at hle hread hsize hle'
          generalize UInt32.toNat _ = n at hsize hle'
          rw [hsize, hread, size, hst]
          by_cases hmuch : d.howmuch = sizeofPacket
          · rw [if_pos ⟨rfl, hmuch⟩]
            simp only [sizeofPacket] at hmuch
            omega
          · rw [if_neg (fun hand => hmuch hand.2)]
            omega
      | kNeedMoreData => simp at h
      | kBufferFull => simp at h
      | kInvalidHeader => simp at h
  | kReadBody =>
      simp only [hst] at h
      obtain ⟨hsize, hle⟩ := size_of_decodeBody h
      rw [hsize, size, if_neg (by simp [hst])]
      omega

/-- The decoder as a receiver: `PushBuffer` a chunk, then `Decode` until it
no longer returns `kNoError`, as every `OnMessage` has it. -/
def receiver (a : StringAlloc) : Receiver UInt8 (Packet × UInt8) ErrorType Decoder where
  push := pushBuffer a
  decode := decode a
  packet := getPacket
  noError := .kNoError
  needMore := .kNeedMoreData
  size := size
  size_lt := size_lt

end Decoder

/-! ## §3. The reference format. -/

/-- The packet at the head of a stream that holds it completely. -/
def headPacket (s : List UInt8) : Packet where
  header := .load s
  data := loadBytes (Header.load s).dataLength.toNat (s.drop sizeofPacket)
  length_data := length_loadBytes _ _

/-- The verdict on the head of a stream of packets. -/
def next (s : List UInt8) : Outcome UInt8 (Packet × UInt8) :=
  if s.length < sizeofPacket then .more
  else if (Header.load s).headLength ≠ UInt32.ofNat sizeofPacket then .invalid
  else if s.length - sizeofPacket < (Header.load s).dataLength.toNat then .more
  else .frame (headPacket s, 0)
    (s.drop (sizeofPacket + (Header.load s).dataLength.toNat))

/-- A packet the decoder accepts: its head length is that of `packet_t`. -/
def Packet.Valid (p : Packet) : Prop := p.header.headLength = UInt32.ofNat sizeofPacket

instance (p : Packet) : Decidable p.Valid := inferInstanceAs (Decidable (_ = _))

theorem load_append {s : List UInt8} (t : List UInt8) (h : sizeofPacket ≤ s.length) :
    Header.load (s ++ t) = Header.load s := by
  rw [← List.take_append_drop sizeofPacket s, List.append_assoc, ← Header.bytes_load h,
    Header.load_bytes, Header.load_bytes]

/-- What was checked when there is a packet at the head of a stream. -/
theorem checked_of_next {s r : List UInt8} {f : Packet × UInt8} (h : next s = .frame f r) :
    (headPacket s).Valid
      ∧ sizeofPacket + (Header.load s).dataLength.toNat ≤ s.length
      ∧ f = (headPacket s, 0)
      ∧ r = s.drop (sizeofPacket + (Header.load s).dataLength.toNat) := by
  unfold next at h
  split at h
  · simp at h
  next hlen =>
    split at h
    · simp at h
    next hhead =>
      split at h
      · simp at h
      next hbody =>
        injection h with hf hr
        exact ⟨not_not.mp hhead, by omega, hf.symm, hr.symm⟩

/-- Its bytes are those of the stream. -/
theorem bytes_headPacket {s : List UInt8}
    (hlen : sizeofPacket + (Header.load s).dataLength.toNat ≤ s.length) :
    s = (headPacket s).bytes ++ s.drop (sizeofPacket + (Header.load s).dataLength.toNat) := by
  have h16 : sizeofPacket ≤ s.length := by omega
  have hn : (Header.load s).dataLength.toNat ≤ (s.drop sizeofPacket).length := by
    rw [List.length_drop]
    omega
  simp only [Packet.bytes, headPacket, Header.bytes_load h16, loadBytes_eq_take hn]
  rw [← List.drop_drop, List.append_assoc, List.take_append_drop, List.take_append_drop]

/-- A valid packet is found again at the head of its encoding. -/
theorem next_bytes {p : Packet} (hp : p.Valid) (r : List UInt8) :
    next (p.bytes ++ r) = .frame (p, 0) r := by
  have hload : Header.load (p.bytes ++ r) = p.header := by
    unfold Packet.bytes
    rw [List.append_assoc, Header.load_bytes]
  have hdrop : (p.bytes ++ r).drop sizeofPacket = p.data ++ r := by
    unfold Packet.bytes
    rw [List.append_assoc]
    exact List.drop_left' (Header.length_bytes _)
  have hpacket : headPacket (p.bytes ++ r) = p := by
    apply Packet.ext'
    · exact hload
    · show loadBytes _ _ = _
      rw [hload, hdrop]
      exact loadBytes_append r p.length_data
  have hlen := p.length_bytes
  have htotal : (p.bytes ++ r).length
      = sizeofPacket + p.header.dataLength.toNat + r.length := by
    rw [List.length_append, hlen]
  have hhead : p.header.headLength = UInt32.ofNat sizeofPacket := hp
  -- every check of `next` is passed
  rw [next, if_neg (by omega), hload, if_neg (not_not.mpr hhead), if_neg (by omega), hpacket,
    List.drop_left' hlen]

/-- **The grammar accepts exactly the encodings of valid packets.** -/
theorem next_eq_frame_iff {s r : List UInt8} {f : Packet × UInt8} :
    next s = .frame f r ↔ (f.1.Valid ∧ f.2 = 0) ∧ s = f.1.bytes ++ r := by
  constructor
  · intro h
    obtain ⟨hvalid, hlen, rfl, rfl⟩ := checked_of_next h
    exact ⟨⟨hvalid, rfl⟩, bytes_headPacket hlen⟩
  · intro h
    obtain ⟨p, nul⟩ := f
    obtain ⟨⟨hvalid, hnul⟩, rfl⟩ := h
    obtain rfl : nul = 0 := hnul
    exact next_bytes hvalid r

theorem next_eq_invalid_iff {s : List UInt8} :
    next s = .invalid ↔ sizeofPacket ≤ s.length
      ∧ (Header.load s).headLength ≠ UInt32.ofNat sizeofPacket := by
  unfold next
  constructor
  · intro h
    split at h
    · simp at h
    next hlen =>
      split at h
      next hhead => exact ⟨Nat.le_of_not_lt hlen, hhead⟩
      next => split at h <;> simp at h
  · intro hbad
    obtain ⟨hlen, hhead⟩ := hbad
    rw [if_neg (Nat.not_lt.mpr hlen), if_pos hhead]

/-- A packet whose body is not there yet. -/
theorem next_of_short_body {h : Header} {body : List UInt8}
    (hhead : h.headLength = UInt32.ofNat sizeofPacket)
    (hbody : body.length < h.dataLength.toNat) : next (h.bytes ++ body) = .more := by
  have hlen : (h.bytes ++ body).length = sizeofPacket + body.length := by
    rw [List.length_append, Header.length_bytes]
  unfold next
  rw [Header.load_bytes, if_neg (by omega), if_neg (not_not.mpr hhead), if_pos (by omega)]

/-- A packet is not empty. -/
theorem length_rest_lt {s r : List UInt8} {f : Packet × UInt8} (h : next s = .frame f r) :
    r.length < s.length := by
  obtain ⟨-, rfl⟩ := next_eq_frame_iff.mp h
  simp only [List.length_append, Packet.length_bytes, sizeofPacket]
  omega

theorem next_append_of_frame {s r : List UInt8} {f : Packet × UInt8} (t : List UInt8)
    (h : next s = .frame f r) : next (s ++ t) = .frame f (r ++ t) := by
  obtain ⟨hf, rfl⟩ := next_eq_frame_iff.mp h
  exact next_eq_frame_iff.mpr ⟨hf, List.append_assoc _ _ _⟩

theorem next_append_of_invalid {s : List UInt8} (t : List UInt8) (h : next s = .invalid) :
    next (s ++ t) = .invalid := by
  obtain ⟨hlen, hhead⟩ := next_eq_invalid_iff.mp h
  refine next_eq_invalid_iff.mpr ⟨?_, ?_⟩
  · simp only [List.length_append]
    omega
  · rw [load_append t hlen]
    exact hhead

/-- The packet format as a grammar. -/
def grammar : Grammar UInt8 (Packet × UInt8) where
  next := next
  next_shrinks := length_rest_lt
  next_frame_append := next_append_of_frame
  next_invalid_append := next_append_of_invalid

theorem grammar_encodes :
    grammar.Encodes (fun f => f.1.Valid ∧ f.2 = 0) (fun f => f.1.bytes) :=
  next_eq_frame_iff

/-! ## §4. The decoder implements the format. -/

/-- A complete header at the head of the stream declares a body that fits
the decoder's initial storage with its header and NUL. -/
def SmallHead (s : List UInt8) : Prop :=
  sizeofPacket ≤ s.length → (Header.load s).headLength = UInt32.ofNat sizeofPacket →
    (Header.load s).dataLength.toNat ≤ 1008

/-- The same of a body of at most `n` bytes. -/
def HeadFits (n : Nat) (s : List UInt8) : Prop :=
  sizeofPacket ≤ s.length → (Header.load s).headLength = UInt32.ofNat sizeofPacket →
    (Header.load s).dataLength.toNat ≤ n

theorem HeadFits.of_append {n : Nat} (s t : List UInt8) (h : HeadFits n (s ++ t)) :
    HeadFits n s := by
  intro hlen hhead
  have hfits := h (by simp only [List.length_append]; omega)
  rw [load_append t hlen] at hfits
  exact hfits hhead

theorem SmallHead.headFits {s : List UInt8} {n : Nat} (h : SmallHead s) (hn : 1008 ≤ n) :
    HeadFits n s := by
  intro hlen hhead
  have hsmall := h hlen hhead
  omega

theorem SmallHead.of_append (s t : List UInt8) (h : SmallHead (s ++ t)) : SmallHead s :=
  HeadFits.of_append s t h

/-- A packet of at most 1008 body bytes. -/
theorem smallHead_bytes {p : Packet} (hlen : p.header.dataLength.toNat ≤ 1008) (t : List UInt8) :
    SmallHead (p.bytes ++ t) := by
  intro _ _
  unfold Packet.bytes
  rw [List.append_assoc, Header.load_bytes]
  exact hlen

/-- **Some first bytes of small packets** hold the first of them, and no head
that is wrong or too big. -/
theorem parse_prefix_small {packets : List Packet}
    (hpackets : ∀ p ∈ packets, p.Valid ∧ ∀ t, SmallHead (p.bytes ++ t)) {s : List UInt8}
    (hbegins : s <+: packets.flatMap Packet.bytes) :
    (grammar.parse s).invalid = false ∧ grammar.Always SmallHead s
      ∧ (grammar.parse s).frames <+: packets.map (·, 0) := by
  obtain ⟨t, ht⟩ := hbegins
  -- read to its end, the stream is the packets and nothing more
  have hfull : grammar.parse (s ++ t) = ⟨packets.map (·, 0), [], false⟩ := by
    have hparse := grammar_encodes.parse_encoded (packets.map (·, (0 : UInt8))) []
      (by simpa using fun p hp => (hpackets p hp).1)
    rw [List.append_nil, List.flatMap_map] at hparse
    rw [ht, hparse, Grammar.parse_of_more (show grammar.next [] = .more from rfl)]
    simp
  -- every head met on the way is the head of a packet, or the empty rest
  have halways : grammar.Always SmallHead (s ++ t) := by
    have h := grammar_encodes.always_encoded (packets.map (·, (0 : UInt8)))
      (by simpa using hpackets) (show grammar.Always SmallHead [] by
        intro u hu
        cases hu with
        | refl => exact fun hlen => absurd hlen (by simp [sizeofPacket])
        | step hs _ => simp [show grammar.next [] = .more from rfl] at hs)
    rw [List.append_nil, List.flatMap_map] at h
    rw [ht]
    exact h
  refine ⟨Grammar.parse_prefix_not_invalid t (by rw [hfull]), halways.of_append
    SmallHead.of_append t, ?_⟩
  have h := @Grammar.parse_frames_prefix _ _ grammar s t
  rwa [hfull] at h

namespace Decoder

variable {a : StringAlloc}

/-- The bytes a decoder state stands for: those after the last delivered
packet, a header already consumed included. -/
structure Rep (d : Decoder) (p : List UInt8) : Prop where
  wf : d.buffer.WF
  capacity : 1024 ≤ d.packetBuffer.capacity
  status : match d.readStatus with
    | .kReadHeader => d.howmuch = sizeofPacket ∧ d.buffer.getBuffer = p
    | .kReadBody => sizeofPacket ≤ p.length
        ∧ (Header.load p).headLength = UInt32.ofNat sizeofPacket
        ∧ d.packetBuffer.header = Header.load p
        ∧ d.howmuch = (Header.load p).dataLength.toNat
        ∧ d.buffer.getBuffer = p.drop sizeofPacket

theorem rep_new : (new a).Rep [] where
  wf := (Buffer.new_wf).reserve _
  capacity := a.le_reserve _ _
  status := ⟨rfl, rfl⟩

/-- While a packet is unfinished, fewer bytes are unread than it needs. -/
theorem Rep.readableBytes_lt {d : Decoder} {p : List UInt8} (h : d.Rep p)
    (hmore : next p = .more) (hsmall : SmallHead p) :
    d.buffer.readableBytes < 1024 := by
  have hp : p.length < sizeofPacket + 1008 := by
    unfold next at hmore
    split at hmore
    next hlen => exact Nat.lt_add_right 1008 hlen
    next hlen =>
      split at hmore
      · simp at hmore
      next hhead =>
        split at hmore
        next hbody =>
          have := hsmall (Nat.le_of_not_lt hlen) (not_not.mp hhead)
          simp only [sizeofPacket] at hlen hbody ⊢
          omega
        next => simp at hmore
  -- at the body stage the header has left the buffer already
  have hstatus := h.status
  rw [← Buffer.length_getBuffer]
  cases hst : d.readStatus with
  | kReadHeader =>
      simp only [hst] at hstatus
      rw [hstatus.2]
      simpa [sizeofPacket] using hp
  | kReadBody =>
      simp only [hst] at hstatus
      rw [hstatus.2.2.2.2, List.length_drop]
      simp only [sizeofPacket] at hp ⊢
      omega

/-- All bytes a state stands for but a header are unread. -/
theorem Rep.length_le {d : Decoder} {p : List UInt8} (h : d.Rep p) :
    p.length ≤ d.buffer.readableBytes + sizeofPacket := by
  have hstatus := h.status
  rw [← Buffer.length_getBuffer]
  cases hst : d.readStatus with
  | kReadHeader =>
      simp only [hst] at hstatus
      rw [hstatus.2]
      omega
  | kReadBody =>
      simp only [hst] at hstatus
      rw [hstatus.2.2.2.2, List.length_drop]
      omega

/-- A pushed chunk is appended to the bytes the decoder stands for, -/
theorem Rep.pushFits {d : Decoder} {p c : List UInt8} (h : d.Rep p)
    (hfit : c.length + d.buffer.readableBytes ≤ Buffer.MAX_BUFFER_SIZE) :
    ∃ d', d.pushBuffer a c = (.kNoError, d') ∧ d'.Rep (p ++ c)
      ∧ d'.packetBuffer = d.packetBuffer := by
  obtain ⟨b, hb, hwf, hget⟩ := Buffer.pushBuffer_spec (a := a) h.wf hfit
  refine ⟨{ d with buffer := b }, by simp only [pushBuffer, hb], ⟨hwf, h.capacity, ?_⟩, rfl⟩
  -- the chunk goes behind the unread bytes, whatever stage the decoder is in
  have hstatus := h.status
  cases hst : d.readStatus with
  | kReadHeader =>
      simp only [hst] at hstatus ⊢
      exact ⟨hstatus.1, by rw [hget, hstatus.2]⟩
  | kReadBody =>
      simp only [hst] at hstatus ⊢
      obtain ⟨hlen, hhead, hheader, hmuch, hunread⟩ := hstatus
      rw [load_append c hlen, hget, hunread, List.drop_append_of_le_length hlen]
      exact ⟨by simp only [List.length_append]; omega, hhead, hheader, hmuch, rfl⟩

/-- as every chunk that is read at once is, behind a small unfinished packet. -/
theorem Rep.push {d : Decoder} {p c : List UInt8} (h : d.Rep p) (hsmall : SmallHead p)
    (hmore : next p = .more) (hc : c.length ≤ Buffer.MAX_SIZE_ONCE_READ) :
    ∃ d', d.pushBuffer a c = (.kNoError, d') ∧ d'.Rep (p ++ c) := by
  have hlt := h.readableBytes_lt hmore hsmall
  have hfit : c.length + d.buffer.readableBytes ≤ Buffer.MAX_BUFFER_SIZE := by
    simp only [Buffer.MAX_SIZE_ONCE_READ, Buffer.MAX_BUFFER_SIZE] at hc ⊢
    omega
  obtain ⟨d', hpush, hrep, -⟩ := h.pushFits (a := a) hfit
  exact ⟨d', hpush, hrep⟩

/-- **The body stage**, for a packet whose header has been consumed. -/
theorem Rep.decodeBody {d : Decoder} {p : List UInt8} (h : d.Rep p)
    (hst : d.readStatus = .kReadBody) :
    (next p = .more → d.decodeBody = (.kNeedMoreData, d))
      ∧ ∀ f r, next p = .frame f r →
          ∃ d', d.decodeBody = (.kNoError, d') ∧ d'.Rep r ∧ d'.getPacket = f
            ∧ d'.packetBuffer.capacity = d.packetBuffer.capacity := by
  have hstatus := h.status
  simp only [hst] at hstatus
  obtain ⟨hlen, hhead, hheader, hmuch, hunread⟩ := hstatus
  have hreadable : d.buffer.readableBytes = p.length - sizeofPacket := by
    rw [← Buffer.length_getBuffer, hunread, List.length_drop]
  -- the header was checked when it was consumed
  have hnext : next p = if p.length - sizeofPacket < (Header.load p).dataLength.toNat then
      Outcome.more else .frame (headPacket p, 0)
        (p.drop (sizeofPacket + (Header.load p).dataLength.toNat)) := by
    unfold next
    rw [if_neg (Nat.not_lt.mpr hlen), if_neg (not_not.mpr hhead)]
  constructor
  · intro hmore
    rw [hnext] at hmore
    split at hmore
    next hlt => rw [Decoder.decodeBody, parseBody, if_pos (by rw [hreadable, hmuch]; exact hlt)]
    next => simp at hmore
  · intro f r hframe
    rw [hnext] at hframe
    split at hframe
    · simp at hframe
    next hge =>
      injection hframe with hf hr
      subst hf hr
      rw [Decoder.decodeBody, parseBody, if_neg (by rw [hreadable, hmuch]; exact hge)]
      refine ⟨_, rfl, ⟨?_, h.capacity, rfl, ?_⟩, ?_, rfl⟩
      · exact h.wf.skip (by rw [hreadable, hmuch]; omega)
      · rw [Buffer.getBuffer_skip, hunread, hmuch, List.drop_drop]
      · -- the body was copied to `m_data`, and the NUL right behind it
        simp only [getPacket, headPacket, hheader, hmuch, hunread]
        refine Prod.ext ?_ ?_
        · refine Packet.ext' rfl ?_
          exact loadBytes_append _ (length_loadBytes _ _)
        · show (loadBytes 1 _).headD 0 = 0
          rw [List.drop_left' (length_loadBytes _ _)]
          rfl

/-- **The header stage**: it consumes a complete valid header, and nothing
otherwise. -/
theorem Rep.parseHeader {d : Decoder} {p : List UInt8} (h : d.Rep p)
    (hst : d.readStatus = .kReadHeader) (hfits : HeadFits d.packetBuffer.capacity p) :
    (p.length < sizeofPacket → d.parseHeader a = (.kNeedMoreData, d))
      ∧ (next p = .invalid → d.parseHeader a = (.kInvalidHeader, d))
      ∧ (sizeofPacket ≤ p.length →
          (Header.load p).headLength = UInt32.ofNat sizeofPacket →
          d.parseHeader a = (.kNoError,
            { d with
              packetBuffer := { d.packetBuffer with header := Header.load p }
              buffer := d.buffer.skip sizeofPacket })) := by
  have hstatus := h.status
  simp only [hst] at hstatus
  obtain ⟨hmuch, hunread⟩ := hstatus
  have hreadable : d.buffer.readableBytes = p.length := by
    rw [← Buffer.length_getBuffer, hunread]
  refine ⟨?_, ?_, ?_⟩
  · intro hlt
    rw [Decoder.parseHeader, if_pos (by rw [hreadable, hmuch]; exact hlt)]
  · intro hinv
    obtain ⟨hlen, hhead⟩ := next_eq_invalid_iff.mp hinv
    rw [Decoder.parseHeader, if_neg (by rw [hreadable, hmuch]; omega), hunread,
      if_pos hhead]
  · intro hlen hhead
    have hle := hfits hlen hhead
    rw [Decoder.parseHeader, if_neg (by rw [hreadable, hmuch]; omega), hunread,
      if_neg (not_not.mpr hhead), if_neg (by omega), hmuch]

theorem Rep.clearPacket {d : Decoder} {p : List UInt8} (h : d.Rep p)
    (hst : d.readStatus = .kReadHeader) : d.clearPacket.Rep p := by
  refine ⟨h.wf, h.capacity, ?_⟩
  have hstatus := h.status
  have hst' : d.clearPacket.readStatus = .kReadHeader := hst
  simp only [hst] at hstatus
  simp only [hst']
  exact hstatus

/-- `Decode` on a state whose header has just been consumed. -/
theorem Rep.decode_of_header {d : Decoder} {p : List UInt8} (h : d.Rep p)
    (hst : d.readStatus = .kReadHeader) (hfits : HeadFits d.packetBuffer.capacity p)
    (hlen : sizeofPacket ≤ p.length)
    (hhead : (Header.load p).headLength = UInt32.ofNat sizeofPacket) :
    ∃ d' : Decoder, d.decode a = d'.decodeBody ∧ d'.readStatus = .kReadBody ∧ d'.Rep p
      ∧ d'.packetBuffer.capacity = d.packetBuffer.capacity := by
  -- the storage does not move, so `packet` still points to the header
  have hparse := ((h.clearPacket hst).parseHeader (a := a) hst hfits).2.2 hlen hhead
  refine ⟨{ d with
      packetBuffer := { d.packetBuffer with header := Header.load p }
      buffer := d.buffer.skip sizeofPacket
      readStatus := .kReadBody
      howmuch := (Header.load p).dataLength.toNat }, ?_, rfl, ?_, rfl⟩
  · have hblock : d.clearPacket.packetBuffer.block = d.packetBuffer.block := rfl
    simp only [decode, hst, hparse, hblock, if_true]
    rfl
  · have hstatus := h.status
    simp only [hst] at hstatus
    have hreadable : sizeofPacket ≤ d.buffer.readableBytes := by
      rw [← Buffer.length_getBuffer, hstatus.2]
      exact hlen
    exact ⟨h.wf.skip hreadable, h.capacity, hlen, hhead, rfl, rfl,
      by rw [Buffer.getBuffer_skip, hstatus.2]⟩

/-- `Decode` on a state that stays at the header stage. -/
theorem Rep.decode_of_no_header {d : Decoder} {p : List UInt8} {e : ErrorType} (h : d.Rep p)
    (hst : d.readStatus = .kReadHeader) (he : e ≠ .kNoError)
    (hparse : ∀ d' : Decoder, d'.Rep p → d'.readStatus = .kReadHeader →
      d'.packetBuffer.capacity = d.packetBuffer.capacity → d'.parseHeader a = (e, d')) :
    ∃ d', d.decode a = (e, d') ∧ d'.Rep p
      ∧ d'.packetBuffer.capacity = d.packetBuffer.capacity := by
  refine ⟨d.clearPacket, ?_, h.clearPacket hst, rfl⟩
  simp only [decode, hst, hparse _ (h.clearPacket hst) hst rfl]

/-- **`Decode` on a complete packet** that fits the storage. -/
theorem Rep.decode_frame {d : Decoder} {p r : List UInt8} {f : Packet × UInt8} (h : d.Rep p)
    (hfits : HeadFits d.packetBuffer.capacity p) (hframe : next p = .frame f r) :
    ∃ d', d.decode a = (.kNoError, d') ∧ d'.Rep r ∧ d'.getPacket = f
      ∧ d'.packetBuffer.capacity = d.packetBuffer.capacity := by
  cases hst : d.readStatus with
  | kReadHeader =>
      obtain ⟨⟨hvalid, -⟩, hp⟩ := next_eq_frame_iff.mp hframe
      have hload : Header.load p = f.1.header := by
        rw [hp, Packet.bytes, List.append_assoc, Header.load_bytes]
      have hlen : sizeofPacket ≤ p.length := by
        rw [hp, List.length_append, Packet.length_bytes]
        omega
      obtain ⟨d', hdec, hst', hrep, hcap⟩ :=
        h.decode_of_header (a := a) hst hfits hlen (by rw [hload]; exact hvalid)
      rw [hdec, ← hcap]
      exact (hrep.decodeBody hst').2 f r hframe
  | kReadBody =>
      unfold decode
      simp only [hst]
      exact (h.decodeBody hst).2 f r hframe

/-- On a header no packet starts with. -/
theorem Rep.decode_invalid {d : Decoder} {p : List UInt8} (h : d.Rep p)
    (hfits : HeadFits d.packetBuffer.capacity p) (hinv : next p = .invalid) :
    ∃ d', d.decode a = (.kInvalidHeader, d') := by
  cases hst : d.readStatus with
  | kReadHeader =>
      obtain ⟨d', hdec, -⟩ := h.decode_of_no_header hst (by simp)
        (fun d' hd' hst' hcap => (hd'.parseHeader hst' (hcap ▸ hfits)).2.1 hinv)
      exact ⟨d', hdec⟩
  | kReadBody =>
      -- a consumed header was valid
      have hstatus := h.status
      simp only [hst] at hstatus
      exact absurd hstatus.2.1 (next_eq_invalid_iff.mp hinv).2

/-- On the beginning of a packet. -/
theorem Rep.decode_more {d : Decoder} {p : List UInt8} (h : d.Rep p)
    (hfits : HeadFits d.packetBuffer.capacity p) (hmore : next p = .more) :
    ∃ d', d.decode a = (.kNeedMoreData, d') ∧ d'.Rep p
      ∧ d'.packetBuffer.capacity = d.packetBuffer.capacity := by
  cases hst : d.readStatus with
  | kReadHeader =>
      -- a whole header that is not invalid is consumed, and the body waited for
      by_cases hlen : p.length < sizeofPacket
      · exact h.decode_of_no_header hst (by simp)
          (fun d' hd' hst' hcap => (hd'.parseHeader hst' (hcap ▸ hfits)).1 hlen)
      · have hhead : (Header.load p).headLength = UInt32.ofNat sizeofPacket := by
          by_contra hne
          have hinv := next_eq_invalid_iff.mpr ⟨Nat.le_of_not_lt hlen, hne⟩
          exact absurd (hinv.symm.trans hmore) (by simp)
        obtain ⟨d', hdec, hst', hrep, hcap⟩ :=
          h.decode_of_header (a := a) hst hfits (Nat.le_of_not_lt hlen) hhead
        exact ⟨d', by rw [hdec]; exact (hrep.decodeBody hst').1 hmore, hrep, hcap⟩
  | kReadBody =>
      refine ⟨d, ?_, h, rfl⟩
      unfold decode
      simp only [hst]
      exact (h.decodeBody hst).1 hmore

/-- **`ipc::decoder_t` implements the packet format** on chunks of at most
`MAX_SIZE_ONCE_READ` bytes. -/
theorem receiver_parses (a : StringAlloc) :
    (receiver a).Parses grammar Rep SmallHead
      (fun c => c.length ≤ Buffer.MAX_SIZE_ONCE_READ) .kInvalidHeader where
  prefix_closed := SmallHead.of_append
  needMore_ne := by simp [receiver]
  invalid_ne := by simp [receiver]
  invalid_ne_needMore := by simp [receiver]
  push := fun h hsmall hmore hc => h.push hsmall hmore hc
  decode_frame := by
    intro d p f r h hsmall hframe
    have hcap := h.capacity
    obtain ⟨d', hdec, hrep, hpacket, -⟩ :=
      h.decode_frame (a := a) (hsmall.headFits (by omega)) hframe
    exact ⟨d', hdec, hrep, hpacket⟩
  decode_invalid := by
    intro d p h hsmall hinv
    have hcap := h.capacity
    exact h.decode_invalid (hsmall.headFits (by omega)) hinv
  decode_more := by
    intro d p h hsmall hmore
    have hcap := h.capacity
    obtain ⟨d', hdec, hrep, -⟩ := h.decode_more (a := a) (hsmall.headFits (by omega)) hmore
    exact ⟨d', hdec, hrep⟩

/-- It does so on any packets that fit its storage, too; whether a chunk still
fits is another matter. -/
theorem receiver_decodes (a : StringAlloc) (capacity : Nat) :
    (receiver a).Parses grammar (fun d p => d.Rep p ∧ d.packetBuffer.capacity = capacity)
      (HeadFits capacity) (fun _ => False) .kInvalidHeader where
  prefix_closed := HeadFits.of_append
  needMore_ne := by simp [receiver]
  invalid_ne := by simp [receiver]
  invalid_ne_needMore := by simp [receiver]
  push := fun _ _ _ hc => hc.elim
  decode_frame := by
    intro d p f r h hfits hframe
    obtain ⟨hrep, rfl⟩ := h
    obtain ⟨d', hdec, hrep', hpacket, hcap⟩ := hrep.decode_frame (a := a) hfits hframe
    exact ⟨d', hdec, ⟨hrep', hcap⟩, hpacket⟩
  decode_invalid := by
    intro d p h hfits hinv
    obtain ⟨hrep, rfl⟩ := h
    exact hrep.decode_invalid hfits hinv
  decode_more := by
    intro d p h hfits hmore
    obtain ⟨hrep, rfl⟩ := h
    obtain ⟨d', hdec, hrep', hcap⟩ := hrep.decode_more (a := a) hfits hmore
    exact ⟨d', hdec, hrep', hcap⟩

/-- The decoder run from a fresh connection is the reference parser, whether
or not the loop looks at what `PushBuffer` answers. -/
theorem run_new (a : StringAlloc) {chunks : List (List UInt8)}
    (hsmall : grammar.Always SmallHead chunks.flatten)
    (hchunks : ∀ c ∈ chunks, c.length ≤ Buffer.MAX_SIZE_ONCE_READ) :
    ∀ R ∈ [receiver a, (receiver a).ignorePush],
      ∃ d, R.run (new a) chunks
        = ((grammar.parse chunks.flatten).frames,
            if (grammar.parse chunks.flatten).invalid then .kInvalidHeader
            else .kNeedMoreData, d) := by
  intro R hR
  rcases List.mem_pair.mp hR with rfl | rfl
  · obtain ⟨d, hrun, -⟩ := (receiver_parses a).run_parse chunks (new a) [] rep_new
      (by rfl) hsmall hchunks
    exact ⟨d, hrun⟩
  · obtain ⟨d, hrun, -⟩ := (receiver_parses a).ignorePush.run_parse chunks (new a) [] rep_new
      (by rfl) hsmall hchunks
    exact ⟨d, hrun⟩

/-- A small packet that comes alone is delivered. -/
theorem run_bytes (a : StringAlloc) {p : Packet} (hp : p.Valid)
    (hlen : p.header.dataLength.toNat ≤ 1008) :
    ∀ R ∈ [receiver a, (receiver a).ignorePush],
      ∃ d, R.run (new a) [p.bytes] = ([(p, 0)], .kNeedMoreData, d) := by
  have hsize : ∀ c ∈ [p.bytes], c.length ≤ Buffer.MAX_SIZE_ONCE_READ := by
    rw [List.forall_mem_singleton, Packet.length_bytes]
    exact Nat.le_trans (Nat.add_le_add_left hlen sizeofPacket) (by decide)
  have hparse : grammar.parse p.bytes = ⟨[(p, 0)], [], false⟩ := by
    have hparse := grammar_encodes.parse_encoded [(p, (0 : UInt8))] []
      (List.forall_mem_singleton.mpr ⟨hp, rfl⟩)
    rw [List.append_nil, List.flatMap_singleton,
      Grammar.parse_of_more (show grammar.next [] = .more from rfl)] at hparse
    exact hparse
  have hbegins : p.bytes <+: [p].flatMap Packet.bytes :=
    ⟨[], by rw [List.append_nil, List.flatMap_singleton]⟩
  obtain ⟨-, halways, -⟩ := parse_prefix_small
    (List.forall_mem_singleton.mpr ⟨hp, smallHead_bytes hlen⟩) hbegins
  have hflat : [p.bytes].flatten = p.bytes := by
    rw [List.flatten_cons, List.flatten_nil, List.append_nil]
  rw [← hflat] at halways
  intro R hR
  obtain ⟨d, hrun⟩ := run_new a halways hsize R hR
  rw [hflat, hparse] at hrun
  exact ⟨d, hrun⟩

/-! ## §5. Every stream, however it is cut. -/

/-- The frames of the format, as packets with their NUL. -/
theorem grammar_parse_split (s : List UInt8) :
    ∃ frames : List Packet, (grammar.parse s).frames = frames.map (·, 0)
      ∧ s = frames.flatMap Packet.bytes ++ (grammar.parse s).rest
      ∧ ∀ p ∈ frames, p.Valid := by
  obtain ⟨hs, hvalid⟩ := grammar_encodes.parse_split s
  refine ⟨(grammar.parse s).frames.map Prod.fst, ?_, ?_, ?_⟩
  · rw [List.map_map]
    nth_rewrite 1 [← List.map_id (grammar.parse s).frames]
    exact List.map_congr_left (fun f hf => Prod.ext rfl (hvalid f hf).2)
  · rw [List.flatMap_map]
    exact hs
  · intro p hp
    obtain ⟨f, hf, rfl⟩ := List.mem_map.mp hp
    exact (hvalid f hf).1

/-- **Every chunking gives the frames of the format.**  Where each valid
header reached declares at most 1008 body bytes, the decoder delivers the
complete frames of the stream in order and stops for good at the first
header whose head length is wrong. -/
theorem ipc_run_every_chunking (a : StringAlloc) (s : List UInt8)
    (hsmall : ∀ (frames : List Packet) (rest : List UInt8),
      s = frames.flatMap Packet.bytes ++ rest → (∀ p ∈ frames, p.Valid) →
      sizeofPacket ≤ rest.length →
      (Header.load rest).headLength = UInt32.ofNat sizeofPacket →
      (Header.load rest).dataLength.toNat ≤ 1008) :
    ∃ (frames : List Packet) (rest : List UInt8),
      s = frames.flatMap Packet.bytes ++ rest
      ∧ (∀ p ∈ frames, p.Valid)
      ∧ (∀ (p : Packet) (t : List UInt8), p.Valid → rest ≠ p.bytes ++ t)
      ∧ ∀ chunks : List (List UInt8), chunks.flatten = s →
          (∀ c ∈ chunks, c.length ≤ Buffer.MAX_SIZE_ONCE_READ) →
          ∃ d, (receiver a).run (new a) chunks
            = (frames.map (·, 0),
                if sizeofPacket ≤ rest.length
                    ∧ (Header.load rest).headLength ≠ UInt32.ofNat sizeofPacket
                then .kInvalidHeader else .kNeedMoreData, d) := by
  obtain ⟨frames, hframes, hs, hvalid⟩ := grammar_parse_split s
  refine ⟨frames, (grammar.parse s).rest, hs, hvalid, ?_, ?_⟩
  · intro p t hp
    exact grammar_encodes.rest_ne s t (p, 0) ⟨hp, rfl⟩
  · intro chunks hflat hchunks
    -- what the hypothesis says of each head is what `SmallHead` asks for
    have halways : grammar.Always SmallHead chunks.flatten := by
      intro t ht hlen hhead
      obtain ⟨fs, hfs, hval⟩ := grammar_encodes.reaches_iff.mp ht
      refine hsmall (fs.map Prod.fst) t ?_ ?_ hlen hhead
      · rw [← hflat, hfs, List.flatMap_map]
      · intro p hp
        obtain ⟨f, hf, rfl⟩ := List.mem_map.mp hp
        exact (hval f hf).1
    obtain ⟨d, hrun⟩ := run_new a halways hchunks (receiver a) List.mem_cons_self
    refine ⟨d, ?_⟩
    rw [hrun, hflat, hframes]
    have hrest : next (grammar.parse s).rest
        = if (grammar.parse s).invalid then .invalid else .more := grammar.next_rest s
    cases hinv : (grammar.parse s).invalid with
    | true =>
        rw [hinv, if_pos rfl] at hrest
        rw [if_pos rfl, if_pos (next_eq_invalid_iff.mp hrest)]
    | false =>
        rw [hinv] at hrest
        rw [if_neg (by simp), if_neg]
        intro hbad
        rw [next_eq_invalid_iff.mpr hbad] at hrest
        exact absurd hrest (by simp)

/-- A heartbeat and the first three bytes of the next packet. -/
def heartbeatStream : List UInt8 :=
  [16, 0, 0, 0, 0, 0, 0, 0, 5, 0, 0, 0, 1, 0, 3, 0, 16, 0, 0]

theorem ipc_run_every_chunking_heartbeat :
    ∃ (frames : List Packet) (rest : List UInt8),
      heartbeatStream = frames.flatMap Packet.bytes ++ rest
      ∧ (∀ p ∈ frames, p.Valid)
      ∧ (∀ (p : Packet) (t : List UInt8), p.Valid → rest ≠ p.bytes ++ t)
      ∧ ∀ chunks : List (List UInt8), chunks.flatten = heartbeatStream →
          (∀ c ∈ chunks, c.length ≤ Buffer.MAX_SIZE_ONCE_READ) →
          ∃ d, (receiver .libstdcxx).run (new .libstdcxx) chunks
            = (frames.map (·, 0),
                if sizeofPacket ≤ rest.length
                    ∧ (Header.load rest).headLength ≠ UInt32.ofNat sizeofPacket
                then .kInvalidHeader else .kNeedMoreData, d) := by
  apply ipc_run_every_chunking .libstdcxx heartbeatStream
  intro frames rest hs _ hlen _
  cases frames with
  | nil =>
      simp only [List.flatMap_nil, List.nil_append] at hs
      subst hs
      decide
  | cons p ps =>
      -- behind one packet there is no room for another header
      have hlength := congrArg List.length hs
      simp only [List.flatMap_cons, List.length_append, Packet.length_bytes, sizeofPacket]
        at hlength hlen
      simp only [heartbeatStream, List.length_cons, List.length_nil] at hlength
      omega

end Decoder

end MultiProcessServer.Ipc
