/-
  MultiProcessServer.Jt1078Server.Jt1078Stream
  ────────────────────────────────────────────
  **THE CARS' STREAMS ARE DECODED EXACTLY BY THE FORMAT.**

  §1 is the JT/T 1078 packet format as a `Grammar`, written without the
  decoder; §2 gives what each stage of `decoder_t` reads and checks; §3 says
  which bytes a decoder state stands for and that every stage answers as the
  grammar does; §4 is the whole-stream theorem.
-/
import MultiProcessServer.Jt1078Server.Jt1078Decoder

namespace MultiProcessServer.Jt1078

open Endian StreamParser

/-! ## §1. The reference format. -/

namespace Header

/-- What the first sixteen bytes must satisfy. -/
def ValidStep1 (h : Header) : Prop :=
  h.dwFramHeadMark = JT_1078_HEAD_MARK
    ∧ h.v2 ++ h.p1 ++ h.x1 ++ h.cc4 = 0x81#8
    ∧ h.pt7.toNat ∈ [6, 7, 8, 26, 91, 98]
    ∧ h.dataType4.toNat ≤ 4
    ∧ h.subpackageHandleMark4.toNat ≤ 3

instance (h : Header) : Decidable h.ValidStep1 := inferInstanceAs (Decidable (_ ∧ _))

theorem validStep1_readStep2 (h : Header) (mem : List UInt8) :
    (h.readStep2 mem).ValidStep1 ↔ h.ValidStep1 := by
  unfold readStep2
  split
  · simp only [ValidStep1]
  · split <;> simp only [ValidStep1]

end Header

/-- A packet of the format.  Fields that its wire form does not carry are
zero. -/
structure Packet.Valid (p : Packet) : Prop where
  step1 : p.header.ValidStep1
  bodyLen : p.header.wdBodyLen ≤ JT1078_MAX_LENGTH
  intervals : ¬p.header.isVideo →
    p.header.wdLastIFrameInterval = 0 ∧ p.header.wdLastFrameInterval = 0
  timeStamp : ¬p.header.isVideo → p.header.dataType4 ≠ DATA_TYPE_AUDIO →
    p.header.bt8timeStamp = 0

/-- The header at the head of a stream that holds it completely. -/
def headHeader (s : List UInt8) : Header :=
  (Header.readStep1 s).readStep2 (s.drop Header.sizeStep1)

/-- The number of header bytes of the stream's first packet. -/
def headSize (s : List UInt8) : Nat :=
  Header.sizeStep1 + (Header.readStep1 s).sizeStep2

/-- The packet at the head of a stream that holds it completely. -/
def headPacket (s : List UInt8) : Packet where
  header := headHeader s
  body := loadBytes (headHeader s).wdBodyLen.toNat (s.drop (headSize s))
  length_body := length_loadBytes _ _

/-- The verdict on the head of a stream of packets. -/
def next (s : List UInt8) : Outcome UInt8 Packet :=
  if s.length < Header.sizeStep1 then .more
  else if ¬(Header.readStep1 s).ValidStep1 then .invalid
  else if s.length < headSize s then .more
  else if (headHeader s).wdBodyLen > JT1078_MAX_LENGTH then .invalid
  else if s.length < headSize s + (headHeader s).wdBodyLen.toNat then .more
  else .frame (headPacket s) (s.drop (headSize s + (headHeader s).wdBodyLen.toNat))

/-- A completely received header stage that violates the format. -/
def BadStage (s : List UInt8) : Prop :=
  Header.sizeStep1 ≤ s.length
    ∧ (¬(Header.readStep1 s).ValidStep1
      ∨ headSize s ≤ s.length ∧ JT1078_MAX_LENGTH < (headHeader s).wdBodyLen)

instance (s : List UInt8) : Decidable (BadStage s) := inferInstanceAs (Decidable (_ ∧ _))

/-- What was checked when there is a packet at the head of a stream. -/
theorem checked_of_next {s r : List UInt8} {p : Packet} (h : next s = .frame p r) :
    (Header.readStep1 s).ValidStep1
      ∧ (headHeader s).wdBodyLen ≤ JT1078_MAX_LENGTH
      ∧ headSize s + (headHeader s).wdBodyLen.toNat ≤ s.length
      ∧ p = headPacket s
      ∧ r = s.drop (headSize s + (headHeader s).wdBodyLen.toNat) := by
  unfold next at h
  split at h
  · simp at h
  next hlen =>
    split at h
    · simp at h
    next hstep =>
      split at h
      · simp at h
      next hsize =>
        split at h
        · simp at h
        next hmax =>
          split at h
          · simp at h
          next hbody =>
            injection h with hp hr
            exact ⟨not_not.mp hstep, UInt16.not_lt.mp hmax, Nat.le_of_not_lt hbody, hp.symm,
              hr.symm⟩

/-- A packet that passes the checks is valid: what its type leaves out of the
wire form was never written. -/
theorem valid_headPacket {s : List UInt8} (hstep : (Header.readStep1 s).ValidStep1)
    (hmax : (headHeader s).wdBodyLen ≤ JT1078_MAX_LENGTH) : (headPacket s).Valid where
  step1 := (Header.validStep1_readStep2 _ _).mpr hstep
  bodyLen := hmax
  intervals := by
    intro hv
    have hrest := Header.readStep2_of_not_video (Header.readStep1 s)
      (s.drop Header.sizeStep1) (fun h => hv ((Header.isVideo_readStep2 _ _).mpr h))
    exact ⟨hrest.1, hrest.2.1⟩
  timeStamp := by
    intro hv ha
    have hrest := Header.readStep2_of_not_video (Header.readStep1 s)
      (s.drop Header.sizeStep1) (fun h => hv ((Header.isVideo_readStep2 _ _).mpr h))
    exact hrest.2.2 (fun h => ha ((Header.dataType4_readStep2 _ _).trans h))

/-- The bytes of the two header stages and of the body, one after the other,
are those of the stream. -/
theorem wire_headPacket {s : List UInt8}
    (hlen : headSize s + (headHeader s).wdBodyLen.toNat ≤ s.length) :
    s = (headPacket s).wire ++ s.drop (headSize s + (headHeader s).wdBodyLen.toNat) := by
  have h1 : Header.sizeStep1 ≤ s.length := by
    unfold headSize at hlen
    omega
  have h2 : (Header.readStep1 s).sizeStep2 ≤ (s.drop Header.sizeStep1).length := by
    rw [List.length_drop]
    unfold headSize at hlen
    omega
  have h3 : (headHeader s).wdBodyLen.toNat ≤ (s.drop (headSize s)).length := by
    rw [List.length_drop]
    omega
  simp only [Packet.wire, headPacket]
  rw [loadBytes_eq_take h3, headHeader, Header.wireStep1_readStep2,
    Header.wireStep1_readStep1 h1, Header.wireStep2_readStep2 _ h2,
    ← headHeader, headSize, ← List.drop_drop, ← List.drop_drop,
    List.append_assoc, List.append_assoc, ← List.drop_drop,
    List.take_append_drop, List.take_append_drop, List.take_append_drop]

/-- A valid packet is found again at the head of its wire form. -/
theorem next_wire {p : Packet} (hp : p.Valid) (r : List UInt8) :
    next (p.wire ++ r) = .frame p r := by
  have hwire : p.wire ++ r
      = p.header.wireStep1 ++ (p.header.wireStep2 ++ (p.body ++ r)) := by
    simp [Packet.wire]
  have h1 : Header.readStep1 (p.wire ++ r) = p.header.step1 := by
    rw [hwire, Header.readStep1_wireStep1]
  have hvalid : (Header.readStep1 (p.wire ++ r)).ValidStep1 := by
    rw [h1]
    exact hp.step1
  have hsize : headSize (p.wire ++ r) = Header.sizeStep1 + p.header.sizeStep2 := by
    unfold headSize
    rw [h1]
    rfl
  have hheader : headHeader (p.wire ++ r) = p.header := by
    rw [headHeader, h1, hwire, List.drop_left' (Header.length_wireStep1 _),
      Header.readStep2_wireStep2 _ _ hp.intervals hp.timeStamp]
  have hdrop : (p.wire ++ r).drop (headSize (p.wire ++ r)) = p.body ++ r := by
    rw [hsize, hwire, ← List.drop_drop, List.drop_left' (Header.length_wireStep1 _),
      List.drop_left' (Header.length_wireStep2 _)]
  have hpacket : headPacket (p.wire ++ r) = p := by
    apply Packet.ext'
    · exact hheader
    · show loadBytes _ _ = _
      rw [hheader, hdrop]
      exact loadBytes_append r p.length_body
  have hlen := p.length_wire
  have htotal : (p.wire ++ r).length
      = Header.sizeStep1 + (p.header.sizeStep2 + p.header.wdBodyLen.toNat) + r.length := by
    rw [List.length_append, hlen]
  -- every check of `next` is passed
  rw [next, if_neg (by omega), if_neg (not_not.mpr hvalid), if_neg (by omega), hheader,
    if_neg (UInt16.not_lt.mpr hp.bodyLen), if_neg (by omega), hpacket, hsize, Nat.add_assoc,
    List.drop_left' hlen]

/-- **The grammar accepts exactly the wire forms of valid packets.** -/
theorem next_eq_frame_iff {s r : List UInt8} {p : Packet} :
    next s = .frame p r ↔ p.Valid ∧ s = p.wire ++ r := by
  constructor
  · intro h
    obtain ⟨hstep, hmax, hlen, rfl, rfl⟩ := checked_of_next h
    exact ⟨valid_headPacket hstep hmax, wire_headPacket hlen⟩
  · intro h
    obtain ⟨hp, rfl⟩ := h
    exact next_wire hp r

theorem next_eq_invalid_iff {s : List UInt8} : next s = .invalid ↔ BadStage s := by
  unfold next
  constructor
  · intro h
    split at h
    · simp at h
    next hlen =>
      refine ⟨Nat.le_of_not_lt hlen, ?_⟩
      split at h
      next hstep => exact .inl hstep
      next =>
        split at h
        · simp at h
        next hsize =>
          split at h
          next hmax => exact .inr ⟨Nat.le_of_not_lt hsize, hmax⟩
          next => split at h <;> simp at h
  · intro hstage
    obtain ⟨hlen, hbad⟩ := hstage
    rw [if_neg (Nat.not_lt.mpr hlen)]
    split
    · rfl
    next hstep =>
      rcases hbad with hbad | ⟨hsize, hmax⟩
      · exact absurd hbad hstep
      · rw [if_neg (Nat.not_lt.mpr hsize), if_pos hmax]

theorem headSize_append {s : List UInt8} (t : List UInt8)
    (hlen : Header.sizeStep1 ≤ s.length) : headSize (s ++ t) = headSize s := by
  rw [headSize, Header.readStep1_append t hlen, headSize]

theorem headHeader_append {s : List UInt8} (t : List UInt8)
    (hlen : Header.sizeStep1 ≤ s.length) (hsize : headSize s ≤ s.length) :
    headHeader (s ++ t) = headHeader s := by
  have hle : (Header.readStep1 s).sizeStep2 ≤ (s.drop Header.sizeStep1).length := by
    rw [List.length_drop]
    unfold headSize at hsize
    omega
  rw [headHeader, Header.readStep1_append t hlen, List.drop_append_of_le_length hlen,
    Header.readStep2_append _ t hle, headHeader]

theorem BadStage.append {s : List UInt8} (t : List UInt8) (h : BadStage s) :
    BadStage (s ++ t) := by
  obtain ⟨hlen, hbad⟩ := h
  refine ⟨by simp only [List.length_append]; omega, ?_⟩
  rw [Header.readStep1_append t hlen]
  rcases hbad with hbad | ⟨hsize, hmax⟩
  · exact .inl hbad
  · refine .inr ⟨by rw [headSize_append t hlen, List.length_append]; omega, ?_⟩
    rw [headHeader_append t hlen hsize]
    exact hmax

/-- A complete valid header is followed by its body. -/
theorem next_of_header {s : List UInt8} (hlen : Header.sizeStep1 ≤ s.length)
    (hstep : (Header.readStep1 s).ValidStep1) (hsize : headSize s ≤ s.length)
    (hmax : (headHeader s).wdBodyLen ≤ JT1078_MAX_LENGTH) :
    next s = if s.length < headSize s + (headHeader s).wdBodyLen.toNat then Outcome.more
      else .frame (headPacket s) (s.drop (headSize s + (headHeader s).wdBodyLen.toNat)) := by
  rw [next, if_neg (Nat.not_lt.mpr hlen), if_neg (not_not.mpr hstep),
    if_neg (Nat.not_lt.mpr hsize), if_neg (UInt16.not_lt.mpr hmax)]

/-- A packet is not empty. -/
theorem length_rest_lt {s r : List UInt8} {p : Packet} (h : next s = .frame p r) :
    r.length < s.length := by
  obtain ⟨-, rfl⟩ := next_eq_frame_iff.mp h
  simp only [List.length_append, Packet.length_wire, Header.sizeStep1]
  omega

theorem next_append_of_frame {s r : List UInt8} {p : Packet} (t : List UInt8)
    (h : next s = .frame p r) : next (s ++ t) = .frame p (r ++ t) := by
  obtain ⟨hp, rfl⟩ := next_eq_frame_iff.mp h
  exact next_eq_frame_iff.mpr ⟨hp, List.append_assoc _ _ _⟩

theorem next_append_of_invalid {s : List UInt8} (t : List UInt8) (h : next s = .invalid) :
    next (s ++ t) = .invalid :=
  next_eq_invalid_iff.mpr ((next_eq_invalid_iff.mp h).append t)

/-- The packet format as a grammar. -/
def grammar : Grammar UInt8 Packet where
  next := next
  next_shrinks := length_rest_lt
  next_frame_append := next_append_of_frame
  next_invalid_append := next_append_of_invalid

theorem grammar_encodes : grammar.Encodes Packet.Valid Packet.wire := next_eq_frame_iff

/-! ## §2. The stages of the decoder. -/

namespace Decoder

theorem isSupport_iff (pt7 : BitVec 7) :
    isSupportCodingType pt7.toNat = true ↔ pt7.toNat ∈ [6, 7, 8, 26, 91, 98] := by
  decide +revert

theorem firstByte_iff (v2 : BitVec 2) (p1 x1 : BitVec 1) (cc4 : BitVec 4) :
    v2 ++ p1 ++ x1 ++ cc4 = 0x81#8 ↔ v2 = 2 ∧ p1 = 0 ∧ x1 = 0 ∧ cc4 = 1 := by
  decide +revert

theorem dataType4_iff (t : BitVec 4) :
    t.toNat ≤ 4 ↔ ¬(t ≠ DATA_TYPE_VIDEO_I ∧ t ≠ DATA_TYPE_VIDEO_P ∧ t ≠ DATA_TYPE_VIDEO_B
      ∧ t ≠ DATA_TYPE_AUDIO ∧ t ≠ DATA_TYPE_ROUTE) := by
  decide +revert

theorem mark4_iff (m : BitVec 4) :
    m.toNat ≤ 3 ↔ ¬(m ≠ RCV_ATOMIC_PACKAGE ∧ m ≠ RCV_FIRST_PACKAGE ∧ m ≠ RCV_LAST_PACKAGE
      ∧ m ≠ RCV_MIDDLE_PACKAGE) := by
  decide +revert

theorem route_of_not_video {h : Header} (htype : h.dataType4.toNat ≤ 4) (hv : ¬h.isVideo)
    (ha : h.dataType4 ≠ DATA_TYPE_AUDIO) : h.dataType4 = DATA_TYPE_ROUTE := by
  have htypes := (dataType4_iff _).mp htype
  unfold Header.isVideo at hv
  by_contra hne
  exact htypes ⟨fun h => hv (.inl h), fun h => hv (.inr (.inl h)),
    fun h => hv (.inr (.inr h)), ha, hne⟩

/-- The shifts and masks of the source, byte by byte. -/
theorem bits_first (b : UInt8) :
    bits 2 (b >>> 6 &&& 0x3) = b.toBitVec.extractLsb' 6 2
      ∧ bits 1 (b >>> 5 &&& 0x1) = b.toBitVec.extractLsb' 5 1
      ∧ bits 1 (b >>> 4 &&& 0x1) = b.toBitVec.extractLsb' 4 1
      ∧ bits 4 (b &&& 0xF) = b.toBitVec.extractLsb' 0 4 := by
  obtain ⟨x⟩ := b
  decide +revert

theorem bits_second (b : UInt8) :
    bits 1 (b >>> 7 &&& 0x1) = b.toBitVec.extractLsb' 7 1
      ∧ bits 7 (b &&& 0x7F) = b.toBitVec.extractLsb' 0 7 := by
  obtain ⟨x⟩ := b
  decide +revert

theorem bits_third (b : UInt8) :
    bits 4 (b >>> 4 &&& 0x0F) = b.toBitVec.extractLsb' 4 4
      ∧ bits 4 (b &&& 0x0F) = b.toBitVec.extractLsb' 0 4 := by
  obtain ⟨x⟩ := b
  decide +revert

variable {a : StringAlloc} {d : Decoder}

/-- The seven reads of the first stage, each at its offset of the unread bytes. -/
theorem reads_step1 {b : Buffer} (hwf : b.WF) (hlen : 16 ≤ b.readableBytes) :
    b.readInt32 = (netU32 b.getBuffer, b.skip 4)
      ∧ (b.skip 4).readInt8 = (loadU8 (b.getBuffer.drop 4), b.skip 5)
      ∧ (b.skip 5).readInt8 = (loadU8 (b.getBuffer.drop 5), b.skip 6)
      ∧ (b.skip 6).readInt16 = (netU16 (b.getBuffer.drop 6), b.skip 8)
      ∧ (b.skip 8).readBuffer 6 = (loadBytes 6 (b.getBuffer.drop 8), b.skip 14)
      ∧ (b.skip 14).readInt8 = (loadU8 (b.getBuffer.drop 14), b.skip 15)
      ∧ (b.skip 15).readInt8 = (loadU8 (b.getBuffer.drop 15), b.skip 16) := by
  have hskip (k : Nat) (hk : k ≤ 16) : (b.skip k).WF := hwf.skip (by omega)
  have hread (k : Nat) : (b.skip k).readableBytes = b.readableBytes - k :=
    Buffer.readableBytes_skip k
  have r0 := Buffer.readInt32_eq hwf (show 4 ≤ b.readableBytes by omega)
  have r1 := Buffer.readInt8_eq (hskip 4 (by omega)) (by rw [hread]; omega)
  have r2 := Buffer.readInt8_eq (hskip 5 (by omega)) (by rw [hread]; omega)
  have r3 := Buffer.readInt16_eq (hskip 6 (by omega)) (by rw [hread]; omega)
  have r4 := @Buffer.readBuffer_eq _ (hskip 8 (by omega)) 6 (by rw [hread]; omega)
  have r5 := Buffer.readInt8_eq (hskip 14 (by omega)) (by rw [hread]; omega)
  have r6 := Buffer.readInt8_eq (hskip 15 (by omega)) (by rw [hread]; omega)
  simp only [Buffer.getBuffer_skip, Buffer.skip_skip, Nat.reduceAdd] at r1 r2 r3 r4 r5 r6
  exact ⟨r0, r1, r2, r3, r4, r5, r6⟩

/-- The three reads of the second stage in front of the body length of a video
packet. -/
theorem reads_video {b : Buffer} (hwf : b.WF) (hlen : 12 ≤ b.readableBytes) :
    b.readInt64 = (netU64 b.getBuffer, b.skip 8)
      ∧ (b.skip 8).readInt16 = (netU16 (b.getBuffer.drop 8), b.skip 10)
      ∧ (b.skip 10).readInt16 = (netU16 (b.getBuffer.drop 10), b.skip 12) := by
  have hread (k : Nat) : (b.skip k).readableBytes = b.readableBytes - k :=
    Buffer.readableBytes_skip k
  have r0 := Buffer.readInt64_eq hwf (show 8 ≤ b.readableBytes by omega)
  have r1 := Buffer.readInt16_eq (hwf.skip (n := 8) (by omega)) (by rw [hread]; omega)
  have r2 := Buffer.readInt16_eq (hwf.skip (n := 10) (by omega)) (by rw [hread]; omega)
  simp only [Buffer.getBuffer_skip, Buffer.skip_skip, Nat.reduceAdd] at r1 r2
  exact ⟨r0, r1, r2⟩

/-- **The first header stage** reads sixteen bytes and checks each of them. -/
theorem parseHeaderStep1_spec (hwf : d.buffer.WF) (hclear : d.header = .cleared)
    (hmuch : d.howmuch = READ_SIZE_FOR_HEADER_FIRST)
    (hlen : READ_SIZE_FOR_HEADER_FIRST ≤ d.buffer.readableBytes) :
    ((Header.readStep1 d.buffer.getBuffer).ValidStep1 →
        d.parseHeaderStep1 = (.kNoError,
          { d with
            buffer := d.buffer.skip 16
            header := Header.readStep1 d.buffer.getBuffer }))
      ∧ (¬(Header.readStep1 d.buffer.getBuffer).ValidStep1 →
        ∃ d', d.parseHeaderStep1 = (.kInvalidHeader, d')) := by
  simp only [READ_SIZE_FOR_HEADER_FIRST] at hlen
  obtain ⟨b, header, body, howmuch, status⟩ := d
  dsimp only at hwf hclear hmuch hlen ⊢
  subst hclear hmuch
  obtain ⟨r0, r1, r2, r3, r4, r5, r6⟩ := reads_step1 hwf hlen
  generalize b.getBuffer = p at *
  have hsim := SimCardNumber.load_loadBytes (p.drop 8)
  obtain ⟨hv2, hp1, hx1, hcc4⟩ := bits_first (loadU8 (p.drop 4))
  obtain ⟨hm1, hpt7⟩ := bits_second (loadU8 (p.drop 5))
  obtain ⟨hdata, hmark4⟩ := bits_third (loadU8 (p.drop 15))
  unfold parseHeaderStep1
  rw [if_neg (by simp only [READ_SIZE_FOR_HEADER_FIRST]; omega)]
  simp only [r0, r1, r2, r3, r4, r5, r6, hv2, hp1, hx1, hcc4, hm1, hpt7, hdata, hmark4, hsim,
    Header.ValidStep1, Header.readStep1]
  constructor
  · intro hstep
    obtain ⟨hmark, hbyte, hcoding, htype, hpart⟩ := hstep
    obtain ⟨h2, h3, h4, h5⟩ := (firstByte_iff _ _ _ _).mp hbyte
    rw [if_neg (not_not.mpr hmark), if_neg (not_not.mpr h2), if_neg (not_not.mpr h3),
      if_neg (not_not.mpr h4), if_neg (not_not.mpr h5),
      if_neg (not_not.mpr ((isSupport_iff _).mpr hcoding)),
      if_neg ((dataType4_iff _).mp htype), if_neg ((mark4_iff _).mp hpart)]
  · intro hbad
    iterate 8
      split
      · exact ⟨_, rfl⟩
    -- every check passed
    next hmark h2 h3 h4 h5 hcoding htype hpart =>
      exact absurd ⟨not_not.mp hmark,
        (firstByte_iff _ _ _ _).mpr ⟨not_not.mp h2, not_not.mp h3, not_not.mp h4, not_not.mp h5⟩,
        (isSupport_iff _).mp (not_not.mp hcoding), (dataType4_iff _).mpr htype,
        (mark4_iff _).mpr hpart⟩ hbad

/-- The body length, for a decoder that is `r` once it is read. -/
theorem parseBodyLen_spec {r : Decoder} (hwf : d.buffer.WF) (hlen : 2 ≤ d.buffer.readableBytes)
    (hr : { d with
            buffer := d.buffer.skip 2
            header := { d.header with wdBodyLen := netU16 d.buffer.getBuffer } } = r) :
    (r.header.wdBodyLen ≤ JT1078_MAX_LENGTH → d.parseBodyLen = (.kNoError, r))
      ∧ (JT1078_MAX_LENGTH < r.header.wdBodyLen →
        ∃ d', d.parseBodyLen = (.kInvalidHeader, d')) := by
  subst hr
  unfold parseBodyLen
  rw [Buffer.readInt16_eq hwf hlen]
  dsimp only
  constructor
  · intro hle
    rw [if_neg (UInt16.not_lt.mpr hle)]
  · intro hlt
    rw [if_pos hlt]
    exact ⟨_, rfl⟩

/-- The type-dependent rest is not complete: nothing is consumed. -/
theorem parseHeaderStep2_of_lt (hmuch : d.howmuch = READ_MIN_SIZE_FOR_HEADER_SECOND)
    (hlt : d.buffer.readableBytes < d.header.sizeStep2) :
    d.parseHeaderStep2 = (.kNeedMoreData, d) := by
  rw [parseHeaderStep2]
  by_cases hmin : d.buffer.readableBytes < d.howmuch
  · rw [if_pos hmin]
  · rw [if_neg hmin]
    by_cases hv : d.header.isVideo
    · rw [Header.sizeStep2, if_pos hv] at hlt
      rw [if_pos (show _ ∨ _ ∨ _ from hv),
        if_pos (show _ < READ_VIDEO_SIZE_FOR_HEADER_SECOND from hlt)]
    · rw [Header.sizeStep2, if_neg hv] at hlt
      rw [if_neg (show ¬(_ ∨ _ ∨ _) from hv)]
      by_cases ha : d.header.dataType4 = DATA_TYPE_AUDIO
      · rw [if_pos ha] at hlt
        rw [if_pos ha, if_pos (show _ < READ_AUDIO_SIZE_FOR_HEADER_SECOND from hlt)]
      · rw [if_neg ha] at hlt
        simp only [hmuch, READ_MIN_SIZE_FOR_HEADER_SECOND] at hmin
        omega

/-- The type-dependent rest is complete: all of it but the body length has
been read when `parseBodyLen` starts. -/
theorem parseHeaderStep2_of_le (hwf : d.buffer.WF) (htype : d.header.dataType4.toNat ≤ 4)
    (hmuch : d.howmuch = READ_MIN_SIZE_FOR_HEADER_SECOND)
    (hle : d.header.sizeStep2 ≤ d.buffer.readableBytes) :
    ∃ d₁ : Decoder, d.parseHeaderStep2 = d₁.parseBodyLen
      ∧ d₁.buffer.WF ∧ 2 ≤ d₁.buffer.readableBytes
      ∧ { d₁ with
          buffer := d₁.buffer.skip 2
          header := { d₁.header with wdBodyLen := netU16 d₁.buffer.getBuffer } }
        = { d with
            buffer := d.buffer.skip d.header.sizeStep2
            header := d.header.readStep2 d.buffer.getBuffer } := by
  have hread (k : Nat) : (d.buffer.skip k).readableBytes = d.buffer.readableBytes - k :=
    Buffer.readableBytes_skip k
  have hmin : 2 ≤ d.header.sizeStep2 := by
    unfold Header.sizeStep2
    split
    · omega
    · split <;> omega
  rw [parseHeaderStep2, if_neg (by rw [hmuch, READ_MIN_SIZE_FOR_HEADER_SECOND]; omega)]
  by_cases hv : d.header.isVideo
  · rw [Header.sizeStep2, if_pos hv] at hle ⊢
    rw [if_pos (show _ ∨ _ ∨ _ from hv),
      if_neg (show ¬_ < READ_VIDEO_SIZE_FOR_HEADER_SECOND from Nat.not_lt.mpr hle),
      Header.readStep2, if_pos hv]
    obtain ⟨r0, r1, r2⟩ := reads_video hwf (by omega)
    simp only [r0, r1, r2]
    refine ⟨_, rfl, hwf.skip (by omega), by rw [hread]; omega, ?_⟩
    simp only [Buffer.getBuffer_skip, Buffer.skip_skip, Nat.reduceAdd]
  · rw [Header.sizeStep2, if_neg hv] at hle ⊢
    rw [if_neg (show ¬(_ ∨ _ ∨ _) from hv), Header.readStep2, if_neg hv]
    by_cases ha : d.header.dataType4 = DATA_TYPE_AUDIO
    · rw [if_pos ha] at hle ⊢
      rw [if_pos ha,
        if_neg (show ¬_ < READ_AUDIO_SIZE_FOR_HEADER_SECOND from Nat.not_lt.mpr hle),
        if_pos ha]
      have r0 := Buffer.readInt64_eq hwf (by omega)
      simp only [r0]
      refine ⟨_, rfl, hwf.skip (by omega), by rw [hread]; omega, ?_⟩
      simp only [Buffer.getBuffer_skip, Buffer.skip_skip, Nat.reduceAdd]
    · rw [if_neg ha] at hle ⊢
      have hroute : d.header.dataType4 = DATA_TYPE_ROUTE := route_of_not_video htype hv ha
      rw [if_neg ha, if_pos hroute, if_neg ha]
      exact ⟨d, rfl, hwf, hle, rfl⟩

/-! ## §3. The decoder implements the format. -/

/-- The bytes a decoder state stands for: those after the last delivered
packet, header stages already consumed included. -/
structure Rep (d : Decoder) (p : List UInt8) : Prop where
  wf : d.buffer.WF
  status : match d.readStatus with
    | .kReadHeaderStep1 =>
        d.howmuch = READ_SIZE_FOR_HEADER_FIRST ∧ d.buffer.getBuffer = p
    | .kReadHeaderStep2 =>
        d.howmuch = READ_MIN_SIZE_FOR_HEADER_SECOND
          ∧ Header.sizeStep1 ≤ p.length ∧ (Header.readStep1 p).ValidStep1
          ∧ d.header = Header.readStep1 p
          ∧ d.buffer.getBuffer = p.drop Header.sizeStep1
    | .kReadBody =>
        d.howmuch = (headHeader p).wdBodyLen.toNat
          ∧ Header.sizeStep1 ≤ p.length ∧ (Header.readStep1 p).ValidStep1
          ∧ headSize p ≤ p.length ∧ (headHeader p).wdBodyLen ≤ JT1078_MAX_LENGTH
          ∧ d.header = headHeader p
          ∧ d.buffer.getBuffer = p.drop (headSize p)

theorem rep_new : (new a).Rep [] where
  wf := (Buffer.new_wf).reserve _
  status := ⟨rfl, rfl⟩

/-- What `Decode` has to answer when the unfinished bytes are `p`. -/
def Answers (p : List UInt8) (answer : ErrorType × Decoder) : Prop :=
  match next p with
  | .more => ∃ d', answer = (.kNeedMoreData, d') ∧ d'.Rep p
  | .invalid => ∃ d', answer = (.kInvalidHeader, d')
  | .frame q r => ∃ d', answer = (.kNoError, d') ∧ d'.Rep r ∧ d'.getPacket = q

/-- **The body stage.** -/
theorem Rep.answers_decodeBody {p : List UInt8} (h : d.Rep p)
    (hst : d.readStatus = .kReadBody) : Answers p d.decodeBody := by
  have hstatus := h.status
  simp only [hst] at hstatus
  obtain ⟨hmuch, hlen, hstep, hsize, hmax, hheader, hunread⟩ := hstatus
  -- the headers were consumed, the body is what remains
  have hreadable : d.buffer.readableBytes = p.length - headSize p := by
    rw [← Buffer.length_getBuffer, hunread, List.length_drop]
  unfold Answers
  rw [next_of_header hlen hstep hsize hmax]
  split
  next heq =>
    split at heq
    next hlt =>
      refine ⟨d, ?_, h⟩
      rw [Decoder.decodeBody, parseBody, if_pos (by rw [hreadable, hmuch]; omega)]
    next => simp at heq
  next heq => split at heq <;> simp at heq
  next q r heq =>
    split at heq
    · simp at heq
    next hge =>
      injection heq with hq hr
      subst hq hr
      -- the body is here: it is cut off the front of the buffer
      have hle : d.howmuch ≤ d.buffer.readableBytes := by rw [hreadable, hmuch]; omega
      rw [Decoder.decodeBody, parseBody, if_neg (Nat.not_lt.mpr hle),
        Buffer.readBuffer_eq h.wf hle]
      refine ⟨_, rfl, ⟨h.wf.skip hle, rfl, ?_⟩, ?_⟩
      · rw [Buffer.getBuffer_skip, hunread, hmuch, List.drop_drop]
      · apply Packet.ext'
        · exact hheader
        · show loadBytes _ _ = loadBytes _ _
          rw [hunread, hmuch, hheader]
          exact loadBytes_append _ (length_loadBytes _ _)

/-- **From the second header stage on.** -/
theorem Rep.answers_decodeStep2 {p : List UInt8} (h : d.Rep p)
    (hst : d.readStatus = .kReadHeaderStep2) : Answers p d.decodeStep2 := by
  have hstatus := h.status
  simp only [hst] at hstatus
  obtain ⟨hmuch, hlen, hstep, hheader, hunread⟩ := hstatus
  have hreadable : d.buffer.readableBytes = p.length - Header.sizeStep1 := by
    rw [← Buffer.length_getBuffer, hunread, List.length_drop]
  -- the second header is read at the same place of `p`
  have hhead : d.header.readStep2 d.buffer.getBuffer = headHeader p := by
    rw [hheader, hunread, headHeader]
  have hsizeEq : headSize p = Header.sizeStep1 + d.header.sizeStep2 := by
    unfold headSize
    rw [hheader]
  by_cases hlt : d.buffer.readableBytes < d.header.sizeStep2
  · -- not complete
    have hnext : next p = .more := by
      unfold next
      rw [if_neg (Nat.not_lt.mpr hlen), if_neg (not_not.mpr hstep), if_pos (by omega)]
    unfold Answers
    rw [hnext]
    refine ⟨d, ?_, h⟩
    rw [Decoder.decodeStep2, parseHeaderStep2_of_lt hmuch hlt]
  · have hge : d.header.sizeStep2 ≤ d.buffer.readableBytes := Nat.le_of_not_lt hlt
    obtain ⟨d₁, hparse, hwf, hmin, hr⟩ :=
      parseHeaderStep2_of_le h.wf (by rw [hheader]; exact hstep.2.2.2.1) hmuch hge
    obtain ⟨hok, hbad⟩ := parseBodyLen_spec hwf hmin hr
    rw [hhead] at hok hbad
    by_cases hmax : (headHeader p).wdBodyLen ≤ JT1078_MAX_LENGTH
    · -- the body stage follows in the same call
      have hrep : Rep { d with
          buffer := d.buffer.skip d.header.sizeStep2
          header := headHeader p
          readStatus := .kReadBody
          howmuch := (headHeader p).wdBodyLen.toNat } p := by
        refine ⟨h.wf.skip hge, rfl, hlen, hstep, by omega, hmax, rfl, ?_⟩
        rw [Buffer.getBuffer_skip, hunread, hsizeEq, List.drop_drop]
      have hbody := hrep.answers_decodeBody rfl
      rw [Decoder.decodeStep2, hparse, hok hmax]
      exact hbody
    · obtain ⟨d', hd'⟩ := hbad (UInt16.not_le.mp hmax)
      have hnext : next p = .invalid :=
        next_eq_invalid_iff.mpr ⟨hlen, .inr ⟨by omega, UInt16.not_le.mp hmax⟩⟩
      unfold Answers
      rw [hnext]
      refine ⟨d', ?_⟩
      rw [Decoder.decodeStep2, hparse, hd']

/-- **From the first header stage on.** -/
theorem Rep.answers_decodeStep1 {p : List UInt8} (h : d.Rep p)
    (hst : d.readStatus = .kReadHeaderStep1) : Answers p d.decodeStep1 := by
  have hstatus := h.status
  simp only [hst] at hstatus
  obtain ⟨hmuch, hunread⟩ := hstatus
  have hreadable : d.buffer.readableBytes = p.length := by
    rw [← Buffer.length_getBuffer, hunread]
  -- `clearPacket` keeps the buffer and the stage
  have hmuch' : d.clearPacket.howmuch = READ_SIZE_FOR_HEADER_FIRST := hmuch
  have hunread' : d.clearPacket.buffer.getBuffer = p := hunread
  have hreadable' : d.clearPacket.buffer.readableBytes = p.length := hreadable
  by_cases hlt : p.length < Header.sizeStep1
  · have hnext : next p = .more := by rw [next, if_pos hlt]
    unfold Answers
    rw [hnext]
    refine ⟨d.clearPacket, ?_, h.wf, ?_⟩
    · rw [Decoder.decodeStep1, parseHeaderStep1,
        if_pos (by rw [hreadable', hmuch']; exact hlt)]
    · have hst' : d.clearPacket.readStatus = .kReadHeaderStep1 := hst
      simp only [hst']
      exact ⟨hmuch', hunread'⟩
  · have hlen : Header.sizeStep1 ≤ p.length := Nat.le_of_not_lt hlt
    obtain ⟨hok, hbad⟩ := @parseHeaderStep1_spec d.clearPacket h.wf rfl hmuch'
      (by rw [hreadable']; exact hlen)
    rw [hunread'] at hok hbad
    by_cases hstep : (Header.readStep1 p).ValidStep1
    · have hrep : Rep { d.clearPacket with
          buffer := d.clearPacket.buffer.skip 16
          header := Header.readStep1 p
          readStatus := .kReadHeaderStep2
          howmuch := READ_MIN_SIZE_FOR_HEADER_SECOND } p := by
        refine ⟨h.wf.skip (by rw [hreadable]; exact hlen), rfl, hlen, hstep, rfl, ?_⟩
        rw [Buffer.getBuffer_skip, hunread']
        rfl
      have hstep2 := hrep.answers_decodeStep2 rfl
      rw [Decoder.decodeStep1, hok hstep]
      exact hstep2
    · obtain ⟨d', hd'⟩ := hbad hstep
      have hnext : next p = .invalid := next_eq_invalid_iff.mpr ⟨hlen, .inl hstep⟩
      unfold Answers
      rw [hnext]
      refine ⟨d', ?_⟩
      rw [Decoder.decodeStep1, hd']

theorem Rep.answers_decode {p : List UInt8} (h : d.Rep p) : Answers p d.decode := by
  unfold decode
  cases hst : d.readStatus with
  | kReadHeaderStep1 => exact h.answers_decodeStep1 hst
  | kReadHeaderStep2 => exact h.answers_decodeStep2 hst
  | kReadBody => exact h.answers_decodeBody hst

theorem sizeStep2_le (h : Header) : h.sizeStep2 ≤ 14 := by
  unfold Header.sizeStep2
  split
  · omega
  · split <;> omega

/-- An unfinished packet is shorter than the longest packet. -/
theorem length_of_more {p : List UInt8} (hmore : next p = .more) : p.length < 980 := by
  -- the body length was checked before the body is waited for
  have hle := sizeStep2_le (Header.readStep1 p)
  unfold next at hmore
  split at hmore
  next hlen => exact Nat.lt_trans hlen (by decide)
  next hlen =>
    split at hmore
    · simp at hmore
    next =>
      split at hmore
      next hsize =>
        simp only [headSize, Header.sizeStep1] at hsize
        omega
      next =>
        split at hmore
        · simp at hmore
        next hmax =>
          split at hmore
          next hbody =>
            have hmax' : (headHeader p).wdBodyLen.toNat ≤ 950 := UInt16.not_lt.mp hmax
            simp only [headSize, Header.sizeStep1] at hbody
            omega
          next => simp at hmore

theorem Rep.readableBytes_le {p : List UInt8} (h : d.Rep p) :
    d.buffer.readableBytes ≤ p.length := by
  have hstatus := h.status
  rw [← Buffer.length_getBuffer]
  cases hst : d.readStatus with
  | kReadHeaderStep1 =>
      simp only [hst] at hstatus
      exact Nat.le_of_eq (congrArg List.length hstatus.2)
  | kReadHeaderStep2 =>
      simp only [hst] at hstatus
      rw [hstatus.2.2.2.2, List.length_drop]
      exact Nat.sub_le _ _
  | kReadBody =>
      simp only [hst] at hstatus
      rw [hstatus.2.2.2.2.2.2, List.length_drop]
      exact Nat.sub_le _ _

/-- A pushed chunk is appended to the bytes the decoder stands for. -/
theorem Rep.push {p c : List UInt8} (h : d.Rep p) (hmore : next p = .more)
    (hc : c.length ≤ Buffer.MAX_SIZE_ONCE_READ) :
    ∃ d', d.pushBuffer a c = (.kNoError, d') ∧ d'.Rep (p ++ c) := by
  have hlt := length_of_more hmore
  have hle := h.readableBytes_le
  obtain ⟨b, hb, hwf, hget⟩ := Buffer.pushBuffer_spec (a := a) h.wf
    (show c.length + d.buffer.readableBytes ≤ Buffer.MAX_BUFFER_SIZE by
      simp only [Buffer.MAX_SIZE_ONCE_READ, Buffer.MAX_BUFFER_SIZE] at hc ⊢
      omega)
  refine ⟨{ d with buffer := b }, by simp only [pushBuffer, hb], hwf, ?_⟩
  have hstatus := h.status
  have htotal : p.length ≤ (p ++ c).length := by simp
  cases hst : d.readStatus with
  | kReadHeaderStep1 =>
      simp only [hst] at hstatus ⊢
      exact ⟨hstatus.1, by rw [hget, hstatus.2]⟩
  | kReadHeaderStep2 =>
      simp only [hst] at hstatus ⊢
      obtain ⟨hmuch, hlen, hstep, hheader, hunread⟩ := hstatus
      rw [Header.readStep1_append c hlen, hget, hunread, List.drop_append_of_le_length hlen]
      exact ⟨hmuch, Nat.le_trans hlen htotal, hstep, hheader, rfl⟩
  | kReadBody =>
      simp only [hst] at hstatus ⊢
      obtain ⟨hmuch, hlen, hstep, hsize, hmax, hheader, hunread⟩ := hstatus
      rw [Header.readStep1_append c hlen, headHeader_append c hlen hsize,
        headSize_append c hlen, hget, hunread, List.drop_append_of_le_length hsize]
      exact ⟨hmuch, Nat.le_trans hlen htotal, hstep, Nat.le_trans hsize htotal, hmax,
        hheader, rfl⟩

/-- **`jt1078::decoder_t` implements the packet format** on chunks of at
most `MAX_SIZE_ONCE_READ` bytes. -/
theorem receiver_parses (a : StringAlloc) :
    (receiver a).Parses grammar Rep (fun _ => True)
      (fun c => c.length ≤ Buffer.MAX_SIZE_ONCE_READ) .kInvalidHeader where
  prefix_closed := fun _ _ _ => trivial
  needMore_ne := by simp [receiver]
  invalid_ne := by simp [receiver]
  invalid_ne_needMore := by simp [receiver]
  push := fun h _ hmore hc => h.push hmore hc
  decode_frame := by
    intro d p f r h _ hnext
    have hanswer := h.answers_decode
    rwa [Answers, show next p = _ from hnext] at hanswer
  decode_invalid := by
    intro d p h _ hnext
    have hanswer := h.answers_decode
    rwa [Answers, show next p = _ from hnext] at hanswer
  decode_more := by
    intro d p h _ hnext
    have hanswer := h.answers_decode
    rwa [Answers, show next p = _ from hnext] at hanswer

/-! ## §4. Every stream, however it is cut. -/

/-- **Every chunking gives the packets of the format.**  The decoder
delivers the longest sequence of valid packets the stream starts with, each
of which re-encodes to the bytes it consumed, and stops for good exactly at
a completely received header stage that violates the format. -/
theorem jt1078_run_every_chunking (a : StringAlloc) (s : List UInt8) :
    ∃ (packets : List Packet) (rest : List UInt8),
      s = packets.flatMap Packet.wire ++ rest
      ∧ (∀ p ∈ packets, p.Valid)
      ∧ (∀ (p : Packet) (t : List UInt8), p.Valid → rest ≠ p.wire ++ t)
      ∧ ∀ chunks : List (List UInt8), chunks.flatten = s →
          (∀ c ∈ chunks, c.length ≤ Buffer.MAX_SIZE_ONCE_READ) →
          ∃ d, (receiver a).run (new a) chunks
            = (packets, if BadStage rest then .kInvalidHeader else .kNeedMoreData, d) := by
  obtain ⟨hs, hvalid⟩ := grammar_encodes.parse_split s
  refine ⟨(grammar.parse s).frames, (grammar.parse s).rest, hs, hvalid, ?_, ?_⟩
  · intro p t hp
    exact grammar_encodes.rest_ne s t p hp
  · intro chunks hflat hchunks
    obtain ⟨d, hrun, -⟩ := (receiver_parses a).run_parse chunks (new a) [] rep_new
      (by rfl) (fun _ _ => trivial) hchunks
    refine ⟨d, ?_⟩
    rw [List.nil_append, hflat] at hrun
    have hrest : next (grammar.parse s).rest
        = if (grammar.parse s).invalid then .invalid else .more := grammar.next_rest s
    cases hinv : (grammar.parse s).invalid with
    | true =>
        rw [hinv, if_pos rfl] at hrest
        rw [hrun, hinv, if_pos rfl, if_pos (next_eq_invalid_iff.mp hrest)]
    | false =>
        rw [hinv, if_neg (by simp)] at hrest
        rw [hrun, hinv, if_neg (by simp), if_neg]
        · rfl
        · intro hbad
          rw [next_eq_invalid_iff.mpr hbad] at hrest
          exact absurd hrest (by simp)

end Decoder

end MultiProcessServer.Jt1078
