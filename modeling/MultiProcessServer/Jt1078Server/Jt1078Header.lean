/-
  MultiProcessServer.Jt1078Server.Jt1078Header
  ────────────────────────────────────────────
  `jt1078_server/Jt1078Header.h` and `Jt1078Packet.h`: the JT/T 1078 header
  with its bit-fields, in its two representations.

  • In memory (`#pragma pack(1)`, thirty bytes, little endian, bit-fields
    from the low bits of their byte): what `ForwardServer` sends on.
  • On the wire (network order, bit-fields from the high bits, the fields
    behind the first sixteen bytes depending on the data type): what the
    cars send.
-/
import MultiProcessServer.Core.Buffer

namespace MultiProcessServer.Jt1078

open Endian

/-! ## §1. Constants. -/

def JT1078_MAX_LENGTH : UInt16 := 950
def JT_1078_HEAD_MARK : UInt32 := 0x30316364

def DATA_TYPE_VIDEO_I : BitVec 4 := 0x0
def DATA_TYPE_VIDEO_P : BitVec 4 := 0x1
def DATA_TYPE_VIDEO_B : BitVec 4 := 0x2
def DATA_TYPE_AUDIO : BitVec 4 := 0x3
def DATA_TYPE_ROUTE : BitVec 4 := 0x4

def RCV_ATOMIC_PACKAGE : BitVec 4 := 0x00
def RCV_FIRST_PACKAGE : BitVec 4 := 0x01
def RCV_LAST_PACKAGE : BitVec 4 := 0x02
def RCV_MIDDLE_PACKAGE : BitVec 4 := 0x03

/-! ## §2. The header. -/

/-- `uint8_t BCDSIMCardNumber[6]`. -/
def SimCardNumber : Type := { bytes : List UInt8 // bytes.length = 6 }

instance : DecidableEq SimCardNumber := inferInstanceAs (DecidableEq (Subtype _))

def SimCardNumber.zero : SimCardNumber := ⟨[0, 0, 0, 0, 0, 0], rfl⟩

/-- Six bytes of memory. -/
def SimCardNumber.load (mem : List UInt8) : SimCardNumber :=
  ⟨loadBytes 6 mem, length_loadBytes 6 mem⟩

theorem SimCardNumber.load_loadBytes (mem : List UInt8) :
    SimCardNumber.load (loadBytes 6 mem) = SimCardNumber.load mem :=
  Subtype.ext (by
    have h := loadBytes_append [] (length_loadBytes 6 mem)
    rwa [List.append_nil] at h)

/-- `jt1078::header_t`. -/
structure Header where
  dwFramHeadMark : UInt32
  v2 : BitVec 2
  p1 : BitVec 1
  x1 : BitVec 1
  cc4 : BitVec 4
  m1 : BitVec 1
  pt7 : BitVec 7
  wdPackageSequence : UInt16
  bcdSimCardNumber : SimCardNumber
  bt1LogicChannelNumber : UInt8
  dataType4 : BitVec 4
  subpackageHandleMark4 : BitVec 4
  bt8timeStamp : UInt64
  wdLastIFrameInterval : UInt16
  wdLastFrameInterval : UInt16
  wdBodyLen : UInt16
  deriving DecidableEq

namespace Header

/-- `header_t::Clear`: all zero. -/
def cleared : Header where
  dwFramHeadMark := 0
  v2 := 0
  p1 := 0
  x1 := 0
  cc4 := 0
  m1 := 0
  pt7 := 0
  wdPackageSequence := 0
  bcdSimCardNumber := .zero
  bt1LogicChannelNumber := 0
  dataType4 := 0
  subpackageHandleMark4 := 0
  bt8timeStamp := 0
  wdLastIFrameInterval := 0
  wdLastFrameInterval := 0
  wdBodyLen := 0

/-- A video frame: I, P or B. -/
def isVideo (h : Header) : Prop :=
  h.dataType4 = DATA_TYPE_VIDEO_I ∨ h.dataType4 = DATA_TYPE_VIDEO_P
    ∨ h.dataType4 = DATA_TYPE_VIDEO_B

instance (h : Header) : Decidable h.isVideo := inferInstanceAs (Decidable (_ ∨ _))

theorem isVideo_congr {h h' : Header} (hd : h.dataType4 = h'.dataType4) :
    h.isVideo ↔ h'.isVideo := by
  simp only [isVideo, hd]

/-! ## §3. In memory. -/

/-- `sizeof(header_t)`. -/
def sizeofHeader : Nat := 30

/-- The header as it lies in memory. -/
def memory (h : Header) : List UInt8 :=
  leBytes 4 h.dwFramHeadMark.toNat
    ++ ([UInt8.ofBitVec (h.cc4 ++ h.x1 ++ h.p1 ++ h.v2), UInt8.ofBitVec (h.pt7 ++ h.m1)]
    ++ (leBytes 2 h.wdPackageSequence.toNat
    ++ (h.bcdSimCardNumber.val
    ++ ([h.bt1LogicChannelNumber, UInt8.ofBitVec (h.subpackageHandleMark4 ++ h.dataType4)]
    ++ (leBytes 8 h.bt8timeStamp.toNat
    ++ (leBytes 2 h.wdLastIFrameInterval.toNat
    ++ (leBytes 2 h.wdLastFrameInterval.toNat
    ++ leBytes 2 h.wdBodyLen.toNat)))))))

/-- The header read through a cast of the memory's address. -/
def load (mem : List UInt8) : Header where
  dwFramHeadMark := loadU32 mem
  v2 := (loadU8 (mem.drop 4)).toBitVec.extractLsb' 0 2
  p1 := (loadU8 (mem.drop 4)).toBitVec.extractLsb' 2 1
  x1 := (loadU8 (mem.drop 4)).toBitVec.extractLsb' 3 1
  cc4 := (loadU8 (mem.drop 4)).toBitVec.extractLsb' 4 4
  m1 := (loadU8 (mem.drop 5)).toBitVec.extractLsb' 0 1
  pt7 := (loadU8 (mem.drop 5)).toBitVec.extractLsb' 1 7
  wdPackageSequence := loadU16 (mem.drop 6)
  bcdSimCardNumber := .load (mem.drop 8)
  bt1LogicChannelNumber := loadU8 (mem.drop 14)
  dataType4 := (loadU8 (mem.drop 15)).toBitVec.extractLsb' 0 4
  subpackageHandleMark4 := (loadU8 (mem.drop 15)).toBitVec.extractLsb' 4 4
  bt8timeStamp := loadU64 (mem.drop 16)
  wdLastIFrameInterval := loadU16 (mem.drop 24)
  wdLastFrameInterval := loadU16 (mem.drop 26)
  wdBodyLen := loadU16 (mem.drop 28)

@[simp] theorem length_memory (h : Header) : h.memory.length = sizeofHeader := by
  simp [memory, sizeofHeader, h.bcdSimCardNumber.property]

/-- The two bytes of bit-fields, field by field. -/
theorem extract_first (v2 : BitVec 2) (p1 x1 : BitVec 1) (cc4 : BitVec 4) :
    (cc4 ++ x1 ++ p1 ++ v2).extractLsb' 0 2 = v2
      ∧ (cc4 ++ x1 ++ p1 ++ v2).extractLsb' 2 1 = p1
      ∧ (cc4 ++ x1 ++ p1 ++ v2).extractLsb' 3 1 = x1
      ∧ (cc4 ++ x1 ++ p1 ++ v2).extractLsb' 4 4 = cc4 := by
  decide +revert

theorem extract_second (m1 : BitVec 1) (pt7 : BitVec 7) :
    (pt7 ++ m1).extractLsb' 0 1 = m1 ∧ (pt7 ++ m1).extractLsb' 1 7 = pt7 := by
  decide +revert

theorem extract_third (dataType4 mark4 : BitVec 4) :
    (mark4 ++ dataType4).extractLsb' 0 4 = dataType4
      ∧ (mark4 ++ dataType4).extractLsb' 4 4 = mark4 := by
  decide +revert

/-- Dropping more than a field has. -/
theorem drop_leBytes {n k : Nat} (v : Nat) (h : n ≤ k) : (leBytes n v).drop k = [] :=
  List.drop_eq_nil_of_le (by simpa using h)

/-- **A header sent as memory and read through a cast is the header.** -/
theorem load_memory (h : Header) (t : List UInt8) : load (h.memory ++ t) = h := by
  obtain ⟨mark, v2, p1, x1, cc4, m1, pt7, seq, ⟨sim, hsim⟩, chan, dt, mk, ts, li, lf, bl⟩ := h
  obtain ⟨hv2, hp1, hx1, hcc4⟩ := extract_first v2 p1 x1 cc4
  obtain ⟨hm1, hpt7⟩ := extract_second m1 pt7
  obtain ⟨hdt, hmk⟩ := extract_third dt mk
  have hload (u : List UInt8) : SimCardNumber.load (sim ++ u) = ⟨sim, hsim⟩ :=
    Subtype.ext (loadBytes_append u hsim)
  have hdrop {k : Nat} (hk : 6 ≤ k) : sim.drop k = [] :=
    List.drop_eq_nil_of_le (by omega)
  -- every field is dropped whole up to the one that is loaded
  simp (disch := omega) only [load, memory, List.append_assoc, List.drop_append,
    length_leBytes, hsim, drop_leBytes, hdrop, List.nil_append, List.cons_append,
    List.drop_zero, Nat.reduceSub, Nat.reduceAdd, List.drop_succ_cons, loadU8,
    List.headD_cons, loadU16_leBytes, loadU32_leBytes, loadU64_leBytes, hload, hv2, hp1,
    hx1, hcc4, hm1, hpt7, hdt, hmk]

/-! ## §4. On the wire. -/

/-- The bytes every packet starts with. -/
def sizeStep1 : Nat := 16

/-- The size of the type-dependent rest of the header. -/
def sizeStep2 (h : Header) : Nat :=
  if h.isVideo then 14 else if h.dataType4 = DATA_TYPE_AUDIO then 10 else 2

/-- The first sixteen bytes in network order. -/
def wireStep1 (h : Header) : List UInt8 :=
  beBytes 4 h.dwFramHeadMark.toNat
    ++ ([UInt8.ofBitVec (h.v2 ++ h.p1 ++ h.x1 ++ h.cc4), UInt8.ofBitVec (h.m1 ++ h.pt7)]
    ++ (beBytes 2 h.wdPackageSequence.toNat
    ++ (h.bcdSimCardNumber.val
    ++ [h.bt1LogicChannelNumber,
        UInt8.ofBitVec (h.dataType4 ++ h.subpackageHandleMark4)])))

/-- The rest of the header in network order. -/
def wireStep2 (h : Header) : List UInt8 :=
  if h.isVideo then
    beBytes 8 h.bt8timeStamp.toNat ++ (beBytes 2 h.wdLastIFrameInterval.toNat
      ++ (beBytes 2 h.wdLastFrameInterval.toNat ++ beBytes 2 h.wdBodyLen.toNat))
  else if h.dataType4 = DATA_TYPE_AUDIO then
    beBytes 8 h.bt8timeStamp.toNat ++ beBytes 2 h.wdBodyLen.toNat
  else
    beBytes 2 h.wdBodyLen.toNat

/-- The header the first sixteen bytes stand for, its other fields zero. -/
def readStep1 (mem : List UInt8) : Header :=
  { cleared with
    dwFramHeadMark := netU32 mem
    v2 := (loadU8 (mem.drop 4)).toBitVec.extractLsb' 6 2
    p1 := (loadU8 (mem.drop 4)).toBitVec.extractLsb' 5 1
    x1 := (loadU8 (mem.drop 4)).toBitVec.extractLsb' 4 1
    cc4 := (loadU8 (mem.drop 4)).toBitVec.extractLsb' 0 4
    m1 := (loadU8 (mem.drop 5)).toBitVec.extractLsb' 7 1
    pt7 := (loadU8 (mem.drop 5)).toBitVec.extractLsb' 0 7
    wdPackageSequence := netU16 (mem.drop 6)
    bcdSimCardNumber := .load (mem.drop 8)
    bt1LogicChannelNumber := loadU8 (mem.drop 14)
    dataType4 := (loadU8 (mem.drop 15)).toBitVec.extractLsb' 4 4
    subpackageHandleMark4 := (loadU8 (mem.drop 15)).toBitVec.extractLsb' 0 4 }

/-- The header with the fields of its type-dependent rest read. -/
def readStep2 (h : Header) (mem : List UInt8) : Header :=
  if h.isVideo then
    { h with
      bt8timeStamp := netU64 mem
      wdLastIFrameInterval := netU16 (mem.drop 8)
      wdLastFrameInterval := netU16 (mem.drop 10)
      wdBodyLen := netU16 (mem.drop 12) }
  else if h.dataType4 = DATA_TYPE_AUDIO then
    { h with
      bt8timeStamp := netU64 mem
      wdBodyLen := netU16 (mem.drop 8) }
  else
    { h with wdBodyLen := netU16 mem }

/-- The part of the header that the first sixteen bytes carry. -/
def step1 (h : Header) : Header :=
  { h with
    bt8timeStamp := 0
    wdLastIFrameInterval := 0
    wdLastFrameInterval := 0
    wdBodyLen := 0 }

theorem isVideo_step1 (h : Header) : h.step1.isVideo ↔ h.isVideo := isVideo_congr rfl

theorem dataType4_readStep2 (h : Header) (mem : List UInt8) :
    (h.readStep2 mem).dataType4 = h.dataType4 := by
  unfold readStep2
  split
  · rfl
  · split <;> rfl

theorem isVideo_readStep2 (h : Header) (mem : List UInt8) :
    (h.readStep2 mem).isVideo ↔ h.isVideo := isVideo_congr (h.dataType4_readStep2 mem)

@[simp] theorem length_wireStep1 (h : Header) : h.wireStep1.length = sizeStep1 := by
  simp [wireStep1, sizeStep1, h.bcdSimCardNumber.property]

@[simp] theorem length_wireStep2 (h : Header) : h.wireStep2.length = h.sizeStep2 := by
  unfold wireStep2 sizeStep2
  split
  · simp
  · split <;> simp

theorem drop_beBytes {n k : Nat} (v : Nat) (h : n ≤ k) : (beBytes n v).drop k = [] :=
  List.drop_eq_nil_of_le (by simpa using h)

theorem extract_wire_first (v2 : BitVec 2) (p1 x1 : BitVec 1) (cc4 : BitVec 4) :
    (v2 ++ p1 ++ x1 ++ cc4).extractLsb' 6 2 = v2
      ∧ (v2 ++ p1 ++ x1 ++ cc4).extractLsb' 5 1 = p1
      ∧ (v2 ++ p1 ++ x1 ++ cc4).extractLsb' 4 1 = x1
      ∧ (v2 ++ p1 ++ x1 ++ cc4).extractLsb' 0 4 = cc4 := by
  decide +revert

theorem extract_wire_second (m1 : BitVec 1) (pt7 : BitVec 7) :
    (m1 ++ pt7).extractLsb' 7 1 = m1 ∧ (m1 ++ pt7).extractLsb' 0 7 = pt7 := by
  decide +revert

theorem extract_wire_third (dataType4 mark4 : BitVec 4) :
    (dataType4 ++ mark4).extractLsb' 4 4 = dataType4
      ∧ (dataType4 ++ mark4).extractLsb' 0 4 = mark4 := by
  decide +revert

/-- The three bytes of bit-fields, put together again. -/
theorem append_wire (b : BitVec 8) :
    b.extractLsb' 6 2 ++ b.extractLsb' 5 1 ++ b.extractLsb' 4 1 ++ b.extractLsb' 0 4 = b
      ∧ b.extractLsb' 7 1 ++ b.extractLsb' 0 7 = b
      ∧ b.extractLsb' 4 4 ++ b.extractLsb' 0 4 = b := by
  decide +revert

/-- Reading what was written, for the first sixteen bytes. -/
theorem readStep1_wireStep1 (h : Header) (t : List UInt8) :
    readStep1 (h.wireStep1 ++ t) = h.step1 := by
  obtain ⟨mark, v2, p1, x1, cc4, m1, pt7, seq, ⟨sim, hsim⟩, chan, dt, mk, ts, li, lf, bl⟩ := h
  obtain ⟨hv2, hp1, hx1, hcc4⟩ := extract_wire_first v2 p1 x1 cc4
  obtain ⟨hm1, hpt7⟩ := extract_wire_second m1 pt7
  obtain ⟨hdt, hmk⟩ := extract_wire_third dt mk
  have hload (u : List UInt8) : SimCardNumber.load (sim ++ u) = ⟨sim, hsim⟩ :=
    Subtype.ext (loadBytes_append u hsim)
  have hdrop {k : Nat} (hk : 6 ≤ k) : sim.drop k = [] :=
    List.drop_eq_nil_of_le (by omega)
  simp (disch := omega) only [readStep1, step1, wireStep1, List.append_assoc,
    List.drop_append, length_beBytes, hsim, drop_beBytes, hdrop, List.nil_append,
    List.cons_append, List.drop_zero, Nat.reduceSub, Nat.reduceAdd, List.drop_succ_cons,
    loadU8, List.headD_cons, netU16_beBytes, netU32_beBytes, hload, hv2, hp1, hx1, hcc4,
    hm1, hpt7, hdt, hmk, cleared]

/-- Reading what was written, for the rest of the header. -/
theorem readStep2_wireStep2 (h : Header) (t : List UInt8)
    (hvideo : ¬h.isVideo → h.wdLastIFrameInterval = 0 ∧ h.wdLastFrameInterval = 0)
    (hroute : ¬h.isVideo → h.dataType4 ≠ DATA_TYPE_AUDIO → h.bt8timeStamp = 0) :
    h.step1.readStep2 (h.wireStep2 ++ t) = h := by
  obtain ⟨mark, v2, p1, x1, cc4, m1, pt7, seq, sim, chan, dt, mk, ts, li, lf, bl⟩ := h
  by_cases hv : isVideo ⟨mark, v2, p1, x1, cc4, m1, pt7, seq, sim, chan, dt, mk, ts, li, lf, bl⟩
  · rw [readStep2, if_pos ((isVideo_step1 _).mpr hv), wireStep2, if_pos hv]
    simp (disch := omega) only [step1, List.append_assoc, List.drop_append,
      length_beBytes, drop_beBytes, List.nil_append, List.drop_zero, Nat.reduceSub,
      netU16_beBytes, netU64_beBytes]
  · obtain ⟨rfl, rfl⟩ : li = 0 ∧ lf = 0 := hvideo hv
    rw [readStep2, if_neg ((isVideo_step1 _).not.mpr hv), wireStep2, if_neg hv]
    by_cases ha : dt = DATA_TYPE_AUDIO
    · simp (disch := omega) only [step1, if_pos ha, List.append_assoc, List.drop_append,
        length_beBytes, drop_beBytes, List.nil_append, List.drop_zero, Nat.reduceSub,
        netU16_beBytes, netU64_beBytes]
    · obtain rfl : ts = 0 := hroute hv ha
      simp only [step1, if_neg ha, netU16_beBytes]

/-- Two bytes of bit-fields loaded one by one. -/
theorem loadU8_pair {mem : List UInt8} (h : 2 ≤ mem.length) :
    [loadU8 mem, loadU8 (mem.drop 1)] = mem.take 2 := by
  match mem, h with
  | x :: y :: _, _ => rfl

/-- **Writing what was read gives the bytes back**, for the first sixteen. -/
theorem wireStep1_readStep1 {mem : List UInt8} (hlen : sizeStep1 ≤ mem.length) :
    (readStep1 mem).wireStep1 = mem.take sizeStep1 := by
  simp only [sizeStep1] at hlen ⊢
  have hfirst := loadU8_pair (show 2 ≤ (mem.drop 4).length by simp; omega)
  have hlast := loadU8_pair (show 2 ≤ (mem.drop 14).length by simp; omega)
  have hsim : (SimCardNumber.load (mem.drop 8)).val = (mem.drop 8).take 6 :=
    loadBytes_eq_take (by simp; omega)
  rw [List.drop_drop] at hfirst hlast
  simp only [readStep1, wireStep1, (append_wire _).1, (append_wire _).2.1,
    (append_wire _).2.2, UInt8.ofBitVec_toBitVec, hsim, hfirst, hlast,
    beBytes_netU32 (show 4 ≤ mem.length by omega),
    beBytes_netU16 (show 2 ≤ (mem.drop 6).length by simp; omega)]
  rw [show (16 : Nat) = 4 + (2 + (2 + (6 + 2))) from rfl, List.take_add, List.take_add,
    List.take_add, List.take_add]
  simp only [List.drop_drop, Nat.reduceAdd]

/-- **Writing what was read gives the bytes back**, for the rest. -/
theorem wireStep2_readStep2 (h : Header) {mem : List UInt8} (hlen : h.sizeStep2 ≤ mem.length) :
    (h.readStep2 mem).wireStep2 = mem.take h.sizeStep2 := by
  have hvideo := h.isVideo_readStep2 mem
  by_cases hv : h.isVideo
  · rw [sizeStep2, if_pos hv] at hlen ⊢
    rw [wireStep2, if_pos (hvideo.mpr hv), readStep2, if_pos hv]
    simp only [beBytes_netU64 (show 8 ≤ mem.length by omega),
      beBytes_netU16 (show 2 ≤ (mem.drop 8).length by simp; omega),
      beBytes_netU16 (show 2 ≤ (mem.drop 10).length by simp; omega),
      beBytes_netU16 (show 2 ≤ (mem.drop 12).length by simp; omega)]
    rw [show (14 : Nat) = 8 + (2 + (2 + 2)) from rfl, List.take_add, List.take_add,
      List.take_add]
    simp only [List.drop_drop, Nat.reduceAdd]
  · rw [wireStep2, if_neg (hvideo.not.mpr hv), dataType4_readStep2]
    by_cases ha : h.dataType4 = DATA_TYPE_AUDIO
    · rw [sizeStep2, if_neg hv, if_pos ha] at hlen ⊢
      rw [if_pos ha, readStep2, if_neg hv, if_pos ha]
      simp only [beBytes_netU64 (show 8 ≤ mem.length by omega),
        beBytes_netU16 (show 2 ≤ (mem.drop 8).length by simp; omega)]
      rw [show (10 : Nat) = 8 + 2 from rfl, List.take_add]
    · rw [sizeStep2, if_neg hv, if_neg ha] at hlen ⊢
      rw [if_neg ha, readStep2, if_neg hv, if_neg ha]
      exact beBytes_netU16 hlen

theorem wireStep1_readStep2 (h : Header) (mem : List UInt8) :
    (h.readStep2 mem).wireStep1 = h.wireStep1 := by
  unfold readStep2
  split
  · simp only [wireStep1]
  · split <;> simp only [wireStep1]

/-- Bytes behind the first sixteen do not matter to them. -/
theorem readStep1_append {mem : List UInt8} (t : List UInt8) (hlen : sizeStep1 ≤ mem.length) :
    readStep1 (mem ++ t) = readStep1 mem := by
  have hsplit (u : List UInt8) : readStep1 (mem.take sizeStep1 ++ u) = (readStep1 mem).step1 := by
    rw [← wireStep1_readStep1 hlen, readStep1_wireStep1]
  have hmem : readStep1 mem = (readStep1 mem).step1 := by
    have h := hsplit (mem.drop sizeStep1)
    rwa [List.take_append_drop] at h
  have happ := hsplit (mem.drop sizeStep1 ++ t)
  rw [← List.append_assoc, List.take_append_drop] at happ
  rw [happ, ← hmem]

/-- Bytes behind the header do not matter to it. -/
theorem readStep2_append (h : Header) {mem : List UInt8} (t : List UInt8)
    (hlen : h.sizeStep2 ≤ mem.length) : h.readStep2 (mem ++ t) = h.readStep2 mem := by
  unfold sizeStep2 at hlen
  unfold readStep2
  have hdrop (k : Nat) (hk : k ≤ mem.length) : (mem ++ t).drop k = mem.drop k ++ t :=
    List.drop_append_of_le_length hk
  split
  next hv =>
    rw [if_pos hv] at hlen
    rw [netU64_append t (by omega), hdrop 8 (by omega), hdrop 10 (by omega),
      hdrop 12 (by omega), netU16_append t (by simp; omega), netU16_append t (by simp; omega),
      netU16_append t (by simp; omega)]
  next hv =>
    rw [if_neg hv] at hlen
    split
    next ha =>
      rw [if_pos ha] at hlen
      rw [netU64_append t (by omega), hdrop 8 (by omega), netU16_append t (by simp; omega)]
    next ha =>
      rw [if_neg ha] at hlen
      rw [netU16_append t (by omega)]

/-- Fields that the wire form does not carry stay as they were. -/
theorem readStep2_of_not_video (h : Header) (mem : List UInt8) (hv : ¬h.isVideo) :
    (h.readStep2 mem).wdLastIFrameInterval = h.wdLastIFrameInterval
      ∧ (h.readStep2 mem).wdLastFrameInterval = h.wdLastFrameInterval
      ∧ (h.dataType4 ≠ DATA_TYPE_AUDIO → (h.readStep2 mem).bt8timeStamp = h.bt8timeStamp) := by
  rw [readStep2, if_neg hv]
  split
  next ha => exact ⟨rfl, rfl, fun hne => absurd ha hne⟩
  next => exact ⟨rfl, rfl, fun _ => rfl⟩

end Header

/-! ## §5. Packets. -/

/-- `jt1078::packet_t`: a header and the `WdBodyLen` bytes of its body. -/
structure Packet where
  header : Header
  body : List UInt8
  length_body : body.length = header.wdBodyLen.toNat
  deriving DecidableEq

namespace Packet

/-- The packet in network byte order. -/
def wire (p : Packet) : List UInt8 :=
  p.header.wireStep1 ++ (p.header.wireStep2 ++ p.body)

theorem length_wire (p : Packet) :
    p.wire.length = Header.sizeStep1 + (p.header.sizeStep2 + p.header.wdBodyLen.toNat) := by
  simp [wire, p.length_body]

@[ext]
theorem ext' {p q : Packet} (hh : p.header = q.header) (hb : p.body = q.body) : p = q := by
  cases p
  cases q
  simp_all

end Packet

end MultiProcessServer.Jt1078
