/-
  MultiProcessServer.Core.IpcPktMemory
  ────────────────────────────────────
  **WHERE `ipc::decoder_t` WRITES.**

  `ParseHeader` makes room in `m_packet_buffer` only for a body that is longer
  than the whole storage, header included, and then for twice the storage at
  most; and `Decode` goes on reading through a reference into the storage that
  this gives up.

    `in_bounds_iff_declares`    : what one accepted header does,
    `decoder_stays_in_bounds_iff` :
        the runs in which every accepted packet fits and its length is read
        from the header just parsed.
-/
import MultiProcessServer.Core.IpcPktDecoder
import MultiProcessServer.Lib.Runs

namespace MultiProcessServer.Ipc

/-! ## §1. Making room. -/

namespace PacketBuffer

variable {a : StringAlloc} {p : PacketBuffer} {n : Nat}

/-- Reserving more than there is gives a new block. -/
theorem block_reserve (h : p.capacity < n) : (p.reserve a n).block = p.block + 1 := by
  have hgrown : a.reserve p.capacity n ≠ p.capacity := by
    have hle := a.le_reserve p.capacity n
    omega
  unfold reserve
  dsimp only
  rw [if_neg hgrown]

end PacketBuffer

namespace Decoder

variable {a : StringAlloc} {d : Decoder} {packet : Header}

/-- The header `ParseHeader` accepts if `Decode` is called now. -/
def accepts (d : Decoder) : Option Header :=
  match d.readStatus with
  | .kReadBody => none
  | .kReadHeader =>
      if d.buffer.readableBytes < d.howmuch then none
      else
        let packet := Header.load d.buffer.getBuffer
        if packet.headLength ≠ UInt32.ofNat sizeofPacket then none else some packet

/-- The storage `ParseHeader` copies an accepted header to. -/
def roomFor (a : StringAlloc) (d : Decoder) (packet : Header) : PacketBuffer :=
  if packet.dataLength.toNat > d.packetBuffer.capacity then
    d.clearPacket.packetBuffer.reserve a
      (min packet.dataLength.toNat (d.packetBuffer.capacity * 2))
  else d.clearPacket.packetBuffer

theorem roomFor_of_le (h : packet.dataLength.toNat ≤ d.packetBuffer.capacity) :
    d.roomFor a packet = d.clearPacket.packetBuffer := if_neg (Nat.not_lt.mpr h)

/-- Room is made in a new block. -/
theorem block_roomFor (hcap : 0 < d.packetBuffer.capacity)
    (h : d.packetBuffer.capacity < packet.dataLength.toNat) :
    (d.roomFor a packet).block = d.packetBuffer.block + 1 := by
  unfold roomFor
  rw [if_pos h]
  apply PacketBuffer.block_reserve
  show d.packetBuffer.capacity < _
  omega

/-- **`ParseHeader` on a header it accepts.** -/
theorem parseHeader_of_accepts (h : d.accepts = some packet) :
    d.readStatus = .kReadHeader
      ∧ d.clearPacket.parseHeader a = (.kNoError,
          { d.clearPacket with
            packetBuffer := { d.roomFor a packet with header := packet }
            buffer := d.buffer.skip d.howmuch }) := by
  unfold accepts at h
  split at h
  next => cases h
  next hstatus =>
      split at h
      · cases h
      next hlen =>
        dsimp only at h
        split at h
        · cases h
        next hhead =>
          cases h
          refine ⟨hstatus, ?_⟩
          have hlen' : ¬d.clearPacket.buffer.readableBytes < d.clearPacket.howmuch := hlen
          have hhead' : ¬(Header.load d.clearPacket.buffer.getBuffer).headLength
              ≠ UInt32.ofNat sizeofPacket := hhead
          rw [parseHeader, if_neg hlen', if_neg hhead']
          rfl

/-- `ParseHeader` on anything else. -/
theorem parseHeader_of_not_accepts (hstatus : d.readStatus = .kReadHeader)
    (h : d.accepts = none) :
    ∃ e, e ≠ .kNoError ∧ d.clearPacket.parseHeader a = (e, d.clearPacket) := by
  unfold accepts at h
  rw [hstatus] at h
  dsimp only at h
  unfold parseHeader
  by_cases hlen : d.clearPacket.buffer.readableBytes < d.clearPacket.howmuch
  · rw [if_pos hlen]
    exact ⟨.kNeedMoreData, nofun, rfl⟩
  · have hlen' : ¬d.buffer.readableBytes < d.howmuch := hlen
    rw [if_neg hlen]
    rw [if_neg hlen'] at h
    by_cases hhead : (Header.load d.clearPacket.buffer.getBuffer).headLength
        ≠ UInt32.ofNat sizeofPacket
    · rw [if_pos hhead]
      exact ⟨.kInvalidHeader, nofun, rfl⟩
    · have hhead' : ¬(Header.load d.buffer.getBuffer).headLength
          ≠ UInt32.ofNat sizeofPacket := hhead
      rw [if_neg hhead'] at h
      cases h

/-! ## §2. One step. -/

inductive Event
  | pushBuffer (data : List UInt8)
  | decode
  deriving DecidableEq

def step (a : StringAlloc) (d : Decoder) : Event → Decoder
  | .pushBuffer data => (d.pushBuffer a data).2
  | .decode => (d.decode a).2

/-- Whenever `ParseHeader` accepts a header, the packet and its NUL fit in the
storage, the storage is the one `Decode` holds a reference to, and `Decode`
goes on with the body length of the header just parsed. -/
def InBounds (a : StringAlloc) (d : Decoder) (e : Event) : Prop :=
  e = .decode → d.readStatus = .kReadHeader →
    ∀ d', d.clearPacket.parseHeader a = (.kNoError, d') →
      sizeofPacket + d'.packetBuffer.header.dataLength.toNat + 1 ≤ d'.packetBuffer.capacity + 1
        ∧ d'.packetBuffer.block = d.packetBuffer.block
        ∧ d.decode a = { d' with
            readStatus := .kReadBody
            howmuch := d'.packetBuffer.header.dataLength.toNat }.decodeBody

/-- A header that is about to be accepted declares a body that fits in a
storage of `capacity` with its header. -/
def Declares (capacity : Nat) (d : Decoder) (e : Event) : Prop :=
  e = .decode → ∀ packet, d.accepts = some packet →
    sizeofPacket + packet.dataLength.toNat ≤ capacity

/-- **What one accepted header does.** -/
theorem in_bounds_iff_declares (hcap : 0 < d.packetBuffer.capacity) (e : Event) :
    d.InBounds a e ↔ d.Declares d.packetBuffer.capacity e := by
  constructor
  · intro h he packet hpacket
    obtain ⟨hstatus, hparse⟩ := parseHeader_of_accepts hpacket
    obtain ⟨hfits, hblock, -⟩ := h he hstatus _ hparse
    dsimp only at hfits hblock
    by_cases hle : packet.dataLength.toNat ≤ d.packetBuffer.capacity
    · rw [roomFor_of_le hle] at hfits
      have hsame : d.clearPacket.packetBuffer.capacity = d.packetBuffer.capacity := rfl
      omega
    · -- room was made, so the reference `packet` points to what was given up
      rw [block_roomFor hcap (Nat.lt_of_not_le hle)] at hblock
      omega
  · intro h he hstatus d' hparse'
    cases hpacket : d.accepts with
    | none =>
        obtain ⟨e', he', hparse⟩ := parseHeader_of_not_accepts hstatus hpacket
        rw [hparse] at hparse'
        cases hparse'
        exact absurd rfl he'
    | some packet =>
        have hfits := h he packet hpacket
        have hparse := (parseHeader_of_accepts (a := a) hpacket).2
        rw [roomFor_of_le (by omega)] at hparse
        rw [hparse] at hparse'
        cases hparse'
        refine ⟨?_, rfl, ?_⟩
        · show sizeofPacket + packet.dataLength.toNat + 1 ≤ d.packetBuffer.capacity + 1
          omega
        · have hblock : d.clearPacket.packetBuffer.block = d.packetBuffer.block := rfl
          simp only [decode, hstatus, hparse, hblock, if_true]

/-! ## §3. Every run. -/

theorem capacity_decodeBody : d.decodeBody.2.packetBuffer.capacity = d.packetBuffer.capacity := by
  unfold decodeBody parseBody
  split
  next d' heq =>
      split at heq
      · cases heq
      · cases heq
        rfl
  next e d' heq =>
      split at heq
      · cases heq
        rfl
      · cases heq
        rfl

/-- A step that meets only packets that fit leaves the storage as it is. -/
theorem capacity_step {e : Event} (h : d.Declares d.packetBuffer.capacity e) :
    (d.step a e).packetBuffer.capacity = d.packetBuffer.capacity := by
  cases e with
  | pushBuffer data =>
      unfold step pushBuffer
      dsimp only
      split <;> rfl
  | decode =>
      unfold step decode
      dsimp only
      cases hstatus : d.readStatus with
      | kReadBody => exact capacity_decodeBody
      | kReadHeader =>
          cases hpacket : d.accepts with
          | none =>
              obtain ⟨e, he, hparse⟩ := parseHeader_of_not_accepts (a := a) hstatus hpacket
              dsimp only
              rw [hparse]
              cases e with
              | kNoError => exact absurd rfl he
              | kNeedMoreData | kBufferFull | kInvalidHeader => rfl
          | some packet =>
              have hfits := h rfl packet hpacket
              have hparse := (parseHeader_of_accepts (a := a) hpacket).2
              rw [roomFor_of_le (by omega)] at hparse
              dsimp only
              rw [hparse]
              exact capacity_decodeBody

/-- **When the decoder stays in its storage.**  In a run of pushed chunks and
calls of `Decode` from a fresh decoder, every accepted header leaves room for
its packet and gives `Decode` the body length, exactly when each of them
declares a body that fits behind a header in what `reserve(1024)` gave. -/
theorem decoder_stays_in_bounds_iff (a : StringAlloc) (events : List Event) :
    Runs.Along (step a) (InBounds a) (new a) events
      ↔ Runs.Along (step a) (Declares (a.reserve a.initial 1024)) (new a) events := by
  have hpos : 0 < a.reserve a.initial 1024 :=
    Nat.lt_of_lt_of_le (by decide) (a.le_reserve a.initial 1024)
  apply Runs.along_iff_along (J := fun d => d.packetBuffer.capacity = a.reserve a.initial 1024)
    (R := fun _ _ => True)
  · intro d e hcap _
    rw [in_bounds_iff_declares (hcap ▸ hpos), hcap]
  · intro d e hcap _ he
    rw [← hcap] at he ⊢
    exact capacity_step he
  · rfl
  · exact Runs.along_of_forall (fun _ _ => trivial) events _

/-- One header that declares 1009 bytes, and one that declares 3000. -/
theorem decoder_leaves_its_storage :
    ¬Runs.Along (step .libstdcxx) (InBounds .libstdcxx) (new .libstdcxx)
        [.pushBuffer [16, 0, 0, 0, 0xf1, 3, 0, 0, 0, 0, 0, 0, 1, 0, 3, 0], .decode]
      ∧ ¬Runs.Along (step .libstdcxx) (InBounds .libstdcxx) (new .libstdcxx)
        [.pushBuffer [16, 0, 0, 0, 0xb8, 11, 0, 0, 0, 0, 0, 0, 1, 0, 3, 0], .decode] := by
  rw [decoder_stays_in_bounds_iff, decoder_stays_in_bounds_iff]
  constructor
  · intro h
    exact absurd (h.2.1 rfl ⟨16, 1009, 0, 0x00030001⟩ (by decide)) (by decide)
  · intro h
    exact absurd (h.2.1 rfl ⟨16, 3000, 0, 0x00030001⟩ (by decide)) (by decide)

end Decoder

end MultiProcessServer.Ipc
