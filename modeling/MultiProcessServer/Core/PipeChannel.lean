/-
  MultiProcessServer.Core.PipeChannel
  ───────────────────────────────────
  `core/pipe/PipeChannel`: messages between two threads, written into a pipe
  with a header of twelve bytes and read again in pieces of at most 1024.

  `m_left_to_read` counts what is missing of the header or of the body.  0
  means that it is complete and also that nothing was read of it yet, so a body
  of no bytes is never complete: `OnRead` asks the pipe for 0 bytes, gets 0 and
  returns.  A length of 2^32 or more does not fit the header.

  Main result: `delivers_iff`.
-/
import MultiProcessServer.Core.Buffer
import MultiProcessServer.Lib.Runs

namespace MultiProcessServer.Pipes

open Endian

/-! ## §1. The messages. -/

/-- The arguments of one `WriteBuffer` call. -/
structure Message where
  type : UInt32
  buffer : List UInt8
  deriving DecidableEq, Repr

/-- `sizeof(PipePacket)`; the flexible array `m_data[0]` takes no room. -/
def sizeofPipePacket : Nat := 12

/-- The payload is not empty, and its length is an `uint32_t`. -/
def Message.Fits (m : Message) : Prop := 0 < m.buffer.length ∧ m.buffer.length < 2 ^ 32

/-- A `PipePacket` as the handler sees it: `m_data` holds `m_uDataLength`
bytes. -/
structure PipePacket where
  uHeadLength : UInt32
  uDataLength : UInt32
  uPktType : UInt32
  data : List UInt8
  deriving DecidableEq, Repr

/-- The packet read through a cast of the memory's address. -/
def PipePacket.load (mem : List UInt8) : PipePacket where
  uHeadLength := loadU32 mem
  uDataLength := loadU32 (mem.drop 4)
  uPktType := loadU32 (mem.drop 8)
  data := loadBytes (loadU32 (mem.drop 4)).toNat (mem.drop sizeofPipePacket)

/-- The two `iovec`s of `WriteBuffer`: the header, and the caller's buffer. -/
def Message.iov (m : Message) : List (List UInt8) :=
  [leBytes 4 (UInt32.ofNat sizeofPipePacket).toNat
      ++ (leBytes 4 (UInt32.ofNat m.buffer.length).toNat ++ leBytes 4 m.type.toNat),
    m.buffer]

/-- What a `writev` that writes everything puts into the pipe. -/
def Message.bytes (m : Message) : List UInt8 := m.iov.flatten

/-- Type and payload, as a handler gets them. -/
def PipePacket.message (p : PipePacket) : Message := ⟨p.uPktType, p.data⟩

/-! ## §2. The channel. -/

inductive ReadStatus where
  | kReadHeader
  | kReadData
  deriving DecidableEq, Repr

/-- `class PipeChannel` at the read end.  Nothing is skipped in
`m_read_buffer`, so it is the bytes it holds; `m_tmp_pkt` always points to its
start. -/
structure PipeChannel where
  readStatus : ReadStatus
  howmuch : Int
  leftToRead : Int
  readBuffer : List UInt8
  deriving DecidableEq, Repr

def PipeChannel.READ_BUFF_SIZE : Int := 1024

/-- The constructor. -/
def PipeChannel.new : PipeChannel where
  readStatus := .kReadHeader
  howmuch := sizeofPipePacket
  leftToRead := 0
  readBuffer := []

/-- The bytes in the pipe, the channel that reads them, and the packets its
handler was called with. -/
structure Pipe where
  bytes : List UInt8
  channel : PipeChannel
  handled : List PipePacket
  deriving DecidableEq, Repr

namespace Pipe

def new : Pipe := ⟨[], .new, []⟩

/-- `read` on the pipe, which is not blocking: 0 for a count of 0, -1 from an
empty pipe, and otherwise as many bytes as the pipe likes, at least one.  Every
such number is the answer for a `size`. -/
def read (bytes : List UInt8) (count size : Nat) : Int :=
  if count = 0 then 0
  else if bytes = [] then -1
  else (max 1 (min size (min count bytes.length)) : Nat)

variable (s : Pipe)

/-- `m_read_buffer.GetDataFromFd(m_read_fd, max_size)`, from a valid fd. -/
def getDataFromFd (maxSize : Int) (size : Nat) : Int × Pipe :=
  if maxSize < 0 then (-1, s)
  else
    let ntoread := min maxSize Buffer.MAX_SIZE_ONCE_READ
    let nread := read s.bytes ntoread.toNat size
    if nread > 0 then
      (nread,
        { s with
          bytes := s.bytes.drop nread.toNat
          channel :=
            { s.channel with
              readBuffer := s.channel.readBuffer ++ s.bytes.take nread.toNat } })
    else (nread, s)

/-- `OnRead` from the point where nothing is left to read. -/
def complete : Pipe :=
  match s.channel.readStatus with
  | .kReadHeader =>
      { s with
        channel :=
          { s.channel with
            howmuch := (PipePacket.load s.channel.readBuffer).uDataLength.toNat
            readStatus := .kReadData } }
  | .kReadData =>
      { s with
        handled := s.handled ++ [PipePacket.load s.channel.readBuffer]
        channel :=
          { s.channel with
            howmuch := sizeofPipePacket
            readStatus := .kReadHeader
            readBuffer := [] } }

/-- What `OnRead` asks for. -/
def ntoread : Int :=
  let ntoread := min s.channel.howmuch PipeChannel.READ_BUFF_SIZE
  if s.channel.leftToRead ≠ 0 then min s.channel.leftToRead ntoread else ntoread

/-- `OnRead`; `size` is the choice of the pipe. -/
def onRead (size : Nat) : Pipe :=
  match s.getDataFromFd s.ntoread size with
  | (nread, s') =>
      if nread ≤ 0 then s'
      else
        let left := if s'.channel.leftToRead ≠ 0 then s'.channel.leftToRead - nread
          else s'.channel.howmuch - nread
        let s' := { s' with channel := { s'.channel with leftToRead := left } }
        if left ≠ 0 then s' else s'.complete

/-- `WriteBuffer` at the other end, which writes everything. -/
def writeBuffer (m : Message) : Pipe := { s with bytes := s.bytes ++ m.bytes }

/-- What happens to the pipe. -/
inductive Event
  | write (m : Message)
  | onRead (size : Nat)
  deriving DecidableEq, Repr

def step : Event → Pipe
  | .write m => s.writeBuffer m
  | .onRead size => s.onRead size

/-- The messages of a run. -/
def written : List Event → List Message
  | [] => []
  | .write m :: events => m :: written events
  | .onRead _ :: events => written events

/-! ## §3. What is expected of it. -/

/-- The messages the handler was called with. -/
def messages : List Message := s.handled.map PipePacket.message

/-- An `OnRead` that finds data consumes some of it or completes a message. -/
def Advances (size : Nat) : Prop :=
  s.bytes ≠ [] → (s.onRead size).bytes.length < s.bytes.length
    ∨ s.handled.length < (s.onRead size).handled.length

/-- The messages arrive whole, in every run that writes them: writes and reads
in any order, and reads of any sizes. -/
structure Delivers (ms : List Message) : Prop where
  /-- Never anything but the messages, each once and in their order. -/
  in_order : ∀ events, written events = ms → (Runs.run step new events).messages <+: ms
  advances : ∀ events, written events = ms →
    ∀ size, (Runs.run step new events).Advances size
  /-- As many calls as there are bytes in the pipe, or more, get everything. -/
  all : ∀ events, written events = ms →
    ∀ sizes : List Nat, (Runs.run step new events).bytes.length ≤ sizes.length →
      (Runs.run onRead (Runs.run step new events) sizes).messages = ms

/-! ## §4. One read. -/

variable {s}

/-- `done` bytes of the `howmuch` the channel waits for are in its buffer. -/
structure Piece (c : PipeChannel) (done : Nat) : Prop where
  left_eq : c.leftToRead = if done = 0 then 0 else c.howmuch - done
  lt : done < c.howmuch

/-- What the channel asks for is never more than what is missing. -/
theorem Piece.ntoread {done : Nat} (h : Piece s.channel done) :
    0 < s.ntoread ∧ s.ntoread ≤ s.channel.howmuch - done ∧ s.ntoread ≤ 1024 := by
  have hlt := h.lt
  have hleft := h.left_eq
  unfold Pipe.ntoread PipeChannel.READ_BUFF_SIZE
  by_cases hdone : done = 0
  · rw [if_pos hdone] at hleft
    rw [if_neg (by rw [hleft]; exact fun hne => hne rfl)]
    omega
  · rw [if_neg hdone] at hleft
    rw [if_pos (by omega)]
    omega

/-- `read` of a positive count from a pipe with data. -/
theorem read_spec {bytes : List UInt8} (hdata : bytes ≠ []) {count : Nat} (hcount : 0 < count)
    (size : Nat) : ∃ k, read bytes count size = ((k : Nat) : Int) ∧ 0 < k ∧ k ≤ count
      ∧ k ≤ bytes.length := by
  have hlen := List.length_pos_of_ne_nil hdata
  refine ⟨max 1 (min size (min count bytes.length)), ?_, by omega, by omega, by omega⟩
  rw [read, if_neg (Nat.pos_iff_ne_zero.mp hcount), if_neg hdata]

/-- The state behind a read of `k` bytes that leaves `left` to read. -/
def took (s : Pipe) (k : Nat) (left : Int) : Pipe where
  bytes := s.bytes.drop k
  channel :=
    { s.channel with
      leftToRead := left
      readBuffer := s.channel.readBuffer ++ s.bytes.take k }
  handled := s.handled

/-- **`OnRead` inside a piece** takes some bytes and completes the piece when
none is missing. -/
theorem onRead_of_piece {done : Nat} (h : Piece s.channel done) (hdata : s.bytes ≠ [])
    (size : Nat) : ∃ k, 0 < k ∧ k ≤ s.bytes.length ∧ (done + k : Nat) ≤ s.channel.howmuch
      ∧ s.onRead size = if (done + k : Nat) = s.channel.howmuch then (s.took k 0).complete
          else s.took k (s.channel.howmuch - (done + k : Nat)) := by
  obtain ⟨hpos, hmissing, hmax⟩ := h.ntoread
  -- the limit of one read is not reached
  have hmin : min s.ntoread Buffer.MAX_SIZE_ONCE_READ = s.ntoread := by
    unfold Buffer.MAX_SIZE_ONCE_READ
    omega
  obtain ⟨k, hread, hk, hcount, hlen⟩ :=
    read_spec hdata (show 0 < s.ntoread.toNat by omega) size
  have hget : s.getDataFromFd s.ntoread size = ((k : Int), s.took k s.channel.leftToRead) := by
    rw [getDataFromFd, if_neg (by omega), hmin]
    dsimp only
    rw [hread, if_pos (by omega)]
    rfl
  have hleft : (if s.channel.leftToRead ≠ 0 then s.channel.leftToRead - k
      else s.channel.howmuch - k) = s.channel.howmuch - (done + k : Nat) := by
    have hlt := h.lt
    rw [h.left_eq]
    -- 0 says that nothing of the piece was read yet
    by_cases hdone : done = 0
    · rw [if_pos hdone, if_neg (fun hne => hne rfl)]
      omega
    · rw [if_neg hdone, if_pos (by omega)]
      omega
  have honRead : s.onRead size = if s.channel.howmuch - (done + k : Nat) ≠ 0
      then s.took k (s.channel.howmuch - (done + k : Nat))
      else (s.took k (s.channel.howmuch - (done + k : Nat))).complete := by
    rw [onRead, hget, ← hleft]
    dsimp only
    rw [if_neg (by omega)]
    rfl
  refine ⟨k, hk, hlen, by omega, ?_⟩
  rw [honRead]
  by_cases hall : ((done + k : Nat) : Int) = s.channel.howmuch
  · rw [if_pos hall, if_neg (by omega), hall, Int.sub_self]
  · rw [if_neg hall, if_pos (by omega)]

/-- From an empty pipe nothing is read. -/
theorem onRead_of_empty (hdata : s.bytes = []) (size : Nat) : s.onRead size = s := by
  have hget : ∃ nread, nread ≤ 0 ∧ s.getDataFromFd s.ntoread size = (nread, s) := by
    unfold getDataFromFd
    split
    · exact ⟨-1, by decide, rfl⟩
    · dsimp only
      have hread : ∀ count, read s.bytes count size ≤ 0 := by
        intro count
        unfold read
        split
        · exact Int.le_refl 0
        · decide
      rw [if_neg (Int.not_lt.mpr (hread _))]
      exact ⟨_, hread _, rfl⟩
  obtain ⟨nread, hle, hget⟩ := hget
  rw [onRead, hget]
  exact if_pos hle

/-- Asking for a body of no bytes is asking for 0 bytes, for ever. -/
theorem onRead_of_stuck (hmuch : s.channel.howmuch = 0) (hleft : s.channel.leftToRead = 0)
    (size : Nat) : s.onRead size = s := by
  have hntoread : s.ntoread = 0 := by
    rw [ntoread, hleft, hmuch]
    rfl
  have hget : s.getDataFromFd s.ntoread size = (0, s) := by
    rw [hntoread]
    rfl
  rw [onRead, hget]
  rfl

/-! ## §5. What `OnRead` can do. -/

/-- The channel between two calls.  In the body it is the header in the buffer
that says how much is awaited. -/
def Stage (c : PipeChannel) : Prop :=
  match c.readStatus with
  | .kReadHeader => c.howmuch = sizeofPipePacket ∧ Piece c c.readBuffer.length
  | .kReadData => sizeofPipePacket ≤ c.readBuffer.length
      ∧ c.howmuch = (PipePacket.load c.readBuffer).uDataLength.toNat
      ∧ (c.howmuch ≠ 0 → Piece c (c.readBuffer.length - sizeofPipePacket))
      ∧ (c.howmuch = 0 → c.leftToRead = 0)

/-- The four things `OnRead` can do. -/
inductive Reads (s : Pipe) : Pipe → Prop
  /-- No data, or a body of no bytes. -/
  | idle (h : s.bytes = [] ∨ s.channel.howmuch = 0) : Reads s s
  | piece {k : Nat} {left : Int} (hk : 0 < k) (hlen : k ≤ s.bytes.length)
      (hstage : Stage (s.took k left).channel) : Reads s (s.took k left)
  | header {k : Nat} (hk : 0 < k) (hlen : k ≤ s.bytes.length)
      (hstatus : s.channel.readStatus = .kReadHeader)
      (hall : s.channel.readBuffer.length + k = sizeofPipePacket) :
      Reads s (s.took k 0).complete
  | body {k : Nat} (hk : 0 < k) (hlen : k ≤ s.bytes.length)
      (hstatus : s.channel.readStatus = .kReadData)
      (hheader : sizeofPipePacket ≤ s.channel.readBuffer.length)
      (hmuch : (PipePacket.load s.channel.readBuffer).uDataLength.toNat ≠ 0)
      (hall : s.channel.readBuffer.length + k = sizeofPipePacket
        + (PipePacket.load s.channel.readBuffer).uDataLength.toNat) :
      Reads s (s.took k 0).complete

theorem loadU32_append {mem : List UInt8} (t : List UInt8) (h : 4 ≤ mem.length) :
    loadU32 (mem ++ t) = loadU32 mem := by
  rw [loadU32, loadBytes_append_of_le t h, loadU32]

/-- The length stands in the header, whatever is behind it. -/
theorem uDataLength_append {mem : List UInt8} (t : List UInt8)
    (h : sizeofPipePacket ≤ mem.length) :
    (PipePacket.load (mem ++ t)).uDataLength = (PipePacket.load mem).uDataLength := by
  unfold sizeofPipePacket at h
  show loadU32 ((mem ++ t).drop 4) = loadU32 (mem.drop 4)
  rw [List.drop_append_of_le_length (by omega),
    loadU32_append t (by rw [List.length_drop]; omega)]

theorem length_took (k : Nat) (left : Int) (hlen : k ≤ s.bytes.length) :
    (s.took k left).channel.readBuffer.length = s.channel.readBuffer.length + k := by
  show (s.channel.readBuffer ++ s.bytes.take k).length = _
  rw [List.length_append, List.length_take, Nat.min_eq_left hlen]

theorem stage_new : Stage new.channel := ⟨rfl, rfl, by decide⟩

/-- **The step lemma of the reader.** -/
theorem onRead_reads (h : Stage s.channel) (size : Nat) : Reads s (s.onRead size) := by
  by_cases hdata : s.bytes = []
  · rw [onRead_of_empty hdata]
    exact .idle (.inl hdata)
  · cases hstatus : s.channel.readStatus with
    | kReadHeader =>
        simp only [Stage, hstatus] at h
        obtain ⟨hmuch, hpiece⟩ := h
        obtain ⟨k, hk, hlen, hle, heq⟩ := onRead_of_piece hpiece hdata size
        rw [heq]
        split
        next hall => exact .header hk hlen hstatus (by omega)
        next hmore =>
            refine .piece hk hlen ?_
            have hlength := length_took (s := s) k
              (s.channel.howmuch - (s.channel.readBuffer.length + k : Nat)) hlen
            simp only [Stage, show (s.took k _).channel.readStatus = _ from hstatus]
            refine ⟨hmuch, ?_, ?_⟩
            · rw [hlength, if_neg (by omega)]
              rfl
            · rw [hlength]
              show _ < s.channel.howmuch
              omega
    | kReadData =>
        simp only [Stage, hstatus] at h
        obtain ⟨hheader, hmuch, hpiece, hstuck⟩ := h
        by_cases hzero : s.channel.howmuch = 0
        · rw [onRead_of_stuck hzero (hstuck hzero)]
          exact .idle (.inr hzero)
        · obtain ⟨k, hk, hlen, hle, heq⟩ := onRead_of_piece (hpiece hzero) hdata size
          rw [heq]
          split
          next hall => exact .body hk hlen hstatus hheader (by omega) (by omega)
          next hmore =>
              refine .piece hk hlen ?_
              have hlength := length_took (s := s) k (s.channel.howmuch
                - (s.channel.readBuffer.length - sizeofPipePacket + k : Nat)) hlen
              simp only [Stage, show (s.took k _).channel.readStatus = _ from hstatus]
              refine ⟨by omega, ?_, fun _ => ⟨?_, ?_⟩, fun hz => absurd hz hzero⟩
              · show s.channel.howmuch
                  = (PipePacket.load (s.channel.readBuffer ++ _)).uDataLength.toNat
                rw [uDataLength_append _ hheader]
                exact hmuch
              · rw [hlength, if_neg (by omega)]
                show s.channel.howmuch - _ = s.channel.howmuch - _
                omega
              · rw [hlength]
                show _ < s.channel.howmuch
                omega

/-- The stage after a call, and the packet it may have handled. -/
theorem Reads.stage {s' : Pipe} (hs : Stage s.channel) (h : Reads s s') :
    Stage s'.channel := by
  cases h with
  | idle => exact hs
  | piece _ _ hstage => exact hstage
  | @header k _ hlen hstatus hall =>
      have hlength := length_took (s := s) k 0 hlen
      have heq : (s.took k 0).complete.channel
          = { (s.took k 0).channel with
              howmuch := (PipePacket.load (s.took k 0).channel.readBuffer).uDataLength.toNat
              readStatus := .kReadData } := by
        unfold complete
        rw [show (s.took k 0).channel.readStatus = .kReadHeader from hstatus]
      rw [heq]
      refine ⟨Nat.le_of_eq (by rw [hlength, hall]), rfl, fun hmuch => ⟨?_, ?_⟩, fun _ => rfl⟩
      · rw [show (s.took k 0).channel.readBuffer.length = sizeofPipePacket by rw [hlength, hall]]
        rfl
      · show ((_ - sizeofPipePacket : Nat) : Int) < _
        rw [hlength, hall]
        exact Int.lt_iff_le_and_ne.mpr ⟨Int.natCast_nonneg _, Ne.symm hmuch⟩
  | @body k _ _ hstatus _ _ _ =>
      unfold complete
      rw [show (s.took k 0).channel.readStatus = .kReadData from hstatus]
      exact stage_new

theorem complete_of_header {k : Nat} (hstatus : s.channel.readStatus = .kReadHeader) :
    (s.took k 0).complete.handled = s.handled ∧ (s.took k 0).complete.bytes = s.bytes.drop k
      ∧ (s.took k 0).complete.channel.readBuffer = s.channel.readBuffer ++ s.bytes.take k := by
  unfold complete
  rw [show (s.took k 0).channel.readStatus = .kReadHeader from hstatus]
  exact ⟨rfl, rfl, rfl⟩

theorem complete_of_body {k : Nat} (hstatus : s.channel.readStatus = .kReadData) :
    (s.took k 0).complete.handled
        = s.handled ++ [PipePacket.load (s.channel.readBuffer ++ s.bytes.take k)]
      ∧ (s.took k 0).complete.bytes = s.bytes.drop k
      ∧ (s.took k 0).complete.channel.readBuffer = [] := by
  unfold complete
  rw [show (s.took k 0).channel.readStatus = .kReadData from hstatus]
  exact ⟨rfl, rfl, rfl⟩

/-- **What is handled fits**: an empty body is never complete, and a body is as
long as 32 bits say. -/
theorem Reads.fits {s' : Pipe} (hs : ∀ m ∈ s.messages, m.Fits) (h : Reads s s') :
    ∀ m ∈ s'.messages, m.Fits := by
  cases h with
  | idle => exact hs
  | piece => exact hs
  | header _ _ hstatus _ =>
      rw [messages, (complete_of_header hstatus).1]
      exact hs
  | @body k _ _ hstatus hheader hmuch _ =>
      rw [messages, (complete_of_body hstatus).1, List.map_append]
      refine List.forall_mem_append.mpr ⟨hs, List.forall_mem_singleton.mpr ?_⟩
      have hdata : (PipePacket.load (s.channel.readBuffer ++ s.bytes.take k)).message.buffer.length
          = (PipePacket.load s.channel.readBuffer).uDataLength.toNat := by
        rw [← uDataLength_append (s.bytes.take k) hheader]
        exact length_loadBytes _ _
      rw [Message.Fits, hdata]
      exact ⟨Nat.pos_of_ne_zero hmuch, UInt32.toNat_lt _⟩

/-- The reader's invariant, kept by both ends of the pipe. -/
structure Sound (s : Pipe) : Prop where
  stage : Stage s.channel
  fits : ∀ m ∈ s.messages, m.Fits

theorem Sound.step (h : s.Sound) (e : Event) : (s.step e).Sound := by
  cases e with
  | write m => exact ⟨h.stage, h.fits⟩
  | onRead size => exact ⟨(onRead_reads h.stage size).stage h.stage,
      (onRead_reads h.stage size).fits h.fits⟩

theorem sound_run (events : List Event) (h : s.Sound) :
    (Runs.run Pipe.step s events).Sound :=
  Runs.run_invariant (P := fun _ _ => True) (I := Sound) (fun _ e hs _ => hs.step e) h
    (Runs.along_of_forall (fun _ _ => trivial) events s)

theorem sound_new : new.Sound := ⟨stage_new, nofun⟩

/-- Reads alone are a run too. -/
theorem run_onRead_eq (sizes : List Nat) :
    Runs.run onRead s sizes = Runs.run Pipe.step s (sizes.map .onRead) := by
  rw [Runs.run, Runs.run, List.foldl_map]
  rfl

/-! ## §6. Messages that fit. -/

theorem length_bytes (m : Message) : m.bytes.length = sizeofPipePacket + m.buffer.length := by
  simp [Message.bytes, Message.iov, sizeofPipePacket]
  omega

theorem bytes_eq (m : Message) : m.bytes
    = leBytes 4 (UInt32.ofNat sizeofPipePacket).toNat
      ++ (leBytes 4 (UInt32.ofNat m.buffer.length).toNat
        ++ (leBytes 4 m.type.toNat ++ m.buffer)) := by
  simp [Message.bytes, Message.iov]

/-- The header of a message, in front of anything. -/
theorem load_bytes (m : Message) (t : List UInt8) :
    (PipePacket.load (m.bytes ++ t)).uDataLength = UInt32.ofNat m.buffer.length
      ∧ (PipePacket.load (m.bytes ++ t)).uPktType = m.type
      ∧ (PipePacket.load (m.bytes ++ t)).data
        = loadBytes (UInt32.ofNat m.buffer.length).toNat (m.buffer ++ t) := by
  have drop4 (v : UInt32) (t : List UInt8) : (leBytes 4 v.toNat ++ t).drop 4 = t :=
    List.drop_left' (length_leBytes 4 _)
  rw [bytes_eq]
  simp only [PipePacket.load, sizeofPipePacket, List.append_assoc, drop4, loadU32_leBytes,
    show (8 : Nat) = 4 + 4 from rfl, show (12 : Nat) = 4 + 4 + 4 from rfl, ← List.drop_drop]
  exact ⟨trivial, trivial, trivial⟩

/-- **A message that fits comes out as it went in.** -/
theorem message_load {m : Message} (h : m.Fits) :
    (PipePacket.load m.bytes).message = m := by
  obtain ⟨_, htype, hdata⟩ := load_bytes m []
  rw [List.append_nil] at htype hdata
  rw [UInt32.toNat_ofNat_of_lt' h.2, List.append_nil, loadBytes_eq_take (Nat.le_refl _),
    List.take_length] at hdata
  rw [PipePacket.message, htype, hdata]

/-- `todo` was written and is not handled yet: its bytes are in the buffer and
in the pipe. -/
structure Underway (s : Pipe) (todo : List Message) : Prop where
  stage : Stage s.channel
  bytes_eq : s.channel.readBuffer ++ s.bytes = todo.flatMap Message.bytes

theorem underway_new : new.Underway [] := ⟨stage_new, rfl⟩

theorem Underway.writeBuffer {todo : List Message} (h : s.Underway todo) (m : Message) :
    (s.writeBuffer m).Underway (todo ++ [m]) := by
  refine ⟨h.stage, ?_⟩
  show s.channel.readBuffer ++ (s.bytes ++ m.bytes) = _
  rw [← List.append_assoc, h.bytes_eq, List.flatMap_append, List.flatMap_singleton]

/-- A header in the buffer is the one of the next message. -/
theorem Underway.next {todo : List Message} (h : s.Underway todo) {buffer rest : List UInt8}
    (hsplit : buffer ++ rest = s.channel.readBuffer ++ s.bytes)
    (hheader : sizeofPipePacket ≤ buffer.length) :
    ∃ m todo', todo = m :: todo' ∧ buffer ++ rest = m.bytes ++ todo'.flatMap Message.bytes
      ∧ (PipePacket.load buffer).uDataLength = UInt32.ofNat m.buffer.length := by
  rw [h.bytes_eq] at hsplit
  cases todo with
  | nil =>
      have hlength := congrArg List.length hsplit
      rw [List.length_append] at hlength
      simp only [List.flatMap_nil, List.length_nil, sizeofPipePacket] at hlength hheader
      omega
  | cons m todo' =>
      refine ⟨m, todo', rfl, hsplit, ?_⟩
      rw [← uDataLength_append rest hheader, hsplit]
      exact (load_bytes m _).1

/-- **The step lemma for messages that fit**: what is handled is the next of
them, and every call that finds data takes some. -/
theorem Underway.reads {s' : Pipe} {todo : List Message} (h : s.Underway todo)
    (hfits : ∀ m ∈ todo, m.Fits) (hr : Reads s s') :
    ∃ handled todo', todo = handled ++ todo' ∧ s'.messages = s.messages ++ handled
      ∧ s'.Underway todo' ∧ (s.bytes ≠ [] → s'.bytes.length < s.bytes.length) := by
  have hstage := hr.stage h.stage
  have hdrop {k : Nat} (hk : 0 < k) (hlen : k ≤ s.bytes.length) :
      (s.bytes.drop k).length < s.bytes.length := by
    rw [List.length_drop]
    omega
  have hsplit (k : Nat) : (s.channel.readBuffer ++ s.bytes.take k) ++ s.bytes.drop k
      = s.channel.readBuffer ++ s.bytes := by
    rw [List.append_assoc, List.take_append_drop]
  cases hr with
  | idle hidle =>
      refine ⟨[], todo, rfl, (List.append_nil _).symm, h, fun hdata => ?_⟩
      -- a body of no bytes is not awaited
      have hzero := hidle.resolve_left hdata
      have hst := h.stage
      cases hstatus : s.channel.readStatus with
      | kReadHeader =>
          simp only [Stage, hstatus, hzero] at hst
          exact absurd hst.1 (by decide)
      | kReadData =>
          simp only [Stage, hstatus, hzero] at hst
          obtain ⟨m, todo', htodo, _, hlen⟩ := h.next rfl hst.1
          have hfit := hfits m (htodo ▸ List.mem_cons_self)
          have hmuch := hst.2.1
          rw [hlen, UInt32.toNat_ofNat_of_lt' hfit.2] at hmuch
          have hpos := hfit.1
          omega
  | @piece k left hk hlen _ =>
      exact ⟨[], todo, rfl, (List.append_nil _).symm, ⟨hstage, (hsplit k).trans h.bytes_eq⟩,
        fun _ => hdrop hk hlen⟩
  | @header k hk hlen hstatus _ =>
      obtain ⟨hhandled, hbytes, hbuffer⟩ := complete_of_header (k := k) hstatus
      refine ⟨[], todo, rfl, ?_, ⟨hstage, ?_⟩, fun _ => ?_⟩
      · rw [messages, hhandled, List.append_nil, messages]
      · rw [hbuffer, hbytes, hsplit, h.bytes_eq]
      · rw [hbytes]
        exact hdrop hk hlen
  | @body k hk hlen hstatus hheader _ hall =>
      obtain ⟨hhandled, hbytes, hbuffer⟩ := complete_of_body (k := k) hstatus
      have hlength : (s.channel.readBuffer ++ s.bytes.take k).length
          = s.channel.readBuffer.length + k := by
        rw [List.length_append, List.length_take, Nat.min_eq_left hlen]
      obtain ⟨m, todo', rfl, happend, hdata⟩ := h.next (hsplit k) (by omega)
      have hfit := hfits m List.mem_cons_self
      rw [uDataLength_append _ hheader] at hdata
      -- the piece ends where the message does
      obtain ⟨hbody, hrest⟩ := List.append_inj happend (by
        rw [hlength, hall, length_bytes, hdata, UInt32.toNat_ofNat_of_lt' hfit.2])
      refine ⟨[m], todo', rfl, ?_, ⟨hstage, ?_⟩, fun _ => ?_⟩
      · rw [messages, hhandled, List.map_append, hbody]
        exact congrArg (s.messages ++ [·]) (message_load hfit)
      · rw [hbuffer, hbytes, hrest, List.nil_append]
      · rw [hbytes]
        exact hdrop hk hlen

/-- With the pipe empty, nothing that was written is unhandled. -/
theorem Underway.done {todo : List Message} (h : s.Underway todo)
    (hfits : ∀ m ∈ todo, m.Fits) (hdata : s.bytes = []) : todo = [] := by
  have hlen := congrArg List.length h.bytes_eq
  rw [hdata, List.append_nil] at hlen
  cases todo with
  | nil => rfl
  | cons m todo' =>
      have hfit := hfits m List.mem_cons_self
      rw [List.flatMap_cons, List.length_append, length_bytes] at hlen
      have hst := h.stage
      -- a message is in the buffer, which is never as long as one
      cases hstatus : s.channel.readStatus with
      | kReadHeader =>
          simp only [Stage, hstatus] at hst
          have hlt := hst.2.lt
          omega
      | kReadData =>
          simp only [Stage, hstatus] at hst
          obtain ⟨hheader, hmuch, hpiece, _⟩ := hst
          obtain ⟨m', _, heq, _, hdataLen⟩ := h.next rfl hheader
          obtain ⟨rfl, _⟩ := List.cons.inj heq
          rw [hdataLen, UInt32.toNat_ofNat_of_lt' hfit.2] at hmuch
          have hlt := (hpiece (by have := hfit.1; omega)).lt
          omega

/-! ## §7. Runs. -/

/-- **The run lemma**: handled and underway are what was written. -/
theorem Underway.run {ms : List Message} (hfits : ∀ m ∈ ms, m.Fits) (events : List Event) :
    ∀ {s : Pipe} {todo : List Message}, s.Underway todo →
      s.messages ++ todo ++ written events = ms →
      ∃ todo', (Runs.run Pipe.step s events).Underway todo'
        ∧ (Runs.run Pipe.step s events).messages ++ todo' = ms := by
  induction events with
  | nil =>
      intro s todo h hms
      exact ⟨todo, h, by rw [← hms]; exact (List.append_nil _).symm⟩
  | cons e events ih =>
      intro s todo h hms
      cases e with
      | write m =>
          refine ih (h.writeBuffer m) ?_
          rw [← hms]
          show s.messages ++ (todo ++ [m]) ++ written events
            = s.messages ++ todo ++ (m :: written events)
          simp only [List.append_assoc, List.singleton_append]
      | onRead size =>
          have hsub : ∀ m ∈ todo, m.Fits := by
            intro m hm
            refine hfits m ?_
            rw [← hms]
            exact List.mem_append_left _ (List.mem_append_right _ hm)
          obtain ⟨handled, todo', rfl, hmsgs, h', _⟩ :=
            h.reads hsub (onRead_reads h.stage size)
          refine ih h' ?_
          show (s.onRead size).messages ++ todo' ++ written events = ms
          rw [hmsgs, ← hms]
          show _ = s.messages ++ (handled ++ todo') ++ written events
          simp only [List.append_assoc]

/-- Enough calls empty the pipe. -/
theorem Underway.drain (sizes : List Nat) :
    ∀ {s : Pipe} {todo : List Message}, s.Underway todo → (∀ m ∈ todo, m.Fits) →
      s.bytes.length ≤ sizes.length →
      (Runs.run onRead s sizes).messages = s.messages ++ todo := by
  induction sizes with
  | nil =>
      intro s todo h hfits hlen
      have hdata := List.eq_nil_of_length_eq_zero (Nat.le_zero.mp hlen)
      rw [h.done hfits hdata, List.append_nil, Runs.run_nil]
  | cons size sizes ih =>
      intro s todo h hfits hlen
      rw [Runs.run_cons]
      by_cases hdata : s.bytes = []
      · rw [onRead_of_empty hdata]
        exact ih h hfits (by rw [hdata]; exact Nat.zero_le _)
      · obtain ⟨handled, todo', rfl, hmsgs, h', hlt⟩ :=
          h.reads hfits (onRead_reads h.stage size)
        have hshort := hlt hdata
        rw [List.length_cons] at hlen
        rw [ih h' (fun m hm => hfits m (List.mem_append_right _ hm)) (by omega), hmsgs,
          List.append_assoc]

theorem delivers_of_fits {ms : List Message} (hfits : ∀ m ∈ ms, m.Fits) : Delivers ms := by
  have hrun (events : List Event) (hw : written events = ms) :=
    underway_new.run hfits events (show [] ++ [] ++ written events = ms from hw)
  constructor
  · intro events hw
    obtain ⟨todo, _, hms⟩ := hrun events hw
    exact ⟨todo, hms⟩
  · intro events hw size hdata
    obtain ⟨todo, h, hms⟩ := hrun events hw
    have hsub : ∀ m ∈ todo, m.Fits :=
      fun m hm => hfits m (hms ▸ List.mem_append_right _ hm)
    obtain ⟨_, _, _, _, _, hlt⟩ := h.reads hsub (onRead_reads h.stage size)
    exact .inl (hlt hdata)
  · intro events hw sizes hlen
    obtain ⟨todo, h, hms⟩ := hrun events hw
    rw [h.drain sizes (fun m hm => hfits m (hms ▸ List.mem_append_right _ hm)) hlen, hms]

theorem written_map_write (ms : List Message) : written (ms.map .write) = ms := by
  induction ms with
  | nil => rfl
  | cons m ms ih => exact congrArg (m :: ·) ih

/-- Whatever was handled fits, so what does not fit is not delivered. -/
theorem fits_of_delivers {ms : List Message} (h : Delivers ms) : ∀ m ∈ ms, m.Fits := by
  have hall := h.all _ (written_map_write ms)
    (List.replicate (Runs.run Pipe.step new (ms.map .write)).bytes.length 1)
    (Nat.le_of_eq List.length_replicate.symm)
  rw [← hall, run_onRead_eq]
  exact (sound_run _ (sound_run _ sound_new)).fits

/-- **When pipe messages arrive whole.**  In every run that writes the messages
`ms`, with reads of any sizes in between and behind them, the handler is called
once for each, in order, with its type and payload, and no call that finds data
in the pipe leaves all of it there without completing a message, exactly when
every payload has at least one byte and fewer than 2^32. -/
theorem delivers_iff (ms : List Message) : Delivers ms ↔ ∀ m ∈ ms, m.Fits :=
  ⟨fits_of_delivers, delivers_of_fits⟩

/-- A stop message without a payload does not arrive. -/
theorem not_delivers_empty : ¬ Delivers [⟨1, []⟩] := by
  intro h
  exact absurd (fits_of_delivers h ⟨1, []⟩ List.mem_cons_self).1 (by decide)

end Pipe

end MultiProcessServer.Pipes
