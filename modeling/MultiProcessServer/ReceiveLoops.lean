/-
  MultiProcessServer.ReceiveLoops
  ───────────────────────────────
  **THE FOUR LOOPS THAT READ IPC PACKETS.**

  `PcSession::OnMessage`, `Jt1078Client::OnMessage`, `Subscriber::OnMessage`
  and `CarTcpClient::HandlerReadBuffer` push what was read into an
  `ipc::decoder_t` and decode packets until none is complete.  They differ in
  what they do when `PushBuffer` answers `kBufferFull` and when `Decode` answers
  `kInvalidHeader`.

    `nothing_dropped_iff` : when each of them loses no byte unnoticed.
-/
import MultiProcessServer.Core.IpcPktDecoder
import MultiProcessServer.Lib.ReceiveLoop

namespace MultiProcessServer

open StreamParser (Loop Connection)
open Ipc (Decoder)

/-! ## §1. The loops. -/

inductive TcpErrorType
  | TCP_ERROR_DISCONNECT
  | TCP_ERROR_NET_ERROR
  | TCP_ERROR_USER_BUFFER_FULL
  | TCP_ERROR_INVALID_PACKET
  deriving DecidableEq, Repr

/-- A loop over an `ipc::decoder_t`, and the error it handles, if any. -/
abbrev IpcLoop := Loop UInt8 (Ipc.Packet × UInt8) TcpErrorType Decoder

/-- Push, then decode and hand on packets until `Decode` has none.  `full` is
what a loop that looks at the answer of `PushBuffer` does when it is
`kBufferFull`, before it returns: handle that error, or only log it.  `bad` is
what it does when `Decode` ends with anything but `kNeedMoreData`. -/
def receiveLoop (full : Option (Option TcpErrorType)) (bad : Option TcpErrorType)
    (a : StringAlloc) : IpcLoop := fun decoder data =>
  let (error, decoder) := decoder.pushBuffer a data
  match full, error with
  | some handled, .kBufferFull => ([], handled, decoder)
  | _, _ =>
      let (packets, error, decoder) := (Decoder.receiver a).drain decoder
      (packets, if error ≠ .kNeedMoreData then bad else none, decoder)

def PcSession.onMessage : StringAlloc → IpcLoop :=
  receiveLoop none (some .TCP_ERROR_INVALID_PACKET)

def Jt1078Client.onMessage : StringAlloc → IpcLoop :=
  receiveLoop none (some .TCP_ERROR_INVALID_PACKET)

def Forward.Subscriber.onMessage : StringAlloc → IpcLoop :=
  receiveLoop (some (some .TCP_ERROR_USER_BUFFER_FULL)) (some .TCP_ERROR_INVALID_PACKET)

/-- Both calls of `ProcessIpcPacketError` are commented out. -/
def CarTcpClient.handlerReadBuffer : StringAlloc → IpcLoop :=
  receiveLoop (some none) none

/-! ## §2. A loop runs the decoder. -/

namespace Ipc.Decoder

variable {a : StringAlloc} {d : Decoder} {data : List UInt8}

/-- `PushBuffer` answers `kBufferFull`. -/
def Refuses (d : Decoder) (data : List UInt8) : Prop :=
  Buffer.MAX_BUFFER_SIZE < data.length + d.buffer.readableBytes

theorem pushBuffer_of_refuses (h : d.Refuses data) :
    d.pushBuffer a data = (.kBufferFull, d) := by
  have hnone : d.buffer.pushBuffer a data = none := (Buffer.pushBuffer_eq_none_iff data).mpr h
  unfold pushBuffer
  rw [hnone]

/-- A state of the decoder that stands for some bytes, in storage of a size. -/
def RepIn (capacity : Nat) (d : Decoder) (p : List UInt8) : Prop :=
  d.Rep p ∧ d.packetBuffer.capacity = capacity

end Ipc.Decoder

section

variable {full : Option (Option TcpErrorType)} {bad : Option TcpErrorType} {a : StringAlloc}

/-- **Every loop runs the decoder**; it handles a refused chunk and an invalid
header as it is told to. -/
theorem receiveLoop_implements (full : Option (Option TcpErrorType)) (bad : Option TcpErrorType)
    (a : StringAlloc) (capacity : Nat) :
    (receiveLoop full bad a).Implements Ipc.grammar (Decoder.RepIn capacity)
      (Ipc.HeadFits capacity) Decoder.Refuses (full.join ≠ none) (bad ≠ none) where
  refused := by
    intro d p c hd hmore hP hrefused
    have hpush := Decoder.pushBuffer_of_refuses (a := a) hrefused
    cases full with
    | some handled =>
        simp only [receiveLoop, hpush]
        exact ⟨trivial, Iff.rfl⟩
    | none =>
        -- the loop decodes what was there before, which is no whole packet
        obtain ⟨d', hdrain, -⟩ := (Decoder.receiver_decodes a capacity).drain_parse p d hd
          (hP.of_append Ipc.HeadFits.of_append c)
        rw [StreamParser.Grammar.parse_of_more hmore] at hdrain
        simp only [receiveLoop, hpush, hdrain]
        exact ⟨trivial, by simp [Decoder.receiver]⟩
  taken := by
    intro d p c hd hmore hP htaken
    obtain ⟨d₁, hpush, hrep, hbuffer⟩ := hd.1.pushFits (a := a) (Nat.not_lt.mp htaken)
    have hd₁ : d₁.RepIn capacity (p ++ c) := ⟨hrep, by rw [hbuffer]; exact hd.2⟩
    obtain ⟨d', hdrain, hrest⟩ :=
      (Decoder.receiver_decodes a capacity).drain_parse (p ++ c) d₁ hd₁ hP
    have hloop : receiveLoop full bad a d c
        = ((Ipc.grammar.parse (p ++ c)).frames,
            if (if (Ipc.grammar.parse (p ++ c)).invalid = true then Ipc.ErrorType.kInvalidHeader
              else (Decoder.receiver a).needMore) ≠ .kNeedMoreData then bad else none, d') := by
      simp only [receiveLoop, hpush, hdrain]
    rw [hloop]
    refine ⟨rfl, ?_, ?_⟩
    · intro hvalid
      rw [hvalid]
      exact ⟨by simp [Decoder.receiver], hrest hvalid⟩
    · intro hinvalid
      rw [hinvalid]
      simp

end

/-! ## §3. Which loop loses what. -/

/-- The loops by name. -/
inductive LoopName
  | pcSession
  | jt1078Client
  | carTcpClient
  | subscriber
  deriving DecidableEq, Repr

namespace LoopName

def loop (a : StringAlloc) : LoopName → IpcLoop
  | pcSession => PcSession.onMessage a
  | jt1078Client => Jt1078Client.onMessage a
  | carTcpClient => CarTcpClient.handlerReadBuffer a
  | subscriber => Forward.Subscriber.onMessage a

/-- What must not happen on a connection that is up, for the loop to lose
nothing unnoticed. -/
def Copes (name : LoopName) (s : Connection UInt8 (Ipc.Packet × UInt8) TcpErrorType Decoder)
    (data : List UInt8) : Prop :=
  s.error = none →
    match name with
    | subscriber => True
    | pcSession | jt1078Client => ¬s.decoder.Refuses data
    | carTcpClient =>
        ¬s.decoder.Refuses data ∧ (Ipc.grammar.parse (s.received ++ data)).invalid = false

variable {a : StringAlloc}

/-- The loop handles a refused chunk, and an invalid header. -/
def handlesFull : LoopName → Prop
  | subscriber => True
  | pcSession | jt1078Client | carTcpClient => False

def handlesInvalid : LoopName → Prop
  | subscriber | pcSession | jt1078Client => True
  | carTcpClient => False

theorem implements (name : LoopName) (a : StringAlloc) (capacity : Nat) :
    (name.loop a).Implements Ipc.grammar (Decoder.RepIn capacity) (Ipc.HeadFits capacity)
      Decoder.Refuses name.handlesFull name.handlesInvalid := by
  cases name with
  | pcSession | jt1078Client =>
      have h := receiveLoop_implements none (some .TCP_ERROR_INVALID_PACKET) a capacity
      simp only [Option.join_none, ne_eq, not_true_eq_false, reduceCtorEq,
        not_false_eq_true] at h
      exact h
  | carTcpClient =>
      have h := receiveLoop_implements (some none) none a capacity
      simp only [Option.join_some, ne_eq, not_true_eq_false] at h
      exact h
  | subscriber =>
      have h := receiveLoop_implements (some (some .TCP_ERROR_USER_BUFFER_FULL))
        (some .TCP_ERROR_INVALID_PACKET) a capacity
      simp only [Option.join_some, ne_eq, reduceCtorEq, not_false_eq_true] at h
      exact h

theorem copes_iff_reported (name : LoopName)
    (s : Connection UInt8 (Ipc.Packet × UInt8) TcpErrorType Decoder) (data : List UInt8) :
    name.Copes s data ↔ StreamParser.Reported Ipc.grammar Decoder.Refuses name.handlesFull
      name.handlesInvalid s data := by
  unfold Copes StreamParser.Reported
  cases name with
  | pcSession | jt1078Client | subscriber => simp [handlesFull, handlesInvalid]
  | carTcpClient =>
      simp only [handlesFull, handlesInvalid, imp_false]
      constructor
      · intro h hnone
        obtain ⟨htaken, hvalid⟩ := h hnone
        exact ⟨htaken, fun _ => by rw [hvalid]; exact Bool.false_ne_true⟩
      · intro h hnone
        obtain ⟨htaken, hvalid⟩ := h hnone
        exact ⟨htaken, Bool.not_eq_true _ ▸ hvalid htaken⟩

/-- **When no received byte is dropped silently.**  Where every header of the
stream declares a body that fits the packet buffer, a run of any of the loops
delivers the frames received so far and handles every refused chunk and every
invalid header, exactly when what goes wrong on the way is what that loop copes
with. -/
theorem nothing_dropped_iff (a : StringAlloc) (name : LoopName) (chunks : List (List UInt8))
    (hroom : Ipc.grammar.Always
      (Ipc.HeadFits (a.reserve a.initial 1024 - Ipc.sizeofPacket)) chunks.flatten) :
    Runs.Along (name.loop a).step
        (StreamParser.Faithful Ipc.grammar Decoder.Refuses (name.loop a))
        (.fresh (Decoder.new a)) chunks
      ↔ Runs.Along (name.loop a).step name.Copes (.fresh (Decoder.new a)) chunks := by
  have hfits : Ipc.grammar.Always (Ipc.HeadFits (a.reserve a.initial 1024)) chunks.flatten := by
    refine hroom.mono ?_
    intro t ht hlen hhead
    exact Nat.le_trans (ht hlen hhead) (Nat.sub_le _ _)
  have hiff := (name.implements a (a.reserve a.initial 1024)).faithful_iff
    Ipc.HeadFits.of_append rfl ⟨Decoder.rep_new, rfl⟩ hfits
  rw [hiff]
  have hsame : name.Copes = StreamParser.Reported Ipc.grammar Decoder.Refuses name.handlesFull
      name.handlesInvalid := by
    funext s data
    exact propext (name.copes_iff_reported s data)
  rw [hsame]

/-- **A packet the buffer of the decoder has no room for** goes unnoticed in
every loop but the one of `Subscriber`. -/
theorem not_copes_of_long (a : StringAlloc) {name : LoopName} (hname : name ≠ subscriber)
    {pre : List (List UInt8)} {data : List UInt8}
    (hroom : Ipc.grammar.Always (Ipc.HeadFits (a.reserve a.initial 1024)) pre.flatten)
    (hmore : Ipc.next pre.flatten = .more)
    (hlong : Buffer.MAX_BUFFER_SIZE + Ipc.sizeofPacket < pre.flatten.length + data.length) :
    ¬Runs.Along (name.loop a).step name.Copes (.fresh (Decoder.new a)) (pre ++ [data]) := by
  intro h
  have hparse := StreamParser.Grammar.parse_of_more (g := Ipc.grammar) hmore
  have htakes : ∀ s data, name.Copes s data → s.error = none → ¬s.decoder.Refuses data := by
    intro s data hcopes hnone
    have hcase := hcopes hnone
    cases name with
    | pcSession | jt1078Client => exact hcase
    | carTcpClient => exact hcase.1
    | subscriber => exact absurd rfl hname
  obtain ⟨hpre, hlast⟩ := Runs.along_concat.mp h
  have hvalid : (Ipc.grammar.parse pre.flatten).invalid = false := by rw [hparse]
  have hfresh : Loop.Going Ipc.grammar (Decoder.RepIn (a.reserve a.initial 1024))
      (.fresh (Decoder.new a) : Connection UInt8 _ TcpErrorType Decoder) :=
    Loop.Implements.going_fresh rfl ⟨Decoder.rep_new, rfl⟩
  obtain ⟨hnone, hgoing, hreceived⟩ :=
    (name.implements a (a.reserve a.initial 1024)).going_run Ipc.HeadFits.of_append rfl hfresh
      hroom hvalid (hpre.imp htakes)
  -- the unfinished packet is still in the buffer, all but its header
  have hlength := hgoing.rep.1.length_le
  rw [hreceived, show Connection.received _ ++ pre.flatten = pre.flatten from rfl, hparse]
    at hlength
  dsimp only at hlength
  apply htakes _ _ hlast hnone
  unfold Ipc.Decoder.Refuses
  omega

/-- **An invalid header** goes unnoticed in the loop of `CarTcpClient`. -/
theorem not_copes_of_invalid (a : StringAlloc) {data : List UInt8}
    (hinvalid : Ipc.next data = .invalid) :
    ¬Runs.Along (carTcpClient.loop a).step carTcpClient.Copes (.fresh (Decoder.new a)) [data] := by
  intro h
  have hvalid : (Ipc.grammar.parse data).invalid = false := (h.1 rfl).2
  rw [StreamParser.Grammar.parse_of_invalid (g := Ipc.grammar) hinvalid] at hvalid
  cases hvalid

/-- A heartbeat and the beginning of another packet, in two chunks. -/
theorem nothing_dropped_heartbeat :
    let chunks : List (List UInt8) :=
      [[16, 0, 0, 0, 0, 0, 0, 0, 5, 0], [0, 0, 1, 0, 3, 0, 16, 0, 0]]
    Runs.Along (subscriber.loop .libstdcxx).step
      (StreamParser.Faithful Ipc.grammar Decoder.Refuses (subscriber.loop .libstdcxx))
      (.fresh (Decoder.new .libstdcxx)) chunks := by
  intro chunks
  refine (nothing_dropped_iff .libstdcxx subscriber chunks ?_).mpr
    (Runs.along_of_forall (fun _ _ _ => trivial) chunks _)
  intro t ht
  cases ht with
  | refl =>
      intro _ _
      decide
  | @step _ r _ _ hs ht =>
      -- behind the heartbeat there are three bytes
      have hnext : Ipc.next chunks.flatten
          = .frame (Ipc.headPacket chunks.flatten, 0) [16, 0, 0] := rfl
      have hrest : [16, 0, 0] = r := by
        have hsame := hnext.symm.trans hs
        injection hsame
      subst hrest
      cases ht with
      | refl =>
          intro hlen
          exact absurd hlen (by decide)
      | step hs =>
          have hmore : Ipc.next [16, 0, 0] = .more := rfl
          have hsame := hmore.symm.trans hs
          cases hsame

/-- An allocator that gives every string room for any packet. -/
def generous : StringAlloc := { StringAlloc.libstdcxx with initial := 2 ^ 33 }

/-- A body has less than `2 ^ 32` bytes. -/
theorem generous_fits (s : List UInt8) :
    Ipc.grammar.Always
      (Ipc.HeadFits (generous.reserve generous.initial 1024 - Ipc.sizeofPacket)) s := by
  have hkeeps : generous.reserve generous.initial 1024 = 2 ^ 33 :=
    generous.reserve_keeps _ _ (by decide)
  intro t _ _ _
  have hlt := (Ipc.Header.load t).dataLength.toNat_lt
  rw [hkeeps]
  simp only [Ipc.sizeofPacket]
  omega

/-- A header that declares 600000 bytes, and 104 chunks of 5120 bytes of its
body, of which the last four are refused (`CarTcpClient` is given buffers of 1024
bytes, here as any).  And a header of zeros. -/
theorem dropped_silently :
    let long : List (List UInt8) :=
      (⟨16, 600000, 0, 0x00030001⟩ : Ipc.Header).bytes
        :: List.replicate 104 (List.replicate 5120 0)
    (∀ name ∈ [pcSession, jt1078Client, carTcpClient],
      ¬Runs.Along (name.loop generous).step
        (StreamParser.Faithful Ipc.grammar Decoder.Refuses (name.loop generous))
        (.fresh (Decoder.new generous)) long)
    ∧ ¬Runs.Along (carTcpClient.loop generous).step
        (StreamParser.Faithful Ipc.grammar Decoder.Refuses (carTcpClient.loop generous))
        (.fresh (Decoder.new generous)) [List.replicate 16 0] := by
  intro long
  constructor
  · intro name hname hfaithful
    have hne : name ≠ subscriber := by
      intro heq
      subst heq
      exact absurd hname (by decide)
    have hcopes := (nothing_dropped_iff generous name long (generous_fits _)).mp hfaithful
    have hsplit : long = ((⟨16, 600000, 0, 0x00030001⟩ : Ipc.Header).bytes
        :: List.replicate 103 (List.replicate 5120 0)) ++ [List.replicate 5120 0] := by
      show _ :: List.replicate (103 + 1) _ = _
      rw [List.replicate_succ', List.cons_append]
    have hbody : (List.replicate 103 (List.replicate 5120 (0 : UInt8))).flatten
        = List.replicate (103 * 5120) 0 := List.flatten_replicate_replicate
    rw [hsplit] at hcopes
    refine not_copes_of_long generous hne ?_ ?_ ?_ hcopes
    · refine (generous_fits _).mono ?_
      intro t ht hlen hhead
      exact Nat.le_trans (ht hlen hhead) (Nat.sub_le _ _)
    · rw [List.flatten_cons, hbody]
      apply Ipc.next_of_short_body rfl
      rw [List.length_replicate]
      decide
    · rw [List.flatten_cons, hbody, List.length_append, Ipc.Header.length_bytes,
        List.length_replicate, List.length_replicate]
      decide
  · intro hfaithful
    have hinvalid : Ipc.next (List.replicate 16 0) = .invalid := by
      rw [Ipc.next_eq_invalid_iff]
      decide
    exact not_copes_of_invalid generous hinvalid
      ((nothing_dropped_iff generous carTcpClient _ (generous_fits _)).mp hfaithful)

end LoopName

end MultiProcessServer
