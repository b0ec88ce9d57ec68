/-
  MultiProcessServer.NewWebServer.UpstreamFrames
  ──────────────────────────────────────────────
  What `CarTcpClient` makes of the packets of one connection after another.

  Main result:

    `traffic_framed_iff` :
        where the decoder is clean when a connection is made, the client has
        handed on the complete packets of every connection that is over exactly
        when no packet was completed in the last, partly filled buffer.

  The decoder outlives the connection, and `async_read` hands over full buffers
  only.  What arrived on a connection, and what was handed on, stand beside the
  server.
-/
import MultiProcessServer.NewWebServer.CarWebServer

namespace MultiProcessServer

open Runs
open Ipc (Packet Decoder SmallHead HeadFits grammar)

/-! ## §1. Full buffers. -/

/-- The bytes in full buffers of `n`. -/
def handed {α : Type*} (n : Nat) (l : List α) : List α := l.take (l.length / n * n)

/-- The bytes in the last buffer. -/
def unhanded {α : Type*} (n : Nat) (l : List α) : List α := l.drop (l.length / n * n)

section Handed

variable {α : Type*} {n : Nat} {l : List α} {x : α}

theorem handed_append_unhanded (n : Nat) (l : List α) : handed n l ++ unhanded n l = l :=
  List.take_append_drop _ _

theorem length_unhanded (n : Nat) (l : List α) : (unhanded n l).length = l.length % n := by
  unfold unhanded
  have h := Nat.div_add_mod' l.length n
  rw [List.length_drop]
  omega

/-- One more element that does not fill the buffer, -/
theorem handed_concat_of_lt (h : l.length % n + 1 < n) :
    handed n (l ++ [x]) = handed n l ∧ unhanded n (l ++ [x]) = unhanded n l ++ [x] := by
  have hdiv : (l ++ [x]).length / n = l.length / n := by
    rw [List.length_append, List.length_singleton]
    refine Nat.div_eq_of_lt_le ?_ ?_
    · exact Nat.le_trans (Nat.div_mul_le_self _ _) (Nat.le_succ _)
    · have hsplit := Nat.div_add_mod' l.length n
      rw [Nat.succ_mul]
      omega
  have hle : l.length / n * n ≤ l.length := Nat.div_mul_le_self _ _
  unfold handed unhanded
  rw [hdiv]
  exact ⟨List.take_append_of_le_length hle, List.drop_append_of_le_length hle⟩

/-- and one that does. -/
theorem handed_concat_of_eq (h : l.length % n + 1 = n) :
    handed n (l ++ [x]) = l ++ [x] ∧ unhanded n (l ++ [x]) = [] := by
  have hsplit := Nat.div_add_mod' l.length n
  have hlen : (l.length / n + 1) * n = (l ++ [x]).length := by
    rw [Nat.succ_mul, List.length_append, List.length_singleton]
    omega
  have hmul : (l ++ [x]).length / n * n = (l ++ [x]).length :=
    Nat.div_mul_cancel ⟨l.length / n + 1, by rw [Nat.mul_comm, hlen]⟩
  unfold handed unhanded
  rw [hmul]
  exact ⟨List.take_length, List.drop_length⟩

end Handed

namespace CarWebServer

/-! ## §2. Connections. -/

/-- What arrived on a connection, and the packets handed to
`ProcessIpcPacketCompleted` meanwhile. -/
structure Record where
  received : List UInt8
  delivered : List (Packet × UInt8)
  deriving DecidableEq, Repr

/-- What was handed on are the packets that are complete. -/
def Record.Framed (r : Record) : Prop := r.delivered = (grammar.parse r.received).frames

/-- The decoder has handed on all it was given. -/
def Record.Clean (r : Record) : Prop :=
  (grammar.parse (handed CarTcpClient.readBufferSize r.received)).rest = []

/-- No packet is completed in the last buffer. -/
def Record.EndsWhole (r : Record) : Prop :=
  (grammar.parse r.received).frames
    = (grammar.parse (handed CarTcpClient.readBufferSize r.received)).frames

/-- The server with the record of its connection, and those of the connections
that are over. -/
structure Traffic where
  server : CarWebServer
  record : Record
  ended : List Record

namespace Traffic

def new (a : StringAlloc) (garbage : UInt8) (last : UInt32) : Traffic :=
  ⟨.new a garbage last, ⟨[], []⟩, []⟩

variable (t : Traffic)

def Connected : Prop := t.server.tcpClient.socket = .connected

instance : Decidable t.Connected := inferInstanceAs (Decidable (_ = _))

/-- What an event adds to the record. -/
def recordOf (a : StringAlloc) : Event → Record
  | .websocket _ _ => t.record
  | .tcp e =>
      { received := t.record.received ++ e.bytes
        delivered := t.record.delivered ++ t.server.tcpClient.completed a e }

/-- The event ends the connection. -/
def Ends (a : StringAlloc) (e : Event) : Prop :=
  t.Connected ∧ (CarWebServer.step a t.server e).tcpClient.socket ≠ .connected

instance (a : StringAlloc) (e : Event) : Decidable (t.Ends a e) :=
  inferInstanceAs (Decidable (_ ∧ _))

def step (a : StringAlloc) (t : Traffic) (e : Event) : Traffic :=
  if t.Ends a e then
    { server := CarWebServer.step a t.server e
      record := ⟨[], []⟩
      ended := t.ended ++ [t.recordOf a e] }
  else
    { t with
      server := CarWebServer.step a t.server e
      record := t.recordOf a e }

/-- Every connection that is over was framed on its own. -/
def Framed : Prop := ∀ r ∈ t.ended, r.Framed

/-- These bytes are the first of some packets of at most 1008 body bytes. -/
def Fed (received : List UInt8) : Prop :=
  ∃ packets : List Packet, (∀ p ∈ packets, p.Valid ∧ p.header.dataLength.toNat ≤ 1008)
    ∧ received <+: packets.flatMap Packet.bytes

/-- What the environment promises: the event is possible, and the bytes on a
connection are those of packets.  And what the decoder needs: it is clean when
a connection is made. -/
def Allowed (t : Traffic) (e : Event) : Prop :=
  t.server.Enabled e
    ∧ (∀ b, e = .tcp (.receive b) → Fed (t.record.received ++ [b]))
    ∧ (e = .tcp (.connectDone true) → ∀ r ∈ t.ended, r.Clean)

/-- A connection that ends has no packet in its last buffer. -/
def EndsWhole (a : StringAlloc) (t : Traffic) (e : Event) : Prop :=
  t.Ends a e → t.record.EndsWhole

/-! ## §3. One connection. -/

/-- On a connection: the read buffer holds what was not handed over, the
decoder what it was handed and has not handed on. -/
structure Reading (capacity : Nat) (t : Traffic) : Prop where
  fed : Fed t.record.received
  readBuffer : t.server.tcpClient.readBuffer
    = unhanded CarTcpClient.readBufferSize t.record.received
  decoder : Decoder.RepIn capacity t.server.tcpClient.ipcDecoder
    (grammar.parse (handed CarTcpClient.readBufferSize t.record.received)).rest
  delivered : t.record.delivered
    = (grammar.parse (handed CarTcpClient.readBufferSize t.record.received)).frames

/-- Between connections the decoder keeps what the last one left in it. -/
structure Idle (capacity : Nat) (t : Traffic) : Prop where
  record : t.record = ⟨[], []⟩
  decoder : (∀ r ∈ t.ended, r.Clean) →
    Decoder.RepIn capacity t.server.tcpClient.ipcDecoder []

/-- What a run keeps. -/
structure Kept (capacity : Nat) (t : Traffic) : Prop where
  up : t.Connected → t.Reading capacity
  down : ¬t.Connected → t.Idle capacity

theorem Reading.kept {capacity : Nat} {t : Traffic} (h : t.Reading capacity)
    (hup : t.Connected) : t.Kept capacity :=
  ⟨fun _ => h, fun hdown => absurd hup hdown⟩

theorem Idle.kept {capacity : Nat} {t : Traffic} (h : t.Idle capacity) (hdown : ¬t.Connected) :
    t.Kept capacity :=
  ⟨fun hup => absurd hup hdown, fun _ => h⟩

variable {t} {a : StringAlloc} {capacity : Nat} {b : UInt8}

theorem Fed.parse {s : List UInt8} (h : Fed s) :
    (grammar.parse s).invalid = false ∧ grammar.Always SmallHead s := by
  obtain ⟨packets, hpackets, hbegins⟩ := h
  obtain ⟨hvalid, halways, -⟩ := Ipc.parse_prefix_small
    (fun p hp => ⟨(hpackets p hp).1, Ipc.smallHead_bytes (hpackets p hp).2⟩) hbegins
  exact ⟨hvalid, halways⟩

/-- The decoder hands on the packets a full buffer completes. -/
theorem decode_buffer {d : Decoder} {pre data : List UInt8}
    (hdecoder : Decoder.RepIn capacity d (grammar.parse pre).rest) (hfed : Fed (pre ++ data))
    (hlen : data.length = CarTcpClient.readBufferSize) :
    (grammar.parse pre).frames ++ (CarTcpClient.handlerReadBuffer a d data).1
        = (grammar.parse (pre ++ data)).frames
      ∧ Decoder.RepIn capacity (CarTcpClient.handlerReadBuffer a d data).2.2
          (grammar.parse (pre ++ data)).rest := by
  obtain ⟨hvalid, halways⟩ := hfed.parse
  have hpre : (grammar.parse pre).invalid = false :=
    StreamParser.Grammar.parse_prefix_not_invalid data hvalid
  have hmore : grammar.next (grammar.parse pre).rest = .more := by
    rw [grammar.next_rest, hpre]
    rfl
  have hcapacity : 1008 ≤ capacity := by
    rw [← hdecoder.2]
    exact Nat.le_trans (by decide) hdecoder.1.capacity
  have hrest := halways.rest data hpre
  -- what is left in the decoder is less than a packet, so the buffer fits
  have hlt := hdecoder.1.readableBytes_lt hmore
    (hrest.of_append SmallHead.of_append data).head
  have htaken : ¬Decoder.Refuses d data := by
    unfold Decoder.Refuses
    rw [hlen]
    simp only [CarTcpClient.readBufferSize, Buffer.MAX_BUFFER_SIZE]
    omega
  obtain ⟨hframes, hgood, -⟩ := (LoopName.carTcpClient.implements a capacity).taken hdecoder
    hmore (hrest.mono fun s hs => hs.headFits hcapacity) htaken
  have hsplit := StreamParser.Grammar.parse_append data hpre
  rw [hsplit]
  refine ⟨congrArg _ hframes, (hgood ?_).2⟩
  have hinvalid := congrArg StreamParser.Parsed.invalid hsplit
  rw [hvalid] at hinvalid
  exact hinvalid.symm

/-- What is in the read buffer when a byte arrives, counted with it. -/
theorem Reading.length_readBuffer (h : t.Reading capacity) (b : UInt8) :
    (t.server.tcpClient.readBuffer ++ [b]).length
      = t.record.received.length % CarTcpClient.readBufferSize + 1 := by
  rw [List.length_append, h.readBuffer, length_unhanded, List.length_singleton]

/-- A byte arrives, and the read goes on. -/
theorem Reading.receive_room (h : t.Reading capacity) (hfed : Fed (t.record.received ++ [b]))
    (hroom : (t.server.tcpClient.readBuffer ++ [b]).length < CarTcpClient.readBufferSize) :
    (⟨CarWebServer.step a t.server (.tcp (.receive b)), t.recordOf a (.tcp (.receive b)),
      t.ended⟩ : Traffic).Reading capacity := by
  obtain ⟨hhanded, hunhanded⟩ := handed_concat_of_lt (x := b) (h.length_readBuffer b ▸ hroom)
  have hreceive : t.server.tcpClient.receiveByte a b
      = ({ t.server.tcpClient with readBuffer := t.server.tcpClient.readBuffer ++ [b] }, []) :=
    if_pos hroom
  constructor
  · exact hfed
  · show (t.server.tcpClient.receiveByte a b).1.readBuffer = unhanded _ (_ ++ [b])
    rw [hreceive, hunhanded, h.readBuffer]
  · show Decoder.RepIn _ (t.server.tcpClient.receiveByte a b).1.ipcDecoder
      (grammar.parse (handed _ (_ ++ [b]))).rest
    rw [hreceive, hhanded]
    exact h.decoder
  · show t.record.delivered ++ (t.server.tcpClient.receiveByte a b).2
      = (grammar.parse (handed _ (_ ++ [b]))).frames
    rw [hreceive, hhanded, List.append_nil, h.delivered]

/-- A byte arrives that fills the buffer, which is handed over. -/
theorem Reading.receive_full (h : t.Reading capacity) (hfed : Fed (t.record.received ++ [b]))
    (hfull : ¬(t.server.tcpClient.readBuffer ++ [b]).length < CarTcpClient.readBufferSize) :
    (⟨CarWebServer.step a t.server (.tcp (.receive b)), t.recordOf a (.tcp (.receive b)),
      t.ended⟩ : Traffic).Reading capacity := by
  have hdata := h.length_readBuffer b
  have hlt : t.record.received.length % CarTcpClient.readBufferSize
      < CarTcpClient.readBufferSize := Nat.mod_lt _ (by decide)
  have heq : t.record.received.length % CarTcpClient.readBufferSize + 1
      = CarTcpClient.readBufferSize := by omega
  obtain ⟨hhanded, hunhanded⟩ := handed_concat_of_eq (x := b) heq
  have hall : handed CarTcpClient.readBufferSize (t.record.received ++ [b])
      = handed CarTcpClient.readBufferSize t.record.received
        ++ (t.server.tcpClient.readBuffer ++ [b]) := by
    rw [hhanded, h.readBuffer, ← List.append_assoc, handed_append_unhanded]
  have hfed' : Fed (handed CarTcpClient.readBufferSize t.record.received
      ++ (t.server.tcpClient.readBuffer ++ [b])) := by
    rw [← hall, hhanded]
    exact hfed
  obtain ⟨hframes, hdecoder⟩ := decode_buffer (a := a) h.decoder hfed' (hdata.trans heq)
  have hreceive : t.server.tcpClient.receiveByte a b
      = (({ t.server.tcpClient with
            ipcDecoder := (CarTcpClient.handlerReadBuffer a t.server.tcpClient.ipcDecoder
              (t.server.tcpClient.readBuffer ++ [b])).2.2 } : CarTcpClient).asyncRead,
          (CarTcpClient.handlerReadBuffer a t.server.tcpClient.ipcDecoder
              (t.server.tcpClient.readBuffer ++ [b])).1) :=
    if_neg hfull
  constructor
  · exact hfed
  · show (t.server.tcpClient.receiveByte a b).1.readBuffer = unhanded _ (_ ++ [b])
    rw [hreceive, hunhanded]
    rfl
  · show Decoder.RepIn _ (t.server.tcpClient.receiveByte a b).1.ipcDecoder
      (grammar.parse (handed _ (_ ++ [b]))).rest
    rw [hreceive, hall]
    exact hdecoder
  · show t.record.delivered ++ (t.server.tcpClient.receiveByte a b).2
      = (grammar.parse (handed _ (_ ++ [b]))).frames
    rw [hreceive, hall, h.delivered]
    exact hframes

/-- **A byte arrives.** -/
theorem Reading.receive (h : t.Reading capacity) (hfed : Fed (t.record.received ++ [b])) :
    (⟨CarWebServer.step a t.server (.tcp (.receive b)), t.recordOf a (.tcp (.receive b)),
      t.ended⟩ : Traffic).Reading capacity := by
  by_cases hroom : (t.server.tcpClient.readBuffer ++ [b]).length < CarTcpClient.readBufferSize
  · exact h.receive_room hfed hroom
  · exact h.receive_full hfed hroom

/-! ## §4. Whole runs. -/

/-- Any event but a byte adds nothing to the record and leaves the decoder. -/
theorem step_other {e : Event} (he : ∀ b, e ≠ .tcp (.receive b)) :
    t.recordOf a e = t.record
      ∧ (CarWebServer.step a t.server e).tcpClient.ipcDecoder = t.server.tcpClient.ipcDecoder
      ∧ ((CarWebServer.step a t.server e).tcpClient.socket = .connected →
          e = .tcp (.connectDone true) ∧ (CarWebServer.step a t.server e).tcpClient.readBuffer = []
          ∨ t.Connected ∧ (CarWebServer.step a t.server e).tcpClient.readBuffer
              = t.server.tcpClient.readBuffer) := by
  cases e with
  | websocket e outcomes =>
      obtain ⟨errors, last, held, sent, garbled, heq⟩ := CarTcpClient.notify_eq
        (t.server.websocketServer.calls e) t.server.tcpClient outcomes
      simp only [CarWebServer.step, heq]
      exact ⟨rfl, trivial, fun hup => Or.inr ⟨hup, trivial⟩⟩
  | tcp e =>
      have hne : ∀ b, e ≠ .receive b := fun b heq => he b (congrArg Event.tcp heq)
      obtain ⟨hdecoder, hnothing, hbuffer⟩ := CarTcpClient.step_reading (a := a) hne
      refine ⟨?_, hdecoder, fun hup => ?_⟩
      · have hbytes : e.bytes = [] := by
          cases e with
          | receive b => exact absurd rfl (hne b)
          | _ => rfl
        simp only [recordOf, hnothing, hbytes, List.append_nil]
      · exact (hbuffer hup).imp (fun h => ⟨congrArg Event.tcp h.1, h.2⟩) id

theorem step_of_ends {e : Event} (h : t.Ends a e) : step a t e
    = ⟨CarWebServer.step a t.server e, ⟨[], []⟩, t.ended ++ [t.recordOf a e]⟩ := if_pos h

theorem step_of_not_ends {e : Event} (h : ¬t.Ends a e) : step a t e
    = ⟨CarWebServer.step a t.server e, t.recordOf a e, t.ended⟩ := if_neg h

/-- A byte does not end the connection. -/
theorem not_ends_receive : ¬t.Ends a (.tcp (.receive b)) := by
  intro hends
  obtain ⟨reading, readBuffer, ipcDecoder, heq⟩ := t.server.tcpClient.receiveByte_eq a b
  refine hends.2 ?_
  show (t.server.tcpClient.receiveByte a b).1.socket = .connected
  rw [heq]
  exact hends.1

/-- A connection that is made starts with a clean decoder. -/
theorem Idle.connect (h : t.Idle capacity) {e : Event} (hclean : ∀ r ∈ t.ended, r.Clean)
    (hdecoder : (CarWebServer.step a t.server e).tcpClient.ipcDecoder
      = t.server.tcpClient.ipcDecoder)
    (hempty : (CarWebServer.step a t.server e).tcpClient.readBuffer = []) :
    (⟨CarWebServer.step a t.server e, t.record, t.ended⟩ : Traffic).Reading capacity := by
  have hrest : (grammar.parse (handed CarTcpClient.readBufferSize ([] : List UInt8)))
      = ⟨[], [], false⟩ := StreamParser.Grammar.parse_of_more rfl
  rw [h.record]
  refine ⟨⟨[], by simp, List.nil_prefix⟩, hempty.trans List.drop_nil.symm, ?_, ?_⟩
  · rw [hrest]
    show Decoder.RepIn _ (CarWebServer.step a t.server e).tcpClient.ipcDecoder []
    rw [hdecoder]
    exact h.decoder hclean
  · rw [hrest]

/-- A connection that is over leaves in the decoder what it left unhandled. -/
theorem Reading.close (h : t.Reading capacity) {e : Event}
    (hdecoder : (CarWebServer.step a t.server e).tcpClient.ipcDecoder
      = t.server.tcpClient.ipcDecoder) :
    (⟨CarWebServer.step a t.server e, ⟨[], []⟩, t.ended ++ [t.record]⟩ : Traffic).Idle
      capacity := by
  refine ⟨rfl, fun hclean => ?_⟩
  have hrest : (grammar.parse (handed CarTcpClient.readBufferSize t.record.received)).rest = [] :=
    hclean t.record (by simp)
  show Decoder.RepIn _ (CarWebServer.step a t.server e).tcpClient.ipcDecoder []
  rw [hdecoder, ← hrest]
  exact h.decoder

theorem kept_step (h : t.Kept capacity) {e : Event} (hallowed : t.Allowed e) :
    (step a t e).Kept capacity := by
  by_cases hbyte : ∃ b, e = .tcp (.receive b)
  · obtain ⟨b, rfl⟩ := hbyte
    have hup : t.Connected := hallowed.1
    have hstays : (CarWebServer.step a t.server (.tcp (.receive b))).tcpClient.socket
        = .connected := not_not.mp fun hdown => not_ends_receive ⟨hup, hdown⟩
    rw [step_of_not_ends not_ends_receive]
    exact ((h.up hup).receive (hallowed.2.1 b rfl)).kept hstays
  · obtain ⟨hrecord, hdecoder, hbuffer⟩ := step_other (t := t) (a := a)
      fun b heq => hbyte ⟨b, heq⟩
    by_cases hup : t.Connected
    · have hreading := h.up hup
      by_cases hstays : (CarWebServer.step a t.server e).tcpClient.socket = .connected
      · -- nothing happens to what is read
        have hnew : e ≠ .tcp (.connectDone true) := by
          intro heq
          have henabled := hallowed.1
          rw [heq] at henabled
          have hconnecting : t.server.tcpClient.socket = .connecting := henabled
          exact absurd (hconnecting.symm.trans hup) (by decide)
        have hsame := ((hbuffer hstays).resolve_left fun hmade => hnew hmade.1).2
        rw [step_of_not_ends fun hends => hends.2 hstays, hrecord]
        exact Reading.kept ⟨hreading.fed, hsame.trans hreading.readBuffer,
          hdecoder ▸ hreading.decoder, hreading.delivered⟩ hstays
      · rw [step_of_ends ⟨hup, hstays⟩, hrecord]
        exact (hreading.close hdecoder).kept hstays
    · have hidle := h.down hup
      rw [step_of_not_ends fun hends => hup hends.1, hrecord]
      by_cases hmakes : (CarWebServer.step a t.server e).tcpClient.socket = .connected
      · obtain ⟨heq, hempty⟩ := (hbuffer hmakes).resolve_right fun hsame => hup hsame.1
        exact (hidle.connect (hallowed.2.2 heq) hdecoder hempty).kept hmakes
      · exact Idle.kept ⟨hidle.record, fun hclean => hdecoder ▸ hidle.decoder hclean⟩ hmakes

/-- **Ending a connection** leaves it framed exactly when its last buffer
completes no packet. -/
theorem framed_step_iff (h : t.Kept capacity) (hframed : t.Framed) (e : Event) :
    (step a t e).Framed ↔ t.EndsWhole a e := by
  by_cases hends : t.Ends a e
  · have hreading := h.up hends.1
    have hrecord : t.recordOf a e = t.record :=
      (step_other fun b heq => by rw [heq] at hends; exact not_ends_receive hends).1
    rw [step_of_ends hends, hrecord]
    have hlast : t.record.Framed ↔ t.record.EndsWhole := by
      unfold Record.Framed Record.EndsWhole
      rw [hreading.delivered, eq_comm]
    constructor
    · intro hall _
      exact hlast.mp (hall t.record (by simp))
    · intro hwhole r hr
      rcases List.mem_append.mp hr with hr | hr
      · exact hframed r hr
      · rw [List.mem_singleton.mp hr]
        exact hlast.mpr (hwhole hends)
  · rw [step_of_not_ends hends]
    exact iff_of_true hframed fun h => absurd h hends

/-- **When each connection is framed on its own.**  In a run in which the bytes
of every connection are those of packets of at most 1008 body bytes, cut off
anywhere, and in which the decoder is clean whenever a connection is made: the
packets handed on during a connection are those received completely on it, for
every connection that is over, exactly when no connection ends with a packet in
its last, partly filled buffer. -/
theorem traffic_framed_iff (a : StringAlloc) (garbage : UInt8) (last : UInt32) (events : List Event)
    (hallowed : Along (step a) Allowed (new a garbage last) events) :
    (∀ pre, pre <+: events → (run (step a) (new a garbage last) pre).Framed)
      ↔ Along (step a) (EndsWhole a) (new a garbage last) events := by
  have hnew : (new a garbage last).Kept (a.reserve a.initial 1024) :=
    Idle.kept ⟨rfl, fun _ => ⟨Decoder.rep_new, rfl⟩⟩ fun hup => by cases hup
  have hnone : (new a garbage last).Framed := fun r hr => absurd hr List.not_mem_nil
  exact always_iff_along Framed
    (J := fun t => t.Kept (a.reserve a.initial 1024) ∧ t.Framed)
    (fun t e ht he hC => ⟨kept_step ht.1 he, (framed_step_iff ht.1 ht.2 e).mpr hC⟩)
    (fun t e ht _ => framed_step_iff ht.1 ht.2 e) ⟨hnew, hnone⟩ hnone hallowed

/-- A packet that fills the buffer, and less than a header behind it: the packet
is handed on, and there is none in the last buffer. -/
theorem Record.begun {r : Record} {packet : Packet} {rest : List UInt8} (hvalid : packet.Valid)
    (hreceived : r.received = packet.bytes ++ rest)
    (hfull : packet.bytes.length = CarTcpClient.readBufferSize)
    (hshort : rest.length < Ipc.sizeofPacket) : r.Clean ∧ r.EndsWhole := by
  have hparse (s : List UInt8) (hs : s.length < Ipc.sizeofPacket) :
      grammar.parse (packet.bytes ++ s) = ⟨[(packet, 0)], s, false⟩ := by
    have hmore : grammar.parse s = ⟨[], s, false⟩ :=
      StreamParser.Grammar.parse_of_more (if_pos hs)
    have hencoded := Ipc.grammar_encodes.parse_encoded [(packet, (0 : UInt8))] s
      (List.forall_mem_singleton.mpr ⟨hvalid, rfl⟩)
    rwa [List.flatMap_singleton, hmore] at hencoded
  have hhanded : handed CarTcpClient.readBufferSize r.received = packet.bytes ++ [] := by
    have hdiv : r.received.length / CarTcpClient.readBufferSize = 1 := by
      rw [hreceived, List.length_append, hfull]
      simp only [CarTcpClient.readBufferSize, Ipc.sizeofPacket] at hshort ⊢
      omega
    rw [handed, hdiv, Nat.one_mul, hreceived, ← hfull, List.take_left, List.append_nil]
  refine ⟨?_, ?_⟩
  · rw [Record.Clean, hhanded, hparse [] (by decide)]
  · rw [Record.EndsWhole, hhanded, hreceived, hparse rest hshort, hparse [] (by decide)]

/-- The bytes of packets arrive on a connection. -/
theorem receives (a : StringAlloc) (bytes : List UInt8) : ∀ {t : Traffic}, t.Connected →
    (∀ s, s <+: bytes → Fed (t.record.received ++ s)) →
    let t' := run (step a) t (bytes.map fun b => .tcp (.receive b))
    Along (step a) (fun t e => t.Allowed e ∧ t.EndsWhole a e) t
        (bytes.map fun b => .tcp (.receive b))
      ∧ t'.Connected ∧ t'.record.received = t.record.received ++ bytes ∧ t'.ended = t.ended := by
  induction bytes with
  | nil => exact fun hup _ => ⟨trivial, hup, (List.append_nil _).symm, rfl⟩
  | cons b bytes ih =>
      intro t hup hfed
      have hstep := step_of_not_ends (not_ends_receive (t := t) (a := a) (b := b))
      have hstays : (step a t (.tcp (.receive b))).Connected := by
        rw [hstep]
        exact not_not.mp fun hdown => not_ends_receive ⟨hup, hdown⟩
      have hreceived : (step a t (.tcp (.receive b))).record.received
          = t.record.received ++ [b] := by
        rw [hstep]
        rfl
      have hended : (step a t (.tcp (.receive b))).ended = t.ended := by rw [hstep]
      obtain ⟨halong, hup', hall, hended'⟩ := ih hstays fun s hs => by
        rw [hreceived, List.append_assoc]
        exact hfed (b :: s) (List.cons_prefix_cons.mpr ⟨rfl, hs⟩)
      refine ⟨⟨⟨⟨hup, fun x heq => ?_, nofun⟩, fun hends => absurd hends not_ends_receive⟩, halong⟩,
        hup', ?_, hended'.trans hended⟩
      · cases heq
        exact hfed [b] (List.cons_prefix_cons.mpr ⟨rfl, List.nil_prefix⟩)
      · rw [List.map_cons, run_cons, hall, hreceived, List.append_assoc]
        rfl

/-- The connection is closed from the other side, and made again. -/
def outage : List Event := [.tcp .peerClosed, .tcp .timer, .tcp (.connectDone true)]

/-- After a connection that was whole. -/
theorem outage_of_whole (a : StringAlloc) (hup : t.Connected)
    (hclean : ∀ r ∈ t.ended ++ [t.record], r.Clean) (hwhole : t.record.EndsWhole) :
    Along (step a) (fun t e => t.Allowed e ∧ t.EndsWhole a e) t outage
      ∧ (run (step a) t outage).ended = t.ended ++ [t.record] := by
  obtain ⟨hclosed, hwaits⟩ :
      (CarWebServer.step a t.server (.tcp .peerClosed)).tcpClient.socket = .closed
        ∧ (CarWebServer.step a t.server (.tcp .peerClosed)).tcpClient.isWaitting = true := by
    obtain ⟨errors, held, sent, garbled, reading, readBuffer, heq⟩ :=
      CarTcpClient.close_eq { t.server.tcpClient with reading := false }
    show (CarTcpClient.close _).startTimer.socket = _
      ∧ (CarTcpClient.close _).startTimer.isWaitting = _
    rw [heq]
    unfold CarTcpClient.startTimer
    split
    next hwaiting => exact ⟨rfl, hwaiting⟩
    next => exact ⟨rfl, rfl⟩
  have hclose : t.Ends a (.tcp .peerClosed) :=
    ⟨hup, fun hstill => AsioSocket.noConfusion (hclosed.symm.trans hstill)⟩
  have hfirst : step a t (.tcp .peerClosed) = ⟨CarWebServer.step a t.server (.tcp .peerClosed),
      ⟨[], []⟩, t.ended ++ [t.record]⟩ := by
    rw [step_of_ends hclose, (step_other (t := t) (a := a) fun b heq => by cases heq).1]
  -- nothing ends while there is no connection
  have hdown1 : ∀ e, ¬(step a t (.tcp .peerClosed)).Ends a e := fun e hends => by
    rw [hfirst] at hends
    exact AsioSocket.noConfusion (hclosed.symm.trans hends.1)
  have hsecond := step_of_not_ends (hdown1 (.tcp .timer))
  have hdown2 : ∀ e, ¬(step a (step a t (.tcp .peerClosed)) (.tcp .timer)).Ends a e :=
    fun e hends => by
      rw [hsecond] at hends
      exact AsioSocket.noConfusion (show AsioSocket.connecting = .connected from hends.1)
  have hended : (step a (step a t (.tcp .peerClosed)) (.tcp .timer)).ended
      = t.ended ++ [t.record] := by rw [hsecond, hfirst]
  refine ⟨⟨⟨⟨hup, nofun, nofun⟩, fun _ => hwhole⟩, ⟨⟨?_, nofun, nofun⟩, ?_⟩,
    ⟨⟨?_, nofun, fun _ r hr => hclean r (hended ▸ hr)⟩, ?_⟩, trivial⟩, ?_⟩
  · rw [hfirst]
    exact hwaits
  · exact fun hends => absurd hends (hdown1 _)
  · rw [hsecond]
    rfl
  · exact fun hends => absurd hends (hdown2 _)
  · show (step a (step a (step a t _) _) _).ended = _
    rw [step_of_not_ends (hdown2 _)]
    exact hended

/-- That packet, a heartbeat that breaks off after its head length, and a
reconnect: the packet was handed on. -/
theorem framed_broken_heartbeat :
    let bytes : List UInt8 := CarTcpClient.blockPacket.bytes ++ [16, 0, 0, 0]
    let events : List Event :=
      .tcp (.connectDone true) :: ((bytes.map fun b => .tcp (.receive b)) ++ outage)
    (∀ pre, pre <+: events → (run (step .libstdcxx) (new .libstdcxx 0 0) pre).Framed)
      ∧ (run (step .libstdcxx) (new .libstdcxx 0 0) events).ended.map Record.received = [bytes]
      ∧ (grammar.parse bytes).frames = [(CarTcpClient.blockPacket, 0)] := by
  intro bytes events
  let heartbeat : Packet := ⟨⟨16, 0, 0, 0x00030001⟩, [], rfl⟩
  have hfed : ∀ s, s <+: bytes → Fed s := by
    intro s hs
    refine ⟨[CarTcpClient.blockPacket, heartbeat], by decide +kernel, ?_⟩
    have hbytes : [CarTcpClient.blockPacket, heartbeat].flatMap Packet.bytes
        = bytes ++ heartbeat.bytes.drop 4 := by decide +kernel
    rw [hbytes]
    exact hs.trans (List.prefix_append _ _)
  have hup : (step .libstdcxx (new .libstdcxx 0 0) (.tcp (.connectDone true))).Connected := by
    decide
  have hempty : (step .libstdcxx (new .libstdcxx 0 0) (.tcp (.connectDone true))).record.received
      = [] := by decide
  have hnone : (step .libstdcxx (new .libstdcxx 0 0) (.tcp (.connectDone true))).ended = [] := by
    decide
  obtain ⟨halong, hstays, hreceived, hended⟩ := receives .libstdcxx bytes hup
    fun s hs => by rw [hempty]; exact hfed s hs
  rw [hempty, List.nil_append] at hreceived
  rw [hnone] at hended
  obtain ⟨hclean, hwhole⟩ :=
    Record.begun (by decide +kernel) hreceived (by decide +kernel) (by decide)
  obtain ⟨hafter, hover⟩ := outage_of_whole .libstdcxx hstays
    (by rw [hended]; exact List.forall_mem_singleton.mpr hclean) hwhole
  have hall : Along (step .libstdcxx) (fun t e => t.Allowed e ∧ t.EndsWhole .libstdcxx e)
      (new .libstdcxx 0 0) events :=
    ⟨⟨⟨by decide, nofun, fun _ r hr => absurd hr List.not_mem_nil⟩,
      fun hends => absurd hends.1 (by decide)⟩, along_append.mpr ⟨halong, hafter⟩⟩
  refine ⟨(traffic_framed_iff .libstdcxx 0 0 events (hall.imp fun _ _ h => h.1)).mpr
    (hall.imp fun _ _ h => h.2), ?_, ?_⟩
  · rw [run_cons, run_append, hover, hended]
    exact congrArg (fun x => [x]) hreceived
  · have hencoded := Ipc.grammar_encodes.parse_encoded
      [(CarTcpClient.blockPacket, (0 : UInt8))] [16, 0, 0, 0]
      (List.forall_mem_singleton.mpr ⟨by decide +kernel, rfl⟩)
    have hmore : grammar.parse [16, 0, 0, 0] = ⟨[], [16, 0, 0, 0], false⟩ :=
      StreamParser.Grammar.parse_of_more rfl
    rw [List.flatMap_singleton, hmore] at hencoded
    exact congrArg StreamParser.Parsed.frames hencoded

/-- A heartbeat is received whole, and then the connection breaks: it was never
handed on. -/
theorem not_framed_heartbeat :
    let packet : Packet := ⟨⟨16, 0, 0, 0x00030001⟩, [], rfl⟩
    let events : List Event :=
      [.tcp (.connectDone true)] ++ packet.bytes.map (fun b => .tcp (.receive b))
        ++ [.tcp .peerClosed]
    let t := run (step .libstdcxx) (new .libstdcxx 0 0) events
    t.ended = [⟨packet.bytes, []⟩]
      ∧ (grammar.parse packet.bytes).frames = [(packet, 0)] ∧ ¬t.Framed := by
  intro packet events t
  have hover : t.ended = [⟨packet.bytes, []⟩] := by decide +kernel
  have hframes : (grammar.parse packet.bytes).frames = [(packet, 0)] := by
    have hparse := Ipc.grammar_encodes.parse_encoded [(packet, (0 : UInt8))] [] (by decide)
    rw [List.append_nil, List.flatMap_singleton,
      StreamParser.Grammar.parse_of_more (show grammar.next [] = .more from rfl)] at hparse
    rw [hparse]
    rfl
  refine ⟨hover, hframes, fun hframed => ?_⟩
  have hrecord := hframed ⟨packet.bytes, []⟩ (by rw [hover]; exact List.mem_singleton_self _)
  rw [Record.Framed, hframes] at hrecord
  cases hrecord

end Traffic

end CarWebServer

end MultiProcessServer
