/-
  MultiProcessServer.Network.Stream
  ─────────────────────────────────
  What comes over the connection of a client to `jt1078_server`.

  The packets handed to `OnClientMessage` are, of each connection, the first of
  the messages its session was sent; a session is sent nothing that was
  published before it was there.  So all that is handed on was published
  (`Streaming.data_received`).
-/
import MultiProcessServer.EndToEnd
import MultiProcessServer.Network.Link

namespace MultiProcessServer.Uplink

open Forward StreamParser

variable {half : Bool} {a : StringAlloc} {l : Uplink} {s d : UInt64} {sent : List Request}

/-! ## §1. The stream of the connection. -/

/-- The messages the session of the connection was sent. -/
def owed (half : Bool) (l : Uplink) : List Message :=
  match l.session with
  | none => []
  | some s => (l.forward half).sentTo s

/-- The bytes the client has read. -/
def taken (half : Bool) (l : Uplink) : List UInt8 := (l.wire half).take l.read

/-- The packets the client has made of them. -/
def handedOn (half : Bool) (l : Uplink) : List Ipc.Packet :=
  (Ipc.grammar.parse (l.taken half)).frames.map Prod.fst

/-- The packets the messages are sent as. -/
def packetsOf (messages : List Message) : List Ipc.Packet :=
  Subscriber.packets Ipc.INVALID_PKT_SEQ_ID messages

/-- A body as long as a car's packet has it at most. -/
def Fits (m : Message) : Prop := m.pkt.header.wdBodyLen.toNat ≤ 950

/-- What holds of the stream of the connection. -/
structure Streaming (half : Bool) (l : Uplink) : Prop where
  fits : ∀ m ∈ l.service.publishedOn half, Fits m
  unread : l.session = none → l.read = 0
  read_le : l.read ≤ (l.wire half).length
  decoded : l.decoder.Rep (Ipc.grammar.parse (l.taken half)).rest
  /-- What came over earlier connections was published before what comes over
  this one. -/
  history : ∃ past before after, l.received = past ++ l.handedOn half
    ∧ l.service.publishedOn half = before ++ after
    ∧ (past.map Ipc.Packet.data).Sublist (before.map Message.payload)
    ∧ (l.owed half).Sublist after

theorem parse_nil : Ipc.grammar.parse [] = ⟨[], [], false⟩ := Grammar.parse_of_more rfl

/-- All their bytes are all packets. -/
theorem parse_packets {packets : List Ipc.Packet} (hvalid : ∀ p ∈ packets, p.Valid) :
    Ipc.grammar.parse (packets.flatMap Ipc.Packet.bytes) = ⟨packets.map (·, 0), [], false⟩ := by
  have hparse := Ipc.grammar_encodes.parse_encoded (packets.map (·, (0 : UInt8))) []
    (by simpa using hvalid)
  rw [List.append_nil, List.flatMap_map, parse_nil] at hparse
  rw [hparse, List.append_nil]

/-- The bytes of the connection are a beginning of the packets. -/
theorem wire_begins (h : l.Linked half sent) :
    l.wire half <+: (packetsOf (l.owed half)).flatMap Ipc.Packet.bytes := by
  unfold wire owed
  cases l.session with
  | none => exact List.nil_prefix
  | some s =>
      rw [List.flatMap_def]
      exact (h.serving.sent s).carries.begins

/-- **Of these, the client gets the first ones.** -/
theorem handedOn_begins (h : l.Linked half sent) (hs : l.Streaming half) {bytes : List UInt8}
    (hbytes : bytes <+: l.wire half) :
    (Ipc.grammar.parse bytes).invalid = false ∧ Ipc.grammar.Always Ipc.SmallHead bytes
      ∧ (Ipc.grammar.parse bytes).frames <+: (packetsOf (l.owed half)).map (·, 0) := by
  obtain ⟨past, before, after, -, hpublished, -, howed⟩ := hs.history
  refine Ipc.parse_prefix_small (packets_small ?_ _) (hbytes.trans (wire_begins h))
  intro m hm
  refine hs.fits m ?_
  rw [hpublished]
  exact List.mem_append_right before (howed.subset hm)

theorem data_begins (h : l.Linked half sent) (hs : l.Streaming half) {bytes : List UInt8}
    (hbytes : bytes <+: l.wire half) :
    ((Ipc.grammar.parse bytes).frames.map Prod.fst).map Ipc.Packet.data
      <+: (l.owed half).map Message.payload := by
  have hframes := (handedOn_begins h hs hbytes).2.2
  have hpackets := (hframes.map Prod.fst).map Ipc.Packet.data
  rwa [List.map_map, List.map_map, List.map_map, show (Ipc.Packet.data ∘ Prod.fst) ∘
    (fun p : Ipc.Packet => (p, (0 : UInt8))) = Ipc.Packet.data from rfl, packetsOf,
    map_data_packets, ← List.map_map] at hpackets

theorem data_handedOn (h : l.Linked half sent) (hs : l.Streaming half) :
    (l.handedOn half).map Ipc.Packet.data <+: (l.owed half).map Message.payload :=
  data_begins h hs (List.take_prefix l.read (l.wire half))

/-- **`OnMessage`** on a chunk of such a stream. -/
theorem onMessage_small (a : StringAlloc) {d : Ipc.Decoder} {p c : List UInt8} (hrep : d.Rep p)
    (hmore : Ipc.grammar.next p = .more) (hsmall : Ipc.grammar.Always Ipc.SmallHead (p ++ c))
    (hvalid : (Ipc.grammar.parse (p ++ c)).invalid = false)
    (hc : c.length ≤ Buffer.MAX_SIZE_ONCE_READ) :
    ∃ d', Jt1078Client.onMessage a d c = ((Ipc.grammar.parse (p ++ c)).frames, none, d')
      ∧ d'.Rep (Ipc.grammar.parse (p ++ c)).rest := by
  have hparses := Ipc.Decoder.receiver_parses a
  obtain ⟨d₁, hpush, hrep₁⟩ := hparses.push hrep (hsmall.of_append Ipc.SmallHead.of_append c).head
    hmore hc
  obtain ⟨d', hdrain, hrest⟩ := hparses.drain_parse (p ++ c) d₁ hrep₁ hsmall
  have hpush' : d.pushBuffer a c = (.kNoError, d₁) := hpush
  refine ⟨d', ?_, hrest hvalid⟩
  unfold Jt1078Client.onMessage receiveLoop
  simp only [hpush', hdrain, hvalid]
  rfl

/-! ## §2. The events. -/

/-- Before a connection brings anything, all that came is history. -/
theorem streaming_of_unread (howed : l.owed half = []) (hread : l.read = 0)
    (hdecoder : l.decoder.Rep []) (hfits : ∀ m ∈ l.service.publishedOn half, Fits m)
    (hreceived : (l.received.map Ipc.Packet.data).Sublist
      ((l.service.publishedOn half).map Message.payload)) : l.Streaming half := by
  have htaken : l.taken half = [] := by
    rw [taken, hread]
    rfl
  refine ⟨hfits, fun _ => hread, hread ▸ Nat.zero_le _, ?_, ?_⟩
  · rw [htaken, parse_nil]
    exact hdecoder
  · refine ⟨l.received, l.service.publishedOn half, [], ?_, (List.append_nil _).symm,
      hreceived, howed ▸ List.Sublist.refl _⟩
    rw [handedOn, htaken, parse_nil]
    exact (List.append_nil _).symm

theorem streaming_init (half : Bool) (a : StringAlloc) (garbage : UInt8) :
    (init a garbage).Streaming half :=
  streaming_of_unread rfl rfl Ipc.Decoder.rep_new (fun _ hm => absurd hm List.not_mem_nil)
    (List.Sublist.refl _)

/-- All that came was published. -/
theorem Streaming.data_received (hs : l.Streaming half) (h : l.Linked half sent) :
    (l.received.map Ipc.Packet.data).Sublist
      ((l.service.publishedOn half).map Message.payload) := by
  obtain ⟨past, before, after, hreceived, hpublished, hpast, howed⟩ := hs.history
  rw [hreceived, hpublished, List.map_append, List.map_append]
  exact hpast.append ((data_handedOn h hs).sublist.trans (howed.map Message.payload))

/-- The bytes of the session are not taken back. -/
theorem wire_serviceStep (h : l.Linked half sent) {e : Jt1078Service.Event}
    (hopens : ∀ s, l.session = some s → e.contact half ≠ .opens s) :
    l.wire half <+: (l.serviceStep half e).wire half := by
  have hsame : (l.serviceStep half e).session = l.session := rfl
  unfold wire
  rw [hsame]
  cases hsession : l.session with
  | none => exact List.prefix_refl _
  | some s =>
      rcases forward_serviceStep l half e with ⟨hforward, -⟩ | ⟨e', hforward, hcontact, -⟩
      · exact ⟨[], by rw [hforward, List.append_nil]⟩
      · rw [hforward]
        exact h.serving.written_step (hcontact ▸ hopens s hsession)

theorem taken_serviceStep (hs : l.Streaming half) (h : l.Linked half sent) {e : Jt1078Service.Event}
    (hopens : ∀ s, l.session = some s → e.contact half ≠ .opens s) :
    (l.serviceStep half e).taken half = l.taken half := by
  obtain ⟨later, hlater⟩ := wire_serviceStep h hopens
  show ((l.serviceStep half e).wire half).take l.read = (l.wire half).take l.read
  rw [← hlater, List.take_append_of_le_length hs.read_le]

/-- **The session is sent some of what is published**, and all of a device it is
subscribed to. -/
theorem owed_serviceStep (h : l.Linked half sent) (e : Jt1078Service.Event) :
    ∃ now, (l.serviceStep half e).owed half = l.owed half ++ now
      ∧ now.Sublist (ForwardServer.published (l.service.forwardEvents half e))
      ∧ ∀ s d, l.session = some s → (l.forward half).Subscribed s d →
          ((l.forward half).sessions s).isCanWrite = true →
          now.filter (ForwardServer.isFor d)
            = (ForwardServer.published (l.service.forwardEvents half e)).filter
              (ForwardServer.isFor d) := by
  have hsame : (l.serviceStep half e).session = l.session := rfl
  unfold owed
  rw [hsame]
  cases hsession : l.session with
  | none =>
      exact ⟨[], rfl, List.nil_sublist _, fun s _ hs => absurd hs.symm (Option.some_ne_none s)⟩
  | some s =>
      rcases l.service.forwardEvents_cases e half with ⟨hnone, -⟩ | ⟨e', hevents, -⟩
      · have hforward : (l.serviceStep half e).forward half = l.forward half := by
          refine (l.service.forwardServer_step_eq e half).trans ?_
          rw [hnone]
          rfl
        rw [hforward, hnone]
        exact ⟨[], (List.append_nil _).symm, List.nil_sublist _, fun _ _ _ _ _ => rfl⟩
      · have hforward : (l.serviceStep half e).forward half = (l.forward half).step e' := by
          refine (l.service.forwardServer_step_eq e half).trans ?_
          rw [hevents]
          rfl
        obtain ⟨now, hsent, hnow, hall⟩ := h.serving.sentTo_step e' s
        rw [hforward, hevents]
        refine ⟨now, hsent, hnow, fun x d hx hsub hcan => ?_⟩
        obtain rfl := Option.some.inj hx
        exact hall d hsub hcan

/-- `jt1078_server` does something. -/
theorem Streaming.serviceStep (hs : l.Streaming half) (h : l.Linked half sent)
    {e : Jt1078Service.Event} (hopens : ∀ s, l.session = some s → e.contact half ≠ .opens s)
    (hfits : e.fits = true) : (l.serviceStep half e).Streaming half := by
  have hpublished := l.service.publishedOn_step e half
  have htaken := taken_serviceStep hs h hopens
  refine ⟨?_, hs.unread, hs.read_le.trans (wire_serviceStep h hopens).length_le,
    htaken ▸ hs.decoded, ?_⟩
  · intro m hm
    rw [show (l.serviceStep half e).service = l.service.step e from rfl, hpublished] at hm
    rcases List.mem_append.mp hm with hm | hm
    · exact hs.fits m hm
    · exact Jt1078Service.Event.length_published hfits hm
  · obtain ⟨past, before, after, hreceived, hbefore, hpast, hafter⟩ := hs.history
    obtain ⟨now, hnow, hsublist, -⟩ := owed_serviceStep h e
    refine ⟨past, before, after ++ ForwardServer.published (l.service.forwardEvents half e),
      ?_, ?_, hpast, hnow ▸ hafter.append hsublist⟩
    · rw [handedOn, htaken]
      exact hreceived
    · rw [← List.append_assoc, ← hbefore]
      exact hpublished

/-- The connection is given up. -/
theorem Streaming.reset (hs : l.Streaming half) (h : l.Linked half sent) :
    (l.reset a).Streaming half :=
  streaming_of_unread rfl rfl Ipc.Decoder.rep_new hs.fits (hs.data_received h)

/-- `jt1078_server` accepts the connection. -/
theorem Streaming.accept (hs : l.Streaming half) (h : l.Linked half sent) {sessionId : UInt64}
    (socket : List SockResult) (hopens : l.roster.admits (.opens sessionId))
    (hnone : l.session = none) : (l.acceptStep half sessionId socket).Streaming half := by
  let e : Jt1078Service.Event := .subscriberConnection half sessionId socket true
  have hafter : (l.serviceStep half e).Streaming half := hs.serviceStep h
    (fun s hsession => absurd (hnone.symm.trans hsession) (Option.some_ne_none s).symm) rfl
  have hlinked : (l.serviceStep half e).Linked half sent := by
    refine h.serviceStep ?_ rfl
    rw [show e.contact half = .opens sessionId from if_pos rfl]
    exact hopens
  have hread : l.read = 0 := hs.unread hnone
  have hdecoded := hs.decoded
  rw [taken, hread, List.take_zero, parse_nil] at hdecoded
  refine streaming_of_unread ?_ hread hdecoded hafter.fits (hafter.data_received hlinked)
  -- a session nobody has used was sent nothing
  show ((l.serviceStep half e).forward half).sentTo sessionId = []
  rcases forward_serviceStep l half e with ⟨hforward, -⟩ | ⟨e', hforward, -, hevents⟩
  · rw [hforward]
    exact h.serving.unused sessionId hopens
  · obtain ⟨now, hsent, hnow, -⟩ := h.serving.sentTo_step e' sessionId
    have hevent : l.service.forwardEvents half e = [.newConnection sessionId socket true] :=
      if_pos rfl
    obtain rfl : ForwardServer.Event.newConnection sessionId socket true = e' :=
      (List.cons.inj (hevent.symm.trans hevents)).1
    rw [hforward, hsent, h.serving.unused sessionId hopens, List.nil_append]
    exact List.sublist_nil.mp hnow

/-- The next request arrives. -/
theorem Streaming.request (hs : l.Streaming half) (h : l.Linked half sent)
    (packet : Ipc.Packet) : (l.requestStep half packet).Streaming half := by
  cases hsession : l.session with
  | none =>
      unfold requestStep
      rw [hsession]
      exact hs
  | some s =>
      have hafter := hs.serviceStep (e := .subscriberPacket half s packet) h
        (fun x _ => not_opens_request x packet) rfl
      rw [requestStep_of_session hsession]
      exact ⟨hafter.fits, hafter.unread, hafter.read_le, hafter.decoded, hafter.history⟩

/-- Packets of cars have bodies as long as that at most. -/
def Event.fits : Event → Bool
  | .service e => e.fits
  | _ => true

/-- **Whatever happens at the other end.** -/
theorem Streaming.step (hs : l.Streaming half) (h : l.Linked half sent) {hasConnection : Bool}
    {e : Event} (he : l.Enabled half sent hasConnection e) (hfits : e.fits = true) :
    (l.step half e).Streaming half := by
  cases e with
  | service e =>
      exact hs.serviceStep h (fun s hsession => h.not_opens he.1 hsession) hfits
  | accept sessionId socket => exact hs.accept h socket he.1 he.2.1
  | request packet => exact hs.request h packet

theorem received_step (l : Uplink) (half : Bool) (e : Event) :
    (l.step half e).received = l.received := by
  cases e with
  | request packet => exact received_requestStep packet
  | _ => rfl

/-- What a read completes. -/
def completed (half : Bool) (l : Uplink) (size : Nat) : Parsed UInt8 (Ipc.Packet × UInt8) :=
  Ipc.grammar.parse ((Ipc.grammar.parse (l.taken half)).rest ++ l.chunk half size)

/-- **A read never ends the connection**: it hands on what it completes. -/
theorem readStep_of_streaming (a : StringAlloc) (hs : l.Streaming half) (h : l.Linked half sent)
    {size : Nat} (hsize : size ≤ Buffer.MAX_SIZE_ONCE_READ) :
    Ipc.grammar.parse ((l.wire half).take (l.read + (l.chunk half size).length))
        = ⟨(Ipc.grammar.parse (l.taken half)).frames ++ (l.completed half size).frames,
            (l.completed half size).rest, false⟩
      ∧ ∃ d, l.readStep half a size = ((l.completed half size).frames, none,
          l.handed (l.chunk half size) (l.completed half size).frames d)
        ∧ d.Rep (l.completed half size).rest := by
  have hbytes : l.taken half ++ l.chunk half size
      = (l.wire half).take (l.read + (l.chunk half size).length) := by
    have hchunk : l.chunk half size
        = ((l.wire half).drop l.read).take (l.chunk half size).length := by
      rw [chunk, List.length_take, List.take_eq_take_iff, List.length_drop]
      omega
    rw [List.take_add, ← hchunk]
    rfl
  have hbegins : (l.wire half).take (l.read + (l.chunk half size).length) <+: l.wire half :=
    List.take_prefix _ _
  obtain ⟨hvalid, -, -⟩ := handedOn_begins h hs (List.take_prefix l.read (l.wire half))
  obtain ⟨hvalid', hsmall', -⟩ := handedOn_begins h hs hbegins
  rw [← hbytes] at hvalid' hsmall' ⊢
  have hsplit := Ipc.grammar.parse_append (l.chunk half size) hvalid
  have hlater : (l.completed half size).invalid = false :=
    (congrArg Parsed.invalid hsplit).symm.trans hvalid'
  have hmore : Ipc.grammar.next (Ipc.grammar.parse (l.taken half)).rest = .more :=
    (Ipc.grammar.next_rest (l.taken half)).trans
      (if_neg (Bool.eq_false_iff.mp hvalid))
  have hchunk : (l.chunk half size).length ≤ Buffer.MAX_SIZE_ONCE_READ :=
    (List.length_take_le size _).trans hsize
  obtain ⟨d, hanswer, hrep⟩ :=
    onMessage_small a hs.decoded hmore (hsmall'.rest _ hvalid) hlater hchunk
  refine ⟨hsplit.trans (congrArg (Parsed.mk _ (l.completed half size).rest) hlater), d, ?_, hrep⟩
  unfold readStep
  simp only [hanswer]
  rfl

/-- The client reads. -/
theorem Streaming.read (hs : l.Streaming half) (h : l.Linked half sent) {size : Nat}
    (hsize : size ≤ Buffer.MAX_SIZE_ONCE_READ) {decoder : Ipc.Decoder}
    (hrep : decoder.Rep (l.completed half size).rest) :
    (l.handed (l.chunk half size) (l.completed half size).frames decoder).Streaming half := by
  obtain ⟨hparse, -⟩ := readStep_of_streaming .libstdcxx hs h hsize
  have htaken : (l.handed (l.chunk half size) (l.completed half size).frames decoder).taken half
      = (l.wire half).take (l.read + (l.chunk half size).length) := rfl
  refine ⟨hs.fits, ?_, ?_, ?_, ?_⟩
  · intro hnone
    have hwire : l.wire half = [] := by
      have hsession : l.session = none := hnone
      rw [wire, hsession]
    show l.read + (l.chunk half size).length = 0
    rw [hs.unread hnone, chunk, hwire, List.drop_nil, List.take_nil]
    rfl
  · show l.read + (l.chunk half size).length ≤ (l.wire half).length
    have hle := List.length_take_le' size ((l.wire half).drop l.read)
    rw [List.length_drop] at hle
    have hread_le := hs.read_le
    unfold chunk
    omega
  · rw [htaken, hparse]
    exact hrep
  · obtain ⟨past, before, after, hreceived, hrest⟩ := hs.history
    refine ⟨past, before, after, ?_, hrest⟩
    rw [handedOn, htaken, hparse, List.map_append, ← List.append_assoc]
    exact congrArg (· ++ _) hreceived

/-! ## §3. What a read completes. -/

theorem loadU64_payload (m : Message) (t : List UInt8) :
    loadU64 (m.payload ++ t) = m.deviceId := by
  unfold Message.payload
  rw [List.append_assoc]
  exact loadU64_leBytes _ _

/-- The packets of a read are messages the session was sent. -/
theorem mem_completed (hs : l.Streaming half) (h : l.Linked half sent) {size : Nat}
    (hsize : size ≤ Buffer.MAX_SIZE_ONCE_READ) {packet : Ipc.Packet × UInt8}
    (hpacket : packet ∈ (l.completed half size).frames) :
    packet.1 ∈ packetsOf (l.owed half) := by
  obtain ⟨hparse, -⟩ := readStep_of_streaming .libstdcxx hs h hsize
  have hframes := (handedOn_begins h hs
    (List.take_prefix (l.read + (l.chunk half size).length) (l.wire half))).2.2
  rw [hparse] at hframes
  obtain ⟨q, hq, rfl⟩ := List.mem_map.mp (hframes.subset (List.mem_append_right _ hpacket))
  exact hq

/-- Every packet is the packet of a message. -/
theorem exists_message {messages : List Message} {packet : Ipc.Packet}
    (hpacket : packet ∈ packetsOf messages) :
    ∃ m ∈ messages, packet.data = m.payload := by
  have hdata : packet.data ∈ (packetsOf messages).map Ipc.Packet.data :=
    List.mem_map_of_mem hpacket
  rw [packetsOf, map_data_packets] at hdata
  obtain ⟨m, hm, heq⟩ := List.mem_map.mp hdata
  exact ⟨m, hm, heq.symm⟩

theorem type_packetsOf {messages : List Message} {packet : Ipc.Packet}
    (hpacket : packet ∈ packetsOf messages) :
    packet.type = Ipc.IPC_PKT_TYPE_JT1078_PACKET := by
  unfold packetsOf at hpacket
  generalize Ipc.INVALID_PKT_SEQ_ID = last at hpacket
  induction messages generalizing last with
  | nil => cases hpacket
  | cons m ms ih =>
      rcases List.mem_cons.mp hpacket with rfl | hpacket
      · show (Ipc.IPC_PKT_TYPE_JT1078_PACKET ||| Ipc.IPC_PKT_FROM_JT1078_SERVER)
          &&& Ipc.IPC_PKT_TYPE_MASK = _
        decide
      · exact ih _ hpacket

end MultiProcessServer.Uplink
