/-
  MultiProcessServer.Network.Video
  ────────────────────────────────
  **WHAT A VIEWER IS SHOWN WAS PUBLISHED**, on its way from `jt1078_server`
  through a connection that cuts it anywhere and may be lost and made again.

  Main result:

    `shown_was_published` :
        no read makes the client's decoder fail, and every viewer is shown
        messages published in the half, each at most once, in the order of
        publication and for their own devices.
-/
import MultiProcessServer.Network.Subscriptions

namespace MultiProcessServer.Network

open Forward StreamParser

variable {half : Bool} {a : StringAlloc} {n : Network}

def Event.fits (e : Event) : Bool := e.atLink.all Uplink.Event.fits

/-- What holds of the packets that came, and of what the viewers are shown. -/
structure Streaming (half : Bool) (n : Network) : Prop where
  link : n.toUplink.Streaming half
  viewers : ∀ v, (n.pc.shown v).Sublist (n.received.map fun p => (loadU64 p.data, p))

/-! ## §1. What the viewers are shown of a read. -/

/-- **A read never ends the connection**: it hands on what it completes. -/
theorem readStep_of_streaming (a : StringAlloc) (hs : n.toUplink.Streaming half)
    (h : n.Linked half) {size : Nat} (hsize : size ≤ Buffer.MAX_SIZE_ONCE_READ)
    (behind : List UInt8) :
    ∃ d, n.readStep half a size behind
        = n.handed (n.chunk half size) (n.completed half size).frames d behind
      ∧ d.Rep (n.completed half size).rest := by
  obtain ⟨-, d, hanswer, hrep⟩ := Uplink.readStep_of_streaming a hs h.link hsize
  exact ⟨d, readStep_eq behind hanswer, hrep⟩

/-- Of some messages, a viewer is shown some. -/
theorem shown_messages (packets : List (Ipc.Packet × UInt8)) (behind : List UInt8) (v : UInt64) :
    ∀ p : PcServer, ∃ now, (Runs.run PcServer.step p (messages packets behind)).shown v
        = p.shown v ++ now
      ∧ now.Sublist (packets.map fun q => (loadU64 (q.1.data ++ behind), q.1)) := by
  induction packets with
  | nil => exact fun p => ⟨[], (List.append_nil _).symm, List.nil_sublist _⟩
  | cons packet packets ih =>
      intro p
      obtain ⟨first, hfirst, hone, -⟩ := @PcServer.shown_clientMessage p packet.1 behind v
      obtain ⟨rest, hrest, hmore⟩ := ih (p.step (.clientMessage packet.1 behind))
      refine ⟨first ++ rest, ?_, hone.append hmore⟩
      rw [← List.append_assoc, ← hfirst]
      exact hrest

/-- What lies behind the payloads in memory is not looked at. -/
theorem calls_completed (hs : n.toUplink.Streaming half) (h : n.Linked half) {size : Nat}
    (hsize : size ≤ Buffer.MAX_SIZE_ONCE_READ) (behind : List UInt8) :
    (n.completed half size).frames.map (fun q => (loadU64 (q.1.data ++ behind), q.1))
      = ((n.completed half size).frames.map Prod.fst).map fun p => (loadU64 p.data, p) := by
  rw [List.map_map]
  refine List.map_congr_left fun q hq => ?_
  obtain ⟨m, -, hm⟩ := Uplink.exists_message (Uplink.mem_completed hs h.link hsize hq)
  show (loadU64 (q.1.data ++ behind), q.1) = (loadU64 q.1.data, q.1)
  rw [hm, Uplink.loadU64_payload, ← List.append_nil m.payload, Uplink.loadU64_payload]

/-! ## §2. The events. -/

theorem streaming_init (half : Bool) (a : StringAlloc) (garbage : UInt8)
    (result : Option ConnectResult) : (init a garbage result).Streaming half := by
  refine ⟨Uplink.streaming_init half a garbage, fun v => ?_⟩
  have hquiet := @PcServer.quiet_asyncConnectServer
    { PcServer.new garbage with heartbeatTimer := true } result
  have hnothing : (init a garbage result).pc.delivered = [] := hquiet.delivered
  rw [PcServer.shown, hnothing]
  exact List.Sublist.refl _

/-- `pc_server` does something of its own. -/
theorem Streaming.pcStep (hs : n.Streaming half) (h : n.Linked half) {e : PcServer.Event}
    (hmessage : e.isMessage = false) : (n.pcStep a e).Streaming half := by
  have hviewers : ∀ v, ((n.pc.step e).shown v).Sublist
      (n.received.map fun p => (loadU64 p.data, p)) := by
    intro v
    rw [PcServer.shown_step_other h.inv hmessage]
    exact hs.viewers v
  unfold Network.pcStep
  cases hdrops : e.dropsClient with
  | true => exact ⟨hs.link.reset h.link, hviewers⟩
  | false => exact ⟨hs.link, hviewers⟩

/-- The client reads. -/
theorem Streaming.read (hs : n.Streaming half) (h : n.Linked half) {size : Nat}
    {behind : List UInt8} (he : n.Enabled half (.read size behind)) :
    (n.step half a (.read size behind)).Streaming half := by
  obtain ⟨d, hread, hrep⟩ := readStep_of_streaming a hs.link h he.2 behind
  show (n.readStep half a size behind).Streaming half
  rw [hread]
  refine ⟨hs.link.read h.link he.2 hrep, fun v => ?_⟩
  obtain ⟨now, hnow, hsub⟩ := shown_messages (n.completed half size).frames behind v n.pc
  show ((Runs.run PcServer.step n.pc (messages _ behind)).shown v).Sublist
    ((n.received ++ _).map _)
  rw [hnow, List.map_append]
  exact (hs.viewers v).append (calls_completed hs.link h he.2 behind ▸ hsub)

/-- **Every event keeps the stream.** -/
theorem Streaming.step (hs : n.Streaming half) (h : n.Linked half) (e : Event)
    (he : n.Enabled half e) (hfits : e.fits = true) : (n.step half a e).Streaming half := by
  cases e with
  | pc e => exact hs.pcStep h he.2
  | link e =>
      refine ⟨hs.link.step h.link he hfits, fun v => ?_⟩
      show (n.pc.shown v).Sublist ((n.toUplink.step half e).received.map _)
      rw [Uplink.received_step]
      exact hs.viewers v
  | read size behind => exact hs.read h he

/-! ## §3. Main result. -/

/-- What a run keeps. -/
theorem streaming_step (e : Event) (hn : n.Linked half ∧ n.Streaming half)
    (he : n.Enabled half e ∧ e.fits = true) :
    (n.step half a e).Linked half ∧ (n.step half a e).Streaming half :=
  ⟨hn.1.step e he.1, hn.2.step hn.1 e he.1 he.2⟩

/-- After every run. -/
theorem streaming_run (half : Bool) (a : StringAlloc) (garbage : UInt8)
    (result : Option ConnectResult) {events : List Event}
    (h : Runs.Along (Network.step half a) (fun n e => n.Enabled half e ∧ e.fits = true)
      (init a garbage result) events) :
    let n := Runs.run (Network.step half a) (init a garbage result) events
    n.Linked half ∧ n.Streaming half :=
  Runs.run_invariant (fun _ => streaming_step)
    ⟨linked_init half a garbage result, streaming_init half a garbage result⟩ h

/-- The decoder makes no error of what is read. -/
def ReadsWell (half : Bool) (a : StringAlloc) (n : Network) : Event → Prop
  | .read size _ => (n.toUplink.readStep half a size).2.1 = none
  | _ => True

/-- What comes in the right order is read well. -/
theorem Streaming.readsWell (hs : n.Streaming half) (h : n.Linked half) {e : Event}
    (he : n.Enabled half e) : n.ReadsWell half a e := by
  cases e with
  | read size behind =>
      obtain ⟨-, d, hanswer, -⟩ := Uplink.readStep_of_streaming a hs.link h.link he.2
      show (n.toUplink.readStep half a size).2.1 = none
      rw [hanswer]
  | _ => exact trivial

/-- What a viewer was shown. -/
theorem Streaming.shown_eq (hs : n.Streaming half) (h : n.Linked half) (v : UInt64) :
    ∃ messages : List Message, messages.Sublist (n.service.publishedOn half)
      ∧ (n.pc.shown v).map (fun call => (call.1, call.2.data))
        = messages.map fun m => (m.deviceId, m.payload) := by
  have hcalls := (hs.viewers v).map fun call => (call.1, call.2.data)
  have hdata := (hs.link.data_received h.link).map fun data => (loadU64 data, data)
  rw [List.map_map] at hcalls hdata
  have hpayload : ((n.service.publishedOn half).map Message.payload).map
      (fun data => (loadU64 data, data))
      = (n.service.publishedOn half).map fun m => (m.deviceId, m.payload) := by
    rw [List.map_map]
    refine List.map_congr_left fun m _ => ?_
    show (loadU64 m.payload, m.payload) = _
    rw [← List.append_nil m.payload, Uplink.loadU64_payload]
  rw [hpayload] at hdata
  obtain ⟨messages, hsub, heq⟩ := List.sublist_map_iff.mp (hcalls.trans hdata)
  exact ⟨messages, hsub, heq⟩

/-- **What a viewer is shown was published.**  In any run of the two processes,
reconnects included, no read makes the client's decoder fail; and after it there
are messages among those published in the half, in their order, that are what
the viewer was shown: each packet carries the payload of its message, and was
taken for the device the message was published for. -/
theorem shown_was_published (half : Bool) (a : StringAlloc) (garbage : UInt8)
    (result : Option ConnectResult) (events : List Event)
    (h : Runs.Along (Network.step half a) (Network.Enabled half) (init a garbage result) events)
    (hfits : ∀ e ∈ events, e.fits = true) (v : UInt64) :
    let n := Runs.run (Network.step half a) (init a garbage result) events
    Runs.Along (Network.step half a) (ReadsWell half a) (init a garbage result) events
      ∧ ∃ messages : List Message, messages.Sublist (n.service.publishedOn half)
        ∧ (n.pc.shown v).map (fun call => (call.1, call.2.data))
          = messages.map fun m => (m.deviceId, m.payload) := by
  intro n
  have hall := h.and_forall hfits
  refine ⟨?_, ?_⟩
  · exact hall.of_invariant (fun _ => streaming_step)
      (fun _ e hn he => hn.2.readsWell hn.1 he.1)
      ⟨linked_init half a garbage result, streaming_init half a garbage result⟩
  · obtain ⟨hlinked, hstreaming⟩ := streaming_run half a garbage result hall
    exact hstreaming.shown_eq hlinked v

/-- A viewer asks for device 1, and the request arrives. -/
def asking : List Event :=
  [.pc (.newConnection 7 [] true),
    .pc (.packetCompleted 7 ⟨⟨16, 1, 0, Ipc.IPC_PKT_TYPE_SUBSCRIBE_DEVICE_ID⟩, [49], rfl⟩),
    .link (.accept 100 [.wrote 1000]),
    .link (.request ⟨⟨16, 1, 0,
      Ipc.IPC_PKT_TYPE_SUBSCRIBE_DEVICE_ID ||| Ipc.IPC_PKT_FROM_PC_SERVER⟩, [49], rfl⟩)]

/-- The car of device 1 comes and sends a packet. -/
def sending : List Event :=
  [.link (.service (.carConnection true 3 true)),
    .link (.service (.carPacket true 3
      ⟨{ Jt1078.Header.cleared with bt1LogicChannelNumber := 1, wdBodyLen := 1 }, [7], rfl⟩))]

theorem shown_was_published_of_one :
    let n := Runs.run (Network.step true .libstdcxx) (init .libstdcxx 0 (some .connected))
      (asking ++ sending ++ [.read 5120 []])
    Runs.Along (Network.step true .libstdcxx) (ReadsWell true .libstdcxx)
        (init .libstdcxx 0 (some .connected)) (asking ++ sending ++ [.read 5120 []])
      ∧ ∃ messages : List Message, messages.Sublist (n.service.publishedOn true)
        ∧ (n.pc.shown 7).map (fun call => (call.1, call.2.data))
          = messages.map fun m => (m.deviceId, m.payload) :=
  shown_was_published true .libstdcxx 0 (some .connected) (asking ++ sending ++ [.read 5120 []])
    (by decide) (by decide) 7

end MultiProcessServer.Network
