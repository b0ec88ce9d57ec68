/-
  MultiProcessServer.Network.Subscriptions
  ────────────────────────────────────────
  **`jt1078_server` KNOWS WHAT `pc_server` WANTS**, as soon as nothing is in
  flight.

  Requests are made in `pc_server`, travel, and are handled in
  `jt1078_server`, which forgets a session of its own accord when its socket is
  dead; connections are lost and made again, and old sessions linger.

  Main result:

    `subscriptions_agree` :
        in every state, the session of the connection is subscribed to what the
        requests that have arrived ask for; once all have, that is every
        watched device, and nothing a viewer does not name.
-/
import MultiProcessServer.Network.Network

namespace MultiProcessServer.Network

open Forward

variable {half : Bool} {a : StringAlloc} {n : Network} {s d : UInt64}

/-! ## §1. The parts of a step. -/

/-- The messages of one read, as events. -/
def messages (packets : List (Ipc.Packet × UInt8)) (behind : List UInt8) : List PcServer.Event :=
  packets.map fun packet => .clientMessage packet.1 behind

theorem foldl_messages (packets : List (Ipc.Packet × UInt8)) (behind : List UInt8)
    (p : PcServer) :
    packets.foldl (fun pc packet => pc.step (.clientMessage packet.1 behind)) p
      = Runs.run PcServer.step p (messages packets behind) := by
  rw [Runs.run, messages, List.foldl_map]

/-- After `OnMessage` handed on some packets. -/
def handed (n : Network) (chunk : List UInt8) (packets : List (Ipc.Packet × UInt8))
    (decoder : Ipc.Decoder) (behind : List UInt8) : Network where
  toUplink := n.toUplink.handed chunk packets decoder
  pc := Runs.run PcServer.step n.pc (messages packets behind)

theorem readStep_eq {size : Nat} {packets : List (Ipc.Packet × UInt8)}
    {error : Option TcpErrorType} {link : Uplink} (behind : List UInt8)
    (hanswer : n.toUplink.readStep half a size = (packets, error, link)) :
    n.readStep half a size behind
      = if error.isNone then ⟨link, Runs.run PcServer.step n.pc (messages packets behind)⟩
        else (⟨link, Runs.run PcServer.step n.pc (messages packets behind)⟩ : Network).pcStep a
          .clientError := by
  unfold readStep
  simp only [hanswer, foldl_messages]
  cases error <;> rfl

/-- `OnClientMessage` leaves the client. -/
theorem client_clientMessage (p : PcServer) (packet : Ipc.Packet) (behind : List UInt8) :
    (p.step (.clientMessage packet behind)).client = p.client := by
  show (p.onClientMessage packet behind).client = p.client
  unfold PcServer.onClientMessage
  split <;> rfl

theorem client_messages (packets : List (Ipc.Packet × UInt8)) (behind : List UInt8) :
    ∀ p : PcServer, (Runs.run PcServer.step p (messages packets behind)).client = p.client := by
  induction packets with
  | nil => exact fun _ => rfl
  | cons packet packets ih => exact fun p => (ih _).trans (client_clientMessage p packet.1 behind)

/-- They come while the client is connected. -/
theorem enabled_messages (packets : List (Ipc.Packet × UInt8)) (behind : List UInt8) :
    ∀ p : PcServer, p.isConnected = true →
      Runs.Along PcServer.step PcServer.Enabled p (messages packets behind) := by
  induction packets with
  | nil => exact fun _ _ => trivial
  | cons packet packets ih =>
      intro p hup
      refine ⟨⟨trivial, hup⟩, ih _ ?_⟩
      exact (PcServer.isConnected_congr (client_clientMessage p packet.1 behind)).trans hup

/-- Unless the client is given up, requests are only added. -/
theorem sent_prefix_step {p : PcServer} (h : p.Inv) {e : PcServer.Event}
    (he : e.dropsClient = false) : p.sent <+: (p.step e).sent := by
  obtain ⟨calls, hclient, -⟩ := PcServer.requests_step h he
  rw [← PcServer.sent_clientBefore p e]
  unfold PcServer.sent
  rw [hclient]
  cases e.clientBefore p.client with
  | none => exact List.prefix_refl _
  | some c => exact Jt1078Client.sent_prefix_sendAll calls c

/-! ## §2. The invariant. -/

/-- What holds of the two processes and their connection. -/
structure Linked (half : Bool) (n : Network) : Prop where
  inv : n.pc.Inv
  link : n.toUplink.Linked half n.pc.sent

theorem linked_init (half : Bool) (a : StringAlloc) (garbage : UInt8)
    (result : Option ConnectResult) : (init a garbage result).Linked half :=
  ⟨PcServer.inv_init garbage result, Uplink.linked_init half a garbage _⟩

theorem Linked.pcStep (h : n.Linked half) {e : PcServer.Event} (he : n.pc.Enabled e) :
    (n.pcStep a e).Linked half := by
  have hinv := h.inv.step e he
  unfold Network.pcStep
  cases hdrops : e.dropsClient with
  | true => exact ⟨hinv, h.link.reset _⟩
  | false => exact ⟨hinv, h.link.more (sent_prefix_step h.inv hdrops)⟩

/-- The client reads. -/
theorem Linked.read (h : n.Linked half) {size : Nat} {behind : List UInt8}
    (he : n.Enabled half (.read size behind)) :
    (n.step half a (.read size behind)).Linked half := by
  have hhanded : ∀ packets error link, n.toUplink.readStep half a size = (packets, error, link) →
      (⟨link, Runs.run PcServer.step n.pc (messages packets behind)⟩ : Network).Linked half
        ∧ (Runs.run PcServer.step n.pc (messages packets behind)).isConnected = true := by
    intro packets error link hanswer
    have hclient := client_messages packets behind n.pc
    have hinv : (Runs.run PcServer.step n.pc (messages packets behind)).Inv :=
      Runs.run_invariant (fun _ e hp he => hp.step e he) h.inv
        (enabled_messages packets behind n.pc he.1)
    have hsent : n.pc.sent
        = (Runs.run PcServer.step n.pc (messages packets behind)).sent := by
      rw [PcServer.sent, PcServer.sent, hclient]
    refine ⟨⟨hinv, ?_⟩, (PcServer.isConnected_congr hclient).trans he.1⟩
    show link.Linked half (Runs.run PcServer.step n.pc (messages packets behind)).sent
    rw [← hsent, ← show _ = link from congrArg (fun x => x.2.2) hanswer]
    exact h.link.readStep a size
  obtain ⟨⟨packets, error, link⟩, hanswer⟩ : ∃ answer, n.toUplink.readStep half a size = answer :=
    ⟨_, rfl⟩
  obtain ⟨hlinked, hup⟩ := hhanded _ _ _ hanswer
  show (n.readStep half a size behind).Linked half
  rw [readStep_eq behind hanswer]
  split
  · exact hlinked
  · exact hlinked.pcStep ⟨trivial, hup⟩

/-- **Every event keeps the two in step.** -/
theorem Linked.step (h : n.Linked half) (e : Event) (he : n.Enabled half e) :
    (n.step half a e).Linked half := by
  cases e with
  | pc e => exact h.pcStep he.1
  | link e => exact ⟨h.inv, h.link.step he⟩
  | read size behind => exact h.read he

/-! ## §3. What `pc_server` asks for. -/

/-- Requests for devices whose id fits into 14 digits. -/
def Event.small : Event → Bool
  | .pc e => e.small
  | _ => true

/-- **The part of `pc_server`** in a step is a run of its own. -/
theorem pc_step (e : Event) (he : n.Enabled half e) :
    ∃ events, Runs.Along PcServer.step PcServer.Enabled n.pc events
      ∧ (n.step half a e).pc = Runs.run PcServer.step n.pc events
      ∧ (e.small = true → ∀ event ∈ events, event.small = true) := by
  have hnothing : ∀ q : PcServer, q = n.pc →
      ∃ events, Runs.Along PcServer.step PcServer.Enabled n.pc events
        ∧ q = Runs.run PcServer.step n.pc events
        ∧ (e.small = true → ∀ event ∈ events, event.small = true) := fun q hq =>
    ⟨[], trivial, hq, fun _ _ hmem => absurd hmem List.not_mem_nil⟩
  have hpcStep : ∀ (n : Network) (event : PcServer.Event),
      (n.pcStep a event).pc = n.pc.step event := by
    intro n event
    unfold Network.pcStep
    cases event.dropsClient <;> rfl
  cases e with
  | pc event =>
      refine ⟨[event], ⟨he.1, trivial⟩, hpcStep n event, fun hsmall x hx => ?_⟩
      rw [List.mem_singleton.mp hx]
      exact hsmall
  | link _ => exact hnothing _ rfl
  | read size behind =>
      obtain ⟨⟨packets, error, link⟩, hanswer⟩ : ∃ answer,
          n.toUplink.readStep half a size = answer := ⟨_, rfl⟩
      have halong := enabled_messages packets behind n.pc he.1
      have hmessages : ∀ event ∈ messages packets behind, event.small = true := by
        intro event hevent
        obtain ⟨packet, -, rfl⟩ := List.mem_map.mp hevent
        rfl
      show ∃ events, _ ∧ (n.readStep half a size behind).pc = _ ∧ _
      rw [readStep_eq behind hanswer]
      split
      · exact ⟨_, halong, rfl, fun _ => hmessages⟩
      · -- the stream is broken: the error comes after what was handed on
        refine ⟨messages packets behind ++ [.clientError], ?_, ?_, fun _ event hevent => ?_⟩
        · have hup : (Runs.run PcServer.step n.pc (messages packets behind)).isConnected = true :=
            (PcServer.isConnected_congr (client_messages packets behind n.pc)).trans he.1
          exact Runs.along_concat.mpr ⟨halong, trivial, hup⟩
        · rw [hpcStep, Runs.run_append]
          rfl
        · rcases List.mem_append.mp hevent with hevent | hevent
          · exact hmessages event hevent
          · rw [List.mem_singleton.mp hevent]
            rfl

/-- What holds of a network whose `pc_server` asks for what its viewers watch. -/
structure Agreed (half : Bool) (n : Network) : Prop where
  linked : n.Linked half
  synced : n.pc.Synced
  sized : n.pc.Sized

theorem agreed_init (half : Bool) (a : StringAlloc) (garbage : UInt8)
    (result : Option ConnectResult) : (init a garbage result).Agreed half where
  linked := linked_init half a garbage result
  synced := PcServer.synced_init garbage result
  sized := PcServer.sized_init garbage result

theorem Agreed.step (h : n.Agreed half) (e : Event) (he : n.Enabled half e)
    (hsmall : e.small = true) : (n.step half a e).Agreed half := by
  obtain ⟨events, halong, hpc, hevents⟩ := pc_step (a := a) e he
  have hkeep : ∀ (p : PcServer) (event : PcServer.Event), (p.Inv ∧ p.Synced ∧ p.Sized) →
      p.Enabled event ∧ event.small = true →
      (p.step event).Inv ∧ (p.step event).Synced ∧ (p.step event).Sized := fun p event hp he =>
    ⟨hp.1.step event he.1, hp.2.1.step hp.1 event he.1 he.2, hp.2.2.step hp.1 event⟩
  obtain ⟨-, hsynced, hsized⟩ := Runs.run_invariant hkeep
    ⟨h.linked.inv, h.synced, h.sized⟩ (halong.and_forall (hevents hsmall))
  exact ⟨h.linked.step e he, hpc ▸ hsynced, hpc ▸ hsized⟩

/-! ## §4. Nothing in flight. -/

/-- The requests that have not arrived. -/
def inFlight (n : Network) : List Request := n.pc.sent.drop n.arrived

/-- A live session that has all requests, and is not dead. -/
def Settled (half : Bool) (n : Network) : Prop :=
  n.inFlight = [] ∧ n.pc.isConnected = true
    ∧ ∃ s, n.session = some s ∧ s ∈ n.roster.live
      ∧ ((n.forward half).sessions s).isCanWrite = true

/-- The session of the connection watches what `pc_server`'s viewers watch. -/
def SubscribedAsWatched (half : Bool) (n : Network) : Prop :=
  ∀ s, n.session = some s →
    (∀ d, (∃ viewer, n.pc.Subscribed viewer d) → (n.forward half).Subscribed s d)
      ∧ ∀ d, (n.forward half).Subscribed s d → ∃ viewer ∈ n.pc.pcManager, n.pc.Names viewer d

theorem Agreed.settled (h : n.Agreed half) (hsettled : n.Settled half) :
    n.SubscribedAsWatched half := by
  obtain ⟨hflight, hup, t, hsession, hlive, hcan⟩ := hsettled
  intro s hs
  obtain rfl : t = s := Option.some.inj (hsession.symm.trans hs)
  have hall : n.pc.sent.take n.arrived = n.pc.sent := by
    have hle : n.pc.sent.length ≤ n.arrived := List.drop_eq_nil_iff.mp hflight
    exact List.take_of_length_le hle
  have hup_eq : ∀ d, n.pc.up d = Request.requested (n.pc.sent.take n.arrived) d := by
    intro d
    rw [hall]
    unfold PcServer.isConnected at hup
    unfold PcServer.sent
    cases hc : n.pc.client with
    | none => simp [hc] at hup
    | some c =>
        rw [PcServer.up_eq_requested hc (by simpa [hc] using hup)]
  constructor
  · intro d ⟨viewer, hviewer⟩
    exact h.linked.link.served t d hsession hlive hcan
      ((hup_eq d).symm.trans (h.synced.covered hup viewer d hviewer))
  · intro d hsub
    exact h.synced.wanted d ((hup_eq d).trans (h.linked.link.asked t d hsession hsub))

/-- What an arriving request leaves as it was. -/
theorem step_request (half : Bool) (a : StringAlloc) (packet : Ipc.Packet)
    (hs : n.session = some s) :
    (n.step half a (.link (.request packet))).pc = n.pc
      ∧ (n.step half a (.link (.request packet))).session = some s
      ∧ (n.step half a (.link (.request packet))).arrived = n.arrived + 1
      ∧ (n.step half a (.link (.request packet))).roster = n.roster := by
  have hstep : n.step half a (.link (.request packet))
      = { n with toUplink := n.toUplink.requestStep half packet } := rfl
  rw [hstep, Uplink.requestStep_of_session hs]
  refine ⟨rfl, hs, rfl, ?_⟩
  show n.roster.next _ = n.roster
  rw [Uplink.contact_request]
  rfl

/-- The requests in flight, as the packets the session makes of them. -/
theorem exists_packets (requests : List Request) (h : ∀ r ∈ requests, r.Sized) :
    ∃ packets : List Ipc.Packet, packets.map Request.ofPacket = requests := by
  induction requests with
  | nil => exact ⟨[], rfl⟩
  | cons r requests ih =>
      obtain ⟨packets, hpackets⟩ := ih fun x hx => h x (List.mem_cons_of_mem _ hx)
      exact ⟨r.packet (h r List.mem_cons_self) :: packets, by rw [List.map_cons, hpackets]; rfl⟩

/-- Requests arrive, one after the other. -/
def requests (packets : List Ipc.Packet) : List Event :=
  packets.map fun packet => .link (.request packet)

/-- Let everything in flight arrive: it can, and changes nothing in `pc_server`. -/
theorem arrive_all (half : Bool) (a : StringAlloc) :
    ∀ (packets : List Ipc.Packet) {n : Network}, n.session = some s →
    s ∈ n.roster.live → n.inFlight = packets.map Request.ofPacket →
    Runs.Along (Network.step half a) (Network.Enabled half) n (requests packets)
      ∧ (Runs.run (Network.step half a) n (requests packets)).pc = n.pc
      ∧ (Runs.run (Network.step half a) n (requests packets)).inFlight = []
      ∧ (Runs.run (Network.step half a) n (requests packets)).session = some s
      ∧ (Runs.run (Network.step half a) n (requests packets)).roster = n.roster := by
  intro packets
  induction packets with
  | nil => exact fun hs _ hflight => ⟨trivial, rfl, hflight, hs, rfl⟩
  | cons packet packets ih =>
      intro n hs hlive hflight
      obtain ⟨hpc, hsession, harrived, hroster⟩ := step_request half a packet hs
      have hnext : n.pc.sent[n.arrived]? = some (Request.ofPacket packet) := by
        rw [← List.head?_drop]
        exact congrArg List.head? hflight
      have hrest : (n.step half a (.link (.request packet))).inFlight
          = packets.map Request.ofPacket := by
        unfold inFlight at hflight ⊢
        rw [hpc, harrived, ← List.drop_drop, hflight]
        rfl
      obtain ⟨halong, hpcs, hempty, hsessions, hrosters⟩ := ih hsession (hroster ▸ hlive) hrest
      refine ⟨⟨⟨?_, hnext⟩, halong⟩, hpcs.trans hpc, hempty, hsessions, hrosters.trans hroster⟩
      rw [hs]
      exact decide_eq_true hlive

/-! ## §5. Main result. -/

/-- **The two processes agree.**  In every run of the network, reconnects and
lingering sessions included, and with requests that arrive whole and in order
once `SendPacket` has them: a session of the connection that is live and not dead
is subscribed to exactly what the requests that have arrived ask for; as soon as
none is in flight that is every watched device, and nothing a viewer does not
name; and as long as the session is live, letting those in flight arrive is all
that is missing. -/
theorem subscriptions_agree (half : Bool) (a : StringAlloc) (garbage : UInt8)
    (result : Option ConnectResult) (events : List Event)
    (h : Runs.Along (Network.step half a) (Network.Enabled half) (init a garbage result) events)
    (hsmall : ∀ e ∈ events, e.small = true) :
    let n := Runs.run (Network.step half a) (init a garbage result) events
    (∀ s d, n.session = some s → s ∈ n.roster.live →
        ((n.forward half).sessions s).isCanWrite = true →
        ((n.forward half).Subscribed s d ↔
          Request.requested (n.pc.sent.take n.arrived) d = true))
      ∧ (n.Settled half → n.SubscribedAsWatched half)
      ∧ ∀ s, n.session = some s → s ∈ n.roster.live →
        ∃ packets : List Ipc.Packet, packets.map Request.ofPacket = n.inFlight
          ∧ Runs.Along (Network.step half a) (Network.Enabled half) n (requests packets)
          ∧ (let n' := Runs.run (Network.step half a) n (requests packets)
            n'.pc = n.pc ∧ n'.inFlight = [] ∧ n'.session = some s
              ∧ (n'.pc.isConnected = true → ((n'.forward half).sessions s).isCanWrite = true →
                n'.SubscribedAsWatched half)) := by
  intro n
  have hkeep : ∀ (n : Network) (e : Event), n.Agreed half → n.Enabled half e ∧ e.small = true →
      (n.step half a e).Agreed half := fun n e hn he => hn.step e he.1 he.2
  have hn : n.Agreed half :=
    Runs.run_invariant hkeep (agreed_init half a garbage result) (h.and_forall hsmall)
  have hlink := hn.linked.link
  refine ⟨fun s d hs hlive hcan => ⟨hlink.asked s d hs, hlink.served s d hs hlive hcan⟩,
    hn.settled, fun s hs hlive => ?_⟩
  obtain ⟨packets, hpackets⟩ := exists_packets n.inFlight fun r hr =>
    hn.sized.requests r (List.mem_of_mem_drop hr)
  obtain ⟨halong, hpc, hflight, hsession, hroster⟩ :=
    arrive_all half a packets hs hlive hpackets.symm
  refine ⟨packets, hpackets, halong, hpc, hflight, hsession, fun hup hcan => ?_⟩
  have hsmall' : ∀ e ∈ requests packets, e.small = true := by
    intro e he
    obtain ⟨packet, -, rfl⟩ := List.mem_map.mp he
    rfl
  have hn' := Runs.run_invariant hkeep hn (halong.and_forall hsmall')
  exact hn'.settled ⟨hflight, hup, s, hsession, hroster ▸ hlive, hcan⟩

/-- A viewer asks, and the request arrives. -/
theorem subscriptions_agree_after_one_request :
    let asked : Ipc.Packet := ⟨⟨16, 1, 0, Ipc.IPC_PKT_TYPE_SUBSCRIBE_DEVICE_ID⟩, [49], rfl⟩
    let request : Ipc.Packet := ⟨⟨16, 1, 0,
      Ipc.IPC_PKT_TYPE_SUBSCRIBE_DEVICE_ID ||| Ipc.IPC_PKT_FROM_PC_SERVER⟩, [49], rfl⟩
    let n := Runs.run (Network.step true .libstdcxx) (init .libstdcxx 0 (some .connected))
      [.pc (.newConnection 7 [] true), .pc (.packetCompleted 7 asked), .link (.accept 100 []),
        .link (.request request)]
    n.Settled true ∧ n.SubscribedAsWatched true :=
  have hsettled : Settled true (Runs.run (Network.step true .libstdcxx)
      (init .libstdcxx 0 (some .connected)) [.pc (.newConnection 7 [] true),
        .pc (.packetCompleted 7 ⟨⟨16, 1, 0, Ipc.IPC_PKT_TYPE_SUBSCRIBE_DEVICE_ID⟩, [49], rfl⟩),
        .link (.accept 100 []), .link (.request ⟨⟨16, 1, 0,
          Ipc.IPC_PKT_TYPE_SUBSCRIBE_DEVICE_ID ||| Ipc.IPC_PKT_FROM_PC_SERVER⟩, [49], rfl⟩)]) :=
    ⟨by decide, by decide, 100, by decide, by decide, by decide⟩
  ⟨hsettled, (subscriptions_agree true .libstdcxx 0 (some .connected)
    [.pc (.newConnection 7 [] true),
      .pc (.packetCompleted 7 ⟨⟨16, 1, 0, Ipc.IPC_PKT_TYPE_SUBSCRIBE_DEVICE_ID⟩, [49], rfl⟩),
      .link (.accept 100 []), .link (.request ⟨⟨16, 1, 0,
        Ipc.IPC_PKT_TYPE_SUBSCRIBE_DEVICE_ID ||| Ipc.IPC_PKT_FROM_PC_SERVER⟩, [49], rfl⟩)]
    (by decide) (by decide)).2.1 hsettled⟩

end MultiProcessServer.Network
