/-
  MultiProcessServer.Network.Cars
  ───────────────────────────────
  **FROM THE BYTES OF THE CARS TO THE SCREENS**: the network of `pc_server` and
  `jt1078_server`, with the cars at its other end.

  A message of a car is the packets it completes, each an event of the network,
  so every run with the cars is a run of the network.

  Main results:

    `shown_was_sent` :
        what a viewer is shown are packets cars sent whole, each under the first
        identity of its connection, at most once and in the order sent;
    `whole_packets_are_shown` :
        while a viewer watches a device, every packet cars send whole under its
        identity is shown, or on the way.
-/
import MultiProcessServer.Network.Delivery
import MultiProcessServer.Network.Process

namespace MultiProcessServer

open Forward Jt1078 StreamParser

namespace Network

variable {half : Bool} {a : StringAlloc}

/-! ## §1. The network as a host. -/

/-- What `pc_server` does of its own leaves `jt1078_server`. -/
theorem service_own (half : Bool) (a : StringAlloc) (n : Network) (e : Event)
    (he : e.atLink = none) : (n.step half a e).service = n.service := by
  have hpcStep : ∀ (n : Network) (e : PcServer.Event),
      (n.pcStep a e).service = n.service := by
    intro n e
    unfold Network.pcStep
    cases e.dropsClient <;> rfl
  cases e with
  | link e => cases he
  | pc e => exact hpcStep n e
  | read size behind =>
      obtain ⟨⟨packets, error, link⟩, hanswer⟩ : ∃ answer,
          n.toUplink.readStep half a size = answer := ⟨_, rfl⟩
      have hlink : link.service = n.service := by
        rw [← show _ = link from congrArg (fun x => x.2.2) hanswer]
        rfl
      show (n.readStep half a size behind).service = n.service
      rw [readStep_eq behind hanswer]
      split
      · exact hlink
      · exact (hpcStep _ .clientError).trans hlink

/-- `pc_server`, with its connection to `jt1078_server`. -/
def process (half : Bool) (a : StringAlloc) : Uplink.Process half Network Event where
  step := Network.step half a
  Enabled := Network.Enabled half
  uplink := Network.toUplink
  link := .link
  atLink := Event.atLink
  atLink_eq_some e e' := by
    cases e with
    | link e => exact Option.some_inj.trans ⟨congrArg _, fun h => Event.link.inj h⟩
    | _ => exact ⟨nofun, nofun⟩
  uplink_link _ _ := rfl
  service_own := service_own half a
  enabled_service _ _ hadmits hother := ⟨hadmits, hother⟩

/-- `pc_server` and `jt1078_server`. -/
def host (half : Bool) (a : StringAlloc) : Host Network Event := (process half a).host

instance (n : Network) (e : Event) : Decidable ((host half a).Enabled n e) :=
  inferInstanceAs (Decidable (n.Enabled half e))

end Network

namespace Traffic

variable {half : Bool} {a : StringAlloc}

/-- The start: no car has connected. -/
def init (a : StringAlloc) (garbage : UInt8) (result : Option ConnectResult) : Traffic Network :=
  start a (.init a garbage result)

/-- After every run. -/
theorem streaming_run (half : Bool) (a : StringAlloc) (garbage : UInt8)
    (result : Option ConnectResult) {events : List (Event Network.Event)}
    (h : Runs.Along (step (Network.host half a) a) (Enabled (Network.host half a))
      (init a garbage result) events) :
    let t := Runs.run (step (Network.host half a) a) (init a garbage result) events
    t.Sees (Network.host half a) ∧ t.net.Linked half ∧ t.net.Streaming half :=
  net_start (J := fun n : Network => n.Linked half ∧ n.Streaming half) garbage rfl
    (fun _ hes => Network.streaming_run half a garbage result hes) h

/-! ## §2. Main results. -/

/-- **What a viewer is shown was sent.**  Take what the connections of the cars
sent whole, in the half, each packet under the first identity of its
connection: what was published is an interleaving of that, and what a viewer
was shown are some of it, in that order. -/
theorem shown_was_sent (half : Bool) (a : StringAlloc) (garbage : UInt8)
    (result : Option ConnectResult) (events : List (Event Network.Event))
    (h : Runs.Along (step (Network.host half a) a) (Enabled (Network.host half a))
      (init a garbage result) events) (v : UInt64) :
    let t := Runs.run (step (Network.host half a) a) (init a garbage result) events
    ∃ published messages : List Message, Interleaves (t.fleet.messages half) published
      ∧ messages.Sublist published
      ∧ (t.net.pc.shown v).map (fun call => (call.1, call.2.data))
        = messages.map fun m => (m.deviceId, m.payload) := by
  intro t
  obtain ⟨-, hlinked, hstreaming⟩ := streaming_run half a garbage result h
  obtain ⟨messages, hsub, hshown⟩ := hstreaming.shown_eq hlinked v
  exact ⟨t.net.service.publishedOn half, messages,
    published_start garbage (H := Network.host half a) rfl h half, hsub, hshown⟩

/-- The car of device 1 connects and sends a packet, and the client reads. -/
def arriving : List (Event Network.Event) :=
  [.car (.carConnection true 3 true), .car (.carMessage true 3 Fleet.routeBytes),
    .network (.read 5120 [])]

theorem shown_was_sent_of_one :
    let t := Runs.run (step (Network.host true .libstdcxx) .libstdcxx)
      (init .libstdcxx 0 (some .connected)) (Network.asking.map .network ++ arriving)
    (t.net.pc.shown 7).length = 1
      ∧ ∃ published messages : List Message, Interleaves (t.fleet.messages true) published
      ∧ messages.Sublist published
      ∧ (t.net.pc.shown 7).map (fun call => (call.1, call.2.data))
        = messages.map fun m => (m.deviceId, m.payload) :=
  ⟨by decide +kernel, shown_was_sent true .libstdcxx 0 (some .connected)
    (Network.asking.map .network ++ arriving) (by decide +kernel) 7⟩

/-- **Whole packets are shown.**  From a state in which a viewer watches a
device that was asked for, and as long as the connection is not given up, what
the viewer is shown of the device, and what is on the way, grow by what the
cars send whole under the identity: every packet once, those of a connection in
their order. -/
theorem whole_packets_are_shown (half : Bool) (a : StringAlloc) (garbage : UInt8)
    (result : Option ConnectResult) (earlier events : List (Event Network.Event)) (s v d : UInt64)
    (h : Runs.Along (step (Network.host half a) a) (Enabled (Network.host half a))
      (init a garbage result) (earlier ++ events))
    (hcalm : ∀ e ∈ events, e.Calm (Network.Calm v))
    (hsession :
      (Runs.run (step (Network.host half a) a) (init a garbage result) earlier).net.session
        = some s)
    (hfollow :
      (Runs.run (step (Network.host half a) a) (init a garbage result) earlier).net.Following v d)
    (halive : (Runs.run (step (Network.host half a) a) (init a garbage result)
      (earlier ++ events)).net.Alive half s v) :
    let before := Runs.run (step (Network.host half a) a) (init a garbage result) earlier
    let after := Runs.run (step (Network.host half a) a) (init a garbage result) (earlier ++ events)
    ∃ later streams, Interleaves streams later
      ∧ (∀ x, after.fleet.messages half x = before.fleet.messages half x ++ streams x)
      ∧ Network.shownOf v d after.net.pc ++ Uplink.payloadsOf d (after.net.onTheWay half)
        = Network.shownOf v d before.net.pc ++ Uplink.payloadsOf d (before.net.onTheWay half)
          ++ Uplink.payloadsOf d later := by
  intro before after
  obtain ⟨hearlier, hevents⟩ := Runs.along_append.mp h
  obtain ⟨hsees, hlinked, hstreaming⟩ := streaming_run half a garbage result hearlier
  -- with the cars' events flattened to calls of the service, it is a run of the network
  obtain ⟨hnet, halong⟩ := net_run hsees hevents
  rw [Runs.run_append, hnet] at halive
  have hflat : Runs.Along (Network.step half a) (fun _ e => Network.Calm v e) before.net
      (flat (Network.host half a) a before events) :=
    calm_flat (H := Network.host half a) (I := fun _ => True) (fun _ _ _ _ => trivial)
      (fun _ _ _ => ⟨trivial, trivial⟩) trivial (Runs.along_iff_forall.mpr hcalm)
  have hfits := Runs.along_iff_forall.mp (halong.imp fun _ _ he => he.2)
  have hrun : after = Runs.run (step (Network.host half a) a) before events := Runs.run_append _ _ _
  rw [hrun]
  exact sent_of_balances (L := Network.ledger half v d) (fun _ => rfl) hsees hevents
    (hfollow.balances hlinked hstreaming hsession (halong.imp fun _ _ he => he.1) hfits
      (Runs.along_iff_forall.mp hflat) halive).2

theorem whole_packets_are_shown_to_one :
    let start := init .libstdcxx 0 (some .connected)
    let before := Runs.run (step (Network.host true .libstdcxx) .libstdcxx) start
      (Network.asking.map .network)
    let after := Runs.run (step (Network.host true .libstdcxx) .libstdcxx) start
      (Network.asking.map .network ++ arriving)
    (Network.shownOf 7 1 after.net.pc).length = 1
      ∧ ∃ later streams, Interleaves streams later
        ∧ (∀ x, after.fleet.messages true x = before.fleet.messages true x ++ streams x)
        ∧ Network.shownOf 7 1 after.net.pc ++ Uplink.payloadsOf 1 (after.net.onTheWay true)
          = Network.shownOf 7 1 before.net.pc ++ Uplink.payloadsOf 1 (before.net.onTheWay true)
            ++ Uplink.payloadsOf 1 later := by
  have hwanted : ∀ k, 1 ≤ k → Request.requested ((Runs.run
      (step (Network.host true .libstdcxx) .libstdcxx) (init .libstdcxx 0 (some .connected))
      (Network.asking.map .network)).net.pc.sent.take k) 1 = true := by
    intro k hk
    rw [List.take_of_length_le hk]
    decide
  have hcalm : ∀ e ∈ arriving, e.Calm (Network.Calm 7) := by
    unfold arriving
    simp only [List.forall_mem_cons]
    exact ⟨trivial, trivial, trivial, List.forall_mem_nil _⟩
  exact ⟨by decide +kernel, whole_packets_are_shown true .libstdcxx 0 (some .connected)
    (Network.asking.map .network) arriving 100 7 1 (by decide +kernel) hcalm (by decide)
    ⟨⟨_, rfl, by decide⟩, hwanted⟩
    ⟨⟨by decide +kernel, by decide +kernel⟩, by decide +kernel⟩⟩

end Traffic

end MultiProcessServer
