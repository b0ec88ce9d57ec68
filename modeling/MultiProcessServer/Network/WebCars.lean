/-
  MultiProcessServer.Network.WebCars
  ──────────────────────────────────
  **FROM THE BYTES OF THE CARS TO THE STREAMS**: the network of `web_server` and
  `jt1078_server`, with the cars at its other end.

  Main results:

    `pushed_was_sent` :
        what a stream has written and holds are packets cars sent whole, each
        under the first identity of its connection, at most once and in the
        order sent;

    `whole_video_is_pushed` :
        as long as the connection and the stream last, all the video sent whole
        for the device gets there.
-/
import MultiProcessServer.Network.Process
import MultiProcessServer.Network.WebDelivery

namespace MultiProcessServer

open Forward Jt1078 StreamParser

namespace WebNetwork

variable {half : Bool} {a : StringAlloc}

/-! ## §1. The network as a host. -/

theorem service_webStep (a : StringAlloc) (n : WebNetwork) (e : WebServer.Event) :
    (n.webStep a e).service = n.service := by
  unfold webStep
  cases e.dropsClient <;> rfl

/-- What `web_server` does of its own leaves `jt1078_server`. -/
theorem service_own (half : Bool) (a : StringAlloc) (n : WebNetwork) (e : Event)
    (he : e.atLink = none) : (n.step half a e).service = n.service := by
  cases e with
  | link e => cases he
  | web e => exact service_webStep a n e
  | message behind =>
      show (n.messageStep a behind).service = n.service
      unfold messageStep
      split
      next => rfl
      next packet rest hinbox => exact service_webStep a n (.clientMessage packet behind)
  | broken => exact service_webStep a n .clientError
  | thread e => rfl
  | read size => rfl

/-- `web_server`, with its connection to `jt1078_server`. -/
def process (half : Bool) (a : StringAlloc) : Uplink.Process half WebNetwork Event where
  step := WebNetwork.step half a
  Enabled := WebNetwork.Enabled half
  uplink := WebNetwork.toUplink
  link := .link
  atLink := Event.atLink
  atLink_eq_some e e' := by
    cases e with
    | link e => exact Option.some_inj.trans ⟨congrArg _, fun h => Event.link.inj h⟩
    | _ => exact ⟨nofun, nofun⟩
  uplink_link _ _ := rfl
  service_own := service_own half a
  enabled_service _ _ hadmits hother := ⟨hadmits, hother⟩

/-- `web_server` and `jt1078_server`. -/
def host (half : Bool) (a : StringAlloc) : Host WebNetwork Event := (process half a).host

instance (n : WebNetwork) (e : Event) : Decidable ((host half a).Enabled n e) :=
  inferInstanceAs (Decidable (n.Enabled half e))

/-- The start: no car has connected. -/
def start (a : StringAlloc) (garbage : UInt8) (rtmpUrlPrefix : List UInt8)
    (result : Option ConnectResult) : Traffic WebNetwork :=
  .start a (.init a garbage rtmpUrlPrefix result)

/-- After every run. -/
theorem streaming_run_cars (half : Bool) (a : StringAlloc) (garbage : UInt8)
    (rtmpUrlPrefix : List UInt8) (result : Option ConnectResult)
    {events : List (Traffic.Event Event)}
    (h : Runs.Along (Traffic.step (host half a) a) (Traffic.Enabled (host half a))
      (start a garbage rtmpUrlPrefix result) events) :
    let t := Runs.run (Traffic.step (host half a) a) (start a garbage rtmpUrlPrefix result) events
    t.Sees (host half a) ∧ (t.net.Linked half ∧ t.net.Streaming half)
      ∧ ∀ p ∈ t.net.inbox, IsMessage p :=
  Traffic.net_start (J := fun n : WebNetwork =>
      (n.Linked half ∧ n.Streaming half) ∧ ∀ p ∈ n.inbox, IsMessage p) garbage rfl
    (fun _ hes => typed_run half a garbage rtmpUrlPrefix result hes) h

/-! ## §2. What is pushed. -/

/-- The car of device 1 connects and sends a picture, and it is pushed. -/
def picture : List (Traffic.Event Event) :=
  [.car (.carConnection true 3 true), .car (.carMessage true 3 Fleet.videoBytes)]
    ++ handling.map .network

/-- **Whole video is pushed.**  From a state in which a device has its stream and
was asked for, and as long as the connection is not given up and the stream
lasts, what the stream has, and what is on its way there, grow by the video the
cars send whole under the identity: every packet once, those of a connection in
their order. -/
theorem whole_video_is_pushed (half : Bool) (a : StringAlloc) (garbage : UInt8)
    (rtmpUrlPrefix : List UInt8) (result : Option ConnectResult)
    (earlier events : List (Traffic.Event Event)) (s d : UInt64)
    (h : Runs.Along (Traffic.step (host half a) a) (Traffic.Enabled (host half a))
      (start a garbage rtmpUrlPrefix result) (earlier ++ events))
    (hsession : (Runs.run (Traffic.step (host half a) a) (start a garbage rtmpUrlPrefix result)
      earlier).net.session = some s)
    (hstream : ((Runs.run (Traffic.step (host half a) a) (start a garbage rtmpUrlPrefix result)
      earlier).net.push.worker.getRtmpClient d).isSome = true)
    (hcalm : Runs.Along (Traffic.step (host half a) a) (fun t e => e.Calm (Calm half a d t.net))
      (Runs.run (Traffic.step (host half a) a) (start a garbage rtmpUrlPrefix result) earlier)
      events)
    (halive : (Runs.run (Traffic.step (host half a) a) (start a garbage rtmpUrlPrefix result)
      (earlier ++ events)).net.toUplink.Alive half s)
    (hwanted : ∀ k, (Runs.run (Traffic.step (host half a) a)
        (start a garbage rtmpUrlPrefix result) earlier).net.arrived ≤ k →
      Request.requested ((Runs.run (Traffic.step (host half a) a)
        (start a garbage rtmpUrlPrefix result) (earlier ++ events)).net.web.sent.take k) d
          = true) :
    let before := Runs.run (Traffic.step (host half a) a) (start a garbage rtmpUrlPrefix result)
      earlier
    let after := Runs.run (Traffic.step (host half a) a) (start a garbage rtmpUrlPrefix result)
      (earlier ++ events)
    ∃ later streams, Interleaves streams later
      ∧ (∀ x, after.fleet.messages half x = before.fleet.messages half x ++ streams x)
      ∧ after.net.push.taken d ++ after.net.coming half d
        = before.net.push.taken d ++ before.net.coming half d
          ++ later.filterMap (RtmpWorker.videoOf d) := by
  intro before after
  obtain ⟨hearlier, hevents⟩ := Runs.along_append.mp h
  obtain ⟨hsees, ⟨hlinked, hstreaming⟩, htyped⟩ :=
    streaming_run_cars half a garbage rtmpUrlPrefix result hearlier
  -- with the cars' events flattened to calls of the service, it is a run of the network
  obtain ⟨hnet, halong⟩ := Traffic.net_run hsees hevents
  rw [Runs.run_append, hnet] at halive hwanted
  have hflat : Runs.Along (WebNetwork.step half a) (Calm half a d) before.net
      (Traffic.flat (host half a) a before events) :=
    Traffic.calm_flat (H := host half a)
      (I := fun n : WebNetwork => (n.push.worker.getRtmpClient d).isSome = true)
      (fun _ _ _ he => he.2) (fun _ _ hn => ⟨hn, rfl, hn⟩) hstream hcalm
  have hfits := Runs.along_iff_forall.mp (halong.imp fun _ _ he => he.2)
  have hstanding : before.net.Standing half s d :=
    ⟨hlinked, hstreaming, hsession, htyped, hstream⟩
  have hrun : after = Runs.run (Traffic.step (host half a) a) before events :=
    Runs.run_append _ _ _
  rw [hrun]
  exact Traffic.sent_of_balances (L := ledger half d) (fun _ => rfl) hsees hevents
    (hstanding.balances (halong.imp fun _ _ he => he.1) hfits hflat halive hwanted)

theorem whole_video_is_pushed_to_one :
    let t := start .libstdcxx 0 [114] (some .connected)
    let before := Runs.run (Traffic.step (host true .libstdcxx) .libstdcxx) t
      (asking.map .network)
    let after := Runs.run (Traffic.step (host true .libstdcxx) .libstdcxx) t
      (asking.map .network ++ picture)
    (after.net.push.taken 1).map Jt1078.Packet.body = [[9]]
      ∧ ∃ later streams, Interleaves streams later
        ∧ (∀ x, after.fleet.messages true x = before.fleet.messages true x ++ streams x)
        ∧ after.net.push.taken 1 ++ after.net.coming true 1
          = before.net.push.taken 1 ++ before.net.coming true 1
            ++ later.filterMap (RtmpWorker.videoOf 1) := by
  intro t before after
  have hsent : after.net.web.sent.length = 1 := by decide +kernel
  have hwanted : ∀ k, 1 ≤ k → Request.requested (after.net.web.sent.take k) 1 = true := by
    intro k hk
    rw [List.take_of_length_le (hsent ▸ hk)]
    decide +kernel
  exact ⟨by decide +kernel, whole_video_is_pushed true .libstdcxx 0 [114] (some .connected)
    (asking.map .network) picture 100 1 (by decide +kernel) (by decide) (by decide)
    (by decide +kernel) ⟨by decide +kernel, by decide +kernel⟩ hwanted⟩

end WebNetwork

end MultiProcessServer
