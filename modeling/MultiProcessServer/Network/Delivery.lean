/-
  MultiProcessServer.Network.Delivery
  ───────────────────────────────────
  **NOTHING IS LOST ON THE WAY**, while the connection holds.

  Main result:

    `nothing_is_lost` :
        while a viewer watches a device, what it was shown of the device and
        what is on the way, together, grow by what is published for it.
-/
import MultiProcessServer.Network.Video
import MultiProcessServer.Network.Way

namespace MultiProcessServer.Network

open Forward StreamParser

variable {half : Bool} {a : StringAlloc} {n : Network} {s v d : UInt64}

/-! ## §1. The ledger. -/

/-- The payloads a viewer was shown for a device. -/
def shownOf (v d : UInt64) (p : PcServer) : List (List UInt8) :=
  ((p.shown v).filter fun call => call.1 == d).map fun call => call.2.data

/-- What is published in the half, and what a viewer was shown of a device or is
on the way. -/
def ledger (half : Bool) (v d : UInt64) : Ledger Network Message (List UInt8) where
  posted n := n.service.publishedOn half
  has n := shownOf v d n.pc ++ Uplink.payloadsOf d (n.onTheWay half)
  worth := Uplink.payloadsOf d
  worth_append := Uplink.payloadsOf_append d

/-- The viewer is at the end of the way. -/
theorem ledger_behind (half : Bool) (v d : UInt64) :
    (ledger half v d).Behind (Uplink.ledger half d) Network.toUplink
      (fun n => shownOf v d n.pc) (List.map Message.payload) where
  posted _ := rfl
  has _ := rfl
  worth _ := rfl
  value_append _ _ := List.map_append

/-- The calls for packets, by their payloads. -/
theorem payloads_of_calls (d : UInt64) {packets : List Ipc.Packet} {messages : List Message}
    (hdata : packets.map Ipc.Packet.data = messages.map Message.payload) :
    ((packets.map fun p => (loadU64 p.data, p)).filter fun call => call.1 == d).map
      (fun call => call.2.data) = Uplink.payloadsOf d messages := by
  have hcalls : ((packets.map fun p => (loadU64 p.data, p)).filter fun call => call.1 == d).map
      (fun call => call.2.data)
      = (packets.map Ipc.Packet.data).filter fun data => loadU64 data == d := by
    rw [List.filter_map, List.filter_map, List.map_map]
    rfl
  rw [hcalls, hdata, List.filter_map, Uplink.payloadsOf]
  refine congrArg _ (List.filter_congr fun m _ => ?_)
  show (loadU64 m.payload == d) = (m.deviceId == d)
  rw [← List.append_nil m.payload, Uplink.loadU64_payload]

/-! ## §2. A viewer that keeps watching. -/

theorem isCanWrite_of_messages (packets : List (Ipc.Packet × UInt8)) (behind : List UInt8) :
    ∀ p : PcServer,
      ((Runs.run PcServer.step p (messages packets behind)).sessions v).isCanWrite = true →
      (p.sessions v).isCanWrite = true := by
  induction packets with
  | nil => exact fun _ hcan => hcan
  | cons packet packets ih =>
      exact fun p hcan => PcServer.isCanWrite_of_clientMessage packet.1 behind (ih _ hcan)

/-- Of messages of the right type, a viewer that watches a device is shown all
that are for it. -/
theorem shownOf_messages (packets : List (Ipc.Packet × UInt8)) (behind : List UInt8)
    (htype : ∀ q ∈ packets, q.1.type = Ipc.IPC_PKT_TYPE_JT1078_PACKET) :
    ∀ p : PcServer, p.Inv → p.Subscribed v d →
      ((Runs.run PcServer.step p (messages packets behind)).sessions v).isCanWrite = true →
      (Runs.run PcServer.step p (messages packets behind)).Subscribed v d
        ∧ shownOf v d (Runs.run PcServer.step p (messages packets behind))
          = shownOf v d p
            ++ ((packets.map fun q => (loadU64 (q.1.data ++ behind), q.1)).filter
              fun call => call.1 == d).map fun call => call.2.data := by
  induction packets with
  | nil => exact fun p _ hsub _ => ⟨hsub, (List.append_nil _).symm⟩
  | cons packet packets ih =>
      intro p hinv hsub hcan
      have hcan' := isCanWrite_of_messages packets behind _ hcan
      have hsub' := PcServer.subscribed_step_stays hinv (e := .clientMessage packet.1 behind)
        (v := v) id hsub hcan'
      obtain ⟨hstays, hlater⟩ := ih (fun q hq => htype q (List.mem_cons_of_mem _ hq)) _
        (hinv.clientMessage packet.1 behind) hsub' hcan
      refine ⟨hstays, hlater.trans ?_⟩
      obtain ⟨now, hshown, hnow, hone⟩ := @PcServer.shown_clientMessage p packet.1 behind v
      rw [List.map_cons, List.filter_cons, shownOf, hshown, List.filter_append, List.map_append,
        List.append_assoc]
      apply congrArg
      by_cases hd : loadU64 (packet.1.data ++ behind) = d
      · -- it is for the device: it is shown
        subst hd
        rw [hone (htype packet List.mem_cons_self) hsub
          (PcServer.isCanWrite_of_clientMessage packet.1 behind hcan')]
        simp
      · have hnone : now.filter (fun call => call.1 == d) = [] := by
          rw [List.filter_eq_nil_iff]
          intro call hcall
          rw [List.mem_singleton.mp (hnow.subset hcall), beq_iff_eq]
          exact hd
        rw [hnone, if_neg (by simpa using hd)]
        rfl

/-! ## §3. Calm events. -/

/-- The event neither gives up the connection nor comes from the viewer. -/
def Calm (v : UInt64) : Event → Prop
  | .pc e => e.dropsClient = false ∧ ¬e.ofSession v
  | _ => True

/-- The connection has its session, and the viewer's was opened. -/
structure Standing (half : Bool) (n : Network) (s v : UInt64) : Prop where
  linked : n.Linked half
  streaming : n.Streaming half
  session : n.session = some s
  used : v ∈ n.pc.roster.used

/-- Neither socket is dead. -/
structure Alive (half : Bool) (n : Network) (s v : UInt64) : Prop where
  up : n.toUplink.Alive half s
  viewer : (n.pc.sessions v).isCanWrite = true

theorem pcStep_of_calm {e : PcServer.Event} (hdrops : e.dropsClient = false) :
    n.pcStep a e = { n with pc := n.pc.step e } := by
  unfold Network.pcStep
  rw [hdrops]
  rfl

/-- **A calm event keeps the connection.** -/
theorem keeps_step (h : n.Standing half s v) {e : Event} (he : n.Enabled half e)
    (hcalm : Calm v e) :
    n.toUplink.Keeps half n.pc.sent n.hasConnection (n.step half a e).toUplink := by
  cases e with
  | pc e =>
      have hstep : n.step half a (.pc e) = { n with pc := n.pc.step e } :=
        pcStep_of_calm hcalm.1
      rw [hstep]
      exact Or.inl (.refl n.toUplink)
  | link e => exact Or.inr ⟨e, he, rfl⟩
  | read size behind =>
      obtain ⟨d, hread, -⟩ :=
        readStep_of_streaming a h.streaming.link h.linked he.2 behind
      have hstep : n.step half a (.read size behind) = n.readStep half a size behind := rfl
      rw [hstep, hread]
      exact Or.inl ⟨rfl, rfl, rfl, rfl⟩

theorem Standing.step (h : n.Standing half s v) {e : Event} (he : n.Enabled half e)
    (hfits : e.fits = true) (hcalm : Calm v e) : (n.step half a e).Standing half s v := by
  refine ⟨h.linked.step e he, h.streaming.step h.linked e he hfits,
    (h.linked.link.keeps h.session (keeps_step h he hcalm)).1, ?_⟩
  obtain ⟨events, halong, hpc, -⟩ := pc_step (a := a) e he
  rw [hpc]
  exact Runs.run_invariant (I := fun p : PcServer => v ∈ p.roster.used)
    (fun _ _ hused _ => Roster.mem_used_next _ hused) h.used halong

/-- **Sockets that are alive were so before.** -/
theorem Alive.of_step (h : n.Standing half s v) {e : Event} (he : n.Enabled half e)
    (hcalm : Calm v e) (halive : (n.step half a e).Alive half s v) : n.Alive half s v := by
  obtain ⟨events, halong, hpc, -⟩ := pc_step (a := a) e he
  have hviewer : (n.pc.sessions v).isCanWrite = true :=
    PcServer.isCanWrite_of_run events h.linked.inv halong h.used (hpc ▸ halive.viewer)
  exact ⟨(h.linked.link.keeps h.session (keeps_step h he hcalm)).2.2 halive.up, hviewer⟩

/-! ## §4. The ledger balances. -/

/-- The viewer watches the device, and every beginning of the requests with
those that have arrived asks for it. -/
structure Following (n : Network) (v d : UInt64) : Prop where
  watching : n.pc.Subscribed v d
  wanted : ∀ k, n.arrived ≤ k → Request.requested (n.pc.sent.take k) d = true

theorem requested_append {sent frames : List Request}
    (hsent : Request.requested sent d = true)
    (hframes : ∀ r ∈ frames, Request.replay d true r = true) :
    Request.requested (sent ++ frames) d = true := by
  induction frames generalizing sent with
  | nil => rwa [List.append_nil]
  | cons r frames ih =>
      rw [List.append_cons]
      refine ih ?_ fun x hx => hframes x (List.mem_cons_of_mem r hx)
      rw [Request.requested_concat, hsent]
      exact hframes r List.mem_cons_self

/-- **One event.** -/
theorem Following.step (hf : n.Following v d) (h : n.Standing half s v) {e : Event}
    (he : n.Enabled half e) (hfits : e.fits = true) (hcalm : Calm v e)
    (hbefore : n.Alive half s v) (halive : (n.step half a e).Alive half s v) :
    (n.step half a e).Following v d ∧ (ledger half v d).Balances n (n.step half a e) := by
  cases e with
  | pc e =>
      have hstep : n.step half a (.pc e) = { n with pc := n.pc.step e } :=
        pcStep_of_calm hcalm.1
      rw [hstep] at halive ⊢
      obtain ⟨frames, hsent, hframes⟩ :=
        PcServer.sent_step h.linked.inv hcalm.1 hf.watching hcalm.2
      refine ⟨⟨PcServer.subscribed_step_stays h.linked.inv hcalm.2 hf.watching halive.viewer, ?_⟩,
        Ledger.balances_of_eq rfl ?_⟩
      · intro k hk
        show Request.requested ((n.pc.step e).sent.take k) d = true
        rw [hsent, List.take_append]
        exact requested_append (hf.wanted k hk) fun r hr => hframes r (List.mem_of_mem_take hr)
      · show shownOf v d (n.pc.step e) ++ _ = _
        rw [shownOf, PcServer.shown_step_other h.linked.inv he.2]
        rfl
  | link e =>
      have harrived : n.arrived ≤ (n.toUplink.step half e).arrived :=
        (h.linked.link.keeps h.session (keeps_step (a := a) h he hcalm)).2.1
      refine ⟨⟨hf.watching, fun k hk => hf.wanted k (harrived.trans hk)⟩,
        (ledger_behind half v d).balances rfl ?_⟩
      exact h.linked.link.balances_step h.streaming.link h.session hbefore.up
        (hf.wanted n.arrived (Nat.le_refl _)) he
  | read size behind =>
      obtain ⟨decoder, hread, -⟩ :=
        readStep_of_streaming a h.streaming.link h.linked he.2 behind
      have hstep : n.step half a (.read size behind)
          = n.handed (n.chunk half size) (n.completed half size).frames decoder behind := hread
      -- what arrives goes from the way to the viewer
      obtain ⟨arrived, hleaves, hdata⟩ :=
        Uplink.ledger_read h.linked.link h.streaming.link he.2 decoder
      rw [hstep] at halive ⊢
      have hclient := client_messages (n.completed half size).frames behind n.pc
      obtain ⟨hstays, hshown⟩ := shownOf_messages (n.completed half size).frames behind
        (fun q hq => Uplink.type_packetsOf
          (Uplink.mem_completed h.streaming.link h.linked.link he.2 hq))
        n.pc h.linked.inv hf.watching halive.viewer
      refine ⟨⟨hstays, fun k hk => ?_⟩, (ledger_behind half v d).moved rfl (hleaves d) ?_⟩
      · show Request.requested ((Runs.run PcServer.step n.pc _).sent.take k) d = true
        rw [PcServer.sent, hclient]
        exact hf.wanted k hk
      · show shownOf v d (Runs.run PcServer.step n.pc _) = _
        rw [hshown, calls_completed h.streaming.link h.linked he.2 behind,
          payloads_of_calls d hdata]
        rfl

/-- **Whole stretches**: from a state in which the viewer watches, whatever
happens calmly. -/
theorem Following.balances (hf : n.Following v d) (h : n.Linked half) (hs : n.Streaming half)
    (hsession : n.session = some s) {events : List Event}
    (hevents : Runs.Along (Network.step half a) (Network.Enabled half) n events)
    (hfits : ∀ e ∈ events, e.fits = true) (hcalm : ∀ e ∈ events, Calm v e)
    (halive : (Runs.run (Network.step half a) n events).Alive half s v) :
    (Runs.run (Network.step half a) n events).Standing half s v
      ∧ (ledger half v d).Balances n (Runs.run (Network.step half a) n events) := by
  have hstanding : n.Standing half s v := by
    refine ⟨h, hs, hsession, ?_⟩
    have hregistered := h.inv.registered v d hf.watching
    exact h.inv.grounded v ((h.inv.managed v).mp hregistered)
  have hstep : ∀ (n : Network) (e : Event), n.Standing half s v →
      n.Enabled half e ∧ (e.fits = true ∧ Calm v e) → (n.step half a e).Standing half s v :=
    fun n e hn he => hn.step he.1 he.2.1 he.2.2
  have hall := hevents.and_forall (R := fun e => e.fits = true ∧ Calm v e)
    fun e he => ⟨hfits e he, hcalm e he⟩
  refine ⟨Runs.run_invariant hstep hstanding hall, ?_⟩
  -- the sockets are known to be alive at the end only
  have hlive := (hall.backwards (B := fun n => n.Alive half s v) hstep
    (fun n e hn he => Alive.of_step hn he.1 he.2.2) hstanding halive).2
  refine Ledger.balances_run (I := fun n => n.Standing half s v ∧ n.Following v d)
    (fun n e hn he => ?_) ⟨hstanding, hf⟩ (hall.and hlive)
  obtain ⟨hfollow, hbalance⟩ := hn.2.step hn.1 he.1.1 he.1.2.1 he.1.2.2 he.2.1 he.2.2
  exact ⟨⟨hstep n e hn.1 he.1, hfollow⟩, hbalance⟩

/-! ## §5. What is on the way arrives. -/

/-- **Reading is all that is missing.** -/
theorem reads_bring_all (a : StringAlloc) (missing : Nat) : ∀ {n : Network},
    n.Standing half s v → ((n.forward half).sessions s).isCanWrite = true →
    ((n.forward half).sessions s).tcp.pendingBufferList = [] → n.pc.isConnected = true →
    (n.wire half).length - n.read ≤ missing →
    ∃ reads : List Event, (∀ e ∈ reads, ∃ size, e = .read size [])
      ∧ Runs.Along (Network.step half a) (Network.Enabled half) n reads
      ∧ (Runs.run (Network.step half a) n reads).onTheWay half = [] := by
  induction missing with
  | zero =>
      intro n h hcan hpending hup hmissing
      exact ⟨[], fun e he => absurd he List.not_mem_nil, trivial,
        Uplink.onTheWay_eq_nil h.streaming.link h.linked.link h.session hcan hpending
          (Nat.sub_eq_zero_iff_le.mp (Nat.le_zero.mp hmissing))⟩
  | succ missing ih =>
      intro n h hcan hpending hup hmissing
      have he : n.Enabled half (.read 1 []) := ⟨hup, by decide⟩
      obtain ⟨decoder, hread, -⟩ := readStep_of_streaming a h.streaming.link h.linked he.2 []
      have hstep : n.step half a (.read 1 [])
          = n.handed (n.chunk half 1) (n.completed half 1).frames decoder [] := hread
      have hclient : (n.step half a (.read 1 [])).pc.client = n.pc.client := by
        rw [hstep]
        exact client_messages _ [] n.pc
      have hchunk : (n.chunk half 1).length = min 1 ((n.wire half).length - n.read) := by
        rw [Uplink.chunk, List.length_take, List.length_drop]
      obtain ⟨reads, hreads, halong, hnothing⟩ := ih (n := n.step half a (.read 1 []))
        (h.step he rfl trivial) (by rw [hstep]; exact hcan) (by rw [hstep]; exact hpending)
        ((PcServer.isConnected_congr hclient).trans hup) (by
          rw [hstep]
          show (n.wire half).length - (n.read + (n.chunk half 1).length) ≤ missing
          omega)
      refine ⟨.read 1 [] :: reads, ?_, ⟨he, halong⟩, hnothing⟩
      intro e hmem
      rcases List.mem_cons.mp hmem with rfl | hmem
      · exact ⟨1, rfl⟩
      · exact hreads e hmem

/-! ## §6. Main result. -/

/-- **Nothing is lost on the way.**  Take any run of the two processes, and in
it a state from which on the connection is not given up and a viewer watches a
device without saying anything, whatever everybody else does; the device was
asked for, and neither socket is dead at the end.  Then what the viewer was
shown of the device and what is on the way at the end are what they were,
followed by what was published for the device since: each message once, in
order.  And once the socket of the session has taken everything, reading is all
that is missing until nothing is on the way. -/
theorem nothing_is_lost (half : Bool) (a : StringAlloc) (garbage : UInt8)
    (result : Option ConnectResult) (earlier events : List Event) (s v d : UInt64)
    (h : Runs.Along (Network.step half a) (Network.Enabled half) (init a garbage result)
      (earlier ++ events))
    (hfits : ∀ e ∈ earlier ++ events, e.fits = true) (hcalm : ∀ e ∈ events, Calm v e)
    (hsession : (Runs.run (Network.step half a) (init a garbage result) earlier).session = some s)
    (hfollow : (Runs.run (Network.step half a) (init a garbage result) earlier).Following v d)
    (halive : (Runs.run (Network.step half a) (init a garbage result)
      (earlier ++ events)).Alive half s v) :
    let before := Runs.run (Network.step half a) (init a garbage result) earlier
    let after := Runs.run (Network.step half a) (init a garbage result) (earlier ++ events)
    (ledger half v d).Balances before after
      ∧ (after.pc.isConnected = true →
          ((after.forward half).sessions s).tcp.pendingBufferList = [] →
          ∃ reads : List Event, (∀ e ∈ reads, ∃ size, e = .read size [])
            ∧ Runs.Along (Network.step half a) (Network.Enabled half) after reads
            ∧ (Runs.run (Network.step half a) after reads).onTheWay half = []) := by
  intro before after
  obtain ⟨hearlier, hevents⟩ := Runs.along_append.mp h
  have hbefore := streaming_run half a garbage result
    (hearlier.and_forall fun e he => hfits e (List.mem_append_left _ he))
  have hfits' : ∀ e ∈ events, e.fits = true := fun e he => hfits e (List.mem_append_right _ he)
  have hrun : after = Runs.run (Network.step half a) before events := Runs.run_append _ _ _
  have halive' : (Runs.run (Network.step half a) before events).Alive half s v := hrun ▸ halive
  obtain ⟨hlast, hbalances⟩ :=
    hfollow.balances hbefore.1 hbefore.2 hsession hevents hfits' hcalm halive'
  rw [hrun]
  exact ⟨hbalances, fun hup hpending =>
    reads_bring_all a _ hlast halive'.up.upstream hpending hup (Nat.le_refl _)⟩

theorem nothing_is_lost_of_one :
    let before := Runs.run (Network.step true .libstdcxx) (init .libstdcxx 0 (some .connected))
      asking
    let after := Runs.run (Network.step true .libstdcxx) (init .libstdcxx 0 (some .connected))
      (asking ++ sending)
    (after.owed true).length = 1 ∧ (ledger true 7 1).Balances before after := by
  have hcalm : ∀ e ∈ sending, Calm 7 e := by
    intro e he
    rcases List.mem_pair.mp he with rfl | rfl <;> trivial
  have hwanted : ∀ k, 1 ≤ k → Request.requested ((Runs.run (Network.step true .libstdcxx)
      (init .libstdcxx 0 (some .connected)) asking).pc.sent.take k) 1 = true := by
    intro k hk
    rw [List.take_of_length_le hk]
    decide
  exact ⟨by decide, (nothing_is_lost true .libstdcxx 0 (some .connected) asking sending 100 7 1
    (by decide) (by decide) hcalm (by decide) ⟨⟨_, rfl, by decide⟩, hwanted⟩
    ⟨⟨by decide, by decide⟩, by decide⟩).1⟩

end MultiProcessServer.Network
