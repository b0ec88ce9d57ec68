/-
  MultiProcessServer.PcServer.Upstream
  ────────────────────────────────────
  **WHAT `jt1078_server` THINKS `pc_server` WANTS.**

  `up` replays the requests sent on the current connection.  Requests are sent
  for the first viewer of a device, for the last one that leaves, for a
  change of device, and for every watched device after a reconnect; all of
  them look at channels that `Publish` changes on its own.  `Informed` says
  what a request has to do to `up`, and both kinds of request do it.
-/
import MultiProcessServer.PcServer.Watching

namespace MultiProcessServer.PcServer

open Ipc (IPC_PKT_TYPE_SUBSCRIBE_DEVICE_ID IPC_PKT_TYPE_UNSUBSCRIBE_DEVICE_ID
  IPC_PKT_FROM_PC_SERVER IPC_PKT_TYPE_HEARTBEAT)

variable {p q : PcServer} {pc s d : UInt64}

/-! ## §1. The requests of the current connection. -/

/-- The device is subscribed on the current connection. -/
def up (p : PcServer) (deviceId : UInt64) : Bool :=
  match p.client with
  | none => false
  | some c => c.isConnected && Request.requested c.sent deviceId

theorem up_of_not_connected (hup : p.isConnected = false) : p.up d = false := by
  unfold isConnected at hup
  unfold up
  split
  next => rfl
  next c hc => simp [hc ▸ hup]

theorem up_eq_requested {c : Jt1078Client} (hc : p.client = some c)
    (hup : c.isConnected = true) : p.up d = Request.requested c.sent d := by
  unfold up
  rw [hc]
  simp [hup]

theorem up_congr (h : q.client = p.client) : q.up d = p.up d := by
  rw [up, up, h]

theorem isConnected_congr (h : q.client = p.client) : q.isConnected = p.isConnected := by
  rw [isConnected, isConnected, h]

@[simp] theorem isConnected_clientSendPacket (mask : UInt32) (data : List UInt8) :
    (p.clientSendPacket mask data).isConnected = p.isConnected := by
  unfold clientSendPacket
  split
  next hc => rw [isConnected, isConnected, hc]
  next c hc => rw [isConnected, isConnected, hc]; rfl

theorem clientIsConnected_of_connected (hup : p.isConnected = true) :
    p.clientIsConnected = (true, p) := by
  unfold isConnected at hup
  unfold clientIsConnected
  split at hup
  next => cases hup
  next c hc => rw [hup]

theorem clientIsConnected_of_not_connected (hup : p.isConnected = false) :
    p.clientIsConnected.1 = false ∧ p.clientIsConnected.2.client = p.client := by
  unfold isConnected at hup
  unfold clientIsConnected
  split at hup
  next hc => exact ⟨rfl, rfl⟩
  next c hc => exact ⟨hup, rfl⟩

/-- On a live connection the client sends. -/
theorem clientSendPacket_of_connected (hup : p.isConnected = true) :
    ∃ c, p.client = some c ∧ c.isConnected = true
      ∧ ∀ mask data, (p.clientSendPacket mask data).client = some (c.sendPacket mask data) := by
  cases hc : p.client with
  | none => simp [isConnected, hc] at hup
  | some c => exact ⟨c, rfl, by rwa [isConnected, hc] at hup, fun _ _ => by
      rw [clientSendPacket, hc]⟩

theorem up_send_subscribe (hup : p.isConnected = true) (data : List UInt8) :
    (p.clientSendPacket (IPC_PKT_TYPE_SUBSCRIBE_DEVICE_ID ||| IPC_PKT_FROM_PC_SERVER) data).up d
        = true
      ↔ d = generateDeviceId data ∨ p.up d = true := by
  obtain ⟨c, hc, hcup, hsend⟩ := clientSendPacket_of_connected hup
  rw [up_eq_requested (hsend _ data) hcup, up_eq_requested hc hcup]
  exact Jt1078Client.requested_send_subscribe hcup (by decide) data

theorem up_send_unsubscribe (hup : p.isConnected = true) (data : List UInt8) :
    (p.clientSendPacket (IPC_PKT_TYPE_UNSUBSCRIBE_DEVICE_ID ||| IPC_PKT_FROM_PC_SERVER) data).up d
        = true
      ↔ d ≠ generateDeviceId data ∧ p.up d = true := by
  obtain ⟨c, hc, hcup, hsend⟩ := clientSendPacket_of_connected hup
  rw [up_eq_requested (hsend _ data) hcup, up_eq_requested hc hcup]
  exact Jt1078Client.requested_send_unsubscribe hcup (by decide) data

theorem up_send_heartbeat (hup : p.isConnected = true) (data : List UInt8) :
    (p.clientSendPacket (IPC_PKT_TYPE_HEARTBEAT ||| IPC_PKT_FROM_PC_SERVER) data).up d
      = p.up d := by
  obtain ⟨c, hc, hcup, hsend⟩ := clientSendPacket_of_connected hup
  rw [up_eq_requested (hsend _ data) hcup, up_eq_requested hc hcup]
  exact Jt1078Client.requested_send_heartbeat hcup (by decide) data

/-! ## §2. Requests of the viewers. -/

/-- Nobody but the session watches the device. -/
def Alone (p : PcServer) (pc deviceId : UInt64) : Prop := ∀ s, p.Subscribed s deviceId → s = pc

/-- A device is found empty when the only one that watched it has left. -/
theorem isEmptySubscriber_without :
    (p.pcPublisher.delSubscriber d pc).isEmptySubscriber d = true ↔ p.Alone pc d := by
  rw [PcPublisher.isEmptySubscriber_iff]
  simp only [PcPublisher.subscribed_delSubscriber, and_true, not_and, Alone, Subscribed]
  exact ⟨fun h s hsub => by_contra fun hne => h s hne hsub, fun h s hne hsub => hne (h s hsub)⟩

/-- What a request has to do to `up`: forget a device that nobody watches any
more, and ask for the new one unless somebody watches it already. -/
structure Informed (p : PcServer) (pc : UInt64) (strDeviceId : List UInt8) (q : PcServer) :
    Prop where
  isConnected : q.isConnected = p.isConnected
  added : ∀ d, q.up d = true →
    p.up d = true ∨ (strDeviceId ≠ [] ∧ generateDeviceId strDeviceId = d)
  dropped : ∀ d, q.up d = true → p.Names pc d →
    ¬(strDeviceId ≠ [] ∧ generateDeviceId strDeviceId = d) → ¬p.Alone pc d
  kept : ∀ s d, p.up d = true → q.Subscribed s d → q.up d = true
  asked : ∀ d, strDeviceId ≠ [] → generateDeviceId strDeviceId = d → p.Alone pc d →
    q.up d = true

theorem up_tryUnsubscriber (hup : p.isConnected = true) (strNewDeviceId : List UInt8) :
    (p.tryUnsubscriberOldDeviceId pc strNewDeviceId).isConnected = true
      ∧ ∀ d, (p.tryUnsubscriberOldDeviceId pc strNewDeviceId).up d = true
        ↔ p.up d = true ∧ ¬(p.Switches pc strNewDeviceId
            ∧ d = generateDeviceId (p.getDeviceId pc) ∧ p.Alone pc d) := by
  -- a session that names another device leaves the one it named
  by_cases hsw : p.Switches pc strNewDeviceId
  · have hif : (!(p.getDeviceId pc).isEmpty && p.getDeviceId pc != strNewDeviceId) = true := by
      simpa [Switches] using hsw
    have hup' : (p.without pc (generateDeviceId (p.getDeviceId pc))).isConnected = true := hup
    have hci := clientIsConnected_of_connected hup'
    unfold without at hup' hci
    simp only [tryUnsubscriberOldDeviceId, hif, if_true, hci, Bool.true_and]
    split
    next hempty =>
        -- it was the last one there: the device is given back
        rw [isEmptySubscriber_without] at hempty
        refine ⟨(isConnected_clientSendPacket _ _).trans hup, ?_⟩
        intro d
        rw [up_send_unsubscribe hup', up_congr (rfl : _ = p.client), and_comm]
        refine and_congr_right fun _ => ?_
        constructor
        · exact fun hne hleft => hne hleft.2.1
        · intro hnot heq
          subst heq
          exact hnot ⟨hsw, rfl, hempty⟩
    next hempty =>
        rw [isEmptySubscriber_without] at hempty
        refine ⟨hup, ?_⟩
        intro d
        rw [up_congr (rfl : _ = p.client)]
        refine (and_iff_left ?_).symm
        intro hleft
        obtain ⟨-, rfl, halone⟩ := hleft
        exact hempty halone
  · rw [tryUnsubscriber_of_not_switches hsw]
    exact ⟨hup, fun d => by simp [hsw]⟩

/-- The session is the first in the channel it joins. -/
def First (p : PcServer) (pc : UInt64) (strDeviceId : List UInt8) : Prop :=
  ((p.tryUnsubscriberOldDeviceId pc strDeviceId).pcPublisher.addSubscriber
    (generateDeviceId strDeviceId) pc).sizeSubscriber (generateDeviceId strDeviceId) = 1

theorem first_of_alone (h : p.Watching) {strDeviceId : List UInt8}
    (halone : p.Alone pc (generateDeviceId strDeviceId)) : p.First pc strDeviceId := by
  by_contra hsize
  have hpc : ((p.tryUnsubscriberOldDeviceId pc strDeviceId).pcPublisher.addSubscriber
      (generateDeviceId strDeviceId) pc).Subscribed pc (generateDeviceId strDeviceId) :=
    PcPublisher.subscribed_addSubscriber.mpr (Or.inl ⟨rfl, rfl⟩)
  obtain ⟨t, hne, hsub⟩ := PcPublisher.exists_other_of_sizeSubscriber_ne_one hsize hpc
  -- another member would have been there before
  rcases PcPublisher.subscribed_addSubscriber.mp hsub with heq | hsub
  · exact hne heq.1
  · exact hne (halone t ((subscribed_tryUnsubscriber h).mp hsub).1)

theorem up_subscribeDeviceId (hup : p.isConnected = true) (strDeviceId : List UInt8) :
    (p.subscribeDeviceId pc strDeviceId).isConnected = true
      ∧ ∀ d, (p.subscribeDeviceId pc strDeviceId).up d = true
        ↔ (strDeviceId ≠ [] ∧ generateDeviceId strDeviceId = d ∧ p.First pc strDeviceId)
          ∨ (p.tryUnsubscriberOldDeviceId pc strDeviceId).up d = true := by
  obtain ⟨hup', -⟩ := @up_tryUnsubscriber p pc hup strDeviceId
  by_cases hnil : strDeviceId = []
  · subst hnil
    rw [subscribeDeviceId_nil]
    exact ⟨hup', fun d => ⟨Or.inr, fun hd => hd.resolve_left fun hfirst => hfirst.1 rfl⟩⟩
  · have hif : (!strDeviceId.isEmpty) = true := by simpa using hnil
    have hjoin : (((p.tryUnsubscriberOldDeviceId pc strDeviceId).updatePc pc
        (·.setDeviceId strDeviceId)).within pc (generateDeviceId strDeviceId)).isConnected
        = true := hup'
    unfold within at hjoin
    simp only [subscribeDeviceId, hif, if_true, beq_iff_eq]
    split
    next hsize =>
        refine ⟨(isConnected_clientSendPacket _ _).trans hup', ?_⟩
        intro d
        apply (up_send_subscribe hjoin strDeviceId).trans
        rw [up_congr (rfl : _ = (p.tryUnsubscriberOldDeviceId pc strDeviceId).client)]
        apply or_congr_left
        exact ⟨fun hd => ⟨hnil, hd.symm, hsize⟩, fun hd => hd.2.1.symm⟩
    next hsize =>
        refine ⟨hup', ?_⟩
        intro d
        rw [up_congr (rfl : _ = (p.tryUnsubscriberOldDeviceId pc strDeviceId).client)]
        exact ⟨Or.inr, fun hd => hd.resolve_left fun hfirst => hsize hfirst.2.2⟩

theorem informed_subscribeDeviceId (h : p.Watching) (hup : p.isConnected = true)
    (strDeviceId : List UInt8) :
    Informed p pc strDeviceId (p.subscribeDeviceId pc strDeviceId) := by
  obtain ⟨-, htry⟩ := @up_tryUnsubscriber p pc hup strDeviceId
  obtain ⟨hup', hq⟩ := @up_subscribeDeviceId p pc hup strDeviceId
  refine ⟨hup'.trans hup.symm, ?_, ?_, ?_, ?_⟩
  · intro d hd
    rcases (hq d).mp hd with ⟨hne, heq, -⟩ | hd
    · exact Or.inr ⟨hne, heq⟩
    · exact Or.inl ((htry d).mp hd).1
  · -- the session leaves the device it named
    intro d hd hnames hother
    have hsw : p.Switches pc strDeviceId :=
      ⟨hnames.1, fun heq => hother (heq ▸ hnames)⟩
    rcases (hq d).mp hd with ⟨hne, heq, -⟩ | hd
    · exact absurd ⟨hne, heq⟩ hother
    · exact fun halone => ((htry d).mp hd).2 ⟨hsw, hnames.2.symm, halone⟩
  · -- a device that is still watched was not forgotten, or is asked for again
    intro s d hd hsub
    rw [hq, htry]
    rw [subscribed_subscribeDeviceId h] at hsub
    by_cases hleft : p.Switches pc strDeviceId ∧ d = generateDeviceId (p.getDeviceId pc)
        ∧ p.Alone pc d
    · left
      split at hsub
      next => exact ⟨hsub.1, hsub.2, first_of_alone h (hsub.2 ▸ hleft.2.2)⟩
      next hne => exact absurd (hleft.2.2 s hsub) hne
    · exact Or.inr ⟨hd, hleft⟩
  · intro d hne hd halone
    rw [hq]
    exact Or.inl ⟨hne, hd, first_of_alone h (hd ▸ halone)⟩

theorem up_unSubscribeDeviceId :
    (p.unSubscribeDeviceId pc).isConnected = p.isConnected
      ∧ ∀ d, (p.unSubscribeDeviceId pc).up d = true
        ↔ p.up d = true ∧ ¬(p.Names pc d ∧ p.Alone pc d) := by
  by_cases hnil : p.getDeviceId pc = []
  · rw [unSubscribeDeviceId_of_nil hnil]
    exact ⟨rfl, fun d => (and_iff_left fun hleft => hleft.1.1 hnil).symm⟩
  · have hif : (!(p.getDeviceId pc).isEmpty) = true := by simpa using hnil
    simp only [unSubscribeDeviceId, hif, if_true]
    split
    next hempty =>
        rw [isEmptySubscriber_without] at hempty
        -- without a connection nothing is sent, and nothing was subscribed
        cases hup : p.isConnected with
        | false =>
            have hup' : (p.without pc (generateDeviceId (p.getDeviceId pc))).isConnected = false :=
              hup
            obtain ⟨hfst, hclient⟩ := clientIsConnected_of_not_connected hup'
            unfold without at hup' hfst hclient
            simp only [hfst, Bool.false_eq_true, if_false]
            have hdown := (isConnected_congr hclient).trans hup'
            refine ⟨hdown, ?_⟩
            intro d
            rw [up_of_not_connected hup]
            refine iff_of_false (fun hd => ?_) fun hd => Bool.false_ne_true hd.1
            exact Bool.false_ne_true ((up_of_not_connected hdown).symm.trans hd)
        | true =>
            have hup' : (p.without pc (generateDeviceId (p.getDeviceId pc))).isConnected = true :=
              hup
            have hci := clientIsConnected_of_connected hup'
            unfold without at hup' hci
            simp only [hci, if_true]
            refine ⟨(isConnected_clientSendPacket _ _).trans hup', ?_⟩
            intro d
            apply (up_send_unsubscribe hup' _).trans
            rw [up_congr (rfl : _ = p.client), and_comm]
            refine and_congr_right fun _ => ?_
            constructor
            · exact fun hne hleft => hne hleft.1.2.symm
            · intro hnot heq
              subst heq
              exact hnot ⟨⟨hnil, rfl⟩, hempty⟩
    next hempty =>
        rw [isEmptySubscriber_without] at hempty
        refine ⟨rfl, fun d => (and_iff_left ?_).symm⟩
        intro hleft
        obtain ⟨⟨-, rfl⟩, halone⟩ := hleft
        exact hempty halone

theorem informed_unSubscribeDeviceId (h : p.Watching) :
    Informed p pc [] (p.unSubscribeDeviceId pc) := by
  obtain ⟨hup, hq⟩ := @up_unSubscribeDeviceId p pc
  refine ⟨hup, fun d hd => Or.inl ((hq d).mp hd).1, ?_, ?_, fun d hne => absurd rfl hne⟩
  · intro d hd hnames _ halone
    exact ((hq d).mp hd).2 ⟨hnames, halone⟩
  · intro s d hd hsub
    obtain ⟨hne, hsub⟩ := (subscribed_unSubscribeDeviceId h).mp hsub
    exact (hq d).mpr ⟨hd, fun hleft => hne (hleft.2 s hsub)⟩

/-! ## §3. The other handlers. -/

theorem isConnected_onClientConnect : (p.onClientConnect true).isConnected = p.isConnected := by
  have hloop : ∀ (result : List UInt64) (q : PcServer),
      (result.foldl (fun p deviceId =>
        p.clientSendPacket (IPC_PKT_TYPE_SUBSCRIBE_DEVICE_ID ||| IPC_PKT_FROM_PC_SERVER)
          (generateDeviceIdStrByDeviceId p.garbage deviceId)) q).isConnected = q.isConnected := by
    intro result
    induction result with
    | nil => exact fun q => rfl
    | cons deviceId result ih => exact fun q => (ih _).trans (isConnected_clientSendPacket _ _)
  exact hloop (p.pcPublisher.getAllDeviceId true) p

/-- A connection that is closed again is none. -/
theorem isConnected_clientCleared : (p.step .clientCleared).isConnected = false := by
  show (onClientConnect { p with client := p.client.map Jt1078Client.onCleared } true).isConnected
    = false
  rw [isConnected_onClientConnect]
  unfold isConnected
  cases p.client <;> rfl

/-- **A connection starts with the watched devices**: they, and no others, are
subscribed after `OnClientConnect(true)`. -/
theorem up_onClientConnect (hup : p.isConnected = true) (hnothing : ∀ d, p.up d = false)
    (hsmall : ∀ s d, p.Subscribed s d → d.toNat < 2 ^ 56) :
    (p.onClientConnect true).up d = true ↔ ∃ s, p.Subscribed s d := by
  -- each id of the list is subscribed, and its text is read back as the id
  have hloop : ∀ (result : List UInt64) (q : PcServer), q.isConnected = true →
      (∀ deviceId ∈ result, deviceId.toNat < 2 ^ 56) →
      ((result.foldl (fun p deviceId =>
        p.clientSendPacket (IPC_PKT_TYPE_SUBSCRIBE_DEVICE_ID ||| IPC_PKT_FROM_PC_SERVER)
          (generateDeviceIdStrByDeviceId p.garbage deviceId)) q).up d = true
        ↔ d ∈ result ∨ q.up d = true) := by
    intro result
    induction result with
    | nil => exact fun q _ _ => by simp
    | cons deviceId result ih =>
        intro q hq hlt
        refine (ih _ ((isConnected_clientSendPacket _ _).trans hq)
          fun x hx => hlt x (List.mem_cons_of_mem _ hx)).trans ?_
        rw [up_send_subscribe hq, generateDeviceId_generateDeviceIdStr _
          (hlt deviceId List.mem_cons_self), List.mem_cons, ← or_assoc, @or_comm (d ∈ result)]
  have hdevices : ∀ deviceId ∈ p.pcPublisher.getAllDeviceId true, deviceId.toNat < 2 ^ 56 :=
    fun deviceId hmem => by
      obtain ⟨s, hsub⟩ := PcPublisher.mem_getAllDeviceId.mp hmem
      exact hsmall s deviceId hsub
  apply (hloop (p.pcPublisher.getAllDeviceId true) p hup hdevices).trans
  rw [hnothing, PcPublisher.mem_getAllDeviceId]
  simp [Subscribed]

/-! ## §4. The invariant. -/

structure Synced (p : PcServer) : Prop where
  small : ∀ s d, p.Subscribed s d → d.toNat < 2 ^ 56
  covered : p.isConnected = true → ∀ s d, p.Subscribed s d → p.up d = true
  wanted : ∀ d, p.up d = true → ∃ s ∈ p.pcManager, p.Names s d

theorem Synced.of_not_connected (hup : p.isConnected = false)
    (hsmall : ∀ s d, p.Subscribed s d → d.toNat < 2 ^ 56) : p.Synced where
  small := hsmall
  covered h := absurd (hup.symm.trans h) Bool.false_ne_true
  wanted _ h := absurd ((up_of_not_connected hup).symm.trans h) Bool.false_ne_true

/-- The connect handler sets `up` right. -/
theorem synced_onClientConnect (h : p.Inv) (hup : p.isConnected = true)
    (hnothing : ∀ d, p.up d = false) (hsmall : ∀ s d, p.Subscribed s d → d.toNat < 2 ^ 56) :
    (p.onClientConnect true).Synced := by
  have hq := @quiet_onClientConnect p true
  have hiff : ∀ d, (p.onClientConnect true).up d = true ↔ ∃ s, p.Subscribed s d :=
    fun d => up_onClientConnect hup hnothing hsmall
  refine ⟨fun s d hsub => hsmall s d (hq.subscribed.mp hsub),
    fun _ s d hsub => (hiff d).mpr ⟨s, hq.subscribed.mp hsub⟩, ?_⟩
  intro d hd
  obtain ⟨s, hsub⟩ := (hiff d).mp hd
  refine ⟨s, hq.pcManager ▸ h.registered s d hsub, ?_⟩
  unfold Names
  rw [hq.getDeviceId]
  exact h.watching s d hsub

/-- **A request keeps `up` right.** -/
theorem Synced.granted (hs : p.Synced) (h : p.Inv) {strDeviceId : List UInt8}
    (hpc : pc ∈ p.pcManager) (hq : Granted p pc strDeviceId q)
    (hi : Informed p pc strDeviceId q)
    (hsmall : strDeviceId ≠ [] → (generateDeviceId strDeviceId).toNat < 2 ^ 56) : q.Synced := by
  have hnames : ∀ s d, s ≠ pc → p.Names s d → q.Names s d := by
    intro s d hne hname
    unfold Names
    rw [hq.getDeviceId, if_neg hne]
    exact hname
  refine ⟨?_, ?_, ?_⟩
  · intro s d hsub
    rw [hq.subscribed] at hsub
    split at hsub
    next => exact hsub.2 ▸ hsmall hsub.1
    next => exact hs.small s d hsub
  · intro hup s d hsub
    rw [hi.isConnected] at hup
    by_cases halone : p.Alone pc d
    · -- the only possible watcher is the session itself: it has just asked
      have hpc' := (hq.subscribed s d).mp hsub
      split at hpc'
      next => exact hi.asked d hpc'.1 hpc'.2 halone
      next hne => exact absurd (halone s hpc') hne
    · simp only [Alone, not_forall] at halone
      obtain ⟨t, hsub', -⟩ := halone
      exact hi.kept s d (hs.covered hup t d hsub') hsub
  · intro d hd
    rw [hq.pcManager]
    by_cases hasked : strDeviceId ≠ [] ∧ generateDeviceId strDeviceId = d
    · refine ⟨pc, hpc, ?_⟩
      unfold Names
      rw [hq.getDeviceId, if_pos rfl]
      exact hasked
    · obtain ⟨s, hmem, hname⟩ := hs.wanted d ((hi.added d hd).resolve_right hasked)
      by_cases hspc : s = pc
      · -- the session named the device and left it: somebody else watches it
        subst hspc
        have hother := hi.dropped d hd hname hasked
        simp only [Alone, not_forall] at hother
        obtain ⟨t, hsub, hne⟩ := hother
        exact ⟨t, h.registered t d hsub, hnames t d hne (h.watching t d hsub)⟩
      · exact ⟨s, hmem, hnames s d hspc hname⟩

/-- Requests for devices whose id fits into 14 digits. -/
def Event.small : Event → Bool
  | .packetCompleted _ packet =>
      (asks packet).all fun strDeviceId => (generateDeviceId strDeviceId).toNat < 2 ^ 56
  | _ => true

/-- Steps that change neither the client, nor who watches what, nor who names
what. -/
theorem Synced.congr (hs : p.Synced) (hclient : q.client = p.client)
    (hsub : ∀ s d, q.Subscribed s d → p.Subscribed s d)
    (hname : ∀ s d, s ∈ p.pcManager → p.Names s d → s ∈ q.pcManager ∧ q.Names s d) :
    q.Synced where
  small s d h := hs.small s d (hsub s d h)
  covered hup s d h := by
    rw [up_congr hclient]
    exact hs.covered ((isConnected_congr hclient).symm.trans hup) s d (hsub s d h)
  wanted d h := by
    rw [up_congr hclient] at h
    obtain ⟨s, hmem, hname'⟩ := hs.wanted d h
    exact ⟨s, hname s d hmem hname'⟩

theorem Synced.packetCompleted (hs : p.Synced) (h : p.Inv) (packet : Ipc.Packet)
    (he : p.Enabled (.packetCompleted pc packet))
    (hsmall : (Event.packetCompleted pc packet).small = true) :
    (p.step (.packetCompleted pc packet)).Synced := by
  rw [step_packetCompleted h.watching]
  rcases onPacketCompleted_cases (p := p) pc packet with heq | ⟨strDeviceId, hup, hasks⟩
  · rwa [heq]
  · have hq := @granted_onPacketCompleted p pc h.watching hup packet strDeviceId hasks
    have hlt : (generateDeviceId strDeviceId).toNat < 2 ^ 56 := by
      simpa [Event.small, hasks] using hsmall
    refine hs.granted h ((h.managed pc).mpr he.1) hq ?_ fun _ => hlt
    -- the two kinds of requests inform the upstream in the same way
    rcases @onPacketCompleted_of_asks p pc hup packet strDeviceId hasks with heq | ⟨rfl, heq⟩
    · rw [heq]
      exact informed_subscribeDeviceId h.watching hup strDeviceId
    · rw [heq]
      exact informed_unSubscribeDeviceId h.watching

theorem Synced.packetError (hs : p.Synced) (h : p.Inv)
    (he : p.Enabled (.packetError pc)) : (p.step (.packetError pc)).Synced := by
  have hq := @granted_unSubscribeDeviceId p pc h.watching
  have hsynced : (p.unSubscribeDeviceId pc).Synced :=
    hs.granted h ((h.managed pc).mpr he.1) hq (informed_unSubscribeDeviceId h.watching)
      fun hne => absurd rfl hne
  refine hsynced.congr rfl (fun _ _ hsub => hsub) fun s d hmem hname => ⟨?_, hname⟩
  -- the session that goes names nothing
  have hne : pc ≠ s := fun heq => hname.1 (by rw [hq.getDeviceId, if_pos heq.symm])
  show s ∈ (p.unSubscribeDeviceId pc).pcManager.erase pc
  rw [Std.TreeSet.mem_erase, ne_eq, Std.LawfulEqOrd.compare_eq_iff_eq]
  exact ⟨hne, hmem⟩

/-- `Publish` drops viewers and sends nothing upstream. -/
theorem Synced.clientMessage (hs : p.Synced) (packet : Ipc.Packet) (behind : List UInt8) :
    (p.step (.clientMessage packet behind)).Synced := by
  have hsame : ∀ s, (p.step (.clientMessage packet behind)).getDeviceId s = p.getDeviceId s :=
    fun s => by
    show ((p.onClientMessage packet behind).sessions s).getDeviceId = _
    unfold onClientMessage
    split
    · exact PcPublisher.getDeviceId_publish
    · rfl
  have hclient : (p.onClientMessage packet behind).client = p.client
      ∧ (p.onClientMessage packet behind).pcManager = p.pcManager := by
    unfold onClientMessage
    split <;> exact ⟨rfl, rfl⟩
  refine hs.congr hclient.1 (fun s d hsub => ?_) fun s d hmem hname => ⟨?_, ?_⟩
  · have hsub' : (p.onClientMessage packet behind).Subscribed s d := hsub
    unfold onClientMessage at hsub'
    split at hsub'
    · exact (PcPublisher.subscribed_publish.mp hsub').1
    · exact hsub'
  · exact hclient.2 ▸ hmem
  · unfold Names
    rw [hsame]
    exact hname

theorem Synced.newConnection (hs : p.Synced) (h : p.Inv) (socket : List SockResult)
    (init : Bool) (he : p.Enabled (.newConnection pc socket init)) :
    (p.step (.newConnection pc socket init)).Synced := by
  cases init with
  | false => exact hs.congr rfl (fun _ _ hsub => hsub) fun _ _ hmem hname => ⟨hmem, hname⟩
  | true =>
      refine hs.congr rfl (fun _ _ hsub => hsub) fun s d hmem hname => ?_
      have hne : s ≠ pc := by
        intro heq
        subst heq
        exact he.1 (h.grounded s ((h.managed s).mp hmem))
      have hsame : (p.step (.newConnection pc socket true)).getDeviceId s = p.getDeviceId s :=
        congrArg PcSession.getDeviceId (Function.update_of_ne hne _ _)
      refine ⟨Std.TreeSet.mem_insert.mpr (Or.inr hmem), ?_⟩
      unfold Names
      rw [hsame]
      exact hname

/-- The end of a connection attempt. -/
theorem Synced.clientConnect (hs : p.Synced) (h : p.Inv) (bOk : Bool)
    (he : p.Enabled (.clientConnect bOk)) : (p.step (.clientConnect bOk)).Synced := by
  cases bOk with
  | false => exact .of_not_connected rfl hs.small
  | true =>
      cases hc : p.client with
      | none => simp [Enabled, raises, hc] at he
      | some c =>
          have hconnecting : c.connecting = true := by simpa [raises, hc] using he.2
          have hq : Quiet p { p with client := some (c.onConnected true) } :=
            ⟨rfl, rfl, rfl, rfl, rfl, rfl⟩
          have hnothing : ∀ d, ({ p with client := some (c.onConnected true) } : PcServer).up d
              = false := by
            intro d
            rw [up_eq_requested rfl rfl]
            show Request.requested c.sent d = false
            rw [(c.pending hconnecting).2]
            rfl
          have hstep : p.step (.clientConnect true)
              = onClientConnect { p with client := some (c.onConnected true) } true := by
            have hhandle : p.handle (.clientConnect true)
                = onClientConnect { p with client := some (c.onConnected true) } true := by
              rw [handle, hc]
              rfl
            rw [← hhandle]
            exact step_eq_handle (by rw [hhandle]; exact (quiet_onClientConnect true).roster)
          rw [hstep]
          exact synced_onClientConnect (h.quiet hq) rfl hnothing hs.small

/-- A new attempt starts from nothing. -/
theorem synced_asyncConnectServer (h : p.Inv)
    (hsmall : ∀ s d, p.Subscribed s d → d.toNat < 2 ^ 56) (result : Option ConnectResult) :
    (p.asyncConnectServer result).2.Synced := by
  cases result with
  | none => exact .of_not_connected rfl hsmall
  | some result =>
      cases result with
      | failed => exact .of_not_connected rfl hsmall
      | pending => exact .of_not_connected rfl hsmall
      | connected =>
          have hq : Quiet p { p with client := some (Jt1078Client.new.onConnected true) } :=
            ⟨rfl, rfl, rfl, rfl, rfl, rfl⟩
          exact synced_onClientConnect (h.quiet hq) rfl (fun _ => rfl) hsmall
      | cleared =>
          have hq := @quiet_onClientConnect
            { p with client := some Jt1078Client.new.onCleared } true
          exact .of_not_connected isConnected_onClientConnect fun s d hsub =>
            hsmall s d (hq.subscribed.mp hsub)
      | refused => exact .of_not_connected rfl hsmall

theorem Synced.heartbeat (hs : p.Synced) : p.onHeartbeatTimer.Synced := by
  unfold onHeartbeatTimer
  cases hup : p.isConnected with
  | false =>
      rw [if_neg Bool.false_ne_true]
      exact hs.congr rfl (fun _ _ hsub => hsub) fun _ _ hmem hname => ⟨hmem, hname⟩
  | true =>
      have hq := @quiet_clientSendPacket p (IPC_PKT_TYPE_HEARTBEAT ||| IPC_PKT_FROM_PC_SERVER) []
      have hsent :
          (p.clientSendPacket (IPC_PKT_TYPE_HEARTBEAT ||| IPC_PKT_FROM_PC_SERVER) []).Synced := by
        refine ⟨fun s d hsub => hs.small s d (hq.subscribed.mp hsub), ?_, ?_⟩
        · intro _ s d hsub
          exact (up_send_heartbeat hup []).trans (hs.covered hup s d (hq.subscribed.mp hsub))
        · intro d hd
          obtain ⟨s, hmem, hname⟩ := hs.wanted d ((up_send_heartbeat hup []).symm.trans hd)
          refine ⟨s, hq.pcManager ▸ hmem, ?_⟩
          unfold Names
          rw [hq.getDeviceId]
          exact hname
      rw [if_pos rfl]
      exact hsent.congr rfl (fun _ _ hsub => hsub) fun _ _ hmem hname => ⟨hmem, hname⟩

/-- The roster is no part of what is kept in step with `jt1078_server`. -/
theorem Synced.withRoster (hs : p.Synced) (roster : Roster UInt64) :
    ({ p with roster } : PcServer).Synced :=
  hs.congr rfl (fun _ _ hsub => hsub) fun _ _ hmem hname => ⟨hmem, hname⟩

/-- **Every handler keeps `up` right.** -/
theorem Synced.step (hs : p.Synced) (h : p.Inv) (e : Event) (he : p.Enabled e)
    (hsmall : e.small = true) : (p.step e).Synced := by
  cases e with
  | newConnection pc socket init => exact hs.newConnection h socket init he
  | packetCompleted pc packet => exact hs.packetCompleted h packet he hsmall
  | packetError pc => exact hs.packetError h he
  | clientConnect bOk => exact hs.clientConnect h bOk he
  | clientCleared =>
      refine .of_not_connected isConnected_clientCleared fun s d hsub => ?_
      exact hs.small s d ((quiet_step rfl).subscribed.mp hsub)
  | clientMessage packet behind => exact hs.clientMessage packet behind
  | clientError =>
      refine .of_not_connected rfl fun s d hsub => ?_
      exact hs.small s d ((quiet_step rfl).subscribed.mp hsub)
  | connectTimer result =>
      have hq : Quiet p { p with connectTimer := false } := ⟨rfl, rfl, rfl, rfl, rfl, rfl⟩
      exact (synced_asyncConnectServer (h.quiet hq) hs.small result).withRoster _
  | heartbeatTimer =>
      have hidle : ({ p with heartbeatTimer := false } : PcServer).Synced :=
        hs.congr rfl (fun _ _ hsub => hsub) fun _ _ hmem hname => ⟨hmem, hname⟩
      exact hidle.heartbeat.withRoster _

/-- **`jt1078_server`'s view of the subscriptions stays right across
reconnects.**  In every state of every run whose upstream is connected, every
watched device is subscribed on the current connection, and every device
subscribed on it is named by a session in `PcManager`. -/
theorem upstream_view_is_right (garbage : UInt8) (result : Option ConnectResult)
    (events : List Event) (h : Runs.Along step Enabled (init garbage result).2 events)
    (hsmall : ∀ e ∈ events, e.small = true) :
    let p := Runs.run step (init garbage result).2 events
    p.isConnected = true →
      (∀ d, (∃ s, p.Subscribed s d) → p.up d = true)
        ∧ ∀ d, p.up d = true → ∃ s ∈ p.pcManager, generateDeviceId (p.getDeviceId s) = d := by
  intro p hup
  have hinit : (init garbage result).2.Synced := by
    have hnew : Inv { new garbage with heartbeatTimer := true } :=
      (inv_new garbage).quiet ⟨rfl, rfl, rfl, rfl, rfl, rfl⟩
    refine synced_asyncConnectServer hnew (fun s d hsub => ?_) result
    simp [new, Subscribed, PcPublisher.Subscribed] at hsub
  have hkeep : ∀ (p : PcServer) (e : Event), p.Inv ∧ p.Synced → p.Enabled e ∧ e.small = true →
      (p.step e).Inv ∧ (p.step e).Synced := fun p e hp he =>
    ⟨hp.1.step e he.1, hp.2.step hp.1 e he.1 he.2⟩
  obtain ⟨-, hsynced⟩ : p.Inv ∧ p.Synced :=
    Runs.run_invariant hkeep ⟨inv_init garbage result, hinit⟩ (h.and_forall hsmall)
  constructor
  · intro d hwatched
    obtain ⟨s, hsub⟩ := hwatched
    exact hsynced.covered hup s d hsub
  · intro d hd
    obtain ⟨s, hmem, hname⟩ := hsynced.wanted d hd
    exact ⟨s, hmem, hname.2⟩

/-- A viewer subscribes, the upstream fails, and the next attempt succeeds. -/
theorem upstream_view_is_right_after_reconnect :
    let one : Ipc.Packet := ⟨⟨16, 1, 0, IPC_PKT_TYPE_SUBSCRIBE_DEVICE_ID⟩, [49], rfl⟩
    let p := Runs.run step (init 0 (some .connected)).2
      [.newConnection 7 [] true, .packetCompleted 7 one, .clientError,
        .connectTimer (some .pending), .clientConnect true]
    p.isConnected = true ∧ ∀ d, (∃ s, p.Subscribed s d) → p.up d = true :=
  ⟨by decide, (upstream_view_is_right 0 (some .connected)
    [.newConnection 7 [] true,
      .packetCompleted 7 ⟨⟨16, 1, 0, IPC_PKT_TYPE_SUBSCRIBE_DEVICE_ID⟩, [49], rfl⟩,
      .clientError, .connectTimer (some .pending), .clientConnect true]
    (by decide) (by decide) (by decide)).1⟩

end MultiProcessServer.PcServer
