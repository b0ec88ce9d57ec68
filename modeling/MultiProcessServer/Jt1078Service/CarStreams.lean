/-
  MultiProcessServer.Jt1078Service.CarStreams
  ───────────────────────────────────────────
  The bytes of the cars, and what `jt1078_server` publishes of them.

  `CarSession::OnMessage` hands the packets it completes to `Jt1078Server`, one
  by one, and reports the first violation of the format, for which the session
  is dropped.  However the bytes are cut, a connected car has had every packet
  published that it sent whole.

  Main result:

    `cars_are_published` :
        what is published in a half are the packets its cars sent whole, each
        once, those of a connection in their order and under its first
        identity; a car that is connected has sent no violation.
-/
import MultiProcessServer.Jt1078Server.DecoderBounds
import MultiProcessServer.Jt1078Service.Halves
import MultiProcessServer.Lib.Interleaving

namespace MultiProcessServer

open Forward Jt1078 StreamParser

/-- The decoders of the cars, what each connection has brought, and which there
have been. -/
structure Fleet where
  decoder : Bool → UInt64 → Decoder
  bytes : Bool → UInt64 → List UInt8
  used : List (Bool × UInt64)

namespace Fleet

variable (a : StringAlloc) (f : Fleet)

/-! ## §1. The connections of the cars. -/

def new : Fleet where
  decoder _ _ := Decoder.new a
  bytes _ _ := []
  used := []

/-- What happens to `jt1078_server`. -/
inductive Event
  | carConnection (isRealtime : Bool) (sessionId : UInt64) (init : Bool)
  /-- `CarSession::OnMessage`. -/
  | carMessage (isRealtime : Bool) (sessionId : UInt64) (data : List UInt8)
  /-- Anything but connections and packets of cars. -/
  | other (e : Jt1078Service.Event)

/-- The packets of `ParseBuffer` and the error it reports, if it does. -/
def onMessage (isRealtime : Bool) (sessionId : UInt64) (data : List UInt8) :
    List Jt1078Service.Event :=
  let (packets, error, _) := Decoder.parseBuffer a (f.decoder isRealtime sessionId) data
  packets.map (.carPacket isRealtime sessionId ·)
    ++ if error = .kNeedMoreData then [] else [.carError isRealtime sessionId]

/-- What an event is for the service. -/
def calls : Event → List Jt1078Service.Event
  | .carConnection isRealtime sessionId init => [.carConnection isRealtime sessionId init]
  | .carMessage isRealtime sessionId data => f.onMessage a isRealtime sessionId data
  | .other e => [e]

/-- The decoder of a car and its bytes. -/
def set (isRealtime : Bool) (sessionId : UInt64) (decoder : Decoder) (bytes : List UInt8) : Fleet :=
  { f with
    decoder := Function.update f.decoder isRealtime
      (Function.update (f.decoder isRealtime) sessionId decoder)
    bytes := Function.update f.bytes isRealtime
      (Function.update (f.bytes isRealtime) sessionId bytes) }

def next : Event → Fleet
  | .carConnection isRealtime sessionId _ =>
      { f.set isRealtime sessionId (.new a) [] with used := (isRealtime, sessionId) :: f.used }
  | .carMessage isRealtime sessionId data =>
      f.set isRealtime sessionId
        (Decoder.parseBuffer a (f.decoder isRealtime sessionId) data).2.2
        (f.bytes isRealtime sessionId ++ data)
  | .other _ => f

/-- A connection or a packet of a car. -/
def isCars : Jt1078Service.Event → Bool
  | .carConnection _ _ _ => true
  | .carPacket _ _ _ => true
  | _ => false

/-- The event can come now: ids are given out once, and a car there is sends at
most as much as is read at once. -/
def Enabled (s : Jt1078Service) : Event → Prop
  | .carConnection isRealtime sessionId _ => (isRealtime, sessionId) ∉ f.used
  | .carMessage isRealtime sessionId data =>
      (s.car isRealtime sessionId).isSome = true ∧ data.length ≤ Buffer.MAX_SIZE_ONCE_READ
  | .other e => isCars e = false

instance (s : Jt1078Service) : (e : Event) → Decidable (f.Enabled s e)
  | .carConnection _ _ _ => inferInstanceAs (Decidable (_ ∉ _))
  | .carMessage _ _ _ => inferInstanceAs (Decidable (_ ∧ _))
  | .other _ => inferInstanceAs (Decidable (_ = false))

/-- The packets a connection has brought. -/
def packets (isRealtime : Bool) (sessionId : UInt64) : List Packet :=
  (grammar.parse (f.bytes isRealtime sessionId)).frames

/-- What packets are published as: each under the first identity there was. -/
def messagesFrom : List Packet → List Packet → List Message
  | _, [] => []
  | before, pkt :: packets =>
      ⟨CarSession.firstDeviceId (before ++ [pkt]), pkt⟩ :: messagesFrom (before ++ [pkt]) packets

/-- What a connection has to have published. -/
def messages (isRealtime : Bool) (sessionId : UInt64) : List Message :=
  messagesFrom [] (f.packets isRealtime sessionId)

variable {a f} {s : Jt1078Service} {b b' : Bool} {x x' : UInt64} {c : CarSession}

theorem messagesFrom_append (xs ys : List Packet) : ∀ before,
    messagesFrom before (xs ++ ys) = messagesFrom before xs ++ messagesFrom (before ++ xs) ys := by
  induction xs with
  | nil =>
      intro before
      rw [List.append_nil]
      rfl
  | cons pkt xs ih =>
      intro before
      rw [List.cons_append, messagesFrom, messagesFrom, ih, ← List.append_cons, List.cons_append]

theorem decoder_set (decoder : Decoder) (bytes : List UInt8) :
    (f.set b x decoder bytes).decoder b' x' = if b' = b ∧ x' = x then decoder
      else f.decoder b' x' := by
  unfold set
  by_cases hb : b' = b
  · subst hb
    simp [Function.update_apply]
  · simp [hb]

theorem bytes_set (decoder : Decoder) (bytes : List UInt8) :
    (f.set b x decoder bytes).bytes b' x' = if b' = b ∧ x' = x then bytes
      else f.bytes b' x' := by
  unfold set
  by_cases hb : b' = b
  · subst hb
    simp [Function.update_apply]
  · simp [hb]

/-! ## §2. What the service does with them. -/

/-- Other events bring no car, and publish nothing. -/
theorem step_other (hsound : s.Sound) {e : Jt1078Service.Event} (he : isCars e = false) :
    (∀ b x c, (s.step e).car b x = some c → s.car b x = some c)
      ∧ (s.step e).published = s.published := by
  have hforward : ∀ (isRealtime : Bool) (e : ForwardServer.Event) (b : Bool) (x : UInt64)
      (c : CarSession), (s.onForward isRealtime e).car b x = some c → s.car b x = some c :=
    fun isRealtime e b x c hc =>
      ((Jt1078Service.car_onForward (hsound.keyed _) (hsound.isRealtime _) e).mp hc).1
  cases e with
  | carConnection isRealtime sessionId init => cases he
  | carPacket isRealtime sessionId pkt => cases he
  | subscriberConnection isRealtime sessionId socket init =>
      exact ⟨hforward isRealtime _, (s.onForward_frame isRealtime _).2⟩
  | subscriberPacket isRealtime sessionId packet =>
      exact ⟨hforward isRealtime _, (s.onForward_frame isRealtime _).2⟩
  | subscriberError isRealtime sessionId =>
      exact ⟨hforward isRealtime _, (s.onForward_frame isRealtime _).2⟩
  | carError isRealtime sessionId =>
      refine ⟨fun b x c hc => ?_, rfl⟩
      have hc' : (s.onCar isRealtime ((s.jt1078Server isRealtime).onPacketError sessionId)).car b x
          = some c := hc
      rw [Jt1078Service.car_onCar] at hc'
      split at hc'
      next hb =>
        rw [Jt1078Server.onPacketError, CarManager.delCar, Std.TreeMap.getElem?_erase] at hc'
        split at hc'
        · exact absurd hc'.symm (Option.some_ne_none c)
        · rw [hb]
          exact hc'
      · exact hc'

theorem car_carError (s : Jt1078Service) (b : Bool) (x : UInt64) :
    (s.step (.carError b x)).car b x = none := by
  show (s.onCar b ((s.jt1078Server b).onPacketError x)).car b x = none
  rw [Jt1078Service.car_onCar, if_pos rfl, Jt1078Server.onPacketError, CarManager.delCar,
    Std.TreeMap.getElem?_erase]
  simp

/-- A car that connects. -/
theorem car_carConnection (s : Jt1078Service) (b b' : Bool) (x x' : UInt64) (init : Bool) :
    (s.step (.carConnection b x init)).car b' x'
      = if init = true ∧ b' = b ∧ x' = x then some .new else s.car b' x' := by
  show (s.onCar b ((s.jt1078Server b).onNewConnection x init)).car b' x' = _
  rw [Jt1078Service.car_onCar]
  by_cases hb : b' = b
  · subst hb
    rw [if_pos rfl]
    cases init with
    | false => rfl
    | true =>
        show ((s.jt1078Server b').manager.mapCar.insert x CarSession.new)[x']? = _
        rw [Std.TreeMap.getElem?_insert]
        by_cases hx : x' = x
        · subst hx
          simp
        · simp [hx, Ne.symm hx, Jt1078Service.car]
  · rw [if_neg hb, if_neg fun h => hb h.2.1]

/-- A packet of a car that is there. -/
theorem step_carPacket (hc : s.car b x = some c) (pkt : Packet) :
    (∀ b' x', (s.step (.carPacket b x pkt)).car b' x'
        = if b' = b ∧ x' = x then some (c.complete pkt) else s.car b' x')
      ∧ ∀ b', (s.step (.carPacket b x pkt)).publishedOn b'
        = s.publishedOn b' ++ if b' = b then [⟨(c.complete pkt).deviceId, pkt⟩] else [] := by
  have hstep : s.step (.carPacket b x pkt)
      = (s.onCar b { (s.jt1078Server b) with
          manager := (s.jt1078Server b).manager.addCar x (c.complete pkt) }).notify1078Packet
            (c.complete pkt).deviceId pkt b := by
    have hc' : (s.jt1078Server b).manager.mapCar[x]? = some c := hc
    simp only [Jt1078Service.step, Jt1078Service.onCarPacket, Jt1078Server.onPacketCompleted, hc',
      Option.map_some]
  rw [hstep]
  refine ⟨fun b' x' => ?_, fun b' => ?_⟩
  · show (s.onCar b _).car b' x' = _
    rw [Jt1078Service.car_onCar]
    by_cases hb : b' = b
    · subst hb
      rw [if_pos rfl]
      show ((s.jt1078Server b').manager.mapCar.insert x (c.complete pkt))[x']? = _
      rw [Std.TreeMap.getElem?_insert]
      by_cases hx : x' = x
      · subst hx
        simp
      · simp [hx, Ne.symm hx, Jt1078Service.car]
    · rw [if_neg hb, if_neg fun h => hb h.1]
  · show List.map _ (List.filter _ (s.published ++ [⟨b, (c.complete pkt).deviceId, pkt⟩])) = _
    rw [List.filter_append, List.map_append]
    apply congrArg
    by_cases hb : b' = b
    · subst hb
      simp
    · simp [hb, Ne.symm hb]

/-- **The packets of one message** are received and published, one by one. -/
theorem run_packets (frames : List Packet) : ∀ {s : Jt1078Service} {c : CarSession}, s.Sound →
    s.car b x = some c →
    let s' := Runs.run Jt1078Service.step s (frames.map (.carPacket b x ·))
    s'.Sound
      ∧ (∃ c', s'.car b x = some c' ∧ c'.received = c.received ++ frames)
      ∧ (∀ b' x', ¬(b' = b ∧ x' = x) → s'.car b' x' = s.car b' x')
      ∧ ∀ b', s'.publishedOn b'
        = s.publishedOn b' ++ if b' = b then messagesFrom c.received frames else [] := by
  induction frames with
  | nil =>
      intro s c hsound hc
      refine ⟨hsound, ⟨c, hc, (List.append_nil _).symm⟩, fun _ _ _ => rfl, fun b' => ?_⟩
      rw [messagesFrom, ite_self]
      exact (List.append_nil _).symm
  | cons pkt frames ih =>
      intro s c hsound hc
      obtain ⟨hcars, hpublished⟩ := step_carPacket hc pkt
      have hcar : (s.step (.carPacket b x pkt)).car b x = some (c.complete pkt) := by
        rw [hcars, if_pos ⟨rfl, rfl⟩]
      have hreceived : (c.complete pkt).received = c.received ++ [pkt] := rfl
      -- the session has its identity before the packet is published
      have hid := ((hsound.named b x c hc).complete pkt).deviceId
      obtain ⟨hsound', ⟨c', hc', hreceived'⟩, hothers, hlater⟩ :=
        ih (hsound.step (.carPacket b x pkt)) hcar
      rw [hreceived, List.append_assoc] at hreceived'
      refine ⟨hsound', ⟨c', hc', hreceived'⟩, fun b' x' hne => ?_, fun b' => ?_⟩
      · exact (hothers b' x' hne).trans ((hcars b' x').trans (if_neg hne))
      · refine (hlater b').trans ?_
        rw [hpublished, List.append_assoc, hid, hreceived, messagesFrom]
        apply congrArg
        split
        · rfl
        · rfl

/-! ## §3. The invariant. -/

/-- The service holds what the cars have sent. -/
structure Sees (f : Fleet) (s : Jt1078Service) : Prop where
  sound : s.Sound
  unused : ∀ b x, (b, x) ∉ f.used → s.car b x = none ∧ f.bytes b x = []
  /-- A car that is there has sent no violation, and received are the packets it
  sent whole. -/
  cars : ∀ b x c, s.car b x = some c →
    (f.decoder b x).Rep (grammar.parse (f.bytes b x)).rest
      ∧ (grammar.parse (f.bytes b x)).invalid = false ∧ c.received = f.packets b x

theorem parse_nil : grammar.parse [] = ⟨[], [], false⟩ := Grammar.parse_of_more rfl

theorem sees_new (a : StringAlloc) (garbage : UInt8) : (new a).Sees (.new garbage) where
  sound := Jt1078Service.sound_new garbage
  unused b x _ := ⟨by simp [Jt1078Service.car, Jt1078Service.new, Jt1078Server.new], rfl⟩
  cars b x c h := by simp [Jt1078Service.car, Jt1078Service.new, Jt1078Server.new] at h

/-- What is published in a half is what one connection of the half brings. -/
def Grows (b : Bool) (f : Fleet) (s : Jt1078Service) (f' : Fleet) (s' : Jt1078Service) : Prop :=
  ∃ x now, s'.publishedOn b = s.publishedOn b ++ now
    ∧ f'.messages b = Function.update (f.messages b) x (f.messages b x ++ now)

/-- Nothing is published, and nobody sent a packet. -/
theorem grows_of_eq {f' : Fleet} {s' : Jt1078Service} (hs : s'.publishedOn b = s.publishedOn b)
    (hf : f'.messages b = f.messages b) : Grows b f s f' s' := by
  refine ⟨0, [], by rw [hs, List.append_nil], ?_⟩
  rw [hf, List.append_nil, Function.update_eq_self]

/-- Other events. -/
theorem Sees.other (h : f.Sees s) {e : Jt1078Service.Event} (he : isCars e = false) :
    f.Sees (s.step e) ∧ ∀ b, Grows b f s f (s.step e) := by
  obtain ⟨hcars, hpublished⟩ := step_other h.sound he
  refine ⟨⟨h.sound.step e, fun b x hx => ⟨?_, (h.unused b x hx).2⟩,
    fun b x c hc => h.cars b x c (hcars b x c hc)⟩, fun b => grows_of_eq ?_ rfl⟩
  · cases hc : (s.step e).car b x with
    | none => rfl
    | some c => exact absurd ((h.unused b x hx).1.symm.trans (hcars b x c hc)) (by simp)
  · rw [Jt1078Service.publishedOn, hpublished]
    rfl

/-- A car connects. -/
theorem Sees.carConnection (h : f.Sees s) {init : Bool} (he : (b, x) ∉ f.used) :
    (f.next a (.carConnection b x init)).Sees (s.step (.carConnection b x init))
      ∧ ∀ b', Grows b' f s (f.next a (.carConnection b x init))
        (s.step (.carConnection b x init)) := by
  obtain ⟨hnone, hempty⟩ := h.unused b x he
  have hbytes : ∀ b' x', (f.next a (.carConnection b x init)).bytes b' x' = f.bytes b' x' := by
    intro b' x'
    show (f.set b x (.new a) []).bytes b' x' = _
    rw [bytes_set]
    split
    next heq => rw [heq.1, heq.2, hempty]
    next => rfl
  have hpackets : ∀ b' x', (f.next a (.carConnection b x init)).packets b' x'
      = f.packets b' x' := fun b' x' => by rw [packets, packets, hbytes]
  refine ⟨⟨h.sound.step _, fun b' x' hx' => ?_, fun b' x' c hc => ?_⟩,
    fun b' => grows_of_eq rfl (funext fun x' => ?_)⟩
  · have hne : (b', x') ≠ (b, x) := fun heq => hx' (heq ▸ List.mem_cons_self)
    rw [car_carConnection, hbytes, if_neg fun heq => hne (by rw [heq.2.1, heq.2.2])]
    exact h.unused b' x' fun hmem => hx' (List.mem_cons_of_mem _ hmem)
  · rw [car_carConnection] at hc
    rw [hbytes, hpackets]
    show ((f.set b x (.new a) []).decoder b' x').Rep _ ∧ _
    rw [decoder_set]
    split at hc
    next heq =>
      -- a new session has received nothing
      obtain rfl := Option.some.inj hc
      rw [if_pos heq.2, heq.2.1, heq.2.2, hempty, packets, hempty, parse_nil]
      exact ⟨Decoder.rep_new, rfl, rfl⟩
    next hne =>
      have hother : ¬(b' = b ∧ x' = x) := by
        rintro ⟨rfl, rfl⟩
        exact absurd (hnone.symm.trans hc) (Option.some_ne_none c).symm
      rw [if_neg hother]
      exact h.cars b' x' c hc
  · rw [messages, messages, hpackets]

/-- A message of a car: what it completes. -/
theorem onMessage_eq (h : f.Sees s) (hc : s.car b x = some c) {data : List UInt8}
    (hdata : data.length ≤ Buffer.MAX_SIZE_ONCE_READ) :
    let later := grammar.parse ((grammar.parse (f.bytes b x)).rest ++ data)
    grammar.parse (f.bytes b x ++ data)
        = ⟨f.packets b x ++ later.frames, later.rest, later.invalid⟩
      ∧ f.onMessage a b x data = later.frames.map (.carPacket b x ·)
          ++ (if later.invalid then [.carError b x] else [])
      ∧ (later.invalid = false →
          (Decoder.parseBuffer a (f.decoder b x) data).2.2.Rep later.rest) := by
  intro later
  obtain ⟨hrep, hvalid, -⟩ := h.cars b x c hc
  have hmore : grammar.next (grammar.parse (f.bytes b x)).rest = .more :=
    (grammar.next_rest (f.bytes b x)).trans (if_neg (Bool.eq_false_iff.mp hvalid))
  obtain ⟨d, hreceive, hrest⟩ := (Decoder.receiver_parses a).receive_parse hrep hmore
    (fun _ _ => trivial) hdata
  have hparse : Decoder.parseBuffer a (f.decoder b x) data
      = (later.frames, if later.invalid then .kInvalidHeader else .kNeedMoreData, d) := hreceive
  refine ⟨grammar.parse_append data hvalid, ?_, ?_⟩
  · rw [onMessage, hparse]
    cases later.invalid <;> rfl
  · rw [hparse]
    exact hrest

/-- What the report of an error adds: the session is gone. -/
theorem run_report (hsound : s.Sound) (b : Bool) (x : UInt64) (invalid : Bool) :
    let s' := Runs.run Jt1078Service.step s (if invalid then [.carError b x] else [])
    s'.Sound ∧ (∀ b', s'.publishedOn b' = s.publishedOn b')
      ∧ (∀ b' x' c, s'.car b' x' = some c → s.car b' x' = some c)
      ∧ (invalid = true → s'.car b x = none) := by
  cases invalid with
  | false => exact ⟨hsound, fun _ => rfl, fun _ _ _ hc => hc, fun h => absurd h Bool.false_ne_true⟩
  | true =>
      have hother := step_other hsound (e := .carError b x) rfl
      exact ⟨hsound.step (.carError b x), fun _ => rfl, hother.1, fun _ => car_carError s b x⟩

/-- A message of a car. -/
theorem Sees.carMessage (h : f.Sees s) {data : List UInt8}
    (he : f.Enabled s (.carMessage b x data)) :
    (f.next a (.carMessage b x data)).Sees
        (Runs.run Jt1078Service.step s (f.onMessage a b x data))
      ∧ ∀ b', Grows b' f s (f.next a (.carMessage b x data))
        (Runs.run Jt1078Service.step s (f.onMessage a b x data)) := by
  obtain ⟨hsome, hdata⟩ := he
  obtain ⟨c, hc⟩ := Option.isSome_iff_exists.mp hsome
  obtain ⟨hparse, hcalls, hrep⟩ := onMessage_eq (a := a) h hc hdata
  generalize grammar.parse ((grammar.parse (f.bytes b x)).rest ++ data) = later
    at hparse hcalls hrep
  obtain ⟨-, -, hreceived⟩ := h.cars b x c hc
  have hused : (b, x) ∈ f.used := by
    by_contra hnot
    exact absurd ((h.unused b x hnot).1.symm.trans hc) (Option.some_ne_none c).symm
  have hbytes : ∀ b' x', (f.next a (.carMessage b x data)).bytes b' x'
      = if b' = b ∧ x' = x then f.bytes b x ++ data else f.bytes b' x' := by
    intro b' x'
    show (f.set b x _ _).bytes b' x' = _
    rw [bytes_set]
  -- the packets of the car grow by the frames, those of others stay
  have hpackets : ∀ b' x', (f.next a (.carMessage b x data)).packets b' x'
      = if b' = b ∧ x' = x then f.packets b x ++ later.frames else f.packets b' x' := by
    intro b' x'
    rw [packets, hbytes]
    split
    next heq => rw [hparse]
    next => rfl
  obtain ⟨hsound₁, ⟨c₁, hc₁, hreceived₁⟩, hothers, hpublished⟩ :=
    run_packets later.frames h.sound hc
  generalize hs₁ : Runs.run Jt1078Service.step s (later.frames.map (.carPacket b x ·)) = s₁
    at hsound₁ hc₁ hothers hpublished
  obtain ⟨hsound₂, hpublished₂, hcars₂, hgone⟩ := run_report hsound₁ b x later.invalid
  rw [hcalls, Runs.run_append, hs₁]
  generalize Runs.run Jt1078Service.step s₁ (if later.invalid then [.carError b x] else []) = s₂
    at hsound₂ hpublished₂ hcars₂ hgone
  refine ⟨⟨hsound₂, fun b' x' hx' => ?_, fun b' x' c' hc' => ?_⟩, fun b' => ?_⟩
  · have hne : ¬(b' = b ∧ x' = x) := fun heq => hx' (by rw [heq.1, heq.2]; exact hused)
    rw [hbytes, if_neg hne]
    refine ⟨?_, (h.unused b' x' hx').2⟩
    cases hcar : s₂.car b' x' with
    | none => rfl
    | some c' =>
        have hbefore := (hothers b' x' hne).symm.trans (hcars₂ b' x' c' hcar)
        exact absurd ((h.unused b' x' hx').1.symm.trans hbefore) (Option.some_ne_none c').symm
  · rw [hbytes, hpackets]
    show ((f.set b x _ _).decoder b' x').Rep _ ∧ _
    rw [decoder_set]
    by_cases heq : b' = b ∧ x' = x
    · -- the car has sent no violation: it would be gone
      obtain ⟨rfl, rfl⟩ := heq
      have hvalid : later.invalid = false := by
        rw [← Bool.not_eq_true]
        exact fun hbad => absurd ((hgone hbad).symm.trans hc') (Option.some_ne_none c').symm
      obtain rfl := Option.some.inj (hc₁.symm.trans (hcars₂ b' x' c' hc'))
      rw [if_pos ⟨rfl, rfl⟩, if_pos ⟨rfl, rfl⟩, if_pos ⟨rfl, rfl⟩, hparse]
      exact ⟨hrep hvalid, hvalid, by rw [hreceived₁, hreceived]⟩
    · rw [if_neg heq, if_neg heq, if_neg heq]
      exact h.cars b' x' c' ((hothers b' x' heq).symm.trans (hcars₂ b' x' c' hc'))
  · have hlater := (hpublished₂ b').trans (hpublished b')
    by_cases hb : b' = b
    · subst hb
      rw [if_pos rfl, hreceived] at hlater
      refine ⟨x, messagesFrom (f.packets b' x) later.frames, hlater, funext fun x' => ?_⟩
      rw [messages, hpackets]
      by_cases hx : x' = x
      · subst hx
        rw [if_pos ⟨rfl, rfl⟩, Function.update_self, messagesFrom_append]
        rfl
      · rw [if_neg fun heq => hx heq.2, Function.update_of_ne hx]
        rfl
    · rw [if_neg hb, List.append_nil] at hlater
      refine grows_of_eq hlater (funext fun x' => ?_)
      rw [messages, hpackets, if_neg fun heq => hb heq.1]
      rfl

/-- **Every event.** -/
theorem Sees.step (h : f.Sees s) (e : Event) (he : f.Enabled s e) :
    (f.next a e).Sees (Runs.run Jt1078Service.step s (f.calls a e))
      ∧ ∀ b, Grows b f s (f.next a e) (Runs.run Jt1078Service.step s (f.calls a e)) := by
  cases e with
  | carConnection isRealtime sessionId init => exact h.carConnection he
  | carMessage isRealtime sessionId data => exact h.carMessage he
  | other e => exact h.other he

/-- All that is called fits. -/
theorem fits_onMessage (h : f.Sees s) {data : List UInt8}
    (he : f.Enabled s (.carMessage b x data)) {e : Jt1078Service.Event}
    (hmem : e ∈ f.onMessage a b x data) : e.fits = true := by
  obtain ⟨hsome, hdata⟩ := he
  obtain ⟨c, hc⟩ := Option.isSome_iff_exists.mp hsome
  obtain ⟨-, hcalls, -⟩ := onMessage_eq (a := a) h hc hdata
  rw [hcalls] at hmem
  rcases List.mem_append.mp hmem with hmem | hmem
  · obtain ⟨pkt, hpkt, rfl⟩ := List.mem_map.mp hmem
    have hvalid := (grammar_encodes.parse_split _).2 pkt hpkt
    exact decide_eq_true (UInt16.le_iff_toNat_le.mp hvalid.bodyLen)
  · split at hmem
    · rw [List.mem_singleton.mp hmem]
      rfl
    · cases hmem

/-! ## §4. Main result. -/

/-- **From one state to another**, what is published in a half is an
interleaving of what its connections bring. -/
def Published (b : Bool) (f : Fleet) (s : Jt1078Service) (f' : Fleet) (s' : Jt1078Service) :
    Prop :=
  ∃ later streams, s'.publishedOn b = s.publishedOn b ++ later
    ∧ (∀ x, f'.messages b x = f.messages b x ++ streams x) ∧ Interleaves streams later

theorem Published.refl (b : Bool) (f : Fleet) (s : Jt1078Service) : Published b f s f s :=
  ⟨[], fun _ => [], (List.append_nil _).symm, fun _ => (List.append_nil _).symm, .nil⟩

theorem Published.grows {f' f'' : Fleet} {s' s'' : Jt1078Service} (h : Published b f s f' s')
    (hgrows : Grows b f' s' f'' s'') : Published b f s f'' s'' := by
  obtain ⟨later, streams, hlater, hstreams, hmerge⟩ := h
  obtain ⟨x, now, hnow, hmessages⟩ := hgrows
  refine ⟨later ++ now, Function.update streams x (streams x ++ now), ?_, fun x' => ?_,
    hmerge.append x now⟩
  · rw [hnow, hlater, List.append_assoc]
  · rw [hmessages]
    by_cases hx : x' = x
    · subst hx
      rw [Function.update_self, Function.update_self, hstreams, List.append_assoc]
    · rw [Function.update_of_ne hx, Function.update_of_ne hx]
      exact hstreams x'

/-- The cars and the service, one event on. -/
def step (a : StringAlloc) (fs : Fleet × Jt1078Service) (e : Event) : Fleet × Jt1078Service :=
  (fs.1.next a e, Runs.run Jt1078Service.step fs.2 (fs.1.calls a e))

/-- **What the cars send is published**: of every stretch of a run, in either
half, what was published is an interleaving of the packets the connections sent
whole.  A car that is connected then has sent no violation of the format. -/
theorem cars_are_published (a : StringAlloc) (garbage : UInt8) (earlier events : List Event)
    (h : Runs.Along (step a) (fun fs e => fs.1.Enabled fs.2 e) (new a, .new garbage)
      (earlier ++ events)) (b : Bool) :
    let before := Runs.run (step a) (new a, .new garbage) earlier
    let after := Runs.run (step a) (new a, .new garbage) (earlier ++ events)
    Published b before.1 before.2 after.1 after.2
      ∧ ∀ x c, after.2.car b x = some c →
        (grammar.parse (after.1.bytes b x)).invalid = false
          ∧ c.received = (grammar.parse (after.1.bytes b x)).frames := by
  intro before after
  obtain ⟨hearlier, hevents⟩ := Runs.along_append.mp h
  have hbefore : before.1.Sees before.2 := Runs.run_invariant (I := fun fs => fs.1.Sees fs.2)
    (fun fs e hfs he => (hfs.step e he).1) (sees_new a garbage) hearlier
  have hrun : after = Runs.run (step a) before events := Runs.run_append _ _ _
  obtain ⟨hafter, hpublished⟩ :
      after.1.Sees after.2 ∧ Published b before.1 before.2 after.1 after.2 := by
    rw [hrun]
    refine Runs.run_invariant
      (I := fun fs => fs.1.Sees fs.2 ∧ Published b before.1 before.2 fs.1 fs.2)
      (fun fs e hfs he => ?_) ⟨hbefore, .refl b _ _⟩ hevents
    obtain ⟨hsees, hgrows⟩ := hfs.1.step (a := a) e he
    exact ⟨hsees, hfs.2.grows (hgrows b)⟩
  exact ⟨hpublished, fun x c hc => (hafter.cars b x c hc).2⟩

/-- A packet of a car whose SIM card number is zero, on its channel 1: data that is
passed on as it is, of one byte. -/
def routeBytes : List UInt8 := [48, 49, 99, 100, 0x81, 98, 0, 0, 0, 0, 0, 0, 0, 0, 1, 0x40, 0, 1, 7]

/-- The same of a picture of one byte, with its times. -/
def videoBytes : List UInt8 :=
  [48, 49, 99, 100, 0x81, 98, 0, 0, 0, 0, 0, 0, 0, 0, 1, 0]
    ++ [0, 0, 0, 0, 0, 0, 0, 0, 0, 0, 0, 0, 0, 1, 9]

/-- A car connects and sends a packet. -/
theorem cars_are_published_of_one :
    let before := Runs.run (step .libstdcxx) (new .libstdcxx, .new 0) [.carConnection true 3 true]
    let after := Runs.run (step .libstdcxx) (new .libstdcxx, .new 0)
      ([.carConnection true 3 true] ++ [.carMessage true 3 routeBytes])
    (after.2.publishedOn true).map (fun m => (m.deviceId, m.pkt.body)) = [(1, [7])]
      ∧ Published true before.1 before.2 after.1 after.2
      ∧ ∀ x c, after.2.car true x = some c →
        (grammar.parse (after.1.bytes true x)).invalid = false
          ∧ c.received = (grammar.parse (after.1.bytes true x)).frames :=
  ⟨by decide +kernel, cars_are_published .libstdcxx 0 [.carConnection true 3 true]
    [.carMessage true 3 routeBytes] (by decide +kernel) true⟩

end Fleet

end MultiProcessServer
