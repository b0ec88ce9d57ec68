/-
  MultiProcessServer.DeviceIds
  ────────────────────────────
  The names of the channels, as they pass through the servers.

  Main results:

    `device_id_one_encoding` :
        text and number of a car's channel are one encoding;
    `formatted_faithfully_iff` :
        a number that a peer names is printed whole exactly below `2 ^ 56`;
    `requestable_iff` :
        a channel of a car can be asked for exactly if its number has two
        decimal digits.
-/
import MultiProcessServer.ForwardServer.ForwardServer
import MultiProcessServer.Lib.Memory
import MultiProcessServer.PcServer.PcServer
import MultiProcessServer.WebServer.RtmpClient

namespace MultiProcessServer

open Memory (Block Fault)

/-! ## §1. Through the servers. -/

/-- A text comes out of the servers as it went in: `ForwardServer` reads it from
a packet and notifies the car, `PcServer` asks for it again, and the RTMP url
ends with it. -/
structure Survives (strDeviceId : List UInt8) : Prop where
  buffer : generateDeviceIdByBuffer strDeviceId = generateDeviceId strDeviceId
  text : ∀ garbage,
    generateDeviceIdStrByDeviceId garbage (generateDeviceId strDeviceId) = strDeviceId
  forwardServer : ∀ f : Forward.ForwardServer,
    f.notifyOpenCarTerminal (generateDeviceIdByBuffer strDeviceId)
        = [.sendCommandTo808 strDeviceId true f.isRealtime]
      ∧ f.notifyCloseCarTerminal (generateDeviceIdByBuffer strDeviceId)
        = [.sendCommandTo808 strDeviceId false f.isRealtime,
          .notifyNoSubscriber strDeviceId f.isRealtime]
  pcServer : ∀ p : PcServer,
    p.pcPublisher.getAllDeviceId true = [generateDeviceId strDeviceId] →
      p.onClientConnect true
        = p.clientSendPacket
          (Ipc.IPC_PKT_TYPE_SUBSCRIBE_DEVICE_ID ||| Ipc.IPC_PKT_FROM_PC_SERVER) strDeviceId
  rtmpUrl : ∀ (s : RtmpClientState) (outcome : StreamOutcome),
    s.deviceId = generateDeviceIdByBuffer strDeviceId → s.rtmpUrlPrefix.isEmpty = false →
    s.isInit = false →
      (s.tryToInitRtmpStream outcome).2.rtmpUrl
        = s.rtmpUrlPrefix ++ [RtmpClientState.slash] ++ strDeviceId

theorem DeviceText.survives (t : DeviceText) : Survives t.str where
  buffer := generateDeviceIdByBuffer_eq t.str
  text := t.generateDeviceIdStr_generateDeviceId
  forwardServer f := by
    have htext := t.generateDeviceIdStr_generateDeviceId f.garbage
    unfold Forward.ForwardServer.notifyOpenCarTerminal Forward.ForwardServer.notifyCloseCarTerminal
    rw [generateDeviceIdByBuffer_eq, htext]
    exact ⟨rfl, rfl⟩
  pcServer p hall := by
    unfold PcServer.onClientConnect
    rw [hall]
    show p.clientSendPacket _ (generateDeviceIdStrByDeviceId p.garbage _) = _
    rw [t.generateDeviceIdStr_generateDeviceId]
  rtmpUrl s outcome hid hnonempty hinit := by
    unfold RtmpClientState.tryToInitRtmpStream
    rw [hnonempty, hinit, hid, generateDeviceIdByBuffer_eq,
      t.generateDeviceIdStr_generateDeviceId]
    cases outcome.init <;> rfl

theorem generateDeviceIdStr_inj {sim sim' : Jt1078.SimCardNumber} {channel channel' : UInt8}
    (h : generateDeviceIdStr sim channel = generateDeviceIdStr sim' channel') :
    sim = sim' ∧ channel = channel' := by
  have hbytes : sim.val ++ [channel] = sim'.val ++ [channel'] := Hex.bytes_inj h
  obtain ⟨hsim, hchannel⟩ := List.append_inj hbytes (sim.property.trans sim'.property.symm)
  exact ⟨Subtype.ext hsim, List.singleton_inj.mp hchannel⟩

/-- **Text and number are one encoding.**  The number of a SIM card and a
channel names no other, is below `2 ^ 56`, and is printed as their text; a text
of fourteen lower-case hexadecimal digits, such as the check accepts, comes out
of the servers as it went in, and no other is read as its channel. -/
theorem device_id_one_encoding :
    (∀ sim channel sim' channel',
      generateDeviceIdBySim sim channel = generateDeviceIdBySim sim' channel' →
        sim = sim' ∧ channel = channel')
      ∧ (∀ sim channel, (generateDeviceIdBySim sim channel).toNat < 2 ^ 56
        ∧ ∀ garbage, generateDeviceIdStrByDeviceId garbage (generateDeviceIdBySim sim channel)
          = generateDeviceIdStr sim channel)
      ∧ (∀ t : DeviceText, Survives t.str)
      ∧ (∀ t t' : DeviceText, generateDeviceId t.str = generateDeviceId t'.str → t.str = t'.str)
      ∧ ∀ strDeviceId, checkDeviceIdStrFmt strDeviceId = true →
        ∃ t : DeviceText, t.str = strDeviceId := by
  refine ⟨fun sim channel sim' channel' heq => generateDeviceIdStr_inj ?_,
    fun sim channel => ⟨(DeviceText.ofSim sim channel).toNat_generateDeviceId_lt,
      (DeviceText.ofSim sim channel).generateDeviceIdStr_generateDeviceId⟩,
    DeviceText.survives, fun t t' => DeviceText.generateDeviceId_inj,
    fun strDeviceId h => ⟨.ofChecked strDeviceId h, rfl⟩⟩
  exact @DeviceText.generateDeviceId_inj (.ofSim sim channel) (.ofSim sim' channel') heq

/-! ## §2. The buffer of the formatter. -/

/-- `GenerateDeviceIdStrByDeviceId`, with its `buf` as it is found: `snprintf`
may write 15 bytes, and answers the length the text should have. -/
def formatDeviceId (buf : Block UInt8 16) (deviceId : UInt64) : Except Fault (List UInt8) := do
  let text := Hex.text 14 deviceId
  let nret := text.length
  -- the size given to `snprintf` counts its NUL
  let buf ← buf.store 0 (text.take 14 ++ [0])
  let buf ← buf.store nret [0]
  buf.load 0 nret

/-- The formatter writes inside its buffer, and returns a text without a NUL
that is read as the number again. -/
def Faithful (deviceId : UInt64) : Prop :=
  ∀ buf, ∃ strDeviceId, formatDeviceId buf deviceId = .ok strDeviceId ∧ 0 ∉ strDeviceId
    ∧ generateDeviceId strDeviceId = deviceId

variable {buf : Block UInt8 16} {deviceId : UInt64}

/-- The NUL is written at the length the text should have, so it has to be a
place in the buffer. -/
theorem length_text_le {strDeviceId : List UInt8}
    (h : formatDeviceId buf deviceId = .ok strDeviceId) :
    (Hex.text 14 deviceId).length ≤ 15 := by
  obtain ⟨buf', -, hrest⟩ := Memory.bind_eq_ok_iff.mp h
  obtain ⟨buf'', hstore, -⟩ := Memory.bind_eq_ok_iff.mp hrest
  have hfits := Block.defined_store_iff.mp ⟨buf'', hstore⟩
  rw [List.length_singleton] at hfits
  omega

/-- What is returned then. -/
theorem formatDeviceId_of_le (h : (Hex.text 14 deviceId).length ≤ 15) :
    formatDeviceId buf deviceId
      = .ok (((Hex.text 14 deviceId).take 14 ++ [0]).take (Hex.text 14 deviceId).length) := by
  unfold formatDeviceId
  have hle := Hex.le_length_text 14 deviceId
  generalize Hex.text 14 deviceId = text at h hle
  dsimp only
  have hstored : (text.take 14 ++ [0]).length = 15 := by
    rw [List.length_append, List.length_take, Nat.min_eq_left hle]
    rfl
  have hroom : 0 + (text.take 14 ++ [0]).length ≤ 16 := by omega
  -- the second NUL goes to the last place, or over the first one
  have hplace : text.length + [(0 : UInt8)].length ≤ 16 := by
    rw [List.length_singleton]
    omega
  obtain ⟨buf', hstore, hcells⟩ := Block.store_ok (b := buf) hroom
  obtain ⟨buf'', hnul, hcells'⟩ := Block.store_ok (b := buf') hplace
  have htake := Block.take_store hroom hcells
  rw [List.take_zero, List.nil_append, Nat.zero_add, hstored] at htake
  rw [hstore, Memory.ok_bind, hnul, Memory.ok_bind, Block.load_ok (by omega), List.drop_zero,
    hcells', List.take_left' (by rw [List.length_take, buf'.length_cells]; omega), ← htake,
    List.take_take, Nat.min_eq_left h]

/-- **What comes out of the buffer**, if nothing outside of it is written. -/
theorem formatDeviceId_ok {strDeviceId : List UInt8}
    (h : formatDeviceId buf deviceId = .ok strDeviceId) (garbage : UInt8) :
    strDeviceId = generateDeviceIdStrByDeviceId garbage deviceId := by
  have hle := length_text_le h
  have hlong := Hex.le_length_text 14 deviceId
  have hstored : (Hex.text 14 deviceId).length
      ≤ ((Hex.text 14 deviceId).take 14 ++ [0]).length := by
    rw [List.length_append, List.length_take, Nat.min_eq_left hlong]
    exact hle
  rw [formatDeviceId_of_le hle] at h
  rw [← Except.ok.inj h]
  unfold generateDeviceIdStrByDeviceId
  dsimp only
  rw [List.append_cons _ 0 [garbage]]
  exact (List.take_append_of_le_length hstored).symm

/-- **The formatter is faithful** to the ids it was made for: of a longer one,
the end is missing, and behind it a NUL is returned or written outside. -/
theorem faithful_iff : Faithful deviceId ↔ deviceId.toNat < 2 ^ 56 := by
  constructor
  · -- a text of 15 digits ends in the NUL of `snprintf`
    intro hfaithful
    by_contra hge
    have hlong : 14 < (Hex.text 14 deviceId).length :=
      Hex.lt_length_text (Nat.not_lt.mp hge)
    obtain ⟨strDeviceId, hok, hnul, -⟩ := hfaithful ⟨List.replicate 16 0, List.length_replicate⟩
    have hle := length_text_le hok
    rw [formatDeviceId_of_le hle] at hok
    refine hnul ?_
    rw [← Except.ok.inj hok, List.take_of_length_le]
    · exact List.mem_append_right _ List.mem_cons_self
    · rw [List.length_append, List.length_take, List.length_singleton]
      omega
  · intro hlt buf
    have hlength : (Hex.text 14 deviceId).length = 14 := by
      rw [Hex.text_of_lt hlt, Hex.length_fixed]
    have hdigits : ∀ b ∈ Hex.text 14 deviceId, Hex.isxdigit b = true :=
      (Hex.lower_fixed _ _).isxdigit
    refine ⟨Hex.text 14 deviceId, ?_, ?_, Hex.strtoull16_text 14 deviceId⟩
    · rw [formatDeviceId_of_le (by omega), hlength, List.take_of_length_le (Nat.le_of_eq hlength),
        List.take_left' hlength]
    · exact fun hmem => (Hex.isxdigit_ne (hdigits 0 hmem)).2.2.2.2.2 rfl

/-- A minus, and a number that is not zero. -/
def Negative (strDeviceId : List UInt8) : Prop :=
  let (minus, v) := Hex.number (Hex.cString strDeviceId)
  minus = true ∧ v ≠ 0

instance (strDeviceId : List UInt8) : Decidable (Negative strDeviceId) :=
  inferInstanceAs (Decidable (_ ∧ _))

/-- Fourteen characters have no other way to write a long number. -/
theorem generateDeviceId_lt_iff {strDeviceId : List UInt8} (hlen : strDeviceId.length = 14) :
    (generateDeviceId strDeviceId).toNat < 2 ^ 56 ↔ ¬Negative strDeviceId := by
  have hcut : (Hex.cString strDeviceId).length ≤ 14 :=
    hlen ▸ (List.takeWhile_prefix _).length_le
  have hlt : (Hex.number (Hex.cString strDeviceId)).2 < 16 ^ 14 :=
    Nat.lt_of_lt_of_le (Hex.number_lt _) (Nat.pow_le_pow_right (by decide) hcut)
  unfold generateDeviceId
  rw [Hex.toNat_strtoull16_of_short (by omega)]
  -- what is below `2 ^ 56`, taken from `2 ^ 64`, is not
  split
  next hnegative => exact iff_of_false (by omega) (not_not_intro hnegative)
  next hnegative => exact iff_of_true hlt hnegative

/-- **When an id of a peer is formatted faithfully.**  The id a payload names is
formatted inside the buffer, without a NUL, and read back as the same number,
exactly if that is below `2 ^ 56`; the id that a string of 14 characters names,
exactly if it is not a minus in front of a number. -/
theorem formatted_faithfully_iff (packet : Ipc.Packet) (strDeviceId : List UInt8) :
    (Faithful (generateDeviceIdByBuffer packet.data)
        ↔ (generateDeviceIdByBuffer packet.data).toNat < 2 ^ 56)
      ∧ (strDeviceId.length = 14 →
        (Faithful (generateDeviceId strDeviceId) ↔ ¬Negative strDeviceId)) :=
  ⟨faithful_iff, fun hlen => faithful_iff.trans (generateDeviceId_lt_iff hlen)⟩

/-- `"fffffffffffffff"`, `"ffffffffffffffff"` and `"-0000000000001"`: of the
first the last digit is a NUL, with the others a NUL is written behind the
buffer. -/
theorem not_formatted_faithfully_long :
    let fifteen := List.replicate 15 102
    let sixteen := List.replicate 16 102
    let minus := 45 :: List.replicate 12 48 ++ [49]
    let buf : Block UInt8 16 := ⟨List.replicate 16 0, List.length_replicate⟩
    (∀ data ∈ [fifteen, sixteen], ¬Faithful (generateDeviceIdByBuffer data))
      ∧ minus.length = 14 ∧ ¬Faithful (generateDeviceId minus)
      ∧ formatDeviceId buf (generateDeviceIdByBuffer fifteen)
        = .ok (List.replicate 14 102 ++ [0])
      ∧ formatDeviceId buf (generateDeviceIdByBuffer sixteen) = .error .outOfBounds
      ∧ formatDeviceId buf (generateDeviceId minus) = .error .outOfBounds := by
  intro fifteen sixteen minus buf
  simp only [faithful_iff]
  decide +kernel

/-! ## §3. What can be asked for. -/

/-- Two decimal digits. -/
def Bcd (b : UInt8) : Prop := b.toNat / 16 ≤ 9 ∧ b.toNat % 16 ≤ 9

instance (b : UInt8) : Decidable (Bcd b) := inferInstanceAs (Decidable (_ ∧ _))

/-- The text of a channel is accepted by the check of the HTTP handlers, and no
other accepted text is read as this channel. -/
structure Requestable (sim : Jt1078.SimCardNumber) (channel : UInt8) : Prop where
  accepted : checkDeviceIdStrFmt (generateDeviceIdStr sim channel) = true
  only : ∀ strDeviceId, checkDeviceIdStrFmt strDeviceId = true →
    generateDeviceId strDeviceId = generateDeviceIdBySim sim channel →
      strDeviceId = generateDeviceIdStr sim channel

/-- A byte is printed in decimal digits if it is two of them. -/
theorem all_isdigit_fixed_iff (b : UInt8) :
    ((Hex.fixed 2 b.toNat).all fun c => 48 ≤ c && c ≤ 57) = true ↔ Bcd b := by
  have hhigh : b.toNat / 16 % 16 = b.toNat / 16 := Nat.mod_eq_of_lt (by have := b.toNat_lt; omega)
  show ([Hex.digit (b.toNat / 16 % 16), Hex.digit (b.toNat % 16)].all
    fun c => 48 ≤ c && c ≤ 57) = true ↔ _
  rw [List.all_cons, List.all_cons, List.all_nil, Bool.and_true, Bool.and_eq_true,
    Hex.decimal_digit_iff (Nat.mod_lt _ (by decide)), Hex.decimal_digit_iff
      (Nat.mod_lt _ (by decide)), hhigh]
  rfl

/-- The check looks at every byte. -/
theorem checkDeviceIdStrFmt_generateDeviceIdStr_iff {sim : Jt1078.SimCardNumber}
    {channel : UInt8} :
    checkDeviceIdStrFmt (generateDeviceIdStr sim channel) = true
      ↔ (∀ b ∈ sim.val, Bcd b) ∧ Bcd channel := by
  have hlength : (generateDeviceIdStr sim channel).length = 14 :=
    (DeviceText.ofSim sim channel).length_str
  unfold checkDeviceIdStrFmt
  rw [Bool.and_eq_true, beq_iff_eq, and_iff_right hlength, generateDeviceIdStr,
    List.all_flatMap, List.all_eq_true, List.forall_mem_append, List.forall_mem_singleton]
  simp only [all_isdigit_fixed_iff]

/-- **Which channels can be asked for.**  For every SIM number of decimal digits
and every channel number: the text of the channel is accepted, and is the only
accepted text of that id, exactly if the channel number has two decimal digits
as well. -/
theorem requestable_iff (sim : Jt1078.SimCardNumber) (hsim : ∀ b ∈ sim.val, Bcd b)
    (channel : UInt8) : Requestable sim channel ↔ Bcd channel := by
  rw [← @and_iff_right _ (Bcd channel) hsim, ← checkDeviceIdStrFmt_generateDeviceIdStr_iff]
  constructor
  · exact Requestable.accepted
  · intro haccepted
    exact ⟨haccepted, fun strDeviceId h heq => generateDeviceId_inj h haccepted heq⟩

/-- `139123456789`. -/
def simCard : Jt1078.SimCardNumber := ⟨[0x13, 0x91, 0x23, 0x45, 0x67, 0x89], rfl⟩

theorem bcd_simCard : ∀ b ∈ simCard.val, Bcd b := by
  have hall : simCard.val.all (fun b => decide (Bcd b)) = true := by decide
  exact fun b hb => of_decide_eq_true (List.all_eq_true.mp hall b hb)

theorem requestable_one : Requestable simCard 1 :=
  (requestable_iff simCard bcd_simCard 1).mpr (by decide)

/-- Channel 10 of a car is not accepted, and nothing that is accepted is read as
its id. -/
theorem not_requestable_ten :
    (∀ b ∈ simCard.val, Bcd b) ∧ ¬Requestable simCard 10
      ∧ ∀ strDeviceId, checkDeviceIdStrFmt strDeviceId = true →
        generateDeviceId strDeviceId ≠ generateDeviceIdBySim simCard 10 := by
  have hrejected : ¬checkDeviceIdStrFmt (generateDeviceIdStr simCard 10) = true := by decide
  refine ⟨bcd_simCard, fun h => hrejected h.accepted, fun strDeviceId h heq => hrejected ?_⟩
  have htext : strDeviceId = generateDeviceIdStr simCard 10 :=
    @DeviceText.generateDeviceId_inj (.ofChecked strDeviceId h) (.ofSim simCard 10) heq
  rwa [htext] at h

end MultiProcessServer
