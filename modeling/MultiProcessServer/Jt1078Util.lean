/-
  MultiProcessServer.Jt1078Util
  ─────────────────────────────
  `Jt1078Util`: a channel of a car is named by a number, and by the
  hexadecimal text of that number.
-/
import MultiProcessServer.Lib.Hex
import MultiProcessServer.Jt1078Server.Jt1078Header

namespace MultiProcessServer

/-! ## §1. The functions. -/

/-- `INVALID_DEVICE_ID`. -/
def INVALID_DEVICE_ID : UInt64 := 0

/-- `GenerateDeviceIdStr`: `"%02x"` of the six bytes of the SIM card number and
of the channel. -/
def generateDeviceIdStr (simCardNumber : Jt1078.SimCardNumber) (logicChannelNumber : UInt8) :
    List UInt8 :=
  (simCardNumber.val ++ [logicChannelNumber]).flatMap fun b => Hex.fixed 2 b.toNat

/-- `GenerateDeviceId` of a `std::string`. -/
def generateDeviceId (strDeviceId : List UInt8) : UInt64 :=
  Hex.strtoull16 (Hex.cString strDeviceId)

/-- `GenerateDeviceId` of a SIM card number and a channel. -/
def generateDeviceIdBySim (simCardNumber : Jt1078.SimCardNumber) (logicChannelNumber : UInt8) :
    UInt64 :=
  generateDeviceId (generateDeviceIdStr simCardNumber logicChannelNumber)

/-- `GenerateDeviceIdByBuffer`, on the bytes before the NUL that ends the
buffer. -/
def generateDeviceIdByBuffer (buffer : List UInt8) : UInt64 :=
  Hex.strtoull16 (Hex.cString buffer)

/-- Both readers stop at the first NUL. -/
theorem generateDeviceIdByBuffer_eq (buffer : List UInt8) :
    generateDeviceIdByBuffer buffer = generateDeviceId buffer := rfl

/-- `GenerateDeviceIdStrByDeviceId`.  `snprintf` is given 15 of the 16 bytes
of `buf`, so it stores at most 14 digits and a NUL, but it returns the length
of the whole text.  `garbage` is what the last byte of `buf` holds. -/
def generateDeviceIdStrByDeviceId (garbage : UInt8) (deviceId : UInt64) : List UInt8 :=
  let text := Hex.text 14 deviceId
  let nret := text.length
  (text.take 14 ++ [0, garbage]).take nret

/-- `CheckDeviceIdStrFmt`: fourteen decimal digits. -/
def checkDeviceIdStrFmt (strDeviceId : List UInt8) : Bool :=
  strDeviceId.length == 14 && strDeviceId.all fun c => 48 ≤ c && c ≤ 57

/-- The text of a car's channel is never empty. -/
theorem generateDeviceIdStr_ne_nil (simCardNumber : Jt1078.SimCardNumber)
    (logicChannelNumber : UInt8) :
    generateDeviceIdStr simCardNumber logicChannelNumber ≠ [] := by
  simp [generateDeviceIdStr, Hex.fixed]

/-! ## §2. Texts of fourteen digits. -/

/-- Fourteen lower-case hexadecimal digits. -/
structure DeviceText where
  str : List UInt8
  length_str : str.length = 14
  lower : Hex.Lower str

namespace DeviceText

/-- The text of a car's channel. -/
def ofSim (simCardNumber : Jt1078.SimCardNumber) (logicChannelNumber : UInt8) : DeviceText where
  str := generateDeviceIdStr simCardNumber logicChannelNumber
  length_str := by
    show (Hex.bytes _).length = 14
    rw [Hex.length_bytes, List.length_append, simCardNumber.property]
    rfl
  lower := Hex.lower_bytes _

/-- A text the check accepts. -/
def ofChecked (strDeviceId : List UInt8) (h : checkDeviceIdStrFmt strDeviceId = true) :
    DeviceText where
  str := strDeviceId
  length_str := by
    rw [checkDeviceIdStrFmt, Bool.and_eq_true, beq_iff_eq] at h
    exact h.1
  lower := by
    intro b hb
    simp only [checkDeviceIdStrFmt, Bool.and_eq_true, beq_iff_eq, List.all_eq_true,
      decide_eq_true_eq, UInt8.le_iff_toNat_le] at h
    have hrange := h.2 b hb
    simp only [UInt8.reduceToNat] at hrange
    refine ⟨b.toNat - 48, by omega, ?_⟩
    unfold Hex.digit
    rw [if_pos (by omega), Nat.add_sub_cancel' hrange.1, UInt8.ofNat_toNat]

variable (t : DeviceText)

theorem generateDeviceId_str : generateDeviceId t.str = Hex.strtoull16 t.str := by
  rw [generateDeviceId, Hex.cString_of_digits t.lower.isxdigit]

theorem toNat_generateDeviceId : (generateDeviceId t.str).toNat = Hex.value t.str := by
  rw [generateDeviceId_str, Hex.toNat_strtoull16 t.lower (by rw [t.length_str]; decide)]

/-- Fourteen digits are 56 bits. -/
theorem toNat_generateDeviceId_lt : (generateDeviceId t.str).toNat < 2 ^ 56 := by
  have hlt := Hex.value_lt t.str t.lower.isxdigit
  rw [t.length_str] at hlt
  rw [toNat_generateDeviceId]
  exact hlt

end DeviceText

/-! ## §3. One encoding. -/

/-- Ids of 14 digits are printed whole. -/
theorem generateDeviceIdStr_of_lt {deviceId : UInt64} (garbage : UInt8)
    (hlt : deviceId.toNat < 2 ^ 56) :
    generateDeviceIdStrByDeviceId garbage deviceId = Hex.text 14 deviceId := by
  have hlen : (Hex.text 14 deviceId).length = 14 := by
    rw [Hex.text_of_lt hlt, Hex.length_fixed]
  simp only [generateDeviceIdStrByDeviceId, hlen]
  rw [List.take_left' (by rw [List.length_take, hlen, Nat.min_self]),
    List.take_of_length_le (Nat.le_of_eq hlen)]

/-- **Text and number of a 14-digit id are one encoding**: either reader gets
the id back from its text. -/
theorem generateDeviceId_generateDeviceIdStr {deviceId : UInt64} (garbage : UInt8)
    (hlt : deviceId.toNat < 2 ^ 56) :
    generateDeviceId (generateDeviceIdStrByDeviceId garbage deviceId) = deviceId := by
  rw [generateDeviceIdStr_of_lt garbage hlt, generateDeviceId, Hex.strtoull16_text]

/-- **The other way round**: a text of fourteen digits is printed again. -/
theorem DeviceText.generateDeviceIdStr_generateDeviceId (t : DeviceText) (garbage : UInt8) :
    generateDeviceIdStrByDeviceId garbage (generateDeviceId t.str) = t.str := by
  have hlt := t.toNat_generateDeviceId_lt
  rw [generateDeviceIdStr_of_lt garbage hlt, Hex.text_of_lt hlt, t.toNat_generateDeviceId,
    ← t.length_str, Hex.fixed_value t.str t.lower]

/-- Different texts are different channels. -/
theorem DeviceText.generateDeviceId_inj {t t' : DeviceText}
    (heq : generateDeviceId t.str = generateDeviceId t'.str) : t.str = t'.str := by
  rw [← t.generateDeviceIdStr_generateDeviceId 0, heq, t'.generateDeviceIdStr_generateDeviceId 0]

/-- **Channels named by fourteen decimal digits have different numbers.** -/
theorem generateDeviceId_inj {strDeviceId strDeviceId' : List UInt8}
    (h : checkDeviceIdStrFmt strDeviceId = true) (h' : checkDeviceIdStrFmt strDeviceId' = true)
    (heq : generateDeviceId strDeviceId = generateDeviceId strDeviceId') :
    strDeviceId = strDeviceId' :=
  @DeviceText.generateDeviceId_inj (.ofChecked strDeviceId h) (.ofChecked strDeviceId' h') heq

end MultiProcessServer
