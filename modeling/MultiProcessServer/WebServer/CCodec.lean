/-
  MultiProcessServer.WebServer.CCodec
  ───────────────────────────────────
  `class CCodec`, which decodes the audio of a car to 16-bit PCM.

  Main result:

    `in_bounds_iff` :
        the output buffer and the step table are never left exactly when every
        frame, without the HaiSi header, is of a size its codec expands to at
        most 2048 bytes.

  FFmpeg decodes G.726; what it answers is an input.
-/
import MultiProcessServer.WebServer.AudioCodecs
import MultiProcessServer.Lib.Runs

namespace MultiProcessServer

inductive AudioCodingType
  | eG711A
  | eG711U
  | eAdpcm
  | eG726
  | eUnSupport
  deriving DecidableEq, Repr

/-- What FFmpeg makes of a G.726 packet: `avcodec_send_packet` fails with a
negative number, there is no frame yet, or a frame of samples. -/
inductive FfmpegAnswer
  | sendFailed (error : Nat)
  | noFrame
  | frame (samples : List Int)
  deriving DecidableEq, Repr

/-- `DECODE_RESULT`, with the memory at `m_pOutBuf`.  Bytes written behind its
end make it longer. -/
structure DecodeResult where
  pOutBuf : List UInt8
  nOutBufLen : Int
  eType : AudioCodingType
  deriving DecidableEq, Repr

/-- The decoding half of the class.  `stepIndices` are the indices into
`stepsizeTable` so far. -/
structure CCodec where
  iResult : DecodeResult
  uPT : UInt8
  bDecodeFirstFrame : Bool
  bHaveHaiSiHeader : Bool
  g726DecoderCtx : Option Nat
  g726BitRate : Nat
  stepIndices : List Int
  deriving DecidableEq, Repr

namespace CCodec

def outBufLen : Nat := 2048

/-- The constructor, on whatever `new char[2048]` gives. -/
def new (memory : Vector UInt8 outBufLen) : CCodec where
  iResult := ⟨memory.toList, 2048, .eUnSupport⟩
  uPT := 0
  bDecodeFirstFrame := true
  bHaveHaiSiHeader := false
  g726DecoderCtx := none
  g726BitRate := 16000
  stepIndices := []

/-! ## §1. The HaiSi header. -/

def haveHaiSiHeader (pData : List UInt8) (nDataLen : Nat) : Bool :=
  if nDataLen < 4 then false
  else if pData.getD 0 0 ≠ 0x00 ∨ pData.getD 1 0 ≠ 0x01 ∨ pData.getD 3 0 ≠ 0x00 then false
  else
    -- a `char` with its high bit set becomes a large `uint16_t`
    let nBodyLen := (charToInt (pData.getD 2 0) % 65536).toNat
    nBodyLen * 2 == nDataLen - 4

variable (c : CCodec)

/-- What every decoder does first: the first frame tells whether there are
headers, and then every frame loses four bytes. -/
def stripHaiSiHeader (cInBuf : List UInt8) (nInBufLen : Int) : CCodec × List UInt8 × Int :=
  let c := if c.bDecodeFirstFrame then
      { c with
        bHaveHaiSiHeader := haveHaiSiHeader cInBuf (toSizeT nInBufLen)
        bDecodeFirstFrame := false }
    else c
  if c.bHaveHaiSiHeader then (c, cInBuf.drop 4, toInt (nInBufLen - 4)) else (c, cInBuf, nInBufLen)

/-! ## §2. The decoders. -/

/-- The result after `bytes` were written from the start of `m_pOutBuf`. -/
def result (bytes : List UInt8) (n : Int) (eType : AudioCodingType) : CCodec :=
  { c with iResult := ⟨bytes ++ c.iResult.pOutBuf.drop bytes.length, n, eType⟩ }

def decodeG711A2Pcm (pInBuf : List UInt8) (nInBufLen : Int) : CCodec :=
  let (c, cInBuf, nInBufLen) := c.stripHaiSiHeader pInBuf nInBufLen
  let (amp, nRet) := G711.g711a_decode cInBuf nInBufLen
  c.result (pcmBytes amp) nRet .eG711A

def decodeG711U2Pcm (pInBuf : List UInt8) (nInBufLen : Int) : CCodec :=
  let (c, cInBuf, nInBufLen) := c.stripHaiSiHeader pInBuf nInBufLen
  let (amp, nRet) := G711.g711u_decode cInBuf nInBufLen
  c.result (pcmBytes amp) nRet .eG711U

/-- The first four bytes are the state of the encoder.  An `int` that is
multiplied is not reduced. -/
def decodeAdpcm2Pcm (pInBuf : List UInt8) (nInBufLen : Int) : CCodec :=
  let (c, cInBuf, nInBufLen) := c.stripHaiSiHeader pInBuf nInBufLen
  let iAdpcmState : Adpcm.State :=
    { valprev := toShort (charToInt (cInBuf.getD 1 0) * 256 + (cInBuf.getD 0 0).toNat)
      index := charToInt (cInBuf.getD 2 0) }
  let nInBufLen := toInt (nInBufLen - 4)
  let decoder := Adpcm.adpcm_decoder (cInBuf.drop 4) (nInBufLen * 2) iAdpcmState
  { c with stepIndices := c.stepIndices ++ decoder.indices }.result (pcmBytes decoder.outp)
    (4 * nInBufLen) .eAdpcm

/-- The bit rate a decoder is made for, by the length of its first packet. -/
def g726Rate (nInBufLen : Int) : Nat :=
  if nInBufLen = 80 then 16000
  else if nInBufLen = 120 then 24000
  else if nInBufLen = 160 then 32000
  else 40000

/-- `decode` of `g726.cpp`: what it copies to `pcm`, and what it returns. -/
def g726Decode (outLen : Nat) : FfmpegAnswer → List UInt8 × Int
  | .sendFailed error => ([], -(error + 1))
  | .noFrame => ([], 0)
  | .frame samples =>
      let dataSize := 2 * samples.length
      ((pcmBytes samples).take (min outLen dataSize), dataSize)

/-- The decoder of FFmpeg is made with the first packet. -/
def initG726Decoder (nInBufLen : Int) : CCodec :=
  match c.g726DecoderCtx with
  | some _ => c
  | none => { c with
      g726DecoderCtx := some (g726Rate nInBufLen)
      g726BitRate := g726Rate nInBufLen }

def decodeG7262Pcm (pInBuf : List UInt8) (nInBufLen : Int) (ffmpeg : FfmpegAnswer) : CCodec :=
  let (c, _cInBuf, nInBufLen) := c.stripHaiSiHeader pInBuf nInBufLen
  let c := c.initG726Decoder nInBufLen
  let (pcm, n) := g726Decode 2048 ffmpeg
  c.result pcm n .eG726

/-- A frame to decode, and FFmpeg's answer if it is asked. -/
structure Frame where
  pInBuf : List UInt8
  eType : AudioCodingType
  ffmpeg : FfmpegAnswer
  deriving DecidableEq, Repr

/-- `DecodeAudio`, of a string's `c_str()` and `size()`. -/
def decodeAudio (frame : Frame) : CCodec :=
  let nInBufLen := toInt frame.pInBuf.length
  match frame.eType with
  | .eG711A => c.decodeG711A2Pcm frame.pInBuf nInBufLen
  | .eG711U => c.decodeG711U2Pcm frame.pInBuf nInBufLen
  | .eAdpcm => c.decodeAdpcm2Pcm frame.pInBuf nInBufLen
  | .eG726 => c.decodeG7262Pcm frame.pInBuf nInBufLen frame.ffmpeg
  | .eUnSupport => { c with iResult := { c.iResult with eType := .eUnSupport } }

/-! ## §3. Staying in the buffers. -/

/-- Nothing was written behind `m_pOutBuf`, the length is one of a part of it,
and `stepsizeTable` was not left. -/
structure InBounds (c : CCodec) : Prop where
  outBuf : c.iResult.pOutBuf.length = outBufLen
  outLen : 0 ≤ c.iResult.nOutBufLen ∧ c.iResult.nOutBufLen ≤ outBufLen
  indices : ∀ index ∈ c.stepIndices, 0 ≤ index ∧ index ≤ 88

instance : Decidable c.InBounds :=
  decidable_of_iff (c.iResult.pOutBuf.length = outBufLen
      ∧ (0 ≤ c.iResult.nOutBufLen ∧ c.iResult.nOutBufLen ≤ outBufLen)
      ∧ ∀ index ∈ c.stepIndices, 0 ≤ index ∧ index ≤ 88)
    ⟨fun h => ⟨h.1, h.2.1, h.2.2⟩, fun h => ⟨h.outBuf, h.outLen, h.indices⟩⟩

/-- The body of a frame, and its length as the decoders see it. -/
def body (frame : Frame) : List UInt8 × Int :=
  (c.stripHaiSiHeader frame.pInBuf (toInt frame.pInBuf.length)).2

/-- The body is not too long for its codec; of ADPCM it is not too short either,
and its index is one of the table; and FFmpeg decodes it. -/
def Fits (frame : Frame) : Prop :=
  match frame.eType with
  | .eG711A => (c.body frame).2 ≤ 1024
  | .eG711U => (c.body frame).2 ≤ 1024
  | .eAdpcm => 4 ≤ (c.body frame).2 ∧ (c.body frame).2 ≤ 516 ∧ (c.body frame).1.getD 2 0 ≤ 88
  | .eG726 =>
      match frame.ffmpeg with
      | .sendFailed _ => False
      | .noFrame => True
      | .frame samples => samples.length ≤ 1024
  | .eUnSupport => True

variable {c}

/-- The header is taken off, or there is none. -/
theorem stripHaiSiHeader_eq (c : CCodec) (cInBuf : List UInt8) (n : Int) :
    ∃ first header, (c.stripHaiSiHeader cInBuf n)
      = ({ c with bDecodeFirstFrame := first, bHaveHaiSiHeader := header },
          if header then cInBuf.drop 4 else cInBuf, if header then toInt (n - 4) else n) := by
  unfold stripHaiSiHeader
  cases hfirst : c.bDecodeFirstFrame with
  | true =>
      refine ⟨false, haveHaiSiHeader cInBuf (toSizeT n), ?_⟩
      cases haveHaiSiHeader cInBuf (toSizeT n) <;> rfl
  | false =>
      refine ⟨false, c.bHaveHaiSiHeader, ?_⟩
      obtain ⟨r, pt, first, header, ctx, rate, indices⟩ := c
      obtain rfl : first = false := hfirst
      cases header <;> rfl

/-- The decoders never count more bytes than there are, and the count is an
`int`. -/
theorem body_count (c : CCodec) (frame : Frame) :
    (c.body frame).2 ≤ (c.body frame).1.length
      ∧ -2147483648 ≤ (c.body frame).2 ∧ (c.body frame).2 < 2147483648 := by
  obtain ⟨first, header, heq⟩ :=
    stripHaiSiHeader_eq c frame.pInBuf (toInt frame.pInBuf.length)
  rw [body, heq]
  cases header with
  | false =>
      simp only [Bool.false_eq_true, if_false]
      exact ⟨toInt_le _, toInt_range _⟩
  | true =>
      simp only [if_true, List.length_drop]
      exact ⟨toInt_sub_le _, toInt_range _⟩

/-- Strip is the only thing a decoder does before it writes. -/
theorem stripHaiSiHeader_rest (c : CCodec) (cInBuf : List UInt8) (n : Int) :
    (c.stripHaiSiHeader cInBuf n).1.iResult = c.iResult
      ∧ (c.stripHaiSiHeader cInBuf n).1.stepIndices = c.stepIndices := by
  obtain ⟨first, header, heq⟩ := stripHaiSiHeader_eq c cInBuf n
  rw [heq]
  exact ⟨rfl, rfl⟩

/-- **A result** is in bounds if what was written and its length are. -/
theorem inBounds_result_iff (h : c.iResult.pOutBuf.length = outBufLen) (bytes : List UInt8)
    (n : Int) (eType : AudioCodingType) :
    (c.result bytes n eType).InBounds ↔ bytes.length ≤ outBufLen
      ∧ (0 ≤ n ∧ n ≤ outBufLen) ∧ ∀ index ∈ c.stepIndices, 0 ≤ index ∧ index ≤ 88 := by
  have hlength : (c.result bytes n eType).iResult.pOutBuf.length
      = bytes.length + (outBufLen - bytes.length) := by
    show (bytes ++ c.iResult.pOutBuf.drop bytes.length).length = _
    rw [List.length_append, List.length_drop, h]
  constructor
  · intro hbounds
    have houtBuf := hbounds.outBuf
    exact ⟨by omega, hbounds.outLen, hbounds.indices⟩
  · rintro ⟨hbytes, hn, hindices⟩
    exact ⟨by omega, hn, hindices⟩

/-- **G.711** makes two bytes of one. -/
theorem inBounds_g711_iff (h : c.InBounds) (linear : UInt8 → Int) (data : List UInt8) {m : Int}
    (hm : m ≤ data.length) (eType : AudioCodingType) :
    (c.result (pcmBytes (G711.decode linear data m).1) (G711.decode linear data m).2 eType).InBounds
      ↔ m ≤ 1024 := by
  -- there are at least `m` bytes, so `m` decides
  rw [inBounds_result_iff h.outBuf, length_pcmBytes, G711.length_decode, G711.decode_snd,
    and_iff_left h.indices]
  unfold outBufLen
  omega

/-- **ADPCM** makes four bytes of one, after the four of the state. -/
theorem inBounds_adpcm_iff (h : c.InBounds) (data : List UInt8) {m : Int}
    (hm : -2147483648 ≤ m ∧ m < 2147483648) (valprev : Int) (b : UInt8) :
    let decoder := Adpcm.adpcm_decoder data (toInt (m - 4) * 2) ⟨valprev, charToInt b⟩
    ({ c with stepIndices := c.stepIndices ++ decoder.indices }.result (pcmBytes decoder.outp)
        (4 * toInt (m - 4)) .eAdpcm).InBounds
      ↔ 4 ≤ m ∧ m ≤ 516 ∧ b ≤ 88 := by
  intro decoder
  have hindices : (∀ index ∈ c.stepIndices ++ decoder.indices, 0 ≤ index ∧ index ≤ 88)
      ↔ b ≤ 88 := by
    rw [List.forall_mem_append, and_iff_right h.indices, Adpcm.adpcm_decoder_indices,
      UInt8.le_iff_toNat_le]
    show 0 ≤ charToInt b ∧ charToInt b ≤ 88 ↔ b.toNat ≤ 88
    have hbyte := b.toNat_lt
    unfold charToInt
    split <;> omega
  have hlength : (pcmBytes decoder.outp).length = 2 * (toInt (m - 4) * 2).toNat := by
    rw [length_pcmBytes, Adpcm.adpcm_decoder_length]
  refine (inBounds_result_iff (c := { c with stepIndices := c.stepIndices ++ decoder.indices })
    h.outBuf _ _ _).trans ?_
  -- near the least `int` the difference becomes a large one
  have hm4 : toInt (m - 4) = m - 4 ∨ (m < -2147483644 ∧ 2147483644 ≤ toInt (m - 4)) := by
    unfold toInt
    omega
  have hsize : ((pcmBytes decoder.outp).length ≤ outBufLen
      ∧ 0 ≤ 4 * toInt (m - 4) ∧ 4 * toInt (m - 4) ≤ outBufLen) ↔ 4 ≤ m ∧ m ≤ 516 := by
    rw [hlength]
    unfold outBufLen
    omega
  rw [hindices, ← and_assoc, hsize, and_assoc]

theorem InBounds.initG726Decoder (h : c.InBounds) (n : Int) : (c.initG726Decoder n).InBounds := by
  unfold CCodec.initG726Decoder
  split
  · exact h
  · exact ⟨h.outBuf, h.outLen, h.indices⟩

/-- **G.726** is copied as far as there is room, but counted to the end. -/
theorem inBounds_g726_iff (h : c.InBounds) (ffmpeg : FfmpegAnswer) :
    (c.result (g726Decode 2048 ffmpeg).1 (g726Decode 2048 ffmpeg).2 .eG726).InBounds
      ↔ match ffmpeg with
        | .sendFailed _ => False
        | .noFrame => True
        | .frame samples => samples.length ≤ 1024 := by
  rw [inBounds_result_iff h.outBuf, and_iff_left h.indices]
  unfold outBufLen
  cases ffmpeg with
  | sendFailed error =>
      refine iff_of_false (fun hbounds => ?_) id
      have hn : (0 : Int) ≤ -(error + 1) := hbounds.2.1
      omega
  | noFrame => exact iff_of_true (by decide) trivial
  | frame samples =>
      show ((pcmBytes samples).take _).length ≤ _ ∧ 0 ≤ ((2 * samples.length : Nat) : Int)
        ∧ ((2 * samples.length : Nat) : Int) ≤ _ ↔ _
      rw [List.length_take, length_pcmBytes]
      omega

/-- **One frame** is decoded in bounds exactly if it fits. -/
theorem inBounds_decodeAudio_iff (h : c.InBounds) (frame : Frame) :
    (c.decodeAudio frame).InBounds ↔ c.Fits frame := by
  -- the decoders start from a codec that has looked for the header
  obtain ⟨hresult, hindices⟩ :=
    stripHaiSiHeader_rest c frame.pInBuf (toInt frame.pInBuf.length)
  have hstripped : (c.stripHaiSiHeader frame.pInBuf (toInt frame.pInBuf.length)).1.InBounds :=
    ⟨hresult ▸ h.outBuf, hresult ▸ h.outLen, hindices ▸ h.indices⟩
  obtain ⟨hcount, hint⟩ := body_count c frame
  obtain ⟨pInBuf, eType, ffmpeg⟩ := frame
  cases eType with
  | eG711A => exact inBounds_g711_iff hstripped _ _ hcount _
  | eG711U => exact inBounds_g711_iff hstripped _ _ hcount _
  | eAdpcm => exact inBounds_adpcm_iff hstripped _ hint _ _
  | eUnSupport => exact iff_of_true ⟨h.outBuf, h.outLen, h.indices⟩ trivial
  | eG726 => exact inBounds_g726_iff (hstripped.initG726Decoder _) ffmpeg

theorem inBounds_new (memory : Vector UInt8 outBufLen) : (new memory).InBounds where
  outBuf := memory.length_toList
  outLen := by
    show (0 : Int) ≤ 2048 ∧ (2048 : Int) ≤ (2048 : Nat)
    omega
  indices := nofun

/-- **When audio is decoded inside the buffers.**  For every sequence of frames,
of any bytes, lengths and coding types, and every answer of FFmpeg: up to every
frame nothing was written behind the 2048 bytes of `m_pOutBuf`, `m_nOutBufLen`
is one of its lengths and the step table was indexed from 0 to 88, exactly when
of every frame, without the HaiSi header if the first one had it: G.711 has 1024
bytes at most; ADPCM has 4 to 516 and its third is 88 at most; and FFmpeg gives
1024 samples at most, and no error, for G.726. -/
theorem in_bounds_iff (memory : Vector UInt8 outBufLen) (frames : List Frame) :
    (∀ pre, pre <+: frames → (Runs.run decodeAudio (new memory) pre).InBounds)
      ↔ Runs.Along decodeAudio Fits (new memory) frames :=
  Runs.always_iff_along InBounds (P := fun _ _ => True) (J := InBounds)
    (fun _ frame h _ hfits => (inBounds_decodeAudio_iff h frame).mpr hfits)
    (fun _ frame h _ => inBounds_decodeAudio_iff h frame) (inBounds_new memory)
    (inBounds_new memory) (Runs.along_of_forall (fun _ _ => trivial) frames _)

/-- An empty ADPCM frame, 1025 bytes of G.711, and a step index of 200. -/
theorem not_inBounds_first_frame :
    let decode (pInBuf : List UInt8) (eType : AudioCodingType) : CCodec :=
      (new (Vector.replicate outBufLen 0)).decodeAudio ⟨pInBuf, eType, .noFrame⟩
    ¬(decode [] .eAdpcm).InBounds
      ∧ ¬(decode (List.replicate 1025 0) .eG711A).InBounds
      ∧ ¬(decode [0, 0, 200, 0] .eAdpcm).InBounds := by
  intro decode
  refine ⟨fun h => ?_, fun h => ?_, fun h => ?_⟩
  · -- the length is -16
    exact absurd h.outLen (by decide +kernel)
  · exact absurd h.outLen (by decide +kernel)
  · -- the byte is a negative `char`
    exact absurd (h.indices (-56) (by decide +kernel)) (by decide)

end CCodec

end MultiProcessServer
