/-
  MultiProcessServer.WebServer.EncodeAudio
  ────────────────────────────────────────
  The encoding half of `class CCodec`, and what `DecodeAudio` makes of the
  frames `EncodeAudio` gives.

  The frame comes with its length in bytes.  ADPCM is told half of it, the
  number of samples; G.711 is told the length itself, and reads as many samples
  again from behind the frame.  An ADPCM frame begins with a state to decode it
  from.  It is the state behind the frame.

  Main result:

    `encode_decode_inverse` :
        of G.711 only the empty frame comes back; an ADPCM frame does if its
        samples lead the predictor back to where it was before the frame.
-/
import MultiProcessServer.WebServer.AudioEncoders
import MultiProcessServer.WebServer.HaiSiHeader

namespace MultiProcessServer

/-! ## §1. The encoding half. -/

/-- What FFmpeg makes of a PCM frame: `encode` of `g726.cpp` answers `0` or
less, or has a packet. -/
inductive G726Answer
  | failed (error : Nat)
  | packet (data : List UInt8)
  deriving DecidableEq, Repr

/-- The class with both halves: `m_resultEncode` and `m_adpcm_state_encode`. -/
structure EncodingCodec extends CCodec where
  resultEncode : DecodeResult
  adpcmStateEncode : Adpcm.State
  deriving DecidableEq, Repr

/-- The bytes at `pInBuf`, those behind them in memory, and FFmpeg's answer if
it is asked. -/
structure PcmFrame where
  pInBuf : List UInt8
  behind : List UInt8
  eType : AudioCodingType
  ffmpeg : G726Answer
  deriving DecidableEq, Repr

/-- The byte a `char` is in memory. -/
def charByte (n : Int) : UInt8 := UInt8.ofNat (n % 256).toNat

/-- Bytes written into a buffer. -/
def writeAt (buf : List UInt8) (start : Nat) (bytes : List UInt8) : List UInt8 :=
  buf.take start ++ bytes ++ buf.drop (start + bytes.length)

namespace EncodingCodec

open CCodec (outBufLen haiSiHeader addHaiSiHeader)

/-- The constructor, on whatever the two `new char[2048]` give. -/
def new (memory memoryEncode : Vector UInt8 outBufLen) : EncodingCodec where
  toCCodec := .new memory
  resultEncode := ⟨memoryEncode.toList, 2048, .eUnSupport⟩
  adpcmStateEncode := ⟨0, 0⟩

variable (c : EncodingCodec)

/-- `__EncodeG711A2Pcm` and `__EncodeG711U2Pcm`. -/
def encodeG711 (encode : List UInt8 → Int → List UInt8 × Int) (eType : AudioCodingType)
    (memory : List UInt8) (nInBufLen : Int) : EncodingCodec :=
  let (codes, nRet) := encode memory nInBufLen
  if c.bHaveHaiSiHeader then
    let pOutBuf := writeAt c.resultEncode.pOutBuf 4 codes
    { c with resultEncode := ⟨addHaiSiHeader pOutBuf (toSizeT nRet), 4 + nRet, eType⟩ }
  else
    { c with resultEncode := ⟨writeAt c.resultEncode.pOutBuf 0 codes, nRet, eType⟩ }

def encodeG711A2Pcm (memory : List UInt8) (nInBufLen : Int) : EncodingCodec :=
  c.encodeG711 G711.g711a_encode .eG711A memory nInBufLen

def encodeG711U2Pcm (memory : List UInt8) (nInBufLen : Int) : EncodingCodec :=
  c.encodeG711 G711.g711u_encode .eG711U memory nInBufLen

def encodeAdpcm2Pcm (memory : List UInt8) (nInBufLen : Int) : EncodingCodec :=
  let header := if c.bHaveHaiSiHeader then 4 else 0
  let pOutBuf := if c.bHaveHaiSiHeader then
      addHaiSiHeader c.resultEncode.pOutBuf (toSizeT (4 + nInBufLen.tdiv 4))
    else c.resultEncode.pOutBuf
  let len := nInBufLen.tdiv 2
  let coder := Adpcm.adpcm_coder (shorts memory len.toNat) len c.adpcmStateEncode
  let pOutBuf := writeAt pOutBuf (header + 4) coder.outp
  -- the coder has moved the state on
  let state := coder.state
  let pOutBuf := writeAt pOutBuf header (shortBytes state.valprev ++ [charByte state.index, 0x0])
  { c with
    resultEncode := ⟨pOutBuf, 4 + nInBufLen.tdiv 4 + header, .eAdpcm⟩
    adpcmStateEncode := state }

/-- `encode` of `g726.cpp`: what it copies to `g726_data`, and what it
returns. -/
def g726Encode (g726_len : Nat) : G726Answer → List UInt8 × Int
  | .failed error => ([], -error)
  | .packet data => (data.take g726_len, data.length)

def encodeG7262Pcm (ffmpeg : G726Answer) : EncodingCodec :=
  let header := if c.bHaveHaiSiHeader then 4 else 0
  let (data, n) := g726Encode (2048 - 4) ffmpeg
  let pOutBuf := writeAt c.resultEncode.pOutBuf header data
  let nOutBufLen := if n ≤ 0 then 0 else n
  if c.bHaveHaiSiHeader then
    { c with resultEncode := ⟨addHaiSiHeader pOutBuf (toSizeT n), nOutBufLen + 4, .eG726⟩ }
  else { c with resultEncode := ⟨pOutBuf, nOutBufLen, .eG726⟩ }

/-- `EncodeAudio`. -/
def encodeAudio (frame : PcmFrame) : EncodingCodec :=
  let memory := frame.pInBuf ++ frame.behind
  let nInBufLen := toInt frame.pInBuf.length
  match frame.eType with
  | .eG711A => c.encodeG711A2Pcm memory nInBufLen
  | .eG711U => c.encodeG711U2Pcm memory nInBufLen
  | .eAdpcm => c.encodeAdpcm2Pcm memory nInBufLen
  | .eG726 => c.encodeG7262Pcm frame.ffmpeg
  | .eUnSupport => { c with resultEncode := { c.resultEncode with eType := .eUnSupport } }

/-- The frame in `m_resultEncode`. -/
def encoded : List UInt8 := c.resultEncode.pOutBuf.take c.resultEncode.nOutBufLen.toNat

/-- A call of the class. -/
inductive Call
  | decode (frame : CCodec.Frame)
  | encode (frame : PcmFrame)

def step : EncodingCodec → Call → EncodingCodec
  | c, .decode frame => { c with toCCodec := c.toCCodec.decodeAudio frame }
  | c, .encode frame => c.encodeAudio frame

/-! ## §2. What is expected of a frame. -/

/-- The samples of a frame. -/
def samples (frame : PcmFrame) : List Int := shorts frame.pInBuf (frame.pInBuf.length / 2)

/-- What the encoder itself makes of the samples: the value of each code, or
its prediction after each sample. -/
def reconstruction (frame : PcmFrame) : List Int :=
  match frame.eType with
  | .eG711A => (samples frame).map fun val => toShort (G711.alaw2linear (G711.linear2alaw val))
  | .eG711U => (samples frame).map fun val => toShort (G711.ulaw2linear (G711.linear2ulaw val))
  | .eAdpcm =>
      (Adpcm.adpcm_coder (samples frame) (frame.pInBuf.length / 2 : Nat) c.adpcmStateEncode).preds
  | _ => []

/-- The codec after it has encoded a frame and decoded what it encoded. -/
def decoded (frame : PcmFrame) : CCodec :=
  (c.encodeAudio frame).toCCodec.decodeAudio ⟨(c.encodeAudio frame).encoded, frame.eType, .noFrame⟩

/-- The decoded frame has the length of the frame, and its samples are those the
encoder reconstructed. -/
structure Inverse (frame : PcmFrame) : Prop where
  length : (c.decoded frame).iResult.nOutBufLen = frame.pInBuf.length
  samples : (c.decoded frame).iResult.pOutBuf.take frame.pInBuf.length
    = pcmBytes (c.reconstruction frame)

/-- The predictor, driven by the samples from the state before the frame, ends
in a state from which the codes of the frame take it through the same values
again. -/
def ComesBack (frame : PcmFrame) : Prop :=
  Adpcm.predictor.Together c.adpcmStateEncode
    (Adpcm.predictor.drive c.adpcmStateEncode (samples frame))
    (Adpcm.predictor.codes c.adpcmStateEncode (samples frame))

instance (frame : PcmFrame) : Decidable (c.ComesBack frame) :=
  inferInstanceAs (Decidable (Predictor.Together _ _ _ _))

/-- The samples lead the predictor back to the state it had before the frame. -/
def Returns (frame : PcmFrame) : Prop :=
  Adpcm.predictor.drive c.adpcmStateEncode (samples frame) = c.adpcmStateEncode

instance (frame : PcmFrame) : Decidable (c.Returns frame) := inferInstanceAs (Decidable (_ = _))

/-! ## §3. Every history. -/

variable {c} {frame : PcmFrame}

/-- The buffer holds a frame, and the state of the encoder is sound. -/
structure Sound (c : EncodingCodec) : Prop where
  outBuf : outBufLen ≤ c.resultEncode.pOutBuf.length
  state : c.adpcmStateEncode.Sound

theorem length_writeAt {buf : List UInt8} {start : Nat} (bytes : List UInt8)
    (h : start ≤ buf.length) : buf.length ≤ (writeAt buf start bytes).length := by
  unfold writeAt
  rw [List.length_append, List.length_append, List.length_take, List.length_drop]
  omega

theorem length_addHaiSiHeader {buf : List UInt8} (n : Nat) (h : 4 ≤ buf.length) :
    (addHaiSiHeader buf n).length = buf.length := by
  unfold addHaiSiHeader haiSiHeader
  rw [List.length_append, List.length_drop]
  show 4 + (buf.length - 4) = buf.length
  omega

/-- A frame with its header is written inside the buffer. -/
theorem length_headed {buf : List UInt8} (bytes : List UInt8) (n : Nat)
    (h : 2048 ≤ buf.length) : 2048 ≤ (addHaiSiHeader (writeAt buf 4 bytes) n).length := by
  have hlen := length_writeAt bytes (show 4 ≤ buf.length by omega)
  rw [length_addHaiSiHeader _ (by omega)]
  omega

theorem sound_new (memory memoryEncode : Vector UInt8 outBufLen) :
    (new memory memoryEncode).Sound where
  outBuf := by
    show outBufLen ≤ memoryEncode.toList.length
    exact Nat.le_of_eq memoryEncode.length_toList.symm
  state := Adpcm.sound_zero

theorem Sound.encodeG711 (h : c.Sound) (encode : List UInt8 → Int → List UInt8 × Int)
    (eType : AudioCodingType) (memory : List UInt8) (n : Int) :
    (c.encodeG711 encode eType memory n).Sound := by
  have hbuf : 2048 ≤ c.resultEncode.pOutBuf.length := h.outBuf
  unfold EncodingCodec.encodeG711
  dsimp only
  split
  · exact ⟨length_headed _ _ hbuf, h.state⟩
  · exact ⟨Nat.le_trans hbuf (length_writeAt _ (Nat.zero_le _)), h.state⟩

theorem Sound.encodeAdpcm2Pcm (h : c.Sound) (memory : List UInt8) (n : Int) :
    (c.encodeAdpcm2Pcm memory n).Sound := by
  have hbuf : 2048 ≤ c.resultEncode.pOutBuf.length := h.outBuf
  refine ⟨?_, Adpcm.sound_adpcm_coder h.state _ _⟩
  unfold EncodingCodec.encodeAdpcm2Pcm
  dsimp only
  have hfirst : ∀ buf : List UInt8, 2048 ≤ buf.length → ∀ start, start ≤ 8 → ∀ bytes,
      2048 ≤ (writeAt buf start bytes).length :=
    fun buf hbuf start hstart bytes => Nat.le_trans hbuf (length_writeAt bytes (by omega))
  split
  · have hheader := length_addHaiSiHeader (toSizeT (4 + n.tdiv 4))
      (show 4 ≤ c.resultEncode.pOutBuf.length by omega)
    exact hfirst _ (hfirst _ (by omega) _ (by decide) _) _ (by decide) _
  · exact hfirst _ (hfirst _ hbuf _ (by decide) _) _ (by decide) _

theorem Sound.encodeG7262Pcm (h : c.Sound) (ffmpeg : G726Answer) :
    (c.encodeG7262Pcm ffmpeg).Sound := by
  have hbuf : 2048 ≤ c.resultEncode.pOutBuf.length := h.outBuf
  unfold EncodingCodec.encodeG7262Pcm
  dsimp only
  split
  · exact ⟨length_headed _ _ hbuf, h.state⟩
  · exact ⟨Nat.le_trans hbuf (length_writeAt _ (Nat.zero_le _)), h.state⟩

/-- **One call.** -/
theorem Sound.step (h : c.Sound) (call : Call) : (c.step call).Sound := by
  cases call with
  | decode frame => exact ⟨h.outBuf, h.state⟩
  | encode frame =>
      obtain ⟨pInBuf, behind, eType, ffmpeg⟩ := frame
      cases eType with
      | eG711A => exact h.encodeG711 G711.g711a_encode .eG711A _ _
      | eG711U => exact h.encodeG711 G711.g711u_encode .eG711U _ _
      | eAdpcm => exact h.encodeAdpcm2Pcm _ _
      | eG726 => exact h.encodeG7262Pcm _
      | eUnSupport => exact ⟨h.outBuf, h.state⟩

theorem sound_run (memory memoryEncode : Vector UInt8 outBufLen) (calls : List Call) :
    (Runs.run EncodingCodec.step (new memory memoryEncode) calls).Sound :=
  Runs.run_invariant (P := fun _ _ => True) (fun _ call h _ => h.step call)
    (sound_new memory memoryEncode) (Runs.along_of_forall (fun _ _ => trivial) calls _)

/-! ## §4. What `DecodeAudio` is given. -/

/-- The header of an encoded frame, or nothing. -/
def front (c : CCodec) (len : UInt8) : List UInt8 :=
  if c.bHaveHaiSiHeader then haiSiHeader len else []

/-- A codec that knows of its headers takes the header off. -/
theorem strip_front {c : CCodec} (hfirst : c.bDecodeFirstFrame = false) (len : UInt8)
    {body : List UInt8} (hbody : body.length ≤ 2048) :
    c.stripHaiSiHeader (front c len ++ body) (toInt (front c len ++ body).length)
      = (c, body, (body.length : Int)) := by
  have hstrip : ∀ cInBuf n, c.stripHaiSiHeader cInBuf n
      = if c.bHaveHaiSiHeader then (c, cInBuf.drop 4, toInt (n - 4)) else (c, cInBuf, n) := by
    intro cInBuf n
    unfold CCodec.stripHaiSiHeader
    rw [hfirst]
    rfl
  rw [hstrip]
  unfold front
  -- a frame is short, so its length is the same `int` with the header and without it
  cases c.bHaveHaiSiHeader with
  | false =>
      have hint : toInt body.length = body.length := by
        unfold toInt
        omega
      show (c, body, toInt body.length) = _
      rw [hint]
  | true =>
      have hint : toInt (toInt (haiSiHeader len ++ body).length - 4) = body.length := by
        rw [List.length_append, show (haiSiHeader len).length = 4 from rfl]
        unfold toInt
        omega
      show (c, body, toInt (toInt (haiSiHeader len ++ body).length - 4)) = _
      rw [hint]

/-- The bytes written, behind what was there. -/
theorem take_writeAt {buf : List UInt8} {start : Nat} (bytes : List UInt8)
    (h : start ≤ buf.length) :
    (writeAt buf start bytes).take (start + bytes.length) = buf.take start ++ bytes := by
  unfold writeAt
  refine List.take_left' ?_
  rw [List.length_append, List.length_take, Nat.min_eq_left h]

/-- Four bytes in front of others. -/
theorem take_writeAt_writeAt {buf : List UInt8} {start : Nat} (first second : List UInt8)
    (hfirst : first.length = 4) (h : start + 4 ≤ buf.length) :
    (writeAt (writeAt buf (start + 4) second) start first).take (start + 4 + second.length)
      = buf.take start ++ (first ++ second) := by
  have htake : (writeAt buf (start + 4) second).take start = buf.take start := by
    unfold writeAt
    rw [List.append_assoc, List.take_append_of_le_length (by rw [List.length_take]; omega),
      List.take_take, Nat.min_eq_left (by omega)]
  have hdrop : (writeAt buf (start + 4) second).drop (start + first.length)
      = second ++ buf.drop (start + 4 + second.length) := by
    unfold writeAt
    rw [hfirst, List.append_assoc]
    exact List.drop_left' (by rw [List.length_take]; omega)
  rw [writeAt, htake, hdrop, ← List.append_assoc, ← List.append_assoc (buf.take start)]
  refine List.take_left' ?_
  rw [List.length_append, List.length_append, List.length_take, hfirst]
  omega

/-- A header over the first four bytes, and what was written behind them. -/
theorem take_addHaiSiHeader {buf : List UInt8} (n : Nat) (bytes : List UInt8)
    (h : 4 ≤ buf.length) :
    (addHaiSiHeader (writeAt buf 4 bytes) n).take (4 + bytes.length)
      = haiSiHeader (UInt8.ofNat (n / 2)) ++ bytes := by
  have hdrop : (writeAt buf 4 bytes).drop 4 = bytes ++ buf.drop (4 + bytes.length) := by
    unfold writeAt
    rw [List.append_assoc]
    exact List.drop_left' (by rw [List.length_take]; omega)
  rw [addHaiSiHeader, hdrop, ← List.append_assoc]
  refine List.take_left' ?_
  rw [List.length_append]
  rfl

/-! ## §5. G.711. -/

/-- **A G.711 frame** has a code for every byte it was given. -/
theorem encoded_g711 (h : c.Sound) (code : Int → UInt8) (eType : AudioCodingType)
    (memory : List UInt8) (n : Nat) :
    ∃ len, (c.encodeG711 (G711.encode code) eType memory n).encoded
      = front c.toCCodec len ++ (G711.encode code memory n).1 := by
  have hbuf : 2048 ≤ c.resultEncode.pOutBuf.length := h.outBuf
  have hlength := G711.length_encode code memory n
  refine ⟨UInt8.ofNat (toSizeT (G711.encode code memory n).2 / 2), ?_⟩
  unfold EncodingCodec.encodeG711 encoded front
  dsimp only
  cases c.bHaveHaiSiHeader with
  | false =>
      have hn : ((G711.encode code memory n).2).toNat
          = 0 + (G711.encode code memory n).1.length := by
        rw [hlength, Nat.zero_add]
        rfl
      show (writeAt c.resultEncode.pOutBuf 0 _).take ((G711.encode code memory n).2).toNat = _
      rw [hn, take_writeAt _ (Nat.zero_le _)]
      rfl
  | true =>
      have hn : (4 + (G711.encode code memory n).2).toNat
          = 4 + (G711.encode code memory n).1.length := by
        rw [hlength]
        show (4 + (n : Int)).toNat = 4 + n
        omega
      show (addHaiSiHeader _ _).take (4 + (G711.encode code memory n).2).toNat = _
      rw [hn, take_addHaiSiHeader _ _ (by omega)]
      rfl

/-- The decoders make a sample of every code. -/
theorem decode_codes {c : CCodec} (hfirst : c.bDecodeFirstFrame = false) (len : UInt8)
    {codes : List UInt8} (hle : codes.length ≤ 2048) :
    let nInBufLen := toInt (front c len ++ codes).length
    c.decodeG711A2Pcm (front c len ++ codes) nInBufLen
        = c.result (pcmBytes (codes.map fun code => toShort (G711.alaw2linear code)))
          (2 * codes.length) .eG711A
      ∧ c.decodeG711U2Pcm (front c len ++ codes) nInBufLen
        = c.result (pcmBytes (codes.map fun code => toShort (G711.ulaw2linear code)))
          (2 * codes.length) .eG711U := by
  have hdecode : ∀ linear : UInt8 → Int, G711.decode linear codes codes.length
      = (codes.map fun code => toShort (linear code), 2 * (codes.length : Int)) := by
    intro linear
    unfold G711.decode
    dsimp only
    rw [Int.toNat_natCast, List.take_length, List.length_map]
  dsimp only
  unfold CCodec.decodeG711A2Pcm CCodec.decodeG711U2Pcm G711.g711a_decode G711.g711u_decode
  rw [strip_front hfirst len hle]
  dsimp only
  rw [hdecode, hdecode]
  exact ⟨rfl, rfl⟩

/-- Encoding leaves the decoding half alone. -/
theorem toCCodec_encodeAudio (c : EncodingCodec) (frame : PcmFrame) :
    (c.encodeAudio frame).toCCodec = c.toCCodec := by
  have hg711 : ∀ encode eType memory n,
      (c.encodeG711 encode eType memory n).toCCodec = c.toCCodec := by
    intro encode eType memory n
    unfold encodeG711
    dsimp only
    split <;> rfl
  obtain ⟨pInBuf, behind, eType, ffmpeg⟩ := frame
  cases eType with
  | eG711A => exact hg711 G711.g711a_encode .eG711A _ _
  | eG711U => exact hg711 G711.g711u_encode .eG711U _ _
  | eAdpcm => rfl
  | eG726 =>
      show (c.encodeG7262Pcm ffmpeg).toCCodec = c.toCCodec
      unfold encodeG7262Pcm
      dsimp only
      split <;> rfl
  | eUnSupport => rfl

/-- A length up to 1024 bytes is an `int`. -/
theorem toInt_of_le {n : Nat} (hle : n ≤ 1024) : toInt n = n := by
  unfold toInt
  omega

/-- **A G.711 frame decoded**: a sample for every byte of the frame, from the
frame and from behind it. -/
theorem decoded_g711 (h : c.Sound) (hfirst : c.bDecodeFirstFrame = false)
    (htype : frame.eType = .eG711A ∨ frame.eType = .eG711U) (hle : frame.pInBuf.length ≤ 1024) :
    ∃ value : Int → Int, c.reconstruction frame = (samples frame).map value
      ∧ c.decoded frame = c.toCCodec.result
        (pcmBytes ((shorts (frame.pInBuf ++ frame.behind) frame.pInBuf.length).map value))
        (2 * frame.pInBuf.length) frame.eType := by
  obtain ⟨pInBuf, behind, eType, ffmpeg⟩ := frame
  have hint : toInt pInBuf.length = pInBuf.length := toInt_of_le hle
  -- either law, by the functions of its encoder and its decoder
  have hlaw : ∀ (code : Int → UInt8) (linear : UInt8 → Int),
      (c.encodeAudio ⟨pInBuf, behind, eType, ffmpeg⟩).encoded
        = (c.encodeG711 (G711.encode code) eType (pInBuf ++ behind) pInBuf.length).encoded →
      (∀ len codes, codes.length ≤ 2048 →
        c.toCCodec.decodeAudio ⟨front c.toCCodec len ++ codes, eType, .noFrame⟩
          = c.toCCodec.result (pcmBytes (codes.map fun code => toShort (linear code)))
            (2 * codes.length) eType) →
      c.decoded ⟨pInBuf, behind, eType, ffmpeg⟩ = c.toCCodec.result
        (pcmBytes ((shorts (pInBuf ++ behind) pInBuf.length).map
          fun val => toShort (linear (code val)))) (2 * pInBuf.length) eType := by
    intro code linear hencode hdecode
    have hcodes := G711.length_encode code (pInBuf ++ behind) pInBuf.length
    obtain ⟨len, hencoded⟩ := encoded_g711 h code eType (pInBuf ++ behind) pInBuf.length
    have hbody : (G711.encode code (pInBuf ++ behind) pInBuf.length).1.length ≤ 2048 := by
      rw [hcodes]
      exact Nat.le_trans hle (by decide)
    rw [decoded, toCCodec_encodeAudio, hencode, hencoded]
    refine (hdecode len _ hbody).trans ?_
    rw [hcodes, G711.encode, List.map_map]
    rfl
  rcases htype with htype | htype
  · obtain rfl : eType = .eG711A := htype
    refine ⟨_, rfl, hlaw G711.linear2alaw G711.alaw2linear ?_ ?_⟩
    · rw [← hint]
      rfl
    · exact fun len codes hcodes => (decode_codes hfirst len hcodes).1
  · obtain rfl : eType = .eG711U := htype
    refine ⟨_, rfl, hlaw G711.linear2ulaw G711.ulaw2linear ?_ ?_⟩
    · rw [← hint]
      rfl
    · exact fun len codes hcodes => (decode_codes hfirst len hcodes).2

/-- The first samples, in bytes. -/
theorem take_pcmBytes (n : Nat) : ∀ xs : List Int,
    (pcmBytes xs).take (2 * n) = pcmBytes (xs.take n) := by
  induction n with
  | zero => exact fun _ => rfl
  | succ n ih =>
      intro xs
      cases xs with
      | nil => rfl
      | cons x xs =>
          show (shortBytes x ++ pcmBytes xs).take (2 * (n + 1))
            = shortBytes x ++ pcmBytes (xs.take n)
          rw [← ih, show 2 * (n + 1) = (shortBytes x).length + 2 * n by
            rw [length_shortBytes]; omega]
          exact List.take_length_add_append _

/-- The samples of the frame itself come back. -/
theorem samples_decoded_g711 (h : c.Sound) (hfirst : c.bDecodeFirstFrame = false)
    (htype : frame.eType = .eG711A ∨ frame.eType = .eG711U)
    (hlen : frame.pInBuf.length % 4 = 0) (hle : frame.pInBuf.length ≤ 1024) :
    (c.decoded frame).iResult.pOutBuf.take frame.pInBuf.length
      = pcmBytes (c.reconstruction frame) := by
  obtain ⟨value, hreconstruction, hdecoded⟩ := decoded_g711 h hfirst htype hle
  have hhalf : frame.pInBuf.length = 2 * (frame.pInBuf.length / 2) := by omega
  -- the first half of the samples read are those of the frame
  have htake : (shorts (frame.pInBuf ++ frame.behind) frame.pInBuf.length).take
      (frame.pInBuf.length / 2) = samples frame := by
    have happend : shorts (frame.pInBuf ++ frame.behind) (frame.pInBuf.length / 2)
        = samples frame := shorts_append (by omega)
    rw [← happend]
    exact take_shorts _ (by omega)
  have henough : frame.pInBuf.length ≤ (pcmBytes ((shorts (frame.pInBuf ++ frame.behind)
      frame.pInBuf.length).map value)).length := by
    rw [length_pcmBytes, List.length_map, length_shorts]
    omega
  have hpcm := take_pcmBytes (frame.pInBuf.length / 2)
    ((shorts (frame.pInBuf ++ frame.behind) frame.pInBuf.length).map value)
  rw [← hhalf, ← List.map_take, htake] at hpcm
  rw [hreconstruction, hdecoded, ← hpcm]
  exact List.take_append_of_le_length henough

/-- **Of G.711** only the empty frame comes back: every other is followed by as
many samples again. -/
theorem inverse_g711_iff (h : c.Sound) (hfirst : c.bDecodeFirstFrame = false)
    (htype : frame.eType = .eG711A ∨ frame.eType = .eG711U)
    (hlen : frame.pInBuf.length % 4 = 0) (hle : frame.pInBuf.length ≤ 1024) :
    c.Inverse frame ↔ frame.pInBuf = [] := by
  obtain ⟨value, -, hdecoded⟩ := decoded_g711 h hfirst htype hle
  have hlength : (c.decoded frame).iResult.nOutBufLen = 2 * frame.pInBuf.length := by
    rw [hdecoded]
    rfl
  have hsamples := samples_decoded_g711 h hfirst htype hlen hle
  rw [← List.length_eq_zero_iff]
  constructor
  · intro hinverse
    have hsame := hinverse.length
    omega
  · exact fun hnil => ⟨by omega, hsamples⟩

/-! ## §6. ADPCM. -/

/-- The state and the codes of an ADPCM frame. -/
def adpcmBody (state : Adpcm.State) (codes : List Nat) : List UInt8 :=
  shortBytes state.valprev ++ [charByte state.index, 0x0] ++ Adpcm.packed codes

theorem length_adpcmBody (state : Adpcm.State) (codes : List Nat) :
    (adpcmBody state codes).length = 4 + codes.length / 2 := by
  unfold adpcmBody
  rw [List.length_append, List.length_append, length_shortBytes, Adpcm.length_packed]
  rfl

/-- The state at the head of a frame is read back. -/
theorem read_state {state : Adpcm.State} (h : state.Sound) (codes : List Nat) :
    toShort (charToInt ((adpcmBody state codes).getD 1 0) * 256
        + ((adpcmBody state codes).getD 0 0).toNat) = state.valprev
      ∧ charToInt ((adpcmBody state codes).getD 2 0) = state.index := by
  have hvalprev := h.valprev
  have hindex := h.index
  have hbytes : adpcmBody state codes
      = UInt8.ofNat (state.valprev % 65536).toNat
        :: UInt8.ofNat ((state.valprev % 65536).toNat / 256)
        :: charByte state.index :: 0x0 :: Adpcm.packed codes := rfl
  rw [hbytes]
  simp only [List.getD_cons_zero, List.getD_cons_succ]
  unfold charByte charToInt toShort
  rw [UInt8.toNat_ofNat', UInt8.toNat_ofNat', UInt8.toNat_ofNat']
  constructor
  · split <;> omega
  · split <;> omega

/-- **A frame of codes** is replayed from the state in front of them. -/
theorem decoded_adpcm {c : CCodec} (hfirst : c.bDecodeFirstFrame = false) (len : UInt8)
    {state : Adpcm.State} (hstate : state.Sound) {codes : List Nat}
    (heven : codes.length % 2 = 0) (hle : codes.length ≤ 1024) (hlt : ∀ k ∈ codes, k < 16) :
    let d := c.decodeAdpcm2Pcm (front c len ++ adpcmBody state codes)
      (toInt (front c len ++ adpcmBody state codes).length)
    d.iResult.nOutBufLen = 2 * codes.length
      ∧ d.iResult.pOutBuf.take (2 * codes.length)
        = pcmBytes (Adpcm.predictor.replay state codes) := by
  have hlength := length_adpcmBody state codes
  obtain ⟨hvalprev, hindex⟩ := read_state hstate codes
  -- behind the state every byte has two codes
  have hcount : toInt (((adpcmBody state codes).length : Int) - 4) = (codes.length / 2 : Nat) := by
    rw [hlength]
    unfold toInt
    omega
  have hsamples : ((codes.length / 2 : Nat) : Int) * 2 = codes.length := by omega
  have hdrop : (adpcmBody state codes).drop 4 = Adpcm.packed codes ++ [] := by
    rw [List.append_nil]
    rfl
  have hreplay := Adpcm.adpcm_decoder_eq state [] heven hlt
  dsimp only
  unfold CCodec.decodeAdpcm2Pcm
  rw [strip_front hfirst len (by omega)]
  dsimp only
  rw [hvalprev, hindex, hcount, hsamples, hdrop]
  refine ⟨?_, ?_⟩
  · show 4 * ((codes.length / 2 : Nat) : Int) = 2 * codes.length
    omega
  · show (pcmBytes (Adpcm.adpcm_decoder _ _ _).outp ++ _).take (2 * codes.length) = _
    rw [hreplay]
    refine List.take_left' ?_
    rw [length_pcmBytes, Predictor.length_replay]

/-- What the coder makes of a frame. -/
theorem adpcm_coder_samples (h : c.Sound) (hlen : frame.pInBuf.length % 4 = 0) :
    let coder := Adpcm.adpcm_coder (samples frame) (frame.pInBuf.length / 2 : Nat)
      c.adpcmStateEncode
    coder.outp = Adpcm.packed (Adpcm.predictor.codes c.adpcmStateEncode (samples frame))
      ∧ coder.preds = Adpcm.predictor.trace c.adpcmStateEncode (samples frame)
      ∧ coder.state = Adpcm.predictor.drive c.adpcmStateEncode (samples frame) := by
  have hlength : (samples frame).length = frame.pInBuf.length / 2 := length_shorts _ _
  have heq := Adpcm.adpcm_coder_eq h.state (show (samples frame).length % 2 = 0 by omega)
  rw [hlength] at heq
  exact heq

/-- What lies in the buffer after an ADPCM frame was written. -/
theorem take_adpcmBuffer {buf : List UInt8} (hbuf : 2048 ≤ buf.length) (flag : Bool) (n : Nat)
    (state : Adpcm.State) (codes : List Nat) :
    (writeAt (writeAt (if flag then addHaiSiHeader buf n else buf) ((if flag then 4 else 0) + 4)
        (Adpcm.packed codes)) (if flag then 4 else 0)
        (shortBytes state.valprev ++ [charByte state.index, 0x0])).take
      ((if flag then 4 else 0) + 4 + (Adpcm.packed codes).length)
      = (if flag then haiSiHeader (UInt8.ofNat (n / 2)) else []) ++ adpcmBody state codes := by
  have hstate : (shortBytes state.valprev ++ [charByte state.index, 0x0]).length = 4 := by
    rw [List.length_append, length_shortBytes]
    rfl
  cases flag with
  | false => exact take_writeAt_writeAt _ _ hstate (show 0 + 4 ≤ buf.length by omega)
  | true =>
      have hheader := length_addHaiSiHeader n (show 4 ≤ buf.length by omega)
      exact take_writeAt_writeAt _ _ hstate (show 4 + 4 ≤ (addHaiSiHeader buf n).length by omega)

/-- **An ADPCM frame**: the state the samples leave, and their codes. -/
theorem encoded_adpcm (h : c.Sound) (htype : frame.eType = .eAdpcm)
    (hlen : frame.pInBuf.length % 4 = 0) (hle : frame.pInBuf.length ≤ 1024) :
    ∃ len, (c.encodeAudio frame).encoded = front c.toCCodec len
      ++ adpcmBody (Adpcm.predictor.drive c.adpcmStateEncode (samples frame))
        (Adpcm.predictor.codes c.adpcmStateEncode (samples frame)) := by
  have hbuf : 2048 ≤ c.resultEncode.pOutBuf.length := h.outBuf
  obtain ⟨houtp, -, hstate⟩ := adpcm_coder_samples h hlen
  have hshorts : shorts (frame.pInBuf ++ frame.behind) (frame.pInBuf.length / 2)
      = samples frame := shorts_append (by omega)
  have hlength : (Adpcm.packed (Adpcm.predictor.codes c.adpcmStateEncode (samples frame))).length
      = frame.pInBuf.length / 4 := by
    rw [Adpcm.length_packed, Predictor.length_codes]
    show (shorts _ _).length / 2 = _
    rw [length_shorts]
    omega
  obtain ⟨pInBuf, behind, eType, ffmpeg⟩ := frame
  obtain rfl : eType = .eAdpcm := htype
  refine ⟨UInt8.ofNat (toSizeT (4 + (pInBuf.length / 4 : Nat)) / 2), ?_⟩
  show (c.encodeAdpcm2Pcm (pInBuf ++ behind) (toInt pInBuf.length)).encoded = _
  rw [toInt_of_le hle]
  -- a sample has two bytes, and a byte of the frame two samples
  have htdiv2 : ((pInBuf.length : Int).tdiv 2) = (pInBuf.length / 2 : Nat) := rfl
  have htdiv4 : ((pInBuf.length : Int).tdiv 4) = (pInBuf.length / 4 : Nat) := rfl
  unfold encodeAdpcm2Pcm encoded front
  dsimp only
  rw [htdiv2, htdiv4, Int.toNat_natCast, hshorts, houtp, hstate]
  generalize c.bHaveHaiSiHeader = flag
  have hcount :
      (4 + ((pInBuf.length / 4 : Nat) : Int) + ((if flag then 4 else 0 : Nat) : Int)).toNat
      = (if flag then 4 else 0) + 4 + (Adpcm.packed (Adpcm.predictor.codes c.adpcmStateEncode
        (samples ⟨pInBuf, behind, .eAdpcm, ffmpeg⟩))).length := by
    rw [hlength]
    dsimp only
    split <;> omega
  rw [hcount]
  exact take_adpcmBuffer hbuf flag _ _ _

/-- Samples of 16 bits are told apart by their bytes. -/
theorem pcmBytes_inj {xs : List Int} : ∀ {ys : List Int}, xs.length = ys.length →
    (∀ n ∈ xs, -32768 ≤ n ∧ n ≤ 32767) → (∀ n ∈ ys, -32768 ≤ n ∧ n ≤ 32767) →
      pcmBytes xs = pcmBytes ys → xs = ys := by
  induction xs with
  | nil => exact fun hlength _ _ _ => (List.length_eq_zero_iff.mp hlength.symm).symm
  | cons x xs ih =>
      intro ys hlength hxs hys h
      cases ys with
      | nil => cases hlength
      | cons y ys =>
          -- in the range of a `short` the two bytes say which number it is
          have hx := hxs x List.mem_cons_self
          have hy := hys y List.mem_cons_self
          have happend : shortBytes x ++ pcmBytes xs = shortBytes y ++ pcmBytes ys := h
          obtain ⟨hshort, hrest⟩ := List.append_inj happend (by
            rw [length_shortBytes, length_shortBytes])
          have hvalue := congrArg Endian.ofLE hshort
          unfold shortBytes at hvalue
          rw [Endian.ofLE_leBytes_of_lt (show _ < 65536 by omega),
            Endian.ofLE_leBytes_of_lt (show _ < 65536 by omega)] at hvalue
          have hxs' := ih (Nat.succ.inj hlength) (fun n hn => hxs n (List.mem_cons_of_mem x hn))
            (fun n hn => hys n (List.mem_cons_of_mem y hn)) hrest
          rw [hxs', show x = y by omega]

/-- The values of a predictor are 16-bit samples. -/
theorem replay_range (codes : List Nat) : ∀ (s : Adpcm.State),
    ∀ n ∈ Adpcm.predictor.replay s codes, -32768 ≤ n ∧ n ≤ 32767 := by
  induction codes with
  | nil => exact fun _ => List.forall_mem_nil _
  | cons k codes ih =>
      exact fun s => List.forall_mem_cons.mpr ⟨(Adpcm.sound_advance s k).valprev, ih _⟩

/-- **An ADPCM frame** comes back exactly if the predictor does. -/
theorem inverse_adpcm_iff (h : c.Sound) (hfirst : c.bDecodeFirstFrame = false)
    (htype : frame.eType = .eAdpcm) (hlen : frame.pInBuf.length % 4 = 0)
    (hle : frame.pInBuf.length ≤ 1024) : c.Inverse frame ↔ c.ComesBack frame := by
  obtain ⟨len, hencoded⟩ := encoded_adpcm h htype hlen hle
  obtain ⟨-, hpreds, -⟩ := adpcm_coder_samples h hlen
  have hcodes : (Adpcm.predictor.codes c.adpcmStateEncode (samples frame)).length
      = frame.pInBuf.length / 2 := by
    rw [Predictor.length_codes]
    exact length_shorts _ _
  obtain ⟨hlength, hsamples⟩ := decoded_adpcm hfirst len
    (Adpcm.sound_drive h.state (samples frame)) (by omega) (by omega)
    (Adpcm.codes_lt (samples frame) c.adpcmStateEncode)
  have hdecoded : c.decoded frame = c.toCCodec.decodeAdpcm2Pcm (c.encodeAudio frame).encoded
      (toInt (c.encodeAudio frame).encoded.length) := by
    rw [decoded, toCCodec_encodeAudio, htype]
    rfl
  have hhalf : 2 * (frame.pInBuf.length / 2) = frame.pInBuf.length := by omega
  rw [← hencoded, ← hdecoded, hcodes] at hlength
  rw [← hencoded, ← hdecoded, hcodes, hhalf] at hsamples
  have hreconstruction : c.reconstruction frame
      = Adpcm.predictor.trace c.adpcmStateEncode (samples frame) := by
    unfold reconstruction
    rw [htype]
    exact hpreds
  -- the bytes are the same if the samples are
  have hbytes : pcmBytes (Adpcm.predictor.replay
        (Adpcm.predictor.drive c.adpcmStateEncode (samples frame))
        (Adpcm.predictor.codes c.adpcmStateEncode (samples frame)))
      = pcmBytes (Adpcm.predictor.trace c.adpcmStateEncode (samples frame))
      ↔ c.ComesBack frame := by
    refine Iff.trans ⟨fun hsame => ?_, congrArg pcmBytes⟩ (Predictor.replay_eq_trace_iff _)
    rw [← Predictor.replay_codes] at hsame ⊢
    refine pcmBytes_inj ?_ (replay_range _ _) (replay_range _ _) hsame
    rw [Predictor.length_replay, Predictor.length_replay]
  rw [← hbytes, ← hsamples, ← hreconstruction]
  refine ⟨fun hinverse => hinverse.samples, fun h => ⟨?_, h⟩⟩
  rw [hlength]
  omega

/-- From one state the codes lead through the same values twice. -/
theorem Returns.comesBack (h : c.Returns frame) : c.ComesBack frame := by
  unfold ComesBack
  rw [show Adpcm.predictor.drive c.adpcmStateEncode (samples frame) = c.adpcmStateEncode from h]
  exact Predictor.together_self _ _

/-! ## §7. After every history. -/

/-- **When an encoded frame comes back.**  For every history of calls after
which the codec knows of its headers, and every frame of whole pairs of 16-bit
samples, up to 1024 bytes, with anything behind it in memory: `DecodeAudio` of
what `EncodeAudio` gives has the length of the frame and the samples the encoder
reconstructed, for G.711 exactly if the frame is empty, and for ADPCM if the
samples lead the predictor back to the state before the frame, as no samples
do. -/
theorem encode_decode_inverse (memory memoryEncode : Vector UInt8 outBufLen)
    (calls : List Call) (frame : PcmFrame)
    (hfirst : (Runs.run step (new memory memoryEncode) calls).bDecodeFirstFrame = false)
    (hlen : frame.pInBuf.length % 4 = 0) (hle : frame.pInBuf.length ≤ 1024) :
    (frame.eType = .eG711A ∨ frame.eType = .eG711U →
        ((Runs.run step (new memory memoryEncode) calls).Inverse frame ↔ frame.pInBuf = []))
      ∧ (frame.eType = .eAdpcm → (Runs.run step (new memory memoryEncode) calls).Returns frame →
        (Runs.run step (new memory memoryEncode) calls).Inverse frame)
      ∧ (frame.pInBuf = [] → (Runs.run step (new memory memoryEncode) calls).Returns frame) := by
  have hsound := sound_run memory memoryEncode calls
  refine ⟨fun hg711 => inverse_g711_iff hsound hfirst hg711 hlen hle, fun hadpcm hreturns => ?_,
    fun hnil => ?_⟩
  · exact (inverse_adpcm_iff hsound hfirst hadpcm hlen hle).mpr hreturns.comesBack
  · -- no samples, no codes
    unfold Returns samples
    rw [hnil]
    rfl

/-- A codec that has decoded one frame, without a header. -/
def afterFirstFrame : EncodingCodec :=
  Runs.run step (new (Vector.replicate outBufLen 0) (Vector.replicate outBufLen 0))
    [.decode ⟨[0, 0, 0, 0], .eAdpcm, .noFrame⟩]

/-- Two samples of silence. -/
theorem encode_decode_inverse_silence :
    let frame : PcmFrame := ⟨[0, 0, 0, 0], [], .eAdpcm, .failed 0⟩
    afterFirstFrame.Returns frame ∧ afterFirstFrame.Inverse frame := by
  intro frame
  have hreturns : afterFirstFrame.Returns frame := by decide
  have hframe := encode_decode_inverse (Vector.replicate outBufLen 0)
    (Vector.replicate outBufLen 0) [.decode ⟨[0, 0, 0, 0], .eAdpcm, .noFrame⟩] frame rfl
    (by decide) (by decide)
  exact ⟨hreturns, hframe.2.1 rfl hreturns⟩

/-- The samples 1000 and 0 as ADPCM, and silence as G.711. -/
theorem not_inverse_first_frames :
    afterFirstFrame.bDecodeFirstFrame = false
      ∧ ¬ afterFirstFrame.Inverse ⟨[0xE8, 0x03, 0, 0], [], .eAdpcm, .failed 0⟩
      ∧ ¬ afterFirstFrame.Inverse ⟨[0, 0, 0, 0], [0, 0, 0, 0], .eG711A, .failed 0⟩ := by
  have hsound : afterFirstFrame.Sound := sound_run _ _ _
  have hfirst : afterFirstFrame.bDecodeFirstFrame = false := rfl
  refine ⟨hfirst, fun h => ?_, fun h => ?_⟩
  · have hcomes := (inverse_adpcm_iff hsound hfirst rfl rfl (by decide)).mp h
    exact absurd hcomes (by decide)
  · cases (inverse_g711_iff hsound hfirst (.inl rfl) rfl (by decide)).mp h

end EncodingCodec

end MultiProcessServer
