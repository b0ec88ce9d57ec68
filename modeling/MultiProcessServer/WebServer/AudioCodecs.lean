/-
  MultiProcessServer.WebServer.AudioCodecs
  ────────────────────────────────────────
  `web_server/audio/G711.cpp` and `Adpcm.cpp`: the decoders.

  Main results:

    `G711.length_decode`     : a sample for each byte,
    `adpcm_decoder_length`   : as many samples as asked for,
    `adpcm_decoder_indices`  : the indices into `stepsizeTable` are in range
                               exactly when the first one is.

  `char` is signed and `int` has 32 bits, as on x86-64.
-/
import MultiProcessServer.Lib.Endian
import Mathlib.Data.List.Basic

namespace MultiProcessServer

open Endian

/-! ## §1. The built-in types. -/

/-- A conversion to `int`, and the difference of two of them. -/
def toInt (n : Int) : Int := (n + 2147483648) % 4294967296 - 2147483648

theorem toInt_range (n : Int) : -2147483648 ≤ toInt n ∧ toInt n < 2147483648 := by
  unfold toInt
  omega

/-- A length never grows when it becomes an `int`. -/
theorem toInt_le (n : Nat) : toInt n ≤ n := by
  unfold toInt
  omega

theorem toInt_sub_le (n : Nat) : toInt (toInt n - 4) ≤ (n - 4 : Nat) := by
  unfold toInt
  omega

/-- A conversion of an `int` to `size_t`. -/
def toSizeT (n : Int) : Nat := (n % 18446744073709551616).toNat

/-- The value of a `char`. -/
def charToInt (c : UInt8) : Int := if c.toNat < 128 then c.toNat else (c.toNat : Int) - 256

/-- A conversion to `short`. -/
def toShort (n : Int) : Int := (n + 32768) % 65536 - 32768

/-- The two bytes of a `short` in memory. -/
def shortBytes (n : Int) : List UInt8 := leBytes 2 (n % 65536).toNat

@[simp] theorem length_shortBytes (n : Int) : (shortBytes n).length = 2 := length_leBytes 2 _

/-- Samples as they lie in the output buffer. -/
def pcmBytes (samples : List Int) : List UInt8 := samples.flatMap shortBytes

@[simp] theorem length_pcmBytes (samples : List Int) :
    (pcmBytes samples).length = 2 * samples.length := by
  induction samples with
  | nil => rfl
  | cons n samples ih =>
      show (shortBytes n ++ pcmBytes samples).length = _
      rw [List.length_append, length_shortBytes, ih, List.length_cons]
      omega

/-! ## §2. G.711. -/

namespace G711

def SIGN_BIT : UInt8 := 0x80
def QUANT_MASK : UInt8 := 0xf
def SEG_SHIFT : Nat := 4
def SEG_MASK : UInt8 := 0x70
def BIAS : Nat := 0x84

/-- The segment number of a code. -/
def seg (val : UInt8) : Nat := (val &&& SEG_MASK).toNat >>> SEG_SHIFT

def alaw2linear (a_val : UInt8) : Int :=
  let a_val := a_val ^^^ 0x55
  let t := (a_val &&& QUANT_MASK).toNat <<< 4
  let t := match seg a_val with
    | 0 => t + 8
    | 1 => t + 0x108
    | n => (t + 0x108) <<< (n - 1)
  if a_val &&& SIGN_BIT ≠ 0 then t else -t

def ulaw2linear (u_val : UInt8) : Int :=
  let u_val := ~~~u_val
  let t := ((u_val &&& QUANT_MASK).toNat <<< 3) + BIAS
  let t := t <<< seg u_val
  if u_val &&& SIGN_BIT ≠ 0 then (BIAS : Int) - t else (t : Int) - BIAS

/-- The loop of `g711a_decode` and `g711u_decode`: what they write to `amp`, and
what they return. -/
def decode (linear : UInt8 → Int) (data : List UInt8) (bytes : Int) : List Int × Int :=
  let amp := (data.take bytes.toNat).map fun code => toShort (linear code)
  (amp, 2 * amp.length)

def g711a_decode (g711a_data : List UInt8) (g711a_bytes : Int) : List Int × Int :=
  decode alaw2linear g711a_data g711a_bytes

def g711u_decode (g711u_data : List UInt8) (g711u_bytes : Int) : List Int × Int :=
  decode ulaw2linear g711u_data g711u_bytes

end G711

/-! ## §3. ADPCM. -/

namespace Adpcm

def indexTable : List Int := [-1, -1, -1, -1, 2, 4, 6, 8, -1, -1, -1, -1, 2, 4, 6, 8]

def stepsizeTable : List Nat :=
  [7, 8, 9, 10, 11, 12, 13, 14, 16, 17,
   19, 21, 23, 25, 28, 31, 34, 37, 41, 45,
   50, 55, 60, 66, 73, 80, 88, 97, 107, 118,
   130, 143, 157, 173, 190, 209, 230, 253, 279, 307,
   337, 371, 408, 449, 494, 544, 598, 658, 724, 796,
   876, 963, 1060, 1166, 1282, 1411, 1552, 1707, 1878, 2066,
   2272, 2499, 2749, 3024, 3327, 3660, 4026, 4428, 4871, 5358,
   5894, 6484, 7132, 7845, 8630, 9493, 10442, 11487, 12635, 13899,
   15289, 16818, 18500, 20350, 22385, 24623, 27086, 29794, 32767]

/-- `adpcm_state`. -/
structure State where
  valprev : Int
  index : Int
  deriving DecidableEq, Repr

/-- `stepsizeTable[index]`; next to the table it may be anything. -/
def stepsize (index : Int) : Nat := if index < 0 then 0 else stepsizeTable.getD index.toNat 0

def clampIndex (index : Int) : Int := if index < 0 then 0 else if index > 88 then 88 else index

def clampValue (valpred : Int) : Int :=
  if valpred > 32767 then 32767 else if valpred < -32768 then -32768 else valpred

/-- The variables of `adpcm_decoder`, what was written to `outdata`, and the
indices into `stepsizeTable`. -/
structure Decoder where
  inp : List UInt8
  inputbuffer : UInt8
  bufferstep : Bool
  valpred : Int
  index : Int
  step : Nat
  outp : List Int
  indices : List Int
  deriving DecidableEq, Repr

namespace Decoder

def new (indata : List UInt8) (state : State) : Decoder where
  inp := indata
  inputbuffer := 0
  bufferstep := false
  valpred := state.valprev
  index := state.index
  step := stepsize state.index
  outp := []
  indices := [state.index]

variable (d : Decoder)

/-- The difference a delta stands for, `(delta + 0.5) * step / 4`. -/
def vpdiff (step delta : Nat) : Int :=
  (step >>> 3) + (if delta &&& 4 ≠ 0 then step else 0)
    + (if delta &&& 2 ≠ 0 then step >>> 1 else 0) + (if delta &&& 1 ≠ 0 then step >>> 2 else 0)

/-- Step 1: the next delta, four bits of the input. -/
def getDelta : Nat × Decoder :=
  if d.bufferstep then (d.inputbuffer.toNat &&& 0xf, { d with bufferstep := false })
  else
    let inputbuffer := d.inp.headD 0
    ((inputbuffer.toNat >>> 4) &&& 0xf,
      { d with inp := d.inp.tail, inputbuffer := inputbuffer, bufferstep := true })

/-- Steps 2 to 7: one sample. -/
def sample : Decoder :=
  let (delta, d) := d.getDelta
  let index := clampIndex (d.index + indexTable.getD delta 0)
  let sign := delta &&& 8
  let diff := vpdiff d.step (delta &&& 7)
  let valpred := clampValue (if sign ≠ 0 then d.valpred - diff else d.valpred + diff)
  { d with
    valpred := valpred
    index := index
    step := stepsize index
    outp := d.outp ++ [valpred]
    indices := d.indices ++ [index] }

/-- The loop. -/
def samples : Nat → Decoder → Decoder
  | 0, d => d
  | len + 1, d => samples len d.sample

end Decoder

/-- `adpcm_decoder`. -/
def adpcm_decoder (indata : List UInt8) (len : Int) (state : State) : Decoder :=
  (Decoder.new indata state).samples len.toNat

/-! ### What the decoder leaves. -/

namespace Decoder

variable {d : Decoder}

theorem clampIndex_range (index : Int) : 0 ≤ clampIndex index ∧ clampIndex index ≤ 88 := by
  unfold clampIndex
  split
  · omega
  · split <;> omega

/-- Only the input moves when a delta is read. -/
theorem getDelta_snd (d : Decoder) :
    d.getDelta.2.outp = d.outp ∧ d.getDelta.2.indices = d.indices := by
  unfold getDelta
  split <;> exact ⟨rfl, rfl⟩

theorem outp_sample (d : Decoder) : ∃ valpred, d.sample.outp = d.outp ++ [valpred] :=
  ⟨_, congrArg (· ++ _) (getDelta_snd d).1⟩

theorem indices_sample (d : Decoder) :
    ∃ index, d.sample.indices = d.indices ++ [clampIndex index] :=
  ⟨_, congrArg (· ++ _) (getDelta_snd d).2⟩

theorem length_outp_samples (len : Nat) :
    ∀ d : Decoder, (d.samples len).outp.length = d.outp.length + len := by
  induction len with
  | zero => exact fun _ => rfl
  | succ len ih =>
      intro d
      obtain ⟨valpred, houtp⟩ := outp_sample d
      show (d.sample.samples len).outp.length = _
      rw [ih, houtp, List.length_append, List.length_singleton]
      omega

/-- The indices after the first ones come out of the clamp. -/
theorem indices_samples (len : Nat) : ∀ d : Decoder,
    ∃ rest, (d.samples len).indices = d.indices ++ rest
      ∧ ∀ index ∈ rest, 0 ≤ index ∧ index ≤ 88 := by
  induction len with
  | zero => exact fun d => ⟨[], (List.append_nil _).symm, nofun⟩
  | succ len ih =>
      intro d
      obtain ⟨index, hindex⟩ := indices_sample d
      obtain ⟨rest, hrest, hrange⟩ := ih d.sample
      refine ⟨clampIndex index :: rest, ?_, ?_⟩
      · show (d.sample.samples len).indices = _
        rw [hrest, hindex, List.append_assoc]
        rfl
      · exact List.forall_mem_cons.mpr ⟨clampIndex_range index, hrange⟩

end Decoder

theorem adpcm_decoder_length (indata : List UInt8) (len : Int) (state : State) :
    (adpcm_decoder indata len state).outp.length = len.toNat := by
  rw [adpcm_decoder, Decoder.length_outp_samples]
  exact Nat.zero_add _

/-- The first index is the one of the state, and every other is in range. -/
theorem adpcm_decoder_indices (indata : List UInt8) (len : Int) (state : State) :
    (∀ index ∈ (adpcm_decoder indata len state).indices, 0 ≤ index ∧ index ≤ 88)
      ↔ 0 ≤ state.index ∧ state.index ≤ 88 := by
  obtain ⟨rest, hindices, hrange⟩ :=
    Decoder.indices_samples len.toNat (Decoder.new indata state)
  rw [adpcm_decoder, hindices]
  constructor
  · intro hall
    exact hall state.index (List.mem_append_left _ List.mem_cons_self)
  · intro hstate
    exact List.forall_mem_append.mpr ⟨List.forall_mem_singleton.mpr hstate, hrange⟩

end Adpcm

theorem G711.length_decode (linear : UInt8 → Int) (data : List UInt8) (bytes : Int) :
    (G711.decode linear data bytes).1.length = min bytes.toNat data.length := by
  simp [G711.decode]

/-- The bytes of the samples, counted. -/
theorem G711.decode_snd (linear : UInt8 → Int) (data : List UInt8) (bytes : Int) :
    (G711.decode linear data bytes).2 = 2 * (min bytes.toNat data.length : Nat) := by
  simp [G711.decode]

end MultiProcessServer
