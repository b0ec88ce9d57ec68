/-
  MultiProcessServer.WebServer.AudioEncoders
  ──────────────────────────────────────────
  The other half of `web_server/audio/G711.cpp` and `Adpcm.cpp`: the encoders.

  Main results:

    `adpcm_coder_eq`   : `adpcm_coder` is the coder of a predictor,
    `adpcm_decoder_eq` : `adpcm_decoder` is the decoder of the same predictor,
                         whatever state it starts from.
-/
import MultiProcessServer.WebServer.AudioCodecs
import MultiProcessServer.Lib.Predictor

namespace MultiProcessServer

open Endian

/-! ## §1. Samples in memory. -/

/-- `((short *)p)[i]`. -/
def shortAt (memory : List UInt8) (i : Nat) : Int :=
  toShort (ofLE ((memory.drop (2 * i)).take 2))

/-- The first samples at an address. -/
def shorts (memory : List UInt8) (n : Nat) : List Int := (List.range n).map (shortAt memory)

@[simp] theorem length_shorts (memory : List UInt8) (n : Nat) : (shorts memory n).length = n := by
  rw [shorts, List.length_map, List.length_range]

theorem take_shorts (memory : List UInt8) {n m : Nat} (h : n ≤ m) :
    (shorts memory m).take n = shorts memory n := by
  unfold shorts
  rw [← List.map_take, List.take_range, Nat.min_eq_left h]

/-- What lies behind the samples does not matter. -/
theorem shorts_append {memory behind : List UInt8} {n : Nat} (h : 2 * n ≤ memory.length) :
    shorts (memory ++ behind) n = shorts memory n := by
  refine List.map_congr_left fun i hi => ?_
  have hlt : i < n := List.mem_range.mp hi
  unfold shortAt
  rw [List.drop_append_of_le_length (by omega), List.take_append_of_le_length]
  rw [List.length_drop]
  omega

/-- A `short` is read back as it was written. -/
theorem toShort_of_range {n : Int} (h : -32768 ≤ n ∧ n ≤ 32767) : toShort n = n := by
  unfold toShort
  omega

/-! ## §2. G.711. -/

namespace G711

/-- `seg_end`. -/
def segEnd : List Int := [0xFF, 0x1FF, 0x3FF, 0x7FF, 0xFFF, 0x1FFF, 0x3FFF, 0x7FFF]

/-- `search`: the first entry that is not below the value, or the size. -/
def search (val : Int) : List Int → Nat
  | [] => 0
  | entry :: table => if val ≤ entry then 0 else search val table + 1

/-- `(pcm_val >> n) & QUANT_MASK`. -/
def quant (pcm_val : Int) (n : Nat) : UInt8 := UInt8.ofNat ((pcm_val >>> n) % 16).toNat

def linear2alaw (pcm_val : Int) : UInt8 :=
  let mask : UInt8 := if pcm_val ≥ 0 then 0xD5 else 0x55
  let pcm_val := if pcm_val ≥ 0 then pcm_val else -pcm_val - 8
  let seg := search pcm_val segEnd
  if seg ≥ 8 then 0x7F ^^^ mask
  else
    let aval := UInt8.ofNat (seg <<< SEG_SHIFT)
    let aval := if seg < 2 then aval ||| quant pcm_val 4 else aval ||| quant pcm_val (seg + 3)
    aval ^^^ mask

def linear2ulaw (pcm_val : Int) : UInt8 :=
  let mask : UInt8 := if pcm_val < 0 then 0x7F else 0xFF
  let pcm_val := if pcm_val < 0 then BIAS - pcm_val else pcm_val + BIAS
  let seg := search pcm_val segEnd
  if seg ≥ 8 then 0x7F ^^^ mask
  else (UInt8.ofNat (seg <<< 4) ||| quant pcm_val (seg + 3)) ^^^ mask

/-- The loop of `g711a_encode` and `g711u_encode`, `len` samples from `amp` on:
what they write to `g711_data`, and what they return. -/
def encode (code : Int → UInt8) (amp : List UInt8) (len : Int) : List UInt8 × Int :=
  ((shorts amp len.toNat).map code, len)

def g711a_encode (amp : List UInt8) (len : Int) : List UInt8 × Int := encode linear2alaw amp len

def g711u_encode (amp : List UInt8) (len : Int) : List UInt8 × Int := encode linear2ulaw amp len

/-- A code for each sample. -/
theorem length_encode (code : Int → UInt8) (amp : List UInt8) (n : Nat) :
    (encode code amp n).1.length = n := by
  rw [encode, List.length_map, length_shorts]
  rfl

end G711

/-! ## §3. `adpcm_coder`. -/

namespace Adpcm

/-- A conversion to `char`. -/
def toChar (n : Int) : Int := (n + 128) % 256 - 128

/-- The variables of `adpcm_coder`, what was written to `outdata`, and
`valpred` after each sample. -/
structure Coder where
  inp : List Int
  valpred : Int
  index : Int
  step : Nat
  outputbuffer : Nat
  bufferstep : Bool
  outp : List UInt8
  preds : List Int
  deriving DecidableEq, Repr

namespace Coder

def new (indata : List Int) (state : State) : Coder where
  inp := indata
  valpred := state.valprev
  index := state.index
  step := stepsize state.index
  outputbuffer := 0
  bufferstep := true
  outp := []
  preds := []

/-- Step 2, divide and clamp: `delta` and `vpdiff`. -/
def divide (step : Nat) (diff : Int) : Nat × Int :=
  let delta := 0
  let vpdiff : Int := (step >>> 3 : Nat)
  let (delta, diff, vpdiff) :=
    if diff ≥ step then (4, diff - step, vpdiff + step) else (delta, diff, vpdiff)
  let step := step >>> 1
  let (delta, diff, vpdiff) :=
    if diff ≥ step then (delta ||| 2, diff - step, vpdiff + step) else (delta, diff, vpdiff)
  let step := step >>> 1
  if diff ≥ step then (delta ||| 1, vpdiff + step) else (delta, vpdiff)

variable (c : Coder)

/-- Step 6: every second sample completes a byte. -/
def output (delta : Nat) : Coder :=
  if c.bufferstep then
    { c with outputbuffer := (delta <<< 4) &&& 0xf0, bufferstep := false }
  else
    { c with
      outp := c.outp ++ [UInt8.ofNat ((delta &&& 0x0f) ||| c.outputbuffer)]
      bufferstep := true }

/-- One sample. -/
def sample : Coder :=
  let val := c.inp.headD 0
  let diff := val - c.valpred
  let sign := if diff < 0 then 8 else 0
  let diff := if sign ≠ 0 then -diff else diff
  let (delta, vpdiff) := divide c.step diff
  let valpred := clampValue (if sign ≠ 0 then c.valpred - vpdiff else c.valpred + vpdiff)
  let delta := delta ||| sign
  let index := clampIndex (c.index + indexTable.getD delta 0)
  { c.output delta with
    inp := c.inp.tail
    valpred := valpred
    index := index
    step := stepsize index
    preds := c.preds ++ [valpred] }

/-- The loop. -/
def samples : Nat → Coder → Coder
  | 0, c => c
  | len + 1, c => samples len c.sample

/-- Output the last step, if needed. -/
def flush : Coder :=
  if !c.bufferstep then { c with outp := c.outp ++ [UInt8.ofNat c.outputbuffer] } else c

/-- `*state`, at the end. -/
def state : State := ⟨toShort c.valpred, toChar c.index⟩

end Coder

/-- `adpcm_coder`. -/
def adpcm_coder (indata : List Int) (len : Int) (state : State) : Coder :=
  ((Coder.new indata state).samples len.toNat).flush

/-! ## §4. The predictor. -/

/-- The predicted value is a `short`, and the index one of the table. -/
structure State.Sound (s : State) : Prop where
  valprev : -32768 ≤ s.valprev ∧ s.valprev ≤ 32767
  index : 0 ≤ s.index ∧ s.index ≤ 88

/-- The `memset` of the constructor. -/
theorem sound_zero : (⟨0, 0⟩ : State).Sound := ⟨by decide, by decide⟩

/-- The code of a sample. -/
def quantize (s : State) (val : Int) : Nat :=
  let diff := val - s.valprev
  (Coder.divide (stepsize s.index) (if diff < 0 then -diff else diff)).1
    ||| (if diff < 0 then 8 else 0)

/-- What a code does to the state. -/
def advance (s : State) (delta : Nat) : State where
  valprev :=
    let diff := Decoder.vpdiff (stepsize s.index) (delta &&& 7)
    clampValue (if delta &&& 8 ≠ 0 then s.valprev - diff else s.valprev + diff)
  index := clampIndex (s.index + indexTable.getD delta 0)

/-- DVI ADPCM. -/
def predictor : Predictor State Nat Int Int where
  quantize := quantize
  advance := advance
  value := State.valprev

theorem clampValue_range (n : Int) : -32768 ≤ clampValue n ∧ clampValue n ≤ 32767 := by
  unfold clampValue
  split
  · omega
  · split <;> omega

/-- Whatever the code, the state it leaves is sound. -/
theorem sound_advance (s : State) (delta : Nat) : (advance s delta).Sound where
  valprev := clampValue_range _
  index := Decoder.clampIndex_range _

theorem sound_drive {s : State} (h : s.Sound) (xs : List Int) : (predictor.drive s xs).Sound :=
  Predictor.drive_invariant (fun s k _ => sound_advance s k) xs h

/-- **Step 2** computes the difference its own code stands for. -/
theorem divide_spec (step : Nat) (diff : Int) : (Coder.divide step diff).1 < 8
    ∧ (Coder.divide step diff).2 = Decoder.vpdiff step (Coder.divide step diff).1 := by
  have hshift : step >>> 1 >>> 1 = step >>> 2 := (Nat.shiftRight_add step 1 1).symm
  unfold Coder.divide Decoder.vpdiff
  dsimp only
  -- one case for each of the eight codes
  split <;> split <;> split <;> dsimp only <;> refine ⟨by decide, ?_⟩ <;> simp [hshift]

/-- The sign is the fourth bit of the code. -/
theorem code_bits {m : Nat} (hm : m < 8) :
    (m ||| 8) &&& 7 = m ∧ (m ||| 8) &&& 8 ≠ 0 ∧ m ||| 8 < 16
      ∧ (m ||| 0) &&& 7 = m ∧ (m ||| 0) &&& 8 = 0 ∧ m ||| 0 < 16 := by
  revert m
  decide

theorem quantize_lt (s : State) (val : Int) : quantize s val < 16 := by
  show _ ||| (if val - s.valprev < 0 then 8 else 0) < 16
  split
  · exact (code_bits (divide_spec _ _).1).2.2.1
  · exact (code_bits (divide_spec _ _).1).2.2.2.2.2

theorem codes_lt (xs : List Int) : ∀ s, ∀ k ∈ predictor.codes s xs, k < 16 := by
  induction xs with
  | nil => exact fun _ => List.forall_mem_nil _
  | cons x xs ih => exact fun s => List.forall_mem_cons.mpr ⟨quantize_lt s x, ih _⟩

/-! ## §5. The coder is that of the predictor. -/

/-- A byte of two codes. -/
def pack (hi lo : Nat) : UInt8 := UInt8.ofNat ((lo &&& 0x0f) ||| ((hi <<< 4) &&& 0xf0))

/-- The bytes of an even number of codes. -/
def packed : List Nat → List UInt8
  | hi :: lo :: codes => pack hi lo :: packed codes
  | _ => []

/-- The two halves of a byte. -/
theorem pack_nibbles {hi lo : Nat} (hhi : hi < 16) (hlo : lo < 16) :
    ((pack hi lo).toNat >>> 4) &&& 0xf = hi ∧ (pack hi lo).toNat &&& 0xf = lo := by
  have hall : ∀ hi < 16, ∀ lo < 16,
      ((pack hi lo).toNat >>> 4) &&& 0xf = hi ∧ (pack hi lo).toNat &&& 0xf = lo := by decide
  exact hall hi hhi lo hlo

namespace Coder

variable {c : Coder}

/-- The state in the variables of the loop. -/
def held (c : Coder) : Adpcm.State := ⟨c.valpred, c.index⟩

/-- **One sample** is one step of the predictor: the difference the coder
applies is the one the decoder makes of the code. -/
theorem sample_eq {val : Int} {inp : List Int} (hinp : c.inp = val :: inp)
    (hstep : c.step = stepsize c.index) :
    c.sample = { c.output (quantize c.held val) with
      inp := inp
      valpred := (advance c.held (quantize c.held val)).valprev
      index := (advance c.held (quantize c.held val)).index
      step := stepsize (advance c.held (quantize c.held val)).index
      preds := c.preds ++ [(advance c.held (quantize c.held val)).valprev] } := by
  have h8 : ¬ (8 : Nat) = 0 := by decide
  unfold sample
  rw [hinp, hstep]
  by_cases hsign : val - c.valpred < 0
  · obtain ⟨hlt, hdiff⟩ := divide_spec (stepsize c.index) (-(val - c.valpred))
    obtain ⟨hlow, hhigh, -⟩ := code_bits hlt
    simp only [List.headD_cons, List.tail_cons, advance, quantize, held, hsign, if_true, ne_eq,
      h8, not_false_eq_true, hlow, hhigh, hdiff]
  · obtain ⟨hlt, hdiff⟩ := divide_spec (stepsize c.index) (val - c.valpred)
    obtain ⟨-, -, -, hlow, hhigh, -⟩ := code_bits hlt
    simp only [List.headD_cons, List.tail_cons, advance, quantize, held, hsign, if_false, ne_eq,
      not_true_eq_false, hlow, hhigh, hdiff]

/-- A sound state is stored as it is. -/
theorem state_of_sound (h : c.held.Sound) : c.state = c.held := by
  have hvalprev : toShort c.valpred = c.valpred := toShort_of_range h.valprev
  have hindex : toChar c.index = c.index := by
    have hrange : 0 ≤ c.index ∧ c.index ≤ 88 := h.index
    unfold toChar
    omega
  rw [state, hvalprev, hindex]
  rfl

/-- What the loop has between two bytes. -/
structure AtByte (c : Coder) : Prop where
  step : c.step = stepsize c.index
  bufferstep : c.bufferstep = true

/-- **Two samples** are two steps of the predictor and one byte. -/
theorem sample_sample {val val' : Int} {inp : List Int} (hinp : c.inp = val :: val' :: inp)
    (h : c.AtByte) :
    let s := advance c.held (quantize c.held val)
    let t := advance s (quantize s val')
    c.sample.sample.AtByte ∧ c.sample.sample.inp = inp ∧ c.sample.sample.held = t
      ∧ c.sample.sample.outp = c.outp ++ [pack (quantize c.held val) (quantize s val')]
      ∧ c.sample.sample.preds = c.preds ++ [s.valprev, t.valprev] := by
  intro s t
  -- the first code waits for the second
  have hfirst := sample_eq hinp h.step
  have hwaits : c.output (quantize c.held val)
      = { c with outputbuffer := (quantize c.held val <<< 4) &&& 0xf0, bufferstep := false } :=
    if_pos h.bufferstep
  rw [hwaits] at hfirst
  have hinp' : c.sample.inp = val' :: inp := congrArg Coder.inp hfirst
  have hheld : c.sample.held = s := congrArg Coder.held hfirst
  have hstep : c.sample.step = stepsize c.sample.index := by rw [hfirst]
  have houtp : c.sample.outp = c.outp := by rw [hfirst]
  have hpreds : c.sample.preds = c.preds ++ [s.valprev] := congrArg Coder.preds hfirst
  -- and then the byte is written
  have hsecond := sample_eq hinp' hstep
  have hwritten : c.sample.output (quantize c.sample.held val')
      = { c.sample with
          outp := c.sample.outp ++ [pack (quantize c.held val) (quantize c.sample.held val')]
          bufferstep := true } := by
    have hbufferstep : c.sample.bufferstep = false := congrArg Coder.bufferstep hfirst
    have hbuffer : c.sample.outputbuffer = (quantize c.held val <<< 4) &&& 0xf0 :=
      congrArg Coder.outputbuffer hfirst
    refine (if_neg (by rw [hbufferstep]; decide)).trans ?_
    rw [pack, ← hbuffer]
  rw [hwritten, hheld, houtp, hpreds] at hsecond
  rw [hsecond]
  refine ⟨⟨rfl, rfl⟩, rfl, rfl, rfl, ?_⟩
  show c.preds ++ [s.valprev] ++ [t.valprev] = _
  rw [List.append_assoc]
  rfl

/-- **The loop**, over an even number of samples. -/
theorem samples_spec (n : Nat) : ∀ (c : Coder) (inp : List Int), inp.length = 2 * n →
    c.inp = inp → c.AtByte →
      (c.samples (2 * n)).AtByte ∧ (c.samples (2 * n)).held = predictor.drive c.held inp
        ∧ (c.samples (2 * n)).outp = c.outp ++ packed (predictor.codes c.held inp)
        ∧ (c.samples (2 * n)).preds = c.preds ++ predictor.trace c.held inp := by
  induction n with
  | zero =>
      intro c inp hlength hinp h
      obtain rfl := List.length_eq_zero_iff.mp hlength
      exact ⟨h, rfl, (List.append_nil _).symm, (List.append_nil _).symm⟩
  | succ n ih =>
      intro c inp hlength hinp h
      match inp, hlength with
      | val :: val' :: inp, hlength =>
          obtain ⟨hbyte, hinp', hheld, houtp, hpreds⟩ := sample_sample hinp h
          have hlength' : inp.length = 2 * n := by
            rw [List.length_cons, List.length_cons] at hlength
            omega
          obtain ⟨hbyte', hheld', houtp', hpreds'⟩ := ih c.sample.sample inp hlength' hinp' hbyte
          rw [hheld] at hheld' houtp' hpreds'
          refine ⟨hbyte', hheld', ?_, ?_⟩
          · show (c.sample.sample.samples (2 * n)).outp = _
            rw [houtp', houtp, List.append_assoc]
            rfl
          · show (c.sample.sample.samples (2 * n)).preds = _
            rw [hpreds', hpreds, List.append_assoc]
            rfl

end Coder

/-- **`adpcm_coder`**, over an even number of samples from a sound state: the
codes of the predictor, two in a byte, its values, and the state it is left in. -/
theorem adpcm_coder_eq {state : State} (h : state.Sound) {indata : List Int}
    (heven : indata.length % 2 = 0) :
    (adpcm_coder indata indata.length state).outp = packed (predictor.codes state indata)
      ∧ (adpcm_coder indata indata.length state).preds = predictor.trace state indata
      ∧ (adpcm_coder indata indata.length state).state = predictor.drive state indata := by
  have hlength : indata.length = 2 * (indata.length / 2) := by omega
  obtain ⟨hbyte, hheld, houtp, hpreds⟩ := Coder.samples_spec (indata.length / 2)
    (Coder.new indata state) indata hlength rfl ⟨rfl, rfl⟩
  rw [← hlength] at hbyte hheld houtp hpreds
  have hflush : adpcm_coder indata indata.length state
      = (Coder.new indata state).samples indata.length := by
    unfold adpcm_coder Coder.flush
    rw [Int.toNat_natCast, hbyte.bufferstep]
    rfl
  rw [hflush]
  have hsound : (predictor.drive state indata).Sound := sound_drive h indata
  rw [show predictor.drive state indata = predictor.drive (Coder.new indata state).held indata
    from rfl, ← hheld] at hsound ⊢
  exact ⟨houtp, hpreds, Coder.state_of_sound hsound⟩

/-- Whatever is encoded, from a sound state, leaves one. -/
theorem sound_adpcm_coder {state : State} (h : state.Sound) (indata : List Int) (len : Int) :
    (adpcm_coder indata len state).state.Sound := by
  have hsamples : ∀ (n : Nat) (c : Coder), c.held.Sound → (c.samples n).held.Sound := by
    intro n
    induction n with
    | zero => exact fun _ => id
    | succ n ih =>
        exact fun c _ => ih c.sample ⟨clampValue_range _, Decoder.clampIndex_range _⟩
  have hflush : ∀ c : Coder, c.flush.held = c.held := by
    intro c
    unfold Coder.flush
    split <;> rfl
  have hheld : (adpcm_coder indata len state).held.Sound := by
    rw [adpcm_coder, hflush]
    exact hsamples _ _ h
  rw [Coder.state_of_sound hheld]
  exact hheld

/-! ## §6. The decoder is that of the predictor. -/

namespace Decoder

variable {d : Decoder}

/-- The state in the variables of the loop. -/
def held (d : Decoder) : Adpcm.State := ⟨d.valpred, d.index⟩

/-- What the loop has between two bytes. -/
structure AtByte (d : Decoder) : Prop where
  step : d.step = stepsize d.index
  bufferstep : d.bufferstep = false

/-- **One byte** is two steps of the predictor. -/
theorem sample_sample {byte : UInt8} {inp : List UInt8} (hinp : d.inp = byte :: inp)
    (h : d.AtByte) :
    let s := advance d.held ((byte.toNat >>> 4) &&& 0xf)
    let t := advance s (byte.toNat &&& 0xf)
    d.sample.sample.AtByte ∧ d.sample.sample.inp = inp ∧ d.sample.sample.held = t
      ∧ d.sample.sample.outp = d.outp ++ [s.valprev, t.valprev] := by
  intro s t
  obtain ⟨dinp, inputbuffer, bufferstep, valpred, index, step, outp, indices⟩ := d
  obtain rfl : dinp = byte :: inp := hinp
  obtain ⟨hstep, hbufferstep⟩ := h
  obtain rfl : bufferstep = false := hbufferstep
  obtain rfl : step = stepsize index := hstep
  refine ⟨⟨rfl, rfl⟩, rfl, rfl, ?_⟩
  show outp ++ [s.valprev] ++ [t.valprev] = _
  rw [List.append_assoc]
  rfl

/-- **The loop**, over the bytes of an even number of codes. -/
theorem samples_spec (n : Nat) : ∀ (d : Decoder) (codes : List Nat) (behind : List UInt8),
    codes.length = 2 * n → (∀ k ∈ codes, k < 16) → d.inp = packed codes ++ behind → d.AtByte →
      (d.samples (2 * n)).outp = d.outp ++ predictor.replay d.held codes := by
  induction n with
  | zero =>
      intro d codes behind hlength _ _ _
      obtain rfl := List.length_eq_zero_iff.mp hlength
      exact (List.append_nil _).symm
  | succ n ih =>
      intro d codes behind hlength hlt hinp h
      match codes, hlength with
      | hi :: lo :: codes, hlength =>
          have hhi : hi < 16 := hlt hi List.mem_cons_self
          have hlo : lo < 16 := hlt lo (List.mem_cons_of_mem hi List.mem_cons_self)
          obtain ⟨hnibble, hnibble'⟩ := pack_nibbles hhi hlo
          obtain ⟨hbyte, hinp', hheld, houtp⟩ := sample_sample hinp h
          rw [hnibble, hnibble'] at hheld houtp
          have hlength' : codes.length = 2 * n := by
            rw [List.length_cons, List.length_cons] at hlength
            omega
          have hlt' : ∀ k ∈ codes, k < 16 := fun k hk =>
            hlt k (List.mem_cons_of_mem hi (List.mem_cons_of_mem lo hk))
          show (d.sample.sample.samples (2 * n)).outp = _
          rw [ih d.sample.sample codes behind hlength' hlt' hinp' hbyte, hheld, houtp,
            List.append_assoc]
          rfl

end Decoder

/-- **`adpcm_decoder`**, over the bytes of an even number of codes, from any
state: the values of the predictor. -/
theorem adpcm_decoder_eq (state : State) {codes : List Nat} (behind : List UInt8)
    (heven : codes.length % 2 = 0) (hlt : ∀ k ∈ codes, k < 16) :
    (adpcm_decoder (packed codes ++ behind) codes.length state).outp
      = predictor.replay state codes := by
  have hlength : codes.length = 2 * (codes.length / 2) := by omega
  have hspec := Decoder.samples_spec (codes.length / 2)
    (Decoder.new (packed codes ++ behind) state) codes behind hlength hlt rfl ⟨rfl, rfl⟩
  rw [← hlength] at hspec
  exact hspec

/-- Two codes take a byte. -/
theorem length_packed : ∀ codes : List Nat, (packed codes).length = codes.length / 2
  | [] => rfl
  | [_] => by simp [packed]
  | hi :: lo :: codes => by
      rw [packed, List.length_cons, length_packed codes, List.length_cons, List.length_cons]
      omega

end Adpcm

end MultiProcessServer
