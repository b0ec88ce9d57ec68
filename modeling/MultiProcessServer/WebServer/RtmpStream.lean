/-
  MultiProcessServer.WebServer.RtmpStream
  ───────────────────────────────────────
  `CRtmpStream` behind `WriteData`: PCM is collected to blocks of the size of an
  AAC frame, a frame gets its time and goes to FFmpeg.

  Main result:

    `staging_exact` :
        the staging buffer never overflows, and loses nothing.

  What FFmpeg answers is an input.
-/
import MultiProcessServer.Lib.Runs
import MultiProcessServer.Lib.Staging
import MultiProcessServer.Lib.WrappingClock
import MultiProcessServer.WebServer.KeyFrame

namespace MultiProcessServer

open Memory (Block Fault)

inductive AVMediaType
  | video
  | audio
  deriving DecidableEq, Repr

/-- A call of `m_rtmp_stream.WriteData`. -/
structure StreamWrite where
  datatype : AVMediaType
  data : List UInt8
  bIsKeyFrame : Bool
  timestamp : UInt64
  deriving DecidableEq, Repr

/-- What `swr_convert`, `avcodec_encode_audio2` and `av_interleaved_write_frame`
answer during one call. -/
structure EncoderAnswer where
  swrConvert : Int
  encodeAudio : Int
  gotPacket : Bool
  writeFrame : Int
  deriving DecidableEq, Repr

/-- The `AVPacket` of a frame that was written, as far as this code fills it, and
the timestamp it was written with. -/
structure WrittenFrame where
  streamIndex : AVMediaType
  flagKey : Bool
  pts : Int
  dts : Int
  duration : Int
  timestamp : UInt64
  deriving DecidableEq, Repr

/-- The size of `pcmencodebuf`. -/
def CRtmpStream.pcmencodebufSize : Nat := 4096

/-- An open `CRtmpStream`.  `blocks` is what was copied to `pRawBuff`, one block
after the other, `frames` are the frames given to `write_frame`, and `fault` is
the first undefined access. -/
structure CRtmpStream where
  iRawBuffSize : Nat
  nbSamples : Nat
  pcmencodebuf : Block UInt8 CRtmpStream.pcmencodebufSize
  pcmencodesize : Nat
  nextPts : Int
  samplesCount : Int
  tsAudioLast : UInt64
  tsAudioOffset : UInt32
  tsVideoLast : UInt64
  tsVideoOffset : UInt32
  blocks : List (List UInt8)
  frames : List WrittenFrame
  fault : Option Fault
  deriving DecidableEq

namespace CRtmpStream

/-! ## §1. The stream. -/

/-- After the constructor and `Init`; the encoder takes `nbSamples` samples at a
time, in `iRawBuffSize` bytes. -/
def new (iRawBuffSize nbSamples : Nat) : CRtmpStream where
  iRawBuffSize := iRawBuffSize
  nbSamples := nbSamples
  pcmencodebuf := ⟨List.replicate pcmencodebufSize 0, List.length_replicate⟩
  pcmencodesize := 0
  nextPts := 0
  samplesCount := 0
  tsAudioLast := 0
  tsAudioOffset := 0
  tsVideoLast := 0
  tsVideoOffset := 0
  blocks := []
  frames := []
  fault := none

/-- `GetAVPts`: what it returns, and the two variables it is given. -/
def getAVPts (tsLast : UInt64) (uOffset : UInt32) (timestamp : UInt64) :
    Int32 × UInt64 × UInt32 :=
  let (tsLast, uOffset) :=
    if tsLast = 0 then (timestamp, 0)
    else if tsLast > timestamp then (tsLast, uOffset)
    else
      -- an `int32_t diff`, whatever lies between the two timestamps
      let diff : Int32 := (timestamp - tsLast).toUInt32.toInt32
      (timestamp, uOffset + diff.toUInt32)
  (uOffset.toInt32, tsLast, uOffset)

variable (s : CRtmpStream)

/-- The last timestamp of a medium. -/
def tsLast : AVMediaType → UInt64
  | .video => s.tsVideoLast
  | .audio => s.tsAudioLast

def tsOffset : AVMediaType → UInt32
  | .video => s.tsVideoOffset
  | .audio => s.tsAudioOffset

/-- `GetAVPts` of the two members of a medium. -/
def stamp (medium : AVMediaType) (timestamp : UInt64) : Int32 × CRtmpStream :=
  let (ts, last, offset) := getAVPts (s.tsLast medium) (s.tsOffset medium) timestamp
  match medium with
  | .video => (ts, { s with tsVideoLast := last, tsVideoOffset := offset })
  | .audio => (ts, { s with tsAudioLast := last, tsAudioOffset := offset })

/-- `write_frame`, which answers `ret`. -/
def writeFrame (frame : WrittenFrame) (ret : Int) : Int × CRtmpStream :=
  (ret, { s with frames := s.frames ++ [frame] })

/-- The end of both writers: a frame is skipped, or it is written. -/
def writeUnlessBack (lastTs : UInt64) (frame : WrittenFrame) (ret : Int) : Int × CRtmpStream :=
  if lastTs > frame.timestamp then (0, s)
  else
    let (ret, s) := s.writeFrame frame ret
    if ret < 0 then (-1, s) else (0, s)

/-- What becomes of an access that is undefined. -/
def undefined (fault : Fault) : Int × CRtmpStream := (-1, { s with fault := some fault })

/-- The three `memcpy` of `write_audio_frame`, and whether a block is full. -/
def stage (data : List UInt8) : Except Fault (Bool × CRtmpStream) := do
  let pcmencodebuf ← s.pcmencodebuf.store s.pcmencodesize data
  let pcmencodesize := s.pcmencodesize + data.length
  if pcmencodesize ≥ s.iRawBuffSize then
    -- one block only, however much there is
    let block ← pcmencodebuf.load 0 s.iRawBuffSize
    let pcmencodesize := pcmencodesize - s.iRawBuffSize
    let pcmencodebuf ← pcmencodebuf.copyWithin 0 s.iRawBuffSize pcmencodesize
    pure (true, { s with
      pcmencodebuf := pcmencodebuf
      pcmencodesize := pcmencodesize
      nextPts := s.nextPts + s.nbSamples
      blocks := s.blocks ++ [block] })
  else
    pure (false, { s with pcmencodebuf := pcmencodebuf, pcmencodesize := pcmencodesize })

def writeAudioFrame (data : List UInt8) (timestamp : UInt64) (answer : EncoderAnswer) :
    Int × CRtmpStream :=
  match s.stage data with
  | .error fault => s.undefined fault
  | .ok (false, s) => (0, s)
  | .ok (true, s) =>
      -- from here on the block is gone, whatever fails
      if answer.swrConvert < 0 then (-1, s)
      else
        let s := { s with samplesCount := s.samplesCount + s.nbSamples }
        if answer.encodeAudio < 0 then (-1, s)
        else if answer.gotPacket then
          let lastTs := s.tsAudioLast
          let (ts, s) := s.stamp .audio timestamp
          s.writeUnlessBack lastTs
            { streamIndex := .audio
              flagKey := false
              pts := ts.toInt
              dts := ts.toInt
              duration := (timestamp - lastTs).toInt64.toInt
              timestamp := timestamp } answer.writeFrame
        else (0, s)

/-- `write_video_frame`; whether it is a key frame is looked up in the data. -/
def writeVideoFrame (data : List UInt8) (timestamp : UInt64) (answer : EncoderAnswer) :
    Int × CRtmpStream :=
  match isIdrFrame1 data with
  | .error fault => s.undefined fault
  | .ok isI =>
      -- the clock moves before the frame can be skipped
      let lastTs := s.tsVideoLast
      let (ts, s) := s.stamp .video timestamp
      s.writeUnlessBack lastTs
        { streamIndex := .video
          flagKey := isI
          pts := ts.toInt
          dts := ts.toInt
          duration := if lastTs < timestamp then (timestamp - lastTs).toInt64.toInt else 0
          timestamp := timestamp } answer.writeFrame

def writeData (write : StreamWrite) (answer : EncoderAnswer) : Int × CRtmpStream :=
  match write.datatype with
  | .video => s.writeVideoFrame write.data write.timestamp answer
  | .audio => s.writeAudioFrame write.data write.timestamp answer

/-- A call of `WriteData`, and what FFmpeg answers during it. -/
structure Call where
  write : StreamWrite
  answer : EncoderAnswer
  deriving DecidableEq, Repr

def step (s : CRtmpStream) (call : Call) : CRtmpStream := (s.writeData call.write call.answer).2

variable {s}

theorem writeUnlessBack_eq (lastTs : UInt64) (frame : WrittenFrame) (ret : Int) :
    (s.writeUnlessBack lastTs frame ret).2
      = if lastTs > frame.timestamp then s else { s with frames := s.frames ++ [frame] } := by
  unfold writeUnlessBack writeFrame
  split
  · rfl
  · dsimp only
    split <;> rfl

theorem writeUnlessBack_ret (lastTs : UInt64) (frame : WrittenFrame) (ret : Int) :
    (s.writeUnlessBack lastTs frame ret).1 = 0 ∨ (s.writeUnlessBack lastTs frame ret).1 = -1 := by
  unfold writeUnlessBack
  split
  · exact Or.inl rfl
  · dsimp only
    split
    · exact Or.inr rfl
    · exact Or.inl rfl

/-- **`WriteData` answers 0 or -1.** -/
theorem writeData_ret (s : CRtmpStream) (write : StreamWrite) (answer : EncoderAnswer) :
    (s.writeData write answer).1 = 0 ∨ (s.writeData write answer).1 = -1 := by
  unfold writeData
  cases write.datatype with
  | video =>
      dsimp only
      unfold writeVideoFrame
      cases isIdrFrame1 write.data with
      | error fault => exact Or.inr rfl
      | ok isI => exact writeUnlessBack_ret _ _ _
  | audio =>
      dsimp only
      unfold writeAudioFrame
      split
      · exact Or.inr rfl
      · exact Or.inl rfl
      · split
        · exact Or.inr rfl
        · dsimp only
          split
          · exact Or.inr rfl
          · split
            · exact writeUnlessBack_ret _ _ _
            · exact Or.inl rfl

/-- Both answers are given. -/
theorem exists_writeData_iff {ret : Int} :
    (∃ (s : CRtmpStream) (write : StreamWrite) (answer : EncoderAnswer),
      (s.writeData write answer).1 = ret) ↔ ret = 0 ∨ ret = -1 := by
  constructor
  · rintro ⟨s, write, answer, rfl⟩
    exact writeData_ret s write answer
  · -- a frame of video, with which the muxer does what is asked for
    intro h
    refine ⟨new 0 0, ⟨.video, [], false, 0⟩, ⟨0, 0, false, ret⟩, ?_⟩
    rcases h with rfl | rfl <;> decide +kernel

/-! ## §2. The staging buffer. -/

/-- The staging buffer and the blocks cut off it are those of `q`, and every
access was defined. -/
structure Stages {n : Nat} (s : CRtmpStream) (q : Staging UInt8 n) : Prop where
  size : s.iRawBuffSize = n
  blocks : s.blocks = q.blocks
  count : s.pcmencodesize = q.staged.length
  cells : s.pcmencodebuf.cells.take s.pcmencodesize = q.staged
  fault : s.fault = none

/-- The buffer holds two blocks, and what is staged is less than one, so there
is room for a piece of a block's size. -/
theorem stage_spec {n : Nat} {q : Staging UInt8 n} (h : Stages s q)
    (hroom : 2 * n ≤ pcmencodebufSize) {data : List UInt8} (hdata : data.length ≤ n) :
    ∃ full t, s.stage data = .ok (full, t) ∧ Stages t (q.accept data hdata) := by
  obtain ⟨hsize, hblocks, hcount, hcells, hfault⟩ := h
  have hlt := q.staged_lt
  have hfits : s.pcmencodesize + data.length ≤ pcmencodebufSize := by omega
  obtain ⟨buf, hstore, hbuf⟩ := Block.store_ok (b := s.pcmencodebuf) hfits
  have hstaged := Block.take_store hfits hbuf
  rw [hcells] at hstaged
  unfold stage
  rw [hstore, Memory.ok_bind]
  dsimp only
  by_cases hfull : n ≤ q.staged.length + data.length
  · -- a block is cut off, and what is behind it moves to the front
    rw [if_pos (by omega), hsize, Block.load_ok (by omega), Memory.ok_bind]
    have hsrc : n + (s.pcmencodesize + data.length - n) ≤ pcmencodebufSize := by omega
    have hdst : 0 + (s.pcmencodesize + data.length - n) ≤ n := by omega
    obtain ⟨buf', hcopy, hbuf'⟩ := Block.copyWithin_ok (b := buf) hsrc (by omega) (Or.inl hdst)
    rw [hcopy, Memory.ok_bind]
    obtain ⟨hqblocks, hqstaged⟩ := Staging.accept_of_full hdata hfull
    have hrest : s.pcmencodesize + data.length - n = ((q.staged ++ data).drop n).length := by
      rw [List.length_drop, List.length_append, hcount]
    refine ⟨true, _, rfl, rfl, ?_, ?_, ?_, hfault⟩
    · show s.blocks ++ [(buf.cells.drop 0).take n] = _
      rw [hqblocks, hblocks, ← hstaged, List.drop_zero, List.take_take, Nat.min_eq_left (by omega)]
    · rw [hqstaged]
      exact hrest
    · show buf'.cells.take (s.pcmencodesize + data.length - n) = _
      rw [Nat.zero_add] at hbuf'
      rw [hbuf', hqstaged, ← hstaged, List.take_zero, List.nil_append, List.drop_take]
  · rw [if_neg (by omega)]
    obtain ⟨hqblocks, hqstaged⟩ := Staging.accept_of_not_full hdata hfull
    refine ⟨false, _, rfl, hsize, hblocks.trans hqblocks.symm, ?_, ?_, hfault⟩
    · show s.pcmencodesize + data.length = _
      rw [hqstaged, List.length_append, hcount]
    · rw [hqstaged]
      exact hstaged

/-- What the rest of a call changes. -/
theorem Stages.of_eq {n : Nat} {q : Staging UInt8 n} {t : CRtmpStream} (h : Stages s q)
    (hsize : t.iRawBuffSize = s.iRawBuffSize) (hblocks : t.blocks = s.blocks)
    (hcount : t.pcmencodesize = s.pcmencodesize) (hbuf : t.pcmencodebuf = s.pcmencodebuf)
    (hfault : t.fault = s.fault) : Stages t q where
  size := hsize.trans h.size
  blocks := hblocks.trans h.blocks
  count := hcount.trans h.count
  cells := by rw [hcount, hbuf, h.cells]
  fault := hfault.trans h.fault

theorem Stages.stamp {n : Nat} {q : Staging UInt8 n} (h : Stages s q) (medium : AVMediaType)
    (timestamp : UInt64) : Stages (s.stamp medium timestamp).2 q := by
  cases medium <;> exact h.of_eq rfl rfl rfl rfl rfl

theorem Stages.writeUnlessBack {n : Nat} {q : Staging UInt8 n} (h : Stages s q)
    (lastTs : UInt64) (frame : WrittenFrame) (ret : Int) :
    Stages (s.writeUnlessBack lastTs frame ret).2 q := by
  rw [writeUnlessBack_eq]
  split
  · exact h
  · exact h.of_eq rfl rfl rfl rfl rfl

theorem Stages.writeVideoFrame {n : Nat} {q : Staging UInt8 n} (h : Stages s q)
    (data : List UInt8) (timestamp : UInt64) (answer : EncoderAnswer) :
    Stages (s.writeVideoFrame data timestamp answer).2 q := by
  -- looking for a key frame reads nothing outside of the data
  obtain ⟨isI, hisI, -⟩ := isIdrFrame1_eq data
  unfold CRtmpStream.writeVideoFrame
  rw [hisI]
  exact (h.stamp .video timestamp).writeUnlessBack _ _ _

/-- Whatever the resampler and the encoder answer, what was staged stays. -/
theorem Stages.writeAudioFrame {n : Nat} {q : Staging UInt8 n} (h : Stages s q)
    (hroom : 2 * n ≤ pcmencodebufSize) {data : List UInt8} (hdata : data.length ≤ n)
    (timestamp : UInt64) (answer : EncoderAnswer) :
    Stages (s.writeAudioFrame data timestamp answer).2 (q.accept data hdata) := by
  obtain ⟨full, t, hstage, ht⟩ := stage_spec h hroom hdata
  unfold CRtmpStream.writeAudioFrame
  rw [hstage]
  cases full with
  | false => exact ht
  | true =>
      have hcount : Stages { t with samplesCount := t.samplesCount + t.nbSamples }
          (q.accept data hdata) := ht.of_eq rfl rfl rfl rfl rfl
      dsimp only
      split
      · exact ht
      · split
        · exact hcount
        · split
          · exact (hcount.stamp .audio timestamp).writeUnlessBack _ _ _
          · exact hcount

/-- The audio of some calls. -/
def pcm (calls : List Call) : List UInt8 :=
  calls.flatMap fun call => match call.write.datatype with
    | .audio => call.write.data
    | .video => []

/-- **Every run** stages the audio it is given. -/
theorem stages_run {n : Nat} (hroom : 2 * n ≤ pcmencodebufSize) (calls : List Call) :
    (∀ call ∈ calls, call.write.datatype = .audio → call.write.data.length ≤ n) →
      ∀ {s : CRtmpStream} {q : Staging UInt8 n}, Stages s q →
        ∃ q' : Staging UInt8 n, Stages (Runs.run step s calls) q'
          ∧ q'.contents = q.contents ++ pcm calls := by
  induction calls with
  | nil => exact fun _ _ q h => ⟨q, h, (List.append_nil _).symm⟩
  | cons call calls ih =>
      -- only audio is collected
      intro hcalls s q h
      obtain ⟨hcall, hrest⟩ := List.forall_mem_cons.mp hcalls
      obtain ⟨⟨datatype, data, bIsKeyFrame, timestamp⟩, answer⟩ := call
      cases datatype with
      | video => exact ih hrest (h.writeVideoFrame data timestamp answer)
      | audio =>
          have hdata : data.length ≤ n := hcall rfl
          obtain ⟨q', hq', hcontents⟩ :=
            ih hrest (h.writeAudioFrame hroom hdata timestamp answer)
          refine ⟨q', hq', ?_⟩
          rw [hcontents, Staging.contents_accept, List.append_assoc]
          rfl

/-- The bytes of an AAC frame: 1024 samples of 16 bits. -/
def aacFrameSize : Nat := 2048

/-- **The staging buffer never overflows and loses nothing.**  For every sequence
of calls with at most 2048 bytes of audio each, and whatever the resampler, the
encoder and the muxer answer: less than a block is staged before each call,
every `memcpy` stays inside the buffer and does not overlap itself, and the
blocks copied to `pRawBuff` and what is staged behind them are the audio that
came. -/
theorem staging_exact (calls : List Call)
    (hcalls : ∀ call ∈ calls, call.write.datatype = .audio →
      call.write.data.length ≤ aacFrameSize) :
    let s := Runs.run step (new aacFrameSize 1024) calls
    s.fault = none ∧ s.pcmencodesize < aacFrameSize
      ∧ (∀ block ∈ s.blocks, block.length = aacFrameSize)
      ∧ s.blocks.flatten ++ s.pcmencodebuf.cells.take s.pcmencodesize = pcm calls := by
  have hinit : Stages (new aacFrameSize 1024) (.empty (by decide) : Staging UInt8 aacFrameSize) :=
    ⟨rfl, rfl, rfl, rfl, rfl⟩
  obtain ⟨q, hq, hcontents⟩ := stages_run (by decide) calls hcalls hinit
  refine ⟨hq.fault, ?_, ?_, ?_⟩
  · rw [hq.count]
    exact q.staged_lt
  · rw [hq.blocks]
    exact q.block_length
  · rw [hq.blocks, hq.cells]
    exact hcontents

/-- Two pieces of 1500 bytes, and an encoder that fails: a block leaves, and 952
bytes wait. -/
theorem staging_exact_two_pieces :
    let piece : Call := ⟨⟨.audio, List.replicate 1500 0, false, 40⟩, ⟨0, -1, false, 0⟩⟩
    let s := Runs.run step (new aacFrameSize 1024) [piece, piece]
    s.fault = none ∧ s.pcmencodesize < aacFrameSize
      ∧ (∀ block ∈ s.blocks, block.length = aacFrameSize)
      ∧ s.blocks.flatten ++ s.pcmencodebuf.cells.take s.pcmencodesize = pcm [piece, piece] := by
  intro piece
  have hpiece : piece.write.datatype = .audio → piece.write.data.length ≤ aacFrameSize := by
    intro _
    show (List.replicate 1500 0).length ≤ _
    rw [List.length_replicate]
    decide
  exact staging_exact [piece, piece]
    (List.forall_mem_cons.mpr ⟨hpiece, List.forall_mem_singleton.mpr hpiece⟩)

end CRtmpStream

end MultiProcessServer
