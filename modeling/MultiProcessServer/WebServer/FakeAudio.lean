/-
  MultiProcessServer.WebServer.FakeAudio
  ──────────────────────────────────────
  `RtmpClient::AddFakeAudioPcm`: silence for a car without sound, counted in
  packets of 40 milliseconds of video.

  Main result:

    `keeps_up_iff` :
        the counter never runs ahead of the video clock exactly when that
        never moves forward at a time in front of its first one.

  The guard compares with the last timestamp, the subtraction takes the first.
-/
import MultiProcessServer.WebServer.RtmpClient

namespace MultiProcessServer

/-- A client, and the timestamps it added fake audio for. -/
structure FakeAudio where
  client : RtmpClientState
  times : List UInt64

namespace FakeAudio

open RtmpClientState (Call)

/-! ## §1. The calls. -/

def new (client : RtmpClient) (memory : Vector UInt8 CCodec.outBufLen) : FakeAudio :=
  ⟨.new client memory, []⟩

/-- One `AddFakeAudioPcm`. -/
def step (w : FakeAudio) (call : Call) : FakeAudio where
  client := (w.client.addFakeAudioPcm call.packet call.outcome).2
  times := w.times ++ [call.packet.header.bt8timeStamp]

variable (w : FakeAudio)

/-- `t_0`. -/
def firstTime : Nat := (w.times.head?.getD 0).toNat

/-- The largest timestamp so far. -/
def newestTime : Nat := w.times.foldl (fun newest t => max newest t.toNat) 0

/-- The packets of 40 milliseconds, the last one begun counted as a whole. -/
def packets : Nat := (w.newestTime - w.firstTime + 39) / 40

/-- `AddFakeAudioPcm` subtracts the first timestamp. -/
def Subtracts (timestamp : UInt64) : Prop :=
  w.client.uStartVideoTime ≠ 0 ∧ w.client.uLastVideoTime ≠ 0
    ∧ timestamp > w.client.uLastVideoTime

instance (timestamp : UInt64) : Decidable (w.Subtracts timestamp) :=
  inferInstanceAs (Decidable (_ ∧ _))

/-- The subtraction does not wrap, and the counter is not ahead of the video. -/
structure KeepsUp (w : FakeAudio) (call : Call) : Prop where
  noWrap : w.Subtracts call.packet.header.bt8timeStamp →
    w.client.uStartVideoTime ≤ call.packet.header.bt8timeStamp
  bounded : (w.step call).client.uSendAudioPktCount.toNat ≤ (w.step call).packets

/-- A timestamp that is larger than the one before it is not smaller than the
first. -/
def Forward (call : Call) : Prop :=
  ∀ last ∈ w.times.getLast?, last ≠ 0 → last < call.packet.header.bt8timeStamp →
    w.firstTime ≤ call.packet.header.bt8timeStamp.toNat

instance (w : FakeAudio) (call : Call) : Decidable (w.Forward call) :=
  Option.decidableForallMem w.times.getLast?

/-- The first timestamp is not zero. -/
def Begins (call : Call) : Prop := w.times = [] → call.packet.header.bt8timeStamp ≠ 0

/-- The client's variables are the first and the last timestamp, and the counter
is not ahead. -/
structure Counts : Prop where
  start : w.client.uStartVideoTime = w.times.head?.getD 0
  last : w.client.uLastVideoTime = w.times.getLast?.getD 0
  begun : w.times ≠ [] → w.client.uStartVideoTime ≠ 0
  bounded : w.client.uSendAudioPktCount.toNat ≤ w.packets

variable {w}

/-! ### One call. -/

theorem newestTime_step (w : FakeAudio) (call : Call) :
    (w.step call).newestTime = max w.newestTime call.packet.header.bt8timeStamp.toNat := by
  unfold newestTime step
  rw [List.foldl_append]
  rfl

/-- What a call makes of the client. -/
theorem client_step (w : FakeAudio) (call : Call) :
    (w.step call).client.uStartVideoTime
        = (if w.client.uStartVideoTime = 0 then call.packet.header.bt8timeStamp
          else w.client.uStartVideoTime)
      ∧ (w.step call).client.uLastVideoTime = call.packet.header.bt8timeStamp
      ∧ (w.step call).client.uSendAudioPktCount
        = (w.client.fakeAudioLen call.packet.header.bt8timeStamp).2 := by
  unfold step RtmpClientState.addFakeAudioPcm
  dsimp only
  split
  · exact ⟨rfl, rfl, rfl⟩
  · exact ⟨rfl, rfl, rfl⟩

theorem firstTime_step (hne : w.times ≠ []) (call : Call) :
    (w.step call).firstTime = w.firstTime := by
  obtain ⟨first, rest, htimes⟩ := List.exists_cons_of_ne_nil hne
  unfold firstTime step
  rw [htimes]
  rfl

/-- The counter stays, or is what is subtracted. -/
theorem counted (w : FakeAudio) (timestamp : UInt64) :
    (w.client.fakeAudioLen timestamp).2 = w.client.uSendAudioPktCount
      ∨ w.Subtracts timestamp ∧ (w.client.fakeAudioLen timestamp).2
        = (timestamp - w.client.uStartVideoTime + 39) / 40 := by
  unfold RtmpClientState.fakeAudioLen
  split
  next h =>
      dsimp only
      split
      · exact Or.inr ⟨h, rfl⟩
      · exact Or.inl rfl
  next => exact Or.inl rfl

/-- Counting that does not wrap is not ahead. -/
theorem count_le {start timestamp : UInt64} (hle : start ≤ timestamp) {newest : Nat}
    (hnewest : timestamp.toNat ≤ newest) :
    ((timestamp - start + 39) / 40).toNat ≤ (newest - start.toNat + 39) / 40 := by
  rw [UInt64.toNat_div, UInt64.toNat_add, UInt64.toNat_sub_of_le _ _ hle]
  -- adding 39 may wrap as well, and then counts less
  show (_ + 39) % 2 ^ 64 / 40 ≤ _
  refine Nat.div_le_div_right (Nat.le_trans (Nat.mod_le _ _) ?_)
  omega

theorem Counts.start_toNat (h : w.Counts) :
    w.client.uStartVideoTime.toNat = w.firstTime := by
  rw [h.start, firstTime]

/-- There is a first timestamp, and the last one is smaller. -/
theorem subtracts_iff (h : w.Counts) (timestamp : UInt64) :
    w.Subtracts timestamp ↔ ∃ last ∈ w.times.getLast?, last ≠ 0 ∧ last < timestamp := by
  unfold Subtracts
  rw [h.last]
  cases hlast : w.times.getLast? with
  | none =>
      rw [List.getLast?_eq_none_iff] at hlast
      refine iff_of_false (fun hsub => hsub.1 ?_) (by simp)
      rw [h.start, hlast]
      rfl
  | some last =>
      have hne : w.times ≠ [] := fun hnil => by
        rw [hnil] at hlast
        cases hlast
      rw [Option.getD_some, and_iff_right (h.begun hne)]
      simp

theorem packets_le_step (hbegun : w.times ≠ []) (call : Call) :
    w.packets ≤ (w.step call).packets := by
  unfold packets
  rw [firstTime_step hbegun, newestTime_step]
  exact Nat.div_le_div_right (by omega)

/-- Before the first call nothing is counted. -/
theorem Counts.bounded_step (h : w.Counts) (call : Call) :
    w.client.uSendAudioPktCount.toNat ≤ (w.step call).packets := by
  by_cases hbegun : w.times = []
  · have hzero : w.packets = 0 := by
      unfold packets newestTime
      rw [hbegun, List.foldl_nil, Nat.zero_sub]
    have hbounded := h.bounded
    omega
  · exact Nat.le_trans h.bounded (packets_le_step hbegun call)

/-- **One call** keeps up exactly if it is forward: only the subtraction can run
ahead. -/
theorem keepsUp_iff (h : w.Counts) (call : Call) : w.KeepsUp call ↔ w.Forward call := by
  have hnoWrap : (w.Subtracts call.packet.header.bt8timeStamp →
      w.client.uStartVideoTime ≤ call.packet.header.bt8timeStamp) ↔ w.Forward call := by
    rw [subtracts_iff h, UInt64.le_iff_toNat_le, h.start_toNat]
    unfold Forward
    constructor
    · exact fun hle last hlast hne hlt => hle ⟨last, hlast, hne, hlt⟩
    · rintro hforward ⟨last, hlast, hne, hlt⟩
      exact hforward last hlast hne hlt
  rw [← hnoWrap]
  -- where nothing wraps, what is counted is a time the video has reached
  refine ⟨KeepsUp.noWrap, fun hle => ⟨hle, ?_⟩⟩
  rw [(client_step w call).2.2]
  rcases counted w call.packet.header.bt8timeStamp with hsame | ⟨hsub, hcount⟩
  · rw [hsame]
    exact h.bounded_step call
  · have hbegun : w.times ≠ [] := by
      intro hnil
      refine hsub.1 ?_
      rw [h.start, hnil]
      rfl
    rw [hcount, packets, firstTime_step hbegun, ← h.start_toNat]
    refine count_le (hle hsub) ?_
    rw [newestTime_step]
    exact Nat.le_max_right _ _

theorem counts_step (h : w.Counts) {call : Call} (hbegins : w.Begins call)
    (hkeeps : w.KeepsUp call) : (w.step call).Counts := by
  obtain ⟨hstart, hlast, -⟩ := client_step w call
  have htimes : (w.step call).times = w.times ++ [call.packet.header.bt8timeStamp] := rfl
  -- `m_uStartVideoTime` is set once, since the first timestamp is not zero
  have hfirst : (w.step call).client.uStartVideoTime
      = if w.times = [] then call.packet.header.bt8timeStamp else w.client.uStartVideoTime := by
    rw [hstart]
    by_cases hnil : w.times = []
    · rw [if_pos hnil, if_pos (by rw [h.start, hnil]; rfl)]
    · rw [if_neg hnil, if_neg (h.begun hnil)]
  constructor
  · rw [hfirst, htimes]
    by_cases hnil : w.times = []
    · rw [if_pos hnil, hnil]
      rfl
    · rw [if_neg hnil, h.start, List.head?_append_of_ne_nil _ hnil]
  · rw [hlast, htimes, List.getLast?_concat]
    rfl
  · intro _
    rw [hfirst]
    split
    next hnil => exact hbegins hnil
    next hnil => exact h.begun hnil
  · exact hkeeps.bounded

/-! ## §2. Every run. -/

/-- After the first call there is nothing to ask for. -/
theorem begins_later (calls : List Call) :
    ∀ {w : FakeAudio}, w.times ≠ [] → Runs.Along step Begins w calls := by
  induction calls with
  | nil => exact fun _ => trivial
  | cons call calls ih => exact fun hne => ⟨fun hnil => absurd hnil hne, ih (by simp [step])⟩

/-- **When fake audio keeps up.**  For every sequence of timestamps, in any order,
of which the first is not zero, and whatever the stream answers: after each
call the counter is at most the number of 40 millisecond packets between the
first and the largest timestamp so far, and no subtraction wraps, exactly when
no timestamp is larger than the one before it, which is not zero, and smaller
than the first. -/
theorem keeps_up_iff (client : RtmpClient) (memory : Vector UInt8 CCodec.outBufLen)
    (calls : List Call)
    (hfirst : ∀ call ∈ calls.head?, call.packet.header.bt8timeStamp ≠ 0) :
    Runs.Along step KeepsUp (new client memory) calls
      ↔ Runs.Along step Forward (new client memory) calls := by
  have hnew : (new client memory).Counts :=
    ⟨rfl, rfl, fun hne => absurd rfl hne, Nat.zero_le _⟩
  have hbegins : Runs.Along step Begins (new client memory) calls := by
    cases calls with
    | nil => trivial
    | cons call calls => exact ⟨fun _ => hfirst call rfl, begins_later calls (by simp [step])⟩
  exact Runs.along_iff_along (R := Begins) (J := Counts)
    (fun _ call h _ => keepsUp_iff h call)
    (fun _ call h hbegins hforward => counts_step h hbegins ((keepsUp_iff h call).mpr hforward))
    hnew hbegins

/-- A video packet of a car, at a time. -/
def videoPacket (timestamp : UInt64) : Call where
  packet := RtmpClientState.bodyless { Jt1078.Header.cleared with bt8timeStamp := timestamp }
  outcome := RtmpClientState.allWell

/-- A clock that goes back behind its start, and stays there for a frame. -/
theorem keeps_up_back_and_ahead :
    let calls := [videoPacket 1000, videoPacket 1040, videoPacket 900, videoPacket 1100]
    Runs.Along step KeepsUp (new ⟨1, [114]⟩ (Vector.replicate CCodec.outBufLen 0)) calls := by
  intro calls
  exact (keeps_up_iff _ _ calls (by decide)).mpr (by decide +kernel)

/-- A clock that goes back behind its start, and runs on there: the counter is
ahead of any video there will ever be. -/
theorem not_keeps_up_restarted :
    let calls := [videoPacket 1000, videoPacket 10, videoPacket 20]
    let start := new ⟨1, [114]⟩ (Vector.replicate CCodec.outBufLen 0)
    ¬Runs.Along step KeepsUp start calls
      ∧ (Runs.run step start calls).client.uSendAudioPktCount = 461168601842738766
      ∧ (Runs.run step start calls).packets = 0 := by
  intro calls start
  -- at 20 the clock is ahead of the last timestamp, and behind the first
  refine ⟨fun h => absurd h.2.2.1.noWrap ?_, by decide +kernel, by decide +kernel⟩
  exact fun hnoWrap => absurd (hnoWrap (by decide +kernel)) (by decide +kernel)

end FakeAudio

end MultiProcessServer
