/-
  MultiProcessServer.Lib.StreamParser
  ───────────────────────────────────
  **INCREMENTAL PARSING, INDEPENDENT OF THE CHUNKING.**

  A `Grammar` says what the head of a byte stream is: a complete frame, a
  violation, or not enough data yet.  Its two stability laws say that more
  data never changes a verdict already given.  `Grammar.parse` is the
  reference parser of a whole stream.

  A `Receiver` is a decoder with private state that is pushed chunks and
  then asked for frames until it stops answering `noError`.  `Receiver.run`
  is that loop over a whole connection.

  `Receiver.Parses` relates the two through a representation relation: which
  bytes a receiver state stands for.  ONE theorem (`Receiver.Parses.run_parse`)
  then says that the loop delivers the frames of the reference parser however
  the stream was cut.
-/
import Mathlib.Tactic.Common
import Mathlib.Data.List.Basic

namespace MultiProcessServer.StreamParser

/-! ## §1. Grammars and the reference parser. -/

/-- What the head of a stream is. -/
inductive Outcome (α F : Type*) where
  /-- A complete frame, and the stream after it. -/
  | frame (f : F) (rest : List α)
  /-- A complete header that no frame can start with. -/
  | invalid
  /-- A proper prefix of what decides. -/
  | more

/-- A stream format, given by its verdict on the head of a stream. -/
structure Grammar (α F : Type*) where
  next : List α → Outcome α F
  next_shrinks : ∀ {s f r}, next s = .frame f r → r.length < s.length
  next_frame_append : ∀ {s f r} (t : List α),
    next s = .frame f r → next (s ++ t) = .frame f (r ++ t)
  next_invalid_append : ∀ {s} (t : List α),
    next s = .invalid → next (s ++ t) = .invalid

/-- The complete frames of a stream, the bytes after the last of them, and
whether those bytes violate the grammar (otherwise they are too few). -/
@[ext]
structure Parsed (α F : Type*) where
  frames : List F
  rest : List α
  invalid : Bool

namespace Grammar

variable {α F : Type*} (g : Grammar α F)

/-- The reference parser: frames from the head until one is missing. -/
def parse (s : List α) : Parsed α F :=
  match h : g.next s with
  | .frame f r =>
      have : r.length < s.length := g.next_shrinks h
      { parse r with frames := f :: (parse r).frames }
  | .invalid => ⟨[], s, true⟩
  | .more => ⟨[], s, false⟩
termination_by s.length

variable {g} {s r t : List α} {f : F}

theorem parse_of_frame (h : g.next s = .frame f r) :
    g.parse s = { g.parse r with frames := f :: (g.parse r).frames } := by
  rw [parse]
  split
  next f' r' h' =>
      rw [h] at h'
      injection h' with hf hr
      subst hf hr
      rfl
  next h' => exact absurd (h.symm.trans h') (by simp)
  next h' => exact absurd (h.symm.trans h') (by simp)

theorem parse_of_invalid (h : g.next s = .invalid) :
    g.parse s = ⟨[], s, true⟩ := by
  unfold parse
  split
  next h' => exact absurd (h.symm.trans h') (by simp)
  next => rfl
  next h' => exact absurd (h.symm.trans h') (by simp)

theorem parse_of_more (h : g.next s = .more) :
    g.parse s = ⟨[], s, false⟩ := by
  unfold parse
  split
  next h' => exact absurd (h.symm.trans h') (by simp)
  next h' => exact absurd (h.symm.trans h') (by simp)
  next => rfl

/-- Induction along the frames of a stream. -/
theorem frames_induction (g : Grammar α F) {motive : List α → Prop}
    (frame : ∀ s f r, g.next s = .frame f r → motive r → motive s)
    (invalid : ∀ s, g.next s = .invalid → motive s)
    (more : ∀ s, g.next s = .more → motive s) (s : List α) : motive s := by
  induction hn : s.length using Nat.strongRecOn generalizing s with
  | ind n ih =>
      cases h : g.next s with
      | frame f r =>
          exact frame s f r h (ih r.length (hn ▸ g.next_shrinks h) r rfl)
      | invalid => exact invalid s h
      | more => exact more s h

/-- The bytes left over are where the parser stopped. -/
theorem next_rest (g : Grammar α F) (s : List α) :
    g.next (g.parse s).rest = if (g.parse s).invalid then .invalid else .more := by
  induction s using g.frames_induction with
  | frame s f r h ih => rw [parse_of_frame h]; exact ih
  | invalid s h => simp [parse_of_invalid h, h]
  | more s h => simp [parse_of_more h, h]

/-- **More data extends the parse of an unfinished stream.** -/
theorem parse_append (t : List α) (h : (g.parse s).invalid = false) :
    g.parse (s ++ t)
      = { g.parse ((g.parse s).rest ++ t) with
            frames := (g.parse s).frames ++ (g.parse ((g.parse s).rest ++ t)).frames } := by
  induction s using g.frames_induction with
  | frame s f r hs ih =>
      rw [parse_of_frame hs] at h ⊢
      rw [parse_of_frame (g.next_frame_append t hs), ih h]
      rfl
  | invalid s hs => simp [parse_of_invalid hs] at h
  | more s hs => simp [parse_of_more hs]

/-- A violation is final: no later byte changes the frames before it. -/
theorem parse_append_of_invalid (t : List α) (h : (g.parse s).invalid = true) :
    g.parse (s ++ t) = { g.parse s with rest := (g.parse s).rest ++ t } := by
  induction s using g.frames_induction with
  | frame s f r hs ih =>
      rw [parse_of_frame hs] at h ⊢
      rw [parse_of_frame (g.next_frame_append t hs), ih h]
  | invalid s hs =>
      rw [parse_of_invalid hs, parse_of_invalid (g.next_invalid_append t hs)]
  | more s hs => simp [parse_of_more hs] at h

/-- The frames of a prefix are a prefix of the frames. -/
theorem parse_frames_prefix (s t : List α) :
    (g.parse s).frames <+: (g.parse (s ++ t)).frames := by
  cases h : (g.parse s).invalid with
  | false => rw [parse_append t h]; exact List.prefix_append _ _
  | true =>
      exact ⟨[], by rw [List.append_nil, parse_append_of_invalid t h]⟩

/-- A prefix of a stream without violation has none. -/
theorem parse_prefix_not_invalid (t : List α) (h : (g.parse (s ++ t)).invalid = false) :
    (g.parse s).invalid = false := by
  cases hs : (g.parse s).invalid with
  | false => rfl
  | true =>
      rw [parse_append_of_invalid t hs] at h
      exact absurd (hs.symm.trans h) (by simp)

/-- `g.Reaches s t`: dropping complete frames from `s` leads to `t`. -/
inductive Reaches (g : Grammar α F) : List α → List α → Prop where
  | refl (s : List α) : Reaches g s s
  | step {s r t : List α} {f : F} :
      g.next s = .frame f r → Reaches g r t → Reaches g s t

/-- `P` holds at the head of the stream and after each of its frames. -/
def Always (g : Grammar α F) (P : List α → Prop) (s : List α) : Prop :=
  ∀ t, g.Reaches s t → P t

namespace Always

variable {P : List α → Prop}

theorem head (h : g.Always P s) : P s := h s (.refl s)

theorem tail (hs : g.next s = .frame f r) (h : g.Always P s) : g.Always P r :=
  fun t ht => h t (.step hs ht)

theorem of_append (hP : ∀ s t, P (s ++ t) → P s) (t : List α)
    (h : g.Always P (s ++ t)) : g.Always P s := by
  intro u hu
  induction hu with
  | refl s => exact hP s t (head h)
  | step hs _ ih => exact ih (tail (g.next_frame_append t hs) h)

theorem mono {Q : List α → Prop} (hPQ : ∀ t, P t → Q t) (h : g.Always P s) : g.Always Q s :=
  fun t ht => hPQ t (h t ht)

theorem rest (t : List α) (h : g.Always P (s ++ t))
    (hs : (g.parse s).invalid = false) : g.Always P ((g.parse s).rest ++ t) := by
  induction s using g.frames_induction with
  | frame s f r hn ih =>
      rw [parse_of_frame hn] at hs ⊢
      exact ih (tail (g.next_frame_append t hn) h) hs
  | invalid s hn => simp [parse_of_invalid hn] at hs
  | more s hn => simpa [parse_of_more hn] using h

end Always

/-- `enc` writes the frames of `g`: a complete frame at the head of a stream
is exactly the encoding of a valid frame. -/
def Encodes (g : Grammar α F) (Valid : F → Prop) (enc : F → List α) : Prop :=
  ∀ {s f r}, g.next s = .frame f r ↔ Valid f ∧ s = enc f ++ r

namespace Encodes

variable {Valid : F → Prop} {enc : F → List α}

/-- The stream is its frames' encodings followed by the left-over bytes. -/
theorem parse_split (H : g.Encodes Valid enc) (s : List α) :
    s = (g.parse s).frames.flatMap enc ++ (g.parse s).rest
      ∧ ∀ f ∈ (g.parse s).frames, Valid f := by
  induction s using g.frames_induction with
  | frame s f r h ih =>
      obtain ⟨hf, hs⟩ := H.mp h
      rw [parse_of_frame h]
      constructor
      · rw [hs]
        nth_rewrite 1 [ih.1]
        simp
      · intro f' hf'
        rcases List.mem_cons.mp hf' with rfl | hf'
        · exact hf
        · exact ih.2 f' hf'
  | invalid s h => simp [parse_of_invalid h]
  | more s h => simp [parse_of_more h]

/-- No valid frame starts the left-over bytes. -/
theorem rest_ne (H : g.Encodes Valid enc) (s t : List α) (f : F) (hf : Valid f) :
    (g.parse s).rest ≠ enc f ++ t := by
  intro h
  have hnext := g.next_rest s
  rw [H.mpr ⟨hf, h⟩] at hnext
  split at hnext <;> exact absurd hnext (by simp)

/-- What can be reached is what follows some valid frames. -/
theorem reaches_iff (H : g.Encodes Valid enc) :
    g.Reaches s t ↔ ∃ fs : List F, s = fs.flatMap enc ++ t ∧ ∀ f ∈ fs, Valid f := by
  constructor
  · intro h
    induction h with
    | refl s => exact ⟨[], rfl, by simp⟩
    | @step s r t f hs _ ih =>
        obtain ⟨fs, hr, hfs⟩ := ih
        obtain ⟨hf, hs⟩ := H.mp hs
        refine ⟨f :: fs, ?_, ?_⟩
        · rw [hs, hr, List.flatMap_cons, List.append_assoc]
        · simpa using ⟨hf, hfs⟩
  · intro hencoded
    obtain ⟨fs, rfl, hfs⟩ := hencoded
    induction fs with
    | nil => exact .refl _
    | cons f fs ih =>
        rw [List.flatMap_cons, List.append_assoc]
        exact .step (H.mpr ⟨hfs f List.mem_cons_self, rfl⟩)
          (ih (fun f' hf' => hfs f' (List.mem_cons_of_mem _ hf')))

/-- A property of streams that start with a frame holds along encoded frames. -/
theorem always_encoded {P : List α → Prop} (H : g.Encodes Valid enc) (fs : List F)
    (hfs : ∀ f ∈ fs, Valid f ∧ ∀ t, P (enc f ++ t)) (hr : g.Always P r) :
    g.Always P (fs.flatMap enc ++ r) := by
  induction fs with
  | nil => exact hr
  | cons f fs ih =>
      intro t ht
      rw [List.flatMap_cons, List.append_assoc] at ht
      obtain ⟨hf, hP⟩ := hfs f List.mem_cons_self
      have hnext : g.next (enc f ++ (fs.flatMap enc ++ r)) = .frame f (fs.flatMap enc ++ r) :=
        H.mpr ⟨hf, rfl⟩
      cases ht with
      | refl => exact hP _
      | step hs ht =>
          rw [hnext] at hs
          injection hs with _ hs
          subst hs
          exact ih (fun f' hf' => hfs f' (List.mem_cons_of_mem _ hf')) t ht

/-- **Parsing what was encoded gives the frames back**, and goes on with the
bytes after them. -/
theorem parse_encoded (H : g.Encodes Valid enc) (fs : List F) (r : List α)
    (hfs : ∀ f ∈ fs, Valid f) :
    g.parse (fs.flatMap enc ++ r)
      = { g.parse r with frames := fs ++ (g.parse r).frames } := by
  induction fs with
  | nil => rfl
  | cons f fs ih =>
      have hnext : g.next ((f :: fs).flatMap enc ++ r) = .frame f (fs.flatMap enc ++ r) :=
        H.mpr ⟨hfs f List.mem_cons_self, by simp⟩
      rw [parse_of_frame hnext, ih (fun f' hf' => hfs f' (List.mem_cons_of_mem _ hf'))]
      rfl

end Encodes

end Grammar

/-! ## §2. Receivers: the push-then-decode loop of a connection. -/

/-- A decoder with private state: `push` stores a received chunk, `decode`
tries to complete one frame, which `packet` then shows.  Every answer is an
error code of type `ε`; `size` bounds how often `decode` can succeed. -/
structure Receiver (α F ε σ : Type*) where
  push : σ → List α → ε × σ
  decode : σ → ε × σ
  packet : σ → F
  noError : ε
  needMore : ε
  size : σ → Nat
  size_lt : ∀ {s s'}, decode s = (noError, s') → size s' < size s

namespace Receiver

variable {α F ε σ : Type*} [DecidableEq ε] (R : Receiver α F ε σ)

/-- `while ((error = Decode()) == kNoError) handle(GetPacket());` -/
def drain (s : σ) : List F × ε × σ :=
  match h : R.decode s with
  | (e, s') =>
      if he : e = R.noError then
        have : R.size s' < R.size s := R.size_lt (he ▸ h)
        (R.packet s' :: (drain s').1, (drain s').2)
      else ([], e, s')
termination_by R.size s

/-- One received chunk: push it, then decode as long as frames come. -/
def receive (s : σ) (chunk : List α) : List F × ε × σ :=
  match R.push s chunk with
  | (e, s') => if e = R.noError then R.drain s' else ([], e, s')

/-- A whole connection, stopping for good at the first answer that does not
just ask for more data. -/
def run : σ → List (List α) → List F × ε × σ
  | s, [] => ([], R.needMore, s)
  | s, chunk :: chunks =>
      match R.receive s chunk with
      | (fs, e, s') =>
          if e = R.needMore then (fs ++ (run s' chunks).1, (run s' chunks).2)
          else (fs, e, s')

/-- The same receiver in a loop that does not look at what `push` answers. -/
def ignorePush : Receiver α F ε σ :=
  { R with push := fun s chunk => (R.noError, (R.push s chunk).2) }

variable {R} {s s' : σ} {e : ε}

theorem drain_of_noError (h : R.decode s = (R.noError, s')) :
    R.drain s = (R.packet s' :: (R.drain s').1, (R.drain s').2) := by
  rw [drain]
  simp only [h]
  rfl

theorem drain_of_ne (h : R.decode s = (e, s')) (he : e ≠ R.noError) :
    R.drain s = ([], e, s') := by
  unfold drain
  simp [h, he]

end Receiver

/-! ## §3. A receiver that implements a grammar. -/

/-- `R` implements `g`: `Rep s p` says that state `s` stands for the bytes
`p` after the last delivered frame.  `P` restricts the streams (it holds
wherever a frame may start), `Fits` the chunks. -/
structure Receiver.Parses {α F ε σ : Type*} (R : Receiver α F ε σ) (g : Grammar α F)
    (Rep : σ → List α → Prop) (P : List α → Prop) (Fits : List α → Prop)
    (invalid : ε) : Prop where
  prefix_closed : ∀ s t, P (s ++ t) → P s
  needMore_ne : R.needMore ≠ R.noError
  invalid_ne : invalid ≠ R.noError
  invalid_ne_needMore : invalid ≠ R.needMore
  push : ∀ {s p c}, Rep s p → P p → g.next p = .more → Fits c →
    ∃ s', R.push s c = (R.noError, s') ∧ Rep s' (p ++ c)
  decode_frame : ∀ {s p f r}, Rep s p → P p → g.next p = .frame f r →
    ∃ s', R.decode s = (R.noError, s') ∧ Rep s' r ∧ R.packet s' = f
  decode_invalid : ∀ {s p}, Rep s p → P p → g.next p = .invalid →
    ∃ s', R.decode s = (invalid, s')
  decode_more : ∀ {s p}, Rep s p → P p → g.next p = .more →
    ∃ s', R.decode s = (R.needMore, s') ∧ Rep s' p

namespace Receiver.Parses

variable {α F ε σ : Type*} [DecidableEq ε] {R : Receiver α F ε σ} {g : Grammar α F}
  {Rep : σ → List α → Prop} {P Fits : List α → Prop} {invalid : ε}

/-- The decode loop delivers the frames of the reference parser. -/
theorem drain_parse (H : R.Parses g Rep P Fits invalid) (p : List α) :
    ∀ s : σ, Rep s p → g.Always P p →
      ∃ s', R.drain s
          = ((g.parse p).frames, if (g.parse p).invalid then invalid else R.needMore, s')
        ∧ ((g.parse p).invalid = false → Rep s' (g.parse p).rest) := by
  induction p using g.frames_induction with
  | frame p f r hp ih =>
      intro s hs hP
      obtain ⟨s₁, hdec, hrep, hpkt⟩ := H.decode_frame hs hP.head hp
      obtain ⟨s', hdrain, hrest⟩ := ih s₁ hrep (hP.tail hp)
      refine ⟨s', ?_, ?_⟩
      · rw [Receiver.drain_of_noError hdec, hdrain, hpkt, Grammar.parse_of_frame hp]
      · rw [Grammar.parse_of_frame hp]
        exact hrest
  | invalid p hp =>
      intro s hs hP
      obtain ⟨s', hdec⟩ := H.decode_invalid hs hP.head hp
      refine ⟨s', ?_, ?_⟩
      · rw [Receiver.drain_of_ne hdec H.invalid_ne, Grammar.parse_of_invalid hp]
        rfl
      · simp [Grammar.parse_of_invalid hp]
  | more p hp =>
      intro s hs hP
      obtain ⟨s', hdec, hrep⟩ := H.decode_more hs hP.head hp
      refine ⟨s', ?_, ?_⟩
      · rw [Receiver.drain_of_ne hdec H.needMore_ne, Grammar.parse_of_more hp]
        rfl
      · rw [Grammar.parse_of_more hp]
        exact fun _ => hrep

/-- One chunk after the unfinished bytes `p`. -/
theorem receive_parse (H : R.Parses g Rep P Fits invalid) {s : σ} {p c : List α}
    (hs : Rep s p) (hp : g.next p = .more) (hP : g.Always P (p ++ c)) (hc : Fits c) :
    ∃ s', R.receive s c
        = ((g.parse (p ++ c)).frames,
            if (g.parse (p ++ c)).invalid then invalid else R.needMore, s')
      ∧ ((g.parse (p ++ c)).invalid = false → Rep s' (g.parse (p ++ c)).rest) := by
  obtain ⟨s₁, hpush, hrep⟩ := H.push hs (H.prefix_closed p c hP.head) hp hc
  obtain ⟨s', hdrain, hrest⟩ := H.drain_parse (p ++ c) s₁ hrep hP
  refine ⟨s', ?_, hrest⟩
  simp only [Receiver.receive, hpush, if_true]
  exact hdrain

omit [DecidableEq ε] in
/-- A receiver whose chunks always fit need not look at what `push` answers. -/
theorem ignorePush (H : R.Parses g Rep P Fits invalid) :
    R.ignorePush.Parses g Rep P Fits invalid where
  prefix_closed := H.prefix_closed
  needMore_ne := H.needMore_ne
  invalid_ne := H.invalid_ne
  invalid_ne_needMore := H.invalid_ne_needMore
  push := by
    intro s p c hs hP hp hc
    obtain ⟨s', hpush, hrep⟩ := H.push hs hP hp hc
    exact ⟨s', by simp only [Receiver.ignorePush, hpush], hrep⟩
  decode_frame := H.decode_frame
  decode_invalid := H.decode_invalid
  decode_more := H.decode_more

/-- **The loop is the reference parser, for every chunking.** -/
theorem run_parse (H : R.Parses g Rep P Fits invalid) (cs : List (List α)) :
    ∀ (s : σ) (p : List α), Rep s p → g.next p = .more →
      g.Always P (p ++ cs.flatten) → (∀ c ∈ cs, Fits c) →
      ∃ s', R.run s cs
          = ((g.parse (p ++ cs.flatten)).frames,
              if (g.parse (p ++ cs.flatten)).invalid then invalid else R.needMore, s')
        ∧ ((g.parse (p ++ cs.flatten)).invalid = false →
            Rep s' (g.parse (p ++ cs.flatten)).rest) := by
  induction cs with
  | nil =>
      intro s p hs hp _ _
      refine ⟨s, ?_, ?_⟩
      · simp [Receiver.run, Grammar.parse_of_more hp]
      · simpa [Grammar.parse_of_more hp] using hs
  | cons c cs ih =>
      intro s p hs hp hP hfit
      rw [List.flatten_cons, ← List.append_assoc] at hP ⊢
      have hPc : g.Always P (p ++ c) := hP.of_append H.prefix_closed _
      obtain ⟨s₁, hrecv, hrest⟩ :=
        H.receive_parse hs hp hPc (hfit c List.mem_cons_self)
      cases hinv : (g.parse (p ++ c)).invalid with
      | true =>
          -- the run stops here; the reference parser ignores what follows
          refine ⟨s₁, ?_, ?_⟩
          · simp only [Receiver.run, hrecv, hinv, if_true,
              if_neg H.invalid_ne_needMore, Grammar.parse_append_of_invalid _ hinv]
          · rw [Grammar.parse_append_of_invalid _ hinv]
            exact fun h => absurd (hinv.symm.trans h) (by simp)
      | false =>
          have hnext : g.next (g.parse (p ++ c)).rest = .more := by
            rw [g.next_rest, hinv]
            rfl
          obtain ⟨s', hrun, hrep⟩ := ih s₁ (g.parse (p ++ c)).rest (hrest hinv) hnext
            (hP.rest _ hinv) (fun d hd => hfit d (List.mem_cons_of_mem _ hd))
          refine ⟨s', ?_, ?_⟩
          · simp only [Receiver.run, hrecv, hinv, if_false, if_true, hrun,
              Grammar.parse_append _ hinv, Bool.false_eq_true]
          · rw [Grammar.parse_append _ hinv]
            exact hrep

end Receiver.Parses

end MultiProcessServer.StreamParser
