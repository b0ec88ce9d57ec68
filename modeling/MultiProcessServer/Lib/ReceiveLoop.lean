/-
  MultiProcessServer.Lib.ReceiveLoop
  ──────────────────────────────────
  **A RECEIVE LOOP THAT MAY BE REFUSED A CHUNK.**

  A loop is given chunk after chunk; it answers with the frames it completed
  and, perhaps, with an error, which ends the connection.  Its decoder may
  refuse a chunk, and may meet a head that no frame starts with.

  `Loop.Implements` says what the loop does then.  ONE theorem
  (`Loop.Implements.faithful_iff`) says when it loses nothing unnoticed: in the
  runs in which whatever goes wrong is something it reports.
-/
import MultiProcessServer.Lib.Runs
import MultiProcessServer.Lib.StreamParser

namespace MultiProcessServer.StreamParser

/-- What a loop does with a chunk: the frames it hands on, the error it
reports, and its decoder afterwards. -/
def Loop (α F η σ : Type*) := σ → List α → List F × Option η × σ

/-- A connection up to its first reported error. -/
structure Connection (α F η σ : Type*) where
  decoder : σ
  received : List α
  delivered : List F
  error : Option η

variable {α F η σ : Type*}

/-- A connection that has received nothing. -/
def Connection.fresh (decoder : σ) : Connection α F η σ := ⟨decoder, [], [], none⟩

/-- One more chunk; after an error there is none. -/
def Loop.step (loop : Loop α F η σ) (s : Connection α F η σ) (chunk : List α) :
    Connection α F η σ :=
  if s.error.isSome then s
  else
    { decoder := (loop s.decoder chunk).2.2
      received := s.received ++ chunk
      delivered := s.delivered ++ (loop s.decoder chunk).1
      error := (loop s.decoder chunk).2.1 }

/-- **Nothing is lost unnoticed**: a chunk that is refused and a head that no
frame starts with are reported, and what was delivered are the frames received
so far, a refused chunk aside. -/
def Faithful (g : Grammar α F) (Refuses : σ → List α → Prop) (loop : Loop α F η σ)
    (s : Connection α F η σ) (chunk : List α) : Prop :=
  s.error = none →
    (Refuses s.decoder chunk ∨ (g.parse (s.received ++ chunk)).invalid = true →
      (loop.step s chunk).error ≠ none)
    ∧ ((loop.step s chunk).delivered = (g.parse (s.received ++ chunk)).frames
      ∨ Refuses s.decoder chunk ∧ (loop.step s chunk).delivered = (g.parse s.received).frames)

/-- What goes wrong is something the loop reports. -/
def Reported (g : Grammar α F) (Refuses : σ → List α → Prop) (refusals invalids : Prop)
    (s : Connection α F η σ) (chunk : List α) : Prop :=
  s.error = none →
    (Refuses s.decoder chunk → refusals)
    ∧ (¬Refuses s.decoder chunk → (g.parse (s.received ++ chunk)).invalid = true → invalids)

/-- The loop runs a decoder of the grammar: `Rep` says which bytes a state of
the decoder stands for, `P` restricts the streams; the loop reports refused
chunks if `refusals`, and invalid heads if `invalids`. -/
structure Loop.Implements (loop : Loop α F η σ) (g : Grammar α F) (Rep : σ → List α → Prop)
    (P : List α → Prop) (Refuses : σ → List α → Prop) (refusals invalids : Prop) : Prop where
  refused : ∀ {s p c}, Rep s p → g.next p = .more → g.Always P (p ++ c) → Refuses s c →
    (loop s c).1 = [] ∧ ((loop s c).2.1 ≠ none ↔ refusals)
  taken : ∀ {s p c}, Rep s p → g.next p = .more → g.Always P (p ++ c) → ¬Refuses s c →
    (loop s c).1 = (g.parse (p ++ c)).frames
      ∧ ((g.parse (p ++ c)).invalid = false →
          (loop s c).2.1 = none ∧ Rep (loop s c).2.2 (g.parse (p ++ c)).rest)
      ∧ ((g.parse (p ++ c)).invalid = true → ((loop s c).2.1 ≠ none ↔ invalids))

namespace Loop

variable {loop : Loop α F η σ} {g : Grammar α F} {Rep : σ → List α → Prop} {P : List α → Prop}
  {Refuses : σ → List α → Prop} {refusals invalids : Prop} {s : Connection α F η σ}
  {c : List α}

theorem step_of_none (h : s.error = none) :
    loop.step s c = ⟨(loop s.decoder c).2.2, s.received ++ c, s.delivered ++ (loop s.decoder c).1,
      (loop s.decoder c).2.1⟩ := by
  unfold step
  rw [h]
  rfl

theorem step_of_some (h : s.error ≠ none) : loop.step s c = s := by
  unfold step
  rw [if_pos (Option.isSome_iff_ne_none.mpr h)]

/-- What is known of a connection without an error. -/
structure Going (g : Grammar α F) (Rep : σ → List α → Prop) (s : Connection α F η σ) : Prop where
  rep : Rep s.decoder (g.parse s.received).rest
  valid : (g.parse s.received).invalid = false
  delivered : s.delivered = (g.parse s.received).frames

theorem Going.next (h : Going g Rep s) : g.next (g.parse s.received).rest = .more := by
  rw [g.next_rest, h.valid]
  rfl

/-- The stream received so far is one that `P` allows. -/
def Allowed (g : Grammar α F) (P : List α → Prop) (s : Connection α F η σ) (chunk : List α) :
    Prop :=
  s.error = none → g.Always P (s.received ++ chunk)

namespace Implements

variable (H : loop.Implements g Rep P Refuses refusals invalids)

include H

/-- A chunk that is taken. -/
theorem step_taken (hs : Going g Rep s) (herror : s.error = none)
    (hP : g.Always P (s.received ++ c)) (hc : ¬Refuses s.decoder c) :
    (loop.step s c).delivered = (g.parse (s.received ++ c)).frames
      ∧ ((g.parse (s.received ++ c)).invalid = false →
          (loop.step s c).error = none ∧ Going g Rep (loop.step s c))
      ∧ ((g.parse (s.received ++ c)).invalid = true →
          ((loop.step s c).error ≠ none ↔ invalids)) := by
  have hsplit := g.parse_append c hs.valid
  obtain ⟨hframes, hvalid, hinvalid⟩ := H.taken hs.rep hs.next (hP.rest c hs.valid) hc
  have hdelivered : (loop.step s c).delivered = (g.parse (s.received ++ c)).frames := by
    rw [step_of_none herror, hsplit, ← hs.delivered, ← hframes]
  rw [hsplit]
  refine ⟨?_, ?_, ?_⟩
  · rw [hdelivered, hsplit]
  · intro hok
    obtain ⟨hnone, hrep⟩ := hvalid hok
    have herror' : (loop.step s c).error = none := by
      rw [step_of_none herror]
      exact hnone
    refine ⟨herror', ?_, ?_, ?_⟩
    · rw [step_of_none herror]
      dsimp only
      rw [hsplit]
      exact hrep
    · rw [step_of_none herror]
      dsimp only
      rw [hsplit]
      exact hok
    · rw [hdelivered, step_of_none herror]
  · intro hbad
    rw [step_of_none herror]
    exact hinvalid hbad

/-- A chunk that is refused. -/
theorem step_refused (hs : Going g Rep s) (herror : s.error = none)
    (hP : g.Always P (s.received ++ c)) (hc : Refuses s.decoder c) :
    (loop.step s c).delivered = (g.parse s.received).frames
      ∧ ((loop.step s c).error ≠ none ↔ refusals) := by
  obtain ⟨hframes, hreport⟩ := H.refused hs.rep hs.next (hP.rest c hs.valid) hc
  rw [step_of_none herror]
  dsimp only
  rw [hframes, List.append_nil, hs.delivered]
  exact ⟨rfl, hreport⟩

/-- **What one chunk does.** -/
theorem faithful_step_iff (hs : s.error = none → Going g Rep s) (hP : Allowed g P s c) :
    Faithful g Refuses loop s c ↔ Reported g Refuses refusals invalids s c := by
  unfold Faithful Reported
  by_cases herror : s.error = none
  · by_cases hc : Refuses s.decoder c
    · obtain ⟨hdelivered, hreport⟩ := H.step_refused (hs herror) herror (hP herror) hc
      constructor
      · intro h _
        exact ⟨fun _ => hreport.mp ((h herror).1 (Or.inl hc)), fun hnot => absurd hc hnot⟩
      · intro h _
        exact ⟨fun _ => hreport.mpr ((h herror).1 hc), Or.inr ⟨hc, hdelivered⟩⟩
    · obtain ⟨hdelivered, -, hreport⟩ := H.step_taken (hs herror) herror (hP herror) hc
      constructor
      · intro h _
        refine ⟨fun hrefused => absurd hrefused hc, ?_⟩
        intro _ hbad
        exact (hreport hbad).mp ((h herror).1 (Or.inr hbad))
      · intro h _
        refine ⟨?_, Or.inl hdelivered⟩
        intro hwrong
        have hbad := hwrong.resolve_left hc
        exact (hreport hbad).mpr ((h herror).2 hc hbad)
  · exact iff_of_true (fun hnone => absurd hnone herror) (fun hnone => absurd hnone herror)

/-- A connection that reported everything that went wrong goes on only if
nothing did. -/
theorem going_step (hs : s.error = none → Going g Rep s) (hP : Allowed g P s c)
    (hc : Reported g Refuses refusals invalids s c) :
    (loop.step s c).error = none → Going g Rep (loop.step s c) := by
  intro hnone
  by_cases herror : s.error = none
  · by_cases hrefused : Refuses s.decoder c
    · have hreport := (H.step_refused (hs herror) herror (hP herror) hrefused).2
      exact absurd hnone (hreport.mpr ((hc herror).1 hrefused))
    · obtain ⟨-, hgoing, hreport⟩ := H.step_taken (hs herror) herror (hP herror) hrefused
      cases hbad : (g.parse (s.received ++ c)).invalid with
      | false => exact (hgoing hbad).2
      | true =>
          have hreported := (hreport hbad).mpr ((hc herror).2 hrefused hbad)
          exact absurd hnone hreported
  · rw [step_of_some herror] at hnone
    exact absurd hnone herror

omit H in
theorem allowed_along (hclosed : ∀ s t, P (s ++ t) → P s) (chunks : List (List α)) :
    ∀ s : Connection α F η σ, (s.error = none → g.Always P (s.received ++ chunks.flatten)) →
      Runs.Along loop.step (Allowed g P) s chunks := by
  induction chunks with
  | nil => exact fun _ _ => trivial
  | cons c cs ih =>
      intro s hP
      constructor
      · intro herror
        have hall := hP herror
        rw [List.flatten_cons, ← List.append_assoc] at hall
        exact hall.of_append hclosed _
      · apply ih
        intro hnone
        by_cases herror : s.error = none
        · have hall := hP herror
          rw [List.flatten_cons, ← List.append_assoc] at hall
          rw [step_of_none herror]
          exact hall
        · rw [step_of_some herror] at hnone
          exact absurd hnone herror

/-- **Chunks that are taken, of a stream without an invalid head**, are all
delivered as far as they are complete. -/
theorem going_run (hclosed : ∀ s t, P (s ++ t) → P s) {chunks : List (List α)} :
    ∀ {s : Connection α F η σ}, s.error = none → Going g Rep s →
      g.Always P (s.received ++ chunks.flatten) →
      (g.parse (s.received ++ chunks.flatten)).invalid = false →
      Runs.Along loop.step (fun s c => s.error = none → ¬Refuses s.decoder c) s chunks →
      let after := Runs.run loop.step s chunks
      after.error = none ∧ Going g Rep after ∧ after.received = s.received ++ chunks.flatten := by
  induction chunks with
  | nil =>
      intro s herror hs _ _ _
      exact ⟨herror, hs, (List.append_nil _).symm⟩
  | cons c cs ih =>
      intro s herror hs hP hvalid hes
      rw [List.flatten_cons, ← List.append_assoc] at hP hvalid ⊢
      have hbegin := Grammar.parse_prefix_not_invalid cs.flatten hvalid
      obtain ⟨-, hgoing, -⟩ := H.step_taken hs herror (hP.of_append hclosed _) (hes.1 herror)
      obtain ⟨herror', hs'⟩ := hgoing hbegin
      have hreceived : (loop.step s c).received = s.received ++ c := by
        rw [step_of_none herror]
      rw [← hreceived] at hP hvalid ⊢
      exact ih herror' hs' hP hvalid hes.2

omit H in
/-- A connection that has received nothing stands for nothing. -/
theorem going_fresh (hnil : g.next [] = .more) {decoder : σ} (hrep : Rep decoder []) :
    Going g Rep (Connection.fresh decoder : Connection α F η σ) := by
  have hempty := Grammar.parse_of_more hnil
  refine ⟨?_, ?_, ?_⟩
  · show Rep decoder (g.parse []).rest
    rw [hempty]
    exact hrep
  · show (g.parse []).invalid = false
    rw [hempty]
  · show [] = (g.parse []).frames
    rw [hempty]

/-- **When nothing is lost unnoticed**, in a whole run from a decoder that
stands for no bytes. -/
theorem faithful_iff (hclosed : ∀ s t, P (s ++ t) → P s) (hnil : g.next [] = .more)
    {decoder : σ} (hrep : Rep decoder []) {chunks : List (List α)}
    (hP : g.Always P chunks.flatten) :
    Runs.Along loop.step (Faithful g Refuses loop) (.fresh decoder) chunks
      ↔ Runs.Along loop.step (Reported g Refuses refusals invalids) (.fresh decoder) chunks := by
  apply Runs.along_iff_along (R := Allowed g P) (J := fun s => s.error = none → Going g Rep s)
  · exact fun s c hs hP => H.faithful_step_iff hs hP
  · exact fun s c hs hP hc => H.going_step hs hP hc
  · exact fun _ => going_fresh hnil hrep
  · exact allowed_along hclosed chunks _ fun _ => hP

end Implements

end Loop

end MultiProcessServer.StreamParser
