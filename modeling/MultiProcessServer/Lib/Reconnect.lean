/-
  MultiProcessServer.Lib.Reconnect
  ────────────────────────────────
  A party that keeps one connection up with a one-shot timer: when the
  connection ends, or an attempt at it, the timer is armed, and when the timer
  fires the next attempt is made.

    `never_stalls_iff` : the loop is always connected, connecting or waiting
                         exactly when no attempt ends without a word.
-/
import MultiProcessServer.Lib.Runs

namespace MultiProcessServer.Reconnect

open Runs

universe u v

inductive Link
  | down
  | trying
  | up
  deriving DecidableEq, Repr

structure State where
  link : Link
  timer : Bool
  deriving DecidableEq, Repr

/-- What an attempt answers at once.  After `failed` the party is not called
back; after `refused` it is, before the attempt returns. -/
inductive Answer
  | failed
  | pending
  | connected
  | refused
  deriving DecidableEq, Repr

/-- After `ended` and `lost` the party is called back; `cut` ends a pending
attempt, and it is not. -/
inductive Event
  | attempt (answer : Answer)
  | ended (ok : Bool)
  | cut
  | lost
  | other
  deriving DecidableEq, Repr

/-- The party is not called back. -/
def Event.Silent (e : Event) : Prop := e = .attempt .failed ∨ e = .cut

namespace State

variable (s : State)

/-- One event; the attempt is made because the timer has fired. -/
def step : Event → State
  | .attempt .failed => ⟨.down, false⟩
  | .attempt .pending => ⟨.trying, false⟩
  | .attempt .connected => ⟨.up, false⟩
  | .attempt .refused => ⟨.down, true⟩
  | .ended true => { s with link := .up }
  | .ended false => ⟨.down, true⟩
  | .cut => { s with link := .down }
  | .lost => ⟨.down, true⟩
  | .other => s

/-- The event can come now. -/
def Enabled : Event → Prop
  | .attempt _ => s.timer = true
  | .ended _ => s.link = .trying
  | .cut => s.link = .trying
  | .lost => s.link = .up
  | .other => True

/-- Nothing will ever happen again. -/
def Stalled : Prop := s.link = .down ∧ s.timer = false

/-- The timer is armed only while there is no connection and no attempt. -/
def OneAtATime : Prop := s.timer = true → s.link = .down

variable {s}

theorem OneAtATime.timer_eq (h : s.OneAtATime) (hlink : s.link ≠ .down) : s.timer = false :=
  Bool.eq_false_iff.mpr fun htimer => hlink (h htimer)

theorem OneAtATime.step (h : s.OneAtATime) {e : Event} (he : s.Enabled e) :
    (s.step e).OneAtATime := by
  cases e with
  | attempt answer => cases answer <;> simp [State.step, OneAtATime]
  | ended ok =>
      cases ok with
      | false => exact fun _ => rfl
      | true =>
          have htrying : s.link = .trying := he
          exact fun htimer => absurd (h htimer) (by rw [htrying]; decide)
  | cut => exact fun _ => rfl
  | lost => exact fun _ => rfl
  | other => exact h

/-- **The events that stall the loop.** -/
theorem stalled_step (h : ¬s.Stalled) (hone : s.OneAtATime) {e : Event} (he : s.Enabled e) :
    (s.step e).Stalled ↔ e.Silent := by
  cases e with
  | attempt answer => cases answer <;> simp [step, Stalled, Event.Silent]
  | ended ok => cases ok <;> simp [step, Stalled, Event.Silent]
  | cut =>
      have htrying : s.link = .trying := he
      exact iff_of_true ⟨rfl, hone.timer_eq (by rw [htrying]; decide)⟩ (.inr rfl)
  | lost => simp [step, Stalled, Event.Silent]
  | other => simpa [step, Event.Silent] using h

/-- A stalled loop meets no event of its own any more. -/
theorem Stalled.eq_other (h : s.Stalled) {e : Event} (he : s.Enabled e) : e = .other := by
  obtain ⟨hlink, htimer⟩ := h
  cases e with
  | attempt answer =>
      have harmed : s.timer = true := he
      rw [htimer] at harmed
      cases harmed
  | ended ok =>
      have htrying : s.link = .trying := he
      rw [hlink] at htrying
      cases htrying
  | cut =>
      have htrying : s.link = .trying := he
      rw [hlink] at htrying
      cases htrying
  | lost =>
      have hup : s.link = .up := he
      rw [hlink] at hup
      cases hup
  | other => rfl

end State

/-- What is no event of the loop does nothing to it. -/
theorem run_ignores_other (es : List Event) :
    ∀ s : State, run State.step s es = run State.step s (es.filter fun e => e != .other) := by
  induction es with
  | nil => exact fun _ => rfl
  | cons e es ih =>
      intro s
      cases e with
      | other =>
          have hfilter : (Event.other :: es).filter (fun e => e != .other)
              = es.filter fun e => e != .other := rfl
          rw [hfilter]
          exact ih s
      | attempt answer => exact ih (s.step (.attempt answer))
      | ended ok => exact ih (s.step (.ended ok))
      | cut => exact ih (s.step .cut)
      | lost => exact ih (s.step .lost)

/-- A party that runs such a loop goes through the states of the loop. -/
theorem view_run {σ : Type u} {ε : Type v} {step : σ → ε → σ} {P : σ → ε → Prop}
    (view : σ → State) (mark : ε → Event)
    (hview : ∀ s e, P s e → view (step s e) = (view s).step (mark e)) {es : List ε} :
    ∀ {s : σ}, Along step P s es →
      view (run step s es) = run State.step (view s) (es.map mark) := by
  induction es with
  | nil => exact fun _ => rfl
  | cons e es ih =>
      intro s hes
      rw [run_cons, List.map_cons, run_cons, ih hes.2, hview s e hes.1]

/-- Where a party that runs such a loop stands, by the events of the loop alone. -/
theorem view_run_filter {σ : Type u} {ε : Type v} {step : σ → ε → σ} {P : σ → ε → Prop}
    (view : σ → State) (mark : ε → Event)
    (hview : ∀ s e, P s e → view (step s e) = (view s).step (mark e)) {es : List ε} {s : σ}
    (hes : Along step P s es) :
    view (run step s es)
      = run State.step (view s) ((es.map mark).filter fun e => e != .other) := by
  rw [view_run view mark hview hes, run_ignores_other]

/-- **The rule for a party that runs such a loop.**  `view` is what of its state
belongs to the loop, `mark` what its events are to it. -/
theorem never_stalls_iff {σ : Type u} {ε : Type v} {step : σ → ε → σ} {P : σ → ε → Prop}
    (view : σ → State) (mark : ε → Event)
    (hview : ∀ s e, P s e → view (step s e) = (view s).step (mark e))
    (henabled : ∀ s e, P s e → (view s).Enabled (mark e))
    {s : σ} (hone : (view s).OneAtATime) {es : List ε} (hes : Along step P s es) :
    (∀ pre, pre <+: es → ¬(view (run step s pre)).Stalled)
      ↔ ¬(view s).Stalled ∧ Along step (fun _ e => ¬(mark e).Silent) s es := by
  have hiff : ∀ s e, ¬(view s).Stalled ∧ (view s).OneAtATime → P s e →
      (¬(view (step s e)).Stalled ↔ ¬(mark e).Silent) := by
    intro s e h he
    rw [hview s e he, State.stalled_step h.1 h.2 (henabled s e he)]
  by_cases hs : (view s).Stalled
  · exact iff_of_false (fun hall => hall [] List.nil_prefix hs) fun h => h.1 hs
  · rw [and_iff_right hs]
    refine always_iff_along (fun s => ¬(view s).Stalled)
      (J := fun s => ¬(view s).Stalled ∧ (view s).OneAtATime) ?_ hiff ⟨hs, hone⟩ hs hes
    intro s e h he hloud
    refine ⟨(hiff s e h he).mpr hloud, ?_⟩
    rw [hview s e he]
    exact h.2.step (henabled s e he)

/-- **Nothing gets a stalled party going again.** -/
theorem stays_stalled {σ : Type u} {ε : Type v} {step : σ → ε → σ} {P : σ → ε → Prop}
    (view : σ → State) (mark : ε → Event)
    (hview : ∀ s e, P s e → view (step s e) = (view s).step (mark e))
    (henabled : ∀ s e, P s e → (view s).Enabled (mark e))
    {s : σ} (hs : (view s).Stalled) {es : List ε} (hes : Along step P s es) :
    (view (run step s es)).Stalled := by
  refine run_invariant (I := fun s => (view s).Stalled) ?_ hs hes
  intro s e hstalled he
  have hother := hstalled.eq_other (henabled s e he)
  rw [hview s e he, hother]
  exact hstalled

end MultiProcessServer.Reconnect
