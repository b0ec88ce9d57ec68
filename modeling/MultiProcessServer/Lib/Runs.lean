/-
  MultiProcessServer.Lib.Runs
  ───────────────────────────
  Runs of a deterministic event-driven machine, and the rules everything
  about them goes through:

    **an invariant of the step is an invariant of the run**;
    **a relation kept by the steps of two machines is kept by their runs**;
    **a machine whose steps are runs of another has runs of it only**.

  What the environment promises about its events is a condition on the state
  each event meets (`Along`).
-/
import Mathlib.Tactic.Common
import Mathlib.Data.List.Basic

namespace MultiProcessServer.Runs

universe u v w x

variable {σ : Type u} {ε : Type v} (step : σ → ε → σ)

/-- The state after a list of events. -/
def run (s : σ) (events : List ε) : σ := events.foldl step s

/-- Every event of the list finds a state in which `P` allows it. -/
def Along (P : σ → ε → Prop) : σ → List ε → Prop
  | _, [] => True
  | s, e :: es => P s e ∧ Along P (step s e) es

variable {step}

@[simp] theorem run_nil (s : σ) : run step s [] = s := rfl

@[simp] theorem run_cons (s : σ) (e : ε) (es : List ε) :
    run step s (e :: es) = run step (step s e) es := rfl

instance decidableAlong {P : σ → ε → Prop} [∀ s e, Decidable (P s e)] :
    ∀ (s : σ) (es : List ε), Decidable (Along step P s es)
  | _, [] => .isTrue trivial
  | s, e :: es =>
      have : Decidable (Along step P (step s e) es) := decidableAlong (step s e) es
      inferInstanceAs (Decidable (P s e ∧ Along step P (step s e) es))

theorem run_append (s : σ) (es fs : List ε) :
    run step s (es ++ fs) = run step (run step s es) fs := List.foldl_append

/-- A machine that ignores some events runs on the others. -/
theorem run_filter (keep : ε → Bool) (es : List ε) : ∀ s : σ,
    run (fun s e => if keep e then step s e else s) s es = run step s (es.filter keep) := by
  induction es with
  | nil => exact fun _ => rfl
  | cons e es ih =>
      intro s
      rw [run_cons, ih, List.filter_cons]
      split
      · rfl
      · rfl

section Along

variable {P Q : σ → ε → Prop}

/-- **The invariant rule.**  What holds at the start and is kept by every
allowed step holds at the end of every allowed run. -/
theorem run_invariant {I : σ → Prop} (hstep : ∀ s e, I s → P s e → I (step s e))
    {es : List ε} : ∀ {s : σ}, I s → Along step P s es → I (run step s es) := by
  induction es with
  | nil => exact fun hs _ => hs
  | cons e es ih => exact fun hs hes => ih (hstep _ e hs hes.1) hes.2

/-- What the states of a run promise, they promise of its events. -/
theorem Along.of_invariant {I : σ → Prop} (hstep : ∀ s e, I s → P s e → I (step s e))
    (hQ : ∀ s e, I s → P s e → Q s e) {es : List ε} :
    ∀ {s : σ}, I s → Along step P s es → Along step Q s es := by
  induction es with
  | nil => exact fun _ _ => trivial
  | cons e es ih => exact fun hs hes => ⟨hQ _ e hs hes.1, ih (hstep _ e hs hes.1) hes.2⟩

/-- **The rule for what is inherited backwards.**  If an allowed step ends in a
state with `B` only when it begins in one, a run that ends with `B` has it
throughout. -/
theorem Along.backwards {I B : σ → Prop} (hstep : ∀ s e, I s → P s e → I (step s e))
    (hback : ∀ s e, I s → P s e → B (step s e) → B s) {es : List ε} :
    ∀ {s : σ}, I s → Along step P s es → B (run step s es) →
      B s ∧ Along step (fun s e => B s ∧ B (step s e)) s es := by
  induction es with
  | nil => exact fun _ _ hB => ⟨hB, trivial⟩
  | cons e es ih =>
      intro s hI hes hB
      obtain ⟨hnext, halong⟩ := ih (hstep s e hI hes.1) hes.2 hB
      have hfirst := hback s e hI hes.1 hnext
      exact ⟨hfirst, ⟨hfirst, hnext⟩, halong⟩

/-- A promise no event can break. -/
theorem along_of_forall (hP : ∀ s e, P s e) (es : List ε) : ∀ s : σ, Along step P s es := by
  induction es with
  | nil => exact fun _ => trivial
  | cons e es ih => exact fun s => ⟨hP s e, ih (step s e)⟩

/-- A promise kept along a run and by one more event. -/
theorem along_concat {e : ε} {es : List ε} :
    ∀ {s : σ}, Along step P s (es ++ [e]) ↔ Along step P s es ∧ P (run step s es) e := by
  induction es with
  | nil => exact fun {s} => ⟨fun h => ⟨trivial, h.1⟩, fun h => ⟨h.2, trivial⟩⟩
  | cons e' es ih =>
      intro s
      rw [List.cons_append, run_cons]
      show P s e' ∧ Along step P (step s e') (es ++ [e])
        ↔ (P s e' ∧ Along step P (step s e') es) ∧ _
      rw [ih, and_assoc]

/-- A promise is kept along a run if every event keeps it where it happens. -/
theorem along_iff_forall_prefix {es : List ε} : ∀ {s : σ}, Along step P s es
    ↔ ∀ pre e, pre ++ [e] <+: es → P (run step s pre) e := by
  induction es with
  | nil =>
      refine iff_of_true trivial fun pre e hpre => ?_
      have hnil := List.prefix_nil.mp hpre
      exact absurd hnil (List.append_ne_nil_of_right_ne_nil pre (List.cons_ne_nil e []))
  | cons e es ih =>
      intro s
      constructor
      · intro h pre e' hpre
        cases pre with
        | nil =>
            obtain ⟨rfl, -⟩ := List.cons_prefix_cons.mp hpre
            exact h.1
        | cons x pre =>
            obtain ⟨rfl, hrest⟩ := List.cons_prefix_cons.mp hpre
            exact ih.mp h.2 pre e' hrest
      · intro h
        refine ⟨h [] e (List.cons_prefix_cons.mpr ⟨rfl, List.nil_prefix⟩), ih.mpr ?_⟩
        exact fun pre e' hpre => h (e :: pre) e' (List.cons_prefix_cons.mpr ⟨rfl, hpre⟩)

theorem Along.of_prefix {pre es : List ε} {s : σ} (h : Along step P s es) (hpre : pre <+: es) :
    Along step P s pre :=
  along_iff_forall_prefix.mpr fun pre' e hpre' =>
    along_iff_forall_prefix.mp h pre' e (hpre'.trans hpre)

/-- A promise kept along one run and then along another. -/
theorem along_append {es fs : List ε} :
    ∀ {s : σ}, Along step P s (es ++ fs) ↔ Along step P s es ∧ Along step P (run step s es) fs := by
  induction es with
  | nil => exact fun {s} => ⟨fun h => ⟨trivial, h⟩, And.right⟩
  | cons e es ih =>
      intro s
      rw [List.cons_append, Along, Along, ih, and_assoc]
      rfl

/-- A promise kept is a weaker promise kept. -/
theorem Along.imp (hPQ : ∀ s e, P s e → Q s e) {es : List ε} :
    ∀ {s : σ}, Along step P s es → Along step Q s es := by
  induction es with
  | nil => exact fun _ => trivial
  | cons e es ih => exact fun h => ⟨hPQ _ e h.1, ih h.2⟩

/-- A promise about the events alone. -/
theorem along_iff_forall {R : ε → Prop} {es : List ε} :
    ∀ {s : σ}, Along step (fun _ e => R e) s es ↔ ∀ e ∈ es, R e := by
  induction es with
  | nil => simp [Along]
  | cons e es ih =>
      intro s
      rw [List.forall_mem_cons, ← @ih (step s e)]
      rfl

/-- Two promises. -/
theorem Along.and {es : List ε} : ∀ {s : σ}, Along step P s es → Along step Q s es →
    Along step (fun s e => P s e ∧ Q s e) s es := by
  induction es with
  | nil => exact fun _ _ => trivial
  | cons e es ih => exact fun hP hQ => ⟨⟨hP.1, hQ.1⟩, ih hP.2 hQ.2⟩

/-- A promise about the state and one about the events alone. -/
theorem Along.and_forall {R : ε → Prop} {es : List ε} {s : σ} (h : Along step P s es)
    (hR : ∀ e ∈ es, R e) : Along step (fun s e => P s e ∧ R e) s es :=
  h.and (along_iff_forall.mpr hR)

/-- **The exact-condition rule.**  If from the states `J` describes a step ends
in a good state exactly when `C` allows it, and then `J` holds again, a run is
good throughout exactly when `C` holds along it. -/
theorem always_iff_along (G : σ → Prop) {J : σ → Prop} {C : σ → ε → Prop}
    (hkeep : ∀ s e, J s → P s e → C s e → J (step s e))
    (hiff : ∀ s e, J s → P s e → (G (step s e) ↔ C s e)) {es : List ε} :
    ∀ {s : σ}, J s → G s → Along step P s es →
      ((∀ pre, pre <+: es → G (run step s pre)) ↔ Along step C s es) := by
  induction es with
  | nil =>
      refine fun _ hG _ => iff_of_true (fun pre hpre => ?_) trivial
      rw [List.prefix_nil.mp hpre]
      exact hG
  | cons e es ih =>
      intro s hJ hG hes
      constructor
      · intro halways
        have hC := (hiff s e hJ hes.1).mp (halways [e] (List.prefix_append [e] es))
        refine ⟨hC, (ih (hkeep s e hJ hes.1 hC) (halways [e] (List.prefix_append [e] es))
          hes.2).mp fun pre hpre => ?_⟩
        exact halways (e :: pre) (List.cons_prefix_cons.mpr ⟨rfl, hpre⟩)
      · intro halong pre hpre
        obtain ⟨hC, hrest⟩ := halong
        rcases List.prefix_cons_iff.mp hpre with rfl | ⟨rest, rfl, hbegins⟩
        · exact hG
        · exact (ih (hkeep s e hJ hes.1 hC) ((hiff s e hJ hes.1).mpr hC) hes.2).mpr hrest rest
            hbegins

/-- **Two promises that are the same promise** about the states `J` describes,
as long as it is kept. -/
theorem along_iff_along {R : σ → ε → Prop} {J : σ → Prop}
    (hiff : ∀ s e, J s → R s e → (P s e ↔ Q s e))
    (hkeep : ∀ s e, J s → R s e → Q s e → J (step s e)) {es : List ε} :
    ∀ {s : σ}, J s → Along step R s es → (Along step P s es ↔ Along step Q s es) := by
  induction es with
  | nil => exact fun _ _ => Iff.rfl
  | cons e es ih =>
      intro s hJ hR
      constructor
      · intro h
        have hQ := (hiff s e hJ hR.1).mp h.1
        exact ⟨hQ, (ih (hkeep s e hJ hR.1 hQ) hR.2).mp h.2⟩
      · intro h
        exact ⟨(hiff s e hJ hR.1).mpr h.1, (ih (hkeep s e hJ hR.1 h.1) hR.2).mpr h.2⟩

end Along

section Simulation

variable {τ : Type w} {step' : τ → ε → τ} {P : τ → ε → Prop} {R : σ → τ → Prop}

/-- **The simulation rule.**  Two machines that answer the same events and
whose steps keep `R` are related by `R` after every run the second allows. -/
theorem run_simulation (hstep : ∀ s t e, R s t → P t e → R (step s e) (step' t e))
    {es : List ε} :
    ∀ {s : σ} {t : τ}, R s t → Along step' P t es → R (run step s es) (run step' t es) := by
  induction es with
  | nil => exact fun hst _ => hst
  | cons e es ih => exact fun hst hes => ih (hstep _ _ e hst hes.1) hes.2

/-- What the second machine allows, the first one does. -/
theorem Along.transfer {Q : σ → ε → Prop}
    (hstep : ∀ s t e, R s t → P t e → R (step s e) (step' t e))
    (himp : ∀ s t e, R s t → P t e → Q s e) {es : List ε} :
    ∀ {s : σ} {t : τ}, R s t → Along step' P t es → Along step Q s es := by
  induction es with
  | nil => exact fun _ _ => trivial
  | cons e es ih =>
      exact fun hst hes => ⟨himp _ _ e hst hes.1, ih (hstep _ _ e hst hes.1) hes.2⟩

end Simulation

section Refinement

variable {τ : Type w} {φ : Type x} {step' : τ → φ → τ} {P : σ → ε → Prop} {Q : τ → φ → Prop}
  {I : σ → Prop} {f : σ → τ} {calls : σ → ε → List φ}

/-- The events of a second machine that a run of the first makes. -/
def flatten (step : σ → ε → σ) (calls : σ → ε → List φ) : σ → List ε → List φ
  | _, [] => []
  | s, e :: es => calls s e ++ flatten step calls (step s e) es

/-- **The refinement rule.**  If every allowed step of the first machine is some
allowed steps of the second, so is every allowed run. -/
theorem run_flatten (hkeep : ∀ s e, I s → P s e → I (step s e))
    (hstep : ∀ s e, I s → P s e →
      f (step s e) = run step' (f s) (calls s e) ∧ Along step' Q (f s) (calls s e))
    {es : List ε} : ∀ {s : σ}, I s → Along step P s es →
      f (run step s es) = run step' (f s) (flatten step calls s es)
        ∧ Along step' Q (f s) (flatten step calls s es) := by
  induction es with
  | nil => exact fun _ _ => ⟨rfl, trivial⟩
  | cons e es ih =>
      intro s hI hes
      obtain ⟨habs, hallowed⟩ := hstep s e hI hes.1
      obtain ⟨hrun, hrest⟩ := ih (hkeep s e hI hes.1) hes.2
      rw [habs] at hrun hrest
      refine ⟨?_, along_append.mpr ⟨hallowed, hrest⟩⟩
      rw [run_cons, hrun, flatten, run_append]

end Refinement

end MultiProcessServer.Runs
