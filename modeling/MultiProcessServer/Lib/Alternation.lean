/-
  MultiProcessServer.Lib.Alternation
  ──────────────────────────────────
  Things that are switched on and off in turn, told from the marks a run
  leaves behind: `true` for on, `false` for off.

    **if every step of a machine switches in turn, so does the whole run, and
    the last mark says what is on at its end** (`alternates_emitted`).
-/
import MultiProcessServer.Lib.Runs

namespace MultiProcessServer.Runs

universe u v w x

/-! ## §1. What a run puts out. -/

section Emitted

variable {σ : Type u} {ε : Type v} {ω : Type w} {ω' : Type x} (step : σ → ε → σ)

/-- The outputs of the steps of a run, in order. -/
def emitted (out : σ → ε → List ω) : σ → List ε → List ω
  | _, [] => []
  | s, e :: es => out s e ++ emitted out (step s e) es

variable {step}

/-- What is read off each output can be read off all of them. -/
theorem filterMap_emitted (g : ω → Option ω') (out : σ → ε → List ω) (es : List ε) :
    ∀ s : σ, (emitted step out s es).filterMap g
      = emitted step (fun s e => (out s e).filterMap g) s es := by
  induction es with
  | nil => exact fun _ => rfl
  | cons e es ih =>
      intro s
      unfold emitted
      rw [List.filterMap_append, ih]

/-- **The log rule.**  A log that every step extends by what its outputs
stand for is what the outputs of the run stand for. -/
theorem log_eq_emitted {P : σ → ε → Prop} {J : σ → Prop} (log : σ → List ω')
    (out : σ → ε → List ω) (g : ω → List ω') (hkeep : ∀ s e, J s → P s e → J (step s e))
    (hlog : ∀ s e, J s → P s e → log (step s e) = log s ++ (out s e).flatMap g)
    {es : List ε} : ∀ {s : σ}, J s → Along step P s es →
      log (run step s es) = log s ++ (emitted step out s es).flatMap g := by
  induction es with
  | nil => exact fun _ _ => (List.append_nil _).symm
  | cons e es ih =>
      intro s hJ hes
      unfold emitted
      rw [run_cons, ih (hkeep s e hJ hes.1) hes.2, hlog s e hJ hes.1, List.append_assoc,
        List.flatMap_append]

end Emitted

/-! ## §2. Alternating marks. -/

/-- Each mark switches what the one before it left; at the start `on` holds. -/
def Alternates (on : Bool) (marks : List Bool) : Prop := (on :: marks).IsChain (· ≠ ·)

/-- What the marks leave. -/
def level (on : Bool) (marks : List Bool) : Bool := marks.getLastD on

instance (on : Bool) (marks : List Bool) : Decidable (Alternates on marks) :=
  inferInstanceAs (Decidable (List.IsChain _ _))

@[simp] theorem alternates_nil (on : Bool) : Alternates on [] := .singleton on

@[simp] theorem alternates_cons {on m : Bool} {ms : List Bool} :
    Alternates on (m :: ms) ↔ on ≠ m ∧ Alternates m ms := List.isChain_cons_cons

@[simp] theorem level_nil (on : Bool) : level on [] = on := rfl

@[simp] theorem level_cons (on m : Bool) (ms : List Bool) : level on (m :: ms) = level m ms :=
  List.getLastD_cons

theorem alternates_append {a b : List Bool} :
    ∀ {on : Bool}, Alternates on (a ++ b) ↔ Alternates on a ∧ Alternates (level on a) b := by
  induction a with
  | nil => simp
  | cons m ms ih => simp [ih, and_assoc]

theorem level_append (a b : List Bool) :
    ∀ on : Bool, level on (a ++ b) = level (level on a) b := by
  induction a with
  | nil => simp
  | cons m ms ih => simp [ih]

/-- **Between switching on and switching on again something is switched off.** -/
theorem Alternates.off_between {on : Bool} {a b c : List Bool}
    (h : Alternates on (a ++ true :: (b ++ true :: c))) : false ∈ b := by
  rw [alternates_append, alternates_cons] at h
  obtain ⟨-, -, hb⟩ := h
  cases b with
  | nil => simp at hb
  | cons m ms =>
      rw [List.cons_append, alternates_cons] at hb
      have hm : m = false := by simpa using hb.1.symm
      simp [hm]

/-- A single mark switches off exactly what was on and is off. -/
theorem Alternates.off_iff {on : Bool} {ms : List Bool} (h : Alternates on ms)
    (hlen : ms.length ≤ 1) : false ∈ ms ↔ on = true ∧ level on ms = false := by
  cases ms with
  | nil =>
      rw [level_nil]
      refine iff_of_false List.not_mem_nil fun hboth => ?_
      rw [hboth.1] at hboth
      exact Bool.noConfusion hboth.2
  | cons m ms =>
      have hnil : ms = [] := by
        rw [← List.length_eq_zero_iff]
        rw [List.length_cons] at hlen
        omega
      subst hnil
      rw [alternates_cons] at h
      have hon : on = !m := Bool.eq_not.mpr h.1
      rw [level_cons, level_nil, List.mem_singleton, hon]
      cases m <;> simp

/-- **Names marked once each.**  One of them gets its mark if it is there. -/
theorem filterMap_mark_of_nodup {ι : Type u} [DecidableEq ι] {ds : List ι} (hnodup : ds.Nodup)
    (d : ι) (m : Bool) :
    ds.filterMap (fun x => if x = d then some m else none) = if d ∈ ds then [m] else [] := by
  induction ds with
  | nil => rfl
  | cons x xs ih =>
      obtain ⟨hx, hxs⟩ := List.nodup_cons.mp hnodup
      rw [List.filterMap_cons, ih hxs]
      by_cases heq : x = d
      · subst heq
        simp [hx]
      · simp [heq, Ne.symm heq]

/-- **The rule for runs.** -/
theorem alternates_emitted {σ : Type u} {ε : Type v} {step : σ → ε → σ} {P : σ → ε → Prop}
    {J : σ → Prop} (on : σ → Bool) (marks : σ → ε → List Bool)
    (hkeep : ∀ s e, J s → P s e → J (step s e))
    (hstep : ∀ s e, J s → P s e →
      Alternates (on s) (marks s e) ∧ on (step s e) = level (on s) (marks s e))
    {es : List ε} : ∀ {s : σ}, J s → Along step P s es →
      Alternates (on s) (emitted step marks s es)
        ∧ on (run step s es) = level (on s) (emitted step marks s es) := by
  induction es with
  | nil => exact fun _ _ => ⟨alternates_nil _, rfl⟩
  | cons e es ih =>
      intro s hJ hes
      obtain ⟨halternates, hlevel⟩ := hstep s e hJ hes.1
      obtain ⟨hrest, hend⟩ := ih (hkeep s e hJ hes.1) hes.2
      unfold emitted
      rw [alternates_append, level_append, ← hlevel]
      exact ⟨⟨halternates, hrest⟩, hend⟩

/-- **The exact rule for runs.**  Where an allowed step switches everything in
turn exactly when `C` allows it too, a run does exactly when `C` holds along it. -/
theorem alternates_emitted_iff {σ : Type u} {ε : Type v} {ι : Type w} {step : σ → ε → σ}
    {P C : σ → ε → Prop} {J : σ → Prop} (on : σ → ι → Bool) (marks : ι → σ → ε → List Bool)
    (hkeep : ∀ s e, J s → P s e → J (step s e))
    (hstep : ∀ s e, J s → P s e → C s e → ∀ i,
      Alternates (on s i) (marks i s e) ∧ on (step s e) i = level (on s i) (marks i s e))
    (hexact : ∀ s e, J s → P s e → (∀ i, Alternates (on s i) (marks i s e)) → C s e)
    {es : List ε} : ∀ {s : σ}, J s → Along step P s es →
      ((∀ i, Alternates (on s i) (emitted step (marks i) s es)) ↔ Along step C s es) := by
  induction es with
  | nil => exact fun _ _ => iff_of_true (fun _ => alternates_nil _) trivial
  | cons e es ih =>
      intro s hJ hes
      have hrest := ih (hkeep s e hJ hes.1) hes.2
      have hsplit : ∀ i, Alternates (on s i) (emitted step (marks i) s (e :: es))
          ↔ Alternates (on s i) (marks i s e)
            ∧ Alternates (level (on s i) (marks i s e)) (emitted step (marks i) (step s e) es) :=
        fun i => alternates_append
      constructor
      · intro h
        have hC : C s e := hexact s e hJ hes.1 fun i => ((hsplit i).mp (h i)).1
        refine ⟨hC, hrest.mp fun i => ?_⟩
        rw [(hstep s e hJ hes.1 hC i).2]
        exact ((hsplit i).mp (h i)).2
      · intro h i
        obtain ⟨hmarks, hlevel⟩ := hstep s e hJ hes.1 h.1 i
        refine (hsplit i).mpr ⟨hmarks, ?_⟩
        rw [← hlevel]
        exact hrest.mpr h.2 i

end MultiProcessServer.Runs
