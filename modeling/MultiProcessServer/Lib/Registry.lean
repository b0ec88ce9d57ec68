/-
  MultiProcessServer.Lib.Registry
  ───────────────────────────────
  A machine that files things under keys, over its runs: as long as no key is
  given out twice, nothing is filed under a key that is taken.

  Main result: `neverOverwrites_of_nodup`.
-/
import MultiProcessServer.Lib.Runs

namespace MultiProcessServer

universe u v w

/-- The machine, the key an event files something under, and the keys there is
something filed under. -/
structure Registry (σ : Type u) (ε : Type v) (κ : Type w) where
  step : σ → ε → σ
  files : ε → Option κ
  Holds : σ → κ → Prop
  /-- Only filing puts something under a key. -/
  holds_step : ∀ {s e k}, Holds (step s e) k → Holds s k ∨ files e = some k

namespace Registry

variable {σ : Type u} {ε : Type v} {κ : Type w} (R : Registry σ ε κ)

/-- Whatever an event of the run files, the key is free at that point. -/
def NeverOverwrites (s : σ) (events : List ε) : Prop :=
  Runs.Along R.step (fun s e => ∀ k, R.files e = some k → ¬ R.Holds s k) s events

variable {R}

/-- **Distinct keys overwrite nothing**, if none of them is taken at the start. -/
theorem neverOverwrites_of_nodup {events : List ε} :
    ∀ {s : σ}, (events.filterMap R.files).Nodup →
      (∀ k ∈ events.filterMap R.files, ¬ R.Holds s k) → R.NeverOverwrites s events := by
  induction events with
  | nil => exact fun _ _ => trivial
  | cons e events ih =>
      intro s hnodup hfree
      cases hfiles : R.files e with
      | none =>
          rw [List.filterMap_cons_none hfiles] at hnodup hfree
          refine ⟨fun k hk => ?_, ih hnodup fun k hk hholds => ?_⟩
          · rw [hfiles] at hk
            cases hk
          · rcases R.holds_step hholds with hholds | hk'
            · exact hfree k hk hholds
            · rw [hfiles] at hk'
              cases hk'
      | some x =>
          rw [List.filterMap_cons_some hfiles] at hnodup hfree
          obtain ⟨hnot, hnodup⟩ := List.nodup_cons.mp hnodup
          refine ⟨fun k hk => ?_, ih hnodup fun k hk hholds => ?_⟩
          · rw [hfiles] at hk
            obtain rfl := Option.some.inj hk
            exact hfree x List.mem_cons_self
          · -- a key of the rest is free, and this event takes another one
            rcases R.holds_step hholds with hholds | hk'
            · exact hfree k (List.mem_cons_of_mem x hk) hholds
            · rw [hfiles] at hk'
              obtain rfl := Option.some.inj hk'
              exact hnot hk

/-- The keys are among those given out, in the order they were. -/
theorem neverOverwrites_of_created {events : List ε} {s : σ} {created : ε → Option κ}
    (hcreated : ∀ e k, R.files e = some k → created e = some k)
    (hnodup : (events.filterMap created).Nodup) (hempty : ∀ k, ¬ R.Holds s k) :
    R.NeverOverwrites s events := by
  have hsublist : (events.filterMap R.files).Sublist (events.filterMap created) := by
    induction events with
    | nil => exact List.Sublist.refl _
    | cons e events ih =>
        have ih := ih (hnodup.sublist ((List.sublist_cons_self e events).filterMap created))
        cases hfiles : R.files e with
        | some k =>
            rw [List.filterMap_cons_some hfiles, List.filterMap_cons_some (hcreated e k hfiles)]
            exact ih.cons_cons k
        | none =>
            rw [List.filterMap_cons_none hfiles]
            exact ih.trans ((List.sublist_cons_self e events).filterMap created)
  exact neverOverwrites_of_nodup (hnodup.sublist hsublist) fun k _ => hempty k

end Registry

end MultiProcessServer
