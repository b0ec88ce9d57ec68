/-
  MultiProcessServer.Lib.Predictor
  ────────────────────────────────
  Predictive coders.  The coder and the decoder hold the same kind of state; a
  sample is quantised against the state, and the code alone moves the state on.
  So a decoder that starts where the coder started goes through the same states
  (`replay_codes`), and one that starts elsewhere shows the same values exactly
  as long as each code takes both to the same value (`replay_eq_trace_iff`).
-/
import Mathlib.Data.List.Basic

namespace MultiProcessServer

universe u v w x

/-- States, codes, samples and the values a state stands for. -/
structure Predictor (σ : Type u) (κ : Type v) (ξ : Type w) (β : Type x) where
  quantize : σ → ξ → κ
  advance : σ → κ → σ
  value : σ → β

namespace Predictor

variable {σ : Type u} {κ : Type v} {ξ : Type w} {β : Type x} (P : Predictor σ κ ξ β)

/-- The codes of some samples. -/
def codes : σ → List ξ → List κ
  | _, [] => []
  | s, x :: xs => P.quantize s x :: codes (P.advance s (P.quantize s x)) xs

/-- The state the samples leave. -/
def drive : σ → List ξ → σ
  | s, [] => s
  | s, x :: xs => drive (P.advance s (P.quantize s x)) xs

/-- The value after each sample, as the coder has it. -/
def trace : σ → List ξ → List β
  | _, [] => []
  | s, x :: xs =>
      P.value (P.advance s (P.quantize s x)) :: trace (P.advance s (P.quantize s x)) xs

/-- The value after each code, as a decoder has it. -/
def replay : σ → List κ → List β
  | _, [] => []
  | s, k :: ks => P.value (P.advance s k) :: replay (P.advance s k) ks

/-- Each of the codes takes the two states to one value. -/
def Together : σ → σ → List κ → Prop
  | _, _, [] => True
  | s, t, k :: ks => P.value (P.advance t k) = P.value (P.advance s k)
      ∧ Together (P.advance s k) (P.advance t k) ks

instance decidableTogether [DecidableEq β] : ∀ s t ks, Decidable (P.Together s t ks)
  | _, _, [] => .isTrue trivial
  | s, t, k :: ks =>
      have : Decidable (P.Together (P.advance s k) (P.advance t k) ks) :=
        decidableTogether (P.advance s k) (P.advance t k) ks
      inferInstanceAs (Decidable (_ ∧ _))

variable {P} {s t : σ}

@[simp] theorem length_codes (xs : List ξ) : ∀ s, (P.codes s xs).length = xs.length := by
  induction xs with
  | nil => exact fun _ => rfl
  | cons x xs ih => exact fun s => congrArg (· + 1) (ih _)

@[simp] theorem length_trace (xs : List ξ) : ∀ s, (P.trace s xs).length = xs.length := by
  induction xs with
  | nil => exact fun _ => rfl
  | cons x xs ih => exact fun s => congrArg (· + 1) (ih _)

@[simp] theorem length_replay (ks : List κ) : ∀ s, (P.replay s ks).length = ks.length := by
  induction ks with
  | nil => exact fun _ => rfl
  | cons k ks ih => exact fun s => congrArg (· + 1) (ih _)

/-- **A decoder in the coder's state retraces it.** -/
theorem replay_codes (xs : List ξ) : ∀ s, P.replay s (P.codes s xs) = P.trace s xs := by
  induction xs with
  | nil => exact fun _ => rfl
  | cons x xs ih => exact fun s => congrArg (_ :: ·) (ih _)

theorem replay_eq_iff (ks : List κ) : ∀ s t, P.replay t ks = P.replay s ks ↔ P.Together s t ks := by
  induction ks with
  | nil => exact fun _ _ => iff_of_true rfl trivial
  | cons k ks ih =>
      intro s t
      rw [replay, replay, List.cons.injEq, ih]
      rfl

/-- **A decoder in another state** retraces the coder exactly if the codes take
both to the same values. -/
theorem replay_eq_trace_iff (xs : List ξ) :
    P.replay t (P.codes s xs) = P.trace s xs ↔ P.Together s t (P.codes s xs) := by
  rw [← replay_codes, replay_eq_iff]

/-- A state stays together with itself. -/
theorem together_self (ks : List κ) : ∀ s, P.Together s s ks := by
  induction ks with
  | nil => exact fun _ => trivial
  | cons k ks ih => exact fun s => ⟨rfl, ih _⟩

/-- What every step from a good state keeps. -/
theorem drive_invariant {I : σ → Prop} (hstep : ∀ s k, I s → I (P.advance s k)) (xs : List ξ) :
    ∀ {s}, I s → I (P.drive s xs) := by
  induction xs with
  | nil => exact id
  | cons x xs ih => exact fun hs => ih (hstep _ _ hs)

end Predictor

end MultiProcessServer
