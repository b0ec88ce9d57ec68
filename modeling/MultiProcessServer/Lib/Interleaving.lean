/-
  MultiProcessServer.Lib.Interleaving
  ───────────────────────────────────
  Interleavings of a family of streams, as they grow: whichever stream has
  something to add, it comes last.

    `Interleaves.append` : a stream goes on.
-/
import Mathlib.Logic.Function.Basic
import Mathlib.Data.List.Basic

namespace MultiProcessServer

universe u v

variable {κ : Type u} {α : Type v}

/-- The list is made of the streams, each in its order, all of each. -/
inductive Interleaves [DecidableEq κ] : (κ → List α) → List α → Prop
  | nil : Interleaves (fun _ => []) []
  | concat {streams : κ → List α} {l : List α} (h : Interleaves streams l) (k : κ) (x : α) :
      Interleaves (Function.update streams k (streams k ++ [x])) (l ++ [x])

namespace Interleaves

variable [DecidableEq κ] {streams : κ → List α} {l : List α}

/-- **A stream goes on.** -/
theorem append (k : κ) (xs : List α) : ∀ {streams : κ → List α} {l : List α},
    Interleaves streams l →
      Interleaves (Function.update streams k (streams k ++ xs)) (l ++ xs) := by
  induction xs with
  | nil =>
      intro streams l h
      rw [List.append_nil, List.append_nil, Function.update_eq_self]
      exact h
  | cons x xs ih =>
      intro streams l h
      have hgrown := ih (h.concat k x)
      rw [Function.update_idem, Function.update_self, List.append_assoc, List.append_assoc]
        at hgrown
      exact hgrown

/-- The same streams. -/
theorem congr {streams' : κ → List α} (h : Interleaves streams l)
    (heq : ∀ k, streams' k = streams k) : Interleaves streams' l := by
  obtain rfl : streams' = streams := funext heq
  exact h

end Interleaves

end MultiProcessServer
