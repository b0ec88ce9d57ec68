/-
  MultiProcessServer.Lib.Staging
  ──────────────────────────────
  Cells that come in pieces and leave in blocks of one size.  Of one piece at
  most one block leaves, so what waits stays below a block as long as no piece
  is larger than one.

    `contents_accept` : nothing is lost, and nothing changes its place.
-/
import Mathlib.Tactic.Common
import Mathlib.Data.List.Basic

namespace MultiProcessServer

universe u

/-- The blocks that have left, and the cells that wait. -/
structure Staging (α : Type u) (n : Nat) where
  blocks : List (List α)
  staged : List α
  block_length : ∀ block ∈ blocks, block.length = n
  staged_lt : staged.length < n

namespace Staging

variable {α : Type u} {n : Nat}

def empty (h : 0 < n) : Staging α n := ⟨[], [], nofun, h⟩

variable (q : Staging α n)

/-- Everything that came. -/
def contents : List α := q.blocks.flatten ++ q.staged

/-- One piece comes, and a block leaves if it is full. -/
def accept (cells : List α) (h : cells.length ≤ n) : Staging α n :=
  if hfull : n ≤ q.staged.length + cells.length then
    { blocks := q.blocks ++ [(q.staged ++ cells).take n]
      staged := (q.staged ++ cells).drop n
      block_length := by
        refine List.forall_mem_append.mpr ⟨q.block_length, List.forall_mem_singleton.mpr ?_⟩
        rw [List.length_take, List.length_append]
        omega
      staged_lt := by
        have hlt := q.staged_lt
        rw [List.length_drop, List.length_append]
        omega }
  else
    { blocks := q.blocks
      staged := q.staged ++ cells
      block_length := q.block_length
      staged_lt := by
        rw [List.length_append]
        omega }

variable {q} {cells : List α}

theorem accept_of_full (h : cells.length ≤ n) (hfull : n ≤ q.staged.length + cells.length) :
    (q.accept cells h).blocks = q.blocks ++ [(q.staged ++ cells).take n]
      ∧ (q.accept cells h).staged = (q.staged ++ cells).drop n := by
  rw [accept, dif_pos hfull]
  exact ⟨rfl, rfl⟩

theorem accept_of_not_full (h : cells.length ≤ n)
    (hfull : ¬n ≤ q.staged.length + cells.length) :
    (q.accept cells h).blocks = q.blocks ∧ (q.accept cells h).staged = q.staged ++ cells := by
  rw [accept, dif_neg hfull]
  exact ⟨rfl, rfl⟩

/-- **What comes is kept**, in order. -/
theorem contents_accept (h : cells.length ≤ n) :
    (q.accept cells h).contents = q.contents ++ cells := by
  by_cases hfull : n ≤ q.staged.length + cells.length
  · obtain ⟨hblocks, hstaged⟩ := accept_of_full h hfull
    rw [contents, hblocks, hstaged, List.flatten_append, List.flatten_singleton, List.append_assoc,
      List.take_append_drop, contents, List.append_assoc]
  · obtain ⟨hblocks, hstaged⟩ := accept_of_not_full h hfull
    rw [contents, hblocks, hstaged, contents, List.append_assoc]

end Staging

end MultiProcessServer
