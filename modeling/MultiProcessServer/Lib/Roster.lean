/-
  MultiProcessServer.Lib.Roster
  ─────────────────────────────
  Which sessions a server may hear from: ids are given out once, and a session
  speaks only between being opened and being closed.
-/
import Mathlib.Tactic.Common
import Mathlib.Data.List.Basic

namespace MultiProcessServer

universe u

/-- What an event says about the sessions. -/
inductive Contact (κ : Type u)
  /-- A new session that the server keeps. -/
  | opens (k : κ)
  /-- A new session that is given up at once. -/
  | rejected (k : κ)
  | speaks (k : κ)
  /-- The last event of a session. -/
  | closes (k : κ)
  /-- Nothing. -/
  | silent
  deriving DecidableEq

/-- The ids given out so far, and those of the sessions there are. -/
structure Roster (κ : Type u) where
  used : List κ
  live : List κ

namespace Roster

variable {κ : Type u}

def empty : Roster κ := ⟨[], []⟩

@[simp] theorem not_mem_live_empty (k : κ) : k ∉ (empty : Roster κ).live := List.not_mem_nil

/-- Only sessions whose id was given out exist. -/
def Grounded (r : Roster κ) : Prop := ∀ k ∈ r.live, k ∈ r.used

theorem grounded_empty : (empty : Roster κ).Grounded := fun _ hk => hk

variable [DecidableEq κ]

def next (r : Roster κ) : Contact κ → Roster κ
  | .opens k => ⟨k :: r.used, k :: r.live⟩
  | .rejected k => ⟨k :: r.used, r.live⟩
  | .speaks _ => r
  | .closes k => ⟨r.used, r.live.filter (· ≠ k)⟩
  | .silent => r

/-- The contacts possible now. -/
def admits (r : Roster κ) : Contact κ → Prop
  | .opens k => k ∉ r.used
  | .rejected k => k ∉ r.used
  | .speaks k => k ∈ r.live
  | .closes k => k ∈ r.live
  | .silent => True

instance (r : Roster κ) : ∀ c : Contact κ, Decidable (r.admits c)
  | .opens k => inferInstanceAs (Decidable (k ∉ r.used))
  | .rejected k => inferInstanceAs (Decidable (k ∉ r.used))
  | .speaks k => inferInstanceAs (Decidable (k ∈ r.live))
  | .closes k => inferInstanceAs (Decidable (k ∈ r.live))
  | .silent => inferInstanceAs (Decidable True)

variable {r : Roster κ}

@[simp] theorem mem_live_opens {k x : κ} :
    x ∈ (r.next (.opens k)).live ↔ x = k ∨ x ∈ r.live := List.mem_cons

@[simp] theorem mem_live_closes {k x : κ} :
    x ∈ (r.next (.closes k)).live ↔ x ∈ r.live ∧ x ≠ k := by
  simp [next]

/-- Ids stay given out. -/
theorem mem_used_next {k : κ} (c : Contact κ) (h : k ∈ r.used) : k ∈ (r.next c).used := by
  cases c with
  | opens x | rejected x => exact List.mem_cons_of_mem x h
  | speaks _ | closes _ | silent => exact h

/-- Only opening makes a session. -/
theorem live_of_next {k : κ} {c : Contact κ} (hc : c ≠ .opens k) (h : k ∈ (r.next c).live) :
    k ∈ r.live := by
  cases c with
  | opens x => exact (mem_live_opens.mp h).resolve_left fun heq => hc (by rw [heq])
  | closes x => exact (mem_live_closes.mp h).1
  | rejected x => exact h
  | speaks x => exact h
  | silent => exact h

theorem Grounded.next (h : r.Grounded) (c : Contact κ) : (r.next c).Grounded := by
  intro k hk
  cases c with
  | opens x =>
      rcases mem_live_opens.mp hk with rfl | hk
      · exact List.mem_cons_self
      · exact List.mem_cons_of_mem x (h k hk)
  | rejected x => exact List.mem_cons_of_mem x (h k hk)
  | speaks x => exact h k hk
  | closes x => exact h k (mem_live_closes.mp hk).1
  | silent => exact h k hk

end Roster

end MultiProcessServer
