/-
  MultiProcessServer.Lib.Handles
  ──────────────────────────────
  A ledger of what a program acquires and has to give back: descriptors,
  buffers.  Handles are numbered as they are acquired, and never used again.

    `Balanced l owned` : what is owned is there, and everything else that was
                         acquired was released exactly once.
-/
import Mathlib.Tactic.Common
import Mathlib.Data.List.Basic

namespace MultiProcessServer

/-- The handles acquired are those below `created`; `released` are the
releases, in order. -/
structure Handles where
  created : Nat
  released : List Nat
  deriving DecidableEq, Repr

namespace Handles

def none : Handles := ⟨0, []⟩

variable (l : Handles)

/-- A new handle. -/
def acquire : Nat × Handles := (l.created, { l with created := l.created + 1 })

def release (r : Nat) : Handles := { l with released := l.released ++ [r] }

/-- The books are right, for these owners. -/
structure Balanced (owned : Nat → Prop) : Prop where
  live : ∀ r, owned r → r < l.created ∧ r ∉ l.released
  gone : ∀ r, r < l.created → ¬owned r → l.released.count r = 1
  known : ∀ r ∈ l.released, r < l.created

variable {l} {owned owned' : Nat → Prop} {r : Nat}

theorem balanced_none : none.Balanced fun _ => False where
  live _ h := h.elim
  gone r h := absurd h (Nat.not_lt_zero r)
  known _ h := absurd h List.not_mem_nil

theorem Balanced.congr (h : l.Balanced owned) (heq : ∀ r, owned r ↔ owned' r) :
    l.Balanced owned' where
  live r hr := h.live r ((heq r).mpr hr)
  gone r hr hnot := h.gone r hr fun howned => hnot ((heq r).mp howned)
  known := h.known

/-- **Acquiring**: the new handle has to be owned. -/
theorem Balanced.acquire (h : l.Balanced owned) :
    l.acquire.2.Balanced fun r => owned r ∨ r = l.created where
  live r hr := by
    rcases hr with hr | rfl
    · exact ⟨Nat.lt_succ_of_lt (h.live r hr).1, (h.live r hr).2⟩
    · exact ⟨Nat.lt_succ_self _, fun hmem => Nat.lt_irrefl _ (h.known _ hmem)⟩
  gone r hr hnot := by
    obtain ⟨hnot, hne⟩ := not_or.mp hnot
    have hlt : r < l.created + 1 := hr
    exact h.gone r (by omega) hnot
  known r hr := Nat.lt_succ_of_lt (h.known r hr)

/-- **Releasing**: an owned handle, which is owned no more. -/
theorem Balanced.release (h : l.Balanced owned) (hr : owned r) :
    (l.release r).Balanced fun x => owned x ∧ x ≠ r where
  live x hx := by
    refine ⟨(h.live x hx.1).1, ?_⟩
    intro hmem
    rcases List.mem_append.mp hmem with hmem | hmem
    · exact (h.live x hx.1).2 hmem
    · exact hx.2 (List.mem_singleton.mp hmem)
  gone x hx hnot := by
    show (l.released ++ [r]).count x = 1
    rw [List.count_append, List.count_singleton]
    by_cases hxr : x = r
    · -- the handle released now was not released before
      subst hxr
      rw [List.count_eq_zero_of_not_mem (h.live x hr).2]
      simp
    · rw [h.gone x hx fun howned => hnot ⟨howned, hxr⟩]
      simp [Ne.symm hxr]
  known x hx := by
    rcases List.mem_append.mp hx with hx | hx
    · exact h.known x hx
    · rw [List.mem_singleton.mp hx]
      exact (h.live r hr).1

/-- **Forgetting** a handle is never made good: it has no owner, and was not
released. -/
theorem Balanced.forgotten (h : l.Balanced owned) (hr : owned r) (hnot : ¬owned' r) :
    ∃ r, r < l.created ∧ ¬owned' r ∧ l.released.count r ≠ 1 :=
  ⟨r, (h.live r hr).1, hnot, by rw [List.count_eq_zero_of_not_mem (h.live r hr).2]; decide⟩

/-- What is still open is owned. -/
theorem Balanced.owned_of_open (h : l.Balanced owned) (hr : r < l.created)
    (hopen : r ∉ l.released) : owned r := by
  by_contra hnot
  have hcount := h.gone r hr hnot
  rw [List.count_eq_zero_of_not_mem hopen] at hcount
  exact absurd hcount (by decide)

end Handles

end MultiProcessServer
