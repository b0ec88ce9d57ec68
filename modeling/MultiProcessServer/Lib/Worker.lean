/-
  MultiProcessServer.Lib.Worker
  ─────────────────────────────
  A worker that takes tasks from a queue, oldest first, and handles them until
  it takes one that tells it to leave.

  What was posted, what was handled and what is still pending are tied together
  by one invariant (`Tracks`), kept by posting, handling and leaving, and it
  says what the worker will ever handle: the tasks in front of the first one
  that stops it (`served`).
-/
import Mathlib.Data.List.TakeWhile

namespace MultiProcessServer.Worker

universe u

variable {Task : Type u} {stops : Task → Bool}

/-- The tasks in front of the first one that stops the worker. -/
def served (stops : Task → Bool) (posted : List Task) : List Task :=
  posted.takeWhile fun t => !stops t

/-- Up to a task that stops the worker nothing else does. -/
theorem served_append {front rest : List Task} (hgo : ∀ t ∈ front, stops t = false) :
    served stops (front ++ rest) = front ++ served stops rest := by
  refine List.takeWhile_append_of_pos fun t ht => ?_
  rw [hgo t ht]
  rfl

theorem served_cons_stops {t : Task} {rest : List Task} (h : stops t = true) :
    served stops (t :: rest) = [] := by
  refine List.takeWhile_cons_of_neg ?_
  rw [h]
  decide

/-- The worker's history.  `pending` has the task in the worker's hands in
front of those in the queue, and `left` is the task it left its loop on. -/
structure Tracks (stops : Task → Bool) (posted handled pending : List Task)
    (left : Option Task) : Prop where
  split : posted = handled ++ left.toList ++ pending
  handled_go : ∀ t ∈ handled, stops t = false
  left_stops : ∀ t ∈ left, stops t = true

namespace Tracks

variable {posted handled pending : List Task} {left : Option Task} {t : Task}

theorem nil : Tracks stops [] [] [] none := ⟨rfl, nofun, nofun⟩

/-! ### The steps. -/

theorem post (h : Tracks stops posted handled pending left) (ts : List Task) :
    Tracks stops (posted ++ ts) handled (pending ++ ts) left := by
  refine ⟨?_, h.handled_go, h.left_stops⟩
  rw [h.split, List.append_assoc]

theorem handle (h : Tracks stops posted handled (t :: pending) none) (hgo : stops t = false) :
    Tracks stops posted (handled ++ [t]) pending none := by
  refine ⟨?_, List.forall_mem_append.mpr ⟨h.handled_go, List.forall_mem_singleton.mpr hgo⟩,
    nofun⟩
  rw [h.split]
  simp

theorem leave (h : Tracks stops posted handled (t :: pending) none) (hstops : stops t = true) :
    Tracks stops posted handled pending (some t) := by
  refine ⟨?_, h.handled_go, fun t' ht' => ?_⟩
  · rw [h.split]
    simp
  · cases ht'
    exact hstops

/-! ### What is handled. -/

theorem served_of_left (h : Tracks stops posted handled pending (some t)) :
    served stops posted = handled := by
  have hstops := h.left_stops t rfl
  rw [h.split, List.append_assoc, served_append h.handled_go]
  show handled ++ served stops (t :: pending) = handled
  rw [served_cons_stops hstops, List.append_nil]

/-- The task the worker left on is the first that stops it. -/
theorem left_eq (h : Tracks stops posted handled pending (some t)) {front rest : List Task}
    {t' : Task} (hposted : posted = front ++ t' :: rest) (hgo : ∀ t ∈ front, stops t = false)
    (hstops : stops t' = true) : t = t' := by
  have hfront : handled = front := by
    rw [← h.served_of_left, hposted, served_append hgo, served_cons_stops hstops,
      List.append_nil]
  have hsplit := h.split
  rw [hposted, hfront, List.append_assoc] at hsplit
  exact (List.cons.inj (List.append_cancel_left hsplit)).1.symm

end Tracks

end MultiProcessServer.Worker
