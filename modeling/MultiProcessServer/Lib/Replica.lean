/-
  MultiProcessServer.Lib.Replica
  ──────────────────────────────
  A set and its copy, joined by a queue.  The owner changes its set and posts
  the change; the follower makes the posted changes one by one, and may lose an
  element of its own accord.

    **the copy follows the set if replaying what is queued on the copy gives
    the set** (`Follows`), which posting and handling keep; losing an element
    keeps it exactly when a queued change will settle that element again
    (`follows_lose_iff`).
-/
import Mathlib.Tactic.Common
import Mathlib.Data.List.Basic

namespace MultiProcessServer.Replica

universe u

/-- A posted change. -/
inductive Edit (κ : Type u)
  | add (k : κ)
  | del (k : κ)
  | other
  deriving DecidableEq

variable {κ : Type u}

namespace Edit

/-- The element the change settles. -/
def key : Edit κ → Option κ
  | add k => some k
  | del k => some k
  | other => none

/-- Whether `k` is in a set after the change, when `p` says whether it was. -/
def apply (k : κ) (p : Prop) : Edit κ → Prop
  | add x => k = x ∨ p
  | del x => k ≠ x ∧ p
  | other => p

/-- A change settles its element, whatever was before. -/
theorem apply_of_key {e : Edit κ} {k : κ} (h : e.key = some k) (p q : Prop) :
    e.apply k p ↔ e.apply k q := by
  cases e with
  | add x =>
      cases h
      simp [apply]
  | del x =>
      cases h
      simp [apply]
  | other => cases h

/-- It leaves every other one. -/
theorem apply_of_key_ne {e : Edit κ} {k : κ} (h : e.key ≠ some k) (p : Prop) :
    e.apply k p ↔ p := by
  cases e with
  | add x =>
      have hne : k ≠ x := by
        intro hk
        exact h (congrArg some hk.symm)
      simp [apply, hne]
  | del x =>
      have hne : k ≠ x := by
        intro hk
        exact h (congrArg some hk.symm)
      simp [apply, hne]
  | other => rfl

end Edit

/-- Whether `k` is in a set after the changes. -/
def replay (k : κ) (p : Prop) (edits : List (Edit κ)) : Prop :=
  edits.foldl (fun p e => e.apply k p) p

@[simp] theorem replay_nil (k : κ) (p : Prop) : replay k p [] = p := rfl

@[simp] theorem replay_cons (k : κ) (p : Prop) (e : Edit κ) (edits : List (Edit κ)) :
    replay k p (e :: edits) = replay k (e.apply k p) edits := rfl

theorem replay_append (k : κ) (p : Prop) (edits posted : List (Edit κ)) :
    replay k p (edits ++ posted) = replay k (replay k p edits) posted := List.foldl_append

theorem replay_congr {p q : Prop} (h : p ↔ q) (k : κ) (edits : List (Edit κ)) :
    replay k p edits ↔ replay k q edits := by
  rw [propext h]

/-- Some change of the list settles `k`. -/
def Settles (k : κ) (edits : List (Edit κ)) : Prop := ∃ e ∈ edits, e.key = some k

instance [DecidableEq κ] (k : κ) (edits : List (Edit κ)) : Decidable (Settles k edits) :=
  inferInstanceAs (Decidable (∃ e ∈ edits, e.key = some k))

theorem replay_of_settles {k : κ} {edits : List (Edit κ)} (h : Settles k edits) :
    ∀ p q : Prop, replay k p edits ↔ replay k q edits := by
  induction edits with
  | nil =>
      obtain ⟨e, he, -⟩ := h
      cases he
  | cons x xs ih =>
      intro p q
      rw [replay_cons, replay_cons]
      by_cases hx : x.key = some k
      · exact replay_congr (Edit.apply_of_key hx p q) k xs
      · obtain ⟨e, he, hkey⟩ := h
        rcases List.mem_cons.mp he with rfl | he
        · exact absurd hkey hx
        · exact ih ⟨e, he, hkey⟩ _ _

theorem replay_of_not_settles {k : κ} {edits : List (Edit κ)} (h : ¬Settles k edits) :
    ∀ p : Prop, replay k p edits ↔ p := by
  induction edits with
  | nil =>
      intro p
      rw [replay_nil]
  | cons x xs ih =>
      intro p
      have hx : x.key ≠ some k := by
        intro hkey
        exact h ⟨x, List.mem_cons_self, hkey⟩
      have hxs : ¬Settles k xs := by
        intro hsettles
        obtain ⟨e, he, hkey⟩ := hsettles
        exact h ⟨e, List.mem_cons_of_mem x he, hkey⟩
      rw [replay_cons]
      exact (ih hxs _).trans (Edit.apply_of_key_ne hx p)

/-- **The copy follows the set.** -/
def Follows (set : κ → Prop) (edits : List (Edit κ)) (copy : κ → Prop) : Prop :=
  ∀ k, replay k (copy k) edits ↔ set k

section Follows

variable {set set' copy copy' : κ → Prop} {edits posted : List (Edit κ)} {e : Edit κ}

/-- With nothing queued, the two are the same. -/
theorem follows_nil : Follows set [] copy ↔ ∀ k, copy k ↔ set k := Iff.rfl

/-- The owner makes changes and posts them. -/
theorem Follows.post (h : Follows set edits copy) (hset : ∀ k, set' k ↔ replay k (set k) posted) :
    Follows set' (edits ++ posted) copy := by
  intro k
  rw [replay_append]
  exact (replay_congr (h k) k posted).trans (hset k).symm

/-- The follower makes the oldest change. -/
theorem Follows.handle (h : Follows set (e :: edits) copy)
    (hcopy : ∀ k, copy' k ↔ e.apply k (copy k)) : Follows set edits copy' := by
  intro k
  exact (replay_congr (hcopy k) k edits).trans (h k)

/-- **Losing an element** keeps the copy in step exactly when it was not in the
copy, or a queued change settles it. -/
theorem follows_lose_iff (h : Follows set edits copy) {d : κ}
    (hcopy : ∀ k, copy' k ↔ k ≠ d ∧ copy k) :
    Follows set edits copy' ↔ (copy d → Settles d edits) := by
  constructor
  · intro hfollows hd
    by_contra hsettles
    have hset : set d := (h d).mp ((replay_of_not_settles hsettles _).mpr hd)
    have hafter := (replay_of_not_settles hsettles _).mp ((hfollows d).mpr hset)
    exact ((hcopy d).mp hafter).1 rfl
  · intro hsettles k
    by_cases hk : k = d
    · subst hk
      by_cases hd : copy k
      · exact (replay_of_settles (hsettles hd) _ _).trans (h k)
      · have hd' : ¬copy' k := fun hcopied => hd ((hcopy k).mp hcopied).2
        exact (replay_congr (iff_of_false hd' hd) k edits).trans (h k)
    · have hsame : copy' k ↔ copy k := (hcopy k).trans (and_iff_right hk)
      exact (replay_congr hsame k edits).trans (h k)

/-- `k` is in the set, and will not be in the copy. -/
def Lost (set : κ → Prop) (edits : List (Edit κ)) (copy : κ → Prop) (k : κ) : Prop :=
  set k ∧ ¬replay k (copy k) edits

/-- Only what is not queued for again can be lost. -/
theorem lost_of_lose (h : Follows set edits copy) {d : κ} (hd : copy d) (hcopy : ¬copy' d)
    (hsettles : ¬Settles d edits) : Lost set edits copy' d := by
  constructor
  · exact (h d).mp ((replay_of_not_settles hsettles _).mpr hd)
  · intro hreplay
    exact hcopy ((replay_of_not_settles hsettles _).mp hreplay)

/-- It stays lost as long as no change about it is posted, -/
theorem Lost.post {k : κ} (h : Lost set edits copy k) (hposted : ¬Settles k posted)
    (hset : set' k ↔ replay k (set k) posted) : Lost set' (edits ++ posted) copy k := by
  constructor
  · exact hset.mpr ((replay_of_not_settles hposted _).mpr h.1)
  · rw [replay_append, replay_of_not_settles hposted]
    exact h.2

/-- whatever the follower handles -/
theorem Lost.handle {k : κ} (h : Lost set (e :: edits) copy k)
    (hcopy : copy' k ↔ e.apply k (copy k)) : Lost set edits copy' k := by
  constructor
  · exact h.1
  · rw [replay_congr hcopy]
    exact h.2

/-- and loses besides. -/
theorem Lost.lose {k : κ} (h : Lost set edits copy k) (hcopy : copy' k → copy k) :
    Lost set edits copy' k := by
  constructor
  · exact h.1
  · intro hreplay
    apply h.2
    by_cases hsettles : Settles k edits
    · exact (replay_of_settles hsettles _ _).mp hreplay
    · rw [replay_of_not_settles hsettles] at hreplay ⊢
      exact hcopy hreplay

end Follows

end MultiProcessServer.Replica
