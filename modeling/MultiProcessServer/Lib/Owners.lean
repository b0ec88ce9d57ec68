/-
  MultiProcessServer.Lib.Owners
  ─────────────────────────────
  Who owns the handles of a ledger, when a place owns one handle at most.

    `Books owners l` : no handle has two owners, and the open handles of `l`
                       are the owned ones.

  One rule for each thing that can happen to a place: it acquires, gives back,
  hands over or forgets.
-/
import MultiProcessServer.Lib.Handles
import Mathlib.Logic.Function.Basic

namespace MultiProcessServer

open Function (update)

universe u

variable {ι : Type u}

/-- Some place owns it. -/
def Owned (owners : ι → Option Nat) (b : Nat) : Prop := ∃ i, owners i = some b

/-- Every handle that is there has one owner, and the rest was released
once. -/
structure Books (owners : ι → Option Nat) (l : Handles) : Prop where
  alone : ∀ i j b, owners i = some b → owners j = some b → i = j
  balanced : l.Balanced (Owned owners)

namespace Books

theorem none : Books (fun _ : ι => Option.none) Handles.none where
  alone _ _ _ h := nomatch h
  balanced := Handles.balanced_none.congr fun _ => iff_of_false id fun h => nomatch h.choose_spec

variable [DecidableEq ι] {owners : ι → Option Nat} {l : Handles} {i j : ι} {b : Nat}

/-- Who owns `b` after a place got a handle, or lost its own. -/
theorem update_eq_some_iff {v : Option Nat} {x : ι} :
    update owners i v x = some b ↔ (x = i ∧ v = some b) ∨ (x ≠ i ∧ owners x = some b) := by
  by_cases hx : x = i
  · rw [hx, Function.update_self]
    simp
  · rw [Function.update_of_ne hx]
    simp [hx]

/-- A place that owns nothing can be left out. -/
theorem vacant (h : Books owners l) (hi : owners i = .none) : Books (update owners i .none) l := by
  rw [← hi, Function.update_eq_self]
  exact h

/-- **Acquiring**, by a place that owns nothing. -/
theorem acquire (h : Books owners l) (hi : owners i = .none) :
    Books (update owners i (some l.created)) l.acquire.2 where
  alone x y b hx hy := by
    -- the new handle is nobody else's
    have hnew : ∀ z, owners z ≠ some l.created := fun z hz =>
      absurd (h.balanced.live _ ⟨z, hz⟩).1 (Nat.lt_irrefl _)
    rcases update_eq_some_iff.mp hx with ⟨hxi, hb⟩ | ⟨-, hx⟩ <;>
      rcases update_eq_some_iff.mp hy with ⟨hyi, hb'⟩ | ⟨-, hy⟩
    · rw [hxi, hyi]
    · exact absurd (hy.trans hb.symm) (hnew y)
    · exact absurd (hx.trans hb'.symm) (hnew x)
    · exact h.alone x y b hx hy
  balanced := by
    refine h.balanced.acquire.congr fun r => ?_
    constructor
    · rintro (⟨x, hx⟩ | rfl)
      · refine ⟨x, update_eq_some_iff.mpr (Or.inr ⟨?_, hx⟩)⟩
        rintro rfl
        exact nomatch hi.symm.trans hx
      · exact ⟨i, Function.update_self ..⟩
    · rintro ⟨x, hx⟩
      rcases update_eq_some_iff.mp hx with ⟨-, hr⟩ | ⟨-, hx⟩
      · exact Or.inr (Option.some.inj hr).symm
      · exact Or.inl ⟨x, hx⟩

/-- What is owned after a place owns nothing any more. -/
theorem owned_update_none_iff (h : Books owners l) (hi : owners i = some b) (r : Nat) :
    Owned (update owners i .none) r ↔ Owned owners r ∧ r ≠ b := by
  constructor
  · rintro ⟨x, hx⟩
    rcases update_eq_some_iff.mp hx with ⟨-, hr⟩ | ⟨hxi, hx⟩
    · cases hr
    · refine ⟨⟨x, hx⟩, ?_⟩
      rintro rfl
      exact hxi (h.alone x i r hx hi)
  · rintro ⟨⟨x, hx⟩, hne⟩
    refine ⟨x, update_eq_some_iff.mpr (Or.inr ⟨?_, hx⟩)⟩
    rintro rfl
    exact hne (Option.some.inj (hx.symm.trans hi))

/-- **Giving back** what a place owns. -/
theorem release (h : Books owners l) (hi : owners i = some b) :
    Books (update owners i .none) (l.release b) where
  alone x y r hx hy := by
    rcases update_eq_some_iff.mp hx with ⟨-, hr⟩ | ⟨-, hx⟩
    · cases hr
    rcases update_eq_some_iff.mp hy with ⟨-, hr⟩ | ⟨-, hy⟩
    · cases hr
    exact h.alone x y r hx hy
  balanced := (h.balanced.release ⟨i, hi⟩).congr fun r => (h.owned_update_none_iff hi r).symm

/-- Who owns `r` after `j` handed `b` to `i`. -/
theorem update_update_eq_some {x : ι} {r : Nat}
    (hx : update (update owners i (some b)) j .none x = some r) :
    (x = i ∧ r = b) ∨ (x ≠ j ∧ owners x = some r) := by
  rcases update_eq_some_iff.mp hx with ⟨-, hr⟩ | ⟨hxj, hx⟩
  · cases hr
  · rcases update_eq_some_iff.mp hx with ⟨hxi, hr⟩ | ⟨-, hx⟩
    · exact Or.inl ⟨hxi, (Option.some.inj hr).symm⟩
    · exact Or.inr ⟨hxj, hx⟩

theorem owned_update_update_iff (hi : owners i = .none) (hj : owners j = some b) (r : Nat) :
    Owned (update (update owners i (some b)) j .none) r ↔ Owned owners r := by
  constructor
  · rintro ⟨x, hx⟩
    rcases update_update_eq_some hx with ⟨-, rfl⟩ | ⟨-, hx⟩
    · exact ⟨j, hj⟩
    · exact ⟨x, hx⟩
  · rintro ⟨x, hx⟩
    have hne : ∀ {y z}, owners y = .none → owners z = some r → z ≠ y := by
      rintro y z hy hz rfl
      exact nomatch hy.symm.trans hz
    by_cases hxj : x = j
    · -- what `j` owned is now with `i`
      rw [hxj] at hx
      refine ⟨i, update_eq_some_iff.mpr (Or.inr ⟨(hne hi hx).symm, ?_⟩)⟩
      rw [Function.update_self, ← hj, hx]
    · refine ⟨x, update_eq_some_iff.mpr (Or.inr ⟨hxj, ?_⟩)⟩
      exact update_eq_some_iff.mpr (Or.inr ⟨hne hi hx, hx⟩)

/-- **Handing over** what `j` owns to `i`, which owns nothing. -/
theorem move (h : Books owners l) (hi : owners i = .none) (hj : owners j = some b) :
    Books (update (update owners i (some b)) j .none) l where
  alone x y r hx hy := by
    rcases update_update_eq_some hx with ⟨hxi, hr⟩ | ⟨hxj, hx⟩ <;>
      rcases update_update_eq_some hy with ⟨hyi, hr'⟩ | ⟨hyj, hy⟩
    · rw [hxi, hyi]
    · exact absurd (h.alone y j b (hr ▸ hy) hj) hyj
    · exact absurd (h.alone x j b (hr' ▸ hx) hj) hxj
    · exact h.alone x y r hx hy
  balanced := h.balanced.congr fun r => (owned_update_update_iff hi hj r).symm

/-- **Forgetting** is never right. -/
theorem not_forget (h : Books owners l) (hi : owners i = some b) :
    ¬Books (update owners i .none) l := by
  intro hafter
  have hnot : ¬Owned (update owners i .none) b := fun howned =>
    ((h.owned_update_none_iff hi b).mp howned).2 rfl
  obtain ⟨r, hlt, hnot, hcount⟩ := h.balanced.forgotten ⟨i, hi⟩ hnot
  exact hcount (hafter.balanced.gone r hlt hnot)

end Books

end MultiProcessServer
