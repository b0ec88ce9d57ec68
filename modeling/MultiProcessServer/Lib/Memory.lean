/-
  MultiProcessServer.Lib.Memory
  ─────────────────────────────
  An object of C in memory: a fixed number of cells.  An access that has no
  defined behaviour is an error, so a computation that ends well has made none.

    `load_ok`, `get_ok`, `store_ok`, `copyWithin_ok` :
        which accesses are defined, and what they give.
-/
import Mathlib.Tactic.Common
import Mathlib.Data.List.Basic

namespace MultiProcessServer.Memory

universe u

variable {α β : Type u} {n : Nat}

/-- Why an access is undefined. -/
inductive Fault
  | outOfBounds
  | overlap
  deriving DecidableEq, Repr

/-- The computation makes no undefined access. -/
def Defined (x : Except Fault α) : Prop := ∃ a, x = .ok a

instance : (x : Except Fault α) → Decidable (Defined x)
  | .ok a => .isTrue ⟨a, rfl⟩
  | .error _ => .isFalse nofun

theorem defined_ok (a : α) : Defined (.ok a) := ⟨a, rfl⟩

theorem not_defined_error (fault : Fault) : ¬Defined (.error fault : Except Fault α) := nofun

theorem ok_bind (a : α) (f : α → Except Fault β) : (Except.ok a >>= f) = f a := rfl

theorem bind_eq_ok_iff {x : Except Fault α} {f : α → Except Fault β} {b : β} :
    (x >>= f) = .ok b ↔ ∃ a, x = .ok a ∧ f a = .ok b := by
  cases x with
  | error fault => exact iff_of_false nofun (by rintro ⟨a, h, -⟩; cases h)
  | ok a =>
      rw [ok_bind]
      constructor
      · exact fun h => ⟨a, rfl, h⟩
      · rintro ⟨a', ha', h⟩
        cases ha'
        exact h

/-- One access after the other. -/
theorem defined_bind_iff {x : Except Fault α} {f : α → Except Fault β} :
    Defined (x >>= f) ↔ ∃ a, x = .ok a ∧ Defined (f a) := by
  simp only [Defined, bind_eq_ok_iff]
  constructor
  · rintro ⟨b, a, ha, hb⟩
    exact ⟨a, ha, b, hb⟩
  · rintro ⟨a, ha, b, hb⟩
    exact ⟨b, a, ha, hb⟩

/-- Nothing more is accessed. -/
theorem defined_bind_pure_iff {x : Except Fault α} {f : α → β} :
    Defined (x >>= fun a => pure (f a)) ↔ Defined x := by
  rw [defined_bind_iff]
  constructor
  · rintro ⟨a, ha, -⟩
    exact ⟨a, ha⟩
  · rintro ⟨a, ha⟩
    exact ⟨a, ha, defined_ok (f a)⟩

/-- An access that is made for its own sake, and what comes after it. -/
theorem defined_then_iff {x : Except Fault PUnit.{u + 1}} {y : Except Fault α} :
    Defined (x >>= fun _ => y) ↔ Defined x ∧ Defined y := by
  rw [defined_bind_iff]
  constructor
  · rintro ⟨a, ha, hy⟩
    exact ⟨⟨a, ha⟩, hy⟩
  · rintro ⟨⟨a, ha⟩, hy⟩
    exact ⟨a, ha, hy⟩

/-- An access that is made in one case. -/
theorem defined_ite_iff {c : Prop} [Decidable c] {x : Except Fault α} {a : α} :
    Defined (if c then x else pure a) ↔ (c → Defined x) := by
  split
  next h => exact (imp_iff_right h).symm
  next h => exact iff_of_true (defined_ok a) fun hc => absurd hc h

/-- `n` cells. -/
structure Block (α : Type u) (n : Nat) where
  cells : List α
  length_cells : cells.length = n
  deriving DecidableEq, Repr

namespace Block

/-- The object that has these cells. -/
def of (cells : List α) : Block α cells.length := ⟨cells, rfl⟩

variable (b : Block α n)

/-- `len` cells from `start` on. -/
def load (start len : Nat) : Except Fault (List α) :=
  if start + len ≤ n then .ok ((b.cells.drop start).take len) else .error .outOfBounds

/-- Some cells are looked at. -/
def access (start len : Nat) : Except Fault PUnit.{u + 1} := do
  let _cells ← b.load start len
  pure ⟨⟩

/-- The cell `b[i]`. -/
def get (i : Int) : Except Fault α :=
  match if 0 ≤ i then b.cells[i.toNat]? else none with
  | some a => .ok a
  | none => .error .outOfBounds

/-- `memcpy` from another object. -/
def store (start : Nat) (cells : List α) : Except Fault (Block α n) :=
  if h : start + cells.length ≤ n then
    .ok ⟨b.cells.take start ++ (cells ++ b.cells.drop (start + cells.length)), by
      have hlength := b.length_cells
      simp only [List.length_append, List.length_take, List.length_drop]
      omega⟩
  else .error .outOfBounds

/-- `memcpy` from the object to itself. -/
def copyWithin (dst src len : Nat) : Except Fault (Block α n) := do
  let cells ← b.load src len
  if dst + len ≤ src ∨ src + len ≤ dst then b.store dst cells else .error .overlap

variable {b}

theorem load_ok {start len : Nat} (h : start + len ≤ n) :
    b.load start len = .ok ((b.cells.drop start).take len) := if_pos h

theorem load_error {start len : Nat} (h : ¬start + len ≤ n) :
    b.load start len = .error .outOfBounds := if_neg h

theorem defined_load_iff {start len : Nat} : Defined (b.load start len) ↔ start + len ≤ n := by
  by_cases h : start + len ≤ n
  · rw [load_ok h]
    exact iff_of_true (defined_ok _) h
  · rw [load_error h]
    exact iff_of_false (not_defined_error _) h

theorem defined_access_iff {start len : Nat} :
    Defined (b.access start len) ↔ start + len ≤ n := by
  unfold access
  rw [defined_bind_pure_iff, defined_load_iff]

theorem get_ok {i : Nat} {a : α} (h : b.cells[i]? = some a) : b.get i = .ok a := by
  unfold get
  rw [if_pos (Int.natCast_nonneg i), Int.toNat_natCast, h]

/-- What was stored is there, what is in front of it and behind it is left. -/
theorem store_ok {start : Nat} {cells : List α} (h : start + cells.length ≤ n) :
    ∃ b' : Block α n, b.store start cells = .ok b'
      ∧ b'.cells = b.cells.take start ++ (cells ++ b.cells.drop (start + cells.length)) :=
  ⟨_, dif_pos h, rfl⟩

theorem defined_store_iff {start : Nat} {cells : List α} :
    Defined (b.store start cells) ↔ start + cells.length ≤ n := by
  by_cases h : start + cells.length ≤ n
  · obtain ⟨b', hb', -⟩ := store_ok (b := b) h
    exact iff_of_true ⟨b', hb'⟩ h
  · unfold store
    rw [dif_neg h]
    exact iff_of_false (not_defined_error _) h

/-- What was stored at the end of what is of interest. -/
theorem take_store {start : Nat} {cells : List α} {b b' : Block α n}
    (h : start + cells.length ≤ n)
    (hb' : b'.cells = b.cells.take start ++ (cells ++ b.cells.drop (start + cells.length))) :
    b'.cells.take (start + cells.length) = b.cells.take start ++ cells := by
  have hstart : (b.cells.take start).length = start := by
    rw [List.length_take, b.length_cells]
    omega
  rw [hb', ← List.append_assoc]
  exact List.take_left' (by rw [List.length_append, hstart])

theorem copyWithin_ok {dst src len : Nat} (hsrc : src + len ≤ n) (hdst : dst + len ≤ n)
    (hapart : dst + len ≤ src ∨ src + len ≤ dst) :
    ∃ b' : Block α n, b.copyWithin dst src len = .ok b'
      ∧ b'.cells.take (dst + len) = b.cells.take dst ++ (b.cells.drop src).take len := by
  have hlength : ((b.cells.drop src).take len).length = len := by
    rw [List.length_take, List.length_drop, b.length_cells]
    omega
  have hfits : dst + ((b.cells.drop src).take len).length ≤ n := by rwa [hlength]
  obtain ⟨b', hstore, hcells⟩ := store_ok (b := b) hfits
  refine ⟨b', ?_, ?_⟩
  · rw [copyWithin, load_ok hsrc]
    show (if _ then b.store dst _ else _) = _
    rw [if_pos hapart, hstore]
  · have htake := take_store hfits hcells
    rwa [hlength] at htake

end Block

end MultiProcessServer.Memory
