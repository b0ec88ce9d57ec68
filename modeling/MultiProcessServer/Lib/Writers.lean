/-
  MultiProcessServer.Lib.Writers
  ──────────────────────────────
  **SEVERAL WRITERS ON ONE WIRE**, each with a piece of data, of which it writes
  the next part whenever it gets to.

  What is on the wire is read with the number of the writer each element comes
  from: two pieces may look alike, and are not the same.

    `inOrder_step_iff` : the wire stays a beginning of all the pieces, in the
                         order the writers started, exactly when who writes is
                         the oldest that is not done.
-/
import Mathlib.Data.List.GetD
import Mathlib.Tactic.Common

namespace MultiProcessServer

universe u

variable {α : Type u}

/-! ## §1. Pieces with the number of their writer. -/

/-- The elements of the pieces, numbered from `i` on. -/
def labelled : Nat → List (List α) → List (Nat × α)
  | _, [] => []
  | i, op :: ops => op.map (fun x => (i, x)) ++ labelled (i + 1) ops

theorem labelled_append (ops ops' : List (List α)) :
    ∀ i, labelled i (ops ++ ops') = labelled i ops ++ labelled (i + ops.length) ops' := by
  induction ops with
  | nil => exact fun i => rfl
  | cons op ops ih =>
      intro i
      rw [List.cons_append, labelled, labelled, ih, List.append_assoc, List.length_cons,
        Nat.add_right_comm, Nat.add_assoc]

theorem map_snd_labelled (ops : List (List α)) :
    ∀ i, (labelled i ops).map Prod.snd = ops.flatten := by
  induction ops with
  | nil => exact fun i => rfl
  | cons op ops ih =>
      intro i
      have hop : (op.map fun x => (i, x)).map Prod.snd = op := by
        rw [List.map_map]
        exact List.map_id op
      rw [labelled, List.map_append, ih, hop, List.flatten_cons]

theorem le_of_mem_labelled (ops : List (List α)) :
    ∀ {i : Nat} {x : Nat × α}, x ∈ labelled i ops → i ≤ x.1 := by
  induction ops with
  | nil => exact fun hx => absurd hx List.not_mem_nil
  | cons op ops ih =>
      intro i x hx
      rcases List.mem_append.mp hx with hx | hx
      · obtain ⟨y, -, rfl⟩ := List.mem_map.mp hx
        exact Nat.le_refl i
      · exact Nat.le_of_succ_le (ih hx)

theorem lt_of_mem_labelled (ops : List (List α)) :
    ∀ {i : Nat} {x : Nat × α}, x ∈ labelled i ops → x.1 < i + ops.length := by
  induction ops with
  | nil => exact fun hx => absurd hx List.not_mem_nil
  | cons op ops ih =>
      intro i x hx
      rw [List.length_cons]
      rcases List.mem_append.mp hx with hx | hx
      · obtain ⟨y, -, rfl⟩ := List.mem_map.mp hx
        exact Nat.lt_add_of_pos_right (Nat.succ_pos _)
      · have hlt := ih hx
        omega

/-- The numbers go up. -/
theorem sorted_labelled (ops : List (List α)) :
    ∀ i, (labelled i ops).Pairwise fun x y => x.1 ≤ y.1 := by
  induction ops with
  | nil => exact fun i => .nil
  | cons op ops ih =>
      intro i
      refine List.pairwise_append.mpr ⟨?_, ih (i + 1), ?_⟩
      · exact List.pairwise_map.mpr (List.pairwise_of_forall fun _ _ => Nat.le_refl i)
      · intro x hx y hy
        obtain ⟨z, -, rfl⟩ := List.mem_map.mp hx
        exact Nat.le_of_succ_le (le_of_mem_labelled ops hy)

/-- What has a number. -/
def ofWriter (k : Nat) (l : List (Nat × α)) : List (Nat × α) := l.filter fun x => x.1 = k

theorem ofWriter_append (k : Nat) (l l' : List (Nat × α)) :
    ofWriter k (l ++ l') = ofWriter k l ++ ofWriter k l' := List.filter_append ..

theorem ofWriter_labelled (ops : List (List α)) :
    ∀ i k, ofWriter (i + k) (labelled i ops) = (ops.getD k []).map fun x => (i + k, x) := by
  induction ops with
  | nil => exact fun i k => rfl
  | cons op ops ih =>
      intro i k
      rw [labelled, ofWriter_append]
      cases k with
      | zero =>
          have hown : ofWriter (i + 0) (op.map fun x => (i, x)) = op.map fun x => (i, x) := by
            refine List.filter_eq_self.mpr fun x hx => ?_
            obtain ⟨y, -, rfl⟩ := List.mem_map.mp hx
            simp
          have hothers : ofWriter (i + 0) (labelled (i + 1) ops) = [] := by
            refine List.filter_eq_nil_iff.mpr fun x hx => ?_
            have hle := le_of_mem_labelled ops hx
            rw [decide_eq_true_iff]
            omega
          rw [hown, hothers, List.append_nil]
          rfl
      | succ k =>
          have hown : ofWriter (i + (k + 1)) (op.map fun x => (i, x)) = [] := by
            refine List.filter_eq_nil_iff.mpr fun x hx => ?_
            obtain ⟨y, -, rfl⟩ := List.mem_map.mp hx
            rw [decide_eq_true_iff]
            omega
          have hlater := ih (i + 1) k
          rw [Nat.add_right_comm, Nat.add_assoc] at hlater
          rw [hown, hlater, List.nil_append]
          rfl

/-- In a list sorted by number, nothing in front of number `k` is smaller. -/
theorem ofWriter_eq_nil_of_head {x : Nat × α} {xs : List (Nat × α)}
    (hsorted : (x :: xs).Pairwise fun x y => x.1 ≤ y.1) {j : Nat} (hj : j < x.1) :
    ofWriter j (x :: xs) = [] := by
  refine List.filter_eq_nil_iff.mpr fun y hy => ?_
  have hle : x.1 ≤ y.1 := by
    rcases List.mem_cons.mp hy with rfl | hy
    · exact Nat.le_refl _
    · exact (List.pairwise_cons.mp hsorted).1 y hy
  rw [decide_eq_true_iff]
  omega

/-- In a list sorted by number, what has the least number is all in front. -/
theorem ofWriter_in_front {rest : List (Nat × α)}
    (hsorted : rest.Pairwise fun x y => x.1 ≤ y.1) {k : Nat}
    (hnone : ∀ j < k, ofWriter j rest = []) : ofWriter k rest <+: rest := by
  induction rest with
  | nil => exact List.prefix_refl _
  | cons x xs ih =>
      have hx : k ≤ x.1 := by
        by_contra hlt
        have hself := hnone x.1 (Nat.not_le.mp hlt)
        simp [ofWriter] at hself
      have hnone' : ∀ j < k, ofWriter j xs = [] := by
        intro j hj
        have hall := List.filter_eq_nil_iff.mp (hnone j hj)
        exact List.filter_eq_nil_iff.mpr fun y hy => hall y (List.mem_cons_of_mem x hy)
      by_cases heq : x.1 = k
      · have hcons : ofWriter k (x :: xs) = x :: ofWriter k xs :=
          List.filter_cons_of_pos (by simp [heq])
        rw [hcons]
        exact List.cons_prefix_cons.mpr ⟨rfl, ih (List.pairwise_cons.mp hsorted).2 hnone'⟩
      · rw [ofWriter_eq_nil_of_head hsorted (by omega)]
        exact List.nil_prefix

/-- In a list sorted by number, a part of what has one number stands in front
exactly if it is nothing, or nothing has a smaller number. -/
theorem take_ofWriter_prefix_iff {rest : List (Nat × α)}
    (hsorted : rest.Pairwise fun x y => x.1 ≤ y.1) (k n : Nat) :
    (ofWriter k rest).take n <+: rest
      ↔ (ofWriter k rest).take n = [] ∨ ∀ j < k, ofWriter j rest = [] := by
  constructor
  · intro hpre
    cases htake : (ofWriter k rest).take n with
    | nil => exact Or.inl rfl
    | cons x xs =>
        rw [htake] at hpre
        obtain ⟨after, rfl⟩ := hpre
        have hx : x.1 = k := by
          have hmem : x ∈ ofWriter k ((x :: xs) ++ after) :=
            List.mem_of_mem_take (htake ▸ List.mem_cons_self)
          exact of_decide_eq_true (List.mem_filter.mp hmem).2
        exact Or.inr fun j hj => ofWriter_eq_nil_of_head hsorted (hx ▸ hj)
  · intro h
    rcases h with hnil | hnone
    · rw [hnil]
      exact List.nil_prefix
    · exact (List.take_prefix _ _).trans (ofWriter_in_front hsorted hnone)

/-! ## §2. Writers. -/

/-- The pieces in the order their writers started, and the wire. -/
structure Writers (α : Type u) where
  ops : List (List α)
  wire : List (Nat × α)
  deriving DecidableEq, Repr

namespace Writers

/-- A writer starts with its piece, or writes up to `n` elements more of it. -/
inductive Event (α : Type u)
  | start (op : List α)
  | write (k n : Nat)
  deriving DecidableEq, Repr

def new : Writers α := ⟨[], []⟩

variable (s : Writers α)

def written (k : Nat) : Nat := (ofWriter k s.wire).length

/-- What the writer has still to write. -/
def remaining (k : Nat) : List α := (s.ops.getD k []).drop (s.written k)

def step (s : Writers α) : Event α → Writers α
  | .start op => { s with ops := s.ops ++ [op] }
  | .write k n => { s with wire := s.wire ++ ((s.remaining k).take n).map fun x => (k, x) }

/-- The wire is a beginning of all the pieces in order. -/
def InOrder : Prop := s.wire <+: labelled 0 s.ops

/-- Who writes something is the oldest writer that is not done. -/
def Oldest (s : Writers α) : Event α → Prop
  | .start _ => True
  | .write k n => (s.remaining k).take n = [] ∨ ∀ j < k, s.remaining j = []

instance [DecidableEq α] : ∀ e, Decidable (s.Oldest e)
  | .start _ => inferInstanceAs (Decidable True)
  | .write k n => inferInstanceAs
      (Decidable ((s.remaining k).take n = [] ∨ ∀ j < k, s.remaining j = []))

variable {s}

/-- In order, the elements on the wire are those of the pieces. -/
theorem InOrder.wire_prefix (h : s.InOrder) : s.wire.map Prod.snd <+: s.ops.flatten := by
  rw [← map_snd_labelled s.ops 0]
  exact h.map Prod.snd

/-- In order, what is behind the wire is what the writers have still to write. -/
theorem ofWriter_rest {rest : List (Nat × α)} (h : s.wire ++ rest = labelled 0 s.ops) (k : Nat) :
    ofWriter k rest = (s.remaining k).map fun x => (k, x) := by
  have hall := ofWriter_labelled s.ops 0 k
  rw [Nat.zero_add, ← h, ofWriter_append] at hall
  have hdrop := congrArg (List.drop (s.written k)) hall
  rw [written, List.drop_left, ← List.map_drop] at hdrop
  exact hdrop

/-- **One event** keeps the wire in order exactly if it is the oldest writer's. -/
theorem inOrder_step_iff (h : s.InOrder) (e : Event α) : (s.step e).InOrder ↔ s.Oldest e := by
  obtain ⟨rest, hrest⟩ := h
  cases e with
  | start op =>
      refine iff_of_true ?_ trivial
      show s.wire <+: labelled 0 (s.ops ++ [op])
      rw [labelled_append, ← hrest, List.append_assoc]
      exact List.prefix_append _ _
  | write k n =>
      have hsorted : rest.Pairwise fun x y => x.1 ≤ y.1 := by
        have hall := sorted_labelled s.ops 0
        rw [← hrest] at hall
        exact (List.pairwise_append.mp hall).2.1
      have hiff := take_ofWriter_prefix_iff hsorted k n
      simp only [ofWriter_rest hrest, ← List.map_take, List.map_eq_nil_iff] at hiff
      show s.wire ++ _ <+: labelled 0 s.ops ↔ _
      rw [← hrest, List.prefix_append_right_inj]
      exact hiff

theorem inOrder_new : (new : Writers α).InOrder := List.nil_prefix

/-! ## §3. Writers that write once. -/

/-- All writers are done. -/
def Whole (s : Writers α) : Prop := ∀ j < s.ops.length, s.remaining j = []

/-- Then everything is on the wire. -/
theorem InOrder.wire_of_whole (h : s.InOrder) (hwhole : s.Whole) :
    s.wire.map Prod.snd = s.ops.flatten := by
  obtain ⟨rest, hrest⟩ := h
  have hnil : rest = [] := by
    refine List.eq_nil_iff_forall_not_mem.mpr fun x hx => ?_
    have hlt := lt_of_mem_labelled s.ops (hrest ▸ List.mem_append_right s.wire hx)
    rw [Nat.zero_add] at hlt
    have hnone := ofWriter_rest hrest x.1
    rw [hwhole x.1 hlt, List.map_nil] at hnone
    have hmem : x ∈ ofWriter x.1 rest := List.mem_filter.mpr ⟨hx, by simp⟩
    rw [hnone] at hmem
    exact List.not_mem_nil hmem
  rw [hnil, List.append_nil] at hrest
  rw [hrest, map_snd_labelled]

instance [DecidableEq α] (s : Writers α) : Decidable s.Whole :=
  inferInstanceAs (Decidable (∀ j < s.ops.length, s.remaining j = []))

/-- A writer starts and writes at once, up to `n` elements, and never again. -/
def post (s : Writers α) (op : List α) (n : Nat) : Writers α :=
  (s.step (.start op)).step (.write s.ops.length n)

/-- In order, a new writer has written nothing. -/
theorem InOrder.written_length (h : s.InOrder) : s.written s.ops.length = 0 := by
  obtain ⟨rest, hrest⟩ := h
  have hall := ofWriter_labelled s.ops 0 s.ops.length
  rw [Nat.zero_add, ← hrest, ofWriter_append, List.getD_eq_default _ _ (Nat.le_refl _)] at hall
  have hnil := (List.append_eq_nil_iff.mp hall).1
  rw [written, hnil]
  rfl

theorem InOrder.remaining_start (h : s.InOrder) (op : List α) :
    (s.step (.start op)).remaining s.ops.length = op := by
  show ((s.ops ++ [op]).getD s.ops.length []).drop (s.written s.ops.length) = op
  rw [h.written_length, List.drop_zero]
  simp

theorem wire_post (h : s.InOrder) (op : List α) (n : Nat) :
    (s.post op n).wire = s.wire ++ (op.take n).map fun x => (s.ops.length, x) := by
  show s.wire ++ (((s.step (.start op)).remaining s.ops.length).take n).map _ = _
  rw [h.remaining_start]

/-- **A piece written at once** keeps the wire in order exactly if all writers
before it are done, or it writes nothing. -/
theorem inOrder_post_iff (h : s.InOrder) (op : List α) (n : Nat) :
    (s.post op n).InOrder ↔ op.take n = [] ∨ s.Whole := by
  have hstarted := (inOrder_step_iff h (.start op)).mpr trivial
  have hold : ∀ j < s.ops.length, (s.step (.start op)).remaining j = s.remaining j := by
    intro j hj
    show ((s.ops ++ [op]).getD j []).drop (s.written j) = (s.ops.getD j []).drop (s.written j)
    rw [List.getD_append _ _ _ _ hj]
  rw [post, inOrder_step_iff hstarted, Oldest, h.remaining_start]
  refine or_congr_right (forall₂_congr fun j hj => ?_)
  rw [hold j hj]

end Writers

end MultiProcessServer
