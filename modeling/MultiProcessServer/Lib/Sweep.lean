/-
  MultiProcessServer.Lib.Sweep
  ────────────────────────────
  **ERASING FROM AN ORDERED CONTAINER WHILE ITERATING OVER IT.**

    for (it = begin(); it != end();)
        if (keep) ++it; else it = erase(it);

  An iterator is the key it stands at; `++it` and `erase(it)` both lead to the
  least key above it that the container holds AT THAT MOMENT.  `sweep_eq` says
  that the loop nevertheless visits exactly the keys present at its start,
  each once and in order: erasing the key the iterator stands at neither skips
  nor repeats another one.

  `broadcast` is the sweep that sends to every writable endpoint and drops the
  ones found dead.
-/
import Mathlib.Tactic.Common
import Mathlib.Data.List.Basic

namespace MultiProcessServer

universe u v w

/-- An ordered container: the keys it holds in increasing order, and how one
is erased. -/
structure Container (τ : Type u) (κ : Type v) [Ord κ] where
  keys : τ → List κ
  erase : τ → κ → τ
  ordered : ∀ t, (keys t).Pairwise fun a b => compare a b = .lt
  mem_keys_erase : ∀ t k x, x ∈ keys (erase t k) ↔ x ≠ k ∧ x ∈ keys t

namespace Container

variable {τ : Type u} {κ : Type v} {σ : Type w} [Ord κ] (C : Container τ κ)

/-! ## §1. The loop. -/

/-- Where an iterator goes from `k`: the least key above `k`, `none` at
`end()`. -/
def next (t : τ) (k : κ) : Option κ := (C.keys t).find? fun x => compare k x = .lt

/-- The loop from an iterator.  `body` is run at the key and says whether to
keep it.  The fuel bounds the number of iterations. -/
def loop (body : σ → κ → Bool × σ) : Nat → Option κ → τ → σ → τ × σ
  | n + 1, some k, t, s =>
      match body s k with
      | (true, s) => loop body n (C.next t k) t s
      | (false, s) =>
          let t := C.erase t k
          loop body n (C.next t k) t s
  | _, _, t, s => (t, s)

/-- The loop from `begin()`. -/
def sweep (body : σ → κ → Bool × σ) (t : τ) (s : σ) : τ × σ :=
  C.loop body (C.keys t).length (C.keys t).head? t s

/-- What the loop is meant to do: run the body at every key of a list.  The
keys it does not keep, and the last state. -/
def visit (body : σ → κ → Bool × σ) : List κ → σ → List κ × σ
  | [], s => ([], s)
  | k :: ks, s =>
      match body s k with
      | (true, s) => visit body ks s
      | (false, s) => (k :: (visit body ks s).1, (visit body ks s).2)

omit [Ord κ] in
/-- Only what the body does not keep is erased. -/
theorem of_mem_visit {body : σ → κ → Bool × σ} {ks : List κ} {s : σ} {k : κ}
    (hk : k ∈ (visit body ks s).1) : ∃ s', (body s' k).1 = false := by
  induction ks generalizing s with
  | nil => simp [visit] at hk
  | cons x xs ih =>
      unfold visit at hk
      split at hk
      next => exact ih hk
      next s' hbody =>
          rcases List.mem_cons.mp hk with rfl | hk
          · exact ⟨s, by rw [hbody]⟩
          · exact ih hk

/-! ## §2. Iterators stay valid. -/

section Iterators

variable {C} {t : τ} {before rest : List κ} {k : κ}

/-- With `before` behind the iterator, the next key is the head of the rest. -/
theorem next_of_split (hkeys : C.keys t = before ++ rest)
    (hbefore : ∀ x ∈ before, compare k x ≠ .lt) (hrest : ∀ x ∈ rest, compare k x = .lt) :
    C.next t k = rest.head? := by
  have hskip : before.find? (fun x => decide (compare k x = .lt)) = none :=
    List.find?_eq_none.mpr fun x hx => by simpa using hbefore x hx
  unfold next
  rw [hkeys, List.find?_append, hskip, Option.none_or]
  cases rest with
  | nil => rfl
  | cons x xs => simp [hrest x List.mem_cons_self]

theorem mem_keys_foldl_erase (dropped : List κ) (t : τ) (x : κ) :
    x ∈ C.keys (dropped.foldl C.erase t) ↔ x ∉ dropped ∧ x ∈ C.keys t := by
  induction dropped generalizing t with
  | nil => simp
  | cons k ks ih => rw [List.foldl_cons, ih, C.mem_keys_erase, List.mem_cons, not_or,
      and_left_comm, and_assoc]

variable [Std.LawfulEqOrd κ]

theorem nodup_of_ordered {l : List κ} (hl : l.Pairwise fun a b => compare a b = .lt) :
    l.Nodup :=
  hl.imp fun hlt heq => by simp [heq, Std.ReflCmp.compare_self] at hlt

variable [Std.TransOrd κ]

/-- An increasing list is determined by its members. -/
theorem eq_of_ordered {l l' : List κ} (hl : l.Pairwise fun a b => compare a b = .lt)
    (hl' : l'.Pairwise fun a b => compare a b = .lt) (hmem : ∀ x, x ∈ l ↔ x ∈ l') : l = l' := by
  have hperm := (List.perm_ext_iff_of_nodup (nodup_of_ordered hl) (nodup_of_ordered hl')).mpr hmem
  refine hperm.eq_of_pairwise (fun a b _ _ hab hba => ?_) hl hl'
  exact absurd hba (Std.OrientedCmp.not_lt_of_lt hab)

/-- The keys on both sides of the iterator. -/
theorem split_ordered (hkeys : C.keys t = before ++ k :: rest) :
    (∀ x ∈ before, compare k x ≠ .lt ∧ x ≠ k) ∧ ∀ x ∈ rest, compare k x = .lt ∧ x ≠ k := by
  have hordered := C.ordered t
  rw [hkeys, List.pairwise_append, List.pairwise_cons] at hordered
  obtain ⟨-, ⟨hrest, -⟩, hbefore⟩ := hordered
  have hne : ∀ {a b : κ}, compare a b = .lt → a ≠ b := by
    intro a b hlt heq
    simp [heq, Std.ReflCmp.compare_self] at hlt
  constructor
  · intro x hx
    have hlt := hbefore x hx k List.mem_cons_self
    exact ⟨Std.OrientedCmp.not_lt_of_lt hlt, hne hlt⟩
  · intro x hx
    exact ⟨hrest x hx, (hne (hrest x hx)).symm⟩

/-- `++it`. -/
theorem next_keep (hkeys : C.keys t = before ++ k :: rest) : C.next t k = rest.head? := by
  obtain ⟨hbefore, hrest⟩ := split_ordered hkeys
  have hkeys' : C.keys t = (before ++ [k]) ++ rest := by simp [hkeys]
  refine next_of_split hkeys' (fun x hx => ?_) fun x hx => (hrest x hx).1
  rcases List.mem_append.mp hx with hx | hx
  · exact (hbefore x hx).1
  · simp [List.mem_singleton.mp hx, Std.ReflCmp.compare_self]

/-- `erase(it)` removes the key and nothing else. -/
theorem keys_erase (hkeys : C.keys t = before ++ k :: rest) :
    C.keys (C.erase t k) = before ++ rest := by
  obtain ⟨hbefore, hrest⟩ := split_ordered hkeys
  have hordered := C.ordered t
  rw [hkeys] at hordered
  -- two ordered lists with the same members are equal
  refine eq_of_ordered (C.ordered _) (hordered.sublist ?_) fun x => ?_
  · exact List.Sublist.append (List.Sublist.refl before) (List.sublist_cons_self k rest)
  · rw [C.mem_keys_erase, hkeys, List.mem_append, List.mem_append, List.mem_cons]
    constructor
    · intro hmem
      obtain ⟨hne, hx | hx | hx⟩ := hmem
      · exact Or.inl hx
      · exact absurd hx hne
      · exact Or.inr hx
    · intro hor
      rcases hor with hx | hx
      · exact ⟨(hbefore x hx).2, Or.inl hx⟩
      · exact ⟨(hrest x hx).2, Or.inr (Or.inr hx)⟩

/-- `erase(it)` leads to the key after the erased one. -/
theorem next_erase (hkeys : C.keys t = before ++ k :: rest) :
    C.next (C.erase t k) k = rest.head? := by
  obtain ⟨hbefore, hrest⟩ := split_ordered hkeys
  exact next_of_split (keys_erase hkeys) (fun x hx => (hbefore x hx).1)
    fun x hx => (hrest x hx).1

/-- The loop from an iterator in the middle of the container. -/
theorem loop_eq (body : σ → κ → Bool × σ) (rest before : List κ) (n : Nat) (t : τ) (s : σ)
    (hkeys : C.keys t = before ++ rest) (hn : rest.length ≤ n) :
    C.loop body n rest.head? t s
      = ((visit body rest s).1.foldl C.erase t, (visit body rest s).2) := by
  -- over the keys still to come; `before` is what the iterator has passed and kept
  induction rest generalizing before n t s with
  | nil => cases n <;> rfl
  | cons k ks ih =>
      obtain ⟨n, rfl⟩ : ∃ m, n = m + 1 := ⟨n - 1, by simp only [List.length_cons] at hn; omega⟩
      have hn' : ks.length ≤ n := Nat.le_of_succ_le_succ hn
      simp only [List.head?_cons, loop, visit]
      obtain ⟨keep, s'⟩ := body s k
      cases keep with
      | true =>
          have hkeys' : C.keys t = (before ++ [k]) ++ ks := by simp [hkeys]
          simp only [next_keep hkeys]
          exact ih (before ++ [k]) n t s' hkeys' hn'
      | false =>
          simp only [next_erase hkeys, List.foldl_cons]
          exact ih before n (C.erase t k) s' (keys_erase hkeys) hn'

/-- **The loop visits the keys present at its start, each once and in order**,
and erases those the body does not keep. -/
theorem sweep_eq (body : σ → κ → Bool × σ) (t : τ) (s : σ) :
    C.sweep body t s
      = ((visit body (C.keys t) s).1.foldl C.erase t, (visit body (C.keys t) s).2) :=
  loop_eq body (C.keys t) [] _ t s rfl (Nat.le_refl _)

end Iterators

/-! ## §3. Sending to every endpoint, dropping the dead ones. -/

section Broadcast

variable {β : Type w} [DecidableEq κ] (canWrite : β → Bool) (send : β → β)

/-- What an endpoint is after it was offered a message: dead ones are not
sent to. -/
def offered (b : β) : β := if canWrite b then send b else b

/-- One iteration at `k`, on the endpoints and the list of keys sent to. -/
def offer (s : (κ → β) × List κ) (k : κ) : Bool × (κ → β) × List κ :=
  let s := if canWrite (s.1 k) then (Function.update s.1 k (send (s.1 k)), s.2 ++ [k]) else s
  (canWrite (s.1 k), s)

variable {canWrite send}

omit [Ord κ] in
/-- The iteration reads and writes the endpoint at `k` only. -/
theorem offer_eq (s : (κ → β) × List κ) (k : κ) :
    offer canWrite send s k
      = (canWrite (offered canWrite send (s.1 k)),
          Function.update s.1 k (offered canWrite send (s.1 k)),
          s.2 ++ [k].filter fun x => canWrite (s.1 x)) := by
  simp only [offer, offered]
  split
  next h => simp [h]
  next h => simp [h]

omit [Ord κ] in
/-- Visiting distinct keys offers the message once to each of their endpoints. -/
theorem visit_offer (ks : List κ) (hks : ks.Nodup) (s : (κ → β) × List κ) :
    visit (offer canWrite send) ks s
      = (ks.filter fun k => !canWrite (offered canWrite send (s.1 k)),
          fun k => if k ∈ ks then offered canWrite send (s.1 k) else s.1 k,
          s.2 ++ ks.filter fun k => canWrite (s.1 k)) := by
  induction ks generalizing s with
  | nil => simp [visit]
  | cons k ks ih =>
      obtain ⟨hk, hks⟩ := List.nodup_cons.mp hks
      -- the keys still to come keep their endpoints
      have hother : ∀ x ∈ ks,
          Function.update s.1 k (offered canWrite send (s.1 k)) x = s.1 x := fun x hx =>
        Function.update_of_ne (ne_of_mem_of_not_mem hx hk) _ _
      have hstep := ih hks (offer canWrite send s k).2
      rw [offer_eq] at hstep
      -- so the questions asked later are those of the heap at the start
      have hdropped := List.filter_congr (l := ks) fun x hx =>
        congrArg (fun b => !canWrite (offered canWrite send b)) (hother x hx)
      have hreached := List.filter_congr fun x hx => congrArg canWrite (hother x hx)
      have hheap : (fun x => if x ∈ ks
          then offered canWrite send (Function.update s.1 k (offered canWrite send (s.1 k)) x)
          else Function.update s.1 k (offered canWrite send (s.1 k)) x)
          = fun x => if x ∈ k :: ks then offered canWrite send (s.1 x) else s.1 x := by
        funext x
        by_cases hx : x ∈ ks
        · simp [hx, hother x hx]
        · by_cases hxk : x = k
          · subst hxk
            simp [hk]
          · simp [hx, hxk]
      have hlog : ∀ p : κ → Bool, (s.2 ++ [k].filter p) ++ ks.filter p
          = s.2 ++ (k :: ks).filter p := by
        intro p
        rw [List.append_assoc, ← List.filter_append, List.singleton_append]
      rw [hdropped, hreached, hheap, hlog] at hstep
      unfold visit
      rw [offer_eq]
      cases hcan : canWrite (offered canWrite send (s.1 k)) with
      | true =>
          rw [@List.filter_cons_of_neg _ _ k ks (by simp [hcan])]
          exact hstep
      | false =>
          rw [@List.filter_cons_of_pos _ _ k ks (by simp [hcan])]
          exact congrArg (fun r : List κ × (κ → β) × List κ => (k :: r.1, r.2)) hstep

variable (canWrite send)

/-- The sweep that sends to every writable endpoint and erases the ones it
finds dead: the container and the endpoints after it, and the keys sent to. -/
def broadcast (t : τ) (heap : κ → β) : τ × (κ → β) × List κ :=
  C.sweep (offer canWrite send) t (heap, [])

variable {C} {canWrite send} [Std.TransOrd κ] [Std.LawfulEqOrd κ] (t : τ) (heap : κ → β)

/-- Every endpoint in the container, and no other, is offered the message. -/
theorem broadcast_heap (k : κ) :
    (C.broadcast canWrite send t heap).2.1 k
      = if k ∈ C.keys t then offered canWrite send (heap k) else heap k := by
  unfold broadcast
  rw [sweep_eq, visit_offer _ (nodup_of_ordered (C.ordered t))]

/-- It is sent to the writable ones, once each. -/
theorem broadcast_reached :
    (C.broadcast canWrite send t heap).2.2 = (C.keys t).filter fun k => canWrite (heap k) := by
  unfold broadcast
  rw [sweep_eq, visit_offer _ (nodup_of_ordered (C.ordered t)), List.nil_append]

/-- The dead ones are erased. -/
theorem broadcast_eq :
    (C.broadcast canWrite send t heap).1
      = ((C.keys t).filter fun k =>
          !canWrite (offered canWrite send (heap k))).foldl C.erase t := by
  unfold broadcast
  rw [sweep_eq, visit_offer _ (nodup_of_ordered (C.ordered t))]

/-- Who stays is who can still be written to. -/
theorem mem_broadcast (k : κ) :
    k ∈ C.keys (C.broadcast canWrite send t heap).1
      ↔ k ∈ C.keys t ∧ canWrite ((C.broadcast canWrite send t heap).2.1 k) = true := by
  rw [broadcast_eq, mem_keys_foldl_erase, broadcast_heap, List.mem_filter, not_and]
  constructor
  · intro hoffered
    obtain ⟨hdead, hk⟩ := hoffered
    refine ⟨hk, ?_⟩
    rw [if_pos hk]
    simpa using hdead hk
  · intro hoffered
    obtain ⟨hk, hcan⟩ := hoffered
    rw [if_pos hk] at hcan
    exact ⟨fun _ => by simp [hcan], hk⟩

end Broadcast

/-! ## §4. `std::set` and `std::map`. -/

section Tree

variable [Std.TransOrd κ] [Std.LawfulEqOrd κ]

/-- `std::set`. -/
def treeSet : Container (Std.TreeSet κ) κ where
  keys := Std.TreeSet.toList
  erase := Std.TreeSet.erase
  ordered _ := Std.TreeSet.ordered_toList
  mem_keys_erase t k x := by
    rw [Std.TreeSet.mem_toList, Std.TreeSet.mem_toList, Std.TreeSet.mem_erase,
      ne_eq, Std.LawfulEqOrd.compare_eq_iff_eq, @eq_comm _ k]

/-- `std::map`. -/
def treeMap {α : Type w} : Container (Std.TreeMap κ α) κ where
  keys := Std.TreeMap.keys
  erase := Std.TreeMap.erase
  ordered _ := Std.TreeMap.ordered_keys
  mem_keys_erase t k x := by
    rw [Std.TreeMap.mem_keys, Std.TreeMap.mem_keys, Std.TreeMap.mem_erase,
      ne_eq, Std.LawfulEqOrd.compare_eq_iff_eq, @eq_comm _ k]

@[simp] theorem mem_keys_treeSet (t : Std.TreeSet κ) (k : κ) :
    k ∈ treeSet.keys t ↔ k ∈ t := Std.TreeSet.mem_toList

@[simp] theorem mem_keys_treeMap {α : Type w} (t : Std.TreeMap κ α) (k : κ) :
    k ∈ treeMap.keys t ↔ k ∈ t := Std.TreeMap.mem_keys

/-- Erasing keys from a map leaves the values of the others. -/
theorem getElem?_foldl_erase {α : Type w} (dropped : List κ) (t : Std.TreeMap κ α) (k : κ)
    (hk : k ∉ dropped) : (dropped.foldl treeMap.erase t)[k]? = t[k]? := by
  induction dropped generalizing t with
  | nil => rfl
  | cons d ds ih =>
      rw [List.mem_cons, not_or] at hk
      rw [List.foldl_cons, ih _ hk.2]
      show (t.erase d)[k]? = t[k]?
      rw [Std.TreeMap.getElem?_erase, if_neg]
      simpa using Ne.symm hk.1

end Tree

end Container

end MultiProcessServer
