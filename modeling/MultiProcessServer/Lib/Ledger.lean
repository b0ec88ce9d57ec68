/-
  MultiProcessServer.Lib.Ledger
  ─────────────────────────────
  Accounts of what is posted and of what arrives.

  A ledger says what was posted up to a state, what somebody has by then, and
  what postings are worth to him.  It balances over a stretch if he gains the
  worth of what is posted in it, all of it and in order.

  Main results:

    `Balances.trans`, `balances_run` :
        stretches that balance add up, so a run whose steps balance does;
    `Behind.balances`, `Behind.moved` :
        who counts what is on its way to him behind what he holds gains what the
        way gains, and nothing by what arrives.
-/
import MultiProcessServer.Lib.Runs

namespace MultiProcessServer

/-- What was posted up to a state, what somebody has by then, and what postings
are worth to him. -/
structure Ledger (σ : Type*) (α : Type*) (β : Type*) where
  posted : σ → List α
  has : σ → List β
  worth : List α → List β
  worth_append : ∀ xs ys, worth (xs ++ ys) = worth xs ++ worth ys

namespace Ledger

variable {σ τ ε α β γ : Type*} {L : Ledger σ α β} {s t u : σ}

/-! ## §1. Balances. -/

/-- What `t` has and `s` had not is the worth of what was posted since. -/
def Balances (L : Ledger σ α β) (s t : σ) : Prop :=
  ∃ new, L.posted t = L.posted s ++ new ∧ L.has t = L.has s ++ L.worth new

theorem worth_nil (L : Ledger σ α β) : L.worth [] = [] := by
  have htwice : L.worth [] = L.worth [] ++ L.worth [] := L.worth_append [] []
  exact List.self_eq_append_right.mp htwice

/-- Nothing is posted, and nothing is gained. -/
theorem balances_of_eq (hposted : L.posted t = L.posted s) (hhas : L.has t = L.has s) :
    L.Balances s t :=
  ⟨[], by rw [hposted, List.append_nil], by rw [hhas, L.worth_nil, List.append_nil]⟩

theorem Balances.refl (L : Ledger σ α β) (s : σ) : L.Balances s s := balances_of_eq rfl rfl

theorem Balances.trans (h : L.Balances s t) (h' : L.Balances t u) : L.Balances s u := by
  obtain ⟨new, hposted, hhas⟩ := h
  obtain ⟨later, hposted', hhas'⟩ := h'
  refine ⟨new ++ later, ?_, ?_⟩
  · rw [hposted', hposted, List.append_assoc]
  · rw [hhas', hhas, L.worth_append, List.append_assoc]

/-- **The run rule.**  If every allowed step balances, so does every allowed run. -/
theorem balances_run {step : σ → ε → σ} {P : σ → ε → Prop} {I : σ → Prop}
    (hstep : ∀ s e, I s → P s e → I (step s e) ∧ L.Balances s (step s e)) {es : List ε}
    (hs : I s) (h : Runs.Along step P s es) : L.Balances s (Runs.run step s es) := by
  have hkeep : ∀ t e, I t ∧ L.Balances s t → P t e →
      I (step t e) ∧ L.Balances s (step t e) := fun t e ht he =>
    ⟨(hstep t e ht.1 he).1, ht.2.trans (hstep t e ht.1 he).2⟩
  exact (Runs.run_invariant hkeep ⟨hs, Balances.refl L s⟩ h).2

/-! ## §2. What is on its way. -/

variable {M : Ledger σ α γ} {W : Ledger τ α β} {f : σ → τ} {held : σ → List γ}
  {value : List β → List γ}

/-- Who `M` is about counts, behind what he holds, the value of what `W` has on
its way to him. -/
structure Behind (M : Ledger σ α γ) (W : Ledger τ α β) (f : σ → τ) (held : σ → List γ)
    (value : List β → List γ) : Prop where
  posted : ∀ s, M.posted s = W.posted (f s)
  has : ∀ s, M.has s = held s ++ value (W.has (f s))
  worth : ∀ xs, M.worth xs = value (W.worth xs)
  value_append : ∀ xs ys, value (xs ++ ys) = value xs ++ value ys

/-- What the way gains, he gains. -/
theorem Behind.balances (h : M.Behind W f held value) (hheld : held t = held s)
    (hway : W.Balances (f s) (f t)) : M.Balances s t := by
  obtain ⟨new, hposted, hhas⟩ := hway
  refine ⟨new, by rw [h.posted, h.posted, hposted], ?_⟩
  rw [h.has, h.has, hheld, hhas, h.value_append, h.worth, List.append_assoc]

/-- **What arrives is moved**, from the way to what he holds. -/
theorem Behind.moved (h : M.Behind W f held value) {arrived : List β}
    (hposted : W.posted (f t) = W.posted (f s)) (hway : W.has (f s) = arrived ++ W.has (f t))
    (hheld : held t = held s ++ value arrived) : M.Balances s t := by
  refine balances_of_eq ?_ ?_
  · rw [h.posted, h.posted, hposted]
  · rw [h.has, h.has, hheld, hway, h.value_append, List.append_assoc]

end Ledger

end MultiProcessServer
