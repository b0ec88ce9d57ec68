/-
  MultiProcessServer.Lib.PubSub
  ─────────────────────────────
  **WHAT A PUBLISH/SUBSCRIBE SERVER IS FOR**, without channels or tables:
  sessions, and a relation that says which session is subscribed to what.

    publish d m : every subscriber of `d` that can be written to gets `m`
                  once, and a subscriber found dead is unsubscribed from `d`.

  A server is correct when it simulates this machine.
-/
import MultiProcessServer.Lib.Roster
import MultiProcessServer.Lib.Runs
import MultiProcessServer.Lib.Sweep

namespace MultiProcessServer.PubSub

universe u v w x

/-- What a server is asked to do: sessions `κ` with endpoints `β` subscribe to
`δ` and get messages `μ`. -/
inductive Request (κ : Type u) (δ : Type v) (μ : Type w) (β : Type x)
  | connect (k : κ) (endpoint : β)
  | reject (k : κ)
  | subscribe (k : κ) (d : δ)
  | unsubscribe (k : κ) (d : δ)
  /-- A session says something that changes nothing. -/
  | idle (k : κ)
  | leave (k : κ)
  | publish (d : δ) (m : μ)

variable {κ : Type u} {δ : Type v} {μ : Type w} {β : Type x}

def Request.contact : Request κ δ μ β → Contact κ
  | .connect k _ => .opens k
  | .reject k => .rejected k
  | .subscribe k _ => .speaks k
  | .unsubscribe k _ => .speaks k
  | .idle k => .speaks k
  | .leave k => .closes k
  | .publish _ _ => .silent

/-- The sessions, their endpoints, and who is subscribed to what. -/
structure State (κ : Type u) (δ : Type v) (β : Type x) where
  roster : Roster κ
  session : κ → β
  sub : κ → δ → Prop

variable (canWrite : β → Bool) (send : μ → β → β)

namespace State

/-- Whom a message published on `d` now has to reach. -/
def receives (s : State κ δ β) (d : δ) (k : κ) : Prop :=
  s.sub k d ∧ canWrite (s.session k) = true

/-- The endpoints after a message was offered to the subscribers of `d`. -/
noncomputable def offerAll (s : State κ δ β) (d : δ) (m : μ) (k : κ) : β :=
  open Classical in
  if s.sub k d then Container.offered canWrite (send m) (s.session k) else s.session k

variable [DecidableEq κ]

/-- One request. -/
noncomputable def step (s : State κ δ β) (r : Request κ δ μ β) : State κ δ β :=
  let s := { s with roster := s.roster.next r.contact }
  match r with
  | .connect k endpoint => { s with session := Function.update s.session k endpoint }
  | .reject _ => s
  | .subscribe k d => { s with sub := fun k' d' => (k' = k ∧ d' = d) ∨ s.sub k' d' }
  | .unsubscribe k d => { s with sub := fun k' d' => ¬(k' = k ∧ d' = d) ∧ s.sub k' d' }
  | .idle _ => s
  | .leave k => { s with sub := fun k' d' => k' ≠ k ∧ s.sub k' d' }
  | .publish d m =>
      { s with
        session := s.offerAll canWrite send d m
        sub := fun k' d' =>
          s.sub k' d' ∧ (d' = d → canWrite (s.offerAll canWrite send d m k') = true) }

/-- The requests the sessions there are can make. -/
def admits (s : State κ δ β) (r : Request κ δ μ β) : Prop := s.roster.admits r.contact

/-- Only sessions there are are subscribed to anything. -/
def Registered (s : State κ δ β) : Prop := ∀ k d, s.sub k d → k ∈ s.roster.live

variable {canWrite send}

@[simp] theorem roster_step (s : State κ δ β) (r : Request κ δ μ β) :
    (s.step canWrite send r).roster = s.roster.next r.contact := by
  cases r <;> rfl

theorem registered_step (s : State κ δ β) (r : Request κ δ μ β) (h : s.Registered)
    (hr : s.admits r) : (s.step canWrite send r).Registered := by
  intro k' d' hsub
  cases r with
  | connect k endpoint => exact Roster.mem_live_opens.mpr (Or.inr (h k' d' hsub))
  | reject k => exact h k' d' hsub
  | subscribe k d =>
      rcases hsub with ⟨rfl, -⟩ | hsub
      · exact hr
      · exact h k' d' hsub
  | unsubscribe k d => exact h k' d' hsub.2
  | idle k => exact h k' d' hsub
  | leave k => exact Roster.mem_live_closes.mpr ⟨h k' d' hsub.2, hsub.1⟩
  | publish d m => exact h k' d' hsub.1

section Other

variable {s : State κ δ β} {r : Request κ δ μ β} {k : κ} {d : δ}

/-- Requests of others take nothing from a session that can still be written
to, and give it nothing. -/
theorem sub_step_other (hspeaks : r.contact ≠ .speaks k) (hcloses : r.contact ≠ .closes k) :
    ((s.step canWrite send r).sub k d → s.sub k d)
      ∧ (s.sub k d → canWrite ((s.step canWrite send r).session k) = true →
          (s.step canWrite send r).sub k d) := by
  cases r with
  | connect k' endpoint => exact ⟨id, fun hsub _ => hsub⟩
  | reject k' => exact ⟨id, fun hsub _ => hsub⟩
  | idle k' => exact ⟨id, fun hsub _ => hsub⟩
  | subscribe k' d' =>
      have hne : k ≠ k' := fun heq => hspeaks (by rw [heq]; rfl)
      exact ⟨fun hsub => hsub.resolve_left fun hown => hne hown.1, fun hsub _ => Or.inr hsub⟩
  | unsubscribe k' d' =>
      have hne : k ≠ k' := fun heq => hspeaks (by rw [heq]; rfl)
      exact ⟨And.right, fun hsub _ => ⟨fun hown => hne hown.1, hsub⟩⟩
  | leave k' =>
      have hne : k ≠ k' := fun heq => hcloses (by rw [heq]; rfl)
      exact ⟨And.right, fun hsub _ => ⟨hne, hsub⟩⟩
  | publish d' m => exact ⟨And.left, fun hsub hcan => ⟨hsub, fun _ => hcan⟩⟩

/-- An endpoint that cannot be written to stays so. -/
theorem canWrite_of_step (hr : r.contact ≠ .opens k)
    (hcan : canWrite ((s.step canWrite send r).session k) = true) :
    canWrite (s.session k) = true := by
  cases r with
  | connect k' endpoint =>
      have hne : k ≠ k' := fun heq => hr (by rw [heq]; rfl)
      have hsame : (s.step canWrite send (.connect k' endpoint)).session k = s.session k :=
        Function.update_of_ne hne _ _
      rwa [hsame] at hcan
  | publish d' m =>
      by_contra hdead
      apply hdead
      have hsame : (s.step canWrite send (.publish d' m)).session k = s.session k := by
        show s.offerAll canWrite send d' m k = s.session k
        rw [offerAll, Container.offered, if_neg hdead, ite_self]
      rwa [hsame] at hcan
  | _ => exact hcan

end Other

end State

end MultiProcessServer.PubSub
