/-
  MultiProcessServer.Lib.Inbox
  ────────────────────────────
  **WHAT A PUBLISH/SUBSCRIBE SERVER OWES EACH SESSION**: along a run of the
  machine of `Lib.PubSub`, the messages published while the session was
  subscribed and could be written to.

    `inbox_rule`    : a property of endpoints that sending keeps holds of
                      every session, about its inbox;
    `inbox_sublist` : an inbox is part of what was published, in that order.
-/
import MultiProcessServer.Lib.PubSub

namespace MultiProcessServer.PubSub

universe u v w x

variable {κ : Type u} {δ : Type v} {μ : Type w} {β : Type x}

/-! ## §1. Inboxes. -/

/-- The message the request publishes, if it does. -/
def Request.message : Request κ δ μ β → List μ
  | .publish _ m => [m]
  | _ => []

/-- The messages requests publish. -/
abbrev messages (rs : List (Request κ δ μ β)) : List μ := rs.flatMap Request.message

/-- Of calls on different sessions at most one is for `k`. -/
theorem filterMap_once [DecidableEq κ] {α : Type x} {k : κ} {m : μ} {calls : List κ}
    (hnodup : calls.Nodup) {call : κ → α} {callFor : α → Option μ}
    (hcall : ∀ x, callFor (call x) = if x = k then some m else none) :
    (calls.map call).filterMap callFor = if k ∈ calls then [m] else [] := by
  induction calls with
  | nil => rfl
  | cons x xs ih =>
      obtain ⟨hx, hxs⟩ := List.nodup_cons.mp hnodup
      rw [List.map_cons, List.filterMap_cons, ih hxs, hcall]
      by_cases heq : x = k
      · subst heq
        simp [hx]
      · simp [heq, Ne.symm heq]

namespace State

variable (canWrite : β → Bool) (send : μ → β → β)

/-- What a request makes the server send to a session. -/
noncomputable def sends (s : State κ δ β) (k : κ) : Request κ δ μ β → List μ
  | .publish d m => open Classical in if s.receives canWrite d k then [m] else []
  | _ => []

variable [DecidableEq κ]

/-- What a session is sent along a run. -/
noncomputable def inbox (k : κ) : State κ δ β → List (Request κ δ μ β) → List μ
  | _, [] => []
  | s, r :: rs => s.sends canWrite k r ++ inbox k (s.step canWrite send r) rs

variable {canWrite send} {s : State κ δ β} {r : Request κ δ μ β} {k : κ}

theorem inbox_append (rs ts : List (Request κ δ μ β)) : ∀ s : State κ δ β,
    s.inbox canWrite send k (rs ++ ts)
      = s.inbox canWrite send k rs
        ++ (Runs.run (step canWrite send) s rs).inbox canWrite send k ts := by
  induction rs with
  | nil => exact fun _ => rfl
  | cons r rs ih =>
      intro s
      rw [List.cons_append, inbox, inbox, ih, Runs.run_cons, List.append_assoc]

omit [DecidableEq κ] in
theorem sends_of_receives {d : δ} {m : μ} (h : s.receives canWrite d k) :
    s.sends canWrite k (.publish d m) = [m] := if_pos h

omit [DecidableEq κ] in
theorem sends_of_not_receives {d : δ} {m : μ} (h : ¬s.receives canWrite d k) :
    s.sends canWrite k (.publish d m) = [] := if_neg h

omit [DecidableEq κ] in
/-- A session is sent what is published, and nothing else. -/
theorem sends_sublist (s : State κ δ β) (k : κ) (r : Request κ δ μ β) :
    List.Sublist (s.sends canWrite k r) r.message := by
  cases r with
  | publish d m =>
      by_cases h : s.receives canWrite d k
      · rw [sends_of_receives h]
        exact List.Sublist.refl _
      · rw [sends_of_not_receives h]
        exact List.nil_sublist _
  | _ => exact List.Sublist.refl _

/-- **An inbox is part of what was published**, each message at most once and
in the order of publication. -/
theorem inbox_sublist (k : κ) (rs : List (Request κ δ μ β)) : ∀ s : State κ δ β,
    List.Sublist (s.inbox canWrite send k rs) (messages rs) := by
  induction rs with
  | nil => exact fun _ => List.Sublist.refl _
  | cons r rs ih => exact fun s => (s.sends_sublist k r).append (ih _)

/-! ## §2. Endpoints. -/

/-- The endpoint of a session after a request, but for its `connect`, is the
one it had, with what it was sent. -/
theorem session_step (s : State κ δ β) (r : Request κ δ μ β) (k : κ)
    (hr : ∀ endpoint, r ≠ .connect k endpoint) :
    (s.step canWrite send r).session k
      = (s.sends canWrite k r).foldl (fun b m => send m b) (s.session k) := by
  classical
  cases r with
  | connect k' endpoint =>
      have hne : k ≠ k' := fun heq => hr endpoint (by rw [heq])
      exact Function.update_of_ne hne _ _
  | publish d m =>
      show s.offerAll canWrite send d m k = _
      unfold offerAll Container.offered
      by_cases hreceives : s.receives canWrite d k
      · rw [sends_of_receives hreceives, if_pos hreceives.1, if_pos hreceives.2]
        rfl
      · rw [sends_of_not_receives hreceives]
        by_cases hsub : s.sub k d
        · rw [if_pos hsub, if_neg fun hcan => hreceives ⟨hsub, hcan⟩]
          rfl
        · rw [if_neg hsub]
          rfl
  | _ => rfl

omit [DecidableEq κ] in
/-- A session nobody has opened is sent nothing. -/
theorem sends_of_not_used (hregistered : s.Registered) (hgrounded : s.roster.Grounded)
    (hk : k ∉ s.roster.used) : s.sends canWrite k r = [] := by
  cases r with
  | publish d m =>
      refine sends_of_not_receives fun hreceives => hk ?_
      exact hgrounded k (hregistered k d hreceives.1)
  | _ => rfl

/-- **The rule of inboxes.**  If an endpoint that stands for some messages
stands for one more after it was sent that, and new endpoints stand for none,
then after every run each session stands for its inbox. -/
theorem inbox_rule {I : β → List μ → Prop}
    (hsend : ∀ b ms m, I b ms → canWrite b = true → I (send m b) (ms ++ [m]))
    (rs : List (Request κ δ μ β)) (hnew : ∀ k endpoint, .connect k endpoint ∈ rs → I endpoint []) :
    ∀ (s : State κ δ β) (log : κ → List μ), s.Registered → s.roster.Grounded →
      (∀ k, k ∉ s.roster.used → log k = []) → (∀ k, I (s.session k) (log k)) →
      Runs.Along (step canWrite send) admits s rs →
      ∀ k, I ((Runs.run (step canWrite send) s rs).session k)
        (log k ++ s.inbox canWrite send k rs) := by
  induction rs with
  | nil =>
      intro s log _ _ _ hI _ k
      rw [inbox, List.append_nil]
      exact hI k
  | cons r rs ih =>
      intro s log hregistered hgrounded hempty hI hrs k
      -- one request: the log of every session grows by what it is sent
      have hlog : ∀ k, k ∉ (s.step canWrite send r).roster.used →
          log k ++ s.sends canWrite k r = [] := by
        intro k hk
        rw [roster_step] at hk
        have hk' : k ∉ s.roster.used := fun hused => hk (Roster.mem_used_next _ hused)
        rw [hempty k hk', sends_of_not_used hregistered hgrounded hk', List.append_nil]
      have hstep : ∀ k, I ((s.step canWrite send r).session k)
          (log k ++ s.sends canWrite k r) := by
        intro k
        by_cases hconnect : ∃ endpoint, r = .connect k endpoint
        · obtain ⟨endpoint, rfl⟩ := hconnect
          have hfresh : k ∉ s.roster.used := hrs.1
          have hsession : (s.step canWrite send (.connect k endpoint)).session k = endpoint := by
            show Function.update s.session k endpoint k = endpoint
            exact Function.update_self k endpoint s.session
          rw [hsession, hempty k hfresh]
          exact hnew k endpoint List.mem_cons_self
        · rw [session_step s r k fun endpoint heq => hconnect ⟨endpoint, heq⟩]
          cases r with
          | publish d m =>
              by_cases hreceives : s.receives canWrite d k
              · rw [sends_of_receives hreceives]
                exact hsend _ _ m (hI k) hreceives.2
              · rw [sends_of_not_receives hreceives, List.append_nil]
                exact hI k
          | _ =>
              show I (s.session k) (log k ++ [])
              rw [List.append_nil]
              exact hI k
      have hrun := ih (fun k endpoint hmem => hnew k endpoint (List.mem_cons_of_mem r hmem))
        (s.step canWrite send r) (fun k => log k ++ s.sends canWrite k r)
        (s.registered_step r hregistered hrs.1)
        (by rw [roster_step]; exact hgrounded.next _) hlog hstep hrs.2 k
      rw [inbox, ← List.append_assoc, Runs.run_cons]
      exact hrun

end State

end MultiProcessServer.PubSub
