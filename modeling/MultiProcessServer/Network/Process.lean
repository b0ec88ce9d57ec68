/-
  MultiProcessServer.Network.Process
  ──────────────────────────────────
  A process with a connection to `jt1078_server`.

  What its events are for the connection is all that the cars at the other end
  can tell, so the process is a host of theirs (`Process.host`).
-/
import MultiProcessServer.Network.Stream
import MultiProcessServer.Network.Traffic

namespace MultiProcessServer.Uplink

/-! ## §1. The other end. -/

/-- A connection or a packet of a car. -/
def Event.isCars : Event → Bool
  | .service e => Fleet.isCars e
  | _ => false

/-- An event that concerns no car's connection or packet. -/
theorem service_step (l : Uplink) (half : Bool) {e : Event} (he : e.isCars = false) :
    (l.step half e).service = l.service
      ∨ ∃ e', (l.step half e).service = l.service.step e' ∧ Fleet.isCars e' = false := by
  cases e with
  | service e => exact Or.inr ⟨e, rfl, he⟩
  | accept sessionId socket =>
      exact Or.inr ⟨.subscriberConnection half sessionId socket true, rfl, rfl⟩
  | request packet =>
      rcases service_requestStep l half packet with hsame | ⟨s, hstep⟩
      · exact Or.inl hsame
      · exact Or.inr ⟨_, hstep, rfl⟩

/-! ## §2. The process. -/

/-- A process with a connection, and the events at the other end of it. -/
structure Process (half : Bool) (σ ε : Type) where
  step : σ → ε → σ
  Enabled : σ → ε → Prop
  uplink : σ → Uplink
  link : Event → ε
  /-- The event at the other end, if it is one. -/
  atLink : ε → Option Event
  atLink_eq_some : ∀ e e', atLink e = some e' ↔ e = link e'
  uplink_link : ∀ s e, uplink (step s (link e)) = (uplink s).step half e
  service_own : ∀ s e, atLink e = none → (uplink (step s e)).service = (uplink s).service
  enabled_service : ∀ s e, (uplink s).roster.admits (e.contact half) →
    (uplink s).ofSession half e = false → Enabled s (link (.service e))

namespace Process

variable {half : Bool} {σ ε : Type} (P : Process half σ ε)

theorem atLink_link (e : Event) : P.atLink (P.link e) = some e :=
  (P.atLink_eq_some (P.link e) e).mpr rfl

/-- **The process as a host** of the cars. -/
def host : Host σ ε where
  step := P.step
  Enabled := P.Enabled
  service s := (P.uplink s).service
  ofService e := P.link (.service e)
  isCars e := (P.atLink e).any Event.isCars
  fits e := (P.atLink e).all Event.fits
  service_ofService s e := by
    rw [P.uplink_link]
    rfl
  service_other s e he := by
    cases hlink : P.atLink e with
    | none => exact Or.inl (P.service_own s e hlink)
    | some e' =>
        obtain rfl := (P.atLink_eq_some e e').mp hlink
        rw [hlink] at he
        rw [P.uplink_link]
        exact service_step (P.uplink s) half he
  enabled_ofCar s e he := by
    cases e with
    | carConnection | carPacket | carError => exact P.enabled_service s _ trivial rfl
    | _ => cases he
  fits_ofService e := by
    rw [P.atLink_link]
    rfl
  fits_other e he := by
    cases hlink : P.atLink e with
    | none => rfl
    | some e' =>
        rw [hlink] at he
        cases e' with
        | service e =>
            cases e with
            | carPacket => cases he
            | _ => rfl
        | _ => rfl

end Process

end MultiProcessServer.Uplink
