/-
  MultiProcessServer.Network.Traffic
  ──────────────────────────────────
  The cars at the other end of a system that has `jt1078_server` in it
  (`Host`).

  A message of a car is the packets it completes, each an event of the system,
  so every run with the cars is a run of the system (`Traffic.net_run`).  What is
  published along it is an interleaving of what the cars sent whole
  (`Traffic.published_run`), and that is what a ledger of the system gains
  (`Traffic.sent_of_balances`).
-/
import MultiProcessServer.Jt1078Service.CarStreams
import MultiProcessServer.Lib.Ledger

namespace MultiProcessServer

open Forward Jt1078 StreamParser

/-- The event comes from the connection of a car. -/
def Jt1078Service.Event.ofCar : Jt1078Service.Event → Bool
  | .carConnection _ _ _ | .carPacket _ _ _ | .carError _ _ => true
  | _ => false

/-- Something a car does. -/
def Fleet.Event.ofCar : Fleet.Event → Bool
  | .other _ => false
  | _ => true

/-- A system with a `jt1078_server`, whose cars may do anything at any time. -/
structure Host (σ ε : Type) where
  step : σ → ε → σ
  Enabled : σ → ε → Prop
  service : σ → Jt1078Service
  ofService : Jt1078Service.Event → ε
  /-- A connection or a packet of a car. -/
  isCars : ε → Bool
  fits : ε → Bool
  service_ofService : ∀ s e, service (step s (ofService e)) = (service s).step e
  service_other : ∀ s e, isCars e = false → service (step s e) = service s
    ∨ ∃ e', service (step s e) = (service s).step e' ∧ Fleet.isCars e' = false
  enabled_ofCar : ∀ s e, e.ofCar = true → Enabled s (ofService e)
  fits_ofService : ∀ e, fits (ofService e) = e.fits
  fits_other : ∀ e, isCars e = false → fits e = true

/-- A system, and the cars that send to it. -/
structure Traffic (σ : Type) where
  net : σ
  fleet : Fleet

namespace Traffic

variable {σ ε : Type} (H : Host σ ε) (a : StringAlloc) (t : Traffic σ)

/-! ## §1. Events. -/

inductive Event (ε : Type)
  /-- Anything but connections and packets of cars. -/
  | network (e : ε)
  | car (e : Fleet.Event)

/-- The event is calm: the cars may do anything. -/
def Event.Calm (C : ε → Prop) : Event ε → Prop
  | .network e => C e
  | .car _ => True

instance (C : ε → Prop) [DecidablePred C] : DecidablePred (Event.Calm C)
  | .network e => inferInstanceAs (Decidable (C e))
  | .car _ => .isTrue trivial

/-- What an event is for the system. -/
def calls : Event ε → List ε
  | .network e => [e]
  | .car e => (t.fleet.calls a e).map H.ofService

def step : Event ε → Traffic σ
  | .network e => { t with net := H.step t.net e }
  | .car e =>
      { net := Runs.run H.step t.net ((t.fleet.calls a e).map H.ofService)
        fleet := t.fleet.next a e }

/-- No car has connected. -/
def start (net : σ) : Traffic σ where
  net := net
  fleet := .new a

/-- The event can come now. -/
def Enabled : Event ε → Prop
  | .network e => H.Enabled t.net e ∧ H.isCars e = false
  | .car e => t.fleet.Enabled (H.service t.net) e ∧ e.ofCar = true

instance [∀ s e, Decidable (H.Enabled s e)] : (e : Event ε) → Decidable (t.Enabled H e)
  | .network _ | .car _ => inferInstanceAs (Decidable (_ ∧ _))

variable {H a t} {b : Bool}

/-! ## §2. The cars and the service in a run. -/

/-- What a car makes the service do. -/
theorem ofCar_of_mem_calls {f : Fleet} {e : Fleet.Event} (he : e.ofCar = true)
    {e' : Jt1078Service.Event} (hmem : e' ∈ f.calls a e) : e'.ofCar = true := by
  cases e with
  | other e => cases he
  | carConnection isRealtime sessionId init =>
      rw [List.mem_singleton.mp hmem]
      rfl
  | carMessage isRealtime sessionId data =>
      rcases List.mem_append.mp hmem with hmem | hmem
      · obtain ⟨pkt, -, rfl⟩ := List.mem_map.mp hmem
        rfl
      · split at hmem
        · cases hmem
        · rw [List.mem_singleton.mp hmem]
          rfl

/-- Events of cars alone. -/
theorem run_service (es : List Jt1078Service.Event) : ∀ {n : σ}, (∀ e ∈ es, e.ofCar = true) →
    H.service (Runs.run H.step n (es.map H.ofService))
        = Runs.run Jt1078Service.step (H.service n) es
      ∧ Runs.Along H.step H.Enabled n (es.map H.ofService) := by
  induction es with
  | nil => exact fun _ => ⟨rfl, trivial⟩
  | cons e es ih =>
      intro n hcar
      obtain ⟨hrun, halong⟩ := @ih (H.step n (H.ofService e)) fun e' he' =>
        hcar e' (List.mem_cons_of_mem e he')
      refine ⟨?_, H.enabled_ofCar n e (hcar e List.mem_cons_self), halong⟩
      rw [List.map_cons, Runs.run_cons, Runs.run_cons, hrun, H.service_ofService]

/-- The service holds what the cars have sent. -/
def Sees (H : Host σ ε) (t : Traffic σ) : Prop := t.fleet.Sees (H.service t.net)

theorem sees_start (a : StringAlloc) (garbage : UInt8) {net : σ}
    (hnew : H.service net = .new garbage) : (start a net).Sees H := by
  show (Fleet.new a).Sees (H.service net)
  rw [hnew]
  exact Fleet.sees_new a garbage

/-- **Every event.** -/
theorem Sees.step (h : t.Sees H) (e : Event ε) (he : t.Enabled H e) :
    (t.step H a e).Sees H
      ∧ ∀ b, Fleet.Grows b t.fleet (H.service t.net) (t.step H a e).fleet
        (H.service (t.step H a e).net) := by
  cases e with
  | network e =>
      show t.fleet.Sees (H.service (H.step t.net e)) ∧ ∀ b, Fleet.Grows b t.fleet
        (H.service t.net) t.fleet (H.service (H.step t.net e))
      rcases H.service_other t.net e he.2 with hsame | ⟨e', hstep, hcars⟩
      · rw [hsame]
        exact ⟨h, fun b => Fleet.grows_of_eq rfl rfl⟩
      · rw [hstep]
        exact Fleet.Sees.other h hcars
  | car e =>
      have hrun := (run_service (H := H) (n := t.net) (t.fleet.calls a e) fun e' he' =>
        ofCar_of_mem_calls he.2 he').1
      show (t.fleet.next a e).Sees (H.service (Runs.run _ t.net _)) ∧ ∀ b, Fleet.Grows b t.fleet
        (H.service t.net) (t.fleet.next a e) (H.service (Runs.run _ t.net _))
      rw [hrun]
      exact Fleet.Sees.step h e he.1

/-- All that is called fits. -/
theorem Sees.fits (h : t.Sees H) {e : Event ε} (he : t.Enabled H e) {e' : ε}
    (hmem : e' ∈ t.calls H a e) : H.fits e' = true := by
  cases e with
  | network e =>
      rw [List.mem_singleton.mp hmem]
      exact H.fits_other e he.2
  | car e =>
      obtain ⟨e', he', rfl⟩ := List.mem_map.mp hmem
      rw [H.fits_ofService]
      cases e with
      | other e => cases he.2
      | carConnection isRealtime sessionId init =>
          rw [List.mem_singleton.mp he']
          rfl
      | carMessage isRealtime sessionId data => exact Fleet.fits_onMessage h he.1 he'

/-! ## §3. A run with the cars is a run of the system. -/

/-- The events of the system along a run. -/
abbrev flat (H : Host σ ε) (a : StringAlloc) : Traffic σ → List (Event ε) → List ε :=
  Runs.flatten (step H a) (calls H a)

/-- **Every run is a run of the system**, with bodies that fit. -/
theorem net_run {events : List (Event ε)} (h : t.Sees H)
    (hevents : Runs.Along (step H a) (Enabled H) t events) :
    (Runs.run (step H a) t events).net = Runs.run H.step t.net (flat H a t events)
      ∧ Runs.Along H.step (fun n e => H.Enabled n e ∧ H.fits e = true) t.net
        (flat H a t events) := by
  refine Runs.run_flatten (f := Traffic.net) (I := Sees H)
    (fun t e ht he => (ht.step e he).1) (fun t e ht he => ?_) h hevents
  refine ⟨by cases e <;> rfl, ?_⟩
  refine Runs.Along.and_forall ?_ fun e' he' => ht.fits he he'
  cases e with
  | network e => exact ⟨he.1, trivial⟩
  | car e => exact (run_service _ fun e' he' => ofCar_of_mem_calls he.2 he').2

/-- **What is published in a stretch of a run** is an interleaving of what the
connections of the cars completed in it. -/
theorem published_run {events : List (Event ε)} (h : t.Sees H)
    (hevents : Runs.Along (step H a) (Enabled H) t events) (b : Bool) :
    (Runs.run (step H a) t events).Sees H
      ∧ Fleet.Published b t.fleet (H.service t.net) (Runs.run (step H a) t events).fleet
        (H.service (Runs.run (step H a) t events).net) := by
  refine Runs.run_invariant
    (I := fun t' => t'.Sees H
      ∧ Fleet.Published b t.fleet (H.service t.net) t'.fleet (H.service t'.net))
    (fun t' e ht he => ?_) ⟨h, .refl b _ _⟩ hevents
  obtain ⟨hsees, hgrows⟩ := ht.1.step (a := a) e he
  exact ⟨hsees, ht.2.grows (hgrows b)⟩

/-- All of it, from the start on. -/
theorem published_start (garbage : UInt8) {net : σ} (hnew : H.service net = .new garbage)
    {events : List (Event ε)}
    (hevents : Runs.Along (step H a) (Enabled H) (start a net) events) (b : Bool) :
    Interleaves ((Runs.run (step H a) (start a net) events).fleet.messages b)
      ((H.service (Runs.run (step H a) (start a net) events).net).publishedOn b) := by
  obtain ⟨-, later, streams, hlater, hstreams, hmerge⟩ :=
    published_run (sees_start a garbage hnew) hevents b
  have hnone : (H.service (start a net).net).publishedOn b = [] := by
    show (H.service net).publishedOn b = []
    rw [hnew]
    rfl
  rw [hlater, hnone, List.nil_append]
  refine hmerge.congr fun x => (hstreams x).trans ?_
  have hnothing : (start a net).fleet.messages b x = [] := by
    show Fleet.messagesFrom [] (grammar.parse []).frames = []
    rw [Fleet.parse_nil]
    rfl
  rw [hnothing, List.nil_append]

/-- **What every run of the system ends in, every run with the cars ends in.** -/
theorem net_start {J : σ → Prop} (garbage : UInt8) {net : σ}
    (hnew : H.service net = .new garbage)
    (hJ : ∀ es : List ε, Runs.Along H.step (fun n e => H.Enabled n e ∧ H.fits e = true) net es →
      J (Runs.run H.step net es))
    {events : List (Event ε)}
    (hevents : Runs.Along (step H a) (Enabled H) (start a net) events) :
    (Runs.run (step H a) (start a net) events).Sees H
      ∧ J (Runs.run (step H a) (start a net) events).net := by
  have hsees : (start a net).Sees H := sees_start a garbage hnew
  obtain ⟨hnet, halong⟩ := net_run hsees hevents
  rw [hnet]
  exact ⟨(published_run hsees hevents true).1, hJ _ halong⟩

/-! ## §4. Calm stretches. -/

/-- What the cars do is calm. -/
theorem calm_ofService {C : σ → ε → Prop} {I : σ → Prop}
    (hcar : ∀ n e, I n → I (H.step n (H.ofService e)) ∧ C n (H.ofService e))
    (es : List Jt1078Service.Event) : ∀ {n : σ}, I n →
    I (Runs.run H.step n (es.map H.ofService))
      ∧ Runs.Along H.step C n (es.map H.ofService) := by
  induction es with
  | nil => exact fun hn => ⟨hn, trivial⟩
  | cons e es ih =>
      intro n hn
      obtain ⟨hnext, hcalm⟩ := hcar n e hn
      obtain ⟨hlast, halong⟩ := ih hnext
      exact ⟨hlast, hcalm, halong⟩

/-- **A calm stretch with the cars is a calm stretch of the system.** -/
theorem calm_flat {C : σ → ε → Prop} {I : σ → Prop}
    (hnetwork : ∀ n e, I n → C n e → I (H.step n e))
    (hcar : ∀ n e, I n → I (H.step n (H.ofService e)) ∧ C n (H.ofService e))
    {events : List (Event ε)} (hn : I t.net)
    (hcalm : Runs.Along (step H a) (fun t e => e.Calm (C t.net)) t events) :
    Runs.Along H.step C t.net (flat H a t events) := by
  refine (Runs.run_flatten (f := Traffic.net) (I := fun t => I t.net) (fun t e ht he => ?_)
    (fun t e ht he => ?_) hn hcalm).2
  · cases e with
    | network e => exact hnetwork t.net e ht he
    | car e => exact (calm_ofService hcar (t.fleet.calls a e) ht).1
  · cases e with
    | network e => exact ⟨rfl, he, trivial⟩
    | car e => exact ⟨rfl, (calm_ofService hcar (t.fleet.calls a e) ht).2⟩

/-- **What a ledger gains is what the cars send whole**, of what is published in
a half. -/
theorem sent_of_balances {γ : Type} {L : Ledger σ Message γ}
    (hposted : ∀ n, L.posted n = (H.service n).publishedOn b) (h : t.Sees H)
    {events : List (Event ε)} (hevents : Runs.Along (step H a) (Enabled H) t events)
    (hbalances : L.Balances t.net (Runs.run H.step t.net (flat H a t events))) :
    ∃ later streams, Interleaves streams later
      ∧ (∀ x, (Runs.run (step H a) t events).fleet.messages b x
          = t.fleet.messages b x ++ streams x)
      ∧ L.has (Runs.run (step H a) t events).net = L.has t.net ++ L.worth later := by
  obtain ⟨-, later, streams, hlater, hstreams, hmerge⟩ := published_run h hevents b
  rw [← (net_run h hevents).1] at hbalances
  obtain ⟨new, hnew, hbalance⟩ := hbalances
  rw [hposted, hposted] at hnew
  obtain rfl : new = later := List.append_cancel_left (hnew.symm.trans hlater)
  exact ⟨new, streams, hmerge, hstreams, hbalance⟩

end Traffic

end MultiProcessServer
