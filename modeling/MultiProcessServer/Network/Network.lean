/-
  MultiProcessServer.Network.Network
  ──────────────────────────────────
  `pc_server` and `jt1078_server`, joined by the connection `m_client` has.

  Both processes are the models of the modules before, and the connection is a
  `Uplink`, so that requests arrive whole and in order; what is added here is what
  `pc_server` does with it.
-/
import MultiProcessServer.Network.Stream
import MultiProcessServer.PcServer.ViewerStreams

namespace MultiProcessServer

open Forward

/-- The two processes and the connection between them. -/
structure Network extends Uplink where
  pc : PcServer

namespace Network

-- `half` says which forward server `pc_server` is configured to connect to
variable (half : Bool) (a : StringAlloc) (n : Network)

/-! ## §1. The two ends. -/

/-- `m_client` is given up, and its socket closed. -/
def reset : Network := { n with toUplink := n.toUplink.reset a }

/-- An event of `pc_server`. -/
def pcStep (e : PcServer.Event) : Network :=
  let n := { n with pc := n.pc.step e }
  if e.dropsClient then n.reset a else n

/-- The client reads: `OnMessage`, whose packets and error go to `PcServer`.
`behind` is what lies behind the payloads in memory. -/
def readStep (size : Nat) (behind : List UInt8) : Network :=
  let (packets, error, link) := n.toUplink.readStep half a size
  let n : Network :=
    { toUplink := link
      pc := packets.foldl (fun pc packet => pc.step (.clientMessage packet.1 behind)) n.pc }
  match error with
  | none => n
  | some _ => n.pcStep a .clientError

/-! ## §2. Events. -/

inductive Event
  /-- An event of `pc_server`, but for the messages of its client. -/
  | pc (e : PcServer.Event)
  /-- An event at the other end of the connection. -/
  | link (e : Uplink.Event)
  /-- The client reads. -/
  | read (size : Nat) (behind : List UInt8)

def step : Event → Network
  | .pc e => n.pcStep a e
  | .link e => { n with toUplink := n.toUplink.step half e }
  | .read size behind => n.readStep half a size behind

/-- The start: `pc_server` after `Init`, and a new `jt1078_server`. -/
def init (garbage : UInt8) (result : Option ConnectResult) : Network where
  toUplink := .init a garbage
  pc := (PcServer.init garbage result).2

/-- The client has a connection, or waits for one. -/
def hasConnection : Bool :=
  n.pc.client.any fun c => c.bConnected || c.connecting

/-- The event can come now. -/
def Enabled : Event → Prop
  | .pc e => n.pc.Enabled e ∧ e.isMessage = false
  | .link e => n.toUplink.Enabled half n.pc.sent n.hasConnection e
  | .read size _ => n.pc.isConnected = true ∧ size ≤ Buffer.MAX_SIZE_ONCE_READ

instance : (e : Event) → Decidable (n.Enabled half e)
  | .pc _ | .read _ _ => inferInstanceAs (Decidable (_ ∧ _))
  | .link e => inferInstanceAs (Decidable (n.toUplink.Enabled half n.pc.sent n.hasConnection e))

/-- The event at the other end, if it is one. -/
def Event.atLink : Event → Option Uplink.Event
  | .link e => some e
  | _ => none

end Network

end MultiProcessServer
