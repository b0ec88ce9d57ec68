/-
  MultiProcessServer.PcServer.PcServer
  ────────────────────────────────────
  `PcServer`: the viewers it serves, the connection to `jt1078_server` they
  share, and the timers.

  Every callback is one event.  `Enabled` says which events can come: a
  session speaks while it exists, the client's callbacks come from the client
  there is, and a timer fires while it is armed.
-/
import MultiProcessServer.Jt1078Client.Jt1078Client
import MultiProcessServer.PcServer.PcPublisher

namespace MultiProcessServer

/-- `class PcServer` with `PcManager`'s map and the sessions there are.  Beside
the members of the source: `roster` is what the environment knows of the
sessions, `delivered` the calls of `SendPacket` that `Publish` made (session,
device, packet), `nullDeref` whether a method was called through a null
`m_client`, and `garbage` the byte `generateDeviceIdStrByDeviceId` does not
initialise. -/
structure PcServer where
  client : Option Jt1078Client
  connectTimer : Bool
  heartbeatTimer : Bool
  pcManager : Std.TreeSet UInt64
  pcPublisher : PcPublisher
  sessions : PcSessions
  roster : Roster UInt64
  delivered : List (UInt64 × UInt64 × Ipc.Packet)
  nullDeref : Bool
  garbage : UInt8

namespace PcServer

/-! ## §1. Uses of `m_client`. -/

def new (garbage : UInt8) : PcServer where
  client := none
  connectTimer := false
  heartbeatTimer := false
  pcManager := ∅
  pcPublisher := ⟨∅⟩
  sessions _ := .new []
  roster := .empty
  delivered := []
  nullDeref := false
  garbage := garbage

variable (p : PcServer)

/-- `m_client && m_client->IsConnected()`. -/
def isConnected : Bool :=
  match p.client with
  | none => false
  | some c => c.isConnected

/-- `m_client->IsConnected()`. -/
def clientIsConnected : Bool × PcServer :=
  match p.client with
  | none => (false, { p with nullDeref := true })
  | some c => (c.isConnected, p)

/-- `m_client->SendPacket`. -/
def clientSendPacket (mask : UInt32) (data : List UInt8) : PcServer :=
  match p.client with
  | none => { p with nullDeref := true }
  | some c => { p with client := some (c.sendPacket mask data) }

/-! ## §2. Requests of the viewers. -/

/-- `pc->GetDeviceId()`. -/
def getDeviceId (pc : UInt64) : List UInt8 := (p.sessions pc).getDeviceId

def updatePc (pc : UInt64) (f : PcSession → PcSession) : PcServer :=
  { p with sessions := Function.update p.sessions pc (f (p.sessions pc)) }

def tryUnsubscriberOldDeviceId (pc : UInt64) (strNewDeviceId : List UInt8) : PcServer :=
  let strOldDeviceId := p.getDeviceId pc
  if !strOldDeviceId.isEmpty && strOldDeviceId != strNewDeviceId then
    let oldDeviceId := generateDeviceId strOldDeviceId
    let p := { p with pcPublisher := p.pcPublisher.delSubscriber oldDeviceId pc }
    let (connected, p) := p.clientIsConnected
    if connected && p.pcPublisher.isEmptySubscriber oldDeviceId then
      p.clientSendPacket (Ipc.IPC_PKT_TYPE_UNSUBSCRIBE_DEVICE_ID ||| Ipc.IPC_PKT_FROM_PC_SERVER)
        strOldDeviceId
    else p
  else p

def subscribeDeviceId (pc : UInt64) (strDeviceId : List UInt8) : PcServer :=
  let p := p.tryUnsubscriberOldDeviceId pc strDeviceId
  let p := p.updatePc pc (·.setDeviceId strDeviceId)
  if !strDeviceId.isEmpty then
    let deviceId := generateDeviceId strDeviceId
    let p := { p with pcPublisher := p.pcPublisher.addSubscriber deviceId pc }
    if p.pcPublisher.sizeSubscriber deviceId == 1 then
      p.clientSendPacket (Ipc.IPC_PKT_TYPE_SUBSCRIBE_DEVICE_ID ||| Ipc.IPC_PKT_FROM_PC_SERVER)
        strDeviceId
    else p
  else p

def unSubscribeDeviceId (pc : UInt64) : PcServer :=
  let strDeviceId := p.getDeviceId pc
  let p :=
    if !strDeviceId.isEmpty then
      let deviceId := generateDeviceId strDeviceId
      let p := { p with pcPublisher := p.pcPublisher.delSubscriber deviceId pc }
      -- here the channel is looked at before the client
      if p.pcPublisher.isEmptySubscriber deviceId then
        let (connected, p) := p.clientIsConnected
        if connected then
          p.clientSendPacket
            (Ipc.IPC_PKT_TYPE_UNSUBSCRIBE_DEVICE_ID ||| Ipc.IPC_PKT_FROM_PC_SERVER) strDeviceId
        else p
      else p
    else p
  p.updatePc pc (·.clearDeviceId)

def releasePcSessionDeviceId (pc : UInt64) : PcServer :=
  let p := p.unSubscribeDeviceId pc
  { p with pcManager := p.pcManager.erase pc }

def processPcPacketSubscribe (pc : UInt64) (packet : Ipc.Packet) : PcServer :=
  p.subscribeDeviceId pc packet.data

def processPcPacketUnSubscribe (pc : UInt64) : PcServer := p.unSubscribeDeviceId pc

/-! ## §3. Callbacks of the sessions. -/

/-- `OnNewConnection`; `init` is what `pc->Init` returns. -/
def onNewConnection (pc : UInt64) (socket : List SockResult) (init : Bool) : PcServer :=
  if !init then p
  else
    { p with
      sessions := Function.update p.sessions pc (.new socket)
      pcManager := p.pcManager.insert pc }

def onPacketCompleted (pc : UInt64) (packet : Ipc.Packet) : PcServer :=
  if !p.isConnected then p
  else if packet.type = Ipc.IPC_PKT_TYPE_SUBSCRIBE_DEVICE_ID then
    p.processPcPacketSubscribe pc packet
  else if packet.type = Ipc.IPC_PKT_TYPE_UNSUBSCRIBE_DEVICE_ID then
    p.processPcPacketUnSubscribe pc
  else p

def onPacketError (pc : UInt64) : PcServer := p.releasePcSessionDeviceId pc

/-! ## §4. Callbacks of the client and the timers. -/

/-- `m_connect_timer->StartTimer()`. -/
def startConnectTimer : PcServer := { p with connectTimer := true }

def onClientConnect (bOk : Bool) : PcServer :=
  if !bOk then { p with client := none }.startConnectTimer
  else
    (p.pcPublisher.getAllDeviceId true).foldl
      (fun p deviceId =>
        p.clientSendPacket (Ipc.IPC_PKT_TYPE_SUBSCRIBE_DEVICE_ID ||| Ipc.IPC_PKT_FROM_PC_SERVER)
          (generateDeviceIdStrByDeviceId p.garbage deviceId))
      p

/-- `m_pc_publisher.Publish`. -/
def publish (deviceId : UInt64) (packet : Ipc.Packet) : PcServer :=
  let (pcPublisher, sessions, sent) := p.pcPublisher.publish deviceId packet p.sessions
  { p with
    pcPublisher := pcPublisher
    sessions := sessions
    delivered := p.delivered ++ sent.map fun pc => (pc, deviceId, packet) }

/-- `OnClientMessage`; `behind` is what lies behind the payload in memory, of
which the `memcpy` takes something when the payload is shorter than an id. -/
def onClientMessage (packet : Ipc.Packet) (behind : List UInt8) : PcServer :=
  if packet.type = Ipc.IPC_PKT_TYPE_JT1078_PACKET then
    p.publish (loadU64 (packet.data ++ behind)) packet
  else p

/-- `OnClientError`; its log reads a field through `m_client`. -/
def onClientError : PcServer :=
  let p := if p.client.isNone then { p with nullDeref := true } else p
  { p with client := none }.startConnectTimer

/-- `AsyncConnectServer`; without a result the configuration names no server. -/
def asyncConnectServer (result : Option ConnectResult) : Bool × PcServer :=
  let p := { p with client := none }
  match result with
  | none => (false, p)
  | some result =>
      let (ok, client, onConnect) := Jt1078Client.asyncConnect result
      let p := { p with client := some client }
      match onConnect with
      | none => (ok, p)
      | some bOk => (ok, p.onClientConnect bOk)

def onConnectTimer (result : Option ConnectResult) : PcServer := (p.asyncConnectServer result).2

def onHeartbeatTimer : PcServer :=
  let p :=
    if p.isConnected then
      p.clientSendPacket (Ipc.IPC_PKT_TYPE_HEARTBEAT ||| Ipc.IPC_PKT_FROM_PC_SERVER) []
    else p
  { p with heartbeatTimer := true }

/-- The end of `Init`, which gives up the program when it answers `false`. -/
def init (garbage : UInt8) (result : Option ConnectResult) : Bool × PcServer :=
  { new garbage with heartbeatTimer := true }.asyncConnectServer result

/-! ## §5. Events. -/

inductive Event
  | newConnection (pc : UInt64) (socket : List SockResult) (init : Bool)
  | packetCompleted (pc : UInt64) (packet : Ipc.Packet)
  | packetError (pc : UInt64)
  /-- The connection attempt that was pending has ended. -/
  | clientConnect (bOk : Bool)
  /-- It has succeeded, and the connection was closed again for want of a read
  event. -/
  | clientCleared
  | clientMessage (packet : Ipc.Packet) (behind : List UInt8)
  | clientError
  | connectTimer (result : Option ConnectResult)
  | heartbeatTimer

def Event.contact : Event → Contact UInt64
  | .newConnection pc _ init => if init then .opens pc else .rejected pc
  | .packetCompleted pc _ => .speaks pc
  | .packetError pc => .closes pc
  | _ => .silent

/-- The handler of an event. -/
def handle : Event → PcServer
  | .newConnection pc socket init => p.onNewConnection pc socket init
  | .packetCompleted pc packet => p.onPacketCompleted pc packet
  | .packetError pc => p.onPacketError pc
  | .clientConnect bOk =>
      { p with
        client := p.client.map fun c : Jt1078Client => c.onConnected bOk }.onClientConnect bOk
  | .clientCleared => { p with client := p.client.map Jt1078Client.onCleared }.onClientConnect true
  | .clientMessage packet behind => p.onClientMessage packet behind
  | .clientError => p.onClientError
  | .connectTimer result => { p with connectTimer := false }.onConnectTimer result
  | .heartbeatTimer => { p with heartbeatTimer := false }.onHeartbeatTimer

def step (e : Event) : PcServer := { p.handle e with roster := p.roster.next e.contact }

/-- Whether the client, or the timer, can raise the event. -/
def raises : Event → Bool
  | .clientConnect _ => p.client.any fun c : Jt1078Client => c.connecting
  | .clientCleared => p.client.any fun c : Jt1078Client => c.connecting
  | .clientMessage _ _ => p.isConnected
  | .clientError => p.isConnected
  | .connectTimer _ => p.connectTimer
  | .heartbeatTimer => p.heartbeatTimer
  | _ => true

/-- The event can come now. -/
def Enabled (e : Event) : Prop := p.roster.admits e.contact ∧ p.raises e = true

instance (e : Event) : Decidable (p.Enabled e) := inferInstanceAs (Decidable (_ ∧ _))

end PcServer

end MultiProcessServer
