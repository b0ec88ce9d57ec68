/-
  MultiProcessServer.WebServer.WebServer
  ──────────────────────────────────────
  `WebServer`: the HTTP requests that start and stop a channel, the set of
  channels in use, and the connection to `jt1078_server`.

  The handlers are taken from where the fields of the JSON text are known.
  The RTMP thread appears as the queue of what was posted to it.
-/
import MultiProcessServer.Jt1078Client.Jt1078Client
import MultiProcessServer.Jt1078Util

namespace MultiProcessServer

/-! ## §1. The set of channels. -/

/-- `class DeviceIdMgr`. -/
structure DeviceIdMgr where
  setDeviceId : Std.TreeSet UInt64

namespace DeviceIdMgr

variable (m : DeviceIdMgr)

def getDeviceIdFromStr (strDeviceId : List UInt8) : UInt64 := generateDeviceId strDeviceId

/-- `Exists`. -/
def existsDeviceId (deviceId : UInt64) : Bool := m.setDeviceId.contains deviceId

def insert (deviceId : UInt64) : DeviceIdMgr := ⟨m.setDeviceId.insert deviceId⟩

def remove (deviceId : UInt64) : DeviceIdMgr := ⟨m.setDeviceId.erase deviceId⟩

/-- The channel is in use. -/
def Holds (m : DeviceIdMgr) (deviceId : UInt64) : Prop := deviceId ∈ m.setDeviceId

instance (deviceId : UInt64) : Decidable (m.Holds deviceId) :=
  inferInstanceAs (Decidable (deviceId ∈ m.setDeviceId))

variable {m} {deviceId d : UInt64}

theorem holds_insert : (m.insert deviceId).Holds d ↔ d = deviceId ∨ m.Holds d := by
  rw [Holds, insert, Std.TreeSet.mem_insert, Std.LawfulEqOrd.compare_eq_iff_eq,
    @eq_comm _ deviceId, Holds]

theorem holds_remove : (m.remove deviceId).Holds d ↔ d ≠ deviceId ∧ m.Holds d := by
  rw [Holds, remove, Std.TreeSet.mem_erase, ne_eq, Std.LawfulEqOrd.compare_eq_iff_eq,
    @eq_comm _ deviceId, Holds]

end DeviceIdMgr

/-! ## §2. The viewers of each stream. -/

/-- `class HttpSessionStat`; looking a stream up puts it into the map. -/
structure HttpSessionStat where
  mapClients : Std.TreeMap (List UInt8) (Std.TreeSet (List UInt8))

namespace HttpSessionStat

variable (stat : HttpSessionStat)

/-- `m_mapClients[strSession]`. -/
def clients (strSession : List UInt8) : Std.TreeSet (List UInt8) × HttpSessionStat :=
  let set := stat.mapClients.getD strSession ∅
  (set, ⟨stat.mapClients.insert strSession set⟩)

def size (strSession : List UInt8) : Nat × HttpSessionStat :=
  let (set, stat) := stat.clients strSession
  (set.size, stat)

def emptyClientId (strSession : List UInt8) : Bool × HttpSessionStat :=
  let (n, stat) := stat.size strSession
  (n == 0, stat)

def addClientId (strStream strClientId : List UInt8) : HttpSessionStat :=
  let (set, stat) := stat.clients strStream
  ⟨stat.mapClients.insert strStream (set.insert strClientId)⟩

def delClientId (strStream strClientId : List UInt8) : HttpSessionStat :=
  let (set, stat) := stat.clients strStream
  ⟨stat.mapClients.insert strStream (set.erase strClientId)⟩

def releaseStream (strStream : List UInt8) : HttpSessionStat := ⟨stat.mapClients.erase strStream⟩

end HttpSessionStat

/-! ## §3. The server. -/

/-- `class WebServer`: `sessionStat` is the member of its SRS handler, and
`rtmpThread` what was posted to the thread, the oldest first. -/
structure WebServer where
  jt1078Client : Option Jt1078Client
  connectTimer : Bool
  heartbeatTimer : Bool
  deviceIdMgr : DeviceIdMgr
  sessionStat : HttpSessionStat
  rtmpThread : List Ipc.PacketMove

namespace WebServer

def new : WebServer where
  jt1078Client := none
  connectTimer := false
  heartbeatTimer := false
  deviceIdMgr := ⟨∅⟩
  sessionStat := ⟨∅⟩
  rtmpThread := []

variable (w : WebServer)

/-- `m_jt1078_client && m_jt1078_client->IsConnected()`. -/
def isConnected : Bool :=
  match w.jt1078Client with
  | none => false
  | some c => c.isConnected

/-- `m_jt1078_client->SendPacket` behind that test. -/
def sendPacketIfConnected (mask : UInt32) (data : List UInt8) : WebServer :=
  match w.jt1078Client with
  | none => w
  | some c => if c.isConnected then { w with jt1078Client := some (c.sendPacket mask data) } else w

/-- `m_rtmp_thread.PostPacket`. -/
def postPacket (packet : Ipc.PacketMove) : WebServer :=
  { w with rtmpThread := w.rtmpThread ++ [packet] }

def initIpcMovePacket (uPktType : UInt32) (data : List UInt8) : Ipc.PacketMove where
  header :=
    { headLength := UInt32.ofNat Ipc.sizeofPacketMove
      dataLength := UInt32.ofNat data.length
      pktSeqId := 0
      pktType := uPktType }
  data := data
  behind := []

def notifyStart (strDeviceId : List UInt8) : WebServer :=
  let deviceId := DeviceIdMgr.getDeviceIdFromStr strDeviceId
  if w.deviceIdMgr.existsDeviceId deviceId then w
  else
    let w := { w with deviceIdMgr := w.deviceIdMgr.insert deviceId }
    let w := w.sendPacketIfConnected
      (Ipc.IPC_PKT_TYPE_SUBSCRIBE_DEVICE_ID ||| Ipc.IPC_PKT_FROM_WEB_SERVER) strDeviceId
    w.postPacket (initIpcMovePacket
      (Ipc.IPC_PKT_TYPE_SUBSCRIBE_DEVICE_ID ||| Ipc.IPC_PKT_FROM_WEB_SERVER) strDeviceId)

def notifyStop (strDeviceId : List UInt8) : WebServer :=
  let deviceId := DeviceIdMgr.getDeviceIdFromStr strDeviceId
  let w := { w with deviceIdMgr := w.deviceIdMgr.remove deviceId }
  let w := w.sendPacketIfConnected
    (Ipc.IPC_PKT_TYPE_UNSUBSCRIBE_DEVICE_ID ||| Ipc.IPC_PKT_FROM_WEB_SERVER) strDeviceId
  w.postPacket (initIpcMovePacket
    (Ipc.IPC_PKT_TYPE_UNSUBSCRIBE_DEVICE_ID ||| Ipc.IPC_PKT_FROM_WEB_SERVER) strDeviceId)

/-! ## §4. HTTP requests. -/

/-- What a handler replies. -/
inductive Reply
  | badRequest
  | ok (data : List UInt8)
  deriving DecidableEq, Repr

/-- `HttpWebOnPlayHandler::HandlerJsonData`, given what `GetDeviceIdFromJson`
finds. -/
def webOnPlay (strDeviceId : Option (List UInt8)) : Reply × WebServer :=
  match strDeviceId with
  | none => (.badRequest, w)
  | some strDeviceId =>
      if !checkDeviceIdStrFmt strDeviceId then (.badRequest, w)
      else (.ok [], w.notifyStart strDeviceId)

/-- The fields of an SRS callback. -/
structure SrsCallback where
  strAction : List UInt8
  strStream : List UInt8
  strClientId : List UInt8
  strApp : List UInt8
  deriving DecidableEq, Repr

/-- The bytes of an ASCII literal. -/
def ascii (s : String) : List UInt8 := s.toList.map fun c => UInt8.ofNat c.toNat

def sessionStop (strStream strClientId : List UInt8) : WebServer :=
  let (empty, stat) := (w.sessionStat.delClientId strStream strClientId).emptyClientId strStream
  let w := { w with sessionStat := stat }
  if empty then
    let w := w.notifyStop strStream
    { w with sessionStat := w.sessionStat.releaseStream strStream }
  else w

def sessionPlay (strStream strClientId : List UInt8) : WebServer :=
  let (empty, stat) := w.sessionStat.emptyClientId strStream
  let w := { w with sessionStat := stat }
  let w := if empty then w.notifyStart strStream else w
  { w with sessionStat := w.sessionStat.addClientId strStream strClientId }

def srsOK : Reply := .ok (ascii "0")

def srsError : Reply := .ok (ascii "1")

/-- `HttpSrsOnSessionHandler::HandlerJsonData`, given what `GetActionAndStream`
finds. -/
def srsOnSession (fields : Option SrsCallback) : Reply × WebServer :=
  match fields with
  | none => (.badRequest, w)
  | some j =>
      if j.strStream.isEmpty || (j.strAction != ascii "on_stop" && j.strAction != ascii "on_play")
          || j.strApp.isEmpty then (.badRequest, w)
      else if !checkDeviceIdStrFmt j.strStream then (srsError, w)
      else if j.strApp != ascii "live" && j.strApp != ascii "replay" then (srsError, w)
      else if j.strAction == ascii "on_stop" then (srsOK, w.sessionStop j.strStream j.strClientId)
      else (srsOK, w.sessionPlay j.strStream j.strClientId)

/-! ## §5. Callbacks of the client and the timers. -/

def startConnectTimer : WebServer := { w with connectTimer := true }

def onClientConnect (bOk : Bool) : WebServer :=
  if !bOk then { w with jt1078Client := none }.startConnectTimer
  else
    -- the source has a comment here that the subscriptions must be sent, and no code
    w

/-- `OnClientMessage`; `behind` is what will be found behind the payload of the
copy. -/
def onClientMessage (packet : Ipc.Packet) (behind : List UInt8) : WebServer :=
  if packet.type = Ipc.IPC_PKT_TYPE_JT1078_PACKET then w.postPacket (.copyFrom packet behind)
  else w

def onClientError : WebServer := { w with jt1078Client := none }.startConnectTimer

/-- `AsyncConnectServer`; without a result the configuration names no server. -/
def asyncConnectServer (result : Option ConnectResult) : Bool × WebServer :=
  let w := { w with jt1078Client := none }
  match result with
  | none => (false, w)
  | some result =>
      let (ok, client, onConnect) := Jt1078Client.asyncConnect result
      let w := { w with jt1078Client := some client }
      match onConnect with
      | none => (ok, w)
      | some bOk => (ok, w.onClientConnect bOk)

def onConnectTimer (result : Option ConnectResult) : WebServer := (w.asyncConnectServer result).2

def onHeartbeatTimer : WebServer :=
  let w := w.sendPacketIfConnected (Ipc.IPC_PKT_TYPE_HEARTBEAT ||| Ipc.IPC_PKT_FROM_WEB_SERVER) []
  { w with heartbeatTimer := true }

/-- The end of `InitHttpHandlers`, without which `Init` fails. -/
def init (result : Option ConnectResult) : Bool × WebServer :=
  { new with heartbeatTimer := true }.asyncConnectServer result

/-! ## §6. Events. -/

inductive Event
  | webOnPlay (strDeviceId : Option (List UInt8))
  | srsOnSession (fields : Option SrsCallback)
  /-- The connection attempt that was pending has ended. -/
  | clientConnect (bOk : Bool)
  /-- It has succeeded, and the connection was closed again for want of a read
  event. -/
  | clientCleared
  | clientMessage (packet : Ipc.Packet) (behind : List UInt8)
  | clientError
  | connectTimer (result : Option ConnectResult)
  | heartbeatTimer

def step (e : Event) : WebServer :=
  match e with
  | .webOnPlay strDeviceId => (w.webOnPlay strDeviceId).2
  | .srsOnSession fields => (w.srsOnSession fields).2
  | .clientConnect bOk =>
      { w with jt1078Client := w.jt1078Client.map fun c : Jt1078Client => c.onConnected bOk
        }.onClientConnect bOk
  | .clientCleared =>
      { w with jt1078Client := w.jt1078Client.map Jt1078Client.onCleared }.onClientConnect true
  | .clientMessage packet behind => w.onClientMessage packet behind
  | .clientError => w.onClientError
  | .connectTimer result => { w with connectTimer := false }.onConnectTimer result
  | .heartbeatTimer => { w with heartbeatTimer := false }.onHeartbeatTimer

/-- The client, or the timer, can raise the event now. -/
def Enabled : Event → Prop
  | .clientConnect _ => (w.jt1078Client.any fun c : Jt1078Client => c.connecting) = true
  | .clientCleared => (w.jt1078Client.any fun c : Jt1078Client => c.connecting) = true
  | .clientMessage _ _ => w.isConnected = true
  | .clientError => w.isConnected = true
  | .connectTimer _ => w.connectTimer = true
  | .heartbeatTimer => w.heartbeatTimer = true
  | .webOnPlay _ => True
  | .srsOnSession _ => True

instance : ∀ e : Event, Decidable (w.Enabled e)
  | .clientConnect _ | .clientCleared =>
      inferInstanceAs (Decidable ((w.jt1078Client.any fun c : Jt1078Client => c.connecting) = true))
  | .clientMessage _ _ => inferInstanceAs (Decidable (w.isConnected = true))
  | .clientError => inferInstanceAs (Decidable (w.isConnected = true))
  | .connectTimer _ => inferInstanceAs (Decidable (w.connectTimer = true))
  | .heartbeatTimer => inferInstanceAs (Decidable (w.heartbeatTimer = true))
  | .webOnPlay _ => inferInstanceAs (Decidable True)
  | .srsOnSession _ => inferInstanceAs (Decidable True)

end WebServer

end MultiProcessServer
