/-
`WifiConnectionManager`: how satellites are paired, connected, kept connected and
forgotten.

Everything here runs on the main thread, one call or callback after the other.  A method
that the source calls with a connection pointer is given the id the pool has it under,
since it is always called with the pooled object.  Logging, the compatibility chip and
the signals that only redraw the user interface are left out.
-/
import Dish.Net.ManagerState

namespace Dish

/-! ### What the user is told -/

def unreachableMsg : String :=
  "Server unreachable — check it's powered on and on the same Wi-Fi."

def unreachableMsgFor : TransportFailure → String
  | .refused => "That machine is reachable, but no satellite is listening on it. Start " ++
      "Satellite there, then try again."
  | .timedOut => "The satellite stopped responding. It may have gone to sleep or left the " ++
      "network."
  | .tls => "Could not set up a secure connection to the satellite."
  | .none | .unreachable | .aborted | .other => unreachableMsg

def linkFailedMsg : String :=
  "The satellite accepted, but the controller link would not open. Try again."

def ipv6Msg : String :=
  "This satellite's address is IPv6, and a satellite can only be reached over IPv4."

def rePairMsg : String := "This satellite no longer recognizes this device. Re-pair needed."

def versionMsg : String := "This app and the satellite speak different protocol versions."

def versionMsgFor : ProtocolVerdict → String
  | .updateDish => "This satellite needs a newer version of Dish. Update the app and retry."
  | .updateSatellite =>
    "This satellite is too old for this version of Dish. Update the satellite."
  | .settled | .retryLower | .unusable => versionMsg

def identityChangedMsg : String :=
  "This satellite's security identity changed. If it was reinstalled, forget it here and " ++
    "pair again."

def wrongPinMsg : String :=
  "That PIN wasn't accepted. Check the code on the satellite and try again."

def pairPendingMsg : String :=
  "The satellite hasn't confirmed pairing yet. Try again in a moment."

def reverseDeclinedMsg : String :=
  "The satellite declined this device. Pairing was not approved."

def reverseTimedOutMsg : String :=
  "Timed out waiting for approval on the satellite. Try again."

def kReversePollIntervalMs : Nat := 1000
def kReverseDeadlineMs : Nat := 120000

/-- `refusesAddress`: what is said about an address that is never dialled. -/
def addressRefusal (server : DiscoveredServer) : Option String :=
  if isIpv6Address server.ip then some ipv6Msg
  else if !isPrivateHostLiteral server.ip then
    some ("Refusing to connect to a non-local address (" ++ server.ip ++ ").")
  else none

/-- `fromHex` gives so many bytes: two hex digits for each. -/
def isHexOf (bytes : Nat) (hex : String) : Bool :=
  hex.toList.length = 2 * bytes && hex.toList.all IpLiterals.isHexDigit

def isPairingKey (keyHex : String) : Bool := isHexOf 32 keyHex

/-- What a session PUT says about a connection. -/
def WifiConnection.sessionBody (c : WifiConnection) : SessionBody where
  descriptors := c.desiredDescriptors
  mouseControl := c.wantsMouseControl
  protocolVersion := c.offeredProtocolVersion

def WifiConnection.setOfferedProtocolVersion (c : WifiConnection) (version : Nat) :
    WifiConnection :=
  { c with offeredProtocolVersion := version }

namespace Manager

variable (s : Manager)

/-! ### Parts of the state -/

/-- `connections_.value(id, nullptr)`. -/
def conn? (id : SatelliteId) : Option Pooled := s.connections.lookup id

def stateOf (id : SatelliteId) : Option SessionState := (s.conn? id).map (·.conn.state)

/-- A change of the connection of an id, if it has one. -/
def onConn (id : SatelliteId) (f : WifiConnection → WifiConnection) : Manager :=
  { s with connections := s.connections.modify id fun p => { p with conn := f p.conn } }

def send (request : HttpRequest) : Manager :=
  { s with
    net := s.net ++ [{ serial := s.sent.length, request := request }]
    sent := s.sent ++ [request] }

def emit (event : ConnectionEvent) : Manager := { s with events := s.events ++ [event] }

def emitErrorIfUserInitiated (intent : ConnectIntent) (message : String) : Manager :=
  if intent = .userInitiated then s.emit (.error message) else s

/-- `credentialsFor`: the pairing key on file, when it is one. -/
def credentialsFor (id : SatelliteId) : Option String :=
  (s.store.sharedKey id).filter isPairingKey

def pinGuardsAPairingAt (host : String) : Bool :=
  s.connections.entries.any fun ⟨id, p⟩ =>
    p.conn.server.ip = host && (s.store.sharedKey id).isSome

def ensureConnection (server : DiscoveredServer) : Manager :=
  match s.conn? server.id with
  | some _ => s
  | none =>
    { s with
      connections := s.connections.insert server.id
        { ref := s.refs, conn := { server := server }, startedWith := server }
      refs := s.refs + 1 }

def clearForUserAction (id : SatelliteId) : Manager :=
  { s with
    retryAttempts := Function.update s.retryAttempts id 0
    heldByUser := s.heldByUser.erase id }

/-! ### Ending a session -/

/-- `releaseSession`: best effort, with the proof while there is a key. -/
def releaseSession (id : SatelliteId) (server : DiscoveredServer) (connectionId : String) :
    Manager :=
  if (s.credentialsFor id).isSome then s.send (.deleteSession id server connectionId) else s

def handBackLateGrant (id : SatelliteId) (server : DiscoveredServer) (resp : SessionResponse) :
    Manager :=
  match resp.connectionId with
  | some connectionId => s.releaseSession id server connectionId
  | none => s

/-- `disconnect`: every retry armed before is out of date, connection or not. -/
def disconnect (id : SatelliteId) : Manager :=
  let s := { s with
    retryGeneration := Function.update s.retryGeneration id (s.retryGeneration id + 1) }
  match s.conn? id with
  | none => s
  | some p =>
    let s := s.onConn id WifiConnection.markDisconnected
    match p.conn.connectionId with
    | some cid => s.releaseSession id p.conn.server cid
    | none => s

def disconnectByUser (id : SatelliteId) : Manager :=
  ({ s with heldByUser := insert id s.heldByUser } : Manager).disconnect id

def markStale (id : SatelliteId) : Manager := s.onConn id WifiConnection.markStale

/-- `onTerminalAuthFailure`: the key is gone and so is the retry curve. -/
def onTerminalAuthFailure (id : SatelliteId) (intent : ConnectIntent) : Manager :=
  let s := s.onConn id WifiConnection.markStale
  let s := { s with
    store := s.store.forgetKey id
    retryAttempts := Function.update s.retryAttempts id 0 }
  s.emitErrorIfUserInitiated intent rePairMsg

/-- `scheduleRetry`: a silent failure arms a timer of the current generation. -/
def scheduleRetry (server : DiscoveredServer) (intent : ConnectIntent) : Manager :=
  if intent = .userInitiated then s
  else
    let id := server.id
    let attempt := s.retryAttempts id + 1
    { s with
      retryAttempts := Function.update s.retryAttempts id attempt
      retries := s.retries ++
        [{ id := id, server := server, generation := s.retryGeneration id,
           delayMs := backoffDelayMs attempt }] }

/-! ### Dialling -/

/-- `openSession`: the session PUT, with the key on file. -/
def openSession (id : SatelliteId) (server : DiscoveredServer) (intent : ConnectIntent) : Manager :=
  match s.conn? id with
  | none => s
  | some p =>
    match s.credentialsFor id with
    | none => s.onTerminalAuthFailure id intent
    | some pairingKey =>
      s.send (.session id p.ref server intent pairingKey p.conn.sessionBody)

def pairAndConnect (id : SatelliteId) (server : DiscoveredServer) (intent : ConnectIntent) :
    Manager :=
  match s.conn? id with
  | none => s
  | some p =>
    ({ s with pairingInFlight := insert id s.pairingInFlight } : Manager).send
      (.connectPair id p.ref server intent)

/-- The end of `connectTo`: with a key in hand the pair handshake is skipped. -/
def dial (id : SatelliteId) (server : DiscoveredServer) (intent : ConnectIntent) : Manager :=
  let s := s.onConn id WifiConnection.markConnecting
  if (s.credentialsFor id).isSome then s.openSession id server intent
  else s.pairAndConnect id server intent

def connectTo (server : DiscoveredServer) (intent : ConnectIntent) : Manager :=
  match addressRefusal server with
  | some message => s.emitErrorIfUserInitiated intent message
  | none =>
    if intent ≠ .userInitiated ∧ server.id ∈ s.heldByUser then s
    else
      let s := s.ensureConnection server
      let s := if intent = .userInitiated then s.clearForUserAction server.id else s
      let state := s.stateOf server.id
      let s := s.onConn server.id (·.updateServer server)
      if state = some .live ∨ state = some .linking then s
      else s.dial server.id server intent

def pairWithPin (server : DiscoveredServer) (pin : String) : Manager :=
  match addressRefusal server with
  | some message => s.emitErrorIfUserInitiated .userInitiated message
  | none =>
    let s := s.ensureConnection server
    let s := s.clearForUserAction server.id
    match s.conn? server.id with
    | none => s
    | some p =>
      if p.conn.state = .live then s
      else
        let s := s.onConn server.id (·.updateServer server)
        let s := s.onConn server.id WifiConnection.markConnecting
        ({ s with pairingInFlight := insert server.id s.pairingInFlight } : Manager).send
          (.pinPair server.id p.ref server pin)

/-! ### Sweeps and timers -/

/-- `autoReconnectAll`: every remembered satellite that is not live is dialled. -/
def autoReconnectAll : Manager :=
  s.store.satellites.all.foldl
    (fun s row => if s.stateOf row.id ≠ some .live then s.connectTo row .autoReconnect else s) s

def startDiscovery : Manager := { s with scanning := true }

/-- A connection that is down learns the address a scan found. -/
def relearn (server : DiscoveredServer) : Manager :=
  if s.stateOf server.id = some .idle ∨ s.stateOf server.id = some .stale then
    s.onConn server.id (·.updateServer server)
  else s

/-- The scan's finished handler: the store first, then the connections, then the sweep. -/
def scanFinished (discovered : List DiscoveredServer) : Manager :=
  if !s.scanning then s
  else
    let s := { s with discovered := discovered, scanning := false }
    let s := { s with store := s.store.refreshFromDiscovery discovered }
    (discovered.foldl relearn s).autoReconnectAll

def prepareForSleep : Manager := s.connections.keys.foldl disconnect s

def resumeFromSleep : Manager :=
  ({ s with retryAttempts := fun _ => 0 } : Manager).startDiscovery.autoReconnectAll

/-- `onRetryDue`: only a current retry of a settled connection dials. -/
def onRetryDue (retry : Retry) : Manager :=
  if s.retryGeneration retry.id ≠ retry.generation then s
  else if s.stateOf retry.id = some .idle ∨ s.stateOf retry.id = some .stale then
    s.startDiscovery.connectTo ((s.store.satellites.get retry.id).getD retry.server)
      .retryAfterDeath
  else s

/-! ### The live session -/

/-- `probeHostAudio`. -/
def probeHostAudio (id : SatelliteId) (server : DiscoveredServer) : Manager :=
  s.send (.capabilities id server)

def syncSlot (id : SatelliteId) (slotId : SlotId) : Manager :=
  match s.conn? id with
  | none => s
  | some p =>
    match p.conn.syncSlot slotId with
    | some (.putController connId descriptor) =>
      if (s.credentialsFor id).isSome then
        s.send (.syncSlot id p.conn.server connId descriptor)
      else s
    | _ => s

def deleteSlot (id : SatelliteId) (ctrlIdx : Nat) : Manager :=
  match s.conn? id with
  | none => s
  | some p =>
    match p.conn.deleteSlot ctrlIdx with
    | some (.deleteController connId ctrlIdx) =>
      if (s.credentialsFor id).isSome then
        s.send (.deleteSlot id p.conn.server connId ctrlIdx)
      else s
    | _ => s

/-- The slots `slotChanged` and `slotRemoved` are connected to. -/
def onSignal (id : SatelliteId) : Option SlotSignal → Manager
  | none => s
  | some (.slotChanged slotId) => s.syncSlot id slotId
  | some (.slotRemoved ctrlIdx) => s.deleteSlot id ctrlIdx

/-- `convergeLateSlots`: what changed while the PUT was out is sent on its own route. -/
def convergeLateSlots (id : SatelliteId) (sentSlots : List DesiredSlot) : Manager :=
  match s.conn? id with
  | none => s
  | some p =>
    let converge := lateSlotConverge sentSlots (descriptorsToDesired p.conn.desiredDescriptors)
    let s := converge.removes.foldl (fun s ctrlIdx => s.deleteSlot id ctrlIdx.toNat) s
    converge.resyncs.foldl
      (fun s ctrlIdx =>
        match p.conn.slotIdForIndex ctrlIdx.toNat with
        | some slotId => s.syncSlot id slotId
        | none => s) s

/-- `reconcile`: at most one session GET at a time. -/
def reconcile (id : SatelliteId) (server : DiscoveredServer) : Manager :=
  match (s.conn? id).bind (·.conn.reconcileTarget) with
  | none => s
  | some connId =>
    if id ∈ s.reconcileInFlight then s
    else if (s.credentialsFor id).isSome then
      ({ s with reconcileInFlight := insert id s.reconcileInFlight } : Manager).send
        (.reconcile id server connId)
    else s

def rekey (id : SatelliteId) (server : DiscoveredServer) : Manager :=
  match s.conn? id with
  | none => s
  | some p =>
    if p.conn.state ≠ .live then s
    else
      match p.conn.client, s.credentialsFor id with
      | some client, some pairingKey =>
        s.send (.rekey id client.ref server pairingKey p.conn.sessionBody)
      | _, _ => s

def handleServerClose (id : SatelliteId) (server : DiscoveredServer) (reason : Nat) : Manager :=
  match closeActionForReason reason with
  | .dropKeyRePair =>
    let s := s.onConn id WifiConnection.markStale
    { s with store := s.store.forgetKey id }
  | .stayDown => s.onConn id WifiConnection.markDisconnected
  | .retryBackoff =>
    (s.onConn id WifiConnection.markDisconnected).scheduleRetry server .retryAfterDeath

/-- `maybeRequestRekey` of a connection, and the callback it was given. -/
def maybeRequestRekey (id : SatelliteId) (client : SessionClient) (server : DiscoveredServer) :
    Manager :=
  let asks := (s.conn? id).any fun p => (p.conn.maybeRequestRekey client).2
  let s := s.onConn id fun c => (c.maybeRequestRekey client).1
  if asks then s.rekey id server else s

/-- `onAliveTick`: a closed or dead session is dropped, a live one looked after. -/
def aliveTick (id : SatelliteId) : Manager :=
  match s.conn? id with
  | none => s
  | some p =>
    match p.conn.client with
    | none => s
    | some client =>
      if 0 ≤ client.sessionCloseReason then
        s.handleServerClose id p.startedWith client.sessionCloseReason.toNat
      else if !client.alive then
        (s.disconnect id).scheduleRetry p.startedWith .retryAfterDeath
      else
        let s := s.onConn id (·.applySteadyState client)
        let s := s.reconcile id p.startedWith
        s.maybeRequestRekey id client p.startedWith

end Manager

end Dish
