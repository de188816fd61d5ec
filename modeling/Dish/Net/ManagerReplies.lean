/-
The callbacks of `WifiConnectionManager`, the approval request and the whole step.

Session PUTs and pair POSTs come back to the connection object they were sent on, and to
nothing if the pool has another one, or none, under their id.  The other replies look the
connection up by id alone.
-/
import Dish.Net.WifiConnectionManager

namespace Dish

namespace Manager

variable (s : Manager)

/-! ### Pairing -/

/-- `replyTarget`: the pooled connection, if it is the one the request was sent on. -/
def replyTarget (id : SatelliteId) (sentOn : Nat) : Option Pooled :=
  (s.conn? id).filter fun p => p.ref = sentOn

/-- `endPairingRequest`: a newer connection keeps its flag. -/
def endPairingRequest (id : SatelliteId) (sentOn : Nat) : Manager :=
  if (s.conn? id).any fun p => p.ref ≠ sentOn then s
  else { s with pairingInFlight := s.pairingInFlight.erase id }

def adoptKey (id : SatelliteId) (sharedKeyHex : String) : Manager :=
  { s with store := s.store.setSharedKey id sharedKeyHex }

/-- A connection goes down and the user is told. -/
def downWith (id : SatelliteId) (event : ConnectionEvent) : Manager :=
  (s.onConn id WifiConnection.markDisconnected).emit event

def onPinPairReply (id : SatelliteId) (sentOn : Nat) (server : DiscoveredServer)
    (outcome : PairingOutcome) : Manager :=
  let s := s.endPairingRequest id sentOn
  match s.replyTarget id sentOn with
  | none => s
  | some _ =>
    match outcome with
    | .success sharedKeyHex => (s.adoptKey id sharedKeyHex).openSession id server .userInitiated
    | .identityChanged => s.downWith id (.error identityChangedMsg)
    | .versionMismatch =>
      (s.downWith id (.error versionMsg)).emit (.pairingFailed id "versionMismatch")
    | .authRequired => (s.downWith id (.error wrongPinMsg)).emit (.pairingFailed id "wrongPin")
    | .unreachable =>
      (s.downWith id (.error unreachableMsg)).emit (.pairingFailed id "unreachable")
    | .pending => (s.downWith id (.error pairPendingMsg)).emit (.pairingFailed id "pending")

/-- A failed attempt goes down before the user, and silently is parked in Stale. -/
def park (id : SatelliteId) (intent : ConnectIntent) (event : ConnectionEvent) : Manager :=
  if intent = .userInitiated then s.downWith id event
  else s.onConn id WifiConnection.markStale

def onConnectPairReply (id : SatelliteId) (sentOn : Nat) (server : DiscoveredServer)
    (intent : ConnectIntent) (outcome : PairingOutcome) : Manager :=
  let s := s.endPairingRequest id sentOn
  match s.replyTarget id sentOn with
  | none => s
  | some _ =>
    match outcome with
    | .success sharedKeyHex => (s.adoptKey id sharedKeyHex).openSession id server intent
    | .authRequired | .pending => s.park id intent (.pairingRequired server)
    | .versionMismatch =>
      (s.onConn id WifiConnection.markDisconnected).emitErrorIfUserInitiated intent versionMsg
    | .identityChanged =>
      (s.onConn id WifiConnection.markDisconnected).emitErrorIfUserInitiated intent
        identityChangedMsg
    | .unreachable => s.park id intent (.error unreachableMsg)

/-! ### Approval requests -/

def cancelReversePairing : Manager :=
  let reverse := { s.reverse with polling := false, pollInFlight := false }
  { s with
    reverse :=
      if reverse.phase ≠ .idle then
        { reverse with
          pin := "", serverName := "", server := { ip := "" }, elapsedMs := 0, phase := .idle }
      else reverse }

def finishReverse (terminal : ReversePairingPhase) : Manager :=
  { s with reverse := { s.reverse with polling := false, pollInFlight := false, phase := terminal } }

/-- `armReverseAttempt`, with the random draw. -/
def armReverseAttempt (server : DiscoveredServer) (drawn : Nat) : Manager :=
  { s with
    reverse := { s.reverse with
      pin := formatReversePin drawn
      server := server
      serverName := if server.name = "" then server.ip else server.name
      elapsedMs := 0
      deadlineMs := kReverseDeadlineMs
      sawPending := false
      phase := .awaitingApproval
      attempt := s.reverse.attempt + 1 } }

def reverseAttemptIsCurrent (server : DiscoveredServer) (pin : String) : Bool :=
  s.reverse.phase = .awaitingApproval && s.reverse.server.id = server.id && s.reverse.pin = pin

/-- `adoptReverseGrant`: the connection is found or made by server. -/
def adoptReverseGrant (server : DiscoveredServer) (sharedKeyHex : String) : Manager :=
  let s := s.ensureConnection server
  let s := s.onConn server.id WifiConnection.markConnecting
  let s := s.adoptKey server.id sharedKeyHex
  let s := { s with reverse := { s.reverse with polling := false, phase := .approved } }
  s.openSession server.id server .userInitiated

/-- `applyReverseOutcome`. -/
def applyReverseOutcome (server : DiscoveredServer) (response : PairResponse)
    (pinMismatch : Bool) : Manager :=
  match PairingOutcome.classify response pinMismatch with
  | .success sharedKeyHex => s.adoptReverseGrant server sharedKeyHex
  | .pending => { s with reverse := { s.reverse with polling := true } }
  | .versionMismatch => (s.emit (.error versionMsg)).finishReverse .versionMismatch
  | .identityChanged => (s.emit (.error identityChangedMsg)).finishReverse .identityChanged
  | .unreachable => (s.emit (.error unreachableMsg)).finishReverse .timedOut
  | .authRequired =>
    (s.emit (.error (response.error.getD unreachableMsg))).finishReverse .timedOut

def onReversePairReply (id : SatelliteId) (sentOn : Nat) (server : DiscoveredServer)
    (pin : String) (response : PairResponse) (pinMismatch : Bool) : Manager :=
  let s := s.endPairingRequest id sentOn
  if s.reverseAttemptIsCurrent server pin then s.applyReverseOutcome server response pinMismatch
  else s

def requestReversePairing (server : DiscoveredServer) (drawn : Nat) : Manager :=
  let s := s.cancelReversePairing
  match addressRefusal server with
  | some message => s.emitErrorIfUserInitiated .userInitiated message
  | none =>
    let s := s.ensureConnection server
    let s := s.clearForUserAction server.id
    let s := s.onConn server.id (·.updateServer server)
    let s := s.armReverseAttempt server drawn
    match s.conn? server.id with
    | none => s
    | some p =>
      ({ s with pairingInFlight := insert server.id s.pairingInFlight } : Manager).send
        (.reversePair server.id p.ref server s.reverse.pin s.reverse.attempt)

def applyReverseAction (action : ReversePairingAction) (sharedKeyHex : String)
    (server : DiscoveredServer) : Manager :=
  match action with
  | .approve => s.adoptReverseGrant server sharedKeyHex
  | .decline => (s.emit (.error reverseDeclinedMsg)).finishReverse .declined
  | .timeOut => (s.emit (.error reverseTimedOutMsg)).finishReverse .timedOut
  | .keepPolling => s

/-- `onReverseStatusReply`: the poll slot is free again whether or not the reply is wanted. -/
def onReverseStatusReply (status : PairResponse) (pinMismatch : Bool)
    (server : DiscoveredServer) : Manager :=
  let s := { s with reverse := { s.reverse with pollInFlight := false } }
  if s.reverse.phase ≠ .awaitingApproval ∨ s.reverse.server.id ≠ server.id then s
  else if pinMismatch then (s.emit (.error identityChangedMsg)).finishReverse .identityChanged
  else
    let approval := classifyApproval status s.reverse.sawPending
    -- latched after classifying, so the first pending answer is classified as the first
    let s := { s with reverse := { s.reverse with
      sawPending := s.reverse.sawPending || status.status = some "pending" } }
    s.applyReverseAction
      (nextReversePairingAction approval s.reverse.elapsedMs s.reverse.deadlineMs)
      (status.sharedKey.getD "") server

/-- `pollReverseStatus`, on the poll timer. -/
def pollReverseStatus : Manager :=
  if !s.reverse.polling ∨ s.reverse.phase ≠ .awaitingApproval ∨ s.reverse.pollInFlight then s
  else
    let s := { s with reverse := { s.reverse with
      pollInFlight := true, elapsedMs := s.reverse.elapsedMs + kReversePollIntervalMs } }
    s.send (.pairStatus s.reverse.server s.reverse.attempt)

/-! ### Session replies -/

/-- `onGrantUnusable`: the grant is handed straight back. -/
def onGrantUnusable (id : SatelliteId) (server : DiscoveredServer) (intent : ConnectIntent)
    (connectionId : String) : Manager :=
  let s := s.onConn id WifiConnection.markDisconnected
  let s := s.releaseSession id server connectionId
  s.emitErrorIfUserInitiated intent linkFailedMsg

def onSessionVersionRefused (id : SatelliteId) (server : DiscoveredServer)
    (intent : ConnectIntent) (resp : SessionResponse) : Manager :=
  let negotiated := settleRejected resp.supportedProtocol resp.supportedProtocolMin
  if negotiated.1 = .retryLower then
    let s := s.onConn id (·.setOfferedProtocolVersion negotiated.2)
    let s := s.onConn id WifiConnection.markStale
    s.scheduleRetry server intent
  else
    let s := s.onConn id WifiConnection.markDisconnected
    s.emitErrorIfUserInitiated intent (versionMsgFor negotiated.1)

def onSessionRefused (id : SatelliteId) (server : DiscoveredServer) (intent : ConnectIntent)
    (verdict : RestVerdict) (resp : SessionResponse) : Manager :=
  match verdict with
  | .unauthorized => s.onTerminalAuthFailure id intent
  | .versionMismatch => s.onSessionVersionRefused id server intent resp
  | .identityChanged =>
    let s := s.onConn id WifiConnection.markDisconnected
    let s := { s with retryAttempts := Function.update s.retryAttempts id 0 }
    s.emitErrorIfUserInitiated intent identityChangedMsg
  | .ok | .shuttingDown | .unreachable | .serverError =>
    (s.park id intent (.error (unreachableMsgFor resp.failure))).scheduleRetry server intent

/-- `startSession`: the connection goes live with a new client. -/
def startSession (id : SatelliteId) (server : DiscoveredServer) (connectionId : String)
    (resp : SessionResponse) (material : Material) : Manager :=
  let client : SessionClient := { ref := s.clients, material := material }
  let failures := ((s.conn? id).map fun p => (p.conn.applyResults resp.controllers).2).getD []
  let s := { s with
    clients := s.clients + 1
    store := s.store.remember server
    retryAttempts := Function.update s.retryAttempts id 0
    connections := s.connections.modify id fun p =>
      { p with conn := p.conn.startSession client connectionId resp, startedWith := server } }
  let s := failures.foldl (fun s message => s.emit (.error message)) s
  s.probeHostAudio id server

/-- `sessionMaterialFrom`: there is none without a token of 4 bytes and a salt of 8, in hex. -/
def sessionMaterialFrom (resp : SessionResponse) (derived : BitVec 256) : Option Material :=
  match resp.token, resp.sessionSalt with
  | some token, some salt =>
    if isHexOf 4 token && isHexOf 8 salt then
      some { token := .ofNat 32 (IpLiterals.hexNumber token.toList), key := derived }
    else none
  | _, _ => none

def onSessionReply (id : SatelliteId) (sentOn : Nat) (server : DiscoveredServer)
    (intent : ConnectIntent) (sentSlots : List DesiredSlot) (resp : SessionResponse)
    (derived : BitVec 256) (socketOpened pinMismatch : Bool) : Manager :=
  match s.replyTarget id sentOn with
  | none => s
  | some p =>
    if p.conn.state ≠ .linking then s.handBackLateGrant id server resp
    else
      let verdict := classifyRest resp pinMismatch
      match resp.connectionId with
      | none => s.onSessionRefused id server intent verdict resp
      | some connectionId =>
        if verdict ≠ .ok ∨ resp.token = none ∨ resp.sessionSalt = none then
          s.onSessionRefused id server intent verdict resp
        else
          match sessionMaterialFrom resp derived with
          | none => s.onGrantUnusable id server intent connectionId
          | some material =>
            if !socketOpened then s.onGrantUnusable id server intent connectionId
            else
              (s.startSession id server connectionId resp material).convergeLateSlots id
                sentSlots

/-! ### Replies looked up by id -/

/-- The callback of the session GET. -/
def onView (id : SatelliteId) (server : DiscoveredServer) (view : SessionViewDto) : Manager :=
  let s := { s with reconcileInFlight := s.reconcileInFlight.erase id }
  match s.conn? id with
  | none => s
  | some p =>
    if p.conn.state ≠ .live then s
    else if view.unauthorized then s.onTerminalAuthFailure id .retryAfterDeath
    else if view.failed then s
    else if p.conn.viewIsBenign view then s.onConn id (·.adoptEpoch view.epoch)
    else
      let s := s.onConn id fun c => c.markDisconnected.markConnecting
      s.openSession id server .retryAfterDeath

def onRekeyReply (id : SatelliteId) (client : Nat) (resp : SessionResponse)
    (derived : BitVec 256) (pinMismatch : Bool) : Manager :=
  match s.conn? id with
  | none => s
  | some p =>
    let verdict := classifyRest resp pinMismatch
    if verdict = .unauthorized then s.onTerminalAuthFailure id .retryAfterDeath
    else
      match p.conn.client, sessionMaterialFrom resp derived with
      | some current, some material =>
        if p.conn.state = .live ∧ current.ref = client ∧ verdict = .ok then
          (s.onConn id (·.adoptRekey current material resp.epoch)).probeHostAudio id
            p.conn.server
        else s
      | _, _ => s

/-- The callback of `probeHostAudio`. -/
def onCapabilities (id : SatelliteId) (caps : CapabilitiesDto) : Manager :=
  if s.stateOf id ≠ some .live then s
  else if !caps.reachable || caps.httpStatus < 200 || 299 < caps.httpStatus then s
  else
    let verdict := resolveHostControllerAudio caps
    s.onConn id (·.setHostControllerAudio verdict.mic verdict.speaker verdict.hapticAudio)

/-- The callback of `syncSlot`. -/
def onSyncReply (id : SatelliteId) (server : DiscoveredServer) (resp : ControllerPutResponse) :
    Manager :=
  match s.conn? id with
  | none => s
  | some p =>
    if resp.unauthorized then s.onTerminalAuthFailure id .retryAfterDeath
    else
      match resp.controller with
      | none => s
      | some r =>
        let conn := p.conn.applyControllerPut resp r
        let failures := (p.conn.applyResults [r]).2
        let s := s.onConn id fun _ => conn
        let s := failures.foldl (fun s message => s.emit (.error message)) s
        if conn.wantsMouseControl ≠ conn.mouseControlGranted then s.reconcile id server else s

/-- The callback of `deleteSlot`. -/
def onDeleteReply (id : SatelliteId) (resp : ControllerPutResponse) : Manager :=
  s.onConn id (·.applyControllerDelete resp)

/-! ### Forgetting -/

/-- The self-unpair of `forget`, while there is a key for the proof.  The pin goes too, since
a satellite never remembered has no row to drop it through. -/
def selfUnpair (id : SatelliteId) : Manager :=
  match s.conn? id with
  | none => s
  | some p =>
    let s := if (s.credentialsFor id).isSome then s.send (.unpair id p.conn.server) else s
    { s with store := s.store.forgetPin p.conn.server.ip }

def forget (id : SatelliteId) : Manager :=
  -- an approval request still aimed at this satellite would re-create it, keyed
  let s := if s.reverse.server.id = id then s.cancelReversePairing else s
  let s := (s.selfUnpair id).disconnect id
  { s with
    store := s.store.forget id
    retryAttempts := Function.update s.retryAttempts id 0
    heldByUser := s.heldByUser.erase id
    reconcileInFlight := s.reconcileInFlight.erase id
    connections := s.connections.erase id }

/-! ### Requests and the step -/

/-- The callback of a request runs on an answer of its kind. -/
def onAnswer (pinMismatch : Bool) : HttpRequest → HttpAnswer → Manager
  | .pinPair id sentOn server _, .pair r =>
    s.onPinPairReply id sentOn server (.classify r pinMismatch)
  | .connectPair id sentOn server intent, .pair r =>
    s.onConnectPairReply id sentOn server intent (.classify r pinMismatch)
  | .reversePair id sentOn server pin _, .pair r =>
    s.onReversePairReply id sentOn server pin r pinMismatch
  | .pairStatus server _, .pair r => s.onReverseStatusReply r pinMismatch server
  | .session id sentOn server intent _ body, .session r derived socketOpened =>
    s.onSessionReply id sentOn server intent (descriptorsToDesired body.descriptors) r derived
      socketOpened pinMismatch
  | .rekey id client _ _ _, .session r derived _ => s.onRekeyReply id client r derived pinMismatch
  | .reconcile id server _, .view v => s.onView id server v
  | .capabilities id _, .capabilities caps => s.onCapabilities id caps
  | .syncSlot id server _ _, .controller r => s.onSyncReply id server r
  | .deleteSlot id _ _ _, .controller r => s.onDeleteReply id r
  | _, _ => s

end Manager

/-- The answer is of the kind the request's callback takes. -/
def HttpRequest.takes : HttpRequest → HttpAnswer → Bool
  | .pinPair .., .pair _ | .connectPair .., .pair _ | .reversePair .., .pair _
  | .pairStatus .., .pair _ | .session .., .session .. | .rekey .., .session ..
  | .reconcile .., .view _ | .capabilities .., .capabilities _ | .syncSlot .., .controller _
  | .deleteSlot .., .controller _ | .deleteSession .., .done | .unpair .., .done => true
  | _, _ => false

/-- What the callback is called with when no answer came. -/
def HttpRequest.noAnswer (failure : TransportFailure) : HttpRequest → HttpAnswer
  | .pinPair .. | .connectPair .. | .reversePair .. | .pairStatus .. =>
    .pair { error := some "connect failed" }
  | .session .. | .rekey .. => .session { failure := failure } 0 false
  | .reconcile .. => .view {}
  | .capabilities .. => .capabilities {}
  | .syncSlot .. | .deleteSlot .. => .controller {}
  | .deleteSession .. | .unpair .. => .done

namespace Manager

variable (s : Manager)

def mapClient (id : SatelliteId) (f : SessionClient → SessionClient) : Manager :=
  s.onConn id fun c => { c with client := c.client.map f }

/-- The certificate check of the `k`th request, which its handshake runs once. -/
def handshake (k : Nat) (presented : Option String) : Manager :=
  match s.net[k]? with
  | some ⟨serial, request, none⟩ =>
    let host := request.server.ip
    let (store, check) :=
      verifyPeerCertificate host s.store presented (s.pinGuardsAPairingAt host)
    { s with store := store, net := s.net.set k ⟨serial, request, some check⟩ }
  | _ => s

def step : ManagerAction → Manager
  | .connectTo server => s.connectTo server .userInitiated
  | .pairWithPin server pin => s.pairWithPin server pin
  | .requestReversePairing server drawn => s.requestReversePairing server drawn
  | .cancelReversePairing => s.cancelReversePairing
  | .disconnect id => s.disconnect id
  | .disconnectByUser id => s.disconnectByUser id
  | .forget id => s.forget id
  | .markStale id => s.markStale id
  | .startDiscovery => s.startDiscovery
  | .scanFinished discovered => s.scanFinished discovered
  | .autoReconnectAll => s.autoReconnectAll
  | .prepareForSleep => s.prepareForSleep
  | .resumeFromSleep => s.resumeFromSleep
  | .retryDue k =>
    match s.retries[k]? with
    | some retry => ({ s with retries := s.retries.eraseIdx k } : Manager).onRetryDue retry
    | none => s
  | .reverseTimer => s.pollReverseStatus
  | .aliveTick id => s.aliveTick id
  | .attachSlot id slotId shape =>
    let signal := (s.conn? id).bind fun p => (p.conn.attachSlot slotId shape).2
    (s.onConn id fun c => (c.attachSlot slotId shape).1).onSignal id signal
  | .detachSlot id slotId =>
    let signal := (s.conn? id).bind fun p => (p.conn.detachSlot slotId).2
    (s.onConn id fun c => (c.detachSlot slotId).1).onSignal id signal
  | .ack id epoch bitmap =>
    s.mapClient id fun c =>
      { c with missedAcks := 0, alive := true, serverEpoch := epoch, serverBitmap := bitmap }
  | .miss id =>
    s.mapClient id fun c =>
      { c with
        missedAcks := c.missedAcks + 1
        alive := c.alive && decide (c.missedAcks + 1 < kHeartbeatMissMax) }
  | .count id sendCounter => s.mapClient id fun c => { c with sendCounter := sendCounter }
  | .closeNotice id reason => s.mapClient id fun c => { c with sessionCloseReason := reason }
  | .handshake k presented => s.handshake k presented
  | .reply k answer =>
    match s.net[k]? with
    | some ⟨_, request, some .accepted⟩ =>
      if request.takes answer then
        ({ s with net := s.net.eraseIdx k } : Manager).onAnswer false request answer
      else s
    | _ => s
  | .fail k failure =>
    match s.net[k]? with
    | some ⟨_, request, check⟩ =>
      ({ s with net := s.net.eraseIdx k } : Manager).onAnswer
        (check = some (.refused true)) request (request.noAnswer failure)
    | none => s

end Manager

end Dish
