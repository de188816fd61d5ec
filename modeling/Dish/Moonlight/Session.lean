/-
One Moonlight session: the coordinator between the lifecycle machine, the network and the pads.

The machine asks for effects; the session turns them into requests, threads what the replies bring
between them and keeps the tables of its pads.  A reply reaches the session parsed: what the XML
and RTSP readers make of a body is its content here.  Everything the session sends or raises is
appended to `out`, in order, and whoever calls it takes that log.  What a step may ask of the
outside (random bytes, whether the control stream starts) is given with the step as a `World`.

Not modelled, because nothing here reads it: the RTSP request texts with their sequence numbers,
the media ports and the hole-punch pings.
-/
import Mathlib.Data.BitVec
import Dish.Core.MoonlightSessionMachine
import Dish.Core.MoonlightTelemetry
import Dish.Repository.MoonlightHosts

namespace Dish.Moonlight

/-- The key of the control stream, sixteen bytes. -/
abbrev Rikey : Type := BitVec 128

/-- What the outside gives in one step, if it is asked. -/
structure World where
  rikey : Option Rikey := none
  rikeyId : Option UInt32 := none
  controlStarts : Bool := true
  deriving Repr, DecidableEq

inductive MoonlightLinkState where
  | idle
  | linking
  | live
  | failed
  deriving Repr, DecidableEq

def failureToken : SessionFailure → String
  | .unreachable => "unreachable"
  | .notPaired => "notPaired"
  | .trustLost => "trustLost"
  | .hostReplaced => "hostReplaced"
  | .launchRejected => "launchRejected"
  | .appAlreadyRunning => "appAlreadyRunning"
  | .resumeFailed => "resumeFailed"
  | .rtspRejected => "rtspRejected"
  | .controlLost => "controlLost"
  | .dropped => "dropped"
  | .hostEnded => "hostEnded"

/-! ### Requests and replies -/

/-- Where a request goes.  The certificate is the one a TLS call is pinned to. -/
structure Endpoint where
  address : String
  port : Int
  serverCertPem : Option String := none
  deriving Repr, DecidableEq

/-- What a launch carries.  A resume names no app: that belongs to the session the host holds. -/
structure LaunchRequest where
  resuming : Bool
  appId : Option String
  rikey : Rikey
  rikeyId : UInt32
  deriving Repr, DecidableEq

inductive SessionCall where
  | serverInfo
  | trust
  | launch (request : LaunchRequest)
  | cancel
  deriving Repr, DecidableEq

structure SessionRequest where
  call : SessionCall
  endpoint : Endpoint
  deriving Repr, DecidableEq

/-- `/serverinfo` as it parses, the fields that are read. -/
structure ServerInfo where
  uuid : String := ""
  pairStatus : Int := 0
  currentGame : Int := 0
  deriving Repr, DecidableEq

/-- A reply to `/serverinfo`: the transport's status, and the body where it parses. -/
structure ServerInfoReply where
  status : Int := 200
  info : Option ServerInfo := none
  deriving Repr, DecidableEq

/-- The result a reply carries on its root element. -/
structure Status where
  code : Int := 200
  message : String := ""
  resume : Bool := false
  deriving Repr, DecidableEq

def Status.ok (status : Status) : Bool := 200 ≤ status.code ∧ status.code ≤ 299

def containsNoCase (text part : String) : Bool :=
  (text.toList.map Char.toLower).tails.any (part.toList.isPrefixOf ·)

def Status.appAlreadyRunning (status : Status) : Bool :=
  !status.ok && containsNoCase status.message "already running"

structure LaunchResult where
  rtspPort : Int := 0
  launched : Bool := false
  deriving Repr, DecidableEq

structure LaunchReply where
  status : Int := 200
  root : Option Status := none
  launch : Option LaunchResult := none
  deriving Repr, DecidableEq

/-- The reply is a session handed over. -/
def LaunchReply.accepted (reply : LaunchReply) : Option LaunchResult :=
  if reply.status = 200 then reply.launch.filter (·.launched) else none

structure RtspResponse where
  ok : Bool := true
  transportPort : Option Int := none
  connectData : Option UInt32 := none
  deriving Repr, DecidableEq

/-! ### What the session sends and raises -/

/-- A packet of the control stream. -/
inductive Packet where
  | arrival (number : PadNumber) (type capabilities : UInt8) (buttons : UInt32)
  | multi (number : PadNumber) (mask : UInt16) (buttons : UInt32) (lt rt : UInt8)
      (lx ly rx ry : Int16)
  | replug (number : PadNumber) (otherPads : UInt16) (type capabilities : UInt8)
      (buttons : UInt32)
  | motion (number : PadNumber) (motionType : UInt8) (x y z : Rat)
  | battery (number : PadNumber) (state percentage : UInt8)
  | touch (number : PadNumber) (event : TouchEvent)
  deriving Repr, DecidableEq

inductive Out where
  | request (request : SessionRequest)
  | rtspOpen (address : String) (port : Int)
  | rtspRequest (step : RtspStep)
  | controlStart (address : String) (port : Int) (connectData : UInt32) (rikey : Rikey)
  | controlStop (termination : Bool)
  | packet (packet : Packet)
  | rumble (number : UInt8) (strong weak : UInt16)
  | led (number : UInt8) (r g b : UInt8)
  | linkStateChanged
  | failed (token : String)
  deriving Repr, DecidableEq

/-! ### The session -/

/-- What an attached pad declares. -/
structure PadDeclaration where
  number : PadNumber
  type : UInt8 := kControllerTypeXbox
  capabilities : UInt8 := 0
  buttons : UInt32 := kStandardButtons
  deriving Repr, DecidableEq

/-- The last frame a pad sent, which a click edge replays. -/
structure LastReport where
  internalButtons : UInt16 := 0
  lt : UInt8 := 0
  rt : UInt8 := 0
  lx : Int16 := 0
  ly : Int16 := 0
  rx : Int16 := 0
  ry : Int16 := 0
  deriving Repr, DecidableEq

structure PadTouch where
  lastFrame : TouchDiffer := {}
  reaches : Bool := true
  deriving Repr, DecidableEq

structure Session where
  host : MoonlightHost
  machine : SessionState := {}
  linkState : MoonlightLinkState := .idle
  appId : String := ""
  appName : String := ""
  everStarted : Bool := false
  refusalMessage : String := ""
  handBackOnTeardown : Bool := false
  -- The key of the attempt, and what the launch left behind.
  rikey : Rikey := 0
  rikeyReady : Bool := false
  rikeyId : UInt32 := 0
  launched : Bool := false
  wentLive : Bool := false
  rtspHostAddress : String := ""
  rtspPort : Int := 0
  controlPort : Int := 0
  controlConnectData : UInt32 := 0
  -- Whether the control stream is connected.
  connected : Bool := false
  -- The pads riding the session, and what is remembered under each number.
  slots : PadSlots := .empty
  pads : List (String × PadDeclaration) := []
  activeMask : UInt16 := 0
  motionOff : PadNumber → Bool := fun _ => false
  touch : PadNumber → PadTouch := fun _ => {}
  clickHeld : PadNumber → Bool := fun _ => false
  lastReport : PadNumber → LastReport := fun _ => {}
  motionGate : MotionGate := {}
  rumbleMix : Nat → RumbleMix := fun _ => {}
  out : List Out := []

namespace Session

def emit (s : Session) (o : Out) : Session := { s with out := s.out ++ [o] }

def send (s : Session) (packet : Packet) : Session := s.emit (.packet packet)

def get (s : Session) (call : SessionCall) (endpoint : Endpoint) : Session :=
  s.emit (.request { call := call, endpoint := endpoint })

/-- The plain port of the host, as the session's own copy of the record has it. -/
def plainEndpoint (s : Session) : Endpoint :=
  { address := s.host.address, port := s.host.httpPort }

def tlsEndpoint (s : Session) : Endpoint :=
  { address := s.host.address, port := s.host.httpsPort,
    serverCertPem := some s.host.serverCertPem }

def setLinkState (s : Session) (state : MoonlightLinkState) : Session :=
  if s.linkState = state then s else { s with linkState := state }.emit .linkStateChanged

def linkStateFor : SessionPhase → MoonlightLinkState
  | .idle => .idle
  | .streaming => .live
  | .failed => .failed
  | _ => .linking

/-! ### The tables of the pads -/

/-- The new click state when a frame changed it. -/
def flipClick (s : Session) (number : PadNumber) (clickHeld : Bool) : Option Bool × Session :=
  let edge := if s.clickHeld number = clickHeld then none else some clickHeld
  (edge, { s with clickHeld := Function.update s.clickHeld number clickHeld })

def forgetTouchFrame (s : Session) (number : PadNumber) : Session :=
  let s := (s.flipClick number false).2
  { s with touch := Function.update s.touch number { s.touch number with lastFrame := {} } }

/-- The packet of a pad at rest, with the mask of those present. -/
def restingMulti (number : PadNumber) (mask : UInt16) : Packet :=
  .multi number mask 0 0 0 0 0 0 0

def announce (s : Session) (pad : PadDeclaration) : Session :=
  (s.send (.arrival pad.number pad.type pad.capabilities pad.buttons)).send
    (restingMulti pad.number s.activeMask)

/-! ### Effects -/

def fetchServerInfo (s : Session) : Session := s.get .serverInfo s.plainEndpoint

def askTrust (s : Session) : Session := s.get .trust s.tlsEndpoint

def cancelStrandedApp (s : Session) : Session := s.get .cancel s.tlsEndpoint

/-- One key for an attempt.  False only when there is no entropy. -/
def ensureRikey (w : World) (s : Session) : Bool × Session :=
  if s.rikeyReady then (true, s)
  else match w.rikey with
    | none => (false, s)
    | some key =>
      let s := { s with rikey := key }
      match w.rikeyId with
      | none => (false, s)
      | some id => (true, { s with rikeyId := id, rikeyReady := true })

def launchRequest (s : Session) : LaunchRequest :=
  { resuming := s.machine.resuming
    appId := if s.machine.resuming then none else some s.appId
    rikey := s.rikey
    rikeyId := s.rikeyId }

def teardown (s : Session) : Session :=
  let s := if shouldHandBackApp s.launched s.wentLive s.handBackOnTeardown then
    s.cancelStrandedApp else s
  { s with
    launched := false
    wentLive := false
    connected := false
    controlPort := 0
    controlConnectData := 0
    motionGate := {}
    rumbleMix := fun _ => {} }.emit (.controlStop false)

def notifyFailure (s : Session) : Session :=
  match s.machine.failure with
  | none => s
  | some failure => s.emit (.failed (failureToken failure))

/-- Every attached pad is announced: the host builds one controller for each. -/
def startStreaming (s : Session) : Session :=
  s.pads.foldl (fun s pad => (s.forgetTouchFrame pad.2.number).announce pad.2)
    { s with wentLive := true }

/-- The control stream is asked to start, under the key of the attempt. -/
def startControl (s : Session) : Session :=
  { s with connected := false }.emit
    (.controlStart s.host.address s.controlPort s.controlConnectData s.rikey)

/-- One effect of the machine.  Two of them can find that nothing can be sent, and tell the
machine so at once. -/
def runEffect (w : World) (dispatch : Session → SessionEvent → Session) (s : Session)
    (effect : SessionEffect) : Session :=
  match effect with
  | .fetchServerInfo => s.fetchServerInfo
  | .sendLaunch =>
    let (ready, s) := s.ensureRikey w
    if ready then s.get (.launch s.launchRequest) s.tlsEndpoint else dispatch s .launchFailed
  | .openRtsp => s.emit (.rtspOpen s.rtspHostAddress s.rtspPort)
  | .sendRtspOptions => s.emit (.rtspRequest .options)
  | .sendRtspDescribe => s.emit (.rtspRequest .describe)
  | .sendRtspSetupAudio => s.emit (.rtspRequest .setupAudio)
  | .sendRtspSetupVideo => s.emit (.rtspRequest .setupVideo)
  | .sendRtspSetupControl => s.emit (.rtspRequest .setupControl)
  | .sendRtspAnnounce => s.emit (.rtspRequest .announce)
  | .sendRtspPlay => s.emit (.rtspRequest .play)
  | .connectControl =>
    if s.controlPort ≤ 0 then dispatch s .controlLost
    else if w.controlStarts then s.startControl
    else dispatch s.startControl .controlLost
  | .startStreaming => s.startStreaming
  | .sendTermination => { s with connected := false }.emit (.controlStop true)
  | .teardown => s.teardown
  | .notifyFailure => s.notifyFailure

/-- The machine moves first, and its effects run in the state it moved to. -/
def run (w : World) (dispatch : Session → SessionEvent → Session) (s : Session)
    (reduction : Reduction) : Session :=
  let s := match reduction.next with
    | none => s
    | some next => { s with machine := next }.setLinkState (linkStateFor next.phase)
  reduction.effects.foldl (runEffect w dispatch) s

/-- An event, with the events its effects raise nested to a depth.  A nested one is a refusal,
whose effects raise none, so depth two is all there is. -/
def dispatchWithin (w : World) : Nat → Session → SessionEvent → Session
  | 0, s, _ => s
  | depth + 1, s, event => s.run w (dispatchWithin w depth) (reduce s.machine event)

def dispatch (w : World) (s : Session) (event : SessionEvent) : Session :=
  dispatchWithin w 2 s event

/-! ### Calls -/

def start (w : World) (s : Session) (appId appName : String) : Session :=
  { s with
    appId := appId
    appName := appName
    rikeyReady := false
    launched := false
    wentLive := false
    everStarted := true
    refusalMessage := "" }.dispatch w .startRequested

def stop (w : World) (s : Session) (handBackApp : Bool) : Session :=
  let s := { s with handBackOnTeardown := handBackApp }.dispatch w .stopRequested
  { s with handBackOnTeardown := false }

def declarationFor (number : PadNumber) (storedType : Int) (source : SourceCapabilities) :
    PadDeclaration :=
  let arrival := arrivalForBinding storedType source
  { number := number
    type := arrival.type
    capabilities := arrival.capabilities
    buttons := declaredButtons arrival.capabilities }

def padFor (s : Session) (slotId : String) : Option PadDeclaration :=
  (s.pads.find? (·.1 = slotId)).map (·.2)

def announcePad (s : Session) (slotId : String) : Session :=
  if !s.connected then s
  else match s.padFor slotId with
    | none => s
    | some pad => s.announce pad

/-- The list with the slot's declaration set. -/
def setPad (pads : List (String × PadDeclaration)) (slotId : String) (pad : PadDeclaration) :
    List (String × PadDeclaration) :=
  pads.filter (·.1 ≠ slotId) ++ [(slotId, pad)]

def attachController (s : Session) (slotId : String) (storedType : Int)
    (source : SourceCapabilities) : Option PadNumber × Session :=
  match s.slots.assign slotId with
  | none => (none, s)
  | some (number, slots) =>
    let s := { s with
      slots := slots
      pads := setPad s.pads slotId (declarationFor number storedType source) }
    let s := s.forgetTouchFrame number
    let s := { s with activeMask := slots.activeMask }
    (some number, s.announcePad slotId)

/-- The pad leaves, and how many are left is what tells the caller to stop the session. -/
def detachController (s : Session) (slotId : String) : Nat × Session :=
  let (released, slots) := s.slots.release slotId
  let s := { s with slots := slots, pads := s.pads.filter (·.1 ≠ slotId) }
  let s := match released with
    | none => s
    | some number => s.forgetTouchFrame number
  let s := { s with activeMask := slots.activeMask }
  let s := match released with
    | none => s
    | some number => if s.connected then s.send (restingMulti number s.activeMask) else s
  (slots.size, s)

/-- A link that is not up has nothing to unplug. -/
def replugPad (s : Session) (pad : PadDeclaration) : Session :=
  if !s.connected then s
  else
    let otherPads := s.activeMask &&& ~~~(1 <<< UInt16.ofNat pad.number.val)
    (s.send (.replug pad.number otherPads pad.type pad.capabilities pad.buttons)).send
      (restingMulti pad.number s.activeMask)

def reannounceController (s : Session) (slotId : String) (storedType : Int)
    (source : SourceCapabilities) : Option PadNumber × Session :=
  match s.padFor slotId with
  | none => (none, s)
  | some held =>
    let wanted := declarationFor held.number storedType source
    if !hostBuildsAnotherPad { type := held.type, capabilities := held.capabilities }
        { type := wanted.type, capabilities := wanted.capabilities } then (some wanted.number, s)
    else
      let s := { s with
        pads := s.pads.map fun (slot, pad) => (slot, if slot = slotId then wanted else pad)
        motionGate := s.motionGate.clear wanted.number.val }
      let s := s.forgetTouchFrame wanted.number
      (some wanted.number, s.replugPad wanted)

/-! ### Replies -/

def onServerInfoReply (w : World) (s : Session) (reply : ServerInfoReply) : Session :=
  if reply.status ≠ 200 then s.dispatch w .serverInfoFailed
  else match reply.info with
    | none => s.dispatch w .serverInfoFailed
    | some info =>
      if hostIdentityChanged s.host.uuid info.uuid then
        s.dispatch w (.serverInfoOk { remembered := s.host.paired, identityChanged := true })
      else if !s.host.paired then s.dispatch w (.serverInfoOk {})
      else s.askTrust

def onTrustReply (w : World) (s : Session) (reply : ServerInfoReply) : Session :=
  match (if reply.status = 200 then reply.info else none) with
  | none => s.dispatch w (.serverInfoOk { remembered := true })
  | some info =>
    s.dispatch w (.serverInfoOk
      { remembered := true, paired := info.pairStatus == 1, currentGame := info.currentGame })

def onLaunchAccepted (w : World) (s : Session) (launch : LaunchResult) : Session :=
  -- The launch that was walked away from came good: its app is handed straight back.
  if s.machine.phase ≠ .launching then s.cancelStrandedApp
  else
    { s with rtspPort := launch.rtspPort, rtspHostAddress := s.host.address, launched := true
      }.dispatch w .launchOk

def onLaunchRefused (w : World) (s : Session) (refusal : Option Status) : Session :=
  match refusal with
  | some status =>
    if status.appAlreadyRunning then s.dispatch w (.launchBusy status.resume)
    else
      { s with refusalMessage :=
          if status.message ≠ "" then status.message else toString status.code
        }.dispatch w .launchFailed
  | none => s.dispatch w .launchFailed

def onLaunchReply (w : World) (s : Session) (reply : LaunchReply) : Session :=
  match reply.accepted with
  | some launch => s.onLaunchAccepted w launch
  | none => s.onLaunchRefused w reply.root

def onRtspReply (w : World) (s : Session) (step : RtspStep) (response : Option RtspResponse) :
    Session :=
  match response with
  | none => s.dispatch w .rtspFailed
  | some response =>
    if !response.ok then s.dispatch w .rtspFailed
    else
      let s := if step = .setupControl then
        { s with
          controlPort := response.transportPort.getD 0
          controlConnectData := response.connectData.getD 0 }
        else s
      s.dispatch w .rtspStepOk

/-! ### Pad input and host events -/

def sendControllerState (s : Session) (controllerNumber : Nat) (report : LastReport) : Session :=
  if h : controllerNumber < kMaxPads then
    let number : PadNumber := ⟨controllerNumber, h⟩
    let s := { s with lastReport := Function.update s.lastReport number report }
    s.send (.multi number s.activeMask
      (toMoonlightButtons report.internalButtons ||| touchpadClick (s.clickHeld number))
      report.lt report.rt report.lx report.ly report.rx report.ry)
  else s

def replayWithClick (s : Session) (number : PadNumber) (clickHeld : Bool) : Session :=
  let last := s.lastReport number
  s.send (.multi number s.activeMask
    (toMoonlightButtons last.internalButtons ||| touchpadClick clickHeld)
    last.lt last.rt last.lx last.ly last.rx last.ry)

def sendMotion (s : Session) (number : PadNumber) (motionType : UInt8) (x y z : Rat)
    (nowUs : Int) : Session :=
  if s.motionOff number then s
  else
    let (due, gate) := s.motionGate.shouldSend
      { controllerNumber := number.val, motionType := motionType.toNat } nowUs
    let s := { s with motionGate := gate }
    if due then s.send (.motion number motionType x y z) else s

def setMotionAllowed (s : Session) (number : PadNumber) (allowed : Bool) : Session :=
  { s with motionOff := Function.update s.motionOff number !allowed }

def sendBattery (s : Session) (number : PadNumber) (state percentage : UInt8) : Session :=
  s.send (.battery number state percentage)

/-- A pad whose touches do not reach the host is compared with nothing touching. -/
def sendTouchFrame (s : Session) (controllerNumber : Nat) (finger0 finger1 : TouchFinger)
    (buttonPressed : Bool) : Session :=
  if h : controllerNumber < kMaxPads then
    let number : PadNumber := ⟨controllerNumber, h⟩
    let pad := s.touch number
    let (events, lastFrame) :=
      if pad.reaches then pad.lastFrame.diff finger0 finger1 else pad.lastFrame.diff {} {}
    let s := { s with
      touch := Function.update s.touch number { pad with lastFrame := lastFrame } }
    let (edge, s) := s.flipClick number (buttonPressed && pad.reaches)
    -- The click first: it is a button in the pad frame.
    let s := match edge with
      | none => s
      | some held => s.replayWithClick number held
    events.foldl (fun s event => s.send (.touch number event)) s
  else s

def setTouchReaches (s : Session) (number : PadNumber) (reaches : Bool) : Session :=
  { s with touch := Function.update s.touch number { s.touch number with reaches := reaches } }

/-- What the host sends on the control stream.  A termination is raised on the other thread and
comes back as a call of its own. -/
inductive HostEvent where
  | rumble (controllerNumber low high : UInt16)
  | rumbleTriggers (controllerNumber left right : UInt16)
  | motionRequest (controllerNumber motionRateHz : UInt16) (motionType : UInt8)
  | rgbLed (controllerNumber : UInt16) (r g b : UInt8)
  | termination
  | unknown
  deriving Repr, DecidableEq

def applyRumble (s : Session) (controllerNumber : UInt16) (mix : RumbleMix) : Session :=
  let mixed := mixRumble mix
  { s with rumbleMix := Function.update s.rumbleMix controllerNumber.toNat mix }.emit
    (.rumble controllerNumber.toUInt8 mixed.strong mixed.weak)

def onHostEvent (s : Session) (event : HostEvent) : Session :=
  match event with
  | .rumble n low high => s.applyRumble n (withBodyRumble (s.rumbleMix n.toNat) low high)
  | .rumbleTriggers n left right =>
    s.applyRumble n (withTriggerRumble (s.rumbleMix n.toNat) left right)
  | .rgbLed n r g b => s.emit (.led n.toUInt8 r g b)
  | .motionRequest n rate motionType =>
    let key : MotionKey := { controllerNumber := n.toNat, motionType := motionType.toNat }
    { s with motionGate := s.motionGate.onMotionRequest key rate.toNat }
  | .termination => s
  | .unknown => s

end Session

/-! ### The session as the outside drives it -/

/-- A reply of the gateway, to whichever request it was. -/
inductive SessionReply where
  | serverInfo (reply : ServerInfoReply)
  | launch (reply : LaunchReply)
  deriving Repr, DecidableEq

/-- The calls of the manager, the pads and the RTSP and control streams.  `controlUp` and
`controlDown` are the stream's own; what the session is told of them comes later, on its own
thread, as `controlLinkChanged`. -/
inductive SessionInput where
  | start (appId appName : String)
  | stop (handBackApp : Bool)
  | attach (slotId : String) (storedType : Int) (source : SourceCapabilities)
  | detach (slotId : String)
  | reannounce (slotId : String) (storedType : Int) (source : SourceCapabilities)
  | rtspReady
  | rtspReply (step : RtspStep) (response : Option RtspResponse)
  | rtspError
  | controlUp
  | controlDown
  | controlLinkChanged (up : Bool)
  | hostTerminated
  | hostEvent (event : Session.HostEvent)
  | controllerState (controllerNumber : Nat) (report : LastReport)
  | motion (number : PadNumber) (motionType : UInt8) (x y z : Rat) (nowUs : Int)
  | motionAllowed (number : PadNumber) (allowed : Bool)
  | battery (number : PadNumber) (state percentage : UInt8)
  | touchFrame (controllerNumber : Nat) (finger0 finger1 : TouchFinger) (buttonPressed : Bool)
  | touchReaches (number : PadNumber) (reaches : Bool)
  deriving Repr, DecidableEq

namespace Session

/-- A reply, by the request it answers.  A cancel's is only logged. -/
def onReply (w : World) (s : Session) (call : SessionCall) (reply : SessionReply) : Session :=
  match call, reply with
  | .serverInfo, .serverInfo reply => s.onServerInfoReply w reply
  | .trust, .serverInfo reply => s.onTrustReply w reply
  | .launch _, .launch reply => s.onLaunchReply w reply
  | _, _ => s

def onInput (w : World) (s : Session) (input : SessionInput) : Session :=
  match input with
  | .start appId appName => s.start w appId appName
  | .stop handBackApp => s.stop w handBackApp
  | .attach slotId storedType source => (s.attachController slotId storedType source).2
  | .detach slotId => (s.detachController slotId).2
  | .reannounce slotId storedType source => (s.reannounceController slotId storedType source).2
  | .rtspReady => s.dispatch w .rtspReady
  | .rtspReply step response => s.onRtspReply w step response
  | .rtspError => s.dispatch w .rtspFailed
  | .controlUp => { s with connected := true }
  | .controlDown => { s with connected := false }
  | .controlLinkChanged up => s.dispatch w (if up then .controlConnected else .controlLost)
  | .hostTerminated => s.dispatch w .hostTerminated
  | .hostEvent event => s.onHostEvent event
  | .controllerState n report => s.sendControllerState n report
  | .motion number motionType x y z nowUs => s.sendMotion number motionType x y z nowUs
  | .motionAllowed number allowed => s.setMotionAllowed number allowed
  | .battery number state percentage => s.sendBattery number state percentage
  | .touchFrame n finger0 finger1 pressed => s.sendTouchFrame n finger0 finger1 pressed
  | .touchReaches number reaches => s.setTouchReaches number reaches

end Session

end Dish.Moonlight
