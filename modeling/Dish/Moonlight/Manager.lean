/-
The manager of the Moonlight hosts: records, pairing, probes, bindings and sessions.

There is one session for each host, made by the first binding on it once it is paired and kept
until the host is forgotten.  The gateway answers the requests of everyone, in any order, so each
request in flight stands here with what its reply will be handled with: the epoch of the host, the
attempt of the pairing, or the session it was made for.  A session that was forgotten is stopped
after the records are gone, and deleted some time after that.  The signals for the user interface
are left out, except that a call may come between a forget and the stop of its session, which is
where the first of them is raised.
-/
import Dish.Moonlight.PairingFlow
import Dish.Moonlight.Session

namespace Dish.Moonlight

structure HostProbe where
  inFlight : Bool := false
  answered : Bool := false
  paired : Bool := false
  identityChanged : Bool := false
  trustRejected : Bool := false
  deriving Repr, DecidableEq

structure MoonlightApp where
  id : String
  title : String
  deriving Repr, DecidableEq

structure AppCache where
  inFlight : Bool := false
  read : Bool := false
  failed : Bool := false
  apps : List MoonlightApp := []
  deriving Repr, DecidableEq

/-- A host found by a sweep or typed in: what of its row is read again. -/
structure Found where
  name : String
  address : String
  deriving Repr, DecidableEq

/-- The rows found or typed in, each under the placeholder of its address. -/
structure DiscoveredRows where
  rows : String → Option Found := fun _ => none
  keyed : ∀ key found, rows key = some found → key = placeholderUuidFor found.address := by simp

namespace DiscoveredRows

def insert (d : DiscoveredRows) (found : Found) : DiscoveredRows where
  rows := Function.update d.rows (placeholderUuidFor found.address) (some found)
  keyed := by
    intro key row h
    rw [Function.update_apply] at h
    split at h
    · rename_i same
      cases h
      exact same
    · exact d.keyed key row h

def remove (d : DiscoveredRows) (key : String) : DiscoveredRows where
  rows := Function.update d.rows key none
  keyed := by
    intro other row h
    rw [Function.update_apply] at h
    split at h
    · cases h
    · exact d.keyed other row h

end DiscoveredRows

structure ProbeTarget where
  address : String := ""
  httpPort : Int := 47989
  httpsPort : Int := 47984
  rememberedUuid : String := ""
  remembered : Bool := false
  serverCertPem : String := ""
  deriving Repr, DecidableEq

/-- A request in flight, by what its reply is handled with. -/
inductive Callback where
  | plainProbe (uuid : String) (target : ProbeTarget) (epoch : Nat)
  | tlsProbe (uuid : String) (epoch : Nat)
  | appList (uuid : String) (epoch : Nat)
  | pair (phase : PairPhase) (attempt : Nat)
  | session (id : Nat) (call : SessionCall)
  | hostCancel (uuid : String)
  deriving Repr, DecidableEq

inductive GatewayReply where
  | serverInfo (reply : ServerInfoReply)
  | launch (reply : LaunchReply)
  | appList (status : Int) (root : Option Status) (apps : List MoonlightApp)
  | pair (reply : PairReply)
  | cancel
  deriving Repr, DecidableEq

/-! ### Bindings -/

/-- The live bindings, from a slot to the host it drives. -/
structure Bindings where
  entries : List (String × String) := []
  slotsOnce : (entries.map (·.1)).Nodup := by decide
  deriving DecidableEq

namespace Bindings

def value (b : Bindings) (slotId : String) : Option String :=
  (b.entries.find? (·.1 = slotId)).map (·.2)

def remove (b : Bindings) (slotId : String) : Bindings where
  entries := b.entries.filter (·.1 ≠ slotId)
  slotsOnce := b.slotsOnce.sublist (List.filter_sublist.map _)

def insert (b : Bindings) (slotId uuid : String) : Bindings where
  entries := (b.remove slotId).entries ++ [(slotId, uuid)]
  slotsOnce := by
    rw [List.map_append, List.nodup_append]
    refine ⟨(b.remove slotId).slotsOnce, by simp, ?_⟩
    intro a ha c hc same
    rw [same, List.mem_singleton.mp hc] at ha
    simp [remove] at ha

/-- The slots that drive the host. -/
def slotsOf (b : Bindings) (uuid : String) : List String :=
  (b.entries.filter (·.2 = uuid)).map (·.1)

end Bindings

/-! ### The manager -/

/-- What the outside gives in one step, if it is asked. -/
structure Outside where
  world : World := {}
  identity : Bool := true
  entropy : Bool := true
  motionSwitch : String → Bool := fun _ => true
  touchpadPick : String → Option String := fun _ => none

structure Manager where
  repo : MoonlightHostRepository := {}
  identityReady : Bool := false
  flow : PairingFlow := {}
  discovered : DiscoveredRows := {}
  -- The session of each host, and the session objects there are.
  sessions : String → Option Nat := fun _ => none
  objects : Nat → Option Session := fun _ => none
  nextSession : Nat := 0
  -- Sessions a forget has taken out: still to be stopped, and stopped but not yet deleted.
  leaving : List Nat := []
  dying : List Nat := []
  probes : String → Option HostProbe := fun _ => none
  appCache : String → Option AppCache := fun _ => none
  pairingRefusedUuid : String := ""
  pairingRefusedReason : String := ""
  epochs : String → Nat := fun _ => 0
  bindings : Bindings := {}
  -- The gateway: what is in flight, each under a number of its own.
  pending : List (Nat × Callback) := []
  nextTicket : Nat := 0
  -- What the sessions sent and raised in the last step.
  out : List (Nat × Out) := []

namespace Manager

/-- A manager with nothing on file. -/
def initial : Manager := {}

def kDefaultAppId : String := "1"

def ask (m : Manager) (callback : Callback) : Manager :=
  { m with
    pending := m.pending ++ [(m.nextTicket, callback)]
    nextTicket := m.nextTicket + 1 }

/-- The probe record of the host, made if there is none, with the change applied. -/
def setProbe (m : Manager) (uuid : String) (change : HostProbe → HostProbe) : Manager :=
  { m with probes := Function.update m.probes uuid (some (change ((m.probes uuid).getD {}))) }

def setApps (m : Manager) (uuid : String) (change : AppCache → AppCache) : Manager :=
  { m with
    appCache := Function.update m.appCache uuid (some (change ((m.appCache uuid).getD {}))) }

/-! ### Sessions -/

/-- A session says that it failed.  One that is out of the table is being torn down. -/
def onSessionFailed (m : Manager) (id : Nat) (uuid reasonToken : String) : Manager :=
  if m.sessions uuid ≠ some id then m
  else if reasonToken = failureToken .trustLost ∨ reasonToken = failureToken .notPaired then
    m.setProbe uuid fun probe => { probe with trustRejected := true }
  else m

/-- One thing a session sent or raised. -/
def absorb (m : Manager) (id : Nat) (uuid : String) (o : Out) : Manager :=
  let m := { m with out := m.out ++ [(id, o)] }
  match o with
  | .request request => m.ask (.session id request.call)
  | .failed reasonToken => m.onSessionFailed id uuid reasonToken
  | _ => m

/-- The session object after a call, with what it sent put on the wire. -/
def put (m : Manager) (id : Nat) (s : Session) : Manager :=
  s.out.foldl (fun m o => m.absorb id s.host.uuid o)
    { m with objects := Function.update m.objects id (some { s with out := [] }) }

def withSession (m : Manager) (id : Nat) (call : Session → Session) : Manager :=
  match m.objects id with
  | none => m
  | some s => m.put id (call s)

def ensureIdentityLoaded (o : Outside) (m : Manager) : Manager :=
  { m with identityReady := m.identityReady || o.identity }

def ensureSession (m : Manager) (host : MoonlightHost) : Nat × Manager :=
  match m.sessions host.uuid with
  | some id => (id, m)
  | none =>
    (m.nextSession, { m with
      objects := Function.update m.objects m.nextSession (some { host := host })
      sessions := Function.update m.sessions host.uuid (some m.nextSession)
      nextSession := m.nextSession + 1 })

/-- The remembered pick is missing from a list the host answered with. -/
def pickRemoved (m : Manager) (host : MoonlightHost) : Bool :=
  if host.lastAppId = "" then false
  else match m.appCache host.uuid with
    | none => false
    | some cache => cache.read && !cache.apps.any (·.id = host.lastAppId)

def apps (m : Manager) (uuid : String) : List MoonlightApp :=
  match m.appCache uuid with
  | none => []
  | some cache => cache.apps

/-- The app to start: the remembered pick, or what the host lists first, or its default. -/
def pickApp (m : Manager) (host : MoonlightHost) : String × String :=
  if host.lastAppId ≠ "" then (host.lastAppId, host.lastAppName)
  else match m.apps host.uuid with
    | [] => (kDefaultAppId, host.lastAppName)
    | app :: _ => (app.id, app.title)

def ensureSessionRunning (o : Outside) (m : Manager) (id : Nat) (host : MoonlightHost) : Manager :=
  match m.objects id with
  | none => m
  | some s =>
    if !sessionNeedsStart s.machine.phase then m
    else if m.pickRemoved host then m
    else
      let (appId, appName) := m.pickApp host
      m.put id (s.start o.world appId appName)

/-! ### Discovery -/

def onFound (m : Manager) (found : Found) : Manager :=
  { m with discovered := m.discovered.insert found }

def onDiscovered (m : Manager) (hosts : List Found) : Manager := hosts.foldl onFound m

/-- A host the user has acted on is remembered, unpaired. -/
def rememberDestination (m : Manager) (uuid : String) : Manager :=
  if uuid = "" ∨ (m.repo.get uuid).isSome then m
  else match m.discovered.rows uuid with
    | none => m
    | some found =>
      { m with repo := m.repo.upsert { uuid := uuid, name := found.name, address := found.address } }

/-! ### Probes -/

def probeTargetFor (m : Manager) (uuid : String) : Option ProbeTarget :=
  let target : ProbeTarget := match m.repo.get uuid with
    | some stored =>
      { address := stored.address
        httpPort := stored.httpPort
        httpsPort := stored.httpsPort
        rememberedUuid := stored.uuid
        remembered := stored.paired
        serverCertPem := stored.serverCertPem }
    | none => match m.discovered.rows uuid with
      | some found => { address := found.address }
      | none => {}
  if target.address = "" then none else some target

def probe (o : Outside) (m : Manager) (uuid : String) : Manager :=
  match m.probeTargetFor uuid with
  | none => m
  | some target =>
    if ((m.probes uuid).getD {}).inFlight then m
    else
      let m := m.setProbe uuid fun probe => { probe with inFlight := true }
      let m := m.ensureIdentityLoaded o
      m.ask (.plainProbe uuid target (m.epochs uuid))

def onPlainServerInfo (m : Manager) (uuid : String) (target : ProbeTarget) (epoch : Nat)
    (reply : ServerInfoReply) : Manager :=
  if m.epochs uuid ≠ epoch then m
  else match (if reply.status = 200 then reply.info else none) with
    | none => m.setProbe uuid fun probe => { probe with inFlight := false, answered := false }
    | some info =>
      let identityChanged := hostIdentityChanged target.rememberedUuid info.uuid
      if !target.remembered || identityChanged then
        m.setProbe uuid fun probe => { probe with
          identityChanged := identityChanged
          answered := true
          inFlight := false
          paired := false }
      else
        (m.setProbe uuid fun probe => { probe with identityChanged := identityChanged }).ask
          (.tlsProbe uuid epoch)

def onTlsServerInfo (m : Manager) (uuid : String) (epoch : Nat) (reply : ServerInfoReply) :
    Manager :=
  if m.epochs uuid ≠ epoch then m
  else
    let paired := match (if reply.status = 200 then reply.info else none) with
      | none => false
      | some secure => secure.pairStatus == 1
    m.setProbe uuid fun probe => { probe with
      inFlight := false
      answered := true
      paired := paired
      trustRejected := !paired }

/-! ### The app list -/

def refreshApps (o : Outside) (m : Manager) (uuid : String) : Manager :=
  let m := m.ensureIdentityLoaded o
  let paired := match m.repo.get uuid with
    | none => false
    | some host => host.paired
  if !paired then
    m.setApps uuid fun cache => { cache with inFlight := false, read := false, failed := true }
  else if ((m.appCache uuid).getD {}).inFlight then m
  else
    (m.setApps uuid fun cache => { cache with inFlight := true, failed := false }).ask
      (.appList uuid (m.epochs uuid))

def onAppListReply (m : Manager) (uuid : String) (epoch : Nat) (status : Int)
    (root : Option Status) (apps : List MoonlightApp) : Manager :=
  if m.epochs uuid ≠ epoch then m
  else
    let m := m.setApps uuid fun cache => { cache with inFlight := false }
    let refused := status ≠ 200 || root.any (!·.ok)
    if refused then
      let m := m.setApps uuid fun cache => { cache with failed := true }
      if status = 401 || root.any (·.code = 401) then
        m.setProbe uuid fun probe => { probe with trustRejected := true }
      else m
    else
      let m := m.setProbe uuid fun probe =>
        { probe with answered := true, paired := true, trustRejected := false }
      m.setApps uuid fun cache => { cache with apps := apps, read := true, failed := false }

/-! ### Pairing -/

def addManualHost (o : Outside) (m : Manager) (address name : String) (httpPort httpsPort : Int) :
    Manager :=
  let key := placeholderUuidFor address
  let name := if name = "" then address else name
  let m := { m with
    discovered := m.discovered.insert { name := name, address := address }
    repo := m.repo.upsert {
      uuid := key
      name := name
      address := address
      httpPort := httpPort
      httpsPort := httpsPort } }
  m.probe o key

/-- The record a finished pairing leaves: the one on file, or a new one, with the address of the
discovered row and the certificate the handshake verified. -/
def pairedRecord (m : Manager) (uuid serverCertPem : String) : MoonlightHost :=
  let host := { (m.repo.get uuid).getD {} with uuid := uuid }
  let host := match m.discovered.rows uuid with
    | none => host
    | some found =>
      { host with
        name := if host.name = "" then found.name else host.name
        address := found.address }
  { host with serverCertPem := serverCertPem }

def onPairingFinished (m : Manager) (ok : Bool) (reasonToken serverCertPem : String) : Manager :=
  let uuid := m.flow.hostUuid
  if ok then
    let m := { m with
      repo := m.repo.upsert (m.pairedRecord uuid serverCertPem)
      pairingRefusedUuid := "" }
    m.setProbe uuid fun probe => { probe with
      inFlight := false
      answered := true
      paired := true
      identityChanged := false
      trustRejected := false }
  else { m with pairingRefusedUuid := uuid, pairingRefusedReason := reasonToken }

/-- The flow has moved: its next request goes out, or the manager hears how it ended. -/
def onFlow (m : Manager) (moved : PairingFlow × Option FlowOut) : Manager :=
  let m := { m with flow := moved.1 }
  match moved.2 with
  | none => m
  | some (.request phase) => m.ask (.pair phase m.flow.attempt)
  | some (.finished ok reasonToken serverCertPem) =>
    m.onPairingFinished ok reasonToken serverCertPem

def refusePairing (m : Manager) (uuid reasonToken : String) : Manager :=
  { m with pairingRefusedUuid := uuid, pairingRefusedReason := reasonToken }

/-- Where pairing dials: the record on file, or the discovered row on the default ports. -/
def pairingEndpoint (m : Manager) (uuid : String) : String × Int × Int :=
  match m.repo.get uuid with
  | some host => (host.address, host.httpPort, host.httpsPort)
  | none => match m.discovered.rows uuid with
    | some found => (found.address, 47989, 47984)
    | none => ("", 47989, 47984)

def pair (o : Outside) (m : Manager) (uuid : String) : Manager :=
  let m := m.ensureIdentityLoaded o
  let m := { m with pairingRefusedUuid := "", pairingRefusedReason := "" }
  if uuid = "" then m
  else if !m.identityReady then m.refusePairing uuid "crypto"
  else
    let (address, httpPort, httpsPort) := m.pairingEndpoint uuid
    if address = "" then m.refusePairing uuid "unreachable"
    else if !o.identity then m.refusePairing uuid "crypto"
    else m.onFlow (m.flow.start uuid address httpPort httpsPort o.entropy)

def cancelPairing (m : Manager) : Manager :=
  { m with flow := m.flow.cancel, pairingRefusedUuid := "", pairingRefusedReason := "" }

/-! ### Binding -/

/-- Hands the Motion switch's answer to the session the slot rides. -/
def readMotionSwitch (o : Outside) (m : Manager) (slotId : String) : Manager :=
  match (m.bindings.value slotId).bind m.sessions with
  | none => m
  | some id => m.withSession id fun s =>
    match s.slots.numberFor slotId with
    | none => s
    | some number => s.setMotionAllowed number (o.motionSwitch slotId)

def readTouchpadPick (o : Outside) (m : Manager) (id : Nat) (number : PadNumber) (uuid : String)
    (storedType : Int) (source : SourceCapabilities) : Manager :=
  let type := resolveControllerType storedType source.motion
  m.withSession id fun s =>
    s.setTouchReaches number (touchReachesHost (o.touchpadPick uuid) source.touchpad type)

def unbindController (o : Outside) (m : Manager) (slotId : String) : Manager :=
  match m.bindings.value slotId with
  | none => m
  | some uuid =>
    let m := { m with bindings := m.bindings.remove slotId }
    match m.sessions uuid with
    | none => m
    | some id =>
      match m.objects id with
      | none => m
      | some s =>
        let (left, s) := s.detachController slotId
        let m := m.put id s
        -- The last controller has left, so the app is handed back.
        if left = 0 then m.withSession id fun s => s.stop o.world true else m

/-- The host has four bindings, and the slot's is not one of them. -/
def full (m : Manager) (slotId uuid : String) : Bool :=
  m.bindings.value slotId ≠ some uuid && kMaxPads ≤ (m.bindings.slotsOf uuid).length

/-- The binding on a paired host: the slot keeps its number or takes one. -/
def joinSession (o : Outside) (m : Manager) (slotId uuid : String) (storedType : Int)
    (source : SourceCapabilities) (host : MoonlightHost) : Option PadNumber × Manager :=
  let (id, m) := m.ensureSession host
  match m.objects id with
  | none => (none, m)
  | some s =>
    let (number, s) := s.reannounceController slotId storedType source
    let (number, s) := match number with
      | some number => (some number, s)
      | none => s.attachController slotId storedType source
    match number with
    | none =>
      let m := m.put id s
      (none, { m with bindings := m.bindings.remove slotId })
    | some number =>
      let m := m.put id s
      let m := m.readMotionSwitch o slotId
      let m := m.readTouchpadPick o id number uuid storedType source
      (some number, m.ensureSessionRunning o id host)

/-- What is left of a bind once the slot is free of any other host. -/
def bindFreed (o : Outside) (m : Manager) (slotId uuid : String) (storedType : Int)
    (source : SourceCapabilities) : Option PadNumber × Manager :=
  if m.full slotId uuid then (none, m)
  else
    let m := { m with bindings := m.bindings.insert slotId uuid }
    let m := m.ensureIdentityLoaded o
    let m := m.rememberDestination uuid
    match m.repo.get uuid with
    | none => (none, m)
    | some host =>
      -- The binding stands; the session waits for trust.
      if !host.paired then (none, m) else m.joinSession o slotId uuid storedType source host

/-- The slot is bound to another host. -/
def boundElsewhere (m : Manager) (slotId uuid : String) : Bool :=
  match m.bindings.value slotId with
  | none => false
  | some prior => prior ≠ uuid

def bindController (o : Outside) (m : Manager) (slotId uuid : String) (storedType : Int)
    (source : SourceCapabilities) : Option PadNumber × Manager :=
  if slotId = "" ∨ uuid = "" then (none, m)
  else
    -- A slot drives exactly one destination.
    let m := if m.boundElsewhere slotId uuid then m.unbindController o slotId else m
    m.bindFreed o slotId uuid storedType source

def rememberBinding (m : Manager) (binding : MoonlightBinding) : Manager :=
  if !binding.isValid then m
  else
    let m := m.rememberDestination binding.hostUuid
    { m with repo := m.repo.rememberBinding binding }

def forgetBinding (m : Manager) (slotId : String) : Manager :=
  if (m.repo.binding slotId).isNone then m
  else { m with repo := m.repo.forgetBinding slotId }

def refreshMotionSwitches (o : Outside) (m : Manager) : Manager :=
  m.bindings.entries.foldl (fun m entry => m.readMotionSwitch o entry.1) m

/-! ### Ending -/

def quitHostApp (o : Outside) (m : Manager) (uuid : String) : Manager :=
  let m := m.ensureIdentityLoaded o
  let paired := match m.repo.get uuid with
    | none => false
    | some host => host.paired
  if !paired then m
  else
    let attempt := (m.sessions uuid).bind fun id =>
      (m.objects id).bind fun s => if sessionNeedsStart s.machine.phase then none else some id
    match attempt with
    | some id => (m.withSession id fun s => s.stop o.world true).probe o uuid
    -- A session at rest holds nothing of ours: the bare cancel is the whole of the act.
    | none => m.ask (.hostCancel uuid)

def cancelPairingWith (m : Manager) (uuid : String) : Manager :=
  if m.flow.active && m.flow.hostUuid = uuid then { m with flow := m.flow.cancel } else m

def dropRecordsFor (m : Manager) (uuid : String) : Manager :=
  let m := { m with
    repo := (m.repo.forgetBindingsForHost uuid).remove uuid
    discovered := m.discovered.remove uuid
    probes := Function.update m.probes uuid none
    appCache := Function.update m.appCache uuid none }
  if m.pairingRefusedUuid = uuid then
    { m with pairingRefusedUuid := "", pairingRefusedReason := "" }
  else m

/-- A forget up to where it makes the session speak: the epoch, the pairing, the bindings, the
session out of the table and the records.  The stop of the session is `leave`. -/
def forget (m : Manager) (uuid : String) : Manager :=
  if uuid = "" then m
  else
    let m := { m with epochs := Function.update m.epochs uuid (m.epochs uuid + 1) }
    let m := m.cancelPairingWith uuid
    let m := { m with
      bindings := (m.bindings.slotsOf uuid).foldl Bindings.remove m.bindings
      sessions := Function.update m.sessions uuid none
      leaving := m.leaving ++ (m.sessions uuid).toList }
    m.dropRecordsFor uuid

/-- The rest of a forget: the session is stopped, and left to be deleted. -/
def leave (o : Outside) (m : Manager) (id : Nat) : Manager :=
  if id ∉ m.leaving then m
  else
    let m := m.withSession id fun s => s.stop o.world true
    { m with leaving := m.leaving.erase id, dying := id :: m.dying }

def delete (m : Manager) (id : Nat) : Manager :=
  if id ∉ m.dying then m
  else { m with objects := Function.update m.objects id none }

/-- The sessions of the table. -/
def sessionIds (m : Manager) : List Nat :=
  (List.range m.nextSession).filter fun id =>
    match m.objects id with
    | none => false
    | some s => m.sessions s.host.uuid = some id

def stopSessions (o : Outside) (m : Manager) : Manager :=
  m.sessionIds.foldl (fun m id => m.withSession id fun s => s.stop o.world false) m

def setLastApp (m : Manager) (uuid appId appName : String) : Manager :=
  match m.repo.get uuid with
  | none => m
  | some host =>
    { m with repo := m.repo.upsert { host with lastAppId := appId, lastAppName := appName } }

def setControllerType (m : Manager) (uuid : String) (type : Int) : Manager :=
  match m.repo.get uuid with
  | none => m
  | some host =>
    { m with repo := m.repo.upsert { host with controllerType := migrateControllerType type } }

/-! ### Replies -/

/-- A reply for a session, dropped if the session is gone. -/
def onSessionReply (o : Outside) (m : Manager) (id : Nat) (call : SessionCall)
    (reply : GatewayReply) : Manager :=
  match reply with
  | .serverInfo reply => m.withSession id fun s => s.onReply o.world call (.serverInfo reply)
  | .launch reply => m.withSession id fun s => s.onReply o.world call (.launch reply)
  | _ => m

def onReply (o : Outside) (m : Manager) (callback : Callback) (reply : GatewayReply) : Manager :=
  match callback, reply with
  | .plainProbe uuid target epoch, .serverInfo reply => m.onPlainServerInfo uuid target epoch reply
  | .tlsProbe uuid epoch, .serverInfo reply => m.onTlsServerInfo uuid epoch reply
  | .appList uuid epoch, .appList status root apps => m.onAppListReply uuid epoch status root apps
  | .pair phase attempt, .pair reply => m.onFlow (m.flow.onReply phase attempt reply)
  | .session id call, reply => m.onSessionReply o id call reply
  | .hostCancel uuid, _ => m.probe o uuid
  | _, _ => m

/-- The reply to one of the requests in flight. -/
def deliver (o : Outside) (m : Manager) (ticket : Nat) (reply : GatewayReply) : Manager :=
  match m.pending.find? (·.1 = ticket) with
  | none => m
  | some (_, callback) =>
    { m with pending := m.pending.filter (·.1 ≠ ticket) }.onReply o callback reply

end Manager

/-! ### The manager as the outside drives it -/

inductive ManagerAct where
  | discovered (hosts : List Found)
  | addManualHost (address name : String) (httpPort httpsPort : Int)
  | pair (uuid : String)
  | cancelPairing
  | probe (uuid : String)
  | refreshApps (uuid : String)
  | bindController (slotId uuid : String) (storedType : Int) (source : SourceCapabilities)
  | unbindController (slotId : String)
  | rememberBinding (binding : MoonlightBinding)
  | forgetBinding (slotId : String)
  | refreshMotionSwitches
  | quitHostApp (uuid : String)
  | forget (uuid : String)
  | leave (id : Nat)
  | delete (id : Nat)
  | stopSessions
  | setLastApp (uuid appId appName : String)
  | setControllerType (uuid : String) (type : Int)
  | reply (ticket : Nat) (reply : GatewayReply)
  | session (id : Nat) (input : SessionInput)
  deriving Repr, DecidableEq

/-- What reaches a session past the manager: its streams, its pads and the host's events. -/
def SessionInput.external : SessionInput → Bool
  | .start .. | .stop _ | .attach .. | .detach _ | .reannounce .. | .motionAllowed ..
  | .touchReaches .. => false
  | _ => true

namespace Manager

def act (o : Outside) (m : Manager) (act : ManagerAct) : Manager :=
  match act with
  | .discovered hosts => m.onDiscovered hosts
  | .addManualHost address name httpPort httpsPort =>
    m.addManualHost o address name httpPort httpsPort
  | .pair uuid => m.pair o uuid
  | .cancelPairing => m.cancelPairing
  | .probe uuid => m.probe o uuid
  | .refreshApps uuid => m.refreshApps o uuid
  | .bindController slotId uuid storedType source =>
    (m.bindController o slotId uuid storedType source).2
  | .unbindController slotId => m.unbindController o slotId
  | .rememberBinding binding => m.rememberBinding binding
  | .forgetBinding slotId => m.forgetBinding slotId
  | .refreshMotionSwitches => m.refreshMotionSwitches o
  | .quitHostApp uuid => m.quitHostApp o uuid
  | .forget uuid => m.forget uuid
  | .leave id => m.leave o id
  | .delete id => m.delete id
  | .stopSessions => m.stopSessions o
  | .setLastApp uuid appId appName => m.setLastApp uuid appId appName
  | .setControllerType uuid type => m.setControllerType uuid type
  | .reply ticket reply => m.deliver o ticket reply
  | .session id input =>
    if input.external then m.withSession id fun s => s.onInput o.world input else m

def step (m : Manager) (act : Outside × ManagerAct) : Manager :=
  { m with out := [] }.act act.1 act.2

end Manager

end Dish.Moonlight
