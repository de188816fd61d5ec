/-
The driver of the USB path machine.

The manager keeps one controller for each model on the bus, feeds events to the path machine and
carries out the effects it answers with: a claim through the gateway, the worker that writes to a
claimed pad, the preference store, the observer's callbacks.  Carrying out an effect can feed the
machine again, while the outer event's effects are still being carried out: a claim answers at once,
and a permission request is granted at once.

What the bus and the gateway decide is data: which devices a scan lists, how the n-th claim is
answered.  A claim that succeeds gets an id the gateway never gave before.
-/
import Mathlib.Algebra.Order.Ring.Int
import Mathlib.Data.List.AList
import Dish.Core.UsbPathMachine
import Dish.Core.UsbModels

namespace Dish

/-- One device a scan lists.  The interface number and the out endpoint, which only the gateway
uses, are left out. -/
structure UsbDeviceInfo where
  vendorId : Int := 0
  productId : Int := 0
  name : String := ""
  endpointInMaxPacket : Int := 64
  endpointInInterval : Int := 1
  hasImu : Bool := false
  deriving DecidableEq, Repr

/-- The model's key, the two ids packed into one `int`. -/
def vpKey (vendorId productId : Int) : Int :=
  (vendorId * 2 ^ 16 + productId % 2 ^ 16).bmod (2 ^ 32)

def UsbDeviceInfo.vpKey (d : UsbDeviceInfo) : Int := Dish.vpKey d.vendorId d.productId

inductive ClaimResult where
  | success (syntheticId : Int)
  | fail (reason : DirectClaimFailure) (frameworkStolen : Bool)
  deriving DecidableEq, Repr

/-- The gateway, over a whole run: how the n-th claim is answered (`none` where it succeeds), and
the id it gets then, never one given before. -/
structure UsbGateway where
  refuses : Nat → Option (DirectClaimFailure × Bool)
  syntheticIds : Nat → Int
  fresh : Function.Injective syntheticIds
  isKnownFastLaneModel : Int → Int → Bool

/-- What the observer is told. -/
inductive UsbObserverCall where
  | notice (c : UsbController) (notice : UsbNotice)
  | markFailure (vendorId productId : Int) (reason : DirectClaimFailure)
  | clearFailure (vendorId productId : Int)
  | markNeedsReplug (vendorId productId : Int)
  | markRestoreStuck (vendorId productId : Int)
  | clearRestoreStuck (vendorId productId : Int)
  | beginHold (vendorId productId : Int)
  | endHold (vendorId productId : Int)
  | bind (deviceId : Int) (connId : String) (type : Int)
  | syntheticAdded (syntheticId : Int) (name : String) (hasGyro : Bool) (pollRateHz : Int)
      (vendorId productId : Int)
  | syntheticRemoved (syntheticId : Int)
  | controllersChanged
  deriving DecidableEq, Repr

/-- The rate a pad is polled at, from its interrupt endpoint: frames of a millisecond at full speed,
powers of two of 125 µs at high speed. -/
def computeUsbPollRateHz (epInterval epMaxPacketSize : Int) : Int :=
  if epInterval ≤ 0 then 0
  else
    let periodMicros : Int :=
      if epMaxPacketSize > 64 then 2 ^ (min (epInterval - 1) 15).toNat * 125
      else epInterval * 1000
    if periodMicros ≤ 0 then 0 else Int.tdiv 1000000 periodMicros

/-! ### Whether a claim streams anything -/

inductive ClaimHealth where
  | undecided
  | decoding
  | unreadable
  deriving DecidableEq, Repr

structure ClaimActivity where
  reads : Int := 0
  decoded : Int := 0
  scans : Nat := 0
  streamsUnprompted : Bool := false
  deriving DecidableEq, Repr

def kUndecodedReadsBeforeUnreadable : Int := 8
def kSilentScansBeforeUnreadable : Nat := 3

def judgeClaimHealth (a : ClaimActivity) : ClaimHealth :=
  if a.decoded > 0 then .decoding
  else if a.reads ≥ kUndecodedReadsBeforeUnreadable then .unreadable
  else if a.streamsUnprompted ∧ a.scans ≥ kSilentScansBeforeUnreadable then .unreadable
  else .undecided

/-! ### The manager -/

/-- The devices the manager tracks, each under the key of its model. -/
structure DeviceTable where
  table : AList fun _ : Int => UsbDeviceInfo
  keyed : ∀ {key device}, table.lookup key = some device → device.vpKey = key

namespace DeviceTable

def empty : DeviceTable where
  table := ∅
  keyed := by simp

def insert (d : DeviceTable) (device : UsbDeviceInfo) : DeviceTable where
  table := d.table.insert device.vpKey device
  keyed := by
    intro key found there
    by_cases same : key = device.vpKey
    · subst same
      rw [AList.lookup_insert] at there
      cases there
      rfl
    · rw [AList.lookup_insert_ne same] at there
      exact d.keyed there

def erase (d : DeviceTable) (key : Int) : DeviceTable where
  table := d.table.erase key
  keyed := by
    intro other found there
    by_cases same : other = key
    · subst same
      rw [AList.lookup_erase] at there
      cases there
    · rw [AList.lookup_erase_ne same] at there
      exact d.keyed there

end DeviceTable

structure UsbManager where
  gateway : Option UsbGateway := none
  /-- Whether an observer is attached. -/
  observer : Bool := false
  /-- The preference store, if there is one.  It keys by the low 16 bits of both ids. -/
  prefs : Option (AList fun _ : Int × Int => PathChoice) := none
  controllers : AList fun _ : Int => UsbController := ∅
  devices : DeviceTable := .empty
  /-- Consecutive scans a tracked model was not listed in. -/
  missedScans : AList fun _ : Int => Nat := ∅
  /-- Scans a claim has lived through, for judging silence. -/
  directScans : AList fun _ : Int => Nat := ∅
  priorFailures : AList fun _ : Int => DirectClaimFailure := ∅
  /-- The registered workers, by synthetic id, with the family each writes for. -/
  workers : AList fun _ : Int => HidParser := ∅
  /-- The workers whose thread runs, one entry each, by the id they write to. -/
  threads : List Int := []
  /-- The claims asked of the gateway so far. -/
  claimsAsked : Nat := 0
  /-- The ids claimed and not released. -/
  openClaims : List Int := []
  /-- The model each claim was made for. -/
  claimedFor : Int → Option Int := fun _ => none
  /-- What the observer was told, in order. -/
  observed : List UsbObserverCall := []

namespace UsbManager

def tell (m : UsbManager) (call : UsbObserverCall) : UsbManager :=
  if m.observer then { m with observed := m.observed ++ [call] } else m

/-- A worker found under the id would be replaced without being stopped: a route table may still
hold it. -/
def startWorker (m : UsbManager) (syntheticId key : Int) : UsbManager :=
  match m.gateway with
  | none => m
  | some _ =>
    { m with
      workers := m.workers.insert syntheticId (parserForDevice (key / 2 ^ 16) (key % 2 ^ 16))
      threads := syntheticId :: m.threads }

/-- The worker is taken out and stopped, and the claim released; an unknown id is a no-op in
both. -/
def releaseClaimAndWorker (m : UsbManager) (syntheticId : Int) : UsbManager :=
  let stopped :=
    if syntheticId ∈ m.workers then
      { m with workers := m.workers.erase syntheticId, threads := m.threads.erase syntheticId }
    else m
  match m.gateway with
  | none => stopped
  | some _ => { stopped with openClaims := stopped.openClaims.filter (· ≠ syntheticId) }

def prefKey (vendorId productId : Int) : Int × Int := (vendorId % 2 ^ 16, productId % 2 ^ 16)

def setChoice (m : UsbManager) (vendorId productId : Int) (choice : PathChoice) : UsbManager :=
  { m with prefs := m.prefs.map (·.insert (prefKey vendorId productId) choice) }

def dropChoice (m : UsbManager) (vendorId productId : Int) : UsbManager :=
  { m with prefs := m.prefs.map (AList.erase (prefKey vendorId productId)) }

def resolvePath (m : UsbManager) (vendorId productId : Int) : PathChoice :=
  resolvePathChoice
    (m.prefs.bind (·.lookup (prefKey vendorId productId)))
    (m.gateway.any (·.isKnownFastLaneModel vendorId productId))
    (m.priorFailures.lookup (vpKey vendorId productId))

/-- The gateway's answer to a claim, and what the observer is told of a new synthetic. -/
def doClaim (m : UsbManager) (device : UsbDeviceInfo) : ClaimResult × UsbManager :=
  match m.gateway with
  | none => (.fail .busy false, m)
  | some g =>
    let asked := { m with claimsAsked := m.claimsAsked + 1 }
    match g.refuses m.claimsAsked with
    | some (reason, stolen) => (.fail reason stolen, asked)
    | none =>
      let id := g.syntheticIds m.claimsAsked
      (.success id,
        { asked with
          openClaims := id :: asked.openClaims
          claimedFor := Function.update asked.claimedFor id (some device.vpKey) }.tell
          (.syntheticAdded id device.name device.hasImu
            (computeUsbPollRateHz device.endpointInInterval device.endpointInMaxPacket)
            device.vendorId device.productId))

/-- A device gone between the pick and the claim is busy, with nothing taken. -/
def claimTracked (m : UsbManager) (key : Int) : ClaimResult × UsbManager :=
  match m.devices.table.lookup key with
  | some device => m.doClaim device
  | none => (.fail .busy false, m)

def kControllerTypeXbox : Int := 0

/-- A carried connection follows the controller to the device it is on now. -/
def bindCarried (m : UsbManager) (c : UsbController) (deviceId : Int) : UsbManager :=
  match c.connId with
  | some connId => m.tell (.bind deviceId connId (c.type.getD kControllerTypeXbox))
  | none => m

/-! ### Carrying out the effects

`nested` is what an event does while an outer one is being carried out. -/

section Nested

variable (nested : UsbManager → Int → UsbEvent → UsbManager)

def runClaim (m : UsbManager) (key : Int) : UsbManager :=
  let (outcome, claimed) := m.claimTracked key
  match outcome with
  | .success id => nested (claimed.startWorker id key) key (.claimSucceeded id)
  | .fail reason stolen => nested claimed key (.claimFailed reason stolen)

/-- The old placeholder goes once the claim was asked for, whatever the answer. -/
def runReclaim (m : UsbManager) (key : Int) (c : UsbController) : UsbManager :=
  let (outcome, claimed) := m.claimTracked key
  let dropped :=
    match c.syntheticId with
    | some old => (claimed.releaseClaimAndWorker old).tell (.syntheticRemoved old)
    | none => claimed
  match outcome with
  | .success id => nested ((dropped.startWorker id key).bindCarried c id) key (.claimSucceeded id)
  | .fail reason stolen => nested dropped key (.claimFailed reason stolen)

def execute (key : Int) (c : UsbController) (m : UsbManager) : UsbEffect → UsbManager
  | .claim => runClaim nested m key
  | .reclaim => runReclaim nested m key c
  | .release =>
    match c.syntheticId with
    | some id => m.releaseClaimAndWorker id
    | none => m
  -- The open is the only gate here, so a request is taken as granted.
  | .requestPermission => nested m key .permissionGranted
  | .bindFramework id => m.bindCarried c id
  | .removeSynthetic id => (m.releaseClaimAndWorker id).tell (.syntheticRemoved id)
  | .beginHold => m.tell (.beginHold c.vendorId c.productId)
  | .endHold => m.tell (.endHold c.vendorId c.productId)
  | .markNeedsReplug => m.tell (.markNeedsReplug c.vendorId c.productId)
  | .markRestoreStuck => m.tell (.markRestoreStuck c.vendorId c.productId)
  | .clearRestoreStuck => m.tell (.clearRestoreStuck c.vendorId c.productId)
  -- Nothing is armed here: the arm of the source is empty.
  | .startTimeout => m
  | .notify notice => m.tell (.notice c notice)
  | .setPref choice => m.setChoice c.vendorId c.productId choice
  | .markFailure reason =>
    { m with priorFailures := m.priorFailures.insert key reason }.tell
      (.markFailure c.vendorId c.productId reason)
  | .clearFailure =>
    { m with priorFailures := m.priorFailures.erase key }.tell
      (.clearFailure c.vendorId c.productId)

/-- The controller as the event leaves it. -/
def store (m : UsbManager) (key : Int) (next : Option UsbController) : UsbManager :=
  { m with
    controllers :=
      match next with
      | some n => m.controllers.insert key n
      | none => m.controllers.erase key }

/-- One event at one controller: reduce, store, carry out the effects against the controller as it
is now (as it was, once it is gone), and tell the observer. -/
def applyEventWith (m : UsbManager) (key : Int) (event : UsbEvent) : UsbManager :=
  match m.controllers.lookup key with
  | none => m
  | some cur =>
    let r := cur.reduce event
    let ctx := r.next.getD cur
    (r.effects.foldl (execute nested key ctx) (m.store key r.next)).tell .controllersChanged

end Nested

/-- Events nested at most so deep. -/
def applyEventUpTo : Nat → UsbManager → Int → UsbEvent → UsbManager
  | 0 => fun m _ _ => m
  | depth + 1 => applyEventWith (applyEventUpTo depth)

/-- A permission request nests a claim, and a claim its answer; nothing nests deeper. -/
def applyEvent : UsbManager → Int → UsbEvent → UsbManager := applyEventUpTo 3

/-! ### The calls -/

/-- A pad seen for the first time.  A present pad may always be claimed: a missing rule shows as a
claim that is denied. -/
def newController (m : UsbManager) (device : UsbDeviceInfo) : UsbController :=
  { vendorId := device.vendorId, productId := device.productId, name := device.name,
    phase := .routed, hasPermission := true,
    desired := m.resolvePath device.vendorId device.productId,
    frameworkExpected := modelExpectsFrameworkGamepad device.vendorId device.productId }

/-- A pad not tracked yet is driven toward its resolved path at once. -/
def ensureTracked (m : UsbManager) (device : UsbDeviceInfo) : UsbManager :=
  let seen := { m with devices := m.devices.insert device }
  match seen.controllers.lookup device.vpKey with
  | some _ => seen
  | none =>
    let tracked := seen.store device.vpKey (some (seen.newController device))
    tracked.applyEvent device.vpKey
      (.choose (tracked.resolvePath device.vendorId device.productId) false)

/-- A device present but not tracked yet is brought in before a pick for it. -/
def ensureListed (m : UsbManager) (listed : List UsbDeviceInfo) (vendorId productId : Int) :
    UsbManager :=
  match m.gateway with
  | none => m
  | some _ =>
    match listed.find? fun d => d.vendorId == vendorId && d.productId == productId with
    | some d => m.ensureTracked d
    | none => m

def setPathChoice (m : UsbManager) (listed : List UsbDeviceInfo) (vendorId productId : Int)
    (choice : PathChoice) : UsbManager :=
  ((m.setChoice vendorId productId choice).ensureListed listed vendorId productId).applyEvent
    (vpKey vendorId productId) (.choose choice true)

def clearChoice (m : UsbManager) (listed : List UsbDeviceInfo) (vendorId productId : Int) :
    UsbManager :=
  let present := (m.dropChoice vendorId productId).ensureListed listed vendorId productId
  present.applyEvent (vpKey vendorId productId)
    (.choose (present.resolvePath vendorId productId) true)

def onFrameworkUp (m : UsbManager) (vendorId productId frameworkId : Int) : UsbManager :=
  m.applyEvent (vpKey vendorId productId) (.frameworkUp frameworkId)

def onFrameworkDown (m : UsbManager) (vendorId productId : Int) : UsbManager :=
  m.applyEvent (vpKey vendorId productId) .frameworkDown

def onUsbGone (m : UsbManager) (vendorId productId : Int) : UsbManager :=
  let key := vpKey vendorId productId
  let gone := m.applyEvent key .usbUnplugged
  { gone with
    devices := gone.devices.erase key
    missedScans := gone.missedScans.erase key
    directScans := gone.directScans.erase key
    priorFailures := gone.priorFailures.erase key }

def fireTimeout (m : UsbManager) (vendorId productId : Int) : UsbManager :=
  m.applyEvent (vpKey vendorId productId) .timeout

/-! ### Where feedback goes -/

/-- A claimed model's id, family and worker, resolved once for a caller that keeps it. -/
structure DirectTarget where
  vendorId : Int
  productId : Int
  syntheticId : Int
  parser : HidParser
  /-- The worker registered for the id, by the family it writes for. -/
  worker : Option HidParser
  deriving DecidableEq, Repr

/-- A controller that is tracked and has an id is taken for one that is claimed. -/
def directTarget (m : UsbManager) (vendorId productId : Int) : Option DirectTarget :=
  (m.controllers.lookup (vpKey vendorId productId)).bind fun c =>
    c.syntheticId.map fun id =>
      { vendorId := vendorId, productId := productId, syntheticId := id,
        parser := parserForDevice vendorId productId, worker := m.workers.lookup id }

def isDirectClaimed (m : UsbManager) (vendorId productId : Int) : Bool :=
  (m.directTarget vendorId productId).isSome

/-! ### The scan -/

/-- What a scan finds: the devices listed, and what the gateway says of each claim. -/
structure UsbScan where
  devices : List UsbDeviceInfo := []
  isClaimAlive : Int → Bool := fun _ => true
  completionCount : Int → Int := fun _ => 0
  decodedCount : Int → Int := fun _ => 0

/-- The claim a controller streams through. -/
def streaming (m : UsbManager) (key : Int) : Option (UsbController × Int) :=
  match m.controllers.lookup key with
  | some c => if c.phase = .direct then c.syntheticId.map fun id => (c, id) else none
  | none => none

def claimEnded (m : UsbManager) (scan : UsbScan) (key : Int) : Bool :=
  match m.streaming key with
  | some (_, id) => !scan.isClaimAlive id
  | none => false

def judgeClaim (m : UsbManager) (scan : UsbScan) (key : Int) : UsbManager :=
  match m.streaming key with
  | none => { m with directScans := m.directScans.erase key }
  | some (c, id) =>
    let scans := (m.directScans.lookup key).getD 0 + 1
    let counted := { m with directScans := m.directScans.insert key scans }
    let activity : ClaimActivity :=
      { reads := scan.completionCount id, decoded := scan.decodedCount id, scans := scans,
        streamsUnprompted := parserStreamsUnprompted (parserForDevice c.vendorId c.productId) }
    if judgeClaimHealth activity = .unreadable then counted.applyEvent key .claimUnreadable
    else counted

def kDepartedScanThreshold : Nat := 2

def scanDevice (scan : UsbScan) (m : UsbManager) (device : UsbDeviceInfo) : UsbManager :=
  let m :=
    if m.claimEnded scan device.vpKey then m.onUsbGone device.vendorId device.productId else m
  (m.ensureTracked device).judgeClaim scan device.vpKey

/-- One tracked model after a scan: listed, its misses are forgotten; missed, they are counted. -/
def countMissed (present : List Int) (missed : AList fun _ : Int => Nat) (key : Int) :
    AList fun _ : Int => Nat :=
  if key ∈ present then missed.erase key
  else missed.insert key ((missed.lookup key).getD 0 + 1)

def reconcile (m : UsbManager) (scan : UsbScan) : UsbManager :=
  match m.gateway with
  | none => m
  | some _ =>
    let seen := scan.devices.foldl (scanDevice scan) m
    let present := scan.devices.map UsbDeviceInfo.vpKey
    let counted :=
      { seen with
        missedScans := seen.controllers.keys.foldl (countMissed present) seen.missedScans }
    let departed := counted.controllers.entries.filter fun e =>
      e.1 ∉ present ∧ kDepartedScanThreshold ≤ (counted.missedScans.lookup e.1).getD 0
    departed.foldl (fun m e => m.onUsbGone e.2.vendorId e.2.productId) counted

/-! ### Runs -/

/-- The calls made on the manager.  `listed` is what the gateway enumerates at that moment. -/
inductive Call where
  | ensureTracked (device : UsbDeviceInfo)
  | setPathChoice (listed : List UsbDeviceInfo) (vendorId productId : Int) (choice : PathChoice)
  | clearChoice (listed : List UsbDeviceInfo) (vendorId productId : Int)
  | onFrameworkUp (vendorId productId frameworkId : Int)
  | onFrameworkDown (vendorId productId : Int)
  | onUsbGone (vendorId productId : Int)
  | fireTimeout (vendorId productId : Int)
  | claimUnreadable (key : Int)
  | reconcile (scan : UsbScan)

def call (m : UsbManager) : Call → UsbManager
  | .ensureTracked device => m.ensureTracked device
  | .setPathChoice listed vendorId productId choice =>
    m.setPathChoice listed vendorId productId choice
  | .clearChoice listed vendorId productId => m.clearChoice listed vendorId productId
  | .onFrameworkUp vendorId productId frameworkId =>
    m.onFrameworkUp vendorId productId frameworkId
  | .onFrameworkDown vendorId productId => m.onFrameworkDown vendorId productId
  | .onUsbGone vendorId productId => m.onUsbGone vendorId productId
  | .fireTimeout vendorId productId => m.fireTimeout vendorId productId
  | .claimUnreadable key => m.applyEvent key .claimUnreadable
  | .reconcile scan => m.reconcile scan

/-- The manager as it is built: nothing tracked, nothing claimed. -/
def start (gateway : Option UsbGateway) (prefs : Option (AList fun _ : Int × Int => PathChoice))
    (observer : Bool) : UsbManager :=
  { gateway := gateway, prefs := prefs, observer := observer }

end UsbManager

end Dish
