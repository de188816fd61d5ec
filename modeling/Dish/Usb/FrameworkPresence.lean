/-
The application's wiring of the USB path machine to SDL.

SDL is the framework path here: a pad SDL lists is one the system reads.  The application compares
each new device list with the last one and tells the manager which models came and went.  A model
waiting for a device that is listed all along sees no such edge, so every change of the machine also
queues a pass that looks at the list itself.  Timers are in the model because the path machine asks
for them; what the wiring does with the request is what the source does, which is nothing.
-/
import Dish.Usb.UsbGamepadManager

namespace Dish

/-- A device of the SDL bridge, by the ids the wiring reads. -/
structure SdlDevice where
  vendorId : Int
  productId : Int
  deriving DecidableEq, Repr

/-- The models a device list shows; a device without ids is passed over. -/
def frameworkVpKeys (devices : List SdlDevice) : List Int :=
  (devices.filter fun d => d.vendorId ≠ 0 ∧ d.productId ≠ 0).map fun d =>
    vpKey d.vendorId d.productId

/-- How often the observer was told that the controllers changed. -/
def UsbManager.changes (m : UsbManager) : Nat := m.observed.count .controllersChanged

structure UsbWiring where
  manager : UsbManager
  /-- The bridge's device list. -/
  devices : List SdlDevice := []
  lastFrameworkVpKeys : List Int := []
  /-- Settle passes queued and not yet run, one for each change of the controllers. -/
  queuedSettles : Nat := 0
  /-- The models for which a timer is armed that will call `fireTimeout`. -/
  timers : List (Int × Int) := []

namespace UsbWiring

/-- The manager after a call, with a settle pass queued for every change it told of. -/
def drive (w : UsbWiring) (m : UsbManager) : UsbWiring :=
  { w with
    manager := m
    queuedSettles := w.queuedSettles + (m.changes - w.manager.changes) }

/-- One controller of the snapshot: if it waits for a device the list shows, it gets it. -/
def settleOne (present : List Int) (m : UsbManager) (e : Sigma fun _ : Int => UsbController) :
    UsbManager :=
  if shouldSettleAwaitingFramework e.2.phase (decide (e.1 ∈ present)) then
    m.onFrameworkUp e.2.vendorId e.2.productId e.1
  else m

def settleIn (present : List Int) (m : UsbManager) : UsbManager :=
  m.controllers.entries.foldl (settleOne present) m

/-- From the live list, not the one of the last pass. -/
def settleAwaitingFrameworkControllers (w : UsbWiring) : UsbWiring :=
  w.drive (settleIn (frameworkVpKeys w.devices) w.manager)

/-- One listed device: a model the last list did not show came up.  The model's key stands in for
the framework id, since slots are bound by name here. -/
def upOne (last : List Int) (m : UsbManager) (d : SdlDevice) : UsbManager :=
  if vpKey d.vendorId d.productId ∈ last then m
  else m.onFrameworkUp d.vendorId d.productId (vpKey d.vendorId d.productId)

/-- One model of the last list: if it is not shown any more it went down. -/
def downOne (current : List Int) (m : UsbManager) (key : Int) : UsbManager :=
  if key ∈ current then m else m.onFrameworkDown (key / 2 ^ 16 % 2 ^ 16) (key % 2 ^ 16)

/-- The models that came, then those that went. -/
def comeAndGone (w : UsbWiring) : UsbManager :=
  let listed := w.devices.filter fun d => d.vendorId ≠ 0 ∧ d.productId ≠ 0
  w.lastFrameworkVpKeys.foldl (downOne (frameworkVpKeys w.devices))
    (listed.foldl (upOne w.lastFrameworkVpKeys) w.manager)

/-- The edges, then every controller waiting for a device that is there. -/
def syncFrameworkPresence (w : UsbWiring) : UsbWiring :=
  { w.drive (settleIn (frameworkVpKeys w.devices) w.comeAndGone) with
    lastFrameworkVpKeys := frameworkVpKeys w.devices }

/-- What happens to the wiring: SDL's device list changes, the bus is scanned, the user picks a path
or takes the pick back, a queued pass runs, a timer expires. -/
inductive Act where
  | devicesChanged (devices : List SdlDevice)
  | scan (scan : UsbManager.UsbScan)
  | pick (listed : List UsbDeviceInfo) (vendorId productId : Int) (choice : PathChoice)
  | unpick (listed : List UsbDeviceInfo) (vendorId productId : Int)
  | settle
  | timerExpires (vendorId productId : Int)

def step (w : UsbWiring) : Act → UsbWiring
  | .devicesChanged devices => syncFrameworkPresence { w with devices := devices }
  | .scan scan => w.drive (w.manager.reconcile scan)
  | .pick listed vendorId productId choice =>
    w.drive (w.manager.setPathChoice listed vendorId productId choice)
  | .unpick listed vendorId productId =>
    w.drive (w.manager.clearChoice listed vendorId productId)
  | .settle =>
    match w.queuedSettles with
    | 0 => w
    | n + 1 => settleAwaitingFrameworkControllers { w with queuedSettles := n }
  | .timerExpires vendorId productId =>
    if (vendorId, productId) ∈ w.timers then
      { w with timers := w.timers.erase (vendorId, productId) }.drive
        (w.manager.fireTimeout vendorId productId)
    else w

/-- The application at start: no device listed, nothing queued. -/
def start (gateway : Option UsbGateway)
    (prefs : Option (AList fun _ : Int × Int => PathChoice)) : UsbWiring :=
  { manager := .start gateway prefs true }

end UsbWiring

end Dish
