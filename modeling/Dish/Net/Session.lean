/-
The part of `WifiConnectionManager` that works on one pooled connection: which calls
a change, an ack or a reply makes it send.  The manager adds what is kept outside the
connection, such as credentials, timers and the pool itself.
-/
import Dish.Net.WifiConnection
import Dish.Net.Satellite

namespace Dish

/-- The Qt-to-pure boundary of the late-slot diff: index and type only. -/
def descriptorsToDesired (descriptors : List ControllerDescriptor) : List DesiredSlot :=
  descriptors.map fun d => { ctrlIdx := UInt8.ofNat d.ctrlIdx, type := d.type }

namespace WifiConnection

variable (c : WifiConnection)

/-! ### One controller -/

/-- `syncSlot`: the controller PUT of the slot as it is now, in a live session. -/
def syncSlot (slotId : SlotId) : Option Call :=
  if c.state ≠ .live then none
  else c.connectionId.bind fun connId =>
    (c.descriptorFor slotId).map fun descriptor => .putController connId descriptor

/-- `deleteSlot`: the controller DELETE of an index, whatever the state. -/
def deleteSlot (ctrlIdx : Nat) : Option Call :=
  c.connectionId.map fun connId => .deleteController connId ctrlIdx

/-- `convergeLateSlots`: the calls for slots that changed while the session PUT was out. -/
def convergeLateSlots (sent : List DesiredSlot) : List Call :=
  let converge := lateSlotConverge sent (descriptorsToDesired c.desiredDescriptors)
  (converge.removes.filterMap fun ctrlIdx => c.deleteSlot ctrlIdx.toNat) ++
    converge.resyncs.filterMap fun ctrlIdx =>
      (c.slotIdForIndex ctrlIdx.toNat).bind c.syncSlot

/-- What a controller PUT's answer does to the connection it is applied to. -/
def applyControllerPut (resp : ControllerPutResponse) (r : ControllerApplyDto) : WifiConnection :=
  ((c.adoptEpoch resp.epoch).applyResults [r]).1

/-- What a controller DELETE's answer does: an error is ignored. -/
def applyControllerDelete (resp : ControllerPutResponse) : WifiConnection :=
  if resp.error.isNone then c.adoptEpoch resp.epoch else c

/-! ### The session -/

/-- `startSession`: a granted session takes the connection live, with the PUT's results. -/
def startSession (client : SessionClient) (connectionId : String) (resp : SessionResponse) :
    WifiConnection :=
  ((c.markConnected client connectionId resp.epoch resp.mouseGranted).applyResults
    resp.controllers).1

/-- `adoptRekey`: same client, new material, counter and acks restarted. -/
def adoptRekey (client : SessionClient) (material : Material) (epoch : Int) : WifiConnection :=
  { c with
    client := some { ref := client.ref, material := material }
    lastAppliedEpoch := epoch }

/-! ### Self-heal -/

/-- The session `reconcile` asks for: live, and the last ack disagrees. -/
def reconcileTarget : Option String :=
  if c.state ≠ .live then none
  else c.connectionId.bind fun connId => c.client.bind fun client =>
    if reconcileNeeded client.serverEpoch client.serverBitmap c.lastAppliedEpoch c.registeredBitmap
    then some connId else none

/-- The view is of this session and shows what is wanted: the drift was benign. -/
def viewIsBenign (view : SessionViewDto) : Bool :=
  view.connectionId = c.connectionId && c.matchesAppliedView view.controllers view.mouseGranted

/-- `maybeRequestRekey`: the connection, and whether the manager is asked to re-key. -/
def maybeRequestRekey (client : SessionClient) : WifiConnection × Bool :=
  if !counterNeedsRepush client.sendCounter then ({ c with rekeyRequested := false }, false)
  else if c.rekeyRequested then (c, false)
  else ({ c with rekeyRequested := true }, true)

end WifiConnection

/-- An answer outside the 2xx range, or none at all. -/
def SessionViewDto.failed (view : SessionViewDto) : Bool :=
  !view.reachable || view.httpStatus < 200 || 299 < view.httpStatus

end Dish
