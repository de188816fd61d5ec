/-
`ConnectionHub`: which slot is bound to which connection.

The binding table is the hub's, keyed by slot.  The connections keep their own slots, and
`bind` and `unbind` change both sides.  The pool is the manager's and neither call changes
which connections are in it.
-/
import Dish.Net.WifiConnection
import Dish.Lib.Run
import Mathlib.Data.List.AList

namespace Dish

/-- `detachSlot` without an argument: the slot the connection last bound. -/
def WifiConnection.detachBoundSlot (c : WifiConnection) : WifiConnection :=
  match c.boundSlotId with
  | none => c
  | some slotId => (c.detachSlot slotId).1

/-- `sendTarget`: the client and the controller index the bound slot's reports go to. -/
def WifiConnection.sendTarget (c : WifiConnection) : Option (SessionClient × Nat) :=
  match c.boundSlotId with
  | none => none
  | some slotId =>
    match c.slots.find slotId with
    | none => none
    | some b => if b.registered then c.client.map fun client => (client, b.controllerIndex) else none

structure Hub where
  bindings : AList fun _ : SlotId => SatelliteId := ∅
  pool : SatelliteId → Option WifiConnection

inductive HubAction where
  | bind (slotId : SlotId) (connectionId : SatelliteId) (shape : SlotShape)
  | unbind (slotId : SlotId)
deriving DecidableEq

namespace Hub

/-- The connection, if it is in the pool, changed by `f`. -/
def onConnection (s : Hub) (id : SatelliteId) (f : WifiConnection → WifiConnection) : Hub :=
  { s with pool := Function.update s.pool id ((s.pool id).map f) }

/-- The other slot that is bound to the connection; the source's empty string is none. -/
def priorSlot (s : Hub) (slotId : SlotId) (connectionId : SatelliteId) : Option SlotId :=
  match s.bindings.entries.find? fun e => e.2 = connectionId ∧ e.1 ≠ slotId with
  | some e => if e.1 = "" then none else some e.1
  | none => none

/-- `bind`; the shape is what the capability resolvers answer for the slot. -/
def bind (s : Hub) (slotId : SlotId) (connectionId : SatelliteId) (shape : SlotShape) : Hub :=
  let evicted : Hub :=
    match s.priorSlot slotId connectionId with
    | some prior =>
      { s with bindings := s.bindings.erase prior }.onConnection connectionId
        WifiConnection.detachBoundSlot
    | none => s
  { evicted with bindings := evicted.bindings.insert slotId connectionId }.onConnection
    connectionId fun c => (c.attachSlot slotId shape).1

def unbind (s : Hub) (slotId : SlotId) : Hub :=
  match s.bindings.lookup slotId with
  | none => s
  | some connectionId =>
    { s with bindings := s.bindings.erase slotId }.onConnection connectionId
      WifiConnection.detachBoundSlot

def step (s : Hub) : HubAction → Hub
  | .bind slotId connectionId shape => s.bind slotId connectionId shape
  | .unbind slotId => s.unbind slotId

end Hub

end Dish
