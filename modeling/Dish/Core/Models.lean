/-
How a satellite is named and where it is reached.

The id is the stable machine id the beacon carries; a satellite that predates it is
named by its address and UDP port, so such a satellite that moves is a new one.
-/

namespace Dish

/-- `models::DiscoveredServer`, without the field that says which scan found it. -/
structure DiscoveredServer where
  name : String := ""
  ip : String
  udpPort : Nat := 9876
  pairPort : Nat := 9443
  httpPort : Nat := 9443
  machineId : String := ""
  deriving DecidableEq, Repr

/-- The two forms of a satellite id, `mid:<machineId>` and `wifi:<ip>:<udpPort>`. -/
inductive SatelliteId where
  | mid (machineId : String)
  | wifi (ip : String) (udpPort : Nat)
  deriving DecidableEq, Repr

def DiscoveredServer.id (s : DiscoveredServer) : SatelliteId :=
  if s.machineId ≠ "" then .mid s.machineId else .wifi s.ip s.udpPort

end Dish
