/-
`ConnectionStore`: what is kept on disk about satellites, and the rules that keep the
three repositories behind it in step.

Keys are filed by satellite id, certificate pins by host address, and the remembered
rows by satellite id.  The keys are those of the settings file, as on a desktop with no
Secret Service; `Dish.Repository.SharedKey` has both stores.  In every table an empty
text reads as no value.
-/
import Mathlib.Data.List.Sort
import Dish.Core.Models
import Dish.Repository.SharedKey

namespace Dish

/-- The text a satellite id is stored and ordered under. -/
def SatelliteId.text : SatelliteId → String
  | .mid machineId => "mid:" ++ machineId
  | .wifi ip udpPort => "wifi:" ++ ip ++ ":" ++ toString udpPort

/-- `s.trimmed().isEmpty()`, over the spaces of ASCII. -/
def isBlank (s : String) : Bool := s.toList.all Char.isWhitespace

/-! ### Remembered rows -/

/-- `RememberedSatelliteRepository`: one row per id, in the order of the ids' texts.  A
row is written under the id of its own fields. -/
structure RememberedRows where
  all : List DiscoveredServer
  distinctIds : (all.map DiscoveredServer.id).Nodup

namespace RememberedRows

def empty : RememberedRows := ⟨[], List.nodup_nil⟩

variable (t : RememberedRows)

def get (id : SatelliteId) : Option DiscoveredServer := t.all.find? fun row => row.id = id

def remove (id : SatelliteId) : RememberedRows where
  all := t.all.filter fun row => row.id ≠ id
  distinctIds := t.distinctIds.sublist (List.filter_sublist.map _)

/-- Rows in the order of their ids' texts. -/
def InOrder (a b : DiscoveredServer) : Prop := ¬b.id.text < a.id.text

instance : DecidableRel InOrder := fun a b => inferInstanceAs (Decidable ¬b.id.text < a.id.text)

def put (row : DiscoveredServer) : RememberedRows where
  all := (t.remove row.id).all.orderedInsert InOrder row
  distinctIds := by
    have hperm := (List.perm_orderedInsert InOrder row (t.remove row.id).all).map DiscoveredServer.id
    rw [hperm.nodup_iff, List.map_cons, List.nodup_cons]
    refine ⟨fun hmem => ?_, (t.remove row.id).distinctIds⟩
    obtain ⟨other, hother, heq⟩ := List.mem_map.mp hmem
    simp [remove, heq] at hother

end RememberedRows

/-! ### The store -/

structure ConnectionStore where
  satellites : RememberedRows
  keys : KeyTable SatelliteId
  /-- `SatellitePinRepository`: the certificate fingerprint trusted at an address. -/
  pins : KeyTable String

namespace ConnectionStore

def empty : ConnectionStore := ⟨.empty, ∅, ∅⟩

variable (s : ConnectionStore)

def sharedKey (id : SatelliteId) : Option String := s.keys.value id

def setSharedKey (id : SatelliteId) (keyHex : String) : ConnectionStore :=
  { s with keys := s.keys.insert id keyHex }

def forgetKey (id : SatelliteId) : ConnectionStore := { s with keys := s.keys.erase id }

def pinnedFingerprint (host : String) : Option String := s.pins.value host

def pin (host fingerprint : String) : ConnectionStore :=
  { s with pins := s.pins.insert host fingerprint }

def forgetPin (host : String) : ConnectionStore := { s with pins := s.pins.erase host }

/-- `refreshKnownBox`: the row with a machine id at the server's endpoint, brought up to
date; none when there is no such row. -/
def refreshKnownBox (server : DiscoveredServer) : Option ConnectionStore :=
  (s.satellites.all.find? fun row =>
    !isBlank row.machineId && row.ip = server.ip && row.udpPort = server.udpPort).map fun row =>
      let refreshed := { row with
        name := server.name, pairPort := server.pairPort, httpPort := server.httpPort }
      if refreshed ≠ row then { s with satellites := s.satellites.put refreshed } else s

/-- A row that has no machine id and is at the server's endpoint. -/
def isGhostOf (server row : DiscoveredServer) : Bool :=
  isBlank row.machineId && row.ip = server.ip && row.udpPort = server.udpPort

/-- One ghost is dropped, its key carried to `id` unless `id` has one. -/
def collapseGhost (id : SatelliteId) (row : DiscoveredServer) : ConnectionStore :=
  let keyed :=
    match s.sharedKey id, s.sharedKey row.id with
    | none, some ghostKey => s.setSharedKey id ghostKey
    | _, _ => s
  { keyed.forgetKey row.id with satellites := s.satellites.remove row.id }

def collapseLegacyGhosts (server : DiscoveredServer) (id : SatelliteId) : ConnectionStore :=
  (s.satellites.all.filter (isGhostOf server)).foldl (fun s row => s.collapseGhost id row) s

/-- `migratePinOnAddressChange`: a pin already trusted at the new address stays, the old
address's is always dropped. -/
def migratePinOnAddressChange (oldIp : Option String) (newIp : String) : ConnectionStore :=
  match oldIp with
  | none => s
  | some oldIp =>
    if oldIp = newIp then s
    else
      let moved :=
        match s.pinnedFingerprint newIp, s.pinnedFingerprint oldIp with
        | none, some oldPin => s.pin newIp oldPin
        | _, _ => s
      moved.forgetPin oldIp

/-- `rememberSatellite`, and `remember` of the facade. -/
def remember (server : DiscoveredServer) : ConnectionStore :=
  -- a beacon without a machine id never mints a row beside a known box
  match if isBlank server.machineId then s.refreshKnownBox server else none with
  | some refreshed => refreshed
  | none =>
    let s := if !isBlank server.machineId then s.collapseLegacyGhosts server server.id else s
    let existing := s.satellites.get server.id
    let s := s.migratePinOnAddressChange (existing.map (·.ip)) server.ip
    if existing = some server then s else { s with satellites := s.satellites.put server }

/-- `refreshFromDiscovery`: a known id, or the upgrade of a row without a machine id. -/
def refreshFromDiscovery (discovered : List DiscoveredServer) : ConnectionStore :=
  let rows := s.satellites.all
  let eligible := fun server : DiscoveredServer =>
    !isBlank server.machineId &&
      (rows.any (fun row => row.id = server.id) || rows.any (isGhostOf server))
  (discovered.filter eligible).foldl remember s

/-- `forgetSatellite`, and `forget` of the facade. -/
def forget (id : SatelliteId) : ConnectionStore :=
  let s := match s.satellites.get id with
    | some row => s.forgetPin row.ip
    | none => s
  { s.forgetKey id with satellites := s.satellites.remove id }

end ConnectionStore

end Dish
