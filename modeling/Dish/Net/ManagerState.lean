/-
What `WifiConnectionManager` keeps: the store, the pool of connections, the requests it
has out, its timers and flags, and the one approval request it can have on screen.

A request is kept with what its callback captured.  The TLS handshake of a request is an
event of its own, since the verifier writes pins during it, and a callback runs exactly
once, with the answer or without one.
-/
import Mathlib.Data.Finset.Basic
import Dish.Core.Negotiation
import Dish.Core.IpLiterals
import Dish.Http.SatelliteTlsVerifier
import Dish.Net.Link

namespace Dish

/-! ### The pool -/

/-- A connection object of the pool. -/
structure Pooled where
  /-- Which object it is: an id forgotten and paired afresh gets another one. -/
  ref : Nat
  conn : WifiConnection
  /-- The server captured by the callbacks `markConnected` was given. -/
  startedWith : DiscoveredServer

/-- `connections_`. -/
abbrev Pool := AList fun _ : SatelliteId => Pooled

/-- Changes the object of an id, if there is one. -/
def Pool.modify (pool : Pool) (id : SatelliteId) (f : Pooled → Pooled) : Pool :=
  match pool.lookup id with
  | none => pool
  | some p => pool.insert id (f p)

theorem Pool.lookup_modify (pool : Pool) (id : SatelliteId) (f : Pooled → Pooled)
    (other : SatelliteId) :
    (pool.modify id f).lookup other =
      (pool.lookup other).map fun p => if other = id then f p else p := by
  unfold Pool.modify
  by_cases hid : other = id
  · subst hid
    cases hp : pool.lookup other with
    | none => simp [hp]
    | some p => simp [AList.lookup_insert]
  · have hkeep : (fun p : Pooled => if other = id then f p else p) = fun p => p := by
      funext p
      rw [if_neg hid]
    rw [hkeep, Option.map_id']
    cases pool.lookup id with
    | none => rfl
    | some p => exact AList.lookup_insert_ne hid

/-! ### Requests -/

/-- What a session PUT declares. -/
structure SessionBody where
  descriptors : List ControllerDescriptor
  mouseControl : Bool
  protocolVersion : Nat
  deriving DecidableEq

/-- A request with what its callback captured, and where it goes. -/
inductive HttpRequest where
  /-- The pair POST of `pairWithPin`. -/
  | pinPair (id : SatelliteId) (sentOn : Nat) (server : DiscoveredServer) (pin : String)
  /-- The pair POST of `pairAndConnect`, sent without a PIN. -/
  | connectPair (id : SatelliteId) (sentOn : Nat) (server : DiscoveredServer)
      (intent : ConnectIntent)
  /-- The pair POST of `requestReversePairing`.  `attempt` is not captured: it says which
  approval request it belongs to. -/
  | reversePair (id : SatelliteId) (sentOn : Nat) (server : DiscoveredServer) (pin : String)
      (attempt : Nat)
  /-- The status poll, with the approval request it belongs to. -/
  | pairStatus (server : DiscoveredServer) (attempt : Nat)
  /-- The session PUT of `openSession`. -/
  | session (id : SatelliteId) (sentOn : Nat) (server : DiscoveredServer)
      (intent : ConnectIntent) (pairingKey : String) (body : SessionBody)
  /-- The session PUT of `rekey`, with the client it is for. -/
  | rekey (id : SatelliteId) (client : Nat) (server : DiscoveredServer) (pairingKey : String)
      (body : SessionBody)
  /-- The session GET of `reconcile`. -/
  | reconcile (id : SatelliteId) (server : DiscoveredServer) (connectionId : String)
  | capabilities (id : SatelliteId) (server : DiscoveredServer)
  | syncSlot (id : SatelliteId) (server : DiscoveredServer) (connectionId : String)
      (descriptor : ControllerDescriptor)
  | deleteSlot (id : SatelliteId) (server : DiscoveredServer) (connectionId : String)
      (ctrlIdx : Nat)
  | deleteSession (id : SatelliteId) (server : DiscoveredServer) (connectionId : String)
  | unpair (id : SatelliteId) (server : DiscoveredServer)
  deriving DecidableEq

namespace HttpRequest

/-- The satellite a request is about. -/
def satellite : HttpRequest → SatelliteId
  | pinPair id .. | connectPair id .. | reversePair id .. | session id .. | rekey id ..
  | reconcile id .. | capabilities id .. | syncSlot id .. | deleteSlot id ..
  | deleteSession id .. | unpair id .. => id
  | pairStatus server _ => server.id

/-- Where a request goes. -/
def server : HttpRequest → DiscoveredServer
  | pinPair _ _ server .. | connectPair _ _ server .. | reversePair _ _ server ..
  | session _ _ server .. | rekey _ _ server .. | reconcile _ server .. | capabilities _ server
  | syncSlot _ server .. | deleteSlot _ server .. | deleteSession _ server .. | unpair _ server
  | pairStatus server _ => server

end HttpRequest

/-- A request whose callback has not run. -/
structure InFlight where
  /-- Its place among all requests ever sent. -/
  serial : Nat
  request : HttpRequest
  /-- What the certificate check said; none before the handshake. -/
  tls : Option PeerCheck := none
  deriving DecidableEq

/-- What a callback is called with.  `derived` is the session key the token and the salt of an
answer give with the pairing key, and `socketOpened` whether its UDP socket opens. -/
inductive HttpAnswer where
  | pair (response : PairResponse)
  | session (response : SessionResponse) (derived : BitVec 256) (socketOpened : Bool)
  | view (view : SessionViewDto)
  | capabilities (caps : CapabilitiesDto)
  | controller (response : ControllerPutResponse)
  | done
  deriving DecidableEq

/-! ### Timers, the approval request and events -/

/-- A silent retry that is armed, with what its timer captured. -/
structure Retry where
  id : SatelliteId
  server : DiscoveredServer
  generation : Nat
  delayMs : Nat
  deriving DecidableEq

inductive ReversePairingPhase where
  | idle
  | awaitingApproval
  | approved
  | declined
  | timedOut
  | identityChanged
  | versionMismatch
  deriving DecidableEq, Repr

/-- The members `reverse…_` of the manager. -/
structure ReversePairing where
  phase : ReversePairingPhase := .idle
  pin : String := ""
  serverName : String := ""
  server : DiscoveredServer := { ip := "" }
  /-- Whether the poll timer runs. -/
  polling : Bool := false
  elapsedMs : Nat := 0
  deadlineMs : Nat := 0
  sawPending : Bool := false
  pollInFlight : Bool := false
  /-- The number of approval requests made so far; not in the source. -/
  attempt : Nat := 0
  deriving DecidableEq

/-- What the manager tells the user interface. -/
inductive ConnectionEvent where
  | error (message : String)
  | pairingRequired (server : DiscoveredServer)
  | pairingFailed (id : SatelliteId) (reasonToken : String)
  deriving DecidableEq

/-! ### The manager -/

structure Manager where
  store : ConnectionStore
  connections : Pool := ∅
  net : List InFlight := []
  /-- Every request sent so far, in order; not in the source. -/
  sent : List HttpRequest := []
  retries : List Retry := []
  /-- `retryAttempts_`; no entry reads as 0. -/
  retryAttempts : SatelliteId → Nat := fun _ => 0
  retryGeneration : SatelliteId → Nat := fun _ => 0
  heldByUser : Finset SatelliteId := ∅
  pairingInFlight : Finset SatelliteId := ∅
  reconcileInFlight : Finset SatelliteId := ∅
  scanning : Bool := false
  discovered : List DiscoveredServer := []
  reverse : ReversePairing := {}
  events : List ConnectionEvent := []
  /-- The numbers of connection objects and of clients made so far. -/
  refs : Nat := 0
  clients : Nat := 0

/-- A manager just constructed over a store. -/
def Manager.ofStore (store : ConnectionStore) : Manager := { store := store }

inductive ManagerAction where
  /-- The user connects. -/
  | connectTo (server : DiscoveredServer)
  | pairWithPin (server : DiscoveredServer) (pin : String)
  /-- The user asks for approval on the satellite; `drawn` is the random draw. -/
  | requestReversePairing (server : DiscoveredServer) (drawn : Nat)
  | cancelReversePairing
  | disconnect (id : SatelliteId)
  | disconnectByUser (id : SatelliteId)
  | forget (id : SatelliteId)
  | markStale (id : SatelliteId)
  | startDiscovery
  | scanFinished (discovered : List DiscoveredServer)
  /-- The periodic timer of `AppModel`. -/
  | autoReconnectAll
  | prepareForSleep
  | resumeFromSleep
  /-- The timer of the `k`th armed retry fires. -/
  | retryDue (k : Nat)
  /-- The poll timer of the approval request fires. -/
  | reverseTimer
  | aliveTick (id : SatelliteId)
  | attachSlot (id : SatelliteId) (slotId : SlotId) (shape : SlotShape)
  | detachSlot (id : SatelliteId) (slotId : SlotId)
  /-- An enriched heartbeat ack is received. -/
  | ack (id : SatelliteId) (epoch bitmap : Nat)
  /-- A heartbeat interval passes. -/
  | miss (id : SatelliteId)
  /-- The send counter moves on. -/
  | count (id : SatelliteId) (sendCounter : Nat)
  /-- A close notice is received. -/
  | closeNotice (id : SatelliteId) (reason : Nat)
  /-- The TLS handshake of the `k`th request ends, with the certificate presented. -/
  | handshake (k : Nat) (presented : Option String)
  /-- The callback of the `k`th request runs, with its answer. -/
  | reply (k : Nat) (answer : HttpAnswer)
  /-- The callback of the `k`th request runs, with no answer. -/
  | fail (k : Nat) (failure : TransportFailure)

end Dish
