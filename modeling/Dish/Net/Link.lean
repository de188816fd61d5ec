/-
One connection and its satellite, with the requests between them.

A request goes out, arrives at the satellite, which serves it, and its answer comes
back to the callback it was sent with.  Requests overtake each other freely, and one
may be lost on the way there or on the way back; the transport then calls back with
no answer at all.  Everything else is `WifiConnectionManager` driving one
`WifiConnection` whose satellite it is paired with: the credentials are there and the
satellite never refuses.  The pool, pairing, timers and the address book are not part
of this, nor is the capability probe, which touches none of the slots.
-/
import Dish.Lib.Run
import Dish.Net.Session

namespace Dish

inductive ConnectIntent where
  | userInitiated
  | autoReconnect
  | retryAfterDeath
  deriving DecidableEq, Repr

/-- A request with what its callback captured. -/
inductive Request where
  /-- The session PUT of `openSession`, for `onSessionReply`. -/
  | session (intent : ConnectIntent) (sent : List ControllerDescriptor) (mouse : Bool)
  /-- The session PUT of `rekey`, for `onRekeyReply`, with the client it is for. -/
  | rekey (client : Nat) (sent : List ControllerDescriptor) (mouse : Bool)
  | reconcile (connectionId : String)
  /-- The controller PUT of `syncSlot`. -/
  | sync (connectionId : String) (descriptor : ControllerDescriptor)
  /-- The controller DELETE of `deleteSlot`. -/
  | remove (connectionId : String) (ctrlIdx : Nat)
  /-- The session DELETE of `releaseSession`, whose answer nobody waits for. -/
  | release (connectionId : String)
  deriving DecidableEq

/-- What goes out on the wire. -/
def Request.call : Request → Call
  | .session _ sent mouse => .putSession sent mouse
  | .rekey _ sent mouse => .putSession sent mouse
  | .reconcile connectionId => .getSession connectionId
  | .sync connectionId descriptor => .putController connectionId descriptor
  | .remove connectionId ctrlIdx => .deleteController connectionId ctrlIdx
  | .release connectionId => .deleteSession connectionId

/-- A controller call as the request it is sent in. -/
def Request.ofController : Call → Option Request
  | .putController connectionId descriptor => some (.sync connectionId descriptor)
  | .deleteController connectionId ctrlIdx => some (.remove connectionId ctrlIdx)
  | _ => none

/-- A request whose callback has not run; no answer means it has not arrived yet. -/
structure Exchange where
  request : Request
  answer : Option Answer := none
  deriving DecidableEq

structure Link where
  conn : WifiConnection
  sat : Satellite
  net : List Exchange
  reconcileInFlight : Bool
  /-- The number of clients made so far. -/
  clients : Nat

def kHeartbeatMissMax : Nat := 5

inductive LinkAction where
  | attach (slotId : SlotId) (shape : SlotShape)
  | detach (slotId : SlotId)
  | connect (intent : ConnectIntent)
  | disconnect
  | markStale
  /-- The `k`th request arrives at the satellite. -/
  | arrive (k : Nat)
  /-- The answer to the `k`th request comes back; `material` is what is read from a
  granted session, and `socketOpened` whether its socket opens. -/
  | reply (k : Nat) (material : Option Material) (socketOpened : Bool)
  /-- The `k`th request, or the answer to it, is lost. -/
  | lose (k : Nat)
  /-- An enriched heartbeat ack is received. -/
  | ack (epoch bitmap : Nat)
  /-- A heartbeat interval passes. -/
  | miss
  /-- The send counter moves on. -/
  | count (sendCounter : Nat)
  /-- `onAliveTick`. -/
  | tick

namespace Link

variable (s : Link)

/-! ### Sending -/

def send (request : Request) : Link := { s with net := s.net ++ [{ request := request }] }

def sendControllers (calls : List Call) : Link :=
  { s with net := s.net ++ (calls.filterMap Request.ofController).map fun r => { request := r } }

/-- `syncSlot` and `deleteSlot`, on the signal that asks for them. -/
def onSignal : Option SlotSignal → Link
  | none => s
  | some (.slotChanged slotId) => s.sendControllers (s.conn.syncSlot slotId).toList
  | some (.slotRemoved ctrlIdx) => s.sendControllers (s.conn.deleteSlot ctrlIdx).toList

def openSession (intent : ConnectIntent) : Link :=
  s.send (.session intent s.conn.desiredDescriptors s.conn.wantsMouseControl)

/-- `reconcile`: at most one GET at a time. -/
def reconcile : Link :=
  match s.conn.reconcileTarget with
  | none => s
  | some connId =>
    if s.reconcileInFlight then s
    else { s.send (.reconcile connId) with reconcileInFlight := true }

/-- `rekey`, in a live session. -/
def rekey : Link :=
  if s.conn.state ≠ .live then s
  else
    match s.conn.client with
    | none => s
    | some client =>
      s.send (.rekey client.ref s.conn.desiredDescriptors s.conn.wantsMouseControl)

/-- `disconnect`: the session is handed back if there is one. -/
def disconnect : Link :=
  let connId := s.conn.connectionId
  let next := { s with conn := s.conn.markDisconnected }
  match connId with
  | none => next
  | some connId => next.send (.release connId)

/-- `connectTo` with a key on file. -/
def connect (intent : ConnectIntent) : Link :=
  if s.conn.state = .live ∨ s.conn.state = .linking then s
  else ({ s with conn := s.conn.markConnecting } : Link).openSession intent

/-! ### Answers -/

/-- `onSessionRefused` for a request that got no answer. -/
def onSessionUnreachable (intent : ConnectIntent) : Link :=
  if s.conn.state ≠ .linking then s
  else
    match intent with
    | .userInitiated => { s with conn := s.conn.markDisconnected }
    | _ => { s with conn := s.conn.markStale }

/-- `onSessionReply` for a grant, and `onGrantUnusable`. -/
def onSessionReply (sent : List ControllerDescriptor) (resp : SessionResponse)
    (material : Option Material) (socketOpened : Bool) : Link :=
  match resp.connectionId with
  | none => s
  | some connId =>
    if s.conn.state ≠ .linking then s.send (.release connId)
    else
      match material with
      | some m =>
        if socketOpened then
          let conn := s.conn.startSession { ref := s.clients, material := m } connId resp
          ({ s with conn := conn, clients := s.clients + 1 } : Link).sendControllers
            (conn.convergeLateSlots (descriptorsToDesired sent))
        else
          ({ s with conn := s.conn.markDisconnected } : Link).send (.release connId)
      | none =>
        ({ s with conn := s.conn.markDisconnected } : Link).send (.release connId)

/-- `onRekeyReply` for a grant. -/
def onRekeyReply (client : Nat) (resp : SessionResponse) (material : Option Material) : Link :=
  match s.conn.client, material with
  | some current, some m =>
    if s.conn.state = .live ∧ current.ref = client then
      { s with conn := s.conn.adoptRekey current m resp.epoch }
    else s
  | _, _ => s

/-- The callback of the session GET. -/
def onView (view : SessionViewDto) : Link :=
  let s := { s with reconcileInFlight := false }
  if s.conn.state ≠ .live then s
  else if view.failed then s
  else if s.conn.viewIsBenign view then { s with conn := s.conn.adoptEpoch view.epoch }
  else
    -- the converging PUT rotates the token and key, so the UDP tuple goes first
    ({ s with conn := s.conn.markDisconnected.markConnecting } : Link).openSession .retryAfterDeath

/-- The callback of `syncSlot`: a mouse-mode toggle needs the whole session converged. -/
def onSync (resp : ControllerPutResponse) : Link :=
  match resp.controller with
  | none => s
  | some r =>
    let s := { s with conn := s.conn.applyControllerPut resp r }
    if s.conn.wantsMouseControl ≠ s.conn.mouseControlGranted then s.reconcile else s

def onRemove (resp : ControllerPutResponse) : Link :=
  { s with conn := s.conn.applyControllerDelete resp }

/-- The callback of a request runs on its answer. -/
def onAnswer (material : Option Material) (socketOpened : Bool) : Request → Answer → Link
  | .session _ sent _, .session resp => s.onSessionReply sent resp material socketOpened
  | .rekey client _ _, .session resp => s.onRekeyReply client resp material
  | .reconcile _, .view view => s.onView view
  | .sync _ _, .controller resp => s.onSync resp
  | .remove _ _, .controller resp => s.onRemove resp
  | _, _ => s

/-- The callback of a request runs without an answer. -/
def onNoAnswer : Request → Link
  | .session intent _ _ => s.onSessionUnreachable intent
  | .reconcile _ => s.onView {}
  | .sync _ _ => s.onSync {}
  -- an answer that never came carries no error either, so its epoch is adopted
  | .remove _ _ => s.onRemove {}
  | .rekey _ _ _ | .release _ => s

/-! ### Timers and acks -/

def mapClient (f : SessionClient → SessionClient) : Link :=
  { s with conn := { s.conn with client := s.conn.client.map f } }

/-- `onAliveTick`: a dead session is dropped, a live one looked after. -/
def tick : Link :=
  match s.conn.client with
  | none => s
  | some client =>
    if !client.alive then s.disconnect
    else
      let s := ({ s with conn := s.conn.applySteadyState client } : Link).reconcile
      let (conn, asks) := s.conn.maybeRequestRekey client
      let s := { s with conn := conn }
      if asks then s.rekey else s

def step : LinkAction → Link
  | .attach slotId shape =>
    let (conn, signal) := s.conn.attachSlot slotId shape
    ({ s with conn := conn } : Link).onSignal signal
  | .detach slotId =>
    let (conn, signal) := s.conn.detachSlot slotId
    ({ s with conn := conn } : Link).onSignal signal
  | .connect intent => s.connect intent
  | .disconnect => s.disconnect
  | .markStale => { s with conn := s.conn.markStale }
  | .arrive k =>
    match s.net[k]? with
    | some ⟨request, none⟩ =>
      let (sat, answer) := s.sat.serve request.call
      { s with sat := sat, net := s.net.set k ⟨request, some answer⟩ }
    | _ => s
  | .reply k material socketOpened =>
    match s.net[k]? with
    | some ⟨request, some answer⟩ =>
      ({ s with net := s.net.eraseIdx k } : Link).onAnswer material socketOpened request answer
    | _ => s
  | .lose k =>
    match s.net[k]? with
    | some x => ({ s with net := s.net.eraseIdx k } : Link).onNoAnswer x.request
    | none => s
  | .ack epoch bitmap =>
    s.mapClient fun c =>
      { c with missedAcks := 0, alive := true, serverEpoch := epoch, serverBitmap := bitmap }
  | .miss =>
    s.mapClient fun c =>
      { c with
        missedAcks := c.missedAcks + 1
        alive := c.alive && decide (c.missedAcks + 1 < kHeartbeatMissMax) }
  | .count sendCounter => s.mapClient fun c => { c with sendCounter := sendCounter }
  | .tick => s.tick

/-- A connection just made, and a satellite with no session for it. -/
def fresh (server : DiscoveredServer) (sat : Satellite) : Link where
  conn := { server := server }
  sat := { sat with up := false, epoch := 0, holds := fun _ => none, granted := false }
  net := []
  reconcileInFlight := false
  clients := 0

end Link

end Dish
