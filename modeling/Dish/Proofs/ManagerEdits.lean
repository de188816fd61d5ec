/-
What the methods of the manager are made of.

Most of them only note something down, change a connection, open one or send a request.
`EditClosed` says of a relation between states that each of these edits satisfies it; every
such method then does, which is shown here once.  The methods that write a book, who is held
down, which retries are armed and the approval request, are followed up to that write.

A method is called with the id of a satellite and the record of a server side by side.  `P`
stands for their naming one satellite: a relation that does not care takes `False` for it.
Dialling is told apart from the other edits: `T` says whose attempts the relation allows.  So is
the protocol version a connection offers, which only a version refusal writes: `O` says whose offer
the relation watches.
-/
import Dish.Net.AttemptView
import Dish.Proofs.LinkInv

namespace Dish

open WifiConnection

namespace WifiConnection

variable (c : WifiConnection)

/-! ### Only `updateServer` changes the server -/

@[simp] theorem server_markConnecting : c.markConnecting.server = c.server := by
  unfold markConnecting
  split <;> rfl

@[simp] theorem server_markDisconnected : c.markDisconnected.server = c.server := by
  unfold markDisconnected
  split <;> rfl

@[simp] theorem server_markStale : c.markStale.server = c.server := by
  unfold markStale
  split <;> rfl

section
variable (client : SessionClient)

@[simp] theorem server_applySteadyState :
    (c.applySteadyState client).server = c.server := by
  unfold applySteadyState
  dsimp only
  split <;> rfl

@[simp] theorem server_attachSlot (slotId : SlotId) (shape : SlotShape) :
    (c.attachSlot slotId shape).1.server = c.server := by
  unfold attachSlot
  split <;> rfl

@[simp] theorem server_detachSlot (slotId : SlotId) :
    (c.detachSlot slotId).1.server = c.server := by
  unfold detachSlot
  split <;> rfl

@[simp] theorem server_maybeRequestRekey :
    (c.maybeRequestRekey client).1.server = c.server := by
  unfold maybeRequestRekey
  split
  · rfl
  · split <;> rfl

@[simp] theorem server_startSession (connectionId : String)
    (resp : SessionResponse) : (c.startSession client connectionId resp).server = c.server := by
  unfold startSession
  simp [markConnected]
  split <;> rfl

end

/-! ### Only a version refusal changes the offer -/

theorem offered_markConnecting :
    c.markConnecting.offeredProtocolVersion = c.offeredProtocolVersion := by
  unfold markConnecting
  split <;> rfl

theorem offered_markStale : c.markStale.offeredProtocolVersion = c.offeredProtocolVersion := by
  unfold markStale
  split <;> rfl

theorem offered_markDisconnected :
    c.markDisconnected.offeredProtocolVersion = c.offeredProtocolVersion := by
  unfold markDisconnected
  split <;> rfl

section
variable (client : SessionClient)

theorem offered_applySteadyState :
    (c.applySteadyState client).offeredProtocolVersion = c.offeredProtocolVersion := by
  unfold applySteadyState
  dsimp only
  split <;> rfl

theorem offered_maybeRequestRekey :
    (c.maybeRequestRekey client).1.offeredProtocolVersion = c.offeredProtocolVersion := by
  unfold maybeRequestRekey
  split
  · rfl
  · split <;> rfl

theorem offered_startSession (connectionId : String) (resp : SessionResponse) :
    (c.startSession client connectionId resp).offeredProtocolVersion =
      c.offeredProtocolVersion := by
  unfold startSession
  simp [markConnected]
  split <;> rfl

end

@[simp] theorem server_applyControllerDelete (resp : ControllerPutResponse) :
    (c.applyControllerDelete resp).server = c.server := by
  unfold applyControllerDelete
  split <;> rfl

end WifiConnection

/-- A request of an approval attempt: its pair POST or one of its status polls. -/
def HttpRequest.isApproval : HttpRequest → Bool
  | reversePair .. | pairStatus .. => true
  | _ => false

theorem HttpRequest.isApproval_of_driven {r : HttpRequest} {o : SatelliteId × Nat}
    (h : r.driven = some o) : r.isApproval = false := by
  cases r <;> first | rfl | exact absurd h (by simp [driven])

/-- The id a request is answered under is that of the server it goes to. -/
def HttpRequest.IsAddressed (r : HttpRequest) : Prop := r.server.id = r.satellite

namespace Manager

/-- The request is off the wire. -/
abbrev popped (s : Manager) (k : Nat) : Manager := { s with net := s.net.eraseIdx k }

/-- Every request goes to the satellite it is about, and so does every connection. -/
structure Addressed (s : Manager) : Prop where
  requests : ∀ x ∈ s.net, x.request.IsAddressed
  server : ∀ id p, s.conn? id = some p → p.conn.server.id = id
  startedWith : ∀ id p, s.conn? id = some p → p.startedWith.id = id

/-- The pool, the requests and the books. -/
def books (s : Manager) : Pool × List InFlight × List HttpRequest × Finset SatelliteId × List Retry ×
    (SatelliteId → Nat) × ReversePairing :=
  (s.connections, s.net, s.sent, s.heldByUser, s.retries, s.retryGeneration, s.reverse)

theorem conn?_onConn (s : Manager) (id other : SatelliteId) (f : WifiConnection → WifiConnection) :
    (s.onConn id f).conn? other =
      (s.conn? other).map fun p => if other = id then { p with conn := f p.conn } else p :=
  Pool.lookup_modify s.connections id _ other

theorem onConn_onConn (s : Manager) (id : SatelliteId) (f g : WifiConnection → WifiConnection) :
    (s.onConn id f).onConn id g = s.onConn id fun c => g (f c) := by
  simp only [onConn, mk.injEq, and_true, true_and]
  unfold Pool.modify
  cases hp : s.connections.lookup id with
  | none => simp only [hp]
  | some p => simp only [AList.lookup_insert, AList.insert_insert]

end Manager

namespace WifiConnection

/-- How the state of a connection changes other than by an attempt: not at all, down, or within a
session. -/
def Settling (c c' : WifiConnection) : Prop :=
  c'.state = c.state ∨ AttemptView.IsDown c'.state ∨
    AttemptView.InSession c.state ∧ AttemptView.InSession c'.state

section
variable (c : WifiConnection)

theorem isDown_markDisconnected :
    AttemptView.IsDown c.markDisconnected.state := .inl (state_markDisconnected c)

theorem isDown_markStale : AttemptView.IsDown c.markStale.state :=
  .inr (state_markStale c)

theorem settling_applySteadyState (client : SessionClient) :
    Settling c (c.applySteadyState client) := by
  by_cases hin : AttemptView.InSession c.state
  · refine .inr (.inr ⟨hin, ?_⟩)
    unfold applySteadyState
    rcases hin with hin | hin <;> rw [hin] <;> dsimp only <;> split
    all_goals first | exact .inl rfl | exact .inr rfl
  · refine .inl ?_
    unfold applySteadyState
    cases hst : c.state with
    | live => exact absurd (.inl hst) hin
    | faltering => exact absurd (.inr hst) hin
    | idle | linking | stale => exact hst

theorem state_attachSlot (slotId : SlotId) (shape : SlotShape) :
    (c.attachSlot slotId shape).1.state = c.state := by
  unfold attachSlot
  split <;> rfl

theorem state_detachSlot (slotId : SlotId) :
    (c.detachSlot slotId).1.state = c.state := by
  unfold detachSlot
  split <;> rfl

theorem state_maybeRequestRekey (client : SessionClient) :
    (c.maybeRequestRekey client).1.state = c.state := by
  unfold maybeRequestRekey
  split
  · rfl
  · split <;> rfl

end

end WifiConnection

namespace Manager

section
variable (s : Manager) (id : SatelliteId) (sentOn : Nat) (server : DiscoveredServer)
  (intent : ConnectIntent) (outcome : PairingOutcome)

/-- What a pair reply does: nothing when the connection it was sent on is gone; or the session is
opened with the key; or the connection goes down and the user may be told. -/
inductive PairReplied : Manager → Prop
  | stray (gone : s.replyTarget id sentOn = none) : PairReplied (s.endPairingRequest id sentOn)
  | granted {p : Pooled} (key : String) (is : outcome = .success key)
    (there : s.replyTarget id sentOn = some p) :
    PairReplied (((s.endPairingRequest id sentOn).adoptKey id key).openSession id server intent)
  | refused {p : Pooled} (f : WifiConnection → WifiConnection) (events : List ConnectionEvent)
    (failed : outcome.isSuccess = false) (there : s.replyTarget id sentOn = some p)
    (down : f = markDisconnected ∨ f = WifiConnection.markStale) :
    PairReplied { (s.endPairingRequest id sentOn).onConn id f with events := events }

theorem replyTarget_endPairingRequest :
    (s.endPairingRequest id sentOn).replyTarget id sentOn = s.replyTarget id sentOn := by
  unfold endPairingRequest
  split <;> rfl

theorem PairReplied.pin : PairReplied s id sentOn server .userInitiated outcome
    (s.onPinPairReply id sentOn server outcome) := by
  unfold onPinPairReply
  dsimp only
  rw [replyTarget_endPairingRequest]
  split
  · exact .stray ‹_›
  · cases outcome with
    | success key => exact .granted key rfl ‹_›
    | _ => exact .refused markDisconnected _ (by rfl) ‹_› (.inl rfl)

theorem PairReplied.connect : PairReplied s id sentOn server intent outcome
    (s.onConnectPairReply id sentOn server intent outcome) := by
  unfold onConnectPairReply park emitErrorIfUserInitiated
  dsimp only
  rw [replyTarget_endPairingRequest]
  split
  · exact .stray ‹_›
  · cases outcome with
    | success key => exact .granted key rfl ‹_›
    | authRequired | pending | unreachable =>
      dsimp only
      split
      · exact .refused markDisconnected _ (by rfl) ‹_› (.inl rfl)
      · exact .refused WifiConnection.markStale _ (by rfl) ‹_› (.inr rfl)
    | versionMismatch | identityChanged =>
      dsimp only
      split <;> exact .refused markDisconnected _ (by rfl) ‹_› (.inl rfl)

end

end Manager

/-- The versions a 409 names leave a common one, and the verdict is to offer lower. -/
def SessionResponse.asksLower (resp : SessionResponse) : Bool :=
  (settleRejected resp.supportedProtocol resp.supportedProtocolMin).1 = .retryLower

/-- A refused session PUT with the 409 that refuses it. -/
structure VersionRefusal where
  server : DiscoveredServer
  intent : ConnectIntent
  body : SessionBody
  resp : SessionResponse

namespace Manager

/-- The refusal a callback lowers the connection's offer for. -/
def refusedBy (s : Manager) (pinMismatch : Bool) : HttpRequest → HttpAnswer → Option VersionRefusal
  | .session id sentOn server intent _ body, .session resp _ _ =>
    if (s.replyTarget id sentOn).any (fun p => p.conn.state = .linking) ∧
        classifyRest resp pinMismatch = .versionMismatch ∧ resp.asksLower then
      some ⟨server, intent, body, resp⟩
    else none
  | _, _ => none

/-- A preorder on states that every edit satisfies. -/
structure EditClosed (P : Prop) (O T : SatelliteId → Prop) (R : Manager → Manager → Prop) :
    Prop where
  refl : ∀ s, R s s
  trans : ∀ {s t u}, R s t → R t u → R s u
  given : ∀ {s s'}, ((P → s.Addressed) → R s s') → R s s'
  note : ∀ {s s'}, s'.books = s.books → R s s'
  make : ∀ s server, R s (s.ensureConnection server)
  conn : ∀ {s id f}, (∀ p, s.conn? id = some p → p.conn.Settling (f p.conn) ∧
    (P → p.conn.server.id = id → (f p.conn).server.id = id) ∧
    (O id → (f p.conn).offeredProtocolVersion = p.conn.offeredProtocolVersion)) →
    R s (s.onConn id f)
  send : ∀ {s r}, r.driven = none → r.isApproval = false → (P → r.IsAddressed) → R s (s.send r)
  link : ∀ {s id}, T id → R s (s.onConn id markConnecting)
  ask : ∀ {s r id ref}, r.driven = some (id, ref) → T id → (P → r.IsAddressed) → R s (s.send r)
  start : ∀ {s id server} {f : WifiConnection → WifiConnection}, T id → (P → server.id = id) →
    (∀ c, (f c).server = c.server) →
    (∀ c, (f c).offeredProtocolVersion = c.offeredProtocolVersion) → R s { s with
      connections := s.connections.modify id fun p =>
        { p with conn := f p.conn, startedWith := server } }

namespace EditClosed

variable {P : Prop} {O T : SatelliteId → Prop} {R : Manager → Manager → Prop}
  (closed : EditClosed P O T R) {server : DiscoveredServer} {id : SatelliteId} (s : Manager)
  (sentOn : Nat) (intent : ConnectIntent) (connectionId : String) (resp : SessionResponse)
include closed

theorem foldl {α : Type} {f : Manager → α → Manager} (hf : ∀ s a, R s (f s a)) (as : List α)
    (s : Manager) : R s (as.foldl f s) :=
  List.foldlRecOn (motive := R s) as f (closed.refl s) fun t h a _ => closed.trans h (hf t a)

/-- Every change of a connection but a new address keeps its server. -/
theorem same (id : SatelliteId) {f : WifiConnection → WifiConnection}
    (hserver : ∀ c, (f c).server = c.server) (hstate : ∀ c, (f c).state = c.state)
    (hoffer : O id → ∀ c, (f c).offeredProtocolVersion = c.offeredProtocolVersion) :
    R s (s.onConn id f) :=
  closed.conn fun p _ => ⟨.inl (hstate p.conn), fun _ hid => by rw [hserver]; exact hid,
    fun watched => hoffer watched p.conn⟩

theorem disconnected (id : SatelliteId) : R s (s.onConn id markDisconnected) :=
  closed.conn fun p _ => ⟨.inr (.inl p.conn.isDown_markDisconnected), fun _ hid => by
    rw [server_markDisconnected]; exact hid, fun _ => p.conn.offered_markDisconnected⟩

theorem markStale (id : SatelliteId) : R s (s.markStale id) :=
  closed.conn fun p _ => ⟨.inr (.inl p.conn.isDown_markStale), fun _ hid => by
    rw [server_markStale]; exact hid, fun _ => p.conn.offered_markStale⟩

theorem applySteadyState (id : SatelliteId) (client : SessionClient) :
    R s (s.onConn id (·.applySteadyState client)) :=
  closed.conn fun p _ => ⟨p.conn.settling_applySteadyState client, fun _ hid => by
    rw [server_applySteadyState]; exact hid, fun _ => p.conn.offered_applySteadyState client⟩

theorem updateServer (server : DiscoveredServer) :
    R s (s.onConn server.id (·.updateServer server)) :=
  closed.conn fun _ _ => ⟨.inl rfl, fun _ _ => rfl, fun _ => rfl⟩

theorem emit (event : ConnectionEvent) : R s (s.emit event) := closed.note rfl

theorem emitErrorIfUserInitiated (message : String) :
    R s (s.emitErrorIfUserInitiated intent message) := by
  unfold Manager.emitErrorIfUserInitiated
  split
  · exact closed.emit s _
  · exact closed.refl s

theorem emits (messages : List String) :
    R s (messages.foldl (fun s message => s.emit (.error message)) s) :=
  closed.foldl (fun s _ => closed.emit s _) messages s

/-! ### Ending and opening sessions -/

theorem releaseSession (h : P → server.id = id) :
    R s (s.releaseSession id server connectionId) := by
  unfold Manager.releaseSession
  split
  · exact closed.send rfl rfl h
  · exact closed.refl s

theorem handBackLateGrant (h : P → server.id = id) : R s (s.handBackLateGrant id server resp) := by
  unfold Manager.handBackLateGrant
  split
  · exact closed.releaseSession s _ h
  · exact closed.refl s

/-- `disconnect`, once the retries armed before are out of date. -/
theorem disconnect (id : SatelliteId) :
    R { s with
      retryGeneration := Function.update s.retryGeneration id (s.retryGeneration id + 1) }
      (s.disconnect id) := by
  refine closed.given fun addressed => ?_
  unfold Manager.disconnect
  dsimp only
  split
  · exact closed.refl _
  · rename_i p hp
    have down := closed.disconnected { s with
      retryGeneration := Function.update s.retryGeneration id (s.retryGeneration id + 1) } id
    split
    · exact closed.trans down (closed.releaseSession _ _ fun h => (addressed h).server id p hp)
    · exact down

theorem onTerminalAuthFailure (id : SatelliteId) : R s (s.onTerminalAuthFailure id intent) := by
  unfold Manager.onTerminalAuthFailure
  refine closed.trans (closed.markStale s id) ?_
  refine closed.trans ?_ (closed.emitErrorIfUserInitiated _ intent _)
  exact closed.note rfl

theorem openSession (target : T id) (h : P → server.id = id) : R s (s.openSession id server intent) := by
  unfold Manager.openSession
  split
  · exact closed.refl s
  · split
    · exact closed.onTerminalAuthFailure s intent id
    · exact closed.ask rfl target h

theorem dial (target : T id) (h : P → server.id = id) : R s (s.dial id server intent) := by
  unfold Manager.dial
  refine closed.trans (closed.link target) ?_
  dsimp only
  split
  · exact closed.openSession _ intent target h
  · unfold pairAndConnect
    split
    · exact closed.refl _
    · refine closed.trans ?_ (closed.ask rfl target h)
      exact closed.note rfl

/-- `connectTo` writes one book, and only for the user: the hold is lifted. -/
theorem connectTo (server : DiscoveredServer) (target : T server.id) :
    R (if intent = .userInitiated ∧ addressRefusal server = none
      then s.clearForUserAction server.id else s) (s.connectTo server intent) := by
  have dialled : ∀ t : Manager, R t
      (let found := t.ensureConnection server
        let state := found.stateOf server.id
        let moved := found.onConn server.id (·.updateServer server)
        if state = some .live ∨ state = some .linking then moved
        else moved.dial server.id server intent) := by
    intro t
    dsimp only
    refine closed.trans (closed.make t server) (closed.trans (closed.updateServer _ server) ?_)
    split
    · exact closed.refl _
    · exact closed.dial _ intent target fun _ => rfl
  unfold Manager.connectTo
  cases hrefuse : addressRefusal server with
  | some message => simpa using closed.emitErrorIfUserInitiated s intent message
  | none =>
    by_cases user : intent = .userInitiated
    · have cleared : (s.ensureConnection server).clearForUserAction server.id =
          (s.clearForUserAction server.id).ensureConnection server := by
        unfold ensureConnection
        cases found : s.conn? server.id with
        | some p =>
          have found' : (s.clearForUserAction server.id).conn? server.id = some p := found
          rw [found']
        | none =>
          have found' : (s.clearForUserAction server.id).conn? server.id = none := found
          rw [found']
          rfl
      simp only [user, ne_eq, not_true_eq_false, false_and, if_false, and_self, if_true, cleared]
      simpa only [user] using dialled (s.clearForUserAction server.id)
    · simp only [user, false_and, if_false]
      split
      · exact closed.refl s
      · exact dialled s

theorem connectTo_silent {intent : ConnectIntent} (h : intent ≠ .userInitiated)
    (server : DiscoveredServer) (target : T server.id) : R s (s.connectTo server intent) := by
  simpa only [h, false_and, if_false] using closed.connectTo s intent server target

theorem autoReconnectAll (all : ∀ id, T id) : R s s.autoReconnectAll := by
  unfold Manager.autoReconnectAll
  refine closed.foldl (fun s row => ?_) _ s
  split
  · exact closed.connectTo_silent s (by decide) _ (all _)
  · exact closed.refl s

theorem relearn (server : DiscoveredServer) : R s (s.relearn server) := by
  unfold Manager.relearn
  split
  · exact closed.updateServer s server
  · exact closed.refl s

theorem scanFinished (all : ∀ id, T id) (discovered : List DiscoveredServer) :
    R s (s.scanFinished discovered) := by
  unfold Manager.scanFinished
  split
  · exact closed.refl s
  · refine closed.trans ?_ (closed.autoReconnectAll _ all)
    refine closed.trans ?_ (closed.foldl closed.relearn discovered _)
    exact closed.note rfl

theorem resumeFromSleep (all : ∀ id, T id) : R s s.resumeFromSleep := by
  unfold Manager.resumeFromSleep
  refine closed.trans ?_ (closed.autoReconnectAll _ all)
  exact closed.note rfl

theorem onRetryDue (all : ∀ id, T id) (retry : Retry) : R s (s.onRetryDue retry) := by
  unfold Manager.onRetryDue
  split
  · exact closed.refl s
  · split
    · refine closed.trans ?_ (closed.connectTo_silent _ (by decide) _ (all _))
      exact closed.note rfl
    · exact closed.refl s

/-! ### The live session -/

theorem syncSlot (id : SatelliteId) (slotId : SlotId) : R s (s.syncSlot id slotId) := by
  refine closed.given fun addressed => ?_
  unfold Manager.syncSlot
  split
  · exact closed.refl s
  · rename_i p hp
    split
    · split
      · exact closed.send rfl rfl fun h => (addressed h).server id p hp
      · exact closed.refl s
    · exact closed.refl s

theorem deleteSlot (id : SatelliteId) (ctrlIdx : Nat) : R s (s.deleteSlot id ctrlIdx) := by
  refine closed.given fun addressed => ?_
  unfold Manager.deleteSlot
  split
  · exact closed.refl s
  · rename_i p hp
    split
    · split
      · exact closed.send rfl rfl fun h => (addressed h).server id p hp
      · exact closed.refl s
    · exact closed.refl s

theorem onSignal (id : SatelliteId) (signal : Option SlotSignal) : R s (s.onSignal id signal) := by
  unfold Manager.onSignal
  split
  · exact closed.refl s
  · exact closed.syncSlot s id _
  · exact closed.deleteSlot s id _

theorem convergeLateSlots (id : SatelliteId) (sentSlots : List DesiredSlot) :
    R s (s.convergeLateSlots id sentSlots) := by
  unfold Manager.convergeLateSlots
  split
  · exact closed.refl s
  · refine closed.trans (closed.foldl (fun s _ => closed.deleteSlot s id _) _ s)
      (closed.foldl (fun s ctrlIdx => ?_) _ _)
    split
    · exact closed.syncSlot s id _
    · exact closed.refl s

theorem reconcile (h : P → server.id = id) : R s (s.reconcile id server) := by
  unfold Manager.reconcile
  split
  · exact closed.refl s
  · split
    · exact closed.refl s
    · split
      · refine closed.trans ?_ (closed.send rfl rfl h)
        exact closed.note rfl
      · exact closed.refl s

theorem maybeRequestRekey (h : P → server.id = id) (client : SessionClient) :
    R s (s.maybeRequestRekey id client server) := by
  have asked := closed.same s id (fun c => c.server_maybeRequestRekey client)
    (fun c => c.state_maybeRequestRekey client) fun _ c => c.offered_maybeRequestRekey client
  unfold Manager.maybeRequestRekey
  dsimp only
  split
  · refine closed.trans asked ?_
    unfold Manager.rekey
    split
    · exact closed.refl _
    · split
      · exact closed.refl _
      · split
        · exact closed.send rfl rfl h
        · exact closed.refl _
  · exact asked

/-! ### Replies -/

theorem endPairingRequest (id : SatelliteId) : R s (s.endPairingRequest id sentOn) := by
  unfold Manager.endPairingRequest
  split
  · exact closed.refl s
  · exact closed.note rfl

theorem downWith (id : SatelliteId) (event : ConnectionEvent) : R s (s.downWith id event) :=
  closed.trans (closed.disconnected s id) (closed.emit _ event)

theorem park (id : SatelliteId) (event : ConnectionEvent) : R s (s.park id intent event) := by
  unfold Manager.park
  split
  · exact closed.downWith s id event
  · exact closed.markStale s id

section
variable (target : T id) (h : P → server.id = id)
include target h

theorem adopted (sharedKeyHex : String) :
    R s ((s.adoptKey id sharedKeyHex).openSession id server intent) := by
  refine closed.trans ?_ (closed.openSession _ intent target h)
  exact closed.note rfl

theorem pairReplied {outcome : PairingOutcome} {s' : Manager}
    (replied : PairReplied s id sentOn server intent outcome s') : R s s' := by
  refine closed.trans (closed.endPairingRequest s sentOn id) ?_
  cases replied with
  | stray => exact closed.refl _
  | granted key => exact closed.adopted _ intent target h key
  | refused f events failed there down =>
    rcases down with rfl | rfl
    · exact closed.trans (closed.disconnected _ id) (closed.note rfl)
    · exact closed.trans (closed.markStale _ id) (closed.note rfl)

end

theorem onGrantUnusable (h : P → server.id = id) :
    R s (s.onGrantUnusable id server intent connectionId) :=
  closed.trans (closed.disconnected s id)
    (closed.trans (closed.releaseSession _ connectionId h)
      (closed.emitErrorIfUserInitiated _ intent _))

/-- The new session is one with the server its PUT went to. -/
theorem startSession (target : T id) (h : P → server.id = id) (material : Material) :
    R s (s.startSession id server connectionId resp material) := by
  unfold Manager.startSession
  refine closed.trans ?_ (closed.send rfl rfl h)
  refine closed.trans ?_ (closed.emits _ _)
  refine closed.trans (closed.start target h (fun c =>
    c.server_startSession ⟨s.clients, material, 0, true, -1, -1, -1, 1⟩ connectionId resp) fun c =>
      c.offered_startSession ⟨s.clients, material, 0, true, -1, -1, -1, 1⟩ connectionId resp) ?_
  exact closed.note rfl

theorem onView (target : T id) (h : P → server.id = id) (view : SessionViewDto) :
    R s (s.onView id server view) := by
  unfold Manager.onView
  have flagged : R s { s with reconcileInFlight := s.reconcileInFlight.erase id } :=
    closed.note rfl
  refine closed.trans flagged ?_
  dsimp only
  split
  · exact closed.refl _
  · split
    · exact closed.refl _
    · split
      · exact closed.onTerminalAuthFailure _ _ id
      · split
        · exact closed.refl _
        · split
          · exact closed.same _ id (fun _ => rfl) (fun _ => rfl) fun _ _ => rfl
          · refine closed.trans ?_ (closed.openSession _ _ target h)
            rw [← onConn_onConn _ id markDisconnected markConnecting]
            exact closed.trans (closed.disconnected _ id) (closed.link target)

theorem onRekeyReply (id : SatelliteId) (client : Nat) (derived : BitVec 256)
    (pinMismatch : Bool) : R s (s.onRekeyReply id client resp derived pinMismatch) := by
  refine closed.given fun addressed => ?_
  unfold Manager.onRekeyReply
  split
  · exact closed.refl s
  · rename_i p hp
    dsimp only
    split
    · exact closed.onTerminalAuthFailure s _ id
    · split
      · split
        · refine closed.trans ?_ (closed.send rfl rfl fun h => (addressed h).server id p hp)
          exact closed.same s id (fun _ => rfl) (fun _ => rfl) fun _ _ => rfl
        · exact closed.refl s
      · exact closed.refl s

theorem onCapabilities (id : SatelliteId) (caps : CapabilitiesDto) :
    R s (s.onCapabilities id caps) := by
  unfold Manager.onCapabilities
  split
  · exact closed.refl s
  · split
    · exact closed.refl s
    · exact closed.same s id (fun _ => rfl) (fun _ => rfl) fun _ _ => rfl

theorem onSyncReply (h : P → server.id = id) (resp : ControllerPutResponse) :
    R s (s.onSyncReply id server resp) := by
  unfold Manager.onSyncReply
  split
  · exact closed.refl s
  · rename_i p hp
    split
    · exact closed.onTerminalAuthFailure s _ id
    · split
      · exact closed.refl s
      · rename_i r _
        have applied : R s (s.onConn id fun _ => p.conn.applyControllerPut resp r) :=
          closed.conn fun q hq => by
            obtain rfl := Option.some.inj (hp.symm.trans hq)
            exact ⟨.inl rfl, fun _ hid => hid, fun _ => rfl⟩
        refine closed.trans applied (closed.trans (closed.emits _ (p.conn.applyResults [r]).2) ?_)
        dsimp only
        split
        · exact closed.reconcile _ h
        · exact closed.refl _

theorem onDeleteReply (id : SatelliteId) (resp : ControllerPutResponse) :
    R s (s.onDeleteReply id resp) := by
  refine closed.same s id (fun c => c.server_applyControllerDelete resp) (fun c => ?_) fun _ c => ?_
  · unfold applyControllerDelete
    split <;> rfl
  · unfold applyControllerDelete
    split <;> rfl

theorem selfUnpair (id : SatelliteId) : R s (s.selfUnpair id) := by
  refine closed.given fun addressed => ?_
  unfold Manager.selfUnpair
  split
  · exact closed.refl s
  · rename_i p hp
    split
    · refine closed.trans (closed.send (r := .unpair id p.conn.server) rfl rfl fun h =>
        (addressed h).server id p hp) ?_
      exact closed.note rfl
    · exact closed.note rfl

/-! ### Where a retry is armed -/

section Arming

variable (arms : ∀ (s : Manager) retries, R s { s with retries := retries })
include arms

theorem scheduleRetry (server : DiscoveredServer) : R s (s.scheduleRetry server intent) := by
  unfold Manager.scheduleRetry
  split
  · exact closed.refl s
  · let armed : Retry :=
      ⟨server.id, server, s.retryGeneration server.id,
        backoffDelayMs (s.retryAttempts server.id + 1)⟩
    exact closed.trans (arms s (s.retries ++ [armed])) (closed.note rfl)

theorem handleServerClose (id : SatelliteId) (server : DiscoveredServer) (reason : Nat) :
    R s (s.handleServerClose id server reason) := by
  have down := closed.disconnected s id
  unfold Manager.handleServerClose
  split
  · refine closed.trans (closed.markStale s id) ?_
    exact closed.note rfl
  · exact down
  · exact closed.trans down (closed.scheduleRetry _ _ arms server)

theorem onSessionRefused (id : SatelliteId) (server : DiscoveredServer) (verdict : RestVerdict)
    (stands : O id → verdict = .versionMismatch → resp.asksLower = false) :
    R s (s.onSessionRefused id server intent verdict resp) := by
  have down := closed.disconnected s id
  unfold Manager.onSessionRefused
  cases verdict with
  | unauthorized => exact closed.onTerminalAuthFailure s intent id
  | versionMismatch =>
    unfold onSessionVersionRefused
    dsimp only
    split
    · next lower =>
      have offered : R s (s.onConn id (·.setOfferedProtocolVersion
          (settleRejected resp.supportedProtocol resp.supportedProtocolMin).2)) :=
        closed.same s id (fun _ => rfl) (fun _ => rfl) fun watched =>
          absurd lower (of_decide_eq_false (stands watched rfl))
      exact closed.trans offered (closed.trans (closed.markStale _ id)
        (closed.scheduleRetry _ intent arms server))
    · exact closed.trans down (closed.emitErrorIfUserInitiated _ intent _)
  | identityChanged =>
    refine closed.trans down (closed.trans ?_ (closed.emitErrorIfUserInitiated _ intent _))
    exact closed.note rfl
  | ok | shuttingDown | unreachable | serverError =>
    exact closed.trans (closed.park s intent id _) (closed.scheduleRetry _ intent arms server)

theorem onSessionReply (target : T id) (h : P → server.id = id) (sentSlots : List DesiredSlot)
    (derived : BitVec 256) (socketOpened pinMismatch : Bool)
    (stands : O id → ∀ p, s.replyTarget id sentOn = some p → p.conn.state = .linking →
      classifyRest resp pinMismatch = .versionMismatch → resp.asksLower = false) :
    R s (s.onSessionReply id sentOn server intent sentSlots resp derived socketOpened
      pinMismatch) := by
  unfold Manager.onSessionReply
  split
  · exact closed.refl s
  · rename_i p hp
    split
    · exact closed.handBackLateGrant s resp h
    · rename_i linking
      have refused := closed.onSessionRefused s intent resp arms id server
        (classifyRest resp pinMismatch) fun watched => stands watched p hp (not_not.mp linking)
      dsimp only
      split
      · exact refused
      · split
        · exact refused
        · split
          · exact closed.onGrantUnusable s intent _ h
          · split
            · exact closed.onGrantUnusable s intent _ h
            · exact closed.trans (closed.startSession s _ resp target h _)
                (closed.convergeLateSlots _ id sentSlots)

variable (bumps : ∀ (s : Manager) generation, R s { s with retryGeneration := generation })
include bumps

theorem aliveTick (id : SatelliteId) : R s (s.aliveTick id) := by
  refine closed.given fun addressed => ?_
  unfold Manager.aliveTick
  split
  · exact closed.refl s
  · rename_i p hp
    have started : P → p.startedWith.id = id := fun h => (addressed h).startedWith id p hp
    split
    · exact closed.refl s
    · rename_i client _
      split
      · exact closed.handleServerClose s arms id _ _
      · split
        · exact closed.trans (closed.trans (bumps s _) (closed.disconnect s id))
            (closed.scheduleRetry _ _ arms _)
        · refine closed.trans (closed.applySteadyState s id client) ?_
          exact closed.trans (closed.reconcile _ started)
            (closed.maybeRequestRekey _ started client)

end Arming

theorem prepareForSleep (bumps : ∀ (s : Manager) generation, R s { s with
    retryGeneration := generation }) : R s s.prepareForSleep :=
  closed.foldl (fun s id => closed.trans (bumps s _) (closed.disconnect s id)) _ s

/-- The callback of a request that belongs to no approval attempt. -/
theorem onAnswer (arms : ∀ (s : Manager) retries, R s { s with retries := retries })
    {request : HttpRequest} (plain : request.isApproval = false) (h : P → request.IsAddressed)
    (target : T request.satellite) (pinMismatch : Bool) (answer : HttpAnswer)
    (stands : O request.satellite → s.refusedBy pinMismatch request answer = none) :
    R s (s.onAnswer pinMismatch request answer) := by
  unfold Manager.onAnswer
  split
  · exact closed.pairReplied s _ _ target h (.pin ..)
  · exact closed.pairReplied s _ _ target h (.connect ..)
  · exact absurd plain (by simp [HttpRequest.isApproval])
  · exact absurd plain (by simp [HttpRequest.isApproval])
  · rename_i id sentOn server intent _ _ resp _ _
    have refused : O id → ∀ p, s.replyTarget id sentOn = some p → p.conn.state = .linking →
        classifyRest resp pinMismatch = .versionMismatch → resp.asksLower = false := by
      intro watched p there linking version
      simpa [refusedBy, there, linking, version] using stands watched
    exact closed.onSessionReply s _ _ _ arms target h _ _ _ _ refused
  · exact closed.onRekeyReply s _ _ _ _ _
  · exact closed.onView s target h _
  · exact closed.onCapabilities s _ _
  · exact closed.onSyncReply s h _
  · exact closed.onDeleteReply s _ _
  · exact closed.refl s

end EditClosed

end Manager

end Dish
