/-
Whole steps of the manager, for relations that do not care about its books.

`EditClosed` follows the methods that leave the books alone.  A relation that allows every write to
them is followed here through every action: what it must say beyond the edits is how requests come
off the wire and how a connection is forgotten.
-/
import Dish.Proofs.Books

namespace Dish

open WifiConnection

namespace WifiConnection

variable (c : WifiConnection) (slotId : SlotId)

theorem offered_attachSlot (shape : SlotShape) :
    (c.attachSlot slotId shape).1.offeredProtocolVersion = c.offeredProtocolVersion := by
  unfold attachSlot
  split <;> rfl

theorem offered_detachSlot :
    (c.detachSlot slotId).1.offeredProtocolVersion = c.offeredProtocolVersion := by
  unfold detachSlot
  split <;> rfl

end WifiConnection

namespace Manager

/-- The refusal for which a step lowers the offer of a satellite's connection. -/
def refusal (id : SatelliteId) (s : Manager) : ManagerAction → Option VersionRefusal
  | .reply k answer =>
    (s.answered (.reply k answer)).bind fun x =>
      if x.request.satellite = id then s.refusedBy false x.request answer else none
  | _ => none

/-- A callback that runs without an answer refuses no version. -/
theorem refusedBy_noAnswer (s : Manager) (pinMismatch : Bool) (request : HttpRequest)
    (failure : TransportFailure) :
    s.refusedBy pinMismatch request (request.noAnswer failure) = none := by
  cases request with
  | session =>
    have silent : classifyRest { failure := failure } pinMismatch ≠ .versionMismatch := by
      unfold classifyRest
      split
      · decide
      · rw [if_pos (.inl rfl)]
        decide
    simp [refusedBy, HttpRequest.noAnswer, silent]
  | _ => rfl

/-- A preorder that every edit and every write of a book satisfies. -/
structure StepClosed (P : Prop) (O : SatelliteId → Prop) (R : Manager → Manager → Prop) : Prop
    extends EditClosed P O (fun _ => True) R where
  write : ∀ {s s'}, s'.connections = s.connections → s'.net = s.net → R s s'
  drop : ∀ s k, R s (s.popped k)
  check : ∀ s k presented, R s (s.handshake k presented)
  approve : ∀ {s r}, r.isApproval = true → (P → r.IsAddressed) → R s (s.send r)
  erase : ∀ s id, ¬ O id → R s { s with connections := s.connections.erase id }

namespace StepClosed

variable {P : Prop} {O : SatelliteId → Prop} {R : Manager → Manager → Prop}
  (closed : StepClosed P O R) (s : Manager) (server : DiscoveredServer)
include closed

theorem linking (id : SatelliteId) : R s (s.onConn id markConnecting) := closed.link trivial

theorem disconnect (id : SatelliteId) : R s (s.disconnect id) := by
  refine closed.trans ?_ (closed.toEditClosed.disconnect s id)
  exact closed.write rfl rfl

theorem connectTo (intent : ConnectIntent) : R s (s.connectTo server intent) := by
  refine closed.trans ?_ (closed.toEditClosed.connectTo s intent server trivial)
  split
  · exact closed.write rfl rfl
  · exact closed.refl s

/-- The connection a user's action is for, with its retries and hold cleared. -/
theorem cleared : R s ((s.ensureConnection server).clearForUserAction server.id) :=
  closed.trans (closed.make s server) (closed.write rfl rfl)

theorem pairWithPin (pin : String) : R s (s.pairWithPin server pin) := by
  unfold Manager.pairWithPin
  split
  · exact closed.emitErrorIfUserInitiated s _ _
  · refine closed.trans (closed.cleared s server) ?_
    dsimp only
    generalize (s.ensureConnection server).clearForUserAction server.id = t
    split
    · exact closed.refl t
    · split
      · exact closed.refl t
      · refine closed.trans (closed.updateServer t server) ?_
        refine closed.trans (closed.linking _ server.id) ?_
        refine closed.trans ?_ (closed.ask rfl trivial fun _ => rfl)
        exact closed.write rfl rfl

/-! ### Approval requests -/

theorem adoptReverseGrant (sharedKeyHex : String) :
    R s (s.adoptReverseGrant server sharedKeyHex) := by
  unfold Manager.adoptReverseGrant
  refine closed.trans (closed.make s server) (closed.trans (closed.linking _ server.id) ?_)
  refine closed.trans ?_ (closed.openSession _ _ trivial fun _ => rfl)
  exact closed.write rfl rfl

theorem onReversePairReply (id : SatelliteId) (sentOn : Nat) (pin : String)
    (response : PairResponse) (pinMismatch : Bool) :
    R s (s.onReversePairReply id sentOn server pin response pinMismatch) := by
  unfold Manager.onReversePairReply
  refine closed.trans (closed.endPairingRequest s sentOn id) ?_
  dsimp only
  split
  · unfold applyReverseOutcome
    split
    · exact closed.adoptReverseGrant _ server _
    all_goals exact closed.write rfl rfl
  · exact closed.refl _

theorem onReverseStatusReply (status : PairResponse) (pinMismatch : Bool) :
    R s (s.onReverseStatusReply status pinMismatch server) := by
  unfold Manager.onReverseStatusReply
  dsimp only
  split
  · exact closed.write rfl rfl
  · split
    · exact closed.write rfl rfl
    · unfold applyReverseAction
      split
      · refine closed.trans ?_ (closed.adoptReverseGrant _ server _)
        exact closed.write rfl rfl
      all_goals exact closed.write rfl rfl

theorem requestReversePairing (drawn : Nat) : R s (s.requestReversePairing server drawn) := by
  unfold Manager.requestReversePairing
  have cancelled : R s s.cancelReversePairing := closed.write rfl rfl
  refine closed.trans cancelled ?_
  dsimp only
  split
  · exact closed.emitErrorIfUserInitiated _ _ _
  · refine closed.trans (closed.cleared _ server) (closed.trans (closed.updateServer _ server) ?_)
    split
    · exact closed.write rfl rfl
    · refine closed.trans ?_ (closed.approve rfl fun _ => rfl)
      exact closed.write rfl rfl

theorem pollReverseStatus : R s s.pollReverseStatus := by
  unfold Manager.pollReverseStatus
  split
  · exact closed.refl s
  · refine closed.trans ?_ (closed.approve rfl fun _ => rfl)
    exact closed.write rfl rfl

/-! ### The step -/

theorem forget {id : SatelliteId} (kept : ¬ O id) : R s (s.forget id) := by
  unfold Manager.forget
  have cancelled : R s (if s.reverse.server.id = id then s.cancelReversePairing else s) := by
    split
    · exact closed.write rfl rfl
    · exact closed.refl s
  refine closed.trans cancelled ?_
  dsimp only
  generalize (if s.reverse.server.id = id then s.cancelReversePairing else s) = t
  refine closed.trans (closed.selfUnpair t id) (closed.trans (closed.disconnect _ id) ?_)
  exact closed.trans (closed.erase _ id kept) (closed.write rfl rfl)

theorem onAnswer {request : HttpRequest} (h : P → request.IsAddressed) (pinMismatch : Bool)
    (answer : HttpAnswer)
    (stands : O request.satellite → s.refusedBy pinMismatch request answer = none) :
    R s (s.onAnswer pinMismatch request answer) := by
  cases approval : request.isApproval with
  | false =>
    exact closed.toEditClosed.onAnswer s (fun _ _ => closed.write rfl rfl) approval h trivial
      pinMismatch answer stands
  | true =>
    unfold Manager.onAnswer
    split
    · exact absurd approval (by simp [HttpRequest.isApproval])
    · exact absurd approval (by simp [HttpRequest.isApproval])
    · exact closed.onReversePairReply ..
    · exact closed.onReverseStatusReply ..
    all_goals first
      | exact closed.refl s
      | exact absurd approval (by simp [HttpRequest.isApproval])

theorem mapClient (id : SatelliteId) (f : SessionClient → SessionClient) : R s (s.mapClient id f) :=
  closed.same s id (fun _ => rfl) (fun _ => rfl) fun _ _ => rfl

/-- **Every step satisfies the relation**, but for the lowering of a watched offer and the end of a
watched connection. -/
theorem step {a : ManagerAction} (kept : ∀ id, a = .forget id → ¬ O id)
    (stands : ∀ id, O id → s.refusal id a = none) : R s (s.step a) := by
  have arms : ∀ (s : Manager) retries, R s { s with retries := retries } :=
    fun _ _ => closed.write rfl rfl
  have bumps : ∀ (s : Manager) generation, R s { s with retryGeneration := generation } :=
    fun _ _ => closed.write rfl rfl
  cases a with
  | connectTo server => exact closed.connectTo s server _
  | pairWithPin server pin => exact closed.pairWithPin s server pin
  | requestReversePairing server drawn => exact closed.requestReversePairing s server drawn
  | cancelReversePairing | startDiscovery => exact closed.write rfl rfl
  | disconnect id => exact closed.disconnect s id
  | disconnectByUser id =>
    have held : R s { s with heldByUser := insert id s.heldByUser } := closed.write rfl rfl
    exact closed.trans held (closed.disconnect _ id)
  | forget id => exact closed.forget s (kept id rfl)
  | markStale id => exact closed.markStale s id
  | scanFinished discovered => exact closed.scanFinished s (fun _ => trivial) discovered
  | autoReconnectAll => exact closed.autoReconnectAll s fun _ => trivial
  | prepareForSleep => exact closed.prepareForSleep s bumps
  | resumeFromSleep => exact closed.resumeFromSleep s fun _ => trivial
  | retryDue k =>
    unfold Manager.step
    dsimp only
    split
    · exact closed.trans (arms s _) (closed.onRetryDue _ (fun _ => trivial) _)
    · exact closed.refl s
  | reverseTimer => exact closed.pollReverseStatus s
  | aliveTick id => exact closed.aliveTick s arms bumps id
  | attachSlot id slotId shape =>
    exact closed.trans (closed.same s id (fun c => c.server_attachSlot slotId shape)
      (fun c => c.state_attachSlot slotId shape) fun _ c => c.offered_attachSlot slotId shape)
      (closed.onSignal _ id _)
  | detachSlot id slotId =>
    exact closed.trans (closed.same s id (fun c => c.server_detachSlot slotId)
      (fun c => c.state_detachSlot slotId) fun _ c => c.offered_detachSlot slotId)
      (closed.onSignal _ id _)
  | ack id | miss id | count id | closeNotice id => exact closed.mapClient s id _
  | handshake k presented => exact closed.check s k presented
  | reply k answer =>
    cases answered : s.answered (.reply k answer) with
    | none =>
      rw [step_unanswered answered (.inl ⟨k, answer, rfl⟩)]
      exact closed.refl s
    | some x =>
      obtain ⟨there, -, does⟩ := step_reply answered
      rw [does]
      refine closed.given fun addressed => closed.trans (closed.drop s k) ?_
      refine closed.onAnswer _ (fun p => (addressed p).requests x (List.mem_of_getElem? there)) _ _ ?_
      intro watched
      have none := stands x.request.satellite watched
      rwa [refusal, answered, Option.bind_some, if_pos rfl] at none
  | fail k failure =>
    cases answered : s.answered (.fail k failure) with
    | none =>
      rw [step_unanswered answered (.inr ⟨k, failure, rfl⟩)]
      exact closed.refl s
    | some x =>
      obtain ⟨there, does⟩ := step_fail answered
      rw [does]
      refine closed.given fun addressed => closed.trans (closed.drop s k) ?_
      exact closed.onAnswer _ (fun p => (addressed p).requests x (List.mem_of_getElem? there)) _ _
        fun _ => refusedBy_noAnswer ..

end StepClosed

end Manager

end Dish
