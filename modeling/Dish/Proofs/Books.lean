/-
What most of the manager leaves alone: who is held down, which retries are armed and of
which generation, and the approval request.

Dialling, opening a session and every reply to a live session work on connections and
requests; only a handful of methods write the books below, and they are the ones that are followed
here.
-/
import Dish.Proofs.ManagerEdits

namespace Dish

/-- A step that delivers the grant of a session. -/
def ManagerAction.grants : ManagerAction → Bool
  | .reply _ (.session r _ _) => classifyRest r false = .ok
  | _ => false

namespace Manager

/-- The unanswered requests of approval attempts. -/
def approvals (s : Manager) : List HttpRequest :=
  (s.net.map (·.request)).filter HttpRequest.isApproval

/-- The books of the manager are the same in both states. -/
structure SameBooks (s s' : Manager) : Prop where
  held : s'.heldByUser = s.heldByUser
  retries : s'.retries = s.retries
  generation : s'.retryGeneration = s.retryGeneration
  reverse : s'.reverse = s.reverse
  approvals : s'.approvals = s.approvals

namespace SameBooks

variable {s s' t : Manager}

theorem refl (s : Manager) : SameBooks s s := ⟨rfl, rfl, rfl, rfl, rfl⟩

theorem trans (h : SameBooks s t) (h' : SameBooks t s') : SameBooks s s' where
  held := h'.held.trans h.held
  retries := h'.retries.trans h.retries
  generation := h'.generation.trans h.generation
  reverse := h'.reverse.trans h.reverse
  approvals := h'.approvals.trans h.approvals

theorem onConn {id : SatelliteId} {f : WifiConnection → WifiConnection} :
    SameBooks s (s.onConn id f) := ⟨rfl, rfl, rfl, rfl, rfl⟩

end SameBooks

theorem sameBooks : EditClosed False (fun _ => False) (fun _ => True) SameBooks where
  refl := .refl
  trans := .trans
  given h := h False.elim
  note h := by
    simp only [books, Prod.mk.injEq] at h
    obtain ⟨-, net, -, held, retries, generation, reverse⟩ := h
    exact ⟨held, retries, generation, reverse, by simp only [approvals, net]⟩
  make s server := by
    unfold ensureConnection
    split
    · exact .refl s
    · exact ⟨rfl, rfl, rfl, rfl, rfl⟩
  conn _ := .onConn
  send _ hr _ := ⟨rfl, rfl, rfl, rfl, by simp [approvals, send, hr]⟩
  link _ := .onConn
  ask hr _ _ := ⟨rfl, rfl, rfl, rfl, by
    simp [approvals, send, HttpRequest.isApproval_of_driven hr]⟩
  start _ _ _ _ := ⟨rfl, rfl, rfl, rfl, rfl⟩

theorem EditClosed.coarser {O T : SatelliteId → Prop} {R R' : Manager → Manager → Prop}
    (closed : EditClosed False O T R) (sub : ∀ {s s'}, R s s' → R' s s')
    (trans : ∀ {s t u}, R' s t → R' t u → R' s u) : EditClosed False O T R' where
  refl s := sub (closed.refl s)
  trans := trans
  given h := h False.elim
  note h := sub (closed.note h)
  make s server := sub (closed.make s server)
  conn h := sub (closed.conn h)
  send h h' h'' := sub (closed.send h h' h'')
  link h := sub (closed.link h)
  ask h h' h'' := sub (closed.ask h h' h'')
  start h h' h'' h''' := sub (closed.start h h' h'' h''')

/-- Neither the holds nor the approval request differ. -/
structure SameHolds (s s' : Manager) : Prop where
  held : s'.heldByUser = s.heldByUser
  reverse : s'.reverse = s.reverse
  approvals : s'.approvals = s.approvals

theorem SameHolds.trans {s t s' : Manager} (h : SameHolds s t) (h' : SameHolds t s') :
    SameHolds s s' :=
  ⟨h'.held.trans h.held, h'.reverse.trans h.reverse, h'.approvals.trans h.approvals⟩

theorem sameHolds : EditClosed False (fun _ => False) (fun _ => True) SameHolds :=
  sameBooks.coarser (fun h => ⟨h.held, h.reverse, h.approvals⟩) .trans

theorem SameHolds.onConn {s : Manager} {id : SatelliteId} {f : WifiConnection → WifiConnection} :
    SameHolds s (s.onConn id f) := ⟨rfl, rfl, rfl⟩

theorem SameHolds.arms (s : Manager) (retries : List Retry) :
    SameHolds s { s with retries := retries } := ⟨rfl, rfl, rfl⟩

theorem SameHolds.bumps (s : Manager) (generation : SatelliteId → Nat) :
    SameHolds s { s with retryGeneration := generation } := ⟨rfl, rfl, rfl⟩

variable (s : Manager)

variable {k : Nat} {x : InFlight} {a : ManagerAction} (id : SatelliteId) (server : DiscoveredServer)
  (sentOn : Nat)

theorem holds_disconnect : SameHolds s (s.disconnect id) :=
  (SameHolds.bumps s _).trans (sameHolds.disconnect s id)

theorem books_handshake (k : Nat) (presented : Option String) :
    SameBooks s (s.handshake k presented) := by
  unfold handshake
  split
  · rename_i serial request hx
    refine ⟨rfl, rfl, rfl, rfl, ?_⟩
    obtain ⟨hk, hget⟩ := List.getElem?_eq_some_iff.mp hx
    have hmap : ∀ check, ((s.net.set k ⟨serial, request, check⟩).map (·.request)) =
        s.net.map (·.request) := by
      intro check
      rw [List.map_set]
      refine (congrArg _ ?_).trans (List.set_getElem_self (by simpa using hk))
      rw [List.getElem_map, hget]
    exact congrArg (List.filter HttpRequest.isApproval) (hmap _)
  · exact .refl s

/-! ### The methods that write -/

theorem books_pairWithPin (pin : String) :
    SameBooks (if addressRefusal server = none then s.clearForUserAction server.id else s)
      (s.pairWithPin server pin) := by
  unfold pairWithPin
  cases hrefuse : addressRefusal server with
  | some message => simpa using sameBooks.emitErrorIfUserInitiated s .userInitiated message
  | none =>
    dsimp only
    have hfound : SameBooks (s.clearForUserAction server.id)
        ((s.ensureConnection server).clearForUserAction server.id) := by
      have h := sameBooks.make s server
      exact ⟨congrArg (Finset.erase · server.id) h.held, h.retries, h.generation, h.reverse,
        h.approvals⟩
    refine hfound.trans ?_
    generalize (s.ensureConnection server).clearForUserAction server.id = found
    split
    · exact .refl found
    · split
      · exact .refl found
      · refine SameBooks.trans ?_ (sameBooks.ask rfl trivial False.elim)
        exact ⟨rfl, rfl, rfl, rfl, rfl⟩

theorem cancelReversePairing_phase : s.cancelReversePairing.reverse.phase = .idle := by
  unfold cancelReversePairing
  dsimp only
  split
  · rfl
  · rename_i h
    exact not_not.mp h

theorem attempt_cancelReversePairing :
    s.cancelReversePairing.reverse.attempt = s.reverse.attempt := by
  unfold cancelReversePairing
  dsimp only
  split <;> rfl

/-- A new approval attempt: the old one is cancelled, the hold lifted, its POST sent. -/
structure Requested (server : DiscoveredServer) (drawn : Nat) (s s' : Manager) : Prop where
  held : s'.heldByUser = s.heldByUser.erase server.id
  retries : s'.retries = s.retries
  generation : s'.retryGeneration = s.retryGeneration
  reverse : s'.reverse = (s.cancelReversePairing.armReverseAttempt server drawn).reverse
  approvals : ∃ ref, s'.approvals = s.approvals ++
    [.reversePair server.id ref server (formatReversePin drawn) (s.reverse.attempt + 1)]

theorem approvals_send {r : HttpRequest} (hr : r.isApproval = true) :
    (s.send r).approvals = s.approvals ++ [r] := by
  simp [approvals, send, hr]

theorem conn?_ensureConnection_isSome : ((s.ensureConnection server).conn? server.id).isSome := by
  unfold ensureConnection
  cases hp : s.conn? server.id with
  | some p => simp [hp]
  | none => simp [conn?, AList.lookup_insert]

theorem requested_requestReversePairing {server : DiscoveredServer}
    (hok : addressRefusal server = none) (drawn : Nat) :
    Requested server drawn s (s.requestReversePairing server drawn) := by
  unfold requestReversePairing
  rw [hok]
  dsimp only
  have hfound := sameBooks.make s.cancelReversePairing server
  have hsome := s.cancelReversePairing.conn?_ensureConnection_isSome server
  generalize s.cancelReversePairing.ensureConnection server = found at hfound hsome ⊢
  obtain ⟨p, hp⟩ := Option.isSome_iff_exists.mp hsome
  have hlookup : (found.connections.modify server.id
      fun p => { p with conn := p.conn.updateServer server }).lookup server.id =
        some { p with conn := p.conn.updateServer server } := by
    have hfoundp : found.connections.lookup server.id = some p := hp
    rw [Pool.lookup_modify, hfoundp]
    simp
  have hp' : (((found.clearForUserAction server.id).onConn server.id
      (·.updateServer server)).armReverseAttempt server drawn).conn? server.id =
        some { p with conn := p.conn.updateServer server } := hlookup
  rw [hp']
  have hreverse : found.reverse = s.cancelReversePairing.reverse := hfound.reverse
  refine ⟨congrArg (Finset.erase · server.id) hfound.held, hfound.retries, hfound.generation,
    ?_, p.ref, ?_⟩
  · simp only [send, armReverseAttempt, onConn, clearForUserAction, hreverse]
  · dsimp only
    rw [approvals_send _ rfl]
    refine congrArg₂ (· ++ ·) hfound.approvals ?_
    simp only [armReverseAttempt, onConn, clearForUserAction, hreverse,
      attempt_cancelReversePairing]

theorem refused_requestReversePairing {server : DiscoveredServer} {message : String}
    (hrefuse : addressRefusal server = some message) (drawn : Nat) :
    SameBooks s.cancelReversePairing (s.requestReversePairing server drawn) := by
  unfold requestReversePairing
  rw [hrefuse]
  exact sameBooks.emitErrorIfUserInitiated ..

/-- Of the books, only the approval attempt may differ. -/
def OnlyReverse (s s' : Manager) : Prop := SameBooks { s with reverse := s'.reverse } s'

theorem SameBooks.onlyReverse {s s' : Manager} (h : SameBooks s s') : OnlyReverse s s' where
  held := h.held
  retries := h.retries
  generation := h.generation
  reverse := rfl
  approvals := h.approvals

theorem OnlyReverse.trans {s t s' : Manager} (h : OnlyReverse s t) (h' : OnlyReverse t s') :
    OnlyReverse s s' where
  held := h'.held.trans h.held
  retries := h'.retries.trans h.retries
  generation := h'.generation.trans h.generation
  reverse := rfl
  approvals := h'.approvals.trans h.approvals

/-- How a callback moves the approval attempt on: it stays what it is while it is awaited. -/
structure Advances (r r' : ReversePairing) : Prop where
  attempt : r'.attempt = r.attempt
  awaiting : r'.phase = .awaitingApproval →
    r.phase = .awaitingApproval ∧ r'.server = r.server ∧ r'.pin = r.pin

theorem Advances.refl (r : ReversePairing) : Advances r r := ⟨rfl, fun h => ⟨h, rfl, rfl⟩⟩

theorem Advances.ended {r r' : ReversePairing} (h : r'.attempt = r.attempt)
    (hphase : r'.phase ≠ .awaitingApproval) : Advances r r' :=
  ⟨h, fun h => absurd h hphase⟩

theorem adoptReverseGrant_books (sharedKeyHex : String) :
    OnlyReverse s (s.adoptReverseGrant server sharedKeyHex) ∧
      (s.adoptReverseGrant server sharedKeyHex).reverse =
        { s.reverse with polling := false, phase := .approved } := by
  unfold adoptReverseGrant
  dsimp only
  have hfound := sameBooks.make s server
  generalize s.ensureConnection server = found at hfound ⊢
  generalize hkeyed : ({ (found.onConn server.id WifiConnection.markConnecting).adoptKey server.id
    sharedKeyHex with reverse := { ((found.onConn server.id
      WifiConnection.markConnecting).adoptKey server.id sharedKeyHex).reverse with
        polling := false, phase := .approved } } : Manager) = keyed
  have hkeyedBooks : OnlyReverse found keyed := by
    rw [← hkeyed]
    exact ⟨rfl, rfl, rfl, rfl, rfl⟩
  have hopened : SameBooks keyed (keyed.openSession server.id server .userInitiated) :=
    sameBooks.openSession keyed _ trivial False.elim
  refine ⟨(hfound.onlyReverse.trans hkeyedBooks).trans hopened.onlyReverse, ?_⟩
  rw [hopened.reverse, ← hkeyed]
  show ({ found.reverse with polling := false, phase := .approved } : ReversePairing) = _
  rw [hfound.reverse]

theorem onReversePairReply_books (server : DiscoveredServer) (pin : String)
    (response : PairResponse) (pinMismatch : Bool) :
    OnlyReverse s (s.onReversePairReply id sentOn server pin response pinMismatch) ∧
      Advances s.reverse (s.onReversePairReply id sentOn server pin response pinMismatch).reverse ∧
      ((s.onReversePairReply id sentOn server pin response pinMismatch).reverse.phase =
        .awaitingApproval →
        (s.onReversePairReply id sentOn server pin response pinMismatch).reverse.pollInFlight =
          s.reverse.pollInFlight) := by
  unfold onReversePairReply
  have hended := sameBooks.endPairingRequest s sentOn id
  generalize s.endPairingRequest id sentOn = t at hended ⊢
  rw [← hended.reverse]
  dsimp only
  split
  · unfold applyReverseOutcome
    split
    · rename_i key _
      obtain ⟨hbooks, hreverse⟩ := t.adoptReverseGrant_books server key
      rw [hreverse]
      exact ⟨hended.onlyReverse.trans hbooks, .ended rfl (by simp), fun h => absurd h (by simp)⟩
    · exact ⟨hended.onlyReverse.trans ⟨rfl, rfl, rfl, rfl, rfl⟩, ⟨rfl, fun h => ⟨h, rfl, rfl⟩⟩,
        fun _ => rfl⟩
    all_goals exact ⟨hended.onlyReverse.trans ⟨rfl, rfl, rfl, rfl, rfl⟩,
      .ended rfl (by simp [finishReverse]), fun h => absurd h (by simp [finishReverse])⟩
  · exact ⟨hended.onlyReverse, .refl _, fun _ => rfl⟩

theorem onReverseStatusReply_books (status : PairResponse) (pinMismatch : Bool)
    (server : DiscoveredServer) :
    OnlyReverse s (s.onReverseStatusReply status pinMismatch server) ∧
      Advances s.reverse (s.onReverseStatusReply status pinMismatch server).reverse := by
  unfold onReverseStatusReply
  dsimp only
  split
  · exact ⟨⟨rfl, rfl, rfl, rfl, rfl⟩, ⟨rfl, fun h => ⟨h, rfl, rfl⟩⟩⟩
  · split
    · exact ⟨⟨rfl, rfl, rfl, rfl, rfl⟩, .ended rfl (by simp [finishReverse])⟩
    · generalize hlatched : ({ s with reverse := { s.reverse with
        pollInFlight := false
        sawPending := s.reverse.sawPending || decide (status.status = some "pending") } } :
          Manager) = t
      have hbooks : OnlyReverse s t := by
        rw [← hlatched]
        exact ⟨rfl, rfl, rfl, rfl, rfl⟩
      have hadvances : Advances s.reverse t.reverse := by
        rw [← hlatched]
        exact ⟨rfl, fun h => ⟨h, rfl, rfl⟩⟩
      unfold applyReverseAction
      split
      · obtain ⟨hgrant, hreverse⟩ := t.adoptReverseGrant_books server (status.sharedKey.getD "")
        rw [hreverse]
        exact ⟨hbooks.trans hgrant, .ended hadvances.attempt (by simp)⟩
      · exact ⟨hbooks.trans ⟨rfl, rfl, rfl, rfl, rfl⟩,
          .ended hadvances.attempt (by simp [finishReverse])⟩
      · exact ⟨hbooks.trans ⟨rfl, rfl, rfl, rfl, rfl⟩,
          .ended hadvances.attempt (by simp [finishReverse])⟩
      · exact ⟨hbooks, hadvances⟩

theorem books_forget :
    SameBooks
      { s with
        heldByUser := s.heldByUser.erase id
        retryGeneration := Function.update s.retryGeneration id (s.retryGeneration id + 1)
        reverse := if s.reverse.server.id = id then s.cancelReversePairing.reverse else s.reverse }
      (s.forget id) := by
  unfold forget
  have hcancelled : SameBooks
      { s with reverse :=
          if s.reverse.server.id = id then s.cancelReversePairing.reverse else s.reverse }
      (if s.reverse.server.id = id then s.cancelReversePairing else s) := by
    split <;> exact ⟨rfl, rfl, rfl, rfl, rfl⟩
  generalize (if s.reverse.server.id = id then s.cancelReversePairing else s) = t at hcancelled ⊢
  dsimp only
  have hunpaired := hcancelled.trans (sameBooks.selfUnpair t id)
  generalize t.selfUnpair id = u at hunpaired ⊢
  have hdropped := sameBooks.disconnect u id
  refine ⟨?_, hdropped.retries.trans hunpaired.retries, hdropped.generation.trans ?_,
    hdropped.reverse.trans hunpaired.reverse, hdropped.approvals.trans hunpaired.approvals⟩
  · exact congrArg (Finset.erase · id) (hdropped.held.trans hunpaired.held)
  · show Function.update u.retryGeneration id (u.retryGeneration id + 1) = _
    rw [hunpaired.generation]

/-- A status poll goes out only while the attempt is awaited and none is in flight. -/
theorem pollReverseStatus_books :
    SameBooks s s.pollReverseStatus ∨
      s.reverse.phase = .awaitingApproval ∧ s.reverse.pollInFlight = false ∧
        s.pollReverseStatus.heldByUser = s.heldByUser ∧
        s.pollReverseStatus.reverse = { s.reverse with
          pollInFlight := true, elapsedMs := s.reverse.elapsedMs + kReversePollIntervalMs } ∧
        s.pollReverseStatus.approvals =
          s.approvals ++ [.pairStatus s.reverse.server s.reverse.attempt] := by
  unfold pollReverseStatus
  split
  · exact .inl (.refl s)
  · rename_i h
    simp only [not_or, ne_eq, not_not, Bool.not_eq_true] at h
    exact .inr ⟨h.2.1, h.2.2, rfl, rfl, approvals_send _ rfl⟩

/-! ### The step -/

/-- The request whose callback a step runs. -/
def answered (s : Manager) : ManagerAction → Option InFlight
  | .reply k answer =>
    (s.net[k]?).filter fun x => x.tls = some .accepted && x.request.takes answer
  | .fail k _ => s.net[k]?
  | _ => none

theorem takes_noAnswer (r : HttpRequest) (failure : TransportFailure) :
    r.takes (r.noAnswer failure) := by
  cases r <;> rfl

theorem classifyRest_noAnswer {request : HttpRequest} {failure : TransportFailure}
    {r : SessionResponse} {derived : BitVec 256} {socketOpened : Bool}
    (h : request.noAnswer failure = .session r derived socketOpened) (pinMismatch : Bool) :
    classifyRest r pinMismatch ≠ .ok := by
  have hstatus : r.httpStatus = 0 := by
    cases request with
    | session | rekey => cases h; rfl
    | _ => exact absurd h (by simp [HttpRequest.noAnswer])
  unfold classifyRest
  split
  · decide
  · rw [if_pos (.inl hstatus)]
    decide

theorem step_reply {s : Manager} {answer : HttpAnswer}
    (ha : s.answered (.reply k answer) = some x) :
    s.net[k]? = some x ∧ x.request.takes answer ∧
      s.step (.reply k answer) = (s.popped k).onAnswer false x.request answer := by
  obtain ⟨serial, request, tls⟩ := x
  have ha' := Option.filter_eq_some_iff.mp ha
  simp only [Bool.and_eq_true, decide_eq_true_eq] at ha'
  obtain ⟨hx, htls, htakes⟩ := ha'
  subst htls
  refine ⟨hx, htakes, ?_⟩
  unfold step
  dsimp only
  rw [hx]
  exact if_pos htakes

theorem step_fail {s : Manager} {failure : TransportFailure}
    (ha : s.answered (.fail k failure) = some x) :
    s.net[k]? = some x ∧
      s.step (.fail k failure) = (s.popped k).onAnswer
        (x.tls = some (.refused true)) x.request (x.request.noAnswer failure) := by
  have hx : s.net[k]? = some x := ha
  refine ⟨hx, ?_⟩
  unfold step
  dsimp only
  rw [hx]

theorem step_of_answered {s : Manager} (ha : s.answered a = some x) :
    ∃ k pinMismatch answer, s.net[k]? = some x ∧ x.request.takes answer ∧
      (∀ r derived socketOpened, answer = .session r derived socketOpened →
        classifyRest r pinMismatch = .ok → a.grants) ∧
      s.step a = (s.popped k).onAnswer pinMismatch x.request
        answer := by
  cases a with
  | reply k answer =>
    obtain ⟨hx, htakes, heq⟩ := step_reply ha
    refine ⟨k, false, answer, hx, htakes, ?_, heq⟩
    intro r derived socketOpened hanswer hok
    simp [ManagerAction.grants, hanswer, hok]
  | fail k failure =>
    obtain ⟨hx, heq⟩ := step_fail ha
    refine ⟨k, _, _, hx, takes_noAnswer x.request failure, ?_, heq⟩
    intro r derived socketOpened hanswer hok
    exact absurd hok (classifyRest_noAnswer hanswer _)
  | _ => exact absurd ha (by simp [answered])

theorem step_unanswered {s : Manager} (ha : s.answered a = none)
    (hkind : (∃ k answer, a = .reply k answer) ∨ ∃ k failure, a = .fail k failure) :
    s.step a = s := by
  rcases hkind with ⟨k, answer, rfl⟩ | ⟨k, failure, rfl⟩
  · unfold step
    dsimp only
    split
    · rename_i serial request hx
      exact if_neg fun htakes => by simp [answered, hx, htakes] at ha
    · rfl
  · have hx : s.net[k]? = none := ha
    unfold step
    dsimp only
    rw [hx]

theorem holds_eraseIdx (hx : s.net[k]? = some x) (h : x.request.isApproval = false) :
    SameHolds s { s with net := s.net.eraseIdx k } := by
  refine ⟨rfl, rfl, ?_⟩
  have hsplit : s.net = s.net.take k ++ x :: s.net.drop (k + 1) := by
    obtain ⟨hk, hget⟩ := List.getElem?_eq_some_iff.mp hx
    rw [← hget, List.cons_getElem_drop_succ, List.take_append_drop]
  unfold approvals
  conv_rhs => rw [hsplit]
  rw [List.eraseIdx_eq_take_drop_succ]
  simp [h]

theorem holds_answered (ha : s.answered a = some x) (h : x.request.isApproval = false) :
    SameHolds s (s.step a) := by
  obtain ⟨k, pinMismatch, answer, hx, -, -, heq⟩ := step_of_answered ha
  rw [heq]
  exact (s.holds_eraseIdx hx h).trans (sameHolds.onAnswer _ .arms h False.elim trivial _ _
    False.elim)

/-- The callback of an approval request moves the attempt on and leaves the other books. -/
theorem approval_answered (ha : s.answered a = some x) (h : x.request.isApproval = true) :
    ∃ k, s.net[k]? = some x ∧ OnlyReverse (s.popped k) (s.step a) ∧
      Advances s.reverse (s.step a).reverse := by
  obtain ⟨k, pinMismatch, answer, hx, htakes, -, heq⟩ := step_of_answered ha
  obtain ⟨serial, request, tls⟩ := x
  refine ⟨k, hx, ?_⟩
  rw [heq]
  cases request with
  | reversePair id sentOn server pin =>
    cases answer with
    | pair r =>
      obtain ⟨hbooks, hadvances, -⟩ := (s.popped k).onReversePairReply_books id sentOn server pin r
        pinMismatch
      exact ⟨hbooks, hadvances⟩
    | _ => exact absurd htakes (by simp [HttpRequest.takes])
  | pairStatus server =>
    cases answer with
    | pair r =>
      exact (s.popped k).onReverseStatusReply_books r
        pinMismatch server
    | _ => exact absurd htakes (by simp [HttpRequest.takes])
  | _ => exact absurd h (by simp [HttpRequest.isApproval])

/-- The steps that may lift or make a hold, or move the approval attempt on. -/
def writesHolds (s : Manager) : ManagerAction → Bool
  | .connectTo _ | .pairWithPin .. | .requestReversePairing .. | .cancelReversePairing
  | .disconnectByUser _ | .forget _ | .reverseTimer => true
  | .reply k answer => (s.answered (.reply k answer)).any fun x => x.request.isApproval
  | .fail k failure => (s.answered (.fail k failure)).any fun x => x.request.isApproval
  | _ => false

theorem holds_step (h : s.writesHolds a = false) : SameHolds s (s.step a) := by
  cases a with
  | connectTo | pairWithPin | requestReversePairing | cancelReversePairing | disconnectByUser
  | forget | reverseTimer => exact absurd h (by simp [writesHolds])
  | disconnect id => exact s.holds_disconnect id
  | markStale => exact .onConn
  | startDiscovery | ack | miss | count | closeNotice => exact ⟨rfl, rfl, rfl⟩
  | scanFinished discovered => exact sameHolds.scanFinished s (fun _ => trivial) discovered
  | autoReconnectAll => exact sameHolds.autoReconnectAll s fun _ => trivial
  | prepareForSleep => exact sameHolds.prepareForSleep s .bumps
  | resumeFromSleep => exact sameHolds.resumeFromSleep s fun _ => trivial
  | retryDue =>
    unfold step
    dsimp only
    split
    · exact (SameHolds.arms s _).trans (sameHolds.onRetryDue _ (fun _ => trivial) _)
    · exact ⟨rfl, rfl, rfl⟩
  | aliveTick id => exact sameHolds.aliveTick s .arms .bumps id
  | attachSlot | detachSlot =>
    exact SameHolds.onConn.trans (sameHolds.onSignal ..)
  | handshake k presented =>
    have hbooks := s.books_handshake k presented
    exact ⟨hbooks.held, hbooks.reverse, hbooks.approvals⟩
  | reply k answer =>
    cases ha : s.answered (.reply k answer) with
    | none =>
      rw [step_unanswered ha (.inl ⟨k, answer, rfl⟩)]
      exact ⟨rfl, rfl, rfl⟩
    | some x => exact s.holds_answered ha (by simpa [writesHolds, ha] using h)
  | fail k failure =>
    cases ha : s.answered (.fail k failure) with
    | none =>
      rw [step_unanswered ha (.inr ⟨k, failure, rfl⟩)]
      exact ⟨rfl, rfl, rfl⟩
    | some x => exact s.holds_answered ha (by simpa [writesHolds, ha] using h)

end Manager

end Dish
