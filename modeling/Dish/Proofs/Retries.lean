/-
How many armed retries of one satellite can still dial.

A timer of `scheduleRetry` is never cancelled; it dials when it fires if no disconnect of
its satellite came in between, which the generation it was armed with tells.  A session
that dies bumps the generation before it arms its own timer.  A refused session PUT and a
shutdown notice do not: what they arm stands beside whatever is armed already.
-/
import Dish.Proofs.Addressed
import Dish.Proofs.Connecting

namespace Dish

open Function

namespace Manager

variable {server : DiscoveredServer}

/-- The armed timers of `id` that would still dial. -/
def armed (s : Manager) (id : SatelliteId) : List Retry :=
  s.retries.filter fun r => r.id = id ∧ r.generation = s.retryGeneration id

/-! ### What arms a timer beside the others -/

/-- A refusal after which the PUT is tried again. -/
def retriable (verdict : RestVerdict) (resp : SessionResponse) : Bool :=
  match verdict with
  | .unauthorized | .identityChanged => false
  | .versionMismatch =>
    (settleRejected resp.supportedProtocol resp.supportedProtocolMin).1 = .retryLower
  | .ok | .shuttingDown | .unreachable | .serverError => true

/-- The reply opens no session although the connection waits for one. -/
def refusesSession (verdict : RestVerdict) (resp : SessionResponse) : Bool :=
  resp.connectionId = none || verdict ≠ .ok || resp.token = none || resp.sessionSalt = none

/-- The callback of a request arms a timer: a silent PUT is refused for now. -/
def replyRearms (s : Manager) (pinMismatch : Bool) : HttpRequest → HttpAnswer → Option SatelliteId
  | .session id sentOn _ intent _ _, .session resp _ _ =>
    let verdict := classifyRest resp pinMismatch
    if intent ≠ .userInitiated ∧ (s.replyTarget id sentOn).any (·.conn.state = .linking) ∧
        refusesSession verdict resp ∧ retriable verdict resp then some id
    else none
  | _, _ => none

/-- The satellite for which a step arms a timer without making the older ones obsolete: a
silent session PUT is refused for now, or the satellite closes the session for now. -/
def rearms (s : Manager) : ManagerAction → Option SatelliteId
  | .aliveTick id =>
    match (s.conn? id).bind (·.conn.client) with
    | some client =>
      if 0 ≤ client.sessionCloseReason ∧
          closeActionForReason client.sessionCloseReason.toNat = .retryBackoff then some id
      else none
    | none => none
  | .reply k answer =>
    (s.answered (.reply k answer)).bind fun x => s.replyRearms false x.request answer
  | .fail k failure =>
    (s.answered (.fail k failure)).bind fun x =>
      s.replyRearms (x.tls = some (.refused true)) x.request (x.request.noAnswer failure)
  | _ => none

/-! ### What a step does to the timers -/

/-- No timer is added and none becomes current again. -/
structure Settles (s s' : Manager) : Prop where
  retries : s'.retries.Sublist s.retries
  generation : ∀ id, s.retryGeneration id ≤ s'.retryGeneration id

/-- One current timer of `id` is added. -/
structure ArmsOne (s s' : Manager) (id : SatelliteId) : Prop where
  retries : ∃ r, r.id = id ∧ r.generation = s'.retryGeneration id ∧ s'.retries = s.retries ++ [r]
  generation : ∀ other, s.retryGeneration other ≤ s'.retryGeneration other

variable {s s' t : Manager} {id : SatelliteId}

theorem Settles.refl (s : Manager) : Settles s s := ⟨List.Sublist.refl _, fun _ => le_refl _⟩

theorem Settles.trans (h : Settles s t) (h' : Settles t s') : Settles s s' where
  retries := h'.retries.trans h.retries
  generation := fun id => (h.generation id).trans (h'.generation id)

theorem SameBooks.settles (h : SameBooks s s') : Settles s s' where
  retries := h.retries ▸ List.Sublist.refl _
  generation := fun id => le_of_eq (congrFun h.generation id).symm

theorem settles : EditClosed False (fun _ => False) (fun _ => True) Settles :=
  sameBooks.coarser SameBooks.settles .trans

theorem ArmsOne.of_books (h : SameBooks s t) (h' : ArmsOne t s' id) : ArmsOne s s' id where
  retries := by
    obtain ⟨r, hid, hgen, hr⟩ := h'.retries
    exact ⟨r, hid, hgen, by rw [hr, h.retries]⟩
  generation := fun other => (h.settles.generation other).trans (h'.generation other)

theorem armsOne_scheduleRetry (s : Manager) {intent : ConnectIntent}
    (hsilent : intent ≠ .userInitiated) : ArmsOne s (s.scheduleRetry server intent) server.id := by
  unfold scheduleRetry
  rw [if_neg hsilent]
  exact ⟨⟨_, rfl, rfl, rfl⟩, fun _ => le_refl _⟩

theorem scheduleRetry_settles_or (s : Manager) (server : DiscoveredServer)
    (intent : ConnectIntent) :
    Settles s (s.scheduleRetry server intent) ∨
      intent ≠ .userInitiated ∧ ArmsOne s (s.scheduleRetry server intent) server.id := by
  by_cases hsilent : intent = .userInitiated
  · left
    unfold scheduleRetry
    rw [if_pos hsilent]
    exact .refl s
  · exact .inr ⟨hsilent, armsOne_scheduleRetry s hsilent⟩

theorem generation_scheduleRetry (s : Manager) (server : DiscoveredServer)
    (intent : ConnectIntent) :
    (s.scheduleRetry server intent).retryGeneration = s.retryGeneration := by
  unfold scheduleRetry
  split <;> rfl

theorem generation_disconnect (s : Manager) (id : SatelliteId) :
    (s.disconnect id).retryGeneration = update s.retryGeneration id (s.retryGeneration id + 1) :=
  (sameBooks.disconnect s id).generation

theorem Settles.of_bump (hretries : s'.retries = s.retries)
    (hgeneration : s'.retryGeneration =
      update s.retryGeneration id (s.retryGeneration id + 1)) : Settles s s' where
  retries := hretries ▸ List.Sublist.refl _
  generation := by
    intro other
    rw [hgeneration]
    by_cases h : other = id
    · subst h
      simp
    · rw [update_of_ne h]

section
variable (s : Manager) (id : SatelliteId)

theorem settles_disconnect : Settles s (s.disconnect id) :=
  .of_bump (sameBooks.disconnect s id).retries (s.generation_disconnect id)

theorem settles_onSessionRefused_or (hserver : server.id = id)
    (intent : ConnectIntent) (verdict : RestVerdict) (resp : SessionResponse) :
    Settles s (s.onSessionRefused id server intent verdict resp) ∨
      intent ≠ .userInitiated ∧ retriable verdict resp ∧
        ArmsOne s (s.onSessionRefused id server intent verdict resp) id := by
  subst hserver
  -- a retry armed after the connection was taken down or parked
  have hretry : ∀ {t : Manager}, SameBooks s t →
      Settles s (t.scheduleRetry server intent) ∨
        intent ≠ .userInitiated ∧ ArmsOne s (t.scheduleRetry server intent) server.id := by
    intro t ht
    rcases scheduleRetry_settles_or t server intent with h | ⟨hsilent, h⟩
    · exact .inl (ht.settles.trans h)
    · exact .inr ⟨hsilent, .of_books ht h⟩
  unfold onSessionRefused
  cases verdict with
  | unauthorized => exact .inl (settles.onTerminalAuthFailure ..)
  | identityChanged =>
    have hdown : SameBooks s { s.onConn server.id WifiConnection.markDisconnected with
        retryAttempts := update s.retryAttempts server.id 0 } := ⟨rfl, rfl, rfl, rfl, rfl⟩
    exact .inl (hdown.settles.trans (settles.emitErrorIfUserInitiated ..))
  | versionMismatch =>
    unfold onSessionVersionRefused
    dsimp only
    split
    · rename_i hlower
      rcases hretry (SameBooks.onConn.trans .onConn) with h | h
      · exact .inl h
      · exact .inr ⟨h.1, decide_eq_true hlower, h.2⟩
    · exact .inl ((SameBooks.settles .onConn).trans (settles.emitErrorIfUserInitiated ..))
  | ok | shuttingDown | unreachable | serverError =>
    rcases hretry (sameBooks.park s intent server.id _) with h | h
    · exact .inl h
    · exact .inr ⟨h.1, rfl, h.2⟩

theorem settles_onSessionReply_or (sentOn : Nat)
    (hserver : server.id = id) (intent : ConnectIntent) (pairingKey : String) (body : SessionBody)
    (resp : SessionResponse) (derived : BitVec 256) (socketOpened pinMismatch : Bool) :
    Settles s (s.onSessionReply id sentOn server intent (descriptorsToDesired body.descriptors)
        resp derived socketOpened pinMismatch) ∨
      s.replyRearms pinMismatch (.session id sentOn server intent pairingKey body)
          (.session resp derived socketOpened) = some id ∧
        ArmsOne s (s.onSessionReply id sentOn server intent (descriptorsToDesired body.descriptors)
          resp derived socketOpened pinMismatch) id := by
  have hrefused : ∀ p, s.replyTarget id sentOn = some p → p.conn.state = .linking →
      refusesSession (classifyRest resp pinMismatch) resp →
      Settles s (s.onSessionRefused id server intent (classifyRest resp pinMismatch) resp) ∨
        s.replyRearms pinMismatch (.session id sentOn server intent pairingKey body)
            (.session resp derived socketOpened) = some id ∧
          ArmsOne s (s.onSessionRefused id server intent (classifyRest resp pinMismatch) resp)
            id := by
    intro p hp hstate hrefuses
    rcases settles_onSessionRefused_or s id hserver intent (classifyRest resp pinMismatch) resp
      with h | ⟨hsilent, hretriable, h⟩
    · exact .inl h
    · refine .inr ⟨if_pos ⟨hsilent, ?_, hrefuses, hretriable⟩, h⟩
      simp [hp, hstate]
  unfold onSessionReply
  split
  · exact .inl (.refl s)
  · rename_i p hp
    split
    · exact .inl (settles.handBackLateGrant s resp False.elim)
    · rename_i hstate
      have hlinking : p.conn.state = .linking := not_not.mp hstate
      dsimp only
      split
      · rename_i hnone
        exact hrefused p hp hlinking (by simp [refusesSession, hnone])
      · split
        · rename_i connectionId hsome hbad
          refine hrefused p hp hlinking ?_
          simpa [refusesSession, hsome, or_assoc] using hbad
        · left
          split
          · exact settles.onGrantUnusable s intent _ False.elim
          · split
            · exact settles.onGrantUnusable s intent _ False.elim
            · exact (settles.startSession s _ resp trivial False.elim _).trans (settles.convergeLateSlots ..)

theorem settles_handleServerClose_or (hserver : server.id = id) (reason : Nat) :
    Settles s (s.handleServerClose id server reason) ∨
      closeActionForReason reason = .retryBackoff ∧
        ArmsOne s (s.handleServerClose id server reason) id := by
  subst hserver
  unfold handleServerClose
  split
  · have hdown : SameBooks s { s.onConn server.id WifiConnection.markStale with
        store := s.store.forgetKey server.id } := ⟨rfl, rfl, rfl, rfl, rfl⟩
    exact .inl hdown.settles
  · exact .inl (SameBooks.settles .onConn)
  · rename_i hreason
    exact .inr ⟨hreason, .of_books SameBooks.onConn (armsOne_scheduleRetry _ (by decide))⟩

end

/-- A step adds no timer, or one: beside the others, or after making them obsolete. -/
def StepsTimers (s : Manager) (a : ManagerAction) : Prop :=
  Settles s (s.step a) ∨
    ∃ id, ArmsOne s (s.step a) id ∧
      (s.rearms a = some id ∨ s.retryGeneration id < (s.step a).retryGeneration id)

theorem stepsTimers_aliveTick (h : Addressed s) (id : SatelliteId) :
    s.StepsTimers (.aliveTick id) := by
  unfold StepsTimers
  show Settles s (s.aliveTick id) ∨ ∃ i, ArmsOne s (s.aliveTick id) i ∧
    (s.rearms (.aliveTick id) = some i ∨ s.retryGeneration i < (s.aliveTick id).retryGeneration i)
  unfold aliveTick
  split
  · exact .inl (.refl s)
  · rename_i p hp
    have hserver := h.startedWith id p hp
    split
    · exact .inl (.refl s)
    · rename_i client hclient
      split
      · rename_i hclosed
        rcases settles_handleServerClose_or s id hserver client.sessionCloseReason.toNat
          with h | ⟨hreason, h⟩
        · exact .inl h
        · refine .inr ⟨id, h, .inl ?_⟩
          simp [rearms, hp, hclient, hclosed, hreason]
      · split
        · -- the death: the disconnect first, then the timer
          have harms : ArmsOne (s.disconnect id)
              ((s.disconnect id).scheduleRetry p.startedWith .retryAfterDeath) id :=
            hserver ▸ armsOne_scheduleRetry _ (by decide)
          have hbumped : ((s.disconnect id).scheduleRetry p.startedWith
              .retryAfterDeath).retryGeneration = (s.disconnect id).retryGeneration :=
            generation_scheduleRetry ..
          refine .inr ⟨id, ⟨?_, fun other => ?_⟩, .inr ?_⟩
          · obtain ⟨r, hid, hgen, hr⟩ := harms.retries
            exact ⟨r, hid, hgen, by rw [hr, (sameBooks.disconnect s id).retries]⟩
          · exact ((settles_disconnect s id).generation other).trans (harms.generation other)
          · rw [hbumped, generation_disconnect, update_self]
            exact Nat.lt_succ_self _
        · exact .inl (((SameBooks.settles .onConn).trans (settles.reconcile _ False.elim)).trans
            (settles.maybeRequestRekey _ False.elim _))

theorem settles_onAnswer_or {request : HttpRequest} (hr : request.IsAddressed)
    (happroval : request.isApproval = false) (pinMismatch : Bool) (answer : HttpAnswer) :
    Settles s (s.onAnswer pinMismatch request answer) ∨
      s.replyRearms pinMismatch request answer = some request.satellite ∧
        ArmsOne s (s.onAnswer pinMismatch request answer) request.satellite := by
  unfold onAnswer
  split
  · exact .inl (settles.pairReplied s _ _ trivial False.elim (.pin ..))
  · exact .inl (settles.pairReplied s _ _ trivial False.elim (.connect ..))
  · exact absurd happroval (by simp [HttpRequest.isApproval])
  · exact absurd happroval (by simp [HttpRequest.isApproval])
  · exact settles_onSessionReply_or s _ _ hr ..
  · exact .inl (settles.onRekeyReply ..)
  · exact .inl (settles.onView s trivial False.elim _)
  · exact .inl (settles.onCapabilities ..)
  · exact .inl (settles.onSyncReply s False.elim _)
  · exact .inl (SameBooks.settles .onConn)
  · exact .inl (.refl s)

theorem stepsTimers_answered (h : Addressed s) {a : ManagerAction} {x : InFlight}
    (ha : s.answered a = some x) : s.StepsTimers a := by
  by_cases happroval : x.request.isApproval = true
  · obtain ⟨k, -, hbooks, -⟩ := s.approval_answered ha happroval
    exact .inl ⟨hbooks.retries ▸ List.Sublist.refl _,
      fun id => le_of_eq (congrFun hbooks.generation id).symm⟩
  · have hnot : x.request.isApproval = false := Bool.not_eq_true _ ▸ happroval
    -- the request taken off the wire changes neither the pool nor the timers
    have hcallback : ∀ k pinMismatch answer, s.net[k]? = some x →
        s.step a = (s.popped k).onAnswer pinMismatch x.request
          answer →
        (s.replyRearms pinMismatch x.request answer = some x.request.satellite →
          s.rearms a = some x.request.satellite) → s.StepsTimers a := by
      intro k pinMismatch answer hx heq hrearms
      unfold StepsTimers
      rw [heq]
      have hr := h.requests x (List.mem_of_getElem? hx)
      rcases settles_onAnswer_or (s := s.popped k) hr hnot pinMismatch
        answer with hsettles | ⟨hwhy, harms⟩
      · exact .inl ⟨hsettles.retries, hsettles.generation⟩
      · exact .inr ⟨_, ⟨harms.retries, harms.generation⟩, .inl (hrearms hwhy)⟩
    cases a with
    | reply k answer =>
      obtain ⟨hx, -, heq⟩ := step_reply ha
      exact hcallback k false answer hx heq fun hwhy => by rw [rearms, ha]; exact hwhy
    | fail k =>
      obtain ⟨hx, heq⟩ := step_fail ha
      exact hcallback k _ _ hx heq fun hwhy => by rw [rearms, ha]; exact hwhy
    | _ => exact absurd ha (by simp [answered])

theorem stepsTimers_step (h : Addressed s) (a : ManagerAction) : s.StepsTimers a := by
  -- the user's calls change the holds, which the timers do not read
  have hclear : ∀ (id : SatelliteId) {t : Manager} {c : Prop} [Decidable c],
      SameBooks (if c then s.clearForUserAction id else s) t → Settles s t := by
    intro id t c _ ht
    refine Settles.trans ?_ ht.settles
    split
    · exact ⟨List.Sublist.refl _, fun _ => le_refl _⟩
    · exact .refl s
  cases ha : s.answered a with
  | some x => exact stepsTimers_answered h ha
  | none =>
    cases a with
    | connectTo server => exact .inl (hclear server.id (sameBooks.connectTo s _ _ trivial))
    | pairWithPin server pin => exact .inl (hclear server.id (s.books_pairWithPin server pin))
    | requestReversePairing server drawn =>
      cases hrefusal : addressRefusal server with
      | none =>
        have hbooks := s.requested_requestReversePairing hrefusal drawn
        exact .inl ⟨hbooks.retries ▸ List.Sublist.refl _,
          fun id => le_of_eq (congrFun hbooks.generation id).symm⟩
      | some message =>
        have hbooks := s.refused_requestReversePairing hrefusal drawn
        exact .inl ⟨hbooks.retries ▸ List.Sublist.refl _,
          fun id => le_of_eq (congrFun hbooks.generation id).symm⟩
    | disconnect id => exact .inl (settles_disconnect s id)
    | disconnectByUser id =>
      have hdown := settles_disconnect { s with heldByUser := insert id s.heldByUser } id
      exact .inl ⟨hdown.retries, hdown.generation⟩
    | forget id =>
      exact .inl (.of_bump (s.books_forget id).retries (s.books_forget id).generation)
    | markStale => exact .inl (SameBooks.settles .onConn)
    | cancelReversePairing | startDiscovery | ack | miss | count | closeNotice =>
      exact .inl ⟨List.Sublist.refl _, fun _ => le_refl _⟩
    | scanFinished discovered =>
      exact .inl (settles.scanFinished s (fun _ => trivial) discovered)
    | autoReconnectAll => exact .inl (settles.autoReconnectAll s fun _ => trivial)
    | prepareForSleep => exact .inl (settles.foldl settles_disconnect _ s)
    | resumeFromSleep => exact .inl (settles.resumeFromSleep s fun _ => trivial)
    | retryDue k =>
      left
      unfold step
      dsimp only
      split
      · have hfired : Settles s { s with retries := s.retries.eraseIdx k } :=
          ⟨List.eraseIdx_sublist _ _, fun _ => le_refl _⟩
        exact hfired.trans (settles.onRetryDue _ (fun _ => trivial) _)
      · exact .refl s
    | reverseTimer =>
      left
      show Settles s s.pollReverseStatus
      unfold pollReverseStatus
      split
      · exact .refl s
      · exact ⟨List.Sublist.refl _, fun _ => le_refl _⟩
    | aliveTick id => exact stepsTimers_aliveTick h id
    | attachSlot | detachSlot =>
      exact .inl ((SameBooks.settles .onConn).trans (settles.onSignal ..))
    | handshake => exact .inl (s.books_handshake ..).settles
    | reply k answer =>
      left
      rw [step_unanswered ha (.inl ⟨k, answer, rfl⟩)]
      exact .refl s
    | fail k failure =>
      left
      rw [step_unanswered ha (.inr ⟨k, failure, rfl⟩)]
      exact .refl s

/-! ### At most one current timer -/

/-- Timers are armed with the generation of the moment, and one at most is current. -/
structure OneTimer (s : Manager) : Prop where
  past : ∀ r ∈ s.retries, r.generation ≤ s.retryGeneration r.id
  one : ∀ id, (s.armed id).length ≤ 1

section
variable (h : OneTimer s)
include h

/-- Timers armed before the generation moved on are not current. -/
theorem OneTimer.filter_eq_nil {generation : Nat}
    (hlt : s.retryGeneration id < generation) :
    s.retries.filter (fun r => r.id = id ∧ r.generation = generation) = [] := by
  rw [List.filter_eq_nil_iff]
  intro r hr hcurrent
  obtain ⟨hid, hgen⟩ := of_decide_eq_true hcurrent
  have hle := h.past r hr
  rw [hid, hgen] at hle
  exact absurd hlt (Nat.not_lt.mpr hle)

theorem OneTimer.length_le {retries : List Retry} (hsub : retries.Sublist s.retries)
    {generation : Nat} (hle : s.retryGeneration id ≤ generation) :
    (retries.filter fun r => r.id = id ∧ r.generation = generation).length ≤ 1 := by
  refine (hsub.filter _).length_le.trans ?_
  rcases Nat.eq_or_lt_of_le hle with heq | hlt
  · rw [← heq]
    exact h.one id
  · rw [h.filter_eq_nil hlt]
    exact Nat.zero_le 1

theorem OneTimer.settles (hstep : Settles s s') : OneTimer s' where
  past := fun r hr =>
    (h.past r (hstep.retries.subset hr)).trans (hstep.generation r.id)
  one := fun id => h.length_le hstep.retries (hstep.generation id)

theorem OneTimer.armsOne (hstep : ArmsOne s s' id)
    (halone : s.armed id = [] ∨ s.retryGeneration id < s'.retryGeneration id) : OneTimer s' := by
  obtain ⟨r, hid, hgen, hretries⟩ := hstep.retries
  refine ⟨fun r' hr' => ?_, fun other => ?_⟩
  · rw [hretries] at hr'
    rcases List.mem_append.mp hr' with hr' | hr'
    · exact (h.past r' hr').trans (hstep.generation r'.id)
    · rw [List.mem_singleton.mp hr', hgen, hid]
  · unfold armed
    rw [hretries, List.filter_append, List.length_append]
    by_cases hother : other = id
    · subst hother
      -- of the older timers none is current any more
      have hold : s.retries.filter (fun r =>
          r.id = other ∧ r.generation = s'.retryGeneration other) = [] := by
        rcases Nat.eq_or_lt_of_le (hstep.generation other) with heq | hlt
        · rw [← heq]
          exact halone.resolve_right (heq ▸ Nat.lt_irrefl _)
        · exact h.filter_eq_nil hlt
      rw [hold, List.length_nil, Nat.zero_add]
      exact List.length_filter_le _ _
    · have hnew : [r].filter (fun r =>
          r.id = other ∧ r.generation = s'.retryGeneration other) = [] := by
        simp [hid, Ne.symm hother]
      rw [hnew, List.length_nil, Nat.add_zero]
      exact h.length_le (List.Sublist.refl _) (hstep.generation other)

end

/-- A timer is armed beside the others only where there is no current one. -/
def RearmsAlone (s : Manager) (a : ManagerAction) : Prop :=
  ∀ id ∈ s.rearms a, s.armed id = []

instance (s : Manager) (a : ManagerAction) : Decidable (s.RearmsAlone a) :=
  inferInstanceAs (Decidable (∀ id ∈ s.rearms a, s.armed id = []))

theorem oneTimer_step (haddressed : Addressed s) (h : OneTimer s) {a : ManagerAction}
    (hok : s.RearmsAlone a) : OneTimer (s.step a) := by
  rcases stepsTimers_step haddressed a with hsettles | ⟨id, harms, hwhy⟩
  · exact h.settles hsettles
  · exact h.armsOne harms (hwhy.imp_left fun hid => hok id hid)

/--
**At most one silent retry is armed per satellite.**

In every run in which a silent session PUT is refused for now, or a session closed for now,
only while no current timer of that satellite is armed, every state reached has at most one
armed timer of each satellite that would still dial.
-/
theorem at_most_one_armed_retry (store : ConnectionStore) (acts : List ManagerAction)
    (hok : Steps.Along step RearmsAlone (ofStore store) acts) (id : SatelliteId) :
    ((after store acts).armed id).length ≤ 1 := by
  have hinit : Addressed (ofStore store) ∧ OneTimer (ofStore store) :=
    ⟨addressed_ofStore store, fun r hr => absurd hr (by simp [ofStore]), fun id => by simp [armed, ofStore]⟩
  have hrun : Addressed (after store acts) ∧ OneTimer (after store acts) :=
    Steps.run_keeps (I := fun s : Manager => Addressed s ∧ OneTimer s)
      (fun _ a h hok => ⟨addressed_step h.1 a, oneTimer_step h.1 h.2 hok⟩) hinit hok
  exact hrun.2.one id

/-- The satellite is off: one sweep, one timer, which is spent before the next is armed. -/
theorem one_timer_at_a_time :
    (after rememberedStore [.autoReconnectAll, .fail 0 .timedOut, .retryDue 0,
        .fail 0 .timedOut]).armed box.id ≠ [] ∧
      ((after rememberedStore [.autoReconnectAll, .fail 0 .timedOut, .retryDue 0,
        .fail 0 .timedOut]).armed box.id).length ≤ 1 :=
  ⟨by decide +kernel, at_most_one_armed_retry _ _ (by decide +kernel) _⟩

/-- The satellite is off: the periodic sweep dials beside the armed timer and arms a second. -/
theorem two_sweeps_two_timers :
    ((after rememberedStore [.autoReconnectAll, .fail 0 .timedOut, .autoReconnectAll,
      .fail 0 .timedOut]).armed box.id).length = 2 := by
  decide +kernel

end Manager

end Dish
