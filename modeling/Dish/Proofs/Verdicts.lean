/-
What a terminal verdict stops.

The verdict itself takes the connection down and arms nothing, and a connection that is
down answers nothing on its own.  Nothing else remembers it: the periodic sweep, a
finished scan and a resume dial every remembered row that is not live, a timer armed
before is still current, and a silent pair POST that is out goes on to its session PUT.
-/
import Dish.Proofs.Connecting

namespace Dish

open AttemptView Steps HttpRequest

/-- A pair POST or session PUT for `id` on nobody's behalf. -/
def HttpRequest.isSilentTo (id : SatelliteId) (r : HttpRequest) : Bool :=
  r.driven.any (fun o => o.1 = id) && r.intent ≠ .userInitiated

/-! ### Verdicts -/

/-- The protocol or the identity of the satellite stands against pairing. -/
def PairingOutcome.isTerminal : PairingOutcome → Bool
  | .identityChanged | .versionMismatch => true
  | _ => false

/-- A refusal after which the PUT is not tried again. -/
def RestVerdict.isTerminal (verdict : RestVerdict) (resp : SessionResponse) : Bool :=
  match verdict with
  | .unauthorized | .identityChanged => true
  | .versionMismatch =>
    (settleRejected resp.supportedProtocol resp.supportedProtocolMin).1 ≠ .retryLower
  | .ok | .shuttingDown | .unreachable | .serverError => false

namespace Manager

variable {sentOn : Nat} {resp : SessionResponse} {pinMismatch : Bool} (server : DiscoveredServer)
  (intent : ConnectIntent)

/-- The satellite whose terminal verdict the callback of a request handles. -/
def replyVerdict (s : Manager) (pinMismatch : Bool) : HttpRequest → HttpAnswer → Option SatelliteId
  | .pinPair id sentOn _ _, .pair r | .connectPair id sentOn _ _, .pair r =>
    if (s.replyTarget id sentOn).isSome ∧ (PairingOutcome.classify r pinMismatch).isTerminal
    then some id else none
  | .session id sentOn _ _ _ _, .session resp _ _ =>
    if (s.replyTarget id sentOn).any (·.conn.state = .linking) ∧
      (classifyRest resp pinMismatch).isTerminal resp then some id else none
  | .rekey id .., .session resp _ _ =>
    if classifyRest resp pinMismatch = .unauthorized then some id else none
  | .reconcile id .., .view view =>
    if s.stateOf id = some .live ∧ view.unauthorized then some id else none
  | .syncSlot id .., .controller resp => if resp.unauthorized then some id else none
  | _, _ => none

/-- The satellite whose terminal verdict a step handles: a reply that is refused for good,
or the tick that finds the session closed as unpaired or replaced. -/
def terminalVerdict (s : Manager) : ManagerAction → Option SatelliteId
  | .aliveTick id =>
    match (s.conn? id).bind (·.conn.client) with
    | some client =>
      if 0 ≤ client.sessionCloseReason ∧
          closeActionForReason client.sessionCloseReason.toNat ≠ .retryBackoff then some id
      else none
    | none => none
  | .reply k answer =>
    (s.answered (.reply k answer)).bind fun x => s.replyVerdict false x.request answer
  | .fail k failure =>
    (s.answered (.fail k failure)).bind fun x =>
      s.replyVerdict (x.tls = some (.refused true)) x.request (x.request.noAnswer failure)
  | _ => none

variable {s t : Manager} {a : ManagerAction} {id : SatelliteId}

/-! ### A verdict takes the connection down -/

theorem down_congr (h : s.conn? id = t.conn? id) (ht : (t.view id).Down) : (s.view id).Down := by
  intro ref st hobj
  have hview : (s.view id).obj = (t.view id).obj := by
    unfold view
    rw [h]
  exact ht ref st (hview ▸ hobj)

theorem down_onConn (s : Manager) (id : SatelliteId) {f : WifiConnection → WifiConnection}
    (hf : ∀ c, IsDown (f c).state) : ((s.onConn id f).view id).Down := by
  intro ref st hobj
  cases hp : s.conn? id with
  | none =>
    have hnone : (s.onConn id f).conn? id = none := by rw [conn?_onConn, hp]; rfl
    rw [view_obj_none hnone] at hobj
    exact absurd hobj (by simp)
  | some p =>
    rw [view_obj (conn?_onConn_self f hp), Option.some.injEq, Prod.mk.injEq] at hobj
    exact hobj.2 ▸ hf p.conn

theorem down_markDisconnected (s : Manager) (id : SatelliteId) :
    ((s.onConn id WifiConnection.markDisconnected).view id).Down :=
  down_onConn s id WifiConnection.isDown_markDisconnected

theorem down_emitErrorIfUserInitiated (h : (s.view id).Down) (intent : ConnectIntent)
    (message : String) : ((s.emitErrorIfUserInitiated intent message).view id).Down := by
  rw [view_emitErrorIfUserInitiated]
  exact h

theorem down_onTerminalAuthFailure (s : Manager) (id : SatelliteId) (intent : ConnectIntent) :
    ((s.onTerminalAuthFailure id intent).view id).Down := by
  refine down_emitErrorIfUserInitiated ?_ _ _
  exact down_congr rfl (down_onConn s id WifiConnection.isDown_markStale)

theorem down_pairReplied {outcome : PairingOutcome} {s' : Manager}
    (htarget : (s.replyTarget id sentOn).isSome) (hterminal : outcome.isTerminal)
    (replied : PairReplied s id sentOn server intent outcome s') : (s'.view id).Down := by
  cases replied with
  | stray gone => simp [gone] at htarget
  | granted key is => simp [is, PairingOutcome.isTerminal] at hterminal
  | refused f _ _ _ down =>
    refine down_congr rfl (down_onConn (s.endPairingRequest id sentOn) id ?_)
    rcases down with rfl | rfl
    · exact WifiConnection.isDown_markDisconnected
    · exact WifiConnection.isDown_markStale

theorem down_onSessionRefused {verdict : RestVerdict} (hterminal : verdict.isTerminal resp) :
    ((s.onSessionRefused id server intent verdict resp).view id).Down := by
  unfold onSessionRefused
  cases verdict with
  | unauthorized => exact down_onTerminalAuthFailure s id intent
  | identityChanged =>
    refine down_emitErrorIfUserInitiated ?_ _ _
    exact down_congr rfl (down_markDisconnected s id)
  | versionMismatch =>
    have hlower : (settleRejected resp.supportedProtocol resp.supportedProtocolMin).1 ≠
        .retryLower := of_decide_eq_true hterminal
    unfold onSessionVersionRefused
    rw [if_neg hlower]
    exact down_emitErrorIfUserInitiated (down_markDisconnected s id) _ _
  | _ => exact absurd hterminal (by simp [RestVerdict.isTerminal])

theorem down_onSessionReply (sentSlots : List DesiredSlot) (derived : BitVec 256)
    (socketOpened : Bool) (htarget : (s.replyTarget id sentOn).any (·.conn.state = .linking))
    (hterminal : (classifyRest resp pinMismatch).isTerminal resp) :
    ((s.onSessionReply id sentOn server intent sentSlots resp derived socketOpened
      pinMismatch).view id).Down := by
  obtain ⟨p, hp, hlinking⟩ := (Option.any_eq_true _ _).mp htarget
  have hdown : ((s.onSessionRefused id server intent (classifyRest resp pinMismatch) resp).view
      id).Down := down_onSessionRefused server intent hterminal
  unfold onSessionReply
  rw [hp]
  dsimp only
  rw [if_neg (not_not.mpr (of_decide_eq_true hlinking))]
  split
  · exact hdown
  · rw [if_pos (Or.inl ?_)]
    · exact hdown
    · intro hok
      rw [hok] at hterminal
      exact absurd hterminal (by simp [RestVerdict.isTerminal])

theorem down_of_no_conn (h : s.conn? id = none) : (s.view id).Down := by
  intro ref st hobj
  rw [view_obj_none h] at hobj
  exact absurd hobj (by simp)

theorem down_onRekeyReply (client : Nat) (derived : BitVec 256)
    (hterminal : classifyRest resp pinMismatch = .unauthorized) :
    ((s.onRekeyReply id client resp derived pinMismatch).view id).Down := by
  unfold onRekeyReply
  cases hp : s.conn? id with
  | none => exact down_of_no_conn hp
  | some p =>
    dsimp only
    rw [if_pos hterminal]
    exact down_onTerminalAuthFailure s id _

theorem down_onView {view : SessionViewDto} (hlive : s.stateOf id = some .live)
    (hterminal : view.unauthorized) : ((s.onView id server view).view id).Down := by
  obtain ⟨p, hp, hst⟩ := Option.map_eq_some_iff.mp hlive
  have hp' : ({ s with reconcileInFlight := s.reconcileInFlight.erase id } : Manager).conn? id =
      some p := hp
  unfold onView
  dsimp only
  rw [hp']
  dsimp only
  rw [if_neg (not_not.mpr hst), if_pos hterminal]
  exact down_onTerminalAuthFailure _ id _

theorem down_onSyncReply {resp : ControllerPutResponse} (hterminal : resp.unauthorized) :
    ((s.onSyncReply id server resp).view id).Down := by
  unfold onSyncReply
  cases hp : s.conn? id with
  | none => exact down_of_no_conn hp
  | some p =>
    dsimp only
    rw [if_pos hterminal]
    exact down_onTerminalAuthFailure s id _

theorem down_handleServerClose (s : Manager) (id : SatelliteId) (server : DiscoveredServer)
    {reason : Nat} (hterminal : closeActionForReason reason ≠ .retryBackoff) :
    ((s.handleServerClose id server reason).view id).Down := by
  unfold handleServerClose
  split
  · exact down_congr rfl (down_onConn s id WifiConnection.isDown_markStale)
  · exact down_markDisconnected s id
  · rename_i hretry
    exact absurd hretry hterminal

/-- The callback that handles a terminal verdict leaves the connection down. -/
theorem down_onAnswer {request : HttpRequest} {answer : HttpAnswer}
    (h : s.replyVerdict pinMismatch request answer = some id) :
    ((s.onAnswer pinMismatch request answer).view id).Down := by
  unfold replyVerdict at h
  split at h
  case h_7 => exact absurd h (by simp)
  all_goals obtain ⟨hcond, rfl⟩ := Option.ite_some_none_eq_some.mp h
  · exact down_pairReplied _ _ hcond.1 hcond.2 (.pin ..)
  · exact down_pairReplied _ _ hcond.1 hcond.2 (.connect ..)
  · exact down_onSessionReply _ _ _ _ _ hcond.1 hcond.2
  · exact down_onRekeyReply _ _ hcond
  · exact down_onView _ hcond.1 hcond.2
  · exact down_onSyncReply _ hcond

theorem down_terminalVerdict (h : s.terminalVerdict a = some id) : ((s.step a).view id).Down := by
  cases a with
  | aliveTick other =>
    unfold terminalVerdict at h
    dsimp only at h
    split at h
    · rename_i client hclient
      obtain ⟨hclosed, rfl⟩ := Option.ite_some_none_eq_some.mp h
      obtain ⟨p, hp, hpclient⟩ := Option.bind_eq_some_iff.mp hclient
      show ((s.aliveTick other).view other).Down
      unfold aliveTick
      rw [hp]
      dsimp only
      rw [hpclient]
      dsimp only
      rw [if_pos hclosed.1]
      exact down_handleServerClose s other _ hclosed.2
    · exact absurd h (by simp)
  | reply k =>
    obtain ⟨x, ha, hverdict⟩ := Option.bind_eq_some_iff.mp h
    rw [(step_reply ha).2.2]
    exact down_onAnswer (s := s.popped k) hverdict
  | fail k =>
    obtain ⟨x, ha, hverdict⟩ := Option.bind_eq_some_iff.mp h
    rw [(step_fail ha).2]
    exact down_onAnswer (s := s.popped k) hverdict
  | _ => exact absurd h (by simp [terminalVerdict])

end Manager

/-! ### A connection that is down stays silent -/

/-- The connection is down, no silent pair POST is out, and `silent` are the silent requests
sent so far. -/
structure AttemptView.Quiet (id : SatelliteId) (silent : List HttpRequest) (v : AttemptView) :
    Prop where
  down : v.Down
  posts : ∀ y ∈ v.out, y.2.isPut = false → y.2.intent = .userInitiated
  silent : v.sent.filter (isSilentTo id) = silent

namespace AttemptView

variable {P : HttpRequest → Prop} {G : Prop} {id : SatelliteId} {v v' : AttemptView}
  {x : Nat × HttpRequest} {silent : List HttpRequest}

theorem filter_sent_append {sent : List HttpRequest} {r : HttpRequest}
    (hr : r.isSilentTo id = false) :
    (sent ++ [r]).filter (isSilentTo id) = sent.filter (isSilentTo id) := by
  rw [List.filter_append, List.filter_cons_of_neg (by simp [hr]), List.filter_nil, List.append_nil]

theorem quiet_move (h : Move (fun _ => False) id v v') (hv : v.Quiet id silent) :
    v'.Quiet id silent := by
  refine ⟨down_move h hv.down, ?_, ?_⟩
  · cases h with
    | dialled h hst hr hP => exact hP.elim
    | asked h hput hr hP => exact hP.elim
    | _ => exact hv.posts
  · cases h with
    | dialled h hst hr hP => exact hP.elim
    | asked h hput hr hP => exact hP.elim
    | @other r hr =>
      refine (filter_sent_append ?_).trans hv.silent
      have hnot : r.driven.any (fun o => o.1 = id) = false := by
        rw [Option.any_eq_false_iff_get]
        intro hsome
        exact decide_eq_false fun hid => hr _ (by rw [← hid]; exact (Option.some_get hsome).symm)
      unfold isSilentTo
      rw [hnot, Bool.false_and]
    | _ => exact hv.silent

theorem quiet_answered (h : Answered P G id x v v') (hP : ∀ r, P r → r.intent = .userInitiated)
    (hv : v.Quiet id silent) : v'.Quiet id silent := by
  have hout : ∀ {out : List (Nat × HttpRequest)}, v.out.Perm (x :: out) →
      ∀ y ∈ out, y.2.isPut = false → y.2.intent = .userInitiated :=
    fun hperm y hy => hv.posts y (hperm.mem_iff.mpr (List.mem_cons_of_mem x hy))
  refine ⟨down_answered h hv.down, ?_, ?_⟩
  · cases h with
    | granted hperm h hx hpost hput hr hPr =>
      intro y hy hyput
      rcases List.mem_append.mp hy with hy | hy
      · exact hout hperm y hy hyput
      · rw [List.mem_singleton.mp hy]
        exact hP _ hPr
    | stray hperm | settled hperm | started hperm | late hperm => exact hout hperm
  · cases h with
    | granted hperm h hx hpost hput hr hPr =>
      refine (filter_sent_append ?_).trans hv.silent
      simp [isSilentTo, hP _ hPr]
    | _ => exact hv.silent

end AttemptView

namespace Manager

variable {s : Manager} {a : ManagerAction} {id : SatelliteId} {silent : List HttpRequest}

/-- The callback of a request of `id` sends only on the user's behalf, if the request was. -/
theorem quiet_maySend (hquiet : (s.view id).Quiet id silent) {x : InFlight} {ref : Nat}
    (ha : s.answered a = some x) (hdriven : x.request.driven = some (id, ref)) {r : HttpRequest}
    (hmay : s.MaySend a id r) : r.intent = .userInitiated := by
  obtain ⟨k, -, -, hx, -⟩ := step_of_answered ha
  have hout : (x.serial, x.request) ∈ (s.view id).out :=
    List.mem_filter.mpr ⟨List.mem_map.mpr ⟨x, List.mem_of_getElem? hx, rfl⟩, by simp [hdriven]⟩
  have hreply : s.ReplyMaySend id r x.request := by
    cases a with
    | reply | fail =>
      obtain ⟨y, hy, hmay⟩ := hmay
      rw [ha, Option.some.injEq] at hy
      exact hy ▸ hmay
    | _ => exact absurd ha (by simp [answered])
  cases hrequest : x.request with
  | pinPair =>
    rw [hrequest] at hreply
    exact hreply.2
  | connectPair =>
    rw [hrequest] at hreply hout
    exact hreply.2.trans (hquiet.posts _ hout rfl)
  | session =>
    rw [hrequest] at hreply
    exact hreply.elim
  | _ => rw [hrequest] at hdriven; exact absurd hdriven (by simp [driven])

theorem quiet_step (h : s.LeavesAlone id a) (hquiet : (s.view id).Quiet id silent) :
    ((s.step a).view id).Quiet id silent :=
  h.keeps hquiet.down (fun _ _ => quiet_move) (fun hx hdriven hmid =>
    quiet_answered hmid (fun _ hmay => quiet_maySend hquiet hx hdriven hmay) hquiet) hquiet

/-- The silent requests sent for `id` so far. -/
def silentlySent (s : Manager) (id : SatelliteId) : List HttpRequest :=
  s.sent.filter (isSilentTo id)

/-- A silent pair POST for `id` is unanswered. -/
def SilentPostOut (s : Manager) (id : SatelliteId) : Prop :=
  ∃ x ∈ s.net, x.request.isSilentTo id ∧ x.request.isPut = false

instance (s : Manager) (id : SatelliteId) : Decidable (s.SilentPostOut id) :=
  inferInstanceAs (Decidable (∃ x ∈ s.net, _))

theorem quiet_of_down (hdown : (s.view id).Down) (hposts : ¬s.SilentPostOut id) :
    (s.view id).Quiet id (s.silentlySent id) := by
  refine ⟨hdown, fun y hy hput => ?_, rfl⟩
  obtain ⟨hmem, hdriven⟩ := List.mem_filter.mp hy
  obtain ⟨x, hx, rfl⟩ := List.mem_map.mp hmem
  by_contra hsilent
  exact hposts ⟨x, hx, by simp [isSilentTo, hdriven, hsilent], hput⟩

/--
**Terminal verdicts are terminal.**

Take a run in which a step handles a terminal verdict of a satellite, with no silent pair
POST to it left unanswered.  As long as no sweep, scan or resume comes to a row of it that
the user does not hold, no timer that is still current dials it, and the user does not
connect to it, pair with it or forget it, no silent request is sent to it.
-/
theorem terminal_verdict_is_terminal (store : ConnectionStore) (before later : List ManagerAction)
    (a : ManagerAction) (id : SatelliteId)
    (hverdict : (after store before).terminalVerdict a = some id)
    (hposts : ¬(after store (before ++ [a])).SilentPostOut id)
    (hlater : Along step (fun s a => s.LeavesAlone id a) (after store (before ++ [a])) later) :
    (after store (before ++ [a] ++ later)).silentlySent id =
      (after store (before ++ [a])).silentlySent id := by
  have hstep : after store (before ++ [a]) = (after store before).step a := by
    unfold after
    rw [run_append]
    rfl
  have hdown : ((after store (before ++ [a])).view id).Down := by
    rw [hstep]
    exact down_terminalVerdict hverdict
  have hrun := run_keeps
    (I := fun s : Manager => (s.view id).Quiet id ((after store (before ++ [a])).silentlySent id))
    (fun _ _ h hok => quiet_step hok h) (quiet_of_down hdown hposts) hlater
  have hafter : after store (before ++ [a] ++ later) =
      run step (after store (before ++ [a])) later := by
    unfold after
    rw [run_append]
  rw [hafter]
  exact hrun.silent

instance (s : Manager) (id : SatelliteId) : ∀ a : ManagerAction, Decidable (s.Reaches id a)
  | .autoReconnectAll => inferInstanceAs (Decidable (∃ row ∈ s.store.satellites.all, row.id = id))
  | .resumeFromSleep => inferInstanceAs (Decidable (∃ row ∈ s.store.satellites.all, row.id = id))
  | .scanFinished discovered =>
    inferInstanceAs (Decidable (s.scanning ∧
      ∃ row ∈ (s.store.refreshFromDiscovery discovered).satellites.all, row.id = id))
  | .retryDue k =>
    inferInstanceAs (Decidable (((s.retries[k]?).bind s.retryTarget).map (·.id) = some id))
  | .connectTo _ | .pairWithPin _ _ | .requestReversePairing _ _ | .cancelReversePairing
  | .disconnect _ | .disconnectByUser _ | .forget _ | .markStale _ | .startDiscovery
  | .prepareForSleep | .reverseTimer | .aliveTick _ | .attachSlot _ _ _ | .detachSlot _ _
  | .ack _ _ _ | .miss _ | .count _ _ | .closeNotice _ _ | .handshake _ _ | .reply _ _
  | .fail _ _ => inferInstanceAs (Decidable False)

instance (s : Manager) (id : SatelliteId) (a : ManagerAction) : Decidable (s.LeavesAlone id a) :=
  decidable_of_iff (a.userActsOn id = false ∧
      (s.AwaitsApproval id → ∀ x ∈ s.answered a, x.request.isApproval = false) ∧
      (s.Reaches id a → id ∈ s.heldByUser))
    ⟨fun h => ⟨h.1, h.2.1, h.2.2⟩, fun h => ⟨h.user, h.approval, h.drivers⟩⟩

/-- The satellite answers a session PUT with 401. -/
def sessionUnauthorized : HttpAnswer := .session { httpStatus := 401, reachable := true } 0 false

/-- The user disconnects a satellite that refused for good: the sweep and the scan pass it by. -/
theorem refused_and_held_is_silent :
    (after rememberedStore [.autoReconnectAll, .handshake 0 (some "f1")]).terminalVerdict
        (.reply 0 sessionUnauthorized) = some box.id ∧
      (after rememberedStore ([.autoReconnectAll, .handshake 0 (some "f1")] ++
        [.reply 0 sessionUnauthorized] ++ [.disconnectByUser box.id, .autoReconnectAll,
          .startDiscovery, .scanFinished [box]])).silentlySent box.id =
      (after rememberedStore ([.autoReconnectAll, .handshake 0 (some "f1")] ++
        [.reply 0 sessionUnauthorized])).silentlySent box.id :=
  ⟨by decide +kernel, terminal_verdict_is_terminal _ _ _ _ _ (by decide +kernel)
    (by decide +kernel) (by decide +kernel)⟩

/-- The satellite refuses for good, and the periodic sweep sends it a silent pair POST. -/
theorem sweep_dials_after_unauthorized :
    (after rememberedStore [.autoReconnectAll, .handshake 0 (some "f1")]).terminalVerdict
        (.reply 0 sessionUnauthorized) = some box.id ∧
      (after rememberedStore ([.autoReconnectAll, .handshake 0 (some "f1")] ++
        [.reply 0 sessionUnauthorized] ++ [.autoReconnectAll])).silentlySent box.id =
      (after rememberedStore ([.autoReconnectAll, .handshake 0 (some "f1")] ++
        [.reply 0 sessionUnauthorized])).silentlySent box.id ++
          [.connectPair box.id 0 box .autoReconnect] := by
  decide +kernel

end Manager

end Dish
