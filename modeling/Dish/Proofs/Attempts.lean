/-
The manager moves one satellite's view only as `AttemptView` says.

Each method of the manager is followed on the view of an arbitrary id: one that works on
another id leaves the view alone, and one that works on this id makes a few moves.  The
step lemma at the end also says what a step may send, and on whose behalf, from the
action and the state it is taken in.
-/
import Dish.Proofs.Books

namespace Dish

open AttemptView WifiConnection HttpRequest

namespace Manager

variable {P : HttpRequest → Prop} {G : Prop} {id : SatelliteId} {s s' t : Manager}

variable (f : WifiConnection → WifiConnection)

/-! ### The view of the parts -/

variable {p : Pooled}

theorem conn?_onConn_self (h : s.conn? id = some p) :
    (s.onConn id f).conn? id = some { p with conn := f p.conn } := by
  rw [conn?_onConn, h]
  simp

variable {other : SatelliteId}

theorem conn?_onConn_ne (h : other ≠ id) : (s.onConn id f).conn? other = s.conn? other := by
  rw [conn?_onConn]
  simp [h]

theorem view_congr (hconn : s'.conn? id = s.conn? id) (hnet : s'.net = s.net)
    (hsent : s'.sent = s.sent) : s'.view id = s.view id := by
  unfold view
  rw [hconn, hnet, hsent]

theorem view_onConn_ne (h : id ≠ other) : (s.onConn other f).view id = s.view id :=
  view_congr (conn?_onConn_ne f h) rfl rfl

theorem view_onConn (other : SatelliteId) {f : WifiConnection → WifiConnection}
    (hf : ∀ c, (f c).state = c.state) : (s.onConn other f).view id = s.view id := by
  have hobj : ((s.onConn other f).conn? id).map (fun p => (p.ref, p.conn.state)) =
      (s.conn? id).map fun p => (p.ref, p.conn.state) := by
    rw [conn?_onConn, Option.map_map]
    congr 1
    funext p
    by_cases h : id = other <;> simp [h, hf]
  unfold view
  rw [hobj]
  rfl

theorem view_obj (h : s.conn? id = some p) : (s.view id).obj = some (p.ref, p.conn.state) := by
  simp [view, h]

theorem view_obj_none (h : s.conn? id = none) : (s.view id).obj = none := by
  simp [view, h]

theorem view_onConn_self (h : s.conn? id = some p) :
    (s.onConn id f).view id = (s.view id).withState p.ref (f p.conn).state := by
  unfold view withState
  rw [conn?_onConn_self f h]
  rfl

variable {ref : Nat}

theorem view_send_driving {r : HttpRequest} (hr : r.driven = some (id, ref)) :
    (s.send r).view id = (s.view id).asking r := by
  unfold view send asking
  simp [hr, conn?]

theorem view_send_other {r : HttpRequest} (hr : ∀ ref, r.driven ≠ some (id, ref)) :
    (s.send r).view id = { s.view id with sent := (s.view id).sent ++ [r] } := by
  have hno : (r.driven.any fun o => o.1 = id) = false := by
    cases hd : r.driven with
    | none => rfl
    | some o =>
      have hne : o.1 ≠ id := fun ho => hr o.2 (by rw [hd, ← ho])
      simpa using hne
  unfold view send
  simp [hno, conn?]

/-! ### Moves -/

/-- The views of two states are connected by moves. -/
def Moves (P : HttpRequest → Prop) (id : SatelliteId) (s s' : Manager) : Prop :=
  Reach P id (s.view id) (s'.view id)

namespace Moves

theorem refl (s : Manager) : Moves P id s s := Relation.ReflTransGen.refl

theorem of_view (h : s'.view id = s.view id) : Moves P id s s' := by
  unfold Moves
  rw [h]
  exact Relation.ReflTransGen.refl

theorem trans (h : Moves P id s t) (h' : Moves P id t s') : Moves P id s s' :=
  Relation.ReflTransGen.trans h h'

theorem single (h : Move P id (s.view id) (s'.view id)) : Moves P id s s' :=
  Relation.ReflTransGen.single h

theorem mono {Q : HttpRequest → Prop} (hPQ : ∀ r, P r → Q r) (h : Moves P id s s') :
    Moves Q id s s' :=
  Reach.mono hPQ h

theorem then_view (h : Moves P id s t) (hview : s'.view id = t.view id) : Moves P id s s' :=
  h.trans (of_view hview)

end Moves

variable {r : HttpRequest} (c : WifiConnection)

theorem moves_send_other (s : Manager) (hr : ∀ ref, r.driven ≠ some (id, ref)) :
    Moves P id s (s.send r) := by
  apply Moves.single
  rw [view_send_other hr]
  exact .other hr

theorem view_emitErrorIfUserInitiated (s : Manager) (intent : ConnectIntent) (message : String) :
    (s.emitErrorIfUserInitiated intent message).view id = s.view id := by
  unfold emitErrorIfUserInitiated
  split <;> rfl

/-! ### Ending a session -/

theorem conn?_releaseSession (s : Manager) (other : SatelliteId) (server : DiscoveredServer)
    (connectionId : String) : (s.releaseSession other server connectionId).conn? id = s.conn? id := by
  unfold releaseSession
  split <;> rfl

theorem conn?_disconnect (s : Manager) (other : SatelliteId) :
    (s.disconnect other).conn? id = (s.onConn other markDisconnected).conn? id := by
  unfold disconnect
  dsimp only
  split
  · rename_i hnone
    have hnone : s.conn? other = none := hnone
    rw [conn?_onConn]
    by_cases hid : id = other
    · subst hid
      rw [hnone]
      exact hnone
    · simp [hid, conn?]
  · split
    · exact conn?_releaseSession ..
    · rfl

theorem view_scheduleRetry (s : Manager) (server : DiscoveredServer) (intent : ConnectIntent) :
    (s.scheduleRetry server intent).view id = s.view id := by
  unfold scheduleRetry
  split <;> rfl

/-! ### Dialling -/

variable {server : DiscoveredServer}

theorem conn?_ensureConnection_ne (h : id ≠ server.id) :
    (s.ensureConnection server).conn? id = s.conn? id := by
  unfold ensureConnection
  split
  · rfl
  · exact AList.lookup_insert_ne h

section
variable (s : Manager) (server : DiscoveredServer)

theorem net_ensureConnection :
    (s.ensureConnection server).net = s.net := by
  unfold ensureConnection
  split <;> rfl

theorem sent_ensureConnection :
    (s.ensureConnection server).sent = s.sent := by
  unfold ensureConnection
  split <;> rfl

/-- A connection found stays as it is, one made is idle. -/
theorem conn?_ensureConnection :
    (s.conn? server.id).isSome ∧ s.ensureConnection server = s ∨
      s.conn? server.id = none ∧ ∃ p : Pooled, p.ref = s.refs ∧ p.conn.state = .idle ∧
        (s.ensureConnection server).conn? server.id = some p := by
  unfold ensureConnection
  cases hp : s.conn? server.id with
  | some p => exact .inl ⟨rfl, rfl⟩
  | none => exact .inr ⟨rfl, _, rfl, rfl, AList.lookup_insert _⟩

theorem moves_ensureConnection :
    Moves P id s (s.ensureConnection server) := by
  by_cases hid : id = server.id
  · subst hid
    rcases conn?_ensureConnection s server with ⟨-, heq⟩ | ⟨hnone, p, -, hidle, hp⟩
    · rw [heq]
      exact Moves.refl s
    · apply Moves.single
      have hview : (s.ensureConnection server).view server.id =
          (s.view server.id).withState p.ref .idle := by
        unfold view withState
        rw [hp, net_ensureConnection, sent_ensureConnection, ← hidle]
        rfl
      rw [hview]
      exact .made p.ref (view_obj_none hnone)
  · exact Moves.of_view (view_congr (conn?_ensureConnection_ne hid) (net_ensureConnection s server)
      (sent_ensureConnection s server))

end

theorem moves_send_undriven (s : Manager) (hr : r.driven = none) : Moves P id s (s.send r) :=
  moves_send_other s fun ref h => by simp [hr] at h

theorem moves_settling (s : Manager) (other : SatelliteId) {f : WifiConnection → WifiConnection}
    (hf : ∀ p, s.conn? other = some p → p.conn.Settling (f p.conn)) :
    Moves P id s (s.onConn other f) := by
  by_cases hid : id = other
  · subst hid
    cases hp : s.conn? id with
    | none => exact Moves.of_view (view_congr (by rw [conn?_onConn, hp]; rfl) rfl rfl)
    | some p =>
      rcases hf p hp with hsame | hdown | ⟨hin, hin'⟩
      · apply Moves.of_view
        rw [view_onConn_self f hp, hsame]
        unfold withState view
        rw [hp]
        rfl
      · apply Moves.single
        rw [view_onConn_self f hp]
        exact .down (view_obj hp) hdown
      · apply Moves.single
        rw [view_onConn_self f hp]
        exact .steady (view_obj hp) hin hin'
  · exact Moves.of_view (view_onConn_ne f hid)

/-- Every edit makes moves, where it is not this satellite that is dialled. -/
theorem moves : EditClosed False (fun _ => False) (id ≠ ·) (Moves P id) where
  refl := Moves.refl
  trans := Moves.trans
  given h := h False.elim
  note h := by
    simp only [books, Prod.mk.injEq] at h
    exact Moves.of_view (view_congr (congrArg (AList.lookup id) h.1) h.2.1 h.2.2.1)
  make := moves_ensureConnection
  conn h := moves_settling _ _ fun p hp => (h p hp).1
  send hr _ _ := moves_send_undriven _ hr
  link hid := Moves.of_view (view_onConn_ne _ hid)
  ask hr hid _ := moves_send_other _ fun ref h => by
    rw [hr, Option.some.injEq, Prod.mk.injEq] at h
    exact hid h.1.symm
  start hid _ _ _ := Moves.of_view (view_congr (by
    unfold conn?
    rw [Pool.lookup_modify]
    simp [hid]) rfl rfl)

theorem moves_disconnect (s : Manager) (other : SatelliteId) : Moves P id s (s.disconnect other) :=
  Moves.trans (Moves.of_view rfl) (moves.disconnect s other)

/-- A connection that is not live goes to Linking together with the request it waits for. -/
theorem moves_dialled (hp : s.conn? id = some p) (hst : p.conn.state ≠ .live)
    (hr : r.driven = some (id, p.ref)) (hP : P r)
    (hview : s'.view id = (s.onConn id markConnecting |>.send r).view id) :
    Moves P id s s' := by
  apply Moves.single
  rw [hview, view_send_driving hr, view_onConn_self _ hp, state_markConnecting hst]
  exact .dialled (view_obj hp) hst hr hP

variable {intent : ConnectIntent}

/-- `openSession` on a connection that was just sent to Linking.  A live one stays live. -/
theorem moves_connecting_openSession (hP : ∀ r, id = other → r.intent = intent → P r)
    (hview : ∀ i, t.view i = (s.onConn other markConnecting).view i)
    (hconn : ∀ i, t.conn? i = (s.onConn other markConnecting).conn? i) :
    Moves P id s (t.openSession other server intent) := by
  by_cases hid : id = other
  · subst hid
    unfold openSession
    cases hp : s.conn? id with
    | none =>
      have hnone : t.conn? id = none := by rw [hconn, conn?_onConn, hp]; rfl
      rw [hnone]
      apply Moves.of_view
      rw [hview]
      exact view_congr (by rw [conn?_onConn, hp]; rfl) rfl rfl
    | some p =>
      have hsome := hconn id
      rw [conn?_onConn_self _ hp] at hsome
      rw [hsome]
      cases hcreds : t.credentialsFor id with
      | none =>
        -- no usable key: the connection ends in Stale, wherever it was
        apply Moves.single
        unfold onTerminalAuthFailure
        rw [view_emitErrorIfUserInitiated]
        show Move P id _ ((t.onConn id WifiConnection.markStale).view id)
        rw [view_onConn_self _ hsome, hview, view_onConn_self _ hp]
        have hobj := view_obj hp
        exact .down hobj (isDown_markStale _)
      | some pairingKey =>
        by_cases hlive : p.conn.state = .live
        · have hkeep : p.conn.markConnecting = p.conn := by
            unfold markConnecting
            rw [hlive]
          apply Moves.single
          rw [view_send_driving rfl, hview, view_onConn_self _ hp, hkeep]
          have hsame : (s.view id).withState p.ref p.conn.state = s.view id := by
            unfold withState view
            rw [hp]
            rfl
          rw [hsame]
          exact .asked (by rw [view_obj hp, hlive]) rfl rfl (hP _ rfl rfl)
        · refine moves_dialled hp hlive (r := .session id p.ref server intent pairingKey
            p.conn.markConnecting.sessionBody) rfl (hP _ rfl rfl) ?_
          rw [view_send_driving rfl, view_send_driving rfl, hview]
  · refine (Moves.of_view ?_).trans (moves.openSession t intent hid False.elim)
    rw [hview, view_onConn_ne _ hid]

theorem moves_dial
    (hst : s.stateOf other ≠ some .live) (hP : ∀ r, id = other → r.intent = intent → P r) :
    Moves P id s (s.dial other server intent) := by
  by_cases hid : id = other
  · subst hid
    unfold dial
    dsimp only
    split
    · exact moves_connecting_openSession hP (fun _ => rfl) (fun _ => rfl)
    · unfold pairAndConnect
      cases hp : s.conn? id with
      | none =>
        have hnone : (s.onConn id markConnecting).conn? id = none := by
          rw [conn?_onConn, hp]; rfl
        rw [hnone]
        exact Moves.of_view (view_congr (by rw [hnone, hp]) rfl rfl)
      | some p =>
        rw [conn?_onConn_self _ hp]
        have hlive : p.conn.state ≠ .live := fun h => hst (by simp [stateOf, hp, h])
        refine moves_dialled hp hlive (r := .connectPair id p.ref server intent) rfl
          (hP _ rfl rfl) ?_
        rfl
  · exact moves.dial s intent hid False.elim

section
variable (s : Manager)

theorem view_updateServer (other : SatelliteId) (server : DiscoveredServer) :
    (s.onConn other (·.updateServer server)).view id = s.view id :=
  view_onConn other fun _ => rfl

theorem view_setOfferedProtocolVersion (other : SatelliteId) (version : Nat) :
    (s.onConn other (·.setOfferedProtocolVersion version)).view id = s.view id :=
  view_onConn other fun _ => rfl

theorem stateOf_onConn (other : SatelliteId) {f : WifiConnection → WifiConnection}
    (hf : ∀ c, (f c).state = c.state) : (s.onConn other f).stateOf id = s.stateOf id := by
  unfold stateOf
  rw [conn?_onConn, Option.map_map]
  congr 1
  funext p
  by_cases h : id = other <;> simp [h, hf]

/-- `connectTo` dials only where a silent intent is not held back. -/
theorem moves_connectTo (server : DiscoveredServer) (intent : ConnectIntent)
    (hP : ∀ r, id = server.id → r.intent = intent →
      (intent ≠ .userInitiated → id ∉ s.heldByUser) → P r) :
    Moves P id s (s.connectTo server intent) := by
  unfold connectTo
  split
  · exact Moves.of_view (view_emitErrorIfUserInitiated ..)
  · split
    · exact Moves.refl s
    · rename_i hheld
      dsimp only
      have hfound : Moves P id s (if intent = .userInitiated
          then (s.ensureConnection server).clearForUserAction server.id
          else s.ensureConnection server) := by
        refine (moves_ensureConnection s server).then_view ?_
        split <;> rfl
      generalize (if intent = .userInitiated
          then (s.ensureConnection server).clearForUserAction server.id
          else s.ensureConnection server) = found at hfound ⊢
      have hupdated := hfound.then_view (view_updateServer found server.id server)
      split
      · exact hupdated
      · rename_i hst
        refine hupdated.trans (moves_dial ?_ fun r hid hintent => hP r hid hintent ?_)
        · rw [stateOf_onConn found server.id (f := (·.updateServer server)) fun _ => rfl]
          exact fun h => hst (.inl h)
        · intro hsilent hmem
          exact hheld ⟨hsilent, hid ▸ hmem⟩

theorem moves_pairWithPin (server : DiscoveredServer) (pin : String)
    (hP : ∀ r, id = server.id → r.intent = .userInitiated → P r) :
    Moves P id s (s.pairWithPin server pin) := by
  unfold pairWithPin
  split
  · exact Moves.of_view (view_emitErrorIfUserInitiated ..)
  · dsimp only
    have hfound : Moves P id s ((s.ensureConnection server).clearForUserAction server.id) :=
      (moves_ensureConnection s server).then_view rfl
    generalize (s.ensureConnection server).clearForUserAction server.id = found at hfound ⊢
    cases hp : found.conn? server.id with
    | none => exact hfound
    | some p =>
      dsimp only
      split
      · exact hfound
      · rename_i hlive
        refine hfound.trans ((Moves.of_view (view_updateServer found server.id server)).trans ?_)
        have hp' := conn?_onConn_self (·.updateServer server) hp
        by_cases hid : id = server.id
        · subst hid
          refine moves_dialled hp' hlive (r := .pinPair server.id p.ref server pin) rfl
            (hP _ rfl rfl) ?_
          rfl
        · refine (moves.link hid).trans (Moves.trans ?_ (moves.ask rfl hid False.elim))
          exact Moves.of_view rfl

/-! ### Sweeps and timers -/

theorem moves_autoReconnectAll
    (hP : ∀ r, (∃ row ∈ s.store.satellites.all, row.id = id) → r.intent = .autoReconnect →
      id ∉ s.heldByUser → P r) :
    Moves P id s s.autoReconnectAll := by
  unfold autoReconnectAll
  -- the hold is the same at every row, since a silent dial does not lift it
  suffices h : ∀ (rows : List DiscoveredServer) (t : Manager), rows ⊆ s.store.satellites.all →
      t.heldByUser = s.heldByUser →
      Moves P id t (rows.foldl (fun s row =>
        if s.stateOf row.id ≠ some .live then s.connectTo row .autoReconnect else s) t) from
    h _ s (List.Subset.refl _) rfl
  intro rows
  induction rows with
  | nil =>
    intro t _ _
    exact Moves.refl t
  | cons row rest ih =>
    intro t hrows hheld
    obtain ⟨hrow, hrest⟩ := List.cons_subset.mp hrows
    rw [List.foldl_cons]
    by_cases hst : t.stateOf row.id ≠ some .live
    · rw [if_pos hst]
      refine Moves.trans ?_
        (ih _ hrest ((sameBooks.connectTo_silent t (by decide) row trivial).held.trans hheld))
      refine moves_connectTo t row .autoReconnect fun r hid hintent hfree =>
        hP r ⟨row, hrow, hid.symm⟩ hintent ?_
      rw [← hheld]
      exact hfree (by decide)
    · rw [if_neg hst]
      exact ih t hrest hheld

theorem moves_scanFinished (discovered : List DiscoveredServer)
    (hP : ∀ r, s.scanning ∧ (∃ row ∈ (s.store.refreshFromDiscovery discovered).satellites.all,
      row.id = id) → r.intent = .autoReconnect → id ∉ s.heldByUser → P r) :
    Moves P id s (s.scanFinished discovered) := by
  unfold scanFinished
  split
  · exact Moves.refl s
  · rename_i hscanning
    dsimp only
    generalize hstart : ({ s with
      discovered := discovered, scanning := false,
      store := s.store.refreshFromDiscovery discovered } : Manager) = t
    have ht : Moves P id s t := Moves.of_view (by rw [← hstart]; rfl)
    have hrelearn : ∀ (u : Manager) (server : DiscoveredServer),
        Moves P id u (u.relearn server) := by
      intro u server
      unfold relearn
      split
      · exact Moves.of_view (view_updateServer ..)
      · exact Moves.refl u
    have hstore : (discovered.foldl relearn t).store = s.store.refreshFromDiscovery discovered := by
      have hsame : ∀ (servers : List DiscoveredServer) (u : Manager),
          (servers.foldl relearn u).store = u.store := by
        intro servers u
        refine List.foldlRecOn (motive := fun u' : Manager => u'.store = u.store) servers _ rfl ?_
        intro u' hu server _
        unfold relearn
        split <;> exact hu
      rw [hsame, ← hstart]
    refine (ht.trans (moves.foldl hrelearn discovered t)).trans (moves_autoReconnectAll _ ?_)
    intro r hrow hintent hfree
    rw [hstore] at hrow
    refine hP r ⟨by simpa using hscanning, hrow⟩ hintent ?_
    rw [(sameBooks.foldl sameBooks.relearn discovered t).held, ← hstart] at hfree
    exact hfree

end

/-- The server a timer dials when it fires, if it still does. -/
def retryTarget (s : Manager) (retry : Retry) : Option DiscoveredServer :=
  if s.retryGeneration retry.id = retry.generation ∧
      (s.stateOf retry.id = some .idle ∨ s.stateOf retry.id = some .stale) then
    some ((s.store.satellites.get retry.id).getD retry.server)
  else none

theorem moves_onRetryDue (s : Manager) (retry : Retry)
    (hP : ∀ r, (s.retryTarget retry).map (·.id) = some id → r.intent = .retryAfterDeath →
      id ∉ s.heldByUser → P r) :
    Moves P id s (s.onRetryDue retry) := by
  unfold onRetryDue
  split
  · exact Moves.refl s
  · rename_i hcurrent
    split
    · rename_i hsettled
      refine Moves.trans (t := s.startDiscovery) (Moves.of_view rfl) (moves_connectTo _ _ _ ?_)
      intro r hid hintent hfree
      refine hP r ?_ hintent (hfree (by decide))
      unfold retryTarget
      rw [if_pos ⟨not_not.mp hcurrent, hsettled⟩, hid]
      rfl
    · exact Moves.refl s

/-! ### A reply taken off the wire -/

/-- Nothing but the request `x` is gone from the view. -/
structure Popped (x : Nat × HttpRequest) (id : SatelliteId) (s t : Manager) : Prop where
  out : (s.view id).out.Perm (x :: (t.view id).out)
  rest : t.view id = { s.view id with out := (t.view id).out }

/-- The reply to `x` is handled and then moves are made that send nothing more. -/
def Answers (P : HttpRequest → Prop) (G : Prop) (id : SatelliteId) (x : Nat × HttpRequest)
    (s s' : Manager) : Prop :=
  ∃ mid, Answered P G id x (s.view id) mid ∧ Reach (fun _ => False) id mid (s'.view id)

variable {x : Nat × HttpRequest}

theorem Answers.then (h : Answers P G id x s t) (h' : Moves (fun _ => False) id t s') :
    Answers P G id x s s' := by
  obtain ⟨mid, hmid, hreach⟩ := h
  exact ⟨mid, hmid, hreach.trans h'⟩

variable {k : Nat}

theorem popped_eraseIdx {x : InFlight} (hx : s.net[k]? = some x)
    (hdriven : x.request.driven = some (id, ref)) :
    Popped (x.serial, x.request) id s { s with net := s.net.eraseIdx k } := by
  refine ⟨?_, rfl⟩
  have hperm : s.net.Perm (x :: s.net.eraseIdx k) := perm_eraseIdx hx
  have hmapped := (hperm.map fun y => (y.serial, y.request)).filter fun y =>
    y.2.driven.any fun o => o.1 = id
  rw [List.map_cons, List.filter_cons_of_pos (by simp [hdriven])] at hmapped
  exact hmapped

theorem view_eraseIdx {x : InFlight} (hx : s.net[k]? = some x)
    (hdriven : ∀ ref, x.request.driven ≠ some (id, ref)) :
    (s.popped k).view id = s.view id := by
  have hno : (x.request.driven.any fun o => o.1 = id) = false := by
    cases hd : x.request.driven with
    | none => rfl
    | some o =>
      have hne : o.1 ≠ id := fun ho => hdriven o.2 (by rw [hd, ← ho])
      simpa using hne
  have hsplit : s.net = s.net.take k ++ x :: s.net.drop (k + 1) := by
    obtain ⟨hk, hget⟩ := List.getElem?_eq_some_iff.mp hx
    rw [← hget, List.cons_getElem_drop_succ, List.take_append_drop]
  have herase : s.net.eraseIdx k = s.net.take k ++ s.net.drop (k + 1) :=
    List.eraseIdx_eq_take_drop_succ ..
  unfold view popped
  rw [herase]
  conv_rhs => rw [hsplit]
  simp [hno, conn?]

namespace Popped

variable {x : Nat × HttpRequest}

theorem congr (h : Popped x id s t) (hview : s'.view id = t.view id) : Popped x id s s' :=
  ⟨by rw [hview]; exact h.out, by rw [hview]; exact h.rest⟩

theorem obj (h : Popped x id s t) : (s.view id).obj = (t.view id).obj := by
  rw [h.rest]

theorem stray (h : Popped x id s t)
    (hgone : ∀ p, t.conn? id = some p → x.2.driven ≠ some (id, p.ref)) :
    Answers P G id x s t := by
  refine ⟨t.view id, ?_, .refl⟩
  rw [h.rest]
  refine .stray h.out fun ref st hobj => ?_
  rw [h.obj] at hobj
  cases hp : t.conn? id with
  | none => rw [view_obj_none hp] at hobj; exact absurd hobj (by simp)
  | some p =>
    rw [view_obj hp, Option.some.injEq, Prod.mk.injEq] at hobj
    exact hobj.1 ▸ hgone p hp

variable {p : Pooled}

section
variable (h : Popped x id s t) (hp : t.conn? id = some p)
include h hp

section
variable (hx : x.2.driven = some (id, p.ref))
include hx

theorem settled (hst : x.2.isPut → p.conn.state = .linking)
    {f : WifiConnection → WifiConnection} (hf : ∀ c, IsDown (f c).state)
    (hview : s'.view id = (t.onConn id f).view id) : Answers P G id x s s' := by
  refine ⟨_, .settled h.out (by rw [h.obj, view_obj hp]) hx hst (hf p.conn), ?_⟩
  rw [hview, view_onConn_self f hp, h.rest]
  exact .refl

theorem granted (hpost : ¬x.2.isPut) (hP : ∀ r, r.intent = intent → P r) :
    Answers P G id x s (t.openSession id server intent) := by
  unfold openSession
  rw [hp]
  cases hcreds : t.credentialsFor id with
  | none =>
    refine h.settled hp hx (fun hput => absurd hput hpost) isDown_markStale ?_
    exact view_emitErrorIfUserInitiated ..
  | some pairingKey =>
    refine ⟨_, .granted h.out (by rw [h.obj, view_obj hp]) hx hpost
      (r := .session id p.ref server intent pairingKey p.conn.sessionBody) rfl rfl
      (hP _ rfl), ?_⟩
    rw [view_send_driving rfl, h.rest]
    exact .refl

theorem started (hput : x.2.isPut) (hst : p.conn.state = .linking)
    (hG : G) (hview : s'.view id = (t.view id).withState p.ref .live) :
    Answers P G id x s s' := by
  refine ⟨_, .started h.out (by rw [h.obj, view_obj hp, hst]) hx hput hG, ?_⟩
  rw [hview, h.rest]
  exact .refl

theorem late (hput : x.2.isPut) (hst : p.conn.state ≠ .linking) :
    Answers P G id x s t := by
  refine ⟨t.view id, ?_, .refl⟩
  rw [h.rest]
  exact .late h.out (by rw [h.obj, view_obj hp]) hx hput hst

end

end

end Popped

variable {sentOn : Nat} {a : ManagerAction}

/-! ### Pair replies -/

theorem replyTarget_eq_some :
    s.replyTarget id sentOn = some p ↔ s.conn? id = some p ∧ p.ref = sentOn := by
  unfold replyTarget
  simp

theorem replyTarget_eq_none :
    s.replyTarget id sentOn = none ↔ ∀ p, s.conn? id = some p → p.ref ≠ sentOn := by
  unfold replyTarget
  cases s.conn? id with
  | none => simp
  | some p => simp

theorem Popped.untargeted (h : Popped x id s t)
    (hdriven : x.2.driven = some (id, sentOn)) (htarget : t.replyTarget id sentOn = none) :
    Answers P G id x s t := by
  refine h.stray fun p hp => ?_
  rw [hdriven]
  simpa using (replyTarget_eq_none.mp htarget p hp).symm

theorem view_endPairingRequest (s : Manager) (other : SatelliteId) (sentOn : Nat) :
    (s.endPairingRequest other sentOn).view id = s.view id := by
  unfold endPairingRequest
  split <;> rfl

variable {x : Nat × HttpRequest}

variable {outcome : PairingOutcome}

theorem answers_pairReplied (h : Popped x id s t) (hdriven : x.2.driven = some (id, sentOn))
    (hpost : ¬x.2.isPut) (hP : ∀ r, r.intent = intent → P r)
    (replied : PairReplied t id sentOn server intent outcome t') : Answers P G id x s t' := by
  have hview : (t.endPairingRequest id sentOn).view id = t.view id := view_endPairingRequest ..
  cases replied with
  | stray gone =>
    exact (h.congr hview).untargeted hdriven ((t.replyTarget_endPairingRequest ..).trans gone)
  | granted key _ there =>
    rw [← replyTarget_endPairingRequest] at there
    obtain ⟨hp, rfl⟩ := replyTarget_eq_some.mp there
    have hkeyed : Popped x id s ((t.endPairingRequest id _).adoptKey id key) := h.congr hview
    exact hkeyed.granted hp hdriven hpost hP
  | refused f _ _ there down =>
    rw [← replyTarget_endPairingRequest] at there
    obtain ⟨hp, rfl⟩ := replyTarget_eq_some.mp there
    refine (h.congr hview).settled hp hdriven (fun hput => absurd hput hpost) ?_ rfl
    rcases down with rfl | rfl
    · exact isDown_markDisconnected
    · exact isDown_markStale

/-! ### Session replies -/

theorem refused_isDown (hp : t.conn? id = some p) (server : DiscoveredServer)
    (intent : ConnectIntent) (verdict : RestVerdict) (resp : SessionResponse) :
    ∃ f : WifiConnection → WifiConnection, (∀ c, IsDown (f c).state) ∧
      (t.onSessionRefused id server intent verdict resp).view id = (t.onConn id f).view id := by
  unfold onSessionRefused
  cases verdict with
  | unauthorized => exact ⟨_, isDown_markStale, view_emitErrorIfUserInitiated ..⟩
  | versionMismatch =>
    unfold onSessionVersionRefused
    dsimp only
    split
    · refine ⟨fun c => (c.setOfferedProtocolVersion (settleRejected resp.supportedProtocol
        resp.supportedProtocolMin).2).markStale, fun _ => isDown_markStale _, ?_⟩
      rw [view_scheduleRetry, view_onConn_self _ (conn?_onConn_self _ hp),
        view_setOfferedProtocolVersion, view_onConn_self _ hp]
    · exact ⟨_, isDown_markDisconnected, view_emitErrorIfUserInitiated ..⟩
  | identityChanged => exact ⟨_, isDown_markDisconnected, view_emitErrorIfUserInitiated ..⟩
  | ok | shuttingDown | unreachable | serverError =>
    rw [view_scheduleRetry]
    unfold park
    split
    · exact ⟨_, isDown_markDisconnected, rfl⟩
    · exact ⟨_, isDown_markStale, rfl⟩

theorem view_foldl_emit (messages : List String) (s : Manager) :
    (messages.foldl (fun s message => s.emit (.error message)) s).view id = s.view id :=
  List.foldlRecOn (motive := fun t => view t id = s.view id) messages _ rfl fun _ h _ _ => h

theorem state_startSession {c : WifiConnection} (h : c.state = .linking) (client : SessionClient)
    (connectionId : String) (resp : SessionResponse) :
    (c.startSession client connectionId resp).state = .live := by
  have hconnected : ∀ mouse, (c.markConnected client connectionId resp.epoch mouse).state =
      .live := by
    intro mouse
    unfold markConnected
    rw [if_neg (by simp [h])]
  exact hconnected resp.mouseGranted

/-- A started session makes its own connection live and probes the host. -/
theorem view_startSession (hp : t.conn? id = some p) (hst : p.conn.state = .linking)
    (server : DiscoveredServer) (connectionId : String) (resp : SessionResponse)
    (material : Material) :
    ∃ u : Manager, u.view id = (t.view id).withState p.ref .live ∧
      t.startSession id server connectionId resp material = u.probeHostAudio id server := by
  refine ⟨_, ?_, rfl⟩
  rw [view_foldl_emit]
  unfold view withState conn?
  rw [Pool.lookup_modify]
  have hp' : t.connections.lookup id = some p := hp
  rw [hp']
  simp [state_startSession hst]

theorem answers_onSessionReply
    {pairingKey : String} {body : SessionBody} {sentSlots : List DesiredSlot}
    {resp : SessionResponse} {derived : BitVec 256} {socketOpened pinMismatch : Bool}
    (h : Popped x id s t) (hx : x.2 = .session id sentOn server intent pairingKey body)
    (hG : classifyRest resp pinMismatch = .ok → G) :
    Answers P G id x s (t.onSessionReply id sentOn server intent sentSlots resp derived socketOpened
      pinMismatch) := by
  have hdriven : x.2.driven = some (id, sentOn) := by rw [hx]; rfl
  have hput : x.2.isPut := by rw [hx]; rfl
  unfold onSessionReply
  cases htarget : t.replyTarget id sentOn with
  | none => exact h.untargeted hdriven htarget
  | some p =>
    obtain ⟨hp, rfl⟩ := replyTarget_eq_some.mp htarget
    dsimp only
    by_cases hst : p.conn.state = .linking
    · rw [if_neg (by simp [hst])]
      have hrefused : ∀ verdict,
          Answers P G id x s (t.onSessionRefused id server intent verdict resp) := by
        intro verdict
        obtain ⟨f, hf, hview⟩ := refused_isDown hp server intent verdict resp
        exact h.settled hp hdriven (fun _ => hst) hf hview
      have hunusable : ∀ connectionId,
          Answers P G id x s (t.onGrantUnusable id server intent connectionId) := by
        intro connectionId
        have hdown : Answers P G id x s (t.onConn id markDisconnected) :=
          h.settled hp hdriven (fun _ => hst) isDown_markDisconnected rfl
        exact hdown.then ((moves.releaseSession _ connectionId False.elim).then_view (view_emitErrorIfUserInitiated ..))
      cases resp.connectionId with
      | none => exact hrefused _
      | some connectionId =>
        dsimp only
        split
        · exact hrefused _
        · rename_i hcomplete
          rw [not_or, not_not] at hcomplete
          cases sessionMaterialFrom resp derived with
          | none => exact hunusable _
          | some material =>
            dsimp only
            split
            · exact hunusable _
            · obtain ⟨u, hview, heq⟩ :=
                view_startSession hp hst server connectionId resp material
              have hstarted : Answers P G id x s u := h.started hp hdriven hput hst
                (hG hcomplete.1) hview
              rw [heq]
              exact hstarted.then ((moves.send rfl rfl False.elim).trans
                (moves.convergeLateSlots ..))
    · rw [if_pos hst]
      exact (h.late hp hdriven hput hst).then (moves.handBackLateGrant t resp False.elim)

/-! ### Approval requests -/

section
variable (s : Manager)

theorem moves_adoptReverseGrant (server : DiscoveredServer) (sharedKeyHex : String)
    (hP : ∀ r, id = server.id → r.intent = .userInitiated → P r) :
    Moves P id s (s.adoptReverseGrant server sharedKeyHex) := by
  unfold adoptReverseGrant
  exact (moves_ensureConnection s server).trans
    (moves_connecting_openSession hP (fun _ => rfl) (fun _ => rfl))

theorem moves_applyReverseOutcome (server : DiscoveredServer)
    (response : PairResponse) (pinMismatch : Bool)
    (hP : ∀ r, id = server.id → r.intent = .userInitiated → P r) :
    Moves P id s (s.applyReverseOutcome server response pinMismatch) := by
  unfold applyReverseOutcome
  split
  · exact moves_adoptReverseGrant s server _ hP
  all_goals exact Moves.of_view rfl

/-- A reply to the approval POST sends something only for the request that is awaited. -/
theorem moves_onReversePairReply (other : SatelliteId) (sentOn : Nat)
    (server : DiscoveredServer) (pin : String) (response : PairResponse) (pinMismatch : Bool)
    (hP : ∀ r, s.reverse.phase = .awaitingApproval → s.reverse.server.id = id →
      r.intent = .userInitiated → P r) :
    Moves P id s (s.onReversePairReply other sentOn server pin response pinMismatch) := by
  unfold onReversePairReply
  refine Moves.trans (Moves.of_view (view_endPairingRequest s other sentOn)) ?_
  rw [← (sameBooks.endPairingRequest s sentOn other).reverse] at hP
  generalize s.endPairingRequest other sentOn = t at hP ⊢
  dsimp only
  split
  · rename_i hcurrent
    simp only [reverseAttemptIsCurrent, Bool.and_eq_true, decide_eq_true_eq] at hcurrent
    refine moves_applyReverseOutcome t server response pinMismatch fun r hid hintent => ?_
    exact hP r hcurrent.1.1 (hcurrent.1.2.trans hid.symm) hintent
  · exact Moves.refl t

theorem moves_onReverseStatusReply (status : PairResponse) (pinMismatch : Bool)
    (server : DiscoveredServer)
    (hP : ∀ r, s.reverse.phase = .awaitingApproval → s.reverse.server.id = id →
      r.intent = .userInitiated → P r) :
    Moves P id s (s.onReverseStatusReply status pinMismatch server) := by
  unfold onReverseStatusReply
  dsimp only
  split
  · exact Moves.of_view rfl
  · rename_i hcurrent
    rw [not_or, not_not, not_not] at hcurrent
    split
    · exact Moves.of_view rfl
    · unfold applyReverseAction
      split
      · refine Moves.trans (Moves.of_view ?_) (moves_adoptReverseGrant _ server _ ?_)
        · rfl
        · intro r hid hintent
          exact hP r hcurrent.1 (hcurrent.2.trans hid.symm) hintent
      all_goals exact Moves.of_view rfl

theorem moves_requestReversePairing (server : DiscoveredServer) (drawn : Nat) :
    Moves P id s (s.requestReversePairing server drawn) := by
  unfold requestReversePairing
  have hcancelled : Moves P id s s.cancelReversePairing := Moves.of_view rfl
  refine hcancelled.trans ?_
  generalize s.cancelReversePairing = t
  dsimp only
  split
  · exact Moves.of_view (view_emitErrorIfUserInitiated ..)
  · have harmed : Moves P id t ((((t.ensureConnection server).clearForUserAction server.id).onConn
        server.id (·.updateServer server)).armReverseAttempt server drawn) :=
      (moves_ensureConnection t server).then_view (view_updateServer _ server.id server)
    refine harmed.trans ?_
    split
    · exact Moves.refl _
    · exact (Moves.of_view rfl).trans (moves_send_undriven _ rfl)

theorem moves_pollReverseStatus : Moves P id s s.pollReverseStatus := by
  unfold pollReverseStatus
  split
  · exact Moves.refl s
  · exact (Moves.of_view rfl).trans (moves_send_undriven _ rfl)

/-! ### Replies looked up by id -/

/-- The session GET opens a session only from a live one. -/
theorem moves_onView (other : SatelliteId) (server : DiscoveredServer) (view : SessionViewDto)
    (hP : ∀ r, id = other → s.stateOf id = some .live → r.intent = .retryAfterDeath → P r) :
    Moves P id s (s.onView other server view) := by
  unfold onView
  have hflag : Moves P id s { s with reconcileInFlight := s.reconcileInFlight.erase other } :=
    Moves.of_view rfl
  refine hflag.trans ?_
  have hstate : s.stateOf id =
      ({ s with reconcileInFlight := s.reconcileInFlight.erase other } : Manager).stateOf id := rfl
  rw [hstate] at hP
  generalize ({ s with reconcileInFlight := s.reconcileInFlight.erase other } : Manager) = t at hP ⊢
  dsimp only
  cases hp : t.conn? other with
  | none => exact Moves.refl t
  | some p =>
    dsimp only
    split
    · exact Moves.refl t
    · rename_i hlive
      rw [not_not] at hlive
      split
      · exact moves.onTerminalAuthFailure ..
      · split
        · exact Moves.refl t
        · split
          · exact Moves.of_view (view_onConn other (f := (·.adoptEpoch view.epoch)) fun _ => rfl)
          · refine (moves.disconnected t other).trans (moves_connecting_openSession ?_ ?_ ?_)
            · intro r hid hintent
              refine hP r hid ?_ hintent
              rw [hid]
              simp [stateOf, hp, hlive]
            · intro i
              rw [onConn_onConn]
            · intro i
              rw [onConn_onConn]

end

/-! ### Forgetting and the handshake -/

theorem moves_dropped (hconn : s'.connections = s.connections.erase other)
    (hnet : s'.net = s.net) (hsent : s'.sent = s.sent) : Moves P id s s' := by
  by_cases hid : id = other
  · subst hid
    apply Moves.single
    have hview : s'.view id = { s.view id with obj := none } := by
      unfold view conn?
      rw [hconn, AList.lookup_erase, hnet, hsent]
      rfl
    rw [hview]
    exact .dropped _
  · apply Moves.of_view
    refine view_congr ?_ hnet hsent
    unfold conn?
    rw [hconn, AList.lookup_erase_ne hid]

theorem moves_forget (s : Manager) (other : SatelliteId) : Moves P id s (s.forget other) := by
  unfold forget
  have hcancelled : Moves P id s
      (if s.reverse.server.id = other then s.cancelReversePairing else s) := by
    split
    · exact Moves.of_view rfl
    · exact Moves.refl s
  refine ((hcancelled.trans (moves.selfUnpair _ other)).trans (moves_disconnect _ other)).trans ?_
  exact moves_dropped rfl rfl rfl

theorem moves_handshake (s : Manager) (k : Nat) (presented : Option String) :
    Moves P id s (s.handshake k presented) := by
  unfold handshake
  split
  · rename_i serial request hx
    apply Moves.of_view
    have hmap : (s.net.set k ⟨serial, request, some (verifyPeerCertificate request.server.ip s.store
        presented (s.pinGuardsAPairingAt request.server.ip)).2⟩).map
          (fun x => (x.serial, x.request)) = s.net.map fun x => (x.serial, x.request) := by
      obtain ⟨hk, hget⟩ := List.getElem?_eq_some_iff.mp hx
      rw [List.map_set]
      refine (congrArg _ ?_).trans (List.set_getElem_self (by simpa using hk))
      rw [List.getElem_map, hget]
    unfold view
    rw [hmap]
    rfl
  · exact Moves.refl s

/-! ### The step -/

/-- The pair POSTs and session PUTs the callback of a request may send for `id`. -/
def ReplyMaySend (s : Manager) (id : SatelliteId) (r : HttpRequest) : HttpRequest → Prop
  | .pinPair other .. => id = other ∧ r.intent = .userInitiated
  | .connectPair other _ _ intent => id = other ∧ r.intent = intent
  | .reversePair .. | .pairStatus .. =>
    s.reverse.phase = .awaitingApproval ∧ s.reverse.server.id = id ∧ r.intent = .userInitiated
  | .reconcile other .. =>
    id = other ∧ s.stateOf id = some .live ∧ r.intent = .retryAfterDeath
  | _ => False

/-- A step that dials on its own account comes to `id`: a sweep, a scan and a resume come to
the remembered rows, a timer to its target. -/
def Reaches (s : Manager) (id : SatelliteId) : ManagerAction → Prop
  | .autoReconnectAll | .resumeFromSleep => ∃ row ∈ s.store.satellites.all, row.id = id
  | .scanFinished discovered =>
    s.scanning ∧ ∃ row ∈ (s.store.refreshFromDiscovery discovered).satellites.all, row.id = id
  | .retryDue k => ((s.retries[k]?).bind s.retryTarget).map (·.id) = some id
  | _ => False

/-- The pair POSTs and session PUTs a step may send for `id`: only a sweep, a scan, a
resume and a retry are silent on their own account, and none of them for a held satellite. -/
def MaySend (s : Manager) (a : ManagerAction) (id : SatelliteId) (r : HttpRequest) : Prop :=
  match a with
  | .connectTo server | .pairWithPin server _ => id = server.id ∧ r.intent = .userInitiated
  | .scanFinished _ | .autoReconnectAll | .resumeFromSleep =>
    s.Reaches id a ∧ id ∉ s.heldByUser ∧ r.intent = .autoReconnect
  | .retryDue _ => s.Reaches id a ∧ id ∉ s.heldByUser ∧ r.intent = .retryAfterDeath
  | .reply .. | .fail .. => ∃ x, s.answered a = some x ∧ s.ReplyMaySend id r x.request
  | _ => False

theorem moves_onAnswer {x : InFlight} (hx : s.net[k]? = some x)
    (hdriven : ∀ ref, x.request.driven ≠ some (id, ref)) (pinMismatch : Bool)
    (answer : HttpAnswer) :
    Moves (fun r => s.ReplyMaySend id r x.request) id s
      ((s.popped k).onAnswer pinMismatch x.request answer) := by
  refine Moves.trans (Moves.of_view (view_eraseIdx hx hdriven)) ?_
  have hstate : ∀ i, (s.popped k).stateOf i = s.stateOf i :=
    fun _ => rfl
  have hreverse : (s.popped k).reverse = s.reverse := rfl
  generalize (s.popped k) = t at hstate hreverse ⊢
  have hne : ∀ {other : SatelliteId} {ref : Nat}, x.request.driven = some (other, ref) →
      id ≠ other := fun h hid => hdriven _ (hid ▸ h)
  unfold onAnswer
  split
  · rename_i heq
    rw [heq] at hne
    exact moves.pairReplied t _ _ (hne rfl) False.elim (.pin ..)
  · rename_i heq
    rw [heq] at hne
    exact moves.pairReplied t _ _ (hne rfl) False.elim (.connect ..)
  · rename_i heq
    rw [heq]
    refine moves_onReversePairReply t _ _ _ _ _ _ fun r hphase hserver hintent => ?_
    rw [hreverse] at hphase hserver
    exact ⟨hphase, hserver, hintent⟩
  · rename_i heq
    rw [heq]
    refine moves_onReverseStatusReply t _ _ _ fun r hphase hserver hintent => ?_
    rw [hreverse] at hphase hserver
    exact ⟨hphase, hserver, hintent⟩
  · rename_i heq
    rw [heq] at hne
    exact moves.onSessionReply t _ _ _ (fun _ _ => Moves.of_view rfl) (hne rfl) False.elim _ _ _ _
      False.elim
  · exact moves.onRekeyReply ..
  · rename_i heq
    rw [heq]
    refine moves_onView t _ _ _ fun r hid hlive hintent => ?_
    exact ⟨hid, (hstate id).symm.trans hlive, hintent⟩
  · exact moves.onCapabilities ..
  · exact moves.onSyncReply t False.elim _
  · exact moves.onDeleteReply ..
  · exact Moves.refl t

theorem answers_onAnswer {x : InFlight} {answer : HttpAnswer}
    (hx : s.net[k]? = some x) (hdriven : x.request.driven = some (id, ref))
    (htakes : x.request.takes answer) (pinMismatch : Bool)
    (hG : ∀ r derived socketOpened, answer = .session r derived socketOpened →
      classifyRest r pinMismatch = .ok → G) :
    Answers (fun r => s.ReplyMaySend id r x.request) G id (x.serial, x.request) s
      ((s.popped k).onAnswer pinMismatch x.request answer) := by
  have hpopped := popped_eraseIdx hx hdriven
  obtain ⟨serial, request, tls⟩ := x
  cases request with
  | pinPair other sentOn server pin =>
    obtain ⟨rfl, rfl⟩ : other = id ∧ sentOn = ref := by simpa [driven] using hdriven
    cases answer with
    | pair => exact answers_pairReplied hpopped rfl (by simp [isPut]) (fun _ h => ⟨rfl, h⟩) (.pin ..)
    | _ => exact absurd htakes (by simp [takes])
  | connectPair other sentOn =>
    obtain ⟨rfl, rfl⟩ : other = id ∧ sentOn = ref := by simpa [driven] using hdriven
    cases answer with
    | pair => exact answers_pairReplied hpopped rfl (by simp [isPut]) (fun _ h => ⟨rfl, h⟩) (.connect ..)
    | _ => exact absurd htakes (by simp [takes])
  | session other sentOn =>
    obtain ⟨rfl, rfl⟩ : other = id ∧ sentOn = ref := by simpa [driven] using hdriven
    cases answer with
    | session r derived socketOpened =>
      exact answers_onSessionReply hpopped rfl (hG r derived socketOpened rfl)
    | _ => exact absurd htakes (by simp [takes])
  | _ => exact absurd hdriven (by simp [driven])

theorem moves_step (s : Manager) (a : ManagerAction) (ha : s.answered a = none) :
    Moves (s.MaySend a id) id s (s.step a) := by
  cases a with
  | connectTo server => exact moves_connectTo s server _ fun r hid hintent _ => ⟨hid, hintent⟩
  | pairWithPin server pin =>
    exact moves_pairWithPin s server pin fun r hid hintent => ⟨hid, hintent⟩
  | requestReversePairing => exact moves_requestReversePairing ..
  | cancelReversePairing | startDiscovery => exact Moves.of_view rfl
  | disconnect other => exact moves_disconnect s other
  | disconnectByUser other =>
    have hheld : Moves (s.MaySend (.disconnectByUser other) id) id s
        { s with heldByUser := insert other s.heldByUser } := Moves.of_view rfl
    exact hheld.trans (moves_disconnect _ other)
  | forget other => exact moves_forget s other
  | markStale other => exact moves.markStale s other
  | scanFinished discovered =>
    exact moves_scanFinished s discovered fun r hrow hintent hfree => ⟨hrow, hfree, hintent⟩
  | autoReconnectAll =>
    exact moves_autoReconnectAll s fun r hrow hintent hfree => ⟨hrow, hfree, hintent⟩
  | prepareForSleep => exact moves.foldl moves_disconnect _ s
  | resumeFromSleep =>
    have hcleared : Moves (s.MaySend .resumeFromSleep id) id s
        ({ s with retryAttempts := fun _ => 0 } : Manager).startDiscovery := Moves.of_view rfl
    exact hcleared.trans
      (moves_autoReconnectAll _ fun r hrow hintent hfree => ⟨hrow, hfree, hintent⟩)
  | retryDue k =>
    simp only [step]
    split
    · rename_i retry hget
      have hfired : Moves (s.MaySend (.retryDue k) id) id s
          { s with retries := s.retries.eraseIdx k } := Moves.of_view rfl
      refine hfired.trans (moves_onRetryDue _ _ fun r htarget hintent hfree =>
        ⟨?_, hfree, hintent⟩)
      show ((s.retries[k]?).bind s.retryTarget).map (·.id) = some id
      rw [hget]
      exact htarget
    · exact Moves.refl s
  | reverseTimer => exact moves_pollReverseStatus s
  | aliveTick other =>
    exact moves.aliveTick s (fun _ _ => .of_view rfl) (fun _ _ => .of_view rfl) other
  | attachSlot other slotId shape =>
    exact Moves.trans (Moves.of_view (view_onConn other fun c => c.state_attachSlot slotId shape))
      (moves.onSignal ..)
  | detachSlot other slotId =>
    exact Moves.trans (Moves.of_view (view_onConn other fun c => c.state_detachSlot slotId))
      (moves.onSignal ..)
  | ack other | miss other | count other | closeNotice other =>
    exact Moves.of_view (view_onConn other fun _ => rfl)
  | handshake => exact moves_handshake ..
  | reply k answer =>
    rw [step_unanswered ha (.inl ⟨k, answer, rfl⟩)]
    exact Moves.refl s
  | fail k failure =>
    rw [step_unanswered ha (.inr ⟨k, failure, rfl⟩)]
    exact Moves.refl s

section
variable {x : InFlight} (ha : s.answered a = some x)
include ha

theorem maySend_of_reply (h : s.ReplyMaySend id r x.request) : s.MaySend a id r := by
  cases a with
  | reply | fail => exact ⟨x, ha, h⟩
  | _ => exact absurd ha (by simp [answered])

theorem moves_step_answered (hdriven : ∀ ref, x.request.driven ≠ some (id, ref)) :
    Moves (s.MaySend a id) id s (s.step a) := by
  obtain ⟨k, pinMismatch, answer, hx, -, -, heq⟩ := step_of_answered ha
  rw [heq]
  exact (moves_onAnswer hx hdriven pinMismatch answer).mono fun _ => maySend_of_reply ha

theorem answers_step (hdriven : x.request.driven = some (id, ref)) :
    Answers (s.MaySend a id) a.grants id (x.serial, x.request) s (s.step a) := by
  obtain ⟨k, pinMismatch, answer, hx, htakes, hgrants, heq⟩ := step_of_answered ha
  obtain ⟨mid, hmid, hreach⟩ := answers_onAnswer hx hdriven htakes pinMismatch hgrants
  rw [heq]
  exact ⟨mid, hmid.mono (fun _ => maySend_of_reply ha) (fun h => h), hreach⟩

end

/-- **What a step does to the view of a satellite.**  It makes moves, and sends what it may,
or it handles one reply that drives an object of the satellite. -/
theorem step_view (s : Manager) (a : ManagerAction) (id : SatelliteId) :
    Moves (s.MaySend a id) id s (s.step a) ∨
      ∃ x ref, s.answered a = some x ∧ x.request.driven = some (id, ref) ∧
        Answers (s.MaySend a id) a.grants id (x.serial, x.request) s (s.step a) := by
  cases ha : s.answered a with
  | none => exact .inl (moves_step s a ha)
  | some x =>
    by_cases hdriven : ∃ ref, x.request.driven = some (id, ref)
    · obtain ⟨ref, hdriven⟩ := hdriven
      exact .inr ⟨x, ref, rfl, hdriven, answers_step ha hdriven⟩
    · exact .inl (moves_step_answered ha fun ref h => hdriven ⟨ref, h⟩)

end Manager

end Dish
