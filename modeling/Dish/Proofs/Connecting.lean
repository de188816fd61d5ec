/-
What the moves of a view say about the state of a connection: it is never left waiting
for an answer that nobody owes it, a satellite held down stays down, and a failed pair
reply finds no session to end.

Each is an invariant of the view, carried through moves and answers, and then of every
run of the manager by `step_view`.
-/
import Dish.Lib.Run
import Dish.Proofs.Attempts

namespace Dish

open AttemptView Steps HttpRequest

variable {ref : Nat} {r : HttpRequest}

/-- The manager after a run from its construction over a store. -/
def Manager.after (store : ConnectionStore) (acts : List ManagerAction) : Manager :=
  run Manager.step (Manager.ofStore store) acts

/-! ### Data of the concrete runs -/

/-- A satellite on the local network. -/
def box : DiscoveredServer := { name := "Box", ip := "192.168.1.20", machineId := "a1" }

def pairingKeyHex : String := "00112233445566778899aabbccddeeff00112233445566778899aabbccddeeff"

/-- A store that has a key for the satellite. -/
def pairedStore : ConnectionStore := ConnectionStore.empty.setSharedKey box.id pairingKeyHex

/-- A store that has its row, too. -/
def rememberedStore : ConnectionStore := pairedStore.remember box

/-- The satellite answers a session PUT with a session. -/
def sessionGrant : HttpAnswer :=
  .session
    { connectionId := some "c1"
      token := some "00000001"
      sessionSalt := some "0001020304050607"
      httpStatus := 200
      reachable := true }
    2 true

/-- The satellite answers a pair POST with a key. -/
def pairGrant : HttpAnswer :=
  .pair { ok := true, sharedKey := some pairingKeyHex, httpStatus := 200, reachable := true }

/-- The satellite answers a pair POST without one. -/
def pairRefusal : HttpAnswer := .pair { httpStatus := 403, reachable := true }

/-- The approval POST is answered: the operator has not decided. -/
def approvalPending : HttpAnswer :=
  .pair { pending := true, status := some "pending", httpStatus := 200, reachable := true }

/-- A status poll is answered: the operator approved. -/
def approvalGiven : HttpAnswer :=
  .pair { status := some "approved", sharedKey := some pairingKeyHex, httpStatus := 200,
          reachable := true }

/-- The `k`th request is answered after its handshake. -/
def answering (k : Nat) (answer : HttpAnswer) : List ManagerAction :=
  [.handshake k (some "f1"), .reply k answer]

/-! ### Never stuck connecting -/

/-- A connection that waits has a request out that will end the wait. -/
def AttemptView.Served (id : SatelliteId) (v : AttemptView) : Prop :=
  ∀ ref, v.obj = some (ref, .linking) → ∃ x ∈ v.out, x.2.driven = some (id, ref)

namespace AttemptView

variable {P : HttpRequest → Prop} {G : Prop} {id : SatelliteId} {v v' : AttemptView}
    {x : Nat × HttpRequest}

variable {st : SessionState}

theorem served_of_obj (h : v.obj = some (ref, st))
    (hst : st ≠ .linking) : v.Served id := by
  intro ref' hlinking
  rw [h, Option.some.injEq, Prod.mk.injEq] at hlinking
  exact absurd hlinking.2 hst

theorem IsDown.ne_linking (h : IsDown st) : st ≠ .linking := by
  rcases h with rfl | rfl <;> decide

theorem InSession.ne_linking (h : InSession st) : st ≠ .linking := by
  rcases h with rfl | rfl <;> decide

theorem served_asking
    (h : v.obj = some (ref, st)) (hr : r.driven = some (id, ref)) : (v.asking r).Served id := by
  intro ref' hlinking
  have hobj : v.obj = some (ref', .linking) := hlinking
  rw [h, Option.some.injEq, Prod.mk.injEq] at hobj
  exact ⟨_, List.mem_append_right _ List.mem_cons_self, hobj.1 ▸ hr⟩

theorem served_move (h : Move P id v v') (hv : v.Served id) : v'.Served id := by
  cases h with
  | made => exact served_of_obj rfl (by decide)
  | dropped => intro ref h; exact absurd h (by simp)
  | down h hdown => exact served_of_obj rfl hdown.ne_linking
  | steady h hst hst' => exact served_of_obj rfl hst'.ne_linking
  | dialled h hst hr => exact served_asking rfl hr
  | asked h hput hr => exact served_asking h hr
  | other => exact hv

theorem served_answered (h : Answered P G id x v v') (hv : v.Served id) : v'.Served id := by
  cases h with
  | stray hout h =>
    -- what the connection waits for was sent on it, and this was not
    intro ref hlinking
    obtain ⟨y, hy, hdriven⟩ := hv ref hlinking
    rcases List.mem_cons.mp (hout.mem_iff.mp hy) with rfl | hy
    · exact absurd hdriven (h ref _ hlinking)
    · exact ⟨y, hy, hdriven⟩
  | settled hout h hx hst hdown => exact served_of_obj rfl hdown.ne_linking
  | granted hout h hx hpost hput hr => exact served_asking h hr
  | started => exact served_of_obj rfl (by decide)
  | late hout h hx hput hst => exact served_of_obj h hst

end AttemptView

namespace Manager

theorem served_step (s : Manager) (a : ManagerAction) (h : ∀ id, (s.view id).Served id) :
    ∀ id, ((s.step a).view id).Served id := by
  intro id
  rcases step_view s a id with hmoves | ⟨x, ref, -, -, mid, hmid, hmoves⟩
  · exact Reach.keeps (fun _ _ => served_move) hmoves (h id)
  · exact Reach.keeps (fun _ _ => served_move) hmoves (served_answered hmid (h id))

/--
**A connection is never stuck connecting.**

In every state the manager reaches, a pooled connection that is Linking has a forward
pair POST or a session PUT out that was sent on that same object.
-/
theorem linking_is_awaited (store : ConnectionStore) (acts : List ManagerAction)
    (id : SatelliteId) (p : Pooled) (hp : (after store acts).conn? id = some p)
    (hlinking : p.conn.state = .linking) :
    ∃ x ∈ (after store acts).net, x.request.driven = some (id, p.ref) := by
  have hserved : ∀ i, ((after store acts).view i).Served i :=
    run_inv (I := fun s : Manager => ∀ i, (s.view i).Served i) served_step
      (fun i ref h => absurd h (by simp [view, ofStore, conn?])) acts
  obtain ⟨y, hy, hdriven⟩ := hserved id p.ref (by rw [view_obj hp, hlinking])
  obtain ⟨x, hx, rfl⟩ := List.mem_map.mp (List.mem_filter.mp hy).1
  exact ⟨x, hx, hdriven⟩

/-- A connect, then a PIN typed while the first POST is out: two requests are owed. -/
theorem two_pair_requests_awaited :
    ∃ p, (after .empty [.connectTo box, .pairWithPin box "1234"]).conn? box.id = some p ∧
      p.conn.state = .linking ∧
      ∃ x ∈ (after .empty [.connectTo box, .pairWithPin box "1234"]).net,
        x.request.driven = some (box.id, p.ref) := by
  have hlinking : (after .empty [.connectTo box, .pairWithPin box "1234"]).stateOf box.id =
      some .linking := by decide +kernel
  obtain ⟨p, hp, hst⟩ := Option.map_eq_some_iff.mp hlinking
  exact ⟨p, hp, hst, linking_is_awaited _ _ _ p hp hst⟩

end Manager

/-! ### A satellite held down stays down -/

/-- The user connects to `id`, pairs with it or forgets it. -/
def ManagerAction.userActsOn (id : SatelliteId) : ManagerAction → Bool
  | .connectTo server | .pairWithPin server _ | .requestReversePairing server _ => server.id = id
  | .forget other => other = id
  | _ => false

/-- An approval request for `id` waits for the operator. -/
def Manager.AwaitsApproval (s : Manager) (id : SatelliteId) : Prop :=
  s.reverse.phase = .awaitingApproval ∧ s.reverse.server.id = id

instance (s : Manager) (id : SatelliteId) : Decidable (s.AwaitsApproval id) :=
  inferInstanceAs (Decidable (_ ∧ _))

/-- The connection of this view, if any, is down. -/
def AttemptView.Down (v : AttemptView) : Prop := ∀ ref st, v.obj = some (ref, st) → IsDown st

namespace AttemptView

variable {P : HttpRequest → Prop} {G : Prop} {id : SatelliteId} {v v' : AttemptView}
  {x : Nat × HttpRequest}

theorem down_of_obj {st : SessionState} (h : v.obj = some (ref, st))
    (hst : IsDown st) : v.Down := by
  intro ref' st' hobj
  rw [h, Option.some.injEq, Prod.mk.injEq] at hobj
  exact hobj.2 ▸ hst

theorem down_move (h : Move (fun _ => False) id v v') (hv : v.Down) : v'.Down := by
  cases h with
  | made => exact down_of_obj rfl (.inl rfl)
  | dropped => intro ref st h; exact absurd h (by simp)
  | down h hdown => exact down_of_obj rfl hdown
  | steady h hst =>
    have hdown := hv _ _ h
    rcases hst with rfl | rfl <;> exact absurd hdown (by simp [IsDown])
  | dialled h hst hr hP => exact hP.elim
  | asked h hput hr hP => exact hP.elim
  | other => exact hv

theorem down_answered (h : Answered P G id x v v') (hv : v.Down) : v'.Down := by
  cases h with
  | stray | granted | late => exact hv
  | settled hout h hx hst hdown => exact down_of_obj rfl hdown
  | started hout h => exact absurd rfl (hv _ _ h).ne_linking

end AttemptView

namespace Manager

variable {s : Manager} {a : ManagerAction} {id : SatelliteId}

/-- A hold on the satellite stays, and an approval that is awaited for it was awaited before. -/
structure KeepsDown (id : SatelliteId) (s s' : Manager) : Prop where
  held : id ∈ s.heldByUser → id ∈ s'.heldByUser
  awaited : s'.AwaitsApproval id → s.AwaitsApproval id

theorem awaits_of_reverse {s' : Manager} (h : s'.reverse = s.reverse) :
    s'.AwaitsApproval id → s.AwaitsApproval id := by
  unfold AwaitsApproval
  rw [h]
  exact fun hawaits => hawaits

theorem not_awaits_cancelled {s' : Manager} (h : s'.reverse = s.cancelReversePairing.reverse) :
    ¬ s'.AwaitsApproval id := by
  intro hawaits
  have hphase := hawaits.1
  rw [h, cancelReversePairing_phase] at hphase
  exact absurd hphase (by decide)

/-- Unless the user acts on the satellite, a hold on it stays and no approval is newly awaited. -/
theorem keepsDown_step (ha : a.userActsOn id = false) : KeepsDown id s (s.step a) := by
  have herased : ∀ {other : SatelliteId}, other ≠ id → id ∈ s.heldByUser →
      id ∈ s.heldByUser.erase other :=
    fun hne hheld => Finset.mem_erase.mpr ⟨fun h => hne h.symm, hheld⟩
  have hkept : ∀ {s' : Manager}, s'.heldByUser = s.heldByUser → s'.reverse = s.reverse →
      KeepsDown id s s' :=
    fun hheld hreverse => ⟨fun h => hheld ▸ h, awaits_of_reverse hreverse⟩
  have hcleared : ∀ {server : DiscoveredServer} {P : Prop} [Decidable P] {s' : Manager},
      server.id ≠ id → SameBooks (if P then s.clearForUserAction server.id else s) s' →
      KeepsDown id s s' := by
    intro server P _ s' hne hbooks
    split at hbooks
    · exact ⟨fun h => hbooks.held ▸ herased hne h, awaits_of_reverse hbooks.reverse⟩
    · exact hkept hbooks.held hbooks.reverse
  have happroval : (∃ x, s.answered a = some x ∧ x.request.isApproval = true) →
      KeepsDown id s (s.step a) := by
    rintro ⟨x, hx, happroval⟩
    obtain ⟨k, -, hbooks, hadvances⟩ := s.approval_answered hx happroval
    refine ⟨fun hheld => hbooks.held ▸ hheld, fun hawaits => ?_⟩
    obtain ⟨hphase, hserver, -⟩ := hadvances.awaiting hawaits.1
    exact ⟨hphase, hserver ▸ hawaits.2⟩
  by_cases hwrites : s.writesHolds a = false
  · exact hkept (s.holds_step hwrites).held (s.holds_step hwrites).reverse
  · cases a with
    | connectTo server =>
      exact hcleared (by simpa [ManagerAction.userActsOn] using ha)
        (sameBooks.connectTo s .userInitiated server trivial)
    | pairWithPin server pin =>
      exact hcleared (by simpa [ManagerAction.userActsOn] using ha) (s.books_pairWithPin server pin)
    | requestReversePairing server drawn =>
      have hne : server.id ≠ id := by simpa [ManagerAction.userActsOn] using ha
      cases hrefuse : addressRefusal server with
      | none =>
        have hasked := s.requested_requestReversePairing hrefuse drawn
        refine ⟨fun hheld => hasked.held ▸ herased hne hheld, fun hawaits => ?_⟩
        have hserver := hawaits.2
        unfold step at hserver
        rw [hasked.reverse] at hserver
        exact absurd hserver hne
      | some message =>
        have hbooks := s.refused_requestReversePairing hrefuse drawn
        exact ⟨fun hheld => hbooks.held ▸ hheld,
          fun hawaits => absurd hawaits (not_awaits_cancelled hbooks.reverse)⟩
    | cancelReversePairing =>
      exact ⟨fun hheld => hheld, fun hawaits => absurd hawaits (not_awaits_cancelled rfl)⟩
    | disconnectByUser other =>
      have hsame := holds_disconnect { s with heldByUser := insert other s.heldByUser } other
      exact ⟨fun hheld => hsame.held ▸ Finset.mem_insert_of_mem hheld,
        awaits_of_reverse hsame.reverse⟩
    | forget other =>
      have hne : other ≠ id := by simpa [ManagerAction.userActsOn] using ha
      have hbooks := s.books_forget other
      refine ⟨fun hheld => hbooks.held ▸ herased hne hheld, fun hawaits => ?_⟩
      by_cases haimed : s.reverse.server.id = other
      · exact absurd hawaits (not_awaits_cancelled (hbooks.reverse.trans (if_pos haimed)))
      · exact awaits_of_reverse (hbooks.reverse.trans (if_neg haimed)) hawaits
    | reverseTimer =>
      rcases s.pollReverseStatus_books with hbooks | ⟨hphase, -, hsame, hreverse, -⟩
      · exact hkept hbooks.held hbooks.reverse
      · refine ⟨fun hheld => hsame ▸ hheld, fun hawaits => ⟨hphase, ?_⟩⟩
        have hserver := hawaits.2
        unfold step at hserver
        rwa [hreverse] at hserver
    | reply | fail =>
      exact happroval (by simpa [writesHolds, Option.any_eq_true] using hwrites)
    | _ => exact absurd rfl hwrites

/-- What may raise a connection that is down does not happen in this step: the user leaves
the satellite alone, no approval of it lands, and what dials on its own account passes it by. -/
structure LeavesAlone (s : Manager) (id : SatelliteId) (a : ManagerAction) : Prop where
  user : a.userActsOn id = false
  approval : s.AwaitsApproval id → ∀ x ∈ s.answered a, x.request.isApproval = false
  drivers : s.Reaches id a → id ∈ s.heldByUser

theorem stateOf_ne_live_of_down (h : (s.view id).Down) : s.stateOf id ≠ some .live := by
  intro hlive
  obtain ⟨p, hp, hst⟩ := Option.map_eq_some_iff.mp hlive
  have hdown := h _ _ (view_obj hp)
  rw [hst] at hdown
  exact absurd hdown (by simp [IsDown])

section
variable (h : s.LeavesAlone id a) (hdown : (s.view id).Down)
include h hdown

/-- Such a step sends nothing but what follows from a reply to the satellite's own requests. -/
theorem LeavesAlone.sends_nothing (hdriven : ∀ x, s.answered a = some x → ∀ ref,
      x.request.driven ≠ some (id, ref)) : ¬s.MaySend a id r := by
  intro hmay
  have hreply : ∀ x, s.answered a = some x → ¬s.ReplyMaySend id r x.request := by
    intro x hx hmay
    have hnot := hdriven x hx
    have happroval : s.AwaitsApproval id → x.request.isApproval = false :=
      fun hawaits => h.approval hawaits x hx
    cases hrequest : x.request with
    | pinPair other sentOn | connectPair other sentOn =>
      rw [hrequest] at hmay hnot
      exact hnot sentOn (by rw [hmay.1]; rfl)
    | reversePair | pairStatus =>
      rw [hrequest] at hmay happroval
      exact absurd (happroval ⟨hmay.1, hmay.2.1⟩) (by simp [isApproval])
    | reconcile =>
      rw [hrequest] at hmay
      exact stateOf_ne_live_of_down hdown hmay.2.1
    | _ =>
      rw [hrequest] at hmay
      exact hmay
  have huser := h.user
  cases a with
  | connectTo server | pairWithPin server =>
    have hne : server.id ≠ id := by simpa [ManagerAction.userActsOn] using huser
    exact hne hmay.1.symm
  | scanFinished | autoReconnectAll | resumeFromSleep | retryDue =>
    exact hmay.2.1 (h.drivers hmay.1)
  | reply | fail =>
    obtain ⟨x, hx, hmay⟩ := hmay
    exact hreply x hx hmay
  | _ => exact hmay

/-- What the moves that send nothing keep, and a reply to the satellite's own requests, is kept by
such a step. -/
theorem LeavesAlone.keeps
    {I : AttemptView → Prop} (hmove : ∀ v v', Move (fun _ => False) id v v' → I v → I v')
    (hanswered : ∀ {x ref mid}, s.answered a = some x → x.request.driven = some (id, ref) →
      Answered (s.MaySend a id) a.grants id (x.serial, x.request) (s.view id) mid → I mid)
    (hI : I (s.view id)) : I ((s.step a).view id) := by
  by_cases hdriven : ∃ x ref, s.answered a = some x ∧ x.request.driven = some (id, ref)
  · obtain ⟨x, ref, hx, hdriven⟩ := hdriven
    obtain ⟨mid, hmid, hmoves⟩ := answers_step hx hdriven
    exact Reach.keeps hmove hmoves (hanswered hx hdriven hmid)
  · rcases step_view s a id with hmoves | ⟨x, ref, hx, hx', -⟩
    · have hquiet : Reach (fun _ => False) id (s.view id) ((s.step a).view id) :=
        hmoves.mono fun r =>
          h.sends_nothing hdown fun x hx ref hx' => hdriven ⟨x, ref, hx, hx'⟩
      exact Reach.keeps hmove hquiet hI
    · exact absurd ⟨x, ref, hx, hx'⟩ hdriven

theorem LeavesAlone.down_step :
    ((s.step a).view id).Down :=
  h.keeps hdown (fun _ _ => down_move) (fun _ _ hmid => down_answered hmid hdown) hdown

end

/-- Held down: no silent dial, nothing awaited, and the connection not on its way up. -/
structure HeldDown (id : SatelliteId) (s : Manager) : Prop where
  held : id ∈ s.heldByUser
  down : (s.view id).Down
  unasked : ¬s.AwaitsApproval id

/-- Nothing that a step does on its own account dials a satellite held down. -/
theorem HeldDown.leavesAlone (h : HeldDown id s) (ha : a.userActsOn id = false) :
    s.LeavesAlone id a where
  user := ha
  approval := fun hawaits => absurd hawaits h.unasked
  drivers := fun _ => h.held

theorem HeldDown.step (h : HeldDown id s) (ha : a.userActsOn id = false) : HeldDown id (s.step a) :=
  ⟨(keepsDown_step ha).held h.held, (h.leavesAlone ha).down_step h.down,
    fun hawaits => h.unasked ((keepsDown_step ha).awaited hawaits)⟩

theorem down_disconnect (s : Manager) (id : SatelliteId) : ((s.disconnect id).view id).Down := by
  intro ref st hobj
  have hconn : (s.disconnect id).conn? id = (s.onConn id WifiConnection.markDisconnected).conn? id :=
    conn?_disconnect s id
  cases hp : s.conn? id with
  | none =>
    rw [conn?_onConn, hp] at hconn
    rw [view_obj_none hconn] at hobj
    exact absurd hobj (by simp)
  | some p =>
    rw [conn?_onConn_self _ hp] at hconn
    rw [view_obj hconn, Option.some.injEq, Prod.mk.injEq] at hobj
    rw [← hobj.2]
    exact WifiConnection.isDown_markDisconnected p.conn

/-- With no approval request awaited, the disconnect the user presses holds. -/
theorem heldDown_disconnectByUser (h : ¬s.AwaitsApproval id) :
    HeldDown id (s.step (.disconnectByUser id)) where
  held := by
    show id ∈ (s.disconnectByUser id).heldByUser
    unfold disconnectByUser
    rw [(holds_disconnect _ id).held]
    exact Finset.mem_insert_self ..
  down := down_disconnect _ id
  unasked := fun hawaits => h ((keepsDown_step rfl).awaited hawaits)

/--
**A satellite the user disconnected stays down.**

If no approval request for it is awaited when the user presses Disconnect, the connection
of a satellite is not live in any later state, until the user connects to it, pairs with
it or forgets it.
-/
theorem user_disconnect_lasts (store : ConnectionStore) (before later : List ManagerAction)
    (id : SatelliteId) (hunasked : ¬(after store before).AwaitsApproval id)
    (hlater : ∀ a ∈ later, a.userActsOn id = false) :
    (after store (before ++ .disconnectByUser id :: later)).stateOf id ≠ some .live := by
  have hheld : HeldDown id (after store (before ++ .disconnectByUser id :: later)) := by
    unfold after
    rw [run_append, run_cons]
    have hstart : HeldDown id ((after store before).step (.disconnectByUser id)) :=
      heldDown_disconnectByUser hunasked
    change HeldDown id (run step ((after store before).step (.disconnectByUser id)) later)
    generalize (after store before).step (.disconnectByUser id) = s at hstart ⊢
    induction later generalizing s with
    | nil => exact hstart
    | cons a rest ih =>
      exact ih (fun b hb => hlater b (List.mem_cons_of_mem a hb)) _
        (hstart.step (hlater a List.mem_cons_self))
  exact stateOf_ne_live_of_down hheld.down

/-- The periodic sweep and a scan leave a live session that the user ended alone. -/
theorem sweeps_leave_it_down :
    (after pairedStore ([.connectTo box] ++ answering 0 sessionGrant)).stateOf box.id = some .live ∧
      (after pairedStore (([.connectTo box] ++ answering 0 sessionGrant) ++
        .disconnectByUser box.id ::
          [.autoReconnectAll, .startDiscovery, .scanFinished [box]])).stateOf box.id ≠
        some .live :=
  ⟨by decide +kernel, user_disconnect_lasts _ _ _ _ (by decide +kernel) (by decide +kernel)⟩

/-- The operator approves after the user disconnected: the connection goes live, still held. -/
theorem approval_outlives_disconnect :
    (after .empty (([.requestReversePairing box 42] ++ answering 0 approvalPending ++
        [.reverseTimer]) ++ .disconnectByUser box.id ::
          (answering 0 approvalGiven ++ answering 0 sessionGrant))).stateOf box.id =
        some .live ∧
      box.id ∈ (after .empty (([.requestReversePairing box 42] ++ answering 0 approvalPending ++
        [.reverseTimer]) ++ .disconnectByUser box.id ::
          (answering 0 approvalGiven ++ answering 0 sessionGrant))).heldByUser := by
  decide +kernel

end Manager

/-! ### A failed pair reply finds no session -/

/-- A pair POST of `pairWithPin` or `pairAndConnect`. -/
def HttpRequest.isForwardPost : HttpRequest → Bool
  | pinPair .. | connectPair .. => true
  | _ => false

theorem HttpRequest.driven_of_isForwardPost (h : r.isForwardPost) :
    r.driven = some (r.satellite, r.driven.elim 0 Prod.snd) ∧ r.isPut = false := by
  cases r with
  | pinPair | connectPair => exact ⟨rfl, rfl⟩
  | _ => exact absurd h (by simp [isForwardPost])

/-- While a pair POST is out on an object, the object has no session. -/
def AttemptView.PostsFindNoSession (id : SatelliteId) (v : AttemptView) : Prop :=
  ∀ x ∈ v.out, x.2.isPut = false → ∀ ref st, x.2.driven = some (id, ref) →
    v.obj = some (ref, st) → ¬InSession st

namespace AttemptView

variable {P : HttpRequest → Prop} {G : Prop} {id : SatelliteId} {v v' : AttemptView}
  {x : Nat × HttpRequest}

variable {st : SessionState}

theorem IsDown.not_inSession (h : IsDown st) : ¬InSession st := by
  rcases h with rfl | rfl <;> simp [InSession]

theorem postsFindNoSession_of_obj (h : v.obj = some (ref, st))
    (hst : ¬InSession st) : v.PostsFindNoSession id := by
  intro y hy hpost ref' st' hdriven hobj
  rw [h, Option.some.injEq, Prod.mk.injEq] at hobj
  exact hobj.2 ▸ hst

/-- Fewer requests on the same object, or the same with a PUT added. -/
theorem PostsFindNoSession.of_out (hv : v.PostsFindNoSession id) (hobj : v'.obj = v.obj)
    (hout : ∀ y ∈ v'.out, y.2.isPut = false → y ∈ v.out) : v'.PostsFindNoSession id := by
  intro y hy hpost ref st hdriven hst
  exact hv y (hout y hy hpost) hpost ref st hdriven (hobj ▸ hst)

theorem mem_of_mem_asking (hput : r.isPut) {y : Nat × HttpRequest}
    (hy : y ∈ (v.asking r).out) (hpost : y.2.isPut = false) : y ∈ v.out := by
  rcases List.mem_append.mp hy with hy | hy
  · exact hy
  · rw [List.mem_singleton] at hy
    rw [hy] at hpost
    exact absurd hput (by simp [hpost])

theorem postsFindNoSession_move (h : Move P id v v') (hv : v.PostsFindNoSession id) :
    v'.PostsFindNoSession id := by
  cases h with
  | made | dialled => exact postsFindNoSession_of_obj rfl (by simp [InSession])
  | dropped => intro y hy hpost ref st hdriven hobj; exact absurd hobj (by simp)
  | down h hdown => exact postsFindNoSession_of_obj rfl hdown.not_inSession
  | steady h hst =>
    -- a session goes on, so no POST is out on its object
    intro y hy hpost ref st hdriven hobj
    obtain ⟨rfl, -⟩ : _ = ref ∧ _ := by simpa [withState] using hobj
    exact absurd hst (hv y hy hpost _ _ hdriven h)
  | asked h hput => exact hv.of_out rfl fun y hy hpost => mem_of_mem_asking hput hy hpost
  | other => exact hv

/-- A session starts only where no POST is out, so `G` has to say so. -/
theorem postsFindNoSession_answered (h : Answered P G id x v v') (hv : v.PostsFindNoSession id)
    (hG : G → ∀ y ∈ v.out, y.2.isPut = false → y.2.driven ≠ x.2.driven) :
    v'.PostsFindNoSession id := by
  cases h with
  | stray hout | late hout =>
    exact hv.of_out rfl fun y hy _ => hout.mem_iff.mpr (List.mem_cons_of_mem x hy)
  | settled hout h hx hst hdown => exact postsFindNoSession_of_obj rfl hdown.not_inSession
  | granted hout h hx hpost hput =>
    refine hv.of_out rfl fun y hy hpost => ?_
    exact hout.mem_iff.mpr (List.mem_cons_of_mem x (mem_of_mem_asking hput hy hpost))
  | started hout h hx hput hGranted =>
    intro y hy hpost ref st hdriven hobj
    obtain ⟨rfl, -⟩ : _ = ref ∧ _ := by simpa [withState] using hobj
    have hne := hG hGranted y (hout.mem_iff.mpr (List.mem_cons_of_mem x hy)) hpost
    exact absurd (hdriven.trans hx.symm) hne

end AttemptView

namespace Manager

variable {s : Manager} {a : ManagerAction} {id : SatelliteId}

/-- A session is granted only while no forward pair POST sent on the same object is
unanswered. -/
def GrantsLandAlone (s : Manager) (a : ManagerAction) : Prop :=
  a.grants → ∀ x ∈ s.answered a, ∀ y ∈ s.net,
    y.request.isForwardPost → y.request.driven ≠ x.request.driven

theorem postsFindNoSession_step (hok : s.GrantsLandAlone a)
    (h : ∀ id, (s.view id).PostsFindNoSession id) :
    ∀ id, ((s.step a).view id).PostsFindNoSession id := by
  intro id
  rcases step_view s a id with hmoves | ⟨x, ref, hx, hdriven, mid, hmid, hmoves⟩
  · exact Reach.keeps (fun _ _ => postsFindNoSession_move) hmoves (h id)
  · refine Reach.keeps (fun _ _ => postsFindNoSession_move) hmoves
      (postsFindNoSession_answered hmid (h id) ?_)
    intro hgrants y hy hpost
    obtain ⟨hmem, hid⟩ := List.mem_filter.mp hy
    obtain ⟨z, hz, rfl⟩ := List.mem_map.mp hmem
    refine hok hgrants x hx z hz ?_
    cases hrequest : z.request with
    | pinPair | connectPair => rfl
    | session => rw [hrequest] at hpost; exact absurd hpost (by simp [isPut])
    | _ => rw [hrequest] at hid; exact absurd hid (by simp [driven])

/-- The forward pair POST whose callback a step runs with an outcome other than success. -/
def failedPair (s : Manager) (a : ManagerAction) : Option InFlight :=
  (s.answered a).filter fun x => x.request.isForwardPost && match a with
    | .reply _ (.pair r) => !(PairingOutcome.classify r false).isSuccess
    | _ => true

section
variable {t : Manager} {other : SatelliteId} {sentOn : Nat} {server : DiscoveredServer}
  {outcome : PairingOutcome}

theorem conn?_endPairingRequest : (t.endPairingRequest other sentOn).conn? id = t.conn? id := by
  unfold endPairingRequest
  split <;> rfl

theorem conn?_pairReplied {intent : ConnectIntent} {t' : Manager}
    (replied : PairReplied t other sentOn server intent outcome t')
    (houtcome : outcome.isSuccess = false)
    (hmiss : id = other → ∀ p, t.conn? id = some p → p.ref ≠ sentOn) :
    t'.conn? id = t.conn? id := by
  cases replied with
  | stray => exact conn?_endPairingRequest
  | granted key is => simp [is, PairingOutcome.isSuccess] at houtcome
  | refused f _ _ there =>
    obtain ⟨hp, hsent⟩ := replyTarget_eq_some.mp there
    have hid : id ≠ other := by
      intro hid
      subst hid
      exact hmiss rfl _ hp hsent
    exact (conn?_onConn_ne f hid).trans conn?_endPairingRequest

end

theorem failedPair_spec {x : InFlight} (h : s.failedPair a = some x) :
    ∃ k pinMismatch r, s.net[k]? = some x ∧ x.request.isForwardPost ∧
      (PairingOutcome.classify r pinMismatch).isSuccess = false ∧
      s.step a = (s.popped k).onAnswer pinMismatch x.request
        (.pair r) := by
  obtain ⟨hanswered, hfilter⟩ := Option.filter_eq_some_iff.mp h
  rw [Bool.and_eq_true] at hfilter
  obtain ⟨hpost, houtcome⟩ := hfilter
  cases a with
  | reply k answer =>
    obtain ⟨hx, htakes, heq⟩ := step_reply hanswered
    cases answer with
    | pair r => exact ⟨k, false, r, hx, hpost, by simpa using houtcome, heq⟩
    | _ =>
      cases hrequest : x.request with
      | pinPair | connectPair =>
        rw [hrequest] at htakes
        exact absurd htakes (by simp [takes])
      | _ => rw [hrequest] at hpost; exact absurd hpost (by simp [isForwardPost])
  | fail k failure =>
    obtain ⟨hx, heq⟩ := step_fail hanswered
    have hno : x.request.noAnswer failure = .pair { error := some "connect failed" } := by
      cases hrequest : x.request with
      | pinPair | connectPair => rfl
      | _ => rw [hrequest] at hpost; exact absurd hpost (by simp [isForwardPost])
    rw [hno] at heq
    refine ⟨k, _, _, hx, hpost, ?_, heq⟩
    cases decide (x.tls = some (.refused true)) <;> decide
  | _ => exact absurd hanswered (by simp [answered])

/-- A pair reply that brings no key leaves every connection in a session untouched. -/
def FailedPairKeepsSessions (s : Manager) (a : ManagerAction) : Prop :=
  (s.failedPair a).isSome → ∀ id p, s.conn? id = some p → InSession p.conn.state →
    (s.step a).conn? id = some p

theorem failedPairKeepsSessions_of (h : ∀ id, (s.view id).PostsFindNoSession id) :
    s.FailedPairKeepsSessions a := by
  intro hfailed id p hp hin
  obtain ⟨x, hx⟩ := Option.isSome_iff_exists.mp hfailed
  obtain ⟨k, pinMismatch, r, hget, hpost, houtcome, heq⟩ := failedPair_spec hx
  -- the POST is out, so the object it was sent on has no session
  have hmiss : ∀ {other sentOn}, x.request.driven = some (other, sentOn) → id = other →
      ∀ q, s.conn? id = some q → q.ref ≠ sentOn := by
    rintro _ sentOn hdriven rfl q hq hsent
    have hout : (x.serial, x.request) ∈ (s.view id).out :=
      List.mem_filter.mpr ⟨List.mem_map.mpr ⟨x, List.mem_of_getElem? hget, rfl⟩, by simp [hdriven]⟩
    obtain rfl := Option.some.inj (hp.symm.trans hq)
    exact h id _ hout (driven_of_isForwardPost hpost).2 _ _ hdriven (hsent ▸ view_obj hp) hin
  rw [heq]
  cases hrequest : x.request with
  | pinPair other sentOn server pin =>
    rw [hrequest] at hmiss
    exact Eq.trans (conn?_pairReplied (.pin ..) houtcome (hmiss rfl)) hp
  | connectPair =>
    rw [hrequest] at hmiss
    exact Eq.trans (conn?_pairReplied (.connect ..) houtcome (hmiss rfl)) hp
  | _ => rw [hrequest] at hpost; exact absurd hpost (by simp [isForwardPost])

/--
**A failed pair reply never ends a session.**

In every run in which a session is granted only while no forward pair POST sent on the
same connection is unanswered, no reply to a forward pair POST that brings no key changes
a connection that is Live or Faltering.
-/
theorem failed_pair_ends_no_session (store : ConnectionStore) (acts : List ManagerAction)
    (hok : Along step GrantsLandAlone (ofStore store) acts) :
    Along step FailedPairKeepsSessions (ofStore store) acts :=
  along_of_inv (I := fun s : Manager => ∀ id, (s.view id).PostsFindNoSession id)
    (fun _ _ h hok => postsFindNoSession_step hok h)
    (fun _ _ h _ => failedPairKeepsSessions_of h)
    (fun id y hy => absurd hy (by simp [view, ofStore])) hok

instance (s : Manager) (a : ManagerAction) : Decidable (s.GrantsLandAlone a) :=
  inferInstanceAs (Decidable (a.grants → ∀ x ∈ s.answered a, ∀ y ∈ s.net,
    y.request.isForwardPost → y.request.driven ≠ x.request.driven))

/-- A refused pair POST, then a pairing by PIN whose session stands: the condition holds. -/
theorem refusal_before_the_pin :
    (after .empty ([.connectTo box] ++ answering 0 pairRefusal ++ [.pairWithPin box "1234"] ++
        answering 0 pairGrant ++ answering 0 sessionGrant)).stateOf box.id = some .live ∧
      Along step FailedPairKeepsSessions (ofStore .empty)
        ([.connectTo box] ++ answering 0 pairRefusal ++ [.pairWithPin box "1234"] ++
          answering 0 pairGrant ++ answering 0 sessionGrant) :=
  ⟨by decide +kernel, failed_pair_ends_no_session _ _ (by decide +kernel)⟩

/--
The PIN pairing overtakes the pair POST of `connectTo` on one connection: the session is
live when the refusal of the older POST lands and ends it.
-/
theorem refusal_ends_live_session :
    (after .empty ([.connectTo box, .pairWithPin box "1234"] ++ answering 1 pairGrant ++
        answering 1 sessionGrant)).stateOf box.id = some .live ∧
      ((after .empty ([.connectTo box, .pairWithPin box "1234"] ++ answering 1 pairGrant ++
        answering 1 sessionGrant ++ [.handshake 0 (some "f1")])).failedPair
          (.reply 0 pairRefusal)).isSome ∧
      (after .empty ([.connectTo box, .pairWithPin box "1234"] ++ answering 1 pairGrant ++
        answering 1 sessionGrant ++ answering 0 pairRefusal)).stateOf box.id = some .idle := by
  decide +kernel

end Manager

end Dish
