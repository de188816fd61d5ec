/-
The self-heal loop stops.

Every alive tick compares the last ack with what the connection believes, and when
they differ a session GET goes out; its answer either ends there, because the view is
the wanted one and only the epoch is taken over, or starts the session over with a
PUT.  Here a link is left alone: the user changes nothing, the satellite does what it
is asked and says in every ack what it holds.  A potential then bounds how many GETs
and PUTs are still to come.

What is on its way to or from single controllers pays for whatever it disturbs.
Between two such events the satellite does not move.  A session that does not agree
with it needs one GET, and after that either agrees or is started over and agrees.
One that agrees sends a GET only while the ack it looks at is an old one, so at most
one for each tick until the next ack.
-/
import Dish.Proofs.Topology

namespace Dish

open Steps WifiConnection Satellite Link

variable {t : Link} {mouse : Bool} {left' : Nat}

/-! ### Rounds -/

def Request.isPut : Request → Bool
  | .session .. => true
  | _ => false

abbrev Exchange.isGet (x : Exchange) : Bool := x.request.isGet

abbrev Exchange.isPut (x : Exchange) : Bool := x.request.isPut

/-- How many session GETs and session PUTs the step sends. -/
def Link.rounds (s : Link) (a : LinkAction) : Nat :=
  ((s.step a).net.countP Exchange.isGet - s.net.countP Exchange.isGet) +
    ((s.step a).net.countP Exchange.isPut - s.net.countP Exchange.isPut)

/-! ### What holds in every link -/

/-- A session PUT or GET is answered in kind. -/
def Exchange.Typed (cid : String) : Exchange → Prop
  | ⟨.session _ sent mouse, a⟩ =>
    ∀ ans, a = some ans → ∃ resp, ans = .session resp ∧ Grants cid sent mouse resp
  | ⟨.reconcile id, a⟩ => id = cid ∧ ∀ ans, a = some ans → ∃ view, ans = .view view
  | _ => True

theorem Exchange.Typed.answer {sat : Satellite} {r : Request}
    (h : Exchange.Typed sat.connectionId ⟨r, none⟩) :
    Exchange.Typed sat.connectionId ⟨r, some (sat.serve r.call).2⟩ := by
  cases r with
  | session =>
    intro ans hans
    obtain rfl := Option.some.inj hans
    exact ⟨_, rfl, rfl, rfl, rfl⟩
  | reconcile =>
    refine ⟨h.1, fun ans hans => ?_⟩
    obtain rfl := Option.some.inj hans
    simp only [Request.call, serve]
    split <;> exact ⟨_, rfl⟩
  | _ => trivial

theorem Satellite.serve_connectionId (sat : Satellite) (call : Call) :
    (sat.serve call).1.connectionId = sat.connectionId := by
  cases call <;> simp only [serve] <;> (try split) <;> rfl

/-- What no step of a link breaks, however it is driven. -/
structure Link.Sound (s : Link) : Prop where
  session : s.conn.InSession → s.conn.connectionId = some s.sat.connectionId ∧ s.conn.client.isSome
  typed : ∀ x ∈ s.net, x.Typed s.sat.connectionId
  /-- The flag is set exactly while a GET is out, and there is one at most. -/
  gets : s.net.countP Exchange.isGet = if s.reconcileInFlight then 1 else 0

namespace Link.Sound

variable {s : Link}

variable {c : WifiConnection}

section
variable (h : s.Sound)
include h

theorem withConn (hc : c.InSession → c.connectionId = some s.sat.connectionId ∧ c.client.isSome) :
    Link.Sound { s with conn := c } :=
  ⟨hc, h.typed, h.gets⟩

theorem sameSession (hin : c.InSession → s.conn.InSession)
    (hid : c.connectionId = s.conn.connectionId)
    (hclient : c.client.isSome = s.conn.client.isSome) :
    Link.Sound { s with conn := c } := by
  refine h.withConn fun hc => ?_
  rw [hid, hclient]
  exact h.session (hin hc)

theorem leave (hout : ¬ c.InSession) : Link.Sound { s with conn := c } :=
  h.withConn fun hin => absurd hin hout

theorem append {more : List Exchange}
    (hmore : ∀ x ∈ more, x.Typed s.sat.connectionId ∧ x.isGet = false) :
    Link.Sound { s with net := s.net ++ more } := by
  refine ⟨h.session, fun x hx => ?_, ?_⟩
  · rcases List.mem_append.mp hx with hx | hx
    · exact h.typed x hx
    · exact (hmore x hx).1
  · have hnone : more.countP Exchange.isGet = 0 :=
      List.countP_eq_zero.mpr fun x hx => by simp [(hmore x hx).2]
    show (s.net ++ more).countP _ = _
    rw [List.countP_append, hnone, Nat.add_zero]
    exact h.gets

theorem send {r : Request} (htyped : Exchange.Typed s.sat.connectionId ⟨r, none⟩)
    (hget : Exchange.isGet ⟨r, none⟩ = false) : (s.send r).Sound :=
  h.append fun x hx => by
    obtain rfl := List.mem_singleton.mp hx
    exact ⟨htyped, hget⟩

theorem sendControllers (calls : List Call) : (s.sendControllers calls).Sound := by
  refine h.append fun x hx => ?_
  obtain ⟨r, hr, rfl⟩ := List.mem_map.mp hx
  obtain ⟨call, -, hcall⟩ := List.mem_filterMap.mp hr
  cases call <;> simp only [Request.ofController, Option.some.injEq, reduceCtorEq] at hcall <;>
    subst hcall <;> exact ⟨trivial, rfl⟩

theorem onSignal (signal : Option SlotSignal) : (s.onSignal signal).Sound := by
  unfold Link.onSignal
  split
  · exact h
  · exact h.sendControllers _
  · exact h.sendControllers _

section
variable (intent : ConnectIntent)

theorem openSession : (s.openSession intent).Sound :=
  h.send (fun _ hans => nomatch hans) rfl

theorem reconcile : s.reconcile.Sound := by
  unfold Link.reconcile
  cases ht : s.conn.reconcileTarget with
  | none => exact h
  | some connId =>
    dsimp only
    split
    · exact h
    · rename_i hflag
      obtain ⟨hlive, hcid⟩ := reconcileTarget_spec ht
      have hid : connId = s.sat.connectionId :=
        Option.some.inj (hcid.symm.trans (h.session (.inl hlive)).1)
      have hzero := h.gets
      rw [if_neg hflag] at hzero
      refine ⟨h.session, fun x hx => ?_, ?_⟩
      · rcases List.mem_append.mp hx with hx | hx
        · exact h.typed x hx
        · obtain rfl := List.mem_singleton.mp hx
          exact ⟨hid, fun _ hans => nomatch hans⟩
      · show (s.net ++ [_]).countP _ = _
        rw [List.countP_append, hzero]
        rfl

theorem disconnect : s.disconnect.Sound := by
  unfold Link.disconnect
  have hnext := h.leave (not_inSession_markDisconnected s.conn)
  cases s.conn.connectionId with
  | none => exact hnext
  | some connId => exact hnext.send trivial rfl

theorem connect : (s.connect intent).Sound := by
  unfold Link.connect
  split
  · exact h
  · rename_i hstate
    refine (h.leave ?_).openSession intent
    exact not_inSession_markConnecting fun hlive => hstate (.inl hlive)

theorem onSessionUnreachable : (s.onSessionUnreachable intent).Sound := by
  unfold Link.onSessionUnreachable
  split
  · exact h
  · split
    · exact h.leave (not_inSession_markDisconnected _)
    · exact h.leave (not_inSession_markStale _)

end

theorem onSessionReply {sent : List ControllerDescriptor}
    {resp : SessionResponse} (hgrants : Grants s.sat.connectionId sent mouse resp)
    (material : Option Material) (socketOpened : Bool) :
    (s.onSessionReply sent resp material socketOpened).Sound := by
  unfold Link.onSessionReply
  rw [hgrants.connectionId]
  dsimp only
  have hback := (h.leave (not_inSession_markDisconnected s.conn)).send
    (r := .release s.sat.connectionId) trivial rfl
  split
  · exact h.send trivial rfl
  · rename_i hlinking
    split
    · split
      · refine Sound.sendControllers ?_ _
        refine ⟨fun _ => ?_, h.typed, h.gets⟩
        simp [startSession, applyResults, markConnected, hlinking]
      · exact hback
    · exact hback

theorem onRekeyReply (client : Nat) (resp : SessionResponse)
    (material : Option Material) : (s.onRekeyReply client resp material).Sound := by
  unfold Link.onRekeyReply
  split
  · split
    · rename_i hclient _
      exact h.sameSession id rfl (by rw [hclient]; rfl)
    · exact h
  · exact h

end

theorem onView (h : Link.Sound { s with reconcileInFlight := false }) (view : SessionViewDto) :
    (s.onView view).Sound := by
  unfold Link.onView
  dsimp only
  split
  · exact h
  · split
    · exact h
    · split
      · exact h.sameSession id rfl rfl
      · refine (h.leave ?_).openSession _
        exact not_inSession_markConnecting (by simp [state_markDisconnected])

section
variable (h : s.Sound)
include h

theorem applyResults (epoch : Int) (results : List ControllerApplyDto) :
    Link.Sound { s with conn := ((s.conn.adoptEpoch epoch).applyResults results).1 } :=
  h.sameSession id rfl rfl

theorem onSync (resp : ControllerPutResponse) : (s.onSync resp).Sound := by
  unfold Link.onSync
  split
  · exact h
  · have hnext := h.applyResults resp.epoch [‹_›]
    dsimp only
    split
    · exact hnext.reconcile
    · exact hnext

theorem onRemove (resp : ControllerPutResponse) : (s.onRemove resp).Sound := by
  unfold Link.onRemove applyControllerDelete
  split
  · exact h.sameSession id rfl rfl
  · exact h

theorem mapClient (f : SessionClient → SessionClient) : (s.mapClient f).Sound :=
  h.sameSession id rfl (by simp)

theorem tick : s.tick.Sound := by
  unfold Link.tick
  cases hclient : s.conn.client with
  | none => exact h
  | some client =>
    dsimp only
    split
    · exact h.disconnect
    · have hsteady : Link.Sound { s with conn := s.conn.applySteadyState client } := by
        obtain ⟨hsame, -⟩ := applySteadyState_spec s.conn client
        refine h.sameSession hsame.inSession hsame.connectionId ?_
        unfold applySteadyState
        dsimp only
        split <;> rfl
      have hrec := hsteady.reconcile
      generalize ({ s with conn := s.conn.applySteadyState client } : Link).reconcile = t at hrec
      have hrekey : Link.Sound { t with conn := (t.conn.maybeRequestRekey client).1 } := by
        obtain ⟨requested, hrequested⟩ := maybeRequestRekey_spec t.conn client
        rw [hrequested]
        exact hrec.sameSession id rfl rfl
      split
      · unfold rekey
        split
        · exact hrekey
        · split
          · exact hrekey
          · exact hrekey.send trivial rfl
      · exact hrekey

theorem done {k : Nat} {x : Exchange} (hx : s.net[k]? = some x) :
    (∀ y ∈ s.net.eraseIdx k, y.Typed s.sat.connectionId) ∧
      (x.isGet = false → Link.Sound (s.popped k)) ∧
      (x.isGet = true →
        Link.Sound { s with net := s.net.eraseIdx k, reconcileInFlight := false }) := by
  have hperm := perm_eraseIdx hx
  have htyped : ∀ y ∈ s.net.eraseIdx k, y.Typed s.sat.connectionId := fun y hy =>
    h.typed y (hperm.mem_iff.mpr (List.mem_cons_of_mem _ hy))
  have hcount := hperm.countP_eq Exchange.isGet
  rw [List.countP_cons, h.gets] at hcount
  refine ⟨htyped, fun hget => ⟨h.session, htyped, ?_⟩, fun hget => ⟨h.session, htyped, ?_⟩⟩
  · rw [hget] at hcount
    exact hcount.symm
  · rw [hget] at hcount
    simp only [if_true] at hcount
    show (s.net.eraseIdx k).countP Exchange.isGet = 0
    split at hcount <;> omega

theorem step (a : LinkAction) : (s.step a).Sound := by
  cases a with
  | attach slotId shape =>
    obtain ⟨slots, bound, hframe⟩ := s.conn.attachSlot_frame slotId shape
    refine onSignal ?_ _
    show Link.Sound { s with conn := (s.conn.attachSlot slotId shape).1 }
    rw [hframe]
    exact h.sameSession id rfl rfl
  | detach slotId =>
    refine onSignal ?_ _
    show Link.Sound { s with conn := (s.conn.detachSlot slotId).1 }
    cases hfind : s.conn.slots.find slotId with
    | none => rw [s.conn.detachSlot_none hfind]; exact h
    | some b =>
      obtain ⟨bound, hframe⟩ := s.conn.detachSlot_some hfind
      rw [hframe]
      exact h.sameSession id rfl rfl
  | connect intent => exact h.connect intent
  | disconnect => exact h.disconnect
  | markStale => exact h.leave (not_inSession_markStale _)
  | arrive k =>
    simp only [Link.step]
    split
    · rename_i request hx
      have hperm := perm_set hx ⟨request, some (s.sat.serve request.call).2⟩
      have hmem := List.mem_of_getElem? hx
      refine ⟨?_, fun y hy => ?_, ?_⟩
      · show _ → _ = some (s.sat.serve _).1.connectionId ∧ _
        rw [serve_connectionId]
        exact h.session
      · show y.Typed (s.sat.serve _).1.connectionId
        rw [serve_connectionId]
        rcases List.mem_cons.mp (hperm.mem_iff.mp hy) with rfl | hy
        · exact (h.typed _ hmem).answer
        · exact (h.done hx).1 y hy
      · show (s.net.set k _).countP _ = _
        rw [hperm.countP_eq, List.countP_cons, ← h.gets, (perm_eraseIdx hx).countP_eq,
          List.countP_cons]
    · exact h
  | reply k material socketOpened =>
    simp only [Link.step]
    split
    · rename_i request answer hx
      obtain ⟨htyped, hother, hget⟩ := h.done hx
      have hx' := h.typed _ (List.mem_of_getElem? hx)
      cases request with
      | session =>
        obtain ⟨resp, rfl, hgrants⟩ := hx' _ rfl
        exact (hother rfl).onSessionReply hgrants material socketOpened
      | rekey =>
        cases answer <;> first | exact (hother rfl).onRekeyReply _ _ _ | exact hother rfl
      | reconcile =>
        obtain ⟨view, rfl⟩ := hx'.2 _ rfl
        exact onView (s := s.popped k) (hget rfl) view
      | sync => cases answer <;> first | exact (hother rfl).onSync _ | exact hother rfl
      | remove => cases answer <;> first | exact (hother rfl).onRemove _ | exact hother rfl
      | release => cases answer <;> exact hother rfl
    · exact h
  | lose k =>
    simp only [Link.step]
    split
    · rename_i x hx
      obtain ⟨htyped, hother, hget⟩ := h.done hx
      obtain ⟨request, answer⟩ := x
      cases request with
      | session intent => exact (hother rfl).onSessionUnreachable intent
      | reconcile => exact onView (s := s.popped k) (hget rfl) {}
      | sync => exact (hother rfl).onSync {}
      | remove => exact (hother rfl).onRemove {}
      | rekey => exact hother rfl
      | release => exact hother rfl
    · exact h
  | ack | miss | count => exact h.mapClient _
  | tick => exact h.tick

end

theorem fresh (server : DiscoveredServer) (sat : Satellite) : (Link.fresh server sat).Sound :=
  ⟨fun h => by simp [Link.fresh, WifiConnection.InSession] at h,
    fun _ hx => absurd hx List.not_mem_nil, rfl⟩

/-- **At most one GET is out, and the flag tells.** -/
theorem one_get_out (server : DiscoveredServer) (sat : Satellite) (acts : List LinkAction) :
    (run Link.step (.fresh server sat) acts).Sound :=
  run_inv (fun _ a h => h.step a) (.fresh server sat) acts

end Link.Sound

/-! ### A link left alone -/

/-- A link, with the alive ticks that may still come before the next ack. -/
structure Paced where
  link : Link
  left : Nat

/-- At most `k` ticks come between two acks. -/
def Paced.step (k : Nat) (p : Paced) (a : LinkAction) : Paced where
  link := p.link.step a
  left :=
    match a with
    | .tick => p.left - 1
    | .ack _ _ => k
    | _ => p.left

/--
The user does nothing and nothing is lost.  An ack says what the satellite holds, and
heartbeats are answered before the session counts as faltering.  No re-key falls due.
-/
def Paced.Quiet (p : Paced) : LinkAction → Prop
  | .arrive _ | .reply _ _ _ | .miss => True
  | .ack epoch bitmap =>
    p.link.sat.up = true ∧ (epoch : Int) = p.link.sat.epoch ∧ bitmap = p.link.sat.activeBitmap.toNat
  | .count sendCounter => counterNeedsRepush sendCounter = false
  | .tick =>
    0 < p.left ∧ ∀ client ∈ p.link.conn.client,
      client.missedAcks < kHeartbeatMissNotResponding ∧
        counterNeedsRepush client.sendCounter = false
  | _ => False

/-- The bitmap of the active controllers of a view. -/
def SessionViewDto.bitmap (view : SessionViewDto) : BitVec 16 :=
  (view.controllers.filter (·.active)).foldl (fun b v => b ||| (1#16 <<< v.ctrlIdx)) 0#16

/-- A view that is what the slots want lists the slots that are down as registered. -/
def Paced.BenignAgrees (p : Paced) : LinkAction → Prop
  | .reply k _ _ =>
    match p.link.net[k]? with
    | some ⟨.reconcile _, some (.view view)⟩ =>
      p.link.conn.state = .live → view.failed = false → p.link.conn.viewIsBenign view = true →
        p.link.conn.registeredBitmap = view.bitmap
    | _ => True
  | _ => True

/-! ### The potential -/

/-- The connection's record of the session is the satellite's. -/
def Agrees (c : WifiConnection) (sat : Satellite) : Prop :=
  c.lastAppliedEpoch = sat.epoch ∧ c.registeredBitmap = sat.activeBitmap

instance (c : WifiConnection) (sat : Satellite) : Decidable (Agrees c sat) :=
  inferInstanceAs (Decidable (_ ∧ _))

/-- A GET on its way back that shows something else than it would now. -/
def Exchange.isOutdated (sat : Satellite) (x : Exchange) : Bool :=
  x.isGet && x.answer.any (· ≠ (sat.serve x.request.call).2)

/-- A grant on its way back that the satellite has moved on from. -/
def Exchange.isOvertaken (c : WifiConnection) (sat : Satellite) : Exchange → Bool
  | ⟨.session .., some (.session resp)⟩ =>
    !decide (sat.up = true ∧ resp.epoch = sat.epoch ∧
      (c.applyResults resp.controllers).1.registeredBitmap = sat.activeBitmap)
  | _ => false

/-- What a controller call or a re-key can still disturb: once when it arrives, once
when its answer does. -/
def Exchange.debt (x : Exchange) : Nat :=
  if x.isGet || x.isPut then 0 else if x.answer.isNone then 2 else 1

namespace Link

variable (s : Link)

def debt : Nat := (s.net.map Exchange.debt).sum

/-- The rounds still to come if nothing else disturbs the link. -/
def due (k left : Nat) : Nat :=
  match s.conn.state with
  | .live =>
    if s.net.any (·.isOutdated s.sat) then k + 5
    else if s.sat.up = false then left
    else if Agrees s.conn s.sat then
      if s.conn.reconcileTarget.isSome then left + 2
      else if s.reconcileInFlight then 1 else 0
    else if s.reconcileInFlight then k + 3 else k + 4
  | .linking => if s.net.any (·.isOvertaken s.conn s.sat) then k + 4 else 0
  | _ => 0

end Link

variable {s : Link} {sat : Satellite} {net : List Exchange} {c : WifiConnection} {k left j : Nat}
  {x : Exchange} {p : Exchange → Bool} {a : LinkAction} {r : Request}
  {f : SessionClient → SessionClient} {ans : Answer} {view : SessionViewDto} {id : String}

/-- A bound for the rounds still to come; a session that is down has none. -/
def Paced.potential (k : Nat) (p : Paced) : Nat :=
  match p.link.conn.state with
  | .live | .linking => (k + 6) * p.link.debt + p.link.due k p.left
  | _ => 0

/-- What holds of a link left alone. -/
structure Link.Alone (s : Link) : Prop where
  sound : s.Sound
  steady : s.conn.state ≠ .faltering
  inBitmap : s.conn.InBitmap
  live : s.conn.state = .live → s.net.countP Exchange.isPut = 0
  /-- The one PUT that is out carries the slots as they are. -/
  linking : s.conn.state = .linking → s.reconcileInFlight = false ∧
    s.net.countP Exchange.isPut = 1 ∧ ∀ x ∈ s.net, x.isPut = true → ∃ intent,
      x.request = .session intent s.conn.desiredDescriptors s.conn.wantsMouseControl

/-- The step leaves the link alone and pays for the rounds it sends. -/
abbrev Link.Pays (k left : Nat) (s : Link) (a : LinkAction) : Prop :=
  (s.step a).Alone ∧ s.rounds a + Paced.potential k ⟨s.step a, left⟩ ≤ Paced.potential k ⟨s, left⟩

/-! ### Counting -/

open Exchange (isGet isPut isOutdated isOvertaken)

theorem not_isOutdated_of_noGet (h : net.countP isGet = 0) :
    net.any (·.isOutdated sat) = false := by
  rw [List.any_eq_false]
  intro x hx
  have hget := List.countP_eq_zero.mp h x hx
  simp [isOutdated, hget]

theorem not_isOvertaken_of_noPut (h : net.countP isPut = 0) :
    net.any (·.isOvertaken c sat) = false := by
  rw [List.any_eq_false]
  intro x hx
  have hput := List.countP_eq_zero.mp h x hx
  obtain ⟨r, a⟩ := x
  cases r with
  | session => exact absurd rfl hput
  | _ => simp [isOvertaken]

theorem Link.due_le (s : Link) (h : left ≤ k) : s.due k left ≤ k + 5 := by
  unfold due
  split
  · split
    · exact Nat.le_refl _
    · split
      · omega
      · split <;> split <;> try split
        all_goals omega
  · split <;> omega
  · omega

theorem Link.due_le_of_noGet (h : left ≤ k) (hget : s.net.countP isGet = 0) :
    s.due k left ≤ k + 4 := by
  unfold due
  rw [not_isOutdated_of_noGet hget]
  simp only [Bool.false_eq_true, if_false]
  split
  · split
    · omega
    · split <;> split <;> try split
      all_goals omega
  · split <;> omega
  · omega

theorem debt_eraseIdx (hx : s.net[k]? = some x) :
    s.debt = x.debt + ((s.net.eraseIdx k).map Exchange.debt).sum := by
  unfold debt
  rw [((perm_eraseIdx hx).map Exchange.debt).sum_nat]
  rfl

theorem debt_set (hx : s.net[k]? = some x) (y : Exchange) :
    ((s.net.set k y).map Exchange.debt).sum =
      y.debt + ((s.net.eraseIdx k).map Exchange.debt).sum := by
  rw [((perm_set hx y).map Exchange.debt).sum_nat]
  rfl

theorem countP_set {y : Exchange} (hx : net[k]? = some x) (hy : p y = p x) :
    (net.set k y).countP p = net.countP p := by
  rw [(perm_set hx y).countP_eq, (perm_eraseIdx hx).countP_eq, List.countP_cons, List.countP_cons,
    hy]

theorem countP_eraseIdx_pos (hx : net[k]? = some x) (hp : p x = true) :
    net.countP p = (net.eraseIdx k).countP p + 1 := by
  rw [(perm_eraseIdx hx).countP_eq, List.countP_cons_of_pos hp]

theorem countP_eraseIdx_neg (hx : net[k]? = some x) (hp : p x = false) :
    net.countP p = (net.eraseIdx k).countP p := by
  rw [(perm_eraseIdx hx).countP_eq, List.countP_cons_of_neg (by simp [hp])]

/-- A step that settles a debt pays for everything it disturbs, and for a round. -/
theorem pays_of_debt {s s' : Link} (hleft : left ≤ k)
    (hstate : s.conn.state = .live ∨ s.conn.state = .linking) (hdebt : s'.debt + 1 ≤ s.debt)
    {rounds : Nat} (hrounds : rounds ≤ 1) :
    rounds + Paced.potential k ⟨s', left⟩ ≤ Paced.potential k ⟨s, left⟩ := by
  have hbefore : (k + 6) * s.debt ≤ Paced.potential k ⟨s, left⟩ := by
    unfold Paced.potential
    rcases hstate with h | h <;> simp only [h] <;> omega
  have hafter : Paced.potential k ⟨s', left⟩ ≤ (k + 6) * s'.debt + (k + 5) := by
    unfold Paced.potential
    have := s'.due_le hleft
    split
    · dsimp only at *
      omega
    · dsimp only at *
      omega
    · omega
  have hmul : (k + 6) * (s'.debt + 1) ≤ (k + 6) * s.debt := Nat.mul_le_mul_left _ hdebt
  rw [Nat.mul_add, Nat.mul_one] at hmul
  omega

theorem any_set {y : Exchange} (hx : net[k]? = some x) (hy : p y = p x) :
    (net.set k y).any p = net.any p := by
  rw [(perm_set hx y).any_eq, (perm_eraseIdx hx).any_eq, List.any_cons, List.any_cons, hy]

theorem potential_le {s : Link} (hstate : t.conn.state = s.conn.state)
    (hdebt : t.debt = s.debt) (hdue : t.due k left' ≤ s.due k left) :
    Paced.potential k ⟨t, left'⟩ ≤ Paced.potential k ⟨s, left⟩ := by
  unfold Paced.potential
  simp only [hstate, hdebt]
  split <;> omega

theorem potential_of_down (hlive : s.conn.state ≠ .live)
    (hlinking : s.conn.state ≠ .linking) : Paced.potential k ⟨s, left⟩ = 0 := by
  unfold Paced.potential
  split
  · exact absurd (by assumption) hlive
  · exact absurd (by assumption) hlinking
  · rfl

theorem rounds_eq_zero (hget : (s.step a).net.countP isGet ≤ s.net.countP isGet)
    (hput : (s.step a).net.countP isPut ≤ s.net.countP isPut) :
    s.rounds a = 0 := by
  unfold rounds
  omega

/-! ### A request arrives -/

theorem activeBitmap_padsOf (hbits : c.InBitmap)
    (hholds : sat.holds = padsOf c.desiredDescriptors) {results : List ControllerApplyDto}
    (hresults : results = c.desiredDescriptors.map fun d => ⟨d.ctrlIdx, "ok"⟩) :
    (c.applyResults results).1.registeredBitmap = sat.activeBitmap := by
  have hpads : ∀ i, sat.holds i = c.padAt i := fun i => by rw [hholds, c.padsOf_desired]
  have hindexed : sat.Indexed := by
    intro i d hd
    rw [hpads] at hd
    exact ⟨ctrlIdx_of_padAt hd, hbits i (by rw [hd]; rfl)⟩
  have hgood : ∀ r ∈ results, r.slotIsLive = true := by
    intro r hr
    rw [hresults] at hr
    obtain ⟨d, -, rfl⟩ := List.mem_map.mp hr
    rfl
  refine BitVec.eq_of_getLsbD_eq fun i hi => ?_
  rw [registeredBitmap_getLsbD _
    (inBitmap_of_sameSlots (c.sameSlots_applyResults results) hbits) hi,
    activeBitmap_getLsbD hindexed hi, hpads, c.registeredAt_applyResults hgood]
  split
  · rfl
  · -- a slot whose index is not among the results is not there at all
    rename_i hnone
    have hpad : c.padAt i = none := by
      rw [← c.padsOf_desired]
      refine padsOf_eq_none.mpr fun d hd hi => hnone ?_
      rw [hresults, List.map_map]
      exact List.mem_map.mpr ⟨d, hd, hi⟩
    have hat : c.slots.atIndex i = none := by
      simpa [padAt] using hpad
    simp [registeredAt, hat, hpad]

theorem alone_arrive (h : s.Alone) (hx : s.net[j]? = some ⟨r, none⟩) :
    (s.step (.arrive j)).Alone := by
  have hsound := h.sound.step (.arrive j)
  have hcount : ∀ p : Exchange → Bool, p ⟨r, some (s.sat.serve r.call).2⟩ = p ⟨r, none⟩ →
      (s.net.set j ⟨r, some (s.sat.serve r.call).2⟩).countP p = s.net.countP p :=
    fun p hp => countP_set hx hp
  simp only [step, hx] at hsound ⊢
  refine ⟨hsound, h.steady, h.inBitmap, fun hlive => ?_, fun hlinking => ?_⟩
  · exact (hcount _ rfl).trans (h.live hlive)
  · obtain ⟨hflag, hone, hput⟩ := h.linking hlinking
    refine ⟨hflag, (hcount _ rfl).trans hone, fun x hmem hisPut => ?_⟩
    rcases List.mem_cons.mp ((perm_set hx _).mem_iff.mp hmem) with rfl | hrest
    · exact hput ⟨r, none⟩ (List.mem_of_getElem? hx) hisPut
    · exact hput x ((perm_eraseIdx hx).mem_iff.mpr (List.mem_cons_of_mem _ hrest)) hisPut

theorem isOvertaken_congr {c' : WifiConnection} (hslots : c'.slots = c.slots) (sat : Satellite)
    (x : Exchange) : x.isOvertaken c' sat = x.isOvertaken c sat := by
  have hbitmap : ∀ results, (c'.applyResults results).1.registeredBitmap =
      (c.applyResults results).1.registeredBitmap := fun results => by
    simp only [registeredBitmap, applyResults, hslots]
  unfold isOvertaken
  split
  · rw [hbitmap]
  · rfl

theorem due_congr {s : Link} (hstate : t.conn.state = s.conn.state) (hsat : t.sat = s.sat)
    (hepoch : t.conn.lastAppliedEpoch = s.conn.lastAppliedEpoch)
    (hslots : t.conn.slots = s.conn.slots)
    (htarget : t.conn.reconcileTarget.isSome = s.conn.reconcileTarget.isSome)
    (hflag : t.reconcileInFlight = s.reconcileInFlight)
    (hold : t.net.any (·.isOutdated s.sat) = s.net.any (·.isOutdated s.sat))
    (hover : t.net.any (·.isOvertaken s.conn s.sat) = s.net.any (·.isOvertaken s.conn s.sat))
    (k left : Nat) : t.due k left = s.due k left := by
  have hagrees : Agrees t.conn s.sat ↔ Agrees s.conn s.sat := by
    simp only [Agrees, hepoch, registeredBitmap, hslots]
  unfold due
  rw [hstate, htarget, hflag, hsat]
  simp only [hagrees, hold, isOvertaken_congr hslots, hover]

/-- The grant of a session PUT of the slots as they are is good when it is given. -/
theorem not_isOvertaken_serve (hbits : c.InBitmap) (sat : Satellite) (intent : ConnectIntent) :
    isOvertaken c (sat.serve (.putSession c.desiredDescriptors c.wantsMouseControl)).1
      ⟨.session intent c.desiredDescriptors c.wantsMouseControl,
        some (sat.serve (.putSession c.desiredDescriptors c.wantsMouseControl)).2⟩ = false := by
  simp only [serve, isOvertaken, Bool.not_eq_false', decide_eq_true_eq, true_and]
  exact activeBitmap_padsOf hbits rfl rfl

theorem pays_arrive (hleft : left ≤ k) (h : s.Alone) (hx : s.net[j]? = some ⟨r, none⟩) :
    s.rounds (.arrive j) + Paced.potential k ⟨s.step (.arrive j), left⟩ ≤
      Paced.potential k ⟨s, left⟩ := by
  have hrounds : s.rounds (.arrive j) = 0 := by
    refine rounds_eq_zero ?_ ?_ <;> simp only [step, hx] <;>
      exact Nat.le_of_eq (countP_set hx rfl)
  by_cases hstate : s.conn.state = .live ∨ s.conn.state = .linking
  · cases hr : r.isGet || r.isPut with
    | false =>
      -- a controller call, a re-key or a release: it pays for what it changes
      refine pays_of_debt hleft hstate ?_ (by omega)
      rw [debt_eraseIdx hx]
      simp only [step, hx, debt]
      rw [debt_set hx]
      simp only [Exchange.debt, hr, Bool.false_eq_true, if_false, Option.isNone_none,
        Option.isNone_some, if_true]
      omega
    | true =>
      have hdebt : (s.step (.arrive j)).debt = s.debt := by
        rw [debt_eraseIdx hx]
        simp only [step, hx, debt]
        rw [debt_set hx]
        simp only [Exchange.debt, hr, if_true]
      rw [hrounds, Nat.zero_add]
      have hdue : (s.step (.arrive j)).due k left ≤ s.due k left := by
        cases r with
        | reconcile id =>
          have hserve : (s.sat.serve (.getSession id)).1 = s.sat := by
            simp only [serve]
            split <;> rfl
          simp only [step, hx, Request.call]
          rw [hserve]
          refine Nat.le_of_eq ?_
          apply due_congr <;> try rfl
          · exact any_set hx (by simp [isOutdated, Request.call])
          · exact any_set hx rfl
        | session =>
          rcases hstate with hlive | hlinking
          · have hone := countP_eraseIdx_pos hx (p := isPut) rfl
            rw [h.live hlive] at hone
            omega
          · obtain ⟨-, hone, hput⟩ := h.linking hlinking
            obtain ⟨intent', hreq⟩ := hput _ (List.mem_of_getElem? hx) rfl
            obtain ⟨rfl, rfl, rfl⟩ := hreq
            have hrest : (s.net.eraseIdx j).countP isPut = 0 := by
              have hcount := countP_eraseIdx_pos hx (p := isPut) rfl
              omega
            have hgood : (s.step (.arrive j)).due k left = 0 := by
              simp only [step, hx, due, hlinking]
              rw [(perm_set hx _).any_eq, List.any_cons, not_isOvertaken_of_noPut hrest]
              simp only [Request.call, not_isOvertaken_serve h.inBitmap, Bool.or_self,
                Bool.false_eq_true, if_false]
            omega
        | _ => cases hr
      exact potential_le (by simp only [step, hx]) hdebt hdue
  · rw [not_or] at hstate
    rw [hrounds, potential_of_down]
    · omega
    · simpa only [step, hx] using hstate.1
    · simpa only [step, hx] using hstate.2

/-! ### Acks and timers -/

theorem alone_mapClient (h : s.Alone) (f : SessionClient → SessionClient) : (s.mapClient f).Alone :=
  ⟨h.sound.mapClient f, h.steady, h.inBitmap, h.live, h.linking⟩

theorem reconcileTarget_mapClient (c : WifiConnection)
    (hepoch : ∀ client, (f client).serverEpoch = client.serverEpoch)
    (hbitmap : ∀ client, (f client).serverBitmap = client.serverBitmap) :
    ({ c with client := c.client.map f } : WifiConnection).reconcileTarget = c.reconcileTarget := by
  unfold reconcileTarget
  cases c.client with
  | none => rfl
  | some client =>
    simp only [Option.map_some, Option.bind_some, hepoch, hbitmap]
    rfl

theorem potential_mapClient (hepoch : ∀ client, (f client).serverEpoch = client.serverEpoch)
    (hbitmap : ∀ client, (f client).serverBitmap = client.serverBitmap) :
    Paced.potential k ⟨s.mapClient f, left⟩ ≤ Paced.potential k ⟨s, left⟩ := by
  have hdue : (s.mapClient f).due k left = s.due k left := by
    apply due_congr <;> try rfl
    exact congrArg Option.isSome (reconcileTarget_mapClient s.conn hepoch hbitmap)
  exact potential_le rfl rfl hdue.le

/-- An ack that is right shows no drift to a connection that is right. -/
theorem reconcileTarget_ack (h : Agrees c sat)
    (hepoch : ∀ client, (f client).serverEpoch = sat.epoch)
    (hbitmap : ∀ client, (f client).serverBitmap = sat.activeBitmap.toNat) :
    ({ c with client := c.client.map f } : WifiConnection).reconcileTarget = none := by
  have hint : BitVec.ofInt 16 (sat.activeBitmap.toNat : Int) = sat.activeBitmap := by
    rw [BitVec.ofInt_natCast, BitVec.ofNat_toNat, BitVec.setWidth_eq]
  have hneeded : reconcileNeeded sat.epoch sat.activeBitmap.toNat c.lastAppliedEpoch
      c.registeredBitmap = false := by
    simp [reconcileNeeded, h.1, h.2, hint]
  unfold reconcileTarget
  cases c.client with
  | none => simp
  | some client =>
    have hneeded' : reconcileNeeded (f client).serverEpoch (f client).serverBitmap
        c.lastAppliedEpoch c.registeredBitmap = false := by
      rw [hepoch, hbitmap]
      exact hneeded
    split
    · rfl
    · cases c.connectionId with
      | none => rfl
      | some connId =>
        exact if_neg (by rw [Bool.not_eq_true]; exact hneeded')

theorem pays_ack (hup : s.sat.up = true) (hepoch : ∀ client, (f client).serverEpoch = s.sat.epoch)
    (hbitmap : ∀ client, (f client).serverBitmap = s.sat.activeBitmap.toNat) :
    Paced.potential k ⟨s.mapClient f, k⟩ ≤ Paced.potential k ⟨s, left⟩ := by
  have hdue : (s.mapClient f).due k k ≤ s.due k left := by
    unfold due
    show (match s.conn.state with
      | .live => _
      | .linking => _
      | _ => _) ≤ _
    split
    · show (if s.net.any (·.isOutdated s.sat) then _ else if s.sat.up = false then _ else
        if Agrees s.conn s.sat then _ else if s.reconcileInFlight then _ else _) ≤ _
      rw [hup]
      simp only [Bool.true_eq_false, if_false]
      split
      · exact Nat.le_refl _
      · split
        · rename_i hright
          have hnone : (s.mapClient f).conn.reconcileTarget = none :=
            reconcileTarget_ack hright hepoch hbitmap
          rw [hnone]
          show (if s.reconcileInFlight = true then 1 else 0) ≤ _
          split <;> split <;> omega
        · exact Nat.le_refl _
    · exact Nat.le_refl _
    · exact Nat.le_refl _
  exact potential_le rfl rfl hdue

theorem Link.due_mono (s : Link) (h : left' ≤ left) :
    s.due k left' ≤ s.due k left := by
  unfold due
  split
  · split
    · exact Nat.le_refl _
    · split
      · exact h
      · split
        · split <;> omega
        · exact Nat.le_refl _
  · exact Nat.le_refl _
  · exact Nat.le_refl _

theorem potential_mono (h : left' ≤ left) :
    Paced.potential k ⟨s, left'⟩ ≤ Paced.potential k ⟨s, left⟩ :=
  potential_le rfl rfl (s.due_mono h)

theorem reconcile_cases (s : Link) :
    s.reconcile = s ∨ ∃ connId, s.conn.reconcileTarget = some connId ∧ s.reconcileInFlight = false ∧
      s.reconcile = { s with net := s.net ++ [⟨.reconcile connId, none⟩], reconcileInFlight := true } := by
  unfold reconcile
  cases ht : s.conn.reconcileTarget with
  | none => exact .inl rfl
  | some connId =>
    dsimp only
    split
    · exact .inl rfl
    · rename_i hflag
      exact .inr ⟨connId, rfl, by simpa using hflag, rfl⟩

/-- A GET is no PUT and owes nothing. -/
theorem reconcile_net (s : Link) :
    s.reconcile.net.countP isGet ≤ s.net.countP isGet + 1 ∧
      s.reconcile.net.countP isPut = s.net.countP isPut ∧ s.reconcile.debt = s.debt := by
  rcases reconcile_cases s with heq | ⟨connId, -, -, heq⟩
  · rw [heq]
    exact ⟨Nat.le_succ _, rfl, rfl⟩
  · rw [heq]
    refine ⟨Nat.le_of_eq List.countP_append, List.countP_append, ?_⟩
    show ((s.net ++ [_]).map Exchange.debt).sum = (s.net.map Exchange.debt).sum
    rw [List.map_append, List.sum_append]
    rfl

theorem reconcile_of_down (h : s.conn.state ≠ .live) : s.reconcile = s := by
  rcases reconcile_cases s with heq | ⟨connId, htarget, -, -⟩
  · exact heq
  · exact absurd (reconcileTarget_spec htarget).1 h

theorem alone_reconcile (h : s.Alone) : s.reconcile.Alone := by
  have hsound := h.sound.reconcile
  have hputs := (reconcile_net s).2.1
  by_cases hlive : s.conn.state = .live
  · rcases reconcile_cases s with heq | ⟨connId, -, -, heq⟩
    · rwa [heq]
    · rw [heq] at hsound hputs ⊢
      exact ⟨hsound, h.steady, h.inBitmap, fun _ => hputs.trans (h.live hlive),
        fun hlinking => nomatch hlive.symm.trans hlinking⟩
  · rwa [reconcile_of_down hlive]

/-- A tick's GET is paid for: by the drift it answers, or, when the drift is only in an
old ack, by the tick. -/
theorem pays_reconcile (hpos : 0 < left) (h : s.Alone) :
    (s.reconcile.net.countP isGet - s.net.countP isGet) +
        (s.reconcile.net.countP isPut - s.net.countP isPut) +
        Paced.potential k ⟨s.reconcile, left - 1⟩ ≤ Paced.potential k ⟨s, left⟩ := by
  obtain ⟨hget, hput, hdebt⟩ := reconcile_net s
  rcases reconcile_cases s with heq | ⟨connId, htarget, hflag, heq⟩
  · rw [heq]
    have := potential_mono (s := s) (k := k) (Nat.sub_le left 1)
    omega
  · have hlive := (reconcileTarget_spec htarget).1
    have hnone := h.sound.gets
    rw [hflag] at hnone
    have hbefore : s.net.any (·.isOutdated s.sat) = false := not_isOutdated_of_noGet hnone
    have hafter : (s.net ++ [(⟨.reconcile connId, none⟩ : Exchange)]).any
        (·.isOutdated s.sat) = false := by
      rw [List.any_append, hbefore]
      simp [isOutdated]
    have hdue : (s.reconcile).due k (left - 1) + 1 ≤ s.due k left := by
      rw [heq]
      unfold due
      simp only [hlive, hbefore, hafter, htarget, hflag, Option.isSome_some, Bool.false_eq_true,
        if_false, if_true]
      split
      · omega
      · split <;> omega
    have hstate : (s.reconcile).conn.state = .live := by
      rw [heq]
      exact hlive
    unfold Paced.potential
    simp only [hstate, hlive, hdebt]
    omega

theorem Link.Alone.withConn (h : s.Alone) (hsound : Link.Sound { s with conn := c })
    (hstate : c.state = s.conn.state) (hslots : c.desiredDescriptors = s.conn.desiredDescriptors)
    (hsame : WifiConnection.SameSlots s.conn c) : Link.Alone { s with conn := c } := by
  refine ⟨hsound, hstate ▸ h.steady, inBitmap_of_sameSlots hsame h.inBitmap,
    fun hlive => h.live (hstate ▸ hlive), fun hlinking => ?_⟩
  obtain ⟨hflag, hone, hput⟩ := h.linking (hstate ▸ hlinking)
  refine ⟨hflag, hone, fun x hx hisPut => ?_⟩
  obtain ⟨intent, hreq⟩ := hput x hx hisPut
  refine ⟨intent, ?_⟩
  rw [hslots, wantsMouseControl_congr hsame]
  exact hreq

theorem desiredDescriptors_applyResults (c : WifiConnection) (results : List ControllerApplyDto) :
    (c.applyResults results).1.desiredDescriptors = c.desiredDescriptors := by
  simp only [desiredDescriptors, applyResults, SlotTable.bindings,
    SlotTable.mapBindings, List.map_map]
  refine List.map_congr_left fun e _ => ?_
  simp only [Function.comp]
  split <;> rfl

/-- The heartbeats are answered, and no re-key is due. -/
def Link.Beats (s : Link) : Prop :=
  ∀ client ∈ s.conn.client, client.missedAcks < kHeartbeatMissNotResponding ∧
    counterNeedsRepush client.sendCounter = false

theorem tick_cases (h : s.Alone) (hquiet : s.Beats) :
    (s.conn.client = none ∧ s.tick = s) ∨
      ((∃ client ∈ s.conn.client, client.alive = false) ∧ s.tick = s.disconnect) ∨
      s.tick = ({ s with conn := { s.conn with rekeyRequested := false } } : Link).reconcile := by
  unfold tick
  cases hclient : s.conn.client with
  | none => exact .inl ⟨rfl, rfl⟩
  | some client =>
    obtain ⟨hmissed, hcount⟩ := hquiet client hclient
    dsimp only
    split
    · rename_i halive
      exact .inr (.inl ⟨⟨client, rfl, by simpa using halive⟩, rfl⟩)
    · refine .inr (.inr ?_)
      have hsteady : s.conn.applySteadyState client = s.conn := by
        unfold applySteadyState
        rw [if_neg (by omega)]
        split
        · rename_i hlive
          rw [← hlive]
        · exact absurd (by assumption) h.steady
        · rfl
      have htarget : ({ s.conn with rekeyRequested := false } : WifiConnection).reconcileTarget =
          s.conn.reconcileTarget := rfl
      rw [hsteady]
      unfold reconcile maybeRequestRekey
      rw [htarget, hcount]
      cases s.conn.reconcileTarget with
      | none => rfl
      | some connId => cases s.reconcileInFlight <;> simp [send]

theorem conn_disconnect (s : Link) : s.disconnect.conn = s.conn.markDisconnected := by
  unfold disconnect
  cases s.conn.connectionId <;> rfl

theorem state_disconnect (s : Link) : s.disconnect.conn.state = .idle := by
  rw [conn_disconnect, state_markDisconnected]

theorem alone_disconnect (h : s.Alone) : s.disconnect.Alone := by
  have hidle := state_disconnect s
  refine ⟨h.sound.disconnect, by simp [hidle], ?_, by simp [hidle], by simp [hidle]⟩
  rw [conn_disconnect]
  exact inBitmap_of_sameSlots s.conn.sameSlots_markDisconnected h.inBitmap

theorem pays_tick (hpos : 0 < left) (h : s.Alone) (hquiet : s.Beats) :
    s.tick.Alone ∧ s.rounds .tick + Paced.potential k ⟨s.tick, left - 1⟩ ≤
      Paced.potential k ⟨s, left⟩ := by
  have hmono := potential_mono (s := s) (k := k) (Nat.sub_le left 1)
  unfold rounds
  simp only [step]
  rcases tick_cases h hquiet with ⟨-, heq⟩ | ⟨-, heq⟩ | heq
  · rw [heq]
    exact ⟨h, by omega⟩
  · rw [heq]
    refine ⟨alone_disconnect h, ?_⟩
    have hidle := state_disconnect s
    have hcount : ∀ p : Exchange → Bool, (∀ connId, p ⟨.release connId, none⟩ = false) →
        s.disconnect.net.countP p = s.net.countP p := by
      intro p hp
      unfold disconnect
      cases s.conn.connectionId with
      | none => rfl
      | some connId => exact List.countP_append.trans (by simp [hp])
    rw [potential_of_down (by simp [hidle]) (by simp [hidle]), hcount _ fun _ => rfl,
      hcount _ fun _ => rfl]
    omega
  · rw [heq]
    have halone : Link.Alone { s with conn := { s.conn with rekeyRequested := false } } :=
      h.withConn (h.sound.sameSession id rfl rfl) rfl rfl fun _ => rfl
    have hdue : due { s with conn := { s.conn with rekeyRequested := false } } k left =
        s.due k left := by
      apply due_congr <;> rfl
    exact ⟨alone_reconcile halone, (pays_reconcile hpos halone).trans (potential_le rfl rfl hdue.le)⟩

/-! ### An answer comes back -/

variable (material : Option Material) (socketOpened : Bool)

/-- The answer of a controller call, a re-key or a release leaves the slots and the state,
and may ask for a GET. -/
theorem onAnswer_cases (h : s.Alone) (hr : (r.isGet || r.isPut) = false)
    (ans : Answer) :
    ∃ c, Link.Alone { s with conn := c } ∧ c.state = s.conn.state ∧
      (s.onAnswer material socketOpened r ans = { s with conn := c } ∨
        s.onAnswer material socketOpened r ans = reconcile { s with conn := c }) := by
  have hself : ∃ c, Link.Alone { s with conn := c } ∧ c.state = s.conn.state ∧
      (s = { s with conn := c } ∨ s = reconcile { s with conn := c }) :=
    ⟨s.conn, h, rfl, .inl rfl⟩
  cases r with
  | session => exact nomatch hr
  | reconcile => exact nomatch hr
  | release => cases ans <;> exact hself
  | rekey =>
    cases ans with
    | session resp =>
      simp only [onAnswer, onRekeyReply]
      split
      · split
        · rename_i current m hclient _
          refine ⟨s.conn.adoptRekey current m resp.epoch,
            h.withConn (h.sound.sameSession id rfl ?_) rfl rfl fun _ => rfl, rfl, .inl rfl⟩
          rw [hclient]
          rfl
        · exact hself
      · exact hself
    | _ => exact hself
  | remove =>
    cases ans with
    | controller resp =>
      simp only [onAnswer, onRemove, applyControllerDelete]
      split
      · exact ⟨s.conn.adoptEpoch resp.epoch,
          h.withConn (h.sound.sameSession id rfl rfl) rfl rfl fun _ => rfl, rfl, .inl rfl⟩
      · exact hself
    | _ => exact hself
  | sync =>
    cases ans with
    | controller resp =>
      simp only [onAnswer, onSync]
      split
      · exact hself
      · rename_i r _
        have hnext : Link.Alone { s with conn := s.conn.applyControllerPut resp r } :=
          h.withConn (h.sound.applyResults _ _) rfl (desiredDescriptors_applyResults _ _)
            ((sameSlots_of_slots rfl).trans (sameSlots_applyResults _ _))
        split
        · exact ⟨_, hnext, rfl, .inr rfl⟩
        · exact ⟨_, hnext, rfl, .inl rfl⟩
    | _ => exact hself

/-- What is left of a link when a controller call, a re-key or a release has ended. -/
theorem Link.Alone.done (h : s.Alone) (hx : s.net[j]? = some x)
    (hr : (x.request.isGet || x.request.isPut) = false) :
    Link.Alone { s with net := s.net.eraseIdx j } := by
  obtain ⟨hget, hput⟩ := Bool.or_eq_false_iff.mp hr
  have hcount := countP_eraseIdx_neg hx (p := isPut) hput
  refine ⟨(h.sound.done hx).2.1 hget, h.steady, h.inBitmap, fun hlive => ?_, fun hlinking => ?_⟩
  · exact hcount.symm.trans (h.live hlive)
  · obtain ⟨hflag, hone, hall⟩ := h.linking hlinking
    refine ⟨hflag, hcount.symm.trans hone, fun y hy => hall y ?_⟩
    exact (perm_eraseIdx hx).mem_iff.mpr (List.mem_cons_of_mem _ hy)

theorem step_controllerReply (hleft : left ≤ k) (h : s.Alone)
    (hx : s.net[j]? = some ⟨r, some ans⟩) (hr : (r.isGet || r.isPut) = false) :
    s.Pays k left (.reply j material socketOpened) := by
  have hdone : Link.Alone { s with net := s.net.eraseIdx j } := h.done hx hr
  have hdebt : debt (s.popped j) + 1 = s.debt := by
    rw [debt_eraseIdx hx, Exchange.debt, hr]
    exact Nat.add_comm _ _
  obtain ⟨hget, hput⟩ := Bool.or_eq_false_iff.mp hr
  have hgets := countP_eraseIdx_neg hx (p := isGet) hget
  have hputs := countP_eraseIdx_neg hx (p := isPut) hput
  obtain ⟨c, hnext, hstate, heq⟩ := onAnswer_cases material socketOpened hdone hr ans
  have hstep : s.step (.reply j material socketOpened) =
      (s.popped j).onAnswer material socketOpened r ans := by
    simp only [step, hx]
  unfold Link.Pays rounds
  rw [hstep]
  by_cases hup : s.conn.state = .live ∨ s.conn.state = .linking
  · rcases heq with heq | heq
    · rw [heq]
      refine ⟨hnext, pays_of_debt hleft hup ?_ ?_⟩
      · exact Nat.le_of_eq hdebt
      · dsimp only
        omega
    · obtain ⟨hget', hput', hdebt'⟩ := reconcile_net { s with net := s.net.eraseIdx j, conn := c }
      rw [heq]
      refine ⟨alone_reconcile hnext, pays_of_debt hleft hup ?_ ?_⟩
      · rw [hdebt']
        exact Nat.le_of_eq hdebt
      · rw [hput', hgets, hputs]
        dsimp only at hget' ⊢
        omega
  · rw [not_or] at hup
    have hrec := reconcile_of_down (s := { s with net := s.net.eraseIdx j, conn := c })
      (hstate ▸ hup.1)
    rw [hrec, or_self] at heq
    rw [heq]
    refine ⟨hnext, ?_⟩
    rw [potential_of_down (hstate ▸ hup.1) (hstate ▸ hup.2)]
    dsimp only
    omega

theorem potential_live (h : s.conn.state = .live) :
    Paced.potential k ⟨s, left⟩ = (k + 6) * s.debt + s.due k left := by
  simp only [Paced.potential, h]

theorem potential_linking (h : s.conn.state = .linking) :
    Paced.potential k ⟨s, left⟩ = (k + 6) * s.debt + s.due k left := by
  simp only [Paced.potential, h]

theorem Link.Alone.viewed (h : s.Alone) {a : Option Answer}
    (hx : s.net[j]? = some ⟨.reconcile id, a⟩) :
    Link.Alone { s with net := s.net.eraseIdx j, reconcileInFlight := false } := by
  have hget := countP_eraseIdx_pos hx (p := isGet) rfl
  have hput := countP_eraseIdx_neg hx (p := isPut) rfl
  refine ⟨(h.sound.done hx).2.2 rfl, h.steady, h.inBitmap, fun hlive => ?_, fun hlinking => ?_⟩
  · exact hput.symm.trans (h.live hlive)
  · have hzero := h.sound.gets
    rw [(h.linking hlinking).1] at hzero
    simp only [Bool.false_eq_true, if_false] at hzero
    omega

/-- The session is started over. -/
def Link.restarted (s : Link) : Link :=
  ({ s with conn := s.conn.markDisconnected.markConnecting } : Link).openSession .retryAfterDeath

theorem countP_restarted (s : Link) :
    s.restarted.net.countP isGet = s.net.countP isGet ∧
      s.restarted.net.countP isPut = s.net.countP isPut + 1 :=
  ⟨List.countP_append, List.countP_append⟩

theorem alone_restarted (h : s.Alone) (hlive : s.conn.state = .live)
    (hflag : s.reconcileInFlight = false) : s.restarted.Alone := by
  have hstate : s.conn.markDisconnected.markConnecting.state = .linking :=
    state_markConnecting (by simp [state_markDisconnected])
  have hslots := s.conn.sameSlots_markDisconnected.trans
    s.conn.markDisconnected.sameSlots_markConnecting
  have hsound : s.restarted.Sound :=
    (h.sound.leave (not_inSession_markConnecting (by simp [state_markDisconnected]))).openSession _
  refine ⟨hsound, ?_, ?_, ?_, fun _ => ⟨hflag, ?_, ?_⟩⟩
  · exact fun hs => nomatch hstate.symm.trans hs
  · exact inBitmap_of_sameSlots hslots h.inBitmap
  · exact fun hs => nomatch hstate.symm.trans hs
  · show (s.net ++ [_]).countP isPut = 1
    rw [List.countP_append, h.live hlive]
    rfl
  · intro x hx hput
    rcases List.mem_append.mp hx with hx | hx
    · exact absurd hput (List.countP_eq_zero.mp (h.live hlive) x hx)
    · obtain rfl := List.mem_singleton.mp hx
      exact ⟨_, rfl⟩

theorem potential_restarted (h : s.Alone) (hlive : s.conn.state = .live) :
    Paced.potential k ⟨s.restarted, left⟩ = (k + 6) * s.debt := by
  have hstate : s.restarted.conn.state = .linking :=
    state_markConnecting (by simp [state_markDisconnected])
  have hnone : s.restarted.net.any (·.isOvertaken s.restarted.conn s.restarted.sat) = false := by
    show (s.net ++ [_]).any _ = false
    rw [List.any_append, not_isOvertaken_of_noPut (h.live hlive)]
    rfl
  have hdue : s.restarted.due k left = 0 := by
    simp only [due, hstate, hnone, Bool.false_eq_true, if_false]
  have hdebt : s.restarted.debt = s.debt := by
    show ((s.net ++ [_]).map Exchange.debt).sum = (s.net.map Exchange.debt).sum
    rw [List.map_append, List.sum_append]
    rfl
  rw [potential_linking hstate, hdue, hdebt, Nat.add_zero]

/-- An answer that is not outdated shows the satellite as it is. -/
theorem view_of_not_outdated
    (hx : s.net[j]? = some ⟨.reconcile s.sat.connectionId, some (.view view)⟩)
    (hold : s.net.any (·.isOutdated s.sat) = false) :
    view.failed = !s.sat.up ∧
      (s.sat.up = true → view.epoch = s.sat.epoch ∧ view.bitmap = s.sat.activeBitmap) := by
  have hnow : (s.sat.serve (.getSession s.sat.connectionId)).2 = .view view := by
    by_contra hne
    refine List.any_eq_false.mp hold _ (List.mem_of_getElem? hx) ?_
    simp [isOutdated, isGet, Request.isGet, Request.call, Ne.symm hne]
  cases hup : s.sat.up with
  | false =>
    simp only [serve, hup, Bool.false_eq_true, false_and, if_false, Answer.view.injEq] at hnow
    subst hnow
    exact ⟨rfl, by simp⟩
  | true =>
    simp only [serve, hup, true_and, if_true, Answer.view.injEq] at hnow
    subst hnow
    refine ⟨rfl, fun _ => ⟨rfl, ?_⟩⟩
    have hactive : (s.sat.pads.map viewController).filter (·.active) =
        s.sat.pads.map viewController := by
      rw [List.filter_eq_self]
      intro v hv
      obtain ⟨d, -, rfl⟩ := List.mem_map.mp hv
      rfl
    simp only [SessionViewDto.bitmap, hactive, List.foldl_map]
    rfl

theorem Link.Sound.flag_of_get (h : s.Sound) {a : Option Answer}
    (hx : s.net[j]? = some ⟨.reconcile id, a⟩) : s.reconcileInFlight = true := by
  have hget := countP_eraseIdx_pos hx (p := isGet) rfl
  have hgets := h.gets
  cases hf : s.reconcileInFlight with
  | true => rfl
  | false =>
    rw [hf] at hgets
    simp only [Bool.false_eq_true, if_false] at hgets
    omega

theorem due_outdated (hlive : s.conn.state = .live)
    (hold : s.net.any (·.isOutdated s.sat) = true) : s.due k left = k + 5 := by
  simp only [due, hlive, hold, if_true]

/-- An answer that is outdated pays for whatever it leads to. -/
theorem due_viewed (hleft : left ≤ k) (h : s.Alone) (hlive : s.conn.state = .live)
    {a : Option Answer} (hx : s.net[j]? = some ⟨.reconcile id, a⟩) (hnet : t.net = s.net.eraseIdx j)
    (hcurrent : s.net.any (·.isOutdated s.sat) = false → t.net.any (·.isOutdated t.sat) = false →
      t.due k left ≤ s.due k left) : t.due k left ≤ s.due k left := by
  have hnoGet : t.net.countP isGet = 0 := by
    rw [hnet]
    exact (h.viewed hx).sound.gets
  cases hold : s.net.any (·.isOutdated s.sat) with
  | true =>
    rw [due_outdated hlive hold]
    exact Nat.le_succ_of_le (due_le_of_noGet hleft hnoGet)
  | false => exact hcurrent hold (not_isOutdated_of_noGet hnoGet)

section
variable (hleft : left ≤ k) (h : s.Alone) (hlive : s.conn.state = .live)
    (hx : s.net[j]? = some ⟨.reconcile s.sat.connectionId, some (.view view)⟩)
include hleft h hlive hx

theorem due_benign (hfine : view.failed = false) (hagrees : s.conn.registeredBitmap = view.bitmap) :
    due { s with
      conn := s.conn.adoptEpoch view.epoch
      net := s.net.eraseIdx j
      reconcileInFlight := false } k left ≤ s.due k left := by
  refine due_viewed hleft h hlive hx rfl fun hold hnone => ?_
  obtain ⟨hfailed, hshown⟩ := view_of_not_outdated hx hold
  have hup : s.sat.up = true := by simpa [hfine] using hfailed
  have hflag := h.sound.flag_of_get hx
  obtain ⟨hepoch, hbitmap⟩ := hshown hup
  have hright : Agrees (s.conn.adoptEpoch view.epoch) s.sat := ⟨hepoch, hagrees.trans hbitmap⟩
  have hlive' : (s.conn.adoptEpoch view.epoch).state = .live := hlive
  by_cases hwas : Agrees s.conn s.sat
  · have hsame : s.conn.adoptEpoch view.epoch = s.conn := by
      unfold adoptEpoch
      rw [hepoch, ← hwas.1]
    simp only [due, hsame, hlive, hnone, hold, hup, hwas, hflag, Bool.false_eq_true,
      Bool.true_eq_false, if_false, if_true]
    split <;> omega
  · simp only [due, hlive', hlive, hnone, hold, hup, hright, hwas, hflag, Bool.false_eq_true,
      Bool.true_eq_false, if_false, if_true]
    split <;> omega

theorem due_failed (hfailed : view.failed = true) :
    due { s with net := s.net.eraseIdx j, reconcileInFlight := false } k left ≤ s.due k left := by
  refine due_viewed hleft h hlive hx rfl fun hold hnone => ?_
  have hup : s.sat.up = false := by simpa [hfailed] using (view_of_not_outdated hx hold).1
  simp only [due, hlive, hnone, hold, hup, Bool.false_eq_true, if_false, if_true, Nat.le_refl]

end

/-- Any other answer leaves a live session with something to pay a PUT with. -/
theorem due_pos (h : s.Alone) (hlive : s.conn.state = .live)
    (hx : s.net[j]? = some ⟨.reconcile s.sat.connectionId, some (.view view)⟩)
    (hfine : view.failed = false) : 0 < s.due k left := by
  have hflag := h.sound.flag_of_get hx
  cases hold : s.net.any (·.isOutdated s.sat) with
  | true => simp [due, hlive, hold]
  | false =>
    have hup : s.sat.up = true := by simpa [hfine] using (view_of_not_outdated hx hold).1
    simp only [due, hlive, hold, hup, hflag, Bool.false_eq_true, Bool.true_eq_false, if_false,
      if_true]
    split
    · split <;> omega
    · omega

theorem step_viewReply (hleft : left ≤ k) (h : s.Alone)
    (hx : s.net[j]? = some ⟨.reconcile id, some (.view view)⟩)
    (hagrees : s.conn.state = .live → view.failed = false → s.conn.viewIsBenign view = true →
      s.conn.registeredBitmap = view.bitmap) :
    s.Pays k left (.reply j material socketOpened) := by
  obtain rfl : id = s.sat.connectionId := (h.sound.typed _ (List.mem_of_getElem? hx)).1
  have hviewed := h.viewed hx
  have hget := countP_eraseIdx_pos hx (p := isGet) rfl
  have hput := countP_eraseIdx_neg hx (p := isPut) rfl
  have hdebt : debt { s with net := s.net.eraseIdx j, reconcileInFlight := false } = s.debt := by
    rw [debt_eraseIdx hx]
    exact (Nat.zero_add _).symm
  have hgets : (s.net.eraseIdx j).countP isGet - s.net.countP isGet = 0 := by omega
  have hputs : (s.net.eraseIdx j).countP isPut - s.net.countP isPut = 0 := by omega
  unfold Link.Pays rounds
  simp only [step, hx, onAnswer, onView]
  by_cases hlive : s.conn.state = .live
  · rw [if_neg (by simp [hlive])]
    cases hfine : view.failed with
    | true =>
      have hdue := due_failed hleft h hlive hx hfine
      simp only [if_true, hgets, hputs, Nat.zero_add]
      exact ⟨hviewed, potential_le rfl hdebt hdue⟩
    | false =>
      simp only [Bool.false_eq_true, if_false]
      split
      · rename_i hbenign
        have hdue := due_benign hleft h hlive hx hfine (hagrees hlive hfine hbenign)
        simp only [hgets, hputs, Nat.zero_add]
        exact ⟨hviewed.withConn (hviewed.sound.sameSession (fun hin => hin) rfl rfl) rfl rfl
          fun _ => rfl, potential_le rfl hdebt hdue⟩
      · have hpos : 0 < s.due k left := due_pos h hlive hx hfine
        refine ⟨alone_restarted hviewed hlive rfl, ?_⟩
        have hrest : Paced.potential k ⟨restarted _, left⟩ = _ :=
          potential_restarted hviewed hlive
        obtain ⟨hget', hput'⟩ := countP_restarted
          { s with net := s.net.eraseIdx j, reconcileInFlight := false }
        rw [hdebt] at hrest
        unfold restarted at hrest hget' hput'
        rw [hrest, potential_live hlive, hget', hput']
        dsimp only at hget hput ⊢
        omega
  · rw [if_pos hlive]
    simp only [hgets, hputs]
    refine ⟨hviewed, ?_⟩
    have hlinking : s.conn.state ≠ .linking := by
      intro hs
      cases (h.linking hs).1.symm.trans (h.sound.flag_of_get hx)
    rw [potential_of_down (by exact hlive) (by exact hlinking)]
    omega

theorem convergeLateSlots_self {cid : String} (hbits : c.InBitmap) (hlive : c.state = .live)
    (hcid : c.connectionId = some cid) :
    c.convergeLateSlots (descriptorsToDesired c.desiredDescriptors) = [] := by
  have hw := (sendable_desired hbits).wireIndexed
  rw [List.eq_nil_iff_forall_not_mem]
  intro call hcall
  rcases (mem_convergeLateSlots hlive hcid).mp hcall with ⟨u, -, rfl⟩ | ⟨u, -, d, -, rfl⟩
  · obtain ⟨⟨d, hd, hidx⟩, hnone⟩ := (delete_mem_converge hlive hcid hw hw).mp hcall
    exact hnone d hd hidx
  · obtain ⟨hd, hother⟩ :=
      (put_mem_converge hlive hcid (onePerIndex_desired c) hw hw).mp hcall
    exact hother d hd rfl rfl

/-- The session a PUT of the slots as they are starts. -/
theorem step_started (hleft : left ≤ k) (h : s.Alone)
    (hlinking : s.conn.state = .linking) {intent : ConnectIntent}
    {resp : SessionResponse}
    (hx : s.net[j]? = some ⟨.session intent s.conn.desiredDescriptors mouse, some (.session resp)⟩)
    (hgrants : Grants s.sat.connectionId s.conn.desiredDescriptors mouse resp)
    (client : SessionClient) (hfresh : client.serverEpoch = -1)
    (ht : t = { s with
      conn := s.conn.startSession client s.sat.connectionId resp
      net := s.net.eraseIdx j
      clients := s.clients + 1 })
    (hsound : t.Sound) :
    t.Alone ∧ Paced.potential k ⟨t, left⟩ ≤ Paced.potential k ⟨s, left⟩ := by
  obtain ⟨hslots, hlive, hcid, -, -⟩ := startSession_spec hlinking hgrants client
  obtain ⟨hflag, hone, -⟩ := h.linking hlinking
  have hputs := countP_eraseIdx_pos hx (p := isPut) rfl
  have hnoGet : (s.net.eraseIdx j).countP isGet = 0 := by
    have hgets := h.sound.gets
    rw [hflag, countP_eraseIdx_neg hx rfl] at hgets
    exact hgets
  have hstate : t.conn.state = .live := by rw [ht]; exact hlive
  refine ⟨⟨hsound, by simp [hstate], ?_, fun _ => ?_, by simp [hstate]⟩, ?_⟩
  · rw [ht]
    exact inBitmap_of_sameSlots hslots h.inBitmap
  · rw [ht]
    show (s.net.eraseIdx j).countP isPut = 0
    omega
  · have hdebt : t.debt = s.debt := by
      rw [debt_eraseIdx hx, ht]
      exact (Nat.zero_add _).symm
    have hdue : t.due k left ≤ s.due k left := by
      cases hover : s.net.any (·.isOvertaken s.conn s.sat) with
      | true =>
        have hbefore : s.due k left = k + 4 := by simp only [due, hlinking, hover, if_true]
        have hafter : t.due k left ≤ k + 4 := by
          rw [ht]
          exact due_le_of_noGet hleft hnoGet
        omega
      | false =>
        have hx' := List.any_eq_false.mp hover _ (List.mem_of_getElem? hx)
        simp only [isOvertaken, Bool.not_eq_true', decide_eq_false_iff_not, not_not] at hx'
        obtain ⟨hup, hepoch, hbitmap⟩ := hx'
        have hconn : t.conn = (({ s.conn with
            client := some client
            connectionId := some s.sat.connectionId
            lastAppliedEpoch := resp.epoch
            mouseControlGranted := resp.mouseGranted
            state := .live
            rekeyRequested := false } : WifiConnection).applyResults resp.controllers).1 := by
          rw [ht]
          simp [startSession, markConnected, hlinking]
        have hright : Agrees t.conn t.sat := by
          rw [hconn, ht]
          exact ⟨hepoch, hbitmap⟩
        have htarget : t.conn.reconcileTarget = none := by
          rw [hconn]
          simp [reconcileTarget, applyResults, reconcileNeeded, hfresh]
        have hnone : t.net.any (·.isOutdated t.sat) = false := by
          rw [ht]
          exact not_isOutdated_of_noGet hnoGet
        have hzero : t.due k left = 0 := by
          have hup' : t.sat.up = true := by rw [ht]; exact hup
          have hflag' : t.reconcileInFlight = false := by rw [ht]; exact hflag
          simp [due, hstate, hnone, hup', hright, htarget, hflag']
        omega
    rw [potential_live hstate, potential_linking hlinking, hdebt]
    omega

theorem step_givenBack (h : s.Alone) (hx : s.net[j]? = some x) {connId : String}
    (hstep : s.step a = send { s with conn := c, net := s.net.eraseIdx j } (.release connId))
    (hslots : WifiConnection.SameSlots s.conn c) (hstate : c.state = .idle ∨ c.state = .stale) :
    s.Pays k left a := by
  have hsound := h.sound.step a
  have hout : ∀ state, state ≠ .idle → state ≠ .stale → c.state ≠ state := by
    rintro state hidle hstale rfl
    exact hstate.elim hidle hstale
  have hrounds : s.rounds a = 0 := by
    have hle : ∀ p : Exchange → Bool, p ⟨.release connId, none⟩ = false →
        (s.step a).net.countP p ≤ s.net.countP p := by
      intro p hp
      have hrest := (List.sublist_cons_self x (s.net.eraseIdx j)).countP_le (p := p)
      have hnone : [(⟨.release connId, none⟩ : Exchange)].countP p = 0 := by simp [hp]
      rw [hstep]
      show (s.net.eraseIdx j ++ [(⟨.release connId, none⟩ : Exchange)]).countP p ≤ _
      rw [List.countP_append, hnone, (perm_eraseIdx hx).countP_eq p]
      exact hrest
    exact rounds_eq_zero (hle _ rfl) (hle _ rfl)
  unfold Link.Pays
  rw [hstep] at hsound ⊢
  refine ⟨⟨hsound, hout _ (by decide) (by decide), inBitmap_of_sameSlots hslots h.inBitmap,
    fun hs => absurd hs (hout _ (by decide) (by decide)),
    fun hs => absurd hs (hout _ (by decide) (by decide))⟩, ?_⟩
  rw [potential_of_down (hout _ (by decide) (by decide)) (hout _ (by decide) (by decide))]
  omega

theorem step_sessionReply (hleft : left ≤ k) (h : s.Alone) {intent : ConnectIntent}
    {sent : List ControllerDescriptor}
    (hx : s.net[j]? = some ⟨.session intent sent mouse, some ans⟩) :
    s.Pays k left (.reply j material socketOpened) := by
  obtain ⟨resp, rfl, hgrants⟩ := h.sound.typed _ (List.mem_of_getElem? hx) _ rfl
  have hputs := countP_eraseIdx_pos hx (p := isPut) rfl
  have hgets := countP_eraseIdx_neg hx (p := isGet) rfl
  have hstep : s.step (.reply j material socketOpened) =
      (s.popped j).onSessionReply sent resp material socketOpened := by
    simp only [step, hx, onAnswer]
  have hback : (s.popped j).onSessionReply sent resp material
        socketOpened = send { s with
          conn := s.conn.markDisconnected, net := s.net.eraseIdx j } (.release s.sat.connectionId) →
      s.Pays k left (.reply j material socketOpened) := fun heq =>
    step_givenBack h hx (hstep.trans heq) s.conn.sameSlots_markDisconnected
      (.inl (state_markDisconnected s.conn))
  by_cases hlinking : s.conn.state = .linking
  · unfold onSessionReply at hback
    simp only [hgrants.connectionId, hlinking, ne_eq, not_true_eq_false, if_false] at hback
    cases material with
    | none => exact hback rfl
    | some m =>
      cases socketOpened with
      | false => exact hback rfl
      | true =>
        obtain ⟨-, -, hput⟩ := h.linking hlinking
        obtain ⟨intent', hreq⟩ := hput _ (List.mem_of_getElem? hx) rfl
        obtain ⟨rfl, rfl, rfl⟩ := hreq
        have hsound := h.sound.step (.reply j (some m) true)
        obtain ⟨hslots, hlive, hcid, -, -⟩ :=
          startSession_spec hlinking hgrants ⟨s.clients, m, 0, true, -1, -1, -1, 1⟩
        have hdesired : s.conn.desiredDescriptors = (s.conn.startSession
            ⟨s.clients, m, 0, true, -1, -1, -1, 1⟩ s.sat.connectionId resp).desiredDescriptors := by
          unfold startSession
          rw [desiredDescriptors_applyResults]
          simp [markConnected, hlinking, desiredDescriptors]
        have hconv := convergeLateSlots_self (inBitmap_of_sameSlots hslots h.inBitmap) hlive hcid
        have heq : s.step (.reply j (some m) true) = { s with
            conn := s.conn.startSession ⟨s.clients, m, 0, true, -1, -1, -1, 1⟩
              s.sat.connectionId resp
            net := s.net.eraseIdx j
            clients := s.clients + 1 } := by
          rw [hstep]
          unfold onSessionReply
          simp only [hgrants.connectionId, hlinking, ne_eq, not_true_eq_false, if_false, if_true]
          rw [hdesired, hconv]
          simp [sendControllers]
        obtain ⟨halone, hpays⟩ := step_started hleft h hlinking hx hgrants
          ⟨s.clients, m, 0, true, -1, -1, -1, 1⟩ rfl heq hsound
        refine ⟨halone, ?_⟩
        have hrounds : s.rounds (.reply j (some m) true) = 0 := by
          refine rounds_eq_zero ?_ ?_ <;> rw [heq] <;> dsimp only <;> omega
        omega
  · have hlive : s.conn.state ≠ .live := by
      intro hs
      have := h.live hs
      omega
    have hsent : s.step (.reply j material socketOpened) = send { s with
        conn := s.conn, net := s.net.eraseIdx j } (.release s.sat.connectionId) := by
      rw [hstep]
      unfold onSessionReply
      simp [hgrants.connectionId, hlinking]
    refine step_givenBack h hx hsent (fun _ => rfl) ?_
    · have hsteady := h.steady
      cases hs : s.conn.state <;> simp_all

/-! ### Runs -/

theorem step_alone {p : Paced} (h : p.link.Alone) (hleft : p.left ≤ k) (hquiet : p.Quiet a)
    (hbenign : p.BenignAgrees a) :
    (p.link.step a).Alone ∧ p.link.rounds a + (p.step k a).potential k ≤ p.potential k := by
  obtain ⟨s, left⟩ := p
  have hnothing : s.step a = s → s.Pays k left a := by
    intro heq
    rw [Link.Pays, rounds, heq]
    exact ⟨h, by omega⟩
  cases a with
  | attach | detach | connect | disconnect | markStale | lose =>
    exact hquiet.elim
  | arrive j =>
    rcases hx : s.net[j]? with _ | ⟨r, _ | ans⟩
    · exact hnothing (by simp only [step, hx])
    · exact ⟨alone_arrive h hx, pays_arrive hleft h hx⟩
    · exact hnothing (by simp only [step, hx])
  | reply j material socketOpened =>
    rcases hx : s.net[j]? with _ | ⟨r, _ | ans⟩
    · exact hnothing (by simp only [step, hx])
    · exact hnothing (by simp only [step, hx])
    · cases hr : r.isGet || r.isPut with
      | false => exact step_controllerReply material socketOpened hleft h hx hr
      | true =>
        cases r with
        | session => exact step_sessionReply material socketOpened hleft h hx
        | reconcile =>
          obtain ⟨view, rfl⟩ := (h.sound.typed _ (List.mem_of_getElem? hx)).2 _ rfl
          simp only [Paced.BenignAgrees, hx] at hbenign
          exact step_viewReply material socketOpened hleft h hx hbenign
        | _ => cases hr
  | ack =>
    obtain ⟨hup, hepoch, hbitmap⟩ := hquiet
    refine ⟨alone_mapClient h _, ?_⟩
    rw [rounds_eq_zero (Nat.le_refl _) (Nat.le_refl _), Nat.zero_add]
    exact pays_ack hup (fun _ => hepoch) fun _ => congrArg Nat.cast hbitmap
  | miss | count =>
    refine ⟨alone_mapClient h _, ?_⟩
    rw [rounds_eq_zero (Nat.le_refl _) (Nat.le_refl _), Nat.zero_add]
    exact potential_mapClient (fun _ => rfl) fun _ => rfl
  | tick => exact pays_tick hquiet.1 h hquiet.2

theorem left_step {p : Paced} (h : p.left ≤ k) (a : LinkAction) : (p.step k a).left ≤ k := by
  unfold Paced.step
  cases a <;> dsimp only <;> omega

theorem rounds_tick (h : s.Alone) (hquiet : s.Beats)
    (hclient : ∃ client ∈ s.conn.client, client.alive = true)
    (htarget : s.conn.reconcileTarget.isSome = true) (hflag : s.reconcileInFlight = false) :
    s.rounds .tick = 1 := by
  obtain ⟨client, hmem, halive⟩ := hclient
  obtain ⟨connId, htarget⟩ := Option.isSome_iff_exists.mp htarget
  rcases tick_cases h hquiet with ⟨hnone, -⟩ | ⟨⟨client', hmem', hdead⟩, -⟩ | heq
  · exact nomatch hnone.symm.trans hmem
  · obtain rfl := Option.some.inj (hmem.symm.trans hmem')
    exact nomatch halive.symm.trans hdead
  · have htarget' : ({ s.conn with rekeyRequested := false } : WifiConnection).reconcileTarget =
        some connId := htarget
    have hrec : reconcile { s with conn := { s.conn with rekeyRequested := false } } =
        { s with
          conn := { s.conn with rekeyRequested := false }
          net := s.net ++ [⟨.reconcile connId, none⟩]
          reconcileInFlight := true } := by
      unfold reconcile
      rw [htarget']
      simp only [hflag, Bool.false_eq_true, if_false]
      rfl
    unfold rounds
    simp only [step]
    rw [heq, hrec]
    rw [List.countP_append, List.countP_append, Nat.add_sub_cancel_left, Nat.add_sub_cancel_left]
    rfl

/--
**The self-heal loop stops.**  From any live session, however it came about, a link that
is left alone sends a bounded number of session GETs and PUTs, whatever the order in
which requests and answers travel.  A tick that still finds the last ack in disagreement
while no GET is out is one of those rounds.
-/
theorem selfHeal_stops (server : DiscoveredServer) (sat : Satellite) (history : List LinkAction)
    (s : Link) (hs : s = run step (.fresh server sat) history)
    (hlive : s.conn.state = .live) (hput : s.net.countP isPut = 0)
    (hbits : s.conn.InBitmap) (k : Nat) :
    ∃ bound, ∀ acts, Along (Paced.step k) (fun p a => p.Quiet a ∧ p.BenignAgrees a) ⟨s, k⟩ acts →
      cost (Paced.step k) (fun p a => p.link.rounds a) ⟨s, k⟩ acts ≤ bound ∧
        ∀ p, p = run (Paced.step k) ⟨s, k⟩ acts → p.Quiet .tick →
          (∃ client ∈ p.link.conn.client, client.alive = true) →
          p.link.conn.reconcileTarget.isSome = true → p.link.reconcileInFlight = false →
          p.link.rounds .tick = 1 := by
  have hsound : s.Sound := by
    rw [hs]
    exact run_inv (fun _ a h => h.step a) (.fresh server sat) history
  have halone : s.Alone :=
    ⟨hsound, by simp [hlive], hbits, fun _ => hput, fun hlinking => nomatch hlive.symm.trans hlinking⟩
  refine ⟨Paced.potential k ⟨s, k⟩, fun acts hok => ⟨?_, fun p hp hquiet hclient htarget hflag => ?_⟩⟩
  · refine cost_le (I := fun p : Paced => p.link.Alone ∧ p.left ≤ k) ?_ ?_
      ⟨halone, Nat.le_refl k⟩ hok
    · exact fun p a ⟨h, hleft⟩ ⟨hq, hb⟩ => ⟨(step_alone h hleft hq hb).1, left_step hleft a⟩
    · exact fun p a ⟨h, hleft⟩ ⟨hq, hb⟩ => (step_alone h hleft hq hb).2
  · have hreached : p.link.Alone := by
      rw [hp]
      exact (run_keeps (I := fun p : Paced => p.link.Alone ∧ p.left ≤ k)
        (fun p a ⟨h, hleft⟩ ⟨hq, hb⟩ => ⟨(step_alone h hleft hq hb).1, left_step hleft a⟩)
        ⟨halone, Nat.le_refl k⟩ hok).1
    exact rounds_tick hreached hquiet.2 hclient htarget hflag

/-! ### What the condition is for -/

instance (p : Paced) : (a : LinkAction) → Decidable (p.Quiet a)
  | .arrive _ | .reply _ _ _ | .miss => inferInstanceAs (Decidable True)
  | .ack _ _ => inferInstanceAs (Decidable (_ ∧ _ ∧ _))
  | .count _ => inferInstanceAs (Decidable (_ = false))
  | .tick => inferInstanceAs (Decidable (_ ∧ ∀ client ∈ _, _ ∧ _))
  | .attach _ _ | .detach _ | .connect _ | .disconnect | .markStale | .lose _ =>
    inferInstanceAs (Decidable False)

instance (p : Paced) : (a : LinkAction) → Decidable (p.BenignAgrees a)
  | .reply _ _ _ => by
    dsimp only [Paced.BenignAgrees]
    split <;> infer_instance
  | .attach _ _ | .detach _ | .connect _ | .disconnect | .markStale | .arrive _ | .lose _
  | .ack _ _ | .miss | .count _ | .tick => inferInstanceAs (Decidable True)

theorem inBitmap_of_bindings (h : ∀ b ∈ c.slots.bindings, b.controllerIndex < kMaxControllers) :
    c.InBitmap := by
  intro i hi
  obtain ⟨d, hd⟩ := Option.isSome_iff_exists.mp hi
  obtain ⟨hmem, hidx⟩ := c.padAt_eq_some.mp hd
  obtain ⟨b, hb, rfl⟩ := List.mem_map.mp hmem
  exact hidx ▸ h b hb

/-- A controller DELETE that was applied, and whose answer was lost. -/
def removeLost : List LinkAction :=
  [.attach "pad" { controllerType := 1 }] ++ linked ++ [.detach "pad", .arrive 0, .lose 0]

/-- The theorem where only the epoch has drifted, and a round that heals it. -/
theorem lost_delete_heals :
    Along (Paced.step 2) (fun p a => p.Quiet a ∧ p.BenignAgrees a)
        ⟨run step .sample removeLost, 2⟩
        [.ack 2 0, .tick, .arrive 0, .reply 0 none false, .tick, .ack 2 0, .tick] ∧
      ∃ bound, ∀ acts, Along (Paced.step 2) (fun p a => p.Quiet a ∧ p.BenignAgrees a)
          ⟨run step .sample removeLost, 2⟩ acts →
        cost (Paced.step 2) (fun p a => p.link.rounds a)
            ⟨run step .sample removeLost, 2⟩ acts ≤ bound ∧
          ∀ p, p = run (Paced.step 2) ⟨run step .sample removeLost, 2⟩ acts →
            p.Quiet .tick → (∃ client ∈ p.link.conn.client, client.alive = true) →
            p.link.conn.reconcileTarget.isSome = true → p.link.reconcileInFlight = false →
            p.link.rounds .tick = 1 :=
  ⟨by decide +kernel, selfHeal_stops _ _ removeLost _ rfl (by decide +kernel) (by decide +kernel)
    (inBitmap_of_bindings (by decide +kernel)) 2⟩

/-- A controller PUT that was applied and whose answer was lost, after the first GET. -/
def answerLost : List LinkAction :=
  linked ++ [.attach "pad" { controllerType := 1 }, .arrive 0, .lose 0, .ack 2 1, .tick, .arrive 0,
    .reply 0 none false]

/--
The slot whose answer was lost is never marked registered again: every view is what the
slots want, so only the epoch is taken over, and every ack shows the pad that the
connection has no mark for.  Each round comes back to the state it started from.
-/
theorem drift_never_heals :
    ∃ s : Link, s = run step .sample answerLost ∧ s.conn.state = .live ∧ s.net = [] ∧
      s.conn.InBitmap ∧ ∀ n, ∃ acts, Along (Paced.step 1) Paced.Quiet ⟨s, 1⟩ acts ∧
        n ≤ cost (Paced.step 1) (fun p a => p.link.rounds a) ⟨s, 1⟩ acts := by
  refine ⟨_, rfl, by decide +kernel, by decide +kernel, inBitmap_of_bindings (by decide +kernel), ?_⟩
  exact cost_unbounded [.tick, .arrive 0, .reply 0 none false, .ack 2 1]
    (by decide +kernel) rfl (by decide +kernel)

end Dish
