/-
The desired topology reaches the satellite.

`LinkInv` is kept by every step that meets `LinkOk`, and in a quiescent state nothing is
on its way any more, so that the bitmap settles the matter: a slot is marked exactly
when its pad is held, and the pad is the slot's.

What `LinkOk` leaves out are the changes nothing covers: a slot changed while the session
is faltering, a controller PUT that is lost or overtaken, a change of capabilities or
mode while the session PUT is out, and a mouse grant nothing asks to be looked at again.
The runs at the end reach a quiescent state that way.
-/
import Dish.Proofs.LinkInv

namespace Dish

open Steps WifiConnection Link

/-! ### What each step may do -/

def Request.isRekey : Request → Bool
  | .rekey .. => true
  | _ => false

/-- The descriptor of a controller PUT. -/
def Request.pad : Request → Option ControllerDescriptor
  | .sync _ d => some d
  | _ => none

/-- The index of a controller DELETE. -/
def Request.removes : Request → Option Nat
  | .remove _ i => some i
  | _ => none

def Request.isGet : Request → Bool
  | .reconcile _ => true
  | _ => false

/-- Somebody will look at the mouse grant again, or it is right. -/
def MouseCovered (c : WifiConnection) (net : List Exchange) : Prop :=
  c.wantsMouseControl = c.mouseControlGranted ∨
    ∃ x ∈ net, x.request.pad.isSome ∨ x.request.isGet = true

/-- No session PUT is out. -/
def NoSessionPut (net : List Exchange) : Prop := ∀ x ∈ net, x.request.isSessionPut = false

/-- The slots may change: no re-key that listed them is still on its way. -/
def SlotsFree (s : Link) : Prop :=
  s.conn.InSession → ∀ x ∈ s.net, x.answer = none → x.request.isRekey = false

/-- A pad the connection has taken note of, or that an ack will show. -/
def Visible (s : Link) (net : List Exchange) (i : Nat) : Prop :=
  s.conn.registeredAt i = true ∨ ((s.sat.holds i).isSome ∧
    ∀ x ∈ net, x.answer = none → x.request.removes ≠ some i)

/-- A granted session starts with nothing left behind. -/
structure StartOk (c : WifiConnection) (sent : List ControllerDescriptor) (mouse : Bool) : Prop where
  late : LateOk c sent
  mouse : c.wantsMouseControl = mouse ∨
    ∃ d ∈ c.desiredDescriptors, ∀ e ∈ sent, e.ctrlIdx = d.ctrlIdx → e.type ≠ d.type

/-- The session GET does not leave a wrong mouse grant behind, nor start a second PUT. -/
structure ViewOk (s : Link) (net : List Exchange) (view : SessionViewDto) : Prop where
  put : s.conn.state = .live → view.failed = false → s.conn.viewIsBenign view = false →
    NoSessionPut net
  mouse : s.conn.InSession → MouseCovered s.conn net ∨
    (s.conn.state = .live ∧ view.failed = false ∧ view.mouseGranted = s.conn.mouseControlGranted)

/-- The answer to a controller PUT does not leave a wrong mouse grant behind. -/
def SyncOk (s : Link) (net : List Exchange) (resp : ControllerPutResponse) : Prop :=
  s.conn.InSession → MouseCovered s.conn net ∨
    ∃ r ∈ resp.controller, (s.conn.applyControllerPut resp r).reconcileTarget.isSome

/--
The steps none of which loses a slot.

Slots change while the session answers or while there is none, not while a re-key that
listed them or a controller PUT of the same index is on its way, and never more than
the satellite has room for.  One session PUT is out at a time.  A session starts with
the slots that were sent, or with changes its converge sees.  No controller PUT of a
slot that is still there is lost, nor is its confirmation while only that would tell.
Whoever leaves a mouse grant that is not the wanted one has it looked at again.
-/
def LinkOk (s : Link) : LinkAction → Prop
  | .attach slotId shape => s.conn.attachChanges slotId shape = true →
      s.conn.state ≠ .faltering ∧ s.conn.indexFor slotId < kMaxControllers ∧ SlotsFree s ∧
      ∀ x ∈ s.net, x.answer = none → ∀ d ∈ x.request.pad, d.ctrlIdx ≠ s.conn.indexFor slotId
  | .detach slotId => SlotsFree s ∧
      (s.conn.InSession → MouseCovered (s.conn.detachSlot slotId).1 s.net)
  | .connect _ => s.conn.state ≠ .live → s.conn.state ≠ .linking → NoSessionPut s.net
  | .arrive k =>
    match s.net[k]? with
    | some ⟨.rekey .., none⟩ => s.sat.up ∨
        ∀ x ∈ s.net, x.answer = none → ∀ i ∈ x.request.removes, s.conn.padAt i = none
    | _ => True
  | .reply k material socketOpened =>
    match s.net[k]? with
    | some ⟨.session _ sent mouse, some _⟩ =>
      s.conn.state = .linking → material.isSome → socketOpened = true → StartOk s.conn sent mouse
    | some ⟨.reconcile _, some (.view view)⟩ => ViewOk s (s.net.eraseIdx k) view
    | some ⟨.sync _ _, some (.controller resp)⟩ => SyncOk s (s.net.eraseIdx k) resp
    | _ => True
  | .lose k =>
    match s.net[k]? with
    | some ⟨.sync _ d, answer⟩ =>
      s.conn.InSession → MouseCovered s.conn (s.net.eraseIdx k) ∧
        (s.sat.up → (s.conn.padAt d.ctrlIdx).isSome →
          answer.isSome ∧ Visible s (s.net.eraseIdx k) d.ctrlIdx)
    | some ⟨.reconcile _, _⟩ => s.conn.InSession → MouseCovered s.conn (s.net.eraseIdx k)
    | _ => True
  | .tick => ∀ client ∈ s.conn.client, client.alive = true →
      client.missedAcks < kHeartbeatMissNotResponding → s.conn.InSession →
      (s.conn.maybeRequestRekey client).2 = true →
      NoSessionPut s.net ∧ s.conn.wantsMouseControl = s.conn.mouseControlGranted
  | _ => True

section
variable (s : Link) (net : List Exchange)

instance (c : WifiConnection) : Decidable (MouseCovered c net) :=
  inferInstanceAs (Decidable (_ ∨ _))

instance : Decidable (NoSessionPut net) :=
  inferInstanceAs (Decidable (∀ x ∈ net, x.request.isSessionPut = false))

instance : Decidable (SlotsFree s) := inferInstanceAs (Decidable (_ → _))

instance (i : Nat) : Decidable (Visible s net i) := inferInstanceAs (Decidable (_ ∨ _))

instance (c : WifiConnection) (sent : List ControllerDescriptor) : Decidable (LateOk c sent) :=
  inferInstanceAs (Decidable (∀ d ∈ c.desiredDescriptors, ∀ e ∈ sent, _))

instance (c : WifiConnection) (sent : List ControllerDescriptor) (mouse : Bool) :
    Decidable (StartOk c sent mouse) :=
  decidable_of_iff (LateOk c sent ∧ (c.wantsMouseControl = mouse ∨
      ∃ d ∈ c.desiredDescriptors, ∀ e ∈ sent, e.ctrlIdx = d.ctrlIdx → e.type ≠ d.type))
    ⟨fun h => ⟨h.1, h.2⟩, fun h => ⟨h.1, h.2⟩⟩

instance (view : SessionViewDto) : Decidable (ViewOk s net view) :=
  decidable_of_iff ((s.conn.state = .live → view.failed = false →
      s.conn.viewIsBenign view = false → NoSessionPut net) ∧
      (s.conn.InSession → MouseCovered s.conn net ∨ (s.conn.state = .live ∧
        view.failed = false ∧ view.mouseGranted = s.conn.mouseControlGranted)))
    ⟨fun h => ⟨h.1, h.2⟩, fun h => ⟨h.1, h.2⟩⟩

instance (resp : ControllerPutResponse) : Decidable (SyncOk s net resp) :=
  inferInstanceAs (Decidable (_ → _))

instance (a : LinkAction) : Decidable (LinkOk s a) := by
  unfold LinkOk
  split
  all_goals first | infer_instance | (split <;> infer_instance)

end

variable {c c' : WifiConnection} {slotId : SlotId} {shape : SlotShape} {sat : Satellite}
  {intent : ConnectIntent} {k : Nat} {material : Option Material} {socketOpened : Bool}

/-! ### Slots -/

/-- The invariant of a link. -/
abbrev Link.Inv (s : Link) : Prop := LinkInv s.conn s.sat s.net

theorem slotChange_attachSlot (c : WifiConnection) (slotId : SlotId) (shape : SlotShape) :
    SlotChange c (c.attachSlot slotId shape).1 (c.indexFor slotId) := by
  obtain ⟨slots, bound, hframe⟩ := c.attachSlot_frame slotId shape
  refine ⟨fun i hi => ?_, fun i _ => c.attachSlot_registeredAt slotId shape i, ?_, ?_, ?_⟩
  · rw [c.attachSlot_padAt, if_neg hi]
  · rw [hframe]
  · rw [hframe]
  · rw [hframe]

theorem sameSession_attachSlot (h : c.attachChanges slotId shape = false) :
    SameSession c (c.attachSlot slotId shape).1 := by
  have hc := slotChange_attachSlot c slotId shape
  refine ⟨fun i => ?_, fun i hi => ?_, hc.inSession.mp, hc.connectionId, hc.granted⟩
  · unfold padAt
    rw [c.attachSlot_unchanged h]
  · rwa [c.attachSlot_registeredAt]

theorem inBitmap_attachSlot (h : c.InBitmap) (hidx : c.indexFor slotId < kMaxControllers)
    (shape : SlotShape) : (c.attachSlot slotId shape).1.InBitmap := by
  intro i hi
  rw [c.attachSlot_padAt] at hi
  by_cases heq : i = c.indexFor slotId
  · exact heq ▸ hidx
  · rw [if_neg heq] at hi
    exact h i hi

theorem slotsFree_rekey {s : Link} (h : SlotsFree s) : ∀ client sent mouse,
    (⟨.rekey client sent mouse, none⟩ : Exchange) ∈ s.net → ¬ s.conn.InSession :=
  fun _ _ _ hx hin => nomatch h hin _ hx rfl

/-! ### The mouse grant -/

structure MouseInv (s : Link) : Prop where
  flag : s.reconcileInFlight = true → ∃ x ∈ s.net, x.request.isGet = true
  covered : s.conn.InSession → MouseCovered s.conn s.net

theorem MouseCovered.mono {net net' : List Exchange} (h : MouseCovered c net)
    (hsub : ∀ x ∈ net, x.request.pad.isSome ∨ x.request.isGet = true →
      ∃ y ∈ net', y.request = x.request) : MouseCovered c net' := by
  refine h.imp_right fun ⟨x, hx, hkind⟩ => ?_
  obtain ⟨y, hy, heq⟩ := hsub x hx hkind
  exact ⟨y, hy, heq ▸ hkind⟩

theorem MouseCovered.sameSession {net : List Exchange} (h : MouseCovered c net)
    (hc : SameSession c c') : MouseCovered c' net := by
  unfold MouseCovered at h ⊢
  rwa [wantsMouseControl_congr hc.slots, hc.granted]

theorem MouseInv.append {s : Link} (h : MouseInv s) (more : List Exchange) :
    MouseInv { s with net := s.net ++ more } := by
  refine ⟨fun hflag => ?_, fun hin => (h.covered hin).mono fun x hx _ =>
    ⟨x, List.mem_append_left _ hx, rfl⟩⟩
  obtain ⟨x, hx, hget⟩ := h.flag hflag
  exact ⟨x, List.mem_append_left _ hx, hget⟩

theorem MouseInv.flag_eraseIdx {s : Link} (h : MouseInv s) {x : Exchange}
    (hx : s.net[k]? = some x) (hget : x.request.isGet = false)
    (hflag : s.reconcileInFlight = true) : ∃ y ∈ s.net.eraseIdx k, y.request.isGet = true := by
  obtain ⟨y, hy, hyget⟩ := h.flag hflag
  rcases List.mem_cons.mp ((perm_eraseIdx hx).mem_iff.mp hy) with rfl | hy
  · exact nomatch hget.symm.trans hyget
  · exact ⟨y, hy, hyget⟩

/-! ### What every step keeps -/

theorem sameSession_client (client : Option SessionClient) (epoch : Int) (requested : Bool) :
    SameSession c
      { c with client := client, lastAppliedEpoch := epoch, rekeyRequested := requested } :=
  ⟨fun _ => rfl, fun _ hi => hi, id, rfl, rfl⟩

theorem LinkInv.disconnected {net : List Exchange} (h : LinkInv c sat net) :
    LinkInv c.markDisconnected sat net :=
  h.leave c.sameSlots_markDisconnected (not_inSession_markDisconnected c)

theorem reconcileTarget_spec {cid : String} (h : c.reconcileTarget = some cid) :
    c.state = .live ∧ c.connectionId = some cid := by
  unfold reconcileTarget at h
  split at h
  · exact nomatch h
  · rename_i hlive
    obtain ⟨cid', hcid, h⟩ := Option.bind_eq_some_iff.mp h
    obtain ⟨client, -, h⟩ := Option.bind_eq_some_iff.mp h
    split at h
    · exact ⟨Decidable.not_not.mp hlive, hcid.trans h⟩
    · exact nomatch h

theorem inv_reconcile {s : Link} (h : s.Inv) : s.reconcile.Inv := by
  unfold reconcile
  split
  · exact h
  · rename_i cid htarget
    obtain ⟨hlive, hcid⟩ := reconcileTarget_spec htarget
    split
    · exact h
    · have heq := (h.session (.inl hlive)).1
      rw [hcid] at heq
      exact h.send (r := .reconcile cid) (Option.some.inj heq)

theorem reconcile_frame (s : Link) : s.reconcile.conn = s.conn ∧
    (∀ x ∈ s.reconcile.net, x ∈ s.net ∨ x.request.isGet = true) ∧
    ∀ x ∈ s.net, x ∈ s.reconcile.net := by
  unfold reconcile
  split
  · exact ⟨rfl, fun x hx => .inl hx, fun x hx => hx⟩
  · split
    · exact ⟨rfl, fun x hx => .inl hx, fun x hx => hx⟩
    · refine ⟨rfl, fun x hx => ?_, fun x hx => List.mem_append_left _ hx⟩
      rcases List.mem_append.mp hx with hx | hx
      · exact .inl hx
      · rw [List.mem_singleton.mp hx]
        exact .inr rfl

theorem reconcile_flag {s : Link}
    (h : s.reconcileInFlight = true → ∃ x ∈ s.net, x.request.isGet = true) :
    s.reconcile.reconcileInFlight = true → ∃ x ∈ s.reconcile.net, x.request.isGet = true := by
  unfold reconcile
  split
  · exact h
  · split
    · exact h
    · exact fun _ => ⟨_, List.mem_append_right _ (List.mem_singleton_self _), rfl⟩

/-- Both invariants. -/
structure Link.Kept (s : Link) : Prop where
  inv : s.Inv
  mouse : MouseInv s

namespace Link.Kept

variable {s : Link}

section
variable (h : s.Kept)
include h

theorem sameSession (hc : SameSession s.conn c') : Link.Kept { s with conn := c' } :=
  ⟨h.inv.sameSession hc, h.mouse.flag,
    fun hin => (h.mouse.covered (hc.inSession hin)).sameSession hc⟩

theorem leave (hslots : WifiConnection.SameSlots s.conn c')
    (hout : ¬ c'.InSession) : Link.Kept { s with conn := c' } :=
  ⟨h.inv.leave hslots hout, h.mouse.flag, fun hin => absurd hin hout⟩

theorem disconnected : Link.Kept { s with conn := s.conn.markDisconnected } :=
  h.leave s.conn.sameSlots_markDisconnected (not_inSession_markDisconnected _)

theorem stale : Link.Kept { s with conn := s.conn.markStale } :=
  h.leave s.conn.sameSlots_markStale (not_inSession_markStale _)

theorem send {r : Request} (hr : NewOk s.conn s.sat s.net r) : (s.send r).Kept :=
  ⟨h.inv.send hr, h.mouse.append _⟩

theorem handBack (cid : String) : (s.send (.release cid)).Kept := h.send trivial

theorem dial (hstate : s.conn.state ≠ .live) (hput : NoSessionPut s.net) (intent : ConnectIntent) :
    (({ s with conn := s.conn.markConnecting } : Link).openSession intent).Kept := by
  have hout : ¬ s.conn.markConnecting.InSession := not_inSession_markConnecting hstate
  exact (h.leave s.conn.sameSlots_markConnecting hout).send ⟨hput, hout, rfl, rfl⟩

theorem disconnect : s.disconnect.Kept := by
  unfold Link.disconnect
  dsimp only
  split
  · exact h.disconnected
  · exact h.disconnected.handBack _

theorem reconcile : s.reconcile.Kept := by
  obtain ⟨hconn, -, hnet⟩ := reconcile_frame s
  refine ⟨inv_reconcile h.inv, reconcile_flag h.mouse.flag, fun hin => ?_⟩
  rw [hconn] at hin ⊢
  exact (h.mouse.covered hin).mono fun x hx _ => ⟨x, hnet x hx, rfl⟩

theorem mapClient (f : SessionClient → SessionClient) : (s.mapClient f).Kept :=
  h.sameSession (sameSession_client _ _ _)

theorem onSessionUnreachable (intent : ConnectIntent) : (s.onSessionUnreachable intent).Kept := by
  unfold Link.onSessionUnreachable
  split
  · exact h
  · split
    · exact h.disconnected
    · exact h.stale

theorem onRekeyReply (client : Nat) (resp : SessionResponse)
    (material : Option Material) : (s.onRekeyReply client resp material).Kept := by
  unfold Link.onRekeyReply
  split
  · split
    · exact h.sameSession (sameSession_client _ _ _)
    · exact h
  · exact h

theorem onRemove (resp : ControllerPutResponse) : (s.onRemove resp).Kept := by
  unfold Link.onRemove applyControllerDelete
  split
  · exact h.sameSession (sameSession_client _ _ _)
  · exact h

theorem done {x : Exchange} (hx : s.net[k]? = some x)
    (hpad : x.request.pad = none) (hget : x.request.isGet = false) :
    Link.Kept { s with net := s.net.eraseIdx k } := by
  refine ⟨(h.inv.perm (perm_eraseIdx hx)).done (endOk_of_not_sync ?_),
    h.mouse.flag_eraseIdx hx hget, fun hin => (h.mouse.covered hin).mono fun y hy hkind => ?_⟩
  · rintro cid d hsync
    rw [hsync] at hpad
    exact nomatch hpad
  · rcases List.mem_cons.mp ((perm_eraseIdx hx).mem_iff.mp hy) with rfl | hy
    · simp [hpad, hget] at hkind
    · exact ⟨y, hy, rfl⟩

end

end Link.Kept

variable {s : Link}

/-! ### Steps -/

theorem step_attach (h : s.Kept) (hok : LinkOk s (.attach slotId shape)) :
    (s.step (.attach slotId shape)).Kept := by
  have hsignal := s.conn.attachSlot_signal slotId shape
  have hc := slotChange_attachSlot s.conn slotId shape
  cases hchanges : s.conn.attachChanges slotId shape with
  | false =>
    rw [hchanges, if_neg (by simp)] at hsignal
    have := h.sameSession (sameSession_attachSlot hchanges)
    simpa [step, hsignal, onSignal] using this
  | true =>
    obtain ⟨hfaltering, hidx, hfree, hsyncs⟩ := hok hchanges
    have hbits := inBitmap_attachSlot h.inv.inBitmap hidx shape
    have hsync : ∀ d, SyncOut s.net d → d.ctrlIdx ≠ s.conn.indexFor slotId :=
      fun d ⟨cid, hx⟩ => hsyncs _ hx rfl d rfl
    by_cases hlive : s.conn.state = .live
    · rw [hchanges, if_pos ⟨rfl, hlive⟩] at hsignal
      obtain ⟨hcid, -⟩ := h.inv.session (.inl hlive)
      have hpad := (s.conn.attachSlot_padAt slotId shape (s.conn.indexFor slotId)).trans
        (if_pos rfl)
      have hcall := s.conn.syncSlot_attachSlot slotId shape hlive hcid
      rw [hpad] at hcall
      have hinv := h.inv.slotSync hc hbits (.inl hlive) hsync (slotsFree_rekey hfree) hpad
      simp only [step, hsignal, onSignal, hcall, sendControllers, Option.map_some]
      exact ⟨hinv, (h.mouse.append _).flag, fun _ => .inr ⟨_, List.mem_append_right _
        (List.mem_singleton_self _), .inl rfl⟩⟩
    · have hout : ¬ s.conn.InSession := fun hin => hin.elim hlive hfaltering
      rw [hchanges, if_neg fun hcond => hlive hcond.2] at hsignal
      have hinv := h.inv.slotChange hc hbits (fun d hd hi => absurd hi (hsync d hd))
        (slotsFree_rekey hfree) fun hin => absurd hin hout
      have hnext : Link.Kept { s with conn := (s.conn.attachSlot slotId shape).1 } :=
        ⟨hinv, h.mouse.flag, fun hin => absurd (hc.inSession.mp hin) hout⟩
      simpa [step, hsignal, onSignal] using hnext

theorem slotChange_detachSlot {b : SlotBinding} (hfind : c.slots.find slotId = some b) :
    SlotChange c (c.detachSlot slotId).1 b.controllerIndex ∧
      (c.detachSlot slotId).1.padAt b.controllerIndex = none ∧
      ∀ i, (c.detachSlot slotId).1.padAt i = if i = b.controllerIndex then none else c.padAt i := by
  obtain ⟨bound, hdetach⟩ := c.detachSlot_some hfind
  have hpad : ∀ i, (c.detachSlot slotId).1.padAt i =
      if i = b.controllerIndex then none else c.padAt i := by
    intro i
    rw [hdetach]
    unfold padAt
    rw [c.slots.atIndex_erase hfind]
    split <;> rfl
  refine ⟨⟨fun i hi => ?_, fun i hi => ?_, ?_, ?_, ?_⟩, ?_, hpad⟩
  · rw [hpad, if_neg hi]
  · rw [hdetach]
    unfold registeredAt
    rw [c.slots.atIndex_erase hfind, if_neg hi]
  · rw [hdetach]
  · rw [hdetach]
  · rw [hdetach]
  · rw [hpad, if_pos rfl]

theorem step_detach (h : s.Kept) (hok : LinkOk s (.detach slotId)) :
    (s.step (.detach slotId)).Kept := by
  cases hfind : s.conn.slots.find slotId with
  | none => simpa [step, s.conn.detachSlot_none hfind, onSignal] using h
  | some b =>
    obtain ⟨bound, hdetach⟩ := s.conn.detachSlot_some hfind
    obtain ⟨hc, hnone, hpad⟩ := slotChange_detachSlot hfind
    have hbits : (s.conn.detachSlot slotId).1.InBitmap := by
      intro i hi
      rw [hpad] at hi
      split at hi
      · exact nomatch hi
      · exact h.inv.inBitmap i hi
    have hgone : Link.Kept { s with conn := (s.conn.detachSlot slotId).1 } :=
      ⟨h.inv.slotChange hc hbits (fun _ _ _ => hnone) (slotsFree_rekey hok.1) fun _ => hnone,
        h.mouse.flag, fun hin => hok.2 (hc.inSession.mp hin)⟩
    have hsignal : (s.conn.detachSlot slotId).2 =
        if s.conn.state = .live ∧ b.registered then some (.slotRemoved b.controllerIndex)
        else none := by rw [hdetach]
    by_cases htold : s.conn.state = .live ∧ b.registered
    · rw [if_pos htold] at hsignal
      have hcid : (s.conn.detachSlot slotId).1.connectionId = some s.sat.connectionId :=
        hc.connectionId.trans (h.inv.session (.inl htold.1)).1
      have := hgone.send (r := .remove s.sat.connectionId b.controllerIndex) ⟨rfl, hnone⟩
      simpa [step, hsignal, onSignal, deleteSlot, hcid,
        sendControllers, Request.ofController, send] using this
    · rw [if_neg htold] at hsignal
      simpa [step, hsignal, onSignal] using hgone

theorem step_connect (h : s.Kept) (hok : LinkOk s (.connect intent)) :
    (s.step (.connect intent)).Kept := by
  show (s.connect intent).Kept
  unfold connect
  split
  · exact h
  · rename_i hstate
    have hlive : s.conn.state ≠ .live := fun hs => hstate (.inl hs)
    exact h.dial hlive (hok hlive fun hs => hstate (.inr hs)) intent

theorem step_arrive (h : s.Kept) (hok : LinkOk s (.arrive k)) : (s.step (.arrive k)).Kept := by
  simp only [LinkOk] at hok
  simp only [step]
  cases hx : s.net[k]? with
  | none => exact h
  | some x =>
    obtain ⟨r, a⟩ := x
    cases a with
    | some a => exact h
    | none =>
      rw [hx] at hok
      have hperm := perm_eraseIdx hx
      have hmem : ∀ y ∈ s.net, ∃ z ∈ s.net.set k ⟨r, some (s.sat.serve r.call).2⟩,
          z.request = y.request := by
        intro y hy
        rcases List.mem_cons.mp (hperm.mem_iff.mp hy) with rfl | hy
        · exact ⟨_, (perm_set hx _).mem_iff.mpr List.mem_cons_self, rfl⟩
        · exact ⟨y, (perm_set hx _).mem_iff.mpr (List.mem_cons_of_mem _ hy), rfl⟩
      refine ⟨LinkInv.perm ?_ (perm_set hx _).symm, fun hflag => ?_,
        fun hin => (h.mouse.covered hin).mono fun y hy _ => hmem y hy⟩
      · refine (h.inv.perm hperm).arrive ?_
        rintro client sent mouse rfl
        refine hok.imp_right fun hremove i ⟨cid, hi⟩ => ?_
        exact hremove _ (hperm.mem_iff.mpr (List.mem_cons_of_mem _ hi)) rfl i rfl
      · obtain ⟨y, hy, hget⟩ := h.mouse.flag hflag
        obtain ⟨z, hz, heq⟩ := hmem y hy
        exact ⟨z, hz, heq ▸ hget⟩

theorem kept_onView (h : s.Inv) {view : SessionViewDto}
    (hput : s.conn.state = .live → view.failed = false → s.conn.viewIsBenign view = false →
      NoSessionPut s.net)
    (hmouse : s.conn.InSession → MouseCovered s.conn s.net ∨
      (s.conn.state = .live ∧ view.failed = false ∧
        view.mouseGranted = s.conn.mouseControlGranted)) : (s.onView view).Kept := by
  unfold onView
  dsimp only
  split
  · rename_i hlive
    refine ⟨h, nofun, fun hin => ?_⟩
    rcases hmouse hin with hcovered | ⟨hlive', -⟩
    · exact hcovered
    · exact absurd hlive' hlive
  · rename_i hlive
    split
    · rename_i hfailed
      refine ⟨h, nofun, fun hin => ?_⟩
      rcases hmouse hin with hcovered | ⟨-, hok, -⟩
      · exact hcovered
      · rw [hok] at hfailed
        exact nomatch hfailed
    · rename_i hfailed
      split
      · rename_i hbenign
        refine ⟨h.sameSession (sameSession_client _ _ _), nofun, fun hin => ?_⟩
        rcases hmouse hin with hcovered | ⟨-, -, hgranted⟩
        · exact hcovered
        · -- a view that agrees shows the wanted grant, and it is the connection's own
          refine .inl ?_
          have hviewed := (Bool.and_eq_true_iff.mp hbenign).2
          unfold matchesAppliedView appliedMatchesDesired at hviewed
          simp only [Bool.and_eq_true, beq_iff_eq] at hviewed
          exact hviewed.1.1.symm.trans hgranted
      · rename_i hbenign
        have hidle : s.conn.markDisconnected.state ≠ .live := by
          rw [state_markDisconnected]
          decide
        have hdown : Link.Kept { s with
            conn := s.conn.markDisconnected, reconcileInFlight := false } :=
          ⟨h.disconnected, nofun, fun hin => absurd hin (not_inSession_markDisconnected _)⟩
        exact hdown.dial hidle (hput (Decidable.not_not.mp hlive)
          (Bool.eq_false_iff.mpr hfailed) (Bool.eq_false_iff.mpr hbenign)) .retryAfterDeath

theorem applyControllerPut_spec (c : WifiConnection) (resp : ControllerPutResponse) (i : Nat) :
    SameSession c (c.applyControllerPut resp ⟨i, "ok"⟩) ∧
      (c.applyControllerPut resp ⟨i, "ok"⟩).registeredAt i = (c.padAt i).isSome := by
  have hgood : ∀ r ∈ [(⟨i, "ok"⟩ : ControllerApplyDto)], r.slotIsLive = true := by
    intro r hr
    rw [List.mem_singleton.mp hr]
    rfl
  have hmarks := (c.adoptEpoch resp.epoch).registeredAt_applyResults hgood
  refine ⟨⟨?_, fun j hj => ?_, id, rfl, rfl⟩, ?_⟩
  · exact WifiConnection.SameSlots.trans (sameSlots_of_slots rfl) (sameSlots_applyResults _ _)
  · refine (hmarks j).trans ?_
    split
    · show (c.padAt j).isSome = true
      unfold registeredAt at hj
      unfold padAt
      cases hat : c.slots.atIndex j with
      | none => simp [hat] at hj
      | some b => rfl
    · exact hj
  · exact (hmarks i).trans (if_pos (by simp))

theorem kept_onSync {cid : String} {d : ControllerDescriptor} {resp : ControllerPutResponse}
    (h : LinkInv s.conn s.sat (⟨.sync cid d, some (.controller resp)⟩ :: s.net))
    (hflag : s.reconcileInFlight = true → ∃ x ∈ s.net, x.request.isGet = true)
    (hok : SyncOk s s.net resp) : (s.onSync resp).Kept := by
  obtain ⟨-, -, hanswer⟩ := h.wf _ List.mem_cons_self
  obtain ⟨_, heq, hresult⟩ := hanswer _ rfl
  injection heq with heq
  subst heq
  unfold onSync
  cases hr : resp.controller with
  | none =>
    refine ⟨h.done ⟨fun _ _ => nofun, fun cid' d' resp' r heq hr' => ?_⟩, hflag, fun hin => ?_⟩
    · injection heq with _ heq
      injection heq with heq
      injection heq with heq
      subst heq
      rw [hr] at hr'
      exact nomatch hr'
    · rcases hok hin with hcovered | ⟨r, hr', -⟩
      · exact hcovered
      · rw [hr] at hr'
        exact nomatch hr'
  | some r =>
    obtain rfl := hresult r hr
    obtain ⟨hsame, hmark⟩ := applyControllerPut_spec s.conn resp d.ctrlIdx
    have hdone : LinkInv (s.conn.applyControllerPut resp ⟨d.ctrlIdx, "ok"⟩) s.sat s.net := by
      refine (h.sameSession hsame).done ⟨fun _ _ => nofun, fun cid' d' resp' r heq _ _ _ hsome => ?_⟩
      injection heq with heq _
      injection heq with _ heq
      subst heq
      rw [hsame.slots] at hsome
      exact .inl (hmark.trans hsome)
    dsimp only
    split
    · refine ⟨inv_reconcile (s := { s with conn := s.conn.applyControllerPut resp _ }) hdone,
        reconcile_flag hflag, fun hin => ?_⟩
      rw [(reconcile_frame _).1] at hin ⊢
      rcases hok (hsame.inSession hin) with hcovered | ⟨r', hr', htarget⟩
      · exact (hcovered.sameSession hsame).mono fun x hx _ =>
          ⟨x, (reconcile_frame _).2.2 x hx, rfl⟩
      · -- the GET is sent now, or one is out already
        rw [hr] at hr'
        obtain rfl := Option.some.inj hr'
        obtain ⟨target, htarget⟩ := Option.isSome_iff_exists.mp htarget
        refine .inr ?_
        unfold reconcile
        simp only [htarget]
        split
        · rename_i hout
          obtain ⟨x, hx, hget⟩ := hflag hout
          exact ⟨x, hx, .inr hget⟩
        · exact ⟨_, List.mem_append_right _ (List.mem_singleton_self _), .inr rfl⟩
    · rename_i hequal
      exact ⟨hdone, hflag, fun _ => .inl (Decidable.not_not.mp hequal)⟩

theorem kept_onSessionReply {sent : List ControllerDescriptor} {mouse : Bool}
    {resp : SessionResponse}
    (h : LinkInv s.conn s.sat (⟨.session intent sent mouse, some (.session resp)⟩ :: s.net))
    (hdone : s.Kept)
    (hok : s.conn.state = .linking → material.isSome → socketOpened = true →
      StartOk s.conn sent mouse) : (s.onSessionReply sent resp material socketOpened).Kept := by
  obtain ⟨hsent, hanswer⟩ := h.wf _ List.mem_cons_self
  obtain ⟨_, heq, hgrants⟩ := hanswer _ rfl
  injection heq with heq
  subst heq
  unfold onSessionReply
  rw [hgrants.connectionId]
  dsimp only
  split
  · exact hdone.handBack _
  · rename_i hlinking
    have hlinking := Decidable.not_not.mp hlinking
    cases material with
    | none => exact hdone.disconnected.handBack _
    | some m =>
      dsimp only
      split
      · rename_i hsocket
        obtain ⟨hlate, hmouse⟩ := hok hlinking rfl hsocket
        refine ⟨h.enter hlinking hlate _, (hdone.mouse.append _).flag, fun _ => ?_⟩
        obtain ⟨hslots, hlive, hcid, hgranted, -⟩ := startSession_spec hlinking hgrants
          { ref := s.clients, material := m }
        generalize s.conn.startSession { ref := s.clients, material := m } s.sat.connectionId
          resp = c' at *
        have hbits := inBitmap_of_sameSlots hslots h.inBitmap
        rcases hmouse with hsame | ⟨d, hd, hnew⟩
        · refine .inl ?_
          show c'.wantsMouseControl = c'.mouseControlGranted
          rw [wantsMouseControl_congr hslots, hgranted, hsame]
        · have hw := (sendable_desired hbits).wireIndexed
          have hpad := s.conn.padAt_eq_some.mpr ⟨hd, rfl⟩
          rw [← hslots] at hpad
          have hput := (put_mem_converge hlive hcid hsent.1 hsent.wireIndexed hw).mpr
            ⟨(c'.padAt_eq_some.mp hpad).1, hnew⟩
          refine .inr ⟨⟨.sync s.sat.connectionId d, none⟩, List.mem_append_right _
            (List.mem_map.mpr ⟨.sync s.sat.connectionId d, ?_, rfl⟩), .inl rfl⟩
          exact List.mem_filterMap.mpr ⟨_, hput, rfl⟩
      · exact hdone.disconnected.handBack _

theorem applySteadyState_spec (c : WifiConnection) (client : SessionClient) :
    SameSession c (c.applySteadyState client) ∧
      (c.applySteadyState client).rekeyRequested = c.rekeyRequested ∧
      ((c.applySteadyState client).state = .live →
        c.InSession ∧ client.missedAcks < kHeartbeatMissNotResponding) := by
  unfold applySteadyState
  cases hstate : c.state with
  | live | faltering =>
    have hin : c.InSession := by simp [WifiConnection.InSession, hstate]
    refine ⟨⟨fun _ => rfl, fun _ hi => hi, fun _ => hin, rfl, rfl⟩, rfl, fun hlive => ⟨hin, ?_⟩⟩
    by_cases hmissed : kHeartbeatMissNotResponding ≤ client.missedAcks
    · simp [hmissed] at hlive
    · omega
  | idle | linking | stale =>
    refine ⟨⟨fun _ => rfl, fun _ hi => hi, id, rfl, rfl⟩, rfl, fun hlive => ?_⟩
    rw [hstate] at hlive
    cases hlive

theorem maybeRequestRekey_spec (c : WifiConnection) (client : SessionClient) :
    ∃ requested, (c.maybeRequestRekey client).1 = { c with rekeyRequested := requested } := by
  unfold maybeRequestRekey
  split
  · exact ⟨_, rfl⟩
  · split
    · exact ⟨c.rekeyRequested, rfl⟩
    · exact ⟨_, rfl⟩

theorem kept_rekey (h : s.Kept)
    (hput : s.conn.state = .live → NoSessionPut s.net ∧
      s.conn.wantsMouseControl = s.conn.mouseControlGranted) : s.rekey.Kept := by
  unfold rekey
  split
  · exact h
  · rename_i hlive
    obtain ⟨hnone, hmouse⟩ := hput (Decidable.not_not.mp hlive)
    split
    · exact h
    · exact h.send (r := .rekey _ _ _) ⟨hnone, rfl, hmouse⟩

theorem step_tick (h : s.Kept) (hok : LinkOk s .tick) : (s.step .tick).Kept := by
  show s.tick.Kept
  unfold tick
  cases hclient : s.conn.client with
  | none => exact h
  | some client =>
    dsimp only
    cases halive : client.alive with
    | false => exact h.disconnect
    | true =>
      obtain ⟨hsame, hsteady, hlive⟩ := applySteadyState_spec s.conn client
      obtain ⟨requested, hrequested⟩ := maybeRequestRekey_spec
        (s.conn.applySteadyState client) client
      have hrec := (h.sameSession hsame).reconcile
      obtain ⟨hconn, hnet, -⟩ := reconcile_frame { s with conn := s.conn.applySteadyState client }
      have hasks : ((s.conn.applySteadyState client).maybeRequestRekey client).2 =
          (s.conn.maybeRequestRekey client).2 := by
        unfold maybeRequestRekey
        rw [hsteady]
        split
        · rfl
        · split <;> rfl
      generalize hs : ({ s with conn := s.conn.applySteadyState client } : Link).reconcile = s1
        at hrec hconn hnet
      dsimp only at hconn
      have hnext : Link.Kept { s1 with
          conn := ((s.conn.applySteadyState client).maybeRequestRekey client).1 } := by
        rw [hrequested, ← hconn]
        exact hrec.sameSession (sameSession_client _ _ _)
      simp only [hconn, hasks, Bool.not_true, Bool.false_eq_true, if_false]
      cases hask : (s.conn.maybeRequestRekey client).2 with
      | false => exact hnext
      | true =>
        refine kept_rekey hnext fun hstate => ?_
        rw [hrequested] at hstate ⊢
        obtain ⟨hin, hmissed⟩ := hlive hstate
        obtain ⟨hnone, hmouse⟩ := hok client hclient halive hmissed hin hask
        refine ⟨fun x hx => ?_, ?_⟩
        · rcases hnet x hx with hx | hget
          · exact hnone x hx
          · obtain ⟨r, a⟩ := x
            cases r with
            | reconcile => rfl
            | _ => exact nomatch hget
        · refine (wantsMouseControl_congr ?_).trans (hmouse.trans hsame.granted.symm)
          exact fun i => hsame.slots i

theorem step_reply (h : s.Kept) (hok : LinkOk s (.reply k material socketOpened)) :
    (s.step (.reply k material socketOpened)).Kept := by
  simp only [LinkOk] at hok
  simp only [step]
  cases hx : s.net[k]? with
  | none => exact h
  | some x =>
    obtain ⟨r, a⟩ := x
    cases a with
    | none => exact h
    | some a =>
      rw [hx] at hok
      have hcons := h.inv.perm (perm_eraseIdx hx)
      cases r with
      | session =>
        have hdone := h.done hx rfl rfl
        cases a with
        | session => exact kept_onSessionReply hcons hdone hok
        | _ => exact hdone
      | rekey client =>
        have hdone := h.done hx rfl rfl
        cases a with
        | session resp => exact hdone.onRekeyReply client resp material
        | _ => exact hdone
      | reconcile =>
        obtain ⟨-, hanswer⟩ := hcons.wf _ List.mem_cons_self
        obtain ⟨view, rfl⟩ := hanswer _ rfl
        exact kept_onView (s := s.popped k)
          (hcons.done (endOk_of_not_sync fun _ _ => nofun)) hok.put hok.mouse
      | sync =>
        obtain ⟨-, -, hanswer⟩ := hcons.wf _ List.mem_cons_self
        obtain ⟨resp, rfl, -⟩ := hanswer _ rfl
        exact kept_onSync (s := s.popped k) hcons
          (h.mouse.flag_eraseIdx hx rfl) hok
      | remove =>
        have hdone := h.done hx rfl rfl
        cases a with
        | controller resp => exact hdone.onRemove resp
        | _ => exact hdone
      | release => exact h.done hx rfl rfl

theorem step_lose (h : s.Kept) (hok : LinkOk s (.lose k)) : (s.step (.lose k)).Kept := by
  simp only [LinkOk] at hok
  simp only [step]
  cases hx : s.net[k]? with
  | none => exact h
  | some x =>
    obtain ⟨r, a⟩ := x
    rw [hx] at hok
    have hcons := h.inv.perm (perm_eraseIdx hx)
    cases r with
    | session intent => exact (h.done hx rfl rfl).onSessionUnreachable intent
    | rekey | release => exact h.done hx rfl rfl
    | reconcile =>
      exact kept_onView (s := s.popped k)
        (hcons.done (endOk_of_not_sync fun _ _ => nofun)) (fun _ hfailed => nomatch hfailed)
        fun hin => .inl (hok hin)
    | sync cid d =>
      have hvisible : s.conn.InSession → s.sat.up → (s.conn.padAt d.ctrlIdx).isSome →
          a.isSome ∧ Visible s (s.net.eraseIdx k) d.ctrlIdx := fun hin => (hok hin).2
      refine ⟨hcons.done ⟨fun cid' d' heq hin hup => ?_,
        fun cid' d' resp r heq hr hin hup hsome => ?_⟩, h.mouse.flag_eraseIdx hx rfl,
        fun hin => (hok hin).1⟩
      · injection heq with heq ha
        injection heq with _ heq
        subst heq ha
        by_contra hne
        exact nomatch (hvisible hin hup (Option.isSome_iff_ne_none.mpr hne)).1
      · injection heq with heq _
        injection heq with _ heq
        subst heq
        refine (hvisible hin hup hsome).2.imp_right fun hheld => ⟨hheld.1, ?_⟩
        rintro ⟨cid'', hx'⟩
        exact hheld.2 _ hx' rfl rfl
    | remove => exact (h.done hx rfl rfl).onRemove _

/-- The step lemma: what a step within `LinkOk` keeps. -/
theorem step_kept {a : LinkAction} (h : s.Kept) (hok : LinkOk s a) : (s.step a).Kept := by
  cases a with
  | attach => exact step_attach h hok
  | detach => exact step_detach h hok
  | connect => exact step_connect h hok
  | disconnect => exact h.disconnect
  | markStale => exact h.stale
  | arrive => exact step_arrive h hok
  | reply => exact step_reply h hok
  | lose => exact step_lose h hok
  | ack | miss | count => exact h.mapClient _
  | tick => exact step_tick h hok

theorem fresh_kept (server : DiscoveredServer) (sat : Satellite) : (fresh server sat).Kept := by
  have hpad : ∀ i, (fresh server sat).conn.padAt i = none := fun _ => rfl
  have hnet : ∀ x : Exchange, x ∉ (fresh server sat).net := fun _ => List.not_mem_nil
  have hout : ¬ (fresh server sat).conn.InSession := by
    rintro (hlive | hlive) <;> exact nomatch hlive
  have hholds : ∀ i, (fresh server sat).sat.holds i = none := fun _ => rfl
  refine ⟨⟨Int.le_refl 0, fun i hi => ?_, fun i d hd => ?_, fun x hx => absurd hx (hnet x),
    Nat.zero_le 1, fun _ _ _ _ hx => absurd hx (hnet _), fun d ⟨_, hx⟩ => absurd hx (hnet _),
    fun d ⟨_, hx⟩ => absurd hx (hnet _), fun _ _ _ hx => absurd hx (hnet _),
    fun _ _ _ _ hx => absurd hx (hnet _), fun hin => absurd hin hout⟩,
    ⟨nofun, fun hin => absurd hin hout⟩⟩
  · rw [hpad] at hi
    exact nomatch hi
  · rw [hholds] at hd
    exact nomatch hd

/-! ### Quiescence -/

/-- Nothing is going on: the session is live, no request is out, the last ack is current
and shows no drift. -/
structure Link.Quiescent (s : Link) : Prop where
  live : s.conn.state = .live
  still : s.net = []
  up : s.sat.up = true
  acked : ∃ client, s.conn.client = some client ∧ client.serverEpoch = s.sat.epoch ∧
    client.serverBitmap = s.sat.activeBitmap.toNat ∧
    reconcileNeeded client.serverEpoch client.serverBitmap s.conn.lastAppliedEpoch
      s.conn.registeredBitmap = false

/-- The satellite holds exactly what is attached, and both sides know. -/
structure Link.Converged (s : Link) : Prop where
  registered : ∀ b ∈ s.conn.slots.bindings, b.registered = true
  holds : ∀ b ∈ s.conn.slots.bindings, s.sat.holds b.controllerIndex = some b.descriptor
  noOther : ∀ i, (∀ b ∈ s.conn.slots.bindings, b.controllerIndex ≠ i) → s.sat.holds i = none
  mouse : s.conn.mouseControlGranted = s.conn.wantsMouseControl ∧
    s.sat.granted = s.conn.wantsMouseControl

/-- An ack without drift shows the marks of the slots. -/
theorem Link.Quiescent.marks (h : s.Quiescent) (hinv : s.Inv) {i : Nat} (hi : i < 16) :
    s.conn.registeredAt i = (s.sat.holds i).isSome := by
  obtain ⟨client, -, hepoch, hbitmap, hdrift⟩ := h.acked
  have hneg := hinv.epoch
  have hbits : s.conn.registeredBitmap = s.sat.activeBitmap := by
    by_contra hne
    have hint : BitVec.ofInt 16 client.serverBitmap = s.sat.activeBitmap := by
      rw [hbitmap, BitVec.ofInt_natCast, BitVec.ofNat_toNat, BitVec.setWidth_eq]
    unfold reconcileNeeded at hdrift
    rw [if_neg (by omega)] at hdrift
    split at hdrift
    · exact nomatch hdrift
    · rw [if_pos] at hdrift
      · exact nomatch hdrift
      · rw [hint]
        exact ⟨by omega, fun heq => hne heq.symm⟩
  rw [← s.conn.registeredBitmap_getLsbD hinv.inBitmap hi, hbits,
    Satellite.activeBitmap_getLsbD hinv.indexed hi]

theorem Link.Inv.converged (hinv : s.Inv) (hmouse : MouseInv s) (h : s.Quiescent) :
    s.Converged := by
  have hin : s.conn.InSession := .inl h.live
  obtain ⟨hgranted, hcovered, hright⟩ := (hinv.session hin).2 h.up
  have hnone : ∀ x : Exchange, x ∉ s.net := by
    intro x
    rw [h.still]
    exact List.not_mem_nil
  -- a slot is marked or held, so the ack shows both
  have hboth : ∀ i d, s.conn.padAt i = some d →
      s.conn.registeredAt i = true ∧ s.sat.holds i = some d := by
    intro i d hd
    have hlt : i < 16 := hinv.inBitmap i (by rw [hd]; rfl)
    have hidx := ctrlIdx_of_padAt hd
    have hmarks := h.marks hinv hlt
    have hheld : (s.sat.holds i).isSome := by
      rcases hcovered i d hd with hreg | ⟨cid, hx⟩ | ⟨cid, e, resp, r, hx, -⟩ | ⟨hheld, -⟩
      · rw [hidx] at hreg
        rwa [← hmarks]
      · exact absurd hx (hnone _)
      · exact absurd hx (hnone _)
      · rwa [hidx] at hheld
    obtain ⟨e, he⟩ := Option.isSome_iff_exists.mp hheld
    rcases hright i d e hd he with rfl | ⟨cid, hx⟩
    · exact ⟨hmarks.trans hheld, he⟩
    · exact absurd hx (hnone _)
  have hat : ∀ b ∈ s.conn.slots.bindings, s.conn.slots.atIndex b.controllerIndex = some b := by
    intro b hb
    obtain ⟨⟨id, b'⟩, hmem, rfl⟩ := List.mem_map.mp hb
    exact s.conn.slots.atIndex_eq_some.mpr ⟨⟨id, hmem⟩, rfl⟩
  have hpad : ∀ b ∈ s.conn.slots.bindings, s.conn.padAt b.controllerIndex = some b.descriptor :=
    fun b hb => by rw [padAt, hat b hb]; rfl
  have hwants : s.conn.wantsMouseControl = s.conn.mouseControlGranted := by
    rcases hmouse.covered hin with heq | ⟨x, hx, -⟩
    · exact heq
    · exact absurd hx (hnone _)
  refine ⟨fun b hb => ?_, fun b hb => (hboth _ _ (hpad b hb)).2, fun i hfree => ?_,
    hwants.symm, hgranted.trans hwants.symm⟩
  · have hreg := (hboth _ _ (hpad b hb)).1
    rwa [registeredAt, hat b hb, Option.any_some] at hreg
  · -- what is held and not attached would show in the ack
    cases he : s.sat.holds i with
    | none => rfl
    | some e =>
      have hlt : i < 16 := (hinv.indexed i e he).2
      have hmarks := h.marks hinv hlt
      rw [he, Option.isSome_some, registeredAt] at hmarks
      obtain ⟨b, hb, -⟩ := (Option.any_eq_true _ _).mp hmarks
      obtain ⟨⟨id, hmem⟩, hidx⟩ := s.conn.slots.atIndex_eq_some.mp hb
      exact absurd hidx (hfree b (List.mem_map.mpr ⟨(id, b), hmem, rfl⟩))

/--
**The desired topology reaches the satellite.**

In every run whose steps all meet `LinkOk`, every quiescent state that is reached has
each attached slot registered and held as it is declared, nothing else held, and the
mouse granted exactly if a slot wants it.
-/
theorem quiescent_converged (server : DiscoveredServer) (sat : Satellite)
    (acts : List LinkAction) (hok : Along step LinkOk (.fresh server sat) acts)
    (hquiet : (run step (.fresh server sat) acts).Quiescent) :
    (run step (.fresh server sat) acts).Converged := by
  have hkept := run_keeps (I := Link.Kept) (fun _ _ => step_kept) (fresh_kept server sat) hok
  exact hkept.inv.converged hkept.mouse hquiet

/-! ### What the conditions are for -/

instance (s : Link) : Decidable s.Quiescent :=
  decidable_of_iff (s.conn.state = .live ∧ s.net = [] ∧ s.sat.up = true ∧
      ∃ client ∈ s.conn.client, client.serverEpoch = s.sat.epoch ∧
        client.serverBitmap = s.sat.activeBitmap.toNat ∧
        reconcileNeeded client.serverEpoch client.serverBitmap s.conn.lastAppliedEpoch
          s.conn.registeredBitmap = false)
    ⟨fun h => ⟨h.1, h.2.1, h.2.2.1, h.2.2.2⟩, fun h => ⟨h.1, h.2, h.3, h.4⟩⟩

/-- A connection and a satellite to run. -/
def Link.sample : Link :=
  .fresh ⟨"", "192.168.1.2", 9876, 9877, 9878, "m"⟩
    { connectionId := "c", token := "00000001", sessionSalt := "0001020304050607", up := false, epoch := 0,
      holds := fun _ => none, granted := false }

/-- A connect that is answered. -/
def linked : List LinkAction :=
  [.connect .userInitiated, .arrive 0, .reply 0 (some ⟨0, 0⟩) true]

/-- The theorem at a slot that is attached, linked and changed. -/
theorem changed_slot_converges :
    (run step .sample ([.attach "pad" { controllerType := 1 }] ++ linked ++
      [.attach "pad" { controllerType := 1, hasRumble := true }, .arrive 0, .reply 0 none false,
        .ack 2 1, .tick])).Converged :=
  quiescent_converged _ _ _ (by decide +kernel) (by decide +kernel)

/--
Quiescent states that are not converged.  A slot attached while the session is
faltering is told to nobody.  A controller PUT that is lost is not sent again.  One that
is overtaken by a later one of the same slot is the one that stays.  A capability that
is added while the session PUT is out is not seen by the converge.  And a mouse mode is
not granted when the ack that shows the controller PUT comes before its answer.
-/
theorem slots_left_behind :
    (∃ s : Link, s = run step .sample (linked ++ [.miss, .miss, .tick,
        .attach "pad" { controllerType := 1 }, .ack 1 0, .tick]) ∧
      s.Quiescent ∧ ¬ s.Converged) ∧
    (∃ s : Link, s = run step .sample (linked ++ [
        .attach "pad" { controllerType := 1 }, .lose 0, .ack 1 0, .tick]) ∧
      s.Quiescent ∧ ¬ s.Converged) ∧
    (∃ s : Link, s = run step .sample ([.attach "pad" { controllerType := 1 }] ++
        linked ++ [.attach "pad" { controllerType := 1, hasRumble := true },
          .attach "pad" { controllerType := 1, hasMotion := true }, .arrive 1, .arrive 0,
          .reply 1 none false, .reply 0 none false, .ack 3 1, .tick]) ∧
      s.Quiescent ∧ ¬ s.Converged) ∧
    (∃ s : Link, s = run step .sample [.attach "pad" { controllerType := 1 },
        .connect .userInitiated, .attach "pad" { controllerType := 1, hasRumble := true },
        .arrive 0, .reply 0 (some ⟨0, 0⟩) true, .ack 1 1, .tick] ∧
      s.Quiescent ∧ ¬ s.Converged) ∧
    (∃ s : Link, s = run step .sample (linked ++ [
        .attach "pad" { controllerType := 1, touchpadMode := .mouse }, .arrive 0, .ack 2 1,
        .reply 0 none false, .tick]) ∧
      s.Quiescent ∧ ¬ s.Converged) := by
  refine ⟨⟨_, rfl, by decide +kernel, fun h => ?_⟩, ⟨_, rfl, by decide +kernel, fun h => ?_⟩,
    ⟨_, rfl, by decide +kernel, fun h => ?_⟩, ⟨_, rfl, by decide +kernel, fun h => ?_⟩,
    ⟨_, rfl, by decide +kernel, fun h => ?_⟩⟩
  · exact absurd h.registered (by decide +kernel)
  · exact absurd h.registered (by decide +kernel)
  · exact absurd h.holds (by decide +kernel)
  · exact absurd h.holds (by decide +kernel)
  · exact absurd h.mouse (by decide +kernel)

end Dish
