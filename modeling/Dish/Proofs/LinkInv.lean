/-
What still covers each slot of a link.

A slot gets to the satellite in one of three ways: with the session PUT, with its own
controller PUT, or because the bitmap in an ack shows that it is missing.  `LinkInv`
says for each index which of the three is at work, and what is on its way in either
direction.  The lemmas here take it through everything that can happen to a link: a
request is sent, arrives or ends, the connection moves on, a slot changes, a session
starts.  Each states what it needs; the steps of the link are put together from them
in `Proofs/Topology.lean`.
-/
import Dish.Net.Link
import Dish.Proofs.Slots

namespace Dish

open Function WifiConnection

variable {net' : List Exchange}

/-! ### What is on its way -/

/-- The session PUT of a connect or of a re-key. -/
def Request.isSessionPut : Request → Bool
  | .session .. | .rekey .. => true
  | _ => false

/-- A controller PUT of the descriptor has not arrived. -/
def SyncOut (net : List Exchange) (d : ControllerDescriptor) : Prop :=
  ∃ cid, (⟨.sync cid d, none⟩ : Exchange) ∈ net

/-- The confirmation of a controller PUT at the index is on its way back. -/
def SyncBack (net : List Exchange) (i : Nat) : Prop :=
  ∃ cid d resp r, (⟨.sync cid d, some (.controller resp)⟩ : Exchange) ∈ net ∧
    resp.controller = some r ∧ d.ctrlIdx = i

/-- A controller DELETE of the index has not arrived. -/
def RemoveOut (net : List Exchange) (i : Nat) : Prop :=
  ∃ cid, (⟨.remove cid i, none⟩ : Exchange) ∈ net

/-- Indices a satellite has slots for, one descriptor each. -/
def Sendable (sent : List ControllerDescriptor) : Prop :=
  OnePerIndex sent ∧ ∀ d ∈ sent, d.ctrlIdx < kMaxControllers

/-- The answer to a session PUT that was granted whole. -/
structure Grants (cid : String) (sent : List ControllerDescriptor) (mouse : Bool)
    (resp : SessionResponse) : Prop where
  connectionId : resp.connectionId = some cid
  mouseGranted : resp.mouseGranted = mouse
  controllers : resp.controllers = sent.map fun d => ⟨d.ctrlIdx, "ok"⟩

/-- An exchange is about the one session of this satellite, and is answered in kind. -/
def Exchange.WF (cid : String) : Exchange → Prop
  | ⟨.session _ sent mouse, a⟩ =>
    Sendable sent ∧ ∀ ans, a = some ans → ∃ resp, ans = .session resp ∧ Grants cid sent mouse resp
  | ⟨.rekey _ sent _, _⟩ => Sendable sent
  | ⟨.reconcile id, a⟩ => id = cid ∧ ∀ ans, a = some ans → ∃ view, ans = .view view
  | ⟨.sync id d, a⟩ => id = cid ∧ d.ctrlIdx < kMaxControllers ∧ ∀ ans, a = some ans →
      ∃ resp, ans = .controller resp ∧ ∀ r, resp.controller = some r → r = ⟨d.ctrlIdx, "ok"⟩
  | ⟨.remove id _, _⟩ => id = cid
  | ⟨.release _, _⟩ => True

/-! ### The invariant -/

/-- The connection has a session, answering or not. -/
def WifiConnection.InSession (c : WifiConnection) : Prop := c.state = .live ∨ c.state = .faltering

instance (c : WifiConnection) : Decidable c.InSession := inferInstanceAs (Decidable (_ ∨ _))

variable {c c' : WifiConnection} {sat : Satellite} {net rest : List Exchange} {r : Request}
  {x : Exchange} {d : ControllerDescriptor} {i : Nat} {a : Answer} {cid : String}

theorem state_markDisconnected (c : WifiConnection) : c.markDisconnected.state = .idle := by
  unfold markDisconnected
  split
  · rename_i hidle
    exact hidle.1
  · rfl

theorem state_markStale (c : WifiConnection) : c.markStale.state = .stale := by
  unfold markStale
  split
  · rename_i hstale
    exact hstale.1
  · rfl

theorem state_markConnecting (h : c.state ≠ .live) : c.markConnecting.state = .linking := by
  unfold markConnecting
  split
  · exact absurd (by assumption) h
  · rfl
  · rfl

theorem not_inSession_markDisconnected (c : WifiConnection) : ¬ c.markDisconnected.InSession := by
  simp [WifiConnection.InSession, state_markDisconnected]

theorem not_inSession_markStale (c : WifiConnection) : ¬ c.markStale.InSession := by
  simp [WifiConnection.InSession, state_markStale]

theorem not_inSession_markConnecting (h : c.state ≠ .live) : ¬ c.markConnecting.InSession := by
  simp [WifiConnection.InSession, state_markConnecting h]

/-- What will bring the pad `d` wanted at its index to the satellite, or show that it is missing. -/
def Covered (c : WifiConnection) (sat : Satellite) (net : List Exchange)
    (d : ControllerDescriptor) : Prop :=
  c.registeredAt d.ctrlIdx = true ∨ SyncOut net d ∨ SyncBack net d.ctrlIdx ∨
    ((sat.holds d.ctrlIdx).isSome ∧ ¬ RemoveOut net d.ctrlIdx)

/-- A session that is up on both sides. -/
structure SessionInv (c : WifiConnection) (sat : Satellite) (net : List Exchange) : Prop where
  granted : sat.granted = c.mouseControlGranted
  covered : ∀ i d, c.padAt i = some d → Covered c sat net d
  /-- A pad held at the index of a slot is the slot's, or about to be replaced by it. -/
  right : ∀ i d e, c.padAt i = some d → sat.holds i = some e → e = d ∨ SyncOut net d

structure LinkInv (c : WifiConnection) (sat : Satellite) (net : List Exchange) : Prop where
  epoch : 0 ≤ sat.epoch
  inBitmap : c.InBitmap
  indexed : sat.Indexed
  wf : ∀ x ∈ net, x.WF sat.connectionId
  /-- At most one session PUT is out. -/
  one : (net.filter (·.request.isSessionPut)).length ≤ 1
  connecting : ∀ intent sent mouse a, (⟨.session intent sent mouse, a⟩ : Exchange) ∈ net →
    ¬ c.InSession
  /-- A controller PUT still to arrive is of the slot as it is now. -/
  sync : ∀ d, SyncOut net d → ∀ e, c.padAt d.ctrlIdx = some e → e = d
  /-- It does not contradict a session PUT whose answer is awaited. -/
  syncSession : ∀ d, SyncOut net d → ∀ intent sent mouse a,
    (⟨.session intent sent mouse, a⟩ : Exchange) ∈ net →
    ∀ e, Satellite.padsOf sent d.ctrlIdx = some e → e = d
  /-- A re-key still to arrive is of the slots as they are now. -/
  rekey : ∀ client sent mouse, (⟨.rekey client sent mouse, none⟩ : Exchange) ∈ net → c.InSession →
    (∀ i, Satellite.padsOf sent i = c.padAt i) ∧ mouse = c.mouseControlGranted
  /-- A session PUT that arrived is what the satellite holds, up to single controllers. -/
  arrived : ∀ intent sent mouse ans, (⟨.session intent sent mouse, some ans⟩ : Exchange) ∈ net →
    sat.up → sat.granted = mouse ∧
      ∀ i d e, sat.holds i = some d → Satellite.padsOf sent i = some e → d = e
  session : c.InSession → c.connectionId = some sat.connectionId ∧ (sat.up → SessionInv c sat net)

/-- What covers a pad is carried over part by part. -/
theorem Covered.imp {sat' : Satellite} (h : Covered c sat net d)
    (hreg : c.registeredAt d.ctrlIdx = true → c'.registeredAt d.ctrlIdx = true)
    (hout : SyncOut net d → SyncOut net' d) (hback : SyncBack net d.ctrlIdx → SyncBack net' d.ctrlIdx)
    (hheld : (sat.holds d.ctrlIdx).isSome ∧ ¬ RemoveOut net d.ctrlIdx →
      (sat'.holds d.ctrlIdx).isSome ∧ ¬ RemoveOut net' d.ctrlIdx) : Covered c' sat' net' d := by
  rcases h with h | h | h | h
  · exact .inl (hreg h)
  · exact .inr (.inl (hout h))
  · exact .inr (.inr (.inl (hback h)))
  · exact .inr (.inr (.inr (hheld h)))

/-- Other exchanges that cover each pad as well. -/
theorem SessionInv.imp (h : SessionInv c sat net)
    (hcovered : ∀ i d, c.padAt i = some d → Covered c sat net d → Covered c sat net' d)
    (hout : ∀ i d, c.padAt i = some d → SyncOut net d → SyncOut net' d) : SessionInv c sat net' :=
  ⟨h.granted, fun i d hd => hcovered i d hd (h.covered i d hd),
    fun i d e hd he => (h.right i d e hd he).imp_right (hout i d hd)⟩

/-- Fewer exchanges, as far as they still cover the session's pads. -/
theorem LinkInv.sub (h : LinkInv c sat net) (hsub : ∀ x ∈ net', x ∈ net)
    (hone : (net'.filter (·.request.isSessionPut)).length ≤ 1)
    (hsession : c.InSession → sat.up → SessionInv c sat net → SessionInv c sat net') :
    LinkInv c sat net' := by
  have hout : ∀ d, SyncOut net' d → SyncOut net d := fun d ⟨cid, hx⟩ => ⟨cid, hsub _ hx⟩
  refine ⟨h.epoch, h.inBitmap, h.indexed, fun x hx => h.wf x (hsub x hx), hone, ?_, ?_, ?_, ?_, ?_, ?_⟩
  · exact fun intent sent mouse a hx => h.connecting intent sent mouse a (hsub _ hx)
  · exact fun d hd => h.sync d (hout d hd)
  · exact fun d hd intent sent mouse a hx =>
      h.syncSession d (hout d hd) intent sent mouse a (hsub _ hx)
  · exact fun client sent mouse hx => h.rekey client sent mouse (hsub _ hx)
  · exact fun intent sent mouse ans hx => h.arrived intent sent mouse ans (hsub _ hx)
  · exact fun hin => ⟨(h.session hin).1, fun hup => hsession hin hup ((h.session hin).2 hup)⟩

/-! ### Sending -/

theorem syncOut_append :
    SyncOut (net ++ [⟨r, none⟩]) d ↔ SyncOut net d ∨ ∃ cid, r = .sync cid d := by
  unfold SyncOut
  simp only [List.mem_append, List.mem_singleton, exists_or, Exchange.mk.injEq, and_true]
  simp only [eq_comm]

theorem syncBack_append : SyncBack (net ++ [⟨r, none⟩]) i ↔ SyncBack net i := by
  unfold SyncBack
  simp [List.mem_append]

theorem removeOut_append :
    RemoveOut (net ++ [⟨r, none⟩]) i ↔ RemoveOut net i ∨ ∃ cid, r = .remove cid i := by
  unfold RemoveOut
  simp only [List.mem_append, List.mem_singleton, exists_or, Exchange.mk.injEq, and_true]
  simp only [eq_comm]

/-- What has to hold when a request is sent. -/
def NewOk (c : WifiConnection) (sat : Satellite) (net : List Exchange) : Request → Prop
  | .session _ sent mouse => (∀ x ∈ net, x.request.isSessionPut = false) ∧ ¬ c.InSession ∧
      sent = c.desiredDescriptors ∧ mouse = c.wantsMouseControl
  | .rekey _ sent mouse => (∀ x ∈ net, x.request.isSessionPut = false) ∧
      sent = c.desiredDescriptors ∧ mouse = c.mouseControlGranted
  | .reconcile cid => cid = sat.connectionId
  | .sync cid d => cid = sat.connectionId ∧ c.padAt d.ctrlIdx = some d ∧ c.InSession
  | .remove cid i => cid = sat.connectionId ∧ c.padAt i = none
  | .release _ => True

theorem Sendable.wireIndexed {sent : List ControllerDescriptor} (h : Sendable sent) :
    WireIndexed sent :=
  fun d hd => Nat.lt_trans (h.2 d hd) (by decide)

theorem sendable_desired (h : c.InBitmap) : Sendable c.desiredDescriptors := by
  refine ⟨onePerIndex_desired c, fun d hd => h d.ctrlIdx ?_⟩
  rw [c.padAt_eq_some.mpr ⟨hd, rfl⟩]
  rfl

theorem NewOk.wf
    (hbits : c.InBitmap) (h : NewOk c sat net r) : Exchange.WF sat.connectionId ⟨r, none⟩ := by
  cases r with
  | session => exact ⟨h.2.2.1 ▸ sendable_desired hbits, nofun⟩
  | rekey client sent =>
    show Sendable sent
    exact h.2.1 ▸ sendable_desired hbits
  | reconcile => exact ⟨h, nofun⟩
  | sync => exact ⟨h.1, hbits _ (by rw [h.2.1]; rfl), nofun⟩
  | remove => exact h.1
  | release => trivial

theorem NewOk.one
    (h : NewOk c sat net r) (hone : (net.filter (·.request.isSessionPut)).length ≤ 1) :
    ((net ++ [(⟨r, none⟩ : Exchange)]).filter (·.request.isSessionPut)).length ≤ 1 := by
  cases hr : r.isSessionPut with
  | false => simpa [hr] using hone
  | true =>
    have hnone : ∀ x ∈ net, x.request.isSessionPut = false := by
      cases r with
      | session | rekey => exact h.1
      | _ => exact nomatch hr
    have hempty : net.filter (·.request.isSessionPut) = [] :=
      List.filter_eq_nil_iff.mpr fun x hx => by simp [hnone x hx]
    simp [hempty, hr]

theorem LinkInv.send
    (h : LinkInv c sat net) (hr : NewOk c sat net r) : LinkInv c sat (net ++ [⟨r, none⟩]) := by
  have hmem : ∀ x : Exchange, x ∈ net ++ [⟨r, none⟩] → x ∈ net ∨ x = ⟨r, none⟩ := by simp
  refine ⟨h.epoch, h.inBitmap, h.indexed, ?_, hr.one h.one, ?_, ?_, ?_, ?_, ?_, ?_⟩
  · intro x hx
    rcases hmem x hx with hx | rfl
    · exact h.wf x hx
    · exact hr.wf h.inBitmap
  · intro intent sent mouse a hx
    rcases hmem _ hx with hx | heq
    · exact h.connecting intent sent mouse a hx
    · injection heq with heq _
      subst heq
      exact hr.2.1
  · intro d hd e he
    rcases syncOut_append.mp hd with hd | ⟨cid, rfl⟩
    · exact h.sync d hd e he
    · rw [hr.2.1] at he
      exact (Option.some.inj he).symm
  · intro d hd intent sent mouse a hx e he
    rcases hmem _ hx with hold | heq
    · rcases syncOut_append.mp hd with hd | ⟨cid, rfl⟩
      · exact h.syncSession d hd intent sent mouse a hold e he
      · exact absurd hr.2.2 (h.connecting intent sent mouse a hold)
    · injection heq with heq _
      subst heq
      rcases syncOut_append.mp hd with hd | ⟨cid, heq⟩
      · rw [hr.2.2.1, c.padsOf_desired] at he
        exact h.sync d hd e he
      · exact nomatch heq
  · intro client sent mouse hx hin
    rcases hmem _ hx with hx | heq
    · exact h.rekey client sent mouse hx hin
    · injection heq with heq _
      subst heq
      obtain ⟨-, rfl, rfl⟩ := hr
      exact ⟨c.padsOf_desired, rfl⟩
  · intro intent sent mouse ans hx hup
    rcases hmem _ hx with hx | heq
    · exact h.arrived intent sent mouse ans hx hup
    · exact nomatch heq
  · intro hin
    have hout : ∀ d, SyncOut net d → SyncOut (net ++ [⟨r, none⟩]) d :=
      fun d hd => syncOut_append.mpr (.inl hd)
    refine ⟨(h.session hin).1, fun hu => ((h.session hin).2 hu).imp (fun i d hd hcovered => ?_)
      fun i d _ => hout d⟩
    refine hcovered.imp id (hout d) syncBack_append.mpr (And.imp_right fun hremove hsent => ?_)
    rcases removeOut_append.mp hsent with hsent | ⟨cid, rfl⟩
    · exact hremove hsent
    · have hnone : c.padAt d.ctrlIdx = none := hr.2
      rw [ctrlIdx_of_padAt hd, hd] at hnone
      exact nomatch hnone

/-! ### The connection moves on -/

/-- Same slots, same marks, same session. -/
structure SameSession (c c' : WifiConnection) : Prop where
  slots : WifiConnection.SameSlots c c'
  marks : ∀ i, c.registeredAt i = true → c'.registeredAt i = true
  inSession : c'.InSession → c.InSession
  connectionId : c'.connectionId = c.connectionId
  granted : c'.mouseControlGranted = c.mouseControlGranted

theorem inBitmap_of_sameSlots (h : WifiConnection.SameSlots c c')
    (hbits : c.InBitmap) : c'.InBitmap := by
  intro i hi
  rw [h i] at hi
  exact hbits i hi

theorem LinkInv.sameSession
    (h : LinkInv c sat net) (hc : SameSession c c') : LinkInv c' sat net := by
  refine ⟨h.epoch, inBitmap_of_sameSlots hc.slots h.inBitmap, h.indexed, h.wf, h.one, ?_, ?_,
    h.syncSession, ?_, h.arrived, ?_⟩
  · exact fun intent sent mouse a hx hin => h.connecting intent sent mouse a hx (hc.inSession hin)
  · intro d hd e he
    rw [hc.slots] at he
    exact h.sync d hd e he
  · intro client sent mouse hx hin
    obtain ⟨hpads, hmouse⟩ := h.rekey client sent mouse hx (hc.inSession hin)
    exact ⟨fun i => (hpads i).trans (hc.slots i).symm, hmouse.trans hc.granted.symm⟩
  · intro hin
    obtain ⟨hcid, hup⟩ := h.session (hc.inSession hin)
    refine ⟨hc.connectionId.trans hcid, fun hu => ?_⟩
    obtain ⟨hgranted, hcovered, hright⟩ := hup hu
    refine ⟨hgranted.trans hc.granted.symm, fun i d hd => ?_, fun i d e hd he => ?_⟩
    · rw [hc.slots] at hd
      exact (hcovered i d hd).imp_left (hc.marks _)
    · rw [hc.slots] at hd
      exact hright i d e hd he

theorem LinkInv.leave
    (h : LinkInv c sat net) (hslots : WifiConnection.SameSlots c c') (hout : ¬ c'.InSession) :
    LinkInv c' sat net := by
  refine ⟨h.epoch, inBitmap_of_sameSlots hslots h.inBitmap, h.indexed, h.wf, h.one,
    fun _ _ _ _ _ => hout, ?_, h.syncSession, fun _ _ _ _ hin => absurd hin hout, h.arrived,
    fun hin => absurd hin hout⟩
  intro d hd e he
  rw [hslots] at he
  exact h.sync d hd e he

/-! ### Arriving -/

theorem LinkInv.perm (h : LinkInv c sat net) (hp : net.Perm net') :
    LinkInv c sat net' := by
  have hmem : ∀ x : Exchange, x ∈ net' ↔ x ∈ net := fun x => (hp.mem_iff).symm
  have hout : ∀ d, SyncOut net' d ↔ SyncOut net d := fun d => by simp only [SyncOut, hmem]
  have hback : ∀ i, SyncBack net' i ↔ SyncBack net i := fun i => by simp only [SyncBack, hmem]
  have hremove : ∀ i, RemoveOut net' i ↔ RemoveOut net i := fun i => by simp only [RemoveOut, hmem]
  refine h.sub (fun x hx => (hmem x).mp hx) ((hp.filter _).length_eq ▸ h.one) fun _ _ hsession => ?_
  refine hsession.imp (fun i d _ hcovered => ?_) fun i d _ => (hout d).mpr
  exact hcovered.imp id (hout d).mpr (hback _).mpr (And.imp_right fun hr hr' => hr ((hremove _).mp hr'))

/-- The exchange is off the wire. -/
abbrev Link.popped (s : Link) (k : Nat) : Link := { s with net := s.net.eraseIdx k }

theorem perm_eraseIdx {α : Type} {net : List α} {k : Nat} {x : α} (hx : net[k]? = some x) :
    net.Perm (x :: net.eraseIdx k) := by
  obtain ⟨hk, rfl⟩ := List.getElem?_eq_some_iff.mp hx
  exact (List.getElem_cons_eraseIdx_perm hk).symm

theorem perm_set {k : Nat} (hx : net[k]? = some x)
    (y : Exchange) : (net.set k y).Perm (y :: net.eraseIdx k) := by
  obtain ⟨hk, -⟩ := List.getElem?_eq_some_iff.mp hx
  have hset : (net.set k y)[k]? = some y := by simp [hk]
  have := perm_eraseIdx hset
  rwa [List.eraseIdx_set_eq] at this

theorem syncOut_cons :
    SyncOut (x :: rest) d ↔ (∃ cid, x = ⟨.sync cid d, none⟩) ∨ SyncOut rest d := by
  unfold SyncOut
  simp only [List.mem_cons, exists_or]
  simp only [eq_comm]

theorem removeOut_cons :
    RemoveOut (x :: rest) i ↔ (∃ cid, x = ⟨.remove cid i, none⟩) ∨ RemoveOut rest i := by
  unfold RemoveOut
  simp only [List.mem_cons, exists_or]
  simp only [eq_comm]

theorem SyncOut.tail (h : SyncOut (⟨r, some a⟩ :: rest) d) : SyncOut rest d := by
  rcases syncOut_cons.mp h with ⟨cid, heq⟩ | h
  · exact nomatch heq
  · exact h

theorem SyncBack.mono {net : List Exchange} (h : SyncBack net i)
    (hsub : ∀ x : Exchange, x.answer.isSome → x ∈ net → x ∈ net') : SyncBack net' i := by
  obtain ⟨cid, d, resp, res, hx, hr, hi⟩ := h
  exact ⟨cid, d, resp, res, hsub _ rfl hx, hr, hi⟩

theorem LinkInv.rest_of_sessionPut {a : Option Answer} (h : LinkInv c sat (⟨r, a⟩ :: rest))
    (hr : r.isSessionPut = true) (hx : x ∈ rest) : x.request.isSessionPut = false := by
  have hone := h.one
  rw [List.filter_cons_of_pos (by simpa using hr), List.length_cons] at hone
  have hnil : rest.filter (·.request.isSessionPut) = [] :=
    List.eq_nil_of_length_eq_zero (by omega)
  simpa using List.filter_eq_nil_iff.mp hnil x hx

variable {sat' : Satellite}

/-- What stays true of the exchanges when one of them is answered. -/
theorem LinkInv.answer (h : LinkInv c sat (⟨r, none⟩ :: rest))
    (hepoch : 0 ≤ sat'.epoch) (hindexed : sat'.Indexed)
    (hcid : sat'.connectionId = sat.connectionId)
    (hwf : Exchange.WF sat.connectionId ⟨r, some a⟩)
    (harrived : ∀ intent sent mouse ans,
      (⟨.session intent sent mouse, some ans⟩ : Exchange) ∈ (⟨r, some a⟩ : Exchange) :: rest →
      sat'.up → sat'.granted = mouse ∧
        ∀ i d e, sat'.holds i = some d → Satellite.padsOf sent i = some e → d = e)
    (hsession : c.InSession → sat'.up → SessionInv c sat' (⟨r, some a⟩ :: rest)) :
    LinkInv c sat' (⟨r, some a⟩ :: rest) := by
  refine ⟨hepoch, h.inBitmap, hindexed, ?_, ?_, ?_, ?_, ?_, ?_, harrived, ?_⟩
  · intro x hx
    rw [hcid]
    rcases List.mem_cons.mp hx with rfl | hx
    · exact hwf
    · exact h.wf x (List.mem_cons_of_mem _ hx)
  · have hone := h.one
    cases hr : r.isSessionPut <;> simpa [List.filter_cons, hr] using hone
  · intro intent sent mouse ans hx
    rcases List.mem_cons.mp hx with heq | hx
    · injection heq with heq _
      subst heq
      exact h.connecting intent sent mouse none List.mem_cons_self
    · exact h.connecting intent sent mouse ans (List.mem_cons_of_mem _ hx)
  · exact fun d hd => h.sync d (syncOut_cons.mpr (.inr hd.tail))
  · intro d hd intent sent mouse ans hx
    rcases List.mem_cons.mp hx with heq | hx
    · injection heq with heq _
      subst heq
      exact h.syncSession d (syncOut_cons.mpr (.inr hd.tail)) intent sent mouse none
        List.mem_cons_self
    · exact h.syncSession d (syncOut_cons.mpr (.inr hd.tail)) intent sent mouse ans
        (List.mem_cons_of_mem _ hx)
  · intro client sent mouse hx
    rcases List.mem_cons.mp hx with heq | hx
    · exact nomatch heq
    · exact h.rekey client sent mouse (List.mem_cons_of_mem _ hx)
  · exact fun hin => ⟨hcid ▸ (h.session hin).1, hsession hin⟩

variable {sent : List ControllerDescriptor}

theorem indexed_padsOf (h : Sendable sent) (i : Nat)
    (d : ControllerDescriptor) (hd : Satellite.padsOf sent i = some d) :
    d.ctrlIdx = i ∧ i < kMaxControllers := by
  obtain ⟨hmem, hidx⟩ := (padsOf_eq_some h.1).mp hd
  exact ⟨hidx, hidx ▸ h.2 d hmem⟩

variable {mouse : Bool} {intent : ConnectIntent}

theorem arrive_session (h : LinkInv c sat (⟨.session intent sent mouse, none⟩ :: rest)) :
    LinkInv c (sat.serve (.putSession sent mouse)).1
      (⟨.session intent sent mouse, some (sat.serve (.putSession sent mouse)).2⟩ :: rest) := by
  have hepoch := h.epoch
  obtain ⟨hone, hbits⟩ := (h.wf _ List.mem_cons_self).1
  have hout := h.connecting intent sent mouse none List.mem_cons_self
  refine h.answer (show (0 : Int) ≤ sat.epoch + 1 by omega) ?_ rfl
    ⟨⟨hone, hbits⟩, ?_⟩ ?_ fun hin => absurd hin hout
  · exact indexed_padsOf ⟨hone, hbits⟩
  · rintro ans heq
    injection heq with heq
    subst heq
    exact ⟨_, rfl, rfl, rfl, rfl⟩
  · intro intent' sent' mouse' ans hx _
    rcases List.mem_cons.mp hx with heq | hx
    · injection heq with heq _
      injection heq with _ hsent hmouse
      subst hsent hmouse
      refine ⟨rfl, fun i d e hd he => ?_⟩
      have hd' : Satellite.padsOf sent' i = some d := hd
      exact Option.some.inj (hd'.symm.trans he)
    · exact absurd (h.rest_of_sessionPut rfl hx) (by simp [Request.isSessionPut])

theorem SyncOut.answered (h : SyncOut (⟨r, none⟩ :: rest) d) (hr : ∀ cid, r ≠ .sync cid d) :
    SyncOut (⟨r, some a⟩ :: rest) d := by
  rcases syncOut_cons.mp h with ⟨cid, heq⟩ | h
  · injection heq with heq _
    exact absurd heq (hr cid)
  · exact syncOut_cons.mpr (.inr h)

theorem not_removeOut_answered (h : ¬ RemoveOut rest i) : ¬ RemoveOut (⟨r, some a⟩ :: rest) i := by
  intro hout
  rcases removeOut_cons.mp hout with ⟨cid, heq⟩ | hout
  · exact nomatch heq
  · exact h hout

theorem Covered.answered (h : Covered c sat (⟨r, none⟩ :: rest) d) (hr : ∀ cid, r ≠ .sync cid d)
    (hheld : (sat.holds d.ctrlIdx).isSome → ¬ RemoveOut (⟨r, none⟩ :: rest) d.ctrlIdx →
      (sat'.holds d.ctrlIdx).isSome) :
    Covered c sat' (⟨r, some a⟩ :: rest) d := by
  refine h.imp id (fun hout => hout.answered hr) (fun hback => hback.mono fun x hans hx => ?_)
    fun ⟨hholds, hremove⟩ => ⟨hheld hholds hremove,
      not_removeOut_answered fun hout => hremove (removeOut_cons.mpr (.inr hout))⟩
  rcases List.mem_cons.mp hx with rfl | hx
  · exact nomatch hans
  · exact List.mem_cons_of_mem _ hx

/-- A re-key that arrives brings every slot, so only a DELETE behind it can take one away. -/
theorem arrive_rekey {client : Nat} (h : LinkInv c sat (⟨.rekey client sent mouse, none⟩ :: rest))
    (hdown : sat.up ∨ ∀ i, RemoveOut rest i → c.padAt i = none) :
    LinkInv c (sat.serve (.putSession sent mouse)).1
      (⟨.rekey client sent mouse, some (sat.serve (.putSession sent mouse)).2⟩ :: rest) := by
  have hepoch := h.epoch
  obtain ⟨hone, hbits⟩ : Sendable sent := h.wf _ List.mem_cons_self
  refine h.answer (show (0 : Int) ≤ sat.epoch + 1 by omega) ?_ rfl ⟨hone, hbits⟩ ?_ ?_
  · exact indexed_padsOf ⟨hone, hbits⟩
  · intro intent' sent' mouse' ans hx _
    rcases List.mem_cons.mp hx with heq | hx
    · exact nomatch heq
    · exact absurd (h.rest_of_sessionPut rfl hx) (by simp [Request.isSessionPut])
  · intro hin _
    obtain ⟨hpads, hmouse⟩ := h.rekey client sent mouse List.mem_cons_self hin
    have hholds : ∀ i, (sat.serve (.putSession sent mouse)).1.holds i = c.padAt i := hpads
    refine ⟨hmouse, fun i d hd => ?_, fun i d e hd he => ?_⟩
    · have hidx := ctrlIdx_of_padAt hd
      have hheld : ((sat.serve (.putSession sent mouse)).1.holds d.ctrlIdx).isSome := by
        rw [hholds, hidx, hd]
        rfl
      by_cases hremove : RemoveOut rest d.ctrlIdx
      · -- the slot was covered without being held, and still is
        rcases hdown with hup | hnone
        · exact (((h.session hin).2 hup).covered i d hd).answered (fun _ => nofun)
            fun _ hno => absurd (removeOut_cons.mpr (.inr hremove)) hno
        · rw [hidx] at hremove
          rw [hnone i hremove] at hd
          exact nomatch hd
      · exact .inr (.inr (.inr ⟨hheld, not_removeOut_answered hremove⟩))
    · rw [hholds, hd] at he
      exact .inl (Option.some.inj he).symm

theorem LinkInv.answer_idle (h : LinkInv c sat (⟨r, none⟩ :: rest))
    (hwf : Exchange.WF sat.connectionId ⟨r, some a⟩)
    (hsession : c.InSession → sat.up → SessionInv c sat (⟨r, some a⟩ :: rest))
    (hr : r.isSessionPut = false) : LinkInv c sat (⟨r, some a⟩ :: rest) := by
  refine h.answer h.epoch h.indexed rfl hwf ?_ hsession
  intro intent sent mouse ans hx
  rcases List.mem_cons.mp hx with heq | hx
  · injection heq with heq _
    subst heq
    exact nomatch hr
  · exact h.arrived intent sent mouse ans (List.mem_cons_of_mem _ hx)

theorem arrive_sync (h : LinkInv c sat (⟨.sync cid d, none⟩ :: rest)) :
    LinkInv c (sat.serve (.putController cid d)).1
      (⟨.sync cid d, some (sat.serve (.putController cid d)).2⟩ :: rest) := by
  obtain ⟨hcid, hlt, -⟩ := h.wf _ List.mem_cons_self
  have hepoch := h.epoch
  by_cases hup : sat.up
  · have hserve : sat.serve (.putController cid d) =
        ({ sat with
            epoch := sat.epoch + 1, holds := update sat.holds d.ctrlIdx (some d) },
          .controller { epoch := sat.epoch + 1, controller := some ⟨d.ctrlIdx, "ok"⟩ }) :=
      if_pos ⟨hup, hcid⟩
    rw [hserve]
    refine h.answer (show (0 : Int) ≤ sat.epoch + 1 by omega) ?_ rfl ⟨hcid, hlt, ?_⟩ ?_ ?_
    · intro i e he
      by_cases hi : i = d.ctrlIdx
      · subst hi
        have : d = e := by simpa using he
        exact ⟨this ▸ rfl, hlt⟩
      · exact h.indexed i e (by simpa [update_of_ne hi] using he)
    · rintro ans heq
      injection heq with heq
      exact ⟨_, heq.symm, fun r hr => (Option.some.inj hr).symm⟩
    · intro intent sent mouse ans hx _
      rcases List.mem_cons.mp hx with heq | hx
      · exact nomatch heq
      · obtain ⟨hmouse, hpads⟩ := h.arrived intent sent mouse ans (List.mem_cons_of_mem _ hx) hup
        refine ⟨hmouse, fun i e f he hf => ?_⟩
        by_cases hi : i = d.ctrlIdx
        · subst hi
          have hde : d = e := by simpa using he
          exact hde ▸ (h.syncSession d (syncOut_cons.mpr (.inl ⟨cid, rfl⟩)) intent sent mouse _
            (List.mem_cons_of_mem _ hx) f hf).symm
        · exact hpads i e f (by simpa [update_of_ne hi] using he) hf
    · intro hin _
      obtain ⟨hgranted, hcovered, hright⟩ := (h.session hin).2 hup
      have hown : ∀ e, c.padAt d.ctrlIdx = some e → e = d :=
        h.sync d (syncOut_cons.mpr (.inl ⟨cid, rfl⟩))
      refine ⟨hgranted, fun i e he => ?_, fun i e f he hf => ?_⟩
      · have hidx := ctrlIdx_of_padAt he
        by_cases hi : i = d.ctrlIdx
        · subst hi
          obtain rfl := hown e he
          exact .inr (.inr (.inl ⟨cid, e, _, _, List.mem_cons_self, rfl, rfl⟩))
        · refine (hcovered i e he).answered ?_ fun hheld _ => ?_
          · rintro cid' heq
            injection heq with _ heq
            exact hi (by rw [heq, hidx])
          · show (update sat.holds d.ctrlIdx (some d) e.ctrlIdx).isSome
            rwa [update_of_ne (by rwa [hidx])]
      · by_cases hi : i = d.ctrlIdx
        · subst hi
          have hdf : d = f := by simpa using hf
          exact .inl (by rw [← hdf, hown e he])
        · have hf' : sat.holds i = some f := by simpa [update_of_ne hi] using hf
          rcases hright i e f he hf' with heq | hout
          · exact .inl heq
          · refine .inr (hout.answered fun cid' heq => ?_)
            injection heq with _ heq
            exact absurd (ctrlIdx_of_padAt he) (by rw [← heq]; exact Ne.symm hi)
  · have hserve : sat.serve (.putController cid d) =
        (sat, .controller { error := some "not found" }) := if_neg fun hc => hup hc.1
    rw [hserve]
    refine h.answer_idle ⟨hcid, hlt, ?_⟩ (fun _ hu => absurd hu hup) rfl
    rintro ans heq
    injection heq with heq
    exact ⟨_, heq.symm, fun r hr => nomatch hr⟩

theorem arrive_remove (h : LinkInv c sat (⟨.remove cid i, none⟩ :: rest)) :
    LinkInv c (sat.serve (.deleteController cid i)).1
      (⟨.remove cid i, some (sat.serve (.deleteController cid i)).2⟩ :: rest) := by
  have hcid : cid = sat.connectionId := h.wf _ List.mem_cons_self
  have hepoch := h.epoch
  by_cases hup : sat.up
  · have hserve : sat.serve (.deleteController cid i) =
        ({ sat with epoch := sat.epoch + 1, holds := update sat.holds i none },
          .controller { epoch := sat.epoch + 1 }) := if_pos ⟨hup, hcid⟩
    rw [hserve]
    have hholds : ∀ j e, update sat.holds i none j = some e → sat.holds j = some e := by
      intro j e he
      by_cases hj : j = i
      · subst hj
        simp at he
      · rwa [update_of_ne hj] at he
    refine h.answer (show (0 : Int) ≤ sat.epoch + 1 by omega)
      (fun j e he => h.indexed j e (hholds j e he)) rfl hcid ?_ ?_
    · intro intent sent mouse ans hx _
      rcases List.mem_cons.mp hx with heq | hx
      · exact nomatch heq
      · obtain ⟨hmouse, hpads⟩ := h.arrived intent sent mouse ans (List.mem_cons_of_mem _ hx) hup
        exact ⟨hmouse, fun j e f he hf => hpads j e f (hholds j e he) hf⟩
    · intro hin _
      obtain ⟨hgranted, hcovered, hright⟩ := (h.session hin).2 hup
      refine ⟨hgranted, fun j e he => ?_, fun j e f he hf => ?_⟩
      · refine (hcovered j e he).answered (fun _ => nofun) fun hheld hno => ?_
        have hj : e.ctrlIdx ≠ i := fun hj => hno (removeOut_cons.mpr (.inl ⟨cid, by rw [hj]⟩))
        show (update sat.holds i none e.ctrlIdx).isSome
        rwa [update_of_ne hj]
      · exact (hright j e f he (hholds j f hf)).imp_right fun hout => hout.answered fun _ => nofun
  · have hserve : sat.serve (.deleteController cid i) =
        (sat, .controller { error := some "not found" }) := if_neg fun hc => hup hc.1
    rw [hserve]
    exact h.answer_idle hcid (fun _ hu => absurd hu hup) rfl

/-- A pad still awaited, or held, is so after a request that touches no pad is answered. -/
theorem SessionInv.answered (h : SessionInv c sat (⟨r, none⟩ :: rest))
    (hr : ∀ cid d, r ≠ .sync cid d) : SessionInv c sat (⟨r, some a⟩ :: rest) := by
  refine ⟨h.granted, fun i d hd => (h.covered i d hd).answered (fun cid => hr cid d)
    fun hheld _ => hheld, fun i d e hd he => ?_⟩
  exact (h.right i d e hd he).imp_right fun hout => hout.answered fun cid => hr cid d

theorem arrive_reconcile (h : LinkInv c sat (⟨.reconcile cid, none⟩ :: rest)) :
    LinkInv c (sat.serve (.getSession cid)).1
      (⟨.reconcile cid, some (sat.serve (.getSession cid)).2⟩ :: rest) := by
  obtain ⟨hcid, -⟩ := h.wf _ List.mem_cons_self
  obtain ⟨view, hserve⟩ : ∃ view, sat.serve (.getSession cid) = (sat, .view view) := by
    simp only [Satellite.serve]
    split <;> exact ⟨_, rfl⟩
  rw [hserve]
  refine h.answer_idle ⟨hcid, fun ans heq => ⟨view, (Option.some.inj heq).symm⟩⟩ ?_ rfl
  refine fun hin hup => ((h.session hin).2 hup).answered fun _ _ heq => ?_
  cases heq

theorem arrive_release (h : LinkInv c sat (⟨.release cid, none⟩ :: rest)) :
    LinkInv c (sat.serve (.deleteSession cid)).1
      (⟨.release cid, some (sat.serve (.deleteSession cid)).2⟩ :: rest) := by
  by_cases hcond : sat.up ∧ cid = sat.connectionId
  · have hserve : sat.serve (.deleteSession cid) =
        ({ sat with up := false, holds := fun _ => none, granted := false }, .released) :=
      if_pos hcond
    rw [hserve]
    exact h.answer h.epoch (fun _ _ => nofun) rfl trivial (fun _ _ _ _ _ => nofun) fun _ => nofun
  · have hserve : sat.serve (.deleteSession cid) = (sat, .released) := if_neg hcond
    rw [hserve]
    exact h.answer_idle trivial
      (fun hin hup => ((h.session hin).2 hup).answered fun _ _ => nofun) rfl

theorem LinkInv.arrive (h : LinkInv c sat (⟨r, none⟩ :: rest))
    (hok : ∀ client sent mouse, r = .rekey client sent mouse →
      sat.up ∨ ∀ i, RemoveOut rest i → c.padAt i = none) :
    LinkInv c (sat.serve r.call).1 (⟨r, some (sat.serve r.call).2⟩ :: rest) := by
  cases r with
  | session => exact arrive_session h
  | rekey client sent mouse => exact arrive_rekey h (hok client sent mouse rfl)
  | reconcile => exact arrive_reconcile h
  | sync => exact arrive_sync h
  | remove => exact arrive_remove h
  | release => exact arrive_release h

/-! ### Coming back -/

/-- What has to hold when an exchange ends, so that no slot is left with nothing. -/
structure EndOk (c : WifiConnection) (sat : Satellite) (rest : List Exchange) (x : Exchange) :
    Prop where
  /-- A controller PUT that never arrived is of no slot. -/
  out : ∀ cid d, x = ⟨.sync cid d, none⟩ → c.InSession → sat.up → c.padAt d.ctrlIdx = none
  /-- A confirmation is taken note of, or the pad is there to be seen. -/
  back : ∀ cid d resp r, x = ⟨.sync cid d, some (.controller resp)⟩ → resp.controller = some r →
    c.InSession → sat.up → (c.padAt d.ctrlIdx).isSome →
    c.registeredAt d.ctrlIdx = true ∨ ((sat.holds d.ctrlIdx).isSome ∧ ¬ RemoveOut rest d.ctrlIdx)

theorem endOk_of_not_sync {a : Option Answer} (hr : ∀ cid d, r ≠ .sync cid d) :
    EndOk c sat rest ⟨r, a⟩ := by
  refine ⟨fun cid d heq => ?_, fun cid d resp res heq => ?_⟩
  · injection heq with heq _
    exact absurd heq (hr cid d)
  · injection heq with heq _
    exact absurd heq (hr cid d)

theorem LinkInv.done (h : LinkInv c sat (x :: rest)) (hok : EndOk c sat rest x) :
    LinkInv c sat rest := by
  refine h.sub (fun y hy => List.mem_cons_of_mem _ hy) ?_ fun hin hu hsession => ?_
  · have hsub := ((List.sublist_cons_self x rest).filter (·.request.isSessionPut)).length_le
    exact hsub.trans h.one
  have hpad : ∀ i d, c.padAt i = some d → SyncOut (x :: rest) d → SyncOut rest d := by
    intro i d hd hout
    rcases syncOut_cons.mp hout with ⟨cid, heq⟩ | hout
    · have hnone := hok.out cid d heq hin hu
      rw [ctrlIdx_of_padAt hd, hd] at hnone
      exact nomatch hnone
    · exact hout
  refine hsession.imp (fun i d hd hcovered => ?_) hpad
  rcases hcovered with hreg | hout | ⟨cid, d', resp, r, hy, hr, hi⟩ | ⟨hheld, hremove⟩
  · exact .inl hreg
  · exact .inr (.inl (hpad i d hd hout))
  · rcases List.mem_cons.mp hy with heq | hy
    · have hsome : (c.padAt d'.ctrlIdx).isSome := by
        rw [hi, ctrlIdx_of_padAt hd, hd]
        rfl
      rcases hok.back cid d' resp r heq.symm hr hin hu hsome with hreg | hheld
      · exact .inl (hi ▸ hreg)
      · exact .inr (.inr (.inr (hi ▸ hheld)))
    · exact .inr (.inr (.inl ⟨cid, d', resp, r, hy, hr, hi⟩))
  · exact .inr (.inr (.inr ⟨hheld, fun hout => hremove (removeOut_cons.mpr (.inr hout))⟩))

/-! ### A slot changes -/

variable {idx : Nat}

/-- One index is declared anew; the session and the other slots are as they were. -/
structure SlotChange (c c' : WifiConnection) (idx : Nat) : Prop where
  pads : ∀ i, i ≠ idx → c'.padAt i = c.padAt i
  marks : ∀ i, i ≠ idx → c'.registeredAt i = c.registeredAt i
  state : c'.state = c.state
  connectionId : c'.connectionId = c.connectionId
  granted : c'.mouseControlGranted = c.mouseControlGranted

theorem SlotChange.inSession (h : SlotChange c c' idx) : c'.InSession ↔ c.InSession := by
  unfold WifiConnection.InSession
  rw [h.state]

theorem Covered.slotChange (hc : SlotChange c c' idx)
    (hne : d.ctrlIdx ≠ idx) (h : Covered c sat net d) : Covered c' sat net d := by
  unfold Covered at h ⊢
  rwa [hc.marks _ hne]

section
variable (h : LinkInv c sat net) (hc : SlotChange c c' idx) (hbits : c'.InBitmap)
include h hc hbits

theorem LinkInv.slotChange
    (hsync : ∀ d, SyncOut net d → d.ctrlIdx = idx → c'.padAt idx = none)
    (hrekey : ∀ client sent mouse, (⟨.rekey client sent mouse, none⟩ : Exchange) ∈ net →
      ¬ c.InSession)
    (hgone : c.InSession → c'.padAt idx = none) : LinkInv c' sat net := by
  refine ⟨h.epoch, hbits, h.indexed, h.wf, h.one, ?_, ?_, h.syncSession, ?_, h.arrived, ?_⟩
  · exact fun intent sent mouse a hx hin =>
      h.connecting intent sent mouse a hx (hc.inSession.mp hin)
  · intro d hd e he
    by_cases hi : d.ctrlIdx = idx
    · rw [hi, hsync d hd hi] at he
      exact nomatch he
    · rw [hc.pads _ hi] at he
      exact h.sync d hd e he
  · exact fun client sent mouse hx hin =>
      absurd (hc.inSession.mp hin) (hrekey client sent mouse hx)
  · intro hin
    have hin' := hc.inSession.mp hin
    obtain ⟨hcid, hup⟩ := h.session hin'
    refine ⟨hc.connectionId.trans hcid, fun hu => ?_⟩
    obtain ⟨hgranted, hcovered, hright⟩ := hup hu
    have hne : ∀ i d, c'.padAt i = some d → i ≠ idx := by
      rintro i d hd rfl
      rw [hgone hin'] at hd
      exact nomatch hd
    refine ⟨hgranted.trans hc.granted.symm, fun i d hd => ?_, fun i d e hd he => ?_⟩
    · have hi := hne i d hd
      rw [hc.pads i hi] at hd
      exact (hcovered i d hd).slotChange hc (by rwa [ctrlIdx_of_padAt hd])
    · rw [hc.pads i (hne i d hd)] at hd
      exact hright i d e hd he

/-- A slot that changes in a live session, together with its controller PUT. -/
theorem LinkInv.slotSync
    (hin : c.InSession) (hsync : ∀ d, SyncOut net d → d.ctrlIdx ≠ idx)
    (hrekey : ∀ client sent mouse, (⟨.rekey client sent mouse, none⟩ : Exchange) ∈ net →
      ¬ c.InSession) (hd : c'.padAt idx = some d) :
    LinkInv c' sat (net ++ [⟨.sync sat.connectionId d, none⟩]) := by
  have hidx := ctrlIdx_of_padAt hd
  have hmem : ∀ x : Exchange, x ∈ net ++ [⟨.sync sat.connectionId d, none⟩] →
      x ∈ net ∨ x = ⟨.sync sat.connectionId d, none⟩ := by simp
  have hsession : ∀ intent sent mouse a, (⟨.session intent sent mouse, a⟩ : Exchange) ∉
      net ++ [⟨.sync sat.connectionId d, none⟩] := by
    intro intent sent mouse a hx
    rcases hmem _ hx with hx | heq
    · exact h.connecting intent sent mouse a hx hin
    · exact nomatch heq
  refine ⟨h.epoch, hbits, h.indexed, ?_, ?_, ?_, ?_, ?_, ?_, ?_, ?_⟩
  · intro x hx
    rcases hmem x hx with hx | rfl
    · exact h.wf x hx
    · exact ⟨rfl, hbits _ (by rw [hidx, hd]; rfl), nofun⟩
  · simpa [List.filter_append, Request.isSessionPut] using h.one
  · exact fun intent sent mouse a hx => absurd hx (hsession intent sent mouse a)
  · intro e he f hf
    rcases syncOut_append.mp he with he | ⟨cid, heq⟩
    · rw [hc.pads _ (hsync e he)] at hf
      exact h.sync e he f hf
    · injection heq with _ heq
      subst heq
      rw [hidx, hd] at hf
      exact (Option.some.inj hf).symm
  · exact fun e _ intent sent mouse a hx => absurd hx (hsession intent sent mouse a)
  · intro client sent mouse hx _
    rcases hmem _ hx with hx | heq
    · exact absurd hin (hrekey client sent mouse hx)
    · exact nomatch heq
  · exact fun intent sent mouse ans hx => absurd hx (hsession intent sent mouse _)
  · intro _
    obtain ⟨hcid, hup⟩ := h.session hin
    refine ⟨hc.connectionId.trans hcid, fun hu => ?_⟩
    obtain ⟨hgranted, hcovered, hright⟩ := hup hu
    have hown : ∀ e, c'.padAt idx = some e →
        SyncOut (net ++ [⟨.sync sat.connectionId d, none⟩]) e := by
      intro e he
      rw [hd] at he
      obtain rfl := Option.some.inj he
      exact syncOut_append.mpr (.inr ⟨_, rfl⟩)
    refine ⟨hgranted.trans hc.granted.symm, fun i e he => ?_, fun i e f he hf => ?_⟩
    · by_cases hi : i = idx
      · subst hi
        exact .inr (.inl (hown e he))
      · have he' := he
        rw [hc.pads i hi] at he'
        have hne : e.ctrlIdx ≠ idx := by rwa [ctrlIdx_of_padAt he]
        refine ((hcovered i e he').slotChange hc hne).imp id (fun hout => syncOut_append.mpr (.inl hout))
          syncBack_append.mpr (And.imp_right fun hremove hout => hremove ?_)
        rcases removeOut_append.mp hout with hout | ⟨cid, heq⟩
        · exact hout
        · exact nomatch heq
    · by_cases hi : i = idx
      · subst hi
        exact .inr (hown e he)
      · rw [hc.pads i hi] at he
        exact (hright i e f he hf).imp_right fun hout => syncOut_append.mpr (.inl hout)

end

variable {sent : List ControllerDescriptor}

/-! ### A session starts -/

/-- The converge diff misses nothing: a slot whose index and type were sent is as it was sent. -/
def LateOk (c : WifiConnection) (sent : List ControllerDescriptor) : Prop :=
  ∀ d ∈ c.desiredDescriptors, ∀ e ∈ sent, e.ctrlIdx = d.ctrlIdx → e.type = d.type → e = d

section
variable (hsent : Sendable sent) (hbits : c.InBitmap) (hlive : c.state = .live)
    (hcid : c.connectionId = some sat.connectionId)
include hsent hbits hlive hcid

/-- The controller calls of a converge are about this session and the slots as they are. -/
theorem ofController_converge
    (hr : r ∈ (c.convergeLateSlots (descriptorsToDesired sent)).filterMap Request.ofController) :
    (∃ d, r = .sync sat.connectionId d ∧ c.padAt d.ctrlIdx = some d) ∨
      ∃ i, r = .remove sat.connectionId i ∧ c.padAt i = none := by
  have hs := hsent.wireIndexed
  have hd := (sendable_desired hbits).wireIndexed
  obtain ⟨call, hcall, hof⟩ := List.mem_filterMap.mp hr
  rcases (mem_convergeLateSlots hlive hcid).mp hcall with ⟨u, -, rfl⟩ | ⟨u, -, d, hpad, rfl⟩
  · obtain ⟨-, hnone⟩ := (delete_mem_converge hlive hcid hs hd).mp hcall
    injection hof with hof
    refine .inr ⟨_, hof.symm, ?_⟩
    rw [← c.padsOf_desired]
    exact padsOf_eq_none.mpr hnone
  · injection hof with hof
    rw [c.padsOf_desired] at hpad
    refine .inl ⟨d, hof.symm, ?_⟩
    rw [ctrlIdx_of_padAt hpad]
    exact hpad

theorem sync_mem_converge (hlate : LateOk c sent) (hpad : c.padAt i = some d) :
    .sync sat.connectionId d ∈
        (c.convergeLateSlots (descriptorsToDesired sent)).filterMap Request.ofController ∨
      Satellite.padsOf sent i = some d := by
  have hs := hsent.wireIndexed
  have hd := (sendable_desired hbits).wireIndexed
  obtain ⟨hmem, hidx⟩ := c.padAt_eq_some.mp hpad
  by_cases hsame : ∃ e ∈ sent, e.ctrlIdx = d.ctrlIdx ∧ e.type = d.type
  · obtain ⟨e, he, hei, het⟩ := hsame
    obtain rfl := hlate d hmem e he hei het
    exact .inr ((padsOf_eq_some hsent.1).mpr ⟨he, hidx⟩)
  · refine .inl (List.mem_filterMap.mpr ⟨.putController sat.connectionId d, ?_, rfl⟩)
    refine (put_mem_converge hlive hcid hsent.1 hs hd).mpr ⟨hmem, fun e he hei het => ?_⟩
    exact hsame ⟨e, he, hei, het⟩

end

variable {resp : SessionResponse}

theorem startSession_spec (hlinking : c.state = .linking)
    (hgrants : Grants cid sent mouse resp) (client : SessionClient) :
    WifiConnection.SameSlots c (c.startSession client cid resp) ∧
      (c.startSession client cid resp).state = .live ∧
      (c.startSession client cid resp).connectionId = some cid ∧
      (c.startSession client cid resp).mouseControlGranted = mouse ∧
      ∀ d ∈ sent, (c.padAt d.ctrlIdx).isSome →
        (c.startSession client cid resp).registeredAt d.ctrlIdx = true := by
  obtain ⟨-, hmouse, hcontrollers⟩ := hgrants
  have hconnected : c.markConnected client cid resp.epoch resp.mouseGranted =
      { c with
        client := some client
        connectionId := some cid
        lastAppliedEpoch := resp.epoch
        mouseControlGranted := resp.mouseGranted
        state := .live
        rekeyRequested := false } := by
    simp [markConnected, hlinking]
  unfold startSession
  rw [hconnected, hcontrollers]
  refine ⟨WifiConnection.SameSlots.trans (sameSlots_of_slots rfl)
    (sameSlots_applyResults _ _), rfl, rfl, hmouse, fun d hd hsome => ?_⟩
  have hgood : ∀ r ∈ sent.map fun d => (⟨d.ctrlIdx, "ok"⟩ : ControllerApplyDto),
      r.slotIsLive = true := by
    intro r hr
    obtain ⟨e, -, rfl⟩ := List.mem_map.mp hr
    rfl
  rw [registeredAt_applyResults _ hgood, if_pos]
  · exact hsome
  · rw [List.map_map]
    exact List.mem_map.mpr ⟨d, hd, rfl⟩

theorem syncOut_appendAll {rs : List Request} :
    SyncOut (net ++ rs.map fun r => ⟨r, none⟩) d ↔ SyncOut net d ∨ ∃ cid, .sync cid d ∈ rs := by
  unfold SyncOut
  simp [List.mem_append, exists_or]

/-- A granted session takes the connection live, with its late slots on their way. -/
theorem LinkInv.enter
    (h : LinkInv c sat (⟨.session intent sent mouse, some (.session resp)⟩ :: rest))
    (hlinking : c.state = .linking) (hlate : LateOk c sent) (client : SessionClient) :
    LinkInv (c.startSession client sat.connectionId resp) sat
      (rest ++ (((c.startSession client sat.connectionId resp).convergeLateSlots
        (descriptorsToDesired sent)).filterMap Request.ofController).map fun r => ⟨r, none⟩) := by
  obtain ⟨hsent, hanswer⟩ := h.wf _ List.mem_cons_self
  obtain ⟨_, heq, hgrants⟩ := hanswer _ rfl
  injection heq with heq
  subst heq
  obtain ⟨hslots, hlive, hcid, hgranted, hmarks⟩ := startSession_spec hlinking hgrants client
  generalize c.startSession client sat.connectionId resp = c' at *
  have hbits := inBitmap_of_sameSlots hslots h.inBitmap
  have hlate' : LateOk c' sent := by
    intro d hd e he
    have hpad := c'.padAt_eq_some.mpr ⟨hd, rfl⟩
    rw [hslots] at hpad
    exact hlate d (c.padAt_eq_some.mp hpad).1 e he
  have hreqs := fun {r} => ofController_converge (r := r) hsent hbits hlive hcid
  have hsync := fun {i d} => sync_mem_converge (i := i) (d := d) hsent hbits hlive hcid hlate'
  generalize (c'.convergeLateSlots (descriptorsToDesired sent)).filterMap Request.ofController = rs
    at hreqs hsync
  have hrest : ∀ x ∈ rest, x.request.isSessionPut = false :=
    fun x hx => h.rest_of_sessionPut rfl hx
  have hrs : ∀ r ∈ rs, r.isSessionPut = false := by
    intro r hr
    rcases hreqs hr with ⟨d, rfl, -⟩ | ⟨i, rfl, -⟩ <;> rfl
  have hnone : ∀ x ∈ rest ++ rs.map fun r => ⟨r, none⟩, x.request.isSessionPut = false := by
    intro x hx
    rcases List.mem_append.mp hx with hx | hx
    · exact hrest x hx
    · obtain ⟨r, hr, rfl⟩ := List.mem_map.mp hx
      exact hrs r hr
  refine ⟨h.epoch, hbits, h.indexed, ?_, ?_, ?_, ?_, ?_, ?_, ?_, ?_⟩
  · intro x hx
    rcases List.mem_append.mp hx with hx | hx
    · exact h.wf x (List.mem_cons_of_mem _ hx)
    · obtain ⟨r, hr, rfl⟩ := List.mem_map.mp hx
      rcases hreqs hr with ⟨d, rfl, hpad⟩ | ⟨i, rfl, -⟩
      · exact ⟨rfl, hbits _ (by rw [hpad]; rfl), nofun⟩
      · exact rfl
  · rw [List.filter_eq_nil_iff.mpr fun x hx => by simp [hnone x hx]]
    exact Nat.zero_le _
  · exact fun intent' sent' mouse' a hx => nomatch hnone _ hx
  · intro d hd e he
    rcases syncOut_appendAll.mp hd with hd | ⟨cid, hr⟩
    · rw [hslots] at he
      exact h.sync d (syncOut_cons.mpr (.inr hd)) e he
    · rcases hreqs hr with ⟨d', heq, hpad⟩ | ⟨i, heq, -⟩
      · injection heq with _ heq
        subst heq
        rw [hpad] at he
        exact (Option.some.inj he).symm
      · exact nomatch heq
  · exact fun d _ intent' sent' mouse' a hx => nomatch hnone _ hx
  · exact fun client' sent' mouse' hx => nomatch hnone _ hx
  · exact fun intent' sent' mouse' ans hx => nomatch hnone _ hx
  · intro _
    refine ⟨hcid, fun hup => ?_⟩
    obtain ⟨hmouse, harrived⟩ := h.arrived intent sent mouse _ List.mem_cons_self hup
    refine ⟨hmouse.trans hgranted.symm, fun i d hd => ?_, fun i d e hd he => ?_⟩
    · have hidx := ctrlIdx_of_padAt hd
      rcases hsync hd with hr | hpads
      · exact .inr (.inl (syncOut_appendAll.mpr (.inr ⟨_, hr⟩)))
      · obtain ⟨hmem, -⟩ := (padsOf_eq_some hsent.1).mp hpads
        refine .inl (hmarks d hmem ?_)
        rw [← hslots, hidx, hd]
        rfl
    · rcases hsync hd with hr | hpads
      · exact .inr (syncOut_appendAll.mpr (.inr ⟨_, hr⟩))
      · exact .inl (harrived i e d he hpads)

end Dish
