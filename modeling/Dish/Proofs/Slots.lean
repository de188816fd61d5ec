/-
A connection's slots by controller index.

The satellite knows a slot only by its index, so everything about what it should hold
is read off `SlotTable.atIndex`.  Each operation of `WifiConnection` is restated here
as what it does to one index: attaching and detaching touch the slot's own index, a
reply's results set the mark of the indices they name, and a teardown clears all
marks.  Nothing else is used of the table from here on.
-/
import Dish.Proofs.LateSlots

namespace Dish

open SlotTable

open IndexBy (Distinct)

namespace SlotTable

variable (t : SlotTable)

variable {b : SlotBinding} {id : SlotId}

/-- The binding that was given the index. -/
def atIndex (i : Nat) : Option SlotBinding :=
  (t.entries.find? fun e => e.2.controllerIndex = i).map Prod.snd

theorem atIndex_eq_some {i : Nat} :
    t.atIndex i = some b ↔ (∃ id, (id, b) ∈ t.entries) ∧ b.controllerIndex = i := by
  have hdistinct : Distinct (fun e : SlotId × SlotBinding => e.2.controllerIndex) t.entries :=
    t.distinctIndices
  unfold atIndex
  rw [Option.map_eq_some_iff]
  constructor
  · rintro ⟨⟨id, b'⟩, hfind, rfl⟩
    obtain ⟨hmem, hidx⟩ := hdistinct.find?_eq_some.mp hfind
    exact ⟨⟨id, hmem⟩, hidx⟩
  · rintro ⟨⟨id, hmem⟩, hidx⟩
    exact ⟨(id, b), hdistinct.find?_eq_some.mpr ⟨hmem, hidx⟩, rfl⟩

theorem find_eq_some : t.find id = some b ↔ (id, b) ∈ t.entries := by
  have hdistinct : Distinct Prod.fst t.entries := t.distinctIds
  unfold find
  rw [Option.map_eq_some_iff]
  constructor
  · rintro ⟨⟨id', b'⟩, hfind, rfl⟩
    obtain ⟨hmem, rfl⟩ := hdistinct.find?_eq_some.mp hfind
    exact hmem
  · intro hmem
    exact ⟨(id, b), hdistinct.find?_eq_some.mpr ⟨hmem, rfl⟩, rfl⟩

theorem index_of_atIndex {t : SlotTable} {i : Nat} (h : t.atIndex i = some b) :
    b.controllerIndex = i := (t.atIndex_eq_some.mp h).2

theorem atIndex_of_find {t : SlotTable} (h : t.find id = some b) :
    t.atIndex b.controllerIndex = some b :=
  t.atIndex_eq_some.mpr ⟨⟨id, t.find_eq_some.mp h⟩, rfl⟩

theorem id_inj {t : SlotTable} {id' : SlotId} {b' : SlotBinding} (h : (id, b) ∈ t.entries)
    (h' : (id', b') ∈ t.entries) (hidx : b.controllerIndex = b'.controllerIndex) :
    id = id' ∧ b = b' := by
  have hdistinct : Distinct (fun e : SlotId × SlotBinding => e.2.controllerIndex) t.entries :=
    t.distinctIndices
  have := hdistinct.eq_of_key h h' hidx
  exact ⟨congrArg Prod.fst this, congrArg Prod.snd this⟩

theorem binding_inj {t : SlotTable} {b' : SlotBinding} (h : (id, b) ∈ t.entries)
    (h' : (id, b') ∈ t.entries) : b = b' := by
  have hdistinct : Distinct Prod.fst t.entries := t.distinctIds
  exact congrArg Prod.snd (hdistinct.eq_of_key h h' rfl)

theorem atIndex_mapBindings_entries {f : SlotId → SlotBinding → SlotBinding}
    (hf : ∀ i b, (f i b).controllerIndex = b.controllerIndex) (i : Nat) :
    (t.mapBindings f hf).atIndex i =
      (t.entries.find? fun e => e.2.controllerIndex = i).map fun e => f e.1 e.2 := by
  unfold atIndex mapBindings
  simp [List.find?_map, Function.comp_def, hf]

theorem atIndex_mapBindings (g : SlotBinding → SlotBinding)
    (hg : ∀ i b, ((fun (_ : SlotId) b => g b) i b).controllerIndex = b.controllerIndex) (i : Nat) :
    (t.mapBindings (fun _ b => g b) hg).atIndex i = (t.atIndex i).map g := by
  rw [atIndex_mapBindings_entries, atIndex, Option.map_map]
  rfl

theorem atIndex_mapBindings_id (hfind : t.find id = some b) (g : SlotBinding → SlotBinding)
    (hg : ∀ i b, ((fun j b => if j = id then g b else b) i b).controllerIndex = b.controllerIndex)
    (i : Nat) : (t.mapBindings (fun j b => if j = id then g b else b) hg).atIndex i =
      if i = b.controllerIndex then some (g b) else t.atIndex i := by
  have hdistinct : Distinct (fun e : SlotId × SlotBinding => e.2.controllerIndex) t.entries :=
    t.distinctIndices
  have hmem := t.find_eq_some.mp hfind
  rw [atIndex_mapBindings_entries]
  by_cases hi : i = b.controllerIndex
  · rw [if_pos hi, hdistinct.find?_eq_some.mpr ⟨hmem, hi.symm⟩]
    simp
  · rw [if_neg hi]
    apply Option.map_congr
    rintro ⟨id', b'⟩ found
    obtain ⟨hmem', hidx'⟩ := hdistinct.find?_eq_some.mp found
    have hid : id' ≠ id := by
      rintro rfl
      obtain rfl := binding_inj hmem' hmem
      exact hi hidx'.symm
    simp [hid]

theorem atIndex_bind (shape : SlotShape) (h : id ∉ t.entries.map Prod.fst) (i : Nat) :
    (t.bind id shape h).atIndex i =
      if i = t.lowestFreeIndex then some ⟨t.lowestFreeIndex, shape, false⟩ else t.atIndex i := by
  unfold atIndex bind
  by_cases hi : i = t.lowestFreeIndex
  · subst hi
    simp
  · rw [if_neg hi, List.find?_cons_of_neg]
    simpa using fun h => hi h.symm

theorem atIndex_lowestFree : t.atIndex t.lowestFreeIndex = none := by
  cases h : t.atIndex t.lowestFreeIndex with
  | none => rfl
  | some b =>
    obtain ⟨⟨id, hmem⟩, hidx⟩ := t.atIndex_eq_some.mp h
    exact absurd (List.mem_map.mpr ⟨(id, b), hmem, hidx⟩) t.lowestFreeIndex_free

theorem atIndex_erase (hfind : t.find id = some b) (i : Nat) :
    (t.erase id).atIndex i = if i = b.controllerIndex then none else t.atIndex i := by
  have hmem := t.find_eq_some.mp hfind
  have hmem_erase : ∀ id' b', (id', b') ∈ (t.erase id).entries ↔
      (id', b') ∈ t.entries ∧ id' ≠ id := by
    intro id' b'
    simp [erase]
  ext b'
  rw [atIndex_eq_some]
  by_cases hi : i = b.controllerIndex
  · rw [if_pos hi]
    constructor
    · rintro ⟨⟨id', hmem'⟩, hidx'⟩
      obtain ⟨hin, hne⟩ := (hmem_erase id' b').mp hmem'
      exact absurd (id_inj hin hmem (hidx'.trans hi)).1 hne
    · exact nofun
  · rw [if_neg hi, atIndex_eq_some]
    constructor
    · rintro ⟨⟨id', hmem'⟩, hidx'⟩
      exact ⟨⟨id', ((hmem_erase id' b').mp hmem').1⟩, hidx'⟩
    · rintro ⟨⟨id', hmem'⟩, hidx'⟩
      refine ⟨⟨id', (hmem_erase id' b').mpr ⟨hmem', ?_⟩⟩, hidx'⟩
      rintro rfl
      obtain rfl := binding_inj hmem' hmem
      exact hi hidx'.symm

end SlotTable

/-! ### The connection by index -/

namespace WifiConnection

variable (c : WifiConnection)

variable {b : SlotBinding} (slotId : SlotId) (shape : SlotShape) (i : Nat)

/-- The pad the satellite should have at the index. -/
def padAt (i : Nat) : Option ControllerDescriptor :=
  (c.slots.atIndex i).map SlotBinding.descriptor

/-- The satellite has confirmed the slot at the index. -/
def registeredAt (i : Nat) : Bool := (c.slots.atIndex i).any (·.registered)

theorem padsOf_desired : Satellite.padsOf c.desiredDescriptors i = c.padAt i := by
  simp [Satellite.padsOf, desiredDescriptors, bindings, List.find?_map,
    Function.comp_def, padAt, atIndex, SlotBinding.descriptor]

theorem padAt_eq_some {i : Nat} {d : ControllerDescriptor} :
    c.padAt i = some d ↔ d ∈ c.desiredDescriptors ∧ d.ctrlIdx = i := by
  rw [← padsOf_desired]
  exact padsOf_eq_some (onePerIndex_desired c)

theorem ctrlIdx_of_padAt {c : WifiConnection} {i : Nat} {d : ControllerDescriptor}
    (h : c.padAt i = some d) : d.ctrlIdx = i := (c.padAt_eq_some.mp h).2

theorem wantsMouseControl_iff : c.wantsMouseControl = true ↔
    ∃ i d, c.padAt i = some d ∧ d.touchpadMode = .mouse := by
  simp only [padAt_eq_some]
  unfold wantsMouseControl
  rw [List.any_eq_true]
  constructor
  · rintro ⟨b, hb, hmode⟩
    exact ⟨b.controllerIndex, b.descriptor, ⟨List.mem_map.mpr ⟨b, hb, rfl⟩, rfl⟩,
      by simpa [SlotBinding.descriptor] using hmode⟩
  · rintro ⟨i, d, ⟨hd, -⟩, hmode⟩
    obtain ⟨b, hb, rfl⟩ := List.mem_map.mp hd
    exact ⟨b, hb, by simpa [SlotBinding.descriptor] using hmode⟩

theorem wantsMouseControl_congr {c c' : WifiConnection} (h : ∀ i, c'.padAt i = c.padAt i) :
    c'.wantsMouseControl = c.wantsMouseControl := by
  have hiff : c'.wantsMouseControl = true ↔ c.wantsMouseControl = true := by
    simp only [wantsMouseControl_iff, h]
  cases hw : c.wantsMouseControl <;> cases hw' : c'.wantsMouseControl <;> simp_all

/-! ### Operations that keep the slots -/

/-- The slots are the same up to their marks. -/
def SameSlots (c c' : WifiConnection) : Prop := ∀ i, c'.padAt i = c.padAt i

theorem SameSlots.trans {a b c : WifiConnection} (h : SameSlots a b) (h' : SameSlots b c) :
    SameSlots a c := fun i => (h' i).trans (h i)

theorem sameSlots_of_slots {c c' : WifiConnection} (h : c'.slots = c.slots) : SameSlots c c' := by
  intro i
  unfold padAt
  rw [h]

theorem sameSlots_teardownClient : SameSlots c c.teardownClient := by
  intro i
  simp only [padAt, teardownClient, atIndex_mapBindings c.slots
    (fun b => { b with registered := false }), Option.map_map]
  rfl

theorem sameSlots_markConnecting : SameSlots c c.markConnecting := by
  unfold markConnecting
  split
  · exact fun _ => rfl
  · exact (sameSlots_teardownClient c).trans (sameSlots_of_slots rfl)
  · exact sameSlots_of_slots rfl

theorem sameSlots_markDisconnected : SameSlots c c.markDisconnected := by
  unfold markDisconnected
  split
  · exact fun _ => rfl
  · exact (sameSlots_teardownClient c).trans (sameSlots_of_slots rfl)

theorem sameSlots_markStale : SameSlots c c.markStale := by
  unfold markStale
  split
  · exact fun _ => rfl
  · exact (sameSlots_teardownClient c).trans (sameSlots_of_slots rfl)

theorem applyResults_atIndex (results : List ControllerApplyDto) (i : Nat) :
    (c.applyResults results).1.slots.atIndex i = (c.slots.atIndex i).map fun b =>
      match (IndexBy.indexBy ControllerApplyDto.ctrlIdx results).lookup b.controllerIndex with
      | some r => { b with registered := r.slotIsLive }
      | none => b :=
  atIndex_mapBindings c.slots _ _ i

theorem sameSlots_applyResults (results : List ControllerApplyDto) :
    SameSlots c (c.applyResults results).1 := by
  intro i
  unfold padAt
  rw [applyResults_atIndex, Option.map_map]
  congr 1
  funext b
  dsimp only [Function.comp]
  split <;> rfl

theorem registeredAt_applyResults {results : List ControllerApplyDto}
    (hgood : ∀ r ∈ results, r.slotIsLive = true) (i : Nat) :
    (c.applyResults results).1.registeredAt i =
      if i ∈ results.map ControllerApplyDto.ctrlIdx then (c.padAt i).isSome
      else c.registeredAt i := by
  unfold registeredAt padAt
  rw [applyResults_atIndex]
  cases hb : c.slots.atIndex i with
  | none => simp
  | some b =>
    obtain rfl := index_of_atIndex hb
    simp only [Option.map_some, Option.any_some, Option.isSome_some]
    by_cases hmem : b.controllerIndex ∈ results.map ControllerApplyDto.ctrlIdx
    · rw [if_pos hmem]
      cases hr : (IndexBy.indexBy ControllerApplyDto.ctrlIdx results).lookup b.controllerIndex with
      | none => exact absurd hmem (IndexBy.lookup_indexBy_eq_none.mp hr)
      | some r => exact hgood r (IndexBy.of_lookup_indexBy hr).1
    · rw [if_neg hmem, IndexBy.lookup_indexBy_eq_none.mpr hmem]

/-! ### Attaching and detaching -/

/-- The index the slot has, or would be given. -/
def indexFor (slotId : SlotId) : Nat :=
  ((c.slots.find slotId).map SlotBinding.controllerIndex).getD c.slots.lowestFreeIndex

theorem find_isSome {slotId : SlotId} :
    slotId ∈ c.slots.entries.map Prod.fst ↔ ∃ b, c.slots.find slotId = some b := by
  simp only [find_eq_some, List.mem_map]
  constructor
  · rintro ⟨⟨id, b⟩, hmem, rfl⟩
    exact ⟨b, hmem⟩
  · rintro ⟨b, hmem⟩
    exact ⟨(slotId, b), hmem, rfl⟩

theorem find_none (h : slotId ∉ c.slots.entries.map Prod.fst) : c.slots.find slotId = none := by
  cases hf : c.slots.find slotId with
  | none => rfl
  | some b => exact absurd (c.find_isSome.mpr ⟨b, hf⟩) h

theorem attachSlot_atIndex :
    (c.attachSlot slotId shape).1.slots.atIndex i =
      if i = c.indexFor slotId then some ⟨i, shape, c.registeredAt i⟩ else c.slots.atIndex i := by
  unfold attachSlot
  by_cases h : slotId ∈ c.slots.entries.map Prod.fst
  · rw [dif_pos h]
    obtain ⟨b, hfind⟩ := c.find_isSome.mp h
    have hindex : c.indexFor slotId = b.controllerIndex := by simp [indexFor, hfind]
    have hat := atIndex_of_find hfind
    rw [c.slots.atIndex_mapBindings_id hfind (fun b => { b with shape := shape }), hindex]
    by_cases hi : i = b.controllerIndex
    · rw [if_pos hi, if_pos hi]
      subst hi
      simp [registeredAt, hat]
    · rw [if_neg hi, if_neg hi]
  · rw [dif_neg h]
    have hfind := c.find_none slotId h
    have hindex : c.indexFor slotId = c.slots.lowestFreeIndex := by simp [indexFor, hfind]
    refine (c.slots.atIndex_bind shape h i).trans ?_
    rw [hindex]
    by_cases hi : i = c.slots.lowestFreeIndex
    · rw [if_pos hi, if_pos hi]
      subst hi
      simp [registeredAt, c.slots.atIndex_lowestFree]
    · rw [if_neg hi, if_neg hi]

theorem attachSlot_registeredAt :
    (c.attachSlot slotId shape).1.registeredAt i = c.registeredAt i := by
  rw [registeredAt, attachSlot_atIndex]
  split <;> simp [registeredAt]

/-- The slot is new, or declares another shape than it has. -/
def attachChanges (slotId : SlotId) (shape : SlotShape) : Bool :=
  (c.slots.find slotId).all fun b => b.shape ≠ shape

theorem attachSlot_frame :
    ∃ slots bound, (c.attachSlot slotId shape).1 = { c with slots := slots, boundSlotId := bound } := by
  unfold attachSlot
  split <;> exact ⟨_, _, rfl⟩

theorem attachSlot_signal :
    (c.attachSlot slotId shape).2 =
      if c.attachChanges slotId shape ∧ c.state = .live then some (.slotChanged slotId)
      else none := by
  unfold attachSlot attachChanges
  by_cases h : slotId ∈ c.slots.entries.map Prod.fst
  · rw [dif_pos h]
    obtain ⟨b, hfind⟩ := c.find_isSome.mp h
    simp [hfind]
  · rw [dif_neg h]
    cases hf : c.slots.find slotId with
    | none => simp
    | some b => exact absurd (c.find_isSome.mpr ⟨b, hf⟩) h

theorem attachSlot_unchanged {slotId : SlotId} {shape : SlotShape}
    (h : c.attachChanges slotId shape = false) (i : Nat) :
    (c.attachSlot slotId shape).1.slots.atIndex i = c.slots.atIndex i := by
  unfold attachChanges at h
  cases hf : c.slots.find slotId with
  | none => simp [hf] at h
  | some b =>
    have hshape : b.shape = shape := by simpa [hf] using h
    have hindex : c.indexFor slotId = b.controllerIndex := by simp [indexFor, hf]
    have hat := atIndex_of_find hf
    rw [attachSlot_atIndex, hindex]
    split
    · rename_i hi
      subst hi
      rw [registeredAt, hat, ← hshape]
      rfl
    · rfl

theorem attachSlot_padAt :
    (c.attachSlot slotId shape).1.padAt i =
      if i = c.indexFor slotId then
        some (SlotBinding.descriptor ⟨i, shape, c.registeredAt i⟩) else c.padAt i := by
  unfold padAt
  rw [attachSlot_atIndex]
  split <;> rfl

theorem find_attachSlot :
    ∃ b, (c.attachSlot slotId shape).1.slots.find slotId = some b ∧
      b.controllerIndex = c.indexFor slotId := by
  unfold attachSlot
  by_cases h : slotId ∈ c.slots.entries.map Prod.fst
  · rw [dif_pos h]
    obtain ⟨b, hfind⟩ := c.find_isSome.mp h
    refine ⟨{ b with shape := shape }, ?_, by simp [indexFor, hfind]⟩
    rw [find_eq_some]
    exact List.mem_map.mpr ⟨(slotId, b), c.slots.find_eq_some.mp hfind, by simp⟩
  · rw [dif_neg h]
    have hfind := c.find_none slotId h
    refine ⟨⟨c.slots.lowestFreeIndex, shape, false⟩, ?_, by simp [indexFor, hfind]⟩
    rw [find_eq_some]
    exact List.mem_cons_self

theorem descriptorFor_eq {slotId : SlotId} (h : c.slots.find slotId = some b) :
    c.descriptorFor slotId = c.padAt b.controllerIndex := by
  unfold descriptorFor padAt
  rw [h, atIndex_of_find h]

theorem syncSlot_attachSlot {cid : String} (hlive : c.state = .live)
    (hcid : c.connectionId = some cid) :
    (c.attachSlot slotId shape).1.syncSlot slotId =
      ((c.attachSlot slotId shape).1.padAt (c.indexFor slotId)).map (.putController cid) := by
  obtain ⟨slots, bound, hframe⟩ := c.attachSlot_frame slotId shape
  obtain ⟨b, hfind, hidx⟩ := c.find_attachSlot slotId shape
  have hstate : (c.attachSlot slotId shape).1.state = .live := by rw [hframe]; exact hlive
  have hconn : (c.attachSlot slotId shape).1.connectionId = some cid := by rw [hframe]; exact hcid
  rw [← hidx, ← descriptorFor_eq _ hfind]
  simp [syncSlot, hstate, hconn]

theorem detachSlot_none {slotId : SlotId} (h : c.slots.find slotId = none) :
    c.detachSlot slotId = (c, none) := by
  simp [detachSlot, h]

theorem detachSlot_some {slotId : SlotId} (h : c.slots.find slotId = some b) :
    ∃ bound, c.detachSlot slotId =
      ({ c with slots := c.slots.erase slotId, boundSlotId := bound },
        if c.state = .live ∧ b.registered then some (.slotRemoved b.controllerIndex)
        else none) := by
  unfold detachSlot
  rw [h]
  exact ⟨_, rfl⟩

/-! ### Bitmaps -/

theorem getLsbD_foldl_or {α : Type} (f : α → Nat) (l : List α) {i : Nat} (hi : i < 16) :
    ∀ acc : BitVec 16, (l.foldl (fun b x => b ||| (1#16 <<< f x)) acc).getLsbD i =
      (acc.getLsbD i || l.any fun x => f x = i) := by
  induction l with
  | nil => simp
  | cons x rest ih =>
    intro acc
    rw [List.foldl_cons, ih, List.any_cons, BitVec.getLsbD_or, Bool.or_assoc]
    congr 2
    by_cases hx : f x = i
    · simp [hx, hi]
    · by_cases hlt : i < f x
      · simp [hx, hi, hlt]
      · have : i - f x ≠ 0 := by omega
        simp [hx, hi, hlt, this]

/-- Every slot has an index the bitmap has a bit for. -/
def InBitmap : Prop := ∀ i, (c.padAt i).isSome → i < kMaxControllers

theorem index_lt_of_inBitmap {c : WifiConnection} (h : c.InBitmap) (hb : b ∈ c.slots.bindings) :
    b.controllerIndex < 16 := by
  obtain ⟨⟨id, b'⟩, hmem, rfl⟩ := List.mem_map.mp hb
  have hat : c.slots.atIndex b'.controllerIndex = some b' :=
    c.slots.atIndex_eq_some.mpr ⟨⟨id, hmem⟩, rfl⟩
  exact h _ (by simp [padAt, hat])

theorem expectedBitmap_eq {l : List DesiredSlot} (h : ∀ d ∈ l, d.ctrlIdx.toNat ≤ 15) :
    expectedBitmap l = l.foldl (fun b d => b ||| (1#16 <<< d.ctrlIdx.toNat)) 0#16 := by
  unfold expectedBitmap
  refine List.foldl_ext _ _ _ fun b d hd => ?_
  rw [if_pos (h d hd)]

theorem registeredBitmap_getLsbD (h : c.InBitmap) {i : Nat} (hi : i < 16) :
    c.registeredBitmap.getLsbD i = c.registeredAt i := by
  have hindex : ∀ b ∈ c.slots.bindings, (UInt8.ofNat b.controllerIndex).toNat = b.controllerIndex :=
    fun b hb => toNat_wireIndex (Nat.lt_trans (index_lt_of_inBitmap h hb) (by decide))
  unfold registeredBitmap
  rw [expectedBitmap_eq, getLsbD_foldl_or _ _ hi, BitVec.getLsbD_zero, Bool.false_or,
    Bool.eq_iff_iff]
  · simp only [List.any_map, List.any_eq_true, List.mem_filter, Function.comp, registeredAt,
      Option.any_eq_true, atIndex_eq_some, decide_eq_true_eq]
    constructor
    · rintro ⟨b, ⟨hb, hreg⟩, hidx⟩
      rw [hindex b hb] at hidx
      obtain ⟨⟨id, b'⟩, hmem, rfl⟩ := List.mem_map.mp hb
      exact ⟨b', ⟨⟨id, hmem⟩, hidx⟩, hreg⟩
    · rintro ⟨b, ⟨⟨id, hmem⟩, hidx⟩, hreg⟩
      have hb : b ∈ c.slots.bindings := List.mem_map.mpr ⟨(id, b), hmem, rfl⟩
      exact ⟨b, ⟨hb, hreg⟩, (hindex b hb).trans hidx⟩
  · intro d hd
    obtain ⟨b, hb, rfl⟩ := List.mem_map.mp hd
    have hb' := (List.mem_filter.mp hb).1
    have := index_lt_of_inBitmap h hb'
    rw [hindex b hb']
    omega

end WifiConnection

/-- Every pad is held at its own index. -/
def Satellite.Indexed (sat : Satellite) : Prop :=
  ∀ i d, sat.holds i = some d → d.ctrlIdx = i ∧ i < kMaxControllers

theorem Satellite.activeBitmap_getLsbD {sat : Satellite} (h : sat.Indexed) {i : Nat} (hi : i < 16) :
    sat.activeBitmap.getLsbD i = (sat.holds i).isSome := by
  unfold activeBitmap
  rw [WifiConnection.getLsbD_foldl_or _ _ hi, BitVec.getLsbD_zero, Bool.false_or, Bool.eq_iff_iff]
  simp only [List.any_eq_true, pads, List.mem_filterMap, List.mem_range, decide_eq_true_eq,
    Option.isSome_iff_exists]
  constructor
  · rintro ⟨d, ⟨j, -, hd⟩, hidx⟩
    obtain rfl : i = j := hidx.symm.trans (h j d hd).1
    exact ⟨d, hd⟩
  · rintro ⟨d, hd⟩
    exact ⟨d, ⟨i, hi, hd⟩, (h i d hd).1⟩

end Dish
