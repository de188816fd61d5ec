/-
What the late-slot converge loses.

A session PUT applies the descriptors it was sent with, and slots can change before
its reply lands.  `convergeLateSlots` diffs the sent list against the current one and
sends a DELETE or a PUT per index that differs.  The diff is keyed on index and type,
so it converges exactly when no slot changed its caps or touchpad mode and kept its
type.  The satellite may receive the calls in any order: no two of them disagree
about an index.
-/
import Dish.Net.Session

namespace Dish

open IndexBy Satellite DesiredSlot WifiConnection

variable {u : UInt8} {i : Nat} {l : List ControllerDescriptor}

variable {d : ControllerDescriptor}

/-! ### The diff -/

variable {sent desired : List DesiredSlot}

theorem mem_removes :
    u ∈ (lateSlotConverge sent desired).removes ↔
      u ∈ sent.map ctrlIdx ∧ u ∉ desired.map ctrlIdx := by
  unfold lateSlotConverge
  simp only [List.mem_insertionSort, List.mem_map, List.mem_filter, Option.isNone_iff_eq_none,
    lookup_indexBy_eq_none]
  constructor
  · rintro ⟨s, ⟨hs, hnone⟩, rfl⟩
    exact ⟨⟨s, hs, rfl⟩, hnone⟩
  · rintro ⟨⟨s, hs, rfl⟩, hnone⟩
    exact ⟨s, ⟨hs, hnone⟩, rfl⟩

theorem staleAt_indexBy {sent : List DesiredSlot} (hs : Distinct ctrlIdx sent)
    {same : DesiredSlot → Bool} :
    staleAt (indexBy ctrlIdx sent) u same = true ↔ ∀ s ∈ sent, s.ctrlIdx = u → same s = false := by
  unfold staleAt
  cases hl : (indexBy ctrlIdx sent).lookup u with
  | none =>
    have hnone := lookup_indexBy_eq_none.mp hl
    refine ⟨fun _ s hmem hu => absurd ?_ hnone, fun _ => rfl⟩
    exact hu ▸ List.mem_map_of_mem hmem
  | some s =>
    obtain ⟨hmem, hu⟩ := (lookup_indexBy_eq_some hs).mp hl
    constructor
    · intro h s' hmem' hu'
      obtain rfl := hs.eq_of_key hmem hmem' (hu.trans hu'.symm)
      simpa using h
    · intro h
      simpa using h s hmem hu

theorem mem_resyncs (hs : Distinct ctrlIdx sent) :
    u ∈ (lateSlotConverge sent desired).resyncs ↔
      ∃ d ∈ desired, d.ctrlIdx = u ∧ ∀ s ∈ sent, s.ctrlIdx = u → s.type ≠ d.type := by
  unfold lateSlotConverge
  simp only [List.mem_insertionSort, List.mem_map, List.mem_filter, staleAt_indexBy hs,
    beq_eq_false_iff_ne]
  constructor
  · rintro ⟨d, ⟨hd, hstale⟩, rfl⟩
    exact ⟨d, hd, rfl, hstale⟩
  · rintro ⟨d, hd, rfl, hstale⟩
    exact ⟨d, ⟨hd, hstale⟩, rfl⟩

/-! ### Descriptors by index -/

/-- Every index of the list has an 8-bit wire form of its own. -/
def WireIndexed (l : List ControllerDescriptor) : Prop := ∀ d ∈ l, d.ctrlIdx < 256

/-- The descriptors are listed one per index. -/
abbrev OnePerIndex (l : List ControllerDescriptor) : Prop :=
  Distinct ControllerDescriptor.ctrlIdx l

theorem toNat_wireIndex (h : i < 256) : (UInt8.ofNat i).toNat = i := by
  exact Nat.mod_eq_of_lt h

theorem wireIndex_inj {j : Nat} (hi : i < 256) (hj : j < 256) (h : UInt8.ofNat i = UInt8.ofNat j) :
    i = j := by
  rw [← toNat_wireIndex hi, ← toNat_wireIndex hj, h]

theorem mem_descriptorsToDesired {s : DesiredSlot} :
    s ∈ descriptorsToDesired l ↔
      ∃ d ∈ l, ({ ctrlIdx := UInt8.ofNat d.ctrlIdx, type := d.type } : DesiredSlot) = s := by
  simp [descriptorsToDesired]

theorem mem_indices_descriptorsToDesired :
    u ∈ (descriptorsToDesired l).map ctrlIdx ↔ ∃ d ∈ l, UInt8.ofNat d.ctrlIdx = u := by
  simp [descriptorsToDesired]

theorem distinct_descriptorsToDesired (hd : OnePerIndex l) (hw : WireIndexed l) :
    Distinct ctrlIdx (descriptorsToDesired l) := by
  have hmap : (descriptorsToDesired l).map ctrlIdx =
      (l.map ControllerDescriptor.ctrlIdx).map UInt8.ofNat := by
    simp [descriptorsToDesired]
  show ((descriptorsToDesired l).map ctrlIdx).Nodup
  rw [hmap]
  refine List.Nodup.map_on ?_ hd
  intro i hi j hj h
  obtain ⟨d, hdl, rfl⟩ := List.mem_map.mp hi
  obtain ⟨e, hel, rfl⟩ := List.mem_map.mp hj
  exact wireIndex_inj (hw d hdl) (hw e hel) h

theorem padsOf_eq_some (hl : OnePerIndex l) :
    padsOf l i = some d ↔ d ∈ l ∧ d.ctrlIdx = i :=
  hl.find?_eq_some

theorem padsOf_eq_none : padsOf l i = none ↔ ∀ d ∈ l, d.ctrlIdx ≠ i := by
  simp [padsOf, List.find?_eq_none]

/-! ### The connection's slots by index -/

theorem onePerIndex_desired (c : WifiConnection) : OnePerIndex c.desiredDescriptors := by
  have h : c.desiredDescriptors.map ControllerDescriptor.ctrlIdx =
      c.slots.entries.map fun e => e.2.controllerIndex := by
    simp [desiredDescriptors, SlotTable.bindings, SlotBinding.descriptor]
  show (c.desiredDescriptors.map ControllerDescriptor.ctrlIdx).Nodup
  rw [h]
  exact c.slots.distinctIndices

theorem descriptor_at_index (c : WifiConnection) (i : Nat) :
    (c.slotIdForIndex i).bind c.descriptorFor = padsOf c.desiredDescriptors i := by
  have hids : Distinct Prod.fst c.slots.entries := c.slots.distinctIds
  have hpads : padsOf c.desiredDescriptors i =
      (c.slots.entries.find? fun e => e.2.controllerIndex = i).map fun e => e.2.descriptor := by
    simp [padsOf, desiredDescriptors, SlotTable.bindings,
      List.find?_map, Function.comp_def, SlotBinding.descriptor]
  rw [hpads]
  unfold slotIdForIndex
  cases hf : c.slots.entries.find? (fun e => e.2.controllerIndex = i) with
  | none => rfl
  | some e =>
    have hfind : c.slots.find e.1 = some e.2 := by
      unfold SlotTable.find
      rw [hids.find?_eq_some.mpr ⟨List.mem_of_find?_eq_some hf, rfl⟩]
      rfl
    simp [descriptorFor, hfind]

/-! ### The calls -/

section
variable {c : WifiConnection} {cid : String} (hlive : c.state = .live)
  (hcid : c.connectionId = some cid)
include hlive hcid

theorem syncSlot_at_index (i : Nat) : (c.slotIdForIndex i).bind c.syncSlot =
    (padsOf c.desiredDescriptors i).map (.putController cid) := by
  rw [← descriptor_at_index]
  cases c.slotIdForIndex i with
  | none => rfl
  | some slotId => simp [syncSlot, hlive, hcid]

theorem mem_convergeLateSlots {sent : List DesiredSlot} {call : Call} :
    call ∈ c.convergeLateSlots sent ↔
      (∃ u ∈ (lateSlotConverge sent (descriptorsToDesired c.desiredDescriptors)).removes,
        call = .deleteController cid u.toNat) ∨
      ∃ u ∈ (lateSlotConverge sent (descriptorsToDesired c.desiredDescriptors)).resyncs,
        ∃ d, padsOf c.desiredDescriptors u.toNat = some d ∧ call = .putController cid d := by
  unfold convergeLateSlots
  simp only [List.mem_append, List.mem_filterMap, syncSlot_at_index hlive hcid,
    deleteSlot, hcid, Option.map_some, Option.map_eq_some_iff, Option.some.injEq]
  simp only [eq_comm]

variable {sent : List ControllerDescriptor}

theorem delete_mem_converge (hs : WireIndexed sent) (hd : WireIndexed c.desiredDescriptors) :
    .deleteController cid i ∈ c.convergeLateSlots (descriptorsToDesired sent) ↔
      (∃ s ∈ sent, s.ctrlIdx = i) ∧ ∀ d ∈ c.desiredDescriptors, d.ctrlIdx ≠ i := by
  simp only [mem_convergeLateSlots hlive hcid, mem_removes, mem_indices_descriptorsToDesired]
  constructor
  · rintro (⟨u, ⟨⟨s, hmem, rfl⟩, hnone⟩, heq⟩ | ⟨_, _, _, _, heq⟩)
    · injection heq with _ hi
      rw [toNat_wireIndex (hs s hmem)] at hi
      refine ⟨⟨s, hmem, hi.symm⟩, fun d hmem' hdi => hnone ⟨d, hmem', ?_⟩⟩
      rw [hdi, hi]
    · exact nomatch heq
  · rintro ⟨⟨s, hmem, rfl⟩, hnone⟩
    refine .inl ⟨UInt8.ofNat s.ctrlIdx, ⟨⟨s, hmem, rfl⟩, ?_⟩, ?_⟩
    · rintro ⟨d, hmem', hdi⟩
      exact hnone d hmem' (wireIndex_inj (hd d hmem') (hs s hmem) hdi)
    · rw [toNat_wireIndex (hs s hmem)]

theorem put_mem_converge (hone : OnePerIndex sent)
    (hs : WireIndexed sent) (hd : WireIndexed c.desiredDescriptors) :
    .putController cid d ∈ c.convergeLateSlots (descriptorsToDesired sent) ↔
      d ∈ c.desiredDescriptors ∧ ∀ s ∈ sent, s.ctrlIdx = d.ctrlIdx → s.type ≠ d.type := by
  have hdesired := onePerIndex_desired c
  simp only [mem_convergeLateSlots hlive hcid,
    mem_resyncs (distinct_descriptorsToDesired hone hs), mem_descriptorsToDesired,
    padsOf_eq_some hdesired]
  constructor
  · rintro (⟨_, _, heq⟩ | ⟨u, ⟨_, ⟨e, he, rfl⟩, rfl, hstale⟩, d', ⟨hmem, hidx⟩, heq⟩)
    · exact nomatch heq
    · injection heq with _ hd'
      subst hd'
      rw [toNat_wireIndex (hd e he)] at hidx
      obtain rfl := hdesired.eq_of_key hmem he hidx
      refine ⟨hmem, fun s hsm hsi => ?_⟩
      exact hstale _ ⟨s, hsm, rfl⟩ (by rw [hsi])
  · rintro ⟨hmem, hstale⟩
    refine .inr ⟨UInt8.ofNat d.ctrlIdx, ⟨_, ⟨d, hmem, rfl⟩, rfl, ?_⟩, d, ⟨hmem, ?_⟩, rfl⟩
    · rintro _ ⟨s, hsm, rfl⟩ hsi
      exact hstale s hsm (wireIndex_inj (hs s hsm) (hd d hmem) hsi)
    · rw [toNat_wireIndex (hd d hmem)]

end

/-! ### Serving the calls -/

/-- What a controller call leaves at an index, if it touches it. -/
def Call.leavesAt (i : Nat) : Call → Option (Option ControllerDescriptor)
  | .putController _ d => if d.ctrlIdx = i then some (some d) else none
  | .deleteController _ j => if j = i then some none else none
  | _ => none

/-- A controller PUT or DELETE under this connection id. -/
def Call.IsController (cid : String) : Call → Prop
  | .putController id _ => id = cid
  | .deleteController id _ => id = cid
  | _ => False

theorem serve_controller {sat : Satellite} (hup : sat.up) {call : Call}
    (hcall : call.IsController sat.connectionId) :
    (sat.serve call).1.up ∧ (sat.serve call).1.connectionId = sat.connectionId ∧
      ∀ i, (sat.serve call).1.holds i = (call.leavesAt i).getD (sat.holds i) := by
  cases call with
  | putController id d =>
    have hid : id = sat.connectionId := hcall
    refine ⟨?_, ?_, fun i => ?_⟩
    · simp [serve, hup, hid]
    · simp [serve, hup, hid]
    · by_cases hi : d.ctrlIdx = i
      · subst hi; simp [serve, hup, hid, Call.leavesAt]
      · simp [serve, hup, hid, Call.leavesAt, hi, Function.update_of_ne (Ne.symm hi)]
  | deleteController id j =>
    have hid : id = sat.connectionId := hcall
    refine ⟨?_, ?_, fun i => ?_⟩
    · simp [serve, hup, hid]
    · simp [serve, hup, hid]
    · by_cases hi : j = i
      · subst hi; simp [serve, hup, hid, Call.leavesAt]
      · simp [serve, hup, hid, Call.leavesAt, hi, Function.update_of_ne (Ne.symm hi)]
  | putSession | getSession | deleteSession => exact hcall.elim

variable {calls : List Call}

theorem serveAll_up : ∀ {sat : Satellite}, sat.up →
    (∀ call ∈ calls, call.IsController sat.connectionId) → (sat.serveAll calls).up := by
  induction calls with
  | nil => intro sat hup _; exact hup
  | cons call rest ih =>
    intro sat hup hall
    obtain ⟨hup', hid, -⟩ := serve_controller hup (hall call (by simp))
    exact ih hup' fun k hk => hid ▸ hall k (by simp [hk])

/-- Calls that touch an index and agree about it leave what they say, in any order. -/
theorem serveAll_holds {v : Option ControllerDescriptor}
    (hagree : ∀ call ∈ calls, ∀ w, call.leavesAt i = some w → w = v) :
    ∀ {sat : Satellite}, sat.up → (∀ call ∈ calls, call.IsController sat.connectionId) →
      (sat.serveAll calls).holds i =
        if ∃ call ∈ calls, (call.leavesAt i).isSome then v else sat.holds i := by
  induction calls with
  | nil => intro sat _ _; simp [serveAll]
  | cons call rest ih =>
    intro sat hup hall
    obtain ⟨hup', hid, hholds⟩ := serve_controller hup (hall call (by simp))
    have hrest := ih (fun k hk => hagree k (by simp [hk])) hup'
      fun k hk => hid ▸ hall k (by simp [hk])
    have hunfold : sat.serveAll (call :: rest) = ((sat.serve call).1).serveAll rest := rfl
    rw [hunfold, hrest, hholds i]
    cases hc : call.leavesAt i with
    | none => simp [hc]
    | some w =>
      have hw : w = v := hagree call (by simp) w hc
      simp [hc, hw]

/-! ### Convergence -/

/-- The satellite's session holds these descriptors and no others. -/
def Satellite.HoldsExactly (sat : Satellite) (l : List ControllerDescriptor) : Prop :=
  sat.up ∧ ∀ i, sat.holds i = padsOf l i

/-- However the calls arrive, a satellite that applied what was sent ends with what is wanted. -/
def LateSlotsConverge (c : WifiConnection) (sent : List ControllerDescriptor) : Prop :=
  ∀ sat : Satellite, c.connectionId = some sat.connectionId → sat.HoldsExactly sent →
    ∀ order, order.Perm (c.convergeLateSlots (descriptorsToDesired sent)) →
      (sat.serveAll order).HoldsExactly c.desiredDescriptors

section
variable {c : WifiConnection} {cid : String} (hlive : c.state = .live)
  (hcid : c.connectionId = some cid) {sent : List ControllerDescriptor}
variable {call : Call}

include hlive hcid

theorem isController_of_mem_converge (h : call ∈ c.convergeLateSlots (descriptorsToDesired sent)) :
    call.IsController cid := by
  rcases (mem_convergeLateSlots hlive hcid).mp h with ⟨_, _, rfl⟩ | ⟨_, _, _, _, rfl⟩
  · rfl
  · rfl

variable (hone : OnePerIndex sent) (hs : WireIndexed sent) (hd : WireIndexed c.desiredDescriptors)
include hone hs hd

theorem leavesAt_of_mem_converge {w : Option ControllerDescriptor}
    (h : call ∈ c.convergeLateSlots (descriptorsToDesired sent)) (hw : call.leavesAt i = some w) :
    w = padsOf c.desiredDescriptors i := by
  rcases (mem_convergeLateSlots hlive hcid).mp h with ⟨u, _, rfl⟩ | ⟨_, _, d, _, rfl⟩
  · obtain ⟨-, hnone⟩ := (delete_mem_converge hlive hcid hs hd).mp h
    by_cases hi : u.toNat = i
    · obtain rfl : none = w := by simpa [Call.leavesAt, hi] using hw
      exact (padsOf_eq_none.mpr fun d hmem => hi ▸ hnone d hmem).symm
    · simp [Call.leavesAt, hi] at hw
  · obtain ⟨hmem, -⟩ := (put_mem_converge hlive hcid hone hs hd).mp h
    by_cases hi : d.ctrlIdx = i
    · obtain rfl : some d = w := by simpa [Call.leavesAt, hi] using hw
      exact ((padsOf_eq_some (onePerIndex_desired c)).mpr ⟨hmem, hi⟩).symm
    · simp [Call.leavesAt, hi] at hw

theorem untouched_of_unchanged (hsent : d ∈ sent)
    (hdesired : d ∈ c.desiredDescriptors)
    (h : call ∈ c.convergeLateSlots (descriptorsToDesired sent)) :
    call.leavesAt d.ctrlIdx = none := by
  rcases (mem_convergeLateSlots hlive hcid).mp h with ⟨u, _, rfl⟩ | ⟨_, _, e, _, rfl⟩
  · obtain ⟨-, hnone⟩ := (delete_mem_converge hlive hcid hs hd).mp h
    have hu : u.toNat ≠ d.ctrlIdx := fun hu => hnone d hdesired hu.symm
    simp [Call.leavesAt, hu]
  · obtain ⟨hmem, hstale⟩ := (put_mem_converge hlive hcid hone hs hd).mp h
    have hne : e.ctrlIdx ≠ d.ctrlIdx := by
      intro hidx
      obtain rfl := (onePerIndex_desired c).eq_of_key hmem hdesired hidx
      exact hstale e hsent rfl rfl
    simp [Call.leavesAt, hne]

theorem touched_of_changed (h : padsOf sent i ≠ padsOf c.desiredDescriptors i)
    (hsame : ∀ s ∈ sent, ∀ d ∈ c.desiredDescriptors, s.ctrlIdx = d.ctrlIdx →
      s.type = d.type → s = d) :
    ∃ call ∈ c.convergeLateSlots (descriptorsToDesired sent), (call.leavesAt i).isSome := by
  cases hp : padsOf c.desiredDescriptors i with
  | none =>
    rw [hp] at h
    obtain ⟨s, hps⟩ := Option.ne_none_iff_exists'.mp h
    obtain ⟨hmem, hidx⟩ := (padsOf_eq_some hone).mp hps
    refine ⟨.deleteController cid i, ?_, by simp [Call.leavesAt]⟩
    exact (delete_mem_converge hlive hcid hs hd).mpr ⟨⟨s, hmem, hidx⟩, padsOf_eq_none.mp hp⟩
  | some d =>
    obtain ⟨hmem, hidx⟩ := (padsOf_eq_some (onePerIndex_desired c)).mp hp
    refine ⟨.putController cid d, ?_, by simp [Call.leavesAt, hidx]⟩
    refine (put_mem_converge hlive hcid hone hs hd).mpr ⟨hmem, fun s hsm hsi htype => h ?_⟩
    rw [hp, (padsOf_eq_some hone).mpr ⟨hsm, hsi.trans hidx⟩, hsame s hsm d hmem hsi htype]

/--
**Late-slot converge is lossless exactly when no slot changed under its type.**

For any descriptors sent and any wanted when the reply lands, with indices that fit
the wire: the derived calls converge the satellite, in whatever order they arrive,
iff every index in both lists with the same type has the same whole descriptor.  An
unchanged descriptor's index is never touched.
-/
theorem lateSlots_converge_iff :
    (LateSlotsConverge c sent ↔
      ∀ s ∈ sent, ∀ d ∈ c.desiredDescriptors, s.ctrlIdx = d.ctrlIdx → s.type = d.type → s = d) ∧
    ∀ d ∈ sent, d ∈ c.desiredDescriptors →
      ∀ call ∈ c.convergeLateSlots (descriptorsToDesired sent), call.leavesAt d.ctrlIdx = none := by
  refine ⟨⟨?_, ?_⟩, fun d hsent hdesired call h =>
    untouched_of_unchanged hlive hcid hone hs hd hsent hdesired h⟩
  · -- a descriptor that differs under the same type is not sent again, and stays as it was
    intro hconv s hsm d hdm hidx htype
    let sat : Satellite := ⟨cid, "", "", true, 0, padsOf sent, false⟩
    have hexact := (hconv sat hcid ⟨rfl, fun _ => rfl⟩ _ (List.Perm.refl _)).2 d.ctrlIdx
    have hall : ∀ call ∈ c.convergeLateSlots (descriptorsToDesired sent),
        call.IsController sat.connectionId := fun call h => isController_of_mem_converge hlive hcid h
    rw [serveAll_holds (fun call h w hw => leavesAt_of_mem_converge hlive hcid hone hs hd h hw)
      rfl hall, if_neg ?_] at hexact
    · rw [show sat.holds = padsOf sent from rfl, (padsOf_eq_some hone).mpr ⟨hsm, hidx⟩,
        (padsOf_eq_some (onePerIndex_desired c)).mpr ⟨hdm, rfl⟩] at hexact
      injection hexact
    · rintro ⟨call, hmem, htouch⟩
      rcases (mem_convergeLateSlots hlive hcid).mp hmem with ⟨u, _, rfl⟩ | ⟨_, _, e, _, rfl⟩
      · obtain ⟨-, hnone⟩ := (delete_mem_converge hlive hcid hs hd).mp hmem
        have hu : u.toNat ≠ d.ctrlIdx := fun hu => hnone d hdm hu.symm
        simp [Call.leavesAt, hu] at htouch
      · obtain ⟨hem, hstale⟩ := (put_mem_converge hlive hcid hone hs hd).mp hmem
        by_cases he : e.ctrlIdx = d.ctrlIdx
        · obtain rfl := (onePerIndex_desired c).eq_of_key hem hdm he
          exact hstale s hsm hidx htype
        · simp [Call.leavesAt, he] at htouch
  · intro hsame sat hsat ⟨hup, hholds⟩ order hperm
    obtain rfl : sat.connectionId = cid := by
      rw [hcid] at hsat
      injection hsat with hsat
      exact hsat.symm
    have hall : ∀ call ∈ order, call.IsController sat.connectionId := fun call h =>
      isController_of_mem_converge hlive hcid (hperm.mem_iff.mp h)
    refine ⟨serveAll_up hup hall, fun i => ?_⟩
    rw [serveAll_holds (fun call h w hw =>
      leavesAt_of_mem_converge hlive hcid hone hs hd (hperm.mem_iff.mp h) hw) hup hall]
    by_cases htouch : ∃ call ∈ order, (call.leavesAt i).isSome
    · rw [if_pos htouch]
    · rw [if_neg htouch, hholds i]
      by_contra hne
      obtain ⟨call, hmem, hsome⟩ := touched_of_changed hlive hcid hone hs hd hne hsame
      exact htouch ⟨call, hperm.mem_iff.mpr hmem, hsome⟩

end

/-- A connection whose one slot was declared before its session PUT went out, and the
client its reply brings. -/
private def linkingPad : WifiConnection :=
  (({ server := { ip := "192.168.0.2" }, state := .linking } : WifiConnection).attachSlot "pad"
    { controllerType := 0 }).1

private def replyClient : SessionClient := { ref := 0, material := ⟨0, 0⟩ }

/-- The slot gained rumble while the PUT was out. -/
private def lateRumble : WifiConnection :=
  (linkingPad.attachSlot "pad" { controllerType := 0, hasRumble := true }).1.markConnected
    replyClient "cid" 1 false

/-- The slot's touchpad went to mouse mode while the PUT was out. -/
private def lateMouse : WifiConnection :=
  (linkingPad.attachSlot "pad" { controllerType := 0, touchpadMode := .mouse }).1.markConnected
    replyClient "cid" 1 false

/-- The slot changed its type, and a second one was attached, while the PUT was out. -/
private def lateType : WifiConnection :=
  ((linkingPad.attachSlot "pad" { controllerType := 2 }).1.attachSlot "pad2"
    { controllerType := 1 }).1.markConnected replyClient "cid" 1 false

/-- The theorem at a slot whose type changed and a slot that is new. -/
theorem lateSlots_converge_at_type_change :
    LateSlotsConverge lateType linkingPad.desiredDescriptors :=
  ((lateSlots_converge_iff (by decide) (show lateType.connectionId = some "cid" by decide)
    (onePerIndex_desired linkingPad) (by unfold WireIndexed; decide)
    (by unfold WireIndexed; decide)).1).mpr (by decide)

/--
A caps bit or a touchpad mode that changed while the session PUT was out is sent by no
call: the satellite keeps the descriptor the PUT carried.
-/
theorem lateSlots_lose_caps_and_mode :
    lateRumble.convergeLateSlots (descriptorsToDesired linkingPad.desiredDescriptors) = [] ∧
      lateRumble.desiredDescriptors ≠ linkingPad.desiredDescriptors ∧
      ¬ LateSlotsConverge lateRumble linkingPad.desiredDescriptors ∧
      lateMouse.convergeLateSlots (descriptorsToDesired linkingPad.desiredDescriptors) = [] ∧
      lateMouse.desiredDescriptors ≠ linkingPad.desiredDescriptors ∧
      ¬ LateSlotsConverge lateMouse linkingPad.desiredDescriptors := by
  -- with no call to serve, the satellite still holds what the PUT carried
  have hlost : ∀ c : WifiConnection, c.connectionId = some "cid" →
      c.convergeLateSlots (descriptorsToDesired linkingPad.desiredDescriptors) = [] →
      padsOf linkingPad.desiredDescriptors 0 ≠ padsOf c.desiredDescriptors 0 →
      ¬ LateSlotsConverge c linkingPad.desiredDescriptors := by
    intro c hcid hnone hne hconv
    refine hne ((hconv ⟨"cid", "", "", true, 0, padsOf linkingPad.desiredDescriptors,
      false⟩ hcid ⟨rfl, fun _ => rfl⟩ [] ?_).2 0)
    rw [hnone]
  have hrumble : lateRumble.convergeLateSlots
      (descriptorsToDesired linkingPad.desiredDescriptors) = [] := by decide
  have hmouse : lateMouse.convergeLateSlots
      (descriptorsToDesired linkingPad.desiredDescriptors) = [] := by decide
  exact ⟨hrumble, by decide, hlost _ (by decide) hrumble (by decide),
    hmouse, by decide, hlost _ (by decide) hmouse (by decide)⟩

/-! ### The view of a session -/

/-- The view shows what is wanted: the same indices, and each active entry with the wanted type
and, where it reports one, the wanted mode. -/
structure SameTopology (desired : List DesiredSlot) (applied : List AppliedSlot) : Prop where
  indices : ∀ i, (∃ a ∈ applied, a.active ∧ a.ctrlIdx = i) ↔ ∃ d ∈ desired, d.ctrlIdx = i
  shapes : ∀ a ∈ applied, a.active → ∀ d ∈ desired, d.ctrlIdx = a.ctrlIdx →
    d.type = a.appliedType ∧ ∀ mode, a.touchpadMode = some mode → mode = d.touchpadMode

/-- The entry is what the slot asks for, as far as it says. -/
def AppliedSlot.Shows (a : AppliedSlot) (d : DesiredSlot) : Prop :=
  d.ctrlIdx = a.ctrlIdx ∧ d.type = a.appliedType ∧
    ∀ mode, a.touchpadMode = some mode → mode = d.touchpadMode

/-- The indices of the active entries, in the order of the view. -/
def activeIndices (applied : List AppliedSlot) : List UInt8 :=
  (applied.filter (·.active)).map AppliedSlot.ctrlIdx

/-- Counting the active entries tells as much as comparing: no index is shown twice, or an entry is
wrong by itself, or a slot is missing and the count is off as well. -/
def CountTells (desired : List DesiredSlot) (applied : List AppliedSlot) : Prop :=
  (activeIndices applied).Nodup ∨
    (∃ a ∈ applied, a.active ∧ ∀ d ∈ desired, ¬ a.Shows d) ∨
    (activeIndices applied).length ≠ desired.length ∧
      ∃ d ∈ desired, d.ctrlIdx ∉ activeIndices applied

theorem mem_activeIndices {applied : List AppliedSlot} {i : UInt8} :
    i ∈ activeIndices applied ↔ ∃ a ∈ applied, a.active ∧ a.ctrlIdx = i := by
  simp [activeIndices, and_assoc]

section
variable {desired : List DesiredSlot} {applied : List AppliedSlot} (hd : Distinct ctrlIdx desired)
include hd

theorem agrees_indexBy {a : AppliedSlot} :
    a.agrees (indexBy ctrlIdx desired) = true ↔ ∃ d ∈ desired, a.Shows d := by
  unfold AppliedSlot.agrees
  cases hfind : (indexBy ctrlIdx desired).lookup a.ctrlIdx with
  | none =>
    have hnone := lookup_indexBy_eq_none.mp hfind
    simp only [Bool.false_eq_true, false_iff]
    rintro ⟨d, hmem, hidx, -⟩
    exact hnone (List.mem_map.mpr ⟨d, hmem, hidx⟩)
  | some d =>
    obtain ⟨hmem, hidx⟩ := of_lookup_indexBy hfind
    -- the slot found is the only one with the index
    have honly : ∀ e ∈ desired, e.ctrlIdx = a.ctrlIdx → e = d :=
      fun e he hei => hd.eq_of_key he hmem (hei.trans hidx.symm)
    constructor
    · intro h
      refine ⟨d, hmem, hidx, ?_⟩
      cases hmode : a.touchpadMode <;> simp_all
    · rintro ⟨e, he, hei, htype, hmode⟩
      obtain rfl := honly e he hei
      cases ha : a.touchpadMode <;> simp_all

theorem length_keys_indexBy : (indexBy ctrlIdx desired).keys.length = desired.length := by
  have hperm := (List.perm_ext_iff_of_nodup (AList.keys_nodup (indexBy _ desired)) hd).mpr
    fun i => (AList.mem_keys (s := indexBy ctrlIdx desired)).symm.trans mem_indexBy
  simpa using hperm.length_eq

/-- What the check compares, and what it ought to. -/
theorem appliedMatchesDesired_iff : appliedMatchesDesired desired applied true = true ↔
    (∀ a ∈ applied, a.active → ∃ d ∈ desired, a.Shows d) ∧
      (activeIndices applied).length = desired.length := by
  simp only [appliedMatchesDesired, Bool.true_and, Bool.and_eq_true, List.all_eq_true,
    List.mem_filter, and_imp, agrees_indexBy hd, length_keys_indexBy hd, beq_iff_eq, activeIndices,
    List.length_map]

theorem sameTopology_iff : SameTopology desired applied ↔
    (∀ a ∈ applied, a.active → ∃ d ∈ desired, a.Shows d) ∧
      desired.map ctrlIdx ⊆ activeIndices applied := by
  constructor
  · rintro ⟨hindices, hshapes⟩
    refine ⟨fun a hmem hactive => ?_, fun i hi => ?_⟩
    · obtain ⟨d, hd', hidx⟩ := (hindices a.ctrlIdx).mp ⟨a, hmem, hactive, rfl⟩
      exact ⟨d, hd', hidx, hshapes a hmem hactive d hd' hidx⟩
    · exact mem_activeIndices.mpr ((hindices i).mpr (List.mem_map.mp hi))
  · rintro ⟨hagree, hsub⟩
    refine ⟨fun i => ⟨?_, fun hi => mem_activeIndices.mp (hsub (List.mem_map.mpr hi))⟩, ?_⟩
    · rintro ⟨a, hmem, hactive, rfl⟩
      obtain ⟨d, hd', hidx, -⟩ := hagree a hmem hactive
      exact ⟨d, hd', hidx⟩
    · intro a hmem hactive d hd' hidx
      obtain ⟨e, he, hei, hshape⟩ := hagree a hmem hactive
      obtain rfl := hd.eq_of_key he hd' (hei.trans hidx.symm)
      exact hshape

/-- **When the count stands for the comparison.**  With the mouse grant matching, the check accepts
exactly the views that show the wanted topology if, and only if, the count tells. -/
theorem applied_matches_iff : (appliedMatchesDesired desired applied true = true ↔
    SameTopology desired applied) ↔ CountTells desired applied := by
  rw [appliedMatchesDesired_iff hd, sameTopology_iff hd]
  have hlength : (desired.map ctrlIdx).length = desired.length := List.length_map _
  constructor
  · intro h
    by_cases hagree : ∀ a ∈ applied, a.active → ∃ d ∈ desired, a.Shows d
    · simp only [and_iff_right hagree] at h
      by_cases hsub : desired.map ctrlIdx ⊆ activeIndices applied
      · -- both accept: as many entries as slots, and every slot among them
        have hperm := (List.subperm_of_subset hd hsub).perm_of_length_le
          (by rw [h.mpr hsub, hlength])
        exact .inl (hperm.nodup hd)
      · refine .inr (.inr ⟨fun hcount => hsub (h.mp hcount), ?_⟩)
        by_contra hnone
        push Not at hnone
        exact hsub fun i hi => by
          obtain ⟨d, hd', rfl⟩ := List.mem_map.mp hi
          exact hnone d hd'
    · push Not at hagree
      exact .inr (.inl hagree)
  · rintro (hnodup | ⟨a, hmem, hactive, hwrong⟩ | ⟨hcount, d, hd', hmissing⟩)
    · refine and_congr_right fun hagree => ?_
      have hshown : activeIndices applied ⊆ desired.map ctrlIdx := by
        intro i hi
        obtain ⟨a, hmem, hactive, rfl⟩ := mem_activeIndices.mp hi
        obtain ⟨d, hd', hidx, -⟩ := hagree a hmem hactive
        exact List.mem_map.mpr ⟨d, hd', hidx⟩
      have hsubperm := List.subperm_of_subset hnodup hshown
      refine ⟨fun hcount => ?_, fun hsub => ?_⟩
      · exact (hsubperm.perm_of_length_le (by rw [hcount, hlength])).symm.subset
      · rw [← hlength]
        exact Nat.le_antisymm hsubperm.length_le (List.subperm_of_subset hd hsub).length_le
    · refine iff_of_false (fun h => ?_) (fun h => ?_) <;>
      · obtain ⟨d, hd', hshows⟩ := h.1 a hmem hactive
        exact hwrong d hd' hshows
    · exact iff_of_false (fun h => hcount h.2) fun h =>
        hmissing (h.2 (List.mem_map.mpr ⟨d, hd', rfl⟩))

end

/-- The theorem at a view that shows the only slot twice, with the wrong type: the count would be
wrong, but the entries are by themselves, and both refuse it. -/
theorem applied_matches_wrong_twice :
    appliedMatchesDesired [⟨0, 1, .off⟩] [⟨0, 2, true, none⟩, ⟨0, 2, true, none⟩] true = true ↔
      SameTopology [⟨0, 1, .off⟩] [⟨0, 2, true, none⟩, ⟨0, 2, true, none⟩] :=
  (applied_matches_iff (by decide)).mpr (.inr (.inl ⟨_, List.mem_cons_self, rfl, by
    simp [AppliedSlot.Shows]⟩))

/-- A view that shows the first of two pads twice is accepted with the second missing, and one that
shows the only pad twice is refused. -/
theorem repeated_entry_counts_twice :
    (appliedMatchesDesired [⟨0, 1, .off⟩, ⟨1, 1, .off⟩] [⟨0, 1, true, none⟩, ⟨0, 1, true, none⟩] true
        = true ∧
      ¬ SameTopology [⟨0, 1, .off⟩, ⟨1, 1, .off⟩] [⟨0, 1, true, none⟩, ⟨0, 1, true, none⟩]) ∧
    appliedMatchesDesired [⟨0, 1, .off⟩] [⟨0, 1, true, none⟩, ⟨0, 1, true, none⟩] true = false ∧
      SameTopology [⟨0, 1, .off⟩] [⟨0, 1, true, none⟩, ⟨0, 1, true, none⟩] := by
  refine ⟨⟨by decide, fun h => ?_⟩, by decide, ⟨fun i => by simp, by simp⟩⟩
  simpa using (h.indices 1).mpr ⟨_, List.mem_cons_of_mem _ (List.mem_singleton_self _), rfl⟩

end Dish
