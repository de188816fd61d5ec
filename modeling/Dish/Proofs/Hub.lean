/-
The hub's bindings and the connections' slots say the same.

`bind` takes the slot that was bound to the new connection away from it, and leaves the
slot's own old connection as it is.  So the two sides agree as long as a slot is unbound
before it is bound to another connection (`NotElsewhere`), and a history of two binds
tells them apart otherwise.
-/
import Dish.Net.ConnectionHub

namespace Dish

open Steps

namespace WifiConnection

variable (c : WifiConnection)

/-- The slots the connection has. -/
def Attached (slotId : SlotId) : Prop := slotId ∈ c.slots.entries.map Prod.fst

instance (slotId : SlotId) : Decidable (c.Attached slotId) :=
  inferInstanceAs (Decidable (_ ∈ _))

theorem find_isSome_iff (slotId : SlotId) : (c.slots.find slotId).isSome ↔ c.Attached slotId := by
  simp [SlotTable.find, Attached]

theorem attached_attachSlot (slotId x : SlotId) (shape : SlotShape) :
    (c.attachSlot slotId shape).1.Attached x ↔ x = slotId ∨ c.Attached x := by
  unfold attachSlot
  split
  · next h =>
    have hsame : ∀ x, x ∈ (c.slots.mapBindings
        (fun i b => if i = slotId then { b with shape := shape } else b)
        (by intro i b; by_cases hi : i = slotId <;> simp [hi])).entries.map Prod.fst ↔
        x ∈ c.slots.entries.map Prod.fst := by
      intro x
      simp [SlotTable.mapBindings]
    refine (hsame x).trans ⟨.inr, ?_⟩
    rintro (rfl | hx)
    · exact h
    · exact hx
  · simp [Attached, SlotTable.bind]

theorem boundSlotId_attachSlot (slotId : SlotId) (shape : SlotShape) :
    (c.attachSlot slotId shape).1.boundSlotId =
      if c.Attached slotId then c.boundSlotId else some slotId := by
  unfold attachSlot
  split
  · next h => exact (if_pos h).symm
  · next h => exact (if_neg h).symm

theorem attached_detachSlot (slotId x : SlotId) :
    (c.detachSlot slotId).1.Attached x ↔ x ≠ slotId ∧ c.Attached x := by
  unfold detachSlot
  split
  · next hnone =>
    refine ⟨fun hx => ⟨?_, hx⟩, And.right⟩
    rintro rfl
    simpa [hnone] using (c.find_isSome_iff x).mpr hx
  · simp only [Attached, SlotTable.erase, List.mem_map, List.mem_filter]
    constructor
    · rintro ⟨e, ⟨he, hne⟩, rfl⟩
      exact ⟨by simpa using hne, e, he, rfl⟩
    · rintro ⟨hne, e, he, rfl⟩
      exact ⟨e, ⟨he, by simpa using hne⟩, rfl⟩

theorem boundSlotId_detachSlot {slotId : SlotId} (h : c.Attached slotId) :
    (c.detachSlot slotId).1.boundSlotId =
      if c.boundSlotId = some slotId then none else c.boundSlotId := by
  unfold detachSlot
  split
  · next hnone => simpa [hnone] using (c.find_isSome_iff slotId).mpr h
  · rfl

/-- The connection has one slot, and it is the bound one; or it has none. -/
def Carries (slot : Option SlotId) : Prop :=
  c.boundSlotId = slot ∧ ∀ x, c.Attached x ↔ slot = some x

variable {c}

section
variable {slot : Option SlotId} (h : c.Carries slot)
include h

theorem Carries.detach :
    c.detachBoundSlot.Carries none := by
  unfold detachBoundSlot
  split
  · next hnone => exact ⟨hnone, fun x => by rw [h.2, ← h.1, hnone]⟩
  · next slotId hbound =>
    obtain rfl : slot = some slotId := h.1.symm.trans hbound
    have hatt : c.Attached slotId := (h.2 slotId).mpr rfl
    refine ⟨by rw [boundSlotId_detachSlot c hatt, if_pos hbound], fun x => ?_⟩
    rw [attached_detachSlot, h.2]
    simp [eq_comm]

theorem Carries.attach {slotId : SlotId}
    (hslot : slot = none ∨ slot = some slotId) (shape : SlotShape) :
    (c.attachSlot slotId shape).1.Carries (some slotId) := by
  refine ⟨?_, fun x => ?_⟩
  · rw [boundSlotId_attachSlot]
    split
    · next hatt => rw [h.1, (h.2 slotId).mp hatt]
    · rfl
  · rw [attached_attachSlot, h.2]
    rcases hslot with rfl | rfl <;> simp [eq_comm]

theorem Carries.sendTarget {target : SessionClient × Nat} (ht : c.sendTarget = some target) :
    ∃ slotId b, slot = some slotId ∧ c.slots.find slotId = some b ∧
      target.2 = b.controllerIndex := by
  unfold WifiConnection.sendTarget at ht
  split at ht
  · simp at ht
  · next slotId hbound =>
    split at ht
    · simp at ht
    · next b hb =>
      split at ht
      · obtain ⟨-, -, rfl⟩ := Option.map_eq_some_iff.mp ht
        exact ⟨slotId, b, h.1.symm.trans hbound, hb, rfl⟩
      · simp at ht

end

end WifiConnection

namespace Hub

variable {s : Hub} {slotId x : SlotId} {id : SatelliteId}

/-- A slot is bound to a connection only while it is not bound to another, and has a name. -/
def NotElsewhere (s : Hub) : HubAction → Prop
  | .bind slotId connectionId _ =>
    slotId ≠ "" ∧ ∀ other ∈ s.bindings.lookup slotId, other = connectionId
  | .unbind _ => True

instance (s : Hub) (a : HubAction) : Decidable (s.NotElsewhere a) := by
  unfold NotElsewhere
  split <;> infer_instance

/-- The slots of each pooled connection are those bound to it: the one bound slot, or none. -/
structure Agrees (s : Hub) : Prop where
  carries : ∀ id c, s.pool id = some c →
    c.Carries c.boundSlotId ∧ ∀ x, c.boundSlotId = some x ↔ s.bindings.lookup x = some id
  single : ∀ id x y, s.bindings.lookup x = some id → s.bindings.lookup y = some id → x = y
  named : s.bindings.lookup "" = none

theorem lookup_iff_mem : s.bindings.lookup x = some id ↔ ⟨x, id⟩ ∈ s.bindings.entries :=
  AList.mem_lookup_iff

theorem priorSlot_eq_some {prior : SlotId} (h : s.priorSlot slotId id = some prior) :
    s.bindings.lookup prior = some id ∧ prior ≠ slotId := by
  unfold priorSlot at h
  split at h
  · next e he =>
    have hmem := List.mem_of_find?_eq_some he
    have hprop := List.find?_some he
    simp only [decide_eq_true_eq] at hprop
    split at h
    · simp at h
    · obtain rfl := Option.some_inj.mp h
      exact ⟨lookup_iff_mem.mpr (hprop.1 ▸ hmem), hprop.2⟩
  · simp at h

theorem priorSlot_eq_none (hnamed : s.bindings.lookup "" = none)
    (h : s.priorSlot slotId id = none) (hx : s.bindings.lookup x = some id) : x = slotId := by
  unfold priorSlot at h
  split at h
  · next e he =>
    split at h
    · next hempty =>
      have hmem := List.mem_of_find?_eq_some he
      have hlookup : s.bindings.lookup e.1 = some e.2 := lookup_iff_mem.mpr hmem
      rw [hempty, hnamed] at hlookup
      simp at hlookup
    · simp at h
  · next hnone =>
    by_contra hne
    have := List.find?_eq_none.mp hnone ⟨x, id⟩ (lookup_iff_mem.mp hx)
    simp [hne] at this

theorem pool_onConnection (f : WifiConnection → WifiConnection) (other : SatelliteId) :
    (s.onConnection id f).pool other = if other = id then (s.pool id).map f else s.pool other := by
  simp [onConnection, Function.update_apply]

section
variable (h : s.Agrees)
include h

theorem Agrees.detach {prior : SlotId} (hprior : s.bindings.lookup prior = some id) :
    Agrees ({ s with bindings := s.bindings.erase prior }.onConnection id
      WifiConnection.detachBoundSlot) where
  carries other c hc := by
    rw [pool_onConnection] at hc
    split at hc
    · next hid =>
      subst hid
      obtain ⟨c₀, hc₀, rfl⟩ := Option.map_eq_some_iff.mp hc
      have hdetached := (h.carries other c₀ hc₀).1.detach
      refine ⟨by rw [hdetached.1]; exact hdetached, fun x => ?_⟩
      rw [hdetached.1]
      refine ⟨nofun, fun hx => ?_⟩
      by_cases hxp : x = prior
      · subst hxp
        simp [onConnection] at hx
      · have hx' : s.bindings.lookup x = some other := by
          rw [← AList.lookup_erase_ne hxp]
          exact hx
        exact absurd (h.single other x prior hx' hprior) hxp
    · next hid =>
      refine ⟨(h.carries other c hc).1, fun x => ?_⟩
      rw [(h.carries other c hc).2]
      by_cases hxp : x = prior
      · subst hxp
        simp [onConnection, hprior, Ne.symm hid]
      · show _ ↔ (s.bindings.erase prior).lookup x = some other
        rw [AList.lookup_erase_ne hxp]
  single other x y hx hy := by
    have hold : ∀ x, (s.bindings.erase prior).lookup x = some other →
        s.bindings.lookup x = some other := fun x hx => by
      by_cases hxp : x = prior
      · subst hxp
        simp at hx
      · rwa [AList.lookup_erase_ne hxp] at hx
    exact h.single other x y (hold x hx) (hold y hy)
  named := by
    show (s.bindings.erase prior).lookup "" = none
    by_cases hp : "" = prior
    · subst hp
      simp
    · rw [AList.lookup_erase_ne hp]
      exact h.named

theorem Agrees.attach (hslot : slotId ≠ "")
    (honly : ∀ x, s.bindings.lookup x = some id → x = slotId)
    (hother : ∀ other ∈ s.bindings.lookup slotId, other = id) (shape : SlotShape) :
    Agrees ({ s with bindings := s.bindings.insert slotId id }.onConnection id
      fun c => (c.attachSlot slotId shape).1) := by
  have hins : ∀ x ≠ slotId, (s.bindings.insert slotId id).lookup x = s.bindings.lookup x :=
    fun x hx => AList.lookup_insert_ne hx
  have hself : (s.bindings.insert slotId id).lookup slotId = some id :=
    AList.lookup_insert s.bindings
  refine ⟨fun other c hc => ?_, fun other x y hx hy => ?_, (hins "" hslot.symm).trans h.named⟩
  · rw [pool_onConnection] at hc
    show _ ∧ ∀ x, _ ↔ (s.bindings.insert slotId id).lookup x = some other
    split at hc
    · next hid =>
      subst hid
      obtain ⟨c₀, hc₀, rfl⟩ := Option.map_eq_some_iff.mp hc
      obtain ⟨hcarries, hbound⟩ := h.carries other c₀ hc₀
      have hslot' : c₀.boundSlotId = none ∨ c₀.boundSlotId = some slotId := by
        rcases hb : c₀.boundSlotId with _ | x
        · exact .inl rfl
        · exact .inr (by rw [honly x ((hbound x).mp hb)])
      have hattached := hcarries.attach hslot' shape
      refine ⟨by rw [hattached.1]; exact hattached, fun x => ?_⟩
      rw [hattached.1]
      by_cases hx : x = slotId
      · subst hx
        simp [hself]
      · rw [hins x hx]
        exact ⟨fun he => absurd (Option.some_inj.mp he).symm hx, fun he => absurd (honly x he) hx⟩
    · next hid =>
      refine ⟨(h.carries other c hc).1, fun x => ?_⟩
      rw [(h.carries other c hc).2]
      by_cases hx : x = slotId
      · subst hx
        rw [hself]
        exact ⟨fun he => absurd (hother other he) hid,
          fun he => absurd (Option.some_inj.mp he).symm hid⟩
      · rw [hins x hx]
  · replace hx : (s.bindings.insert slotId id).lookup x = some other := hx
    replace hy : (s.bindings.insert slotId id).lookup y = some other := hy
    by_cases hxs : x = slotId <;> by_cases hys : y = slotId
    · rw [hxs, hys]
    · rw [hxs, hself, Option.some_inj] at hx
      rw [hins y hys] at hy
      exact absurd (honly y (hx ▸ hy)) hys
    · rw [hys, hself, Option.some_inj] at hy
      rw [hins x hxs] at hx
      exact absurd (honly x (hy ▸ hx)) hxs
    · rw [hins x hxs] at hx
      rw [hins y hys] at hy
      exact h.single other x y hx hy

theorem Agrees.bind {shape : SlotShape}
    (hok : s.NotElsewhere (.bind slotId id shape)) : (s.bind slotId id shape).Agrees := by
  obtain ⟨hslot, hother⟩ := hok
  unfold Hub.bind
  split
  · next prior hprior =>
    obtain ⟨hlookup, hne⟩ := priorSlot_eq_some hprior
    have hold : ∀ x, (s.bindings.erase prior).lookup x = some id → x = slotId := fun x hx => by
      by_cases hxp : x = prior
      · subst hxp
        simp at hx
      · rw [AList.lookup_erase_ne hxp] at hx
        exact absurd (h.single id x prior hx hlookup) hxp
    refine (h.detach hlookup).attach hslot hold (fun other ho => hother other ?_) shape
    exact (AList.lookup_erase_ne hne.symm).symm.trans ho
  · next hprior =>
    exact h.attach hslot (fun x => priorSlot_eq_none h.named hprior) hother shape

theorem Agrees.unbind (slotId : SlotId) : (s.unbind slotId).Agrees := by
  unfold Hub.unbind
  split
  · exact h
  · next id hlookup => exact h.detach hlookup

/-- **What one call keeps.** -/
theorem Agrees.step (a : HubAction) (hok : s.NotElsewhere a) :
    (s.step a).Agrees := by
  cases a with
  | bind => exact h.bind hok
  | unbind slotId => exact h.unbind slotId

end

theorem agrees_fresh {pool : SatelliteId → Option WifiConnection}
    (h : ∀ id c, pool id = some c → c.slots = .empty ∧ c.boundSlotId = none) :
    Agrees { pool := pool } where
  carries id c hc := by
    obtain ⟨hslots, hbound⟩ := h id c hc
    refine ⟨⟨rfl, fun x => ?_⟩, fun x => ?_⟩
    · simp [WifiConnection.Attached, hslots, hbound, SlotTable.empty]
    · simp [hbound]
  single id x y hx := by simp at hx
  named := by simp

/-- **The bindings and the slots agree.**  After every history of binds and unbinds in which
a slot is not bound to a connection while it is bound to another, the slots attached to a
pooled connection are the slots whose binding names it, there is at most one, the
connection's bound slot is that one, and that is where `sendTarget` sends. -/
theorem bindings_match_slots {pool : SatelliteId → Option WifiConnection}
    (hpool : ∀ id c, pool id = some c → c.slots = .empty ∧ c.boundSlotId = none)
    (acts : List HubAction) (hok : Along step NotElsewhere { pool := pool } acts) :
    let s := run step { pool := pool } acts
    ∀ id c, s.pool id = some c →
      (∀ x, c.Attached x ↔ s.bindings.lookup x = some id) ∧
        (∀ x, c.boundSlotId = some x ↔ s.bindings.lookup x = some id) ∧
        ∀ target, c.sendTarget = some target → ∃ slotId b, s.bindings.lookup slotId = some id ∧
          c.slots.find slotId = some b ∧ target.2 = b.controllerIndex := by
  intro s id c hc
  have h : s.Agrees := run_keeps (I := Agrees) (fun _ a hs => hs.step a) (agrees_fresh hpool) hok
  obtain ⟨hcarries, hbound⟩ := h.carries id c hc
  refine ⟨fun x => (hcarries.2 x).trans (hbound x), hbound, fun target ht => ?_⟩
  obtain ⟨slotId, b, hslot, hb, hindex⟩ := hcarries.sendTarget ht
  exact ⟨slotId, b, (hbound slotId).mp hslot, hb, hindex⟩

/-- Every connection is in the pool and has no slot yet. -/
def freshPool : SatelliteId → Option WifiConnection := fun _ => some { server := { ip := "10.0.0.2" } }

/-- A slot is bound twice to one connection, loses it to another slot, and is bound to a
second connection. -/
def movingSlot : List HubAction :=
  [.bind "s" (.mid "a") { controllerType := 1 }, .bind "s" (.mid "a") { controllerType := 2 },
    .bind "t" (.mid "a") { controllerType := 1 }, .bind "s" (.mid "b") { controllerType := 1 }]

theorem moving_slot_agrees :
    (run step { pool := freshPool } movingSlot).bindings.lookup "s" = some (.mid "b") ∧
      ∀ c, (run step { pool := freshPool } movingSlot).pool (.mid "a") = some c →
        ∀ x, c.Attached x ↔
          (run step { pool := freshPool } movingSlot).bindings.lookup x = some (.mid "a") :=
  ⟨by decide +kernel, fun c hc => (bindings_match_slots
    (fun _ c hc => by obtain rfl := Option.some_inj.mp hc; exact ⟨rfl, rfl⟩) movingSlot
    (by decide +kernel) (.mid "a") c hc).1⟩

/-- A slot bound to a second connection is left on the first, which keeps sending for it. -/
theorem rebound_slot_on_both :
    let s := run step { pool := freshPool }
      [.bind "s" (.mid "a") { controllerType := 1 }, .bind "s" (.mid "b") { controllerType := 1 }]
    s.bindings.lookup "s" = some (.mid "b") ∧
      ((s.pool (.mid "a")).map fun c => (c.slots.entries.map Prod.fst, c.boundSlotId)) =
        some (["s"], some "s") := by
  decide +kernel

end Hub

end Dish
