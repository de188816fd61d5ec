/-
The controller numbers of one Moonlight session, and what a pad is announced as.

A host names each of its virtual pads by a small number, four at most.  A slot takes the lowest
number that is free and keeps it until it is released, and the mask of the numbers in use rides
every packet.  What a pad declares is what its type can carry cut down to what the local source
delivers.
-/
import Mathlib.Data.Fintype.Card
import Mathlib.Data.List.FinRange
import Mathlib.Data.List.Perm.Subperm
import Dish.Core.Protocol

namespace Dish.Moonlight

def kMaxPads : Nat := 4

/-- A controller number of a session. -/
abbrev PadNumber : Type := Fin kMaxPads

/-- Which slot holds which number.  No slot holds two and no number is held twice. -/
structure PadSlots where
  assigned : List (String × PadNumber) := []
  slotsOnce : (assigned.map (·.1)).Nodup := by decide
  numbersOnce : (assigned.map (·.2)).Nodup := by decide
  deriving DecidableEq

namespace PadSlots

def empty : PadSlots := {}

def numberFor (slots : PadSlots) (slotId : String) : Option PadNumber :=
  (slots.assigned.find? (·.1 = slotId)).map (·.2)

def slotFor (slots : PadSlots) (number : PadNumber) : Option String :=
  (slots.assigned.find? (·.2 = number)).map (·.1)

def size (slots : PadSlots) : Nat := slots.assigned.length

/-- Whether the slot holds a number. -/
def holds (slots : PadSlots) (slotId : String) : Prop := slotId ∈ slots.assigned.map (·.1)

instance (slots : PadSlots) (slotId : String) : Decidable (slots.holds slotId) :=
  inferInstanceAs (Decidable (_ ∈ _))

/-- The lowest number nothing holds. -/
def lowestFree (slots : PadSlots) : Option PadNumber :=
  (List.finRange kMaxPads).find? fun n => n ∉ slots.assigned.map (·.2)

theorem lowestFree_free {slots : PadSlots} {n : PadNumber} (h : slots.lowestFree = some n) :
    n ∉ slots.assigned.map (·.2) := by
  simpa using List.find?_some h

/-- A slot that holds no number takes the lowest free one, if there is one. -/
def assign (slots : PadSlots) (slotId : String) : Option (PadNumber × PadSlots) :=
  if fresh : slots.holds slotId then none
  else
    match free : slots.lowestFree with
    | none => none
    | some n =>
      some (n, {
        assigned := slots.assigned ++ [(slotId, n)]
        slotsOnce := by
          rw [List.map_append, List.nodup_append]
          refine ⟨slots.slotsOnce, by simp, ?_⟩
          intro a ha b hb same
          rw [same, List.mem_singleton.mp hb] at ha
          exact fresh ha
        numbersOnce := by
          rw [List.map_append, List.nodup_append]
          refine ⟨slots.numbersOnce, by simp, ?_⟩
          intro a ha b hb same
          rw [same, List.mem_singleton.mp hb] at ha
          exact lowestFree_free free ha })

/-- The slot gives its number back, and the caller is told which it was. -/
def release (slots : PadSlots) (slotId : String) : Option PadNumber × PadSlots :=
  (slots.numberFor slotId, {
    assigned := slots.assigned.filter (·.1 ≠ slotId)
    slotsOnce := slots.slotsOnce.sublist (List.filter_sublist.map _)
    numbersOnce := slots.numbersOnce.sublist (List.filter_sublist.map _) })

/-- The bits of the numbers in use, as every packet of the session carries them. -/
def activeMask (slots : PadSlots) : UInt16 :=
  slots.assigned.foldl (fun mask a => mask ||| (1 <<< (UInt16.ofNat a.2.val))) 0

end PadSlots

/-! ### What a pad declares -/

def kControllerTypeUnknown : UInt8 := 0x00
def kControllerTypeXbox : UInt8 := 0x01
def kControllerTypePs : UInt8 := 0x02
def kControllerTypeNintendo : UInt8 := 0x03
def kControllerTypeAuto : UInt8 := 0xFF

def kCapAnalogTriggers : UInt8 := 0x01
def kCapRumble : UInt8 := 0x02
def kCapTriggerRumble : UInt8 := 0x04
def kCapTouchpad : UInt8 := 0x08
def kCapAccelerometer : UInt8 := 0x10
def kCapGyro : UInt8 := 0x20
def kCapBattery : UInt8 := 0x40
def kCapRgbLed : UInt8 := 0x80

def kStandardButtons : UInt32 := 0xF7FF
def kBtnTouchpad : UInt32 := 0x100000

/-- What the local input source can deliver. -/
structure SourceCapabilities where
  rumble : Bool := false
  motion : Bool := false
  touchpad : Bool := false
  battery : Bool := false
  lightbar : Bool := false
  deriving Repr, DecidableEq

def sourceCapabilityBits (source : SourceCapabilities) : UInt8 :=
  kCapAnalogTriggers |||
    (if source.rumble then kCapRumble ||| kCapTriggerRumble else 0) |||
    (if source.motion then kCapAccelerometer ||| kCapGyro else 0) |||
    (if source.touchpad then kCapTouchpad else 0) |||
    (if source.battery then kCapBattery else 0) |||
    (if source.lightbar then kCapRgbLed else 0)

def typeCapabilityCeiling (controllerType : UInt8) : UInt8 :=
  if controllerType = kControllerTypePs then
    kCapAnalogTriggers ||| kCapRumble ||| kCapTriggerRumble ||| kCapTouchpad |||
      kCapAccelerometer ||| kCapGyro ||| kCapBattery ||| kCapRgbLed
  else kCapAnalogTriggers ||| kCapRumble ||| kCapTriggerRumble ||| kCapBattery

def resolveAutoType (sourceHasMotion : Bool) : UInt8 :=
  if sourceHasMotion then kControllerTypePs else kControllerTypeXbox

/-- A stored pick, normalised: anything outside the picker's range is the automatic one. -/
def migrateControllerType (stored : Int) : Int :=
  if stored = kControllerTypeXbox.toNat ∨ stored = kControllerTypePs.toNat ∨
      stored = kControllerTypeNintendo.toNat then stored
  else kControllerTypeAuto.toNat

def resolveControllerType (stored : Int) (sourceHasMotion : Bool) : UInt8 :=
  let normalised := migrateControllerType stored
  if normalised = kControllerTypeAuto.toNat then resolveAutoType sourceHasMotion
  else UInt8.ofNat normalised.toNat

def declaredCapabilities (resolvedType : UInt8) (source : SourceCapabilities) : UInt8 :=
  typeCapabilityCeiling resolvedType &&& sourceCapabilityBits source

/-- What an arrival tells the host a pad is. -/
structure AnnouncedPad where
  type : UInt8 := kControllerTypeUnknown
  capabilities : UInt8 := 0
  deriving Repr, DecidableEq

def arrivalForBinding (storedType : Int) (source : SourceCapabilities) : AnnouncedPad :=
  let type := resolveControllerType storedType source.motion
  { type := type, capabilities := declaredCapabilities type source }

def declaredButtons (declaredCaps : UInt8) : UInt32 :=
  if declaredCaps &&& kCapTouchpad ≠ 0 then kStandardButtons ||| kBtnTouchpad
  else kStandardButtons

def kCapsReadAtArrival : UInt8 := kCapAccelerometer ||| kCapGyro

/-- Whether announcing `wanted` over the pad the host built from `held` gets another pad. -/
def hostBuildsAnotherPad (held wanted : AnnouncedPad) : Bool :=
  held.type != wanted.type ||
    (held.capabilities ^^^ wanted.capabilities) &&& kCapsReadAtArrival != 0

def touchpadPickOrDefault (stored : Option String) : String :=
  stored.getD (touchpadModeName .ds4)

/-- The touchpad routing a pick takes.  A pick the path cannot carry is off. -/
def resolveTouchpadMode (pick : String) (padHasTouchpad typeOffersDs4 hostMouseControl : Bool) :
    TouchpadMode :=
  if pick = touchpadModeName .ds4 ∧ padHasTouchpad ∧ typeOffersDs4 then .ds4
  else if pick = touchpadModeName .mouse ∧ padHasTouchpad ∧ hostMouseControl then .mouse
  else .off

def touchReachesHost (storedPick : Option String) (padHasTouchpad : Bool)
    (controllerType : UInt8) : Bool :=
  let typeRendersPad := typeCapabilityCeiling controllerType &&& kCapTouchpad != 0
  resolveTouchpadMode (touchpadPickOrDefault storedPick) padHasTouchpad typeRendersPad false
    = .ds4

/-! ### What assigning and releasing do -/

namespace PadSlots

variable {slots : PadSlots} {slotId : String}

/-- The first entry under a key is the only one, if no key is there twice. -/
theorem find_value_iff {β : Type} {entries : List (String × β)} {value : β}
    (once : (entries.map (·.1)).Nodup) :
    (entries.find? (·.1 = slotId)).map (·.2) = some value ↔ (slotId, value) ∈ entries := by
  constructor
  · intro h
    obtain ⟨entry, found, held⟩ := Option.map_eq_some_iff.mp h
    have slot : entry.1 = slotId := by simpa using List.find?_some found
    have pair : entry = (slotId, value) := Prod.ext slot held
    exact pair ▸ List.mem_of_find?_eq_some found
  · intro h
    cases found : entries.find? (·.1 = slotId) with
    | none => exact absurd (List.find?_eq_none.mp found _ h) (by simp)
    | some entry =>
      have slot : entry.1 = slotId := by simpa using List.find?_some found
      have same := List.inj_on_of_nodup_map once (List.mem_of_find?_eq_some found) h slot
      simp [same]

theorem numberFor_eq_some {n : PadNumber} :
    slots.numberFor slotId = some n ↔ (slotId, n) ∈ slots.assigned :=
  find_value_iff slots.slotsOnce

theorem holds_iff : slots.holds slotId ↔ ∃ n, slots.numberFor slotId = some n := by
  constructor
  · intro h
    obtain ⟨a, ha, slot⟩ := List.mem_map.mp h
    exact ⟨a.2, numberFor_eq_some.mpr (slot ▸ ha)⟩
  · intro ⟨n, h⟩
    exact List.mem_map_of_mem (numberFor_eq_some.mp h)

/-- What assigning gives: a number nothing held, and the same numbers for everyone else. -/
theorem assign_eq_some {next : PadSlots} {n : PadNumber}
    (h : slots.assign slotId = some (n, next)) :
    ¬slots.holds slotId ∧ next.assigned = slots.assigned ++ [(slotId, n)] := by
  unfold assign at h
  split at h
  · cases h
  · rename_i fresh
    split at h
    · cases h
    · rename_i m free
      simp only [Option.some.injEq, Prod.mk.injEq] at h
      obtain ⟨number, rest⟩ := h
      subst number
      subst rest
      exact ⟨fresh, rfl⟩

theorem numbers_length_le (slots : PadSlots) : slots.size ≤ kMaxPads := by
  have bound := List.Nodup.length_le_card slots.numbersOnce
  simpa [size] using bound

/-- Assigning fails only for a slot that holds a number, or when all four are taken. -/
theorem assign_eq_none (h : slots.assign slotId = none) :
    slots.holds slotId ∨ slots.size = kMaxPads := by
  unfold assign at h
  split at h
  · exact .inl ‹_›
  · split at h
    · rename_i free
      refine .inr (le_antisymm slots.numbers_length_le ?_)
      have all : ∀ n : PadNumber, n ∈ slots.assigned.map (·.2) := by
        intro n
        have := List.find?_eq_none.mp free n (List.mem_finRange n)
        simpa using this
      have card : (List.finRange kMaxPads).length ≤ (slots.assigned.map (·.2)).length :=
        (List.subperm_of_subset (List.nodup_finRange _) fun n _ => all n).length_le
      simpa [size] using card
    · cases h

theorem mem_release {a : String × PadNumber} :
    a ∈ (slots.release slotId).2.assigned ↔ a ∈ slots.assigned ∧ a.1 ≠ slotId := by
  simp [release]

end PadSlots

end Dish.Moonlight
