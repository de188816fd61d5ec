/-
`WifiConnection`: one live or potential session to a satellite.

The slots are declarative.  A binding keeps the descriptor the user wants and
whether the satellite last confirmed it, and everything the satellite holds gets
there over REST: by the session PUT, which carries all of them, or by a controller
PUT or DELETE that the manager sends when `attachSlot` or `detachSlot` signals a
change.  Only what those decisions read is kept here; the feedback handlers and the
latency figures are not.
-/
import Mathlib.Data.List.Perm.Basic
import Mathlib.Data.List.Nodup
import Dish.Core.Models
import Dish.Core.Reconcile

namespace Dish

/-- The key the user interface gives a slot. -/
abbrev SlotId := String

/-- `SessionState`. -/
inductive SessionState where
  | idle
  | linking
  | live
  | faltering
  | stale
  deriving DecidableEq, Repr

/-! ### Slots -/

/-- What `attachSlot` declares about a slot. -/
structure SlotShape where
  controllerType : Nat
  touchpadMode : TouchpadMode := .off
  hasLightbar : Bool := false
  hasMotion : Bool := false
  hasRumble : Bool := false
  hasTriggerEffects : Bool := false
  hasPlayerLeds : Bool := false
  hasMic : Bool := false
  hasSpeaker : Bool := false
  hasHapticAudio : Bool := false
  deriving DecidableEq, Repr

/-- `SlotBinding`: the index the slot was given, what it declares, and whether the
satellite confirmed its pad. -/
structure SlotBinding where
  controllerIndex : Nat
  shape : SlotShape
  registered : Bool
  deriving DecidableEq, Repr

/-- `descriptorOf`. -/
def SlotBinding.descriptor (b : SlotBinding) : ControllerDescriptor :=
  let caps := kCapAnalogTriggers
  let caps := withRumbleCapability caps b.shape.hasRumble
  let caps := withMotionCapability caps b.shape.hasMotion
  let caps := withLightbarCapability caps b.shape.hasLightbar
  let caps := withTriggerEffectsCapability caps b.shape.hasTriggerEffects
  let caps := withPlayerLedsCapability caps b.shape.hasPlayerLeds
  let caps := withMicCapability caps b.shape.hasMic
  let caps := withSpeakerCapability caps b.shape.hasSpeaker
  let caps := withHapticAudioCapability caps b.shape.hasHapticAudio
  { ctrlIdx := b.controllerIndex
    type := UInt8.ofNat b.shape.controllerType
    caps := caps
    touchpadMode := b.shape.touchpadMode }

/--
`slots_`.  No slot id is bound twice and no controller index is handed out twice.
The order of the entries is not the source's, which is by slot id; nothing reads it.
-/
structure SlotTable where
  entries : List (SlotId × SlotBinding)
  distinctIds : (entries.map Prod.fst).Nodup
  distinctIndices : (entries.map fun e => e.2.controllerIndex).Nodup

namespace SlotTable

instance : DecidableEq SlotTable := fun a b =>
  decidable_of_iff (a.entries = b.entries) (by cases a; cases b; simp)

def empty : SlotTable := ⟨[], by simp, by simp⟩

variable (t : SlotTable)

def bindings : List SlotBinding := t.entries.map Prod.snd

def indices : List Nat := t.entries.map fun e => e.2.controllerIndex

def find (slotId : SlotId) : Option SlotBinding :=
  (t.entries.find? fun e => e.1 = slotId).map Prod.snd

end SlotTable

/-- The first number from `i` on, at most `fuel` further, that is not taken. -/
def lowestFreeFrom (taken : List Nat) : (fuel i : Nat) → Nat
  | 0, i => i
  | fuel + 1, i => if i ∈ taken then lowestFreeFrom taken fuel (i + 1) else i

/-- `lowestFreeIndex`: one of the first `n + 1` numbers is free when `n` are taken. -/
def SlotTable.lowestFreeIndex (t : SlotTable) : Nat :=
  lowestFreeFrom t.indices t.indices.length 0

/-- The search passes over taken numbers only, and stops at a free one or out of fuel. -/
theorem lowestFreeFrom_spec (taken : List Nat) : ∀ fuel i,
    i ≤ lowestFreeFrom taken fuel i ∧ lowestFreeFrom taken fuel i ≤ i + fuel ∧
      (∀ j, i ≤ j → j < lowestFreeFrom taken fuel i → j ∈ taken) ∧
      (lowestFreeFrom taken fuel i < i + fuel → lowestFreeFrom taken fuel i ∉ taken) := by
  intro fuel
  induction fuel with
  | zero =>
    intro i
    show i ≤ i ∧ i ≤ i + 0 ∧ (∀ j, i ≤ j → j < i → j ∈ taken) ∧ (i < i + 0 → i ∉ taken)
    exact ⟨by omega, by omega, fun j hj hlt => by omega, fun h => by omega⟩
  | succ fuel ih =>
    intro i
    unfold lowestFreeFrom
    by_cases hi : i ∈ taken
    · rw [if_pos hi]
      obtain ⟨hle, hfuel, hbelow, hfree⟩ := ih (i + 1)
      refine ⟨by omega, by omega, fun j hj hlt => ?_, fun h => hfree (by omega)⟩
      by_cases hji : j = i
      · exact hji ▸ hi
      · exact hbelow j (by omega) hlt
    · rw [if_neg hi]
      exact ⟨by omega, by omega, fun j hj hlt => by omega, fun _ => hi⟩

namespace SlotTable

variable (t : SlotTable)

/-- The index handed out is free: were it taken, `n` slots would hold `n + 1` indices. -/
theorem lowestFreeIndex_free : t.lowestFreeIndex ∉ t.indices := by
  obtain ⟨-, hle, hbelow, hfree⟩ := lowestFreeFrom_spec t.indices t.indices.length 0
  by_cases hlt : lowestFreeFrom t.indices t.indices.length 0 < 0 + t.indices.length
  · exact hfree hlt
  · intro hmem
    have heq : lowestFreeFrom t.indices t.indices.length 0 = t.indices.length := by omega
    have hsub : List.range (t.indices.length + 1) ⊆ t.indices := by
      intro j hj
      rw [List.mem_range] at hj
      by_cases hj' : j < t.indices.length
      · exact hbelow j (Nat.zero_le _) (heq.symm ▸ hj')
      · obtain rfl : j = t.indices.length := by omega
        unfold SlotTable.lowestFreeIndex at hmem
        exact heq ▸ hmem
    have hlen := (List.subperm_of_subset List.nodup_range hsub).length_le
    rw [List.length_range] at hlen
    omega

/-- Rewriting bindings in place, indices kept. -/
def mapBindings (f : SlotId → SlotBinding → SlotBinding)
    (hf : ∀ i b, (f i b).controllerIndex = b.controllerIndex) : SlotTable where
  entries := t.entries.map fun e => (e.1, f e.1 e.2)
  distinctIds := by
    rw [List.map_map]
    exact t.distinctIds
  distinctIndices := by
    have h : (t.entries.map fun e => (e.1, f e.1 e.2)).map (fun e => e.2.controllerIndex) =
        t.entries.map fun e => e.2.controllerIndex := by
      rw [List.map_map]
      exact List.map_congr_left fun e _ => hf e.1 e.2
    rw [h]
    exact t.distinctIndices

/-- A new binding at the lowest free index. -/
def bind (slotId : SlotId) (shape : SlotShape) (h : slotId ∉ t.entries.map Prod.fst) :
    SlotTable where
  entries := (slotId, ⟨t.lowestFreeIndex, shape, false⟩) :: t.entries
  distinctIds := List.nodup_cons.mpr ⟨h, t.distinctIds⟩
  distinctIndices := List.nodup_cons.mpr ⟨t.lowestFreeIndex_free, t.distinctIndices⟩

def erase (slotId : SlotId) : SlotTable where
  entries := t.entries.filter fun e => e.1 ≠ slotId
  distinctIds := t.distinctIds.sublist (List.filter_sublist.map _)
  distinctIndices := t.distinctIndices.sublist (List.filter_sublist.map _)

end SlotTable

/-! ### The connection -/

/-- What the main thread reads of the session's `SatelliteClient`. -/
structure SessionClient where
  ref : Nat
  material : Material
  missedAcks : Nat := 0
  alive : Bool := true
  serverEpoch : Int := -1
  serverBitmap : Int := -1
  sessionCloseReason : Int := -1
  sendCounter : Nat := 1
  deriving DecidableEq

def kHeartbeatMissNotResponding : Nat := 2

structure WifiConnection where
  server : DiscoveredServer
  state : SessionState := .idle
  connectionId : Option String := none
  client : Option SessionClient := none
  lastAppliedEpoch : Int := -1
  mouseControlGranted : Bool := false
  rekeyRequested : Bool := false
  hostMic : Bool := false
  hostSpeaker : Bool := false
  hostHapticAudio : Bool := false
  offeredProtocolVersion : Nat := kProtocolVersion
  slots : SlotTable := .empty
  boundSlotId : Option SlotId := none
  deriving DecidableEq

/-- What the connection tells the manager about its slots. -/
inductive SlotSignal where
  | slotChanged (slotId : SlotId)
  | slotRemoved (ctrlIdx : Nat)
  deriving DecidableEq

namespace WifiConnection

variable (c : WifiConnection)

def updateServer (s : DiscoveredServer) : WifiConnection := { c with server := s }

def adoptEpoch (epoch : Int) : WifiConnection := { c with lastAppliedEpoch := epoch }

/-- A dropped session leaves no pad applied and nothing of its own behind. -/
def teardownClient : WifiConnection :=
  { c with
    client := none
    connectionId := none
    lastAppliedEpoch := -1
    mouseControlGranted := false
    rekeyRequested := false
    hostMic := false
    hostSpeaker := false
    hostHapticAudio := false
    slots := c.slots.mapBindings (fun _ b => { b with registered := false }) fun _ _ => rfl }

def markConnecting : WifiConnection :=
  match c.state with
  | .live => c
  | .faltering => { c.teardownClient with state := .linking }
  | _ => { c with state := .linking }

/-- The client the session had before, if any, is let go. -/
def markConnected (client : SessionClient) (connectionId : String) (epoch : Int)
    (mouseControlGranted : Bool) : WifiConnection :=
  if c.state ≠ .linking then c
  else
    { c with
      client := some client
      connectionId := some connectionId
      lastAppliedEpoch := epoch
      mouseControlGranted := mouseControlGranted
      state := .live
      rekeyRequested := false }

def markDisconnected : WifiConnection :=
  if c.state = .idle ∧ c.client = none then c
  else { c.teardownClient with state := .idle }

def markStale : WifiConnection :=
  if c.state = .stale ∧ c.client = none then c
  else { c.teardownClient with state := .stale }

/-- Flips only between the two steady states. -/
def applySteadyState (client : SessionClient) : WifiConnection :=
  let steady : SessionState :=
    if kHeartbeatMissNotResponding ≤ client.missedAcks then .faltering else .live
  match c.state with
  | .live | .faltering => { c with state := steady }
  | _ => c

/-- `attachSlot`, with the change the manager is told of. -/
def attachSlot (slotId : SlotId) (shape : SlotShape) : WifiConnection × Option SlotSignal :=
  if h : slotId ∈ c.slots.entries.map Prod.fst then
    let changed := (c.slots.find slotId).any fun b => b.shape ≠ shape
    let slots := c.slots.mapBindings
      (fun i b => if i = slotId then { b with shape := shape } else b)
      (by intro i b; by_cases hi : i = slotId <;> simp [hi])
    ({ c with slots := slots },
      if changed ∧ c.state = .live then some (.slotChanged slotId) else none)
  else
    ({ c with slots := c.slots.bind slotId shape h, boundSlotId := some slotId },
      if c.state = .live then some (.slotChanged slotId) else none)

/-- `detachSlot`; a pad the satellite never confirmed is not removed from it. -/
def detachSlot (slotId : SlotId) : WifiConnection × Option SlotSignal :=
  match c.slots.find slotId with
  | none => (c, none)
  | some removed =>
    ({ c with
        slots := c.slots.erase slotId
        boundSlotId := if c.boundSlotId = some slotId then none else c.boundSlotId },
      if c.state = .live ∧ removed.registered then
        some (.slotRemoved removed.controllerIndex)
      else none)

def descriptorFor (slotId : SlotId) : Option ControllerDescriptor :=
  (c.slots.find slotId).map SlotBinding.descriptor

def desiredDescriptors : List ControllerDescriptor :=
  c.slots.bindings.map SlotBinding.descriptor

/-- `slotIdForIndex`; the source's empty string is `none`. -/
def slotIdForIndex (ctrlIdx : Nat) : Option SlotId :=
  (c.slots.entries.find? fun e => e.2.controllerIndex = ctrlIdx).map Prod.fst

def wantsMouseControl : Bool :=
  c.slots.bindings.any fun b => b.shape.touchpadMode == .mouse

/-- The connection, and the messages of the controllers that failed. -/
def applyResults (results : List ControllerApplyDto) : WifiConnection × List String :=
  let byIdx := IndexBy.indexBy ControllerApplyDto.ctrlIdx results
  let slots := c.slots.mapBindings
    (fun _ b =>
      match byIdx.lookup b.controllerIndex with
      | some r => { b with registered := r.slotIsLive }
      | none => b)
    (by intro i b; cases byIdx.lookup b.controllerIndex <;> rfl)
  let failures := (c.slots.bindings.filterMap fun b => byIdx.lookup b.controllerIndex).filter
    fun r => !r.ok
  ({ c with slots := slots },
    failures.map fun r => s!"Controller #{r.ctrlIdx}: {r.result}")

def registeredBitmap : BitVec 16 :=
  expectedBitmap <| (c.slots.bindings.filter (·.registered)).map fun b =>
    { ctrlIdx := UInt8.ofNat b.controllerIndex, type := UInt8.ofNat b.shape.controllerType }

/-- `matchesAppliedView`, over the controllers and the grant of the view. -/
def matchesAppliedView (controllers : List SessionViewControllerDto) (mouseGranted : Bool) : Bool :=
  let desired := c.slots.bindings.map fun b : SlotBinding =>
    ({ ctrlIdx := UInt8.ofNat b.controllerIndex
       type := UInt8.ofNat b.shape.controllerType
       touchpadMode := b.shape.touchpadMode } : DesiredSlot)
  let applied := controllers.map fun v : SessionViewControllerDto =>
    ({ ctrlIdx := UInt8.ofNat v.ctrlIdx
       appliedType := UInt8.ofNat v.appliedType
       active := v.active
       touchpadMode :=
        if v.touchpadMode = "" then none else some (touchpadModeFromName v.touchpadMode) } :
      AppliedSlot)
  appliedMatchesDesired desired applied (mouseGranted == c.wantsMouseControl)

def setHostControllerAudio (mic speaker hapticAudio : Bool) : WifiConnection :=
  { c with hostMic := mic, hostSpeaker := speaker, hostHapticAudio := hapticAudio }

end WifiConnection

end Dish
