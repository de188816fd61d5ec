/-
The self-heal reducers: when an ack says the satellite drifted, whether the view it
reports is the desired one, which per-controller calls converge a session whose
slots changed while its PUT was in flight, and the send-counter guards.
-/
import Mathlib.Data.List.Sort
import Mathlib.Order.Fin.Basic
import Dish.Lib.IndexBy
import Dish.Core.Protocol

namespace Dish

open IndexBy (indexBy)

/-! ### Drift -/

/-- `reducer::DesiredSlot`. -/
structure DesiredSlot where
  ctrlIdx : UInt8
  type : UInt8
  touchpadMode : TouchpadMode := .off
  deriving DecidableEq, Repr

/-- `reducer::AppliedSlot`; no mode means the server does not report one. -/
structure AppliedSlot where
  ctrlIdx : UInt8
  appliedType : UInt8
  active : Bool := true
  touchpadMode : Option TouchpadMode := none
  deriving DecidableEq, Repr

/-- Bit `ctrlIdx` set per registered slot; indices past 15 have no bit. -/
def expectedBitmap (registered : List DesiredSlot) : BitVec 16 :=
  registered.foldl
    (fun bitmap s => if s.ctrlIdx.toNat ≤ 15 then bitmap ||| (1#16 <<< s.ctrlIdx.toNat) else bitmap) 0#16

/-- A negative epoch means no ack yet, a negative bitmap an unknown one. -/
def reconcileNeeded (serverEpoch serverBitmap lastAppliedEpoch : Int) (expected : BitVec 16) :
    Bool :=
  if serverEpoch < 0 then false
  else if serverEpoch ≠ lastAppliedEpoch then true
  else if 0 ≤ serverBitmap ∧ BitVec.ofInt 16 serverBitmap ≠ expected then true
  else false

/-- One active controller of the view agrees with the slot wanted at its index. -/
def AppliedSlot.agrees (want : AList fun _ : UInt8 => DesiredSlot) (a : AppliedSlot) : Bool :=
  match want.lookup a.ctrlIdx with
  | none => false
  | some d => d.type == a.appliedType &&
      match a.touchpadMode with
      | some mode => mode == d.touchpadMode
      | none => true

def appliedMatchesDesired (desired : List DesiredSlot) (applied : List AppliedSlot)
    (mouseWantsVsGrantedMatch : Bool) : Bool :=
  let want := indexBy DesiredSlot.ctrlIdx desired
  let active := applied.filter (·.active)
  mouseWantsVsGrantedMatch && active.all (·.agrees want) && active.length == want.keys.length

/-! ### Late-slot converge -/

/-- `reducer::LateConverge`: indices to PUT and to DELETE. -/
structure LateConverge where
  resyncs : List UInt8
  removes : List UInt8
  deriving DecidableEq, Repr

/-- The entry under the index of `d` is missing or fails `same`. -/
def staleAt {α : Type} (sentByIdx : AList fun _ : UInt8 => α) (idx : UInt8) (same : α → Bool) :
    Bool :=
  match sentByIdx.lookup idx with
  | none => true
  | some s => !same s

def lateSlotConverge (sent desired : List DesiredSlot) : LateConverge :=
  let sentByIdx := indexBy DesiredSlot.ctrlIdx sent
  let desiredByIdx := indexBy DesiredSlot.ctrlIdx desired
  let resyncs := desired.filter fun d => staleAt sentByIdx d.ctrlIdx fun s => s.type == d.type
  let removes := sent.filter fun s => (desiredByIdx.lookup s.ctrlIdx).isNone
  { resyncs := (resyncs.map DesiredSlot.ctrlIdx).insertionSort (· ≤ ·)
    removes := (removes.map DesiredSlot.ctrlIdx).insertionSort (· ≤ ·) }

/-! ### Send-counter guards -/

def kCounterRepushThreshold : Nat := 0xF0000000

def counterNeedsRepush (sendCounter : Nat) : Bool := kCounterRepushThreshold ≤ sendCounter

/-- Largest counter the 4-byte wire field can carry. -/
def kCounterWireMax : Nat := 0xFFFFFFFF

/-- None once the space is exhausted, at which point the sender goes silent. -/
def wireSendCounter (sequence : Nat) : Option Nat :=
  if kCounterWireMax < sequence then none else some sequence

end Dish
