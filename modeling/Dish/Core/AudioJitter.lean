/-
The reorder window of one audio stream.

Packets come in with a 16-bit sequence number that wraps, and what comes out is what the decoder
has to do, in stream order: decode a packet, or conceal a frame that never came.  The window waits
for the frame `next`.  A packet that is far enough ahead of it proves that the frame is lost, and
a hole longer than a few frames is not concealed but skipped.

A packet's bytes stand for the pointer and the length the source carries.  The loop of `drain` is on
fuel, more than it can use: it never makes as many turns as it is given.
-/
import Mathlib.Data.Fintype.Basic
import Mathlib.Data.List.FinRange
import Mathlib.Logic.Function.Basic

namespace Dish

def audioJitterWindowFrames : Nat := 2

def audioJitterMaxConcealFrames : Nat := 2

def audioJitterMaxPacketBytes : Nat := 1500

def audioJitterMaxEventsPerPush : Nat :=
  audioJitterWindowFrames * (audioJitterMaxConcealFrames + 1)

/-- One thing the decoder should do, in stream order. -/
inductive JitterEvent where
  | packet (seq : UInt16) (data : List UInt8)
  /-- The carrier is the packet after the frame, when the window already holds it. -/
  | gap (seq : UInt16) (fecCarrier : Option (List UInt8))
  deriving DecidableEq, Repr

def JitterEvent.seq : JitterEvent → UInt16
  | .packet seq _ => seq
  | .gap seq _ => seq

/-- What the pushed packet itself was worth. -/
inductive JitterAccept where
  | ok
  | late
  | duplicate
  | rejected
  deriving DecidableEq, Repr

structure JitterSlot where
  used : Bool := false
  seq : UInt16 := 0
  bytes : List UInt8 := []
  deriving DecidableEq, Repr

structure AudioJitterWindow where
  slots : Fin audioJitterWindowFrames → JitterSlot := fun _ => {}
  primed : Bool := false
  next : UInt16 := 0
  consecutiveGaps : Nat := 0

namespace AudioJitterWindow

/-- Wrapping distance from `next`, signed. -/
def deltaFromNext (w : AudioJitterWindow) (seq : UInt16) : Int := (seq - w.next).toInt16.toInt

def usedSlots (w : AudioJitterWindow) : Nat :=
  ((List.finRange audioJitterWindowFrames).filter fun i => (w.slots i).used).length

def find (w : AudioJitterWindow) (seq : UInt16) : Option (Fin audioJitterWindowFrames) :=
  (List.finRange audioJitterWindowFrames).find? fun i => (w.slots i).used && (w.slots i).seq == seq

def freeSlot (w : AudioJitterWindow) : Option (Fin audioJitterWindowFrames) :=
  (List.finRange audioJitterWindowFrames).find? fun i => !(w.slots i).used

/-- Furthest-ahead held packet, or -1 when nothing is held. -/
def maxAhead (w : AudioJitterWindow) : Int :=
  (List.finRange audioJitterWindowFrames).foldl (fun best i =>
    if (w.slots i).used then
      let d := w.deltaFromNext (w.slots i).seq
      if d > best then d else best
    else best) (-1)

/-- Nearest held packet, where a resync goes. -/
def oldestHeld (w : AudioJitterWindow) : Option (Fin audioJitterWindowFrames) :=
  (List.finRange audioJitterWindowFrames).foldl (fun best i =>
    if (w.slots i).used then
      match best with
      | none => some i
      | some j =>
        if w.deltaFromNext (w.slots i).seq < w.deltaFromNext (w.slots j).seq then some i else best
    else best) none

def setSlot (w : AudioJitterWindow) (i : Fin audioJitterWindowFrames) (s : JitterSlot) :
    AudioJitterWindow :=
  { w with slots := Function.update w.slots i s }

/-- One turn of `drain`'s loop: the window after it and what it emitted, or nothing when the loop
is left. -/
def turn (w : AudioJitterWindow) : Option (AudioJitterWindow × List JitterEvent) :=
  match w.find w.next with
  | some due =>
    let slot := w.slots due
    some ({ w.setSlot due { slot with used := false } with
        next := w.next + 1, consecutiveGaps := 0 }, [.packet slot.seq slot.bytes])
  | none =>
    -- nothing held, or nothing far enough ahead to prove a loss
    if w.maxAhead < audioJitterWindowFrames then none
    else if w.consecutiveGaps ≥ audioJitterMaxConcealFrames then
      match w.oldestHeld with
      | none => none
      | some resume => some ({ w with next := (w.slots resume).seq, consecutiveGaps := 0 }, [])
    else
      let carrier := (w.find (w.next + 1)).map fun i => (w.slots i).bytes
      some ({ w with next := w.next + 1, consecutiveGaps := w.consecutiveGaps + 1 },
        [.gap w.next carrier])

/-- `drain`, on fuel. -/
def drainOn : Nat → AudioJitterWindow → List JitterEvent → AudioJitterWindow × List JitterEvent
  | 0, w, events => (w, events)
  | fuel + 1, w, events =>
    if events.length < audioJitterMaxEventsPerPush then
      match w.turn with
      | none => (w, events)
      | some (w', emitted) => drainOn fuel w' (events ++ emitted)
    else (w, events)

/-- A turn emits one event, or it is a resync, which makes the next turn emit. -/
def drain (w : AudioJitterWindow) : AudioJitterWindow × List JitterEvent :=
  w.drainOn (2 * audioJitterMaxEventsPerPush + 1) []

/-- The first packet defines where the stream starts. -/
def prime (w : AudioJitterWindow) (seq : UInt16) : AudioJitterWindow :=
  if w.primed then w else { w with primed := true, next := seq, consecutiveGaps := 0 }

/-- `push` once the packet's size was checked and the window is primed. -/
def offer (w : AudioJitterWindow) (seq : UInt16) (data : List UInt8) :
    AudioJitterWindow × JitterAccept × List JitterEvent :=
  let delta := w.deltaFromNext seq
  if delta < 0 then (w, .late, [])
  else if delta = 0 ∧ w.usedSlots = 0 then
    ({ w with next := w.next + 1, consecutiveGaps := 0 }, .ok, [.packet seq data])
  else if (w.find seq).isSome then (w, .duplicate, [])
  else
    match w.freeSlot with
    | none => (w, .rejected, [])
    | some i =>
      let (w', events) := (w.setSlot i ⟨true, seq, data⟩).drain
      (w', .ok, events)

/-- Offer one packet. -/
def push (w : AudioJitterWindow) (seq : UInt16) (data : List UInt8) :
    AudioJitterWindow × JitterAccept × List JitterEvent :=
  if data = [] ∨ data.length > audioJitterMaxPacketBytes then (w, .rejected, [])
  else (w.prime seq).offer seq data

/-- Fresh pad, fresh stream; the slots keep what they have. -/
def reset (w : AudioJitterWindow) : AudioJitterWindow :=
  { w with
    primed := false, next := 0, consecutiveGaps := 0
    slots := fun i => { w.slots i with used := false } }

/-- The packets the window holds. -/
def buffered (w : AudioJitterWindow) : List (UInt16 × List UInt8) :=
  ((List.finRange audioJitterWindowFrames).filter fun i => (w.slots i).used).map fun i =>
    ((w.slots i).seq, (w.slots i).bytes)

end AudioJitterWindow

end Dish
