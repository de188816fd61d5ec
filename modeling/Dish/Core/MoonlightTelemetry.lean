/-
What a Moonlight session remembers about each of its pads between two packets.

The host subscribes to the motion of each pad on its own, and the gate keeps what it asked for and
when it was last served.  Its two rumble streams land on the same two motors and are mixed.  The
touch frames of a pad are sent as the transitions between them, and its buttons cross bit for bit.
Coordinates and sensor values are rationals here: the source's are floats that come from integer
counts, compared exactly.
-/
import Mathlib.Data.Rat.Defs
import Mathlib.Logic.Function.Basic
import Dish.Core.MoonlightPadSlots

namespace Dish.Moonlight

/-! ### Motion -/

/-- A subscription is per controller number and kind of motion. -/
structure MotionKey where
  controllerNumber : Nat
  motionType : Nat
  deriving Repr, DecidableEq

structure MotionGate where
  rates : MotionKey → Option Nat := fun _ => none
  lastSentUs : MotionKey → Option Int := fun _ => none

namespace MotionGate

/-- A rate of zero is how a host says stop. -/
def onMotionRequest (gate : MotionGate) (key : MotionKey) (reportRateHz : Nat) : MotionGate :=
  if reportRateHz = 0 then
    { rates := Function.update gate.rates key none
      lastSentUs := Function.update gate.lastSentUs key none }
  else { gate with rates := Function.update gate.rates key (some reportRateHz) }

/-- Forgets what the host asked of one pad. -/
def clear (gate : MotionGate) (controllerNumber : Nat) : MotionGate :=
  { rates := fun key => if key.controllerNumber = controllerNumber then none else gate.rates key
    lastSentUs := fun key =>
      if key.controllerNumber = controllerNumber then none else gate.lastSentUs key }

/-- Whether a sample is due, and the gate with the sample marked as sent if it is. -/
def shouldSend (gate : MotionGate) (key : MotionKey) (nowUs : Int) : Bool × MotionGate :=
  match gate.rates key with
  | none => (false, gate)
  | some rate =>
    let intervalUs : Int := 1000000 / rate
    let early := match gate.lastSentUs key with
      | none => false
      | some last => nowUs - last < intervalUs
    if early then (false, gate)
    else (true, { gate with lastSentUs := Function.update gate.lastSentUs key (some nowUs) })

end MotionGate

/-! ### Rumble -/

structure BodyRumble where
  strong : UInt16 := 0
  weak : UInt16 := 0
  deriving Repr, DecidableEq

/-- The live levels of the host's two streams for one controller number. -/
structure RumbleMix where
  bodyStrong : UInt16 := 0
  bodyWeak : UInt16 := 0
  triggerLeft : UInt16 := 0
  triggerRight : UInt16 := 0
  deriving Repr, DecidableEq

def mixRumble (mix : RumbleMix) : BodyRumble :=
  { strong := if mix.bodyStrong > mix.triggerLeft then mix.bodyStrong else mix.triggerLeft
    weak := if mix.bodyWeak > mix.triggerRight then mix.bodyWeak else mix.triggerRight }

def withBodyRumble (mix : RumbleMix) (strong weak : UInt16) : RumbleMix :=
  { mix with bodyStrong := strong, bodyWeak := weak }

def withTriggerRumble (mix : RumbleMix) (left right : UInt16) : RumbleMix :=
  { mix with triggerLeft := left, triggerRight := right }

/-! ### Touch -/

inductive TouchEventType where
  | down
  | up
  | move
  deriving Repr, DecidableEq

structure TouchEvent where
  eventType : TouchEventType
  pointerId : UInt8
  x : Rat
  y : Rat
  pressure : Rat
  deriving Repr, DecidableEq

structure TouchFinger where
  active : Bool := false
  id : UInt8 := 0
  x : Rat := 0
  y : Rat := 0
  deriving Repr, DecidableEq

def kTouchPressureDown : Rat := 1
def kTouchPressureUp : Rat := 0

/-- The last frame the host was told about. -/
structure TouchDiffer where
  last0 : TouchFinger := {}
  last1 : TouchFinger := {}
  deriving Repr, DecidableEq

def touchDown (cur : TouchFinger) : TouchEvent :=
  { eventType := .down, pointerId := cur.id, x := cur.x, y := cur.y,
    pressure := kTouchPressureDown }

def touchUp (prev : TouchFinger) : TouchEvent :=
  { eventType := .up, pointerId := prev.id, x := prev.x, y := prev.y,
    pressure := kTouchPressureUp }

def touchMove (cur : TouchFinger) : TouchEvent :=
  { eventType := .move, pointerId := cur.id, x := cur.x, y := cur.y,
    pressure := kTouchPressureDown }

def diffFinger (prev cur : TouchFinger) : List TouchEvent :=
  if !prev.active && cur.active then [touchDown cur]
  else if prev.active && !cur.active then [touchUp prev]
  else if !prev.active && !cur.active then []
  else if prev.id ≠ cur.id then [touchUp prev, touchDown cur]
  else if prev.x ≠ cur.x ∨ prev.y ≠ cur.y then [touchMove cur]
  else []

/-- The transitions between the remembered frame and this one, and this one remembered. -/
def TouchDiffer.diff (differ : TouchDiffer) (finger0 finger1 : TouchFinger) :
    List TouchEvent × TouchDiffer :=
  (diffFinger differ.last0 finger0 ++ diffFinger differ.last1 finger1,
    { last0 := finger0, last1 := finger1 })

/-! ### Buttons -/

/-- The rows of the button map, internal bit and Moonlight flag.  The two vocabularies line up,
and `0x0800`, which the satellite protocol spends on the microphone, has no row. -/
def buttonRows : List (UInt16 × UInt32) :=
  [(0x0001, 0x0001), (0x0002, 0x0002), (0x0004, 0x0004), (0x0008, 0x0008), (0x0010, 0x0010),
    (0x0020, 0x0020), (0x0040, 0x0040), (0x0080, 0x0080), (0x0100, 0x0100), (0x0200, 0x0200),
    (0x0400, 0x0400), (0x1000, 0x1000), (0x2000, 0x2000), (0x4000, 0x4000), (0x8000, 0x8000)]

def toMoonlightButtons (buttons : UInt16) : UInt32 :=
  buttonRows.foldl (fun out row => if buttons &&& row.1 ≠ 0 then out ||| row.2 else out) 0

def touchpadClick (clickHeld : Bool) : UInt32 :=
  if clickHeld then kBtnTouchpad else 0

end Dish.Moonlight
