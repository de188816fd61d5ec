/-
The OUT reports a claimed pad accepts.

Each builder writes one whole report, id first, into a buffer the caller gives with its capacity, and
returns its length; 0 says that the family has no such actuator, the buffer is too small, or the
request is refused.  A report starts from zeroes and flags the fields it means, and the pad applies
the flagged fields only.  The buffer is modelled as the memory from its first byte on, with no end,
so that a write past the capacity would show.
-/
import Mathlib.Data.List.Basic
import Dish.Core.UsbModels

namespace Dish

def kMicMuteLedOff : UInt8 := 0
def kMicMuteLedPulse : UInt8 := 2

def kTriggerEffectBlockBytes : Nat := 11

/-- A trigger's effect block: the mode and ten parameters. -/
abbrev TriggerBlock := Fin kTriggerEffectBlockBytes → UInt8

/-- What the writer keeps between reports. -/
structure FeedbackState where
  ds5LightbarSetupSent : Bool := false
  /-- The lamp state last asked for, and whether one ever was. -/
  ds5MicMuteLed : UInt8 := kMicMuteLedOff
  ds5MicMuteLedSet : Bool := false
  deriving DecidableEq, Repr

/-! ### The buffer -/

/-- The memory from the first byte of the caller's buffer on. -/
abbrev Buffer := Nat → UInt8

namespace Buffer

def set (out : Buffer) (i : Nat) (v : UInt8) : Buffer := fun j => if j = i then v else out j

def zero (out : Buffer) (n : Nat) : Buffer := fun j => if j < n then 0 else out j

def copy (out : Buffer) (base : Nat) (block : TriggerBlock) : Buffer := fun j =>
  if h : base ≤ j ∧ j < base + kTriggerEffectBlockBytes then block ⟨j - base, by omega⟩ else out j

end Buffer

/-- The high byte of a 16-bit magnitude. -/
def hi8 (v : UInt16) : UInt8 := (v >>> 8).toUInt8

/-! ### The Switch Pro's encoded amplitudes -/

structure SwitchAmpCode where
  high : UInt8
  low : UInt16
  amp : Nat
  deriving DecidableEq, Repr

def kSwitchAmpCodes : List SwitchAmpCode :=
  [ ⟨0x00, 0x0040, 0⟩, ⟨0x02, 0x8040, 10⟩, ⟨0x08, 0x0042, 17⟩, ⟨0x10, 0x0044, 33⟩,
    ⟨0x40, 0x0050, 230⟩, ⟨0x70, 0x005C, 387⟩, ⟨0xA0, 0x0068, 650⟩, ⟨0xC8, 0x0072, 1003⟩ ]

/-- The highest code at or below the amplitude. -/
def switchCodeOf (magnitude : UInt16) : SwitchAmpCode :=
  let amp := magnitude.toNat * 1003 / 65535
  ((kSwitchAmpCodes.takeWhile fun e => e.amp ≤ amp).getLast?).getD ⟨0x00, 0x0040, 0⟩

def switchEncodeMotor (out : Buffer) (base : Nat) (magnitude : UInt16) : Buffer :=
  let code := switchCodeOf magnitude
  let high := (0x01 : UInt8) + code.high
  let low := (0x40 : UInt8) + (code.low >>> 8).toUInt8
  (((out.set base 0x00).set (base + 1) high).set (base + 2) low).set (base + 3) code.low.toUInt8

/-! ### The DualSense's mute lamp -/

/-- The lamp and the microphone amplifier behind it, stamped onto a report built for something else,
once anything drove them. -/
def reassertDs5MicMuteLed (st : FeedbackState) (out : Buffer) : Buffer :=
  if st.ds5MicMuteLedSet then
    ((out.set 2 (out 2 ||| (0x01 ||| 0x02))).set 9 st.ds5MicMuteLed).set 10
      (if st.ds5MicMuteLed = kMicMuteLedOff then 0x00 else 0x10)
  else out

/-! ### The builders

Each returns the length written and the buffer. -/

def buildRumbleReport (p : HidParser) (st : FeedbackState) (strong weak : UInt16) (seq : UInt8)
    (out : Buffer) (outCap : Nat) : Nat × Buffer :=
  match p with
  | .dualShock4 =>
    if outCap < 32 then (0, out)
    else (32, ((((out.zero 32).set 0 0x05).set 1 0x01).set 4 (hi8 weak)).set 5 (hi8 strong))
  | .dualSense =>
    if outCap < 63 then (0, out)
    else
      (63, reassertDs5MicMuteLed st
        (((((out.zero 63).set 0 0x02).set 1 0x01).set 3 (hi8 weak)).set 4 (hi8 strong)))
  | .switchProUsb =>
    if outCap < 10 then (0, out)
    else
      (10, switchEncodeMotor
        (switchEncodeMotor (((out.zero 10).set 0 0x10).set 1 (seq &&& 0x0F)) 2 strong) 6 weak)
  | .steamController | .genericHid | .none => (0, out)

/-- The setup handoff that makes a host colour visible rides the first colour. -/
def lightbarHandoff (st : FeedbackState) (out : Buffer) : Buffer :=
  if st.ds5LightbarSetupSent then out else (out.set 39 0x02).set 42 0x02

def buildLightbarReport (p : HidParser) (st : FeedbackState) (r g b : UInt8) (out : Buffer)
    (outCap : Nat) : FeedbackState × Nat × Buffer :=
  match p with
  | .dualShock4 =>
    if outCap < 32 then (st, 0, out)
    else
      (st, 32, (((((out.zero 32).set 0 0x05).set 1 0x02).set 6 r).set 7 g).set 8 b)
  | .dualSense =>
    if outCap < 63 then (st, 0, out)
    else
      let sent := { st with ds5LightbarSetupSent := true }
      (sent, 63, reassertDs5MicMuteLed sent
        ((((lightbarHandoff st (((out.zero 63).set 0 0x02).set 2 0x04)).set 45 r).set 46 g).set
          47 b))
  | .switchProUsb | .steamController | .genericHid | .none => (st, 0, out)

def buildPlayerLedsReport (p : HidParser) (st : FeedbackState) (ledMask seq : UInt8) (out : Buffer)
    (outCap : Nat) : Nat × Buffer :=
  match p with
  | .dualSense =>
    if outCap < 63 then (0, out)
    else
      (63, reassertDs5MicMuteLed st
        ((((out.zero 63).set 0 0x02).set 2 0x10).set 44 (ledMask &&& 0x1F)))
  | .switchProUsb =>
    if outCap < 12 then (0, out)
    else
      let rumble := switchEncodeMotor
        (switchEncodeMotor (((out.zero 12).set 0 0x01).set 1 (seq &&& 0x0F)) 2 0) 6 0
      (12, (rumble.set 10 0x30).set 11 (ledMask &&& 0x0F))
  | .dualShock4 | .steamController | .genericHid | .none => (0, out)

/-- The blocks go through untouched; the report has the right trigger's first. -/
def buildTriggerEffectsReport (p : HidParser) (st : FeedbackState) (left right : TriggerBlock)
    (out : Buffer) (outCap : Nat) : Nat × Buffer :=
  if p ≠ .dualSense then (0, out)
  else if outCap < 63 then (0, out)
  else
    (63, reassertDs5MicMuteLed st
      (((((out.zero 63).set 0 0x02).set 1 (0x04 ||| 0x08)).copy 11 right).copy 22 left))

def buildMicMuteLedReport (p : HidParser) (st : FeedbackState) (state : UInt8) (out : Buffer)
    (outCap : Nat) : FeedbackState × Nat × Buffer :=
  if p ≠ .dualSense then (st, 0, out)
  else if state > kMicMuteLedPulse then (st, 0, out)
  else if outCap < 63 then (st, 0, out)
  else
    let lit := { st with ds5MicMuteLed := state, ds5MicMuteLedSet := true }
    (lit, 63, reassertDs5MicMuteLed lit ((out.zero 63).set 0 0x02))

end Dish
