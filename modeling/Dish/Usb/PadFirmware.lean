/-
What a DualShock 4 and a DualSense do with an OUT report.

The pads are modelled as the fields a report can set, each behind its valid flag: a report sets the
fields it flags to the bytes it carries and leaves the rest.  A report that flags anything beyond the
fields listed here is counted, so that nothing else can be disturbed unseen.
-/
import Dish.Core.UsbOutputReports

namespace Dish

structure Ds4Pad where
  /-- The weak motor and the strong one. -/
  motors : UInt8 × UInt8
  colour : UInt8 × UInt8 × UInt8
  /-- Reports that flagged some other field. -/
  otherWrites : Nat := 0
  deriving DecidableEq, Repr

def Ds4Pad.receive (pad : Ds4Pad) (len : Nat) (report : Buffer) : Ds4Pad :=
  if len = 32 ∧ report 0 = 0x05 then
    { motors := if report 1 &&& 0x01 ≠ 0 then (report 4, report 5) else pad.motors
      colour := if report 1 &&& 0x02 ≠ 0 then (report 6, report 7, report 8) else pad.colour
      otherWrites := if report 1 &&& 0xFC ≠ 0 then pad.otherWrites + 1 else pad.otherWrites }
  else pad

structure DualSensePad where
  motors : UInt8 × UInt8
  colour : UInt8 × UInt8 × UInt8
  leds : UInt8
  right : TriggerBlock
  left : TriggerBlock
  micLed : UInt8
  powerSave : UInt8
  /-- What the lightbar setup field was set to, in order. -/
  lightbarSetups : List UInt8 := []
  otherWrites : Nat := 0

/-- The power-save bit that takes the microphone amplifier off. -/
def DualSensePad.micAmpOff (pad : DualSensePad) : Bool := pad.powerSave &&& 0x10 ≠ 0

/-- `valid_flag0` is byte 1, `valid_flag1` byte 2 and `valid_flag2` byte 39. -/
def DualSensePad.receive (pad : DualSensePad) (len : Nat) (report : Buffer) : DualSensePad :=
  if len = 63 ∧ report 0 = 0x02 then
    { motors := if report 1 &&& 0x01 ≠ 0 then (report 3, report 4) else pad.motors
      right := if report 1 &&& 0x04 ≠ 0 then fun i => report (11 + i) else pad.right
      left := if report 1 &&& 0x08 ≠ 0 then fun i => report (22 + i) else pad.left
      micLed := if report 2 &&& 0x01 ≠ 0 then report 9 else pad.micLed
      powerSave := if report 2 &&& 0x02 ≠ 0 then report 10 else pad.powerSave
      colour := if report 2 &&& 0x04 ≠ 0 then (report 45, report 46, report 47) else pad.colour
      leds := if report 2 &&& 0x10 ≠ 0 then report 44 else pad.leds
      lightbarSetups :=
        if report 39 &&& 0x02 ≠ 0 then pad.lightbarSetups ++ [report 42] else pad.lightbarSetups
      otherWrites :=
        if report 1 &&& 0xF2 ≠ 0 ∨ report 2 &&& 0xE8 ≠ 0 ∨ report 39 &&& 0xFD ≠ 0 then
          pad.otherWrites + 1
        else pad.otherWrites }
  else pad

/-! ### A run of requests -/

/-- A request to one of the builders, for a pad of a family. -/
inductive FeedbackRequest where
  | rumble (strong weak : UInt16) (seq : UInt8)
  | lightbar (r g b : UInt8)
  | playerLeds (ledMask seq : UInt8)
  | triggerEffects (left right : TriggerBlock)
  | micMuteLed (state : UInt8)

/-- A builder call: the family, the request, and the caller's buffer with its capacity. -/
structure FeedbackCall where
  family : HidParser
  request : FeedbackRequest
  out : Buffer
  outCap : Nat

/-- The builder the request names: the state it leaves, the length it returns and the buffer. -/
def FeedbackCall.build (call : FeedbackCall) (st : FeedbackState) :
    FeedbackState × Nat × Buffer :=
  match call.request with
  | .rumble strong weak seq =>
    (st, buildRumbleReport call.family st strong weak seq call.out call.outCap)
  | .lightbar r g b => buildLightbarReport call.family st r g b call.out call.outCap
  | .playerLeds ledMask seq =>
    (st, buildPlayerLedsReport call.family st ledMask seq call.out call.outCap)
  | .triggerEffects left right =>
    (st, buildTriggerEffectsReport call.family st left right call.out call.outCap)
  | .micMuteLed state => buildMicMuteLedReport call.family st state call.out call.outCap

/-- The shared state and a pad of each family. -/
structure FeedbackRun where
  st : FeedbackState := {}
  ds4 : Ds4Pad
  dualSense : DualSensePad

/-- A report that was built goes to the pad of its family. -/
def FeedbackRun.step (s : FeedbackRun) (call : FeedbackCall) : FeedbackRun :=
  let (st, len, report) := call.build s.st
  match call.family with
  | .dualShock4 => { s with st := st, ds4 := s.ds4.receive len report }
  | .dualSense => { s with st := st, dualSense := s.dualSense.receive len report }
  | _ => { s with st := st }

end Dish
