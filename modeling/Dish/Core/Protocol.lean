/-
The parts of the wire protocol the session model reads: what a controller
descriptor says about one virtual pad, and the outcome the satellite reports for it.
-/
import Mathlib.Algebra.Order.Ring.Int

namespace Dish

def kProtocolVersion : Nat := 3
def kProtocolVersionMin : Nat := 1

/-- What the crypto framing leaves of one datagram. -/
def kUdpMaxInnerPayloadBytes : Nat := 1472

/-! ### Descriptors -/

/-- `kTouchpadModeDs4`, `kTouchpadModeMouse`, `kTouchpadModeOff`. -/
inductive TouchpadMode where
  | ds4
  | mouse
  | off
  deriving DecidableEq, Repr

/-- The wire form of a mode. -/
def touchpadModeName : TouchpadMode → String
  | .mouse => "mouse"
  | .off => "off"
  | .ds4 => "ds4"

/-- Unknown names read as off, the server's default. -/
def touchpadModeFromName (name : String) : TouchpadMode :=
  if name = "ds4" then .ds4
  else if name = "mouse" then .mouse
  else .off

def kCapAnalogTriggers : UInt16 := 0x0001
def kCapRumble : UInt16 := 0x0002
def kCapMotion : UInt16 := 0x0004
def kCapLightbar : UInt16 := 0x0008
def kCapTriggerEffects : UInt16 := 0x0010
def kCapPlayerLeds : UInt16 := 0x0020
def kCapMic : UInt16 := 0x0040
def kCapSpeaker : UInt16 := 0x0080
def kCapHapticAudio : UInt16 := 0x0100

/-- `with…Capability`: the bit is folded in when the slot has the feature. -/
def withCapability (bit : UInt16) (base : UInt16) (has : Bool) : UInt16 :=
  base ||| (if has then bit else 0)

def withRumbleCapability := withCapability kCapRumble
def withMotionCapability := withCapability kCapMotion
def withLightbarCapability := withCapability kCapLightbar
def withTriggerEffectsCapability := withCapability kCapTriggerEffects
def withPlayerLedsCapability := withCapability kCapPlayerLeds
def withMicCapability := withCapability kCapMic
def withSpeakerCapability := withCapability kCapSpeaker
def withHapticAudioCapability := withCapability kCapHapticAudio

/-- `models::ControllerDescriptor`, the body of a controller PUT. -/
structure ControllerDescriptor where
  ctrlIdx : Nat
  type : UInt8
  caps : UInt16
  touchpadMode : TouchpadMode
  deriving DecidableEq, Repr

/-! ### Apply results -/

/-- The per-controller outcome of a session or controller PUT. -/
inductive ApplyResult where
  | ok
  | noSlots
  | pluginFailed
  | replugFailed
  | backendUnavailable
  | invalidType
  | invalidIndex
  | unknown
  deriving DecidableEq, Repr

/-- `applyResultSlotIsLive`: a failed replug leaves the previous pad plugged. -/
def ApplyResult.slotIsLive : ApplyResult → Bool
  | .ok | .replugFailed => true
  | _ => false

/-- A name a newer server invented reads as unknown, which is not live. -/
def applyResultFromName (name : String) : ApplyResult :=
  if name = "ok" then .ok
  else if name = "noSlots" then .noSlots
  else if name = "pluginFailed" then .pluginFailed
  else if name = "replugFailed" then .replugFailed
  else if name = "backendUnavailable" then .backendUnavailable
  else if name = "invalidType" then .invalidType
  else if name = "invalidIndex" then .invalidIndex
  else .unknown

/-- `models::ControllerApplyDto`; the result is the wire string. -/
structure ControllerApplyDto where
  ctrlIdx : Nat
  result : String
  deriving DecidableEq, Repr

def ControllerApplyDto.ok (r : ControllerApplyDto) : Bool := applyResultFromName r.result == .ok

def ControllerApplyDto.slotIsLive (r : ControllerApplyDto) : Bool :=
  (applyResultFromName r.result).slotIsLive

/-- `models::SessionViewControllerDto`; an empty mode is one the server did not report. -/
structure SessionViewControllerDto where
  ctrlIdx : Nat
  active : Bool
  appliedType : Nat
  touchpadMode : String
  deriving DecidableEq, Repr

/-! ### Session keys -/

/-- What a UDP session is keyed with: the token that names it and the key it seals with. -/
structure Material where
  token : BitVec 32
  key : BitVec 256
  deriving DecidableEq

end Dish
