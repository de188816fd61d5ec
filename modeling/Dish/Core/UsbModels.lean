/-
The HID pad models the application knows by vendor and product.

A model decides the family its reports are decoded with, the order its buttons are declared in, and
whether a pad given back to the system comes back as a gamepad at all.
-/
import Mathlib.Data.Option.Basic

namespace Dish

inductive HidParser where
  | none
  | dualShock4
  | dualSense
  | switchProUsb
  | genericHid
  | steamController
  deriving DecidableEq, Repr

/-- The order a pad declares its buttons in. -/
inductive ButtonOrder where
  | western
  | switch
  | eightBitDo
  | playStationClassic
  deriving DecidableEq, Repr

structure KnownHidModel where
  vid : Int
  pid : Int
  name : String
  parser : HidParser
  order : ButtonOrder := .western
  deriving DecidableEq, Repr

def kKnownModels : List KnownHidModel :=
  [ ⟨0x054C, 0x0CDA, "PlayStation Classic controller", .genericHid, .playStationClassic⟩,
    ⟨0x2DC8, 0x3100, "8BitDo USB Wireless Adapter (D-input)", .genericHid, .eightBitDo⟩,
    ⟨0x2DC8, 0x3105, "8BitDo USB Wireless Adapter 2 (D-input)", .genericHid, .eightBitDo⟩,
    ⟨0x2DC8, 0x5006, "8BitDo M30 (D-input)", .genericHid, .eightBitDo⟩,
    ⟨0x0E6F, 0x0180, "PDP Faceoff Wired Pro Controller (Switch)", .genericHid, .switch⟩,
    ⟨0x0E6F, 0x0181, "PDP Faceoff Deluxe Wired Pro Controller (Switch)", .genericHid, .switch⟩,
    ⟨0x0E6F, 0x0184, "PDP Faceoff Deluxe+ Audio Controller (Switch)", .genericHid, .switch⟩,
    ⟨0x0E6F, 0x0185, "PDP Wired Fight Pad Pro (Switch)", .genericHid, .switch⟩,
    ⟨0x0E6F, 0x0187, "PDP Rock Candy Wired Controller (Switch)", .genericHid, .switch⟩,
    ⟨0x28DE, 0x1102, "Valve Steam Controller", .steamController, .western⟩,
    ⟨0x28DE, 0x1142, "Valve Steam Controller (dongle)", .steamController, .western⟩ ]

def lookupKnownModel (vendorId productId : Int) : Option KnownHidModel :=
  kKnownModels.find? fun m => m.vid == vendorId && m.pid == productId

/-- The Sony families are named by product; any other Sony product is generic HID. -/
def parserForDevice (vendorId productId : Int) : HidParser :=
  match lookupKnownModel vendorId productId with
  | some m => m.parser
  | none =>
    if vendorId = 0x054C then
      if productId = 0x0CE6 ∨ productId = 0x0DF2 then .dualSense
      else if productId = 0x05C4 ∨ productId = 0x09CC ∨ productId = 0x0BA0 then .dualShock4
      else .genericHid
    else if vendorId = 0x057E then .switchProUsb
    else .genericHid

/-- False for the Steam Controller, whose stand-alone identity is a keyboard and a mouse. -/
def modelExpectsFrameworkGamepad (vendorId productId : Int) : Bool :=
  match lookupKnownModel vendorId productId with
  | some m => m.parser != .steamController
  | none => true

/-- Whether the pad reports whether or not anything moved. -/
def parserStreamsUnprompted : HidParser → Bool
  | .dualShock4 | .dualSense | .switchProUsb => true
  | .none | .genericHid | .steamController => false

end Dish
