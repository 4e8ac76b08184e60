import Swbt.Core.Clock
/-!
# Controller models

The three controllers and the data their protocol depends on: supported
buttons, their wire positions, calibration, colors. The Rust type parameter
`M: ControllerModel` is a value `m : ControllerKind` here, and `M::SPEC` is
`m.spec`.
-/

set_option autoImplicit false

namespace Swbt

/-- A logical button. Its code is its position in this list. -/
inductive ButtonKind
  | a | b | x | y | l | r | zl | zr | plus | minus | home | capture | leftStick | rightStick | sl | sr
  | dpadUp | dpadDown | dpadLeft | dpadRight
deriving DecidableEq

/-- `kind as u8`. -/
def ButtonKind.code : ButtonKind → UInt8
  | .a => 0x00 | .b => 0x01 | .x => 0x02 | .y => 0x03 | .l => 0x04 | .r => 0x05 | .zl => 0x06 | .zr => 0x07
  | .plus => 0x08 | .minus => 0x09 | .home => 0x0A | .capture => 0x0B | .leftStick => 0x0C
  | .rightStick => 0x0D | .sl => 0x0E | .sr => 0x0F | .dpadUp => 0x10 | .dpadDown => 0x11
  | .dpadLeft => 0x12 | .dpadRight => 0x13

structure ButtonWirePosition where
  byteIndex : Nat
  mask : UInt8
deriving DecidableEq

/-! ## Colors -/

/-- A packed `0xRRGGBB` value. -/
structure Rgb24 where
  value : UInt32
  le_max : value ≤ 0xFFFFFF
deriving DecidableEq

/-- Red, green and blue, most significant first. -/
def Rgb24.components (c : Rgb24) : List UInt8 :=
  [((c.value >>> 16) &&& 0xFF).toUInt8, ((c.value >>> 8) &&& 0xFF).toUInt8, (c.value &&& 0xFF).toUInt8]

structure ControllerColors where
  body : Rgb24
  buttons : Rgb24
  leftGrip : Rgb24
  rightGrip : Rgb24
deriving DecidableEq

/-- Body, button, left grip and right grip colors, in SPI order. -/
def ControllerColors.toSpiBytes (c : ControllerColors) : List UInt8 :=
  c.body.components ++ c.buttons.components ++ c.leftGrip.components ++ c.rightGrip.components

/-! ## Model data -/

/-- Raw values of the three axes, as `[i16; 3]`. -/
structure Axes where
  x : Int16
  y : Int16
  z : Int16
deriving DecidableEq

/-- Axis `i % 3`. -/
def Axes.get (a : Axes) (i : Nat) : Int16 :=
  match i % 3 with
  | 0 => a.x
  | 1 => a.y
  | _ => a.z

structure SensorCalibration where
  zeroRaw : Axes
  referenceRaw : Axes
deriving DecidableEq

structure ModelProtocolSpec where
  deviceType : UInt8
  deviceInfoTail : List UInt8
  batteryConnection : UInt8
  vibratorInput : UInt8
  pairingTriggerButtons : List ButtonKind
  acceptedImuModes : List UInt8
  defaultColors : ControllerColors
  accelerometerCalibration : SensorCalibration
  gyroscopeCalibration : SensorCalibration

/-- `ModelProtocolSpec::new`: what the models share is filled in here. -/
def ModelProtocolSpec.new (deviceType : UInt8) (deviceInfoTail : List UInt8)
    (pairingTriggerButtons : List ButtonKind) (defaultColors : ControllerColors) : ModelProtocolSpec where
  deviceType := deviceType
  deviceInfoTail := deviceInfoTail
  batteryConnection := 0x80
  vibratorInput := 0x00
  pairingTriggerButtons := pairingTriggerButtons
  acceptedImuModes := [0, 1, 2, 3, 4, 5]
  defaultColors := defaultColors
  accelerometerCalibration := ⟨⟨0, 0, 0⟩, ⟨0x4000, 0x4000, 0x4000⟩⟩
  gyroscopeCalibration := ⟨⟨0, 0, 0⟩, ⟨0x343B, 0x343B, 0x343B⟩⟩

structure ModelSpec where
  supportedButtons : List ButtonKind
  buttonWireMapping : List (ButtonKind × ButtonWirePosition)
  protocol : ModelProtocolSpec

/-- The entry of one button in `controller_models!`. -/
def button (kind : ButtonKind) (byteIndex : Nat) (mask : UInt8) : ButtonKind × ButtonWirePosition :=
  (kind, ⟨byteIndex, mask⟩)

/-- One controller of `controller_models!`: both button tables come from one list. -/
def ModelSpec.new (protocol : ModelProtocolSpec) (buttons : List (ButtonKind × ButtonWirePosition)) : ModelSpec where
  supportedButtons := buttons.map Prod.fst
  buttonWireMapping := buttons
  protocol := protocol

def rgb (value : UInt32) (h : value ≤ 0xFFFFFF := by decide) : Rgb24 := ⟨value, h⟩

def proSpec : ModelSpec :=
  .new (.new 0x03 [0x03, 0x02] [.l, .r] ⟨rgb 0x323232, rgb 0xFFFFFF, rgb 0x00B2FF, rgb 0xFF3B30⟩) [
    button .a 3 0x08, button .b 3 0x04, button .x 3 0x02, button .y 3 0x01, button .l 5 0x40, button .r 3 0x40,
    button .zl 5 0x80, button .zr 3 0x80, button .plus 4 0x02, button .minus 4 0x01, button .home 4 0x10,
    button .capture 4 0x20, button .leftStick 4 0x08, button .rightStick 4 0x04, button .dpadUp 5 0x02,
    button .dpadDown 5 0x01, button .dpadLeft 5 0x08, button .dpadRight 5 0x04]

def joyConLSpec : ModelSpec :=
  .new (.new 0x01 [0x01, 0x01] [.sl, .sr] ⟨rgb 0x00B2FF, rgb 0x323232, rgb 0x00B2FF, rgb 0x00B2FF⟩) [
    button .l 5 0x40, button .zl 5 0x80, button .minus 4 0x01, button .capture 4 0x20, button .leftStick 4 0x08,
    button .sl 5 0x20, button .sr 5 0x10, button .dpadUp 5 0x02, button .dpadDown 5 0x01, button .dpadLeft 5 0x08,
    button .dpadRight 5 0x04]

def joyConRSpec : ModelSpec :=
  .new (.new 0x02 [0x01, 0x01] [.sl, .sr] ⟨rgb 0xFF3B30, rgb 0x323232, rgb 0xFF3B30, rgb 0xFF3B30⟩) [
    button .a 3 0x08, button .b 3 0x04, button .x 3 0x02, button .y 3 0x01, button .r 3 0x40, button .zr 3 0x80,
    button .plus 4 0x02, button .home 4 0x10, button .rightStick 4 0x04, button .sl 3 0x20, button .sr 3 0x10]

inductive ControllerKind
  | pro | joyConL | joyConR
deriving DecidableEq

def ControllerKind.spec : ControllerKind → ModelSpec
  | .pro => proSpec
  | .joyConL => joyConLSpec
  | .joyConR => joyConRSpec

/-- `button_wire_position`: the first entry for the button, if any. -/
def buttonWirePosition (m : ControllerKind) (kind : ButtonKind) : Option ButtonWirePosition :=
  m.spec.buttonWireMapping.findSome? fun entry => if entry.1 = kind then some entry.2 else none

def ModelSpec.supportsButton (m : ControllerKind) (kind : ButtonKind) : Bool := (buttonWirePosition m kind).isSome

/-- Every button a model lists has a wire position. -/
theorem supported_wire_position (m : ControllerKind) {kind : ButtonKind} (h : kind ∈ m.spec.supportedButtons) :
    ∃ position, buttonWirePosition m kind = some position := by
  have hall : ∀ m : ControllerKind, ∀ kind ∈ m.spec.supportedButtons, (buttonWirePosition m kind).isSome := by
    intro m
    cases m <;> decide
  exact Option.isSome_iff_exists.1 (hall m kind h)

end Swbt
