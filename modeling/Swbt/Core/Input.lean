import Swbt.Core.Model
/-!
# Input states and button operations

`InputState m` is what a controller of model `m` reports: pressed buttons,
two sticks and three IMU frames. Press, release and tap build candidate states
from a committed one.
-/

set_option autoImplicit false

namespace Swbt

variable {m : ControllerKind}

/-! ## Errors of the public API -/

inductive ErrorKind
  | adapterDiscovery | transportOpen | profilePathRequired | profileNotFound | profileAlreadyExists | invalidProfile
  | profileControllerMismatch | invalidKeyStore | noBond | transportClosed | connectionTimeout | connectionFailed
  | protocol | invalidInput | unsupportedInput | unsupportedCapability | adapterIdentityRecoveryRequired | workerFailed
  | shutdown | internal
deriving DecidableEq

structure Error where
  kind : ErrorKind
  message : String
deriving DecidableEq

/-! ## Buttons -/

/-- A button the model supports. -/
structure Button (m : ControllerKind) where
  kind : ButtonKind
  supported : ModelSpec.supportsButton m kind = true
deriving DecidableEq

/-- `{:?}` of a kind. -/
def ButtonKind.debug : ButtonKind → String
  | .a => "A" | .b => "B" | .x => "X" | .y => "Y" | .l => "L" | .r => "R" | .zl => "ZL" | .zr => "ZR"
  | .plus => "Plus" | .minus => "Minus" | .home => "Home" | .capture => "Capture" | .leftStick => "LeftStick"
  | .rightStick => "RightStick" | .sl => "SL" | .sr => "SR" | .dpadUp => "DpadUp" | .dpadDown => "DpadDown"
  | .dpadLeft => "DpadLeft" | .dpadRight => "DpadRight"

/-- `{:?}` of a controller model. -/
def ControllerKind.debug : ControllerKind → String
  | .pro => "Pro" | .joyConL => "JoyConL" | .joyConR => "JoyConR"

/-- `Button::try_from`. -/
def Button.tryFrom (m : ControllerKind) (kind : ButtonKind) : Except Error (Button m) :=
  if supported : ModelSpec.supportsButton m kind = true then .ok ⟨kind, supported⟩
  else .error ⟨.unsupportedInput, s!"{kind.debug} is not supported by controller model {m.debug}"⟩

def buttonBit (kind : ButtonKind) : UInt32 := 1 <<< kind.code.toUInt32

structure ButtonSet (m : ControllerKind) where
  bits : UInt32
deriving DecidableEq

namespace ButtonSet

def new : ButtonSet m := ⟨0⟩

/-- `count_ones` of the bits. -/
def len (set : ButtonSet m) : Nat := (List.range 32).countP set.bits.toNat.testBit

def isEmpty (set : ButtonSet m) : Bool := set.bits == 0

def contains (set : ButtonSet m) (kind : ButtonKind) : Bool := set.bits &&& buttonBit kind != 0

/-- The set after `insert`. -/
def insert (set : ButtonSet m) (kind : ButtonKind) : ButtonSet m := ⟨set.bits ||| buttonBit kind⟩

/-- What `insert` returns: whether the button was absent. -/
def inserts (set : ButtonSet m) (kind : ButtonKind) : Bool := set.bits &&& buttonBit kind == 0

/-- The pressed buttons in code order, read off the model's table. -/
def iter (set : ButtonSet m) : List ButtonKind := m.spec.supportedButtons.filter set.contains

/-- `FromIterator`. -/
def collect (kinds : List ButtonKind) : ButtonSet m := kinds.foldl insert new

end ButtonSet

/-! ## Sticks, IMU frames and states -/

/-- A stick position, with 12-bit axes. -/
structure Stick where
  x : UInt16
  y : UInt16
  x_le : x ≤ 4095
  y_le : y ≤ 4095
deriving DecidableEq

def Stick.center : Stick := ⟨2048, 2048, by decide, by decide⟩

structure ImuFrame where
  accel : Axes
  gyro : Axes
deriving DecidableEq

def ImuFrame.neutral : ImuFrame := ⟨⟨0, 0, 0⟩, ⟨0, 0, 0⟩⟩

/-- The three report slots, oldest first. -/
structure ImuFrames where
  first : ImuFrame
  second : ImuFrame
  third : ImuFrame
deriving DecidableEq

def ImuFrames.toList (f : ImuFrames) : List ImuFrame := [f.first, f.second, f.third]

structure InputState (m : ControllerKind) where
  buttons : ButtonSet m
  leftStick : Stick
  rightStick : Stick
  imuFrames : ImuFrames
deriving DecidableEq

namespace InputState

def neutral : InputState m := ⟨.new, .center, .center, ⟨.neutral, .neutral, .neutral⟩⟩

def withButtons (state : InputState m) (kinds : List ButtonKind) : InputState m :=
  { state with buttons := .collect kinds }

end InputState

/-! ## Press, release and tap -/

/-- 24 hours. -/
def maxTapDuration : Duration := ⟨24 * 60 * 60 * 1000000000, by decide⟩

def validatedButtons (buttons : List (Button m)) : Except Error (ButtonSet m) :=
  let set : ButtonSet m := .collect (buttons.map Button.kind)
  if set.isEmpty then .error ⟨.invalidInput, "button operation requires at least one button"⟩ else .ok set

def validatedTapDuration (duration : Duration) : Except Error Duration :=
  if duration ≤ maxTapDuration then .ok duration
  else .error ⟨.invalidInput, s!"tap duration must not exceed 24 hours: {duration.debug}"⟩

def pressValidated (current : InputState m) (buttons : ButtonSet m) : InputState m :=
  let pressed : ButtonSet m := buttons.iter.foldl ButtonSet.insert (.collect current.buttons.iter)
  current.withButtons pressed.iter

def releaseValidated (current : InputState m) (buttons : ButtonSet m) : InputState m :=
  let retained : ButtonSet m := .collect (current.buttons.iter.filter fun kind => !buttons.contains kind)
  current.withButtons retained.iter

def pressCandidate (current : InputState m) (buttons : List (Button m)) : Except Error (InputState m) := do
  let buttons ← validatedButtons buttons
  return pressValidated current buttons

def releaseCandidate (current : InputState m) (buttons : List (Button m)) : Except Error (InputState m) := do
  let buttons ← validatedButtons buttons
  return releaseValidated current buttons

/-- What a tap does: the state to press, the state to release to, and how long
to hold. -/
structure TapPlan (m : ControllerKind) where
  pressed : InputState m
  released : InputState m
  duration : Duration

def tapPlan (current : InputState m) (buttons : List (Button m)) (duration : Duration) :
    Except Error (TapPlan m) := do
  let buttons ← validatedButtons buttons
  let duration ← validatedTapDuration duration
  let pressed := pressValidated current buttons
  return ⟨pressed, releaseValidated pressed buttons, duration⟩

end Swbt
