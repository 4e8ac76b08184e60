import Swbt.Core.Input
/-!
# IMU blocks

The 36 IMU bytes of an input report. Quaternion modes integrate the gyroscope
into an orientation of four `f64`s. Lean's `Float` stands for `f64`, and
proofs leave it opaque; the bit layout of the block is exact.
-/

set_option autoImplicit false

namespace Swbt

inductive ImuMode
  | disabled | standard | quaternion1 | quaternion2 | quaternion3 | quaternion4
deriving DecidableEq

/-- `mode as u8`. -/
def ImuMode.code : ImuMode → UInt8
  | .disabled => 0x00
  | .standard => 0x01
  | .quaternion1 => 0x02
  | .quaternion2 => 0x03
  | .quaternion3 => 0x04
  | .quaternion4 => 0x05

def ImuMode.fromWire (value : UInt8) : Option ImuMode :=
  match value with
  | 0x00 => some .disabled
  | 0x01 => some .standard
  | 0x02 => some .quaternion1
  | 0x03 => some .quaternion2
  | 0x04 => some .quaternion3
  | 0x05 => some .quaternion4
  | _ => none

structure Quaternion where
  x : Float
  y : Float
  z : Float
  w : Float

def Quaternion.get (q : Quaternion) (i : Nat) : Float :=
  match i % 4 with
  | 0 => q.x
  | 1 => q.y
  | 2 => q.z
  | _ => q.w

def Quaternion.identity : Quaternion := ⟨0.0, 0.0, 0.0, 1.0⟩

structure ImuEncodingState where
  orientation : Quaternion
  previousReportNs : Option UInt64

def ImuEncodingState.default : ImuEncodingState := ⟨.identity, none⟩

/-! ## Orientation -/

def gyroDpsPerRaw : Float := 0.070

/-- `f64::to_radians`. -/
def toRadians (degrees : Float) : Float := degrees * (3.14159265358979323846264338327950288 / 180.0)

/-- One axis of `gyro_rates`, in radians per second. -/
def gyroRate (raw zero : Int16) : Float := toRadians (Float.ofInt (raw.toInt - zero.toInt) * gyroDpsPerRaw)

def hamiltonProduct (left right : Quaternion) : Quaternion where
  x := left.w * right.x + left.x * right.w + left.y * right.z - left.z * right.y
  y := left.w * right.y + left.y * right.w + left.z * right.x - left.x * right.z
  z := left.w * right.z + left.z * right.w + left.x * right.y - left.y * right.x
  w := left.w * right.w - left.x * right.x - left.y * right.y - left.z * right.z

def normalize (q : Quaternion) : Quaternion :=
  let inverse := 1.0 / (q.x * q.x + q.y * q.y + q.z * q.z + q.w * q.w).sqrt
  ⟨q.x * inverse, q.y * inverse, q.z * inverse, q.w * inverse⟩

/-- `next_orientation`, with the rates of one frame. -/
def nextOrientation (orientation : Quaternion) (frame : ImuFrame) (calibration : SensorCalibration)
    (elapsedSeconds : Float) : Quaternion :=
  let x := gyroRate frame.gyro.x calibration.zeroRaw.x * elapsedSeconds
  let y := gyroRate frame.gyro.y calibration.zeroRaw.y * elapsedSeconds
  let z := gyroRate frame.gyro.z calibration.zeroRaw.z * elapsedSeconds
  let magnitude := (x * x + y * y + z * z).sqrt
  if magnitude == 0.0 then orientation
  else
    let halfAngle := magnitude / 2.0
    let vectorScale := halfAngle.sin / magnitude
    normalize (hamiltonProduct orientation ⟨x * vectorScale, y * vectorScale, z * vectorScale, halfAngle.cos⟩)

/-! ## Packing -/

/-- `value.to_le_bytes()` of an `i16`. -/
def leBytes (value : Int16) : List UInt8 := [value.toUInt16.toUInt8, (value.toUInt16 >>> 8).toUInt8]

def Axes.leBytes (axes : Axes) : List UInt8 := Swbt.leBytes axes.x ++ Swbt.leBytes axes.y ++ Swbt.leBytes axes.z

/-- `target[offset..offset + src.len()].copy_from_slice(src)`. -/
def copyAt (target : List UInt8) (offset : Nat) : List UInt8 → List UInt8
  | [] => target
  | byte :: rest => copyAt (target.set offset byte) (offset + 1) rest

def zeros (n : Nat) : List UInt8 := List.replicate n 0

def encodeStandardImu (frames : ImuFrames) : List UInt8 :=
  frames.toList.flatMap fun frame => frame.accel.leBytes ++ frame.gyro.leBytes

/-- Sets bit `start + i` for each of the low `width` bits `i` of `value` that
is one. -/
def putBits (target : List UInt8) (start width : Nat) (value : UInt64) : List UInt8 :=
  (List.range width).foldl (fun target bit =>
    if value &&& (1 <<< UInt64.ofNat bit) != 0 then
      target.modify ((start + bit) / 8) (· ||| (1 <<< UInt8.ofNat ((start + bit) % 8)))
    else target) target

/-- The index of the component of largest magnitude, the first of equals. -/
def maxIndex (orientation : Quaternion) : Nat :=
  [1, 2, 3].foldl (fun best index =>
    if (orientation.get index).abs > (orientation.get best).abs then index else best) 0

/-- The scaled component `index` places after the largest. -/
def scaledComponent (orientation : Quaternion) (index : Nat) : Int64 :=
  let best := maxIndex orientation
  let sign : Float := if orientation.get best < 0.0 then -1.0 else 1.0
  (orientation.get (best + index + 1) * sign * 1073741824.0).toInt64 >>> 10

/-- The bit fields of a mode 2 block, over the accelerometer samples. -/
def packFields (block : List UInt8) (index : Nat) (c0 c1 c2 : Int64) (timestampMs : UInt64) : List UInt8 :=
  let block := putBits block 48 2 2
  let block := putBits block 50 2 (UInt64.ofNat index)
  let block := putBits block 52 21 c0.toUInt64
  let block := putBits block 73 21 c1.toUInt64
  let block := putBits block 94 2 c2.toUInt64
  let block := putBits block 144 19 (c2 >>> 2).toUInt64
  let block := putBits block 271 11 timestampMs
  putBits block 282 6 3

def accelBlock (frames : ImuFrames) : List UInt8 :=
  let block := copyAt (zeros 36) 0 frames.first.accel.leBytes
  let block := copyAt block 12 frames.second.accel.leBytes
  copyAt block 24 frames.third.accel.leBytes

def packMode2 (frames : ImuFrames) (orientation : Quaternion) (timestampMs : UInt64) : List UInt8 :=
  packFields (accelBlock frames) (maxIndex orientation) (scaledComponent orientation 0)
    (scaledComponent orientation 1) (scaledComponent orientation 2) timestampMs

/-! ## Encoding -/

structure ImuEncodingResult where
  block : List UInt8
  nextState : ImuEncodingState

def encodeQuaternionImu (current : ImuEncodingState) (frames : ImuFrames) (calibration : SensorCalibration)
    (nowNs : UInt64) : ImuEncodingResult :=
  let elapsedNs : UInt64 := match current.previousReportNs with
    | none => 0
    | some previous => if previous ≤ nowNs then nowNs - previous else 0
  let sampleSeconds := elapsedNs.toFloat / 1000000000.0 / 3.0
  let orientation := frames.toList.foldl
    (fun orientation frame => nextOrientation orientation frame calibration sampleSeconds) current.orientation
  ⟨packMode2 frames orientation (nowNs / 1000000), ⟨orientation, some nowNs⟩⟩

def encodeImuBlock (current : ImuEncodingState) (mode : ImuMode) (frames : ImuFrames)
    (calibration : SensorCalibration) (nowNs : UInt64) : ImuEncodingResult :=
  match mode with
  | .disabled => ⟨zeros 36, .default⟩
  | .standard => ⟨encodeStandardImu frames, .default⟩
  | .quaternion1 | .quaternion2 | .quaternion3 | .quaternion4 =>
    encodeQuaternionImu current frames calibration nowNs

end Swbt
