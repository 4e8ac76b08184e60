import Swbt.Core.Buttons
import Swbt.Protocol.ImuPacking
/-!
# Reading input reports back

Every part of an input report has bytes or bits of its own, so the report
tells its timer, the pressed buttons, both stick positions and the IMU block.
-/

set_option autoImplicit false

open Bits

namespace Swbt

variable {m : ControllerKind}

/-! ## Buttons -/

/-- The bit of a report that a button sets. -/
def wireBit (m : ControllerKind) (kind : ButtonKind) : Option Nat :=
  (buttonWirePosition m kind).map fun position => 8 * position.byteIndex + position.mask.toNat.log2

def allButtons : List ButtonKind :=
  [.a, .b, .x, .y, .l, .r, .zl, .zr, .plus, .minus, .home, .capture, .leftStick, .rightStick, .sl, .sr, .dpadUp,
    .dpadDown, .dpadLeft, .dpadRight]

theorem mem_allButtons (kind : ButtonKind) : kind ∈ allButtons := by
  cases kind <;> decide

/-- The mask of a button is one bit, in one of the bytes 3 to 5. -/
theorem wireBit_position {kind : ButtonKind} {position : ButtonWirePosition}
    (hposition : buttonWirePosition m kind = some position) :
    wireBit m kind = some (8 * position.byteIndex + position.mask.toNat.log2) ∧
      position.mask = 1 <<< UInt8.ofNat position.mask.toNat.log2 ∧ position.mask.toNat.log2 < 8 := by
  have htable : ∀ m : ControllerKind, ∀ kind ∈ allButtons, ∀ position ∈ buttonWirePosition m kind,
      position.mask = 1 <<< UInt8.ofNat position.mask.toNat.log2 ∧ position.mask.toNat.log2 < 8 := by
    intro m
    cases m <;> decide
  refine ⟨?_, htable m kind (mem_allButtons kind) position hposition⟩
  rw [wireBit, hposition]
  rfl

theorem wireBit_supported {kind : ButtonKind} (hsupported : kind ∈ m.spec.supportedButtons) :
    ∃ i, wireBit m kind = some i ∧ 24 ≤ i ∧ i < 48 := by
  obtain ⟨position, hposition⟩ := supported_wire_position m hsupported
  obtain ⟨hbit, -, hlog⟩ := wireBit_position hposition
  have hrange := wire_position_range hposition
  exact ⟨_, hbit, by omega, by omega⟩

/-- No two buttons of a model share a bit. -/
theorem wireBit_injective {kind other : ButtonKind} (hkind : kind ∈ m.spec.supportedButtons)
    (hother : other ∈ m.spec.supportedButtons) (hsame : wireBit m kind = wireBit m other) : kind = other := by
  have htable : ∀ m : ControllerKind, ∀ kind ∈ m.spec.supportedButtons, ∀ other ∈ m.spec.supportedButtons,
      wireBit m kind = wireBit m other → kind = other := by
    intro m
    cases m <;> decide +kernel
  exact htable m kind hkind other hother hsame

theorem bitAt_setButton {bytes : List UInt8} (hlength : 6 ≤ bytes.length) (kind : ButtonKind) (i : Nat) :
    bitAt (setButton m bytes kind) i = (bitAt bytes i || decide (wireBit m kind = some i)) := by
  unfold setButton
  cases hposition : buttonWirePosition m kind with
  | none =>
    have hnone : wireBit m kind = none := by
      rw [wireBit, hposition]
      rfl
    simp [hnone]
  | some position =>
    obtain ⟨hbit, hmask, hlog⟩ := wireBit_position hposition
    have hrange := wire_position_range hposition
    have hset := @bitAt_set bytes (8 * position.byteIndex + position.mask.toNat.log2) (by omega) i
    rw [show (8 * position.byteIndex + position.mask.toNat.log2) / 8 = position.byteIndex by omega,
      show (8 * position.byteIndex + position.mask.toNat.log2) % 8 = position.mask.toNat.log2 by omega, ← hmask] at hset
    rw [hbit]
    dsimp only
    rw [hset]
    simp [eq_comm]

theorem bitAt_setButtons {bytes : List UInt8} (hlength : 6 ≤ bytes.length) (kinds : List ButtonKind) (i : Nat) :
    bitAt (kinds.foldl (setButton m) bytes) i = (bitAt bytes i || kinds.any fun kind => wireBit m kind = some i) := by
  induction kinds generalizing bytes with
  | nil => simp
  | cons kind rest ih =>
    have hkept : (setButton m bytes kind).length = bytes.length := length_setButtons [kind] bytes
    rw [List.foldl_cons, ih (by omega), bitAt_setButton hlength, List.any_cons, Bool.or_assoc]

/-! ## The parts of a report -/

theorem getElem?_copyAt_add {target : List UInt8} {offset : Nat} {src : List UInt8}
    (hfits : offset + src.length ≤ target.length) {i : Nat} (hi : i < src.length) :
    (copyAt target offset src)[offset + i]? = src[i]? := by
  have hread := congrArg (·[i]?) (drop_take_copyAt target offset src hfits)
  simpa [List.getElem?_take, hi] using hread

section Parts

variable (state : InputState m) (timer : UInt8) (block : List UInt8)

/-- The report before its sticks and its IMU block. -/
def pressedBytes : List UInt8 :=
  state.buttons.iter.foldl (setButton m) ((((zeros 49).set 0 0x30).set 1 timer).set 2 m.spec.protocol.batteryConnection)

@[simp] theorem length_pressedBytes : (pressedBytes state timer).length = 49 := by
  simp [pressedBytes, zeros]

/-- Bytes 0 to 5 are the header and the buttons. -/
theorem getElem?_encode0x30_low {i : Nat} (hi : i < 6) :
    (encode0x30 state timer block).bytes[i]? = (pressedBytes state timer)[i]? := by
  unfold encode0x30
  dsimp only
  rw [getElem?_copyAt_lt _ _ _ (by omega), List.getElem?_set_ne (by omega), getElem?_copyAt_lt _ _ _ (by omega),
    getElem?_copyAt_lt _ _ _ (by omega)]
  rfl

theorem getElem?_encode0x30_left {i : Nat} (hi : i < 3) :
    (encode0x30 state timer block).bytes[6 + i]? = (packStick state.leftStick)[i]? := by
  have hlength : (packStick state.leftStick).length = 3 := rfl
  have hpressed := length_pressedBytes state timer
  unfold encode0x30
  dsimp only
  rw [getElem?_copyAt_lt _ _ _ (by omega), List.getElem?_set_ne (by omega), getElem?_copyAt_lt _ _ _ (by omega)]
  exact @getElem?_copyAt_add (pressedBytes state timer) _ _ (by omega) _ (by omega)

theorem getElem?_encode0x30_right {i : Nat} (hi : i < 3) :
    (encode0x30 state timer block).bytes[9 + i]? = (packStick state.rightStick)[i]? := by
  have hlength : (packStick state.rightStick).length = 3 := rfl
  have hpressed := length_pressedBytes state timer
  unfold encode0x30
  dsimp only
  rw [getElem?_copyAt_lt _ _ _ (by omega), List.getElem?_set_ne (by omega)]
  refine getElem?_copyAt_add ?_ (by omega)
  rw [length_copyAt]
  change 9 + 3 ≤ (pressedBytes state timer).length
  omega

theorem getElem?_encode0x30_vibrator :
    (encode0x30 state timer block).bytes[12]? = some m.spec.protocol.vibratorInput := by
  unfold encode0x30
  dsimp only
  rw [getElem?_copyAt_lt _ _ _ (by omega), List.getElem?_set_self]
  rw [length_copyAt, length_copyAt]
  change 12 < (pressedBytes state timer).length
  simp

/-- Bytes 0 and 2 are the report id and the model's battery byte. -/
theorem getElem?_encode0x30_fixed : (encode0x30 state timer block).bytes[0]? = some 0x30 ∧
    (encode0x30 state timer block).bytes[2]? = some m.spec.protocol.batteryConnection := by
  refine ⟨id_encode0x30 state timer block, ?_⟩
  rw [getElem?_encode0x30_low state timer block (by omega), pressedBytes, getElem?_setButtons _ _ (.inl (by omega))]
  rfl

/-- A bit of bytes 3 to 5 is set when a pressed button has it. -/
theorem bitAt_encode0x30 {i : Nat} (hlow : 24 ≤ i) (hhigh : i < 48) :
    bitAt (encode0x30 state timer block).bytes i = state.buttons.iter.any fun kind => wireBit m kind = some i := by
  rw [bitAt_of_getElem? (getElem?_encode0x30_low state timer block (by omega)), pressedBytes,
    bitAt_setButtons (by simp [zeros])]
  have hclear : bitAt ((((zeros 49).set 0 0x30).set 1 timer).set 2 m.spec.protocol.batteryConnection) i = false := by
    have hbyte : ((((zeros 49).set 0 0x30).set 1 timer).set 2 m.spec.protocol.batteryConnection)[i / 8]? = some 0 := by
      rw [List.getElem?_set_ne (by omega), List.getElem?_set_ne (by omega), List.getElem?_set_ne (by omega), zeros,
        List.getElem?_replicate, if_pos (by omega)]
    rw [bitAt, List.getD_eq_getElem?_getD, hbyte]
    exact Nat.zero_testBit _
  rw [hclear, Bool.false_or]

end Parts

/-! ## Sticks -/

/-- Both axes of a stick, twelve bits each from bit `start` on. -/
def stickAt (report : List UInt8) (start : Nat) : Nat × Nat := (field report start 12, field report (start + 12) 12)

/-- The middle byte holds the high bits of one axis below the low bits of the other. -/
theorem toNat_middle (x y : UInt16) :
    ((((x >>> 8).toUInt8 &&& 0x0F) : UInt8) ||| (((y.toUInt8 &&& 0x0F) : UInt8) <<< 4)).toNat =
      16 * (y.toNat % 16) + x.toNat / 256 % 16 := by
  have hlow : (((x >>> 8).toUInt8 &&& 0x0F) : UInt8).toNat = x.toNat / 256 % 16 := by
    rw [UInt8.toNat_and, UInt16.toNat_toUInt8, UInt16.toNat_shiftRight, Nat.shiftRight_eq_div_pow]
    change x.toNat / 2 ^ 8 % 2 ^ 8 &&& 2 ^ 4 - 1 = _
    rw [Nat.and_two_pow_sub_one_eq_mod]
    omega
  have hhigh : ((((y.toUInt8 &&& 0x0F) : UInt8) <<< 4) : UInt8).toNat = 2 ^ 4 * (y.toNat % 16) := by
    rw [UInt8.toNat_shiftLeft, UInt8.toNat_and, UInt16.toNat_toUInt8, Nat.shiftLeft_eq]
    change (y.toNat % 2 ^ 8 &&& 2 ^ 4 - 1) * 2 ^ 4 % 2 ^ 8 = _
    rw [Nat.and_two_pow_sub_one_eq_mod]
    omega
  rw [UInt8.toNat_or, hlow, hhigh, Nat.or_comm, ← Nat.two_pow_add_eq_or_of_lt (by omega)]

/-- The two axes are packed low bits first, the first axis first. -/
theorem stickAt_packStick {report : List UInt8} {offset : Nat} {stick : Stick}
    (hbytes : ∀ i < 3, report[offset + i]? = (packStick stick)[i]?) :
    stickAt report (8 * offset) = (stick.x.toNat, stick.y.toNat) := by
  have hx := (UInt16.le_iff_toNat_le).1 stick.x_le
  have hy := (UInt16.le_iff_toNat_le).1 stick.y_le
  have hmax : (4095 : UInt16).toNat = 4095 := rfl
  rw [hmax] at hx hy
  have hbyte : ∀ i < 3, report.getD (offset + i) 0 = (packStick stick).getD i 0 := by
    intro i hi
    rw [List.getD_eq_getElem?_getD, List.getD_eq_getElem?_getD, hbytes i hi]
  have h0 : (report.getD (offset + 0) 0).toNat = stick.x.toNat % 256 := by
    rw [hbyte 0 (by omega)]
    exact UInt16.toNat_toUInt8 stick.x
  have h1 : (report.getD (offset + 1) 0).toNat = 16 * (stick.y.toNat % 16) + stick.x.toNat / 256 % 16 := by
    rw [hbyte 1 (by omega)]
    exact toNat_middle stick.x stick.y
  have h2 : (report.getD (offset + 2) 0).toNat = stick.y.toNat / 16 % 256 := by
    rw [hbyte 2 (by omega)]
    change (stick.y >>> 4).toUInt8.toNat = _
    rw [UInt16.toNat_toUInt8, UInt16.toNat_shiftRight, Nat.shiftRight_eq_div_pow]
    rfl
  have hfirst : field report (8 * offset) 12 = stick.x.toNat := by
    rw [field_add report (8 * offset) 8 4, ← Nat.add_zero (8 * offset), field_byte _ _ (by omega), Nat.add_zero,
      show 8 * offset + 8 = 8 * (offset + 1) + 0 by omega, field_byte _ _ (by omega), h1, ← Nat.add_zero offset, h0]
    omega
  have hsecond : field report (8 * offset + 12) 12 = stick.y.toNat := by
    rw [field_add report (8 * offset + 12) 4 8, show 8 * offset + 12 = 8 * (offset + 1) + 4 by omega,
      field_byte _ _ (by omega), show 8 * (offset + 1) + 4 + 4 = 8 * (offset + 2) + 0 by omega,
      field_byte _ _ (by omega), h1, h2]
    omega
  rw [stickAt, hfirst, hsecond]

/-! ## Decoding -/

/-- What an input report tells. -/
structure DecodedReport where
  timer : UInt8
  buttons : List ButtonKind
  leftStick : Nat × Nat
  rightStick : Nat × Nat
  imuBlock : List UInt8
deriving DecidableEq

/-- A reader of the reports of model `m`. -/
def decode0x30 (m : ControllerKind) (report : List UInt8) : DecodedReport where
  timer := report.getD 1 0
  buttons := m.spec.supportedButtons.filter fun kind => (wireBit m kind).any (bitAt report)
  leftStick := stickAt report 48
  rightStick := stickAt report 72
  imuBlock := report.drop 13

def decodeStandardImu (block : List UInt8) : ImuFrames where
  first := ⟨axesAt block 0, axesAt block 6⟩
  second := ⟨axesAt block 12, axesAt block 18⟩
  third := ⟨axesAt block 24, axesAt block 30⟩

theorem decode_encodeStandardImu (frames : ImuFrames) : decodeStandardImu (encodeStandardImu frames) = frames := by
  have hread : ∀ offset axes, (∀ k, k < 6 → (encodeStandardImu frames).getD (offset + k) 0 = axes.leBytes.getD k 0) →
      axesAt (encodeStandardImu frames) offset = axes := fun _ _ hbytes => axesAt_eq hbytes
  unfold decodeStandardImu
  rw [hread 0 frames.first.accel, hread 6 frames.first.gyro, hread 12 frames.second.accel, hread 18 frames.second.gyro,
    hread 24 frames.third.accel, hread 30 frames.third.gyro]
  all_goals
    intro k hk
    interval_cases k <;> rfl

/-- A report decodes to what it was encoded from. -/
theorem decode_encode0x30 (state : InputState m) (timer : UInt8) {block : List UInt8} (hblock : block.length = 36) :
    decode0x30 m (encode0x30 state timer block).bytes =
      ⟨timer, state.buttons.iter, (state.leftStick.x.toNat, state.leftStick.y.toNat),
        (state.rightStick.x.toNat, state.rightStick.y.toNat), block⟩ := by
  have htimer : (encode0x30 state timer block).bytes.getD 1 0 = timer := by
    rw [List.getD_eq_getElem?_getD, timer_encode0x30]
    rfl
  have hbuttons : (m.spec.supportedButtons.filter fun kind =>
      (wireBit m kind).any (bitAt (encode0x30 state timer block).bytes)) = state.buttons.iter := by
    refine List.filter_congr ?_
    intro kind hkind
    obtain ⟨i, hbit, hlow, hhigh⟩ := wireBit_supported hkind
    rw [hbit, Option.any_some, bitAt_encode0x30 state timer block hlow hhigh, Bool.eq_iff_iff, List.any_eq_true]
    constructor
    · rintro ⟨other, hmem, hother⟩
      obtain ⟨hsupported, hpressed⟩ := (state.buttons.mem_iter other).1 hmem
      rw [wireBit_injective hkind hsupported (hbit.trans (of_decide_eq_true hother).symm)]
      exact hpressed
    · intro hpressed
      exact ⟨kind, (state.buttons.mem_iter kind).2 ⟨hkind, hpressed⟩, decide_eq_true hbit⟩
  have hleft := @stickAt_packStick _ 6 _ (fun i hi => getElem?_encode0x30_left state timer block hi)
  have hright := @stickAt_packStick _ 9 _ (fun i hi => getElem?_encode0x30_right state timer block hi)
  unfold decode0x30
  rw [htimer, hbuttons, hleft, hright, imu_encode0x30 state timer block hblock]

theorem Stick.ext_toNat {stick other : Stick} (hx : stick.x.toNat = other.x.toNat) (hy : stick.y.toNat = other.y.toNat) :
    stick = other := by
  obtain ⟨x, y, x_le, y_le⟩ := stick
  obtain ⟨x', y', x_le', y_le'⟩ := other
  cases UInt16.toNat_inj.1 hx
  cases UInt16.toNat_inj.1 hy
  rfl

/-- Input reports decode, so reports of different timers, buttons, sticks or
blocks differ; every button has a bit of its own in bytes 3 to 5, where nothing
else is written; and bytes 0, 2 and 12 are those of the model. -/
theorem input_reports_decode (m : ControllerKind) :
    (∀ (state : InputState m) (timer : UInt8) (block : List UInt8), block.length = 36 →
      decode0x30 m (encode0x30 state timer block).bytes =
        ⟨timer, state.buttons.iter, (state.leftStick.x.toNat, state.leftStick.y.toNat),
          (state.rightStick.x.toNat, state.rightStick.y.toNat), block⟩) ∧
    (∀ (state state' : InputState m) (timer timer' : UInt8) (block block' : List UInt8), block.length = 36 →
      block'.length = 36 → (encode0x30 state timer block).bytes = (encode0x30 state' timer' block').bytes →
        timer = timer' ∧ state.buttons.iter = state'.buttons.iter ∧ state.leftStick = state'.leftStick ∧
          state.rightStick = state'.rightStick ∧ block = block') ∧
    (∀ (current : ImuEncodingState) (state : InputState m) (calibration : SensorCalibration) (nowNs : UInt64),
      decodeStandardImu (encodeImuBlock current .standard state.imuFrames calibration nowNs).block = state.imuFrames) ∧
    (∀ kind ∈ m.spec.supportedButtons, ∃ i, wireBit m kind = some i ∧ 24 ≤ i ∧ i < 48 ∧
      ∀ other ∈ m.spec.supportedButtons, wireBit m other = some i → other = kind) ∧
    (∀ (state : InputState m) (timer : UInt8) (block : List UInt8) (i : Nat), 24 ≤ i → i < 48 →
      (bitAt (encode0x30 state timer block).bytes i = true ↔ ∃ kind ∈ state.buttons.iter, wireBit m kind = some i)) ∧
    ∀ (state : InputState m) (timer : UInt8) (block : List UInt8),
      (encode0x30 state timer block).bytes[0]? = some 0x30 ∧
      (encode0x30 state timer block).bytes[2]? = some m.spec.protocol.batteryConnection ∧
      (encode0x30 state timer block).bytes[12]? = some m.spec.protocol.vibratorInput := by
  refine ⟨fun state timer block hblock => decode_encode0x30 state timer hblock, ?_, ?_, ?_, ?_, ?_⟩
  · intro state state' timer timer' block block' hblock hblock' hbytes
    have hdecoded := congrArg (decode0x30 m) hbytes
    rw [decode_encode0x30 state timer hblock, decode_encode0x30 state' timer' hblock'] at hdecoded
    simp only [DecodedReport.mk.injEq, Prod.mk.injEq] at hdecoded
    obtain ⟨htimer, hbuttons, hleft, hright, hsame⟩ := hdecoded
    exact ⟨htimer, hbuttons, Stick.ext_toNat hleft.1 hleft.2, Stick.ext_toNat hright.1 hright.2, hsame⟩
  · exact fun current state calibration nowNs => decode_encodeStandardImu state.imuFrames
  · intro kind hkind
    obtain ⟨i, hbit, hlow, hhigh⟩ := wireBit_supported hkind
    refine ⟨i, hbit, hlow, hhigh, ?_⟩
    exact fun other hother hsame => wireBit_injective hother hkind (hsame.trans hbit.symm)
  · intro state timer block i hlow hhigh
    rw [bitAt_encode0x30 state timer block hlow hhigh]
    simp
  · intro state timer block
    obtain ⟨hid, hbattery⟩ := getElem?_encode0x30_fixed state timer block
    exact ⟨hid, hbattery, getElem?_encode0x30_vibrator state timer block⟩

/-- A report of button A held decodes. -/
theorem input_reports_decode_sample :
    decode0x30 .pro (encode0x30 (InputState.neutral.withButtons [.a] : InputState .pro) 7 (zeros 36)).bytes =
      ⟨7, [.a], (2048, 2048), (2048, 2048), zeros 36⟩ := by
  have hbuttons : (InputState.neutral.withButtons [.a] : InputState .pro).buttons.iter = [.a] := by decide +kernel
  have hdecoded := (input_reports_decode .pro).1 (InputState.neutral.withButtons [.a]) 7 (zeros 36) rfl
  rw [hbuttons] at hdecoded
  exact hdecoded

end Swbt
