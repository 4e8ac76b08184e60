import Swbt.Protocol.Imu
/-!
# Reports on the wire

Input reports are encoded from a state, a timer and an IMU block; output
reports are parsed into rumble and subcommand requests.
-/

set_option autoImplicit false

namespace Swbt

variable {m : ControllerKind}

inductive ProtocolError
  | spiReadTooLarge (size maximum : Nat)
  | spiAddressOutOfRange (address size : Nat)
  | outputReportEmpty
  | unsupportedOutputReport (reportId : UInt8)
  | truncatedOutputReport (reportId : UInt8) (minimum actual : Nat)
  | subcommandReplyDataTooLarge (size maximum : Nat)
  | unsupportedTriggerElapsedButton (button : ButtonKind)
  | truncatedSpiReadRequest (minimum actual : Nat)
  | missingSubcommandArgument (subcommandId : UInt8)
  | unsupportedImuMode (requested : UInt8) (accepted : List UInt8)
  | invalidVibrationValue (requested : UInt8)
  | invalidNfcIrMcuState (requested : UInt8)
  | unsupportedSubcommand (subcommandId : UInt8)
deriving DecidableEq

/-! ## Input reports -/

structure PreparedInputReport where
  bytes : List UInt8
  nextTimer : UInt8

def packStick (stick : Stick) : List UInt8 :=
  let low : UInt8 := (stick.x >>> 8).toUInt8 &&& 0x0F
  let high : UInt8 := (stick.y.toUInt8 &&& 0x0F) <<< 4
  [stick.x.toUInt8, low ||| high, (stick.y >>> 4).toUInt8]

/-- `bytes[position.byte_index] |= position.mask` for one pressed button. -/
def setButton (m : ControllerKind) (bytes : List UInt8) (kind : ButtonKind) : List UInt8 :=
  match buttonWirePosition m kind with
  | some position => bytes.modify position.byteIndex (· ||| position.mask)
  -- The code panics here; `supported_wire_position` rules it out.
  | none => bytes

def encode0x30 (state : InputState m) (timer : UInt8) (imuBlock : List UInt8) : PreparedInputReport :=
  let bytes := ((zeros 49).set 0 0x30).set 1 timer
  let bytes := bytes.set 2 m.spec.protocol.batteryConnection
  let bytes := state.buttons.iter.foldl (setButton m) bytes
  let bytes := copyAt bytes 6 (packStick state.leftStick)
  let bytes := copyAt bytes 9 (packStick state.rightStick)
  let bytes := bytes.set 12 m.spec.protocol.vibratorInput
  ⟨copyAt bytes 13 imuBlock, timer + 1⟩

/-! ## Output reports -/

structure SubcommandRequest where
  id : UInt8
  payload : List UInt8
deriving DecidableEq

inductive OutputReport
  | subcommand (packetId : UInt8) (raw : List UInt8) (request : SubcommandRequest)
  | rumble (packetId : UInt8) (raw : List UInt8)
deriving DecidableEq

def OutputReport.reportId : OutputReport → UInt8
  | .subcommand .. => 0x01
  | .rumble .. => 0x10

def OutputReport.packetId : OutputReport → UInt8
  | .subcommand packetId _ _ | .rumble packetId _ => packetId

def OutputReport.rumbleBytes : OutputReport → List UInt8
  | .subcommand _ raw _ | .rumble _ raw => raw

def requireLength (raw : List UInt8) (reportId : UInt8) (minimum : Nat) : Except ProtocolError Unit :=
  if raw.length < minimum then .error (.truncatedOutputReport reportId minimum raw.length) else .ok ()

def copyRumble (raw : List UInt8) : List UInt8 := (raw.drop 2).take 8

def parseSubcommandReport (raw : List UInt8) : Except ProtocolError OutputReport := do
  requireLength raw 0x01 11
  return .subcommand (raw.getD 1 0) (copyRumble raw) ⟨raw.getD 10 0, raw.drop 11⟩

def parseRumbleReport (raw : List UInt8) : Except ProtocolError OutputReport := do
  requireLength raw 0x10 10
  return .rumble (raw.getD 1 0) (copyRumble raw)

def parseOutputReport (raw : List UInt8) : Except ProtocolError OutputReport :=
  match raw with
  | [] => .error .outputReportEmpty
  | reportId :: _ =>
    if reportId = 0x01 then parseSubcommandReport raw
    else if reportId = 0x10 then parseRumbleReport raw
    else .error (.unsupportedOutputReport reportId)

/-! ## Layout -/

@[simp] theorem length_copyAt (target : List UInt8) (offset : Nat) (src : List UInt8) :
    (copyAt target offset src).length = target.length := by
  induction src generalizing target offset with
  | nil => rfl
  | cons byte rest ih => rw [copyAt, ih, List.length_set]

/-- Copying leaves the bytes before the offset alone. -/
theorem getElem?_copyAt_lt (target : List UInt8) (offset : Nat) (src : List UInt8) {i : Nat} (h : i < offset) :
    (copyAt target offset src)[i]? = target[i]? := by
  induction src generalizing target offset with
  | nil => rfl
  | cons byte rest ih => rw [copyAt, ih _ _ (by omega), List.getElem?_set_ne (by omega)]

/-- Copying leaves the bytes after the source alone. -/
theorem getElem?_copyAt_ge (target : List UInt8) (offset : Nat) (src : List UInt8) {i : Nat}
    (h : offset + src.length ≤ i) : (copyAt target offset src)[i]? = target[i]? := by
  induction src generalizing target offset with
  | nil => rfl
  | cons byte rest ih =>
    simp only [List.length_cons] at h
    rw [copyAt, ih _ _ (by omega), List.getElem?_set_ne (by omega)]

/-- Copied bytes read back. -/
theorem drop_take_copyAt (target : List UInt8) (offset : Nat) (src : List UInt8)
    (h : offset + src.length ≤ target.length) : ((copyAt target offset src).drop offset).take src.length = src := by
  induction src generalizing target offset with
  | nil => simp
  | cons byte rest ih =>
    simp only [List.length_cons] at h ⊢
    have hlt : offset < (copyAt (target.set offset byte) (offset + 1) rest).length := by simp; omega
    have hget : (copyAt (target.set offset byte) (offset + 1) rest)[offset]? = some byte := by
      rw [getElem?_copyAt_lt _ _ _ (by omega), List.getElem?_set_self (by omega)]
    have hhead : (copyAt (target.set offset byte) (offset + 1) rest)[offset] = byte := by
      rw [List.getElem?_eq_getElem hlt] at hget
      exact Option.some.inj hget
    have htail := ih (target.set offset byte) (offset + 1) (by simp; omega)
    rw [copyAt, List.drop_eq_getElem_cons hlt, List.take_succ_cons, hhead, htail]

@[simp] theorem length_putBits (target : List UInt8) (start width : Nat) (value : UInt64) :
    (putBits target start width value).length = target.length := by
  unfold putBits
  induction List.range width generalizing target with
  | nil => rfl
  | cons bit rest ih =>
    rw [List.foldl_cons, ih]
    split <;> simp

/-- An IMU block fills the 36 bytes an input report leaves for it. -/
theorem length_encodeImuBlock (current : ImuEncodingState) (mode : ImuMode) (frames : ImuFrames)
    (calibration : SensorCalibration) (nowNs : UInt64) :
    (encodeImuBlock current mode frames calibration nowNs).block.length = 36 := by
  cases mode with
  | disabled => rfl
  | standard => rfl
  | quaternion1 | quaternion2 | quaternion3 | quaternion4 =>
    simp [encodeImuBlock, encodeQuaternionImu, packMode2, packFields, accelBlock, zeros]

@[simp] theorem length_setButtons (kinds : List ButtonKind) (bytes : List UInt8) :
    (kinds.foldl (setButton m) bytes).length = bytes.length := by
  induction kinds generalizing bytes with
  | nil => rfl
  | cons kind rest ih =>
    rw [List.foldl_cons, ih]
    unfold setButton
    split <;> simp

/-- Every wire position lies in the three button bytes. -/
theorem wire_position_range {kind : ButtonKind} {position : ButtonWirePosition}
    (h : buttonWirePosition m kind = some position) : 3 ≤ position.byteIndex ∧ position.byteIndex < 6 := by
  obtain ⟨entry, hmem, hentry⟩ := List.exists_of_findSome?_eq_some h
  have hall : ∀ m : ControllerKind, ∀ entry ∈ m.spec.buttonWireMapping,
      3 ≤ entry.2.byteIndex ∧ entry.2.byteIndex < 6 := by
    intro m
    cases m <;> decide
  split at hentry
  · cases hentry
    exact hall m entry hmem
  · cases hentry

/-- Pressed buttons touch only the three button bytes. -/
theorem getElem?_setButtons (kinds : List ButtonKind) (bytes : List UInt8) {i : Nat} (h : i < 3 ∨ 6 ≤ i) :
    (kinds.foldl (setButton m) bytes)[i]? = bytes[i]? := by
  induction kinds generalizing bytes with
  | nil => rfl
  | cons kind rest ih =>
    rw [List.foldl_cons, ih]
    unfold setButton
    split
    · rename_i position hp
      have hrange := wire_position_range hp
      rw [List.getElem?_modify_ne _ _ (by omega)]
    · rfl

theorem length_encode0x30 (state : InputState m) (timer : UInt8) (block : List UInt8) :
    (encode0x30 state timer block).bytes.length = 49 := by
  simp [encode0x30, zeros]

/-- Byte 1 of an input report is its timer. -/
theorem timer_encode0x30 (state : InputState m) (timer : UInt8) (block : List UInt8) :
    (encode0x30 state timer block).bytes[1]? = some timer := by
  unfold encode0x30
  dsimp only
  rw [getElem?_copyAt_lt _ _ _ (by omega), List.getElem?_set_ne (by omega), getElem?_copyAt_lt _ _ _ (by omega),
    getElem?_copyAt_lt _ _ _ (by omega), getElem?_setButtons _ _ (.inl (by omega))]
  rfl

theorem id_encode0x30 (state : InputState m) (timer : UInt8) (block : List UInt8) :
    (encode0x30 state timer block).bytes[0]? = some 0x30 := by
  unfold encode0x30
  dsimp only
  rw [getElem?_copyAt_lt _ _ _ (by omega), List.getElem?_set_ne (by omega), getElem?_copyAt_lt _ _ _ (by omega),
    getElem?_copyAt_lt _ _ _ (by omega), getElem?_setButtons _ _ (.inl (by omega))]
  rfl

theorem head_encode0x30 (state : InputState m) (timer : UInt8) (block : List UInt8) :
    (encode0x30 state timer block).bytes.head? = some 0x30 := by
  rw [List.head?_eq_getElem?]
  exact id_encode0x30 state timer block

/-- Bytes 3 to 11 of a report: the buttons and both sticks. -/
def controlBytes (payload : List UInt8) : List UInt8 := (payload.drop 3).take 9

/-- The buttons and sticks of a state, as they stand in a report. -/
def encodeControls (state : InputState m) : List UInt8 := controlBytes (encode0x30 state 0 []).bytes

/-- No button and both sticks at their centre. -/
def neutralControls : List UInt8 := [0, 0, 0, 0x00, 0x08, 0x80, 0x00, 0x08, 0x80]

theorem encodeControls_neutral : encodeControls (InputState.neutral : InputState m) = neutralControls := by
  cases m <;> decide +kernel

theorem getElem?_controlBytes (payload : List UInt8) (i : Nat) :
    (controlBytes payload)[i]? = if i < 9 then payload[3 + i]? else none := by
  unfold controlBytes
  rw [List.getElem?_take, List.getElem?_drop]

/-- Pressing buttons reads no byte but the one it sets. -/
theorem getElem?_setButtons_congr (kinds : List ButtonKind) {bytes bytes' : List UInt8} {i : Nat}
    (h : bytes[i]? = bytes'[i]?) : (kinds.foldl (setButton m) bytes)[i]? = (kinds.foldl (setButton m) bytes')[i]? := by
  induction kinds generalizing bytes bytes' with
  | nil => exact h
  | cons kind rest ih =>
    rw [List.foldl_cons, List.foldl_cons]
    apply ih
    unfold setButton
    split
    · rw [List.getElem?_modify, List.getElem?_modify, h]
    · exact h

theorem getElem?_copyAt_congr {target target' : List UInt8} (offset : Nat) (src : List UInt8) {i : Nat}
    (hlength : target.length = target'.length) (h : target[i]? = target'[i]?) :
    (copyAt target offset src)[i]? = (copyAt target' offset src)[i]? := by
  induction src generalizing target target' offset with
  | nil => exact h
  | cons byte rest ih =>
    rw [copyAt, copyAt]
    apply ih
    · rw [List.length_set, List.length_set, hlength]
    · rw [List.getElem?_set, List.getElem?_set, hlength, h]

/-- Neither the timer nor the IMU block shows in the controls of an input report. -/
theorem controls_encode0x30 (state : InputState m) (timer : UInt8) (block : List UInt8) :
    controlBytes (encode0x30 state timer block).bytes = encodeControls state := by
  apply List.ext_getElem?
  intro i
  unfold encodeControls
  rw [getElem?_controlBytes, getElem?_controlBytes]
  split
  · rename_i hi
    unfold encode0x30
    dsimp only
    rw [getElem?_copyAt_lt _ _ _ (by omega), getElem?_copyAt_lt _ _ _ (by omega),
      List.getElem?_set_ne (by omega), List.getElem?_set_ne (by omega)]
    apply getElem?_copyAt_congr
    · simp [zeros]
    · apply getElem?_copyAt_congr
      · simp [zeros]
      · apply getElem?_setButtons_congr
        -- Only byte 1 differs so far.
        simp (disch := omega) only [List.getElem?_set_ne]
  · rfl

/-- The last 36 bytes of an input report are its IMU block. -/
theorem imu_encode0x30 (state : InputState m) (timer : UInt8) (block : List UInt8) (h : block.length = 36) :
    (encode0x30 state timer block).bytes.drop 13 = block := by
  have hlen := length_encode0x30 state timer block
  have hback : ((encode0x30 state timer block).bytes.drop 13).take block.length = block := by
    unfold encode0x30
    dsimp only
    exact drop_take_copyAt _ _ _ (by simp [zeros]; omega)
  rwa [List.take_of_length_le (by simp [hlen, h])] at hback

end Swbt
