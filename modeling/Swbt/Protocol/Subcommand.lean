import Swbt.Protocol.Session
/-!
# Subcommand replies

Each subcommand is answered by a 50-byte 0x21 report, prepared without
touching the session: a stateful reply carries the session to commit once the
transport has accepted it.
-/

set_option autoImplicit false

namespace Swbt

variable {m : ControllerKind}

/-! ## Virtual SPI flash -/

def maxReadSize : Nat := 0x1D

def calibrationByte (calibration : SensorCalibration) (offset : Nat) : UInt8 :=
  let valueIndex := offset / 2
  let value := if valueIndex < 3 then calibration.zeroRaw.get valueIndex else calibration.referenceRaw.get valueIndex
  (leBytes value).getD (offset % 2) 0

/-- `VirtualSpiFlash::byte_at`, with the flash's colors. -/
def spiByteAt (m : ControllerKind) (colors : ControllerColors) (address : Nat) : UInt8 :=
  let protocol := m.spec.protocol
  if address = 0x6012 then protocol.deviceType
  else if address = 0x601B then 0x01
  else if 0x6020 ≤ address ∧ address ≤ 0x602B then calibrationByte protocol.accelerometerCalibration (address - 0x6020)
  else if 0x602C ≤ address ∧ address ≤ 0x6037 then calibrationByte protocol.gyroscopeCalibration (address - 0x602C)
  else if 0x6050 ≤ address ∧ address ≤ 0x605B then colors.toSpiBytes.getD (address - 0x6050) 0
  else 0xFF

/-- `VirtualSpiFlash::read`. `address` is a `u32`. -/
def spiRead (m : ControllerKind) (colors : ControllerColors) (address : UInt32) (size : Nat) :
    Except ProtocolError (List UInt8) :=
  if maxReadSize < size then .error (.spiReadTooLarge size maxReadSize)
  else if 2 ^ 32 ≤ address.toNat + size then .error (.spiAddressOutOfRange address.toNat size)
  else if 0x80000 < address.toNat + size then .error (.spiAddressOutOfRange address.toNat size)
  else .ok ((List.range size).map fun offset => spiByteAt m colors (address.toNat + offset))

/-! ## Replies -/

structure PreparedSubcommandReply where
  bytes : List UInt8
  nextTimer : UInt8

structure PreparedSessionReply where
  reply : PreparedSubcommandReply
  nextSession : ProtocolSession

def prepare0x21 (subcommandId ack : UInt8) (data : List UInt8) (state : InputState m) (timer : UInt8) :
    Except ProtocolError PreparedSubcommandReply :=
  if 35 < data.length then .error (.subcommandReplyDataTooLarge data.length 35)
  else
    let input := encode0x30 state timer (zeros 36)
    let bytes := copyAt (zeros 50) 0 (input.bytes.take 13)
    let bytes := ((bytes.set 0 0x21).set 13 ack).set 14 subcommandId
    .ok ⟨copyAt bytes 15 data, input.nextTimer⟩

def deviceInfoData (m : ControllerKind) (deviceInfoAddress : List UInt8) : List UInt8 :=
  [0x04, 0x00, m.spec.protocol.deviceType, 0x02] ++ deviceInfoAddress ++ m.spec.protocol.deviceInfoTail

def triggerElapsedOffset : ButtonKind → Option Nat
  | .l => some 0
  | .r => some 2
  | .zl => some 4
  | .zr => some 6
  | .sl => some 8
  | .sr => some 10
  | .home => some 12
  | _ => none

/-- 300 ticks, little-endian, for each pairing trigger button. -/
def triggerElapsedData (m : ControllerKind) : Except ProtocolError (List UInt8) :=
  m.spec.protocol.pairingTriggerButtons.foldlM (fun data button =>
    match triggerElapsedOffset button with
    | some offset => .ok (copyAt data offset [0x2C, 0x01])
    | none => .error (.unsupportedTriggerElapsedButton button)) (zeros 14)

def mcuConfigData : List UInt8 :=
  [0x01, 0x00, 0xFF, 0x00, 0x08, 0x00, 0x1B, 0x01] ++ zeros 25 ++ [0xC8]

def tryPrepareStatelessReply (request : SubcommandRequest) (state : InputState m) (timer : UInt8)
    (deviceInfoAddress : List UInt8) : Except ProtocolError (Option PreparedSubcommandReply) :=
  match request.id with
  | 0x02 => some <$> prepare0x21 request.id 0x82 (deviceInfoData m deviceInfoAddress) state timer
  | 0x04 => do return some (← prepare0x21 request.id 0x83 (← triggerElapsedData m) state timer)
  | 0x08 => some <$> prepare0x21 request.id 0x80 [] state timer
  | 0x21 => some <$> prepare0x21 request.id 0xA0 mcuConfigData state timer
  | 0x22 =>
    match request.payload.head? with
    | none => .error (.missingSubcommandArgument 0x22)
    | some requested =>
      if requested ≤ 0x02 then some <$> prepare0x21 request.id 0x80 [] state timer
      else .error (.invalidNfcIrMcuState requested)
  | _ => .ok none

def tryPrepareSpiReply (request : SubcommandRequest) (state : InputState m) (timer : UInt8)
    (colors : ControllerColors) : Except ProtocolError (Option PreparedSubcommandReply) :=
  if request.id ≠ 0x10 then .ok none
  else match request.payload with
    | a0 :: a1 :: a2 :: a3 :: size :: _ => do
      let address := a0.toUInt32 ||| a1.toUInt32 <<< 8 ||| a2.toUInt32 <<< 16 ||| a3.toUInt32 <<< 24
      let read ← spiRead m colors address size.toNat
      return some (← prepare0x21 request.id 0x90 ([a0, a1, a2, a3, size] ++ read) state timer)
    | payload => .error (.truncatedSpiReadRequest 5 payload.length)

/-- The session a stateful subcommand asks for. -/
def requestedSession (m : ControllerKind) (subcommandId requested : UInt8) (current : ProtocolSession) :
    Except ProtocolError ProtocolSession :=
  match subcommandId with
  | 0x03 => .ok (current.withReportMode requested)
  | 0x30 => .ok (current.withPlayerLights requested)
  | 0x40 =>
    let accepted := m.spec.protocol.acceptedImuModes
    match if accepted.contains requested then ImuMode.fromWire requested else none with
    | some mode => .ok (current.withImuMode mode)
    | none => .error (.unsupportedImuMode requested accepted)
  | _ =>
    match requested with
    | 0x00 => .ok (current.withVibrationEnabled false)
    | 0x01 => .ok (current.withVibrationEnabled true)
    | _ => .error (.invalidVibrationValue requested)

def tryPrepareStatefulReply (request : SubcommandRequest) (state : InputState m) (timer : UInt8)
    (current : ProtocolSession) : Except ProtocolError (Option PreparedSessionReply) :=
  if request.id = 0x03 ∨ request.id = 0x30 ∨ request.id = 0x40 ∨ request.id = 0x48 then
    match request.payload.head? with
    | none => .error (.missingSubcommandArgument request.id)
    | some requested => do
      let nextSession ← requestedSession m request.id requested current
      let reply ← prepare0x21 request.id 0x80 [] state timer
      return some ⟨reply, nextSession⟩
  else .ok none

/-! ## The protocol of one controller -/

structure SwitchHidProtocol where
  colors : ControllerColors
  deviceInfoAddress : List UInt8
  address_length : deviceInfoAddress.length = 6

structure InputPreparation where
  report : PreparedInputReport
  nextImuEncodingState : ImuEncodingState

inductive PreparedOutputAction
  | reply (reply : PreparedSubcommandReply)
  | sessionReply (reply : PreparedSessionReply)

def prepareInputReport (state : InputState m) (timer : UInt8) (session : ProtocolSession) (nowNs : UInt64) :
    InputPreparation :=
  let imu := encodeImuBlock session.imuEncodingState session.imuMode state.imuFrames
    m.spec.protocol.gyroscopeCalibration nowNs
  ⟨encode0x30 state timer imu.block, imu.nextState⟩

def SwitchHidProtocol.prepareSubcommand (protocol : SwitchHidProtocol) (request : SubcommandRequest)
    (state : InputState m) (timer : UInt8) (session : ProtocolSession) : Except ProtocolError PreparedOutputAction := do
  if let some reply ← tryPrepareStatelessReply request state timer protocol.deviceInfoAddress then
    return .reply reply
  if let some reply ← tryPrepareSpiReply request state timer protocol.colors then
    return .reply reply
  if let some reply ← tryPrepareStatefulReply request state timer session then
    return .sessionReply reply
  .error (.unsupportedSubcommand request.id)

/-! ## What a prepared action sends and commits -/

namespace PreparedOutputAction

def bytes : PreparedOutputAction → List UInt8
  | reply r => r.bytes
  | sessionReply r => r.reply.bytes

def nextTimer : PreparedOutputAction → UInt8
  | reply r => r.nextTimer
  | sessionReply r => r.reply.nextTimer

/-- The session after the action is accepted. -/
def nextSession (current : ProtocolSession) : PreparedOutputAction → ProtocolSession
  | reply _ => current
  | sessionReply r => r.nextSession

end PreparedOutputAction

/-- A reply starts with 0x21 and the timer, and moves the timer on by one. -/
theorem prepare0x21_spec {subcommandId ack : UInt8} {data : List UInt8} {state : InputState m} {timer : UInt8}
    {reply : PreparedSubcommandReply} (h : prepare0x21 subcommandId ack data state timer = .ok reply) :
    reply.bytes[0]? = some 0x21 ∧ reply.bytes[1]? = some timer ∧ reply.nextTimer = timer + 1 := by
  unfold prepare0x21 at h
  split at h
  · cases h
  · cases h
    have hlen : ((encode0x30 state timer (zeros 36)).bytes.take 13).length = 13 := by
      simp [length_encode0x30]
    have htake := drop_take_copyAt (zeros 50) 0 ((encode0x30 state timer (zeros 36)).bytes.take 13)
      (by rw [hlen]; decide)
    rw [List.drop_zero, hlen] at htake
    refine ⟨?_, ?_, rfl⟩
    · rw [getElem?_copyAt_lt _ _ _ (by omega), List.getElem?_set_ne (by omega), List.getElem?_set_ne (by omega),
        List.getElem?_set_self (by simp [zeros])]
    · have hprefix : (copyAt (zeros 50) 0 ((encode0x30 state timer (zeros 36)).bytes.take 13))[1]? = some timer := by
        have hget := congrArg (·[1]?) htake
        simp only [List.getElem?_take, show 1 < 13 by decide, if_true] at hget
        rw [hget, timer_encode0x30]
      rw [getElem?_copyAt_lt _ _ _ (by omega), List.getElem?_set_ne (by omega), List.getElem?_set_ne (by omega),
        List.getElem?_set_ne (by omega), hprefix]

/-- A reply carries the controls of its state. -/
theorem controls_prepare0x21 {subcommandId ack : UInt8} {data : List UInt8} {state : InputState m} {timer : UInt8}
    {reply : PreparedSubcommandReply} (h : prepare0x21 subcommandId ack data state timer = .ok reply) :
    controlBytes reply.bytes = encodeControls state := by
  unfold prepare0x21 at h
  split at h
  · cases h
  · cases h
    rw [← controls_encode0x30 state timer (zeros 36)]
    have hlen : ((encode0x30 state timer (zeros 36)).bytes.take 13).length = 13 := by
      simp [length_encode0x30]
    have htake := drop_take_copyAt (zeros 50) 0 ((encode0x30 state timer (zeros 36)).bytes.take 13)
      (by rw [hlen]; decide)
    rw [List.drop_zero, hlen] at htake
    apply List.ext_getElem?
    intro i
    rw [getElem?_controlBytes, getElem?_controlBytes]
    split
    · have hget := congrArg (·[3 + i]?) htake
      simp only [List.getElem?_take, show 3 + i < 13 by omega, if_true] at hget
      rw [getElem?_copyAt_lt _ _ _ (by omega), List.getElem?_set_ne (by omega), List.getElem?_set_ne (by omega),
        List.getElem?_set_ne (by omega), hget]
    · rfl

/-- What preparing a request yields: a reply that keeps the session, or, for
the four stateful subcommands, one that carries the requested session. -/
inductive Prepared (m : ControllerKind) (request : SubcommandRequest) (timer : UInt8) (session : ProtocolSession) :
    PreparedOutputAction → Prop
  | plain {r : PreparedSubcommandReply} (hid : request.id ≠ 0x03 ∧ request.id ≠ 0x30 ∧ request.id ≠ 0x40 ∧ request.id ≠ 0x48)
      (hbytes : r.bytes[0]? = some 0x21 ∧ r.bytes[1]? = some timer ∧ r.nextTimer = timer + 1) :
      Prepared m request timer session (.reply r)
  | stateful {r : PreparedSessionReply} {requested : UInt8}
      (hid : request.id = 0x03 ∨ request.id = 0x30 ∨ request.id = 0x40 ∨ request.id = 0x48)
      (harg : request.payload.head? = some requested)
      (hsession : requestedSession m request.id requested session = .ok r.nextSession)
      (hbytes : r.reply.bytes[0]? = some 0x21 ∧ r.reply.bytes[1]? = some timer ∧ r.reply.nextTimer = timer + 1) :
      Prepared m request timer session (.sessionReply r)

theorem Prepared.head {request : SubcommandRequest} {timer : UInt8} {session : ProtocolSession}
    {action : PreparedOutputAction} (h : Prepared m request timer session action) :
    action.bytes.head? = some 0x21 := by
  rw [List.head?_eq_getElem?]
  cases h with
  | plain hid hbytes => exact hbytes.1
  | stateful hid harg hsession hbytes => exact hbytes.1

/-- The value of a computation bound into one that succeeds. -/
theorem ok_of_bind {α β ε : Type} {x : Except ε α} {f : α → Except ε β} {b : β} (h : (x >>= f) = .ok b) :
    ∃ a, x = .ok a ∧ f a = .ok b := by
  cases x with
  | error e => cases h
  | ok a => exact ⟨a, rfl, h⟩

theorem ok_of_map {α β ε : Type} {x : Except ε α} {f : α → β} {b : β} (h : (f <$> x) = .ok b) :
    ∃ a, x = .ok a ∧ f a = b := by
  cases x with
  | error e => cases h
  | ok a => exact ⟨a, rfl, Except.ok.inj h⟩

theorem prepared_stateless {request : SubcommandRequest} {state : InputState m} {timer : UInt8}
    {address : List UInt8} {session : ProtocolSession} {reply : PreparedSubcommandReply}
    (h : tryPrepareStatelessReply request state timer address = .ok (some reply)) :
    Prepared m request timer session (.reply reply) := by
  have hmap : ∀ {ack : UInt8} {data : List UInt8},
      some <$> prepare0x21 request.id ack data state timer = .ok (some reply) →
        reply.bytes[0]? = some 0x21 ∧ reply.bytes[1]? = some timer ∧ reply.nextTimer = timer + 1 := by
    intro ack data hsome
    obtain ⟨r, hr, heq⟩ := ok_of_map hsome
    cases heq
    exact prepare0x21_spec hr
  unfold tryPrepareStatelessReply at h
  split at h
  · rename_i hid
    exact .plain (by simp [hid]) (hmap h)
  · rename_i hid
    obtain ⟨data, _, h⟩ := ok_of_bind h
    obtain ⟨r, hr, heq⟩ := ok_of_bind h
    cases heq
    exact .plain (by simp [hid]) (prepare0x21_spec hr)
  · rename_i hid
    exact .plain (by simp [hid]) (hmap h)
  · rename_i hid
    exact .plain (by simp [hid]) (hmap h)
  · rename_i hid
    split at h
    · cases h
    · split at h
      · exact .plain (by simp [hid]) (hmap h)
      · cases h
  · cases h

theorem prepared_spi {request : SubcommandRequest} {state : InputState m} {timer : UInt8}
    {colors : ControllerColors} {session : ProtocolSession} {reply : PreparedSubcommandReply}
    (h : tryPrepareSpiReply request state timer colors = .ok (some reply)) :
    Prepared m request timer session (.reply reply) := by
  unfold tryPrepareSpiReply at h
  split at h
  · cases h
  · rename_i hid
    split at h
    · obtain ⟨read, _, h⟩ := ok_of_bind h
      obtain ⟨r, hr, heq⟩ := ok_of_bind h
      cases heq
      refine .plain ?_ (prepare0x21_spec hr)
      simp only [ne_eq, not_not] at hid
      simp [hid]
    · cases h

theorem prepared_stateful {request : SubcommandRequest} {state : InputState m} {timer : UInt8}
    {session : ProtocolSession} {reply : PreparedSessionReply}
    (h : tryPrepareStatefulReply request state timer session = .ok (some reply)) :
    Prepared m request timer session (.sessionReply reply) := by
  unfold tryPrepareStatefulReply at h
  split at h
  · rename_i hid
    split at h
    · cases h
    · rename_i requested harg
      obtain ⟨nextSession, hsession, h⟩ := ok_of_bind h
      obtain ⟨r, hr, heq⟩ := ok_of_bind h
      cases heq
      exact .stateful hid harg hsession (prepare0x21_spec hr)
  · cases h

/-- Every reply that preparing a request yields is made by `prepare0x21` for its state. -/
theorem SwitchHidProtocol.controls_prepareSubcommand {protocol : SwitchHidProtocol} {request : SubcommandRequest}
    {state : InputState m} {timer : UInt8} {session : ProtocolSession} {action : PreparedOutputAction}
    (h : protocol.prepareSubcommand request state timer session = .ok action) :
    controlBytes action.bytes = encodeControls state := by
  have hmap : ∀ {ack : UInt8} {data : List UInt8} {reply : PreparedSubcommandReply},
      some <$> prepare0x21 request.id ack data state timer = .ok (some reply) →
        controlBytes reply.bytes = encodeControls state := by
    intro ack data reply hsome
    obtain ⟨r, hr, heq⟩ := ok_of_map hsome
    cases heq
    exact controls_prepare0x21 hr
  unfold prepareSubcommand at h
  obtain ⟨stateless, hstateless, h⟩ := ok_of_bind h
  split at h
  · cases h
    unfold tryPrepareStatelessReply at hstateless
    split at hstateless
    · exact hmap hstateless
    · obtain ⟨data, -, hstateless⟩ := ok_of_bind hstateless
      exact hmap hstateless
    · exact hmap hstateless
    · exact hmap hstateless
    · split at hstateless
      · cases hstateless
      · split at hstateless
        · exact hmap hstateless
        · cases hstateless
    · cases hstateless
  · obtain ⟨spi, hspi, h⟩ := ok_of_bind h
    split at h
    · cases h
      unfold tryPrepareSpiReply at hspi
      split at hspi
      · cases hspi
      · split at hspi
        · obtain ⟨read, -, hspi⟩ := ok_of_bind hspi
          exact hmap hspi
        · cases hspi
    · obtain ⟨stateful, hstateful, h⟩ := ok_of_bind h
      split at h
      · cases h
        unfold tryPrepareStatefulReply at hstateful
        split at hstateful
        · split at hstateful
          · cases hstateful
          · obtain ⟨nextSession, -, hstateful⟩ := ok_of_bind hstateful
            obtain ⟨r, hr, heq⟩ := ok_of_bind hstateful
            cases heq
            exact controls_prepare0x21 hr
        · cases hstateful
      · cases h

theorem SwitchHidProtocol.prepareSubcommand_spec {protocol : SwitchHidProtocol} {request : SubcommandRequest}
    {state : InputState m} {timer : UInt8} {session : ProtocolSession} {action : PreparedOutputAction}
    (h : protocol.prepareSubcommand request state timer session = .ok action) :
    Prepared m request timer session action := by
  unfold prepareSubcommand at h
  obtain ⟨stateless, hstateless, h⟩ := ok_of_bind h
  split at h
  · cases h
    exact prepared_stateless hstateless
  · obtain ⟨spi, hspi, h⟩ := ok_of_bind h
    split at h
    · cases h
      exact prepared_spi hspi
    · obtain ⟨stateful, hstateful, h⟩ := ok_of_bind h
      split at h
      · cases h
        exact prepared_stateful hstateful
      · cases h

end Swbt
