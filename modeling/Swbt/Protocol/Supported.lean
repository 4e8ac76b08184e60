import Swbt.Protocol.Subcommand
/-!
# Supported subcommands

A supported subcommand has a reply whatever the session, the timer and the
input are when it comes.
-/

set_option autoImplicit false

namespace Swbt

variable {m : ControllerKind}

/-- The address of an SPI read, little-endian. -/
def spiReadAddress (a0 a1 a2 a3 : UInt8) : UInt32 :=
  a0.toUInt32 ||| a1.toUInt32 <<< 8 ||| a2.toUInt32 <<< 16 ||| a3.toUInt32 <<< 24

/-- A subcommand with its arguments, as the protocol answers it. -/
inductive SubcommandRequest.Supported (request : SubcommandRequest) : Prop
  | plain (hid : request.id = 0x02 ∨ request.id = 0x04 ∨ request.id = 0x08 ∨ request.id = 0x21)
  | mcuState {requested : UInt8} (hid : request.id = 0x22) (harg : request.payload.head? = some requested)
      (hvalue : requested ≤ 0x02)
  | spiRead {a0 a1 a2 a3 size : UInt8} {rest : List UInt8} (hid : request.id = 0x10)
      (hpayload : request.payload = a0 :: a1 :: a2 :: a3 :: size :: rest) (hsize : size.toNat ≤ maxReadSize)
      (hrange : (spiReadAddress a0 a1 a2 a3).toNat + size.toNat ≤ 0x80000)
  | stateful {requested : UInt8}
      (hid : request.id = 0x03 ∨ request.id = 0x30 ∨ request.id = 0x40 ∨ request.id = 0x48)
      (harg : request.payload.head? = some requested)
      (himu : request.id = 0x40 → (ImuMode.fromWire requested).isSome = true)
      (hvibration : request.id = 0x48 → requested = 0x00 ∨ requested = 0x01)

theorem prepare0x21_ok (subcommandId ack : UInt8) (data : List UInt8) (state : InputState m) (timer : UInt8)
    (hlength : data.length ≤ 35) : ∃ reply, prepare0x21 subcommandId ack data state timer = .ok reply :=
  ⟨_, if_neg (Nat.not_lt.2 hlength)⟩

theorem triggerElapsedData_ok (m : ControllerKind) : ∃ data, triggerElapsedData m = .ok data ∧ data.length = 14 := by
  cases m
  · exact ⟨_, rfl, rfl⟩
  · exact ⟨_, rfl, rfl⟩
  · exact ⟨_, rfl, rfl⟩

theorem spiRead_ok (m : ControllerKind) (colors : ControllerColors) {address : UInt32} {size : Nat}
    (hsize : size ≤ maxReadSize) (hrange : address.toNat + size ≤ 0x80000) :
    ∃ bytes, spiRead m colors address size = .ok bytes ∧ bytes.length = size := by
  unfold spiRead
  rw [if_neg (by omega), if_neg (by omega), if_neg (by omega)]
  exact ⟨_, rfl, by simp⟩

/-- Every IMU mode of the wire is accepted by every model. -/
theorem acceptedImuModes_contains (m : ControllerKind) {requested : UInt8}
    (hmode : (ImuMode.fromWire requested).isSome = true) :
    m.spec.protocol.acceptedImuModes.contains requested = true := by
  have hmodes : m.spec.protocol.acceptedImuModes = [0, 1, 2, 3, 4, 5] := by cases m <;> rfl
  rw [hmodes]
  unfold ImuMode.fromWire at hmode
  split at hmode <;> first | rfl | cases hmode

theorem requestedSession_ok (m : ControllerKind) {request : SubcommandRequest} {requested : UInt8}
    (hid : request.id = 0x03 ∨ request.id = 0x30 ∨ request.id = 0x40 ∨ request.id = 0x48)
    (himu : request.id = 0x40 → (ImuMode.fromWire requested).isSome = true)
    (hvibration : request.id = 0x48 → requested = 0x00 ∨ requested = 0x01) (session : ProtocolSession) :
    ∃ next, requestedSession m request.id requested session = .ok next := by
  rcases hid with hid | hid | hid | hid
  · rw [hid]
    exact ⟨_, rfl⟩
  · rw [hid]
    exact ⟨_, rfl⟩
  · obtain ⟨mode, hmode⟩ := Option.isSome_iff_exists.1 (himu hid)
    rw [hid]
    unfold requestedSession
    dsimp only
    rw [acceptedImuModes_contains m (himu hid), if_pos rfl, hmode]
    exact ⟨_, rfl⟩
  · rw [hid]
    rcases hvibration hid with rfl | rfl
    · exact ⟨_, rfl⟩
    · exact ⟨_, rfl⟩

/-! ## Replies -/

theorem deviceInfoData_length (m : ControllerKind) {address : List UInt8} (haddress : address.length = 6) :
    (deviceInfoData m address).length ≤ 35 := by
  have htail : m.spec.protocol.deviceInfoTail.length = 2 := by cases m <;> rfl
  unfold deviceInfoData
  simp [haddress, htail]

theorem statelessReply_ok {request : SubcommandRequest} {address : List UInt8} (haddress : address.length = 6)
    (hid : request.id = 0x02 ∨ request.id = 0x04 ∨ request.id = 0x08 ∨ request.id = 0x21) (state : InputState m)
    (timer : UInt8) : ∃ reply, tryPrepareStatelessReply request state timer address = .ok (some reply) := by
  unfold tryPrepareStatelessReply
  rcases hid with hid | hid | hid | hid
  · obtain ⟨reply, hreply⟩ := prepare0x21_ok request.id 0x82 _ state timer (deviceInfoData_length m haddress)
    rw [hid] at hreply ⊢
    exact ⟨reply, congrArg (some <$> ·) hreply⟩
  · obtain ⟨data, hdata, hlength⟩ := triggerElapsedData_ok m
    obtain ⟨reply, hreply⟩ := prepare0x21_ok request.id 0x83 data state timer (by omega)
    rw [hid] at hreply ⊢
    rw [hdata]
    exact ⟨reply, congrArg (some <$> ·) hreply⟩
  · obtain ⟨reply, hreply⟩ := prepare0x21_ok request.id 0x80 [] state timer (by decide)
    rw [hid] at hreply ⊢
    exact ⟨reply, congrArg (some <$> ·) hreply⟩
  · obtain ⟨reply, hreply⟩ := prepare0x21_ok request.id 0xA0 mcuConfigData state timer (by decide)
    rw [hid] at hreply ⊢
    exact ⟨reply, congrArg (some <$> ·) hreply⟩

theorem mcuStateReply_ok {request : SubcommandRequest} {requested : UInt8} (hid : request.id = 0x22)
    (harg : request.payload.head? = some requested) (hvalue : requested ≤ 0x02) (state : InputState m) (timer : UInt8)
    (address : List UInt8) : ∃ reply, tryPrepareStatelessReply request state timer address = .ok (some reply) := by
  obtain ⟨reply, hreply⟩ := prepare0x21_ok request.id 0x80 [] state timer (by decide)
  unfold tryPrepareStatelessReply
  rw [hid] at hreply ⊢
  rw [harg]
  exact ⟨reply, (if_pos hvalue).trans (congrArg (some <$> ·) hreply)⟩

theorem spiReply_ok {request : SubcommandRequest} {a0 a1 a2 a3 size : UInt8} {rest : List UInt8}
    (hid : request.id = 0x10) (hpayload : request.payload = a0 :: a1 :: a2 :: a3 :: size :: rest)
    (hsize : size.toNat ≤ maxReadSize) (hrange : (spiReadAddress a0 a1 a2 a3).toNat + size.toNat ≤ 0x80000)
    (state : InputState m) (timer : UInt8) (colors : ControllerColors) :
    ∃ reply, tryPrepareSpiReply request state timer colors = .ok (some reply) := by
  obtain ⟨bytes, hread, hlength⟩ := spiRead_ok m colors hsize hrange
  have hdata : ([a0, a1, a2, a3, size] ++ bytes).length ≤ 35 := by
    have hmax : maxReadSize = 29 := rfl
    rw [List.length_append, hlength, List.length_cons, List.length_cons, List.length_cons, List.length_cons,
      List.length_cons, List.length_nil]
    omega
  obtain ⟨reply, hreply⟩ := prepare0x21_ok request.id 0x90 _ state timer hdata
  unfold spiReadAddress at hread
  unfold tryPrepareSpiReply
  rw [if_neg (not_not.2 hid), hpayload]
  dsimp only
  rw [hread]
  exact ⟨reply, congrArg (some <$> ·) hreply⟩

theorem statefulReply_ok {request : SubcommandRequest} {requested : UInt8}
    (hid : request.id = 0x03 ∨ request.id = 0x30 ∨ request.id = 0x40 ∨ request.id = 0x48)
    (harg : request.payload.head? = some requested)
    (himu : request.id = 0x40 → (ImuMode.fromWire requested).isSome = true)
    (hvibration : request.id = 0x48 → requested = 0x00 ∨ requested = 0x01) (state : InputState m) (timer : UInt8)
    (session : ProtocolSession) : ∃ reply, tryPrepareStatefulReply request state timer session = .ok (some reply) := by
  obtain ⟨next, hnext⟩ := requestedSession_ok m hid himu hvibration session
  obtain ⟨reply, hreply⟩ := prepare0x21_ok request.id 0x80 [] state timer (by decide)
  unfold tryPrepareStatefulReply
  rw [if_pos hid, harg]
  dsimp only
  rw [hnext, hreply]
  exact ⟨⟨reply, next⟩, rfl⟩

/-- A supported subcommand is answered. -/
theorem SwitchHidProtocol.prepareSubcommand_ok (protocol : SwitchHidProtocol) {request : SubcommandRequest}
    (hsupported : request.Supported) (state : InputState m) (timer : UInt8) (session : ProtocolSession) :
    ∃ action, protocol.prepareSubcommand request state timer session = .ok action := by
  unfold prepareSubcommand
  cases hsupported with
  | plain hid =>
    obtain ⟨reply, hreply⟩ := statelessReply_ok protocol.address_length hid state timer
    rw [hreply]
    exact ⟨.reply reply, rfl⟩
  | mcuState hid harg hvalue =>
    obtain ⟨reply, hreply⟩ := mcuStateReply_ok hid harg hvalue state timer protocol.deviceInfoAddress
    rw [hreply]
    exact ⟨.reply reply, rfl⟩
  | spiRead hid hpayload hsize hrange =>
    have hstateless : tryPrepareStatelessReply request state timer protocol.deviceInfoAddress = .ok none := by
      unfold tryPrepareStatelessReply
      rw [hid]
      rfl
    obtain ⟨reply, hreply⟩ := spiReply_ok hid hpayload hsize hrange state timer protocol.colors
    rw [hstateless, hreply]
    exact ⟨.reply reply, rfl⟩
  | stateful hid harg himu hvibration =>
    have hstateless : tryPrepareStatelessReply request state timer protocol.deviceInfoAddress = .ok none := by
      unfold tryPrepareStatelessReply
      rcases hid with hid | hid | hid | hid <;> rw [hid] <;> rfl
    have hspi : tryPrepareSpiReply request state timer protocol.colors = .ok none := by
      refine if_pos ?_
      rcases hid with hid | hid | hid | hid <;> rw [hid] <;> decide
    obtain ⟨reply, hreply⟩ := statefulReply_ok hid harg himu hvibration state timer session
    rw [hstateless, hspi, hreply]
    exact ⟨.sessionReply reply, rfl⟩

end Swbt
