import Swbt.Protocol.Spi
/-!
# What is answered, and how

Which requests have a reply depends on the subcommand and its first arguments
alone. Every reply has one layout, and only four subcommands ask for another
session.
-/

set_option autoImplicit false

namespace Swbt

variable {m : ControllerKind}

/-! ## Layout -/

/-- Copying over the middle of three blocks. -/
theorem copyAt_append (before old after src : List UInt8) (hlength : old.length = src.length) :
    copyAt (before ++ old ++ after) before.length src = before ++ src ++ after := by
  induction src generalizing before old with
  | nil =>
    rw [List.length_nil, List.length_eq_zero_iff] at hlength
    rw [hlength]
    rfl
  | cons byte rest ih =>
    obtain ⟨first, others, rfl⟩ := List.exists_cons_of_length_eq_add_one hlength
    have hset : (before ++ first :: others ++ after).set before.length byte =
        (before ++ [byte]) ++ others ++ after := by
      simp
    have hnext : before.length + 1 = (before ++ [byte]).length := by simp
    rw [copyAt, hset, hnext, ih (before ++ [byte]) others (by simpa using hlength)]
    simp

/-- Bytes 2 to 12 of an input report: battery, buttons, sticks and vibrator. -/
def inputBytes (state : InputState m) (timer : UInt8) : List UInt8 := window (encode0x30 state timer (zeros 36)).bytes 2 11

/-- A 0x21 report. -/
def replyBytes (state : InputState m) (timer subcommandId ack : UInt8) (data : List UInt8) : List UInt8 :=
  [0x21, timer] ++ inputBytes state timer ++ [ack, subcommandId] ++ data ++ zeros (35 - data.length)

theorem length_inputBytes (state : InputState m) (timer : UInt8) : (inputBytes state timer).length = 11 :=
  length_window (by rw [length_encode0x30]; omega)

theorem length_replyBytes (state : InputState m) (timer subcommandId ack : UInt8) {data : List UInt8}
    (hlength : data.length ≤ 35) : (replyBytes state timer subcommandId ack data).length = 50 := by
  have hinput := length_inputBytes state timer
  unfold replyBytes zeros
  simp only [List.length_append, List.length_cons, List.length_nil, List.length_replicate]
  omega

/-- The IMU block comes after the bytes that replies share with input reports. -/
theorem inputBytes_eq (state : InputState m) (timer : UInt8) (block : List UInt8) :
    window (encode0x30 state timer block).bytes 2 11 = inputBytes state timer := by
  apply List.ext_getElem?
  intro i
  by_cases hi : i < 11
  · rw [inputBytes, getElem?_window _ _ hi, getElem?_window _ _ hi]
    unfold encode0x30
    dsimp only
    rw [getElem?_copyAt_lt _ _ _ (by omega), getElem?_copyAt_lt _ _ _ (by omega)]
  · rw [List.getElem?_eq_none, List.getElem?_eq_none]
    · rw [length_inputBytes]
      omega
    · rw [window, List.length_take]
      omega

/-- The head of an input report. -/
theorem take_encode0x30 (state : InputState m) (timer : UInt8) :
    (encode0x30 state timer (zeros 36)).bytes.take 13 = [0x30, timer] ++ inputBytes state timer := by
  have hsplit := window_add (encode0x30 state timer (zeros 36)).bytes 0 2 11
  have hhead : window (encode0x30 state timer (zeros 36)).bytes 0 2 = [0x30, timer] := by
    apply List.ext_getElem?
    intro i
    match i with
    | 0 => rw [getElem?_window _ _ (by omega), id_encode0x30]; rfl
    | 1 => rw [getElem?_window _ _ (by omega), timer_encode0x30]; rfl
    | i + 2 => rw [List.getElem?_eq_none, List.getElem?_eq_none] <;> simp [window]
  rw [hhead, Nat.zero_add] at hsplit
  exact hsplit

/-- How a report is made from the head of an input report. -/
theorem replyBytes_eq {middle : List UInt8} (hmiddle : middle.length = 11) (timer subcommandId ack : UInt8)
    {data : List UInt8} (hlength : data.length ≤ 35) :
    copyAt ((((copyAt (zeros 50) 0 ([0x30, timer] ++ middle)).set 0 0x21).set 13 ack).set 14 subcommandId) 15 data =
      [0x21, timer] ++ middle ++ [ack, subcommandId] ++ data ++ zeros (35 - data.length) := by
  have hhead : copyAt (zeros 50) 0 ([0x30, timer] ++ middle) = [0x30, timer] ++ middle ++ 0 :: 0 :: zeros 35 :=
    copyAt_append [] (zeros 13) (zeros 37) ([0x30, timer] ++ middle) (by rw [List.length_append, hmiddle]; rfl)
  have hfields : ((([0x30, timer] ++ middle ++ 0 :: 0 :: zeros 35).set 0 0x21).set 13 ack).set 14 subcommandId =
      [0x21, timer] ++ middle ++ [ack, subcommandId] ++ zeros 35 := by
    simp [hmiddle]
  have hspare : zeros 35 = zeros data.length ++ zeros (35 - data.length) := by
    rw [zeros, zeros, zeros, List.replicate_append_replicate]
    congr 1
    omega
  have hfifteen : ([0x21, timer] ++ middle ++ [ack, subcommandId]).length = 15 := by
    simp [hmiddle]
  rw [hhead, hfields, hspare, ← hfifteen, ← List.append_assoc]
  exact copyAt_append _ _ _ _ (by simp [zeros])

/-- A reply is laid out as `replyBytes` says. -/
theorem prepare0x21_eq (subcommandId ack : UInt8) {data : List UInt8} (state : InputState m) (timer : UInt8)
    (hlength : data.length ≤ 35) :
    prepare0x21 subcommandId ack data state timer = .ok ⟨replyBytes state timer subcommandId ack data, timer + 1⟩ := by
  have hbytes := replyBytes_eq (length_inputBytes state timer) timer subcommandId ack hlength
  unfold prepare0x21
  rw [if_neg (by omega)]
  dsimp only
  rw [take_encode0x30, hbytes]
  rfl

/-! ## What a request yields -/

/-- The ticks since each pairing trigger was pressed: 300 for those of the model. -/
def elapsedTicks : ControllerKind → List UInt8
  | .pro => [0x2C, 0x01, 0x2C, 0x01] ++ zeros 10
  | .joyConL | .joyConR => zeros 8 ++ [0x2C, 0x01, 0x2C, 0x01] ++ zeros 2

theorem triggerElapsedData_eq (m : ControllerKind) : triggerElapsedData m = .ok (elapsedTicks m) := by
  cases m <;> rfl

/-- The address and the size that the five bytes of an SPI read ask for. -/
def SubcommandRequest.spiTarget (request : SubcommandRequest) : Nat × Nat :=
  ((spiReadAddress (request.payload.getD 0 0) (request.payload.getD 1 0) (request.payload.getD 2 0)
    (request.payload.getD 3 0)).toNat, (request.payload.getD 4 0).toNat)

/-- The acknowledgement and the data of each reply. -/
def replyData (m : ControllerKind) (protocol : SwitchHidProtocol) (request : SubcommandRequest) : UInt8 × List UInt8 :=
  match request.id with
  | 0x02 => (0x82, deviceInfoData m protocol.deviceInfoAddress)
  | 0x04 => (0x83, elapsedTicks m)
  | 0x10 => (0x90, request.payload.take 5 ++
      window (spiImage m protocol.colors) request.spiTarget.1 request.spiTarget.2)
  | 0x21 => (0xA0, mcuConfigData)
  | _ => (0x80, [])

/-- Why a request is refused; the error names what is wrong with it. -/
inductive Refusal (m : ControllerKind) (request : SubcommandRequest) : ProtocolError → Prop
  | missing (hid : request.id = 0x22 ∨ request.id = 0x03 ∨ request.id = 0x30 ∨ request.id = 0x40 ∨ request.id = 0x48)
      (hpayload : request.payload = []) : Refusal m request (.missingSubcommandArgument request.id)
  | mcuState {requested : UInt8} (hid : request.id = 0x22) (harg : request.payload.head? = some requested)
      (hvalue : ¬ requested ≤ 0x02) : Refusal m request (.invalidNfcIrMcuState requested)
  | truncated (hid : request.id = 0x10) (hlength : request.payload.length < 5) :
      Refusal m request (.truncatedSpiReadRequest 5 request.payload.length)
  | tooLarge (hid : request.id = 0x10) (hlength : 5 ≤ request.payload.length)
      (hsize : maxReadSize < request.spiTarget.2) :
      Refusal m request (.spiReadTooLarge request.spiTarget.2 maxReadSize)
  | outOfRange (hid : request.id = 0x10) (hlength : 5 ≤ request.payload.length)
      (hsize : request.spiTarget.2 ≤ maxReadSize) (hrange : 0x80000 < request.spiTarget.1 + request.spiTarget.2) :
      Refusal m request (.spiAddressOutOfRange request.spiTarget.1 request.spiTarget.2)
  | imuMode {requested : UInt8} (hid : request.id = 0x40) (harg : request.payload.head? = some requested)
      (hmode : ImuMode.fromWire requested = none) :
      Refusal m request (.unsupportedImuMode requested m.spec.protocol.acceptedImuModes)
  | vibration {requested : UInt8} (hid : request.id = 0x48) (harg : request.payload.head? = some requested)
      (hvalue : requested ≠ 0x00 ∧ requested ≠ 0x01) : Refusal m request (.invalidVibrationValue requested)
  | unknown (hid : request.id ∉ ([0x02, 0x03, 0x04, 0x08, 0x10, 0x21, 0x22, 0x30, 0x40, 0x48] : List UInt8)) :
      Refusal m request (.unsupportedSubcommand request.id)

/-- What preparing a request comes to. -/
inductive Outcome (protocol : SwitchHidProtocol) (request : SubcommandRequest) (state : InputState m) (timer : UInt8)
    (session : ProtocolSession) : Except ProtocolError PreparedOutputAction → Prop
  | plain (hsupported : request.Supported)
      (hid : request.id ≠ 0x03 ∧ request.id ≠ 0x30 ∧ request.id ≠ 0x40 ∧ request.id ≠ 0x48) :
      Outcome protocol request state timer session (.ok (.reply
        ⟨replyBytes state timer request.id (replyData m protocol request).1 (replyData m protocol request).2, timer + 1⟩))
  | stateful {requested : UInt8} {next : ProtocolSession} (hsupported : request.Supported)
      (hid : request.id = 0x03 ∨ request.id = 0x30 ∨ request.id = 0x40 ∨ request.id = 0x48)
      (harg : request.payload.head? = some requested)
      (hnext : requestedSession m request.id requested session = .ok next) :
      Outcome protocol request state timer session (.ok (.sessionReply ⟨
        ⟨replyBytes state timer request.id (replyData m protocol request).1 (replyData m protocol request).2, timer + 1⟩,
        next⟩))
  | refused {e : ProtocolError} (hrefusal : Refusal m request e) : Outcome protocol request state timer session (.error e)

section Outcome

variable (protocol : SwitchHidProtocol) (request : SubcommandRequest) (state : InputState m) (timer : UInt8)
  (session : ProtocolSession)

/-- The reply to a request that is answered. -/
def expectedReply : PreparedSubcommandReply :=
  ⟨replyBytes state timer request.id (replyData m protocol request).1 (replyData m protocol request).2, timer + 1⟩

theorem prepare_expected {ack : UInt8} {data : List UInt8} (hdata : replyData m protocol request = (ack, data))
    (hlength : data.length ≤ 35) :
    prepare0x21 request.id ack data state timer = .ok (expectedReply protocol request state timer) := by
  rw [prepare0x21_eq request.id ack state timer hlength, expectedReply, hdata]

variable {protocol request}

theorem statelessReply_plain
    (hid : request.id = 0x02 ∨ request.id = 0x04 ∨ request.id = 0x08 ∨ request.id = 0x21) :
    tryPrepareStatelessReply request state timer protocol.deviceInfoAddress =
      .ok (some (expectedReply protocol request state timer)) := by
  have haddress := deviceInfoData_length m protocol.address_length
  obtain ⟨id, payload⟩ := request
  rcases hid with hid | hid | hid | hid <;> cases hid
  · have hreply := prepare_expected protocol ⟨0x02, payload⟩ state timer rfl haddress
    exact congrArg (some <$> ·) hreply
  · have hreply := prepare_expected protocol ⟨0x04, payload⟩ state timer rfl
      (by cases m <;> decide)
    unfold tryPrepareStatelessReply
    dsimp only
    rw [triggerElapsedData_eq]
    exact congrArg (some <$> ·) hreply
  · have hreply := prepare_expected protocol ⟨0x08, payload⟩ state timer rfl (by decide)
    exact congrArg (some <$> ·) hreply
  · have hreply := prepare_expected protocol ⟨0x21, payload⟩ state timer rfl (by decide)
    exact congrArg (some <$> ·) hreply

theorem statelessReply_none {address : List UInt8}
    (hid : request.id ∉ ([0x02, 0x04, 0x08, 0x21, 0x22] : List UInt8)) :
    tryPrepareStatelessReply request state timer address = .ok none := by
  unfold tryPrepareStatelessReply
  split <;> simp_all

/-- 0x22 is answered for the states 0 to 2. -/
theorem statelessReply_mcuState (hid : request.id = 0x22) :
    (request.payload = [] ∧ tryPrepareStatelessReply request state timer protocol.deviceInfoAddress =
        .error (.missingSubcommandArgument 0x22)) ∨
      ∃ requested, request.payload.head? = some requested ∧
        (requested ≤ 0x02 ∧ tryPrepareStatelessReply request state timer protocol.deviceInfoAddress =
            .ok (some (expectedReply protocol request state timer)) ∨
          ¬ requested ≤ 0x02 ∧ tryPrepareStatelessReply request state timer protocol.deviceInfoAddress =
            .error (.invalidNfcIrMcuState requested)) := by
  obtain ⟨id, payload⟩ := request
  cases hid
  cases payload with
  | nil => exact .inl ⟨rfl, rfl⟩
  | cons requested rest =>
    have hreply := prepare_expected protocol ⟨0x22, requested :: rest⟩ state timer rfl (by decide)
    refine .inr ⟨requested, rfl, ?_⟩
    by_cases hvalue : requested ≤ 0x02
    · exact .inl ⟨hvalue, (if_pos hvalue).trans (congrArg (some <$> ·) hreply)⟩
    · exact .inr ⟨hvalue, if_neg hvalue⟩

/-- 0x10 is answered when it has its five bytes and reads within the image. -/
theorem spiReply_cases (hid : request.id = 0x10) :
    (request.payload.length < 5 ∧ tryPrepareSpiReply request state timer protocol.colors =
        .error (.truncatedSpiReadRequest 5 request.payload.length)) ∨
      5 ≤ request.payload.length ∧
        (request.spiTarget.2 ≤ maxReadSize ∧ request.spiTarget.1 + request.spiTarget.2 ≤ 0x80000 ∧
            tryPrepareSpiReply request state timer protocol.colors =
              .ok (some (expectedReply protocol request state timer)) ∨
          maxReadSize < request.spiTarget.2 ∧ tryPrepareSpiReply request state timer protocol.colors =
            .error (.spiReadTooLarge request.spiTarget.2 maxReadSize) ∨
          request.spiTarget.2 ≤ maxReadSize ∧ 0x80000 < request.spiTarget.1 + request.spiTarget.2 ∧
            tryPrepareSpiReply request state timer protocol.colors =
              .error (.spiAddressOutOfRange request.spiTarget.1 request.spiTarget.2)) := by
  obtain ⟨id, payload⟩ := request
  subst hid
  match payload with
  | [] => exact .inl ⟨by decide, rfl⟩
  | [_] => exact .inl ⟨by simp, rfl⟩
  | [_, _] => exact .inl ⟨by simp, rfl⟩
  | [_, _, _] => exact .inl ⟨by simp, rfl⟩
  | [_, _, _, _] => exact .inl ⟨by simp, rfl⟩
  | a0 :: a1 :: a2 :: a3 :: size :: rest =>
    refine .inr ⟨by simp, ?_⟩
    have hmax : maxReadSize = 29 := rfl
    generalize haddress : spiReadAddress a0 a1 a2 a3 = address
    have htarget : (SubcommandRequest.mk 0x10 (a0 :: a1 :: a2 :: a3 :: size :: rest)).spiTarget =
        (address.toNat, size.toNat) := by rw [← haddress]; rfl
    -- From here on only the address and the size matter.
    have hunfold : tryPrepareSpiReply ⟨0x10, a0 :: a1 :: a2 :: a3 :: size :: rest⟩ state timer protocol.colors =
        (do
          let read ← spiRead m protocol.colors address size.toNat
          return some (← prepare0x21 0x10 0x90 ([a0, a1, a2, a3, size] ++ read) state timer)) := by
      rw [← haddress]
      rfl
    rw [htarget, hunfold]
    dsimp only
    by_cases hsize : size.toNat ≤ maxReadSize
    · by_cases hrange : address.toNat + size.toNat ≤ 0x80000
      · left
        refine ⟨hsize, hrange, ?_⟩
        have hlength := @length_window (spiImage m protocol.colors) address.toNat size.toNat
          (by rw [length_spiImage]; exact hrange)
        have hreply := prepare_expected protocol ⟨0x10, a0 :: a1 :: a2 :: a3 :: size :: rest⟩ state timer
          (show replyData m protocol _ = (0x90, [a0, a1, a2, a3, size] ++
            window (spiImage m protocol.colors) address.toNat size.toNat) by rw [← haddress]; rfl)
          (by rw [List.length_append, hlength]; simp only [List.length_cons, List.length_nil]; omega)
        rw [spiRead_eq m protocol.colors hsize hrange]
        exact congrArg (some <$> ·) hreply
      · right; right
        refine ⟨hsize, by omega, ?_⟩
        have hread : spiRead m protocol.colors address size.toNat =
            .error (.spiAddressOutOfRange address.toNat size.toNat) := by
          unfold spiRead
          rw [if_neg (by omega)]
          split
          · rfl
          · rw [if_pos (by omega)]
        rw [hread]
        rfl
    · right; left
      refine ⟨by omega, ?_⟩
      have hread : spiRead m protocol.colors address size.toNat = .error (.spiReadTooLarge size.toNat maxReadSize) :=
        if_pos (by omega)
      rw [hread]
      rfl

/-- The four stateful subcommands are answered when their argument is one they know. -/
theorem statefulReply_cases
    (hid : request.id = 0x03 ∨ request.id = 0x30 ∨ request.id = 0x40 ∨ request.id = 0x48) :
    (request.payload = [] ∧ tryPrepareStatefulReply request state timer session =
        .error (.missingSubcommandArgument request.id)) ∨
      ∃ requested, request.payload.head? = some requested ∧
        ((∃ next, requestedSession m request.id requested session = .ok next ∧
            tryPrepareStatefulReply request state timer session =
              .ok (some ⟨expectedReply protocol request state timer, next⟩)) ∨
          ∃ e, requestedSession m request.id requested session = .error e ∧
            tryPrepareStatefulReply request state timer session = .error e) := by
  have hdata : replyData m protocol request = (0x80, []) := by
    unfold replyData
    rcases hid with hid | hid | hid | hid <;> rw [hid] <;> rfl
  have hreply := prepare_expected protocol request state timer hdata (by decide)
  unfold tryPrepareStatefulReply
  rw [if_pos hid]
  cases request.payload with
  | nil => exact .inl ⟨rfl, rfl⟩
  | cons requested rest =>
    refine .inr ⟨requested, rfl, ?_⟩
    dsimp only [List.head?_cons]
    cases hnext : requestedSession m request.id requested session with
    | ok next =>
      refine .inl ⟨next, rfl, ?_⟩
      rw [hreply]
      rfl
    | error e => exact .inr ⟨e, rfl, rfl⟩

theorem requestedSession_imu_eq (m : ControllerKind) (requested : UInt8) (session : ProtocolSession) :
    requestedSession m 0x40 requested session = match ImuMode.fromWire requested with
      | some mode => .ok (session.withImuMode mode)
      | none => .error (.unsupportedImuMode requested m.spec.protocol.acceptedImuModes) := by
  have heq : requestedSession m 0x40 requested session =
      match if m.spec.protocol.acceptedImuModes.contains requested then ImuMode.fromWire requested else none with
        | some mode => .ok (session.withImuMode mode)
        | none => .error (.unsupportedImuMode requested m.spec.protocol.acceptedImuModes) := rfl
  rw [heq]
  cases hwire : ImuMode.fromWire requested with
  | none => rw [ite_self]
  | some mode => rw [acceptedImuModes_contains m (by rw [hwire]; rfl), if_pos rfl]

theorem requestedSession_vibration (m : ControllerKind) (requested : UInt8) (session : ProtocolSession) :
    requestedSession m 0x48 requested session =
      if requested = 0x00 then .ok (session.withVibrationEnabled false)
      else if requested = 0x01 then .ok (session.withVibrationEnabled true)
      else .error (.invalidVibrationValue requested) := by
  by_cases hfalse : requested = 0x00
  · subst hfalse
    rfl
  by_cases htrue : requested = 0x01
  · subst htrue
    rfl
  rw [if_neg hfalse, if_neg htrue]
  simp only [requestedSession]
  split
  · rename_i hid
    exact absurd hid (by decide)
  · rename_i hid
    exact absurd hid (by decide)
  · rename_i hid
    exact absurd hid (by decide)
  · rfl

/-- An argument is known or the request is refused for it. -/
theorem requestedSession_cases {requested : UInt8}
    (hid : request.id = 0x03 ∨ request.id = 0x30 ∨ request.id = 0x40 ∨ request.id = 0x48)
    (harg : request.payload.head? = some requested) :
    (request.Supported ∧ ∃ next, requestedSession m request.id requested session = .ok next) ∨
      ∃ e, requestedSession m request.id requested session = .error e ∧ Refusal m request e := by
  rcases hid with hreport | hlights | himu | hvibration
  · refine .inl ⟨.stateful (.inl hreport) harg ?_ ?_, by rw [hreport]; exact ⟨_, rfl⟩⟩ <;> simp [hreport]
  · refine .inl ⟨.stateful (.inr (.inl hlights)) harg ?_ ?_, by rw [hlights]; exact ⟨_, rfl⟩⟩ <;> simp [hlights]
  · rw [himu, requestedSession_imu_eq]
    cases hwire : ImuMode.fromWire requested with
    | none => exact .inr ⟨_, rfl, .imuMode himu harg hwire⟩
    | some mode => exact .inl ⟨.stateful (.inr (.inr (.inl himu))) harg (by simp [hwire]) (by simp [himu]), _, rfl⟩
  · rw [hvibration, requestedSession_vibration]
    by_cases hfalse : requested = 0x00
    · exact .inl ⟨.stateful (.inr (.inr (.inr hvibration))) harg (by simp [hvibration]) (fun _ => .inl hfalse), _,
        if_pos hfalse⟩
    by_cases htrue : requested = 0x01
    · exact .inl ⟨.stateful (.inr (.inr (.inr hvibration))) harg (by simp [hvibration]) (fun _ => .inr htrue), _,
        (if_neg hfalse).trans (if_pos htrue)⟩
    · exact .inr ⟨_, (if_neg hfalse).trans (if_neg htrue), .vibration hvibration harg ⟨hfalse, htrue⟩⟩

theorem supported_spi (hid : request.id = 0x10) (hlength : 5 ≤ request.payload.length)
    (hsize : request.spiTarget.2 ≤ maxReadSize) (hrange : request.spiTarget.1 + request.spiTarget.2 ≤ 0x80000) :
    request.Supported := by
  obtain ⟨id, payload⟩ := request
  match payload, hlength with
  | a0 :: a1 :: a2 :: a3 :: size :: rest, _ => exact .spiRead hid rfl hsize hrange

/-- Every request is answered as expected or refused for a reason. -/
theorem prepareSubcommand_outcome :
    Outcome protocol request state timer session (protocol.prepareSubcommand request state timer session) := by
  unfold SwitchHidProtocol.prepareSubcommand
  -- The three tables are tried in the order of the source.
  by_cases hplain : request.id = 0x02 ∨ request.id = 0x04 ∨ request.id = 0x08 ∨ request.id = 0x21
  · rw [statelessReply_plain state timer hplain]
    refine .plain (.plain hplain) ?_
    rcases hplain with hid | hid | hid | hid <;> simp [hid]
  by_cases hmcu : request.id = 0x22
  · obtain ⟨hpayload, hreply⟩ | ⟨requested, harg, ⟨hvalue, hreply⟩ | ⟨hvalue, hreply⟩⟩ :=
      @statelessReply_mcuState m protocol request state timer hmcu
    · rw [hreply]
      rw [← hmcu] at hreply ⊢
      exact .refused (.missing (.inl hmcu) hpayload)
    · rw [hreply]
      exact .plain (.mcuState hmcu harg hvalue) (by simp [hmcu])
    · rw [hreply]
      exact .refused (.mcuState hmcu harg hvalue)
  by_cases hspi : request.id = 0x10
  · have hnone : tryPrepareStatelessReply request state timer protocol.deviceInfoAddress = .ok none :=
      statelessReply_none state timer (by rw [hspi]; decide)
    obtain ⟨hlength, hreply⟩ | ⟨hlength, ⟨hsize, hrange, hreply⟩ | ⟨hsize, hreply⟩ | ⟨hsize, hrange, hreply⟩⟩ :=
      @spiReply_cases m protocol request state timer hspi
    · rw [hnone, hreply]
      exact .refused (.truncated hspi hlength)
    · rw [hnone, hreply]
      exact .plain (supported_spi hspi hlength hsize hrange) (by simp [hspi])
    · rw [hnone, hreply]
      exact .refused (.tooLarge hspi hlength hsize)
    · rw [hnone, hreply]
      exact .refused (.outOfRange hspi hlength hsize hrange)
  have hnone : tryPrepareStatelessReply request state timer protocol.deviceInfoAddress = .ok none := by
    refine statelessReply_none state timer ?_
    simp only [List.mem_cons, List.not_mem_nil]
    tauto
  have hspiNone : tryPrepareSpiReply request state timer protocol.colors = .ok none := if_pos hspi
  rw [hnone, hspiNone]
  by_cases hstateful : request.id = 0x03 ∨ request.id = 0x30 ∨ request.id = 0x40 ∨ request.id = 0x48
  · obtain ⟨hpayload, hreply⟩ | ⟨requested, harg, ⟨next, hnext, hreply⟩ | ⟨e, herror, hreply⟩⟩ :=
      @statefulReply_cases m protocol request state timer session hstateful
    · rw [hreply]
      exact .refused (.missing (.inr hstateful) hpayload)
    · obtain ⟨hsupported, -⟩ | ⟨e, herror, -⟩ := requestedSession_cases (m := m) session hstateful harg
      · rw [hreply]
        exact .stateful hsupported hstateful harg hnext
      · rw [herror] at hnext
        cases hnext
    · obtain ⟨-, next, hnext⟩ | ⟨e', herror', hrefusal⟩ := requestedSession_cases (m := m) session hstateful harg
      · rw [hnext] at herror
        cases herror
      · rw [herror'] at herror
        cases herror
        rw [hreply]
        exact .refused hrefusal
  · have hstatefulNone : tryPrepareStatefulReply request state timer session = .ok none := if_neg hstateful
    rw [hstatefulNone]
    refine .refused (.unknown ?_)
    simp only [List.mem_cons, List.not_mem_nil]
    tauto

/-- A reply is prepared for the supported requests and no others. -/
theorem prepareSubcommand_ok_iff :
    (∃ action, protocol.prepareSubcommand request state timer session = .ok action) ↔ request.Supported := by
  constructor
  · rintro ⟨action, haction⟩
    have houtcome := @prepareSubcommand_outcome m protocol request state timer session
    rw [haction] at houtcome
    cases houtcome with
    | plain hsupported _ => exact hsupported
    | stateful hsupported _ _ _ => exact hsupported
  · exact fun hsupported => protocol.prepareSubcommand_ok hsupported state timer session

variable {state timer session}

/-- Every reply is the expected one. -/
theorem bytes_prepareSubcommand {action : PreparedOutputAction}
    (haction : protocol.prepareSubcommand request state timer session = .ok action) :
    action.bytes = replyBytes state timer request.id (replyData m protocol request).1 (replyData m protocol request).2 ∧
      action.nextTimer = timer + 1 := by
  have houtcome := @prepareSubcommand_outcome m protocol request state timer session
  rw [haction] at houtcome
  cases houtcome with
  | plain _ _ => exact ⟨rfl, rfl⟩
  | stateful _ _ _ _ => exact ⟨rfl, rfl⟩

end Outcome

/-! ## SPI reads -/

/-- The data of a reply comes after its fifteen header bytes. -/
theorem window_replyBytes (state : InputState m) (timer subcommandId ack : UInt8) (data : List UInt8) :
    window (replyBytes state timer subcommandId ack data) 15 data.length = data := by
  have hheader : ([0x21, timer] ++ inputBytes state timer ++ [ack, subcommandId]).length = 15 := by
    simp [length_inputBytes]
  have hwindow := window_append ([0x21, timer] ++ inputBytes state timer ++ [ack, subcommandId]) data
    (zeros (35 - data.length))
  rw [hheader] at hwindow
  exact hwindow

/-- A reply to 0x10 carries the request's five bytes and what they read. -/
theorem spi_reply_window {protocol : SwitchHidProtocol} {a0 a1 a2 a3 size : UInt8} {rest : List UInt8}
    {state : InputState m} {timer : UInt8} {session : ProtocolSession} {action : PreparedOutputAction}
    (haction : protocol.prepareSubcommand ⟨0x10, a0 :: a1 :: a2 :: a3 :: size :: rest⟩ state timer session = .ok action) :
    window action.bytes 15 (5 + size.toNat) = [a0, a1, a2, a3, size] ++
      window (spiImage m protocol.colors) (spiReadAddress a0 a1 a2 a3).toNat size.toNat := by
  have hrange : (spiReadAddress a0 a1 a2 a3).toNat + size.toNat ≤ 0x80000 := by
    have hsupported := (prepareSubcommand_ok_iff state timer session).1 ⟨action, haction⟩
    cases hsupported with
    | plain hid => simp at hid
    | mcuState hid _ _ => simp at hid
    | spiRead _ hpayload _ hrange =>
      simp only [List.cons.injEq] at hpayload
      obtain ⟨rfl, rfl, rfl, rfl, rfl, -⟩ := hpayload
      exact hrange
    | stateful hid _ _ _ => simp at hid
  have hlength : ([a0, a1, a2, a3, size] ++
      window (spiImage m protocol.colors) (spiReadAddress a0 a1 a2 a3).toNat size.toNat).length = 5 + size.toNat := by
    rw [List.length_append, length_window (by rw [length_spiImage]; exact hrange)]
    rfl
  rw [(bytes_prepareSubcommand haction).1, ← hlength]
  exact window_replyBytes state timer 0x10 0x90 _

/-- Reads are windows of one image of 0x80000 bytes, erased but for the device
type, the colors' mark, the calibrations and the colors; they fit the image or
fail, adjacent reads join, and a reply carries the request and its window. -/
theorem spi_reads_are_windows (m : ControllerKind) (colors : ControllerColors) :
    (spiImage m colors).length = 0x80000 ∧
    (∀ (address : UInt32) (size : Nat) (bytes : List UInt8), spiRead m colors address size = .ok bytes ↔
      (size ≤ 29 ∧ address.toNat + size ≤ 0x80000) ∧ bytes = window (spiImage m colors) address.toNat size) ∧
    ((spiImage m colors)[0x6012]? = some m.spec.protocol.deviceType ∧ (spiImage m colors)[0x601B]? = some 0x01 ∧
      window (spiImage m colors) 0x6020 12 = calibrationBytes m.spec.protocol.accelerometerCalibration ∧
      window (spiImage m colors) 0x602C 12 = calibrationBytes m.spec.protocol.gyroscopeCalibration ∧
      window (spiImage m colors) 0x6050 12 = colors.toSpiBytes ∧
      ∀ address, address < 0x80000 → address ≠ 0x6012 → address ≠ 0x601B → ¬ (0x6020 ≤ address ∧ address < 0x6038) →
        ¬ (0x6050 ≤ address ∧ address < 0x605C) → (spiImage m colors)[address]? = some 0xFF) ∧
    (∀ (address : UInt32) (n k : Nat) (bytes : List UInt8), spiRead m colors address (n + k) = .ok bytes →
      ∃ first second, spiRead m colors address n = .ok first ∧
        spiRead m colors (address + UInt32.ofNat n) k = .ok second ∧ bytes = first ++ second) ∧
    ∀ (protocol : SwitchHidProtocol) (a0 a1 a2 a3 size : UInt8) (rest : List UInt8) (state : InputState m)
      (timer : UInt8) (session : ProtocolSession) (action : PreparedOutputAction), protocol.colors = colors →
      protocol.prepareSubcommand ⟨0x10, a0 :: a1 :: a2 :: a3 :: size :: rest⟩ state timer session = .ok action →
        window action.bytes 15 (5 + size.toNat) = [a0, a1, a2, a3, size] ++
          window (spiImage m colors) (spiReadAddress a0 a1 a2 a3).toNat size.toNat := by
  refine ⟨length_spiImage m colors, spiRead_ok_iff m colors, ?_, ?_, ?_⟩
  · refine ⟨spiImage_device m colors, spiImage_colorsExist m colors, spiImage_accelerometer m colors,
      spiImage_gyroscope m colors, spiImage_colors m colors, ?_⟩
    exact fun address h hdevice hexists hcalibration hcolors =>
      spiImage_erased m colors h hdevice hexists hcalibration hcolors
  · exact fun address n k bytes hread => spiRead_add hread
  · intro protocol a0 a1 a2 a3 size rest state timer session action hcolors haction
    rw [← hcolors]
    exact spi_reply_window haction

/-- A read over the device type splits. -/
theorem spi_reads_are_windows_sample : ∃ first second, spiRead .pro proSpec.protocol.defaultColors 0x6011 1 = .ok first ∧
    spiRead .pro proSpec.protocol.defaultColors (0x6011 + UInt32.ofNat 1) 2 = .ok second ∧
      [0xFF, 0x03, 0xFF] = first ++ second :=
  (spi_reads_are_windows .pro proSpec.protocol.defaultColors).2.2.2.1 0x6011 1 2 _ (by rfl)

/-! ## The subcommand protocol -/

/-- A little-endian address, as an integer. -/
def leAddress (payload : List UInt8) : Nat :=
  (payload.getD 0 0).toNat + 2 ^ 8 * (payload.getD 1 0).toNat + 2 ^ 16 * (payload.getD 2 0).toNat +
    2 ^ 24 * (payload.getD 3 0).toNat

/-- The subcommands and arguments that are answered. -/
def AcceptedSubcommand (id : UInt8) (payload : List UInt8) : Prop :=
  (id = 0x02 ∨ id = 0x04 ∨ id = 0x08 ∨ id = 0x21) ∨
  (id = 0x22 ∧ ∃ first, payload.head? = some first ∧ first ≤ 2) ∨
  (id = 0x10 ∧ 5 ≤ payload.length ∧ (payload.getD 4 0).toNat ≤ 29 ∧
    leAddress payload + (payload.getD 4 0).toNat ≤ 0x80000) ∨
  ((id = 0x03 ∨ id = 0x30) ∧ 1 ≤ payload.length) ∨
  (id = 0x40 ∧ ∃ first, payload.head? = some first ∧ first ≤ 5) ∨
  (id = 0x48 ∧ ∃ first, payload.head? = some first ∧ first ≤ 1)

theorem toNat_spiReadAddress (a0 a1 a2 a3 : UInt8) : (spiReadAddress a0 a1 a2 a3).toNat =
    a0.toNat + 2 ^ 8 * a1.toNat + 2 ^ 16 * a2.toNat + 2 ^ 24 * a3.toNat := by
  have h0 := a0.toNat_lt
  have h1 := a1.toNat_lt
  have h2 := a2.toNat_lt
  have h3 := a3.toNat_lt
  have hb1 : (a1.toUInt32 <<< 8).toNat = 2 ^ 8 * a1.toNat := by
    rw [UInt32.toNat_shiftLeft, UInt8.toNat_toUInt32, Nat.shiftLeft_eq]
    change a1.toNat * 2 ^ 8 % 2 ^ 32 = _
    omega
  have hb2 : (a2.toUInt32 <<< 16).toNat = 2 ^ 16 * a2.toNat := by
    rw [UInt32.toNat_shiftLeft, UInt8.toNat_toUInt32, Nat.shiftLeft_eq]
    change a2.toNat * 2 ^ 16 % 2 ^ 32 = _
    omega
  have hb3 : (a3.toUInt32 <<< 24).toNat = 2 ^ 24 * a3.toNat := by
    rw [UInt32.toNat_shiftLeft, UInt8.toNat_toUInt32, Nat.shiftLeft_eq]
    change a3.toNat * 2 ^ 24 % 2 ^ 32 = _
    omega
  unfold spiReadAddress
  rw [UInt32.toNat_or, UInt32.toNat_or, UInt32.toNat_or, hb1, hb2, hb3, UInt8.toNat_toUInt32, Nat.or_comm a0.toNat,
    ← Nat.two_pow_add_eq_or_of_lt (by omega), Nat.or_comm _ (2 ^ 16 * a2.toNat),
    ← Nat.two_pow_add_eq_or_of_lt (by omega), Nat.or_comm _ (2 ^ 24 * a3.toNat),
    ← Nat.two_pow_add_eq_or_of_lt (by omega)]
  omega

theorem fromWire_isSome (value : UInt8) : (ImuMode.fromWire value).isSome = true ↔ value ≤ 5 := by
  unfold ImuMode.fromWire
  split
  iterate 6 exact iff_of_true rfl (by decide)
  · rename_i h0 h1 h2 h3 h4 h5
    refine iff_of_false (by simp) ?_
    intro hle
    have hlt : value.toNat ≤ 5 := UInt8.le_iff_toNat_le.1 hle
    have hne : ∀ k : Nat, k < 256 → value ≠ UInt8.ofNat k → value.toNat ≠ k := by
      intro k hk hvalue hnat
      exact hvalue (UInt8.toNat_inj.1 (by rw [hnat, UInt8.toNat_ofNat_of_lt' hk]))
    have := hne 0 (by omega) h0
    have := hne 1 (by omega) h1
    have := hne 2 (by omega) h2
    have := hne 3 (by omega) h3
    have := hne 4 (by omega) h4
    have := hne 5 (by omega) h5
    omega

theorem le_one_iff (value : UInt8) : value ≤ 1 ↔ value = 0x00 ∨ value = 0x01 := by
  rw [UInt8.le_iff_toNat_le, ← UInt8.toNat_inj, ← UInt8.toNat_inj]
  change value.toNat ≤ 1 ↔ value.toNat = 0 ∨ value.toNat = 1
  omega

theorem supported_iff (request : SubcommandRequest) :
    request.Supported ↔ AcceptedSubcommand request.id request.payload := by
  obtain ⟨id, payload⟩ := request
  constructor
  · intro hsupported
    cases hsupported with
    | plain hid => exact .inl hid
    | mcuState hid harg hvalue => exact .inr (.inl ⟨hid, _, harg, hvalue⟩)
    | spiRead hid hpayload hsize hrange =>
      refine .inr (.inr (.inl ⟨hid, ?_⟩))
      rw [toNat_spiReadAddress] at hrange
      dsimp only at hpayload
      rw [hpayload]
      exact ⟨by simp, hsize, hrange⟩
    | stateful hid harg himu hvibration =>
      dsimp only at hid harg himu hvibration
      have hlength : 1 ≤ payload.length := by
        cases payload with
        | nil => cases harg
        | cons first rest => simp
      rcases hid with hid | hid | hid | hid
      · exact .inr (.inr (.inr (.inl ⟨.inl hid, hlength⟩)))
      · exact .inr (.inr (.inr (.inl ⟨.inr hid, hlength⟩)))
      · exact .inr (.inr (.inr (.inr (.inl ⟨hid, _, harg, (fromWire_isSome _).1 (himu hid)⟩))))
      · exact .inr (.inr (.inr (.inr (.inr ⟨hid, _, harg, (le_one_iff _).2 (hvibration hid)⟩))))
  · rintro (hid | ⟨hid, first, harg, hvalue⟩ | ⟨hid, hlength, hsize, hrange⟩ | ⟨hid, hlength⟩ | ⟨hid, first, harg, hvalue⟩ |
      ⟨hid, first, harg, hvalue⟩)
    · exact .plain hid
    · exact .mcuState hid harg hvalue
    · refine supported_spi hid hlength hsize ?_
      rw [SubcommandRequest.spiTarget, toNat_spiReadAddress]
      exact hrange
    · dsimp only at hid hlength
      obtain ⟨first, harg⟩ : ∃ first, payload.head? = some first := by
        cases payload with
        | nil => simp at hlength
        | cons first rest => exact ⟨first, rfl⟩
      refine .stateful (hid.elim .inl fun hlights => .inr (.inl hlights)) harg ?_ ?_ <;> rcases hid with hid | hid <;>
        simp [hid]
    · exact .stateful (.inr (.inr (.inl hid))) harg (fun _ => (fromWire_isSome _).2 hvalue) (by simp_all)
    · exact .stateful (.inr (.inr (.inr hid))) harg (by simp_all) (fun _ => (le_one_iff _).1 hvalue)

/-- How many payload bytes a subcommand looks at. -/
def argumentCount (id : UInt8) : Nat :=
  if id = 0x10 then 5
  else if id = 0x22 ∨ id = 0x03 ∨ id = 0x30 ∨ id = 0x40 ∨ id = 0x48 then 1
  else 0

theorem head?_take_argument {id : UInt8} (hid : id = 0x22 ∨ id = 0x03 ∨ id = 0x30 ∨ id = 0x40 ∨ id = 0x48)
    (payload : List UInt8) : (payload.take (argumentCount id)).head? = payload.head? := by
  have hcount : argumentCount id = 1 := by
    rcases hid with rfl | rfl | rfl | rfl | rfl <;> rfl
  rw [hcount]
  cases payload <;> rfl

/-- Only the arguments of a subcommand matter. -/
theorem prepareSubcommand_take (protocol : SwitchHidProtocol) (request : SubcommandRequest) (state : InputState m)
    (timer : UInt8) (session : ProtocolSession) :
    protocol.prepareSubcommand ⟨request.id, request.payload.take (argumentCount request.id)⟩ state timer session =
      protocol.prepareSubcommand request state timer session := by
  obtain ⟨id, payload⟩ := request
  have hstateless : tryPrepareStatelessReply ⟨id, payload.take (argumentCount id)⟩ state timer protocol.deviceInfoAddress =
      tryPrepareStatelessReply ⟨id, payload⟩ state timer protocol.deviceInfoAddress := by
    by_cases hmcu : id = 0x22
    · unfold tryPrepareStatelessReply
      dsimp only
      rw [head?_take_argument (.inl hmcu)]
    · unfold tryPrepareStatelessReply
      dsimp only
      split <;> first | rfl | exact absurd rfl hmcu
  have hspi : tryPrepareSpiReply ⟨id, payload.take (argumentCount id)⟩ state timer protocol.colors =
      tryPrepareSpiReply ⟨id, payload⟩ state timer protocol.colors := by
    by_cases hid : id = 0x10
    · subst hid
      match payload with
      | [] | [_] | [_, _] | [_, _, _] | [_, _, _, _] => rfl
      | a0 :: a1 :: a2 :: a3 :: size :: rest => rfl
    · exact (if_pos hid).trans (if_pos hid).symm
  have hstateful : tryPrepareStatefulReply ⟨id, payload.take (argumentCount id)⟩ state timer session =
      tryPrepareStatefulReply ⟨id, payload⟩ state timer session := by
    by_cases hid : id = 0x03 ∨ id = 0x30 ∨ id = 0x40 ∨ id = 0x48
    · unfold tryPrepareStatefulReply
      dsimp only
      rw [head?_take_argument (.inr hid)]
    · exact (if_neg hid).trans (if_neg hid).symm
  unfold SwitchHidProtocol.prepareSubcommand
  rw [hstateless, hspi, hstateful]

/-- The session that an answered subcommand leaves: one field changes, or none. -/
def sessionAfter (id first : UInt8) (session : ProtocolSession) : ProtocolSession :=
  match id with
  | 0x03 => { session with reportModeSelection := some (.fromRequested first) }
  | 0x30 => { session with playerLights := some first }
  | 0x40 => { session with imuMode := (ImuMode.fromWire first).getD session.imuMode, imuEncodingState := .default }
  | 0x48 => { session with vibrationEnabled := first == 1 }
  | _ => session

theorem requestedSession_eq {id first : UInt8} {session next : ProtocolSession}
    (hid : id = 0x03 ∨ id = 0x30 ∨ id = 0x40 ∨ id = 0x48) (hnext : requestedSession m id first session = .ok next) :
    next = sessionAfter id first session := by
  rcases hid with rfl | rfl | rfl | rfl
  · exact (Except.ok.inj hnext).symm
  · exact (Except.ok.inj hnext).symm
  · rw [requestedSession_imu_eq] at hnext
    cases hwire : ImuMode.fromWire first with
    | none =>
      rw [hwire] at hnext
      cases hnext
    | some mode =>
      rw [hwire] at hnext
      have hafter : sessionAfter 0x40 first session = { session with
          imuMode := (ImuMode.fromWire first).getD session.imuMode, imuEncodingState := .default } := rfl
      rw [hafter, hwire]
      exact (Except.ok.inj hnext).symm
  · rw [requestedSession_vibration] at hnext
    split at hnext
    · rename_i hfalse
      subst hfalse
      exact (Except.ok.inj hnext).symm
    · split at hnext
      · rename_i htrue
        subst htrue
        exact (Except.ok.inj hnext).symm
      · cases hnext

theorem nextSession_prepareSubcommand {protocol : SwitchHidProtocol} {request : SubcommandRequest}
    {state : InputState m} {timer : UInt8} {session : ProtocolSession} {action : PreparedOutputAction}
    (haction : protocol.prepareSubcommand request state timer session = .ok action) :
    action.nextSession session = sessionAfter request.id (request.payload.getD 0 0) session := by
  have houtcome := @prepareSubcommand_outcome m protocol request state timer session
  rw [haction] at houtcome
  cases houtcome with
  | plain _ hid =>
    unfold sessionAfter
    split <;> simp_all [PreparedOutputAction.nextSession]
  | stateful _ hid harg hnext =>
    rw [List.getD_eq_getElem?_getD, ← List.head?_eq_getElem?, harg]
    exact requestedSession_eq hid hnext

theorem length_replyData {protocol : SwitchHidProtocol} {request : SubcommandRequest} (hsupported : request.Supported) :
    (replyData m protocol request).2.length ≤ 35 := by
  obtain ⟨id, payload⟩ := request
  cases hsupported with
  | plain hid =>
    rcases hid with hid | hid | hid | hid <;> cases hid
    · exact deviceInfoData_length m protocol.address_length
    · change (elapsedTicks m).length ≤ 35
      cases m <;> decide
    · exact Nat.zero_le 35
    · change mcuConfigData.length ≤ 35
      decide
  | mcuState hid _ _ =>
    cases hid
    exact Nat.zero_le 35
  | @spiRead a0 a1 a2 a3 size rest hid hpayload hsize hrange =>
    cases hid
    cases hpayload
    have hmax : maxReadSize = 29 := rfl
    have hlength : (replyData m protocol ⟨0x10, a0 :: a1 :: a2 :: a3 :: size :: rest⟩).2.length = 5 + size.toNat := by
      change ([a0, a1, a2, a3, size] ++ window (spiImage m protocol.colors) _ size.toNat).length = _
      rw [List.length_append, length_window (by rw [length_spiImage]; exact hrange)]
      rfl
    exact hlength.le.trans (by omega)
  | stateful hid _ _ _ => rcases hid with hid | hid | hid | hid <;> cases hid <;> exact Nat.zero_le 35

/-- `parse_output_report`, then `prepare_subcommand`. -/
def answerReport (protocol : SwitchHidProtocol) (report : List UInt8) (state : InputState m) (timer : UInt8)
    (session : ProtocolSession) : Except ProtocolError (Option PreparedOutputAction) := do
  match ← parseOutputReport report with
  | .subcommand _ _ request => return some (← protocol.prepareSubcommand request state timer session)
  | .rumble _ _ => return none

theorem parseOutputReport_subcommand {report : List UInt8} (hhead : report.head? = some 0x01)
    (hlength : 11 ≤ report.length) : parseOutputReport report =
      .ok (.subcommand (report.getD 1 0) (copyRumble report) ⟨report.getD 10 0, report.drop 11⟩) := by
  obtain ⟨rest, rfl⟩ : ∃ rest, report = 0x01 :: rest := List.head?_eq_some_iff.1 hhead
  have hparse : parseOutputReport (0x01 :: rest) = parseSubcommandReport (0x01 :: rest) := rfl
  rw [hparse, parseSubcommandReport, requireLength, if_neg (by omega)]
  rfl

/-- A report that begins as a subcommand is answered as its subcommand is. -/
theorem answerReport_eq {protocol : SwitchHidProtocol} {report : List UInt8} {state : InputState m} {timer : UInt8}
    {session : ProtocolSession} (hhead : report.head? = some 0x01) (hlength : 11 ≤ report.length) :
    answerReport protocol report state timer session =
      some <$> protocol.prepareSubcommand ⟨report.getD 10 0, report.drop 11⟩ state timer session := by
  rw [answerReport, parseOutputReport_subcommand hhead hlength]
  change (protocol.prepareSubcommand ⟨report.getD 10 0, report.drop 11⟩ state timer session >>= _) = _
  cases protocol.prepareSubcommand ⟨report.getD 10 0, report.drop 11⟩ state timer session <;> rfl

/-- Other reports have no subcommand, and the parser's errors are its own. -/
theorem answerReport_other {protocol : SwitchHidProtocol} {report : List UInt8} {state : InputState m} {timer : UInt8}
    {session : ProtocolSession} (hother : ¬ (report.head? = some 0x01 ∧ 11 ≤ report.length)) :
    answerReport protocol report state timer session = .ok none ∨
      ∃ e, answerReport protocol report state timer session = .error e ∧
        (e = .outputReportEmpty ∨ (∃ id, e = .unsupportedOutputReport id) ∨
          ∃ id minimum actual, e = .truncatedOutputReport id minimum actual) := by
  unfold answerReport
  cases report with
  | nil => exact .inr ⟨_, rfl, .inl rfl⟩
  | cons reportId rest =>
    by_cases hsubcommand : reportId = 0x01
    · subst hsubcommand
      have hlength : (0x01 :: rest).length < 11 := by
        simp only [List.head?_cons, true_and] at hother
        omega
      have hparse : parseOutputReport (0x01 :: rest) = .error (.truncatedOutputReport 0x01 11 (0x01 :: rest).length) := by
        have hunfold : parseOutputReport (0x01 :: rest) = parseSubcommandReport (0x01 :: rest) := rfl
        rw [hunfold, parseSubcommandReport, requireLength, if_pos hlength]
        rfl
      rw [hparse]
      exact .inr ⟨_, rfl, .inr (.inr ⟨_, _, _, rfl⟩)⟩
    by_cases hrumble : reportId = 0x10
    · subst hrumble
      have hunfold : parseOutputReport (0x10 :: rest) = parseRumbleReport (0x10 :: rest) := rfl
      rw [hunfold, parseRumbleReport, requireLength]
      split
      · exact .inr ⟨_, rfl, .inr (.inr ⟨_, _, _, rfl⟩)⟩
      · exact .inl rfl
    · have hparse : parseOutputReport (reportId :: rest) = .error (.unsupportedOutputReport reportId) :=
        (if_neg hsubcommand).trans (if_neg hrumble)
      rw [hparse]
      exact .inr ⟨_, rfl, .inr (.inl ⟨_, rfl⟩)⟩

/-- Exactly the accepted subcommand reports are answered. A reply has 50 bytes:
its id and timer, the head of an input report of the same state, the
acknowledgement, the subcommand, its data and zeros. Bytes beyond the
subcommand's arguments change nothing, the session changes in the subcommand's
own field, and two of the errors are never returned. -/
theorem subcommand_protocol (protocol : SwitchHidProtocol) (report : List UInt8) (state : InputState m) (timer : UInt8)
    (session : ProtocolSession) :
    ((∃ action, answerReport protocol report state timer session = .ok (some action)) ↔
      report.head? = some 0x01 ∧ 11 ≤ report.length ∧ AcceptedSubcommand (report.getD 10 0) (report.drop 11)) ∧
    (∀ action, answerReport protocol report state timer session = .ok (some action) →
      (∃ ack data, (ack, data) = replyData m protocol ⟨report.getD 10 0, report.drop 11⟩ ∧ data.length ≤ 35 ∧
        ∀ block, action.bytes = [0x21, timer] ++ window (encode0x30 state timer block).bytes 2 11 ++
          [ack, report.getD 10 0] ++ data ++ zeros (35 - data.length)) ∧
      action.bytes.length = 50 ∧ action.nextTimer = timer + 1 ∧
      action.nextSession session = sessionAfter (report.getD 10 0) (report.getD 11 0) session) ∧
    (∀ report', report'.head? = some 0x01 → report.head? = some 0x01 → 11 ≤ report.length → 11 ≤ report'.length →
      report'.getD 10 0 = report.getD 10 0 →
        window report' 11 (argumentCount (report.getD 10 0)) = window report 11 (argumentCount (report.getD 10 0)) →
          answerReport protocol report' state timer session = answerReport protocol report state timer session) ∧
    ∀ e, answerReport protocol report state timer session = .error e →
      (∀ size maximum, e ≠ .subcommandReplyDataTooLarge size maximum) ∧
        ∀ button, e ≠ .unsupportedTriggerElapsedButton button := by
  by_cases hsubcommand : report.head? = some 0x01 ∧ 11 ≤ report.length
  · obtain ⟨hhead, hlength⟩ := hsubcommand
    have hanswer := @answerReport_eq m protocol report state timer session hhead hlength
    refine ⟨?_, ?_, ?_, ?_⟩
    · rw [hanswer, ← supported_iff ⟨report.getD 10 0, report.drop 11⟩, ← @prepareSubcommand_ok_iff m protocol _
        state timer session]
      constructor
      · rintro ⟨action, haction⟩
        obtain ⟨prepared, hprepared, -⟩ := ok_of_map haction
        exact ⟨hhead, hlength, prepared, hprepared⟩
      · rintro ⟨-, -, action, haction⟩
        rw [haction]
        exact ⟨action, rfl⟩
    · -- The reply and the session after it.
      intro action haction
      rw [hanswer] at haction
      obtain ⟨prepared, hprepared, heq⟩ := ok_of_map haction
      cases heq
      obtain ⟨hbytes, htimer⟩ := bytes_prepareSubcommand hprepared
      have hdata : (replyData m protocol ⟨report.getD 10 0, report.drop 11⟩).2.length ≤ 35 :=
        length_replyData ((prepareSubcommand_ok_iff state timer session).1 ⟨action, hprepared⟩)
      refine ⟨⟨_, _, rfl, hdata, ?_⟩, ?_, htimer, ?_⟩
      · intro block
        rw [inputBytes_eq]
        exact hbytes
      · rw [hbytes]
        exact length_replyBytes state timer _ _ hdata
      · have hfirst : (report.drop 11).getD 0 0 = report.getD 11 0 := by
          rw [List.getD_eq_getElem?_getD, List.getElem?_drop, List.getD_eq_getElem?_getD]
        rw [nextSession_prepareSubcommand hprepared, ← hfirst]
    · -- Bytes after the arguments.
      intro report' hhead' _ _ hlength' hid hargs
      rw [hanswer, answerReport_eq hhead' hlength', ← prepareSubcommand_take,
        ← prepareSubcommand_take protocol ⟨report.getD 10 0, report.drop 11⟩, hid]
      exact congrArg (fun payload => some <$> protocol.prepareSubcommand ⟨report.getD 10 0, payload⟩ state timer session)
        hargs
    · -- Errors.
      intro e herror
      have houtcome := @prepareSubcommand_outcome m protocol ⟨report.getD 10 0, report.drop 11⟩ state timer session
      cases hprepared : protocol.prepareSubcommand ⟨report.getD 10 0, report.drop 11⟩ state timer session with
      | ok action =>
        rw [hanswer, hprepared] at herror
        cases herror
      | error e' =>
        rw [hanswer, hprepared] at herror
        cases herror
        rw [hprepared] at houtcome
        cases houtcome with
        | refused hrefusal =>
          refine ⟨?_, ?_⟩
          · rintro size maximum rfl
            cases hrefusal
          · rintro button rfl
            cases hrefusal
  · obtain hnone | ⟨e, herror, hreason⟩ := @answerReport_other m protocol report state timer session hsubcommand
    · rw [hnone]
      refine ⟨iff_of_false (by simp) fun h => hsubcommand ⟨h.1, h.2.1⟩, by simp, ?_, by simp⟩
      exact fun _ _ hhead hlength _ _ _ => absurd ⟨hhead, hlength⟩ hsubcommand
    · rw [herror]
      refine ⟨iff_of_false (by simp) fun h => hsubcommand ⟨h.1, h.2.1⟩, by simp, ?_, ?_⟩
      · exact fun _ _ hhead hlength _ _ _ => absurd ⟨hhead, hlength⟩ hsubcommand
      · intro e' he'
        cases he'
        rcases hreason with rfl | ⟨id, rfl⟩ | ⟨id, minimum, actual, rfl⟩ <;> exact ⟨by simp, by simp⟩

/-- A report of subcommand 0x03 asks for report mode 0x30. -/
theorem subcommand_protocol_sample :
    ∃ action, answerReport ⟨proSpec.protocol.defaultColors, zeros 6, rfl⟩ ([0x01] ++ zeros 9 ++ [0x03, 0x30])
      (InputState.neutral : InputState .pro) 0 .default = .ok (some action) :=
  (subcommand_protocol _ _ _ _ _).1.2 ⟨rfl, by decide, .inr (.inr (.inr (.inl ⟨.inl rfl, by decide⟩)))⟩

end Swbt
