import Swbt.Runtime.Core
/-!
# Sending reports and answering output reports

Every send is prepared from the committed timer and protocol session, and
commits its candidate only once the transport has accepted the bytes.
-/

set_option autoImplicit false

open Effects

namespace Swbt

variable {m : ControllerKind} {r : ReportingKind}

/-! ## The input store -/

namespace InputStateStore

def snapshot : Worker m r (InputState m) := do return (← frame).input

def commit (next : InputState m) : Worker m r Unit := do
  update fun s => { s with input := next }
  status (.setSnapshot (← frame).input)

def resetToNeutral : Worker m r Unit := do
  update fun s => { s with input := .neutral }
  status (.setSnapshot (← frame).input)

end InputStateStore

/-! ## The report sender -/

/-- `u64::saturating_add(1)`. -/
def saturatingSucc (n : UInt64) : UInt64 := if n + 1 = 0 then n else n + 1

namespace ReportSender

def publishStatus : Worker m r Unit := do
  let sender := (← frame).sender
  status (.setSenderState sender.committed.session.reportMode sender.committed.session.imuMode.code
    sender.inputReportsAccepted sender.repliesAccepted)

def resetForNewSession : Worker m r Unit := do
  update fun s => { s with sender := { s.sender with committed := .default } }
  publishStatus

def prepareReply (sender : ReportSender) (protocol : SwitchHidProtocol) (request : SubcommandRequest)
    (current : InputState m) : Except ProtocolError PreparedOutputAction :=
  if sender.committed.session.protocolReady then
    protocol.prepareSubcommand request current sender.committed.nextTimer sender.committed.session
  else
    protocol.prepareSubcommand request (InputState.neutral : InputState m) sender.committed.nextTimer
      sender.committed.session

/-- The sender once the transport has accepted `bytes`. -/
def accept (sender : ReportSender) (bytes : List UInt8) (candidate : SenderCommit) : ReportSender where
  committed := candidate
  inputReportsAccepted :=
    if bytes.head? = some 0x30 then saturatingSucc sender.inputReportsAccepted else sender.inputReportsAccepted
  repliesAccepted := if bytes.head? = some 0x21 then saturatingSucc sender.repliesAccepted else sender.repliesAccepted

def sendCandidate (bytes : List UInt8) (candidate : SenderCommit) : Worker m r (TransportResult Unit) := do
  match ← sendInterrupt bytes with
  | .error error => return .error error
  | .ok () =>
    update fun s => { s with sender := s.sender.accept bytes candidate }
    publishStatus
    return .ok ()

/-- The bytes of an input report of `state` and what their acceptance commits. -/
def inputCandidate (sender : ReportSender) (state : InputState m) (nowNs : UInt64) : List UInt8 × SenderCommit :=
  let prepared := prepareInputReport state sender.committed.nextTimer sender.committed.session nowNs
  (prepared.report.bytes,
    ⟨prepared.report.nextTimer, sender.committed.session.withImuEncodingState prepared.nextImuEncodingState⟩)

def sendInput (state : InputState m) (nowNs : UInt64) : Worker m r (TransportResult Unit) := do
  let prepared := (← frame).sender.inputCandidate state nowNs
  sendCandidate prepared.1 prepared.2

/-- What acceptance of a reply commits. -/
def replyCandidate (sender : ReportSender) : PreparedOutputAction → SenderCommit
  | .reply reply => ⟨reply.nextTimer, sender.committed.session⟩
  | .sessionReply reply => ⟨reply.reply.nextTimer, reply.nextSession⟩

def sendReply (prepared : PreparedOutputAction) : Worker m r (TransportResult Unit) := do
  sendCandidate prepared.bytes ((← frame).sender.replyCandidate prepared)

end ReportSender

/-! ## Output reports -/

inductive OutputHandling
  | rumbleOnly | replyAccepted

def handleOutput (channel : HidChannel) (raw : List UInt8) (current : InputState m) :
    Worker m r (Except OutputHandlingError OutputHandling) := do
  match parseOutputReport raw with
  | .error error => return .error (.protocol error)
  | .ok output =>
    observeOutput ⟨channel, output.reportId, output.packetId, output.rumbleBytes⟩
    match output with
    | .rumble _ _ => return .ok .rumbleOnly
    | .subcommand _ _ request =>
      update fun s => { s with observed := s.observed.observe request.id }
      if let some id := (← frame).observed.last then
        status (.recordSubcommand id)
      let s ← frame
      match s.sender.prepareReply s.protocol request current with
      | .error error => return .error (.protocol error)
      | .ok prepared =>
        match ← ReportSender.sendReply prepared with
        | .error error => return .error (.transport error)
        | .ok () => return .ok .replyAccepted

end Swbt
