import Swbt.Runtime.Periodic
/-!
# Handshake and readiness

The handshake sends neutral bootstrap reports once the link and both channels
are up, until its completion condition holds. The readiness gate then waits
for the protocol and, in periodic mode, for the reply holdoff.

Both live outside the frame while a connection is driven, so their functions
take them and give them back.
-/

set_option autoImplicit false

open Effects

namespace Swbt

variable {m : ControllerKind} {r : ReportingKind}

/-- One second. -/
def bootstrapRetry : Duration := ⟨1000000000, by decide⟩

def HandshakeCompletionCondition.isSatisfied (condition : HandshakeCompletionCondition)
    (observed : ObservedSubcommands) (protocolReady : Bool) : Bool :=
  match condition with
  | .firstSubcommand => !observed.isEmpty
  | .protocolReady => protocolReady

inductive HandshakeProgress
  | staleSession
  | waitingForTopology
  | waitingUntil (deadline : Duration)
  | bootstrapAttempted (result : TransportResult Unit) (skipped : UInt64)
  | subcommandObserved

namespace Handshake

def withCompletionCondition (sessionId : ConnectionSessionId) (condition : HandshakeCompletionCondition) :
    Handshake where
  sessionId := sessionId
  completionCondition := condition
  linkObserved := false
  controlObserved := false
  interruptObserved := false
  retry := none
  bootstrapAccepted := false
  bootstrapStopped := false

def new (sessionId : ConnectionSessionId) : Handshake := withCompletionCondition sessionId .firstSubcommand

def untilProtocolReady (sessionId : ConnectionSessionId) : Handshake :=
  withCompletionCondition sessionId .protocolReady

def observeLink (handshake : Handshake) (sessionId : ConnectionSessionId) : Handshake :=
  if sessionId = handshake.sessionId then { handshake with linkObserved := true } else handshake

def observeChannel (handshake : Handshake) (sessionId : ConnectionSessionId) (channel : HidChannel) : Handshake :=
  if sessionId ≠ handshake.sessionId then handshake
  else match channel with
    | .control => { handshake with controlObserved := true }
    | .interrupt => { handshake with interruptObserved := true }

def topologyReady (handshake : Handshake) : Bool :=
  handshake.linkObserved && handshake.controlObserved && handshake.interruptObserved

def completion (handshake : Handshake) : Option HandshakeCompletion :=
  if handshake.bootstrapStopped then some ⟨handshake.sessionId⟩ else none

def nextDeadline (handshake : Handshake) : Option Duration :=
  if handshake.bootstrapStopped then none else handshake.retry.map ReportScheduler.nextDeadline

def stopBootstrap (handshake : Handshake) : Handshake := { handshake with retry := none, bootstrapStopped := true }

def recordBootstrapAttempt (handshake : Handshake) (observed : ObservedSubcommands) (protocolReady : Bool)
    (result : TransportResult Unit) : Handshake :=
  match result with
  | .error _ => handshake
  | .ok () =>
    let accepted := { handshake with bootstrapAccepted := true }
    if handshake.completionCondition.isSatisfied observed protocolReady then accepted.stopBootstrap else accepted

def sendBootstrap (nowNs : UInt64) : Worker m r (TransportResult Unit) :=
  ReportSender.sendInput .neutral nowNs

/-- One attempt, sent once the retry schedule is set. -/
def attempt (handshake : Handshake) (now : Duration) (skipped : UInt64) :
    Worker m r (Except HandshakeError HandshakeProgress × Handshake) := do
  let result ← sendBootstrap (protocolTimestamp now)
  let s ← frame
  let recorded := handshake.recordBootstrapAttempt s.observed s.sender.committed.session.protocolReady result
  return (.ok (.bootstrapAttempted result skipped), recorded)

def step (handshake : Handshake) (sessionId : ConnectionSessionId) (now : Duration) :
    Worker m r (Except HandshakeError HandshakeProgress × Handshake) := do
  let s ← frame
  if sessionId ≠ handshake.sessionId then return (.ok .staleSession, handshake)
  if handshake.bootstrapStopped then return (.ok .subcommandObserved, handshake)
  if !handshake.topologyReady then return (.ok .waitingForTopology, handshake)
  if handshake.bootstrapAccepted &&
      handshake.completionCondition.isSatisfied s.observed s.sender.committed.session.protocolReady then
    return (.ok .subcommandObserved, handshake.stopBootstrap)
  match handshake.retry with
  | none =>
    match ReportScheduler.start now bootstrapRetry with
    | .error error => return (.error (.scheduler error), handshake)
    | .ok scheduler => attempt { handshake with retry := some scheduler } now 0
  | some scheduler =>
    if now < scheduler.nextDeadline then return (.ok (.waitingUntil scheduler.nextDeadline), handshake)
    match scheduler.step now with
    | .error error => return (.error (.scheduler error), handshake)
    | .ok (.notDue, scheduler) =>
      return (.ok (.waitingUntil scheduler.nextDeadline), { handshake with retry := some scheduler })
    | .ok (.due skipped, scheduler) => attempt { handshake with retry := some scheduler } now skipped

end Handshake

/-! ## Readiness -/

inductive ReadinessWait
  | handshake
  | protocol
  | periodicHoldoff (until_ : Duration)

inductive ReadinessProgress
  | pending (wait : ReadinessWait)
  | ready (sessionId : ConnectionSessionId)

/-- The outcome of an evaluation, with the gate and the handshake after it. -/
structure Evaluation where
  result : Except ReadinessError ReadinessProgress
  readiness : ReadinessGate
  handshake : Option Handshake

namespace ReadinessGate

def new (sessionId : ConnectionSessionId) (operationDeadline : Duration) : ReadinessGate :=
  ⟨sessionId, operationDeadline, none⟩

def ensureCurrent (gate : ReadinessGate) (sessions : ConnectionSessions) : Except ReadinessError Unit :=
  if sessions.current = some gate.sessionId then .ok ()
  else .error (.staleSession gate.sessionId sessions.current)

def ensureBeforeTimeout (gate : ReadinessGate) (now : Duration) : Except ReadinessError Unit :=
  if now < gate.operationDeadline then .ok () else .error .timedOut

def ensureActive (gate : ReadinessGate) (now : Duration) (sessions : ConnectionSessions) :
    Except ReadinessError Unit := do
  gate.ensureCurrent sessions
  gate.ensureBeforeTimeout now

/-- Whether the handshake is collected, with the gate and the handshake after. -/
def collectHandshake (gate : ReadinessGate) (handshake : Option Handshake) :
    Except ReadinessError (Bool × ReadinessGate × Option Handshake) :=
  if gate.handshake.isSome then .ok (true, gate, handshake)
  else match handshake.bind Handshake.completion with
    | none => .ok (false, gate, handshake)
    | some completion =>
      if completion.sessionId ≠ gate.sessionId then
        .error (.handshakeSessionMismatch gate.sessionId completion.sessionId)
      else .ok (true, { gate with handshake := some completion }, none)

def takeReadySession (gate : ReadinessGate) : Worker m r (ConnectionSessionId × ReadinessGate) := do
  match gate.handshake with
  | some completion => return (completion.sessionId, { gate with handshake := none })
  | none =>
    panicked .readinessBeforeHandshake
    return (gate.sessionId, gate)

def evaluateDirect (gate : ReadinessGate) (now : Duration) (handshake : Option Handshake) :
    Worker m .direct Evaluation := do
  let s ← frame
  match gate.ensureActive now s.sessions with
  | .error error => return ⟨.error error, gate, handshake⟩
  | .ok () =>
    match gate.collectHandshake handshake with
    | .error error => return ⟨.error error, gate, handshake⟩
    | .ok (false, gate, handshake) => return ⟨.ok (.pending .handshake), gate, handshake⟩
    | .ok (true, gate, handshake) =>
      if !s.sender.committed.session.protocolReady then return ⟨.ok (.pending .protocol), gate, handshake⟩
      let (ready, gate) ← gate.takeReadySession
      return ⟨.ok (.ready ready), gate, handshake⟩

/-- The start of the automatic schedule, once the host has asked for mode 0x30. -/
def startReporting (now : Duration) : Worker m .periodic (Except SchedulerError (Option PeriodicStart)) := do
  let s ← frame
  if s.sender.committed.session.reportMode = some 0x30 then
    match s.periodic.policy.startWhenUnheld now with
    | .error error => return .error error
    | .ok (start, policy) =>
      update fun s => s.withPolicy policy
      return .ok (some start)
  else return .ok none

def evaluatePeriodic (gate : ReadinessGate) (now : Duration) (handshake : Option Handshake) :
    Worker m .periodic Evaluation := do
  let s ← frame
  match gate.ensureActive now s.sessions with
  | .error error => return ⟨.error error, gate, handshake⟩
  | .ok () =>
    match gate.collectHandshake handshake with
    | .error error => return ⟨.error error, gate, handshake⟩
    | .ok (false, gate, handshake) => return ⟨.ok (.pending .handshake), gate, handshake⟩
    | .ok (true, gate, handshake) =>
      match ← startReporting now with
      | .error error => return ⟨.error (.scheduler error), gate, handshake⟩
      | .ok reporting =>
        if !s.sender.committed.session.protocolReady then return ⟨.ok (.pending .protocol), gate, handshake⟩
        match reporting with
        | some (.heldOff until_) => return ⟨.ok (.pending (.periodicHoldoff until_)), gate, handshake⟩
        | some (.started _) =>
          let (ready, gate) ← gate.takeReadySession
          return ⟨.ok (.ready ready), gate, handshake⟩
        | none =>
          panicked .protocolReadyWithoutReportMode
          return ⟨.ok (.pending .protocol), gate, handshake⟩

end ReadinessGate

end Swbt
