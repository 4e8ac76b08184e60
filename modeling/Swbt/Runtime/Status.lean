import Swbt.Runtime.Wire
/-!
# The status projection

What a controller publishes of its workers. All workers of one controller
share one `StatusPublisher`, and the projection outlives each of them.
-/

set_option autoImplicit false

open Effects

namespace Swbt

variable {m : ControllerKind} {r : ReportingKind}

/-! ## Diagnostic events -/

structure DiagnosticContext where
  controllerKind : ControllerKind
  reportingKind : ReportingKind
  sessionId : ConnectionSessionId
deriving DecidableEq

/-- The events a worker can cause. -/
inductive DiagnosticEvent
  | sessionStarted (context : DiagnosticContext)
  | lifecycleChanged (context : DiagnosticContext) (lifecycle : LifecycleState)
  | subcommandObserved (context : DiagnosticContext) (subcommandId : UInt8)
  | reportTxAccepted (context : DiagnosticContext) (reportMode : Option UInt8) (imuMode : UInt8)
      (inputReportsAccepted : UInt64)
  | replyTxAccepted (context : DiagnosticContext) (reportMode : Option UInt8) (imuMode : UInt8)
      (repliesAccepted : UInt64)
  | sessionEnded (context : DiagnosticContext) (lifecycle : LifecycleState) (disconnectReason : Option UInt8)
  | workerFailed (context : DiagnosticContext) (failureCategory : WorkerFailureCategory)
deriving DecidableEq

/-! ## The projection -/

structure ProjectionState (m : ControllerKind) where
  lifecycle : LifecycleState
  connected : Bool
  sessionId : Option ConnectionSessionId
  reportMode : Option UInt8
  inputReportsAccepted : UInt64
  repliesAccepted : UInt64
  lastSubcommand : Option UInt8
  lastDisconnectReason : Option UInt8
  workerFailure : Option String
  snapshot : InputState m

def ProjectionState.configured : ProjectionState m :=
  ⟨.configured, false, none, none, 0, 0, none, none, none, .neutral⟩

/-- The projection with what its emitter was given, the earliest event first.
`panicked` marks that a context was expected where no session was. -/
structure StatusPublisher (m : ControllerKind) (r : ReportingKind) extends ProjectionState m where
  emitted : List DiagnosticEvent
  panicked : Bool

namespace StatusPublisher

/-- `status_projection`. -/
def new : StatusPublisher m r := ⟨.configured, [], false⟩

def context (p : StatusPublisher m r) : Option DiagnosticContext := p.sessionId.map fun id => ⟨m, r, id⟩

def emit (p : StatusPublisher m r) (events : List DiagnosticEvent) : StatusPublisher m r :=
  { p with emitted := p.emitted ++ events }

/-- An event of the current session, and nothing without one. -/
def inContext (p : StatusPublisher m r) (event : DiagnosticContext → DiagnosticEvent) : List DiagnosticEvent :=
  (p.context.map event).toList

def setLifecycle (p : StatusPublisher m r) (lifecycle : LifecycleState) : StatusPublisher m r :=
  if p.lifecycle = lifecycle then p
  else { p with lifecycle }.emit (p.inContext fun context => .lifecycleChanged context lifecycle)

def beginSession (p : StatusPublisher m r) (sessionId : ConnectionSessionId) (lifecycle : LifecycleState)
    (snapshot : InputState m) : StatusPublisher m r :=
  { p with
    lifecycle, snapshot
    connected := false
    sessionId := some sessionId
    reportMode := none
    lastSubcommand := none
    lastDisconnectReason := none
    workerFailure := none }.emit
      [.sessionStarted ⟨m, r, sessionId⟩, .lifecycleChanged ⟨m, r, sessionId⟩ lifecycle]

def setConnected (p : StatusPublisher m r) (connected : Bool) : StatusPublisher m r := { p with connected }

def setSnapshot (p : StatusPublisher m r) (snapshot : InputState m) : StatusPublisher m r := { p with snapshot }

/-- What `set_sender_state` emits in a session: one event for each counter that has grown. -/
def senderEvents (p : StatusPublisher m r) (context : DiagnosticContext) (reportMode : Option UInt8)
    (imuMode : UInt8) (inputReportsAccepted repliesAccepted : UInt64) : List DiagnosticEvent :=
  (if p.inputReportsAccepted < inputReportsAccepted then
    [.reportTxAccepted context reportMode imuMode inputReportsAccepted] else []) ++
  if p.repliesAccepted < repliesAccepted then [.replyTxAccepted context reportMode imuMode repliesAccepted] else []

def setSenderState (p : StatusPublisher m r) (reportMode : Option UInt8) (imuMode : UInt8)
    (inputReportsAccepted repliesAccepted : UInt64) : StatusPublisher m r :=
  let next := { p with reportMode, inputReportsAccepted, repliesAccepted }
  match p.context with
  | some context => next.emit (p.senderEvents context reportMode imuMode inputReportsAccepted repliesAccepted)
  | none =>
    -- The `expect` of an event panics without a context, but is only reached if its counter has grown.
    let grown := decide (p.inputReportsAccepted < inputReportsAccepted) || decide (p.repliesAccepted < repliesAccepted)
    { next with panicked := p.panicked || grown }

def recordSubcommand (p : StatusPublisher m r) (id : UInt8) : StatusPublisher m r :=
  { p with lastSubcommand := some id }.emit (p.inContext fun context => .subcommandObserved context id)

def endSession (p : StatusPublisher m r) (lifecycle : LifecycleState) (disconnectReason : Option UInt8) :
    StatusPublisher m r :=
  { p with
    lifecycle
    connected := false
    sessionId := none
    reportMode := none
    lastDisconnectReason := disconnectReason }.emit
      (p.inContext fun context => .sessionEnded context lifecycle disconnectReason)

def close (p : StatusPublisher m r) (lifecycle : LifecycleState) : StatusPublisher m r :=
  { p with
    lifecycle
    connected := false
    sessionId := none
    reportMode := none }.emit (p.inContext fun context => .sessionEnded context lifecycle none)

/-- Only the first failure since a session began is published. -/
def fail (p : StatusPublisher m r) (message : String) (category : WorkerFailureCategory) : StatusPublisher m r :=
  if p.workerFailure.isSome then p
  else { p with
    lifecycle := .failed
    connected := false
    sessionId := none
    reportMode := none
    workerFailure := some message }.emit (match p.context with
      | some context => [.workerFailed context category, .lifecycleChanged context .failed,
          .sessionEnded context .failed none]
      | none => [])

/-- One call of a worker. -/
def receive (p : StatusPublisher m r) : StatusCall m → StatusPublisher m r
  | .setLifecycle lifecycle => p.setLifecycle lifecycle
  | .beginSession sessionId lifecycle snapshot => p.beginSession sessionId lifecycle snapshot
  | .setConnected connected => p.setConnected connected
  | .setSnapshot snapshot => p.setSnapshot snapshot
  | .setSenderState reportMode imuMode inputReportsAccepted repliesAccepted =>
    p.setSenderState reportMode imuMode inputReportsAccepted repliesAccepted
  | .recordSubcommand id => p.recordSubcommand id
  | .endSession lifecycle disconnectReason => p.endSession lifecycle disconnectReason
  | .close lifecycle => p.close lifecycle
  | .fail message category => p.fail message category

end StatusPublisher

/-- The projection after what a worker has called on it since it was `p`. -/
def Log.published (p : StatusPublisher m r) : Log m r → StatusPublisher m r
  | [] => p
  | e :: h => match statusOf e with
    | some call => (published p h).receive call
    | none => published p h

theorem Log.published_silent {e : LogEvent m r} (hstatus : statusOf e = none) (p : StatusPublisher m r) (h : Log m r) :
    Log.published p (e :: h) = h.published p := by
  rw [published, hstatus]

end Swbt
