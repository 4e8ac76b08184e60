import Swbt.Runtime.Direct
import Swbt.Runtime.Handshake
/-!
# The two reporting modes

`WorkerReporting` for `Periodic` and `Direct`: what each mode does at the
start of a session, with a command, an event, a due time and a shutdown.
-/

set_option autoImplicit false

open Effects

namespace Swbt

variable {m : ControllerKind} {r : ReportingKind}

inductive WorkerCommandProgress
  | complete (result : CommandResult)
  | pending

inductive ReportingEvent
  | passthrough (event : TransportEvent)
  | output (completion : Except OutputHandlingError OutputHandling)
  | disconnected (reason : Option UInt8) (completion : Option WorkerCommandError)

structure ReportingDue where
  actions : Nat
  immediate : Bool
  completion : Option WorkerCommandProgress
  errors : List WorkerOperationError

def ReportingDue.none : ReportingDue := ⟨0, false, .none, []⟩

/-! ## Sessions -/

namespace ConnectionSessions

def commit (next : ConnectionSessionId) : Worker m r Unit := do
  ReportSender.resetForNewSession
  update fun s => { s with observed := .default }
  InputStateStore.resetToNeutral
  update fun s => { s with sessions := .issue next }

def beginPeriodic : Worker m .periodic ConnectionSessionId := do
  let next := (← frame).sessions.prepareNext
  update fun s => s.withPolicy s.periodic.policy.resetForNewSession
  commit next
  return next

def beginDirect : Worker m .direct ConnectionSessionId := do
  let next := (← frame).sessions.prepareNext
  commit next
  return next

end ConnectionSessions

/-! ## Periodic -/

def completeInputCandidate (candidate : Except Error (InputState m)) : Worker m r WorkerCommandProgress := do
  match candidate with
  | .ok candidate =>
    InputStateStore.commit candidate
    return .complete (.ok ())
  | .error error => return .complete (.error (.input error))

namespace Periodic

def handleCommand (command : PeriodicCommand m) (ready : Bool) (now : Duration) :
    Worker m .periodic WorkerCommandProgress := do
  match command with
  | .apply candidate =>
    InputStateStore.commit candidate
    return .complete (.ok ())
  | .common (.press buttons) => completeInputCandidate (pressCandidate (← InputStateStore.snapshot) buttons)
  | .common (.release buttons) => completeInputCandidate (releaseCandidate (← InputStateStore.snapshot) buttons)
  | .common .neutral =>
    InputStateStore.commit .neutral
    return .complete (.ok ())
  | .common (.tap buttons duration) =>
    match tapPlan (← InputStateStore.snapshot) buttons duration with
    | .error error => return .complete (.error (.input error))
    | .ok plan =>
      let releaseAt := deadlineAfter now plan.duration
      match ← beginTap ready plan (protocolTimestamp now) with
      | .ok tap =>
        update fun s => s.withPeriodic { s.periodic with pendingTap := some ⟨tap, releaseAt⟩ }
        return .pending
      | .error error => return .complete (.error (.periodic error))

def handleEvent (event : TransportEvent) : Worker m .periodic ReportingEvent := do
  match event with
  | .disconnected reason =>
    let pendingTap := (← frame).periodic.pendingTap
    update fun s => s.withPeriodic { s.periodic with pendingTap := none }
    return .disconnected reason (pendingTap.map fun _ => .disconnected)
  | event => return .passthrough event

def recordOutput (completedAt : Duration) (completion : Except OutputHandlingError OutputHandling) :
    Worker m .periodic (Except WorkerOperationError Unit) := do
  match (← frame).periodic.policy.recordOutputCompletion completedAt completion with
  | .error error => return .error (.periodic error)
  | .ok policy =>
    update fun s => s.withPolicy policy
    return .ok ()

def nextDeadline (runtime : PeriodicRuntime m) : Option Duration :=
  let reporting := runtime.policy.nextDeadline <|> runtime.policy.replyHoldoffUntil
  minimumDeadline reporting (runtime.pendingTap.map ScheduledPeriodicTap.releaseAt)

/-- The release of a tap whose time has come. -/
def runRelease (pending : ScheduledPeriodicTap m) (now : Duration) : Worker m .periodic ReportingDue := do
  update fun s => s.withPeriodic { s.periodic with pendingTap := none }
  let completion : CommandResult ← do
    match ← finish pending.tap (protocolTimestamp now) with
    | .ok () => pure (.ok ())
    | .error error => pure (.error (.periodic error))
  -- `due.immediate` is already set, so the check of an automatic deadline that follows changes nothing.
  return ⟨1, true, some (.complete completion), []⟩

def runAutomatic (now : Duration) : Worker m .periodic ReportingDue := do
  match ← PeriodicPolicy.sendDue now with
  | .ok (.sent _) => return ⟨1, false, none, []⟩
  | .ok .notDue | .ok (.heldOff _) | .ok (.backpressured _) => return .none
  | .error error => return ⟨1, false, none, [.periodic error]⟩

def runDue (now : Duration) : Worker m .periodic ReportingDue := do
  let pendingTap := (← frame).periodic.pendingTap
  if pendingTap.any fun pending => now ≥ pending.releaseAt then
    match pendingTap with
    | some pending => runRelease pending now
    | none =>
      panicked .uncheckedPeriodicTap
      return .none
  else runAutomatic now

def cancelForShutdown : Worker m .periodic (Option WorkerCommandError) := do
  let pendingTap := (← frame).periodic.pendingTap
  update fun s => s.withPeriodic { s.periodic with pendingTap := none }
  return pendingTap.map fun _ => .shutdown

end Periodic

/-! ## Direct -/

namespace Direct

def completeSend (candidate : InputState m) (ready : Bool) (now : Duration) :
    Worker m .direct WorkerCommandProgress := do
  if !ready then return .complete (.error (.direct .notReady))
  match ← sendCandidate candidate (protocolTimestamp now) with
  | .ok () => return .complete (.ok ())
  | .error error => return .complete (.error (.direct (.transport error)))

def completeCandidate (candidate : Except Error (InputState m)) (ready : Bool) (now : Duration) :
    Worker m .direct WorkerCommandProgress := do
  match candidate with
  | .ok candidate => completeSend candidate ready now
  | .error error => return .complete (.error (.input error))

def handleCommand (command : DirectCommand m) (ready : Bool) (now : Duration) :
    Worker m .direct WorkerCommandProgress := do
  if !ready then return .complete (.error (.direct .notReady))
  match command with
  | .send candidate => completeSend candidate ready now
  | .common (.press buttons) => completeCandidate (pressCandidate (← InputStateStore.snapshot) buttons) ready now
  | .common (.release buttons) => completeCandidate (releaseCandidate (← InputStateStore.snapshot) buttons) ready now
  | .common .neutral => completeSend .neutral ready now
  | .common (.tap buttons duration) =>
    match tapPlan (← InputStateStore.snapshot) buttons duration with
    | .error error => return .complete (.error (.input error))
    | .ok plan =>
      match ← beginTap ready plan now with
      | .ok tap =>
        update fun s => s.withDirect { s.direct with pendingTap := some tap }
        return .pending
      | .error error => return .complete (.error (.direct error))

/-- `handle_event` with a tap pending, taken out of the runtime. -/
def handleTapEvent (tap : PendingDirectTap m) (event : TransportEvent) : Worker m .direct ReportingEvent := do
  match event with
  | .hidOutput channel payload =>
    match ← stepTap tap (.transport (.hidOutput channel payload)) with
    | .pending tap output =>
      update fun s => s.withDirect { s.direct with pendingTap := some tap }
      match output with
      | some output => return .output output
      | none =>
        panicked .hidOutputWithoutResult
        return .passthrough event
    | .complete _ =>
      panicked .hidOutputCompletedTap
      return .passthrough event
  | .disconnected reason =>
    match ← stepTap tap (.transport (.disconnected reason)) with
    | .complete (.error error) => return .disconnected reason (some (.direct error))
    | .complete (.ok ()) => return .disconnected reason none
    | .pending tap _ =>
      update fun s => s.withDirect { s.direct with pendingTap := some tap }
      return .disconnected reason none
  | other =>
    update fun s => s.withDirect { s.direct with pendingTap := some tap }
    return .passthrough other

def handleEvent (event : TransportEvent) : Worker m .direct ReportingEvent := do
  match (← frame).direct.pendingTap with
  | none => return .passthrough event
  | some tap =>
    update fun s => s.withDirect { s.direct with pendingTap := none }
    handleTapEvent tap event

def nextDeadline (runtime : DirectRuntime m) : Option Duration := runtime.pendingTap.map PendingDirectTap.releaseAt

def runDue (now : Duration) : Worker m .direct ReportingDue := do
  match (← frame).direct.pendingTap with
  | none => return .none
  | some tap =>
    if now < tap.releaseAt then return .none
    update fun s => s.withDirect { s.direct with pendingTap := none }
    let completion : CommandResult ← do
      match ← finish tap now with
      | .ok () => pure (.ok ())
      | .error error => pure (.error (.direct error))
    return ⟨1, true, some (.complete completion), []⟩

def cancelForShutdown : Worker m .direct (Option WorkerCommandError) := do
  match (← frame).direct.pendingTap with
  | none => return none
  | some tap =>
    update fun s => s.withDirect { s.direct with pendingTap := none }
    match ← stepTap tap .shutdown with
    | .complete (.error error) => return some (.direct error)
    | .complete (.ok ()) => return none
    | .pending tap _ =>
      update fun s => s.withDirect { s.direct with pendingTap := some tap }
      return none

end Direct

/-! ## Dispatch -/

namespace Reporting

def beginSession : {r : ReportingKind} → Worker m r ConnectionSessionId
  | .periodic => ConnectionSessions.beginPeriodic
  | .direct => ConnectionSessions.beginDirect

def beginHandshake (r : ReportingKind) (sessionId : ConnectionSessionId) : Handshake :=
  match r with
  | .periodic => .new sessionId
  | .direct => .untilProtocolReady sessionId

def handleCommand : {r : ReportingKind} → ReportingCommand m r → Bool → Duration → Worker m r WorkerCommandProgress
  | .periodic, .periodic command, ready, now => Periodic.handleCommand command ready now
  | .direct, .direct command, ready, now => Direct.handleCommand command ready now

def handleEvent : {r : ReportingKind} → TransportEvent → Worker m r ReportingEvent
  | .periodic, event => Periodic.handleEvent event
  | .direct, event => Direct.handleEvent event

def recordOutput : {r : ReportingKind} → Duration → Except OutputHandlingError OutputHandling →
    Worker m r (Except WorkerOperationError Unit)
  | .periodic, completedAt, completion => Periodic.recordOutput completedAt completion
  | .direct, _, _ => pure (.ok ())

def evaluateReadiness : {r : ReportingKind} → ReadinessGate → Duration → Option Handshake → Worker m r Evaluation
  | .periodic, gate, now, handshake => gate.evaluatePeriodic now handshake
  | .direct, gate, now, handshake => gate.evaluateDirect now handshake

def nextDeadline : Reporting m r → Option Duration
  | .periodic runtime => Periodic.nextDeadline runtime
  | .direct runtime => Direct.nextDeadline runtime

def automaticDueBeforeReady : Reporting m r → Bool
  | .periodic runtime => runtime.policy.nextDeadline.isSome
  | .direct _ => false

def runDue : {r : ReportingKind} → Duration → Worker m r ReportingDue
  | .periodic, now => Periodic.runDue now
  | .direct, now => Direct.runDue now

def cancelForShutdown : {r : ReportingKind} → Worker m r (Option WorkerCommandError)
  | .periodic => Periodic.cancelForShutdown
  | .direct => Direct.cancelForShutdown

def stopSession : Reporting m r → Reporting m r
  | .periodic runtime => .periodic ⟨runtime.policy.stopSession, none⟩
  | .direct _ => .direct ⟨none⟩

def hasPending : Reporting m r → Bool
  | .periodic runtime => runtime.pendingTap.isSome
  | .direct runtime => runtime.pendingTap.isSome

end Reporting

end Swbt
