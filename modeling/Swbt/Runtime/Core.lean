import Swbt.Effects.Program
import Swbt.Runtime.Lifecycle
import Swbt.Runtime.Scheduler
import Swbt.Runtime.Session
/-!
# The worker's data

What a worker keeps between steps, what a step reports, and what the worker
asks of its environment: the clock, the shutdown latch, the command queue and
the transport. Status calls and output observations go out without an answer.

The Rust type parameter `R: ReportingMode` is a value `r : ReportingKind`.
-/

set_option autoImplicit false

open Effects

namespace Swbt

inductive ReportingKind
  | periodic | direct
deriving DecidableEq

variable {m : ControllerKind} {r : ReportingKind}

/-! ## Errors -/

inductive HandshakeError
  | scheduler (error : SchedulerError)

inductive ReadinessError
  | staleSession (expected : ConnectionSessionId) (current : Option ConnectionSessionId)
  | handshakeSessionMismatch (expected actual : ConnectionSessionId)
  | disconnected (reason : Option UInt8)
  | timedOut
  | scheduler (error : SchedulerError)

inductive OutputHandlingError
  | protocol (error : ProtocolError)
  | transport (error : TransportError)

inductive PeriodicError
  | notReady
  | scheduler (error : SchedulerError)
  | transport (error : TransportError) (laterTerminal : Option TransportError)

inductive DirectTapInterruption
  | disconnected (reason : Option UInt8)
  | shutdown

inductive DirectTapError
  | notReady
  | transport (error : TransportError)
  | interrupted (interruption : DirectTapInterruption)

inductive WorkerOperationError
  | output (error : OutputHandlingError)
  | periodic (error : PeriodicError)
  | readiness

inductive WorkerCoreError
  | invalidLifecycle
  | handshake (error : HandshakeError)
  | transport (error : TransportError)

inductive ConnectionCommandFailure
  | begin (error : WorkerCoreError)
  | readiness (error : ReadinessError)
  | invalidKeyStore
  | workerFailed

inductive ConnectionCommandKind
  | pair | reconnect
deriving DecidableEq

structure ConnectionCommandError where
  command : ConnectionCommandKind
  failure : ConnectionCommandFailure

inductive WorkerCommandError
  | input (error : Error)
  | lifecycle (error : LifecycleCommandError)
  | connection (error : ConnectionCommandError)
  | periodic (error : PeriodicError)
  | direct (error : DirectTapError)
  | shutdown
  | disconnected

abbrev CommandResult := Except WorkerCommandError Unit

def WorkerCoreError.statusMessage : WorkerCoreError → String
  | invalidLifecycle => "worker lifecycle invariant failed"
  | handshake _ => "worker handshake failed"
  | transport error =>
    if error.kind = .invalidKeyStore then "worker pairing key store failed" else "worker transport failed"

/-! ## Commands -/

inductive CommonCommand (m : ControllerKind)
  | press (buttons : List (Button m))
  | release (buttons : List (Button m))
  | tap (buttons : List (Button m)) (duration : Duration)
  | neutral

inductive PeriodicCommand (m : ControllerKind)
  | common (command : CommonCommand m)
  | apply (candidate : InputState m)

inductive DirectCommand (m : ControllerKind)
  | common (command : CommonCommand m)
  | send (candidate : InputState m)

/-- `R::Command<M>`. -/
inductive ReportingCommand (m : ControllerKind) : ReportingKind → Type
  | periodic (command : PeriodicCommand m) : ReportingCommand m .periodic
  | direct (command : DirectCommand m) : ReportingCommand m .direct

inductive RuntimeCommand (m : ControllerKind) (r : ReportingKind)
  | pair (timeout : Duration)
  | reconnect (timeout : Duration)
  | input (command : ReportingCommand m r)

/-! ## Reporting state -/

structure PendingPeriodicTap (m : ControllerKind) where
  released : InputState m
  firstError : Option TransportError

structure ScheduledPeriodicTap (m : ControllerKind) where
  tap : PendingPeriodicTap m
  releaseAt : Duration

structure PeriodicPolicy where
  period : Duration
  scheduler : Option ReportScheduler
  replyHoldoffUntil : Option Duration

structure PeriodicRuntime (m : ControllerKind) where
  policy : PeriodicPolicy
  pendingTap : Option (ScheduledPeriodicTap m)

structure PendingDirectTap (m : ControllerKind) where
  released : InputState m
  releaseAt : Duration

structure DirectRuntime (m : ControllerKind) where
  pendingTap : Option (PendingDirectTap m)

/-- `R::RuntimeState`. -/
inductive Reporting (m : ControllerKind) : ReportingKind → Type
  | periodic (runtime : PeriodicRuntime m) : Reporting m .periodic
  | direct (runtime : DirectRuntime m) : Reporting m .direct

/-! ## Connection work -/

inductive HandshakeCompletionCondition
  | firstSubcommand | protocolReady
deriving DecidableEq

structure Handshake where
  sessionId : ConnectionSessionId
  completionCondition : HandshakeCompletionCondition
  linkObserved : Bool
  controlObserved : Bool
  interruptObserved : Bool
  retry : Option ReportScheduler
  bootstrapAccepted : Bool
  bootstrapStopped : Bool

structure HandshakeCompletion where
  sessionId : ConnectionSessionId

structure ReadinessGate where
  sessionId : ConnectionSessionId
  operationDeadline : Duration
  handshake : Option HandshakeCompletion

structure ConnectionWork where
  sessionId : ConnectionSessionId
  handshake : Option Handshake
  readiness : ReadinessGate

/-! ## The worker -/

structure SenderCommit where
  nextTimer : UInt8
  session : ProtocolSession

def SenderCommit.default : SenderCommit := ⟨0, .default⟩

structure ReportSender where
  committed : SenderCommit
  inputReportsAccepted : UInt64
  repliesAccepted : UInt64

def ReportSender.new : ReportSender := ⟨.default, 0, 0⟩

structure WorkerBudget where
  pollBatches : Nat
  pollBatches_pos : 0 < pollBatches

/-- `WorkerCore`, less the handles to its environment. -/
structure WorkerCore (m : ControllerKind) (r : ReportingKind) where
  lifecycle : LifecycleStateMachine
  input : InputState m
  reporting : Reporting m r
  sender : ReportSender
  protocol : SwitchHidProtocol
  observed : ObservedSubcommands
  sessions : ConnectionSessions
  connection : Option ConnectionWork
  connectionCommandPending : Option ConnectionCommandKind
  connected : Bool
  budget : WorkerBudget

structure StepProgress where
  commands : Nat
  hciEvents : Nat
  dueActions : Nat
  skippedDeadlines : UInt64
  immediate : Bool
  nextDeadline : Option Duration
  commandResult : Option CommandResult
  operationErrors : List WorkerOperationError

def StepProgress.new : StepProgress := ⟨0, 0, 0, 0, false, none, none, []⟩

/-- A worker in the middle of a step. -/
structure Frame (m : ControllerKind) (r : ReportingKind) extends WorkerCore m r where
  progress : StepProgress

inductive CleanupPhase
  | neutral | drainInterrupt | disconnect | transportClose
deriving DecidableEq

structure CleanupFailure where
  phase : CleanupPhase
  error : TransportError

structure CloseCompletion where
  performed : Bool
  firstFailure : Option CleanupFailure

inductive WorkerStep
  | «continue» (progress : StepProgress)
  | closed (completion : CloseCompletion) (interrupted : Option WorkerCommandError) (progress : StepProgress)
  | failed (error : WorkerCoreError) (progress : StepProgress)

def WorkerStep.progress : WorkerStep → StepProgress
  | «continue» progress | closed _ _ progress | failed _ progress => progress

/-! ## The environment -/

structure OutputObservation where
  channel : HidChannel
  reportId : UInt8
  packetId : UInt8
  rumble : List UInt8

inductive WorkerFailureCategory
  | transport | wait | commandDelivery | panicked | completionDisconnected | internal
deriving DecidableEq

/-- Calls on the `StatusPublisher`. -/
inductive StatusCall (m : ControllerKind)
  | setLifecycle (lifecycle : LifecycleState)
  | beginSession (sessionId : ConnectionSessionId) (lifecycle : LifecycleState) (snapshot : InputState m)
  | setConnected (connected : Bool)
  | setSnapshot (snapshot : InputState m)
  | setSenderState (reportMode : Option UInt8) (imuMode : UInt8) (inputReportsAccepted repliesAccepted : UInt64)
  | recordSubcommand (id : UInt8)
  | endSession (lifecycle : LifecycleState) (disconnectReason : Option UInt8)
  | close (lifecycle : LifecycleState)
  | fail (message : String) (category : WorkerFailureCategory)

/-- Where the worker's own code panics. -/
inductive PanicSite
  | multipleCommandResults
  | readinessBeforeHandshake
  | protocolReadyWithoutReportMode
  | hidOutputWithoutResult
  | hidOutputCompletedTap
  | uncheckedPeriodicTap
deriving DecidableEq

/-- Calls with an answer. -/
inductive Op
  | now
  | takeShutdown
  | nextCommand
  | startPairing
  | startReconnect
  | poll (timeout : Duration)
  | interruptSendCapacityAvailable
  | sendInterrupt (payload : List UInt8)
  | drainInterrupt (timeout : Duration)
  | disconnect
  | close
deriving DecidableEq

@[reducible] def Op.Ans (m : ControllerKind) (r : ReportingKind) : Op → Type
  | now => Duration
  | takeShutdown => Option ShutdownRequest
  | nextCommand => Option (RuntimeCommand m r)
  | startPairing | startReconnect | sendInterrupt _ | drainInterrupt _ | disconnect | close => TransportResult Unit
  | poll _ => TransportResult (List TransportEvent)
  | interruptSendCapacityAvailable => Bool

/-- Calls without one. `panicked` and `processed` are not calls of the code: the
first marks a panic, the second that the step loop came to a polled event, which
was taken for its session or dropped (`none`). -/
inductive Output (m : ControllerKind)
  | status (call : StatusCall m)
  | observeOutput (observation : OutputObservation)
  | panicked (site : PanicSite)
  | processed (event : Option SessionEvent)

abbrev WorkerInterface (m : ControllerKind) (r : ReportingKind) : Interface := ⟨Op, Op.Ans m r, Output m⟩

abbrev Worker (m : ControllerKind) (r : ReportingKind) (α : Type) : Type := Act (WorkerInterface m r) (Frame m r) α

/-- What happened to a worker, the latest event first. -/
abbrev Log (m : ControllerKind) (r : ReportingKind) := History (WorkerInterface m r) (Frame m r)

abbrev LogEvent (m : ControllerKind) (r : ReportingKind) := Event (WorkerInterface m r) (Frame m r)

def now : Worker m r Duration := Act.perform (E := WorkerInterface m r) Op.now

def takeShutdown : Worker m r (Option ShutdownRequest) := Act.perform (E := WorkerInterface m r) Op.takeShutdown

def nextCommand : Worker m r (Option (RuntimeCommand m r)) := Act.perform (E := WorkerInterface m r) Op.nextCommand

def startPairing : Worker m r (TransportResult Unit) := Act.perform (E := WorkerInterface m r) Op.startPairing

def startReconnect : Worker m r (TransportResult Unit) := Act.perform (E := WorkerInterface m r) Op.startReconnect

def poll (timeout : Duration) : Worker m r (TransportResult (List TransportEvent)) :=
  Act.perform (E := WorkerInterface m r) (Op.poll timeout)

def interruptSendCapacityAvailable : Worker m r Bool :=
  Act.perform (E := WorkerInterface m r) Op.interruptSendCapacityAvailable

def sendInterrupt (payload : List UInt8) : Worker m r (TransportResult Unit) :=
  Act.perform (E := WorkerInterface m r) (Op.sendInterrupt payload)

def drainInterrupt (timeout : Duration) : Worker m r (TransportResult Unit) :=
  Act.perform (E := WorkerInterface m r) (Op.drainInterrupt timeout)

def disconnect : Worker m r (TransportResult Unit) := Act.perform (E := WorkerInterface m r) Op.disconnect

def closeTransport : Worker m r (TransportResult Unit) := Act.perform (E := WorkerInterface m r) Op.close

def status (call : StatusCall m) : Worker m r Unit := Act.emit (E := WorkerInterface m r) (.status call)

def observeOutput (observation : OutputObservation) : Worker m r Unit :=
  Act.emit (E := WorkerInterface m r) (.observeOutput observation)

def panicked (site : PanicSite) : Worker m r Unit := Act.emit (E := WorkerInterface m r) (.panicked site)

def processed (event : Option SessionEvent) : Worker m r Unit :=
  Act.emit (E := WorkerInterface m r) (.processed event)

def frame : Worker m r (Frame m r) := Act.get

def update (f : Frame m r → Frame m r) : Worker m r Unit := Act.modify f

/-! ### What every answer leads to -/

section Wp

variable (h : Log m r) (s : Frame m r)

@[simp] theorem wp_now (Q : Log m r → Frame m r → Duration → Prop) :
    Act.wp now h s Q ↔ ∀ t : Duration, Q (.call s Op.now t :: h) s t := Iff.rfl

@[simp] theorem wp_takeShutdown (Q : Log m r → Frame m r → Option ShutdownRequest → Prop) :
    Act.wp takeShutdown h s Q ↔ ∀ x : Option ShutdownRequest, Q (.call s Op.takeShutdown x :: h) s x := Iff.rfl

@[simp] theorem wp_nextCommand (Q : Log m r → Frame m r → Option (RuntimeCommand m r) → Prop) :
    Act.wp nextCommand h s Q ↔ ∀ x : Option (RuntimeCommand m r), Q (.call s Op.nextCommand x :: h) s x := Iff.rfl

@[simp] theorem wp_startPairing (Q : Log m r → Frame m r → TransportResult Unit → Prop) :
    Act.wp startPairing h s Q ↔ ∀ x : TransportResult Unit, Q (.call s Op.startPairing x :: h) s x := Iff.rfl

@[simp] theorem wp_startReconnect (Q : Log m r → Frame m r → TransportResult Unit → Prop) :
    Act.wp startReconnect h s Q ↔ ∀ x : TransportResult Unit, Q (.call s Op.startReconnect x :: h) s x := Iff.rfl

@[simp] theorem wp_poll (timeout : Duration) (Q : Log m r → Frame m r → TransportResult (List TransportEvent) → Prop) :
    Act.wp (poll timeout) h s Q ↔
      ∀ x : TransportResult (List TransportEvent), Q (.call s (Op.poll timeout) x :: h) s x := Iff.rfl

@[simp] theorem wp_interruptSendCapacityAvailable (Q : Log m r → Frame m r → Bool → Prop) :
    Act.wp interruptSendCapacityAvailable h s Q ↔
      ∀ x : Bool, Q (.call s Op.interruptSendCapacityAvailable x :: h) s x := Iff.rfl

@[simp] theorem wp_sendInterrupt (payload : List UInt8) (Q : Log m r → Frame m r → TransportResult Unit → Prop) :
    Act.wp (sendInterrupt payload) h s Q ↔
      ∀ x : TransportResult Unit, Q (.call s (Op.sendInterrupt payload) x :: h) s x := Iff.rfl

@[simp] theorem wp_drainInterrupt (timeout : Duration) (Q : Log m r → Frame m r → TransportResult Unit → Prop) :
    Act.wp (drainInterrupt timeout) h s Q ↔
      ∀ x : TransportResult Unit, Q (.call s (Op.drainInterrupt timeout) x :: h) s x := Iff.rfl

@[simp] theorem wp_disconnect (Q : Log m r → Frame m r → TransportResult Unit → Prop) :
    Act.wp disconnect h s Q ↔ ∀ x : TransportResult Unit, Q (.call s Op.disconnect x :: h) s x := Iff.rfl

@[simp] theorem wp_closeTransport (Q : Log m r → Frame m r → TransportResult Unit → Prop) :
    Act.wp closeTransport h s Q ↔ ∀ x : TransportResult Unit, Q (.call s Op.close x :: h) s x := Iff.rfl

@[simp] theorem wp_status (call : StatusCall m) (Q : Log m r → Frame m r → Unit → Prop) :
    Act.wp (status call) h s Q ↔ Q (.emit s (.status call) :: h) s () := Iff.rfl

@[simp] theorem wp_observeOutput (observation : OutputObservation) (Q : Log m r → Frame m r → Unit → Prop) :
    Act.wp (observeOutput observation) h s Q ↔ Q (.emit s (.observeOutput observation) :: h) s () := Iff.rfl

@[simp] theorem wp_panicked (site : PanicSite) (Q : Log m r → Frame m r → Unit → Prop) :
    Act.wp (panicked site) h s Q ↔ Q (.emit s (.panicked site) :: h) s () := Iff.rfl

@[simp] theorem wp_processed (event : Option SessionEvent) (Q : Log m r → Frame m r → Unit → Prop) :
    Act.wp (processed event) h s Q ↔ Q (.emit s (.processed event) :: h) s () := Iff.rfl

@[simp] theorem wp_frame (Q : Log m r → Frame m r → Frame m r → Prop) : Act.wp frame h s Q ↔ Q h s s := Iff.rfl

@[simp] theorem wp_update (f : Frame m r → Frame m r) (Q : Log m r → Frame m r → Unit → Prop) :
    Act.wp (update f) h s Q ↔ Q h (f s) () := Iff.rfl

end Wp

end Swbt
