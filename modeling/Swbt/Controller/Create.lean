import Swbt.Controller.ErrorMap
import Swbt.Runtime.Blame
import Swbt.Runtime.Loop
import Swbt.Runtime.Shutdown
/-!
# Creating a controller

`create_controller_runtime` opens a transport, starts a worker and pairs. When
that fails it closes the worker again, and its error lists what has failed. The
worker fails in two ways at once, in its answer to the Pair command and in the
outcome of its thread.
-/

set_option autoImplicit false

open Effects

namespace Swbt

variable {m : ControllerKind} {r : ReportingKind}

/-! ## The worker thread -/

namespace CloseCompletion

def finishWithJoin (completion : CloseCompletion) (join : Except WorkerJoinError Unit) :
    Except ExplicitCloseError Unit :=
  if completion.performed then
    match completion.firstFailure, join with
    | none, .ok () => .ok ()
    | none, .error join => .error (.join join)
    | some cleanup, .ok () => .error (.cleanup cleanup)
    | some cleanup, .error join => .error (.cleanupAndJoin cleanup join)
  else .ok ()

end CloseCompletion

def finishCompleted (completion : WorkerCompletion) (join : Except WorkerJoinError Unit) : WorkerThreadOutcome :=
  match completion.terminal with
  | .closed close =>
    .closed (if close.performed then close.finishWithJoin join else match join with
      | .ok () => .ok ()
      | .error join => .error (.join join)) completion.deliveryError
  | .failed cause cleanupError =>
    .failed cause completion.deliveryError cleanupError (match join with
      | .ok () => none
      | .error join => some join)

/-- How the thread ended: `caught` is the panic of the loop, and `teardown` tells
of one of the teardown after it. -/
structure ThreadEnd where
  caught : Option (Option (WorkerFailureCause × Option CommandDeliveryError))
  completion : WorkerCompletion
  teardown : Bool

namespace ThreadEnd

/-- The thread resumes the panic of the loop, or else that of the teardown. -/
def join (ending : ThreadEnd) : Except WorkerJoinError Unit :=
  if ending.caught.isSome || ending.teardown then .error .panicked else .ok ()

def outcome (ending : ThreadEnd) : WorkerThreadOutcome := finishCompleted ending.completion ending.join

end ThreadEnd

/-! ## Pairing -/

/-- The owner enqueues one Pair command, if its timeout is in range, and asks
for a shutdown once that has failed. -/
structure PairsOnly (timeout : Duration) (sent : List Response) (h h' : Log m r) : Prop where
  commands : h'.commands = [] ∨ fitsProtocolTimestamp timeout = true ∧ h'.commands = [.pair timeout]
  shutdown : ∀ f request h₀, .call f Op.takeShutdown (some request) :: h₀ <:+ h' → h <:+ h₀ →
    request = .explicit .withoutNeutral ∧
      (fitsProtocolTimestamp timeout = false ∨ ∃ completion error, sent = [⟨completion, .error error⟩])

/-- What the owner hears of its Pair command. -/
inductive PairAnswer
  | refused
  | disconnected
  | lost
  | result (result : CommandResult)

/-- What it hears from a worker with these commands and responses, by the end. -/
inductive PairHeard (timeout : Duration) (h : Log m r) (sent : List Response) : PairAnswer → Prop
  | refused (hout : fitsProtocolTimestamp timeout = false) : PairHeard timeout h sent .refused
  | disconnected (hin : fitsProtocolTimestamp timeout = true) (huntaken : h.commands = []) :
      PairHeard timeout h sent .disconnected
  | lost (hin : fitsProtocolTimestamp timeout = true) (hnone : sent = []) : PairHeard timeout h sent .lost
  | result {response : Response} (hin : fitsProtocolTimestamp timeout = true)
      (hsent : sent.head? = some response) : PairHeard timeout h sent (.result response.result)

namespace ConnectionCommandError

def isWorkerFailed (error : ConnectionCommandError) : Bool :=
  match error.failure with
  | .workerFailed => true
  | _ => false

end ConnectionCommandError

def finishTerminalOwner (outcome : WorkerThreadOutcome) (fallback : PublicError) : ErrorChain :=
  match mapWorkerOutcome outcome with
  | .ok () => .single fallback
  | .error error => error

def connectionTimeoutError : PublicError :=
  .new .invalidInput "connection timeout exceeds the protocol timestamp range"

/-- `pair_to_ready`, and if the owner of the worker is still there after it. -/
def pairToReady (answer : PairAnswer) (outcome : WorkerThreadOutcome) : Except ErrorChain Unit × Bool :=
  match answer with
  | .refused => (.error (.single connectionTimeoutError), true)
  | .disconnected => (.error (finishTerminalOwner outcome (mapEnqueueError .disconnected)), false)
  | .lost => (.error (finishTerminalOwner outcome (mapResponseError .workerFailed)), false)
  | .result (.ok ()) => (.ok (), true)
  | .result (.error error) =>
    if (match error with
      | .connection connection => connection.isWorkerFailed
      | _ => false) then (.error (finishTerminalOwner outcome (mapCommandError error)), false)
    else (.error (.single (mapCommandError error)), true)

def cleanupWithoutNeutral (owned : Bool) (outcome : WorkerThreadOutcome) : Except ErrorChain Unit :=
  if owned then mapWorkerOutcome outcome else .ok ()

def withCleanupError (primary : ErrorChain) : Except ErrorChain Unit → ErrorChain
  | .ok () => primary
  | .error cleanup => primary.withRelated cleanup

/-! ## Opening -/

/-- What a transport answers that is cleaned up before it has a running worker. -/
structure UnownedCleanup where
  drain : TransportResult Unit
  disconnect : TransportResult Unit
  close : TransportResult Unit

namespace UnownedCleanup

def firstFailure (cleanup : UnownedCleanup) : Option CleanupFailure :=
  CleanupSequence.recordFirstFailure (CleanupSequence.recordFirstFailure
    (CleanupSequence.recordFirstFailure none .drainInterrupt cleanup.drain) .disconnect cleanup.disconnect)
    .transportClose cleanup.close

def run (cleanup : UnownedCleanup) : Except ErrorChain Unit :=
  match cleanup.firstFailure with
  | none => .ok ()
  | some failure => .error (.single (mapCleanupError failure))

end UnownedCleanup

def mapTransportOpenError (source : TransportError) : PublicError :=
  if source.kind = .adapterIdentityRecoveryRequired then
    .withSource .adapterIdentityRecoveryRequired
      "adapter identity is uncertain; physically power cycle the USB adapter and verify its original identity before retrying"
      (.transport source)
  else .withSource .transportOpen "controller transport could not be opened and initialized" (.transport source)

def unsupportedTransport : PublicError :=
  .withSource .transportOpen "controller transport does not support the required Classic ACL operations"
    (.transport ⟨.unsupportedController, none⟩)

def spawnError (source : StdError) : PublicError :=
  .withSource .workerFailed "controller worker thread could not be started" (.std source)

/-- How `open_runtime_owner` fails. -/
inductive OpenError
  | factory (error : ErrorChain)
  | transport (source : TransportError) (cleanup : UnownedCleanup)
  | unsupported (cleanup : UnownedCleanup)
  | spawn (source : StdError) (cleanup : UnownedCleanup)

def openRuntimeOwner : OpenError → ErrorChain
  | .factory error => error
  | .transport source cleanup => withCleanupError (.single (mapTransportOpenError source)) cleanup.run
  | .unsupported cleanup => withCleanupError (.single unsupportedTransport) cleanup.run
  | .spawn source cleanup => relate (.single (spawnError source)) (cleanup.firstFailure.map mapCleanupError)

/-! ## Creation -/

inductive Attempt
  | unopened (error : OpenError)
  | joined (answer : PairAnswer) (ending : ThreadEnd)

def createControllerRuntime : Attempt → Except ErrorChain Unit
  | .unopened error => .error (openRuntimeOwner error)
  | .joined answer ending =>
    match pairToReady answer ending.outcome with
    | (.ok (), _) => .ok ()
    | (.error primary, owned) => .error (withCleanupError primary (cleanupWithoutNeutral owned ending.outcome))

/-- The attempts there are, with the log of the worker. -/
inductive Attempted (timeout : Duration) : Log m r → Attempt → Prop
  | unopened (error : OpenError) : Attempted timeout [] (.unopened error)
  | joined {h : Log m r} {receiver : CommandReceiver} {sent : List Response} {answer : PairAnswer}
      {ending : ThreadEnd} (hcaught : Caught (PairsOnly timeout) h receiver sent ending.caught ending.completion)
      (hheard : PairHeard timeout h sent answer) : Attempted timeout h (.joined answer ending)

/-! ## What has failed -/

inductive Failure
  | opening (error : PublicError)
  | timeout
  | pairing (error : WorkerCommandError)
  | terminal (cause : WorkerFailureCause)
  | delivery (error : CommandDeliveryError)
  | cleanup (failure : CleanupFailure)
  | panicked

/-- The error that tells of a failure. -/
def Failure.report : Failure → PublicError
  | opening error => error
  | timeout => connectionTimeoutError
  | pairing error => mapCommandError error
  | terminal cause => mapWorkerFailure cause
  | delivery error => mapDeliveryError error
  | cleanup failure => mapCleanupError failure
  | panicked => mapWorkerFailure .panicked

/-- An answer is a failure of its own unless it only tells that the worker has ended. -/
def PairAnswer.failures : PairAnswer → List Failure
  | refused => [.timeout]
  | disconnected | lost | result (.ok ()) => []
  | result (.error error) => if error.blamesWorker then [] else [.pairing error]

namespace UnownedCleanup

def phases (cleanup : UnownedCleanup) : List (CleanupPhase × TransportResult Unit) :=
  [(.drainInterrupt, cleanup.drain), (.disconnect, cleanup.disconnect), (.transportClose, cleanup.close)]

/-- Every phase that has failed. -/
def failures (cleanup : UnownedCleanup) : List CleanupFailure := cleanup.phases.filterMap phaseFailure

end UnownedCleanup

/-- The error of a call a worker cannot go on from, if the worker is not closing. -/
def transportFailure (e : LogEvent m r) : Option Failure :=
  if e.state.lifecycle.current = .closing then none
  else (fatalError e).map fun source => .terminal (.core (.transport source))

/-- The error of a phase of a cleanup, which a worker that closes goes through. -/
def cleanupFailure (e : LogEvent m r) : Option CleanupFailure :=
  if e.state.lifecycle.current = .closing then (cleanupPhase e).bind phaseFailure else none

namespace Log

/-- The transport failures the worker has met, the earliest first. -/
def transportFailures (h : Log m r) : List Failure := h.reverse.filterMap transportFailure

/-- The phases that have failed, the earliest first. -/
def cleanupFailures (h : Log m r) : List CleanupFailure := h.reverse.filterMap cleanupFailure

end Log

/-- A cause that no call of the worker shows. -/
def WorkerFailureCause.unseen : WorkerFailureCause → List Failure
  | .core (.transport _) | .panicked => []
  | cause => [.terminal cause]

/-- What has failed in a thread, in the order it has occurred: the log tells of
the transport and of every phase of the cleanup, the rest is the worker's own.
A thread panics once: what its teardown does after a panic of the loop is lost
with it. -/
def ThreadEnd.failures (ending : ThreadEnd) (h : Log m r) : List Failure :=
  match ending.caught, ending.completion.terminal with
  | some broken, _ =>
    broken.elim [] (fun broken => broken.1.unseen) ++ h.transportFailures ++
      .panicked :: h.cleanupFailures.map .cleanup
  | none, .failed cause _ =>
    cause.unseen ++ h.transportFailures ++ (ending.completion.deliveryError.map Failure.delivery).toList ++
      h.cleanupFailures.map .cleanup ++ if ending.teardown then [.panicked] else []
  | none, .closed _ =>
    h.transportFailures ++ h.cleanupFailures.map .cleanup ++
      (ending.completion.deliveryError.map Failure.delivery).toList ++ if ending.teardown then [.panicked] else []

namespace OpenError

def primary : OpenError → List PublicError
  | factory error => error.toList
  | transport source _ => [mapTransportOpenError source]
  | unsupported _ => [unsupportedTransport]
  | spawn source _ => [spawnError source]

def cleanupFailures : OpenError → List CleanupFailure
  | factory _ => []
  | transport _ cleanup | unsupported cleanup | spawn _ cleanup => cleanup.failures

end OpenError

namespace Attempt

/-- The phases of a cleanup that have failed. -/
def cleanupFailures (h : Log m r) : Attempt → List CleanupFailure
  | unopened error => error.cleanupFailures
  | joined _ _ => h.cleanupFailures

/-- All that has failed in an attempt whose worker has left the log `h`, in the order it has occurred. -/
def failures (h : Log m r) : Attempt → List Failure
  | unopened error => error.primary.map .opening ++ error.cleanupFailures.map .cleanup
  | joined answer ending => answer.failures ++ ending.failures h

/-- The controller was paired, so that there is no error to return. -/
def paired : Attempt → Bool
  | joined (.result (.ok ())) _ => true
  | _ => false

/-- The error of the attempt lists each failure once, in the order they occurred. -/
def ListedOnce (attempt : Attempt) (h : Log m r) : Prop :=
  ∃ chain, createControllerRuntime attempt = .error chain ∧ chain.toList = (attempt.failures h).map Failure.report

/-- The loop of the worker has panicked. -/
def loopPanicked : Attempt → Bool
  | unopened _ => false
  | joined _ ending => ending.caught.isSome

end Attempt

/-- The transport has met a key-store error it cannot go on from while the Pair command was pending. -/
def KeyStoreLost (h : Log m r) : Prop :=
  ∃ e ∈ h, e.state.connectionCommandPending.isSome = true ∧
    (fatalError e).map TransportError.kind = some .invalidKeyStore

/-- The worker has taken a shutdown after a transport error it could not have gone on from. -/
def Superseded (h : Log m r) : Prop :=
  ∃ e h₀, e :: h₀ <:+ h ∧ takesShutdown e = true ∧ Log.fatals h₀ ≠ []

end Swbt
