import Swbt.Runtime.Worker
/-!
# The worker thread

What the thread does around the steps: it delivers the result of a step to the
command in flight, waits, and cleans up after a failure. The response channel
of a request is a number here.
-/

set_option autoImplicit false

open Effects

namespace Swbt

variable {m : ControllerKind} {r : ReportingKind}

/-! ## Waiting -/

inductive WorkerWaitRequest
  | activity
  | activityOrDeadline (deadline : Duration)
deriving DecidableEq

inductive WorkerWaitError
  | disconnected
deriving DecidableEq

/-- How to wait after a step, and `none` for the next step at once. -/
def StepProgress.waitRequest (progress : StepProgress) (now : Duration) : Option WorkerWaitRequest :=
  if progress.immediate || progress.nextDeadline.any fun deadline => deadline ≤ now then none
  else some (match progress.nextDeadline with
    | none => .activity
    | some deadline => .activityOrDeadline deadline)

/-! ## Commands in flight -/

inductive CommandEnqueueError
  | invariantViolation | disconnected
deriving DecidableEq

/-- `WorkerFailed`: the response channel is gone. -/
inductive CommandResponseError
  | workerFailed
deriving DecidableEq

inductive CommandDeliveryError
  | missingResponse
deriving DecidableEq

/-- A `CommandRequest` with the number of its response channel. -/
structure CommandRequest (m : ControllerKind) (r : ReportingKind) where
  command : RuntimeCommand m r
  completion : Nat

/-- A result sent to a response channel. -/
structure Response where
  completion : Nat
  result : CommandResult

/-- What a client receives of the responses a worker has sent by its end. -/
def CommandRequest.recv (request : CommandRequest m r) (sent : List Response) :
    Except CommandResponseError CommandResult :=
  match sent.find? (·.completion = request.completion) with
  | some response => .ok response.result
  | none => .error .workerFailed

/-- `try_enqueue` into a channel of one place, if its receiver is still there. -/
def CommandRequest.tryEnqueue (request : CommandRequest m r) (connected : Bool) (channel : Option (CommandRequest m r)) :
    Except CommandEnqueueError (Option (CommandRequest m r)) :=
  if connected then
    match channel with
    | none => .ok (some request)
    | some _ => .error .invariantViolation
  else .error .disconnected

/-- A `CommandReceiver`, less the channel it shares with the client. -/
structure CommandReceiver where
  inFlight : Option Nat

namespace CommandReceiver

/-- `deliver`, with the results it has sent; an error drops the others. -/
def deliver (receiver : CommandReceiver) : List WorkerCommandProgress →
    Except CommandDeliveryError Unit × CommandReceiver × List Response
  | [] => (.ok (), receiver, [])
  | .pending :: rest =>
    if receiver.inFlight.isNone then (.error .missingResponse, receiver, []) else receiver.deliver rest
  | .complete result :: rest =>
    match receiver.inFlight with
    | none => (.error .missingResponse, receiver, [])
    | some completion =>
      let (outcome, receiver, sent) := CommandReceiver.deliver ⟨none⟩ rest
      (outcome, receiver, ⟨completion, result⟩ :: sent)

def deliverCompletion (receiver : CommandReceiver) (result : CommandResult) :
    Except CommandDeliveryError Unit × CommandReceiver × List Response :=
  receiver.deliver [.complete result]

def deliverProgress (receiver : CommandReceiver) (progress : StepProgress) :
    Except CommandDeliveryError Unit × CommandReceiver × List Response :=
  match progress.commandResult with
  -- No result in this step: the request stays in flight.
  | none => (.ok (), receiver, [])
  | some result => receiver.deliverCompletion result

/-- The deliveries of a closed step: the interrupted command only after a clean progress. -/
def deliverClosed (receiver : CommandReceiver) (interrupted : Option WorkerCommandError) (progress : StepProgress) :
    Option CommandDeliveryError × CommandReceiver × List Response :=
  match receiver.deliverProgress progress with
  | (.error error, receiver, sent) => (some error, receiver, sent)
  | (.ok (), receiver, sent) =>
    match interrupted with
    | none => (none, receiver, sent)
    | some error =>
      match receiver.deliverCompletion (.error error) with
      | (.error error, receiver, sent') => (some error, receiver, sent ++ sent')
      | (.ok (), receiver, sent') => (none, receiver, sent ++ sent')

/-- `try_next` over the content of the command channel. -/
def tryNext (receiver : CommandReceiver) (channel : Option (CommandRequest m r)) :
    Option (RuntimeCommand m r) × CommandReceiver × Option (CommandRequest m r) :=
  -- A request in flight keeps the channel from being read.
  if receiver.inFlight.isSome then (none, receiver, channel)
  else match channel with
    | none => (none, receiver, none)
    | some request => (some request.command, ⟨some request.completion⟩, none)

end CommandReceiver

/-! ## Failures -/

inductive WorkerFailureCause
  | core (error : WorkerCoreError)
  | wait (error : WorkerWaitError)
  | commandDelivery (error : CommandDeliveryError)
  | panicked
  | completionDisconnected

def workerFailureStatus : WorkerFailureCause → String
  | .core error => error.statusMessage
  | .wait _ => "worker wait failed"
  | .commandDelivery _ => "worker command delivery failed"
  | .panicked => "worker panicked"
  | .completionDisconnected => "worker completion disconnected"

def workerFailureCategory : WorkerFailureCause → WorkerFailureCategory
  | .core error => failureCategory error
  | .wait _ => .wait
  | .commandDelivery _ => .commandDelivery
  | .panicked => .panicked
  | .completionDisconnected => .completionDisconnected

def completeWorkerFailure (cause : WorkerFailureCause) : Worker m r (Option CleanupFailure) := do
  status (.fail (workerFailureStatus cause) (workerFailureCategory cause))
  cleanupAfterFailureWithoutNeutral (← now)

end Swbt
