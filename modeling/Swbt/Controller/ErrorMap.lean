import Swbt.Runtime.WorkerThread
/-!
# Public errors of the runtime

Every failure of the runtime becomes a public error with its source. Failures
of one operation are linked: the first, and the related ones after it.
-/

set_option autoImplicit false

namespace Swbt

/-! ## Chains of errors -/

/-- What `Error::source` returns. -/
inductive ErrorSource
  | std (error : StdError)
  | transport (error : TransportError)
  | handshake (error : HandshakeError)
  | readiness (error : ReadinessError)
  | direct (error : DirectTapError)
  | periodic (error : PeriodicError)
  | cleanup (error : CleanupFailure)

/-- A public error, less the errors related to it. -/
structure PublicError where
  error : Error
  source : Option ErrorSource

namespace PublicError

def new (kind : ErrorKind) (message : String) : PublicError := ⟨⟨kind, message⟩, none⟩

def withSource (kind : ErrorKind) (message : String) (source : ErrorSource) : PublicError :=
  ⟨⟨kind, message⟩, some source⟩

end PublicError

/-- An error with its related errors in the order of their links. -/
structure ErrorChain where
  first : PublicError
  related : List PublicError

namespace ErrorChain

def single (error : PublicError) : ErrorChain := ⟨error, []⟩

/-- `with_related`, which links at the end of the chain. -/
def withRelated (chain later : ErrorChain) : ErrorChain := ⟨chain.first, chain.related ++ later.first :: later.related⟩

def toList (chain : ErrorChain) : List PublicError := chain.first :: chain.related

@[simp] theorem toList_single (error : PublicError) : (single error).toList = [error] := rfl

@[simp] theorem toList_withRelated (chain later : ErrorChain) :
    (chain.withRelated later).toList = chain.toList ++ later.toList := rfl

end ErrorChain

/-! ## Commands -/

def mapEnqueueError : CommandEnqueueError → PublicError
  | .invariantViolation => .new .internal "worker command slot was unexpectedly occupied"
  | .disconnected => .new .workerFailed "controller worker is no longer accepting commands"

def mapResponseError : CommandResponseError → PublicError
  | .workerFailed => .new .workerFailed "controller worker terminated before responding"

def mapWorkerCoreError : WorkerCoreError → PublicError
  | .invalidLifecycle => .new .workerFailed "controller worker entered an invalid lifecycle state"
  | .handshake source => .withSource .workerFailed "controller worker handshake failed" (.handshake source)
  | .transport source =>
    if source.kind = .invalidKeyStore then
      .withSource .invalidKeyStore "controller pairing key store could not be read or updated" (.transport source)
    else .withSource .workerFailed "controller worker transport failed" (.transport source)

/-- Kind and message of a readiness error, for the command it failed. -/
def connectionReadinessKind : ConnectionCommandKind → ReadinessError → ErrorKind × String
  | .pair, .timedOut => (.connectionTimeout, "controller pairing timed out")
  | .reconnect, .timedOut => (.connectionTimeout, "controller reconnect timed out")
  | .pair, .disconnected _ => (.connectionFailed, "controller disconnected before pairing completed")
  | .reconnect, .disconnected _ => (.connectionFailed, "controller disconnected before reconnect completed")
  | .pair, .staleSession _ _ | .pair, .handshakeSessionMismatch _ _ =>
    (.protocol, "controller pairing protocol state was inconsistent")
  | .reconnect, .staleSession _ _ | .reconnect, .handshakeSessionMismatch _ _ =>
    (.protocol, "controller reconnect protocol state was inconsistent")
  | .pair, .scheduler _ => (.connectionFailed, "controller pairing readiness failed")
  | .reconnect, .scheduler _ => (.connectionFailed, "controller reconnect readiness failed")

def mapConnectionReadinessError (command : ConnectionCommandKind) (error : ReadinessError) : PublicError :=
  .withSource (connectionReadinessKind command error).1 (connectionReadinessKind command error).2 (.readiness error)

def mapConnectionError (error : ConnectionCommandError) : PublicError :=
  match error.failure with
  | .begin (.transport source) =>
    if error.command = .reconnect ∧ source.kind = .noBond then
      .withSource .noBond "controller profile has no usable Classic bond" (.transport source)
    else mapWorkerCoreError (.transport source)
  | .begin core => mapWorkerCoreError core
  | .readiness readiness => mapConnectionReadinessError error.command readiness
  | .invalidKeyStore => .new .invalidKeyStore "controller pairing key store could not be read or updated"
  | .workerFailed => match error.command with
    | .pair => .new .workerFailed "controller worker terminated during pairing"
    | .reconnect => .new .workerFailed "controller worker terminated during reconnect"

def mapCommandError : WorkerCommandError → PublicError
  | .input error => ⟨error, none⟩
  | .lifecycle .shutdown | .shutdown | .direct (.interrupted .shutdown) =>
    .new .shutdown "controller shutdown interrupted the operation"
  | .connection error => mapConnectionError error
  | .direct .notReady | .periodic .notReady => .new .transportClosed "controller input requires a ready transport"
  | .direct error => .withSource .internal "an unclassified direct input operation failed" (.direct error)
  | .periodic error => .withSource .internal "an unclassified periodic input operation failed" (.periodic error)
  | .lifecycle .failed => .new .workerFailed "controller worker has entered a failed state"
  | .disconnected => .new .internal "an unclassified disconnect interrupted the operation"

/-! ## The end of the worker -/

inductive WorkerJoinError
  | panicked

/-- `ExplicitCloseError`, where at least one of the two has failed. -/
inductive ExplicitCloseError
  | cleanup (cleanup : CleanupFailure)
  | join (join : WorkerJoinError)
  | cleanupAndJoin (cleanup : CleanupFailure) (join : WorkerJoinError)

inductive WorkerThreadOutcome
  | closed (result : Except ExplicitCloseError Unit) (deliveryError : Option CommandDeliveryError)
  | failed (cause : WorkerFailureCause) (deliveryError : Option CommandDeliveryError)
      (cleanupError : Option CleanupFailure) (joinError : Option WorkerJoinError)

def mapJoinError : WorkerJoinError → PublicError
  | .panicked => .new .workerFailed "controller worker thread panicked"

def mapCleanupError (error : CleanupFailure) : PublicError :=
  .withSource .workerFailed "controller runtime cleanup failed" (.cleanup error)

def mapDeliveryError : CommandDeliveryError → PublicError
  | .missingResponse => .new .workerFailed "controller worker could not deliver a command result"

def mapWorkerFailure : WorkerFailureCause → PublicError
  | .core error => mapWorkerCoreError error
  | .wait _ => .new .workerFailed "controller worker wait source terminated"
  | .commandDelivery error => mapDeliveryError error
  | .panicked => .new .workerFailed "controller worker thread panicked"
  | .completionDisconnected => .new .workerFailed "controller worker completion channel disconnected"

/-- The errors in a row as one chain. -/
def foldErrors : List PublicError → Except ErrorChain Unit
  | [] => .ok ()
  | first :: rest => .error (rest.foldl (fun chain error => chain.withRelated (.single error)) (.single first))

def relate (chain : ErrorChain) : Option PublicError → ErrorChain
  | none => chain
  | some error => chain.withRelated (.single error)

def mapWorkerOutcome : WorkerThreadOutcome → Except ErrorChain Unit
  | .closed result deliveryError =>
    let (cleanupError, joinError) : Option CleanupFailure × Option WorkerJoinError := match result with
      | .ok () => (none, none)
      | .error (.cleanup cleanup) => (some cleanup, none)
      | .error (.join join) => (none, some join)
      | .error (.cleanupAndJoin cleanup join) => (some cleanup, some join)
    foldErrors (List.flatMap Option.toList
      [cleanupError.map mapCleanupError, deliveryError.map mapDeliveryError, joinError.map mapJoinError])
  | .failed cause deliveryError cleanupError joinError =>
    .error (relate (relate (relate (.single (mapWorkerFailure cause)) (deliveryError.map mapDeliveryError))
      (cleanupError.map mapCleanupError)) (joinError.map mapJoinError))

/-! ## What the chains list -/

theorem toList_relate (chain : ErrorChain) (error : Option PublicError) :
    (relate chain error).toList = chain.toList ++ error.toList := by
  cases error with
  | none => exact (List.append_nil _).symm
  | some error => rfl

/-- The errors that a result lists. -/
def listedErrors : Except ErrorChain Unit → List PublicError
  | .ok () => []
  | .error chain => chain.toList

/-- A failed worker lists its cause and then what failed after it. -/
theorem listedErrors_failed (cause : WorkerFailureCause) (deliveryError : Option CommandDeliveryError)
    (cleanupError : Option CleanupFailure) (joinError : Option WorkerJoinError) :
    listedErrors (mapWorkerOutcome (.failed cause deliveryError cleanupError joinError)) =
      mapWorkerFailure cause :: ((deliveryError.map mapDeliveryError).toList ++
        (cleanupError.map mapCleanupError).toList ++ (joinError.map mapJoinError).toList) := by
  change ErrorChain.toList (relate _ _) = _
  rw [toList_relate, toList_relate, toList_relate, ErrorChain.toList_single]
  simp only [List.append_assoc, List.cons_append, List.nil_append]

end Swbt
