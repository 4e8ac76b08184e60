import Swbt.Controller.Create
import Swbt.Effects.Resident
/-!
# The calls of a controller

A `Controller` owns at most one runtime. Its calls open the runtime, exchange
commands for responses with it and finish it; the runtime is the environment
they run in here.
-/

set_option autoImplicit false

open Effects

namespace Swbt

variable {m : ControllerKind} {r : ReportingKind}

/-! ## The runtime -/

/-- `exchange` is `try_enqueue` and the `recv` after it. -/
inductive RuntimeOp (m : ControllerKind) (r : ReportingKind)
  | openRuntime
  | exchange (command : RuntimeCommand m r)
  | finishExplicit (mode : CloseMode)

abbrev Exchanged := Except CommandEnqueueError (Except CommandResponseError CommandResult)

abbrev RuntimeOp.Ans : RuntimeOp m r → Type
  | .openRuntime => Except ErrorChain Unit
  | .exchange _ => Exchanged
  | .finishExplicit _ => WorkerThreadOutcome

def RuntimeCalls (m : ControllerKind) (r : ReportingKind) : Interface := ⟨RuntimeOp m r, RuntimeOp.Ans, StatusCall m⟩

/-- A `Controller`, less its settings and the status it shares: whether it has a runtime. -/
structure Controller where
  runtime : Bool

abbrev Calling (m : ControllerKind) (r : ReportingKind) := Act (RuntimeCalls m r) Controller

/-- What the caller is told of an exchange. -/
def Exchanged.told : Exchanged → Except ErrorChain Unit
  | .error error => .error (.single (mapEnqueueError error))
  | .ok (.error error) => .error (.single (mapResponseError error))
  | .ok (.ok (.error error)) => .error (.single (mapCommandError error))
  | .ok (.ok (.ok ())) => .ok ()

theorem Exchanged.told_error {answer : Exchanged} (hfailed : answer ≠ .ok (.ok (.ok ()))) :
    ∃ error, told answer = .error error := by
  cases answer with
  | error error => exact ⟨_, rfl⟩
  | ok response =>
    cases response with
    | error error => exact ⟨_, rfl⟩
    | ok result =>
      cases result with
      | error error => exact ⟨_, rfl⟩
      | ok => exact absurd rfl hfailed

namespace ControllerRuntime

def openRuntime : Calling m r (Except ErrorChain Unit) := Act.perform (E := RuntimeCalls m r) RuntimeOp.openRuntime

def exchange (command : RuntimeCommand m r) : Calling m r Exchanged :=
  Act.perform (E := RuntimeCalls m r) (RuntimeOp.exchange command)

def finishExplicit (mode : CloseMode) : Calling m r WorkerThreadOutcome :=
  Act.perform (E := RuntimeCalls m r) (RuntimeOp.finishExplicit mode)

def send (command : RuntimeCommand m r) : Calling m r (Except ErrorChain Unit) := Exchanged.told <$> exchange command

def request (command : ReportingCommand m r) : Calling m r (Except ErrorChain Unit) := send (.input command)

/-- `validate_connection_timeout` before a connection command. -/
def validated (timeout : Duration) (call : Calling m r (Except ErrorChain Unit)) :
    Calling m r (Except ErrorChain Unit) :=
  if fitsProtocolTimestamp timeout = true then call else pure (.error (.single connectionTimeoutError))

def pair (timeout : Duration) : Calling m r (Except ErrorChain Unit) := validated timeout (send (.pair timeout))

def reconnect (timeout : Duration) : Calling m r (Except ErrorChain Unit) :=
  validated timeout (send (.reconnect timeout))

def close (mode : CloseMode) : Calling m r (Except ErrorChain Unit) := mapWorkerOutcome <$> finishExplicit mode

end ControllerRuntime

/-! ## The calls -/

structure ConnectOptions where
  timeout : Duration
  allowPairing : Bool

inductive ConnectionPath
  | reconnected | paired

def ErrorChain.kind (chain : ErrorChain) : ErrorKind := chain.first.error.kind

def notOpenError : PublicError := .new .transportClosed "controller runtime is not open"

/-- `Reporting::common`. -/
def ReportingCommand.common : (r : ReportingKind) → CommonCommand m → ReportingCommand m r
  | .periodic, command => .periodic (.common command)
  | .direct, command => .direct (.common command)

namespace Controller

/-- `runtime_mut` before a call of the runtime. -/
def runtimeMut (call : Calling m r (Except ErrorChain Unit)) : Calling m r (Except ErrorChain Unit) := do
  if (← Act.get).runtime then call else return .error (.single notOpenError)

def openWith : Calling m r (Except ErrorChain Unit) := do
  if (← Act.get).runtime then return .ok ()
  else
    match ← ControllerRuntime.openRuntime with
    | .error error => return .error error
    | .ok () =>
      Act.modify fun controller => { controller with runtime := true }
      return .ok ()

/-- The runtime is gone before the worker is finished. -/
def closeWithMode (mode : CloseMode) : Calling m r (Except ErrorChain Unit) := do
  if (← Act.get).runtime then
    Act.modify fun controller => { controller with runtime := false }
    ControllerRuntime.close mode
  else
    Act.emit (E := RuntimeCalls m r) (StatusCall.setLifecycle .closed)
    return .ok ()

def pair (timeout : Duration) : Calling m r (Except ErrorChain Unit) := runtimeMut (ControllerRuntime.pair timeout)

def reconnect (timeout : Duration) : Calling m r (Except ErrorChain Unit) :=
  runtimeMut (ControllerRuntime.reconnect timeout)

def connect (options : ConnectOptions) : Calling m r (Except ErrorChain ConnectionPath) := do
  match ← reconnect options.timeout with
  | .ok () => return .ok .reconnected
  | .error error =>
    if error.kind = .noBond ∧ options.allowPairing = true then
      match ← pair options.timeout with
      | .error error => return .error error
      | .ok () => return .ok .paired
    else return .error error

/-- `apply` and `send`, and what the other inputs come to. -/
def request (command : ReportingCommand m r) : Calling m r (Except ErrorChain Unit) :=
  runtimeMut (ControllerRuntime.request command)

def requestCommon (command : CommonCommand m) : Calling m r (Except ErrorChain Unit) := request (.common r command)

end Controller

/-- A public call: `press`, `release`, `tap` and `neutral` are `common`, and `apply` and `send` are `input`. -/
inductive Call (m : ControllerKind) (r : ReportingKind)
  | «open»
  | pair (timeout : Duration)
  | reconnect (timeout : Duration)
  | connect (options : ConnectOptions)
  | common (command : CommonCommand m)
  | input (command : ReportingCommand m r)
  | close (mode : CloseMode)

/-- Only `connect` returns something. -/
abbrev CallResult := Except ErrorChain (Option ConnectionPath)

def CallResult.done (result : Except ErrorChain Unit) : CallResult := result.map fun _ => none

def Call.run : Call m r → Calling m r CallResult
  | .open => CallResult.done <$> Controller.openWith
  | .pair timeout => CallResult.done <$> Controller.pair timeout
  | .reconnect timeout => CallResult.done <$> Controller.reconnect timeout
  | .connect options => (fun result => result.map some) <$> Controller.connect options
  | .common command => CallResult.done <$> Controller.requestCommon command
  | .input command => CallResult.done <$> Controller.request command
  | .close mode => CallResult.done <$> Controller.closeWithMode mode

/-- A controller as it is built, after these calls, the latest first. -/
inductive Used : List (Call m r × CallResult) → History (RuntimeCalls m r) Controller → Controller → Prop
  | built : Used [] [] ⟨false⟩
  | called {calls : List (Call m r × CallResult)} {h h' : History (RuntimeCalls m r) Controller}
      {controller controller' : Controller} {call : Call m r} {result : CallResult} (hused : Used calls h controller)
      (hexec : Prog.Exec (call.run controller) h h' controller' result) :
      Used ((call, result) :: calls) h' controller'

end Swbt
